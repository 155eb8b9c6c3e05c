import KiCore.Agent.Acp.ConfigOptions
import KiCore.Lib.Table

/-!
# ACP sessions

Port of the three layers of `AcpSession` in `session.rs`, what the user desires, what the agent was last
observed to have and what it advertises, with `plan_reconcile` over them. Left out are the session id and
whether the session is open, the lease of the setters, the prelude flag, the close reason, the domain
events, what is logged, and the parts of the advertised layer that no plan depends on.

`ReconcileItem` is what a plan has at most one action for. `mem_planReconcile` says what a plan is.
-/

namespace KiCore.Agent.Acp

open KiCore.Lib

structure PendingStartupConfigSeed where
  category : SessionConfigOptionCategory
  value : String
  deriving DecidableEq

structure Desired where
  modeId : Option String
  modelId : Option String
  configSelections : Table String String
  pendingStartupConfig : List PendingStartupConfigSeed

structure Observed where
  modeId : Option String
  modelId : Option String
  configCurrent : Table String String

structure Advertised where
  modes : Option SessionModeState
  models : Option LegacySessionModelState
  configOptions : Option (List SessionConfigOption)

structure AcpSession where
  desired : Desired
  observed : Observed
  advertised : Advertised

/-- Actions the session driver must execute to align CLI state with user intent. -/
inductive ReconcileAction where
  | setMode (mode : String)
  | setModel (model : String)
  | setConfigOption (key value : String)
  deriving DecidableEq

inductive ReconcileItem where
  | mode
  | model
  | config (key : String)
  deriving DecidableEq

namespace ReconcileAction

def item : ReconcileAction → ReconcileItem
  | .setMode _ => .mode
  | .setModel _ => .model
  | .setConfigOption key _ => .config key

def value : ReconcileAction → String
  | .setMode mode => mode
  | .setModel model => model
  | .setConfigOption _ value => value

end ReconcileAction

namespace AcpSession

variable (s : AcpSession)

def desiredOf : ReconcileItem → Option String
  | .mode => s.desired.modeId
  | .model => s.desired.modelId
  | .config key => s.desired.configSelections[key]?

def observedOf : ReconcileItem → Option String
  | .mode => s.observed.modeId
  | .model => s.observed.modelId
  | .config key => s.observed.configCurrent[key]?

def configSnapshot : ConfigSnapshot :=
  match s.advertised.configOptions with
  | some options =>
    .fromRealOptionsWithRuntimeSupplements options s.advertised.modes s.advertised.models
  | none => .fromLegacyCatalogs s.advertised.modes s.advertised.models

def isModeValid (modeId : String) : Bool :=
  s.advertised.modes.all fun modes =>
    modes.availableModes = [] || modes.availableModes.any fun mode => mode.id = modeId

def isModelValid (modelId : String) : Bool :=
  s.advertised.models.all fun models =>
    models.availableModels = [] || models.availableModels.any fun model => model.modelId = modelId

def setDesiredMode (mode : String) : AcpSession :=
  if mode = "" || !s.isModeValid mode then s
  else { s with desired := { s.desired with modeId := some mode } }

def setDesiredModel (model : String) : AcpSession :=
  if model = "" || !s.isModelValid model then s
  else { s with desired := { s.desired with modelId := some model } }

def clearInvalidDesiredModel : AcpSession :=
  if s.desired.modelId.all s.isModelValid then s
  else { s with desired := { s.desired with modelId := none } }

def clearInvalidDesiredMode : AcpSession :=
  if s.desired.modeId.all s.isModeValid then s
  else { s with desired := { s.desired with modeId := none } }

def setDesiredConfig (key value : String) : AcpSession :=
  { s with desired := { s.desired with
      configSelections := s.desired.configSelections.insert key value } }

def seedPendingStartupConfig (seed : PendingStartupConfigSeed) : AcpSession :=
  if seed.value = "" || s.desired.pendingStartupConfig.contains seed then s
  else
    { s with desired := { s.desired with
        pendingStartupConfig := s.desired.pendingStartupConfig ++ [seed] } }

def clearLegacyDesiredForConfigCategory : SessionConfigOptionCategory → AcpSession
  | .mode => { s with desired := { s.desired with modeId := none } }
  | .model => { s with desired := { s.desired with modelId := none } }
  | .thoughtLevel | .other _ => s

def handleUnresolvedStartupConfigSeed (seed : PendingStartupConfigSeed)
    (optionWasAdvertised : Bool) : AcpSession :=
  match seed.category, optionWasAdvertised with
  -- old ACP implementations still use `set_mode` and `set_model`
  | .mode, false | .model, false => s
  | .mode, true | .model, true => s.clearLegacyDesiredForConfigCategory seed.category
  | .thoughtLevel, false => s.seedPendingStartupConfig seed
  | .thoughtLevel, true | .other _, _ => s

/-- The loop of `resolve_pending_startup_config_seeds_with_mode_normalizer` -/
def resolvePendingStartupConfigSeed (modeNormalizer : String → List String → String) (s : AcpSession)
    (seed : PendingStartupConfigSeed) : AcpSession :=
  match s.advertised.configOptions.bind (selectOptionForStartupSeed · seed.category) with
  | none => s.handleUnresolvedStartupConfigSeed seed false
  | some option =>
    let resolvedValue :=
      if seed.category = .mode then modeNormalizer seed.value (selectOptionValues option.kind)
      else seed.value
    if selectOptionContainsValue option.kind resolvedValue then
      (s.clearLegacyDesiredForConfigCategory seed.category).setDesiredConfig option.id resolvedValue
    else s.handleUnresolvedStartupConfigSeed seed true

def resolvePendingStartupConfigSeedsWithModeNormalizer
    (modeNormalizer : String → List String → String) : AcpSession :=
  s.desired.pendingStartupConfig.foldl (resolvePendingStartupConfigSeed modeNormalizer)
    { s with desired := { s.desired with pendingStartupConfig := [] } }

def applyObservedMode (mode : String) : AcpSession :=
  { s with
    observed := { s.observed with modeId := some mode }
    advertised := { s.advertised with
      modes := some ⟨mode, s.advertised.modes.elim [] SessionModeState.availableModes⟩ } }

def applyObservedModel (model : String) : AcpSession :=
  { s with
    observed := { s.observed with modelId := some model }
    advertised := { s.advertised with
      models := some ⟨model, s.advertised.models.elim [] LegacySessionModelState.availableModels⟩ } }

def confirmMode (mode : String) : AcpSession :=
  applyObservedMode { s with desired := { s.desired with modeId := some mode } } mode

def confirmModel (model : String) : AcpSession :=
  applyObservedModel { s with desired := { s.desired with modelId := some model } } model

def applyObservedConfig (key value : String) : AcpSession :=
  { s with observed := { s.observed with configCurrent := s.observed.configCurrent.insert key value } }

def preserveExistingModeCatalogIfEmpty (modes : SessionModeState) : SessionModeState :=
  if modes.availableModes = [] then
    { modes with availableModes := s.advertised.modes.elim [] SessionModeState.availableModes }
  else modes

variable (models : LegacySessionModelState)

def preserveExistingModelCatalogIfEmpty : LegacySessionModelState :=
  if models.availableModels = [] then
    { models with
      availableModels := s.advertised.models.elim [] LegacySessionModelState.availableModels }
  else models

def applyAdvertisedModes (modes : SessionModeState) : AcpSession :=
  { s with
    observed := { s.observed with modeId := some modes.currentModeId }
    advertised := { s.advertised with modes := some (s.preserveExistingModeCatalogIfEmpty modes) } }

def applyAdvertisedModels : AcpSession :=
  { s with
    observed := { s.observed with modelId := some models.currentModelId }
    advertised := { s.advertised with models := some (s.preserveExistingModelCatalogIfEmpty models) } }

def preserveDesiredModelInCatalog : LegacySessionModelState :=
  match s.desired.modelId with
  | some desired =>
    if models.availableModels.any fun model => model.modelId = desired then
      { models with currentModelId := desired }
    else models
  | none => models

def observeConfigOptions (options : List SessionConfigOption) : AcpSession :=
  options.foldl (fun s option =>
    (extractConfigCurrentValue option.kind).elim s fun current => s.applyObservedConfig option.id current) s

def applyAdvertisedConfigOptions (options : List SessionConfigOption) : AcpSession :=
  let options := mergeConfigOptions s.advertised.configOptions options
  let s := (deriveModesFromConfigOptions options).elim s s.applyAdvertisedModes
  let s := (deriveModelsFromConfigOptions options).elim s fun models =>
    s.applyAdvertisedModels (s.preserveDesiredModelInCatalog models)
  let s := s.observeConfigOptions options
  { s with advertised := { s.advertised with configOptions := some options } }

/-- The selections are a hash map, which iterates in any order. -/
def planReconcile (order : IterOrder (String × String)) : List ReconcileAction :=
  ((s.desired.modeId.filter fun mode => s.observed.modeId ≠ some mode).map .setMode).toList ++
    ((s.desired.modelId.filter fun model => s.observed.modelId ≠ some model).map .setModel).toList ++
    ((order.arrange s.desired.configSelections.toList).filter fun (key, value) =>
      s.observed.configCurrent[key]? ≠ some value).map fun (key, value) => .setConfigOption key value

variable {s : AcpSession} {order : IterOrder (String × String)} {action : ReconcileAction}

lemma mem_planReconcile : action ∈ s.planReconcile order ↔
    s.desiredOf action.item = some action.value ∧ s.observedOf action.item ≠ some action.value := by
  cases action with
  | setMode mode => simp [planReconcile, desiredOf, observedOf, ReconcileAction.item, ReconcileAction.value]
  | setModel model =>
    simp [planReconcile, desiredOf, observedOf, ReconcileAction.item, ReconcileAction.value]
  | setConfigOption key value =>
    simp [planReconcile, desiredOf, observedOf, ReconcileAction.item, ReconcileAction.value,
      Std.TreeMap.mem_toList_iff_getElem?_eq_some]

lemma planReconcile_eq_nil
    (aligned : ∀ item, ∀ chosen ∈ s.desiredOf item, s.observedOf item = some chosen) :
    s.planReconcile order = [] := by
  rw [List.eq_nil_iff_forall_not_mem]
  intro action mem
  obtain ⟨desired, drifted⟩ := mem_planReconcile.mp mem
  exact drifted (aligned action.item action.value desired)

lemma nodup_planReconcile : ((s.planReconcile order).map ReconcileAction.item).Nodup := by
  have keys : (order.arrange s.desired.configSelections.toList).Pairwise fun a b => a.1 ≠ b.1 := by
    refine List.pairwise_map.mp (((order.perm _).map Prod.fst).nodup_iff.mpr ?_)
    rw [Std.TreeMap.map_fst_toList_eq_keys]
    exact s.desired.configSelections.nodup_keys
  rw [planReconcile, List.map_append, List.map_append, List.map_map]
  generalize s.desired.modeId.filter _ = mode
  generalize s.desired.modelId.filter _ = model
  refine List.Nodup.append (List.Nodup.append ?_ ?_ ?_) ?_ ?_
  · cases mode <;> simp
  · cases model <;> simp
  · cases mode <;> cases model <;> simp [ReconcileAction.item]
  · exact List.pairwise_map.mpr ((keys.filter _).imp fun ne same => ne (ReconcileItem.config.inj same))
  · cases mode <;> cases model <;> simp [ReconcileAction.item, Function.comp_def]

/-! What is observed does not change what is desired. -/

@[simp] lemma desired_applyAdvertisedModes {modes : SessionModeState} :
    (s.applyAdvertisedModes modes).desired = s.desired := rfl

@[simp] lemma desired_applyAdvertisedModels {models : LegacySessionModelState} :
    (s.applyAdvertisedModels models).desired = s.desired := rfl

lemma desired_observeConfigOptions (options : List SessionConfigOption) :
    (s.observeConfigOptions options).desired = s.desired := by
  refine List.foldlRecOn (motive := fun t : AcpSession => t.desired = s.desired) options _ rfl
    fun t same option _ => ?_
  cases extractConfigCurrentValue option.kind with
  | none => exact same
  | some current => exact same

lemma desired_applyAdvertisedConfigOptions (options : List SessionConfigOption) :
    (s.applyAdvertisedConfigOptions options).desired = s.desired := by
  rw [applyAdvertisedConfigOptions]
  cases deriveModesFromConfigOptions (mergeConfigOptions s.advertised.configOptions options) <;>
    cases deriveModelsFromConfigOptions (mergeConfigOptions s.advertised.configOptions options) <;>
      simp [desired_observeConfigOptions]

end AcpSession

end KiCore.Agent.Acp

import KiCore.Lib.Transition
import KiCore.Agent.Acp.Reconcile

/-!
# Reconciling attempts what has drifted, once

A call ends after a bounded number of its own steps (`remaining_next`), but a follow-up plan lists again
whatever an answer has not shown, except for the one action that is answered. So two config items whose
answers do not show the new value are sent in turn until the limit, and what else has drifted is never
sent. The actions that wait are not compared with the session again: what the user has chosen meanwhile, and
what the agent no longer offers, is sent all the same. Values of config options are not compared with what
is offered at all.
-/

namespace KiCore.Agent.Acp

open KiCore.Lib

variable {s : AcpAgentManager} {session session' : AcpSession} {metadata : AgentMetadata}
  {call : ReconcileCall} {action : ReconcileAction} {actions : List ReconcileAction}
  {order : IterOrder (String × String)} {e : ReconcileEvent} {events : List ReconcileEvent}

/-- The agent offers the value, or has no catalogue for the item. -/
def AcpSession.Advertises (session : AcpSession) : ReconcileItem → String → Prop
  | .mode, value => session.isModeValid value
  | .model, value => session.isModelValid value
  | .config key, value =>
    session.configSnapshot.selectableValues key = [] ∨ value ∈ session.configSnapshot.selectableValues key

instance {item : ReconcileItem} {value : String} : Decidable (session.Advertises item value) := by
  unfold AcpSession.Advertises
  split <;> infer_instance

structure Sending where
  call : ReconcileCall
  action : ReconcileAction
  value : String

namespace AcpAgentManager

def sends (s : AcpAgentManager) : ReconcileEvent → Option Sending
  | .nextAction => do
    let call ← s.ready
    let action ← call.actions.head?
    if call.executedActions < MAX_RECONCILE_ACTIONS then
      let value ← s.session.resolvedValue s.metadata action
      return { call, action, value }
    else none
  | _ => none

/-- The event is one of the call's own steps. -/
def drives (s : AcpAgentManager) : ReconcileEvent → Bool
  | .nextAction => s.ready.isSome
  | .acked _ _ | .failed | .sessionNotFound => s.waiting.isSome
  | .reconcileSession _ | .user _ | .agent _ => false

/-- How many steps a call has left at most. -/
def remaining (s : AcpAgentManager) : Nat :=
  s.reconcile.elim 0 fun call =>
    2 * (MAX_RECONCILE_ACTIONS - call.executedActions) + if call.awaiting.isSome then 2 else 1

structure Converges (s : AcpAgentManager) (e : ReconcileEvent) : Prop where
  terminates : s.drives e → (s.next e).remaining < s.remaining
  undisturbed : s.reconcile.isSome → s.drives e = false → (s.next e).remaining = s.remaining
  attempts : (s.next e).reconcile = none → e ≠ .sessionNotFound →
    ∀ call ∈ s.reconcile, ∀ item ∈ call.planned, item ∈ call.attempted
  once : ∀ sent ∈ s.sends e, sent.action.item ∉ sent.call.attempted
  advertised : ∀ sent ∈ s.sends e, s.session.Advertises sent.action.item sent.value
  current : ∀ sent ∈ s.sends e, ∀ chosen ∈ s.session.desiredOf sent.action.item,
    chosen = sent.action.value
  aligned : (∀ item, ∀ chosen ∈ (s.next e).session.desiredOf item,
      (s.next e).session.observedOf item = some chosen) →
    ∀ order, (s.next e).session.planReconcile order = []

end AcpAgentManager

/-- What an action would send, the agent offers. -/
def AcpSession.Fits (metadata : AgentMetadata) (session : AcpSession) (action : ReconcileAction) : Prop :=
  ∃ value ∈ session.resolvedValue metadata action, session.Advertises action.item value

instance : Decidable (session.Fits metadata action) := inferInstanceAs (Decidable (∃ _ ∈ _, _))

namespace AcpAgentManager

/-- What is planned is on offer, and an answer leaves nothing drifted that the call has attempted, but for
the very action that it answers. While an action waits, the user keeps its value and the agent keeps
offering it. No action waits when the limit is reached. -/
def Heeded (s : AcpAgentManager) : ReconcileEvent → Prop
  | .reconcileSession order => s.reconcile = none →
    ∀ action ∈ (s.session.prepare s.metadata).planReconcile order,
      action.item ≠ .model → (s.session.prepare s.metadata).Fits s.metadata action
  | .nextAction => ∀ call ∈ s.ready, call.actions ≠ [] → call.executedActions < MAX_RECONCILE_ACTIONS
  | .acked configOptions order => ∀ waiting ∈ s.waiting, waiting.2.item ≠ .mode → waiting.2.item ≠ .model →
    ∀ action ∈ (s.answered configOptions).planReconcile order, action ≠ waiting.2 →
      action.item ∉ waiting.1.attempted ∧
        (action.item ≠ .model → (s.answered configOptions).Fits s.metadata action)
  | .failed | .sessionNotFound => True
  | .user change => ∀ call ∈ s.reconcile, ∀ action ∈ call.actions,
    ∀ chosen ∈ (change.apply s.session).desiredOf action.item, chosen = action.value
  | .agent update => ∀ call ∈ s.reconcile, ∀ action ∈ call.actions,
    (update.apply s.session).Fits s.metadata action

instance : Decidable (s.Heeded e) := by
  unfold Heeded
  split <;> infer_instance

end AcpAgentManager

namespace AcpSession

structure SameCatalogs (session session' : AcpSession) : Prop where
  modes : ∀ mode, session'.isModeValid mode = session.isModeValid mode
  models : ∀ model, session'.isModelValid model = session.isModelValid model
  values : ∀ optionId, session'.configSnapshot.selectableValues optionId =
    session.configSnapshot.selectableValues optionId

lemma SameCatalogs.of_advertised (same : session'.advertised = session.advertised) :
    session.SameCatalogs session' where
  modes _ := by rw [isModeValid, same, isModeValid]
  models _ := by rw [isModelValid, same, isModelValid]
  values _ := by rw [configSnapshot, same, configSnapshot]

lemma Fits.of_same (same : session.SameCatalogs session') (fits : session.Fits metadata action) :
    session'.Fits metadata action := by
  obtain ⟨value, resolved, advertised⟩ := fits
  refine ⟨value, ?_, ?_⟩
  · cases action with
    | setMode mode => rwa [resolvedValue, normalizedMode, same.values]
    | setModel model => exact resolved
    | setConfigOption key value => rwa [resolvedValue, normalizedMode, same.values]
  · cases action with
    | setMode mode => exact (same.modes value).trans advertised
    | setModel model => exact (same.models value).trans advertised
    | setConfigOption key chosen =>
      show _ = [] ∨ value ∈ _
      rwa [same.values]

lemma sameCatalogs_applyObservedMode (mode : String) :
    session.SameCatalogs (session.applyObservedMode mode) where
  modes _ := by
    cases modes : session.advertised.modes <;> simp [isModeValid, applyObservedMode, modes]
  models _ := rfl
  values optionId := by
    rw [configSnapshot, configSnapshot]
    cases modes : session.advertised.modes with
    | some known => simp [applyObservedMode, modes, dtoFromModes, ConfigSnapshot.fromLegacyCatalogs,
        ConfigSnapshot.fromRealOptionsWithRuntimeSupplements]
    | none =>
      cases options : session.advertised.configOptions with
      | some options => simp [applyObservedMode, options, modes, dtoFromModes, ConfigSnapshot.supplement,
          ConfigSnapshot.fromRealOptionsWithRuntimeSupplements, Option.filter_some]
      | none =>
        by_cases named : "mode" = optionId
        · subst named
          cases models : session.advertised.models <;>
            simp [applyObservedMode, options, modes, models, dtoFromModes, dtoFromModels,
              ConfigSnapshot.fromLegacyCatalogs, ConfigSnapshot.selectableValues]
        · cases models : session.advertised.models <;>
            simp [applyObservedMode, options, modes, models, named, dtoFromModes,
              ConfigSnapshot.fromLegacyCatalogs, ConfigSnapshot.selectableValues]

lemma sameCatalogs_applyObservedModel (model : String) :
    session.SameCatalogs (session.applyObservedModel model) where
  modes _ := rfl
  models _ := by
    cases models : session.advertised.models <;> simp [isModelValid, applyObservedModel, models]
  values optionId := by
    rw [configSnapshot, configSnapshot]
    cases models : session.advertised.models with
    | some known => simp [applyObservedModel, models, dtoFromModels, ConfigSnapshot.fromLegacyCatalogs,
        ConfigSnapshot.fromRealOptionsWithRuntimeSupplements]
    | none =>
      cases options : session.advertised.configOptions with
      | some options => simp [applyObservedModel, options, models, dtoFromModels, ConfigSnapshot.supplement,
          ConfigSnapshot.fromRealOptionsWithRuntimeSupplements, Option.filter_some]
      | none =>
        by_cases named : "model" = optionId
        · subst named
          cases modes : session.advertised.modes <;>
            simp [applyObservedModel, options, modes, models, dtoFromModes, dtoFromModels,
              ConfigSnapshot.fromLegacyCatalogs, ConfigSnapshot.selectableValues]
        · cases modes : session.advertised.modes <;>
            simp [applyObservedModel, options, modes, models, named, dtoFromModels, List.find?_cons,
              ConfigSnapshot.fromLegacyCatalogs, ConfigSnapshot.selectableValues]

lemma sameCatalogs_user (change : UserChange) : session.SameCatalogs (change.apply session) := by
  cases change with
  | confirmMode mode =>
    have same : session.SameCatalogs _ := sameCatalogs_applyObservedMode mode
    exact ⟨same.modes, same.models, same.values⟩
  | confirmModel model =>
    have same : session.SameCatalogs _ := sameCatalogs_applyObservedModel model
    exact ⟨same.modes, same.models, same.values⟩
  | setDesiredMode mode =>
    refine .of_advertised ?_
    rw [UserChange.apply, setDesiredMode]
    split_ifs <;> rfl
  | setDesiredModel model =>
    refine .of_advertised ?_
    rw [UserChange.apply, setDesiredModel]
    split_ifs <;> rfl
  | setDesiredConfig key value => exact .of_advertised rfl

lemma sameCatalogs_adopt (resolved : String) (action : ReconcileAction) :
    session.SameCatalogs (session.adopt resolved action) := by
  refine .of_advertised ?_
  cases action with
  | setMode mode => rfl
  | setModel model => rfl
  | setConfigOption key value =>
    rw [adopt]
    split_ifs <;> rfl

lemma desiredOf_adopt (resolved : String) {item : ReconcileItem} (other : item ≠ action.item) :
    (session.adopt resolved action).desiredOf item = session.desiredOf item := by
  cases action with
  | setMode mode => rfl
  | setModel model => rfl
  | setConfigOption key value =>
    rw [adopt]
    split_ifs
    · cases item with
      | mode => rfl
      | model => rfl
      | config name =>
        have ne : key ≠ name := fun same => other (same ▸ rfl)
        rw [desiredOf, setDesiredConfig, Table.get_insert, if_neg ne, desiredOf]
    · rfl

lemma desired_agent (update : AgentUpdate) : (update.apply session).desired = session.desired := by
  cases update with
  | advertisedConfigOptions options => exact desired_applyAdvertisedConfigOptions options
  | _ => rfl

lemma desiredOf_congr (same : session'.desired = session.desired) (item : ReconcileItem) :
    session'.desiredOf item = session.desiredOf item := by
  cases item <;> simp [desiredOf, same]

lemma modelValid_clearInvalid {model : String}
    (desired : session.clearInvalidDesiredModel.desired.modelId = some model) :
    session.clearInvalidDesiredModel.isModelValid model := by
  rw [clearInvalidDesiredModel] at desired ⊢
  split_ifs at desired ⊢ with valid
  rw [desired] at valid
  exact valid

lemma fits_plan (mem : action ∈ (session.prepare metadata).planReconcile order)
    (heeded : action.item ≠ .model → (session.prepare metadata).Fits metadata action) :
    (session.prepare metadata).Fits metadata action := by
  cases action with
  | setMode mode => exact heeded nofun
  | setModel model => exact ⟨model, rfl, modelValid_clearInvalid (mem_planReconcile.mp mem).1⟩
  | setConfigOption key value => exact heeded nofun

end AcpSession

/-- What waits has not been attempted, is still wanted and on offer; and what was planned and has not been
attempted waits. -/
structure Tracked (metadata : AgentMetadata) (session : AcpSession) (call : ReconcileCall) : Prop where
  nodup : (call.actions.map ReconcileAction.item).Nodup
  fresh : ∀ action ∈ call.actions, action.item ∉ call.attempted
  covers : ∀ item ∈ call.planned, item ∈ call.attempted ∨ item ∈ call.actions.map ReconcileAction.item
  current : ∀ action ∈ call.actions, ∀ chosen ∈ session.desiredOf action.item, chosen = action.value
  fits : ∀ action ∈ call.actions, session.Fits metadata action
  awaited : ∀ action ∈ call.awaiting, action.item ∈ call.attempted

def AcpAgentManager.Tracks (s : AcpAgentManager) : Prop :=
  ∀ call ∈ s.reconcile, Tracked s.metadata s.session call

namespace AcpAgentManager

lemma tracks_start : (start metadata session).Tracks := nofun

lemma ready_eq_some : s.ready = some call ↔ s.reconcile = some call ∧ call.awaiting = none := by
  simp [ready, Option.filter_eq_some_iff]

lemma waiting_eq_some : s.waiting = some (call, action) ↔
    s.reconcile = some call ∧ call.awaiting = some action := by
  simp only [waiting, Option.bind_eq_bind, Option.bind_eq_some_iff]
  constructor
  · rintro ⟨running, found, sent, awaited, same⟩
    obtain ⟨rfl, rfl⟩ := Prod.mk.inj (Option.some.inj same)
    exact ⟨found, awaited⟩
  · rintro ⟨found, awaited⟩
    exact ⟨call, found, action, awaited, rfl⟩

/-- What the loop does up to the next request. -/
inductive Advanced (s : AcpAgentManager) (call : ReconcileCall) : AcpAgentManager → Prop where
  | done : call.actions = [] → Advanced s call { s with reconcile := none }
  | limit {action : ReconcileAction} {actions : List ReconcileAction} :
    call.actions = action :: actions →
    MAX_RECONCILE_ACTIONS ≤ call.executedActions → Advanced s call { s with reconcile := none }
  | blank {action : ReconcileAction} {actions : List ReconcileAction} :
    call.actions = action :: actions →
    call.executedActions < MAX_RECONCILE_ACTIONS → s.session.resolvedValue s.metadata action = none →
    Advanced s call { s with
      reconcile := some { call with actions, executedActions := call.executedActions + 1 } }
  | sent {action : ReconcileAction} {actions : List ReconcileAction} {resolved : String} :
    call.actions = action :: actions →
    call.executedActions < MAX_RECONCILE_ACTIONS →
    s.session.resolvedValue s.metadata action = some resolved →
    Advanced s call { s with
      session := s.session.adopt resolved action
      reconcile := some { call with
        actions, executedActions := call.executedActions + 1, awaiting := some action
        attempted := call.attempted ++ [action.item] } }

lemma nextAction_advanced (s : AcpAgentManager) (call : ReconcileCall) :
    Advanced s call (s.nextAction call) := by
  rw [nextAction]
  split
  case h_1 empty => exact .done empty
  case h_2 action actions taken =>
    dsimp only
    split_ifs with reached
    · exact .limit taken (Nat.le_of_lt_succ reached)
    · have within := Nat.lt_of_succ_le (Nat.le_of_not_lt reached)
      split
      case h_1 blank => exact .blank taken within blank
      case h_2 resolved sends => exact .sent taken within sends

end AcpAgentManager

lemma Tracked.reconcileSession (heeded : ∀ action ∈ (session.prepare metadata).planReconcile order,
      action.item ≠ .model → (session.prepare metadata).Fits metadata action) :
    Tracked metadata (session.prepare metadata)
      { actions := (session.prepare metadata).planReconcile order, executedActions := 0, awaiting := none
        planned := ((session.prepare metadata).planReconcile order).map ReconcileAction.item
        attempted := [] } where
  nodup := AcpSession.nodup_planReconcile
  fresh _ _ := List.not_mem_nil
  covers _ mem := .inr mem
  current action mem chosen desired := by
    rw [(AcpSession.mem_planReconcile.mp mem).1] at desired
    exact (Option.some.inj desired).symm
  fits action mem := AcpSession.fits_plan mem (heeded action mem)
  awaited := nofun

lemma Tracked.followup (h : Tracked s.metadata s.session call) (awaited : call.awaiting = some action)
    {configOptions : List SessionConfigOption}
    (heeded : ∀ next ∈ (s.answered configOptions).planReconcile order, next ≠ action →
      next.item ∉ call.attempted ∧
        (next.item ≠ .model → (s.answered configOptions).Fits s.metadata next)) :
    Tracked s.metadata (s.answered configOptions)
      { call with
        actions := ((s.answered configOptions).planReconcile order).filter (· ≠ action), awaiting := none
        planned := ((s.answered configOptions).planReconcile order).map ReconcileAction.item } where
  nodup := AcpSession.nodup_planReconcile.sublist (List.filter_sublist.map _)
  fresh next mem := by
    obtain ⟨planned, other⟩ := List.mem_filter.mp mem
    exact (heeded next planned (of_decide_eq_true other)).1
  covers item mem := by
    obtain ⟨next, planned, rfl⟩ := List.mem_map.mp mem
    by_cases same : next = action
    · subst same
      exact .inl (h.awaited next awaited)
    · exact .inr (List.mem_map_of_mem (List.mem_filter.mpr ⟨planned, decide_eq_true same⟩))
  current next mem chosen desired := by
    rw [(AcpSession.mem_planReconcile.mp (List.mem_of_mem_filter mem)).1] at desired
    exact (Option.some.inj desired).symm
  fits next mem := by
    obtain ⟨planned, other⟩ := List.mem_filter.mp mem
    exact AcpSession.fits_plan planned (heeded next planned (of_decide_eq_true other)).2
  awaited := nofun

section

variable (h : Tracked metadata session call)
include h

lemma Tracked.sent (taken : call.actions = action :: actions) (resolved : String) :
    Tracked metadata (session.adopt resolved action)
      { call with
        actions, executedActions := call.executedActions + 1, awaiting := some action
        attempted := call.attempted ++ [action.item] } := by
  obtain ⟨nodup, fresh, covers, current, fits, awaited⟩ := h
  rw [taken] at nodup fresh covers current fits
  rw [List.map_cons, List.nodup_cons] at nodup
  have other : ∀ next ∈ actions, next.item ≠ action.item := fun next mem same =>
    nodup.1 (same ▸ List.mem_map_of_mem mem)
  refine ⟨nodup.2, fun next mem old => ?_, fun item planned => ?_, fun next mem chosen desired => ?_,
    fun next mem => ?_, ?_⟩
  · obtain old | old := List.mem_append.mp old
    · exact fresh next (List.mem_cons_of_mem _ mem) old
    · exact other next mem (List.mem_singleton.mp old)
  · obtain old | waits := covers item planned
    · exact .inl (List.mem_append_left _ old)
    · obtain rfl | waits := List.mem_cons.mp waits
      · exact .inl (List.mem_append_right _ List.mem_cons_self)
      · exact .inr waits
  · rw [AcpSession.desiredOf_adopt resolved (other next mem)] at desired
    exact current next (List.mem_cons_of_mem _ mem) chosen desired
  · exact (fits next (List.mem_cons_of_mem _ mem)).of_same (AcpSession.sameCatalogs_adopt resolved action)
  · rintro _ ⟨⟩
    exact List.mem_append_right _ List.mem_cons_self

lemma Tracked.answered : Tracked metadata session { call with awaiting := none } :=
  ⟨h.nodup, h.fresh, h.covers, h.current, h.fits, nofun⟩

lemma Tracked.moved
    (current : ∀ action ∈ call.actions, ∀ chosen ∈ session'.desiredOf action.item, chosen = action.value)
    (fits : ∀ action ∈ call.actions, session'.Fits metadata action) : Tracked metadata session' call :=
  ⟨h.nodup, h.fresh, h.covers, current, fits, h.awaited⟩

end

namespace AcpAgentManager

lemma Tracks.next (h : s.Tracks) (heeded : s.Heeded e) : (s.next e).Tracks := by
  cases e with
  | reconcileSession order =>
    rw [AcpAgentManager.next]
    split_ifs with running
    · exact h
    · rintro _ ⟨⟩
      exact .reconcileSession (heeded (Option.not_isSome_iff_eq_none.mp running))
  | nextAction =>
    rw [AcpAgentManager.next]
    cases ready : s.ready with
    | none => exact h
    | some call =>
      obtain ⟨running, idle⟩ := ready_eq_some.mp ready
      have tracked := h call running
      have step := nextAction_advanced s call
      show (s.nextAction call).Tracks
      generalize s.nextAction call = t at step ⊢
      cases step with
      | done empty => rintro _ ⟨⟩
      | limit taken reached => rintro _ ⟨⟩
      | blank taken within blank =>
        obtain ⟨value, resolved, -⟩ := tracked.fits _ (taken ▸ List.mem_cons_self)
        rw [blank] at resolved
        cases resolved
      | sent taken within resolved =>
        rintro _ ⟨⟩
        exact tracked.sent taken _
  | acked configOptions order =>
    rw [AcpAgentManager.next]
    cases waiting : s.waiting with
    | none => exact h
    | some waits =>
      obtain ⟨call, action⟩ := waits
      obtain ⟨running, awaited⟩ := waiting_eq_some.mp waiting
      have tracked := h call running
      cases action with
      | setMode mode =>
        rintro _ ⟨⟩
        exact tracked.answered
      | setModel model =>
        rintro _ ⟨⟩
        exact tracked.answered
      | setConfigOption key value =>
        rintro _ ⟨⟩
        exact tracked.followup awaited
          (heeded _ waiting (by simp [ReconcileAction.item]) (by simp [ReconcileAction.item]))
  | failed =>
    rw [AcpAgentManager.next]
    cases waiting : s.waiting with
    | none => exact h
    | some waits =>
      rintro _ ⟨⟩
      exact (h waits.1 (waiting_eq_some.mp waiting).1).answered
  | sessionNotFound =>
    rw [AcpAgentManager.next]
    cases waiting : s.waiting with
    | none => exact h
    | some waits => rintro _ ⟨⟩
  | user change =>
    intro call running
    have tracked := h call running
    exact tracked.moved (heeded call running) fun action mem =>
      (tracked.fits action mem).of_same (AcpSession.sameCatalogs_user change)
  | agent update =>
    intro call running
    have tracked := h call running
    have same := AcpSession.desiredOf_congr (@AcpSession.desired_agent s.session update)
    exact tracked.moved (fun action mem chosen desired =>
      tracked.current action mem chosen ((same action.item).symm.trans desired)) (heeded call running)

lemma sends_eq_some {sent : Sending} (sends : s.sends e = some sent) : s.reconcile = some sent.call ∧
    sent.action ∈ sent.call.actions ∧
      s.session.resolvedValue s.metadata sent.action = some sent.value := by
  cases e with
  | nextAction =>
    simp only [AcpAgentManager.sends, Option.bind_eq_bind, Option.bind_eq_some_iff] at sends
    obtain ⟨call, ready, action, head, sends⟩ := sends
    split_ifs at sends
    obtain ⟨value, resolved, same⟩ := Option.bind_eq_some_iff.mp sends
    cases same
    exact ⟨(ready_eq_some.mp ready).1, List.mem_of_mem_head? head, resolved⟩
  | _ => cases sends

lemma remaining_next (drives : s.drives e) : (s.next e).remaining < s.remaining := by
  cases e with
  | nextAction =>
    obtain ⟨call, ready⟩ := Option.isSome_iff_exists.mp drives
    obtain ⟨running, idle⟩ := ready_eq_some.mp ready
    rw [AcpAgentManager.next, ready]
    have step := nextAction_advanced s call
    show (s.nextAction call).remaining < _
    generalize s.nextAction call = t at step ⊢
    cases step <;> simp [remaining, running, idle] <;> omega
  | acked configOptions order =>
    obtain ⟨⟨call, action⟩, waiting⟩ := Option.isSome_iff_exists.mp drives
    obtain ⟨running, awaited⟩ := waiting_eq_some.mp waiting
    rw [AcpAgentManager.next, waiting]
    cases action <;> simp [acked, ackedConfigOption, remaining, running, awaited]
  | failed =>
    obtain ⟨⟨call, action⟩, waiting⟩ := Option.isSome_iff_exists.mp drives
    obtain ⟨running, awaited⟩ := waiting_eq_some.mp waiting
    rw [AcpAgentManager.next, waiting]
    simp [remaining, running, awaited]
  | sessionNotFound =>
    obtain ⟨⟨call, action⟩, waiting⟩ := Option.isSome_iff_exists.mp drives
    obtain ⟨running, awaited⟩ := waiting_eq_some.mp waiting
    rw [AcpAgentManager.next, waiting]
    simp [remaining, running, awaited]
  | _ => cases drives

lemma next_of_not_drives (running : s.reconcile.isSome) (others : s.drives e = false) :
    (s.next e).reconcile = s.reconcile := by
  cases e with
  | reconcileSession order => rw [AcpAgentManager.next, if_pos running]
  | nextAction =>
    have none : s.ready = none := Option.not_isSome_iff_eq_none.mp (Bool.eq_false_iff.mp others)
    rw [AcpAgentManager.next, none, Option.elim_none]
  | acked configOptions order =>
    have none : s.waiting = none := Option.not_isSome_iff_eq_none.mp (Bool.eq_false_iff.mp others)
    rw [AcpAgentManager.next, none, Option.elim_none]
  | failed =>
    have none : s.waiting = none := Option.not_isSome_iff_eq_none.mp (Bool.eq_false_iff.mp others)
    rw [AcpAgentManager.next, none, Option.elim_none]
  | sessionNotFound =>
    have none : s.waiting = none := Option.not_isSome_iff_eq_none.mp (Bool.eq_false_iff.mp others)
    rw [AcpAgentManager.next, none, Option.elim_none]
  | user change => rfl
  | agent update => rfl

lemma Tracks.attempts (h : s.Tracks) (heeded : s.Heeded e) (ended : (s.next e).reconcile = none)
    (found : e ≠ .sessionNotFound) :
    ∀ call ∈ s.reconcile, ∀ item ∈ call.planned, item ∈ call.attempted := by
  intro call running item planned
  cases driven : s.drives e with
  | false =>
    rw [next_of_not_drives (Option.isSome_of_mem running) driven, running] at ended
    cases ended
  | true =>
    cases e with
    | nextAction =>
      obtain ⟨other, ready⟩ := Option.isSome_iff_exists.mp driven
      obtain rfl : other = call := Option.some.inj ((ready_eq_some.mp ready).1.symm.trans running)
      rw [AcpAgentManager.next, ready] at ended
      have step := nextAction_advanced s other
      change (s.nextAction other).reconcile = none at ended
      generalize s.nextAction other = t at step ended
      cases step with
      | done empty =>
        obtain attempted | waits := (h other running).covers item planned
        · exact attempted
        · rw [empty] at waits
          cases waits
      | limit taken reached =>
        have within := heeded other ready (taken ▸ List.cons_ne_nil _ _)
        exact absurd reached (Nat.not_le_of_lt within)
      | blank taken within blank => cases ended
      | sent taken within resolved => cases ended
    | acked configOptions order =>
      obtain ⟨⟨other, action⟩, waiting⟩ := Option.isSome_iff_exists.mp driven
      rw [AcpAgentManager.next, waiting] at ended
      cases action <;> cases ended
    | failed =>
      obtain ⟨waits, waiting⟩ := Option.isSome_iff_exists.mp driven
      rw [AcpAgentManager.next, waiting] at ended
      cases ended
    | sessionNotFound => exact absurd rfl found
    | _ => cases driven

lemma Tracks.law (h : s.Tracks) (heeded : s.Heeded e) : s.Converges e where
  terminates := remaining_next
  undisturbed running idle := by rw [remaining, next_of_not_drives running idle, remaining]
  attempts := h.attempts heeded
  once sent sends := by
    obtain ⟨running, mem, -⟩ := sends_eq_some sends
    exact (h sent.call running).fresh sent.action mem
  advertised sent sends := by
    obtain ⟨running, mem, resolved⟩ := sends_eq_some sends
    obtain ⟨value, sent, advertised⟩ := (h sent.call running).fits sent.action mem
    rw [resolved] at sent
    cases sent
    exact advertised
  current sent sends := by
    obtain ⟨running, mem, -⟩ := sends_eq_some sends
    exact (h sent.call running).current sent.action mem
  aligned aligned _ := AcpSession.planReconcile_eq_nil aligned

/-- Every run whose steps meet the condition attempts what has drifted, each item once, and sends what is
still desired and on offer. -/
theorem reconcile_converges (heeded : LTS.EnabledAll Heeded next (start metadata session) events) :
    LTS.EnabledAll Converges next (start metadata session) events :=
  heeded.imp (fun _ _ h c => ⟨h.law c, h.next c⟩) tracks_start

def effortOption (currentValue : String) : SessionConfigOption where
  id := "effort"
  category := some .thoughtLevel
  kind := .select ⟨currentValue, .ungrouped [⟨"medium", "Medium", none⟩, ⟨"high", "High", none⟩]⟩

/-- A session to be opened in another mode, with another model and an effort. -/
def startupSession : AcpSession where
  desired := ⟨some "plan", some "opus", ∅, [⟨.thoughtLevel, "high"⟩]⟩
  observed := ⟨some "build", none, ∅⟩
  advertised :=
    { modes := some ⟨"build", [⟨"build", "Build", none⟩, ⟨"plan", "Plan", none⟩]⟩
      models := none
      configOptions := some [effortOption "medium"] }

theorem reconcile_converges_startup : LTS.EnabledAll Converges next (start ⟨none, none⟩ startupSession)
    [.reconcileSession .id, .nextAction, .acked [] .id, .nextAction, .agent (.observedMode "plan"),
      .acked [] .id, .agent (.observedModel "opus"), .nextAction, .user (.confirmMode "build"),
      .acked [effortOption "high"] .id, .nextAction, .reconcileSession .id, .nextAction] :=
  reconcile_converges (by decide)

/-- A session that is to have two config values, of which the agent has reported nothing. -/
def twoDrifted : AcpSession where
  desired := ⟨none, none, ((∅ : Table String String).insert "effort" "high").insert "verbosity" "low", []⟩
  observed := ⟨none, none, ∅⟩
  advertised := ⟨none, none, none⟩

/-- Two config items whose answers show nothing are sent in turn. -/
theorem reconcile_repeats : ¬ ∀ metadata session events,
    LTS.EnabledAll Converges next (start metadata session) events := by
  intro h
  have once := (LTS.EnabledAll.last <| h ⟨none, none⟩ twoDrifted
    ([.reconcileSession .id, .nextAction, .acked [] .id, .nextAction, .acked [] .id] ++ [.nextAction])).once
  revert once
  decide

end AcpAgentManager

end KiCore.Agent.Acp

import KiCore.Lib.Keyed

/-!
# Extension states

Port of the maps of `state.rs`, of the parts of a manifest that a load reads, and of the helpers of
`registry_helpers.rs` and `lifecycle.rs`. Left out are the times of installations and activations: a
state says whether there is one. A state file holds what the maps hold.
-/

namespace KiCore.Extension

open KiCore.Lib

def SYSTEM_DEFAULT_USER_ID : String := "system_default_user"

structure ExtensionState where
  name : String
  version : String
  enabled : Bool
  /-- `installed_at` is set -/
  installed : Bool
  deriving DecidableEq

abbrev States : Type := List ExtensionState

def States.get (states : States) (name : String) : Option ExtensionState :=
  Keyed.lookup ExtensionState.name name states

structure UserOverride where
  userId : String
  name : String
  enabled : Bool
  deriving DecidableEq

structure UserStates where
  /-- there is an entry for the default user, which may be empty -/
  hasDefault : Bool
  overrides : List UserOverride
  deriving DecidableEq

namespace UserStates

variable (users : UserStates)

def getUserEnabled (userId name : String) : Option Bool :=
  (users.overrides.find? fun entry => entry.userId = userId && entry.name = name).map UserOverride.enabled

def setUserEnabled (userId name : String) (enabled : Bool) : UserStates where
  hasDefault := users.hasDefault || userId = SYSTEM_DEFAULT_USER_ID
  overrides := { userId, name, enabled } :: users.overrides

/-- The default user starts with the machine-level states. -/
def seed (states : States) : UserStates :=
  if users.hasDefault then users
  else
    { hasDefault := true
      overrides := states.map (fun state =>
        { userId := SYSTEM_DEFAULT_USER_ID, name := state.name,
          enabled := state.enabled }) ++ users.overrides }

def none : UserStates where
  hasDefault := false
  overrides := []

end UserStates

structure Manifest where
  name : String
  version : String
  onInstall : Option String
  onActivate : Option String
  contributes : List String

def resolveHookPath (hook : Option String) : Option String := hook.filter (· ≠ "")

variable (manifest : Manifest)

def Manifest.installs : Bool := (resolveHookPath manifest.onInstall).isSome

def Manifest.activates : Bool := (resolveHookPath manifest.onActivate).isSome

def needsInstallHook (currentVersion : String) : Option String → Bool
  | none => true
  | some previous => previous ≠ currentVersion

structure LoadedExtension where
  manifest : Manifest
  state : ExtensionState

def loadSingleExtension : LoadedExtension where
  manifest
  state := { name := manifest.name, version := manifest.version, enabled := true, installed := false }

def loadAll (manifests : List Manifest) : List Manifest :=
  manifests.foldl (fun result manifest =>
    if result.any fun other => other.name = manifest.name then result else result ++ [manifest]) []

def mergePersistedState (persisted : States) (ext : LoadedExtension) : LoadedExtension :=
  match persisted.get ext.manifest.name with
  | some saved =>
    { ext with state := { ext.state with enabled := saved.enabled, installed := saved.installed } }
  | none => ext

def mergePersistedStates (persisted : States) (extensions : List LoadedExtension) :
    List LoadedExtension :=
  extensions.map (mergePersistedState persisted)

def buildStateMap (extensions : List LoadedExtension) : States := extensions.map LoadedExtension.state

structure Contribution where
  extensionName : String
  item : String

def resolveAllInstalledContributions (extensions : List LoadedExtension) : List Contribution :=
  extensions.flatMap fun ext => ext.manifest.contributes.map fun item => ⟨ext.manifest.name, item⟩

def retainContributions (contributions : List Contribution) (enabled : List String) : List Contribution :=
  contributions.filter fun contribution => contribution.extensionName ∈ enabled

variable {manifest : Manifest} {manifests found : List Manifest} {ext : LoadedExtension}
  {persisted states : States}
  {users : UserStates} {userId name other : String} {enabled : Bool}

lemma nodup_loadAll : ((loadAll manifests).map Manifest.name).Nodup ∧
    ∀ manifest ∈ loadAll manifests, manifest ∈ manifests := by
  suffices h : ∀ result : List Manifest, (result.map Manifest.name).Nodup →
      ((manifests.foldl (fun result manifest =>
          if result.any fun other => other.name = manifest.name then result else result ++ [manifest])
        result).map Manifest.name).Nodup ∧
      ∀ manifest ∈ manifests.foldl (fun result manifest =>
          if result.any fun other => other.name = manifest.name then result
          else result ++ [manifest]) result,
        manifest ∈ result ∨ manifest ∈ manifests by
    obtain ⟨nodup, mem⟩ := h [] List.nodup_nil
    exact ⟨nodup, fun manifest here => (mem manifest here).resolve_left (List.not_mem_nil)⟩
  induction manifests with
  | nil => exact fun result nodup => ⟨nodup, fun _ => .inl⟩
  | cons first manifests ih =>
    intro result nodup
    rw [List.foldl_cons]
    split_ifs with there
    · obtain ⟨nodup', mem⟩ := ih result nodup
      exact ⟨nodup', fun manifest here => (mem manifest here).imp_right (List.mem_cons_of_mem _)⟩
    · have fresh : first.name ∉ result.map Manifest.name := by
        intro mem
        obtain ⟨other, here, same⟩ := List.mem_map.mp mem
        exact there (List.any_eq_true.mpr ⟨other, here, by simpa using same⟩)
      have appended : ((result ++ [first]).map Manifest.name).Nodup := by
        rw [List.map_append, List.map_singleton]
        refine List.nodup_append.mpr ⟨nodup, List.nodup_singleton _, fun name mem other mem' same => ?_⟩
        rw [same, List.mem_singleton.mp mem'] at mem
        exact fresh mem
      obtain ⟨nodup', mem⟩ := ih (result ++ [first]) appended
      refine ⟨nodup', fun manifest here => ?_⟩
      obtain old | new := mem manifest here
      · obtain old | rfl := List.mem_append.mp old |>.imp_right List.mem_singleton.mp
        · exact .inl old
        · exact .inr List.mem_cons_self
      · exact .inr (List.mem_cons_of_mem _ new)

@[simp] lemma merge_manifest : (mergePersistedState persisted ext).manifest = ext.manifest := by
  unfold mergePersistedState
  split <;> rfl

@[simp] lemma merge_name : (mergePersistedState persisted ext).state.name = ext.state.name := by
  unfold mergePersistedState
  split <;> rfl

@[simp] lemma merge_version : (mergePersistedState persisted ext).state.version = ext.state.version := by
  unfold mergePersistedState
  split <;> rfl

lemma merge_enabled : (mergePersistedState persisted (loadSingleExtension manifest)).state.enabled =
    (persisted.get manifest.name).all ExtensionState.enabled := by
  cases stored : persisted.get manifest.name <;>
    simp [mergePersistedState, loadSingleExtension, stored]

@[simp] lemma seed_hasDefault : (users.seed states).hasDefault = true := by
  unfold UserStates.seed
  split_ifs with has
  · exact has
  · rfl

lemma seed_eq (has : users.hasDefault = true) : users.seed states = users := if_pos has

end KiCore.Extension

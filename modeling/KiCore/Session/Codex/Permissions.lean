import KiCore.Lib.Json
import KiCore.Lib.Text
import KiCore.Session.Codex.SettingsRun

/-!
# The permission tiers of codex

Port of `codex_perm` of `codex_conn.rs` and of its call sites: the catalog of `fill_discovery`, the mode of
`thread/settings/updated`, and the check of `reconcile_codex_mode`. A tier has an id on the wire, which
starts with a colon, and a value in the catalog, which for the three built-in tiers is an older name.
-/

namespace KiCore.Session.Codex

open KiCore.Lib
open Str (trim trim_trim)

def modeToCatalogValue (mode : String) : String := profileIdToLegacyValue (normalizeToProfileId mode)

def builtinProfileDisplay (profileId : String) : Option (String × String) :=
  if profileId = ":read-only" then
    some ("Read Only",
      "Codex can read files in the current workspace. Approval is required to edit files or access the internet.")
  else if profileId = ":workspace" then
    some ("Default",
      "Codex can read and edit files in the current workspace, and run commands. Approval is required to access the internet or edit other files. (Identical to Agent mode)")
  else if profileId = ":danger-full-access" then
    some ("Full Access",
      "Codex can edit files outside this workspace and access the internet without asking for approval. Exercise caution when using.")
  else none

structure ModeInfo where
  id : String
  name : String
  description : Option String

def strOf (value : Json) (key : String) : Option String := (value.get key).bind Json.asStr

def modeInfo (entry : Json) (profileId : String) : ModeInfo :=
  let builtin := builtinProfileDisplay profileId
  { id := profileIdToLegacyValue profileId
    name := ((((entry.get "name").or (entry.get "displayName")).bind Json.asStr).or
      (builtin.map Prod.fst)).getD profileId
    description := (strOf entry "description").or (builtin.map Prod.snd) }

variable (result : Json)

/-- The entries of a `permissionProfile/list`. -/
def profileEntries : List Json :=
  (((result.get "data").or (result.get "permissions")).map Json.items).getD []

/-- The modes that `fill_discovery` puts into the catalog. -/
def discoveredModes : List ModeInfo :=
  (profileEntries result).filterMap fun entry => (strOf entry "id").map (modeInfo entry)

def reconcileCodexMode (modes : List ModeInfo) (requested : String) : Option String :=
  let catalog := modes.map fun mode => normalizeToProfileId mode.id
  let normalized := normalizeToProfileId requested
  if catalog.isEmpty then none
  else if normalized ∈ catalog then some normalized
  else none

def profileIds : List String := (profileEntries result).filterMap (strOf · "id")

/-- A colon and a name, without blanks at the ends. -/
def Canonical (profileId : String) : Prop :=
  (∃ c rest, profileId.toList = ':' :: c :: rest) ∧ trim profileId = profileId

variable {text profileId : String} {result : Json} {s : SettingsRun} {polls : Nat}

lemma canonical_normalize (text : String) : Canonical (normalizeToProfileId text) := by
  rw [normalizeToProfileId]
  split
  next c rest named => exact ⟨⟨c, rest, named⟩, trim_trim text⟩
  next =>
    split
    · exact ⟨⟨_, _, rfl⟩, by decide⟩
    · split
      · exact ⟨⟨_, _, rfl⟩, by decide⟩
      · exact ⟨⟨_, _, rfl⟩, by decide⟩

lemma normalize_of_canonical (canonical : Canonical profileId) :
    normalizeToProfileId profileId = profileId := by
  obtain ⟨⟨c, rest, named⟩, trimmed⟩ := canonical
  rw [normalizeToProfileId, trimmed, named]
  rfl

lemma normalize_eq_self : normalizeToProfileId profileId = profileId ↔ Canonical profileId := by
  constructor
  · intro same
    exact same ▸ canonical_normalize profileId
  · exact normalize_of_canonical

lemma normalize_normalize (text : String) :
    normalizeToProfileId (normalizeToProfileId text) = normalizeToProfileId text :=
  normalize_of_canonical (canonical_normalize text)

lemma normalize_legacy (text : String) :
    normalizeToProfileId (profileIdToLegacyValue text) = normalizeToProfileId text := by
  rw [profileIdToLegacyValue]
  split
  next same =>
    subst same
    decide
  next =>
    split
    next same =>
      subst same
      decide
    next =>
      split
      next same =>
        subst same
        decide
      next => rfl

lemma normalize_catalog (text : String) :
    normalizeToProfileId (modeToCatalogValue text) = normalizeToProfileId text := by
  rw [modeToCatalogValue, normalize_legacy, normalize_normalize]

lemma catalog_catalog (text : String) :
    modeToCatalogValue (modeToCatalogValue text) = modeToCatalogValue text := by
  rw [modeToCatalogValue, normalize_catalog]
  rfl

lemma discoveredModes_ids (result : Json) :
    (discoveredModes result).map ModeInfo.id = (profileIds result).map profileIdToLegacyValue := by
  rw [discoveredModes, profileIds, List.map_filterMap, List.map_filterMap]
  apply List.filterMap_congr
  intro entry _
  cases strOf entry "id" <;> rfl

lemma reconcile_catalog (result : Json) :
    ((discoveredModes result).map fun mode => normalizeToProfileId mode.id) =
      (profileIds result).map normalizeToProfileId := by
  have ids := congrArg (List.map normalizeToProfileId) (discoveredModes_ids result)
  simp only [List.map_map, Function.comp_def, normalize_legacy] at ids
  exact ids

lemma reconcile_isSome (result : Json) (requested : String) :
    (reconcileCodexMode (discoveredModes result) requested).isSome = true ↔
      normalizeToProfileId requested ∈ (profileIds result).map normalizeToProfileId := by
  rw [reconcileCodexMode, reconcile_catalog]
  by_cases known : normalizeToProfileId requested ∈ (profileIds result).map normalizeToProfileId
  · rw [if_neg (by simpa using List.ne_nil_of_mem known), if_pos known]
    exact iff_of_true rfl known
  · rw [if_neg known, ite_self]
    exact iff_of_false Bool.false_ne_true known

structure TierShown (result : Json) : Prop where
  value : ∀ text, normalizeToProfileId (modeToCatalogValue text) = normalizeToProfileId text
  updated : ∀ text, normalizeToProfileId (profileIdToLegacyValue text) = normalizeToProfileId text
  presented : ∀ profileId ∈ profileIds result,
    normalizeToProfileId (profileIdToLegacyValue profileId) = profileId
  distinct : ∀ profileId ∈ profileIds result, ∀ profileId' ∈ profileIds result,
    profileIdToLegacyValue profileId = profileIdToLegacyValue profileId' → profileId = profileId'
  idempotent : ∀ text, modeToCatalogValue (modeToCatalogValue text) = modeToCatalogValue text
  accepted : ∀ requested, (reconcileCodexMode (discoveredModes result) requested).isSome = true ↔
    normalizeToProfileId requested ∈ profileIds result

theorem tier_shown_iff (result : Json) :
    TierShown result ↔ ∀ profileId ∈ profileIds result, Canonical profileId := by
  constructor
  · intro shown profileId mem
    have same := shown.presented profileId mem
    rw [normalize_legacy] at same
    exact normalize_eq_self.mp same
  · intro canonical
    have presented : ∀ profileId ∈ profileIds result,
        normalizeToProfileId (profileIdToLegacyValue profileId) = profileId := by
      intro profileId mem
      rw [normalize_legacy]
      exact normalize_of_canonical (canonical profileId mem)
    refine ⟨normalize_catalog, normalize_legacy, presented, ?_, catalog_catalog, ?_⟩
    · intro profileId mem profileId' mem' same
      rw [← presented profileId mem, same, presented profileId' mem']
    · intro requested
      have ids : (profileIds result).map normalizeToProfileId = profileIds result :=
        (List.map_congr_left fun profileId mem =>
          normalize_of_canonical (canonical profileId mem)).trans (List.map_id _)
      rw [reconcile_isSome, ids]

def blankProfile : Json := .obj [("data", .arr [.obj [("id", .str ":team ")]])]

theorem blankProfile_misread : ¬ TierShown blankProfile := by
  intro shown
  exact absurd (shown.presented ":team " (by decide)) (by decide)

end KiCore.Session.Codex

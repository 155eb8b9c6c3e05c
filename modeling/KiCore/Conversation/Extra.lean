import KiCore.Lib.Keyed
import KiCore.Lib.Patch

/-!
# The extra column of a conversation

Port of the functions of `service.rs` and `skill_snapshot.rs` that compute a new value of the column
`extra` from an old one: the merge of a patch, what `update` strips, the normal form of the
workspace path, and the backfill of old rows. The column holds JSON text; a value is kept as far as
this code looks into it, and text that is no JSON is `none`.

Each of the functions changes some keys of an object and leaves the others (`get_mergeJson` and the
lemmas after it), so that what a call does to the column is a patch.
-/

namespace KiCore.Conversation

open KiCore.Lib

/-- A JSON value below the top level: a string, an array of strings, or anything else. -/
inductive Json where
  | string (s : String)
  | strings (l : List String)
  | other (text : String)
  deriving DecidableEq

def Json.asStr : Json → Option String
  | .string s => some s
  | _ => none

/-- The map of an object, with one entry for a key. -/
abbrev Fields : Type := List (String × Json)

namespace Fields

variable (fields : Fields)

def get (key : String) : Option Json :=
  (Keyed.lookup Prod.fst key fields).map Prod.snd

def insert (key : String) (value : Json) : Fields :=
  Keyed.upsert Prod.fst (fun _ entry => entry) (key, value) fields

def remove (key : String) : Fields :=
  fields.filter fun entry => entry.1 ≠ key

variable {fields : Fields} {key k : String} {value : Json}

lemma get_cons {entry : String × Json} :
    get (entry :: fields) k = if entry.1 = k then some entry.2 else fields.get k := by
  rw [get, Keyed.lookup_cons]
  split
  · rfl
  · rfl

lemma get_insert : (fields.insert key value).get k = if key = k then some value else fields.get k := by
  rw [get, insert, Keyed.lookup_upsert fun y _ => rfl]
  dsimp only
  split
  · cases Keyed.lookup Prod.fst k fields <;> rfl
  · rfl

lemma get_remove : (fields.remove key).get k = if key = k then none else fields.get k := by
  rw [get, remove, Keyed.lookup_remove]
  split
  · rfl
  · rfl

/-- All entries of a map are inserted. It has one for a key, so that the order is of no account. -/
def insertAll (fields patch : Fields) : Fields :=
  patch.foldr (fun entry fields => fields.insert entry.1 entry.2) fields

lemma get_insertAll {patch : Fields} :
    (fields.insertAll patch).get k = (patch.get k).or (fields.get k) := by
  induction patch with
  | nil => rfl
  | cons entry patch ih =>
    rw [insertAll, List.foldr_cons, get_insert, get_cons]
    split
    · rfl
    · exact ih

end Fields

/-- The value of the column. -/
inductive Extra where
  | object (fields : Fields)
  | null
  | other (text : String)
  deriving DecidableEq

namespace Extra

def get : Extra → String → Option Json
  | object fields, key => fields.get key
  | _, _ => none

def mergeJson : Extra → Extra → Extra
  | object base, object patch => object (base.insertAll patch)
  | base, _ => base

def removeKey (key : String) : Extra → Extra
  | object fields => object (fields.remove key)
  | extra => extra

def stripRequestOwnerUserId : Extra → Extra :=
  removeKey "user_id"

def normalizeWorkspacePath (available : String → Bool) (workspace : String) : Option String :=
  if available workspace then some workspace else none

def normalizeWorkspaceExtra (available : String → Bool) : Extra → Option Extra
  | object fields =>
    match (fields.get "workspace").bind Json.asStr with
    | none => some (object fields)
    | some workspace =>
      if workspace = "" then some (object fields)
      else (normalizeWorkspacePath available workspace).map fun normalized =>
        if normalized ≠ workspace then object (fields.insert "workspace" (.string normalized))
        else object fields
  | extra => some extra

/-- The strings of a list as a set, in order. -/
def computeInitialSkills (autoInject presetEnabled excludeAutoInject : List String) : List String :=
  ((autoInject.filter (· ∉ excludeAutoInject) ++ presetEnabled).dedup).insertionSort (· ≤ ·)

/-- The array of strings that a legacy field holds; a field of another form counts as empty. -/
def stringArray (fields : Fields) (key : String) : List String :=
  match fields.get key with
  | some (.strings l) => l
  | _ => []

def backfillSkillsIfMissing (autoInjectNow : List String) : Extra → Bool × Extra
  | object fields =>
    let enabled := stringArray fields "enabled_skills"
    let excluded := stringArray fields "exclude_builtin_skills"
    let hadLegacy := enabled ≠ [] ∨ excluded ≠ [] ∨ (fields.get "loaded_skills").isSome
    let rest :=
      ((fields.remove "enabled_skills").remove "exclude_builtin_skills").remove "loaded_skills"
    if (rest.get "skills").isNone then
      let computed := computeInitialSkills autoInjectNow enabled excluded
      (true, object (rest.insert "skills" (.strings computed)))
    else
      (hadLegacy, object rest)
  | extra => (false, extra)

def cronJobId (fields : Fields) : Option String :=
  ((fields.get "cron_job_id").bind Json.asStr).or ((fields.get "cronJobId").bind Json.asStr)

/-- A key that is to hold a string, and whether it did not. -/
def setAlias (fields : Fields) (key id : String) : Bool × Fields :=
  if (fields.get key).bind Json.asStr ≠ some id then (true, fields.insert key (.string id))
  else (false, fields)

def backfillCronJobIdAlias : Extra → Bool × Extra
  | object fields =>
    match cronJobId fields with
    | none => (false, object fields)
    | some id =>
      let first := setAlias fields "cron_job_id" id
      let second := setAlias first.2 "cronJobId" id
      (first.1 || second.1, object second.2)
  | extra => (false, extra)

/-- Both backfills, and whether either changed anything. -/
def backfill (autoInjectNow : List String) (extra : Extra) : Bool × Extra :=
  let skills := backfillSkillsIfMissing autoInjectNow extra
  let cron := backfillCronJobIdAlias skills.2
  (skills.1 || cron.1, cron.2)

variable {fields : Fields} {extra base patch new : Extra} {key k id : String}
  {autoInject : List String}
  {available : String → Bool}

lemma normalizeWorkspaceExtra_eq (h : normalizeWorkspaceExtra available extra = some new) :
    new = extra := by
  cases extra with
  | object fields =>
    rw [normalizeWorkspaceExtra] at h
    split at h
    · exact (Option.some_inj.mp h).symm
    · rename_i workspace _
      rw [normalizeWorkspacePath] at h
      split_ifs at h with empty available
      · exact (Option.some_inj.mp h).symm
      · rw [Option.map_some, if_neg (not_not.mpr rfl)] at h
        exact (Option.some_inj.mp h).symm
      · cases h
  | null => exact (Option.some_inj.mp h).symm
  | other => exact (Option.some_inj.mp h).symm

lemma get_removeKey : (extra.removeKey key).get k = if key = k then none else extra.get k := by
  cases extra with
  | object fields => exact Fields.get_remove
  | null => exact (ite_self none).symm
  | other => exact (ite_self none).symm

lemma get_mergeJson {base : Fields} :
    (mergeJson (object base) patch).get k = (patch.get k).or (base.get k) := by
  cases patch with
  | object patch => exact Fields.get_insertAll
  | null => rfl
  | other => rfl

lemma get_setAlias : (setAlias fields key id).2.get k =
    if key = k ∧ (fields.get key).bind Json.asStr ≠ some id then some (.string id)
    else fields.get k := by
  rw [setAlias]
  split
  · rename_i differs
    rw [Fields.get_insert]
    by_cases here : key = k
    · rw [if_pos here, if_pos ⟨here, differs⟩]
    · rw [if_neg here, if_neg fun both => here both.1]
  · rename_i same
    rw [if_neg fun both => same both.2]

lemma get_backfillSkills :
    ∃ rest, (backfillSkillsIfMissing autoInject (object fields)).2 = object rest ∧
    ∀ k, rest.get k =
      if k = "enabled_skills" ∨ k = "exclude_builtin_skills" ∨ k = "loaded_skills" then none
      else if k = "skills" ∧ (fields.get "skills").isNone then
        some (.strings (computeInitialSkills autoInject (stringArray fields "enabled_skills")
          (stringArray fields "exclude_builtin_skills")))
      else fields.get k := by
  have stripped : ∀ k,
      (((fields.remove "enabled_skills").remove "exclude_builtin_skills").remove "loaded_skills").get k =
        if k = "enabled_skills" ∨ k = "exclude_builtin_skills" ∨ k = "loaded_skills" then none
        else fields.get k := by
    intro k
    rw [Fields.get_remove, Fields.get_remove, Fields.get_remove]
    grind
  have missing : ("skills" : String) = "enabled_skills" ∨
    ("skills" : String) = "exclude_builtin_skills" ∨
      ("skills" : String) = "loaded_skills" ↔ False := by decide
  rw [backfillSkillsIfMissing]
  dsimp only
  rw [stripped "skills", if_neg missing.mp]
  by_cases absent : (fields.get "skills").isNone
  · rw [if_pos absent]
    refine ⟨_, rfl, fun k => ?_⟩
    rw [Fields.get_insert, stripped k]
    grind
  · rw [if_neg absent]
    refine ⟨_, rfl, fun k => ?_⟩
    rw [stripped k, if_neg (c := k = "skills" ∧ _) fun both => absent both.2]

lemma get_backfillCron (fields : Fields) :
    ∃ filled, (backfillCronJobIdAlias (object fields)).2 = object filled ∧
    ∀ k, filled.get k =
      if k = "cron_job_id" ∨ k = "cronJobId" then
        ((cronJobId fields).bind fun id =>
          if (fields.get k).bind Json.asStr ≠ some id then some (.string id) else none).or
            (fields.get k)
      else fields.get k := by
  rw [backfillCronJobIdAlias]
  cases cronJobId fields with
  | none =>
    refine ⟨fields, rfl, fun k => ?_⟩
    rw [Option.bind_none, Option.none_or, ite_self]
  | some id =>
    refine ⟨_, rfl, fun k => ?_⟩
    rw [get_setAlias, get_setAlias, get_setAlias, Option.bind_some]
    grind

/-- Both names of the job hold the id, if one does. -/
def Aliased (fields : Fields) : Prop :=
  ∀ id, cronJobId fields = some id →
    (fields.get "cron_job_id").bind Json.asStr = some id ∧ (fields.get "cronJobId").bind Json.asStr = some id

lemma backfillCron_aliased (aliased : Aliased fields) :
    (backfillCronJobIdAlias (object fields)).1 = false := by
  rw [backfillCronJobIdAlias]
  cases found : cronJobId fields with
  | none => rfl
  | some id =>
    obtain ⟨snake, camel⟩ := aliased id found
    have first : setAlias fields "cron_job_id" id = (false, fields) := if_neg (not_not.mpr snake)
    have second : setAlias fields "cronJobId" id = (false, fields) := if_neg (not_not.mpr camel)
    simp only [first, second, Bool.or_false]

lemma aliased_congr {other : Fields} (aliased : Aliased fields)
    (snake : other.get "cron_job_id" = fields.get "cron_job_id")
    (camel : other.get "cronJobId" = fields.get "cronJobId") : Aliased other := by
  intro id found
  rw [cronJobId, snake, camel] at found
  rw [snake, camel]
  exact aliased id found

lemma aliased_backfillCron {filled : Fields}
    (done : (backfillCronJobIdAlias (object fields)).2 = object filled) : Aliased filled := by
  obtain ⟨filled', same, get⟩ := get_backfillCron fields
  obtain rfl : filled' = filled := Extra.object.inj (same.symm.trans done)
  have snake := get "cron_job_id"
  have camel := get "cronJobId"
  rw [if_pos (.inl rfl)] at snake
  rw [if_pos (.inr rfl)] at camel
  intro id found
  rw [cronJobId, snake, camel] at found
  rw [snake, camel]
  cases known : cronJobId fields with
  | none =>
    rw [known, Option.bind_none, Option.bind_none, Option.none_or, Option.none_or, ← cronJobId,
      known] at found
    cases found
  | some old =>
    have holds : ∀ value : Option Json, (((some old).bind fun id =>
        if value.bind Json.asStr ≠ some id then some (Json.string id) else none).or value).bind Json.asStr =
          some old := by
      intro value
      rw [Option.bind_some]
      split_ifs with differs
      · rfl
      · rw [Option.none_or]
        exact not_not.mp differs
    rw [known, holds, holds] at found
    rw [holds, holds]
    exact ⟨found, found⟩

lemma backfillSkills_settled (enabled : fields.get "enabled_skills" = none)
    (excluded : fields.get "exclude_builtin_skills" = none) (loaded : fields.get "loaded_skills" = none)
    (listed : (fields.get "skills").isNone = false) :
    (backfillSkillsIfMissing autoInject (object fields)).1 = false := by
  have kept : (((fields.remove "enabled_skills").remove "exclude_builtin_skills").remove "loaded_skills").get
      "skills" = fields.get "skills" := by
    rw [Fields.get_remove, Fields.get_remove, Fields.get_remove, if_neg (by decide), if_neg (by decide),
      if_neg (by decide)]
  rw [backfillSkillsIfMissing]
  dsimp only
  rw [kept, listed, if_neg Bool.false_ne_true, stringArray, stringArray, enabled, excluded, loaded]
  rfl

/-- What a read leaves in the column, no later read has to write again, whatever the built-in skills are by
then. -/
theorem backfill_settles (autoInject later : List String) (extra : Extra) :
    (backfill later (backfill autoInject extra).2).1 = false := by
  cases extra with
  | object fields =>
    obtain ⟨rest, skills, stripped⟩ := @get_backfillSkills fields autoInject
    obtain ⟨filled, cron, kept⟩ := get_backfillCron rest
    have whole : (backfill autoInject (object fields)).2 = object filled := by
      rw [backfill]
      dsimp only
      rw [skills, cron]
    have get : ∀ k, k ≠ "cron_job_id" → k ≠ "cronJobId" → filled.get k = rest.get k := by
      intro k snake camel
      rw [kept k, if_neg (not_or.mpr ⟨snake, camel⟩)]
    have listed : (filled.get "skills").isNone = false := by
      rw [get _ (by decide) (by decide), stripped, if_neg (by decide)]
      split_ifs with absent
      · rfl
      · exact Bool.not_eq_true _ ▸ fun none => absent ⟨rfl, none⟩
    have quiet : (backfillSkillsIfMissing later (object filled)).1 = false := by
      refine backfillSkills_settled ?_ ?_ ?_ listed
      · rw [get _ (by decide) (by decide), stripped, if_pos (.inl rfl)]
      · rw [get _ (by decide) (by decide), stripped, if_pos (.inr (.inl rfl))]
      · rw [get _ (by decide) (by decide), stripped, if_pos (.inr (.inr rfl))]
    obtain ⟨again, second, still⟩ := @get_backfillSkills filled later
    have aliased : Aliased again := by
      refine aliased_congr (aliased_backfillCron cron) ?_ ?_
      · rw [still, if_neg (by decide), if_neg fun both => absurd both.1 (by decide)]
      · rw [still, if_neg (by decide), if_neg fun both => absurd both.1 (by decide)]
    rw [whole, backfill]
    dsimp only
    rw [quiet, second, backfillCron_aliased aliased]
    rfl
  | null => rfl
  | other => rfl

end Extra

end KiCore.Conversation

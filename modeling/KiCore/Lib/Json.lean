import KiCore.Lib.Keyed

/-!
# JSON values

Values with the lookups and the edits that stores make of them: `mergePatch` is the merge of RFC
7396, where a null takes a key away, and `setPath` writes below keys as `json_set` does. An object is
a list of members of which the first of a key counts; no edit makes a second one.
-/

namespace KiCore.Lib

inductive Json where
  | null
  | bool (b : Bool)
  | num (text : String)
  | str (s : String)
  | arr (items : List Json)
  | obj (members : List (String × Json))

namespace Json

/-- The members of an object, and none of any other value. -/
def members : Json → List (String × Json)
  | .obj members => members
  | _ => []

def items : Json → List Json
  | .arr items => items
  | _ => []

def asStr : Json → Option String
  | .str s => some s
  | _ => none

def lookup (key : String) (members : List (String × Json)) : Option Json :=
  (Keyed.lookup Prod.fst key members).map Prod.snd

def get (value : Json) (key : String) : Option Json :=
  lookup key value.members

def erase (key : String) (members : List (String × Json)) : List (String × Json) :=
  members.filter fun entry => entry.1 ≠ key

/-- Give a key a value, in its place if it has one. -/
def insert (key : String) (value : Json) (members : List (String × Json)) : List (String × Json) :=
  Keyed.upsert Prod.fst (fun _ entry => entry) (key, value) members

/-- Store what a member of a patch leaves of a value; a null takes the key away. -/
def put (key : String) (merged value : Json) (members : List (String × Json)) : List (String × Json) :=
  match value with
  | .null => erase key members
  | _ => insert key merged members

mutual

def mergePatch (target : Json) : Json → Json
  | .obj patch => .obj (mergeMembers target.members patch)
  | patch => patch

def mergeMembers (base : List (String × Json)) : List (String × Json) → List (String × Json)
  | [] => base
  | (key, value) :: patch =>
    mergeMembers (put key (mergePatch ((lookup key base).getD .null) value) value base) patch

end

/-- Write a value below keys, making the objects that are missing. -/
def setPath (value : Json) : List String → Json → Json
  | [], _ => value
  | key :: path, .obj members =>
    .obj (insert key (setPath value path ((lookup key members).getD (.obj []))) members)
  | _, doc => doc

def getPath (doc : Json) : List String → Option Json
  | [] => some doc
  | key :: path => (doc.get key).bind fun below => below.getPath path

variable {key k : String} {value doc patch target : Json} {members base : List (String × Json)}
  {path : List String}

@[simp] lemma lookup_nil : lookup k [] = none := rfl

lemma lookup_cons (entry : String × Json) :
    lookup k (entry :: members) = if entry.1 = k then some entry.2 else lookup k members := by
  rw [lookup, Keyed.lookup_cons]
  split <;> rfl

lemma lookup_insert : lookup k (insert key value members) =
    if key = k then some value else lookup k members := by
  rw [lookup, insert, Keyed.lookup_upsert fun y _ => rfl]
  dsimp only
  split
  · cases Keyed.lookup Prod.fst k members <;> rfl
  · rfl

lemma lookup_erase : lookup k (erase key members) = if key = k then none else lookup k members := by
  rw [lookup, erase, Keyed.lookup_remove]
  split <;> rfl

@[simp] lemma get_obj : (obj members).get k = lookup k members := rfl

lemma lookup_put {merged : Json} : lookup k (put key merged value members) =
    if key = k then (match value with | .null => none | _ => some merged) else lookup k members := by
  cases value with
  | null => exact lookup_erase
  | _ => exact lookup_insert

lemma mergeMembers_cons {patch : List (String × Json)} : mergeMembers base ((key, value) :: patch) =
    mergeMembers (put key (mergePatch ((lookup key base).getD .null) value) value base) patch :=
  rfl

lemma lookup_mergeMembers (patch : List (String × Json)) (nodup : (patch.map Prod.fst).Nodup) :
    lookup k (mergeMembers base patch) =
      match lookup k patch with
      | none => lookup k base
      | some .null => none
      | some value => some (mergePatch ((lookup k base).getD .null) value) := by
  induction patch generalizing base with
  | nil => rfl
  | cons entry patch ih =>
    obtain ⟨key, value⟩ := entry
    rw [List.map_cons, List.nodup_cons] at nodup
    rw [mergeMembers_cons, ih nodup.2, lookup_cons]
    dsimp only
    by_cases same : key = k
    · subst same
      have absent : lookup key patch = none := by
        rw [lookup, Option.map_eq_none_iff, Keyed.lookup_eq_none]
        exact fun entry mem same => nodup.1 (List.mem_map.mpr ⟨entry, mem, same⟩)
      rw [absent, if_pos rfl, lookup_put, if_pos rfl]
      cases value <;> rfl
    · rw [if_neg same, lookup_put, if_neg same]

lemma get_mergePatch (patch : List (String × Json)) (nodup : (patch.map Prod.fst).Nodup) :
    (mergePatch target (.obj patch)).get k =
      match lookup k patch with
      | none => target.get k
      | some .null => none
      | some value => some (mergePatch ((target.get k).getD .null) value) :=
  lookup_mergeMembers patch nodup

end Json

end KiCore.Lib

import KiCore.Lib.Table

/-!
# Tables of sets

A map from keys to sets is a table whose values are lists without regard to their order. `image` is
the set of a key, which is empty where the key is absent; `link` adds an element to it, and `retain`
keeps the elements that meet a test and drops the key with the last of them.

Nothing but `image` is observed of such a map, apart from the keys themselves: `NoEmpty` says that a
key is there only for a set that is not empty, and every operation keeps it.
-/

namespace KiCore.Lib

abbrev MultiMap (κ : Type) (α : Type) [Ord κ] : Type := Table κ (List α)

namespace MultiMap

variable {κ α : Type} [Ord κ] (m : MultiMap κ α)

def image (k : κ) : List α :=
  (m[k]?).getD []

def link [DecidableEq α] (m : MultiMap κ α) (k : κ) (x : α) : MultiMap κ α :=
  m.insert k (m.image k |>.insert x)

/-- Keep what meets a test in the set of a key, and the key if that is not empty. -/
def retain (k : κ) (p : α → Bool) : MultiMap κ α :=
  match m[k]? with
  | some xs => if xs.filter p = [] then m.erase k else m.insert k (xs.filter p)
  | none => m

/-- Take an element out of the set of a key. -/
def unlink [DecidableEq α] (m : MultiMap κ α) (k : κ) (x : α) : MultiMap κ α :=
  m.retain k fun y => y ≠ x

/-- Take an element out of every set, and the keys of the sets that are empty then. -/
def discard [DecidableEq α] (m : MultiMap κ α) (x : α) : MultiMap κ α :=
  (m.map fun _ xs => xs.filter (· ≠ x)).filter fun _ xs => ¬ xs.isEmpty

def NoEmpty : Prop :=
  ∀ (k : κ) (xs : List α), m[k]? = some xs → xs ≠ []

variable {m : MultiMap κ α} {k a : κ} {x y : α} {xs : List α} {p : α → Bool}

lemma image_of_get (h : m[k]? = some xs) : m.image k = xs := by
  rw [image, h]
  rfl

lemma image_of_none (h : m[k]? = none) : m.image k = [] := by
  rw [image, h]
  rfl

variable [Std.TransOrd κ]

lemma noEmpty_empty : (∅ : MultiMap κ α).NoEmpty := by
  intro k xs h
  rw [Table.get_empty] at h
  cases h

@[simp] lemma image_empty : (∅ : MultiMap κ α).image k = [] :=
  image_of_none Table.get_empty

variable [Std.LawfulEqOrd κ] [DecidableEq κ]

lemma image_insert : MultiMap.image (m.insert k xs) a = if k = a then xs else m.image a := by
  rw [image, Table.get_insert]
  split_ifs with h
  · rfl
  · rfl

lemma image_erase : MultiMap.image (m.erase k) a = if k = a then [] else m.image a := by
  rw [image, Table.get_erase]
  split_ifs with h
  · rfl
  · rfl

lemma mem_image_link [DecidableEq α] : x ∈ (m.link k y).image a ↔ k = a ∧ x = y ∨ x ∈ m.image a := by
  rw [link, image_insert]
  split_ifs with h
  · subst h
    simp
  · simp [h]

omit [DecidableEq κ] in
lemma image_discard [DecidableEq α] : (m.discard x).image k = (m.image k).filter (· ≠ x) := by
  cases found : m[k]? with
  | none =>
    have gone : (m.discard x)[k]? = none := by
      rw [Option.eq_none_iff_forall_ne_some]
      intro xs there
      rw [discard, Table.get_filter, Table.get_map, found] at there
      cases there.1
    rw [image_of_none gone, image_of_none found, List.filter_nil]
  | some xs =>
    rw [image_of_get found]
    by_cases empty : xs.filter (· ≠ x) = []
    · have gone : (m.discard x)[k]? = none := by
        rw [Option.eq_none_iff_forall_ne_some]
        intro ys there
        rw [discard, Table.get_filter, Table.get_map, found] at there
        obtain ⟨same, full⟩ := there
        rw [Option.map_some, Option.some.injEq, empty] at same
        subst same
        cases full
      rw [image_of_none gone, empty]
    · have left : (m.discard x)[k]? = some (xs.filter (· ≠ x)) := by
        rw [discard, Table.get_filter, Table.get_map, found]
        exact ⟨rfl, by simpa using empty⟩
      rw [image_of_get left]

lemma image_retain : (m.retain k p).image a = if k = a then (m.image a).filter p else m.image a := by
  unfold retain
  cases e : m[k]? with
  | none =>
    split_ifs with h
    · subst h
      rw [image_of_none e]
      rfl
    · rfl
  | some xs =>
    dsimp only
    split_ifs with gone h h
    · subst h
      rw [image_erase, if_pos rfl, image_of_get e, gone]
    · rw [image_erase, if_neg h]
    · subst h
      rw [image_insert, if_pos rfl, image_of_get e]
    · rw [image_insert, if_neg h]

lemma mem_image_unlink [DecidableEq α] : x ∈ (m.unlink k y).image a ↔ x ∈ m.image a ∧
    ¬ (k = a ∧ x = y) := by
  rw [unlink, image_retain]
  split_ifs with h
  · simp [h]
  · simp [h]

lemma NoEmpty.link [DecidableEq α] (full : m.NoEmpty) : (m.link k x).NoEmpty := by
  intro a xs h
  rw [MultiMap.link, Table.get_insert] at h
  split_ifs at h with e
  · cases h
    exact List.ne_nil_of_mem (List.mem_insert_self)
  · exact full a xs h

lemma NoEmpty.retain (full : m.NoEmpty) : (m.retain k p).NoEmpty := by
  intro a xs h
  unfold MultiMap.retain at h
  cases e : m[k]? with
  | none =>
    rw [e] at h
    exact full a xs h
  | some ys =>
    rw [e] at h
    dsimp only at h
    split_ifs at h with gone
    · exact full a xs (Table.get_erase_some.mp h).2
    · rw [Table.get_insert] at h
      split_ifs at h
      · cases h
        exact gone
      · exact full a xs h

end MultiMap

end KiCore.Lib

import Mathlib.Tactic

/-!
# Keyed lists

A vector that a program searches by a key field is a list with a key function. `lookup` is the first
entry under a key, `upsert` replaces it or appends, and `alter` changes it in place. Each operation
has its lookup lemma, and keeps the keys distinct.
-/

namespace KiCore.Lib.Keyed

variable {α κ : Type} [DecidableEq κ] {key : α → κ} {k : κ} {l : List α}

def lookup (key : α → κ) (k : κ) (l : List α) : Option α :=
  l.find? fun x => key x = k

/-- Merge an entry into the first one under its key, or append it. -/
def upsert (key : α → κ) (merge : α → α → α) (x : α) : List α → List α
  | [] => [x]
  | y :: l => if key y = key x then merge y x :: l else y :: upsert key merge x l

/-- Change the first entry under a key, if there is one. -/
def alter (key : α → κ) (k : κ) (f : α → α) : List α → List α
  | [] => []
  | y :: l => if key y = k then f y :: l else y :: alter key k f l

@[simp] lemma lookup_nil : lookup key k [] = none := rfl

lemma lookup_cons (x : α) : lookup key k (x :: l) = if key x = k then some x else lookup key k l := by
  by_cases h : key x = k <;> simp [lookup, h]

lemma lookup_key {x : α} (h : lookup key k l = some x) : key x = k := by
  simpa using List.find?_some h

lemma mem_of_lookup {x : α} (h : lookup key k l = some x) : x ∈ l :=
  List.mem_of_find?_eq_some h

lemma lookup_eq_none : lookup key k l = none ↔ ∀ x ∈ l, key x ≠ k := by
  simp [lookup, List.find?_eq_none]

lemma lookup_of_mem (nodup : (l.map key).Nodup) {x : α} (h : x ∈ l) :
    lookup key (key x) l = some x := by
  induction l with
  | nil => cases h
  | cons y l ih =>
    rw [List.map_cons, List.nodup_cons] at nodup
    rw [lookup_cons]
    cases h with
    | head => rw [if_pos rfl]
    | tail _ h =>
      have ne : key y ≠ key x := fun e => nodup.1 (e ▸ List.mem_map_of_mem h)
      rw [if_neg ne]
      exact ih nodup.2 h

lemma mem_iff_lookup (nodup : (l.map key).Nodup) {x : α} :
    x ∈ l ∧ key x = k ↔ lookup key k l = some x := by
  constructor
  · intro h
    obtain ⟨mem, e⟩ := h
    subst e
    exact lookup_of_mem nodup mem
  · intro h
    exact ⟨mem_of_lookup h, lookup_key h⟩

lemma lookup_filter (nodup : (l.map key).Nodup) (p : α → Bool) :
    lookup key k (l.filter p) = (lookup key k l).filter p := by
  have nodup' : ((l.filter p).map key).Nodup := nodup.sublist (List.filter_sublist.map key)
  apply Option.ext
  intro x
  rw [← mem_iff_lookup nodup', Option.filter_eq_some_iff, ← mem_iff_lookup nodup]
  simp only [List.mem_filter]
  tauto

lemma lookup_remove (a : κ) :
    lookup key a (l.filter fun x => key x ≠ k) = if k = a then none else lookup key a l := by
  induction l with
  | nil => simp
  | cons y l ih =>
    by_cases hy : key y = k
    · rw [List.filter_cons_of_neg (by simpa using hy), ih, lookup_cons, hy]
      split <;> rfl
    · rw [List.filter_cons_of_pos (by simpa using hy), lookup_cons, lookup_cons, ih]
      split
      · rename_i ha
        rw [if_neg fun e => hy (ha.trans e.symm)]
      · rfl

lemma lookup_append (l l' : List α) : lookup key k (l ++ l') = (lookup key k l).or (lookup key k l') :=
  List.find?_append

lemma lookup_map {f : α → α} (keeps : ∀ x, key (f x) = key x) :
    lookup key k (l.map f) = (lookup key k l).map f := by
  rw [lookup, List.find?_map]
  simp [lookup, keeps]

lemma lookup_eraseP (nodup : (l.map key).Nodup) {p : α → Bool} (only : ∀ x, p x = true → key x = k)
    (a : κ) :
    lookup key a (l.eraseP p) = if k = a then (lookup key a l).filter fun x => !p x
      else lookup key a l := by
  induction l with
  | nil => simp
  | cons y l ih =>
    rw [List.map_cons, List.nodup_cons] at nodup
    by_cases hp : p y = true
    · have hy := only y hp
      rw [List.eraseP_cons_of_pos hp, lookup_cons]
      by_cases ha : k = a
      · have absent : lookup key a l = none := by
          rw [lookup_eq_none]
          intro x mem e
          exact nodup.1 (List.mem_map.mpr ⟨x, mem, e.trans (ha.symm.trans hy.symm)⟩)
        rw [absent, if_pos ha, if_pos (hy.trans ha)]
        simp [Option.filter, hp]
      · simp [ha, hy]
    · rw [List.eraseP_cons_of_neg hp, lookup_cons, ih nodup.2, lookup_cons]
      by_cases hy : key y = a <;> by_cases ha : k = a <;> simp [Option.filter, hy, ha, hp]

section Upsert

variable {merge : α → α → α} {x : α}

lemma upsert_nil : upsert key merge x [] = [x] := rfl

lemma upsert_cons {y : α} : upsert key merge x (y :: l) =
    if key y = key x then merge y x :: l else y :: upsert key merge x l := rfl

lemma lookup_upsert (keeps : ∀ y, key y = key x → key (merge y x) = key x) :
    lookup key k (upsert key merge x l) =
      if key x = k then some ((lookup key k l).elim x (merge · x)) else lookup key k l := by
  induction l with
  | nil => simp [upsert_nil, lookup_cons]
  | cons y l ih =>
    by_cases hy : key y = key x
    · have hm := keeps y hy
      by_cases hx : key x = k <;> simp [upsert_cons, lookup_cons, hy, hm, hx]
    · rw [upsert_cons, if_neg hy, lookup_cons, ih, lookup_cons]
      by_cases hx : key x = k
      · simp [show key y ≠ k from hx ▸ hy, hx]
      · simp [hx]

lemma upsert_eq_self {y : α} (h : lookup key (key x) l = some y) (merged : merge y x = y) :
    upsert key merge x l = l := by
  induction l with
  | nil => cases h
  | cons z l ih =>
    rw [lookup_cons] at h
    by_cases hz : key z = key x
    · rw [if_pos hz] at h
      obtain rfl := Option.some.inj h
      rw [upsert_cons, if_pos hz, merged]
    · rw [if_neg hz] at h
      rw [upsert_cons, if_neg hz, ih h]

lemma mem_keys_upsert (keeps : ∀ y, key y = key x → key (merge y x) = key x)
    (h : k ∈ (upsert key merge x l).map key) : k = key x ∨ k ∈ l.map key := by
  induction l with
  | nil => simpa [upsert_nil] using h
  | cons y l ih =>
    by_cases hy : key y = key x
    · simp only [upsert_cons, hy, if_true, List.map_cons, List.mem_cons, keeps y hy] at h ⊢
      tauto
    · simp only [upsert_cons, hy, if_false, List.map_cons, List.mem_cons] at h ⊢
      rcases h with h | h
      · exact .inr (.inl h)
      · have := ih h
        tauto

lemma mem_keys_upsert_of (keeps : ∀ y, key y = key x → key (merge y x) = key x)
    (h : k = key x ∨ k ∈ l.map key) : k ∈ (upsert key merge x l).map key := by
  have found : (lookup key k (upsert key merge x l)).isSome := by
    rw [lookup_upsert keeps]
    split
    · rfl
    · rename_i other
      obtain rfl | mem := h
      · exact absurd rfl other
      · obtain ⟨y, mem, same⟩ := List.mem_map.mp mem
        exact List.find?_isSome.mpr ⟨y, mem, decide_eq_true same⟩
  obtain ⟨y, found⟩ := Option.isSome_iff_exists.mp found
  exact List.mem_map.mpr ⟨y, mem_of_lookup found, lookup_key found⟩

lemma mem_upsert {y : α} (mem : y ∈ upsert key merge x l) :
    y ∈ l ∨ y = x ∨ ∃ z ∈ l, key z = key x ∧ y = merge z x := by
  induction l with
  | nil => exact .inr (.inl (List.mem_singleton.mp mem))
  | cons z l ih =>
    rw [upsert_cons] at mem
    split at mem
    · rename_i same
      obtain rfl | mem := List.mem_cons.mp mem
      · exact .inr (.inr ⟨z, List.mem_cons_self, same, rfl⟩)
      · exact .inl (List.mem_cons_of_mem _ mem)
    · obtain rfl | mem := List.mem_cons.mp mem
      · exact .inl List.mem_cons_self
      · obtain old | new | ⟨w, mem, merged⟩ := ih mem
        · exact .inl (List.mem_cons_of_mem _ old)
        · exact .inr (.inl new)
        · exact .inr (.inr ⟨w, List.mem_cons_of_mem _ mem, merged⟩)

lemma nodup_upsert (keeps : ∀ y, key y = key x → key (merge y x) = key x)
    (nodup : (l.map key).Nodup) : ((upsert key merge x l).map key).Nodup := by
  induction l with
  | nil => simp [upsert_nil]
  | cons y l ih =>
    rw [List.map_cons, List.nodup_cons] at nodup
    by_cases hy : key y = key x
    · rw [upsert_cons, if_pos hy, List.map_cons, List.nodup_cons, keeps y hy, ← hy]
      exact nodup
    · rw [upsert_cons, if_neg hy, List.map_cons, List.nodup_cons]
      refine ⟨fun h => ?_, ih nodup.2⟩
      rcases mem_keys_upsert keeps h with e | h
      · exact hy e
      · exact nodup.1 h

lemma mem_replace (nodup : (l.map key).Nodup) {y : α} :
    y ∈ upsert key (fun _ new => new) x l ↔ y = x ∨ y ∈ l ∧ key y ≠ key x := by
  have nodup' : ((upsert key (fun _ new => new) x l).map key).Nodup := nodup_upsert (fun _ _ => rfl) nodup
  have new := mem_iff_lookup (k := key y) (x := y) nodup'
  have old := mem_iff_lookup (k := key y) (x := y) nodup
  rw [and_iff_left rfl] at new old
  rw [new, lookup_upsert fun _ _ => rfl, old]
  split_ifs with same
  · have replaced : (lookup key (key y) l).elim x (fun _ => x) = x := by
      cases lookup key (key y) l <;> rfl
    rw [replaced, Option.some_inj, eq_comm, or_iff_left fun other => other.2 same.symm]
  · rw [and_iff_left (Ne.symm same), or_iff_right]
    rintro rfl
    exact same rfl

lemma upsert_of_absent (absent : lookup key (key x) l = none) : upsert key merge x l = l ++ [x] := by
  induction l with
  | nil => rfl
  | cons y l ih =>
    rw [lookup_cons] at absent
    split_ifs at absent with same
    rw [upsert_cons, if_neg same, ih absent, List.cons_append]

lemma filter_upsert {p : α → Bool} (new : p x = false)
    (old : ∀ y, key y = key x → p y = false ∧ p (merge y x) = false) :
    (upsert key merge x l).filter p = l.filter p := by
  induction l with
  | nil => simp [upsert_nil, new]
  | cons y l ih =>
    by_cases same : key y = key x
    · simp [upsert_cons, same, old y same]
    · simp [upsert_cons, same, List.filter_cons, ih]

end Upsert

section Alter

variable {f : α → α}

lemma map_alter {β : Type} {g : α → β} (keeps : ∀ x, key x = k → g (f x) = g x) :
    (alter key k f l).map g = l.map g := by
  induction l with
  | nil => rfl
  | cons y l ih =>
    by_cases hy : key y = k
    · simp [alter, hy, keeps y hy]
    · simp [alter, hy, ih]

lemma lookup_alter (keeps : ∀ x, key x = k → key (f x) = k) (a : κ) :
    lookup key a (alter key k f l) = if k = a then (lookup key a l).map f else lookup key a l := by
  induction l with
  | nil => simp [alter]
  | cons y l ih =>
    by_cases hy : key y = k
    · have hf := keeps y hy
      by_cases ha : k = a <;> simp [alter, lookup_cons, hy, hf, ha]
    · rw [alter, if_neg hy, lookup_cons, ih, lookup_cons]
      by_cases ha : k = a
      · simp [show key y ≠ a from ha ▸ hy, ha]
      · simp [ha]

end Alter

end KiCore.Lib.Keyed

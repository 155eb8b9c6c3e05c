import Mathlib.Tactic

/-!
# Finite tables

Finite maps over an ordered key type: `Table κ υ` is `Std.TreeMap`, with the lookup lemmas of the
operations a program state is usually written with stated for propositional equality of keys. Three
operations are added to those of `Std.TreeMap`: `modifyAll`, the loop that modifies the value of
every key of a list, `values`, the values in key order, and `sum`, the sum of a weight over them.

A map whose iteration order is unspecified (a hash map) is a table read through an `IterOrder`: any
rearrangement of the values, so that what is proved holds in every order.
-/

namespace KiCore.Lib

/-- A finite map with ordered keys. -/
abbrev Table (κ : Type) (υ : Type) [Ord κ] : Type := Std.TreeMap κ υ compare

structure IterOrder (α : Type) where
  arrange : List α → List α
  perm : ∀ l, (arrange l).Perm l

def IterOrder.id {α : Type} : IterOrder α := ⟨fun l => l, fun _ => .refl _⟩

@[simp] lemma IterOrder.mem_arrange {α : Type} (o : IterOrder α) {l : List α} {x : α} :
    x ∈ o.arrange l ↔ x ∈ l :=
  (o.perm l).mem_iff

namespace Table

variable {κ υ : Type} [Ord κ]

def values (m : Table κ υ) : List υ := m.toList.map Prod.snd

/-- Modify the value of every key of a list, skipping the keys that are absent. -/
def modifyAll (m : Table κ υ) (ks : List κ) (f : υ → υ) : Table κ υ :=
  ks.foldl (fun m k => m.modify k f) m

def sum (f : υ → Nat) (m : Table κ υ) : Nat := (m.toList.map fun entry => f entry.2).sum

variable {f : υ → Nat} {m m' : Table κ υ} {k : κ} {v : υ}

lemma sum_filter_map {g : υ → υ} {p : κ → υ → Bool} (zero : ∀ k v, p k v = false → f v = 0) :
    sum f ((m.map fun _ v => g v).filter p) = sum (fun v => f (g v)) m := by
  rw [sum, sum, Std.TreeMap.toList_filter, Std.TreeMap.toList_map]
  induction m.toList with
  | nil => rfl
  | cons entry entries ih =>
    simp only [List.map_cons, List.filter_cons]
    cases hp : p entry.1 (g entry.2) with
    | true => simp only [if_true, List.map_cons, List.sum_cons, ih]
    | false =>
      have ends := zero entry.1 (g entry.2) hp
      simp only [Bool.false_eq_true, if_false, ih, List.sum_cons, ends, zero_add]

lemma sum_add {g : υ → Nat} : sum (fun v => f v + g v) m = sum f m + sum g m := by
  rw [sum, sum, sum]
  induction m.toList with
  | nil => rfl
  | cons entry entries ih =>
    simp only [List.map_cons, List.sum_cons, ih]
    omega

variable [Std.TransOrd κ]

@[simp] lemma get_empty {a : κ} : (∅ : Table κ υ)[a]? = none :=
  Std.TreeMap.getElem?_emptyc

lemma nodup_toList (m : Table κ υ) : m.toList.Nodup := by
  refine List.Nodup.of_map Prod.fst ?_
  rw [Std.TreeMap.map_fst_toList_eq_keys]
  exact Std.TreeMap.nodup_keys

variable [Std.LawfulEqOrd κ]

lemma get_map {υ' : Type} (m : Table κ υ) (f : κ → υ → υ') (a : κ) :
    (m.map f)[a]? = m[a]?.map (f a) :=
  Std.TreeMap.getElem?_map

lemma mem_values {m : Table κ υ} {v : υ} : v ∈ values m ↔ ∃ k : κ, m[k]? = some v := by
  constructor
  · intro hv
    obtain ⟨⟨k, v'⟩, hmem, rfl⟩ := List.mem_map.mp hv
    exact ⟨k, Std.TreeMap.mem_toList_iff_getElem?_eq_some.mp hmem⟩
  · rintro ⟨k, hk⟩
    exact List.mem_map.mpr ⟨(k, v), Std.TreeMap.mem_toList_iff_getElem?_eq_some.mpr hk, rfl⟩

lemma get_filter {m : Table κ υ} {f : κ → υ → Bool} {a : κ} {v : υ} :
    (m.filter f)[a]? = some v ↔ m[a]? = some v ∧ f a v = true := by
  rw [Std.TreeMap.getElem?_filter, Option.pfilter_eq_some_iff]
  simp

lemma toList_perm (h : ∀ a : κ, m[a]? = m'[a]?) : m.toList.Perm m'.toList := by
  refine (List.perm_ext_iff_of_nodup m.nodup_toList m'.nodup_toList).mpr fun entry => ?_
  rw [Std.TreeMap.mem_toList_iff_getElem?_eq_some, Std.TreeMap.mem_toList_iff_getElem?_eq_some, h]

lemma sum_congr (h : ∀ a : κ, m[a]? = m'[a]?) : sum f m = sum f m' := by
  have perm := toList_perm h
  exact (perm.map fun entry => f entry.2).sum_eq

variable [DecidableEq κ]

lemma get_insert (m : Table κ υ) (k a : κ) (v : υ) :
    (m.insert k v)[a]? = if k = a then some v else m[a]? := by
  simp [Std.TreeMap.getElem?_insert]

lemma get_erase (m : Table κ υ) (k a : κ) : (m.erase k)[a]? = if k = a then none else m[a]? := by
  simp [Std.TreeMap.getElem?_erase]

lemma get_erase_some {m : Table κ υ} {k a : κ} {v : υ} :
    (m.erase k)[a]? = some v ↔ k ≠ a ∧ m[a]? = some v := by
  rw [get_erase]
  split_ifs with same
  · simp [same]
  · simp [same]

lemma get_modify (m : Table κ υ) (k a : κ) (f : υ → υ) :
    (m.modify k f)[a]? = if k = a then m[a]?.map f else m[a]? := by
  by_cases h : k = a
  · subst h; simp
  · simp [Std.TreeMap.getElem?_modify, h]

lemma get_modifyAll {f : υ → υ} (idem : ∀ v, f (f v) = f v) (m : Table κ υ) (ks : List κ) (a : κ) :
    (modifyAll m ks f)[a]? = if a ∈ ks then m[a]?.map f else m[a]? := by
  induction ks generalizing m with
  | nil => simp [modifyAll]
  | cons k ks ih =>
    have step : modifyAll m (k :: ks) f = modifyAll (m.modify k f) ks f := rfl
    rw [step, ih, get_modify]
    by_cases hk : k = a
    · subst hk
      by_cases hks : k ∈ ks <;> simp [hks, Function.comp_def, idem]
    · by_cases hks : a ∈ ks <;> simp [hk, hks, Ne.symm hk]

lemma toList_insert (m : Table κ υ) (k : κ) (v : υ) :
    (m.insert k v).toList.Perm ((k, v) :: (m.erase k).toList) := by
  have fresh : (k, v) ∉ (m.erase k).toList := by
    rw [Std.TreeMap.mem_toList_iff_getElem?_eq_some, get_erase, if_pos rfl]
    exact Option.some_ne_none v ∘ Eq.symm
  refine (List.perm_ext_iff_of_nodup (nodup_toList _)
    (List.nodup_cons.mpr ⟨fresh, nodup_toList _⟩)).mpr fun entry => ?_
  obtain ⟨a, w⟩ := entry
  rw [List.mem_cons, Std.TreeMap.mem_toList_iff_getElem?_eq_some,
    Std.TreeMap.mem_toList_iff_getElem?_eq_some, get_insert, get_erase, Prod.mk.injEq]
  split_ifs with same
  · simp [same, eq_comm]
  · simp [Ne.symm same]

lemma values_insert (m : Table κ υ) (k : κ) (v : υ) :
    (values (m.insert k v)).Perm (v :: values (m.erase k)) :=
  (toList_insert m k v).map Prod.snd

lemma values_erase (m : Table κ υ) (k : κ) : (values m).Perm (m[k]?.toList ++ values (m.erase k)) := by
  cases h : m[k]? with
  | none =>
    refine (toList_perm fun a => ?_).map Prod.snd
    rw [get_erase]
    split_ifs with same
    · rw [← same, h]
    · rfl
  | some v =>
    refine List.Perm.trans ((toList_perm fun a => ?_).map Prod.snd) (values_insert m k v)
    rw [get_insert]
    split_ifs with same
    · rw [← same, h]
    · rfl

def sumBut (f : υ → Nat) (m : Table κ υ) (k : κ) : Nat :=
  ((m.toList.filter fun entry => k ≠ entry.1).map fun entry => f entry.2).sum

lemma sum_insert : sum f (m.insert k v) = f v + sumBut f m k := by
  rw [sum, (Std.TreeMap.toList_insert_perm.map fun entry => f entry.2).sum_eq]
  simp [sumBut]

lemma sum_of_get (h : m[k]? = some v) : sum f m = f v + sumBut f m k := by
  rw [← sum_insert]
  refine sum_congr fun a => ?_
  rw [get_insert]
  split_ifs with e
  · rw [← e, h]
  · rfl

lemma sum_erase : sum f (m.erase k) = sumBut f m k := by
  have same : sum f (m.erase k) = sum f (m.filter fun k' _ => k ≠ k') := by
    refine sum_congr fun a => ?_
    rw [get_erase]
    split_ifs with e
    · cases h : (m.filter fun k' _ => k ≠ k')[a]? with
      | none => rfl
      | some v =>
        obtain ⟨_, ne⟩ := get_filter.mp h
        simp [e] at ne
    · refine Option.ext fun v => ?_
      rw [get_filter]
      simp [e]
  rw [same, sum, Std.TreeMap.toList_filter]
  rfl

lemma sum_of_none (h : m[k]? = none) : sum f m = sumBut f m k := by
  rw [← sum_erase]
  refine sum_congr fun a => ?_
  rw [get_erase]
  split_ifs with e
  · rw [← e, h]
  · rfl

end Table

lemma strokes_injective :
    Function.Injective fun n : Nat => String.ofList (List.replicate (n + 1) '|') := by
  intro m n h
  have chars := congrArg String.toList h
  simpa using congrArg List.length chars

end KiCore.Lib

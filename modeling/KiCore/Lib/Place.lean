import Mathlib.Tactic
import Mathlib.Data.List.Sort

/-!
# Placing an element in a sorted list

A list is sorted strictly by the places of its elements. `place` puts one more element where its place says;
there is no other list of the same elements that is sorted (`eq_place`). `reinsert` says the same of a list
without places: an element is taken out and put back, in front or directly behind another one. What `place`
does with an element that comes directly behind another one is what `reinsert` does (`map_place_behind`).
-/

namespace KiCore.Lib

section

variable {α : Type*} [DecidableEq α]

/-- Put an element directly behind another one. -/
def insertAfter (x anchor : α) : List α → List α
  | [] => []
  | y :: l => if y = anchor then y :: x :: l else y :: insertAfter x anchor l

/-- Take an element out, and put it back in front or directly behind another one; behind itself it stays. -/
def reinsert (x : α) (after : Option α) (l : List α) : List α :=
  match after with
  | none => x :: l.erase x
  | some anchor => if anchor = x then l else insertAfter x anchor (l.erase x)

lemma insertAfter_append {x anchor : α} {before behind : List α} (first : anchor ∉ before) :
    insertAfter x anchor (before ++ anchor :: behind) = before ++ anchor :: x :: behind := by
  induction before with
  | nil => rw [List.nil_append, insertAfter, if_pos rfl, List.nil_append]
  | cons y before ih =>
    obtain ⟨ne, first⟩ := not_or.mp (List.mem_cons.not.mp first)
    rw [List.cons_append, insertAfter, if_neg (Ne.symm ne), ih first, List.cons_append]

end

variable {α β κ : Type*} [LinearOrder κ] {pos : α → κ} {x anchor : α} {l l' : List α}

def place (pos : α → κ) (x : α) (l : List α) : List α :=
  l.filter (fun y => pos y < pos x) ++ x :: l.filter fun y => ¬ pos y < pos x

lemma mem_place {y : α} : y ∈ place pos x l ↔ y = x ∨ y ∈ l := by
  simp only [place, List.mem_append, List.mem_cons, List.mem_filter, decide_eq_true_eq]
  tauto

lemma filter_append_filter_not {R : α → α → Prop} {p : α → Bool} (sorted : l.Pairwise R)
    (closed : ∀ a b, R a b → p b = true → p a = true) : l.filter p ++ l.filter (fun y => !p y) = l := by
  induction l with
  | nil => rfl
  | cons y l ih =>
    obtain ⟨first, rest⟩ := List.pairwise_cons.mp sorted
    have split := ih rest
    cases has : p y with
    | true =>
      rw [List.filter_cons_of_pos has, List.filter_cons_of_neg (by simp [has]), List.cons_append, split]
    | false =>
      have none : l.filter p = [] := by
        rw [List.filter_eq_nil_iff]
        intro z mem later
        rw [closed y z (first z mem) later] at has
        cases has
      rw [none, List.nil_append] at split
      rw [List.filter_cons_of_neg (by simp [has]), List.filter_cons_of_pos (by simp [has]), none,
        List.nil_append, split]

lemma filter_append_filter (sorted : l.Pairwise fun a b => pos a < pos b) (c : κ) :
    l.filter (fun y => pos y < c) ++ l.filter (fun y => ¬ pos y < c) = l := by
  have split := filter_append_filter_not (p := fun y => pos y < c) sorted fun a b lt before =>
    decide_eq_true (lt.trans (of_decide_eq_true before))
  simpa only [decide_not] using split

lemma filter_lt_gt {before behind : List α}
    (sorted : (before ++ x :: behind).Pairwise fun a b => pos a < pos b) :
    (before ++ x :: behind).filter (fun y => pos y < pos x) = before ∧
      (before ++ x :: behind).filter (fun y => pos x < pos y) = behind := by
  obtain ⟨-, sorted', apart⟩ := List.pairwise_append.mp sorted
  have front (y : α) (mem : y ∈ before) : pos y < pos x := apart y mem x List.mem_cons_self
  have back (y : α) (mem : y ∈ behind) : pos x < pos y := (List.pairwise_cons.mp sorted').1 y mem
  constructor
  · have none : (x :: behind).filter (fun y => pos y < pos x) = [] := by
      rw [List.filter_eq_nil_iff]
      intro y mem
      rw [decide_eq_true_eq, not_lt]
      rcases List.mem_cons.mp mem with rfl | mem
      · exact le_rfl
      · exact (back y mem).le
    rw [List.filter_append, none, List.append_nil, List.filter_eq_self]
    exact fun y mem => decide_eq_true (front y mem)
  · have none : before.filter (fun y => pos x < pos y) = [] := by
      rw [List.filter_eq_nil_iff]
      intro y mem
      rw [decide_eq_true_eq, not_lt]
      exact (front y mem).le
    rw [List.filter_append, none, List.nil_append, List.filter_cons_of_neg (by simp), List.filter_eq_self]
    exact fun y mem => decide_eq_true (back y mem)

section

variable (sorted : l.Pairwise fun a b => pos a < pos b)
include sorted

lemma sorted_place (apart : ∀ y ∈ l, pos y ≠ pos x) :
    (place pos x l).Pairwise fun a b => pos a < pos b := by
  refine List.pairwise_append.mpr ⟨sorted.filter _, ?_, ?_⟩
  · refine List.pairwise_cons.mpr ⟨fun y hy => ?_, sorted.filter _⟩
    obtain ⟨there, behind⟩ := List.mem_filter.mp hy
    exact lt_of_le_of_ne (not_lt.mp (of_decide_eq_true behind)) (apart y there).symm
  · intro y hy z hz
    obtain ⟨there, before⟩ := List.mem_filter.mp hy
    have before := of_decide_eq_true before
    rcases List.mem_cons.mp hz with rfl | hz
    · exact before
    · obtain ⟨_, behind⟩ := List.mem_filter.mp hz
      exact before.trans_le (not_lt.mp (of_decide_eq_true behind))

lemma eq_of_sorted
    (sorted' : l'.Pairwise fun a b => pos a < pos b) (same : ∀ y, y ∈ l ↔ y ∈ l') : l = l' := by
  have : Std.Irrefl fun a b : α => pos a < pos b := ⟨fun a => lt_irrefl (pos a)⟩
  have : Std.Antisymm fun a b : α => pos a < pos b := ⟨fun a b ab ba => absurd ba ab.asymm⟩
  exact sorted.eq_of_mem_iff sorted' same

lemma eq_place (sorted' : l'.Pairwise fun a b => pos a < pos b) (apart : ∀ y ∈ l, pos y ≠ pos x)
    (same : ∀ y, y ∈ l' ↔ y = x ∨ y ∈ l) : l' = place pos x l :=
  eq_of_sorted sorted' (sorted_place sorted apart) fun y => (same y).trans mem_place.symm

end

lemma place_first (first : ∀ y ∈ l, pos x < pos y) : place pos x l = x :: l := by
  have none : l.filter (fun y => pos y < pos x) = [] := by
    rw [List.filter_eq_nil_iff]
    intro y hy
    rw [decide_eq_true_eq, not_lt]
    exact (first y hy).le
  have all : l.filter (fun y => ¬ pos y < pos x) = l := by
    rw [List.filter_eq_self]
    intro y hy
    rw [decide_eq_true_eq, not_lt]
    exact (first y hy).le
  rw [place, none, all, List.nil_append]

lemma map_place_congr {item : α → β} {x' : α} (alike : ∀ y ∈ l, pos y < pos x ↔ pos y < pos x')
    (same : item x = item x') : (place pos x l).map item = (place pos x' l).map item := by
  have before : l.filter (fun y => pos y < pos x) = l.filter fun y => pos y < pos x' :=
    List.filter_congr fun y hy => decide_eq_decide.mpr (alike y hy)
  have behind : l.filter (fun y => ¬ pos y < pos x) = l.filter fun y => ¬ pos y < pos x' :=
    List.filter_congr fun y hy => decide_eq_decide.mpr (not_congr (alike y hy))
  rw [place, place, before, behind, List.map_append, List.map_append, List.map_cons, List.map_cons, same]

lemma map_place_behind [DecidableEq β] {item : α → β} (sorted : l.Pairwise fun a b => pos a < pos b)
    (nodup : (l.map item).Nodup) (there : anchor ∈ l) (lt : pos anchor < pos x)
    (next : ∀ y ∈ l, pos anchor < pos y → ¬ pos y < pos x) :
    (place pos x l).map item = insertAfter (item x) (item anchor) (l.map item) := by
  have split := filter_append_filter sorted (pos x)
  -- the anchor is the last one of those in front
  obtain ⟨before, behind, front⟩ := List.append_of_mem
    (List.mem_filter.mpr ⟨there, decide_eq_true lt⟩ : anchor ∈ l.filter fun y => pos y < pos x)
  have last : behind = [] := by
    rw [List.eq_nil_iff_forall_not_mem]
    intro y hy
    have listed : y ∈ l.filter fun y => pos y < pos x := by
      rw [front]
      exact List.mem_append_right _ (List.mem_cons_of_mem _ hy)
    obtain ⟨mem, before⟩ := List.mem_filter.mp listed
    have order := (sorted.filter fun y => pos y < pos x)
    rw [front, List.pairwise_append, List.pairwise_cons] at order
    exact next y mem (order.2.1.1 y hy) (of_decide_eq_true before)
  subst last
  rw [front, List.append_assoc, List.singleton_append] at split
  have fresh : item anchor ∉ before.map item := by
    rw [← split, List.map_append, List.map_cons, List.nodup_append] at nodup
    intro mem
    exact nodup.2.2 _ mem _ (List.mem_cons_self ..) rfl
  conv_rhs => rw [← split, List.map_append, List.map_cons, insertAfter_append fresh]
  rw [place, front, List.append_assoc, List.singleton_append, List.map_append, List.map_cons, List.map_cons]

end KiCore.Lib

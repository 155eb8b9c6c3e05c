import Mathlib.Tactic

/-!
# Greedy pairing

`pairUp` goes through a list and gives each element the first that fits among those of another list
that are still free. Where what fits is what is of the same class, the pairing is by rank: the
element that has `k` of its class before it gets the one of the other list that has `k` of that
class before it (`partner_eq`), and what is left over of a class is what comes after the ones that
were given away (`left_class`).
-/

namespace KiCore.Lib

variable {α β γ : Type}

/-- Give each element of a list the first of another list that fits and is still free. What comes
with the pairing is what is left of the other list. -/
def pairUp (fits : α → β → Bool) : List α → List β → List (α × Option β) × List β
  | [], free => ([], free)
  | a :: as, free =>
    let (pairs, left) := pairUp fits as (free.eraseP (fits a))
    ((a, free.find? (fits a)) :: pairs, left)

namespace pairUp

variable {fits : α → β → Bool} {as as' : List α} {free : List β} {a : α} {b : β} {o : Option β}
  {less greater : List (α × Option β)}

lemma cons : pairUp fits (a :: as) free =
    ((a, free.find? (fits a)) :: (pairUp fits as (free.eraseP (fits a))).1,
      (pairUp fits as (free.eraseP (fits a))).2) :=
  rfl

lemma map_fst (fits : α → β → Bool) (as : List α) (free : List β) :
    (pairUp fits as free).1.map Prod.fst = as := by
  induction as generalizing free with
  | nil => rfl
  | cons a as ih => rw [cons, List.map_cons, ih]

lemma append : pairUp fits (as ++ as') free =
    ((pairUp fits as free).1 ++ (pairUp fits as' (pairUp fits as free).2).1,
      (pairUp fits as' (pairUp fits as free).2).2) := by
  induction as generalizing free with
  | nil => rfl
  | cons a as ih => rw [List.cons_append, cons, ih, cons, List.cons_append]

variable [DecidableEq γ] {f : α → Option γ} {g : β → Option γ} {c : γ}

def ofClass {δ : Type} (h : δ → Option γ) (c : γ) (xs : List δ) : List δ :=
  xs.filter fun x => h x = some c

section

variable (class_ : ∀ a b, fits a b = true ↔ (f a).isSome ∧ g b = f a)
include class_

lemma class_eraseP :
    ofClass g c (free.eraseP (fits a)) =
      if f a = some c then (ofClass g c free).tail else ofClass g c free := by
  induction free with
  | nil => split_ifs <;> rfl
  | cons b free ih =>
    rw [List.eraseP_cons]
    cases e : fits a b with
    | true =>
      obtain ⟨known, same⟩ := (class_ a b).mp e
      split_ifs with h
      · rw [cond_true, ofClass, ofClass, List.filter_cons_of_pos (by simpa [same] using h)]
        rfl
      · rw [cond_true, ofClass, ofClass, List.filter_cons_of_neg (by simpa [same] using h)]
    | false =>
      rw [cond_false]
      by_cases mem : g b = some c
      · have other : f a ≠ some c := by
          intro h
          exact absurd ((class_ a b).mpr ⟨h ▸ rfl, mem.trans h.symm⟩) (by simp [e])
        rw [if_neg other] at ih ⊢
        rw [ofClass, List.filter_cons_of_pos (by simpa using mem), ofClass,
          List.filter_cons_of_pos (by simpa using mem)]
        exact congrArg (b :: ·) ih
      · rw [ofClass, List.filter_cons_of_neg (by simpa using mem)]
        refine ih.trans ?_
        rw [ofClass, ofClass, List.filter_cons_of_neg (by simpa using mem)]

lemma left_class :
    ofClass g c (pairUp fits as free).2 = (ofClass g c free).drop (ofClass f c as).length := by
  induction as generalizing free with
  | nil => rfl
  | cons a as ih =>
    rw [cons, ih, class_eraseP class_]
    split_ifs with h
    · rw [ofClass, ofClass, ofClass, List.filter_cons_of_pos (by simpa using h), List.length_cons,
        ← List.drop_one, List.drop_drop, Nat.add_comm]
    · rw [ofClass, ofClass, ofClass, List.filter_cons_of_neg (by simpa using h)]

lemma find_class (known : f a = some c) : free.find? (fits a) = (ofClass g c free)[0]? := by
  have same : fits a = fun b => decide (g b = some c) := by
    funext b
    have h := class_ a b
    rw [known] at h
    cases e : fits a b with
    | true => exact (decide_eq_true (h.mp e).2).symm
    | false => exact (decide_eq_false fun e' => by simp [e] at h; exact h e').symm
  rw [same, ofClass, ← List.head?_filter, List.head?_eq_getElem?]

end

omit [DecidableEq γ] in
lemma find_none (class_ : ∀ a b, fits a b = true ↔ (f a).isSome ∧ g b = f a) (unknown : f a = none) :
    free.find? (fits a) = none := by
  rw [List.find?_eq_none]
  intro b _ e
  have known := ((class_ a b).mp e).1
  rw [unknown] at known
  cases known

lemma partner_eq (as as' : List α) (free : List β)
    (class_ : ∀ a b, fits a b = true ↔ (f a).isSome ∧ g b = f a) :
    (pairUp fits (as ++ a :: as') free).1 = (pairUp fits as free).1 ++
      (a, (f a).bind fun c => (ofClass g c free)[(ofClass f c as).length]?) ::
        (pairUp fits as' ((pairUp fits as free).2.eraseP (fits a))).1 := by
  rw [append, cons]
  cases known : f a with
  | none => rw [find_none class_ known, Option.bind_none]
  | some c =>
    rw [find_class class_ known, left_class class_, Option.bind_some, List.getElem?_drop, Nat.add_zero]

lemma split (class_ : ∀ a b, fits a b = true ↔ (f a).isSome ∧ g b = f a)
    (e : (pairUp fits as free).1 = less ++ (a, o) :: greater) :
    ∃ before after, as = before ++ a :: after ∧ less = (pairUp fits before free).1 ∧
      o = (f a).bind fun c => (ofClass g c free)[(ofClass f c before).length]? := by
  have parts : as = less.map Prod.fst ++ a :: greater.map Prod.fst := by
    rw [← map_fst fits as free, e, List.map_append, List.map_cons]
  have paired := partner_eq (a := a) (less.map Prod.fst) (greater.map Prod.fst) free class_
  rw [← parts, e] at paired
  have lengths : less.length = (pairUp fits (less.map Prod.fst) free).1.length := by
    have fsts := congrArg List.length (map_fst fits (less.map Prod.fst) free)
    rwa [List.length_map, List.length_map, eq_comm] at fsts
  obtain ⟨same, rest⟩ := List.append_inj paired lengths
  exact ⟨_, _, parts, same, congrArg Prod.snd (List.cons_eq_cons.mp rest).1⟩

lemma partner_none (as : List α) (free : List β) :
    ((f a).bind fun c => (ofClass g c free)[(ofClass f c as).length]?) = none ↔
    ∀ c, f a = some c → (ofClass g c free).length ≤ (ofClass f c as).length := by
  cases f a with
  | none => simp
  | some c => simp

lemma mem_free (mem : (a, some b) ∈ (pairUp fits as free).1) : b ∈ free ∧ fits a b = true := by
  induction as generalizing free with
  | nil => cases mem
  | cons a' as ih =>
    rw [cons] at mem
    rcases List.mem_cons.mp mem with e | mem
    · cases e' : free.find? (fits a') with
      | none => simp [e'] at e
      | some b' =>
        rw [e'] at e
        cases e
        exact ⟨List.mem_of_find?_eq_some e', List.find?_some e'⟩
    · obtain ⟨mem, same⟩ := ih mem
      exact ⟨List.mem_of_mem_eraseP mem, same⟩

lemma left_sublist : (pairUp fits as free).2.Sublist free := by
  induction as generalizing free with
  | nil => exact List.Sublist.refl _
  | cons a as ih => exact ih.trans List.eraseP_sublist

lemma perm_free (fits : α → β → Bool) (as : List α) (free : List β) :
    ((pairUp fits as free).1.filterMap Prod.snd ++ (pairUp fits as free).2).Perm free := by
  induction as generalizing free with
  | nil => exact .refl _
  | cons a as ih =>
    rw [cons]
    cases e : free.find? (fits a) with
    | none =>
      rw [List.filterMap_cons_none rfl]
      refine (ih _).trans ?_
      rw [List.eraseP_of_forall_not fun b mem => List.find?_eq_none.mp e b mem]
    | some b =>
      refine List.Perm.trans ((ih _).cons b) ?_
      obtain ⟨fit, before, after, rfl, others⟩ := List.find?_eq_some_iff_append.mp e
      rw [List.eraseP_append_right _ fun b' mem => by simpa using others b' mem,
        List.eraseP_cons_of_pos fit]
      exact List.perm_middle.symm

lemma mem_left_iff (as : List α) {before after : List β}
    (class_ : ∀ a b, fits a b = true ↔ (f a).isSome ∧ g b = f a)
      (nodup : (before ++ b :: after).Nodup) :
    b ∈ (pairUp fits as (before ++ b :: after)).2 ↔
      ∀ c, g b = some c → (ofClass f c as).length ≤ (ofClass g c before).length := by
  cases known : g b with
  | none =>
    refine iff_of_true ?_ (fun c e => (by cases e))
    have mem := (perm_free fits as (before ++ b :: after)).mem_iff.mpr
      (List.mem_append_right before (List.mem_cons_self (a := b) (l := after)))
    rcases List.mem_append.mp mem with given | left
    · obtain ⟨⟨a, _⟩, mem, rfl⟩ := List.mem_filterMap.mp given
      obtain ⟨isSome, same⟩ := (class_ a b).mp (mem_free mem).2
      rw [← same, known] at isSome
      cases isSome
    · exact left
  | some c =>
    have parts : ofClass g c (before ++ b :: after) = ofClass g c before ++ b :: ofClass g c after := by
      rw [ofClass, List.filter_append, List.filter_cons_of_pos (by simpa using known)]
      rfl
    have inClass : b ∈ (pairUp fits as (before ++ b :: after)).2 ↔
        b ∈ (ofClass g c before ++ b :: ofClass g c after).drop (ofClass f c as).length := by
      rw [← parts, ← left_class class_, ofClass, List.mem_filter, and_iff_left (by simpa using known)]
    have nodup' : (ofClass g c before ++ b :: ofClass g c after).Nodup := by
      rw [← parts]
      exact nodup.filter _
    rw [inClass]
    constructor
    · rintro mem c' ⟨⟩
      by_contra lt
      obtain ⟨k, e⟩ := Nat.exists_eq_add_of_lt (Nat.lt_of_not_le lt)
      rw [e, List.drop_append, List.drop_eq_nil_of_le (by omega), List.nil_append, Nat.add_assoc,
        Nat.add_sub_cancel_left, List.drop_succ_cons] at mem
      exact (List.nodup_cons.mp (List.nodup_append.mp nodup').2.1).1 (List.mem_of_mem_drop mem)
    · intro le
      have le := le c rfl
      rw [List.drop_append_of_le_length le]
      exact List.mem_append_right _ List.mem_cons_self

end pairUp

end KiCore.Lib

import Mathlib.Tactic

/-!
# Sliding windows

`windowAt width history t` is what a history of times holds in the half-open interval of the width that ends
at `t`. A program that limits how much it admits in such an interval keeps a queue of times instead of the
history, and prunes it as its clock goes on: `KeepsAfter` says that queue and history agree after a cutoff,
which is all that later windows depend on.

`windowAt_le` is the rule for limits: what admits a time only if the window that ends there has room keeps
every window within the limit.
-/

namespace KiCore.Lib

/-- The times in the half-open interval of the width that ends at `t`. -/
def windowAt (width : Int) (history : List Int) (t : Int) : List Int :=
  history.filter fun s => t - width < s ∧ s ≤ t

/-- The queue holds what the history holds after the cutoff. -/
def KeepsAfter (cutoff : Int) (queue history : List Int) : Prop :=
  queue.filter (cutoff < ·) = history.filter (cutoff < ·)

variable {width cutoff cutoff' t now : Int} {queue history : List Int} {limit : Nat}

namespace KeepsAfter

variable (keeps : KeepsAfter cutoff queue history)
include keeps

lemma mono (le : cutoff ≤ cutoff') : KeepsAfter cutoff' queue history := by
  have later : ∀ times : List Int,
      (times.filter (cutoff < ·)).filter (cutoff' < ·) = times.filter (cutoff' < ·) := by
    intro times
    rw [List.filter_filter]
    apply List.filter_congr
    intro s _
    simp only [← Bool.decide_and, decide_eq_decide]
    omega
  have both := congrArg (List.filter (cutoff' < ·)) keeps
  rw [later, later] at both
  exact both

lemma prune : KeepsAfter cutoff (queue.filter (cutoff < ·)) history := by
  have twice : (queue.filter (cutoff < ·)).filter (cutoff < ·) = queue.filter (cutoff < ·) := by
    rw [List.filter_filter]
    simp only [Bool.and_self]
  exact twice.trans keeps

lemma record : KeepsAfter cutoff (queue ++ [t]) (history ++ [t]) := by
  unfold KeepsAfter
  rw [List.filter_append, List.filter_append]
  exact congrArg (· ++ _) keeps

end KeepsAfter

lemma windowAt_last (last : ∀ s ∈ history, s ≤ now) :
    windowAt width history now = history.filter (now - width < ·) := by
  apply List.filter_congr
  intro s hs
  have le := last s hs
  simp only [decide_eq_decide]
  omega

lemma windowAt_append : windowAt width (history ++ [now]) t =
    windowAt width history t ++ if t - width < now ∧ now ≤ t then [now] else [] := by
  unfold windowAt
  rw [List.filter_append]
  congr 1
  split_ifs with inside
  · exact List.filter_cons_of_pos (by simpa using inside)
  · exact List.filter_cons_of_neg (by simpa using inside)

lemma length_windowAt_le (last : ∀ s ∈ history, s ≤ now) (le : now ≤ t) :
    (windowAt width history t).length ≤ (windowAt width history now).length := by
  rw [windowAt_last last]
  apply List.Sublist.length_le
  apply List.monotone_filter_right
  intro s inside
  simp only [decide_eq_true_eq] at inside ⊢
  omega

lemma windowAt_le (last : ∀ s ∈ history, s ≤ now)
    (within : ∀ t, (windowAt width history t).length ≤ limit)
    (room : (windowAt width history now).length < limit) :
    (windowAt width (history ++ [now]) t).length ≤ limit := by
  rw [windowAt_append, List.length_append]
  split_ifs with inside
  · have fewer : (windowAt width history t).length ≤ _ := length_windowAt_le last inside.2
    rw [List.length_singleton]
    omega
  · rw [List.length_nil]
    exact within t

end KiCore.Lib

import Mathlib.Tactic

/-!
# Keyset paging

A sorted list is read window by window. A window shows what `view` makes of its entries, and names
the cursor of its last entry as long as more entries follow; the next window is taken from the
entries whose keys are greater. `exhausts_iff` says that a reader who follows the cursors, with
windows of any lengths, is shown what `view` makes of the whole list, each entry once.
-/

namespace KiCore.Lib.Paging

variable {α β γ κ : Type*}

/-- An answer to a request: what is shown, and the cursor to go on from. -/
structure Page (γ β : Type*) where
  items : List β
  next : Option γ

def window (cursor : α → γ) (view : α → Option β) (limit : Nat) (l : List α) : Page γ β where
  items := (l.take limit).filterMap view
  next := if limit < l.length then (l.take limit).getLast?.map cursor else none

/-- A reader goes on from a cursor until there is none, the `k`th request being `request k`. -/
inductive Exhausts (request : Nat → γ → Option (Page γ β)) : Nat → Option γ → List β → Prop where
  | done {k} : Exhausts request k none []
  | more {k cursor page rest} : request k cursor = some page → Exhausts request (k + 1) page.next rest →
      Exhausts request k (some cursor) (page.items ++ rest)

variable {cursor : α → γ} {view : α → Option β}

lemma window_next (cursor : α → γ) (view : α → Option β) {n : Nat} (l : List α) (pos : 0 < n) :
    (window cursor view n l).next = none ∧ l.drop n = [] ∨
      ∃ y, (window cursor view n l).next = some (cursor y) ∧ l.drop n ≠ [] ∧
        (l.take n).getLast? = some y := by
  by_cases more : n < l.length
  · have full : l.take n ≠ [] := by
      rw [ne_eq, List.take_eq_nil_iff, not_or]
      exact ⟨pos.ne', List.ne_nil_of_length_pos (by omega)⟩
    have last := List.getLast?_eq_some_getLast full
    refine .inr ⟨(l.take n).getLast full, ?_, ?_, last⟩
    · simp only [window, if_pos more, last, Option.map_some]
    · rw [ne_eq, List.drop_eq_nil_iff]
      omega
  · refine .inl ⟨?_, List.drop_eq_nil_of_le (by omega)⟩
    simp only [window, if_neg more]

variable [LinearOrder κ] {key : α → κ}

lemma sorted_mergeSort {le : α → α → Bool} {l : List α} (cmp : ∀ a b, le a b = decide (key a ≤ key b))
    (nodup : (l.map key).Nodup) : (l.mergeSort le).Pairwise fun a b => key a < key b := by
  have sorted : (l.mergeSort le).Pairwise fun a b => le a b = true := by
    apply List.pairwise_mergeSort
    · intro a b c ab bc
      rw [cmp, decide_eq_true_eq] at *
      exact ab.trans bc
    · intro a b
      simp only [cmp, Bool.or_eq_true, decide_eq_true_eq]
      exact le_total _ _
  have distinct : (l.mergeSort le).Pairwise fun a b => key a ≠ key b := by
    rw [← List.pairwise_map (R := (· ≠ ·))]
    exact ((List.mergeSort_perm l le).map key).nodup_iff.mpr nodup
  refine (sorted.and distinct).imp fun both => ?_
  rw [cmp, decide_eq_true_eq] at both
  exact lt_of_le_of_ne both.1 both.2

lemma filter_after {xs rest : List α} {y : α} (sorted : (xs ++ rest).Pairwise fun a b => key a < key b)
    (last : xs.getLast? = some y) : (xs ++ rest).filter (fun x => key y < key x) = rest := by
  obtain ⟨init, rfl⟩ := List.getLast?_eq_some_iff.mp last
  rw [List.pairwise_append, List.pairwise_append] at sorted
  obtain ⟨⟨-, -, before⟩, -, later⟩ := sorted
  have none : (init ++ [y]).filter (fun x => key y < key x) = [] := by
    rw [List.filter_eq_nil_iff]
    intro x mem
    rw [decide_eq_true_eq, not_lt]
    rw [List.mem_append, List.mem_singleton] at mem
    obtain mem | rfl := mem
    · exact (before x mem y (List.mem_singleton.mpr rfl)).le
    · exact le_rfl
  have all : rest.filter (fun x => key y < key x) = rest := by
    rw [List.filter_eq_self]
    intro x mem
    rw [decide_eq_true_eq]
    exact later y (List.mem_append_right _ (List.mem_singleton.mpr rfl)) x mem
  rw [List.filter_append, none, all, List.nil_append]

variable {l : List α} {limit : Nat → Nat} {request : Nat → γ → Option (Page γ β)}

/-- A reader who goes on from a window is shown what the window leaves. -/
theorem exhausts_iff (sorted : l.Pairwise fun a b => key a < key b) (pos : ∀ k, 0 < limit k)
    (answers : ∀ k, ∀ y ∈ l, request k (cursor y) =
      some (window cursor view (limit k) (l.filter fun x => key y < key x)))
    {n : Nat} (first : 0 < n) {k : Nat} {shown : List β} :
    Exhausts request k (window cursor view n l).next shown ↔ shown = (l.drop n).filterMap view := by
  -- The entries that are left decrease, while the list stays that of the requests.
  suffices goal : ∀ m xs rest, l = xs ++ rest → rest.length = m → ∀ n k shown, 0 < n →
      (Exhausts request k (window cursor view n rest).next shown ↔
        shown = (rest.drop n).filterMap view) from
    goal l.length [] l rfl rfl n k shown first
  intro m
  induction m using Nat.strong_induction_on with
  | _ m ih =>
    intro xs rest split len n k shown first
    obtain ⟨none, empty⟩ | ⟨y, next, more, last⟩ := window_next cursor view rest first
    · rw [none, empty]
      constructor
      · intro read
        cases read
        rfl
      · rintro rfl
        exact .done
    · have split' : l = (xs ++ rest.take n) ++ rest.drop n := by
        rw [List.append_assoc, List.take_append_drop, split]
      have last' : (xs ++ rest.take n).getLast? = some y := by
        rw [List.getLast?_append, last, Option.some_or]
      have mem : y ∈ l := by
        rw [split']
        exact List.mem_append_left _ (List.mem_of_getLast? last')
      have answer := answers k y mem
      rw [split', filter_after (split' ▸ sorted) last'] at answer
      have fewer : (rest.drop n).length < m := by
        have := List.length_pos_iff.mpr more
        rw [List.length_drop] at this ⊢
        omega
      have later := ih _ fewer (xs ++ rest.take n) (rest.drop n) split' rfl (limit k) (k + 1)
      rw [next]
      have all : (rest.drop n).filterMap view = (window cursor view (limit k) (rest.drop n)).items ++
          ((rest.drop n).drop (limit k)).filterMap view := by
        rw [window, ← List.filterMap_append, List.take_append_drop]
      constructor
      · intro read
        cases read with
        | more answered read =>
          rw [answer] at answered
          obtain rfl := Option.some.inj answered
          rw [(later _ (pos k)).mp read, all]
      · rintro rfl
        rw [all]
        exact .more answer ((later _ (pos k)).mpr rfl)

end KiCore.Lib.Paging

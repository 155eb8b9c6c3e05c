import Mathlib.Data.List.DropRight
import Mathlib.Data.List.Infix
import Mathlib.Tactic

/-!
# Text as lists

Trimming, the last occurrence of a pattern, and lists of pieces joined by a separator, over any
characters; and the trimming of strings.
-/

namespace KiCore.Lib.Text

variable {α : Type} {p : α → Bool} {l l' a b : List α} {sep : α} {parts : List (List α)}

/-- Without the characters of a kind at both ends. -/
def trim (p : α → Bool) (l : List α) : List α := (l.dropWhile p).rdropWhile p

lemma rdropWhile_append_of_all (blank : ∀ x ∈ b, p x = true) :
    (a ++ b).rdropWhile p = a.rdropWhile p := by
  rw [List.rdropWhile, List.reverse_append,
    List.dropWhile_append_of_pos fun x mem => blank x (List.mem_reverse.mp mem)]
  rfl

lemma dropWhile_append_of_not (solid : ∃ x ∈ a, p x = false) :
    (a ++ b).dropWhile p = a.dropWhile p ++ b := by
  rw [List.dropWhile_append, if_neg]
  intro empty
  obtain ⟨x, mem, not⟩ := solid
  have all := List.dropWhile_eq_nil_iff.mp (List.isEmpty_iff.mp empty) x mem
  rw [not] at all
  exact Bool.false_ne_true all

lemma rdropWhile_append_of_not (solid : ∃ x ∈ b, p x = false) :
    (a ++ b).rdropWhile p = a ++ b.rdropWhile p := by
  obtain ⟨x, mem, not⟩ := solid
  rw [List.rdropWhile, List.reverse_append,
    dropWhile_append_of_not ⟨x, List.mem_reverse.mpr mem, not⟩, List.reverse_append,
    List.reverse_reverse]
  rfl

lemma trim_append_of_all (blank : ∀ x ∈ b, p x = true) : trim p (a ++ b) = trim p a := by
  by_cases solid : ∃ x ∈ a, p x = false
  · rw [trim, dropWhile_append_of_not solid, rdropWhile_append_of_all blank]
    rfl
  · have all : ∀ x ∈ a, p x = true := by simpa using solid
    rw [trim, trim, List.dropWhile_append_of_pos all, List.dropWhile_eq_nil_iff.mpr blank,
      List.dropWhile_eq_nil_iff.mpr all]

lemma head_of_dropWhile {x : α} (left : l.dropWhile p = x :: a) : p x = false := by
  have head := List.head_dropWhile_not p (left ▸ List.cons_ne_nil x a)
  simpa only [left, List.head_cons] using head

lemma trim_eq_nil : trim p l = [] ↔ ∀ x ∈ l, p x = true := by
  rw [trim, List.rdropWhile_eq_nil_iff, ← List.dropWhile_eq_nil_iff (l := l)]
  constructor
  · intro all
    cases left : l.dropWhile p with
    | nil => rfl
    | cons x rest =>
      have blank := all x (left ▸ List.mem_cons_self)
      rw [head_of_dropWhile left] at blank
      cases blank
  · intro empty
    rw [empty]
    exact List.forall_mem_nil _

lemma length_trim_lt (solid : ∃ x ∈ b, p x = false) :
    (trim p a).length < (trim p (a ++ b)).length := by
  have left : trim p b ≠ [] := by
    intro empty
    obtain ⟨x, mem, not⟩ := solid
    rw [trim_eq_nil.mp empty x mem] at not
    cases not
  by_cases some_ : ∃ x ∈ a, p x = false
  · have rest : b.rdropWhile p ≠ [] := by
      intro empty
      obtain ⟨x, mem, not⟩ := solid
      rw [List.rdropWhile_eq_nil_iff.mp empty x mem] at not
      cases not
    rw [trim, trim, dropWhile_append_of_not some_, rdropWhile_append_of_not solid, List.length_append]
    have shorter := (List.rdropWhile_prefix p (a.dropWhile p)).length_le
    have positive := List.length_pos_iff.mpr rest
    omega
  · have all : ∀ x ∈ a, p x = true := by simpa using some_
    rw [trim_eq_nil.mpr all, trim, List.dropWhile_append_of_pos all]
    exact List.length_pos_iff.mpr left

lemma length_trim_le : (trim p l).length ≤ l.length :=
  (List.rdropWhile_prefix p _).length_le.trans (List.dropWhile_suffix p).length_le

lemma trim_trim : trim p (trim p l) = trim p l := by
  cases left : trim p l with
  | nil => rfl
  | cons x rest =>
    obtain ⟨tail, split⟩ := List.rdropWhile_prefix p (l.dropWhile p)
    change trim p l ++ tail = _ at split
    rw [left] at split
    rw [trim, List.dropWhile_cons_of_neg (Bool.eq_false_iff.mp (head_of_dropWhile split.symm)), ← left,
      trim, List.rdropWhile_idempotent]

section Occurrence

variable [DecidableEq α] {pattern : List α}

/-- What is before the last occurrence of a pattern, and what is behind it. -/
def rsplitOnce (pattern : List α) : List α → Option (List α × List α)
  | [] => if pattern = [] then some ([], []) else none
  | x :: l => match rsplitOnce pattern l with
    | some (a, b) => some (x :: a, b)
    | none => if pattern <+: x :: l then some ([], (x :: l).drop pattern.length) else none

lemma rsplitOnce_append (found : rsplitOnce pattern l = some (a, b)) (l' : List α) :
    rsplitOnce pattern (l' ++ l) = some (l' ++ a, b) := by
  induction l' with
  | nil => exact found
  | cons x l' ih => rw [List.cons_append, rsplitOnce, ih, List.cons_append]

variable (full : pattern ≠ [])
include full

lemma rsplitOnce_eq_none : rsplitOnce pattern l = none ↔ ¬ pattern <:+: l := by
  induction l with
  | nil =>
    rw [rsplitOnce, if_neg full, List.infix_nil]
    exact iff_of_true rfl full
  | cons x l ih =>
    rw [List.infix_cons_iff, not_or, ← ih, rsplitOnce]
    cases rsplitOnce pattern l with
    | some pair => simp
    | none => simp

lemma eq_of_rsplitOnce (found : rsplitOnce pattern l = some (a, b)) : l = a ++ pattern ++ b := by
  induction l generalizing a with
  | nil =>
    rw [rsplitOnce, if_neg full] at found
    cases found
  | cons x l ih =>
    rw [rsplitOnce] at found
    cases rest : rsplitOnce pattern l with
    | some pair =>
      rw [rest] at found
      cases found
      exact congrArg (List.cons x) (ih rest)
    | none =>
      rw [rest] at found
      by_cases here : pattern <+: x :: l
      · rw [if_pos here] at found
        cases found
        exact (List.prefix_iff_eq_append.mp here).symm
      · rw [if_neg here] at found
        cases found

lemma rsplitOnce_of_last (last : ¬ pattern <:+: pattern.tail ++ b) :
    rsplitOnce pattern (a ++ pattern ++ b) = some (a, b) := by
  have here : rsplitOnce pattern (pattern ++ b) = some ([], b) := by
    obtain ⟨x, rest, rfl⟩ := List.exists_cons_of_ne_nil full
    have none_ : rsplitOnce (x :: rest) (rest ++ b) = none := (rsplitOnce_eq_none full).mpr last
    rw [List.cons_append, rsplitOnce, none_]
    exact (if_pos (List.prefix_append (x :: rest) b)).trans
      (congrArg (fun rest => some ([], rest)) List.drop_left)
  rw [List.append_assoc, rsplitOnce_append here, List.append_nil]

end Occurrence

variable {pattern : List α}

lemma infix_append_cons (clean : sep ∉ pattern) :
    pattern <:+: l ++ sep :: l' ↔ pattern <:+: l ∨ pattern <:+: l' := by
  have here : ∀ {part}, part ⊆ pattern → part <+: sep :: l' → part = [] := by
    intro part sub start
    cases part with
    | nil => rfl
    | cons x part =>
      obtain ⟨rfl, -⟩ := List.cons_prefix_cons.mp start
      exact absurd (sub List.mem_cons_self) clean
  constructor
  · intro found
    rcases List.infix_append_iff.mp found with left | right | ⟨before, after, rfl, ends, starts⟩
    · exact .inl left
    · rcases List.infix_cons_iff.mp right with start | right
      · rw [here (List.Subset.refl _) start]
        exact .inl (List.nil_infix)
      · exact .inr right
    · rw [here (List.subset_append_right _ _) starts, List.append_nil]
      exact .inl ends.isInfix
  · rintro (left | right)
    · exact List.infix_append_of_infix_left left
    · exact List.infix_append_of_infix_right (List.infix_cons right)

lemma infix_intercalate (full : pattern ≠ []) (clean : sep ∉ pattern) :
    pattern <:+: [sep].intercalate parts ↔ ∃ part ∈ parts, pattern <:+: part := by
  induction parts with
  | nil =>
    rw [List.intercalate_nil, List.infix_nil]
    exact iff_of_false full (by simp)
  | cons part parts ih =>
    cases parts with
    | nil => simp
    | cons next parts =>
      rw [List.intercalate_cons_cons, List.append_assoc, List.singleton_append, infix_append_cons clean, ih]
      simp only [List.mem_cons, exists_eq_or_imp]

lemma mem_splitOnP {piece : List α} (h : piece ∈ l.splitOnP p) : ∀ c ∈ piece, p c = false := by
  induction l generalizing piece with
  | nil =>
    rw [List.splitOnP_nil, List.mem_singleton] at h
    subst h
    simp
  | cons c l ih =>
    rw [List.splitOnP_cons_eq_if_modifyHead] at h
    split_ifs at h with sep
    · rcases List.mem_cons.mp h with rfl | h
      · simp
      · exact ih h
    · obtain ⟨first, rest, split⟩ := List.exists_cons_of_ne_nil (List.splitOnP_ne_nil p l)
      rw [split, List.modifyHead_cons] at h
      rw [split] at ih
      rcases List.mem_cons.mp h with rfl | h
      · intro d hd
        rcases List.mem_cons.mp hd with rfl | hd
        · exact Bool.eq_false_iff.mpr sep
        · exact ih (List.mem_cons_self ..) d hd
      · exact ih (List.mem_cons_of_mem _ h)

lemma splitOnP_intercalate (isSep : p sep = true) {pieces : List (List α)} (some : pieces ≠ [])
    (apart : ∀ piece ∈ pieces, ∀ c ∈ piece, p c = false) :
    (List.intercalate [sep] pieces).splitOnP p = pieces := by
  induction pieces with
  | nil => exact absurd rfl some
  | cons first rest ih =>
    have here := apart first (List.mem_cons_self ..)
    cases rest with
    | nil =>
      rw [List.intercalate_singleton]
      exact List.splitOnP_eq_singleton here
    | cons second rest =>
      rw [List.intercalate_cons_cons, List.append_assoc, List.singleton_append,
        List.splitOnP_append_cons_of_forall_mem here sep isSep,
        ih (by simp) fun piece h => apart piece (List.mem_cons_of_mem _ h)]

lemma length_intercalate : ([sep].intercalate parts).length =
    (parts.map fun part => part.length + 1).sum - 1 := by
  induction parts with
  | nil => rfl
  | cons part parts ih =>
    cases parts with
    | nil => simp
    | cons next parts =>
      rw [List.intercalate_cons_cons, List.length_append, List.length_append, ih]
      simp only [List.map_cons, List.sum_cons, List.length_singleton]
      omega

lemma length_intercalate_le (p : α → Bool) (sep : α) (parts : List (List α)) :
    ([sep].intercalate ((parts.map (trim p)).filter fun part => !part.isEmpty)).length ≤
      ([sep].intercalate parts).length := by
  rw [length_intercalate, length_intercalate]
  apply Nat.sub_le_sub_right
  induction parts with
  | nil => exact Nat.le_refl _
  | cons part parts ih =>
    have shorter := length_trim_le (p := p) (l := part)
    rw [List.map_cons, List.filter_cons, List.map_cons, List.sum_cons]
    split
    · rw [List.map_cons, List.sum_cons]
      omega
    · omega

end KiCore.Lib.Text

namespace KiCore.Lib.Str

/-- Unicode `White_Space`. -/
def isWhitespace (c : Char) : Bool :=
  let n := c.toNat
  (9 ≤ n && n ≤ 13) || n == 0x20 || n == 0x85 || n == 0xA0 || n == 0x1680 || (0x2000 ≤ n && n ≤ 0x200A) ||
    n == 0x2028 || n == 0x2029 || n == 0x202F || n == 0x205F || n == 0x3000

/-- `str::trim`. -/
def trim (s : String) : String :=
  String.ofList (Text.trim isWhitespace s.toList)

lemma trim_trim (text : String) : trim (trim text) = trim text := by
  rw [trim, trim, String.toList_ofList]
  exact congrArg String.ofList Text.trim_trim

end KiCore.Lib.Str

import Mathlib.Tactic

/-!
# Decimal numerals

`parse` reads a signed decimal numeral of a bounded integer type, digit by digit, with the errors in the
order in which they are met. `parse_toString` shows that it reads back what is written.
-/

namespace KiCore.Lib.Decimal

/-- The digits of a numeral with the given sign, from the most significant one. -/
def parseDigits (low high sign : Int) : List Char → Int → Except String Int
  | [], n => .ok n
  | c :: cs, n =>
    let next := n * 10 + sign * (c.toNat - '0'.toNat : Nat)
    if ¬ c.isDigit then .error "invalid digit found in string"
    else if next < low then .error "number too small to fit in target type"
    else if high < next then .error "number too large to fit in target type"
    else parseDigits low high sign cs next

/-- A numeral of the integers from `low` to `high`. -/
def parse (low high : Int) (s : String) : Except String Int :=
  match s.toList with
  | [] => .error "cannot parse integer from empty string"
  | c :: cs =>
    if c = '-' ∨ c = '+' then
      if cs = [] then .error "invalid digit found in string"
      else parseDigits low high (if c = '-' then -1 else 1) cs 0
    else
      parseDigits low high 1 (c :: cs) 0

variable {low high sign n : Int} {cs : List Char} {k init : Nat}

lemma le_ofDigitChars (cs : List Char) (init : Nat) : init ≤ Nat.ofDigitChars 10 cs init := by
  induction cs generalizing init with
  | nil => simp
  | cons c cs ih =>
    rw [Nat.ofDigitChars_cons]
    exact le_trans (by omega) (ih _)

lemma parseDigits_eq (init : Nat) (digits : ∀ c ∈ cs, c.isDigit = true) (unit : sign = 1 ∨ sign = -1)
    (zero : low ≤ 0 ∧ 0 ≤ high)
    (range : low ≤ sign * Nat.ofDigitChars 10 cs init ∧ sign * Nat.ofDigitChars 10 cs init ≤ high) :
    parseDigits low high sign cs (sign * init) = .ok (sign * Nat.ofDigitChars 10 cs init) := by
  induction cs generalizing init with
  | nil => simp [parseDigits]
  | cons c cs ih =>
    rw [Nat.ofDigitChars_cons] at range ⊢
    have next : sign * init * 10 + sign * (c.toNat - '0'.toNat : Nat) =
        sign * ((10 * init + (c.toNat - '0'.toNat) : Nat) : Int) := by
      push_cast
      ring
    have begins := le_ofDigitChars cs (10 * init + (c.toNat - '0'.toNat))
    rw [parseDigits]
    simp only [next, digits c (.head _), not_true_eq_false, if_false]
    rw [if_neg, if_neg, ih _ (fun c' mem => digits c' (.tail _ mem)) range]
    · rcases unit with rfl | rfl <;> omega
    · rcases unit with rfl | rfl <;> omega

lemma parseDigits_toDigits (unit : sign = 1 ∨ sign = -1) (zero : low ≤ 0 ∧ 0 ≤ high)
    (range : low ≤ sign * k ∧ sign * k ≤ high) :
    parseDigits low high sign (Nat.toDigits 10 k) 0 = .ok (sign * k) := by
  have whole : Nat.ofDigitChars 10 (Nat.toDigits 10 k) 0 = k := Nat.ofDigitChars_ten_toDigits
  have digits (c : Char) (mem : c ∈ Nat.toDigits 10 k) : c.isDigit = true :=
    Nat.isDigit_of_mem_toDigits (by decide) (by decide) mem
  have read := parseDigits_eq 0 digits unit zero (whole.symm ▸ range)
  rw [whole, Nat.cast_zero, mul_zero] at read
  exact read

lemma parse_toString (zero : low ≤ 0 ∧ 0 ≤ high) (range : low ≤ n ∧ n ≤ high) :
    parse low high (toString n) = .ok n := by
  rw [Int.toString_eq_repr, Int.repr_eq_if]
  split_ifs with positive
  · obtain ⟨k, rfl⟩ := Int.eq_ofNat_of_zero_le positive
    rw [Int.toNat_natCast, parse, Nat.toList_repr]
    have read := parseDigits_toDigits (k := k) (.inl rfl) zero (by simpa using range)
    rw [one_mul] at read
    cases chars : Nat.toDigits 10 k with
    | nil => exact absurd chars Nat.toDigits_ne_nil
    | cons c cs =>
      have digit : c.isDigit = true :=
        Nat.isDigit_of_mem_toDigits (by decide) (by decide) (chars ▸ List.mem_cons_self)
      have unsigned : ¬ (c = '-' ∨ c = '+') := by
        rintro (rfl | rfl)
        · exact absurd digit (by decide)
        · exact absurd digit (by decide)
      rw [chars] at read
      exact (if_neg unsigned).trans read
  · obtain ⟨k, rfl⟩ : ∃ k : Nat, n = -k := ⟨n.natAbs, by omega⟩
    have read := parseDigits_toDigits (k := k) (.inr rfl) zero (by simpa using range)
    rw [neg_one_mul] at read
    have chars : ("-" ++ (- -(k : Int)).toNat.repr).toList = '-' :: Nat.toDigits 10 k := by
      simp [Nat.toList_repr]
    rw [parse, chars]
    simpa [Nat.toDigits_ne_nil] using read

end KiCore.Lib.Decimal

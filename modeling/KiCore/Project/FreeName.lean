import KiCore.Lib.Text
import Mathlib.Data.Finset.Card
import Std.Data.String.ToNat

/-!
# Free names

Port of `candidate_name`, `split_ext` and `resolve_free_dest`, by which a copy or a move finds a name that
nothing at the destination has. A probe stands for the guard and the stat of a candidate.
-/

namespace KiCore.Project

open KiCore.Lib

/-- A dot in front is not that of an extension. -/
def splitExt (name : String) : String × String :=
  match Text.rsplitOnce ['.'] name.toList with
  | some (before, after) =>
    if before = [] then (name, "") else (String.ofList before, String.ofList ('.' :: after))
  | none => (name, "")

def candidateName (base : String) (attempt : Nat) (isDir : Bool) : String :=
  if attempt = 0 then base
  else
    let (stem, ext) := if isDir then (base, "") else splitExt base
    if attempt = 1 then stem ++ " copy" ++ ext else stem ++ " copy " ++ attempt.repr ++ ext

section Probe

variable {ε fact : Type} (probe : String → Except ε (Option fact)) (base : String) (isDir : Bool)

/-- The attempts from one on; nothing is found at the first free name. -/
def attempts : Nat → Nat → Except ε (Option String)
  | 0, _ => .ok none
  | left + 1, attempt => do
    match ← probe (candidateName base attempt isDir) with
    | none => return some (candidateName base attempt isDir)
    | some _ => attempts left (attempt + 1)

def resolveFreeDest : Except ε (Option String) := attempts probe base isDir 10000 0

end Probe

variable {ε fact : Type} {probe : String → Except ε (Option fact)} {base name : String} {isDir : Bool}

lemma splitExt_append (name : String) : (splitExt name).1 ++ (splitExt name).2 = name := by
  unfold splitExt
  split
  · rename_i before after found
    split_ifs
    · exact String.append_empty
    · rw [← String.toList_inj, String.toList_append, String.toList_ofList, String.toList_ofList,
        Text.eq_of_rsplitOnce (List.cons_ne_nil _ _) found, List.append_assoc]
      rfl
  · exact String.append_empty

/-- What an attempt puts between the stem and the extension. -/
def mark (attempt : Nat) : String :=
  if attempt = 0 then "" else if attempt = 1 then " copy" else " copy " ++ attempt.repr

lemma length_mark (n : Nat) :
    (mark n).length = if n = 0 then 0 else if n = 1 then 5 else 6 + n.repr.length := by
  unfold mark
  split_ifs
  · rfl
  · rfl
  · exact String.length_append ..

lemma mark_injective : Function.Injective mark := by
  intro m n same
  have lengths := congrArg String.length same
  rw [length_mark, length_mark] at lengths
  split_ifs at lengths with m0 n0 n1 m1 n0 n1 n0 n1 <;> try omega
  rw [mark, mark, if_neg m0, if_neg m1, if_neg n0, if_neg n1, ← String.toList_inj, String.toList_append,
    String.toList_append] at same
  exact Nat.repr_injective (String.toList_inj.mp (List.append_cancel_left same))

lemma candidateName_eq (base : String) (isDir : Bool) : ∃ stem ext, ∀ attempt,
    candidateName base attempt isDir = stem ++ mark attempt ++ ext := by
  have parts : ∃ pair : String × String, (if isDir then (base, "") else splitExt base) = pair ∧
      pair.1 ++ pair.2 = base := by
    cases isDir with
    | true => exact ⟨_, rfl, String.append_empty⟩
    | false => exact ⟨_, rfl, splitExt_append base⟩
  obtain ⟨⟨stem, ext⟩, split, whole⟩ := parts
  refine ⟨stem, ext, fun attempt => ?_⟩
  rw [candidateName, mark, split]
  dsimp only
  split_ifs
  · rw [String.append_empty, whole]
  · rfl
  · simp only [String.append_assoc]

lemma candidateName_injective (base : String) (isDir : Bool) :
    Function.Injective fun attempt => candidateName base attempt isDir := by
  obtain ⟨stem, ext, parts⟩ := candidateName_eq base isDir
  intro m n same
  simp only [parts, ← String.toList_inj, String.toList_append] at same
  exact mark_injective (String.toList_inj.mp (List.append_cancel_left (List.append_cancel_right same)))

lemma attempts_ok {left attempt : Nat} {found : Option String}
    (ok : attempts probe base isDir left attempt = .ok found) :
    (∀ name, found = some name → probe name = .ok none) ∧
      (found = none → ∀ n < left, ∃ f, probe (candidateName base (attempt + n) isDir) = .ok (some f)) := by
  induction left generalizing attempt with
  | zero =>
    cases ok
    exact ⟨fun _ none => (by cases none), fun _ n less => absurd less (Nat.not_lt_zero n)⟩
  | succ left ih =>
    rw [attempts] at ok
    cases here : probe (candidateName base attempt isDir) with
    | error e =>
      rw [here] at ok
      cases ok
    | ok fact? =>
      rw [here] at ok
      cases fact? with
      | none =>
        cases ok
        exact ⟨fun name same => Option.some.inj same ▸ here, fun none => (by cases none)⟩
      | some f =>
        obtain ⟨free, taken⟩ := ih ok
        refine ⟨free, fun none n less => ?_⟩
        cases n with
        | zero => exact ⟨f, here⟩
        | succ n => exact Nat.add_right_comm attempt 1 n ▸ taken none n (Nat.lt_of_succ_lt_succ less)

/-- A name that is chosen has nothing behind it, and where fewer than 10,000 names are taken and no probe
fails, one is chosen. -/
theorem free_dest (probe : String → Except ε (Option fact)) (base : String) (isDir : Bool) :
    (∀ name, resolveFreeDest probe base isDir = .ok (some name) → probe name = .ok none) ∧
      ∀ taken : Finset String, (∀ name f, probe name = .ok (some f) → name ∈ taken) → taken.card < 10000 →
        resolveFreeDest probe base isDir ≠ .ok none := by
  refine ⟨fun name ok => (attempts_ok ok).1 name rfl, fun taken inside few ok => few.not_ge ?_⟩
  have all := (attempts_ok ok).2 rfl
  rw [← Finset.card_range 10000, ← Finset.card_image_of_injective _ (candidateName_injective base isDir)]
  refine Finset.card_le_card fun name mem => ?_
  obtain ⟨n, less, rfl⟩ := Finset.mem_image.mp mem
  obtain ⟨f, there⟩ := all n (Finset.mem_range.mp less)
  exact inside _ f (Nat.zero_add n ▸ there)

/-- Two names are taken, so there is one for the copy. -/
theorem free_dest_taken :
    let probe : String → Except Unit (Option Unit) := fun name =>
      .ok (if name ∈ ["notes.txt", "notes copy.txt"] then some () else none)
    resolveFreeDest probe "notes.txt" false ≠ .ok none := by
  intro probe
  refine (free_dest probe "notes.txt" false).2 {"notes.txt", "notes copy.txt"} ?_ (by decide)
  intro name _ there
  by_contra free
  simp_all [probe]

end KiCore.Project

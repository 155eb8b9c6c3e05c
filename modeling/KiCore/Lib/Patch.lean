import Mathlib.Tactic

/-!
# Patches of maps

A map is read through its lookups, `κ → Option υ`. A patch says for some keys what they are to hold,
or that they are to go; `apply` writes it over a map, `andThen` puts a later patch over an earlier
one, and a map `Holds` a patch if it has what the patch says.

Who writes a patch over a stale copy of a map takes the keys that the patch does not mention back to
what they were in the copy: `holds_stale_iff` says when earlier patches survive that.
-/

namespace KiCore.Lib

/-- For the keys that are mentioned: the value to hold, or `none` for a key that is to go. -/
abbrev Patch (κ υ : Type*) : Type _ := κ → Option (Option υ)

namespace Patch

variable {κ υ : Type*} {p q : Patch κ υ} {f seen now : κ → Option υ} {k : κ}

def nothing : Patch κ υ := fun _ => none

def apply (p : Patch κ υ) (f : κ → Option υ) : κ → Option υ :=
  fun k => (p k).getD (f k)

def andThen (p q : Patch κ υ) : Patch κ υ :=
  fun k => (q k).or (p k)

def Holds (p : Patch κ υ) (f : κ → Option υ) : Prop :=
  ∀ k v, p k = some v → f k = v

lemma apply_of_none (h : p k = none) : p.apply f k = f k := by
  rw [apply, h, Option.getD_none]

lemma apply_of_some {v : Option υ} (h : p k = some v) : p.apply f k = v := by
  rw [apply, h, Option.getD_some]

lemma nothing_holds : (nothing : Patch κ υ).Holds f :=
  fun _ _ h => nomatch h

lemma apply_holds : p.Holds (p.apply f) :=
  fun _ _ h => apply_of_some h

lemma andThen_holds_iff : (p.andThen q).Holds f ↔
    q.Holds f ∧ ∀ k v, p k = some v → q k = none → f k = v := by
  constructor
  · intro h
    refine ⟨fun k v there => h k v ?_, fun k v there free => h k v ?_⟩
    · rw [andThen, there, Option.some_or]
    · rw [andThen, free, Option.none_or, there]
  · rintro ⟨later, earlier⟩ k v there
    rw [andThen] at there
    cases e : q k with
    | some w =>
      rw [e, Option.some_or] at there
      exact later k v (e.trans there)
    | none =>
      rw [e, Option.none_or] at there
      exact earlier k v there e

lemma holds_stale_iff (h : p.Holds now) :
    (p.andThen q).Holds (q.apply seen) ↔ ∀ k, p k ≠ none → q k = none → seen k = now k := by
  rw [andThen_holds_iff, and_iff_right apply_holds]
  constructor
  · intro kept k mentioned free
    obtain ⟨v, there⟩ := Option.ne_none_iff_exists'.mp mentioned
    have after := kept k v there free
    rw [apply_of_none free] at after
    exact after.trans (h k v there).symm
  · intro fresh k v there free
    rw [apply_of_none free, fresh k (by rw [there]; nofun) free]
    exact h k v there

end Patch

end KiCore.Lib

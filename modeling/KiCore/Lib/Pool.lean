import Mathlib.Tactic

/-!
# Pools

Calls that run side by side are kept in a list, each at its own place, and one step moves one of
them on. What holds of every call holds after the step if it holds of the call as it has moved on
(`forall_set`); what some call is there for, some call is still there for unless it was the one that
moved on (`exists_of_set`). `AtMostOne` says that no two places hold calls of a kind.
-/

namespace KiCore.Lib.Pool

variable {α : Type*} {P : α → Prop} {calls : List α} {call call' : α} {n : Nat}

lemma forall_set (h : ∀ call ∈ calls, P call) (h' : P call') : ∀ call ∈ calls.set n call', P call := by
  intro c mem
  obtain mem | rfl := List.mem_or_eq_of_mem_set mem
  · exact h c mem
  · exact h'

lemma forall_modify {f : α → α} (h : ∀ call ∈ calls, P call) (h' : ∀ call, calls[n]? = some call →
    P call → P (f call)) : ∀ call ∈ calls.modify n f, P call := by
  intro c mem
  obtain ⟨i, found⟩ := List.mem_iff_getElem?.mp mem
  rw [List.getElem?_modify] at found
  obtain ⟨call, was, rfl⟩ := Option.map_eq_some_iff.mp found
  have holds := h call (List.mem_of_getElem? was)
  split
  case isTrue here => exact h' call (here ▸ was) holds
  case isFalse => exact holds

lemma forall_append (h : ∀ call ∈ calls, P call) (h' : P call') : ∀ call ∈ calls ++ [call'],
    P call := by
  intro c mem
  obtain mem | mem := List.mem_append.mp mem
  · exact h c mem
  · rwa [List.mem_singleton.mp mem]

lemma exists_set : (∃ c ∈ calls.set n call', P c) → (∃ c ∈ calls, P c) ∨ P call' := by
  rintro ⟨c, mem, holds⟩
  obtain mem | rfl := List.mem_or_eq_of_mem_set mem
  · exact .inl ⟨c, mem, holds⟩
  · exact .inr holds

lemma exists_of_set (there : calls[n]? = some call) (h : ∃ c ∈ calls, P c) :
    P call ∨ ∃ c ∈ calls.set n call', P c := by
  obtain ⟨c, mem, holds⟩ := h
  obtain ⟨m, found⟩ := List.mem_iff_getElem?.mp mem
  by_cases here : n = m
  · subst here
    rw [there] at found
    cases found
    exact .inl holds
  · refine .inr ⟨c, List.mem_of_getElem? (i := m) ?_, holds⟩
    rw [List.getElem?_set_ne here, found]

lemma mem_set_self (there : calls[n]? = some call) : call' ∈ calls.set n call' :=
  List.mem_set (List.getElem?_eq_some_iff.mp there).1 _

lemma getElem?_append_some (there : (calls ++ [call'])[n]? = some call) :
    calls[n]? = some call ∨ n = calls.length ∧ call = call' := by
  rw [List.getElem?_append] at there
  split at there
  · exact .inl there
  · rename_i ge
    rw [List.getElem?_singleton, Option.ite_none_right_eq_some] at there
    obtain ⟨at_, same⟩ := there
    exact .inr ⟨by omega, (Option.some_inj.mp same).symm⟩

lemma forall_of_set (there : calls[n]? = some call) (h : ∀ c ∈ calls.set n call', P c) (own : P call) :
    ∀ c ∈ calls, P c := by
  intro c mem
  by_contra fails
  obtain here | ⟨c', mem', fails'⟩ := exists_of_set (P := fun c => ¬ P c) there ⟨c, mem, fails⟩
  · exact here own
  · exact fails' (h c' mem')

def AtMostOne (P : α → Prop) (calls : List α) : Prop :=
  ∀ (i j : Nat) (a b : α), calls[i]? = some a → calls[j]? = some b → P a → P b → i = j

lemma AtMostOne.nil : AtMostOne P [] :=
  fun _ _ _ _ there => nomatch there

section

variable (h : AtMostOne P calls)
include h

lemma AtMostOne.set (alone : P call' → ∀ c ∈ calls, ¬ P c) : AtMostOne P (calls.set n call') := by
  intro i j a b foundA foundB ofA ofB
  rw [List.getElem?_set] at foundA foundB
  split_ifs at foundA foundB with hereA there hereB
  · omega
  · cases foundA
    exact absurd ofB (alone ofA b (List.mem_of_getElem? foundB))
  · cases foundB
    exact absurd ofA (alone ofB a (List.mem_of_getElem? foundA))
  · exact h i j a b foundA foundB ofA ofB

lemma AtMostOne.append (alone : P call' → ∀ c ∈ calls, ¬ P c) : AtMostOne P (calls ++ [call']) := by
  intro i j a b foundA foundB ofA ofB
  obtain thereA | ⟨rfl, rfl⟩ := getElem?_append_some foundA <;>
    obtain thereB | ⟨rfl, rfl⟩ := getElem?_append_some foundB
  · exact h i j a b thereA thereB ofA ofB
  · exact absurd ofA (alone ofB a (List.mem_of_getElem? thereA))
  · exact absurd ofB (alone ofA b (List.mem_of_getElem? thereB))
  · rfl

lemma AtMostOne.none_left (there : calls[n]? = some call) (own : P call)
    (left : ¬ P call') : ∀ c ∈ calls.set n call', ¬ P c := by
  intro c mem ofC
  obtain ⟨m, found⟩ := List.mem_iff_getElem?.mp mem
  rw [List.getElem?_set] at found
  split_ifs at found with here
  · cases found
    exact left ofC
  · exact here (h n m call c there found own ofC)

lemma AtMostOne.set_own (there : calls[n]? = some call) (own : P call) :
    AtMostOne P (calls.set n call') := by
  intro i j a b foundA foundB ofA ofB
  rw [List.getElem?_set] at foundA foundB
  split_ifs at foundA foundB with hereA there' hereB
  · omega
  · exact absurd (h n j call b there foundB own ofB) ‹_›
  · exact absurd (h n i call a there foundA own ofA) ‹_›
  · exact h i j a b foundA foundB ofA ofB

end

lemma AtMostOne.mapIdx {f : Nat → α → α} (h : AtMostOne P calls)
    (kept : ∀ n call, P (f n call) → P call) : AtMostOne P (calls.mapIdx f) := by
  intro i j a b foundA foundB ofA ofB
  rw [List.getElem?_mapIdx, Option.map_eq_some_iff] at foundA foundB
  obtain ⟨a, thereA, rfl⟩ := foundA
  obtain ⟨b, thereB, rfl⟩ := foundB
  exact h i j a b thereA thereB (kept i a ofA) (kept j b ofB)

lemma AtMostOne.map {f : α → α} (h : AtMostOne P calls) (kept : ∀ call, P (f call) → P call) :
    AtMostOne P (calls.map f) := by
  intro i j a b foundA foundB ofA ofB
  rw [List.getElem?_map, Option.map_eq_some_iff] at foundA foundB
  obtain ⟨a, thereA, rfl⟩ := foundA
  obtain ⟨b, thereB, rfl⟩ := foundB
  exact h i j a b thereA thereB (kept a ofA) (kept b ofB)

end KiCore.Lib.Pool

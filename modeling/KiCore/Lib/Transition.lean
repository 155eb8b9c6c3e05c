import Mathlib.Tactic

/-!
# Labelled transition systems

`LTS σ ι` is a transition system over states `σ` whose steps carry labels `ι`. `Run` is a finite run
with its labels, `Reachable` the states runs reach from a start state. `Reachable.invariant` is the
induction rule for invariants; it comes with a form (`invariant_of`) whose step may use reachability of the
state it starts from. `Run.preserves_of` is the rule for properties that a run keeps once they hold.

`guard` restricts the steps of a system, so that a run of `M.guard P` is a run of `M` every step of
which meets `P`; `Simulation` maps the reachable states of one system to those of another.
-/

namespace KiCore.Lib

/-- A labelled transition system. -/
structure LTS (σ ι : Type*) where
  start : σ → Prop
  step : σ → ι → σ → Prop

namespace LTS

variable {σ ι σ' ι' : Type*}

inductive Run (M : LTS σ ι) : σ → List ι → σ → Prop where
  | nil {s} : Run M s [] s
  | cons {s t u i is} : M.step s i t → Run M t is u → Run M s (i :: is) u

/-- The states some run from a start state ends in. -/
def Reachable (M : LTS σ ι) (t : σ) : Prop :=
  ∃ s is, M.start s ∧ M.Run s is t

variable {M : LTS σ ι} {s t u : σ} {i : ι} {is js : List ι}

lemma Run.append (r1 : M.Run s is t) (r2 : M.Run t js u) : M.Run s (is ++ js) u := by
  induction r1 with
  | nil => exact r2
  | cons st _ ih => exact .cons st (ih r2)

lemma Run.one (st : M.step s i t) : M.Run s [i] t :=
  .cons st .nil

lemma Reachable.start (h : M.start s) : M.Reachable s :=
  ⟨s, [], h, .nil⟩

lemma Reachable.run (h : M.Reachable s) (r : M.Run s is t) : M.Reachable t := by
  obtain ⟨s0, is0, h0, r0⟩ := h
  exact ⟨s0, is0 ++ is, h0, r0.append r⟩

lemma Reachable.step (h : M.Reachable s) (st : M.step s i t) : M.Reachable t :=
  h.run (.one st)

lemma Run.preserves_of {P : σ → Prop} (r : M.Run s is t) (reach : M.Reachable s)
    (step : ∀ s i t, M.Reachable s → P s → M.step s i t → P t) (h : P s) : P t := by
  induction r with
  | nil => exact h
  | cons st _ ih => exact ih (reach.step st) (step _ _ _ reach h st)

lemma Reachable.invariant_of {P : σ → Prop} (h : M.Reachable t) (start : ∀ s, M.start s → P s)
    (step : ∀ s i t, M.Reachable s → P s → M.step s i t → P t) : P t := by
  obtain ⟨s, is, h0, r⟩ := h
  exact r.preserves_of (.start h0) step (start s h0)

lemma Reachable.invariant {P : σ → Prop} (h : M.Reachable t)
    (start : ∀ s, M.start s → P s) (step : ∀ s i t, P s → M.step s i t → P t) : P t :=
  h.invariant_of start fun s i t _ => step s i t

/-- The system that takes only the steps of `M` that meet `P`. -/
def guard (M : LTS σ ι) (P : σ → ι → Prop) : LTS σ ι where
  start := M.start
  step s i t := P s i ∧ M.step s i t

lemma Run.of_guard {P : σ → ι → Prop} (r : (M.guard P).Run s is t) : M.Run s is t := by
  induction r with
  | nil => exact .nil
  | cons st _ ih => exact .cons st.2 ih

lemma Reachable.of_guard {P : σ → ι → Prop} (h : (M.guard P).Reachable t) : M.Reachable t := by
  obtain ⟨s, is, h0, r⟩ := h
  exact ⟨s, is, h0, r.of_guard⟩

/-- A system whose steps are computed, where they are enabled. -/
def computed (init : σ) (enabled : σ → ι → Prop) (next : σ → ι → σ) : LTS σ ι where
  start s := s = init
  step s i t := enabled s i ∧ t = next s i

/-- Every label of a list is enabled where its turn comes. -/
def EnabledAll (enabled : σ → ι → Prop) (next : σ → ι → σ) (s : σ) : List ι → Prop
  | [] => True
  | i :: is => enabled s i ∧ EnabledAll enabled next (next s i) is

instance decidableEnabledAll {enabled : σ → ι → Prop} {next : σ → ι → σ}
    [∀ s i, Decidable (enabled s i)] (s : σ) : (is : List ι) → Decidable (EnabledAll enabled next s is)
  | [] => isTrue trivial
  | i :: is => @instDecidableAnd _ _ _ (decidableEnabledAll (next s i) is)

lemma Run.computed {init : σ} {enabled : σ → ι → Prop} {next : σ → ι → σ}
    (h : EnabledAll enabled next s is) : (computed init enabled next).Run s is (is.foldl next s) := by
  induction is generalizing s with
  | nil => exact .nil
  | cons i is ih => exact .cons ⟨h.1, rfl⟩ (ih h.2)

lemma Reachable.computed {init : σ} {enabled : σ → ι → Prop} {next : σ → ι → σ}
    (h : EnabledAll enabled next init is) :
    (computed init enabled next).Reachable (is.foldl next init) :=
  ⟨init, is, rfl, .computed h⟩

lemma Reachable.guarded {init : σ} {enabled P : σ → ι → Prop} {next : σ → ι → σ}
    (h : EnabledAll (fun s i => P s i ∧ enabled s i) next init is) :
    ((LTS.computed init enabled next).guard P).Reachable (is.foldl next init) := by
  have run : ∀ s is, EnabledAll (fun s i => P s i ∧ enabled s i) next s is →
      ((LTS.computed init enabled next).guard P).Run s is (is.foldl next s) := by
    intro s is h
    induction is generalizing s with
    | nil => exact .nil
    | cons i is ih => exact .cons ⟨h.1.1, h.1.2, rfl⟩ (ih _ h.2)
  exact ⟨init, is, rfl, run init is h⟩

/-- A property holds in every state that a list of labels goes through. -/
def Throughout (next : σ → ι → σ) (P : σ → Prop) (s : σ) : List ι → Prop
  | [] => P s
  | i :: is => P s ∧ Throughout next P (next s i) is

variable {next : σ → ι → σ}

lemma throughout_iff {P : σ → Prop} :
    Throughout next P s is ↔ P s ∧ EnabledAll (fun s i => P (next s i)) next s is := by
  induction is generalizing s with
  | nil => exact ⟨fun h => ⟨h, trivial⟩, fun h => h.1⟩
  | cons i is ih => exact and_congr_right fun _ => ih

lemma Throughout.last {P : σ → Prop} (h : Throughout next P s is) : P (is.foldl next s) := by
  induction is generalizing s with
  | nil => exact h
  | cons i is ih => exact ih h.2

lemma enabledAll_congr {enabled N C : σ → ι → Prop} {I Q : σ → Prop}
    (keep : ∀ s i, I s → enabled s i → I (next s i))
    (step : ∀ s i, I s → Q s → enabled s i → (N s i ↔ C s i) ∧ (C s i → Q (next s i)))
    (h : EnabledAll enabled next s is) (inv : I s) (q : Q s) :
    EnabledAll N next s is ↔ EnabledAll C next s is := by
  induction is generalizing s with
  | nil => exact Iff.rfl
  | cons i is ih =>
    obtain ⟨agree, kept⟩ := step s i inv q h.1
    constructor
    · rintro ⟨n, ns⟩
      have c := agree.mp n
      exact ⟨c, (ih h.2 (keep s i inv h.1) (kept c)).mp ns⟩
    · rintro ⟨c, cs⟩
      exact ⟨agree.mpr c, (ih h.2 (keep s i inv h.1) (kept c)).mpr cs⟩

lemma EnabledAll.last {enabled : σ → ι → Prop} {next : σ → ι → σ}
    (h : EnabledAll enabled next s (is ++ [i])) : enabled (is.foldl next s) i := by
  induction is generalizing s with
  | nil => exact h.1
  | cons i is ih => exact ih h.2

lemma enabledAll_true : EnabledAll (fun _ _ => True) next s is := by
  induction is generalizing s with
  | nil => exact trivial
  | cons i is ih => exact ⟨trivial, ih⟩

lemma enabledAll_iff {N C : σ → ι → Prop} {Q : σ → Prop}
    (step : ∀ s i, Q s → (N s i ↔ C s i) ∧ (C s i → Q (next s i))) (q : Q s) :
    EnabledAll N next s is ↔ EnabledAll C next s is :=
  enabledAll_congr (I := fun _ => True) (fun _ _ _ _ => trivial)
    (fun s i _ q _ => step s i q) enabledAll_true trivial q

lemma EnabledAll.imp {N C : σ → ι → Prop} {Q : σ → Prop}
    (step : ∀ s i, Q s → C s i → N s i ∧ Q (next s i)) (h : EnabledAll C next s is) (q : Q s) :
    EnabledAll N next s is := by
  induction is generalizing s with
  | nil => exact trivial
  | cons i is ih =>
    obtain ⟨n, kept⟩ := step s i q h.1
    exact ⟨n, ih h.2 kept⟩

lemma enabledAll_of {N : σ → ι → Prop} {Q : σ → Prop}
    (step : ∀ s i, Q s → N s i ∧ Q (next s i)) (q : Q s) : EnabledAll N next s is :=
  enabledAll_true.imp (fun s i q _ => step s i q) q

/-- A map of states under which every step of `M` is a run of `N`. -/
structure Simulation (M : LTS σ ι) (N : LTS σ' ι') where
  map : σ → σ'
  start : ∀ s, M.start s → N.start (map s)
  step : ∀ s i t, M.step s i t → ∃ js, N.Run (map s) js (map t)

lemma Simulation.reachable {N : LTS σ' ι'} (f : Simulation M N) (h : M.Reachable t) :
    N.Reachable (f.map t) := by
  refine h.invariant (P := fun t => N.Reachable (f.map t)) (fun s h0 => .start (f.start s h0)) ?_
  intro s i t ih st
  obtain ⟨js, r⟩ := f.step s i t st
  exact ih.run r

end LTS

end KiCore.Lib

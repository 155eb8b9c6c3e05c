import KiCore.Lib.Transition
import KiCore.Session.Reducer

/-!
# The life cycle of a turn

Whole runs of the reducer from `Idle`. A turn opens with a `TurnStarted` that is accepted, ends in
`Idle` or `Error` at most once, and whatever arrives after its end, or belongs to an earlier turn, is
absorbed: `lifecycle`.
-/

namespace KiCore.Session

open KiCore.Lib

variable {s t : SessionState} {e : SessionEvent} {es : List SessionEvent} {n : Nat}

def next (s : SessionState) (e : SessionEvent) : SessionState :=
  (step s e).1

def emitted (s : SessionState) : List SessionEvent → List Transition
  | [] => []
  | e :: es => (step s e).2 ++ emitted (next s e) es

def SessionState.isTerminal : SessionState → Bool
  | .idle | .error _ => true
  | .starting | .running _ => false

/-- An event opens a turn, unless a turn runs that it does not advance. -/
def Accepted : SessionState → SessionEvent → Prop
  | .running turn, .turnStarted epoch => turn.sinceEpoch < epoch
  | _, .turnStarted _ => True
  | _, _ => False

instance (s : SessionState) (e : SessionEvent) : Decidable (Accepted s e) := by
  unfold Accepted
  split <;> infer_instance

def SameTurn (s : SessionState) (es : List SessionEvent) : Prop :=
  LTS.EnabledAll (fun s e => ¬ Accepted s e) next s es

instance (s : SessionState) (es : List SessionEvent) : Decidable (SameTurn s es) :=
  inferInstanceAs (Decidable (LTS.EnabledAll _ _ _ _))

/-- Each transition leaves the phase that the one before has entered, for another one. -/
def Chained (phase : ExternalPhase) : List Transition → Prop
  | [] => True
  | move :: moves => externalPhase move.source = phase ∧ externalPhase move.target ≠ phase ∧
      Chained (externalPhase move.target) moves

def SessionState.cancelled : SessionState → SessionState
  | .error reason => .error reason
  | _ => .idle

/-- What holds of a run of the reducer from `Idle`. -/
structure Lifecycle (es : List SessionEvent) : Prop where
  chained : Chained .idle (emitted .idle es)
  endsOnce : ∀ before turn later, es = before ++ turn ++ later →
    SameTurn (before.foldl next .idle) turn →
    ((emitted (before.foldl next .idle) turn).filter fun move => move.target.isTerminal).length ≤ 1
  absorbs : ∀ e, (es.foldl next .idle).isTerminal = true → (∀ epoch, e ≠ .turnStarted epoch) →
    step (es.foldl next .idle) e = (es.foldl next .idle, [])
  staleResult : ∀ turn isError status text epoch outcome, es.foldl next .idle = .running turn →
    epoch ≠ 0 → epoch < turn.sinceEpoch →
    step (.running turn) (.turnResult isError status text epoch outcome) = (.running turn, [])
  staleStart : ∀ turn epoch, es.foldl next .idle = .running turn → epoch ≤ turn.sinceEpoch →
    step (.running turn) (.turnStarted epoch) = (.running turn, [])
  cancelled : ∀ before later, es = before ++ .cancel :: later →
    SameTurn (next (before.foldl next .idle) .cancel) later →
    es.foldl next .idle = (before.foldl next .idle).cancelled ∧
      emitted (next (before.foldl next .idle) .cancel) later = []

lemma emitted_of_step (s : SessionState) (e : SessionEvent) :
    (step s e).2 = [] ∧ externalPhase (next s e) = externalPhase s ∨
      externalPhase (next s e) ≠ externalPhase s ∧ ∃ n, (step s e).2 = [⟨s, next s e, n⟩] := by
  obtain ⟨n, settles⟩ := step_settles s e
  have moves : (step s e).2 = (settle s (next s e) n).2 := congrArg Prod.snd settles
  rw [moves, settle]
  split
  case isTrue moved => exact .inr ⟨fun same => moved same.symm, n, rfl⟩
  case isFalse same => exact .inl ⟨rfl, (not_not.mp same).symm⟩

lemma step_terminal (ended : s.isTerminal = true) (start : ∀ epoch, e ≠ .turnStarted epoch) :
    step s e = (s, []) := by
  cases s with
  | idle | error =>
    cases e with
    | turnStarted epoch => exact absurd rfl (start epoch)
    | _ => rfl
  | starting | running => cases ended

lemma not_turnStarted (ended : s.isTerminal = true) (late : ¬ Accepted s e) (epoch : Nat) :
    e ≠ .turnStarted epoch := by
  intro start
  subst start
  cases s with
  | idle | error => exact late trivial
  | starting | running => cases ended

lemma next_cancel (s : SessionState) : next s .cancel = s.cancelled := by
  cases s <;> rfl

lemma cancelled_isTerminal (s : SessionState) : s.cancelled.isTerminal = true := by
  cases s <;> rfl

lemma run_terminal (ended : s.isTerminal = true) (late : SameTurn s es) :
    es.foldl next s = s ∧ emitted s es = [] := by
  induction es with
  | nil => exact ⟨rfl, rfl⟩
  | cons e es ih =>
    have absorbed : step s e = (s, []) := step_terminal ended (not_turnStarted ended late.1)
    have stays : next s e = s := congrArg Prod.fst absorbed
    have rest : SameTurn s es := stays ▸ late.2
    obtain ⟨kept, silent⟩ := ih rest
    rw [List.foldl_cons, emitted, stays, absorbed]
    exact ⟨kept, silent⟩

lemma emitted_chained (s : SessionState) (es : List SessionEvent) :
    Chained (externalPhase s) (emitted s es) := by
  induction es generalizing s with
  | nil => exact trivial
  | cons e es ih =>
    rw [emitted]
    obtain ⟨silent, same⟩ | ⟨moved, n, one⟩ := emitted_of_step s e
    · rw [silent, ← same]
      exact ih (next s e)
    · rw [one]
      exact ⟨rfl, moved, ih (next s e)⟩

lemma endsOnce_of_sameTurn (same : SameTurn s es) :
    ((emitted s es).filter fun move => move.target.isTerminal).length ≤ 1 := by
  induction es generalizing s with
  | nil => exact Nat.zero_le 1
  | cons e es ih =>
    rw [emitted, List.filter_append, List.length_append]
    obtain ⟨silent, _⟩ | ⟨_, n, one⟩ := emitted_of_step s e
    · rw [silent]
      have rest := ih same.2
      simpa using rest
    · rw [one]
      cases ended : (next s e).isTerminal with
      -- from here on everything is absorbed
      | true => simp [ended, (run_terminal ended same.2).2]
      | false =>
        have rest := ih same.2
        simpa [ended] using rest

lemma step_staleResult {turn : RunningTurn} {isError : Bool} {status : Option Nat} {text : String}
    {outcome : TurnOutcome} (stamped : n ≠ 0) (earlier : n < turn.sinceEpoch) :
    step (.running turn) (.turnResult isError status text n outcome) = (.running turn, []) := by
  rw [step_turnResult]
  exact if_pos ⟨stamped, earlier⟩

lemma step_staleStart {turn : RunningTurn} (stale : n ≤ turn.sinceEpoch) :
    step (.running turn) (.turnStarted n) = (.running turn, []) := by
  rw [step_turnStarted]
  exact if_pos stale

/-- Every run of the reducer from `Idle` keeps to the life cycle of a turn. -/
theorem lifecycle (es : List SessionEvent) : Lifecycle es where
  chained := emitted_chained .idle es
  endsOnce before turn later _ same := endsOnce_of_sameTurn same
  absorbs e ended start := step_terminal ended start
  staleResult turn isError status text epoch outcome _ stamped earlier :=
    step_staleResult stamped earlier
  staleStart turn epoch _ stale := step_staleStart stale
  cancelled before later split same := by
    rw [next_cancel] at same ⊢
    obtain ⟨kept, silent⟩ := run_terminal (cancelled_isTerminal _) same
    refine ⟨?_, silent⟩
    rw [split, List.foldl_append, List.foldl_cons, next_cancel]
    exact kept

end KiCore.Session

import KiCore.Session.Reducer

/-!
# The verdict on a turn

`turnOutcome` says how a turn ends, as a function of its events: of the one that settles it, and of
whether one before it was substantive. `turn_outcome` shows that the accumulators of the reducer compute
this function, for every sequence of events from an accepted `TurnStarted` to the first event that settles
its turn.
-/

namespace KiCore.Session

/-- The event settles the turn of this epoch: it is no late result of an earlier turn. -/
def SessionEvent.settlesTurn (since : Nat) : SessionEvent → Bool
  | .cancel | .detached _ _ => true
  | .turnResult _ _ _ epoch _ => ¬ (epoch ≠ 0 ∧ epoch < since)
  | _ => false

def SessionEvent.supersedes (since : Nat) : SessionEvent → Bool
  | .turnStarted epoch => since < epoch
  | _ => false

/-- A non-empty message delta, or a tool result. -/
def SessionEvent.substantive : SessionEvent → Bool
  | .messageDelta _ text => text ≠ ""
  | .toolResult _ _ => true
  | _ => false

/-- A `TurnStarted` of this epoch is accepted. -/
def AcceptsTurn (state : SessionState) (epoch : Nat) : Prop :=
  ∀ turn, state = .running turn → turn.sinceEpoch < epoch

def TurnOutcome.refused : TurnOutcome → Bool
  | .completed (.refused _) => true
  | _ => false

def cleanExit (exit : Option ExitStatusLite) : Bool :=
  exit = some ⟨some 0, none⟩

/-- How a turn ends with its last event, after the events before it. -/
def turnOutcome (before : List SessionEvent) : SessionEvent → SessionState
  | .turnResult true apiErrorStatus resultText _ _ => .error (.backend apiErrorStatus resultText)
  | .turnResult false _ resultText _ outcome =>
    if before.any (·.substantive) ∨ resultText ≠ "" ∨ outcome.refused then .idle else .error .emptyTurn
  | .detached exit _ => if cleanExit exit then .error .emptyTurn else .error .crashed
  | _ => .idle

/-- The state of a session after a sequence of events. -/
def stepAll (state : SessionState) (events : List SessionEvent) : SessionState :=
  events.foldl (fun state event => (step state event).1) state

variable {state : SessionState} {event : SessionEvent} {before : List SessionEvent} {since : Nat}
  {exit : Option ExitStatusLite}

/-- A turn runs whose accumulators stand for the events so far. -/
def Accumulates (since : Nat) (before : List SessionEvent) (state : SessionState) : Prop :=
  ∃ turn, state = .running turn ∧ turn.sinceEpoch = since ∧ turn.terminalResultSeen = false ∧
    turn.sawSubstantiveOutput = before.any (·.substantive)

lemma Accumulates.start (accepts : AcceptsTurn state since) :
    Accumulates since [] (step state (.turnStarted since)).1 := by
  cases state with
  | running turn =>
    have newer : ¬ since ≤ turn.sinceEpoch := not_le.mpr (accepts turn rfl)
    rw [step_turnStarted, if_neg newer]
    exact ⟨freshTurn since, rfl, rfl, rfl, rfl⟩
  | _ => exact ⟨freshTurn since, rfl, rfl, rfl, rfl⟩

lemma Accumulates.step (acc : Accumulates since before state) (open_ : event.settlesTurn since = false)
    (own : event.supersedes since = false) :
    Accumulates since (before ++ [event]) (step state event).1 := by
  obtain ⟨turn, rfl, rfl, unseen, saw⟩ := acc
  have quiet (insubstantial : event.substantive = false) :
      turn.sawSubstantiveOutput = (before ++ [event]).any (·.substantive) := by
    simp [saw, insubstantial]
  cases event with
  | turnStarted epoch =>
    have stale : epoch ≤ turn.sinceEpoch := not_lt.mp (of_decide_eq_false own)
    rw [step_turnStarted, if_pos stale]
    exact ⟨turn, rfl, rfl, unseen, quiet rfl⟩
  | messageDelta itemId text =>
    refine ⟨_, rfl, rfl, unseen, ?_⟩
    simp [saw, SessionEvent.substantive]
  | toolResult toolUseId isError =>
    refine ⟨_, rfl, rfl, unseen, ?_⟩
    simp [SessionEvent.substantive]
  | turnResult isError apiErrorStatus resultText epoch outcome =>
    have stale : epoch ≠ 0 ∧ epoch < turn.sinceEpoch := not_not.mp (of_decide_eq_false open_)
    rw [step_turnResult, if_pos stale]
    exact ⟨turn, rfl, rfl, unseen, quiet rfl⟩
  | cancel => cases open_
  | detached exit summary => cases open_
  | _ => exact ⟨_, rfl, rfl, unseen, quiet rfl⟩

lemma resultState_success {turn : RunningTurn} {apiErrorStatus : Option Nat} {resultText : String}
    {epoch : Nat} {outcome : TurnOutcome} (saw : turn.sawSubstantiveOutput = before.any (·.substantive)) :
    resultState turn false apiErrorStatus resultText outcome =
      turnOutcome before (.turnResult false apiErrorStatus resultText epoch outcome) := by
  show (if !turn.sawSubstantiveOutput && decide (resultText = "") && !outcome.refused
    then SessionState.error .emptyTurn else .idle) = _
  rw [saw, turnOutcome]
  cases before.any (·.substantive) <;> by_cases empty : resultText = "" <;> cases outcome.refused <;>
    simp [empty]

lemma crashOutcome_unseen (exit : Option ExitStatusLite) :
    crashOutcome false exit = if cleanExit exit then .cleanNoResult else .crashed := by
  unfold crashOutcome cleanExit
  rw [if_neg Bool.false_ne_true]
  split
  · rfl
  next other => exact (if_neg (by simpa using other)).symm

lemma Accumulates.settle (acc : Accumulates since before state) (settles : event.settlesTurn since = true) :
    (Session.step state event).1 = turnOutcome before event := by
  obtain ⟨turn, rfl, rfl, unseen, saw⟩ := acc
  cases event with
  | cancel => rfl
  | turnResult isError apiErrorStatus resultText epoch outcome =>
    have fresh : ¬ (epoch ≠ 0 ∧ epoch < turn.sinceEpoch) := of_decide_eq_true settles
    rw [step_turnResult, if_neg fresh]
    cases isError with
    | true => rfl
    | false => exact resultState_success saw
  | detached exit summary =>
    have crash : crashOutcome turn.terminalResultSeen exit =
        if cleanExit exit then .cleanNoResult else .crashed := by
      rw [unseen]
      exact crashOutcome_unseen exit
    cases clean : cleanExit exit <;> simp [step_detached, crash, clean, turnOutcome, Session.settle]
  | _ => cases settles

lemma Accumulates.all {events : List SessionEvent} (acc : Accumulates since before state)
    (open_ : ∀ event ∈ events, event.settlesTurn since = false ∧ event.supersedes since = false) :
    Accumulates since (before ++ events) (stepAll state events) := by
  induction events generalizing before state with
  | nil => rwa [List.append_nil]
  | cons event events ih =>
    obtain ⟨unsettled, own⟩ := open_ event (.head _)
    rw [List.append_cons]
    exact ih (acc.step unsettled own) fun event mem => open_ event (.tail _ mem)

/-- Turn outcome: a turn that has been accepted runs on through all events before the first that settles
it, and this one leaves it in the state that the reference function gives for the whole turn. -/
theorem turn_outcome (state : SessionState) (since : Nat) (before : List SessionEvent) (last : SessionEvent)
    (accepts : AcceptsTurn state since)
    (open_ : ∀ event ∈ before, event.settlesTurn since = false ∧ event.supersedes since = false)
    (settles : last.settlesTurn since = true) :
    runningSince (stepAll state (.turnStarted since :: before)) = some since ∧
      stepAll state (.turnStarted since :: (before ++ [last])) = turnOutcome before last := by
  have acc : Accumulates since before (stepAll state (.turnStarted since :: before)) :=
    (Accumulates.start accepts).all open_
  constructor
  · obtain ⟨turn, running, epoch, _⟩ := acc
    rw [running, ← epoch]
    rfl
  · rw [← List.cons_append, stepAll, List.foldl_append]
    exact acc.settle settles

/-- A turn in which a late result of the turn before, a thought and a permission surround a tool. -/
def busyTurn : List SessionEvent :=
  [.thoughtDelta "i" "hm", .turnResult true none "late" 1 .failed, .permission "p" .tool,
    .toolResult "t" false, .permissionResolved "p" .tool]

/-- With an empty result it ends idle. -/
theorem turn_outcome_busyTurn :
    stepAll .idle (.turnStarted 2 :: (busyTurn ++ [.turnResult false none "" 2 .endTurn])) = .idle :=
  (turn_outcome .idle 2 busyTurn (.turnResult false none "" 2 .endTurn) (by rintro _ ⟨⟩) (by decide)
    (by decide)).2

end KiCore.Session

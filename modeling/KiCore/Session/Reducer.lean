import KiCore.Lib.Keyed
import KiCore.Session.State

/-!
# The reducer

Port of `reducer.rs`. `step` folds one event into the state of a session and returns the transitions
that consumers see: one if the external phase changes, none otherwise. Every arm ends in `settle`, or
leaves the state as it is, or moves an accumulator of the running turn (`step_settles`).
-/

namespace KiCore.Session

open KiCore.Lib

structure Transition where
  source : SessionState
  target : SessionState
  epoch : Nat

/-- What consumers can tell apart of a state. -/
inductive ExternalPhase where
  | starting
  | running
  | requiresAction
  | error
  | idle
  deriving DecidableEq

def externalPhase : SessionState → ExternalPhase
  | .starting => .starting
  | .running turn => if isRequiresAction (.running turn) then .requiresAction else .running
  | .error _ => .error
  | .idle => .idle

/-- Move to a state, with a transition if the external phase changes. -/
def settle (source target : SessionState) (epoch : Nat) : SessionState × List Transition :=
  (target, if externalPhase source ≠ externalPhase target then [⟨source, target, epoch⟩] else [])

def anchorEpoch : SessionState → Nat
  | .running turn => turn.sinceEpoch
  | _ => 0

/-- What a process exit means while a turn runs. -/
def crashOutcome (terminalResultSeen : Bool) (exit : Option ExitStatusLite) : Outcome :=
  if terminalResultSeen then .followResult
  else match exit with
    | some ⟨some 0, none⟩ => .cleanNoResult
    | _ => .crashed

/-- The turn a `TurnStarted` opens. -/
def freshTurn (epoch : Nat) : RunningTurn where
  sinceEpoch := epoch
  sawSubstantiveOutput := false
  terminalResultSeen := false
  requiresAction := .default
  subagents := []

def RequiresActionSet.permission (set : RequiresActionSet) : PermissionKind → RequiresActionSet
  | .tool => { set with waitingOnApproval := saturatingAdd set.waitingOnApproval }
  | .auth => { set with waitingOnAuth := saturatingAdd set.waitingOnAuth }

def RequiresActionSet.resolved (set : RequiresActionSet) : PermissionKind → RequiresActionSet
  | .tool => { set with waitingOnApproval := set.waitingOnApproval - 1 }
  | .auth => { set with waitingOnAuth := set.waitingOnAuth - 1 }

/-- A terminal entry absorbs a non-terminal update; any other entry is overwritten. -/
def SubagentState.absorb (slot next : SubagentState) : SubagentState :=
  if slot.status.isTerminal && !next.status.isTerminal then slot else next

def upsertSubagent (subagents : List SubagentState) (update : SubagentUpdate) :
    List SubagentState :=
  Keyed.upsert SubagentState.ref SubagentState.absorb
    ⟨update.ref, update.label, update.status, update.parentRef⟩ subagents

def resultState (turn : RunningTurn) (isError : Bool) (apiErrorStatus : Option Nat)
    (resultText : String) (outcome : TurnOutcome) : SessionState :=
  let refused := match outcome with
    | .completed (.refused _) => true
    | _ => false
  if isError then .error (.backend apiErrorStatus resultText)
  else if !turn.sawSubstantiveOutput && resultText = "" && !refused then .error .emptyTurn
  else .idle

def step (state : SessionState) (event : SessionEvent) : SessionState × List Transition :=
  match event, state with
  -- the only event that leaves a terminal state; a stale or duplicate one is dropped
  | .turnStarted epoch, .running turn =>
    if epoch ≤ turn.sinceEpoch then (state, [])
    else settle state (.running (freshTurn epoch)) epoch
  | .turnStarted epoch, _ => settle state (.running (freshTurn epoch)) epoch
  -- terminal states absorb everything else
  | _, .idle | _, .error _ => (state, [])
  | .cancel, _ => settle state .idle (anchorEpoch state)
  | .detached _ _, .starting => settle state (.error .crashed) (anchorEpoch state)
  | .turnResult true apiErrorStatus resultText _ _, .starting =>
    settle state (.error (.backend apiErrorStatus resultText)) (anchorEpoch state)
  | _, .starting => (state, [])
  -- the state is running for everything below
  | .messageDelta _ text, .running turn =>
    (.running { turn with
      sawSubstantiveOutput := turn.sawSubstantiveOutput || !decide (text = "") }, [])
  | .toolResult _ _, .running turn => (.running { turn with sawSubstantiveOutput := true }, [])
  | .turnResult isError apiErrorStatus resultText epoch outcome, .running turn =>
    -- a late result of an earlier turn; 0 is an unstamped result, which always settles
    if epoch ≠ 0 ∧ epoch < turn.sinceEpoch then (state, [])
    else settle state (resultState turn isError apiErrorStatus resultText outcome)
      (anchorEpoch state)
  | .detached exit _, .running turn =>
    match crashOutcome turn.terminalResultSeen exit with
    | .crashed => settle state (.error .crashed) (anchorEpoch state)
    | .cleanNoResult => settle state (.error .emptyTurn) (anchorEpoch state)
    | .followResult => (state, [])
  | .permission _ kind, .running turn =>
    settle state (.running { turn with requiresAction := turn.requiresAction.permission kind })
      (anchorEpoch state)
  | .permissionResolved _ kind, .running turn =>
    settle state (.running { turn with requiresAction := turn.requiresAction.resolved kind })
      (anchorEpoch state)
  | .ask _, .running turn =>
    settle state (.running { turn with requiresAction := { turn.requiresAction with
      waitingOnQuestion := saturatingAdd turn.requiresAction.waitingOnQuestion } })
      (anchorEpoch state)
  | .askResolved _, .running turn =>
    settle state (.running { turn with requiresAction := { turn.requiresAction with
      waitingOnQuestion := turn.requiresAction.waitingOnQuestion - 1 } }) (anchorEpoch state)
  | .subagentUpdate update, .running turn =>
    (.running { turn with subagents := upsertSubagent turn.subagents update }, [])
  -- everything else is content or a signal to consumers
  | _, .running _ => (state, [])

variable {s t : SessionState} {e : SessionEvent} {n : Nat} (turn : RunningTurn)

lemma step_turnStarted (epoch : Nat) :
    step (.running turn) (.turnStarted epoch) =
      if epoch ≤ turn.sinceEpoch then (.running turn, [])
      else settle (.running turn) (.running (freshTurn epoch)) epoch :=
  rfl

lemma step_turnResult (isError : Bool) (apiErrorStatus : Option Nat)
    (resultText : String) (epoch : Nat) (outcome : TurnOutcome) :
    step (.running turn) (.turnResult isError apiErrorStatus resultText epoch outcome) =
      if epoch ≠ 0 ∧ epoch < turn.sinceEpoch then (.running turn, [])
      else settle (.running turn) (resultState turn isError apiErrorStatus resultText outcome)
        turn.sinceEpoch :=
  rfl

lemma step_detached (exit : Option ExitStatusLite) (summary : Option String) :
    step (.running turn) (.detached exit summary) =
      match crashOutcome turn.terminalResultSeen exit with
      | .crashed => settle (.running turn) (.error .crashed) turn.sinceEpoch
      | .cleanNoResult => settle (.running turn) (.error .emptyTurn) turn.sinceEpoch
      | .followResult => (.running turn, []) :=
  rfl

lemma externalPhase_of_settle (h : (settle s t n).2 = []) : externalPhase t = externalPhase s := by
  by_contra ne
  have moved : externalPhase s ≠ externalPhase t := fun e => ne e.symm
  simp [settle, moved] at h

lemma settle_same (h : externalPhase s = externalPhase t) : settle s t n = (t, []) := by
  simp [settle, h]

/-- The result is a move as `settle` makes it. -/
def Settles (s : SessionState) (result : SessionState × List Transition) : Prop :=
  ∃ n, result = settle s result.1 n

lemma Settles.stay : Settles s (s, []) := ⟨0, (settle_same rfl).symm⟩

lemma Settles.move : Settles s (settle s t n) := ⟨n, rfl⟩

lemma Settles.quiet {turn turn' : RunningTurn} (h : turn'.requiresAction = turn.requiresAction) :
    Settles (.running turn) (.running turn', []) :=
  ⟨0, (settle_same (by simp [externalPhase, isRequiresAction, h])).symm⟩

lemma step_settles (s : SessionState) (e : SessionEvent) : Settles s (step s e) := by
  cases s with
  | idle => cases e <;> first | exact .stay | exact .move
  | error reason => cases e <;> first | exact .stay | exact .move
  | starting =>
    cases e with
    | turnResult isError => cases isError <;> first | exact .stay | exact .move
    | _ => first | exact .stay | exact .move
  | running turn =>
    cases e with
    | turnStarted epoch =>
      rw [step_turnStarted]
      split
      · exact .stay
      · exact .move
    | turnResult isError apiErrorStatus resultText epoch outcome =>
      rw [step_turnResult]
      split
      · exact .stay
      · exact .move
    | detached exit =>
      rw [step_detached]
      cases crashOutcome turn.terminalResultSeen exit with
      | followResult => exact .stay
      | crashed | cleanNoResult => exact .move
    | messageDelta | toolResult | subagentUpdate => exact .quiet rfl
    | _ => first | exact .stay | exact .move

lemma externalPhase_of_step (h : (step s e).2 = []) :
    externalPhase (step s e).1 = externalPhase s := by
  obtain ⟨n, settles⟩ := step_settles s e
  rw [settles] at h
  exact externalPhase_of_settle h

def SessionEvent.update : SessionEvent → Option SubagentUpdate
  | .subagentUpdate update => some update
  | _ => none

lemma resultState_ne_running (turn turn' : RunningTurn) (isError : Bool) (status : Option Nat)
    (text : String) (outcome : TurnOutcome) :
    resultState turn isError status text outcome ≠ .running turn' := by
  simp only [resultState]
  intro h
  split_ifs at h

lemma step_not_running {turn' : RunningTurn} (idle : ∀ turn, s ≠ .running turn)
    (h : (step s e).1 = .running turn') : ∃ epoch, turn' = freshTurn epoch := by
  cases s with
  | running turn => exact absurd rfl (idle turn)
  | idle | error =>
    cases e with
    | turnStarted epoch => exact ⟨epoch, (SessionState.running.inj h).symm⟩
    | _ => cases h
  | starting =>
    cases e with
    | turnStarted epoch => exact ⟨epoch, (SessionState.running.inj h).symm⟩
    | turnResult isError => cases isError <;> cases h
    | _ => cases h

lemma step_running {turn turn' : RunningTurn} (h : (step (.running turn) e).1 = .running turn') :
    (∃ epoch, turn.sinceEpoch < epoch ∧ turn' = freshTurn epoch) ∨
      turn'.sinceEpoch = turn.sinceEpoch ∧
        turn'.subagents = e.update.elim turn.subagents (upsertSubagent turn.subagents) := by
  cases e with
  | turnStarted epoch =>
    rw [step_turnStarted] at h
    split at h
    case isTrue => exact .inr (by cases h; exact ⟨rfl, rfl⟩)
    case isFalse newer => exact .inl ⟨epoch, by omega, (SessionState.running.inj h).symm⟩
  | turnResult isError apiErrorStatus resultText epoch outcome =>
    rw [step_turnResult] at h
    split at h
    case isTrue => exact .inr (by cases h; exact ⟨rfl, rfl⟩)
    case isFalse =>
      exact (resultState_ne_running _ _ _ _ _ _ h).elim
  | detached exit =>
    cases outcome : crashOutcome turn.terminalResultSeen exit with
    | followResult =>
      simp only [step_detached, outcome] at h
      exact .inr (by cases h; exact ⟨rfl, rfl⟩)
    | crashed | cleanNoResult =>
      simp only [step_detached, outcome] at h
      cases h
  | cancel => cases h
  | _ => exact .inr (by cases h; exact ⟨rfl, rfl⟩)

/-- The epoch of the turn that a session runs. -/
def runningSince : SessionState → Option Nat
  | .running turn => some turn.sinceEpoch
  | _ => none

lemma runningSince_turnResult (isError : Bool) (status : Option Nat) (text : String) (epoch : Nat)
    (outcome : TurnOutcome) :
    runningSince (step s (.turnResult isError status text epoch outcome)).1 =
      (runningSince s).filter fun since => epoch ≠ 0 ∧ epoch < since := by
  cases s with
  | idle | error => rfl
  | starting => cases isError <;> rfl
  | running turn =>
    rw [step_turnResult]
    split
    case isTrue stale =>
      have kept : decide (epoch ≠ 0 ∧ epoch < turn.sinceEpoch) = true := decide_eq_true stale
      simp only [runningSince, Option.filter, kept, if_true]
    case isFalse fresh =>
      have settled : runningSince (resultState turn isError status text outcome) = none := by
        cases result : resultState turn isError status text outcome with
        | running turn' => exact (resultState_ne_running _ _ _ _ _ _ result).elim
        | _ => rfl
      refine settled.trans (Option.filter_eq_none_iff.mpr ?_).symm
      rintro since ⟨⟩
      exact fun stale => fresh (of_decide_eq_true stale)

lemma runningSince_step (h : runningSince (step s e).1 = some n) :
    e = .turnStarted n ∨ runningSince s = some n := by
  cases s with
  | idle | error =>
    cases e with
    | turnStarted epoch => exact .inl (by cases h; rfl)
    | _ => cases h
  | starting =>
    cases e with
    | turnStarted epoch => exact .inl (by cases h; rfl)
    | turnResult isError => cases isError <;> cases h
    | _ => cases h
  | running turn =>
    cases e with
    | turnStarted epoch =>
      rw [step_turnStarted] at h
      split at h
      case isTrue => exact .inr h
      case isFalse => exact .inl (by cases h; rfl)
    | turnResult isError status text epoch outcome =>
      rw [runningSince_turnResult] at h
      exact .inr (Option.filter_eq_some_iff.mp h).1
    | detached exit =>
      cases outcome : crashOutcome turn.terminalResultSeen exit with
      | followResult =>
        simp only [step_detached, outcome] at h
        exact .inr h
      | crashed | cleanNoResult =>
        simp only [step_detached, outcome] at h
        cases h
    | cancel => cases h
    | _ => exact .inr h

def SessionEvent.movesTurn : SessionEvent → Bool
  | .turnStarted _ | .cancel | .turnResult _ _ _ _ _ | .detached _ _ => true
  | _ => false

lemma runningSince_still (h : e.movesTurn = false) : runningSince (step s e).1 = runningSince s := by
  cases e <;> first | (cases s <;> rfl) | cases h

lemma runningSince_turnStarted (idle : runningSince s = none) :
    runningSince (step s (.turnStarted n)).1 = some n := by
  cases s with
  | running turn => cases idle
  | _ => rfl

/-- A result of the running turn has been seen. No event of a turn sets the flag. -/
def terminalSeen : SessionState → Bool
  | .running turn => turn.terminalResultSeen
  | _ => false

lemma runningSince_detached (exit : Option ExitStatusLite) (summary : Option String)
    (unseen : terminalSeen s = false) : runningSince (step s (.detached exit summary)).1 = none := by
  cases s with
  | running turn =>
    have seen : turn.terminalResultSeen = false := unseen
    have outcome : crashOutcome turn.terminalResultSeen exit ≠ .followResult := by
      unfold crashOutcome
      rw [seen, if_neg Bool.false_ne_true]
      split <;> exact nofun
    cases crash : crashOutcome turn.terminalResultSeen exit with
    | followResult => exact absurd crash outcome
    | crashed | cleanNoResult =>
      simp only [step_detached, crash]
      rfl
  | _ => rfl

lemma terminalSeen_step (unseen : terminalSeen s = false) : terminalSeen (step s e).1 = false := by
  cases s with
  | idle | error => cases e <;> rfl
  | starting =>
    cases e with
    | turnResult isError => cases isError <;> rfl
    | _ => rfl
  | running turn =>
    cases e with
    | turnStarted epoch =>
      rw [step_turnStarted]
      split
      · exact unseen
      · rfl
    | turnResult isError status text epoch outcome =>
      rw [step_turnResult]
      split
      · exact unseen
      · cases result : resultState turn isError status text outcome with
        | running turn' => exact (resultState_ne_running _ _ _ _ _ _ result).elim
        | _ =>
          simp only [settle]
          rfl
    | detached exit =>
      cases outcome : crashOutcome turn.terminalResultSeen exit with
      | followResult =>
        simp only [step_detached, outcome]
        exact unseen
      | crashed | cleanNoResult =>
        simp only [step_detached, outcome]
        rfl
    | cancel => rfl
    | _ => exact unseen

end KiCore.Session

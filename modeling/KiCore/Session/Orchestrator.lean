import KiCore.Session.Reducer

/-!
# The orchestrator

Port of `backend/orchestrator.rs`. `foldOne` folds an envelope of one of many sessions: it restamps and
broadcasts the envelope, mirrors a subagent update into the roster of the background workflows, steps
the reducer, prunes the finished subagents, and publishes a snapshot if a transition was emitted or the
activity changed.
-/

namespace KiCore.Session

open KiCore.Lib

inductive TransitionReason where
  | started
  | completed (stopReason : StopReason)
  | errored (reason : ErrorReason)
  | cancelled (reason : CancelReason)
  | permissionRequested (kind : PermissionKind)
  | permissionResolved
  deriving DecidableEq

structure StateSnapshot where
  sessionId : String
  state : SessionState
  canSend : Bool
  hasActivity : Bool
  canQueue : Bool
  canCancel : Bool
  turnGen : Nat
  lastReason : Option TransitionReason

/-- The lanes of the run loop, the caches, and what has been broadcast. -/
structure OrchestratorState where
  fsms : Table String SessionState
  rosters : Table String WorkflowRoster
  latest : Table String StateSnapshot
  lastTerminal : Table String (Nat × TransitionReason)
  events : List SessionEnvelope
  states : List StateSnapshot

def OrchestratorState.new : OrchestratorState :=
  { fsms := ∅, rosters := ∅, latest := ∅, lastTerminal := ∅, events := [], states := [] }

namespace OrchestratorState

variable (o : OrchestratorState) (sessionId : String)

def session : SessionState :=
  o.fsms[sessionId]?.getD .idle

def roster : WorkflowRoster :=
  o.rosters[sessionId]?.getD ∅

/-- The activity a consumer is shown: a foreground turn, or a background workflow. -/
def activity : Bool :=
  hasForegroundActivity (o.session sessionId) || backgroundActive (o.roster sessionId)

def initialSnapshot : StateSnapshot where
  sessionId := sessionId
  state := .idle
  canSend := true
  hasActivity := false
  canQueue := false
  canCancel := false
  turnGen := 0
  lastReason := none

/-- What a subscriber of a session is told: the cached snapshot, or the initial one. -/
def snapshot : StateSnapshot :=
  o.latest[sessionId]?.getD (initialSnapshot sessionId)

end OrchestratorState

/-- Stamp the live turn onto a result that the adapter left unstamped. -/
def restampEpoch (env : SessionEnvelope) : SessionEnvelope :=
  match env.event with
  | .turnResult isError apiErrorStatus resultText epoch outcome =>
    if epoch = 0 then
      { env with event := .turnResult isError apiErrorStatus resultText env.turnGen outcome }
    else env
  | _ => env

def SubagentStatus.isPruned : SubagentStatus → Bool
  | completed | errored | shutdown => true
  | _ => false

/-- Drop the finished subagents; this happens on every fold that ends in a running state. -/
def pruneTerminalSubagents : SessionState → SessionState
  | .running turn =>
    .running { turn with subagents := turn.subagents.filter fun s => !s.status.isPruned }
  | state => state

def SubagentStatus.taskStatus : SubagentStatus → WorkflowTaskStatus
  | pendingInit | running => .running
  | completed => .completed
  | errored => .failed
  | interrupted | shutdown => .stopped

/-- The roster entry a detail creates: it has no lifecycle of its own. -/
def WorkflowAgentState.ofDetail (ref : String) : WorkflowAgentState where
  refId := ref
  taskStatus := .running
  hasLifecycle := false
  retain := none
  label := none
  state := none
  model := none
  lastToolName := none
  tokens := none
  toolCalls := none

def WorkflowAgentState.enrich (slot : WorkflowAgentState) (detail : SubagentDetail) :
    WorkflowAgentState :=
  { slot with
    label := detail.label.or slot.label
    state := detail.loopState.or slot.state
    model := detail.model.or slot.model
    tokens := detail.tokens.or slot.tokens
    toolCalls := detail.toolCalls.or slot.toolCalls
    lastToolName := detail.lastToolName.or slot.lastToolName }

/-- The entry of a roster after a lifecycle update; a terminal one absorbs a non-terminal update. -/
def WorkflowAgentState.absorb (slot : Option WorkflowAgentState) (update : SubagentUpdate) :
    WorkflowAgentState :=
  match slot with
  | some slot =>
    if slot.taskStatus.isTerminal && !update.status.taskStatus.isTerminal then slot
    else { slot with
      taskStatus := update.status.taskStatus
      hasLifecycle := true
      label := update.label.or slot.label }
  | none =>
    { WorkflowAgentState.ofDetail update.ref with
      taskStatus := update.status.taskStatus
      hasLifecycle := true
      label := update.label }

def updateRoster (roster : WorkflowRoster) : SessionEvent → WorkflowRoster
  | .subagentDetail detail =>
    let slot := roster[detail.ref]?.getD (.ofDetail detail.ref)
    roster.insert detail.ref (slot.enrich detail)
  | .subagentUpdate update =>
    roster.insert update.ref (.absorb roster[update.ref]? update)
  | _ => roster

/-- The roster after an event; when the process is gone, nothing it ran is left. -/
def foldRoster (roster : WorkflowRoster) : SessionEvent → WorkflowRoster
  | .backendSuspended | .detached _ _ => ∅
  | event => updateRoster roster event

def deriveReason (transition : Option Transition) (event : SessionEvent) :
    Option TransitionReason :=
  transition.map fun t =>
    let reason := match t.target with
      | .running _ => match event with
        | .permissionResolved _ _ => .permissionResolved
        | _ => .started
      | .idle => match event with
        | .cancel => .cancelled .userCancel
        | .turnResult _ _ _ _ (.cancelled reason) => .cancelled reason
        | .turnResult _ _ _ _ (.completed stopReason) => .completed stopReason
        | _ => .completed .endTurn
      | .error reason => .errored reason
      | .starting => .started
    match event with
    | .permission _ kind =>
      if isRequiresAction t.target && !isRequiresAction t.source then .permissionRequested kind
      else reason
    | _ => reason

variable (acceptsProactiveInput : Bool)

/-- The snapshot `foldOne` publishes. -/
def makeSnapshot (env : SessionEnvelope) (state : SessionState)
    (hasActivity : Bool) (lastReason : Option TransitionReason) : StateSnapshot where
  sessionId := env.sessionId
  state := state
  canSend := canSendMessage state
  hasActivity := hasActivity
  canQueue := canQueueMessage state acceptsProactiveInput
  canCancel := canCancel state
  turnGen := env.turnGen
  lastReason := lastReason

/-- Cache and broadcast a snapshot. A terminal one is also the sticky last terminal, and one that a
dead resume anchor caused is preceded by a `BackendBound` that clears the anchor. -/
def publish (o : OrchestratorState) (snap : StateSnapshot) : OrchestratorState :=
  { o with
    latest := o.latest.insert snap.sessionId snap
    lastTerminal := match snap.state, snap.lastReason with
      | .idle, some reason | .error _, some reason =>
        o.lastTerminal.insert snap.sessionId (snap.turnGen, reason)
      | _, _ => o.lastTerminal
    events := match snap.state with
      | .error reason =>
        if isUnrecoverableResumeError reason then
          o.events ++ [⟨snap.sessionId, snap.turnGen, .backendBound none⟩]
        else o.events
      | _ => o.events
    states := o.states ++ [snap] }

def foldOne (o : OrchestratorState) (envelope : SessionEnvelope) : OrchestratorState :=
  let env := restampEpoch envelope
  let roster := o.roster env.sessionId
  let roster' := foldRoster roster env.event
  let prev := o.session env.sessionId
  let (next, transitions) := step prev env.event
  let state := pruneTerminalSubagents next
  let folded := { o with
    events := o.events ++ [env]
    rosters := o.rosters.insert env.sessionId roster'
    fsms := o.fsms.insert env.sessionId state }
  let hasActivity := hasForegroundActivity state || backgroundActive roster'
  let prevHasActivity := hasForegroundActivity prev || backgroundActive roster
  if transitions ≠ [] ∨ prevHasActivity ≠ hasActivity then
    publish folded (makeSnapshot acceptsProactiveInput env state hasActivity
      (deriveReason transitions.getLast? env.event))
  else folded

def foldAll (envs : List SessionEnvelope) : OrchestratorState :=
  envs.foldl (foldOne acceptsProactiveInput) .new

variable {b : Bool} {o : OrchestratorState} {env : SessionEnvelope} {s : String} {n : Nat}
  {state : SessionState}

@[simp] lemma restampEpoch_sessionId : (restampEpoch env).sessionId = env.sessionId := by
  unfold restampEpoch
  split
  · split <;> rfl
  · rfl

def foldTransitions (o : OrchestratorState) (env : SessionEnvelope) : List Transition :=
  (step (o.session env.sessionId) (restampEpoch env).event).2

def foldState (o : OrchestratorState) (env : SessionEnvelope) : SessionState :=
  pruneTerminalSubagents (step (o.session env.sessionId) (restampEpoch env).event).1

lemma session_foldOne :
    (foldOne b o env).session s = if env.sessionId = s then foldState o env else o.session s := by
  have folded : (foldOne b o env).fsms = o.fsms.insert env.sessionId (foldState o env) := by
    simp only [foldOne, restampEpoch_sessionId]
    split <;> rfl
  simp only [OrchestratorState.session, folded, Table.get_insert]
  split <;> rfl

lemma roster_foldOne :
    (foldOne b o env).roster s =
      if env.sessionId = s then foldRoster (o.roster s) (restampEpoch env).event
      else o.roster s := by
  have folded : (foldOne b o env).rosters =
      o.rosters.insert env.sessionId
        (foldRoster (o.roster env.sessionId) (restampEpoch env).event) := by
    simp only [foldOne, restampEpoch_sessionId]
    split <;> rfl
  by_cases h : env.sessionId = s
  · subst h
    simp [OrchestratorState.roster, folded]
  · simp [OrchestratorState.roster, folded, Table.get_insert, h]

def foldActivity (o : OrchestratorState) (env : SessionEnvelope) : Bool :=
  hasForegroundActivity (foldState o env) ||
    backgroundActive (foldRoster (o.roster env.sessionId) (restampEpoch env).event)

lemma activity_foldOne : (foldOne b o env).activity env.sessionId = foldActivity o env := by
  simp [OrchestratorState.activity, session_foldOne, roster_foldOne, foldActivity]

/-- A fold publishes: it crosses a phase, or changes the activity of its session. -/
def Publishes (o : OrchestratorState) (env : SessionEnvelope) : Prop :=
  foldTransitions o env ≠ [] ∨ o.activity env.sessionId ≠ foldActivity o env

instance : Decidable (Publishes o env) := inferInstanceAs (Decidable (_ ∨ _))

lemma latest_foldOne :
    (foldOne b o env).latest =
      if Publishes o env then
        o.latest.insert env.sessionId (makeSnapshot b (restampEpoch env) (foldState o env)
          (foldActivity o env) (deriveReason (foldTransitions o env).getLast? (restampEpoch env).event))
      else o.latest := by
  simp only [foldOne, restampEpoch_sessionId]
  split
  case isTrue h =>
    have published : Publishes o env := h
    rw [if_pos published]
    simp only [publish, makeSnapshot, restampEpoch_sessionId]
    rfl
  case isFalse h =>
    have quiet : ¬ Publishes o env := h
    rw [if_neg quiet]

def foldEnvelope (state : SessionState) (env : SessionEnvelope) : SessionState :=
  pruneTerminalSubagents (step state (restampEpoch env).event).1

@[simp] lemma runningSince_prune : runningSince (pruneTerminalSubagents state) = runningSince state := by
  cases state <;> rfl

lemma runningSince_foldEnvelope (h : runningSince (foldEnvelope state env) = some n) :
    env.event = .turnStarted n ∨ runningSince state = some n := by
  rw [foldEnvelope, runningSince_prune] at h
  refine (runningSince_step h).imp_left fun started => ?_
  rw [restampEpoch] at started
  split at started
  · split at started
    · cases started
    · exact started
  · exact started

lemma runningSince_unstamped {isError : Bool} {status : Option Nat} {text : String}
    {outcome : TurnOutcome} (h : env.event = .turnResult isError status text 0 outcome) :
    runningSince (foldEnvelope state env) =
      (runningSince state).filter fun since => env.turnGen ≠ 0 ∧ env.turnGen < since := by
  have stamped : (restampEpoch env).event = .turnResult isError status text env.turnGen outcome := by
    simp [restampEpoch, h]
  rw [foldEnvelope, runningSince_prune, stamped, runningSince_turnResult]

lemma terminalSeen_foldEnvelope (unseen : terminalSeen state = false) :
    terminalSeen (foldEnvelope state env) = false := by
  have pruned : ∀ state, terminalSeen (pruneTerminalSubagents state) = terminalSeen state :=
    fun state => by cases state <;> rfl
  rw [foldEnvelope, pruned]
  exact terminalSeen_step unseen

lemma foldEnvelope_event {event : SessionEvent} (h : env.event = event)
    (unstamped : ∀ isError status text epoch outcome,
      event ≠ .turnResult isError status text epoch outcome) :
    foldEnvelope state env = pruneTerminalSubagents (step state event).1 := by
  obtain ⟨sessionId, turnGen, _⟩ := env
  subst h
  unfold foldEnvelope restampEpoch
  split
  case h_1 result => exact absurd result (unstamped _ _ _ _ _)
  case h_2 => rfl

lemma runningSince_fold_still (h : env.event.movesTurn = false) :
    runningSince (foldEnvelope state env) = runningSince state := by
  have unstamped : ∀ isError status text epoch outcome,
      env.event ≠ .turnResult isError status text epoch outcome := by
    intro _ _ _ _ _ result
    rw [result] at h
    cases h
  rw [foldEnvelope_event rfl unstamped, runningSince_prune, runningSince_still h]

lemma runningSince_fold_started (h : env.event = .turnStarted n) (idle : runningSince state = none) :
    runningSince (foldEnvelope state env) = some n := by
  rw [foldEnvelope_event h nofun, runningSince_prune, runningSince_turnStarted idle]

lemma runningSince_fold_detached {exit : Option ExitStatusLite} {summary : Option String}
    (h : env.event = .detached exit summary) (unseen : terminalSeen state = false) :
    runningSince (foldEnvelope state env) = none := by
  rw [foldEnvelope_event h nofun, runningSince_prune, runningSince_detached exit summary unseen]

end KiCore.Session

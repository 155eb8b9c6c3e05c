import KiCore.Lib.Table
import KiCore.Session.Event

/-!
# Session states

Port of `state.rs`: the state of a session, the roster of its background workflows, and the views
derived from them that the consumers are gated on.
-/

namespace KiCore.Session

open KiCore.Lib

/-- The largest value of a counter of pending requests. -/
def u32Max : Nat := 2 ^ 32 - 1

def saturatingAdd (n : Nat) : Nat := min (n + 1) u32Max

/-- Pending requests to the user, counted by their kind. -/
structure RequiresActionSet where
  waitingOnApproval : Nat
  waitingOnAuth : Nat
  waitingOnQuestion : Nat
  deriving DecidableEq

def RequiresActionSet.default : RequiresActionSet :=
  { waitingOnApproval := 0, waitingOnAuth := 0, waitingOnQuestion := 0 }

structure SubagentState where
  ref : String
  label : Option String
  status : SubagentStatus
  parentRef : Option String
  deriving DecidableEq

inductive WorkflowTaskStatus where
  | running
  | completed
  | failed
  | stopped
  deriving DecidableEq

def WorkflowTaskStatus.isTerminal : WorkflowTaskStatus → Bool
  | running => false
  | completed | failed | stopped => true

/-- A background workflow agent; its entry outlives the turn that started it. -/
structure WorkflowAgentState where
  refId : String
  taskStatus : WorkflowTaskStatus
  hasLifecycle : Bool
  retain : Option Bool
  label : Option String
  state : Option WorkflowLoopState
  model : Option String
  lastToolName : Option String
  tokens : Option Nat
  toolCalls : Option Nat

abbrev WorkflowRoster : Type := Table String WorkflowAgentState

def backgroundActive (roster : WorkflowRoster) : Bool :=
  (Table.values roster).any fun w => w.hasLifecycle && !w.taskStatus.isTerminal

inductive ErrorReason where
  | crashed
  | emptyTurn
  | backend (apiErrorStatus : Option Nat) (message : String)
  deriving DecidableEq

structure RunningTurn where
  sinceEpoch : Nat
  sawSubstantiveOutput : Bool
  terminalResultSeen : Bool
  requiresAction : RequiresActionSet
  subagents : List SubagentState
  deriving DecidableEq

inductive SessionState where
  | starting
  | running (turn : RunningTurn)
  | error (reason : ErrorReason)
  | idle
  deriving DecidableEq

def canSendMessage : SessionState → Bool
  | .idle => true
  | _ => false

def isRequiresAction : SessionState → Bool
  | .running turn =>
    turn.requiresAction.waitingOnApproval > 0 || turn.requiresAction.waitingOnAuth > 0 ||
      turn.requiresAction.waitingOnQuestion > 0
  | _ => false

def canQueueMessage (state : SessionState) (acceptsProactiveInput : Bool) : Bool :=
  acceptsProactiveInput && (match state with | .running _ => true | _ => false) &&
    !isRequiresAction state

def canCancel : SessionState → Bool
  | .starting | .running _ => true
  | _ => false

def anySubagentActive (subagents : List SubagentState) : Bool :=
  subagents.any fun s => s.status = .pendingInit || s.status = .running

def hasForegroundActivity : SessionState → Bool
  | .starting => true
  | .running turn => !isRequiresAction (.running turn) || anySubagentActive turn.subagents
  | .error _ | .idle => false

def contains (text pattern : String) : Bool :=
  text.toList.tails.any fun tail => pattern.toList.isPrefixOf tail

def isUnrecoverableResumeError : ErrorReason → Bool
  | .backend _ message =>
    contains message "No conversation found" || contains message "error_during_execution" ||
      contains message "no rollout found for thread id" || contains message "thread not found:"
  | _ => false

end KiCore.Session

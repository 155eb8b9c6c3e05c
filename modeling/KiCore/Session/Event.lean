import Mathlib.Tactic

/-!
# Session events

Port of `event.rs`: the vocabulary that the adapters emit, the reducer consumes and the orchestrator
broadcasts. Payloads that neither the reducer nor the orchestrator nor the pending queue reads (tool
inputs and outputs, catalogs, plans, notices) are left out.
-/

namespace KiCore.Session

inductive SubagentStatus where
  | pendingInit
  | running
  | interrupted
  | completed
  | errored
  | shutdown
  deriving DecidableEq

def SubagentStatus.isTerminal : SubagentStatus → Bool
  | interrupted | completed | errored | shutdown => true
  | pendingInit | running => false

inductive PermissionKind where
  | tool
  | auth
  deriving DecidableEq

inductive TruncationKind where
  | maxTokens
  | contextWindow
  | maxTurns
  | budget
  | truncated
  deriving DecidableEq

inductive StopReason where
  | endTurn
  | truncated (kind : TruncationKind)
  | refused (category : Option String)
  deriving DecidableEq

inductive CancelReason where
  | userCancel
  | bargeIn
  | socketAbort
  | toolDenyChain
  deriving DecidableEq

inductive TurnOutcome where
  | completed (stopReason : StopReason)
  | cancelled (reason : CancelReason)
  | failed
  | endTurn
  deriving DecidableEq

structure ExitStatusLite where
  code : Option Int
  signal : Option Int
  deriving DecidableEq

/-- What a process exit means for the turn it ends. -/
inductive Outcome where
  | crashed
  | cleanNoResult
  | followResult
  deriving DecidableEq

inductive WorkflowLoopState where
  | start
  | progress
  | done
  deriving DecidableEq

structure SubagentUpdate where
  ref : String
  label : Option String
  status : SubagentStatus
  parentRef : Option String

/-- The payload of a workflow agent's display detail. -/
structure SubagentDetail where
  ref : String
  label : Option String
  loopState : Option WorkflowLoopState
  model : Option String
  tokens : Option Nat
  toolCalls : Option Nat
  lastToolName : Option String

inductive SessionEvent where
  -- lowered by the orchestration
  | turnStarted (epoch : Nat)
  | cancel
  -- data events of the adapters
  | messageDelta (itemId text : String)
  | thoughtDelta (itemId text : String)
  | toolCall (toolUseId name : String)
  | toolResult (toolUseId : String) (isError : Bool)
  | heartbeat
  | turnResult (isError : Bool) (apiErrorStatus : Option Nat) (resultText : String) (epoch : Nat)
      (outcome : TurnOutcome)
  | detached (exit : Option ExitStatusLite) (redactedSummary : Option String)
  | adapterSpecific (tag : String)
  | plan
  -- requests to the user
  | permission (requestId : String) (kind : PermissionKind)
  | permissionResolved (requestId : String) (kind : PermissionKind)
  | ask (requestId : String)
  | askResolved (requestId : String)
  -- consumer, bracket and orchestration signals
  | promptAccepted (clientMsgId : String)
  | usageDelta
  | provisioning
  | rewound (toTurn : Nat)
  | configChanged
  | catalogUpdated
  | subagentUpdate (update : SubagentUpdate)
  | subagentDetail (detail : SubagentDetail)
  | workflowPhase
  | notice
  | toolOutputDelta (itemId text : String)
  | turnDiffUpdated
  | itemStarted (itemId : String)
  | itemCompleted (itemId : String)
  | messageFinalized
  | snapshot
  | lagged (skipped : Nat)
  | backendSuspended
  | checkpointList
  | sessionInfo
  | sessionTitle (title : String)
  | backendBound (backendSessionId : Option String)
  | backendTurnBound (backendTurnId : String)
  | messageLifecycle (clientMsgId : String)

structure SessionEnvelope where
  sessionId : String
  turnGen : Nat
  event : SessionEvent

end KiCore.Session

import KiCore.Lib.Board
import KiCore.Lib.Table

/-!
# The data of the work coordinator

Port of `work_coordinator/model.rs`: runtime constraints, work intents and their states, enqueue
requests and leases, batches, the results of the operations, and the port through which the
coordinator talks to the team run manager. Ids are strings, as in the source; a hash map or a hash
set of the source is a `Table` or a `Std.TreeSet`.

Port of `work_source.rs` and of `WorkPriority` in `work_coordinator/model.rs`: the reason a slot is
woken, and the lane the wake is queued in.
-/

namespace KiCore.Team

inductive WorkPriority where
  | foreground
  | control
  | directed
  | background
  deriving DecidableEq

/-- The lanes in the order `next` tries them. -/
def WorkPriority.claimOrder : List WorkPriority :=
  [.foreground, .control, .directed, .background]

/-- Why a slot is woken. -/
inductive WorkSource where
  | userMessage
  | userCommand
  | userIntervention
  | leadIntervention
  | mcpSendMessage
  | mcpShutdownRequest
  | spawnWelcome
  | teamMembershipChanged
  | spawnAttachFailure
  | deliveryFailureNotification
  | idleNotification
  | interruptedNotification
  | shutdownRejected
  | recoveryDrain
  deriving DecidableEq

namespace WorkSource

def priority : WorkSource → WorkPriority
  | userMessage | userCommand | userIntervention | leadIntervention => .foreground
  | mcpShutdownRequest | shutdownRejected => .control
  | mcpSendMessage => .directed
  | spawnWelcome | teamMembershipChanged | spawnAttachFailure | deliveryFailureNotification
  | idleNotification | interruptedNotification | recoveryDrain => .background

def resumesPausedSlot : WorkSource → Bool
  | userMessage | userCommand | userIntervention | leadIntervention => true
  | _ => false

/-- Whether an enqueue from this source must name a mailbox row. -/
def requiresMailboxMessage : WorkSource → Bool
  | userMessage | userCommand | userIntervention | leadIntervention | mcpSendMessage
  | mcpShutdownRequest | spawnWelcome | spawnAttachFailure | deliveryFailureNotification
  | interruptedNotification | shutdownRejected | recoveryDrain => true
  | teamMembershipChanged | idleNotification => false

/-- The name the source's `Debug` instance prints. -/
def debug : WorkSource → String
  | userMessage => "UserMessage"
  | userCommand => "UserCommand"
  | userIntervention => "UserIntervention"
  | leadIntervention => "LeadIntervention"
  | mcpSendMessage => "McpSendMessage"
  | mcpShutdownRequest => "McpShutdownRequest"
  | spawnWelcome => "SpawnWelcome"
  | teamMembershipChanged => "TeamMembershipChanged"
  | spawnAttachFailure => "SpawnAttachFailure"
  | deliveryFailureNotification => "DeliveryFailureNotification"
  | idleNotification => "IdleNotification"
  | interruptedNotification => "InterruptedNotification"
  | shutdownRejected => "ShutdownRejected"
  | recoveryDrain => "RecoveryDrain"

end WorkSource

open KiCore.Lib

/-- How many times a mailbox message may fail delivery before it is abandoned. -/
def MAX_MESSAGE_DELIVERY_FAILURES : Nat := 3

/-- What retiring a batch means for the delivery retry counters of its messages. -/
inductive DeliveryOutcome where
  | notFailed
  | failed
  deriving DecidableEq

inductive TeamRunTargetRole where
  | lead
  | teammate
  deriving DecidableEq

inductive RuntimeConstraint where
  | ready
  | starting (operationId : Nat)
  | failed (operationId : Nat) (classification : String)
  | removing (operationId : Nat)
  | sessionStopped
  deriving DecidableEq

structure RuntimeRestartGate where
  operationId : Nat
  previousConstraint : RuntimeConstraint
  deriving DecidableEq

inductive RuntimeRestartRejection where
  | busy
  | removing
  | sessionStopped
  deriving DecidableEq

inductive SlotPhase where
  | idle
  | queued
  | starting
  | running
  | paused
  | blocked
  deriving DecidableEq

inductive WorkIntentState where
  | queued
  | starting (batchId : String) (operationId : Nat)
  | running (batchId : String) (operationId : Nat) (turnId : String)
  | completed
  | failed (classification : String)
  | cancelled (classification : String)
  deriving DecidableEq

namespace WorkIntentState

/-- Completed, failed and cancelled intents stay so. -/
def isTerminal : WorkIntentState → Bool
  | completed | failed _ | cancelled _ => true
  | _ => false

/-- The intent belongs to the batch a slot works on. -/
def isActive : WorkIntentState → Bool
  | starting _ _ | running _ _ _ => true
  | _ => false

def isCancelled : WorkIntentState → Bool
  | cancelled _ => true
  | _ => false

def isFailed : WorkIntentState → Bool
  | failed _ => true
  | _ => false

def startingBatch : WorkIntentState → Option String
  | starting batchId _ => some batchId
  | _ => none

def runningBatch : WorkIntentState → Option String
  | running batchId _ _ => some batchId
  | _ => none

end WorkIntentState

structure WorkIntent where
  intentId : String
  sessionGeneration : String
  slotId : String
  role : TeamRunTargetRole
  source : WorkSource
  priority : WorkPriority
  mailboxMessageId : Option String
  teamRunId : Option String
  createdAtMs : Int
  state : WorkIntentState

/-- How an enqueue finds the run it belongs to. -/
inductive CausalBinding where
  | userVisible
  | inheritRunningBatch (callerSlotId : String)
  | activeRunOrBackground
  | background
  | systemInitiated (inheritFrom : Option String)
  deriving DecidableEq

structure EnqueueRequest where
  slotId : String
  role : TeamRunTargetRole
  source : WorkSource
  binding : CausalBinding

structure EnqueueLease where
  leaseId : String
  sessionGeneration : String
  slotId : String
  role : TeamRunTargetRole
  source : WorkSource
  teamRunId : Option String
  deriving DecidableEq

structure WorkBatch where
  batchId : String
  sessionGeneration : String
  slotId : String
  intentIds : List String
  mailboxMessageIds : List String
  observedMessageIds : List String
  highestPriority : WorkPriority
  teamRunIds : List String
  operationId : Nat
  isCommand : Bool
  deriving DecidableEq

inductive ReconcileDecision where
  | claim (batch : WorkBatch)
  | waitingForCompletion
  | blocked (constraint : RuntimeConstraint)
  | settleSignals (intentIds : List String)
  | quiescent
  deriving DecidableEq

inductive CommitResult where
  | committed
  | staleOwner
  | rejected
  deriving DecidableEq

structure BatchFailureResult where
  commitResult : CommitResult
  exhaustedMessageIds : List String

inductive StartCommitResult where
  | accepted
  | cancelImmediately
  | staleOwner
  deriving DecidableEq

inductive EnqueueDisposition where
  | accepted
  | queued
  | blockedRuntimeStarting
  deriving DecidableEq

structure SlotWorkSnapshot where
  slotId : String
  role : TeamRunTargetRole
  state : SlotPhase
  queuedForegroundCount : Nat
  queuedBackgroundCount : Nat
  activeBatch : Option WorkBatch
  activeTurnId : Option String
  activeTurnStartedAtMs : Option Int
  runtimeConstraint : RuntimeConstraint
  teamRunId : Option String
  deriving DecidableEq

structure EnqueueCommit where
  intentId : String
  teamRunId : Option String
  disposition : EnqueueDisposition
  slot : Option SlotWorkSnapshot

structure RunWorkSummary where
  teamRunId : String
  queuedIntentCount : Nat
  startingBatchCount : Nat
  runningBatchCount : Nat
  activeEnqueueLeaseCount : Nat
  pausedIntentCount : Nat
  failedIntentCount : Nat
  slots : List SlotWorkSnapshot
  deriving DecidableEq

structure CoordinatorSnapshot where
  sessionGeneration : String
  slots : List SlotWorkSnapshot
  activeRunSummary : Option RunWorkSummary

structure ReconcileProjection where
  createdRecoveryIntentIds : List String
  retainedIntentIds : List String
  clearedStaleIntentIds : List String

structure BatchCancelTarget where
  batch : WorkBatch
  turnId : Option String

structure ObserveMessagesResult where
  batchId : Option String
  observedCount : Nat

structure BatchCompletionResult where
  commitResult : CommitResult
  ackMessageIds : List String
  teamRunIds : List String

inductive McpRefreshDisposition where
  | unchanged
  | restartNow
  | deferred
  deriving DecidableEq

structure BatchInterruptMetadata where
  reason : Option String
  replacementMessageId : String

structure InterruptBatchResult where
  commitResult : CommitResult
  terminalMessageIds : List String

structure PauseWorkResult where
  cancelTarget : Option BatchCancelTarget
  slot : Option SlotWorkSnapshot

structure RemoveWorkResult where
  cancelTarget : Option BatchCancelTarget
  terminalMessageIds : List String
  affectedRunSummaries : List RunWorkSummary

structure CancelRunWorkResult where
  cancelTargets : List BatchCancelTarget
  terminalMessageIds : List String
  summary : RunWorkSummary

structure RuntimeConstraintUpdate where
  slot : Option SlotWorkSnapshot
  terminalMessageIds : List String
  affectedRunSummaries : List RunWorkSummary

structure RunBinding where
  teamRunId : Option String
  createdNewRun : Bool
  userIntervention : Bool
  deriving DecidableEq

inductive TeamError where
  | invalidRequest (message : String)
  | agentNotFound (slotId : String)
  deriving DecidableEq

/-- The port to the team run manager, over the manager's own state `ρ`. -/
structure RunCausalityPort (ρ : Type) where
  bindEnqueue : ρ → EnqueueRequest → RunBinding × ρ
  bindSystemEnqueue : ρ → EnqueueRequest → RunBinding × ρ
  abortBinding : ρ → RunBinding → ρ
  applyWorkSummary : ρ → RunWorkSummary → ρ
  publishSlotWork : ρ → SlotWorkSnapshot → ρ

/-- A call on the port that an operation makes after it has released the coordinator's lock. -/
inductive PortCall where
  | abortBinding (binding : RunBinding)
  | applyWorkSummary (summary : RunWorkSummary)
  | publishSlotWork (snapshot : SlotWorkSnapshot)
  deriving DecidableEq

/-- Make a call that was computed under the lock. -/
def RunCausalityPort.deliver {ρ : Type} (port : RunCausalityPort ρ) (r : ρ) : PortCall → ρ
  | .abortBinding binding => port.abortBinding r binding
  | .applyWorkSummary summary => port.applyWorkSummary r summary
  | .publishSlotWork snapshot => port.publishSlotWork r snapshot

def RunCausalityPort.answering (binding : RunBinding) : RunCausalityPort Unit where
  bindEnqueue _ _ := (binding, ())
  bindSystemEnqueue _ _ := (binding, ())
  abortBinding _ _ := ()
  applyWorkSummary _ _ := ()
  publishSlotWork _ _ := ()

end KiCore.Team

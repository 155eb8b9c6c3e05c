import KiCore.Lib.Transition
import KiCore.Team.Coordinator.Control

/-!
# The coordinator as a transition system

`Op` lists the operations of the coordinator with their arguments, and `SlotWorkCoordinator.lts` is
the transition system whose runs are the finite sequences of operations from
`SlotWorkCoordinator::new`. The arguments are arbitrary, with one exception: a batch is a value only
`next` makes, so an operation on a batch is given a batch that `next` returned (or a copy the
coordinator handed out later, which may know more observed messages). `Tracked` carries the batches
returned so far.

`acquire_enqueue` asks the run manager for a binding under the lock; here its answer is an argument
of the operation.
-/

namespace KiCore.Team

open KiCore.Lib

/-- The batch as `next` returned it, whatever has been observed since. -/
def WorkBatch.asClaimed (batch : WorkBatch) : WorkBatch :=
  { batch with observedMessageIds := [] }

lemma WorkBatch.copy_of_asClaimed {b b' : WorkBatch} (e : b.asClaimed = b'.asClaimed) :
    ∃ observed, b = { b' with observedMessageIds := observed } := by
  refine ⟨b.observedMessageIds, ?_⟩
  have h : { b.asClaimed with observedMessageIds := b.observedMessageIds } =
      { b'.asClaimed with observedMessageIds := b.observedMessageIds } := by rw [e]
  exact h

/-- The operations of the coordinator. -/
inductive Op where
  | acquireEnqueue (request : EnqueueRequest) (answer : RunBinding)
  | commitEnqueue (lease : EnqueueLease) (mailboxMessageId : Option String)
  | abortEnqueue (lease : EnqueueLease)
  | reconcileMailboxSnapshot (slotId : String) (unreadMessageIds : List String)
      (role : TeamRunTargetRole) (staleCandidates : List String)
  | next (slotId : String)
  | observeMessages (slotId expectedBatchId : String) (messageIds : List String)
  | markStarted (batch : WorkBatch) (turnId : String)
  | retryStart (batch : WorkBatch)
  | completeBatchWithAck (batch : WorkBatch)
  | failBatch (batch : WorkBatch) (classification : String)
  | cancelBatch (batch : WorkBatch) (classification : String)
  | interruptBatch (batch : WorkBatch) (reason : Option String) (replacementMessageId : String)
  | takeInterruptMetadata (batchId : String)
  | discardQueuedExcept (slotId retainedMessageId : String)
  | cancelRun (teamRunId : String)
  | completeSignals (slotId : String) (intentIds : List String)
  | pauseSlot (slotId : String)
  | setRuntimeConstraint (slotId : String) (constraint : RuntimeConstraint)
  | beginRuntimeRestart (slotId : String)
  | beginMcpRuntimeRestart (slotId : String)
  | abortRuntimeRestart (slotId : String) (gate : RuntimeRestartGate)
  | requestMcpRefresh (slotId fingerprint : String)
  | deferMcpRefresh (slotId fingerprint : String)
  | claimPendingMcpRefresh (slotId : String)
  | completeMcpRefresh (slotId fingerprint : String)
  | releaseMcpRefresh (slotId fingerprint : String)
  | settleMcpRefreshClaim (slotId fingerprint : String)
  | removeSlot (slotId : String)
  | stop

namespace SlotWorkCoordinator

/-- The state an operation leaves, and the calls on the port that it makes after unlocking. -/
def exec (c : SlotWorkCoordinator) (state : CoordinatorState) : Op → CoordinatorState × List PortCall
  | .acquireEnqueue request answer =>
    ((acquireEnqueue c (.answering answer) () state request).2.1, [])
  | .commitEnqueue lease messageId => of (commitEnqueue c state lease messageId)
  | .abortEnqueue lease => of (abortEnqueue c state lease)
  | .reconcileMailboxSnapshot slotId unread role stale =>
    of (reconcileMailboxSnapshot c state slotId unread role stale)
  | .next slotId => of (next c state slotId)
  | .observeMessages slotId batchId messageIds => of (observeMessages state slotId batchId messageIds)
  | .markStarted batch turnId => of (markStarted c state batch turnId)
  | .retryStart batch => of (retryStart c state batch)
  | .completeBatchWithAck batch => of (completeBatchWithAck c state batch)
  | .failBatch batch classification => of (failBatch c state batch classification)
  | .cancelBatch batch classification => of (cancelBatch c state batch classification)
  | .interruptBatch batch reason replacement => of (interruptBatch c state batch reason replacement)
  | .takeInterruptMetadata batchId => of (takeInterruptMetadata state batchId)
  | .discardQueuedExcept slotId retained => of (discardQueuedExcept state slotId retained)
  | .cancelRun teamRunId => of (cancelRun c state teamRunId)
  | .completeSignals slotId intentIds => of (completeSignals state slotId intentIds)
  | .pauseSlot slotId => of (pauseSlot state slotId)
  | .setRuntimeConstraint slotId constraint => of (setRuntimeConstraint c state slotId constraint)
  | .beginRuntimeRestart slotId => of (beginRuntimeRestart state slotId)
  | .beginMcpRuntimeRestart slotId => of (beginMcpRuntimeRestart state slotId)
  | .abortRuntimeRestart slotId gate => of (abortRuntimeRestart state slotId gate)
  | .requestMcpRefresh slotId fingerprint => of (requestMcpRefresh state slotId fingerprint)
  | .deferMcpRefresh slotId fingerprint => of (deferMcpRefresh state slotId fingerprint)
  | .claimPendingMcpRefresh slotId => of (claimPendingMcpRefresh state slotId)
  | .completeMcpRefresh slotId fingerprint => of (completeMcpRefresh state slotId fingerprint)
  | .releaseMcpRefresh slotId fingerprint => of (releaseMcpRefresh state slotId fingerprint)
  | .settleMcpRefreshClaim slotId fingerprint => of (settleMcpRefreshClaim state slotId fingerprint)
  | .removeSlot slotId => of (removeSlot state slotId)
  | .stop => of (stop state)
where
  of {α : Type} (outcome : Outcome α) : CoordinatorState × List PortCall :=
    (outcome.state, outcome.calls)

/-- The batch that a `next` returns. -/
def returnedBatch (c : SlotWorkCoordinator) (state : CoordinatorState) : Op → Option WorkBatch
  | .next slotId =>
    match (next c state slotId).result with
    | .claim batch => some batch
    | _ => none
  | _ => none

end SlotWorkCoordinator

def Op.batch : Op → Option WorkBatch
  | .markStarted batch _ | .retryStart batch | .completeBatchWithAck batch | .failBatch batch _
  | .cancelBatch batch _ | .interruptBatch batch _ _ => some batch
  | _ => none

/-- The state of the coordinator, with every batch it has returned. -/
structure Tracked where
  state : CoordinatorState
  claimed : List WorkBatch

namespace SlotWorkCoordinator

/-- An operation on a batch is given a batch that was claimed. -/
def Allowed (σ : Tracked) (op : Op) : Prop :=
  ∀ batch, op.batch = some batch → batch.asClaimed ∈ σ.claimed

lemma Allowed.of_none {σ : Tracked} {op : Op} (h : op.batch = none) : Allowed σ op := by
  intro batch e
  rw [h] at e
  cases e

def track (c : SlotWorkCoordinator) (σ : Tracked) (op : Op) : Tracked where
  state := (exec c σ.state op).1
  claimed := σ.claimed ++ (returnedBatch c σ.state op).toList

/-- `SlotWorkCoordinator::new`. -/
def initial : Tracked :=
  { state := .default, claimed := [] }

instance (σ : Tracked) (op : Op) : Decidable (Allowed σ op) :=
  match h : op.batch with
  | none => isTrue (.of_none h)
  | some batch => decidable_of_iff (batch.asClaimed ∈ σ.claimed) <| by
      constructor
      · intro mem b e
        rw [h] at e
        cases e
        exact mem
      · intro all
        exact all batch h

def lts (c : SlotWorkCoordinator) : LTS Tracked Op :=
  .computed initial Allowed (track c)

/-- A coordinator to compute with: the ids it draws are one stroke, two strokes and so on. -/
def strokes : SlotWorkCoordinator where
  sessionGeneration := "generation"
  generateId n := String.ofList (List.replicate (n + 1) '|')
  generateId_injective := strokes_injective
  nowMs n := n
  hashOrder _ := .id

def userLease : EnqueueLease where
  leaseId := "|"
  sessionGeneration := "generation"
  slotId := "lead"
  role := .lead
  source := .userMessage
  teamRunId := some "run"

/-- A user message is enqueued for the lead, and claimed. -/
def userTurn : List Op :=
  [.setRuntimeConstraint "lead" .ready,
    .acquireEnqueue
      { slotId := "lead", role := .lead, source := .userMessage, binding := .userVisible }
      { teamRunId := some "run", createdNewRun := true, userIntervention := false },
    .commitEnqueue userLease (some "m"),
    .next "lead"]

def userBatch : WorkBatch where
  batchId := "|||"
  sessionGeneration := "generation"
  slotId := "lead"
  intentIds := ["||"]
  mailboxMessageIds := ["m"]
  observedMessageIds := []
  highestPriority := .foreground
  teamRunIds := ["run"]
  operationId := 1
  isCommand := false

end SlotWorkCoordinator

end KiCore.Team

import KiCore.Team.Coordinator.Enqueue

/-!
# Batches

Port of `next` and of the operations on the batch it claims: `observe_messages`, `mark_started`,
`retry_start`, `complete_batch_with_ack`, `fail_batch`, `cancel_batch`, `interrupt_batch`,
`terminalize_batch`, and the queries `active_batch_id`, `is_batch_cancelled` and `is_active_batch`.
-/

namespace KiCore.Team

open KiCore.Lib

namespace SlotWorkCoordinator

/-- The first lane, in claim order, that has work. -/
def selectedPriority (slot : SlotState) : Option WorkPriority :=
  WorkPriority.claimOrder.find? fun priority => slot.queue priority ≠ []

variable (state : CoordinatorState)

/-- The intents of a lane that carry a mailbox row, in lane order. -/
def fifoMessageIntentIds (queuedIds : List String) : List String :=
  queuedIds.filter fun intentId =>
    (state.intents[intentId]?).any fun intent => intent.mailboxMessageId.isSome

/-- A command or a lead intervention is batched alone, and ends the batch before it. -/
def isBatchBarrier (intentId : String) : Bool :=
  (state.intents[intentId]?).any fun intent =>
    intent.source = .userCommand ∨ intent.source = .leadIntervention

/-- The intents of the next batch, and whether it is a command, from the head of the lane. -/
def selectBatch (head : String) (rest : List String) : List String × Bool :=
  if isBatchBarrier state head then
    ([head], (state.intents[head]?).map (·.source) = some .userCommand)
  else ((head :: rest).takeWhile (¬ isBatchBarrier state ·), false)

variable (c : SlotWorkCoordinator)

def claimedBatch (state : CoordinatorState) (slotId : String)
    (priority : WorkPriority) (intentIds : List String) (isCommand : Bool) : WorkBatch where
  batchId := c.generateId state.ticks
  sessionGeneration := c.sessionGeneration
  slotId := slotId
  intentIds := intentIds
  mailboxMessageIds :=
    intentIds.filterMap fun intentId => (state.intents[intentId]?).bind (·.mailboxMessageId)
  observedMessageIds := []
  highestPriority := priority
  teamRunIds :=
    (intentIds.filterMap fun intentId => (state.intents[intentId]?).bind (·.teamRunId)).eraseDups
  operationId := u64SaturatingSucc state.nextOperationId
  isCommand := isCommand

variable (batch : WorkBatch)

def claimState : CoordinatorState :=
  let state :=
    { state.tick.setStates batch.intentIds fun _ => .starting batch.batchId batch.operationId with
      nextOperationId := batch.operationId }
  state.modifySlot batch.slotId fun slot =>
    { slot.removeQueuedAll batch.intentIds with
      active := some { batch := batch, turnId := none, startedAtMs := none } }

def next (state : CoordinatorState) (slotId : String) : Outcome ReconcileDecision :=
  match state.slots[slotId]? with
  | none => { result := .quiescent, state := state, calls := [] }
  | some slot =>
    if slot.active.isSome then { result := .waitingForCompletion, state := state, calls := [] }
    else if slot.runtimeConstraint ≠ .ready then
      { result := .blocked slot.runtimeConstraint, state := state, calls := [] }
    else if slot.paused then { result := .quiescent, state := state, calls := [] }
    else
      match selectedPriority slot with
      | none => { result := .quiescent, state := state, calls := [] }
      | some priority =>
        match fifoMessageIntentIds state (slot.queue priority) with
        | [] => { result := .settleSignals (slot.queue priority), state := state, calls := [] }
        | head :: rest =>
          let (intentIds, isCommand) := selectBatch state head rest
          let batch := claimedBatch c state slotId priority intentIds isCommand
          let after := claimState state batch
          { result := .claim batch
            state := after
            calls := publish (runSummariesLocked after batch.teamRunIds)
              (slotSnapshotLocked after slotId) }

variable (slotId : String)

def activeOf : Option ActiveBatch :=
  (state.slots[slotId]?).bind (·.active)

def activeBatchId : Option String :=
  (activeOf state slotId).map (·.batch.batchId)

/-- Add the observed messages that the batch does not know yet. -/
def observe (messageIds : List String) : WorkBatch :=
  messageIds.foldl
    (fun batch messageId =>
      if messageId ∈ batch.mailboxMessageIds ∨ messageId ∈ batch.observedMessageIds then batch
      else { batch with observedMessageIds := batch.observedMessageIds ++ [messageId] })
    batch

def modifyActive (f : ActiveBatch → ActiveBatch) : CoordinatorState :=
  state.modifySlot slotId fun slot => { slot with active := slot.active.map f }

def observeMessages (slotId expectedBatchId : String)
    (messageIds : List String) : Outcome ObserveMessagesResult :=
  match activeOf state slotId with
  | none => { result := { batchId := none, observedCount := 0 }, state := state, calls := [] }
  | some active =>
    if active.batch.batchId ≠ expectedBatchId then
      { result := { batchId := none, observedCount := 0 }, state := state, calls := [] }
    else
      let batch := observe active.batch messageIds
      { result :=
          { batchId := some batch.batchId
            observedCount :=
              batch.observedMessageIds.length - active.batch.observedMessageIds.length }
        state := modifyActive state slotId fun active => { active with batch := batch }
        calls := [] }

def isBatchCancelled : Bool :=
  batch.intentIds.all fun intentId =>
    (state.intents[intentId]?).any fun intent => intent.state.isCancelled

def isActiveBatch (state : CoordinatorState) (batch : WorkBatch) (turnId : Option String) : Bool :=
  isCurrentBatch c state batch ∧
    (activeOf state batch.slotId).any fun active => active.turnId = turnId

def markStarted (state : CoordinatorState) (batch : WorkBatch)
    (turnId : String) : Outcome StartCommitResult :=
  if ¬ isCurrentBatch c state batch then
    { result := if isBatchCancelled state batch then .cancelImmediately else .staleOwner
      state := state
      calls := [] }
  else
    let cancelImmediately := (state.slots[batch.slotId]?).any fun slot =>
      slot.paused ∨ slot.runtimeConstraint ≠ .ready
    let after :=
      modifyActive
        (state.tick.setStates batch.intentIds fun _ =>
          .running batch.batchId batch.operationId turnId)
        batch.slotId
        fun active => { active with turnId := some turnId, startedAtMs := some (c.nowMs state.ticks) }
    { result := if cancelImmediately then .cancelImmediately else .accepted
      state := after
      calls := publish (runSummariesLocked after batch.teamRunIds)
        (slotSnapshotLocked after batch.slotId) }

def retryStart (state : CoordinatorState) (batch : WorkBatch) : Outcome CommitResult :=
  if ¬ isCurrentBatch c state batch then { result := .staleOwner, state := state, calls := [] }
  else
    let after :=
      (state.setStates batch.intentIds fun _ => .queued).modifySlot batch.slotId fun slot =>
        batch.intentIds.reverse.foldl (fun slot intentId => slot.pushFront batch.highestPriority intentId)
          { slot with active := none }
    { result := .committed
      state := after
      calls := publish (runSummariesLocked after batch.teamRunIds)
        (slotSnapshotLocked after batch.slotId) }

/-- The message ids a completed batch acknowledges: those it claimed, then those it observed. -/
def ackMessageIds : List String :=
  batch.observedMessageIds.foldl
    (fun ids messageId => if messageId ∈ ids then ids else ids ++ [messageId])
    batch.mailboxMessageIds

/-- The intent ends with the batch of a slot: it belongs to it, or it is live and owns an observed
message. -/
def completesWith (batch : WorkBatch) (intent : WorkIntent) : Bool :=
  intent.intentId ∈ batch.intentIds ∨
    (intent.slotId = slotId ∧
      (intent.mailboxMessageId.any fun messageId => messageId ∈ batch.observedMessageIds) ∧
      ¬ intent.state.isTerminal)

def completedIntentIds (batch : WorkBatch) : List String :=
  batch.intentIds ++
    ((Table.values state.intents).filter (completesWith slotId batch)).map (·.intentId)

/-- The runs a completed batch reports to: its own, then those of the other intents it ends. -/
def completedRunIds (order : IterOrder WorkIntent) (state : CoordinatorState) (slotId : String)
    (batch : WorkBatch) : List String :=
  ((order.arrange (Table.values state.intents)).filter (completesWith slotId batch)).foldl
    (fun ids intent =>
      match intent.teamRunId with
      | some teamRunId => if teamRunId ∈ ids then ids else ids ++ [teamRunId]
      | none => ids)
    batch.teamRunIds

def completeState (batch : WorkBatch) : CoordinatorState :=
  { state.tick with
    intents := state.intents.map fun _ intent =>
      if completesWith slotId batch intent then { intent with state := .completed } else intent }.modifySlot
    slotId
    fun slot =>
      { slot.removeQueuedAll (completedIntentIds state slotId batch) with
        active := none
        deliveryFailureCounts :=
          (ackMessageIds batch).foldl (·.erase ·) slot.deliveryFailureCounts }

def completeBatchWithAck (state : CoordinatorState) (batch : WorkBatch) :
    Outcome BatchCompletionResult :=
  match activeOf state batch.slotId with
  | none =>
    { result := { commitResult := .staleOwner, ackMessageIds := [], teamRunIds := [] }
      state := state
      calls := [] }
  | some active =>
    if ¬ isCurrentBatch c state batch then
      { result := { commitResult := .staleOwner, ackMessageIds := [], teamRunIds := [] }
        state := state
        calls := [] }
    else
      -- The slot's own copy of the batch is read, which also knows the observed messages.
      let after := completeState state batch.slotId active.batch
      let teamRunIds :=
        completedRunIds (c.hashOrder state.ticks) state batch.slotId active.batch
      { result :=
          { commitResult := .committed
            ackMessageIds := ackMessageIds active.batch
            teamRunIds := teamRunIds }
        state := after
        calls := publish (runSummariesLocked after teamRunIds)
          (slotSnapshotLocked after batch.slotId) }

/-- Count one more failed delivery of each message, and report the exhausted ones. -/
def countFailures (counts : Table String Nat) (messageIds : List String) :
    Table String Nat × List String :=
  messageIds.foldl
    (fun (counts, exhausted) messageId =>
      let failureCount := u8SaturatingSucc ((counts[messageId]?).getD 0)
      (counts.insert messageId failureCount,
        if MAX_MESSAGE_DELIVERY_FAILURES ≤ failureCount then exhausted ++ [messageId] else exhausted))
    (counts, [])

/-- The slot of a batch that has ended, and the messages whose retries are used up. -/
def settleDelivery (slot : SlotState) (batch : WorkBatch) (delivery : DeliveryOutcome) :
    SlotState × List String :=
  match delivery with
  | .notFailed =>
    ({ slot with
        deliveryFailureCounts :=
          batch.mailboxMessageIds.foldl (·.erase ·) slot.deliveryFailureCounts }, [])
  | .failed =>
    let (counts, exhausted) := countFailures slot.deliveryFailureCounts batch.mailboxMessageIds
    ({ slot with
        deliveryFailureCounts := counts
        paused := slot.paused || !exhausted.isEmpty }, exhausted)

def terminalizeBatch (state : CoordinatorState) (batch : WorkBatch)
    (terminalState : WorkIntentState) (delivery : DeliveryOutcome) : Outcome BatchFailureResult :=
  if ¬ isCurrentBatch c state batch then
    { result := { commitResult := .staleOwner, exhaustedMessageIds := [] }, state := state, calls := [] }
  else
    let settle (slot : SlotState) := settleDelivery { slot with active := none } batch delivery
    let after :=
      (state.setStates batch.intentIds fun _ => terminalState).modifySlot batch.slotId
        fun slot => (settle slot).1
    { result :=
        { commitResult := .committed
          exhaustedMessageIds := ((state.slots[batch.slotId]?).map (settle · |>.2)).getD [] }
      state := after
      calls := publish (runSummariesLocked after batch.teamRunIds)
        (slotSnapshotLocked after batch.slotId) }

def failBatch (state : CoordinatorState) (batch : WorkBatch)
    (classification : String) : Outcome BatchFailureResult :=
  terminalizeBatch c state batch (.failed classification) .failed

def cancelBatch (state : CoordinatorState) (batch : WorkBatch)
    (classification : String) : Outcome CommitResult :=
  let outcome := terminalizeBatch c state batch (.cancelled classification) .notFailed
  { result := outcome.result.commitResult, state := outcome.state, calls := outcome.calls }

def interruptBatch (state : CoordinatorState) (batch : WorkBatch)
    (reason : Option String) (replacementMessageId : String) : Outcome InterruptBatchResult :=
  if ¬ isCurrentBatch c state batch then
    { result := { commitResult := .staleOwner, terminalMessageIds := [] }, state := state, calls := [] }
  else
    let after :=
      (state.setStates batch.intentIds fun _ => .cancelled "lead_interrupted").modifySlot batch.slotId
        fun slot => (settleDelivery { slot with active := none } batch .notFailed).1
    let after :=
      { after with
        interruptedBatches := after.interruptedBatches.insert batch.batchId
          { reason := reason, replacementMessageId := replacementMessageId } }
    { result := { commitResult := .committed, terminalMessageIds := batch.mailboxMessageIds }
      state := after
      calls := publish (runSummariesLocked after batch.teamRunIds)
        (slotSnapshotLocked after batch.slotId) }

def takeInterruptMetadata (batchId : String) : Outcome (Option BatchInterruptMetadata) where
  result := state.interruptedBatches[batchId]?
  state := { state with interruptedBatches := state.interruptedBatches.erase batchId }
  calls := []

end SlotWorkCoordinator

end KiCore.Team

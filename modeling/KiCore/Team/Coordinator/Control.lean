import KiCore.Team.Coordinator.Batch

/-!
# Control of slots and runs

Port of the operations that act on whole slots and runs: `discard_queued_except`, `cancel_run`,
`complete_signals`, `pause_slot`, `set_runtime_constraint`, the runtime restart gate, the MCP refresh
hand-off, `remove_slot` and `stop`.
-/

namespace KiCore.Team

open KiCore.Lib

namespace SlotWorkCoordinator

variable (state : CoordinatorState)

/-- The queued intents a discard policy ends: all but the retained message and the control lane. -/
def isDiscarded (retainedMessageId intentId : String) : Bool :=
  (state.intents[intentId]?).any fun intent =>
    intent.mailboxMessageId ≠ some retainedMessageId ∧ intent.source.priority ≠ .control

def discardQueuedExcept (slotId retainedMessageId : String) : Outcome (List String) :=
  let queuedIds := ((state.slots[slotId]?).map SlotState.queuedIds).getD []
  let discardIds := queuedIds.filter (isDiscarded state retainedMessageId)
  let terminalMessageIds :=
    discardIds.filterMap fun intentId => (state.intents[intentId]?).bind (·.mailboxMessageId)
  let after :=
    (state.setStates discardIds fun _ => .cancelled "lead_interrupt_discarded").modifySlot slotId
      (·.removeQueuedAll discardIds)
  { result := terminalMessageIds
    state := after
    calls := publish [] (slotSnapshotLocked after slotId) }

/-- The intent is a queued signal of the slot: no mailbox row stands behind it. -/
def isQueuedSignal (slotId intentId : String) : Bool :=
  (state.intents[intentId]?).any fun intent =>
    intent.slotId = slotId ∧ intent.mailboxMessageId.isNone ∧ intent.state = .queued

def completeSignals (slotId : String) (intentIds : List String) : Outcome CommitResult :=
  if ¬ intentIds.all (isQueuedSignal state slotId) then
    { result := .rejected, state := state, calls := [] }
  else
    let runIds := intentIds.filterMap fun intentId => (state.intents[intentId]?).bind (·.teamRunId)
    let after :=
      (state.setStates intentIds fun _ => .completed).modifySlot slotId (·.removeQueuedAll intentIds)
    { result := .committed
      state := after
      calls := publish (runSummariesLocked after runIds) none }

variable (teamRunId : String)

def batchTouchesRun (batch : WorkBatch) : Bool :=
  batch.intentIds.any fun intentId =>
    (state.intents[intentId]?).any fun intent => intent.teamRunId = some teamRunId

def activeSlotsOfRun : List (String × ActiveBatch) :=
  state.slots.toList.filterMap fun (slotId, slot) =>
    slot.active.bind fun active =>
      if batchTouchesRun state teamRunId active.batch then some (slotId, active) else none

/-- The state `cancel_run` gives to an intent of a batch it dissolves. -/
def runVerdict (intent : WorkIntent) : WorkIntentState :=
  if intent.teamRunId = some teamRunId then .cancelled "run_cancelled" else .queued

/-- Put the intents of a dissolved batch that belong to other runs back in front of their lanes. -/
def requeueRetained (intentIds : List String) (slot : SlotState) : SlotState :=
  (intentIds.reverse.filterMap fun intentId =>
      (state.intents[intentId]?).bind fun intent =>
        if intent.teamRunId = some teamRunId then none else some (intent.priority, intentId)).foldl
    (fun slot (priority, intentId) => slot.pushFront priority intentId)
    slot

def dissolveBatch (state : CoordinatorState) (slotId : String)
    (active : ActiveBatch) : CoordinatorState :=
  (state.setStates active.batch.intentIds (runVerdict teamRunId)).modifySlot slotId fun slot =>
    requeueRetained state teamRunId active.batch.intentIds { slot with active := none }

def messagesOfRun (intentIds : List String) : List String :=
  intentIds.filterMap fun intentId =>
    (state.intents[intentId]?).bind fun intent =>
      if intent.teamRunId = some teamRunId then intent.mailboxMessageId else none

variable (order : IterOrder WorkIntent)

def queuedIdsOfRun (state : CoordinatorState) (teamRunId : String) : List String :=
  ((order.arrange (Table.values state.intents)).filter fun intent =>
    intent.teamRunId = some teamRunId ∧ intent.state = .queued).map (·.intentId)

def cancelQueued (intentId : String) : CoordinatorState :=
  match state.intents[intentId]? with
  | none => state
  | some intent =>
    (state.setStates [intentId] fun _ => .cancelled "run_cancelled").modifySlot intent.slotId
      (·.removeQueued intentId)

def dropLeases (teamRunId : String) : CoordinatorState :=
  { state with
    enqueueLeases := state.enqueueLeases.filter fun _ record =>
      record.lease.teamRunId ≠ some teamRunId }

def cancelRun (c : SlotWorkCoordinator) (state : CoordinatorState) (teamRunId : String) :
    Outcome CancelRunWorkResult :=
  let activeSlots := activeSlotsOfRun state teamRunId
  let dissolved :=
    activeSlots.foldl (fun state (slotId, active) => dissolveBatch teamRunId state slotId active) state
  let queuedIds := queuedIdsOfRun (c.hashOrder state.ticks) dissolved teamRunId
  let after := dropLeases (queuedIds.foldl cancelQueued dissolved).tick teamRunId
  let summary := runSummaryLocked after teamRunId
  { result :=
      { cancelTargets := activeSlots.map fun (_, active) =>
          { batch := active.batch, turnId := active.turnId }
        terminalMessageIds :=
          (activeSlots.flatMap fun (_, active) =>
            messagesOfRun state teamRunId active.batch.intentIds) ++
            messagesOfRun dissolved teamRunId queuedIds
        summary := summary }
    state := after
    calls := [.applyWorkSummary summary] }

def cancelTargetOf (slot : SlotState) : Option BatchCancelTarget :=
  slot.active.map fun active => { batch := active.batch, turnId := active.turnId }

variable (slotId : String)

def pauseSlot : Outcome PauseWorkResult :=
  let slot := { state.slotOrNew slotId .teammate with paused := true }
  let after := state.putSlot slotId slot
  let snapshot := slotSnapshotLocked after slotId
  { result := { cancelTarget := cancelTargetOf slot, slot := snapshot }
    state := after
    calls := publish [] snapshot }

def endsWork : RuntimeConstraint → Option String
  | .failed _ classification => some classification
  | .sessionStopped => some "session_stopped"
  | _ => none

def liveIntentsOfSlot (state : CoordinatorState) (slotId : String) : List WorkIntent :=
  (order.arrange (Table.values state.intents)).filter fun intent =>
    intent.slotId = slotId ∧ ¬ intent.state.isTerminal

/-- Work without a run survives a failed runtime, and goes back to its lane. -/
def survives (constraint : RuntimeConstraint) (intent : WorkIntent) : Bool :=
  intent.teamRunId.isNone ∧ constraint ≠ .sessionStopped

/-- The state a constraint that ends work gives to a live intent of its slot. -/
def constraintVerdict (constraint : RuntimeConstraint) (classification : String)
    (intent : WorkIntent) : WorkIntentState :=
  if survives constraint intent then .queued
  else if constraint = .sessionStopped then .cancelled classification
  else .failed classification

def endSlotWork (state : CoordinatorState) (slotId : String)
    (constraint : RuntimeConstraint) (classification : String) : CoordinatorState :=
  let live := liveIntentsOfSlot order state slotId
  (state.tick.setStates (live.map (·.intentId)) (constraintVerdict constraint classification)).modifySlot
    slotId
    fun slot =>
      (live.filter (survives constraint)).foldl
        (fun slot intent => slot.pushBack intent.priority intent.intentId)
        slot.clearWork

def setRuntimeConstraint (c : SlotWorkCoordinator) (state : CoordinatorState) (slotId : String)
    (constraint : RuntimeConstraint) : Outcome RuntimeConstraintUpdate :=
  let slot := { state.slotOrNew slotId .teammate with runtimeConstraint := constraint }
  let state := state.putSlot slotId slot
  let order := c.hashOrder state.ticks
  let ended :=
    match endsWork constraint with
    | some _ => (liveIntentsOfSlot order state slotId).filter fun intent => ¬ survives constraint intent
    | none => []
  let after :=
    match endsWork constraint with
    | some classification => endSlotWork order state slotId constraint classification
    | none => state
  let summaries := runSummariesLocked after (ended.filterMap (·.teamRunId))
  let snapshot := slotSnapshotLocked after slotId
  { result :=
      { slot := snapshot
        terminalMessageIds := ended.filterMap (·.mailboxMessageId)
        affectedRunSummaries := summaries }
    state := after
    calls := publish summaries snapshot }

def beginRuntimeRestartInner (allowQueued : Bool) :
    Outcome (Except RuntimeRestartRejection RuntimeRestartGate) :=
  let slot := state.slotOrNew slotId .teammate
  let state := state.putSlot slotId slot
  if slot.active.isSome ∨ (¬ allowQueued ∧ slot.queuedIds ≠ []) then
    { result := .error .busy, state := state, calls := [] }
  else
    match slot.runtimeConstraint with
    | .removing _ => { result := .error .removing, state := state, calls := [] }
    | .sessionStopped => { result := .error .sessionStopped, state := state, calls := [] }
    | .ready | .starting _ | .failed _ _ =>
      let operationId := u64SaturatingSucc state.nextOperationId
      let after :=
        { state with nextOperationId := operationId }.putSlot slotId
          { slot with runtimeConstraint := .starting operationId }
      { result := .ok { operationId := operationId, previousConstraint := slot.runtimeConstraint }
        state := after
        calls := publish [] (slotSnapshotLocked after slotId) }

def beginRuntimeRestart : Outcome (Except RuntimeRestartRejection RuntimeRestartGate) :=
  beginRuntimeRestartInner state slotId false

def beginMcpRuntimeRestart : Outcome (Except RuntimeRestartRejection RuntimeRestartGate) :=
  beginRuntimeRestartInner state slotId true

def abortRuntimeRestart (gate : RuntimeRestartGate) : Outcome Unit :=
  match state.slots[slotId]? with
  | none => { result := (), state := state, calls := [] }
  | some slot =>
    if slot.runtimeConstraint ≠ .starting gate.operationId then
      { result := (), state := state, calls := [] }
    else
      let after := state.putSlot slotId { slot with runtimeConstraint := gate.previousConstraint }
      { result := (), state := after, calls := publish [] (slotSnapshotLocked after slotId) }

def requestMcpRefresh (slotId fingerprint : String) : Outcome McpRefreshDisposition :=
  let slot := state.slotOrNew slotId .teammate
  let state := state.putSlot slotId slot
  if slot.appliedMcpFingerprint = some fingerprint ∨ slot.pendingMcpFingerprint = some fingerprint then
    { result := .unchanged, state := state, calls := [] }
  else if slot.active.isSome ∨ slot.queuedIds ≠ [] ∨ slot.runtimeConstraint ≠ .ready then
    { result := .deferred
      state := state.putSlot slotId
        { slot with pendingMcpFingerprint := some fingerprint, mcpRefreshInProgress := false }
      calls := [] }
  else { result := .restartNow, state := state, calls := [] }

def deferMcpRefresh (slotId fingerprint : String) : Outcome Unit :=
  let slot := state.slotOrNew slotId .teammate
  let slot :=
    if slot.appliedMcpFingerprint ≠ some fingerprint then
      { slot with pendingMcpFingerprint := some fingerprint, mcpRefreshInProgress := false }
    else slot
  { result := (), state := state.putSlot slotId slot, calls := [] }

def claimPendingMcpRefresh : Outcome (Option String) :=
  match state.slots[slotId]? with
  | none => { result := none, state := state, calls := [] }
  | some slot =>
    if slot.active.isSome ∨ slot.mcpRefreshInProgress then
      { result := none, state := state, calls := [] }
    else
      match slot.pendingMcpFingerprint with
      | none => { result := none, state := state, calls := [] }
      | some fingerprint =>
        { result := some fingerprint
          state := state.putSlot slotId { slot with mcpRefreshInProgress := true }
          calls := [] }

def completeMcpRefresh (slotId fingerprint : String) : Outcome Unit where
  result := ()
  state := state.modifySlot slotId fun slot =>
    { slot with
      appliedMcpFingerprint := some fingerprint
      pendingMcpFingerprint :=
        if slot.pendingMcpFingerprint = some fingerprint then none else slot.pendingMcpFingerprint
      mcpRefreshInProgress := false }
  calls := []

def releaseMcpRefresh (slotId fingerprint : String) : Outcome Unit where
  result := ()
  state := state.modifySlot slotId fun slot =>
    if slot.pendingMcpFingerprint = some fingerprint then { slot with mcpRefreshInProgress := false }
    else slot
  calls := []

def settleMcpRefreshClaim (slotId fingerprint : String) : Outcome Unit where
  result := ()
  state := state.modifySlot slotId fun slot =>
    if slot.pendingMcpFingerprint = some fingerprint then
      { slot with pendingMcpFingerprint := none, mcpRefreshInProgress := false }
    else slot
  calls := []

/-- The ids `remove_slot` ends: the batch, the lanes, then what else is live, by age. -/
def removedIntentIds : List String :=
  let ordered :=
    ((state.slots[slotId]?).map fun slot =>
      (slot.active.toList.flatMap (·.batch.intentIds)) ++ slot.queuedIds).getD []
  let remaining :=
    (Table.values state.intents).filter fun intent =>
      intent.slotId = slotId ∧ ¬ intent.state.isTerminal ∧ intent.intentId ∉ ordered
  ordered ++
    (remaining.insertionSort fun x y =>
      x.createdAtMs < y.createdAtMs ∨ (x.createdAtMs = y.createdAtMs ∧ x.intentId ≤ y.intentId)).map
      (·.intentId)

def removeSlot : Outcome RemoveWorkResult :=
  let cancelTarget := (state.slots[slotId]?).bind cancelTargetOf
  let intentIds := removedIntentIds state slotId
  let intents := intentIds.filterMap (state.intents[·]?)
  let after :=
    (state.setStates intentIds fun _ => .cancelled "slot_removed").modifySlot slotId fun slot =>
      { slot.clearWork with removed := true }
  let summaries := runSummariesLocked after (intents.filterMap (·.teamRunId))
  { result :=
      { cancelTarget := cancelTarget
        terminalMessageIds := intents.filterMap (·.mailboxMessageId)
        affectedRunSummaries := summaries }
    state := after
    calls := publish summaries none }

def stop : Outcome (List RunWorkSummary) :=
  let runIds := allRunIds state
  let after :=
    { state with
      intents := state.intents.map fun _ intent =>
        if intent.state.isTerminal then intent
        else { intent with state := .cancelled "session_stopped" }
      slots := state.slots.map fun _ slot =>
        { slot.clearWork with runtimeConstraint := .sessionStopped }
      enqueueLeases := ∅ }
  let summaries := runIds.map (runSummaryLocked after)
  { result := summaries, state := after, calls := publish summaries none }

end SlotWorkCoordinator

end KiCore.Team

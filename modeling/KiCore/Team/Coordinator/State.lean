import KiCore.Team.Model

/-!
# The state of the work coordinator

Port of the types at the top of `work_coordinator/coordinator.rs` and of `work_coordinator/snapshot.rs`:
slots with their four lanes and the batch they work on, the coordinator's state, and the snapshots
and run summaries computed from it under the lock.

`SlotWorkCoordinator` holds what the coordinator reads from outside its state: the ids `generate_id`
returns (never the same twice), the clock, and the iteration order of the hash map of intents. The
`n`-th reading is the one at index `n`; `CoordinatorState.ticks` counts them.
-/

namespace KiCore.Team

open KiCore.Lib

/-- The machine integer arithmetic of an operation id (`u64`). -/
def u64SaturatingSucc (n : Nat) : Nat := min (n + 1) (2 ^ 64 - 1)

/-- The machine integer arithmetic of a failure count (`u8`). -/
def u8SaturatingSucc (n : Nat) : Nat := min (n + 1) (2 ^ 8 - 1)

structure EnqueueLeaseRecord where
  lease : EnqueueLease
  binding : RunBinding

/-- The batch a slot works on, with its turn once that has started. -/
structure ActiveBatch where
  batch : WorkBatch
  turnId : Option String
  startedAtMs : Option Int

structure SlotState where
  role : TeamRunTargetRole
  foreground : List String
  control : List String
  directed : List String
  background : List String
  active : Option ActiveBatch
  paused : Bool
  runtimeConstraint : RuntimeConstraint
  knownUnreadMessageIds : Std.TreeSet String
  deliveryFailureCounts : Table String Nat
  appliedMcpFingerprint : Option String
  pendingMcpFingerprint : Option String
  mcpRefreshInProgress : Bool
  removed : Bool

namespace SlotState

/-- A slot the coordinator has not seen before. -/
def new (role : TeamRunTargetRole) : SlotState where
  role := role
  foreground := []
  control := []
  directed := []
  background := []
  active := none
  paused := false
  runtimeConstraint := .starting 0
  knownUnreadMessageIds := ∅
  deliveryFailureCounts := ∅
  appliedMcpFingerprint := none
  pendingMcpFingerprint := none
  mcpRefreshInProgress := false
  removed := false

variable (slot : SlotState)

def queue : WorkPriority → List String
  | .foreground => slot.foreground
  | .control => slot.control
  | .directed => slot.directed
  | .background => slot.background

/-- Replace the lane of a priority (the source's `queue_mut`). -/
def setQueue (priority : WorkPriority) (ids : List String) : SlotState :=
  match priority with
  | .foreground => { slot with foreground := ids }
  | .control => { slot with control := ids }
  | .directed => { slot with directed := ids }
  | .background => { slot with background := ids }

def pushFront (priority : WorkPriority) (intentId : String) : SlotState :=
  slot.setQueue priority (intentId :: slot.queue priority)

def pushBack (priority : WorkPriority) (intentId : String) : SlotState :=
  slot.setQueue priority (slot.queue priority ++ [intentId])

def queuedIds : List String :=
  slot.foreground ++ slot.control ++ slot.directed ++ slot.background

def removeQueued (intentId : String) : SlotState :=
  { slot with
    foreground := slot.foreground.filter (· ≠ intentId)
    control := slot.control.filter (· ≠ intentId)
    directed := slot.directed.filter (· ≠ intentId)
    background := slot.background.filter (· ≠ intentId) }

def removeQueuedAll (intentIds : List String) : SlotState :=
  intentIds.foldl removeQueued slot

/-- Empty the four lanes and drop the batch. -/
def clearWork : SlotState :=
  { slot with foreground := [], directed := [], control := [], background := [], active := none }

end SlotState

structure CoordinatorState where
  slots : Table String SlotState
  intents : Table String WorkIntent
  enqueueLeases : Table String EnqueueLeaseRecord
  interruptedBatches : Table String BatchInterruptMetadata
  nextOperationId : Nat
  /-- How many ids, clock readings and hash map iterations have been drawn so far. -/
  ticks : Nat

namespace CoordinatorState

/-- `CoordinatorState::default()`. -/
def default : CoordinatorState where
  slots := ∅
  intents := ∅
  enqueueLeases := ∅
  interruptedBatches := ∅
  nextOperationId := 0
  ticks := 0

variable (state : CoordinatorState)

/-- The slot, or the one `or_insert_with` would create. -/
def slotOrNew (slotId : String) (role : TeamRunTargetRole) : SlotState :=
  (state.slots[slotId]?).getD (.new role)

def putSlot (slotId : String) (slot : SlotState) : CoordinatorState :=
  { state with slots := state.slots.insert slotId slot }

def modifySlot (slotId : String) (f : SlotState → SlotState) : CoordinatorState :=
  { state with slots := state.slots.modify slotId f }

/-- Give the intents of a list a new state, which may depend on the intent. -/
def setStates (intentIds : List String) (f : WorkIntent → WorkIntentState) : CoordinatorState :=
  { state with
    intents := Table.modifyAll state.intents intentIds fun intent => { intent with state := f intent } }

def tick : CoordinatorState :=
  { state with ticks := state.ticks + 1 }

end CoordinatorState

structure SlotWorkCoordinator where
  sessionGeneration : String
  generateId : Nat → String
  generateId_injective : Function.Injective generateId
  nowMs : Nat → Int
  hashOrder : Nat → IterOrder WorkIntent

/-- What an operation returns, the state it leaves, and the calls it makes after unlocking. -/
structure Outcome (α : Type) where
  result : α
  state : CoordinatorState
  calls : List PortCall

namespace SlotWorkCoordinator

variable (state : CoordinatorState)

def associated (teamRunId : String) : List WorkIntent :=
  (Table.values state.intents).filter fun intent => intent.teamRunId = some teamRunId

def associatedLeases (teamRunId : String) : List EnqueueLeaseRecord :=
  (Table.values state.enqueueLeases).filter fun record => record.lease.teamRunId = some teamRunId

def slotSnapshotLocked (slotId : String) : Option SlotWorkSnapshot :=
  (state.slots[slotId]?).map fun slot =>
    { slotId := slotId
      role := slot.role
      state :=
        if slot.paused then .paused
        else if (slot.active.bind (·.turnId)).isSome then .running
        else if slot.active.isSome then .starting
        else if slot.runtimeConstraint ≠ .ready then .blocked
        else if slot.queuedIds ≠ [] then .queued
        else .idle
      queuedForegroundCount := slot.foreground.length
      queuedBackgroundCount := slot.directed.length + slot.control.length + slot.background.length
      activeBatch := slot.active.map (·.batch)
      activeTurnId := slot.active.bind (·.turnId)
      activeTurnStartedAtMs := slot.active.bind (·.startedAtMs)
      runtimeConstraint := slot.runtimeConstraint
      teamRunId :=
        (slot.active.bind fun active => active.batch.teamRunIds.head?).or
          (slot.queuedIds.findSome? fun intentId =>
            (state.intents[intentId]?).bind (·.teamRunId)) }

def runSummaryLocked (teamRunId : String) : RunWorkSummary where
  teamRunId := teamRunId
  queuedIntentCount := ((associated state teamRunId).filter fun intent => intent.state = .queued).length
  startingBatchCount :=
    ((associated state teamRunId).filterMap fun intent => intent.state.startingBatch).eraseDups.length
  runningBatchCount :=
    ((associated state teamRunId).filterMap fun intent => intent.state.runningBatch).eraseDups.length
  activeEnqueueLeaseCount := (associatedLeases state teamRunId).length
  pausedIntentCount :=
    ((associated state teamRunId).filter fun intent =>
      intent.state = .queued ∧ ((state.slots[intent.slotId]?).map (·.paused)) = some true).length
  failedIntentCount := ((associated state teamRunId).filter fun intent => intent.state.isFailed).length
  slots :=
    (Std.TreeSet.ofList
      ((associated state teamRunId).map (·.slotId) ++
        (associatedLeases state teamRunId).map (·.lease.slotId))).toList.filterMap
      (slotSnapshotLocked state)

/-- The summaries of the runs of a list, each once and in order. -/
def runSummariesLocked (runIds : List String) : List RunWorkSummary :=
  (Std.TreeSet.ofList runIds).toList.map (runSummaryLocked state)

def allRunIds : List String :=
  (Std.TreeSet.ofList
    ((Table.values state.intents).filterMap (·.teamRunId) ++
      (Table.values state.enqueueLeases).filterMap (·.lease.teamRunId))).toList

/-- The calls that publish run summaries, then a slot snapshot. -/
def publish (summaries : List RunWorkSummary) (snapshot : Option SlotWorkSnapshot) : List PortCall :=
  summaries.map .applyWorkSummary ++ snapshot.toList.map .publishSlotWork

def snapshot (c : SlotWorkCoordinator) (state : CoordinatorState) : CoordinatorSnapshot where
  sessionGeneration := c.sessionGeneration
  slots := state.slots.keys.filterMap (slotSnapshotLocked state)
  activeRunSummary :=
    ((allRunIds state).map (runSummaryLocked state)).find? fun summary =>
      summary.queuedIntentCount > 0 ∨ summary.startingBatchCount > 0 ∨ summary.runningBatchCount > 0 ∨
        summary.activeEnqueueLeaseCount > 0 ∨ summary.pausedIntentCount > 0

def validateEnqueueConstraint (slotId : String) (slot : SlotState) : Except TeamError Unit :=
  if slot.removed then
    .error (.invalidRequest s!"Team slot was removed: {slotId}")
  else
    match slot.runtimeConstraint with
    | .ready | .starting _ => .ok ()
    | .failed _ classification =>
      .error (.invalidRequest s!"Team slot runtime failed ({classification}): {slotId}")
    | .removing _ => .error (.invalidRequest s!"Team slot is being removed: {slotId}")
    | .sessionStopped => .error (.invalidRequest s!"Team session stopped for slot: {slotId}")

def isCurrentBatch (c : SlotWorkCoordinator) (state : CoordinatorState) (batch : WorkBatch) : Bool :=
  batch.sessionGeneration = c.sessionGeneration ∧
    (((state.slots[batch.slotId]?).bind (·.active)).any fun active =>
      active.batch.batchId = batch.batchId ∧ active.batch.operationId = batch.operationId ∧
        active.batch.sessionGeneration = batch.sessionGeneration)

end SlotWorkCoordinator

end KiCore.Team

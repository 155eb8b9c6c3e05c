import KiCore.Team.Coordinator.State

/-!
# Work enters the coordinator

Port of `acquire_enqueue`, `commit_enqueue`, `abort_enqueue`, `reconcile_mailbox_snapshot` and
`mailbox_reconcile_candidates`. An enqueue is two steps: a lease is acquired (and bound to a run,
under the lock), and later committed with the mailbox row its owner has written, or aborted. The
mailbox reconcile creates a recovery intent for each unread row that no live intent owns.
-/

namespace KiCore.Team

open KiCore.Lib

namespace SlotWorkCoordinator

variable (state : CoordinatorState)

def inheritedRun (callerSlotId : String) : Option String :=
  (((state.slots[callerSlotId]?).bind (·.active)).bind fun active => active.batch.teamRunIds.head?)

/-- The binding of an enqueue: inherited, absent, or asked of the port. -/
def resolveBinding {ρ : Type} (port : RunCausalityPort ρ) (r : ρ) (state : CoordinatorState)
    (request : EnqueueRequest) : RunBinding × ρ :=
  match request.binding with
  | .background => ({ teamRunId := none, createdNewRun := false, userIntervention := false }, r)
  | .inheritRunningBatch callerSlotId =>
    match inheritedRun state callerSlotId with
    | some teamRunId =>
      ({ teamRunId := some teamRunId, createdNewRun := false, userIntervention := false }, r)
    | none => port.bindSystemEnqueue r request
  | .userVisible | .activeRunOrBackground => port.bindEnqueue r request
  | .systemInitiated inheritFrom =>
    match inheritFrom.bind (inheritedRun state) with
    | some teamRunId =>
      ({ teamRunId := some teamRunId, createdNewRun := false, userIntervention := false }, r)
    | none => port.bindSystemEnqueue r request

variable (c : SlotWorkCoordinator)

def grantLease (state : CoordinatorState) (request : EnqueueRequest)
    (binding : RunBinding) : EnqueueLease × CoordinatorState :=
  let lease : EnqueueLease :=
    { leaseId := c.generateId state.ticks
      sessionGeneration := c.sessionGeneration
      slotId := request.slotId
      role := request.role
      source := request.source
      teamRunId := binding.teamRunId }
  (lease, { state.tick with
    enqueueLeases := state.enqueueLeases.insert lease.leaseId { lease := lease, binding := binding } })

def acquireEnqueue {ρ : Type} (c : SlotWorkCoordinator) (port : RunCausalityPort ρ) (r : ρ)
    (state : CoordinatorState) (request : EnqueueRequest) :
    Except TeamError EnqueueLease × CoordinatorState × ρ :=
  let slot := { state.slotOrNew request.slotId request.role with role := request.role }
  let state := state.putSlot request.slotId slot
  match validateEnqueueConstraint request.slotId slot with
  | .error error => (.error error, state, r)
  | .ok _ =>
    let (binding, r) := resolveBinding port r state request
    let (lease, state) := grantLease c state request binding
    (.ok lease, state, r)

variable (slot : SlotState)

/-- Whether the slot can start the work now. The last case is unreachable after validation. -/
def enqueueDisposition : EnqueueDisposition :=
  match slot.runtimeConstraint with
  | .starting _ => .blockedRuntimeStarting
  | .ready => if slot.active.isNone ∧ slot.queuedIds = [] then .accepted else .queued
  | _ => .queued

/-- The checks of `commit_enqueue`, up to the disposition. -/
def checkCommit (state : CoordinatorState) (lease : EnqueueLease)
    (mailboxMessageId : Option String) : Except TeamError SlotState :=
  match state.enqueueLeases[lease.leaseId]? with
  | none => .error (.invalidRequest "enqueue lease is no longer active")
  | some record =>
    if record.lease ≠ lease ∨ lease.sessionGeneration ≠ c.sessionGeneration then
      .error (.invalidRequest "stale enqueue lease owner")
    else if lease.source.requiresMailboxMessage ∧ mailboxMessageId.isNone then
      .error (.invalidRequest s!"{lease.source.debug} requires a mailbox message")
    else
      match state.slots[lease.slotId]? with
      | none => .error (.agentNotFound lease.slotId)
      | some slot =>
        match validateEnqueueConstraint lease.slotId slot with
        | .error error => .error error
        | .ok _ => .ok slot

def committedIntent (state : CoordinatorState) (lease : EnqueueLease)
    (mailboxMessageId : Option String) : WorkIntent where
  intentId := c.generateId state.ticks
  sessionGeneration := c.sessionGeneration
  slotId := lease.slotId
  role := lease.role
  source := lease.source
  priority := lease.source.priority
  mailboxMessageId := mailboxMessageId
  teamRunId := lease.teamRunId
  createdAtMs := c.nowMs state.ticks
  state := .queued

/-- The slot after a commit: resumed by user work, and the intent pushed to its lane. -/
def commitSlot (lease : EnqueueLease) (intent : WorkIntent) : SlotState :=
  let slot := if lease.source.resumesPausedSlot then { slot with paused := false } else slot
  let slot :=
    match intent.mailboxMessageId with
    | some messageId =>
      { slot with knownUnreadMessageIds := slot.knownUnreadMessageIds.insert messageId }
    | none => slot
  if lease.source = .leadIntervention then slot.pushFront intent.priority intent.intentId
  else slot.pushBack intent.priority intent.intentId

def commitState (state : CoordinatorState) (lease : EnqueueLease)
    (mailboxMessageId : Option String) : CoordinatorState :=
  let intent := committedIntent c state lease mailboxMessageId
  { state.tick.modifySlot lease.slotId (commitSlot · lease intent) with
    enqueueLeases := state.enqueueLeases.erase lease.leaseId
    intents := state.intents.insert intent.intentId intent }

def commitEnqueue (state : CoordinatorState) (lease : EnqueueLease)
    (mailboxMessageId : Option String) : Outcome (Except TeamError EnqueueCommit) :=
  match checkCommit c state lease mailboxMessageId with
  | .error error => { result := .error error, state := state, calls := [] }
  | .ok slot =>
    let after := commitState c state lease mailboxMessageId
    let slotSnapshot := slotSnapshotLocked after lease.slotId
    { result := .ok
        { intentId := c.generateId state.ticks
          teamRunId := lease.teamRunId
          disposition := enqueueDisposition slot
          slot := slotSnapshot }
      state := after
      calls := publish (runSummariesLocked after lease.teamRunId.toList) slotSnapshot }

def runIsEmpty (teamRunId : String) : Bool :=
  (associated state teamRunId).isEmpty ∧ (associatedLeases state teamRunId).isEmpty

def abortEnqueue (state : CoordinatorState) (lease : EnqueueLease) : Outcome CommitResult :=
  match state.enqueueLeases[lease.leaseId]? with
  | none => { result := .staleOwner, state := state, calls := [] }
  | some record =>
    if record.lease ≠ lease ∨ lease.sessionGeneration ≠ c.sessionGeneration then
      { result := .staleOwner, state := state, calls := [] }
    else
      let after := { state with enqueueLeases := state.enqueueLeases.erase lease.leaseId }
      { result := .committed
        state := after
        calls :=
          (if lease.teamRunId.any (runIsEmpty after) then [.abortBinding record.binding] else []) ++
            publish (runSummariesLocked after lease.teamRunId.toList)
              (slotSnapshotLocked after lease.slotId) }

/-- The row of a queued intent is gone, and the intent was queued before the rows were read. -/
def isStale (unread staleCandidates : List String) (intentId : String) : Bool :=
  (state.intents[intentId]?).any fun intent =>
    intent.mailboxMessageId.any fun messageId => messageId ∉ unread ∧ intentId ∈ staleCandidates

/-- Some live intent of the slot owns the message. -/
def alreadyOwned (slotId messageId : String) : Bool :=
  (Table.values state.intents).any fun intent =>
    intent.slotId = slotId ∧ intent.mailboxMessageId = some messageId ∧ ¬ intent.state.isTerminal

def recoveryIntent (state : CoordinatorState) (slotId : String)
    (role : TeamRunTargetRole) (messageId : String) : WorkIntent where
  intentId := c.generateId state.ticks
  sessionGeneration := c.sessionGeneration
  slotId := slotId
  role := role
  source := .recoveryDrain
  priority := .background
  mailboxMessageId := some messageId
  teamRunId := none
  createdAtMs := c.nowMs state.ticks
  state := .queued

def recoverMessage (slotId : String) (role : TeamRunTargetRole)
    (acc : CoordinatorState × List String) (messageId : String) : CoordinatorState × List String :=
  let (state, created) := acc
  if alreadyOwned state slotId messageId then acc
  else
    let intent := recoveryIntent c state slotId role messageId
    ({ state.tick.modifySlot slotId (·.pushBack .background intent.intentId) with
        intents := state.intents.insert intent.intentId intent },
      created ++ [intent.intentId])

def reconcileSlot (role : TeamRunTargetRole) (unread : List String) : SlotState :=
  { slot with
    role := role
    knownUnreadMessageIds := .ofList unread
    deliveryFailureCounts := slot.deliveryFailureCounts.filter fun messageId _ => messageId ∈ unread }

def reconcileMailboxSnapshot (state : CoordinatorState) (slotId : String)
    (unreadMessageIds : List String) (role : TeamRunTargetRole) (staleCandidates : List String) :
    Outcome ReconcileProjection :=
  let slot := reconcileSlot (state.slotOrNew slotId role) role unreadMessageIds
  let state := state.putSlot slotId slot
  let candidates := slot.queuedIds
  let cleared := candidates.filter (isStale state unreadMessageIds staleCandidates)
  let retained := candidates.filter fun intentId =>
    (state.intents[intentId]?).isSome ∧ ¬ isStale state unreadMessageIds staleCandidates intentId
  let state := (state.setStates cleared fun _ => .completed).modifySlot slotId (·.removeQueuedAll cleared)
  let (state, created) := unreadMessageIds.foldl (recoverMessage c slotId role) (state, [])
  { result :=
      { createdRecoveryIntentIds := created
        retainedIntentIds := retained
        clearedStaleIntentIds := cleared }
    state := state
    calls := [] }

end SlotWorkCoordinator

end KiCore.Team

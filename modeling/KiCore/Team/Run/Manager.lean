import KiCore.Team.Model

/-!
# The team run manager

Port of `team_run/manager.rs`. The manager keeps the record of at most one run, binds enqueues to it,
and computes its status from the summaries the coordinator applies. Every change is broadcast.

`TeamRunManager` holds what the manager reads from outside its state, the ids `generate_id` returns
and the clock; an operation that reads the clock more than once is given one reading.
-/

namespace KiCore.Team

inductive TeamRunSource where
  | userMessage
  | systemLifecycle
  deriving DecidableEq

inductive TeamRunStatus where
  | accepted
  | running
  | cancelling
  | completed
  | cancelled
  | failed
  deriving DecidableEq

inductive TeamRunEvent where
  | accepted
  | started
  | updated
  | completed
  | cancelled
  | failed
  deriving DecidableEq

inductive TeamSlotWorkState where
  | idle
  | queued
  | starting
  | running
  | paused
  | blocked
  deriving DecidableEq

inductive TeamSlotBlockedReason where
  | runtimeStarting
  | runtimeFailed
  | removing
  | sessionStopped
  deriving DecidableEq

structure TeamSlotWorkPayload where
  slotId : String
  role : TeamRunTargetRole
  state : TeamSlotWorkState
  queuedForegroundCount : Nat
  queuedBackgroundCount : Nat
  activeTurnId : Option String
  activeTurnStartedAtMs : Option Int
  activeTurnElapsedMs : Option Nat
  activeTurnSlow : Option Bool
  activeTurnSlowThresholdMs : Option Nat
  blockedReason : Option TeamSlotBlockedReason
  teamRunId : Option String

structure TeamRunPayload where
  teamId : String
  teamRunId : String
  source : TeamRunSource
  hasUserIntervention : Bool
  targetSlotId : String
  targetRole : TeamRunTargetRole
  status : TeamRunStatus
  queuedIntentCount : Nat
  startingBatchCount : Nat
  runningBatchCount : Nat
  activeEnqueueLeaseCount : Nat
  slotWork : List TeamSlotWorkPayload

structure TeamRunRecord where
  teamRunId : String
  source : TeamRunSource
  hasUserIntervention : Bool
  targetSlotId : String
  targetRole : TeamRunTargetRole
  status : TeamRunStatus
  startedAtMs : Option Int
  completedAtMs : Option Int
  cancelReason : Option String
  summary : Option RunWorkSummary
  acceptedEmitted : Bool

/-- What the manager hands to its emitter. -/
inductive Broadcast where
  | teamRun (event : TeamRunEvent) (payload : TeamRunPayload)
  | slotWork (teamId : String) (payload : TeamSlotWorkPayload)

/-- The record of the run, and what has been broadcast so far. -/
structure ManagerState where
  run : Option TeamRunRecord
  published : List Broadcast
  /-- How many ids and clock readings have been drawn so far. -/
  ticks : Nat

structure TeamRunManager where
  teamId : String
  generateId : Nat → String
  generateId_injective : Function.Injective generateId
  nowMs : Nat → Int

def ACTIVE_TURN_SLOW_THRESHOLD_MS : Nat := 10 * 60 * 1000

def TeamRunStatus.isActive : TeamRunStatus → Bool
  | accepted | running | cancelling => true
  | completed | cancelled | failed => false

def TeamRunRecord.isActive (run : TeamRunRecord) : Bool :=
  run.status.isActive

namespace ManagerState

/-- `TeamRunManager::new`. -/
def new : ManagerState where
  run := none
  published := []
  ticks := 0

variable (m : ManagerState)

def tick : ManagerState :=
  { m with ticks := m.ticks + 1 }

def setRun (run : TeamRunRecord) : ManagerState :=
  { m with run := some run }

def broadcast (b : Broadcast) : ManagerState :=
  { m with published := m.published ++ [b] }

def runOf (teamRunId : String) : Option TeamRunRecord :=
  m.run.filter fun run => run.teamRunId = teamRunId

def activeRun : Option TeamRunRecord :=
  m.run.filter (·.isActive)

end ManagerState

namespace TeamRunManager

/-- How long a turn has run, in whole milliseconds (`saturating_sub`, and never negative). -/
def elapsedMs (now startedAt : Int) : Nat :=
  (min (now - startedAt) (2 ^ 63 - 1)).toNat

def slotPayload (now : Int) (slot : SlotWorkSnapshot) : TeamSlotWorkPayload :=
  let elapsed := slot.activeTurnStartedAtMs.map (elapsedMs now)
  { slotId := slot.slotId
    role := slot.role
    state :=
      match slot.state with
      | .idle => .idle
      | .queued => .queued
      | .starting => .starting
      | .running => .running
      | .paused => .paused
      | .blocked => .blocked
    queuedForegroundCount := slot.queuedForegroundCount
    queuedBackgroundCount := slot.queuedBackgroundCount
    activeTurnId := slot.activeTurnId
    activeTurnStartedAtMs := slot.activeTurnStartedAtMs
    activeTurnElapsedMs := elapsed
    activeTurnSlow := elapsed.map fun elapsed => decide (ACTIVE_TURN_SLOW_THRESHOLD_MS ≤ elapsed)
    activeTurnSlowThresholdMs := slot.activeTurnId.map fun _ => ACTIVE_TURN_SLOW_THRESHOLD_MS
    blockedReason :=
      match slot.runtimeConstraint with
      | .ready => none
      | .starting _ => some .runtimeStarting
      | .failed _ _ => some .runtimeFailed
      | .removing _ => some .removing
      | .sessionStopped => some .sessionStopped
    teamRunId := slot.teamRunId }

variable (M : TeamRunManager)

def payloadLocked (now : Int) (run : TeamRunRecord) (summary : RunWorkSummary) :
    TeamRunPayload where
  teamId := M.teamId
  teamRunId := run.teamRunId
  source := run.source
  hasUserIntervention := run.hasUserIntervention
  targetSlotId := run.targetSlotId
  targetRole := run.targetRole
  status := run.status
  queuedIntentCount := summary.queuedIntentCount
  startingBatchCount := summary.startingBatchCount
  runningBatchCount := summary.runningBatchCount
  activeEnqueueLeaseCount := summary.activeEnqueueLeaseCount
  slotWork := summary.slots.map (slotPayload now)

def openedRun (teamRunId : String) (source : TeamRunSource) (targetSlotId : String)
    (targetRole : TeamRunTargetRole) : TeamRunRecord where
  teamRunId := teamRunId
  source := source
  hasUserIntervention := false
  targetSlotId := targetSlotId
  targetRole := targetRole
  status := .accepted
  startedAtMs := none
  completedAtMs := none
  cancelReason := none
  summary := none
  acceptedEmitted := false

variable (m : ManagerState)

def attachOrOpen (source : TeamRunSource)
    (intervention : Bool) (targetSlotId : String) (targetRole : TeamRunTargetRole) :
    RunBinding × ManagerState :=
  match m.activeRun with
  | some run =>
    ({ teamRunId := some run.teamRunId, createdNewRun := false, userIntervention := intervention },
      m.setRun { run with hasUserIntervention := run.hasUserIntervention || intervention })
  | none =>
    let run := openedRun (M.generateId m.ticks) source targetSlotId targetRole
    ({ teamRunId := some run.teamRunId, createdNewRun := true, userIntervention := false },
      m.tick.setRun run)

def bindUserEnqueue (targetSlotId : String)
    (targetRole : TeamRunTargetRole) : RunBinding × ManagerState :=
  attachOrOpen M m .userMessage true targetSlotId targetRole

def bindSystemEnqueue (targetSlotId : String)
    (targetRole : TeamRunTargetRole) : RunBinding × ManagerState :=
  attachOrOpen M m .systemLifecycle false targetSlotId targetRole

def currentActiveRunId : Option String :=
  m.activeRun.map (·.teamRunId)

def bindEnqueue (request : EnqueueRequest) : RunBinding × ManagerState :=
  match request.binding with
  | .userVisible => bindUserEnqueue M m request.slotId request.role
  | .activeRunOrBackground =>
    ({ teamRunId := currentActiveRunId m, createdNewRun := false, userIntervention := false }, m)
  | .inheritRunningBatch _ | .background =>
    ({ teamRunId := none, createdNewRun := false, userIntervention := false }, m)
  | .systemInitiated _ => bindSystemEnqueue M m request.slotId request.role

def abortBinding (binding : RunBinding) : ManagerState :=
  if m.run.any fun run => some run.teamRunId = binding.teamRunId then { m with run := none } else m

def noWork (summary : RunWorkSummary) : Bool :=
  summary.queuedIntentCount = 0 ∧ summary.startingBatchCount = 0 ∧ summary.runningBatchCount = 0 ∧
    summary.activeEnqueueLeaseCount = 0 ∧ summary.pausedIntentCount = 0

def summarized (now : Int) (run : TeamRunRecord) (summary : RunWorkSummary) : TeamRunRecord :=
  let run := { run with summary := some summary }
  if 0 < summary.failedIntentCount then { run with status := .failed, completedAtMs := some now }
  else if noWork summary then
    { run with
      status := if run.status = .cancelling then .cancelled else .completed
      completedAtMs := some now }
  else if 0 < summary.runningBatchCount then
    { run with status := .running, startedAtMs := some (run.startedAtMs.getD now) }
  else run

def eventOf (acceptedEmitted : Bool) (previous status : TeamRunStatus) : TeamRunEvent :=
  if acceptedEmitted = false then .accepted
  else
    match status with
    | .failed => if previous ≠ .failed then .failed else .updated
    | .cancelled => if previous ≠ .cancelled then .cancelled else .updated
    | .completed => if previous ≠ .completed then .completed else .updated
    | .running => if previous ≠ .running then .started else .updated
    | .accepted | .cancelling => .updated

def applyWorkSummary (summary : RunWorkSummary) : ManagerState :=
  match m.runOf summary.teamRunId with
  | none => m
  | some previous =>
    let now := M.nowMs m.ticks
    let run := { summarized now previous summary with acceptedEmitted := true }
    (m.tick.setRun run).broadcast
      (.teamRun (eventOf previous.acceptedEmitted previous.status run.status)
        (payloadLocked M now run summary))

def cancelledRun (run : TeamRunRecord) (reason : Option String) : TeamRunRecord :=
  { run with status := .cancelling, cancelReason := reason }

def beginCancel (teamRunId : String)
    (reason : Option String) : Except TeamError Unit × ManagerState :=
  match m.run.filter fun run => run.teamRunId = teamRunId ∧ run.isActive with
  | none => (.error (.invalidRequest s!"team run is not active: {teamRunId}"), m)
  | some previous =>
    let run := cancelledRun previous reason
    match run.summary with
    | none => (.ok (), m.setRun run)
    | some summary =>
      (.ok (), (m.tick.setRun run).broadcast
        (.teamRun .updated (payloadLocked M (M.nowMs m.ticks) run summary)))

def emptySummary (teamRunId : String) : RunWorkSummary where
  teamRunId := teamRunId
  queuedIntentCount := 0
  startingBatchCount := 0
  runningBatchCount := 0
  activeEnqueueLeaseCount := 0
  pausedIntentCount := 0
  failedIntentCount := 0
  slots := []

def currentPayload (coordinator : CoordinatorSnapshot) : Option TeamRunPayload :=
  m.run.map fun run =>
    let current := coordinator.activeRunSummary.filter fun summary =>
      summary.teamRunId = run.teamRunId
    payloadLocked M (M.nowMs m.ticks) run
      ((run.summary.or current).getD (emptySummary run.teamRunId))

def publishSnapshotUpdate (coordinator : CoordinatorSnapshot) : ManagerState :=
  match currentPayload M m coordinator with
  | none => m
  | some payload =>
    if payload.status = .accepted ∨ payload.status = .running then
      m.tick.broadcast (.teamRun .updated payload)
    else m

def publishSlotWork (snapshot : SlotWorkSnapshot) : ManagerState :=
  m.tick.broadcast (.slotWork M.teamId (slotPayload (M.nowMs m.ticks) snapshot))

def port : RunCausalityPort ManagerState where
  bindEnqueue := bindEnqueue M
  bindSystemEnqueue m request := bindSystemEnqueue M m request.slotId request.role
  abortBinding := abortBinding
  applyWorkSummary := applyWorkSummary M
  publishSlotWork := publishSlotWork M

end TeamRunManager

end KiCore.Team

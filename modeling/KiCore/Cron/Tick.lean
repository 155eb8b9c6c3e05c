import KiCore.Cron.Scheduler

/-!
# Ticks and edits of a job

Port of `service.rs`: the ticks of one job, from the timer that fires to the next one that is set,
and the calls of `update_job` and `remove_job` next to them. They share the row of the job, its run
records and its timer. Each access to the database and each call of the scheduler is a step of its
own, since any other call may come in between: a tick carries a copy of the row from the moment it
was read, and an update carries the one it is about to store.

The executor may return any result at any time. A step of the database may fail (`ok`); where the
source goes on after a failure, so does the step.
-/

namespace KiCore.Cron

open KiCore.Lib
open CronJobRuns (RecoverableCronRun)

/-- What `update_job` is asked for. `others` are fields that no run depends on. -/
structure UpdateCronJobRequest where
  enabled : Option Bool
  schedule : Option CronSchedule
  queueEnabled : Option Bool
  others : Bool

namespace UpdateCronJobRequest

/-- The request is about the schedule or the enabled flag: the next run is computed anew. -/
def reschedules (request : UpdateCronJobRequest) : Bool :=
  request.schedule.isSome || request.enabled.isSome

def isEmpty (request : UpdateCronJobRequest) : Bool :=
  !request.reschedules && request.queueEnabled.isNone && !request.others

end UpdateCronJobRequest

def scheduleFromDtoWithExistingTimezone (dto existing : CronSchedule) : CronSchedule :=
  match dto, existing with
  | .cron expr none description, .cron _ tz _ => .cron expr tz description
  | dto, _ => dto

/-- The copy of a job that `update_job` makes from its request. -/
def UpdateCronJobRequest.apply (request : UpdateCronJobRequest) (job : CronJob) : CronJob :=
  { job with
    enabled := request.enabled.getD job.enabled
    schedule := (request.schedule.map
      (scheduleFromDtoWithExistingTimezone · job.schedule)).getD job.schedule
    queueEnabled := request.queueEnabled.getD job.queueEnabled }

/-- The row after the requested fields of a copy were stored (`build_update_params`,
`update_inner`). -/
def UpdateCronJobRequest.store (request : UpdateCronJobRequest) (job row : CronJob) : CronJob :=
  { row with
    enabled := request.enabled.getD row.enabled
    schedule := if request.schedule.isSome then job.schedule else row.schedule
    nextRunAt := if request.reschedules then job.nextRunAt else row.nextRunAt
    queueEnabled := request.queueEnabled.getD row.queueEnabled }

/-- Where a tick stands: the step that comes next, with what it carries. -/
inductive TickStage where
  | loading
  | claiming (job : CronJob)
  | tracking (job : CronJob) (claimNow : Int)
  | executing (job : CronJob)
  | settling (job : CronJob) (result : ExecutionResult)
  | recovering (job : CronJob)
  | writing (job : CronJob)
  | rescheduling (job : CronJob)
  | disabling
  | retrying (scheduledAt wakeAt : Int)
  | missing
  | malformed
  | done
  deriving DecidableEq

/-- A tick. `edits` is the number of edits of the row that had been stored when it was read. -/
structure Tick where
  scheduledAt : Int
  edits : Nat
  stage : TickStage

inductive UpdateStage where
  | writing
  | rescheduling
  | done
  deriving DecidableEq

/-- A call of `update_job`. -/
structure Update where
  userId : String
  request : UpdateCronJobRequest
  job : CronJob
  stage : UpdateStage

/-- A call of `remove_job`, after it has cancelled the timer. -/
structure Removal where
  userId : String
  deleting : Bool

/-- A job with what runs on it. `edits` counts the edits of schedule and enabled flag that users
have stored, `asked` lists the retries that the run records have asked for. `overwritten` tells that
a tick has changed what such an edit had stored after the tick read the row, and `stranded` that a
tick has ended with the job enabled, its next run set and no timer pending. -/
structure JobRuntime where
  row : Option CronJob
  edits : Nat
  runs : CronJobRuns
  asked : List RecoverableCronRun
  timer : Option Timer
  ticks : List Tick
  updates : List Update
  removals : List Removal
  overwritten : Bool
  stranded : Bool

inductive JobEvent where
  | fire (now : Int)
  | tickLoad (i : Nat)
  | tickMalformed (i : Nat)
  | tickFail (i : Nat)
  | tickClaim (i : Nat) (now : Int)
  | tickTrack (i : Nat) (tie : Option Nat)
  | tickBeat (i : Nat) (now : Int)
  | tickExecute (i : Nat) (result : ExecutionResult)
  | tickSettle (i : Nat) (now later : Int) (ok : Bool)
  | tickRecover (i : Nat) (now : Int) (tie : Option Nat)
  | tickWrite (i : Nat) (now : Int) (ok : Bool)
  | tickCall (i : Nat)
  | updateBegin (userId : String) (request : UpdateCronJobRequest)
  | updateReject (i : Nat)
  | updateWrite (i : Nat) (now : Int) (ok : Bool)
  | updateCall (i : Nat)
  | removeBegin (userId : String)
  | removeDelete (i : Nat) (ok : Bool)

namespace JobRuntime

variable (svc : CronService) (s : JobRuntime) (userId : String)

/-- A job right after `add_job` has scheduled it. -/
def start (schedule : CronSchedule) (queueEnabled : Bool) (now : Int) : JobRuntime :=
  let job : CronJob :=
    { userId, enabled := true, schedule, nextRunAt := svc.computeNextRun schedule now, queueEnabled }
  { row := some job
    edits := 0
    runs := ∅
    asked := []
    timer := job.timer
    ticks := []
    updates := []
    removals := []
    overwritten := false
    stranded := false }

/-- The timer that the stored row calls for. -/
def wanted : Option Timer :=
  s.row.bind CronJob.timer

def jobHasOwner : Bool :=
  s.row.any (·.userId ≠ "")

variable (i : Nat) (tick : Tick)

def moveTick (stage : TickStage) : JobRuntime :=
  { s with ticks := s.ticks.set i { tick with stage := stage } }

def endTick : JobRuntime :=
  { s.moveTick i tick .done with stranded := s.stranded || s.wanted.isSome && s.timer.isNone }

variable (now : Int)

def fire : JobRuntime :=
  match s.timer with
  | none => s
  | some timer =>
    { s with
      timer := timer.fired svc now
      ticks := s.ticks ++ [{ scheduledAt := timer.scheduledAt, edits := 0, stage := .loading }] }

/-- The row is read. A tick of a disabled job ends. -/
def tickLoad : JobRuntime :=
  match tick.stage with
  | .loading =>
    match s.row with
    | none => s.moveTick i tick .missing
    | some job =>
      if job.enabled then
        s.moveTick i { tick with edits := s.edits } (.claiming job)
      else
        s.moveTick i tick .done
  | _ => s

/-- The row is read and cannot be parsed, for fields that no run depends on. -/
def tickMalformed : JobRuntime :=
  match tick.stage with
  | .loading => if s.row.isSome then s.moveTick i tick .malformed else s
  | _ => s

/-- The row cannot be read, the assistant of the job cannot be resolved, or the claim fails: the
tick ends. -/
def tickFail : JobRuntime :=
  match tick.stage with
  | .loading => s.endTick i tick
  | .claiming _ => s.endTick i tick
  | _ => s

def tickClaim (tick : Tick) : JobRuntime :=
  match tick.stage with
  | .claiming job =>
    let claimed := s.runs.claimRun s.jobHasOwner
      { jobId := svc.jobId
        scheduledAt := tick.scheduledAt
        ownerId := svc.instanceId
        now := now
        leaseUntil := now + runLeaseMs
        queueEnabled := job.queueEnabled }
    let s := { s with runs := claimed.2 }
    match claimed.1 with
    | .claimed => s.moveTick i tick (.executing job)
    | .duplicate => s.moveTick i tick (.tracking job now)
    | .queueBusy => s.moveTick i tick (.recovering job)
  | _ => s

def retry (run : RecoverableCronRun) : JobRuntime :=
  { s with asked := run :: s.asked }.moveTick i tick (.retrying run.scheduledAt run.wakeAt)

/-- Without a `tie` the run records cannot be read. -/
def retryOr (tie : Option Nat) (stage : TickStage) : JobRuntime :=
  match tie.bind (s.runs.getRecoverableRun s.jobHasOwner svc.jobId now) with
  | some run => s.retry i tick run
  | none => s.moveTick i tick stage

/-- A duplicate looks for the occurrence it was claimed for. -/
def tickTrack (tie : Option Nat) (tick : Tick) : JobRuntime :=
  match tick.stage with
  | .tracking job claimNow => s.retryOr svc i tick claimNow tie (.recovering job)
  | _ => s

def claim : Claim where
  instanceId := svc.instanceId
  jobId := svc.jobId
  scheduledAt := tick.scheduledAt

/-- The heartbeat of an execution renews the lease. -/
def tickBeat (tick : Tick) : JobRuntime :=
  match tick.stage with
  | .executing _ => { s with runs := (renew s.runs (claim svc tick) now s.jobHasOwner).2 }
  | _ => s

def tickExecute (result : ExecutionResult) (tick : Tick) : JobRuntime :=
  match tick.stage with
  | .executing job => s.moveTick i tick (.settling job result)
  | _ => s

/-- The update of the run records for a result, and whether it has taken effect. -/
def settled (result : ExecutionResult) (now later : Int) (ok : Bool) : Bool × CronJobRuns :=
  if ok then
    handleExecutionResult s.runs (claim svc tick) result now later s.jobHasOwner
  else
    (false, s.runs)

/-- The occurrence is finished or deferred. A tick whose lease is lost ends. -/
def tickSettle (now later : Int) (ok : Bool) (tick : Tick) : JobRuntime :=
  match tick.stage with
  | .settling job result =>
    let update := s.settled svc tick result now later ok
    let s := { s with runs := update.2 }
    if update.1 then
      match result with
      | .retrying _ => s.retry i tick ⟨tick.scheduledAt, now + retryIntervalMs⟩
      | .success _ => s.moveTick i tick (.recovering job)
      | .skipped => s.moveTick i tick (.recovering job)
      | .error _ => s.moveTick i tick (.recovering job)
    else
      s.endTick i tick
  | _ => s

/-- `reschedule_after_execution` looks for unfinished occurrences. -/
def tickRecover (tie : Option Nat) (tick : Tick) : JobRuntime :=
  match tick.stage with
  | .recovering job => s.retryOr svc i tick now tie (.writing job)
  | _ => s

/-- A tick stores what it keeps of the row. -/
def bookkeep (ok : Bool) (store : CronJob → CronJob) : JobRuntime :=
  if ok then
    { s with
      row := s.row.map store
      overwritten := s.overwritten || decide (tick.edits ≠ s.edits ∧ s.row.map store ≠ s.row) }
  else
    s

/-- `reschedule_after_execution` stores the next run of its copy, or that the job is over. -/
def tickWrite (ok : Bool) (tick : Tick) : JobRuntime :=
  match tick.stage with
  | .writing job =>
    match job.schedule with
    | .at_ _ _ =>
      (s.bookkeep tick ok fun row =>
        { row with enabled := false, nextRunAt := none }).moveTick i tick .disabling
    | schedule =>
      let next := svc.computeNextRunAfterOccurrence schedule tick.scheduledAt now
      (s.bookkeep tick ok fun row => { row with nextRunAt := next }).moveTick i tick
        (.rescheduling { job with nextRunAt := next })
  | _ => s

def tickCall : JobRuntime :=
  match tick.stage with
  | .rescheduling job => { s with timer := job.timer }.endTick i tick
  | .disabling => { s with timer := none }.endTick i tick
  | .retrying scheduledAt wakeAt =>
      { s with timer := some (.occurrence scheduledAt wakeAt) }.endTick i tick
  | .missing => { s with timer := none }.endTick i tick
  | .malformed => { s with timer := none }.endTick i tick
  | _ => s

def moveUpdate (update : Update) (stage : UpdateStage) : JobRuntime :=
  { s with updates := s.updates.set i { update with stage := stage } }

def updateBegin (request : UpdateCronJobRequest) : JobRuntime :=
  match s.row with
  | none => s
  | some job =>
    if job.userId = userId then
      { s with updates := s.updates ++
        [{ userId, request, job := request.apply job, stage := .writing }] }
    else
      s

def updateReject (update : Update) : JobRuntime :=
  match update.stage with
  | .writing => s.moveUpdate i update .done
  | _ => s

/-- The requested fields are stored. An update whose row is gone, or cannot be stored, ends. -/
def updateWrite (ok : Bool) (update : Update) : JobRuntime :=
  match update.stage with
  | .writing =>
    let job :=
      if update.request.reschedules then
        { update.job with nextRunAt := svc.computeNextRun update.job.schedule now }
      else
        update.job
    let update := { update with job := job }
    if ok then
      if update.request.isEmpty then
        s.moveUpdate i update .rescheduling
      else if s.row.any (·.userId = update.userId) then
        { s.moveUpdate i update .rescheduling with
          row := s.row.map (update.request.store job)
          edits := if update.request.reschedules then s.edits + 1 else s.edits }
      else
        s.moveUpdate i update .done
    else
      s.moveUpdate i update .done
  | _ => s

def updateCall (update : Update) : JobRuntime :=
  match update.stage with
  | .rescheduling => { s with timer := update.job.timer }.moveUpdate i update .done
  | _ => s

/-- `remove_job` cancels the timer before it deletes the row. -/
def removeBegin : JobRuntime :=
  { s with timer := none, removals := s.removals ++ [{ userId, deleting := true }] }

def removeDelete (ok : Bool) (removal : Removal) : JobRuntime :=
  if removal.deleting then
    { s with
      row := if ok && s.row.any (·.userId = removal.userId) then none else s.row
      removals := s.removals.set i { removal with deleting := false } }
  else
    s

def onCall {α : Type} (calls : List α) (i : Nat) (go : α → JobRuntime) : JobRuntime :=
  (calls[i]?.map go).getD s

def next : JobEvent → JobRuntime
  | .fire now => s.fire svc now
  | .tickLoad i => s.onCall s.ticks i (s.tickLoad i)
  | .tickMalformed i => s.onCall s.ticks i (s.tickMalformed i)
  | .tickFail i => s.onCall s.ticks i (s.tickFail i)
  | .tickClaim i now => s.onCall s.ticks i (s.tickClaim svc i now)
  | .tickTrack i tie => s.onCall s.ticks i (s.tickTrack svc i tie)
  | .tickBeat i now => s.onCall s.ticks i (s.tickBeat svc now)
  | .tickExecute i result => s.onCall s.ticks i (s.tickExecute i result)
  | .tickSettle i now later ok => s.onCall s.ticks i (s.tickSettle svc i now later ok)
  | .tickRecover i now tie => s.onCall s.ticks i (s.tickRecover svc i now tie)
  | .tickWrite i now ok => s.onCall s.ticks i (s.tickWrite svc i now ok)
  | .tickCall i => s.onCall s.ticks i (s.tickCall i)
  | .updateBegin userId request => s.updateBegin userId request
  | .updateReject i => s.onCall s.updates i (s.updateReject i)
  | .updateWrite i now ok => s.onCall s.updates i (s.updateWrite svc i now ok)
  | .updateCall i => s.onCall s.updates i (s.updateCall i)
  | .removeBegin userId => s.removeBegin userId
  | .removeDelete i ok => s.onCall s.removals i (s.removeDelete i ok)

end JobRuntime

end KiCore.Cron

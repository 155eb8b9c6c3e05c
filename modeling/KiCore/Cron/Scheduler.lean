import KiCore.Cron.Service

/-!
# Timers

Port of `scheduler.rs`: the next run of a schedule, and the timer of a job. A timer fires once
(`at`, and the retry of an occurrence), or goes on by itself (`every`, `cron`). What the library for
cron expressions makes of one is a parameter.
-/

namespace KiCore.Cron

open KiCore.Lib

inductive CronSchedule where
  | at_ (atMs : Int) (description : Option String)
  | every (everyMs : Int) (description : Option String)
  | cron (expr : String) (tz : Option String) (description : Option String)
  deriving DecidableEq

structure CronJob where
  userId : String
  enabled : Bool
  schedule : CronSchedule
  nextRunAt : Option Int
  queueEnabled : Bool
  deriving DecidableEq

structure CronService where
  instanceId : String
  jobId : String
  computeCronNextRun : String → Option String → Int → Option Int

namespace CronService

variable (svc : CronService)

/-- A result of checked arithmetic on `i64`. -/
def checked (n : Int) : Option Int :=
  if -2 ^ 63 ≤ n ∧ n < 2 ^ 63 then some n else none

def computeNextRun (schedule : CronSchedule) (now : Int) : Option Int :=
  match schedule with
  | .at_ atMs _ => some atMs
  | .every everyMs _ => if everyMs ≤ 0 then none else some (now + everyMs)
  | .cron expr tz _ => svc.computeCronNextRun expr tz now

def computeNextRunAfterOccurrence (schedule : CronSchedule) (scheduledAt now : Int) : Option Int :=
  match schedule with
  | .at_ _ _ => none
  | .every everyMs _ =>
    if everyMs ≤ 0 then
      none
    else
      let elapsed := max (-2 ^ 63) (min (now - scheduledAt) (2 ^ 63 - 1))
      let steps := elapsed / everyMs + 1
      (checked (steps * everyMs)).bind fun span => checked (scheduledAt + span)
  | .cron expr tz _ => svc.computeCronNextRun expr tz (max now scheduledAt)

end CronService

inductive Timer where
  | occurrence (scheduledAt runAt : Int)
  | every (scheduledAt everyMs : Int)
  | cron (scheduledAt : Int) (expr : String) (tz : Option String)
  deriving DecidableEq

namespace Timer

/-- The occurrence that the timer fires for. -/
def scheduledAt : Timer → Int
  | .occurrence scheduledAt _ => scheduledAt
  | .every scheduledAt _ => scheduledAt
  | .cron scheduledAt _ _ => scheduledAt

def fired (svc : CronService) (timer : Timer) (now : Int) : Option Timer :=
  match timer with
  | .occurrence _ _ => none
  | .every scheduledAt everyMs => some (.every (scheduledAt + everyMs) everyMs)
  | .cron _ expr tz => (svc.computeCronNextRun expr tz now).map fun next => .cron next expr tz

/-- A timer has gone on from another one by itself. -/
inductive Becomes (svc : CronService) : Timer → Timer → Prop where
  | refl {timer} : Becomes svc timer timer
  | fired {timer before after} (now) : Becomes svc timer before → before.fired svc now = some after →
      Becomes svc timer after

end Timer

/-- The timer that `schedule_job` leaves for a job. -/
def CronJob.timer (job : CronJob) : Option Timer :=
  if job.enabled then
    job.nextRunAt.map fun nextRunAt =>
      match job.schedule with
      | .at_ _ _ => .occurrence nextRunAt nextRunAt
      | .every everyMs _ => .every nextRunAt everyMs
      | .cron expr tz _ => .cron nextRunAt expr tz
  else
    none

end KiCore.Cron

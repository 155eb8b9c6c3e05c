import KiCore.Cron.Run
import KiCore.Lib.Transition

/-!
# Executing occurrences

Port of `tick` of `service.rs` as far as it touches the run records: an occurrence is claimed, its lease is
renewed by a heartbeat while the job executes, and it is finished or deferred according to the result.

The instances of the service share the rows, and each may tick for any occurrence at any time. Each access to
the database is a step of its own with its own reading of the clock. One that fails changes nothing: a claim or
a renewal that fails is no step, and a result whose update fails is dropped (`lose`).
-/

namespace KiCore.Cron

open KiCore.Lib

/-- How long a claim or a renewal is good for (`RUN_LEASE_MS`). -/
def runLeaseMs : Int := 60000

/-- How long a deferred occurrence waits (`RETRY_INTERVAL_MS`). -/
def retryIntervalMs : Int := 30000

inductive ExecutionResult where
  | success (conversationId : String)
  | retrying (attempt : Int)
  | skipped
  | error (message : String)
  deriving DecidableEq

def ExecutionResult.ends : ExecutionResult → Bool
  | .retrying _ => false
  | .success _ | .skipped | .error _ => true

/-- A successful claim: the instance that made it (`instance_id`), and the occurrence. -/
structure Claim where
  instanceId : String
  jobId : String
  scheduledAt : Int
  deriving DecidableEq

inductive Stage where
  | executing
  | settling (result : ExecutionResult)
  | done
  deriving DecidableEq

/-- A heartbeat stops when a renewal affects no row. When it is aborted, its last renewal may be on the way to
the database. -/
inductive Heartbeat where
  | beating
  | aborted
  | stopped
  deriving DecidableEq

/-- A tick after its claim has succeeded. -/
structure Executor where
  claim : Claim
  stage : Stage
  heartbeat : Heartbeat

variable (runs : CronJobRuns)

def renew (claim : Claim) (now : Int) (jobHasOwner : Bool) : Bool × CronJobRuns :=
  runs.renewRunLease jobHasOwner claim.jobId claim.scheduledAt claim.instanceId (now + runLeaseMs) now

/-- The clock is read twice, for the time of the retry and for the time of the update. -/
def scheduleRetry (claim : Claim) (now later : Int) (jobHasOwner : Bool) : Bool × CronJobRuns :=
  runs.deferRun jobHasOwner claim.jobId claim.scheduledAt claim.instanceId (now + retryIntervalMs) later

def finishScheduledRun (claim : Claim) (status : CronRunStatus)
    (conversationId error : Option String) (now : Int) (jobHasOwner : Bool) : Bool × CronJobRuns :=
  runs.finishRun jobHasOwner
    { jobId := claim.jobId
      scheduledAt := claim.scheduledAt
      ownerId := claim.instanceId
      status := status
      conversationId := conversationId
      error := error
      finishedAt := now }

def handleExecutionResult (claim : Claim) (result : ExecutionResult) (now later : Int)
    (jobHasOwner : Bool) : Bool × CronJobRuns :=
  match result with
  | .success conversationId => finishScheduledRun runs claim .ok (some conversationId) none now jobHasOwner
  | .retrying _ => scheduleRetry runs claim now later jobHasOwner
  | .skipped => finishScheduledRun runs claim .skipped none none now jobHasOwner
  | .error message => finishScheduledRun runs claim .error none (some message) now jobHasOwner

/-- The rows and the executors in the order of their claims, with the occurrences that were finished. -/
structure Fleet where
  runs : CronJobRuns
  executors : List Executor
  finished : List (String × Int)

namespace Fleet

inductive Step where
  | tick (claim : Claim) (now : Int) (queueEnabled jobHasOwner : Bool)
  | beat (executor : Nat) (now : Int) (jobHasOwner : Bool)
  | execute (executor : Nat) (result : ExecutionResult)
  | settle (executor : Nat) (now later : Int) (jobHasOwner : Bool)
  | lose (executor : Nat)

variable (σ : Fleet)

/-- An instance tries to claim an occurrence, and executes it if that succeeds. -/
def tick (claim : Claim) (now : Int) (queueEnabled jobHasOwner : Bool) : Fleet :=
  let (result, runs) := σ.runs.claimRun jobHasOwner
    { jobId := claim.jobId
      scheduledAt := claim.scheduledAt
      ownerId := claim.instanceId
      now := now
      leaseUntil := now + runLeaseMs
      queueEnabled := queueEnabled }
  match result with
  | .claimed =>
    { σ with
      runs := runs
      executors := σ.executors ++ [{ claim := claim, stage := .executing, heartbeat := .beating }] }
  | .duplicate | .queueBusy => { σ with runs := runs }

/-- A renewal of a heartbeat reaches the database. -/
def beat (n : Nat) (now : Int) (jobHasOwner : Bool) : Fleet :=
  match σ.executors[n]? with
  | some x =>
    if x.heartbeat = .stopped then σ
    else
      let (renewed, runs) := renew σ.runs x.claim now jobHasOwner
      let heartbeat := if renewed ∧ x.heartbeat = .beating then .beating else .stopped
      { σ with runs := runs, executors := σ.executors.set n { x with heartbeat := heartbeat } }
  | none => σ

def execute (n : Nat) (result : ExecutionResult) : Fleet :=
  match σ.executors[n]? with
  | some x =>
    if x.stage = .executing then
      let heartbeat := if x.heartbeat = .beating then .aborted else x.heartbeat
      { σ with
        executors := σ.executors.set n { x with stage := .settling result, heartbeat := heartbeat } }
    else σ
  | none => σ

/-- The update for a result reaches the database. -/
def settle (n : Nat) (now later : Int) (jobHasOwner : Bool) : Fleet :=
  match σ.executors[n]? with
  | some x =>
    match x.stage with
    | .settling result =>
      let (affected, runs) := handleExecutionResult σ.runs x.claim result now later jobHasOwner
      { runs := runs
        executors := σ.executors.set n { x with stage := .done }
        finished := σ.finished ++
          if affected ∧ result.ends then [(x.claim.jobId, x.claim.scheduledAt)] else [] }
    | .executing | .done => σ
  | none => σ

def lose (n : Nat) : Fleet :=
  match σ.executors[n]? with
  | some x =>
    match x.stage with
    | .settling _ => { σ with executors := σ.executors.set n { x with stage := .done } }
    | .executing | .done => σ
  | none => σ

def next : Step → Fleet
  | .tick claim now queueEnabled jobHasOwner => σ.tick claim now queueEnabled jobHasOwner
  | .beat n now jobHasOwner => σ.beat n now jobHasOwner
  | .execute n result => σ.execute n result
  | .settle n now later jobHasOwner => σ.settle n now later jobHasOwner
  | .lose n => σ.lose n

def initial : Fleet :=
  { runs := ∅, executors := [], finished := [] }

/-- The runs of all executors of all instances. -/
def lts : LTS Fleet Step :=
  .computed initial (fun _ _ => True) next

end Fleet

end KiCore.Cron

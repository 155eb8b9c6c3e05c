import KiCore.Lib.Lease
import KiCore.Lib.Table

/-!
# Cron occurrences

Port of the run records of `sqlite_cron.rs` (table `cron_job_runs`): one row for each occurrence of a job, and
the four operations that write it. `claim_run` is one transaction and the others are one statement each, so an
operation here is one function of the rows. `jobHasOwner` is what it reads of table `cron_jobs`.

`CronJobRun.lease` reads a row as a lease, and each operation makes a move of it.
-/

namespace KiCore.Cron

open KiCore.Lib

inductive CronRunStatus where
  | running
  | retrying
  | ok
  | error
  | skipped
  deriving DecidableEq

def CronRunStatus.isActive : CronRunStatus → Bool
  | .running | .retrying => true
  | .ok | .error | .skipped => false

structure CronJobRun where
  status : CronRunStatus
  ownerId : Option String
  leaseUntil : Option Int
  conversationId : Option String
  error : Option String
  startedAt : Option Int
  finishedAt : Option Int
  createdAt : Int
  updatedAt : Int

structure ClaimCronRunParams where
  jobId : String
  scheduledAt : Int
  ownerId : String
  now : Int
  leaseUntil : Int
  queueEnabled : Bool

inductive CronRunClaimResult where
  | claimed
  | duplicate
  | queueBusy
  deriving DecidableEq

structure FinishCronRunParams where
  jobId : String
  scheduledAt : Int
  ownerId : String
  status : CronRunStatus
  conversationId : Option String
  error : Option String
  finishedAt : Int

/-- The rows, by job and by the time they are scheduled at. -/
abbrev CronJobRuns : Type := Table String (Table Int CronJobRun)

namespace CronJobRuns

variable (runs : CronJobRuns)

def ofJob (jobId : String) : Table Int CronJobRun :=
  (runs[jobId]?).getD ∅

def row (jobId : String) (scheduledAt : Int) : Option CronJobRun :=
  (runs.ofJob jobId)[scheduledAt]?

def put (jobId : String) (scheduledAt : Int) (run : CronJobRun) : CronJobRuns :=
  runs.insert jobId ((runs.ofJob jobId).insert scheduledAt run)

/-- Some occurrence of the job is active, under a lease that has not expired. -/
def hasActiveRun (jobId : String) (now : Int) : Bool :=
  (Table.values (runs.ofJob jobId)).any fun run => run.status.isActive && run.leaseUntil.any (now < ·)

variable (jobHasOwner : Bool)

def claimRun (params : ClaimCronRunParams) : CronRunClaimResult × CronJobRuns :=
  if ¬ jobHasOwner then (.duplicate, runs)
  else
    match runs.row params.jobId params.scheduledAt with
    | some run =>
      if run.status.isActive ∧ run.leaseUntil.any (· ≤ params.now) then
        (.claimed, runs.put params.jobId params.scheduledAt
          { run with
            status := .running
            ownerId := some params.ownerId
            leaseUntil := some params.leaseUntil
            startedAt := run.startedAt.or (some params.now)
            finishedAt := none
            error := none
            updatedAt := params.now })
      else (.duplicate, runs)
    | none =>
      if params.queueEnabled ∧ runs.hasActiveRun params.jobId params.now then
        (.queueBusy, runs.put params.jobId params.scheduledAt
          { status := .skipped
            ownerId := none
            leaseUntil := none
            conversationId := none
            error := none
            startedAt := none
            finishedAt := some params.now
            createdAt := params.now
            updatedAt := params.now })
      else
        (.claimed, runs.put params.jobId params.scheduledAt
          { status := .running
            ownerId := some params.ownerId
            leaseUntil := some params.leaseUntil
            conversationId := none
            error := none
            startedAt := some params.now
            finishedAt := none
            createdAt := params.now
            updatedAt := params.now })

/-- The three updates below have their condition in common: the occurrence is running, and its lease names
the owner. The first component says whether a row was affected. -/
def updateHeld (jobId : String) (scheduledAt : Int)
    (ownerId : String) (set : CronJobRun → CronJobRun) : Bool × CronJobRuns :=
  match runs.row jobId scheduledAt with
  | some run =>
    if run.status = .running ∧ run.ownerId = some ownerId ∧ jobHasOwner then
      (true, runs.put jobId scheduledAt (set run))
    else (false, runs)
  | none => (false, runs)

def renewRunLease (jobId : String) (scheduledAt : Int)
    (ownerId : String) (leaseUntil updatedAt : Int) : Bool × CronJobRuns :=
  runs.updateHeld jobHasOwner jobId scheduledAt ownerId fun run =>
    { run with leaseUntil := some leaseUntil, updatedAt := updatedAt }

def deferRun (jobId : String) (scheduledAt : Int)
    (ownerId : String) (retryAt updatedAt : Int) : Bool × CronJobRuns :=
  runs.updateHeld jobHasOwner jobId scheduledAt ownerId fun run =>
    { run with
      status := .retrying, ownerId := none, leaseUntil := some retryAt, updatedAt := updatedAt }

def finishRun (params : FinishCronRunParams) : Bool × CronJobRuns :=
  runs.updateHeld jobHasOwner params.jobId params.scheduledAt params.ownerId fun run =>
    { run with
      status := params.status
      conversationId := params.conversationId
      error := params.error
      leaseUntil := none
      finishedAt := some params.finishedAt
      updatedAt := params.finishedAt }

structure RecoverableCronRun where
  scheduledAt : Int
  wakeAt : Int

/-- An occurrence that is not over and whose lease ends first. The order says nothing of leases that end
together: `tie` is the one that the database has put in front. -/
def getRecoverableRun (jobId : String) (now : Int) (tie : Nat) : Option RecoverableCronRun :=
  if jobHasOwner then
    let leases := (runs.ofJob jobId).toList.filterMap fun (scheduledAt, run) =>
      if run.status.isActive then run.leaseUntil.map fun lease => (scheduledAt, lease) else none
    let first := leases.filter fun run => leases.all (run.2 ≤ ·.2)
    first[tie % first.length]?.map fun (scheduledAt, lease) => { scheduledAt, wakeAt := max lease now }
  else
    none

end CronJobRuns

def CronJobRun.lease (run : CronJobRun) : Lease String :=
  match run.status, run.ownerId with
  | .running, some owner => .held owner
  | .running, none | .retrying, _ => .parked
  | .ok, _ | .error, _ | .skipped, _ => .closed

namespace CronJobRuns

/-- The lease of an occurrence, which is vacant before its row is there. -/
def lease (runs : CronJobRuns) (jobId : String) (scheduledAt : Int) : Lease String :=
  ((runs.row jobId scheduledAt).map (·.lease)).getD .vacant

variable {runs : CronJobRuns} {jobId job ownerId owner : String} {scheduledAt at_ : Int}
  {run : CronJobRun}
  {jobHasOwner : Bool} {set : CronJobRun → CronJobRun} {params : ClaimCronRunParams}

lemma row_put : (runs.put jobId scheduledAt run).row job at_ =
    if jobId = job ∧ scheduledAt = at_ then some run else runs.row job at_ := by
  unfold row put
  rw [ofJob, Table.get_insert]
  by_cases hj : jobId = job
  · subst hj
    rw [if_pos rfl, Option.getD_some, Table.get_insert]
    simp
  · rw [if_neg hj, if_neg (hj ·.1), ofJob]

lemma lease_put : (runs.put jobId scheduledAt run).lease job at_ =
    if jobId = job ∧ scheduledAt = at_ then run.lease else runs.lease job at_ := by
  unfold lease
  rw [row_put]
  split_ifs
  · rfl
  · rfl

lemma row_of_recoverable {now : Int} {tie : Nat} {found : RecoverableCronRun}
    (h : runs.getRecoverableRun jobHasOwner jobId now tie = some found) :
    (runs.row jobId found.scheduledAt).isSome = true := by
  rw [getRecoverableRun] at h
  split at h
  · obtain ⟨⟨at_, lease⟩, first, rfl⟩ := Option.map_eq_some_iff.mp h
    obtain ⟨⟨at', run⟩, mem, eq⟩ := List.mem_filterMap.mp (List.mem_of_mem_filter (List.mem_of_getElem? first))
    have there := Std.TreeMap.mem_toList_iff_getElem?_eq_some.mp mem
    dsimp only at eq
    split at eq
    · obtain ⟨_, -, eq⟩ := Option.map_eq_some_iff.mp eq
      cases eq
      rw [row, there]
      rfl
    · cases eq
  · cases h

lemma row_put_isSome (h : (runs.row job at_).isSome = true) :
    ((runs.put jobId scheduledAt run).row job at_).isSome = true := by
  rw [row_put]
  split_ifs
  · rfl
  · exact h

lemma lease_eq_held : runs.lease jobId scheduledAt = .held owner ↔
    ∃ run, runs.row jobId scheduledAt = some run ∧ run.status = .running ∧
      run.ownerId = some owner := by
  unfold lease
  cases runs.row jobId scheduledAt with
  | none => simp
  | some run =>
    obtain ⟨status, ownerId⟩ := run
    cases status <;> cases ownerId <;> simp [CronJobRun.lease]

lemma updateHeld_cases (runs : CronJobRuns) (jobHasOwner : Bool) (jobId : String) (scheduledAt : Int)
    (ownerId : String) (set : CronJobRun → CronJobRun) :
    runs.updateHeld jobHasOwner jobId scheduledAt ownerId set = (false, runs) ∨
    ∃ run, runs.row jobId scheduledAt = some run ∧ run.status = .running ∧ run.ownerId = some ownerId ∧
      runs.updateHeld jobHasOwner jobId scheduledAt ownerId set =
        (true, runs.put jobId scheduledAt (set run)) := by
  unfold updateHeld
  cases h : runs.row jobId scheduledAt with
  | none => exact .inl rfl
  | some run =>
    dsimp only
    split_ifs with held
    · exact .inr ⟨run, rfl, held.1, held.2.1, rfl⟩
    · exact .inl rfl

lemma claimRun_cases (runs : CronJobRuns) (jobHasOwner : Bool) (params : ClaimCronRunParams) :
    (∃ run : CronJobRun, run.status = .running ∧ run.ownerId = some params.ownerId ∧
      (∀ old ∈ runs.row params.jobId params.scheduledAt, old.status.isActive) ∧
      runs.claimRun jobHasOwner params = (.claimed, runs.put params.jobId params.scheduledAt run)) ∨
    runs.claimRun jobHasOwner params = (.duplicate, runs) ∨
    ∃ run : CronJobRun, run.status = .skipped ∧ runs.row params.jobId params.scheduledAt = none ∧
      runs.claimRun jobHasOwner params =
        (.queueBusy, runs.put params.jobId params.scheduledAt run) := by
  unfold claimRun
  cases jobHasOwner with
  | false => exact .inr (.inl rfl)
  | true =>
    rw [if_neg (not_not.mpr rfl)]
    cases h : runs.row params.jobId params.scheduledAt with
    | some run =>
      dsimp only
      split_ifs with expired
      · refine .inl ⟨_, rfl, rfl, ?_, rfl⟩
        intro old mem
        cases mem
        exact expired.1
      · exact .inr (.inl rfl)
    | none =>
      dsimp only
      split_ifs with busy
      · exact .inr (.inr ⟨_, rfl, rfl, rfl⟩)
      · refine .inl ⟨_, rfl, rfl, ?_, rfl⟩
        intro old mem
        cases mem

lemma updateHeld_row_isSome (h : (runs.row job at_).isSome = true) :
    ((runs.updateHeld jobHasOwner jobId scheduledAt ownerId set).2.row job at_).isSome = true := by
  obtain eq | ⟨run, -, -, -, eq⟩ := updateHeld_cases runs jobHasOwner jobId scheduledAt ownerId set
  · rwa [eq]
  · rw [eq]
    exact row_put_isSome h

lemma claimRun_row_isSome (h : (runs.row job at_).isSome = true) :
    ((runs.claimRun jobHasOwner params).2.row job at_).isSome = true := by
  obtain ⟨run, -, -, -, eq⟩ | eq | ⟨run, -, -, eq⟩ := claimRun_cases runs jobHasOwner params
  · rw [eq]
    exact row_put_isSome h
  · rwa [eq]
  · rw [eq]
    exact row_put_isSome h

lemma row_of_updateHeld (h : (runs.updateHeld jobHasOwner jobId scheduledAt ownerId set).1 = true) :
    (runs.row jobId scheduledAt).isSome = true := by
  obtain eq | ⟨run, there, -⟩ := updateHeld_cases runs jobHasOwner jobId scheduledAt ownerId set
  · rw [eq] at h
    cases h
  · rw [there]
    rfl

end CronJobRuns

end KiCore.Cron

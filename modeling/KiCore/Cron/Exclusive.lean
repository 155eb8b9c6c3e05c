import KiCore.Cron.Run
import KiCore.Lib.Transition

/-!
# Exclusive occurrences

Queue mode is there for one run of a job at a time. The claim of a new occurrence looks for another
active one and skips its own if there is any. No other operation looks: a claim that takes over an
occurrence whose lease has expired, a renewal that comes after the lease has expired, and a deferral
can each bring an occurrence back while another one runs. They are the only ways to have two
(`exclusive_put_iff`).

Time is one clock. An operation has read it some time before it takes effect.
-/

namespace KiCore.Cron

open KiCore.Lib

/-- An occurrence is active under a lease that has not expired. -/
def CronJobRun.unexpired (run : CronJobRun) (now : Int) : Bool :=
  run.status.isActive && run.leaseUntil.any (now < ·)

/-- The rows at a time. -/
structure History where
  runs : CronJobRuns
  clock : Int

namespace History

/-- What happens to the rows of jobs in queue mode. A claim has read the clock `age` before it takes
effect, and the other operations write times that nothing reads. -/
inductive Event where
  | elapse (ms : Nat)
  | claim (jobHasOwner : Bool) (jobId : String) (scheduledAt : Int) (ownerId : String) (age : Nat)
      (leaseUntil : Int)
  | renew (jobHasOwner : Bool) (jobId : String) (scheduledAt : Int) (ownerId : String)
      (leaseUntil updatedAt : Int)
  | defer (jobHasOwner : Bool) (jobId : String) (scheduledAt : Int) (ownerId : String)
      (retryAt updatedAt : Int)
  | finish (jobHasOwner : Bool) (params : FinishCronRunParams)

variable (h : History)

def claimParams (jobId : String) (scheduledAt : Int) (ownerId : String) (age : Nat)
    (leaseUntil : Int) : ClaimCronRunParams :=
  { jobId, scheduledAt, ownerId, now := h.clock - age, leaseUntil, queueEnabled := true }

def next : Event → History
  | .elapse ms => { h with clock := h.clock + ms }
  | .claim jobHasOwner jobId scheduledAt ownerId age leaseUntil =>
    { h with
      runs := (h.runs.claimRun jobHasOwner
        (h.claimParams jobId scheduledAt ownerId age leaseUntil)).2 }
  | .renew jobHasOwner jobId scheduledAt ownerId leaseUntil updatedAt =>
    { h with runs := (h.runs.renewRunLease jobHasOwner jobId scheduledAt ownerId leaseUntil updatedAt).2 }
  | .defer jobHasOwner jobId scheduledAt ownerId retryAt updatedAt =>
    { h with runs := (h.runs.deferRun jobHasOwner jobId scheduledAt ownerId retryAt updatedAt).2 }
  | .finish jobHasOwner params => { h with runs := (h.runs.finishRun jobHasOwner params).2 }

def start (clock : Int) : History :=
  { runs := ∅, clock }

/-- A job has at most one occurrence that is active and has not expired. -/
def Exclusive : Prop :=
  ∀ (jobId : String) (a b : Int) (ra rb : CronJobRun), h.runs.row jobId a = some ra →
    h.runs.row jobId b = some rb →
    ra.unexpired h.clock = true → rb.unexpired h.clock = true → a = b

/-- No other occurrence of the job is active and has not expired. -/
def Alone (jobId : String) (scheduledAt : Int) : Prop :=
  ∀ (other : Int) (run : CronJobRun), other ≠ scheduledAt → h.runs.row jobId other = some run →
    run.unexpired h.clock = false

/-- An update by its owner takes effect on an occurrence. -/
def Held (jobHasOwner : Bool) (jobId : String) (scheduledAt : Int) (ownerId : String) : Prop :=
  jobHasOwner = true ∧
    ∃ run, h.runs.row jobId scheduledAt = some run ∧ run.status = .running ∧ run.ownerId = some ownerId

def TakesOver (jobHasOwner : Bool) (jobId : String) (scheduledAt : Int) (age : Nat) : Prop :=
  jobHasOwner = true ∧ ∃ run, h.runs.row jobId scheduledAt = some run ∧ run.status.isActive = true ∧
    run.leaseUntil.any (· ≤ h.clock - age) = true

/-- A takeover, a renewal or a deferral that takes effect, and lasts, finds no other occurrence of
the job. -/
def FindsAlone : Event → Prop
  | .claim jobHasOwner jobId scheduledAt _ age leaseUntil =>
    h.TakesOver jobHasOwner jobId scheduledAt age → h.clock < leaseUntil → h.Alone jobId scheduledAt
  | .renew jobHasOwner jobId scheduledAt ownerId leaseUntil _ =>
    h.Held jobHasOwner jobId scheduledAt ownerId → h.clock < leaseUntil → h.Alone jobId scheduledAt
  | .defer jobHasOwner jobId scheduledAt ownerId retryAt _ =>
    h.Held jobHasOwner jobId scheduledAt ownerId → h.clock < retryAt → h.Alone jobId scheduledAt
  | _ => True

variable {h : History} {jobId ownerId : String} {scheduledAt leaseUntil : Int} {run : CronJobRun}
  {jobHasOwner : Bool} {age : Nat}

lemma exclusive_put_iff (exclusive : Exclusive h) :
    Exclusive { h with runs := h.runs.put jobId scheduledAt run } ↔
      (run.unexpired h.clock = true → h.Alone jobId scheduledAt) := by
  constructor
  · intro after lasts other run' ne there
    cases e : run'.unexpired h.clock with
    | false => rfl
    | true =>
      have written : (h.runs.put jobId scheduledAt run).row jobId scheduledAt = some run := by
        rw [CronJobRuns.row_put, if_pos ⟨rfl, rfl⟩]
      have kept : (h.runs.put jobId scheduledAt run).row jobId other = some run' := by
        rw [CronJobRuns.row_put, if_neg fun same => ne same.2.symm]
        exact there
      exact absurd (after jobId other scheduledAt run' run kept written e lasts) ne
  · intro alone job a b ra rb rowA rowB lastsA lastsB
    dsimp only at rowA rowB lastsA lastsB
    rw [CronJobRuns.row_put] at rowA rowB
    split_ifs at rowA with isA
    · obtain ⟨rfl, rfl⟩ := isA
      cases rowA
      split_ifs at rowB with isB
      · exact isB.2
      · by_contra ne
        rw [alone lastsA b rb (Ne.symm ne) rowB] at lastsB
        cases lastsB
    · split_ifs at rowB with isB
      · obtain ⟨rfl, rfl⟩ := isB
        cases rowB
        by_contra ne
        rw [alone lastsB a ra ne rowA] at lastsA
        cases lastsA
      · exact exclusive job a b ra rb rowA rowB lastsA lastsB

lemma exclusive_update_iff (lasts : Prop) (exclusive : Exclusive h) {set : CronJobRun → CronJobRun}
    (sets : ∀ run : CronJobRun, run.status = .running → ((set run).unexpired h.clock = true ↔ lasts)) :
    Exclusive { h with runs := (h.runs.updateHeld jobHasOwner jobId scheduledAt ownerId set).2 } ↔
      (h.Held jobHasOwner jobId scheduledAt ownerId → lasts → h.Alone jobId scheduledAt) := by
  unfold CronJobRuns.updateHeld
  cases there : h.runs.row jobId scheduledAt with
  | none =>
    refine iff_of_true exclusive ?_
    rintro ⟨_, run, there', _⟩
    rw [there] at there'
    cases there'
  | some run =>
    dsimp only
    split_ifs with held
    · obtain ⟨running, owner, hasOwner⟩ := held
      have isHeld : h.Held jobHasOwner jobId scheduledAt ownerId :=
        ⟨hasOwner, run, there, running, owner⟩
      rw [exclusive_put_iff exclusive, sets run running]
      exact ⟨fun alone _ => alone, fun alone => alone isHeld⟩
    · refine iff_of_true exclusive ?_
      rintro ⟨hasOwner, run', there', running, owner⟩
      cases there.symm.trans there'
      exact absurd ⟨running, owner, hasOwner⟩ held

lemma alone_of_inactive (age : Nat) (idle : h.runs.hasActiveRun jobId (h.clock - age) = false)
    (scheduledAt : Int) : h.Alone jobId scheduledAt := by
  intro other run _ there
  cases e : run.unexpired h.clock with
  | false => rfl
  | true =>
    obtain ⟨active, lease⟩ := Bool.and_eq_true_iff.mp e
    have mem : run ∈ Table.values (h.runs.ofJob jobId) := Table.mem_values.mpr ⟨other, there⟩
    have busy := (List.any_eq_false.mp idle) run mem
    cases leaseUntil : run.leaseUntil with
    | none => simp [leaseUntil] at lease
    | some leaseUntil =>
      simp only [leaseUntil, active, Option.any_some, decide_eq_true_eq, Bool.true_and] at lease busy
      omega

lemma exclusive_claim_iff (exclusive : Exclusive h) :
    Exclusive (h.next (.claim jobHasOwner jobId scheduledAt ownerId age leaseUntil)) ↔
      h.FindsAlone (.claim jobHasOwner jobId scheduledAt ownerId age leaseUntil) := by
  unfold next CronJobRuns.claimRun claimParams FindsAlone
  dsimp only
  cases jobHasOwner with
  | false =>
    refine iff_of_true exclusive ?_
    rintro ⟨owner, _⟩
    cases owner
  | true =>
    rw [if_neg (not_not.mpr rfl)]
    cases there : h.runs.row jobId scheduledAt with
    | some run =>
      dsimp only
      split_ifs with expired
      · have taken : h.TakesOver true jobId scheduledAt age := ⟨rfl, run, there, expired⟩
        rw [exclusive_put_iff exclusive]
        simp only [CronJobRun.unexpired, CronRunStatus.isActive, Option.any_some, Bool.true_and,
          decide_eq_true_eq]
        exact ⟨fun alone _ => alone, fun alone => alone taken⟩
      · refine iff_of_true exclusive ?_
        rintro ⟨_, run', there', expired'⟩
        cases there.symm.trans there'
        exact absurd expired' expired
    | none =>
      have notOver : ¬ h.TakesOver true jobId scheduledAt age := by
        rintro ⟨_, run, there', _⟩
        rw [there] at there'
        cases there'
      refine iff_of_true ?_ fun taken => absurd taken notOver
      dsimp only
      split_ifs with busy
      · refine (exclusive_put_iff exclusive).mpr fun lasts => ?_
        simp [CronJobRun.unexpired] at lasts
      · refine (exclusive_put_iff exclusive).mpr fun _ =>
          alone_of_inactive age ?_ scheduledAt
        simpa using busy

lemma exclusive_next_iff (exclusive : Exclusive h) (event : Event) :
    Exclusive (h.next event) ↔ h.FindsAlone event := by
  cases event with
  | elapse ms =>
    -- What has not expired later has not expired now.
    refine iff_true_intro fun job a b ra rb rowA rowB lastsA lastsB => ?_
    have earlier : ∀ run : CronJobRun, run.unexpired (h.clock + ms) = true →
      run.unexpired h.clock = true := by
      intro run lasts
      obtain ⟨active, lease⟩ := Bool.and_eq_true_iff.mp lasts
      refine Bool.and_eq_true_iff.mpr ⟨active, ?_⟩
      cases leaseUntil : run.leaseUntil with
      | none => simp [leaseUntil] at lease
      | some leaseUntil =>
        simp only [leaseUntil, Option.any_some, decide_eq_true_eq] at lease ⊢
        omega
    exact exclusive job a b ra rb rowA rowB (earlier ra lastsA) (earlier rb lastsB)
  | claim jobHasOwner jobId scheduledAt ownerId age leaseUntil => exact exclusive_claim_iff exclusive
  | renew jobHasOwner jobId scheduledAt ownerId leaseUntil updatedAt =>
    refine exclusive_update_iff _ exclusive fun run running => ?_
    simp [CronJobRun.unexpired, running, CronRunStatus.isActive]
  | defer jobHasOwner jobId scheduledAt ownerId retryAt updatedAt =>
    refine exclusive_update_iff _ exclusive fun run running => ?_
    simp [CronJobRun.unexpired, CronRunStatus.isActive]
  | finish jobHasOwner params =>
    refine (exclusive_update_iff False exclusive fun run running => ?_).trans ?_
    · simp [CronJobRun.unexpired]
    · exact iff_true_intro fun _ => False.elim

/-- At every time of a history each job has at most one active occurrence whose lease has not
expired, if and only if every takeover, renewal and deferral that takes effect and lasts finds no
other one. -/
theorem exclusive_iff (clock : Int) (events : List Event) :
    LTS.Throughout next Exclusive (start clock) events ↔ LTS.EnabledAll FindsAlone next
      (start clock) events := by
  have first : Exclusive (start clock) := by
    intro jobId a b ra rb row
    simp [start, CronJobRuns.row, CronJobRuns.ofJob] at row
  rw [LTS.throughout_iff, and_iff_right first]
  refine LTS.enabledAll_iff (Q := Exclusive) (fun h event exclusive => ?_) first
  exact ⟨exclusive_next_iff exclusive event, (exclusive_next_iff exclusive event).mpr⟩

/-- The lease of an occurrence expires, the next one is claimed, and the first one is claimed again.
-/
def reclaimed : List Event :=
  [.claim true "job" 0 "a" 0 60000, .elapse 60000, .claim true "job" 60000 "b" 0 120000,
    .claim true "job" 0 "a" 0 120000]

/-- Both occurrences run under leases that have not expired. -/
theorem reclaimed_both_run : ¬ LTS.Throughout next Exclusive (start 0) reclaimed := by
  rintro ⟨_, _, _, _, exclusive⟩
  let last := reclaimed.foldl next (start 0)
  have first : (last.runs.row "job" 0).map (·.unexpired last.clock) = some true := by decide
  have second : (last.runs.row "job" 60000).map (·.unexpired last.clock) = some true := by decide
  obtain ⟨ra, rowA, lastsA⟩ := Option.map_eq_some_iff.mp first
  obtain ⟨rb, rowB, lastsB⟩ := Option.map_eq_some_iff.mp second
  exact absurd (exclusive "job" 0 60000 ra rb rowA rowB lastsA lastsB) (by decide)

end History

end KiCore.Cron

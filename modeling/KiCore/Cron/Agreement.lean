import KiCore.Cron.Tick
import KiCore.Lib.Pool

/-!
# The timer of a job and its row

Once nothing runs on a job, a timer should be pending for it exactly if its row is there, is enabled
and has a next run, and it should be the timer that the row calls for; no tick should write over
what a user has stored since it read the row, and no tick should leave a job that is due without a
timer.

Ticks and updates carry a copy of the row over steps of others, and `remove_job` cancels the timer
before it deletes the row. `Orderly` says of each step when it does no harm: a call of the scheduler
has to set what the row calls for at that time, a tick has to store before any edit since it read
the row, and a call that ends without a call of the scheduler has to find the job attended. Between
its write and its call of the scheduler, a tick or an update owes the call; `Sound` is what holds
while nothing is owed. `scheduler_agrees` is the result for all runs.
-/

namespace KiCore.Cron

open KiCore.Lib
open CronJobRuns (RecoverableCronRun)

/-- A next run that the schedule yields. -/
inductive Derived (svc : CronService) (schedule : CronSchedule) : Int → Prop where
  | next {now nextRunAt} : svc.computeNextRun schedule now = some nextRunAt →
      Derived svc schedule nextRunAt
  | after {scheduledAt now nextRunAt} :
      svc.computeNextRunAfterOccurrence schedule scheduledAt now = some nextRunAt →
        Derived svc schedule nextRunAt

variable (svc : CronService)

def Recorded (runs : CronJobRuns) (scheduledAt : Int) : Prop :=
  (runs.row svc.jobId scheduledAt).isSome = true

/-- The run records have asked for a retry, of an occurrence that they have a row of. -/
def Asked (runs : CronJobRuns) (asked : List RecoverableCronRun)
    (run : RecoverableCronRun) : Prop :=
  run ∈ asked ∧ Recorded svc runs run.scheduledAt

/-- A timer is the one that the row calls for, or what has become of it by firing, or it retries an
occurrence at the time that the run records have asked for. -/
def Timer.Fits (runs : CronJobRuns) (asked : List RecoverableCronRun) (job : CronJob)
    (timer : Timer) : Prop :=
  (∃ set, job.timer = some set ∧ set.Becomes svc timer) ∨
    ∃ run, timer = .occurrence run.scheduledAt run.wakeAt ∧ Asked svc runs asked run

namespace JobRuntime

variable (svc : CronService) (s : JobRuntime)

def Finished : Prop :=
  (∀ tick ∈ s.ticks, tick.stage = .done) ∧ (∀ update ∈ s.updates, update.stage = .done) ∧
    ∀ removal ∈ s.removals, removal.deleting = false

/-- A timer is pending if and only if the job is due, and it fits the row, whose next run its
schedule yields. -/
def Agrees : Prop :=
  (s.timer.isSome = true ↔ ∃ job, s.row = some job ∧ job.enabled = true ∧ job.nextRunAt.isSome = true) ∧
    ∀ job ∈ s.row, ∀ timer ∈ s.timer,
      timer.Fits svc s.runs s.asked job ∧ ∀ nextRunAt ∈ job.nextRunAt, Derived svc job.schedule nextRunAt

/-- Timer and row agree once nothing is under way, no edit was overwritten, and no tick left the job
stranded. -/
def InAgreement : Prop :=
  (s.Finished → s.Agrees svc) ∧ s.overwritten = false ∧ s.stranded = false

/-- The job is not due, or a timer is pending. -/
def Attended : Prop :=
  s.wanted.isSome = true → s.timer.isSome = true

/-- The row calls for the timer of a copy, by the same schedule. -/
def CallsFor (job : CronJob) : Prop :=
  s.wanted = job.timer ∧ ∀ row ∈ s.row, row.timer.isSome = true → row.schedule = job.schedule

def CallFits : TickStage → Prop
  | .rescheduling job => s.CallsFor job
  | .disabling => s.wanted = none
  | .malformed => s.wanted = none
  | .retrying _ _ => s.wanted.isSome = true
  | _ => True

def FailFits : TickStage → Prop
  | .loading => s.Attended
  | .claiming _ => s.Attended
  | _ => True

/-- A tick that has lost its lease leaves the job attended. -/
def SettleFits (tick : Tick) (now later : Int) (ok : Bool) : Prop :=
  match tick.stage with
  | .settling _ result => (s.settled svc tick result now later ok).1 = false → s.Attended
  | _ => True

/-- No edit was stored since a tick read the row that it writes. -/
def WriteFits (tick : Tick) : Prop :=
  match tick.stage with
  | .writing _ => tick.edits = s.edits ∨ s.row = none
  | _ => True

def UpdateFits (update : Update) : Prop :=
  update.stage = .rescheduling → s.CallsFor update.job

/-- A row is deleted that has no timer, and one that is not deleted is attended. -/
def DeleteFits (ok : Bool) (removal : Removal) : Prop :=
  removal.deleting = true →
    if ok && s.row.any (·.userId = removal.userId) then s.timer = none else s.Attended

/-- A step does no harm to the agreement of timer and row. -/
def Orderly : JobEvent → Prop
  | .tickFail i => ∀ tick ∈ s.ticks[i]?, s.FailFits tick.stage
  | .tickSettle i now later ok => ∀ tick ∈ s.ticks[i]?, s.SettleFits svc tick now later ok
  | .tickWrite i _ _ => ∀ tick ∈ s.ticks[i]?, s.WriteFits tick
  | .tickCall i => ∀ tick ∈ s.ticks[i]?, s.CallFits tick.stage
  | .updateCall i => ∀ update ∈ s.updates[i]?, s.UpdateFits update
  | .removeDelete i ok => ∀ removal ∈ s.removals[i]?, s.DeleteFits ok removal
  | _ => True

instance : Decidable s.Attended :=
  inferInstanceAs (Decidable (_ → _))

instance (job : CronJob) : Decidable (s.CallsFor job) :=
  inferInstanceAs (Decidable (_ ∧ _))

instance : (stage : TickStage) → Decidable (s.CallFits stage)
  | .rescheduling job => inferInstanceAs (Decidable (s.CallsFor job))
  | .disabling | .malformed => inferInstanceAs (Decidable (s.wanted = none))
  | .retrying _ _ => inferInstanceAs (Decidable (s.wanted.isSome = true))
  | .loading | .claiming _ | .tracking _ _ | .executing _ | .settling _ _ | .recovering _
  | .writing _ | .missing | .done => isTrue trivial

instance : (stage : TickStage) → Decidable (s.FailFits stage)
  | .loading | .claiming _ => inferInstanceAs (Decidable s.Attended)
  | .rescheduling _ | .disabling | .retrying _ _ | .tracking _ _ | .executing _ | .settling _ _
  | .recovering _ | .writing _ | .missing | .malformed | .done => isTrue trivial

instance (now later : Int) (ok : Bool) : (tick : Tick) → Decidable (s.SettleFits svc tick now later ok)
  | ⟨scheduledAt, edits, .settling job result⟩ =>
    inferInstanceAs (Decidable
      ((s.settled svc ⟨scheduledAt, edits, .settling job result⟩ result now later ok).1 = false →
        s.Attended))
  | ⟨_, _, .loading⟩ | ⟨_, _, .claiming _⟩ | ⟨_, _, .tracking _ _⟩ | ⟨_, _, .executing _⟩
  | ⟨_, _, .recovering _⟩ | ⟨_, _, .writing _⟩ | ⟨_, _, .rescheduling _⟩ | ⟨_, _, .disabling⟩
  | ⟨_, _, .retrying _ _⟩ | ⟨_, _, .missing⟩ | ⟨_, _, .malformed⟩ | ⟨_, _, .done⟩ => isTrue trivial

instance : (tick : Tick) → Decidable (s.WriteFits tick)
  | ⟨_, edits, .writing _⟩ => inferInstanceAs (Decidable (edits = s.edits ∨ s.row = none))
  | ⟨_, _, .loading⟩ | ⟨_, _, .claiming _⟩ | ⟨_, _, .tracking _ _⟩ | ⟨_, _, .executing _⟩
  | ⟨_, _, .recovering _⟩ | ⟨_, _, .settling _ _⟩ | ⟨_, _, .rescheduling _⟩ | ⟨_, _, .disabling⟩
  | ⟨_, _, .retrying _ _⟩ | ⟨_, _, .missing⟩ | ⟨_, _, .malformed⟩ | ⟨_, _, .done⟩ => isTrue trivial

instance (update : Update) : Decidable (s.UpdateFits update) :=
  inferInstanceAs (Decidable (_ → _))

instance (ok : Bool) (removal : Removal) : Decidable (s.DeleteFits ok removal) :=
  inferInstanceAs (Decidable (_ → _))

instance : (event : JobEvent) → Decidable (s.Orderly svc event)
  | .tickFail i => inferInstanceAs (Decidable (∀ tick ∈ s.ticks[i]?, s.FailFits tick.stage))
  | .tickSettle i now later ok =>
    inferInstanceAs (Decidable (∀ tick ∈ s.ticks[i]?, s.SettleFits svc tick now later ok))
  | .tickWrite i _ _ => inferInstanceAs (Decidable (∀ tick ∈ s.ticks[i]?, s.WriteFits tick))
  | .tickCall i => inferInstanceAs (Decidable (∀ tick ∈ s.ticks[i]?, s.CallFits tick.stage))
  | .updateCall i => inferInstanceAs (Decidable (∀ update ∈ s.updates[i]?, s.UpdateFits update))
  | .removeDelete i ok =>
    inferInstanceAs (Decidable (∀ removal ∈ s.removals[i]?, s.DeleteFits ok removal))
  | .fire _ | .tickLoad _ | .tickMalformed _ | .tickClaim _ _ | .tickTrack _ _ | .tickBeat _ _
  | .tickExecute _ _ | .tickRecover _ _ _ | .updateBegin _ _ | .updateReject _ | .updateWrite _ _ _
  | .removeBegin _ => isTrue trivial

end JobRuntime

def TickStage.owes : TickStage → Bool
  | .rescheduling _ | .disabling => true
  | _ => false

def TickStage.busy : TickStage → Bool
  | .missing | .done => false
  | _ => true

/-- Between its write and its call of the scheduler an update of schedule or enabled flag owes the
call. -/
def Update.owes (update : Update) : Bool :=
  decide (update.stage = .rescheduling) && update.request.reschedules

/-- The next run of a copy comes from its schedule. -/
def CronJob.Yields (svc : CronService) (job : CronJob) : Prop :=
  ∀ nextRunAt ∈ job.nextRunAt, Derived svc job.schedule nextRunAt

namespace JobRuntime

variable {svc : CronService} {s : JobRuntime}

def Settled (s : JobRuntime) : Prop :=
  (∀ tick ∈ s.ticks, tick.stage.owes = false) ∧ ∀ update ∈ s.updates, update.owes = false

def Knows (svc : CronService) (row : Option CronJob) (runs : CronJobRuns)
    (asked : List RecoverableCronRun) : TickStage → Prop
  | .rescheduling job => job.Yields svc
  | .retrying scheduledAt wakeAt => Asked svc runs asked ⟨scheduledAt, wakeAt⟩
  | .missing => row = none
  | _ => True

/-- What holds in every state: of the flags and the calls always, of row and timer while no call of
the scheduler is owed. -/
structure Sound (svc : CronService) (s : JobRuntime) : Prop where
  overwritten : s.overwritten = false
  stranded : s.stranded = false
  knows : ∀ tick ∈ s.ticks, Knows svc s.row s.runs s.asked tick.stage
  copies : ∀ update ∈ s.updates, update.owes = true → update.job.Yields svc
  yields : s.Settled → ∀ job ∈ s.row, job.timer.isSome = true → job.Yields svc
  fits : s.Settled → ∀ timer ∈ s.timer,
    s.wanted.isSome = true ∧ ∀ job ∈ s.row, timer.Fits svc s.runs s.asked job
  attended : s.Settled → (∀ removal ∈ s.removals, removal.deleting = false) → s.wanted.isSome = true →
    s.timer = none → ∃ tick ∈ s.ticks, tick.stage.busy = true

lemma timer_isSome {job : CronJob} :
    job.timer.isSome = true ↔ job.enabled = true ∧ job.nextRunAt.isSome = true := by
  rw [CronJob.timer]
  split
  · rename_i enabled
    rw [Option.isSome_map, and_iff_right enabled]
  · rename_i disabled
    simp only [Option.isSome_none, Bool.false_eq_true, false_iff]
    exact fun due => disabled due.1

lemma wanted_some {job : CronJob} (there : s.row = some job) : s.wanted = job.timer := by
  rw [wanted, there, Option.bind_some]

lemma wanted_none (gone : s.row = none) : s.wanted = none := by
  rw [wanted, gone, Option.bind_none]

lemma row_of_wanted (due : s.wanted.isSome = true) :
    ∃ job, s.row = some job ∧ job.timer.isSome = true := by
  cases there : s.row with
  | none =>
    rw [wanted_none there] at due
    cases due
  | some job => exact ⟨job, rfl, wanted_some there ▸ due⟩

lemma Knows.row {stage : TickStage} {row row' : Option CronJob} {runs : CronJobRuns}
    {asked : List RecoverableCronRun} (knows : Knows svc row runs asked stage)
    (gone : row = none → row' = none) : Knows svc row' runs asked stage := by
  cases stage with
  | missing => exact gone knows
  | _ => exact knows

lemma InAgreement.sound (agreement : s.InAgreement svc) (finished : s.Finished) : s.Sound svc := by
  obtain ⟨pending, fits⟩ := agreement.1 finished
  refine ⟨agreement.2.1, agreement.2.2, ?_, ?_, ?_, ?_, ?_⟩
  · intro tick mem
    rw [finished.1 tick mem]
    trivial
  · intro update mem owes
    rw [Update.owes, finished.2.1 update mem] at owes
    cases owes
  · intro _ job there due
    obtain ⟨timer, set⟩ := Option.isSome_iff_exists.mp (pending.mpr ⟨job, there, timer_isSome.mp due⟩)
    exact (fits job there timer set).2
  · intro _ timer set
    obtain ⟨job, there, due⟩ := pending.mp (Option.isSome_iff_exists.mpr ⟨timer, set⟩)
    refine ⟨?_, fun row known => (fits row known timer set).1⟩
    rw [wanted_some there]
    exact timer_isSome.mpr due
  · intro _ _ due idle
    obtain ⟨job, there, calls⟩ := row_of_wanted due
    have set := pending.mpr ⟨job, there, timer_isSome.mp calls⟩
    rw [idle] at set
    cases set

section Ticks

variable {i : Nat} {tick tick' : Tick}

lemma Sound.grow (sound : s.Sound svc) (runs : CronJobRuns) (asked : List RecoverableCronRun)
    (grow : ∀ run, Asked svc s.runs s.asked run → Asked svc runs asked run) :
    ({ s with runs := runs, asked := asked } : JobRuntime).Sound svc := by
  refine ⟨sound.overwritten, sound.stranded, ?_, sound.copies, sound.yields, ?_, sound.attended⟩
  · intro t mem
    have knows := sound.knows t mem
    cases stage : t.stage with
    | retrying scheduledAt wakeAt =>
      rw [stage] at knows
      exact grow ⟨scheduledAt, wakeAt⟩ knows
    | _ =>
      rw [stage] at knows
      exact knows
  · intro settled timer set
    obtain ⟨due, fits⟩ := sound.fits settled timer set
    refine ⟨due, fun job known => ?_⟩
    obtain own | ⟨run, eq, asks⟩ := fits job known
    · exact .inl own
    · exact .inr ⟨run, eq, grow run asks⟩

/-- Rows of run records stay. -/
lemma Sound.record (sound : s.Sound svc) (runs : CronJobRuns)
    (grow : ∀ at_, Recorded svc s.runs at_ → Recorded svc runs at_) :
    ({ s with runs := runs } : JobRuntime).Sound svc :=
  sound.grow runs s.asked fun _ asks => ⟨asks.1, grow _ asks.2⟩

lemma settled_of_set (there : s.ticks[i]? = some tick) (free : tick.stage.owes = false)
    (settled : (∀ t ∈ s.ticks.set i tick', t.stage.owes = false) ∧
      ∀ update ∈ s.updates, update.owes = false) : s.Settled :=
  ⟨Pool.forall_of_set there settled.1 free, settled.2⟩

section

variable (sound : s.Sound svc)
include sound

lemma Sound.move (there : s.ticks[i]? = some tick)
    (free : tick.stage.owes = false) (knows : Knows svc s.row s.runs s.asked tick'.stage)
    (excuse : s.wanted.isSome = true → s.timer = none → tick'.stage.busy = true) :
    ({ s with ticks := s.ticks.set i tick' } : JobRuntime).Sound svc := by
  refine ⟨sound.overwritten, sound.stranded, Pool.forall_set sound.knows knows, sound.copies, ?_,
    ?_, ?_⟩
  · exact fun settled => sound.yields (settled_of_set there free settled)
  · exact fun settled => sound.fits (settled_of_set there free settled)
  · intro settled removals due idle
    obtain ended | remains := Pool.exists_of_set there
      (sound.attended (settled_of_set there free settled) removals due idle)
    · exact ⟨tick', Pool.mem_set_self there, excuse due idle⟩
    · exact remains

lemma Sound.moveTick (there : s.ticks[i]? = some tick)
    (free : tick.stage.owes = false) {stage : TickStage}
    (knows : Knows svc s.row s.runs s.asked stage) (busy : stage.busy = true) :
    (s.moveTick i tick stage).Sound svc :=
  sound.move there free knows fun _ _ => busy

lemma Sound.call (timer' : Option Timer)
    (yields : (({ s with timer := timer' } : JobRuntime).moveTick i tick .done).Settled →
      ∀ job ∈ s.row, job.timer.isSome = true → job.Yields svc)
    (fits : (({ s with timer := timer' } : JobRuntime).moveTick i tick .done).Settled →
      ∀ timer ∈ timer', s.wanted.isSome = true ∧ ∀ job ∈ s.row, timer.Fits svc s.runs s.asked job)
    (attended : s.wanted.isSome = true → timer'.isSome = true) :
    (({ s with timer := timer' } : JobRuntime).endTick i tick).Sound svc := by
  refine ⟨sound.overwritten, ?_, ?_, sound.copies, yields, fits, ?_⟩
  · show (s.stranded || s.wanted.isSome && timer'.isNone) = false
    rw [sound.stranded, Bool.false_or]
    cases due : s.wanted.isSome with
    | false => rfl
    | true =>
      rw [Bool.true_and, Option.isNone_eq_false_iff]
      exact attended due
  · exact Pool.forall_set sound.knows trivial
  · intro _ _ due idle
    have pending := attended due
    rw [show timer' = none from idle] at pending
    cases pending

lemma Sound.endTick (there : s.ticks[i]? = some tick)
    (free : tick.stage.owes = false) (attended : s.Attended) : (s.endTick i tick).Sound svc :=
  sound.call s.timer (fun settled => sound.yields (settled_of_set there free settled))
    (fun settled => sound.fits (settled_of_set there free settled)) attended

lemma Sound.cancel (idle : s.wanted = none) :
    (({ s with timer := none } : JobRuntime).endTick i tick).Sound svc := by
  refine sound.call none (fun _ row known due => ?_)
    (fun _ _ mem => (Option.not_mem_none _ mem).elim) fun due => ?_
  · rw [← wanted_some known, idle] at due
    cases due
  · rw [idle] at due
    cases due

lemma Sound.fire (now : Int) : (s.fire svc now).Sound svc := by
  rw [JobRuntime.fire]
  split
  · exact sound
  · rename_i timer set
    have before : ∀ {t : Tick}, (∀ tick ∈ s.ticks ++ [t], tick.stage.owes = false) →
        (∀ update ∈ s.updates, update.owes = false) → s.Settled := fun ticks updates =>
      ⟨fun tick mem => ticks tick (List.mem_append_left _ mem), updates⟩
    refine ⟨sound.overwritten, sound.stranded, ?_, sound.copies, ?_, ?_, ?_⟩
    · exact Pool.forall_append sound.knows trivial
    · exact fun settled => sound.yields (before settled.1 settled.2)
    · intro settled after left
      obtain ⟨due, fits⟩ := sound.fits (before settled.1 settled.2) timer set
      refine ⟨due, fun job known => ?_⟩
      obtain ⟨first, own, becomes⟩ | ⟨run, rfl, -⟩ := fits job known
      · exact .inl ⟨first, own, .fired now becomes left⟩
      · cases left
    · exact fun _ _ _ _ => ⟨_, List.mem_append_right _ (List.mem_singleton_self _), rfl⟩

section

variable (there : s.ticks[i]? = some tick)
include there

lemma Sound.tickLoad : (s.tickLoad i tick).Sound svc := by
  rw [JobRuntime.tickLoad]
  split
  · rename_i loading
    have free : tick.stage.owes = false := by rw [loading]; rfl
    split
    · rename_i gone
      refine sound.move there free gone fun due _ => ?_
      rw [wanted_none gone] at due
      cases due
    · rename_i job known
      split
      · exact sound.move there free trivial fun _ _ => rfl
      · rename_i disabled
        refine sound.move there free trivial fun due _ => ?_
        rw [wanted_some known, timer_isSome] at due
        exact (disabled due.1).elim
  · exact sound

lemma Sound.tickMalformed : (s.tickMalformed i tick).Sound svc := by
  rw [JobRuntime.tickMalformed]
  split
  · rename_i loading
    split
    · exact sound.moveTick there (by rw [loading]; rfl) trivial rfl
    · exact sound
  · exact sound

lemma Sound.tickFail (fits : s.FailFits tick.stage) : (s.tickFail i tick).Sound svc := by
  rw [JobRuntime.tickFail]
  split
  · rename_i loading
    rw [loading] at fits
    exact sound.endTick there (by rw [loading]; rfl) fits
  · rename_i job claiming
    rw [claiming] at fits
    exact sound.endTick there (by rw [claiming]; rfl) fits
  · exact sound

lemma Sound.tickClaim (now : Int) : (s.tickClaim svc i now tick).Sound svc := by
  rw [JobRuntime.tickClaim]
  split
  · rename_i job claiming
    have free : tick.stage.owes = false := by rw [claiming]; rfl
    have claimed := fun params => sound.record (s.runs.claimRun s.jobHasOwner params).2
      fun _ recorded => CronJobRuns.claimRun_row_isSome recorded
    dsimp only
    split
    · exact (claimed _).moveTick there free trivial rfl
    · exact (claimed _).moveTick there free trivial rfl
    · exact (claimed _).moveTick there free trivial rfl
  · exact sound

lemma Sound.retry
    (free : tick.stage.owes = false) {run : RecoverableCronRun} (recorded : Recorded svc s.runs run.scheduledAt) :
    (s.retry i tick run).Sound svc :=
  (sound.grow s.runs (run :: s.asked) fun _ asks => ⟨List.mem_cons_of_mem _ asks.1, asks.2⟩).moveTick there
    free ⟨List.mem_cons_self, recorded⟩ rfl

lemma Sound.retryOr
    (free : tick.stage.owes = false) (now : Int) (tie : Option Nat) {stage : TickStage}
    (knows : Knows svc s.row s.runs s.asked stage) (busy : stage.busy = true) :
    (s.retryOr svc i tick now tie stage).Sound svc := by
  rw [JobRuntime.retryOr]
  split
  · rename_i run found
    obtain ⟨_, -, found⟩ := Option.bind_eq_some_iff.mp found
    exact sound.retry there free (CronJobRuns.row_of_recoverable found)
  · exact sound.moveTick there free knows busy

lemma Sound.tickTrack (tie : Option Nat) : (s.tickTrack svc i tie tick).Sound svc := by
  rw [JobRuntime.tickTrack]
  split
  · rename_i job claimNow tracking
    exact sound.retryOr there (by rw [tracking]; rfl) claimNow tie trivial rfl
  · exact sound

lemma Sound.tickRecover (now : Int) (tie : Option Nat) :
    (s.tickRecover svc i now tie tick).Sound svc := by
  rw [JobRuntime.tickRecover]
  split
  · rename_i job recovering
    exact sound.retryOr there (by rw [recovering]; rfl) now tie trivial rfl
  · exact sound

lemma Sound.tickExecute (result : ExecutionResult) : (s.tickExecute i result tick).Sound svc := by
  rw [JobRuntime.tickExecute]
  split
  · rename_i job executing
    exact sound.moveTick there (by rw [executing]; rfl) trivial rfl
  · exact sound

end

lemma Sound.tickBeat (now : Int) : (s.tickBeat svc now tick).Sound svc := by
  rw [JobRuntime.tickBeat]
  split
  · exact sound.record _ fun _ recorded => CronJobRuns.updateHeld_row_isSome recorded
  · exact sound

end

lemma settled_grow (svc : CronService) (s : JobRuntime) (tick : Tick) (result : ExecutionResult)
    (now later : Int) (ok : Bool) :
    (∀ at_, Recorded svc s.runs at_ → Recorded svc (s.settled svc tick result now later ok).2 at_) ∧
      ((s.settled svc tick result now later ok).1 = true → Recorded svc s.runs tick.scheduledAt) := by
  rw [JobRuntime.settled]
  split
  · -- a run is finished or deferred by the same statement
    cases result <;>
      exact ⟨fun _ recorded => CronJobRuns.updateHeld_row_isSome recorded,
        CronJobRuns.row_of_updateHeld⟩
  · exact ⟨fun _ recorded => recorded, fun h => (Bool.false_ne_true h).elim⟩

section

variable (sound : s.Sound svc)
include sound

variable (there : s.ticks[i]? = some tick)
include there

lemma Sound.tickSettle (now later : Int) (ok : Bool) (fits : s.SettleFits svc tick now later ok) :
    (s.tickSettle svc i now later ok tick).Sound svc := by
  rw [JobRuntime.tickSettle]
  split
  · rename_i job result settling
    have free : tick.stage.owes = false := by rw [settling]; rfl
    rw [SettleFits, settling] at fits
    obtain ⟨grow, record⟩ := settled_grow svc s tick result now later ok
    have updated := sound.record _ grow
    dsimp only at fits ⊢
    split
    · rename_i affected
      split
      · exact updated.retry there free (grow _ (record affected))
      · exact updated.moveTick there free trivial rfl
      · exact updated.moveTick there free trivial rfl
      · exact updated.moveTick there free trivial rfl
    · rename_i refused
      rw [Bool.not_eq_true] at refused
      exact updated.endTick there free (fits refused)
  · exact sound

lemma Sound.owed {row : Option CronJob}
    {overwritten : Bool} (clean : overwritten = false) (gone : s.row = none → row = none) {stage : TickStage}
    (knows : Knows svc row s.runs s.asked stage) (owes : stage.owes = true) :
    (({ s with row := row, overwritten := overwritten } : JobRuntime).moveTick i tick stage).Sound
      svc := by
  have debt : ∀ {P : Prop},
      (({ s with row := row, overwritten := overwritten } : JobRuntime).moveTick i tick
        stage).Settled → P := by
    intro P settled
    have call := settled.1 { tick with stage := stage } (Pool.mem_set_self there)
    rw [owes] at call
    cases call
  exact ⟨clean, sound.stranded, Pool.forall_set (fun t mem => (sound.knows t mem).row gone) knows,
    sound.copies, debt, debt, debt⟩

lemma Sound.bookkeep
    (order : tick.edits = s.edits ∨ s.row = none) (ok : Bool) (store : CronJob → CronJob)
    {stage : TickStage} (knows : ∀ row, Knows svc row s.runs s.asked stage) (owes : stage.owes = true) :
    ((s.bookkeep tick ok store).moveTick i tick stage).Sound svc := by
  rw [JobRuntime.bookkeep]
  split
  · refine sound.owed there ?_ (fun gone => ?_) (knows _) owes
    · rw [sound.overwritten, Bool.false_or, decide_eq_false_iff_not]
      rintro ⟨stale, changed⟩
      obtain same | gone := order
      · exact stale same
      · rw [gone] at changed
        exact changed rfl
    · rw [gone, Option.map_none]
  · exact sound.owed there sound.overwritten (fun gone => gone) (knows _) owes

lemma Sound.tickWrite (now : Int) (ok : Bool)
    (fits : s.WriteFits tick) : (s.tickWrite svc i now ok tick).Sound svc := by
  rw [JobRuntime.tickWrite]
  split
  · rename_i job writing
    rw [WriteFits, writing] at fits
    split
    · exact sound.bookkeep there fits ok _ (fun _ => trivial) rfl
    · rename_i schedule _ known
      refine sound.bookkeep there fits ok _ (fun _ nextRunAt mem => ?_) rfl
      exact .after mem
  · exact sound

end

lemma CallsFor.yields {job : CronJob} (calls : s.CallsFor job) (copy : job.Yields svc) :
    ∀ row ∈ s.row, row.timer.isSome = true → row.Yields svc := by
  intro row known due nextRunAt mem
  have schedule := calls.2 row known due
  have timers := calls.1
  rw [wanted_some known] at timers
  obtain ⟨enabled, -⟩ := timer_isSome.mp due
  obtain ⟨enabled', next'⟩ := timer_isSome.mp (timers ▸ due)
  obtain ⟨next, known'⟩ := Option.isSome_iff_exists.mp next'
  rw [CronJob.timer, CronJob.timer, if_pos enabled, if_pos enabled', mem, known', schedule,
    Option.map_some, Option.map_some, Option.some_inj] at timers
  rw [schedule]
  have same : nextRunAt = next := by
    split at timers
    · cases timers
      rfl
    · cases timers
      rfl
    · cases timers
      rfl
  rw [same]
  exact copy next known'

lemma Sound.tickCall (sound : s.Sound svc) (there : s.ticks[i]? = some tick)
    (fits : s.CallFits tick.stage) : (s.tickCall i tick).Sound svc := by
  have knows := sound.knows tick (List.mem_of_getElem? there)
  rw [JobRuntime.tickCall]
  split
  · rename_i job rescheduling
    rw [rescheduling] at fits knows
    refine sound.call _ (fun _ => fits.yields knows) (fun _ timer set => ?_) fun due => fits.1 ▸ due
    rw [← fits.1] at set
    refine ⟨Option.isSome_iff_exists.mpr ⟨timer, set⟩, fun row known => ?_⟩
    rw [wanted_some known] at set
    exact .inl ⟨timer, set, .refl⟩
  · rename_i disabling
    rw [disabling] at fits
    exact sound.cancel fits
  · rename_i scheduledAt wakeAt retrying
    rw [retrying] at fits knows
    have free : tick.stage.owes = false := by rw [retrying]; rfl
    refine sound.call _ (fun settled => sound.yields (settled_of_set there free settled))
      (fun _ timer set => ?_)
      fun _ => rfl
    cases set
    exact ⟨fits, fun _ _ => .inr ⟨⟨scheduledAt, wakeAt⟩, rfl, knows⟩⟩
  · rename_i missing
    rw [missing] at knows
    exact sound.cancel (wanted_none knows)
  · rename_i malformed
    rw [malformed] at fits
    exact sound.cancel fits
  · exact sound

end Ticks

section Edits

variable {i : Nat} {update update' : Update} {removal : Removal}

lemma Sound.moveUpdate (sound : s.Sound svc) (there : s.updates[i]? = some update)
    (free : update.owes = false) (free' : update'.owes = false) :
    ({ s with updates := s.updates.set i update' } : JobRuntime).Sound svc := by
  have before : (({ s with updates := s.updates.set i update' } : JobRuntime).Settled) → s.Settled :=
    fun settled => ⟨settled.1, Pool.forall_of_set there settled.2 free⟩
  refine ⟨sound.overwritten, sound.stranded, sound.knows, Pool.forall_set sound.copies fun owes => ?_,
    fun settled => sound.yields (before settled), fun settled => sound.fits (before settled),
    fun settled => sound.attended (before settled)⟩
  rw [free'] at owes
  cases owes

lemma Sound.updateBegin (sound : s.Sound svc) (userId : String) (request : UpdateCronJobRequest) :
    (s.updateBegin userId request).Sound svc := by
  rw [JobRuntime.updateBegin]
  split
  · exact sound
  · split
    · have before : ∀ {u : Update}, (∀ tick ∈ s.ticks, tick.stage.owes = false) →
          (∀ update ∈ s.updates ++ [u], update.owes = false) → s.Settled := fun ticks updates =>
        ⟨ticks, fun update mem => updates update (List.mem_append_left _ mem)⟩
      exact ⟨sound.overwritten, sound.stranded, sound.knows,
        Pool.forall_append sound.copies fun owes => (Bool.false_ne_true owes).elim,
        fun settled => sound.yields (before settled.1 settled.2),
        fun settled => sound.fits (before settled.1 settled.2),
        fun settled => sound.attended (before settled.1 settled.2)⟩
    · exact sound

lemma owes_of_stage (stage : update.stage ≠ .rescheduling) : update.owes = false := by
  rw [Update.owes, decide_eq_false stage, Bool.false_and]

lemma owes_of_request (quiet : update.request.reschedules = false) : update.owes = false := by
  rw [Update.owes, quiet, Bool.and_false]

lemma Sound.updateReject (sound : s.Sound svc) (there : s.updates[i]? = some update) :
    (s.updateReject i update).Sound svc := by
  rw [JobRuntime.updateReject]
  split
  · rename_i writing
    refine sound.moveUpdate there (owes_of_stage ?_) (owes_of_stage ?_)
    · rw [writing]
      exact fun h => nomatch h
    · exact fun h => nomatch h
  · exact sound

lemma store_quiet {request : UpdateCronJobRequest} (quiet : request.reschedules = false)
    (job row : CronJob) :
    (request.store job row).timer = row.timer ∧ (request.store job row).schedule = row.schedule ∧
      (request.store job row).nextRunAt = row.nextRunAt := by
  have fields := quiet
  rw [UpdateCronJobRequest.reschedules, Bool.or_eq_false_iff, Option.isSome_eq_false_iff,
    Option.isSome_eq_false_iff, Option.isNone_iff_eq_none, Option.isNone_iff_eq_none] at fields
  have enabled : (request.store job row).enabled = row.enabled := by
    rw [UpdateCronJobRequest.store, fields.2, Option.getD_none]
  have schedule : (request.store job row).schedule = row.schedule := by
    rw [UpdateCronJobRequest.store, fields.1, Option.isSome_none, if_neg Bool.false_ne_true]
  have next : (request.store job row).nextRunAt = row.nextRunAt := by
    rw [UpdateCronJobRequest.store, quiet, if_neg Bool.false_ne_true]
  refine ⟨?_, schedule, next⟩
  rw [CronJob.timer, CronJob.timer, enabled, schedule, next]

variable (sound : s.Sound svc)
include sound

lemma Sound.storeQuiet {request : UpdateCronJobRequest}
    (quiet : request.reschedules = false) (job : CronJob) :
    ({ s with row := s.row.map (request.store job) } : JobRuntime).Sound svc := by
  have same : ({ s with row := s.row.map (request.store job) } : JobRuntime).wanted = s.wanted := by
    rw [wanted, wanted]
    cases s.row with
    | none => rfl
    | some row => exact (store_quiet quiet job row).1
  refine ⟨sound.overwritten, sound.stranded,
    fun tick mem => (sound.knows tick mem).row fun gone => ?_, sound.copies, ?_, ?_, ?_⟩
  · rw [gone, Option.map_none]
  · intro settled stored mem due nextRunAt next
    obtain ⟨row, known, rfl⟩ := Option.map_eq_some_iff.mp mem
    obtain ⟨timer, schedule, nexts⟩ := store_quiet quiet job row
    rw [schedule]
    rw [timer] at due
    exact sound.yields settled row known due nextRunAt (nexts ▸ next)
  · intro settled timer set
    obtain ⟨due, fits⟩ := sound.fits settled timer set
    rw [same]
    refine ⟨due, fun stored mem => ?_⟩
    obtain ⟨row, known, rfl⟩ := Option.map_eq_some_iff.mp mem
    rw [Timer.Fits, (store_quiet quiet job row).1]
    exact fits row known
  · rw [same]
    exact sound.attended

lemma Sound.owedUpdate (there : s.updates[i]? = some update) {row : Option CronJob} {edits : Nat}
    (gone : s.row = none → row = none) (owes : update'.owes = true) (copy : update'.job.Yields svc) :
    ({ s with row := row, edits := edits, updates := s.updates.set i update' } : JobRuntime).Sound
      svc := by
  have debt : ∀ {P : Prop},
      ({ s with
          row := row, edits := edits, updates := s.updates.set i update' } : JobRuntime).Settled →
        P := by
    intro P settled
    have call := settled.2 update' (Pool.mem_set_self there)
    rw [owes] at call
    cases call
  exact ⟨sound.overwritten, sound.stranded, fun tick mem => (sound.knows tick mem).row gone,
    Pool.forall_set sound.copies fun _ => copy, debt, debt, debt⟩

lemma Sound.updateWrite (there : s.updates[i]? = some update) (now : Int) (ok : Bool) :
    (s.updateWrite svc i now ok update).Sound svc := by
  rw [JobRuntime.updateWrite]
  split
  · rename_i writing
    have free : update.owes = false := owes_of_stage (by rw [writing]; exact fun h => nomatch h)
    have ended : ∀ {u : Update}, u.stage = .done → u.owes = false := fun h =>
      owes_of_stage (by rw [h]; exact fun h => nomatch h)
    dsimp only
    split
    · split
      · rename_i empty
        refine sound.moveUpdate there free (owes_of_request ?_)
        rw [UpdateCronJobRequest.isEmpty, Bool.and_eq_true, Bool.and_eq_true,
          Bool.not_eq_true'] at empty
        exact empty.1.1
      · split
        · rename_i mine
          cases reschedules : update.request.reschedules with
          | false =>
            simp only [Bool.false_eq_true, if_false]
            have stored := sound.storeQuiet reschedules update.job
            exact stored.moveUpdate there free (owes_of_request reschedules)
          | true =>
            simp only [if_true]
            refine sound.owedUpdate there (fun gone => ?_) ?_ fun nextRunAt next => .next next
            · rw [gone, Option.map_none]
            · rw [Update.owes, reschedules]
              rfl
        · exact sound.moveUpdate there free (ended rfl)
    · exact sound.moveUpdate there free (ended rfl)
  · exact sound

lemma Sound.updateCall (there : s.updates[i]? = some update) (fits : s.UpdateFits update) :
    (s.updateCall i update).Sound svc := by
  rw [JobRuntime.updateCall]
  split
  · rename_i rescheduling
    have calls := fits rescheduling
    have ended : ({ update with stage := .done } : Update).owes = false :=
      owes_of_stage fun h => nomatch h
    refine ⟨sound.overwritten, sound.stranded, sound.knows, Pool.forall_set sound.copies fun owes => ?_,
      fun settled => ?_, fun _ timer set => ?_, fun _ _ due idle => ?_⟩
    · rw [ended] at owes
      cases owes
    · cases owes : update.owes with
      | true => exact calls.yields (sound.copies update (List.mem_of_getElem? there) owes)
      | false => exact sound.yields ⟨settled.1, Pool.forall_of_set there settled.2 owes⟩
    · have set : s.wanted = some timer := calls.1.trans set
      refine ⟨Option.isSome_iff_exists.mpr ⟨timer, set⟩, fun row known => .inl ⟨timer, ?_, .refl⟩⟩
      have known : s.row = some row := known
      rw [← wanted_some known, set]
    · have due : s.wanted.isSome = true := due
      rw [show s.wanted = none from calls.1.trans idle] at due
      cases due
  · exact sound

lemma Sound.removeBegin (userId : String) : (s.removeBegin userId).Sound svc := by
  refine ⟨sound.overwritten, sound.stranded, sound.knows, sound.copies, sound.yields,
    fun _ _ mem => (Option.not_mem_none _ mem).elim, fun _ removals => ?_⟩
  have pending := removals _ (List.mem_append_right _ (List.mem_singleton_self _))
  cases pending

lemma Sound.removeDelete (ok : Bool) (fits : s.DeleteFits ok removal) :
    (s.removeDelete i ok removal).Sound svc := by
  rw [JobRuntime.removeDelete]
  split
  · rename_i deleting
    have fits := fits deleting
    split
    · rename_i deletes
      rw [if_pos deletes] at fits
      refine ⟨sound.overwritten, sound.stranded,
        fun tick mem => (sound.knows tick mem).row fun _ => rfl, sound.copies,
        fun _ _ mem => (Option.not_mem_none _ mem).elim, fun _ timer set => ?_, fun _ _ due => ?_⟩
      · rw [fits] at set
        cases set
      · cases due
    · rename_i kept
      rw [if_neg kept] at fits
      refine ⟨sound.overwritten, sound.stranded, sound.knows, sound.copies, sound.yields, sound.fits,
        fun _ _ due idle => ?_⟩
      have pending := fits due
      rw [show s.timer = none from idle] at pending
      cases pending
  · exact sound

end Edits

lemma Sound.onCall {α : Type} {calls : List α} {i : Nat} {go : α → JobRuntime} (sound : s.Sound svc)
    (step : ∀ call, calls[i]? = some call → (go call).Sound svc) : (s.onCall calls i go).Sound svc := by
  rw [JobRuntime.onCall]
  cases there : calls[i]? with
  | none => exact sound
  | some call => exact step call there

lemma Sound.next (sound : s.Sound svc) (event : JobEvent) (orderly : s.Orderly svc event) :
    (s.next svc event).Sound svc := by
  cases event with
  | fire now => exact sound.fire now
  | tickLoad i => exact sound.onCall fun _ there => sound.tickLoad there
  | tickMalformed i => exact sound.onCall fun _ there => sound.tickMalformed there
  | tickFail i => exact sound.onCall fun tick there => sound.tickFail there (orderly tick there)
  | tickClaim i now => exact sound.onCall fun _ there => sound.tickClaim there now
  | tickTrack i tie => exact sound.onCall fun _ there => sound.tickTrack there tie
  | tickBeat i now => exact sound.onCall fun _ _ => sound.tickBeat now
  | tickExecute i result => exact sound.onCall fun _ there => sound.tickExecute there result
  | tickSettle i now later ok =>
    exact sound.onCall fun tick there => sound.tickSettle there now later ok (orderly tick there)
  | tickRecover i now tie => exact sound.onCall fun _ there => sound.tickRecover there now tie
  | tickWrite i now ok =>
    exact sound.onCall fun tick there => sound.tickWrite there now ok (orderly tick there)
  | tickCall i => exact sound.onCall fun tick there => sound.tickCall there (orderly tick there)
  | updateBegin userId request => exact sound.updateBegin userId request
  | updateReject i => exact sound.onCall fun _ there => sound.updateReject there
  | updateWrite i now ok => exact sound.onCall fun _ there => sound.updateWrite there now ok
  | updateCall i => exact sound.onCall fun update there => sound.updateCall there (orderly update there)
  | removeBegin userId => exact sound.removeBegin userId
  | removeDelete i ok =>
    exact sound.onCall fun removal there => sound.removeDelete ok (orderly removal there)

def toSchedule (schedule : CronSchedule) : UpdateCronJobRequest where
  enabled := none
  schedule := some schedule
  queueEnabled := none
  others := false

/-- A tick from its timer to its call of the scheduler, then an edit, and then a removal. -/
def inTurn : List JobEvent :=
  [.fire 10, .tickLoad 0, .tickClaim 0 10, .tickExecute 0 (.success "c"), .tickSettle 0 20 20 true,
    .tickRecover 0 20 (some 0), .tickWrite 0 20 true, .tickCall 0,
    .updateBegin "u" (toSchedule (.at_ 900 none)), .updateWrite 0 30 true, .updateCall 0,
    .removeBegin "u", .removeDelete 0 true]

end JobRuntime

end KiCore.Cron

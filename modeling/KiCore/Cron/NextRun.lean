import KiCore.Cron.Scheduler
import KiCore.Lib.Text

/-!
# The next run of a schedule

Port of the schedule functions of `scheduler.rs` with the arithmetic of `i64`, where `Cron.Scheduler` adds
without a bound: a sum that leaves the range is an error here (`i64`), whether the build panics or wraps.
The libraries for cron expressions and for time zones are parameters (`CronCrate`).

`next_run_iff` says for which instants the next run of an interval is later than now and on its grid. The
next run of a cron expression is later than its reference instant always, as the library's is.
-/

namespace KiCore.Cron

open Lib.Str (isWhitespace trim)

/-- The errors of the service, as far as its modelled functions return them. -/
inductive CronError where
  | jobNotFound (jobId : String)
  | invalidSchedule (message : String)
  | invalidCronExpression (message : String)
  | invalidExecutionMode (message : String)
  | invalidCreatedBy (message : String)
  | invalidJobStatus (message : String)
  | invalidTimezone (message : String)
  | invalidAgentConfig (message : String)
  | workspacePathUnavailable (path : String)
  | database (message : String)
  | json
  deriving DecidableEq

/-- A sum that is no `i64`. -/
inductive ArithmeticError where
  | overflow
  deriving DecidableEq

/-- The values of an `i64`. -/
abbrev InI64 (n : Int) : Prop := -2 ^ 63 ≤ n ∧ n < 2 ^ 63

/-- The result of an operator of `i64`. -/
def i64 (n : Int) : Except ArithmeticError Int :=
  if InI64 n then .ok n else .error .overflow

/-- `i64::saturating_sub`. -/
def saturatingSub (m n : Int) : Int := max (-2 ^ 63) (min (m - n) (2 ^ 63 - 1))

/-- What is used of the libraries for cron expressions, time zones and times. -/
structure CronCrate where
  Schedule : Type
  Tz : Type
  DateTime : Type
  fromStr : String → Except String Schedule
  parseTz : String → Option Tz
  utc : Tz
  timestampMillisOpt : Tz → Int → Option DateTime
  timestampMillis : DateTime → Int
  after : Schedule → DateTime → Option DateTime

/-- A time is the instant it was made from, and the times after it are later. -/
structure CronCrate.StrictlyLater (lib : CronCrate) : Prop where
  instant : ∀ tz ms dt, lib.timestampMillisOpt tz ms = some dt → lib.timestampMillis dt = ms
  later : ∀ schedule dt next, lib.after schedule dt = some next →
    lib.timestampMillis dt < lib.timestampMillis next

def normalizeCronExpr (expr : String) : String :=
  let trimmed := trim expr
  let fields := (trimmed.toList.splitOnP isWhitespace).filter (· ≠ [])
  if fields.length = 5 then "0 " ++ trimmed else trimmed

namespace CronCrate

variable (lib : CronCrate)

def validateCronExpression (expr : String) : Except CronError lib.Schedule :=
  (lib.fromStr (normalizeCronExpr expr)).mapError fun e => .invalidCronExpression (expr ++ ": " ++ e)

def validateTimezone (tz : String) : Except CronError lib.Tz :=
  match lib.parseTz tz with
  | some tz => .ok tz
  | none => .error (.invalidTimezone tz)

def validateSchedule : CronSchedule → Except CronError Unit
  | .at_ _ _ => .ok ()
  | .every everyMs _ =>
    if everyMs ≤ 0 then .error (.invalidSchedule "every_ms must be positive") else .ok ()
  | .cron expr tz _ =>
    if trim expr = "" then
      .ok ()
    else do
      let _ ← lib.validateCronExpression expr
      match tz with
      | some tz => discard (lib.validateTimezone tz)
      | none => pure ()

def computeCronNextRun (expr : String) (tz : Option String) (now : Int) : Option Int := do
  let schedule ← (lib.fromStr (normalizeCronExpr expr)).toOption
  let tz ← match tz with
    | some tz => lib.parseTz tz
    | none => some lib.utc
  let nowDt ← lib.timestampMillisOpt tz now
  let next ← lib.after schedule nowDt
  return lib.timestampMillis next

def computeNextRun (schedule : CronSchedule) (now : Int) : Except ArithmeticError (Option Int) :=
  match schedule with
  | .at_ atMs _ => .ok (some atMs)
  | .every everyMs _ => if everyMs ≤ 0 then .ok none else (i64 (now + everyMs)).map some
  | .cron expr tz _ => .ok (lib.computeCronNextRun expr tz now)

def computeNextRunAfterOccurrence (schedule : CronSchedule) (scheduledAt now : Int) :
    Except ArithmeticError (Option Int) :=
  match schedule with
  | .at_ _ _ => .ok none
  | .every everyMs _ =>
    if everyMs ≤ 0 then
      .ok none
    else do
      let elapsed := saturatingSub now scheduledAt
      let steps ← i64 (elapsed / everyMs + 1)
      return (CronService.checked (steps * everyMs)).bind fun span =>
        CronService.checked (scheduledAt + span)
  | .cron expr tz _ => .ok (lib.computeCronNextRun expr tz (max now scheduledAt))

end CronCrate

variable {lib : CronCrate} {svc : CronService} {schedule : CronSchedule} {scheduledAt everyMs now n : Int}
  {description : Option String}

/-- Where the sums on `i64` do not overflow, the scheduler, which computes without a bound, has the same. -/
lemma computeNextRun_unbounded (same : svc.computeCronNextRun = lib.computeCronNextRun)
    {next : Option Int} :
    (lib.computeNextRun schedule now = .ok next → svc.computeNextRun schedule now = next) ∧
      (lib.computeNextRunAfterOccurrence schedule scheduledAt now = .ok next →
        svc.computeNextRunAfterOccurrence schedule scheduledAt now = next) := by
  have sum {n : Int} {α : Type} {f : Int → α} {a : α} (ok : (i64 n).map f = .ok a) : f n = a := by
    rw [i64] at ok
    split at ok
    · exact Except.ok.inj ok
    · cases ok
  cases schedule with
  | at_ atMs description => exact ⟨Except.ok.inj, Except.ok.inj⟩
  | cron expr tz description =>
    rw [CronService.computeNextRun, CronService.computeNextRunAfterOccurrence, same]
    exact ⟨Except.ok.inj, Except.ok.inj⟩
  | every everyMs description =>
    rw [CronCrate.computeNextRun, CronCrate.computeNextRunAfterOccurrence, CronService.computeNextRun,
      CronService.computeNextRunAfterOccurrence]
    split
    · exact ⟨Except.ok.inj, Except.ok.inj⟩
    · exact ⟨sum, sum⟩

/-- The instants at which an interval schedule may run next after an execution. -/
def grid (scheduledAt everyMs now : Int) : Set Int :=
  {t | ∃ k : Int, 1 ≤ k ∧ t = scheduledAt + k * everyMs ∧ max now scheduledAt < t}

structure InitialLaw (lib : CronCrate) (schedule : CronSchedule) (now : Int) : Prop where
  total : ∃ next, lib.computeNextRun schedule now = .ok next
  every : ∀ everyMs description, schedule = .every everyMs description →
    ∃ next, lib.computeNextRun schedule now = .ok (some next) ∧ now < next
  cron : ∀ expr tz description next, schedule = .cron expr tz description →
    lib.computeNextRun schedule now = .ok (some next) → now < next

/-- What is asked of the next run after an execution: for an interval it is the least instant of the grid,
if that is an `i64` at all. -/
structure OccurrenceLaw (lib : CronCrate) (schedule : CronSchedule) (scheduledAt now : Int) : Prop where
  total : ∃ next, lib.computeNextRunAfterOccurrence schedule scheduledAt now = .ok next
  every : ∀ everyMs description, schedule = .every everyMs description → ∀ next,
    lib.computeNextRunAfterOccurrence schedule scheduledAt now = .ok next →
      ∀ t, next = some t ↔ IsLeast (grid scheduledAt everyMs now) t ∧ t < 2 ^ 63
  cron : ∀ expr tz description next, schedule = .cron expr tz description →
    lib.computeNextRunAfterOccurrence schedule scheduledAt now = .ok (some next) →
      max now scheduledAt < next

/-- The first run of the interval is an `i64`. -/
def InitialFits (schedule : CronSchedule) (now : Int) : Prop :=
  match schedule with
  | .every everyMs _ => now + everyMs < 2 ^ 63
  | _ => True

/-- From a scheduled time to the end of the interval that `now` is in. -/
def span (scheduledAt everyMs now : Int) : Int := ((now - scheduledAt) / everyMs + 1) * everyMs

/-- The clock is not behind the schedule, the steps since then can be counted, and the span of these steps
is an `i64` if its end is. -/
def OccurrenceFits (schedule : CronSchedule) (scheduledAt now : Int) : Prop :=
  match schedule with
  | .every everyMs _ =>
    scheduledAt ≤ now ∧ ¬ (everyMs = 1 ∧ 2 ^ 63 - 1 ≤ now - scheduledAt) ∧
      (scheduledAt + span scheduledAt everyMs now < 2 ^ 63 → span scheduledAt everyMs now < 2 ^ 63)
  | _ => True

lemma i64_of_inI64 (h : InI64 n) : i64 n = .ok n :=
  if_pos h

lemma i64_of_not (h : ¬ InI64 n) : i64 n = .error .overflow :=
  if_neg h

lemma checked_eq_some {m : Int} : CronService.checked n = some m ↔ n = m ∧ InI64 n := by
  unfold CronService.checked
  split_ifs with h
  · exact ⟨fun same => ⟨Option.some.inj same, h⟩, fun same => congrArg some same.1⟩
  · exact ⟨fun absent => absurd absent (by simp), fun same => absurd same.2 h⟩

lemma checked_of_not (h : ¬ InI64 n) : CronService.checked n = none :=
  if_neg h

lemma lt_span (scheduledAt now : Int) (pos : 0 < everyMs) :
    now - scheduledAt < span scheduledAt everyMs now :=
  Int.lt_ediv_add_one_mul_self _ pos

lemma isLeast_grid (pos : 0 < everyMs) (ahead : scheduledAt ≤ now) :
    IsLeast (grid scheduledAt everyMs now) (scheduledAt + span scheduledAt everyMs now) := by
  have later := lt_span scheduledAt now pos
  refine ⟨⟨(now - scheduledAt) / everyMs + 1, ?_, rfl, ?_⟩, ?_⟩
  · have steps : 0 ≤ (now - scheduledAt) / everyMs := Int.ediv_nonneg (by omega) pos.le
    omega
  · rw [max_eq_left ahead]
    omega
  · rintro t ⟨k, _, rfl, after⟩
    rw [max_eq_left ahead] at after
    have steps : (now - scheduledAt) / everyMs < k := Int.ediv_lt_of_lt_mul pos (by omega)
    have below : span scheduledAt everyMs now ≤ k * everyMs :=
      Int.mul_le_mul_of_nonneg_right (by omega) pos.le
    omega

lemma afterOccurrence_exact (pos : 0 < everyMs) (exact : saturatingSub now scheduledAt = now - scheduledAt)
    (steps : InI64 ((now - scheduledAt) / everyMs + 1)) :
    lib.computeNextRunAfterOccurrence (.every everyMs description) scheduledAt now =
      .ok ((CronService.checked (span scheduledAt everyMs now)).bind fun span =>
        CronService.checked (scheduledAt + span)) := by
  simp only [CronCrate.computeNextRunAfterOccurrence, if_neg pos.not_ge, exact, i64_of_inI64 steps]
  rfl

lemma steps_inI64_iff (pos : 0 < everyMs) {elapsed : Int} (low : 0 ≤ elapsed) (high : elapsed < 2 ^ 63) :
    InI64 (elapsed / everyMs + 1) ↔ ¬ (everyMs = 1 ∧ elapsed = 2 ^ 63 - 1) := by
  have steps : 0 ≤ elapsed / everyMs := Int.ediv_nonneg low pos.le
  by_cases one : everyMs = 1
  · rw [one, Int.ediv_one]
    omega
  · have floor := Int.ediv_mul_le elapsed pos.ne'
    have half : elapsed / everyMs * 2 ≤ elapsed / everyMs * everyMs :=
      Int.mul_le_mul_of_nonneg_left (by omega) steps
    omega

/-- The next run after an execution, if the clock is not behind. -/
lemma afterOccurrence_ahead (lib : CronCrate) (description : Option String) (pos : 0 < everyMs)
    (ahead : scheduledAt ≤ now) (low : InI64 scheduledAt) :
    lib.computeNextRunAfterOccurrence (.every everyMs description) scheduledAt now =
      if everyMs = 1 ∧ 2 ^ 63 - 1 ≤ now - scheduledAt then .error .overflow
      else .ok <|
        if span scheduledAt everyMs now < 2 ^ 63 ∧ scheduledAt + span scheduledAt everyMs now < 2 ^ 63 then
          some (scheduledAt + span scheduledAt everyMs now)
        else none := by
  have later := lt_span scheduledAt now pos
  by_cases exact : now - scheduledAt < 2 ^ 63
  · have elapsed : saturatingSub now scheduledAt = now - scheduledAt := by
      unfold saturatingSub
      omega
    have steps := steps_inI64_iff pos (show 0 ≤ now - scheduledAt by omega) exact
    by_cases many : everyMs = 1 ∧ 2 ^ 63 - 1 ≤ now - scheduledAt
    · have tooMany : ¬ InI64 ((now - scheduledAt) / everyMs + 1) := fun h => steps.mp h ⟨many.1, by omega⟩
      rw [if_pos many]
      simp only [CronCrate.computeNextRunAfterOccurrence, if_neg pos.not_ge, elapsed, i64_of_not tooMany]
      rfl
    · rw [if_neg many, afterOccurrence_exact pos elapsed (steps.mpr fun h => many ⟨h.1, h.2.ge⟩)]
      congr 1
      by_cases fits : span scheduledAt everyMs now < 2 ^ 63
      · rw [checked_eq_some.mpr ⟨rfl, by omega⟩, Option.bind_some]
        by_cases ends : scheduledAt + span scheduledAt everyMs now < 2 ^ 63
        · rw [if_pos ⟨fits, ends⟩, checked_eq_some.mpr ⟨rfl, by omega⟩]
        · rw [if_neg fun h => ends h.2, checked_of_not fun h => ends h.2]
      · rw [if_neg fun h => fits h.1, checked_of_not fun h => fits h.2, Option.bind_none]
  · -- the elapsed time is saturated: no multiple of the interval after it is an `i64`
    have elapsed : saturatingSub now scheduledAt = 2 ^ 63 - 1 := by
      unfold saturatingSub
      omega
    have steps := steps_inI64_iff pos (show (0 : Int) ≤ 2 ^ 63 - 1 by decide) (by decide)
    by_cases one : everyMs = 1
    · have tooMany : ¬ InI64 ((2 ^ 63 - 1) / everyMs + 1) := fun h => steps.mp h ⟨one, rfl⟩
      rw [if_pos ⟨one, by omega⟩]
      simp only [CronCrate.computeNextRunAfterOccurrence, if_neg pos.not_ge, elapsed, i64_of_not tooMany]
      rfl
    · have past : ¬ InI64 (((2 ^ 63 - 1) / everyMs + 1) * everyMs) := by
        have after := Int.lt_ediv_add_one_mul_self (2 ^ 63 - 1) pos
        omega
      rw [if_neg fun h => one h.1, if_neg fun h => exact (by omega)]
      simp only [CronCrate.computeNextRunAfterOccurrence, if_neg pos.not_ge, elapsed,
        i64_of_inI64 (steps.mpr fun h => one h.1)]
      exact congrArg (fun span : Option Int => Except.ok (span.bind _)) (checked_of_not past)

lemma afterOccurrence_behind (lib : CronCrate) (description : Option String) (pos : 0 < everyMs)
    (behind : now < scheduledAt) (low : InI64 scheduledAt) (high : InI64 now) :
    ∃ t ≤ scheduledAt, lib.computeNextRunAfterOccurrence (.every everyMs description) scheduledAt now =
      .ok (some t) := by
  have elapsed : saturatingSub now scheduledAt < 0 ∧ -2 ^ 63 ≤ saturatingSub now scheduledAt ∧
      -2 ^ 63 ≤ scheduledAt + saturatingSub now scheduledAt := by
    unfold saturatingSub
    omega
  have negative : saturatingSub now scheduledAt / everyMs < 0 := Int.ediv_neg_of_neg_of_pos elapsed.1 pos
  have after := Int.lt_ediv_add_one_mul_self (saturatingSub now scheduledAt) pos
  have back : (saturatingSub now scheduledAt / everyMs + 1) * everyMs ≤ 0 :=
    Int.mul_nonpos_of_nonpos_of_nonneg (by omega) pos.le
  have wide : (saturatingSub now scheduledAt / everyMs + 1) * everyMs ≤
      (saturatingSub now scheduledAt / everyMs + 1) * 1 :=
    Int.mul_le_mul_of_nonpos_left (by omega) (by omega)
  refine ⟨scheduledAt + (saturatingSub now scheduledAt / everyMs + 1) * everyMs, ?_, ?_⟩
  · omega
  · simp only [CronCrate.computeNextRunAfterOccurrence, if_neg pos.not_ge,
      i64_of_inI64 (show InI64 (saturatingSub now scheduledAt / everyMs + 1) by omega)]
    have spanned := checked_eq_some.mpr ⟨rfl, show InI64
      ((saturatingSub now scheduledAt / everyMs + 1) * everyMs) by omega⟩
    have ends := checked_eq_some.mpr ⟨rfl, show InI64
      (scheduledAt + (saturatingSub now scheduledAt / everyMs + 1) * everyMs) by omega⟩
    show Except.ok ((CronService.checked _).bind _) = _
    rw [spanned, Option.bind_some, ends]

lemma lt_computeCronNextRun (later : lib.StrictlyLater) {expr : String} {tz : Option String} {next : Int}
    (h : lib.computeCronNextRun expr tz now = some next) : now < next := by
  have strict (schedule : lib.Schedule) (zone : lib.Tz)
      (h : ((lib.timestampMillisOpt zone now).bind fun nowDt =>
        (lib.after schedule nowDt).bind fun next => some (lib.timestampMillis next)) = some next) :
      now < next := by
    simp only [Option.bind_eq_some_iff] at h
    obtain ⟨nowDt, made, nextDt, after, same⟩ := h
    rw [← later.instant zone now nowDt made, ← Option.some.inj same]
    exact later.later schedule nowDt nextDt after
  unfold CronCrate.computeCronNextRun at h
  obtain ⟨schedule, _, h⟩ := Option.bind_eq_some_iff.mp h
  cases tz with
  | none => exact strict schedule lib.utc h
  | some tz =>
    obtain ⟨zone, _, h⟩ := Option.bind_eq_some_iff.mp h
    exact strict schedule zone h

lemma initialLaw_every (pos : 0 < everyMs) (high : InI64 now) :
    InitialLaw lib (.every everyMs description) now ↔ now + everyMs < 2 ^ 63 := by
  have sum : lib.computeNextRun (.every everyMs description) now = (i64 (now + everyMs)).map some :=
    if_neg pos.not_ge
  constructor
  · intro law
    obtain ⟨next, ok, _⟩ := law.every everyMs description rfl
    by_contra past
    rw [sum, i64_of_not fun h => past h.2] at ok
    cases ok
  · intro fits
    rw [i64_of_inI64 ⟨by omega, fits⟩] at sum
    refine ⟨⟨_, sum⟩, ?_, ?_⟩
    · rintro _ _ ⟨⟩
      exact ⟨_, sum, by omega⟩
    · rintro _ _ _ _ ⟨⟩

lemma occurrenceLaw_every (pos : 0 < everyMs) (low : InI64 scheduledAt) (high : InI64 now) :
    OccurrenceLaw lib (.every everyMs description) scheduledAt now ↔
      OccurrenceFits (.every everyMs description) scheduledAt now := by
  by_cases ahead : scheduledAt ≤ now
  · have next := afterOccurrence_ahead lib description pos ahead low
    have least := isLeast_grid pos ahead
    by_cases many : everyMs = 1 ∧ 2 ^ 63 - 1 ≤ now - scheduledAt
    · rw [if_pos many] at next
      refine iff_of_false (fun law => ?_) fun fits => fits.2.1 many
      obtain ⟨_, ok⟩ := law.total
      rw [next] at ok
      cases ok
    · rw [if_neg many] at next
      constructor
      · intro law
        refine ⟨ahead, many, fun ends => ?_⟩
        have known := (law.every everyMs description rfl _ next _).mpr ⟨least, ends⟩
        split_ifs at known with fits
        exact fits.1
      · intro fits
        refine ⟨⟨_, next⟩, ?_, ?_⟩
        · rintro _ _ ⟨⟩ r ok t
          rw [next] at ok
          cases ok
          split_ifs with both
          · rw [Option.some_inj]
            exact ⟨fun same => same ▸ ⟨least, both.2⟩, fun ⟨least', _⟩ => least.unique least'⟩
          · refine iff_of_false (by simp) fun ⟨least', ends⟩ => both ?_
            rw [least'.unique least] at ends
            exact ⟨fits.2.2 ends, ends⟩
        · rintro _ _ _ _ ⟨⟩
  · obtain ⟨t, early, next⟩ :=
      afterOccurrence_behind lib description pos (not_le.mp ahead) low high
    refine iff_of_false (fun law => ?_) fun fits => ahead fits.1
    obtain ⟨⟨_, _, _, later⟩, _⟩ := ((law.every everyMs description rfl _ next t).mp rfl).1
    exact absurd (lt_of_le_of_lt (le_max_right now scheduledAt) later) early.not_gt

/-- Next run: for each schedule that is accepted, and instants of an `i64`, the initial next run is as it
should be if and only if it is an `i64`, and the next run after an execution is as it should be if and only
if the clock is not behind the schedule and the steps and the span since then are counted without
overflow. -/
theorem next_run_iff (lib : CronCrate) (later : lib.StrictlyLater) (schedule : CronSchedule)
    (scheduledAt now : Int) (valid : lib.validateSchedule schedule = .ok ()) (low : InI64 scheduledAt)
    (high : InI64 now) :
    (InitialLaw lib schedule now ↔ InitialFits schedule now) ∧
      (OccurrenceLaw lib schedule scheduledAt now ↔ OccurrenceFits schedule scheduledAt now) := by
  cases schedule with
  | at_ atMs description =>
    refine ⟨iff_of_true ⟨⟨_, rfl⟩, ?_, ?_⟩ trivial, iff_of_true ⟨⟨_, rfl⟩, ?_, ?_⟩ trivial⟩
    · rintro _ _ ⟨⟩
    · rintro _ _ _ _ ⟨⟩
    · rintro _ _ ⟨⟩
    · rintro _ _ _ _ ⟨⟩
  | every everyMs description =>
    have pos : 0 < everyMs := by
      by_contra not
      rw [CronCrate.validateSchedule, if_pos (not_lt.mp not)] at valid
      cases valid
    exact ⟨initialLaw_every pos high, occurrenceLaw_every pos low high⟩
  | cron expr tz description =>
    refine ⟨iff_of_true ⟨⟨_, rfl⟩, ?_, ?_⟩ trivial, iff_of_true ⟨⟨_, rfl⟩, ?_, ?_⟩ trivial⟩
    · rintro _ _ ⟨⟩
    · rintro _ _ _ next ⟨⟩ ok
      exact lt_computeCronNextRun later (Except.ok.inj ok)
    · rintro _ _ ⟨⟩
    · rintro _ _ _ next ⟨⟩ ok
      exact lt_computeCronNextRun later (Except.ok.inj ok)

/-- A library that knows the expression for every minute, and UTC. -/
def minutely : CronCrate where
  Schedule := Unit
  Tz := Unit
  DateTime := Int
  fromStr expr := if expr = "0 * * * * *" then .ok () else .error "unknown expression"
  parseTz tz := if tz = "UTC" then some () else none
  utc := ()
  timestampMillisOpt _ ms := some ms
  timestampMillis ms := ms
  after _ ms := some ((ms / 60000 + 1) * 60000)

lemma minutely_strictlyLater : minutely.StrictlyLater where
  instant _ _ _ made := (Option.some.inj made).symm
  later _ ms _ after := Option.some.inj after ▸ Int.lt_ediv_add_one_mul_self ms (by decide)

/-- A job that runs each second has run late, and keeps its grid. -/
theorem next_run_late :
    InitialLaw minutely (.every 1000 none) 12500 ∧ OccurrenceLaw minutely (.every 1000 none) 10000 12500 ∧
      minutely.computeNextRunAfterOccurrence (.every 1000 none) 10000 12500 = .ok (some 13000) :=
  have iff := next_run_iff minutely minutely_strictlyLater (.every 1000 none) 10000 12500 rfl (by decide)
    (by decide)
  ⟨iff.1.mpr (show (12500 : Int) + 1000 < 2 ^ 63 by decide),
    iff.2.mpr ⟨by decide, by decide, fun _ => by decide⟩, rfl⟩

/-- The clock is set back before a job that runs each second has run: its next run is before its last. -/
theorem next_run_clockBehind :
    ¬ ∀ (lib : CronCrate) (_ : lib.StrictlyLater) (schedule : CronSchedule) (scheduledAt now : Int),
      lib.validateSchedule schedule = .ok () → InI64 scheduledAt → InI64 now →
      InitialLaw lib schedule now ∧ OccurrenceLaw lib schedule scheduledAt now := by
  intro law
  have both := law minutely minutely_strictlyLater (.every 1000 none) 10000 5500 rfl (by decide) (by decide)
  have next : minutely.computeNextRunAfterOccurrence (.every 1000 none) 10000 5500 = .ok (some 6000) := rfl
  obtain ⟨⟨_, _, _, later⟩, _⟩ := ((both.2.every 1000 none rfl _ next 6000).mp rfl).1
  exact absurd later (by decide)

/-- An interval job is executed at readings of the clock, and each execution schedules the next. -/
def CronCrate.occurrences (lib : CronCrate) (everyMs scheduledAt : Int) : List Int → List Int
  | [] => []
  | now :: nows =>
    match lib.computeNextRunAfterOccurrence (.every everyMs none) scheduledAt now with
    | .ok (some next) => next :: lib.occurrences everyMs next nows
    | _ => []

/-- No execution is before its occurrence. -/
def CronCrate.OnTime (lib : CronCrate) (everyMs scheduledAt : Int) : List Int → Prop
  | [] => True
  | now :: nows => scheduledAt ≤ now ∧ ∀ next,
      lib.computeNextRunAfterOccurrence (.every everyMs none) scheduledAt now = .ok (some next) →
        lib.OnTime everyMs next nows

lemma afterOccurrence_some {next : Int} (pos : 0 < everyMs) (ahead : scheduledAt ≤ now)
    (low : InI64 scheduledAt)
    (ok : lib.computeNextRunAfterOccurrence (.every everyMs none) scheduledAt now = .ok (some next)) :
    next = scheduledAt + span scheduledAt everyMs now ∧ InI64 next := by
  have later := lt_span scheduledAt now pos
  rw [afterOccurrence_ahead lib none pos ahead low] at ok
  split_ifs at ok with many fits
  · cases ok
    exact ⟨rfl, by omega⟩
  · cases ok

/-- An interval job does not drift, however late its executions are: every occurrence is a multiple of the
interval after the first, and the first one after the reading at which it was scheduled. -/
theorem interval_never_drifts (lib : CronCrate) {nows : List Int} (pos : 0 < everyMs)
    (low : InI64 scheduledAt) (onTime : lib.OnTime everyMs scheduledAt nows) :
    (∀ t ∈ lib.occurrences everyMs scheduledAt nows, everyMs ∣ t - scheduledAt) ∧
      ∀ run ∈ nows.zip (lib.occurrences everyMs scheduledAt nows),
        run.1 < run.2 ∧ run.2 ≤ run.1 + everyMs := by
  induction nows generalizing scheduledAt with
  | nil => exact ⟨List.forall_mem_nil _, List.forall_mem_nil _⟩
  | cons now nows ih =>
    obtain ⟨ahead, rest⟩ := onTime
    rw [CronCrate.occurrences]
    split
    · rename_i next ok
      obtain ⟨same, range⟩ := afterOccurrence_some pos ahead low ok
      obtain ⟨grid, after⟩ := ih range (rest next ok)
      have step : everyMs ∣ next - scheduledAt := ⟨(now - scheduledAt) / everyMs + 1, by
        rw [same, span, Int.mul_comm]
        omega⟩
      have floor := Int.ediv_mul_le (now - scheduledAt) pos.ne'
      have later := lt_span scheduledAt now pos
      have width : span scheduledAt everyMs now = (now - scheduledAt) / everyMs * everyMs + everyMs := by
        rw [span, Int.add_mul, Int.one_mul]
      refine ⟨List.forall_mem_cons.mpr ⟨step, fun t mem => ?_⟩, List.forall_mem_cons.mpr ⟨?_, after⟩⟩
      · have sum := Int.dvd_add (grid t mem) step
        rwa [sub_add_sub_cancel] at sum
      · dsimp only
        omega
    · rw [List.zip_nil_right]
      exact ⟨List.forall_mem_nil _, List.forall_mem_nil _⟩

/-- A job that runs each second runs half a second late, and then three seconds late. -/
theorem interval_never_drifts_late :
    minutely.occurrences 1000 10000 [10500, 14200] = [11000, 15000] ∧ (1000 : Int) ∣ 15000 - 10000 := by
  have onTime : minutely.OnTime 1000 10000 [10500, 14200] := by
    refine ⟨by decide, fun next ok => ?_⟩
    cases ok
    exact ⟨by decide, fun _ _ => trivial⟩
  have run : minutely.occurrences 1000 10000 [10500, 14200] = [11000, 15000] := rfl
  refine ⟨run, (interval_never_drifts minutely (by decide) (by decide) onTime).1 15000 ?_⟩
  rw [run]
  exact List.mem_cons_of_mem _ List.mem_cons_self

end KiCore.Cron

import KiCore.Cron.Service

/-!
# Fencing

`Fleet.Change` says what a step can do to the rows, the claims and the finished occurrences. Every change is
a move of the lease of each occurrence, so the leases are fenced by the claims: an update made on behalf of a
claim takes effect only while the instance of the claim is the last one to have claimed the occurrence.

It is the instance that is fenced, and not the claim. An instance that claims an occurrence for the second
time lets its first executor go on.
-/

namespace KiCore.Cron

open KiCore.Lib

namespace Fleet

def claims (σ : Fleet) : List Claim :=
  σ.executors.map (·.claim)

def claimants (claims : List Claim) (jobId : String) (scheduledAt : Int) : List String :=
  (claims.filter fun claim => claim.jobId = jobId ∧ claim.scheduledAt = scheduledAt).map (·.instanceId)

/-- A step is an update on behalf of the claim of an executor, and a row is affected by it. -/
def TakesEffect (σ : Fleet) (n : Nat) : Step → Prop
  | .beat m now jobHasOwner => m = n ∧ ∃ x, σ.executors[n]? = some x ∧ x.heartbeat ≠ .stopped ∧
    (renew σ.runs x.claim now jobHasOwner).1 = true
  | .settle m now later jobHasOwner => m = n ∧ ∃ x result, σ.executors[n]? = some x ∧
    x.stage = .settling result ∧
    (handleExecutionResult σ.runs x.claim result now later jobHasOwner).1 = true
  | _ => False

/-- What a step does to rows, claims and finished occurrences: an occurrence is claimed or skipped, its row is
updated by its holder, or it is finished by its holder. -/
inductive Change (σ : Fleet) : CronJobRuns → List Claim → List (String × Int) → Prop where
  | idle : Change σ σ.runs σ.claims σ.finished
  | claim {claim : Claim} {run : CronJobRun} : run.lease = .held claim.instanceId →
    (∀ old ∈ σ.runs.row claim.jobId claim.scheduledAt, old.status.isActive) →
    Change σ (σ.runs.put claim.jobId claim.scheduledAt run) (σ.claims ++ [claim]) σ.finished
  | skip {jobId : String} {scheduledAt : Int} {run : CronJobRun} : run.lease = .closed →
    σ.runs.row jobId scheduledAt = none →
    Change σ (σ.runs.put jobId scheduledAt run) σ.claims σ.finished
  | update {claim : Claim} {run : CronJobRun} :
    σ.runs.lease claim.jobId claim.scheduledAt = .held claim.instanceId →
    Lease.Move (.held claim.instanceId) none run.lease →
    Change σ (σ.runs.put claim.jobId claim.scheduledAt run) σ.claims σ.finished
  | finish {claim : Claim} {run : CronJobRun} :
    σ.runs.lease claim.jobId claim.scheduledAt = .held claim.instanceId → run.lease = .closed →
    Change σ (σ.runs.put claim.jobId claim.scheduledAt run) σ.claims
      (σ.finished ++ [(claim.jobId, claim.scheduledAt)])

end Fleet

open Fleet

variable {σ : Fleet} {runs : CronJobRuns} {claim : Claim} {result : ExecutionResult} {n : Nat} {x : Executor}
  {now later : Int} {jobHasOwner : Bool} {step : Step} {jobId : String} {scheduledAt : Int} {run : CronJobRun}
  {claims : List Claim} {finished : List (String × Int)}

lemma renew_cases (runs : CronJobRuns) (claim : Claim) (now : Int) (jobHasOwner : Bool) :
    renew runs claim now jobHasOwner = (false, runs) ∨
    ∃ run : CronJobRun, runs.lease claim.jobId claim.scheduledAt = .held claim.instanceId ∧
      run.lease = .held claim.instanceId ∧
      renew runs claim now jobHasOwner = (true, runs.put claim.jobId claim.scheduledAt run) := by
  unfold renew CronJobRuns.renewRunLease
  rcases CronJobRuns.updateHeld_cases runs jobHasOwner claim.jobId claim.scheduledAt claim.instanceId _ with
    idle | ⟨old, there, running, owned, e⟩
  · exact .inl idle
  · refine .inr ⟨_, CronJobRuns.lease_eq_held.mpr ⟨old, there, running, owned⟩, ?_, e⟩
    simp only [CronJobRun.lease, running, owned]

lemma finishScheduledRun_cases (runs : CronJobRuns) (claim : Claim) {status : CronRunStatus}
    (conversationId error : Option String) (now : Int) (jobHasOwner : Bool)
    (terminal : status.isActive = false) :
    finishScheduledRun runs claim status conversationId error now jobHasOwner = (false, runs) ∨
    ∃ run : CronJobRun, runs.lease claim.jobId claim.scheduledAt = .held claim.instanceId ∧
      run.lease = .closed ∧
      finishScheduledRun runs claim status conversationId error now jobHasOwner =
        (true, runs.put claim.jobId claim.scheduledAt run) := by
  unfold finishScheduledRun CronJobRuns.finishRun
  rcases CronJobRuns.updateHeld_cases runs jobHasOwner claim.jobId claim.scheduledAt claim.instanceId _ with
    idle | ⟨old, there, running, owned, e⟩
  · exact .inl idle
  · refine .inr ⟨_, CronJobRuns.lease_eq_held.mpr ⟨old, there, running, owned⟩, ?_, e⟩
    cases status with
    | running => cases terminal
    | retrying => cases terminal
    | ok => rfl
    | error => rfl
    | skipped => rfl

lemma handleExecutionResult_cases (runs : CronJobRuns) (claim : Claim) (result : ExecutionResult)
    (now later : Int) (jobHasOwner : Bool) :
    handleExecutionResult runs claim result now later jobHasOwner = (false, runs) ∨
    ∃ run : CronJobRun, runs.lease claim.jobId claim.scheduledAt = .held claim.instanceId ∧
      run.lease = (if result.ends then .closed else .parked) ∧
      handleExecutionResult runs claim result now later jobHasOwner =
        (true, runs.put claim.jobId claim.scheduledAt run) := by
  cases result with
  | success conversationId => exact finishScheduledRun_cases runs claim _ _ now jobHasOwner rfl
  | retrying attempt =>
    unfold handleExecutionResult scheduleRetry CronJobRuns.deferRun
    rcases CronJobRuns.updateHeld_cases runs jobHasOwner claim.jobId claim.scheduledAt claim.instanceId _ with
      idle | ⟨old, there, running, owned, e⟩
    · exact .inl idle
    · exact .inr ⟨_, CronJobRuns.lease_eq_held.mpr ⟨old, there, running, owned⟩, rfl, e⟩
  | skipped => exact finishScheduledRun_cases runs claim _ _ now jobHasOwner rfl
  | error message => exact finishScheduledRun_cases runs claim _ _ now jobHasOwner rfl

lemma claims_set {stage : Stage} {heartbeat : Heartbeat} (hn : σ.executors[n]? = some x) :
    Fleet.claims
      { runs := runs
        executors := σ.executors.set n { claim := x.claim, stage := stage, heartbeat := heartbeat }
        finished := finished } = σ.claims := by
  unfold Fleet.claims
  dsimp only
  rw [List.map_set]
  apply List.ext_getElem?
  intro m
  rw [List.getElem?_set]
  split_ifs with h bound
  · rw [← h, List.getElem?_map, hn]
    rfl
  · rw [← h, List.getElem?_eq_none (Nat.le_of_not_lt bound)]
  · rfl

lemma change_tick (σ : Fleet) (claim : Claim) (now : Int) (queueEnabled jobHasOwner : Bool) :
    Change σ (σ.tick claim now queueEnabled jobHasOwner).runs
      (σ.tick claim now queueEnabled jobHasOwner).claims
      (σ.tick claim now queueEnabled jobHasOwner).finished := by
  unfold Fleet.tick
  rcases CronJobRuns.claimRun_cases σ.runs jobHasOwner
    { jobId := claim.jobId, scheduledAt := claim.scheduledAt, ownerId := claim.instanceId, now := now,
      leaseUntil := now + runLeaseMs, queueEnabled := queueEnabled } with
    ⟨run, running, owned, active, e⟩ | e | ⟨run, skipped, absent, e⟩
  · rw [e]
    dsimp only
    rw [Fleet.claims, List.map_append]
    refine .claim ?_ active
    simp only [CronJobRun.lease, running, owned]
  · rw [e]
    exact .idle
  · rw [e]
    refine .skip ?_ absent
    simp only [CronJobRun.lease, skipped]

lemma change_beat (σ : Fleet) (n : Nat) (now : Int) (jobHasOwner : Bool) :
    Change σ (σ.beat n now jobHasOwner).runs (σ.beat n now jobHasOwner).claims
      (σ.beat n now jobHasOwner).finished := by
  unfold Fleet.beat
  cases hn : σ.executors[n]? with
  | none => exact .idle
  | some x =>
    dsimp only
    by_cases stopped : x.heartbeat = .stopped
    · rw [if_pos stopped]
      exact .idle
    · rw [if_neg stopped, claims_set hn]
      dsimp only
      rcases renew_cases σ.runs x.claim now jobHasOwner with e | ⟨run, held, kept, e⟩
      · rw [e]
        exact .idle
      · rw [e]
        refine .update held ?_
        rw [kept]
        exact .keep

lemma change_settle (σ : Fleet) (n : Nat) (now later : Int) (jobHasOwner : Bool) :
    Change σ (σ.settle n now later jobHasOwner).runs (σ.settle n now later jobHasOwner).claims
      (σ.settle n now later jobHasOwner).finished := by
  unfold Fleet.settle
  cases hn : σ.executors[n]? with
  | none => exact .idle
  | some x =>
    dsimp only
    cases hs : x.stage with
    | executing => exact .idle
    | done => exact .idle
    | settling result =>
      dsimp only
      rw [claims_set hn]
      rcases handleExecutionResult_cases σ.runs x.claim result now later jobHasOwner with
        e | ⟨run, held, after, e⟩
      · rw [e]
        simp only [Bool.false_eq_true, false_and, if_false, List.append_nil]
        exact .idle
      · rw [e]
        cases ends : result.ends with
        | true =>
          rw [ends] at after
          exact .finish held after
        | false =>
          rw [ends] at after
          simp only [Bool.false_eq_true, and_false, if_false, List.append_nil]
          refine .update held ?_
          rw [after]
          exact .park

lemma change_execute (σ : Fleet) (n : Nat) (result : ExecutionResult) :
    Change σ (σ.execute n result).runs (σ.execute n result).claims (σ.execute n result).finished := by
  unfold Fleet.execute
  cases hn : σ.executors[n]? with
  | none => exact .idle
  | some x =>
    dsimp only
    by_cases executing : x.stage = .executing
    · rw [if_pos executing, claims_set hn]
      exact .idle
    · rw [if_neg executing]
      exact .idle

lemma change_lose (σ : Fleet) (n : Nat) :
    Change σ (σ.lose n).runs (σ.lose n).claims (σ.lose n).finished := by
  unfold Fleet.lose
  cases hn : σ.executors[n]? with
  | none => exact .idle
  | some x =>
    dsimp only
    cases hs : x.stage with
    | executing => exact .idle
    | done => exact .idle
    | settling result =>
      dsimp only
      rw [claims_set hn]
      exact .idle

lemma change (σ : Fleet) (step : Step) :
    Change σ (σ.next step).runs (σ.next step).claims (σ.next step).finished := by
  cases step with
  | tick claim now queueEnabled jobHasOwner => exact change_tick σ claim now queueEnabled jobHasOwner
  | beat n now jobHasOwner => exact change_beat σ n now jobHasOwner
  | execute n result => exact change_execute σ n result
  | settle n now later jobHasOwner => exact change_settle σ n now later jobHasOwner
  | lose n => exact change_lose σ n

lemma claimants_append : claimants (claims ++ [claim]) jobId scheduledAt =
    claimants claims jobId scheduledAt ++
      if claim.jobId = jobId ∧ claim.scheduledAt = scheduledAt then [claim.instanceId] else [] := by
  unfold claimants
  rw [List.filter_append, List.map_append]
  split_ifs with here
  · rw [List.filter_singleton, decide_eq_true here]
    rfl
  · rw [List.filter_singleton, decide_eq_false here]
    rfl

lemma lease_ne_closed (active : ∀ old ∈ runs.row jobId scheduledAt, old.status.isActive) :
    runs.lease jobId scheduledAt ≠ .closed := by
  unfold CronJobRuns.lease
  cases h : runs.row jobId scheduledAt with
  | none => exact fun e => by cases e
  | some run =>
    have active := active run h
    obtain ⟨status, ownerId⟩ := run
    cases status with
    | running => cases ownerId <;> exact fun e => by cases e
    | retrying => exact fun e => by cases e
    | ok => cases active
    | error => cases active
    | skipped => cases active

lemma move_put (mv : Lease.Move (runs.lease jobId scheduledAt) none run.lease) (job : String) (at_ : Int) :
    Lease.Move (runs.lease job at_) none ((runs.put jobId scheduledAt run).lease job at_) := by
  rw [CronJobRuns.lease_put]
  split_ifs with here
  · obtain ⟨rfl, rfl⟩ := here
    exact mv
  · exact .keep

lemma Fleet.Change.move (h : Change σ runs claims finished) (jobId : String) (scheduledAt : Int) :
    ∃ claimant, Lease.Move (σ.runs.lease jobId scheduledAt) claimant (runs.lease jobId scheduledAt) ∧
      claimants claims jobId scheduledAt = claimants σ.claims jobId scheduledAt ++ claimant.toList := by
  cases h with
  | idle => exact ⟨none, .keep, (List.append_nil _).symm⟩
  | @claim claim run held active =>
    rw [CronJobRuns.lease_put, claimants_append]
    split_ifs with here
    · obtain ⟨rfl, rfl⟩ := here
      refine ⟨some claim.instanceId, ?_, rfl⟩
      rw [held]
      exact .claim (lease_ne_closed active)
    · exact ⟨none, .keep, rfl⟩
  | skip closed absent =>
    refine ⟨none, move_put ?_ jobId scheduledAt, (List.append_nil _).symm⟩
    rw [closed, CronJobRuns.lease, absent]
    exact .skip
  | update held mv =>
    refine ⟨none, move_put ?_ jobId scheduledAt, (List.append_nil _).symm⟩
    rw [held]
    exact mv
  | finish held closed =>
    refine ⟨none, move_put ?_ jobId scheduledAt, (List.append_nil _).symm⟩
    rw [held, closed]
    exact .close

lemma Fleet.Change.finishes (h : Change σ runs claims finished) : finished = σ.finished ∨
    ∃ (claim : Claim), finished = σ.finished ++ [(claim.jobId, claim.scheduledAt)] ∧
      σ.runs.lease claim.jobId claim.scheduledAt = .held claim.instanceId ∧
      runs.lease claim.jobId claim.scheduledAt = .closed := by
  cases h with
  | idle => exact .inl rfl
  | claim held active => exact .inl rfl
  | skip closed absent => exact .inl rfl
  | update held mv => exact .inl rfl
  | @finish claim run held closed =>
    refine .inr ⟨claim, rfl, held, ?_⟩
    rw [CronJobRuns.lease_put, if_pos ⟨rfl, rfl⟩]
    exact closed

lemma active_of_held {owner : String} (held : runs.lease jobId scheduledAt = .held owner) :
    ∀ old ∈ runs.row jobId scheduledAt, old.status.isActive := by
  intro old mem
  obtain ⟨run, there, running, _⟩ := CronJobRuns.lease_eq_held.mp held
  rw [Option.mem_def, there] at mem
  cases mem
  rw [running]
  rfl

lemma row_put_of_active {job : String} {at_ : Int} {old : CronJobRun}
    (active : ∀ old ∈ runs.row jobId scheduledAt, old.status.isActive)
    (there : runs.row job at_ = some old) (terminal : old.status.isActive = false) :
    (runs.put jobId scheduledAt run).row job at_ = some old := by
  rw [CronJobRuns.row_put, if_neg]
  · exact there
  · rintro ⟨rfl, rfl⟩
    have active := active old there
    rw [terminal] at active
    cases active

lemma Fleet.Change.kept (h : Change σ runs claims finished)
    (there : σ.runs.row jobId scheduledAt = some run) (terminal : run.status.isActive = false) :
    runs.row jobId scheduledAt = some run := by
  cases h with
  | idle => exact there
  | claim held active => exact row_put_of_active active there terminal
  | skip closed absent =>
    refine row_put_of_active (fun old mem => ?_) there terminal
    rw [absent] at mem
    cases mem
  | update held mv => exact row_put_of_active (active_of_held held) there terminal
  | finish held closed => exact row_put_of_active (active_of_held held) there terminal

lemma held_of_takesEffect (hn : σ.executors[n]? = some x) (effect : σ.TakesEffect n step) :
    σ.runs.lease x.claim.jobId x.claim.scheduledAt = .held x.claim.instanceId := by
  cases step with
  | beat m now jobHasOwner =>
    obtain ⟨_, y, hy, _, affected⟩ := effect
    rw [hn] at hy
    cases hy
    rcases renew_cases σ.runs x.claim now jobHasOwner with e | ⟨_, held, _⟩
    · rw [e] at affected
      cases affected
    · exact held
  | settle m now later jobHasOwner =>
    obtain ⟨_, y, result, hy, _, affected⟩ := effect
    rw [hn] at hy
    cases hy
    rcases handleExecutionResult_cases σ.runs x.claim result now later jobHasOwner with e | ⟨_, held, _⟩
    · rw [e] at affected
      cases affected
    · exact held
  | tick => cases effect
  | execute => cases effect
  | lose => cases effect

/-- Leases are fenced by the claims, and what was finished is closed and was finished once. -/
structure FleetInv (σ : Fleet) : Prop where
  fenced : ∀ jobId scheduledAt,
    (σ.runs.lease jobId scheduledAt).Fenced (claimants σ.claims jobId scheduledAt)
  closed : ∀ occurrence ∈ σ.finished, σ.runs.lease occurrence.1 occurrence.2 = .closed
  once : σ.finished.Nodup

lemma FleetInv.next (inv : FleetInv σ) (step : Step) : FleetInv (σ.next step) := by
  have h := change σ step
  have stays {occurrence : String × Int} (mem : occurrence ∈ σ.finished) :
      (σ.next step).runs.lease occurrence.1 occurrence.2 = .closed := by
    obtain ⟨claimant, mv, _⟩ := h.move occurrence.1 occurrence.2
    rw [inv.closed occurrence mem] at mv
    exact mv.of_closed
  refine ⟨fun jobId scheduledAt => ?_, ?_, ?_⟩
  · obtain ⟨claimant, mv, claimed⟩ := h.move jobId scheduledAt
    rw [claimed]
    exact mv.fenced (inv.fenced jobId scheduledAt)
  · intro occurrence mem
    rcases h.finishes with same | ⟨claim, added, held, closed⟩
    · rw [same] at mem
      exact stays mem
    · rw [added, List.mem_append, List.mem_singleton] at mem
      rcases mem with mem | rfl
      · exact stays mem
      · exact closed
  · rcases h.finishes with same | ⟨claim, added, held, closed⟩
    · rw [same]
      exact inv.once
    · rw [added]
      refine inv.once.append (List.nodup_singleton _) ?_
      rw [List.disjoint_singleton]
      intro mem
      have := inv.closed _ mem
      rw [held] at this
      cases this

lemma FleetInv.start : FleetInv initial := by
  refine ⟨fun jobId scheduledAt => ?_, fun occurrence mem => ?_, .nil⟩
  · have vacant : initial.runs.lease jobId scheduledAt = .vacant := by
      rw [CronJobRuns.lease, CronJobRuns.row, CronJobRuns.ofJob]
      rw [show initial.runs[jobId]? = none from Table.get_empty]
      rfl
    rw [vacant]
    exact Lease.fenced_vacant
  · cases mem

lemma FleetInv.reachable (reach : lts.Reachable σ) : FleetInv σ := by
  refine reach.invariant ?_ ?_
  · rintro _ rfl
    exact .start
  · intro σ step σ' inv ⟨_, e⟩
    rw [e]
    exact inv.next step

/-- In every state of every run, an update on behalf of a claim takes effect only if the last claim of the
occurrence that succeeded was made by the same instance. No occurrence was finished twice, and no step changes
the row of one that is over. -/
theorem occurrences_fenced (reach : lts.Reachable σ) :
    (∀ (step : Step) (n : Nat) (x : Executor), σ.executors[n]? = some x → σ.TakesEffect n step →
      (claimants σ.claims x.claim.jobId x.claim.scheduledAt).getLast? = some x.claim.instanceId) ∧
    σ.finished.Nodup ∧
    ∀ (step : Step) (jobId : String) (scheduledAt : Int) (run : CronJobRun),
      σ.runs.row jobId scheduledAt = some run → run.status.isActive = false →
      (σ.next step).runs.row jobId scheduledAt = some run := by
  have inv := FleetInv.reachable reach
  refine ⟨fun step n x hn effect => ?_, inv.once, fun step jobId scheduledAt run there terminal => ?_⟩
  · exact inv.fenced _ _ _ (held_of_takesEffect hn effect)
  · exact (change σ step).kept there terminal

/-- An instance claims an occurrence, its lease expires, and a second claim follows. Both executors come to the
end, and have yet to write their results. -/
def reclaimedRun (first second : String) : List Step :=
  [.tick { instanceId := first, jobId := "job", scheduledAt := 0 } 0 false true,
    .tick { instanceId := second, jobId := "job", scheduledAt := 0 } runLeaseMs false true,
    .execute 0 (.success "late"), .execute 1 (.success "conversation")]

/-- The late executor of another instance changes nothing. -/
theorem occurrences_fenced_reclaimedRun :
    ¬ ((reclaimedRun "a" "b").foldl next initial).TakesEffect 0 (.settle 0 runLeaseMs runLeaseMs true) := by
  intro effect
  have last := (occurrences_fenced (.computed LTS.enabledAll_true)).1 _ _ _ rfl effect
  exact absurd last (by decide)

/-- An instance that claims an occurrence for the second time lets its late executor finish it. The executor of
the second claim finds it finished. -/
theorem lateExecutor_finishes :
    lts.Reachable ((reclaimedRun "a" "a").foldl next initial) ∧
    ((reclaimedRun "a" "a").foldl next initial).claims =
      [{ instanceId := "a", jobId := "job", scheduledAt := 0 },
        { instanceId := "a", jobId := "job", scheduledAt := 0 }] ∧
    ((reclaimedRun "a" "a").foldl next initial).TakesEffect 0 (.settle 0 runLeaseMs runLeaseMs true) ∧
    ¬ (((reclaimedRun "a" "a").foldl next initial).settle 0 runLeaseMs runLeaseMs true).TakesEffect 1
      (.settle 1 runLeaseMs runLeaseMs true) := by
  refine ⟨.computed LTS.enabledAll_true, by decide, ⟨rfl, _, _, rfl, rfl, by decide⟩, ?_⟩
  rintro ⟨_, x, result, hx, hs, affected⟩
  cases hx
  cases hs
  revert affected
  decide

end KiCore.Cron

import KiCore.Team.Member.Teardown
import KiCore.Team.Run.Publication

/-!
# Leases

A lease is granted by `acquire_enqueue` and leaves the table once: by its commit, by its abort, with the
run it is bound to, or when the session stops. `spentIn` lists the leases that leave the table in a run
of the team, and `leases_spent_once` says that none is listed twice, what each step may spend, and what
an abort makes of the run: without another intent or lease the run is taken from the manager and never
comes back, and otherwise the manager is told what work is left.
-/

namespace KiCore.Team

open KiCore.Lib SlotWorkCoordinator TeamRunManager

variable {c : SlotWorkCoordinator} {M : TeamRunManager} {m : ManagerState} {st st' : CoordinatorState}
  {σ : Tracked} {x y : TeamState} {o : TeamOp} {ops : List TeamOp} {op : Op} {lease : EnqueueLease}
  {record : EnqueueLeaseRecord} {summary : RunWorkSummary} {k r : String}

/-- The leases of a state that are gone in another one. -/
def spent (st st' : CoordinatorState) : List String :=
  st.enqueueLeases.keys.filter fun k => (st'.enqueueLeases[k]?).isNone

/-- The leases that leave the table in a run, one after the other. -/
def spentIn (c : SlotWorkCoordinator) (M : TeamRunManager) (x : TeamState) : List TeamOp → List String
  | [] => []
  | o :: ops =>
    spent x.coordinator.state (teamStep c M x o).coordinator.state ++ spentIn c M (teamStep c M x o) ops

/-- What takes a lease from the table. -/
inductive Spends (c : SlotWorkCoordinator) (st : CoordinatorState) (k : String) : TeamOp → Prop where
  | commit {lease : EnqueueLease} {messageId : Option String} {commit : EnqueueCommit}
    (own : lease.leaseId = k) (done : (commitEnqueue c st lease messageId).result = .ok commit) :
    Spends c st k (.work (.commitEnqueue lease messageId))
  | abort {lease : EnqueueLease} (own : lease.leaseId = k)
    (done : (abortEnqueue c st lease).result = .committed) : Spends c st k (.work (.abortEnqueue lease))
  | cancel {record : EnqueueLeaseRecord} {r : String} (hl : st.enqueueLeases[k]? = some record)
    (bound : record.lease.teamRunId = some r) : Spends c st k (.work (.cancelRun r))
  | stop : Spends c st k (.work .stop)

/-- What an abort makes of the run of its lease: a run without another intent or lease is taken from the
manager for good, and any other run is summarised anew, which ends it if it has no work left. -/
structure AbortsRun (c : SlotWorkCoordinator) (M : TeamRunManager) (y : TeamState) (r : String) : Prop where
  gone : ¬ Named y.coordinator.state r → ∃ binding, binding.teamRunId = some r ∧
    .abortBinding binding ∈ y.pending ∧
    ∀ ops z, (teamLts c M).Run y ops z → .deliver (.abortBinding binding) ∈ ops → z.manager.runOf r = none
  left : Named y.coordinator.state r →
    .applyWorkSummary (runSummaryLocked y.coordinator.state r) ∈ y.pending ∧
    ∀ m run, m.runOf r = some run → ∃ run',
      ((port M).deliver m (.applyWorkSummary (runSummaryLocked y.coordinator.state r))).runOf r = some run' ∧
      run'.summary = some (runSummaryLocked y.coordinator.state r) ∧
      (noWork (runSummaryLocked y.coordinator.state r) = true → run'.isActive = false)

structure LeaseLaw (c : SlotWorkCoordinator) (M : TeamRunManager) (x : TeamState) (o : TeamOp) : Prop where
  spends : ∀ k ∈ spent x.coordinator.state (teamStep c M x o).coordinator.state,
    Spends c x.coordinator.state k o
  committed : ∀ lease messageId commit, o = .work (.commitEnqueue lease messageId) →
    (commitEnqueue c x.coordinator.state lease messageId).result = .ok commit →
    lease.leaseId ∈ spent x.coordinator.state (teamStep c M x o).coordinator.state
  refused : ∀ lease messageId error, o = .work (.commitEnqueue lease messageId) →
    (commitEnqueue c x.coordinator.state lease messageId).result = .error error → teamStep c M x o = x
  aborted : ∀ lease, o = .work (.abortEnqueue lease) →
    (abortEnqueue c x.coordinator.state lease).result = .committed →
    lease.leaseId ∈ spent x.coordinator.state (teamStep c M x o).coordinator.state ∧
      ∀ r, lease.teamRunId = some r → AbortsRun c M (teamStep c M x o) r

lemma mem_spent : k ∈ spent st st' ↔
    (∃ record, st.enqueueLeases[k]? = some record) ∧ st'.enqueueLeases[k]? = none := by
  rw [spent, List.mem_filter, Std.TreeMap.mem_keys, Std.TreeMap.mem_iff_isSome_getElem?,
    Option.isSome_iff_exists, Option.isNone_iff_eq_none]

lemma spent_nodup : (spent st st').Nodup :=
  (Std.TreeMap.nodup_keys).filter _

lemma coordinator_cases (allowed : TeamAllowed M x o) :
    (∃ op, Allowed x.coordinator op ∧
      (teamStep c M x o).coordinator = track c x.coordinator op) ∨
    (teamStep c M x o).coordinator = x.coordinator := by
  cases o with
  | acquire request =>
    obtain ⟨⟨answer, e⟩, _⟩ := acquire_cases (c := c) (M := M) x request
    exact .inl ⟨.acquireEnqueue request answer, .of_none rfl, e⟩
  | work op => exact .inl ⟨op, allowed.1, rfl⟩
  | deliver call => exact .inr rfl
  | beginCancel teamRunId reason => exact .inr rfl

lemma lease_old (h : (exec c st op).1.enqueueLeases[k]? = some record) :
    (∃ record, st.enqueueLeases[k]? = some record) ∨ ¬ Drawn c st k := by
  by_cases acquire : ∃ request answer, op = .acquireEnqueue request answer
  · obtain ⟨request, answer, rfl⟩ := acquire
    rcases leases_acquire c st request answer with e | ⟨granted, _, e, _⟩
    · rw [e] at h
      exact .inl ⟨record, h⟩
    · rw [e, Table.get_insert] at h
      split_ifs at h with here
      · exact .inr (here ▸ not_drawn)
      · exact .inl ⟨record, h⟩
  · exact .inl ⟨record, exec_leases (fun r b e => acquire ⟨r, b, e⟩) h⟩

structure LeaseInv (c : SlotWorkCoordinator) (M : TeamRunManager) (x : TeamState) : Prop where
  inv : Inv c x.coordinator
  drawn : LeasesDrawn c x.coordinator.state

section

variable (inv : LeaseInv c M x)
include inv

lemma LeaseInv.step (allowed : TeamAllowed M x o) : LeaseInv c M (teamStep c M x o) := by
  rcases coordinator_cases (c := c) allowed with ⟨op, ok, e⟩ | e
  · constructor
    · rw [e]
      exact inv.inv.track ok
    · rw [e]
      exact inv.drawn.exec (exec_ticks inv.inv ok)
  · exact ⟨e ▸ inv.inv, e ▸ inv.drawn⟩

lemma step_drawn (allowed : TeamAllowed M x o) :
    (∀ k, Drawn c x.coordinator.state k → Drawn c (teamStep c M x o).coordinator.state k) ∧
    ∀ k record, (teamStep c M x o).coordinator.state.enqueueLeases[k]? = some record →
      (∃ record, x.coordinator.state.enqueueLeases[k]? = some record) ∨
        ¬ Drawn c x.coordinator.state k := by
  rcases coordinator_cases (c := c) allowed with ⟨op, ok, e⟩ | e
  · rw [e]
    exact ⟨fun k known => known.mono (exec_ticks inv.inv ok), fun k record h => lease_old h⟩
  · rw [e]
    exact ⟨fun k known => known, fun k record h => .inl ⟨record, h⟩⟩

lemma mem_spentIn (allowed : LTS.EnabledAll (TeamAllowed M) (teamStep c M) x ops)
    (mem : k ∈ spentIn c M x ops) :
    (∃ record, x.coordinator.state.enqueueLeases[k]? = some record) ∨ ¬ Drawn c x.coordinator.state k := by
  induction ops generalizing x with
  | nil => cases mem
  | cons o ops ih =>
    obtain ⟨mono, old⟩ := step_drawn inv allowed.1
    rcases List.mem_append.mp mem with here | later
    · exact .inl (mem_spent.mp here).1
    · rcases ih (inv.step allowed.1) allowed.2 later with ⟨record, h⟩ | new
      · exact old k record h
      · exact .inr fun known => new (mono k known)

lemma spentIn_nodup (allowed : LTS.EnabledAll (TeamAllowed M) (teamStep c M) x ops) :
    (spentIn c M x ops).Nodup := by
  induction ops generalizing x with
  | nil => exact List.nodup_nil
  | cons o ops ih =>
    have inv' := inv.step allowed.1
    refine List.nodup_append.mpr ⟨spent_nodup, ih inv' allowed.2, ?_⟩
    rintro k here _ later rfl
    obtain ⟨⟨record, h⟩, gone⟩ := mem_spent.mp here
    rcases mem_spentIn inv' allowed.2 later with ⟨record', h'⟩ | new
    · rw [gone] at h'
      cases h'
    · exact new ((step_drawn inv allowed.1).1 k (inv.drawn k record h))

end

lemma commitEnqueue_leases (c : SlotWorkCoordinator) (st : CoordinatorState) (lease : EnqueueLease)
    (messageId : Option String) :
    (∃ commit, (commitEnqueue c st lease messageId).result = .ok commit ∧
      (∃ record, st.enqueueLeases[lease.leaseId]? = some record) ∧
      (commitEnqueue c st lease messageId).state.enqueueLeases = st.enqueueLeases.erase lease.leaseId) ∨
    ((∃ error, (commitEnqueue c st lease messageId).result = .error error) ∧
      (commitEnqueue c st lease messageId).state = st ∧ (commitEnqueue c st lease messageId).calls = []) := by
  unfold commitEnqueue
  cases check : checkCommit c st lease messageId with
  | error error => exact .inr ⟨⟨error, rfl⟩, rfl, rfl⟩
  | ok slot =>
    obtain ⟨⟨record, h, _⟩, _⟩ := checkCommit_ok check
    exact .inl ⟨_, rfl, ⟨record, h⟩, rfl⟩

lemma abortEnqueue_leases (c : SlotWorkCoordinator) (st : CoordinatorState) (lease : EnqueueLease) :
    (∃ record, (abortEnqueue c st lease).result = .committed ∧
      st.enqueueLeases[lease.leaseId]? = some record ∧ record.lease = lease ∧
      (abortEnqueue c st lease).state =
        { st with enqueueLeases := st.enqueueLeases.erase lease.leaseId } ∧
      (abortEnqueue c st lease).calls =
        (if lease.teamRunId.any (runIsEmpty (abortEnqueue c st lease).state) then
            [.abortBinding record.binding] else []) ++
          publish (runSummariesLocked (abortEnqueue c st lease).state lease.teamRunId.toList)
            (slotSnapshotLocked (abortEnqueue c st lease).state lease.slotId)) ∨
    ((abortEnqueue c st lease).result = .staleOwner ∧ (abortEnqueue c st lease).state = st ∧
      (abortEnqueue c st lease).calls = []) := by
  unfold abortEnqueue
  cases h : st.enqueueLeases[lease.leaseId]? with
  | none => exact .inr ⟨rfl, rfl, rfl⟩
  | some record =>
    dsimp only
    split
    · exact .inr ⟨rfl, rfl, rfl⟩
    next owner => exact .inl ⟨record, rfl, rfl, not_not.mp (not_or.mp owner).1, rfl, rfl⟩

/-- A lease leaves the table in one of four ways. -/
lemma spends_of_gone (h : st.enqueueLeases[k]? = some record)
    (gone : (exec c st op).1.enqueueLeases[k]? = none) : Spends c st k (.work op) := by
  have kept {st' : CoordinatorState} (e : st'.enqueueLeases = st.enqueueLeases)
      (gone : st'.enqueueLeases[k]? = none) : Spends c st k (.work op) := by
    rw [e, h] at gone
    cases gone
  cases op with
  | acquireEnqueue request answer =>
    rcases leases_acquire c st request answer with e | ⟨granted, _, e, _⟩
    · exact kept e gone
    · rw [e, Table.get_insert] at gone
      split_ifs at gone
      exact kept rfl gone
  | commitEnqueue lease messageId =>
    rcases commitEnqueue_leases c st lease messageId with ⟨commit, done, _, e⟩ | ⟨_, e, _⟩
    · rw [show (exec c st (.commitEnqueue lease messageId)).1.enqueueLeases = _ from e,
        Table.get_erase] at gone
      split_ifs at gone with own
      · exact .commit own done
      · exact kept rfl gone
    · exact kept (congrArg CoordinatorState.enqueueLeases e) gone
  | abortEnqueue lease =>
    rcases abortEnqueue_leases c st lease with ⟨_, done, _, _, e, _⟩ | ⟨_, e, _⟩
    · rw [show (exec c st (.abortEnqueue lease)).1 = _ from e] at gone
      have gone : (st.enqueueLeases.erase lease.leaseId)[k]? = none := gone
      rw [Table.get_erase] at gone
      split_ifs at gone with own
      · exact .abort own done
      · exact kept rfl gone
    · exact kept (congrArg CoordinatorState.enqueueLeases e) gone
  | cancelRun teamRunId =>
    by_cases bound : record.lease.teamRunId = some teamRunId
    · exact .cancel h bound
    · have left : (exec c st (.cancelRun teamRunId)).1.enqueueLeases[k]? = some record := by
        rw [show (exec c st (.cancelRun teamRunId)).1 = _ from cancelRun_state]
        refine Table.get_filter.mpr ⟨?_, by simpa using bound⟩
        rw [show (cancelledState c st teamRunId).tick.enqueueLeases = _ from leases_cancelledState]
        exact h
      rw [gone] at left
      cases left
  | stop => exact .stop
  | reconcileMailboxSnapshot slotId unread role stale => exact kept leases_recoverAll gone
  | next slotId =>
    rcases next_cases c st slotId with ⟨b, _, e, _⟩ | ⟨_, e⟩
    · exact kept (congrArg CoordinatorState.enqueueLeases e :) gone
    · exact kept (congrArg CoordinatorState.enqueueLeases e :) gone
  | observeMessages slotId batchId messageIds => exact kept leases_observeMessages gone
  | markStarted b turnId => exact kept leases_markStarted gone
  | retryStart b => exact kept leases_retryStart gone
  | completeBatchWithAck b => exact kept leases_completeBatchWithAck gone
  | failBatch b classification => exact kept leases_terminalizeBatch gone
  | cancelBatch b classification => exact kept leases_terminalizeBatch gone
  | interruptBatch b reason replacement => exact kept leases_interruptBatch gone
  | completeSignals slotId intentIds => exact kept leases_completeSignals gone
  | setRuntimeConstraint slotId constraint => exact kept leases_setRuntimeConstraint gone
  | beginRuntimeRestart slotId => exact kept leases_beginRuntimeRestartInner gone
  | beginMcpRuntimeRestart slotId => exact kept leases_beginRuntimeRestartInner gone
  | abortRuntimeRestart slotId gate => exact kept leases_abortRuntimeRestart gone
  | requestMcpRefresh slotId fingerprint => exact kept leases_requestMcpRefresh gone
  | claimPendingMcpRefresh slotId => exact kept leases_claimPendingMcpRefresh gone
  | _ => exact kept rfl gone

/-- A step records the run that was on record, or opens one under a new id. -/
lemma manager_step (x : TeamState) (o : TeamOp) :
    x.manager.ticks ≤ (teamStep c M x o).manager.ticks ∧
    ∀ run', (teamStep c M x o).manager.run = some run' →
      (∃ run, x.manager.run = some run ∧ run'.teamRunId = run.teamRunId) ∨
        (run'.teamRunId = M.generateId x.manager.ticks ∧
          x.manager.ticks < (teamStep c M x o).manager.ticks) := by
  have kept (m : ManagerState) (e : m = x.manager) : x.manager.ticks ≤ m.ticks ∧
      ∀ run', m.run = some run' → (∃ run, x.manager.run = some run ∧ run'.teamRunId = run.teamRunId) ∨
        (run'.teamRunId = M.generateId x.manager.ticks ∧ x.manager.ticks < m.ticks) := by
    subst e
    exact ⟨le_refl _, fun run' hr => .inl ⟨run', hr, rfl⟩⟩
  cases o with
  | acquire request =>
    obtain ⟨_, _, _, result⟩ := acquire_cases (c := c) (M := M) x request
    rcases result with ⟨_, manager, _⟩ | ⟨_, _, manager, _⟩
    · exact kept _ manager
    · have bound := resolveBinding_cases M x.manager x.coordinator.state request
      rw [manager]
      refine ⟨bound.ticks, fun run' hr => ?_⟩
      rcases bound.record hr with ⟨run, hr, id, _⟩ | ⟨_, id, later⟩
      · exact .inl ⟨run, hr, id⟩
      · exact .inr ⟨id, later⟩
  | work op => exact kept _ rfl
  | beginCancel teamRunId reason =>
    rcases beginCancel_cases M x.manager teamRunId reason with ⟨_, e⟩ | ⟨run, hr, _, _, _, hr', ticks, _⟩
    · exact kept _ e
    · refine ⟨ticks, fun run' h => .inl ⟨run, hr, ?_⟩⟩
      cases hr'.symm.trans h
      rfl
  | deliver call =>
    cases call with
    | publishSlotWork snapshot => exact ⟨Nat.le_succ _, fun run' hr => .inl ⟨run', hr, rfl⟩⟩
    | abortBinding binding =>
      show x.manager.ticks ≤ (abortBinding x.manager binding).ticks ∧ ∀ run',
        (abortBinding x.manager binding).run = some run' → _
      unfold abortBinding
      split
      · exact ⟨le_refl _, by simp⟩
      · exact ⟨le_refl _, fun run' hr => .inl ⟨run', hr, rfl⟩⟩
    | applyWorkSummary summary =>
      rcases applyWorkSummary_cases M x.manager summary with ⟨_, e⟩ | ⟨run, run', hr, _, _, e, hr', ticks, _⟩
      · exact kept _ e
      · refine ⟨(Nat.le_succ _).trans ticks.ge, fun run'' h => .inl ⟨run, hr, ?_⟩⟩
        cases hr'.symm.trans h
        rw [e]
        exact (summarized_keeps _ _ _).1

/-- The runs that the coordinator and the manager know were issued by the manager. -/
structure RunsIssued (M : TeamRunManager) (x : TeamState) : Prop where
  named : ∀ r, Named x.coordinator.state r → Issued M x.manager r
  record : ∀ run, x.manager.run = some run → Issued M x.manager run.teamRunId

lemma RunsIssued.step (issued : RunsIssued M x) (inv : Inv c x.coordinator) (allowed : TeamAllowed M x o) :
    RunsIssued M (teamStep c M x o) := by
  obtain ⟨ticks, record⟩ := manager_step (c := c) (M := M) x o
  refine ⟨fun r named => ?_, fun run' hr => ?_⟩
  · cases o with
    | acquire request =>
      obtain ⟨_, _, intents, result⟩ := acquire_cases (c := c) (M := M) x request
      cases named with
      | intent hi hr => exact (issued.named r (.intent (intents ▸ hi) hr)).mono ticks
      | @lease k record hl hr =>
        rcases result with ⟨_, _, leases⟩ | ⟨granted, _, manager, bound, leases⟩
        · exact (issued.named r (.lease (leases ▸ hl) hr)).mono ticks
        · rw [leases, Table.get_insert] at hl
          split_ifs at hl
          · cases hl
            have binding := resolveBinding_cases M x.manager x.coordinator.state request
            rcases binding.run (bound.symm.trans hr) with ⟨s, a, ha, mem⟩ | ⟨_, active⟩ | ⟨new, later⟩
            · exact (issued.named r (inv.named (inv.active s a ha).2 mem)).mono ticks
            · obtain ⟨run, alive, rfl⟩ := Option.map_eq_some_iff.mp active
              exact (issued.record run (Option.filter_eq_some_iff.mp alive).1).mono ticks
            · exact ⟨_, manager ▸ later, new⟩
          · exact (issued.named r (.lease hl hr)).mono ticks
    | work op => exact issued.named r (named.exec inv allowed.1 allowed.2.1)
    | deliver call => exact (issued.named r named).mono ticks
    | beginCancel teamRunId reason => exact (issued.named r named).mono ticks
  · rcases record run' hr with ⟨run, hr, id⟩ | ⟨id, later⟩
    · exact id ▸ (issued.record run hr).mono ticks
    · exact ⟨_, later, id⟩

lemma runOf_none (issued : Issued M x.manager r) (gone : x.manager.runOf r = none) :
    (teamStep c M x o).manager.runOf r = none := by
  refine Option.filter_eq_none_iff.mpr fun run' hr own => ?_
  have own : run'.teamRunId = r := of_decide_eq_true own
  rcases (manager_step (c := c) (M := M) x o).2 run' hr with ⟨run, hr, id⟩ | ⟨id, _⟩
  · exact Option.filter_eq_none_iff.mp gone run hr (decide_eq_true (id.symm.trans own))
  · rw [← own, id] at issued
    exact not_issued issued

lemma runOf_none_run {z : TeamState} (run : (teamLts c M).Run x ops z) (issued : Issued M x.manager r)
    (gone : x.manager.runOf r = none) : z.manager.runOf r = none := by
  induction run with
  | nil => exact gone
  | @cons x y z o ops step _ ih =>
    obtain ⟨_, rfl⟩ := step
    exact ih (issued.mono (manager_step x o).1) (runOf_none issued gone)

lemma gone_of_aborted {binding : RunBinding} {z : TeamState} (run : (teamLts c M).Run x ops z)
    (issued : Issued M x.manager r) (own : binding.teamRunId = some r)
    (told : .deliver (.abortBinding binding) ∈ ops) : z.manager.runOf r = none := by
  induction run with
  | nil => cases told
  | @cons x y z o ops step later ih =>
    obtain ⟨_, rfl⟩ := step
    have issued' := issued.mono (manager_step (c := c) (M := M) x o).1
    rcases List.mem_cons.mp told with rfl | told
    · refine runOf_none_run later issued' (Option.filter_eq_none_iff.mpr fun run' hr own' => ?_)
      have own' : run'.teamRunId = r := of_decide_eq_true own'
      have hr : (abortBinding x.manager binding).run = some run' := hr
      unfold abortBinding at hr
      split_ifs at hr with here
      refine here ?_
      rw [hr, Option.any_some]
      exact decide_eq_true (by rw [own', own])
    · exact ih issued' told

def LeasesBound (st : CoordinatorState) : Prop :=
  ∀ (k : String) (record : EnqueueLeaseRecord), st.enqueueLeases[k]? = some record →
    record.binding.teamRunId = record.lease.teamRunId

lemma LeasesBound.exec (bound : LeasesBound st) : LeasesBound (exec c st op).1 := by
  intro k record h
  by_cases acquire : ∃ request answer, op = .acquireEnqueue request answer
  · obtain ⟨request, answer, rfl⟩ := acquire
    have h : (acquireEnqueue c (.answering answer) () st request).2.1.enqueueLeases[k]? = some record := h
    unfold acquireEnqueue at h
    dsimp only at h
    cases valid : validateEnqueueConstraint request.slotId
        { st.slotOrNew request.slotId request.role with role := request.role } with
    | error error =>
      rw [valid] at h
      exact bound k record h
    | ok _ =>
      rw [valid] at h
      dsimp only [grantLease] at h
      rw [Table.get_insert] at h
      split_ifs at h
      · cases h
        rfl
      · exact bound k record h
  · exact bound k record (exec_leases (fun r b e => acquire ⟨r, b, e⟩) h)

lemma runIsEmpty_iff : runIsEmpty st r = true ↔ ¬ Named st r := by
  rw [runIsEmpty, decide_eq_true_iff]
  simp only [associated, associatedLeases, List.isEmpty_iff, List.filter_eq_nil_iff,
    Table.mem_values, decide_eq_true_eq, forall_exists_index]
  constructor
  · rintro ⟨intents, leases⟩ named
    cases named with
    | intent hi hr => exact intents _ _ hi hr
    | lease hl hr => exact leases _ _ hl hr
  · intro free
    exact ⟨fun i k hi hr => free (.intent hi hr), fun record k hl hr => free (.lease hl hr)⟩

lemma applyWorkSummary_ends {run : TeamRunRecord} (found : m.runOf summary.teamRunId = some run) :
    ∃ run', (applyWorkSummary M m summary).runOf summary.teamRunId = some run' ∧
      run'.summary = some summary ∧ (noWork summary = true → run'.isActive = false) := by
  rcases applyWorkSummary_cases M m summary with ⟨gone, _⟩ | ⟨run0, run', hr0, own, _, rfl, hr', _⟩
  · rw [gone] at found
    cases found
  · obtain ⟨id, known⟩ := summarized_keeps (M.nowMs m.ticks) run0 summary
    refine ⟨_, Option.filter_eq_some_iff.mpr ⟨hr', decide_eq_true (id.trans own)⟩, known, fun idle => ?_⟩
    show (summarized _ run0 summary).status.isActive = false
    rw [summarized_status, if_pos idle]
    split_ifs <;> rfl

lemma runSummariesLocked_one : runSummariesLocked st [r] = [runSummaryLocked st r] := by
  have one : (Std.TreeSet.ofList [r]).toList = [r] := rfl
  rw [runSummariesLocked, one, List.map_singleton]

structure TeamInv (c : SlotWorkCoordinator) (M : TeamRunManager) (x : TeamState) : Prop where
  leases : LeaseInv c M x
  bound : LeasesBound x.coordinator.state
  issued : RunsIssued M x

lemma TeamInv.step (inv : TeamInv c M x) (allowed : TeamAllowed M x o) :
    TeamInv c M (teamStep c M x o) := by
  refine ⟨inv.leases.step allowed, ?_, inv.issued.step inv.leases.inv allowed⟩
  rcases coordinator_cases (c := c) allowed with ⟨op, _, e⟩ | e
  · rw [e]
    exact inv.bound.exec
  · rw [e]
    exact inv.bound

lemma TeamInv.start : TeamInv c M newTeam := by
  have none (k : String) : newTeam.coordinator.state.enqueueLeases[k]? = none := Table.get_empty
  refine ⟨⟨.start, fun k record h => ?_⟩, fun k record h => ?_, Consistent.start.named, Consistent.start.record⟩
  · rw [none] at h
    cases h
  · rw [none] at h
    cases h

lemma TeamInv.abort (inv : TeamInv c M x) (allowed : TeamAllowed M x (.work (.abortEnqueue lease)))
    (done : (abortEnqueue c x.coordinator.state lease).result = .committed) (own : lease.teamRunId = some r) :
    AbortsRun c M (teamStep c M x (.work (.abortEnqueue lease))) r := by
  rcases abortEnqueue_leases c x.coordinator.state lease with ⟨record, _, hl, rfl, _, calls⟩ | ⟨stale, _⟩
  · have pending : (teamStep c M x (.work (.abortEnqueue record.lease))).pending =
        x.pending ++ (abortEnqueue c x.coordinator.state record.lease).calls := rfl
    have known : Issued M x.manager r := inv.issued.named r (.lease hl own)
    rw [calls, own, Option.any_some, Option.toList_some, runSummariesLocked_one] at pending
    constructor
    · intro free
      refine ⟨record.binding, (inv.bound _ record hl).trans own, ?_, fun ops z run told => ?_⟩
      · have empty : runIsEmpty (abortEnqueue c x.coordinator.state record.lease).state r = true :=
          runIsEmpty_iff.mpr free
        rw [pending, if_pos empty]
        exact List.mem_append_right _ (.head _)
      · exact gone_of_aborted run known ((inv.bound _ record hl).trans own) told
    · intro named
      refine ⟨?_, fun m run found => applyWorkSummary_ends found⟩
      have filled : ¬ runIsEmpty (abortEnqueue c x.coordinator.state record.lease).state r = true :=
        fun empty => runIsEmpty_iff.mp empty named
      rw [pending, if_neg filled]
      exact List.mem_append_right _ (.head _)
  · rw [stale] at done
    cases done

lemma TeamInv.law (inv : TeamInv c M x) (allowed : TeamAllowed M x o) : LeaseLaw c M x o := by
  refine ⟨fun k mem => ?_, ?_, ?_, ?_⟩
  · obtain ⟨⟨record, h⟩, gone⟩ := mem_spent.mp mem
    cases o with
    | work op => exact spends_of_gone h gone
    | acquire request =>
      obtain ⟨⟨answer, e⟩, _⟩ := acquire_cases (c := c) (M := M) x request
      rw [e] at gone
      have spends : Spends c x.coordinator.state k (.work (.acquireEnqueue request answer)) :=
        spends_of_gone h gone
      cases spends
    | deliver call => exact absurd (h.symm.trans gone) (by simp)
    | beginCancel teamRunId reason => exact absurd (h.symm.trans gone) (by simp)
  · rintro lease messageId commit rfl done
    rcases commitEnqueue_leases c x.coordinator.state lease messageId with
      ⟨_, _, here, e⟩ | ⟨⟨_, refused⟩, _⟩
    · refine mem_spent.mpr ⟨here, ?_⟩
      rw [show (teamStep c M x (.work (.commitEnqueue lease messageId))).coordinator.state.enqueueLeases = _
        from e, Table.get_erase, if_pos rfl]
    · rw [done] at refused
      cases refused
  · rintro lease messageId error rfl refused
    rcases commitEnqueue_leases c x.coordinator.state lease messageId with ⟨_, done, _⟩ | ⟨_, state, calls⟩
    · rw [refused] at done
      cases done
    · obtain ⟨⟨coordinator, claimed⟩, manager, pending⟩ := x
      simp only [teamStep, track, exec, exec.of, returnedBatch, state, calls, Option.toList_none,
        List.append_nil]
  · rintro lease rfl done
    refine ⟨?_, fun r own => inv.abort allowed done own⟩
    rcases abortEnqueue_leases c x.coordinator.state lease with ⟨record, _, here, _, e, _⟩ | ⟨stale, _⟩
    · refine mem_spent.mpr ⟨⟨record, here⟩, ?_⟩
      rw [show (teamStep c M x (.work (.abortEnqueue lease))).coordinator.state = _ from e]
      exact (Table.get_erase ..).trans (if_pos rfl)
    · rw [stale] at done
      cases done

/-- In every run of a team each lease is spent at most once, by its commit, its abort, the cancellation of
its run or the stop of the session; a refused commit changes nothing; and an abort takes its run from the
manager if nothing else belongs to it, and has it summarised otherwise. -/
theorem leases_spent_once (allowed : LTS.EnabledAll (TeamAllowed M) (teamStep c M) newTeam ops) :
    (spentIn c M newTeam ops).Nodup ∧ LTS.EnabledAll (LeaseLaw c M) (teamStep c M) newTeam ops :=
  ⟨spentIn_nodup TeamInv.start.leases allowed,
    allowed.imp (Q := TeamInv c M) (fun _ _ inv ok => ⟨inv.law ok, inv.step ok⟩) .start⟩

/-- The lead is asked, and the message is given up; the user tries again. -/
def abortedTurn : List TeamOp :=
  [.acquire userRequest,
    .work (.abortEnqueue userLease),
    .deliver (.abortBinding { teamRunId := some "run", createdNewRun := true, userIntervention := false }),
    .acquire userRequest,
    .work (.commitEnqueue { userLease with leaseId := "||", teamRunId := some "run|" } (some "m"))]

/-- Each of the two leases is spent once, and the run of the first one is gone. -/
theorem leases_spent_once_abortedTurn :
    (spentIn strokes runs newTeam abortedTurn).Nodup ∧
      LTS.EnabledAll (LeaseLaw strokes runs) (teamStep strokes runs) newTeam abortedTurn ∧
      spentIn strokes runs newTeam abortedTurn = ["|", "||"] ∧
      (abortedTurn.foldl (teamStep strokes runs) newTeam).manager.run.map (·.teamRunId) = some "run|" := by
  have allowed : LTS.EnabledAll (TeamAllowed runs) (teamStep strokes runs) newTeam abortedTurn :=
    ⟨trivial, allowed_work rfl (by simp) (by simp), show _ ∈ _ by decide, trivial,
      allowed_work rfl (by simp) (by simp), trivial⟩
  obtain ⟨nodup, law⟩ := leases_spent_once allowed
  exact ⟨nodup, law, by decide, by decide⟩

end KiCore.Team

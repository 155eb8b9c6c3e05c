import KiCore.Team.Coordinator.Publish
import KiCore.Team.Run.Protocol

/-!
# The coordinator and the run manager together

An operation of the coordinator computes its summaries under the coordinator's lock, and applies them
to the manager after it has released the lock. `teamLts` therefore keeps the calls that are computed
but not yet made, and makes them in any order, between any operations. Only `acquire_enqueue` calls
the manager under the lock.

A summary without work is true when it is computed. It is still true when it is applied, unless an
enqueue was bound to its run in between: `truthful_of_unhurried`.
-/

namespace KiCore.Team

open KiCore.Lib SlotWorkCoordinator TeamRunManager

/-- What happens in a team: enqueues, the other operations of the coordinator, the calls these have
computed, and requests to cancel a run. -/
inductive TeamOp where
  | acquire (request : EnqueueRequest)
  | work (op : Op)
  | deliver (call : PortCall)
  | beginCancel (teamRunId : String) (reason : Option String)

/-- The coordinator, the manager, and the calls that are computed but not yet made. -/
structure TeamState where
  coordinator : Tracked
  manager : ManagerState
  pending : List PortCall

variable {c : SlotWorkCoordinator} {M : TeamRunManager} {m m' : ManagerState} {st : CoordinatorState}
  {x y : TeamState} {o : TeamOp} {request : EnqueueRequest} {summary : RunWorkSummary} {r : String}

/-- A run is cancelled under an id that the manager has issued, and a call is made once. -/
def TeamAllowed (M : TeamRunManager) (x : TeamState) : TeamOp → Prop
  | .acquire _ | .beginCancel _ _ => True
  | .work op => Allowed x.coordinator op ∧ (∀ request answer, op ≠ .acquireEnqueue request answer) ∧
    ∀ teamRunId, op = .cancelRun teamRunId → Issued M x.manager teamRunId
  | .deliver call => call ∈ x.pending

def teamStep (c : SlotWorkCoordinator) (M : TeamRunManager) (x : TeamState) : TeamOp → TeamState
  | .acquire request =>
    let (_, state, manager) :=
      acquireEnqueue c (port M) x.manager x.coordinator.state request
    { x with coordinator := { x.coordinator with state := state }, manager := manager }
  | .work op =>
    { x with
      coordinator := track c x.coordinator op
      pending := x.pending ++ (exec c x.coordinator.state op).2 }
  | .deliver call =>
    { x with manager := (port M).deliver x.manager call, pending := x.pending.erase call }
  | .beginCancel teamRunId reason =>
    { x with manager := (beginCancel M x.manager teamRunId reason).2 }

def newTeam : TeamState :=
  { coordinator := initial, manager := .new, pending := [] }

def teamLts (c : SlotWorkCoordinator) (M : TeamRunManager) : LTS TeamState TeamOp :=
  .computed newTeam (TeamAllowed M) (teamStep c M)

/-- A run that is published as completed or as cancelled has no work. -/
def PublishedTruthfully (x : TeamState) : Prop :=
  ∀ run, x.manager.run = some run → run.status = .completed ∨ run.status = .cancelled →
    Workless x.coordinator.state run.teamRunId

/-- A summary that completes its run, or ends its cancellation. -/
def Completes (summary : RunWorkSummary) : Prop :=
  summary.failedIntentCount = 0 ∧ noWork summary = true

/-- The coordinator asks the manager for the run of an enqueue. -/
def AsksPort (state : CoordinatorState) (request : EnqueueRequest) : Prop :=
  match request.binding with
  | .background => False
  | .inheritRunningBatch callerSlotId => inheritedRun state callerSlotId = none
  | .userVisible | .activeRunOrBackground => True
  | .systemInitiated inheritFrom => inheritFrom.bind (inheritedRun state) = none

/-- No enqueue asks for the active run while a summary that completes it is waiting to be applied. -/
def Unhurried (x : TeamState) : TeamOp → Prop
  | .acquire request =>
    validateEnqueueConstraint request.slotId (requestedSlot x.coordinator.state request) = .ok () →
      AsksPort x.coordinator.state request → ∀ summary, .applyWorkSummary summary ∈ x.pending →
        Completes summary → currentActiveRunId x.manager ≠ some summary.teamRunId
  | _ => True

lemma eraseDups_eq_nil {l : List String} : l.eraseDups = [] ↔ l = [] := by
  cases l with
  | nil => simp
  | cons a l => simp [List.eraseDups_cons]

lemma noWork_iff : noWork (runSummaryLocked st r) = true ↔
    (∀ (k : String) (i : WorkIntent), st.intents[k]? = some i → i.teamRunId = some r →
      i.state.isTerminal = true) ∧
    ∀ (k : String) (record : EnqueueLeaseRecord), st.enqueueLeases[k]? = some record →
      record.lease.teamRunId ≠ some r := by
  have live (i : WorkIntent) : i.state.isTerminal = true ↔
      i.state ≠ .queued ∧ i.state.startingBatch = none ∧ i.state.runningBatch = none := by
    cases i.state <;> simp [WorkIntentState.isTerminal, WorkIntentState.startingBatch,
      WorkIntentState.runningBatch]
  rw [noWork, decide_eq_true_iff]
  simp only [runSummaryLocked, List.length_eq_zero_iff, eraseDups_eq_nil,
    List.filter_eq_nil_iff, List.filterMap_eq_nil_iff, decide_eq_true_eq, associated, associatedLeases,
    List.mem_filter, Table.mem_values, and_imp, forall_exists_index, live]
  constructor
  · rintro ⟨queued, starting, running, leases, _⟩
    exact ⟨fun k i hi hr => ⟨queued i k hi hr, starting i k hi hr, running i k hi hr⟩,
      fun k record hl => leases record k hl⟩
  · rintro ⟨intents, leases⟩
    refine ⟨fun i k hi hr => (intents k i hi hr).1, fun i k hi hr => (intents k i hi hr).2.1,
      fun i k hi hr => (intents k i hi hr).2.2, fun record k hl => leases k record hl, ?_⟩
    intro i k hi hr queued
    exact absurd queued.1 (intents k i hi hr).1

lemma workless_of_noWork {σ : Tracked} (inv : Inv c σ)
    (idle : noWork (runSummaryLocked σ.state r) = true) : Workless σ.state r := by
  obtain ⟨intents, leases⟩ := noWork_iff.mp idle
  exact ⟨intents, fun s a ha => inv.batches intents ha, leases⟩

/-- Where the run of an enqueue comes from, and what the manager makes of it. -/
inductive BoundBy (M : TeamRunManager) (m : ManagerState) (st : CoordinatorState)
    (request : EnqueueRequest) (binding : RunBinding) (m' : ManagerState) : Prop where
  | free (none' : binding.teamRunId = none) (same : m' = m)
  | inherited {s : String} {a : ActiveBatch} {r : String} (ha : activeOf st s = some a)
    (hr : r ∈ a.batch.teamRunIds) (run : binding.teamRunId = some r) (same : m' = m)
  | attached {run run' : TeamRunRecord} (asks : AsksPort st request)
    (active : m.activeRun = some run) (own : binding.teamRunId = some run.teamRunId)
    (hr : m'.run = some run') (id : run'.teamRunId = run.teamRunId) (status : run'.status = run.status)
    (ticks : m'.ticks = m.ticks)
  | opened {source : TeamRunSource} (own : binding.teamRunId = some (M.generateId m.ticks))
    (same : m' = m.tick.setRun
      (openedRun (M.generateId m.ticks) source request.slotId request.role))

lemma boundBy_attachOrOpen (asks : AsksPort st request) {source : TeamRunSource} {intervention : Bool} :
    BoundBy M m st request (attachOrOpen M m source intervention request.slotId request.role).1
      (attachOrOpen M m source intervention request.slotId request.role).2 := by
  rcases attachOrOpen_cases M m source intervention request.slotId request.role with
    ⟨run, hr, active, own, e⟩ | ⟨own, e⟩
  · rw [e]
    have act : m.activeRun = some run := Option.filter_eq_some_iff.mpr ⟨hr, active⟩
    exact .attached asks act own rfl rfl rfl rfl
  · exact .opened own e

lemma inheritedRun_spec {s : String} (h : inheritedRun st s = some r) :
    ∃ a, activeOf st s = some a ∧ r ∈ a.batch.teamRunIds := by
  obtain ⟨a, ha, e⟩ := Option.bind_eq_some_iff.mp h
  exact ⟨a, ha, List.mem_of_head? e⟩

lemma resolveBinding_cases (M : TeamRunManager) (m : ManagerState) (st : CoordinatorState)
    (request : EnqueueRequest) :
    BoundBy M m st request (resolveBinding (port M) m st request).1
      (resolveBinding (port M) m st request).2 := by
  unfold resolveBinding
  cases hb : request.binding with
  | userVisible =>
    show BoundBy M m st request (bindEnqueue M m request).1 (bindEnqueue M m request).2
    unfold bindEnqueue
    rw [hb]
    exact boundBy_attachOrOpen (by rw [AsksPort, hb]; trivial)
  | activeRunOrBackground =>
    show BoundBy M m st request (bindEnqueue M m request).1 (bindEnqueue M m request).2
    unfold bindEnqueue
    rw [hb]
    cases active : m.activeRun with
    | none => exact .free (by rw [currentActiveRunId, active]; rfl) rfl
    | some run =>
      have hr := (Option.filter_eq_some_iff.mp active).1
      have own : currentActiveRunId m = some run.teamRunId := by rw [currentActiveRunId, active]; rfl
      exact .attached (by rw [AsksPort, hb]; trivial) active own hr rfl rfl rfl
  | background => exact .free rfl rfl
  | inheritRunningBatch callerSlotId =>
    dsimp only
    cases hi : inheritedRun st callerSlotId with
    | none => exact boundBy_attachOrOpen (by rw [AsksPort, hb]; exact hi)
    | some r =>
      obtain ⟨a, ha, hr⟩ := inheritedRun_spec hi
      exact .inherited ha hr rfl rfl
  | systemInitiated inheritFrom =>
    dsimp only
    cases hi : inheritFrom.bind (inheritedRun st) with
    | none => exact boundBy_attachOrOpen (by rw [AsksPort, hb]; exact hi)
    | some r =>
      obtain ⟨s, _, h⟩ := Option.bind_eq_some_iff.mp hi
      obtain ⟨a, ha, hr⟩ := inheritedRun_spec h
      exact .inherited ha hr rfl rfl

lemma BoundBy.ticks {binding : RunBinding} (b : BoundBy M m st request binding m') :
    m.ticks ≤ m'.ticks := by
  cases b with
  | free _ same => exact same ▸ le_refl _
  | inherited _ _ _ same => exact same ▸ le_refl _
  | attached _ _ _ _ _ _ ticks => exact ticks ▸ le_refl _
  | opened _ same => exact same ▸ Nat.le_succ _

lemma BoundBy.run {binding : RunBinding} (b : BoundBy M m st request binding m')
    (own : binding.teamRunId = some r) :
    (∃ s a, activeOf st s = some a ∧ r ∈ a.batch.teamRunIds) ∨
      (AsksPort st request ∧ currentActiveRunId m = some r) ∨
      (r = M.generateId m.ticks ∧ m.ticks < m'.ticks) := by
  cases b with
  | free none' _ =>
    rw [none'] at own
    cases own
  | inherited ha hr own' _ =>
    rw [own'] at own
    cases own
    exact .inl ⟨_, _, ha, hr⟩
  | attached asks active own' _ _ _ _ =>
    rw [own'] at own
    cases own
    exact .inr (.inl ⟨asks, by rw [currentActiveRunId, active]; rfl⟩)
  | opened own' same =>
    rw [own'] at own
    cases own
    exact .inr (.inr ⟨rfl, same ▸ Nat.lt_succ_self _⟩)

lemma BoundBy.record {binding : RunBinding} {run' : TeamRunRecord}
    (b : BoundBy M m st request binding m') (hr' : m'.run = some run') :
    (∃ run, m.run = some run ∧ run'.teamRunId = run.teamRunId ∧ run'.status = run.status) ∨
      (run'.status = .accepted ∧ run'.teamRunId = M.generateId m.ticks ∧ m.ticks < m'.ticks) := by
  cases b with
  | free _ same => exact .inl ⟨run', same ▸ hr', rfl, rfl⟩
  | inherited _ _ _ same => exact .inl ⟨run', same ▸ hr', rfl, rfl⟩
  | attached _ active _ hr id status _ =>
    rw [hr] at hr'
    cases hr'
    exact .inl ⟨_, (Option.filter_eq_some_iff.mp active).1, id, status⟩
  | opened _ same =>
    subst same
    cases hr'
    exact .inr ⟨rfl, rfl, Nat.lt_succ_self _⟩

lemma resolveBinding_congr {ρ : Type} {P : RunCausalityPort ρ} {q : ρ} {st' : CoordinatorState}
    (same : ∀ s, activeOf st' s = activeOf st s) :
    resolveBinding P q st' request = resolveBinding P q st request := by
  have inherited : inheritedRun st' = inheritedRun st := by
    funext s
    exact congrArg (·.bind fun active : ActiveBatch => active.batch.teamRunIds.head?) (same s)
  unfold resolveBinding
  rw [inherited]

lemma resolveBinding_answering {ρ : Type} {P : RunCausalityPort ρ} {q : ρ} :
    (resolveBinding (.answering (resolveBinding P q st request).1) () st request).1 =
      (resolveBinding P q st request).1 := by
  unfold resolveBinding
  cases request.binding with
  | userVisible => rfl
  | activeRunOrBackground => rfl
  | background => rfl
  | inheritRunningBatch callerSlotId =>
    cases hi : inheritedRun st callerSlotId <;> simp [hi, RunCausalityPort.answering]
  | systemInitiated inheritFrom =>
    cases hi : inheritFrom.bind (inheritedRun st) <;> simp [hi, RunCausalityPort.answering]

lemma acquireEnqueue_answering {ρ : Type} (c : SlotWorkCoordinator) (P : RunCausalityPort ρ) (q : ρ)
    (st : CoordinatorState) (request : EnqueueRequest) :
    ∃ answer, (acquireEnqueue c P q st request).2.1 = (exec c st (.acquireEnqueue request answer)).1 := by
  refine ⟨(resolveBinding P q (st.putSlot request.slotId (requestedSlot st request)) request).1, ?_⟩
  show _ = (acquireEnqueue c _ () st request).2.1
  unfold acquireEnqueue
  dsimp only
  cases validateEnqueueConstraint request.slotId
      { st.slotOrNew request.slotId request.role with role := request.role } with
  | error error => rfl
  | ok _ =>
    dsimp only
    rw [← resolveBinding_answering (P := P) (q := q)]
    rfl

/-- An enqueue is rejected, or a lease of the bound run is granted. -/
lemma acquire_cases (x : TeamState) (request : EnqueueRequest) :
    (∃ answer, (teamStep c M x (.acquire request)).coordinator =
      track c x.coordinator (.acquireEnqueue request answer)) ∧
    (teamStep c M x (.acquire request)).pending = x.pending ∧
    (teamStep c M x (.acquire request)).coordinator.state.intents = x.coordinator.state.intents ∧
    (((∃ error, validateEnqueueConstraint request.slotId
          (requestedSlot x.coordinator.state request) = .error error) ∧
        (teamStep c M x (.acquire request)).manager = x.manager ∧
        (teamStep c M x (.acquire request)).coordinator.state.enqueueLeases =
          x.coordinator.state.enqueueLeases) ∨
      ∃ record,
        validateEnqueueConstraint request.slotId (requestedSlot x.coordinator.state request) = .ok () ∧
        (teamStep c M x (.acquire request)).manager =
          (resolveBinding (port M) x.manager x.coordinator.state request).2 ∧
        record.lease.teamRunId =
          (resolveBinding (port M) x.manager x.coordinator.state request).1.teamRunId ∧
        (teamStep c M x (.acquire request)).coordinator.state.enqueueLeases =
          x.coordinator.state.enqueueLeases.insert (c.generateId x.coordinator.state.ticks) record) := by
  obtain ⟨answer, e⟩ :=
    acquireEnqueue_answering c (port M) x.manager x.coordinator.state request
  refine ⟨⟨answer, ?_⟩, rfl, ?_, ?_⟩
  · simp only [teamStep, track, returnedBatch, Option.toList_none, List.append_nil, ← e]
  · have unmoved : Unmoved x.coordinator.state
        (acquireEnqueue c (port M) x.manager x.coordinator.state request).2.1 :=
      acquireEnqueue_unmoved
    exact unmoved.intents
  · show (_ ∧ (acquireEnqueue c (port M) x.manager x.coordinator.state request).2.2 = x.manager ∧
      (acquireEnqueue c (port M) x.manager x.coordinator.state request).2.1.enqueueLeases = _) ∨
      ∃ record, _ ∧ (acquireEnqueue c (port M) x.manager x.coordinator.state request).2.2 = _ ∧ _ ∧
        (acquireEnqueue c (port M) x.manager x.coordinator.state request).2.1.enqueueLeases = _
    have same (s : String) : activeOf (x.coordinator.state.putSlot request.slotId
        (requestedSlot x.coordinator.state request)) s = activeOf x.coordinator.state s :=
      (Unmoved.putSlot (show (requestedSlot x.coordinator.state request).work = _ from
        workOf_slotOrNew request.role)).active
    unfold acquireEnqueue
    dsimp only
    rw [show ({ x.coordinator.state.slotOrNew request.slotId request.role with role := request.role } :
      SlotState) = requestedSlot x.coordinator.state request from rfl, resolveBinding_congr same]
    cases validateEnqueueConstraint request.slotId (requestedSlot x.coordinator.state request) with
    | error error => exact .inl ⟨⟨error, rfl⟩, rfl, rfl⟩
    | ok _ => exact .inr ⟨_, rfl, rfl, rfl, rfl⟩

def teamSimulation (c : SlotWorkCoordinator) (M : TeamRunManager) :
    LTS.Simulation (teamLts c M) (lts c) where
  map := TeamState.coordinator
  start := by
    rintro _ rfl
    rfl
  step := by
    intro x o y step
    cases o with
    | acquire request =>
      obtain ⟨_, rfl⟩ := step
      obtain ⟨⟨answer, e⟩, _⟩ := acquire_cases (c := c) (M := M) x request
      rw [e]
      exact ⟨[.acquireEnqueue request answer], .one ⟨.of_none rfl, rfl⟩⟩
    | work op =>
      obtain ⟨⟨allowed, _⟩, rfl⟩ := step
      exact ⟨[op], .one ⟨allowed, rfl⟩⟩
    | deliver call =>
      obtain ⟨_, rfl⟩ := step
      exact ⟨[], .nil⟩
    | beginCancel teamRunId reason =>
      obtain ⟨_, rfl⟩ := step
      exact ⟨[], .nil⟩

/-- The invariant of the runs of a team whose enqueues are not in a hurry. -/
structure Consistent (M : TeamRunManager) (x : TeamState) : Prop where
  pending : ∀ summary, .applyWorkSummary summary ∈ x.pending →
    Issued M x.manager summary.teamRunId ∧
      (Completes summary → Workless x.coordinator.state summary.teamRunId)
  named : ∀ r, Named x.coordinator.state r → Issued M x.manager r
  record : ∀ run, x.manager.run = some run → Issued M x.manager run.teamRunId
  published : PublishedTruthfully x

lemma Consistent.work {op : Op} (con : Consistent M x) (inv : Inv c x.coordinator)
    (allowed : TeamAllowed M x (.work op)) : Consistent M (teamStep c M x (.work op)) := by
  obtain ⟨allowed, other, issued⟩ := allowed
  refine ⟨fun summary mem => ?_, fun r named => ?_, con.record, fun run hr status => ?_⟩
  · rcases List.mem_append.mp mem with old | new
    · obtain ⟨known, idle⟩ := con.pending summary old
      exact ⟨known, fun completes => (idle completes).exec inv allowed other⟩
    · obtain ⟨e, named⟩ := exec_reports inv allowed new
      refine ⟨?_, fun completes => ?_⟩
      · rcases named with named | cancel
        · exact con.named _ named
        · exact issued _ cancel
      · have idle := completes.2
        rw [e] at idle
        exact workless_of_noWork (inv.track allowed) idle
  · exact con.named r (named.exec inv allowed other)
  · exact (con.published run hr status).exec inv allowed other

lemma SlotWorkCoordinator.Workless.enqueued (w : Workless x.coordinator.state r) (inv : Inv c y.coordinator)
    (intents : y.coordinator.state.intents = x.coordinator.state.intents)
    (leases : ∀ (k : String) (record : EnqueueLeaseRecord),
      y.coordinator.state.enqueueLeases[k]? = some record → record.lease.teamRunId ≠ some r) :
    Workless y.coordinator.state r := by
  have ended : ∀ (k : String) (i : WorkIntent), y.coordinator.state.intents[k]? = some i →
      i.teamRunId = some r → i.state.isTerminal = true := by
    rw [intents]
    exact w.intents
  exact ⟨ended, fun s a ha => inv.batches ended ha, leases⟩

lemma Consistent.refused (con : Consistent M x) (inv : Inv c y.coordinator) (pending : y.pending = x.pending)
    (intents : y.coordinator.state.intents = x.coordinator.state.intents) (manager : y.manager = x.manager)
    (leases : y.coordinator.state.enqueueLeases = x.coordinator.state.enqueueLeases) : Consistent M y := by
  refine ⟨fun summary mem => ?_, fun r named => ?_, by rw [manager]; exact con.record,
    fun run hr status => ?_⟩
  · rw [pending] at mem
    obtain ⟨known, idle⟩ := con.pending summary mem
    rw [manager]
    refine ⟨known, fun completes => (idle completes).enqueued inv intents ?_⟩
    rw [leases]
    exact (idle completes).leases
  · rw [manager]
    refine con.named r ?_
    cases named with
    | intent hi hr => exact .intent (intents ▸ hi) hr
    | lease hl hr => exact .lease (leases ▸ hl) hr
  · rw [manager] at hr
    refine (con.published run hr status).enqueued inv intents ?_
    rw [leases]
    exact (con.published run hr status).leases

section Granted

variable {binding : RunBinding} {record : EnqueueLeaseRecord} {key : String}

lemma BoundBy.workless (bound : BoundBy M x.manager x.coordinator.state request binding m')
    (w : Workless x.coordinator.state r) (known : Issued M x.manager r) (own : binding.teamRunId = some r) :
    AsksPort x.coordinator.state request ∧ currentActiveRunId x.manager = some r := by
  rcases bound.run own with ⟨s, a, ha, hr⟩ | asks | ⟨rfl, _⟩
  · exact absurd hr (w.batches s a ha)
  · exact asks
  · exact absurd known not_issued

lemma SlotWorkCoordinator.Workless.granted (w : Workless x.coordinator.state r) (inv : Inv c y.coordinator)
    (intents : y.coordinator.state.intents = x.coordinator.state.intents)
    (lease : record.lease.teamRunId = binding.teamRunId)
    (leases : y.coordinator.state.enqueueLeases = x.coordinator.state.enqueueLeases.insert key record)
    (other : binding.teamRunId ≠ some r) : Workless y.coordinator.state r := by
  refine w.enqueued inv intents fun k record' hk => ?_
  rw [leases, Table.get_insert] at hk
  split_ifs at hk with own
  · cases hk
    rw [lease]
    exact other
  · exact w.leases k record' hk

lemma SlotWorkCoordinator.Named.granted (h : Named y.coordinator.state r)
    (intents : y.coordinator.state.intents = x.coordinator.state.intents)
    (lease : record.lease.teamRunId = binding.teamRunId)
    (leases : y.coordinator.state.enqueueLeases = x.coordinator.state.enqueueLeases.insert key record) :
    Named x.coordinator.state r ∨ binding.teamRunId = some r := by
  cases h with
  | intent hi hr => exact .inl (.intent (intents ▸ hi) hr)
  | @lease k record' hl hr =>
    rw [leases, Table.get_insert] at hl
    split_ifs at hl with own
    · cases hl
      exact .inr (lease ▸ hr)
    · exact .inl (.lease hl hr)

end Granted

/-- An enqueue that is not in a hurry keeps the invariant. -/
lemma Consistent.acquire (con : Consistent M x) (inv : Inv c x.coordinator)
    (free : Unhurried x (.acquire request)) : Consistent M (teamStep c M x (.acquire request)) := by
  obtain ⟨⟨answer, track⟩, pending, intents, result⟩ := acquire_cases (c := c) (M := M) x request
  have inv' : Inv c (teamStep c M x (.acquire request)).coordinator := by
    rw [track]
    exact inv.track (.of_none rfl)
  generalize teamStep c M x (.acquire request) = y at *
  rcases result with ⟨_, manager, leases⟩ | ⟨record, valid, manager, lease, leases⟩
  · exact con.refused inv' pending intents manager leases
  have bound := resolveBinding_cases M x.manager x.coordinator.state request
  rw [← manager] at bound
  generalize (resolveBinding (port M) x.manager x.coordinator.state request).1 = binding at *
  refine ⟨fun summary mem => ?_, fun r h => ?_, fun run' hr' => ?_, fun run' hr' status => ?_⟩
  · rw [pending] at mem
    obtain ⟨known, idle⟩ := con.pending summary mem
    refine ⟨known.mono bound.ticks, fun completes => ?_⟩
    refine (idle completes).granted inv' intents lease leases fun own => ?_
    obtain ⟨asks, current⟩ := bound.workless (idle completes) known own
    exact free valid asks summary mem completes current
  · rcases h.granted intents lease leases with old | own
    · exact (con.named r old).mono bound.ticks
    · rcases bound.run own with ⟨s, a, ha, hr⟩ | ⟨_, current⟩ | ⟨rfl, later⟩
      · exact (con.named r (inv.named (inv.active s a ha).2 hr)).mono bound.ticks
      · obtain ⟨run, hrun, rfl⟩ := Option.map_eq_some_iff.mp current
        exact (con.record run (Option.filter_eq_some_iff.mp hrun).1).mono bound.ticks
      · exact ⟨_, later, rfl⟩
  · rcases bound.record hr' with ⟨run, hr, id, _⟩ | ⟨_, id, later⟩
    · rw [id]
      exact (con.record run hr).mono bound.ticks
    · rw [id]
      exact ⟨_, later, rfl⟩
  · rcases bound.record hr' with ⟨run, hr, id, same⟩ | ⟨accepted, _⟩
    · rw [same] at status
      rw [id]
      refine (con.published run hr status).granted inv' intents lease leases fun own => ?_
      obtain ⟨_, current⟩ := bound.workless (con.published run hr status) (con.record run hr) own
      obtain ⟨run0, hrun, _⟩ := Option.map_eq_some_iff.mp current
      obtain ⟨hr0, alive⟩ := Option.filter_eq_some_iff.mp hrun
      rw [hr] at hr0
      cases hr0
      rcases status with e | e <;> simp [TeamRunRecord.isActive, e, TeamRunStatus.isActive] at alive
    · rw [accepted] at status
      simp at status

lemma Consistent.manager (con : Consistent M x) (m' : ManagerState) (pending' : List PortCall)
    (ticks : x.manager.ticks ≤ m'.ticks)
    (left : ∀ summary, .applyWorkSummary summary ∈ pending' → .applyWorkSummary summary ∈ x.pending)
    (record : ∀ run, m'.run = some run → Issued M x.manager run.teamRunId ∧
      (run.status = .completed ∨ run.status = .cancelled →
        Workless x.coordinator.state run.teamRunId)) :
    Consistent M { x with manager := m', pending := pending' } := by
  refine ⟨fun summary h => ?_, fun r h => (con.named r h).mono ticks,
    fun run hr => (record run hr).1.mono ticks, fun run hr => (record run hr).2⟩
  obtain ⟨known, idle⟩ := con.pending summary (left summary h)
  exact ⟨known.mono ticks, idle⟩

/-- Making a call keeps the invariant. -/
lemma Consistent.deliver {call : PortCall} (con : Consistent M x) (mem : call ∈ x.pending) :
    Consistent M (teamStep c M x (.deliver call)) := by
  have left : ∀ summary, .applyWorkSummary summary ∈ x.pending.erase call →
      .applyWorkSummary summary ∈ x.pending := fun summary h => List.mem_of_mem_erase h
  have kept : ∀ run, x.manager.run = some run → Issued M x.manager run.teamRunId ∧
      (run.status = .completed ∨ run.status = .cancelled →
        Workless x.coordinator.state run.teamRunId) := fun run hr => ⟨con.record run hr, con.published run hr⟩
  cases call with
  | abortBinding binding =>
    refine con.manager (abortBinding x.manager binding) _ ?_ left fun run hr => ?_
    · unfold abortBinding
      split_ifs <;> exact le_refl _
    · unfold abortBinding at hr
      split_ifs at hr
      exact kept run hr
  | publishSlotWork snapshot =>
    exact con.manager (publishSlotWork M x.manager snapshot) _ (Nat.le_succ _) left kept
  | applyWorkSummary summary =>
    rcases applyWorkSummary_cases M x.manager summary with
      ⟨_, e⟩ | ⟨run, run', hr, own, _, rfl, hr', ticks, _⟩
    · refine con.manager (applyWorkSummary M x.manager summary) _ ?_ left ?_
      · rw [e]
      · rw [e]
        exact kept
    · have id := (summarized_keeps (M.nowMs x.manager.ticks) run summary).1
      refine con.manager (applyWorkSummary M x.manager summary) _ ?_ left fun run'' hr'' => ?_
      · rw [ticks]
        exact Nat.le_succ _
      · cases hr'.symm.trans hr''
        refine ⟨id ▸ con.record run hr, fun status => ?_⟩
        rw [id]
        -- The summary ended the run, or the run had ended before.
        rw [summarized_status] at status
        split_ifs at status with failed idle works
        · simp at status
        · rw [own]
          exact (con.pending summary mem).2 ⟨Nat.eq_zero_of_not_pos failed, idle⟩
        · rw [own]
          exact (con.pending summary mem).2 ⟨Nat.eq_zero_of_not_pos failed, idle⟩
        · simp at status
        · exact con.published run hr status

lemma Consistent.beginCancel {teamRunId : String} {reason : Option String} (con : Consistent M x) :
    Consistent M (teamStep c M x (.beginCancel teamRunId reason)) := by
  refine con.manager (TeamRunManager.beginCancel M x.manager teamRunId reason).2 x.pending ?_
    (fun _ h => h) fun run' hr' => ?_
  · rcases beginCancel_cases M x.manager teamRunId reason with ⟨_, e⟩ | ⟨_, _, _, _, _, _, ticks, _⟩
    · rw [e]
    · exact ticks
  · rcases beginCancel_cases M x.manager teamRunId reason with ⟨_, e⟩ | ⟨run, hr, _, _, _, hr2, _⟩
    · rw [e] at hr'
      exact ⟨con.record run' hr', con.published run' hr'⟩
    · cases hr2.symm.trans hr'
      exact ⟨con.record run hr, fun status => by simp [cancelledRun] at status⟩

lemma Consistent.start : Consistent M newTeam := by
  refine ⟨fun summary h => ?_, fun r h => ?_, fun run hr => ?_, fun run hr => ?_⟩
  · cases h
  · cases h with
    | @intent k i hi hr =>
      rw [show newTeam.coordinator.state.intents[k]? = none from Table.get_empty] at hi
      cases hi
    | @lease k record hl hr =>
      rw [show newTeam.coordinator.state.enqueueLeases[k]? = none from Table.get_empty] at hl
      cases hl
  · cases hr
  · cases hr

lemma Consistent.reachable (reach : ((teamLts c M).guard Unhurried).Reachable x) : Consistent M x := by
  refine reach.invariant_of (P := Consistent M) ?_ ?_
  · rintro _ rfl
    exact .start
  · rintro x o y reach con ⟨free, allowed, rfl⟩
    have inv : Inv c x.coordinator := .reachable ((teamSimulation c M).reachable reach.of_guard)
    cases o with
    | acquire request => exact con.acquire inv free
    | work op => exact con.work inv allowed
    | deliver call => exact con.deliver allowed
    | beginCancel teamRunId reason => exact con.beginCancel

lemma resolveBinding_active {run : TeamRunRecord} (asks : AsksPort st request)
    (active : m.activeRun = some run) :
    (resolveBinding (port M) m st request).1.teamRunId = some run.teamRunId ∧
      ∃ run', (resolveBinding (port M) m st request).2.run = some run' ∧
        run'.teamRunId = run.teamRunId := by
  have attach (source : TeamRunSource) (intervention : Bool) :
      (attachOrOpen M m source intervention request.slotId request.role).1.teamRunId =
        some run.teamRunId ∧
      ∃ run', (attachOrOpen M m source intervention request.slotId request.role).2.run = some run' ∧
        run'.teamRunId = run.teamRunId := by
    unfold attachOrOpen
    rw [active]
    exact ⟨rfl, _, rfl, rfl⟩
  unfold AsksPort at asks
  unfold resolveBinding
  cases hb : request.binding with
  | userVisible =>
    show (bindEnqueue M m request).1.teamRunId = _ ∧ ∃ run', (bindEnqueue M m request).2.run = _ ∧ _
    unfold bindEnqueue
    rw [hb]
    exact attach _ _
  | activeRunOrBackground =>
    show (bindEnqueue M m request).1.teamRunId = _ ∧ ∃ run', (bindEnqueue M m request).2.run = _ ∧ _
    unfold bindEnqueue
    rw [hb]
    exact ⟨by rw [currentActiveRunId, active]; rfl, run, (Option.filter_eq_some_iff.mp active).1, rfl⟩
  | background =>
    rw [hb] at asks
    exact asks.elim
  | inheritRunningBatch callerSlotId =>
    rw [hb] at asks
    dsimp only at asks ⊢
    rw [asks]
    exact attach _ _
  | systemInitiated inheritFrom =>
    rw [hb] at asks
    dsimp only at asks ⊢
    rw [asks]
    exact attach _ _

lemma applyWorkSummary_completes {run : TeamRunRecord} (hr : m.run = some run)
    (own : run.teamRunId = summary.teamRunId) (completes : Completes summary) :
    ∃ run', (applyWorkSummary M m summary).run = some run' ∧ run'.teamRunId = summary.teamRunId ∧
      (run'.status = .completed ∨ run'.status = .cancelled) := by
  have found : m.runOf summary.teamRunId = some run :=
    Option.filter_eq_some_iff.mpr ⟨hr, decide_eq_true own⟩
  rcases applyWorkSummary_cases M m summary with ⟨gone, _⟩ | ⟨run0, run', hr0, _, _, rfl, hr', _, _⟩
  · rw [gone] at found
    cases found
  · cases hr.symm.trans hr0
    refine ⟨_, hr', (summarized_keeps _ _ _).1.trans own, ?_⟩
    show (summarized _ run summary).status = _ ∨ (summarized _ run summary).status = _
    rw [summarized_status, if_neg (by rw [completes.1]; exact Nat.lt_irrefl 0), if_pos completes.2]
    split_ifs
    · exact .inr rfl
    · exact .inl rfl

lemma hurried_lies (hurried : ¬ Unhurried x (.acquire request)) :
    ∃ call, TeamAllowed M (teamStep c M x (.acquire request)) (.deliver call) ∧
      ¬ PublishedTruthfully (teamStep c M (teamStep c M x (.acquire request)) (.deliver call)) := by
  simp only [Unhurried, Classical.not_forall, not_not] at hurried
  obtain ⟨valid, asks, summary, mem, completes, current⟩ := hurried
  obtain ⟨run, active, own⟩ := Option.map_eq_some_iff.mp current
  obtain ⟨bound, run', hr', id⟩ := resolveBinding_active (M := M) asks active
  obtain ⟨_, pending, _, ⟨⟨error, rejected⟩, _⟩ | ⟨record, _, manager, lease, leases⟩⟩ :=
    acquire_cases (c := c) (M := M) x request
  · rw [valid] at rejected
    cases rejected
  generalize teamStep c M x (.acquire request) = y at *
  refine ⟨.applyWorkSummary summary, ?_, fun truthful => ?_⟩
  · show _ ∈ y.pending
    rw [pending]
    exact mem
  · rw [← manager] at hr'
    obtain ⟨run2, hr2, own2, ended⟩ :=
      applyWorkSummary_completes (M := M) hr' (id.trans own) completes
    have workless := truthful run2 hr2 ended
    refine workless.leases (c.generateId x.coordinator.state.ticks) record ?_ ?_
    · show y.coordinator.state.enqueueLeases[_]? = _
      rw [leases, Table.get_insert, if_pos rfl]
    · rw [lease, bound, own2, own]

/-- In every run of a team in which no enqueue asks for the active run while a summary that completes
it is waiting to be applied, a run that is published as completed or as cancelled has no work. An
enqueue that does ask for it can be followed by the publication. -/
theorem truthful_of_unhurried (c : SlotWorkCoordinator) (M : TeamRunManager) :
    (∀ x, ((teamLts c M).guard Unhurried).Reachable x → PublishedTruthfully x) ∧
    ∀ x o y, (teamLts c M).Reachable x → (teamLts c M).step x o y → ¬ Unhurried x o →
      ∃ call z, (teamLts c M).step y (.deliver call) z ∧ ¬ PublishedTruthfully z := by
  refine ⟨fun x reach => (Consistent.reachable reach).published, fun x o y _ step hurried => ?_⟩
  cases o with
  | acquire request =>
    obtain ⟨_, rfl⟩ := step
    obtain ⟨call, allowed, lies⟩ := hurried_lies hurried
    exact ⟨call, _, ⟨allowed, rfl⟩, lies⟩
  | work op => exact absurd trivial hurried
  | deliver call => exact absurd trivial hurried
  | beginCancel teamRunId reason => exact absurd trivial hurried

def userRequest : EnqueueRequest :=
  { slotId := "lead", role := .lead, source := .userMessage, binding := .userVisible }

/-- The lead takes a message of the user, and is done with it. -/
def leadTurn : List Op :=
  [.acquireEnqueue userRequest
      { teamRunId := some "run", createdNewRun := true, userIntervention := false },
    .commitEnqueue userLease (some "m"), .setRuntimeConstraint "lead" .ready, .next "lead",
    .completeBatchWithAck userBatch]

/-- The turn of the lead, in the team. The manager has heard that the message is queued, and not yet
that it is done. -/
def teamTurn : List TeamOp :=
  [.acquire userRequest,
    .work (.commitEnqueue userLease (some "m")),
    .deliver (.applyWorkSummary (summaryAfter (leadTurn.take 2))),
    .work (.setRuntimeConstraint "lead" .ready),
    .work (.next "lead"),
    .work (.completeBatchWithAck userBatch)]

def doneReport : TeamOp :=
  .deliver (.applyWorkSummary (summaryAfter leadTurn))

lemma allowed_work {op : Op} (batch : op.batch = none)
    (other : ∀ request answer, op ≠ .acquireEnqueue request answer)
    (cancel : ∀ teamRunId, op ≠ .cancelRun teamRunId) : TeamAllowed M x (.work op) :=
  ⟨.of_none batch, other, fun r e => absurd e (cancel r)⟩

lemma allowed_complete {batch : WorkBatch} (claimed : batch.asClaimed ∈ x.coordinator.claimed) :
    TeamAllowed M x (.work (.completeBatchWithAck batch)) := by
  refine ⟨fun b e => ?_, fun _ _ => by simp, fun _ => by simp⟩
  cases e
  exact claimed

lemma unhurried_of_nil (h : x.pending = []) : Unhurried x (.acquire request) := by
  intro _ _ summary mem
  rw [h] at mem
  cases mem

lemma teamTurn_allowed : LTS.EnabledAll (fun x o => Unhurried x o ∧ TeamAllowed runs x o)
    (teamStep strokes runs) newTeam (teamTurn ++ [doneReport]) :=
  ⟨⟨unhurried_of_nil rfl, trivial⟩,
    ⟨trivial, allowed_work rfl (by simp) (by simp)⟩,
    ⟨trivial, show _ ∈ _ by decide⟩,
    ⟨trivial, allowed_work rfl (by simp) (by simp)⟩,
    ⟨trivial, allowed_work rfl (by simp) (by simp)⟩,
    ⟨trivial, allowed_complete (by decide)⟩,
    ⟨trivial, show _ ∈ _ by decide⟩, trivial⟩

/-- If the report comes at once, the run is published as completed, and has no work. -/
theorem truthful_teamTurn :
    PublishedTruthfully ((teamTurn ++ [doneReport]).foldl (teamStep strokes runs) newTeam) ∧
      ((teamTurn ++ [doneReport]).foldl (teamStep strokes runs) newTeam).manager.run.map (·.status) =
        some .completed :=
  ⟨(truthful_of_unhurried strokes runs).1 _ (.guarded teamTurn_allowed), by decide⟩

def staleReport : List TeamOp :=
  teamTurn ++ [.acquire userRequest, doneReport]

def staleReported : TeamState :=
  staleReport.foldl (teamStep strokes runs) newTeam

/-- The run is published as completed, and has a lease. -/
theorem staleReport_lies :
    (teamLts strokes runs).Run newTeam staleReport staleReported ∧
      ¬ PublishedTruthfully staleReported := by
  refine ⟨.computed ?_, fun truthful => ?_⟩
  · exact ⟨trivial, allowed_work rfl (by simp) (by simp), show _ ∈ _ by decide,
      allowed_work rfl (by simp) (by simp), allowed_work rfl (by simp) (by simp),
      allowed_complete (by decide), trivial, show _ ∈ _ by decide, trivial⟩
  · have done : ∃ run, staleReported.manager.run = some run ∧ run.status = .completed ∧
        run.teamRunId = "run" := ⟨_, rfl, by decide, by decide⟩
    have granted : ∃ record, staleReported.coordinator.state.enqueueLeases["|||||"]? = some record ∧
        record.lease.teamRunId = some "run" := ⟨_, rfl, by decide⟩
    obtain ⟨run, hr, status, id⟩ := done
    obtain ⟨record, hl, bound⟩ := granted
    have workless := truthful run hr (.inl status)
    rw [id] at workless
    exact workless.leases "|||||" record hl bound

end KiCore.Team

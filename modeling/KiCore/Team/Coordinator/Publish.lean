import KiCore.Team.Coordinator.Invariant

/-!
# What an operation tells the run manager

Every operation computes the summaries it applies under the lock: `exec_reports` says that they are
the summaries of the state it leaves, and of runs that the state before names. A summary without
work is one of a run that is `Workless`, and a run stays so until an enqueue is bound to it.
-/

namespace KiCore.Team

open KiCore.Lib

namespace SlotWorkCoordinator

variable {c : SlotWorkCoordinator} {G : CoordinatorBoard → String → WorkIntent → Prop}
  {st : CoordinatorState} {σ : Tracked} {op : Op} {s k r : String} {i : WorkIntent}
  {batch : WorkBatch} {record : EnqueueLeaseRecord} {summary : RunWorkSummary}

def requestedSlot (state : CoordinatorState) (request : EnqueueRequest) : SlotState :=
  { state.slotOrNew request.slotId request.role with role := request.role }

lemma leases_recoverAll {role : TeamRunTargetRole} {ms : List String}
    {acc : CoordinatorState × List String} :
    (ms.foldl (recoverMessage c s role) acc).1.enqueueLeases = acc.1.enqueueLeases := by
  induction ms generalizing acc with
  | nil => rfl
  | cons m ms ih =>
    rw [List.foldl_cons, ih]
    unfold recoverMessage
    dsimp only
    split <;> rfl

lemma leases_cancelledState {teamRunId : String} :
    (cancelledState c st teamRunId).enqueueLeases = st.enqueueLeases := by
  have fold {β : Type} (f : CoordinatorState → β → CoordinatorState)
      (keeps : ∀ st x, (f st x).enqueueLeases = st.enqueueLeases) (l : List β)
      (st : CoordinatorState) : (l.foldl f st).enqueueLeases = st.enqueueLeases := by
    induction l generalizing st with
    | nil => rfl
    | cons x l ih => exact (ih _).trans (keeps st x)
  have dissolved : (dissolvedState st teamRunId).enqueueLeases = st.enqueueLeases := by
    rw [dissolvedState]
    apply fold
    intro st x
    rfl
  refine (fold cancelQueued (fun st id => ?_) _ _).trans dissolved
  unfold cancelQueued
  cases st.intents[id]? <;> rfl

lemma leases_abortEnqueue {lease : EnqueueLease}
    (h : (abortEnqueue c st lease).state.enqueueLeases[k]? = some record) :
    st.enqueueLeases[k]? = some record := by
  unfold abortEnqueue at h
  cases hl : st.enqueueLeases[lease.leaseId]? with
  | none =>
    rw [hl] at h
    exact h
  | some granted =>
    rw [hl] at h
    dsimp only at h
    split at h
    · exact h
    · exact (Table.get_erase_some.mp h).2

lemma leases_observeMessages {batchId : String} {messageIds : List String} :
    (observeMessages st s batchId messageIds).state.enqueueLeases = st.enqueueLeases := by
  unfold observeMessages
  cases activeOf st s with
  | none => rfl
  | some active =>
    dsimp only
    split <;> rfl

lemma leases_markStarted {turnId : String} :
    (markStarted c st batch turnId).state.enqueueLeases = st.enqueueLeases := by
  rw [markStarted_state]
  split <;> rfl

lemma leases_retryStart : (retryStart c st batch).state.enqueueLeases = st.enqueueLeases := by
  unfold retryStart
  split <;> rfl

lemma leases_completeBatchWithAck :
    (completeBatchWithAck c st batch).state.enqueueLeases = st.enqueueLeases := by
  unfold completeBatchWithAck
  cases activeOf st batch.slotId with
  | none => rfl
  | some active =>
    dsimp only
    split <;> rfl

lemma leases_terminalizeBatch {t : WorkIntentState} {delivery : DeliveryOutcome} :
    (terminalizeBatch c st batch t delivery).state.enqueueLeases = st.enqueueLeases := by
  rw [terminalizeBatch_state]
  split <;> rfl

lemma leases_interruptBatch {reason : Option String} {replacement : String} :
    (interruptBatch c st batch reason replacement).state.enqueueLeases = st.enqueueLeases := by
  unfold interruptBatch
  split <;> rfl

lemma leases_completeSignals {intentIds : List String} :
    (completeSignals st s intentIds).state.enqueueLeases = st.enqueueLeases := by
  unfold completeSignals
  split <;> rfl

lemma leases_setRuntimeConstraint {constraint : RuntimeConstraint} :
    (setRuntimeConstraint c st s constraint).state.enqueueLeases = st.enqueueLeases := by
  rw [setRuntimeConstraint_state]
  cases endsWork constraint <;> rfl

lemma leases_beginRuntimeRestartInner {allowQueued : Bool} :
    (beginRuntimeRestartInner st s allowQueued).state.enqueueLeases = st.enqueueLeases := by
  unfold beginRuntimeRestartInner
  dsimp only
  split
  · rfl
  · split <;> rfl

lemma leases_abortRuntimeRestart {gate : RuntimeRestartGate} :
    (abortRuntimeRestart st s gate).state.enqueueLeases = st.enqueueLeases := by
  unfold abortRuntimeRestart
  cases st.slots[s]? with
  | none => rfl
  | some slot =>
    dsimp only
    split <;> rfl

lemma leases_requestMcpRefresh {fingerprint : String} :
    (requestMcpRefresh st s fingerprint).state.enqueueLeases = st.enqueueLeases := by
  unfold requestMcpRefresh
  dsimp only
  split
  · rfl
  · split <;> rfl

lemma leases_claimPendingMcpRefresh :
    (claimPendingMcpRefresh st s).state.enqueueLeases = st.enqueueLeases := by
  unfold claimPendingMcpRefresh
  cases st.slots[s]? with
  | none => rfl
  | some slot =>
    dsimp only
    split
    · rfl
    · cases slot.pendingMcpFingerprint <;> rfl

lemma exec_leases (other : ∀ request answer, op ≠ .acquireEnqueue request answer)
    (h : (exec c st op).1.enqueueLeases[k]? = some record) : st.enqueueLeases[k]? = some record := by
  have same {st' : CoordinatorState} (e : st'.enqueueLeases = st.enqueueLeases)
      (h : st'.enqueueLeases[k]? = some record) : st.enqueueLeases[k]? = some record := e ▸ h
  cases op with
  | acquireEnqueue request answer => exact absurd rfl (other request answer)
  | commitEnqueue lease messageId =>
    rcases commitEnqueue_cases c st lease messageId with ⟨_, _, e⟩ | ⟨_, e⟩
    · rw [show (exec c st (.commitEnqueue lease messageId)).1 = _ from e] at h
      exact (Table.get_erase_some.mp h).2
    · exact same (congrArg CoordinatorState.enqueueLeases e) h
  | abortEnqueue lease => exact leases_abortEnqueue h
  | reconcileMailboxSnapshot slotId unread role stale => exact same leases_recoverAll h
  | next slotId =>
    rcases next_cases c st slotId with ⟨b, _, e, _⟩ | ⟨_, e⟩
    · exact same (congrArg CoordinatorState.enqueueLeases e :) h
    · exact same (congrArg CoordinatorState.enqueueLeases e :) h
  | observeMessages slotId batchId messageIds => exact same leases_observeMessages h
  | markStarted b turnId => exact same leases_markStarted h
  | retryStart b => exact same leases_retryStart h
  | completeBatchWithAck b => exact same leases_completeBatchWithAck h
  | failBatch b classification => exact same leases_terminalizeBatch h
  | cancelBatch b classification => exact same leases_terminalizeBatch h
  | interruptBatch b reason replacement => exact same leases_interruptBatch h
  | cancelRun teamRunId =>
    rw [show (exec c st (.cancelRun teamRunId)).1 = _ from cancelRun_state] at h
    exact same leases_cancelledState (Table.get_filter.mp h).1
  | completeSignals slotId intentIds => exact same leases_completeSignals h
  | setRuntimeConstraint slotId constraint => exact same leases_setRuntimeConstraint h
  | beginRuntimeRestart slotId => exact same leases_beginRuntimeRestartInner h
  | beginMcpRuntimeRestart slotId => exact same leases_beginRuntimeRestartInner h
  | abortRuntimeRestart slotId gate => exact same leases_abortRuntimeRestart h
  | requestMcpRefresh slotId fingerprint => exact same leases_requestMcpRefresh h
  | claimPendingMcpRefresh slotId => exact same leases_claimPendingMcpRefresh h
  | stop =>
    rw [show (exec c st .stop).1.enqueueLeases = ∅ from rfl, Table.get_empty] at h
    cases h
  | _ => exact h

/-- An intent or a lease of the state belongs to the run. -/
inductive Named (state : CoordinatorState) (teamRunId : String) : Prop where
  | intent {k : String} {i : WorkIntent} (hi : state.intents[k]? = some i)
    (hr : i.teamRunId = some teamRunId)
  | lease {k : String} {record : EnqueueLeaseRecord} (hl : state.enqueueLeases[k]? = some record)
    (hr : record.lease.teamRunId = some teamRunId)

lemma Inv.named (inv : Inv c σ) (mem : batch.asClaimed ∈ σ.claimed) (hr : r ∈ batch.teamRunIds) :
    Named σ.state r := by
  obtain ⟨k, _, i, hi, e⟩ := ((inv.claimed _ mem).runs r).mp hr
  exact .intent hi e

lemma Named.exec (inv : Inv c σ) (allowed : Allowed σ op)
    (other : ∀ request answer, op ≠ .acquireEnqueue request answer)
    (named : Named (exec c σ.state op).1 r) : Named σ.state r := by
  cases named with
  | @lease k record hl hr => exact .lease (exec_leases other hl) hr
  | @intent k i hi hr =>
    have entries := (exec_moves inv allowed).entries (P := fun _ a => ∀ r, a.teamRunId = some r →
      Named σ.state r) inv.sound.partitioned ?_ ?_ k i.ticket _ (entry_of hi)
    · exact entries r hr
    · intro k a p e r hr
      obtain ⟨i, hi, rfl, _⟩ := intent_of e
      exact .intent hi hr
    · intro d k a g r hr
      cases op with
      | commitEnqueue lease messageId =>
        obtain ⟨⟨slot, ok⟩, _, _, rfl⟩ := g
        obtain ⟨⟨record, hl, rfl⟩, _⟩ := checkCommit_ok ok
        exact .lease hl hr
      | reconcileMailboxSnapshot slotId unread role stale =>
        obtain ⟨_, _, _, none', _⟩ := g
        rw [none'] at hr
        cases hr
      | _ => exact g.elim

/-- The run has no live intent, no batch and no lease. -/
structure Workless (state : CoordinatorState) (teamRunId : String) : Prop where
  intents : ∀ (k : String) (i : WorkIntent), state.intents[k]? = some i →
    i.teamRunId = some teamRunId → i.state.isTerminal = true
  batches : ∀ s a, activeOf state s = some a → teamRunId ∉ a.batch.teamRunIds
  leases : ∀ (k : String) (record : EnqueueLeaseRecord), state.enqueueLeases[k]? = some record →
    record.lease.teamRunId ≠ some teamRunId

lemma Inv.batches (inv : Inv c σ) (intents : ∀ (k : String) (i : WorkIntent),
    σ.state.intents[k]? = some i → i.teamRunId = some r → i.state.isTerminal = true) {a : ActiveBatch}
    (ha : activeOf σ.state s = some a) : r ∉ a.batch.teamRunIds := by
  intro hr
  obtain ⟨k, hk, i, hi, e⟩ := ((inv.claimed _ (inv.active s a ha).2).runs r).mp hr
  obtain ⟨i', hi', tag, _⟩ := intent_of_batch inv.sound.partitioned ha hk
  rw [hi] at hi'
  cases hi'
  have live := WorkIntentState.not_isTerminal_of_isActive a.tag_isActive
  rw [← tag, intents k i hi e] at live
  cases live

lemma allLive_run : ((board st).AllLive fun _ a => a.teamRunId ≠ some r) ↔
    ∀ (k : String) (i : WorkIntent), st.intents[k]? = some i → i.teamRunId = some r →
      i.state.isTerminal = true := by
  rw [allLive_iff fun _ => Iff.rfl]
  refine forall₃_congr fun k i _ => ?_
  cases i.state.isTerminal <;> simp

lemma Workless.exec (inv : Inv c σ) (allowed : Allowed σ op)
    (other : ∀ request answer, op ≠ .acquireEnqueue request answer) (w : Workless σ.state r) :
    Workless (exec c σ.state op).1 r := by
  have live := (allLive_run.mpr w.intents).moves inv.sound.partitioned (exec_moves inv allowed) ?_
  · have intents := allLive_run.mp live
    have inv' : Inv c (track c σ op) := inv.track allowed
    exact {
      intents
      batches := fun s a ha => inv'.batches intents ha
      leases := fun k record h => w.leases k record (exec_leases other h) }
  · intro d k a g
    cases op with
    | commitEnqueue lease messageId =>
      obtain ⟨⟨slot, ok⟩, _, _, rfl⟩ := g
      obtain ⟨⟨record, hl, rfl⟩, _⟩ := checkCommit_ok ok
      exact w.leases _ record hl
    | reconcileMailboxSnapshot slotId unread role stale =>
      obtain ⟨_, _, _, none', _⟩ := g
      rw [none']
      exact nofun
    | _ => exact g.elim

lemma of_publish {ids : List String} {snapshot : Option SlotWorkSnapshot}
    (h : .applyWorkSummary summary ∈ publish (runSummariesLocked st ids) snapshot) :
    summary = runSummaryLocked st summary.teamRunId ∧ summary.teamRunId ∈ ids := by
  simp only [publish, runSummariesLocked, List.map_map, List.mem_append, List.mem_map,
    Function.comp_apply, PortCall.applyWorkSummary.injEq, reduceCtorEq, and_false, exists_false,
    or_false, Std.TreeSet.mem_toList] at h
  obtain ⟨r, hr, rfl⟩ := h
  have mem : r ∈ ids := by simpa [Std.TreeSet.mem_ofList] using hr
  exact ⟨rfl, mem⟩

lemma named_of_bind {ids : List String}
    (hr : r ∈ ids.filterMap fun k => (st.intents[k]?).bind (·.teamRunId)) : Named st r := by
  obtain ⟨k, _, e⟩ := List.mem_filterMap.mp hr
  obtain ⟨i, hi, hr⟩ := Option.bind_eq_some_iff.mp e
  exact .intent hi hr

lemma named_of_values {intents : List WorkIntent} (sub : ∀ i ∈ intents, i ∈ Table.values st.intents)
    (hr : r ∈ intents.filterMap (·.teamRunId)) : Named st r := by
  obtain ⟨i, hi, e⟩ := List.mem_filterMap.mp hr
  obtain ⟨k, hk⟩ := Table.mem_values.mp (sub i hi)
  exact .intent hk e

lemma mem_completedRunIds {order : IterOrder WorkIntent}
    (hr : r ∈ completedRunIds order st s batch) :
    r ∈ batch.teamRunIds ∨ r ∈ (Table.values st.intents).filterMap (·.teamRunId) := by
  have fold (add : List String → WorkIntent → List String)
      (adds : ∀ ids i, r ∈ add ids i → r ∈ ids ∨ i.teamRunId = some r)
      (intents : List WorkIntent) (ids : List String) (hr : r ∈ intents.foldl add ids) :
      r ∈ ids ∨ ∃ i ∈ intents, i.teamRunId = some r := by
    induction intents generalizing ids with
    | nil => exact .inl hr
    | cons i intents ih =>
      rcases ih _ hr with old | ⟨i', hi', new⟩
      · exact (adds ids i old).imp_right fun new => ⟨i, List.mem_cons_self, new⟩
      · exact .inr ⟨i', List.mem_cons_of_mem _ hi', new⟩
  rw [completedRunIds] at hr
  refine (fold _ (fun ids i h => ?_) _ _ hr).imp_right fun ⟨i, hi, e⟩ => ?_
  · split at h
    case h_1 x run =>
      split at h
      · exact .inl h
      · exact (List.mem_append.mp h).imp_right fun new => run.trans (by rw [List.mem_singleton.mp new])
    case h_2 => exact .inl h
  · exact List.mem_filterMap.mpr ⟨i, (order.perm _).mem_iff.mp (List.mem_of_mem_filter hi), e⟩

lemma named_of_allRunIds (hr : r ∈ allRunIds st) : Named st r := by
  simp only [allRunIds, Std.TreeSet.mem_toList, Std.TreeSet.mem_ofList, List.contains_eq_mem,
    decide_eq_true_eq, List.mem_append, List.mem_filterMap] at hr
  rcases hr with ⟨i, hi, e⟩ | ⟨record, hl, e⟩
  · obtain ⟨k, hk⟩ := Table.mem_values.mp hi
    exact .intent hk e
  · obtain ⟨k, hk⟩ := Table.mem_values.mp hl
    exact .lease hk e

/-- The summaries that an outcome applies are those of its state, and of runs that are named before. -/
def Reports {α : Type} (state : CoordinatorState) (outcome : Outcome α) : Prop :=
  ∀ summary, .applyWorkSummary summary ∈ outcome.calls →
    summary = runSummaryLocked outcome.state summary.teamRunId ∧ Named state summary.teamRunId

lemma reports_nil {α : Type} {result : α} {after : CoordinatorState} :
    Reports st { result, state := after, calls := [] } :=
  fun _ h => absurd h List.not_mem_nil

lemma reports_snapshot {α : Type} {result : α} {after : CoordinatorState}
    {snapshot : Option SlotWorkSnapshot} :
    Reports st { result, state := after, calls := publish [] snapshot } := by
  intro summary h
  simp [publish] at h

lemma reports_publish {α : Type} {result : α} {after : CoordinatorState} {ids : List String}
    {snapshot : Option SlotWorkSnapshot} (named : ∀ r ∈ ids, Named st r) :
    Reports st
      { result, state := after, calls := publish (runSummariesLocked after ids) snapshot } := by
  intro summary h
  obtain ⟨e, mem⟩ := of_publish h
  exact ⟨e, named _ mem⟩

lemma commitEnqueue_reports {lease : EnqueueLease} {messageId : Option String} :
    Reports st (commitEnqueue c st lease messageId) := by
  unfold commitEnqueue
  cases ok : checkCommit c st lease messageId with
  | error error => exact reports_nil
  | ok slot =>
    obtain ⟨⟨record, hl, rfl⟩, _⟩ := checkCommit_ok ok
    exact reports_publish fun r mem => .lease hl (Option.mem_toList.mp mem)

lemma abortEnqueue_reports {lease : EnqueueLease} : Reports st (abortEnqueue c st lease) := by
  unfold abortEnqueue
  cases hl : st.enqueueLeases[lease.leaseId]? with
  | none => exact reports_nil
  | some record =>
    dsimp only
    split
    · exact reports_nil
    next owner =>
      obtain ⟨same, _⟩ := not_or.mp owner
      intro summary h
      rcases List.mem_append.mp h with h | h
      · split at h <;> simp at h
      · obtain ⟨e, mem⟩ := of_publish h
        refine ⟨e, .lease hl ?_⟩
        rw [not_not.mp same]
        exact Option.mem_toList.mp mem

lemma next_reports : Reports st (SlotWorkCoordinator.next c st s) := by
  unfold SlotWorkCoordinator.next
  cases st.slots[s]? with
  | none => exact reports_nil
  | some slot =>
    dsimp only
    split
    · exact reports_nil
    split
    · exact reports_nil
    split
    · exact reports_nil
    cases selectedPriority slot with
    | none => exact reports_nil
    | some priority =>
      dsimp only
      cases fifoMessageIntentIds st (slot.queue priority) with
      | nil => exact reports_nil
      | cons head rest =>
        exact reports_publish fun r mem => named_of_bind (List.mem_eraseDups.mp mem)

lemma observeMessages_reports {batchId : String} {messageIds : List String} :
    Reports st (observeMessages st s batchId messageIds) := by
  unfold observeMessages
  cases activeOf st s with
  | none => exact reports_nil
  | some active =>
    dsimp only
    split
    · exact reports_nil
    · exact reports_nil

lemma markStarted_reports {turnId : String} (named : ∀ r ∈ batch.teamRunIds, Named st r) :
    Reports st (markStarted c st batch turnId) := by
  unfold markStarted
  split
  · exact reports_nil
  · exact reports_publish named

lemma retryStart_reports (named : ∀ r ∈ batch.teamRunIds, Named st r) :
    Reports st (retryStart c st batch) := by
  unfold retryStart
  split
  · exact reports_nil
  · exact reports_publish named

lemma completeBatchWithAck_reports (named : ∀ active, activeOf st batch.slotId = some active →
      ∀ r ∈ active.batch.teamRunIds, Named st r) :
    Reports st (completeBatchWithAck c st batch) := by
  unfold completeBatchWithAck
  cases ha : activeOf st batch.slotId with
  | none => exact reports_nil
  | some active =>
    dsimp only
    split
    · exact reports_nil
    · apply reports_publish
      intro r mem
      rcases mem_completedRunIds mem with own | other
      · exact named active ha r own
      · exact named_of_values (fun _ h => h) other

lemma terminalizeBatch_reports {t : WorkIntentState} {delivery : DeliveryOutcome}
    (named : ∀ r ∈ batch.teamRunIds, Named st r) :
    Reports st (terminalizeBatch c st batch t delivery) := by
  unfold terminalizeBatch
  split
  · exact reports_nil
  · exact reports_publish named

lemma interruptBatch_reports {reason : Option String} {replacement : String}
    (named : ∀ r ∈ batch.teamRunIds, Named st r) :
    Reports st (interruptBatch c st batch reason replacement) := by
  unfold interruptBatch
  split
  · exact reports_nil
  · exact reports_publish named

lemma completeSignals_reports {intentIds : List String} :
    Reports st (completeSignals st s intentIds) := by
  unfold completeSignals
  split
  · exact reports_nil
  · exact reports_publish fun r mem => named_of_bind mem

lemma setRuntimeConstraint_reports {constraint : RuntimeConstraint} :
    Reports st (setRuntimeConstraint c st s constraint) := by
  apply reports_publish
  intro r mem
  refine named_of_values (fun i hi => ?_) mem
  split at hi
  · exact ((c.hashOrder _).perm _).mem_iff.mp (List.mem_of_mem_filter (List.mem_of_mem_filter hi))
  · cases hi

lemma removeSlot_reports : Reports st (removeSlot st s) := by
  apply reports_publish
  intro r mem
  refine named_of_values (fun i hi => ?_) mem
  obtain ⟨k, _, hk⟩ := List.mem_filterMap.mp hi
  exact Table.mem_values.mpr ⟨k, hk⟩

lemma stop_reports : Reports st (stop st) := by
  intro summary h
  change _ ∈ List.map _ (List.map _ _) ++ _ at h
  simp only [List.map_map, Option.toList_none, List.map_nil, List.append_nil, List.mem_map,
    Function.comp_apply, PortCall.applyWorkSummary.injEq] at h
  obtain ⟨r, mem, rfl⟩ := h
  exact ⟨rfl, named_of_allRunIds mem⟩

lemma beginRuntimeRestartInner_reports {allowQueued : Bool} :
    Reports st (beginRuntimeRestartInner st s allowQueued) := by
  unfold beginRuntimeRestartInner
  dsimp only
  split
  · exact reports_nil
  · split
    · exact reports_nil
    · exact reports_nil
    all_goals exact reports_snapshot

lemma abortRuntimeRestart_reports {gate : RuntimeRestartGate} :
    Reports st (abortRuntimeRestart st s gate) := by
  unfold abortRuntimeRestart
  cases st.slots[s]? with
  | none => exact reports_nil
  | some slot =>
    dsimp only
    split
    · exact reports_nil
    · exact reports_snapshot

lemma requestMcpRefresh_reports {fingerprint : String} :
    Reports st (requestMcpRefresh st s fingerprint) := by
  unfold requestMcpRefresh
  dsimp only
  split
  · exact reports_nil
  · split
    · exact reports_nil
    · exact reports_nil

lemma claimPendingMcpRefresh_reports : Reports st (claimPendingMcpRefresh st s) := by
  unfold claimPendingMcpRefresh
  cases st.slots[s]? with
  | none => exact reports_nil
  | some slot =>
    dsimp only
    split
    · exact reports_nil
    · cases slot.pendingMcpFingerprint with
      | none => exact reports_nil
      | some fingerprint => exact reports_nil

lemma exec_reports (inv : Inv c σ) (allowed : Allowed σ op)
    (h : .applyWorkSummary summary ∈ (exec c σ.state op).2) :
    summary = runSummaryLocked (exec c σ.state op).1 summary.teamRunId ∧
      (Named σ.state summary.teamRunId ∨ op = .cancelRun summary.teamRunId) := by
  have batch (b : WorkBatch) (hb : op.batch = some b) : ∀ r ∈ b.teamRunIds, Named σ.state r :=
    fun _ hr => inv.named (allowed b hb) hr
  have of {α : Type} {outcome : Outcome α} (reports : Reports σ.state outcome)
      (h : .applyWorkSummary summary ∈ outcome.calls) :
      summary = runSummaryLocked outcome.state summary.teamRunId ∧
        (Named σ.state summary.teamRunId ∨ op = .cancelRun summary.teamRunId) :=
    (reports summary h).imp_right .inl
  cases op with
  | commitEnqueue lease messageId => exact of commitEnqueue_reports h
  | abortEnqueue lease => exact of abortEnqueue_reports h
  | next slotId => exact of next_reports h
  | observeMessages slotId batchId messageIds => exact of observeMessages_reports h
  | markStarted b turnId => exact of (markStarted_reports (batch b rfl)) h
  | retryStart b => exact of (retryStart_reports (batch b rfl)) h
  | completeBatchWithAck b =>
    exact of (completeBatchWithAck_reports fun _ ha _ => inv.named (inv.active _ _ ha).2) h
  | failBatch b classification => exact of (terminalizeBatch_reports (batch b rfl)) h
  | cancelBatch b classification => exact of (terminalizeBatch_reports (batch b rfl)) h
  | interruptBatch b reason replacement => exact of (interruptBatch_reports (batch b rfl)) h
  | cancelRun teamRunId =>
    obtain e : PortCall.applyWorkSummary summary = _ := List.mem_singleton.mp h
    cases e
    exact ⟨rfl, .inr rfl⟩
  | completeSignals slotId intentIds => exact of completeSignals_reports h
  | setRuntimeConstraint slotId constraint => exact of setRuntimeConstraint_reports h
  | removeSlot slotId => exact of removeSlot_reports h
  | stop => exact of stop_reports h
  | discardQueuedExcept slotId retained => exact of reports_snapshot h
  | pauseSlot slotId => exact of reports_snapshot h
  | beginRuntimeRestart slotId => exact of beginRuntimeRestartInner_reports h
  | beginMcpRuntimeRestart slotId => exact of beginRuntimeRestartInner_reports h
  | abortRuntimeRestart slotId gate => exact of abortRuntimeRestart_reports h
  | requestMcpRefresh slotId fingerprint => exact of requestMcpRefresh_reports h
  | claimPendingMcpRefresh slotId => exact of claimPendingMcpRefresh_reports h
  | _ => cases h

end SlotWorkCoordinator

end KiCore.Team

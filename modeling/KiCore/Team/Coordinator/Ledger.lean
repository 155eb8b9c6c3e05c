import KiCore.Team.Coordinator.Invariant

/-!
# The ledger of a slot

What a slot knows of the delivery of its messages: the batch it works on, with the rows observed so far,
and how often each message has failed. `Op.delivers` lists the operations that may write it; every other
operation keeps the counters, and keeps the batch or takes it away (`exec_ledger`). The lemmas after it
say what each of those does.
-/

namespace KiCore.Team

open KiCore.Lib

/-- What a slot knows of the delivery of its messages. -/
structure Ledger where
  batch : Option WorkBatch
  failures : Table String Nat

def SlotState.ledger (slot : SlotState) : Ledger where
  batch := slot.active.map (·.batch)
  failures := slot.deliveryFailureCounts

/-- The counters are kept, and the batch is kept or taken away. -/
structure Ledger.Keeps (ledger ledger' : Ledger) : Prop where
  batch : ledger'.batch = none ∨ ledger'.batch = ledger.batch
  failures : ledger'.failures = ledger.failures

/-- An operation that may write the ledger of a slot. -/
def Op.delivers (s : String) : Op → Bool
  | .next s' | .observeMessages s' _ _ | .reconcileMailboxSnapshot s' _ _ _ => s' = s
  | .completeBatchWithAck batch | .failBatch batch _ | .cancelBatch batch _ | .interruptBatch batch _ _ =>
    batch.slotId = s
  | _ => false

section Ledger

variable {ledger ledger' ledger'' : Ledger} {slot : SlotState} {p : WorkPriority} {id : String}
  {ids : List String}

lemma Ledger.Keeps.refl : ledger.Keeps ledger :=
  ⟨.inr rfl, rfl⟩

lemma Ledger.Keeps.of_eq (same : ledger' = ledger) : ledger.Keeps ledger' :=
  same ▸ .refl

lemma Ledger.Keeps.trans (x : ledger.Keeps ledger') (y : ledger'.Keeps ledger'') :
    ledger.Keeps ledger'' := by
  refine ⟨?_, y.failures.trans x.failures⟩
  rcases y.batch with gone | same
  · exact .inl gone
  · rw [same]
    exact x.batch

lemma Ledger.Keeps.batch_before {batch : WorkBatch} (keeps : ledger.Keeps ledger')
    (now : ledger'.batch = some batch) : ledger.batch = some batch := by
  rcases keeps.batch with gone | same
  · rw [gone] at now
    cases now
  · exact same ▸ now

@[simp] lemma SlotState.ledger_setQueue : (slot.setQueue p ids).ledger = slot.ledger := by
  cases p <;> rfl

@[simp] lemma SlotState.ledger_pushFront : (slot.pushFront p id).ledger = slot.ledger :=
  ledger_setQueue

@[simp] lemma SlotState.ledger_pushBack : (slot.pushBack p id).ledger = slot.ledger :=
  ledger_setQueue

@[simp] lemma SlotState.ledger_removeQueuedAll : (slot.removeQueuedAll ids).ledger = slot.ledger := by
  unfold removeQueuedAll
  induction ids generalizing slot with
  | nil => rfl
  | cons id ids ih => exact ih

lemma SlotState.ledger_foldl {α : Type} {f : SlotState → α → SlotState} {xs : List α}
    (h : ∀ slot x, (f slot x).ledger = slot.ledger) : (xs.foldl f slot).ledger = slot.ledger := by
  induction xs generalizing slot with
  | nil => rfl
  | cons x xs ih => exact ih.trans (h slot x)

end Ledger

namespace SlotWorkCoordinator

/-- The ledger of a slot; a slot that is not known has an empty one. -/
def ledgerOf (st : CoordinatorState) (s : String) : Ledger :=
  ((st.slots[s]?).map SlotState.ledger).getD { batch := none, failures := ∅ }

variable {c : SlotWorkCoordinator} {st st' : CoordinatorState} {op : Op} {s s' : String}
  {slot : SlotState} {g : SlotState → SlotState} {batch : WorkBatch} {a : ActiveBatch}

lemma ledgerOf_known (h : st.slots[s]? = some slot) : ledgerOf st s = slot.ledger := by
  simp [ledgerOf, h]

lemma ledgerOf_slotOrNew (role : TeamRunTargetRole) : (st.slotOrNew s role).ledger = ledgerOf st s := by
  unfold CoordinatorState.slotOrNew ledgerOf
  cases st.slots[s]? <;> rfl

lemma ledgerOf_batch : (ledgerOf st s).batch = (activeOf st s).map (·.batch) := by
  unfold ledgerOf activeOf
  cases st.slots[s]? <;> rfl

lemma ledgerOf_putSlot :
    ledgerOf (st.putSlot s slot) s' = if s = s' then slot.ledger else ledgerOf st s' := by
  unfold ledgerOf
  rw [CoordinatorState.slots_putSlot]
  split_ifs <;> rfl

lemma keeps_putSlot (h : (ledgerOf st s).Keeps slot.ledger) :
    (ledgerOf st s').Keeps (ledgerOf (st.putSlot s slot) s') := by
  rw [ledgerOf_putSlot]
  split_ifs with hs
  · exact hs ▸ h
  · exact .refl

lemma keeps_slotOrNew (role : TeamRunTargetRole) (h : slot.ledger = (st.slotOrNew s role).ledger) :
    (ledgerOf st s').Keeps (ledgerOf (st.putSlot s slot) s') :=
  keeps_putSlot (.of_eq (h.trans (ledgerOf_slotOrNew role)))

lemma ledgerOf_putSlot_slotOrNew (st : CoordinatorState) (s : String) (role : TeamRunTargetRole) :
    ledgerOf (st.putSlot s (st.slotOrNew s role)) s = (st.slotOrNew s role).ledger :=
  ledgerOf_putSlot.trans (if_pos rfl)

lemma keeps_modifySlot (st : CoordinatorState) (h : ∀ slot : SlotState, slot.ledger.Keeps (g slot).ledger) :
    (ledgerOf st s').Keeps (ledgerOf (st.modifySlot s g) s') := by
  unfold ledgerOf
  rw [CoordinatorState.slots_modifySlot]
  split_ifs
  · cases st.slots[s']? with
    | none => exact .refl
    | some slot => exact h slot
  · exact .refl

lemma ledgerOf_modifySlot (h : st.slots[s]? = some slot) :
    ledgerOf (st.modifySlot s g) s' = if s = s' then (g slot).ledger else ledgerOf st s' := by
  unfold ledgerOf
  rw [CoordinatorState.slots_modifySlot]
  split_ifs with e
  · subst e
    simp [h]
  · rfl

lemma keeps_drop {ids : List String} {f : WorkIntent → WorkIntentState} :
    (ledgerOf st s').Keeps (ledgerOf ((st.setStates ids f).modifySlot s (·.removeQueuedAll ids)) s') :=
  keeps_modifySlot (st.setStates ids f) fun _ => .of_eq SlotState.ledger_removeQueuedAll

lemma keeps_foldl {α : Type} {f : CoordinatorState → α → CoordinatorState} {xs : List α}
    (h : ∀ st x, (ledgerOf st s).Keeps (ledgerOf (f st x) s)) :
    (ledgerOf st s).Keeps (ledgerOf (xs.foldl f st) s) := by
  induction xs generalizing st with
  | nil => exact .refl
  | cons x xs ih => exact (h st x).trans ih

lemma keeps_acquireEnqueue {ρ : Type} {port : RunCausalityPort ρ} {r : ρ} {request : EnqueueRequest} :
    (ledgerOf st s).Keeps (ledgerOf (acquireEnqueue c port r st request).2.1 s) := by
  have put : (ledgerOf st s).Keeps (ledgerOf (st.putSlot request.slotId
      { st.slotOrNew request.slotId request.role with role := request.role }) s) := keeps_slotOrNew _ rfl
  unfold acquireEnqueue
  dsimp only
  cases validateEnqueueConstraint request.slotId
      { st.slotOrNew request.slotId request.role with role := request.role } with
  | error _ => exact put
  | ok _ => exact put

lemma keeps_commitEnqueue {lease : EnqueueLease} {messageId : Option String} :
    (ledgerOf st s).Keeps (ledgerOf (commitEnqueue c st lease messageId).state s) := by
  rcases commitEnqueue_cases c st lease messageId with ⟨_, _, state⟩ | ⟨_, state⟩
  · rw [state]
    refine keeps_modifySlot st.tick fun slot => .of_eq ?_
    have pushed (slot' : SlotState) (same : slot'.ledger = slot.ledger) {p : WorkPriority}
        {id : String} : (if lease.source = .leadIntervention then slot'.pushFront p id
          else slot'.pushBack p id).ledger = slot.ledger := by
      split_ifs
      · exact SlotState.ledger_pushFront.trans same
      · exact SlotState.ledger_pushBack.trans same
    unfold commitSlot
    apply pushed
    cases (committedIntent c st lease messageId).mailboxMessageId <;>
      cases lease.source.resumesPausedSlot <;> rfl
  · rw [state]
    exact .refl

lemma keeps_abortEnqueue {lease : EnqueueLease} :
    (ledgerOf st s).Keeps (ledgerOf (abortEnqueue c st lease).state s) := by
  unfold abortEnqueue
  cases st.enqueueLeases[lease.leaseId]? with
  | none => exact .refl
  | some record =>
    dsimp only
    split <;> exact .refl

lemma keeps_modifyActive (st : CoordinatorState) {f : ActiveBatch → ActiveBatch}
    (h : ∀ a, (f a).batch = a.batch) :
    (ledgerOf st s').Keeps (ledgerOf (modifyActive st s f) s') := by
  refine keeps_modifySlot _ fun slot => .of_eq ?_
  simp [SlotState.ledger, Option.map_map, Function.comp_def, h]

lemma keeps_markStarted {turnId : String} :
    (ledgerOf st s).Keeps (ledgerOf (markStarted c st batch turnId).state s) := by
  rw [markStarted_state]
  split
  · exact keeps_modifyActive (st.tick.setStates _ _) fun _ => rfl
  · exact .refl

lemma keeps_retryStart : (ledgerOf st s).Keeps (ledgerOf (retryStart c st batch).state s) := by
  unfold retryStart
  split
  · exact .refl
  · refine keeps_modifySlot (st.setStates _ _) fun slot => ?_
    rw [SlotState.ledger_foldl fun _ _ => SlotState.ledger_pushFront]
    exact ⟨.inl rfl, rfl⟩

lemma keeps_dissolveBatch {teamRunId s' : String} :
    (ledgerOf st s).Keeps (ledgerOf (dissolveBatch teamRunId st s' a) s) := by
  refine keeps_modifySlot (st.setStates _ _) fun slot => ?_
  rw [requeueRetained, SlotState.ledger_foldl fun _ _ => SlotState.ledger_pushFront]
  exact ⟨.inl rfl, rfl⟩

lemma keeps_cancelQueued {k : String} : (ledgerOf st s).Keeps (ledgerOf (cancelQueued st k) s) := by
  unfold cancelQueued
  cases st.intents[k]? with
  | none => exact .refl
  | some i => exact keeps_modifySlot (st.setStates [k] _) fun _ => .refl

lemma keeps_cancelRun {teamRunId : String} :
    (ledgerOf st s).Keeps (ledgerOf (cancelRun c st teamRunId).state s) := by
  have dissolved : (ledgerOf st s).Keeps (ledgerOf (dissolvedState st teamRunId) s) :=
    keeps_foldl fun _ _ => keeps_dissolveBatch
  exact dissolved.trans (keeps_foldl fun _ _ => keeps_cancelQueued)

lemma keeps_completeSignals {intentIds : List String} :
    (ledgerOf st s').Keeps (ledgerOf (completeSignals st s intentIds).state s') := by
  unfold completeSignals
  split
  · exact .refl
  · exact keeps_drop

lemma keeps_setRuntimeConstraint {constraint : RuntimeConstraint} :
    (ledgerOf st s').Keeps (ledgerOf (setRuntimeConstraint c st s constraint).state s') := by
  have put : (ledgerOf st s').Keeps (ledgerOf (constrainedState st s constraint) s') :=
    keeps_slotOrNew _ rfl
  rw [setRuntimeConstraint_state]
  cases endsWork constraint with
  | none => exact put
  | some classification =>
    refine put.trans (keeps_modifySlot ((constrainedState st s constraint).tick.setStates _ _)
      fun slot => ?_)
    rw [SlotState.ledger_foldl fun _ _ => SlotState.ledger_pushBack]
    exact ⟨.inl rfl, rfl⟩

lemma keeps_beginRuntimeRestartInner {allowQueued : Bool} :
    (ledgerOf st s').Keeps (ledgerOf (beginRuntimeRestartInner st s allowQueued).state s') := by
  have put : (ledgerOf st s').Keeps (ledgerOf (st.putSlot s (st.slotOrNew s .teammate)) s') :=
    keeps_slotOrNew _ rfl
  have again (n : Nat) : (ledgerOf st s').Keeps (ledgerOf ({ st.putSlot s (st.slotOrNew s .teammate) with
      nextOperationId := n }.putSlot s { st.slotOrNew s .teammate with runtimeConstraint := .starting n })
      s') := by
    have counted : (ledgerOf st s').Keeps (ledgerOf { st.putSlot s (st.slotOrNew s .teammate) with
      nextOperationId := n } s') := put
    refine counted.trans (keeps_putSlot (.of_eq ?_))
    exact (ledgerOf_putSlot_slotOrNew st s _).symm
  unfold beginRuntimeRestartInner
  dsimp only
  split
  · exact put
  · cases (st.slotOrNew s .teammate).runtimeConstraint with
    | removing n => exact put
    | sessionStopped => exact put
    | ready => exact again _
    | starting n => exact again _
    | failed n classification => exact again _

lemma keeps_abortRuntimeRestart {gate : RuntimeRestartGate} :
    (ledgerOf st s').Keeps (ledgerOf (abortRuntimeRestart st s gate).state s') := by
  unfold abortRuntimeRestart
  cases hs : st.slots[s]? with
  | none => exact .refl
  | some slot =>
    dsimp only
    split
    · exact .refl
    · exact keeps_putSlot (.of_eq (ledgerOf_known hs).symm)

variable {fingerprint : String}

lemma keeps_requestMcpRefresh :
    (ledgerOf st s').Keeps (ledgerOf (requestMcpRefresh st s fingerprint).state s') := by
  have put : (ledgerOf st s').Keeps (ledgerOf (st.putSlot s (st.slotOrNew s .teammate)) s') :=
    keeps_slotOrNew _ rfl
  unfold requestMcpRefresh
  dsimp only
  split_ifs
  · exact put
  · refine put.trans (keeps_putSlot (.of_eq ?_))
    exact (ledgerOf_putSlot_slotOrNew st s _).symm
  · exact put

lemma keeps_deferMcpRefresh :
    (ledgerOf st s').Keeps (ledgerOf (deferMcpRefresh st s fingerprint).state s') := by
  refine keeps_slotOrNew .teammate ?_
  split_ifs <;> rfl

lemma keeps_claimPendingMcpRefresh :
    (ledgerOf st s').Keeps (ledgerOf (claimPendingMcpRefresh st s).state s') := by
  unfold claimPendingMcpRefresh
  cases hs : st.slots[s]? with
  | none => exact .refl
  | some slot =>
    dsimp only
    split
    · exact .refl
    · cases slot.pendingMcpFingerprint with
      | none => exact .refl
      | some fingerprint => exact keeps_putSlot (.of_eq (ledgerOf_known hs).symm)

lemma keeps_releaseMcpRefresh :
    (ledgerOf st s').Keeps (ledgerOf (releaseMcpRefresh st s fingerprint).state s') := by
  refine keeps_modifySlot _ fun slot => .of_eq ?_
  split_ifs <;> rfl

lemma keeps_settleMcpRefreshClaim :
    (ledgerOf st s').Keeps (ledgerOf (settleMcpRefreshClaim st s fingerprint).state s') := by
  refine keeps_modifySlot _ fun slot => .of_eq ?_
  split_ifs <;> rfl

lemma keeps_stop : (ledgerOf st s).Keeps (ledgerOf (stop st).state s) := by
  have known : (stop st).state.slots[s]? = (st.slots[s]?).map fun slot : SlotState =>
      { slot.clearWork with runtimeConstraint := .sessionStopped } := Table.get_map ..
  unfold ledgerOf
  rw [known]
  cases st.slots[s]? with
  | none => exact .refl
  | some slot => exact ⟨.inl rfl, rfl⟩

lemma ledgerOf_next (c : SlotWorkCoordinator) (st : CoordinatorState) (s : String) :
    (∃ batch, (next c st s).result = .claim batch ∧ Claims c st s batch ∧
      ledgerOf (next c st s).state s = { batch := some batch, failures := (ledgerOf st s).failures } ∧
      ∀ s', s ≠ s' → ledgerOf (next c st s).state s' = ledgerOf st s') ∨
    ((∀ batch, (next c st s).result ≠ .claim batch) ∧ (next c st s).state = st) := by
  rcases next_cases c st s with ⟨batch, result, state, claims⟩ | unclaimed
  · refine .inl ⟨batch, result, claims, ?_⟩
    obtain ⟨slot, hslot, _⟩ := claims.slot
    have hs : batch.slotId = s := congrArg WorkBatch.slotId claims.made
    have claimed (s' : String) : ledgerOf (claimState st batch) s' =
        if s = s' then { batch := some batch, failures := slot.deliveryFailureCounts }
        else ledgerOf st s' := by
      unfold claimState
      rw [hs, ledgerOf_modifySlot (by exact hslot)]
      have emptied : ({ slot.removeQueuedAll batch.intentIds with
          active := some { batch := batch, turnId := none, startedAtMs := none } } : SlotState).ledger =
          { batch := some batch, failures := (slot.removeQueuedAll batch.intentIds).ledger.failures } := rfl
      rw [emptied, SlotState.ledger_removeQueuedAll]
      rfl
    rw [state, claimed, if_pos rfl, ledgerOf_known hslot]
    exact ⟨rfl, fun s' ne => (claimed s').trans (if_neg ne)⟩
  · exact .inr unclaimed

lemma ledgerOf_observeMessages (st : CoordinatorState) (s expected : String) (messageIds : List String) :
    (∃ a, activeOf st s = some a ∧ a.batch.batchId = expected ∧
      ∀ s', ledgerOf (observeMessages st s expected messageIds).state s' =
        if s = s' then
          { batch := some (observe a.batch messageIds), failures := (ledgerOf st s).failures }
        else ledgerOf st s') ∨
    (activeBatchId st s ≠ some expected ∧ (observeMessages st s expected messageIds).state = st) := by
  unfold observeMessages activeBatchId
  cases ha : activeOf st s with
  | none => exact .inr ⟨by simp, rfl⟩
  | some a =>
    dsimp only
    split
    next other => exact .inr ⟨by simpa using other, rfl⟩
    next own =>
      refine .inl ⟨a, rfl, not_not.mp own, fun s' => ?_⟩
      obtain ⟨slot, hslot, active⟩ := known_of_active ha
      unfold modifyActive
      rw [ledgerOf_modifySlot hslot, ledgerOf_known hslot]
      simp only [SlotState.ledger, active, Option.map_some]

lemma ledgerOf_endBatch {t : WorkIntentState} {delivery : DeliveryOutcome} {ids : List String}
    (hslot : st.slots[s]? = some slot) :
    ledgerOf ((st.setStates ids fun _ => t).modifySlot s
      fun slot => (settleDelivery { slot with active := none } batch delivery).1) s' =
      if s = s' then
        { batch := none
          failures := (settleDelivery { slot with active := none } batch delivery).1.deliveryFailureCounts }
      else ledgerOf st s' := by
  rw [ledgerOf_modifySlot (by exact hslot)]
  split_ifs
  · cases delivery <;> rfl
  · rfl

lemma ledgerOf_completeBatchWithAck (ha : activeOf st batch.slotId = some a)
    (current : isCurrentBatch c st batch = true) :
    (completeBatchWithAck c st batch).result.commitResult = .committed ∧
    (completeBatchWithAck c st batch).result.ackMessageIds = ackMessageIds a.batch ∧
    (completeBatchWithAck c st batch).state = completeState st batch.slotId a.batch ∧
    ∀ s', ledgerOf (completeBatchWithAck c st batch).state s' =
      if batch.slotId = s' then
        { batch := none
          failures := (ackMessageIds a.batch).foldl (·.erase ·) (ledgerOf st s').failures }
      else ledgerOf st s' := by
  unfold completeBatchWithAck
  simp only [ha, current, not_true_eq_false, if_false, true_and]
  intro s'
  obtain ⟨slot, hslot, _⟩ := known_of_active ha
  unfold completeState
  rw [ledgerOf_modifySlot (by exact hslot)]
  split_ifs with hs
  · rw [← hs, ledgerOf_known hslot]
    rfl
  · rfl

lemma completeBatchWithAck_stale (stale : ¬ isCurrentBatch c st batch = true) :
    (completeBatchWithAck c st batch).result =
        { commitResult := .staleOwner, ackMessageIds := [], teamRunIds := [] } ∧
      (completeBatchWithAck c st batch).state = st := by
  unfold completeBatchWithAck
  cases activeOf st batch.slotId with
  | none => exact ⟨rfl, rfl⟩
  | some a =>
    dsimp only
    rw [if_pos stale]
    exact ⟨rfl, rfl⟩

lemma terminalizeBatch_stale {t : WorkIntentState} {delivery : DeliveryOutcome}
    (stale : ¬ isCurrentBatch c st batch = true) : (terminalizeBatch c st batch t delivery).state = st :=
  terminalizeBatch_state.trans (if_neg stale)

lemma interruptBatch_stale {reason : Option String} {replacement : String}
    (stale : ¬ isCurrentBatch c st batch = true) :
    (interruptBatch c st batch reason replacement).state = st := by
  unfold interruptBatch
  rw [if_pos stale]

/-- The counters after a batch has ended otherwise. -/
def settledFailures (failures : Table String Nat) (batch : WorkBatch) : DeliveryOutcome → Table String Nat
  | .notFailed => batch.mailboxMessageIds.foldl (·.erase ·) failures
  | .failed => (countFailures failures batch.mailboxMessageIds).1

lemma ledgerOf_terminalizeBatch {t : WorkIntentState} {delivery : DeliveryOutcome}
    (current : isCurrentBatch c st batch = true) :
    ledgerOf (terminalizeBatch c st batch t delivery).state s' =
      if batch.slotId = s' then
        { batch := none, failures := settledFailures (ledgerOf st s').failures batch delivery }
      else ledgerOf st s' := by
  obtain ⟨a, ha, _⟩ := isCurrentBatch_spec current
  obtain ⟨slot, hslot, _⟩ := known_of_active ha
  rw [terminalizeBatch_state, if_pos current, ledgerOf_endBatch hslot]
  split_ifs with hs
  · rw [← hs, ledgerOf_known hslot]
    cases delivery <;> rfl
  · rfl

lemma ledgerOf_interruptBatch {reason : Option String} {replacement : String}
    (current : isCurrentBatch c st batch = true) :
    ledgerOf (interruptBatch c st batch reason replacement).state s' =
      if batch.slotId = s' then
        { batch := none, failures := settledFailures (ledgerOf st s').failures batch .notFailed }
      else ledgerOf st s' := by
  obtain ⟨a, ha, _⟩ := isCurrentBatch_spec current
  obtain ⟨slot, hslot, _⟩ := known_of_active ha
  unfold interruptBatch
  rw [if_neg (not_not.mpr current)]
  refine (ledgerOf_endBatch hslot).trans ?_
  split_ifs with hs
  · rw [← hs, ledgerOf_known hslot]
    rfl
  · rfl

lemma ledgerOf_reconcile {role : TeamRunTargetRole} {unread stale : List String} :
    ledgerOf (reconcileMailboxSnapshot c st s unread role stale).state s' =
      if s = s' then
        { batch := (ledgerOf st s').batch
          failures := (ledgerOf st s').failures.filter fun messageId _ => messageId ∈ unread }
      else ledgerOf st s' := by
  have recovered {acc : CoordinatorState × List String} (messages : List String) :
      ledgerOf (messages.foldl (recoverMessage c s role) acc).1 s' = ledgerOf acc.1 s' := by
    induction messages generalizing acc with
    | nil => rfl
    | cons message messages ih =>
      refine ih.trans ?_
      unfold recoverMessage
      dsimp only
      split
      · rfl
      · have pushed : ledgerOf (acc.1.tick.modifySlot s
            (·.pushBack .background (recoveryIntent c acc.1 s role message).intentId)) s' =
            ledgerOf acc.1.tick s' := by
          unfold ledgerOf
          rw [CoordinatorState.slots_modifySlot]
          split_ifs
          · cases acc.1.tick.slots[s']? <;> simp
          · rfl
        exact pushed
  have dropped {st : CoordinatorState} {ids : List String} {f : WorkIntent → WorkIntentState} :
      ledgerOf ((st.setStates ids f).modifySlot s (·.removeQueuedAll ids)) s' = ledgerOf st s' := by
    unfold ledgerOf
    rw [CoordinatorState.slots_modifySlot]
    split_ifs
    · show ((st.slots[s']?).map _ |>.map _).getD _ = _
      cases st.slots[s']? <;> simp
    · rfl
  rw [reconcile_state, recovered]
  refine dropped.trans ?_
  rw [ledgerOf_putSlot]
  split_ifs with hs
  · rw [← hs, ← ledgerOf_slotOrNew role]
    rfl
  · rfl

/-- An operation that does not write the ledger of a slot keeps it. -/
lemma exec_ledger (quiet : op.delivers s = false) :
    (ledgerOf st s).Keeps (ledgerOf (exec c st op).1 s) := by
  cases op with
  | acquireEnqueue request answer => exact keeps_acquireEnqueue
  | commitEnqueue lease messageId => exact keeps_commitEnqueue
  | abortEnqueue lease => exact keeps_abortEnqueue
  | reconcileMailboxSnapshot slotId unread role stale =>
    exact .of_eq (ledgerOf_reconcile.trans (if_neg (of_decide_eq_false quiet)))
  | next slotId =>
    rcases ledgerOf_next c st slotId with ⟨_, _, _, _, others⟩ | ⟨_, state⟩
    · exact .of_eq (others s (of_decide_eq_false quiet))
    · exact .of_eq (congrArg (ledgerOf · s) state)
  | observeMessages slotId batchId messageIds =>
    rcases ledgerOf_observeMessages st slotId batchId messageIds with ⟨_, _, _, observed⟩ | ⟨_, state⟩
    · exact .of_eq ((observed s).trans (if_neg (of_decide_eq_false quiet)))
    · exact .of_eq (congrArg (ledgerOf · s) state)
  | markStarted b turnId => exact keeps_markStarted
  | retryStart b => exact keeps_retryStart
  | completeBatchWithAck b =>
    by_cases current : isCurrentBatch c st b = true
    · obtain ⟨a, ha, _⟩ := isCurrentBatch_spec current
      have ended := (ledgerOf_completeBatchWithAck ha current).2.2.2 s
      exact .of_eq (ended.trans (if_neg (of_decide_eq_false quiet)))
    · exact .of_eq (congrArg (ledgerOf · s) (completeBatchWithAck_stale current).2)
  | failBatch b classification =>
    by_cases current : isCurrentBatch c st b = true
    · exact .of_eq ((ledgerOf_terminalizeBatch current).trans (if_neg (of_decide_eq_false quiet)))
    · exact .of_eq (congrArg (ledgerOf · s) (terminalizeBatch_stale current))
  | cancelBatch b classification =>
    by_cases current : isCurrentBatch c st b = true
    · exact .of_eq ((ledgerOf_terminalizeBatch current).trans (if_neg (of_decide_eq_false quiet)))
    · exact .of_eq (congrArg (ledgerOf · s) (terminalizeBatch_stale current))
  | interruptBatch b reason replacement =>
    by_cases current : isCurrentBatch c st b = true
    · exact .of_eq ((ledgerOf_interruptBatch current).trans (if_neg (of_decide_eq_false quiet)))
    · exact .of_eq (congrArg (ledgerOf · s) (interruptBatch_stale current))
  | takeInterruptMetadata batchId => exact .refl
  | discardQueuedExcept slotId retained => exact keeps_drop
  | cancelRun teamRunId => exact keeps_cancelRun
  | completeSignals slotId intentIds => exact keeps_completeSignals
  | pauseSlot slotId => exact keeps_slotOrNew .teammate rfl
  | setRuntimeConstraint slotId constraint => exact keeps_setRuntimeConstraint
  | beginRuntimeRestart slotId => exact keeps_beginRuntimeRestartInner
  | beginMcpRuntimeRestart slotId => exact keeps_beginRuntimeRestartInner
  | abortRuntimeRestart slotId gate => exact keeps_abortRuntimeRestart
  | requestMcpRefresh slotId fingerprint => exact keeps_requestMcpRefresh
  | deferMcpRefresh slotId fingerprint => exact keeps_deferMcpRefresh
  | claimPendingMcpRefresh slotId => exact keeps_claimPendingMcpRefresh
  | completeMcpRefresh slotId fingerprint => exact keeps_modifySlot _ fun _ => .refl
  | releaseMcpRefresh slotId fingerprint => exact keeps_releaseMcpRefresh
  | settleMcpRefreshClaim slotId fingerprint => exact keeps_settleMcpRefreshClaim
  | removeSlot slotId =>
    exact keeps_modifySlot (st.setStates _ _) fun _ => ⟨.inl rfl, rfl⟩
  | stop => exact keeps_stop

def countFailure (acc : Table String Nat × List String) (messageId : String) :
    Table String Nat × List String :=
  let failureCount := u8SaturatingSucc ((acc.1[messageId]?).getD 0)
  (acc.1.insert messageId failureCount,
    if MAX_MESSAGE_DELIVERY_FAILURES ≤ failureCount then acc.2 ++ [messageId] else acc.2)

lemma foldl_countFailure (counts : Table String Nat) (exhausted ids : List String) :
    ids.foldl countFailure (counts, exhausted) =
      ((ids.foldl countFailure (counts, [])).1, exhausted ++ (ids.foldl countFailure (counts, [])).2) := by
  induction ids generalizing counts exhausted with
  | nil => simp
  | cons id ids ih =>
    simp only [List.foldl_cons, countFailure]
    split_ifs
    · rw [ih _ (exhausted ++ [id]), ih _ ([] ++ [id])]
      simp
    · exact ih _ exhausted

lemma countFailures_cons {counts : Table String Nat} {id : String} {ids : List String} :
    countFailures counts (id :: ids) =
      let failureCount := u8SaturatingSucc ((counts[id]?).getD 0)
      let rest := countFailures (counts.insert id failureCount) ids
      (rest.1, (if MAX_MESSAGE_DELIVERY_FAILURES ≤ failureCount then [id] else []) ++ rest.2) :=
  foldl_countFailure (counts.insert id _) _ ids

lemma countFailures_subset {counts : Table String Nat} {ids : List String} {m : String}
    (mem : m ∈ (countFailures counts ids).2) : m ∈ ids := by
  induction ids generalizing counts with
  | nil => cases mem
  | cons id ids ih =>
    rw [countFailures_cons] at mem
    rcases List.mem_append.mp mem with here | later
    · split_ifs at here
      · exact List.mem_cons.mpr (.inl (List.mem_singleton.mp here))
      · cases here
    · exact .tail _ (ih later)

end SlotWorkCoordinator

end KiCore.Team

import KiCore.Team.Coordinator.Invariant

/-!
# The controls of a slot

Besides its work a slot has controls: the runtime constraint, and the three fields of the MCP refresh
hand-off. `Op.writes` lists the operations that write the controls of a slot; every other operation
leaves them alone (`exec_controls`), and the lemmas after it say what each of those does to them. A slot
that the coordinator does not know has the controls of a new one.
-/

namespace KiCore.Team

open KiCore.Lib

/-- What a slot has besides its work. -/
structure Controls where
  constraint : RuntimeConstraint
  applied : Option String
  pending : Option String
  refreshing : Bool

def SlotState.controls (slot : SlotState) : Controls where
  constraint := slot.runtimeConstraint
  applied := slot.appliedMcpFingerprint
  pending := slot.pendingMcpFingerprint
  refreshing := slot.mcpRefreshInProgress

def Op.writes (s : String) : Op → Bool
  | .setRuntimeConstraint s' _ | .beginRuntimeRestart s' | .beginMcpRuntimeRestart s'
  | .abortRuntimeRestart s' _ | .requestMcpRefresh s' _ | .deferMcpRefresh s' _
  | .claimPendingMcpRefresh s' | .completeMcpRefresh s' _ | .releaseMcpRefresh s' _
  | .settleMcpRefreshClaim s' _ => s' = s
  | .stop => true
  | _ => false

variable {slot : SlotState}

@[simp] lemma SlotState.controls_removeQueuedAll {ids : List String} :
    (slot.removeQueuedAll ids).controls = slot.controls := by
  unfold removeQueuedAll
  induction ids generalizing slot with
  | nil => rfl
  | cons id ids ih => exact ih

@[simp] lemma SlotState.controls_setQueue {p : WorkPriority} {ids : List String} :
    (slot.setQueue p ids).controls = slot.controls := by
  cases p <;> rfl

lemma SlotState.controls_pushFront {p : WorkPriority} {id : String} :
    (slot.pushFront p id).controls = slot.controls :=
  controls_setQueue

lemma SlotState.controls_pushBack {p : WorkPriority} {id : String} :
    (slot.pushBack p id).controls = slot.controls :=
  controls_setQueue

lemma SlotState.controls_foldl {α : Type} {f : SlotState → α → SlotState} {xs : List α}
    {slot : SlotState} (h : ∀ slot x, (f slot x).controls = slot.controls) :
    (xs.foldl f slot).controls = slot.controls := by
  induction xs generalizing slot with
  | nil => rfl
  | cons x xs ih =>
    have rest : (xs.foldl f (f slot x)).controls = (f slot x).controls := ih
    exact rest.trans (h slot x)

namespace Controls

variable (k : Controls)

/-- A request for a fingerprint: nothing, if it is applied or pending; deferred, if the slot is busy; and
otherwise left to the caller. -/
def request (busy : Bool) (fingerprint : String) : Controls × McpRefreshDisposition :=
  if k.applied = some fingerprint ∨ k.pending = some fingerprint then (k, .unchanged)
  else if busy then ({ k with pending := some fingerprint, refreshing := false }, .deferred)
  else (k, .restartNow)

variable (fingerprint : String)

/-- A fingerprint becomes pending, unless it is applied. -/
def defer : Controls :=
  if k.applied ≠ some fingerprint then
    { k with pending := some fingerprint, refreshing := false }
  else k

/-- The pending fingerprint is claimed, unless the slot works or a refresh is in progress. -/
def claim (working : Bool) : Controls × Option String :=
  if working ∨ k.refreshing then (k, none)
  else match k.pending with
    | none => (k, none)
    | some fingerprint => ({ k with refreshing := true }, some fingerprint)

def complete : Controls :=
  { k with
    applied := some fingerprint
    pending := if k.pending = some fingerprint then none else k.pending
    refreshing := false }

def release : Controls :=
  if k.pending = some fingerprint then { k with refreshing := false } else k

def settle : Controls :=
  if k.pending = some fingerprint then { k with pending := none, refreshing := false } else k

end Controls

namespace SlotWorkCoordinator

variable (st : CoordinatorState)

/-- The slot has work, or its runtime is not ready. -/
def isBusy (s : String) : Bool :=
  let slot := st.slotOrNew s .teammate
  slot.active.isSome || slot.queuedIds ≠ [] || slot.runtimeConstraint ≠ .ready

def isWorking (s : String) : Bool :=
  (activeOf st s).isSome

def controlsOf (s : String) : Controls :=
  ((st.slots[s]?).map SlotState.controls).getD (SlotState.new .teammate).controls

variable {c : SlotWorkCoordinator} {st st' : CoordinatorState} {op : Op} {s s' : String}
  {slot : SlotState} {g : SlotState → SlotState} {batch : WorkBatch}

variable {role : TeamRunTargetRole}

lemma controlsOf_slotOrNew : (st.slotOrNew s role).controls = controlsOf st s := by
  unfold CoordinatorState.slotOrNew controlsOf
  cases st.slots[s]? <;> rfl

lemma controlsOf_known (h : st.slots[s]? = some slot) : controlsOf st s = slot.controls := by
  simp [controlsOf, h]

lemma controlsOf_putSlot :
    controlsOf (st.putSlot s slot) s' = if s = s' then slot.controls else controlsOf st s' := by
  unfold controlsOf
  rw [CoordinatorState.slots_putSlot]
  split_ifs <;> rfl

lemma controlsOf_modifySlot (h : ∀ slot : SlotState, (g slot).controls = slot.controls) :
    controlsOf (st.modifySlot s g) s' = controlsOf st s' := by
  unfold controlsOf
  rw [CoordinatorState.slots_modifySlot]
  split_ifs
  · cases st.slots[s']? <;> simp [h]
  · rfl

lemma controlsOf_modifySlot_ne (ne : s ≠ s') :
    controlsOf (st.modifySlot s g) s' = controlsOf st s' := by
  unfold controlsOf
  rw [CoordinatorState.slots_modifySlot, if_neg ne]

lemma controlsOf_drop {ids : List String} {f : WorkIntent → WorkIntentState} :
    controlsOf ((st.setStates ids f).modifySlot s (·.removeQueuedAll ids)) s' = controlsOf st s' :=
  controlsOf_modifySlot fun _ => SlotState.controls_removeQueuedAll

lemma controlsOf_acquireEnqueue {ρ : Type} {port : RunCausalityPort ρ} {r : ρ}
    {request : EnqueueRequest} :
    controlsOf (acquireEnqueue c port r st request).2.1 s = controlsOf st s := by
  have put : controlsOf (st.putSlot request.slotId
      { st.slotOrNew request.slotId request.role with role := request.role }) s = controlsOf st s := by
    rw [controlsOf_putSlot]
    split_ifs with hs
    · rw [← hs]
      exact controlsOf_slotOrNew
    · rfl
  unfold acquireEnqueue
  dsimp only
  cases validateEnqueueConstraint request.slotId
      { st.slotOrNew request.slotId request.role with role := request.role } with
  | error _ => exact put
  | ok _ => exact put

lemma controlsOf_commitEnqueue {lease : EnqueueLease} {messageId : Option String} :
    controlsOf (commitEnqueue c st lease messageId).state s = controlsOf st s := by
  rcases commitEnqueue_cases c st lease messageId with ⟨_, _, state⟩ | ⟨_, state⟩
  · rw [state]
    have modified : controlsOf (st.tick.modifySlot lease.slotId
        (commitSlot · lease (committedIntent c st lease messageId))) s = controlsOf st.tick s := by
      apply controlsOf_modifySlot
      intro slot
      have pushed (slot' : SlotState) (same : slot'.controls = slot.controls) {p : WorkPriority}
          {id : String} : (if lease.source = .leadIntervention then slot'.pushFront p id
            else slot'.pushBack p id).controls = slot.controls := by
        split_ifs
        · exact SlotState.controls_pushFront.trans same
        · exact SlotState.controls_pushBack.trans same
      unfold commitSlot
      apply pushed
      cases (committedIntent c st lease messageId).mailboxMessageId <;>
        cases lease.source.resumesPausedSlot <;> rfl
    exact modified
  · rw [state]

lemma controlsOf_abortEnqueue {lease : EnqueueLease} :
    controlsOf (abortEnqueue c st lease).state s = controlsOf st s := by
  unfold abortEnqueue
  cases st.enqueueLeases[lease.leaseId]? with
  | none => rfl
  | some record =>
    dsimp only
    split <;> rfl

lemma controlsOf_recoverMessage {acc : CoordinatorState × List String} {message : String} :
    controlsOf (recoverMessage c s role acc message).1 s' = controlsOf acc.1 s' := by
  unfold recoverMessage
  dsimp only
  split
  · rfl
  · have modified : controlsOf (acc.1.tick.modifySlot s
        (·.pushBack .background (recoveryIntent c acc.1 s role message).intentId)) s' =
        controlsOf acc.1.tick s' := controlsOf_modifySlot fun _ => SlotState.controls_pushBack
    exact modified

lemma controlsOf_recoverAll {acc : CoordinatorState × List String} {messages : List String} :
    controlsOf (messages.foldl (recoverMessage c s role) acc).1 s' = controlsOf acc.1 s' := by
  induction messages generalizing acc with
  | nil => rfl
  | cons m messages ih => exact ih.trans controlsOf_recoverMessage

lemma controlsOf_reconcile {unread stale : List String} :
    controlsOf (reconcileMailboxSnapshot c st s unread role stale).state s' = controlsOf st s' := by
  rw [reconcile_state]
  apply controlsOf_recoverAll.trans
  apply controlsOf_drop.trans
  rw [controlsOf_putSlot]
  split_ifs with hs
  · rw [← hs]
    exact controlsOf_slotOrNew
  · rfl

lemma controlsOf_next : controlsOf (next c st s).state s' = controlsOf st s' := by
  rcases next_cases c st s with ⟨batch, _, state, _⟩ | ⟨_, state⟩
  · rw [state]
    exact controlsOf_modifySlot fun slot => SlotState.controls_removeQueuedAll
  · rw [state]

lemma controlsOf_modifyActive {f : ActiveBatch → ActiveBatch} :
    controlsOf (modifyActive st s f) s' = controlsOf st s' :=
  controlsOf_modifySlot fun _ => rfl

lemma controlsOf_observeMessages {expectedBatchId : String} {messageIds : List String} :
    controlsOf (observeMessages st s expectedBatchId messageIds).state s' = controlsOf st s' := by
  unfold observeMessages
  cases activeOf st s with
  | none => rfl
  | some active =>
    dsimp only
    split
    · rfl
    · exact controlsOf_modifyActive

lemma controlsOf_markStarted {turnId : String} :
    controlsOf (markStarted c st batch turnId).state s = controlsOf st s := by
  rw [markStarted_state]
  split
  · exact controlsOf_modifyActive
  · rfl

lemma controlsOf_retryStart : controlsOf (retryStart c st batch).state s = controlsOf st s := by
  unfold retryStart
  split
  · rfl
  · apply controlsOf_modifySlot
    intro slot
    exact SlotState.controls_foldl fun _ _ => SlotState.controls_pushFront

lemma controlsOf_endBatch {t : WorkIntentState} {delivery : DeliveryOutcome} {ids : List String} :
    controlsOf ((st.setStates ids fun _ => t).modifySlot s
      fun slot => (settleDelivery { slot with active := none } batch delivery).1) s' =
      controlsOf st s' := by
  apply controlsOf_modifySlot
  intro slot
  cases delivery <;> rfl

lemma controlsOf_terminalizeBatch {t : WorkIntentState} {delivery : DeliveryOutcome} :
    controlsOf (terminalizeBatch c st batch t delivery).state s = controlsOf st s := by
  rw [terminalizeBatch_state]
  split_ifs
  · exact controlsOf_endBatch
  · rfl

lemma controlsOf_interruptBatch {reason : Option String} {replacement : String} :
    controlsOf (interruptBatch c st batch reason replacement).state s = controlsOf st s := by
  unfold interruptBatch
  split
  · rfl
  · exact controlsOf_endBatch

lemma controlsOf_completeBatchWithAck :
    controlsOf (completeBatchWithAck c st batch).state s = controlsOf st s := by
  unfold completeBatchWithAck
  cases activeOf st batch.slotId with
  | none => rfl
  | some active =>
    dsimp only
    split
    · rfl
    · exact controlsOf_modifySlot fun slot => SlotState.controls_removeQueuedAll

lemma controlsOf_dissolveBatch {teamRunId : String} {a : ActiveBatch} :
    controlsOf (dissolveBatch teamRunId st s a) s' = controlsOf st s' := by
  apply controlsOf_modifySlot
  intro slot
  exact SlotState.controls_foldl fun _ _ => SlotState.controls_pushFront

lemma controlsOf_dissolveAll {teamRunId : String} {slots : List (String × ActiveBatch)} :
    controlsOf (slots.foldl (fun state (slotId, active) =>
      dissolveBatch teamRunId state slotId active) st) s = controlsOf st s := by
  induction slots generalizing st with
  | nil => rfl
  | cons x slots ih => exact ih.trans controlsOf_dissolveBatch

lemma controlsOf_cancelQueued {k : String} : controlsOf (cancelQueued st k) s = controlsOf st s := by
  unfold cancelQueued
  cases st.intents[k]? with
  | none => rfl
  | some i => exact controlsOf_modifySlot fun _ => rfl

lemma controlsOf_cancelAll {ids : List String} :
    controlsOf (ids.foldl cancelQueued st) s = controlsOf st s := by
  induction ids generalizing st with
  | nil => rfl
  | cons k ids ih => exact ih.trans controlsOf_cancelQueued

lemma controlsOf_completeSignals {intentIds : List String} :
    controlsOf (completeSignals st s intentIds).state s' = controlsOf st s' := by
  unfold completeSignals
  split
  · rfl
  · exact controlsOf_drop

lemma controlsOf_putSlot_twice {slot' : SlotState} {n : Nat} :
    controlsOf ({ st.putSlot s slot with nextOperationId := n }.putSlot s slot') s' =
      if s = s' then slot'.controls else controlsOf st s' := by
  rw [controlsOf_putSlot]
  split_ifs with hs
  · rfl
  · have inner : controlsOf { st.putSlot s slot with nextOperationId := n } s' =
        controlsOf (st.putSlot s slot) s' := rfl
    rw [inner, controlsOf_putSlot, if_neg hs]

lemma controlsOf_setRuntimeConstraint {constraint : RuntimeConstraint} :
    controlsOf (setRuntimeConstraint c st s constraint).state s' =
      if s = s' then { controlsOf st s' with constraint := constraint } else controlsOf st s' := by
  have put : controlsOf (constrainedState st s constraint) s' =
      if s = s' then { controlsOf st s' with constraint := constraint } else controlsOf st s' := by
    apply controlsOf_putSlot.trans
    split_ifs with hs
    · subst hs
      rw [← controlsOf_slotOrNew]
      rfl
    · rfl
  rw [setRuntimeConstraint_state]
  cases endsWork constraint with
  | none => exact put
  | some classification =>
    rw [← put]
    apply controlsOf_modifySlot
    intro slot
    exact SlotState.controls_foldl fun _ _ => SlotState.controls_pushBack

lemma beginRuntimeRestartInner_ok {allowQueued : Bool} {gate : RuntimeRestartGate}
    (granted : (beginRuntimeRestartInner st s allowQueued).result = .ok gate) :
    gate = ⟨u64SaturatingSucc st.nextOperationId, (controlsOf st s).constraint⟩ ∧
      (beginRuntimeRestartInner st s allowQueued).state.nextOperationId =
        u64SaturatingSucc st.nextOperationId ∧
      ∀ s', controlsOf (beginRuntimeRestartInner st s allowQueued).state s' =
        if s = s' then { controlsOf st s' with constraint := .starting gate.operationId }
        else controlsOf st s' := by
  have previous : (st.slotOrNew s .teammate).runtimeConstraint = (controlsOf st s).constraint :=
    congrArg Controls.constraint controlsOf_slotOrNew
  have written (n : Nat) (s' : String) : controlsOf ({ st.putSlot s (st.slotOrNew s .teammate) with
      nextOperationId := n }.putSlot s { st.slotOrNew s .teammate with
        runtimeConstraint := .starting n }) s' =
      if s = s' then { controlsOf st s' with constraint := .starting n } else controlsOf st s' := by
    rw [controlsOf_putSlot_twice]
    split_ifs with hs
    · subst hs
      rw [← controlsOf_slotOrNew]
      rfl
    · rfl
  unfold beginRuntimeRestartInner at granted ⊢
  dsimp only at granted ⊢
  split_ifs at granted ⊢ with busy
  cases constraint : (st.slotOrNew s .teammate).runtimeConstraint with
  | removing n =>
    simp only [constraint] at granted
    cases granted
  | sessionStopped =>
    simp only [constraint] at granted
    cases granted
  | ready | starting _ | failed _ _ =>
    simp only [constraint] at granted ⊢
    cases granted
    rw [← previous, constraint]
    exact ⟨rfl, rfl, written _⟩

lemma beginRuntimeRestartInner_error {allowQueued : Bool} {rejection : RuntimeRestartRejection}
    (rejected : (beginRuntimeRestartInner st s allowQueued).result = .error rejection) :
    (beginRuntimeRestartInner st s allowQueued).state.nextOperationId = st.nextOperationId ∧
      ∀ s', controlsOf (beginRuntimeRestartInner st s allowQueued).state s' = controlsOf st s' := by
  have put (s' : String) :
      controlsOf (st.putSlot s (st.slotOrNew s .teammate)) s' = controlsOf st s' := by
    rw [controlsOf_putSlot]
    split_ifs with hs
    · rw [← hs]
      exact controlsOf_slotOrNew
    · rfl
  unfold beginRuntimeRestartInner at rejected ⊢
  dsimp only at rejected ⊢
  split_ifs at rejected ⊢ with busy
  · exact ⟨rfl, put⟩
  · cases constraint : (st.slotOrNew s .teammate).runtimeConstraint with
    | removing n => exact ⟨rfl, put⟩
    | sessionStopped => exact ⟨rfl, put⟩
    | ready | starting _ | failed _ _ =>
      simp only [constraint] at rejected
      cases rejected

lemma controlsOf_begin_ne {allowQueued : Bool} (ne : s ≠ s') :
    controlsOf (beginRuntimeRestartInner st s allowQueued).state s' = controlsOf st s' := by
  cases result : (beginRuntimeRestartInner st s allowQueued).result with
  | error rejection => exact (beginRuntimeRestartInner_error result).2 s'
  | ok gate => exact ((beginRuntimeRestartInner_ok result).2.2 s').trans (if_neg ne)

lemma controlsOf_abortRuntimeRestart {gate : RuntimeRestartGate} :
    controlsOf (abortRuntimeRestart st s gate).state s' =
      if s = s' ∧ (st.slots[s]?).isSome = true ∧
          (controlsOf st s).constraint = .starting gate.operationId then
        { controlsOf st s' with constraint := gate.previousConstraint }
      else controlsOf st s' := by
  unfold abortRuntimeRestart
  cases hs : st.slots[s]? with
  | none => simp
  | some slot =>
    have known := controlsOf_known hs
    by_cases current : slot.runtimeConstraint = .starting gate.operationId
    · have same : (controlsOf st s).constraint = .starting gate.operationId := by
        rw [known]
        exact current
      simp only [current, ne_eq, not_true_eq_false, if_false, controlsOf_putSlot, same,
        Option.isSome_some, and_true]
      split_ifs with e
      · rw [← e, known]
        rfl
      · rfl
    · have other : (controlsOf st s).constraint ≠ .starting gate.operationId := by
        rw [known]
        exact current
      simp [current, other]

variable {fingerprint : String}

lemma controlsOf_requestMcpRefresh :
    (requestMcpRefresh st s fingerprint).result =
        ((controlsOf st s).request (isBusy st s) fingerprint).2 ∧
      ∀ s', controlsOf (requestMcpRefresh st s fingerprint).state s' =
        if s = s' then ((controlsOf st s).request (isBusy st s) fingerprint).1
        else controlsOf st s' := by
  have slot : (st.slotOrNew s .teammate).controls = controlsOf st s := controlsOf_slotOrNew
  have put (s' : String) : controlsOf (st.putSlot s (st.slotOrNew s .teammate)) s' =
      if s = s' then controlsOf st s else controlsOf st s' := by
    rw [controlsOf_putSlot, slot]
  have applied : (st.slotOrNew s .teammate).appliedMcpFingerprint = (controlsOf st s).applied :=
    congrArg Controls.applied slot
  have pending : (st.slotOrNew s .teammate).pendingMcpFingerprint = (controlsOf st s).pending :=
    congrArg Controls.pending slot
  have busy : isBusy st s = true ↔ (st.slotOrNew s .teammate).active.isSome = true ∨
      (st.slotOrNew s .teammate).queuedIds ≠ [] ∨
      (st.slotOrNew s .teammate).runtimeConstraint ≠ .ready := by
    simp [isBusy, or_assoc]
  unfold requestMcpRefresh Controls.request
  dsimp only
  rw [applied, pending]
  split_ifs with same works idle idle
  · exact ⟨rfl, put⟩
  · refine ⟨rfl, fun s' => ?_⟩
    apply controlsOf_putSlot_twice.trans
    rw [← slot]
    rfl
  · exact absurd (busy.mpr works) idle
  · exact absurd (busy.mp idle) works
  · exact ⟨rfl, put⟩

lemma controlsOf_deferMcpRefresh :
    controlsOf (deferMcpRefresh st s fingerprint).state s' =
      if s = s' then (controlsOf st s).defer fingerprint else controlsOf st s' := by
  have slot : (st.slotOrNew s .teammate).controls = controlsOf st s := controlsOf_slotOrNew
  have applied : (st.slotOrNew s .teammate).appliedMcpFingerprint = (controlsOf st s).applied :=
    congrArg Controls.applied slot
  apply controlsOf_putSlot.trans
  unfold Controls.defer
  rw [applied, ← slot]
  split_ifs <;> rfl

lemma controlsOf_claimPendingMcpRefresh :
    (claimPendingMcpRefresh st s).result = ((controlsOf st s).claim (isWorking st s)).2 ∧
      ∀ s', controlsOf (claimPendingMcpRefresh st s).state s' =
        if s = s' then ((controlsOf st s).claim (isWorking st s)).1 else controlsOf st s' := by
  unfold claimPendingMcpRefresh
  cases hs : st.slots[s]? with
  | none =>
    have unknown : controlsOf st s = (SlotState.new .teammate).controls := by simp [controlsOf, hs]
    have idle : isWorking st s = false := by simp [isWorking, activeOf, hs]
    rw [unknown, idle]
    refine ⟨rfl, fun s' => ?_⟩
    split_ifs with e
    · rw [← e, unknown]
      rfl
    · rfl
  | some slot =>
    have working : isWorking st s = slot.active.isSome := by simp [isWorking, activeOf, hs]
    rw [controlsOf_known hs, working]
    unfold Controls.claim
    have refreshing : slot.controls.refreshing = slot.mcpRefreshInProgress := rfl
    have pending : slot.controls.pending = slot.pendingMcpFingerprint := rfl
    dsimp only
    rw [refreshing, pending]
    split_ifs with taken
    · refine ⟨rfl, fun s' => ?_⟩
      split_ifs with e
      · rw [← e, controlsOf_known hs]
      · rfl
    · cases slot.pendingMcpFingerprint with
      | none =>
        refine ⟨rfl, fun s' => ?_⟩
        split_ifs with e
        · rw [← e, controlsOf_known hs]
        · rfl
      | some fingerprint => exact ⟨rfl, fun s' => controlsOf_putSlot⟩

lemma controlsOf_modifySlot_known {f : Controls → Controls} (known : (st.slots[s]?).isSome = true)
    (h : ∀ slot : SlotState, (g slot).controls = f slot.controls) :
    controlsOf (st.modifySlot s g) s' = if s = s' then f (controlsOf st s) else controlsOf st s' := by
  obtain ⟨slot, hs⟩ := Option.isSome_iff_exists.mp known
  unfold controlsOf
  rw [CoordinatorState.slots_modifySlot]
  split_ifs with e
  · rw [← e, hs]
    exact h slot
  · rfl

lemma controlsOf_completeMcpRefresh (known : (st.slots[s]?).isSome = true) :
    controlsOf (completeMcpRefresh st s fingerprint).state s' =
      if s = s' then (controlsOf st s).complete fingerprint else controlsOf st s' :=
  controlsOf_modifySlot_known (f := (·.complete fingerprint)) known fun _ => rfl

lemma controlsOf_releaseMcpRefresh (known : (st.slots[s]?).isSome = true) :
    controlsOf (releaseMcpRefresh st s fingerprint).state s' =
      if s = s' then (controlsOf st s).release fingerprint else controlsOf st s' := by
  apply controlsOf_modifySlot_known (f := (·.release fingerprint)) known
  intro slot
  have pending : slot.controls.pending = slot.pendingMcpFingerprint := rfl
  unfold Controls.release
  rw [pending]
  split_ifs <;> rfl

lemma controlsOf_settleMcpRefreshClaim (known : (st.slots[s]?).isSome = true) :
    controlsOf (settleMcpRefreshClaim st s fingerprint).state s' =
      if s = s' then (controlsOf st s).settle fingerprint else controlsOf st s' := by
  apply controlsOf_modifySlot_known (f := (·.settle fingerprint)) known
  intro slot
  have pending : slot.controls.pending = slot.pendingMcpFingerprint := rfl
  unfold Controls.settle
  rw [pending]
  split_ifs <;> rfl

lemma controlsOf_modifySlot_unknown (unknown : st.slots[s]? = none) :
    controlsOf (st.modifySlot s g) s' = controlsOf st s' := by
  unfold controlsOf
  rw [CoordinatorState.slots_modifySlot]
  split_ifs with e
  · rw [← e, unknown]
    rfl
  · rfl

lemma controlsOf_stop :
    controlsOf (stop st).state s =
      if (st.slots[s]?).isSome then { controlsOf st s with constraint := .sessionStopped }
      else controlsOf st s := by
  have known : (stop st).state.slots[s]? = (st.slots[s]?).map fun slot : SlotState =>
      { slot.clearWork with runtimeConstraint := .sessionStopped } := Table.get_map ..
  unfold controlsOf
  rw [known]
  cases st.slots[s]? <;> rfl

/-- An operation that does not write the controls of a slot leaves them alone. -/
lemma exec_controls (quiet : op.writes s = false) :
    controlsOf (exec c st op).1 s = controlsOf st s := by
  cases op with
  | acquireEnqueue request answer => exact controlsOf_acquireEnqueue
  | commitEnqueue lease messageId => exact controlsOf_commitEnqueue
  | abortEnqueue lease => exact controlsOf_abortEnqueue
  | reconcileMailboxSnapshot slotId unread role stale => exact controlsOf_reconcile
  | next slotId => exact controlsOf_next
  | observeMessages slotId batchId messageIds => exact controlsOf_observeMessages
  | markStarted b turnId => exact controlsOf_markStarted
  | retryStart b => exact controlsOf_retryStart
  | completeBatchWithAck b => exact controlsOf_completeBatchWithAck
  | failBatch b classification => exact controlsOf_terminalizeBatch
  | cancelBatch b classification => exact controlsOf_terminalizeBatch
  | interruptBatch b reason replacement => exact controlsOf_interruptBatch
  | takeInterruptMetadata batchId => rfl
  | discardQueuedExcept slotId retained => exact controlsOf_drop
  | cancelRun teamRunId => exact controlsOf_cancelAll.trans controlsOf_dissolveAll
  | completeSignals slotId intentIds => exact controlsOf_completeSignals
  | pauseSlot slotId =>
    apply controlsOf_putSlot.trans
    split_ifs with hs
    · rw [← hs]
      exact controlsOf_slotOrNew
    · rfl
  | removeSlot slotId => exact controlsOf_modifySlot fun _ => rfl
  | setRuntimeConstraint slotId constraint =>
    have ne : slotId ≠ s := of_decide_eq_false quiet
    exact controlsOf_setRuntimeConstraint.trans (if_neg ne)
  | beginRuntimeRestart slotId =>
    have ne : slotId ≠ s := of_decide_eq_false quiet
    exact controlsOf_begin_ne ne
  | beginMcpRuntimeRestart slotId =>
    have ne : slotId ≠ s := of_decide_eq_false quiet
    exact controlsOf_begin_ne ne
  | abortRuntimeRestart slotId gate =>
    have ne : slotId ≠ s := of_decide_eq_false quiet
    exact controlsOf_abortRuntimeRestart.trans (if_neg fun h => ne h.1)
  | requestMcpRefresh slotId fingerprint =>
    have ne : slotId ≠ s := of_decide_eq_false quiet
    exact (controlsOf_requestMcpRefresh.2 s).trans (if_neg ne)
  | deferMcpRefresh slotId fingerprint =>
    have ne : slotId ≠ s := of_decide_eq_false quiet
    exact controlsOf_deferMcpRefresh.trans (if_neg ne)
  | claimPendingMcpRefresh slotId =>
    have ne : slotId ≠ s := of_decide_eq_false quiet
    exact (controlsOf_claimPendingMcpRefresh.2 s).trans (if_neg ne)
  | completeMcpRefresh slotId fingerprint => exact controlsOf_modifySlot_ne (of_decide_eq_false quiet)
  | releaseMcpRefresh slotId fingerprint => exact controlsOf_modifySlot_ne (of_decide_eq_false quiet)
  | settleMcpRefreshClaim slotId fingerprint =>
    exact controlsOf_modifySlot_ne (of_decide_eq_false quiet)
  | stop => cases quiet

end SlotWorkCoordinator

end KiCore.Team

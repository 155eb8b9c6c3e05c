import KiCore.Team.Coordinator.Controls

/-!
# The restart gate

A runtime restart writes a gate into the runtime constraint of its slot, and rolls it back if the restart
cannot start. `Gated` follows the gates of one slot: which stand, and which of them wrote the constraint
one over the other. `gates_kept` is about all runs of the coordinator: nothing is claimed while a gate
stands, and an aborted gate is rolled back exactly if it is the current one, as long as nobody but the
restarted runtime publishes the slot as ready, and no other writer of the constraint uses the number of a
gate (`Uncrossed`).
-/

namespace KiCore.Team

open KiCore.Lib

/-- A step: a call on the coordinator, or the call that publishes the restarted runtime of the slot. -/
inductive GateStep where
  | call (op : Op)
  | restarted

def GateStep.op (s : String) : GateStep → Op
  | .call op => op
  | .restarted => .setRuntimeConstraint s .ready

/-- The state of the coordinator, with the gates of one slot: those that stand, and those that wrote the
constraint one over the other, the current one first. -/
structure Gated where
  state : CoordinatorState
  standing : List RuntimeRestartGate
  stack : List RuntimeRestartGate

def Gated.initial : Gated :=
  { state := .default, standing := [], stack := [] }

def Gated.current (σ : Gated) : Option RuntimeRestartGate :=
  σ.stack.head?

namespace SlotWorkCoordinator

def returnedGate (st : CoordinatorState) (s : String) : Op → Option RuntimeRestartGate
  | .beginRuntimeRestart s' => if s' = s then (beginRuntimeRestart st s).result.toOption else none
  | .beginMcpRuntimeRestart s' =>
    if s' = s then (beginMcpRuntimeRestart st s).result.toOption else none
  | _ => none

/-- A gate stands until it is aborted or the restarted runtime is published. -/
def standingAfter (s : String) (σ : Gated) : GateStep → List RuntimeRestartGate
  | .call (.abortRuntimeRestart s' gate) =>
    if s' = s then σ.standing.filter (· ≠ gate) else σ.standing
  | .call op => (returnedGate σ.state s op).toList ++ σ.standing
  | .restarted => []

/-- A gate that is returned comes on top; the current gate is taken off by its abort; and every other write
of the constraint takes all of them off. -/
def stackAfter (s : String) (σ : Gated) : GateStep → List RuntimeRestartGate
  | .call (.abortRuntimeRestart s' gate) =>
    if s' = s ∧ σ.current = some gate then σ.stack.tail else σ.stack
  | .call (.setRuntimeConstraint s' _) => if s' = s then [] else σ.stack
  | .call .stop => []
  | .call op => (returnedGate σ.state s op).toList ++ σ.stack
  | .restarted => []

def gateStep (c : SlotWorkCoordinator) (s : String) (σ : Gated) (step : GateStep) : Gated where
  state := (exec c σ.state (step.op s)).1
  standing := standingAfter s σ step
  stack := stackAfter s σ step

/-- A step respects the gates of a slot. No batch of the slot is claimed while a gate stands; the abort of
the current gate puts the constraint before it back; and the abort of another gate changes nothing. -/
structure GatesKept (c : SlotWorkCoordinator) (s : String) (σ : Gated) (step : GateStep) : Prop where
  excludes : σ.standing ≠ [] → ∀ batch, returnedBatch c σ.state (step.op s) = some batch →
    batch.slotId ≠ s
  restores : ∀ gate, step.op s = .abortRuntimeRestart s gate → σ.current = some gate →
    ∃ slot, σ.state.slots[s]? = some slot ∧ (exec c σ.state (step.op s)).1 =
      σ.state.putSlot s { slot with runtimeConstraint := gate.previousConstraint }
  unchanged : ∀ gate, step.op s = .abortRuntimeRestart s gate → σ.current ≠ some gate →
    (exec c σ.state (step.op s)).1 = σ.state

/-- A step does not cross a gate: while a gate stands, nothing but the restarted runtime is published as
ready, and the number of a gate that is aborted stands in the constraint only if the gate wrote it. -/
def Uncrossed (s : String) (σ : Gated) : GateStep → Prop
  | .call (.setRuntimeConstraint s' constraint) =>
    s' = s → σ.standing ≠ [] → constraint ≠ .ready
  | .call (.abortRuntimeRestart s' gate) => s' = s → ∀ slot, σ.state.slots[s]? = some slot →
    slot.runtimeConstraint = .starting gate.operationId → σ.current = some gate
  | _ => True

/-- What holds of the gates of a slot. The current gate stands in the constraint with its number, which is
not 0, and each gate has kept the number of the one below; while a gate stands, the slot is not ready; and
a gate that has replaced a ready runtime has every standing gate on top of it. -/
structure GateInv (s : String) (σ : Gated) : Prop where
  top : ∀ gate, σ.current = some gate →
    (controlsOf σ.state s).constraint = .starting gate.operationId
  numbered : ∀ gate ∈ σ.stack, gate.operationId ≠ 0
  chained : σ.stack.IsChain fun gate below => gate.previousConstraint = .starting below.operationId
  blocked : σ.standing ≠ [] → (controlsOf σ.state s).constraint ≠ .ready
  covered : ∀ gate ∈ σ.stack, gate.previousConstraint = .ready → σ.standing ⊆ σ.stack

variable {c : SlotWorkCoordinator} {st : CoordinatorState} {σ : Gated} {op : Op} {step : GateStep}
  {steps : List GateStep} {s : String} {gate : RuntimeRestartGate}

/-- An operation that writes the runtime constraint of a slot. -/
def constrains (s : String) : Op → Bool
  | .setRuntimeConstraint s' _ | .beginRuntimeRestart s' | .beginMcpRuntimeRestart s'
  | .abortRuntimeRestart s' _ => s' = s
  | .stop => true
  | _ => false

variable {k : Controls}

@[simp] lemma Controls.constraint_request {busy : Bool} {fingerprint : String} :
    (k.request busy fingerprint).1.constraint = k.constraint := by
  unfold Controls.request
  split_ifs <;> rfl

@[simp] lemma Controls.constraint_defer {fingerprint : String} :
    (k.defer fingerprint).constraint = k.constraint := by
  unfold Controls.defer
  split_ifs <;> rfl

@[simp] lemma Controls.constraint_claim {working : Bool} :
    (k.claim working).1.constraint = k.constraint := by
  unfold Controls.claim
  split_ifs
  · rfl
  · cases k.pending <;> rfl

@[simp] lemma Controls.constraint_release {fingerprint : String} :
    (k.release fingerprint).constraint = k.constraint := by
  unfold Controls.release
  split_ifs <;> rfl

@[simp] lemma Controls.constraint_settle {fingerprint : String} :
    (k.settle fingerprint).constraint = k.constraint := by
  unfold Controls.settle
  split_ifs <;> rfl

/-- Only the operations that say so write the constraint. -/
lemma exec_constraint_eq (free : constrains s op = false) :
    (controlsOf (exec c st op).1 s).constraint = (controlsOf st s).constraint := by
  by_cases writes : op.writes s = false
  · rw [exec_controls writes]
  have known_or {P : Prop} (known : (st.slots[s]?).isSome = true → P) (unknown : st.slots[s]? = none → P) :
      P := by
    cases hs : st.slots[s]? with
    | none => exact unknown hs
    | some slot => exact known (by rw [hs]; rfl)
  cases op with
  | requestMcpRefresh slotId fingerprint =>
    obtain rfl : slotId = s := by simpa [Op.writes] using writes
    have controls : controlsOf (requestMcpRefresh st slotId fingerprint).state slotId = _ :=
      (controlsOf_requestMcpRefresh.2 slotId).trans (if_pos rfl)
    exact (congrArg Controls.constraint controls).trans Controls.constraint_request
  | deferMcpRefresh slotId fingerprint =>
    obtain rfl : slotId = s := by simpa [Op.writes] using writes
    have controls : controlsOf (deferMcpRefresh st slotId fingerprint).state slotId = _ :=
      controlsOf_deferMcpRefresh.trans (if_pos rfl)
    exact (congrArg Controls.constraint controls).trans Controls.constraint_defer
  | claimPendingMcpRefresh slotId =>
    obtain rfl : slotId = s := by simpa [Op.writes] using writes
    have controls : controlsOf (claimPendingMcpRefresh st slotId).state slotId = _ :=
      (controlsOf_claimPendingMcpRefresh.2 slotId).trans (if_pos rfl)
    exact (congrArg Controls.constraint controls).trans Controls.constraint_claim
  | completeMcpRefresh slotId fingerprint =>
    obtain rfl : slotId = s := by simpa [Op.writes] using writes
    apply known_or
    · intro known
      have controls : controlsOf (completeMcpRefresh st slotId fingerprint).state slotId = _ :=
        (controlsOf_completeMcpRefresh known).trans (if_pos rfl)
      have same : ((controlsOf st slotId).complete fingerprint).constraint =
          (controlsOf st slotId).constraint := rfl
      exact (congrArg Controls.constraint controls).trans same
    · intro unknown
      exact congrArg Controls.constraint (controlsOf_modifySlot_unknown unknown)
  | releaseMcpRefresh slotId fingerprint =>
    obtain rfl : slotId = s := by simpa [Op.writes] using writes
    apply known_or
    · intro known
      have controls : controlsOf (releaseMcpRefresh st slotId fingerprint).state slotId = _ :=
        (controlsOf_releaseMcpRefresh known).trans (if_pos rfl)
      exact (congrArg Controls.constraint controls).trans Controls.constraint_release
    · intro unknown
      exact congrArg Controls.constraint (controlsOf_modifySlot_unknown unknown)
  | settleMcpRefreshClaim slotId fingerprint =>
    obtain rfl : slotId = s := by simpa [Op.writes] using writes
    apply known_or
    · intro known
      have controls : controlsOf (settleMcpRefreshClaim st slotId fingerprint).state slotId = _ :=
        (controlsOf_settleMcpRefreshClaim known).trans (if_pos rfl)
      exact (congrArg Controls.constraint controls).trans Controls.constraint_settle
    · intro unknown
      exact congrArg Controls.constraint (controlsOf_modifySlot_unknown unknown)
  | setRuntimeConstraint | beginRuntimeRestart | beginMcpRuntimeRestart | abortRuntimeRestart =>
    exact absurd free writes
  | stop => cases free
  | _ => exact absurd rfl writes

variable {σ' : Gated}

lemma GateInv.congr (inv : GateInv s σ)
    (constraint : (controlsOf σ'.state s).constraint = (controlsOf σ.state s).constraint)
    (standing : σ'.standing = σ.standing) (stack : σ'.stack = σ.stack) : GateInv s σ' := by
  obtain ⟨top, numbered, chained, blocked, covered⟩ := inv
  unfold Gated.current at top
  rw [← constraint, ← stack] at top
  rw [← stack] at numbered chained covered
  rw [← standing, ← constraint] at blocked
  rw [← standing] at covered
  exact ⟨top, numbered, chained, blocked, covered⟩

lemma GateInv.push (inv : GateInv s σ) (numbered : gate.operationId ≠ 0)
    (previous : gate.previousConstraint = (controlsOf σ.state s).constraint)
    (constraint : (controlsOf σ'.state s).constraint = .starting gate.operationId)
    (standing : σ'.standing = gate :: σ.standing) (stack : σ'.stack = gate :: σ.stack) :
    GateInv s σ' := by
  refine ⟨fun g hg => ?_, ?_, ?_, fun _ => ?_, ?_⟩
  · unfold Gated.current at hg
    rw [stack, List.head?_cons, Option.some.injEq] at hg
    rw [constraint, hg]
  · rw [stack]
    exact List.forall_mem_cons.mpr ⟨numbered, inv.numbered⟩
  · rw [stack]
    apply List.isChain_cons.mpr
    exact ⟨fun below h => previous.trans (inv.top below h), inv.chained⟩
  · rw [constraint]
    simp
  · rw [stack, standing]
    intro g mem ready
    rcases List.mem_cons.mp mem with rfl | mem
    · have none' : σ.standing = [] := by
        by_contra stands
        exact inv.blocked stands (previous ▸ ready)
      rw [none']
      exact List.cons_subset_cons _ (List.nil_subset _)
    · exact List.cons_subset_cons _ (inv.covered g mem ready)

lemma GateInv.clear (stack : σ'.stack = [])
    (blocked : σ'.standing ≠ [] → (controlsOf σ'.state s).constraint ≠ .ready) : GateInv s σ' := by
  refine ⟨fun gate h => ?_, ?_, ?_, blocked, ?_⟩
  · unfold Gated.current at h
    rw [stack] at h
    cases h
  · rw [stack]
    exact fun gate h => by cases h
  · rw [stack]
    exact .nil
  · rw [stack]
    exact fun gate h => by cases h

lemma GateInv.pop (inv : GateInv s σ) (current : σ.current = some gate)
    (constraint : (controlsOf σ'.state s).constraint = gate.previousConstraint)
    (standing : σ'.standing = σ.standing.filter (· ≠ gate)) (stack : σ'.stack = σ.stack.tail) :
    GateInv s σ' := by
  obtain ⟨rest, split⟩ : ∃ rest, σ.stack = gate :: rest := List.head?_eq_some_iff.mp current
  rw [split, List.tail_cons] at stack
  obtain ⟨_, numbered, chained, _, covered⟩ := inv
  rw [split] at numbered chained covered
  obtain ⟨below, chained⟩ := List.isChain_cons.mp chained
  refine ⟨fun g h => ?_, ?_, ?_, fun stands ready => ?_, ?_⟩
  · unfold Gated.current at h
    rw [stack] at h
    rw [constraint]
    exact below g h
  · rw [stack]
    exact fun g h => numbered g (.tail _ h)
  · rw [stack]
    exact chained
  · -- the last gate on the stack is the only one that can have replaced a ready runtime
    rw [constraint] at ready
    have bottom : rest = [] := by
      cases rest with
      | nil => rfl
      | cons g _ =>
        have next := below g rfl
        rw [ready] at next
        cases next
    have only := covered gate (.head _) ready
    rw [bottom] at only
    apply stands
    rw [standing]
    apply List.filter_eq_nil_iff.mpr
    intro g hg
    have same := List.mem_singleton.mp (only hg)
    simpa using same
  · rw [stack, standing]
    intro g mem ready x hx
    obtain ⟨hx, ne⟩ := List.mem_filter.mp hx
    have mem' := covered g (.tail _ mem) ready hx
    exact (List.mem_cons.mp mem').resolve_left (of_decide_eq_true ne)

lemma GateInv.drop (inv : GateInv s σ) (state : σ'.state = σ.state)
    (standing : σ'.standing ⊆ σ.standing) (stack : σ'.stack = σ.stack) : GateInv s σ' := by
  obtain ⟨top, numbered, chained, blocked, covered⟩ := inv
  refine ⟨?_, ?_, ?_, fun stands => ?_, ?_⟩
  · unfold Gated.current at top ⊢
    rw [state, stack]
    exact top
  · rw [stack]
    exact numbered
  · rw [stack]
    exact chained
  · rw [state]
    apply blocked
    intro none'
    rw [none'] at standing
    exact stands (List.subset_nil.mp standing)
  · rw [stack]
    intro g mem ready
    exact List.Subset.trans standing (covered g mem ready)

lemma gateStep_quiet (inv : GateInv s σ) (free : constrains s op = false) :
    GateInv s (gateStep c s σ (.call op)) := by
  have same : standingAfter s σ (.call op) = σ.standing ∧ stackAfter s σ (.call op) = σ.stack := by
    cases op with
    | setRuntimeConstraint s' _ | beginRuntimeRestart s' | beginMcpRuntimeRestart s'
    | abortRuntimeRestart s' _ =>
      have ne : ¬ s' = s := of_decide_eq_false free
      simp [standingAfter, stackAfter, returnedGate, ne]
    | stop => cases free
    | _ => exact ⟨rfl, rfl⟩
  exact inv.congr (exec_constraint_eq free) same.1 same.2

lemma gateStep_begin (allowQueued : Bool) (inv : GateInv s σ)
    (state : σ'.state = (beginRuntimeRestartInner σ.state s allowQueued).state)
    (standing : σ'.standing =
      (beginRuntimeRestartInner σ.state s allowQueued).result.toOption.toList ++ σ.standing)
    (stack : σ'.stack =
      (beginRuntimeRestartInner σ.state s allowQueued).result.toOption.toList ++ σ.stack) :
    GateInv s σ' := by
  cases result : (beginRuntimeRestartInner σ.state s allowQueued).result with
  | error rejection =>
    rw [result] at standing stack
    apply inv.congr _ standing stack
    rw [state, (beginRuntimeRestartInner_error result).2 s]
  | ok gate =>
    rw [result] at standing stack
    obtain ⟨made, _, controls⟩ := beginRuntimeRestartInner_ok result
    have constraint := congrArg Controls.constraint ((controls s).trans (if_pos rfl))
    rw [← state] at constraint
    have numbered : gate.operationId ≠ 0 := by
      rw [made]
      unfold u64SaturatingSucc
      simp
    have previous := congrArg RuntimeRestartGate.previousConstraint made
    exact inv.push numbered previous constraint standing stack

lemma abortRuntimeRestart_current {slot : SlotState} (known : st.slots[s]? = some slot)
    (current : slot.runtimeConstraint = .starting gate.operationId) :
    (abortRuntimeRestart st s gate).state =
      st.putSlot s { slot with runtimeConstraint := gate.previousConstraint } := by
  simp [abortRuntimeRestart, known, current]

lemma abortRuntimeRestart_other (other : ∀ slot, st.slots[s]? = some slot →
    slot.runtimeConstraint ≠ .starting gate.operationId) :
    (abortRuntimeRestart st s gate).state = st := by
  unfold abortRuntimeRestart
  cases known : st.slots[s]? with
  | none => rfl
  | some slot => simp [other slot known]

lemma GateInv.known (inv : GateInv s σ) (current : σ.current = some gate) :
    ∃ slot, σ.state.slots[s]? = some slot ∧
      slot.runtimeConstraint = .starting gate.operationId := by
  have constraint := inv.top gate current
  cases known : σ.state.slots[s]? with
  | none =>
    have fresh : controlsOf σ.state s = (SlotState.new .teammate).controls := by
      simp [controlsOf, known]
    rw [fresh] at constraint
    have zero : gate.operationId = 0 := (RuntimeConstraint.starting.inj constraint).symm
    exact absurd zero (inv.numbered gate (List.mem_of_mem_head? current))
  | some slot =>
    rw [controlsOf_known known] at constraint
    exact ⟨slot, rfl, constraint⟩

lemma gateStep_abort (inv : GateInv s σ)
    (uncrossed : Uncrossed s σ (.call (.abortRuntimeRestart s gate))) :
    GatesKept c s σ (.call (.abortRuntimeRestart s gate)) ∧
      GateInv s (gateStep c s σ (.call (.abortRuntimeRestart s gate))) := by
  have standing : (gateStep c s σ (.call (.abortRuntimeRestart s gate))).standing =
      σ.standing.filter (· ≠ gate) := if_pos rfl
  by_cases current : σ.current = some gate
  · obtain ⟨slot, known, constraint⟩ := inv.known current
    have state : (abortRuntimeRestart σ.state s gate).state = _ :=
      abortRuntimeRestart_current known constraint
    refine ⟨⟨fun _ _ returned => ?_, fun g step _ => ?_, fun g step other => ?_⟩, ?_⟩
    · cases returned
    · cases step
      exact ⟨slot, known, state⟩
    · cases step
      exact absurd current other
    · apply inv.pop current _ standing (if_pos ⟨rfl, current⟩)
      show (controlsOf (abortRuntimeRestart σ.state s gate).state s).constraint = _
      rw [state, controlsOf_putSlot, if_pos rfl]
      rfl
  · have state : (abortRuntimeRestart σ.state s gate).state = σ.state :=
      abortRuntimeRestart_other fun slot known constraint =>
        current (uncrossed rfl slot known constraint)
    refine ⟨⟨fun _ _ returned => ?_, fun g step other => ?_, fun g step _ => ?_⟩, ?_⟩
    · cases returned
    · cases step
      exact absurd other current
    · cases step
      exact state
    · apply inv.drop state _ (if_neg fun h => current h.2)
      rw [standing]
      exact List.filter_subset_self _

lemma GatesKept.of_blocked (inv : GateInv s σ)
    (no_abort : ∀ gate, step.op s ≠ .abortRuntimeRestart s gate) : GatesKept c s σ step := by
  refine ⟨fun stands batch returned home => ?_, fun gate abort _ => absurd abort (no_abort gate),
    fun gate abort _ => absurd abort (no_abort gate)⟩
  obtain ⟨s', next, _, claims⟩ := claims_of_returned returned
  obtain ⟨slot, known, _, ready, _⟩ := claims.slot
  have slotId : batch.slotId = s' := congrArg WorkBatch.slotId claims.made
  obtain rfl : s' = s := slotId.symm.trans home
  apply inv.blocked stands
  rw [controlsOf_known known]
  exact ready

/-- A step that crosses no gate respects the gates. -/
lemma gateStep_kept (inv : GateInv s σ) (uncrossed : Uncrossed s σ step) :
    GatesKept c s σ step ∧ GateInv s (gateStep c s σ step) := by
  have written (constraint : RuntimeConstraint) :
      (controlsOf (setRuntimeConstraint c σ.state s constraint).state s).constraint = constraint :=
    congrArg Controls.constraint (controlsOf_setRuntimeConstraint.trans (if_pos rfl))
  cases step with
  | restarted =>
    refine ⟨.of_blocked inv fun _ abort => ?_, .clear rfl fun stands => absurd rfl stands⟩
    cases abort
  | call op =>
    by_cases writes : constrains s op = true
    · cases op with
      | setRuntimeConstraint slotId constraint =>
        obtain rfl : slotId = s := of_decide_eq_true writes
        refine ⟨.of_blocked inv fun _ abort => ?_, .clear (if_pos rfl) fun stands => ?_⟩
        · cases abort
        · show (controlsOf (setRuntimeConstraint c σ.state slotId constraint).state slotId).constraint ≠ _
          rw [written]
          exact uncrossed rfl stands
      | beginRuntimeRestart slotId =>
        obtain rfl : slotId = s := of_decide_eq_true writes
        refine ⟨.of_blocked inv fun _ abort => ?_, gateStep_begin false inv rfl ?_ ?_⟩
        · cases abort
        · simp [gateStep, standingAfter, returnedGate, beginRuntimeRestart]
        · simp [gateStep, stackAfter, returnedGate, beginRuntimeRestart]
      | beginMcpRuntimeRestart slotId =>
        obtain rfl : slotId = s := of_decide_eq_true writes
        refine ⟨.of_blocked inv fun _ abort => ?_, gateStep_begin true inv rfl ?_ ?_⟩
        · cases abort
        · simp [gateStep, standingAfter, returnedGate, beginMcpRuntimeRestart]
        · simp [gateStep, stackAfter, returnedGate, beginMcpRuntimeRestart]
      | abortRuntimeRestart slotId gate =>
        obtain rfl : slotId = s := of_decide_eq_true writes
        exact gateStep_abort inv uncrossed
      | stop =>
        refine ⟨.of_blocked inv fun _ abort => ?_, .clear rfl fun stands => ?_⟩
        · cases abort
        · show (controlsOf (stop σ.state).state s).constraint ≠ _
          rw [controlsOf_stop]
          split_ifs
          · simp
          · exact inv.blocked stands
      | _ => cases writes
    · have free : constrains s op = false := eq_false_of_ne_true writes
      refine ⟨.of_blocked inv fun gate abort => ?_, gateStep_quiet inv free⟩
      rw [show (GateStep.call op).op s = op from rfl] at abort
      rw [abort] at writes
      exact writes (decide_eq_true rfl)

lemma GateInv.start : GateInv s .initial :=
  .clear rfl fun stands => absurd rfl stands

/-- In a run of the coordinator that crosses no gate of a slot, every step respects the gates. -/
theorem gates_kept (uncrossed : LTS.EnabledAll (Uncrossed s) (gateStep c s) .initial steps) :
    LTS.EnabledAll (GatesKept c s) (gateStep c s) .initial steps :=
  uncrossed.imp (fun _ _ inv free => gateStep_kept inv free) .start

/-- The lead is restarted while it is idle; a message arrives, and the event loop of the lead publishes the
snapshot that it took before the gate. -/
def staleSnapshot : List GateStep :=
  [.call (.setRuntimeConstraint "lead" .ready),
    .call (.beginRuntimeRestart "lead"),
    .call (.acquireEnqueue
      { slotId := "lead", role := .lead, source := .userMessage, binding := .userVisible }
      { teamRunId := some "run", createdNewRun := true, userIntervention := false }),
    .call (.commitEnqueue userLease (some "m")),
    .call (.setRuntimeConstraint "lead" .ready),
    .call (.next "lead")]

/-- The gate of the restart still stands when the message is claimed. -/
theorem staleSnapshot_claims :
    ((staleSnapshot.take 5).foldl (gateStep strokes "lead") .initial).standing = [⟨1, .ready⟩] ∧
      (returnedBatch strokes ((staleSnapshot.take 5).foldl (gateStep strokes "lead") .initial).state
        (.next "lead")).map (·.mailboxMessageIds) = some ["m"] ∧
      ¬ LTS.EnabledAll (GatesKept strokes "lead") (gateStep strokes "lead") .initial staleSnapshot := by
  refine ⟨by decide, by decide, fun kept => ?_⟩
  have excludes := kept.2.2.2.2.2.1.excludes (by decide)
  exact absurd (excludes { userBatch with operationId := 2 } (by decide)) (by decide)

def givenUp : List GateStep :=
  [.call (.setRuntimeConstraint "lead" .ready),
    .call (.beginRuntimeRestart "lead"),
    .call (.next "lead"),
    .call (.abortRuntimeRestart "lead" ⟨1, .ready⟩)]

theorem gates_kept_givenUp :
    LTS.EnabledAll (GatesKept strokes "lead") (gateStep strokes "lead") .initial givenUp := by
  apply gates_kept
  refine ⟨fun _ stands => absurd rfl stands, trivial, trivial, fun _ _ _ _ => ?_, trivial⟩
  decide

end SlotWorkCoordinator

end KiCore.Team

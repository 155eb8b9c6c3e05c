import KiCore.Team.Coordinator.Controls

/-!
# The MCP refresh hand-off

The MCP refresh of a slot is handed to whoever restarts its runtime: a request is applied already, becomes
pending until somebody claims it, or is left to the caller, who restarts at once. `Handoff` follows who
holds what, next to the state of the coordinator, and `HandedOver` says that the hand-off is sound: one
claim at a time, and the fingerprint that was requested last is not lost. `handedOver_iff` is about all
runs of the coordinator: the hand-off of a slot is sound throughout if and only if every call on it comes
in turn (`InTurn`).
-/

namespace KiCore.Team

open KiCore.Lib

/-- The fingerprint that a call requests for a slot, at once or for later. -/
def Op.requested (s : String) : Op → Option String
  | .requestMcpRefresh s' fingerprint | .deferMcpRefresh s' fingerprint =>
    if s' = s then some fingerprint else none
  | _ => none

def Op.refreshes (s : String) : Op → Bool
  | .requestMcpRefresh s' _ | .deferMcpRefresh s' _ | .claimPendingMcpRefresh s'
  | .completeMcpRefresh s' _ | .releaseMcpRefresh s' _ | .settleMcpRefreshClaim s' _ => s' = s
  | _ => false

/-- The state of the coordinator, with what the callers of the protocol know of one slot: the fingerprint
requested last, the claims that are outstanding, and the fingerprints whose request was answered with
`RestartNow`. -/
structure Handoff where
  state : CoordinatorState
  requested : Option String
  claimed : List String
  restarting : List String

/-- A new coordinator, of which nobody has requested anything. -/
def Handoff.initial : Handoff where
  state := .default
  requested := none
  claimed := []
  restarting := []

namespace SlotWorkCoordinator

/-- The claims on a slot after a call. A claim is outstanding until its fingerprint is completed, released
or settled. -/
def claimedAfter (s : String) (τ : Handoff) : Op → List String
  | .claimPendingMcpRefresh s' =>
    if s' = s then τ.claimed ++ (claimPendingMcpRefresh τ.state s).result.toList else τ.claimed
  | .completeMcpRefresh s' fingerprint | .releaseMcpRefresh s' fingerprint
  | .settleMcpRefreshClaim s' fingerprint =>
    if s' = s then τ.claimed.erase fingerprint else τ.claimed
  | _ => τ.claimed

/-- The restarts of a slot after a call. A restart is under way until its fingerprint is completed, which a
slot that is not known ignores, or deferred. -/
def restartingAfter (s : String) (τ : Handoff) : Op → List String
  | .requestMcpRefresh s' fingerprint =>
    if s' = s ∧ (requestMcpRefresh τ.state s fingerprint).result = .restartNow then
      τ.restarting ++ [fingerprint]
    else τ.restarting
  | .deferMcpRefresh s' fingerprint =>
    if s' = s then τ.restarting.erase fingerprint else τ.restarting
  | .completeMcpRefresh s' fingerprint =>
    if s' = s ∧ (τ.state.slots[s]?).isSome = true then τ.restarting.erase fingerprint
    else τ.restarting
  | _ => τ.restarting

def handOver (c : SlotWorkCoordinator) (s : String) (τ : Handoff) (op : Op) : Handoff where
  state := (exec c τ.state op).1
  requested := (op.requested s).or τ.requested
  claimed := claimedAfter s τ op
  restarting := restartingAfter s τ op

/-- The hand-off of a slot is sound. At most one claim is outstanding; the fingerprint requested last, which
no later request superseded, is not dropped; and it is the one that is applied once nobody has anything
left to do. -/
structure HandedOver (s : String) (τ : Handoff) : Prop where
  single : τ.claimed.length ≤ 1
  kept : ∀ f, τ.requested = some f → (controlsOf τ.state s).applied = some f ∨
    (controlsOf τ.state s).pending = some f ∨ f ∈ τ.restarting
  settled : τ.claimed = [] → τ.restarting = [] → (controlsOf τ.state s).pending = none →
    ∀ f, τ.requested = some f → (controlsOf τ.state s).applied = some f

/-- A call on a slot comes in turn. While a claim is outstanding, a claim is refused: the flag of the first
is still up, nothing is pending, or the slot works. A runtime that reports a fingerprint other than the
one requested last leaves that one pending or restarting. And a claim is not settled while its
fingerprint, requested last, is no more than pending. -/
def InTurn (s : String) (τ : Handoff) : Op → Prop
  | .claimPendingMcpRefresh s' => s' = s → τ.claimed ≠ [] →
    isWorking τ.state s = true ∨ (controlsOf τ.state s).refreshing = true ∨
      (controlsOf τ.state s).pending = none
  | .completeMcpRefresh s' fingerprint => s' = s → ∀ f, τ.requested = some f → f = fingerprint ∨
    (controlsOf τ.state s).pending = some f ∨ f ∈ τ.restarting
  | .settleMcpRefreshClaim s' fingerprint => s' = s → τ.requested = some fingerprint →
    (controlsOf τ.state s).pending = some fingerprint →
    (controlsOf τ.state s).applied = some fingerprint ∨ fingerprint ∈ τ.restarting
  | _ => True

variable {c : SlotWorkCoordinator} {st : CoordinatorState} {τ τ' : Handoff} {op : Op} {ops : List Op}
  {s : String}

lemma HandedOver.of_kept (single : τ.claimed.length ≤ 1)
    (kept : ∀ f, τ.requested = some f → (controlsOf τ.state s).applied = some f ∨
      (controlsOf τ.state s).pending = some f ∨ f ∈ τ.restarting) : HandedOver s τ := by
  refine ⟨single, kept, fun _ noRestart noPending f requested => ?_⟩
  rcases kept f requested with applied | pending | restarting
  · exact applied
  · rw [noPending] at pending
    cases pending
  · rw [noRestart] at restarting
    cases restarting

lemma exec_constraint (quiet : op.refreshes s = false) :
    ∃ constraint, controlsOf (exec c st op).1 s =
      { controlsOf st s with constraint := constraint } := by
  by_cases writes : op.writes s = false
  · exact ⟨_, exec_controls writes⟩
  have restarts (allowQueued : Bool) : ∃ constraint,
      controlsOf (beginRuntimeRestartInner st s allowQueued).state s =
        { controlsOf st s with constraint := constraint } := by
    cases result : (beginRuntimeRestartInner st s allowQueued).result with
    | error rejection => exact ⟨_, (beginRuntimeRestartInner_error result).2 s⟩
    | ok gate => exact ⟨_, ((beginRuntimeRestartInner_ok result).2.2 s).trans (if_pos rfl)⟩
  cases op with
  | setRuntimeConstraint slotId constraint =>
    obtain rfl : slotId = s := by simpa [Op.writes] using writes
    exact ⟨constraint, controlsOf_setRuntimeConstraint.trans (if_pos rfl)⟩
  | beginRuntimeRestart slotId =>
    obtain rfl : slotId = s := by simpa [Op.writes] using writes
    exact restarts false
  | beginMcpRuntimeRestart slotId =>
    obtain rfl : slotId = s := by simpa [Op.writes] using writes
    exact restarts true
  | abortRuntimeRestart slotId gate =>
    have aborted : controlsOf (abortRuntimeRestart st slotId gate).state s = _ :=
      controlsOf_abortRuntimeRestart
    split_ifs at aborted
    · exact ⟨gate.previousConstraint, aborted⟩
    · exact ⟨_, aborted⟩
  | stop =>
    have stopped : controlsOf (stop st).state s = _ := controlsOf_stop
    split_ifs at stopped
    · exact ⟨.sessionStopped, stopped⟩
    · exact ⟨_, stopped⟩
  | requestMcpRefresh slotId fingerprint => exact absurd quiet writes
  | deferMcpRefresh slotId fingerprint => exact absurd quiet writes
  | claimPendingMcpRefresh slotId => exact absurd quiet writes
  | completeMcpRefresh slotId fingerprint => exact absurd quiet writes
  | releaseMcpRefresh slotId fingerprint => exact absurd quiet writes
  | settleMcpRefreshClaim slotId fingerprint => exact absurd quiet writes
  | _ => exact absurd rfl writes

lemma handOver_quiet (sound : HandedOver s τ) (quiet : op.refreshes s = false) :
    HandedOver s (handOver c s τ op) ∧ InTurn s τ op := by
  obtain ⟨constraint, controls⟩ : ∃ constraint, controlsOf (exec c τ.state op).1 s = _ :=
    exec_constraint quiet
  have same : op.requested s = none ∧ claimedAfter s τ op = τ.claimed ∧
      restartingAfter s τ op = τ.restarting ∧ InTurn s τ op := by
    cases op with
    | requestMcpRefresh s' _ | deferMcpRefresh s' _ | claimPendingMcpRefresh s'
    | completeMcpRefresh s' _ | releaseMcpRefresh s' _ | settleMcpRefreshClaim s' _ =>
      have ne : ¬ s' = s := of_decide_eq_false quiet
      simp [Op.requested, claimedAfter, restartingAfter, InTurn, ne]
    | _ => exact ⟨rfl, rfl, rfl, trivial⟩
  obtain ⟨requested, claimed, restarting, inTurn⟩ := same
  refine ⟨.of_kept ?_ ?_, inTurn⟩
  · rw [show (handOver c s τ op).claimed = τ.claimed from claimed]
    exact sound.single
  · intro f hf
    rw [show (handOver c s τ op).requested = τ.requested by simp [handOver, requested]] at hf
    rw [show (handOver c s τ op).restarting = τ.restarting from restarting,
      show controlsOf (handOver c s τ op).state s = _ from controls]
    exact sound.kept f hf

lemma handOver_request (sound : HandedOver s τ) {fingerprint : String} :
    HandedOver s (handOver c s τ (.requestMcpRefresh s fingerprint)) := by
  have result : (requestMcpRefresh τ.state s fingerprint).result = _ := controlsOf_requestMcpRefresh.1
  have controls : controlsOf (requestMcpRefresh τ.state s fingerprint).state s = _ :=
    (controlsOf_requestMcpRefresh.2 s).trans (if_pos rfl)
  refine .of_kept sound.single fun f hf => ?_
  obtain rfl : fingerprint = f := by simpa [handOver, Op.requested] using hf
  show (controlsOf (requestMcpRefresh τ.state s fingerprint).state s).applied = _ ∨
    (controlsOf (requestMcpRefresh τ.state s fingerprint).state s).pending = _ ∨
    fingerprint ∈ restartingAfter s τ (.requestMcpRefresh s fingerprint)
  rw [controls]
  simp only [restartingAfter, result, true_and]
  by_cases same : (controlsOf τ.state s).applied = some fingerprint ∨
      (controlsOf τ.state s).pending = some fingerprint
  · simp only [Controls.request, if_pos same]
    exact same.imp_right Or.inl
  by_cases busy : isBusy τ.state s = true
  · simp [Controls.request, if_neg same, busy]
  · simp [Controls.request, if_neg same, busy]

lemma handOver_defer (sound : HandedOver s τ) {fingerprint : String} :
    HandedOver s (handOver c s τ (.deferMcpRefresh s fingerprint)) := by
  have controls : controlsOf (deferMcpRefresh τ.state s fingerprint).state s = _ :=
    controlsOf_deferMcpRefresh.trans (if_pos rfl)
  refine .of_kept sound.single fun f hf => ?_
  obtain rfl : fingerprint = f := by simpa [handOver, Op.requested] using hf
  show (controlsOf (deferMcpRefresh τ.state s fingerprint).state s).applied = _ ∨
    (controlsOf (deferMcpRefresh τ.state s fingerprint).state s).pending = _ ∨ _
  rw [controls]
  unfold Controls.defer
  split_ifs with applied
  · exact .inr (.inl rfl)
  · exact .inl (not_not.mp applied)

lemma Controls.claim_fields {k : Controls} {working : Bool} :
    (k.claim working).1.applied = k.applied ∧ (k.claim working).1.pending = k.pending := by
  unfold Controls.claim
  split_ifs
  · exact ⟨rfl, rfl⟩
  · cases pending : k.pending with
    | none => exact ⟨rfl, pending⟩
    | some fingerprint => exact ⟨rfl, rfl⟩

lemma Controls.claim_eq_none {k : Controls} {working : Bool} :
    (k.claim working).2 = none ↔ working = true ∨ k.refreshing = true ∨ k.pending = none := by
  unfold Controls.claim
  split_ifs with taken
  · simp only [true_iff]
    exact taken.imp_right Or.inl
  · rw [not_or] at taken
    cases k.pending <;> simp [taken.1, taken.2]

lemma handOver_claim (sound : HandedOver s τ) :
    HandedOver s (handOver c s τ (.claimPendingMcpRefresh s)) ↔
      InTurn s τ (.claimPendingMcpRefresh s) := by
  have result : (claimPendingMcpRefresh τ.state s).result = _ := controlsOf_claimPendingMcpRefresh.1
  have controls : controlsOf (claimPendingMcpRefresh τ.state s).state s = _ :=
    (controlsOf_claimPendingMcpRefresh.2 s).trans (if_pos rfl)
  have claimed : (handOver c s τ (.claimPendingMcpRefresh s)).claimed =
      τ.claimed ++ ((controlsOf τ.state s).claim (isWorking τ.state s)).2.toList := by
    simp [handOver, claimedAfter, result]
  have kept : ∀ f, (handOver c s τ (.claimPendingMcpRefresh s)).requested = some f →
      (controlsOf (claimPendingMcpRefresh τ.state s).state s).applied = some f ∨
        (controlsOf (claimPendingMcpRefresh τ.state s).state s).pending = some f ∨
        f ∈ τ.restarting := by
    rw [controls, Controls.claim_fields.1, Controls.claim_fields.2]
    exact sound.kept
  refine ⟨fun after _ held => ?_, fun inTurn => .of_kept ?_ kept⟩
  · apply Controls.claim_eq_none.mp
    have single := after.single
    rw [claimed, List.length_append] at single
    have := List.length_pos_iff.mpr held
    cases granted : ((controlsOf τ.state s).claim (isWorking τ.state s)).2 with
    | none => rfl
    | some f =>
      rw [granted] at single
      simp only [Option.toList_some, List.length_singleton] at single
      omega
  · rw [claimed]
    by_cases held : τ.claimed = []
    · rw [held]
      cases ((controlsOf τ.state s).claim (isWorking τ.state s)).2 <;> simp
    · rw [Controls.claim_eq_none.mpr (inTurn rfl held), Option.toList_none, List.append_nil]
      exact sound.single

lemma erase_single {fingerprint : String} (single : τ.claimed.length ≤ 1) :
    (τ.claimed.erase fingerprint).length ≤ 1 :=
  List.length_erase_le.trans single

section

variable (sound : HandedOver s τ)
include sound

/-- A completion is sound if it leaves the fingerprint requested last where it is. -/
lemma handOver_complete {fingerprint : String} :
    HandedOver s (handOver c s τ (.completeMcpRefresh s fingerprint)) ↔
      InTurn s τ (.completeMcpRefresh s fingerprint) := by
  have claimed : (handOver c s τ (.completeMcpRefresh s fingerprint)).claimed =
      τ.claimed.erase fingerprint := if_pos rfl
  have single : (handOver c s τ (.completeMcpRefresh s fingerprint)).claimed.length ≤ 1 := by
    rw [claimed]
    exact erase_single sound.single
  by_cases known : (τ.state.slots[s]?).isSome = true
  · have controls : controlsOf (handOver c s τ (.completeMcpRefresh s fingerprint)).state s =
        (controlsOf τ.state s).complete fingerprint :=
      (controlsOf_completeMcpRefresh known).trans (if_pos rfl)
    have restarting : (handOver c s τ (.completeMcpRefresh s fingerprint)).restarting =
        τ.restarting.erase fingerprint := if_pos ⟨rfl, known⟩
    have stays {f : String} (ne : f ≠ fingerprint) :
        ((controlsOf τ.state s).complete fingerprint).pending = some f ↔
          (controlsOf τ.state s).pending = some f := by
      unfold Controls.complete
      dsimp only
      split_ifs with same
      · rw [same]
        simpa using ne.symm
      · exact Iff.rfl
    refine ⟨fun after _ f hf => ?_, fun inTurn => .of_kept single fun f hf => ?_⟩
    · by_cases ne : f = fingerprint
      · exact .inl ne
      have kept := after.kept f hf
      rw [controls, restarting, stays ne, List.mem_erase_of_ne ne] at kept
      rcases kept with applied | kept
      · exact .inl (Option.some.inj applied).symm
      · exact .inr kept
    · rw [controls, restarting]
      by_cases ne : f = fingerprint
      · exact .inl (congrArg some ne.symm)
      rw [stays ne, List.mem_erase_of_ne ne]
      exact .inr ((inTurn rfl f hf).resolve_left ne)
  · -- the coordinator ignores the completion, and only a restart can keep what was requested
    have unknown : τ.state.slots[s]? = none := Option.not_isSome_iff_eq_none.mp known
    have controls : controlsOf (handOver c s τ (.completeMcpRefresh s fingerprint)).state s =
        controlsOf τ.state s := controlsOf_modifySlot_unknown unknown
    have restarting : (handOver c s τ (.completeMcpRefresh s fingerprint)).restarting =
        τ.restarting := if_neg fun h => known h.2
    have fresh : controlsOf τ.state s = (SlotState.new .teammate).controls := by
      simp [controlsOf, unknown]
    refine ⟨fun _ _ f hf => ?_, fun _ => .of_kept single fun f hf => ?_⟩
    · have kept := sound.kept f hf
      rw [fresh] at kept ⊢
      rcases kept with applied | kept
      · cases applied
      · exact .inr kept
    · rw [controls, restarting]
      exact sound.kept f hf

lemma handOver_release {fingerprint : String} :
    HandedOver s (handOver c s τ (.releaseMcpRefresh s fingerprint)) := by
  have claimed : (handOver c s τ (.releaseMcpRefresh s fingerprint)).claimed =
      τ.claimed.erase fingerprint := if_pos rfl
  have fields : (controlsOf (releaseMcpRefresh τ.state s fingerprint).state s).applied =
        (controlsOf τ.state s).applied ∧
      (controlsOf (releaseMcpRefresh τ.state s fingerprint).state s).pending =
        (controlsOf τ.state s).pending := by
    by_cases known : (τ.state.slots[s]?).isSome = true
    · rw [controlsOf_releaseMcpRefresh known, if_pos rfl]
      unfold Controls.release
      split_ifs <;> exact ⟨rfl, rfl⟩
    · rw [show controlsOf (releaseMcpRefresh τ.state s fingerprint).state s = controlsOf τ.state s from
        controlsOf_modifySlot_unknown (Option.not_isSome_iff_eq_none.mp known)]
      exact ⟨rfl, rfl⟩
  apply HandedOver.of_kept
  · rw [claimed]
    exact erase_single sound.single
  · show ∀ f, τ.requested = some f →
      (controlsOf (releaseMcpRefresh τ.state s fingerprint).state s).applied = some f ∨
        (controlsOf (releaseMcpRefresh τ.state s fingerprint).state s).pending = some f ∨
        f ∈ τ.restarting
    rw [fields.1, fields.2]
    exact sound.kept

/-- Settling a claim is sound unless it drops the fingerprint requested last. -/
lemma handOver_settle {fingerprint : String} :
    HandedOver s (handOver c s τ (.settleMcpRefreshClaim s fingerprint)) ↔
      InTurn s τ (.settleMcpRefreshClaim s fingerprint) := by
  have claimed : (handOver c s τ (.settleMcpRefreshClaim s fingerprint)).claimed =
      τ.claimed.erase fingerprint := if_pos rfl
  have single : (handOver c s τ (.settleMcpRefreshClaim s fingerprint)).claimed.length ≤ 1 := by
    rw [claimed]
    exact erase_single sound.single
  have controls : controlsOf (settleMcpRefreshClaim τ.state s fingerprint).state s =
      (controlsOf τ.state s).settle fingerprint := by
    by_cases known : (τ.state.slots[s]?).isSome = true
    · rw [controlsOf_settleMcpRefreshClaim known, if_pos rfl]
    · have unknown : τ.state.slots[s]? = none := Option.not_isSome_iff_eq_none.mp known
      have fresh : controlsOf τ.state s = (SlotState.new .teammate).controls := by
        simp [controlsOf, unknown]
      rw [show controlsOf (settleMcpRefreshClaim τ.state s fingerprint).state s = controlsOf τ.state s
        from controlsOf_modifySlot_unknown unknown, fresh]
      rfl
  have kept_iff (f : String) : ((controlsOf τ.state s).settle fingerprint).applied = some f ∨
        ((controlsOf τ.state s).settle fingerprint).pending = some f ∨ f ∈ τ.restarting ↔
      (controlsOf τ.state s).applied = some f ∨
        ((controlsOf τ.state s).pending = some f ∧ f ≠ fingerprint) ∨ f ∈ τ.restarting := by
    unfold Controls.settle
    split_ifs with drops
    · simp [drops, eq_comm]
    · have other : (controlsOf τ.state s).pending = some f → f ≠ fingerprint := by
        intro pending same
        exact drops (same ▸ pending)
      simp only [and_iff_left_of_imp other]
  constructor
  · intro after _ requested pending
    have kept := after.kept fingerprint requested
    rw [show controlsOf (handOver c s τ (.settleMcpRefreshClaim s fingerprint)).state s = _ from controls,
      show (handOver c s τ (.settleMcpRefreshClaim s fingerprint)).restarting = τ.restarting from rfl,
      kept_iff] at kept
    rcases kept with applied | dropped | restarting
    · exact .inl applied
    · exact absurd rfl dropped.2
    · exact .inr restarting
  · intro inTurn
    apply HandedOver.of_kept single
    intro f hf
    rw [show controlsOf (handOver c s τ (.settleMcpRefreshClaim s fingerprint)).state s = _ from controls,
      show (handOver c s τ (.settleMcpRefreshClaim s fingerprint)).restarting = τ.restarting from rfl,
      kept_iff]
    rcases sound.kept f hf with applied | pending | restarting
    · exact .inl applied
    · by_cases ne : f = fingerprint
      · subst ne
        exact (inTurn rfl hf pending).imp_right Or.inr
      · exact .inr (.inl ⟨pending, ne⟩)
    · exact .inr (.inr restarting)

lemma handOver_iff : HandedOver s (handOver c s τ op) ↔ InTurn s τ op := by
  by_cases refreshes : op.refreshes s = true
  · cases op with
    | requestMcpRefresh slotId fingerprint =>
      obtain rfl : slotId = s := of_decide_eq_true refreshes
      exact iff_of_true (handOver_request sound) trivial
    | deferMcpRefresh slotId fingerprint =>
      obtain rfl : slotId = s := of_decide_eq_true refreshes
      exact iff_of_true (handOver_defer sound) trivial
    | claimPendingMcpRefresh slotId =>
      obtain rfl : slotId = s := of_decide_eq_true refreshes
      exact handOver_claim sound
    | completeMcpRefresh slotId fingerprint =>
      obtain rfl : slotId = s := of_decide_eq_true refreshes
      exact handOver_complete sound
    | releaseMcpRefresh slotId fingerprint =>
      obtain rfl : slotId = s := of_decide_eq_true refreshes
      exact iff_of_true (handOver_release sound) trivial
    | settleMcpRefreshClaim slotId fingerprint =>
      obtain rfl : slotId = s := of_decide_eq_true refreshes
      exact handOver_settle sound
    | _ => cases refreshes
  · have both := handOver_quiet (c := c) sound (eq_false_of_ne_true refreshes)
    exact iff_of_true both.1 both.2

end

lemma HandedOver.start : HandedOver s .initial :=
  .of_kept (Nat.zero_le _) fun _ requested => by cases requested

/-- In every run of the coordinator, the hand-off of a slot is sound after every step if and only if every
call on the slot comes in turn. -/
theorem handedOver_iff :
    LTS.EnabledAll (fun τ op => HandedOver s (handOver c s τ op)) (handOver c s) .initial ops ↔
      LTS.EnabledAll (InTurn s) (handOver c s) .initial ops := by
  apply LTS.enabledAll_iff (Q := HandedOver s) _ .start
  intro τ op sound
  exact ⟨handOver_iff sound, (handOver_iff sound).mpr⟩

/-- While the first of two fingerprints is being refreshed, the second is requested and claimed. -/
def overtakenRefresh : List Op :=
  [.requestMcpRefresh "lead" "a", .claimPendingMcpRefresh "lead", .requestMcpRefresh "lead" "b",
    .claimPendingMcpRefresh "lead"]

/-- Two claims are outstanding: the second request has taken the flag of the first claim down. -/
theorem overtakenRefresh_claimed :
    (overtakenRefresh.foldl (handOver strokes "lead") .initial).claimed = ["a", "b"] ∧
      ¬ LTS.EnabledAll (fun τ op => HandedOver "lead" (handOver strokes "lead" τ op))
        (handOver strokes "lead") .initial overtakenRefresh := by
  refine ⟨by decide, fun sound => ?_⟩
  have single := sound.2.2.2.1.single
  exact absurd single (by decide)

end SlotWorkCoordinator

end KiCore.Team

import KiCore.Conversation.TurnOrchestrator
import KiCore.Lib.Pool
import KiCore.Lib.Transition

/-!
# Cancels and restarts of a turn

`cancel` and `restart_runtime`, side by side with the orchestrator of the turn that they are for. A
cancel that finds no agent leaves its intent to the orchestrator, which asks for it once in an
attempt, before the prompt; a cancel that finds an agent marks the conversation as cancelling, which
the orchestrator reads before a relay, for the decision after it, and after an attempt. So a cancel
that marks before the prompt, or while a relay is to be continued, comes too late; and a restart
takes both marks away. `Heeded` says when none of this happens.
-/

namespace KiCore.Conversation

open KiCore.Lib

inductive CancelKind where
  | cancel
  | restart
  deriving DecidableEq

inductive CancelCallStage where
  | checkTurn
  | lookupTask
  | markCancelling
  | agentCancel
  | deferCancel
  | cancelled
  | clearState
  | endRestart
  | done
  deriving DecidableEq

structure CancelCall where
  kind : CancelKind
  stage : CancelCallStage

/-- The runtime state of the conversation, the orchestrator of the turn and the calls.
`acknowledged` says that a cancel of the turn has returned or a restart has cleared its state, and
`late` counts the prompts that were sent since. -/
structure TurnCancels where
  conversationId : String
  state : ConversationRuntimeState
  turn : TurnOrchestrator
  calls : List CancelCall
  acknowledged : Bool
  late : Nat

namespace TurnCancels

/-- `ok` tells whether a lookup finds a task, and whether the agent takes the cancel. -/
inductive Event where
  | orchestrate (input : OrchestratorInput)
  | cancel
  | restart
  | call (k : Nat) (ok : Bool)

def start (conversationId : String) (state : ConversationRuntimeState) (turn : TurnOrchestrator) :
    TurnCancels where
  conversationId := conversationId
  state := { state with activeTurn := some turn.turnId }
  turn := turn
  calls := []
  acknowledged := false
  late := 0

variable (turn : TurnOrchestrator)

def sendsPrompt (input : OrchestratorInput) : Bool :=
  match turn.stage, input with
  | .sendPrompt _, .proceed => true
  | _, _ => false

variable (s : TurnCancels)

def orchestrate (input : OrchestratorInput) : TurnCancels :=
  { s with
    state := s.turn.runtimeAfter s.state input
    turn := s.turn.next s.state input
    late := if s.acknowledged && sendsPrompt s.turn input then s.late + 1 else s.late }

def restart (s : TurnCancels) : TurnCancels :=
  match s.state.beginRestart s.conversationId with
  | .ok state => { s with
      state
      calls := s.calls ++ [{ kind := .restart, stage := .checkTurn }] }
  | .error _ => s

def move (k : Nat) (call : CancelCall) (stage : CancelCallStage) : TurnCancels :=
  { s with calls := s.calls.set k { call with stage } }

/-- What a call does after its cancel, or instead of it: a restart clears the state, after it has
killed the task. -/
def afterCancel : CancelKind → CancelCallStage
  | .cancel => .done
  | .restart => .clearState

def advance (k : Nat) (call : CancelCall) (ok : Bool) : TurnCancels :=
  match call.stage with
  | .checkTurn =>
    s.move k call
      -- A turn that is not active needs no cancel.
      (if s.state.activeTurn = some s.turn.turnId then .lookupTask else afterCancel call.kind)
  | .lookupTask => s.move k call (if ok then .markCancelling else .deferCancel)
  | .markCancelling => { s with state := s.state.markCancelling }.move k call .agentCancel
  | .agentCancel =>
    if ok then s.move k call .cancelled
    else { s with state := s.state.clearCancelling }.move k call
      (if call.kind = CancelKind.restart then .endRestart else .done)
  | .deferCancel => { s with state := s.state.deferCancel s.turn.turnId }.move k call .cancelled
  | .cancelled =>
    { s with acknowledged := s.acknowledged || call.kind = CancelKind.cancel }.move k call
      (afterCancel call.kind)
  | .clearState =>
    { s with
      state := s.state.clearTurnStateForRestart
      acknowledged := s.acknowledged || s.state.activeTurn = some s.turn.turnId }.move k call
        .endRestart
  | .endRestart => { s with state := s.state.clearRestarting }.move k call .done
  | .done => s

def next : Event → TurnCancels
  | .orchestrate input => s.orchestrate input
  | .cancel => { s with calls := s.calls ++ [{ kind := .cancel, stage := .checkTurn }] }
  | .restart => s.restart
  | .call k ok => (s.calls[k]?).elim s (s.advance k · ok)

/-- No prompt was sent for the turn since it was cancelled or restarted. -/
def Final : Prop :=
  s.late = 0

instance : Decidable s.Final :=
  inferInstanceAs (Decidable (_ = _))

def continues (lifecycle : RuntimeLifecycleState) (outcome : RelayOutcome) : Bool :=
  match decideContinuation turn.continuationCount outcome lifecycle with
  | .continue _ _ => true
  | .stop _ => false

/-- The orchestrator sends no prompt before it asks for a deferred cancel again, of which there is
one (`pending`) if it is yet to ask in this attempt. -/
def Silenced (pending : Bool) : Prop :=
  match turn.stage with
  | .build | .persistWorkspace | .takeDeferredCancel | .evictTask => pending = true
  | .readLifecycle | .applyMode _ | .sendPrompt _ => False
  | .decideContinuation lifecycle outcome => continues turn lifecycle outcome = false
  | .relaying _ | .decideRecovery _ | .persistTip _ | .releaseClaim _ | .finished _ => True

def pending : Bool :=
  s.state.deferredCancel = some s.turn.turnId

/-- A relay that ends after the acknowledgement brings nothing to continue, and an attempt that ends
after it is not to be replayed unless a deferred cancel waits. -/
def HeededInput : OrchestratorStage → OrchestratorInput → Prop
  | .relaying lifecycle, .relayed closing events =>
    s.acknowledged = true → Silenced (s.turn.relayed lifecycle closing events) s.pending
  | .decideRecovery outcome, .proceed => s.acknowledged = true →
    autoReplays s.turn.agentType outcome.terminal s.turn.summary s.state.lifecycle s.turn.replayed =
      true → s.pending = true
  | _, _ => True

/-- A cancel returns, and a restart clears the state, while the orchestrator is silenced. -/
def Heeded : Event → Prop
  | .orchestrate input => s.HeededInput s.turn.stage input
  | .cancel | .restart => True
  | .call k _ => ∀ call ∈ s.calls[k]?,
    (call.kind = .cancel ∧ call.stage = .cancelled → Silenced s.turn s.pending) ∧
    (call.stage = .clearState →
      s.acknowledged = true ∨ s.state.activeTurn = some s.turn.turnId → Silenced s.turn false)

instance decidableSilenced (pending : Bool) : Decidable (Silenced turn pending) :=
  match stage : turn.stage with
  | .build | .persistWorkspace | .takeDeferredCancel | .evictTask =>
    decidable_of_iff (pending = true) (by rw [Silenced, stage])
  | .readLifecycle | .applyMode _ | .sendPrompt _ => .isFalse (by simp [Silenced, stage])
  | .decideContinuation lifecycle outcome =>
    decidable_of_iff (continues turn lifecycle outcome = false) (by rw [Silenced, stage])
  | .relaying _ | .decideRecovery _ | .persistTip _ | .releaseClaim _ | .finished _ =>
    .isTrue (by simp [Silenced, stage])

instance decidableHeededInput : (stage : OrchestratorStage) →
    (input : OrchestratorInput) → Decidable (s.HeededInput stage input)
  | .relaying _, .relayed _ _ => inferInstanceAs (Decidable (_ → Silenced _ _))
  | .decideRecovery _, .proceed => inferInstanceAs (Decidable (_ → _ → _))
  | .relaying _, .proceed | .relaying _, .fail _ | .decideRecovery _, .fail _
  | .decideRecovery _, .relayed _ _ => .isTrue trivial
  | .build, _ | .persistWorkspace, _ | .takeDeferredCancel, _ | .readLifecycle, _ | .applyMode _, _
  | .sendPrompt _, _ | .decideContinuation _ _, _ | .persistTip _, _ | .evictTask, _
  | .releaseClaim _, _ | .finished _, _ => .isTrue trivial

instance decidableHeeded : (event : Event) → Decidable (s.Heeded event)
  | .orchestrate input => decidableHeededInput s _ input
  | .cancel | .restart => .isTrue trivial
  | .call k _ => inferInstanceAs (Decidable (∀ call ∈ s.calls[k]?, (_ → Silenced _ _) ∧
    (_ → _ ∨ _ → Silenced _ _)))

/-- What carries `Final` from step to step. -/
structure Tracked (s : TurnCancels) : Prop where
  final : s.late = 0
  silenced : s.acknowledged = true → Silenced s.turn s.pending

variable {s : TurnCancels} {k : Nat} {ok : Bool} {call : CancelCall} {input : OrchestratorInput}
  {event : Event} {turn : TurnOrchestrator}

lemma Silenced.mono {p q : Bool} (h : Silenced turn p) (le : p = true → q = true) :
    Silenced turn q := by
  unfold Silenced at h ⊢
  split at h
  all_goals first | exact le h | exact h

lemma next_turnId {state : ConversationRuntimeState} :
    (turn.next state input).turnId = turn.turnId := by
  unfold TurnOrchestrator.next
  split
  case h_11 lifecycle outcome =>
    rw [TurnOrchestrator.continued]
    split <;> rfl
  case h_12 outcome =>
    rw [TurnOrchestrator.recovered]
    split_ifs
    · rfl
    · rfl
    · split <;> rfl
    · rfl
  all_goals rfl

lemma orchestrate_pending (other : s.turn.stage = .takeDeferredCancel → input ≠ .proceed) :
    (s.orchestrate input).pending = s.pending := by
  have kept : (s.orchestrate input).state.deferredCancel = s.state.deferredCancel := by
    change (s.turn.runtimeAfter s.state input).deferredCancel = _
    unfold TurnOrchestrator.runtimeAfter
    split
    · rename_i stage
      exact absurd rfl (other stage)
    · rw [ConversationRuntimeState.release]
      split <;> rfl
    · rfl
  rw [pending, pending, kept, orchestrate, next_turnId]

lemma Silenced.quiet {p : Bool} (h : Silenced turn p) : sendsPrompt turn input = false := by
  unfold sendsPrompt
  split
  · rename_i stage
    rw [Silenced, stage] at h
    cases h
  · rfl

lemma continued_stop {lifecycle : RuntimeLifecycleState} {outcome : RelayOutcome}
    (h : continues turn lifecycle outcome = false) :
    turn.continued lifecycle outcome = { turn with stage := .decideRecovery outcome } := by
  cases decision : Conversation.decideContinuation turn.continuationCount outcome lifecycle with
  | «continue» content nextCount =>
    rw [continues, decision] at h
    cases h
  | stop reason => rw [TurnOrchestrator.continued, decision]

lemma Silenced.recovered {lifecycle : RuntimeLifecycleState} {outcome : RelayOutcome} {p : Bool}
    (heeded : autoReplays turn.agentType outcome.terminal turn.summary lifecycle turn.replayed = true →
      p = true) : Silenced (turn.recovered lifecycle outcome) p := by
  rw [TurnOrchestrator.recovered]
  split_ifs with ended replayed deferred
  · trivial
  · exact heeded replayed
  · split <;> trivial
  · trivial

lemma Silenced.next (h : Silenced s.turn s.pending) (acknowledged : s.acknowledged = true)
    (heeded : s.HeededInput s.turn.stage input) :
    Silenced (s.orchestrate input).turn (s.orchestrate input).pending := by
  by_cases taking : s.turn.stage = .takeDeferredCancel ∧ input = .proceed
  · -- The deferred cancel is there, so the turn is released.
    obtain ⟨stage, rfl⟩ := taking
    rw [Silenced, stage] at h
    have own : s.state.deferredCancel = some s.turn.turnId := of_decide_eq_true h
    have next : s.turn.next s.state .proceed = { s.turn with stage := .releaseClaim false } := by
      simp [TurnOrchestrator.next, stage, ConversationRuntimeState.takeDeferredCancel, own]
    rw [orchestrate, next]
    trivial
  · rw [orchestrate_pending fun stage input => taking ⟨stage, input⟩]
    change Silenced (s.turn.next s.state input) _
    unfold TurnOrchestrator.next
    split
    case h_5 stage => exact absurd ⟨stage, rfl⟩ taking
    -- From here on the prompt would be sent.
    case h_6 stage | h_7 stage | h_8 stage | h_9 stage =>
      rw [Silenced, stage] at h
      cases h
    -- A relay ends: what it brings is not to be continued.
    case h_10 lifecycle closing events stage =>
      simp only [HeededInput, stage] at heeded
      exact heeded acknowledged
    case h_11 lifecycle outcome stage =>
      rw [Silenced, stage] at h
      rw [continued_stop h]
      trivial
    case h_12 outcome stage =>
      simp only [HeededInput, stage] at heeded
      exact recovered (heeded acknowledged)
    -- The deferred cancel still waits.
    case h_1 stage | h_3 stage | h_14 stage =>
      rw [Silenced, stage] at h
      exact h
    case h_16 => exact h
    all_goals trivial

section

variable (h : s.Tracked)
include h

lemma Tracked.orchestrate (heeded : s.HeededInput s.turn.stage input) :
    (s.orchestrate input).Tracked where
  final := by
    change (if _ then _ else _) = 0
    split_ifs with late
    · obtain ⟨acknowledged, sends⟩ := (Bool.and_eq_true _ _).mp late
      rw [(h.silenced acknowledged).quiet] at sends
      cases sends
    · exact h.final
  silenced acknowledged := (h.silenced acknowledged).next acknowledged heeded

lemma Tracked.unacknowledged (state : ConversationRuntimeState) (calls : List CancelCall)
    (kept : s.state.deferredCancel = some s.turn.turnId →
      state.deferredCancel = some s.turn.turnId) :
    { s with state, calls }.Tracked where
  final := h.final
  silenced acknowledged := (h.silenced acknowledged).mono fun own =>
    decide_eq_true (kept (of_decide_eq_true own))

lemma Tracked.restart : s.restart.Tracked := by
  rw [TurnCancels.restart]
  split
  · rename_i state begun
    obtain ⟨_, rfl⟩ := ConversationRuntimeState.beginRestart_ok begun
    exact h.unacknowledged _ _ id
  · exact h

lemma Tracked.advance (mem : s.calls[k]? = some call)
    (heeded : s.Heeded (.call k ok)) : (s.advance k call ok).Tracked := by
  obtain ⟨returns, clears⟩ := heeded call mem
  rw [TurnCancels.advance]
  cases own : call.stage with
  | checkTurn | lookupTask | markCancelling | endRestart => exact h.unacknowledged _ _ id
  | agentCancel =>
    dsimp only
    split
    · exact h.unacknowledged _ _ id
    · exact h.unacknowledged _ _ id
  | deferCancel => exact h.unacknowledged _ _ fun _ => rfl
  -- The cancel returns now, or an earlier one has.
  | cancelled =>
    refine ⟨h.final, fun acknowledged => ?_⟩
    obtain before | now := (Bool.or_eq_true _ _).mp acknowledged
    · exact h.silenced before
    · exact returns ⟨of_decide_eq_true now, own⟩
  -- The deferred cancel is erased too, so nothing may depend on it.
  | clearState =>
    refine ⟨h.final, fun acknowledged => ?_⟩
    apply (clears own ?_).mono nofun
    exact ((Bool.or_eq_true _ _).mp acknowledged).imp_right of_decide_eq_true
  | done => exact h

lemma Tracked.next (heeded : s.Heeded event) : (s.next event).Tracked := by
  cases event with
  | orchestrate input => exact h.orchestrate heeded
  | cancel => exact h.unacknowledged _ _ id
  | restart => exact h.restart
  | call k ok =>
    rw [TurnCancels.next]
    cases mem : s.calls[k]? with
    | none => exact h
    | some call => exact h.advance mem heeded

end

lemma Tracked.start (conversationId : String) (state : ConversationRuntimeState)
    (turn : TurnOrchestrator) : (start conversationId state turn).Tracked where
  final := rfl
  silenced := nofun

/-- In every run whose cancels and restarts are heeded, no prompt is sent after them. -/
theorem cancel_final (conversationId : String) (state : ConversationRuntimeState)
    (turn : TurnOrchestrator) (events : List Event)
    (heeded : LTS.EnabledAll Heeded next (start conversationId state turn) events) :
    LTS.Throughout next Final (start conversationId state turn) events := by
  apply LTS.throughout_iff.mpr
  refine ⟨rfl, ?_⟩
  refine heeded.imp (Q := Tracked) (fun s event h holds => ?_) (.start conversationId state turn)
  exact ⟨(h.next holds).final, h.next holds⟩

/-- A cancel that comes while the prompt is relayed. -/
theorem cancel_final_relaying :
    let relay : StreamRelay :=
      { process := fun text => { message := text, systemResponses := [] }, trim := id
        deferCleanTerminalErrors := false }
    LTS.Throughout next Final (start "c" .default (.start 0 .acp relay))
      [.orchestrate .proceed, .orchestrate .proceed, .orchestrate .proceed, .orchestrate .proceed,
        .orchestrate .proceed, .orchestrate .proceed, .cancel, .call 0 true, .call 0 true,
        .call 0 true, .call 0 true, .call 0 true,
        .orchestrate (.relayed .default [(.default, .text "a"), (.default, .finish)]),
        .orchestrate .proceed, .orchestrate .proceed, .orchestrate .proceed] := by
  intro relay
  exact cancel_final _ _ _ _ (by decide)

/-- The agent is registered, so the cancel only marks the conversation; the prompt is sent all the
same. -/
theorem prompt_after_cancel :
    let relay : StreamRelay :=
      { process := fun text => { message := text, systemResponses := [] }, trim := id
        deferCleanTerminalErrors := false }
    ¬ LTS.Throughout next Final (start "c" .default (.start 0 .acp relay))
      [.orchestrate .proceed, .cancel, .call 0 true, .call 0 true, .call 0 true, .call 0 true,
        .call 0 true, .orchestrate .proceed, .orchestrate .proceed, .orchestrate .proceed,
        .orchestrate .proceed, .orchestrate .proceed] := by
  intro relay h
  exact absurd h.last (by decide)

end TurnCancels

end KiCore.Conversation

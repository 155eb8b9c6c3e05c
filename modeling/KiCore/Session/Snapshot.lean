import KiCore.Session.Orchestrator

/-!
# Snapshots are truthful

A snapshot is published on an edge only: when the reducer emits a transition, or when the activity
changes. The gates of a state are functions of its external phase, and a step without a transition
keeps that (`externalPhase_of_step`), so a snapshot that is not published anew has not aged.
-/

namespace KiCore.Session

open KiCore.Lib

variable {b : Bool} {o : OrchestratorState} {env : SessionEnvelope} {s : String}
  {state state' : SessionState}

/-- What consumers are gated on is what the state and the roster of the session say. -/
structure Truthful (b : Bool) (o : OrchestratorState) (s : String) : Prop where
  canSend : (o.snapshot s).canSend = canSendMessage (o.session s)
  canQueue : (o.snapshot s).canQueue = canQueueMessage (o.session s) b
  canCancel : (o.snapshot s).canCancel = canCancel (o.session s)
  hasActivity : (o.snapshot s).hasActivity =
    (hasForegroundActivity (o.session s) || backgroundActive (o.roster s))

lemma canSendMessage_iff : canSendMessage state = true ↔ externalPhase state = .idle := by
  cases state with
  | running turn =>
    simp only [canSendMessage, externalPhase]
    split <;> simp
  | _ => simp [canSendMessage, externalPhase]

lemma canQueueMessage_iff :
    canQueueMessage state b = true ↔ b = true ∧ externalPhase state = .running := by
  cases state with
  | running turn => simp [canQueueMessage, externalPhase]
  | _ => simp [canQueueMessage, externalPhase]

lemma canCancel_iff :
    canCancel state = true ↔ externalPhase state ≠ .idle ∧ externalPhase state ≠ .error := by
  cases state with
  | running turn =>
    simp only [canCancel, externalPhase]
    split <;> simp
  | _ => simp [canCancel, externalPhase]

lemma externalPhase_prune : externalPhase (pruneTerminalSubagents state) = externalPhase state := by
  cases state <;> rfl

lemma gates_congr (h : externalPhase state' = externalPhase state) :
    canSendMessage state' = canSendMessage state ∧
      canQueueMessage state' b = canQueueMessage state b ∧ canCancel state' = canCancel state := by
  refine ⟨?_, ?_, ?_⟩ <;> rw [Bool.eq_iff_iff]
  · rw [canSendMessage_iff, canSendMessage_iff, h]
  · rw [canQueueMessage_iff, canQueueMessage_iff, h]
  · rw [canCancel_iff, canCancel_iff, h]

lemma gates_of_quiet (h : foldTransitions o env = []) :
    canSendMessage (foldState o env) = canSendMessage (o.session env.sessionId) ∧
      canQueueMessage (foldState o env) b = canQueueMessage (o.session env.sessionId) b ∧
      canCancel (foldState o env) = canCancel (o.session env.sessionId) := by
  apply gates_congr
  rw [foldState, externalPhase_prune]
  exact externalPhase_of_step h

lemma snapshot_foldOne_self (b : Bool) (o : OrchestratorState) (env : SessionEnvelope) :
    (foldOne b o env).snapshot env.sessionId =
      if Publishes o env then
        makeSnapshot b (restampEpoch env) (foldState o env) (foldActivity o env)
          (deriveReason (foldTransitions o env).getLast? (restampEpoch env).event)
      else o.snapshot env.sessionId := by
  rw [OrchestratorState.snapshot, latest_foldOne]
  split
  · rw [Table.get_insert, if_pos rfl]
    rfl
  · rfl

lemma snapshot_foldOne_ne (h : env.sessionId ≠ s) :
    (foldOne b o env).snapshot s = o.snapshot s := by
  rw [OrchestratorState.snapshot, latest_foldOne]
  split
  · rw [Table.get_insert, if_neg h]
    rfl
  · rfl

lemma Truthful.foldOne_self (before : Truthful b o env.sessionId) :
    Truthful b (foldOne b o env) env.sessionId := by
  have session : (foldOne b o env).session env.sessionId = foldState o env := by
    rw [session_foldOne, if_pos rfl]
  have cached := snapshot_foldOne_self b o env
  by_cases published : Publishes o env
  · rw [if_pos published] at cached
    refine ⟨?_, ?_, ?_, ?_⟩ <;> rw [cached]
    · rw [session]; rfl
    · rw [session]; rfl
    · rw [session]; rfl
    · exact activity_foldOne.symm
  · rw [if_neg published] at cached
    obtain ⟨quiet, activity⟩ := not_or.mp published
    obtain ⟨send, queue, cancel⟩ := gates_of_quiet (b := b) (not_not.mp quiet)
    refine ⟨?_, ?_, ?_, ?_⟩ <;> rw [cached]
    · rw [session, send, before.canSend]
    · rw [session, queue, before.canQueue]
    · rw [session, cancel, before.canCancel]
    · rw [before.hasActivity]
      exact (not_not.mp activity).trans activity_foldOne.symm

lemma Truthful.foldOne (before : Truthful b o s) : Truthful b (foldOne b o env) s := by
  by_cases h : env.sessionId = s
  · subst h
    exact before.foldOne_self
  · have cached := snapshot_foldOne_ne (b := b) (o := o) h
    refine ⟨?_, ?_, ?_, ?_⟩ <;> rw [cached, session_foldOne, if_neg h]
    · exact before.canSend
    · exact before.canQueue
    · exact before.canCancel
    · rw [roster_foldOne, if_neg h]
      exact before.hasActivity

lemma Truthful.new : Truthful b .new s := by
  constructor
  · rfl
  · cases b <;> rfl
  · rfl
  · rfl

/-- After every sequence of envelopes of any sessions, the gates and the activity that a session's
consumers are shown equal those recomputed from its state and its roster. -/
theorem snapshots_truthful (b : Bool) (envs : List SessionEnvelope) (s : String) :
    Truthful b (foldAll b envs) s := by
  have folds : ∀ (envs : List SessionEnvelope) (o : OrchestratorState), Truthful b o s →
      Truthful b (envs.foldl (KiCore.Session.foldOne b) o) s := by
    intro envs
    induction envs with
    | nil => exact fun o h => h
    | cons env envs ih => exact fun o h => ih _ h.foldOne
  exact folds envs .new .new

end KiCore.Session

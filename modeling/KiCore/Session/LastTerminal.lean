import KiCore.Lib.Transition
import KiCore.Session.Orchestrator
import KiCore.Session.Verdict

/-!
# The last terminal

`publish` keeps the generation and the reason of the last turn that ended, for consumers that missed its
end. It takes the generation from the envelope that ended the turn. `last_terminal_iff` shows that the
record names the turn that ended exactly if each envelope that ends a turn carries the generation of this
turn.
-/

namespace KiCore.Session

open KiCore.Lib
open LTS (EnabledAll)

def SessionState.settled : SessionState → Bool
  | .idle | .error _ => true
  | _ => false

/-- Why a turn ended in this state with this event. -/
def endReason : SessionEvent → SessionState → TransitionReason
  | _, .error reason => .errored reason
  | .turnResult _ _ _ _ (.completed stopReason), _ => .completed stopReason
  | .turnResult _ _ _ _ (.cancelled reason), _ => .cancelled reason
  | .turnResult _ _ _ _ _, _ => .completed .endTurn
  | _, _ => .cancelled .userCancel

/-- The turn that the fold of an envelope moves to idle or to an error, and why. -/
def settlement (o : OrchestratorState) (env : SessionEnvelope) : Option (Nat × TransitionReason) :=
  if (foldState o env).settled then
    (runningSince (o.session env.sessionId)).map fun turn =>
      (turn, endReason (restampEpoch env).event (foldState o env))
  else none

/-- The orchestrator, and what an observer of all folds knows: the turn of each session that was the last
to end. -/
structure Observed where
  orchestrator : OrchestratorState
  ended : Table String (Nat × TransitionReason)

def unobserved : Observed := ⟨.new, ∅⟩

def observe (b : Bool) (x : Observed) (env : SessionEnvelope) : Observed where
  orchestrator := foldOne b x.orchestrator env
  ended := match settlement x.orchestrator env with
    | some turn => x.ended.insert env.sessionId turn
    | none => x.ended

/-- The law of the last terminal of a session, for one fold. -/
structure OracleLaw (b : Bool) (s : String) (x : Observed) (env : SessionEnvelope) : Prop where
  /-- it names the last turn that ended, and says why -/
  names : (observe b x env).orchestrator.lastTerminal[s]? = (observe b x env).ended[s]?
  /-- the generation is the epoch of the transition -/
  epoch : env.sessionId = s → ∀ t ∈ foldTransitions x.orchestrator env, t.target.settled = true →
    ((foldOne b x.orchestrator env).lastTerminal[s]?).map (·.1) = some t.epoch
  /-- a fold that ends no turn of the session leaves it alone -/
  still : (env.sessionId = s → ∀ t ∈ foldTransitions x.orchestrator env, t.target.settled = false) →
    (foldOne b x.orchestrator env).lastTerminal[s]? = x.orchestrator.lastTerminal[s]?

/-- An envelope that ends the turn its session runs carries the generation of this turn. -/
def OwnGeneration (o : OrchestratorState) (env : SessionEnvelope) : Prop :=
  ∀ turn, runningSince (o.session env.sessionId) = some turn →
    (restampEpoch env).event.settlesTurn turn = true → env.turnGen = turn

variable {b : Bool} {o : OrchestratorState} {env : SessionEnvelope} {s : String} {n : Nat}
  {state : SessionState} {event : SessionEvent} {x : Observed}

@[simp] lemma restampEpoch_turnGen : (restampEpoch env).turnGen = env.turnGen := by
  unfold restampEpoch
  split
  · split <;> rfl
  · rfl

@[simp] lemma settled_prune : (pruneTerminalSubagents state).settled = state.settled := by
  cases state <;> rfl

def recorded (o : OrchestratorState) (env : SessionEnvelope) : Option (Nat × TransitionReason) :=
  if (foldState o env).settled then
    (deriveReason (foldTransitions o env).getLast? (restampEpoch env).event).map fun reason =>
      (env.turnGen, reason)
  else none

lemma recorded_quiet (quiet : foldTransitions o env = []) : recorded o env = none := by
  rw [recorded, quiet]
  exact ite_self _

lemma lastTerminal_publish {snap : StateSnapshot} :
    (publish o snap).lastTerminal[s]? =
      if snap.sessionId = s ∧ snap.state.settled = true then
        (snap.lastReason.map fun reason => (snap.turnGen, reason)).or o.lastTerminal[s]?
      else o.lastTerminal[s]? := by
  unfold publish
  cases snap.state <;> cases snap.lastReason <;> by_cases own : snap.sessionId = s <;>
    simp [SessionState.settled, Table.get_insert, own]

lemma lastTerminal_foldOne :
    (foldOne b o env).lastTerminal[s]? =
      if env.sessionId = s then (recorded o env).or o.lastTerminal[s]? else o.lastTerminal[s]? := by
  simp only [foldOne, restampEpoch_sessionId]
  split
  · have published (o' : OrchestratorState) (activity : Bool) (same : o'.lastTerminal = o.lastTerminal) :
        (publish o' (makeSnapshot b (restampEpoch env) (foldState o env) activity
          (deriveReason (foldTransitions o env).getLast? (restampEpoch env).event))).lastTerminal[s]? =
            if env.sessionId = s then (recorded o env).or o.lastTerminal[s]? else o.lastTerminal[s]? := by
      rw [lastTerminal_publish, same, makeSnapshot, restampEpoch_sessionId, restampEpoch_turnGen, recorded]
      cases (foldState o env).settled <;> by_cases own : env.sessionId = s <;> simp [own]
    exact published _ _ rfl
  case isFalse h =>
    have quiet : foldTransitions o env = [] := not_not.mp (not_or.mp h).1
    rw [recorded_quiet quiet]
    exact (ite_self _).symm

lemma resultState_settled {turn : RunningTurn} {isError : Bool} {status : Option Nat} {text : String}
    {outcome : TurnOutcome} : (resultState turn isError status text outcome).settled = true := by
  simp only [resultState]
  split_ifs <;> rfl

lemma settle_running {turn : RunningTurn} (settled : state.settled = true) :
    settle (.running turn) state n = (state, [⟨.running turn, state, n⟩]) := by
  have moved : externalPhase (.running turn) ≠ externalPhase state := by
    rw [externalPhase]
    cases state with
    | starting | running => cases settled
    | idle | error => split_ifs <;> simp [externalPhase]
  rw [settle, if_pos moved]

lemma target_of_mem {t : Transition} (mem : t ∈ (step state event).2) :
    t.target = (step state event).1 := by
  obtain ⟨n, settles⟩ := step_settles state event
  rw [settles, settle] at mem
  split_ifs at mem
  · cases List.mem_singleton.mp mem
    rfl
  · cases mem

/-- A state that folds can reach: the session does not wait for its process, and has seen no result of its
turn. -/
def Sane (state : SessionState) : Prop :=
  state ≠ .starting ∧ terminalSeen state = false

lemma step_started (started : state ≠ .starting) : (step state event).1 ≠ .starting := by
  intro h
  cases state with
  | starting => exact started rfl
  | idle | error => cases event <;> cases h
  | running turn =>
    cases event with
    | turnStarted epoch =>
      rw [step_turnStarted] at h
      split at h <;> cases h
    | turnResult isError status text epoch outcome =>
      rw [step_turnResult] at h
      split at h
      · cases h
      · have settled : (resultState turn isError status text outcome).settled = true := resultState_settled
        have starting : resultState turn isError status text outcome = .starting := h
        rw [starting] at settled
        cases settled
    | detached exit =>
      cases outcome : crashOutcome turn.terminalResultSeen exit with
      | crashed | cleanNoResult | followResult =>
        simp only [step_detached, outcome] at h
        cases h
    | _ => cases h

lemma deriveReason_turnResult {source target : SessionState} {isError : Bool} {status : Option Nat}
    {text : String} {epoch : Nat} {outcome : TurnOutcome} (settled : target.settled = true) :
    deriveReason (some ⟨source, target, n⟩) (.turnResult isError status text epoch outcome) =
      some (endReason (.turnResult isError status text epoch outcome) target) := by
  cases target with
  | starting | running => cases settled
  | error => rfl
  | idle => cases outcome <;> rfl

lemma step_ends {turn : RunningTurn} (unseen : turn.terminalResultSeen = false)
    (settles : event.settlesTurn turn.sinceEpoch = true) :
    ∃ target, target.settled = true ∧
      step (.running turn) event = (target, [⟨.running turn, target, turn.sinceEpoch⟩]) ∧
      deriveReason (some ⟨.running turn, target, turn.sinceEpoch⟩) event =
        some (endReason event target) := by
  cases event with
  | cancel => exact ⟨.idle, rfl, settle_running rfl, rfl⟩
  | turnResult isError status text epoch outcome =>
    have fresh : ¬ (epoch ≠ 0 ∧ epoch < turn.sinceEpoch) := of_decide_eq_true settles
    refine ⟨resultState turn isError status text outcome, resultState_settled, ?_,
      deriveReason_turnResult resultState_settled⟩
    rw [step_turnResult, if_neg fresh]
    exact settle_running resultState_settled
  | detached exit summary =>
    have crash : crashOutcome turn.terminalResultSeen exit =
        if cleanExit exit then .cleanNoResult else .crashed := by
      rw [unseen]
      exact crashOutcome_unseen exit
    cases clean : cleanExit exit with
    | true =>
      refine ⟨.error .emptyTurn, rfl, ?_, rfl⟩
      simp only [step_detached, crash, clean, if_true]
      exact settle_running rfl
    | false =>
      refine ⟨.error .crashed, rfl, ?_, rfl⟩
      simp only [step_detached, crash, clean, Bool.false_eq_true, if_false]
      exact settle_running rfl
  | _ => cases settles

lemma step_still (started : state ≠ .starting)
    (open_ : ∀ turn, runningSince state = some turn → event.settlesTurn turn = false)
    (settled : (step state event).1.settled = true) :
    (step state event).2 = [] ∧ runningSince state = none := by
  cases state with
  | starting => exact absurd rfl started
  | idle | error =>
    cases event with
    | turnStarted epoch => cases settled
    | _ => exact ⟨rfl, rfl⟩
  | running turn =>
    cases event with
    | turnStarted epoch =>
      rw [step_turnStarted] at settled
      split at settled <;> cases settled
    | turnResult isError status text epoch outcome =>
      have stale : epoch ≠ 0 ∧ epoch < turn.sinceEpoch := not_not.mp (of_decide_eq_false (open_ _ rfl))
      rw [step_turnResult, if_pos stale] at settled
      cases settled
    | cancel => cases open_ _ rfl
    | detached => cases open_ _ rfl
    | _ => cases settled

/-- The session is in a state that folds can reach, and the record names the turn that ended last. -/
structure Named (s : String) (x : Observed) : Prop where
  sane : Sane (x.orchestrator.session s)
  names : x.orchestrator.lastTerminal[s]? = x.ended[s]?

lemma Sane.fold (sane : Sane (o.session env.sessionId)) : Sane (foldState o env) := by
  refine ⟨fun starting => ?_, terminalSeen_foldEnvelope sane.2⟩
  cases next : (step (o.session env.sessionId) (restampEpoch env).event).1 with
  | starting => exact step_started sane.1 next
  | running | idle | error =>
    rw [foldState, next] at starting
    cases starting

lemma Sane.foldOne (sane : Sane (o.session s)) : Sane ((foldOne b o env).session s) := by
  rw [session_foldOne]
  split_ifs with own
  · subst own
    exact sane.fold
  · exact sane

lemma fold_ends (sane : Sane (o.session env.sessionId))
    (running : runningSince (o.session env.sessionId) = some n)
    (settles : (restampEpoch env).event.settlesTurn n = true) :
    ∃ reason, settlement o env = some (n, reason) ∧ recorded o env = some (env.turnGen, reason) ∧
      ∃ t, foldTransitions o env = [t] ∧ t.target.settled = true ∧ t.epoch = n := by
  cases state : o.session env.sessionId with
  | starting | idle | error =>
    rw [state] at running
    cases running
  | running turn =>
    have unseen : turn.terminalResultSeen = false := by
      have unseen := sane.2
      rwa [state] at unseen
    rw [state] at running
    cases running
    obtain ⟨target, settled, ends, reason⟩ := step_ends unseen settles
    have transitions : foldTransitions o env = [⟨.running turn, target, turn.sinceEpoch⟩] := by
      rw [foldTransitions, state, ends]
    have ended : foldState o env = target := by
      rw [foldState, state, ends]
      cases target with
      | starting | running => cases settled
      | idle | error => rfl
    refine ⟨endReason (restampEpoch env).event target, ?_, ?_, _, transitions, settled, rfl⟩
    · rw [settlement, ended, if_pos settled, state]
      rfl
    · rw [recorded, ended, if_pos settled, transitions, List.getLast?_singleton, reason]
      rfl

lemma fold_still (sane : Sane (o.session env.sessionId))
    (open_ : ∀ turn, runningSince (o.session env.sessionId) = some turn →
      (restampEpoch env).event.settlesTurn turn = false) :
    settlement o env = none ∧ recorded o env = none ∧
      ∀ t ∈ foldTransitions o env, t.target.settled = false := by
  have still (settled : (foldState o env).settled = true) :
      foldTransitions o env = [] ∧ runningSince (o.session env.sessionId) = none := by
    rw [foldState, settled_prune] at settled
    exact step_still sane.1 open_ settled
  refine ⟨?_, ?_, fun t mem => ?_⟩
  · rw [settlement]
    split_ifs with settled
    · rw [(still settled).2]
      rfl
    · rfl
  · by_cases settled : (foldState o env).settled = true
    · exact recorded_quiet (still settled).1
    · exact if_neg settled
  · by_contra settled
    have ended : (foldState o env).settled = true := by
      rw [foldState, settled_prune, ← target_of_mem mem]
      exact Bool.eq_true_of_not_eq_false settled
    rw [(still ended).1] at mem
    cases mem

lemma Named.law_ends (named : Named env.sessionId x)
    (running : runningSince (x.orchestrator.session env.sessionId) = some n)
    (settles : (restampEpoch env).event.settlesTurn n = true) :
    OracleLaw b env.sessionId x env ↔ env.turnGen = n := by
  obtain ⟨reason, ended, noted, t, transitions, settled, epoch⟩ := fold_ends named.sane running settles
  have record : (foldOne b x.orchestrator env).lastTerminal[env.sessionId]? =
      some (env.turnGen, reason) := by
    rw [lastTerminal_foldOne, if_pos rfl, noted]
    rfl
  have last : (observe b x env).ended[env.sessionId]? = some (n, reason) := by
    simp only [observe, ended, Table.get_insert, if_pos]
  constructor
  · intro law
    have same := record.symm.trans (law.names.trans last)
    cases same
    rfl
  · intro same
    refine ⟨?_, fun _ t' mem _ => ?_, fun quiet => ?_⟩
    · rw [last, ← same]
      exact record
    · rw [transitions] at mem
      cases List.mem_singleton.mp mem
      rw [record, epoch, ← same]
      rfl
    · have unsettled := quiet rfl t (transitions ▸ List.mem_singleton_self t)
      rw [settled] at unsettled
      cases unsettled

lemma Named.law_still (named : Named s x)
    (open_ : env.sessionId = s → ∀ turn, runningSince (x.orchestrator.session env.sessionId) = some turn →
      (restampEpoch env).event.settlesTurn turn = false) :
    OracleLaw b s x env := by
  by_cases own : env.sessionId = s
  · subst own
    obtain ⟨ended, noted, unsettled⟩ := fold_still named.sane (open_ rfl)
    have record : (foldOne b x.orchestrator env).lastTerminal[env.sessionId]? =
        x.orchestrator.lastTerminal[env.sessionId]? := by
      rw [lastTerminal_foldOne, if_pos rfl, noted]
      rfl
    refine ⟨?_, fun _ t mem settled => ?_, fun _ => record⟩
    · simp only [observe, ended]
      exact record.trans named.names
    · rw [unsettled t mem] at settled
      cases settled
  · have record : (foldOne b x.orchestrator env).lastTerminal[s]? = x.orchestrator.lastTerminal[s]? := by
      rw [lastTerminal_foldOne, if_neg own]
    refine ⟨?_, fun same => absurd same own, fun _ => record⟩
    have last : (observe b x env).ended[s]? = x.ended[s]? := by
      unfold observe
      cases settlement x.orchestrator env with
      | none => rfl
      | some turn => exact (Table.get_insert ..).trans (if_neg own)
    exact record.trans (named.names.trans last.symm)

lemma Named.law_iff (named : Named s x) :
    OracleLaw b s x env ↔ (env.sessionId = s → OwnGeneration x.orchestrator env) := by
  by_cases ends : env.sessionId = s ∧ ∃ turn,
      runningSince (x.orchestrator.session env.sessionId) = some turn ∧
        (restampEpoch env).event.settlesTurn turn = true
  · obtain ⟨rfl, turn, running, settles⟩ := ends
    rw [named.law_ends running settles]
    constructor
    · rintro same - turn' running' -
      exact same.trans (Option.some.inj (running.symm.trans running'))
    · intro own
      exact own rfl turn running settles
  · have open_ (own : env.sessionId = s) (turn : Nat)
        (running : runningSince (x.orchestrator.session env.sessionId) = some turn) :
        (restampEpoch env).event.settlesTurn turn = false :=
      Bool.eq_false_iff.mpr fun settles => ends ⟨own, turn, running, settles⟩
    refine iff_of_true (named.law_still open_) fun own turn running settles => ?_
    exact absurd ⟨own, turn, running, settles⟩ ends

lemma Named.fold (named : Named s x) (own : env.sessionId = s → OwnGeneration x.orchestrator env) :
    Named s (observe b x env) :=
  ⟨named.sane.foldOne, (named.law_iff.mpr own).names⟩

/-- Last terminal: in every run, each fold keeps the law exactly if each envelope that ends the turn of the
session carries the generation of this turn. -/
theorem last_terminal_iff (b : Bool) (s : String) (envs : List SessionEnvelope) :
    EnabledAll (OracleLaw b s) (observe b) unobserved envs ↔
      EnabledAll (fun x env => env.sessionId = s → OwnGeneration x.orchestrator env) (observe b) unobserved
        envs := by
  refine LTS.enabledAll_iff (Q := Named s) (fun x env named => ⟨named.law_iff, named.fold⟩) ?_
  have idle : unobserved.orchestrator.session s = .idle := rfl
  exact ⟨by rw [idle]; exact ⟨by decide, rfl⟩, rfl⟩

/-- The process of a session ends in its turn, when the generation of the next one has been drawn. -/
def crashedSend : List SessionEnvelope :=
  [⟨"s", 1, .turnStarted 1⟩, ⟨"s", 2, .detached none none⟩]

/-- The record says that the next turn has ended. -/
theorem last_terminal_crashedSend :
    (foldAll false crashedSend).lastTerminal["s"]? = some (2, .errored .crashed) ∧
      (foldTransitions (foldAll false (crashedSend.take 1)) ⟨"s", 2, .detached none none⟩).map (·.epoch) =
        [1] ∧
      ¬ EnabledAll (OracleLaw false "s") (observe false) unobserved crashedSend := by
  refine ⟨by decide, by decide, fun law => ?_⟩
  have named := law.2.1.names
  revert named
  decide

end KiCore.Session

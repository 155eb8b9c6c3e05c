import KiCore.Lib.Transition
import KiCore.Session.Orchestrator

/-!
# Finished subagents

The reducer lets a terminal entry of the roster absorb a non-terminal update, so that a late update
does not bring a finished subagent back. But the orchestrator prunes a completed, errored or shut down
subagent in the very fold that records its status, and then there is no entry left to absorb anything.
Only an interrupted subagent stays, and only it is safe: `no_resurrection_iff`.
-/

namespace KiCore.Session

open KiCore.Lib

variable {b : Bool} {o : OrchestratorState} {env : SessionEnvelope} {s r : String}
  {turn turn' : RunningTurn} {update : SubagentUpdate} {status : SubagentStatus}

/-- The lanes, with the latest terminal status that was folded for one subagent in the running turn of
one session. -/
structure Watched where
  lanes : OrchestratorState
  verdict : Option SubagentStatus

/-- The latest terminal status after an event of the turn. -/
def SessionEvent.verdict (r : String) (before : Option SubagentStatus) (event : SessionEvent) :
    Option SubagentStatus :=
  match event.update with
  | some update => if update.ref = r ∧ update.status.isTerminal then some update.status else before
  | none => before

/-- The record is dropped when the session leaves its turn, or starts a newer one. -/
def carried (r : String) (verdict : Option SubagentStatus) (event : SessionEvent) :
    SessionState → SessionState → Option SubagentStatus
  | .running turn, .running turn' =>
    if turn'.sinceEpoch = turn.sinceEpoch then event.verdict r verdict else none
  | _, _ => none

/-- Fold an envelope, and keep the record. -/
def watch (b : Bool) (s r : String) (w : Watched) (env : SessionEnvelope) : Watched where
  lanes := foldOne b w.lanes env
  verdict :=
    if env.sessionId = s then
      carried r w.verdict env.event (w.lanes.session s) ((foldOne b w.lanes env).session s)
    else w.verdict

def newWatch : Watched := { lanes := .new, verdict := none }

def RunningTurn.statusOf (turn : RunningTurn) (r : String) : Option SubagentStatus :=
  (Keyed.lookup SubagentState.ref r turn.subagents).map SubagentState.status

/-- A subagent has an active entry in the roster of its session's turn. -/
def Active (o : OrchestratorState) (s r : String) : Prop :=
  ∃ turn, o.session s = .running turn ∧
    ∃ entry ∈ turn.subagents, entry.ref = r ∧ entry.status.isTerminal = false

/-- A non-terminal update of a subagent whose terminal status has been folded in this turn. -/
def IsLate (s r : String) (w : Watched) (env : SessionEnvelope) : Prop :=
  env.sessionId = s ∧ w.verdict ≠ none ∧
    ∃ update, env.event.update = some update ∧ update.ref = r ∧ update.status.isTerminal = false

/-- A late update neither makes the subagent active nor starts the activity of its session again. -/
def StaysFinished (b : Bool) (s r : String) (w : Watched) (env : SessionEnvelope) : Prop :=
  IsLate s r w env → ¬ Active (foldOne b w.lanes env) s r ∧
    (hasForegroundActivity ((foldOne b w.lanes env).session s) = true →
      hasForegroundActivity (w.lanes.session s) = true)

/-- A late update comes while the latest terminal status of the subagent is an interruption. -/
def LateOnlyIfInterrupted (s r : String) (w : Watched) (env : SessionEnvelope) : Prop :=
  IsLate s r w env → w.verdict = some .interrupted

/-- Distinct references, and nothing left to prune. -/
structure RunningTurn.Tidy (turn : RunningTurn) : Prop where
  nodup : (turn.subagents.map SubagentState.ref).Nodup
  kept : ∀ entry ∈ turn.subagents, entry.status.isPruned = false

def foldedRoster (turn : RunningTurn) (event : SessionEvent) : List SubagentState :=
  (event.update.elim turn.subagents (upsertSubagent turn.subagents)).filter
    fun entry => !entry.status.isPruned

def nextStatus (before : Option SubagentStatus) (status : SubagentStatus) : Option SubagentStatus :=
  match before with
  | some .interrupted => if status.isPruned then none else some .interrupted
  | _ => if status.isPruned then none else some status

lemma nextStatus_interrupted {before : Option SubagentStatus} :
    nextStatus before status = some .interrupted ↔
      status = .interrupted ∨ status.isTerminal = false ∧ before = some .interrupted := by
  cases before with
  | none => cases status <;> decide
  | some slot => cases slot <;> cases status <;> decide

lemma nextStatus_active {before : Option SubagentStatus} (gone : before ≠ some .interrupted)
    (active : status.isTerminal = false) : nextStatus before status = some status := by
  have unpruned : status.isPruned = false := by
    cases status <;> first | rfl | cases active
  cases before with
  | none => simp [nextStatus, unpruned]
  | some slot => cases slot <;> simp_all [nextStatus]

lemma absorb_ref {slot next : SubagentState} (h : slot.ref = next.ref) :
    (slot.absorb next).ref = next.ref := by
  unfold SubagentState.absorb
  split
  · exact h
  · rfl

lemma RunningTurn.Tidy.nodup_update (tidy : turn.Tidy) (event : SessionEvent) :
    ((event.update.elim turn.subagents (upsertSubagent turn.subagents)).map
      SubagentState.ref).Nodup := by
  cases event.update with
  | none => exact tidy.nodup
  | some update => exact Keyed.nodup_upsert (fun slot => absorb_ref) tidy.nodup

lemma RunningTurn.Tidy.fold (tidy : turn.Tidy) {event : SessionEvent}
    (h : turn'.subagents = foldedRoster turn event) : turn'.Tidy := by
  constructor
  · rw [h, foldedRoster]
    exact (tidy.nodup_update event).sublist (List.filter_sublist.map _)
  · intro entry mem
    rw [h, foldedRoster, List.mem_filter] at mem
    simpa using mem.2

lemma absorb_status {slot next : SubagentState} (kept : slot.status.isPruned = false) :
    ((some (slot.absorb next)).filter fun entry => !entry.status.isPruned).map SubagentState.status =
      nextStatus (some slot.status) next.status := by
  cases hs : slot.status with
  | completed | errored | shutdown => simp [hs, SubagentStatus.isPruned] at kept
  | pendingInit | running | interrupted =>
    cases hn : next.status <;>
      simp [SubagentState.absorb, nextStatus, hs, hn, Option.filter, SubagentStatus.isTerminal,
        SubagentStatus.isPruned]

lemma RunningTurn.Tidy.statusOf_fold (tidy : turn.Tidy) {event : SessionEvent}
    (h : turn'.subagents = foldedRoster turn event) :
    turn'.statusOf r = match event.update with
      | some update =>
        if update.ref = r then nextStatus (turn.statusOf r) update.status else turn.statusOf r
      | none => turn.statusOf r := by
  have survives : ((Keyed.lookup SubagentState.ref r turn.subagents).filter
      fun entry => !entry.status.isPruned).map SubagentState.status = turn.statusOf r := by
    rw [RunningTurn.statusOf]
    cases found : Keyed.lookup SubagentState.ref r turn.subagents with
    | none => rfl
    | some entry => simp [Option.filter, tidy.kept entry (Keyed.mem_of_lookup found)]
  rw [RunningTurn.statusOf, h, foldedRoster, Keyed.lookup_filter (tidy.nodup_update event)]
  cases event.update with
  | none => exact survives
  | some update =>
    rw [Option.elim, upsertSubagent, Keyed.lookup_upsert fun slot => absorb_ref]
    by_cases hr : update.ref = r
    · simp only [hr, if_true]
      cases found : Keyed.lookup SubagentState.ref r turn.subagents with
      | none =>
        cases update.status <;>
          simp [RunningTurn.statusOf, found, nextStatus, Option.filter, SubagentStatus.isPruned]
      | some entry =>
        simp only [RunningTurn.statusOf, found, Option.elim, Option.map_some]
        exact absorb_status (tidy.kept entry (Keyed.mem_of_lookup found))
    · simp only [hr, if_false]
      exact survives

@[simp] lemma restampEpoch_update : (restampEpoch env).event.update = env.event.update := by
  unfold restampEpoch
  split
  · rename_i h
    split
    · rw [h]; rfl
    · rfl
  · rfl

lemma foldState_running (h : foldState o env = .running turn') :
    (turn'.subagents = [] ∧
      ∀ turn, o.session env.sessionId = .running turn → turn'.sinceEpoch ≠ turn.sinceEpoch) ∨
    ∃ turn, o.session env.sessionId = .running turn ∧ turn'.sinceEpoch = turn.sinceEpoch ∧
      turn'.subagents = foldedRoster turn env.event := by
  cases stepped : (step (o.session env.sessionId) (restampEpoch env).event).1 with
  | starting | error | idle => simp [foldState, stepped, pruneTerminalSubagents] at h
  | running turn1 =>
    simp only [foldState, stepped, pruneTerminalSubagents, SessionState.running.injEq] at h
    subst h
    cases before : o.session env.sessionId with
    | running turn =>
      rw [before] at stepped
      rcases step_running stepped with ⟨epoch, newer, rfl⟩ | ⟨since, roster⟩
      · refine .inl ⟨rfl, fun t same => ?_⟩
        cases same
        exact Nat.ne_of_gt newer
      · refine .inr ⟨turn, rfl, since, ?_⟩
        simp only [foldedRoster, roster, restampEpoch_update]
    | _ =>
      obtain ⟨epoch, rfl⟩ := step_not_running (by simp [before]) stepped
      exact .inl ⟨rfl, fun _ same => by cases same⟩

lemma foldState_update (before : o.session env.sessionId = .running turn)
    (h : env.event.update = some update) :
    foldState o env = .running { turn with subagents := foldedRoster turn env.event } := by
  have event : env.event = .subagentUpdate update := by
    cases e : env.event <;> simp_all [SessionEvent.update]
  simp [foldState, foldedRoster, before, restampEpoch, event, step, pruneTerminalSubagents,
    SessionEvent.update]

/-- The roster still shows a terminal status if and only if it is an interruption that is on record. -/
inductive Recorded (r : String) : SessionState → Option SubagentStatus → Prop where
  | turn {turn verdict} : turn.Tidy →
    (turn.statusOf r = some .interrupted ↔ verdict = some .interrupted) →
    Recorded r (.running turn) verdict
  | noTurn {state} : (∀ turn, state ≠ .running turn) → Recorded r state none

variable {verdict : Option SubagentStatus} {state : SessionState}

lemma RunningTurn.Tidy.agrees (tidy : turn.Tidy) {event : SessionEvent}
    (roster : turn'.subagents = foldedRoster turn event)
    (h : turn.statusOf r = some .interrupted ↔ verdict = some .interrupted) :
    turn'.statusOf r = some .interrupted ↔ event.verdict r verdict = some .interrupted := by
  rw [tidy.statusOf_fold roster, SessionEvent.verdict]
  cases event.update with
  | none => exact h
  | some update =>
    by_cases hr : update.ref = r
    · simp only [hr, if_true, true_and]
      rw [nextStatus_interrupted, h]
      cases update.status <;> simp [SubagentStatus.isTerminal]
    · simpa [hr] using h

lemma carried_noTurn {event : SessionEvent} {before : SessionState}
    (h : ∀ turn, state ≠ .running turn) : carried r verdict event before state = none := by
  cases state with
  | running turn => exact absurd rfl (h turn)
  | _ => cases before <;> rfl

lemma carried_newTurn {event : SessionEvent} {before : SessionState}
    (h : ∀ turn, before = .running turn → turn'.sinceEpoch ≠ turn.sinceEpoch) :
    carried r verdict event before (.running turn') = none := by
  cases before with
  | running turn => simp [carried, h turn rfl]
  | _ => rfl

lemma Recorded.fold (h : Recorded r (o.session env.sessionId) verdict) :
    Recorded r (foldState o env)
      (carried r verdict env.event (o.session env.sessionId) (foldState o env)) := by
  cases ended : foldState o env with
  | starting | error | idle =>
    rw [carried_noTurn (by simp)]
    exact .noTurn (by simp)
  | running turn' =>
    rcases foldState_running ended with ⟨empty, newer⟩ | ⟨turn, before, since, roster⟩
    · rw [carried_newTurn newer]
      exact .turn ⟨by simp [empty], by simp [empty]⟩ (by simp [RunningTurn.statusOf, empty])
    · rw [before] at h ⊢
      cases h with
      | noTurn idle => exact absurd rfl (idle turn)
      | turn tidy interrupted =>
        rw [carried, if_pos since]
        exact .turn (tidy.fold roster) (tidy.agrees roster interrupted)

lemma Recorded.running (h : Recorded r state verdict) (finished : verdict ≠ none) :
    ∃ turn, state = .running turn ∧ turn.Tidy ∧
      (turn.statusOf r = some .interrupted ↔ verdict = some .interrupted) := by
  cases h with
  | noTurn => exact absurd rfl finished
  | turn tidy interrupted => exact ⟨_, rfl, tidy, interrupted⟩

def Watched.Recorded (s r : String) (w : Watched) : Prop :=
  KiCore.Session.Recorded r (w.lanes.session s) w.verdict

lemma Watched.Recorded.new : newWatch.Recorded s r :=
  .noTurn fun _ => by simp [newWatch, OrchestratorState.new, OrchestratorState.session]

lemma Watched.Recorded.watch {w : Watched} (h : w.Recorded s r) :
    (watch b s r w env).Recorded s r := by
  rw [Watched.Recorded, KiCore.Session.watch, session_foldOne]
  by_cases hs : env.sessionId = s
  · subst hs
    simp only [if_true]
    exact KiCore.Session.Recorded.fold h
  · simp only [hs, if_false]
    exact h

lemma active_iff (run : o.session s = .running turn) (tidy : turn.Tidy) :
    Active o s r ↔ ∃ status, turn.statusOf r = some status ∧ status.isTerminal = false := by
  constructor
  · rintro ⟨turn1, run1, entry, mem, key, active⟩
    obtain rfl := SessionState.running.inj (run.symm.trans run1)
    have found := (Keyed.mem_iff_lookup tidy.nodup).mp ⟨mem, key⟩
    exact ⟨entry.status, by simp [RunningTurn.statusOf, found], active⟩
  · rintro ⟨status, known, active⟩
    obtain ⟨entry, found, rfl⟩ := Option.map_eq_some_iff.mp known
    exact ⟨turn, run, entry, Keyed.mem_of_lookup found, Keyed.lookup_key found, active⟩

lemma foldState_of_interrupted (tidy : turn.Tidy) (run : o.session env.sessionId = .running turn)
    (h : env.event.update = some update)
    (interrupted : turn.statusOf update.ref = some .interrupted)
    (active : update.status.isTerminal = false) : foldState o env = .running turn := by
  obtain ⟨slot, found, status⟩ := Option.map_eq_some_iff.mp interrupted
  have absorbed : upsertSubagent turn.subagents update = turn.subagents := by
    apply Keyed.upsert_eq_self (y := slot) found
    rw [SubagentState.absorb, status, active]
    rfl
  have roster : foldedRoster turn env.event = turn.subagents := by
    rw [foldedRoster, h, Option.elim, absorbed, List.filter_eq_self]
    exact fun entry mem => by rw [tidy.kept entry mem]; rfl
  rw [foldState_update run h, roster]

lemma active_of_pruned (tidy : turn.Tidy) (run : o.session env.sessionId = .running turn)
    (h : env.event.update = some update) (gone : turn.statusOf update.ref ≠ some .interrupted)
    (active : update.status.isTerminal = false) :
    Active (foldOne b o env) env.sessionId update.ref := by
  have ended : (foldOne b o env).session env.sessionId =
      .running { turn with subagents := foldedRoster turn env.event } := by
    rw [session_foldOne, if_pos rfl, foldState_update run h]
  rw [active_iff ended (tidy.fold rfl)]
  refine ⟨update.status, ?_, active⟩
  rw [tidy.statusOf_fold rfl, h]
  simp only [if_true]
  exact nextStatus_active gone active

lemma staysFinished_iff {w : Watched} (h : w.Recorded s r) :
    StaysFinished b s r w env ↔ LateOnlyIfInterrupted s r w env := by
  apply imp_congr_right
  rintro ⟨rfl, finished, update, carries, rfl, active⟩
  obtain ⟨turn, run, tidy, interrupted⟩ := Recorded.running h finished
  constructor
  · intro stays
    by_contra gone
    exact stays.1 (active_of_pruned tidy run carries (mt interrupted.mp gone) active)
  · intro absorbs
    have shown := interrupted.mpr absorbs
    have ended : (foldOne b w.lanes env).session env.sessionId = .running turn := by
      rw [session_foldOne, if_pos rfl]
      exact foldState_of_interrupted tidy run carries shown active
    refine ⟨?_, fun h => by rw [ended, ← run] at h; exact h⟩
    rw [active_iff ended tidy, shown]
    rintro ⟨status, same, h⟩
    cases same
    cases h

/-- In every sequence of envelopes, no late update resurrects a finished subagent if and only if each
comes while the latest terminal status of the subagent is an interruption. -/
theorem no_resurrection_iff (b : Bool) (s r : String) (envs : List SessionEnvelope) :
    LTS.EnabledAll (StaysFinished b s r) (watch b s r) newWatch envs ↔
      LTS.EnabledAll (LateOnlyIfInterrupted s r) (watch b s r) newWatch envs := by
  apply LTS.enabledAll_iff (Q := Watched.Recorded s r) ?_ .new
  intro w env h
  exact ⟨staysFinished_iff h, fun _ => h.watch⟩

def childUpdate (status : SubagentStatus) : SessionEnvelope :=
  ⟨"session", 1, .subagentUpdate ⟨"child", none, status, none⟩⟩

/-- A subagent finishes while a permission is pending, and then its lagging progress comes in. -/
def lateProgress : List SessionEnvelope :=
  [⟨"session", 1, .turnStarted 1⟩, childUpdate .running,
    ⟨"session", 1, .permission "request" .tool⟩, childUpdate .completed, childUpdate .running]

/-- The finished subagent is active again, and with it the activity of its session. -/
theorem lateProgress_resurrects :
    ¬ LTS.EnabledAll (StaysFinished false "session" "child") (watch false "session" "child") newWatch
      lateProgress := by
  intro h
  have late : IsLate "session" "child"
      ((lateProgress.take 4).foldl (watch false "session" "child") newWatch) (childUpdate .running) :=
    ⟨rfl, by decide, _, rfl, rfl, rfl⟩
  obtain ⟨-, quiet⟩ := h.2.2.2.2.1 late
  exact absurd (quiet (by decide)) (by decide)

end KiCore.Session

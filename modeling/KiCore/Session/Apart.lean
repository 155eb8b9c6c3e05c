import KiCore.Session.Snapshot

/-!
# Sessions do not mix

The envelopes of all sessions go through one fold. What it keeps and broadcasts of a session is what a fold
of the session's own envelopes keeps and broadcasts, whichever others come in between.
-/

namespace KiCore.Session

open KiCore.Lib

variable {b : Bool} {o o' : OrchestratorState} {env : SessionEnvelope} {s : String}

/-- Two orchestrators keep the same of a session, and have broadcast the same of it. -/
structure SameFor (s : String) (o o' : OrchestratorState) : Prop where
  session : o.session s = o'.session s
  roster : o.roster s = o'.roster s
  latest : o.latest[s]? = o'.latest[s]?
  lastTerminal : o.lastTerminal[s]? = o'.lastTerminal[s]?
  events : o.events.filter (·.sessionId = s) = o'.events.filter (·.sessionId = s)
  states : o.states.filter (·.sessionId = s) = o'.states.filter (·.sessionId = s)

lemma SameFor.publish (same : SameFor s o o') (snap : StateSnapshot) :
    SameFor s (publish o snap) (publish o' snap) where
  session := same.session
  roster := same.roster
  latest := by
    show (o.latest.insert snap.sessionId snap)[s]? = (o'.latest.insert snap.sessionId snap)[s]?
    rw [Table.get_insert, Table.get_insert, same.latest]
  lastTerminal := by
    obtain ⟨_, state, _, _, _, _, _, reason⟩ := snap
    cases state <;> cases reason <;> simp only [KiCore.Session.publish, Table.get_insert, same.lastTerminal]
  events := by
    obtain ⟨_, state, _, _, _, _, _, _⟩ := snap
    cases state with
    | error reason =>
      dsimp only [KiCore.Session.publish]
      split_ifs
      · rw [List.filter_append, List.filter_append, same.events]
      · exact same.events
    | _ => exact same.events
  states := by
    show (o.states ++ [snap]).filter _ = (o'.states ++ [snap]).filter _
    rw [List.filter_append, List.filter_append, same.states]

lemma sameFor_publish {snap : StateSnapshot} (other : snap.sessionId ≠ s) :
    SameFor s (publish o snap) o where
  session := rfl
  roster := rfl
  latest := by
    show (o.latest.insert snap.sessionId snap)[s]? = o.latest[s]?
    rw [Table.get_insert, if_neg other]
  lastTerminal := by
    obtain ⟨_, state, _, _, _, _, _, reason⟩ := snap
    cases state <;> cases reason <;> simp only [publish, Table.get_insert, if_neg other]
  events := by
    obtain ⟨_, state, _, _, _, _, _, _⟩ := snap
    cases state with
    | error reason =>
      dsimp only [publish]
      split_ifs
      · rw [List.filter_append, List.filter_cons_of_neg (by simpa using other), List.filter_nil,
          List.append_nil]
      · rfl
    | _ => rfl
  states := by
    show (o.states ++ [snap]).filter _ = _
    rw [List.filter_append, List.filter_cons_of_neg (by simpa using other), List.filter_nil, List.append_nil]

/-- The fold before it publishes. -/
def record (o : OrchestratorState) (env : SessionEnvelope) (state : SessionState)
    (roster : WorkflowRoster) : OrchestratorState :=
  { o with
    events := o.events ++ [env]
    rosters := o.rosters.insert env.sessionId roster
    fsms := o.fsms.insert env.sessionId state }

lemma SameFor.record (same : SameFor s o o') {state : SessionState} {roster : WorkflowRoster} :
    SameFor s (record o env state roster) (record o' env state roster) where
  session := by
    have kept := same.session
    unfold OrchestratorState.session at kept
    simp only [OrchestratorState.session, Session.record, Table.get_insert]
    split_ifs
    · rfl
    · exact kept
  roster := by
    have kept := same.roster
    unfold OrchestratorState.roster at kept
    simp only [OrchestratorState.roster, Session.record, Table.get_insert]
    split_ifs
    · rfl
    · exact kept
  latest := same.latest
  lastTerminal := same.lastTerminal
  events := by
    show (o.events ++ [env]).filter _ = (o'.events ++ [env]).filter _
    rw [List.filter_append, List.filter_append, same.events]
  states := same.states

lemma sameFor_record {state : SessionState} {roster : WorkflowRoster} (other : env.sessionId ≠ s) :
    SameFor s (record o env state roster) o where
  session := by simp only [OrchestratorState.session, record, Table.get_insert, if_neg other]
  roster := by simp only [OrchestratorState.roster, record, Table.get_insert, if_neg other]
  latest := rfl
  lastTerminal := rfl
  events := by
    show (o.events ++ [env]).filter _ = _
    rw [List.filter_append, List.filter_cons_of_neg (by simpa using other), List.filter_nil, List.append_nil]
  states := rfl

lemma SameFor.trans {o'' : OrchestratorState} (first : SameFor s o o') (second : SameFor s o' o'') :
    SameFor s o o'' :=
  ⟨first.session.trans second.session, first.roster.trans second.roster, first.latest.trans second.latest,
    first.lastTerminal.trans second.lastTerminal, first.events.trans second.events,
    first.states.trans second.states⟩

lemma SameFor.foldOne (same : SameFor s o o') (own : env.sessionId = s) :
    SameFor s (foldOne b o env) (foldOne b o' env) := by
  have own' : (restampEpoch env).sessionId = s := by rwa [restampEpoch_sessionId]
  have session := own'.symm ▸ same.session
  have roster := own'.symm ▸ same.roster
  unfold KiCore.Session.foldOne
  simp only [session, roster]
  split
  · exact same.record.publish _
  · exact same.record

lemma sameFor_foldOne (other : env.sessionId ≠ s) : SameFor s (foldOne b o env) o := by
  have other' : (restampEpoch env).sessionId ≠ s := by rwa [restampEpoch_sessionId]
  unfold foldOne
  dsimp only
  split
  · exact (sameFor_publish other').trans (sameFor_record other')
  · exact sameFor_record other'

/-- Whatever envelopes of other sessions are folded in between, a session has the state, the roster, the
snapshot and the last terminal of a fold of its own envelopes, and its broadcasts are those of that fold. -/
theorem sessions_apart (b : Bool) (envs : List SessionEnvelope) (s : String) :
    SameFor s (foldAll b envs) (foldAll b (envs.filter (·.sessionId = s))) := by
  have folds : ∀ (envs : List SessionEnvelope) (o o' : OrchestratorState), SameFor s o o' →
      SameFor s (envs.foldl (foldOne b) o) ((envs.filter (·.sessionId = s)).foldl (foldOne b) o') := by
    intro envs
    induction envs with
    | nil => exact fun o o' same => same
    | cons env envs ih =>
      intro o o' same
      by_cases own : env.sessionId = s
      · rw [List.filter_cons_of_pos (by simpa using own)]
        exact ih _ _ (same.foldOne own)
      · rw [List.filter_cons_of_neg (by simpa using own)]
        exact ih _ _ ((sameFor_foldOne own).trans same)
  exact folds envs _ _ ⟨rfl, rfl, rfl, rfl, rfl, rfl⟩

end KiCore.Session

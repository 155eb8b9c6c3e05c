import KiCore.Lib.Transition
import KiCore.Team.Run.Manager
import KiCore.Team.Coordinator.Machine

/-!
# The status protocol of a team run

A run is announced once, reports its progress, and ends once: `Protocol` says so of the events that
were broadcast and of the record the manager keeps, and `Absorbing` that a terminal status is final.
`apply_work_summary` keeps the protocol only as long as its summaries obey it (`Obeys`): it computes
the status anew from each summary, whatever the status was. `protocol_iff` says that a sequence of
operations on the manager keeps the protocol exactly if each of them obeys it in its turn.
-/

namespace KiCore.Team

open KiCore.Lib

inductive ManagerOp where
  | bindEnqueue (request : EnqueueRequest)
  | bindSystemEnqueue (request : EnqueueRequest)
  | abortBinding (binding : RunBinding)
  | applyWorkSummary (summary : RunWorkSummary)
  | beginCancel (teamRunId : String) (reason : Option String)
  | publishSnapshotUpdate (coordinator : CoordinatorSnapshot)
  | publishSlotWork (snapshot : SlotWorkSnapshot)

/-- The manager, and the runs for which `begin_cancel` has succeeded. -/
structure RunHistory where
  manager : ManagerState
  cancelRequested : List String

def TeamRunStatus.terminalEvent : TeamRunStatus → Option TeamRunEvent
  | .completed => some .completed
  | .cancelled => some .cancelled
  | .failed => some .failed
  | .accepted | .running | .cancelling => none

def TeamRunEvent.isTerminal : TeamRunEvent → Bool
  | .completed | .cancelled | .failed => true
  | .accepted | .started | .updated => false

/-- The events of a run, in the order they were broadcast. -/
def eventsOf (published : List Broadcast) (teamRunId : String) : List TeamRunEvent :=
  published.filterMap fun
    | .teamRun event payload => if payload.teamRunId = teamRunId then some event else none
    | .slotWork _ _ => none

/-- `Accepted (Started | Updated)* Terminal?`, or nothing yet. -/
def RunWord (events : List TeamRunEvent) : Prop :=
  events = [] ∨ ∃ (middle : List TeamRunEvent) (last : Option TeamRunEvent),
    events = .accepted :: (middle ++ last.toList) ∧ (∀ e ∈ middle, e = .started ∨ e = .updated) ∧
      ∀ e ∈ last, e.isTerminal = true

lemma RunWord.last {es : List TeamRunEvent} {t e : TeamRunEvent} (w : RunWord (es ++ [t, e])) :
    t.isTerminal = false := by
  rcases w with nil | ⟨middle, last, eq, progress, _⟩
  · simp at nil
  · have inner : t ∈ TeamRunEvent.accepted :: middle := by
      cases last with
      | none =>
        rw [Option.toList_none, List.append_nil] at eq
        rw [← eq]
        simp
      | some x =>
        have split : (es ++ [t]) ++ [e] = (.accepted :: middle) ++ [x] := by simpa using eq
        rw [← (List.append_inj' split rfl).1]
        simp
    rcases List.mem_cons.mp inner with rfl | mem
    · rfl
    · rcases progress t mem with rfl | rfl <;> rfl

lemma RunWord.first {e : TeamRunEvent} {es : List TeamRunEvent} (w : RunWord (e :: es)) :
    e = .accepted := by
  rcases w with nil | ⟨middle, last, eq, _⟩
  · cases nil
  · exact (List.cons.inj eq).1

/-- What holds of a run after each operation. -/
structure Protocol (h : RunHistory) : Prop where
  cancel : ∀ run, h.manager.run = some run → run.teamRunId ∈ h.cancelRequested →
    run.status = .cancelling ∨ run.status = .cancelled ∨ run.status = .failed
  word : ∀ id, RunWord (eventsOf h.manager.published id)
  announced : ∀ run e, h.manager.run = some run → run.status.terminalEvent = some e →
    (eventsOf h.manager.published run.teamRunId).count e = 1

def Absorbing (h h' : RunHistory) : Prop :=
  ∀ run run', h.manager.run = some run → h'.manager.run = some run' →
    run'.teamRunId = run.teamRunId → run.status.isActive = false → run'.status = run.status

def KeepsProtocol (h h' : RunHistory) : Prop :=
  Absorbing h h' ∧ Protocol h'

namespace TeamRunManager

variable {M : TeamRunManager} {m : ManagerState} {h h' : RunHistory} {run run' : TeamRunRecord}
  {op : ManagerOp} {events es : List TeamRunEvent} {e : TeamRunEvent} {summary : RunWorkSummary}

def perform (M : TeamRunManager) (h : RunHistory) : ManagerOp → RunHistory
  | .bindEnqueue request => { h with manager := (bindEnqueue M h.manager request).2 }
  | .bindSystemEnqueue request =>
    { h with manager := (bindSystemEnqueue M h.manager request.slotId request.role).2 }
  | .abortBinding binding => { h with manager := abortBinding h.manager binding }
  | .applyWorkSummary summary => { h with manager := applyWorkSummary M h.manager summary }
  | .beginCancel teamRunId reason =>
    let outcome := beginCancel M h.manager teamRunId reason
    { manager := outcome.2
      cancelRequested := if outcome.1.isOk then teamRunId :: h.cancelRequested else h.cancelRequested }
  | .publishSnapshotUpdate coordinator =>
    { h with manager := publishSnapshotUpdate M h.manager coordinator }
  | .publishSlotWork snapshot => { h with manager := publishSlotWork M h.manager snapshot }

def noHistory : RunHistory :=
  { manager := .new, cancelRequested := [] }

def Ends (summary : RunWorkSummary) : Prop :=
  0 < summary.failedIntentCount ∨ noWork summary = true

/-- A summary finds its run alive, the first one does not end it, and none but an ending one shows
running work of a run that is being cancelled; a snapshot is published after the first summary. -/
def Obeys (h : RunHistory) : ManagerOp → Prop
  | .applyWorkSummary summary => ∀ run, h.manager.runOf summary.teamRunId = some run →
    run.status.isActive = true ∧ (run.acceptedEmitted = false → ¬ Ends summary) ∧
      (run.status = .cancelling → 0 < summary.runningBatchCount → Ends summary)
  | .publishSnapshotUpdate _ => ∀ run, h.manager.run = some run →
    run.status = .accepted ∨ run.status = .running → run.acceptedEmitted = true
  | _ => True

/-- The events of a run on record: none before it is announced, and afterwards its progress and the
event of its terminal status. -/
def Recorded (events : List TeamRunEvent) (run : TeamRunRecord) : Prop :=
  if run.acceptedEmitted = true then
    ∃ middle, (∀ e ∈ middle, e = .started ∨ e = .updated) ∧
      events = .accepted :: (middle ++ run.status.terminalEvent.toList)
  else events = [] ∧ run.status.isActive = true

lemma terminalEvent_isTerminal {s : TeamRunStatus} (h : s.terminalEvent = some e) :
    e.isTerminal = true := by
  cases s <;> cases h <;> rfl

lemma terminalEvent_of_isActive {s : TeamRunStatus} : s.terminalEvent = none ↔ s.isActive = true := by
  cases s <;> decide

lemma Recorded.word (r : Recorded events run) : RunWord events := by
  unfold Recorded at r
  split_ifs at r with emitted
  · obtain ⟨middle, progress, rfl⟩ := r
    exact .inr ⟨middle, _, rfl, progress, fun e he => terminalEvent_isTerminal he⟩
  · exact .inl r.1

lemma Recorded.announced (r : Recorded events run) (ended : run.status.terminalEvent = some e) :
    events.count e = 1 := by
  have term := terminalEvent_isTerminal ended
  unfold Recorded at r
  split_ifs at r with emitted
  · obtain ⟨middle, progress, rfl⟩ := r
    have out : e ∉ middle := by
      intro mem
      rcases progress e mem with rfl | rfl <;> cases term
    have head : TeamRunEvent.accepted ≠ e := by
      rintro rfl
      cases term
    rw [ended, List.count_cons_of_ne head, List.count_append, List.count_eq_zero_of_not_mem out]
    simp
  · rw [terminalEvent_of_isActive.mpr r.2] at ended
    cases ended

def Issued (M : TeamRunManager) (m : ManagerState) (id : String) : Prop :=
  ∃ n < m.ticks, id = M.generateId n

lemma not_issued : ¬ Issued M m (M.generateId m.ticks) := by
  rintro ⟨n, hn, e⟩
  have same := M.generateId_injective e
  omega

lemma Issued.mono {m' : ManagerState} {id : String} (h : Issued M m id) (ticks : m.ticks ≤ m'.ticks) :
    Issued M m' id := by
  obtain ⟨n, hn, e⟩ := h
  exact ⟨n, hn.trans_le ticks, e⟩

def CancelShows (h : RunHistory) (run : TeamRunRecord) : Prop :=
  (run.teamRunId ∈ h.cancelRequested →
    run.status = .cancelling ∨ run.status = .cancelled ∨ run.status = .failed) ∧
  (run.status = .cancelling → run.teamRunId ∈ h.cancelRequested)

lemma CancelShows.cancelling (shows : CancelShows h run) (alive : run.status.isActive = true)
    (requested : run.teamRunId ∈ h.cancelRequested) : run.status = .cancelling := by
  rcases shows.1 requested with was | was | was
  · exact was
  · rw [was] at alive
    cases alive
  · rw [was] at alive
    cases alive

/-- The invariant of the histories that have kept the protocol. -/
structure Settled (M : TeamRunManager) (h : RunHistory) : Prop where
  words : ∀ id, RunWord (eventsOf h.manager.published id)
  recorded : ∀ run, h.manager.run = some run →
    Recorded (eventsOf h.manager.published run.teamRunId) run ∧ CancelShows h run ∧
      run.summary.isSome = run.acceptedEmitted ∧ Issued M h.manager run.teamRunId
  issued : ∀ id, eventsOf h.manager.published id ≠ [] ∨ id ∈ h.cancelRequested →
    Issued M h.manager id

lemma Settled.protocol (q : Settled M h) : Protocol h where
  cancel run hr := (q.recorded run hr).2.1.1
  word := q.words
  announced run _ hr := (q.recorded run hr).1.announced

lemma eventsOf_broadcast {payload : TeamRunPayload} {id : String} :
    eventsOf (m.broadcast (.teamRun e payload)).published id =
      eventsOf m.published id ++ if payload.teamRunId = id then [e] else [] := by
  simp only [ManagerState.broadcast, eventsOf, List.filterMap_append]
  congr 1
  by_cases same : payload.teamRunId = id <;> simp [same]

lemma Settled.noHistory : Settled M noHistory where
  words _ := .inl rfl
  recorded _ := nofun
  issued id h := by
    rcases h with h | h
    · exact absurd rfl h
    · cases h

lemma Settled.update {w : List TeamRunEvent} (q : Settled M h) (hr : h.manager.run = some run)
    (hr' : h'.manager.run = some run') (id : run'.teamRunId = run.teamRunId)
    (events : ∀ id, eventsOf h'.manager.published id =
      eventsOf h.manager.published id ++ if run.teamRunId = id then w else [])
    (ticks : h.manager.ticks ≤ h'.manager.ticks)
    (requested : ∀ id ∈ h'.cancelRequested, id ∈ h.cancelRequested ∨ id = run.teamRunId)
    (record : Recorded (eventsOf h.manager.published run.teamRunId ++ w) run')
    (cancel : CancelShows h' run') (summary : run'.summary.isSome = run'.acceptedEmitted) :
    Settled M h' := by
  have mono : ∀ id, Issued M h.manager id → Issued M h'.manager id := fun id known => known.mono ticks
  have own : Issued M h.manager run.teamRunId := (q.recorded run hr).2.2.2
  have record' : Recorded (eventsOf h'.manager.published run'.teamRunId) run' := by
    rw [id, events, if_pos rfl]
    exact record
  refine ⟨fun i => ?_, fun r hr'' => ?_, fun i hi => ?_⟩
  · by_cases same : run.teamRunId = i
    · rw [← same, ← id]
      exact record'.word
    · rw [events, if_neg same, List.append_nil]
      exact q.words i
  · rw [hr'] at hr''
    cases hr''
    exact ⟨record', cancel, summary, id ▸ mono _ own⟩
  · by_cases same : run.teamRunId = i
    · exact same ▸ mono _ own
    · rw [events, if_neg same, List.append_nil] at hi
      rcases hi with hi | hi
      · exact mono i (q.issued i (.inl hi))
      · rcases requested i hi with hi | rfl
        · exact mono i (q.issued i (.inr hi))
        · exact absurd rfl same

lemma Settled.forget (q : Settled M h) : Settled M { h with manager := { h.manager with run := none } } where
  words := q.words
  recorded _ := nofun
  issued := q.issued

lemma Settled.open {source : TeamRunSource} {slotId : String} {role : TeamRunTargetRole}
    (q : Settled M h) :
    Settled M { h with
      manager := h.manager.tick.setRun (openedRun (M.generateId h.manager.ticks) source slotId role) } := by
  have mono : ∀ id, Issued M h.manager id → Issued M h.manager.tick id := fun id known =>
    known.mono (Nat.le_succ _)
  refine ⟨q.words, fun run hr => ?_, fun id hi => mono id (q.issued id hi)⟩
  cases hr
  have silent : eventsOf h.manager.published (M.generateId h.manager.ticks) = [] := by
    by_contra some
    exact not_issued (q.issued _ (.inl some))
  refine ⟨⟨silent, rfl⟩, ⟨fun requested => ?_, nofun⟩, rfl, _, Nat.lt_succ_self _, rfl⟩
  exact absurd (q.issued _ (.inr requested)) not_issued

lemma attachOrOpen_cases (M : TeamRunManager) (m : ManagerState) (source : TeamRunSource)
    (intervention : Bool) (slotId : String) (role : TeamRunTargetRole) :
    (∃ run, m.run = some run ∧ run.isActive = true ∧
      (attachOrOpen M m source intervention slotId role).1.teamRunId = some run.teamRunId ∧
      (attachOrOpen M m source intervention slotId role).2 =
        m.setRun { run with hasUserIntervention := run.hasUserIntervention || intervention }) ∨
    ((attachOrOpen M m source intervention slotId role).1.teamRunId = some (M.generateId m.ticks) ∧
      (attachOrOpen M m source intervention slotId role).2 =
        m.tick.setRun (openedRun (M.generateId m.ticks) source slotId role)) := by
  unfold attachOrOpen
  cases active : m.activeRun with
  | none => exact .inr ⟨rfl, rfl⟩
  | some run =>
    obtain ⟨hr, act⟩ := Option.filter_eq_some_iff.mp active
    exact .inl ⟨run, hr, act, rfl, rfl⟩

lemma bindEnqueue_cases (M : TeamRunManager) (m : ManagerState) (request : EnqueueRequest) :
    (((bindEnqueue M m request).1.teamRunId = none ∨
      (bindEnqueue M m request).1.teamRunId = currentActiveRunId m) ∧
        (bindEnqueue M m request).2 = m) ∨
    ∃ source intervention, bindEnqueue M m request =
      attachOrOpen M m source intervention request.slotId request.role := by
  unfold bindEnqueue
  cases request.binding with
  | userVisible => exact .inr ⟨_, _, rfl⟩
  | inheritRunningBatch callerSlotId => exact .inl ⟨.inl rfl, rfl⟩
  | activeRunOrBackground => exact .inl ⟨.inr rfl, rfl⟩
  | background => exact .inl ⟨.inl rfl, rfl⟩
  | systemInitiated inheritFrom => exact .inr ⟨_, _, rfl⟩

lemma Settled.attachOrOpen (q : Settled M h) {source : TeamRunSource} {intervention : Bool}
    {slotId : String} {role : TeamRunTargetRole} :
    Settled M { h with manager := (attachOrOpen M h.manager source intervention slotId role).2 } := by
  rcases attachOrOpen_cases M h.manager source intervention slotId role with
    ⟨run, hr, _, _, e⟩ | ⟨_, e⟩
  · obtain ⟨record, cancel, summary, _⟩ := q.recorded run hr
    rw [e]
    refine q.update (w := []) hr rfl rfl (fun id => ?_) (le_refl _) (fun id hi => .inl hi) ?_ cancel summary
    · rw [ite_self, List.append_nil]
      rfl
    · rw [List.append_nil]
      exact record
  · rw [e]
    exact q.open

lemma absorbing_attachOrOpen (q : Settled M h) {source : TeamRunSource} {intervention : Bool}
    {slotId : String} {role : TeamRunTargetRole} :
    Absorbing h
      { h with manager := (TeamRunManager.attachOrOpen M h.manager source intervention slotId role).2 } := by
  intro run run' hr hr' id _
  rcases attachOrOpen_cases M h.manager source intervention slotId role with
    ⟨r, hr0, _, _, e⟩ | ⟨_, e⟩
  · rw [show (TeamRunManager.attachOrOpen M h.manager source intervention slotId role).2 = _ from e] at hr'
    rw [hr] at hr0
    cases hr0
    cases hr'
    rfl
  · rw [show (TeamRunManager.attachOrOpen M h.manager source intervention slotId role).2 = _ from e] at hr'
    cases hr'
    have issued := (q.recorded run hr).2.2.2
    rw [← id] at issued
    exact absurd issued not_issued

lemma summarized_status {now : Int} :
    (summarized now run summary).status =
      if 0 < summary.failedIntentCount then .failed
      else if noWork summary = true then
        if run.status = .cancelling then .cancelled else .completed
      else if 0 < summary.runningBatchCount then .running
      else run.status := by
  simp only [summarized, apply_ite TeamRunRecord.status]

lemma summarized_keeps (now : Int) (run : TeamRunRecord) (summary : RunWorkSummary) :
    (summarized now run summary).teamRunId = run.teamRunId ∧
      (summarized now run summary).summary = some summary := by
  unfold summarized
  split_ifs <;> exact ⟨rfl, rfl⟩

lemma applyWorkSummary_cases (M : TeamRunManager) (m : ManagerState) (summary : RunWorkSummary) :
    (m.runOf summary.teamRunId = none ∧ applyWorkSummary M m summary = m) ∨
    ∃ run run', m.run = some run ∧ run.teamRunId = summary.teamRunId ∧
      m.runOf summary.teamRunId = some run ∧
      run' = { summarized (M.nowMs m.ticks) run summary with acceptedEmitted := true } ∧
      (applyWorkSummary M m summary).run = some run' ∧
      (applyWorkSummary M m summary).ticks = m.ticks + 1 ∧
      ∀ id, eventsOf (applyWorkSummary M m summary).published id = eventsOf m.published id ++
        if run.teamRunId = id then [eventOf run.acceptedEmitted run.status run'.status] else [] := by
  unfold applyWorkSummary
  cases own : m.runOf summary.teamRunId with
  | none => exact .inl ⟨rfl, rfl⟩
  | some run =>
    obtain ⟨hr, same⟩ := Option.filter_eq_some_iff.mp own
    refine .inr ⟨run, _, hr, of_decide_eq_true same, rfl, rfl, rfl, rfl, fun id => ?_⟩
    rw [eventsOf_broadcast]
    have e : (payloadLocked M (M.nowMs m.ticks)
        { summarized (M.nowMs m.ticks) run summary with acceptedEmitted := true } summary).teamRunId =
        run.teamRunId := (summarized_keeps _ _ _).1
    rw [e]
    rfl

lemma eventOf_alive {previous : TeamRunStatus} (status : TeamRunStatus)
    (alive : previous.isActive = true) :
    (status.terminalEvent = none ∧ (eventOf true previous status = .started ∨
      eventOf true previous status = .updated)) ∨
    status.terminalEvent = some (eventOf true previous status) := by
  revert alive
  cases previous <;> cases status <;> decide

lemma Recorded.advance (record : Recorded events run) (run' : TeamRunRecord)
    (alive : run.status.isActive = true)
    (first : run.acceptedEmitted = false → run'.status.isActive = true)
    (emitted' : run'.acceptedEmitted = true) :
    Recorded (events ++ [eventOf run.acceptedEmitted run.status run'.status]) run' := by
  unfold Recorded at record ⊢
  rw [if_pos emitted']
  cases emitted : run.acceptedEmitted with
  | false =>
    rw [emitted, if_neg Bool.false_ne_true] at record
    have goes := terminalEvent_of_isActive.mpr (first emitted)
    exact ⟨[], nofun, by rw [record.1, goes]; rfl⟩
  | true =>
    rw [emitted, if_pos rfl] at record
    obtain ⟨middle, progress, word⟩ := record
    rw [terminalEvent_of_isActive.mpr alive, Option.toList_none, List.append_nil] at word
    rw [word]
    rcases eventOf_alive run'.status alive with ⟨goes, step⟩ | ended
    · refine ⟨middle ++ [eventOf true run.status run'.status], fun e mem => ?_, by rw [goes]; simp⟩
      rcases List.mem_append.mp mem with mem | mem
      · exact progress e mem
      · rw [List.mem_singleton.mp mem]
        exact step
    · exact ⟨middle, progress, by rw [ended]; rfl⟩

lemma isActive_summarized {now : Int} (on : ¬ Ends summary) (alive : run.status.isActive = true) :
    (summarized now run summary).status.isActive = true := by
  rw [summarized_status, if_neg fun f => on (.inl f), if_neg fun n => on (.inr n)]
  split_ifs
  · rfl
  · exact alive

lemma cancelling_summarized {now : Int} (was : run.status = .cancelling)
    (on : 0 < summary.runningBatchCount → Ends summary) :
    (summarized now run summary).status = .cancelling ∨
      (summarized now run summary).status = .cancelled ∨
      (summarized now run summary).status = .failed := by
  rw [summarized_status, was, if_pos rfl]
  split_ifs with failed idle works
  · exact .inr (.inr rfl)
  · exact .inr (.inl rfl)
  · exact absurd (on works) (not_or.mpr ⟨failed, idle⟩)
  · exact .inl rfl

lemma cancelling_of_summarized {now : Int} (h : (summarized now run summary).status = .cancelling) :
    run.status = .cancelling := by
  rw [summarized_status] at h
  split_ifs at h
  exact h

lemma Settled.applyWorkSummary (q : Settled M h) (obeys : Obeys h (.applyWorkSummary summary)) :
    Settled M (perform M h (.applyWorkSummary summary)) := by
  rcases applyWorkSummary_cases M h.manager summary with
    ⟨_, e⟩ | ⟨run, run', hr, _, own, rfl, hr', ticks, events⟩
  · rw [show perform M h (.applyWorkSummary summary) = h from congrArg (RunHistory.mk · _) e]
    exact q
  · obtain ⟨alive, first, cancelling⟩ := obeys run own
    obtain ⟨record, shows, _, _⟩ := q.recorded run hr
    obtain ⟨id, known⟩ :=
      summarized_keeps (M.nowMs h.manager.ticks) run summary
    have later : h.manager.ticks ≤ (TeamRunManager.applyWorkSummary M h.manager summary).ticks := by
      rw [ticks]
      omega
    refine q.update hr hr' id events later (fun id hi => .inl hi) ?_ ⟨fun req => ?_, fun canc => ?_⟩ ?_
    · exact record.advance _ alive (fun e => isActive_summarized (first e) alive) rfl
    · have was := shows.cancelling alive (id ▸ req)
      exact cancelling_summarized was (cancelling was)
    · exact id ▸ shows.2 (cancelling_of_summarized canc)
    · show (summarized (M.nowMs h.manager.ticks) run summary).summary.isSome = true
      rw [known]
      rfl

lemma beginCancel_cases (M : TeamRunManager) (m : ManagerState) (teamRunId : String)
    (reason : Option String) :
    ((beginCancel M m teamRunId reason).1.isOk = false ∧ (beginCancel M m teamRunId reason).2 = m) ∨
    ∃ run, m.run = some run ∧ run.teamRunId = teamRunId ∧ run.isActive = true ∧
      (beginCancel M m teamRunId reason).1.isOk = true ∧
      (beginCancel M m teamRunId reason).2.run = some (cancelledRun run reason) ∧
      m.ticks ≤ (beginCancel M m teamRunId reason).2.ticks ∧
      ∀ id, eventsOf (beginCancel M m teamRunId reason).2.published id = eventsOf m.published id ++
        if run.teamRunId = id then (if run.summary.isSome then [.updated] else []) else [] := by
  unfold beginCancel
  cases own : m.run.filter fun run => run.teamRunId = teamRunId ∧ run.isActive with
  | none => exact .inl ⟨rfl, rfl⟩
  | some run =>
    obtain ⟨hr, same⟩ := Option.filter_eq_some_iff.mp own
    obtain ⟨id, alive⟩ := of_decide_eq_true same
    refine .inr ⟨run, hr, id, alive, ?_⟩
    cases summary : run.summary with
    | none =>
      simp only [cancelledRun, summary]
      refine ⟨rfl, rfl, le_refl _, fun id => ?_⟩
      simp [ManagerState.setRun]
    | some summary =>
      simp only [cancelledRun, summary]
      refine ⟨rfl, rfl, Nat.le_succ _, fun id => ?_⟩
      rw [eventsOf_broadcast]
      rfl

lemma Settled.beginCancel {teamRunId : String} {reason : Option String} (q : Settled M h) :
    Settled M (perform M h (.beginCancel teamRunId reason)) := by
  rcases beginCancel_cases M h.manager teamRunId reason with
    ⟨refused, e⟩ | ⟨run, hr, rfl, alive, ok, hr', ticks, events⟩
  · have same : perform M h (.beginCancel teamRunId reason) = h := by
      simp only [perform, refused, e]
      rfl
    rw [same]
    exact q
  · obtain ⟨record, shows, summary, _⟩ := q.recorded run hr
    have requested : (perform M h (.beginCancel run.teamRunId reason)).cancelRequested =
        run.teamRunId :: h.cancelRequested := by
      simp only [perform, ok, if_true]
    refine q.update hr hr' rfl events ticks (fun id hi => ?_) ?_ ⟨fun _ => .inl rfl, fun _ => ?_⟩ summary
    · rw [requested] at hi
      rcases List.mem_cons.mp hi with rfl | hi
      · exact .inr rfl
      · exact .inl hi
    · -- The update follows the announcement, if there was one.
      rw [summary]
      cases emitted : run.acceptedEmitted with
      | false =>
        unfold Recorded at record ⊢
        rw [emitted, if_neg Bool.false_ne_true] at record
        rw [if_neg (by simp [cancelledRun, emitted]), record.1]
        exact ⟨rfl, rfl⟩
      | true =>
        have step := record.advance (cancelledRun run reason) alive (fun _ => rfl) emitted
        rw [emitted] at step
        exact step
    · rw [requested]
      exact List.mem_cons_self

lemma Settled.publishSlotWork {snapshot : SlotWorkSnapshot} (q : Settled M h) :
    Settled M (perform M h (.publishSlotWork snapshot)) := by
  have events : ∀ id, eventsOf (perform M h (.publishSlotWork snapshot)).manager.published id =
      eventsOf h.manager.published id := fun id => by
    simp [perform, TeamRunManager.publishSlotWork, ManagerState.broadcast, ManagerState.tick, eventsOf]
  have mono : ∀ id, Issued M h.manager id →
      Issued M (perform M h (.publishSlotWork snapshot)).manager id := fun id known =>
    known.mono (Nat.le_succ _)
  refine ⟨fun id => ?_, fun run hr => ?_, fun id hi => ?_⟩
  · rw [events]
    exact q.words id
  · obtain ⟨record, shows, summary, issued⟩ := q.recorded run hr
    rw [events]
    exact ⟨record, shows, summary, mono _ issued⟩
  · rw [events] at hi
    exact mono id (q.issued id hi)

lemma publishSnapshotUpdate_cases (M : TeamRunManager) (m : ManagerState)
    (coordinator : CoordinatorSnapshot) :
    ((∀ run, m.run = some run → ¬ (run.status = .accepted ∨ run.status = .running)) ∧
      publishSnapshotUpdate M m coordinator = m) ∨
    ∃ run, m.run = some run ∧ (run.status = .accepted ∨ run.status = .running) ∧
      (publishSnapshotUpdate M m coordinator).run = some run ∧
      (publishSnapshotUpdate M m coordinator).ticks = m.ticks + 1 ∧
      ∀ id, eventsOf (publishSnapshotUpdate M m coordinator).published id =
        eventsOf m.published id ++ if run.teamRunId = id then [.updated] else [] := by
  unfold publishSnapshotUpdate currentPayload
  cases hr : m.run with
  | none =>
    refine .inl ⟨fun run h => ?_, rfl⟩
    cases h
  | some run =>
    simp only [Option.map_some, payloadLocked]
    split_ifs with open_
    · refine .inr ⟨run, rfl, open_, hr, rfl, fun id => ?_⟩
      rw [eventsOf_broadcast]
      rfl
    · refine .inl ⟨?_, rfl⟩
      rintro _ ⟨⟩
      exact open_

lemma Settled.publishSnapshotUpdate {coordinator : CoordinatorSnapshot} (q : Settled M h)
    (obeys : Obeys h (.publishSnapshotUpdate coordinator)) :
    Settled M (perform M h (.publishSnapshotUpdate coordinator)) := by
  rcases publishSnapshotUpdate_cases M h.manager coordinator with
    ⟨_, e⟩ | ⟨run, hr, status, hr', ticks, events⟩
  · rw [show perform M h (.publishSnapshotUpdate coordinator) = h from congrArg (RunHistory.mk · _) e]
    exact q
  · obtain ⟨record, shows, summary, _⟩ := q.recorded run hr
    have emitted := obeys run hr status
    have alive : run.status.isActive = true := by
      rcases status with e | e <;> rw [e] <;> rfl
    have later : h.manager.ticks ≤ (TeamRunManager.publishSnapshotUpdate M h.manager coordinator).ticks := by
      rw [ticks]
      omega
    refine q.update hr hr' rfl events later (fun id hi => .inl hi) ?_ shows summary
    have step := record.advance run alive (fun _ => alive) emitted
    have update : eventOf run.acceptedEmitted run.status run.status = .updated := by
      rw [emitted]
      rcases status with e | e <;> rw [e] <;> rfl
    rw [update] at step
    exact step

lemma Settled.perform (q : Settled M h) (obeys : Obeys h op) : Settled M (perform M h op) := by
  cases op with
  | bindEnqueue request =>
    rcases bindEnqueue_cases M h.manager request with ⟨_, e⟩ | ⟨source, intervention, e⟩
    · rw [show perform M h (.bindEnqueue request) = h from congrArg (RunHistory.mk · _) e]
      exact q
    · rw [show perform M h (.bindEnqueue request) = _ from
        congrArg (fun outcome => RunHistory.mk (Prod.snd outcome) _) e]
      exact q.attachOrOpen
  | bindSystemEnqueue request => exact q.attachOrOpen
  | abortBinding binding =>
    unfold TeamRunManager.perform TeamRunManager.abortBinding
    dsimp only
    split_ifs
    · exact q.forget
    · exact q
  | applyWorkSummary summary => exact q.applyWorkSummary obeys
  | beginCancel teamRunId reason => exact q.beginCancel
  | publishSnapshotUpdate coordinator => exact q.publishSnapshotUpdate obeys
  | publishSlotWork snapshot => exact q.publishSlotWork

lemma absorbing_of_eq (e : h'.manager.run = h.manager.run) : Absorbing h h' := by
  intro run run' hr hr' _ _
  rw [e, hr] at hr'
  cases hr'
  rfl

lemma absorbing_perform (q : Settled M h) (obeys : Obeys h op) : Absorbing h (perform M h op) := by
  cases op with
  | bindEnqueue request =>
    rcases bindEnqueue_cases M h.manager request with ⟨_, e⟩ | ⟨source, intervention, e⟩
    · exact absorbing_of_eq (congrArg ManagerState.run e)
    · rw [show perform M h (.bindEnqueue request) = _ from
        congrArg (fun outcome => RunHistory.mk (Prod.snd outcome) _) e]
      exact absorbing_attachOrOpen q
  | bindSystemEnqueue request => exact absorbing_attachOrOpen q
  | abortBinding binding =>
    unfold perform abortBinding
    dsimp only
    split_ifs
    · intro run run' _ hr'
      cases hr'
    · exact absorbing_of_eq rfl
  | applyWorkSummary summary =>
    rcases applyWorkSummary_cases M h.manager summary with ⟨_, e⟩ | ⟨run, _, hr, _, own, _⟩
    · exact absorbing_of_eq (congrArg ManagerState.run e)
    · intro run0 run' hr0 _ _ ended
      rw [hr] at hr0
      cases hr0
      rw [(obeys run own).1] at ended
      cases ended
  | beginCancel teamRunId reason =>
    rcases beginCancel_cases M h.manager teamRunId reason with ⟨_, e⟩ | ⟨run, hr, _, alive, _⟩
    · exact absorbing_of_eq (congrArg ManagerState.run e)
    · intro run0 run' hr0 _ _ ended
      rw [hr] at hr0
      cases hr0
      rw [show run.status.isActive = true from alive] at ended
      cases ended
  | publishSnapshotUpdate coordinator =>
    rcases publishSnapshotUpdate_cases M h.manager coordinator with ⟨_, e⟩ | ⟨run, hr, _, hr', _⟩
    · exact absorbing_of_eq (congrArg ManagerState.run e)
    · exact absorbing_of_eq (hr'.trans hr.symm)
  | publishSlotWork snapshot => exact absorbing_of_eq rfl

lemma terminalEvent_of_ends (now : Int) (run : TeamRunRecord) (ends : Ends summary) :
    ∃ e, (summarized now run summary).status.terminalEvent = some e := by
  rw [summarized_status]
  rcases ends with failed | idle
  · rw [if_pos failed]
    exact ⟨_, rfl⟩
  · rw [if_pos idle]
    split_ifs <;> exact ⟨_, rfl⟩

/-- A summary that keeps the protocol obeys it. -/
lemma obeys_summary_of_keeps (q : Settled M h)
    (keeps : KeepsProtocol h (perform M h (.applyWorkSummary summary))) :
    Obeys h (.applyWorkSummary summary) := by
  intro run own
  rcases applyWorkSummary_cases M h.manager summary with
    ⟨gone, _⟩ | ⟨run0, run', hr, _, own0, rfl, hr', _, events⟩
  · rw [gone] at own
    cases own
  rw [own0] at own
  cases own
  obtain ⟨record, shows, _, _⟩ := q.recorded run hr
  have id := (summarized_keeps (M.nowMs h.manager.ticks) run summary).1
  have after := events run.teamRunId
  rw [if_pos rfl] at after
  refine ⟨?_, fun silent ends => ?_, fun canc works => ?_⟩
  · -- An event after the terminal one is not part of a word.
    by_contra ended
    unfold Recorded at record
    split_ifs at record with emitted
    · obtain ⟨middle, _, word⟩ := record
      cases term : run.status.terminalEvent with
      | none => exact ended (terminalEvent_of_isActive.mp term)
      | some t =>
        have w := keeps.2.word run.teamRunId
        rw [show eventsOf (perform M h (.applyWorkSummary summary)).manager.published run.teamRunId = _
          from after, word, term, Option.toList_some, ← List.cons_append, List.append_assoc] at w
        have last : t.isTerminal = false := w.last
        rw [terminalEvent_isTerminal term] at last
        cases last
    · exact ended record.2
  · -- The announcement takes the place of the terminal event.
    unfold Recorded at record
    rw [if_neg (by rw [silent]; exact Bool.false_ne_true)] at record
    obtain ⟨e, ended⟩ := terminalEvent_of_ends (M.nowMs h.manager.ticks) run ends
    have once := keeps.2.announced _ e hr' ended
    rw [show (summarized (M.nowMs h.manager.ticks) run summary).teamRunId = _ from id,
      show eventsOf (perform M h (.applyWorkSummary summary)).manager.published run.teamRunId = _ from after,
      record.1, silent] at once
    have head : TeamRunEvent.accepted ≠ e := by
      rintro rfl
      cases terminalEvent_isTerminal ended
    simp [eventOf, head] at once
  · -- Running work reopens the run.
    by_contra on
    have requested : run.teamRunId ∈ h.cancelRequested := shows.2 canc
    have status := keeps.2.cancel _ hr'
    have runs : (summarized (M.nowMs h.manager.ticks) run summary).status = .running := by
      rw [summarized_status, if_neg fun f => on (.inl f), if_neg fun n => on (.inr n), if_pos works]
    simp only [runs, id] at status
    simpa using status requested

lemma obeys_snapshot_of_keeps {coordinator : CoordinatorSnapshot} (q : Settled M h)
    (keeps : KeepsProtocol h (perform M h (.publishSnapshotUpdate coordinator))) :
    Obeys h (.publishSnapshotUpdate coordinator) := by
  intro run hr status
  rcases publishSnapshotUpdate_cases M h.manager coordinator with
    ⟨closed, _⟩ | ⟨run0, hr0, _, _, _, events⟩
  · exact absurd status (closed run hr)
  · rw [hr] at hr0
    cases hr0
    have record := (q.recorded run hr).1
    by_contra silent
    unfold Recorded at record
    rw [if_neg silent] at record
    have w := keeps.2.word run.teamRunId
    have after := events run.teamRunId
    rw [if_pos rfl, record.1, List.nil_append] at after
    rw [show eventsOf (perform M h (.publishSnapshotUpdate coordinator)).manager.published
      run.teamRunId = _ from after] at w
    cases w.first

lemma obeys_of_keeps (q : Settled M h) (keeps : KeepsProtocol h (perform M h op)) : Obeys h op := by
  cases op with
  | applyWorkSummary summary => exact obeys_summary_of_keeps q keeps
  | publishSnapshotUpdate coordinator => exact obeys_snapshot_of_keeps q keeps
  | _ => exact trivial

/-- The operations of a run of the manager keep the protocol exactly if each obeys it. -/
theorem protocol_iff (M : TeamRunManager) (ops : List ManagerOp) :
    LTS.EnabledAll (fun h op => KeepsProtocol h (perform M h op)) (perform M) noHistory ops ↔
      LTS.EnabledAll Obeys (perform M) noHistory ops := by
  apply LTS.enabledAll_iff (Q := Settled M) ?_ .noHistory
  intro h op q
  refine ⟨⟨obeys_of_keeps q, fun obeys => ?_⟩, fun obeys => q.perform obeys⟩
  exact ⟨absorbing_perform q obeys, (q.perform obeys).protocol⟩

lemma protocol_of_keeps {ops : List ManagerOp}
    (keeps : LTS.EnabledAll (fun h op => KeepsProtocol h (perform M h op)) (perform M) h ops)
    (protocol : Protocol h) : Protocol (ops.foldl (perform M) h) := by
  induction ops generalizing h with
  | nil => exact protocol
  | cons op ops ih => exact ih keeps.2 keeps.1.2

/-- A manager to compute with: its ids are "run" and "run" with strokes. -/
def runs : TeamRunManager where
  teamId := "team"
  generateId n := String.ofList ("run".toList ++ List.replicate n '|')
  generateId_injective m n h := by
    have chars := congrArg String.toList h
    simpa using congrArg List.length chars
  nowMs n := n

def summaryAfter (ops : List Op) : RunWorkSummary :=
  SlotWorkCoordinator.runSummaryLocked
    (ops.foldl (SlotWorkCoordinator.track .strokes) SlotWorkCoordinator.initial).state "run"

def startedTurn : List Op :=
  SlotWorkCoordinator.userTurn ++ [.markStarted SlotWorkCoordinator.userBatch "turn"]

/-- The user cancels the run between the claim of the turn and its start. -/
def cancelRace : List ManagerOp :=
  [.bindEnqueue { slotId := "lead", role := .lead, source := .userMessage, binding := .userVisible },
    .applyWorkSummary (summaryAfter (startedTurn.take 3)),
    .applyWorkSummary (summaryAfter (startedTurn.take 4)),
    .beginCancel "run" none,
    .applyWorkSummary (summaryAfter startedTurn)]

def cancelRaced : RunHistory :=
  cancelRace.foldl (perform runs) noHistory

/-- The start of the turn, which the coordinator reports, reopens the run that is being cancelled. -/
theorem cancelRace_reopened :
    .applyWorkSummary (summaryAfter startedTurn) ∈ (SlotWorkCoordinator.exec .strokes
      ((startedTurn.take 4).foldl (SlotWorkCoordinator.track .strokes) SlotWorkCoordinator.initial).state
      (.markStarted SlotWorkCoordinator.userBatch "turn")).2 ∧
    cancelRaced.manager.run.map (·.status) = some .running ∧ "run" ∈ cancelRaced.cancelRequested ∧
    ¬ LTS.EnabledAll (fun h op => KeepsProtocol h (perform runs h op)) (perform runs) noHistory
      cancelRace := by
  refine ⟨by decide, by decide, by decide, fun keeps => ?_⟩
  have protocol : Protocol cancelRaced := protocol_of_keeps keeps (Settled.noHistory (M := runs)).protocol
  have reopened : ∃ run, cancelRaced.manager.run = some run ∧ run.status = .running ∧
      run.teamRunId ∈ cancelRaced.cancelRequested := ⟨_, rfl, by decide, by decide⟩
  obtain ⟨run, hr, status, requested⟩ := reopened
  have shows := protocol.cancel run hr requested
  rw [status] at shows
  simp at shows

end TeamRunManager

end KiCore.Team

import KiCore.Team.Coordinator.MessageOwner

/-!
# Late starts

A turn may be launched for a batch that is retired before `mark_started` is called for it.
`mark_started` then asks whether every intent of the batch was cancelled, and answers
`CancelImmediately` if so and `StaleOwner` if not; the event loop cancels the turn in the first case
only. `lateStart_iff` says for which retirements the turn is cancelled: for all but a failed runtime
constraint, which never cancels an intent, and a cancelled run that the batch does not belong to as a
whole, for `cancel_run` puts the intents of other runs back into the queue.
-/

namespace KiCore.Team

open KiCore.Lib

namespace SlotWorkCoordinator

variable {c : SlotWorkCoordinator} {st st' : CoordinatorState} {σ σ' : Tracked} {s k : String}
  {i i' : WorkIntent} {op : Op} {batch b : WorkBatch} {a : ActiveBatch} {teamRunId : String}

/-- The operations that retire a batch before its turn has started. -/
def Retires : Op → Prop
  | .cancelRun _ | .cancelBatch _ _ | .interruptBatch _ _ _ | .setRuntimeConstraint _ (.failed _ _)
  | .removeSlot _ | .stop => True
  | _ => False

def CancelsAll (state : CoordinatorState) (batch : WorkBatch) : Op → Prop
  | .cancelRun teamRunId => ∀ k ∈ batch.intentIds,
      (state.intents[k]?).bind (·.teamRunId) = some teamRunId
  | .setRuntimeConstraint _ _ => False
  | _ => True

/-- What cancelling a run does to an intent: nothing, or it is cancelled if it is of the run and
queued if it is not. -/
def RunVerdict (teamRunId : String) (i i' : WorkIntent) : Prop :=
  i'.ticket = i.ticket ∧
    (i'.state = i.state ∨
      (i.teamRunId = some teamRunId ∧ i'.state = .cancelled "run_cancelled") ∨
      (i.teamRunId ≠ some teamRunId ∧ i'.state = .queued))

lemma RunVerdict.refl : RunVerdict teamRunId i i :=
  ⟨rfl, .inl rfl⟩

lemma RunVerdict.trans {i'' : WorkIntent} (x : RunVerdict teamRunId i i')
    (y : RunVerdict teamRunId i' i'') : RunVerdict teamRunId i i'' := by
  obtain ⟨e, x⟩ := x
  obtain ⟨e', y⟩ := y
  have run : i'.teamRunId = i.teamRunId := (congrArg WorkIntent.teamRunId e :)
  refine ⟨e'.trans e, ?_⟩
  rcases y with y | y
  · rw [y]
    exact x
  · rw [run] at y
    exact .inr y

def RunVerdicts (teamRunId : String) (st st' : CoordinatorState) : Prop :=
  ∀ (k : String) (i : WorkIntent), st.intents[k]? = some i →
    ∃ i', st'.intents[k]? = some i' ∧ RunVerdict teamRunId i i'

lemma RunVerdicts.trans {st'' : CoordinatorState} (x : RunVerdicts teamRunId st st')
    (y : RunVerdicts teamRunId st' st'') : RunVerdicts teamRunId st st'' := by
  intro k i hi
  obtain ⟨i', hi', v⟩ := x k i hi
  obtain ⟨i'', hi'', w⟩ := y k i' hi'
  exact ⟨i'', hi'', v.trans w⟩

lemma dissolveBatch_verdicts : RunVerdicts teamRunId st (dissolveBatch teamRunId st s a) := by
  intro k i hi
  have h : (dissolveBatch teamRunId st s a).intents[k]? = if k ∈ a.batch.intentIds then
      st.intents[k]?.map (fun i => { i with state := runVerdict teamRunId i })
      else st.intents[k]? := CoordinatorState.intents_setStates fun _ _ => rfl
  rw [h, hi]
  split
  · refine ⟨_, rfl, rfl, .inr ?_⟩
    by_cases run : i.teamRunId = some teamRunId
    · exact .inl ⟨run, by simp [runVerdict, run]⟩
    · exact .inr ⟨run, by simp [runVerdict, run]⟩
  · exact ⟨i, rfl, .refl⟩

lemma dissolveAll_verdicts {slots : List (String × ActiveBatch)} :
    RunVerdicts teamRunId st
      (slots.foldl (fun state (slotId, active) => dissolveBatch teamRunId state slotId active) st) := by
  induction slots generalizing st with
  | nil => exact fun k i hi => ⟨i, hi, .refl⟩
  | cons x slots ih => exact dissolveBatch_verdicts.trans ih

lemma cancelQueued_verdicts (run : ∀ i, st.intents[k]? = some i → i.teamRunId = some teamRunId) :
    RunVerdicts teamRunId st (cancelQueued st k) := by
  intro k' i hi
  unfold cancelQueued
  cases hk : st.intents[k]? with
  | none => exact ⟨i, hi, .refl⟩
  | some i0 =>
    have h : ((st.setStates [k] fun _ => .cancelled "run_cancelled").modifySlot i0.slotId
        (·.removeQueued k)).intents[k']? = if k' ∈ [k] then
          st.intents[k']?.map (fun i => { i with state := .cancelled "run_cancelled" })
        else st.intents[k']? := CoordinatorState.intents_setStates fun _ _ => rfl
    rw [h, hi]
    split
    next mem =>
      obtain rfl := List.mem_singleton.mp mem
      exact ⟨_, rfl, rfl, .inr (.inl ⟨run i hi, rfl⟩)⟩
    · exact ⟨i, rfl, .refl⟩

lemma cancelAll_verdicts {ids : List String}
    (run : ∀ k ∈ ids, ∀ i, st.intents[k]? = some i → i.teamRunId = some teamRunId) :
    RunVerdicts teamRunId st (ids.foldl cancelQueued st) := by
  induction ids generalizing st with
  | nil => exact fun k i hi => ⟨i, hi, .refl⟩
  | cons k ids ih =>
    have first : RunVerdicts teamRunId st (cancelQueued st k) := cancelQueued_verdicts (run k (.head _))
    refine first.trans (ih fun k' hk' i' hi' => ?_)
    cases hi : st.intents[k']? with
    | none =>
      have gone : (cancelQueued st k).intents[k']? = none := by
        unfold cancelQueued
        cases hk : st.intents[k]? with
        | none => exact hi
        | some i0 =>
          refine (CoordinatorState.intents_setStates fun _ _ => rfl).trans ?_
          rw [hi]
          split <;> rfl
      rw [gone] at hi'
      cases hi'
    | some i =>
      obtain ⟨i'', hi'', e, _⟩ := first k' i hi
      rw [hi'] at hi''
      cases hi''
      exact (congrArg WorkIntent.teamRunId e :).trans (run k' (.tail _ hk') i hi)

lemma cancelRun_verdicts (c : SlotWorkCoordinator) (teamRunId : String)
    (pt : (board st).Partitioned) (keyed : Keyed st) :
    RunVerdicts teamRunId st (cancelRun c st teamRunId).state := by
  have keyed' : Keyed (dissolvedState st teamRunId) :=
    keyed.moves pt (dissolvedState_effect (G := fun _ _ _ => False) pt).moves fun _ _ _ h => h.elim
  have dissolved : RunVerdicts teamRunId st (dissolvedState st teamRunId) := dissolveAll_verdicts
  rw [cancelRun_state]
  refine dissolved.trans (cancelAll_verdicts fun k hk i hi => ?_)
  obtain ⟨i', hi', run, _⟩ := (mem_queuedIdsOfRun keyed').mp hk
  rw [hi] at hi'
  cases hi'
  exact run

/-- The retirement cancels the intents it takes from their batch that meet this. -/
def Cancels : Op → WorkIntent → Prop
  | .cancelRun teamRunId, i => i.teamRunId = some teamRunId
  | .setRuntimeConstraint _ _, _ => False
  | _, _ => True

lemma interruptBatch_intents {reason : Option String} {replacement : String} :
    (interruptBatch c st batch reason replacement).state.intents =
      if isCurrentBatch c st batch then
        (st.setStates batch.intentIds fun _ => .cancelled "lead_interrupted").intents
      else st.intents := by
  unfold interruptBatch
  cases isCurrentBatch c st batch <;> rfl

lemma constraintVerdict_failed {operationId : Nat} {classification : String} :
    (constraintVerdict (.failed operationId classification) classification i).isCancelled = false := by
  unfold constraintVerdict
  cases survives (.failed operationId classification) i <;> rfl

/-- A retirement leaves an intent alone, or cancels exactly the intents it is meant to cancel. -/
lemma retire_verdict (inv : Inv c σ) (ret : Retires op) (hi : σ.state.intents[k]? = some i)
    (hi' : (exec c σ.state op).1.intents[k]? = some i') :
    i'.state = i.state ∨ (i'.state.isCancelled = true ↔ Cancels op i) := by
  have pt := inv.sound.partitioned
  have keyed := inv.sound.keyed
  -- An operation that gives one cancelled state to a list of intents, or does nothing.
  have batchwise {ids : List String} {classification : String} {st' : CoordinatorState}
      (h : st'.intents = (σ.state.setStates ids fun _ => .cancelled classification).intents)
      (hi' : st'.intents[k]? = some i') : i'.state = i.state ∨ i'.state.isCancelled = true := by
    rw [h, CoordinatorState.intents_setStates fun _ _ => rfl, hi] at hi'
    split at hi'
    · cases hi'
      exact .inr rfl
    · cases hi'
      exact .inl rfl
  cases op with
  | cancelRun teamRunId =>
    obtain ⟨i2, hi2, _, v⟩ := cancelRun_verdicts c teamRunId pt keyed k i hi
    rw [show (exec c σ.state (.cancelRun teamRunId)).1.intents[k]? = _ from hi2] at hi'
    cases hi'
    rcases v with v | ⟨run, v⟩ | ⟨run, v⟩
    · exact .inl v
    · exact .inr (by simp [v, Cancels, run, WorkIntentState.isCancelled])
    · exact .inr (by simp [v, Cancels, run, WorkIntentState.isCancelled])
  | cancelBatch b classification =>
    rw [show (exec c σ.state (.cancelBatch b classification)).1 = _ from terminalizeBatch_state] at hi'
    split at hi'
    · rcases batchwise rfl hi' with h | h
      · exact .inl h
      · exact .inr (by simp [h, Cancels])
    · rw [hi] at hi'
      cases hi'
      exact .inl rfl
  | interruptBatch b reason replacement =>
    rw [show (exec c σ.state (.interruptBatch b reason replacement)).1.intents = _ from
      interruptBatch_intents] at hi'
    split at hi'
    · rcases batchwise rfl hi' with h | h
      · exact .inl h
      · exact .inr (by simp [h, Cancels])
    · rw [hi] at hi'
      cases hi'
      exact .inl rfl
  | setRuntimeConstraint s constraint =>
    cases constraint with
    | failed operationId classification =>
      have keyed' : Keyed (constrainedState σ.state s (.failed operationId classification)) := keyed
      have ended : (exec c σ.state (.setRuntimeConstraint s (.failed operationId classification))).1 =
          endSlotWork (c.hashOrder σ.state.ticks)
            (constrainedState σ.state s (.failed operationId classification)) s
            (.failed operationId classification) classification := rfl
      rw [ended, intents_endSlotWork keyed', show (constrainedState σ.state s _).intents[k]? = _ from hi] at hi'
      cases hi'
      dsimp only
      split
      · refine .inr ⟨fun h => ?_, fun h => h.elim⟩
        rw [constraintVerdict_failed] at h
        cases h
      · exact .inl rfl
    | _ => exact ret.elim
  | removeSlot s =>
    rw [show (exec c σ.state (.removeSlot s)).1.intents[k]? = _ from intents_removeSlot pt keyed, hi] at hi'
    cases hi'
    dsimp only
    split
    · exact .inr (by simp [Cancels, WorkIntentState.isCancelled])
    · exact .inl rfl
  | stop =>
    rw [show (exec c σ.state .stop).1.intents[k]? = _ from intents_stop, hi] at hi'
    cases hi'
    dsimp only
    split
    · exact .inr (by simp [Cancels, WorkIntentState.isCancelled])
    · exact .inl rfl
  | _ => exact ret.elim

lemma Retires.not_returned (ret : Retires op) : returnedBatch c st op = none := by
  cases op with
  | next s => exact ret.elim
  | _ => rfl

lemma not_active_of_retired (inv : Inv c σ) (allowed : Allowed σ op) (ret : Retires op)
    (cur : Current σ.state batch a) (retired : isCurrentBatch c (track c σ op).state batch = false)
    (hk : k ∈ batch.intentIds) (hi' : (track c σ op).state.intents[k]? = some i') :
    i'.state.isActive = false := by
  cases act : i'.state.isActive with
  | false => rfl
  | true =>
    have inv' : Inv c (track c σ op) := inv.track allowed
    obtain ⟨ha, e⟩ := cur
    obtain ⟨a', ha', hk', _⟩ := batch_of_isActive inv'.sound.partitioned hi' act
    rcases exec_active inv allowed ha' with ⟨a0, ha0, e0⟩ | ⟨returned, _⟩
    · -- The intent's slot works on the batch as before, which is then current.
      have ids : a.batch.intentIds = batch.intentIds := (congrArg WorkBatch.intentIds e :)
      have ids0 : a'.batch.intentIds = a0.batch.intentIds := (congrArg WorkBatch.intentIds e0 :)
      obtain ⟨i, hi, _, hs⟩ := intent_of_batch inv.sound.partitioned ha (ids ▸ hk)
      obtain ⟨i0, hi0, _, hs0⟩ := intent_of_batch inv.sound.partitioned ha0 (ids0 ▸ hk')
      rw [hi] at hi0
      cases hi0
      rw [← hs0, hs] at ha0 ha'
      rw [ha] at ha0
      cases ha0
      rw [inv'.isCurrentBatch ⟨ha', e0.trans e⟩] at retired
      cases retired
    · rw [ret.not_returned] at returned
      cases returned

lemma isBatchCancelled_iff (inv : Inv c σ) (allowed : Allowed σ op) (ret : Retires op)
    (mem : batch.asClaimed ∈ σ.claimed) (cur : Current σ.state batch a)
    (retired : isCurrentBatch c (track c σ op).state batch = false) :
    isBatchCancelled (track c σ op).state batch = true ↔ CancelsAll σ.state batch op := by
  have ids : a.batch.intentIds = batch.intentIds := (congrArg WorkBatch.intentIds cur.2 :)
  -- Each intent of the batch was active, is not any more, and so has taken its verdict.
  have verdict : ∀ k ∈ batch.intentIds, ∃ i i', σ.state.intents[k]? = some i ∧
      (track c σ op).state.intents[k]? = some i' ∧ (i'.state.isCancelled = true ↔ Cancels op i) := by
    intro k hk
    obtain ⟨i, hi, ht, _⟩ := intent_of_batch inv.sound.partitioned cur.1 (ids ▸ hk)
    obtain ⟨i', hi', _⟩ := intent_mono inv.sound.partitioned (exec_moves inv allowed) hi
    have idle := not_active_of_retired inv allowed ret cur retired hk hi'
    rcases retire_verdict inv ret hi hi' with same | v
    · rw [same, ht, a.tag_isActive] at idle
      cases idle
    · exact ⟨i, i', hi, hi', v⟩
  have all : isBatchCancelled (track c σ op).state batch = true ↔
      ∀ k ∈ batch.intentIds, ∀ i, σ.state.intents[k]? = some i → Cancels op i := by
    simp only [isBatchCancelled, List.all_eq_true]
    refine forall₂_congr fun k hk => ?_
    obtain ⟨i, i', hi, hi', v⟩ := verdict k hk
    simp [hi, hi', v]
  rw [all]
  cases op with
  | cancelRun teamRunId =>
    refine forall₂_congr fun k hk => ?_
    obtain ⟨i, _, hi, _⟩ := verdict k hk
    simp [hi, Cancels]
  | setRuntimeConstraint s constraint =>
    obtain ⟨k, hk⟩ := List.exists_mem_of_ne_nil _ (inv.claimed _ mem).nonempty
    obtain ⟨i, _, hi, _⟩ := verdict k hk
    exact ⟨fun h => h k hk i hi, fun h => h.elim⟩
  | cancelBatch b classification => exact ⟨fun _ => trivial, fun _ _ _ _ _ => trivial⟩
  | interruptBatch b reason replacement => exact ⟨fun _ => trivial, fun _ _ _ _ _ => trivial⟩
  | removeSlot s => exact ⟨fun _ => trivial, fun _ _ _ _ _ => trivial⟩
  | stop => exact ⟨fun _ => trivial, fun _ _ _ _ _ => trivial⟩
  | _ => exact ret.elim

lemma stale_step (inv : Inv c σ) (allowed : Allowed σ op) (mem : batch.asClaimed ∈ σ.claimed)
    (stale : isCurrentBatch c σ.state batch = false) :
    isCurrentBatch c (track c σ op).state batch = false := by
  cases cur : isCurrentBatch c (track c σ op).state batch with
  | false => rfl
  | true =>
    have inv' : Inv c (track c σ op) := inv.track allowed
    obtain ⟨a, ha, e⟩ := inv'.current (List.mem_append_left _ mem) cur
    rcases exec_active inv allowed ha with ⟨a0, ha0, e0⟩ | ⟨_, claims⟩
    · rw [inv.isCurrentBatch ⟨ha0, e0.symm.trans e⟩] at stale
      cases stale
    · have id : batch.batchId = c.generateId σ.state.ticks :=
        (congrArg WorkBatch.batchId e :).symm.trans (congrArg WorkBatch.batchId claims.made)
      have drawn : Drawn c σ.state batch.batchId := (inv.claimed _ mem).drawn
      rw [id] at drawn
      exact absurd drawn not_drawn

lemma markStarted_stale {turnId : String} (stale : isCurrentBatch c st batch = false) :
    (markStarted c st batch turnId).result = .cancelImmediately ↔ isBatchCancelled st batch = true := by
  unfold markStarted
  rw [if_pos (by simp [stale])]
  cases isBatchCancelled st batch <;> simp

/-- After a retirement of a claimed batch, `mark_started` answers `CancelImmediately` for it in every
later state, if and only if the retirement cancels every intent of the batch. -/
theorem lateStart_iff (reach : (lts c).Reachable σ) (mem : batch.asClaimed ∈ σ.claimed)
    (cur : isCurrentBatch c σ.state batch = true) (ret : Retires op) (st : (lts c).step σ op σ')
    (retired : isCurrentBatch c σ'.state batch = false) :
    (∀ ops τ turnId, (lts c).Run σ' ops τ →
      (markStarted c τ.state batch turnId).result = .cancelImmediately) ↔
    CancelsAll σ.state batch op := by
  have inv := Inv.reachable reach
  have reach' := reach.step st
  obtain ⟨a, ha⟩ := inv.current mem cur
  obtain ⟨allowed, rfl⟩ := st
  rw [← isBatchCancelled_iff inv allowed ret mem ha retired]
  constructor
  · intro h
    exact (markStarted_stale retired).mp (h [] _ "" .nil)
  · intro cancelled ops τ turnId run
    have later : batch.asClaimed ∈ τ.claimed ∧ isCurrentBatch c τ.state batch = false := by
      refine run.preserves_of (P := fun τ => batch.asClaimed ∈ τ.claimed ∧
        isCurrentBatch c τ.state batch = false) reach' ?_ ⟨List.mem_append_left _ mem, retired⟩
      rintro τ op _ reach ⟨mem, stale⟩ ⟨allowed, rfl⟩
      exact ⟨List.mem_append_left _ mem, stale_step (.reachable reach) allowed mem stale⟩
    refine (markStarted_stale later.2).mpr (List.all_eq_true.mpr fun k hk => ?_)
    obtain ⟨i, hi, h⟩ := (Option.any_eq_true _ _).mp (List.all_eq_true.mp cancelled k hk)
    have term : i.state.isTerminal = true := by
      cases e : i.state <;> simp_all [WorkIntentState.isCancelled, WorkIntentState.isTerminal]
    rw [terminal_run reach' run hi term]
    exact h

/-- If the run of a user message is cancelled before its turn has started, the turn is cancelled. -/
theorem lateStart_userTurn :
    userBatch ∈ (userTurn.foldl (track strokes) initial).claimed ∧
      ∀ ops τ turnId, (lts strokes).Run
        (track strokes (userTurn.foldl (track strokes) initial) (.cancelRun "run")) ops τ →
        (markStarted strokes τ.state userBatch turnId).result = .cancelImmediately := by
  have reach : (lts strokes).Reachable (userTurn.foldl (track strokes) initial) :=
    .computed (by decide)
  have retires : Retires (.cancelRun "run") := trivial
  have step : (lts strokes).step (userTurn.foldl (track strokes) initial) (.cancelRun "run")
      (track strokes (userTurn.foldl (track strokes) initial) (.cancelRun "run")) := ⟨nofun, rfl⟩
  have all : CancelsAll (userTurn.foldl (track strokes) initial).state userBatch (.cancelRun "run") := by
    unfold CancelsAll
    decide
  exact ⟨by decide, (lateStart_iff reach (by decide) (by decide) retires step (by decide)).mpr all⟩

/-- Two user messages of different runs are claimed in one batch. -/
def mixedTurn : List Op :=
  [.setRuntimeConstraint "lead" .ready,
    .acquireEnqueue
      { slotId := "lead", role := .lead, source := .userMessage, binding := .userVisible }
      { teamRunId := some "run", createdNewRun := true, userIntervention := false },
    .commitEnqueue userLease (some "m"),
    .acquireEnqueue
      { slotId := "lead", role := .lead, source := .userMessage, binding := .userVisible }
      { teamRunId := some "next", createdNewRun := true, userIntervention := false },
    .commitEnqueue { userLease with leaseId := "|||", teamRunId := some "next" } (some "n"),
    .next "lead"]

def mixedBatch : WorkBatch :=
  { userBatch with
    batchId := "|||||"
    intentIds := ["||", "||||"]
    mailboxMessageIds := ["m", "n"]
    teamRunIds := ["run", "next"] }

/-- Neither cancelling one of the runs nor a failed runtime cancels the turn of the batch. -/
theorem lateStart_mixedTurn :
    (lts strokes).Reachable (mixedTurn.foldl (track strokes) initial) ∧
      mixedBatch ∈ (mixedTurn.foldl (track strokes) initial).claimed ∧
      isActiveBatch strokes (mixedTurn.foldl (track strokes) initial).state mixedBatch none = true ∧
      ∀ op ∈ [Op.cancelRun "run", .setRuntimeConstraint "lead" (.failed 1 "crashed")],
        Retires op ∧
        isCurrentBatch strokes (track strokes (mixedTurn.foldl (track strokes) initial) op).state
          mixedBatch = false ∧
        (markStarted strokes (track strokes (mixedTurn.foldl (track strokes) initial) op).state
          mixedBatch "turn").result = .staleOwner := by
  refine ⟨.computed (by decide), by decide, by decide, ?_⟩
  intro op mem
  simp only [List.mem_cons, List.not_mem_nil, or_false] at mem
  rcases mem with rfl | rfl
  · exact ⟨trivial, by decide, by decide⟩
  · exact ⟨trivial, by decide, by decide⟩

end SlotWorkCoordinator

end KiCore.Team

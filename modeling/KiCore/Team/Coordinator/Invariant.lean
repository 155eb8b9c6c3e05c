import KiCore.Team.Coordinator.EnqueueEffect

/-!
# The invariant of the coordinator

`exec_moves`, `exec_active` and `exec_ticks` say once what any operation does: the moves it makes on
the board under the guard `Op.guard`, the batches it leaves, and the ids it draws. `Inv` is the
invariant of the runs of the coordinator, and `Inv.reachable` its induction: states are sound, a slot
works on a batch that `next` returned, and a returned batch says of its intents what is true of them.
-/

namespace KiCore.Team

open KiCore.Lib Classical

namespace SlotWorkCoordinator

variable {c : SlotWorkCoordinator} {G : CoordinatorBoard → String → WorkIntent → Prop}
  {st st' : CoordinatorState} {σ σ' : Tracked} {op : Op} {s k : String} {i : WorkIntent}
  {a : ActiveBatch} {batch : WorkBatch}

/-- The intents an operation lets enter the board. -/
def opGuard (c : SlotWorkCoordinator) (st : CoordinatorState) :
    Op → CoordinatorBoard → String → WorkIntent → Prop
  | .commitEnqueue lease messageId => fun b k a =>
    (∃ slot, checkCommit c st lease messageId = .ok slot) ∧ b = board st ∧
      k = c.generateId st.ticks ∧ a = committedIntent c st lease messageId
  | .reconcileMailboxSnapshot slotId unread role stale =>
    recoverGuard c (reconcileMailboxSnapshot c st slotId unread role stale).state.ticks slotId unread
  | _ => fun _ _ _ => False

/-- What a batch that `next` has returned says of its intents, and of the coordinator it is from. -/
structure Claimed (c : SlotWorkCoordinator) (st : CoordinatorState) (batch : WorkBatch) : Prop where
  generation : batch.sessionGeneration = c.sessionGeneration
  drawn : Drawn c st batch.batchId
  nonempty : batch.intentIds ≠ []
  intents : ∀ k ∈ batch.intentIds, ∃ i, st.intents[k]? = some i ∧ i.slotId = batch.slotId ∧
    i.priority = batch.highestPriority
  runs : ∀ r, r ∈ batch.teamRunIds ↔
    ∃ k ∈ batch.intentIds, ∃ i, st.intents[k]? = some i ∧ i.teamRunId = some r
  messages : batch.mailboxMessageIds =
    batch.intentIds.filterMap fun k => (st.intents[k]?).bind (·.mailboxMessageId)

/-- The invariant of the runs of the coordinator. -/
structure Inv (c : SlotWorkCoordinator) (σ : Tracked) : Prop where
  sound : Sound c σ.state
  active : ∀ s a, activeOf σ.state s = some a → a.batch.slotId = s ∧ a.batch.asClaimed ∈ σ.claimed
  claimed : ∀ b ∈ σ.claimed, Claimed c σ.state b
  unique : ∀ b ∈ σ.claimed, ∀ b' ∈ σ.claimed, b.batchId = b'.batchId → b = b'

lemma intent_mono (pt : (board st).Partitioned) (m : Board.Moves G (board st) (board st'))
    (hi : st.intents[k]? = some i) :
    ∃ i', st'.intents[k]? = some i' ∧ i'.ticket = i.ticket ∧
      (i.state.isTerminal = true → i'.state = i.state) := by
  obtain ⟨p', e', done⟩ := m.entry_mono pt (entry_of hi)
  obtain ⟨i', hi', ht, rfl⟩ := intent_of e'
  refine ⟨i', hi', ht, fun term => WorkIntentState.phase_inj ?_⟩
  rw [WorkIntentState.phase_of_isTerminal term]
  exact done _ (WorkIntentState.phase_of_isTerminal term)

lemma isCurrentBatch_spec (h : isCurrentBatch c st batch = true) :
    ∃ a, activeOf st batch.slotId = some a ∧ a.batch.batchId = batch.batchId := by
  simp only [isCurrentBatch, Option.any_eq_true, decide_eq_true_eq] at h
  obtain ⟨_, a, ha, id, _⟩ := h
  exact ⟨a, ha, id⟩

lemma Inv.current (inv : Inv c σ) (mem : batch.asClaimed ∈ σ.claimed)
    (h : isCurrentBatch c σ.state batch = true) : ∃ a, Current σ.state batch a := by
  obtain ⟨a, ha, id⟩ := isCurrentBatch_spec h
  exact ⟨a, ha, inv.unique _ (inv.active _ a ha).2 _ mem id⟩

lemma Inv.isCurrentBatch (inv : Inv c σ) (cur : Current σ.state batch a) :
    isCurrentBatch c σ.state batch = true := by
  obtain ⟨ha, e⟩ := cur
  obtain ⟨observed, copy⟩ := WorkBatch.copy_of_asClaimed e
  have generation : a.batch.sessionGeneration = c.sessionGeneration :=
    (inv.claimed _ (inv.active _ a ha).2).generation
  have own : batch.sessionGeneration = c.sessionGeneration := by
    rw [← generation, copy]
  have slot : (st : CoordinatorState) →
      (st.slots[batch.slotId]?).bind (·.active) = activeOf st batch.slotId := fun _ => rfl
  simp only [SlotWorkCoordinator.isCurrentBatch, slot, ha, own]
  simp [copy, own]

lemma Claimed.priority (cl : Claimed c st batch) (hk : k ∈ batch.intentIds)
    (hi : st.intents[k]? = some i) : i.priority = batch.highestPriority := by
  obtain ⟨i', hi', _, hl⟩ := cl.intents k hk
  rw [hi] at hi'
  cases hi'
  exact hl

lemma allLive_iff {P : WorkIntent → Prop} (stable : ∀ i, P i.ticket ↔ P i) :
    ((board st).AllLive fun _ a => P a) ↔
      ∀ (k : String) (i : WorkIntent), st.intents[k]? = some i → i.state.isTerminal = false → P i := by
  constructor
  · intro live k i hi term
    exact (stable i).mp (live k i.ticket _ (entry_of hi) (WorkIntentState.phase_live.mpr term))
  · intro intents k a p e live
    obtain ⟨i, hi, rfl, rfl⟩ := intent_of e
    exact (stable i).mpr (intents k i hi (WorkIntentState.phase_live.mp live))

/-- An operation other than `next` has an effect under its guard. -/
lemma exec_effect (inv : Inv c σ) (allowed : Allowed σ op) (other : ∀ s, op ≠ .next s) :
    Effect (opGuard c σ.state op) σ.state (exec c σ.state op).1 := by
  have pt := inv.sound.partitioned
  have keyed := inv.sound.keyed
  have current (b : WorkBatch) (h : op.batch = some b) :
      isCurrentBatch c σ.state b = true → ∃ a, Current σ.state b a :=
    inv.current (allowed b h)
  cases op with
  | acquireEnqueue request answer =>
    have u : Unmoved σ.state (acquireEnqueue c (.answering answer) () σ.state request).2.1 :=
      acquireEnqueue_unmoved
    exact u.effect
  | commitEnqueue lease messageId =>
    rcases commitEnqueue_cases c σ.state lease messageId with ⟨slot, ok, h⟩ | ⟨_, h⟩
    · rw [show (exec c σ.state (.commitEnqueue lease messageId)).1 = _ from h]
      have x := commitState_effect messageId inv.sound (checkCommit_ok ok).2.2.2.1
      exact ⟨x.moves.mono fun _ _ _ g => ⟨⟨slot, ok⟩, g⟩, x.active, x.ticks⟩
    · rw [show (exec c σ.state (.commitEnqueue lease messageId)).1 = _ from h]
      exact .refl
  | abortEnqueue lease => exact abortEnqueue_unmoved.effect
  | reconcileMailboxSnapshot slotId unread role stale => exact reconcile_effect inv.sound
  | next slotId => exact absurd rfl (other slotId)
  | observeMessages slotId batchId messageIds => exact observeMessages_effect
  | markStarted b turnId =>
    rw [show (exec c σ.state (.markStarted b turnId)).1 = _ from markStarted_state]
    split
    next cur =>
      obtain ⟨a, ha⟩ := current b rfl cur
      exact startedState_effect ha
    · exact .refl
  | retryStart b =>
    refine retryStart_effect pt (current b rfl) fun k hk i hi => ?_
    exact (inv.claimed _ (allowed b rfl)).priority hk hi
  | completeBatchWithAck b => exact completeBatchWithAck_effect pt keyed
  | failBatch b classification => exact terminalizeBatch_effect pt (current b rfl) rfl
  | cancelBatch b classification => exact terminalizeBatch_effect pt (current b rfl) rfl
  | interruptBatch b reason replacement => exact interruptBatch_effect pt (current b rfl)
  | takeInterruptMetadata batchId => exact takeInterruptMetadata_unmoved.effect
  | discardQueuedExcept slotId retained => exact discardQueuedExcept_effect pt
  | cancelRun teamRunId => exact cancelRun_effect pt keyed
  | completeSignals slotId intentIds => exact completeSignals_effect pt
  | pauseSlot slotId => exact pauseSlot_unmoved.effect
  | setRuntimeConstraint slotId constraint => exact setRuntimeConstraint_effect pt keyed
  | beginRuntimeRestart slotId => exact beginRuntimeRestartInner_unmoved.effect
  | beginMcpRuntimeRestart slotId => exact beginRuntimeRestartInner_unmoved.effect
  | abortRuntimeRestart slotId gate => exact abortRuntimeRestart_unmoved.effect
  | requestMcpRefresh slotId fingerprint => exact requestMcpRefresh_unmoved.effect
  | deferMcpRefresh slotId fingerprint => exact deferMcpRefresh_unmoved.effect
  | claimPendingMcpRefresh slotId => exact claimPendingMcpRefresh_unmoved.effect
  | completeMcpRefresh slotId fingerprint => exact completeMcpRefresh_unmoved.effect
  | releaseMcpRefresh slotId fingerprint => exact releaseMcpRefresh_unmoved.effect
  | settleMcpRefreshClaim slotId fingerprint => exact settleMcpRefreshClaim_unmoved.effect
  | removeSlot slotId => exact removeSlot_effect pt keyed
  | stop => exact stop_effect pt

lemma exec_cases (inv : Inv c σ) (allowed : Allowed σ op) :
    (Effect (opGuard c σ.state op) σ.state (exec c σ.state op).1 ∧ returnedBatch c σ.state op = none) ∨
    ∃ s batch, op = .next s ∧ returnedBatch c σ.state op = some batch ∧
      (exec c σ.state op).1 = claimState σ.state batch ∧ Claims c σ.state s batch := by
  by_cases other : ∀ s, op ≠ .next s
  · refine .inl ⟨exec_effect inv allowed other, ?_⟩
    cases op with
    | next s => exact absurd rfl (other s)
    | _ => rfl
  · obtain ⟨s, e⟩ := not_forall.mp other
    obtain rfl := not_not.mp e
    rcases next_cases c σ.state s with ⟨b, result, state, claims⟩ | ⟨result, state⟩
    · exact .inr ⟨s, b, rfl, by simp [returnedBatch, result], state, claims⟩
    · refine .inl ⟨?_, ?_⟩
      · rw [show (exec c σ.state (.next s)).1 = _ from state]
        exact .refl
      · unfold returnedBatch
        dsimp only
        split
        next b h => exact absurd h (result b)
        · rfl

lemma claims_of_returned (returned : returnedBatch c st op = some batch) :
    ∃ s, op = .next s ∧ (exec c st op).1 = claimState st batch ∧ Claims c st s batch := by
  cases op with
  | next s =>
    rcases next_cases c st s with ⟨b, result, state, claims⟩ | ⟨result, _⟩
    · simp only [returnedBatch, result, Option.some.injEq] at returned
      subst returned
      exact ⟨s, rfl, state, claims⟩
    · unfold returnedBatch at returned
      dsimp only at returned
      split at returned
      next b h => exact absurd h (result b)
      · cases returned
  | _ => cases returned

lemma exec_moves (inv : Inv c σ) (allowed : Allowed σ op) :
    Board.Moves (opGuard c σ.state op) (board σ.state) (board (exec c σ.state op).1) := by
  rcases exec_cases inv allowed with ⟨x, _⟩ | ⟨s, b, _, _, state, claims⟩
  · exact x.moves
  · rw [state]
    exact claimState_moves inv.sound.partitioned claims

lemma exec_active (inv : Inv c σ) (allowed : Allowed σ op)
    (ha : activeOf (exec c σ.state op).1 s = some a) :
    (∃ a0, activeOf σ.state s = some a0 ∧ a.batch.asClaimed = a0.batch.asClaimed) ∨
      (returnedBatch c σ.state op = some a.batch ∧ Claims c σ.state s a.batch) := by
  rcases exec_cases inv allowed with ⟨x, _⟩ | ⟨s', b, _, returned, state, claims⟩
  · exact .inl (x.active s a ha)
  · rw [state, activeOf_claimState claims] at ha
    split_ifs at ha with hs
    · subst hs
      cases ha
      exact .inr ⟨returned, claims⟩
    · exact .inl ⟨a, ha, rfl⟩

lemma exec_ticks (inv : Inv c σ) (allowed : Allowed σ op) :
    σ.state.ticks ≤ (exec c σ.state op).1.ticks := by
  rcases exec_cases inv allowed with ⟨x, _⟩ | ⟨s, b, _, _, state, _⟩
  · exact x.ticks
  · rw [state]
    exact Nat.le_succ _

lemma opGuard_spec {d : CoordinatorBoard} {a : WorkIntent} (g : opGuard c σ.state op d k a) :
    a.intentId = k ∧ Drawn c (exec c σ.state op).1 k := by
  cases op with
  | commitEnqueue lease messageId =>
    obtain ⟨⟨slot, ok⟩, _, rfl, rfl⟩ := g
    refine ⟨rfl, σ.state.ticks, ?_, rfl⟩
    rcases commitEnqueue_cases c σ.state lease messageId with
      ⟨_, _, h⟩ | ⟨⟨error, h⟩, _⟩
    · rw [show (exec c σ.state (.commitEnqueue lease messageId)).1 = _ from h]
      exact Nat.lt_succ_self _
    · rw [ok] at h
      cases h
  | reconcileMailboxSnapshot slotId unread role stale =>
    obtain ⟨⟨n, hn, e⟩, id, _⟩ := g
    exact ⟨id, n, hn, e⟩
  | _ => exact g.elim

lemma Claimed.mono (cl : Claimed c st batch) (pt : (board st).Partitioned)
    (m : Board.Moves G (board st) (board st')) (ticks : st.ticks ≤ st'.ticks) :
    Claimed c st' batch := by
  have ticket : ∀ (k : String) (i : WorkIntent), st.intents[k]? = some i →
      ∃ i', st'.intents[k]? = some i' ∧ i'.ticket = i.ticket := fun k i hi => by
    obtain ⟨i', hi', e, _⟩ := intent_mono pt m hi
    exact ⟨i', hi', e⟩
  refine ⟨cl.generation, cl.drawn.mono ticks, cl.nonempty, fun k hk => ?_, fun r => ?_, ?_⟩
  · obtain ⟨i, hi, hs, hl⟩ := cl.intents k hk
    obtain ⟨i', hi', e⟩ := ticket k i hi
    exact ⟨i', hi', (congrArg WorkIntent.slotId e :).trans hs, (congrArg WorkIntent.priority e :).trans hl⟩
  · rw [cl.runs]
    constructor
    · rintro ⟨k, hk, i, hi, hr⟩
      obtain ⟨i', hi', e⟩ := ticket k i hi
      exact ⟨k, hk, i', hi', (congrArg WorkIntent.teamRunId e :).trans hr⟩
    · rintro ⟨k, hk, i', hi', hr⟩
      obtain ⟨i, hi, _⟩ := cl.intents k hk
      obtain ⟨i2, hi2, e⟩ := ticket k i hi
      rw [hi'] at hi2
      cases hi2
      exact ⟨k, hk, i, hi, (congrArg WorkIntent.teamRunId e :).symm.trans hr⟩
  · rw [cl.messages]
    refine List.filterMap_congr fun k hk => ?_
    obtain ⟨i, hi, _⟩ := cl.intents k hk
    obtain ⟨i', hi', e⟩ := ticket k i hi
    rw [hi, hi']
    exact (congrArg WorkIntent.mailboxMessageId e :).symm

lemma Claims.claimed (so : Sound c st) (claims : Claims c st s batch) :
    Claimed c (claimState st batch) batch := by
  have made := claims.made
  have hs : batch.slotId = s := congrArg WorkBatch.slotId made
  have base : Claimed c st.tick batch := by
    refine ⟨congrArg WorkBatch.sessionGeneration made, ⟨st.ticks, Nat.lt_succ_self _, ?_⟩,
      claims.nonempty, fun k hk => ?_, fun r => ?_, congrArg WorkBatch.mailboxMessageIds made⟩
    · exact congrArg WorkBatch.batchId made
    · obtain ⟨i, hi, _, hs', hl⟩ := (mem_lane so.partitioned).mp (claims.lane.subset hk)
      exact ⟨i, hi, hs'.trans hs.symm, hl⟩
    · rw [(congrArg WorkBatch.teamRunIds made :)]
      simp only [claimedBatch, List.mem_eraseDups, List.mem_filterMap, Option.bind_eq_some_iff]
      rfl
  have moves : Board.Moves (fun _ _ _ => False) (board st.tick) (board (claimState st batch)) :=
    show Board.Moves _ (board st) _ from claimState_moves so.partitioned claims
  exact base.mono so.partitioned moves (le_refl _)

/-- One operation keeps the invariant. -/
lemma Inv.step (inv : Inv c σ) (st : (lts c).step σ op σ') : Inv c σ' := by
  obtain ⟨allowed, rfl⟩ := st
  have pt := inv.sound.partitioned
  have moves := exec_moves inv allowed
  have ticks := exec_ticks inv allowed
  have old : ∀ b ∈ σ.claimed, Claimed c (exec c σ.state op).1 b := fun b hb =>
    (inv.claimed b hb).mono pt moves ticks
  refine ⟨inv.sound.moves moves ticks fun _ _ _ g => opGuard_spec g, fun s a ha => ?_, fun b hb => ?_, ?_⟩
  · rcases exec_active inv allowed ha with ⟨a0, ha0, e⟩ | ⟨returned, claims⟩
    · obtain ⟨hs, mem⟩ := inv.active s a0 ha0
      refine ⟨(congrArg WorkBatch.slotId e :).trans hs, ?_⟩
      rw [e]
      exact List.mem_append_left _ mem
    · refine ⟨congrArg WorkBatch.slotId claims.made, ?_⟩
      have own : a.batch.asClaimed = a.batch := by
        rw [claims.made]
        rfl
      rw [own]
      exact List.mem_append_right _ (by simp [returned])
  · rcases List.mem_append.mp hb with hb | hb
    · exact old b hb
    · rcases exec_cases inv allowed with ⟨_, returned⟩ | ⟨s, batch, _, returned, state, claims⟩
      · simp [returned] at hb
      · simp only [returned, Option.toList_some, List.mem_singleton] at hb
        subst hb
        rw [show (track c σ op).state = _ from state]
        exact claims.claimed inv.sound
  · -- A new batch has an id that no batch before it has.
    have new : ∀ b, returnedBatch c σ.state op = some b → b.batchId = c.generateId σ.state.ticks := by
      intro b hb
      rcases exec_cases inv allowed with ⟨_, returned⟩ | ⟨s, batch, _, returned, _, claims⟩
      · rw [returned] at hb
        cases hb
      · rw [returned] at hb
        cases hb
        exact congrArg WorkBatch.batchId claims.made
    have apart : ∀ b ∈ σ.claimed, ∀ b', returnedBatch c σ.state op = some b' → b.batchId ≠ b'.batchId := by
      intro b hb b' hb' e
      rw [new b' hb'] at e
      exact not_drawn (e ▸ (inv.claimed b hb).drawn)
    intro b hb b' hb' e
    rcases List.mem_append.mp hb with hb | hb <;> rcases List.mem_append.mp hb' with hb' | hb'
    · exact inv.unique b hb b' hb' e
    · exact absurd e (apart b hb b' (by simpa using hb'))
    · exact absurd e.symm (apart b' hb' b (by simpa using hb))
    · have h : returnedBatch c σ.state op = some b := by simpa using hb
      have h' : returnedBatch c σ.state op = some b' := by simpa using hb'
      rw [h] at h'
      exact Option.some.inj h'

lemma Inv.track (inv : Inv c σ) (allowed : Allowed σ op) : Inv c (track c σ op) :=
  inv.step ⟨allowed, rfl⟩

lemma Inv.start : Inv c initial := by
  have intents : ∀ k : String, initial.state.intents[k]? = none := fun k => Table.get_empty
  have slots : ∀ s : String, initial.state.slots[s]? = none := fun s => Table.get_empty
  have entry : ∀ k, (board initial.state).entry k = none := fun k => entry_none.mpr (intents k)
  have queue : ∀ s l, (board initial.state).queue s l = [] := fun s l => by simp [board, workOf, slots]
  have active : ∀ s, activeOf initial.state s = none := fun s => by simp [activeOf, slots]
  have claim : ∀ s, (board initial.state).claim s = none := fun s => by simp [board, active]
  refine ⟨⟨⟨?_, ?_, ?_, ?_⟩, ?_, ?_⟩, ?_, fun b none => ?_, fun b none => ?_⟩
  · intro s l
    rw [queue]
    exact List.nodup_nil
  · intro s l k
    simp [queue, entry]
  · intro s
    simp [Board.claimed, claim]
  · intro s t k
    simp [claim, entry]
  · intro k i hi
    rw [intents] at hi
    cases hi
  · intro k i hi
    rw [intents] at hi
    cases hi
  · intro s a ha
    rw [active] at ha
    cases ha
  · cases none
  · cases none

/-- The invariant holds in every state of every run. -/
theorem Inv.reachable (h : (lts c).Reachable σ) : Inv c σ := by
  refine h.invariant ?_ fun s i t inv st => inv.step st
  rintro _ rfl
  exact .start

end SlotWorkCoordinator

end KiCore.Team

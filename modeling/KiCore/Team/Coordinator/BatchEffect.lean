import KiCore.Team.Coordinator.Effect

/-!
# The effects of the operations on batches

The effect on the board of the operations in `Batch.lean`. An operation on a batch is looked at where
the batch is current: the slot works on it, possibly with more observed messages than the caller's
copy knows. `next_claim` says what claiming a batch does.
-/

namespace KiCore.Team

open KiCore.Lib Classical

namespace SlotWorkCoordinator

variable {c : SlotWorkCoordinator} {G : CoordinatorBoard → String → WorkIntent → Prop}
  {st : CoordinatorState} {s : String} {a : ActiveBatch} {batch : WorkBatch}

lemma selectBatch_sublist {head : String} {rest : List String} :
    (selectBatch st head rest).1.Sublist (head :: rest) := by
  unfold selectBatch
  split
  · exact List.singleton_sublist.mpr (.head _)
  · exact List.takeWhile_sublist _

lemma mem_selectBatch {head : String} {rest : List String} : head ∈ (selectBatch st head rest).1 := by
  unfold selectBatch
  split
  · exact .head _
  · next h => simp [h]

/-- What a `next` that claims a batch has checked, and which batch it makes. -/
structure Claims (c : SlotWorkCoordinator) (st : CoordinatorState) (slotId : String)
    (batch : WorkBatch) : Prop where
  slot : ∃ slot, st.slots[slotId]? = some slot ∧ slot.active = none ∧
    slot.runtimeConstraint = .ready ∧ slot.paused = false
  made : batch =
    claimedBatch c st slotId batch.highestPriority batch.intentIds batch.isCommand
  nonempty : batch.intentIds ≠ []
  lane : batch.intentIds.Sublist ((workOf st slotId).1 batch.highestPriority)
  mail : ∀ k ∈ batch.intentIds, ∃ i, st.intents[k]? = some i ∧ i.mailboxMessageId.isSome = true

lemma next_cases (c : SlotWorkCoordinator) (st : CoordinatorState) (s : String) :
    (∃ batch, (next c st s).result = .claim batch ∧ (next c st s).state = claimState st batch ∧
      Claims c st s batch) ∨
    ((∀ batch, (next c st s).result ≠ .claim batch) ∧ (next c st s).state = st) := by
  unfold next
  cases hs : st.slots[s]? with
  | none => exact .inr ⟨nofun, rfl⟩
  | some slot =>
    dsimp only
    split
    · exact .inr ⟨nofun, rfl⟩
    next free =>
    split
    · exact .inr ⟨nofun, rfl⟩
    next ready =>
    split
    · exact .inr ⟨nofun, rfl⟩
    next running =>
    split
    · exact .inr ⟨nofun, rfl⟩
    next priority _ =>
    split
    · exact .inr ⟨nofun, rfl⟩
    next head rest fifo =>
    refine .inl ⟨_, rfl, rfl, ?_, rfl, ?_, ?_, ?_⟩
    · exact ⟨slot, hs, by simpa using free, by simpa using ready, by simpa using running⟩
    · exact List.ne_nil_of_mem mem_selectBatch
    · have sub : (selectBatch st head rest).1.Sublist (slot.queue priority) := by
        refine selectBatch_sublist.trans ?_
        rw [← fifo]
        exact List.filter_sublist
      rw [workOf_known hs]
      exact sub
    · intro k hk
      have mem : k ∈ fifoMessageIntentIds st (slot.queue priority) := by
        rw [fifo]
        exact selectBatch_sublist.subset hk
      simpa [fifoMessageIntentIds, Option.any_eq_true] using (List.mem_filter.mp mem).2

lemma workOf_claimState {slot : SlotState} {s' : String} (claims : Claims c st s batch)
    (hslot : st.slots[s]? = some slot) :
    workOf (claimState st batch) s' =
      if s = s' then
        (fun l => (slot.queue l).filter (· ∉ batch.intentIds),
          some { batch := batch, turnId := none, startedAtMs := none })
      else workOf st s' := by
  have hs : batch.slotId = s := congrArg WorkBatch.slotId claims.made
  unfold claimState
  rw [hs, workOf_modifySlot (by exact hslot)]
  split_ifs
  · exact Prod.ext (funext fun _ => SlotState.queue_removeQueuedAll) rfl
  · rfl

lemma activeOf_claimState {s' : String} (claims : Claims c st s batch) :
    activeOf (claimState st batch) s' =
      if s = s' then some { batch := batch, turnId := none, startedAtMs := none }
      else activeOf st s' := by
  obtain ⟨slot, hslot, _⟩ := claims.slot
  rw [activeOf_eq, activeOf_eq, workOf_claimState claims hslot]
  split_ifs <;> rfl

lemma claimState_board (claims : Claims c st s batch) :
    board (claimState st batch) =
      (board st).take s (.starting batch.batchId batch.operationId) batch.intentIds := by
  obtain ⟨slot, hslot, _⟩ := claims.slot
  apply Board.ext
  · funext k
    show Option.map _ ((st.setStates _ _).intents[k]?) = _
    rw [CoordinatorState.intents_setStates fun _ _ => rfl]
    simp only [Board.take]
    split_ifs
    · cases hi : st.intents[k]? with
      | none => simp [board, hi]
      | some i => simp [board, hi, WorkIntent.ticket, WorkIntentState.phase]
    · rfl
  · funext s' l
    show (workOf _ s').1 l = _
    rw [workOf_claimState claims hslot]
    simp only [Board.take, eq_comm (a := s') (b := s)]
    split_ifs with h
    · subst h
      rw [show (board st).queue s l = slot.queue l by simp [board, workOf_known hslot, SlotState.work]]
      exact List.filter_congr fun x _ => by simp
    · rfl
  · funext s'
    simp only [Board.take, board, activeOf_claimState claims, eq_comm (a := s') (b := s)]
    split_ifs <;> rfl

lemma claimState_moves (pt : (board st).Partitioned) (claims : Claims c st s batch) :
    Board.Moves G (board st) (board (claimState st batch)) := by
  obtain ⟨slot, hslot, free, _⟩ := claims.slot
  have none' : activeOf st s = none := by simp [activeOf, hslot, free]
  rw [claimState_board claims]
  refine .one (.take ?_ ?_ ?_)
  · simp [board, none']
  · exact (pt.nodup s batch.highestPriority).sublist claims.lane
  · intro k hk
    exact ⟨batch.highestPriority, claims.lane.subset hk⟩

def Current (st : CoordinatorState) (batch : WorkBatch) (a : ActiveBatch) : Prop :=
  activeOf st batch.slotId = some a ∧ a.batch.asClaimed = batch.asClaimed

lemma activeOf_modifyActive {f : ActiveBatch → ActiveBatch} {s' : String} :
    activeOf (modifyActive st s f) s' =
      if s = s' then (activeOf st s').map f else activeOf st s' := by
  unfold activeOf modifyActive
  rw [CoordinatorState.slots_modifySlot]
  split_ifs
  · cases st.slots[s']? <;> rfl
  · rfl

lemma lanes_modifyActive {f : ActiveBatch → ActiveBatch} {s' : String} :
    (workOf (modifyActive st s f) s').1 = (workOf st s').1 := by
  unfold workOf modifyActive
  rw [CoordinatorState.slots_modifySlot]
  split_ifs
  · cases st.slots[s']? <;> rfl
  · rfl

lemma observe_asClaimed {messageIds : List String} :
    (observe batch messageIds).asClaimed = batch.asClaimed := by
  unfold observe
  induction messageIds generalizing batch with
  | nil => rfl
  | cons messageId messageIds ih =>
    rw [List.foldl_cons, ih]
    split_ifs <;> rfl

lemma observeMessages_effect {expectedBatchId : String} {messageIds : List String} :
    Effect G st (observeMessages st s expectedBatchId messageIds).state := by
  unfold observeMessages
  cases ha : activeOf st s with
  | none => exact .refl
  | some active =>
    dsimp only
    split
    · exact .refl
    · have e : (observe active.batch messageIds).asClaimed = active.batch.asClaimed := observe_asClaimed
      obtain ⟨observed, copy⟩ := WorkBatch.copy_of_asClaimed e
      refine ⟨.of_eq (Board.ext rfl ?_ ?_), fun s' a' h => ?_, le_refl _⟩
      · funext s'
        exact lanes_modifyActive
      · funext s'
        simp only [board, activeOf_modifyActive]
        split_ifs with hs
        · subst hs
          simp [ha, ActiveBatch.tag, copy]
        · rfl
      · rw [activeOf_modifyActive] at h
        split_ifs at h with hs
        · subst hs
          rw [ha] at h
          cases h
          exact ⟨active, ha, e⟩
        · exact ⟨a', h, rfl⟩

def startedState (c : SlotWorkCoordinator) (st : CoordinatorState) (batch : WorkBatch)
    (turnId : String) : CoordinatorState :=
  modifyActive
    (st.tick.setStates batch.intentIds fun _ => .running batch.batchId batch.operationId turnId)
    batch.slotId
    fun active => { active with turnId := some turnId, startedAtMs := some (c.nowMs st.ticks) }

lemma markStarted_state {turnId : String} : (markStarted c st batch turnId).state =
    if isCurrentBatch c st batch then startedState c st batch turnId else st := by
  unfold markStarted
  split_ifs <;> simp_all [startedState]

/-- Starting the turn of a batch retags it. -/
lemma startedState_effect {turnId : String} (cur : Current st batch a) :
    Effect G st (startedState c st batch turnId) := by
  obtain ⟨ha, e⟩ := cur
  obtain ⟨observed, copy⟩ := WorkBatch.copy_of_asClaimed e
  have claimed : (board st).claimed batch.slotId = batch.intentIds := by
    simp [Board.claimed, board, ha, copy]
  have active : ∀ s', activeOf (startedState c st batch turnId) s' =
      if batch.slotId = s' then some { a with turnId := some turnId, startedAtMs := some (c.nowMs st.ticks) }
      else activeOf st s' := fun s' => by
    unfold startedState
    rw [activeOf_modifyActive]
    split_ifs with hs
    · subst hs
      rw [show activeOf (st.tick.setStates _ _) batch.slotId = activeOf st batch.slotId from rfl, ha]
      rfl
    · rfl
  have eq : board (startedState c st batch turnId) =
      (board st).retag batch.slotId (.running batch.batchId batch.operationId turnId) := by
    apply Board.ext
    · funext k
      simp only [Board.retag, claimed]
      show Option.map _ ((st.setStates _ _).intents[k]?) = _
      rw [CoordinatorState.intents_setStates fun _ _ => rfl]
      split_ifs with hk
      · cases hi : st.intents[k]? with
        | none => simp [board, hi]
        | some i => simp [board, hi, WorkIntent.ticket, WorkIntentState.phase]
      · rfl
    · funext s'
      exact lanes_modifyActive
    · funext s'
      simp only [Board.retag, board, active, eq_comm (a := s') (b := batch.slotId)]
      split_ifs with hs
      · subst hs
        simp [ha, ActiveBatch.tag, copy]
      · rfl
  refine ⟨?_, fun s' a' h => ?_, Nat.le_succ _⟩
  · rw [eq]
    exact .one .retag
  · rw [active] at h
    split_ifs at h with hs
    · subst hs
      cases h
      exact ⟨a, ha, rfl⟩
    · exact ⟨a', h, rfl⟩

lemma work_pushFront {pairs : List (WorkPriority × String)} {slot : SlotState} :
    (pairs.foldl (fun slot (priority, intentId) => slot.pushFront priority intentId) slot).work =
      (fun l => ((pairs.filter fun x => x.1 = l).map (·.2)).reverse ++ slot.queue l, slot.active) := by
  induction pairs generalizing slot with
  | nil => rfl
  | cons pair pairs ih =>
    rw [List.foldl_cons, ih]
    refine Prod.ext (funext fun l => ?_) SlotState.active_pushFront
    simp only [SlotState.queue_pushFront, List.filter_cons]
    by_cases hl : l = pair.1
    · simp [hl]
    · simp [hl, Ne.symm hl]

lemma requeue_order {F : String → Option (WorkPriority × String)} {ids : List String}
    {P : String → Prop} {l : WorkPriority} (mine : ∀ k ∈ ids, P k → F k = some (l, k))
    (others : ∀ k ∈ ids, ¬ P k → ∀ k', F k ≠ some (l, k')) :
    (((ids.reverse.filterMap F).filter fun x => x.1 = l).map (·.2)).reverse = ids.filter (P ·) := by
  rw [List.filterMap_reverse, List.filter_reverse, List.map_reverse, List.reverse_reverse]
  induction ids with
  | nil => rfl
  | cons k ids ih =>
    have tail := ih (fun k hk => mine k (.tail _ hk)) (fun k hk => others k (.tail _ hk))
    by_cases hP : P k
    · simp [mine k (.head _) hP, hP, tail]
    · cases hF : F k with
      | none => simp [hF, hP, tail]
      | some x =>
        have ne : x.1 ≠ l := fun e => others k (.head _) hP x.2 (by rw [hF, ← e])
        simp [hF, hP, ne, tail]

lemma work_pushFront_reverse {ids : List String} {p : WorkPriority} {slot : SlotState} :
    (ids.reverse.foldl (fun slot intentId => slot.pushFront p intentId) slot).work =
      (fun l => if l = p then ids ++ slot.queue l else slot.queue l, slot.active) := by
  induction ids with
  | nil => simp [SlotState.work]
  | cons id ids ih =>
    have lanes := congrArg Prod.fst ih
    have active := congrArg Prod.snd ih
    simp only [SlotState.work] at lanes active
    rw [List.reverse_cons, List.foldl_append, List.foldl_cons, List.foldl_nil]
    refine Prod.ext (funext fun l => ?_) (SlotState.active_pushFront.trans active)
    simp only [SlotState.work, SlotState.queue_pushFront, lanes]
    by_cases hl : l = p <;> simp [hl]

lemma retryStart_effect (pt : (board st).Partitioned)
    (cur : isCurrentBatch c st batch = true → ∃ a, Current st batch a)
    (prio : ∀ k ∈ batch.intentIds, ∀ i, st.intents[k]? = some i → i.priority = batch.highestPriority) :
    Effect G st (retryStart c st batch).state := by
  unfold retryStart
  by_cases h : isCurrentBatch c st batch = true
  · obtain ⟨a, ha, e⟩ := cur h
    obtain ⟨observed, copy⟩ := WorkBatch.copy_of_asClaimed e
    have ids : a.batch.intentIds = batch.intentIds := by rw [copy]
    simp only [h, not_true_eq_false, if_false]
    rw [← ids]
    refine .release pt ha (fun _ _ => rfl) (fun _ => .inl rfl) fun slot => ?_
    rw [work_pushFront_reverse]
    refine Prod.ext (funext fun l => ?_) rfl
    have lane : (a.batch.intentIds.filter fun k => ∃ i, st.intents[k]? = some i ∧ i.priority = l) =
        if l = batch.highestPriority then a.batch.intentIds else [] := by
      split_ifs with hl
      · apply List.filter_eq_self.mpr
        intro k hk
        obtain ⟨i, hi, _⟩ := intent_of_batch pt ha hk
        exact decide_eq_true ⟨i, hi, (prio k (ids ▸ hk) i hi).trans hl.symm⟩
      · apply List.filter_eq_nil_iff.mpr
        intro k hk found
        obtain ⟨i, hi, other⟩ := of_decide_eq_true found
        exact hl (other.symm.trans (prio k (ids ▸ hk) i hi))
    simp only [true_and, lane]
    split_ifs <;> rfl
  · simp only [h]
    exact .refl

lemma work_settleDelivery {slot : SlotState} {delivery : DeliveryOutcome} :
    (settleDelivery slot batch delivery).1.work = slot.work := by
  cases delivery <;> rfl

lemma endBatch_effect {t : WorkIntentState} {delivery : DeliveryOutcome}
    (pt : (board st).Partitioned) (cur : Current st batch a) (term : t.isTerminal = true) :
    Effect G st ((st.setStates batch.intentIds fun _ => t).modifySlot batch.slotId
      fun slot => (settleDelivery { slot with active := none } batch delivery).1) := by
  obtain ⟨ha, e⟩ := cur
  obtain ⟨observed, copy⟩ := WorkBatch.copy_of_asClaimed e
  have ids : a.batch.intentIds = batch.intentIds := by rw [copy]
  have ne : t ≠ .queued := by
    rintro rfl
    cases term
  rw [← ids]
  refine .release pt ha (fun _ _ => rfl) (fun _ => .inr term) fun slot => ?_
  rw [work_settleDelivery]
  refine Prod.ext (funext fun l => ?_) rfl
  simp [ne, SlotState.work]
  rfl

lemma terminalizeBatch_state {t : WorkIntentState} {delivery : DeliveryOutcome} :
    (terminalizeBatch c st batch t delivery).state =
      if isCurrentBatch c st batch then
        (st.setStates batch.intentIds fun _ => t).modifySlot batch.slotId
          fun slot => (settleDelivery { slot with active := none } batch delivery).1
      else st := by
  unfold terminalizeBatch
  by_cases h : isCurrentBatch c st batch <;> simp [h]

lemma terminalizeBatch_effect {t : WorkIntentState} {delivery : DeliveryOutcome}
    (pt : (board st).Partitioned) (cur : isCurrentBatch c st batch = true → ∃ a, Current st batch a)
    (term : t.isTerminal = true) : Effect G st (terminalizeBatch c st batch t delivery).state := by
  rw [terminalizeBatch_state]
  split_ifs with h
  · obtain ⟨a, ha⟩ := cur h
    exact endBatch_effect pt ha term
  · exact .refl

lemma interruptBatch_effect {reason : Option String} {replacement : String}
    (pt : (board st).Partitioned) (cur : isCurrentBatch c st batch = true → ∃ a, Current st batch a) :
    Effect G st (interruptBatch c st batch reason replacement).state := by
  unfold interruptBatch
  by_cases h : isCurrentBatch c st batch = true
  · obtain ⟨a, ha⟩ := cur h
    simp only [h, not_true_eq_false, if_false]
    have term : (WorkIntentState.cancelled "lead_interrupted").isTerminal = true := rfl
    refine (endBatch_effect pt ha term).trans (Unmoved.effect ⟨rfl, fun _ => rfl, le_refl _⟩)
  · simp only [h]
    exact .refl

lemma intents_completeState {k : String} :
    (completeState st s batch).intents[k]? =
      (st.intents[k]?).map fun i : WorkIntent =>
        { i with state := if completesWith s batch i then .completed else i.state } := by
  show (Std.TreeMap.map _ st.intents)[k]? = _
  rw [Table.get_map]
  cases st.intents[k]? with
  | none => rfl
  | some i =>
    simp only [Option.map_some]
    split_ifs <;> rfl

lemma mem_completedIntentIds (keyed : Keyed st) {k : String} {i : WorkIntent}
    (hi : st.intents[k]? = some i) :
    k ∈ completedIntentIds st s batch ↔ completesWith s batch i = true := by
  have id := keyed k i hi
  simp only [completedIntentIds, List.mem_append, List.mem_map, List.mem_filter]
  constructor
  · rintro (hk | ⟨i', ⟨hi', h⟩, rfl⟩)
    · simp [completesWith, id, hk]
    · rw [(mem_intents keyed).mp hi'] at hi
      cases hi
      exact h
  · intro h
    refine .inr ⟨i, ⟨(mem_intents keyed).mpr ?_, h⟩, id⟩
    rw [id]
    exact hi

lemma workOf_completeState {slot : SlotState} {s' : String} (hslot : st.slots[s]? = some slot) :
    workOf (completeState st s batch) s' =
      if s = s' then (fun l => (slot.queue l).filter (· ∉ completedIntentIds st s batch), none)
      else workOf st s' := by
  show workOf (CoordinatorState.modifySlot _ s _) s' = _
  rw [workOf_modifySlot (by exact hslot)]
  split_ifs
  · exact Prod.ext (funext fun _ => SlotState.queue_removeQueuedAll) rfl
  · rfl

lemma mem_intentIds_iff (pt : (board st).Partitioned) (keyed : Keyed st) (ha : activeOf st s = some a)
    {k : String} {i : WorkIntent} (hi : st.intents[k]? = some i) :
    i.intentId ∈ a.batch.intentIds ↔ i.state.isActive = true ∧ i.slotId = s := by
  rw [keyed k i hi]
  constructor
  · intro hk
    obtain ⟨i', hi', ht, hs⟩ := intent_of_batch pt ha hk
    rw [hi] at hi'
    cases hi'
    exact ⟨ht ▸ ActiveBatch.tag_isActive, hs⟩
  · rintro ⟨act, rfl⟩
    obtain ⟨a', ha', hk, _⟩ := batch_of_isActive pt hi act
    rw [ha] at ha'
    cases ha'
    exact hk

lemma completesWith_spec (pt : (board st).Partitioned) (keyed : Keyed st) (ha : activeOf st s = some a)
    {k : String} {i : WorkIntent} (hi : st.intents[k]? = some i)
    (done : completesWith s a.batch i = true) : i.slotId = s ∧ i.state.isTerminal = false := by
  simp only [completesWith, mem_intentIds_iff pt keyed ha hi, decide_eq_true_eq] at done
  rcases done with ⟨act, home⟩ | ⟨home, _, live⟩
  · exact ⟨home, WorkIntentState.not_isTerminal_of_isActive act⟩
  · exact ⟨home, Bool.eq_false_iff.mpr live⟩

lemma mem_lane_completeState {s' k : String} {l : WorkPriority} (pt : (board st).Partitioned)
    (keyed : Keyed st) (ha : activeOf st s = some a) :
    k ∈ (workOf (completeState st s a.batch) s').1 l ↔
      ∃ i, st.intents[k]? = some i ∧
        (if completesWith s a.batch i then .completed else i.state) = WorkIntentState.queued ∧
          i.slotId = s' ∧ i.priority = l := by
  obtain ⟨slot, hslot, _⟩ := known_of_active ha
  have lane := mem_lane (s := s') (k := k) (l := l) pt
  rw [workOf_completeState hslot]
  split_ifs with hs
  · subst hs
    rw [workOf_known hslot] at lane
    simp only [SlotState.work] at lane
    rw [List.mem_filter, lane]
    constructor
    · rintro ⟨⟨i, hi, hq, h⟩, out⟩
      have notDone : ¬ completesWith s a.batch i = true := fun done => by
        simp [(mem_completedIntentIds keyed hi).mpr done] at out
      exact ⟨i, hi, by rw [if_neg notDone, hq], h⟩
    · rintro ⟨i, hi, hq, h⟩
      split_ifs at hq with done
      refine ⟨⟨i, hi, hq, h⟩, ?_⟩
      rw [decide_eq_true_eq, mem_completedIntentIds keyed hi]
      exact done
  · rw [lane]
    constructor
    · rintro ⟨i, hi, hq, hs', h⟩
      have notDone : ¬ completesWith s a.batch i = true := fun done =>
        hs ((completesWith_spec pt keyed ha hi done).1.symm.trans hs')
      exact ⟨i, hi, by rw [if_neg notDone, hq], hs', h⟩
    · rintro ⟨i, hi, hq, h⟩
      split_ifs at hq
      exact ⟨i, hi, hq, h⟩

lemma completeState_effect (pt : (board st).Partitioned) (keyed : Keyed st)
    (ha : activeOf st s = some a) : Effect G st (completeState st s a.batch) := by
  obtain ⟨slot, hslot, _⟩ := known_of_active ha
  refine .settle (Q := (· = s))
    (F := fun _ i => if completesWith s a.batch i then .completed else i.state)
    pt (Nat.le_succ _) (fun k => intents_completeState) ?_ ?_ ?_ ?_
    (fun s' l k => mem_lane_completeState pt keyed ha)
  · intro s'
    rw [activeOf_eq, workOf_completeState hslot]
    simp only [eq_comm (a := s') (b := s)]
    split_ifs
    · rfl
    · exact activeOf_eq.symm
  · intro k i hi h
    refine if_neg fun done => ?_
    obtain ⟨home, live⟩ := completesWith_spec pt keyed ha hi done
    rcases h with term | ⟨_, away⟩
    · rw [live] at term
      cases term
    · exact away home
  · intro k i hi h
    split_ifs with done
    · exact .inr rfl
    · rcases h with hq | h
      · exact .inl hq
      · exact absurd (decide_eq_true (.inl ((mem_intentIds_iff pt keyed ha hi).mpr h))) done
  · intro s' l
    rw [workOf_completeState hslot]
    split_ifs
    · have nd := pt.nodup s l
      rw [show (board st).queue s l = slot.queue l by simp [board, workOf_known hslot, SlotState.work]] at nd
      exact nd.filter _
    · exact pt.nodup s' l

lemma completeBatchWithAck_effect (pt : (board st).Partitioned) (keyed : Keyed st) :
    Effect G st (completeBatchWithAck c st batch).state := by
  unfold completeBatchWithAck
  cases ha : activeOf st batch.slotId with
  | none => exact .refl
  | some active =>
    dsimp only
    split
    · exact .refl
    · exact completeState_effect pt keyed ha

lemma takeInterruptMetadata_unmoved {batchId : String} :
    Unmoved st (takeInterruptMetadata st batchId).state :=
  ⟨rfl, fun _ => rfl, le_refl _⟩

end SlotWorkCoordinator

end KiCore.Team

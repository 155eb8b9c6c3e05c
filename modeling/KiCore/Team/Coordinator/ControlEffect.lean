import KiCore.Team.Coordinator.BatchEffect

/-!
# The effects of the control operations

The effect on the board of the operations in `Control.lean`: queued intents are dropped by
`discard_queued_except` and `complete_signals`; `cancel_run` releases the batches that touch the run
and then drops what is left of it in the lanes; a slot is settled by `set_runtime_constraint` and by
`remove_slot`, and every slot by `stop`. The rest leaves the board alone.
-/

namespace KiCore.Team

open KiCore.Lib Classical

namespace SlotWorkCoordinator

variable {c : SlotWorkCoordinator} {G : CoordinatorBoard → String → WorkIntent → Prop}
  {st : CoordinatorState} {s k : String} {i : WorkIntent}

lemma pauseSlot_unmoved : Unmoved st (pauseSlot st s).state :=
  .putSlot (workOf_slotOrNew _)

lemma putSlot_twice_unmoved {slot slot' : SlotState} (h : slot.work = workOf st s)
    (h' : slot'.work = slot.work) : Unmoved st ((st.putSlot s slot).putSlot s slot') := by
  have put : Unmoved st (st.putSlot s slot) := .putSlot h
  refine put.trans (.putSlot ?_)
  rw [put.work, h', h]

lemma beginRuntimeRestartInner_unmoved {allowQueued : Bool} :
    Unmoved st (beginRuntimeRestartInner st s allowQueued).state := by
  have put : Unmoved st (st.putSlot s (st.slotOrNew s .teammate)) := .putSlot (workOf_slotOrNew _)
  have again (n : Nat) (constraint : RuntimeConstraint) : Unmoved st
      ({ st.putSlot s (st.slotOrNew s .teammate) with nextOperationId := n }.putSlot s
        { st.slotOrNew s .teammate with runtimeConstraint := constraint }) := by
    have numbered : Unmoved st { st.putSlot s (st.slotOrNew s .teammate) with nextOperationId := n } :=
      ⟨rfl, put.work, le_refl _⟩
    refine numbered.trans (.putSlot ?_)
    rw [numbered.work]
    exact workOf_slotOrNew _
  unfold beginRuntimeRestartInner
  dsimp only
  split
  · exact put
  · split
    · exact put
    · exact put
    · apply again
    · apply again
    · apply again

lemma abortRuntimeRestart_unmoved {gate : RuntimeRestartGate} :
    Unmoved st (abortRuntimeRestart st s gate).state := by
  unfold abortRuntimeRestart
  cases hs : st.slots[s]? with
  | none => exact .refl
  | some slot =>
    dsimp only
    split_ifs
    · exact .refl
    · exact .putSlot (workOf_known hs).symm

variable {fingerprint : String}

lemma requestMcpRefresh_unmoved : Unmoved st (requestMcpRefresh st s fingerprint).state := by
  unfold requestMcpRefresh
  dsimp only
  split_ifs
  · exact .putSlot (workOf_slotOrNew _)
  · exact putSlot_twice_unmoved (workOf_slotOrNew _) rfl
  · exact .putSlot (workOf_slotOrNew _)

lemma deferMcpRefresh_unmoved : Unmoved st (deferMcpRefresh st s fingerprint).state := by
  refine .putSlot ?_
  split_ifs
  · exact workOf_slotOrNew _
  · exact workOf_slotOrNew _

lemma claimPendingMcpRefresh_unmoved : Unmoved st (claimPendingMcpRefresh st s).state := by
  unfold claimPendingMcpRefresh
  cases hs : st.slots[s]? with
  | none => exact .refl
  | some slot =>
    dsimp only
    split_ifs
    · exact .refl
    · cases slot.pendingMcpFingerprint with
      | none => exact .refl
      | some _ => exact .putSlot (workOf_known hs).symm

lemma completeMcpRefresh_unmoved : Unmoved st (completeMcpRefresh st s fingerprint).state :=
  .modifySlot fun _ => rfl

lemma releaseMcpRefresh_unmoved : Unmoved st (releaseMcpRefresh st s fingerprint).state :=
  .modifySlot fun _ => by split_ifs <;> rfl

lemma settleMcpRefreshClaim_unmoved : Unmoved st (settleMcpRefreshClaim st s fingerprint).state :=
  .modifySlot fun _ => by split_ifs <;> rfl

lemma discardQueuedExcept_effect {retainedMessageId : String} (pt : (board st).Partitioned) :
    Effect G st (discardQueuedExcept st s retainedMessageId).state := by
  refine .drop pt rfl fun k hk => ?_
  have mem := (List.mem_filter.mp hk).1
  cases hs : st.slots[s]? with
  | none => simp [hs] at mem
  | some slot =>
    simp only [hs, Option.map_some, Option.getD_some] at mem
    obtain ⟨l, hl⟩ := SlotState.mem_queuedIds.mp mem
    rw [show slot.queue l = (workOf st s).1 l by rw [workOf_known hs]; rfl] at hl
    obtain ⟨i, hi, hq, hs', _⟩ := (mem_lane pt).mp hl
    exact ⟨i, hi, hs', .inl hq⟩

lemma completeSignals_effect {intentIds : List String} (pt : (board st).Partitioned) :
    Effect G st (completeSignals st s intentIds).state := by
  unfold completeSignals
  split
  · exact .refl
  next all =>
  refine .drop pt rfl fun k hk => ?_
  have h := List.all_eq_true.mp (not_not.mp all) k hk
  obtain ⟨i, hi, h⟩ := (Option.any_eq_true _ _).mp h
  simp only [decide_eq_true_eq] at h
  exact ⟨i, hi, h.1, .inl h.2.2⟩

variable {teamRunId : String}

lemma work_requeueRetained {a : ActiveBatch} {slot : SlotState}
    (pt : (board st).Partitioned) (ha : activeOf st s = some a) :
    (requeueRetained st teamRunId a.batch.intentIds { slot with active := none }).work =
      (fun l => (a.batch.intentIds.filter fun k =>
        ∃ i, st.intents[k]? = some i ∧ runVerdict teamRunId i = .queued ∧ i.priority = l) ++
          slot.queue l, none) := by
  unfold requeueRetained
  rw [work_pushFront]
  refine Prod.ext (funext fun l => congrArg (· ++ slot.queue l) ?_) rfl
  apply requeue_order
  · rintro k hk ⟨i, hi, hf, hl⟩
    unfold runVerdict at hf
    split at hf
    · cases hf
    next other => simp [hi, other, hl]
  · intro k hk none' k' e
    obtain ⟨i, hi, _⟩ := intent_of_batch pt ha hk
    rw [hi] at e
    simp only [Option.bind_some] at e
    split at e
    · cases e
    next other =>
    obtain ⟨hl, _⟩ := Prod.mk.inj (Option.some.inj e)
    exact none' ⟨i, hi, by simp [runVerdict, other], hl⟩

lemma dissolveBatch_effect {a : ActiveBatch} (pt : (board st).Partitioned)
    (ha : activeOf st s = some a) : Effect G st (dissolveBatch teamRunId st s a) := by
  refine .release pt ha (fun _ _ => rfl) (fun i => ?_) fun slot => work_requeueRetained pt ha
  unfold runVerdict
  split
  · exact .inr rfl
  · exact .inl rfl

lemma activeOf_dissolveBatch {teamRunId s' : String} {a : ActiveBatch} (ne : s ≠ s') :
    activeOf (dissolveBatch teamRunId st s a) s' = activeOf st s' := by
  unfold activeOf dissolveBatch
  rw [CoordinatorState.slots_modifySlot, if_neg ne]
  rfl

lemma dissolveAll_effect {slots : List (String × ActiveBatch)}
    (pt : (board st).Partitioned) (nodup : (slots.map Prod.fst).Nodup)
    (active : ∀ x ∈ slots, activeOf st x.1 = some x.2) :
    Effect G st
      (slots.foldl (fun state (slotId, active) => dissolveBatch teamRunId state slotId active) st) := by
  induction slots generalizing st with
  | nil => exact .refl
  | cons x slots ih =>
    obtain ⟨out, nodup⟩ := List.nodup_cons.mp nodup
    have first : Effect G st (dissolveBatch teamRunId st x.1 x.2) :=
      dissolveBatch_effect pt (active x (.head _))
    refine first.trans (ih (first.partitioned pt) nodup fun y hy => ?_)
    have ne : x.1 ≠ y.1 := fun e => out (e ▸ List.mem_map_of_mem hy)
    rw [activeOf_dissolveBatch ne]
    exact active y (.tail _ hy)

lemma activeSlotsOfRun_spec :
    ((activeSlotsOfRun st teamRunId).map Prod.fst).Nodup ∧
      ∀ x ∈ activeSlotsOfRun st teamRunId,
        activeOf st x.1 = some x.2 ∧ batchTouchesRun st teamRunId x.2.batch = true := by
  have mine : ∀ (x : String × SlotState) (y : String × ActiveBatch),
      (x.2.active.bind fun active =>
        if batchTouchesRun st teamRunId active.batch then some (x.1, active) else none) = some y →
      y.1 = x.1 ∧ x.2.active = some y.2 ∧ batchTouchesRun st teamRunId y.2.batch = true := by
    intro x y h
    obtain ⟨active, ha, h⟩ := Option.bind_eq_some_iff.mp h
    split at h
    next touches =>
      cases h
      exact ⟨rfl, ha, touches⟩
    · cases h
  constructor
  · have keys : (st.slots.toList.map Prod.fst).Nodup := by
      rw [Std.TreeMap.map_fst_toList_eq_keys]
      exact Std.TreeMap.nodup_keys
    refine List.pairwise_map.mpr (List.Pairwise.filterMap _ ?_ (List.pairwise_map.mp keys))
    intro x x' ne y hy y' hy'
    rw [(mine x y hy).1, (mine x' y' hy').1]
    exact ne
  · intro y hy
    obtain ⟨x, hx, h⟩ := List.mem_filterMap.mp hy
    obtain ⟨hs, ha, touches⟩ := mine x y h
    have known : st.slots[x.1]? = some x.2 := Std.TreeMap.mem_toList_iff_getElem?_eq_some.mp hx
    rw [hs]
    exact ⟨by simp [activeOf, known, ha], touches⟩

lemma cancelQueued_effect (pt : (board st).Partitioned) (hi : st.intents[k]? = some i)
    (waits : i.state = .queued ∨ i.state = .cancelled "run_cancelled") :
    Effect G st (cancelQueued st k) := by
  unfold cancelQueued
  rw [hi]
  refine .drop pt rfl fun k' hk' => ?_
  obtain rfl := List.mem_singleton.mp hk'
  exact ⟨i, hi, rfl, waits⟩

lemma cancelAll_effect {ids : List String} (pt : (board st).Partitioned)
    (waits : ∀ k ∈ ids, ∃ i, st.intents[k]? = some i ∧
      (i.state = .queued ∨ i.state = .cancelled "run_cancelled")) :
    Effect G st (ids.foldl cancelQueued st) := by
  induction ids generalizing st with
  | nil => exact .refl
  | cons k ids ih =>
    obtain ⟨i, hi, hw⟩ := waits k (.head _)
    have first : Effect G st (cancelQueued st k) := cancelQueued_effect pt hi hw
    refine first.trans (ih (first.partitioned pt) fun k' hk' => ?_)
    obtain ⟨i', hi', hw'⟩ := waits k' (.tail _ hk')
    have intents : (cancelQueued st k).intents[k']? =
        if k' ∈ [k] then st.intents[k']?.map (fun i => { i with state := .cancelled "run_cancelled" })
        else st.intents[k']? := by
      unfold cancelQueued
      rw [hi]
      exact CoordinatorState.intents_setStates fun _ _ => rfl
    rw [intents]
    split
    · exact ⟨_, by rw [hi']; rfl, .inr rfl⟩
    · exact ⟨i', hi', hw'⟩

/-- The state in which `cancel_run` has dissolved the batches that touch the run. -/
def dissolvedState (st : CoordinatorState) (teamRunId : String) : CoordinatorState :=
  (activeSlotsOfRun st teamRunId).foldl
    (fun state (slotId, active) => dissolveBatch teamRunId state slotId active) st

lemma dissolvedState_effect (pt : (board st).Partitioned) :
    Effect G st (dissolvedState st teamRunId) :=
  dissolveAll_effect pt activeSlotsOfRun_spec.1 fun x hx => (activeSlotsOfRun_spec.2 x hx).1

variable {order : IterOrder WorkIntent}

lemma mem_queuedIdsOfRun {teamRunId : String} (keyed : Keyed st) :
    k ∈ queuedIdsOfRun order st teamRunId ↔
      ∃ i, st.intents[k]? = some i ∧ i.teamRunId = some teamRunId ∧ i.state = .queued := by
  simp only [queuedIdsOfRun, List.mem_map, List.mem_filter, IterOrder.mem_arrange, decide_eq_true_eq]
  constructor
  · rintro ⟨i, ⟨hi, h⟩, rfl⟩
    exact ⟨i, (mem_intents keyed).mp hi, h⟩
  · rintro ⟨i, hi, h⟩
    have id := keyed k i hi
    exact ⟨i, ⟨(mem_intents keyed).mpr (id ▸ hi), h⟩, id⟩

/-- The state in which `cancel_run` has also cancelled what was left of the run in the lanes. -/
def cancelledState (c : SlotWorkCoordinator) (st : CoordinatorState) (teamRunId : String) :
    CoordinatorState :=
  (queuedIdsOfRun (c.hashOrder st.ticks) (dissolvedState st teamRunId) teamRunId).foldl cancelQueued
    (dissolvedState st teamRunId)

lemma cancelRun_state :
    (cancelRun c st teamRunId).state = dropLeases (cancelledState c st teamRunId).tick teamRunId :=
  rfl

lemma cancelledState_effect (pt : (board st).Partitioned) (keyed : Keyed st) :
    Effect G st (cancelledState c st teamRunId) := by
  have first : Effect (fun _ _ _ => False) st (dissolvedState st teamRunId) := dissolvedState_effect pt
  have keyed' : Keyed (dissolvedState st teamRunId) := keyed.moves pt first.moves fun _ _ _ h => h.elim
  refine (dissolvedState_effect pt).trans (cancelAll_effect (first.partitioned pt) fun k hk => ?_)
  obtain ⟨i, hi, _, hq⟩ := (mem_queuedIdsOfRun keyed').mp hk
  exact ⟨i, hi, .inl hq⟩

lemma dropLeases_unmoved : Unmoved st (dropLeases st.tick teamRunId) :=
  ⟨rfl, fun _ => rfl, Nat.le_succ _⟩

lemma cancelRun_effect (pt : (board st).Partitioned) (keyed : Keyed st) :
    Effect G st (cancelRun c st teamRunId).state := by
  rw [cancelRun_state]
  exact (cancelledState_effect pt keyed).trans (dropLeases_unmoved.effect)

/-- The slots in `Q` lose all their work: their live intents get one terminal state. -/
lemma Effect.clear {st' : CoordinatorState} {Q : String → Prop} [DecidablePred Q] {t : WorkIntentState}
    (pt : (board st).Partitioned) (term : t.isTerminal = true) (ticks : st.ticks ≤ st'.ticks)
    (intents : ∀ k : String, st'.intents[k]? = (st.intents[k]?).map fun i : WorkIntent =>
      { i with state := if Q i.slotId ∧ i.state.isTerminal = false then t else i.state })
    (work : ∀ s, workOf st' s = if Q s then (fun _ => [], none) else workOf st s) :
    Effect G st st' := by
  have ne : t ≠ .queued := by
    rintro rfl
    cases term
  refine .settle (Q := Q) (F := fun _ i => if Q i.slotId ∧ i.state.isTerminal = false then t else i.state)
    pt ticks intents ?_ ?_ ?_ ?_ ?_
  · intro s
    rw [activeOf_eq, activeOf_eq, work]
    split_ifs <;> rfl
  · rintro k i hi (h | ⟨_, h⟩)
    · simp [h]
    · simp [h]
  · intro k i hi h
    split_ifs with live
    · exact .inr term
    · rcases h with hq | ⟨act, hQ⟩
      · exact .inl hq
      · exact absurd ⟨hQ, WorkIntentState.not_isTerminal_of_isActive act⟩ live
  · intro s l
    rw [work]
    split_ifs
    · exact List.nodup_nil
    · exact pt.nodup s l
  · intro s l k
    rw [work]
    split_ifs with hQ
    · simp only [List.not_mem_nil, false_iff]
      rintro ⟨i, hi, hq, rfl, _⟩
      split_ifs at hq with live
      · exact ne hq
      · exact live ⟨hQ, by rw [hq]; rfl⟩
    · rw [mem_lane pt]
      constructor
      · rintro ⟨i, hi, hq, hs, hl⟩
        refine ⟨i, hi, ?_, hs, hl⟩
        rw [if_neg fun h => hQ (hs ▸ h.1), hq]
      · rintro ⟨i, hi, hq, hs, hl⟩
        rw [if_neg fun h => hQ (hs ▸ h.1)] at hq
        exact ⟨i, hi, hq, hs, hl⟩

lemma mem_removedIntentIds (pt : (board st).Partitioned) (keyed : Keyed st)
    (hi : st.intents[k]? = some i) :
    k ∈ removedIntentIds st s ↔ i.slotId = s ∧ i.state.isTerminal = false := by
  have id := keyed k i hi
  simp only [removedIntentIds, List.mem_append, List.mem_map, List.mem_insertionSort, List.mem_filter]
  constructor
  · rintro (ordered | ⟨i', ⟨hi', h⟩, rfl⟩)
    · -- The batch and the lanes of the slot hold live intents of the slot.
      cases hs : st.slots[s]? with
      | none => simp [hs] at ordered
      | some slot =>
        simp only [hs, Option.map_some, Option.getD_some, List.mem_append, List.mem_flatMap,
          Option.mem_toList] at ordered
        rcases ordered with ⟨a, ha, hk⟩ | hk
        · have active : activeOf st s = some a := by simpa [activeOf, hs] using ha
          obtain ⟨i', hi', ht, hs'⟩ := intent_of_batch pt active hk
          rw [hi] at hi'
          cases hi'
          exact ⟨hs', WorkIntentState.not_isTerminal_of_isActive (ht ▸ ActiveBatch.tag_isActive)⟩
        · obtain ⟨l, hl⟩ := SlotState.mem_queuedIds.mp hk
          rw [show slot.queue l = (workOf st s).1 l by rw [workOf_known hs]; rfl] at hl
          obtain ⟨i', hi', hq, hs', _⟩ := (mem_lane pt).mp hl
          rw [hi] at hi'
          cases hi'
          exact ⟨hs', by rw [hq]; rfl⟩
    · rw [(mem_intents keyed).mp hi'] at hi
      cases hi
      simp only [decide_eq_true_eq, Bool.not_eq_true] at h
      exact ⟨h.1, h.2.1⟩
  · rintro ⟨hs, live⟩
    refine or_iff_not_imp_left.mpr fun out => ⟨i, ⟨(mem_intents keyed).mpr (id ▸ hi), ?_⟩, id⟩
    simp only [decide_eq_true_eq, Bool.not_eq_true, id]
    exact ⟨hs, live, out⟩

lemma intents_removeSlot (pt : (board st).Partitioned) (keyed : Keyed st) :
    (removeSlot st s).state.intents[k]? = (st.intents[k]?).map fun i : WorkIntent =>
      { i with
        state := if i.slotId = s ∧ i.state.isTerminal = false then .cancelled "slot_removed" else i.state } := by
  show (st.setStates (removedIntentIds st s) _).intents[k]? = _
  rw [CoordinatorState.intents_setStates fun _ _ => rfl]
  cases hi : st.intents[k]? with
  | none => simp
  | some i =>
    simp only [Option.map_some, mem_removedIntentIds pt keyed hi]
    split_ifs <;> rfl

lemma removeSlot_effect (pt : (board st).Partitioned) (keyed : Keyed st) :
    Effect G st (removeSlot st s).state := by
  refine .clear (Q := (· = s)) pt rfl (le_refl _) (fun k => intents_removeSlot pt keyed) fun s' => ?_
  · simp only [eq_comm (a := s') (b := s)]
    exact workOf_modifySlot_cleared fun slot => slot.work_clearWork

lemma intents_stop : (stop st).state.intents[k]? = (st.intents[k]?).map fun i : WorkIntent =>
    { i with
      state := if True ∧ i.state.isTerminal = false then .cancelled "session_stopped" else i.state } := by
  show (Std.TreeMap.map _ st.intents)[k]? = _
  rw [Table.get_map]
  cases st.intents[k]? with
  | none => rfl
  | some i =>
    simp only [Option.map_some, true_and, Option.some.injEq]
    cases h : i.state.isTerminal <;> simp

lemma stop_effect (pt : (board st).Partitioned) : Effect G st (stop st).state := by
  refine .clear (Q := fun _ => True) pt rfl (le_refl _) (fun k => intents_stop) fun s' => ?_
  · show Option.getD (Option.map _ ((Std.TreeMap.map _ st.slots)[s']?)) _ = _
    rw [Table.get_map, if_pos trivial]
    cases st.slots[s']? with
    | none => rfl
    | some slot => exact slot.work_clearWork

lemma mem_liveIntentsOfSlot (keyed : Keyed st) :
    i ∈ liveIntentsOfSlot order st s ↔
      st.intents[i.intentId]? = some i ∧ i.slotId = s ∧ i.state.isTerminal = false := by
  simp only [liveIntentsOfSlot, List.mem_filter, IterOrder.mem_arrange, mem_intents keyed,
    decide_eq_true_eq, Bool.not_eq_true]

lemma liveIntentsOfSlot_nodup (keyed : Keyed st) :
    ((liveIntentsOfSlot order st s).map (·.intentId)).Nodup := by
  have keys : (Table.values st.intents).map (·.intentId) = st.intents.keys := by
    rw [Table.values, List.map_map, ← Std.TreeMap.map_fst_toList_eq_keys]
    refine List.map_congr_left fun x hx => ?_
    exact keyed x.1 x.2 (Std.TreeMap.mem_toList_iff_getElem?_eq_some.mp hx)
  have all : ((order.arrange (Table.values st.intents)).map (·.intentId)).Nodup := by
    rw [((order.perm _).map _).nodup_iff, keys]
    exact Std.TreeMap.nodup_keys
  exact all.sublist (List.filter_sublist.map _)

lemma work_pushBack {intents : List WorkIntent} {slot : SlotState} :
    (intents.foldl (fun slot intent => slot.pushBack intent.priority intent.intentId) slot).work =
      (fun l => slot.queue l ++ (intents.filter fun i => i.priority = l).map (·.intentId),
        slot.active) := by
  induction intents generalizing slot with
  | nil => simp [SlotState.work]
  | cons i intents ih =>
    rw [List.foldl_cons, ih]
    refine Prod.ext (funext fun l => ?_) SlotState.active_pushBack
    simp only [SlotState.queue_pushBack, List.filter_cons]
    by_cases hl : l = i.priority
    · simp [hl]
    · simp [hl, Ne.symm hl]

lemma constraintVerdict_spec (i : WorkIntent) (constraint : RuntimeConstraint)
    (classification : String) :
    constraintVerdict constraint classification i = .queued ∧ survives constraint i = true ∨
      (constraintVerdict constraint classification i).isTerminal = true ∧
        survives constraint i = false := by
  unfold constraintVerdict
  cases survives constraint i with
  | true => exact .inl ⟨rfl, rfl⟩
  | false =>
    refine .inr ⟨?_, rfl⟩
    by_cases h : constraint = .sessionStopped <;> simp [h, WorkIntentState.isTerminal]

lemma intents_endSlotWork {constraint : RuntimeConstraint}
    {classification : String} (keyed : Keyed st) :
    (endSlotWork order st s constraint classification).intents[k]? =
      (st.intents[k]?).map fun i : WorkIntent =>
        { i with
          state :=
            if i.slotId = s ∧ i.state.isTerminal = false then
              constraintVerdict constraint classification i
            else i.state } := by
  show (st.setStates _ _).intents[k]? = _
  rw [CoordinatorState.intents_setStates fun _ _ => rfl]
  cases hi : st.intents[k]? with
  | none => simp
  | some i =>
    have id := keyed k i hi
    have live : k ∈ (liveIntentsOfSlot order st s).map (·.intentId) ↔
        i.slotId = s ∧ i.state.isTerminal = false := by
      rw [List.mem_map]
      constructor
      · rintro ⟨i', hi', rfl⟩
        obtain ⟨h, live⟩ := (mem_liveIntentsOfSlot keyed).mp hi'
        rw [h] at hi
        cases hi
        exact live
      · intro live
        exact ⟨i, (mem_liveIntentsOfSlot keyed).mpr ⟨id ▸ hi, live⟩, id⟩
    simp only [Option.map_some, live]
    split_ifs <;> rfl

lemma workOf_endSlotWork {constraint : RuntimeConstraint}
    {classification s' : String} {slot : SlotState} (hslot : st.slots[s]? = some slot) :
    workOf (endSlotWork order st s constraint classification) s' =
      if s = s' then
        (fun l => (((liveIntentsOfSlot order st s).filter (survives constraint)).filter
          fun i => i.priority = l).map (·.intentId), none)
      else workOf st s' := by
  show workOf (CoordinatorState.modifySlot _ s _) s' = _
  rw [workOf_modifySlot (by exact hslot), work_pushBack]
  split_ifs
  · refine Prod.ext (funext fun l => ?_) rfl
    have lane : slot.clearWork.queue l = [] := congrFun (congrArg Prod.fst slot.work_clearWork) l
    simp only [lane, List.nil_append]
  · rfl

/-- A constraint that ends work settles the slot: its live intents end, except those that survive,
which go back to their lanes. -/
lemma endSlotWork_effect {constraint : RuntimeConstraint}
    {classification : String} {slot : SlotState} (pt : (board st).Partitioned) (keyed : Keyed st)
    (hslot : st.slots[s]? = some slot) :
    Effect G st (endSlotWork order st s constraint classification) := by
  have work : ∀ s', workOf (endSlotWork order st s constraint classification) s' =
      if s = s' then
        (fun l => (((liveIntentsOfSlot order st s).filter (survives constraint)).filter
          fun i => i.priority = l).map (·.intentId), none)
      else workOf st s' := fun _ => workOf_endSlotWork hslot
  refine .settle (Q := (· = s)) pt (Nat.le_succ _) (fun k => intents_endSlotWork keyed) ?_ ?_ ?_ ?_ ?_
  · intro s'
    rw [activeOf_eq, activeOf_eq, work]
    simp only [eq_comm (a := s') (b := s)]
    split_ifs <;> rfl
  · rintro k i hi (h | ⟨_, h⟩)
    · simp [h]
    · simp [h]
  · intro k i hi h
    split_ifs with live
    · rcases constraintVerdict_spec i constraint classification with ⟨h, _⟩ | ⟨h, _⟩
      · exact .inl h
      · exact .inr h
    · rcases h with hq | ⟨act, hs⟩
      · exact .inl hq
      · exact absurd ⟨hs, WorkIntentState.not_isTerminal_of_isActive act⟩ live
  · intro s' l
    rw [work]
    split_ifs
    · exact (liveIntentsOfSlot_nodup keyed).sublist
        ((List.filter_sublist.trans List.filter_sublist).map _)
    · exact pt.nodup s' l
  · intro s' l k
    rw [work]
    split_ifs with hs
    · subst hs
      simp only [List.mem_map, List.mem_filter, mem_liveIntentsOfSlot keyed, decide_eq_true_eq]
      constructor
      · rintro ⟨i, ⟨⟨⟨hi, live⟩, sv⟩, hl⟩, rfl⟩
        refine ⟨i, hi, ?_, live.1, hl⟩
        rw [if_pos live]
        simp [constraintVerdict, sv]
      · rintro ⟨i, hi, hq, hs, hl⟩
        have id := keyed k i hi
        split_ifs at hq with live
        · refine ⟨i, ⟨⟨⟨id ▸ hi, live⟩, ?_⟩, hl⟩, id⟩
          rcases constraintVerdict_spec i constraint classification with ⟨_, h⟩ | ⟨h, _⟩
          · exact h
          · rw [hq] at h
            cases h
        · exact absurd ⟨hs, by rw [hq]; rfl⟩ live
    · rw [mem_lane pt]
      constructor
      · rintro ⟨i, hi, hq, hs', hl⟩
        refine ⟨i, hi, ?_, hs', hl⟩
        rw [if_neg fun h => hs (h.1.symm.trans hs'), hq]
      · rintro ⟨i, hi, hq, hs', hl⟩
        rw [if_neg fun h => hs (h.1.symm.trans hs')] at hq
        exact ⟨i, hi, hq, hs', hl⟩

def constrainedState (st : CoordinatorState) (slotId : String) (constraint : RuntimeConstraint) :
    CoordinatorState :=
  st.putSlot slotId { st.slotOrNew slotId .teammate with runtimeConstraint := constraint }

variable {constraint : RuntimeConstraint}

lemma constrainedState_unmoved : Unmoved st (constrainedState st s constraint) :=
  .putSlot (workOf_slotOrNew _)

lemma setRuntimeConstraint_state :
    (setRuntimeConstraint c st s constraint).state =
      match endsWork constraint with
      | some classification =>
        endSlotWork (c.hashOrder st.ticks) (constrainedState st s constraint) s constraint classification
      | none => constrainedState st s constraint :=
  rfl

lemma setRuntimeConstraint_effect (pt : (board st).Partitioned)
    (keyed : Keyed st) : Effect G st (setRuntimeConstraint c st s constraint).state := by
  rw [setRuntimeConstraint_state]
  have put : Unmoved st (constrainedState st s constraint) := constrainedState_unmoved
  have known : (constrainedState st s constraint).slots[s]? =
      some { st.slotOrNew s .teammate with runtimeConstraint := constraint } :=
    CoordinatorState.slots_putSlot.trans (if_pos rfl)
  cases endsWork constraint with
  | none => exact put.effect
  | some classification =>
    refine (put.effect).trans (endSlotWork_effect ?_ keyed known)
    rw [put.board]
    exact pt

end SlotWorkCoordinator

end KiCore.Team

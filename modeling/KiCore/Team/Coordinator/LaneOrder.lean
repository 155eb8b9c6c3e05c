import KiCore.Team.Coordinator.Invariant

/-!
# The order of the lanes

The line of a lane is what the batch of its slot holds of it, followed by what waits in it. A batch is
taken from the head of a lane, and a batch that is handed back or dissolved returns to the front of it.
So an operation that enqueues nothing only takes members out of the lines (`exec_shrinks`), except a
runtime failure, which writes the surviving intents back in the order in which the hash map of intents
is iterated (`HashInLine`).
-/

namespace KiCore.Team

open KiCore.Lib

def heldIn : Option ActiveBatch → WorkPriority → List String
  | some active, l => if active.batch.highestPriority = l then active.batch.intentIds else []
  | none, _ => []

/-- The line of a lane: what the batch holds of it, then what waits in it. -/
def SlotState.line (slot : SlotState) (l : WorkPriority) : List String :=
  heldIn slot.active l ++ slot.queue l

def Op.enqueues : Op → Bool
  | .commitEnqueue _ _ | .reconcileMailboxSnapshot _ _ _ _ => true
  | _ => false

namespace SlotWorkCoordinator

def laneOf (st : CoordinatorState) (s : String) (l : WorkPriority) : List String :=
  ((st.slots[s]?).map (·.queue l)).getD []

def lineOf (st : CoordinatorState) (s : String) (l : WorkPriority) : List String :=
  ((st.slots[s]?).map (·.line l)).getD []

/-- The intents that a failed runtime leaves to a lane, in the order the hash map is iterated. -/
def survivorsOf (c : SlotWorkCoordinator) (st : CoordinatorState) (s : String)
    (constraint : RuntimeConstraint) (l : WorkPriority) : List String :=
  (((liveIntentsOfSlot (c.hashOrder st.ticks) st s).filter (survives constraint)).filter
    fun i => i.priority = l).map (·.intentId)

def HashInLine (c : SlotWorkCoordinator) (st : CoordinatorState) : Op → Prop
  | .setRuntimeConstraint s constraint => (endsWork constraint).isSome = true → ∀ l,
      survivorsOf c st s constraint l =
        (lineOf st s l).filter (· ∈ survivorsOf c st s constraint l)
  | _ => True

variable {c : SlotWorkCoordinator} {st st' st'' : CoordinatorState} {σ : Tracked} {op : Op}
  {ops : List Op} {s k k' : String} {l : WorkPriority} {i : WorkIntent} {a : ActiveBatch}
  {batch : WorkBatch} {slot : SlotState} {g : SlotState → SlotState}

lemma laneOf_eq : laneOf st s l = (workOf st s).1 l := by
  unfold laneOf workOf
  cases st.slots[s]? <;> rfl

lemma lineOf_eq : lineOf st s l = heldIn (activeOf st s) l ++ (workOf st s).1 l := by
  unfold lineOf activeOf workOf
  cases st.slots[s]? <;> rfl

lemma lineOf_known (h : st.slots[s]? = some slot) : lineOf st s l = slot.line l := by
  simp [lineOf, h]

lemma laneOf_sublist : (laneOf st s l).Sublist (lineOf st s l) := by
  rw [laneOf_eq, lineOf_eq]
  exact List.sublist_append_right ..

lemma mem_heldIn {active : Option ActiveBatch} :
    k ∈ heldIn active l ↔ ∃ a, active = some a ∧ a.batch.highestPriority = l ∧ k ∈ a.batch.intentIds := by
  cases active with
  | none => simp [heldIn]
  | some a =>
    by_cases hl : a.batch.highestPriority = l <;> simp [heldIn, hl]

lemma live_of_line (pt : (board st).Partitioned) (h : k ∈ lineOf st s l) :
    ∃ i, st.intents[k]? = some i ∧ i.slotId = s := by
  rw [lineOf_eq, List.mem_append, mem_heldIn] at h
  rcases h with ⟨a, ha, _, hk⟩ | hk
  · obtain ⟨i, hi, _, hs⟩ := intent_of_batch pt ha hk
    exact ⟨i, hi, hs⟩
  · obtain ⟨i, hi, _, hs, _⟩ := (mem_lane pt).mp hk
    exact ⟨i, hi, hs⟩

lemma lineOf_nodup (pt : (board st).Partitioned) : (lineOf st s l).Nodup := by
  rw [lineOf_eq]
  apply List.nodup_append.mpr
  refine ⟨?_, pt.nodup s l, ?_⟩
  · cases ha : activeOf st s with
    | none => exact List.nodup_nil
    | some a =>
      have nodup := batch_nodup pt ha
      simp only [heldIn]
      split
      · exact nodup
      · exact List.nodup_nil
  · intro k held k' waits same
    subst same
    obtain ⟨a, ha, _, hk⟩ := mem_heldIn.mp held
    obtain ⟨i, hi, ht, _⟩ := intent_of_batch pt ha hk
    obtain ⟨i', hi', hq, _⟩ := (mem_lane pt).mp waits
    rw [hi] at hi'
    cases hi'
    have active := a.tag_isActive
    rw [← ht, hq] at active
    cases active

/-- No line gains a member or changes its order. -/
def Shrinks (st st' : CoordinatorState) : Prop :=
  ∀ s l, (lineOf st' s l).Sublist (lineOf st s l)

lemma Shrinks.refl : Shrinks st st :=
  fun _ _ => .refl _

lemma Shrinks.trans (x : Shrinks st st') (y : Shrinks st' st'') : Shrinks st st'' :=
  fun s l => (y s l).trans (x s l)

lemma Unmoved.shrinks (u : Unmoved st st') : Shrinks st st' := by
  intro s l
  rw [lineOf_eq, lineOf_eq, u.active, u.work]

lemma shrinks_modifySlot (h : ∀ slot, st.slots[s]? = some slot → ∀ l,
    ((g slot).line l).Sublist (slot.line l)) : Shrinks st (st.modifySlot s g) := by
  intro s' l
  unfold lineOf
  rw [CoordinatorState.slots_modifySlot]
  split_ifs with hs
  · subst hs
    cases known : st.slots[s]? with
    | none => exact .refl _
    | some slot => exact h slot known l
  · exact .refl _

lemma Shrinks.of_work {lanes : WorkPriority → List String}
    (work : ∀ s', workOf st' s' = if s = s' then (lanes, none) else workOf st s')
    (sub : ∀ l, (lanes l).Sublist (lineOf st s l)) : Shrinks st st' := by
  intro s' l
  rw [lineOf_eq, activeOf_eq, work]
  split_ifs with hs
  · subst hs
    exact sub l
  · rw [lineOf_eq, activeOf_eq]

lemma shrinks_removeQueuedAll {ids : List String} :
    Shrinks st (st.modifySlot s (·.removeQueuedAll ids)) := by
  apply shrinks_modifySlot
  intro slot _ l
  unfold SlotState.line
  rw [SlotState.active_removeQueuedAll, SlotState.queue_removeQueuedAll]
  exact (List.Sublist.refl _).append List.filter_sublist

lemma shrinks_modifyActive {f : ActiveBatch → ActiveBatch}
    (same : ∀ a, activeOf st s = some a → (f a).batch.asClaimed = a.batch.asClaimed) :
    Shrinks st (modifyActive st s f) := by
  apply shrinks_modifySlot
  intro slot known l
  have lanes : SlotState.queue { slot with active := slot.active.map f } = slot.queue := by
    funext l
    cases l <;> rfl
  unfold SlotState.line
  rw [lanes]
  apply List.Sublist.append_right
  cases ha : slot.active with
  | none => exact .refl _
  | some a =>
    have e := same a (by simp [activeOf, known, ha])
    have priority : (f a).batch.highestPriority = a.batch.highestPriority :=
      (congrArg WorkBatch.highestPriority e :)
    have ids : (f a).batch.intentIds = a.batch.intentIds := (congrArg WorkBatch.intentIds e :)
    simp only [Option.map_some, heldIn, priority, ids]
    exact .refl _

lemma retryStart_shrinks (cur : isCurrentBatch c st batch = true → ∃ a, Current st batch a) :
    Shrinks st (retryStart c st batch).state := by
  unfold retryStart
  cases h : isCurrentBatch c st batch with
  | false => exact .refl
  | true =>
    obtain ⟨a, ha, e⟩ := cur h
    have priority : a.batch.highestPriority = batch.highestPriority :=
      (congrArg WorkBatch.highestPriority e :)
    have ids : a.batch.intentIds = batch.intentIds := (congrArg WorkBatch.intentIds e :)
    have put : Shrinks (st.setStates batch.intentIds fun _ => .queued) _ :=
      shrinks_modifySlot (s := batch.slotId)
        (g := fun slot => batch.intentIds.reverse.foldl
          (fun slot intentId => slot.pushFront batch.highestPriority intentId)
          { slot with active := none })
        fun slot known l => by
          have active : slot.active = some a := by
            have found : st.slots[batch.slotId]? = some slot := known
            simpa [activeOf, found] using ha
          let after := batch.intentIds.reverse.foldl
            (fun slot intentId => slot.pushFront batch.highestPriority intentId)
            { slot with active := none }
          have work : after.work = (fun l => if l = batch.highestPriority then
              batch.intentIds ++ slot.queue l else slot.queue l, none) := work_pushFront_reverse
          have lane := congrFun (congrArg Prod.fst work) l
          have gone := congrArg Prod.snd work
          simp only [SlotState.work, after] at lane gone
          simp only [SlotState.line, lane, gone, active, heldIn, priority, ids]
          by_cases hl : l = batch.highestPriority
          · subst hl
            simp only [if_true, List.nil_append]
            exact .refl _
          · rw [if_neg hl]
            exact List.sublist_append_right ..
    exact put

/-- The intents of a batch wait in its lane. -/
def Graded (st : CoordinatorState) (a : ActiveBatch) : Prop :=
  ∀ k ∈ a.batch.intentIds, ∀ i, st.intents[k]? = some i → i.priority = a.batch.highestPriority

lemma dissolveBatch_shrinks {teamRunId : String} (pt : (board st).Partitioned)
    (ha : activeOf st s = some a) (graded : Graded st a) :
    Shrinks st (dissolveBatch teamRunId st s a) := by
  have put : Shrinks (st.setStates a.batch.intentIds (runVerdict teamRunId)) _ :=
    shrinks_modifySlot (s := s)
      (g := fun slot => requeueRetained st teamRunId a.batch.intentIds { slot with active := none })
      fun slot known l => by
        have active : slot.active = some a := by
          have found : st.slots[s]? = some slot := known
          simpa [activeOf, found] using ha
        let after := requeueRetained st teamRunId a.batch.intentIds { slot with active := none }
        have work : after.work = _ := work_requeueRetained pt ha
        have lane := congrFun (congrArg Prod.fst work) l
        have gone := congrArg Prod.snd work
        simp only [SlotState.work, after] at lane gone
        simp only [SlotState.line, lane, gone, active, heldIn, List.nil_append]
        apply List.Sublist.append_right
        split_ifs with hl
        · exact List.filter_sublist
        · -- A batch holds nothing of another lane.
          rw [List.filter_eq_nil_iff.mpr]
          intro k hk found
          simp only [decide_eq_true_eq] at found
          obtain ⟨i, hi, _, other⟩ := found
          exact hl ((graded k hk i hi).symm.trans other)
  exact put

lemma dissolveAll_shrinks {teamRunId : String} {slots : List (String × ActiveBatch)}
    (pt : (board st).Partitioned) (nodup : (slots.map Prod.fst).Nodup)
    (active : ∀ x ∈ slots, activeOf st x.1 = some x.2) (graded : ∀ x ∈ slots, Graded st x.2) :
    Shrinks st
      (slots.foldl (fun state (slotId, active) => dissolveBatch teamRunId state slotId active) st) := by
  induction slots generalizing st with
  | nil => exact .refl
  | cons x slots ih =>
    obtain ⟨out, nodup⟩ := List.nodup_cons.mp nodup
    have effect : Effect (fun _ _ _ => False) st (dissolveBatch teamRunId st x.1 x.2) :=
      dissolveBatch_effect pt (active x (.head _))
    have first : Shrinks st (dissolveBatch teamRunId st x.1 x.2) :=
      dissolveBatch_shrinks pt (active x (.head _)) (graded x (.head _))
    refine first.trans (ih (effect.partitioned pt) nodup ?_ ?_)
    · intro y hy
      have ne : x.1 ≠ y.1 := fun e => out (e ▸ List.mem_map_of_mem hy)
      rw [activeOf_dissolveBatch ne]
      exact active y (.tail _ hy)
    · intro y hy k hk i' hi'
      obtain ⟨i, hi, _⟩ := intent_of_batch pt (active y (.tail _ hy)) hk
      obtain ⟨i2, hi2, ticket, _⟩ := intent_mono pt effect.moves hi
      rw [hi'] at hi2
      cases hi2
      have same : i'.priority = i.priority := (congrArg WorkIntent.priority ticket :)
      rw [same]
      exact graded y (.tail _ hy) k hk i hi

lemma cancelQueued_shrinks : Shrinks st (cancelQueued st k) := by
  unfold cancelQueued
  cases st.intents[k]? with
  | none => exact .refl
  | some i =>
    have removed : Shrinks (st.setStates [k] fun _ => .cancelled "run_cancelled")
        ((st.setStates [k] fun _ => .cancelled "run_cancelled").modifySlot i.slotId
          (·.removeQueuedAll [k])) := shrinks_removeQueuedAll
    exact removed

lemma cancelAll_shrinks {ids : List String} : Shrinks st (ids.foldl cancelQueued st) := by
  induction ids generalizing st with
  | nil => exact .refl
  | cons k ids ih => exact cancelQueued_shrinks.trans ih

lemma cancelRun_shrinks {teamRunId : String} (pt : (board st).Partitioned)
    (graded : ∀ s a, activeOf st s = some a → Graded st a) :
    Shrinks st (cancelRun c st teamRunId).state := by
  rw [cancelRun_state]
  have dissolved : Shrinks st (dissolvedState st teamRunId) :=
    dissolveAll_shrinks pt activeSlotsOfRun_spec.1 (fun x hx => (activeSlotsOfRun_spec.2 x hx).1)
      fun x hx => graded _ _ (activeSlotsOfRun_spec.2 x hx).1
  exact (dissolved.trans cancelAll_shrinks).trans dropLeases_unmoved.shrinks

lemma setRuntimeConstraint_shrinks {constraint : RuntimeConstraint}
    (inLine : HashInLine c st (.setRuntimeConstraint s constraint)) :
    Shrinks st (setRuntimeConstraint c st s constraint).state := by
  have put : Unmoved st (constrainedState st s constraint) := constrainedState_unmoved
  have known : (constrainedState st s constraint).slots[s]? =
      some { st.slotOrNew s .teammate with runtimeConstraint := constraint } :=
    CoordinatorState.slots_putSlot.trans (if_pos rfl)
  rw [setRuntimeConstraint_state]
  cases ends : endsWork constraint with
  | none => exact put.shrinks
  | some classification =>
    refine put.shrinks.trans (Shrinks.of_work (fun _ => workOf_endSlotWork known) fun l => ?_)
    have kept := inLine (by rw [ends]; rfl) l
    have line : lineOf (constrainedState st s constraint) s l = lineOf st s l := by
      rw [lineOf_eq, lineOf_eq, put.active, put.work]
    rw [line]
    show (survivorsOf c st s constraint l).Sublist _
    rw [kept]
    exact List.filter_sublist

lemma endBatch_shrinks {t : WorkIntentState} {delivery : DeliveryOutcome} {ids : List String} :
    Shrinks st ((st.setStates ids fun _ => t).modifySlot s
      fun slot => (settleDelivery { slot with active := none } batch delivery).1) := by
  have put : Shrinks (st.setStates ids fun _ => t) _ :=
    shrinks_modifySlot (s := s)
      (g := fun slot => (settleDelivery { slot with active := none } batch delivery).1)
      fun slot _ l => by
        let after := (settleDelivery { slot with active := none } batch delivery).1
        have work : after.work = (slot.queue, none) := work_settleDelivery
        have lane := congrFun (congrArg Prod.fst work) l
        have gone := congrArg Prod.snd work
        simp only [SlotState.work, after] at lane gone
        simp only [SlotState.line, lane, gone, heldIn, List.nil_append]
        exact List.sublist_append_right ..
  exact put

lemma terminalizeBatch_shrinks {t : WorkIntentState} {delivery : DeliveryOutcome} :
    Shrinks st (terminalizeBatch c st batch t delivery).state := by
  rw [terminalizeBatch_state]
  split_ifs
  · exact endBatch_shrinks
  · exact .refl

lemma interruptBatch_shrinks {reason : Option String} {replacement : String} :
    Shrinks st (interruptBatch c st batch reason replacement).state := by
  unfold interruptBatch
  split
  · exact .refl
  · exact endBatch_shrinks

lemma completeBatchWithAck_shrinks : Shrinks st (completeBatchWithAck c st batch).state := by
  unfold completeBatchWithAck
  cases ha : activeOf st batch.slotId with
  | none => exact .refl
  | some active =>
    dsimp only
    split
    · exact .refl
    · obtain ⟨slot, hslot, _⟩ := known_of_active ha
      refine .of_work (fun _ => workOf_completeState hslot) fun l => ?_
      rw [lineOf_known hslot]
      exact List.filter_sublist.trans (List.sublist_append_right ..)

lemma removeSlot_shrinks : Shrinks st (removeSlot st s).state := by
  have cleared : Shrinks (st.setStates (removedIntentIds st s) fun _ => .cancelled "slot_removed") _ :=
    shrinks_modifySlot (s := s) (g := fun slot => { slot.clearWork with removed := true })
      fun slot _ l => by cases l <;> exact List.nil_sublist _
  exact cleared

lemma stop_shrinks : Shrinks st (stop st).state := by
  intro s l
  have known : (stop st).state.slots[s]? = (st.slots[s]?).map fun slot : SlotState =>
      { slot.clearWork with runtimeConstraint := .sessionStopped } := Table.get_map ..
  unfold lineOf
  rw [known]
  cases st.slots[s]? with
  | none => exact .refl _
  | some slot => cases l <;> exact List.nil_sublist _

lemma Inv.graded (inv : Inv c σ) (ha : activeOf σ.state s = some a) : Graded σ.state a := by
  intro k hk i hi
  exact (inv.claimed _ (inv.active s a ha).2).priority hk hi

/-- An operation that neither enqueues nor claims only takes members out of the lines. -/
lemma exec_shrinks (inv : Inv c σ) (allowed : Allowed σ op) (inLine : HashInLine c σ.state op)
    (other : ∀ s, op ≠ .next s) (quiet : op.enqueues = false) :
    Shrinks σ.state (exec c σ.state op).1 := by
  have pt := inv.sound.partitioned
  have current (b : WorkBatch) (h : op.batch = some b) :
      isCurrentBatch c σ.state b = true → ∃ a, Current σ.state b a :=
    inv.current (allowed b h)
  cases op with
  | acquireEnqueue request answer =>
    have u : Unmoved σ.state (acquireEnqueue c (.answering answer) () σ.state request).2.1 :=
      acquireEnqueue_unmoved
    exact u.shrinks
  | commitEnqueue lease messageId => cases quiet
  | abortEnqueue lease => exact abortEnqueue_unmoved.shrinks
  | reconcileMailboxSnapshot slotId unread role stale => cases quiet
  | next slotId => exact absurd rfl (other slotId)
  | observeMessages slotId batchId messageIds =>
    show Shrinks σ.state (observeMessages σ.state slotId batchId messageIds).state
    unfold observeMessages
    cases ha : activeOf σ.state slotId with
    | none => exact .refl
    | some active =>
      dsimp only
      split
      · exact .refl
      · apply shrinks_modifyActive
        intro a found
        rw [ha] at found
        cases found
        exact observe_asClaimed
  | markStarted b turnId =>
    rw [show (exec c σ.state (.markStarted b turnId)).1 = _ from markStarted_state]
    split
    · have started : Shrinks (σ.state.tick.setStates b.intentIds fun _ =>
          .running b.batchId b.operationId turnId) (startedState c σ.state b turnId) :=
        shrinks_modifyActive fun _ _ => rfl
      exact started
    · exact .refl
  | retryStart b => exact retryStart_shrinks (current b rfl)
  | completeBatchWithAck b => exact completeBatchWithAck_shrinks
  | failBatch b classification => exact terminalizeBatch_shrinks
  | cancelBatch b classification => exact terminalizeBatch_shrinks
  | interruptBatch b reason replacement => exact interruptBatch_shrinks
  | takeInterruptMetadata batchId => exact takeInterruptMetadata_unmoved.shrinks
  | discardQueuedExcept slotId retained => exact shrinks_removeQueuedAll
  | cancelRun teamRunId => exact cancelRun_shrinks pt fun s a ha => inv.graded ha
  | completeSignals slotId intentIds =>
    show Shrinks σ.state (completeSignals σ.state slotId intentIds).state
    unfold completeSignals
    split
    · exact .refl
    · exact shrinks_removeQueuedAll
  | pauseSlot slotId => exact pauseSlot_unmoved.shrinks
  | setRuntimeConstraint slotId constraint => exact setRuntimeConstraint_shrinks inLine
  | beginRuntimeRestart slotId => exact beginRuntimeRestartInner_unmoved.shrinks
  | beginMcpRuntimeRestart slotId => exact beginRuntimeRestartInner_unmoved.shrinks
  | abortRuntimeRestart slotId gate => exact abortRuntimeRestart_unmoved.shrinks
  | requestMcpRefresh slotId fingerprint => exact requestMcpRefresh_unmoved.shrinks
  | deferMcpRefresh slotId fingerprint => exact deferMcpRefresh_unmoved.shrinks
  | claimPendingMcpRefresh slotId => exact claimPendingMcpRefresh_unmoved.shrinks
  | completeMcpRefresh slotId fingerprint => exact completeMcpRefresh_unmoved.shrinks
  | releaseMcpRefresh slotId fingerprint => exact releaseMcpRefresh_unmoved.shrinks
  | settleMcpRefreshClaim slotId fingerprint => exact settleMcpRefreshClaim_unmoved.shrinks
  | removeSlot slotId => exact removeSlot_shrinks
  | stop => exact stop_shrinks

end SlotWorkCoordinator

end KiCore.Team

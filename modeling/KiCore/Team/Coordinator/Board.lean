import KiCore.Team.Coordinator.Machine

/-!
# The coordinator as a dispatch board

`board` reads the dispatch board of `Lib/Board.lean` off the coordinator's state: an entry for every
intent (its `ticket`, which is the intent as it was queued, and the phase its state is in), the four
lanes of every slot, and for every slot the claim its batch makes. An operation that leaves the
intents and the work of every slot alone leaves the board alone (`Unmoved`).
-/

namespace KiCore.Team

open KiCore.Lib

/-- Intents under their ids, in the lanes of slots; a claim is tagged with a state. -/
abbrev CoordinatorBoard : Type :=
  Board String WorkIntent String WorkPriority WorkIntentState WorkIntentState

/-- An intent belongs to its slot, and waits in the lane of its priority. -/
instance : Routed WorkIntent String WorkPriority where
  home := WorkIntent.slotId
  lane := WorkIntent.priority

@[simp] lemma home_eq {i : WorkIntent} : Routed.home i = i.slotId := rfl

@[simp] lemma lane_eq {i : WorkIntent} : Routed.lane i = i.priority := rfl

def WorkIntent.ticket (intent : WorkIntent) : WorkIntent :=
  { intent with state := .queued }

def WorkIntentState.phase : WorkIntentState → Phase WorkIntentState WorkIntentState
  | .queued => .queued
  | .starting batchId operationId => .held (.starting batchId operationId)
  | .running batchId operationId turnId => .held (.running batchId operationId turnId)
  | .completed => .done .completed
  | .failed classification => .done (.failed classification)
  | .cancelled classification => .done (.cancelled classification)

def ActiveBatch.tag (active : ActiveBatch) : WorkIntentState :=
  match active.turnId with
  | none => .starting active.batch.batchId active.batch.operationId
  | some turnId => .running active.batch.batchId active.batch.operationId turnId

namespace WorkIntentState

variable {s t : WorkIntentState}

@[simp] lemma phase_of_queued : phase .queued = .queued := rfl

@[simp] lemma phase_queued : s.phase = .queued ↔ s = .queued := by
  cases s <;> simp [phase]

lemma phase_held : s.phase = .held t ↔ s.isActive ∧ s = t := by
  cases s <;> simp [phase, isActive]

lemma phase_done : s.phase = .done t ↔ s.isTerminal ∧ s = t := by
  cases s <;> simp [phase, isTerminal]

lemma phase_live : s.phase.Live ↔ s.isTerminal = false := by
  cases s <;> simp [phase, isTerminal, Phase.Live]

lemma not_isTerminal_of_isActive (h : s.isActive = true) : s.isTerminal = false := by
  cases s <;> first | rfl | cases h

lemma phase_inj (e : s.phase = t.phase) : s = t := by
  cases s <;> cases t <;> simp_all [phase]

lemma phase_of_isTerminal (h : s.isTerminal = true) : s.phase = .done s :=
  phase_done.mpr ⟨h, rfl⟩

end WorkIntentState

lemma ActiveBatch.tag_isActive {active : ActiveBatch} : active.tag.isActive = true := by
  unfold tag
  cases active.turnId <;> rfl

lemma ActiveBatch.tag_phase {active : ActiveBatch} : active.tag.phase = .held active.tag :=
  WorkIntentState.phase_held.mpr ⟨tag_isActive, rfl⟩

namespace SlotState

variable {slot : SlotState} {p l : WorkPriority} {id : String} {ids : List String}

/-- What the board sees of a slot: its lanes and its batch. -/
def work (slot : SlotState) : (WorkPriority → List String) × Option ActiveBatch :=
  (slot.queue, slot.active)

@[simp] lemma work_new {role : TeamRunTargetRole} : (SlotState.new role).work = (fun _ => [], none) := by
  have lanes : (SlotState.new role).queue = fun _ => [] := by
    funext l; cases l <;> rfl
  rw [work, lanes]
  rfl

@[simp] lemma queue_setQueue : (slot.setQueue p ids).queue l = if l = p then ids else slot.queue l := by
  cases p <;> cases l <;> rfl

@[simp] lemma active_setQueue : (slot.setQueue p ids).active = slot.active := by
  cases p <;> rfl

@[simp] lemma queue_pushFront :
    (slot.pushFront p id).queue l = if l = p then id :: slot.queue l else slot.queue l := by
  rw [pushFront, queue_setQueue]
  split_ifs with h
  · rw [h]
  · rfl

@[simp] lemma active_pushFront : (slot.pushFront p id).active = slot.active := active_setQueue

@[simp] lemma queue_pushBack :
    (slot.pushBack p id).queue l = if l = p then slot.queue l ++ [id] else slot.queue l := by
  rw [pushBack, queue_setQueue]
  split_ifs with h
  · rw [h]
  · rfl

@[simp] lemma active_pushBack : (slot.pushBack p id).active = slot.active := active_setQueue

@[simp] lemma queue_removeQueued :
    (slot.removeQueued id).queue l = (slot.queue l).filter (· ≠ id) := by
  cases l <;> rfl

@[simp] lemma queue_removeQueuedAll :
    (slot.removeQueuedAll ids).queue l = (slot.queue l).filter (· ∉ ids) := by
  unfold removeQueuedAll
  induction ids generalizing slot with
  | nil => simp
  | cons id ids ih =>
    rw [List.foldl_cons, ih, queue_removeQueued, List.filter_filter]
    refine List.filter_congr fun x _ => ?_
    by_cases hx : x = id <;> simp [hx]

@[simp] lemma active_removeQueuedAll : (slot.removeQueuedAll ids).active = slot.active := by
  unfold removeQueuedAll
  induction ids generalizing slot with
  | nil => rfl
  | cons id ids ih => exact ih

lemma mem_queuedIds : id ∈ slot.queuedIds ↔ ∃ l, id ∈ slot.queue l := by
  simp only [queuedIds, List.mem_append]
  constructor
  · rintro (((h | h) | h) | h)
    · exact ⟨.foreground, h⟩
    · exact ⟨.control, h⟩
    · exact ⟨.directed, h⟩
    · exact ⟨.background, h⟩
  · rintro ⟨l, h⟩
    cases l <;> simp_all [queue]

lemma work_clearWork (slot : SlotState) : slot.clearWork.work = (fun _ => [], none) := by
  have lanes : slot.clearWork.queue = fun _ => [] := by
    funext l; cases l <;> rfl
  rw [work, lanes]
  rfl

end SlotState

namespace CoordinatorState

variable {st : CoordinatorState} {s s' k : String} {slot : SlotState} {g : SlotState → SlotState}
  {ids : List String} {f : WorkIntent → WorkIntentState}

@[simp] lemma slots_putSlot :
    (st.putSlot s slot).slots[s']? = if s = s' then some slot else st.slots[s']? :=
  Table.get_insert ..

@[simp] lemma slots_modifySlot :
    (st.modifySlot s g).slots[s']? = if s = s' then st.slots[s']?.map g else st.slots[s']? :=
  Table.get_modify ..

lemma known_modifySlot (h : ∃ slot, st.slots[s']? = some slot) :
    ∃ slot, (st.modifySlot s g).slots[s']? = some slot := by
  obtain ⟨slot, h⟩ := h
  rw [slots_modifySlot, h]
  split_ifs
  · exact ⟨_, rfl⟩
  · exact ⟨slot, rfl⟩

lemma intents_setStates (stable : ∀ i t, f { i with state := t } = f i) :
    (st.setStates ids f).intents[k]? =
      if k ∈ ids then st.intents[k]?.map (fun i => { i with state := f i }) else st.intents[k]? :=
  Table.get_modifyAll (fun i => by simp [stable]) ..

end CoordinatorState

namespace SlotWorkCoordinator

variable {st st' : CoordinatorState} {s s' k : String} {slot : SlotState} {g : SlotState → SlotState}

/-- The lanes of a slot and the batch it works on; an unknown slot has no work. -/
def workOf (state : CoordinatorState) (slotId : String) :
    (WorkPriority → List String) × Option ActiveBatch :=
  ((state.slots[slotId]?).map SlotState.work).getD (fun _ => [], none)

def board (state : CoordinatorState) : CoordinatorBoard where
  entry k := (state.intents[k]?).map fun intent => (intent.ticket, intent.state.phase)
  queue s := (workOf state s).1
  claim s := (activeOf state s).map fun active => (active.tag, active.batch.intentIds)

lemma activeOf_eq : activeOf st s = (workOf st s).2 := by
  unfold activeOf workOf
  cases st.slots[s]? <;> rfl

lemma entry_of {i : WorkIntent} (h : st.intents[k]? = some i) :
    (board st).entry k = some (i.ticket, i.state.phase) := by
  simp [board, h]

lemma intent_of {a : WorkIntent} {p} (e : (board st).entry k = some (a, p)) :
    ∃ i, st.intents[k]? = some i ∧ i.ticket = a ∧ i.state.phase = p := by
  simpa [board] using e

lemma entry_none : (board st).entry k = none ↔ st.intents[k]? = none := by
  simp [board]

lemma workOf_known (h : st.slots[s]? = some slot) : workOf st s = slot.work := by
  simp [workOf, h]

lemma workOf_slotOrNew (role : TeamRunTargetRole) : (st.slotOrNew s role).work = workOf st s := by
  unfold CoordinatorState.slotOrNew workOf
  cases st.slots[s]? <;> simp

lemma workOf_putSlot :
    workOf (st.putSlot s slot) s' = if s = s' then slot.work else workOf st s' := by
  unfold workOf
  rw [CoordinatorState.slots_putSlot]
  split_ifs <;> rfl

lemma workOf_modifySlot (h : st.slots[s]? = some slot) :
    workOf (st.modifySlot s g) s' = if s = s' then (g slot).work else workOf st s' := by
  unfold workOf
  rw [CoordinatorState.slots_modifySlot]
  split_ifs with e
  · subst e; simp [h]
  · rfl

lemma workOf_modifySlot_same (h : ∀ slot : SlotState, (g slot).work = slot.work) :
    workOf (st.modifySlot s g) s' = workOf st s' := by
  unfold workOf
  rw [CoordinatorState.slots_modifySlot]
  split_ifs
  · cases st.slots[s']? <;> simp [h]
  · rfl

lemma workOf_modifySlot_cleared (h : ∀ slot : SlotState, (g slot).work = (fun _ => [], none)) :
    workOf (st.modifySlot s g) s' = if s = s' then (fun _ => [], none) else workOf st s' := by
  unfold workOf
  rw [CoordinatorState.slots_modifySlot]
  split_ifs
  · cases st.slots[s']? <;> simp [h]
  · rfl

lemma known_of_active {a : ActiveBatch} (h : activeOf st s = some a) :
    ∃ slot, st.slots[s]? = some slot ∧ slot.active = some a := by
  simpa [activeOf, Option.bind_eq_some_iff] using h

/-- The intents and the work of every slot are as before. -/
structure Unmoved (st st' : CoordinatorState) : Prop where
  intents : st'.intents = st.intents
  work : ∀ s, workOf st' s = workOf st s
  ticks : st.ticks ≤ st'.ticks

lemma Unmoved.board (u : Unmoved st st') : board st' = board st := by
  have act : ∀ s, activeOf st' s = activeOf st s := fun s => by
    rw [activeOf_eq, activeOf_eq, u.work]
  simp only [SlotWorkCoordinator.board, u.intents, u.work, act]

lemma Unmoved.active (u : Unmoved st st') : activeOf st' s = activeOf st s := by
  rw [activeOf_eq, activeOf_eq, u.work]

lemma Unmoved.refl : Unmoved st st :=
  ⟨rfl, fun _ => rfl, le_refl _⟩

lemma Unmoved.trans {st'' : CoordinatorState} (u : Unmoved st st') (v : Unmoved st' st'') :
    Unmoved st st'' :=
  ⟨v.intents.trans u.intents, fun s => (v.work s).trans (u.work s), u.ticks.trans v.ticks⟩

lemma Unmoved.putSlot (h : slot.work = workOf st s) : Unmoved st (st.putSlot s slot) := by
  refine ⟨rfl, fun s' => ?_, le_refl _⟩
  rw [workOf_putSlot]
  split_ifs with e
  · rw [h, e]
  · rfl

lemma Unmoved.modifySlot (h : ∀ slot : SlotState, (g slot).work = slot.work) :
    Unmoved st (st.modifySlot s g) :=
  ⟨rfl, fun _ => workOf_modifySlot_same h, le_refl _⟩

end SlotWorkCoordinator

end KiCore.Team

import KiCore.Team.Coordinator.Invariant

/-!
# The queue partition

In every state that operations of the coordinator reach, and for every intent of that state: it is
queued if and only if its id stands exactly once in the four lanes of its slot, and then in the lane
of its priority; it is starting or running if and only if its id is in the batch of its slot, and
then the state is the one the batch is in; and a terminal intent is in no lane and in no batch, and
never changes again.
-/

namespace KiCore.Team

open KiCore.Lib

namespace SlotWorkCoordinator

variable {c : SlotWorkCoordinator} {st : CoordinatorState} {σ σ' : Tracked} {s k : String}
  {i : WorkIntent} {slot : SlotState} {ops : List Op}

def queuedIdsOf (state : CoordinatorState) (slotId : String) : List String :=
  ((state.slots[slotId]?).map SlotState.queuedIds).getD []

lemma mem_queuedIdsOf : k ∈ queuedIdsOf st s ↔ ∃ l, k ∈ (workOf st s).1 l := by
  unfold queuedIdsOf workOf
  cases st.slots[s]? with
  | none => simp
  | some slot => exact SlotState.mem_queuedIds

lemma mem_queuedIdsOf_iff (pt : (board st).Partitioned) :
    k ∈ queuedIdsOf st s ↔ ∃ i, st.intents[k]? = some i ∧ i.state = .queued ∧ i.slotId = s := by
  rw [mem_queuedIdsOf]
  constructor
  · rintro ⟨l, h⟩
    obtain ⟨i, hi, hq, hs, _⟩ := (mem_lane pt).mp h
    exact ⟨i, hi, hq, hs⟩
  · rintro ⟨i, hi, hq, hs⟩
    exact ⟨i.priority, (mem_lane pt).mpr ⟨i, hi, hq, hs, rfl⟩⟩

lemma queuedIdsOf_nodup (pt : (board st).Partitioned) : (queuedIdsOf st s).Nodup := by
  cases hs : st.slots[s]? with
  | none => simp [queuedIdsOf, hs]
  | some slot =>
    have lane : ∀ l, (board st).queue s l = slot.queue l := fun l => by
      simp [board, workOf_known hs, SlotState.work]
    have nodup : ∀ l, (slot.queue l).Nodup := fun l => lane l ▸ pt.nodup s l
    have apart : ∀ l l' x, l ≠ l' → x ∈ slot.queue l → x ∉ slot.queue l' := fun l l' x ne h h' => by
      rw [← lane] at h h'
      exact ne (pt.queue_inj h h').2
    simp only [queuedIdsOf, hs, Option.map_some, Option.getD_some, SlotState.queuedIds]
    refine List.nodup_append.mpr ⟨List.nodup_append.mpr ⟨List.nodup_append.mpr ⟨nodup .foreground,
      nodup .control, ?_⟩, nodup .directed, ?_⟩, nodup .background, ?_⟩
    · rintro x hx y hy rfl
      exact apart .foreground .control x (by decide) hx hy
    · rintro x hx y hy rfl
      rcases List.mem_append.mp hx with hx | hx
      · exact apart .foreground .directed x (by decide) hx hy
      · exact apart .control .directed x (by decide) hx hy
    · rintro x hx y hy rfl
      rw [List.mem_append, List.mem_append] at hx
      rcases hx with (hx | hx) | hx
      · exact apart .foreground .background x (by decide) hx hy
      · exact apart .control .background x (by decide) hx hy
      · exact apart .directed .background x (by decide) hx hy

lemma count_queuedIdsOf (pt : (board st).Partitioned) :
    (queuedIdsOf st s).count k = 1 ↔ k ∈ queuedIdsOf st s := by
  constructor
  · intro once
    exact List.count_pos_iff.mp (by omega)
  · exact List.count_eq_one_of_mem (queuedIdsOf_nodup pt)

/-- Where the id of an intent stands, in terms of the intent's state. -/
structure Placed (st : CoordinatorState) (k : String) (i : WorkIntent) : Prop where
  queued : i.state = .queued ↔ (queuedIdsOf st i.slotId).count k = 1
  lane : i.state = .queued → k ∈ (workOf st i.slotId).1 i.priority
  active : i.state.isActive = true ↔
    ∃ a, activeOf st i.slotId = some a ∧ k ∈ a.batch.intentIds ∧ i.state = a.tag
  phase : ∀ a, activeOf st i.slotId = some a → k ∈ a.batch.intentIds → i.state = a.tag
  noLane : i.state.isTerminal = true → ∀ s, (queuedIdsOf st s).count k = 0
  noBatch : i.state.isTerminal = true → ∀ s a, activeOf st s = some a → k ∉ a.batch.intentIds

lemma Placed.of_partitioned (pt : (board st).Partitioned) (hi : st.intents[k]? = some i) :
    Placed st k i where
  queued := by
    rw [count_queuedIdsOf pt, mem_queuedIdsOf_iff pt]
    simp [hi]
  lane hq := (mem_lane pt).mpr ⟨i, hi, hq, rfl, rfl⟩
  active := by
    constructor
    · intro act
      exact batch_of_isActive pt hi act
    · rintro ⟨a, _, _, e⟩
      rw [e]
      exact a.tag_isActive
  phase a ha hk := by
    obtain ⟨i', hi', e, _⟩ := intent_of_batch pt ha hk
    rw [hi] at hi'
    cases hi'
    exact e
  noLane term s := by
    refine List.count_eq_zero.mpr fun h => ?_
    obtain ⟨i', hi', hq, _⟩ := (mem_queuedIdsOf_iff pt).mp h
    rw [hi] at hi'
    cases hi'
    rw [hq] at term
    cases term
  noBatch term s a ha hk := by
    obtain ⟨i', hi', e, _⟩ := intent_of_batch pt ha hk
    rw [hi] at hi'
    cases hi'
    rw [e, WorkIntentState.not_isTerminal_of_isActive a.tag_isActive] at term
    cases term

lemma terminal_run (reach : (lts c).Reachable σ) (run : (lts c).Run σ ops σ')
    (hi : σ.state.intents[k]? = some i) (term : i.state.isTerminal = true) :
    σ'.state.intents[k]? = some i := by
  refine run.preserves_of (P := fun σ => σ.state.intents[k]? = some i) reach ?_ hi
  rintro σ op σ' reach hi ⟨allowed, rfl⟩
  have inv := Inv.reachable reach
  obtain ⟨i', hi', ticket, same⟩ := intent_mono inv.sound.partitioned (exec_moves inv allowed) hi
  have e : i' = i := by
    have h : { i'.ticket with state := i'.state } = { i.ticket with state := i.state } := by
      rw [ticket, same term]
    exact h
  exact e ▸ hi'

/-- Every intent of a reachable state stands where its state says, and a terminal intent is final. -/
theorem queue_partition (reach : (lts c).Reachable σ) (hi : σ.state.intents[k]? = some i) :
    i.intentId = k ∧ Placed σ.state k i ∧
      (i.state.isTerminal = true → ∀ ops σ', (lts c).Run σ ops σ' → σ'.state.intents[k]? = some i) := by
  have inv := Inv.reachable reach
  exact ⟨inv.sound.keyed k i hi, .of_partitioned inv.sound.partitioned hi,
    fun term _ _ run => terminal_run reach run hi term⟩

/-- The intent of a user message, once it is claimed. -/
theorem queue_partition_userTurn :
    ∃ i, (userTurn.foldl (track strokes) initial).state.intents["||"]? = some i ∧
      i.state = .starting "|||" 1 ∧ i.intentId = "||" ∧
      Placed (userTurn.foldl (track strokes) initial).state "||" i := by
  have reach : (lts strokes).Reachable (userTurn.foldl (track strokes) initial) :=
    .computed (by decide)
  have claimed : ∃ i, (userTurn.foldl (track strokes) initial).state.intents["||"]? = some i ∧
      i.state = .starting "|||" 1 := ⟨_, rfl, by decide⟩
  obtain ⟨i, hi, hs⟩ := claimed
  obtain ⟨id, placed, _⟩ := queue_partition reach hi
  exact ⟨i, hi, hs, id, placed⟩

end SlotWorkCoordinator

end KiCore.Team

import KiCore.Team.Coordinator.Board

/-!
# What the operations do to the board

Every operation of the coordinator is a sequence of moves of the dispatch board. `Effect G st st'`
says so, together with what else the invariants need: a batch a slot works on afterwards is one it
worked on before, and ids are drawn forwards. `G` is the guard under which intents enter the board;
an operation that creates no intent has its effect under every guard. Claiming a batch is the one
operation with a statement of its own (`next_claim`), for it makes a batch.

The operations that end work do it in three ways: queued intents of a slot are dropped
(`Effect.drop`), the batch of a slot is released (`Effect.release`), or a slot is settled as a whole
(`Effect.settle`).
-/

namespace KiCore.Team

open KiCore.Lib Classical

namespace SlotWorkCoordinator

/-- The moves an operation makes, the batches it leaves and the ids it draws. -/
structure Effect (G : CoordinatorBoard → String → WorkIntent → Prop) (st st' : CoordinatorState) :
    Prop where
  moves : Board.Moves G (board st) (board st')
  active : ∀ s a', activeOf st' s = some a' →
    ∃ a, activeOf st s = some a ∧ a'.batch.asClaimed = a.batch.asClaimed
  ticks : st.ticks ≤ st'.ticks

variable {G : CoordinatorBoard → String → WorkIntent → Prop} {st st' st'' : CoordinatorState}
  {s k : String} {a : ActiveBatch} {i : WorkIntent}

lemma Effect.refl : Effect G st st :=
  ⟨.refl, fun _ a' h => ⟨a', h, rfl⟩, le_refl _⟩

lemma Effect.trans (x : Effect G st st') (y : Effect G st' st'') : Effect G st st'' := by
  refine ⟨x.moves.trans y.moves, fun s a'' h => ?_, x.ticks.trans y.ticks⟩
  obtain ⟨a', h', e'⟩ := y.active s a'' h
  obtain ⟨a, h, e⟩ := x.active s a' h'
  exact ⟨a, h, e'.trans e⟩

lemma Effect.partitioned (x : Effect G st st') (pt : (board st).Partitioned) :
    (board st').Partitioned :=
  pt.moves x.moves

lemma Unmoved.effect (u : Unmoved st st') : Effect G st st' where
  moves := .of_eq u.board
  active s a' h := by
    rw [u.active] at h
    exact ⟨a', h, rfl⟩
  ticks := u.ticks

section

variable (pt : (board st).Partitioned)
include pt

lemma mem_lane {l : WorkPriority} :
    k ∈ (workOf st s).1 l ↔
      ∃ i, st.intents[k]? = some i ∧ i.state = .queued ∧ i.slotId = s ∧ i.priority = l := by
  rw [show (workOf st s).1 l = (board st).queue s l from rfl, pt.queued s l k]
  constructor
  · rintro ⟨a, e, hs, hl⟩
    obtain ⟨i, hi, rfl, hp⟩ := intent_of e
    exact ⟨i, hi, WorkIntentState.phase_queued.mp hp, hs, hl⟩
  · rintro ⟨i, hi, hq, hs, hl⟩
    exact ⟨i.ticket, by rw [entry_of hi, hq]; rfl, hs, hl⟩

lemma mem_batch (ha : activeOf st s = some a) :
    k ∈ a.batch.intentIds ↔ ∃ i, st.intents[k]? = some i ∧ i.state = a.tag ∧ i.slotId = s := by
  have held := pt.held s a.tag k
  simp only [show (board st).claim s = some (a.tag, a.batch.intentIds) by simp [board, ha],
    Option.some.injEq, Prod.mk.injEq, true_and, exists_eq_left'] at held
  rw [held]
  constructor
  · rintro ⟨t, e, hs⟩
    obtain ⟨i, hi, rfl, hp⟩ := intent_of e
    exact ⟨i, hi, (WorkIntentState.phase_held.mp hp).2, hs⟩
  · rintro ⟨i, hi, ht, hs⟩
    exact ⟨i.ticket, by rw [entry_of hi, ht, ActiveBatch.tag_phase], hs⟩

lemma batch_of_isActive (hi : st.intents[k]? = some i) (act : i.state.isActive = true) :
    ∃ a, activeOf st i.slotId = some a ∧ k ∈ a.batch.intentIds ∧ i.state = a.tag := by
  have e := entry_of hi
  rw [WorkIntentState.phase_held.mpr ⟨act, rfl⟩] at e
  obtain ⟨ks, hc, hk⟩ := (pt.held i.slotId i.state k).mpr ⟨_, e, rfl⟩
  obtain ⟨a, ha, h⟩ := Option.map_eq_some_iff.mp hc
  obtain ⟨ht, hks⟩ := Prod.mk.inj h
  exact ⟨a, ha, hks ▸ hk, ht.symm⟩

lemma batch_nodup (ha : activeOf st s = some a) : a.batch.intentIds.Nodup := by
  have nd := pt.claim_nodup s
  simpa [Board.claimed, board, ha] using nd

lemma intent_of_batch (ha : activeOf st s = some a)
    (hk : k ∈ a.batch.intentIds) : ∃ i, st.intents[k]? = some i ∧ i.state = a.tag ∧ i.slotId = s :=
  (mem_batch pt ha).mp hk

end

/-- Intents are stored under their own ids. -/
def Keyed (state : CoordinatorState) : Prop :=
  ∀ (k : String) (i : WorkIntent), state.intents[k]? = some i → i.intentId = k

lemma mem_intents (keyed : Keyed st) :
    i ∈ Table.values st.intents ↔ st.intents[i.intentId]? = some i := by
  rw [Table.mem_values]
  constructor
  · rintro ⟨k, h⟩
    rw [keyed k i h]
    exact h
  · intro h
    exact ⟨_, h⟩

lemma Keyed.moves (keyed : Keyed st) (pt : (board st).Partitioned)
    (m : Board.Moves G (board st) (board st')) (enter : ∀ d k a, G d k a → a.intentId = k) :
    Keyed st' := by
  intro k i hi
  have old : ∀ k a p, (board st).entry k = some (a, p) → a.intentId = k := fun k a p e => by
    obtain ⟨i, hi, rfl, _⟩ := intent_of e
    exact keyed k i hi
  have id : i.ticket.intentId = k := m.entries pt old enter k _ _ (entry_of hi)
  exact id

/-- The batch of a slot ends: its intents get the states `f` gives, and those that are queued again
are put in front of their lanes, in the order of the batch. -/
lemma board_release {f : WorkIntent → WorkIntentState} {g : SlotState → SlotState}
    (pt : (board st).Partitioned) (ha : activeOf st s = some a)
    (stable : ∀ i t, f { i with state := t } = f i)
    (ends : ∀ i, f i = .queued ∨ (f i).isTerminal = true)
    (lanes : ∀ slot : SlotState, (g slot).work =
      (fun l => (a.batch.intentIds.filter fun k =>
        ∃ i, st.intents[k]? = some i ∧ f i = .queued ∧ i.priority = l) ++ slot.queue l, none)) :
    board ((st.setStates a.batch.intentIds f).modifySlot s g) =
      (board st).release (· = s)
        fun k => (st.intents[k]?).bind fun i => if f i = .queued then none else some (f i) := by
  obtain ⟨slot, hslot, hact⟩ := known_of_active ha
  have work : ∀ s', workOf ((st.setStates a.batch.intentIds f).modifySlot s g) s' =
      if s = s' then (g slot).work else workOf st s' := fun s' => workOf_modifySlot hslot
  apply Board.ext
  · funext k
    show Option.map _ ((st.setStates a.batch.intentIds f).intents[k]?) = _
    rw [CoordinatorState.intents_setStates stable]
    cases hi : st.intents[k]? with
    | none => simp [Board.release, board, hi]
    | some i =>
      simp only [Board.release, entry_of hi, Option.map_some, home_eq]
      by_cases hk : k ∈ a.batch.intentIds
      · -- An intent of the batch is held by it, and gets its verdict.
        obtain ⟨i', hi', ht, hs⟩ := intent_of_batch pt ha hk
        rw [hi] at hi'
        cases hi'
        rw [if_pos hk, ht, ActiveBatch.tag_phase]
        simp only [Option.map_some, WorkIntent.ticket, hs, if_true, hi, Option.bind_some]
        rcases ends i with hq | hterm
        · simp [hq, Phase.ofVerdict]
        · have ne : f i ≠ .queued := by
            intro e
            rw [e] at hterm
            cases hterm
          simp [ne, Phase.ofVerdict, WorkIntentState.phase_of_isTerminal hterm]
      · -- Any other intent keeps its state.
        rw [if_neg hk]
        cases hp : i.state.phase with
        | queued => simp [hp]
        | done o => simp [hp]
        | held t =>
          have hs : i.slotId ≠ s := by
            rintro rfl
            have act := (WorkIntentState.phase_held.mp hp).1
            obtain ⟨a', ha', hk', _⟩ := batch_of_isActive pt hi act
            rw [ha] at ha'
            cases ha'
            exact hk hk'
          simp [hp, WorkIntent.ticket, hs]
  · funext s' l
    show (workOf _ s').1 l = _
    rw [work]
    simp only [Board.release, eq_comm (a := s) (b := s')]
    split_ifs with hs
    · subst hs
      rw [lanes]
      have claimed : (board st).claimed s' = a.batch.intentIds := by
        simp [Board.claimed, board, ha]
      rw [claimed, show (board st).queue s' l = slot.queue l by simp [board, workOf, hslot, SlotState.work]]
      refine congrArg (· ++ slot.queue l) (List.filter_congr fun k hk => ?_)
      obtain ⟨i, hi, _, _⟩ := intent_of_batch pt ha hk
      by_cases hq : f i = .queued <;> simp [hi, hq, entry_of hi, WorkIntent.ticket]
    · rfl
  · funext s'
    simp only [Board.release, board, activeOf_eq, work, eq_comm (a := s) (b := s')]
    split_ifs with hs
    · rw [lanes]
      rfl
    · rfl

lemma Effect.release {f : WorkIntent → WorkIntentState} {g : SlotState → SlotState}
    (pt : (board st).Partitioned) (ha : activeOf st s = some a)
    (stable : ∀ i t, f { i with state := t } = f i)
    (ends : ∀ i, f i = .queued ∨ (f i).isTerminal = true)
    (lanes : ∀ slot : SlotState, (g slot).work =
      (fun l => (a.batch.intentIds.filter fun k =>
        ∃ i, st.intents[k]? = some i ∧ f i = .queued ∧ i.priority = l) ++ slot.queue l, none)) :
    Effect G st ((st.setStates a.batch.intentIds f).modifySlot s g) where
  moves := by
    rw [board_release pt ha stable ends lanes]
    exact .one .release
  active s' a' h := by
    obtain ⟨slot, hslot, _⟩ := known_of_active ha
    have known : (st.setStates a.batch.intentIds f).slots[s]? = some slot := hslot
    rw [activeOf_eq, workOf_modifySlot known] at h
    split_ifs at h with hs
    · rw [lanes] at h
      cases h
    · rw [← activeOf_eq] at h
      exact ⟨a', h, rfl⟩
  ticks := le_refl _

lemma workOf_removeQueuedAll {ids : List String} {s' : String} :
    workOf (st.modifySlot s (·.removeQueuedAll ids)) s' =
      (fun l => if s = s' then ((workOf st s').1 l).filter (· ∉ ids) else (workOf st s').1 l,
        (workOf st s').2) := by
  unfold workOf
  rw [CoordinatorState.slots_modifySlot]
  split_ifs with hs
  · cases st.slots[s']? with
    | none => rfl
    | some slot => simp [SlotState.work, funext_iff]
  · rfl

lemma board_drop {ids : List String} {t : WorkIntentState} (pt : (board st).Partitioned)
    (term : t.isTerminal = true) (waits : ∀ k ∈ ids, ∃ i, st.intents[k]? = some i ∧ i.slotId = s ∧
      (i.state = .queued ∨ i.state = t)) :
    board ((st.setStates ids fun _ => t).modifySlot s (·.removeQueuedAll ids)) =
      (board st).drop (· ∈ ids) fun _ => t := by
  apply Board.ext
  · funext k
    show Option.map _ ((st.setStates ids fun _ => t).intents[k]?) = _
    rw [CoordinatorState.intents_setStates fun _ _ => rfl]
    by_cases hk : k ∈ ids
    · obtain ⟨i, hi, _, hq⟩ := waits k hk
      have done := WorkIntentState.phase_of_isTerminal term
      rcases hq with hq | hq
      · simp [Board.drop, board, hk, hi, hq, WorkIntent.ticket, done]
      · simp [Board.drop, board, hk, hi, hq, WorkIntent.ticket, done]
    · rw [if_neg hk]
      cases hi : st.intents[k]? with
      | none => simp [Board.drop, board, hi]
      | some i => cases hp : i.state.phase <;> simp [Board.drop, board, hi, hp, hk]
  · funext s' l
    show (workOf _ s').1 l = _
    rw [workOf_removeQueuedAll]
    simp only [Board.drop]
    split_ifs with hs
    · exact List.filter_congr fun x _ => by simp
    · -- The lanes of other slots do not hold the dropped ids.
      refine (List.filter_eq_self.mpr fun x hx => ?_).symm
      obtain ⟨i', hi', _, hs', _⟩ := (mem_lane pt).mp hx
      have out : x ∉ ids := fun hx => by
        obtain ⟨i, hi, rfl, _⟩ := waits x hx
        rw [hi] at hi'
        cases hi'
        exact hs hs'
      simp [out]
  · funext s'
    simp only [Board.drop, board, activeOf_eq, workOf_removeQueuedAll]
    rfl

lemma Effect.drop {ids : List String} {t : WorkIntentState} (pt : (board st).Partitioned)
    (term : t.isTerminal = true) (waits : ∀ k ∈ ids, ∃ i, st.intents[k]? = some i ∧ i.slotId = s ∧
      (i.state = .queued ∨ i.state = t)) :
    Effect G st ((st.setStates ids fun _ => t).modifySlot s (·.removeQueuedAll ids)) where
  moves := by
    rw [board_drop pt term waits]
    exact .one .drop
  active s' a' h := by
    rw [activeOf_eq, workOf_removeQueuedAll] at h
    exact ⟨a', activeOf_eq.trans h, rfl⟩
  ticks := le_refl _

/-- The slots in `Q` lose their batches, queued intents may end, and the lanes are written anew. Each
intent is looked at once: a terminal one and an active one of another slot stay as they are, and the
rest is queued or terminal afterwards. -/
lemma Effect.settle {Q : String → Prop} {F : String → WorkIntent → WorkIntentState}
    (pt : (board st).Partitioned) (ticks : st.ticks ≤ st'.ticks)
    (intents : ∀ k : String, st'.intents[k]? =
      (st.intents[k]?).map fun i : WorkIntent => { i with state := F k i })
    (active : ∀ s, activeOf st' s = if Q s then none else activeOf st s)
    (keeps : ∀ k i, st.intents[k]? = some i →
      i.state.isTerminal = true ∨ (i.state.isActive = true ∧ ¬ Q i.slotId) → F k i = i.state)
    (ends : ∀ k i, st.intents[k]? = some i →
      i.state = .queued ∨ (i.state.isActive = true ∧ Q i.slotId) →
        F k i = .queued ∨ (F k i).isTerminal = true)
    (nodup : ∀ s l, ((workOf st' s).1 l).Nodup)
    (lanes : ∀ s l k, k ∈ (workOf st' s).1 l ↔
      ∃ i, st.intents[k]? = some i ∧ F k i = .queued ∧ i.slotId = s ∧ i.priority = l) :
    Effect G st st' where
  moves := by
    refine Board.Moves.settle (Q := Q) (P := fun k => ∃ i, st.intents[k]? = some i ∧ F k i ≠ .queued)
      (o := fun k => ((st.intents[k]?).map (F k)).getD .completed)
      (v := fun k => (st.intents[k]?).bind fun i => if F k i = .queued then none else some (F k i))
      pt ?_ ?_ nodup ?_
    · intro s
      simp only [board, active]
      split_ifs <;> rfl
    · intro k
      show Option.map _ (st'.intents[k]?) = _
      rw [intents]
      cases hi : st.intents[k]? with
      | none => simp [board, hi]
      | some i =>
        simp only [entry_of hi, Option.map_some, WorkIntent.ticket, Option.some.injEq, Prod.mk.injEq,
          true_and, home_eq, Option.getD_some, Option.bind_some, exists_eq_left']
        cases hp : i.state.phase with
        | done o =>
          have term := (WorkIntentState.phase_done.mp hp).1
          rw [keeps k i hi (.inl term), hp]
          rfl
        | queued =>
          rcases ends k i hi (.inl (WorkIntentState.phase_queued.mp hp)) with hq | term
          · simp [Phase.settle, hq]
          · have ne : F k i ≠ .queued := fun e => by rw [e] at term; cases term
            simp [Phase.settle, ne, WorkIntentState.phase_of_isTerminal term]
        | held t =>
          have act := (WorkIntentState.phase_held.mp hp).1
          by_cases hQ : Q i.slotId
          · rcases ends k i hi (.inr ⟨act, hQ⟩) with hq | term
            · simp [Phase.settle, hQ, hq, Phase.ofVerdict]
            · have ne : F k i ≠ .queued := fun e => by rw [e] at term; cases term
              simp [Phase.settle, hQ, ne, Phase.ofVerdict, WorkIntentState.phase_of_isTerminal term]
          · rw [keeps k i hi (.inr ⟨act, hQ⟩), hp]
            simp [Phase.settle, hQ]
    · intro s l k
      rw [show (board st').queue s l = (workOf st' s).1 l from rfl, lanes]
      constructor
      · rintro ⟨i, hi, hq, hs, hl⟩
        refine ⟨i.ticket, ?_, hs, hl⟩
        simp [board, intents, hi, hq, WorkIntent.ticket]
      · rintro ⟨a, e, hs, hl⟩
        obtain ⟨i', hi', rfl, hp⟩ := intent_of e
        rw [intents] at hi'
        obtain ⟨i, hi, rfl⟩ := Option.map_eq_some_iff.mp hi'
        exact ⟨i, hi, WorkIntentState.phase_queued.mp hp, hs, hl⟩
  active s a' h := by
    rw [active] at h
    split_ifs at h
    exact ⟨a', h, rfl⟩
  ticks := ticks

end SlotWorkCoordinator

end KiCore.Team

import KiCore.Team.Coordinator.Fifo

/-!
# Which work a batch takes

`laneBatch` says what `next` is to take from a lane: a barrier at its head alone, or the message intents
of what stands before the first barrier. `next_selection` shows that `next` takes just that from the
highest lane with work, and leaves everything else where it is. It rests on `Filed`: an intent is filed
under the lane of its source, and carries a mailbox row where its source asks for one, so no lane holds
both barriers and signals.
-/

namespace KiCore.Team

open KiCore.Lib

def WorkPriority.rank : WorkPriority → Nat
  | .foreground => 0
  | .control => 1
  | .directed => 2
  | .background => 3

namespace SlotWorkCoordinator

structure Claimable (slot : SlotState) : Prop where
  free : slot.active = none
  ready : slot.runtimeConstraint = .ready
  running : slot.paused = false

/-- The lane has work, and every lane before it has none. -/
structure Highest (slot : SlotState) (l : WorkPriority) : Prop where
  work : slot.queue l ≠ []
  before : ∀ l', l'.rank < l.rank → slot.queue l' = []

variable (st : CoordinatorState)

def carriesMessage (k : String) : Bool :=
  (st.intents[k]?).any fun intent => intent.mailboxMessageId.isSome

/-- What stands in a lane before the first command or lead intervention. -/
def beforeBarrier (lane : List String) : List String :=
  lane.takeWhile fun k => ¬ isBatchBarrier st k

def laneBatch : List String → List String
  | [] => []
  | head :: rest =>
    if isBatchBarrier st head then [head]
    else (beforeBarrier st (head :: rest)).filter (carriesMessage st)

/-- What would be taken from a lane if signals were claimed with the messages around them. -/
def prefixBatch : List String → List String
  | [] => []
  | head :: rest =>
    if isBatchBarrier st head then [head] else beforeBarrier st (head :: rest)

/-- Claiming a batch moves its intents from their lane to the batch, and nothing else. -/
structure Remains (st : CoordinatorState) (s : String) (batch : WorkBatch) (after : CoordinatorState) :
    Prop where
  active : activeOf after s = some { batch := batch, turnId := none, startedAtMs := none }
  lane : laneOf after s batch.highestPriority =
    (laneOf st s batch.highestPriority).filter (· ∉ batch.intentIds)
  whole : (batch.intentIds ++ laneOf after s batch.highestPriority).Perm
    (laneOf st s batch.highestPriority)
  beside : ∀ l, l ≠ batch.highestPriority → laneOf after s l = laneOf st s l
  others : ∀ s', s' ≠ s → workOf after s' = workOf st s'
  intents : ∀ k, after.intents[k]? = (st.intents[k]?).map fun i =>
    if k ∈ batch.intentIds then { i with state := .starting batch.batchId batch.operationId } else i

/-- What the answer of `next` says of the lanes before and after. -/
structure Selects (st : CoordinatorState) (s : String) (answer : ReconcileDecision)
    (after : CoordinatorState) : Prop where
  claim : ∀ batch, answer = .claim batch → ∃ slot, st.slots[s]? = some slot ∧ Claimable slot ∧
    Highest slot batch.highestPriority ∧ batch.intentIds ≠ [] ∧
    batch.intentIds = laneBatch st (slot.queue batch.highestPriority) ∧ Remains st s batch after
  settle : ∀ ids, answer = .settleSignals ids → ∃ slot l, st.slots[s]? = some slot ∧ Claimable slot ∧
    Highest slot l ∧ ids = slot.queue l ∧
    ∀ k ∈ beforeBarrier st (slot.queue l), carriesMessage st k = false
  other : (∀ batch, answer ≠ .claim batch) → after = st
  progress : ∀ slot l, st.slots[s]? = some slot → Claimable slot → Highest slot l →
    (∃ batch, answer = .claim batch) ∨ answer = .settleSignals (slot.queue l)

variable {c : SlotWorkCoordinator} {st : CoordinatorState} {σ : Tracked} {op : Op} {s k : String}
  {l : WorkPriority} {i : WorkIntent} {slot : SlotState} {batch : WorkBatch} {ks : List String}

/-- The intent is filed under the lane of its source, with the row its source asks for. -/
structure Filed (i : WorkIntent) : Prop where
  lane : i.priority = i.source.priority
  mail : i.source.requiresMailboxMessage = true → i.mailboxMessageId.isSome = true

def AllFiled (st : CoordinatorState) : Prop :=
  ∀ (k : String) (i : WorkIntent), st.intents[k]? = some i → Filed i

lemma AllFiled.moves {st' : CoordinatorState} {G : CoordinatorBoard → String → WorkIntent → Prop}
    (filed : AllFiled st) (pt : (board st).Partitioned) (m : Board.Moves G (board st) (board st'))
    (enter : ∀ d k a, G d k a → Filed a) : AllFiled st' := by
  have entries := m.entries (P := fun _ a => Filed a) pt (fun k a p e => ?_) enter
  · intro k i hi
    have ticket : Filed i.ticket := entries k i.ticket _ (entry_of hi)
    exact ⟨ticket.lane, ticket.mail⟩
  · obtain ⟨i, hi, rfl, _⟩ := intent_of e
    exact ⟨(filed k i hi).lane, (filed k i hi).mail⟩

lemma recoverMessage_filed {role : TeamRunTargetRole} {acc : CoordinatorState × List String}
    {message : String} (filed : AllFiled acc.1) :
    AllFiled (recoverMessage c s role acc message).1 := by
  obtain ⟨st, created⟩ := acc
  unfold recoverMessage
  dsimp only
  split
  · exact filed
  · intro k i hi
    rw [Table.get_insert] at hi
    split_ifs at hi
    · cases hi
      exact ⟨rfl, fun _ => rfl⟩
    · exact filed k i hi

lemma recoverAll_filed {role : TeamRunTargetRole} {acc : CoordinatorState × List String}
    {messages : List String} (filed : AllFiled acc.1) :
    AllFiled (messages.foldl (recoverMessage c s role) acc).1 := by
  induction messages generalizing acc with
  | nil => exact filed
  | cons message messages ih => exact ih (recoverMessage_filed filed)

lemma AllFiled.step (inv : Inv c σ) (filed : AllFiled σ.state) (allowed : Allowed σ op) :
    AllFiled (track c σ op).state := by
  have pt := inv.sound.partitioned
  cases op with
  | commitEnqueue lease messageId =>
    refine filed.moves pt (exec_moves inv allowed) ?_
    rintro d k a ⟨⟨slot, ok⟩, _, _, rfl⟩
    exact ⟨rfl, (checkCommit_ok ok).2.2.1⟩
  | reconcileMailboxSnapshot slotId unread role stale =>
    have cleared : Effect (fun _ _ _ => False) σ.state (clearedState σ.state slotId unread role stale) :=
      clearedState_effect pt
    have kept := filed.moves pt cleared.moves fun _ _ _ none => none.elim
    exact recoverAll_filed kept
  | _ => exact filed.moves pt (exec_moves inv allowed) fun _ _ _ none => none.elim

lemma AllFiled.reachable (reach : (lts c).Reachable σ) : AllFiled σ.state := by
  refine reach.invariant_of (P := fun σ => AllFiled σ.state) ?_ ?_
  · rintro _ rfl k i hi
    rw [show initial.state.intents[k]? = none from Table.get_empty] at hi
    cases hi
  · rintro σ op _ reach filed ⟨allowed, rfl⟩
    exact filed.step (.reachable reach) allowed

lemma Filed.foreground (filed : Filed i)
    (barrier : i.source = .userCommand ∨ i.source = .leadIntervention) : i.priority = .foreground := by
  rw [filed.lane]
  rcases barrier with h | h <;> rw [h] <;> rfl

lemma Filed.background (filed : Filed i) (signal : i.mailboxMessageId.isSome = false) :
    i.priority = .background := by
  have asks : i.source.requiresMailboxMessage = false := by
    refine Bool.eq_false_iff.mpr fun asks => ?_
    rw [filed.mail asks] at signal
    cases signal
  rw [filed.lane]
  cases h : i.source <;> rw [h] at asks <;> first | rfl | cases asks

lemma unmixed_lane (pt : (board st).Partitioned) (filed : AllFiled st) (hslot : st.slots[s]? = some slot) :
    (∀ k ∈ slot.queue l, carriesMessage st k = true) ∨
      ∀ k ∈ slot.queue l, isBatchBarrier st k = false := by
  have lane : ∀ k ∈ slot.queue l, ∃ i, st.intents[k]? = some i ∧ i.priority = l := by
    intro k mem
    have waits : k ∈ (workOf st s).1 l := by
      rw [workOf_known hslot]
      exact mem
    obtain ⟨i, hi, _, _, priority⟩ := (mem_lane pt).mp waits
    exact ⟨i, hi, priority⟩
  by_cases back : l = .background
  · refine .inr fun k mem => ?_
    obtain ⟨i, hi, priority⟩ := lane k mem
    refine Bool.eq_false_iff.mpr fun barrier => ?_
    simp only [isBatchBarrier, hi, Option.any_some, decide_eq_true_eq] at barrier
    have front := (filed k i hi).foreground barrier
    rw [priority, back] at front
    cases front
  · refine .inl fun k mem => ?_
    obtain ⟨i, hi, priority⟩ := lane k mem
    simp only [carriesMessage, hi, Option.any_some]
    refine Bool.of_not_eq_false fun signal => ?_
    exact back (priority.symm.trans ((filed k i hi).background signal))

lemma fifo_of_messages (mail : ∀ k ∈ ks, carriesMessage st k = true) : fifoMessageIntentIds st ks = ks :=
  List.filter_eq_self.mpr mail

lemma takeWhile_of_plain (plain : ∀ k ∈ ks, isBatchBarrier st k = false) :
    ks.takeWhile (¬ isBatchBarrier st ·) = ks := by
  rw [← List.append_nil ks, List.takeWhile_append_of_pos fun k mem => by simp [plain k mem],
    List.takeWhile_nil]

lemma selectBatch_eq {head : String} {rest : List String}
    (unmixed : (∀ k ∈ ks, carriesMessage st k = true) ∨ ∀ k ∈ ks, isBatchBarrier st k = false)
    (fifo : fifoMessageIntentIds st ks = head :: rest) :
    (selectBatch st head rest).1 = laneBatch st ks := by
  rcases unmixed with mail | plain
  · rw [fifo_of_messages mail] at fifo
    subst fifo
    rw [laneBatch, selectBatch]
    split
    · rfl
    · refine (List.filter_eq_self.mpr fun k mem => ?_).symm
      have sub : (beforeBarrier st (head :: rest)).Sublist (head :: rest) := List.takeWhile_sublist _
      exact mail k (sub.subset mem)
  · have member : ∀ k ∈ head :: rest, isBatchBarrier st k = false := by
      intro k mem
      rw [← fifo] at mem
      exact plain k (List.mem_filter.mp mem).1
    have taken : (selectBatch st head rest).1 = head :: rest := by
      rw [selectBatch, if_neg (by simp [member head (.head _)])]
      exact takeWhile_of_plain member
    rw [taken, ← fifo]
    cases ks with
    | nil => rfl
    | cons first later =>
      rw [laneBatch, if_neg (by simp [plain first (.head _)]), beforeBarrier,
        takeWhile_of_plain plain]
      rfl

lemma signals_of_fifo (fifo : fifoMessageIntentIds st ks = []) :
    ∀ k ∈ beforeBarrier st ks, carriesMessage st k = false := by
  intro k mem
  have none := List.filter_eq_nil_iff.mp fifo k ((List.takeWhile_sublist _).subset mem)
  exact Bool.eq_false_iff.mpr none

lemma highest_of_selected (selected : selectedPriority slot = some l) : Highest slot l := by
  obtain ⟨work, earlier, later, order, none⟩ := List.find?_eq_some_iff_append.mp selected
  refine ⟨by simpa using work, fun l' lower => ?_⟩
  have ranks : (earlier ++ l :: later).Pairwise (·.rank < ·.rank) := by
    rw [← order]
    decide
  have mem : l' ∈ earlier ++ l :: later := by
    rw [← order]
    cases l' <;> decide
  rcases List.mem_append.mp mem with early | late
  · simpa using none l' early
  · rcases List.mem_cons.mp late with rfl | late
    · exact absurd lower (lt_irrefl _)
    · have above := (List.pairwise_cons.mp (List.pairwise_append.mp ranks).2.1).1 l' late
      exact absurd (lower.trans above) (lt_irrefl _)

lemma Highest.unique {l' : WorkPriority} (high : Highest slot l) (high' : Highest slot l') : l = l' := by
  rcases lt_trichotomy l.rank l'.rank with lower | same | lower
  · exact absurd (high'.before l lower) high.work
  · cases l <;> cases l' <;> first | rfl | cases same
  · exact absurd (high.before l' lower) high'.work

lemma selected_of_highest (high : Highest slot l) : selectedPriority slot = some l := by
  cases selected : selectedPriority slot with
  | none =>
    have empty := List.find?_eq_none.mp selected l (by cases l <;> decide)
    exact absurd (by simpa using empty) high.work
  | some l' => rw [(highest_of_selected selected).unique high]

lemma Claims.remains (pt : (board st).Partitioned) (claims : Claims c st s batch) :
    Remains st s batch (claimState st batch) := by
  obtain ⟨slot, hslot, _⟩ := claims.slot
  have nodup : (laneOf st s batch.highestPriority).Nodup := by
    rw [laneOf_eq]
    exact pt.nodup s batch.highestPriority
  have lanes : ∀ l, laneOf (claimState st batch) s l =
      (laneOf st s l).filter (· ∉ batch.intentIds) := by
    intro l
    rw [laneOf_eq, laneOf_eq, workOf_claimState claims hslot, if_pos rfl, workOf_known hslot]
    rfl
  refine ⟨?_, lanes _, ?_, fun l other => ?_, fun s' other => ?_, fun k => ?_⟩
  · rw [activeOf_claimState claims, if_pos rfl]
  · have sub : batch.intentIds.Sublist (laneOf st s batch.highestPriority) := by
      rw [laneOf_eq]
      exact claims.lane
    have split := List.filter_append_perm (· ∈ batch.intentIds) (laneOf st s batch.highestPriority)
    rw [← eq_filter_of_sublist nodup sub] at split
    rw [lanes]
    simpa using split
  · rw [lanes]
    refine List.filter_eq_self.mpr fun k mem => decide_eq_true fun taken => ?_
    rw [laneOf_eq] at mem
    obtain ⟨i, hi, _, _, priority⟩ := (mem_lane pt).mp mem
    obtain ⟨i', hi', _, _, priority'⟩ := (mem_lane pt).mp (claims.lane.subset taken)
    rw [hi] at hi'
    cases hi'
    exact other (priority.symm.trans priority')
  · rw [workOf_claimState claims hslot, if_neg (Ne.symm other)]
  · have states : (st.tick.setStates batch.intentIds fun _ =>
        .starting batch.batchId batch.operationId).intents[k]? =
        if k ∈ batch.intentIds then
          (st.intents[k]?).map (fun i => { i with state := .starting batch.batchId batch.operationId })
        else st.intents[k]? :=
      CoordinatorState.intents_setStates fun _ _ => rfl
    refine states.trans ?_
    split_ifs
    · rfl
    · cases st.intents[k]? <;> rfl

/-- The answer of `next` concerns a lane. -/
def concernsLane : ReconcileDecision → Prop
  | .claim _ | .settleSignals _ => True
  | _ => False

lemma lane_of_answer (concerns : concernsLane (next c st s).result) :
    ∃ slot l, st.slots[s]? = some slot ∧ Claimable slot ∧ Highest slot l := by
  unfold next at concerns
  cases hs : st.slots[s]? with
  | none =>
    rw [hs] at concerns
    exact concerns.elim
  | some slot =>
    simp only [hs] at concerns
    split at concerns
    · exact concerns.elim
    next free =>
    split at concerns
    · exact concerns.elim
    next ready =>
    split at concerns
    · exact concerns.elim
    next running =>
    split at concerns
    · exact concerns.elim
    next l selected =>
    refine ⟨slot, l, rfl, ⟨?_, ?_, ?_⟩, highest_of_selected selected⟩
    · simpa using free
    · simpa using ready
    · simpa using running

lemma answer_of_lane (hslot : st.slots[s]? = some slot) (able : Claimable slot) (high : Highest slot l) :
    (fifoMessageIntentIds st (slot.queue l) = [] ∧
      (next c st s).result = .settleSignals (slot.queue l)) ∨
    ∃ head rest batch, fifoMessageIntentIds st (slot.queue l) = head :: rest ∧
      (next c st s).result = .claim batch ∧ batch.highestPriority = l ∧
      batch.intentIds = (selectBatch st head rest).1 := by
  unfold next
  simp only [hslot, able.free, able.ready, able.running, selected_of_highest high]
  cases fifo : fifoMessageIntentIds st (slot.queue l) with
  | nil => exact .inl ⟨rfl, rfl⟩
  | cons head rest => exact .inr ⟨head, rest, _, rfl, rfl, rfl, rfl⟩

lemma next_selects (pt : (board st).Partitioned) (filed : AllFiled st) :
    Selects st s (next c st s).result (next c st s).state := by
  refine ⟨fun batch result => ?_, fun ids result => ?_, fun none => ?_, fun slot l hslot able high => ?_⟩
  · obtain ⟨slot, l, hslot, able, high⟩ : ∃ slot l, st.slots[s]? = some slot ∧ Claimable slot ∧
        Highest slot l := lane_of_answer (c := c) (by rw [result]; trivial)
    rcases next_cases c st s with ⟨b, made, state, claims⟩ | ⟨none, _⟩
    · rw [made] at result
      cases result
      rcases answer_of_lane (c := c) hslot able high with
        ⟨_, settles⟩ | ⟨head, rest, b, fifo, made', lane, ids⟩
      · rw [made] at settles
        cases settles
      · rw [made] at made'
        cases made'
        refine ⟨slot, hslot, able, lane ▸ high, claims.nonempty, ?_, ?_⟩
        · rw [ids, lane]
          exact selectBatch_eq (unmixed_lane pt filed hslot) fifo
        · rw [state]
          exact claims.remains pt
    · exact absurd result (none batch)
  · obtain ⟨slot, l, hslot, able, high⟩ : ∃ slot l, st.slots[s]? = some slot ∧ Claimable slot ∧
        Highest slot l := lane_of_answer (c := c) (by rw [result]; trivial)
    rcases answer_of_lane (c := c) hslot able high with ⟨fifo, settles⟩ | ⟨head, rest, b, fifo, made, _⟩
    · rw [settles] at result
      cases result
      exact ⟨slot, l, hslot, able, high, rfl, signals_of_fifo fifo⟩
    · rw [made] at result
      cases result
  · rcases next_cases c st s with ⟨b, made, _⟩ | ⟨_, state⟩
    · exact absurd made (none b)
    · exact state
  · rcases answer_of_lane (c := c) hslot able high with ⟨_, settles⟩ | ⟨_, _, b, _, made, _⟩
    · exact .inr settles
    · exact .inl ⟨b, made⟩

/-- In every reachable state, `next` claims the message intents that stand before the first barrier of the
highest lane with work, or the barrier at its head, and leaves all other work in its place. -/
theorem next_selection (reach : (lts c).Reachable σ) (s : String) :
    Selects σ.state s (next c σ.state s).result (next c σ.state s).state :=
  next_selects (Inv.reachable reach).sound.partitioned (.reachable reach)

/-- The lead is told twice in the background: a teammate has gone idle, and a spawn has failed. -/
def idleThenFailure : List Op :=
  [.setRuntimeConstraint "lead" .ready,
    .acquireEnqueue
      { slotId := "lead", role := .lead, source := .idleNotification, binding := .background }
      { teamRunId := none, createdNewRun := false, userIntervention := false },
    .commitEnqueue { userLease with source := .idleNotification, teamRunId := none } none,
    .acquireEnqueue
      { slotId := "lead", role := .lead, source := .spawnAttachFailure, binding := .background }
      { teamRunId := none, createdNewRun := false, userIntervention := false },
    .commitEnqueue
      { userLease with leaseId := "|||", source := .spawnAttachFailure, teamRunId := none } (some "m")]

/-- The batch holds the message, and the signal before it stays in the lane. -/
theorem idleThenFailure_batch :
    ¬ ∀ (c : SlotWorkCoordinator) (σ : Tracked), (lts c).Reachable σ →
      ∀ s batch, (next c σ.state s).result = .claim batch → ∃ slot, σ.state.slots[s]? = some slot ∧
        batch.intentIds = prefixBatch σ.state (slot.queue batch.highestPriority) := by
  intro law
  have reach : (lts strokes).Reachable (idleThenFailure.foldl (track strokes) initial) :=
    .computed (by decide)
  have claim : ∃ batch, (next strokes (idleThenFailure.foldl (track strokes) initial).state "lead").result =
      .claim batch ∧ batch.intentIds = ["||||"] ∧ batch.highestPriority = .background := ⟨_, rfl, by decide⟩
  obtain ⟨batch, result, ids, lane⟩ := claim
  obtain ⟨slot, hslot, whole⟩ := law strokes _ reach "lead" batch result
  have all : ((idleThenFailure.foldl (track strokes) initial).state.slots["lead"]?).map
      (fun slot => prefixBatch (idleThenFailure.foldl (track strokes) initial).state
        (slot.queue .background)) = some ["||", "||||"] := by decide
  rw [hslot, Option.map_some, ← lane, ← whole, ids] at all
  exact absurd all (by decide)

/-- The law holds of the claim. -/
theorem next_selection_idleThenFailure :
    Selects (idleThenFailure.foldl (track strokes) initial).state "lead"
      (next strokes (idleThenFailure.foldl (track strokes) initial).state "lead").result
      (next strokes (idleThenFailure.foldl (track strokes) initial).state "lead").state :=
  next_selection (.computed (by decide)) "lead"

end SlotWorkCoordinator

end KiCore.Team

import KiCore.Team.Coordinator.LaneOrder

/-!
# First in, first out

Two intents of a lane are claimed in the order in which they were enqueued, through any number of
retries, cancelled runs and failed runtimes, as long as no runtime failure finds the hash map of
intents in another order than the lines: `fifo_iff`. `InOrder` is the invariant: the work of a line
that takes its turn stands there in the order in which it was enqueued.
-/

namespace KiCore.Team

open KiCore.Lib Classical

/-- An operation that may put claimed intents back. -/
def Op.requeues : Op → Bool
  | .retryStart _ | .cancelRun _ | .setRuntimeConstraint _ _ => true
  | _ => false

namespace SlotWorkCoordinator

/-- Work that is claimed in its turn: a signal has no mailbox row and is never claimed, and a lead
intervention goes to the front. -/
def TakesTurn (i : WorkIntent) : Prop :=
  i.mailboxMessageId.isSome = true ∧ i.source ≠ .leadIntervention

/-- The intent under an id takes its turn. -/
def Ordinary (st : CoordinatorState) (k : String) : Prop :=
  ∃ i, st.intents[k]? = some i ∧ TakesTurn i

/-- An intent waits in the lane that a batch is taken from, and takes its turn. -/
def Waits (st : CoordinatorState) (batch : WorkBatch) (k : String) : Prop :=
  ∃ i, st.intents[k]? = some i ∧ i.state = .queued ∧ i.slotId = batch.slotId ∧
    i.priority = batch.highestPriority ∧ TakesTurn i

/-- An intent was enqueued before another one: its id, which is drawn then, was drawn before. -/
def Older (c : SlotWorkCoordinator) (k k' : String) : Prop :=
  ∃ m n, m < n ∧ k = c.generateId m ∧ k' = c.generateId n

/-- An operation respects the order of the lanes. A batch holds an intent that takes its turn only
together with, and after, every older one that waits in the lane; and an operation that puts intents
back leaves in a lane what stays of its line, in the order of the line. -/
structure Fifo (c : SlotWorkCoordinator) (st : CoordinatorState) (op : Op) : Prop where
  claims : ∀ batch, returnedBatch c st op = some batch → ∀ k k', Waits st batch k →
    k' ∈ batch.intentIds → Ordinary st k' → Older c k k' → [k, k'].Sublist batch.intentIds
  requeues : op.requeues = true → ∀ s l, laneOf (exec c st op).1 s l =
    (lineOf st s l).filter (· ∈ laneOf (exec c st op).1 s l)

/-- The work of every line that takes its turn stands there by age. -/
def InOrder (c : SlotWorkCoordinator) (st : CoordinatorState) : Prop :=
  ∀ s l, ((lineOf st s l).filter (Ordinary st ·)).Pairwise (Older c)

variable {c : SlotWorkCoordinator} {G : CoordinatorBoard → String → WorkIntent → Prop}
  {st st' : CoordinatorState} {σ : Tracked} {op : Op} {ops : List Op} {s k k' : String}
  {l : WorkPriority} {batch : WorkBatch} {slot : SlotState} {ks : List String}

lemma eq_filter_of_sublist {xs ys : List String} (nodup : ys.Nodup) (sub : xs.Sublist ys) :
    xs = ys.filter (· ∈ xs) := by
  apply (List.Nodup.perm_iff_eq_of_sublist nodup sub List.filter_sublist).mp
  apply (List.perm_ext_iff_of_nodup (nodup.sublist sub) (nodup.filter _)).mpr
  intro x
  rw [List.mem_filter, decide_eq_true_eq]
  exact ⟨fun h => ⟨sub.subset h, h⟩, fun h => h.2⟩

lemma pair_sublist {R : String → String → Prop} {xs : List String} {x y : String}
    (ordered : xs.Pairwise R) (hx : x ∈ xs) (hy : y ∈ xs) (ne : x ≠ y) (asymm : ¬ R y x) :
    [x, y].Sublist xs := by
  obtain ⟨before, after, split⟩ := List.append_of_mem hx
  subst split
  have later : y ∈ after := by
    rcases List.mem_append.mp hy with early | late
    · exact absurd ((List.pairwise_append.mp ordered).2.2 y early x (.head _)) asymm
    · rcases List.mem_cons.mp late with same | late
      · exact absurd same.symm ne
      · exact late
  apply List.Sublist.trans _ (List.sublist_append_right ..)
  exact (List.singleton_sublist.mpr later).cons_cons x

lemma Older.asymm (h : Older c k k') : ¬ Older c k' k := by
  intro h'
  obtain ⟨m, n, lt, rfl, rfl⟩ := h
  obtain ⟨m', n', lt', e, e'⟩ := h'
  have := c.generateId_injective e
  have := c.generateId_injective e'
  omega

lemma Older.ne (h : Older c k k') : k ≠ k' := by
  intro same
  subst same
  exact h.asymm h

lemma Sound.older (so : Sound c st) (h : ∃ i, st.intents[k]? = some i) :
    Older c k (c.generateId st.ticks) := by
  obtain ⟨i, hi⟩ := h
  obtain ⟨n, hn, e⟩ := so.drawn k i hi
  exact ⟨n, st.ticks, hn, e, rfl⟩

lemma ordinary_iff (pt : (board st).Partitioned) (m : Board.Moves G (board st) (board st'))
    (known : ∃ i, st.intents[k]? = some i) : Ordinary st' k ↔ Ordinary st k := by
  obtain ⟨i, hi⟩ := known
  obtain ⟨i', hi', ticket, _⟩ := intent_mono pt m hi
  have mail : i'.mailboxMessageId = i.mailboxMessageId :=
    (congrArg WorkIntent.mailboxMessageId ticket :)
  have source : i'.source = i.source := (congrArg WorkIntent.source ticket :)
  simp only [Ordinary, hi, hi', Option.some.injEq, exists_eq_left', TakesTurn, mail, source]

lemma filter_ordinary (pt : (board st).Partitioned) (m : Board.Moves G (board st) (board st'))
    (known : ∀ k ∈ ks, ∃ i, st.intents[k]? = some i) :
    ks.filter (Ordinary st' ·) = ks.filter (Ordinary st ·) := by
  apply List.filter_congr
  intro k hk
  exact decide_eq_decide.mpr (ordinary_iff pt m (known k hk))

lemma known_of_line (pt : (board st).Partitioned) (h : k ∈ lineOf st s l) :
    ∃ i, st.intents[k]? = some i := by
  obtain ⟨i, hi, _⟩ := live_of_line pt h
  exact ⟨i, hi⟩

lemma InOrder.shrinks (inOrder : InOrder c st) (pt : (board st).Partitioned)
    (m : Board.Moves G (board st) (board st')) (x : Shrinks st st') : InOrder c st' := by
  intro s l
  rw [filter_ordinary pt m fun k hk => known_of_line pt ((x s l).subset hk)]
  exact (inOrder s l).sublist ((x s l).filter _)

lemma InOrder.enqueue (inOrder : InOrder c st) (so : Sound c st)
    (m : Board.Moves G (board st) (board st'))
    (lines : ∀ s l, ((lineOf st' s l).filter (Ordinary st' ·)).Sublist
      ((lineOf st s l).filter (Ordinary st' ·) ++ [c.generateId st.ticks])) : InOrder c st' := by
  intro s l
  have pt := so.partitioned
  have same := filter_ordinary pt m fun k hk => known_of_line (s := s) (l := l) pt hk
  apply List.Pairwise.sublist (lines s l)
  rw [same]
  apply List.pairwise_append.mpr
  refine ⟨inOrder s l, List.pairwise_singleton _ _, ?_⟩
  intro k hk k' hk'
  obtain rfl := List.mem_singleton.mp hk'
  exact so.older (known_of_line pt (List.mem_filter.mp hk).1)

lemma lines_modifySlot {P : String → Prop} {g : SlotState → SlotState}
    (gains : ∀ slot l, (((g slot).line l).filter (P ·)).Sublist ((slot.line l).filter (P ·) ++ [k])) :
    ∀ s' l, ((lineOf (st.modifySlot s g) s' l).filter (P ·)).Sublist
      ((lineOf st s' l).filter (P ·) ++ [k]) := by
  intro s' l
  unfold lineOf
  rw [CoordinatorState.slots_modifySlot]
  split_ifs with hs
  · cases st.slots[s']? with
    | none => exact List.nil_sublist _
    | some slot => exact gains slot l
  · exact List.sublist_append_left ..

lemma filter_append_one {P : String → Prop} {xs : List String} :
    ((xs ++ [k]).filter (P ·)).Sublist (xs.filter (P ·) ++ [k]) := by
  rw [List.filter_append]
  exact (List.Sublist.refl _).append List.filter_sublist

lemma commitState_inOrder {lease : EnqueueLease} {messageId : Option String} (inOrder : InOrder c st)
    (so : Sound c st) (hslot : st.slots[lease.slotId]? = some slot) :
    InOrder c (commitState c st lease messageId) := by
  let intent := committedIntent c st lease messageId
  let P := Ordinary (commitState c st lease messageId)
  have entered : (commitState c st lease messageId).intents[c.generateId st.ticks]? = some intent := by
    show (st.intents.insert (c.generateId st.ticks) intent)[c.generateId st.ticks]? = _
    rw [Table.get_insert, if_pos rfl]
  have lines : ∀ s l, ((lineOf (st.tick.modifySlot lease.slotId (commitSlot · lease intent)) s l).filter
      (P ·)).Sublist ((lineOf st.tick s l).filter (P ·) ++ [c.generateId st.ticks]) := by
    apply lines_modifySlot
    intro slot l
    have work : (commitSlot slot lease intent).work = _ := work_commitSlot
    have lane := congrFun (congrArg Prod.fst work) l
    have active := congrArg Prod.snd work
    simp only [SlotState.work] at lane active
    unfold SlotState.line
    rw [lane, active]
    split_ifs with here front
    · -- A lead intervention does not take its turn.
      have out : ¬ P intent.intentId := by
        rintro ⟨i, hi, _, source⟩
        rw [show intent.intentId = c.generateId st.ticks from rfl, entered] at hi
        cases hi
        exact source front
      rw [List.filter_append, List.filter_cons_of_neg (by simpa using out), ← List.filter_append]
      exact List.sublist_append_left ..
    · rw [← List.append_assoc]
      exact filter_append_one
    · exact List.sublist_append_left ..
  exact inOrder.enqueue so (commitState_effect messageId so hslot).moves lines

lemma recoverMessage_inOrder {role : TeamRunTargetRole} {acc : CoordinatorState × List String}
    {message : String} (inOrder : InOrder c acc.1) (so : Sound c acc.1)
    (hslot : ∃ slot, acc.1.slots[s]? = some slot) :
    InOrder c (recoverMessage c s role acc message).1 := by
  have effect : Effect (recoverGuard c (recoverMessage c s role acc message).1.ticks s [message]) acc.1
      (recoverMessage c s role acc message).1 := recoverMessage_effect so hslot (.head _) (le_refl _)
  have lines (P : String → Prop) : ∀ s' l, ((lineOf (acc.1.tick.modifySlot s
      (·.pushBack .background (c.generateId acc.1.ticks))) s' l).filter (P ·)).Sublist
      ((lineOf acc.1.tick s' l).filter (P ·) ++ [c.generateId acc.1.ticks]) := by
    apply lines_modifySlot
    intro slot l
    unfold SlotState.line
    rw [SlotState.active_pushBack, SlotState.queue_pushBack]
    split_ifs
    · rw [← List.append_assoc]
      exact filter_append_one
    · exact List.sublist_append_left ..
  apply inOrder.enqueue so effect.moves
  unfold recoverMessage
  dsimp only
  split
  · exact fun _ _ => List.sublist_append_left ..
  · exact lines _

lemma recoverAll_inOrder {role : TeamRunTargetRole} {acc : CoordinatorState × List String}
    {messages : List String} (inOrder : InOrder c acc.1) (so : Sound c acc.1)
    (hslot : ∃ slot, acc.1.slots[s]? = some slot) :
    InOrder c (messages.foldl (recoverMessage c s role) acc).1 := by
  induction messages generalizing acc with
  | nil => exact inOrder
  | cons m messages ih =>
    have effect : Effect (recoverGuard c (recoverMessage c s role acc m).1.ticks s [m]) acc.1
        (recoverMessage c s role acc m).1 := recoverMessage_effect so hslot (.head _) (le_refl _)
    have so' : Sound c (recoverMessage c s role acc m).1 :=
      so.moves effect.moves effect.ticks fun d k a g => ⟨g.2.1, g.1⟩
    exact ih (recoverMessage_inOrder inOrder so hslot) so' (recoverMessage_known hslot)

lemma reconcile_inOrder {role : TeamRunTargetRole} {unread stale : List String}
    (inOrder : InOrder c st) (so : Sound c st) :
    InOrder c (reconcileMailboxSnapshot c st s unread role stale).state := by
  let slot := reconcileSlot (st.slotOrNew s role) role unread
  have put : Unmoved st (st.putSlot s slot) := .putSlot (workOf_slotOrNew _)
  have removed : Shrinks (st.putSlot s slot) (clearedState st s unread role stale) :=
    shrinks_removeQueuedAll
  have effect : Effect (fun _ _ _ => False) st (clearedState st s unread role stale) :=
    clearedState_effect so.partitioned
  have so' : Sound c (clearedState st s unread role stale) :=
    so.moves effect.moves effect.ticks fun _ _ _ h => h.elim
  have known : (st.putSlot s slot).slots[s]? = some slot :=
    CoordinatorState.slots_putSlot.trans (if_pos rfl)
  rw [reconcile_state]
  apply recoverAll_inOrder _ so' (CoordinatorState.known_modifySlot ⟨_, known⟩)
  exact inOrder.shrinks so.partitioned effect.moves (put.shrinks.trans removed)

lemma selectBatch_prefix {head : String} {rest : List String} :
    (selectBatch st head rest).1 <+: head :: rest := by
  unfold selectBatch
  split
  · exact ⟨rest, rfl⟩
  · exact List.takeWhile_prefix _

lemma returned_prefix (returned : returnedBatch c st op = some batch) :
    batch.intentIds <+: fifoMessageIntentIds st (laneOf st batch.slotId batch.highestPriority) := by
  obtain ⟨s, rfl, state, claims⟩ := claims_of_returned returned
  have slotId : batch.slotId = s := congrArg WorkBatch.slotId claims.made
  unfold returnedBatch at returned
  dsimp only at returned
  split at returned
  next made result =>
    cases returned
    rw [slotId]
    unfold next at result
    cases hs : st.slots[s]? with
    | none => simp [hs] at result
    | some slot =>
      simp only [hs] at result
      split_ifs at result
      split at result
      · cases result
      next priority _ =>
      split at result
      · cases result
      next head rest fifo =>
      cases result
      show (selectBatch st head rest).1 <+: fifoMessageIntentIds st (laneOf st s priority)
      rw [show laneOf st s priority = slot.queue priority by simp [laneOf, hs], fifo]
      exact selectBatch_prefix
  · cases returned

lemma filter_fifoMessageIntentIds :
    (fifoMessageIntentIds st ks).filter (Ordinary st ·) = ks.filter (Ordinary st ·) := by
  unfold fifoMessageIntentIds
  rw [List.filter_filter]
  apply List.filter_congr
  intro k _
  cases hi : st.intents[k]? with
  | none => simp [Ordinary, hi]
  | some i => by_cases mail : i.mailboxMessageId.isSome <;> simp [Ordinary, TakesTurn, hi, mail]

lemma claims_split (claims : Claims c st s batch) (returned : returnedBatch c st op = some batch) :
    ∃ rest, (lineOf st s batch.highestPriority).filter (Ordinary st ·) =
      batch.intentIds.filter (Ordinary st ·) ++ rest.filter (Ordinary st ·) ∧
      fifoMessageIntentIds st (laneOf st s batch.highestPriority) = batch.intentIds ++ rest := by
  obtain ⟨slot, hslot, free, _⟩ := claims.slot
  have slotId : batch.slotId = s := congrArg WorkBatch.slotId claims.made
  obtain ⟨rest, split⟩ := returned_prefix returned
  rw [slotId] at split
  have line : lineOf st s batch.highestPriority = laneOf st s batch.highestPriority := by
    rw [laneOf_eq, lineOf_eq, activeOf, hslot, Option.bind_some, free]
    rfl
  refine ⟨rest, ?_, split.symm⟩
  rw [line, ← filter_fifoMessageIntentIds, ← split, List.filter_append]

lemma claims_fifo (inOrder : InOrder c st) (pt : (board st).Partitioned)
    (claims : Claims c st s batch) (returned : returnedBatch c st op = some batch)
    (waits : Waits st batch k) (mem : k' ∈ batch.intentIds) (ordinary : Ordinary st k')
    (older : Older c k k') : [k, k'].Sublist batch.intentIds := by
  obtain ⟨rest, line, _⟩ := claims_split claims returned
  have ordered := inOrder s batch.highestPriority
  rw [line] at ordered
  obtain ⟨inBatch, _, across⟩ := List.pairwise_append.mp ordered
  have mem' : k' ∈ batch.intentIds.filter (Ordinary st ·) :=
    List.mem_filter.mpr ⟨mem, decide_eq_true ordinary⟩
  have stands : k ∈ (lineOf st s batch.highestPriority).filter (Ordinary st ·) := by
    obtain ⟨i, hi, queued, home, priority, turn⟩ := waits
    have slotId : batch.slotId = s := congrArg WorkBatch.slotId claims.made
    have lane : k ∈ laneOf st s batch.highestPriority := by
      rw [laneOf_eq]
      exact (mem_lane pt).mpr ⟨i, hi, queued, home.trans slotId, priority⟩
    exact List.mem_filter.mpr ⟨laneOf_sublist.subset lane, decide_eq_true ⟨i, hi, turn⟩⟩
  rw [line, List.mem_append] at stands
  rcases stands with here | later
  · exact (pair_sublist inBatch here mem' older.ne older.asymm).trans List.filter_sublist
  -- an older intent does not stand behind the batch
  · exact absurd (across k' mem' k later) older.asymm

lemma lineOf_claimState {s' : String} (claims : Claims c st s batch) :
    lineOf (claimState st batch) s' l =
      if s = s' then
        (if batch.highestPriority = l then batch.intentIds else []) ++
          (laneOf st s' l).filter (· ∉ batch.intentIds)
      else lineOf st s' l := by
  obtain ⟨slot, hslot, _⟩ := claims.slot
  rw [lineOf_eq, lineOf_eq, activeOf_eq, activeOf_eq, workOf_claimState claims hslot, laneOf_eq]
  split_ifs with hs hl
  · subst hs
    simp [heldIn, hl, workOf_known hslot, SlotState.work]
  · subst hs
    simp [heldIn, hl, workOf_known hslot, SlotState.work]
  · rfl

lemma lineOf_claimState_subset {s' : String} (claims : Claims c st s batch) :
    lineOf (claimState st batch) s' l ⊆ lineOf st s' l := by
  rw [lineOf_claimState claims]
  split_ifs with hs hl
  · subst hs hl
    apply List.append_subset.mpr
    refine ⟨fun k hk => laneOf_sublist.subset ?_, fun k hk => ?_⟩
    · rw [laneOf_eq]
      exact claims.lane.subset hk
    · exact laneOf_sublist.subset (List.mem_filter.mp hk).1
  · exact fun k hk => laneOf_sublist.subset (List.mem_filter.mp hk).1
  · exact List.Subset.refl _

lemma claimState_inOrder (inOrder : InOrder c st) (pt : (board st).Partitioned)
    (claims : Claims c st s batch) (returned : returnedBatch c st op = some batch) :
    InOrder c (claimState st batch) := by
  obtain ⟨rest, line, fifo⟩ := claims_split claims returned
  have moves : Board.Moves (fun _ _ _ => False) (board st) (board (claimState st batch)) :=
    claimState_moves pt claims
  intro s' l
  rw [filter_ordinary pt moves fun k hk => known_of_line pt (lineOf_claimState_subset claims hk)]
  apply List.Pairwise.sublist _ (inOrder s' l)
  rw [lineOf_claimState claims]
  split_ifs with hs hl
  · subst hs hl
    -- what the batch takes is the beginning of the lane
    have lane : (laneOf st s batch.highestPriority).filter (Ordinary st ·) =
        batch.intentIds.filter (Ordinary st ·) ++ rest.filter (Ordinary st ·) := by
      rw [← filter_fifoMessageIntentIds, fifo, List.filter_append]
    have taken : (batch.intentIds.filter (Ordinary st ·)).filter (· ∉ batch.intentIds) = [] := by
      apply List.filter_eq_nil_iff.mpr
      intro k hk
      simpa using (List.mem_filter.mp hk).1
    rw [line, List.filter_append, List.filter_comm, lane, List.filter_append, taken, List.nil_append]
    exact (List.Sublist.refl _).append List.filter_sublist
  · rw [List.nil_append]
    exact (List.filter_sublist.trans laneOf_sublist).filter _
  · exact .refl _

/-- An operation respects the order of the lanes if and only if it finds the hash map in the order of
the lines, and then the order is kept. -/
lemma fifo_step (inv : Inv c σ) (inOrder : InOrder c σ.state) (allowed : Allowed σ op) :
    (Fifo c σ.state op ↔ HashInLine c σ.state op) ∧
      (HashInLine c σ.state op → InOrder c (track c σ op).state) := by
  have pt := inv.sound.partitioned
  have moves := exec_moves inv allowed
  refine ⟨⟨fun fifo => ?_, fun inLine => ⟨?_, ?_⟩⟩, fun inLine => ?_⟩
  · cases op with
    | setRuntimeConstraint s constraint =>
      intro ends l
      obtain ⟨classification, ends⟩ := Option.isSome_iff_exists.mp ends
      have known : (constrainedState σ.state s constraint).slots[s]? =
          some { σ.state.slotOrNew s .teammate with runtimeConstraint := constraint } :=
        CoordinatorState.slots_putSlot.trans (if_pos rfl)
      have lane : laneOf (exec c σ.state (.setRuntimeConstraint s constraint)).1 s l =
          survivorsOf c σ.state s constraint l := by
        rw [show (exec c σ.state (.setRuntimeConstraint s constraint)).1 = _ from
          setRuntimeConstraint_state, ends, laneOf_eq, workOf_endSlotWork known, if_pos rfl]
        rfl
      rw [← lane]
      exact fifo.requeues rfl s l
    | _ => exact trivial
  · intro batch returned k k' waits mem ordinary older
    obtain ⟨s, rfl, state, claims⟩ := claims_of_returned returned
    exact claims_fifo inOrder pt claims returned waits mem ordinary older
  · intro requeues s l
    have x : Shrinks σ.state (exec c σ.state op).1 := by
      apply exec_shrinks inv allowed inLine
      · intro s next
        rw [next] at requeues
        cases requeues
      · cases op <;> first | rfl | cases requeues
    exact eq_filter_of_sublist (lineOf_nodup pt) (laneOf_sublist.trans (x s l))
  · cases op with
    | next s =>
      rcases next_cases c σ.state s with ⟨batch, result, state, claims⟩ | ⟨_, state⟩
      · have returned : returnedBatch c σ.state (.next s) = some batch := by
          simp [returnedBatch, result]
        rw [show (track c σ (.next s)).state = _ from state]
        exact claimState_inOrder inOrder pt claims returned
      · rw [show (track c σ (.next s)).state = _ from state]
        exact inOrder
    | commitEnqueue lease messageId =>
      rcases commitEnqueue_cases c σ.state lease messageId with ⟨slot, ok, state⟩ | ⟨_, state⟩
      · rw [show (track c σ (.commitEnqueue lease messageId)).state = _ from state]
        exact commitState_inOrder inOrder inv.sound (checkCommit_ok ok).2.2.2.1
      · rw [show (track c σ (.commitEnqueue lease messageId)).state = _ from state]
        exact inOrder
    | reconcileMailboxSnapshot s unread role stale => exact reconcile_inOrder inOrder inv.sound
    | _ =>
      apply inOrder.shrinks pt moves
      apply exec_shrinks inv allowed inLine
      · intro s next
        cases next
      · rfl

lemma InOrder.start : InOrder c initial.state := by
  intro s l
  have empty : lineOf initial.state s l = [] := by
    have none' : initial.state.slots[s]? = none := Table.get_empty
    simp [lineOf, none']
  rw [empty]
  exact .nil

/-- In every run of the coordinator, all operations respect the order of the lanes if and only if every
runtime failure finds the hash map in the order of the lines. -/
theorem fifo_iff (allowed : LTS.EnabledAll Allowed (track c) initial ops) :
    LTS.EnabledAll (fun σ op => Fifo c σ.state op) (track c) initial ops ↔
      LTS.EnabledAll (fun σ op => HashInLine c σ.state op) (track c) initial ops := by
  apply LTS.enabledAll_congr (I := Inv c) (Q := fun σ => InOrder c σ.state)
    (fun σ op inv al => inv.track al) _ allowed .start .start
  intro σ op inv inOrder al
  exact fifo_step inv inOrder al

/-- Two rows of a worker are recovered, its runtime fails and comes back, and its work is claimed. -/
def failedRuntime : List Op :=
  [.setRuntimeConstraint "worker" .ready,
    .reconcileMailboxSnapshot "worker" ["m", "n"] .teammate [],
    .setRuntimeConstraint "worker" (.failed 1 "crash"),
    .setRuntimeConstraint "worker" .ready,
    .next "worker"]

/-- The hash map is iterated in the order in which the rows were recovered. -/
theorem fifo_failedRuntime :
    LTS.EnabledAll (fun σ op => Fifo strokes σ.state op) (track strokes) initial failedRuntime := by
  refine (fifo_iff (by decide)).mpr ⟨?_, trivial, ?_, ?_, trivial, trivial⟩
  · intro ends
    cases ends
  · intro _ l
    cases l <;> decide
  · intro ends
    cases ends

/-- A coordinator whose hash map is iterated from the last to the first entry. -/
def backwards : SlotWorkCoordinator :=
  { strokes with hashOrder := fun _ => ⟨List.reverse, fun l => List.reverse_perm l⟩ }

/-- The failed runtime turns the two rows around, and the younger one is claimed before the older. -/
theorem failedRuntime_turned :
    LTS.EnabledAll Allowed (track backwards) initial failedRuntime ∧
      (returnedBatch backwards ((failedRuntime.take 4).foldl (track backwards) initial).state
        (.next "worker")).map (·.mailboxMessageIds) = some ["n", "m"] ∧
      ¬ LTS.EnabledAll (fun σ op => Fifo backwards σ.state op) (track backwards) initial
        failedRuntime := by
  refine ⟨by decide, by decide, ?_⟩
  intro fifo
  have requeued := fifo.2.2.1.requeues rfl "worker" .background
  exact absurd requeued (by decide)

end SlotWorkCoordinator

end KiCore.Team

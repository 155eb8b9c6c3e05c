import KiCore.Team.Coordinator.Ledger
import KiCore.Team.Coordinator.MessageOwner

/-!
# Which messages a batch acknowledges

`Watched` follows a run of the coordinator together with the rows that were observed for each batch while
its slot worked on it. `AckLaw` says what a batch acknowledges when it ends: its own messages and the
observed ones, each once and with no live owner left, if it completes; and none of the observed ones
otherwise. `acknowledges_iff` shows that a step keeps the law exactly if the batch it completes names no
message twice and holds every live owner of its own messages, which is so in every run whose commits are
for messages without an owner.
-/

namespace KiCore.Team

open KiCore.Lib

/-- The batch that an operation ends without completing it. -/
def Op.breaksOff : Op → Option WorkBatch
  | .failBatch batch _ | .cancelBatch batch _ | .interruptBatch batch _ _ => some batch
  | _ => none

namespace SlotWorkCoordinator

/-- The coordinator, and the rows observed for each batch: the id of the batch, and that of the row. -/
structure Watched where
  coordinator : Tracked
  seen : List (String × String)

/-- The rows an operation observes for the batch of a slot. -/
def noted (st : CoordinatorState) : Op → List (String × String)
  | .observeMessages s batchId messageIds =>
    if activeBatchId st s = some batchId then messageIds.map fun m => (batchId, m) else []
  | _ => []

variable (c : SlotWorkCoordinator)

def watch (x : Watched) (op : Op) : Watched where
  coordinator := track c x.coordinator op
  seen := x.seen ++ noted x.coordinator.state op

def unwatched : Watched :=
  { coordinator := initial, seen := [] }

/-- The messages that are given up with a batch that is broken off, and marked read by the caller. -/
def abandoned (st : CoordinatorState) : Op → List String
  | .failBatch batch classification => (failBatch c st batch classification).result.exhaustedMessageIds
  | .interruptBatch batch reason replacement =>
    (interruptBatch c st batch reason replacement).result.terminalMessageIds
  | _ => []

structure Owns (st : CoordinatorState) (s k m : String) (i : WorkIntent) : Prop where
  intent : st.intents[k]? = some i
  home : i.slotId = s
  live : i.state.isTerminal = false
  message : i.mailboxMessageId = some m

/-- What an operation says of the messages of the batch it ends. -/
structure AckLaw (c : SlotWorkCoordinator) (x : Watched) (op : Op) : Prop where
  acked : ∀ batch, op = .completeBatchWithAck batch →
    (completeBatchWithAck c x.coordinator.state batch).result.commitResult = .committed →
    (completeBatchWithAck c x.coordinator.state batch).result.ackMessageIds.Nodup ∧
    (∀ m, m ∈ (completeBatchWithAck c x.coordinator.state batch).result.ackMessageIds ↔
      m ∈ batch.mailboxMessageIds ∨ (batch.batchId, m) ∈ x.seen) ∧
    ∀ k i m, Owns (watch c x op).coordinator.state batch.slotId k m i →
      m ∉ (completeBatchWithAck c x.coordinator.state batch).result.ackMessageIds
  stale : ∀ batch, op = .completeBatchWithAck batch →
    (completeBatchWithAck c x.coordinator.state batch).result.commitResult ≠ .committed →
    (completeBatchWithAck c x.coordinator.state batch).result.ackMessageIds = []
  spared : ∀ batch, op.breaksOff = some batch →
    (∀ m ∈ abandoned c x.coordinator.state op, m ∈ batch.mailboxMessageIds) ∧
    ∀ k, k ∉ batch.intentIds →
      (watch c x op).coordinator.state.intents[k]? = x.coordinator.state.intents[k]?

/-- The batch that an operation completes names no message twice, and holds every live owner of its own
messages. -/
def OwnersInBatch (st : CoordinatorState) : Op → Prop
  | .completeBatchWithAck batch => isCurrentBatch c st batch = true → batch.mailboxMessageIds.Nodup ∧
    ∀ k i m, Owns st batch.slotId k m i → m ∈ batch.mailboxMessageIds → k ∈ batch.intentIds
  | _ => True

variable {c : SlotWorkCoordinator} {st : CoordinatorState} {σ : Tracked} {x : Watched} {op : Op}
  {ops : List Op} {s k m : String} {i : WorkIntent} {batch b : WorkBatch} {a : ActiveBatch}

lemma mem_addMissing {xs ids : List String} :
    m ∈ xs.foldl (fun ids m => if m ∈ ids then ids else ids ++ [m]) ids ↔ m ∈ ids ∨ m ∈ xs := by
  induction xs generalizing ids with
  | nil => simp
  | cons x xs ih =>
    rw [List.foldl_cons, ih, List.mem_cons]
    split_ifs with known
    · constructor
      · rintro (old | new)
        · exact .inl old
        · exact .inr (.inr new)
      · rintro (old | rfl | new)
        · exact .inl old
        · exact .inl known
        · exact .inr new
    · rw [List.mem_append, List.mem_singleton, or_assoc]

lemma nodup_addMissing {xs ids : List String} :
    (xs.foldl (fun ids m => if m ∈ ids then ids else ids ++ [m]) ids).Nodup ↔ ids.Nodup := by
  induction xs generalizing ids with
  | nil => rfl
  | cons x xs ih =>
    rw [List.foldl_cons, ih]
    split_ifs with known
    · rfl
    · rw [List.nodup_append]
      constructor
      · intro h
        exact h.1
      · intro h
        refine ⟨h, List.nodup_singleton x, ?_⟩
        rintro m mem _ here rfl
        exact known (List.mem_singleton.mp here ▸ mem)

lemma mem_ackMessageIds :
    m ∈ ackMessageIds batch ↔ m ∈ batch.mailboxMessageIds ∨ m ∈ batch.observedMessageIds :=
  mem_addMissing

lemma ackMessageIds_nodup : (ackMessageIds batch).Nodup ↔ batch.mailboxMessageIds.Nodup :=
  nodup_addMissing

lemma mem_observe {messageIds : List String} : m ∈ (observe batch messageIds).observedMessageIds ↔
    m ∈ batch.observedMessageIds ∨ m ∈ messageIds ∧ m ∉ batch.mailboxMessageIds := by
  unfold observe
  induction messageIds generalizing batch with
  | nil => simp
  | cons id ids ih =>
    rw [List.foldl_cons, ih, List.mem_cons]
    split_ifs with known
    · constructor
      · rintro (old | ⟨new, other⟩)
        · exact .inl old
        · exact .inr ⟨.inr new, other⟩
      · rintro (old | ⟨rfl | new, other⟩)
        · exact .inl old
        · exact .inl (known.resolve_left other)
        · exact .inr ⟨new, other⟩
    · obtain ⟨foreign, _⟩ := not_or.mp known
      rw [List.mem_append, List.mem_singleton]
      constructor
      · rintro ((old | rfl) | ⟨new, other⟩)
        · exact .inl old
        · exact .inr ⟨.inl rfl, foreign⟩
        · exact .inr ⟨.inr new, other⟩
      · rintro (old | ⟨rfl | new, other⟩)
        · exact .inl (.inl old)
        · exact .inl (.inr rfl)
        · exact .inr ⟨new, other⟩

/-- The observed rows of the batch a slot works on are those that were noted for it and are not its own. -/
structure WatchInv (c : SlotWorkCoordinator) (x : Watched) : Prop where
  inv : Inv c x.coordinator
  drawn : ∀ row ∈ x.seen, Drawn c x.coordinator.state row.1
  exact : ∀ s b, (ledgerOf x.coordinator.state s).batch = some b → ∀ m,
    m ∈ b.observedMessageIds ↔ (b.batchId, m) ∈ x.seen ∧ m ∉ b.mailboxMessageIds

lemma noted_of_other (other : ∀ s batchId messageIds, op ≠ .observeMessages s batchId messageIds) :
    noted st op = [] := by
  cases op with
  | observeMessages s batchId messageIds => exact absurd rfl (other s batchId messageIds)
  | _ => rfl

variable {t : WorkIntentState}

lemma batch_before_terminalize {delivery : DeliveryOutcome} (own : batch.slotId = s)
    (now : (ledgerOf (terminalizeBatch c st batch t delivery).state s).batch = some b) :
    (ledgerOf st s).batch = some b := by
  by_cases current : isCurrentBatch c st batch = true
  · rw [ledgerOf_terminalizeBatch current, if_pos own] at now
    cases now
  · rw [terminalizeBatch_stale current] at now
    exact now

lemma batch_before_complete (own : batch.slotId = s)
    (now : (ledgerOf (completeBatchWithAck c st batch).state s).batch = some b) :
    (ledgerOf st s).batch = some b := by
  by_cases current : isCurrentBatch c st batch = true
  · obtain ⟨a, ha, _⟩ := isCurrentBatch_spec current
    have after := (ledgerOf_completeBatchWithAck ha current).2.2.2 s
    rw [after, if_pos own] at now
    cases now
  · rw [(completeBatchWithAck_stale current).2] at now
    exact now

lemma batch_before_interrupt {reason : Option String} {replacement : String} (own : batch.slotId = s)
    (now : (ledgerOf (interruptBatch c st batch reason replacement).state s).batch = some b) :
    (ledgerOf st s).batch = some b := by
  by_cases current : isCurrentBatch c st batch = true
  · rw [ledgerOf_interruptBatch current, if_pos own] at now
    cases now
  · rw [interruptBatch_stale current] at now
    exact now

lemma batch_before_next (now : (ledgerOf (next c st s).state s).batch = some b) :
    (ledgerOf st s).batch = some b ∨ returnedBatch c st (.next s) = some b := by
  rcases ledgerOf_next c st s with ⟨batch, result, _, ledger, _⟩ | ⟨_, state⟩
  · rw [ledger] at now
    cases now
    exact .inr (by simp [returnedBatch, result])
  · rw [state] at now
    exact .inl now

lemma batch_kept (other : ∀ s batchId messageIds, op ≠ .observeMessages s batchId messageIds)
    (now : (ledgerOf (exec c st op).1 s).batch = some b) :
    (ledgerOf st s).batch = some b ∨ returnedBatch c st op = some b := by
  by_cases quiet : op.delivers s = false
  · exact .inl ((exec_ledger quiet).batch_before now)
  have here : op.delivers s = true := Bool.of_not_eq_false quiet
  cases op with
  | next s' =>
    obtain rfl : s' = s := of_decide_eq_true here
    exact batch_before_next now
  | observeMessages s' batchId messageIds => exact absurd rfl (other s' batchId messageIds)
  | reconcileMailboxSnapshot s' unread role stale =>
    rw [show ledgerOf (exec c st (.reconcileMailboxSnapshot s' unread role stale)).1 s = _ from
      ledgerOf_reconcile] at now
    split_ifs at now
    · exact .inl now
    · exact .inl now
  | completeBatchWithAck batch => exact .inl (batch_before_complete (of_decide_eq_true here) now)
  | failBatch batch classification => exact .inl (batch_before_terminalize (of_decide_eq_true here) now)
  | cancelBatch batch classification => exact .inl (batch_before_terminalize (of_decide_eq_true here) now)
  | interruptBatch batch reason replacement =>
    exact .inl (batch_before_interrupt (of_decide_eq_true here) now)
  | _ => cases here

lemma Inv.same_batch {s' : String} {b' : WorkBatch} (inv : Inv c σ)
    (hb : (ledgerOf σ.state s).batch = some b) (hb' : (ledgerOf σ.state s').batch = some b')
    (id : b.batchId = b'.batchId) : s = s' := by
  rw [ledgerOf_batch, Option.map_eq_some_iff] at hb hb'
  obtain ⟨a, ha, rfl⟩ := hb
  obtain ⟨a', ha', rfl⟩ := hb'
  obtain ⟨home, mem⟩ := inv.active s a ha
  obtain ⟨home', mem'⟩ := inv.active s' a' ha'
  have same : a.batch.asClaimed.slotId = a'.batch.asClaimed.slotId :=
    congrArg WorkBatch.slotId (inv.unique _ mem _ mem' id)
  exact home.symm.trans (same.trans home')

lemma WatchInv.drawn_noted (w : WatchInv c x) {row : String × String}
    (new : row ∈ noted x.coordinator.state op) : Drawn c x.coordinator.state row.1 := by
  cases op with
  | observeMessages s batchId messageIds =>
    simp only [noted] at new
    split_ifs at new with active
    · obtain ⟨m, _, rfl⟩ := List.mem_map.mp new
      obtain ⟨a, ha, rfl⟩ := Option.map_eq_some_iff.mp active
      exact (w.inv.claimed _ (w.inv.active s a ha).2).drawn
    · cases new
  | _ => cases new

lemma WatchInv.exact_observe (w : WatchInv c x) {s' batchId : String} {messageIds : List String}
    (now : (ledgerOf (observeMessages x.coordinator.state s' batchId messageIds).state s).batch = some b) :
    m ∈ b.observedMessageIds ↔
      (b.batchId, m) ∈ x.seen ++ noted x.coordinator.state (.observeMessages s' batchId messageIds) ∧
        m ∉ b.mailboxMessageIds := by
  rcases ledgerOf_observeMessages x.coordinator.state s' batchId messageIds with
    ⟨a, ha, rfl, ledger⟩ | ⟨inactive, state⟩
  · have before : (ledgerOf x.coordinator.state s').batch = some a.batch := by
      rw [ledgerOf_batch, ha]
      rfl
    have active : activeBatchId x.coordinator.state s' = some a.batch.batchId := by
      rw [activeBatchId, ha]
      rfl
    rw [noted, if_pos active, List.mem_append, List.mem_map]
    rw [ledger] at now
    split_ifs at now with hs
    · cases now
      have claimed : (observe a.batch messageIds).asClaimed = a.batch.asClaimed := observe_asClaimed
      obtain ⟨observed, copy⟩ := WorkBatch.copy_of_asClaimed claimed
      have id : (observe a.batch messageIds).batchId = a.batch.batchId := by rw [copy]
      have own : (observe a.batch messageIds).mailboxMessageIds = a.batch.mailboxMessageIds := by rw [copy]
      rw [mem_observe, w.exact s' a.batch before, id, own]
      simp only [Prod.mk.injEq, true_and, exists_eq_right]
      exact or_and_right.symm
    · -- Another slot works on another batch.
      have other : a.batch.batchId ≠ b.batchId := fun id => hs (w.inv.same_batch before now id)
      rw [w.exact s b now]
      simp [other]
  · rw [noted, if_neg inactive, List.append_nil]
    rw [state] at now
    exact w.exact s b now m

lemma WatchInv.exact_other (w : WatchInv c x)
    (other : ∀ s batchId messageIds, op ≠ .observeMessages s batchId messageIds)
    (now : (ledgerOf (exec c x.coordinator.state op).1 s).batch = some b) :
    m ∈ b.observedMessageIds ↔
      (b.batchId, m) ∈ x.seen ++ noted x.coordinator.state op ∧ m ∉ b.mailboxMessageIds := by
  rw [noted_of_other other, List.append_nil]
  rcases batch_kept other now with before | returned
  · exact w.exact s b before m
  · obtain ⟨s', _, _, claims⟩ := claims_of_returned returned
    have made := claims.made
    have id : b.batchId = c.generateId x.coordinator.state.ticks := congrArg WorkBatch.batchId made
    have none : b.observedMessageIds = [] := congrArg WorkBatch.observedMessageIds made
    rw [none]
    refine ⟨fun mem => absurd mem List.not_mem_nil, fun h => ?_⟩
    exact absurd (id ▸ w.drawn _ h.1) not_drawn

lemma WatchInv.step (w : WatchInv c x) (allowed : Allowed x.coordinator op) :
    WatchInv c (watch c x op) := by
  have ticks := exec_ticks w.inv allowed
  refine ⟨w.inv.track allowed, fun row mem => ?_, fun s b now m => ?_⟩
  · rcases List.mem_append.mp mem with old | new
    · exact (w.drawn row old).mono ticks
    · exact (w.drawn_noted new).mono ticks
  · by_cases observes : ∃ s batchId messageIds, op = .observeMessages s batchId messageIds
    · obtain ⟨s', batchId, messageIds, rfl⟩ := observes
      exact w.exact_observe now
    · exact w.exact_other (fun s' batchId messageIds e => observes ⟨s', batchId, messageIds, e⟩) now

lemma WatchInv.start : WatchInv c unwatched := by
  refine ⟨.start, fun row mem => absurd mem List.not_mem_nil, fun s b now => ?_⟩
  have empty : (ledgerOf unwatched.coordinator.state s).batch = none := by
    rw [ledgerOf, show unwatched.coordinator.state.slots[s]? = none from Table.get_empty]
    rfl
  rw [empty] at now
  cases now

lemma owns_completed : Owns (completeState st s b) s k m i ↔
    Owns st s k m i ∧ completesWith s b i = false := by
  constructor
  · rintro ⟨hi, home, live, message⟩
    rw [intents_completeState, Option.map_eq_some_iff] at hi
    obtain ⟨j, hj, rfl⟩ := hi
    cases ends : completesWith s b j with
    | true =>
      simp only [ends, if_true] at live
      cases live
    | false =>
      simp only [ends, Bool.false_eq_true, if_false] at live ⊢
      exact ⟨⟨hj, home, live, message⟩, trivial⟩
  · rintro ⟨⟨hi, home, live, message⟩, ends⟩
    refine ⟨?_, home, live, message⟩
    rw [intents_completeState, hi, Option.map_some, ends]
    simp

lemma intents_endBatch {g : SlotState → SlotState} {ids : List String}
    (other : k ∉ ids) : ((st.setStates ids fun _ => t).modifySlot s g).intents[k]? = st.intents[k]? := by
  have states : (st.setStates ids fun _ => t).intents[k]? =
      if k ∈ ids then (st.intents[k]?).map (fun i => { i with state := t }) else st.intents[k]? :=
    CoordinatorState.intents_setStates fun _ _ => rfl
  exact states.trans (if_neg other)

lemma intents_terminalizeBatch {delivery : DeliveryOutcome} (other : k ∉ batch.intentIds) :
    (terminalizeBatch c st batch t delivery).state.intents[k]? = st.intents[k]? := by
  rw [terminalizeBatch_state]
  split_ifs
  · exact intents_endBatch other
  · rfl

lemma intents_interruptBatch {reason : Option String} {replacement : String}
    (other : k ∉ batch.intentIds) :
    (interruptBatch c st batch reason replacement).state.intents[k]? = st.intents[k]? := by
  unfold interruptBatch
  split
  · rfl
  · exact intents_endBatch (s := batch.slotId)
      (g := fun slot => (settleDelivery { slot with active := none } batch .notFailed).1) other

lemma exhausted_subset
    (mem : m ∈ (terminalizeBatch c st batch t .failed).result.exhaustedMessageIds) :
    m ∈ batch.mailboxMessageIds := by
  unfold terminalizeBatch at mem
  split at mem
  · cases mem
  · cases hslot : st.slots[batch.slotId]? with
    | none => simp [hslot] at mem
    | some slot =>
      simp only [hslot, Option.map_some, Option.getD_some] at mem
      exact countFailures_subset mem

lemma terminal_subset {reason : Option String} {replacement : String}
    (mem : m ∈ (interruptBatch c st batch reason replacement).result.terminalMessageIds) :
    m ∈ batch.mailboxMessageIds := by
  unfold interruptBatch at mem
  split at mem
  · cases mem
  · exact mem

lemma breaksOff_spares (ended : op.breaksOff = some batch) :
    (∀ m ∈ abandoned c st op, m ∈ batch.mailboxMessageIds) ∧
      ∀ k, k ∉ batch.intentIds → (exec c st op).1.intents[k]? = st.intents[k]? := by
  cases op with
  | failBatch b classification =>
    cases ended
    exact ⟨fun m mem => exhausted_subset mem, fun k => intents_terminalizeBatch⟩
  | cancelBatch b classification =>
    cases ended
    exact ⟨fun m mem => absurd mem List.not_mem_nil, fun k => intents_terminalizeBatch⟩
  | interruptBatch b reason replacement =>
    cases ended
    exact ⟨fun m mem => terminal_subset mem, fun k => intents_interruptBatch⟩
  | _ => cases ended

/-- The batch that is completed is the one in the slot, but for what the slot has observed. -/
structure Completes (c : SlotWorkCoordinator) (x : Watched) (batch : WorkBatch) (b : WorkBatch) : Prop where
  committed : (completeBatchWithAck c x.coordinator.state batch).result.commitResult = .committed
  acks : (completeBatchWithAck c x.coordinator.state batch).result.ackMessageIds = ackMessageIds b
  after : (watch c x (.completeBatchWithAck batch)).coordinator.state =
    completeState x.coordinator.state batch.slotId b
  ids : b.intentIds = batch.intentIds
  messages : b.mailboxMessageIds = batch.mailboxMessageIds
  observed : ∀ m, m ∈ b.observedMessageIds ↔ (batch.batchId, m) ∈ x.seen ∧ m ∉ batch.mailboxMessageIds

lemma WatchInv.completes (w : WatchInv c x) (allowed : Allowed x.coordinator (.completeBatchWithAck batch))
    (current : isCurrentBatch c x.coordinator.state batch = true) : ∃ b, Completes c x batch b := by
  obtain ⟨a, ha, copy⟩ := w.inv.current (allowed batch rfl) current
  obtain ⟨committed, acks, state, _⟩ := ledgerOf_completeBatchWithAck ha current
  have inBatch : (ledgerOf x.coordinator.state batch.slotId).batch = some a.batch := by
    rw [ledgerOf_batch, ha]
    rfl
  have ids : a.batch.intentIds = batch.intentIds := (congrArg WorkBatch.intentIds copy :)
  have messages : a.batch.mailboxMessageIds = batch.mailboxMessageIds :=
    (congrArg WorkBatch.mailboxMessageIds copy :)
  have batchId : a.batch.batchId = batch.batchId := (congrArg WorkBatch.batchId copy :)
  refine ⟨a.batch, committed, acks, state, ids, messages, fun m => ?_⟩
  rw [w.exact batch.slotId a.batch inBatch, messages, batchId]

lemma Completes.ends_iff (d : Completes c x batch b) (inv : Inv c x.coordinator)
    (owns : Owns x.coordinator.state batch.slotId k m i) : completesWith batch.slotId b i = true ↔
      k ∈ batch.intentIds ∨ m ∈ b.observedMessageIds := by
  obtain ⟨hi, home, live, message⟩ := owns
  simp [completesWith, inv.sound.keyed k i hi, d.ids, home, live, message]

lemma Completes.owners (d : Completes c x batch b) (inv : Inv c x.coordinator)
    (law : AckLaw c x (.completeBatchWithAck batch)) : batch.mailboxMessageIds.Nodup ∧
      ∀ k i m, Owns x.coordinator.state batch.slotId k m i → m ∈ batch.mailboxMessageIds →
        k ∈ batch.intentIds := by
  obtain ⟨nodup, _, unowned⟩ := law.acked batch rfl d.committed
  rw [d.acks] at nodup unowned
  refine ⟨d.messages ▸ ackMessageIds_nodup.mp nodup, fun k i m owns own => ?_⟩
  by_contra out
  have foreign : m ∉ b.observedMessageIds := fun mem => ((d.observed m).mp mem).2 own
  refine unowned k i m ?_ (mem_ackMessageIds.mpr (.inl (d.messages ▸ own)))
  rw [d.after, owns_completed]
  refine ⟨owns, Bool.eq_false_iff.mpr fun e => ?_⟩
  exact not_or.mpr ⟨out, foreign⟩ ((d.ends_iff inv owns).mp e)

lemma Completes.acked (d : Completes c x batch b) (inv : Inv c x.coordinator)
    (nodup : batch.mailboxMessageIds.Nodup)
    (inside : ∀ k i m, Owns x.coordinator.state batch.slotId k m i → m ∈ batch.mailboxMessageIds →
      k ∈ batch.intentIds) :
    (ackMessageIds b).Nodup ∧
    (∀ m, m ∈ ackMessageIds b ↔ m ∈ batch.mailboxMessageIds ∨ (batch.batchId, m) ∈ x.seen) ∧
    ∀ k i m, Owns (watch c x (.completeBatchWithAck batch)).coordinator.state batch.slotId k m i →
      m ∉ ackMessageIds b := by
  refine ⟨ackMessageIds_nodup.mpr (d.messages ▸ nodup), fun m => ?_, fun k i m owns mem => ?_⟩
  · rw [mem_ackMessageIds, d.observed, d.messages]
    by_cases own : m ∈ batch.mailboxMessageIds <;> simp [own]
  · rw [d.after, owns_completed] at owns
    obtain ⟨owns, stays⟩ := owns
    refine Bool.eq_false_iff.mp stays ((d.ends_iff inv owns).mpr ?_)
    rcases mem_ackMessageIds.mp mem with own | seen
    · exact .inl (inside k i m owns (d.messages ▸ own))
    · exact .inr seen

lemma WatchInv.law_iff (w : WatchInv c x) (allowed : Allowed x.coordinator op) :
    AckLaw c x op ↔ OwnersInBatch c x.coordinator.state op := by
  have spared : ∀ batch, op.breaksOff = some batch →
      (∀ m ∈ abandoned c x.coordinator.state op, m ∈ batch.mailboxMessageIds) ∧
      ∀ k, k ∉ batch.intentIds →
        (watch c x op).coordinator.state.intents[k]? = x.coordinator.state.intents[k]? :=
    fun batch ended => breaksOff_spares ended
  by_cases completes : ∃ batch, op = .completeBatchWithAck batch
  · obtain ⟨batch, rfl⟩ := completes
    by_cases current : isCurrentBatch c x.coordinator.state batch = true
    · obtain ⟨b, d⟩ := w.completes allowed current
      constructor
      · intro law _
        exact d.owners w.inv law
      · intro owners
        obtain ⟨nodup, inside⟩ := owners current
        refine ⟨?_, ?_, spared⟩
        · rintro b' ⟨⟩ _
          rw [d.acks]
          exact d.acked w.inv nodup inside
        · rintro b' ⟨⟩ stale
          exact absurd d.committed stale
    · obtain ⟨result, _⟩ := completeBatchWithAck_stale current
      constructor
      · intro _ is
        exact absurd is current
      · intro _
        refine ⟨?_, ?_, spared⟩
        · rintro b ⟨⟩ committed
          rw [result] at committed
          cases committed
        · rintro b ⟨⟩ _
          rw [result]
  · have free : OwnersInBatch c x.coordinator.state op := by
      cases op with
      | completeBatchWithAck batch => exact absurd ⟨batch, rfl⟩ completes
      | _ => trivial
    have law : AckLaw c x op :=
      ⟨fun b e => absurd ⟨b, e⟩ completes, fun b e => absurd ⟨b, e⟩ completes, spared⟩
    exact ⟨fun _ => free, fun _ => law⟩

lemma OwnersInBatch.of_oneOwner (w : WatchInv c x) (allowed : Allowed x.coordinator op)
    (one : OneOwner x.coordinator.state) : OwnersInBatch c x.coordinator.state op := by
  cases op with
  | completeBatchWithAck batch =>
    intro current
    have pt := w.inv.sound.partitioned
    obtain ⟨a, ha, copy⟩ := w.inv.current (allowed batch rfl) current
    have ids : a.batch.intentIds = batch.intentIds := (congrArg WorkBatch.intentIds copy :)
    have messages := (w.inv.claimed _ (allowed batch rfl)).messages
    have held : ∀ k ∈ batch.intentIds, ∃ i, x.coordinator.state.intents[k]? = some i ∧
        i.state.isTerminal = false ∧ i.slotId = batch.slotId := by
      intro k mem
      obtain ⟨i, hi, tag, home⟩ := intent_of_batch pt ha (ids ▸ mem)
      exact ⟨i, hi, tag ▸ WorkIntentState.not_isTerminal_of_isActive a.tag_isActive, home⟩
    constructor
    · rw [show batch.mailboxMessageIds = _ from messages]
      refine List.Pairwise.filterMap _ ?_ (List.Pairwise.and_mem.mp (ids ▸ batch_nodup pt ha))
      rintro k k' ⟨hk, hk', ne⟩ m hm m' hm' rfl
      obtain ⟨i, hi, live, home⟩ := held k hk
      obtain ⟨i', hi', live', home'⟩ := held k' hk'
      rw [hi] at hm
      rw [hi'] at hm'
      exact ne (one k k' i i' m hi hi' live live' (home.trans home'.symm) hm hm')
    · rintro k i m ⟨hi, home, live, message⟩ own
      rw [show batch.mailboxMessageIds = _ from messages, List.mem_filterMap] at own
      obtain ⟨k', mem, hm⟩ := own
      obtain ⟨i', hi', live', home'⟩ := held k' mem
      rw [hi'] at hm
      rw [one k k' i i' m hi hi' live live' (home.trans home'.symm) message hm]
      exact mem
  | _ => trivial

/-- In every run a step keeps the law of acknowledgements exactly if the batch it completes names no message
twice and holds every live owner of its messages; and so does every step of a run whose commits are for
messages without an owner. -/
theorem acknowledges_iff
    (allowed : LTS.EnabledAll (fun x op => Allowed x.coordinator op) (watch c) unwatched ops) :
    LTS.EnabledAll (fun x op => AckLaw c x op ↔ OwnersInBatch c x.coordinator.state op) (watch c)
      unwatched ops ∧
    (LTS.EnabledAll (fun x op => Allowed x.coordinator op ∧ CommitsFree c x.coordinator.state op) (watch c)
      unwatched ops → LTS.EnabledAll (AckLaw c) (watch c) unwatched ops) := by
  refine ⟨allowed.imp (Q := WatchInv c) (fun x op w ok => ⟨w.law_iff ok, w.step ok⟩) .start, fun free => ?_⟩
  refine free.imp (Q := fun x => WatchInv c x ∧ OneOwner x.coordinator.state) ?_ ⟨.start, .start⟩
  rintro x op ⟨w, one⟩ ⟨ok, unowned⟩
  exact ⟨(w.law_iff ok).mpr (.of_oneOwner w ok one), w.step ok, one.step w.inv ok unowned⟩

/-- The row of a welcome is read by the reconcile of the worker, whose turn on it is under way when the
welcome is committed. -/
def welcomeLate : List Op :=
  [.setRuntimeConstraint "worker" .ready,
    .acquireEnqueue
      { slotId := "worker", role := .teammate, source := .spawnWelcome, binding := .background }
      { teamRunId := none, createdNewRun := false, userIntervention := false },
    .reconcileMailboxSnapshot "worker" ["m"] .teammate [],
    .next "worker",
    .commitEnqueue welcomeLease (some "m")]

def welcomeBatch : WorkBatch where
  batchId := "|||"
  sessionGeneration := "generation"
  slotId := "worker"
  intentIds := ["||"]
  mailboxMessageIds := ["m"]
  observedMessageIds := []
  highestPriority := .background
  teamRunIds := []
  operationId := 1
  isCommand := false

/-- When the turn completes, the row is acknowledged, and the intent of the welcome still owns it. -/
theorem welcomeLate_owned :
    ¬ ∀ (c : SlotWorkCoordinator) (ops : List Op),
      LTS.EnabledAll (fun x op => Allowed x.coordinator op) (watch c) unwatched ops →
      LTS.EnabledAll (AckLaw c) (watch c) unwatched ops := by
  intro law
  have last := LTS.EnabledAll.last <|
    law strokes (welcomeLate ++ [.completeBatchWithAck welcomeBatch]) (by decide)
  obtain ⟨_, _, unowned⟩ := last.acked welcomeBatch rfl (by decide)
  have owned : ∃ i, ((watch strokes (welcomeLate.foldl (watch strokes) unwatched)
      (.completeBatchWithAck welcomeBatch)).coordinator.state.intents["||||"]?) = some i ∧
      i.slotId = "worker" ∧ i.state.isTerminal = false ∧ i.mailboxMessageId = some "m" := ⟨_, rfl, by decide⟩
  obtain ⟨i, hi, home, live, message⟩ := owned
  exact unowned "||||" i "m" ⟨hi, home, live, message⟩ (by decide)

/-- The lead observes a row during the turn of a user message, and the turn completes. -/
def observedTurn : List Op :=
  userTurn ++ [.observeMessages "lead" "|||" ["m", "n", "n"], .completeBatchWithAck userBatch]

/-- Both rows are acknowledged, each once. -/
theorem acknowledges_observedTurn :
    LTS.EnabledAll (AckLaw strokes) (watch strokes) unwatched observedTurn ∧
      (completeBatchWithAck strokes ((observedTurn.take 5).foldl (watch strokes) unwatched).coordinator.state
        userBatch).result.ackMessageIds = ["m", "n"] := by
  have allowed : LTS.EnabledAll (fun x op => Allowed x.coordinator op) (watch strokes) unwatched
    observedTurn := by decide
  refine ⟨(acknowledges_iff allowed).2 ?_, by decide⟩
  exact ⟨⟨by decide, trivial⟩, ⟨by decide, trivial⟩, ⟨by decide, fun _ => by decide⟩,
    ⟨by decide, trivial⟩, ⟨by decide, trivial⟩, ⟨by decide, trivial⟩, trivial⟩

end SlotWorkCoordinator

end KiCore.Team

import KiCore.Team.Coordinator.ControlEffect

/-!
# The effects of the operations that take work in

The effect on the board of the operations in `Enqueue.lean`. Intents enter the board in two places:
a lease is committed (`commitState_effect`), or a mailbox row is recovered (`recoverAll_effect`). The
guards of these effects say under which ids the intents enter and what they are; the guard of a
recovery also says that its message had no live owner in the slot.
-/

namespace KiCore.Team

open KiCore.Lib Classical

namespace SlotWorkCoordinator

variable {c : SlotWorkCoordinator} {G : CoordinatorBoard → String → WorkIntent → Prop}
  {st st' : CoordinatorState} {s k : String} {i : WorkIntent} {lease : EnqueueLease}
  {messageId : Option String}

def Drawn (c : SlotWorkCoordinator) (st : CoordinatorState) (id : String) : Prop :=
  ∃ n, n < st.ticks ∧ id = c.generateId n

lemma Drawn.mono {id : String} (d : Drawn c st id) (ticks : st.ticks ≤ st'.ticks) : Drawn c st' id := by
  obtain ⟨n, hn, e⟩ := d
  exact ⟨n, hn.trans_le ticks, e⟩

lemma not_drawn : ¬ Drawn c st (c.generateId st.ticks) := by
  rintro ⟨n, hn, e⟩
  have := c.generateId_injective e
  omega

/-- What every state of the coordinator meets: the records agree, and intents are stored under their
own ids, which have been drawn. -/
structure Sound (c : SlotWorkCoordinator) (st : CoordinatorState) : Prop where
  partitioned : (board st).Partitioned
  keyed : Keyed st
  drawn : ∀ (k : String) (i : WorkIntent), st.intents[k]? = some i → Drawn c st k

lemma Sound.fresh (so : Sound c st) : st.intents[c.generateId st.ticks]? = none := by
  cases h : st.intents[c.generateId st.ticks]? with
  | none => rfl
  | some i => exact absurd (so.drawn _ i h) not_drawn

lemma Sound.moves (so : Sound c st) (m : Board.Moves G (board st) (board st'))
    (ticks : st.ticks ≤ st'.ticks) (enter : ∀ d k a, G d k a → a.intentId = k ∧ Drawn c st' k) :
    Sound c st' where
  partitioned := so.partitioned.moves m
  keyed := so.keyed.moves so.partitioned m fun d k a g => (enter d k a g).1
  drawn k i hi := by
    have old : ∀ k a p, (board st).entry k = some (a, p) → Drawn c st' k := fun k a p e => by
      obtain ⟨i, hi, _⟩ := intent_of e
      exact (so.drawn k i hi).mono ticks
    exact m.entries (P := fun k _ => Drawn c st' k) so.partitioned old
      (fun d k a g => (enter d k a g).2) k _ _ (entry_of hi)

lemma acquireEnqueue_unmoved {ρ : Type} {port : RunCausalityPort ρ} {r : ρ} {request : EnqueueRequest} :
    Unmoved st (acquireEnqueue c port r st request).2.1 := by
  have put : Unmoved st (st.putSlot request.slotId
      { st.slotOrNew request.slotId request.role with role := request.role }) :=
    .putSlot (workOf_slotOrNew _)
  unfold acquireEnqueue
  dsimp only
  cases validateEnqueueConstraint request.slotId
      { st.slotOrNew request.slotId request.role with role := request.role } with
  | error _ => exact put
  | ok _ => exact put.trans ⟨rfl, fun _ => rfl, Nat.le_succ _⟩

lemma abortEnqueue_unmoved {lease : EnqueueLease} : Unmoved st (abortEnqueue c st lease).state := by
  unfold abortEnqueue
  cases st.enqueueLeases[lease.leaseId]? with
  | none => exact .refl
  | some record =>
    dsimp only
    split
    · exact .refl
    · exact ⟨rfl, fun _ => rfl, le_refl _⟩

lemma checkCommit_ok {slot : SlotState} (h : checkCommit c st lease messageId = .ok slot) :
    (∃ record, st.enqueueLeases[lease.leaseId]? = some record ∧ record.lease = lease) ∧
      lease.sessionGeneration = c.sessionGeneration ∧
      (lease.source.requiresMailboxMessage = true → messageId.isSome = true) ∧
      st.slots[lease.slotId]? = some slot ∧
      validateEnqueueConstraint lease.slotId slot = .ok () := by
  unfold checkCommit at h
  split at h
  · cases h
  next record hrec =>
  split at h
  · cases h
  next owner =>
  split at h
  · cases h
  next mail =>
  split at h
  · cases h
  next slot' hslot =>
  split at h
  · cases h
  next valid =>
  cases h
  obtain ⟨same, generation⟩ := not_or.mp owner
  refine ⟨⟨record, hrec, not_not.mp same⟩, not_not.mp generation, fun req => ?_, hslot, valid⟩
  cases messageId with
  | none => exact absurd ⟨req, rfl⟩ mail
  | some _ => rfl

lemma commitEnqueue_cases (c : SlotWorkCoordinator) (st : CoordinatorState) (lease : EnqueueLease)
    (messageId : Option String) :
    (∃ slot, checkCommit c st lease messageId = .ok slot ∧
      (commitEnqueue c st lease messageId).state = commitState c st lease messageId) ∨
    ((∃ error, checkCommit c st lease messageId = .error error) ∧
      (commitEnqueue c st lease messageId).state = st) := by
  unfold commitEnqueue
  cases checkCommit c st lease messageId with
  | error error => exact .inr ⟨⟨error, rfl⟩, rfl⟩
  | ok slot => exact .inl ⟨slot, rfl, rfl⟩

lemma work_commitSlot {slot : SlotState} : (commitSlot slot lease i).work =
    (fun l => if l = i.priority then
        if lease.source = .leadIntervention then i.intentId :: slot.queue l
        else slot.queue l ++ [i.intentId]
      else slot.queue l, slot.active) := by
  have pushed (slot' : SlotState) (same : slot'.work = slot.work) :
      (if lease.source = .leadIntervention then slot'.pushFront i.priority i.intentId
        else slot'.pushBack i.priority i.intentId).work =
      (fun l => if l = i.priority then
          if lease.source = .leadIntervention then i.intentId :: slot.queue l
          else slot.queue l ++ [i.intentId]
        else slot.queue l, slot.active) := by
    have lanes : slot'.queue = slot.queue := congrArg Prod.fst same
    have active : slot'.active = slot.active := congrArg Prod.snd same
    split
    · simp [SlotState.work, lanes, active, funext_iff]
    · simp [SlotState.work, lanes, active, funext_iff]
  unfold commitSlot
  apply pushed
  cases i.mailboxMessageId <;> cases lease.source.resumesPausedSlot <;> rfl

/-- A commit lets its intent enter the board. -/
lemma commitState_effect (messageId : Option String) {slot : SlotState} (so : Sound c st)
    (hslot : st.slots[lease.slotId]? = some slot) :
    Effect (fun b k a => b = board st ∧ k = c.generateId st.ticks ∧
      a = committedIntent c st lease messageId) st (commitState c st lease messageId) := by
  have work : ∀ s', workOf (commitState c st lease messageId) s' =
      if lease.slotId = s' then
        (commitSlot slot lease (committedIntent c st lease messageId)).work
      else workOf st s' := fun s' => by
    show workOf (st.tick.modifySlot lease.slotId _) s' = _
    rw [workOf_modifySlot (by exact hslot)]
    rfl
  have active : ∀ s', activeOf (commitState c st lease messageId) s' = activeOf st s' := fun s' => by
    rw [activeOf_eq, activeOf_eq, work]
    split_ifs with hs
    · rw [← hs, workOf_known hslot, work_commitSlot]
      rfl
    · rfl
  have eq : board (commitState c st lease messageId) =
      (board st).enqueue (c.generateId st.ticks) (committedIntent c st lease messageId)
        (lease.source = .leadIntervention) := by
    apply Board.ext
    · funext k
      show Option.map _ ((st.intents.insert (c.generateId st.ticks) _)[k]?) = _
      rw [Table.get_insert]
      simp only [Board.enqueue, eq_comm (a := k)]
      split_ifs <;> rfl
    · funext s' l
      show (workOf _ s').1 l = _
      rw [work, work_commitSlot]
      have lane : ∀ s' l, (board st).queue s' l = (workOf st s').1 l := fun _ _ => rfl
      simp only [Board.enqueue, home_eq, lane_eq, lane, decide_eq_true_eq]
      by_cases hs : lease.slotId = s'
      · subst hs
        rw [if_pos rfl, workOf_known hslot]
        simp only [SlotState.work, committedIntent, true_and]
        congr
      · rw [if_neg hs, if_neg fun h => hs h.1.symm]
    · funext s'
      simp only [Board.enqueue, board, active]
  refine ⟨?_, fun s' a' h => ?_, Nat.le_succ _⟩
  · rw [eq]
    exact .one (.enqueue _ (entry_none.mpr so.fresh) ⟨rfl, rfl, rfl⟩)
  · rw [active] at h
    exact ⟨a', h, rfl⟩

lemma alreadyOwned_iff {message : String} :
    alreadyOwned st s message = true ↔ (board st).Owned WorkIntent.mailboxMessageId s message := by
  simp only [alreadyOwned, List.any_eq_true, Table.mem_values, decide_eq_true_eq, Bool.not_eq_true]
  constructor
  · rintro ⟨i, ⟨k, hi⟩, hs, hm, live⟩
    exact ⟨k, i.ticket, _, entry_of hi, WorkIntentState.phase_live.mpr live, hs, hm⟩
  · rintro ⟨k, a, p, e, live, hs, hm⟩
    obtain ⟨i, hi, rfl, rfl⟩ := intent_of e
    exact ⟨i, ⟨k, hi⟩, hs, hm, WorkIntentState.phase_live.mp live⟩

/-- What a recovery lets enter: an intent for one of the messages, without a run, in the slot, where
the message has no live owner. -/
def recoverGuard (c : SlotWorkCoordinator) (bound : Nat) (slotId : String) (messages : List String)
    (b : CoordinatorBoard) (k : String) (a : WorkIntent) : Prop :=
  (∃ n, n < bound ∧ k = c.generateId n) ∧ a.intentId = k ∧ a.slotId = slotId ∧ a.teamRunId = none ∧
    ∃ message ∈ messages, a.mailboxMessageId = some message ∧
      ¬ b.Owned WorkIntent.mailboxMessageId slotId message

variable {role : TeamRunTargetRole} {acc : CoordinatorState × List String} {messages : List String}
  {message : String} {bound : Nat}

/-- Recovering a row that is not owned lets one intent enter. -/
lemma recoverMessage_effect (so : Sound c acc.1) (hslot : ∃ slot, acc.1.slots[s]? = some slot)
    (mem : message ∈ messages) (le : (recoverMessage c s role acc message).1.ticks ≤ bound) :
    Effect (recoverGuard c bound s messages) acc.1 (recoverMessage c s role acc message).1 := by
  obtain ⟨st, created⟩ := acc
  obtain ⟨slot, hslot⟩ := hslot
  simp only at so hslot ⊢
  unfold recoverMessage at le ⊢
  dsimp only at le ⊢
  split at le
  next owned =>
    rw [if_pos owned]
    exact .refl
  next free =>
  rw [if_neg free]
  let intent := recoveryIntent c st s role message
  let after : CoordinatorState :=
    { st.tick.modifySlot s (·.pushBack .background intent.intentId) with
      intents := st.intents.insert intent.intentId intent }
  have work : ∀ s', workOf after s' =
      if s = s' then (slot.pushBack .background intent.intentId).work else workOf st s' := fun s' => by
    show workOf (st.tick.modifySlot s _) s' = _
    rw [workOf_modifySlot (by exact hslot)]
    rfl
  have active : ∀ s', activeOf after s' = activeOf st s' := fun s' => by
    rw [activeOf_eq, activeOf_eq, work]
    split_ifs with hs
    · rw [← hs, workOf_known hslot]
      exact SlotState.active_pushBack
    · rfl
  have eq : board after = (board st).enqueue intent.intentId intent false := by
    apply Board.ext
    · funext k
      show Option.map _ ((st.intents.insert intent.intentId _)[k]?) = _
      rw [Table.get_insert]
      simp only [Board.enqueue, eq_comm (a := k)]
      split_ifs <;> rfl
    · funext s' l
      show (workOf _ s').1 l = _
      rw [work]
      have lane : ∀ s' l, (board st).queue s' l = (workOf st s').1 l := fun _ _ => rfl
      simp only [Board.enqueue, home_eq, lane_eq, lane]
      by_cases hs : s = s'
      · subst hs
        rw [if_pos rfl, workOf_known hslot]
        simp [SlotState.work, intent, recoveryIntent]
      · rw [if_neg hs, if_neg fun h => hs h.1.symm]
    · funext s'
      simp only [Board.enqueue, board, active]
  refine ⟨?_, fun s' a' h => ⟨a', (active s').symm.trans h, rfl⟩, Nat.le_succ _⟩
  rw [show board _ = _ from eq]
  refine .one (.enqueue _ (entry_none.mpr so.fresh) ⟨⟨st.ticks, le, rfl⟩, rfl, rfl, rfl, message, mem, rfl, ?_⟩)
  intro owned
  exact free (alreadyOwned_iff.mpr owned)

lemma recoverMessage_known (hslot : ∃ slot, acc.1.slots[s]? = some slot) :
    ∃ slot, (recoverMessage c s role acc message).1.slots[s]? = some slot := by
  unfold recoverMessage
  dsimp only
  split
  · exact hslot
  · have known : ∃ slot, acc.1.tick.slots[s]? = some slot := hslot
    exact CoordinatorState.known_modifySlot known

lemma recoverMessage_ticks : acc.1.ticks ≤ (recoverMessage c s role acc message).1.ticks := by
  unfold recoverMessage
  dsimp only
  split
  · exact le_refl _
  · exact Nat.le_succ _

lemma recoverAll_ticks {ms : List String} :
    acc.1.ticks ≤ (ms.foldl (recoverMessage c s role) acc).1.ticks := by
  induction ms generalizing acc with
  | nil => exact le_refl _
  | cons m ms ih => exact recoverMessage_ticks.trans ih

lemma recoverAll_effect {ms : List String} (so : Sound c acc.1)
    (hslot : ∃ slot, acc.1.slots[s]? = some slot) (sub : ms ⊆ messages)
    (le : (ms.foldl (recoverMessage c s role) acc).1.ticks ≤ bound) :
    Effect (recoverGuard c bound s messages) acc.1 (ms.foldl (recoverMessage c s role) acc).1 := by
  induction ms generalizing acc with
  | nil => exact .refl
  | cons m ms ih =>
    have mem : m ∈ messages := sub (.head _)
    have here : Effect (recoverGuard c (recoverMessage c s role acc m).1.ticks s messages) acc.1
        (recoverMessage c s role acc m).1 := recoverMessage_effect so hslot mem (le_refl _)
    have so' : Sound c (recoverMessage c s role acc m).1 := by
      refine so.moves here.moves here.ticks fun d k a g => ⟨g.2.1, ?_⟩
      obtain ⟨n, hn, e⟩ := g.1
      exact ⟨n, hn, e⟩
    have first : Effect (recoverGuard c bound s messages) acc.1 (recoverMessage c s role acc m).1 :=
      recoverMessage_effect so hslot mem (recoverAll_ticks.trans le)
    exact first.trans (ih so' (recoverMessage_known hslot) (fun x hx => sub (.tail _ hx)) le)

/-- The state in which the reconcile has updated the slot and cleared the stale intents. -/
def clearedState (st : CoordinatorState) (slotId : String) (unread : List String)
    (role : TeamRunTargetRole) (stale : List String) : CoordinatorState :=
  let slot := reconcileSlot (st.slotOrNew slotId role) role unread
  let state := st.putSlot slotId slot
  let cleared := slot.queuedIds.filter (isStale state unread stale)
  (state.setStates cleared fun _ => .completed).modifySlot slotId (·.removeQueuedAll cleared)

variable {unread stale : List String}

lemma reconcile_state :
    (reconcileMailboxSnapshot c st s unread role stale).state =
      (unread.foldl (recoverMessage c s role) (clearedState st s unread role stale, [])).1 :=
  rfl

lemma clearedState_effect (pt : (board st).Partitioned) :
    Effect G st (clearedState st s unread role stale) := by
  have put : Unmoved st (st.putSlot s (reconcileSlot (st.slotOrNew s role) role unread)) :=
    .putSlot (workOf_slotOrNew _)
  have pt' : (board (st.putSlot s (reconcileSlot (st.slotOrNew s role) role unread))).Partitioned := by
    rw [put.board]
    exact pt
  refine (put.effect).trans (.drop pt' rfl fun k hk => ?_)
  obtain ⟨l, hl⟩ := SlotState.mem_queuedIds.mp (List.mem_filter.mp hk).1
  have lane : k ∈ (workOf (st.putSlot s (reconcileSlot (st.slotOrNew s role) role unread)) s).1 l := by
    rw [workOf_putSlot, if_pos rfl]
    exact hl
  obtain ⟨i, hi, hq, hs, _⟩ := (mem_lane pt').mp lane
  exact ⟨i, hi, hs, .inl hq⟩

lemma reconcile_effect (so : Sound c st) :
    Effect (recoverGuard c (reconcileMailboxSnapshot c st s unread role stale).state.ticks s unread) st
      (reconcileMailboxSnapshot c st s unread role stale).state := by
  have cleared : Effect (fun _ _ _ => False) st (clearedState st s unread role stale) :=
    clearedState_effect so.partitioned
  have so' : Sound c (clearedState st s unread role stale) :=
    so.moves cleared.moves cleared.ticks fun _ _ _ h => h.elim
  rw [reconcile_state]
  refine (clearedState_effect so.partitioned).trans (recoverAll_effect so' ?_ (fun _ h => h) (le_refl _))
  have known : (st.putSlot s (reconcileSlot (st.slotOrNew s role) role unread)).slots[s]? =
      some (reconcileSlot (st.slotOrNew s role) role unread) :=
    CoordinatorState.slots_putSlot.trans (if_pos rfl)
  exact CoordinatorState.known_modifySlot ⟨_, known⟩

end SlotWorkCoordinator

end KiCore.Team

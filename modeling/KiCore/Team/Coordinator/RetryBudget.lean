import KiCore.Team.Coordinator.Ledger

/-!
# The retry budget of a message

`Tallied` follows a run of the coordinator together with the number of failed batches that contained each
message of each slot since its counter was last reset: by a batch that completed, was cancelled or was
interrupted, or by a reconcile that did not find the row unread. `retry_budget` shows that the counters of
the slots are these numbers, that a failed batch reports exactly the messages that have reached the
maximum and pauses its slot then, and that nothing but a failed batch raises a counter.

A batch that names a message twice counts twice for it. The event loop fails none: its reread finds one row
for a message, and such a batch is sent back by `retry_start`.
-/

namespace KiCore.Team

open KiCore.Lib

namespace SlotWorkCoordinator

/-- A batch that fails names no message twice. -/
def NamesOnce : Op → Prop
  | .failBatch batch _ => batch.mailboxMessageIds.Nodup
  | _ => True

/-- The failures of the messages of each slot. -/
abbrev Tally := String → String → Nat

/-- The coordinator, and for each slot and message the failed batches since the last reset. -/
structure Tallied where
  coordinator : Tracked
  failed : Tally

variable (c : SlotWorkCoordinator) (st : CoordinatorState)

/-- The messages whose failures an operation resets in a slot. -/
def resets (op : Op) (s m : String) : Bool :=
  match op with
  | .completeBatchWithAck batch =>
    batch.slotId = s ∧ m ∈ (completeBatchWithAck c st batch).result.ackMessageIds
  | .cancelBatch batch _ | .interruptBatch batch _ _ =>
    batch.slotId = s ∧ isCurrentBatch c st batch = true ∧ m ∈ batch.mailboxMessageIds
  | .reconcileMailboxSnapshot s' unread _ _ => s' = s ∧ m ∉ unread
  | _ => false

/-- The messages whose delivery an operation fails in a slot. -/
def fails (op : Op) (s m : String) : Bool :=
  match op with
  | .failBatch batch _ =>
    batch.slotId = s ∧ isCurrentBatch c st batch = true ∧ m ∈ batch.mailboxMessageIds
  | _ => false

def tally (failed : Tally) (op : Op) : Tally := fun s m =>
  if fails c st op s m then failed s m + 1
  else if resets c st op s m then 0
  else failed s m

def count (x : Tallied) (op : Op) : Tallied where
  coordinator := track c x.coordinator op
  failed := tally c x.coordinator.state x.failed op

def unfailed : Tallied :=
  { coordinator := initial, failed := fun _ _ => 0 }

/-- How often a message has failed in a slot, in the slot's own count. -/
def failureCount (s m : String) : Nat :=
  ((ledgerOf st s).failures[m]?).getD 0

/-- What a step says of the failures. -/
structure RetryLaw (c : SlotWorkCoordinator) (x : Tallied) (op : Op) : Prop where
  counted : ∀ s m, failureCount (count c x op).coordinator.state s m =
    min ((count c x op).failed s m) (2 ^ 8 - 1)
  exhausted : ∀ batch classification, op = .failBatch batch classification →
    isCurrentBatch c x.coordinator.state batch = true → ∀ m,
    m ∈ (failBatch c x.coordinator.state batch classification).result.exhaustedMessageIds ↔
      m ∈ batch.mailboxMessageIds ∧ MAX_MESSAGE_DELIVERY_FAILURES ≤ (count c x op).failed batch.slotId m
  paused : ∀ batch classification, op = .failBatch batch classification →
    (failBatch c x.coordinator.state batch classification).result.exhaustedMessageIds ≠ [] →
    ((count c x op).coordinator.state.slots[batch.slotId]?).map (·.paused) = some true
  stale : ∀ batch classification, op = .failBatch batch classification →
    isCurrentBatch c x.coordinator.state batch = false →
    (failBatch c x.coordinator.state batch classification).result.exhaustedMessageIds = []
  spared : (∀ batch classification, op ≠ .failBatch batch classification) → ∀ s m,
    failureCount (count c x op).coordinator.state s m ≤ failureCount x.coordinator.state s m

variable {c : SlotWorkCoordinator} {st : CoordinatorState} {σ : Tracked} {x : Tallied} {op : Op}
  {ops : List Op} {s m : String} {batch : WorkBatch} {counts : Table String Nat} {ids : List String}

lemma get_foldl_erase : (ids.foldl (·.erase ·) counts)[m]? = if m ∈ ids then none else counts[m]? := by
  induction ids generalizing counts with
  | nil => simp
  | cons id ids ih =>
    rw [List.foldl_cons, ih, Table.get_erase]
    by_cases here : id = m
    · simp [here]
    · simp [here, Ne.symm here]

lemma get_countFailures (nodup : ids.Nodup) : (countFailures counts ids).1[m]? =
    if m ∈ ids then some (u8SaturatingSucc ((counts[m]?).getD 0)) else counts[m]? := by
  induction ids generalizing counts with
  | nil => simp [countFailures]
  | cons id ids ih =>
    obtain ⟨fresh, nodup⟩ := List.nodup_cons.mp nodup
    rw [countFailures_cons]
    refine (ih nodup).trans ?_
    rw [Table.get_insert]
    by_cases here : id = m
    · subst here
      simp [fresh]
    · simp [here, Ne.symm here]

lemma mem_countFailures (nodup : ids.Nodup) : m ∈ (countFailures counts ids).2 ↔
    m ∈ ids ∧ MAX_MESSAGE_DELIVERY_FAILURES ≤ u8SaturatingSucc ((counts[m]?).getD 0) := by
  induction ids generalizing counts with
  | nil => simp [countFailures]
  | cons id ids ih =>
    obtain ⟨fresh, nodup⟩ := List.nodup_cons.mp nodup
    rw [countFailures_cons]
    refine List.mem_append.trans ?_
    rw [ih nodup, Table.get_insert]
    by_cases here : id = m
    · subst here
      simp [fresh]
    · have other : m ∉ (if MAX_MESSAGE_DELIVERY_FAILURES ≤ u8SaturatingSucc ((counts[id]?).getD 0)
          then [id] else []) := by
        split_ifs <;> simp [Ne.symm here]
      simp [here, Ne.symm here, other]

lemma u8SaturatingSucc_min {n : Nat} : u8SaturatingSucc (min n (2 ^ 8 - 1)) = min (n + 1) (2 ^ 8 - 1) := by
  unfold u8SaturatingSucc
  omega

lemma reached_iff {n : Nat} :
    MAX_MESSAGE_DELIVERY_FAILURES ≤ min n (2 ^ 8 - 1) ↔ MAX_MESSAGE_DELIVERY_FAILURES ≤ n := by
  unfold MAX_MESSAGE_DELIVERY_FAILURES
  omega

lemma failureCount_same {st' : CoordinatorState}
    (same : (ledgerOf st' s).failures = (ledgerOf st s).failures) :
    failureCount st' s m = failureCount st s m := by
  rw [failureCount, same, failureCount]

lemma failureCount_notFailed {st' : CoordinatorState} (ended : ledgerOf st' s = if batch.slotId = s
      then { batch := none, failures := settledFailures (ledgerOf st s).failures batch .notFailed }
      else ledgerOf st s) :
    failureCount st' s m =
      if batch.slotId = s ∧ m ∈ batch.mailboxMessageIds then 0 else failureCount st s m := by
  unfold failureCount
  rw [ended]
  by_cases own : batch.slotId = s
  · rw [if_pos own, settledFailures, get_foldl_erase]
    split_ifs <;> simp_all
  · rw [if_neg own, if_neg (own ·.1)]

variable {classification : String}

lemma failureCount_failed (current : isCurrentBatch c st batch = true)
    (nodup : batch.mailboxMessageIds.Nodup) :
    failureCount (failBatch c st batch classification).state s m =
      if batch.slotId = s ∧ m ∈ batch.mailboxMessageIds then u8SaturatingSucc (failureCount st s m)
      else failureCount st s m := by
  unfold failureCount failBatch
  rw [ledgerOf_terminalizeBatch current]
  by_cases own : batch.slotId = s
  · rw [if_pos own, settledFailures, get_countFailures nodup]
    split_ifs <;> simp_all
  · rw [if_neg own, if_neg (own ·.1)]

lemma failureCount_completed : failureCount (completeBatchWithAck c st batch).state s m =
    if batch.slotId = s ∧ m ∈ (completeBatchWithAck c st batch).result.ackMessageIds then 0
    else failureCount st s m := by
  by_cases current : isCurrentBatch c st batch = true
  · obtain ⟨a, ha, _⟩ := isCurrentBatch_spec current
    obtain ⟨_, acks, _, ended⟩ := ledgerOf_completeBatchWithAck ha current
    unfold failureCount
    rw [acks, ended]
    by_cases own : batch.slotId = s
    · rw [if_pos own, get_foldl_erase]
      split_ifs <;> simp_all
    · rw [if_neg own, if_neg (own ·.1)]
  · obtain ⟨result, state⟩ := completeBatchWithAck_stale current
    rw [result, state]
    simp

lemma failureCount_reconciled {s' : String} {unread stale : List String} {role : TeamRunTargetRole} :
    failureCount (reconcileMailboxSnapshot c st s' unread role stale).state s m =
      if s' = s ∧ m ∉ unread then 0 else failureCount st s m := by
  unfold failureCount
  rw [ledgerOf_reconcile]
  by_cases own : s' = s
  · rw [if_pos own]
    have kept : ((ledgerOf st s).failures.filter fun messageId _ => messageId ∈ unread)[m]? =
        if m ∈ unread then (ledgerOf st s).failures[m]? else none := by
      refine Option.ext fun n => Table.get_filter.trans ?_
      split_ifs with unread <;> simp [unread]
    rw [kept]
    by_cases gone : m ∈ unread <;> simp [own, gone]
  · rw [if_neg own, if_neg (own ·.1)]

/-- What an operation does to the counters. -/
lemma failureCount_exec (once : NamesOnce op) : failureCount (exec c st op).1 s m =
    if fails c st op s m then u8SaturatingSucc (failureCount st s m)
    else if resets c st op s m then 0 else failureCount st s m := by
  have kept (quiet : op.delivers s = false) (none : fails c st op s m = false)
      (none' : resets c st op s m = false) : failureCount (exec c st op).1 s m =
      if fails c st op s m then u8SaturatingSucc (failureCount st s m)
      else if resets c st op s m then 0
      else failureCount st s m := by
    rw [failureCount_same (exec_ledger quiet).failures]
    simp [none, none']
  cases op with
  | next slotId =>
    refine Eq.trans ?_ (show failureCount st s m = _ by simp [fails, resets])
    rcases ledgerOf_next c st slotId with ⟨_, _, _, own, others⟩ | ⟨_, state⟩
    · by_cases e : slotId = s
      · subst e
        exact failureCount_same (congrArg Ledger.failures own :)
      · exact failureCount_same (congrArg Ledger.failures (others s e))
    · exact congrArg (failureCount · s m) state
  | observeMessages slotId batchId messageIds =>
    refine Eq.trans ?_ (show failureCount st s m = _ by simp [fails, resets])
    rcases ledgerOf_observeMessages st slotId batchId messageIds with ⟨_, _, _, observed⟩ | ⟨_, state⟩
    · refine failureCount_same ((congrArg Ledger.failures (observed s)).trans ?_)
      split_ifs with e
      · rw [e]
      · rfl
    · exact congrArg (failureCount · s m) state
  | completeBatchWithAck b => exact failureCount_completed.trans (by simp [fails, resets])
  | failBatch b classification =>
    by_cases current : isCurrentBatch c st b = true
    · exact (failureCount_failed current once).trans (by simp [fails, resets, current])
    · refine (congrArg (failureCount · s m) (terminalizeBatch_stale current)).trans ?_
      simp [fails, resets, current]
  | cancelBatch b classification =>
    by_cases current : isCurrentBatch c st b = true
    · refine (failureCount_notFailed (ledgerOf_terminalizeBatch current)).trans ?_
      simp [fails, resets, current]
    · refine (congrArg (failureCount · s m) (terminalizeBatch_stale current)).trans ?_
      simp [fails, resets, current]
  | interruptBatch b reason replacement =>
    by_cases current : isCurrentBatch c st b = true
    · refine (failureCount_notFailed (ledgerOf_interruptBatch current)).trans ?_
      simp [fails, resets, current]
    · refine (congrArg (failureCount · s m) (interruptBatch_stale current)).trans ?_
      simp [fails, resets, current]
  | reconcileMailboxSnapshot slotId unread role stale =>
    exact failureCount_reconciled.trans (by simp [fails, resets])
  | _ => exact kept rfl rfl rfl

lemma failBatch_stale (stale : isCurrentBatch c st batch = false) :
    (failBatch c st batch classification).result.exhaustedMessageIds = [] := by
  simp [failBatch, terminalizeBatch, stale]

lemma failBatch_current (current : isCurrentBatch c st batch = true) :
    (failBatch c st batch classification).result.exhaustedMessageIds =
      (countFailures (ledgerOf st batch.slotId).failures batch.mailboxMessageIds).2 ∧
    ((failBatch c st batch classification).result.exhaustedMessageIds ≠ [] →
      (((failBatch c st batch classification).state.slots[batch.slotId]?).map (·.paused)) = some true) := by
  obtain ⟨a, ha, _⟩ := isCurrentBatch_spec current
  obtain ⟨slot, hslot, _⟩ := known_of_active ha
  rw [ledgerOf_known hslot]
  have reported : (failBatch c st batch classification).result.exhaustedMessageIds =
      (countFailures slot.deliveryFailureCounts batch.mailboxMessageIds).2 := by
    simp [failBatch, terminalizeBatch, current, hslot, settleDelivery]
  refine ⟨reported, fun some => ?_⟩
  rw [reported] at some
  unfold failBatch
  rw [terminalizeBatch_state, if_pos current, CoordinatorState.slots_modifySlot, if_pos rfl]
  have known : (st.setStates batch.intentIds fun _ => .failed classification).slots[batch.slotId]? =
    Option.some slot := hslot
  rw [known]
  simp [settleDelivery, some]

/-- The counters of the slots are the failures since the last reset, as far as they count. -/
def CountsKept (x : Tallied) : Prop :=
  ∀ s m, failureCount x.coordinator.state s m = min (x.failed s m) (2 ^ 8 - 1)

lemma CountsKept.start : CountsKept unfailed := fun s m => by
  simp [failureCount, ledgerOf, unfailed, initial, CoordinatorState.default]

lemma CountsKept.step (kept : CountsKept x) (once : NamesOnce op) : CountsKept (count c x op) := by
  intro s m
  show failureCount (exec c x.coordinator.state op).1 s m = min (tally c _ _ op s m) _
  rw [failureCount_exec once, tally]
  split_ifs
  · rw [kept s m, u8SaturatingSucc_min]
  · rfl
  · exact kept s m

lemma exhausted_iff (kept : CountsKept x) (once : batch.mailboxMessageIds.Nodup)
    (current : isCurrentBatch c x.coordinator.state batch = true) :
    m ∈ (failBatch c x.coordinator.state batch classification).result.exhaustedMessageIds ↔
      m ∈ batch.mailboxMessageIds ∧ MAX_MESSAGE_DELIVERY_FAILURES ≤
        (count c x (.failBatch batch classification)).failed batch.slotId m := by
  rw [(failBatch_current current).1, mem_countFailures once]
  refine and_congr_right fun own => ?_
  have counted : u8SaturatingSucc (((ledgerOf x.coordinator.state batch.slotId).failures[m]?).getD 0) =
      min (x.failed batch.slotId m + 1) (2 ^ 8 - 1) :=
    (congrArg u8SaturatingSucc (kept batch.slotId m)).trans u8SaturatingSucc_min
  have failed : (count c x (.failBatch batch classification)).failed batch.slotId m =
      x.failed batch.slotId m + 1 := by
    simp [count, tally, fails, current, own]
  rw [counted, failed]
  exact reached_iff

lemma RetryLaw.of (kept : CountsKept x) (once : NamesOnce op) : RetryLaw c x op where
  counted := kept.step once
  exhausted batch classification e current m := by
    subst e
    exact exhausted_iff kept once current
  paused batch classification e some := by
    subst e
    by_cases current : isCurrentBatch c x.coordinator.state batch = true
    · exact (failBatch_current current).2 some
    · exact absurd (failBatch_stale (by simpa using current)) some
  stale batch classification _ stale := failBatch_stale stale
  spared other s m := by
    show failureCount (exec c x.coordinator.state op).1 s m ≤ _
    rw [failureCount_exec once]
    have none : fails c x.coordinator.state op s m = false := by
      cases op with
      | failBatch b classification => exact absurd rfl (other b classification)
      | _ => rfl
    rw [if_neg (by simp [none])]
    split_ifs
    · exact Nat.zero_le _
    · exact le_refl _

end SlotWorkCoordinator

end KiCore.Team

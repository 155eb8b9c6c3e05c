import Mathlib.Tactic

/-!
# Broadcast channels

A channel keeps the last `capacity` of the values that were sent. A receiver is a position among all
values ever sent: it takes them in order, and one that is behind the oldest value kept is told that
it lags and goes on from there. A channel whose senders are gone is read to its end before a
receiver is told so.

`waiting` are the values that a receiver is still to be given; a send to a full backlog costs it the
oldest of them (`waiting_send`).
-/

namespace KiCore.Lib

/-- A channel, with all values that were sent. -/
structure Broadcast (α : Type*) where
  capacity : Nat
  sent : List α
  closed : Bool

inductive Received (α : Type*) where
  | value (a : α)
  | lagged (rx : Nat)
  | closed
  | empty

namespace Broadcast

variable {α : Type*}

def channel (capacity : Nat) : Broadcast α where
  capacity := capacity
  sent := []
  closed := false

variable (ch : Broadcast α)

def send (a : α) : Broadcast α :=
  { ch with sent := ch.sent ++ [a] }

def close : Broadcast α :=
  { ch with closed := true }

def subscribe : Nat :=
  ch.sent.length

def oldest : Nat :=
  ch.sent.length - ch.capacity

def recv (rx : Nat) : Received α :=
  if rx < ch.oldest then
    .lagged ch.oldest
  else
    match ch.sent[rx]? with
    | some a => .value a
    | none => if ch.closed then .closed else .empty

/-- The values that a receiver is still to be given. -/
def waiting (rx : Nat) : List α :=
  ch.sent.drop (max rx ch.oldest)

variable {ch : Broadcast α} {rx rx' : Nat} {a b : α}

@[simp] lemma send_sent : (ch.send a).sent = ch.sent ++ [a] := rfl

@[simp] lemma channel_waiting {capacity : Nat} : (channel capacity : Broadcast α).waiting rx = [] := by
  rw [waiting, channel, List.drop_nil]

lemma recv_value (got : ch.recv rx = .value a) : ch.sent[rx]? = some a ∧ ch.oldest ≤ rx := by
  rw [recv] at got
  split at got
  · cases got
  · rename_i kept
    refine ⟨?_, Nat.le_of_not_lt kept⟩
    split at got
    · rename_i a' there
      cases got
      exact there
    · split at got <;> cases got

lemma recv_value_lt (got : ch.recv rx = .value a) : rx < ch.sent.length :=
  (List.getElem?_eq_some_iff.mp (recv_value got).1).1

lemma recv_lagged (got : ch.recv rx = .lagged rx') : rx' = ch.oldest ∧ rx < ch.oldest := by
  rw [recv] at got
  split at got
  · rename_i behind
    cases got
    exact ⟨rfl, behind⟩
  · split at got
    · cases got
    · split at got <;> cases got

lemma oldest_send : (ch.send a).oldest = ch.sent.length + 1 - ch.capacity := by
  rw [oldest, send_sent, List.length_append, List.length_singleton]
  rfl

lemma oldest_le : ch.oldest ≤ ch.sent.length :=
  Nat.sub_le _ _

lemma waiting_sublist (rx : Nat) : (ch.waiting rx).Sublist ch.sent :=
  List.drop_sublist _ _

lemma waiting_value (got : ch.recv rx = .value a) : ch.waiting rx = a :: ch.waiting (rx + 1) := by
  obtain ⟨there, kept⟩ := recv_value got
  obtain ⟨lt, rfl⟩ := List.getElem?_eq_some_iff.mp there
  rw [waiting, waiting, max_eq_left kept, max_eq_left (by omega), List.drop_eq_getElem_cons lt]

lemma waiting_lagged (got : ch.recv rx = .lagged rx') : ch.waiting rx' = ch.waiting rx := by
  obtain ⟨rfl, behind⟩ := recv_lagged got
  rw [waiting, waiting, max_self, max_eq_right behind.le]

lemma waiting_closed (got : ch.recv rx = .closed) : ch.waiting rx = [] := by
  rw [recv] at got
  split at got
  · cases got
  · split at got
    · cases got
    · rename_i end_
      rw [waiting, List.drop_eq_nil_iff]
      exact (List.getElem?_eq_none_iff.mp end_).trans (le_max_left _ _)

lemma waiting_send (le : rx ≤ ch.sent.length) :
    (ch.send a).waiting rx =
      if (ch.waiting rx).length < ch.capacity then ch.waiting rx ++ [a]
      else ((ch.waiting rx) ++ [a]).tail := by
  have at_ : max rx ch.oldest ≤ ch.sent.length := max_le le oldest_le
  have count : (ch.waiting rx).length = ch.sent.length - max rx ch.oldest := List.length_drop
  rw [count]
  split
  · rename_i room
    have same : max rx (ch.send a).oldest = max rx ch.oldest := by
      rw [oldest_send]
      rw [oldest] at room ⊢
      omega
    rw [waiting, waiting, same, send_sent, List.drop_append_of_le_length at_]
  · rename_i full
    have next : max rx (ch.send a).oldest = max rx ch.oldest + 1 := by
      rw [oldest_send]
      rw [oldest] at full at_ ⊢
      omega
    rw [waiting, waiting, next, send_sent, ← List.drop_append_of_le_length at_, List.tail_drop]

lemma waiting_first {capacity : Nat} (pos : 0 < capacity) : ((channel capacity).send a).waiting 0 =
    [a] := by
  rw [waiting_send (Nat.zero_le _), channel_waiting, List.length_nil]
  exact if_pos pos

end Broadcast

end KiCore.Lib

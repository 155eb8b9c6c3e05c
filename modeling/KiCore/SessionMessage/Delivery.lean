import KiCore.SessionMessage.Bounds
import KiCore.SessionMessage.Service

/-!
# Deliveries in order, and once

The drainer tries copies of heads, and removes the head of the target when it is done. `DeliveryInv` relates
the copies it holds to the buckets: a copy is the head of its bucket, or it left the bucket and is older
than what is in there now. So what is delivered from the queue comes in the order in which it was accepted.

What leaves the queue leaves it for one of the reasons of `Leaves`. The last of them is a copy that a cancel
took from its bucket while it was being tried: the drainer then removes whatever has been queued since.
-/

namespace KiCore.SessionMessage

open KiCore.Lib

def Drainer.pending : Drainer → List PendingDelivery
  | .idle | .expired => []
  | .visiting heads => heads
  | .gating item heads | .delivering item heads | .answered item _ heads => item :: heads

/-- The delivery has reached its target, and the drainer is about to remove it. -/
def Drainer.Popping (item : PendingDelivery) : Drainer → Prop
  | .answered item' .delivered _ => item' = item
  | _ => False

/-- The heads that the drainer holds copies of, and that have not reached their targets. -/
def Drainer.undelivered : Drainer → List PendingDelivery
  | .answered _ .delivered heads => heads
  | drainer => drainer.pending

/-- The send is past its attempt, and was not queued because of it. -/
def Attempted (sends : List SendCall) (n : Nat) : Prop :=
  (∃ draft, sends[n]? = some (.attempted draft (.ok ()))) ∨ ∃ result, sends[n]? = some (.returned result)

/-- Deliveries of queued messages to one target are in the order of their stamps. -/
def InOrder (d d' : Delivery) : Prop :=
  d.recipient = d'.recipient → ∀ a ∈ d.stamp, ∀ b ∈ d'.stamp, a < b

structure DeliveryInv (σ : Exchange) : Prop where
  bounded : σ.queue.Bounded
  keyed : ∀ t, ∀ e ∈ σ.queue.bucket t, e.recipient = t
  sorted : ∀ t, (σ.queue.bucket t).Pairwise (·.stamp < ·.stamp)
  issued : ∀ t, ∀ e ∈ σ.queue.bucket t, σ.accepted[e.stamp]? = some e
  held : ∀ q ∈ σ.drainer.pending, σ.accepted[q.stamp]? = some q
  apart : σ.drainer.pending.Pairwise (·.recipient ≠ ·.recipient)
  headed : ∀ q ∈ σ.drainer.pending, ∀ e ∈ σ.queue.bucket q.recipient, e = q ∨ q.stamp < e.stamp
  distinct : (σ.accepted.map (·.send)).Nodup
  returned : ∀ n ∈ σ.accepted.map (·.send), ∃ result, σ.sends[n]? = some (.returned result)
  queued : ∀ d ∈ σ.delivered, ∀ a ∈ d.stamp,
    ∃ e, σ.accepted[a]? = some e ∧ e.send = d.send ∧ e.recipient = d.recipient
  direct : ∀ d ∈ σ.delivered, d.stamp = none →
    d.send ∉ σ.accepted.map (·.send) ∧ Attempted σ.sends d.send
  fresh : ∀ d ∈ σ.delivered, ∀ a ∈ d.stamp, ∀ e ∈ σ.queue.bucket d.recipient,
    a < e.stamp ∨ σ.drainer.Popping e
  freshHeld : ∀ d ∈ σ.delivered, ∀ a ∈ d.stamp, ∀ q ∈ σ.drainer.undelivered,
    q.recipient = d.recipient → a < q.stamp
  once : (σ.delivered.map (·.send)).Nodup
  ordered : σ.delivered.Pairwise InOrder

namespace Exchange

/-- Why a delivery leaves the queue in a step: it has reached its target, its target has refused it, its
deadline has passed, the turn of its target was cancelled, or the feature was found disabled for its
target. Else a delivery to the same target that was no longer in the queue was answered. -/
def Leaves (σ : Exchange) (e : PendingDelivery) : Step → Prop
  | .settle =>
    (∃ heads, σ.drainer = .answered e .delivered heads) ∨
    (∃ reason heads, σ.drainer = .answered e (.hardError reason) heads) ∨
    ∃ item outcome heads, σ.drainer = .answered item outcome heads ∧ item.recipient = e.recipient ∧
      item ∉ σ.queue.bucket item.recipient
  | .tick now => e.expiresAtMs ≤ now
  | .cancel conversationId cause => conversationId = e.recipient ∧ cause = .userRequested
  | .gate enabled => enabled = false ∧
    ∃ item heads, σ.drainer = .gating item heads ∧ item.recipient = e.recipient
  | _ => False

end Exchange

open Exchange

variable {σ : Exchange} {queue : QueueState} {drainer : Drainer} {item e : PendingDelivery}
  {heads : List PendingDelivery} {outcome : DeliveryOutcome} {step : Step} {n : Nat}

section

variable (inv : DeliveryInv σ)
include inv

lemma DeliveryInv.shrink (bounded : queue.Bounded)
    (sub : ∀ t, (queue.bucket t).Sublist (σ.queue.bucket t))
    (pending : drainer.pending.Sublist σ.drainer.pending)
    (undelivered : drainer.undelivered ⊆ σ.drainer.undelivered)
    (popping : ∀ t, ∀ e ∈ queue.bucket t, σ.drainer.Popping e → drainer.Popping e) :
    DeliveryInv { σ with queue := queue, drainer := drainer } where
  bounded := bounded
  keyed t e he := inv.keyed t e ((sub t).subset he)
  sorted t := (inv.sorted t).sublist (sub t)
  issued t e he := inv.issued t e ((sub t).subset he)
  held q hq := inv.held q (pending.subset hq)
  apart := inv.apart.sublist pending
  headed q hq e he := inv.headed q (pending.subset hq) e ((sub _).subset he)
  distinct := inv.distinct
  returned := inv.returned
  queued := inv.queued
  direct := inv.direct
  fresh d hd a ha e he :=
    (inv.fresh d hd a ha e ((sub _).subset he)).imp_right (popping d.recipient e he)
  freshHeld d hd a ha q hq := inv.freshHeld d hd a ha q (undelivered hq)
  once := inv.once
  ordered := inv.ordered

lemma DeliveryInv.lose (bounded : queue.Bounded)
    (sub : ∀ t, (queue.bucket t).Sublist (σ.queue.bucket t))
    (pending : drainer.pending.Sublist σ.drainer.pending)
    (undelivered : drainer.undelivered ⊆ σ.drainer.undelivered) (quiet : ∀ e, ¬ σ.drainer.Popping e) :
    DeliveryInv { σ with queue := queue, drainer := drainer } :=
  inv.shrink bounded sub pending undelivered fun _ e _ popping => absurd popping (quiet e)

lemma DeliveryInv.head (mem : item ∈ σ.drainer.pending)
    (there : item ∈ σ.queue.bucket item.recipient) :
    ∃ rest, σ.queue.bucket item.recipient = item :: rest := by
  cases hb : σ.queue.bucket item.recipient with
  | nil =>
    rw [hb] at there
    cases there
  | cons first rest =>
    refine ⟨rest, ?_⟩
    have sorted := inv.sorted item.recipient
    rw [hb] at there sorted
    rcases List.mem_cons.mp there with rfl | later
    · rfl
    · have older := (List.pairwise_cons.mp sorted).1 item later
      rcases inv.headed item mem first (hb ▸ List.mem_cons_self) with rfl | younger
      · rfl
      · omega

lemma DeliveryInv.removed (mem : item ∈ σ.drainer.pending) :
    item ∉ (σ.queue.bucket item.recipient).tail := by
  intro later
  obtain ⟨rest, hb⟩ := inv.head mem (List.mem_of_mem_tail later)
  have sorted := inv.sorted item.recipient
  rw [hb] at later sorted
  have := (List.pairwise_cons.mp sorted).1 item later
  omega

end

lemma sublist_clearFor {t target : String} :
    ((σ.queue.clearFor target).2.bucket t).Sublist (σ.queue.bucket t) := by
  rw [QueueState.bucket_clearFor]
  split_ifs
  · exact List.nil_sublist _
  · exact .refl _

lemma sublist_removeHead {t target : String} :
    ((σ.queue.removeHead target).bucket t).Sublist (σ.queue.bucket t) := by
  rw [QueueState.bucket_removeHead]
  split_ifs
  · exact List.tail_sublist _
  · exact .refl _

lemma DeliveryInv.settle (inv : DeliveryInv σ) (at_ : σ.drainer = .answered item outcome heads) :
    DeliveryInv
      { σ with queue := Exchange.settle σ.queue item outcome, drainer := .visiting heads } := by
  have mem : item ∈ σ.drainer.pending := by
    rw [at_]
    exact List.mem_cons_self
  have pending : (Drainer.visiting heads).pending.Sublist σ.drainer.pending := by
    rw [at_]
    exact List.sublist_cons_self _ _
  cases outcome with
  | delivered =>
    refine inv.shrink inv.bounded.removeHead (fun t => sublist_removeHead) pending ?_ ?_
    · rw [at_]
      exact fun q hq => hq
    · intro t e he popping
      rw [at_] at popping
      obtain rfl : item = e := popping
      have sub : ((σ.queue.removeHead item.recipient).bucket t).Sublist (σ.queue.bucket t) :=
        sublist_removeHead
      have hk := inv.keyed t item (sub.subset he)
      subst hk
      rw [Exchange.settle, QueueState.popHead, QueueState.bucket_removeHead, if_pos rfl] at he
      exact absurd he (inv.removed mem)
  | busy =>
    refine inv.shrink inv.bounded (fun t => .refl _) pending ?_ ?_
    · rw [at_]
      exact fun q hq => List.mem_cons_of_mem _ hq
    · intro t e he popping
      rw [at_] at popping
      exact popping.elim
  | hardError reason =>
    refine inv.shrink inv.bounded.removeHead (fun t => sublist_removeHead) pending ?_ ?_
    · rw [at_]
      exact fun q hq => List.mem_cons_of_mem _ hq
    · intro t e he popping
      rw [at_] at popping
      exact popping.elim

lemma apart_snapshotHeads (keyed : ∀ t, ∀ e ∈ queue.bucket t, e.recipient = t)
    (order : IterOrder (List PendingDelivery)) :
    (queue.snapshotHeads order).Pairwise (·.recipient ≠ ·.recipient) := by
  have keys : queue.byTarget.toList.Pairwise fun entry entry' => entry.1 ≠ entry'.1 := by
    rw [← List.pairwise_map (f := Prod.fst), Std.TreeMap.map_fst_toList_eq_keys]
    exact Std.TreeMap.nodup_keys
  have heads : (Table.values queue.byTarget).Pairwise fun b b' =>
      ∀ x ∈ b.head?, ∀ y ∈ b'.head?, x.recipient ≠ y.recipient := by
    rw [Table.values, List.pairwise_map]
    refine keys.imp_of_mem fun {entry entry'} mem mem' ne x hx y hy => ?_
    have bucket {entry : String × List PendingDelivery} (mem : entry ∈ queue.byTarget.toList) :
        queue.bucket entry.1 = entry.2 := by
      rw [QueueState.bucket, Std.TreeMap.mem_toList_iff_getElem?_eq_some.mp mem]
      rfl
    rw [keyed entry.1 x (bucket mem ▸ List.mem_of_head? hx),
      keyed entry'.1 y (bucket mem' ▸ List.mem_of_head? hy)]
    exact ne
  have symmetric : ∀ {b b' : List PendingDelivery},
      (∀ x ∈ b.head?, ∀ y ∈ b'.head?, x.recipient ≠ y.recipient) →
      ∀ x ∈ b'.head?, ∀ y ∈ b.head?, x.recipient ≠ y.recipient :=
    fun h x hx y hy => (h y hy x hx).symm
  rw [QueueState.snapshotHeads, List.pairwise_filterMap]
  exact ((order.perm _).pairwise_iff symmetric).mpr heads

lemma DeliveryInv.snapshot (inv : DeliveryInv σ) (at_ : σ.drainer = .expired)
    (order : IterOrder (List PendingDelivery)) :
    DeliveryInv { σ with drainer := .visiting (σ.queue.snapshotHeads order) } := by
  have head {q : PendingDelivery} (hq : q ∈ σ.queue.snapshotHeads order) :
      ∃ rest, σ.queue.bucket q.recipient = q :: rest := by
    obtain ⟨t, h⟩ := QueueState.mem_snapshotHeads.mp hq
    obtain ⟨rest, hb⟩ := List.head?_eq_some_iff.mp h
    have hk := inv.keyed t q (hb ▸ List.mem_cons_self)
    exact ⟨rest, hk ▸ hb⟩
  have none (e : PendingDelivery) : ¬ σ.drainer.Popping e := by
    rw [at_]
    exact id
  refine ⟨inv.bounded, inv.keyed, inv.sorted, inv.issued, fun q hq => ?_, ?_, fun q hq e he => ?_,
    inv.distinct, inv.returned, inv.queued, inv.direct, fun d hd a ha e he => ?_, fun d hd a ha q hq same => ?_,
    inv.once, inv.ordered⟩
  · obtain ⟨rest, hb⟩ := head hq
    exact inv.issued _ q (hb ▸ List.mem_cons_self)
  · exact apart_snapshotHeads inv.keyed order
  · obtain ⟨rest, hb⟩ := head hq
    have sorted := inv.sorted q.recipient
    rw [hb] at he sorted
    rcases List.mem_cons.mp he with rfl | later
    · exact .inl rfl
    · exact .inr ((List.pairwise_cons.mp sorted).1 e later)
  · exact .inl ((inv.fresh d hd a ha e he).resolve_right (none e))
  · obtain ⟨rest, hb⟩ := head hq
    rw [same] at hb
    exact (inv.fresh d hd a ha q (hb ▸ List.mem_cons_self)).resolve_right (none q)

lemma DeliveryInv.unsent (inv : DeliveryInv σ) (mem : item ∈ σ.drainer.undelivered)
    (held : item ∈ σ.drainer.pending) : item.send ∉ σ.delivered.map (·.send) := by
  intro sent
  obtain ⟨d, hd, same⟩ := List.mem_map.mp sent
  have issued := inv.held item held
  cases ha : d.stamp with
  | none =>
    refine (inv.direct d hd ha).1 ?_
    rw [same]
    exact List.mem_map_of_mem (List.mem_of_getElem? issued)
  | some a =>
    obtain ⟨e, he, send, recipient⟩ := inv.queued d hd a ha
    -- Two accepted deliveries of one send are one delivery.
    have here : (σ.accepted.map (·.send))[a]? = some item.send := by
      rw [List.getElem?_map, he, Option.map_some, send, same]
    have there : (σ.accepted.map (·.send))[item.stamp]? = some item.send := by
      rw [List.getElem?_map, issued, Option.map_some]
    obtain ⟨bound, _⟩ := List.getElem?_eq_some_iff.mp here
    obtain rfl : a = item.stamp := (List.getElem?_inj bound inv.distinct).mp (here.trans there.symm)
    rw [issued] at he
    cases he
    have := inv.freshHeld d hd item.stamp ha item mem recipient
    omega

/-- The target takes the delivery of the drainer. -/
lemma DeliveryInv.reached (inv : DeliveryInv σ) (at_ : σ.drainer = .delivering item heads) :
    DeliveryInv
      { σ with
        drainer := .answered item .delivered heads
        delivered := σ.delivered ++
          [{ send := item.send, recipient := item.recipient, stamp := some item.stamp }] } := by
  have pending : σ.drainer.pending = item :: heads := by rw [at_]; rfl
  have undelivered : σ.drainer.undelivered = item :: heads := by rw [at_]; rfl
  have none (e : PendingDelivery) : ¬ σ.drainer.Popping e := by
    rw [at_]
    exact id
  have mem : item ∈ σ.drainer.pending := by rw [pending]; exact List.mem_cons_self
  have mem' : item ∈ σ.drainer.undelivered := by rw [undelivered]; exact List.mem_cons_self
  have held := inv.held
  have apart := inv.apart
  have headed := inv.headed
  rw [pending] at held apart headed
  refine ⟨inv.bounded, inv.keyed, inv.sorted, inv.issued, held, apart, headed, inv.distinct, inv.returned,
    fun d hd => ?_, fun d hd => ?_, fun d hd a ha e he => ?_, fun d hd a ha q hq same => ?_, ?_, ?_⟩
  · rcases List.mem_append.mp hd with hd | hd
    · exact inv.queued d hd
    · rw [List.mem_singleton.mp hd]
      intro a ha
      cases ha
      exact ⟨item, inv.held item mem, rfl, rfl⟩
  · rcases List.mem_append.mp hd with hd | hd
    · exact inv.direct d hd
    · rw [List.mem_singleton.mp hd]
      intro e
      cases e
  · rcases List.mem_append.mp hd with hd | hd
    · exact .inl ((inv.fresh d hd a ha e he).resolve_right (none e))
    · rw [List.mem_singleton.mp hd] at ha he
      cases ha
      rcases inv.headed item mem e he with rfl | younger
      · exact .inr rfl
      · exact .inl younger
  · rcases List.mem_append.mp hd with hd | hd
    · refine inv.freshHeld d hd a ha q ?_ same
      rw [undelivered]
      exact List.mem_cons_of_mem _ hq
    · rw [List.mem_singleton.mp hd] at same
      exact absurd same.symm ((List.pairwise_cons.mp apart).1 q hq)
  · rw [List.map_append]
    refine List.Nodup.append inv.once (List.nodup_singleton _) ?_
    rw [List.map_singleton, List.disjoint_singleton]
    exact inv.unsent mem' mem
  · refine List.pairwise_append.mpr ⟨inv.ordered, List.pairwise_singleton _ _, fun d hd d' hd' => ?_⟩
    rw [List.mem_singleton.mp hd']
    intro same a ha b hb
    cases hb
    exact inv.freshHeld d hd a ha item mem' same.symm

lemma DeliveryInv.answer (inv : DeliveryInv σ) (at_ : σ.drainer = .delivering item heads)
    (answer : Except ConversationError Unit) :
    DeliveryInv
      { σ with
        drainer := .answered item (outcomeOf answer) heads
        delivered := σ.delivered ++
          if answer.isOk then
            [{ send := item.send, recipient := item.recipient, stamp := some item.stamp }]
          else [] } := by
  cases answer with
  | ok _ => exact inv.reached at_
  | error error =>
    rw [show (if (Except.error error : Except ConversationError Unit).isOk then
      [({ send := item.send, recipient := item.recipient, stamp := some item.stamp } : Delivery)]
      else []) = [] from rfl, List.append_nil]
    have waits : ∀ outcome, outcome ≠ .delivered →
        (Drainer.answered item outcome heads).undelivered = item :: heads := by
      intro outcome ne
      cases outcome with
      | delivered => exact absurd rfl ne
      | _ => rfl
    have ne : outcomeOf (.error error) ≠ .delivered := by
      cases error <;> simp [outcomeOf, classifyDeliveryFailure]
    refine inv.shrink inv.bounded (fun _ => .refl _) ?_ ?_ ?_
    · rw [at_]
      exact .refl _
    · rw [at_, waits _ ne]
      exact fun q hq => hq
    · intro t e _ popping
      rw [at_] at popping
      exact popping.elim

lemma attempted_set {call' : SendCall} {m : Nat}
    (kept : Attempted σ.sends n → Attempted (σ.sends.set n call') n) (h : Attempted σ.sends m) :
    Attempted (σ.sends.set n call') m := by
  by_cases e : n = m
  · subst e
    exact kept h
  · unfold Attempted
    rw [List.getElem?_set_ne e]
    exact h

lemma DeliveryInv.call (inv : DeliveryInv σ) {call call' : SendCall} (hn : σ.sends[n]? = some call)
    (open_ : ∀ result, call ≠ .returned result)
    (kept : Attempted σ.sends n → Attempted (σ.sends.set n call') n) :
    DeliveryInv { σ with sends := σ.sends.set n call' } := by
  refine { inv with returned := fun m hm => ?_, direct := fun d hd none => ?_ }
  · obtain ⟨result, h⟩ := inv.returned m hm
    have other : n ≠ m := by
      rintro rfl
      rw [hn] at h
      exact open_ result (Option.some.inj h)
    exact ⟨result, by rw [← h]; exact List.getElem?_set_ne other⟩
  · exact ⟨(inv.direct d hd none).1, attempted_set kept (inv.direct d hd none).2⟩

lemma DeliveryInv.arrive (inv : DeliveryInv σ) (call : SendCall) :
    DeliveryInv { σ with sends := σ.sends ++ [call] } := by
  have kept {m : Nat} {c : SendCall} (h : σ.sends[m]? = some c) : (σ.sends ++ [call])[m]? = some c := by
    rw [List.getElem?_append_left (List.getElem?_eq_some_iff.mp h).1]
    exact h
  refine { inv with returned := fun m hm => ?_, direct := fun d hd none => ⟨(inv.direct d hd none).1, ?_⟩ }
  · obtain ⟨result, h⟩ := inv.returned m hm
    exact ⟨result, kept h⟩
  · rcases (inv.direct d hd none).2 with ⟨draft, h⟩ | ⟨result, h⟩
    · exact .inl ⟨draft, kept h⟩
    · exact .inr ⟨result, kept h⟩

lemma DeliveryInv.untried {call : SendCall} (inv : DeliveryInv σ) (hn : σ.sends[n]? = some call)
    (open_ : ∀ result, call ≠ .returned result) : n ∉ σ.accepted.map (·.send) := by
  intro mem
  obtain ⟨result, h⟩ := inv.returned n mem
  rw [hn] at h
  exact open_ result (Option.some.inj h)

lemma DeliveryInv.undelivered {draft : Draft} (inv : DeliveryInv σ)
    (hn : σ.sends[n]? = some (.attempting draft)) : n ∉ σ.delivered.map (·.send) := by
  intro mem
  obtain ⟨d, hd, rfl⟩ := List.mem_map.mp mem
  cases ha : d.stamp with
  | none =>
    rcases (inv.direct d hd ha).2 with ⟨_, h⟩ | ⟨_, h⟩
    · rw [hn] at h
      cases h
    · rw [hn] at h
      cases h
  | some a =>
    obtain ⟨e, he, send, _⟩ := inv.queued d hd a ha
    refine inv.untried hn (fun _ e => by cases e) ?_
    exact send ▸ List.mem_map_of_mem (List.mem_of_getElem? he)

/-- The target takes the message of a send. -/
lemma DeliveryInv.sent {draft : Draft} (inv : DeliveryInv σ) (hn : σ.sends[n]? = some (.attempting draft)) :
    DeliveryInv
      { σ with
        sends := σ.sends.set n (.attempted draft (.ok ()))
        delivered := σ.delivered ++ [{ send := n, recipient := draft.recipient, stamp := none }] } := by
  have untried := inv.untried hn fun _ e => by cases e
  have bound := (List.getElem?_eq_some_iff.mp hn).1
  have attempted : Attempted (σ.sends.set n (.attempted draft (.ok ()))) n :=
    .inl ⟨draft, by rw [List.getElem?_set_self bound]⟩
  have moved : DeliveryInv { σ with sends := σ.sends.set n (.attempted draft (.ok ())) } :=
    inv.call hn (fun _ e => by cases e) fun _ => attempted
  have new := inv.undelivered hn
  refine { moved with
    queued := fun d hd => ?_
    direct := fun d hd none => ?_
    fresh := fun d hd a ha => ?_
    freshHeld := fun d hd a ha => ?_
    once := ?_
    ordered := ?_ }
  · rcases List.mem_append.mp hd with hd | hd
    · exact inv.queued d hd
    · rw [List.mem_singleton.mp hd]
      intro a ha
      cases ha
  · rcases List.mem_append.mp hd with hd | hd
    · exact moved.direct d hd none
    · rw [List.mem_singleton.mp hd]
      exact ⟨untried, attempted⟩
  · rcases List.mem_append.mp hd with hd | hd
    · exact inv.fresh d hd a ha
    · rw [List.mem_singleton.mp hd] at ha
      cases ha
  · rcases List.mem_append.mp hd with hd | hd
    · exact inv.freshHeld d hd a ha
    · rw [List.mem_singleton.mp hd] at ha
      cases ha
  · rw [List.map_append]
    refine List.Nodup.append inv.once (List.nodup_singleton _) ?_
    rw [List.map_singleton, List.disjoint_singleton]
    exact new
  · refine List.pairwise_append.mpr ⟨inv.ordered, List.pairwise_singleton _ _, fun d hd d' hd' => ?_⟩
    rw [List.mem_singleton.mp hd']
    intro _ a _ b hb
    cases hb

/-- The queue accepts the message of a send. -/
lemma DeliveryInv.accept {draft : Draft} {error : ConversationError} {now : Int} {queue : QueueState}
    {result : Except SessionMessageError SessionSendMessageResponse} (inv : DeliveryInv σ)
    (hn : σ.sends[n]? = some (.attempted draft (.error error))) (bounded : queue.Bounded)
    (pushed : ∀ t, queue.bucket t = if draft.recipient = t then
      σ.queue.bucket t ++ [σ.queuedDelivery n draft now] else σ.queue.bucket t) :
    DeliveryInv
      { σ with
        queue := queue
        sends := σ.sends.set n (.returned result)
        accepted := σ.accepted ++ [σ.queuedDelivery n draft now] } := by
  have untried := inv.untried hn fun _ e => by cases e
  have bound := (List.getElem?_eq_some_iff.mp hn).1
  have moved : DeliveryInv { σ with sends := σ.sends.set n (.returned result) } :=
    inv.call hn (fun _ e => by cases e) fun _ => .inr ⟨result, by rw [List.getElem?_set_self bound]⟩
  have old {a : Nat} {e : PendingDelivery} (h : σ.accepted[a]? = some e) :
      (σ.accepted ++ [σ.queuedDelivery n draft now])[a]? = some e := by
    rw [List.getElem?_append_left (List.getElem?_eq_some_iff.mp h).1]
    exact h
  have stamp {a : Nat} {e : PendingDelivery} (h : σ.accepted[a]? = some e) : a < σ.accepted.length :=
    (List.getElem?_eq_some_iff.mp h).1
  -- What is in a bucket was there before, or is the new delivery.
  have mem {t : String} {e : PendingDelivery} (he : e ∈ queue.bucket t) :
      e ∈ σ.queue.bucket t ∨ draft.recipient = t ∧ e = σ.queuedDelivery n draft now := by
    rw [pushed] at he
    split_ifs at he with h
    · rcases List.mem_append.mp he with he | he
      · exact .inl he
      · exact .inr ⟨h, List.mem_singleton.mp he⟩
    · exact .inl he
  refine ⟨bounded, fun t e he => ?_, fun t => ?_, fun t e he => ?_, fun q hq => old (inv.held q hq),
    inv.apart, fun q hq e he => ?_, ?_, fun m hm => ?_, fun d hd a ha => ?_, fun d hd none => ?_,
    fun d hd a ha e he => ?_, inv.freshHeld, inv.once, inv.ordered⟩
  · rcases mem he with he | ⟨rfl, rfl⟩
    · exact inv.keyed t e he
    · rfl
  · show (queue.bucket t).Pairwise _
    rw [pushed]
    split_ifs
    · refine List.pairwise_append.mpr ⟨inv.sorted t, List.pairwise_singleton _ _, fun e he e' he' => ?_⟩
      rw [List.mem_singleton.mp he']
      exact stamp (inv.issued t e he)
    · exact inv.sorted t
  · rcases mem he with he | ⟨rfl, rfl⟩
    · exact old (inv.issued t e he)
    · exact List.getElem?_concat_length
  · rcases mem he with he | ⟨_, rfl⟩
    · exact inv.headed q hq e he
    · exact .inr (stamp (inv.held q hq))
  · rw [List.map_append]
    refine List.Nodup.append inv.distinct (List.nodup_singleton _) ?_
    rw [List.map_singleton, List.disjoint_singleton]
    exact untried
  · rw [List.map_append] at hm
    rcases List.mem_append.mp hm with hm | hm
    · exact moved.returned m hm
    · rw [List.map_singleton] at hm
      obtain rfl : m = n := List.mem_singleton.mp hm
      exact ⟨result, List.getElem?_set_self bound⟩
  · obtain ⟨e, he, same⟩ := inv.queued d hd a ha
    exact ⟨e, old he, same⟩
  · obtain ⟨unqueued, attempted⟩ := moved.direct d hd none
    refine ⟨?_, attempted⟩
    rw [List.map_append, List.mem_append, List.map_singleton, List.mem_singleton]
    rintro (h | h)
    · exact unqueued h
    · rcases (inv.direct d hd none).2 with ⟨_, h'⟩ | ⟨_, h'⟩
      · rw [h, show (σ.queuedDelivery n draft now).send = n from rfl, hn] at h'
        cases h'
      · rw [h, show (σ.queuedDelivery n draft now).send = n from rfl, hn] at h'
        cases h'
  · rcases mem he with he | ⟨_, rfl⟩
    · exact inv.fresh d hd a ha e he
    · obtain ⟨e, he, _⟩ := inv.queued d hd a ha
      exact .inl (stamp he)

lemma attempted_returned {sends : List SendCall} {call : SendCall}
    {result : Except SessionMessageError SessionSendMessageResponse} (hn : sends[n]? = some call) :
    Attempted (sends.set n (.returned result)) n :=
  .inr ⟨result, List.getElem?_set_self (List.getElem?_eq_some_iff.mp hn).1⟩

lemma DeliveryInv.resume (inv : DeliveryInv σ) (now : Int) : DeliveryInv (σ.resume n now) := by
  unfold Exchange.resume
  split
  next draft _ hn =>
    exact inv.call hn (fun _ e => by cases e) fun _ => attempted_returned hn
  next draft error hn =>
    split
    · exact inv.call hn (fun _ e => by cases e) fun _ => attempted_returned hn
    · have bounded : QueueState.Bounded (σ.queue.push (σ.queuedDelivery n draft now)).2 := inv.bounded.push
      dsimp only
      rcases QueueState.push_cases σ.queue (σ.queuedDelivery n draft now) with ⟨full, same⟩ | ⟨ok, pushed⟩
      · split
        next error queue h =>
          rw [h] at bounded same
          have kept : DeliveryInv { σ with queue := queue } :=
            inv.shrink bounded (fun t => by rw [same]) (.refl _) (fun _ h => h) fun _ _ _ h => h
          exact kept.call hn (fun _ e => by cases e) fun _ => attempted_returned hn
        next queue h =>
          rw [h] at full
          cases full
      · split
        next error queue h =>
          rw [h] at ok
          cases ok
        next queue h =>
          rw [h] at bounded pushed
          exact inv.accept hn bounded pushed
  · exact inv

lemma DeliveryInv.reach {answer : Except ConversationError Unit} (inv : DeliveryInv σ) :
    DeliveryInv (σ.reach n answer) := by
  unfold Exchange.reach
  split
  next draft hn =>
    cases answer with
    | ok _ => exact inv.sent hn
    | error error =>
      rw [show (if (Except.error error : Except ConversationError Unit).isOk then
        [({ send := n, recipient := draft.recipient, stamp := none } : Delivery)] else []) = [] from rfl,
        List.append_nil]
      refine inv.call hn (fun _ e => by cases e) ?_
      rintro (⟨_, h⟩ | ⟨_, h⟩)
      · rw [hn] at h
        cases h
      · rw [hn] at h
        cases h
  · exact inv

lemma DeliveryInv.tick {now : Int} (inv : DeliveryInv σ) : DeliveryInv (σ.next (.tick now)) := by
  unfold Exchange.next
  dsimp only
  split
  next at_ =>
    refine inv.lose inv.bounded.dropExpired (fun t => ?_) ?_ ?_ ?_ <;> try rw [at_]
    · rw [QueueState.bucket_dropExpired]
      exact List.filter_sublist
    · exact .refl _
    · exact fun _ h => h
    · exact fun _ => id
  · exact inv

lemma DeliveryInv.visit (inv : DeliveryInv σ) : DeliveryInv (σ.next .visit) := by
  unfold Exchange.next
  dsimp only
  split
  next at_ =>
    refine inv.lose inv.bounded (fun _ => .refl _) (List.nil_sublist _) (List.nil_subset _) ?_
    rw [at_]
    exact fun _ => id
  next item heads at_ =>
    refine inv.lose inv.bounded (fun _ => .refl _) ?_ ?_ ?_ <;> rw [at_]
    · exact .refl _
    · exact fun _ h => h
    · exact fun _ => id
  · exact inv

lemma DeliveryInv.gate {enabled : Bool} (inv : DeliveryInv σ) : DeliveryInv (σ.next (.gate enabled)) := by
  unfold Exchange.next
  dsimp only
  split
  next item heads at_ =>
    split
    · refine inv.lose inv.bounded (fun _ => .refl _) ?_ ?_ ?_ <;> rw [at_]
      · exact .refl _
      · exact fun _ h => h
      · exact fun _ => id
    · refine inv.lose inv.bounded.clearFor (fun _ => sublist_clearFor) ?_ ?_ ?_ <;> rw [at_]
      · exact List.sublist_cons_self _ _
      · exact fun _ h => List.mem_cons_of_mem _ h
      · exact fun _ => id
  · exact inv

lemma DeliveryInv.cancel {conversationId : String} {cause : TurnCancelCause} (inv : DeliveryInv σ) :
    DeliveryInv { σ with queue := onTurnCancelled σ.queue conversationId cause } := by
  unfold Exchange.onTurnCancelled
  split_ifs
  · exact inv
  · exact inv.shrink inv.bounded.clearFor (fun _ => sublist_clearFor) (.refl _) (fun _ h => h)
      fun _ _ _ h => h

lemma DeliveryInv.next (inv : DeliveryInv σ) (step : Step) : DeliveryInv (σ.next step) := by
  cases step with
  | send world userId fromConversationId req =>
    unfold Exchange.next
    dsimp only
    split
    · exact inv.arrive _
    · exact inv.arrive _
  | reach n answer => exact inv.reach
  | resume n now => exact inv.resume now
  | tick now => exact inv.tick
  | snapshot order =>
    unfold Exchange.next
    dsimp only
    split
    next at_ => exact inv.snapshot at_ order
    · exact inv
  | visit => exact inv.visit
  | gate enabled => exact inv.gate
  | answer answer =>
    unfold Exchange.next
    dsimp only
    split
    next at_ => exact inv.answer at_ answer
    · exact inv
  | settle =>
    unfold Exchange.next
    dsimp only
    split
    next at_ => exact inv.settle at_
    · exact inv
  | cancel conversationId cause => exact inv.cancel

lemma DeliveryInv.start : DeliveryInv initial := by
  have empty : ∀ t, initial.queue.bucket t = [] := fun t => by
    rw [QueueState.bucket, show initial.queue.byTarget[t]? = none from Table.get_empty]
    rfl
  have nothing : ∀ {t e}, e ∉ initial.queue.bucket t := fun {t e} => by
    rw [empty]
    exact List.not_mem_nil
  refine ⟨QueueState.bounded_default, fun t e he => absurd he nothing, fun t => ?_,
    fun t e he => absurd he nothing, fun q hq => ?_, .nil, fun q hq => ?_, .nil, fun n hn => ?_,
    fun d hd => ?_, fun d hd => ?_, fun d hd => ?_, fun d hd => ?_, .nil, .nil⟩
  · rw [empty]
    exact .nil
  · cases hq
  · cases hq
  · cases hn
  · cases hd
  · cases hd
  · cases hd
  · cases hd

lemma DeliveryInv.reachable (reach : lts.Reachable σ) : DeliveryInv σ := by
  refine reach.invariant ?_ ?_
  · rintro _ rfl
    exact .start
  · intro σ step σ' inv ⟨_, e⟩
    rw [e]
    exact inv.next step

lemma leaves_removed (inv : DeliveryInv σ) (at_ : σ.drainer = .answered item outcome heads)
    (answered : outcome = .delivered ∨ ∃ reason, outcome = .hardError reason)
    (there : e ∈ σ.queue.bucket e.recipient)
    (gone : e ∉ (σ.queue.removeHead item.recipient).bucket e.recipient) : Leaves σ e .settle := by
  rw [QueueState.bucket_removeHead] at gone
  split_ifs at gone with same
  · by_cases still : item ∈ σ.queue.bucket item.recipient
    · have mem : item ∈ σ.drainer.pending := by
        rw [at_]
        exact List.mem_cons_self
      obtain ⟨rest, hb⟩ := inv.head mem still
      rw [same] at hb
      rw [hb] at there gone
      rcases List.mem_cons.mp there with rfl | later
      · rcases answered with rfl | ⟨reason, rfl⟩
        · exact .inl ⟨heads, at_⟩
        · exact .inr (.inl ⟨reason, heads, at_⟩)
      · exact absurd later gone
    · exact .inr (.inr ⟨item, outcome, heads, at_, same, still⟩)
  · exact absurd there gone

def Exchange.Step.queues : Step → Bool
  | .resume _ _ | .tick _ | .gate _ | .settle | .cancel _ _ => true
  | _ => false

lemma queue_next (quiet : step.queues = false) : (σ.next step).queue = σ.queue := by
  cases step with
  | send world userId fromConversationId req =>
    unfold Exchange.next
    dsimp only
    split <;> rfl
  | reach n answer =>
    show (σ.reach n answer).queue = σ.queue
    unfold Exchange.reach
    split <;> rfl
  | snapshot order =>
    unfold Exchange.next
    dsimp only
    split <;> rfl
  | visit =>
    unfold Exchange.next
    dsimp only
    split <;> rfl
  | answer answer =>
    unfold Exchange.next
    dsimp only
    split <;> rfl
  | _ => cases quiet

lemma mem_resume {now : Int} (there : e ∈ σ.queue.bucket e.recipient) :
    e ∈ (σ.resume n now).queue.bucket e.recipient := by
  unfold Exchange.resume
  split
  · exact there
  next draft error hn =>
    split
    · exact there
    · dsimp only
      have kept := QueueState.mem_push there (σ.queuedDelivery n draft now)
      split
      next h => rwa [h] at kept
      next h => rwa [h] at kept
  · exact there

lemma leaves_gate {enabled : Bool} (there : e ∈ σ.queue.bucket e.recipient)
    (gone : e ∉ (σ.next (.gate enabled)).queue.bucket e.recipient) : Leaves σ e (.gate enabled) := by
  unfold Exchange.next at gone
  dsimp only at gone
  split at gone
  next item heads at_ =>
    split at gone
    · exact absurd there gone
    next off =>
      dsimp only at gone
      rw [QueueState.bucket_clearFor] at gone
      split_ifs at gone with same
      · exact ⟨by simpa using off, item, heads, at_, same⟩
      · exact absurd there gone
  · exact absurd there gone

lemma leaves (inv : DeliveryInv σ) (there : e ∈ σ.queue.bucket e.recipient)
    (gone : e ∉ (σ.next step).queue.bucket e.recipient) : Leaves σ e step := by
  by_cases quiet : step.queues = false
  · rw [queue_next quiet] at gone
    exact absurd there gone
  cases step with
  | resume n now => exact absurd (mem_resume there) gone
  | tick now =>
    unfold Exchange.next at gone
    dsimp only at gone
    split at gone
    · dsimp only at gone
      rw [QueueState.bucket_dropExpired, List.mem_filter] at gone
      by_contra live
      exact gone ⟨there, decide_eq_true (not_le.mp live)⟩
    · exact absurd there gone
  | gate enabled => exact leaves_gate there gone
  | settle =>
    unfold Exchange.next at gone
    dsimp only at gone
    split at gone
    next item outcome heads at_ =>
      cases outcome with
      | delivered => exact leaves_removed inv at_ (.inl rfl) there gone
      | busy => exact absurd there gone
      | hardError reason => exact leaves_removed inv at_ (.inr ⟨reason, rfl⟩) there gone
    · exact absurd there gone
  | cancel conversationId cause =>
    change e ∉ (onTurnCancelled σ.queue conversationId cause).bucket e.recipient at gone
    unfold Exchange.onTurnCancelled at gone
    split_ifs at gone with other
    · exact absurd there gone
    · rw [QueueState.bucket_clearFor] at gone
      split_ifs at gone with same
      · exact ⟨same, not_not.mp other⟩
      · exact absurd there gone
  | _ => exact absurd rfl quiet

/-- In every state of every run the bookkeeping of the queue is right and its caps hold, no message was
delivered twice, and those delivered from the queue came in the order in which it accepted them, target by
target. What leaves the queue in a step leaves it for one of the reasons of `Leaves`. -/
theorem delivery_kept (reach : lts.Reachable σ) :
    σ.queue.Bounded ∧ (σ.delivered.map (·.send)).Nodup ∧ σ.delivered.Pairwise InOrder ∧
      ∀ (step : Step) (e : PendingDelivery), e ∈ σ.queue.bucket e.recipient →
        e ∉ (σ.next step).queue.bucket e.recipient → Leaves σ e step := by
  have inv := DeliveryInv.reachable reach
  exact ⟨inv.bounded, inv.once, inv.ordered, fun step e there gone => leaves inv there gone⟩

/-- Both conversations exist, and nothing forbids the send. -/
def openWorld : SendWorld :=
  { settings := .ok none
    sender := .ok (some { name := "sender", teamId := none, workspace := none })
    tripped := false
    target := .ok (some { name := "target", teamId := none, workspace := none }) }

/-- A send to conversation "t" finds it busy, and queues its message. -/
def queues (n : Nat) (message : String) : List Step :=
  [.send openWorld "u" "s" { recipient := "t", message := message },
    .reach n (.error (.busy "busy")), .resume n 0]

def takesHead : List Step :=
  [.tick 0, .snapshot .id, .visit]

def drainedRun : List Step :=
  queues 0 "one" ++ takesHead ++ [.gate true, .answer (.ok ()), .settle]

/-- The run delivers one message, and leaves nothing. -/
theorem delivery_kept_drainedRun :
    (drainedRun.foldl next initial).delivered = [{ send := 0, recipient := "t", stamp := some 0 }] ∧
      (drainedRun.foldl next initial).queue.Bounded :=
  ⟨by decide +kernel, (delivery_kept (.computed LTS.enabledAll_true)).1⟩

/-- A queued message waits, and the user it belongs to has the feature disabled. -/
def disabledRun : List Step :=
  queues 0 "one" ++ takesHead

/-- A message waits in the queue, and the next send finds the target free. -/
def overtakingRun : List Step :=
  queues 0 "one" ++
    [.send openWorld "u" "s" { recipient := "t", message := "two" }, .reach 1 (.ok ()), .resume 1 0] ++
    takesHead ++ [.gate true, .answer (.ok ()), .settle]

/-- A message is delivered, cancelled and followed by another one before the drainer goes on. -/
def crossedRun : List Step :=
  queues 0 "one" ++ takesHead ++ [.gate true, .answer (.ok ()), .cancel "t" .userRequested] ++ queues 1 "two"

/-- The messages queued for conversation "t" at the end of a run: their sends and their deadlines. -/
def waiting (run : List Step) : List (Nat × Int) :=
  ((run.foldl next initial).queue.bucket "t").map fun e => (e.send, e.expiresAtMs)

def deliveredSends (run : List Step) : List Nat :=
  (run.foldl next initial).delivered.map (·.send)

/-- Long before its deadline a queued message leaves the queue undelivered: because the feature is found
disabled, or because the drainer settles the message before it, which a cancel had taken from the queue. And
a message is delivered before one that waits for the same target. -/
theorem queued_lost :
    (lts.Reachable (disabledRun.foldl next initial) ∧ waiting disabledRun = [(0, ttlMs)] ∧
      waiting (disabledRun ++ [.gate false]) = [] ∧ deliveredSends (disabledRun ++ [.gate false]) = []) ∧
    (lts.Reachable (crossedRun.foldl next initial) ∧ waiting crossedRun = [(1, ttlMs)] ∧
      waiting (crossedRun ++ [.settle]) = [] ∧ deliveredSends (crossedRun ++ [.settle]) = [0]) ∧
    lts.Reachable (overtakingRun.foldl next initial) ∧ deliveredSends overtakingRun = [1, 0] := by
  refine ⟨⟨.computed LTS.enabledAll_true, ?_⟩, ⟨.computed LTS.enabledAll_true, ?_⟩,
    .computed LTS.enabledAll_true, ?_⟩
  · decide +kernel
  · decide +kernel
  · decide +kernel

end KiCore.SessionMessage

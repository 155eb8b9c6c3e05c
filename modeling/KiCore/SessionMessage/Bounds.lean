import KiCore.SessionMessage.Queue

/-!
# The bookkeeping of the queue

What each operation does to the buckets, and `Bounded`: the total is the sum of the lengths of the buckets,
no bucket is empty, and both caps hold. Every operation keeps it.
-/

namespace KiCore.SessionMessage

open KiCore.Lib

namespace QueueState

/-- The bookkeeping is right, and the caps hold. -/
structure Bounded (state : QueueState) : Prop where
  total : state.total = Table.sum List.length state.byTarget
  nonempty : ∀ (target : String) (bucket : List PendingDelivery),
    state.byTarget[target]? = some bucket → bucket ≠ []
  perTarget : ∀ target, (state.bucket target).length ≤ perTargetLimit
  global : state.total ≤ globalLimit

variable {state : QueueState} {item : PendingDelivery} {t target : String} {now : Int}
  {b : List PendingDelivery} {m : Table String (List PendingDelivery)} {n : Nat}

lemma bucket_insert : QueueState.bucket { byTarget := m.insert t b, total := n } target =
    if t = target then b else (m[target]?).getD [] := by
  unfold bucket
  rw [Table.get_insert]
  split_ifs <;> rfl

lemma bucket_erase : QueueState.bucket { byTarget := m.erase t, total := n } target =
    if t = target then [] else (m[target]?).getD [] := by
  unfold bucket
  rw [Table.get_erase]
  split_ifs <;> rfl

lemma push_cases (state : QueueState) (item : PendingDelivery) :
    ((state.push item).1 = .error .queueFull ∧ ∀ target, (state.push item).2.bucket target = state.bucket target) ∨
    ((state.push item).1 = .ok () ∧ ∀ target, (state.push item).2.bucket target =
      if item.recipient = target then state.bucket target ++ [item] else state.bucket target) := by
  unfold push
  split_ifs with full
  · exact .inl ⟨rfl, fun _ => rfl⟩
  · dsimp only
    split_ifs with long
    · refine .inl ⟨rfl, fun target => ?_⟩
      rw [bucket_insert]
      split_ifs with h
      · rw [h]
      · rfl
    · refine .inr ⟨rfl, fun target => ?_⟩
      rw [bucket_insert]
      split_ifs with h
      · rw [h]
      · rfl

lemma mem_push {e : PendingDelivery} (there : e ∈ state.bucket target) (item : PendingDelivery) :
    e ∈ (state.push item).2.bucket target := by
  rcases push_cases state item with ⟨_, same⟩ | ⟨_, pushed⟩
  · rw [same]
    exact there
  · rw [pushed]
    split_ifs
    · exact List.mem_append_left _ there
    · exact there

lemma bucket_dropExpired : (state.dropExpired now).2.bucket target =
    (state.bucket target).filter (now < ·.expiresAtMs) := by
  unfold dropExpired bucket
  dsimp only
  cases h : state.byTarget[target]? with
  | none =>
    cases h' : ((state.byTarget.map fun _ bucket => bucket.filter (now < ·.expiresAtMs)).filter
        fun _ bucket => bucket ≠ [])[target]? with
    | none => rfl
    | some b =>
      rw [Table.get_filter, Table.get_map, h] at h'
      cases h'.1
  | some b =>
    cases h' : ((state.byTarget.map fun _ bucket => bucket.filter (now < ·.expiresAtMs)).filter
        fun _ bucket => bucket ≠ [])[target]? with
    | none =>
      by_contra ne
      have there := (Table.get_filter (m := state.byTarget.map fun _ bucket =>
        bucket.filter (now < ·.expiresAtMs)) (f := fun _ bucket => bucket ≠ []) (a := target)
        (v := b.filter (now < ·.expiresAtMs))).mpr ⟨by rw [Table.get_map, h]; rfl, by simpa using Ne.symm ne⟩
      rw [h'] at there
      cases there
    | some b' =>
      rw [Table.get_filter, Table.get_map, h] at h'
      cases h'.1
      rfl

lemma bucket_removeHead : (state.removeHead t).bucket target =
    if t = target then (state.bucket target).tail else state.bucket target := by
  unfold removeHead
  cases h : state.byTarget[t]? with
  | none =>
    split_ifs with e
    · rw [← e, bucket, h]
      rfl
    · rfl
  | some b =>
    dsimp only
    by_cases ends : b.tail = []
    · rw [if_pos ends, bucket_erase]
      split_ifs with e
      · rw [← e, bucket, h, Option.getD_some, ends]
      · rfl
    · rw [if_neg ends, bucket_insert]
      split_ifs with e
      · rw [← e, bucket, h, Option.getD_some]
      · rfl

lemma bucket_clearFor : (state.clearFor t).2.bucket target =
    if t = target then [] else state.bucket target :=
  bucket_erase

lemma mem_snapshotHeads {order : IterOrder (List PendingDelivery)} :
    item ∈ state.snapshotHeads order ↔ ∃ target, (state.bucket target).head? = some item := by
  unfold snapshotHeads
  rw [List.mem_filterMap]
  constructor
  · intro ⟨b, mem, head⟩
    obtain ⟨target, hb⟩ := Table.mem_values.mp (order.mem_arrange.mp mem)
    exact ⟨target, by rw [bucket, hb, Option.getD_some, head]⟩
  · intro ⟨target, head⟩
    cases hb : state.byTarget[target]? with
    | none =>
      rw [bucket, hb] at head
      cases head
    | some b =>
      rw [bucket, hb] at head
      exact ⟨b, order.mem_arrange.mpr (Table.mem_values.mpr ⟨target, hb⟩), head⟩

lemma bounded_default : Bounded .default := by
  have none : ∀ target : String, QueueState.default.byTarget[target]? = none := fun _ => Table.get_empty
  refine ⟨rfl, fun target b h => ?_, fun target => ?_, Nat.zero_le _⟩
  · rw [none] at h
    cases h
  · rw [bucket, none]
    exact Nat.zero_le _

variable (bounded : Bounded state)
include bounded

lemma Bounded.split (target : String) :
    state.total = (state.bucket target).length + Table.sumBut List.length state.byTarget target := by
  rw [bounded.total, bucket]
  cases h : state.byTarget[target]? with
  | none => rw [Table.sum_of_none h]; simp
  | some b => rw [Table.sum_of_get h]; rfl

lemma Bounded.insert (nonempty : b ≠ []) (long : b.length ≤ perTargetLimit)
    (follows : n + (state.bucket target).length = state.total + b.length) (global : n ≤ globalLimit) :
    Bounded { byTarget := state.byTarget.insert target b, total := n } where
  total := by
    have := bounded.split target
    rw [Table.sum_insert]
    show n = _
    omega
  nonempty t b' h := by
    dsimp only at h
    rw [Table.get_insert] at h
    split_ifs at h
    · cases h
      exact nonempty
    · exact bounded.nonempty t b' h
  perTarget t := by
    rw [bucket_insert]
    split_ifs
    · exact long
    · exact bounded.perTarget t
  global := global

lemma Bounded.erase (follows : n + (state.bucket target).length = state.total) :
    Bounded { byTarget := state.byTarget.erase target, total := n } where
  total := by
    have := bounded.split target
    rw [Table.sum_erase]
    show n = _
    omega
  nonempty t b' h := by
    exact bounded.nonempty t b' (Table.get_erase_some.mp h).2
  perTarget t := by
    rw [bucket_erase]
    split_ifs
    · exact Nat.zero_le _
    · exact bounded.perTarget t
  global := by
    have := bounded.global
    show n ≤ globalLimit
    omega

lemma Bounded.push : Bounded (state.push item).2 := by
  unfold QueueState.push
  split_ifs with full
  · exact bounded
  · dsimp only
    split_ifs with long
    · refine bounded.insert ?_ (bounded.perTarget _) rfl bounded.global
      intro empty
      rw [empty] at long
      exact absurd long (by decide)
    · refine bounded.insert ?_ ?_ ?_ ?_
      · simp
      · rw [List.length_append, List.length_singleton]
        omega
      · rw [List.length_append, List.length_singleton]
        omega
      · omega

lemma Bounded.dropExpired : Bounded (state.dropExpired now).2 := by
  have live (b : List PendingDelivery) : (b.filter (now < ·.expiresAtMs)).length ≤ b.length :=
    List.length_filter_le ..
  have parts : Table.sum List.length state.byTarget =
      Table.sum (fun b => b.length - (b.filter (now < ·.expiresAtMs)).length) state.byTarget +
        Table.sum (fun b => (b.filter (now < ·.expiresAtMs)).length) state.byTarget := by
    rw [← Table.sum_add]
    congr
    funext b
    have := live b
    omega
  have left : Table.sum List.length (state.dropExpired now).2.byTarget =
      Table.sum (fun b => (b.filter (now < ·.expiresAtMs)).length) state.byTarget := by
    refine Table.sum_filter_map fun _ b empty => ?_
    simp only [ne_eq, decide_not, Bool.not_eq_false', decide_eq_true_eq] at empty
    rw [empty]
    rfl
  have total : (state.dropExpired now).2.total = state.total -
      Table.sum (fun b => b.length - (b.filter (now < ·.expiresAtMs)).length) state.byTarget := rfl
  have before := bounded.total
  refine ⟨by omega, fun target b h => ?_, fun target => ?_, ?_⟩
  · obtain ⟨_, nonempty⟩ := Table.get_filter.mp h
    simpa using nonempty
  · rw [bucket_dropExpired]
    exact (live _).trans (bounded.perTarget target)
  · have := bounded.global
    omega

lemma Bounded.removeHead : Bounded (state.removeHead target) := by
  unfold QueueState.removeHead
  cases h : state.byTarget[target]? with
  | none => exact bounded
  | some b =>
    have nonempty := bounded.nonempty target b h
    have here : state.bucket target = b := by
      rw [bucket, h]
      rfl
    have long := bounded.perTarget target
    have split := bounded.split target
    have tail : b.length = b.tail.length + 1 := by
      have := List.length_pos_iff.mpr nonempty
      rw [List.length_tail]
      omega
    rw [here] at long split
    dsimp only
    rw [if_neg nonempty]
    split_ifs with ends
    · refine bounded.erase ?_
      rw [here]
      rw [ends] at tail
      simp only [List.length_nil] at tail
      omega
    · refine bounded.insert ends ?_ ?_ ?_
      · omega
      · rw [here]
        omega
      · have := bounded.global
        omega

lemma Bounded.clearFor : Bounded (state.clearFor target).2 := by
  refine bounded.erase ?_
  have := bounded.split target
  omega

end QueueState

end KiCore.SessionMessage

import KiCore.Lib.Transition
import KiCore.Session.Pending

/-!
# The flush engine

What the engine does in any interleaving. Messages are dispatched at most once and in the order they
were enqueued, and a cancelled message is not dispatched later: this holds of every run (`FlushInv`).
The window of a dispatch is not protected, though. The message being dispatched is still held, so it can
be cancelled, and whatever is written to its status in the meantime is overwritten when the dispatch
returns. `flush_lawful_iff` says which steps are the wrong ones.
-/

namespace KiCore.Session

open KiCore.Lib ConversationSession

variable {α : Type} {c : ConversationSession} {st : FlushState α} {op : FlushOp α} {id : String}
  {m m' : PendingMessage α}

/-- The queue, with what has been dispatched and reported as cancelled so far. -/
structure FlushHistory (α : Type) where
  now : FlushState α
  dispatched : List (PendingMessage α)
  cancelled : List String

def FlushHistory.perform (c : ConversationSession) (h : FlushHistory α) (op : FlushOp α) :
    FlushHistory α where
  now := h.now.step c op
  dispatched := h.dispatched ++ (h.now.selected op).toList
  cancelled := h.cancelled ++ h.now.reported op

def FlushHistory.new : FlushHistory α := { now := .new, dispatched := [], cancelled := [] }

/-- Statuses move from held over sent to accepted, or end in an error or a cancellation. -/
def MsgStatus.Forward : MsgStatus → MsgStatus → Prop
  | .held, _ => True
  | .sent, status => status ≠ .held
  | .accepted, status => status = .accepted
  | .error, status => status = .error
  | .canceled, status => status = .canceled

/-- An operation keeps the promises of the engine. -/
structure Lawful (c : ConversationSession) (h : FlushHistory α) (op : FlushOp α) : Prop where
  /-- At most one dispatch of a message, and in the order of enqueueing. -/
  order : ((h.perform c op).dispatched.map PendingMessage.enqueueOrdinal).Pairwise (· < ·)
  /-- What has been reported as cancelled is not dispatched. -/
  afterCancel : ∀ m, h.now.selected op = some m → m.clientMsgId ∉ h.cancelled
  /-- What is reported as cancelled is not being dispatched. -/
  notInFlight : ∀ id ∈ h.now.reported op, h.now.inFlight ≠ some id
  forward : ∀ id m m', h.now.find id = some m → (h.now.step c op).find id = some m' →
    m.status.Forward m'.status
  /-- A message leaves the queue only by its own cancellation. -/
  kept : ∀ id m, h.now.find id = some m → (h.now.step c op).find id = none →
    id ∈ h.now.reported op

/-- A message is not cancelled in the window of its dispatch, not confirmed in it either, and not
confirmed after it was cancelled or its dispatch failed. -/
def Careful (h : FlushHistory α) : FlushOp α → Prop
  | .dispatchReturned _ => ∀ id m, h.now.inFlight = some id → h.now.find id = some m →
      m.status ≠ .accepted
  | .cancelHeld id => ∀ m, h.now.inFlight = some id → h.now.find id = some m → m.status ≠ .held
  | .cancelAllOutstanding => ∀ id m, h.now.inFlight = some id → h.now.find id = some m →
      m.status ≠ .held
  | .observe env => ∀ id m, env.event = .promptAccepted id → h.now.find id = some m →
      m.status ≠ .canceled ∧ m.status ≠ .error
  | .send _ | .flush _ _ => True

lemma msgId_injective {n k : Nat} (h : c.msgId n = c.msgId k) : n = k := by
  have digits : toString n = toString k := by
    have chars := congrArg String.toList h
    simp only [msgId, String.toList_append] at chars
    exact String.toList_injective (List.append_cancel_left chars)
  have back (n : Nat) : Nat.ofDigitChars 10 (Nat.toDigits 10 n) 0 = n :=
    Nat.ofDigitChars_toDigits (by omega) (by omega)
  have same : Nat.toDigits 10 n = Nat.toDigits 10 k := by
    have chars := congrArg String.toList digits
    simpa [Nat.toList_repr, toString] using chars
  rw [← back n, ← back k, same]

namespace FlushState

lemma lookup_markStatus {pending : Pending α} {marked : String} {status : MsgStatus} :
    Keyed.lookup PendingMessage.clientMsgId id (markStatus pending marked status).queue =
      if marked = id then
        (Keyed.lookup PendingMessage.clientMsgId id pending.queue).map
          fun m => { m with status := status }
      else Keyed.lookup PendingMessage.clientMsgId id pending.queue := by
  apply Keyed.lookup_alter
  intro x hx
  exact hx

@[simp] lemma find_send {content : α} : (st.step c (.send content)).find id =
    (st.find id).or (if c.msgId (st.pending.nextId + 1) = id then
      some ⟨c.msgId (st.pending.nextId + 1), content, .held, st.pending.nextId + 1⟩ else none) := by
  rw [find, step, enqueue, Keyed.lookup_append, Keyed.lookup_cons, Keyed.lookup_nil]
  rfl

@[simp] lemma find_flush {edge gate : Bool} : (st.step c (.flush edge gate)).find id = st.find id := by
  rw [step]
  split <;> rfl

@[simp] lemma find_dispatchReturned {isOk : Bool} : (st.step c (.dispatchReturned isOk)).find id =
    if st.inFlight = some id then
      (st.find id).map fun m => { m with status := if isOk then .sent else .error }
    else st.find id := by
  rw [step]
  cases inFlight : st.inFlight with
  | none => rfl
  | some flying =>
    simp only [find, Option.some.injEq]
    exact lookup_markStatus

@[simp] lemma find_cancelAllOutstanding : (st.step c .cancelAllOutstanding).find id =
    (st.find id).map fun m => if isOutstanding m then { m with status := .canceled } else m := by
  rw [step, find, cancelAllOutstanding, Keyed.lookup_map]
  · rfl
  · intro m
    split <;> rfl

lemma find_observe {env : SessionEnvelope} {accepted : String}
    (h : env.event = .promptAccepted accepted) : (st.step c (.observe env)).find id =
      if accepted = id then (st.find id).map fun m => { m with status := .accepted }
      else st.find id := by
  simp only [step, find, drainPendingOn, h]
  exact lookup_markStatus

lemma observe_other {env : SessionEnvelope} (h : ∀ id, env.event ≠ .promptAccepted id) :
    st.step c (.observe env) = st := by
  rw [step, drainPendingOn]
  split
  case h_1 accepted e => exact absurd e (h accepted)
  case h_2 => rfl

section

variable (nodup : (st.pending.queue.map PendingMessage.clientMsgId).Nodup)
include nodup

lemma mem_reported_cancelHeld {asked : String} : id ∈ st.reported (.cancelHeld asked) ↔
      asked = id ∧ ∃ m, st.find id = some m ∧ m.status = .held := by
  have found : (ConversationSession.cancelHeld st.pending asked).1 = true ↔
      ∃ m, st.find asked = some m ∧ m.status = .held := by
    rw [ConversationSession.cancelHeld]
    split
    case isTrue h =>
      obtain ⟨m, mem, held⟩ := List.any_eq_true.mp h
      simp only [Bool.and_eq_true, decide_eq_true_eq] at held
      have key := (Keyed.mem_iff_lookup nodup).mp ⟨mem, held.1⟩
      exact iff_of_true rfl ⟨m, key, held.2⟩
    case isFalse h =>
      refine iff_of_false (by simp) ?_
      rintro ⟨m, found, held⟩
      apply h
      rw [List.any_eq_true]
      exact ⟨m, Keyed.mem_of_lookup found, by simp [Keyed.lookup_key found, held]⟩
  rw [reported]
  split
  case isTrue h =>
    rw [List.mem_singleton]
    constructor
    · rintro rfl
      exact ⟨rfl, found.mp h⟩
    · exact fun h => h.1.symm
  case isFalse h =>
    refine iff_of_false (by simp) ?_
    rintro ⟨rfl, held⟩
    exact h (found.mpr held)

lemma find_cancelHeld {asked : String} : (st.step c (.cancelHeld asked)).find id =
      if asked = id then (st.find id).filter fun m => !decide (m.status = .held)
      else st.find id := by
  have queue : (st.step c (.cancelHeld asked)).find id =
      Keyed.lookup PendingMessage.clientMsgId id (st.pending.queue.eraseP
        fun m => decide (m.clientMsgId = asked) && decide (m.status = .held)) := by
    rw [step, find, ConversationSession.cancelHeld]
    split
    case isTrue h => rfl
    case isFalse h =>
      rw [List.eraseP_of_forall_not]
      intro m mem held
      exact h (List.any_eq_true.mpr ⟨m, mem, held⟩)
  have only : ∀ m : PendingMessage α, (decide (m.clientMsgId = asked) && decide (m.status = .held)) = true →
      m.clientMsgId = asked := by
    intro m held
    simp only [Bool.and_eq_true, decide_eq_true_eq] at held
    exact held.1
  rw [queue, Keyed.lookup_eraseP nodup only]
  split
  case isTrue same =>
    cases found : st.find id with
    | none =>
      rw [find] at found
      rw [found]
      rfl
    | some m =>
      rw [find] at found
      simp [found, Option.filter, Keyed.lookup_key found, same]
  case isFalse => rfl

lemma mem_reported_cancelAll :
    id ∈ st.reported .cancelAllOutstanding ↔
      ∃ m, st.find id = some m ∧ isOutstanding m = true := by
  simp only [reported, List.mem_map, List.mem_filter]
  constructor
  · rintro ⟨m, ⟨mem, outstanding⟩, rfl⟩
    exact ⟨m, Keyed.lookup_of_mem nodup mem, outstanding⟩
  · rintro ⟨m, found, outstanding⟩
    exact ⟨m, ⟨Keyed.mem_of_lookup found, outstanding⟩, Keyed.lookup_key found⟩

/-- Only `send` adds a message; no operation changes an ordinal or holds a message again, and the
message in flight stays in flight as long as it is held. -/
lemma find_before
    (notSend : ∀ content, op ≠ .send content) (found : (st.step c op).find id = some m') :
    ∃ m, st.find id = some m ∧ m'.enqueueOrdinal = m.enqueueOrdinal ∧
      (m'.status = .held → m.status = .held ∧
        (st.inFlight = some id → (st.step c op).inFlight = some id)) := by
  cases op with
  | send content => exact absurd rfl (notSend content)
  | flush edge gate =>
    rw [find_flush] at found
    refine ⟨m', found, rfl, fun held => ⟨held, fun flying => ?_⟩⟩
    rw [step, selected, flying]
    exact flying
  | dispatchReturned isOk =>
    rw [find_dispatchReturned] at found
    split at found
    case isTrue flying =>
      obtain ⟨m, old, rfl⟩ := Option.map_eq_some_iff.mp found
      exact ⟨m, old, rfl, fun held => by cases isOk <;> cases held⟩
    case isFalse landed =>
      exact ⟨m', found, rfl, fun held => ⟨held, fun flying => absurd flying landed⟩⟩
  | cancelHeld asked =>
    rw [find_cancelHeld nodup] at found
    split at found
    · obtain ⟨old, -⟩ := Option.filter_eq_some_iff.mp found
      exact ⟨m', old, rfl, fun held => ⟨held, fun flying => flying⟩⟩
    · exact ⟨m', found, rfl, fun held => ⟨held, fun flying => flying⟩⟩
  | cancelAllOutstanding =>
    rw [find_cancelAllOutstanding] at found
    obtain ⟨m, old, rfl⟩ := Option.map_eq_some_iff.mp found
    refine ⟨m, old, by split <;> rfl, fun held => ⟨?_, fun flying => flying⟩⟩
    split at held
    · cases held
    · exact held
  | observe env =>
    cases accepted : env.event with
    | promptAccepted confirmed =>
      rw [find_observe accepted] at found
      split at found
      · obtain ⟨m, old, rfl⟩ := Option.map_eq_some_iff.mp found
        exact ⟨m, old, rfl, fun held => by cases held⟩
      · exact ⟨m', found, rfl, fun held => ⟨held, fun flying => flying⟩⟩
    | _ =>
      rw [observe_other (by simp [accepted])] at found ⊢
      exact ⟨m', found, rfl, fun held => ⟨held, fun flying => flying⟩⟩

end

lemma nextId_step (notSend : ∀ content, op ≠ .send content) :
    (st.step c op).pending.nextId = st.pending.nextId := by
  cases op with
  | send content => exact absurd rfl (notSend content)
  | flush edge gate =>
    rw [step]
    split <;> rfl
  | dispatchReturned isOk =>
    rw [step]
    split <;> rfl
  | cancelHeld asked =>
    rw [step, ConversationSession.cancelHeld]
    split <;> rfl
  | cancelAllOutstanding => rfl
  | observe env =>
    rw [step, drainPendingOn]
    split <;> rfl

lemma nodup_markStatus {pending : Pending α} {status : MsgStatus}
    (nodup : (pending.queue.map PendingMessage.clientMsgId).Nodup) :
    ((markStatus pending id status).queue.map PendingMessage.clientMsgId).Nodup := by
  have keys : (markStatus pending id status).queue.map PendingMessage.clientMsgId =
      pending.queue.map PendingMessage.clientMsgId := by
    apply Keyed.map_alter
    intro m hm
    rfl
  rw [keys]
  exact nodup

lemma nodup_step (nodup : (st.pending.queue.map PendingMessage.clientMsgId).Nodup)
    (notSend : ∀ content, op ≠ .send content) :
    ((st.step c op).pending.queue.map PendingMessage.clientMsgId).Nodup := by
  cases op with
  | send content => exact absurd rfl (notSend content)
  | flush edge gate =>
    rw [step]
    split <;> exact nodup
  | dispatchReturned isOk =>
    rw [step]
    split
    · exact nodup_markStatus nodup
    · exact nodup
  | cancelHeld asked =>
    rw [step, ConversationSession.cancelHeld]
    split
    · exact nodup.sublist (List.eraseP_sublist.map _)
    · exact nodup
  | cancelAllOutstanding =>
    have keys : ((st.step c .cancelAllOutstanding).pending.queue.map PendingMessage.clientMsgId) =
        st.pending.queue.map PendingMessage.clientMsgId := by
      rw [step, cancelAllOutstanding, List.map_map]
      apply List.map_congr_left
      intro m mem
      simp only [Function.comp_apply]
      split <;> rfl
    rw [keys]
    exact nodup
  | observe env =>
    rw [step, drainPendingOn]
    split
    · exact nodup_markStatus nodup
    · exact nodup

lemma of_selected (nodup : (st.pending.queue.map PendingMessage.clientMsgId).Nodup)
    (h : st.selected op = some m) : st.inFlight = none ∧ st.find m.clientMsgId = some m ∧
      m.status = .held ∧ ∀ id m', st.find id = some m' → m'.status = .held →
        m.enqueueOrdinal ≤ m'.enqueueOrdinal := by
  cases op with
  | flush edge gate =>
    rw [selected] at h
    split at h
    case isTrue => cases h
    case isFalse idle =>
      rw [tryFlushHead] at h
      split at h
      case isFalse => cases h
      case isTrue =>
        rw [flushHead] at h
        split at h
        case isTrue => cases h
        case isFalse =>
          obtain ⟨mem, held⟩ := List.mem_filter.mp (List.argmin_mem h)
          refine ⟨by simpa using idle, Keyed.lookup_of_mem nodup mem, by simpa using held, ?_⟩
          intro id m' found held'
          apply List.le_of_mem_argmin ?_ h
          exact List.mem_filter.mpr ⟨Keyed.mem_of_lookup found, by simpa using held'⟩
  | _ => cases h

lemma inFlight_of_selected (h : st.selected op = some m) :
    (st.step c op).inFlight = some m.clientMsgId := by
  cases op with
  | flush edge gate => rw [step, h]
  | _ => cases h

end FlushState

variable {h : FlushHistory α}

/-- What holds after any operations: every held message lies ahead of what has been dispatched, and a
message that was reported as cancelled is not held. -/
structure FlushInv (c : ConversationSession) (h : FlushHistory α) : Prop where
  nodup : (h.now.pending.queue.map PendingMessage.clientMsgId).Nodup
  named : ∀ id m, h.now.find id = some m →
    id = c.msgId m.enqueueOrdinal ∧ m.enqueueOrdinal ≤ h.now.pending.nextId
  issued : ∀ d ∈ h.dispatched, d.enqueueOrdinal ≤ h.now.pending.nextId
  order : (h.dispatched.map PendingMessage.enqueueOrdinal).Pairwise (· < ·)
  ahead : ∀ d ∈ h.dispatched, ∀ id m, h.now.find id = some m → m.status = .held →
    h.now.inFlight ≠ some id → d.enqueueOrdinal < m.enqueueOrdinal
  reported : ∀ id ∈ h.cancelled, (∃ n ≤ h.now.pending.nextId, id = c.msgId n) ∧
    ∀ m, h.now.find id = some m → m.status ≠ .held

lemma FlushInv.new : FlushInv c (FlushHistory.new : FlushHistory α) where
  nodup := List.nodup_nil
  named _ _ found := by cases found
  issued _ mem := by cases mem
  order := List.Pairwise.nil
  ahead _ mem := by cases mem
  reported _ mem := by cases mem

section

variable (inv : FlushInv c h)
include inv

lemma FlushInv.fresh {n : Nat} (later : h.now.pending.nextId < n) :
    h.now.find (c.msgId n) = none := by
  cases found : h.now.find (c.msgId n) with
  | none => rfl
  | some m =>
    obtain ⟨same, bound⟩ := inv.named _ m found
    have := msgId_injective same
    omega

/-- A send adds a held message behind everything that was enqueued before. -/
lemma FlushInv.send (content : α) : FlushInv c (h.perform c (.send content)) := by
  have absent := inv.fresh (Nat.lt_succ_self _)
  have nextId : (h.perform c (.send content)).now.pending.nextId = h.now.pending.nextId + 1 := rfl
  have dispatched : (h.perform c (.send content)).dispatched = h.dispatched := List.append_nil _
  have cancelled : (h.perform c (.send content)).cancelled = h.cancelled := List.append_nil _
  have found {id : String} {m : PendingMessage α}
      (hm : (h.perform c (.send content)).now.find id = some m) : h.now.find id = some m ∨
        id = c.msgId (h.now.pending.nextId + 1) ∧ m.enqueueOrdinal = h.now.pending.nextId + 1 := by
    rw [FlushHistory.perform, FlushState.find_send, Option.or_eq_some_iff] at hm
    rcases hm with old | ⟨-, new⟩
    · exact .inl old
    · rw [Option.ite_none_right_eq_some] at new
      obtain ⟨rfl, new⟩ := new
      cases new
      exact .inr ⟨rfl, rfl⟩
  refine ⟨?_, ?_, ?_, ?_, ?_, ?_⟩
  · have queue : (h.perform c (.send content)).now.pending.queue = h.now.pending.queue ++
        [⟨c.msgId (h.now.pending.nextId + 1), content, .held, h.now.pending.nextId + 1⟩] := rfl
    rw [queue, List.map_append, List.nodup_append]
    refine ⟨inv.nodup, List.nodup_singleton _, ?_⟩
    intro id old other new
    obtain ⟨m, mem, rfl⟩ := List.mem_map.mp old
    rw [List.map_singleton, List.mem_singleton] at new
    subst new
    exact Keyed.lookup_eq_none.mp absent m mem
  · intro id m hm
    rw [nextId]
    rcases found hm with old | ⟨rfl, ordinal⟩
    · exact ⟨(inv.named id m old).1, by have := (inv.named id m old).2; omega⟩
    · exact ⟨by rw [ordinal], by omega⟩
  · intro d mem
    rw [dispatched] at mem
    have := inv.issued d mem
    omega
  · rw [dispatched]
    exact inv.order
  · intro d mem id m hm held landed
    rw [dispatched] at mem
    rcases found hm with old | ⟨-, ordinal⟩
    · exact inv.ahead d mem id m old held landed
    · have := inv.issued d mem
      omega
  · intro id mem
    rw [cancelled] at mem
    obtain ⟨⟨n, bound, rfl⟩, gone⟩ := inv.reported id mem
    refine ⟨⟨n, by omega, rfl⟩, fun m hm => ?_⟩
    rcases found hm with old | ⟨same, -⟩
    · exact gone m old
    · have := msgId_injective same
      omega

lemma FlushInv.dispatch (selected : h.now.selected op = some m) :
    (∀ d ∈ h.dispatched, d.enqueueOrdinal < m.enqueueOrdinal) ∧ m.clientMsgId ∉ h.cancelled := by
  obtain ⟨idle, found, held, -⟩ := FlushState.of_selected inv.nodup selected
  constructor
  · intro d mem
    exact inv.ahead d mem _ m found held (by simp [idle])
  · intro mem
    exact (inv.reported _ mem).2 m found held

lemma FlushInv.order_perform (op : FlushOp α) :
    ((h.perform c op).dispatched.map PendingMessage.enqueueOrdinal).Pairwise (· < ·) := by
  rw [FlushHistory.perform, List.map_append, List.pairwise_append]
  refine ⟨inv.order, ?_, ?_⟩
  · cases h.now.selected op with
    | none => exact List.Pairwise.nil
    | some m => exact List.pairwise_singleton _ _
  · intro n old n' new
    obtain ⟨d, mem, rfl⟩ := List.mem_map.mp old
    cases selected : h.now.selected op with
    | none => simp [selected] at new
    | some m =>
      obtain rfl : n' = m.enqueueOrdinal := by simpa [selected] using new
      exact (inv.dispatch selected).1 d mem

lemma FlushInv.report (reported : id ∈ h.now.reported op) :
    (∃ m, h.now.find id = some m) ∧
      ∀ m, (h.now.step c op).find id = some m → m.status ≠ .held := by
  cases op with
  | cancelHeld asked =>
    obtain ⟨rfl, m, found, held⟩ := (FlushState.mem_reported_cancelHeld inv.nodup).mp reported
    refine ⟨⟨m, found⟩, fun m' after => ?_⟩
    rw [FlushState.find_cancelHeld inv.nodup, if_pos rfl, found] at after
    simp [Option.filter, held] at after
  | cancelAllOutstanding =>
    obtain ⟨m, found, outstanding⟩ := (FlushState.mem_reported_cancelAll inv.nodup).mp reported
    refine ⟨⟨m, found⟩, fun m' after => ?_⟩
    rw [FlushState.find_cancelAllOutstanding, found, Option.map_some, if_pos outstanding] at after
    cases after
    simp
  | _ => cases reported

/-- Every operation keeps the invariant. -/
lemma FlushInv.perform (op : FlushOp α) : FlushInv c (h.perform c op) := by
  by_cases send : ∃ content, op = .send content
  · obtain ⟨content, rfl⟩ := send
    exact inv.send content
  have notSend : ∀ content, op ≠ .send content := fun content e => send ⟨content, e⟩
  have nextId : (h.perform c op).now.pending.nextId = h.now.pending.nextId :=
    FlushState.nextId_step notSend
  have dispatched {d : PendingMessage α} (mem : d ∈ (h.perform c op).dispatched) :
      d ∈ h.dispatched ∨ h.now.selected op = some d := by
    simpa [FlushHistory.perform] using mem
  have before {id : String} {m' : PendingMessage α}
      (found : (h.perform c op).now.find id = some m') : ∃ m, h.now.find id = some m ∧
        m'.enqueueOrdinal = m.enqueueOrdinal ∧ (m'.status = .held → m.status = .held ∧
          (h.now.inFlight = some id → (h.perform c op).now.inFlight = some id)) :=
    FlushState.find_before inv.nodup notSend found
  refine ⟨FlushState.nodup_step inv.nodup notSend, ?_, ?_, ?_, ?_, ?_⟩
  · intro id m' found
    obtain ⟨m, old, ordinal, -⟩ := before found
    rw [ordinal, nextId]
    exact inv.named id m old
  · intro d mem
    rw [nextId]
    rcases dispatched mem with old | selected
    · exact inv.issued d old
    · exact (inv.named _ d (FlushState.of_selected inv.nodup selected).2.1).2
  · exact inv.order_perform op
  · intro d mem id m' found held landed
    obtain ⟨m, old, ordinal, holds⟩ := before found
    obtain ⟨held, flying⟩ := holds held
    rw [ordinal]
    rcases dispatched mem with earlier | selected
    · exact inv.ahead d earlier id m old held fun e => landed (flying e)
    · -- the head that is dispatched now is the first of the held ones, and in flight
      obtain ⟨-, head, -, least⟩ := FlushState.of_selected inv.nodup selected
      apply lt_of_le_of_ne (least id m old held)
      intro same
      apply landed
      have key : id = d.clientMsgId := by
        rw [(inv.named id m old).1, (inv.named _ d head).1, same]
      rw [key]
      exact FlushState.inFlight_of_selected selected
  · intro id mem
    rw [nextId]
    rw [FlushHistory.perform, List.mem_append] at mem
    rcases mem with old | new
    · obtain ⟨minted, gone⟩ := inv.reported id old
      refine ⟨minted, fun m' found held => ?_⟩
      obtain ⟨m, old, -, holds⟩ := before found
      exact gone m old (holds held).1
    · obtain ⟨⟨m, found⟩, gone⟩ := inv.report new
      obtain ⟨named, bound⟩ := inv.named id m found
      exact ⟨⟨m.enqueueOrdinal, bound, named⟩, gone⟩

end

/-- The message in flight is in the queue: held, or confirmed before its dispatch has returned. -/
def Flying (h : FlushHistory α) : Prop :=
  ∀ id, h.now.inFlight = some id →
    ∃ m, h.now.find id = some m ∧ (m.status = .held ∨ m.status = .accepted)

/-- A careful operation leaves the message in flight in the queue. -/
lemma Flying.perform (fly : Flying h) (inv : FlushInv c h) (careful : Careful h op) :
    Flying (h.perform c op) := by
  intro id flying
  rw [FlushHistory.perform] at flying ⊢
  cases op with
  | send content =>
    obtain ⟨m, found, status⟩ := fly id flying
    exact ⟨m, by rw [FlushState.find_send, found]; rfl, status⟩
  | flush edge gate =>
    rw [FlushState.find_flush]
    cases selected : h.now.selected (.flush edge gate) with
    | none =>
      rw [FlushState.step, selected] at flying
      exact fly id flying
    | some m =>
      obtain ⟨-, found, held, -⟩ := FlushState.of_selected inv.nodup selected
      rw [FlushState.inFlight_of_selected selected] at flying
      obtain rfl := Option.some.inj flying
      exact ⟨m, found, .inl held⟩
  | dispatchReturned isOk =>
    rw [FlushState.step] at flying
    cases inFlight : h.now.inFlight with
    | none =>
      simp only [inFlight] at flying
      cases flying
    | some landed =>
      simp only [inFlight] at flying
      cases flying
  | cancelHeld asked =>
    obtain ⟨m, found, status⟩ := fly id flying
    refine ⟨m, ?_, status⟩
    rw [FlushState.find_cancelHeld inv.nodup]
    split
    case isTrue same =>
      subst same
      have notHeld := careful m flying found
      simp [found, Option.filter, notHeld]
    case isFalse => exact found
  | cancelAllOutstanding =>
    obtain ⟨m, found, status⟩ := fly id flying
    have accepted := status.resolve_left (careful id m flying found)
    refine ⟨m, ?_, status⟩
    rw [FlushState.find_cancelAllOutstanding, found]
    simp [isOutstanding, accepted]
  | observe env =>
    obtain ⟨m, found, status⟩ := fly id flying
    cases accepted : env.event with
    | promptAccepted confirmed =>
      rw [FlushState.find_observe accepted]
      split
      · exact ⟨{ m with status := .accepted }, by rw [found]; rfl, .inr rfl⟩
      · exact ⟨m, found, status⟩
    | _ =>
      rw [FlushState.observe_other (by simp [accepted])]
      exact ⟨m, found, status⟩

lemma MsgStatus.Forward.refl (status : MsgStatus) : status.Forward status := by
  cases status <;> simp [MsgStatus.Forward]

section

variable (inv : FlushInv c h)
include inv

/-- A careful operation moves every status forward. -/
lemma forward_of_careful (fly : Flying h) (careful : Careful h op)
    (before : h.now.find id = some m) (after : (h.now.step c op).find id = some m') :
    m.status.Forward m'.status := by
  cases op with
  | send content =>
    rw [FlushState.find_send, before] at after
    cases after
    exact .refl _
  | flush edge gate =>
    rw [FlushState.find_flush, before] at after
    cases after
    exact .refl _
  | dispatchReturned isOk =>
    rw [FlushState.find_dispatchReturned, before] at after
    split at after
    case isTrue flying =>
      obtain ⟨m1, found, status⟩ := fly id flying
      cases before.symm.trans found
      cases after
      rw [status.resolve_right (careful id m flying before)]
      exact trivial
    case isFalse =>
      cases after
      exact .refl _
  | cancelHeld asked =>
    rw [FlushState.find_cancelHeld inv.nodup, before] at after
    split at after
    · obtain ⟨same, -⟩ := Option.filter_eq_some_iff.mp after
      cases same
      exact .refl _
    · cases after
      exact .refl _
  | cancelAllOutstanding =>
    rw [FlushState.find_cancelAllOutstanding, before] at after
    cases after
    cases status : m.status <;> simp [isOutstanding, status, MsgStatus.Forward]
  | observe env =>
    cases accepted : env.event with
    | promptAccepted confirmed =>
      rw [FlushState.find_observe accepted, before] at after
      split at after
      case isTrue same =>
        subst same
        cases after
        have unended := careful confirmed m accepted before
        cases status : m.status <;> simp_all [MsgStatus.Forward]
      case isFalse =>
        cases after
        exact .refl _
    | _ =>
      rw [FlushState.observe_other (by simp [accepted]), before] at after
      cases after
      exact .refl _

lemma notInFlight_of_careful (fly : Flying h) (careful : Careful h op)
    (reported : id ∈ h.now.reported op) : h.now.inFlight ≠ some id := by
  intro flying
  obtain ⟨m, found, status⟩ := fly id flying
  cases op with
  | cancelHeld asked =>
    obtain ⟨rfl, m1, found1, held⟩ := (FlushState.mem_reported_cancelHeld inv.nodup).mp reported
    exact careful m1 flying found1 held
  | cancelAllOutstanding =>
    obtain ⟨m1, found1, outstanding⟩ := (FlushState.mem_reported_cancelAll inv.nodup).mp reported
    cases found.symm.trans found1
    have accepted := status.resolve_left (careful id m flying found)
    simp [isOutstanding, accepted] at outstanding
  | _ => cases reported

lemma kept_perform (before : h.now.find id = some m)
    (after : (h.now.step c op).find id = none) : id ∈ h.now.reported op := by
  cases op with
  | send content => simp [before] at after
  | flush edge gate => simp [before] at after
  | dispatchReturned isOk =>
    rw [FlushState.find_dispatchReturned, before] at after
    split at after <;> cases after
  | cancelHeld asked =>
    rw [FlushState.mem_reported_cancelHeld inv.nodup]
    rw [FlushState.find_cancelHeld inv.nodup, before] at after
    split at after
    case isTrue same =>
      refine ⟨same, m, before, ?_⟩
      by_contra notHeld
      simp [Option.filter, notHeld] at after
    case isFalse => cases after
  | cancelAllOutstanding => simp [before] at after
  | observe env =>
    cases accepted : env.event with
    | promptAccepted confirmed =>
      rw [FlushState.find_observe accepted, before] at after
      split at after <;> cases after
    | _ =>
      rw [FlushState.observe_other (by simp [accepted]), before] at after
      cases after

lemma lawful_of_careful (fly : Flying h) (careful : Careful h op) : Lawful c h op where
  order := inv.order_perform op
  afterCancel _ selected := (inv.dispatch selected).2
  notInFlight _ := notInFlight_of_careful inv fly careful
  forward _ _ _ := forward_of_careful inv fly careful
  kept _ _ := kept_perform inv

lemma careful_of_lawful (lawful : Lawful c h op) : Careful h op := by
  cases op with
  | send | flush => exact trivial
  | dispatchReturned isOk =>
    intro id m flying found accepted
    have forward := lawful.forward id m _ found (by
      rw [FlushState.find_dispatchReturned, if_pos flying, found]
      rfl)
    rw [accepted] at forward
    cases isOk <;> cases forward
  | cancelHeld asked =>
    intro m flying found held
    refine lawful.notInFlight asked ?_ flying
    exact (FlushState.mem_reported_cancelHeld inv.nodup).mpr ⟨rfl, m, found, held⟩
  | cancelAllOutstanding =>
    intro id m flying found held
    refine lawful.notInFlight id ?_ flying
    exact (FlushState.mem_reported_cancelAll inv.nodup).mpr ⟨m, found, by simp [isOutstanding, held]⟩
  | observe env =>
    intro id m accepted found
    have forward := lawful.forward id m _ found (by
      rw [FlushState.find_observe accepted, if_pos rfl, found]
      rfl)
    constructor <;> intro status <;> rw [status] at forward <;> cases forward

end

/-- In every interleaving, the engine keeps its promises throughout if and only if every operation is
careful about the window of a dispatch and about messages that have ended. -/
theorem flush_lawful_iff (c : ConversationSession) (ops : List (FlushOp α)) :
    LTS.EnabledAll (Lawful c) (FlushHistory.perform c) .new ops ↔
      LTS.EnabledAll Careful (FlushHistory.perform c) .new ops := by
  apply LTS.enabledAll_iff (Q := fun h => FlushInv c h ∧ Flying h)
  · rintro h op ⟨inv, fly⟩
    refine ⟨⟨careful_of_lawful inv, lawful_of_careful inv fly⟩, fun careful => ?_⟩
    exact ⟨inv.perform op, fly.perform inv careful⟩
  · refine ⟨.new, fun id flying => ?_⟩
    cases flying

/-- The message being dispatched is cancelled. -/
def ghostTurn : List (FlushOp String) :=
  [.send "hello", .flush false true, .cancelHeld "m-1"]

/-- `cancel_held` answers that it has removed a message whose dispatch is under way. -/
theorem ghostTurn_cancels_inFlight :
    ¬ LTS.EnabledAll (Lawful ⟨"m"⟩) (FlushHistory.perform ⟨"m"⟩) .new ghostTurn := by
  intro lawful
  exact lawful.2.2.1.notInFlight "m-1" (by decide) (by decide)

end KiCore.Session

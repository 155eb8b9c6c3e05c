import KiCore.Lib.Pool
import KiCore.Realtime.Manager

/-!
# Removed connections

To remove a connection drops the sender of its queue and no more: the receive loop goes on, and ends
only if the client closes the socket, which it does if a close frame was queued before the removal.
`removed_connections_closed` says on which runs a removed connection is really closed; the frames of the
file system stay in order unless another push slips in between a failed one and the removal.
-/

namespace KiCore.Realtime

open KiCore.Lib

def Message.fsFrame : Message → Option String
  | .text (.ordered .fs frame) => some frame
  | _ => none

def fsFrames (messages : List Message) : List String := messages.filterMap Message.fsFrame

/-- What an entry of the queue is written as. -/
def WsOutbound.messages : WsOutbound → List Message
  | .text body => [.text body]
  | .close code reason => [.close code reason]
  | .textThenClose body code reason => [.text body, .close code reason]

namespace Connection

variable {conn : Connection} {outbound : WsOutbound} {message : Message} {frame : ClientFrame}
  {stream : Stream} {now : Nat}

/-- Nothing is left to do for the send loop, nor for a client that answers a close frame, nor to read. -/
def Settled (conn : Connection) : Prop :=
  conn.sendLoop = .ended ∧ conn.written = [] ∧ conn.sent = [] ∧ conn.broken = false

/-- A frame that is read moves nothing but the loop. -/
structure Deaf (conn after : Connection) : Prop where
  routed : after.routed = conn.routed
  queue : after.queue = conn.queue
  client : after.client = none

def closePending (conn : Connection) : Bool :=
  match conn.sendLoop with
  | .running => conn.queue.any fun outbound => outbound.messages.any Message.closes
  | .closing _ _ => true
  | .ended => false

/-- A close frame is on its way in either direction, or the socket has broken. -/
def Ending (conn : Connection) : Prop :=
  conn.broken ∨ .close ∈ conn.sent ∨ conn.closeWritten ∨ conn.closePending

instance : Decidable conn.Ending := by
  unfold Ending
  infer_instance

/-- The next frame does not go to a router. -/
def Unrouted (conn : Connection) : Prop :=
  match conn.sent with
  | .text name _ _ :: _ => ¬ routes name
  | _ => True

instance : Decidable conn.Unrouted := by
  unfold Unrouted
  split <;> infer_instance

def taken (conn : Connection) : List String :=
  fsFrames (conn.received ++ conn.written ++ conn.queue.flatMap WsOutbound.messages)

structure Sound (conn : Connection) : Prop where
  closed : conn.clientClosed → conn.recvLoop = .reading → .close ∈ conn.sent
  answered : conn.closeWritten → conn.recvLoop = .reading →
    conn.broken ∨ .close ∈ conn.sent ∨ conn.written.any Message.closes
  ending : conn.client = none ∨ conn.sendLoop = .ended → conn.recvLoop = .reading → conn.Ending
  gapless : conn.taken <+: conn.pushed
  complete : conn.client ≠ none → .fs ∉ conn.dropping → conn.sendLoop ≠ .ended → conn.taken = conn.pushed

lemma sound_open {userId token : String} : Sound (open_ userId token now) where
  closed := nofun
  answered := nofun
  ending := by simp [open_]
  gapless := List.nil_prefix
  complete _ _ _ := rfl

lemma Sound.settled (h : Sound conn) (removed : conn.client = none) (settled : conn.Settled) :
    conn.recvLoop ≠ .reading := by
  obtain ⟨ended, written, sent, whole⟩ := settled
  intro reading
  obtain broken | closing | closed | pending := h.ending (.inl removed) reading
  · simp [whole] at broken
  · simp [sent] at closing
  · have := h.answered closed reading
    simp [whole, sent, written] at this
  · simp [closePending, ended] at pending

lemma fsFrames_append (xs ys : List Message) : fsFrames (xs ++ ys) = fsFrames xs ++ fsFrames ys :=
  List.filterMap_append

lemma Sound.received (h : Sound conn) : fsFrames conn.received <+: conn.pushed := by
  refine List.IsPrefix.trans ?_ h.gapless
  rw [taken, List.append_assoc, fsFrames_append]
  exact List.prefix_append _ _

lemma Sound.removeClient (h : Sound conn) (ending : conn.recvLoop = .reading → conn.Ending) :
    Sound conn.removeClient where
  closed := h.closed
  answered := h.answered
  ending _ := ending
  gapless := h.gapless
  complete held := absurd rfl held

lemma Sound.condemn (h : Sound conn) (condemned : Bool) : Sound { conn with condemned } :=
  ⟨h.closed, h.answered, h.ending, h.gapless, h.complete⟩

def queued (conn : Connection) (outbound : WsOutbound) : Connection :=
  { conn with queue := conn.queue ++ [outbound] }

lemma taken_queued : (conn.queued outbound).taken = conn.taken ++ fsFrames outbound.messages := by
  rw [taken, queued, taken, List.flatMap_append, ← List.append_assoc, fsFrames_append,
    List.flatMap_singleton]

lemma Ending.queued (h : conn.Ending) : (conn.queued outbound).Ending := by
  obtain broken | closing | closed | pending := h
  · exact .inl broken
  · exact .inr (.inl closing)
  · exact .inr (.inr (.inl closed))
  · refine .inr (.inr (.inr ?_))
    unfold closePending at pending ⊢
    cases sendLoop : conn.sendLoop <;> simp_all [Connection.queued]

lemma trySend_cases (conn : Connection) (outbound : WsOutbound) :
    conn.trySend outbound = (conn.queued outbound, .ok) ∧ conn.sendLoop ≠ .ended ∨
    conn.trySend outbound = (conn, .full) ∨
    conn.trySend outbound = (conn, .closed) ∧ conn.sendLoop = .ended := by
  unfold trySend
  split_ifs with room ended
  · exact .inl ⟨rfl, by simp_all [hasRoom]⟩
  · exact .inr (.inr ⟨rfl, ended⟩)
  · exact .inr (.inl rfl)

lemma Sound.queued (h : Sound conn) (plain : fsFrames outbound.messages = []) :
    Sound (conn.queued outbound) where
  closed := h.closed
  answered := h.answered
  ending gone reading := (h.ending gone reading).queued
  gapless := by
    rw [taken_queued, plain, List.append_nil]
    exact h.gapless
  complete held kept running := by
    rw [taken_queued, plain, List.append_nil]
    exact h.complete held kept running

lemma Sound.trySend (h : Sound conn) (plain : fsFrames outbound.messages = []) :
    Sound (conn.trySend outbound).1 := by
  obtain ⟨same, -⟩ | same | ⟨same, -⟩ := trySend_cases conn outbound
  · rw [same]
    exact h.queued plain
  · rwa [same]
  · rwa [same]

lemma Sound.sendTo (h : Sound conn) {body : ServerText} (plain : Message.fsFrame (.text body) = none) :
    Sound (conn.sendTo body) := by
  unfold Connection.sendTo
  cases conn.client with
  | none => exact h
  | some info =>
    have outbound : fsFrames (WsOutbound.text body).messages = [] := List.filterMap_cons_none plain
    obtain ⟨same, -⟩ | same | ⟨same, ended⟩ := trySend_cases conn (.text body)
    · rw [same]
      exact h.queued outbound
    · rw [same]
      exact h
    · rw [same]
      exact h.removeClient (h.ending (.inr ended))

def counted (conn : Connection) (stream : Stream) (frame : String) : Connection :=
  if stream = .fs then { conn with pushed := conn.pushed ++ [frame] } else conn

lemma push_cases (conn : Connection) (stream : Stream) (frame : String) :
    conn.client = none ∧ conn.push stream frame = conn.counted stream frame ∨
    conn.client ≠ none ∧ conn.hasRoom ∧
      conn.push stream frame = (conn.counted stream frame).queued (.text (.ordered stream frame)) ∨
    conn.push stream frame = { conn.counted stream frame with dropping := stream :: conn.dropping } := by
  unfold Connection.push trySend hasRoom
  cases stream <;> cases held : conn.client <;> simp only [counted, held] <;> split_ifs <;>
    simp_all [Connection.queued]

section

variable (h : Sound conn)
include h

lemma Sound.missed (stream : Stream) (frame : String) (dropping : List Stream)
    (gone : conn.client = none ∨ dropping = stream :: conn.dropping) :
    Sound { conn.counted stream frame with dropping } := by
  cases stream with
  | scm =>
    refine ⟨h.closed, h.answered, h.ending, h.gapless, fun held kept => h.complete held fun mem => kept ?_⟩
    obtain removed | rfl := gone
    · exact absurd removed held
    · exact List.mem_cons_of_mem _ mem
  | fs =>
    refine ⟨h.closed, h.answered, h.ending, h.gapless.trans (List.prefix_append _ _), fun held kept => ?_⟩
    obtain removed | rfl := gone
    · exact absurd removed held
    · exact absurd List.mem_cons_self kept

lemma Sound.push {frame : String}
    (alone : .fs ∈ conn.dropping → stream = .fs → conn.client ≠ none → conn.hasRoom = false) :
    Sound (conn.push stream frame) := by
  obtain ⟨removed, pushed⟩ | ⟨held, room, pushed⟩ | pushed := push_cases conn stream frame
  · rw [pushed]
    have missed := h.missed stream frame conn.dropping (.inl removed)
    cases stream <;> exact missed
  · rw [pushed]
    cases stream with
    | scm => exact h.queued rfl
    | fs =>
      have kept : .fs ∉ conn.dropping := fun mem => by simp [alone mem rfl held] at room
      have same : conn.taken = conn.pushed := h.complete held kept (by simp_all [hasRoom])
      have taken : ((conn.counted .fs frame).queued (.text (.ordered .fs frame))).taken =
          conn.pushed ++ [frame] := by
        rw [taken_queued, ← same]
        rfl
      refine ⟨h.closed, h.answered, fun gone reading => (h.ending gone reading).queued, ?_, ?_⟩
      · rw [taken]
        exact List.prefix_rfl
      · exact fun _ _ _ => taken
  · rw [pushed]
    exact h.missed stream frame _ (.inr rfl)

lemma Sound.drop
    (ending : conn.dropping ≠ [] → conn.recvLoop = .reading → conn.Ending) : Sound conn.drop := by
  unfold Connection.drop
  split_ifs with kept
  · exact h
  · have removed := h.removeClient (ending kept)
    exact ⟨removed.closed, removed.answered, removed.ending, removed.gapless, fun held => absurd rfl held⟩

lemma Sound.removeCondemned
    (ending : conn.condemned → conn.recvLoop = .reading → conn.Ending) : Sound conn.removeCondemned := by
  unfold Connection.removeCondemned
  split_ifs with condemned
  · exact (h.removeClient (ending condemned)).condemn false
  · exact h

lemma Sound.disconnect {userId reason : String} : Sound (conn.disconnect userId reason) := by
  unfold Connection.disconnect
  split
  · exact h
  · split_ifs
    · exact (h.trySend rfl).condemn true
    · exact h

lemma Sound.scan {body : ServerText} (plain : Message.fsFrame (.text body) = none) :
    Sound (match conn.trySend (.text body) with
      | (conn, .closed) => { conn with condemned := true }
      | (conn, _) => conn) := by
  have sent : Sound (conn.trySend (.text body)).1 := h.trySend (List.filterMap_cons_none plain)
  split
  case h_1 conn' same =>
    rw [same] at sent
    exact sent.condemn true
  case h_2 conn' _ _ same =>
    rw [same] at sent
    exact sent

lemma Sound.broadcast {userId name : String} : Sound (conn.broadcast userId name) := by
  unfold Connection.broadcast
  split
  · exact h
  · split_ifs
    · exact h.scan rfl
    · exact h

lemma Sound.heartbeatTick {expired : List String} : Sound (conn.heartbeatTick now expired) := by
  unfold Connection.heartbeatTick
  split
  · exact h
  · split_ifs
    · exact (h.trySend rfl).condemn true
    · exact (h.trySend rfl).condemn true
    · exact h.scan rfl

lemma Sound.stopSending (ending : conn.recvLoop = .reading → conn.stopSending.Ending) :
    Sound conn.stopSending where
  closed := h.closed
  answered := h.answered
  ending _ := ending
  gapless := by
    refine List.IsPrefix.trans ?_ h.gapless
    simp only [taken, Connection.stopSending, List.flatMap_nil, List.append_nil]
    rw [fsFrames_append _ (conn.queue.flatMap _)]
    exact List.prefix_append _ _
  complete _ _ running := absurd rfl running

end

/-- An entry of the queue goes to the socket. -/
def wrote (conn : Connection) (message : Message) (queue : List WsOutbound) (sendLoop : SendLoop) :
    Connection :=
  { conn with queue, written := conn.written ++ [message], sendLoop }

lemma closeWritten_wrote {queue : List WsOutbound} {sendLoop : SendLoop} :
    (conn.wrote message queue sendLoop).closeWritten = (conn.closeWritten || message.closes) := by
  simp [closeWritten, wrote, Bool.or_assoc]

lemma Sound.wrote (h : Sound conn) {queue : List WsOutbound} {sendLoop : SendLoop}
    (clear : ¬ (conn.broken || conn.closeWritten)) (running : conn.sendLoop ≠ .ended ∧ sendLoop ≠ .ended)
    (same : fsFrames (message :: queue.flatMap WsOutbound.messages) =
      fsFrames (conn.queue.flatMap WsOutbound.messages))
    (pending : conn.closePending → message.closes ∨ (conn.wrote message queue sendLoop).closePending) :
    Sound (conn.wrote message queue sendLoop) := by
  simp only [Bool.or_eq_true, not_or] at clear
  obtain ⟨whole, open_⟩ := clear
  have taken : (conn.wrote message queue sendLoop).taken = conn.taken := by
    rw [Connection.taken, Connection.taken, fsFrames_append _ (conn.queue.flatMap _), ← same,
      ← fsFrames_append, Connection.wrote]
    simp
  constructor
  case closed => exact h.closed
  case answered =>
    intro closed _
    rw [closeWritten_wrote, Bool.or_eq_true] at closed
    exact .inr (.inr (by simp [Connection.wrote, closed.resolve_left open_]))
  case ending =>
    intro gone reading
    obtain broken | closing | closed | pends := h.ending (gone.imp_right fun e => absurd e running.2) reading
    · exact absurd broken whole
    · exact .inr (.inl closing)
    · exact absurd closed open_
    · obtain closes | pends := pending pends
      · exact .inr (.inr (.inl (by rw [closeWritten_wrote, closes, Bool.or_true])))
      · exact .inr (.inr (.inr pends))
  case gapless =>
    rw [taken]
    exact h.gapless
  case complete =>
    intro held kept _
    rw [taken]
    exact h.complete held kept running.1

lemma write_cases (conn : Connection) (message : Message) (sendLoop : SendLoop) (queue : List WsOutbound) :
    { conn with queue }.write message sendLoop = conn.wrote message queue sendLoop ∧
      ¬ (conn.broken || conn.closeWritten) ∨
    { conn with queue }.write message sendLoop = conn.stopSending ∧
      (conn.broken ∨ conn.closeWritten) := by
  unfold write
  split
  case isTrue blocked => exact .inr ⟨rfl, Bool.or_eq_true_iff.mp blocked⟩
  case isFalse clear => exact .inl ⟨rfl, clear⟩

section

variable (h : Sound conn)
include h

lemma Sound.write (queue : List WsOutbound) {sendLoop : SendLoop}
    (running : conn.sendLoop ≠ .ended ∧ sendLoop ≠ .ended)
    (same : fsFrames (message :: queue.flatMap WsOutbound.messages) =
      fsFrames (conn.queue.flatMap WsOutbound.messages))
    (pending : conn.closePending → message.closes ∨ (conn.wrote message queue sendLoop).closePending) :
    Sound ({ conn with queue }.write message sendLoop) := by
  obtain ⟨wrote, clear⟩ | ⟨stopped, blocked⟩ := write_cases conn message sendLoop queue
  · rw [wrote]
    exact h.wrote clear running same pending
  · rw [stopped]
    exact h.stopSending fun _ => blocked.imp_right fun closed => .inr (.inl closed)

lemma Sound.sendStep : Sound conn.sendStep := by
  unfold Connection.sendStep
  cases sendLoop : conn.sendLoop with
  | ended => exact h
  | closing code reason => exact h.write conn.queue (by simp [sendLoop]) rfl fun _ => .inl rfl
  | running =>
    cases queue : conn.queue with
    | nil =>
      dsimp only
      split_ifs with gone
      · refine h.stopSending fun reading => ?_
        -- nothing was left in the queue to close the socket
        obtain broken | closing | closed | pending := h.ending (.inl gone) reading
        · exact .inl broken
        · exact .inr (.inl closing)
        · exact .inr (.inr (.inl closed))
        · simp [closePending, sendLoop, queue] at pending
      · exact h
    | cons outbound rest =>
      cases outbound with
      | text body =>
        refine h.write rest (by simp [sendLoop]) (by rw [queue]; rfl) fun pending => .inr ?_
        simp only [closePending, sendLoop, queue] at pending
        exact pending
      | close code reason => exact h.write rest (by simp [sendLoop]) (by rw [queue]; rfl) fun _ => .inl rfl
      | textThenClose body code reason =>
        exact h.write rest (by simp [sendLoop]) (by rw [queue]; rfl) fun _ => .inr rfl

lemma Sound.leave (recvLoop : RecvLoop) (sent : List ClientFrame)
    (left : recvLoop ≠ .reading) : Sound { conn with recvLoop, sent } where
  closed _ reading := absurd reading left
  answered _ reading := absurd reading left
  ending _ reading := absurd reading left
  gapless := h.gapless
  complete := h.complete

lemma Sound.updateLastPing : Sound (conn.updateLastPing now) where
  closed := h.closed
  answered := h.answered
  ending gone := h.ending (gone.imp_left Option.map_eq_none_iff.mp)
  gapless := h.gapless
  complete held := h.complete fun gone => held (Option.map_eq_none_iff.mpr gone)

lemma Sound.handleTextMessage {name : String} {id : Option String}
    {properties : List String} : Sound (conn.handleTextMessage now name id properties) := by
  unfold Connection.handleTextMessage
  split_ifs
  · exact h.sendTo rfl
  · exact h.updateLastPing
  · exact h.sendTo rfl
  · exact ⟨h.closed, h.answered, h.ending, h.gapless, h.complete⟩
  · exact h.sendTo rfl

lemma Sound.take {rest : List ClientFrame} (sent : conn.sent = frame :: rest)
    (stays : frame ≠ .close) : Sound { conn with sent := rest } := by
  have closing : .close ∈ conn.sent → .close ∈ rest := by
    rw [sent, List.mem_cons]
    exact fun mem => mem.resolve_left (Ne.symm stays)
  exact ⟨fun closed reading => closing (h.closed closed reading),
    fun closed reading => (h.answered closed reading).imp_right (Or.imp_left closing),
    fun gone reading => (h.ending gone reading).imp_right (Or.imp_left closing), h.gapless, h.complete⟩

lemma Sound.recvFrame {rest : List ClientFrame} (sent : conn.sent = frame :: rest) :
    Sound ({ conn with sent := rest }.recvFrame now frame) := by
  cases frame with
  | malformed => exact (h.take sent nofun).sendTo rfl
  | text name id properties => exact (h.take sent nofun).handleTextMessage
  | other => exact h.take sent nofun
  | close => exact h.leave .left rest nofun

lemma Sound.recvStep : Sound (conn.recvStep now) := by
  unfold Connection.recvStep
  split
  case h_1 reading =>
    split
    case h_1 frame rest sent => exact h.recvFrame sent
    case h_2 =>
      split_ifs
      · exact h.leave .left conn.sent nofun
      · exact h
  case h_2 left =>
    have stopped := h.stopSending (by simp [left])
    exact stopped.leave .aborted conn.sent nofun
  case h_3 aborted =>
    have removed := h.removeClient (by simp [aborted])
    exact removed.leave .ended conn.sent nofun
  case h_4 => exact h

lemma Sound.clientSend : Sound (conn.clientSend frame) where
  closed closed reading := by
    rw [Connection.clientSend, Bool.or_eq_true, decide_eq_true_iff] at closed
    rw [Connection.clientSend, List.mem_append, List.mem_singleton]
    exact closed.imp (h.closed · reading) Eq.symm
  answered closed reading := (h.answered closed reading).imp_right (Or.imp_left (List.mem_append_left _))
  ending gone reading := (h.ending gone reading).imp_right (Or.imp_left (List.mem_append_left _))
  gapless := h.gapless
  complete := h.complete

end

def read (conn : Connection) (message : Message) (rest : List Message) : Connection :=
  { conn with written := rest, received := conn.received ++ [message] }

lemma closeWritten_read {rest : List Message} (written : conn.written = message :: rest) :
    (conn.read message rest).closeWritten = conn.closeWritten := by
  simp [closeWritten, read, written]

lemma taken_read {rest : List Message} (written : conn.written = message :: rest) :
    (conn.read message rest).taken = conn.taken := by
  simp [taken, read, written]

lemma Sound.read (h : Sound conn) {rest : List Message} (written : conn.written = message :: rest)
    (closing : message.closes → conn.recvLoop = .reading → .close ∈ conn.sent) :
    Sound (conn.read message rest) where
  closed := h.closed
  answered closed reading := by
    rw [closeWritten_read written] at closed
    obtain broken | sent | left := h.answered closed reading
    · exact .inl broken
    · exact .inr (.inl sent)
    · rw [written, List.any_cons, Bool.or_eq_true] at left
      exact .inr (left.imp (closing · reading) id)
  ending gone reading := by
    rw [Ending, closeWritten_read written]
    exact h.ending gone reading
  gapless := by
    rw [taken_read written]
    exact h.gapless
  complete := by
    rw [taken_read written]
    exact h.complete

lemma Sound.clientReceive (h : Sound conn) : Sound conn.clientReceive := by
  unfold Connection.clientReceive
  split
  case h_1 => exact h
  case h_2 message rest written =>
    dsimp only
    split_ifs with closes
    · -- the answer may as well come first
      have answered : .close ∈ (conn.clientSend .close).sent := by simp [Connection.clientSend]
      exact (h.clientSend : Sound (conn.clientSend .close)).read written fun _ _ => answered
    · refine h.read written fun closing reading => h.closed ?_ reading
      simpa [closing] using closes

lemma Sound.break (h : Sound conn) : Sound { conn with broken := true } :=
  ⟨h.closed, fun _ _ => .inl rfl, fun _ _ => .inl rfl, h.gapless, h.complete⟩

variable (removed : conn.client = none)
include removed

lemma sendTo_removed (body : ServerText) : conn.sendTo body = conn := by
  rw [sendTo, removed]

lemma Deaf.refl : conn.Deaf conn := ⟨rfl, rfl, removed⟩

lemma deaf_handleTextMessage {name : String} {id : Option String}
    {properties : List String} (unrouted : ¬ routes name) :
    conn.Deaf (conn.handleTextMessage now name id properties) := by
  unfold handleTextMessage
  split_ifs
  · rw [sendTo_removed removed]
    exact .refl removed
  · exact ⟨rfl, rfl, Option.map_eq_none_iff.mpr removed⟩
  · rw [handleSubscribeShowOpen, sendTo_removed removed]
    exact .refl removed
  · rw [sendTo_removed removed]
    exact .refl removed

lemma deaf_recvFrame
    (unrouted : ∀ name id properties, frame = .text name id properties → ¬ routes name) :
    conn.Deaf (conn.recvFrame now frame) := by
  cases frame with
  | malformed =>
    rw [recvFrame, sendTo_removed removed]
    exact .refl removed
  | text name id properties => exact deaf_handleTextMessage removed (unrouted name id properties rfl)
  | other => exact .refl removed
  | close => exact ⟨rfl, rfl, removed⟩

lemma deaf_recvStep (reading : conn.recvLoop = .reading)
    (unrouted : conn.Unrouted) : conn.Deaf (conn.recvStep now) := by
  unfold recvStep
  split
  case h_1 =>
    split
    case h_1 frame rest sent =>
      have deaf : Deaf { conn with sent := rest } ({ conn with sent := rest }.recvFrame now frame) := by
        refine deaf_recvFrame removed ?_
        rintro name id properties rfl
        rwa [Unrouted, sent] at unrouted
      exact ⟨deaf.routed, deaf.queue, deaf.client⟩
    case h_2 =>
      split_ifs
      · exact ⟨rfl, rfl, removed⟩
      · exact .refl removed
  case h_2 left => cases reading.symm.trans left
  case h_3 aborted => cases reading.symm.trans aborted
  case h_4 => exact .refl removed

/-- What the loops of a connection and its client have yet to do. -/
def left (conn : Connection) : Nat :=
  (match conn.sendLoop with | .running => 1 | .closing _ _ => 4 | .ended => 0) +
    3 * (conn.queue.flatMap WsOutbound.messages).length + 2 * conn.written.length + conn.sent.length +
    (match conn.recvLoop with | .reading => 3 | .left => 2 | .aborted => 1 | .ended => 0)

/-- The steps of its loops and of its client. -/
def own (now : Nat) : List (Connection → Connection) :=
  [sendStep, clientReceive, (·.recvStep now)]

lemma sendStep_left (running : conn.sendLoop ≠ .ended) : conn.sendStep.left < conn.left := by
  unfold sendStep
  split
  case h_1 ended => exact absurd ended running
  case h_2 closing =>
    unfold write
    split_ifs <;> simp [left, stopSending, closing]
    omega
  case h_3 running =>
    split
    case h_1 queue => simp [removed, left, stopSending, running, queue]
    all_goals
      next queue =>
        unfold write
        split_ifs <;> simp [left, stopSending, running, queue, WsOutbound.messages]
        omega

omit removed in
lemma clientReceive_left (written : conn.written ≠ []) : conn.clientReceive.left < conn.left := by
  unfold clientReceive
  split
  case h_1 nothing => exact absurd nothing written
  case h_2 message rest written =>
    dsimp only
    split_ifs <;> simp [left, clientSend, written]
    omega

lemma recvFrame_left (reading : conn.recvLoop = .reading) :
    (conn.recvFrame now frame).left ≤ conn.left := by
  cases frame with
  | malformed => rw [recvFrame, sendTo_removed removed]
  | text name id properties =>
    unfold recvFrame handleTextMessage handleSubscribeShowOpen
    simp only [sendTo_removed removed]
    split_ifs <;> exact le_rfl
  | other => exact le_rfl
  | close => simp [recvFrame, left, reading]

lemma recvStep_left (moves : conn.recvLoop = .reading → conn.sent ≠ [] ∨ conn.broken)
    (unfinished : conn.recvLoop ≠ .ended) : (conn.recvStep now).left < conn.left := by
  unfold recvStep
  split
  case h_1 reading =>
    split
    case h_1 frame rest sent =>
      have step : ({ conn with sent := rest }.recvFrame now frame).left ≤ { conn with sent := rest }.left :=
        recvFrame_left removed reading
      have taken : { conn with sent := rest }.left < conn.left := by simp [left, sent]
      exact step.trans_lt taken
    case h_2 sent =>
      rw [if_pos ((moves reading).resolve_left (absurd sent))]
      simp [left, reading]
  case h_2 leaving =>
    simp [left, stopSending, leaving]
  case h_3 aborted => simp [left, removeClient, aborted]
  case h_4 ended => exact absurd ended unfinished

lemma own_left : ∀ step ∈ own now, step conn = conn ∨ (step conn).left < conn.left := by
  simp only [own, List.forall_mem_cons, List.not_mem_nil, false_imp_iff, implies_true, and_true]
  refine ⟨?_, ?_, ?_⟩
  · by_cases ended : conn.sendLoop = .ended
    · exact .inl (by rw [sendStep, ended])
    · exact .inr (sendStep_left removed ended)
  · by_cases nothing : conn.written = []
    · exact .inl (by rw [clientReceive, nothing])
    · exact .inr (clientReceive_left nothing)
  · by_cases idle : conn.recvLoop = .ended ∨ conn.recvLoop = .reading ∧ conn.sent = [] ∧ conn.broken = false
    · refine .inl ?_
      obtain ended | ⟨reading, sent, whole⟩ := idle
      · rw [recvStep, ended]
      · simp [recvStep, reading, sent, whole]
    · refine .inr (recvStep_left removed ?_ ?_) <;> grind

lemma Sound.advances (h : Sound conn) (reading : conn.recvLoop = .reading) :
    ∃ step ∈ own now, step conn ≠ conn := by
  by_contra still
  have same : ∀ step ∈ own now, ¬ (step conn).left < conn.left := fun step mem less =>
    still ⟨step, mem, fun rest => less.ne (congrArg left rest)⟩
  have recv (moves : conn.sent ≠ [] ∨ conn.broken) : False :=
    same (·.recvStep now) (by simp [own]) (recvStep_left removed (fun _ => moves) (by simp [reading]))
  refine h.settled removed ⟨?_, ?_, ?_, ?_⟩ reading
  · by_contra running
    exact same _ (.head _) (sendStep_left removed running)
  · by_contra written
    exact same _ (.tail _ (.head _)) (clientReceive_left written)
  · by_contra sent
    exact recv (.inl sent)
  · by_contra broken
    exact recv (.inr (by simpa using broken))

end Connection

namespace WebSocketManager

open Connection

variable {s : WebSocketManager} {e : RealtimeEvent}

structure ReallyClosed (s : WebSocketManager) (e : RealtimeEvent) : Prop where
  /-- nothing that a removed client writes is routed, answered or taken for a sign of life -/
  deaf : ∀ c conn after, e = .recvLoop c → s.connections[c]? = some conn → conn.client = none →
    conn.recvLoop = .reading → (s.next e).connections[c]? = some after → conn.Deaf after
  /-- its receive loop ends: a step of its own that moves it brings it nearer to rest, while it reads
  there is one, and at rest it does not read -/
  moves : ∀ conn ∈ (s.next e).connections, conn.client = none → ∀ now, ∀ step ∈ own now,
    step conn = conn ∨ (step conn).left < conn.left
  advances : ∀ conn ∈ (s.next e).connections, conn.client = none → conn.recvLoop = .reading →
    ∀ now, ∃ step ∈ own now, step conn ≠ conn
  ends : ∀ conn ∈ (s.next e).connections, conn.client = none → conn.Settled → conn.recvLoop ≠ .reading
  gapless : ∀ conn ∈ (s.next e).connections, fsFrames conn.received <+: conn.pushed

/-- A connection is removed only if its socket is closed as well; no other frame is pushed between a push
that fails and the removal. -/
def Heeded (s : WebSocketManager) : RealtimeEvent → Prop
  | .recvLoop c => ∀ conn ∈ s.connections[c]?, conn.client = none → conn.recvLoop = .reading → conn.Unrouted
  | .push c stream _ => ∀ conn ∈ s.connections[c]?, .fs ∈ conn.dropping → stream = .fs →
    conn.client ≠ none → conn.hasRoom = false
  | .drop c => ∀ conn ∈ s.connections[c]?, conn.dropping ≠ [] → conn.recvLoop = .reading → conn.Ending
  | .removeCondemned c => ∀ conn ∈ s.connections[c]?, conn.condemned → conn.recvLoop = .reading → conn.Ending
  | _ => True

instance : Decidable (s.Heeded e) := by
  unfold Heeded
  split <;> infer_instance

def Tracked (s : WebSocketManager) : Prop := ∀ conn ∈ s.connections, conn.Sound

lemma Tracked.on (h : Tracked s) {c : Nat} {f : Connection → Connection}
    (keeps : ∀ conn, s.connections[c]? = some conn → conn.Sound → (f conn).Sound) : Tracked (s.on c f) :=
  Pool.forall_modify h keeps

lemma Tracked.all (h : Tracked s) {f : Connection → Connection}
    (keeps : ∀ conn, conn.Sound → (f conn).Sound) : Tracked (s.all f) :=
  List.forall_mem_map.mpr fun conn mem => keeps conn (h conn mem)

lemma Tracked.next (h : Tracked s) (heeded : s.Heeded e) : Tracked (s.next e) := by
  cases e with
  | connect userId token => exact Pool.forall_append h sound_open
  | clientSend c frame => exact h.on fun _ _ sound => sound.clientSend
  | clientReceive c => exact h.on fun _ _ sound => sound.clientReceive
  | break_ c => exact h.on fun _ _ sound => sound.break
  | sendLoop c => exact h.on fun _ _ sound => sound.sendStep
  | recvLoop c => exact h.on fun _ _ sound => sound.recvStep
  | sendTo c name => exact h.on fun _ _ sound => sound.sendTo rfl
  | push c stream frame => exact h.on fun conn found sound => sound.push (heeded conn found)
  | drop c => exact h.on fun conn found sound => sound.drop (heeded conn found)
  | broadcast userId name => exact h.all fun _ sound => sound.broadcast
  | disconnectUser userId reason => exact h.all fun _ sound => sound.disconnect
  | heartbeat expired => exact h.all fun _ sound => sound.heartbeatTick
  | removeCondemned c => exact h.on fun conn found sound => sound.removeCondemned (heeded conn found)
  | tick ms => exact h

lemma Tracked.reallyClosed (h : Tracked s) (heeded : s.Heeded e) : s.ReallyClosed e where
  deaf c conn after recv found removed reading became := by
    subst recv
    have step : (s.next (.recvLoop c)).connections[c]? = some (conn.recvStep s.now) := by
      simp [WebSocketManager.next, WebSocketManager.on, found]
    rw [step] at became
    cases became
    exact deaf_recvStep removed reading (heeded conn found removed reading)
  moves conn mem removed now := own_left removed
  advances conn mem removed reading now := (h.next heeded conn mem).advances removed reading
  ends conn mem removed settled := (h.next heeded conn mem).settled removed settled
  gapless conn mem := (h.next heeded conn mem).received

lemma tracked_start : Tracked start := List.forall_mem_nil _

/-- In every run that heeds the condition a connection that the manager no longer holds is closed, and a
client has received a prefix of the frames of the file system. -/
theorem removed_connections_closed (events : List RealtimeEvent)
    (heeded : LTS.EnabledAll (fun s e => s.Possible e ∧ s.Heeded e) next start events) :
    LTS.EnabledAll ReallyClosed next start events :=
  heeded.imp (fun _ _ h c => ⟨h.reallyClosed c.2, h.next c.2⟩) tracked_start

/-- A client asks for the file system, gets a frame, and is logged out; it answers the close frame. -/
theorem removed_connections_closed_revoked :
    LTS.EnabledAll ReallyClosed next start
      [ .connect "u" "t", .clientSend 0 (.text "fs" none []), .recvLoop 0, .push 0 .fs "snapshot",
        .sendLoop 0, .clientReceive 0, .heartbeat [], .disconnectUser "u" "session revoked",
        .removeCondemned 0, .push 0 .fs "delta", .sendLoop 0, .clientSend 0 (.text "pong" none []),
        .sendLoop 0, .sendLoop 0, .recvLoop 0, .clientReceive 0, .clientReceive 0, .clientReceive 0,
        .sendLoop 0, .recvLoop 0, .recvLoop 0, .recvLoop 0 ] :=
  removed_connections_closed _ (by decide)

/-- A client that has been removed because its queue was full goes on asking for the file system. -/
theorem removed_client_routed :
    ¬ ∀ events, LTS.EnabledAll Possible next start events → LTS.EnabledAll ReallyClosed next start events := by
  intro h
  have closed := (h ([.connect "u" "t"] ++ List.replicate 65 (.push 0 .fs "delta") ++
    [.drop 0, .clientSend 0 (.text "fs" none [])] ++ [.recvLoop 0]) (by decide +kernel)).last
  have unrouted := fun conn found removed reading after became =>
    (closed.deaf 0 conn after rfl found removed reading became).routed
  revert unrouted
  decide

end WebSocketManager

end KiCore.Realtime

import KiCore.Lib.Keyed
import KiCore.Session.Event

/-!
# The pending queue

Port of the queue of `backend/conversation_session.rs`. A message is enqueued as held and dispatched by
the flush engine, one at a time: the flush lock is held from the choice of the head until its dispatch
has returned and its status is written, but the lock of the queue is not. `flush` and `dispatchReturned`
are the two ends of that window, and everything else may happen in between. Receipts are left out.
-/

namespace KiCore.Session

open KiCore.Lib

inductive MsgStatus where
  | held
  | sent
  | accepted
  | error
  | canceled
  deriving DecidableEq

structure PendingMessage (α : Type) where
  clientMsgId : String
  content : α
  status : MsgStatus
  enqueueOrdinal : Nat

structure Pending (α : Type) where
  nextId : Nat
  queue : List (PendingMessage α)

structure ConversationSession where
  msgIdPrefix : String

/-- The queue, and the message the holder of the flush lock is dispatching. -/
structure FlushState (α : Type) where
  pending : Pending α
  inFlight : Option String

namespace ConversationSession

variable {α : Type}

def msgId (c : ConversationSession) (ordinal : Nat) : String :=
  c.msgIdPrefix ++ "-" ++ toString ordinal

/-- The first half of `send`. The flush that follows is a step of its own. -/
def enqueue (c : ConversationSession) (pending : Pending α) (content : α) : Pending α :=
  let ordinal := pending.nextId + 1
  { nextId := ordinal
    queue := pending.queue ++ [⟨c.msgId ordinal, content, .held, ordinal⟩] }

/-- The head a flush would dispatch. A flush that `send` makes waits while a message is unconfirmed. -/
def flushHead (pending : Pending α) (fromRisingEdge : Bool) : Option (PendingMessage α) :=
  if !fromRisingEdge && pending.queue.any (fun m => m.status = .sent) then none
  else (pending.queue.filter fun m => m.status = .held).argmin PendingMessage.enqueueOrdinal

/-- A flush that gets hold of the lock: it starts the dispatch of the head if the gate is open. -/
def tryFlushHead (pending : Pending α) (fromRisingEdge gateOpen : Bool) :
    Option (PendingMessage α) :=
  if gateOpen then flushHead pending fromRisingEdge else none

def markStatus (pending : Pending α) (clientMsgId : String) (status : MsgStatus) : Pending α :=
  { pending with
    queue := Keyed.alter PendingMessage.clientMsgId clientMsgId
      (fun m => { m with status := status }) pending.queue }

def cancelHeld (pending : Pending α) (clientMsgId : String) : Bool × Pending α :=
  let held (m : PendingMessage α) : Bool := m.clientMsgId = clientMsgId && m.status = .held
  if pending.queue.any held then (true, { pending with queue := pending.queue.eraseP held })
  else (false, pending)

/-- Is a message canceled when the session is torn down? -/
def isOutstanding (m : PendingMessage α) : Bool :=
  m.status = .held || m.status = .sent

def cancelAllOutstanding (pending : Pending α) : Nat × Pending α :=
  ((pending.queue.filter isOutstanding).length,
    { pending with
      queue := pending.queue.map fun m =>
        if isOutstanding m then { m with status := .canceled } else m })

/-- Confirm the message a `PromptAccepted` names. -/
def drainPendingOn (pending : Pending α) (env : SessionEnvelope) :
    Option (PendingMessage α) × Pending α :=
  match env.event with
  | .promptAccepted clientMsgId =>
    let pending' := markStatus pending clientMsgId .accepted
    (Keyed.lookup PendingMessage.clientMsgId clientMsgId pending'.queue, pending')
  | _ => (none, pending)

end ConversationSession

/-- What happens to a queue; `dispatchReturned` ends the dispatch that is under way. -/
inductive FlushOp (α : Type) where
  | send (content : α)
  | flush (fromRisingEdge gateOpen : Bool)
  | dispatchReturned (isOk : Bool)
  | cancelHeld (clientMsgId : String)
  | cancelAllOutstanding
  | observe (env : SessionEnvelope)

namespace FlushState

open ConversationSession

variable {α : Type} (st : FlushState α)

/-- The message whose dispatch an operation starts. A flush waits while another one has the lock. -/
def selected : FlushOp α → Option (PendingMessage α)
  | .flush fromRisingEdge gateOpen =>
    if st.inFlight.isSome then none else tryFlushHead st.pending fromRisingEdge gateOpen
  | _ => none

def reported : FlushOp α → List String
  | .cancelHeld clientMsgId =>
    if (ConversationSession.cancelHeld st.pending clientMsgId).1 then [clientMsgId] else []
  | .cancelAllOutstanding =>
    (st.pending.queue.filter isOutstanding).map PendingMessage.clientMsgId
  | _ => []

def step (c : ConversationSession) (st : FlushState α) (op : FlushOp α) : FlushState α :=
  match op with
  | .send content => { st with pending := c.enqueue st.pending content }
  | .flush _ _ =>
    match st.selected op with
    | some head => { st with inFlight := some head.clientMsgId }
    | none => st
  | .dispatchReturned isOk =>
    match st.inFlight with
    | some clientMsgId =>
      { pending := markStatus st.pending clientMsgId (if isOk then .sent else .error)
        inFlight := none }
    | none => st
  | .cancelHeld clientMsgId =>
    { st with pending := (ConversationSession.cancelHeld st.pending clientMsgId).2 }
  | .cancelAllOutstanding => { st with pending := (cancelAllOutstanding st.pending).2 }
  | .observe env => { st with pending := (drainPendingOn st.pending env).2 }

def new : FlushState α := { pending := { nextId := 0, queue := [] }, inFlight := none }

def find (clientMsgId : String) : Option (PendingMessage α) :=
  Keyed.lookup PendingMessage.clientMsgId clientMsgId st.pending.queue

end FlushState

end KiCore.Session

import KiCore.Lib.Text
import KiCore.Lib.Transition
import KiCore.SessionMessage.Queue

/-!
# Sending, draining and cancelling

Port of `send` and `deliver` of `service.rs`, of `tick_once` of `drainer.rs` and of the cancel hook. A send
tries the target first and queues its message if the target is not ready; the one drainer tries the head
of each bucket in turn; a cancelled turn clears the bucket of its conversation.

Both await the target with the queue unlocked. So a send and the drainer stand at one of a few points
(`SendCall`, `Drainer`), and `next` makes one step of one of them. The moment at which a target answers is a
step of its own, apart from the one in which the caller goes on with the answer.
-/

namespace KiCore.SessionMessage

open KiCore.Lib
open Str (trim)

structure ConversationRow where
  name : String
  teamId : Option String
  workspace : Option String

structure SessionSendMessageRequest where
  recipient : String
  message : String

/-- What the outside answers to one send: the toggle, the rate gate and the rows. -/
structure SendWorld where
  settings : Except String (Option Bool)
  sender : Except String (Option ConversationRow)
  tripped : Bool
  target : Except String (Option ConversationRow)

/-- The toggle is on unless it is known to be off. -/
def isEnabledFor (settings : Except String (Option Bool)) : Bool :=
  match settings with
  | .ok (some enabled) => enabled
  | .ok none | .error _ => true

def buildSessionMessageBlock (fromName fromId workspaceField replyTo : String) : String :=
  s!"[[AION_SESSION_MESSAGE]]\nfrom: {fromName}\t{fromId}\nworkspace: {workspaceField}\nreply_to: {replyTo}\t（回信: session send-message, to=reply_to）\n[[/AION_SESSION_MESSAGE]]"

def composeDeliveryContent (block message : String) : String :=
  s!"{block}\n\n{message}"

def recipientWorkspaceField (senderWorkspace targetWorkspace : Option String) : String :=
  match senderWorkspace with
  | some sender =>
    if targetWorkspace = some sender then "same"
    else s!"{sender}（与你不同，勿用相对路径，勿假设可读）"
  | none => "unknown（与你不同，勿用相对路径，勿假设可读）"

def loadSender (world : SendWorld) (fromConversationId : String) :
    Except SessionMessageError ConversationRow :=
  match world.sender with
  | .error reason => .error (.transportUnavailable reason)
  | .ok none => .error (.transportUnavailable s!"sender conversation missing: {fromConversationId}")
  | .ok (some row) => .ok row

/-- A message on its way to its target. -/
structure Draft where
  recipient : String
  userId : String
  fromConversationId : String
  content : String

/-- The checks of `send` in their order, and the message they compose. -/
def prepare (world : SendWorld) (userId fromConversationId : String)
    (req : SessionSendMessageRequest) : Except SessionMessageError Draft := do
  if ¬ isEnabledFor world.settings then .error .featureDisabled
  let sender ← loadSender world fromConversationId
  if sender.teamId.isSome then .error (.senderIsTeam fromConversationId)
  let recipient := trim req.recipient
  if recipient = "" ∨ recipient = "*" then
    .error (.schemaValidation "`to` must be a conversation id; names and `*` are not supported")
  if trim req.message = "" then
    .error (.schemaValidation "`message` must not be empty")
  if world.tripped then .error .rateLimited
  if recipient = fromConversationId then .error (.targetIsSelf recipient)
  match world.target with
  | .error reason => .error (.transportUnavailable reason)
  | .ok none => .error (.targetNotFound recipient)
  | .ok (some target) =>
    if target.teamId.isSome then .error (.targetIsTeam recipient)
    else
      let field := recipientWorkspaceField sender.workspace target.workspace
      let block := buildSessionMessageBlock sender.name fromConversationId field fromConversationId
      .ok
        { recipient := recipient
          userId := userId
          fromConversationId := fromConversationId
          content := composeDeliveryContent block req.message }

/-- The failures of `send_message`, with their texts. -/
inductive ConversationError where
  | busy (text : String)
  | runtimeRestarting (text : String)
  | other (text : String)
  deriving DecidableEq

inductive DeliverAttemptError where
  | transient (reason : String)
  | hard (reason : String)
  deriving DecidableEq

def classifyDeliveryFailure : ConversationError → DeliverAttemptError
  | .busy text | .runtimeRestarting text => .transient text
  | .other text => .hard text

inductive DeliveryOutcome where
  | delivered
  | busy
  | hardError (reason : String)
  deriving DecidableEq

/-- The outcome of `deliver`. -/
def outcomeOf : Except ConversationError Unit → DeliveryOutcome
  | .ok _ => .delivered
  | .error error =>
    match classifyDeliveryFailure error with
    | .transient _ => .busy
    | .hard reason => .hardError reason

inductive SessionDeliveryStatus where
  | delivered
  | queued
  deriving DecidableEq

structure SessionSendMessageResponse where
  status : SessionDeliveryStatus
  recipient : String

inductive TurnCancelCause where
  | userRequested
  | runtimeRestart
  deriving DecidableEq

/-- Where a send stands: its target has yet to answer, has answered, or the send has returned. -/
inductive SendCall where
  | attempting (draft : Draft)
  | attempted (draft : Draft) (answer : Except ConversationError Unit)
  | returned (result : Except SessionMessageError SessionSendMessageResponse)

/-- Where the drainer stands in `tick_once`, with the heads it has yet to visit. -/
inductive Drainer where
  | idle
  | expired
  | visiting (heads : List PendingDelivery)
  | gating (item : PendingDelivery) (heads : List PendingDelivery)
  | delivering (item : PendingDelivery) (heads : List PendingDelivery)
  | answered (item : PendingDelivery) (outcome : DeliveryOutcome) (heads : List PendingDelivery)

/-- A message that reached its target: the send it is from, and its stamp if it had been queued. -/
structure Delivery where
  send : Nat
  recipient : String
  stamp : Option Nat
  deriving DecidableEq

/-- The queue, the sends and the drainer, with what the queue accepted and what was delivered, both in
order. -/
structure Exchange where
  queue : QueueState
  sends : List SendCall
  drainer : Drainer
  accepted : List PendingDelivery
  delivered : List Delivery

namespace Exchange

inductive Step where
  | send (world : SendWorld) (userId fromConversationId : String) (req : SessionSendMessageRequest)
  | reach (send : Nat) (answer : Except ConversationError Unit)
  | resume (send : Nat) (now : Int)
  | tick (now : Int)
  | snapshot (order : IterOrder (List PendingDelivery))
  | visit
  | gate (enabled : Bool)
  | answer (answer : Except ConversationError Unit)
  | settle
  | cancel (conversationId : String) (cause : TurnCancelCause)

variable (σ : Exchange)

def reach (n : Nat) (answer : Except ConversationError Unit) : Exchange :=
  match σ.sends[n]? with
  | some (.attempting draft) =>
    { σ with
      sends := σ.sends.set n (.attempted draft answer)
      delivered := σ.delivered ++
        if answer.isOk then [{ send := n, recipient := draft.recipient, stamp := none }] else [] }
  | _ => σ

def queuedDelivery (n : Nat) (draft : Draft) (now : Int) : PendingDelivery where
  recipient := draft.recipient
  userId := draft.userId
  fromConversationId := draft.fromConversationId
  message := draft.content
  expiresAtMs := now + ttlMs
  send := n
  stamp := σ.accepted.length

/-- A send goes on with the answer of its target. -/
def resume (n : Nat) (now : Int) : Exchange :=
  match σ.sends[n]? with
  | some (.attempted draft (.ok _)) =>
    { σ with
      sends := σ.sends.set n
        (.returned (.ok { status := .delivered, recipient := draft.recipient })) }
  | some (.attempted draft (.error error)) =>
    match classifyDeliveryFailure error with
    | .hard reason => { σ with sends := σ.sends.set n (.returned (.error (.transportUnavailable reason))) }
    | .transient _ =>
      let item := σ.queuedDelivery n draft now
      match σ.queue.push item with
      | (.error error, queue) =>
        { σ with queue := queue, sends := σ.sends.set n (.returned (.error error)) }
      | (.ok _, queue) =>
        { σ with
          queue := queue
          sends := σ.sends.set n
            (.returned (.ok { status := .queued, recipient := draft.recipient }))
          accepted := σ.accepted ++ [item] }
  | _ => σ

/-- The drainer goes on with the outcome of a delivery. -/
def settle (queue : QueueState) (item : PendingDelivery) : DeliveryOutcome → QueueState
  | .delivered => queue.popHead item.recipient
  | .busy => queue
  | .hardError _ => queue.dropHead item.recipient

/-- `on_turn_cancelled`. -/
def onTurnCancelled (queue : QueueState) (conversationId : String) (cause : TurnCancelCause) : QueueState :=
  if cause ≠ .userRequested then queue else (queue.clearFor conversationId).2

def next : Step → Exchange
  | .send world userId fromConversationId req =>
    match prepare world userId fromConversationId req with
    | .error error => { σ with sends := σ.sends ++ [.returned (.error error)] }
    | .ok draft => { σ with sends := σ.sends ++ [.attempting draft] }
  | .reach n answer => σ.reach n answer
  | .resume n now => σ.resume n now
  | .tick now =>
    match σ.drainer with
    | .idle => { σ with queue := (σ.queue.dropExpired now).2, drainer := .expired }
    | _ => σ
  | .snapshot order =>
    match σ.drainer with
    | .expired => { σ with drainer := .visiting (σ.queue.snapshotHeads order) }
    | _ => σ
  | .visit =>
    match σ.drainer with
    | .visiting [] => { σ with drainer := .idle }
    | .visiting (item :: heads) => { σ with drainer := .gating item heads }
    | _ => σ
  | .gate enabled =>
    match σ.drainer with
    | .gating item heads =>
      if enabled then { σ with drainer := .delivering item heads }
      else { σ with queue := (σ.queue.clearFor item.recipient).2, drainer := .visiting heads }
    | _ => σ
  | .answer answer =>
    match σ.drainer with
    | .delivering item heads =>
      { σ with
        drainer := .answered item (outcomeOf answer) heads
        delivered := σ.delivered ++
          if answer.isOk then
            [{ send := item.send, recipient := item.recipient, stamp := some item.stamp }]
          else [] }
    | _ => σ
  | .settle =>
    match σ.drainer with
    | .answered item outcome heads =>
      { σ with queue := settle σ.queue item outcome, drainer := .visiting heads }
    | _ => σ
  | .cancel conversationId cause =>
    { σ with queue := onTurnCancelled σ.queue conversationId cause }

def initial : Exchange :=
  { queue := .default, sends := [], drainer := .idle, accepted := [], delivered := [] }

/-- The runs of sends, drainer and cancel hook. -/
def lts : LTS Exchange Step :=
  .computed initial (fun _ _ => True) next

end Exchange

end KiCore.SessionMessage

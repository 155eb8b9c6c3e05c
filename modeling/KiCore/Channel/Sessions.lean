import KiCore.Lib.Keyed
import KiCore.Lib.Pool
import KiCore.Lib.Transition

/-!
# Sessions of a channel chat

The handlers of one (channel user, chat) pair. `handle_message` spawns one for every message and
every `session.new`, and each await of a handler is one step: the SELECT and the INSERT of
`get_or_create_session`, the row read back, the row read again in `handle_dispatched`, the creation
of a conversation, the send and the binding. `session.new` deletes the rows of the pair first. The
table has no key over user and chat.
-/

namespace KiCore.Channel

open KiCore.Lib

structure AssistantSessionRow where
  id : Nat
  conversationId : Option Nat

inductive HandlerKind where
  | message
  | sessionNew
  deriving DecidableEq

/-- What a handler does next. `dispatched` is the conversation of the row that the first lookup has
returned; `created` tells whether the handler has created the conversation it sends to. -/
inductive HandlerStage where
  | deleteSession
  | selectSession
  | insertSession
  | getSession (id : Nat)
  | getSessionById (id : Nat) (dispatched : Option Nat)
  | createConversation (id : Nat) (dispatched : Option Nat)
  | sendMessage (id conversationId : Nat) (created : Bool) (dispatched : Option Nat)
  | bindConversation (id conversationId : Nat)
  | finished
  deriving DecidableEq

/-- A handler. `session` is the one that its message was given, `conversation` the one that it was sent
to, and `failed` tells whether a step has failed. -/
structure Handler where
  kind : HandlerKind
  stage : HandlerStage
  session : Option Nat
  conversation : Option Nat
  failed : Bool

/-- The rows of the pair and its handlers. `deleted` are the rows as they were when a `session.new`
deleted them, `created` and `sent` the conversations that were created for a session and those that
a message of it was sent to, and `dropped` counts the messages that lost their row. -/
structure ChatSessions where
  rows : List AssistantSessionRow
  deleted : List AssistantSessionRow
  mintedSessions : Nat
  mintedConversations : Nat
  handlers : List Handler
  created : List (Nat × Nat)
  sent : List (Nat × Nat)
  dropped : Nat

namespace ChatSessions

/-- A message or an action comes in; a handler takes its next step, which may fail. -/
inductive Event where
  | arrive (kind : HandlerKind)
  | step (handler : Nat) (ok : Bool)
  deriving DecidableEq

def start : ChatSessions where
  rows := []
  deleted := []
  mintedSessions := 0
  mintedConversations := 0
  handlers := []
  created := []
  sent := []
  dropped := 0

variable (s : ChatSessions)

def getSession (id : Nat) : Option AssistantSessionRow :=
  Keyed.lookup (·.id) id s.rows

/-- The conversation that the row of a session is bound to, if there is the row. -/
def conversationOf (id : Nat) : Option (Option Nat) :=
  (s.getSession id).map (·.conversationId)

def firstStage : HandlerKind → HandlerStage
  | .message => .selectSession
  | .sessionNew => .deleteSession

/-- A message goes on with the row it was given; a `session.new` has what it wants. -/
def resolvedStage (row : AssistantSessionRow) : HandlerKind → HandlerStage
  | .message => .getSessionById row.id row.conversationId
  | .sessionNew => .finished

/-- `send_to_agent` takes the conversation of the row as it was read, or creates one. -/
def sendStage (row : AssistantSessionRow) (dispatched : Option Nat) : HandlerStage :=
  match row.conversationId with
  | some conversationId => .sendMessage row.id conversationId false dispatched
  | none => .createConversation row.id dispatched

def move (k : Nat) (handler : Handler) (stage : HandlerStage) : ChatSessions :=
  { s with handlers := s.handlers.set k { handler with stage } }

/-- The handler has the row of its session. -/
def resolve (k : Nat) (handler : Handler) (row : AssistantSessionRow) : ChatSessions :=
  s.move k { handler with session := some row.id } (resolvedStage row handler.kind)

/-- The row is not found: an error is logged, and a message is lost. -/
def drop (k : Nat) (handler : Handler) : ChatSessions :=
  { s.move k handler .finished with
    dropped := if handler.kind = .message then s.dropped + 1 else s.dropped }

def deleteSessionByUserChat : ChatSessions :=
  { s with rows := [], deleted := s.deleted ++ s.rows }

def insertSession : ChatSessions :=
  { s with
    rows := s.rows ++ [{ id := s.mintedSessions, conversationId := none }]
    mintedSessions := s.mintedSessions + 1 }

def createConversation (id : Nat) : ChatSessions :=
  { s with
    mintedConversations := s.mintedConversations + 1
    created := (id, s.mintedConversations) :: s.created }

/-- The row is bound, if it is still there. -/
def bindConversation (id conversationId : Nat) : ChatSessions :=
  { s with rows := s.rows.map fun row =>
      if row.id = id then { row with conversationId := some conversationId } else row }

def advance (k : Nat) (handler : Handler) : ChatSessions :=
  match handler.stage with
  | .deleteSession => s.deleteSessionByUserChat.move k handler .selectSession
  | .selectSession =>
    match s.rows.head? with
    | some row => s.resolve k handler row
    | none => s.move k handler .insertSession
  | .insertSession => s.insertSession.move k handler (.getSession s.mintedSessions)
  | .getSession id =>
    match s.getSession id with
    | some row => s.resolve k handler row
    | none => s.drop k handler
  | .getSessionById id dispatched =>
    match s.getSession id with
    | some row => s.move k handler (sendStage row dispatched)
    | none => s.drop k handler
  | .createConversation id dispatched =>
    (s.createConversation id).move k handler (.sendMessage id s.mintedConversations true dispatched)
  | .sendMessage id conversationId _ dispatched =>
    { s with sent := (id, conversationId) :: s.sent }.move k
      { handler with conversation := some conversationId }
      (if dispatched.isNone then .bindConversation id conversationId else .finished)
  | .bindConversation id conversationId =>
    (s.bindConversation id conversationId).move k handler .finished
  | .finished => s

def next : Event → ChatSessions
  | .arrive kind => { s with handlers := s.handlers ++
      [{ kind, stage := firstStage kind, session := none, conversation := none, failed := false }] }
  | .step k ok => (s.handlers[k]?).elim s fun handler =>
    if ok then s.advance k handler else s.move k { handler with failed := true } .finished

end ChatSessions

end KiCore.Channel

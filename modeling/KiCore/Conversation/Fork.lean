import KiCore.Conversation.Types
import KiCore.Lib.Transition

/-!
# Forks of a conversation

Port of `ConversationService::fork` (`service.rs`), with the queries of `sqlite_conversation.rs` that it
makes, and of the first open of the new conversation. The parent goes on meanwhile: a turn is claimed and
its prompt stored, the prompt is delivered to the backend's session, rows are stored, stamped or not, and
the turn ends. Rows are kept in the order of the timeline, `(created_at, id)`; time does not run
backwards. Left out are the owner of the rows, the contents and the names that a fork copies verbatim, and
the seed of the runtime state, whose failure is not an error.
-/

namespace KiCore.Conversation

open KiCore.Lib

/-- A row of `messages`. -/
structure MessageRow where
  id : Nat
  msgId : Option Nat
  type : String
  hidden : Bool
  createdAt : Nat
  backendTurnId : Option Nat
  /-- the turn of a backend session that the row shows -/
  turn : Option Nat
  deriving DecidableEq

variable (row : MessageRow)

def MessageRow.cursor : Nat × Nat := (row.createdAt, row.id)

/-- `created_at < ? OR (created_at = ? AND id <= ?)`. -/
def MessageRow.upTo (cursor : Nat × Nat) : Bool :=
  row.createdAt < cursor.1 || (row.createdAt = cursor.1 && row.id ≤ cursor.2)

/-- The timeline that the interface shows. -/
def MessageRow.listed : Bool := row.type ∉ ["cron_trigger", "skill_suggest"]

structure ForkSpec where
  parentMessageId : Nat
  parentSessionId : Nat
  lastTurnId : Option Nat
  deriving DecidableEq

inductive ForkError where
  | forbidden (reason : String)
  | busy (reason : String)
  | unprocessable (reason : String)
  | messageNotFound (id : Nat)
  | internal
  deriving DecidableEq

structure Parent where
  team : Bool
  agentType : AgentType
  /-- it has an `acp_session` row -/
  acpSession : Bool
  /-- it has an assistant snapshot -/
  snapshot : Bool
  /-- its agent can fork, and then also at a turn -/
  atTurn : Option Bool
  /-- the session that it is bound to -/
  sessionId : Option Nat
  /-- the turns of the backend sessions that it has had -/
  sessions : List (List Nat)
  activeTurn : Option Nat
  rows : List MessageRow

def Parent.turns (p : Parent) : List Nat := (p.sessionId.bind fun k => p.sessions[k]?).getD []

/-- The turns of a session through one of them, inclusive. -/
def takeThrough (turn : Nat) (turns : List Nat) : List Nat := turns.takeWhile (· ≠ turn) ++ [turn]

def ForkSpec.select (spec : ForkSpec) (sessions : List (List Nat)) : Option (List Nat) :=
  sessions[spec.parentSessionId]?.bind fun turns =>
    match spec.lastTurnId with
    | none => some turns
    | some anchor => if anchor ∈ turns then some (takeThrough anchor turns) else none

/-- The rows of the new conversation, and its backend session once it has been opened. -/
structure Forked where
  spec : ForkSpec
  snapshot : Bool
  acpSession : Bool
  rows : List MessageRow
  session : Option (List Nat)

inductive ForkStage where
  | received
  | checked
  | anchored (sessionId : Nat)
  | capable (sessionId : Nat) (atTurn : Bool)
  | pointed (sessionId : Nat) (atTurn : Bool) (point : MessageRow)
  /-- there are later rows, and the agent can fork at a turn -/
  | behind (sessionId : Nat) (point : MessageRow)
  | resolved (spec : ForkSpec) (cursor : Nat × Nat)
  | created (spec : ForkSpec) (cursor : Nat × Nat)
  | snapshotted (spec : ForkSpec) (cursor : Nat × Nat)
  | sessioned (spec : ForkSpec) (cursor : Nat × Nat)
  | copied
  | succeeded
  | failed (error : ForkError)
  deriving DecidableEq

structure ForkRun where
  parent : Parent
  now : Nat
  nextId : Nat
  nextTurn : Nat
  /-- the message to fork at -/
  messageId : Nat
  call : ForkStage
  forked : Option Forked

namespace ForkRun

def start (parent : Parent) (now nextId nextTurn messageId : Nat) : ForkRun :=
  { parent, now, nextId, nextTurn, messageId, call := .received, forked := none }

variable (s : ForkRun)

def fail (error : ForkError) : ForkRun := { s with call := .failed error }

/-- The capability gate's session: that of the `acp_session` row; the built-in agent has one of its own. -/
def sessionAnchor (p : Parent) : Except ForkError Nat :=
  if p.acpSession then
    match p.sessionId with
    | some sessionId => .ok sessionId
    | none => .error (.busy "FORK_PARENT_UNBOUND: the conversation has no backend session to fork yet")
  else if p.agentType = .aionrs then .ok (p.sessionId.getD 0)
  else .error (.unprocessable "FORK_UNSUPPORTED: this conversation type cannot be forked")

/-- Row id first, then the earliest row of the streamed message. -/
def forkPoint : Option MessageRow :=
  (s.parent.rows.find? fun row => row.id = s.messageId).or
    (s.parent.rows.find? fun row => row.msgId = some s.messageId)

def latest : Option MessageRow := (s.parent.rows.filter MessageRow.listed).getLast?

def isHead (point : MessageRow) : Bool :=
  match s.latest with
  | none => true
  | some row => row.id = point.id

/-- The stamp of the nearest row at or before the cursor that has one. -/
def resolveBackendTurnAnchor (cursor : Nat × Nat) : Option Nat :=
  ((s.parent.rows.filter fun row => row.upTo cursor).filterMap MessageRow.backendTurnId).getLast?

/-- New ids in display order; the stamps are dropped. -/
def copyMessagesUpTo (cursor : Nat × Nat) : List MessageRow :=
  (s.parent.rows.filter fun row => row.upTo cursor).mapIdx fun i row =>
    { row with id := s.nextId + i, backendTurnId := none }

def forkStep : ForkRun :=
  match s.call with
  | .received =>
    if s.parent.team then s.fail (.forbidden "team conversations cannot be forked")
    else if s.parent.activeTurn.isSome then
      s.fail (.busy "FORK_TURN_IN_FLIGHT: wait for the current reply to finish before forking")
    else { s with call := .checked }
  | .checked =>
    match sessionAnchor s.parent with
    | .ok sessionId => { s with call := .anchored sessionId }
    | .error error => s.fail error
  | .anchored sessionId =>
    match s.parent.atTurn with
    | some atTurn => { s with call := .capable sessionId atTurn }
    | none => s.fail (.unprocessable "FORK_UNSUPPORTED: this agent does not support session forking")
  | .capable sessionId atTurn =>
    match s.forkPoint with
    | some point => { s with call := .pointed sessionId atTurn point }
    | none => s.fail (.messageNotFound s.messageId)
  | .pointed sessionId atTurn point =>
    if s.isHead point then { s with call := .resolved ⟨point.id, sessionId, none⟩ point.cursor }
    else if atTurn then { s with call := .behind sessionId point }
    else s.fail (.unprocessable
      "FORK_POINT_UNSUPPORTED: this agent only supports forking from the latest message")
  | .behind sessionId point =>
    match s.resolveBackendTurnAnchor point.cursor with
    | some anchor => { s with call := .resolved ⟨point.id, sessionId, some anchor⟩ point.cursor }
    -- never silently at the head
    | none => s.fail (.unprocessable
      "FORK_POINT_UNSUPPORTED: this message predates turn tracking; fork from the latest message instead")
  -- the rows of the new conversation, a statement each
  | .resolved spec cursor =>
    { s with
      call := .created spec cursor
      forked := some { spec, snapshot := false, acpSession := false, rows := [], session := none } }
  | .created spec cursor =>
    { s with
      call := .snapshotted spec cursor
      forked := s.forked.map fun f => { f with snapshot := s.parent.snapshot } }
  | .snapshotted spec cursor =>
    { s with
      call := .sessioned spec cursor
      forked := s.forked.map fun f => { f with acpSession := s.parent.acpSession } }
  | .sessioned _ cursor =>
    { s with
      call := .copied
      nextId := s.nextId + s.parent.rows.length
      forked := s.forked.map fun f => { f with rows := s.copyMessagesUpTo cursor } }
  | .copied => { s with call := .succeeded }
  | .succeeded | .failed _ => s

def ended : Bool :=
  match s.call with
  | .succeeded | .failed _ => true
  | _ => false

def step (ok : Bool) : ForkRun :=
  if ok || s.ended then s.forkStep else s.fail .internal

/-- The first open of the new conversation; it is tried again if it fails. -/
def materialize : ForkRun :=
  { s with forked := s.forked.map fun f =>
      { f with session := f.session.or (f.spec.select s.parent.sessions) } }

def insertRow (row : MessageRow) : ForkRun :=
  { s with parent := { s.parent with rows := s.parent.rows ++ [row] }, nextId := s.nextId + 1 }

/-- A turn is claimed, and its prompt stored; the turn of an agent may have none. -/
def prompt (persisted hidden : Bool) : ForkRun :=
  let t := { s with
    parent := { s.parent with activeTurn := some s.nextTurn }, nextTurn := s.nextTurn + 1 }
  if persisted then
    t.insertRow { id := s.nextId, msgId := some s.nextId, type := "text", hidden, createdAt := s.now,
                  backendTurnId := none, turn := some s.nextTurn }
  else t

/-- The prompt of the turn reaches the session. -/
def deliver : ForkRun :=
  match s.parent.activeTurn, s.parent.sessionId with
  | some turn, some k =>
    if turn ∈ s.parent.turns then s
    else { s with parent := { s.parent with sessions := s.parent.sessions.modify k (· ++ [turn]) } }
  | _, _ => s

/-- The rows of a turn that no session has got show none. -/
def endTurn : ForkRun :=
  match s.parent.activeTurn with
  | none => s
  | some turn =>
    { s with parent := { s.parent with
        activeTurn := none
        rows :=
          if turn ∈ s.parent.sessions.flatten then s.parent.rows
          else s.parent.rows.map fun row =>
            if row.turn = some turn then { row with turn := none } else row } }

def bindSession : ForkRun :=
  match s.parent.sessionId with
  | some _ => s
  | none => { s with parent := { s.parent with
      sessionId := some s.parent.sessions.length
      sessions := s.parent.sessions ++ [[]] } }

inductive ForkEvent where
  | prompt (persisted hidden : Bool)
  | deliver
  | row (turn : Option Nat) (stamped : Bool) (type : String) (hidden : Bool) (msgId : Option Nat)
  | endTurn
  | tick (ms : Nat)
  | bindSession
  | loseSession
  | step (ok : Bool)
  | materialize
  deriving DecidableEq

def next : ForkEvent → ForkRun
  | .prompt persisted hidden => s.prompt persisted hidden
  | .deliver => s.deliver
  | .row turn stamped type hidden msgId =>
    s.insertRow { id := s.nextId, msgId, type, hidden, createdAt := s.now,
                  backendTurnId := if stamped then turn else none, turn }
  | .endTurn => s.endTurn
  | .tick ms => { s with now := s.now + ms }
  | .bindSession => s.bindSession
  | .loseSession => { s with parent := { s.parent with sessionId := none } }
  | .step ok => s.step ok
  | .materialize => if s.call = .succeeded then s.materialize else s

/-- Turns of a conversation do not overlap, and a row is of a turn that has begun; it is stamped once the
backend has announced the turn. -/
def Possible : ForkEvent → Prop
  | .prompt _ _ => s.parent.activeTurn = none
  | .row turn stamped _ _ _ => ∀ t ∈ turn, t ∈ s.parent.turns ∨
    stamped = false ∧ s.parent.activeTurn = some t
  | _ => True

instance (e : ForkEvent) : Decidable (s.Possible e) := by
  unfold Possible
  split <;> infer_instance

end ForkRun

end KiCore.Conversation

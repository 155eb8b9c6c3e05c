import KiCore.Lib.Broadcast
import KiCore.Lib.Transition

/-!
# The frames of an agent's stream

Port of `background_stream.rs`, with what `turn_orchestrator.rs`, `stream_relay.rs` and
`runtime_state.rs` do to the stream of one agent instance: a user turn claims the conversation,
subscribes one relay after the other and releases its claim; a relay takes frames until one ends it;
the watcher takes every frame, and opens an orphan turn on content that it reads while no turn is
active.

A step is what a party does between two places where another one may come in between. Between the
frame that the watcher has taken (`hand`) and the look-up of the active turn lies such a place. What
a frame carries, what is written to the database and what is sent to the frontend is not kept,
except for the echo of a message, which decides on the claim of an orphan turn.
-/

namespace KiCore.Conversation

open KiCore.Lib

inductive MessageLifecyclePhase where
  | queued
  | started
  | completed
  | cancelled
  deriving DecidableEq

inductive AgentStreamEvent where
  | start
  | text
  | tips
  | toolCall
  | acpToolCall
  | toolGroup
  | agentStatus
  | thinking
  | plan
  | permission
  | acpPermission
  | ask
  | skillSuggest
  | cronTrigger
  | acpModelInfo
  | acpModeInfo
  | acpConfigOption
  | acpSessionInfo
  | acpContextUsage
  | acpTerminalOutput
  | acpPromptHookWarning
  | slashCommandsUpdated
  | availableCommands
  | finish
  | error
  | system
  | requestTrace
  | sessionAssigned
  | segmentBreak
  | backendTurnBound
  | workflowProgress
  | messageLifecycle (clientMsgId : String) (phase : MessageLifecyclePhase)
  | acpDialectSignal
  deriving DecidableEq

def AgentStreamEvent.isOrphanTurnContent : AgentStreamEvent → Bool
  | .text | .thinking | .toolCall | .acpToolCall | .toolGroup | .plan | .permission |
      .acpPermission | .ask
  | .error => true
  | _ => false

def AgentStreamEvent.isTerminal : AgentStreamEvent → Bool
  | .finish | .error => true
  | _ => false

structure Frame where
  seq : Nat
  event : AgentStreamEvent
  deriving DecidableEq

/-- Who processes a frame: a relay of a user turn, or the one of an orphan turn. -/
inductive Relay where
  | user (k : Nat)
  | orphan (turnId : Nat)
  deriving DecidableEq

structure TurnRelay where
  turnId : Nat
  subscribed : Nat
  rx : Nat
  running : Bool

/-- A turn of the agent's own: its relay reads the feed until a frame ends it or the feed is
dropped. -/
structure OrphanTurn where
  turnId : Nat
  claimed : Bool
  feed : Broadcast Frame
  rx : Nat
  running : Bool

namespace OrphanTurn

def dropFeed (orphan : OrphanTurn) : OrphanTurn :=
  { orphan with feed := orphan.feed.close }

/-- A frame is sent to the feed. A relay that has ended does not receive it, which is ignored. -/
def send (orphan : OrphanTurn) (frame : Frame) : OrphanTurn :=
  { orphan with feed := if orphan.running then orphan.feed.send frame else orphan.feed }

/-- The frames that the relay is still to be given. -/
def waiting (orphan : OrphanTurn) : List Frame :=
  if orphan.running then orphan.feed.waiting orphan.rx else []

end OrphanTurn

structure BackgroundStreamWatcher where
  titleOnly : Bool
  pendingStartedTtl : Nat

/-- The stream of an agent with the parties that read it. `processed`, `fed` and `unowned` tell what
has happened: which relay processed which frame, what was sent to the feed of an orphan turn, and
the content that the watcher of a session read while no foreign turn was active. A title-only
watcher leaves content to others without a look-up. -/
structure TurnStream where
  stream : Broadcast AgentStreamEvent
  activeTurn : Option Nat
  refusing : Bool
  minted : Nat
  turns : List Nat
  relays : List TurnRelay
  rx : Nat
  stopped : Bool
  pendingUserMsg : Option (String × Nat)
  hand : Option Frame
  orphan : Option OrphanTurn
  processed : List (Relay × Frame)
  fed : List Frame
  unowned : List Frame

inductive Event where
  | emit (event : AgentStreamEvent)
  | close
  | refuse (refusing : Bool)
  | claimTurn
  | subscribe (turnId : Nat)
  | relayRecv (k : Nat)
  | sendFailed (k : Nat)
  | relayDropped (k : Nat)
  | releaseTurn (turnId : Nat)
  | clearTurn
  | watcherRecv
  | watcherDecide (now : Nat)
  | orphanRecv
  | orphanIdle
  | orphanJoined
  deriving DecidableEq

namespace TurnStream

/-- An instance that has emitted nothing, and its watcher. -/
def start (capacity : Nat) : TurnStream where
  stream := .channel capacity
  activeTurn := none
  refusing := false
  minted := 0
  turns := []
  relays := []
  rx := 0
  stopped := false
  pendingUserMsg := none
  hand := none
  orphan := none
  processed := []
  fed := []
  unowned := []

variable (s : TurnStream)

def processedBy (frame : Frame) : List Relay :=
  s.processed.filterMap fun (relay, f) => if f = frame then some relay else none

/-- No turn is claimed while another one is active, or while the conversation restarts, is deleted
or shuts down. -/
def tryClaimTurn (turnId : Nat) : Option TurnStream :=
  if s.refusing || s.activeTurn.isSome then none else some { s with activeTurn := some turnId }

def release (turnId : Nat) : TurnStream :=
  if s.activeTurn = some turnId then { s with activeTurn := none } else s

def claimTurn : TurnStream :=
  match s.tryClaimTurn s.minted with
  | none => s
  | some s => { s with minted := s.minted + 1, turns := s.turns ++ [s.minted] }

def between (turnId : Nat) : Bool :=
  s.turns.contains turnId && s.relays.all fun relay => relay.turnId ≠ turnId || !relay.running

/-- The next relay of a turn: of its first attempt, of a replay or of a continuation. -/
def subscribe (s : TurnStream) (turnId : Nat) : TurnStream :=
  if s.between turnId then
    { s with
      relays := s.relays ++
        [{ turnId := turnId, subscribed := s.stream.subscribe, rx := s.stream.subscribe
           running := true }] }
  else
    s

def onRelay (k : Nat) (go : TurnRelay → TurnStream) : TurnStream :=
  match s.relays[k]? with
  | none => s
  | some relay => if relay.running then go relay else s

def relayRecv (k : Nat) : TurnStream :=
  s.onRelay k fun relay =>
    match s.stream.recv relay.rx with
    | .value event =>
      { s with
        relays := s.relays.set k { relay with rx := relay.rx + 1, running := !event.isTerminal }
        processed := s.processed ++ [(.user k, { seq := relay.rx, event := event })] }
    | .lagged rx => { s with relays := s.relays.set k { relay with rx := rx } }
    | .closed => { s with relays := s.relays.set k { relay with running := false } }
    | .empty => s

/-- A failed send ends the relay with an error that is not on the stream, once it has nothing left
to read. -/
def sendFailed (k : Nat) : TurnStream :=
  s.onRelay k fun relay =>
    match s.stream.recv relay.rx with
    | .value _ => s
    | .lagged _ => s
    | .closed => { s with relays := s.relays.set k { relay with running := false } }
    | .empty => { s with relays := s.relays.set k { relay with running := false } }

def relayDropped (k : Nat) : TurnStream :=
  s.onRelay k fun relay =>
    if relay.rx = relay.subscribed then
      { s with relays := s.relays.set k { relay with running := false } }
    else
      s

def releaseTurn (turnId : Nat) : TurnStream :=
  if s.between turnId then { s.release turnId with turns := s.turns.erase turnId } else s

/-- The user message that the next turn of the agent serves. -/
def noteLifecycle (pending : Option (String × Nat)) (clientMsgId : String)
    (phase : MessageLifecyclePhase) (now : Nat) : Option (String × Nat) :=
  match phase with
  | .queued => pending
  | .started => some (clientMsgId, now)
  | .completed => if pending.any (·.1 = clientMsgId) then none else pending
  | .cancelled => if pending.any (·.1 = clientMsgId) then none else pending

variable (w : BackgroundStreamWatcher)

/-- A message that was started too long ago is not served. -/
def servingClientMsgId (pending : Option (String × Nat)) (now : Nat) : Option String :=
  pending.bind fun (id, armedAt) => if now - armedAt ≤ w.pendingStartedTtl then some id else none

/-- Note a frame that was read while no foreign turn was active, if it is content. -/
def noteUnowned (frame : Frame) : TurnStream :=
  if frame.event.isOrphanTurnContent then { s with unowned := s.unowned ++ [frame] } else s

/-- An orphan turn is opened, with a relay that is fed its first frame. It is claimed only if it
serves a message. -/
def runOrphanTurn (first : Frame) (serving : Option String) : TurnStream :=
  let turnId := s.minted
  let claim := if serving.isSome then s.tryClaimTurn turnId else none
  let s := claim.getD s
  { s with
    minted := turnId + 1
    orphan := some
      { turnId := turnId
        claimed := claim.isSome
        feed := (Broadcast.channel 256).send first
        rx := 0
        running := true }
    fed := s.fed ++ [first] }

/-- What `run` does with a frame it has taken. Titles, receipts and cards are not kept. -/
def runFrame (s : TurnStream) (now : Nat) (frame : Frame) : TurnStream :=
  match frame.event with
  | .acpSessionInfo => s
  | .messageLifecycle clientMsgId phase =>
    { s with pendingUserMsg := noteLifecycle s.pendingUserMsg clientMsgId phase now }
  | event =>
    if w.titleOnly then
      s
    else if s.activeTurn.isSome then
      s
    else
      let s := s.noteUnowned frame
      if event.isOrphanTurnContent then
        runOrphanTurn { s with pendingUserMsg := none } frame
          (servingClientMsgId w s.pendingUserMsg now)
      else
        s

/-- What `run_orphan_turn` does with a frame it has taken: it feeds it, or drops the feed for a
foreign turn. -/
def feedFrame (orphan : OrphanTurn) (frame : Frame) : TurnStream :=
  if s.activeTurn.any (· ≠ orphan.turnId) then
    { s with orphan := some orphan.dropFeed }
  else
    let s := s.noteUnowned frame
    { s with orphan := some (orphan.send frame), fed := s.fed ++ [frame] }

def reading : Bool :=
  !s.stopped && s.hand.isNone && s.orphan.all fun orphan => !orphan.feed.closed

/-- The watcher takes a frame, in `run` or in `run_orphan_turn`. -/
def watcherRecv : TurnStream :=
  if s.reading then
    match s.stream.recv s.rx with
    | .value event => { s with rx := s.rx + 1, hand := some { seq := s.rx, event := event } }
    | .lagged rx => { s with rx := rx }
    | .closed =>
      match s.orphan with
      | none => { s with stopped := true }
      | some orphan => { s with orphan := some orphan.dropFeed }
    | .empty => s
  else
    s

/-- The watcher does with the frame in hand what is to be done. -/
def watcherDecide (s : TurnStream) (now : Nat) : TurnStream :=
  match s.hand with
  | none => s
  | some frame =>
    let s := { s with hand := none }
    match s.orphan with
    | none => s.runFrame w now frame
    | some orphan => s.feedFrame orphan frame

def orphanRecv : TurnStream :=
  match s.orphan with
  | none => s
  | some orphan =>
    if orphan.running then
      match orphan.feed.recv orphan.rx with
      | .value frame =>
        { s with
          orphan := some { orphan with rx := orphan.rx + 1, running := !frame.event.isTerminal }
          processed := s.processed ++ [(.orphan orphan.turnId, frame)] }
      | .lagged rx => { s with orphan := some { orphan with rx := rx } }
      | .closed => { s with orphan := some { orphan with running := false } }
      | .empty => s
    else
      s

/-- Nothing was read for too long: the feed is dropped. -/
def orphanIdle : TurnStream :=
  match s.orphan, s.stream.recv s.rx with
  | some orphan, .empty => if s.reading then { s with orphan := some orphan.dropFeed } else s
  | _, _ => s

/-- The relay of an orphan turn has ended, and the watcher goes on in `run`. -/
def orphanJoined : TurnStream :=
  match s.orphan with
  | none => s
  | some orphan =>
    if orphan.running || s.hand.isSome then
      s
    else
      let s := if orphan.claimed then s.release orphan.turnId else s
      { s with orphan := none }

def next (s : TurnStream) : Event → TurnStream
  | .emit event => if s.stream.closed then s else { s with stream := s.stream.send event }
  | .close => { s with stream := s.stream.close }
  | .refuse refusing => { s with refusing := refusing }
  | .claimTurn => s.claimTurn
  | .subscribe turnId => s.subscribe turnId
  | .relayRecv k => s.relayRecv k
  | .sendFailed k => s.sendFailed k
  | .relayDropped k => s.relayDropped k
  | .releaseTurn turnId => s.releaseTurn turnId
  | .clearTurn => { s with activeTurn := none }
  | .watcherRecv => s.watcherRecv
  | .watcherDecide now => s.watcherDecide w now
  | .orphanRecv => s.orphanRecv
  | .orphanIdle => s.orphanIdle
  | .orphanJoined => s.orphanJoined

end TurnStream

end KiCore.Conversation

import KiCore.Lib.Pool
import KiCore.Lib.Transition

/-!
# The stream relays of a channel chat

Port of `ChannelStreamRelay` in `stream_relay.rs`, and of the messages of one chat that subscribe
one each in `send_to_agent`. A relay reads the events of the conversation from its subscription on,
until it comes to the end of a turn; on a platform with editing it has one message, which it edits.

A relay writes to messages of its own only, so that it does not matter when it reads an event: here
it reads an event when that is sent, unless its handler is still to send its own message, which
keeps the events until then. A send or an edit that fails is left out.
-/

namespace KiCore.Channel

open KiCore.Lib

inductive PluginType where
  | telegram
  | lark
  | dingtalk
  | weixin
  | slack
  | discord
  deriving DecidableEq

def throttleMsForPlatform : PluginType → Nat
  | .slack => 1200
  | .discord => 1000
  | _ => 500

/-- The events of an agent, with the data that a channel reads; `other` stands for those that no
channel shows. -/
inductive AgentStreamEvent where
  | text (content : String)
  | finish
  | error (message : String)
  | thinking (content : String)
  | toolCall (name status : String)
  | other
  deriving DecidableEq

inductive StreamAction where
  | appendText (chunk : String)
  | finish
  | error (message : String)
  | thinking (content : String)
  | toolCall (name status : String)
  deriving DecidableEq

def processStreamEvent : AgentStreamEvent → Option StreamAction
  | .text content => some (.appendText content)
  | .finish => some .finish
  | .error message => some (.error message)
  | .thinking content => some (.thinking content)
  | .toolCall name status => some (.toolCall name status)
  | .other => none

def StreamAction.isTerminal : StreamAction → Bool
  | .finish | .error _ => true
  | .appendText _ | .thinking _ | .toolCall _ _ => false

/-- A piece of text, with the turn that has brought it. -/
structure Chunk where
  turn : Nat
  content : String
  deriving DecidableEq

def textOf (chunks : List Chunk) : String :=
  String.join (chunks.map (·.content))

structure ActionButton where
  label : String
  action : String

inductive OutgoingMessageType where
  | text
  | buttons
  deriving DecidableEq

/-- A message of the chat. `source` is the text of the agent that it shows. -/
structure UnifiedOutgoingMessage where
  messageType : OutgoingMessageType
  text : String
  buttons : List (List ActionButton)
  source : List Chunk

/-- What is fixed for a relay. `formatText` is `format_text_for_platform` for the platform. -/
structure RelayConfig where
  platform : PluginType
  formatText : String → String
  trim : String → String

def plainMessage (text : String) : UnifiedOutgoingMessage where
  messageType := .text
  text := text
  buttons := []
  source := []

def buildThinkingMessage : UnifiedOutgoingMessage :=
  plainMessage "⏳ Thinking..."

def errorMessage (message : String) : UnifiedOutgoingMessage :=
  plainMessage s!"❌ {message}"

namespace RelayConfig

/-- `build_streaming_message` of the formatted buffer. -/
def buildStreamingMessage (c : RelayConfig) (buffer : List Chunk) : UnifiedOutgoingMessage where
  messageType := .text
  text := c.formatText (textOf buffer)
  buttons := []
  source := buffer

/-- `build_final_message` of the formatted buffer. -/
def buildFinalMessage (c : RelayConfig) (buffer : List Chunk) : UnifiedOutgoingMessage where
  messageType := .buttons
  text := c.formatText (textOf buffer)
  buttons := [[{ label := "🔄 Regenerate", action := "chat.regenerate" },
    { label := "▶️ Continue", action := "chat.continue" },
    { label := "➕ New Session", action := "session.new" }]]
  source := buffer

end RelayConfig

/-- The locals of a relay, and its messages in the chat. The buffer is kept in its pieces. -/
structure RelayState where
  textBuffer : List Chunk
  hasContent : Bool
  lastEdit : Option Nat
  messages : List UnifiedOutgoingMessage

namespace RelayState

def start (c : RelayConfig) : RelayState where
  textBuffer := []
  hasContent := false
  lastEdit := none
  messages := if c.platform = .weixin then [] else [buildThinkingMessage]

variable (r : RelayState)

def append (chunk : Chunk) : RelayState :=
  { r with textBuffer := r.textBuffer ++ [chunk], hasContent := true }

def send (message : UnifiedOutgoingMessage) : RelayState :=
  { r with messages := r.messages ++ [message] }

def edit (message : UnifiedOutgoingMessage) : RelayState :=
  { r with messages := [message] }

variable (c : RelayConfig)

/-- Whether the last edit is long enough ago. -/
def mayEdit (now : Nat) : Bool :=
  r.lastEdit.all (· + throttleMsForPlatform c.platform ≤ now)

/-- The guard of the platform without editing: there is something to send. -/
def hasText : Bool :=
  r.hasContent && c.trim (textOf r.textBuffer) ≠ ""

/-- The last message, at the end of a turn or of the stream. -/
def conclude : RelayState :=
  if c.platform = .weixin then
    if r.hasText c then r.send (c.buildFinalMessage r.textBuffer) else r
  else if r.hasContent then r.edit (c.buildFinalMessage r.textBuffer)
  else r

/-- `run_weixin`, for one event that is not the end. -/
def recvWeixin (turn : Nat) : StreamAction → RelayState
  | .appendText chunk => r.append { turn := turn, content := chunk }
  | .toolCall _ _ =>
    if r.hasText c then
      { r.send (c.buildStreamingMessage r.textBuffer) with textBuffer := [], hasContent := false }
    else r
  | .error message => r.send (errorMessage message)
  | .finish => r.conclude c
  | .thinking _ => r

/-- `run_editable`, for one event. -/
def recvEditable (now turn : Nat) : StreamAction → RelayState
  | .appendText chunk =>
    let r := r.append { turn := turn, content := chunk }
    if r.mayEdit c now then
      { r.edit (c.buildStreamingMessage r.textBuffer) with lastEdit := some now }
    else r
  | .toolCall name _ => r.edit (plainMessage s!"⏳ {name}...")
  | .error message => r.edit (errorMessage message)
  | .finish => r.conclude c
  | .thinking _ => r

def recv (now turn : Nat) (action : StreamAction) : RelayState :=
  if c.platform = .weixin then r.recvWeixin c turn action else r.recvEditable c now turn action

end RelayState

/-- A message of the chat on its way through `handle_dispatched`: its subscription, with what the
channel has kept for it; its relay, with the number of turns that had started when it was sent; and
the turn at whose end the relay has stopped, if it was not the end of the stream. -/
inductive Dispatch where
  | subscribed (kept : List (Nat × StreamAction)) (closed : Bool)
  | relaying (sentAt : Nat) (relay : RelayState)
  | stopped (sentAt : Nat) (relay : RelayState) (stoppedAt : Option Nat)
  | failed (error : String)

namespace Dispatch

variable (c : RelayConfig)

def receive (now turn : Nat) (action : StreamAction) : Dispatch → Dispatch
  | .subscribed kept closed =>
    .subscribed (if closed then kept else kept ++ [(turn, action)]) closed
  | .relaying sentAt relay =>
    if action.isTerminal then .stopped sentAt (relay.recv c now turn action) (some turn)
    else .relaying sentAt (relay.recv c now turn action)
  | .stopped sentAt relay stoppedAt => .stopped sentAt relay stoppedAt
  | .failed error => .failed error

def close : Dispatch → Dispatch
  | .subscribed kept _ => .subscribed kept true
  | .relaying sentAt relay => .stopped sentAt (relay.conclude c) none
  | .stopped sentAt relay stoppedAt => .stopped sentAt relay stoppedAt
  | .failed error => .failed error

/-- The relay starts with what was kept for it. -/
def spawn (now sentAt : Nat) (kept : List (Nat × StreamAction)) (closed : Bool) : Dispatch :=
  let read := kept.foldl (fun d (turn, action) => d.receive c now turn action)
    (.relaying sentAt (.start c))
  if closed then read.close c else read

def messages : Dispatch → List UnifiedOutgoingMessage
  | .subscribed _ _ => []
  | .relaying _ relay | .stopped _ relay _ => relay.messages
  | .failed error => [errorMessage s!"Failed to process: {error}"]

end Dispatch

/-- `ConversationService::send_message` has opened a turn for the message, has delivered it into the
turn that is running, or has refused it. -/
inductive SendOutcome where
  | started
  | delivered
  | refused (error : String)
  deriving DecidableEq

/-- The turns that are running, in the order in which the agent takes them; the text of all turns,
and the turns that have ended. -/
structure ChannelChat where
  turns : List Nat
  minted : Nat
  log : List Chunk
  ended : List Nat
  dispatches : List Dispatch

namespace ChannelChat

/-- `lagging` are the subscriptions that lose the event. -/
inductive Event where
  | subscribe
  | send (k : Nat) (outcome : SendOutcome) (now : Nat)
  | emit (event : AgentStreamEvent) (now : Nat) (lagging : List Nat)
  | close
  deriving DecidableEq

def start : ChannelChat where
  turns := []
  minted := 0
  log := []
  ended := []
  dispatches := []

variable (s : ChannelChat)

/-- The turn that the agent is at. Without one, the agent has started a turn of its own. -/
def running : Nat :=
  s.turns.headD s.minted

def ensureRunning : ChannelChat :=
  if s.turns = [] then { s with turns := [s.minted], minted := s.minted + 1 } else s

def send (c : RelayConfig) (k now : Nat) (kept : List (Nat × StreamAction))
    (closed : Bool) : SendOutcome → ChannelChat
  | .started =>
    { s with
      turns := s.turns ++ [s.minted]
      minted := s.minted + 1
      dispatches := s.dispatches.set k (.spawn c now s.minted kept closed) }
  | .delivered => { s with dispatches := s.dispatches.set k (.spawn c now s.minted kept closed) }
  | .refused error => { s with dispatches := s.dispatches.set k (.failed error) }

/-- What an event is to the turn: a piece of its text, or its end. -/
def record (turn : Nat) : StreamAction → ChannelChat
  | .appendText chunk => { s with log := s.log ++ [{ turn := turn, content := chunk }] }
  | .finish | .error _ => { s with turns := s.turns.tail, ended := turn :: s.ended }
  | .thinking _ | .toolCall _ _ => s

def broadcast (c : RelayConfig) (now turn : Nat) (action : StreamAction)
    (lagging : List Nat) : ChannelChat :=
  { s with
    dispatches := s.dispatches.mapIdx fun k d =>
      if k ∈ lagging then d else d.receive c now turn action }

def emit (c : RelayConfig) (now : Nat) (action : StreamAction) (lagging : List Nat) : ChannelChat :=
  (s.ensureRunning.record s.running action).broadcast c now s.running action lagging

/-- The agent is dropped, and the turns with it. -/
def close (s : ChannelChat) (c : RelayConfig) : ChannelChat :=
  { s with
    turns := []
    ended := s.turns ++ s.ended
    dispatches := s.dispatches.map (·.close c) }

def next (c : RelayConfig) (s : ChannelChat) : Event → ChannelChat
  | .subscribe => { s with dispatches := s.dispatches ++ [.subscribed [] false] }
  | .send k outcome now =>
    match s.dispatches[k]? with
    | some (.subscribed kept closed) => s.send c k now kept closed outcome
    | _ => s
  | .emit event now lagging =>
    match processStreamEvent event with
    | some action => s.emit c now action lagging
    | none => s
  | .close => s.close c

def messages (s : ChannelChat) : List UnifiedOutgoingMessage :=
  s.dispatches.flatMap (·.messages)

def chunks (turn : Nat) : List Chunk :=
  s.log.filter (·.turn = turn)

end ChannelChat

end KiCore.Channel

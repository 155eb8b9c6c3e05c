import KiCore.Conversation.Types
import KiCore.Session.Reducer

/-!
# The event pump of a session agent

Port of `spawn_event_pump` in `session_agent.rs`: the raw envelopes of a session go in, the frames
of the conversation come out. A clean result that comes while workflow containers are live is held
back; the pump pays it itself when the last of them is killed.

A turn begins with a new generation of the envelopes, or with the first content after the previous
turn has settled. Turns are counted here, and a frame carries the turn that it was sent in. Frames
of the workflow cards, of the catalogs and of the usage are left out, and so are the names and the
outputs of tool calls. Of the status, the writes of the pump are here; `send_message` sets it to running
before the pump sees the turn, and a kill emits a finish of its own.
-/

namespace KiCore.Agent

inductive ConversationStatus where
  | pending
  | running
  | finished
  deriving DecidableEq

inductive SubagentTaskKind where
  | workflowContainer
  | agentContainer
  | other
  deriving DecidableEq

/-- The events of a session, with the data that the pump reads. `detachedExec` says that the
arguments of a tool call are those of a detached command. -/
inductive SessionEvent where
  | turnStarted
  | messageDelta (text : String)
  | thoughtDelta (text : String)
  | toolCall (toolUseId : String) (detachedExec : Bool)
  | toolResult (toolUseId : String) (isError : Bool)
  | toolOutputDelta (itemId : String)
  | turnResult (isError : Bool) (resultText : String) (outcome : Session.TurnOutcome)
  | detached (exit : Option Session.ExitStatusLite)
  | plan
  | permission
  | ask
  | subagentUpdate (ref : String) (status : Session.SubagentStatus) (kind : Option SubagentTaskKind)
  | notice (tipType : Conversation.TipType) (code : Option String)
  | other
  deriving DecidableEq

structure SessionEnvelope where
  turnGen : Nat
  event : SessionEvent

inductive ToolCallStatus where
  | running
  | completed
  | error
  | canceled
  deriving DecidableEq

/-- The frames of the pump. `emptyTurnTip` is the `Tips` frame of a blank reply. -/
inductive AgentStreamEvent where
  | text (content : String)
  | thinking (content : String)
  | toolCall (callId : String) (status : ToolCallStatus)
  | plan
  | acpPermission
  | ask
  | tips (tipType : Conversation.TipType) (code : Option String)
  | emptyTurnTip (tipType : Conversation.TipType) (code : String)
  | segmentBreak
  | finish
  | error
  deriving DecidableEq

namespace AgentStreamEvent

def isTerminal : AgentStreamEvent → Bool
  | finish | error => true
  | _ => false

/-- `event_is_user_visible_output`. -/
def isVisible : AgentStreamEvent → Bool
  | text _ | thinking _ | toolCall _ _ | plan | acpPermission => true
  | _ => false

def isEmptyTurnTip : AgentStreamEvent → Bool
  | emptyTurnTip _ _ => true
  | _ => false

end AgentStreamEvent

def isCancelled : Session.TurnOutcome → Bool
  | .cancelled _ => true
  | _ => false

def emptyTurnTip : Session.TurnOutcome → Option AgentStreamEvent
  | .endTurn | .completed .endTurn => some (.emptyTurnTip .info "ACP_EMPTY_TURN")
  | .completed (.truncated .maxTokens) => some (.emptyTurnTip .warning "ACP_EMPTY_TURN_MAX_TOKENS")
  | .completed (.truncated .maxTurns) =>
    some (.emptyTurnTip .warning "ACP_EMPTY_TURN_MAX_TURN_REQUESTS")
  | .completed (.refused _) => some (.emptyTurnTip .warning "ACP_EMPTY_TURN_REFUSAL")
  | .completed (.truncated _) | .failed => some (.emptyTurnTip .warning "ACP_EMPTY_TURN")
  | .cancelled _ => none

/-- `translate_event`. No event is translated into two frames. -/
def translateEvent (trim : String → String) (terminalResultSeen : Bool) :
    SessionEvent → Option AgentStreamEvent
  | .messageDelta text => some (.text text)
  | .thoughtDelta text => some (.thinking text)
  | .toolCall toolUseId _ => some (.toolCall toolUseId .running)
  | .toolResult toolUseId isError =>
    some (.toolCall toolUseId (if isError then .error else .completed))
  | .turnResult isError resultText outcome =>
    -- A cancel is reported as an error, and an error without a text ends the turn as a finish.
    if isError && !isCancelled outcome && trim resultText ≠ "" then some .error else some .finish
  | .detached exit =>
    match Session.crashOutcome terminalResultSeen exit with
    | .crashed => some .error
    | .cleanNoResult | .followResult => some .finish
  | .plan => some .plan
  | .permission => some .acpPermission
  | .ask => some .ask
  | .notice tipType code => some (.tips tipType code)
  | .turnStarted | .toolOutputDelta _ | .subagentUpdate .. | .other => none

namespace SessionEvent

def isTurnResult : SessionEvent → Bool
  | turnResult .. => true
  | _ => false

def isContent : SessionEvent → Bool
  | messageDelta _ | thoughtDelta _ | toolCall .. | toolResult .. | permission | ask => true
  | _ => false

/-- A result that is neither an error nor a cancel. -/
def isClean : SessionEvent → Bool
  | turnResult isError _ outcome => !isError && !isCancelled outcome
  | _ => false

end SessionEvent

structure OpenTool where
  callId : String
  detachedExec : Bool

/-- The locals of the pump and the status of the runtime. `turn` counts the turns; `settled` are
those that have come to their end and `suppressed` those with a result that was held back; `ended`
says that the stream has ended. -/
structure EventPump where
  lastSeenTurnGen : Nat
  workflowInflight : List String
  finishSuppressedPending : Bool
  syntheticFinishEmitted : Bool
  terminalResultSeen : Bool
  sawVisibleOutput : Bool
  openTools : List OpenTool
  status : Option ConversationStatus
  turn : Nat
  settled : List Nat
  suppressed : List Nat
  frames : List (Nat × AgentStreamEvent)
  ended : Bool

namespace EventPump

inductive Event where
  | envelope (env : SessionEnvelope)
  | close

def start : EventPump where
  lastSeenTurnGen := 0
  workflowInflight := []
  finishSuppressedPending := false
  syntheticFinishEmitted := false
  terminalResultSeen := false
  sawVisibleOutput := false
  openTools := []
  status := none
  turn := 0
  settled := []
  suppressed := []
  frames := []
  ended := false

variable (s : EventPump)

def emit (frames : List AgentStreamEvent) : EventPump :=
  { s with frames := s.frames ++ frames.map (s.turn, ·) }

def startTurn : EventPump :=
  { s with
    status := some .running
    terminalResultSeen := false
    workflowInflight := []
    finishSuppressedPending := false
    syntheticFinishEmitted := false }

def advance (turnGen : Nat) : EventPump :=
  if s.lastSeenTurnGen < turnGen then
    { s.startTurn with lastSeenTurnGen := turnGen, turn := s.turn + 1 }
  else s

def beginTurn : EventPump :=
  if s.turn ∈ s.settled then { s with turn := s.turn + 1 } else s

variable (event : SessionEvent)

/-- Content arms the pump again for the terminal of its turn. -/
def rearm : EventPump :=
  -- The flag of the pump's own finish stays as it is, and so does the status.
  if event.isContent then { s with terminalResultSeen := false }.beginTurn else s

/-- The open tool calls are closed as canceled, but for the detached ones if these are kept. -/
def closeTools (keepBackground : Bool) : EventPump :=
  let kept := s.openTools.filter fun tool => keepBackground && tool.detachedExec
  let closed := s.openTools.filter fun tool => !(keepBackground && tool.detachedExec)
  { s.emit (closed.map fun tool => .toolCall tool.callId .canceled) with openTools := kept }

def settle : EventPump :=
  { s with settled := s.settled.insert s.turn }

/-- `emit_finish_once`. -/
def emitFinishOnce : EventPump :=
  if s.status = some .finished then s else { s.emit [.finish] with status := some .finished }

/-- The last container was killed while a finish is owed. -/
def settleOwed : EventPump :=
  let s := { s with
    finishSuppressedPending := false, syntheticFinishEmitted := true, terminalResultSeen := true }
  { s.closeTools false with sawVisibleOutput := false }.emitFinishOnce.settle

def updateSubagent (ref : String) (status : Session.SubagentStatus)
    (kind : Option SubagentTaskKind) : EventPump :=
  if status.isTerminal then
    let s := { s with workflowInflight := s.workflowInflight.filter (· ≠ ref) }
    -- After a natural completion the agent still sends a result.
    if s.workflowInflight = [] ∧ s.finishSuppressedPending = true ∧ status ≠ .completed then
      s.settleOwed
    else s
  -- Other tasks outlive their turn with no result to come.
  else if kind = some .workflowContainer then
    { s with workflowInflight := s.workflowInflight.insert ref }
  else s

def updateRoster : SessionEvent → EventPump
  | .subagentUpdate ref status kind => s.updateSubagent ref status kind
  | _ => s

/-- `suppress_intermediate_finish`. -/
def suppresses : Bool :=
  s.workflowInflight ≠ [] && event.isClean

def finishTurn (keepBackground isTurnResult : Bool) : EventPump :=
  { { s with
      finishSuppressedPending := false, status := some .finished }.closeTools keepBackground with
    -- An exit is not noted as the terminal of its turn.
    terminalResultSeen := s.terminalResultSeen || isTurnResult
    sawVisibleOutput := false }.settle

def updateStatus : EventPump :=
  match event with
  | .turnStarted => s.startTurn.beginTurn
  | .toolCall toolUseId detachedExec =>
    { s with
      openTools := { callId := toolUseId, detachedExec } :: s.openTools.filter (·.callId ≠ toolUseId) }
  | .toolResult toolUseId _ => { s with openTools := s.openTools.filter (·.callId ≠ toolUseId) }
  | .turnResult .. => if s.suppresses event then s else s.finishTurn event.isClean true
  | .detached _ => s.finishTurn false false
  | _ => s

/-- The tip of a blank reply that goes before the finish. -/
def pendingEmptyTurnTip : Option AgentStreamEvent :=
  match event with
  | .turnResult false _ outcome =>
    if s.suppresses event || s.sawVisibleOutput then none else emptyTurnTip outcome
  | _ => none

/-- A translated frame is sent, swallowed or held back. -/
def forward (suppress : Bool) (tip : Option AgentStreamEvent)
    (frame : AgentStreamEvent) : EventPump :=
  let s := if frame.isVisible then { s with sawVisibleOutput := true } else s
  if frame = .finish then
    -- The pump has made the finish of this turn already.
    if s.syntheticFinishEmitted then s
    else
      let s := s.emit tip.toList
      if suppress then
        { s.emit [.segmentBreak] with
          finishSuppressedPending := true, suppressed := s.turn :: s.suppressed }
      else s.emit [frame]
  else s.emit [frame]

variable (trim : String → String)

def handle (s : EventPump) (event : SessionEvent) : EventPump :=
  let s := s.updateRoster event
  let suppress := s.suppresses event
  let tip := s.pendingEmptyTurnTip event
  let s := s.updateStatus event
  (translateEvent trim s.terminalResultSeen event).elim s (s.forward suppress tip)

def process (s : EventPump) (env : SessionEnvelope) : EventPump :=
  let s := s.advance env.turnGen
  if s.terminalResultSeen = true ∧ env.event.isTurnResult = true then s
  else
    let s := s.rearm env.event
    match env.event with
    | .toolOutputDelta itemId =>
      { s with sawVisibleOutput := true }.emit [.toolCall itemId .running]
    | event => s.handle trim event

def next (s : EventPump) : Event → EventPump
  | .envelope env => if s.ended then s else s.process trim env
  | .close => { s with ended := true }

end EventPump

end KiCore.Agent

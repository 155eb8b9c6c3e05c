import KiCore.Conversation.RuntimeState
import KiCore.Conversation.Types

/-!
# The stream relay

Port of `StreamRelay` in `stream_relay.rs` and of the text part of `StreamPersistenceAdapter`. A
relay takes the events of an agent up to the first terminal, sends the live frames and writes the
rows of the conversation; in the end it runs the middleware over the whole text, and says what the
attempt has produced. Every event comes with the runtime state of the conversation at that moment.

The middleware and `str::trim` are parameters, and minted ids are all different. Rows of tools,
plans and tips of the agent are left out.
-/

namespace KiCore.Conversation

structure TurnAttemptSummary where
  sawVisibleOutput : Bool
  sawToolOrSideEffect : Bool
  persistedAssistantOutput : Bool
  terminalError : Option AgentStreamErrorData
  terminalErrorDeferred : Bool
  needsAuth : Bool
  deriving DecidableEq

namespace TurnAttemptSummary

def default : TurnAttemptSummary where
  sawVisibleOutput := false
  sawToolOrSideEffect := false
  persistedAssistantOutput := false
  terminalError := none
  terminalErrorDeferred := false
  needsAuth := false

def safeToAutoReplay (a : TurnAttemptSummary) : Bool :=
  !a.sawVisibleOutput && !a.sawToolOrSideEffect && !a.persistedAssistantOutput

def merge (a b : TurnAttemptSummary) : TurnAttemptSummary where
  sawVisibleOutput := a.sawVisibleOutput || b.sawVisibleOutput
  sawToolOrSideEffect := a.sawToolOrSideEffect || b.sawToolOrSideEffect
  persistedAssistantOutput := a.persistedAssistantOutput || b.persistedAssistantOutput
  terminalError := b.terminalError.or a.terminalError
  terminalErrorDeferred := a.terminalErrorDeferred || b.terminalErrorDeferred
  needsAuth := a.needsAuth || b.needsAuth

end TurnAttemptSummary

inductive RelayTerminal where
  | finish
  | error (code : Option AgentErrorCode) (retryable : Option Bool)
  | channelClosed
  deriving DecidableEq

namespace RelayTerminal

def isError : RelayTerminal → Bool
  | .error _ _ => true
  | _ => false

def code : RelayTerminal → Option AgentErrorCode
  | .error code _ => code
  | _ => none

def retryable : RelayTerminal → Option Bool
  | .error _ retryable => retryable
  | _ => none

end RelayTerminal

structure RelayOutcome where
  systemResponses : List String
  terminal : RelayTerminal
  attempt : TurnAttemptSummary
  deriving DecidableEq

inductive MsgId where
  | primary
  | minted (n : Nat)
  deriving DecidableEq

structure TextSegmentState where
  id : MsgId
  buffer : String
  recordCreated : Bool
  flushCounter : Nat

structure ThinkingSegmentState where
  id : MsgId
  buffer : String

inductive MessageStatus where
  | work
  | finish
  | error
  deriving DecidableEq

/-- A row of type `text`. -/
structure TextRow where
  id : MsgId
  content : String
  status : MessageStatus
  hidden : Bool

/-- A frame of type `message.stream`. `content` appends to its message, `replace` replaces it. -/
inductive LiveFrame where
  | content (msgId : MsgId) (text : String)
  | replace (msgId : MsgId) (text : String) (hidden : Bool)
  | thinkingDone (msgId : MsgId)
  | event (msgId : MsgId) (event : StreamRelay.AgentStreamEvent)
  | system (response : String)
  deriving DecidableEq

structure MiddlewareResult where
  message : String
  systemResponses : List String

structure StreamRelay where
  process : String → MiddlewareResult
  trim : String → String
  deferCleanTerminalErrors : Bool

/-- The locals of the loop, what was written and what was sent. `segments` are the ids of all
segments that were opened, of text and of thinking; `errorTips` are the errors that were persisted.
-/
structure RelayState where
  fullText : String
  textSegments : List MsgId
  activeText : Option TextSegmentState
  activeThinking : Option ThinkingSegmentState
  usedPrimary : Bool
  minted : Nat
  attempt : TurnAttemptSummary
  textRows : List TextRow
  thinkingRows : List ThinkingSegmentState
  errorTips : List AgentStreamErrorData
  frames : List LiveFrame
  segments : List MsgId

/-- `FLUSH_INTERVAL`: a segment is written to its row after so many chunks. -/
def flushInterval : Nat := 20

/-- `update_message`: the row of an id is changed, if there is one. -/
def updateMessage (id : MsgId) (f : TextRow → TextRow) (rows : List TextRow) : List TextRow :=
  rows.map fun row => if row.id = id then f row else row

namespace RelayState

def start : RelayState where
  fullText := ""
  textSegments := []
  activeText := none
  activeThinking := none
  usedPrimary := false
  minted := 0
  attempt := .default
  textRows := []
  thinkingRows := []
  errorTips := []
  frames := []
  segments := []

variable (s : RelayState)

def send (frame : LiveFrame) : RelayState :=
  { s with frames := s.frames ++ [frame] }

/-- Frames of other types have the id of the relay. -/
def forward (event : StreamRelay.AgentStreamEvent) : RelayState :=
  s.send (.event .primary event)

def nextSegmentMsgId : MsgId :=
  if s.usedPrimary then .minted s.minted else .primary

def mintSegmentMsgId : RelayState :=
  { s with
    usedPrimary := true
    minted := if s.usedPrimary then s.minted + 1 else s.minted
    segments := s.segments ++ [s.nextSegmentMsgId] }

variable (allows : RuntimeWriteKind → Bool)

/-- The text so far is written to the row of its segment, which is inserted the first time. -/
def flushTextSegment (segment : TextSegmentState) : RelayState :=
  if allows .assistantTextFlush = false ∨ segment.buffer = "" then
    { s with activeText := some { segment with flushCounter := 0 } }
  else if segment.recordCreated then
    { s with
      activeText := some { segment with flushCounter := 0 }
      textRows := updateMessage segment.id
        (fun row => { row with content := segment.buffer, status := .work }) s.textRows }
  else
    { s with
      activeText := some { segment with flushCounter := 0, recordCreated := true }
      textRows := s.textRows ++
        [{ id := segment.id, content := segment.buffer, status := .work, hidden := false }] }

/-- `close_active_text_segment` with `finalize_text_segment`. -/
def closeActiveText (status : MessageStatus) : RelayState :=
  match s.activeText with
  | none => s
  | some segment =>
    if allows .assistantTextFinalize = false ∨ segment.buffer = "" then
      { s with activeText := none }
    else
      { s with
        activeText := none
        textSegments := s.textSegments ++ [segment.id]
        textRows :=
          if segment.recordCreated then
            updateMessage segment.id
              (fun row => { row with content := segment.buffer, status, hidden := false }) s.textRows
          else
            s.textRows ++ [{ id := segment.id, content := segment.buffer, status, hidden := false }] }

/-- `complete_active_thinking` with `persist_thinking_segment`. -/
def completeActiveThinking : RelayState :=
  match s.activeThinking with
  | none => s
  | some segment =>
    { s.send (.thinkingDone segment.id) with
      activeThinking := none
      thinkingRows :=
        if segment.buffer = "" ∨ allows .assistantThinkingFinalize = false then s.thinkingRows
        else s.thinkingRows ++ [segment] }

def closeSegments (status : MessageStatus) : RelayState :=
  (s.completeActiveThinking allows).closeActiveText allows status

def sawVisibleOutput (s : RelayState) : RelayState :=
  { s with attempt := { s.attempt with sawVisibleOutput := true } }

def sawToolOrSideEffect (s : RelayState) : RelayState :=
  { s with attempt := { s.attempt with sawToolOrSideEffect := true } }

/-- The active segment gets a segment's next chunk; there is one from now on. -/
def openText : RelayState :=
  match s.activeText with
  | some _ => s
  | none =>
    { s.mintSegmentMsgId with
      activeText := some
        { id := s.nextSegmentMsgId, buffer := "", recordCreated := false, flushCounter := 0 } }

def openThinking : RelayState :=
  match s.activeThinking with
  | some _ => s
  | none =>
    { s.mintSegmentMsgId with
      activeThinking := some { id := s.nextSegmentMsgId, buffer := "" } }

variable (content : String)

def appendText : RelayState :=
  match s.activeText with
  | none => s
  | some active =>
    let s' := { s.send (.content active.id content) with fullText := s.fullText ++ content }
    let segment := { active with
      buffer := active.buffer ++ content
      flushCounter := active.flushCounter + 1 }
    if flushInterval ≤ segment.flushCounter then s'.flushTextSegment allows segment
    else { s' with activeText := some segment }

def appendThinking (event : StreamRelay.AgentStreamEvent) : RelayState :=
  match s.activeThinking with
  | none => s
  | some active =>
    { s.send (.event active.id event) with
      activeThinking := some { active with buffer := active.buffer ++ content } }

def onText : RelayState :=
  let s := s.completeActiveThinking allows
  let s := if content = "" then s else s.sawVisibleOutput
  s.openText.appendText allows content

/-- A chunk that has nothing to render opens no segment. -/
def onThinking (subject status : Option String) : RelayState :=
  if status = some "done" then s.completeActiveThinking allows
  else if content = "" ∧ subject = none then s
  else
    let s := s.closeActiveText allows .finish
    let s := if content = "" then s else s.sawVisibleOutput
    s.openThinking.appendThinking content (.thinking content subject status)

def onTool (event : StreamRelay.AgentStreamEvent) : RelayState :=
  (s.sawToolOrSideEffect.closeSegments allows .finish).forward event

/-- Only a success blocks a replay; the code tells that the agent is not signed in. -/
def onTips (tipType : TipType) (code : Option String) : RelayState :=
  let s := if tipType = .success then s.sawVisibleOutput else s
  let s := if code = some "ACP_EMPTY_TURN_NEEDS_AUTH" then
    { s with attempt := { s.attempt with needsAuth := true } } else s
  s.forward (.tips tipType code)

/-- The arm of an event that does not end the loop. While the conversation is deleted, such events
are skipped. -/
def handle (state : ConversationRuntimeState) (event : StreamRelay.AgentStreamEvent) : RelayState :=
  let allows := state.lifecycle.allows
  if state.deleting then s
  else match event with
    | .segmentBreak => s.closeSegments allows .finish
    | .acpDialectSignal | .backendTurnBound _ | .messageLifecycle => s
    | .thinking content subject status => s.onThinking allows content subject status
    | .text content => s.onText allows content
    | .toolCall | .acpToolCall | .toolGroup => s.onTool allows event
    | .workflowProgress _ => s.forward event
    | .tips tipType code => s.onTips tipType code
    | .cronTrigger | .permission | .acpPermission | .ask => s.sawToolOrSideEffect.forward event
    | .acpSessionInfo | .plan | .forwarded => s.forward event
    | .finish | .error _ => s

/-- The updates of `persist_final_text` to the rows of the segments. -/
def rewriteRows (textSegments : List MsgId) (status : MessageStatus) (finalText : String)
    (hidden rewrite : Bool) (rows : List TextRow) : List TextRow :=
  match textSegments with
  | [] =>
    if hidden then rows
    else rows ++ [{ id := .primary, content := finalText, status, hidden := false }]
  | first :: rest =>
    if rewrite then
      rest.foldl
        (fun rows id => updateMessage id (fun row => { row with status, hidden := true }) rows)
        (updateMessage first (fun row => { row with content := finalText, status, hidden }) rows)
    else
      textSegments.foldl
        (fun rows id => updateMessage id (fun row => { row with status, hidden := false }) rows) rows

/-- The overrides of `persist_final_text`. -/
def finalOverrides (textSegments : List MsgId) (finalText : String) (hidden rewrite : Bool) :
    List LiveFrame :=
  match textSegments with
  | [] => []
  | first :: rest =>
    if rewrite then .replace first finalText hidden :: rest.map (.replace · "" true) else []

end RelayState

namespace StreamRelay

open RelayState

variable (r : StreamRelay)

/-- `finalize`: the text goes through the middleware, and an error without text is persisted. -/
def finalize (s : RelayState) (allows : RuntimeWriteKind → Bool)
    (error : Option AgentStreamErrorData) : List String × RelayState :=
  let status : MessageStatus := if error.isSome then .error else .finish
  if s.fullText = "" then
    match error with
    | some data =>
      ([], if allows .terminalFinalize then { s with errorTips := s.errorTips ++ [data] } else s)
    | none => ([], s)
  else
    let processed := r.process s.fullText
    let finalText := r.trim processed.message
    let hidden := decide (finalText = "")
    let rewrite := decide (processed.message ≠ s.fullText) || hidden
    let overrides :=
      if allows .terminalFinalize then finalOverrides s.textSegments finalText hidden rewrite else []
    let textRows :=
      if allows .terminalFinalize then
        rewriteRows s.textSegments status finalText hidden rewrite s.textRows
      else s.textRows
    (processed.systemResponses,
      { s with
        textRows
        frames := s.frames ++ overrides ++ processed.systemResponses.map .system })

/-- Whether an error is left to the orchestrator, which may replay the turn. -/
def defersError (attempt : TurnAttemptSummary) (data : AgentStreamErrorData) : Bool :=
  r.deferCleanTerminalErrors && data.retryable = some true &&
    data.code ≠ some .userLlmProviderModelNotFound && attempt.safeToAutoReplay

/-- What ends the loop. -/
inductive RelayEnd where
  | finish
  | error (data : AgentStreamErrorData)
  | closed
  deriving DecidableEq

namespace RelayEnd

def terminal : RelayEnd → RelayTerminal
  | .finish => .finish
  | .error data => .error data.code data.retryable
  | .closed => .channelClosed

def event : RelayEnd → Option StreamRelay.AgentStreamEvent
  | .finish => some .finish
  | .error data => some (.error data)
  | .closed => none

def errorData : RelayEnd → Option AgentStreamErrorData
  | .error data => some data
  | _ => none

def status : RelayEnd → MessageStatus
  | .error _ => .error
  | _ => .finish

end RelayEnd

/-- The events up to the first terminal. `closing` is the runtime state when the stream ends. -/
def loop (closing : ConversationRuntimeState) (s : RelayState) :
    List (ConversationRuntimeState × StreamRelay.AgentStreamEvent) →
      RelayState × ConversationRuntimeState × RelayEnd
  | [] => (s, closing, .closed)
  | (state, .finish) :: _ => (s, state, .finish)
  | (state, .error data) :: _ => (s, state, .error data)
  | (state, event) :: rest => loop closing (s.handle state event) rest

/-- The segments are closed, unless the conversation is deleted, and the terminal is shown. -/
def close (s : RelayState) (state : ConversationRuntimeState) (ending : RelayEnd) : RelayState :=
  let closed :=
    if state.deleting then s else s.closeSegments state.lifecycle.allows ending.status
  ending.event.elim closed closed.forward

/-- The text is finalized, unless the conversation is deleted. -/
def conclude (s : RelayState) (state : ConversationRuntimeState) (ending : RelayEnd) :
    RelayOutcome × RelayState :=
  let closed := close s state ending
  let finalized :=
    if state.deleting then ([], closed)
    else r.finalize closed state.lifecycle.allows ending.errorData
  ({ systemResponses := finalized.1
     terminal := ending.terminal
     attempt := { s.attempt with
       terminalError := ending.errorData
       persistedAssistantOutput := decide (s.fullText ≠ "") } },
    finalized.2)

/-- A deferred error is neither shown nor persisted. -/
def terminate (s : RelayState) (state : ConversationRuntimeState) :
    RelayEnd → RelayOutcome × RelayState
  | .error data =>
    if r.defersError s.attempt data then
      ({ systemResponses := []
         terminal := .error data.code data.retryable
         attempt := { s.attempt with terminalError := some data, terminalErrorDeferred := true } }, s)
    else r.conclude s state (.error data)
  | ending => r.conclude s state ending

def consume (closing : ConversationRuntimeState)
    (events : List (ConversationRuntimeState × StreamRelay.AgentStreamEvent)) :
    RelayOutcome × RelayState :=
  let ended := loop closing .start events
  r.terminate ended.1 ended.2.1 ended.2.2

end StreamRelay

end KiCore.Conversation

import KiCore.Lib.Table
import KiCore.Lib.Text
import KiCore.Session.Event

/-!
# The claude adapter

Port of `adapter/claude.rs`: what `ClaudeAdapter` makes of one frame of the CLI. A `Frame` holds the
fields that the adapter reads, as it reads them: an absent or ill-typed field has the default of its
accessor. Left out are the buffer of half lines, the payloads that are only passed on (tool inputs and
outputs, questions, plans, opaque frames) and the cost of a turn.
-/

namespace KiCore.Session.Claude

open KiCore.Lib

inductive StreamBlockKind where
  | text
  | thinking
  | other
  deriving DecidableEq

/-- The token counts of an API call, or of a whole turn on a `result` frame. -/
structure Usage where
  inputTokens : Nat
  outputTokens : Nat
  cacheCreationInputTokens : Nat
  cacheReadInputTokens : Nat
  totalTokens : Option Nat
  thinkingTokens : Nat

def Usage.total (usage : Usage) : Nat :=
  usage.inputTokens + usage.cacheCreationInputTokens + usage.cacheReadInputTokens +
    usage.outputTokens

/-- The counts of one model on a `result` frame. -/
structure ModelUsage where
  model : String
  contextWindow : Option Nat
  counts : Usage

/-- Why a call or a turn has stopped. -/
structure Reasons where
  terminalReason : Option String
  stopReason : Option String

inductive Delta where
  | textDelta (text : String)
  | thinkingDelta (thinking : String)
  | other
  deriving DecidableEq

/-- The streaming event that a `stream_event` frame wraps. -/
inductive StreamEvent where
  | messageStart (messageId : String)
  | contentBlockStart (index : Option Nat) (kind : StreamBlockKind)
  | contentBlockDelta (index : Option Nat) (delta : Delta)
  | contentBlockStop
  | messageStop
  | messageDelta (usage : Option Usage) (reasons : Reasons)
  | other (subType : String)

/-- A content block of an `assistant` frame. `todos` says that the input has a list of todos. -/
inductive Block where
  | text (text : String)
  | thinking (thinking : String)
  | toolUse (id name displayName : String) (todos : Bool)
  | other (type : String)
  deriving DecidableEq

structure ToolResultBlock where
  toolUseId : String
  isError : Bool

structure ResultFrame where
  isError : Bool
  apiErrorStatus : Option Nat
  result : Option String
  errors : List String
  subtype : String
  reasons : Reasons
  usage : Option Usage
  modelUsage : List ModelUsage

inductive Frame where
  | system (subtype : String) (model : Option String)
  | assistant (parentToolUseId : Option String) (messageId : String) (content : List Block)
  | user (parentToolUseId : Option String) (content : List ToolResultBlock)
  | result (frame : ResultFrame)
  | controlRequest (subtype toolUseId : String) (requestId toolName : Option String)
  | controlCancelRequest (requestId : Option String)
  | streamEvent (parentToolUseId : Option String) (event : StreamEvent)
  | commandLifecycle (commandUuid state : Option String)
  | other (type : String)

structure UsageDelta where
  inputTokens : Nat
  outputTokens : Nat
  totalTokens : Nat
  contextWindow : Option Nat
  cachedReadTokens : Nat
  cachedWriteTokens : Nat
  thoughtTokens : Nat

/-- What the adapter emits: a session event, where a usage event comes with its payload. -/
inductive AdapterEvent where
  | event (e : SessionEvent)
  | usageDelta (delta : UsageDelta)

def AdapterEvent.session : AdapterEvent → SessionEvent
  | .event e => e
  | .usageDelta _ => .usageDelta

structure StreamState where
  itemId : String
  blockKind : Table Nat StreamBlockKind
  streamedText : Bool
  streamedThinking : Bool

structure ClaudeAdapter where
  stream : StreamState
  lastCallTokens : Option Nat
  turnThoughtTokens : Nat
  currentModel : Option String
  askRequests : List String
  todoToolUseIds : List String

def ClaudeAdapter.new : ClaudeAdapter where
  stream := { itemId := "", blockKind := ∅, streamedText := false, streamedThinking := false }
  lastCallTokens := none
  turnThoughtTokens := 0
  currentModel := none
  askRequests := []
  todoToolUseIds := []

def streamItemKey (itemId : String) : StreamBlockKind → String
  | .text => itemId ++ ":text"
  | .thinking => itemId ++ ":think"
  | .other => itemId

def resultOutcome (reasons : Reasons) : TurnOutcome :=
  match (reasons.terminalReason.or reasons.stopReason).getD "" with
  | "cancelled" | "aborted_streaming" | "aborted_tools" => .cancelled .userCancel
  | "max_tokens" | "prompt_too_long" => .completed (.truncated .maxTokens)
  | "max_turns" => .completed (.truncated .maxTurns)
  | "refusal" => .completed (.refused none)
  -- errors go by `is_error`, not by the outcome
  | _ => .completed .endTurn

def blank (s : String) : Bool := s.toList.all Lib.Str.isWhitespace

/-- An internal diagnostic of the CLI, which is not shown to the user. -/
def edeDiagnostic (error : String) : Bool :=
  "[ede_diagnostic]".toList.isPrefixOf (error.toList.dropWhile Lib.Str.isWhitespace)

namespace ClaudeAdapter

variable (a : ClaudeAdapter)

def parseSystem (subtype : String) (model : Option String) : ClaudeAdapter × List AdapterEvent :=
  match subtype with
  | "init" => ({ a with currentModel := model.or a.currentModel }, [])
  -- a compaction rewrites the context, so that the latched occupancy is stale
  | "compact_boundary" => ({ a with lastCallTokens := none }, [.event .heartbeat])
  | "api_retry" | "compacting" => (a, [.event .heartbeat])
  | other => (a, [.event (.adapterSpecific ("system/" ++ other))])

/-- The call of `TodoWrite` that a block is, if it is one. -/
def todoWrite : Block → Option String
  | .toolUse id name _ todos => if name = "TodoWrite" && todos then some id else none
  | _ => none

/-- What one content block emits; text that has been streamed is not emitted again. -/
def blockEvents (messageId : String) (streamedText streamedThinking : Bool) :
    Block → List AdapterEvent
  | .text text =>
    if streamedText then [] else [.event (.messageDelta (streamItemKey messageId .text) text)]
  | .thinking thinking =>
    if streamedThinking || thinking = "" then []
    else [.event (.thoughtDelta (streamItemKey messageId .thinking) thinking)]
  | .toolUse id name displayName todos =>
    if blank name then []
    else if name = "TodoWrite" && todos then [.event .plan]
    else [.event (.toolCall id displayName)]
  | .other type => [.event (.adapterSpecific ("assistant/" ++ type))]

def parseAssistant (messageId : String) (content : List Block) :
    ClaudeAdapter × List AdapterEvent :=
  let streamedText := a.stream.itemId = messageId && a.stream.streamedText
  let streamedThinking := a.stream.itemId = messageId && a.stream.streamedThinking
  ({ a with todoToolUseIds := content.filterMap todoWrite ++ a.todoToolUseIds },
    content.flatMap (blockEvents messageId streamedText streamedThinking))

def parseUser (a : ClaudeAdapter) : List ToolResultBlock → ClaudeAdapter × List AdapterEvent
  | [] => (a, [])
  | b :: content =>
    -- the call has become a plan, so that there is no card for its result
    if b.toolUseId ∈ a.todoToolUseIds then
      parseUser { a with todoToolUseIds := a.todoToolUseIds.filter (· ≠ b.toolUseId) } content
    else
      let (a', events) := parseUser a content
      (a', .event (.toolResult b.toolUseId b.isError) :: events)

def resultText (frame : ResultFrame) : String :=
  let result := frame.result.getD ""
  let fromErrors := String.intercalate "; " (frame.errors.filter fun e => !edeDiagnostic e)
  if result ≠ "" then result
  else if fromErrors = "" && frame.isError then frame.subtype
  else fromErrors

def heaviest : List (Nat × Nat) → Option (Nat × Nat)
  | [] => none
  | entry :: entries =>
    match heaviest entries with
    | none => some entry
    | some best => some (if best.1 < entry.1 then entry else best)

/-- The window of the model that runs now, or else of the model with the largest volume. -/
def resultContextWindow (entries : List ModelUsage) : Option Nat :=
  let current := a.currentModel.bind fun model =>
    (entries.find? fun m => m.model = model).bind ModelUsage.contextWindow
  let weighed := entries.filterMap fun m => m.contextWindow.map fun window => (m.counts.total, window)
  current.or ((heaviest weighed).map Prod.snd)

/-- The occupancy of the context: that of the last call, or else the volume of the turn. -/
def totalTokens (a : ClaudeAdapter) (usage : Usage) : Nat :=
  a.lastCallTokens.getD (usage.totalTokens.getD usage.total)

def usageDelta (frame : ResultFrame) (usage : Usage) : UsageDelta where
  inputTokens := usage.inputTokens
  outputTokens := usage.outputTokens
  totalTokens := a.totalTokens usage
  contextWindow := a.resultContextWindow frame.modelUsage
  cachedReadTokens := usage.cacheReadInputTokens
  cachedWriteTokens := usage.cacheCreationInputTokens
  thoughtTokens := a.turnThoughtTokens

/-- The terminal event of a `result` frame; the adapter leaves its epoch to the reader. -/
def turnResult (frame : ResultFrame) : SessionEvent :=
  .turnResult frame.isError (frame.apiErrorStatus.map (· % 2 ^ 16)) (resultText frame) 0
    (resultOutcome frame.reasons)

def parseResult (frame : ResultFrame) : ClaudeAdapter × List AdapterEvent :=
  let a := { a with todoToolUseIds := [] }
  match frame.usage with
  | none => (a, [.event (turnResult frame)])
  | some usage =>
    ({ a with turnThoughtTokens := 0 },
      [.event (turnResult frame), .usageDelta (a.usageDelta frame usage)])

/-- The turn goes on after a call that stops for a tool. -/
def continues (reasons : Reasons) : Bool :=
  match reasons.stopReason.getD "" with
  | "" | "tool_use" => true
  | _ => false

/-- The usage of a call becomes the occupancy of the context. -/
def latch : Option Usage → ClaudeAdapter
  | none => a
  | some usage =>
    { a with
      lastCallTokens := if usage.total > 0 then some usage.total else a.lastCallTokens
      turnThoughtTokens := a.turnThoughtTokens + usage.thinkingTokens }

def contentBlockDelta (kind : Option StreamBlockKind) (delta : Delta) :
    ClaudeAdapter × List AdapterEvent :=
  match kind, delta with
  | some .text, .textDelta text =>
    if text = "" then (a, [])
    else ({ a with stream := { a.stream with streamedText := true } },
      [.event (.messageDelta (streamItemKey a.stream.itemId .text) text)])
  | some .thinking, .thinkingDelta thinking =>
    if thinking = "" then (a, [])
    else ({ a with stream := { a.stream with streamedThinking := true } },
      [.event (.thoughtDelta (streamItemKey a.stream.itemId .thinking) thinking)])
  | _, _ => (a, [])

def parseStreamEvent : StreamEvent → ClaudeAdapter × List AdapterEvent
  | .messageStart messageId =>
    ({ a with stream :=
      { itemId := messageId, blockKind := ∅, streamedText := false, streamedThinking := false } }, [])
  | .contentBlockStart none _ => (a, [])
  | .contentBlockStart (some index) kind =>
    ({ a with stream := { a.stream with blockKind := a.stream.blockKind.insert index kind } }, [])
  | .contentBlockDelta index delta =>
    a.contentBlockDelta (index.bind fun i => a.stream.blockKind[i]?) delta
  | .contentBlockStop | .messageStop => (a, [])
  | .messageDelta usage reasons =>
    -- the end of a reply in real time; the `result` frame comes later
    (a.latch usage, if continues reasons then []
      else [.event (.turnResult false none "" 0 (resultOutcome reasons))])
  | .other subType => (a, [.event (.adapterSpecific ("stream_event/" ++ subType))])

def parseControlRequest (subtype : String) (requestId toolName : Option String) :
    ClaudeAdapter × List AdapterEvent :=
  let requestId := requestId.getD ""
  if subtype = "can_use_tool" ∧ requestId ≠ "" then
    if toolName = some "AskUserQuestion" then
      ({ a with askRequests := a.askRequests.insert requestId }, [.event (.ask requestId)])
    else (a, [.event (.permission requestId .tool)])
  else (a, [.event (.adapterSpecific ("control_request/" ++ subtype))])

def parseControlCancelRequest (requestId : Option String) : ClaudeAdapter × List AdapterEvent :=
  let requestId := requestId.getD ""
  if requestId = "" then (a, [.event (.adapterSpecific "control_cancel_request")])
  else if requestId ∈ a.askRequests then
    ({ a with askRequests := a.askRequests.filter (· ≠ requestId) },
      [.event (.askResolved requestId)])
  else (a, [.event (.permissionResolved requestId .tool)])

def parseCommandLifecycle : Option String → Option String → List AdapterEvent
  | some id, some "queued" | some id, some "started" | some id, some "completed"
  | some id, some "cancelled" | some id, some "canceled" => [.event (.messageLifecycle id)]
  | _, _ => []

def parseValue : Frame → ClaudeAdapter × List AdapterEvent
  | .system subtype model => a.parseSystem subtype model
  | .assistant _ messageId content => a.parseAssistant messageId content
  | .user _ content => a.parseUser content
  | .result frame => a.parseResult frame
  | .controlRequest subtype _ requestId toolName => a.parseControlRequest subtype requestId toolName
  | .controlCancelRequest requestId => a.parseControlCancelRequest requestId
  | .streamEvent _ event => a.parseStreamEvent event
  | .commandLifecycle commandUuid state => (a, parseCommandLifecycle commandUuid state)
  | .other type => (a, [.event (.adapterSpecific type)])

def emitted (a : ClaudeAdapter) : List Frame → List AdapterEvent
  | [] => []
  | f :: frames => (a.parseValue f).2 ++ emitted (a.parseValue f).1 frames

def control : Frame → Bool
  | .controlRequest .. | .controlCancelRequest _ => true
  | _ => false

def dataEvent : SessionEvent → Bool
  | .messageDelta _ _ | .thoughtDelta _ _ | .toolCall _ _ | .toolResult _ _ | .heartbeat
  | .adapterSpecific _ | .plan | .usageDelta | .messageLifecycle _ => true
  | .turnResult _ _ _ epoch _ => epoch = 0
  | _ => false

def requestEvent : SessionEvent → Bool
  | .permission _ _ | .permissionResolved _ _ | .ask _ | .askResolved _ => true
  | _ => false

lemma parseUser_data (content : List ToolResultBlock) :
    ∀ a : ClaudeAdapter, ∀ e ∈ (a.parseUser content).2, dataEvent e.session := by
  induction content with
  | nil => exact fun _ => List.forall_mem_nil _
  | cons b content ih =>
    intro a e mem
    rw [parseUser] at mem
    split at mem
    · exact ih _ e mem
    · cases mem with
      | head => rfl
      | tail _ mem => exact ih a e mem

lemma blockEvents_data {id : String} {streamedText streamedThinking : Bool} {b : Block}
    {e : AdapterEvent} (mem : e ∈ blockEvents id streamedText streamedThinking b) :
    dataEvent e.session := by
  cases b <;> simp only [blockEvents] at mem <;> (repeat' split at mem) <;>
    simp only [List.mem_singleton, List.not_mem_nil] at mem <;> subst mem <;> rfl

lemma parseValue_data {a : ClaudeAdapter} {f : Frame} (data : control f = false) :
    ∀ e ∈ (a.parseValue f).2, dataEvent e.session := by
  intro e mem
  cases f with
  | controlRequest => cases data
  | controlCancelRequest => cases data
  | user parent content => exact parseUser_data content a e mem
  | assistant parent messageId content =>
    obtain ⟨b, -, mem⟩ := List.mem_flatMap.mp mem
    exact blockEvents_data mem
  | system subtype model =>
    simp only [parseValue, parseSystem] at mem
    split at mem <;> simp only [List.mem_singleton, List.not_mem_nil] at mem <;> subst mem <;> rfl
  | result frame =>
    simp only [parseValue, parseResult] at mem
    split at mem
    · cases List.mem_singleton.mp mem
      rfl
    · rcases List.mem_pair.mp mem with rfl | rfl <;> rfl
  | streamEvent parent event =>
    cases event <;> simp only [parseValue, parseStreamEvent, contentBlockDelta] at mem <;>
      (repeat' split at mem) <;>
      simp only [List.mem_singleton, List.not_mem_nil] at mem <;> subst mem <;> rfl
  | commandLifecycle commandUuid state =>
    simp only [parseValue, parseCommandLifecycle] at mem
    split at mem <;> simp only [List.mem_singleton, List.not_mem_nil] at mem <;> subst mem <;> rfl
  | other type =>
    cases List.mem_singleton.mp mem
    rfl

lemma parseValue_control {a : ClaudeAdapter} {f : Frame} (h : control f) :
    ∀ e ∈ (a.parseValue f).2, dataEvent e.session ∨ requestEvent e.session := by
  intro e mem
  cases f with
  | controlRequest subtype toolUseId requestId toolName =>
    simp only [parseValue, parseControlRequest] at mem
    (repeat' split at mem) <;> cases List.mem_singleton.mp mem
    · exact .inr rfl
    · exact .inr rfl
    · exact .inl rfl
  | controlCancelRequest requestId =>
    simp only [parseValue, parseControlCancelRequest] at mem
    (repeat' split at mem) <;> cases List.mem_singleton.mp mem
    · exact .inl rfl
    · exact .inr rfl
    · exact .inr rfl
  | _ => cases h

end ClaudeAdapter

end KiCore.Session.Claude

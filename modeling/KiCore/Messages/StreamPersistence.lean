import KiCore.Conversation.RuntimeState
import KiCore.Lib.Text
import KiCore.Messages.Store

/-!
# The rows that a stream leaves

Port of the operations of `stream_persistence.rs` that write messages: tool calls, text and thinking
segments, the final text, tips, plans, tool groups and the settlement of a tool call, with the events
as they are serialized and the keys of `case_convert.rs`. The members of an object are in the order in
which they are written, and a part of an event that is only passed on is kept as the JSON that it is.
The times and the ids that an operation mints are parameters; an error of the table is logged.
-/

namespace KiCore.Messages

open KiCore.Lib
open KiCore.Conversation (RuntimeLifecycleState RuntimeWriteKind)

/-- The characters of a key in snake case, after the one before them. -/
def snakeFrom : Option Char → List Char → List Char
  | _, [] => []
  | prev, c :: rest =>
    if c.isUpper then
      let prevIsLowerOrDigit := prev.any fun p => p.isLower || p.isDigit
      let nextIsLower := rest.head?.any Char.isLower
      let prevIsUpper := prev.any Char.isUpper
      (if prevIsLowerOrDigit || prevIsUpper && nextIsLower then ['_'] else []) ++
        c.toLower :: snakeFrom (some c) rest
    else c :: snakeFrom (some c) rest

def camelToSnake (input : String) : String :=
  String.ofList (snakeFrom none input.toList)

def normalizeKey (key : String) : String :=
  if key = "_meta" then key else camelToSnake key

mutual

def normalizeKeysToSnakeCase : Json → Json
  | .obj members => .obj (normalizeMembers members)
  | .arr items => .arr (normalizeItems items)
  | value => value

def normalizeItems : List Json → List Json
  | [] => []
  | item :: items => normalizeKeysToSnakeCase item :: normalizeItems items

/-- The members are collected into a map, where a later one of a key takes the place of the others. -/
def normalizeMembers : List (String × Json) → List (String × Json)
  | [] => []
  | (key, value) :: members =>
    let value := if key = "_meta" then value else normalizeKeysToSnakeCase value
    let rest := normalizeMembers members
    if (Json.lookup (normalizeKey key) rest).isSome then rest else (normalizeKey key, value) :: rest

end

inductive ToolCallStatus where
  | running
  | completed
  | error
  | canceled
  deriving DecidableEq

def ToolCallStatus.asStr : ToolCallStatus → String
  | .running => "running"
  | .completed => "completed"
  | .error => "error"
  | .canceled => "canceled"

inductive AcpToolCallStatus where
  | pending
  | inProgress
  | completed
  | failed
  deriving DecidableEq

def AcpToolCallStatus.asStr : AcpToolCallStatus → String
  | .pending => "pending"
  | .inProgress => "in_progress"
  | .completed => "completed"
  | .failed => "failed"

structure ToolCallEventData where
  callId : String
  name : String
  args : Json
  status : ToolCallStatus
  input : Option Json
  output : Option String
  description : Option String
  parentCallId : Option String

/-- `update` of an ACP event; `sessionUpdate`, `kind`, `content` and `locations` as JSON. -/
structure AcpToolCallUpdateData where
  sessionUpdate : Json
  toolCallId : String
  status : Option AcpToolCallStatus
  title : Option String
  kind : Option Json
  rawInput : Option Json
  rawOutput : Option Json
  content : Option Json
  locations : Option Json

structure AcpToolCallEventData where
  sessionId : String
  update : AcpToolCallUpdateData
  meta_ : Option Json

def member (key : String) (value : Option Json) : List (String × Json) :=
  (value.map fun value => (key, value)).toList

def ToolCallEventData.toJson (data : ToolCallEventData) : Json :=
  .obj (member "call_id" (some (.str data.callId)) ++
    member "name" (if data.name = "" then none else some (.str data.name)) ++
    member "args" (match data.args with | .null => none | args => some args) ++
    member "status" (some (.str data.status.asStr)) ++
    member "input" data.input ++
    member "output" (data.output.map .str) ++
    member "description" (data.description.map .str) ++
    member "parent_call_id" (data.parentCallId.map .str))

def AcpToolCallUpdateData.toJson (update : AcpToolCallUpdateData) : Json :=
  .obj (member "content" update.content ++
    member "kind" update.kind ++
    member "locations" update.locations ++
    member "rawInput" update.rawInput ++
    member "rawOutput" update.rawOutput ++
    member "sessionUpdate" (some update.sessionUpdate) ++
    member "status" (update.status.map fun status => .str status.asStr) ++
    member "title" (update.title.map .str) ++
    member "tool_call_id" (some (.str update.toolCallId)))

def AcpToolCallEventData.toJson (data : AcpToolCallEventData) : Json :=
  .obj (member "_meta" data.meta_ ++
    member "session_id" (some (.str data.sessionId)) ++
    member "update" (some data.update.toJson))

structure TextSegment where
  id : String
  buffer : String
  createdAt : Int
  recordCreated : Bool

structure ThinkingSegment where
  id : String
  buffer : String
  startedAt : Int

inductive TipType where
  | error
  | info
  | success
  | warning
  deriving DecidableEq

def TipType.asStr : TipType → String
  | .error => "error"
  | .info => "info"
  | .success => "success"
  | .warning => "warning"

structure TipsEventData where
  content : String
  tipType : TipType
  code : Option String
  params : Option Json
  supersedesKey : Option String

structure ErrorEventData where
  message : String
  toJson : Json

structure PlanEventData where
  sessionId : Option String
  entries : List Json

inductive ToolGroupStatus where
  | pending
  | confirming
  | executing
  | success
  | error
  | canceled
  deriving DecidableEq

def ToolGroupStatus.asStr : ToolGroupStatus → String
  | .pending => "Pending"
  | .confirming => "Confirming"
  | .executing => "Executing"
  | .success => "Success"
  | .error => "Error"
  | .canceled => "Canceled"

def ToolGroupStatus.isTerminal (status : ToolGroupStatus) : Bool :=
  status ∈ [.success, .error, .canceled]

structure ToolGroupEntry where
  callId : String
  name : String
  status : ToolGroupStatus
  description : Option String

def ToolGroupEntry.toJson (entry : ToolGroupEntry) : Json :=
  .obj [("call_id", .str entry.callId), ("name", .str entry.name), ("status", .str entry.status.asStr),
    ("description", (entry.description.map .str).getD .null)]

def textContent (text : String) : Json :=
  .obj [("content", .str text)]

structure StreamPersistenceAdapter where
  userId : String
  conversationId : String
  msgId : String
  /-- what the runtime says of the conversation, if the adapter asks it -/
  persistence : Option RuntimeLifecycleState
  backendTurnId : Option String

namespace StreamPersistenceAdapter

variable (adapter : StreamPersistenceAdapter)

def allowsWrite (kind : RuntimeWriteKind) : Bool :=
  adapter.persistence.all (·.allows kind)

def upsert (db : Db) (row : MessageRow) : Db :=
  match db.upsertMessage adapter.userId row with
  | .ok db => db
  | .error _ => db

def toolCallRow (now : Int) (data : ToolCallEventData) : MessageRow :=
  { id := data.callId
    conversationId := adapter.conversationId
    msgId := some data.callId
    type := "tool_call"
    content := data.toJson
    position := some "left"
    status := some (match data.status with
      | .running => "work"
      | .completed => "finish"
      | .error => "error"
      | .canceled => "finish")
    hidden := false
    createdAt := now
    backendTurnId := adapter.backendTurnId }

def acpToolCallRow (now : Int) (data : AcpToolCallEventData) : MessageRow :=
  { id := data.update.toolCallId
    conversationId := adapter.conversationId
    msgId := some data.update.toolCallId
    type := "acp_tool_call"
    content := normalizeKeysToSnakeCase data.toJson
    position := some "left"
    status := some (match data.update.status with
      | some .pending | none => "work"
      | some .inProgress => "work"
      | some .completed => "finish"
      | some .failed => "error")
    hidden := false
    createdAt := now
    backendTurnId := adapter.backendTurnId }

def persistToolCall (now : Int) (db : Db) (data : ToolCallEventData) : Db :=
  if ¬ adapter.allowsWrite .toolCallPersist then db
  else if Str.trim data.callId = "" then db
  else adapter.upsert db (adapter.toolCallRow now data)

def persistAcpToolCall (now : Int) (db : Db) (data : AcpToolCallEventData) : Db :=
  if ¬ adapter.allowsWrite .acpToolCallPersist then db
  else adapter.upsert db (adapter.acpToolCallRow now data)

end StreamPersistenceAdapter

/-- The row with the id in the conversation of a user, of a type. -/
def Db.getMessageByMsgId (db : Db) (userId convId msgId type : String) : Option MessageRow :=
  db.messages.find? fun row =>
    db.owns userId row.conversationId ∧ row.conversationId = convId ∧ row.msgId = some msgId ∧
      row.type = type

namespace StreamPersistenceAdapter

variable (adapter : StreamPersistenceAdapter) (db : Db)

def insert (row : MessageRow) : Db :=
  match db.insertMessage adapter.userId row with
  | .ok db => db
  | .error _ => db

def update (id : String) (updates : MessageRowUpdate) : Db :=
  match db.updateMessage adapter.userId adapter.conversationId id updates with
  | .ok db => db
  | .error _ => db

def leftRow (id : String) (msgId : Option String) (type : String) (content : Json) (status : String)
    (createdAt : Int) : MessageRow where
  id := id
  conversationId := adapter.conversationId
  msgId := msgId
  type := type
  content := content
  position := some "left"
  status := some status
  hidden := false
  createdAt := createdAt
  backendTurnId := adapter.backendTurnId

def flushTextSegment (segment : TextSegment) : Db :=
  if ¬ adapter.allowsWrite .assistantTextFlush then db
  else if segment.buffer = "" then db
  else if segment.recordCreated then
    adapter.update db segment.id
      { content := some (textContent segment.buffer), status := some (some "work"), hidden := none }
  else
    adapter.insert db (adapter.leftRow segment.id (some segment.id) "text" (textContent segment.buffer)
      "work" segment.createdAt)

def finalizeTextSegment (segment : TextSegment) (status : String) : Db :=
  if ¬ adapter.allowsWrite .assistantTextFinalize then db
  else if segment.buffer = "" then db
  else if segment.recordCreated then
    adapter.update db segment.id
      { content := some (textContent segment.buffer), status := some (some status), hidden := some false }
  else
    adapter.insert db (adapter.leftRow segment.id (some segment.id) "text" (textContent segment.buffer)
      status segment.createdAt)

variable (now : Int)

def persistFinalText (db : Db) (textSegments : List String) (status finalText : String)
    (hidden rewriteSegments : Bool) : Db :=
  if ¬ adapter.allowsWrite .terminalFinalize then db
  else
    match textSegments with
    | primary :: others =>
      if rewriteSegments then
        -- the first segment takes the whole text, and the others are hidden
        others.foldl (fun db id =>
            adapter.update db id { content := none, status := some (some status), hidden := some true })
          (adapter.update db primary
            { content := some (textContent finalText)
              status := some (some status)
              hidden := some hidden })
      else
        textSegments.foldl (fun db id =>
          adapter.update db id { content := none, status := some (some status), hidden := some false }) db
    | [] =>
      if hidden then db
      else
        adapter.insert db (adapter.leftRow adapter.msgId (some adapter.msgId) "text"
          (textContent finalText) status now)

def persistErrorTip (minted : String) (db : Db) (data : ErrorEventData) : Db :=
  if ¬ adapter.allowsWrite .terminalFinalize then db
  else
    adapter.insert db (adapter.leftRow minted none "tips"
      (.obj [("content", .str data.message), ("type", .str "error"), ("error", data.toJson)]) "error" now)

def persistTip (minted : String) (db : Db) (data : TipsEventData) : Db :=
  if ¬ adapter.allowsWrite .terminalFinalize then db
  else
    adapter.insert db (adapter.leftRow minted none "tips"
      (.obj [("content", .str data.content), ("type", .str data.tipType.asStr),
        ("code", (data.code.map .str).getD .null), ("params", data.params.getD .null),
        ("supersedes_key", (data.supersedesKey.map .str).getD .null)])
      (match data.tipType with
        | .error => "error"
        | .success | .warning | .info => "finish")
      now)

def persistThinkingSegment (segment : ThinkingSegment) (durationMs : Nat) : Db :=
  if segment.buffer = "" then db
  else if ¬ adapter.allowsWrite .assistantThinkingFinalize then db
  else
    adapter.insert db (adapter.leftRow segment.id (some segment.id) "thinking"
      (.obj [("content", .str segment.buffer), ("status", .str "done"),
        ("duration_ms", .num (toString durationMs))])
      "finish" segment.startedAt)

def persistPlan (db : Db) (data : PlanEventData) (turnId : String) : Db :=
  if ¬ adapter.allowsWrite .toolCallPersist then db
  else
    adapter.upsert db (adapter.leftRow ("plan:" ++ adapter.msgId) (some adapter.msgId) "plan"
      (.obj [("session_id", (data.sessionId.map .str).getD .null), ("entries", .arr data.entries),
        ("turn_id", .str turnId)])
      "finish" now)

def settleToolCallIfPresent (db : Db) (data : ToolCallEventData) : Db :=
  match db.getMessageByMsgId adapter.userId adapter.conversationId data.callId "tool_call" with
  | none => db
  | some _ => adapter.persistToolCall now db data

def persistToolGroup (minted : String) (db : Db) (entries : List ToolGroupEntry) : Db :=
  if ¬ adapter.allowsWrite .toolGroupPersist then db
  else
    let status := if entries.all (·.status.isTerminal) then "finish" else "work"
    let content := Json.arr (entries.map ToolGroupEntry.toJson)
    let groupId := (entries.head?.map ToolGroupEntry.callId).getD minted
    match db.getMessageByMsgId adapter.userId adapter.conversationId groupId "tool_group" with
    | some _ =>
      adapter.update db groupId { content := some content, status := some (some status), hidden := none }
    | none =>
      adapter.insert db (adapter.leftRow groupId (some groupId) "tool_group" content status now)

end StreamPersistenceAdapter

end KiCore.Messages

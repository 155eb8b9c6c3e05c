import KiCore.Messages.Store
import Mathlib.Data.Prod.Lex

/-!
# Pages of messages

Port of `list_messages_page` and `page_with_flags` of `sqlite_conversation.rs`, with the limit and the
direction that `list_messages` of `service.rs` asks them for, the cursors of `message_cursor.rs`, and
the conversion of a row in `convert.rs`, which fails the whole page. A row here has JSON in `content`.
What `base64` and `serde_json` make of a cursor is a parameter.
-/

namespace KiCore.Messages

open KiCore.Lib

structure MessagePageCursor where
  createdAt : Int
  id : String
  deriving DecidableEq

def MessageRow.cursor (row : MessageRow) : MessagePageCursor :=
  { createdAt := row.createdAt, id := row.id }

inductive MessagePageDirection where
  | initialLatest
  | before (cursor : MessagePageCursor)
  | after (cursor : MessagePageCursor)
  | anchor (messageId : String)
  deriving DecidableEq

structure MessagePageResult where
  items : List MessageRow
  hasMoreBefore : Bool
  hasMoreAfter : Bool

/-- `m.created_at < ? OR (m.created_at = ? AND m.id < ?)`. -/
def MessageRow.isBefore (cursor : MessagePageCursor) (row : MessageRow) : Bool :=
  row.createdAt < cursor.createdAt || row.createdAt = cursor.createdAt && row.id < cursor.id

/-- `m.created_at > ? OR (m.created_at = ? AND m.id > ?)`. -/
def MessageRow.isAfter (cursor : MessagePageCursor) (row : MessageRow) : Bool :=
  row.createdAt > cursor.createdAt || row.createdAt = cursor.createdAt && row.id > cursor.id

/-- `ORDER BY m.created_at ASC, m.id ASC`. -/
def ascending (a b : MessageRow) : Bool :=
  a.createdAt < b.createdAt || a.createdAt = b.createdAt && a.id ≤ b.id

/-- `ORDER BY m.created_at DESC, m.id DESC`. -/
def descending (a b : MessageRow) : Bool :=
  a.createdAt > b.createdAt || a.createdAt = b.createdAt && a.id ≥ b.id

namespace Db

/-- The messages of a conversation of a user, without the types that are not shown. -/
def visibleMessages (db : Db) (userId convId : String) : List MessageRow :=
  db.messages.filter fun row =>
    db.owns userId row.conversationId ∧ row.conversationId = convId ∧
      row.type ∉ ["cron_trigger", "skill_suggest"]

/-- Set the flags of a page by what there is before its first row and after its last. -/
def pageWithFlags (db : Db) (userId convId : String) (items : List MessageRow) : MessagePageResult :=
  match items.head?, items.getLast? with
  | some first, some last =>
    { items
      hasMoreBefore := (db.visibleMessages userId convId).any (MessageRow.isBefore first.cursor)
      hasMoreAfter := (db.visibleMessages userId convId).any (MessageRow.isAfter last.cursor) }
  | _, _ => { items, hasMoreBefore := false, hasMoreAfter := false }

/-- How many rows of each side are shown with an anchor. -/
def anchorTakes (limit before after : Nat) : Nat × Nat :=
  let beforeTarget := (limit - 1) / 2
  let afterTarget := limit - (1 + beforeTarget)
  let beforeTake := min before beforeTarget
  let afterTake := min after afterTarget
  let remaining := limit - (1 + beforeTake + afterTake)
  -- what one side does not use goes to the other
  let extraAfter := min (after - afterTake) remaining
  let afterTake := afterTake + extraAfter
  let remaining := remaining - extraAfter
  (beforeTake + min (before - beforeTake) remaining, afterTake)

def pageRows (db : Db) (userId convId : String) (limit : Nat) :
    MessagePageDirection → Except DbError (List MessageRow)
  | .initialLatest =>
    let rows := ((db.visibleMessages userId convId).mergeSort descending).take (limit + 1)
    .ok (rows.take limit).reverse
  | .before cursor =>
    let rows := (((db.visibleMessages userId convId).filter (MessageRow.isBefore cursor)).mergeSort
      descending).take (limit + 1)
    .ok (rows.take limit).reverse
  | .after cursor =>
    let rows := (((db.visibleMessages userId convId).filter (MessageRow.isAfter cursor)).mergeSort
      ascending).take (limit + 1)
    .ok (rows.take limit)
  | .anchor messageId =>
    match Keyed.lookup MessageRow.id messageId (db.visibleMessages userId convId) with
    | none => .error (.notFound s!"Message '{messageId}' not found")
    | some anchor =>
      let before := ((((db.visibleMessages userId convId).filter
        (MessageRow.isBefore anchor.cursor)).mergeSort descending).take limit).reverse
      let after := (((db.visibleMessages userId convId).filter
        (MessageRow.isAfter anchor.cursor)).mergeSort ascending).take limit
      let (beforeTake, afterTake) := anchorTakes limit before.length after.length
      .ok (before.drop (before.length - beforeTake) ++ anchor :: after.take afterTake)

def listMessagesPage (db : Db) (userId convId : String) (limit : Nat)
    (direction : MessagePageDirection) : Except DbError MessagePageResult :=
  if ¬ db.owns userId convId then .error (.notFound s!"Conversation '{convId}' not found")
  else
    match db.pageRows userId convId (max limit 1) direction with
    | .error e => .error e
    | .ok rows => .ok (db.pageWithFlags userId convId (rows.mergeSort ascending))

end Db

def defaultMessagePageLimit : Nat := 50

def maxMessagePageLimit : Nat := 200

def effectiveMessageLimit (limit : Option Nat) : Nat :=
  match limit.getD defaultMessagePageLimit with
  | 0 => defaultMessagePageLimit
  | n => min n maxMessagePageLimit

structure ListMessagesQuery where
  limit : Option Nat
  before : Option String
  after : Option String
  anchorMessageId : Option String

inductive ConversationError where
  | notFound (id : String)
  | badRequest (reason : String)
  | internal (reason : String)
  | db (error : DbError)
  deriving DecidableEq

/-- What `base64` and `serde_json` make of a cursor, and back. -/
structure CursorCodec where
  encodePayload : MessagePageCursor → String
  decodePayload : String → Option MessagePageCursor

namespace CursorCodec

def encodeMessageCursor (codec : CursorCodec) (cursor : MessagePageCursor) : String :=
  "v1." ++ codec.encodePayload cursor

def decodeMessageCursor (codec : CursorCodec) (raw : String) :
    Except ConversationError MessagePageCursor :=
  match raw.toList with
  | 'v' :: '1' :: '.' :: encoded =>
    match codec.decodePayload (String.ofList encoded) with
    | none => .error (.badRequest "invalid message cursor")
    | some cursor =>
      if cursor.id = "" then .error (.badRequest "invalid message cursor") else .ok cursor
  | _ => .error (.badRequest "invalid message cursor")

end CursorCodec

def messageLocatorCount (query : ListMessagesQuery) : Nat :=
  query.before.isSome.toNat + query.after.isSome.toNat + query.anchorMessageId.isSome.toNat

variable (codec : CursorCodec)

def CursorCodec.direction (query : ListMessagesQuery) :
    Except ConversationError MessagePageDirection :=
  match query.before, query.after, query.anchorMessageId with
  | some cursor, _, _ => (codec.decodeMessageCursor cursor).map .before
  | none, some cursor, _ => (codec.decodeMessageCursor cursor).map .after
  | none, none, some messageId => .ok (.anchor messageId)
  | none, none, none => .ok .initialLatest

def messageTypes : List String :=
  ["text", "tips", "tool_call", "tool_group", "agent_status", "permission", "acp_tool_call", "plan",
    "thinking", "available_commands", "skill_suggest", "cron_trigger"]

def messagePositions : List String :=
  ["right", "left", "center", "pop"]

def messageStatuses : List String :=
  ["finish", "pending", "error", "work"]

def stringToEnum (names : List String) (s : String) : Except ConversationError String :=
  if s ∈ names then .ok s else .error (.internal s!"Invalid enum value '{s}'")

/-- The response has the fields of the row. -/
def rowToMessageResponse (row : MessageRow) : Except ConversationError MessageRow := do
  let type ← stringToEnum messageTypes row.type
  let position ← row.position.mapM (stringToEnum messagePositions)
  let status ← row.status.mapM (stringToEnum messageStatuses)
  return { row with type, position, status }

structure MessageListResponse where
  items : List MessageRow
  oldestCursor : Option String
  newestCursor : Option String
  hasMoreBefore : Bool
  hasMoreAfter : Bool

def MessagePageResult.response (page : MessagePageResult) : MessageListResponse where
  items := page.items
  oldestCursor := page.items.head?.map fun row => codec.encodeMessageCursor row.cursor
  newestCursor := page.items.getLast?.map fun row => codec.encodeMessageCursor row.cursor
  hasMoreBefore := page.hasMoreBefore
  hasMoreAfter := page.hasMoreAfter

def listMessages (db : Db) (userId conversationId : String)
    (query : ListMessagesQuery) : Except ConversationError MessageListResponse :=
  if ¬ db.owns userId conversationId then .error (.notFound conversationId)
  else if messageLocatorCount query > 1 then
    .error (.badRequest "before, after, and anchor_message_id are mutually exclusive")
  else
    match codec.direction query with
    | .error e => .error e
    | .ok direction =>
      match db.listMessagesPage userId conversationId (effectiveMessageLimit query.limit) direction with
      | .error e => .error (.db e)
      | .ok page =>
        match page.items.mapM rowToMessageResponse with
        | .error e => .error e
        | .ok items => .ok { page.response codec with items }

end KiCore.Messages

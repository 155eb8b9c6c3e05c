import KiCore.Lib.Json
import KiCore.Lib.Table

/-!
# The table of messages

Port of the statements of `sqlite_conversation.rs` on the tables `conversations` and `messages`: the
insert, the upsert that merges a frame into the row of its id, and the partial update. The column
`content` holds JSON text and is kept as the value that it parses to. A statement that fails rolls
its transaction back.
-/

namespace KiCore.Messages

open KiCore.Lib

inductive DbError where
  | notFound (message : String)
  | conflict (message : String)
  | query (message : String)
  deriving DecidableEq

structure MessageRow where
  id : String
  conversationId : String
  msgId : Option String
  type : String
  content : Json
  position : Option String
  status : Option String
  hidden : Bool
  createdAt : Int
  backendTurnId : Option String

/-- A conversation, as far as the table of messages depends on it. -/
structure ConversationRow where
  userId : String
  updatedAt : Int

/-- The two tables. The id is the primary key of the messages. -/
structure Db where
  conversations : Table String ConversationRow
  messages : List MessageRow
  unique : (messages.map MessageRow.id).Nodup

structure MessageRowUpdate where
  content : Option Json
  status : Option (Option String)
  hidden : Option Bool

def sqlValue : Option Json → Json
  | none => .null
  | some (.bool b) => .num (if b then "1" else "0")
  | some value => value

/-- Where a row of a type keeps the status of its tool call. -/
def statusPath (type : String) : List String :=
  if type = "acp_tool_call" then ["update", "status"] else ["status"]

namespace MessageRow

variable (row : MessageRow)

/-- A status that a late frame must not take back. -/
def Settled : Prop :=
  row.status = some "finish" ∨ row.status = some "error"

instance : Decidable row.Settled :=
  inferInstanceAs (Decidable (_ ∨ _))

/-- `ON CONFLICT(id) DO UPDATE SET`. -/
def merge (old excluded : MessageRow) : MessageRow :=
  let patched := Json.mergePatch old.content excluded.content
  { old with
    content :=
      if old.Settled ∧ excluded.status = some "work" then
        Json.setPath (sqlValue (old.content.getPath (statusPath old.type))) (statusPath old.type) patched
      else patched
    status := if old.Settled ∧ excluded.status = some "work" then old.status else excluded.status
    position := old.position.or excluded.position
    hidden := excluded.hidden
    createdAt := min old.createdAt excluded.createdAt
    backendTurnId := old.backendTurnId.or excluded.backendTurnId }

def update (updates : MessageRowUpdate) : MessageRow :=
  { row with
    content := updates.content.getD row.content
    status := updates.status.getD row.status
    hidden := updates.hidden.getD row.hidden }

@[simp] lemma merge_id (old excluded : MessageRow) : (old.merge excluded).id = old.id := rfl

@[simp] lemma merge_type (old excluded : MessageRow) : (old.merge excluded).type = old.type := rfl

@[simp] lemma update_id (updates : MessageRowUpdate) :
    (row.update updates).id = row.id := rfl

end MessageRow

namespace Db

variable (db : Db)

def findMessage (id : String) : Option MessageRow :=
  Keyed.lookup MessageRow.id id db.messages

/-- `SELECT 1 FROM conversations c WHERE c.id = ? AND c.user_id = ?`. -/
def owns (userId conversationId : String) : Prop :=
  (db.conversations[conversationId]?).map ConversationRow.userId = some userId

instance (userId conversationId : String) : Decidable (db.owns userId conversationId) :=
  inferInstanceAs (Decidable (_ = _))

/-- `UPDATE conversations SET updated_at = MAX(updated_at, ?) WHERE id = ?`. -/
def bump (conversationId : String) (at_ : Int) : Db :=
  { db with
    conversations := db.conversations.modify conversationId fun conv =>
      { conv with updatedAt := max conv.updatedAt at_ } }

/-- Store a row under its id, merged into the one that is there. -/
def put (merge : MessageRow → MessageRow → MessageRow)
    (keeps : ∀ old row, (merge old row).id = old.id) (row : MessageRow) : Db :=
  { db with
    messages := Keyed.upsert MessageRow.id merge row db.messages
    unique := Keyed.nodup_upsert (fun old same => (keeps old row).trans same) db.unique }

def insertMessage (userId : String) (message : MessageRow) : Except DbError Db :=
  if ¬ db.owns userId message.conversationId then
    .error (.notFound s!"Conversation '{message.conversationId}' not found")
  else
    match db.findMessage message.id with
    | some _ => .error (.query "UNIQUE constraint failed: messages.id")
    | none =>
      .ok ((db.put MessageRow.merge MessageRow.merge_id message).bump message.conversationId
        message.createdAt)

def upsertMessage (userId : String) (message : MessageRow) : Except DbError Db :=
  match db.findMessage message.id with
  | none =>
    -- the insert itself asks for the conversation only, by its foreign key
    if (db.conversations[message.conversationId]?).isNone then
      .error (.query "FOREIGN KEY constraint failed")
    else
      .ok ((db.put MessageRow.merge MessageRow.merge_id message).bump message.conversationId
        message.createdAt)
  | some old =>
    if old.conversationId = message.conversationId ∧ db.owns userId old.conversationId then
      .ok ((db.put MessageRow.merge MessageRow.merge_id message).bump message.conversationId
        message.createdAt)
    else
      .error (.conflict
        s!"Message with id '{message.id}' already exists outside the requested conversation")

def updateMessage (userId conversationId id : String) (updates : MessageRowUpdate) :
    Except DbError Db :=
  if updates.content.isNone ∧ updates.status.isNone ∧ updates.hidden.isNone then .ok db
  else
    match db.findMessage id with
    | none => .error (.notFound s!"Message '{id}' not found")
    | some row =>
      if row.conversationId = conversationId ∧ db.owns userId row.conversationId then
        .ok (db.put (fun old _ => old.update updates) (fun old _ => old.update_id updates) row)
      else .error (.notFound s!"Message '{id}' not found")

variable {db : Db} {row : MessageRow} {id convId other userId : String}

lemma mem_messages : row ∈ db.messages ↔ db.findMessage row.id = some row := by
  rw [findMessage, ← Keyed.mem_iff_lookup db.unique, and_iff_left rfl]

lemma find_id (found : db.findMessage id = some row) : row.id = id :=
  Keyed.lookup_key found

lemma owns_bump {time : Int} : (db.bump other time).owns userId convId ↔ db.owns userId convId := by
  unfold owns bump
  dsimp only
  rw [Table.get_modify]
  split_ifs
  · rw [Option.map_map]
    rfl
  · rfl

lemma there_bump {time : Int} : ((db.bump other time).conversations[convId]?).isSome ↔
    (db.conversations[convId]?).isSome := by
  unfold bump
  dsimp only
  rw [Table.get_modify]
  split_ifs
  · rw [Option.isSome_map]
  · rfl

lemma owns.there (owned : db.owns userId convId) : (db.conversations[convId]?).isSome := by
  rw [owns] at owned
  rw [← Option.isSome_map, owned]
  rfl

lemma find_put {merge : MessageRow → MessageRow → MessageRow} (keeps) :
    (db.put merge keeps row).findMessage id = if row.id = id then
      some ((db.findMessage id).elim row (merge · row)) else db.findMessage id :=
  Keyed.lookup_upsert fun old same => (keeps old row).trans same

lemma insertMessage_cases (db : Db) (userId : String) (row : MessageRow) :
    (db.insertMessage userId row = .ok ((db.put MessageRow.merge MessageRow.merge_id row).bump
        row.conversationId row.createdAt) ∧
      db.owns userId row.conversationId ∧ db.findMessage row.id = none) ∨
    ∃ e, db.insertMessage userId row = .error e := by
  unfold insertMessage
  by_cases owned : db.owns userId row.conversationId
  · rw [if_neg (not_not_intro owned)]
    cases found : db.findMessage row.id with
    | none => exact .inl ⟨rfl, owned, rfl⟩
    | some old => exact .inr ⟨_, rfl⟩
  · rw [if_pos owned]
    exact .inr ⟨_, rfl⟩

lemma upsertMessage_cases (db : Db) (userId : String) (row : MessageRow) :
    (db.upsertMessage userId row = .ok ((db.put MessageRow.merge MessageRow.merge_id row).bump
        row.conversationId row.createdAt) ∧
      ((db.findMessage row.id = none ∧ (db.conversations[row.conversationId]?).isSome) ∨
        ∃ old, db.findMessage row.id = some old ∧ old.conversationId = row.conversationId ∧
          db.owns userId old.conversationId)) ∨
    ((∃ e, db.upsertMessage userId row = .error e) ∧
      (db.findMessage row.id = none → db.conversations[row.conversationId]? = none) ∧
      ∀ old, db.findMessage row.id = some old →
        ¬ (old.conversationId = row.conversationId ∧ db.owns userId old.conversationId)) := by
  unfold upsertMessage
  cases found : db.findMessage row.id with
  | none =>
    dsimp only
    cases there : db.conversations[row.conversationId]? with
    | none => exact .inr ⟨⟨_, rfl⟩, fun _ => rfl, fun old e => nomatch e⟩
    | some conv => exact .inl ⟨rfl, .inl ⟨rfl, rfl⟩⟩
  | some old =>
    dsimp only
    by_cases allowed : old.conversationId = row.conversationId ∧ db.owns userId old.conversationId
    · rw [if_pos allowed]
      exact .inl ⟨rfl, .inr ⟨old, rfl, allowed.1, allowed.2⟩⟩
    · rw [if_neg allowed]
      refine .inr ⟨⟨_, rfl⟩, ?_, ?_⟩
      · intro e
        cases e
      · intro old' e
        cases e
        exact allowed

lemma updateMessage_cases (db : Db) (userId convId id : String) (updates : MessageRowUpdate) :
    (∃ row, db.findMessage id = some row ∧ row.conversationId = convId ∧ db.owns userId convId ∧
      db.updateMessage userId convId id updates =
        .ok (db.put (fun old _ => old.update updates) (fun old _ => old.update_id updates) row)) ∨
    db.updateMessage userId convId id updates = .ok db ∨
    ∃ e, db.updateMessage userId convId id updates = .error e := by
  unfold updateMessage
  split_ifs
  · exact .inr (.inl rfl)
  · cases found : db.findMessage id with
    | none => exact .inr (.inr ⟨_, rfl⟩)
    | some row =>
      dsimp only
      by_cases allowed : row.conversationId = convId ∧ db.owns userId row.conversationId
      · rw [if_pos allowed]
        exact .inl ⟨row, rfl, allowed.1, allowed.1 ▸ allowed.2, rfl⟩
      · rw [if_neg allowed]
        exact .inr (.inr ⟨_, rfl⟩)

end Db

end KiCore.Messages

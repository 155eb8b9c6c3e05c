import KiCore.Messages.StreamPersistence

/-!
# What the recovery leaves

The rows that a stream writes are on the left side of a conversation, and their contents are objects,
or lists of objects for a tool group (`Written`). The recovery closes those of them that it lists and
leaves the others (`recover_spec`), so what it misses is what it does not list (`startup_recovery`).

Port of `startup_recovery.rs` and `list_stale_runtime_messages`: the rows that a dead process left at
work are closed, and the status in the content of a tool row is made terminal. A panic is `none`.
-/

namespace KiCore.Messages

open KiCore.Lib
open KiCore.Conversation (RuntimeLifecycleState)

inductive StartupRecoveryAction where
  | finishVisibleOutput
  | finishEmptyPlaceholder
  | settleToolRow
  deriving DecidableEq

/-- `value[key] = …` makes an object of a null and panics on any other value that is not one. -/
def setIndex (key : String) (value : Json) : Json → Option Json
  | .obj members => some (.obj (Json.insert key value members))
  | .null => some (.obj [(key, value)])
  | _ => none

/-- A status that is none of the terminal ones. -/
def isStale (terminal : List String) (value : Json) : Bool :=
  ((value.get "status").bind Json.asStr).all (· ∉ terminal)

def toolCallTerminal : List String := ["completed", "error", "canceled"]

def toolGroupTerminal : List String := ["Success", "Error", "Canceled"]

def settleToolRowContent (type : String) (content : Json) : Option (Option Json) :=
  if type = "tool_call" then
    if isStale toolCallTerminal content then
      (setIndex "status" (.str "canceled") content).map some
    else some none
  else if type = "tool_group" then
    match content with
    | .arr items =>
      (items.mapM fun entry =>
          if isStale toolGroupTerminal entry then setIndex "status" (.str "Canceled") entry
          else some entry).map fun settled =>
        if items.any (isStale toolGroupTerminal) then some (.arr settled) else none
    | _ => some none
  else some none

namespace MessageRow

variable (row : MessageRow)

def hasVisibleContent : Bool :=
  ((row.content.get "content").bind Json.asStr).any (Str.trim · ≠ "")

def classifyRecoveryAction : StartupRecoveryAction :=
  if row.type ∈ ["tool_call", "tool_group"] then .settleToolRow
  else if row.hasVisibleContent then .finishVisibleOutput
  else .finishEmptyPlaceholder

/-- A row that says that work is going on. -/
def Open : Prop :=
  row.status = some "work" ∨ row.status = some "pending"

instance : Decidable row.Open :=
  inferInstanceAs (Decidable (_ ∨ _))

/-- `m.position = 'left' AND m.status IN (…) AND m.type IN (…)`. -/
def Stale : Prop :=
  row.position = some "left" ∧ row.Open ∧ row.type ∈ ["text", "thinking", "tool_call", "tool_group"]

instance : Decidable row.Stale :=
  inferInstanceAs (Decidable (_ ∧ _))

def recovery : Option MessageRowUpdate :=
  (if row.classifyRecoveryAction = .settleToolRow then settleToolRowContent row.type row.content
    else some none).map fun content =>
    { content
      status := some (some "finish")
      hidden := some (row.classifyRecoveryAction = .finishEmptyPlaceholder) }

end MessageRow

structure StaleRuntimeMessageRow where
  userId : String
  message : MessageRow

namespace Db

def listStaleRuntimeMessages (db : Db) : List StaleRuntimeMessageRow :=
  (db.messages.filterMap fun row =>
    if row.Stale then
      (db.conversations[row.conversationId]?).map fun conv => ⟨conv.userId, row⟩
    else none).mergeSort fun a b => a.message.createdAt ≤ b.message.createdAt

def recoverRow (lifecycle : String → RuntimeLifecycleState) (db : Db) (stale : StaleRuntimeMessageRow) :
    Option Db :=
  let row := stale.message
  if ¬ (lifecycle row.conversationId).allows .startupRecovery then some db
  else
    row.recovery.map fun updates =>
      match db.updateMessage stale.userId row.conversationId row.id updates with
      | .ok db => db
      | .error _ => db

def recoverStaleRuntimeStateOnStartup (lifecycle : String → RuntimeLifecycleState) (db : Db) : Option Db :=
  db.listStaleRuntimeMessages.foldlM (recoverRow lifecycle) db

end Db

open KiCore.Conversation (RuntimeLifecycleState ConversationRuntimeState)

/-- The contents that are stored in a row of a type. -/
def Shaped (type : String) : Json → Prop
  | .obj _ => True
  | .arr items => type = "tool_group" ∧ ∀ item ∈ items, ∃ members, item = .obj members
  | _ => False

structure MessageRow.Written (row : MessageRow) : Prop where
  position : row.position = some "left"
  content : Shaped row.type row.content
  group : row.type = "tool_group" → row.msgId = some row.id

/-- Every row is one that a stream writes, and belongs to a conversation. -/
def Db.Written (db : Db) : Prop :=
  ∀ id row, db.findMessage id = some row → row.Written ∧ (db.conversations[row.conversationId]?).isSome

namespace MessageRow.Written

variable {old row : MessageRow}

lemma merge (written : old.Written) (content : ∃ patch, row.content = .obj patch) :
    (old.merge row).Written where
  position := by
    rw [MessageRow.merge, written.position]
    rfl
  content := by
    obtain ⟨patch, content⟩ := content
    have patched : Json.mergePatch old.content row.content =
        .obj (Json.mergeMembers old.content.members patch) := by
      rw [content]
      rfl
    rw [MessageRow.merge, patched]
    unfold statusPath
    split_ifs <;> exact trivial
  group := written.group

lemma update (written : row.Written) {updates : MessageRowUpdate}
    (content : ∀ c, updates.content = some c → Shaped row.type c) : (row.update updates).Written where
  position := written.position
  content := by
    unfold MessageRow.update
    dsimp only
    cases given : updates.content with
    | none => exact written.content
    | some c => exact content c given
  group := written.group

end MessageRow.Written

namespace Db.Written

variable {db : Db} (written : db.Written)
include written

lemma bump {convId : String} {time : Int} : (db.bump convId time).Written := fun id row found =>
  ⟨(written id row found).1, there_bump.mpr (written id row found).2⟩

lemma put {merge : MessageRow → MessageRow → MessageRow} (keeps) {row : MessageRow}
    (new : db.findMessage row.id = none → row.Written ∧ (db.conversations[row.conversationId]?).isSome)
    (merged : ∀ old, db.findMessage row.id = some old →
      (merge old row).Written ∧ (merge old row).conversationId = old.conversationId) :
    (db.put merge keeps row).Written := by
  intro id row' found
  rw [find_put keeps] at found
  by_cases same : row.id = id
  · subst same
    rw [if_pos rfl, Option.some_inj] at found
    subst found
    cases old : db.findMessage row.id with
    | none => exact new old
    | some old' =>
      obtain ⟨merged, home⟩ := merged old' old
      refine ⟨merged, ?_⟩
      rw [Option.elim_some, home]
      exact (written row.id old' old).2
  · rw [if_neg same] at found
    exact written id row' found

variable {adapter : StreamPersistenceAdapter}

lemma insert {row : MessageRow} (new : row.Written) : (adapter.insert db row).Written := by
  unfold StreamPersistenceAdapter.insert
  rcases db.insertMessage_cases adapter.userId row with ⟨inserted, owned, absent⟩ | ⟨e, failed⟩
  · rw [inserted]
    refine (written.put _ (fun _ => ⟨new, owned.there⟩) fun old found => ?_).bump
    rw [absent] at found
    cases found
  · rw [failed]
    exact written

lemma upsert {row : MessageRow} (new : row.Written) (content : ∃ patch, row.content = .obj patch) :
    (adapter.upsert db row).Written := by
  unfold StreamPersistenceAdapter.upsert
  rcases db.upsertMessage_cases adapter.userId row with ⟨upserted, stores⟩ | ⟨⟨e, failed⟩, -⟩
  · rw [upserted]
    refine (written.put _ (fun absent => ⟨new, ?_⟩) fun old found =>
      ⟨(written row.id old found).1.merge content, rfl⟩).bump
    rcases stores with ⟨-, there⟩ | ⟨old, found, -⟩
    · exact there
    · rw [absent] at found
      cases found
  · rw [failed]
    exact written

lemma update {id : String} {updates : MessageRowUpdate}
    (content : ∀ row c, db.findMessage id = some row → updates.content = some c → Shaped row.type c) :
    (adapter.update db id updates).Written := by
  unfold StreamPersistenceAdapter.update
  rcases db.updateMessage_cases adapter.userId adapter.conversationId id updates with
    ⟨row, found, -, -, updated⟩ | kept | ⟨e, failed⟩
  · rw [updated]
    have same := find_id found
    subst same
    refine written.put _ (fun absent => ?_) fun old found' => ?_
    · rw [absent] at found
      cases found
    · rw [found] at found'
      cases found'
      exact ⟨(written row.id row found).1.update fun c => content row c found, rfl⟩
  · rw [kept]
    exact written
  · rw [failed]
    exact written

lemma update_text {id text : String} {status : Option (Option String)} {hidden : Option Bool} :
    (adapter.update db id ⟨some (textContent text), status, hidden⟩).Written :=
  written.update fun row c _ given => by
    cases given
    exact trivial

lemma update_status {id : String} {status : Option (Option String)} {hidden : Option Bool} :
    (adapter.update db id ⟨none, status, hidden⟩).Written :=
  written.update fun row c _ given => by cases given

lemma update_all {ids : List String} {status : Option (Option String)} {hidden : Option Bool} :
    (ids.foldl (fun db id => adapter.update db id ⟨none, status, hidden⟩) db).Written := by
  induction ids generalizing db with
  | nil => exact written
  | cons id ids ih => exact ih written.update_status

end Db.Written

lemma Db.Written.ite {p : Prop} [Decidable p] {a b : Db} (first : a.Written) (second : b.Written) :
    (if p then a else b).Written := by
  split_ifs
  · exact first
  · exact second

lemma StreamPersistenceAdapter.leftRow_written (adapter : StreamPersistenceAdapter)
    {id type status : String} {msgId : Option String} {members : List (String × Json)} {createdAt : Int}
    (other : type ≠ "tool_group") :
    (adapter.leftRow id msgId type (.obj members) status createdAt).Written :=
  ⟨rfl, trivial, fun group => absurd group other⟩

inductive StreamOp where
  | flushText (segment : TextSegment)
  | finalizeText (segment : TextSegment) (status : String)
  | finalText (textSegments : List String) (status finalText : String) (hidden rewriteSegments : Bool)
  | errorTip (minted : String) (data : ErrorEventData)
  | tip (minted : String) (data : TipsEventData)
  | thinking (segment : ThinkingSegment) (durationMs : Nat)
  | toolCall (data : ToolCallEventData)
  | settleToolCall (data : ToolCallEventData)
  | acpToolCall (data : AcpToolCallEventData)
  | toolGroup (minted : String) (entries : List ToolGroupEntry)
  | plan (data : PlanEventData) (turnId : String)

/-- An operation with the adapter that makes it and the time. -/
structure StreamWrite where
  adapter : StreamPersistenceAdapter
  now : Int
  op : StreamOp

namespace StreamWrite

def apply (db : Db) (write : StreamWrite) : Db :=
  let { adapter, now, op } := write
  match op with
  | .flushText segment => adapter.flushTextSegment db segment
  | .finalizeText segment status => adapter.finalizeTextSegment db segment status
  | .finalText textSegments status finalText hidden rewriteSegments =>
    adapter.persistFinalText now db textSegments status finalText hidden rewriteSegments
  | .errorTip minted data => adapter.persistErrorTip now minted db data
  | .tip minted data => adapter.persistTip now minted db data
  | .thinking segment durationMs => adapter.persistThinkingSegment db segment durationMs
  | .toolCall data => adapter.persistToolCall now db data
  | .settleToolCall data => adapter.settleToolCallIfPresent now db data
  | .acpToolCall data => adapter.persistAcpToolCall now db data
  | .toolGroup minted entries => adapter.persistToolGroup now minted db entries
  | .plan data turnId => adapter.persistPlan now db data turnId

variable {db : Db} {adapter : StreamPersistenceAdapter} {now : Int}

variable (written : db.Written)
include written

lemma toolCall_written (data : ToolCallEventData) :
    (adapter.persistToolCall now db data).Written := by
  have row : (adapter.toolCallRow now data).Written :=
    ⟨rfl, trivial, fun h => absurd h (by decide : ¬ ("tool_call" = "tool_group"))⟩
  exact written.ite (written.ite (written.upsert row ⟨_, rfl⟩))

lemma acpToolCall_written (data : AcpToolCallEventData) :
    (adapter.persistAcpToolCall now db data).Written := by
  have row : (adapter.acpToolCallRow now data).Written :=
    ⟨rfl, trivial, fun h => absurd h (by decide : ¬ ("acp_tool_call" = "tool_group"))⟩
  exact written.ite (written.upsert row ⟨_, rfl⟩)

lemma toolGroup_written (minted : String) (entries : List ToolGroupEntry) :
    (adapter.persistToolGroup now minted db entries).Written := by
  have items : ∀ item ∈ entries.map ToolGroupEntry.toJson, ∃ members, item = .obj members := by
    intro item mem
    obtain ⟨entry, -, rfl⟩ := List.mem_map.mp mem
    exact ⟨_, rfl⟩
  refine written.ite ?_
  dsimp only
  split
  · -- the row that is updated is the one of the group
    rename_i group there
    have matches_ := List.find?_some there
    have mem := List.mem_of_find?_eq_some there
    simp only [decide_eq_true_eq] at matches_
    obtain ⟨-, -, msgId, type⟩ := matches_
    have found := Db.mem_messages.mp mem
    have same : group.id = _ := Option.some.inj (((written _ group found).1.group type).symm.trans msgId)
    refine written.update fun row c found' given => ?_
    rw [← same, found] at found'
    cases found'
    cases given
    exact ⟨type, items⟩
  · exact written.insert ⟨rfl, ⟨rfl, items⟩, fun _ => rfl⟩

lemma finalText_written (textSegments : List String) (status finalText : String)
    (hidden rewriteSegments : Bool) :
    (adapter.persistFinalText now db textSegments status finalText hidden rewriteSegments).Written := by
  refine written.ite ?_
  cases textSegments with
  | nil => exact written.ite (written.insert (adapter.leftRow_written (by decide)))
  | cons primary others => exact written.update_text.update_all.ite written.update_all

lemma apply_written (write : StreamWrite) : (apply db write).Written := by
  obtain ⟨adapter, now, op⟩ := write
  cases op with
  | flushText segment =>
    exact written.ite (written.ite (written.update_text.ite
      (written.insert (adapter.leftRow_written (by decide)))))
  | finalizeText segment status =>
    exact written.ite (written.ite (written.update_text.ite
      (written.insert (adapter.leftRow_written (by decide)))))
  | finalText textSegments status finalText hidden rewriteSegments =>
    exact finalText_written written textSegments status finalText hidden rewriteSegments
  | errorTip minted data => exact written.ite (written.insert (adapter.leftRow_written (by decide)))
  | tip minted data => exact written.ite (written.insert (adapter.leftRow_written (by decide)))
  | thinking segment durationMs =>
    exact written.ite (written.ite (written.insert (adapter.leftRow_written (by decide))))
  | toolCall data => exact toolCall_written written data
  | settleToolCall data =>
    change (adapter.settleToolCallIfPresent now db data).Written
    unfold StreamPersistenceAdapter.settleToolCallIfPresent
    split
    · exact written
    · exact toolCall_written written data
  | acpToolCall data => exact acpToolCall_written written data
  | toolGroup minted entries => exact toolGroup_written written minted entries
  | plan data turnId =>
    exact written.ite (written.upsert (adapter.leftRow_written (by decide)) ⟨_, rfl⟩)

end StreamWrite

def Db.noMessages (conversations : Table String ConversationRow) : Db where
  conversations := conversations
  messages := []
  unique := List.nodup_nil

lemma foldl_written (conversations : Table String ConversationRow) (writes : List StreamWrite) :
    (writes.foldl StreamWrite.apply (.noMessages conversations)).Written := by
  have run : ∀ db : Db, db.Written → (writes.foldl StreamWrite.apply db).Written := by
    induction writes with
    | nil => exact fun _ written => written
    | cons write writes ih => exact fun db written => ih _ (StreamWrite.apply_written written write)
  exact run _ fun id row found => nomatch found

def Ended (terminal : List String) (status : Option Json) : Prop :=
  ∃ s ∈ terminal, status = some (.str s)

lemma isStale_eq_false {terminal : List String} {value : Json} :
    isStale terminal value = false ↔ Ended terminal (value.get "status") := by
  unfold isStale Ended
  cases value.get "status" with
  | none => simp
  | some status =>
    cases status with
    | str s => simp [Json.asStr]
    | _ => simp [Json.asStr]

lemma get_insert_status (members : List (String × Json)) (s : String) :
    (Json.obj (Json.insert "status" (.str s) members)).get "status" = some (.str s) :=
  Json.lookup_insert.trans (if_pos rfl)

lemma mapM_settle (items : List Json) (objects : ∀ item ∈ items, ∃ members, item = .obj members) :
    ∃ settled, (items.mapM fun entry =>
        if isStale toolGroupTerminal entry then setIndex "status" (.str "Canceled") entry
        else some entry) = some settled ∧
      ∀ item ∈ settled, isStale toolGroupTerminal item = false := by
  induction items with
  | nil => exact ⟨[], rfl, fun item mem => absurd mem List.not_mem_nil⟩
  | cons item items ih =>
    obtain ⟨settled, rest, ended⟩ := ih fun item mem => objects item (List.mem_cons_of_mem _ mem)
    obtain ⟨members, rfl⟩ := objects _ List.mem_cons_self
    have first : ∃ item, (if isStale toolGroupTerminal (.obj members) then
        setIndex "status" (.str "Canceled") (.obj members) else some (.obj members)) = some item ∧
          isStale toolGroupTerminal item = false := by
      split_ifs with stale
      · exact ⟨_, rfl, isStale_eq_false.mpr ⟨"Canceled", by decide, get_insert_status members _⟩⟩
      · exact ⟨_, rfl, Bool.eq_false_iff.mpr stale⟩
    obtain ⟨item, set, end_⟩ := first
    refine ⟨item :: settled, ?_, fun item' mem => ?_⟩
    · rw [List.mapM_cons, set, rest]
      rfl
    · rcases List.mem_cons.mp mem with rfl | mem
      · exact end_
      · exact ended item' mem

/-- The entries of a group are at an end; where a frame of a call was merged into the group, the call is. -/
def GroupEnded : Json → Prop
  | .arr entries => ∀ entry ∈ entries, Ended ["Success", "Error", "Canceled"] (entry.get "status")
  | content => Ended ["completed", "error", "canceled"] (content.get "status")

namespace MessageRow

variable (row : MessageRow)

def IsTool : Prop :=
  row.type ∈ ["tool_call", "acp_tool_call", "tool_group"]

instance : Decidable row.IsTool :=
  inferInstanceAs (Decidable (_ ∈ _))

/-- Every status in the content of a tool row says that work is at an end. -/
def Terminal : Prop :=
  if row.type = "acp_tool_call" then
    Ended ["completed", "failed"] (row.content.getPath ["update", "status"])
  else if row.type = "tool_group" then GroupEnded row.content
  else Ended ["completed", "error", "canceled"] (row.content.get "status")

/-- A row that the recovery can settle: one that is open is of a type that is listed, and holds the
entries of its group; one that is closed has no work in its content. -/
def Recoverable : Prop :=
  if row.Open then
    row.type ∈ ["text", "thinking", "tool_call", "tool_group"] ∧
      (row.type = "tool_group" → (∃ entries, row.content = .arr entries) ∨ row.Terminal)
  else row.IsTool → row.Terminal

def recovered : MessageRow :=
  row.recovery.elim row row.update

variable {row : MessageRow}

@[simp] lemma recovered_id : row.recovered.id = row.id := by
  unfold recovered
  cases row.recovery <;> rfl

@[simp] lemma recovered_type : row.recovered.type = row.type := by
  unfold recovered
  cases row.recovery <;> rfl

@[simp] lemma recovered_position : row.recovered.position = row.position := by
  unfold recovered
  cases row.recovery <;> rfl

lemma terminal_call (call : row.type = "tool_call") :
    row.Terminal ↔ isStale toolCallTerminal row.content = false := by
  unfold Terminal
  rw [call, if_neg (by decide), if_neg (by decide), isStale_eq_false]
  rfl

lemma terminal_group (group : row.type = "tool_group") : row.Terminal ↔ GroupEnded row.content := by
  unfold Terminal
  rw [group, if_neg (by decide), if_pos rfl]

namespace Written

variable (written : row.Written)
include written

lemma settles : ∃ content, settleToolRowContent row.type row.content = some content := by
  have shaped := written.content
  unfold settleToolRowContent
  split_ifs with call stale group
  · cases content : row.content with
    | obj members => exact ⟨_, rfl⟩
    | arr items =>
      rw [content, call] at shaped
      exact absurd shaped.1 (by decide)
    | _ =>
      rw [content] at shaped
      exact shaped.elim
  · exact ⟨_, rfl⟩
  · cases content : row.content with
    | arr items =>
      rw [content] at shaped
      obtain ⟨settled, set, -⟩ := mapM_settle items shaped.2
      dsimp only
      rw [set]
      exact ⟨_, rfl⟩
    | _ => exact ⟨_, rfl⟩
  · exact ⟨_, rfl⟩

lemma recovery : ∃ updates, row.recovery = some updates ∧ updates.status = some (some "finish") ∧
    (row.classifyRecoveryAction = .settleToolRow →
      settleToolRowContent row.type row.content = some updates.content) := by
  obtain ⟨content, settled⟩ := written.settles
  unfold MessageRow.recovery
  split_ifs with tool
  · exact ⟨_, congrArg _ settled, rfl, fun _ => settled⟩
  · exact ⟨_, rfl, rfl, fun h => absurd h tool⟩

lemma recovered_closed : ¬ row.recovered.Open := by
  obtain ⟨updates, recovers, status, -⟩ := written.recovery
  have closed : row.recovered.status = some "finish" := by
    unfold MessageRow.recovered
    rw [recovers]
    exact congrArg (Option.getD · row.status) status
  unfold Open
  rw [closed]
  decide

lemma recovered_content (tool : row.type ∈ ["tool_call", "tool_group"]) :
    ∃ content, settleToolRowContent row.type row.content = some content ∧
      row.recovered.content = content.getD row.content := by
  obtain ⟨updates, recovers, -, content⟩ := written.recovery
  refine ⟨updates.content, content (if_pos tool), ?_⟩
  unfold MessageRow.recovered
  rw [recovers]
  rfl

lemma recovered_call (call : row.type = "tool_call") : row.recovered.Terminal := by
  obtain ⟨content, settled, is⟩ := written.recovered_content (by rw [call]; decide)
  have shaped := written.content
  rw [terminal_call (recovered_type.trans call), is]
  unfold settleToolRowContent at settled
  rw [if_pos call] at settled
  split_ifs at settled with stale
  · cases object : row.content with
    | obj members =>
      rw [object] at settled
      cases settled
      exact isStale_eq_false.mpr ⟨"canceled", by decide, get_insert_status members _⟩
    | arr items =>
      rw [object, call] at shaped
      exact absurd shaped.1 (by decide)
    | _ =>
      rw [object] at shaped
      exact shaped.elim
  · cases settled
    exact Bool.eq_false_iff.mpr stale

lemma recovered_group (group : row.type = "tool_group") :
    row.recovered.Terminal ↔ (∃ entries, row.content = .arr entries) ∨ row.Terminal := by
  obtain ⟨content, settled, is⟩ := written.recovered_content (by rw [group]; decide)
  have shaped := written.content
  rw [terminal_group (recovered_type.trans group), terminal_group group, is]
  unfold settleToolRowContent at settled
  rw [if_neg (by rw [group]; decide), if_pos group] at settled
  cases object : row.content with
  | arr items =>
    rw [object] at settled shaped
    refine iff_of_true ?_ (.inl ⟨items, rfl⟩)
    obtain ⟨ended, set, terminal⟩ := mapM_settle items shaped.2
    dsimp only at settled
    rw [set, Option.map_some, Option.some_inj] at settled
    subst settled
    split_ifs with any
    · exact fun entry mem => isStale_eq_false.mp (terminal entry mem)
    · intro entry mem
      refine isStale_eq_false.mp (Bool.eq_false_iff.mpr fun stale => any ?_)
      exact List.any_eq_true.mpr ⟨entry, mem, stale⟩
  | obj members =>
    rw [object] at settled
    cases settled
    rw [or_iff_right]
    · rfl
    · rintro ⟨entries, is⟩
      cases is
  | _ =>
    rw [object] at shaped
    exact shaped.elim

end Written

def afterPass (row : MessageRow) : MessageRow :=
  if row.Stale then row.recovered else row

lemma afterPass_id : row.afterPass.id = row.id := by
  unfold afterPass
  split_ifs
  · exact recovered_id
  · rfl

lemma afterPass_closed (closed : ¬ row.Open) : row.afterPass = row :=
  if_neg fun stale => closed stale.2.1

namespace Written

variable (written : row.Written)
include written

lemma recovered_terminal (stale : row.Stale) : (row.recovered.IsTool → row.recovered.Terminal) ↔
    (row.type = "tool_group" → (∃ entries, row.content = .arr entries) ∨ row.Terminal) := by
  have listed := stale.2.2
  unfold IsTool
  rw [recovered_type]
  simp only [List.mem_cons, List.not_mem_nil, or_false] at listed ⊢
  rcases listed with is | is | is | is
  · rw [is]
    simp
  · rw [is]
    simp
  · refine iff_of_true (fun _ => written.recovered_call is) fun group => ?_
    exact absurd (is.symm.trans group) (by decide)
  · have tool : row.type = "tool_call" ∨ row.type = "acp_tool_call" ∨ row.type = "tool_group" :=
      .inr (.inr is)
    rw [← written.recovered_group is, forall_prop_of_true tool, forall_prop_of_true is]

lemma recoverable_iff : row.Recoverable ↔
    ¬ row.afterPass.Open ∧ (row.afterPass.IsTool → row.afterPass.Terminal) := by
  unfold Recoverable
  by_cases is : row.Open
  · rw [if_pos is]
    by_cases listed : row.type ∈ ["text", "thinking", "tool_call", "tool_group"]
    · have stale : row.Stale := ⟨written.position, is, listed⟩
      rw [afterPass, if_pos stale, and_iff_right listed, and_iff_right written.recovered_closed,
        written.recovered_terminal stale]
    · rw [afterPass, if_neg fun stale : row.Stale => listed stale.2.2]
      exact iff_of_false (fun h => listed h.1) fun h => h.1 is
  · rw [if_neg is, afterPass_closed is, and_iff_right is]

end Written

end MessageRow

def atStartup : String → RuntimeLifecycleState :=
  fun _ => ConversationRuntimeState.default.lifecycle

namespace Db

variable {db : Db} {stale : StaleRuntimeMessageRow}

lemma mem_listStaleRuntimeMessages : stale ∈ db.listStaleRuntimeMessages ↔
    stale.message ∈ db.messages ∧ stale.message.Stale ∧
      db.owns stale.userId stale.message.conversationId := by
  unfold listStaleRuntimeMessages owns
  rw [List.mem_mergeSort, List.mem_filterMap]
  constructor
  · rintro ⟨row, mem, listed⟩
    split_ifs at listed with is
    obtain ⟨conv, there, rfl⟩ := Option.map_eq_some_iff.mp listed
    exact ⟨mem, is, congrArg (Option.map ConversationRow.userId) there⟩
  · rintro ⟨mem, is, owned⟩
    refine ⟨stale.message, mem, ?_⟩
    obtain ⟨conv, there, user⟩ := Option.map_eq_some_iff.mp owned
    rw [if_pos is, there]
    exact congrArg (fun userId => some (StaleRuntimeMessageRow.mk userId stale.message)) user

lemma distinct_listStaleRuntimeMessages :
    db.listStaleRuntimeMessages.Pairwise fun a b => a.message.id ≠ b.message.id := by
  unfold listStaleRuntimeMessages
  refine ((List.mergeSort_perm _ _).pairwise_iff Ne.symm).mpr ?_
  rw [List.pairwise_filterMap]
  refine (List.pairwise_map.mp db.unique).imp fun ne a first b second => ?_
  split_ifs at first second
  obtain ⟨_, -, rfl⟩ := Option.map_eq_some_iff.mp first
  obtain ⟨_, -, rfl⟩ := Option.map_eq_some_iff.mp second
  exact ne

lemma recoverRow_spec (written : stale.message.Written)
    (found : db.findMessage stale.message.id = some stale.message)
    (owned : db.owns stale.userId stale.message.conversationId) :
    ∃ db', db.recoverRow atStartup stale = some db' ∧ db'.conversations = db.conversations ∧
      ∀ id, db'.findMessage id =
        if stale.message.id = id then some stale.message.recovered else db.findMessage id := by
  obtain ⟨updates, recovers, status, -⟩ := written.recovery
  have updated : db.updateMessage stale.userId stale.message.conversationId stale.message.id updates =
      .ok (db.put (fun old _ => old.update updates) (fun old _ => old.update_id updates)
        stale.message) := by
    unfold updateMessage
    rw [status, if_neg (by simp), found]
    exact if_pos ⟨rfl, owned⟩
  have allowed : (atStartup stale.message.conversationId).allows .startupRecovery = true := rfl
  have stored : db.recoverRow atStartup stale = some (db.put (fun old _ => old.update updates)
      (fun old _ => old.update_id updates) stale.message) := by
    unfold recoverRow
    dsimp only
    rw [recovers, if_neg (not_not_intro allowed), Option.map_some, updated]
  refine ⟨_, stored, rfl, fun id => (find_put _).trans ?_⟩
  split_ifs with same
  · rw [← same, found]
    unfold MessageRow.recovered
    rw [recovers]
    rfl
  · rfl

lemma recoverRows_spec (rows : List StaleRuntimeMessageRow)
    (distinct : rows.Pairwise fun a b => a.message.id ≠ b.message.id)
    (there : ∀ stale ∈ rows, stale.message.Written ∧
      db.findMessage stale.message.id = some stale.message ∧
        db.owns stale.userId stale.message.conversationId) :
    ∃ db', rows.foldlM (recoverRow atStartup) db = some db' ∧ db'.conversations = db.conversations ∧
      (∀ stale ∈ rows, db'.findMessage stale.message.id = some stale.message.recovered) ∧
      ∀ id, (∀ stale ∈ rows, stale.message.id ≠ id) → db'.findMessage id = db.findMessage id := by
  induction rows generalizing db with
  | nil => exact ⟨db, rfl, rfl, fun _ mem => absurd mem List.not_mem_nil, fun _ _ => rfl⟩
  | cons row rows ih =>
    obtain ⟨apart, distinct⟩ := List.pairwise_cons.mp distinct
    obtain ⟨written, found, owned⟩ := there row List.mem_cons_self
    obtain ⟨db', first, conversations, find⟩ := recoverRow_spec written found owned
    -- the other rows are still there
    have there' : ∀ stale ∈ rows, stale.message.Written ∧
        db'.findMessage stale.message.id = some stale.message ∧
          db'.owns stale.userId stale.message.conversationId := by
      intro stale mem
      obtain ⟨written, found, owned⟩ := there stale (List.mem_cons_of_mem _ mem)
      refine ⟨written, ?_, ?_⟩
      · rw [find, if_neg (apart stale mem), found]
      · rw [owns, conversations]
        exact owned
    obtain ⟨db'', rest, conversations', settled, others⟩ := ih distinct there'
    refine ⟨db'', ?_, conversations'.trans conversations, fun stale mem => ?_, fun id none => ?_⟩
    · rw [List.foldlM_cons, first]
      exact rest
    · rcases List.mem_cons.mp mem with rfl | mem
      · rw [others _ fun other mem => (apart other mem).symm, find, if_pos rfl]
      · exact settled stale mem
    · rw [others id fun stale mem => none stale (List.mem_cons_of_mem _ mem), find,
        if_neg (none row List.mem_cons_self)]

lemma recover_spec (written : db.Written) :
    ∃ db', db.recoverStaleRuntimeStateOnStartup atStartup = some db' ∧
      db'.conversations = db.conversations ∧
      ∀ id, db'.findMessage id = (db.findMessage id).map MessageRow.afterPass := by
  have there : ∀ stale ∈ db.listStaleRuntimeMessages, stale.message.Written ∧
      db.findMessage stale.message.id = some stale.message ∧
        db.owns stale.userId stale.message.conversationId := by
    intro stale mem
    obtain ⟨mem, -, owned⟩ := mem_listStaleRuntimeMessages.mp mem
    have found := mem_messages.mp mem
    exact ⟨(written _ _ found).1, found, owned⟩
  obtain ⟨db', passes, conversations, settled, others⟩ :=
    recoverRows_spec _ distinct_listStaleRuntimeMessages there
  refine ⟨db', passes, conversations, fun id => ?_⟩
  by_cases listed : ∃ stale ∈ db.listStaleRuntimeMessages, stale.message.id = id
  · obtain ⟨stale, mem, rfl⟩ := listed
    rw [settled stale mem, (there stale mem).2.1, Option.map_some, MessageRow.afterPass,
      if_pos (mem_listStaleRuntimeMessages.mp mem).2.1]
  · rw [others id fun stale mem same => listed ⟨stale, mem, same⟩]
    cases found : db.findMessage id with
    | none => rfl
    | some row =>
      obtain ⟨conv, there⟩ := Option.isSome_iff_exists.mp (written id row found).2
      have same := find_id found
      rw [Option.map_some, MessageRow.afterPass, if_neg]
      intro is
      refine listed ⟨⟨conv.userId, row⟩, mem_listStaleRuntimeMessages.mpr ⟨?_, is, ?_⟩, same⟩
      · rw [mem_messages, same]
        exact found
      · exact congrArg (Option.map ConversationRow.userId) there

lemma recover_none (none : ∀ row ∈ db.messages, ¬ row.Stale) :
    db.recoverStaleRuntimeStateOnStartup atStartup = some db := by
  have empty : db.listStaleRuntimeMessages = [] := by
    refine List.eq_nil_iff_forall_not_mem.mpr fun stale mem => ?_
    obtain ⟨mem, is, -⟩ := mem_listStaleRuntimeMessages.mp mem
    exact none _ mem is
  unfold recoverStaleRuntimeStateOnStartup
  rw [empty]
  rfl

end Db

/-- What a pass from one table to another is to leave. -/
structure Recovered (db db' : Db) : Prop where
  closed : ∀ row ∈ db'.messages, row.position = some "left" → ¬ row.Open
  terminal : ∀ row ∈ db'.messages, row.IsTool → row.Terminal
  kept : ∀ row ∈ db.messages, ¬ row.Open → row ∈ db'.messages
  again : db'.recoverStaleRuntimeStateOnStartup atStartup = some db'

namespace Db.Written

variable {db db' : Db} (written : db.Written)
  (find : ∀ id, db'.findMessage id = (db.findMessage id).map MessageRow.afterPass)
include find

lemma mem_recovered {row : MessageRow} :
    row ∈ db'.messages ↔ ∃ old ∈ db.messages, old.afterPass = row := by
  rw [mem_messages, find, Option.map_eq_some_iff]
  constructor
  · rintro ⟨old, found, rfl⟩
    refine ⟨old, mem_messages.mpr ?_, rfl⟩
    rw [find_id found]
    exact found
  · rintro ⟨old, mem, rfl⟩
    rw [MessageRow.afterPass_id]
    exact ⟨old, mem_messages.mp mem, rfl⟩

include written

lemma recovered_iff : Recovered db db' ↔ ∀ row ∈ db.messages, row.Recoverable := by
  have left : ∀ row ∈ db.messages, row.Written := fun row mem =>
    (written row.id row (mem_messages.mp mem)).1
  constructor
  · intro recovered row mem
    have mem' := (mem_recovered find).mpr ⟨row, mem, rfl⟩
    have position : row.afterPass.position = some "left" := by
      unfold MessageRow.afterPass
      split_ifs
      · rw [MessageRow.recovered_position]
        exact (left row mem).position
      · exact (left row mem).position
    exact (left row mem).recoverable_iff.mpr ⟨recovered.closed _ mem' position, recovered.terminal _ mem'⟩
  · intro recoverable
    have ended : ∀ row ∈ db'.messages, ¬ row.Open ∧ (row.IsTool → row.Terminal) := by
      intro row mem
      obtain ⟨old, there, rfl⟩ := (mem_recovered find).mp mem
      exact (left old there).recoverable_iff.mp (recoverable old there)
    exact ⟨fun row mem _ => (ended row mem).1, fun row mem => (ended row mem).2,
      fun row mem closed => (mem_recovered find).mpr ⟨row, mem, MessageRow.afterPass_closed closed⟩,
      recover_none fun row mem stale => (ended row mem).1 stale.2.1⟩

end Db.Written

/-- The pass at startup ends and leaves nothing open, whatever a stream has written, if and only if
every row can be settled. -/
theorem startup_recovery (conversations : Table String ConversationRow) (writes : List StreamWrite) :
    (∃ db', (writes.foldl StreamWrite.apply (.noMessages conversations)).recoverStaleRuntimeStateOnStartup
          atStartup = some db' ∧
        Recovered (writes.foldl StreamWrite.apply (.noMessages conversations)) db') ↔
      ∀ row ∈ (writes.foldl StreamWrite.apply (.noMessages conversations)).messages, row.Recoverable := by
  have written := foldl_written conversations writes
  obtain ⟨db', passes, -, find⟩ := Db.recover_spec written
  rw [← written.recovered_iff find]
  constructor
  · rintro ⟨db'', passes', recovered⟩
    cases passes.symm.trans passes'
    exact recovered
  · exact fun recovered => ⟨db', passes, recovered⟩

def userConversation : Table String ConversationRow :=
  Std.TreeMap.ofList [("c", ⟨"u", 0⟩)] compare

/-- A call of an agent that has begun when the process dies. -/
def leftOpen : List StreamWrite :=
  [⟨⟨"u", "c", "m", none, none⟩, 1, .acpToolCall
    ⟨"s", ⟨.str "tool_call", "t", some .inProgress, none, none, none, none, none, none⟩, none⟩⟩]

/-- Its row stays at work. -/
theorem startup_recovery_acp :
    ¬ ∃ db', (leftOpen.foldl StreamWrite.apply
          (.noMessages userConversation)).recoverStaleRuntimeStateOnStartup atStartup = some db' ∧
        Recovered (leftOpen.foldl StreamWrite.apply (.noMessages userConversation)) db' := by
  rintro ⟨db', passes, recovered⟩
  rw [Db.recover_none (by decide), Option.some_inj] at passes
  subst passes
  exact absurd recovered.closed (by decide)

end KiCore.Messages

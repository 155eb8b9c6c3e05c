import KiCore.Lib.Table
import KiCore.Lib.Text
import Mathlib.Data.String.Basic

/-!
# Sidebar tables

Port of `sqlite_sidebar.rs` and `sqlite_user_order.rs`: the tables that the sidebar is assembled
from, and the statements on them. A row of `conversations` has what the statements extract from its
`extra` column in fields of their own, and says whether it can be turned into a response.

The rows of `user_order` are those of its one scene; at most one is there for each user and item.
-/

namespace KiCore.Sidebar

open KiCore.Lib

/-- The scenes of `user_order`. -/
inductive OrderScene where
  | pinned
  deriving DecidableEq

def OrderScene.parse (value : String) : Option OrderScene :=
  if value = "pinned" then some .pinned else none

inductive OrderItemType where
  | conversation
  | team
  deriving DecidableEq

def OrderItemType.asStr : OrderItemType → String
  | .conversation => "conversation"
  | .team => "team"

def OrderItemType.parse (value : String) : Option OrderItemType :=
  if value = "conversation" then some .conversation else if value = "team" then some .team else none

def OrderItemType.ord : OrderItemType → Nat
  | .conversation => 0
  | .team => 1

structure OrderItemRef where
  itemType : OrderItemType
  itemId : String
  deriving DecidableEq

structure UserOrderRow where
  userId : String
  item : OrderItemRef
  orderKey : Int
  deriving DecidableEq

def UserOrderRow.key (row : UserOrderRow) : String × OrderItemRef :=
  (row.userId, row.item)

/-- Table `user_order`. -/
structure UserOrder where
  rows : List UserOrderRow
  unique : (rows.map UserOrderRow.key).Nodup

inductive PinOutcome where
  | inserted
  | alreadyPinned
  deriving DecidableEq

inductive MoveOutcome where
  | moved
  | movedNotFound
  | afterNotFound
  deriving DecidableEq

def pinGap : Int := 1000

def rebalanceThreshold : Int := 16

/-- The result of an operator of `i64`, which wraps. -/
def i64 (n : Int) : Int := n.bmod (2 ^ 64)

def midpoint (left right : Int) : Int := i64 (left + (i64 (right - left)).tdiv 2)

/-- A row comes before a position in the order of the keys, the types and the identifiers. -/
def precedes (orderKey : Int) (item : OrderItemRef) (row : UserOrderRow) : Bool :=
  orderKey < row.orderKey || (orderKey = row.orderKey &&
    (item.itemType.ord < row.item.itemType.ord ||
      (item.itemType = row.item.itemType && item.itemId < row.item.itemId)))

namespace UserOrder

def empty : UserOrder :=
  { rows := [], unique := List.nodup_nil }

variable (order : UserOrder) (userId : String)

def ofUser : List UserOrderRow :=
  (order.rows.filter fun row => row.userId = userId).mergeSort fun a b => ¬ precedes b.orderKey b.item a

variable (item : OrderItemRef)

def contains : Bool :=
  order.rows.any fun row => row.key = (userId, item)

def orderKey (order : UserOrder) (userId : String) (item : OrderItemRef) : Option Int :=
  (order.rows.find? fun row => row.key = (userId, item)).map (·.orderKey)

def minOrderKey : Option Int :=
  ((order.rows.filter fun row => row.userId = userId).map (·.orderKey)).min?

def insert (row : UserOrderRow) (new : ∀ old ∈ order.rows, old.key ≠ row.key) : UserOrder where
  rows := order.rows ++ [row]
  unique := by
    rw [List.map_append, List.map_cons, List.map_nil, List.nodup_append]
    refine ⟨order.unique, List.nodup_singleton _, ?_⟩
    intro key mem other last same
    obtain ⟨old, there, rfl⟩ := List.mem_map.mp mem
    rw [List.mem_singleton] at last
    exact new old there (same.trans last)

def delete (test : UserOrderRow → Bool) : UserOrder where
  rows := order.rows.filter fun row => ¬ test row
  unique := order.unique.sublist (List.filter_sublist.map _)

def rekey (key : UserOrderRow → Int) : UserOrder where
  rows := order.rows.map fun row => { row with orderKey := key row }
  unique := by
    rw [List.map_map]
    exact order.unique

def pin : PinOutcome × UserOrder :=
  if new : ∀ old ∈ order.rows, old.key ≠ (userId, item) then
    let orderKey := match order.minOrderKey userId with
      | some key => i64 (key - pinGap)
      | none => pinGap
    (.inserted, order.insert { userId, item, orderKey } new)
  else (.alreadyPinned, order)

def unpin : Bool × UserOrder :=
  (order.contains userId item, order.delete fun row => row.key = (userId, item))

def setKey (key : Int) : UserOrder :=
  order.rekey fun row => if row.key = (userId, item) then key else row.orderKey

/-- The key of the first row after a position, the row of `moved` apart. -/
def successorKey (afterKey : Int) (after moved : OrderItemRef) : Option Int :=
  ((order.ofUser userId).find? fun row => precedes afterKey after row && row.item ≠ moved).map
    (·.orderKey)

/-- Space the keys of a user evenly, in their order. -/
def rebalanceScene : UserOrder :=
  let items := (order.ofUser userId).map (·.item)
  order.rekey fun row =>
    if row.userId = userId then i64 (((items.idxOf row.item : Nat) + 1) * pinGap) else row.orderKey

/-- The error is that of a transaction that is rolled back. -/
def moveItem (moved : OrderItemRef) (after : Option OrderItemRef) :
    Except String MoveOutcome × UserOrder :=
  match order.orderKey userId moved with
  | none => (.ok .movedNotFound, order)
  | some _ =>
    match after with
    | none => (.ok .moved, order.setKey userId moved (i64 ((order.minOrderKey userId).getD pinGap - pinGap)))
    | some after =>
      match order.orderKey userId after with
      | none => (.ok .afterNotFound, order)
      | some left =>
        match order.successorKey userId left after moved with
        | none => (.ok .moved, order.setKey userId moved (i64 (left + pinGap)))
        | some right =>
          if i64 (right - left) ≥ rebalanceThreshold then
            (.ok .moved, order.setKey userId moved (midpoint left right))
          else
            let spaced := order.rebalanceScene userId
            match spaced.orderKey userId after with
            | none => (.error "after row vanished during rebalance", order)
            | some left =>
              match spaced.successorKey userId left after moved with
              | none => (.ok .moved, spaced.setKey userId moved (i64 (left + pinGap)))
              | some right => (.ok .moved, spaced.setKey userId moved (midpoint left right))

/-- The first rows of a user after a cursor. -/
def listPinned (after : Option (Int × OrderItemRef)) (limit : Nat) : List UserOrderRow :=
  ((order.ofUser userId).filter fun row => after.all fun cursor =>
    precedes cursor.1 cursor.2 row).take limit

def pinnedRefs : List OrderItemRef :=
  (order.rows.filter fun row => row.userId = userId).map (·.item)

end UserOrder

/-- A row of `conversations`. -/
structure ConversationRow where
  userId : String
  projectId : Option String
  extraWorkspace : Option String
  extraTeamId : Option String
  extraTeamIdCamel : Option String
  isHealthCheck : Bool
  hydrates : Bool
  archivedAt : Option Int
  updatedAt : Int
  createdAt : Int

structure TeamRow where
  userId : String
  name : String
  projectId : Option String
  workspace : Option String
  archivedAt : Option Int
  updatedAt : Int
  createdAt : Int

/-- A row of `projects` with its workspace folder. -/
structure ProjectRow where
  userId : String
  name : String
  kind : String
  workspaceCanonical : Option String
  workspaceUri : Option String
  createdAt : Int

structure Db where
  conversations : Table String ConversationRow
  teams : Table String TeamRow
  projects : Table String ProjectRow
  userOrder : UserOrder

inductive ArchiveScope where
  | active
  | archived
  deriving DecidableEq

def ArchiveScope.keeps : ArchiveScope → Option Int → Bool
  | .active, archivedAt => archivedAt.isNone
  | .archived, archivedAt => archivedAt.isSome

structure SidebarConversationThin where
  id : String
  projectId : Option String
  workspace : Option String
  teamId : Option String
  updatedAt : Int
  createdAt : Int

structure SidebarTeamThin where
  id : String
  name : String
  projectId : Option String
  workspace : Option String
  updatedAt : Int
  createdAt : Int

structure SidebarProjectMeta where
  projectId : String
  name : String
  kind : String
  workspaceCanonical : Option String
  workspaceUri : Option String
  createdAt : Int

def nullIfEmpty (value : Option String) : Option String :=
  value.filter (· ≠ "")

def nonBlank (value : Option String) : Option String :=
  value.filter fun text => text.toList.any fun c => ¬ Str.isWhitespace c

def ConversationRow.teamMarker (row : ConversationRow) : Option String :=
  (nullIfEmpty row.extraTeamId).or (nullIfEmpty row.extraTeamIdCamel)

/-- The conversations of a slice: those of the user that are no health checks. -/
def ConversationRow.listed (row : ConversationRow) (userId : String) (scope : ArchiveScope) : Bool :=
  row.userId = userId && scope.keeps row.archivedAt && ¬ row.isHealthCheck

def ConversationRow.thin (id : String) (row : ConversationRow) : SidebarConversationThin where
  id
  projectId := nonBlank (nullIfEmpty row.projectId)
  workspace := nonBlank row.extraWorkspace
  teamId := nonBlank row.teamMarker
  updatedAt := row.updatedAt
  createdAt := row.createdAt

def TeamRow.thin (id : String) (row : TeamRow) : SidebarTeamThin where
  id
  name := row.name
  projectId := nonBlank (nullIfEmpty row.projectId)
  workspace := nonBlank row.workspace
  updatedAt := row.updatedAt
  createdAt := row.createdAt

namespace Db

variable (db : Db)

def listConversationsThin (userId : String) (scope : ArchiveScope) : List SidebarConversationThin :=
  (db.conversations.toList.filter fun entry => entry.2.listed userId scope).map fun entry =>
    entry.2.thin entry.1

def listTeamsThin (userId : String) (scope : ArchiveScope) : List SidebarTeamThin :=
  (db.teams.toList.filter fun entry => entry.2.userId = userId && scope.keeps entry.2.archivedAt).map
    fun entry => entry.2.thin entry.1

def listUserProjects (userId : String) : List SidebarProjectMeta :=
  (db.projects.toList.filter fun entry => entry.2.userId = userId).map fun entry =>
    { projectId := entry.1
      name := entry.2.name
      kind := entry.2.kind
      workspaceCanonical := entry.2.workspaceCanonical
      workspaceUri := entry.2.workspaceUri
      createdAt := entry.2.createdAt }

def hydrateConversations (userId : String) (ids : List String) (scope : ArchiveScope) :
    Table String ConversationRow :=
  db.conversations.filter fun id row => row.listed userId scope && ids.contains id

def setConversationArchived (userId id : String) (at_ : Option Int) : Bool × Db :=
  match db.conversations[id]? with
  | none => (false, db)
  | some row =>
    if row.userId = userId then
      (true, { db with conversations := db.conversations.insert id { row with archivedAt := at_ } })
    else (false, db)

def setTeamArchived (userId id : String) (at_ : Option Int) : Bool × Db :=
  match db.teams[id]? with
  | none => (false, db)
  | some row =>
    if row.userId = userId then
      (true, { db with
        teams := db.teams.insert id { row with archivedAt := at_ }
        conversations := db.conversations.map fun _ member =>
          if member.userId = userId ∧ member.teamMarker = some id then { member with archivedAt := at_ }
          else member })
    else (false, db)

end Db

end KiCore.Sidebar

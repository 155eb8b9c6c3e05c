import KiCore.Lib.Keyed
import KiCore.Sidebar.Service

/-!
# Sidebar screen

Port of the read side of `service.rs`: the first screen with a window of every group, and the
further windows of one group. The units of a slice are sorted into groups, those with a pinned row
apart; the pinned rows are a group of their own, of which the rows of units that are not there are
left out.

Scopes and cursors are values: the codecs of their texts are left out, but for the texts that order
the groups and bind a cursor to its scope. What a group shows of itself is left out too.
-/

namespace KiCore.Sidebar

open KiCore.Lib

def cursorVersion : Nat := 1

def maxLimit : Nat := 100

/-- The length of a window. -/
abbrev Limit := { n : Nat // 1 ≤ n ∧ n ≤ maxLimit }

def defaultLimit : Limit := ⟨5, by decide⟩

def defaultItemsLimit : Int := 10

def maxProjectGroups : Nat := 100

def validateLimit (limit : Int) : Except SidebarError Limit :=
  if valid : 1 ≤ limit.toNat ∧ limit.toNat ≤ maxLimit then .ok ⟨limit.toNat, valid⟩
  else .error (.badRequest ("limit out of range [1," ++ toString maxLimit ++ "]: " ++ toString limit))

inductive ScopeToken where
  | pinned
  | project (projectId : String)
  | dir (canonical : String)
  | chats
  deriving DecidableEq

variable (paths : Paths)

def ScopeToken.toToken : ScopeToken → String
  | .pinned => "pinned"
  | .chats => "chats"
  | .project id => "project:" ++ id
  | .dir canonical => "dir:" ++ paths.canonicalToDirKey canonical

/-- A position in a group. -/
inductive Cursor where
  | pinned (orderKey : Int) (itemType itemId : String)
  | activity (updatedAt : Int) (itemType itemId : String)
  deriving DecidableEq

structure CursorPayload where
  v : Nat
  scope : String
  orderKey : Option Int
  updatedAt : Option Int
  itemType : String
  itemId : String

def Cursor.encode (scope : ScopeToken) : Cursor → CursorPayload
  | .pinned orderKey itemType itemId =>
    { v := cursorVersion, scope := scope.toToken paths, orderKey := some orderKey
      updatedAt := none, itemType, itemId }
  | .activity updatedAt itemType itemId =>
    { v := cursorVersion, scope := scope.toToken paths, orderKey := none
      updatedAt := some updatedAt, itemType, itemId }

def Cursor.decode (payload : CursorPayload) (scope : ScopeToken) : Except SidebarError Cursor :=
  if payload.v ≠ cursorVersion then .error (.badRequest "cursor version mismatch")
  else if payload.scope ≠ scope.toToken paths then
    .error (.badRequest "cursor belongs to a different scope")
  else
    match scope with
    | .pinned =>
      match payload.orderKey with
      | none => .error (.badRequest "pinned cursor missing order_key")
      | some orderKey => .ok (.pinned orderKey payload.itemType payload.itemId)
    | _ =>
      match payload.updatedAt with
      | none => .error (.badRequest "activity cursor missing updated_at")
      | some updatedAt => .ok (.activity updatedAt payload.itemType payload.itemId)

def toPinnedCursor : Cursor → Except SidebarError (Int × OrderItemRef)
  | .pinned orderKey itemType itemId =>
    match OrderItemType.parse itemType with
    | none => .error (.badRequest ("unknown cursor item type: " ++ itemType))
    | some itemType => .ok (orderKey, { itemType, itemId })
  | .activity .. => .error (.badRequest "expected a pinned cursor")

def typeOrdOf (itemType : String) : Nat :=
  if itemType = OrderItemType.conversation.asStr then 0
  else if itemType = OrderItemType.team.asStr then 1
  else 255

inductive GroupItemRef where
  | conv (id : String) (updatedAt : Int)
  | team (teamId : String) (updatedAt : Int)
  deriving DecidableEq

namespace GroupItemRef

def updatedAt : GroupItemRef → Int
  | .conv _ updatedAt => updatedAt
  | .team _ updatedAt => updatedAt

def itemType : GroupItemRef → OrderItemType
  | .conv .. => .conversation
  | .team .. => .team

def itemId : GroupItemRef → String
  | .conv id _ => id
  | .team teamId _ => teamId

def activityCursor (item : GroupItemRef) : Cursor :=
  .activity item.updatedAt item.itemType.asStr item.itemId

/-- An item comes after a cursor, the later activity first. -/
def isAfter (item : GroupItemRef) : Option Cursor → Bool
  | some (.activity updatedAt itemType itemId) =>
    item.updatedAt < updatedAt || (item.updatedAt = updatedAt &&
      (typeOrdOf itemType < item.itemType.ord ||
        (typeOrdOf itemType = item.itemType.ord && itemId < item.itemId)))
  | _ => true

/-- The order of the items of a group: the later activity first. -/
def cmpItem (a b : GroupItemRef) : Bool :=
  b.updatedAt < a.updatedAt || (a.updatedAt = b.updatedAt &&
    (a.itemType.ord < b.itemType.ord || (a.itemType.ord = b.itemType.ord && ¬ b.itemId < a.itemId)))

end GroupItemRef

def GroupKey.token : GroupKey → ScopeToken
  | .project pid => .project pid
  | .dir canonical => .dir canonical
  | .chats => .chats

structure GroupAccum where
  items : List GroupItemRef
  latestActivity : Option Int
  createdAt : Int
  token : ScopeToken
  tokenStr : String

structure NaturalGroup where
  token : ScopeToken
  tokenStr : String
  items : List GroupItemRef

/-- The groups of a screen, and the teams of its slice. -/
structure Snapshot where
  projectArea : List NaturalGroup
  chats : NaturalGroup
  hasMoreGroups : Bool
  teamById : Table String TeamAgg

namespace GroupAccum

def new (paths : Paths) (key : GroupKey) (byId : Table String SidebarProjectMeta) : GroupAccum where
  items := []
  latestActivity := none
  createdAt := match key with
    -- The project of a key is known.
    | .project pid => byId[pid]?.elim 0 (·.createdAt)
    | _ => 0
  token := key.token
  tokenStr := key.token.toToken paths

/-- The order of the groups: the later activity first, and those without units last, the newer
project first. -/
def cmpGroup (a b : GroupAccum) : Bool :=
  match a.latestActivity, b.latestActivity with
  | some x, some y => y < x || (x = y && ¬ a.tokenStr < b.tokenStr)
  | some _, none => true
  | none, some _ => false
  | none, none => b.createdAt < a.createdAt || (a.createdAt = b.createdAt && ¬ a.tokenStr < b.tokenStr)

def intoGroup (accum : GroupAccum) : NaturalGroup where
  token := accum.token
  tokenStr := accum.tokenStr
  items := accum.items.mergeSort GroupItemRef.cmpItem

/-- Put a unit into a group, a pinned one for its activity only. -/
def add (accum : GroupAccum) (updatedAt : Int) (pinned : Bool) (item : GroupItemRef) : GroupAccum :=
  { accum with
    latestActivity := some (accum.latestActivity.elim updatedAt fun a => max a updatedAt)
    items := if pinned then accum.items else accum.items ++ [item] }

end GroupAccum

abbrev GroupBuilder := List (GroupKey × GroupAccum)

namespace GroupBuilder

/-- Put a unit into the group of a key, which is new if there is none. -/
def push (paths : Paths) (byId : Table String SidebarProjectMeta) (builder : GroupBuilder)
    (key : GroupKey) (updatedAt : Int) (pinned : Bool) (item : GroupItemRef) : GroupBuilder :=
  Keyed.upsert Prod.fst (fun group _ => (group.1, group.2.add updatedAt pinned item))
    (key, (GroupAccum.new paths key byId).add updatedAt pinned item) builder

def ensureStandardSpine (paths : Paths) (builder : GroupBuilder) (project : SidebarProjectMeta) :
    GroupBuilder :=
  Keyed.upsert Prod.fst (fun group _ => group)
    (.project project.projectId,
      { items := []
        latestActivity := none
        createdAt := project.createdAt
        token := .project project.projectId
        tokenStr := (ScopeToken.project project.projectId).toToken paths }) builder

/-- The groups of the project area, the first hundred of them, and the chats. -/
def finish (builder : GroupBuilder) : List NaturalGroup × NaturalGroup × Bool :=
  let area := ((builder.filter fun group => group.1 ≠ .chats).map Prod.snd).mergeSort
    GroupAccum.cmpGroup
  let chats := ((Keyed.lookup Prod.fst .chats builder).map Prod.snd).getD
    { items := [], latestActivity := none, createdAt := 0, token := .chats, tokenStr := "chats" }
  ((area.take maxProjectGroups).map GroupAccum.intoGroup, chats.intoGroup,
    maxProjectGroups < area.length)

end GroupBuilder

inductive SidebarItem where
  | conversation (id : String) (row : ConversationRow) (pinned : Bool)
  | team (teamId name : String) (updatedAt : Int) (pinned : Bool) (memberConversationIds : List String)

structure SidebarGroup where
  scope : ScopeToken
  items : List SidebarItem
  hasMore : Bool
  nextCursor : Option CursorPayload

structure SidebarResponse where
  groups : List SidebarGroup
  hasMoreGroups : Bool

structure SidebarItemsResponse where
  items : List SidebarItem
  hasMore : Bool
  nextCursor : Option CursorPayload

def teamItem (agg : TeamAgg) (pinned : Bool) : SidebarItem :=
  .team agg.teamId agg.name agg.updatedAt pinned agg.memberIds

/-- The items of a window, the conversations that were not hydrated apart. -/
def assembleItems (window : List GroupItemRef) (hydrated : Table String ConversationRow)
    (teamById : Table String TeamAgg) (pinned : Bool) : List SidebarItem :=
  window.filterMap fun item => match item with
    | .conv id _ => hydrated[id]?.map fun row => .conversation id row pinned
    | .team teamId _ => teamById[teamId]?.map fun agg => teamItem agg pinned

def convIds (window : List GroupItemRef) : List String :=
  window.filterMap fun item => match item with
    | .conv id _ => some id
    | .team .. => none

namespace SidebarService

variable (paths : Paths) (s : SidebarService) (userId : String)

/-- Hydrate conversations. A row that cannot be parsed is skipped. -/
def hydrate (ids : List String) (scope : ArchiveScope) : Table String ConversationRow :=
  (s.db.hydrateConversations userId ids scope).filter fun _ row => row.hydrates

def loadTeamAggregates (scope : ArchiveScope) : Table String TeamAgg :=
  (aggregateTeams (s.db.listConversationsThin userId scope) (s.db.listTeamsThin userId scope)).1

/-- Sort the units of a slice into groups. -/
def classify (scope : ArchiveScope) : Snapshot :=
  let convs := s.db.listConversationsThin userId scope
  let teams := s.db.listTeamsThin userId scope
  let projects := s.db.listUserProjects userId
  let pinnedSet := match scope with
    | .active => s.db.userOrder.pinnedRefs userId
    | .archived => []
  let byId := projectsById projects
  let (teamById, independents) := aggregateTeams convs teams
  let withTeams : GroupBuilder := teams.foldl (fun builder team =>
    match teamById[team.id]? with
    | none => builder
    | some agg =>
      builder.push paths byId (classifyUnit paths projects team.projectId team.workspace) agg.updatedAt
        (pinnedSet.contains ⟨.team, team.id⟩) (.team team.id agg.updatedAt)) []
  let withConvs := independents.foldl (fun builder conv =>
    builder.push paths byId (classifyUnit paths projects conv.projectId conv.workspace) conv.updatedAt
      (pinnedSet.contains ⟨.conversation, conv.id⟩) (.conv conv.id conv.updatedAt)) withTeams
  let builder : GroupBuilder := match scope with
    | .active => (projects.filter fun (project : SidebarProjectMeta) =>
        project.kind = kindStandard).foldl
        (GroupBuilder.ensureStandardSpine paths) withConvs
    | .archived => withConvs
  let (projectArea, chats, hasMoreGroups) := builder.finish
  { projectArea, chats, hasMoreGroups, teamById }

/-- Window the pinned rows after a cursor. The row of a member of a team is not shown. -/
def pagePinned (after : Option (Int × OrderItemRef)) (limit : Limit)
    (teamById : Table String TeamAgg) : SidebarItemsResponse :=
  let rows := s.db.userOrder.listPinned userId after (limit + 1)
  let hasMore := limit.val < rows.length
  let window := rows.take limit
  let memberIds := (Table.values teamById).flatMap (·.memberIds)
  let convIds := (window.filter fun row =>
    row.item.itemType = .conversation && ¬ memberIds.contains row.item.itemId).map (·.item.itemId)
  let hydrated := s.hydrate userId convIds .active
  { items := window.filterMap fun row => match row.item.itemType with
      | .conversation => hydrated[row.item.itemId]?.map fun conv =>
          .conversation row.item.itemId conv true
      | .team => teamById[row.item.itemId]?.map fun agg => teamItem agg true
    hasMore
    nextCursor :=
      if hasMore then window.getLast?.map fun row =>
        (Cursor.pinned row.orderKey row.item.itemType.asStr row.item.itemId).encode paths .pinned
      else none }

/-- Window the items of a group after a cursor. -/
def pageNatural (group : NaturalGroup) (teamById : Table String TeamAgg)
    (cursor : Option Cursor) (limit : Limit) (scope : ArchiveScope) : SidebarItemsResponse :=
  let after := group.items.filter fun item => item.isAfter cursor
  let window := after.take limit
  let hasMore := limit.val < after.length
  { items := assembleItems window (s.hydrate userId (convIds window) scope) teamById false
    hasMore
    nextCursor := if hasMore then window.getLast?.map fun item =>
      item.activityCursor.encode paths group.token
      else none }

def firstScreen (limit : Option Limit) (win : List (String × Limit))
    (scope : ArchiveScope) : SidebarResponse :=
  let windowOf := fun tokenStr => ((win.lookup tokenStr).getD (limit.getD defaultLimit) : Limit)
  let snapshot := s.classify paths userId scope
  let pinned := match scope with
    | .active =>
      let page := s.pagePinned paths userId none (windowOf "pinned") snapshot.teamById
      if page.items.isEmpty then []
      else
        [{ scope := .pinned, items := page.items, hasMore := page.hasMore
           nextCursor := page.nextCursor }]
    | .archived => []
  let natural := snapshot.projectArea ++ [snapshot.chats]
  let hydrated := s.hydrate userId
    (natural.flatMap fun group => convIds (group.items.take (windowOf group.tokenStr))) scope
  { groups := pinned ++ natural.map fun group =>
      let window := group.items.take (windowOf group.tokenStr)
      let hasMore := (windowOf group.tokenStr).val < group.items.length
      { scope := group.token
        items := assembleItems window hydrated snapshot.teamById false
        hasMore
        nextCursor := if hasMore then window.getLast?.map fun item =>
          item.activityCursor.encode paths group.token
          else none }
    hasMoreGroups := snapshot.hasMoreGroups }

def items (token : ScopeToken) (cursor : Option CursorPayload)
    (limit : Option Int) (archive : ArchiveScope) : Except SidebarError SidebarItemsResponse := do
  let limit ← validateLimit (limit.getD defaultItemsLimit)
  match token with
  | .pinned =>
    if archive ≠ .active then
      throw .scopeGone
    let after ← cursor.mapM fun raw => do toPinnedCursor (← Cursor.decode paths raw .pinned)
    return s.pagePinned paths userId after limit (s.loadTeamAggregates userId .active)
  | token =>
    let snapshot := s.classify paths userId archive
    let group ← match token with
      | .chats => pure snapshot.chats
      | _ => match snapshot.projectArea.find? fun group => group.token = token with
        | none => throw .scopeGone
        | some group => pure group
    let cursor ← cursor.mapM fun raw => Cursor.decode paths raw token
    return s.pageNatural paths userId group snapshot.teamById cursor limit archive

end SidebarService

end KiCore.Sidebar

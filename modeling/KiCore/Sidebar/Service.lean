import KiCore.Sidebar.Store

/-!
# Sidebar service

Port of the write side of `service.rs`: pins, the archive of single units and that of a project,
which goes through the units that its group shows. A unit is a team, or a conversation that belongs
to no team of its slice.

What the paths of workspaces are taken for is a parameter (`Paths`), as the `url` crate and the file
names behind it are. The teardown ports may not be wired; the units that they are told to stop are
collected in `stopped`.
-/

namespace KiCore.Sidebar

open KiCore.Lib

inductive SidebarError where
  | badRequest (message : String)
  | scopeGone
  | internal (message : String)
  deriving DecidableEq

/-- What `is_temp_session_workspace` and `canonicalize` make of a path, and the key of a directory.
-/
structure Paths where
  isTempSessionWorkspace : String → Bool
  canonical : String → Option String
  canonicalToDirKey : String → String

inductive GroupKey where
  | project (projectId : String)
  | dir (canonical : String)
  | chats
  deriving DecidableEq

structure TeamAgg where
  teamId : String
  name : String
  updatedAt : Int
  memberIds : List String

def kindStandard : String := "standard"

def projectsById (projects : List SidebarProjectMeta) : Table String SidebarProjectMeta :=
  projects.foldl (fun byId project => byId.insert project.projectId project) ∅

/-- The standard projects of a user, by the canonical paths of their workspaces. -/
def standardByCanonical (projects : List SidebarProjectMeta) : Table String String :=
  projects.foldl (fun canonicals project =>
    if project.kind = kindStandard then
      match project.workspaceCanonical with
      | some canonical => canonicals.insert canonical project.projectId
      | none => canonicals
    else canonicals) ∅

/-- The group of a unit, by its project, and by its path if it has no project that is known. -/
def classifyUnit (paths : Paths) (projects : List SidebarProjectMeta)
    (projectId workspace : Option String) : GroupKey :=
  match projectId.bind fun pid => (projectsById projects)[pid]? with
  | some project => if project.kind = kindStandard then .project project.projectId else .chats
  | none =>
    match workspace.filter (· ≠ "") with
    | none => .chats
    | some ws =>
      if paths.isTempSessionWorkspace ws then .chats
      else
        match paths.canonical ws with
        | none => .chats
        | some canon =>
          match (standardByCanonical projects)[canon]? with
          | some pid => .project pid
          | none => .dir canon

variable (convs : List SidebarConversationThin)

def membersOf (teamId : String) : List SidebarConversationThin :=
  convs.filter fun conv => conv.teamId = some teamId

def teamAgg (team : SidebarTeamThin) : TeamAgg where
  teamId := team.id
  name := team.name
  updatedAt := (((membersOf convs team.id).map (·.updatedAt)).max?).getD team.updatedAt
  memberIds := ((membersOf convs team.id).mergeSort fun a b =>
    a.createdAt < b.createdAt || (a.createdAt = b.createdAt && ¬ b.id < a.id)).map (·.id)

/-- The teams by their identifiers, and the conversations that belong to none of them. -/
def aggregateTeams (teams : List SidebarTeamThin) :
    Table String TeamAgg × List SidebarConversationThin :=
  (teams.foldl (fun byId team => byId.insert team.id (teamAgg convs team)) ∅,
    convs.filter fun conv => ¬ conv.teamId.any fun teamId => teams.any fun team => team.id = teamId)

/-- A sidebar over its tables: whether the teardown ports are wired, and what they were told to
stop, for whom. -/
structure SidebarService where
  db : Db
  teardownPorts : Bool
  stopped : List (String × OrderItemRef)

namespace SidebarService

variable (paths : Paths)

def pin (sidebar : SidebarService) (userId scene itemType itemId : String) :
    Except SidebarError Unit × SidebarService :=
  match OrderScene.parse scene with
  | none => (.error (.badRequest ("unknown scene: " ++ scene)), sidebar)
  | some .pinned =>
    match OrderItemType.parse itemType with
    | none => (.error (.badRequest ("unknown item type: " ++ itemType)), sidebar)
    | some itemType =>
      (.ok (), { sidebar with
        db.userOrder := (sidebar.db.userOrder.pin userId { itemType, itemId }).2 })

def unpin (sidebar : SidebarService) (userId scene itemType itemId : String) :
    Except SidebarError Unit × SidebarService :=
  match OrderScene.parse scene with
  | none => (.error (.badRequest ("unknown scene: " ++ scene)), sidebar)
  | some .pinned =>
    match OrderItemType.parse itemType with
    | none => (.error (.badRequest ("unknown item type: " ++ itemType)), sidebar)
    | some itemType =>
      (.ok (), { sidebar with
        db.userOrder := (sidebar.db.userOrder.unpin userId { itemType, itemId }).2 })

def parseItemRef (ref : String × String) : Except SidebarError OrderItemRef :=
  match OrderItemType.parse ref.1 with
  | none => .error (.badRequest ("unknown item type: " ++ ref.1))
  | some itemType => .ok { itemType, itemId := ref.2 }

def parseMove (scene : String) (moved : String × String) (after : Option (String × String)) :
    Except SidebarError (OrderItemRef × Option OrderItemRef) :=
  match OrderScene.parse scene with
  | none => .error (.badRequest ("unknown scene: " ++ scene))
  | some .pinned =>
    match parseItemRef moved, after.map parseItemRef with
    | .error e, _ => .error e
    | .ok _, some (.error e) => .error e
    | .ok moved, none => .ok (moved, none)
    | .ok moved, some (.ok after) =>
      if after = moved then .error (.badRequest "moved and after refer to the same item")
      else .ok (moved, some after)

variable (sidebar : SidebarService)

def moveOrder (userId scene : String) (moved : String × String)
    (after : Option (String × String)) : Except SidebarError Unit × SidebarService :=
  match parseMove scene moved after with
  | .error e => (.error e, sidebar)
  | .ok (moved, after) =>
    let (outcome, userOrder) := sidebar.db.userOrder.moveItem userId moved after
    let sidebar := { sidebar with db.userOrder := userOrder }
    match outcome with
    | .ok .moved => (.ok (), sidebar)
    | .ok .movedNotFound => (.error .scopeGone, sidebar)
    | .ok .afterNotFound => (.error (.badRequest "after anchor is not pinned"), sidebar)
    | .error e => (.error (.internal e), sidebar)

variable (userId : String)

def unpinItem (item : OrderItemRef) : SidebarService :=
  { sidebar with db.userOrder := (sidebar.db.userOrder.unpin userId item).2 }

/-- Tell the teardown ports to stop a unit, if they are wired. -/
def stopBestEffort (item : OrderItemRef) : SidebarService :=
  if sidebar.teardownPorts then
    { sidebar with stopped := sidebar.stopped ++ [(userId, item)] } else sidebar

def setArchived (item : OrderItemRef) (at_ : Option Int) : Bool × SidebarService :=
  let (found, db) := match item.itemType with
    | .conversation => sidebar.db.setConversationArchived userId item.itemId at_
    | .team => sidebar.db.setTeamArchived userId item.itemId at_
  (found, { sidebar with db })

def archiveUnit (item : OrderItemRef) (now : Int) : Except SidebarError Unit × SidebarService :=
  match sidebar.setArchived userId item (some now) with
  | (false, sidebar) => (.error .scopeGone, sidebar)
  | (true, sidebar) => (.ok (), (sidebar.stopBestEffort userId item).unpinItem userId item)

def archiveConversation (userId id : String) (now : Int) :=
  sidebar.archiveUnit userId { itemType := .conversation, itemId := id } now

def archiveTeam (userId id : String) (now : Int) :=
  sidebar.archiveUnit userId { itemType := .team, itemId := id } now

def unarchiveUnit (item : OrderItemRef) : Except SidebarError Unit × SidebarService :=
  match sidebar.setArchived userId item none with
  | (false, sidebar) => (.error .scopeGone, sidebar)
  | (true, sidebar) => (.ok (), sidebar)

def unarchiveConversation (userId id : String) :=
  sidebar.unarchiveUnit userId { itemType := .conversation, itemId := id }

def unarchiveTeam (userId id : String) :=
  sidebar.unarchiveUnit userId { itemType := .team, itemId := id }

/-- The units of a slice that a standard project shows: its teams, and then its conversations. -/
def collectProjectUnits (userId projectId : String) (scope : ArchiveScope) :
    Except SidebarError (List OrderItemRef) :=
  let convs := sidebar.db.listConversationsThin userId scope
  let teams := sidebar.db.listTeamsThin userId scope
  let projects := sidebar.db.listUserProjects userId
  if ((projectsById projects)[projectId]?).any fun project => project.kind = kindStandard then
    let (teamById, independents) := aggregateTeams convs teams
    .ok (((teams.filter fun team => teamById.contains team.id &&
        classifyUnit paths projects team.projectId team.workspace = .project projectId).map
          fun team => { itemType := .team, itemId := team.id }) ++
      (independents.filter fun conv =>
        classifyUnit paths projects conv.projectId conv.workspace = .project projectId).map
          fun conv => { itemType := .conversation, itemId := conv.id })
  else .error .scopeGone

/-- What the archive of a project does to one unit: the unit is not stopped. -/
def archiveMember (now : Int) (sidebar : SidebarService) (item : OrderItemRef) : SidebarService :=
  match sidebar.setArchived userId item (some now) with
  | (true, sidebar) => sidebar.unpinItem userId item
  | (false, sidebar) => sidebar

def archiveProject (userId projectId : String) (now : Int) :
    Except SidebarError Unit × SidebarService :=
  match sidebar.collectProjectUnits paths userId projectId .active with
  | .error e => (.error e, sidebar)
  | .ok units => (.ok (), units.foldl (archiveMember userId now) sidebar)

def unarchiveProject (userId projectId : String) : Except SidebarError Unit × SidebarService :=
  match sidebar.collectProjectUnits paths userId projectId .archived with
  | .error e => (.error e, sidebar)
  | .ok units => (.ok (), units.foldl
      (fun sidebar item => (sidebar.setArchived userId item none).2) sidebar)

end SidebarService

end KiCore.Sidebar

import KiCore.Project.Roots.Store
import KiCore.Lib.Transition

/-!
# Calls on explorer entries

Port of `resolve_core`, `attach_folder`, `remove_attached`, `reorder` and `delete_project` (`service.rs`).
Calls run side by side; each of their queries is a step, and any of them may fail. Left out are the rows of
folders that a call writes before it looks at the entries, the directories that `create_temp` makes, and the
notifications of changed roots.
-/

namespace KiCore.Project.Roots

/-- The answer to a `stat` of a folder. -/
inductive Access where
  | directory
  | notDirectory
  | permissionDenied
  | absent
  deriving DecidableEq

def ensureAccessible (path : FolderPath) : Access → Except ProjectError Unit
  | .directory => .ok ()
  | .notDirectory => .error (.folderNotDirectory path)
  | .permissionDenied => .error (.folderPermissionDenied path)
  | .absent => .error (.folderNotFound path)

inductive Stage where
  -- `resolve_core`
  | selecting (userId : String) (folder : FolderPath)
  | selected (userId : String) (entry : ProjectExplorerRow)
  | creating (userId : String) (folder : FolderPath) (kind : ProjectKind)
  | created (userId : String) (projectId peId : Nat)
  | confirmed (userId : String) (peId : Nat)
  | conflicted (userId : String) (folder : FolderPath)
  | conflicting (userId : String) (entry : ProjectExplorerRow)
  -- `attach_folder`
  | attaching (userId : String) (projectId : Nat) (uri : Uri) (access : Access)
  | gated (userId : String) (projectId : Nat) (folder : FolderPath)
  /-- with the entries that have been listed -/
  | checked (userId : String) (projectId : Nat) (folder : FolderPath) (listed : List ProjectExplorerRow)
  | inserted (userId : String) (peId : Nat)
  | removing (userId : String) (peId : Nat)
  | removable (userId : String) (peId : Nat)
  | reordering (userId : String) (projectId : Nat) (orderedPeIds : List Nat)
  | deleting (userId : String) (projectId : Nat)
  | resolved (entry : ProjectExplorerRow)
  /-- the entry that contains the folder -/
  | focused (folder : FolderPath) (entry : ProjectExplorerRow)
  | attached (entry : ProjectExplorerRow)
  | finished
  | failed (error : ProjectError)
  deriving DecidableEq

def Stage.ended : Stage → Bool
  | .resolved _ | .focused _ _ | .attached _ | .finished | .failed _ => true
  | _ => false

inductive ProjectEvent where
  | createStandard (userId : String) (uri : Uri) (access : Access)
  /-- with the directory that has been made -/
  | createTemp (userId : String) (uri : Uri)
  | resolveExisting (userId : String) (uri : Uri) (access : Access)
  | attachFolder (userId : String) (projectId : Nat) (uri : Uri) (access : Access)
  | removeAttached (userId : String) (peId : Nat)
  | reorder (userId : String) (projectId : Nat) (orderedPeIds : List Nat)
  | deleteProject (userId : String) (projectId : Nat)
  /-- the next query of a call is answered, or fails -/
  | advance (n : Nat) (answered : Bool)
  deriving DecidableEq

structure ProjectService where
  ignorePathCasing : Bool
  tempRoot : Uri
  store : ProjectStore
  calls : List Stage

namespace ProjectService

def start (ignorePathCasing : Bool) (tempRoot : Uri) : ProjectService :=
  { ignorePathCasing, tempRoot, store := { users := [], projects := [], entries := [], nextPeId := 0 },
    calls := [] }

variable (s : ProjectService)

def isUnderTempRoot (folder : FolderPath) : Bool :=
  match canonicalize s.ignorePathCasing s.tempRoot with
  | .ok root => root <+: folder
  | .error _ => false

variable (userId : String)

def resolveCore (folder : FolderPath) : ProjectKind → Stage
  | .standard => .selecting userId folder
  | .temp => .creating userId folder .temp

def begin (stage : Except ProjectError Stage) : ProjectService :=
  { s with
    calls := s.calls ++ [match stage with
      | .ok stage => stage
      | .error error => .failed error] }

def createStandard (uri : Uri) (access : Access) : Except ProjectError Stage := do
  let folder ← canonicalize s.ignorePathCasing uri
  ensureAccessible folder access
  return resolveCore userId folder .standard

def createTemp (uri : Uri) : Except ProjectError Stage := do
  let folder ← canonicalize s.ignorePathCasing uri
  return resolveCore userId folder .temp

def resolveExisting (uri : Uri) (access : Access) :
    Except ProjectError Stage := do
  let folder ← canonicalize s.ignorePathCasing uri
  ensureAccessible folder access
  return resolveCore userId folder (if s.isUnderTempRoot folder then .temp else .standard)

def goTo (n : Nat) (stage : Stage) : ProjectService :=
  { s with calls := s.calls.set n stage }

def fail (n : Nat) (error : ProjectError) : ProjectService :=
  s.goTo n (.failed error)

def checkOverlap (ignorePathCasing : Bool) (userId : String) (projectId : Nat) (folder : FolderPath)
    (listed : List ProjectExplorerRow) : List ProjectExplorerRow → Stage
  | [] => .checked userId projectId folder listed
  | entry :: entries =>
    match canonicalize ignorePathCasing (toUri entry.folder) with
    | .error error => .failed error
    | .ok existing =>
      if existing <+: folder then .focused folder entry
      else if folder <+: existing then .failed (.projectExplorerOverlap projectId)
      else checkOverlap ignorePathCasing userId projectId folder listed entries

def attachStage (projectId : Nat) (folder : FolderPath) : Stage :=
  let listed := s.store.listEntries userId projectId
  if listed.any fun entry => entry.folder = folder then .failed (.projectExplorerDuplicate projectId folder)
  else checkOverlap s.ignorePathCasing userId projectId folder listed listed

def query (n : Nat) : Stage → ProjectService
  | .selecting userId folder =>
    match s.store.selectWorkspaceEntryByFolder userId folder with
    | some entry => s.goTo n (.selected userId entry)
    | none => s.goTo n (.creating userId folder .standard)
  | .selected userId entry =>
    match s.store.getProject userId entry.projectId with
    | some _ => s.goTo n (.resolved entry)
    | none => s.fail n (.standardProjectConflict entry.folder)
  | .creating userId folder kind =>
    match s.store.createProjectWithWorkspaceEntry userId folder kind with
    | some store =>
      { s with store, calls := s.calls.set n (.created userId s.store.users.length s.store.nextPeId) }
    | none => s.goTo n (.conflicted userId folder)
  | .created userId projectId peId =>
    match s.store.getProject userId projectId with
    | some _ => s.goTo n (.confirmed userId peId)
    | none => s.fail n (.database (.notFound s!"project {projectId} after insert"))
  | .confirmed userId peId =>
    match s.store.getEntry userId peId with
    | some entry => s.goTo n (.resolved entry)
    | none => s.fail n (.database (.notFound s!"project_explorer {peId} after insert"))
  | .conflicted userId folder =>
    match s.store.selectWorkspaceEntryByFolder userId folder with
    | some entry => s.goTo n (.conflicting userId entry)
    | none => s.fail n (.database (.conflict s!"workspace entry for folder {folder}"))
  | .conflicting userId entry =>
    match s.store.getProject userId entry.projectId with
    | some _ => s.goTo n (.resolved entry)
    | none => s.fail n (.database (.notFound s!"project {entry.projectId}"))
  | .attaching userId projectId uri access =>
    match s.store.getProject userId projectId with
    | none => s.fail n (.projectNotFound projectId)
    | some _ =>
      match canonicalize s.ignorePathCasing uri with
      | .error error => s.fail n error
      | .ok folder =>
        match ensureAccessible folder access with
        | .error error => s.fail n error
        | .ok _ => s.goTo n (.gated userId projectId folder)
  | .gated userId projectId folder => s.goTo n (s.attachStage userId projectId folder)
  | .checked userId projectId folder listed =>
    match s.store.insertAttachedEntry userId projectId folder listed.length with
    | some store => { s with store, calls := s.calls.set n (.inserted userId s.store.nextPeId) }
    | none => s.fail n (.database .uniqueViolation)
  | .inserted userId peId =>
    match s.store.getEntry userId peId with
    | some entry => s.goTo n (.attached entry)
    | none => s.fail n (.database (.notFound s!"project_explorer {peId} after insert"))
  | .removing userId peId =>
    match s.store.getEntry userId peId with
    | none => s.fail n (.projectExplorerNotFound peId)
    | some entry =>
      if entry.role = .workspace then s.fail n (.workspaceEntryImmutable peId)
      else s.goTo n (.removable userId peId)
  | .removable userId peId =>
    { s with store := s.store.removeEntry userId peId, calls := s.calls.set n .finished }
  | .reordering userId projectId orderedPeIds =>
    { s with store := s.store.reorder userId projectId orderedPeIds, calls := s.calls.set n .finished }
  | .deleting userId projectId =>
    { s with store := s.store.deleteProject userId projectId, calls := s.calls.set n .finished }
  | _ => s

def advance (n : Nat) (answered : Bool) : ProjectService :=
  match s.calls[n]? with
  | none => s
  | some stage =>
    if stage.ended then s
    else if answered then s.query n stage
    else s.fail n (.database .query)

def next : ProjectEvent → ProjectService
  | .createStandard userId uri access => s.begin (s.createStandard userId uri access)
  | .createTemp userId uri => s.begin (s.createTemp userId uri)
  | .resolveExisting userId uri access => s.begin (s.resolveExisting userId uri access)
  | .attachFolder userId projectId uri access => s.begin (.ok (.attaching userId projectId uri access))
  | .removeAttached userId peId => s.begin (.ok (.removing userId peId))
  | .reorder userId projectId orderedPeIds => s.begin (.ok (.reordering userId projectId orderedPeIds))
  | .deleteProject userId projectId => s.begin (.ok (.deleting userId projectId))
  | .advance n answered => s.advance n answered

end ProjectService

end KiCore.Project.Roots

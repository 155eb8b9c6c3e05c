import Mathlib
import Mathlib.Data.List.Sort

/-!
# The tables of projects and explorer entries

Port of the statements of `sqlite_project.rs`. Folders are global rows that are never removed, one for each
canonical path, so that an entry names the path of its folder. Entries are kept as they were inserted. Left
out are names, display names and times.

Port of `canonical.rs`. A path is the list of its components below the root. The canonical URI of a folder
is identified with the path that it encodes; that the `url` crate parses what it has written is left out,
and so are the prefixes of paths on Windows.
-/

namespace KiCore.Project.Roots

abbrev FolderPath : Type := List String

inductive Component where
  | curDir
  | parentDir
  | normal (name : String)
  deriving DecidableEq

inductive Uri where
  | malformed (uri : String)
  | other (scheme : String)
  | file (path : List Component)
  deriving DecidableEq

inductive DbError where
  | query
  | uniqueViolation
  | notFound (message : String)
  | conflict (message : String)
  deriving DecidableEq

/-- The errors of the calls on explorer entries; a folder is named by its path. -/
inductive ProjectError where
  | folderNotFound (path : FolderPath)
  | folderNotDirectory (path : FolderPath)
  | folderPermissionDenied (path : FolderPath)
  | folderCanonicalizeFailed (uri : String)
  | standardProjectConflict (folder : FolderPath)
  | projectExplorerDuplicate (projectId : Nat) (folder : FolderPath)
  | projectExplorerOverlap (projectId : Nat)
  | projectNotFound (projectId : Nat)
  | projectExplorerNotFound (peId : Nat)
  | workspaceEntryImmutable (peId : Nat)
  | unsupportedResourceScheme (scheme : String)
  | database (error : DbError)
  deriving DecidableEq

/-- `..` above the root is dropped. -/
def normalizeLexical (path : List Component) : FolderPath :=
  path.foldl (fun out comp =>
    match comp with
    | .curDir => out
    | .parentDir => out.dropLast
    | .normal name => out ++ [name]) []

def toAsciiLowercase (name : String) : String := String.ofList (name.toList.map Char.toLower)

def foldCasing (ignorePathCasing : Bool) (path : FolderPath) : FolderPath :=
  if ignorePathCasing then path.map toAsciiLowercase else path

def canonicalize (ignorePathCasing : Bool) : Uri → Except ProjectError FolderPath
  | .malformed uri => .error (.folderCanonicalizeFailed uri)
  | .other scheme => .error (.unsupportedResourceScheme scheme)
  | .file path => .ok (foldCasing ignorePathCasing (normalizeLexical path))

def toUri (path : FolderPath) : Uri := .file (path.map .normal)

variable {ignorePathCasing : Bool} {path root file : FolderPath} {uri : Uri}

lemma normalizeLexical_normal : normalizeLexical (path.map .normal) = path := by
  suffices h : ∀ out : FolderPath, (path.map Component.normal).foldl (fun out comp =>
      match comp with
      | .curDir => out
      | .parentDir => out.dropLast
      | .normal name => out ++ [name]) out = out ++ path from h []
  intro out
  induction path generalizing out with
  | nil => simp
  | cons name path ih => rw [List.map_cons, List.foldl_cons, ih, List.append_assoc, List.singleton_append]

lemma toAsciiLowercase_idem (name : String) : toAsciiLowercase (toAsciiLowercase name) = toAsciiLowercase name := by
  simp [toAsciiLowercase, Function.comp_def]

@[simp] lemma foldCasing_idem : foldCasing ignorePathCasing (foldCasing ignorePathCasing path) =
    foldCasing ignorePathCasing path := by
  unfold foldCasing
  split_ifs
  · simp [toAsciiLowercase_idem]
  · rfl

lemma canonicalize_toUri (folded : foldCasing ignorePathCasing path = path) :
    canonicalize ignorePathCasing (toUri path) = .ok path := by
  rw [toUri, canonicalize, normalizeLexical_normal, folded]

lemma folded_canonicalize (ok : canonicalize ignorePathCasing uri = .ok path) :
    foldCasing ignorePathCasing path = path := by
  cases uri with
  | file parts =>
    cases ok
    exact foldCasing_idem
  | _ => cases ok

lemma foldCasing_below (below : root <+: file) :
    foldCasing ignorePathCasing root <+: foldCasing ignorePathCasing file := by
  unfold foldCasing
  split_ifs
  · exact below.map _
  · exact below

inductive ProjectKind where
  | standard
  | temp
  deriving DecidableEq

inductive Role where
  | workspace
  | attached
  deriving DecidableEq

structure ProjectRow where
  projectId : Nat
  userId : String
  kind : ProjectKind

structure ProjectExplorerRow where
  peId : Nat
  projectId : Nat
  ownerUserId : String
  /-- `resource_canonical` of its folder -/
  folder : FolderPath
  role : Role
  orderIndex : Nat
  deriving DecidableEq

structure ProjectStore where
  /-- the users of all projects that there have been; the id of a project is its place -/
  users : List String
  projects : List ProjectRow
  entries : List ProjectExplorerRow
  /-- entries are given ids in order -/
  nextPeId : Nat

namespace ProjectStore

variable (s : ProjectStore) (userId : String) (projectId : Nat)

def getProject : Option ProjectRow :=
  s.projects.find? fun project => project.projectId = projectId && project.userId = userId

def selectWorkspaceEntryByFolder (folder : FolderPath) : Option ProjectExplorerRow :=
  s.entries.find? fun entry => entry.folder = folder && entry.role = .workspace && entry.ownerUserId = userId

def getEntry (peId : Nat) : Option ProjectExplorerRow :=
  s.entries.find? fun entry => entry.peId = peId && entry.ownerUserId = userId

def entriesOf : List ProjectExplorerRow :=
  s.entries.filter fun entry => entry.projectId = projectId && entry.ownerUserId = userId

def listEntries : List ProjectExplorerRow :=
  (s.entriesOf userId projectId).insertionSort fun a b => a.orderIndex ≤ b.orderIndex

/-- The unique indexes of the table, but for those on ids. -/
def violates (entry : ProjectExplorerRow) : Bool :=
  s.entries.any fun other =>
    (other.projectId = entry.projectId && other.folder = entry.folder) ||
    (entry.role = .workspace && other.role = .workspace &&
      (other.projectId = entry.projectId ||
        (other.ownerUserId = entry.ownerUserId && other.folder = entry.folder)))

/-- The project and its workspace entry in one transaction, unless a key is taken. -/
def createProjectWithWorkspaceEntry (folder : FolderPath)
    (kind : ProjectKind) : Option ProjectStore :=
  let projectId := s.users.length
  let entry : ProjectExplorerRow :=
    { peId := s.nextPeId, projectId, ownerUserId := userId, folder, role := .workspace, orderIndex := 0 }
  if s.violates entry then none
  else some
    { users := s.users ++ [userId]
      projects := s.projects ++ [{ projectId, userId, kind }]
      entries := s.entries ++ [entry]
      nextPeId := s.nextPeId + 1 }

def insertAttachedEntry (folder : FolderPath) (orderIndex : Nat) : Option ProjectStore :=
  let entry : ProjectExplorerRow :=
    { peId := s.nextPeId, projectId, ownerUserId := userId, folder, role := .attached, orderIndex }
  if s.violates entry then none
  else some { s with entries := s.entries ++ [entry], nextPeId := s.nextPeId + 1 }

def removeEntry (peId : Nat) : ProjectStore :=
  { s with entries := s.entries.filter fun entry => ¬ (entry.peId = peId ∧ entry.ownerUserId = userId) }

def deleteProject : ProjectStore :=
  { s with
    entries := s.entries.filter fun entry => ¬ (entry.projectId = projectId ∧ entry.ownerUserId = userId)
    projects := s.projects.filter fun project => ¬ (project.projectId = projectId ∧ project.userId = userId) }

def setOrderIndex (position peId : Nat)
    (entries : List ProjectExplorerRow) : List ProjectExplorerRow :=
  entries.map fun entry =>
    if entry.peId = peId ∧ entry.projectId = projectId ∧ entry.ownerUserId = userId then
      { entry with orderIndex := position }
    else entry

def reorder (orderedPeIds : List Nat) : ProjectStore :=
  { s with
    entries := orderedPeIds.zipIdx.foldl
      (fun entries (peId, position) => setOrderIndex userId projectId position peId entries) s.entries }

/-- The entry whose root a file lies below, and where below it. -/
def findOwningEntry (realpath : FolderPath → Option FolderPath) (userId : String)
    (projectId : Nat) (target : FolderPath) : Except ProjectError (Option (Nat × FolderPath)) :=
  match s.getProject userId projectId with
  | none => .error (.projectNotFound projectId)
  | some _ =>
    .ok <| (s.listEntries userId projectId).findSome? fun entry =>
      (realpath entry.folder).bind fun root =>
        if root <+: target then some (entry.peId, target.drop root.length) else none

end ProjectStore

end KiCore.Project.Roots

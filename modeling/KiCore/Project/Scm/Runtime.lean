import KiCore.Lib.MultiMap
import KiCore.Lib.Transition

/-!
# Source control of projects

Port of `scm/runtime.rs` and of the loop of `scm/actor.rs`, with the folders of a project as
`service.rs` attaches and detaches them. The actor takes its events in order, one after the other;
the store may change between any two of its reads, and a change is told to the actor some time after
it was written.

What git finds under a path does not change, and is a parameter (`Disk`). Of a repository the
identifier is kept.
-/

namespace KiCore.Project.Scm

open KiCore.Lib

inductive Role where
  | workspace
  | attached
  deriving DecidableEq

/-- An entry of a project, with the path of its folder if that is a local one. -/
structure Entry where
  peId : String
  role : Role
  absolutePath : Option String
  deriving DecidableEq

structure ProjectRow where
  owner : String
  entries : List Entry
  unique : (entries.map Entry.peId).Nodup

structure ResolvedRoot where
  peId : String
  absolutePath : String
  discoverChildren : Bool
  deriving DecidableEq

/-- The repositories that are found at a path, or one level below it, by their relative paths. -/
abbrev Disk := String → Bool → Option (List String)

inductive ScmInbound where
  | listRepositories (session userId projectId : String)
  | disconnect (session : String)
  | rootsChanged (projectId userId : String)
  deriving DecidableEq

/-- What happens to a session, in its order: what it is sent, and that it is closed. -/
inductive Frame where
  | repositories (projectId : String) (found : Finset String)
  | repositoriesChanged (projectId : String) (added removed : Finset String)
  | failed
  | closed
  deriving DecidableEq

def repoIdFor (peId relativePath : String) : String :=
  if relativePath = "" then "scm:" ++ peId else "scm:" ++ peId ++ "/" ++ relativePath

/-- The repositories that the provider finds under a root. A root that cannot be read has none. -/
def discoverRoot (disk : Disk) (root : ResolvedRoot) : List String :=
  ((disk root.absolutePath root.discoverChildren).getD []).map (repoIdFor root.peId)

def reposUnder (disk : Disk) (roots : List ResolvedRoot) : Finset String :=
  (roots.flatMap (discoverRoot disk)).toFinset

structure ScmRuntime where
  provider : Finset String
  repos : Finset String
  projectRepos : Table String (Finset String)
  projectInterest : MultiMap String String

namespace ScmRuntime

def new : ScmRuntime where
  provider := ∅
  repos := ∅
  projectRepos := ∅
  projectInterest := ∅

variable (runtime : ScmRuntime)

/-- The repositories that a project was last resolved to. -/
def baseline (projectId : String) : Finset String :=
  (runtime.projectRepos[projectId]?).getD ∅

def discoverRoots (disk : Disk) (runtime : ScmRuntime) (roots : List ResolvedRoot) : ScmRuntime :=
  { runtime with
    provider := runtime.provider ∪ reposUnder disk roots
    repos := runtime.repos ∪ reposUnder disk roots }

/-- The list of a project's repositories replaces the last one. -/
def discover (disk : Disk) (runtime : ScmRuntime) (projectId : String) (roots : List ResolvedRoot) :
    Finset String × ScmRuntime :=
  let found := reposUnder disk roots
  let runtime := runtime.discoverRoots disk roots
  (found, { runtime with projectRepos := runtime.projectRepos.insert projectId found })

def releaseRepos (removed : Finset String) : ScmRuntime :=
  { runtime with
    repos := runtime.repos \ removed
    provider := runtime.provider \ removed }

/-- What was added to the last list of a project's repositories, and what was removed from it and is
released. -/
def recomputeProject (disk : Disk) (runtime : ScmRuntime) (projectId : String)
    (roots : List ResolvedRoot) : (Finset String × Finset String) × ScmRuntime :=
  let runtime := runtime.discoverRoots disk roots
  let now := reposUnder disk roots
  let previous := runtime.baseline projectId
  let removed := previous \ now
  let runtime := { runtime with projectRepos := runtime.projectRepos.insert projectId now }
  ((now \ previous, removed), runtime.releaseRepos removed)

def registerInterest (session projectId : String) : ScmRuntime :=
  { runtime with projectInterest := runtime.projectInterest.link projectId session }

def projectSubscribersOf (projectId : String) : List String :=
  runtime.projectInterest.image projectId

def dropSession (session : String) : ScmRuntime :=
  { runtime with projectInterest := runtime.projectInterest.discard session }

end ScmRuntime

/-- Why the actor reads the roots of a project. -/
inductive Purpose where
  | list (session : String)
  | rootsChanged
  deriving DecidableEq

/-- What the actor is doing: it resolves one entry after the other. -/
inductive Task where
  | idle
  | roots (purpose : Purpose) (projectId : String) (todo : List Entry) (resolved : List ResolvedRoot)
  deriving DecidableEq

/-- The store, the changes that are not told yet, the actor with its events, and what the sessions
were sent. -/
structure ScmActor where
  projects : Table String ProjectRow
  untold : List (String × String)
  inbound : List ScmInbound
  task : Task
  runtime : ScmRuntime
  pushed : List (String × Frame)

namespace ScmActor

variable (s : ScmActor)

def push (session : String) (frame : Frame) : ScmActor :=
  { s with pushed := s.pushed ++ [(session, frame)] }

def getProject (userId projectId : String) : Option (List Entry) :=
  (s.projects[projectId]?.filter fun row => row.owner = userId).map (·.entries)

/-- The root of an entry, if the entry is still there and has a local path. -/
def resolveReference (projectId : String) (entry : Entry) : Option ResolvedRoot :=
  (s.projects[projectId]?.bind fun row =>
    row.entries.find? fun there => there.peId = entry.peId).bind fun there =>
    there.absolutePath.map fun absolutePath =>
      { peId := entry.peId, absolutePath, discoverChildren := entry.role = .workspace }

def onInbound : ScmInbound → ScmActor
  | .listRepositories session userId projectId =>
    let s := { s with runtime := s.runtime.registerInterest session projectId }
    match s.getProject userId projectId with
    | none => s.push session .failed
    | some entries => { s with task := .roots (.list session) projectId entries [] }
  | .disconnect session => { s with runtime := s.runtime.dropSession session }.push session .closed
  | .rootsChanged projectId userId =>
    match s.getProject userId projectId with
    | none => s
    | some entries => { s with task := .roots .rootsChanged projectId entries [] }

variable (disk : Disk)

def listed (s : ScmActor) (session projectId : String) (roots : List ResolvedRoot) : ScmActor :=
  let (found, runtime) := s.runtime.discover disk projectId roots
  { s with runtime, task := .idle }.push session (.repositories projectId found)

/-- The roots after a change are resolved. -/
def recomputed (s : ScmActor) (projectId : String) (roots : List ResolvedRoot) : ScmActor :=
  let ((added, removed), runtime) := s.runtime.recomputeProject disk projectId roots
  let s := { s with runtime, task := .idle }
  if added = ∅ ∧ removed = ∅ then s
  else (s.runtime.projectSubscribersOf projectId).foldl
    (fun s session => s.push session (.repositoriesChanged projectId added removed)) s

/-- The actor goes on to its next read or its next event. -/
def turn (s : ScmActor) : ScmActor :=
  match s.task with
  | .idle =>
    match s.inbound with
    | [] => s
    | event :: inbound => { s with inbound }.onInbound event
  | .roots purpose projectId (entry :: todo) resolved =>
    { s with
      task := .roots purpose projectId todo
        (resolved ++ (s.resolveReference projectId entry).toList) }
  | .roots (.list session) projectId [] resolved => s.listed disk session projectId resolved
  | .roots .rootsChanged projectId [] resolved => s.recomputed disk projectId resolved

def attachFolder (userId projectId peId : String) (absolutePath : Option String) : ScmActor :=
  match s.projects[projectId]? with
  | none => s
  | some row =>
    if new : row.owner = userId ∧ ∀ entry ∈ row.entries, entry.peId ≠ peId then
      { s with
        projects := s.projects.insert projectId
          { row with
            entries := row.entries ++ [{ peId, role := .attached, absolutePath }]
            unique := by
              rw [List.map_append, List.map_singleton, List.nodup_append]
              refine ⟨row.unique, List.nodup_singleton _, ?_⟩
              intro id mem other last same
              obtain ⟨entry, there, rfl⟩ := List.mem_map.mp mem
              rw [List.mem_singleton] at last
              exact new.2 entry there (same.trans last) }
        untold := s.untold ++ [(projectId, userId)] }
    else s

def removeAttached (userId projectId peId : String) : ScmActor :=
  match s.projects[projectId]? with
  | none => s
  | some row =>
    if row.owner = userId ∧ ∃ entry ∈ row.entries, entry.peId = peId ∧ entry.role ≠ .workspace then
      { s with
        projects := s.projects.insert projectId
          { row with
            entries := row.entries.filter fun entry => entry.peId ≠ peId
            unique := row.unique.sublist (List.filter_sublist.map _) }
        untold := s.untold ++ [(projectId, userId)] }
    else s

def notifyRootsChanged (i : Nat) : ScmActor :=
  match s.untold[i]? with
  | none => s
  | some (projectId, userId) =>
    { s with
      untold := s.untold.eraseIdx i
      inbound := s.inbound ++ [.rootsChanged projectId userId] }

inductive Event where
  | listRepositories (session userId projectId : String)
  | disconnect (session : String)
  | attachFolder (userId projectId peId : String) (absolutePath : Option String)
  | removeAttached (userId projectId peId : String)
  | notifyRootsChanged (i : Nat)
  | turn
  deriving DecidableEq

def next (s : ScmActor) : Event → ScmActor
  | .listRepositories session userId projectId =>
    { s with inbound := s.inbound ++ [.listRepositories session userId projectId] }
  | .disconnect session => { s with inbound := s.inbound ++ [.disconnect session] }
  | .attachFolder userId projectId peId absolutePath =>
      s.attachFolder userId projectId peId absolutePath
  | .removeAttached userId projectId peId => s.removeAttached userId projectId peId
  | .notifyRootsChanged i => s.notifyRootsChanged i
  | .turn => s.turn disk

/-- The projects of a store, before any session. -/
def start (projects : Table String ProjectRow) : ScmActor where
  projects
  untold := []
  inbound := []
  task := .idle
  runtime := .new
  pushed := []

end ScmActor

end KiCore.Project.Scm

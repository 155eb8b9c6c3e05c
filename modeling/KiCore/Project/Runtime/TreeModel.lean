import KiCore.Lib.Pairing
import KiCore.Lib.Table

/-!
# Tree model

Port of `tree_model.rs`: the directories that are mounted, each with its one-level listing and the
watch that keeps it live. `diff` reconciles an old listing with a fresh one; `mount`, `unmount` and
`apply` change the tree.

The file system is seen through the calls that one command makes (`FsCalls`), each of which may
fail, and the watcher through the watches that are armed. The functions of the `url` crate and of
paths are parameters of the runtime registry.
-/

namespace KiCore.Project

open KiCore.Lib

inductive FsError where
  | notFound (uri : String)
  | alreadyExists (uri : String)
  | permissionDenied (uri : String)
  | notADirectory (uri : String)
  | unsupportedScheme (scheme : String)
  | io (uri message : String)
  deriving DecidableEq

inductive Kind where
  | file
  | dir
  | symlink
  deriving DecidableEq

/-- What is known of a directory entry. The inode is 0 where the provider does not supply one. -/
structure EntryFact where
  kind : Kind
  inode : Nat
  symlinkTarget : Option String
  mtimeMs : Option Int
  deriving DecidableEq

/-- The entries of a directory by their names. -/
abbrev Listing : Type := Table String EntryFact

structure WatchHandle where
  canonical : String

structure Snapshot where
  canonical : String
  entries : List (String × EntryFact)

inductive Change where
  | added (name : String) (kind : Kind)
  | removed (name : String)
  | renamed (source target : String)
  | modified (name : String)
  deriving DecidableEq

structure DeltaBatch where
  canonical : String
  changes : List Change

/-- What to look at again: some children, or the whole level. -/
inductive Hint where
  | childNames (names : List String)
  | all
  deriving DecidableEq

/-- What the calls return that a command makes. `stat` is given how many were made before it. -/
structure FsCalls where
  watch : String → Except FsError Unit
  readDir : String → Except FsError (List (String × EntryFact))
  stat : Nat → String → Except FsError (Option EntryFact)

/-- The runtimes by their schemes, of which `file` is the only one a canonical can have. -/
structure FsRuntimeRegistry where
  file : Bool
  urlScheme : String → Option String
  uriToPath : String → Option String
  join : String → String → String
  toFileUri : String → Option String

def hiddenExact : List String :=
  [".git", ".ds_store", ".spotlight-v100", ".trashes", ".fseventsd", ".appledouble", ".apdisk",
    "thumbs.db",
    "ehthumbs.db", "desktop.ini", "$recycle.bin", ".directory"]

def hiddenPrefix : List String :=
  ["._", ".trash-"]

def shouldHide (name : String) : Bool :=
  let lower := name.map Char.toLower
  hiddenExact.contains lower || hiddenPrefix.any fun p => lower.startsWith p

/-- Both times are known, and they differ. -/
def isMtimeChange (old fresh : EntryFact) : Bool :=
  match old.mtimeMs, fresh.mtimeMs with
  | some a, some b => a ≠ b
  | _, _ => false

/-- The entries of `old` that are gone or of another kind. -/
def removed (old fresh : Listing) : List (String × EntryFact) :=
  old.toList.filter fun entry =>
    match fresh[entry.1]? with
    | none => true
    | some nf => nf.kind ≠ entry.2.kind

/-- The entries of `fresh` whose names have another kind in `old`, in the order of `old`. -/
def kindChanged (old fresh : Listing) : List (String × EntryFact) :=
  old.toList.filterMap fun entry =>
    match fresh[entry.1]? with
    | none => none
    | some nf => if nf.kind ≠ entry.2.kind then some (entry.1, nf) else none

/-- What is to be added, with the changes of kind before the new names. -/
def added (old fresh : Listing) : List (String × EntryFact) :=
  kindChanged old fresh ++ fresh.toList.filter fun entry => ¬ old.contains entry.1

def modified (old fresh : Listing) : List String :=
  (old.toList.filter fun entry =>
    match fresh[entry.1]? with
    | none => false
    | some nf => nf.kind = entry.2.kind && entry.2.kind =
        .file && isMtimeChange entry.2 nf).map Prod.fst

/-- An added entry that a removed one can have been renamed to. -/
def sameFile (rf af : String × EntryFact) : Bool :=
  rf.2.inode ≠ 0 && af.2.inode = rf.2.inode && af.2.kind = rf.2.kind

/-- The changes that lead from `old` to `fresh`: renames, additions, removals and modifications, in
this order. -/
def diff (old fresh : Listing) : List Change :=
  let (pairs, left) := pairUp sameFile (removed old fresh) (added old fresh)
  (pairs.filterMap fun pair => pair.2.map fun af => .renamed pair.1.1 af.1) ++
    (left.map fun af => .added af.1 af.2.kind) ++
    ((pairs.filter fun pair => pair.2.isNone).map fun pair => .removed pair.1.1) ++
    (modified old fresh).map .modified

structure Node where
  entries : Listing
  watch : WatchHandle

/-- The mounted directories, with the watches that are armed at the watcher. -/
structure TreeModel where
  nodes : Table String Node
  armed : Table String WatchHandle

namespace FsRuntimeRegistry

def runtimeFor (rts : FsRuntimeRegistry) (canonical : String) : Except FsError Unit :=
  if rts.urlScheme canonical = some "file" then
    if rts.file then .ok () else .error (.unsupportedScheme "file")
  else .error (.io canonical "cannot parse scheme")

def childUri (rts : FsRuntimeRegistry) (canonical name : String) : Except FsError String :=
  match rts.uriToPath canonical with
  | none => .error (.io canonical "invalid canonical")
  | some dir =>
    match rts.toFileUri (rts.join dir name) with
    | none => .error (.io canonical "cannot build child uri")
    | some uri => .ok uri

/-- Look at the children of some names again, over the listing so far. `n` calls were made before.
-/
def restat (rts : FsRuntimeRegistry) (fs : FsCalls) (canonical : String) (n : Nat) (listing : Listing) :
    List String → Except FsError Listing
  | [] => .ok listing
  | name :: names =>
    if shouldHide name then rts.restat fs canonical n listing names
    else
      match rts.childUri canonical name with
      | .error e => .error e
      | .ok uri =>
        match fs.stat n uri with
        | .error e => .error e
        | .ok (some fact) => rts.restat fs canonical (n + 1) (listing.insert name fact) names
        | .ok none => rts.restat fs canonical (n + 1) (listing.erase name) names

end FsRuntimeRegistry

/-- The listing of a directory that was read. -/
def collect (entries : List (String × EntryFact)) : Listing :=
  entries.foldl (fun listing entry => listing.insert entry.1 entry.2) ∅

/-- The fresh listing that a hint asks for. -/
def FsRuntimeRegistry.scan (rts : FsRuntimeRegistry) (fs : FsCalls) (canonical : String)
    (old : Listing) :
    Hint → Except FsError Listing
  | .all =>
    match fs.readDir canonical with
    | .error e => .error e
    | .ok entries => .ok (collect entries)
  | .childNames names => rts.restat fs canonical 0 old names

namespace TreeModel

def new : TreeModel :=
  { nodes := ∅, armed := ∅ }

def snapshot (tree : TreeModel) (canonical : String) : Option Snapshot :=
  (tree.nodes[canonical]?).map fun node => { canonical, entries := node.entries.toList }

variable (rts : FsRuntimeRegistry)

/-- Arm the watch, read the listing and store the node. -/
def mount (tree : TreeModel) (fs : FsCalls) (canonical : String) :
    Except FsError Snapshot × TreeModel :=
  match tree.snapshot canonical with
  | some snapshot => (.ok snapshot, tree)
  | none =>
    match rts.runtimeFor canonical with
    | .error e => (.error e, tree)
    | .ok () =>
      match fs.watch canonical with
      | .error e => (.error e, tree)
      | .ok () =>
        let watch : WatchHandle := { canonical }
        let tree := { tree with armed := tree.armed.insert canonical watch }
        match fs.readDir canonical with
        -- The watch that was armed above stays armed.
        | .error e => (.error e, tree)
        | .ok entries =>
          let node : Node := { entries := collect entries, watch }
          (.ok { canonical, entries := node.entries.toList },
            { tree with nodes := tree.nodes.insert canonical node })

def unmount (tree : TreeModel) (canonical : String) : TreeModel :=
  match tree.nodes[canonical]? with
  | none => tree
  | some node =>
    let tree := { tree with nodes := tree.nodes.erase canonical }
    match rts.runtimeFor canonical with
    | .error _ => tree
    | .ok () => { tree with armed := tree.armed.erase node.watch.canonical }

/-- Reconcile a node with a fresh look at the file system. -/
def apply (tree : TreeModel) (fs : FsCalls) (canonical : String) (hint : Hint) :
    Except FsError (Option DeltaBatch) × TreeModel :=
  match tree.nodes[canonical]? with
  | none => (.ok none, tree)
  | some node =>
    match rts.runtimeFor canonical with
    | .error e => (.error e, tree)
    | .ok () =>
      match rts.scan fs canonical node.entries hint with
      | .error e => (.error e, tree)
      | .ok fresh =>
        match diff node.entries fresh with
        | [] => (.ok none, tree)
        | changes =>
          (.ok (some { canonical, changes }),
            { tree with nodes := tree.nodes.insert canonical { node with entries := fresh } })

variable {rts : FsRuntimeRegistry} {tree : TreeModel} {fs : FsCalls} {canonical path : String}
  {hint : Hint}

def Mounts (rts : FsRuntimeRegistry) (fs : FsCalls) (canonical : String) : Prop :=
  rts.runtimeFor canonical = .ok () ∧ fs.watch canonical = .ok () ∧
    ∃ entries, fs.readDir canonical = .ok entries

lemma mount_cases (rts : FsRuntimeRegistry) (tree : TreeModel) (fs : FsCalls) (canonical : String) :
    (∃ node, tree.nodes[canonical]? = some node ∧
      tree.mount rts fs canonical = (.ok { canonical, entries := node.entries.toList }, tree)) ∨
    (tree.nodes[canonical]? = none ∧ rts.runtimeFor canonical = .ok () ∧ fs.watch canonical = .ok () ∧
      ∃ entries, fs.readDir canonical = .ok entries ∧
        tree.mount rts fs canonical = (.ok { canonical, entries := (collect entries).toList },
          { nodes := tree.nodes.insert canonical { entries := collect entries, watch := { canonical } }
            armed := tree.armed.insert canonical { canonical } })) ∨
    (tree.nodes[canonical]? = none ∧ ¬ Mounts rts fs canonical ∧
      ∃ e armed, tree.mount rts fs canonical = (.error e, { tree with armed })) := by
  unfold mount snapshot
  cases tree.nodes[canonical]? with
  | some node => exact .inl ⟨node, rfl, rfl⟩
  | none =>
    cases runtime : rts.runtimeFor canonical with
    | error e => exact .inr (.inr ⟨rfl, fun h => (by simp [Mounts, runtime] at h), e, tree.armed, rfl⟩)
    | ok =>
      cases watch : fs.watch canonical with
      | error e => exact .inr (.inr ⟨rfl, fun h => (by simp [Mounts, watch] at h), e, tree.armed, rfl⟩)
      | ok =>
        cases read : fs.readDir canonical with
        | error e => exact .inr (.inr ⟨rfl, fun h => (by simp [Mounts, read] at h), e, _, rfl⟩)
        | ok entries => exact .inr (.inl ⟨rfl, rfl, rfl, entries, rfl, rfl⟩)

lemma get_unmount : (tree.unmount rts canonical).nodes[path]? =
    if canonical = path then none else tree.nodes[path]? := by
  unfold unmount
  cases e : tree.nodes[canonical]? with
  | none =>
    split_ifs with h
    · subst h
      exact e
    · rfl
  | some node => cases rts.runtimeFor canonical with
    | error => exact Table.get_erase _ _ _
    | ok => exact Table.get_erase _ _ _

lemma get_unmountAll (paths : List String) : (paths.foldl (unmount rts) tree).nodes[path]? =
    if path ∈ paths then none else tree.nodes[path]? := by
  induction paths generalizing tree with
  | nil => rfl
  | cons canonical paths ih =>
    rw [List.foldl_cons, ih, get_unmount]
    simp only [List.mem_cons]
    grind

lemma apply_eq {node : Node} {fresh : Listing} (there : tree.nodes[canonical]? = some node)
    (runtime : rts.runtimeFor canonical = .ok ())
      (scan : rts.scan fs canonical node.entries hint = .ok fresh) :
    tree.apply rts fs canonical hint =
      if diff node.entries fresh = [] then (.ok none, tree)
      else (.ok (some { canonical, changes := diff node.entries fresh }),
        { tree with nodes := tree.nodes.insert canonical { node with entries := fresh } }) := by
  unfold apply
  rw [there, runtime]
  dsimp only
  rw [scan]
  dsimp only
  cases diff node.entries fresh with
  | nil => rfl
  | cons change changes => rfl

lemma apply_cases (rts : FsRuntimeRegistry) (tree : TreeModel) (fs : FsCalls) (canonical : String)
    (hint : Hint) :
    (∃ outcome, (∀ delta, outcome ≠ .ok (some delta)) ∧
      tree.apply rts fs canonical hint = (outcome, tree)) ∨
    ∃ node fresh, tree.nodes[canonical]? = some node ∧ rts.scan fs canonical node.entries hint =
      .ok fresh ∧
      diff node.entries fresh ≠ [] ∧ rts.runtimeFor canonical = .ok () ∧
      tree.apply rts fs canonical hint = (.ok (some { canonical, changes := diff node.entries fresh }),
        { tree with nodes := tree.nodes.insert canonical { node with entries := fresh } }) := by
  cases there : tree.nodes[canonical]? with
  | none => exact .inl ⟨.ok none, by simp, by rw [apply, there]⟩
  | some node =>
    cases runtime : rts.runtimeFor canonical with
    | error e => exact .inl ⟨.error e, by simp, by rw [apply, there, runtime]⟩
    | ok =>
      cases scan : rts.scan fs canonical node.entries hint with
      | error e =>
        refine .inl ⟨.error e, by simp, ?_⟩
        rw [apply, there, runtime]
        dsimp only
        rw [scan]
      | ok fresh =>
        have applied := apply_eq there runtime scan
        split_ifs at applied with same
        · exact .inl ⟨.ok none, by simp, applied⟩
        · exact .inr ⟨node, fresh, rfl, scan, same, rfl, applied⟩

end TreeModel

end KiCore.Project

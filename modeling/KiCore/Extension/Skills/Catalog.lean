import KiCore.Lib.Keyed
import KiCore.Lib.Text
import Mathlib.Data.List.Lex
import Mathlib.Data.String.Basic

/-!
# The skill catalogue

Port of the parts of `skill_service.rs` that list, resolve, import, delete and synchronise skills, of
the statements of `sqlite_skill.rs` behind them, and of `user_dir_name`. A directory is named by where
it lies: below the built-in corpus, in the storage of a user, or elsewhere below `user_skills_dir`. Left
out are ids, descriptions, times and the order of a list, import records, the limits on what is copied,
and the rows that scheduled jobs keep. Queries do not fail.
-/

namespace KiCore.Extension.Skills

open KiCore.Lib

def DEFAULT_USER_ID : String := "system_default_user"

def BUILTIN_AUTO_SKILLS_SUBDIR : String := "auto-inject"

inductive SkillPath where
  /-- below `builtin_skills_dir` -/
  | builtin (path : List String)
  /-- below `users` in `user_skills_dir`: the directory of a user, and of a skill in it -/
  | user (dir name : String)
  /-- elsewhere below `user_skills_dir` -/
  | legacy (path : List String)
  deriving DecidableEq

inductive SkillSource where
  | user
  | builtin
  | extension
  | cron
  deriving DecidableEq

structure SkillRow where
  /-- none if the row is global -/
  userId : Option String
  name : String
  path : SkillPath
  source : SkillSource
  enabled : Bool
  /-- `deleted_at` is set -/
  deleted : Bool

def SkillRow.key (row : SkillRow) : Option String × String := (row.userId, row.name)

def SkillRow.live (row : SkillRow) : Bool := !row.deleted && row.enabled

variable (userId : String)

/-- `user_id IS NULL OR user_id = ?` -/
def SkillRow.visibleTo (row : SkillRow) : Bool := row.userId.all (· = userId)

variable (rows : List SkillRow)

/-- `ORDER BY user_id IS NULL ASC LIMIT 1` -/
def ownFirst : Option SkillRow := (rows.find? (·.userId.isSome)).or rows.head?

def listForUser (userId : String) : List SkillRow :=
  rows.filter fun row => row.visibleTo userId && row.live

def findByNameForUser (userId name : String) : Option SkillRow :=
  ownFirst (rows.filter fun row => row.visibleTo userId && row.name = name && row.live)

def findByNameAnyForUser (userId name : String) : Option SkillRow :=
  ownFirst (rows.filter fun row => row.visibleTo userId && row.name = name)

/-- The row that is there is restored and replaced. -/
def upsert (rows : List SkillRow) (userId : Option String) (name : String) (path : SkillPath)
    (source : SkillSource) : List SkillRow :=
  Keyed.upsert SkillRow.key (fun _ row => row)
    { userId, name, path, source, enabled := true, deleted := false } rows

def deleteByNameForUser (userId name : String) : List SkillRow :=
  rows.map fun row =>
    if row.userId = some userId ∧ row.name = name ∧ row.deleted = false then
      { row with enabled := false, deleted := true }
    else row

structure Directory where
  path : List String
  /-- whether there is a `SKILL.md`, whether it parses, and the name in it, which may be empty -/
  manifest : Option (Option String)

structure ScannedSkill where
  name : String
  path : List String

def scannedSkill (base : String) (directory : Directory) : Option ScannedSkill :=
  directory.manifest.join.map fun name =>
    { name := if name = "" then directory.path.getLast?.getD base else name, path := directory.path }

/-- A directory with a manifest is not searched further. -/
def collectSkillDirs (root : List String) (directories : List Directory) : List Directory :=
  directories.filter fun directory => root <+: directory.path && directory.manifest.isSome &&
    directories.all fun other =>
      !(root <+: other.path && other.path <+: directory.path && other.path ≠ directory.path &&
        other.manifest.isSome)

/-- By name, and by path where names are equal. -/
def scanSkillDirs (base : String) (root : List String) (directories : List Directory) :
    List ScannedSkill :=
  ((collectSkillDirs root directories).filterMap (scannedSkill base)).insertionSort fun a b =>
    a.name < b.name ∨ a.name = b.name ∧ a.path ≤ b.path

def validFilename (name : String) : Bool :=
  !(name.toList.contains '/' || name.toList.contains '\\' || "..".toList <:+: name.toList || name.isEmpty)

/-- `Path::join` with a name: the name of the directory itself adds nothing. -/
def join (path : List String) (name : String) : List String := if name = "." then path else path ++ [name]

def isFilenameSafe (name : List Char) : Bool :=
  !(name = ['.'] || name = ['.', '.']) && name.all fun c => c.isAlphanum || c = '-' || c = '_'

def userDirName : Option String :=
  let trimmed := Text.trim Str.isWhitespace userId.toList
  if trimmed = [] then none
  else
    let name := if "user_".toList <+: trimmed then trimmed.drop 5 else trimmed
    if name ≠ [] && isFilenameSafe name then some (String.ofList name) else none

def userSkillRootForUser : String := (userDirName userId).getD userId

structure UserSkillDir where
  dir : String
  name : String
  content : String

def UserSkillDir.key (entry : UserSkillDir) : String × String := (entry.dir, entry.name)

structure SkillCatalog where
  /-- of `user_skills_dir` -/
  userSkillsDir : List String
  rows : List SkillRow
  /-- on disk below `builtin_skills_dir` -/
  builtinDirs : List Directory
  legacyDirs : List Directory
  userDirs : List UserSkillDir

inductive ImportOutcome where
  | copyFails
  /-- the old directory has been removed -/
  | renameFails
  | upsertFails
  | imported
  deriving DecidableEq

inductive SkillEvent where
  /-- the process is started with another corpus, which can be scanned or not -/
  | start (corpus : List Directory) (isLocal top auto : Bool)
  | sync (userId : String) (top auto : Bool)
  | importSkill (userId name content : String) (outcome : ImportOutcome)
  | delete (userId name : String)
  | materialize (userId : String) (names : List String)

structure ResolvedAgentSkill where
  name : String
  sourcePath : SkillPath
  deriving DecidableEq

namespace SkillCatalog

def fresh (userSkillsDir : List String) (legacyDirs : List Directory) : SkillCatalog :=
  { userSkillsDir, rows := [], builtinDirs := [], legacyDirs, userDirs := [] }

variable (s : SkillCatalog)

def isDir : SkillPath → Bool
  | .builtin path => s.builtinDirs.any (·.path = path)
  | .user dir name => (Keyed.lookup UserSkillDir.key (dir, name) s.userDirs).isSome
  | .legacy path => s.legacyDirs.any (·.path = path)

def builtinSkillExists (name : String) : Bool :=
  s.isDir (.builtin (join [] name)) || s.isDir (.builtin (join [BUILTIN_AUTO_SKILLS_SUBDIR] name))

def dedupeUserVisibleSkillRows (rows : List SkillRow) : List SkillRow :=
  rows.foldl (fun merged row =>
    Keyed.upsert SkillRow.name (fun existing row =>
      if existing.userId.isNone && row.userId.isSome then row else existing) row merged) []

def listSkills (userId : String) : List SkillRow :=
  dedupeUserVisibleSkillRows (listForUser s.rows userId)

/-- The skills of the corpus that are put into the table, in this order. -/
def builtinSkills (corpus : List Directory) (top auto : Bool) : List ScannedSkill :=
  (if top then
    (scanSkillDirs "builtin-skills" [] corpus).filter (·.name ≠ BUILTIN_AUTO_SKILLS_SUBDIR)
  else []) ++
    if auto then scanSkillDirs "builtin-skills" [BUILTIN_AUTO_SKILLS_SUBDIR] corpus else []

def syncBuiltinSkills (top auto : Bool) : SkillCatalog :=
  { s with
    rows := (builtinSkills s.builtinDirs top auto).foldl (fun rows skill =>
      upsert rows none skill.name (.builtin skill.path) .builtin) s.rows }

/-- `sync_disk_user_skills_into_repo_for_user`: for the default user, and names that the table does not
have. -/
def syncDiskUserSkills (userId : String) : SkillCatalog :=
  if userId = DEFAULT_USER_ID then
    { s with
      rows := (scanSkillDirs "skills" [] s.legacyDirs).foldl (fun rows skill =>
        if "users" ∈ s.userSkillsDir ++ skill.path || !validFilename skill.name then rows
        else
          match findByNameAnyForUser rows userId skill.name with
          | some _ => rows
          | none => upsert rows (some userId) skill.name (.legacy skill.path) .user) s.rows }
  else s

def syncForUser (userId : String) (top auto : Bool) : SkillCatalog :=
  (s.syncDiskUserSkills userId).syncBuiltinSkills top auto

def start (corpus : List Directory) (isLocal top auto : Bool) : SkillCatalog :=
  let s := { s with builtinDirs := corpus }
  if isLocal then s.syncForUser DEFAULT_USER_ID top auto else s.syncBuiltinSkills top auto

def target (userId name : String) : SkillPath := .user (userSkillRootForUser userId) name

def removeDir (dir name : String) : SkillCatalog :=
  { s with userDirs := s.userDirs.filter fun entry => entry.key ≠ (dir, name) }

def importSkill (userId name content : String) (outcome : ImportOutcome) : SkillCatalog :=
  let dir := userSkillRootForUser userId
  if !validFilename name || outcome = .copyFails then s
  else if name = "." then
    -- The directory of the user is emptied, and cannot be removed by this name.
    { s with userDirs := s.userDirs.filter fun entry => entry.dir ≠ dir }
  else
    let s := s.removeDir dir name
    let copied := { s with userDirs := { dir, name, content } :: s.userDirs }
    match outcome with
    | .renameFails => s
    | .imported => { copied with rows := upsert s.rows (some userId) name (target userId name) .user }
    | _ => copied

/-- What is built in is protected first; a directory stays on disk. -/
def delete (userId name : String) : SkillCatalog :=
  if !validFilename name || s.builtinSkillExists name then s
  else
    match findByNameForUser s.rows userId name with
    | none => s
    | some _ => { s with rows := deleteByNameForUser s.rows userId name }

def resolve (userId name : String) : Option SkillPath :=
  let onDisk :=
    if s.isDir (.builtin (join [] name)) then some (.builtin (join [] name))
    else if s.isDir (.builtin (join [BUILTIN_AUTO_SKILLS_SUBDIR] name)) then
      some (.builtin (join [BUILTIN_AUTO_SKILLS_SUBDIR] name))
    else none
  match findByNameAnyForUser s.rows userId name with
  | none => onDisk
  | some row =>
    if s.isDir row.path then some row.path
    else if row.userId.isSome then none
    else onDisk

def materialize (userId : String) (names : List String) : SkillCatalog × List ResolvedAgentSkill :=
  let s := s.syncDiskUserSkills userId
  (s, (names.filterMap fun name =>
    if validFilename name then (s.resolve userId name).map fun path => ⟨name, path⟩
    else none).insertionSort
      fun a b => a.name ≤ b.name)

def next : SkillEvent → SkillCatalog
  | .start corpus isLocal top auto => s.start corpus isLocal top auto
  | .sync userId top auto => s.syncForUser userId top auto
  | .importSkill userId name content outcome => s.importSkill userId name content outcome
  | .delete userId name => s.delete userId name
  | .materialize userId names => (s.materialize userId names).1

end SkillCatalog

end KiCore.Extension.Skills

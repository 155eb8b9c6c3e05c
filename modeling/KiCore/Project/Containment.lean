import KiCore.Lib.Text
import Mathlib.Tactic

/-!
# Path containment

Port of `resolve_relative` of `containment.rs`, with what it uses of `std::path`: the components of a path,
and `join` and `starts_with` on them. Paths are those of Unix or of Windows (`Os`). A prefix that begins with
two backslashes is read as the root directory behind it; the components of a path that starts with either
are never read further. The canonical root is given by the volume it is on and the names below, and the URI
of a path is identified with the path.

`walk_ok_iff` says which paths pass the walk over the components, and what is left of them. Behind the walk
stands a guard that compares the joined path with the root. It refuses nothing on Unix; on Windows, the names
that are left are read as a path again, and the first of them may be taken for the prefix of a drive.
-/

namespace KiCore.Project.Containment

inductive Os where
  | unix
  | windows
  deriving DecidableEq

/-- `std::path::Component`. -/
inductive Component where
  | pathPrefix (volume : String)
  | rootDir
  | curDir
  | parentDir
  | normal (name : String)
  deriving DecidableEq

/-- The errors of `resolve_relative`. -/
inductive ProjectError where
  | invalidRelativePath (relativePath : String)
  | resourceOutsideFolder (relativePath : String)
  | folderCanonicalizeFailed (path : List Component)
  deriving DecidableEq

variable (os : Os)

def isSep (c : Char) : Bool :=
  c = '/' || (os = .windows && c = '\\')

def hasDrive (path : List Char) : Bool :=
  os = .windows && path.head?.any Char.isAlpha && path[1]? = some ':'

/-- The component between two separators; `.` in the middle of a path is none. -/
def piece (name : List Char) : Option Component :=
  if name = [] ∨ name = ['.'] then none
  else if name = ['.', '.'] then some .parentDir
  else some (.normal (String.ofList name))

def bodyComponents (body : List Char) : List Component :=
  let names := body.splitOnP (isSep os)
  if body.head?.any (isSep os) then .rootDir :: names.filterMap piece
  else if names.head? = some ['.'] then .curDir :: names.filterMap piece
  else names.filterMap piece

/-- `Path::components`. -/
def components (path : String) : List Component :=
  if hasDrive os path.toList then
    .pathPrefix (String.ofList ((path.toList.take 2).map Char.toUpper)) ::
      bodyComponents os (path.toList.drop 2)
  else bodyComponents os path.toList

/-- `Path::join`, on components: a path with a prefix or a root is not put behind the other one. -/
def join (base : List Component) (path : String) : List Component :=
  match components os path with
  | .pathPrefix volume :: comps => .pathPrefix volume :: comps
  | .rootDir :: comps => (base.takeWhile fun comp => comp ≠ .rootDir) ++ .rootDir :: comps
  | comps => base ++ comps.filter (· ≠ .curDir)

/-- `Path::is_absolute`. -/
def isAbsolute : List Component → Bool
  | .rootDir :: _ => os = .unix
  | .pathPrefix _ :: .rootDir :: _ => true
  | _ => false

/-- A canonical folder: the volume it is on, and the names of the folders down to it. -/
structure Canonical (os : Os) where
  volume : Option String
  names : List String
  onVolume : volume.isSome = true ↔ os = .windows

/-- `canonical::fs_path`. -/
def fsPath {os : Os} (root : Canonical os) : List Component :=
  match root.volume with
  | some volume => .pathPrefix volume :: .rootDir :: root.names.map .normal
  | none => .rootDir :: root.names.map .normal

/-- `canonical::to_file_uri`; a path is identified with its URI. -/
def toFileUri (path : List Component) : Except ProjectError (List Component) :=
  if isAbsolute os path then .ok path else .error (.folderCanonicalizeFailed path)

structure ResolvedRelative where
  relativePath : String
  resourceUri : List Component
  absolutePath : List Component

/-- The segments that the components leave, behind those that were there. -/
def walk (relativePath : String) : List Component → List String → Except ProjectError (List String)
  | [], segs => .ok segs
  | .pathPrefix _ :: _, _ => .error (.invalidRelativePath relativePath)
  | .rootDir :: _, _ => .error (.invalidRelativePath relativePath)
  | .curDir :: comps, segs => walk relativePath comps segs
  | .parentDir :: comps, segs =>
    -- `..` that would ascend above the root is an escape
    if segs = [] then .error (.invalidRelativePath relativePath)
    else walk relativePath comps segs.dropLast
  | .normal seg :: comps, segs => walk relativePath comps (segs ++ [seg])

/-- Resolve a relative path under a root, rejecting absolute paths and `..` escapes lexically. -/
def resolveRelative {os : Os} (root : Canonical os) (relativePath : String) :
    Except ProjectError ResolvedRelative := do
  let segs ← walk relativePath (components os relativePath) []
  let normalized := "/".intercalate segs
  let rootPath := fsPath root
  let absolute := if normalized = "" then rootPath else join os rootPath normalized
  if ¬ rootPath.isPrefixOf absolute then
    .error (.resourceOutsideFolder relativePath)
  else
    let resourceUri ← toFileUri os absolute
    .ok { relativePath := normalized, resourceUri := resourceUri, absolutePath := absolute }

namespace Component

def isRooted : Component → Bool
  | .pathPrefix _ | .rootDir => true
  | .curDir | .parentDir | .normal _ => false

def isName : Component → Bool
  | .normal _ => true
  | _ => false

end Component

/-- An absolute path: it starts with a prefix or with the root directory. -/
def Absolute (comps : List Component) : Prop :=
  comps.head?.any Component.isRooted = true

/-- Some prefix of the components goes up more often than down, from a folder at a depth. -/
def Climbs (depth : Nat) (comps : List Component) : Prop :=
  ∃ n, depth + (comps.take n).countP Component.isName < (comps.take n).count .parentDir

/-- The names that are left when every `..` takes away the one before. -/
def lexical (segs : List String) (comps : List Component) : List String :=
  comps.foldl (fun segs comp => match comp with
    | .normal seg => segs ++ [seg]
    | .parentDir => segs.dropLast
    | _ => segs) segs

/-- A name of a folder or file: no separator, not empty, and not one of `.` and `..`. -/
def Plain (name : String) : Prop :=
  name.toList ≠ [] ∧ name.toList ≠ ['.'] ∧ name.toList ≠ ['.', '.'] ∧ ∀ c ∈ name.toList, isSep os c = false

def DriveFirst (segs : List String) : Prop :=
  hasDrive os ("/".intercalate segs).toList = true

variable {os : Os} {root : Canonical os} {path relativePath : String} {comps : List Component}
  {comp : Component} {segs out : List String} {seg name : String} {body : List Char}

lemma not_climbs_nil {depth : Nat} : ¬ Climbs depth [] := by
  rintro ⟨n, more⟩
  rw [List.take_nil, List.count_nil] at more
  exact Nat.not_lt_zero _ more

lemma climbs_curDir {depth : Nat} : Climbs depth (.curDir :: comps) ↔ Climbs depth comps := by
  constructor
  · rintro ⟨_ | n, more⟩
    · exact absurd more (Nat.not_lt_zero _)
    · refine ⟨n, ?_⟩
      rwa [List.take_succ_cons, List.countP_cons_of_neg (by decide), List.count_cons_of_ne (by decide)]
        at more
  · rintro ⟨n, more⟩
    refine ⟨n + 1, ?_⟩
    rwa [List.take_succ_cons, List.countP_cons_of_neg (by decide), List.count_cons_of_ne (by decide)]

lemma climbs_normal {depth : Nat} : Climbs depth (.normal seg :: comps) ↔ Climbs (depth + 1) comps := by
  constructor
  · rintro ⟨_ | n, more⟩
    · exact absurd more (Nat.not_lt_zero _)
    · refine ⟨n, ?_⟩
      rw [List.take_succ_cons, List.countP_cons_of_pos rfl, List.count_cons_of_ne (by simp)] at more
      omega
  · rintro ⟨n, more⟩
    refine ⟨n + 1, ?_⟩
    rw [List.take_succ_cons, List.countP_cons_of_pos rfl, List.count_cons_of_ne (by simp)]
    omega

lemma climbs_parentDir_zero : Climbs 0 (.parentDir :: comps) :=
  ⟨1, by simp [Component.isName]⟩

lemma climbs_parentDir_succ {depth : Nat} :
    Climbs (depth + 1) (.parentDir :: comps) ↔ Climbs depth comps := by
  constructor
  · rintro ⟨_ | n, more⟩
    · exact absurd more (Nat.not_lt_zero _)
    · refine ⟨n, ?_⟩
      rw [List.take_succ_cons, List.countP_cons_of_neg (by decide), List.count_cons_self] at more
      omega
  · rintro ⟨n, more⟩
    refine ⟨n + 1, ?_⟩
    rw [List.take_succ_cons, List.countP_cons_of_neg (by decide), List.count_cons_self]
    omega

lemma walk_ok_iff : walk relativePath comps segs = .ok out ↔
    (∀ comp ∈ comps, comp.isRooted = false) ∧ ¬ Climbs segs.length comps ∧ lexical segs comps = out := by
  induction comps generalizing segs with
  | nil => simp [walk, lexical, not_climbs_nil]
  | cons comp comps ih =>
    cases comp with
    | pathPrefix volume => simp [walk, Component.isRooted]
    | rootDir => simp [walk, Component.isRooted]
    | curDir =>
      rw [walk, ih, climbs_curDir]
      simp [Component.isRooted, lexical]
    | parentDir =>
      rw [walk]
      split_ifs with top
      · subst top
        simp [climbs_parentDir_zero]
      · obtain ⟨init, last, rfl⟩ := (List.eq_nil_or_concat' segs).resolve_left top
        rw [ih, List.dropLast_concat, List.length_append, List.length_singleton, climbs_parentDir_succ]
        simp [Component.isRooted, lexical]
    | normal seg =>
      rw [walk, ih, List.length_append, List.length_singleton, climbs_normal]
      simp [Component.isRooted, lexical]

lemma plain_of_piece {chars : List Char} (apart : ∀ c ∈ chars, isSep os c = false)
    (h : piece chars = some (.normal name)) : Plain os name := by
  unfold piece at h
  split_ifs at h with none up
  · cases h
  · cases h
    obtain ⟨empty, dot⟩ := not_or.mp none
    rw [Plain, String.toList_ofList]
    exact ⟨empty, dot, up, apart⟩

lemma piece_plain (plain : Plain os name) : piece name.toList = some (.normal name) := by
  obtain ⟨empty, dot, up, _⟩ := plain
  unfold piece
  rw [if_neg (not_or.mpr ⟨empty, dot⟩), if_neg up, String.ofList_toList]

lemma piece_not_rooted {chars : List Char} (h : piece chars = some comp) : comp.isRooted = false := by
  unfold piece at h
  split_ifs at h
  · cases h
    rfl
  · cases h
    rfl

lemma mem_bodyComponents (h : comp ∈ bodyComponents os body) :
    comp = .rootDir ∨ comp = .curDir ∨ comp ∈ (body.splitOnP (isSep os)).filterMap piece := by
  unfold bodyComponents at h
  dsimp only at h
  split_ifs at h
  · exact (List.mem_cons.mp h).imp_right .inr
  · exact .inr (List.mem_cons.mp h)
  · exact .inr (.inr h)

lemma plain_of_mem (h : .normal name ∈ components os path) : Plain os name := by
  have inBody : ∀ body, .normal name ∈ bodyComponents os body → Plain os name := by
    intro body there
    obtain there | there | there := mem_bodyComponents there
    · cases there
    · cases there
    · obtain ⟨chars, split, made⟩ := List.mem_filterMap.mp there
      exact plain_of_piece (Lib.Text.mem_splitOnP split) made
  unfold components at h
  split_ifs at h
  · rcases List.mem_cons.mp h with h | h
    · cases h
    · exact inBody _ h
  · exact inBody _ h

lemma absolute_iff : Absolute (components os path) ↔ ∃ comp ∈ components os path, comp.isRooted = true := by
  constructor
  · intro absolute
    cases first : (components os path).head? with
    | none =>
      rw [Absolute, first] at absolute
      cases absolute
    | some comp =>
      rw [Absolute, first] at absolute
      exact ⟨comp, List.mem_of_head? first, absolute⟩
  · rintro ⟨comp, there, rooted⟩
    have noPiece : ∀ body : List Char, comp ∉ (body.splitOnP (isSep os)).filterMap piece := by
      intro body there
      obtain ⟨chars, _, made⟩ := List.mem_filterMap.mp there
      rw [piece_not_rooted made] at rooted
      cases rooted
    unfold components bodyComponents at there ⊢
    dsimp only at there ⊢
    split_ifs at there ⊢
    · rfl
    · rfl
    · rfl
    · rfl
    · rcases List.mem_cons.mp there with rfl | there
      · cases rooted
      · exact absurd there (noPiece _)
    · exact absurd there (noPiece _)

lemma components_intercalate (plain : ∀ seg ∈ segs, Plain os seg) (noDrive : ¬ DriveFirst os segs) :
    components os ("/".intercalate segs) = segs.map .normal := by
  unfold DriveFirst at noDrive
  rw [components, if_neg noDrive]
  cases segs with
  | nil =>
    rw [String.intercalate_nil]
    rfl
  | cons first rest =>
    have apart : ∀ chars ∈ (first :: rest).map String.toList, ∀ c ∈ chars, isSep os c = false := by
      intro chars there
      obtain ⟨seg, listed, rfl⟩ := List.mem_map.mp there
      exact (plain seg listed).2.2.2
    have split : ("/".intercalate (first :: rest)).toList.splitOnP (isSep os) =
        (first :: rest).map String.toList := by
      rw [String.toList_intercalate]
      exact Lib.Text.splitOnP_intercalate rfl (by simp) apart
    have begins : ("/".intercalate (first :: rest)).toList.head?.any (isSep os) = false := by
      cases chars : ("/".intercalate (first :: rest)).toList with
      | nil => rfl
      | cons c cs =>
        rw [List.head?_cons, Option.any_some, Bool.eq_false_iff]
        intro sep
        -- the first piece would be empty
        rw [chars, List.splitOnP_cons_eq_if_modifyHead, if_pos sep, List.map_cons] at split
        exact (plain first (List.mem_cons_self ..)).1 (List.cons.inj split).1.symm
    have pieces : ((first :: rest).map String.toList).filterMap piece = (first :: rest).map .normal := by
      rw [List.filterMap_map, ← List.filterMap_eq_map]
      exact List.filterMap_congr fun seg listed => piece_plain (plain seg listed)
    unfold bodyComponents
    dsimp only
    rw [begins, if_neg Bool.false_ne_true, split, if_neg, pieces]
    rw [List.map_cons, List.head?_cons, Option.some.injEq]
    exact (plain first (List.mem_cons_self ..)).2.1

lemma isAbsolute_fsPath : isAbsolute os (fsPath root ++ comps) = true := by
  have onVolume := root.onVolume
  unfold fsPath
  cases volume : root.volume with
  | some volume => rfl
  | none =>
    rw [volume] at onVolume
    cases os with
    | unix => rfl
    | windows => exact absurd (onVolume.mpr rfl) Bool.false_ne_true

lemma join_intercalate (plain : ∀ seg ∈ segs, Plain os seg) (noDrive : ¬ DriveFirst os segs)
    (some : segs ≠ []) : join os comps ("/".intercalate segs) = comps ++ segs.map .normal := by
  obtain ⟨first, rest, rfl⟩ := List.exists_cons_of_ne_nil some
  unfold join
  rw [components_intercalate plain noDrive, List.map_cons]
  dsimp only
  congr 1
  rw [List.filter_eq_self]
  intro comp there
  rcases List.mem_cons.mp there with rfl | there
  · rfl
  · obtain ⟨seg, _, rfl⟩ := List.mem_map.mp there
    rfl

lemma intercalate_eq_empty (plain : ∀ seg ∈ segs, Plain os seg) :
    "/".intercalate segs = "" ↔ segs = [] := by
  constructor
  · intro empty
    cases segs with
    | nil => rfl
    | cons first rest =>
      have chars := congrArg String.toList empty
      rw [String.toList_intercalate] at chars
      have first' := (plain first (List.mem_cons_self ..)).1
      cases rest with
      | nil => exact absurd (by simpa using chars) first'
      | cons second rest =>
        rw [List.map_cons, List.map_cons, List.intercalate_cons_cons] at chars
        simp at chars
  · rintro rfl
    exact String.intercalate_nil

lemma resolveRelative_of_walk (walked : walk path (components os path) [] = .ok segs)
    (plain : ∀ seg ∈ segs, Plain os seg) (noDrive : ¬ DriveFirst os segs) :
    resolveRelative root path = .ok
      { relativePath := "/".intercalate segs
        resourceUri := fsPath root ++ segs.map .normal
        absolutePath := fsPath root ++ segs.map .normal } := by
  have absolute : (if "/".intercalate segs = "" then fsPath root
      else join os (fsPath root) ("/".intercalate segs)) = fsPath root ++ segs.map .normal := by
    split_ifs with empty
    · rw [(intercalate_eq_empty plain).mp empty, List.map_nil, List.append_nil]
    · exact join_intercalate plain noDrive fun none => empty ((intercalate_eq_empty plain).mpr none)
  have inside : (fsPath root).isPrefixOf (fsPath root ++ segs.map .normal) = true :=
    List.isPrefixOf_iff_prefix.mpr (List.prefix_append ..)
  unfold resolveRelative
  rw [walked]
  dsimp only [bind, Except.bind]
  rw [absolute, if_neg (not_not.mpr inside), toFileUri, if_pos isAbsolute_fsPath]

lemma resolveRelative_of_error {error : ProjectError}
    (walked : walk path (components os path) [] = .error error) :
    resolveRelative root path = .error error := by
  unfold resolveRelative
  rw [walked]
  rfl

lemma plain_lexical (before : ∀ seg ∈ segs, Plain os seg)
    (plain : ∀ name, .normal name ∈ comps → Plain os name) :
    ∀ seg ∈ lexical segs comps, Plain os seg := by
  induction comps generalizing segs with
  | nil => exact before
  | cons comp comps ih =>
    have rest : ∀ name, .normal name ∈ comps → Plain os name := fun name h => plain name (.tail _ h)
    cases comp with
    | pathPrefix volume => exact ih before rest
    | rootDir => exact ih before rest
    | curDir => exact ih before rest
    | parentDir => exact ih (fun seg h => before seg (List.mem_of_mem_dropLast h)) rest
    | normal name =>
      apply ih _ rest
      intro seg h
      rcases List.mem_append.mp h with h | h
      · exact before seg h
      · rw [List.mem_singleton.mp h]
        exact plain name (List.mem_cons_self ..)

/-- What is asked of the answer to a relative path: it is accepted if it is neither absolute nor climbs, and
then it is the path of a folder or file below the root, by plain names, which is resolved to itself. -/
def Contained (root : Canonical os) (path : String) : Prop :=
  ((∃ resolved, resolveRelative root path = .ok resolved) ↔
    ¬ Absolute (components os path) ∧ ¬ Climbs 0 (components os path)) ∧
  ∀ resolved, resolveRelative root path = .ok resolved →
    (∃ segs, (∀ seg ∈ segs, Plain os seg) ∧ resolved.relativePath = "/".intercalate segs ∧
      components os resolved.relativePath = segs.map .normal ∧
      resolved.absolutePath = fsPath root ++ segs.map .normal ∧
      resolved.resourceUri = resolved.absolutePath) ∧
    resolveRelative root resolved.relativePath = .ok resolved

lemma relativePath_of_ok {resolved : ResolvedRelative}
    (walked : walk path (components os path) [] = .ok segs)
    (accepted : resolveRelative root path = .ok resolved) :
    resolved.relativePath = "/".intercalate segs := by
  unfold resolveRelative at accepted
  rw [walked] at accepted
  dsimp only [bind, Except.bind] at accepted
  generalize (if "/".intercalate segs = "" then fsPath root else _) = absolute at accepted
  unfold toFileUri at accepted
  split_ifs at accepted
  · cases accepted
    rfl

lemma walk_map_normal : walk path (segs.map .normal) out = .ok (out ++ segs) := by
  induction segs generalizing out with
  | nil => rw [List.map_nil, walk, List.append_nil]
  | cons seg segs ih => rw [List.map_cons, walk, ih, List.append_assoc, List.singleton_append]

lemma DriveFirst.windows (h : DriveFirst os segs) : os = .windows := by
  unfold DriveFirst hasDrive at h
  rw [Bool.and_eq_true, Bool.and_eq_true, decide_eq_true_eq] at h
  exact h.1.1

/-- A path is contained, unless what is left of its names starts like the prefix of a drive, on Windows. -/
theorem resolve_relative_iff (root : Canonical os) (path : String) :
    Contained root path ↔ ¬ (os = .windows ∧ ¬ Absolute (components os path) ∧
      ¬ Climbs 0 (components os path) ∧ DriveFirst os (lexical [] (components os path))) := by
  cases walked : walk path (components os path) [] with
  | error error =>
    have refused : ¬ (¬ Absolute (components os path) ∧ ¬ Climbs 0 (components os path)) := by
      rintro ⟨relative, inside⟩
      have accepted : walk path (components os path) [] = .ok _ :=
        walk_ok_iff.mpr ⟨fun comp there => Bool.eq_false_iff.mpr fun rooted =>
          relative (absolute_iff.mpr ⟨comp, there, rooted⟩), inside, rfl⟩
      rw [walked] at accepted
      cases accepted
    constructor
    · rintro - ⟨_, relative, inside, _⟩
      exact refused ⟨relative, inside⟩
    · rintro -
      refine ⟨⟨?_, fun yes => absurd yes refused⟩, ?_⟩
      · rintro ⟨resolved, accepted⟩
        rw [resolveRelative_of_error walked] at accepted
        cases accepted
      · intro resolved accepted
        rw [resolveRelative_of_error walked] at accepted
        cases accepted
  | ok segs =>
    obtain ⟨unrooted, inside, rfl⟩ := walk_ok_iff.mp walked
    have relative : ¬ Absolute (components os path) := by
      intro absolute
      obtain ⟨comp, there, rooted⟩ := absolute_iff.mp absolute
      rw [unrooted comp there] at rooted
      cases rooted
    have plain : ∀ seg ∈ lexical [] (components os path), Plain os seg :=
      plain_lexical (by simp) fun name there => plain_of_mem there
    constructor
    · rintro ⟨accepts, results⟩ ⟨_, _, _, drive⟩
      obtain ⟨resolved, accepted⟩ := accepts.mpr ⟨relative, inside⟩
      obtain ⟨⟨segs, _, _, shown, _⟩, _⟩ := results resolved accepted
      rw [relativePath_of_ok walked accepted, components, if_pos (by exact drive)] at shown
      cases segs with
      | nil => cases shown
      | cons seg segs => cases shown
    · intro fine
      have noDrive : ¬ DriveFirst os (lexical [] (components os path)) :=
        fun drive => fine ⟨drive.windows, relative, inside, drive⟩
      have answer : resolveRelative root path = _ := resolveRelative_of_walk walked plain noDrive
      refine ⟨⟨fun _ => ⟨relative, inside⟩, fun _ => ⟨_, answer⟩⟩, ?_⟩
      intro resolved accepted
      rw [answer] at accepted
      obtain rfl := Except.ok.inj accepted
      have again := components_intercalate plain noDrive
      refine ⟨⟨_, plain, rfl, again, rfl, rfl⟩, resolveRelative_of_walk ?_ plain noDrive⟩
      rw [again]
      exact walk_map_normal

/-- On Windows, a name that starts like a drive is read as one when it is joined with the root: the relative
path that is returned is not one, and is not resolved again. -/
theorem resolve_relative_drive :
    let root : Canonical .windows := ⟨some "C:", ["work"], by decide⟩
    resolveRelative root "./C:/work/x" = .ok
      { relativePath := "C:/work/x"
        resourceUri := [.pathPrefix "C:", .rootDir, .normal "work", .normal "x"]
        absolutePath := [.pathPrefix "C:", .rootDir, .normal "work", .normal "x"] } ∧
    resolveRelative root "C:/work/x" = .error (.invalidRelativePath "C:/work/x") ∧
    resolveRelative root "./C:x" = .error (.resourceOutsideFolder "./C:x") ∧
    ¬ Contained root "./C:/work/x" := by
  intro root
  have accepted : resolveRelative root "./C:/work/x" = .ok
      { relativePath := "C:/work/x"
        resourceUri := [.pathPrefix "C:", .rootDir, .normal "work", .normal "x"]
        absolutePath := [.pathPrefix "C:", .rootDir, .normal "work", .normal "x"] } := by
    rfl
  have refused : resolveRelative root "C:/work/x" = .error (.invalidRelativePath "C:/work/x") := by
    rfl
  refine ⟨accepted, refused, rfl, ?_⟩
  rintro ⟨_, results⟩
  have again := (results _ accepted).2
  rw [refused] at again
  cases again

end KiCore.Project.Containment

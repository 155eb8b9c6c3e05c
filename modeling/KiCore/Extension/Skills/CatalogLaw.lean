import KiCore.Extension.Skills.Catalog
import KiCore.Lib.Transition

/-!
# The catalogue and agents agree

A list shows what `find_by_name_for_user` finds (`lookup_dedupe`), while an agent is given what is found
among all rows, with those that are deleted. So a deleted row hides a built-in skill of its name that is
listed. A built-in skill of the name also keeps a user from deleting an own one, and one that has left
the corpus stays listed.
-/

namespace KiCore.Extension.Skills

open KiCore.Lib

variable {s : SkillCatalog} {e : SkillEvent} {userId name : String} {rows : List SkillRow}
  {row : SkillRow}

namespace SkillCatalog

def corpusSkills (s : SkillCatalog) : List ScannedSkill := builtinSkills s.builtinDirs true true

def content (s : SkillCatalog) : SkillPath → Option String
  | .user dir name => (Keyed.lookup UserSkillDir.key (dir, name) s.userDirs).map UserSkillDir.content
  | _ => none

end SkillCatalog

def SkillEvent.syncs : SkillEvent → Bool
  | .start _ _ _ _ => true
  | .sync _ _ _ => true
  | _ => false

def SkillEvent.actor : SkillEvent → String
  | .start _ _ _ _ => DEFAULT_USER_ID
  | .sync userId _ _ => userId
  | .importSkill userId _ _ _ => userId
  | .delete userId _ => userId
  | .materialize userId _ => userId

namespace SkillCatalog

structure Agrees (s : SkillCatalog) (e : SkillEvent) : Prop where
  resolves : ∀ userId, ∀ row ∈ (s.next e).listSkills userId,
    ((s.next e).materialize userId [row.name]).2 = [⟨row.name, row.path⟩]
  deletes : ∀ userId name, e = .delete userId name →
    (∃ row ∈ s.rows, row.userId = some userId ∧ row.name = name ∧ row.deleted = false) →
      (∀ row ∈ (s.next e).listSkills userId, row.name = name → row.userId = none) ∧
        ∀ row ∈ (s.next e).rows, row.userId = none → row.name = name → row ∈ (s.next e).listSkills userId
  current : e.syncs → ∀ userId, ∀ row ∈ (s.next e).listSkills userId, row.source = .builtin →
    ∃ skill ∈ (s.next e).corpusSkills, skill.name = row.name ∧ .builtin skill.path = row.path
  listsOwn : ∀ userId, ∀ row ∈ (s.next e).listSkills userId, row.userId = none ∨ row.userId = some userId
  resolvesOwn : ∀ userId names, ∀ skill ∈ ((s.next e).materialize userId names).2,
    ∀ row ∈ (s.next e).rows,
    row.path = skill.sourcePath → row.userId = none ∨ row.userId = some userId
  others : ∀ userId, userId ≠ e.actor →
    (s.next e).rows.filter (·.userId = some userId) = s.rows.filter (·.userId = some userId) ∧
      ∀ row ∈ s.rows, row.userId = some userId → (s.next e).content row.path = s.content row.path

/-- What is put into the table has a name that can be asked for, and that no one has deleted a skill of;
and every global row is put there again, or its directory is still that of the skill. -/
def Fits (s : SkillCatalog) (top auto : Bool) : Prop :=
  (∀ skill ∈ builtinSkills s.builtinDirs top auto, validFilename skill.name ∧
    ∀ row ∈ s.rows, row.userId.isSome → row.name = skill.name → row.deleted = false) ∧
  ∀ row ∈ s.rows, row.userId = none →
    (∃ skill ∈ builtinSkills s.builtinDirs top auto, skill.name = row.name) ∨
      ∃ skill ∈ s.corpusSkills, skill.name = row.name ∧ .builtin skill.path = row.path

/-- The corpus never loses a skill and has no skill of a name that a user has deleted; a skill is only
deleted where there is no built-in one of its name; and an import goes to a directory of the user's own,
and does not fail once the directory that was there has been removed. -/
def Heeded (s : SkillCatalog) : SkillEvent → Prop
  | .start corpus _ top auto => Fits { s with builtinDirs := corpus } top auto
  | .sync _ top auto => s.Fits top auto
  | .importSkill userId name _ outcome =>
    outcome = .copyFails ∨ validFilename name = false ∨ name ≠ "." ∧
      ∀ row ∈ s.rows, row.path = target userId name →
        row.userId = some userId ∧ (outcome = .renameFails → row.deleted)
  | .delete userId name =>
    (∃ row ∈ s.rows, row.userId = some userId ∧ row.name = name ∧ row.deleted = false) →
      s.builtinSkillExists name = false ∧ ∀ row ∈ s.rows, row.userId = none → row.name ≠ name
  | .materialize _ _ => True

instance {top auto : Bool} : Decidable (s.Fits top auto) := inferInstanceAs (Decidable (_ ∧ _))

instance : Decidable (s.Heeded e) := by
  unfold Heeded
  split <;> infer_instance

end SkillCatalog

lemma ownFirst_mem (found : ownFirst rows = some row) : row ∈ rows := by
  obtain own | ⟨-, first⟩ := Option.or_eq_some_iff.mp found
  · exact List.mem_of_find?_eq_some own
  · exact List.mem_of_mem_head? first

lemma ownFirst_append (row : SkillRow) : ownFirst (rows ++ [row]) =
    some ((ownFirst rows).elim row fun found =>
      if found.userId.isNone && row.userId.isSome then row else found) := by
  unfold ownFirst
  rw [List.find?_append, List.head?_append]
  cases own : rows.find? (·.userId.isSome) with
  | some first =>
    obtain ⟨owner, owned⟩ := Option.isSome_iff_exists.mp (by simpa using List.find?_some own)
    simp [owned]
  | none =>
    cases rows with
    | nil => cases global : row.userId <;> simp [global]
    | cons first rows =>
      have global : first.userId = none := by
        simpa using List.find?_eq_none.mp own first List.mem_cons_self
      cases owner : row.userId <;> simp [global, owner]

lemma lookup_dedupe (rows : List SkillRow) : Keyed.lookup SkillRow.name name
    (SkillCatalog.dedupeUserVisibleSkillRows rows) = ownFirst (rows.filter (·.name = name)) := by
  induction rows using List.reverseRecOn with
  | nil => rfl
  | append_singleton rows row ih =>
    rw [SkillCatalog.dedupeUserVisibleSkillRows, List.foldl_concat, Keyed.lookup_upsert ?keeps]
    case keeps =>
      intro existing same
      split_ifs
      · rfl
      · exact same
    rw [← SkillCatalog.dedupeUserVisibleSkillRows, ih, List.filter_append]
    by_cases same : row.name = name
    · rw [if_pos same, List.filter_singleton, decide_eq_true same, cond_true, ownFirst_append]
    · rw [if_neg same, List.filter_singleton, decide_eq_false same]
      simp

lemma nodup_dedupe (rows : List SkillRow) :
    ((SkillCatalog.dedupeUserVisibleSkillRows rows).map SkillRow.name).Nodup := by
  induction rows using List.reverseRecOn with
  | nil => exact List.nodup_nil
  | append_singleton rows row ih =>
    rw [SkillCatalog.dedupeUserVisibleSkillRows, List.foldl_concat]
    refine Keyed.nodup_upsert (fun existing same => ?_) ih
    split_ifs
    · rfl
    · exact same

lemma mem_listSkills :
    row ∈ s.listSkills userId ↔ findByNameForUser s.rows userId row.name = some row := by
  have mem := Keyed.mem_iff_lookup (k := row.name) (x := row) (nodup_dedupe (listForUser s.rows userId))
  rw [and_iff_left rfl, lookup_dedupe, listForUser, List.filter_filter] at mem
  have same : (fun other : SkillRow =>
      decide (other.name = row.name) && (other.visibleTo userId && other.live)) =
      fun other => other.visibleTo userId && decide (other.name = row.name) && other.live := by
    funext other
    rw [Bool.and_left_comm, Bool.and_assoc]
  rw [same] at mem
  exact mem

lemma mem_upsert {owner : Option String} {path : SkillPath} {source : SkillSource}
    (nodup : (rows.map SkillRow.key).Nodup) : row ∈ upsert rows owner name path source ↔
      row = { userId := owner, name, path, source, enabled := true, deleted := false } ∨
        row ∈ rows ∧ row.key ≠ (owner, name) :=
  Keyed.mem_replace nodup

namespace SkillCatalog

def Home (s : SkillCatalog) (userId name : String) (path : SkillPath) : Prop :=
  path = target userId name ∨ userId = DEFAULT_USER_ID ∧ ∃ directory ∈ s.legacyDirs,
    path = .legacy directory.path

structure Owned (s : SkillCatalog) (userId : String) (row : SkillRow) : Prop where
  home : s.Home userId row.name row.path
  valid : validFilename row.name = true
  enabled : row.enabled = !row.deleted
  source : row.source = .user
  dir : row.deleted = false → s.isDir row.path = true

structure Global (row : SkillRow) : Prop where
  valid : validFilename row.name = true
  enabled : row.enabled = true
  deleted : row.deleted = false
  path : ∃ path, row.path = .builtin path

structure Kept (s : SkillCatalog) : Prop where
  nodup : (s.rows.map SkillRow.key).Nodup
  owned : ∀ row ∈ s.rows, ∀ userId, row.userId = some userId → s.Owned userId row
  global : ∀ row ∈ s.rows, row.userId = none → Global row
  shown : ∀ row ∈ s.rows, row.userId = none → ∀ own ∈ s.rows, own.userId.isSome → own.name = row.name →
    own.deleted = false
  apart : ∀ a ∈ s.rows, ∀ b ∈ s.rows, ∀ userId userId', a.userId = some userId → b.userId = some userId' →
    a.path = b.path → userId = userId'

/-- A global row is of a skill of the corpus. -/
def Current (s : SkillCatalog) : Prop := ∀ row ∈ s.rows, row.userId = none →
  ∃ skill ∈ s.corpusSkills, skill.name = row.name ∧ .builtin skill.path = row.path

structure Sound (s : SkillCatalog) : Prop where
  kept : s.Kept
  current : s.Current

lemma scanned_mem {base : String} {root : List String} {directories : List Directory}
    {skill : ScannedSkill} (mem : skill ∈ scanSkillDirs base root directories) :
    ∃ directory ∈ directories, directory.path = skill.path := by
  obtain ⟨directory, found, scanned⟩ :=
    List.mem_filterMap.mp ((List.perm_insertionSort _ _).mem_iff.mp mem)
  obtain ⟨_, -, rfl⟩ := Option.map_eq_some_iff.mp scanned
  exact ⟨directory, (List.mem_filter.mp found).1, rfl⟩

lemma corpus_mem {skill : ScannedSkill} (mem : skill ∈ s.corpusSkills) :
    ∃ directory ∈ s.builtinDirs, directory.path = skill.path := by
  obtain mem | mem := List.mem_append.mp mem
  · exact scanned_mem (List.mem_filter.mp mem).1
  · exact scanned_mem mem

lemma Sound.isDir (h : s.Sound) (mem : row ∈ s.rows) (live : row.deleted = false) :
    s.isDir row.path = true := by
  cases owner : row.userId with
  | none =>
    obtain ⟨skill, scanned, -, same⟩ := h.current row mem owner
    obtain ⟨directory, there, path⟩ := corpus_mem scanned
    rw [← same]
    exact List.any_eq_true.mpr ⟨directory, there, decide_eq_true path⟩
  | some userId => exact (h.kept.owned row mem userId owner).dir live

lemma visibleTo_iff : row.visibleTo userId = true ↔ row.userId = none ∨ row.userId = some userId := by
  cases owner : row.userId <;> simp [SkillRow.visibleTo, owner]

lemma mem_of_findForUser (found : findByNameForUser rows userId name = some row) :
    row ∈ rows ∧ (row.userId = none ∨ row.userId = some userId) ∧ row.name = name ∧
      row.deleted = false := by
  have mem := List.mem_filter.mp (ownFirst_mem found)
  simp only [Bool.and_eq_true, decide_eq_true_eq, visibleTo_iff, SkillRow.live, Bool.not_eq_true'] at mem
  exact ⟨mem.1, mem.2.1.1, mem.2.1.2, mem.2.2.1⟩

lemma Kept.findAny (h : s.Kept) (found : findByNameForUser s.rows userId name = some row) :
    findByNameAnyForUser s.rows userId name = some row := by
  obtain ⟨mem, owner, named, live⟩ := mem_of_findForUser found
  have same : s.rows.filter (fun row => row.visibleTo userId && row.name = name && row.live) =
      s.rows.filter fun row => row.visibleTo userId && row.name = name := by
    refine List.filter_congr fun other there => ?_
    rw [Bool.and_eq_left_iff_imp]
    intro visible
    simp only [Bool.and_eq_true, decide_eq_true_eq, visibleTo_iff] at visible
    obtain ⟨global | own, same⟩ := visible
    · have global := h.global other there global
      simp [SkillRow.live, global.enabled, global.deleted]
    · have undeleted : other.deleted = false := by
        obtain global | mine := owner
        · exact h.shown row mem global other there (by rw [own]; rfl) (same.trans named.symm)
        · have key : other.key = row.key := by rw [SkillRow.key, SkillRow.key, own, mine, same, named]
          rw [List.inj_on_of_nodup_map h.nodup there mem key]
          exact live
      simp [SkillRow.live, (h.owned other there userId own).enabled, undeleted]
  rwa [findByNameForUser, same] at found

lemma Sound.resolve (h : s.Sound) (found : findByNameForUser s.rows userId name = some row) :
    s.resolve userId name = some row.path := by
  obtain ⟨mem, -, -, live⟩ := mem_of_findForUser found
  simp [SkillCatalog.resolve, h.kept.findAny found, h.isDir mem live]

def legacyRow (userId : String) (skill : ScannedSkill) : SkillRow :=
  { userId := some userId, name := skill.name, path := .legacy skill.path, source := .user,
    enabled := true,
    deleted := false }

/-- Rows are added for skills on disk whose names the user does not see yet. -/
structure Backfilled (s : SkillCatalog) (userId : String) (rows : List SkillRow) : Prop where
  nodup : (rows.map SkillRow.key).Nodup
  old : s.rows ⊆ rows
  new : ∀ row ∈ rows, row ∈ s.rows ∨ userId = DEFAULT_USER_ID ∧
    ∃ skill ∈ scanSkillDirs "skills" [] s.legacyDirs,
    validFilename skill.name = true ∧ row = legacyRow userId skill
  found : ∀ name row, findByNameForUser s.rows userId name = some row →
    findByNameForUser rows userId name = some row
  others : ∀ other, other ≠ userId →
    rows.filter (·.userId = some other) = s.rows.filter (·.userId = some other)

lemma ownFirst_eq_none : ownFirst rows = none ↔ rows = [] := by
  rw [ownFirst, Option.or_eq_none_iff, List.head?_eq_none_iff, and_iff_right_iff_imp]
  rintro rfl
  rfl

lemma findAny_eq_none : findByNameAnyForUser rows userId name = none ↔
    ∀ row ∈ rows, row.visibleTo userId → row.name ≠ name := by
  rw [findByNameAnyForUser, ownFirst_eq_none, List.filter_eq_nil_iff]
  simp

lemma syncDisk_rows (nodup : (s.rows.map SkillRow.key).Nodup) :
    s.Backfilled userId (s.syncDiskUserSkills userId).rows := by
  unfold syncDiskUserSkills
  split_ifs with default
  · refine List.foldlRecOn (motive := s.Backfilled userId) _ _
      ⟨nodup, List.Subset.refl _, fun _ => .inl, fun _ _ => id, fun _ _ => rfl⟩
      fun rows known skill scanned => ?_
    split_ifs with skipped
    · exact known
    split
    · exact known
    case h_2 absent =>
      rw [findAny_eq_none] at absent
      have unseen : ∀ row ∈ rows, row.key ≠ (some userId, skill.name) := by
        intro row mem same
        obtain ⟨owner, named⟩ := Prod.mk.inj same
        exact absent row mem (visibleTo_iff.mpr (.inr owner)) named
      have appended : upsert rows (some userId) skill.name (.legacy skill.path) .user =
          rows ++ [legacyRow userId skill] :=
        Keyed.upsert_of_absent (Keyed.lookup_eq_none.mpr unseen)
      have valid : validFilename skill.name = true := by
        by_contra invalid
        simp [invalid] at skipped
      constructor
      · exact Keyed.nodup_upsert (fun _ _ => rfl) known.nodup
      · rw [appended]
        exact List.subset_append_of_subset_left _ known.old
      · intro row mem
        rw [appended] at mem
        obtain mem | mem := List.mem_append.mp mem
        · exact known.new row mem
        · exact .inr ⟨default, skill, scanned, valid, List.mem_singleton.mp mem⟩
      · intro name row found
        have found := known.found name row found
        obtain ⟨mem, owner, named, -⟩ := mem_of_findForUser found
        have differs : skill.name ≠ name := fun same =>
          absent row mem (visibleTo_iff.mpr owner) (named.trans same.symm)
        rw [appended, findByNameForUser, List.filter_append]
        have skipped : [legacyRow userId skill].filter
            (fun row => row.visibleTo userId && row.name = name && row.live) = [] := by
          simp [legacyRow, differs]
        rw [skipped, List.append_nil]
        exact found
      · intro other ne
        have theirs : [legacyRow userId skill].filter (·.userId = some other) = [] := by
          simp [legacyRow, Ne.symm ne]
        rw [appended, List.filter_append, theirs, List.append_nil]
        exact known.others other ne
  · exact ⟨nodup, List.Subset.refl _, fun _ => .inl, fun _ _ => id, fun _ _ => rfl⟩

lemma syncDisk_eq :
    s.syncDiskUserSkills userId = { s with rows := (s.syncDiskUserSkills userId).rows } := by
  unfold syncDiskUserSkills
  split_ifs <;> rfl

lemma Owned.of_dirs {t : SkillCatalog} (h : s.Owned userId row) (legacy : t.legacyDirs = s.legacyDirs)
    (dir : row.deleted = false → t.isDir row.path = true) : t.Owned userId row := by
  refine ⟨?_, h.valid, h.enabled, h.source, dir⟩
  unfold Home
  rw [legacy]
  exact h.home

lemma Home.legacy {path : SkillPath} {legacy : List String} (h : s.Home userId name path)
    (here : path = .legacy legacy) : userId = DEFAULT_USER_ID := by
  obtain rfl | ⟨default, -⟩ := h
  · cases here
  · exact default

lemma Kept.syncDisk (h : s.Kept) : (s.syncDiskUserSkills userId).Kept := by
  have known : s.Backfilled userId _ := syncDisk_rows h.nodup
  rw [syncDisk_eq]
  generalize (s.syncDiskUserSkills userId).rows = rows at known
  have owned : ∀ row ∈ rows, ∀ owner, row.userId = some owner → Owned { s with rows } owner row := by
    intro row mem owner own
    obtain old | ⟨rfl, skill, scanned, valid, rfl⟩ := known.new row mem
    · exact (h.owned row old owner own).of_dirs rfl (h.owned row old owner own).dir
    · obtain ⟨directory, there, path⟩ := scanned_mem scanned
      obtain rfl := Option.some.inj own
      refine ⟨.inr ⟨rfl, directory, there, congrArg SkillPath.legacy path.symm⟩, valid, rfl, rfl,
        fun _ => ?_⟩
      exact List.any_eq_true.mpr ⟨directory, there, decide_eq_true path⟩
  refine ⟨known.nodup, owned, ?_, ?_, ?_⟩
  · intro row mem global
    obtain old | ⟨-, skill, -, -, rfl⟩ := known.new row mem
    · exact h.global row old global
    · cases global
  · intro row mem global own mem' isSome named
    obtain old | ⟨-, skill, -, -, rfl⟩ := known.new row mem
    · obtain old' | ⟨-, skill, -, -, rfl⟩ := known.new own mem'
      · exact h.shown row old global own old' isSome named
      · rfl
    · cases global
  · intro a memA b memB owner owner' ownA ownB same
    obtain oldA | ⟨rfl, skill, -, -, rfl⟩ := known.new a memA
    · obtain oldB | ⟨rfl, skill, -, -, rfl⟩ := known.new b memB
      · exact h.apart a oldA b oldB owner owner' ownA ownB same
      · rw [(owned a memA owner ownA).home.legacy same]
        exact Option.some.inj ownB
    · rw [(owned b memB owner' ownB).home.legacy same.symm]
      exact (Option.some.inj ownA).symm

lemma Sound.syncDisk (h : s.Sound) : (s.syncDiskUserSkills userId).Sound := by
  refine ⟨h.kept.syncDisk, fun row mem global => ?_⟩
  obtain old | ⟨-, _, -, -, rfl⟩ := (syncDisk_rows h.kept.nodup).new row mem
  · rw [syncDisk_eq]
    exact h.current row old global
  · cases global

variable {top auto : Bool}

lemma Fits.syncDisk (h : s.Fits top auto) (kept : s.Kept) :
    (s.syncDiskUserSkills userId).Fits top auto := by
  have known : s.Backfilled userId _ := syncDisk_rows kept.nodup
  rw [syncDisk_eq]
  generalize (s.syncDiskUserSkills userId).rows = rows at known
  refine ⟨fun skill here => ⟨(h.1 skill here).1, fun row mem own named => ?_⟩, fun row mem global => ?_⟩
  · obtain old | ⟨-, skill, -, -, rfl⟩ := known.new row mem
    · exact (h.1 _ here).2 row old own named
    · rfl
  · obtain old | ⟨-, skill, -, -, rfl⟩ := known.new row mem
    · exact h.2 row old global
    · cases global

def builtinRow (skill : ScannedSkill) : SkillRow :=
  { userId := none, name := skill.name, path := .builtin skill.path, source := .builtin, enabled := true,
    deleted := false }

/-- The rows of skills are put into the table, over global rows of their names. -/
structure Replaced (s : SkillCatalog) (skills : List ScannedSkill) (rows : List SkillRow) : Prop where
  nodup : (rows.map SkillRow.key).Nodup
  new : ∀ row ∈ rows, (∃ skill ∈ skills, row = builtinRow skill) ∨
    row ∈ s.rows ∧ (row.userId = none → ∀ skill ∈ skills, skill.name ≠ row.name)
  others : ∀ other, rows.filter (·.userId = some other) = s.rows.filter (·.userId = some other)

lemma syncBuiltin_rows (nodup : (s.rows.map SkillRow.key).Nodup) (skills : List ScannedSkill) :
    s.Replaced skills (skills.foldl (fun rows skill =>
      upsert rows none skill.name (.builtin skill.path) .builtin) s.rows) := by
  induction skills using List.reverseRecOn with
  | nil => exact ⟨nodup, fun row mem => .inr ⟨mem, fun _ _ here => nomatch here⟩, fun _ => rfl⟩
  | append_singleton skills skill ih =>
    rw [List.foldl_concat]
    constructor
    · exact Keyed.nodup_upsert (fun _ _ => rfl) ih.nodup
    · intro row mem
      obtain rfl | ⟨mem, other⟩ := (mem_upsert ih.nodup).mp mem
      · exact .inl ⟨skill, List.mem_append_right _ (List.mem_singleton_self _), rfl⟩
      · obtain ⟨skill', here, rfl⟩ | ⟨old, absent⟩ := ih.new row mem
        · exact .inl ⟨skill', List.mem_append_left _ here, rfl⟩
        · refine .inr ⟨old, fun global => ?_⟩
          rw [List.forall_mem_append, List.forall_mem_singleton]
          exact ⟨absent global, fun same => other (by rw [SkillRow.key, global, same])⟩
    · intro other
      rw [upsert, Keyed.filter_upsert, ih.others other]
      · rfl
      · intro row same
        have global : row.userId = none := (Prod.mk.inj same).1
        simp [global]

lemma mem_corpus {skill : ScannedSkill}
    (here : skill ∈ builtinSkills s.builtinDirs top auto) : skill ∈ s.corpusSkills := by
  obtain here | here := List.mem_append.mp here
  · refine List.mem_append_left _ ?_
    split_ifs at here
    · exact here
    · cases here
  · refine List.mem_append_right _ ?_
    split_ifs at here
    · exact here
    · cases here

lemma Kept.syncBuiltin (h : s.Kept) (fits : s.Fits top auto) :
    (s.syncBuiltinSkills top auto).Sound := by
  have replaced := syncBuiltin_rows h.nodup (builtinSkills s.builtinDirs top auto)
  unfold syncBuiltinSkills
  generalize (builtinSkills s.builtinDirs top auto).foldl _ s.rows = rows at replaced
  have isOld : ∀ row ∈ rows, ∀ owner, row.userId = some owner → row ∈ s.rows := by
    intro row mem owner own
    obtain ⟨skill, -, rfl⟩ | ⟨old, -⟩ := replaced.new row mem
    · cases own
    · exact old
  refine ⟨⟨replaced.nodup, fun row mem owner own => ?_, fun row mem global => ?_, ?_, ?_⟩,
    fun row mem global => ?_⟩
  · have old := h.owned row (isOld row mem owner own) owner own
    exact old.of_dirs rfl old.dir
  · obtain ⟨skill, here, rfl⟩ | ⟨old, -⟩ := replaced.new row mem
    · exact ⟨(fits.1 skill here).1, rfl, rfl, _, rfl⟩
    · exact h.global row old global
  · intro row mem global own mem' isSome named
    obtain ⟨owner, isSome'⟩ := Option.isSome_iff_exists.mp isSome
    have old' := isOld own mem' owner isSome'
    obtain ⟨skill, here, rfl⟩ | ⟨old, -⟩ := replaced.new row mem
    · exact (fits.1 skill here).2 own old' isSome named
    · exact h.shown row old global own old' isSome named
  · intro a memA b memB owner owner' ownA ownB
    exact h.apart a (isOld a memA owner ownA) b (isOld b memB owner' ownB) owner owner' ownA ownB
  · obtain ⟨skill, here, rfl⟩ | ⟨old, absent⟩ := replaced.new row mem
    · exact ⟨skill, mem_corpus here, rfl, rfl⟩
    · obtain ⟨skill, here, named⟩ | current := fits.2 row old global
      · exact absurd named (absent global skill here)
      · exact current

lemma lookup_copied {dir content : String} {slot : String × String} (ne : slot ≠ (dir, name)) :
    Keyed.lookup UserSkillDir.key slot ({ dir, name, content } :: (s.removeDir dir name).userDirs) =
      Keyed.lookup UserSkillDir.key slot s.userDirs := by
  have other : UserSkillDir.key { dir, name, content } ≠ slot := Ne.symm ne
  rw [Keyed.lookup_cons, if_neg other, removeDir, Keyed.lookup_remove, if_neg (Ne.symm ne)]

lemma lookup_removeDir {dir : String} {slot : String × String} (ne : slot ≠ (dir, name)) :
    Keyed.lookup UserSkillDir.key slot (s.removeDir dir name).userDirs =
      Keyed.lookup UserSkillDir.key slot s.userDirs := by
  rw [removeDir, Keyed.lookup_remove, if_neg (Ne.symm ne)]

/-- Directories but one are as they were. -/
structure Beside (s t : SkillCatalog) (path : SkillPath) : Prop where
  isDir : ∀ other, other ≠ path → t.isDir other = s.isDir other
  content : ∀ other, other ≠ path → t.content other = s.content other

lemma beside_of_lookup {t : SkillCatalog} {dir : String} (builtin : t.builtinDirs = s.builtinDirs)
    (legacy : t.legacyDirs = s.legacyDirs) (same : ∀ slot, slot ≠ (dir, name) →
      Keyed.lookup UserSkillDir.key slot t.userDirs = Keyed.lookup UserSkillDir.key slot s.userDirs) :
    Beside s t (.user dir name) := by
  have apart : ∀ dir' name', SkillPath.user dir' name' ≠ .user dir name → (dir', name') ≠ (dir, name) :=
    fun dir' name' ne same => ne (by rw [(Prod.mk.inj same).1, (Prod.mk.inj same).2])
  refine ⟨fun other ne => ?_, fun other ne => ?_⟩
  · cases other with
    | builtin path => simp [SkillCatalog.isDir, builtin]
    | user dir' name' => simp [SkillCatalog.isDir, same _ (apart _ _ ne)]
    | legacy path => simp [SkillCatalog.isDir, legacy]
  · cases other with
    | builtin path => rfl
    | user dir' name' => simp [SkillCatalog.content, same _ (apart _ _ ne)]
    | legacy path => rfl

inductive Imported (s : SkillCatalog) (userId name content : String) : SkillCatalog → Prop where
  | unchanged : Imported s userId name content s
  | removed
    (own : ∀ row ∈ s.rows, row.path = target userId name →
      row.userId = some userId ∧ row.deleted = true) :
    Imported s userId name content (s.removeDir (userSkillRootForUser userId) name)
  | copied (valid : validFilename name = true)
    (own : ∀ row ∈ s.rows, row.path = target userId name → row.userId = some userId)
    (rows : List SkillRow)
    (either : rows = s.rows ∨ rows = upsert s.rows (some userId) name (target userId name) .user) :
    Imported s userId name content
      { s with
        rows, userDirs := { dir := userSkillRootForUser userId, name, content } ::
          (s.removeDir (userSkillRootForUser userId) name).userDirs }

lemma importSkill_cases {content : String} {outcome : ImportOutcome}
    (heeded : s.Heeded (.importSkill userId name content outcome)) :
    Imported s userId name content (s.importSkill userId name content outcome) := by
  obtain rfl | invalid | ⟨ne, own⟩ := heeded
  · rw [SkillCatalog.importSkill, if_pos (by simp)]
    exact .unchanged
  · rw [SkillCatalog.importSkill, if_pos (by simp [invalid])]
    exact .unchanged
  · unfold importSkill
    dsimp only
    split_ifs with stays
    · exact .unchanged
    · have valid : validFilename name = true := by
        by_contra invalid
        simp [invalid] at stays
      cases outcome with
      | copyFails => simp at stays
      | renameFails => exact .removed fun row mem same => ⟨(own row mem same).1, (own row mem same).2 rfl⟩
      | upsertFails => exact .copied valid (fun row mem same => (own row mem same).1) s.rows (.inl rfl)
      | imported => exact .copied valid (fun row mem same => (own row mem same).1) _ (.inr rfl)

lemma beside_copied {content : String} (rows : List SkillRow) : Beside s { s with
      rows, userDirs := { dir := userSkillRootForUser userId, name, content } ::
        (s.removeDir (userSkillRootForUser userId) name).userDirs } (target userId name) :=
  beside_of_lookup rfl rfl fun _ ne => lookup_copied ne

lemma beside_removed : Beside s (s.removeDir (userSkillRootForUser userId) name) (target userId name) :=
  beside_of_lookup rfl rfl fun _ ne => lookup_removeDir ne

lemma Sound.dirs {t : SkillCatalog} (h : s.Sound) (rows : t.rows = s.rows)
    (builtin : t.builtinDirs = s.builtinDirs) (legacy : t.legacyDirs = s.legacyDirs)
    (dirs : ∀ row ∈ s.rows, row.userId.isSome → row.deleted = false → t.isDir row.path = true) :
    t.Sound := by
  have kept := h.kept
  refine ⟨⟨?_, ?_, ?_, ?_, ?_⟩, ?_⟩
  · rw [rows]
    exact kept.nodup
  · rw [rows]
    intro row mem owner own
    exact (kept.owned row mem owner own).of_dirs legacy (dirs row mem (by rw [own]; rfl))
  · rw [rows]
    exact kept.global
  · rw [rows]
    exact kept.shown
  · rw [rows]
    exact kept.apart
  · unfold Current corpusSkills
    rw [rows, builtin]
    exact h.current

lemma Sound.upsert (h : s.Sound) (valid : validFilename name = true)
    (there : s.isDir (target userId name) = true)
    (apart : ∀ row ∈ s.rows, row.path = target userId name →
      ∀ owner, row.userId = some owner → owner = userId) :
    Sound { s with rows := Skills.upsert s.rows (some userId) name (target userId name) .user } := by
  have kept := h.kept
  have mem_iff (row : SkillRow) :
      row ∈ Skills.upsert s.rows (some userId) name (target userId name) .user ↔ _ := mem_upsert kept.nodup
  refine ⟨⟨Keyed.nodup_upsert (fun _ _ => rfl) kept.nodup, ?_, ?_, ?_, ?_⟩, ?_⟩
  · intro row mem owner own
    obtain rfl | ⟨old, -⟩ := (mem_iff _).mp mem
    · obtain rfl := Option.some.inj own
      exact ⟨.inl rfl, valid, rfl, rfl, fun _ => there⟩
    · exact (kept.owned row old owner own).of_dirs rfl (kept.owned row old owner own).dir
  · intro row mem global
    obtain rfl | ⟨old, -⟩ := (mem_iff _).mp mem
    · cases global
    · exact kept.global row old global
  · intro row mem global own mem' isSome named
    obtain rfl | ⟨old', -⟩ := (mem_iff _).mp mem'
    · rfl
    · obtain rfl | ⟨old, -⟩ := (mem_iff _).mp mem
      · cases global
      · exact kept.shown row old global own old' isSome named
  · intro a memA b memB owner owner' ownA ownB same
    obtain rfl | ⟨oldA, -⟩ := (mem_iff _).mp memA
    · obtain rfl := Option.some.inj ownA
      obtain rfl | ⟨oldB, -⟩ := (mem_iff _).mp memB
      · exact Option.some.inj ownB
      · exact (apart b oldB same.symm owner' ownB).symm
    · obtain rfl | ⟨oldB, -⟩ := (mem_iff _).mp memB
      · obtain rfl := Option.some.inj ownB
        exact apart a oldA same owner ownA
      · exact kept.apart a oldA b oldB owner owner' ownA ownB same
  · intro row mem global
    obtain rfl | ⟨old, -⟩ := (mem_iff _).mp mem
    · cases global
    · exact h.current row old global

lemma Sound.importSkill {content : String} {outcome : ImportOutcome} (h : s.Sound)
    (heeded : s.Heeded (.importSkill userId name content outcome)) :
    (s.importSkill userId name content outcome).Sound := by
  have isDir : ∀ row ∈ s.rows, row.deleted = false → s.isDir row.path = true := fun row => h.isDir
  generalize after : s.importSkill userId name content outcome = t
  obtain _ | own | ⟨valid, own, rows, either⟩ := after ▸ importSkill_cases heeded
  · exact h
  · refine h.dirs rfl rfl rfl fun row mem _ live => ?_
    rw [beside_removed.isDir row.path fun same => ?_]
    · exact isDir row mem live
    · rw [(own row mem same).2] at live
      cases live
  · have copied : Sound { s with userDirs := { dir := userSkillRootForUser userId, name, content } ::
        (s.removeDir (userSkillRootForUser userId) name).userDirs } := by
      refine h.dirs rfl rfl rfl fun row mem _ live => ?_
      by_cases same : row.path = target userId name
      · rw [same]
        simp [SkillCatalog.isDir, target, Keyed.lookup_cons, UserSkillDir.key]
      · exact ((beside_copied s.rows).isDir row.path same).trans (isDir row mem live)
    obtain rfl | rfl := either
    · exact copied
    · refine copied.upsert valid ?_ fun row mem same owner isOwner => ?_
      · simp [SkillCatalog.isDir, target, Keyed.lookup_cons, UserSkillDir.key]
      · exact Option.some.inj (isOwner.symm.trans (own row mem same))

lemma mem_deleteByName (mem : row ∈ deleteByNameForUser rows userId name) :
    row ∈ rows ∧ ¬ (row.userId = some userId ∧ row.name = name ∧ row.deleted = false) ∨
      ∃ old ∈ rows, old.userId = some userId ∧ old.name = name ∧ old.deleted = false ∧
        row = { old with enabled := false, deleted := true } := by
  obtain ⟨old, there, rfl⟩ := List.mem_map.mp mem
  split_ifs with deletes
  · exact .inr ⟨old, there, deletes.1, deletes.2.1, deletes.2.2, rfl⟩
  · exact .inl ⟨there, deletes⟩

lemma keys_deleteByName :
    (deleteByNameForUser rows userId name).map SkillRow.key = rows.map SkillRow.key := by
  rw [deleteByNameForUser, List.map_map]
  refine List.map_congr_left fun row _ => ?_
  rw [Function.comp_apply]
  split_ifs <;> rfl

lemma Sound.deleteRows (h : s.Sound)
    (unshared : (∃ row ∈ s.rows, row.userId = some userId ∧ row.name = name ∧
    row.deleted = false) → ∀ row ∈ s.rows, row.userId = none → row.name ≠ name) :
    Sound { s with rows := deleteByNameForUser s.rows userId name } := by
  have kept := h.kept
  have origin : ∀ row ∈ deleteByNameForUser s.rows userId name, ∃ old ∈ s.rows,
      old.userId = row.userId ∧ old.path = row.path := by
    intro row mem
    obtain ⟨old, -⟩ | ⟨old, there, -, -, -, rfl⟩ := mem_deleteByName mem
    · exact ⟨row, old, rfl, rfl⟩
    · exact ⟨old, there, rfl, rfl⟩
  have global_mem : ∀ row ∈ deleteByNameForUser s.rows userId name, row.userId = none → row ∈ s.rows := by
    intro row mem global
    obtain ⟨old, -⟩ | ⟨old, -, own, -, -, rfl⟩ := mem_deleteByName mem
    · exact old
    · rw [own] at global
      cases global
  refine ⟨⟨?_, ?_, fun row mem global => kept.global row (global_mem row mem global) global, ?_, ?_⟩,
    fun row mem global => h.current row (global_mem row mem global) global⟩
  · rw [keys_deleteByName]
    exact kept.nodup
  · intro row mem owner own
    obtain ⟨old, -⟩ | ⟨old, there, -, -, -, rfl⟩ := mem_deleteByName mem
    · exact (kept.owned row old owner own).of_dirs rfl (kept.owned row old owner own).dir
    · have owned := kept.owned old there owner own
      exact ⟨owned.home, owned.valid, rfl, owned.source, fun live => nomatch live⟩
  · intro row mem global own mem' isSome named
    have old := global_mem row mem global
    obtain ⟨old', -⟩ | ⟨deleted, there, isOwn, same, live, rfl⟩ := mem_deleteByName mem'
    · exact kept.shown row old global own old' isSome named
    · exact absurd (named.symm.trans same) (unshared ⟨deleted, there, isOwn, same, live⟩ row old global)
  · intro a memA b memB owner owner' ownA ownB same
    obtain ⟨oldA, thereA, sameA, pathA⟩ := origin a memA
    obtain ⟨oldB, thereB, sameB, pathB⟩ := origin b memB
    exact kept.apart oldA thereA oldB thereB owner owner' (sameA.trans ownA) (sameB.trans ownB)
      (pathA.trans (same.trans pathB.symm))

lemma delete_eq : s.delete userId name = s ∨
    s.delete userId name = { s with rows := deleteByNameForUser s.rows userId name } := by
  unfold SkillCatalog.delete
  split_ifs
  · exact .inl rfl
  · split
    · exact .inl rfl
    · exact .inr rfl

lemma Sound.delete (h : s.Sound) (heeded : s.Heeded (.delete userId name)) :
    (s.delete userId name).Sound := by
  obtain same | same := @delete_eq s userId name
  · rw [same]
    exact h
  · rw [same]
    exact h.deleteRows fun own => (heeded own).2

lemma Kept.resolve_own (h : s.Kept) {path : SkillPath} (resolved : s.resolve userId name = some path)
    (mem : row ∈ s.rows) (same : row.path = path) : row.userId = none ∨ row.userId = some userId := by
  refine or_iff_not_imp_left.mpr fun owned => ?_
  obtain ⟨owner, isOwner⟩ := Option.ne_none_iff_exists'.mp owned
  have home := (h.owned row mem owner isOwner).home
  have outside : ∀ builtin, path ≠ .builtin builtin := by
    rintro builtin rfl
    obtain here | ⟨-, _, -, here⟩ := home
    · rw [same] at here
      cases here
    · rw [same] at here
      cases here
  unfold SkillCatalog.resolve at resolved
  dsimp only at resolved
  split at resolved
  · split_ifs at resolved
    · exact absurd (Option.some.inj resolved).symm (outside _)
    · exact absurd (Option.some.inj resolved).symm (outside _)
  case h_2 found foundRow =>
    have there := List.mem_filter.mp (ownFirst_mem foundRow)
    split_ifs at resolved
    · have path := Option.some.inj resolved
      have visible : found.visibleTo userId = true := (Bool.and_eq_true_iff.mp there.2).1
      obtain global | own := visibleTo_iff.mp visible
      · obtain ⟨builtin, is⟩ := (h.global found there.1 global).path
        exact absurd (path.symm.trans is) (outside builtin)
      · rw [isOwner, h.apart row mem found there.1 owner userId isOwner own (same.trans path.symm)]
    · exact absurd (Option.some.inj resolved).symm (outside _)
    · exact absurd (Option.some.inj resolved).symm (outside _)

lemma Sound.resolves (h : s.Sound) (listed : row ∈ s.listSkills userId) :
    (s.materialize userId [row.name]).2 = [⟨row.name, row.path⟩] := by
  have found := mem_listSkills.mp listed
  obtain ⟨mem, -, -, -⟩ := mem_of_findForUser found
  have valid : validFilename row.name = true := by
    cases owner : row.userId with
    | none => exact (h.kept.global row mem owner).valid
    | some userId => exact (h.kept.owned row mem userId owner).valid
  have resolved := h.syncDisk.resolve ((syncDisk_rows h.kept.nodup).found _ _ found)
  simp [materialize, valid, resolved]

lemma Sound.resolvesOwn (h : s.Sound) {names : List String} {skill : ResolvedAgentSkill}
    (given : skill ∈ (s.materialize userId names).2) (mem : row ∈ s.rows)
    (same : row.path = skill.sourcePath) : row.userId = none ∨ row.userId = some userId := by
  obtain ⟨name, -, resolved⟩ := List.mem_filterMap.mp ((List.perm_insertionSort _ _).mem_iff.mp given)
  split_ifs at resolved
  obtain ⟨path, isPath, rfl⟩ := Option.map_eq_some_iff.mp resolved
  exact h.kept.syncDisk.resolve_own isPath ((syncDisk_rows h.kept.nodup).old mem) same

lemma filter_deleteByName {other : String} (ne : other ≠ userId) :
    (deleteByNameForUser rows userId name).filter (·.userId = some other) =
      rows.filter (·.userId = some other) := by
  induction rows with
  | nil => rfl
  | cons row rows ih =>
    rw [deleteByNameForUser, List.map_cons, ← deleteByNameForUser, List.filter_cons, List.filter_cons, ih]
    by_cases deletes : row.userId = some userId ∧ row.name = name ∧ row.deleted = false
    · simp [deletes, Ne.symm ne]
    · simp [deletes]

lemma filter_upsert {owner : Option String} {other : String} {path : SkillPath} {source : SkillSource}
    (ne : owner ≠ some other) : (upsert rows owner name path source).filter (·.userId = some other) =
      rows.filter (·.userId = some other) := by
  refine Keyed.filter_upsert (decide_eq_false ne) fun row same => ⟨?_, decide_eq_false ne⟩
  have owner' : row.userId = owner := (Prod.mk.inj same).1
  rw [owner']
  exact decide_eq_false ne

lemma content_congr {t : SkillCatalog} {path : SkillPath} (same : t.userDirs = s.userDirs) :
    t.content path = s.content path := by
  unfold content
  rw [same]

lemma userDirs_syncDisk : (s.syncDiskUserSkills userId).userDirs = s.userDirs := by
  rw [syncDisk_eq]

lemma syncForUser_others {other : String} (nodup : (s.rows.map SkillRow.key).Nodup)
    (ne : other ≠ userId) : (s.syncForUser userId top auto).rows.filter (·.userId = some other) =
      s.rows.filter (·.userId = some other) := by
  have known : s.Backfilled userId _ := syncDisk_rows nodup
  exact ((syncBuiltin_rows known.nodup _).others other).trans (known.others other ne)

lemma Sound.importOthers {content : String} {outcome : ImportOutcome} {other : String}
    (heeded : s.Heeded (.importSkill userId name content outcome)) (ne : other ≠ userId) :
    (s.importSkill userId name content outcome).rows.filter (·.userId = some other) =
        s.rows.filter (·.userId = some other) ∧
      ∀ row ∈ s.rows, row.userId = some other →
        (s.importSkill userId name content outcome).content row.path = s.content row.path := by
  generalize after : s.importSkill userId name content outcome = t
  obtain _ | own | ⟨-, own, rows, either⟩ := after ▸ importSkill_cases heeded
  · exact ⟨rfl, fun _ _ _ => rfl⟩
  · refine ⟨rfl, fun row mem theirs => beside_removed.content _ fun same => ne ?_⟩
    exact Option.some.inj (theirs.symm.trans (own row mem same).1)
  · refine ⟨?_, fun row mem theirs => (beside_copied rows).content _ fun same => ne ?_⟩
    · obtain rfl | rfl := either
      · rfl
      · exact filter_upsert fun same => ne (Option.some.inj same).symm
    · exact Option.some.inj (theirs.symm.trans (own row mem same))

lemma others_next (h : s.Sound) (heeded : s.Heeded e) {other : String} (ne : other ≠ e.actor) :
    (s.next e).rows.filter (·.userId = some other) = s.rows.filter (·.userId = some other) ∧
      ∀ row ∈ s.rows, row.userId = some other → (s.next e).content row.path = s.content row.path := by
  have nodup := h.kept.nodup
  cases e with
  | start corpus isLocal top auto =>
    dsimp only [SkillCatalog.next, SkillCatalog.start]
    split_ifs
    · exact ⟨syncForUser_others (s := { s with builtinDirs := corpus }) nodup ne,
        fun _ _ _ => content_congr userDirs_syncDisk⟩
    · exact ⟨(syncBuiltin_rows nodup _).others other, fun _ _ _ => content_congr rfl⟩
  | sync userId top auto =>
    exact ⟨syncForUser_others nodup ne, fun _ _ _ => content_congr userDirs_syncDisk⟩
  | importSkill => exact Sound.importOthers heeded ne
  | delete userId name =>
    dsimp only [SkillCatalog.next]
    obtain same | same := @delete_eq s userId name
    · rw [same]
      exact ⟨rfl, fun _ _ _ => rfl⟩
    · rw [same]
      exact ⟨filter_deleteByName ne, fun _ _ _ => content_congr rfl⟩
  | materialize =>
    exact ⟨(syncDisk_rows nodup).others other ne, fun _ _ _ => content_congr userDirs_syncDisk⟩

lemma Sound.deletes (h : s.Sound) (heeded : s.Heeded (.delete userId name))
    (own : ∃ row ∈ s.rows, row.userId = some userId ∧ row.name = name ∧ row.deleted = false) :
    (∀ row ∈ (s.delete userId name).listSkills userId, row.name = name → row.userId = none) ∧
      ∀ row ∈ (s.delete userId name).rows, row.userId = none → row.name = name →
        row ∈ (s.delete userId name).listSkills userId := by
  obtain ⟨unprotected, unshared⟩ := heeded own
  obtain ⟨row, mem, isOwn, rfl, live⟩ := own
  have owned := h.kept.owned row mem userId isOwn
  have found : findByNameForUser s.rows userId row.name ≠ none := by
    intro absent
    have empty := List.filter_eq_nil_iff.mp (ownFirst_eq_none.mp absent) row mem
    simp [visibleTo_iff, isOwn, SkillRow.live, owned.enabled, live] at empty
  have deleted : s.delete userId row.name =
      { s with rows := deleteByNameForUser s.rows userId row.name } := by
    rw [SkillCatalog.delete, if_neg (by simp [owned.valid, unprotected])]
    split
    · exact absurd ‹_› found
    · rfl
  rw [deleted]
  refine ⟨fun other listed named => ?_, fun other there global named => ?_⟩
  · obtain ⟨there, owner, -, undeleted⟩ := mem_of_findForUser (mem_listSkills.mp listed)
    refine owner.resolve_right fun mine => ?_
    obtain ⟨-, kept⟩ | ⟨_, -, -, -, -, rfl⟩ := mem_deleteByName there
    · exact kept ⟨mine, named, undeleted⟩
    · cases undeleted
  · obtain ⟨old, -⟩ | ⟨old, -, isOwn, -, -, rfl⟩ := mem_deleteByName there
    · exact absurd named (unshared other old global)
    · rw [isOwn] at global
      cases global

lemma Sound.syncForUser (h : s.Kept) (fits : s.Fits top auto) :
    (s.syncForUser userId top auto).Sound :=
  h.syncDisk.syncBuiltin (fits.syncDisk h)

lemma Sound.next (h : s.Sound) (heeded : s.Heeded e) : (s.next e).Sound := by
  cases e with
  | start corpus isLocal top auto =>
    have kept : Kept { s with builtinDirs := corpus } := by
      have kept := h.kept
      refine ⟨kept.nodup, fun row mem owner own => ?_, kept.global, kept.shown, kept.apart⟩
      have owned := kept.owned row mem owner own
      refine owned.of_dirs rfl fun live => ?_
      rw [← owned.dir live]
      obtain same | ⟨-, directory, -, same⟩ := owned.home
      · rw [same]
        rfl
      · rw [same]
        rfl
    dsimp only [SkillCatalog.next, SkillCatalog.start]
    split_ifs
    · exact Sound.syncForUser kept heeded
    · exact kept.syncBuiltin heeded
  | sync userId top auto => exact Sound.syncForUser h.kept heeded
  | importSkill => exact h.importSkill heeded
  | delete => exact h.delete heeded
  | materialize => exact h.syncDisk

lemma Sound.agrees (h : s.Sound) (heeded : s.Heeded e) : Agrees s e := by
  have after := h.next heeded
  constructor
  · exact fun userId row listed => after.resolves listed
  · rintro userId name rfl own
    exact h.deletes heeded own
  · intro _ userId row listed builtin
    obtain ⟨mem, -, -, -⟩ := mem_of_findForUser (mem_listSkills.mp listed)
    cases owner : row.userId with
    | none => exact after.current row mem owner
    | some userId =>
      rw [(after.kept.owned row mem userId owner).source] at builtin
      cases builtin
  · exact fun userId row listed => (mem_of_findForUser (mem_listSkills.mp listed)).2.1
  · exact fun userId names skill given row mem same => after.resolvesOwn given mem same
  · exact fun userId ne => others_next h heeded ne

lemma sound_fresh (userSkillsDir : List String) (legacyDirs : List Directory) :
    (fresh userSkillsDir legacyDirs).Sound := by
  refine ⟨⟨List.nodup_nil, ?_, ?_, ?_, ?_⟩, ?_⟩ <;> exact fun row mem => nomatch mem

/-- In every run in which the corpus loses no skill and gains none of a name that a user has deleted,
skills are only deleted where none of their name is built in, and imports go to directories of the
user's own and do not fail half way: what is listed is what an agent is given, a user's skill can be
deleted, built-in skills are those of the corpus, and no user sees or changes another's. -/
theorem catalog_agrees (userSkillsDir : List String) (legacyDirs : List Directory)
    (events : List SkillEvent)
    (heeded : LTS.EnabledAll Heeded next (fresh userSkillsDir legacyDirs) events) :
    LTS.EnabledAll Agrees next (fresh userSkillsDir legacyDirs) events :=
  heeded.imp (fun _ _ h heeds => ⟨h.agrees heeds, h.next heeds⟩) (sound_fresh userSkillsDir legacyDirs)

/-- Two users import skills of one name, over a built-in one and one on disk, and one deletes another. -/
theorem catalog_agrees_imported :
    LTS.EnabledAll Agrees next
      (fresh ["data", "skills"] [⟨["old"], some (some "legacy")⟩, ⟨["pdf"], some none⟩])
      [ .start [⟨["pdf"], some (some "pdf")⟩, ⟨["auto-inject"], none⟩,
          ⟨["auto-inject", "cron"], some (some "")⟩]
          true true true,
        .importSkill "user_a" "pdf" "a" .imported, .importSkill "user_b" "pdf" "b" .imported,
        .importSkill "user_a" "../pdf" "x" .imported, .importSkill "user_a" "notes" "n" .imported,
        .delete "user_a" "notes", .delete "user_b" "pdf2",
        .materialize "user_a" ["pdf", "cron", "legacy"],
        .start [⟨["docs", "pdf"], some (some "pdf")⟩, ⟨["auto-inject", "cron"], some (some "cron")⟩,
          ⟨["new"], some (some "new")⟩] false true true,
        .delete "system_default_user" "legacy", .importSkill "user_a" "notes" "m" .imported,
        .sync "system_default_user" true false ] :=
  catalog_agrees _ _ _ (by decide)

/-- A user deletes a skill, and then one of its name is built in. -/
theorem deleted_hides_builtin :
    ¬ ∀ userSkillsDir legacyDirs events,
      LTS.EnabledAll Agrees next (fresh userSkillsDir legacyDirs) events := by
  intro h
  have law := LTS.EnabledAll.last <| h ["data", "skills"] []
    ([.importSkill "user_a" "pdf" "a" .imported, .delete "user_a" "pdf"] ++
      [.start [⟨["pdf"], some (some "pdf")⟩] false true true])
  have resolves := law.resolves "user_a"
  revert resolves
  decide

end SkillCatalog

end KiCore.Extension.Skills

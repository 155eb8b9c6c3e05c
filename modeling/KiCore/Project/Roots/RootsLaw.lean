import KiCore.Project.Roots.Service
import KiCore.Lib.Pool

/-!
# Roots do not nest

`attach_folder` compares the new folder with the entries that it has listed, and inserts its entry in a later
statement. Two calls that attach a folder and one below it both pass the comparison. `roots_apart` says that
the roots of a project stay apart in every run in which no overlapping entry is added between the list and
the insert, and that then all else holds that a file and its root are identified by.
-/

namespace KiCore.Project.Roots

open KiCore.Lib

variable {a b entry : ProjectExplorerRow} {folder root target : FolderPath} {userId : String}
  {projectId peId n : Nat} {ignorePathCasing : Bool} {uri : Uri}

/-- One of the folders is the other one, or contains it. -/
def Overlap (a b : FolderPath) : Prop := a <+: b ∨ b <+: a

instance : Decidable (Overlap folder root) := inferInstanceAs (Decidable (_ ∨ _))

lemma Overlap.symm (h : Overlap folder root) : Overlap root folder := Or.symm h

lemma Overlap.of_below (h : folder <+: target) (h' : root <+: target) : Overlap folder root :=
  List.prefix_or_prefix_of_prefix h h'

/-- There are no symbolic links: but for casing, a folder is where its path says. -/
def NoLinks (ignorePathCasing : Bool) (realpath : FolderPath → Option FolderPath) : Prop :=
  ∀ path real, realpath path = some real → foldCasing ignorePathCasing real = foldCasing ignorePathCasing path

def Stage.wrote : Stage → Option Nat
  | .created _ _ peId | .confirmed _ peId | .inserted _ peId => some peId
  | _ => none

namespace ProjectService

variable {s t : ProjectService} {e : ProjectEvent} {stage : Stage} {answered : Bool}

structure RootsApart (s : ProjectService) (e : ProjectEvent) : Prop where
  workspace : ∀ project ∈ (s.next e).store.projects,
    (((s.next e).store.listEntries project.userId project.projectId).filter (·.role = .workspace)).length = 1
  apart : ∀ userId projectId,
    ((s.next e).store.listEntries userId projectId).Pairwise fun a b => ¬ Overlap a.folder b.folder
  /-- no user has two workspaces in a folder -/
  single : ∀ userId folder, ((s.next e).store.entries.filter fun entry =>
    entry.ownerUserId = userId ∧ entry.role = .workspace ∧ entry.folder = folder).length ≤ 1
  focused : ∀ (n : Nat) folder entry, (s.next e).calls[n]? = some (.focused folder entry) →
    s.calls[n]? ≠ some (.focused folder entry) → entry ∈ s.store.entries ∧ entry.folder <+: folder
  /-- the entry whose root contains a file is the one that is found -/
  owning : ∀ project ∈ (s.next e).store.projects, ∀ realpath, NoLinks s.ignorePathCasing realpath →
    ∀ target, ∀ entry ∈ (s.next e).store.listEntries project.userId project.projectId,
    ∀ root, realpath entry.folder = some root → root <+: target →
      (s.next e).store.findOwningEntry realpath project.userId project.projectId target =
        .ok (some (entry.peId, target.drop root.length))
  /-- what a call writes it inserts, or it has succeeded -/
  writes : (s.next e).store ≠ s.store → ∃ (n : Nat) (stage : Stage), (s.next e).calls[n]? = some stage ∧
    s.calls[n]? ≠ some stage ∧ (stage = .finished ∨ stage.wrote.isSome)
  /-- a call that fails leaves no entry that it has inserted -/
  errors : ∀ (n : Nat) error, (s.next e).calls[n]? = some (.failed error) →
    s.calls[n]? ≠ some (.failed error) → (s.next e).store = s.store ∧
      ∀ stage ∈ s.calls[n]?, ∀ peId ∈ stage.wrote, ∀ entry ∈ s.store.entries, entry.peId ≠ peId

/-- No overlapping entry has been added since the entries were listed; what a call has inserted it reads
back. -/
def Heeded (s : ProjectService) : ProjectEvent → Prop
  | .advance n answered =>
    match s.calls[n]? with
    | some (.checked userId projectId folder listed) => answered →
      ∀ entry ∈ s.store.entriesOf userId projectId, Overlap entry.folder folder →
        entry.folder = folder ∨ entry.folder ∈ listed.map ProjectExplorerRow.folder
    | some stage => stage.wrote.isSome → answered
    | none => True
  | _ => True

instance : Decidable (s.Heeded e) := by
  unfold Heeded
  split
  · split <;> infer_instance
  · infer_instance

end ProjectService

namespace ProjectStore

variable {s s' : ProjectStore} {entries : List ProjectExplorerRow}

/-- What holds of two entries. -/
structure Distinct (a b : ProjectExplorerRow) : Prop where
  peId : a.peId ≠ b.peId
  project : a.projectId = b.projectId →
    ¬ (a.role = .workspace ∧ b.role = .workspace) ∧ ¬ Overlap a.folder b.folder
  workspace : a.role = .workspace → b.role = .workspace → a.ownerUserId = b.ownerUserId → a.folder ≠ b.folder

instance : Std.Symm Distinct where
  symm _ _ h :=
    { peId := h.peId.symm
      project := fun same => ⟨fun both => (h.project same.symm).1 both.symm,
        fun overlap => (h.project same.symm).2 overlap.symm⟩
      workspace := fun wsB wsA owner => (h.workspace wsA wsB owner.symm).symm }

structure Sound (ignorePathCasing : Bool) (s : ProjectStore) : Prop where
  distinct : s.entries.Pairwise Distinct
  past : ∀ entry ∈ s.entries, entry.peId < s.nextPeId
  owned : ∀ entry ∈ s.entries, s.users[entry.projectId]? = some entry.ownerUserId
  folded : ∀ entry ∈ s.entries, foldCasing ignorePathCasing entry.folder = entry.folder
  users : ∀ project ∈ s.projects, s.users[project.projectId]? = some project.userId
  /-- a project has a workspace entry -/
  has : ∀ project ∈ s.projects, ∃ entry ∈ s.entries,
    entry.projectId = project.projectId ∧ entry.role = .workspace
  /-- a workspace entry has a project -/
  home : ∀ entry ∈ s.entries, entry.role = .workspace →
    ∃ project ∈ s.projects, project.projectId = entry.projectId

lemma mem_entriesOf : entry ∈ s.entriesOf userId projectId ↔
    entry ∈ s.entries ∧ entry.projectId = projectId ∧ entry.ownerUserId = userId := by
  simp [entriesOf]

lemma mem_listEntries : entry ∈ s.listEntries userId projectId ↔
    entry ∈ s.entries ∧ entry.projectId = projectId ∧ entry.ownerUserId = userId := by
  rw [listEntries, List.mem_insertionSort, mem_entriesOf]

def SameRow (a b : ProjectExplorerRow) : Prop := ∃ orderIndex, b = { a with orderIndex }

lemma Distinct.of_same {a' b' : ProjectExplorerRow} (h : Distinct a b) (sameA : SameRow a a')
    (sameB : SameRow b b') : Distinct a' b' := by
  obtain ⟨_, rfl⟩ := sameA
  obtain ⟨_, rfl⟩ := sameB
  exact ⟨h.peId, h.project, h.workspace⟩

/-- The rows are those from before, or have been inserted since. -/
structure Later (s s' : ProjectStore) : Prop where
  users : s.users <+: s'.users
  next : s.nextPeId ≤ s'.nextPeId
  entries : ∀ entry' ∈ s'.entries, (∃ entry ∈ s.entries, SameRow entry entry') ∨ s.nextPeId ≤ entry'.peId

lemma Later.user (later : Later s s') (owner : s.users[projectId]? = some userId) :
    s'.users[projectId]? = some userId := by
  obtain ⟨more, split⟩ := later.users
  rw [← split, List.getElem?_append_left (List.getElem?_eq_some_iff.mp owner).1, owner]

section

variable (h : Sound ignorePathCasing s)
include h

lemma Sound.filter {keep : ProjectExplorerRow → Bool}
    {projects : List ProjectRow} (sub : ∀ project ∈ projects, project ∈ s.projects)
    (has : ∀ project ∈ projects, ∀ entry ∈ s.entries, entry.projectId = project.projectId →
      entry.role = .workspace → keep entry)
    (home : ∀ project ∈ s.projects, ∀ entry ∈ s.entries, project.projectId = entry.projectId → keep entry →
      entry.role = .workspace → project ∈ projects) :
    Sound ignorePathCasing { s with entries := s.entries.filter keep, projects } ∧
      Later s { s with entries := s.entries.filter keep, projects } := by
  refine ⟨?_, List.prefix_rfl, le_rfl, fun entry mem => .inl ⟨entry, List.mem_of_mem_filter mem, _, rfl⟩⟩
  constructor
  · exact h.distinct.sublist List.filter_sublist
  · exact fun entry mem => h.past entry (List.mem_of_mem_filter mem)
  · exact fun entry mem => h.owned entry (List.mem_of_mem_filter mem)
  · exact fun entry mem => h.folded entry (List.mem_of_mem_filter mem)
  · exact fun project mem => h.users project (sub project mem)
  · intro project mem
    obtain ⟨entry, there, same, workspace⟩ := h.has project (sub project mem)
    exact ⟨entry, List.mem_filter.mpr ⟨there, has project mem entry there same workspace⟩, same, workspace⟩
  · intro entry mem workspace
    obtain ⟨mem, stays⟩ := List.mem_filter.mp mem
    obtain ⟨project, there, same⟩ := h.home entry mem workspace
    exact ⟨project, home project there entry mem same stays workspace, same⟩

lemma Sound.removeEntry
    (kept : ∀ entry ∈ s.entries, entry.peId = peId → entry.ownerUserId = userId → entry.role ≠ .workspace) :
    Sound ignorePathCasing (s.removeEntry userId peId) ∧ Later s (s.removeEntry userId peId) := by
  refine h.filter (fun _ => id) ?_ fun project mem _ _ _ _ _ => mem
  intro project _ entry there _ workspace
  exact decide_eq_true fun ⟨here, owner⟩ => kept entry there here owner workspace

lemma Sound.same_owner {project : ProjectRow} (memP : project ∈ s.projects)
    (mem : entry ∈ s.entries) (same : entry.projectId = project.projectId) :
    entry.ownerUserId = project.userId := by
  have owned := h.owned entry mem
  rw [same, h.users project memP] at owned
  exact (Option.some.inj owned).symm

lemma Sound.deleteProject :
    Sound ignorePathCasing (s.deleteProject userId projectId) ∧ Later s (s.deleteProject userId projectId) := by
  refine h.filter (fun project mem => List.mem_of_mem_filter mem) ?_ ?_
  · intro project mem entry there same _
    obtain ⟨mem, stays⟩ := List.mem_filter.mp mem
    refine decide_eq_true fun ⟨here, owner⟩ => of_decide_eq_true stays ⟨same.symm.trans here, ?_⟩
    exact (h.same_owner mem there same).symm.trans owner
  · intro project mem entry there same stays _
    refine List.mem_filter.mpr ⟨mem, decide_eq_true fun ⟨here, owner⟩ => ?_⟩
    exact of_decide_eq_true stays ⟨same.symm.trans here, (h.same_owner mem there same.symm).trans owner⟩

lemma Sound.map {f : ProjectExplorerRow → ProjectExplorerRow}
    (same : ∀ entry, SameRow entry (f entry)) :
    Sound ignorePathCasing { s with entries := s.entries.map f } ∧
      Later s { s with entries := s.entries.map f } := by
  have origin : ∀ entry' ∈ s.entries.map f, ∃ entry ∈ s.entries, SameRow entry entry' := by
    intro entry' mem
    obtain ⟨entry, there, rfl⟩ := List.mem_map.mp mem
    exact ⟨entry, there, same entry⟩
  refine ⟨?_, List.prefix_rfl, le_rfl, fun entry' mem => .inl (origin entry' mem)⟩
  constructor
  · exact List.pairwise_map.mpr (h.distinct.imp fun {a b} apart => apart.of_same (same a) (same b))
  · intro entry' mem
    obtain ⟨entry, there, _, rfl⟩ := origin entry' mem
    exact h.past entry there
  · intro entry' mem
    obtain ⟨entry, there, _, rfl⟩ := origin entry' mem
    exact h.owned entry there
  · intro entry' mem
    obtain ⟨entry, there, _, rfl⟩ := origin entry' mem
    exact h.folded entry there
  · exact h.users
  · intro project mem
    obtain ⟨entry, there, ofProject, workspace⟩ := h.has project mem
    refine ⟨f entry, List.mem_map_of_mem there, ?_⟩
    obtain ⟨_, moved⟩ := same entry
    rw [moved]
    exact ⟨ofProject, workspace⟩
  · intro entry' mem workspace
    obtain ⟨entry, there, _, rfl⟩ := origin entry' mem
    exact h.home entry there workspace

end

lemma reorder_eq (userId : String) (projectId : Nat) (positions : List (Nat × Nat))
    (entries : List ProjectExplorerRow) : ∃ f : ProjectExplorerRow → ProjectExplorerRow,
      (∀ entry, SameRow entry (f entry)) ∧
      positions.foldl (fun entries (peId, position) => setOrderIndex userId projectId position peId entries)
        entries = entries.map f := by
  induction positions generalizing entries with
  | nil => exact ⟨id, fun entry => ⟨_, rfl⟩, (List.map_id _).symm⟩
  | cons position positions ih =>
    obtain ⟨f, same, eq⟩ := ih (setOrderIndex userId projectId position.2 position.1 entries)
    refine ⟨_, ?_, eq.trans (List.map_map ..)⟩
    intro entry
    dsimp only [Function.comp_apply]
    split_ifs
    · obtain ⟨_, moved⟩ := same { entry with orderIndex := position.2 }
      exact ⟨_, moved⟩
    · exact same entry

lemma Sound.reorder (h : Sound ignorePathCasing s) {orderedPeIds : List Nat} :
    Sound ignorePathCasing (s.reorder userId projectId orderedPeIds) ∧
      Later s (s.reorder userId projectId orderedPeIds) := by
  obtain ⟨f, same, eq⟩ := reorder_eq userId projectId orderedPeIds.zipIdx s.entries
  rw [ProjectStore.reorder, eq]
  exact h.map same

lemma later_append {users : List String} {projects : List ProjectRow} (fresh : entry.peId = s.nextPeId)
    (more : s.users <+: users) :
    Later s { users, projects, entries := s.entries ++ [entry], nextPeId := s.nextPeId + 1 } := by
  refine ⟨more, Nat.le_succ _, fun entry' mem => ?_⟩
  obtain mem | mem := List.mem_append.mp mem
  · exact .inl ⟨entry', mem, _, rfl⟩
  · rw [List.mem_singleton.mp mem, fresh]
    exact .inr le_rfl

lemma violates_iff : s.violates entry ↔ ∃ other ∈ s.entries,
    (other.projectId = entry.projectId ∧ other.folder = entry.folder) ∨
    entry.role = .workspace ∧ other.role = .workspace ∧ (other.projectId = entry.projectId ∨
      other.ownerUserId = entry.ownerUserId ∧ other.folder = entry.folder) := by
  simp [violates, and_assoc]

lemma Sound.insertAttachedEntry (h : Sound ignorePathCasing s) {orderIndex : Nat}
    (inserted : s.insertAttachedEntry userId projectId folder orderIndex = some s')
    (folded : foldCasing ignorePathCasing folder = folder) (owner : s.users[projectId]? = some userId)
    (apart : ∀ entry ∈ s.entriesOf userId projectId, Overlap entry.folder folder → entry.folder = folder) :
    Sound ignorePathCasing s' ∧ Later s s' ∧ s'.nextPeId = s.nextPeId + 1 ∧
      ∀ entry ∈ s'.entries, entry.peId = s.nextPeId → entry.ownerUserId = userId := by
  unfold ProjectStore.insertAttachedEntry at inserted
  dsimp only at inserted
  split_ifs at inserted with violates
  cases inserted
  rw [violates_iff] at violates
  refine ⟨?_, later_append rfl List.prefix_rfl, rfl, ?_⟩
  · constructor
    · refine List.pairwise_append.mpr ⟨h.distinct, List.pairwise_singleton _ _, fun other mem => ?_⟩
      rw [List.forall_mem_singleton]
      refine ⟨(h.past other mem).ne, fun same => ⟨fun both => ?_, fun overlap => ?_⟩, fun _ ws => ?_⟩
      · cases both.2
      · have owned := h.owned other mem
        have same : other.projectId = projectId := same
        rw [same, owner] at owned
        have equal := apart other (mem_entriesOf.mpr ⟨mem, same, (Option.some.inj owned).symm⟩) overlap
        exact violates ⟨other, mem, .inl ⟨same, equal⟩⟩
      · cases ws
    · rw [List.forall_mem_append, List.forall_mem_singleton]
      exact ⟨fun entry mem => Nat.lt_succ_of_lt (h.past entry mem), Nat.lt_succ_self _⟩
    · rw [List.forall_mem_append, List.forall_mem_singleton]
      exact ⟨h.owned, owner⟩
    · rw [List.forall_mem_append, List.forall_mem_singleton]
      exact ⟨h.folded, folded⟩
    · exact h.users
    · intro project mem
      obtain ⟨entry, there, same⟩ := h.has project mem
      exact ⟨entry, List.mem_append_left _ there, same⟩
    · rw [List.forall_mem_append, List.forall_mem_singleton]
      exact ⟨h.home, fun ws => nomatch ws⟩
  · rw [List.forall_mem_append, List.forall_mem_singleton]
    exact ⟨fun entry mem here => absurd here (h.past entry mem).ne, fun _ => rfl⟩

lemma Sound.createProject (h : Sound ignorePathCasing s) {kind : ProjectKind}
    (created : s.createProjectWithWorkspaceEntry userId folder kind = some s')
    (folded : foldCasing ignorePathCasing folder = folder) :
    Sound ignorePathCasing s' ∧ Later s s' ∧ s'.nextPeId = s.nextPeId + 1 ∧
      ∀ entry ∈ s'.entries, entry.peId = s.nextPeId →
        entry.ownerUserId = userId ∧ entry.projectId = s.users.length ∧ entry.role = .workspace := by
  unfold ProjectStore.createProjectWithWorkspaceEntry at created
  dsimp only at created
  split_ifs at created with violates
  cases created
  rw [violates_iff] at violates
  have known : ∀ entry ∈ s.entries, entry.projectId < s.users.length :=
    fun entry mem => (List.getElem?_eq_some_iff.mp (h.owned entry mem)).1
  have still : ∀ (k : Nat) user, s.users[k]? = some user → (s.users ++ [userId])[k]? = some user :=
    fun k user there => by rw [List.getElem?_append_left (List.getElem?_eq_some_iff.mp there).1, there]
  refine ⟨?_, later_append rfl (List.prefix_append ..), rfl, ?_⟩
  · constructor
    · refine List.pairwise_append.mpr ⟨h.distinct, List.pairwise_singleton _ _, fun other mem => ?_⟩
      rw [List.forall_mem_singleton]
      refine ⟨(h.past other mem).ne, fun same => absurd same (known other mem).ne, fun ws _ owner same => ?_⟩
      exact violates ⟨other, mem, .inr ⟨rfl, ws, .inr ⟨owner, same⟩⟩⟩
    · rw [List.forall_mem_append, List.forall_mem_singleton]
      exact ⟨fun entry mem => Nat.lt_succ_of_lt (h.past entry mem), Nat.lt_succ_self _⟩
    · rw [List.forall_mem_append, List.forall_mem_singleton]
      exact ⟨fun entry mem => still _ _ (h.owned entry mem), List.getElem?_concat_length⟩
    · rw [List.forall_mem_append, List.forall_mem_singleton]
      exact ⟨h.folded, folded⟩
    · rw [List.forall_mem_append, List.forall_mem_singleton]
      exact ⟨fun project mem => still _ _ (h.users project mem), List.getElem?_concat_length⟩
    · rw [List.forall_mem_append, List.forall_mem_singleton]
      refine ⟨fun project mem => ?_, _, List.mem_append_right _ List.mem_cons_self, rfl, rfl⟩
      obtain ⟨entry, there, same⟩ := h.has project mem
      exact ⟨entry, List.mem_append_left _ there, same⟩
    · rw [List.forall_mem_append, List.forall_mem_singleton]
      refine ⟨fun entry mem ws => ?_, fun _ => ⟨_, List.mem_append_right _ List.mem_cons_self, rfl⟩⟩
      obtain ⟨project, there, same⟩ := h.home entry mem ws
      exact ⟨project, List.mem_append_left _ there, same⟩
  · rw [List.forall_mem_append, List.forall_mem_singleton]
    exact ⟨fun entry mem here => absurd here (h.past entry mem).ne, fun _ => ⟨rfl, rfl, rfl⟩⟩

lemma length_filter_le_one {P : ProjectExplorerRow → Prop} [DecidablePred P]
    {entries : List ProjectExplorerRow} (apart : entries.Pairwise fun a b => ¬ (P a ∧ P b)) :
    (entries.filter P).length ≤ 1 := by
  induction entries with
  | nil => simp
  | cons entry entries ih =>
    obtain ⟨first, rest⟩ := List.pairwise_cons.mp apart
    by_cases holds : P entry
    · have none : entries.filter P = [] :=
        List.filter_eq_nil_iff.mpr fun other mem => by simpa [holds] using first other mem
      rw [List.filter_cons_of_pos (by simpa using holds), none]
      rfl
    · rw [List.filter_cons_of_neg (by simpa using holds)]
      exact ih rest

section

variable (h : Sound ignorePathCasing s)
include h

lemma Sound.listed (userId : String) (projectId : Nat) :
    (s.listEntries userId projectId).Pairwise Distinct :=
  (List.perm_insertionSort _ _).pairwise_iff symm |>.mpr (h.distinct.sublist List.filter_sublist)

lemma Sound.apart (userId : String) (projectId : Nat) :
    (s.listEntries userId projectId).Pairwise fun a b => ¬ Overlap a.folder b.folder := by
  refine (h.listed userId projectId).imp_of_mem fun {a b} memA memB distinct => ?_
  have ofA := (mem_listEntries.mp memA).2.1
  have ofB := (mem_listEntries.mp memB).2.1
  exact (distinct.project (ofA.trans ofB.symm)).2

lemma Sound.eq_of_overlap (memA : a ∈ s.listEntries userId projectId)
    (memB : b ∈ s.listEntries userId projectId) (overlap : Overlap a.folder b.folder) : a = b := by
  by_contra ne
  have ofA := (mem_listEntries.mp memA).2.1
  have ofB := (mem_listEntries.mp memB).2.1
  exact (((h.listed userId projectId).forall memA memB ne).project (ofA.trans ofB.symm)).2 overlap

lemma Sound.workspace {project : ProjectRow} (mem : project ∈ s.projects) :
    ((s.listEntries project.userId project.projectId).filter (·.role = .workspace)).length = 1 := by
  refine le_antisymm (length_filter_le_one ?_) ?_
  · refine (h.listed project.userId project.projectId).imp_of_mem fun {a b} memA memB distinct => ?_
    have ofA := (mem_listEntries.mp memA).2.1
    have ofB := (mem_listEntries.mp memB).2.1
    exact (distinct.project (ofA.trans ofB.symm)).1
  · obtain ⟨entry, there, same, ws⟩ := h.has project mem
    have listed := mem_listEntries.mpr ⟨there, same, h.same_owner mem there same⟩
    exact List.length_pos_of_mem (List.mem_filter.mpr ⟨listed, by simpa using ws⟩)

lemma Sound.single (userId : String) (folder : FolderPath) :
    (s.entries.filter fun entry => entry.ownerUserId = userId ∧ entry.role = .workspace ∧
      entry.folder = folder).length ≤ 1 := by
  refine length_filter_le_one (h.distinct.imp fun {a b} distinct => ?_)
  rintro ⟨⟨ownA, wsA, inA⟩, ownB, wsB, inB⟩
  exact distinct.workspace wsA wsB (ownA.trans ownB.symm) (inA.trans inB.symm)

end

lemma getProject_isSome {project : ProjectRow} (mem : project ∈ s.projects) :
    (s.getProject project.userId project.projectId).isSome :=
  List.find?_isSome.mpr ⟨project, mem, by simp⟩

lemma Sound.owning (h : Sound ignorePathCasing s) {project : ProjectRow} (mem : project ∈ s.projects)
    {realpath : FolderPath → Option FolderPath} (links : NoLinks ignorePathCasing realpath)
    (listed : entry ∈ s.listEntries project.userId project.projectId) (real : realpath entry.folder = some root)
    (below : root <+: target) :
    s.findOwningEntry realpath project.userId project.projectId target =
      .ok (some (entry.peId, target.drop root.length)) := by
  obtain ⟨_, found⟩ := Option.isSome_iff_exists.mp (getProject_isSome mem)
  rw [findOwningEntry, found]
  have here : ((realpath entry.folder).bind fun root =>
      if root <+: target then some (entry.peId, target.drop root.length) else none) =
      some (entry.peId, target.drop root.length) := by
    rw [real, Option.bind_some, if_pos below]
  have finds : ((s.listEntries project.userId project.projectId).findSome? fun entry =>
      (realpath entry.folder).bind fun root =>
        if root <+: target then some (entry.peId, target.drop root.length) else none).isSome :=
    List.findSome?_isSome_iff.mpr ⟨entry, listed, by rw [here]; rfl⟩
  obtain ⟨result, first⟩ := Option.isSome_iff_exists.mp finds
  obtain ⟨other, there, result_eq⟩ := List.exists_of_findSome?_eq_some first
  obtain ⟨otherRoot, otherReal, inside⟩ := Option.bind_eq_some_iff.mp result_eq
  obtain ⟨otherBelow, -⟩ := Option.ite_none_right_eq_some.mp inside
  have overlap : Overlap other.folder entry.folder := by
    have foldOther := links _ _ otherReal
    have foldEntry := links _ _ real
    rw [h.folded other (mem_listEntries.mp there).1] at foldOther
    rw [h.folded entry (mem_listEntries.mp listed).1] at foldEntry
    rw [← foldOther, ← foldEntry]
    exact (Overlap.of_below otherBelow below).imp foldCasing_below foldCasing_below
  obtain rfl := h.eq_of_overlap there listed overlap
  rw [first, ← result_eq, here]

end ProjectStore

namespace ProjectService

variable {s t : ProjectService} {e : ProjectEvent} {stage : Stage} {answered : Bool}
  {store store' : ProjectStore} {listed entries : List ProjectExplorerRow}

def Known (ignorePathCasing : Bool) (store : ProjectStore) : Stage → Prop
  | .selecting _ folder | .creating _ folder _ => foldCasing ignorePathCasing folder = folder
  | .gated userId projectId folder =>
    foldCasing ignorePathCasing folder = folder ∧ store.users[projectId]? = some userId
  | .checked userId projectId folder listed =>
    foldCasing ignorePathCasing folder = folder ∧ store.users[projectId]? = some userId ∧
      ∀ entry ∈ listed, ¬ Overlap entry.folder folder
  | .created userId projectId peId => peId < store.nextPeId ∧ ∀ entry ∈ store.entries, entry.peId = peId →
      entry.ownerUserId = userId ∧ entry.projectId = projectId ∧ entry.role = .workspace
  | .confirmed userId peId | .inserted userId peId =>
    peId < store.nextPeId ∧ ∀ entry ∈ store.entries, entry.peId = peId → entry.ownerUserId = userId
  | .removable userId peId => peId < store.nextPeId ∧ ∀ entry ∈ store.entries, entry.peId = peId →
      entry.ownerUserId = userId → entry.role ≠ .workspace
  | _ => True

structure Tracked (s : ProjectService) : Prop where
  sound : s.store.Sound s.ignorePathCasing
  known : ∀ stage ∈ s.calls, Known s.ignorePathCasing s.store stage

open ProjectStore in
lemma forall_later (later : Later store store') {P : ProjectExplorerRow → Prop}
    (same : ∀ entry orderIndex, P entry → P { entry with orderIndex })
    (h : peId < store.nextPeId ∧ ∀ entry ∈ store.entries, entry.peId = peId → P entry) :
    peId < store'.nextPeId ∧ ∀ entry ∈ store'.entries, entry.peId = peId → P entry := by
  refine ⟨h.1.trans_le later.next, fun entry' mem here => ?_⟩
  obtain ⟨entry, there, orderIndex, rfl⟩ | past := later.entries entry' mem
  · exact same entry orderIndex (h.2 entry there here)
  · exact absurd h.1 (not_lt.mpr (here ▸ past))

lemma Known.later (h : Known ignorePathCasing store stage) (later : store.Later store') :
    Known ignorePathCasing store' stage := by
  cases stage with
  | selecting userId folder => exact h
  | creating userId folder kind => exact h
  | gated userId projectId folder => exact ⟨h.1, later.user h.2⟩
  | checked userId projectId folder listed => exact ⟨h.1, later.user h.2.1, h.2.2⟩
  | created userId projectId peId => exact forall_later later (fun _ _ => id) h
  | confirmed userId peId => exact forall_later later (fun _ _ => id) h
  | inserted userId peId => exact forall_later later (fun _ _ => id) h
  | removable userId peId => exact forall_later later (fun _ _ => id) h
  | _ => trivial

lemma Tracked.goTo (h : Tracked s) (known : Known s.ignorePathCasing s.store stage) : Tracked (s.goTo n stage) :=
  ⟨h.sound, Pool.forall_set h.known known⟩

lemma Tracked.write (h : Tracked s) (sound : store.Sound s.ignorePathCasing) (later : s.store.Later store)
    (known : Known s.ignorePathCasing store stage) : Tracked { s with store, calls := s.calls.set n stage } :=
  ⟨sound, Pool.forall_set (fun stage mem => (h.known stage mem).later later) known⟩

lemma Tracked.begin (h : Tracked s) {stage : Except ProjectError Stage}
    (known : ∀ begun, stage = .ok begun → Known s.ignorePathCasing s.store begun) : Tracked (s.begin stage) := by
  refine ⟨h.sound, Pool.forall_append h.known ?_⟩
  cases stage with
  | ok stage => exact known stage rfl
  | error error => trivial

lemma checkOverlap_cases (folded : ∀ entry ∈ entries, foldCasing ignorePathCasing entry.folder = entry.folder) :
    (checkOverlap ignorePathCasing userId projectId folder listed entries =
        .checked userId projectId folder listed ∧ ∀ entry ∈ entries, ¬ Overlap entry.folder folder) ∨
    (∃ entry ∈ entries, entry.folder <+: folder ∧
      checkOverlap ignorePathCasing userId projectId folder listed entries = .focused folder entry) ∨
    checkOverlap ignorePathCasing userId projectId folder listed entries =
      .failed (.projectExplorerOverlap projectId) := by
  induction entries with
  | nil => exact .inl ⟨rfl, by simp⟩
  | cons entry entries ih =>
    rw [List.forall_mem_cons] at folded
    rw [checkOverlap, canonicalize_toUri folded.1]
    dsimp only
    split_ifs with above below
    · exact .inr (.inl ⟨entry, List.mem_cons_self, above, rfl⟩)
    · exact .inr (.inr rfl)
    · obtain ⟨passed, free⟩ | ⟨other, mem, above', focused⟩ | failed := ih folded.2
      · exact .inl ⟨passed, List.forall_mem_cons.mpr ⟨fun overlap => overlap.elim above below, free⟩⟩
      · exact .inr (.inl ⟨other, List.mem_cons_of_mem _ mem, above', focused⟩)
      · exact .inr (.inr failed)

lemma attachStage_cases (h : Tracked s) (userId : String) (projectId : Nat) (folder : FolderPath) :
    (s.attachStage userId projectId folder =
        .checked userId projectId folder (s.store.listEntries userId projectId) ∧
      ∀ entry ∈ s.store.listEntries userId projectId, ¬ Overlap entry.folder folder) ∨
    (∃ entry ∈ s.store.entries, entry.folder <+: folder ∧
      s.attachStage userId projectId folder = .focused folder entry) ∨
    ∃ error, s.attachStage userId projectId folder = .failed error := by
  have folded : ∀ entry ∈ s.store.listEntries userId projectId,
      foldCasing s.ignorePathCasing entry.folder = entry.folder :=
    fun entry mem => h.sound.folded entry (ProjectStore.mem_listEntries.mp mem).1
  unfold attachStage
  dsimp only
  split_ifs
  · exact .inr (.inr ⟨_, rfl⟩)
  · obtain passed | ⟨entry, mem, above, focused⟩ | failed := @checkOverlap_cases folder userId projectId
      s.ignorePathCasing (s.store.listEntries userId projectId) _ folded
    · exact .inl passed
    · exact .inr (.inl ⟨entry, (ProjectStore.mem_listEntries.mp mem).1, above, focused⟩)
    · exact .inr (.inr ⟨_, failed⟩)

def Honest (store : ProjectStore) (stage : Stage) : Stage → Prop
  | .focused folder entry => entry ∈ store.entries ∧ entry.folder <+: folder
  | .failed _ => ∀ peId ∈ stage.wrote, ∀ entry ∈ store.entries, entry.peId ≠ peId
  | _ => True

/-- A call has moved on, and has written only if it has succeeded or remembers the entry. -/
structure Moved (s : ProjectService) (n : Nat) (stage : Stage) (t : ProjectService) : Prop where
  tracked : Tracked t
  casing : t.ignorePathCasing = s.ignorePathCasing
  calls : ∃ stage', t.calls = s.calls.set n stage' ∧
    (t.store = s.store ∧ Honest s.store stage stage' ∨
      (stage' = .finished ∨ stage'.wrote.isSome) ∧ stage' ≠ stage)

variable {stage' : Stage}

lemma Tracked.moved (h : Tracked s) (known : Known s.ignorePathCasing s.store stage')
    (honest : Honest s.store stage stage') : Moved s n stage (s.goTo n stage') :=
  ⟨h.goTo known, rfl, stage', rfl, .inl ⟨rfl, honest⟩⟩

lemma Tracked.movedFail (h : Tracked s) {error : ProjectError} (quiet : stage.wrote = none) :
    Moved s n stage (s.fail n error) :=
  h.moved trivial fun peId wrote => by simp [quiet] at wrote

lemma Tracked.movedWrite (h : Tracked s) (sound : store.Sound s.ignorePathCasing ∧ s.store.Later store)
    (known : Known s.ignorePathCasing store stage') (wrote : stage' = .finished ∨ stage'.wrote.isSome)
    (moves : stage' ≠ stage) : Moved s n stage { s with store, calls := s.calls.set n stage' } :=
  ⟨h.write sound.1 sound.2 known, rfl, stage', rfl, .inr ⟨wrote, moves⟩⟩

lemma getEntry_none {peId : Nat} (gone : store.getEntry userId peId = none)
    (own : ∀ entry ∈ store.entries, entry.peId = peId → entry.ownerUserId = userId) :
    ∀ entry ∈ store.entries, entry.peId ≠ peId := by
  intro entry mem here
  have differs := List.find?_eq_none.mp gone entry mem
  simp [here, own entry mem here] at differs

lemma getProject_none (h : Tracked s) (gone : s.store.getProject userId projectId = none)
    (own : ∀ entry ∈ s.store.entries, entry.peId = peId →
      entry.ownerUserId = userId ∧ entry.projectId = projectId ∧ entry.role = .workspace) :
    ∀ entry ∈ s.store.entries, entry.peId ≠ peId := by
  intro entry mem here
  obtain ⟨owner, ofProject, workspace⟩ := own entry mem here
  obtain ⟨project, there, same⟩ := h.sound.home entry mem workspace
  have found := ProjectStore.getProject_isSome there
  rw [← h.sound.same_owner there mem same.symm, owner, same, ofProject, gone] at found
  cases found

lemma Tracked.queryAttaching {access : Access} (h : Tracked s) :
    Moved s n (.attaching userId projectId uri access)
      (s.query n (.attaching userId projectId uri access)) := by
  rw [ProjectService.query]
  split
  case h_1 => exact h.movedFail rfl
  case h_2 project found =>
    split
    case h_1 => exact h.movedFail rfl
    case h_2 folder ok =>
      split
      · exact h.movedFail rfl
      · have mem := List.mem_of_find?_eq_some found
        have same : project.projectId = projectId ∧ project.userId = userId := by
          simpa using List.find?_some found
        refine h.moved ⟨folded_canonicalize ok, ?_⟩ trivial
        rw [← same.1, h.sound.users project mem, same.2]

lemma Tracked.queryChecked (h : Tracked s)
    (known : Known s.ignorePathCasing s.store (.checked userId projectId folder listed))
    (heeded : ∀ entry ∈ s.store.entriesOf userId projectId, Overlap entry.folder folder →
      entry.folder = folder ∨ entry.folder ∈ listed.map ProjectExplorerRow.folder) :
    Moved s n (.checked userId projectId folder listed)
      (s.query n (.checked userId projectId folder listed)) := by
  have apart : ∀ entry ∈ s.store.entriesOf userId projectId, Overlap entry.folder folder →
      entry.folder = folder := by
    intro entry mem overlap
    refine (heeded entry mem overlap).resolve_right fun seen => ?_
    obtain ⟨other, mem', same⟩ := List.mem_map.mp seen
    exact known.2.2 other mem' (same ▸ overlap)
  rw [ProjectService.query]
  split
  case h_1 store inserted =>
    obtain ⟨sound, later, next, own⟩ := h.sound.insertAttachedEntry inserted known.1 known.2.1 apart
    exact h.movedWrite ⟨sound, later⟩ ⟨by omega, own⟩ (.inr rfl) nofun
  case h_2 => exact h.movedFail rfl

lemma Tracked.queryRemoving (h : Tracked s) :
    Moved s n (.removing userId peId) (s.query n (.removing userId peId)) := by
  rw [ProjectService.query]
  split
  case h_1 => exact h.movedFail rfl
  case h_2 entry found =>
    split_ifs with workspace
    · exact h.movedFail rfl
    · have mem := List.mem_of_find?_eq_some found
      have here : entry.peId = peId ∧ entry.ownerUserId = userId := by simpa using List.find?_some found
      refine h.moved ⟨here.1 ▸ h.sound.past entry mem, fun other mem' same _ => ?_⟩ trivial
      have eq : other = entry := by
        by_contra ne
        exact (h.sound.distinct.forall mem' mem ne).peId (same.trans here.1.symm)
      exact eq ▸ workspace

lemma Tracked.query (h : Tracked s) (there : s.calls[n]? = some stage)
    (heeded : ∀ userId projectId folder listed, stage = .checked userId projectId folder listed →
      ∀ entry ∈ s.store.entriesOf userId projectId, Overlap entry.folder folder →
        entry.folder = folder ∨ entry.folder ∈ listed.map ProjectExplorerRow.folder)
    (running : ¬ stage.ended) : Moved s n stage (s.query n stage) := by
  have known := h.known stage (List.mem_of_getElem? there)
  cases stage with
  | selecting userId folder =>
    rw [ProjectService.query]
    split
    · exact h.moved trivial trivial
    · exact h.moved known trivial
  | selected userId entry =>
    rw [ProjectService.query]
    split
    · exact h.moved trivial trivial
    · exact h.movedFail rfl
  | creating userId folder kind =>
    rw [ProjectService.query]
    split
    case h_1 store created =>
      obtain ⟨sound, later, next, own⟩ := h.sound.createProject created known
      exact h.movedWrite ⟨sound, later⟩ ⟨by omega, own⟩ (.inr rfl) nofun
    case h_2 => exact h.moved trivial trivial
  | created userId projectId peId =>
    rw [ProjectService.query]
    split
    case h_1 => exact h.moved ⟨known.1, fun entry mem here => (known.2 entry mem here).1⟩ trivial
    case h_2 gone =>
      refine h.moved trivial fun pe wrote => ?_
      cases wrote
      exact getProject_none h gone known.2
  | confirmed userId peId =>
    rw [ProjectService.query]
    split
    case h_1 => exact h.moved trivial trivial
    case h_2 gone =>
      refine h.moved trivial fun pe wrote => ?_
      cases wrote
      exact getEntry_none gone known.2
  | conflicted userId folder =>
    rw [ProjectService.query]
    split
    · exact h.moved trivial trivial
    · exact h.movedFail rfl
  | conflicting userId entry =>
    rw [ProjectService.query]
    split
    · exact h.moved trivial trivial
    · exact h.movedFail rfl
  | attaching userId projectId uri access => exact h.queryAttaching
  | gated userId projectId folder =>
    rw [ProjectService.query]
    obtain ⟨passed, free⟩ | ⟨entry, mem, above, focused⟩ | ⟨error, failed⟩ :=
      attachStage_cases h userId projectId folder
    · rw [passed]
      exact h.moved ⟨known.1, known.2, free⟩ trivial
    · rw [focused]
      exact h.moved trivial ⟨mem, above⟩
    · rw [failed]
      exact h.movedFail rfl
  | checked userId projectId folder listed =>
    exact h.queryChecked known (heeded userId projectId folder listed rfl)
  | inserted userId peId =>
    rw [ProjectService.query]
    split
    case h_1 => exact h.moved trivial trivial
    case h_2 gone =>
      refine h.moved trivial fun pe wrote => ?_
      cases wrote
      exact getEntry_none gone known.2
  | removing userId peId => exact h.queryRemoving
  | removable userId peId => exact h.movedWrite (h.sound.removeEntry known.2) trivial (.inl rfl) nofun
  | reordering userId projectId orderedPeIds => exact h.movedWrite h.sound.reorder trivial (.inl rfl) nofun
  | deleting userId projectId => exact h.movedWrite h.sound.deleteProject trivial (.inl rfl) nofun
  | _ => exact absurd rfl running

/-- The calls that are new in a step, or have moved on. -/
def Since (s t : ProjectService) (n : Nat) (stage : Stage) : Prop :=
  t.calls[n]? = some stage ∧ s.calls[n]? ≠ some stage

/-- A step that keeps the law: the tables stay, and what a call says is so, or one call has written. -/
structure Kept (s t : ProjectService) : Prop where
  tracked : Tracked t
  casing : t.ignorePathCasing = s.ignorePathCasing
  calls : (t.store = s.store ∧ ∀ (n : Nat) stage', Since s t n stage' →
      (∀ folder entry, stage' = .focused folder entry → entry ∈ s.store.entries ∧ entry.folder <+: folder) ∧
      ∀ stage ∈ s.calls[n]?, Honest s.store stage stage') ∨
    ∃ (n : Nat) (stage' : Stage), Since s t n stage' ∧ (stage' = .finished ∨ stage'.wrote.isSome) ∧
      ∀ (m : Nat) stage, Since s t m stage → stage = stage'

lemma Tracked.kept (h : Tracked s) : Kept s s :=
  ⟨h, rfl, .inl ⟨rfl, fun _ _ since => absurd since.1 since.2⟩⟩

lemma Moved.kept (h : Moved s n stage t) (there : s.calls[n]? = some stage) : Kept s t := by
  obtain ⟨stage', set, outcome⟩ := h.calls
  have now : t.calls[n]? = some stage' := by
    rw [set, List.getElem?_set_self (List.getElem?_eq_some_iff.mp there).1]
  have only : ∀ (m : Nat) other, Since s t m other → m = n ∧ other = stage' := by
    rintro m other ⟨there', was⟩
    by_cases same : n = m
    · subst same
      exact ⟨rfl, (Option.some.inj (now.symm.trans there')).symm⟩
    · rw [set, List.getElem?_set_ne same] at there'
      exact absurd there' was
  refine ⟨h.tracked, h.casing, ?_⟩
  obtain ⟨same, honest⟩ | ⟨wrote, moves⟩ := outcome
  · refine .inl ⟨same, fun m other since => ?_⟩
    obtain ⟨rfl, rfl⟩ := only m other since
    refine ⟨?_, fun stage mem => ?_⟩
    · rintro folder entry rfl
      exact honest
    · rw [there, Option.mem_some_iff] at mem
      exact mem ▸ honest
  · have moved : s.calls[n]? ≠ some stage' := fun was => moves (Option.some.inj (was.symm.trans there))
    exact .inr ⟨n, stage', ⟨now, moved⟩, wrote, fun m other since => (only m other since).2⟩

lemma Tracked.keptBegin (h : Tracked s) {stage : Except ProjectError Stage}
    (known : ∀ begun, stage = .ok begun → Known s.ignorePathCasing s.store begun ∧ ¬ begun.ended) :
    Kept s (s.begin stage) := by
  refine ⟨h.begin fun begun ok => (known begun ok).1, rfl, .inl ⟨rfl, ?_⟩⟩
  rintro n stage' ⟨now, was⟩
  obtain same | ⟨rfl, rfl⟩ := Pool.getElem?_append_some now
  · exact absurd same was
  · refine ⟨fun folder entry focused => ?_, fun stage mem => by simp at mem⟩
    cases stage with
    | ok stage =>
      have running := (known stage rfl).2
      dsimp only at focused
      exact absurd (focused ▸ rfl) running
    | error error => cases focused

lemma Tracked.keptQuery (h : Tracked s) (known : Known s.ignorePathCasing s.store stage = True)
    (running : stage.ended = false) : Kept s (s.begin (.ok stage)) := by
  refine h.keptBegin fun begun ok => ?_
  cases ok
  exact ⟨known ▸ trivial, by simp [running]⟩

lemma Tracked.keptAdvance (h : Tracked s) (heeded : s.Heeded (.advance n answered)) :
    Kept s (s.advance n answered) := by
  unfold ProjectService.advance
  split
  case h_1 => exact h.kept
  case h_2 stage there =>
    split_ifs with ended answers
    · exact h.kept
    · refine (h.query there ?_ ended).kept there
      rintro userId projectId folder listed rfl
      rw [Heeded, there] at heeded
      exact heeded answers
    · refine (h.movedFail ?_).kept there
      rw [Heeded, there] at heeded
      cases stage with
      | created | confirmed | inserted => exact absurd (heeded rfl) answers
      | _ => rfl

lemma resolveCore_known {kind : ProjectKind} (folded : foldCasing ignorePathCasing folder = folder) :
    Known ignorePathCasing store (resolveCore userId folder kind) ∧ ¬ (resolveCore userId folder kind).ended := by
  cases kind
  · exact ⟨folded, nofun⟩
  · exact ⟨folded, nofun⟩

lemma accessible_known (access : Access) {begun : Stage} {kind : FolderPath → ProjectKind} (ok : (do
      let folder ← canonicalize ignorePathCasing uri
      ensureAccessible folder access
      return resolveCore userId folder (kind folder)) = .ok begun) :
    Known ignorePathCasing store begun ∧ ¬ begun.ended := by
  cases canonical : canonicalize ignorePathCasing uri with
  | error error =>
    rw [canonical] at ok
    cases ok
  | ok folder =>
    rw [canonical] at ok
    change (do
      ensureAccessible folder access
      return resolveCore userId folder (kind folder)) = .ok begun at ok
    cases accessible : ensureAccessible folder access with
    | error error =>
      rw [accessible] at ok
      cases ok
    | ok _ =>
      rw [accessible] at ok
      cases ok
      exact resolveCore_known (folded_canonicalize canonical)

lemma Tracked.keptNext (h : Tracked s) (heeded : s.Heeded e) : Kept s (s.next e) := by
  cases e with
  | createStandard userId uri access => exact h.keptBegin fun begun ok => accessible_known access ok
  | createTemp userId uri => exact h.keptBegin fun begun ok => accessible_known .directory ok
  | resolveExisting userId uri access => exact h.keptBegin fun begun ok => accessible_known access ok
  | attachFolder userId projectId uri access => exact h.keptQuery rfl rfl
  | removeAttached userId peId => exact h.keptQuery rfl rfl
  | reorder userId projectId orderedPeIds => exact h.keptQuery rfl rfl
  | deleteProject userId projectId => exact h.keptQuery rfl rfl
  | advance n answered => exact h.keptAdvance heeded

lemma Kept.rootsApart (h : Kept s (s.next e)) : RootsApart s e where
  workspace _ mem := h.tracked.sound.workspace mem
  apart := h.tracked.sound.apart
  single := h.tracked.sound.single
  focused n folder entry now was := by
    obtain ⟨-, honest⟩ | ⟨m, stage, -, wrote, only⟩ := h.calls
    · exact (honest n _ ⟨now, was⟩).1 folder entry rfl
    · obtain rfl := only n _ ⟨now, was⟩
      obtain finished | inserted := wrote
      · cases finished
      · cases inserted
  owning _ mem _ links _ _ listed _ real below :=
    h.tracked.sound.owning mem (h.casing ▸ links) listed real below
  writes wrote := by
    obtain ⟨same, -⟩ | ⟨n, stage, since, end_, -⟩ := h.calls
    · exact absurd same wrote
    · exact ⟨n, stage, since.1, since.2, end_⟩
  errors n error now was := by
    obtain ⟨same, honest⟩ | ⟨m, stage, -, wrote, only⟩ := h.calls
    · exact ⟨same, (honest n _ ⟨now, was⟩).2⟩
    · obtain rfl := only n _ ⟨now, was⟩
      obtain finished | inserted := wrote
      · cases finished
      · cases inserted

lemma tracked_start {tempRoot : Uri} : Tracked (start ignorePathCasing tempRoot) := by
  constructor
  · constructor
    · exact .nil
    all_goals intro _ mem
    all_goals cases mem
  · intro _ mem
    cases mem

/-- In every run in which no overlapping entry is added between the list and the insert of an attached one,
and calls read back what they have inserted: a project has one workspace entry, its roots do not nest, a file
lies below one of them at most, an entry is only focused for a folder that it contains, and a call that fails
leaves the entries as they were. -/
theorem roots_apart (ignorePathCasing : Bool) (tempRoot : Uri) (events : List ProjectEvent)
    (heeded : LTS.EnabledAll Heeded next (start ignorePathCasing tempRoot) events) :
    LTS.EnabledAll RootsApart next (start ignorePathCasing tempRoot) events :=
  heeded.imp (fun _ _ h heeds => ⟨(h.keptNext heeds).rootsApart, (h.keptNext heeds).tracked⟩) tracked_start

/-- A folder is attached after one that contains it, and one that contains it after that. -/
theorem roots_apart_attached :
    LTS.EnabledAll RootsApart next (start true (.file [.normal "tmp"]))
      [ .createStandard "u" (.file [.normal "W"]) .directory, .advance 0 true, .advance 0 true, .advance 0 true,
        .advance 0 true, .attachFolder "u" 0 (.file [.normal "a", .curDir, .normal "B"]) .directory,
        .resolveExisting "u" (.file [.normal "w"]) .directory, .advance 1 true, .advance 2 true, .advance 1 true,
        .advance 2 true, .advance 1 true, .advance 1 true,
        .attachFolder "u" 0 (.file [.normal "A", .normal "b", .normal "c"]) .directory, .advance 3 true,
        .advance 3 true, .attachFolder "u" 0 (.file [.normal "a"]) .directory, .advance 4 true, .advance 4 true,
        .reorder "u" 0 [1, 0], .advance 5 true, .removeAttached "u" 1, .advance 6 true, .advance 6 true,
        .deleteProject "u" 0, .advance 7 true ] :=
  roots_apart _ _ _ (by decide)

/-- Two calls attach a folder and one below it, and both list the entries first. -/
theorem roots_nest :
    ¬ ∀ ignorePathCasing tempRoot events, LTS.EnabledAll RootsApart next (start ignorePathCasing tempRoot) events := by
  intro h
  have law := LTS.EnabledAll.last <| h false (.file [.normal "tmp"])
    ([ .createStandard "u" (.file [.normal "w"]) .directory, .advance 0 true, .advance 0 true, .advance 0 true,
      .advance 0 true, .attachFolder "u" 0 (.file [.normal "a"]) .directory,
      .attachFolder "u" 0 (.file [.normal "a", .normal "b"]) .directory, .advance 1 true, .advance 2 true,
      .advance 1 true, .advance 2 true, .advance 1 true ] ++ [.advance 2 true])
  have apart := law.apart "u" 0
  revert apart
  decide

end ProjectService

end KiCore.Project.Roots

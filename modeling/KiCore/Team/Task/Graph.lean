import KiCore.Team.Task.Board

/-!
# The dependency graph of a team's tasks

A task waits for the tasks that it names as blockers, and blocks those it names as blocked. `Consistent` is
what the board is for: the two relations agree, nothing waits for a completed task, and no task waits for
itself through others.

The lemmas say what each write to a row does to the two relations.
-/

namespace KiCore.Team

open KiCore.Lib

namespace Tasks

variable (tasks : Tasks)

def Known (a : String) : Prop :=
  (tasks[a]?).isSome = true

def Completed (a : String) : Prop :=
  ∃ row ∈ tasks[a]?, row.status = .completed

/-- Task `b` names task `a` as a blocker. -/
def Waits (a b : String) : Prop :=
  ∃ row ∈ tasks[b]?, a ∈ row.blockedBy

/-- Task `a` names task `b` as blocked. -/
def Blocks (a b : String) : Prop :=
  ∃ row ∈ tasks[a]?, b ∈ row.blocks

def waiters (a : String) : List String :=
  (tasks.toList.filter fun entry => a ∈ entry.2.blockedBy).map (·.1)

instance (a : String) : Decidable (Completed tasks a) :=
  inferInstanceAs (Decidable (∃ row ∈ tasks[a]?, row.status = .completed))

instance (a b : String) : Decidable (Waits tasks a b) :=
  inferInstanceAs (Decidable (∃ row ∈ tasks[b]?, a ∈ row.blockedBy))

instance (a b : String) : Decidable (Blocks tasks a b) :=
  inferInstanceAs (Decidable (∃ row ∈ tasks[a]?, b ∈ row.blocks))

/-- The graph is stored as it should be. -/
structure Consistent (tasks : Tasks) : Prop where
  mirrored : ∀ a b, ¬ Completed tasks a → (Blocks tasks a b ↔ Waits tasks a b)
  released : ∀ a b, Completed tasks a → ¬ Waits tasks a b
  live : ∀ a b, Waits tasks a b → Known tasks a ∧ ¬ Completed tasks a
  acyclic : ∀ a, ¬ Relation.TransGen (Waits tasks) a a
  unblocked : (∃ a, Known tasks a ∧ ¬ Completed tasks a) →
    ∃ a, Known tasks a ∧ ¬ Completed tasks a ∧ ∀ b, ¬ Waits tasks b a

variable {tasks tasks' : Tasks} {a b k dep : String} {row : TeamTaskRow} {now : Int}

lemma mem_waiters : b ∈ tasks.waiters a ↔ Waits tasks a b := by
  simp only [waiters, List.mem_map, List.mem_filter, decide_eq_true_eq, Prod.exists, exists_and_right,
    exists_eq_right, Std.TreeMap.mem_toList_iff_getElem?_eq_some, Waits, Option.mem_def]

lemma Blocks.known (h : Blocks tasks a b) : Known tasks a := by
  obtain ⟨row, hrow, _⟩ := h
  rw [Known, hrow]
  rfl

lemma Completed.known (h : Completed tasks a) : Known tasks a := by
  obtain ⟨row, hrow, _⟩ := h
  rw [Known, hrow]
  rfl

lemma known_insert : Known (tasks.insert k row) a ↔ k = a ∨ Known tasks a := by
  unfold Known
  rw [Table.get_insert]
  split_ifs with h <;> simp [h]

lemma completed_insert : Completed (tasks.insert k row) a ↔
    if k = a then row.status = .completed else Completed tasks a := by
  unfold Completed
  rw [Table.get_insert]
  split_ifs <;> simp

lemma waits_insert : Waits (tasks.insert k row) a b ↔
    if k = b then a ∈ row.blockedBy else Waits tasks a b := by
  unfold Waits
  rw [Table.get_insert]
  split_ifs <;> simp

lemma blocks_insert : Blocks (tasks.insert k row) a b ↔
    if k = a then b ∈ row.blocks else Blocks tasks a b := by
  unfold Blocks
  rw [Table.get_insert]
  split_ifs <;> simp

lemma rewrite_ok {f : TeamTaskRow → TeamTaskRow} (h : tasks.rewrite k f = .ok tasks') :
    ∃ row, tasks[k]? = some row ∧ tasks' = tasks.insert k (f row) := by
  unfold rewrite at h
  split at h
  · cases h
  next row hrow =>
    cases h
    exact ⟨row, hrow, rfl⟩

lemma rewrite_known {f : TeamTaskRow → TeamTaskRow} (known : Known tasks k) :
    ∃ tasks', tasks.rewrite k f = .ok tasks' := by
  obtain ⟨row, hrow⟩ := Option.isSome_iff_exists.mp known
  exact ⟨_, by rw [rewrite, hrow]⟩

structure SameTasks (tasks tasks' : Tasks) : Prop where
  known : ∀ a, Known tasks' a ↔ Known tasks a
  completed : ∀ a, Completed tasks' a ↔ Completed tasks a

lemma sameTasks_insert {row' : TeamTaskRow} (hrow : tasks[k]? = some row)
    (status : row'.status = row.status) : SameTasks tasks (tasks.insert k row') := by
  constructor
  · intro a
    rw [known_insert]
    refine or_iff_right_of_imp fun h => ?_
    rw [← h, Known, hrow]
    rfl
  · intro a
    rw [completed_insert]
    split_ifs with h
    · subst h
      simp [Completed, hrow, status]
    · rfl

lemma appendToBlocks_ok (h : tasks.appendToBlocks now dep k = .ok tasks') :
    SameTasks tasks tasks' ∧ (∀ a b, Waits tasks' a b ↔ Waits tasks a b) ∧
      ∀ a b, Blocks tasks' a b ↔ Blocks tasks a b ∨ (a = dep ∧ b = k) := by
  obtain ⟨row, hrow, rfl⟩ := rewrite_ok h
  refine ⟨sameTasks_insert hrow rfl, fun a b => ?_, fun a b => ?_⟩
  · rw [waits_insert]
    by_cases h : dep = b
    · subst h
      simp [Waits, hrow]
    · rw [if_neg h]
  · rw [blocks_insert]
    by_cases h : dep = a
    · subst h
      rw [if_pos rfl]
      simp only [Blocks, hrow, Option.mem_some_iff, exists_eq_left', true_and]
      split_ifs with old
      · refine (or_iff_left_of_imp ?_).symm
        rintro rfl
        exact old
      · rw [List.mem_append, List.mem_singleton]
    · simp [if_neg h, Ne.symm h]

lemma removeFromBlockedBy_ok (h : tasks.removeFromBlockedBy now dep k = .ok tasks') :
    SameTasks tasks tasks' ∧ (∀ a b, Waits tasks' a b ↔ Waits tasks a b ∧ ¬ (a = k ∧ b = dep)) ∧
      ∀ a b, Blocks tasks' a b ↔ Blocks tasks a b := by
  obtain ⟨row, hrow, rfl⟩ := rewrite_ok h
  refine ⟨sameTasks_insert hrow rfl, fun a b => ?_, fun a b => ?_⟩
  · rw [waits_insert]
    split_ifs with h
    · subst h
      simp [Waits, hrow]
    · simp [Ne.symm h]
  · rw [blocks_insert]
    split_ifs with h
    · subst h
      simp [Blocks, hrow]
    · rfl

lemma updateTask_ok {params : TaskUpdate} (h : tasks.updateTask now k params = .ok tasks') :
    (∀ a, Known tasks' a ↔ Known tasks a) ∧
      (∀ a, Completed tasks' a ↔
        if a = k ∧ params.status.isSome then Known tasks k ∧ params.status = some .completed
        else Completed tasks a) ∧
      (∀ a b, Waits tasks' a b ↔
        if b = k ∧ params.blockedBy.isSome then Known tasks k ∧ ∃ list ∈ params.blockedBy, a ∈ list
        else Waits tasks a b) ∧
      ∀ a b, Blocks tasks' a b ↔ Blocks tasks a b := by
  unfold updateTask at h
  split at h
  next empty =>
    cases h
    simp only [Option.isNone_iff_eq_none] at empty
    simp [empty]
  · obtain ⟨row, hrow, rfl⟩ := rewrite_ok h
    have known : Known tasks k := by simp [Known, hrow]
    refine ⟨fun a => ?_, fun a => ?_, fun a b => ?_, fun a b => ?_⟩
    · rw [known_insert]
      refine or_iff_right_of_imp fun h => ?_
      rw [← h]
      exact known
    · rw [completed_insert]
      by_cases h : k = a
      · subst h
        cases hs : params.status <;> simp [updateRow, hs, known, Completed, hrow]
      · simp [h, Ne.symm h]
    · rw [waits_insert]
      by_cases h : k = b
      · subst h
        cases hb : params.blockedBy <;> simp [updateRow, hb, known, Waits, hrow]
      · simp [h, Ne.symm h]
    · rw [blocks_insert]
      by_cases h : k = a
      · subst h
        simp [updateRow, Blocks, hrow]
      · rw [if_neg h]

lemma insert_new (new : ¬ Known tasks k) (status : row.status = .pending) (blocks : row.blocks = []) :
    (∀ a, Known (tasks.insert k row) a ↔ a = k ∨ Known tasks a) ∧
      (∀ a, Completed (tasks.insert k row) a ↔ Completed tasks a) ∧
      (∀ a b, Waits (tasks.insert k row) a b ↔ (b = k ∧ a ∈ row.blockedBy) ∨ Waits tasks a b) ∧
      ∀ a b, Blocks (tasks.insert k row) a b ↔ Blocks tasks a b := by
  have none : tasks[k]? = none := by simpa [Known] using new
  refine ⟨fun a => ?_, fun a => ?_, fun a b => ?_, fun a b => ?_⟩
  · rw [known_insert, eq_comm]
  · rw [completed_insert]
    split_ifs with h
    · subst h
      simp [status, Completed, none]
    · rfl
  · rw [waits_insert]
    split_ifs with h
    · subst h
      simp [Waits, none]
    · simp [Ne.symm h]
  · rw [blocks_insert]
    split_ifs with h
    · subst h
      simp [blocks, Blocks, none]
    · rfl

end Tasks

end KiCore.Team

import KiCore.Lib.Transition

/-!
# The tree of the built-in skills

Port of `startup_materialize.rs`: how a starting process puts the skills of its binary at the target. A process is
one event after the other, each of them an operation on the file system that may fail, or the end of the process.
`corpus` gives the files of a binary version in the order in which `write_dir_recursive` writes them. A retried
operation counts once, with its outcome. Left out are logs, the texts of the errors and the polling of the lock.
-/

namespace KiCore.Extension.BuiltinSkills

open KiCore.Lib

/-- A directory, with its `.version` file apart. -/
structure Tree where
  files : String → Option String
  version : Option String

namespace Tree

def empty : Tree := { files := fun _ => none, version := none }

def write (t : Tree) (file : String × String) : Tree :=
  { t with files := Function.update t.files file.1 (some file.2) }

end Tree

/-- Where the process that holds the lock is. -/
inductive Stage where
  /-- the second look at the version -/
  | recheck
  | prepare
  | write (rest : List (String × String))
  | findTarget
  | clearOld
  | moveTarget
  | swap
  | restore
  | cleanup
  /-- the refresh has failed -/
  | failed

structure Disk where
  target : Option Tree
  staging : Option Tree
  old : Option Tree
  /-- the version of the process that has the lock -/
  holder : Option (String × Stage)
  /-- the processes on their way to the lock -/
  waiting : List String
  /-- the versions that have been at the target -/
  installed : List String

/-- How an operation goes. -/
structure Op where
  /-- what is there is seen, and can be read -/
  seen : Bool
  ok : Bool
  /-- what a failed removal or a failed write leaves -/
  debris : Option Tree

inductive Outcome where
  | ok
  | err
  deriving DecidableEq

inductive Event where
  | gate (version : String) (readable : Bool)
  | acquire (version : String)
  /-- the lock could not be had in time, or not at all -/
  | lockFailed (version : String)
  | step (op : Op)
  /-- the process with the lock ends -/
  | crash
  /-- a waiting process ends -/
  | leave (version : String)

namespace Disk

variable (corpus : String → List (String × String))

def full (version : String) : Tree :=
  { (corpus version).foldl Tree.write .empty with version := some version }

variable (s : Disk) (version : String)

def versionFileMatches (readable : Bool) : Bool :=
  readable && s.target.any fun t => t.version = some version

def existingLooksUsable (seen : Bool) : Bool :=
  seen && s.target.any fun t => t.version.isSome

def release : Disk := { s with holder := none }

def goto (stage : Stage) : Disk := { s with holder := some (version, stage) }

def removeOld (op : Op) : Option Tree :=
  if s.old.isSome && op.seen then if op.ok then none else op.debris else s.old

/-- `materialize_embedded_builtin_skills_unlocked`, with the second look at the version before it and the look at what
exists after a failure. -/
def step (op : Op) : Stage → Disk
  | .recheck => if s.versionFileMatches version op.seen then s.release else s.goto version .prepare
  | .prepare =>
    if op.ok then
      -- what is not seen stays where the new files go
      { s.goto version (.write (corpus version)) with
        staging := if op.seen then some .empty else some (s.staging.getD .empty) }
    else { s.goto version .failed with staging := op.debris }
  | .write (file :: rest) =>
    if op.ok then { s.goto version (.write rest) with staging := s.staging.map (·.write file) }
    else { s.goto version .failed with staging := op.debris }
  | .write [] =>
    if op.ok then
      { s.goto version .findTarget with staging := s.staging.map fun t => { t with version := some version } }
    else { s.goto version .failed with staging := op.debris }
  | .findTarget => if s.target.isSome && op.seen then s.goto version .clearOld else s.goto version .swap
  | .clearOld => { s.goto version .moveTarget with old := s.removeOld op }
  | .moveTarget =>
    if op.ok then { s.goto version .swap with target := none, old := s.target } else s.goto version .failed
  | .swap =>
    if op.ok then
      { s.goto version .cleanup with target := s.staging, staging := none, installed := version :: s.installed }
    else s.goto version .restore
  | .restore =>
    if s.old.isSome && op.seen && op.ok then { s.goto version .failed with target := s.old, old := none }
    else s.goto version .failed
  | .cleanup => { s.release with old := s.removeOld op }
  | .failed => s.release

def next : Event → Disk
  | .gate version readable =>
    if s.versionFileMatches version readable then s else { s with waiting := version :: s.waiting }
  | .acquire version => { s.goto version .recheck with waiting := s.waiting.erase version }
  | .lockFailed version | .leave version => { s with waiting := s.waiting.erase version }
  | .step op => match s.holder with
    | some (version, stage) => s.step corpus version op stage
    | none => s
  | .crash => s.release

/-- What the process with the lock returns after an operation, if it was its last one. -/
def outcome (op : Op) : Stage → Option Outcome
  | .recheck => if s.versionFileMatches version op.seen then some .ok else none
  | .cleanup => some .ok
  | .failed => some (if s.existingLooksUsable op.seen then .ok else .err)
  | _ => none

def returned : Event → Option (String × Outcome)
  | .gate version readable => if s.versionFileMatches version readable then some (version, .ok) else none
  | .lockFailed version => some (version, .err)
  | .step op => match s.holder with
    | some (version, stage) => (s.outcome version op stage).map (version, ·)
    | none => none
  | _ => none

/-- A directory is not renamed to one that has something in it. -/
def Vacant (place : Option Tree) : Prop := ∀ t, place = some t → t = .empty

def Possible (op : Op) : Stage → Prop
  | .moveTarget => op.ok → Vacant s.old
  | .swap | .restore => op.ok → Vacant s.target
  | _ => True

def Enabled : Event → Prop
  | .gate .. => True
  | .acquire version => version ∈ s.waiting ∧ s.holder = none
  | .lockFailed version | .leave version => version ∈ s.waiting
  | .step op => ∃ version stage, s.holder = some (version, stage) ∧ s.Possible op stage
  | .crash => s.holder.isSome

/-- A complete tree has been moved away, and there is none at the target. -/
def Stranded : Prop := s.target = none ∧ ∃ version, s.old = some (full corpus version)

/-- The target is never a part of a tree. An attempt that is well leaves the tree of its version or of one that has
been there before, and one that fails does not leave a tree moved away. -/
def Kept (e : Event) : Prop :=
  (∀ t, (s.next corpus e).target = some t → ∃ version, t = full corpus version) ∧
  ∀ version, (s.returned e = some (version, .ok) → ∃ there, (s.next corpus e).target = some (full corpus there) ∧
      (there = version ∨ there ∈ s.installed)) ∧
    (s.returned e = some (version, .err) → ¬ (s.next corpus e).Stranded corpus)

/-- No attempt fails before its swap while a tree is moved away, a tree that was moved away is moved back, and what
another process has left in the staging directory is seen. -/
def Careful : Event → Prop
  | .lockFailed _ => ¬ s.Stranded corpus
  | .step op => match s.holder with
    | some (_, .prepare) => if op.ok then s.staging.isSome → op.seen else ¬ s.Stranded corpus
    | some (_, .write _) => op.ok = false → ¬ s.Stranded corpus
    | some (_, .restore) => s.Stranded corpus → op.seen ∧ op.ok
    | _ => True
  | _ => True

/-- Nobody has the lock, and there is a complete tree at the target or none was moved away. -/
structure Start (s : Disk) : Prop where
  free : s.holder = none
  tree : (∃ version ∈ s.installed, s.target = some (full corpus version)) ∨ s.target = none ∧ s.old = none

/-- What the process with the lock relies on. -/
def StageInv : Stage → Prop
  | .recheck | .prepare | .restore => True
  | .write rest => ∃ done, corpus version = done ++ rest ∧ s.staging = some (done.foldl Tree.write .empty)
  | .findTarget | .swap => s.staging = some (full corpus version)
  | .clearOld | .moveTarget => s.staging = some (full corpus version) ∧ s.target.isSome
  | .cleanup => s.target = some (full corpus version)
  | .failed => ¬ s.Stranded corpus

/-- A tree that has been at the target is in a place. -/
def Whole (place : Option Tree) : Prop :=
  ∀ t, place = some t → ∃ version ∈ s.installed, t = full corpus version

structure Inv (s : Disk) : Prop where
  target : s.Whole corpus s.target
  old : s.target = none → s.Whole corpus s.old
  stage : ∀ version stage, s.holder = some (version, stage) → s.StageInv corpus version stage

variable {corpus} {s : Disk} {e : Event} {version : String} {op : Op} {stage : Stage}

lemma not_stranded (there : s.target.isSome) : ¬ s.Stranded corpus := by
  rintro ⟨none_, -⟩
  rw [none_] at there
  cases there

lemma Start.inv (start : Start corpus s) : Inv corpus s where
  target t here := by
    rcases start.tree with ⟨version, mem, full_⟩ | ⟨none_, -⟩
    · exact ⟨version, mem, Option.some_inj.mp (here.symm.trans full_)⟩
    · cases none_.symm.trans here
  old none_ t here := by
    rcases start.tree with ⟨version, mem, full_⟩ | ⟨-, nothing⟩
    · cases none_.symm.trans full_
    · cases nothing.symm.trans here
  stage version stage held := by
    cases start.free.symm.trans held

lemma full_version : (full corpus version).version = some version := rfl

section

variable (inv : Inv corpus s)
include inv

lemma Inv.matches_ {readable : Bool} (same : s.versionFileMatches version readable = true) :
    s.target = some (full corpus version) := by
  obtain ⟨-, there⟩ := Bool.and_eq_true_iff.mp same
  obtain ⟨t, here, eq⟩ := (Option.any_eq_true _ _).mp there
  obtain ⟨version', -, rfl⟩ := inv.target t here
  rw [full_version] at eq
  rw [here, Option.some_inj.mp (of_decide_eq_true eq)]

lemma Inv.release : Inv corpus s.release where
  target := inv.target
  old := inv.old
  stage _ _ held := by cases held

lemma Inv.goto {staging : Option Tree}
    (stage_ : StageInv corpus { s with staging := staging } version stage) :
    Inv corpus { s.goto version stage with staging := staging } where
  target := inv.target
  old := inv.old
  stage _ _ held := by
    obtain ⟨rfl, rfl⟩ := Prod.mk.inj (Option.some_inj.mp held)
    cases stage <;> exact stage_

lemma Inv.removeOld (there : s.target.isSome) {holder : Option (String × Stage)}
    {old : Option Tree} (stage_ : ∀ version stage, holder = some (version, stage) →
      StageInv corpus { s with holder := holder, old := old } version stage) :
    Inv corpus { s with holder := holder, old := old } where
  target := inv.target
  old none_ := by
    dsimp only at none_
    rw [none_] at there
    cases there
  stage := stage_

end

lemma Inv.waiting (inv : Inv corpus s) (waiting : List String) : Inv corpus { s with waiting := waiting } where
  target := inv.target
  old := inv.old
  stage version stage held := by
    have before := inv.stage version stage held
    cases stage <;> exact before

lemma full_ne_empty : full corpus version ≠ .empty := by
  intro same
  have version_ : (full corpus version).version = Tree.empty.version := by rw [same]
  cases version_

lemma Inv.vacant (inv : Inv corpus s) (vacant : Vacant s.target) : s.target = none := by
  cases here : s.target with
  | none => rfl
  | some t =>
    obtain ⟨version, -, rfl⟩ := inv.target t here
    exact absurd (vacant _ here) full_ne_empty

section

variable (inv : Inv corpus s)
include inv

lemma Inv.prepare (careful : if op.ok then s.staging.isSome → op.seen else ¬ s.Stranded corpus) :
    Inv corpus (s.step corpus version op .prepare) := by
  rw [Disk.step]
  split
  next ok =>
    rw [if_pos ok] at careful
    apply inv.goto
    refine ⟨[], rfl, ?_⟩
    dsimp only
    split
    next => rfl
    next unseen =>
      cases here : s.staging with
      | none => rfl
      | some t =>
        rw [here] at careful
        exact absurd (careful rfl) unseen
  next not_ =>
    rw [if_neg not_] at careful
    exact inv.goto careful

lemma Inv.write {rest : List (String × String)} (before : s.StageInv corpus version (.write rest))
    (careful : op.ok = false → ¬ s.Stranded corpus) : Inv corpus (s.step corpus version op (.write rest)) := by
  obtain ⟨done, all, staging⟩ := before
  cases rest with
  | nil =>
    rw [Disk.step]
    split
    next =>
      apply inv.goto
      change Option.map _ s.staging = _
      rw [staging, full, all, List.append_nil]
      rfl
    next not_ => exact inv.goto (careful (Bool.eq_false_iff.mpr not_))
  | cons file rest =>
    rw [Disk.step]
    split
    next =>
      apply inv.goto
      refine ⟨done ++ [file], by rw [all, List.append_assoc, List.singleton_append], ?_⟩
      dsimp only
      rw [staging, List.foldl_append]
      rfl
    next not_ => exact inv.goto (careful (Bool.eq_false_iff.mpr not_))

lemma Inv.findTarget (before : s.StageInv corpus version .findTarget) :
    Inv corpus (s.step corpus version op .findTarget) := by
  rw [Disk.step]
  split
  next both => exact inv.goto ⟨before, (Bool.and_eq_true_iff.mp both).1⟩
  next => exact inv.goto before

lemma Inv.clearOld (before : s.StageInv corpus version .clearOld) :
    Inv corpus (s.step corpus version op .clearOld) := by
  apply inv.removeOld before.2
  rintro _ _ ⟨⟩
  exact before

lemma Inv.moveTarget (before : s.StageInv corpus version .moveTarget) :
    Inv corpus (s.step corpus version op .moveTarget) := by
  rw [Disk.step]
  split
  next =>
    refine ⟨?_, fun _ => inv.target, ?_⟩
    · rintro t ⟨⟩
    · rintro _ _ ⟨⟩
      exact before.1
  next => exact inv.goto (not_stranded before.2)

lemma Inv.swap (before : s.StageInv corpus version .swap) :
    Inv corpus (s.step corpus version op .swap) := by
  rw [Disk.step]
  split
  next =>
    refine ⟨?_, ?_, ?_⟩
    · intro t here
      exact ⟨version, List.mem_cons_self, Option.some_inj.mp (here.symm.trans before)⟩
    · intro none_
      cases none_.symm.trans before
    · rintro _ _ ⟨⟩
      exact before
  next => exact inv.goto trivial

lemma Inv.restore (possible : s.Possible op .restore)
    (careful : s.Stranded corpus → op.seen ∧ op.ok) : Inv corpus (s.step corpus version op .restore) := by
  rw [Disk.step]
  split
  next all =>
    obtain ⟨both, ok⟩ := Bool.and_eq_true_iff.mp all
    obtain ⟨there, -⟩ := Bool.and_eq_true_iff.mp both
    refine ⟨inv.old (inv.vacant (possible ok)), ?_, ?_⟩
    · intro none_
      dsimp only at none_
      rw [none_] at there
      cases there
    · rintro _ _ ⟨⟩
      exact not_stranded there
  next not_ =>
    apply inv.goto
    intro stranded
    obtain ⟨seen, ok⟩ := careful stranded
    obtain ⟨-, version', old⟩ := stranded
    rw [show s.old = _ from old, seen, ok] at not_
    exact not_ rfl

lemma Inv.cleanup (before : s.StageInv corpus version .cleanup) :
    Inv corpus (s.step corpus version op .cleanup) := by
  apply inv.removeOld (by rw [show s.target = _ from before]; rfl)
  rintro _ _ ⟨⟩

lemma Inv.recheck : Inv corpus (s.step corpus version op .recheck) := by
  rw [Disk.step]
  split
  · exact inv.release
  · exact inv.goto trivial

lemma Inv.step (held : s.holder = some (version, stage)) (possible : s.Possible op stage)
    (careful : s.Careful corpus (.step op)) : Inv corpus (s.step corpus version op stage) := by
  have before := inv.stage version stage held
  rw [Careful, held] at careful
  cases stage with
  | recheck => exact inv.recheck
  | prepare => exact inv.prepare careful
  | write rest => exact inv.write before careful
  | findTarget => exact inv.findTarget before
  | clearOld => exact inv.clearOld before
  | moveTarget => exact inv.moveTarget before
  | swap => exact inv.swap before
  | restore => exact inv.restore possible careful
  | cleanup => exact inv.cleanup before
  | failed => exact inv.release

lemma Inv.next (enabled : s.Enabled e) (careful : s.Careful corpus e) :
    Inv corpus (s.next corpus e) := by
  cases e with
  | gate version readable =>
    rw [Disk.next]
    split
    · exact inv
    · exact inv.waiting _
  | acquire version =>
    have locked : Inv corpus (s.goto version .recheck) := inv.goto (show s.StageInv corpus version .recheck from trivial)
    exact locked.waiting _
  | lockFailed version => exact inv.waiting _
  | leave version => exact inv.waiting _
  | step op =>
    obtain ⟨version, stage, held, possible⟩ := enabled
    rw [Disk.next, held]
    exact inv.step held possible careful
  | crash => exact inv.release

end

lemma Inv.outcome (inv : Inv corpus s) (held : s.holder = some (version, stage)) {outcome : Outcome}
    (ret : s.outcome version op stage = some outcome) :
    (outcome = .ok → ∃ there, (s.step corpus version op stage).target = some (full corpus there) ∧
      (there = version ∨ there ∈ s.installed)) ∧
    (outcome = .err → ¬ (s.step corpus version op stage).Stranded corpus) := by
  have before := inv.stage version stage held
  cases stage with
  | recheck =>
    rw [Disk.outcome] at ret
    split at ret
    next same =>
      obtain rfl := Option.some_inj.mp ret
      refine ⟨fun _ => ⟨version, ?_, .inl rfl⟩, fun never => by cases never⟩
      rw [Disk.step, if_pos same]
      exact inv.matches_ same
    next => cases ret
  | cleanup =>
    obtain rfl := Option.some_inj.mp ret
    exact ⟨fun _ => ⟨version, before, .inl rfl⟩, fun never => by cases never⟩
  | failed =>
    obtain rfl := Option.some_inj.mp ret
    refine ⟨fun ok => ?_, fun _ => before⟩
    split at ok
    next usable =>
      obtain ⟨t, here, -⟩ := (Option.any_eq_true _ _).mp (Bool.and_eq_true_iff.mp usable).2
      obtain ⟨there, mem, rfl⟩ := inv.target t here
      exact ⟨there, here, .inr mem⟩
    next => cases ok
  | _ => cases ret

lemma Inv.kept (inv : Inv corpus s) (enabled : s.Enabled e) (careful : s.Careful corpus e) : s.Kept corpus e := by
  refine ⟨fun t here => ?_, fun version => ?_⟩
  · obtain ⟨version, -, full_⟩ := (inv.next enabled careful).target t here
    exact ⟨version, full_⟩
  · cases e with
    | gate version' readable =>
      rw [returned, Disk.next]
      constructor
      · intro ret
        split at ret
        next same =>
          obtain ⟨rfl, -⟩ := Prod.mk.inj (Option.some_inj.mp ret)
          rw [if_pos same]
          exact ⟨_, inv.matches_ same, .inl rfl⟩
        next => cases ret
      · intro ret
        split at ret <;> cases ret
    | lockFailed version' =>
      constructor
      · intro ret
        cases ret
      · intro _
        exact careful
    | step op =>
      obtain ⟨version', stage, held, -⟩ := enabled
      rw [returned, Disk.next, held]
      dsimp only
      cases ret : s.outcome version' op stage with
      | none =>
        constructor <;> intro never <;> cases never
      | some outcome =>
        obtain ⟨ok, err⟩ := inv.outcome held ret
        constructor
        · rintro ⟨⟩
          exact ok rfl
        · rintro ⟨⟩
          exact err rfl
    | _ => constructor <;> intro never <;> cases never

variable {events : List Event}

/-- Over any number of attempts, those that are well leave a complete tree at the target, those that fail leave none
moved away, and there is never a part of one. -/
theorem attempts_keep (start : Start corpus s)
    (run : LTS.EnabledAll (fun s e => s.Enabled e ∧ s.Careful corpus e) (next corpus) s events) :
    LTS.EnabledAll (Kept corpus) (next corpus) s events :=
  run.imp (fun _ _ inv both => ⟨inv.kept both.1 both.2, inv.next both.1 both.2⟩) start.inv

def single (version : String) : List (String × String) := [("SKILL.md", version)]

def upgraded : Disk :=
  { target := some (full single "1"), staging := none, old := none, holder := none, waiting := [], installed := ["1"] }

lemma upgraded_start : Start single upgraded where
  free := rfl
  tree := .inl ⟨"1", List.mem_singleton_self _, rfl⟩

def good : Event := .step { seen := true, ok := true, debris := none }

/-- A process ends between its two renames. -/
def crashed : List Event :=
  [.gate "2" true, .acquire "2", good, good, good, good, good, good, good, .crash]

/-- The next process cannot write its file, and returns its error. -/
def unwritable : List Event :=
  crashed ++ [.gate "2" true, .acquire "2", good, good, .step { seen := true, ok := false, debris := some .empty }] ++
    [good]

theorem unwritable_lost : LTS.EnabledAll Enabled (next single) upgraded unwritable ∧
    (unwritable.foldl (next single) upgraded).Stranded single ∧
    ¬ LTS.EnabledAll (Kept single) (next single) upgraded unwritable := by
  refine ⟨?_, ⟨rfl, "1", rfl⟩, fun law => ?_⟩
  · exact ⟨trivial, ⟨List.mem_cons_self, rfl⟩, ⟨_, _, rfl, trivial⟩, ⟨_, _, rfl, trivial⟩, ⟨_, _, rfl, trivial⟩,
      ⟨_, _, rfl, trivial⟩, ⟨_, _, rfl, trivial⟩, ⟨_, _, rfl, trivial⟩, ⟨_, _, rfl, fun _ _ none_ => by cases none_⟩,
      rfl, trivial, ⟨List.mem_cons_self, rfl⟩, ⟨_, _, rfl, trivial⟩, ⟨_, _, rfl, trivial⟩, ⟨_, _, rfl, trivial⟩,
      ⟨_, _, rfl, trivial⟩, trivial⟩
  · have last : Kept single _ good := LTS.EnabledAll.last law
    exact (last.2 "2").2 rfl ⟨rfl, "1", rfl⟩

/-- The next process has the lock again and is through. -/
def resumed : List Event :=
  crashed ++ [.gate "2" true, .acquire "2", good, good, good, good, good, good, good]

theorem resumed_kept : LTS.EnabledAll (Kept single) (next single) upgraded resumed :=
  attempts_keep upgraded_start
    ⟨⟨trivial, trivial⟩, ⟨⟨List.mem_cons_self, rfl⟩, trivial⟩, ⟨⟨_, _, rfl, trivial⟩, trivial⟩,
      ⟨⟨_, _, rfl, trivial⟩, fun _ => rfl⟩, ⟨⟨_, _, rfl, trivial⟩, fun _ => by cases ‹_›⟩,
      ⟨⟨_, _, rfl, trivial⟩, fun _ => by cases ‹_›⟩, ⟨⟨_, _, rfl, trivial⟩, trivial⟩,
      ⟨⟨_, _, rfl, trivial⟩, trivial⟩, ⟨⟨_, _, rfl, fun _ _ none_ => by cases none_⟩, trivial⟩, ⟨rfl, trivial⟩,
      ⟨trivial, trivial⟩, ⟨⟨List.mem_cons_self, rfl⟩, trivial⟩, ⟨⟨_, _, rfl, trivial⟩, trivial⟩,
      ⟨⟨_, _, rfl, trivial⟩, fun _ => rfl⟩, ⟨⟨_, _, rfl, trivial⟩, fun _ => by cases ‹_›⟩,
      ⟨⟨_, _, rfl, trivial⟩, fun _ => by cases ‹_›⟩, ⟨⟨_, _, rfl, trivial⟩, trivial⟩,
      ⟨⟨_, _, rfl, fun _ _ none_ => by cases none_⟩, trivial⟩, ⟨⟨_, _, rfl, trivial⟩, trivial⟩, trivial⟩

end Disk

end KiCore.Extension.BuiltinSkills

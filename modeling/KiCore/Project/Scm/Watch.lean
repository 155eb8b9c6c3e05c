import KiCore.Lib.Table
import KiCore.Lib.Transition

/-!
# Watching git directories

Port of `watch` and `unwatch` of `scm/watch.rs`. What `notify` watches is a set of paths; an unwatch that it
refuses is of a path it does not watch. What the disk says at a watch, that is, which of the two directories
can be watched and what the real paths are, comes with the call.

`Watched` adds to the watcher which paths each repository has registered since it was last unwatched, and
`Watched.Counted` says that exactly these are watched. An entry of the registry keeps the list of paths of
the watch that made it: `Fits` says that a later watch finds this list to be its own.
-/

namespace KiCore.Project.Scm

open KiCore.Lib

structure WatchEntry where
  repoIds : Finset String
  registered : List String

structure GitWatcher where
  inner : Finset String
  registry : Table String WatchEntry

inductive ScmError where
  | io (path message : String)
  deriving DecidableEq

/-- What the disk says while a watch is made: why the git directory or its refs cannot be watched, if so,
and the real paths. -/
structure WatchDisk where
  gitDirError : Option String
  refsError : Option String
  canonicalize : String → Option String

variable (disk : WatchDisk)

/-- Key a path is registered under: the path, plus its realpath form when that differs. -/
def keysFor (path : String) : List String :=
  match disk.canonicalize path with
  | some real => if real = path then [path] else [path, real]
  | none => [path]

/-- `git_dir.join("refs")`. -/
def refsDir (gitDir : String) : String :=
  if gitDir = "" || gitDir.toList.getLast? = some '/' then gitDir ++ "refs" else gitDir ++ "/refs"

/-- The paths that a watch hands to `notify`, unless it fails. -/
def registeredAt (gitDir : String) : List String :=
  match disk.refsError with
  | none => [gitDir, refsDir gitDir]
  | some _ => [gitDir]

/-- The keys that a watch registers its repository under. -/
def keysAt (gitDir : String) : List String :=
  (registeredAt disk gitDir).flatMap (keysFor disk)

/-- The entry of a key after a repository was registered under it: merged, never replaced. -/
def WatchEntry.merge (repoId : String) (registered : List String) (old : Option WatchEntry) : WatchEntry :=
  let entry := old.getD { repoIds := ∅, registered := registered }
  { entry with repoIds := insert repoId entry.repoIds }

namespace GitWatcher

/-- `GitWatcher::new`. -/
def new : GitWatcher :=
  { inner := ∅, registry := ∅ }

def watch (watcher : GitWatcher) (repoId gitDir : String) (disk : WatchDisk) :
    Except ScmError Unit × GitWatcher :=
  match disk.gitDirError with
  | some error => (.error (.io gitDir ("watch git dir failed: " ++ error)), watcher)
  | none =>
    let registered := registeredAt disk gitDir
    (.ok (),
      { inner := registered.foldl (fun inner path => insert path inner) watcher.inner
        registry := (keysAt disk gitDir).foldl (fun registry key =>
          registry.insert key (.merge repoId registered registry[key]?)) watcher.registry })

def unwatch (watcher : GitWatcher) (repoId : String) : GitWatcher :=
  let registry := watcher.registry.map fun _ entry => { entry with repoIds := entry.repoIds.erase repoId }
  -- only the paths nobody is left watching are handed back
  let released := (Table.values (registry.filter fun _ entry => entry.repoIds = ∅)).flatMap (·.registered)
  { inner := released.foldl (fun inner path => inner.erase path) watcher.inner
    registry := registry.filter fun _ entry => ¬ entry.repoIds = ∅ }

end GitWatcher

inductive WatchCall where
  | watch (repoId gitDir : String) (disk : WatchDisk)
  | unwatch (repoId : String)

/-- The watcher, and which paths each repository has registered since it was last unwatched. -/
structure Watched where
  watcher : GitWatcher
  claims : Finset (String × String)

namespace Watched

def new : Watched :=
  { watcher := .new, claims := ∅ }

variable (σ : Watched)

def next : WatchCall → Watched
  | .watch repoId gitDir disk =>
    { watcher := (σ.watcher.watch repoId gitDir disk).2
      claims := match disk.gitDirError with
        | some _ => σ.claims
        | none => σ.claims ∪ ((registeredAt disk gitDir).map fun path => (repoId, path)).toFinset }
  | .unwatch repoId =>
    { watcher := σ.watcher.unwatch repoId
      claims := σ.claims.filter fun claim => claim.1 ≠ repoId }

/-- A path is watched if and only if some repository has registered it that is still watched. -/
def Counted : Prop :=
  ∀ path, path ∈ σ.watcher.inner ↔ ∃ repoId, (repoId, path) ∈ σ.claims

/-- An unwatch finds that the entries its repository alone is left in list the paths that it alone has
registered. -/
def Exclusive : WatchCall → Prop
  | .watch .. => True
  | .unwatch repoId => ∀ path, (∃ other, (other, path) ∈ σ.claims) →
      ((∃ (key : String) (entry : WatchEntry), σ.watcher.registry[key]? = some entry ∧
        entry.repoIds ⊆ {repoId} ∧ path ∈ entry.registered) ↔
        ∀ other, (other, path) ∈ σ.claims → other = repoId)

/-- A watch finds its keys free and its paths in no entry, or it finds all of its keys taken, by entries
with its own list of paths, and its paths in no other entry. -/
def Fits : WatchCall → Prop
  | .unwatch _ => True
  | .watch _ gitDir disk => disk.gitDirError = none →
      (∀ (key : String) (entry : WatchEntry), σ.watcher.registry[key]? = some entry →
        key ∉ keysAt disk gitDir ∧ ∀ path ∈ registeredAt disk gitDir, path ∉ entry.registered) ∨
      (∀ key ∈ keysAt disk gitDir, ∃ entry : WatchEntry, σ.watcher.registry[key]? = some entry ∧
        entry.registered = registeredAt disk gitDir) ∧
      ∀ (key : String) (entry : WatchEntry), σ.watcher.registry[key]? = some entry →
        ∀ path ∈ registeredAt disk gitDir, path ∈ entry.registered → key ∈ keysAt disk gitDir

end Watched

variable {registry : Table String WatchEntry} {paths keys : List String} {inner : Finset String}
  {watcher : GitWatcher} {repoId gitDir path key : String} {disk : WatchDisk} {entry : WatchEntry}
  {σ : Watched} {call : WatchCall}

lemma WatchEntry.merge_merge (old : Option WatchEntry) :
    WatchEntry.merge repoId paths (some (.merge repoId paths old)) = .merge repoId paths old := by
  simp [merge]

lemma WatchEntry.mem_merge {old : Option WatchEntry} {other : String} :
    other ∈ (WatchEntry.merge repoId paths old).repoIds ↔
      other = repoId ∨ ∃ entry ∈ old, other ∈ entry.repoIds := by
  cases old with
  | none => simp [merge]
  | some entry => simp [merge]

lemma WatchEntry.merge_registered {old : Option WatchEntry}
    (same : ∀ entry ∈ old, entry.registered = paths) :
    (WatchEntry.merge repoId paths old).registered = paths := by
  cases old with
  | none => rfl
  | some entry => exact same entry rfl

lemma get_register (keys : List String) (registry : Table String WatchEntry) :
    (keys.foldl (fun registry key =>
      registry.insert key (.merge repoId paths registry[key]?)) registry)[key]? =
      if key ∈ keys then some (.merge repoId paths registry[key]?) else registry[key]? := by
  induction keys generalizing registry with
  | nil => rfl
  | cons first keys ih =>
    rw [List.foldl_cons, ih, Table.get_insert]
    by_cases same : first = key
    · subst same
      simp [WatchEntry.merge_merge]
    · simp [same, Ne.symm same]

lemma mem_foldl_insert : path ∈ paths.foldl (fun inner path => insert path inner) inner ↔
    path ∈ inner ∨ path ∈ paths := by
  induction paths generalizing inner with
  | nil => simp
  | cons first paths ih =>
    rw [List.foldl_cons, ih, Finset.mem_insert, List.mem_cons]
    tauto

lemma mem_foldl_erase : path ∈ paths.foldl (fun inner path => inner.erase path) inner ↔
    path ∈ inner ∧ path ∉ paths := by
  induction paths generalizing inner with
  | nil => simp
  | cons first paths ih =>
    rw [List.foldl_cons, ih, Finset.mem_erase, List.mem_cons]
    tauto

lemma get_unwatch : (watcher.unwatch repoId).registry[key]? = some entry ↔
    ∃ old : WatchEntry, watcher.registry[key]? = some old ∧ ¬ old.repoIds ⊆ {repoId} ∧
      entry = { old with repoIds := old.repoIds.erase repoId } := by
  unfold GitWatcher.unwatch
  dsimp only
  rw [Table.get_filter, Table.get_map, Option.map_eq_some_iff, decide_eq_true_eq]
  constructor
  · rintro ⟨⟨old, there, rfl⟩, left⟩
    refine ⟨old, there, fun alone => left ?_, rfl⟩
    exact Finset.erase_eq_empty_iff .. |>.mpr (Finset.subset_singleton_iff.mp alone)
  · rintro ⟨old, there, shared, rfl⟩
    refine ⟨⟨old, there, rfl⟩, fun none => shared ?_⟩
    exact Finset.subset_singleton_iff.mpr (Finset.erase_eq_empty_iff .. |>.mp none)

lemma mem_inner_unwatch : path ∈ (watcher.unwatch repoId).inner ↔
    path ∈ watcher.inner ∧ ¬ ∃ (key : String) (entry : WatchEntry), watcher.registry[key]? = some entry ∧
      entry.repoIds ⊆ {repoId} ∧ path ∈ entry.registered := by
  unfold GitWatcher.unwatch
  dsimp only
  rw [mem_foldl_erase]
  refine and_congr_right fun _ => not_congr ?_
  rw [List.mem_flatMap]
  constructor
  · rintro ⟨emptied, there, listed⟩
    obtain ⟨key, there⟩ := Table.mem_values.mp there
    rw [Table.get_filter, Table.get_map, Option.map_eq_some_iff, decide_eq_true_eq] at there
    obtain ⟨⟨entry, found, rfl⟩, none⟩ := there
    have alone := Finset.subset_singleton_iff.mpr (Finset.erase_eq_empty_iff .. |>.mp none)
    exact ⟨key, entry, found, alone, listed⟩
  · rintro ⟨key, entry, there, alone, listed⟩
    refine ⟨{ entry with repoIds := entry.repoIds.erase repoId }, Table.mem_values.mpr ⟨key, ?_⟩, listed⟩
    rw [Table.get_filter, Table.get_map, Option.map_eq_some_iff, decide_eq_true_eq]
    exact ⟨⟨entry, there, rfl⟩, Finset.erase_eq_empty_iff .. |>.mpr (Finset.subset_singleton_iff.mp alone)⟩

lemma mem_keysAt (h : path ∈ registeredAt disk gitDir) : path ∈ keysAt disk gitDir := by
  refine List.mem_flatMap.mpr ⟨path, h, ?_⟩
  unfold keysFor
  split
  · split_ifs
    · exact List.mem_singleton_self path
    · exact List.mem_cons_self ..
  · exact List.mem_singleton_self path

namespace Watched

lemma next_refused {error : String} (refused : disk.gitDirError = some error) :
    σ.next (.watch repoId gitDir disk) = σ := by
  unfold next GitWatcher.watch
  simp only [refused]

lemma next_watched (made : disk.gitDirError = none) : σ.next (.watch repoId gitDir disk) =
    { watcher :=
        { inner := (registeredAt disk gitDir).foldl (fun inner path => insert path inner) σ.watcher.inner
          registry := (keysAt disk gitDir).foldl (fun registry key => registry.insert key
            (.merge repoId (registeredAt disk gitDir) registry[key]?)) σ.watcher.registry }
      claims := σ.claims ∪ ((registeredAt disk gitDir).map fun path => (repoId, path)).toFinset } := by
  unfold next GitWatcher.watch
  simp only [made]

lemma mem_claims_watched {other : String} : (other, path) ∈
    σ.claims ∪ ((registeredAt disk gitDir).map fun path => (repoId, path)).toFinset ↔
      (other, path) ∈ σ.claims ∨ other = repoId ∧ path ∈ registeredAt disk gitDir := by
  rw [Finset.mem_union, List.mem_toFinset, List.mem_map]
  simp only [Prod.mk.injEq]
  constructor
  · rintro (before | ⟨_, listed, rfl, rfl⟩)
    · exact .inl before
    · exact .inr ⟨rfl, listed⟩
  · rintro (before | ⟨rfl, listed⟩)
    · exact .inl before
    · exact .inr ⟨path, listed, rfl, rfl⟩

/-- A call keeps the count if and only if it is not an unwatch that hands back too much or too little. -/
lemma counted_next_iff (counted : σ.Counted) : (σ.next call).Counted ↔ σ.Exclusive call := by
  cases call with
  | watch repoId gitDir disk =>
    refine iff_of_true ?_ trivial
    cases refused : disk.gitDirError with
    | some error =>
      rw [next_refused refused]
      exact counted
    | none =>
      intro path
      rw [next_watched refused]
      dsimp only
      rw [mem_foldl_insert, counted path]
      simp only [mem_claims_watched, exists_or]
      simp
  | unwatch repoId =>
    unfold Exclusive Counted
    refine forall_congr' fun path => ?_
    have inner : path ∈ (σ.next (.unwatch repoId)).watcher.inner ↔ _ := mem_inner_unwatch
    have claims : ∀ other, (other, path) ∈ (σ.next (.unwatch repoId)).claims ↔
        (other, path) ∈ σ.claims ∧ other ≠ repoId := fun other => Finset.mem_filter
    rw [inner, counted path]
    simp only [claims]
    constructor
    · intro agree claimed
      constructor
      · intro released other there
        by_contra ne
        exact (agree.mpr ⟨other, there, ne⟩).2 released
      · intro alone
        by_contra kept
        obtain ⟨other, there, ne⟩ := agree.mp ⟨claimed, kept⟩
        exact ne (alone other there)
    · intro exclusive
      constructor
      · rintro ⟨claimed, kept⟩
        by_contra none
        push Not at none
        exact kept ((exclusive claimed).mpr none)
      · rintro ⟨other, there, ne⟩
        exact ⟨⟨other, there⟩, fun released => ne ((exclusive ⟨other, there⟩).mp released other there)⟩

/-- The registry and the claims agree, and entries with a path in common are of the same repositories. -/
structure Inv (σ : Watched) : Prop where
  counted : σ.Counted
  claimed : ∀ (key : String) (entry : WatchEntry), σ.watcher.registry[key]? = some entry →
    ∀ repoId ∈ entry.repoIds, ∀ path ∈ entry.registered, (repoId, path) ∈ σ.claims
  listed : ∀ repoId path, (repoId, path) ∈ σ.claims →
    ∃ (key : String) (entry : WatchEntry), σ.watcher.registry[key]? = some entry ∧
      repoId ∈ entry.repoIds ∧ path ∈ entry.registered
  grouped : ∀ (key key' : String) (entry entry' : WatchEntry), σ.watcher.registry[key]? = some entry →
    σ.watcher.registry[key']? = some entry' → ∀ path ∈ entry.registered, path ∈ entry'.registered →
    entry.repoIds = entry'.repoIds

namespace Inv

lemma new : Inv Watched.new where
  counted path := by simp [Watched.new, GitWatcher.new]
  claimed key entry h := by
    rw [Watched.new, GitWatcher.new, Table.get_empty] at h
    cases h
  listed repoId path h := by
    rw [Watched.new] at h
    exact absurd h (Finset.notMem_empty _)
  grouped key key' entry entry' h := by
    rw [Watched.new, GitWatcher.new, Table.get_empty] at h
    cases h

lemma exclusive (inv : Inv σ) : σ.Exclusive call := by
  cases call with
  | watch repoId gitDir disk => trivial
  | unwatch repoId =>
    intro path claimed
    constructor
    · rintro ⟨key, entry, there, alone, listed⟩ other claim
      obtain ⟨key', entry', there', member, listed'⟩ := inv.listed other path claim
      rw [← inv.grouped key key' entry entry' there there' path listed listed'] at member
      exact Finset.mem_singleton.mp (alone member)
    · intro only
      obtain ⟨other, claim⟩ := claimed
      obtain ⟨key, entry, there, _, listed⟩ := inv.listed other path claim
      refine ⟨key, entry, there, fun holder member => ?_, listed⟩
      exact Finset.mem_singleton.mpr (only holder (inv.claimed key entry there holder member path listed))

lemma unwatch (inv : Inv σ) : Inv (σ.next (.unwatch repoId)) where
  counted := (counted_next_iff inv.counted).mpr inv.exclusive
  claimed key entry h holder member path listed := by
    obtain ⟨old, there, _, rfl⟩ := get_unwatch.mp h
    obtain ⟨ne, member⟩ := Finset.mem_erase.mp member
    exact Finset.mem_filter.mpr ⟨inv.claimed key old there holder member path listed, ne⟩
  listed holder path h := by
    obtain ⟨claim, ne⟩ := Finset.mem_filter.mp h
    obtain ⟨key, entry, there, member, listed⟩ := inv.listed holder path claim
    refine ⟨key, _, get_unwatch.mpr ⟨entry, there, fun alone => ne ?_, rfl⟩, ?_, listed⟩
    · exact Finset.mem_singleton.mp (alone member)
    · exact Finset.mem_erase.mpr ⟨ne, member⟩
  grouped key key' entry entry' h h' path listed listed' := by
    obtain ⟨old, there, _, rfl⟩ := get_unwatch.mp h
    obtain ⟨old', there', _, rfl⟩ := get_unwatch.mp h'
    exact congrArg (·.erase repoId) (inv.grouped key key' old old' there there' path listed listed')

section

variable (made : disk.gitDirError = none)
include made

lemma get_watched (key : String) :
    (σ.next (.watch repoId gitDir disk)).watcher.registry[key]? =
      if key ∈ keysAt disk gitDir then
        some (.merge repoId (registeredAt disk gitDir) σ.watcher.registry[key]?)
      else σ.watcher.registry[key]? := by
  rw [next_watched made]
  exact get_register ..

lemma fits_registered (fits : σ.Fits (.watch repoId gitDir disk))
    (mine : key ∈ keysAt disk gitDir) :
    ∀ old ∈ σ.watcher.registry[key]?, old.registered = registeredAt disk gitDir := by
  intro old there
  obtain free | ⟨taken, _⟩ := fits made
  · exact absurd mine (free key old there).1
  · obtain ⟨old', there', same⟩ := taken key mine
    obtain rfl := Option.some.inj (there.symm.trans there')
    exact same

lemma fits_others (fits : σ.Fits (.watch repoId gitDir disk))
    (other : key ∉ keysAt disk gitDir) (there : σ.watcher.registry[key]? = some entry)
    (listed : path ∈ registeredAt disk gitDir) : path ∉ entry.registered := by
  intro shared
  obtain free | ⟨_, mineOnly⟩ := fits made
  · exact (free key entry there).2 path listed shared
  · exact other (mineOnly key entry there path listed shared)

end

lemma fits_grouped (inv : Inv σ) (made : disk.gitDirError = none)
    (fits : σ.Fits (.watch repoId gitDir disk)) {key' other : String} (mine : key ∈ keysAt disk gitDir)
    (mine' : key' ∈ keysAt disk gitDir) (listed : path ∈ registeredAt disk gitDir)
    (member : ∃ old ∈ σ.watcher.registry[key]?, other ∈ old.repoIds) :
    ∃ old ∈ σ.watcher.registry[key']?, other ∈ old.repoIds := by
  obtain ⟨old, there, member⟩ := member
  obtain free | ⟨taken, _⟩ := fits made
  · exact absurd mine (free key old there).1
  · obtain ⟨old', there', same'⟩ := taken key' mine'
    have same := fits_registered made fits mine old there
    refine ⟨old', there', ?_⟩
    rwa [← inv.grouped key key' old old' there there' path (same ▸ listed) (same' ▸ listed)]

/-- A watch that fits. -/
lemma watch (inv : Inv σ) (fits : σ.Fits (.watch repoId gitDir disk)) :
    Inv (σ.next (.watch repoId gitDir disk)) := by
  cases made : disk.gitDirError with
  | some error =>
    rw [next_refused made]
    exact inv
  | none =>
    have claims (holder path : String) : (holder, path) ∈ (σ.next (.watch repoId gitDir disk)).claims ↔
        (holder, path) ∈ σ.claims ∨ holder = repoId ∧ path ∈ registeredAt disk gitDir := by
      rw [next_watched made]
      exact mem_claims_watched
    refine ⟨(counted_next_iff inv.counted).mpr trivial, ?_, ?_, ?_⟩
    · intro key entry h holder member path listed
      rw [claims]
      rw [get_watched made] at h
      split_ifs at h with mine
      · obtain rfl := Option.some.inj h
        have same := fits_registered made fits mine
        rw [WatchEntry.merge_registered same] at listed
        obtain rfl | ⟨old, there, member⟩ := WatchEntry.mem_merge.mp member
        · exact .inr ⟨rfl, listed⟩
        · exact .inl (inv.claimed key old there holder member path (same old there ▸ listed))
      · exact .inl (inv.claimed key entry h holder member path listed)
    · intro holder path h
      obtain before | ⟨rfl, listed⟩ := (claims holder path).mp h
      · obtain ⟨key, entry, there, member, listed⟩ := inv.listed holder path before
        by_cases mine : key ∈ keysAt disk gitDir
        · have same := fits_registered made fits mine
          refine ⟨key, _, (get_watched made key).trans (if_pos mine), ?_, ?_⟩
          · exact WatchEntry.mem_merge.mpr (.inr ⟨entry, there, member⟩)
          · rw [WatchEntry.merge_registered same, ← same entry there]
            exact listed
        · exact ⟨key, entry, (get_watched made key).trans ((if_neg mine).trans there), member, listed⟩
      · have mine := mem_keysAt listed
        refine ⟨path, _, (get_watched made path).trans (if_pos mine), ?_, ?_⟩
        · exact WatchEntry.mem_merge.mpr (.inl rfl)
        · rw [WatchEntry.merge_registered (fits_registered made fits mine)]
          exact listed
    · intro key key' entry entry' h h' path listed listed'
      rw [get_watched made] at h h'
      split_ifs at h h' with mine mine' mine'
      · obtain rfl := Option.some.inj h
        obtain rfl := Option.some.inj h'
        rw [WatchEntry.merge_registered (fits_registered made fits mine)] at listed
        ext other
        rw [WatchEntry.mem_merge, WatchEntry.mem_merge]
        exact or_congr_right
          ⟨inv.fits_grouped made fits mine mine' listed, inv.fits_grouped made fits mine' mine listed⟩
      · obtain rfl := Option.some.inj h
        rw [WatchEntry.merge_registered (fits_registered made fits mine)] at listed
        exact absurd listed' (fits_others made fits mine' h' listed)
      · obtain rfl := Option.some.inj h'
        rw [WatchEntry.merge_registered (fits_registered made fits mine')] at listed'
        exact absurd listed (fits_others made fits mine h listed')
      · exact inv.grouped key key' entry entry' h h' path listed listed'

end Inv

/-- In a run in which every watch fits, exactly the paths are watched after each call that a repository has
registered which is still watched. In any run, this holds as long as every unwatch finds that the entries
its repository alone is left in list the paths that it alone has registered, and no longer. -/
theorem git_watcher_counted (calls : List WatchCall) :
    (LTS.EnabledAll Fits next .new calls →
      LTS.EnabledAll (fun σ call => (σ.next call).Counted) next .new calls) ∧
    (LTS.EnabledAll (fun σ call => (σ.next call).Counted) next .new calls ↔
      LTS.EnabledAll Exclusive next .new calls) := by
  constructor
  · intro fits
    refine fits.imp (Q := Inv) (fun σ call inv fits => ?_) .new
    have kept : Inv (σ.next call) := by
      cases call with
      | watch repoId gitDir disk => exact inv.watch fits
      | unwatch repoId => exact inv.unwatch
    exact ⟨kept.counted, kept⟩
  · refine LTS.enabledAll_iff (Q := Counted) (fun σ call counted => ?_) Inv.new.counted
    exact ⟨counted_next_iff counted, (counted_next_iff counted).mpr⟩

/-- Two repositories over one git directory, which is as it was at the second watch. -/
theorem git_watcher_shared :
    LTS.EnabledAll (fun σ call => (σ.next call).Counted) next .new
      [.watch "a" "/r/.git" ⟨none, none, some⟩, .watch "b" "/r/.git" ⟨none, none, some⟩, .unwatch "a",
        .unwatch "b"] := by
  refine (git_watcher_counted _).1 ⟨fun _ => .inl ?_, fun _ => .inr ⟨?_, ?_⟩, trivial, trivial, trivial⟩
  · intro key entry h
    rw [new, GitWatcher.new, Table.get_empty] at h
    cases h
  · intro key mine
    refine ⟨_, (Inv.get_watched rfl key).trans (if_pos mine), ?_⟩
    rw [new, GitWatcher.new, Table.get_empty]
    rfl
  · intro key entry h path _ _
    rw [Inv.get_watched rfl] at h
    split_ifs at h with mine
    · exact mine
    · rw [new, GitWatcher.new, Table.get_empty] at h
      cases h

/-- A repository is watched while its git directory has no refs, and a second one over the same directory
when there are. The unwatch of the second one hands back the git directory, which the first one needs. -/
theorem git_watcher_blinded :
    ¬ LTS.EnabledAll (fun σ call => (σ.next call).Counted) next .new
      [.watch "a" "/r/.git" ⟨none, some "not found", some⟩, .watch "b" "/r/.git" ⟨none, none, some⟩,
        .unwatch "b"] := by
  rintro ⟨_, _, counted, _⟩
  have there := (counted "/r/.git").mpr ⟨"a", by decide⟩
  exact absurd there (by decide +kernel)

end Watched

end KiCore.Project.Scm

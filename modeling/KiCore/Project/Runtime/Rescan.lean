import KiCore.Project.Runtime.Coherence
import KiCore.Project.Runtime.Debouncer
import KiCore.Project.Runtime.Diff

/-!
# The targeted rescan

A node is looked at again by the names that are said to have changed or as a whole level. Both give
the same changes and the same listing whenever the names cover what has changed since the last scan
(`targeted_rescan`). The listing that a node keeps is not the one that was scanned last: a fact that
is not reported (another inode, another target of a link, the time of a directory) is not stored
either. What carries over from scan to scan is that nothing is left to report (`InStep`).
-/

namespace KiCore.Project

open KiCore.Lib

def Settled : Option EntryFact → Option EntryFact → Prop
  | none, none => True
  | some of, some nf => nf.kind = of.kind ∧ (of.kind = .file → isMtimeChange of nf = false)
  | _, _ => False

def InStep (old fresh : Listing) : Prop :=
  ∀ name : String, Settled old[name]? fresh[name]?

/-- The entries of a directory that are not noise. -/
def exposed (dir : Listing) : Listing :=
  dir.filter fun name _ => ¬ shouldHide name

def shown (entries : List (String × EntryFact)) : List (String × Kind) :=
  entries.map fun entry => (entry.1, entry.2.kind)

def TreeModel.visible (tree : TreeModel) (canonical : String) : Option (List (String × Kind)) :=
  (tree.snapshot canonical).map fun snapshot => shown snapshot.entries

/-- An entry that is not noise is another one. -/
def Changed (dir dir' : Listing) (name : String) : Prop :=
  shouldHide name = false ∧ dir[name]? ≠ dir'[name]?

def Hint.names : Hint → List String
  | .all => []
  | .childNames names => names

/-- The calls of a provider are consistent: they answer from one state of the directory. -/
structure Provides (rts : FsRuntimeRegistry) (fs : FsCalls) (canonical : String) (dir : Listing)
    (hint : Hint) : Prop where
  readDir : ∃ entries, fs.readDir canonical = .ok entries ∧
    ∀ name : String, (collect entries)[name]? = (exposed dir)[name]?
  stat : ∀ name ∈ hint.names, shouldHide name = false →
    ∃ uri, rts.childUri canonical name = .ok uri ∧ ∀ n, fs.stat n uri = .ok dir[name]?

/-- A directory is mounted, and had the given state when it was scanned last. -/
inductive Scanned (rts : FsRuntimeRegistry) (canonical : String) : TreeModel → Listing → Prop where
  | mount {tree tree' : TreeModel} {fs dir snapshot} : tree.nodes[canonical]? = none →
    Provides rts fs canonical dir .all → tree.mount rts fs canonical = (.ok snapshot, tree') →
    Scanned rts canonical tree' dir
  | apply {tree : TreeModel} {fs dir dir' hint} : Scanned rts canonical tree dir →
    Provides rts fs canonical dir' hint → (∀ name, Changed dir dir' name → hint.Covers name) →
    Scanned rts canonical (tree.apply rts fs canonical hint).2 dir'
  /-- What is done to other directories. -/
  | elsewhere {tree tree' : TreeModel} {dir} : Scanned rts canonical tree dir →
    tree'.nodes[canonical]? = tree.nodes[canonical]? → Scanned rts canonical tree' dir

variable {rts : FsRuntimeRegistry} {tree tree' : TreeModel} {fs : FsCalls} {canonical name : String}
  {old fresh fresh' dir dir' : Listing} {hint : Hint} {names : List String}

lemma get_exposed (dir : Listing) (name : String) :
    (exposed dir)[name]? = if shouldHide name then none else dir[name]? := by
  cases found : (exposed dir)[name]? with
  | some fact =>
    obtain ⟨there, visible⟩ := Table.get_filter.mp found
    have visible : shouldHide name = false := by simpa using visible
    rw [visible, there]
    rfl
  | none =>
    cases hide : shouldHide name with
    | true => rfl
    | false =>
      cases there : dir[name]? with
      | none => rfl
      | some fact =>
        have found' : (exposed dir)[name]? = some fact := Table.get_filter.mpr ⟨there, by simp [hide]⟩
        rw [found] at found'
        cases found'

lemma eq_of_names {α : Type} {l l' : List (String × α)}
    (sorted : l.Pairwise fun a b => compare a.1 b.1 = .lt)
    (sorted' : l'.Pairwise fun a b => compare a.1 b.1 = .lt) (same : ∀ entry, entry ∈ l ↔ entry ∈ l') :
    l = l' := by
  have irrefl : Std.Irrefl fun a b : String × α => compare a.1 b.1 = .lt := by
    refine ⟨fun a lt => ?_⟩
    rw [Std.ReflOrd.compare_self] at lt
    cases lt
  have antisymm : Std.Antisymm fun a b : String × α => compare a.1 b.1 = .lt := by
    refine ⟨fun a b ab ba => ?_⟩
    have swap : compare a.1 b.1 = (compare b.1 a.1).swap := Std.OrientedCmp.eq_swap
    rw [swap, ba] at ab
    cases ab
  exact sorted.eq_of_mem_iff sorted' same

lemma shown_congr (same : ∀ name : String, (fresh[name]?).map EntryFact.kind =
    (fresh'[name]?).map EntryFact.kind) : shown fresh.toList = shown fresh'.toList := by
  have sorted (listing : Listing) :
      (shown listing.toList).Pairwise fun a b => compare a.1 b.1 = .lt :=
    List.pairwise_map.mpr Std.TreeMap.ordered_keys_toList
  have mem (listing : Listing) (entry : String × Kind) :
      entry ∈ shown listing.toList ↔ (listing[entry.1]?).map EntryFact.kind = some entry.2 := by
    obtain ⟨name, kind⟩ := entry
    simp only [shown, List.mem_map, Prod.exists, Std.TreeMap.mem_toList_iff_getElem?_eq_some,
      Option.map_eq_some_iff, Prod.mk.injEq]
    constructor
    · rintro ⟨name, fact, there, rfl, rfl⟩
      exact ⟨fact, there, rfl⟩
    · rintro ⟨fact, there, rfl⟩
      exact ⟨name, fact, there, rfl, rfl⟩
  refine eq_of_names (sorted fresh) (sorted fresh') fun entry => ?_
  rw [mem, mem, same]

lemma Settled.refl (fact : Option EntryFact) : Settled fact fact := by
  cases fact with
  | none => trivial
  | some fact =>
    refine ⟨rfl, fun _ => ?_⟩
    unfold isMtimeChange
    cases fact.mtimeMs with
    | none => rfl
    | some mtime => simp

lemma Settled.kind {of nf : Option EntryFact} (settled : Settled of nf) :
    of.map EntryFact.kind = nf.map EntryFact.kind := by
  cases of with
  | none => cases nf with
    | none => rfl
    | some nf => exact settled.elim
  | some of => cases nf with
    | none => exact settled.elim
    | some nf => exact congrArg some settled.1.symm

lemma settled_none {nf : Option EntryFact} : Settled none nf ↔ nf = none := by
  cases nf with
  | none => exact ⟨fun _ => rfl, fun _ => trivial⟩
  | some nf => exact ⟨fun h => h.elim, fun h => nomatch h⟩

lemma mem_modified : name ∈ modified old fresh ↔ ∃ of nf, old[name]? = some of ∧
    fresh[name]? = some nf ∧ nf.kind = of.kind ∧ of.kind = .file ∧ isMtimeChange of nf = true := by
  rw [modified, List.mem_map]
  constructor
  · rintro ⟨⟨name', of⟩, mem, rfl⟩
    obtain ⟨there, quiet⟩ := List.mem_filter.mp mem
    have there := Std.TreeMap.mem_toList_iff_getElem?_eq_some.mp there
    cases found : fresh[name']? with
    | none => simp [found] at quiet
    | some nf =>
      simp only [found, Bool.and_eq_true, decide_eq_true_eq] at quiet
      exact ⟨of, nf, there, rfl, quiet.1.1, quiet.1.2, quiet.2⟩
  · rintro ⟨of, nf, there, found, same, file, moved⟩
    refine ⟨(name, of), List.mem_filter.mpr ⟨?_, ?_⟩, rfl⟩
    · exact Std.TreeMap.mem_toList_iff_getElem?_eq_some.mpr there
    · simp [found, same, file, moved]

lemma diff_eq_nil : diff old fresh = [] ↔
    removed old fresh = [] ∧ added old fresh = [] ∧ modified old fresh = [] := by
  constructor
  · intro nil
    obtain ⟨⟨⟨renames, additions⟩, removals⟩, modifications⟩ := by
      simpa only [diff, List.append_eq_nil_iff] using nil
    -- every removed entry is in a pair, and every pair is a change
    have none : removed old fresh = [] := by
      rw [← pairUp.map_fst sameFile (removed old fresh) (added old fresh), List.map_eq_nil_iff]
      refine List.eq_nil_iff_forall_not_mem.mpr fun pair mem => ?_
      cases partner : pair.2 with
      | some af =>
        refine List.eq_nil_iff_forall_not_mem.mp renames (.renamed pair.1.1 af.1) ?_
        exact List.mem_filterMap.mpr ⟨pair, mem, by rw [partner]; rfl⟩
      | none =>
        refine List.eq_nil_iff_forall_not_mem.mp removals (.removed pair.1.1) ?_
        exact List.mem_map.mpr ⟨pair, List.mem_filter.mpr ⟨mem, by rw [partner]; rfl⟩, rfl⟩
    rw [none] at additions
    exact ⟨none, List.map_eq_nil_iff.mp additions, List.map_eq_nil_iff.mp modifications⟩
  · rintro ⟨removed, added, modified⟩
    rw [diff, removed, added, modified]
    rfl

lemma inStep_of_nil (removed : removed old fresh = []) (added : added old fresh = [])
    (modified : modified old fresh = []) : InStep old fresh := by
  intro name
  have removed := List.eq_nil_iff_forall_not_mem.mp removed
  cases there : old[name]? with
  | none =>
    rw [settled_none]
    cases found : fresh[name]? with
    | none => rfl
    | some nf =>
      have mem : (name, nf) ∈ KiCore.Project.added old fresh :=
        mem_added.mpr ⟨found, by simp [there]⟩
      rw [added] at mem
      cases mem
  | some of =>
    cases found : fresh[name]? with
    | none => exact removed (name, of) (mem_removed.mpr ⟨there, by simp [found]⟩)
    | some nf =>
      have same : nf.kind = of.kind := by
        by_contra ne
        refine removed (name, of) (mem_removed.mpr ⟨there, fun nf' found' => ?_⟩)
        cases found.symm.trans found'
        exact ne
      refine ⟨same, fun file => Bool.eq_false_iff.mpr fun moved => ?_⟩
      have mem : name ∈ KiCore.Project.modified old fresh :=
        mem_modified.mpr ⟨of, nf, there, found, same, file, moved⟩
      rw [modified] at mem
      cases mem

lemma InStep.nil (inStep : InStep old fresh) :
    removed old fresh = [] ∧ added old fresh = [] ∧ modified old fresh = [] := by
  refine ⟨List.eq_nil_iff_forall_not_mem.mpr ?_, List.eq_nil_iff_forall_not_mem.mpr ?_,
    List.eq_nil_iff_forall_not_mem.mpr ?_⟩
  · rintro ⟨name, of⟩ mem
    obtain ⟨there, other⟩ := mem_removed.mp mem
    have settled := inStep name
    rw [there] at settled
    cases found : fresh[name]? with
    | none => rw [found] at settled; exact settled
    | some nf => rw [found] at settled; exact other nf found settled.1
  · rintro ⟨name, nf⟩ mem
    obtain ⟨found, other⟩ := mem_added.mp mem
    have settled := inStep name
    rw [found] at settled
    cases there : old[name]? with
    | none => rw [there] at settled; exact settled
    | some of => rw [there] at settled; exact other of there settled.1
  · intro name mem
    obtain ⟨of, nf, there, found, -, file, moved⟩ := mem_modified.mp mem
    have settled := inStep name
    rw [there, found] at settled
    rw [settled.2 file] at moved
    cases moved

lemma diff_eq_nil_iff : diff old fresh = [] ↔ InStep old fresh := by
  rw [diff_eq_nil]
  exact ⟨fun ⟨removed, added, modified⟩ => inStep_of_nil removed added modified, InStep.nil⟩

/-- The fresh listings are the same but for entries that the first one keeps from the old listing
and of which the other has nothing to report. -/
def Alike (old fresh fresh' : Listing) : Prop :=
  ∀ name : String, fresh[name]? = fresh'[name]? ∨
    fresh[name]? = old[name]? ∧ Settled old[name]? fresh'[name]?

namespace Alike

variable (alike : Alike old fresh fresh')

include alike

lemma inStep : InStep fresh fresh' := by
  intro name
  rcases alike name with e | ⟨kept, quiet⟩
  · rw [e]
    exact .refl _
  · rwa [kept]

lemma removed_eq : removed old fresh = removed old fresh' := by
  refine List.filter_congr fun entry mem => ?_
  have there := Std.TreeMap.mem_toList_iff_getElem?_eq_some.mp mem
  rcases alike entry.1 with e | ⟨kept, quiet⟩
  · rw [e]
  · rw [kept, there]
    rw [there] at quiet
    cases found : fresh'[entry.1]? with
    | none => rw [found] at quiet; exact quiet.elim
    | some nf => rw [found] at quiet; simp [quiet.1]

lemma kindChanged_eq : kindChanged old fresh = kindChanged old fresh' := by
  refine List.filterMap_congr fun entry mem => ?_
  have there := Std.TreeMap.mem_toList_iff_getElem?_eq_some.mp mem
  rcases alike entry.1 with e | ⟨kept, quiet⟩
  · rw [e]
  · rw [kept, there]
    rw [there] at quiet
    cases found : fresh'[entry.1]? with
    | none => rw [found] at quiet; exact quiet.elim
    | some nf => rw [found] at quiet; simp [quiet.1]

lemma modified_eq : modified old fresh = modified old fresh' := by
  refine congrArg (List.map Prod.fst) (List.filter_congr fun entry mem => ?_)
  have there := Std.TreeMap.mem_toList_iff_getElem?_eq_some.mp mem
  rcases alike entry.1 with e | ⟨kept, quiet⟩
  · rw [e]
  · have still := Settled.refl (some entry.2)
    rw [kept, there]
    rw [there] at quiet
    cases found : fresh'[entry.1]? with
    | none => rw [found] at quiet; exact quiet.elim
    | some nf =>
      rw [found] at quiet
      by_cases file : entry.2.kind = .file
      · simp [quiet.2 file, still.2 file]
      · simp [file]

lemma new_eq : (fresh.toList.filter fun entry => ¬ old.contains entry.1) =
    fresh'.toList.filter fun entry => ¬ old.contains entry.1 := by
  refine eq_of_names (Std.TreeMap.ordered_keys_toList.filter _)
    (Std.TreeMap.ordered_keys_toList.filter _) ?_
  rintro ⟨name, nf⟩
  rw [mem_new, mem_new]
  refine and_congr_left fun absent => ?_
  rcases alike name with e | ⟨kept, quiet⟩
  · rw [e]
  · rw [absent, settled_none] at quiet
    rw [kept, absent, quiet]

lemma diff_eq : diff old fresh = diff old fresh' := by
  unfold diff added
  rw [alike.removed_eq, alike.kindChanged_eq, alike.new_eq, alike.modified_eq]

end Alike

lemma restat_spec (provides : ∀ name ∈ names, shouldHide name = false →
      ∃ uri, rts.childUri canonical name = .ok uri ∧ ∀ n, fs.stat n uri = .ok dir[name]?)
    (n : Nat) (listing : Listing) :
    ∃ fresh, rts.restat fs canonical n listing names = .ok fresh ∧ ∀ name : String,
      fresh[name]? = if name ∈ names ∧ shouldHide name = false then dir[name]? else listing[name]? := by
  induction names generalizing n listing with
  | nil => exact ⟨listing, rfl, fun name => by simp⟩
  | cons first names ih =>
    have ih := ih fun name mem => provides name (List.mem_cons_of_mem _ mem)
    unfold FsRuntimeRegistry.restat
    cases hide : shouldHide first with
    | true =>
      obtain ⟨fresh, restat, get⟩ := ih n listing
      refine ⟨fresh, restat, fun name => ?_⟩
      rw [get]
      refine if_congr ?_ rfl rfl
      simp only [List.mem_cons]
      constructor
      · exact fun h => ⟨.inr h.1, h.2⟩
      · rintro ⟨rfl | mem, visible⟩
        · rw [hide] at visible
          cases visible
        · exact ⟨mem, visible⟩
    | false =>
      obtain ⟨uri, child, stat⟩ := provides first List.mem_cons_self hide
      rw [child, if_neg Bool.false_ne_true]
      dsimp only
      rw [stat]
      -- the name is stored or erased as it is found, and may come again in the rest
      cases found : dir[first]? with
      | some fact =>
        obtain ⟨fresh, restat, get⟩ := ih (n + 1) (listing.insert first fact)
        refine ⟨fresh, restat, fun name => ?_⟩
        rw [get, Table.get_insert]
        grind
      | none =>
        obtain ⟨fresh, restat, get⟩ := ih (n + 1) (listing.erase first)
        refine ⟨fresh, restat, fun name => ?_⟩
        rw [get, Table.get_erase]
        grind

lemma scan_spec (inStep : InStep old (exposed dir)) (provides : Provides rts fs canonical dir' hint)
    (covers : ∀ name, Changed dir dir' name → hint.Covers name) :
    ∃ fresh, rts.scan fs canonical old hint = .ok fresh ∧ Alike old fresh (exposed dir') := by
  cases hint with
  | all =>
    obtain ⟨entries, read, get⟩ := provides.readDir
    refine ⟨collect entries, ?_, fun name => .inl (get name)⟩
    unfold FsRuntimeRegistry.scan
    dsimp only
    rw [read]
  | childNames names =>
    obtain ⟨fresh, restat, get⟩ := restat_spec provides.stat 0 old
    refine ⟨fresh, restat, fun name => ?_⟩
    have quiet := inStep name
    rw [get, get_exposed]
    rw [get_exposed] at quiet
    cases hide : shouldHide name with
    | true =>
      -- noise is in no listing
      rw [hide, if_pos rfl] at quiet
      rw [if_neg (by simp), if_pos rfl]
      exact .inl (by simpa using quiet.kind)
    | false =>
      rw [hide, if_neg Bool.false_ne_true] at quiet
      rw [if_neg Bool.false_ne_true]
      by_cases mem : name ∈ names
      · exact .inl (if_pos ⟨mem, rfl⟩)
      · rw [if_neg fun h => mem h.1]
        have same : dir[name]? = dir'[name]? := by
          by_contra ne
          exact mem (covers name ⟨hide, ne⟩)
        exact .inr ⟨rfl, same ▸ quiet⟩

/-- A mounted directory of which there was nothing to report after the last scan. -/
def Mounted (rts : FsRuntimeRegistry) (canonical : String) (tree : TreeModel) (dir : Listing) : Prop :=
  rts.runtimeFor canonical = .ok () ∧
    ∃ node, tree.nodes[canonical]? = some node ∧ InStep node.entries (exposed dir)

lemma Mounted.apply (mounted : Mounted rts canonical tree dir)
    (provides : Provides rts fs canonical dir' hint)
    (covers : ∀ name, Changed dir dir' name → hint.Covers name) :
    Mounted rts canonical (tree.apply rts fs canonical hint).2 dir' ∧
      ∃ node, tree.nodes[canonical]? = some node ∧
        (tree.apply rts fs canonical hint).1 = .ok (if diff node.entries (exposed dir') = [] then none
          else some { canonical, changes := diff node.entries (exposed dir') }) ∧
        (InStep node.entries (exposed dir') → (tree.apply rts fs canonical hint).2 = tree) := by
  obtain ⟨runtime, node, there, inStep⟩ := mounted
  obtain ⟨fresh, scan, alike⟩ := scan_spec inStep provides covers
  rw [TreeModel.apply_eq there runtime scan, alike.diff_eq]
  by_cases same : diff node.entries (exposed dir') = []
  · rw [if_pos same]
    exact ⟨⟨runtime, node, there, diff_eq_nil_iff.mp same⟩, node, there, by rw [if_pos same],
      fun _ => rfl⟩
  · rw [if_neg same]
    refine ⟨⟨runtime, _, (Table.get_insert _ _ _ _).trans (if_pos rfl), alike.inStep⟩, node, there, ?_, ?_⟩
    · rw [if_neg same]
    · exact fun h => absurd (diff_eq_nil_iff.mpr h) same

lemma Scanned.mounted (scanned : Scanned rts canonical tree dir) : Mounted rts canonical tree dir := by
  induction scanned with
  | @mount tree tree' fs dir snapshot absent provides mount =>
    obtain ⟨entries, read, get⟩ := provides.readDir
    rcases tree.mount_cases rts fs canonical with ⟨node, there, -⟩ | ⟨-, runtime, -, entries', read', eq⟩ |
        ⟨-, -, e, armed, eq⟩
    · rw [absent] at there
      cases there
    · cases read.symm.trans read'
      cases eq.symm.trans mount
      refine ⟨runtime, _, (Table.get_insert _ _ _ _).trans (if_pos rfl), fun name => ?_⟩
      rw [← get]
      exact .refl _
    · cases eq.symm.trans mount
  | apply _ provides covers ih => exact (ih.apply provides covers).1
  | elsewhere _ same ih =>
    obtain ⟨runtime, node, there, inStep⟩ := ih
    exact ⟨runtime, node, same.trans there, inStep⟩

lemma Mounted.visible (mounted : Mounted rts canonical tree dir) :
    tree.visible canonical = some (shown (exposed dir).toList) := by
  obtain ⟨-, node, there, inStep⟩ := mounted
  unfold TreeModel.visible TreeModel.snapshot
  rw [there]
  exact congrArg some (shown_congr fun name => (inStep name).kind)

/-- A look at the names that have changed gives the changes and the entries that a look at the whole
level gives, none if nothing has changed, and what the debouncer drains covers every name that was
reported. -/
theorem targeted_rescan (scanned : Scanned rts canonical tree dir) :
    (∀ (fs : FsCalls) (dir' : Listing) (hint : Hint), Provides rts fs canonical dir' hint →
      (∀ name, Changed dir dir' name → hint.Covers name) →
      (tree.apply rts fs canonical hint).1 = (tree.apply rts fs canonical .all).1 ∧
      (tree.apply rts fs canonical hint).2.visible canonical =
        (tree.apply rts fs canonical .all).2.visible canonical ∧
      (tree.apply rts fs canonical hint).2.visible canonical = some (shown (exposed dir').toList) ∧
      ((∀ name, ¬ Changed dir dir' name) → tree.apply rts fs canonical hint = (.ok none, tree))) ∧
    ∀ (fileName : String → Option String) (events : List RawEvent),
      (∃ event ∈ events, event.canonical = canonical) →
      ∃ hint, (events.foldl (Debouncer.push fileName) .new).drain.1.filterMap
          (Command.rescan canonical) = [hint] ∧
        ∀ event ∈ events, event.canonical = canonical →
          ∀ name, event.Reports fileName name → hint.Covers name := by
  constructor
  · intro fs dir' hint provides covers
    have whole : Provides rts fs canonical dir' .all := ⟨provides.readDir, by simp [Hint.names]⟩
    obtain ⟨after, node, there, outcome, still⟩ := scanned.mounted.apply provides covers
    obtain ⟨after', node', there', outcome', -⟩ :=
      scanned.mounted.apply whole fun _ _ => trivial
    cases there.symm.trans there'
    refine ⟨outcome.trans outcome'.symm, after.visible.trans after'.visible.symm, after.visible, ?_⟩
    intro same
    obtain ⟨-, node', there', inStep⟩ := scanned.mounted
    cases there.symm.trans there'
    have quiet : InStep node.entries (exposed dir') := by
      intro name
      have settled := inStep name
      rw [get_exposed] at settled ⊢
      cases hide : shouldHide name with
      | true => rwa [hide] at settled
      | false =>
        rw [hide] at settled
        have eq : dir[name]? = dir'[name]? := by
          by_contra ne
          exact same name ⟨hide, ne⟩
        rwa [← eq]
    rw [if_pos (diff_eq_nil_iff.mpr quiet)] at outcome
    exact Prod.ext outcome (still quiet)
  · intro fileName events about
    obtain ⟨pending, gathered, covers⟩ := Debouncer.covers_pushAll fileName events about
    refine ⟨pending.hint, ?_, covers⟩
    rw [Debouncer.rescan_drain, gathered]
    rfl

def listingOf (name : String) (fact : EntryFact) : FsCalls where
  watch := fun _ => .ok ()
  readDir := fun _ => .ok [(name, fact)]
  stat := fun _ _ => .ok (some fact)

def fileA : EntryFact :=
  { kind := .file, inode := 1, symlinkTarget := none, mtimeMs := some 10 }

def dirA : EntryFact :=
  { kind := .dir, inode := 2, symlinkTarget := none, mtimeMs := none }

lemma provides_listingOf {fact : EntryFact} (visible : shouldHide name = false)
    (only : hint.names ⊆ [name]) (child : ∃ uri, rts.childUri canonical name = .ok uri) :
    Provides rts (listingOf name fact) canonical (collect [(name, fact)]) hint where
  readDir := by
    refine ⟨_, rfl, fun name' => ?_⟩
    rw [get_exposed]
    cases hide : shouldHide name' with
    | false => rfl
    | true =>
      have ne : name ≠ name' := by
        rintro rfl
        rw [visible] at hide
        cases hide
      exact (Table.get_insert _ _ _ _).trans ((if_neg ne).trans Table.get_empty)
  stat := by
    intro name' mem _
    cases List.mem_singleton.mp (only mem)
    obtain ⟨uri, child⟩ := child
    refine ⟨uri, child, fun n => ?_⟩
    exact congrArg Except.ok ((Table.get_insert _ _ _ _).trans (if_pos rfl)).symm

/-- A file becomes a directory, and only its name is looked at. -/
theorem targeted_rescan_kind :
    ((TreeModel.new.mount Shard.localFiles (listingOf "a" fileA) "file:///p").2.apply Shard.localFiles
      (listingOf "a" dirA) "file:///p" (.childNames ["a"])).2.visible "file:///p" =
        some (shown (exposed (collect [("a", dirA)])).toList) := by
  have visible : shouldHide "a" = false := by decide +kernel
  have child : ∃ uri, Shard.localFiles.childUri "file:///p" "a" = .ok uri := ⟨_, rfl⟩
  have scanned : Scanned Shard.localFiles "file:///p"
      (TreeModel.new.mount Shard.localFiles (listingOf "a" fileA) "file:///p").2
      (collect [("a", fileA)]) := by
    have absent : TreeModel.new.nodes["file:///p"]? = none := Table.get_empty
    have provides : Provides Shard.localFiles (listingOf "a" fileA) "file:///p"
        (collect [("a", fileA)]) .all :=
      provides_listingOf visible (by simp [Hint.names]) child
    exact .mount absent provides rfl
  refine ((targeted_rescan scanned).1 _ _ _
    (provides_listingOf visible (List.Subset.refl _) child) ?_).2.2.1
  intro name changed
  by_contra other
  have ne : "a" ≠ name := fun e => other (List.mem_singleton.mpr e.symm)
  refine changed.2 (Eq.trans (b := none) ?_ (Eq.symm ?_))
  · exact (Table.get_insert _ _ _ _).trans ((if_neg ne).trans Table.get_empty)
  · exact (Table.get_insert _ _ _ _).trans ((if_neg ne).trans Table.get_empty)

end KiCore.Project

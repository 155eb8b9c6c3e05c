import KiCore.Lib.EditScript
import KiCore.Project.Runtime.TreeModel

/-!
# What a diff does to a replica

A replica keeps the kinds of a directory by their names and makes the changes of a delta in their
order. It follows a diff if and only if every name that has changed its kind was given up before it
was taken again (`shows_replay_iff`): the old file of the name must be one of those that a rename
takes away, as the removals come after the additions and would take the new one with them, and the
new file must not come from a rename of a smaller name, as that is made before the old one is taken
away.
-/

namespace KiCore.Project

open KiCore.Lib

abbrev Replica : Type := Table String Kind

def Change.edit : Change → Edit String Kind
  | .added name kind => .put name kind
  | .removed name => .drop name
  | .renamed source target => .move source target
  | .modified name => .touch name

def Replica.replay (replica : Replica) (changes : List Change) : Replica :=
  Edit.replay replica (changes.map Change.edit)

/-- A replica shows the names and the kinds of a listing. -/
def Shows (replica : Replica) (listing : Listing) : Prop :=
  ∀ name : String, replica[name]? = (listing[name]?).map EntryFact.kind

/-- What a file is known by when its name changes. -/
def identity (fact : EntryFact) : Option (Nat × Kind) :=
  if fact.inode = 0 then none else some (fact.inode, fact.kind)

/-- How many entries of smaller names are the file of a fact. -/
def before (entries : List (String × EntryFact)) (name : String) (fact : EntryFact) : Nat :=
  entries.countP fun entry => compare entry.1 name = .lt ∧ identity entry.2 = identity fact

/-- The old file of a name that has changed its kind is one of those that are renamed, and the new
one does not come from a smaller name. -/
def Followable (old fresh : Listing) : Prop :=
  ∀ (name : String) (of nf : EntryFact), old[name]? = some of → fresh[name]? = some nf →
    nf.kind ≠ of.kind →
    (of.inode ≠ 0 ∧ before (removed old fresh) name of <
      (added old fresh).countP fun entry => identity entry.2 = identity of) ∧
    (nf.inode = 0 ∨ before (removed old fresh) name nf ≤ before (kindChanged old fresh) name nf)

variable {old fresh : Listing} {name : String} {of nf fact : EntryFact} {entry : String × EntryFact}

lemma mem_removed : (name, of) ∈ removed old fresh ↔
    old[name]? = some of ∧ ∀ nf, fresh[name]? = some nf → nf.kind ≠ of.kind := by
  rw [removed, List.mem_filter, Std.TreeMap.mem_toList_iff_getElem?_eq_some]
  cases fresh[name]? with
  | none => simp
  | some nf => simp

lemma mem_kindChanged : (name, nf) ∈ kindChanged old fresh ↔
    fresh[name]? = some nf ∧ ∃ of, old[name]? = some of ∧ nf.kind ≠ of.kind := by
  rw [kindChanged, List.mem_filterMap]
  constructor
  · rintro ⟨⟨name', of⟩, there, e⟩
    have there := Std.TreeMap.mem_toList_iff_getElem?_eq_some.mp there
    cases found : fresh[name']? with
    | none => simp [found] at e
    | some nf' =>
      simp only [found] at e
      split_ifs at e with ne
      cases e
      exact ⟨found, of, there, ne⟩
  · rintro ⟨found, of, there, ne⟩
    refine ⟨(name, of), Std.TreeMap.mem_toList_iff_getElem?_eq_some.mpr there, ?_⟩
    simp only [found]
    rw [if_pos ne]

lemma mem_new : (name, nf) ∈ (fresh.toList.filter fun entry => ¬ old.contains entry.1) ↔
    fresh[name]? = some nf ∧ old[name]? = none := by
  rw [List.mem_filter, Std.TreeMap.mem_toList_iff_getElem?_eq_some, decide_eq_true_eq,
    Std.TreeMap.contains_eq_isSome_getElem?, Bool.not_eq_true, Option.isSome_eq_false_iff,
    Option.isNone_iff_eq_none]

lemma mem_added : (name, nf) ∈ added old fresh ↔
    fresh[name]? = some nf ∧ ∀ of, old[name]? = some of → nf.kind ≠ of.kind := by
  rw [added, List.mem_append, mem_kindChanged, mem_new]
  cases old[name]? with
  | none => simp
  | some of => simp

def Sorted (entries : List (String × EntryFact)) : Prop :=
  entries.Pairwise fun a b => compare a.1 b.1 = .lt

lemma sorted_removed (old fresh : Listing) : Sorted (removed old fresh) :=
  Std.TreeMap.ordered_keys_toList.filter _

lemma sorted_kindChanged (old fresh : Listing) : Sorted (kindChanged old fresh) := by
  refine List.Pairwise.filterMap _ ?_ Std.TreeMap.ordered_keys_toList
  intro a a' lt b e b' e'
  split at e
  · cases e
  · split at e'
    · cases e'
    · -- a change of kind keeps the name
      split_ifs at e e'
      cases e
      cases e'
      exact lt

lemma Sorted.nodup {entries : List (String × EntryFact)} (sorted : Sorted entries) :
    (entries.map Prod.fst).Nodup := by
  refine List.pairwise_map.mpr (sorted.imp ?_)
  intro a b lt e
  rw [e, Std.ReflOrd.compare_self] at lt
  cases lt

lemma nodup_added (old fresh : Listing) : ((added old fresh).map Prod.fst).Nodup := by
  rw [added, List.map_append]
  refine List.Nodup.append (sorted_kindChanged old fresh).nodup ?_ ?_
  · refine Sorted.nodup ?_
    exact Std.TreeMap.ordered_keys_toList.filter _
  · intro name changed new
    obtain ⟨⟨_, nf⟩, mem, rfl⟩ := List.mem_map.mp changed
    obtain ⟨⟨_, nf'⟩, mem', rfl⟩ := List.mem_map.mp new
    obtain ⟨_, of, there, _⟩ := mem_kindChanged.mp mem
    rw [(mem_new.mp mem').2] at there
    cases there

lemma sameFile_iff (rf af : String × EntryFact) :
    sameFile rf af = true ↔ (identity rf.2).isSome ∧ identity af.2 = identity rf.2 := by
  unfold sameFile identity
  by_cases h : rf.2.inode = 0
  · simp [h]
  · by_cases h' : af.2.inode = 0
    · simp [h, h', eq_comm]
    · simp [h, h']

def pairs (old fresh : Listing) : List ((String × EntryFact) × Option (String × EntryFact)) :=
  (pairUp sameFile (removed old fresh) (added old fresh)).1

def leftOver (old fresh : Listing) : List (String × EntryFact) :=
  (pairUp sameFile (removed old fresh) (added old fresh)).2

def renames (old fresh : Listing) : List (String × String) :=
  (pairs old fresh).filterMap fun pair => pair.2.map fun af => (pair.1.1, af.1)

/-- The names that are removed and not renamed. -/
def gone (old fresh : Listing) : List String :=
  ((pairs old fresh).filter fun pair => pair.2.isNone).map fun pair => pair.1.1

variable {r : Replica} {other : String}

lemma replay_diff : r.replay (diff old fresh) =
    Edit.replay (Edit.replay (Edit.moves r (renames old fresh))
        (((leftOver old fresh).map fun af => (af.1, af.2.kind)).map fun e => .put e.1 e.2))
      ((gone old fresh).map .drop) := by
  have touches : (modified old fresh).map (fun name => (Change.modified name).edit) =
      (modified old fresh).map .touch := rfl
  rw [Replica.replay, diff]
  simp only [List.map_append, List.map_map, Edit.replay_append, List.map_filterMap, Option.map_map]
  refine (Edit.replay_touches _ (modified old fresh)).trans ?_
  rw [renames, Edit.moves, List.map_filterMap, gone, List.map_map]
  simp only [Option.map_map]
  rfl

lemma get_gone (mem : name ∈ gone old fresh) : (r.replay (diff old fresh))[name]? = none := by
  rw [replay_diff, Edit.get_drops, if_pos mem]

lemma nodup_given (old fresh : Listing) :
    (((pairs old fresh).filterMap Prod.snd ++ leftOver old fresh).map Prod.fst).Nodup := by
  refine (List.Perm.nodup_iff ?_).mpr (nodup_added old fresh)
  exact (pairUp.perm_free sameFile (removed old fresh) (added old fresh)).map _

lemma given_or_left (mem : entry ∈ added old fresh) :
    (∃ rf, (rf, some entry) ∈ pairs old fresh) ∨ entry ∈ leftOver old fresh := by
  have mem := (pairUp.perm_free sameFile (removed old fresh) (added old fresh)).mem_iff.mpr mem
  rcases List.mem_append.mp mem with given | left
  · obtain ⟨⟨rf, _⟩, mem, rfl⟩ := List.mem_filterMap.mp given
    exact .inl ⟨rf, mem⟩
  · exact .inr left

lemma get_leftOver (stays : name ∉ gone old fresh) (left : (name, nf) ∈ leftOver old fresh) :
    (r.replay (diff old fresh))[name]? = some nf.kind := by
  rw [replay_diff, Edit.get_drops, if_neg stays]
  apply Edit.get_puts
  · rw [List.map_map]
    exact (List.nodup_append.mp (List.map_append ▸ nodup_given old fresh)).2.1
  · exact List.mem_map.mpr ⟨(name, nf), left, rfl⟩

lemma get_moved (stays : name ∉ gone old fresh) (notLeft : ∀ nf, (name, nf) ∉ leftOver old fresh) :
    (r.replay (diff old fresh))[name]? = (Edit.moves r (renames old fresh))[name]? := by
  rw [replay_diff, Edit.get_drops, if_neg stays]
  apply Edit.get_puts_other
  rintro e mem rfl
  obtain ⟨⟨name, nf⟩, left, rfl⟩ := List.mem_map.mp mem
  exact notLeft nf left

lemma mem_renames : (name, other) ∈ renames old fresh ↔
    ∃ of nf, ((name, of), some (other, nf)) ∈ pairs old fresh := by
  rw [renames, List.mem_filterMap]
  constructor
  · rintro ⟨⟨⟨n, of⟩, partner⟩, mem, e⟩
    cases partner with
    | none => cases e
    | some af =>
      cases e
      exact ⟨of, af.2, mem⟩
  · rintro ⟨of, nf, mem⟩
    exact ⟨_, mem, rfl⟩

lemma mem_gone : name ∈ gone old fresh ↔ ∃ of, ((name, of), none) ∈ pairs old fresh := by
  rw [gone, List.mem_map]
  constructor
  · rintro ⟨⟨⟨n, of⟩, partner⟩, mem, rfl⟩
    obtain ⟨mem, isNone⟩ := List.mem_filter.mp mem
    cases partner with
    | none => exact ⟨of, mem⟩
    | some af => cases isNone
  · rintro ⟨of, mem⟩
    exact ⟨_, List.mem_filter.mpr ⟨mem, rfl⟩, rfl⟩

lemma removed_of_pair {partner : Option (String × EntryFact)}
    (mem : (entry, partner) ∈ pairs old fresh) : entry ∈ removed old fresh := by
  rw [← pairUp.map_fst sameFile (removed old fresh) (added old fresh)]
  exact List.mem_map.mpr ⟨_, mem, rfl⟩

lemma mem_pairs (mem : ((name, of), some (other, nf)) ∈ pairs old fresh) :
    (name, of) ∈ removed old fresh ∧ (other, nf) ∈ added old fresh ∧ nf.kind = of.kind := by
  obtain ⟨there, same⟩ := pairUp.mem_free mem
  refine ⟨removed_of_pair mem, there, ?_⟩
  simp [sameFile] at same
  exact same.2

lemma pair_of_removed (mem : entry ∈ removed old fresh) :
    ∃ partner, (entry, partner) ∈ pairs old fresh := by
  rw [← pairUp.map_fst sameFile (removed old fresh) (added old fresh)] at mem
  obtain ⟨⟨_, partner⟩, paired, rfl⟩ := List.mem_map.mp mem
  exact ⟨partner, paired⟩

lemma Sorted.before_eq {less greater : List (String × EntryFact)} {c : Nat × Kind}
    (sorted : Sorted (less ++ (name, of) :: greater)) (known : identity fact = some c) :
    before (less ++ (name, of) :: greater) name fact =
      (pairUp.ofClass (fun e => identity e.2) c less).length := by
  obtain ⟨_, tail, across⟩ := List.pairwise_append.mp sorted
  have none : ((name, of) :: greater).countP
      (fun e => compare e.1 name = .lt ∧ identity e.2 = identity fact) = 0 := by
    rw [List.countP_eq_zero]
    intro e mem h
    obtain ⟨lt, _⟩ := of_decide_eq_true h
    rcases List.mem_cons.mp mem with rfl | mem
    · rw [Std.ReflOrd.compare_self] at lt
      cases lt
    · have gt := List.rel_of_pairwise_cons tail mem
      rw [Std.OrientedOrd.eq_swap, gt] at lt
      cases lt
  rw [before, List.countP_append, none, Nat.add_zero, pairUp.ofClass, ← List.countP_eq_length_filter]
  refine List.countP_congr fun e mem => ?_
  simp [across e mem (name, of) List.mem_cons_self, known]

lemma identity_eq_none : identity fact = none ↔ fact.inode = 0 := by
  unfold identity
  split_ifs with h
  · simp [h]
  · simp [h]

lemma added_nodup (old fresh : Listing) : (added old fresh).Nodup :=
  (nodup_added old fresh).of_map _

/-- The pairing around a name that has changed its kind: when the old file of the name is renamed,
and when the new one is not what an entry before it was renamed to. -/
lemma split_pairs {less greater : List ((String × EntryFact) × Option (String × EntryFact))}
    {partner : Option (String × EntryFact)}
    (e : pairs old fresh = less ++ ((name, of), partner) :: greater) (found : fresh[name]? = some nf)
    (there : old[name]? = some of) (ne : nf.kind ≠ of.kind) :
    (partner ≠ none ↔ of.inode ≠ 0 ∧ before (removed old fresh) name of <
        (added old fresh).countP fun entry => identity entry.2 = identity of) ∧
      ((name, nf) ∉ less.filterMap Prod.snd ↔
        nf.inode = 0 ∨ before (removed old fresh) name nf ≤ before
          (kindChanged old fresh) name nf) := by
  obtain ⟨first, rest, parts, rfl, rfl⟩ :=
    pairUp.split (f := fun e => identity e.2) (g := fun e => identity e.2) sameFile_iff e
  have sorted := sorted_removed old fresh
  obtain ⟨first', rest', parts'⟩ := List.append_of_mem (mem_kindChanged.mpr ⟨found, of, there, ne⟩)
  have sorted' := sorted_kindChanged old fresh
  rw [parts] at sorted
  rw [parts'] at sorted'
  refine ⟨?_, ?_⟩
  · have numbered : of.inode ≠ 0 ↔ identity of ≠ none := not_congr identity_eq_none.symm
    have unpaired := pairUp.partner_none (f := fun e => identity e.2) (g := fun e => identity e.2)
      (a := (name, of)) first (added old fresh)
    rw [Ne, unpaired, numbered, parts]
    dsimp only
    cases known : identity of with
    | none => simp
    | some c =>
      rw [sorted.before_eq known, List.countP_eq_length_filter]
      simp [pairUp.ofClass]
  · have either := pairUp.perm_free sameFile first (added old fresh)
    have nodup := either.nodup_iff.mpr (added_nodup old fresh)
    have mem : (name, nf) ∈ added old fresh :=
      List.mem_append_left _ (mem_kindChanged.mpr ⟨found, of, there, ne⟩)
    have left : (name, nf) ∉ (pairUp sameFile first (added old fresh)).1.filterMap Prod.snd ↔
        (name, nf) ∈ (pairUp sameFile first (added old fresh)).2 := by
      constructor
      · exact fun h => (List.mem_append.mp (either.mem_iff.mpr mem)).resolve_left h
      · exact fun left given => (List.nodup_append.mp nodup).2.2 _ given _ left rfl
    have split : added old fresh = first' ++ (name, nf) ::
        (rest' ++ fresh.toList.filter fun entry => ¬ old.contains entry.1) := by
      rw [added, parts', List.append_assoc, List.cons_append]
    have unseen := pairUp.mem_left_iff (f := fun e => identity e.2) (g := fun e => identity e.2) first
      sameFile_iff (split ▸ added_nodup old fresh)
    rw [← split] at unseen
    rw [left, unseen, ← identity_eq_none, parts, parts']
    dsimp only
    cases known : identity nf with
    | none => simp
    | some c => simp [sorted.before_eq known, sorted'.before_eq known]

lemma followable_of_nil (nil : diff old fresh = []) : Followable old fresh := by
  intro name of nf there found ne
  have isRemoved : (name, of) ∈ removed old fresh := by
    refine mem_removed.mpr ⟨there, fun nf' found' => ?_⟩
    cases found.symm.trans found'
    exact ne
  obtain ⟨partner, mem⟩ := pair_of_removed isRemoved
  have change : ∃ change, change ∈ diff old fresh := by
    cases partner with
    | none =>
      refine ⟨.removed name, List.mem_append_left _ (List.mem_append_right _ ?_)⟩
      exact List.mem_map.mpr ⟨_, List.mem_filter.mpr ⟨mem, rfl⟩, rfl⟩
    | some af =>
      refine ⟨.renamed name af.1,
        List.mem_append_left _ (List.mem_append_left _ (List.mem_append_left _ ?_))⟩
      exact List.mem_filterMap.mpr ⟨_, mem, rfl⟩
  obtain ⟨change, mem⟩ := change
  rw [nil] at mem
  cases mem

/-- A replica that shows a listing in the end can follow every name that changes its kind. -/
lemma followable_of_shows (final : Shows (r.replay (diff old fresh)) fresh) : Followable old fresh := by
  intro name of nf there found ne
  have isRemoved : (name, of) ∈ removed old fresh := by
    refine mem_removed.mpr ⟨there, fun nf' found' => ?_⟩
    cases found.symm.trans found'
    exact ne
  obtain ⟨partner, here⟩ := pair_of_removed isRemoved
  obtain ⟨less, greater, e⟩ := List.append_of_mem here
  obtain ⟨leaves, arrives⟩ := split_pairs e found there ne
  have shown := final name
  rw [found, Option.map_some] at shown
  have stays : name ∉ gone old fresh := by
    intro h
    rw [get_gone h] at shown
    cases shown
  have renamed : partner ≠ none := by
    rintro rfl
    exact stays (mem_gone.mpr ⟨of, here⟩)
  refine ⟨leaves.mp renamed, arrives.mp fun given => ?_⟩
  -- The new entry was given to a smaller name, so nothing leads to the name once its old file is renamed.
  obtain ⟨⟨target, af⟩, rfl⟩ := Option.ne_none_iff_exists'.mp renamed
  have nodup := nodup_given old fresh
  rw [e, List.filterMap_append, List.filterMap_cons_some (f := Prod.snd) (b := (target, af)) rfl,
    List.append_assoc,
    List.map_append, List.cons_append, List.map_cons, List.map_append] at nodup
  have apart := (List.nodup_append.mp nodup).2.2 name (List.mem_map.mpr ⟨_, given, rfl⟩)
  have notLeft : ∀ nf, (name, nf) ∉ leftOver old fresh := fun nf left =>
    apart name (List.mem_cons_of_mem _ (List.mem_append_right _ (List.mem_map.mpr ⟨_, left, rfl⟩))) rfl
  have split : renames old fresh = less.filterMap (fun pair => pair.2.map fun af => (pair.1.1, af.1)) ++
      (name, target) :: greater.filterMap (fun pair => pair.2.map fun af => (pair.1.1, af.1)) := by
    rw [renames, e, List.filterMap_append]
    rfl
  rw [get_moved stays notLeft, split, Edit.moves_source_gone] at shown
  · cases shown
  · exact (apart target List.mem_cons_self).symm
  · intro m mem same
    obtain ⟨⟨rf, partner⟩, paired, e⟩ := List.mem_filterMap.mp mem
    cases partner with
    | none => cases e
    | some af =>
      cases e
      subst same
      exact apart af.1 (List.mem_cons_of_mem _ (List.mem_append_left _
        (List.mem_map.mpr ⟨af, List.mem_filterMap.mpr ⟨(rf, some af), paired, rfl⟩, rfl⟩))) rfl

lemma pairwise_of_split {α : Type} {R : α → α → Prop} {xs : List α}
    (h : ∀ less x greater, xs = less ++ x :: greater → ∀ y ∈ less, R y x) : xs.Pairwise R := by
  rw [List.pairwise_iff_getElem]
  intro i j hi hj lt
  refine h (xs.take j) xs[j] (xs.drop (j + 1)) ?_ xs[i] ?_
  · rw [← List.drop_eq_getElem_cons hj, List.take_append_drop]
  · exact List.mem_take_iff_getElem.mpr ⟨i, by omega, rfl⟩

/-- The renames of a diff that can be followed do not cross. -/
lemma straight_renames (followable : Followable old fresh) : Edit.Straight (renames old fresh) := by
  have changed : ∀ {name of nf}, (name, of) ∈ removed old fresh → (name, nf) ∈ added old fresh →
      old[name]? = some of ∧ fresh[name]? = some nf ∧ nf.kind ≠ of.kind := by
    intro name of nf mem mem'
    obtain ⟨there, _⟩ := mem_removed.mp mem
    obtain ⟨found, ne⟩ := mem_added.mp mem'
    exact ⟨there, found, ne of there⟩
  refine ⟨?_, ?_⟩
  · rintro ⟨name, other⟩ mem same
    obtain rfl : name = other := same
    obtain ⟨of, nf, mem⟩ := mem_renames.mp mem
    obtain ⟨mem, mem', same⟩ := mem_pairs mem
    exact (changed mem mem').2.2 same
  · have sources : (pairs old fresh).Pairwise fun p p' => p.1.1 ≠ p'.1.1 := by
      have nodup : List.Pairwise (· ≠ ·) (((pairs old fresh).map Prod.fst).map Prod.fst) := by
        rw [pairs, pairUp.map_fst]
        exact (sorted_removed old fresh).nodup
      rwa [List.pairwise_map, List.pairwise_map] at nodup
    have targets : (pairs old fresh).Pairwise fun p p' =>
        ∀ af, p.2 = some af → ∀ af', p'.2 = some af' → af.1 ≠ af'.1 := by
      have nodup := nodup_given old fresh
      rw [List.map_append] at nodup
      exact List.pairwise_filterMap.mp (List.pairwise_map.mp (List.nodup_append.mp nodup).1)
    -- A target that is a source later on is a name that changes its kind, and comes from a smaller one.
    have crossing : (pairs old fresh).Pairwise fun p p' => ∀ af, p.2 = some af → af.1 ≠ p'.1.1 := by
      refine pairwise_of_split fun less p' greater e p mem af given same => ?_
      obtain ⟨⟨name, of⟩, partner⟩ := p'
      obtain ⟨rf, partner'⟩ := p
      obtain ⟨target, nf⟩ := af
      obtain rfl : target = name := same
      obtain rfl : partner' = some (target, nf) := given
      have isAdded := (mem_pairs (e ▸ List.mem_append_left _ mem)).2.1
      have isRemoved := removed_of_pair (e ▸ List.mem_append_right less List.mem_cons_self)
      obtain ⟨there, found, ne⟩ := changed isRemoved isAdded
      have arrives := (split_pairs e found there ne).2.mpr (followable target of nf there found ne).2
      exact arrives (List.mem_filterMap.mpr ⟨_, mem, rfl⟩)
    refine List.pairwise_filterMap.mpr ((sources.and (targets.and crossing)).imp ?_)
    rintro ⟨rf, partner⟩ ⟨rf', partner'⟩ ⟨ne, apart, cross⟩ m e m' e'
    obtain ⟨af, rfl, rfl⟩ := Option.map_eq_some_iff.mp e
    obtain ⟨af', rfl, rfl⟩ := Option.map_eq_some_iff.mp e'
    exact ⟨ne, apart af rfl af' rfl, cross af rfl⟩

/-- A replica that shows the old listing shows the fresh one after a diff that can be followed. -/
lemma shows_of_followable (shown : Shows r old) (followable : Followable old fresh) :
    Shows (r.replay (diff old fresh)) fresh := by
  have straight := straight_renames followable
  have sources : ∀ m ∈ renames old fresh, r[m.1]?.isSome := by
    rintro ⟨name, other⟩ mem
    obtain ⟨of, nf, mem⟩ := mem_renames.mp mem
    have there := (mem_removed.mp (mem_pairs mem).1).1
    rw [shown, there]
    rfl
  intro name
  by_cases isGone : name ∈ gone old fresh
  · obtain ⟨of, unpaired⟩ := mem_gone.mp isGone
    obtain ⟨there, ne⟩ := mem_removed.mp (removed_of_pair unpaired)
    rw [get_gone isGone]
    cases found : fresh[name]? with
    | none => rfl
    | some nf =>
      -- A name that changes its kind is renamed.
      obtain ⟨less, greater, e⟩ := List.append_of_mem unpaired
      have leaves := (split_pairs e found there (ne nf found)).1
      exact absurd rfl (leaves.mpr (followable name of nf there found (ne nf found)).1)
  · by_cases isLeft : ∃ nf, (name, nf) ∈ leftOver old fresh
    · obtain ⟨nf, left⟩ := isLeft
      have found := (mem_added.mp (pairUp.left_sublist.mem left)).1
      rw [get_leftOver isGone left, found]
      rfl
    · rw [get_moved isGone (not_exists.mp isLeft)]
      by_cases isTarget : ∃ source, (source, name) ∈ renames old fresh
      · obtain ⟨source, mem⟩ := isTarget
        rw [straight.target sources mem, shown]
        obtain ⟨of, nf, mem⟩ := mem_renames.mp mem
        obtain ⟨mem, mem', same⟩ := mem_pairs mem
        rw [(mem_removed.mp mem).1, (mem_added.mp mem').1, Option.map_some, Option.map_some, same]
      · have notAdded : ∀ nf, (name, nf) ∉ added old fresh := by
          intro nf mem
          rcases given_or_left mem with ⟨⟨source, of⟩, given⟩ | left
          · exact isTarget ⟨source, mem_renames.mpr ⟨of, nf, given⟩⟩
          · exact isLeft ⟨nf, left⟩
        by_cases isSource : ∃ target, (name, target) ∈ renames old fresh
        · obtain ⟨target, mem⟩ := isSource
          rw [straight.source mem fun m mem same => isTarget ⟨m.1, same ▸ mem⟩]
          obtain ⟨of, nf, mem⟩ := mem_renames.mp mem
          obtain ⟨there, ne⟩ := mem_removed.mp (mem_pairs mem).1
          cases found : fresh[name]? with
          | none => rfl
          | some nf =>
            refine absurd (mem_added.mpr ⟨found, fun of' there' => ?_⟩) (notAdded nf)
            cases there.symm.trans there'
            exact ne nf found
        · rw [Edit.moves_other ?_ ?_, shown]
          rotate_left
          · rintro m mem rfl
            exact isSource ⟨m.2, mem⟩
          · rintro m mem rfl
            exact isTarget ⟨m.1, mem⟩
          have notRemoved : ∀ of, (name, of) ∉ removed old fresh := by
            intro of mem
            obtain ⟨partner, mem⟩ := pair_of_removed mem
            cases partner with
            | none => exact isGone (mem_gone.mpr ⟨of, mem⟩)
            | some af => exact isSource ⟨af.1, mem_renames.mpr ⟨of, af.2, mem⟩⟩
          cases there : old[name]? with
          | none =>
            cases found : fresh[name]? with
            | none => rfl
            | some nf => exact absurd (mem_added.mpr ⟨found, by simp [there]⟩) (notAdded nf)
          | some of =>
            have kept : ∃ nf, fresh[name]? = some nf ∧ nf.kind = of.kind := by
              by_contra none
              exact notRemoved of (mem_removed.mpr ⟨there, fun nf found same => none ⟨nf, found, same⟩⟩)
            obtain ⟨nf, found, same⟩ := kept
            rw [found, Option.map_some, Option.map_some, same]

/-- A replica follows a diff if and only if it can follow every name that changes its kind. -/
theorem shows_replay_iff (shown : Shows r old) :
    Shows (r.replay (diff old fresh)) fresh ↔ Followable old fresh :=
  ⟨followable_of_shows, shows_of_followable shown⟩

end KiCore.Project

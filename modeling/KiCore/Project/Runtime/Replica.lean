import KiCore.Project.Runtime.Diff
import KiCore.Project.Runtime.Coherence

/-!
# Replicas of the clients

What the subscribers of a shard hold: a snapshot replaces the replica of a directory, a delta
changes it, and a subscription that is given up takes it along. A replica stays that of the node
throughout a run if and only if every delta that reaches one can be followed, and no subscription
mounts a directory anew, with another listing than the ones that others still hold of it.
-/

namespace KiCore.Project

open KiCore.Lib

/-- A shard and the replicas of its subscribers. -/
structure Observed where
  shard : Shard
  replicas : Subscriber → String → Option Replica

namespace Observed

def new (warmBudget : Nat) : Observed :=
  { shard := .new warmBudget, replicas := fun _ _ => none }

def load (snapshot : Snapshot) : Replica :=
  snapshot.entries.foldl (fun replica entry => replica.insert entry.1 entry.2.kind) ∅

variable (replicas : Subscriber → String → Option Replica)

/-- Change the replicas that some subscribers have of a path. -/
def update (subscribers : List Subscriber) (canonical : String)
    (f : Option Replica → Option Replica) : Subscriber → String → Option Replica :=
  fun sub path => if sub ∈ subscribers ∧ path = canonical then f
    (replicas sub path) else replicas sub path

def receive : ShardOutput → Subscriber → String →
    Option Replica
  | .snapshot subscribers snapshot =>
    update replicas subscribers snapshot.canonical fun _ => some (load snapshot)
  | .delta subscribers delta =>
    update replicas subscribers delta.canonical fun replica => replica.map (·.replay delta.changes)

def forget : Command → Subscriber → String →
    Option Replica
  | .unsubscribe sub canonical _ => update replicas [sub] canonical fun _ => none
  | .dropSession session _ => fun sub path => if sub.session = session then none else replicas sub path
  | _ => replicas

/-- Run a command and hand its outputs to their subscribers. -/
def next (rts : FsRuntimeRegistry) (o : Observed) (i : FsCalls × Command) : Observed :=
  match o.shard.handle rts i.1 i.2 with
  | (.error _, shard) => { shard, replicas := forget o.replicas i.2 }
  | (.ok outputs, shard) => { shard, replicas := outputs.foldl receive (forget o.replicas i.2) }

/-- Whoever observes a directory and has a replica of it has that of the node, if there is one. -/
def FaithfulAt (o : Observed) (canonical : String) : Prop :=
  ∀ node, o.shard.tree.nodes[canonical]? = some node →
    ∀ sub ∈ o.shard.subs.reverse.image canonical, ∀ replica, o.replicas sub canonical = some replica →
      Shows replica node.entries

def Faithful (o : Observed) : Prop :=
  ∀ canonical, FaithfulAt o canonical

/-- What a reconciliation finds can be followed if a subscriber has a replica to follow with, and
what a mount reads is what the others hold that have a replica. -/
def Follows (rts : FsRuntimeRegistry) (o : Observed) (i : FsCalls × Command) : Prop :=
  match i.2 with
  | .subscribe sub canonical _ =>
    o.shard.tree.nodes[canonical]? = none → rts.runtimeFor canonical = .ok () →
      i.1.watch canonical = .ok () →
      ∀ entries, i.1.readDir canonical = .ok entries →
        ∀ other ∈ o.shard.subs.reverse.image canonical, other ≠ sub →
          ∀ replica, o.replicas other canonical = some replica → Shows replica (collect entries)
  | .apply canonical hint =>
    ∀ node, o.shard.tree.nodes[canonical]? = some node → rts.runtimeFor canonical = .ok () →
      ∀ fresh, rts.scan i.1 canonical node.entries hint = .ok fresh →
        (∃ sub ∈ o.shard.subs.reverse.image canonical, o.replicas sub canonical ≠ none) →
          Followable node.entries fresh
  | _ => True

variable {rts : FsRuntimeRegistry} {o : Observed} {fs : FsCalls} {sub other : Subscriber}
  {canonical path session : String} {now : Nat} {hint : Hint} {listing : Listing} {replica : Replica}
  {replicas : Subscriber → String → Option Replica}

lemma shows_load : Shows (load { canonical, entries := listing.toList }) listing := by
  have loaded : load { canonical, entries := listing.toList } = Edit.replay ∅
      ((listing.toList.map fun entry => (entry.1, entry.2.kind)).map fun e => .put e.1 e.2) := by
    rw [load, Edit.replay, List.foldl_map, List.foldl_map]
    rfl
  intro name
  rw [loaded]
  cases found : listing[name]? with
  | none =>
    refine (Edit.get_puts_other ?_).trans Table.get_empty
    rintro e mem rfl
    obtain ⟨entry, mem', rfl⟩ := List.mem_map.mp mem
    rw [Std.TreeMap.mem_toList_iff_getElem?_eq_some.mp mem'] at found
    cases found
  | some fact =>
    apply Edit.get_puts
    · rw [List.map_map]
      have keys := Std.TreeMap.distinct_keys_toList (t := listing)
      refine List.pairwise_map.mpr (keys.imp fun ne same => ne ?_)
      rw [Function.comp_apply, Function.comp_apply] at same
      rw [same, Std.ReflOrd.compare_self]
    · refine List.mem_map.mpr ⟨(name, fact), ?_, rfl⟩
      exact Std.TreeMap.mem_toList_iff_getElem?_eq_some.mpr found

variable {subscribers : List Subscriber}

lemma update_here {f : Option Replica → Option Replica} (mem : sub ∈ subscribers) :
    update replicas subscribers canonical f sub canonical = f (replicas sub canonical) :=
  if_pos ⟨mem, rfl⟩

lemma update_path {f : Option Replica → Option Replica} (ne : path ≠ canonical) :
    update replicas subscribers canonical f sub path = replicas sub path :=
  if_neg fun h => ne h.2

lemma update_other {f : Option Replica → Option Replica} (other : sub ∉ subscribers) :
    update replicas subscribers canonical f sub path = replicas sub path :=
  if_neg fun h => other h.1

lemma forget_some (command : Command) (h : forget replicas command sub path = some replica) :
    replicas sub path = some replica := by
  unfold forget at h
  cases command with
  | unsubscribe sub' canonical now =>
    dsimp only [update] at h
    split_ifs at h
    exact h
  | dropSession session now =>
    dsimp only at h
    split_ifs at h
    exact h
  | _ => exact h

/-- At a path, one state has no node, no subscriber and no replica that another has not. -/
structure Within (o o' : Observed) (path : String) : Prop where
  nodes : ∀ node, o.shard.tree.nodes[path]? = some node → o'.shard.tree.nodes[path]? = some node
  subscribers : ∀ sub ∈ o.shard.subs.reverse.image path, sub ∈ o'.shard.subs.reverse.image path
  replicas : ∀ sub replica, o.replicas sub path = some replica → o'.replicas sub path = some replica

variable {o' : Observed}

lemma FaithfulAt.within (faithful : FaithfulAt o path) (within : Within o' o path) :
    FaithfulAt o' path :=
  fun node there sub mem replica has =>
    faithful node (within.nodes node there) sub (within.subscribers sub mem) replica
      (within.replicas sub replica has)

lemma faithful_iff_at (canonical : String) (faithful : Faithful o)
    (elsewhere : ∀ path ≠ canonical, Within o' o path) : Faithful o' ↔ FaithfulAt o' canonical := by
  refine ⟨fun h => h canonical, fun here path => ?_⟩
  by_cases e : path = canonical
  · exact e ▸ here
  · exact (faithful path).within (elsewhere path e)

lemma faithfulAt_absent (absent : o.shard.tree.nodes[canonical]? = none) : FaithfulAt o canonical := by
  intro node there
  rw [absent] at there
  cases there

lemma faithfulAt_snapshot {node : Node} (there : o.shard.tree.nodes[canonical]? = some node)
    (loaded : ∀ sub ∈ o.shard.subs.reverse.image canonical, o.replicas sub canonical =
      some (load { canonical, entries := node.entries.toList })) : FaithfulAt o canonical := by
  intro node' there' sub mem replica has
  cases there.symm.trans there'
  cases (loaded sub mem).symm.trans has
  exact shows_load

open TreeModel

lemma next_ok {command : Command} {outputs : List ShardOutput} {shard : Shard}
    (e : o.shard.handle rts fs command = (.ok outputs, shard)) : o.next rts (fs, command) =
      { shard, replicas := outputs.foldl receive (forget o.replicas command) } := by
  rw [next, e]

lemma next_quiet {command : Command} {shard : Shard}
    (e : o.shard.handle rts fs command = (.ok [], shard)) :
    o.next rts (fs, command) = { shard, replicas := forget o.replicas command } :=
  next_ok e

lemma next_error {command : Command} {error : FsError} {shard : Shard}
    (e : o.shard.handle rts fs command = (.error error, shard)) : o.next rts (fs, command) =
      { shard, replicas := forget o.replicas command } := by
  rw [next, e]

def subscribed (o : Observed) (sub : Subscriber) (canonical : String) (tree : TreeModel) : Shard :=
  { o.shard with tree, subs := (o.shard.subs.subscribe sub canonical).2 }

variable {tree : TreeModel}

lemma mem_subscribed :
    other ∈ (o.subscribed sub canonical tree).subs.reverse.image path ↔
    canonical = path ∧ other = sub ∨ other ∈ o.shard.subs.reverse.image path :=
  MultiMap.mem_image_link

lemma within_subscribed (tree : TreeModel) (ne : path ≠ canonical)
    (nodes : ∀ node, tree.nodes[path]? = some node → o.shard.tree.nodes[path]? = some node)
    (kept : ∀ other, replicas other path = o.replicas other path) :
    Within { shard := o.subscribed sub canonical tree, replicas } o path := by
  refine ⟨nodes, fun other mem => ?_, fun other replica has => kept other ▸ has⟩
  exact (mem_subscribed.mp mem).resolve_left fun h => ne h.1.symm

lemma next_subscribe {entries : List (String × EntryFact)} (now : Nat)
    (e : o.shard.tree.mount rts fs canonical = (.ok { canonical, entries }, tree)) :
    o.next rts (fs, .subscribe sub canonical now) =
      { shard := o.subscribed sub canonical tree
        replicas := update o.replicas [sub] canonical fun _ => some
          (load { canonical, entries }) } := by
  have handled : o.shard.handle rts fs (.subscribe sub canonical now) = _ := Shard.subscribe_eq
  rw [e] at handled
  rw [next_ok handled]
  rfl

lemma next_subscribe_fails {error : FsError} (now : Nat)
    (e : o.shard.tree.mount rts fs canonical = (.error error, tree)) :
    o.next rts (fs, .subscribe sub canonical now) =
      { shard := o.subscribed sub canonical tree, replicas := o.replicas } := by
  have handled : o.shard.handle rts fs (.subscribe sub canonical now) = _ := Shard.subscribe_eq
  rw [e] at handled
  rw [next_error handled]
  rfl

lemma get_insert_other {nodes : Table String Node} {node : Node} (ne : path ≠ canonical) :
    (nodes.insert canonical node)[path]? = nodes[path]? := by
  rw [Table.get_insert, if_neg ne.symm]

lemma get_insert_self {nodes : Table String Node} {node : Node} :
    (nodes.insert canonical node)[canonical]? = some node := by
  rw [Table.get_insert, if_pos rfl]

/-- A subscription keeps the replicas faithful if and only if it does not mount, for subscribers
that hold one, a directory that has changed. -/
lemma faithful_subscribe_iff (faithful : Faithful o) (now : Nat) :
    Faithful (o.next rts (fs, .subscribe sub canonical now)) ↔
      Follows rts o (fs, .subscribe sub canonical now) := by
  -- The subscriber gets the snapshot, and everybody else keeps the replica.
  have fresh {other : Subscriber} {snapshot : Snapshot} {replica : Replica} (same : other = sub)
      (has : update o.replicas [sub] canonical (fun _ => some (load snapshot)) other canonical =
        some replica) :
      load snapshot = replica := by
    rw [same, update_here (List.mem_singleton_self _)] at has
    exact Option.some.inj has
  have others {other path f} (ne : other ≠ sub) : update o.replicas [sub] canonical f other path =
      o.replicas other path := update_other fun mem => ne (List.mem_singleton.mp mem)
  rcases mount_cases rts o.shard.tree fs canonical with
    ⟨node, there, e⟩ | ⟨absent, runtime, watch, entries, read, e⟩ | ⟨absent, fails, error, armed, e⟩
  · rw [next_subscribe now e, faithful_iff_at canonical faithful fun path ne =>
      within_subscribed _ ne (fun node h => h) fun other => update_path ne]
    refine iff_of_true ?_ fun absent => absurd (there.symm.trans absent) (Option.some_ne_none _)
    intro node' there' other mem replica has
    cases there.symm.trans there'
    by_cases same : other = sub
    · exact fresh same has ▸ shows_load
    · have mem := (mem_subscribed.mp mem).resolve_left fun h => same h.2
      dsimp only at has
      rw [others same] at has
      exact faithful canonical node there other mem replica has
  · rw [next_subscribe now e, faithful_iff_at canonical faithful fun path ne =>
      within_subscribed _ ne (fun node h => (get_insert_other ne).symm.trans h) fun other =>
        update_path ne]
    constructor
    · intro here _ _ _ entries' read' other mem ne replica has
      cases read.symm.trans read'
      refine here _ get_insert_self other (mem_subscribed.mpr (.inr mem)) replica ?_
      dsimp only
      rw [others ne, has]
    · intro follows node there other mem replica has
      cases get_insert_self.symm.trans there
      by_cases same : other = sub
      · exact fresh same has ▸ shows_load
      · have mem := (mem_subscribed.mp mem).resolve_left fun h => same h.2
        dsimp only at has
        rw [others same] at has
        exact follows absent runtime watch entries read other mem same replica has
  · rw [next_subscribe_fails now e, faithful_iff_at canonical faithful fun path ne =>
      within_subscribed { o.shard.tree with armed } ne (fun node h => h) fun other => rfl]
    refine iff_of_true (faithfulAt_absent absent) ?_
    exact fun _ runtime watch entries read => absurd ⟨runtime, watch, entries, read⟩ fails

lemma Faithful.reload (tree : TreeModel) (node : Node) (faithful : Faithful o)
    (there : tree.nodes[canonical]? = some node)
    (elsewhere : ∀ path ≠ canonical, ∀ node, tree.nodes[path]? = some node →
      o.shard.tree.nodes[path]? = some node) :
    Faithful { shard := { o.shard with tree }
               replicas := update o.replicas (o.shard.recipients canonical) canonical fun _ =>
                some (load { canonical, entries := node.entries.toList }) } := by
  refine (faithful_iff_at canonical faithful fun path ne => ?_).mpr (faithfulAt_snapshot there ?_)
  · refine ⟨elsewhere path ne, fun sub mem => mem, fun sub replica has => ?_⟩
    dsimp only at has
    rwa [update_path ne] at has
  · intro sub mem
    dsimp only
    exact update_here mem

lemma next_remount {entries : List (String × EntryFact)}
    (h : o.shard.subs.isWatched canonical = true)
    (e : (o.shard.tree.unmount rts canonical).mount rts fs canonical =
      (.ok { canonical, entries }, tree)) :
    o.next rts (fs, .remount canonical) =
      { shard := { o.shard with tree }
        replicas := update o.replicas (o.shard.recipients canonical) canonical fun _ =>
          some (load { canonical, entries }) } := by
  have handled : o.shard.handle rts fs (.remount canonical) = _ := Shard.remount_watched h
  rw [e] at handled
  rw [next_ok handled]
  rfl

lemma Faithful.remount (faithful : Faithful o) (rts : FsRuntimeRegistry) (fs : FsCalls)
    (canonical : String) : Faithful (o.next rts (fs, .remount canonical)) := by
  cases h : o.shard.subs.isWatched canonical with
  | false =>
    have handled : o.shard.handle rts fs (.remount canonical) = _ := Shard.remount_unwatched h
    rw [next_ok handled]
    exact faithful
  | true =>
    have absent : (o.shard.tree.unmount rts canonical).nodes[canonical]? = none :=
      get_unmount.trans (if_pos rfl)
    rcases mount_cases rts (o.shard.tree.unmount rts canonical) fs canonical with
      ⟨node, there, _⟩ | ⟨_, _, _, entries, _, e⟩ | ⟨_, _, error, armed, e⟩
    · rw [absent] at there
      cases there
    · rw [next_remount h e]
      refine Faithful.reload _
        { entries := collect entries, watch := { canonical } } faithful get_insert_self ?_
      intro path ne node there
      have there := (get_insert_other ne).symm.trans there
      rwa [get_unmount, if_neg ne.symm] at there
    · have handled : o.shard.handle rts fs (.remount canonical) = _ := Shard.remount_watched h
      rw [e] at handled
      rw [next_error handled]
      refine (faithful_iff_at canonical faithful fun path ne => ?_).mpr (faithfulAt_absent absent)
      refine ⟨fun node there => ?_, fun sub mem => mem, fun sub replica has => has⟩
      exact (get_unmount.trans (if_neg ne.symm)).symm.trans there

lemma next_changed {delta : DeltaBatch}
    (e : o.shard.tree.apply rts fs canonical hint = (.ok (some delta), tree)) :
    o.next rts (fs, .apply canonical hint) =
      { shard := { o.shard with tree }
        replicas := update o.replicas (o.shard.recipients canonical) delta.canonical fun replica =>
          replica.map (·.replay delta.changes) } := by
  have handled : o.shard.handle rts fs (.apply canonical hint) = _ := Shard.apply_changed e
  rw [next_ok handled]
  split_ifs with none
  · rw [none]
    congr 1
  · rfl

/-- A reconciliation keeps the replicas faithful if and only if those who have one can follow it. -/
lemma faithful_apply_iff (faithful : Faithful o) :
    Faithful (o.next rts (fs, .apply canonical hint)) ↔ Follows rts o (fs, .apply canonical hint) := by
  rcases apply_cases rts o.shard.tree fs canonical hint with
    ⟨outcome, unchanged, e⟩ | ⟨node, fresh, there, scan, ne, runtime, e⟩
  · refine iff_of_true ?_ fun node there runtime fresh scan _ => ?_
    · rcases Shard.apply_unchanged e unchanged with ⟨error, e⟩ | e
      · have handled : o.shard.handle rts fs (.apply canonical hint) = _ := e
        rw [next_error handled]
        exact faithful
      · have handled : o.shard.handle rts fs (.apply canonical hint) = _ := e
        rw [next_ok handled]
        exact faithful
    · refine followable_of_nil ?_
      by_contra ne
      rw [apply_eq there runtime scan, if_neg ne] at e
      exact unchanged _ (congrArg Prod.fst e).symm
  · rw [next_changed e, faithful_iff_at canonical faithful fun path ne => ?elsewhere]
    case elsewhere =>
      refine ⟨fun node h => (get_insert_other ne).symm.trans h, fun sub mem => mem,
        fun sub replica has => ?_⟩
      dsimp only at has
      rwa [update_path ne] at has
    constructor
    · rintro here node' there' _ fresh' scan' ⟨sub, mem, held⟩
      cases there.symm.trans there'
      cases scan.symm.trans scan'
      obtain ⟨replica, has⟩ := Option.ne_none_iff_exists'.mp held
      refine (shows_replay_iff (faithful canonical node there sub mem replica has)).mp ?_
      have recipient : sub ∈ o.shard.recipients canonical := mem
      refine here _ get_insert_self sub mem _ ?_
      dsimp only
      rw [update_here recipient, has]
      rfl
    · intro follows node' there' sub mem replica' has
      cases get_insert_self.symm.trans there'
      have recipient : sub ∈ o.shard.recipients canonical := mem
      dsimp only at has
      rw [update_here recipient, Option.map_eq_some_iff] at has
      obtain ⟨replica, has, rfl⟩ := has
      refine (shows_replay_iff (faithful canonical node there sub mem replica has)).mpr ?_
      exact follows node there runtime fresh scan ⟨sub, mem, has ▸ Option.some_ne_none _⟩

lemma Faithful.overflow (faithful : Faithful o) (rts : FsRuntimeRegistry) (fs : FsCalls)
    (canonical : String) : Faithful (o.next rts (fs, .overflow canonical)) := by
  rcases Shard.overflow_cases rts o.shard fs canonical with ⟨error, e⟩ | e |
    ⟨tree, node, there, elsewhere, e⟩
  · have handled : o.shard.handle rts fs (.overflow canonical) = _ := e
    rw [next_error handled]
    exact faithful
  · have handled : o.shard.handle rts fs (.overflow canonical) = _ := e
    rw [next_ok handled]
    exact faithful
  · have handled : o.shard.handle rts fs (.overflow canonical) = _ := e
    have reloaded := Faithful.reload tree node faithful there fun path ne node h =>
      (elsewhere path ne).symm.trans h
    rw [next_ok handled]
    split_ifs with none
    · rw [none] at reloaded
      convert reloaded using 2
      funext sub path
      exact (update_other List.not_mem_nil).symm
    · exact reloaded

lemma Faithful.within (faithful : Faithful o) (within : ∀ path, Within o' o path) : Faithful o' :=
  fun path => (faithful path).within (within path)

lemma faithful_next_iff (faithful : Faithful o) (i : FsCalls × Command) :
    Faithful (o.next rts i) ↔ Follows rts o i := by
  obtain ⟨fs, command⟩ := i
  cases command with
  | subscribe sub canonical now => exact faithful_subscribe_iff faithful now
  | unsubscribe sub canonical now =>
    have handled : o.shard.handle rts fs (.unsubscribe sub canonical now) = _ := rfl
    rw [next_quiet handled]
    refine iff_true_intro (faithful.within fun path =>
      ⟨fun node h => h, fun other mem => ?_, fun other replica => ?_⟩)
    · exact (SubscriptionRegistry.mem_reverse_unsubscribe.mp mem).1
    · exact forget_some (.unsubscribe sub canonical now)
  | remount canonical => exact iff_true_intro (faithful.remount rts fs canonical)
  | apply canonical hint => exact faithful_apply_iff faithful
  | overflow canonical => exact iff_true_intro (faithful.overflow rts fs canonical)
  | dropSession session now =>
    have handled : o.shard.handle rts fs (.dropSession session now) = _ := rfl
    rw [next_quiet handled]
    refine iff_true_intro (faithful.within fun path =>
      ⟨fun node h => h, fun other mem => ?_, fun other replica => ?_⟩)
    · exact (SubscriptionRegistry.mem_reverse_dropSession.mp mem).1
    · exact forget_some (.dropSession session now)
  | reapTick now =>
    have handled : o.shard.handle rts fs (.reapTick now) = _ := rfl
    rw [next_quiet handled]
    refine iff_true_intro (faithful.within fun path =>
      ⟨fun node h => ?_, fun other mem => ?_, fun _ _ has => has⟩)
    · rw [Shard.reapTick, Shard.evict, get_unmountAll, Shard.evict, get_unmountAll] at h
      split_ifs at h
      exact h
    · rw [Shard.reapTick, Shard.evict] at mem
      dsimp only at mem
      rw [SubscriptionRegistry.enforceWatchBudget,
        (SubscriptionRegistry.indexes_evictOldest _).2] at mem
      exact mem

/-- Throughout a run every replica is that of its node, if and only if those who have one can follow
every reconciliation, and find in a directory that is mounted again what they hold of it. -/
theorem replicas_faithful_iff (warmBudget : Nat) (cmds : List (FsCalls × Command)) :
    LTS.Throughout (next rts) Faithful (new warmBudget) cmds ↔
      LTS.EnabledAll (Follows rts) (next rts) (new warmBudget) cmds := by
  have start : Faithful (new warmBudget) := by
    intro canonical node there
    rw [new, Shard.new, TreeModel.new, Table.get_empty] at there
    cases there
  rw [LTS.throughout_iff, and_iff_right start]
  refine LTS.enabledAll_iff (Q := Faithful) (fun o i faithful => ?_) start
  exact ⟨faithful_next_iff faithful i, (faithful_next_iff faithful i).mpr⟩

def holding (name : String) (kind : Kind) (inode : Nat) : FsCalls where
  watch := fun _ => .ok ()
  readDir := fun _ => .ok [(name, { kind, inode, symlinkTarget := none, mtimeMs := none })]
  stat := fun _ _ => .ok none

def replacedFile : List (FsCalls × Command) :=
  [(holding "n" .file 1, .subscribe { session := "s", peId := "p", rel := "" } "file:///p" 0),
    (holding "n" .dir 2, .apply "file:///p" .all)]

/-- The changes add the directory and then remove the name, so that the replica is empty. -/
theorem replacedFile_lost : ¬ LTS.Throughout (next Shard.localFiles) Faithful (new 0) replacedFile := by
  rintro ⟨_, _, faithful⟩
  let last := replacedFile.foldl (next Shard.localFiles) (new 0)
  have node : (last.shard.tree.nodes["file:///p"]?).map (fun node => node.entries["n"]?.map (·.kind)) =
      some (some .dir) := by decide
  have replica : (last.replicas { session := "s", peId := "p", rel := "" } "file:///p").map (·["n"]?) =
      some none := by decide
  obtain ⟨node, there, dir⟩ := Option.map_eq_some_iff.mp node
  obtain ⟨replica, has, lost⟩ := Option.map_eq_some_iff.mp replica
  have shown := faithful "file:///p" node there { session := "s", peId := "p", rel := "" }
    (by decide) replica has "n"
  rw [lost, dir] at shown
  cases shown

end Observed

end KiCore.Project

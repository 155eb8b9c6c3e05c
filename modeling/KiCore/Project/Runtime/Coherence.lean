import KiCore.Project.Runtime.Mirror
import KiCore.Project.Runtime.Shard

/-!
# Coherence of a shard

The watches that are armed, the nodes of the tree and the paths that the registry keeps watched
should be the same. Every command keeps it so as long as the mounts it attempts succeed, and none
that fails to mount does: a subscription is registered before the mount and a watch is armed before
the listing is read, neither of which is undone, and a remount takes the old node down first.
-/

namespace KiCore.Project

open KiCore.Lib

variable {rts : FsRuntimeRegistry} {tree : TreeModel} {reg : SubscriptionRegistry} {fs : FsCalls}
  {canonical path session : String} {sub : Subscriber} {now max : Nat} {stays : Subscriber → Bool}

namespace SubscriptionRegistry

lemma isWatched_iff : reg.isWatched path = true ↔ reg.reverse[path]?.isSome ∨
    reg.grace[path]?.isSome := by
  simp [isWatched]

lemma isWatched_subscribe :
    (reg.subscribe sub canonical).2.isWatched path = true ↔ canonical = path ∨
      reg.isWatched path = true := by
  simp only [isWatched_iff, subscribe, MultiMap.link, Table.get_insert, Table.get_erase]
  split_ifs with h
  · simp [h]
  · simp [h]

lemma isWatched_leave : (reg.leave canonical stays now).2.isWatched path = reg.isWatched path := by
  rw [Bool.eq_iff_iff, isWatched_iff, isWatched_iff]
  unfold leave
  cases e : reg.reverse[canonical]? with
  | none => rfl
  | some subs =>
    dsimp only
    split_ifs with gone
    · simp only [MultiMap.retain, e, if_pos gone, Table.get_erase, Table.get_insert]
      split_ifs with h
      · subst h
        simp [e]
      · rfl
    · simp only [MultiMap.retain, e, if_neg gone, Table.get_insert]
      split_ifs with h
      · subst h
        simp [e]
      · rfl

lemma isWatched_unsubscribe : (reg.unsubscribe sub canonical now).2.isWatched path =
    reg.isWatched path :=
  isWatched_leave

lemma isWatched_dropSession : (reg.dropSession session now).2.isWatched path = reg.isWatched path := by
  refine dropSession_keeps (P := fun reg' => reg'.isWatched path = reg.isWatched path) ?_ rfl
  intro reg' canonical h
  exact isWatched_leave.trans h

lemma mem_reap : path ∈ (reg.reap now).1 ↔ ∃ evictAt, reg.grace[path]? = some evictAt ∧
    evictAt ≤ now := by
  rw [reap, Std.TreeMap.mem_keys, Std.TreeMap.mem_iff_isSome_getElem?, Option.isSome_iff_exists]
  simp only [Table.get_filter, decide_eq_true_eq]

lemma isWatched_reap (tidy : Tidy reg) :
    (reg.reap now).2.isWatched path = true ↔ reg.isWatched path = true ∧ path ∉ (reg.reap now).1 := by
  rw [isWatched_iff, isWatched_iff, get_reap, mem_reap]
  cases e : reg.grace[path]? with
  | none => simp [reap]
  | some evictAt =>
    have gone : reg.reverse[path]? = none := by
      cases live : reg.reverse[path]? with
      | none => rfl
      | some subs => exact absurd (tidy.apart path (live ▸ rfl)) (e ▸ Option.some_ne_none _)
    have kept : (reg.reap now).2.reverse[path]? = none := gone
    simp [gone, kept, Option.filter]

lemma mem_of_foldl {α : Type} {f : Option α → α → Option α}
    (picks : ∀ first entry, f first entry = some entry ∨ f first entry = first) {entries : List α}
    {first : Option α} {last : α} (h : entries.foldl f first = some last) :
    last ∈ entries ∨ first = some last := by
  induction entries generalizing first with
  | nil => exact .inr h
  | cons entry entries ih =>
    rcases ih h with mem | next
    · exact .inl (List.mem_cons_of_mem entry mem)
    · rcases picks first entry with taken | kept
      · cases taken.symm.trans next
        exact .inl List.mem_cons_self
      · exact .inr (kept.symm.trans next)

lemma oldest_warm (h : reg.oldest = some canonical) : reg.grace[canonical]?.isSome := by
  obtain ⟨entry, e, rfl⟩ := Option.map_eq_some_iff.mp h
  refine (mem_of_foldl (fun first entry => ?_) e).elim (fun mem => ?_) nofun
  · split
    · exact .inl rfl
    · split_ifs
      · exact .inl rfl
      · exact .inr rfl
  · rw [Std.TreeMap.mem_toList_iff_getElem?_eq_some.mp mem]
    rfl

lemma isWatched_evictOldest (tidy : Tidy reg) (fuel : Nat) :
    (reg.evictOldest max fuel).2.isWatched path = true ↔
      reg.isWatched path = true ∧ path ∉ (reg.evictOldest max fuel).1 := by
  induction fuel generalizing reg with
  | zero => simp [evictOldest]
  | succ fuel ih =>
    unfold evictOldest
    split_ifs
    · cases e : reg.oldest with
      | none => simp
      | some canonical =>
        have warm := oldest_warm e
        have tidy' := tidy.shrink fun path h => get_erase_none canonical h
        dsimp only
        rw [ih tidy', List.mem_cons, isWatched_iff, isWatched_iff, Table.get_erase]
        split_ifs with h
        · subst h
          have gone : reg.reverse[canonical]? = none := by
            cases live : reg.reverse[canonical]? with
            | none => rfl
            | some subs => simp [tidy.apart canonical (live ▸ rfl)] at warm
          simp [gone]
        · simp [Ne.symm h]
    · simp

end SubscriptionRegistry

namespace TreeModel

/-- Every node has the watch of its own path, and a runtime that can give it up. -/
def Served (rts : FsRuntimeRegistry) (tree : TreeModel) : Prop :=
  ∀ (canonical : String) (node : Node), tree.nodes[canonical]? = some node →
    node.watch.canonical = canonical ∧ rts.runtimeFor canonical = .ok ()

/-- The paths with an armed watch are those with a node. -/
def Tied (tree : TreeModel) : Prop :=
  ∀ canonical : String, tree.armed[canonical]?.isSome ↔ tree.nodes[canonical]?.isSome

lemma Served.new : Served rts new := by
  intro canonical node h
  rw [TreeModel.new, Table.get_empty] at h
  cases h

lemma Served.insert (node : Node) (served : Served rts tree) (watch : node.watch.canonical = canonical)
    (runtime : rts.runtimeFor canonical = .ok ()) (armed : Table String WatchHandle) :
    Served rts { nodes := tree.nodes.insert canonical node, armed } := by
  intro path node' h
  rw [Table.get_insert] at h
  split_ifs at h with e
  · cases h
    exact e ▸ ⟨watch, runtime⟩
  · exact served path node' h

lemma Served.mount (served : Served rts tree) : Served rts (tree.mount rts fs canonical).2 := by
  rcases mount_cases rts tree fs canonical with
    ⟨node, _, e⟩ | ⟨_, runtime, _, entries, _, e⟩ | ⟨_, _, _, armed, e⟩
  · rwa [e]
  · rw [e]
    exact served.insert { entries := collect entries, watch := { canonical } } rfl runtime _
  · rw [e]
    exact served

lemma get_nodes_mount (ok : tree.nodes[canonical]?.isSome ∨ Mounts rts fs canonical) :
    (tree.mount rts fs canonical).2.nodes[path]?.isSome ↔ canonical = path ∨
      tree.nodes[path]?.isSome := by
  rcases mount_cases rts tree fs canonical with
    ⟨node, there, e⟩ | ⟨_, _, _, entries, _, e⟩ | ⟨none, fails, _, armed, e⟩
  · rw [e]
    refine ⟨.inr, ?_⟩
    rintro (rfl | h)
    · exact there ▸ rfl
    · exact h
  · rw [e, Table.get_insert]
    split_ifs with h
    · simp [h]
    · simp [h]
  · rcases ok with some | mounts
    · rw [none] at some
      cases some
    · exact absurd mounts fails

lemma Tied.mount (tied : Tied tree) (ok : tree.nodes[canonical]?.isSome ∨ Mounts rts fs canonical) :
    Tied (tree.mount rts fs canonical).2 := by
  rcases mount_cases rts tree fs canonical with
    ⟨node, _, e⟩ | ⟨_, _, _, entries, _, e⟩ | ⟨none, fails, _, armed, e⟩
  · rwa [e]
  · rw [e]
    intro path
    rw [Table.get_insert, Table.get_insert]
    split_ifs
    · rfl
    · exact tied path
  · rcases ok with some | mounts
    · rw [none] at some
      cases some
    · exact absurd mounts fails

lemma Served.unmount (served : Served rts tree) : Served rts (tree.unmount rts canonical) := by
  intro path node h
  rw [get_unmount] at h
  split_ifs at h
  exact served path node h

lemma Tied.unmount (tied : Tied tree) (served : Served rts tree) :
    Tied (tree.unmount rts canonical) := by
  intro path
  rw [get_unmount]
  unfold TreeModel.unmount
  cases e : tree.nodes[canonical]? with
  | none =>
    split_ifs with h
    · subst h
      rw [tied canonical, e]
    · exact tied path
  | some node =>
    obtain ⟨watch, runtime⟩ := served canonical node e
    rw [runtime]
    dsimp only
    rw [Table.get_erase, watch]
    split_ifs
    · rfl
    · exact tied path

lemma unmountAll (paths : List String) (served : Served rts tree) (tied : Tied tree) :
    Served rts (paths.foldl (unmount rts) tree) ∧ Tied (paths.foldl (unmount rts) tree) := by
  induction paths generalizing tree with
  | nil => exact ⟨served, tied⟩
  | cons canonical paths ih => exact ih served.unmount (tied.unmount served)

lemma mount_ok (tree : TreeModel) (ok : tree.nodes[canonical]?.isSome ∨ Mounts rts fs canonical) :
    ∃ snapshot, (tree.mount rts fs canonical).1 = .ok snapshot := by
  rcases mount_cases rts tree fs canonical with
    ⟨node, _, e⟩ | ⟨_, _, _, entries, _, e⟩ | ⟨none, fails, _, armed, e⟩
  · exact ⟨_, congrArg Prod.fst e⟩
  · exact ⟨_, congrArg Prod.fst e⟩
  · rcases ok with some | mounts
    · rw [none] at some
      cases some
    · exact absurd mounts fails

lemma mount_fails (absent : tree.nodes[canonical]? = none) (fails : ¬ Mounts rts fs canonical) :
    (tree.mount rts fs canonical).2.nodes[canonical]? = none := by
  rcases mount_cases rts tree fs canonical with
    ⟨node, there, _⟩ | ⟨_, runtime, watch, entries, read, _⟩ | ⟨_, _, _, armed, e⟩
  · rw [absent] at there
    cases there
  · exact absurd ⟨runtime, watch, entries, read⟩ fails
  · rw [e]
    exact absent

lemma apply_keeps (fs : FsCalls) (canonical : String) (hint : Hint) (served : Served rts tree) :
    Served rts (tree.apply rts fs canonical hint).2 ∧
      (tree.apply rts fs canonical hint).2.armed = tree.armed ∧
      ∀ path : String, (tree.apply rts fs canonical hint).2.nodes[path]?.isSome ↔
        tree.nodes[path]?.isSome := by
  rcases apply_cases rts tree fs canonical hint with ⟨_, _, e⟩ | ⟨node, fresh, there, _, _, _, e⟩
  · rw [e]
    exact ⟨served, rfl, fun _ => Iff.rfl⟩
  · obtain ⟨watch, runtime⟩ := served canonical node there
    rw [e]
    refine ⟨served.insert { node with entries := fresh } watch runtime _, rfl, fun path => ?_⟩
    rw [Table.get_insert]
    split_ifs with h
    · subst h
      simp [there]
    · rfl

end TreeModel

namespace Shard

open TreeModel

variable {shard : Shard} {hint : Hint}

/-- What every command keeps, whatever fails. -/
structure Sound (rts : FsRuntimeRegistry) (shard : Shard) : Prop where
  tidy : SubscriptionRegistry.Tidy shard.subs
  served : Served rts shard.tree

/-- The armed watches, the mounted nodes and the watched paths are the same. -/
structure Coherent (shard : Shard) : Prop where
  tied : Tied shard.tree
  watched : ∀ path : String, shard.tree.nodes[path]?.isSome ↔ shard.subs.isWatched path = true

lemma Sound.new : Sound rts (new max) :=
  ⟨.new, .new⟩

lemma Coherent.new : Coherent (new max) := by
  refine ⟨fun path => ?_, fun path => ?_⟩
  · rw [Shard.new, TreeModel.new, Table.get_empty, Table.get_empty]
    rfl
  · rw [Shard.new, TreeModel.new, SubscriptionRegistry.isWatched_iff, SubscriptionRegistry.new,
      Table.get_empty, Table.get_empty, Table.get_empty]
    simp

lemma apply_snd : (shard.apply rts fs canonical hint).2 =
    { shard with tree := (shard.tree.apply rts fs canonical hint).2 } := by
  unfold apply
  cases shard.tree.apply rts fs canonical hint with
  | mk outcome tree =>
    cases outcome with
    | error e => rfl
    | ok delta => cases delta <;> rfl

lemma overflow_snd : (shard.overflow rts fs canonical).2 =
    { shard with tree := (shard.tree.apply rts fs canonical .all).2 } := by
  unfold overflow
  cases there : shard.tree.snapshot canonical with
  | none =>
    have none : shard.tree.nodes[canonical]? = none := by simpa [snapshot] using there
    rw [TreeModel.apply, none]
  | some _ =>
    cases shard.tree.apply rts fs canonical .all with
    | mk outcome tree =>
      cases outcome with
      | error e => rfl
      | ok delta =>
        dsimp only
        cases tree.snapshot canonical <;> rfl

lemma Coherent.evict {gone : List String × SubscriptionRegistry} (coherent : Coherent shard)
    (served : Served rts shard.tree)
    (kept : ∀ path, gone.2.isWatched path = true ↔ shard.subs.isWatched path = true ∧ path ∉ gone.1) :
    Coherent (shard.evict rts gone) := by
  refine ⟨(unmountAll gone.1 served coherent.tied).2, fun path => ?_⟩
  rw [Shard.evict, get_unmountAll, kept, ← coherent.watched path]
  split_ifs with h
  · simp [h]
  · simp [h]

lemma Sound.evict (gone : List String × SubscriptionRegistry) (sound : Sound rts shard)
    (tidy : SubscriptionRegistry.Tidy gone.2) : Sound rts (shard.evict rts gone) := by
  refine ⟨tidy, ?_⟩
  have served := sound.served
  rw [Shard.evict]
  dsimp only
  generalize shard.tree = tree at served ⊢
  induction gone.1 generalizing tree with
  | nil => exact served
  | cons canonical paths ih => exact ih _ served.unmount

lemma Coherent.reapTick (coherent : Coherent shard) (sound : Sound rts shard) (now : Nat) :
    Coherent (shard.reapTick rts now) := by
  have reaped := sound.evict (shard.subs.reap now) sound.tidy.reap
  have coherent' : Coherent (shard.evict rts (shard.subs.reap now)) :=
    coherent.evict sound.served fun path => SubscriptionRegistry.isWatched_reap sound.tidy
  exact coherent'.evict reaped.served fun path =>
    SubscriptionRegistry.isWatched_evictOldest reaped.tidy _

lemma Sound.reapTick (sound : Sound rts shard) (now : Nat) : Sound rts (shard.reapTick rts now) := by
  have reaped := sound.evict (shard.subs.reap now) sound.tidy.reap
  exact reaped.evict _ (reaped.tidy.evictOldest _)

/-- Run a command with what its calls return, whether it fails or not. -/
def next (rts : FsRuntimeRegistry) (shard : Shard) (i : FsCalls × Command) : Shard :=
  (shard.handle rts i.1 i.2).2

/-- A subscription or a remount that fails leaves the shard as it was. -/
def Undone (rts : FsRuntimeRegistry) (shard : Shard) (i : FsCalls × Command) : Prop :=
  match i.2 with
  | .subscribe .. | .remount _ => ∀ e, (shard.handle rts i.1 i.2).1 = .error e →
      shard.next rts i = shard
  | _ => True

/-- The calls succeed that mount a path: those of a subscription to a path that is not watched, and
those of a remount of a path that is. -/
def MountsSucceed (rts : FsRuntimeRegistry) (shard : Shard) (i : FsCalls × Command) : Prop :=
  match i.2 with
  | .subscribe _ canonical _ => shard.subs.isWatched canonical = false → Mounts rts i.1 canonical
  | .remount canonical => shard.subs.isWatched canonical = true → Mounts rts i.1 canonical
  | _ => True

lemma Sound.next (sound : Sound rts shard) (i : FsCalls × Command) : Sound rts (shard.next rts i) := by
  obtain ⟨fs, command⟩ := i
  cases command with
  | subscribe sub canonical now =>
    rw [Shard.next, handle, subscribe_eq]
    exact ⟨sound.tidy.subscribe, sound.served.mount⟩
  | unsubscribe sub canonical now => exact ⟨sound.tidy.unsubscribe, sound.served⟩
  | remount canonical =>
    rw [Shard.next, handle]
    cases h : shard.subs.isWatched canonical with
    | false =>
      rw [remount_unwatched h]
      exact sound
    | true =>
      rw [remount_watched h]
      exact ⟨sound.tidy, sound.served.unmount.mount⟩
  | apply canonical hint =>
    rw [Shard.next, handle, apply_snd]
    exact ⟨sound.tidy, (apply_keeps fs canonical _ sound.served).1⟩
  | overflow canonical =>
    rw [Shard.next, handle, overflow_snd]
    exact ⟨sound.tidy, (apply_keeps fs canonical _ sound.served).1⟩
  | dropSession session now => exact ⟨sound.tidy.dropSession, sound.served⟩
  | reapTick now => exact sound.reapTick now

lemma coherent_subscribe_iff (coherent : Coherent shard) (now : Nat) :
    Coherent (shard.next rts (fs, .subscribe sub canonical now)) ↔
      MountsSucceed rts shard (fs, .subscribe sub canonical now) := by
  rw [next, handle, subscribe_eq, MountsSucceed]
  constructor
  · intro after cold
    by_contra fails
    have absent : shard.tree.nodes[canonical]? = none := by
      have h := coherent.watched canonical
      rw [cold] at h
      simpa using h
    have there := (after.watched canonical).mpr
      (SubscriptionRegistry.isWatched_subscribe.mpr (.inl rfl))
    rw [mount_fails absent fails] at there
    cases there
  · intro mounts
    have ok : shard.tree.nodes[canonical]?.isSome ∨ Mounts rts fs canonical := by
      cases h : shard.subs.isWatched canonical with
      | true => exact .inl ((coherent.watched canonical).mpr h)
      | false => exact .inr (mounts h)
    refine ⟨coherent.tied.mount ok, fun path => ?_⟩
    rw [get_nodes_mount ok, SubscriptionRegistry.isWatched_subscribe, coherent.watched path]

lemma coherent_remount_iff (sound : Sound rts shard) (coherent : Coherent shard) :
    Coherent (shard.next rts (fs, .remount canonical)) ↔ MountsSucceed rts shard
      (fs, .remount canonical) := by
  rw [next, handle, MountsSucceed]
  cases h : shard.subs.isWatched canonical with
  | false =>
    rw [remount_unwatched h]
    exact ⟨fun _ e => absurd (h.symm.trans e) (by decide), fun _ => coherent⟩
  | true =>
    rw [remount_watched h]
    have absent : (shard.tree.unmount rts canonical).nodes[canonical]? = none :=
      get_unmount.trans (if_pos rfl)
    constructor
    · intro after _
      by_contra fails
      have there := (after.watched canonical).mpr h
      rw [mount_fails absent fails] at there
      cases there
    · intro mounts
      have ok := Or.inr (a := ((shard.tree.unmount rts canonical).nodes[canonical]?.isSome : Prop))
        (mounts h)
      refine ⟨(coherent.tied.unmount sound.served).mount ok, fun path => ?_⟩
      rw [get_nodes_mount ok, get_unmount, ← coherent.watched path]
      split_ifs with e
      · subst e
        simp [(coherent.watched canonical).mpr h]
      · simp [e]

lemma Coherent.reconcile (coherent : Coherent shard) (sound : Sound rts shard) :
    Coherent { shard with tree := (shard.tree.apply rts fs canonical hint).2 } := by
  obtain ⟨_, armed, nodes⟩ := apply_keeps fs canonical hint sound.served
  refine ⟨fun path => ?_, fun path => ?_⟩
  · rw [nodes path, armed]
    exact coherent.tied path
  · rw [nodes path]
    exact coherent.watched path

lemma coherent_next_iff (sound : Sound rts shard) (coherent : Coherent shard) (i : FsCalls × Command) :
    Coherent (shard.next rts i) ↔ MountsSucceed rts shard i := by
  obtain ⟨fs, command⟩ := i
  cases command with
  | subscribe sub canonical now => exact coherent_subscribe_iff coherent now
  | unsubscribe sub canonical now =>
    refine iff_true_intro ⟨coherent.tied, fun path => ?_⟩
    exact (coherent.watched path).trans (by rw [← SubscriptionRegistry.isWatched_unsubscribe]; rfl)
  | remount canonical => exact coherent_remount_iff sound coherent
  | apply canonical hint =>
    rw [next, handle, apply_snd]
    exact iff_true_intro (coherent.reconcile sound)
  | overflow canonical =>
    rw [next, handle, overflow_snd]
    exact iff_true_intro (coherent.reconcile sound)
  | dropSession session now =>
    refine iff_true_intro ⟨coherent.tied, fun path => ?_⟩
    exact (coherent.watched path).trans (by rw [← SubscriptionRegistry.isWatched_dropSession]; rfl)
  | reapTick now => exact iff_true_intro (coherent.reapTick sound now)

lemma undone_of_mounts (coherent : Coherent shard) (i : FsCalls × Command)
    (mounts : MountsSucceed rts shard i) : Undone rts shard i := by
  obtain ⟨fs, command⟩ := i
  cases command with
  | subscribe sub canonical now =>
    have ok : shard.tree.nodes[canonical]?.isSome ∨ Mounts rts fs canonical := by
      cases h : shard.subs.isWatched canonical with
      | true => exact .inl ((coherent.watched canonical).mpr h)
      | false => exact .inr (mounts h)
    obtain ⟨snapshot, delivered⟩ := mount_ok shard.tree ok
    intro e fails
    rw [handle, subscribe_eq, delivered] at fails
    cases fails
  | remount canonical =>
    intro e fails
    rw [handle] at fails
    cases h : shard.subs.isWatched canonical with
    | false =>
      rw [remount_unwatched h] at fails
      cases fails
    | true =>
      obtain ⟨snapshot, delivered⟩ := mount_ok (shard.tree.unmount rts canonical) (.inr (mounts h))
      rw [remount_watched h, delivered] at fails
      cases fails
  | _ => trivial

/-- The shard is coherent throughout a run, and every subscription and remount that fails is undone,
if and only if no command of the run fails to mount. -/
theorem shard_coherent_iff (warmBudget : Nat) (cmds : List (FsCalls × Command)) :
    (LTS.Throughout (next rts) Coherent (new warmBudget) cmds ∧
      LTS.EnabledAll (Undone rts) (next rts) (new warmBudget) cmds) ↔
    LTS.EnabledAll (MountsSucceed rts) (next rts) (new warmBudget) cmds := by
  have start : Sound rts (new warmBudget) ∧ Coherent (new warmBudget) := ⟨.new, .new⟩
  have coherent : LTS.Throughout (next rts) Coherent (new warmBudget) cmds ↔
      LTS.EnabledAll (MountsSucceed rts) (next rts) (new warmBudget) cmds := by
    rw [LTS.throughout_iff, and_iff_right start.2]
    refine LTS.enabledAll_iff (Q := fun shard => Sound rts shard ∧ Coherent shard)
      (fun shard i ok => ?_) start
    have kept := coherent_next_iff ok.1 ok.2 i
    exact ⟨kept, fun mounts => ⟨ok.1.next i, kept.mpr mounts⟩⟩
  rw [coherent]
  refine ⟨fun h => h.1, fun h => ⟨h, ?_⟩⟩
  refine h.imp (Q := fun shard => Sound rts shard ∧ Coherent shard) (fun shard i ok mounts => ?_) start
  exact ⟨undone_of_mounts ok.2 i mounts, ok.1.next i, (coherent_next_iff ok.1 ok.2 i).mpr mounts⟩

def localFiles : FsRuntimeRegistry where
  file := true
  urlScheme := fun _ => some "file"
  uriToPath := some
  join := fun dir name => dir ++ "/" ++ name
  toFileUri := some

/-- A directory that can be watched, but not be read. -/
def unreadable : FsCalls where
  watch := fun _ => .ok ()
  readDir := fun uri => .error (.permissionDenied uri)
  stat := fun _ _ => .ok none

/-- The subscription of a directory that cannot be read fails, and leaves the subscriber and the
watch. -/
theorem subscribe_leaks : ¬ (LTS.Throughout (next localFiles) Coherent (new 0)
      [(unreadable, .subscribe { session := "s", peId := "p", rel := "" } "file:///p" 0)] ∧
    LTS.EnabledAll (Undone localFiles) (next localFiles) (new 0)
      [(unreadable, .subscribe { session := "s", peId := "p", rel := "" } "file:///p" 0)]) := by
  rintro ⟨⟨_, leaked⟩, _⟩
  obtain ⟨_, _, entries, read⟩ := (coherent_next_iff .new .new _).mp leaked (by decide)
  cases read

end Shard

end KiCore.Project

import KiCore.Project.Runtime.Subscription
import KiCore.Project.Runtime.TreeModel

/-!
# Shard

Port of the `Shard` of `actor.rs`: one tree and one subscription registry, and the commands that a
sequential worker runs on them. A command returns its outputs or the error it stopped with, and the
shard it left behind in either case.
-/

namespace KiCore.Project

open KiCore.Lib

inductive Command where
  | subscribe (sub : Subscriber) (canonical : String) (now : Nat)
  | unsubscribe (sub : Subscriber) (canonical : String) (now : Nat)
  | remount (canonical : String)
  | apply (canonical : String) (hint : Hint)
  | overflow (canonical : String)
  | dropSession (session : String) (now : Nat)
  | reapTick (now : Nat)
  deriving DecidableEq

inductive ShardOutput where
  | snapshot (subscribers : List Subscriber) (snapshot : Snapshot)
  | delta (subscribers : List Subscriber) (delta : DeltaBatch)

structure Shard where
  tree : TreeModel
  subs : SubscriptionRegistry
  warmBudget : Nat

namespace Shard

def new (warmBudget : Nat) : Shard :=
  { tree := .new, subs := .new, warmBudget }

def recipients (shard : Shard) (canonical : String) : List Subscriber :=
  (shard.subs.subscribersOf canonical).getD []

variable (rts : FsRuntimeRegistry) (shard : Shard)

/-- The snapshot of a directory that is mounted if it is not yet. -/
def deliver (fs : FsCalls) (canonical : String) : Except FsError Snapshot × Shard :=
  let (snapshot, tree) := shard.tree.mount rts fs canonical
  (snapshot, { shard with tree })

def subscribe (rts : FsRuntimeRegistry) (shard : Shard) (fs : FsCalls) (sub : Subscriber)
    (canonical : String) : Except FsError (List ShardOutput) × Shard :=
  let (outcome, subs) := shard.subs.subscribe sub canonical
  let shard := { shard with subs }
  let (delivered, shard) := match outcome with
    | .mount => shard.deliver rts fs canonical
    | .rescuedFromGrace | .alreadyLive =>
      match shard.tree.snapshot canonical with
      | some snapshot => (.ok snapshot, shard)
      | none => shard.deliver rts fs canonical
  match delivered with
  | .error e => (.error e, shard)
  | .ok snapshot => (.ok [.snapshot [sub] snapshot], shard)

def remount (fs : FsCalls) (canonical : String) : Except FsError (List ShardOutput) × Shard :=
  if ¬ shard.subs.isWatched canonical then (.ok [], shard)
  else
    let shard := { shard with tree := shard.tree.unmount rts canonical }
    let (delivered, shard) := shard.deliver rts fs canonical
    match delivered with
    | .error e => (.error e, shard)
    | .ok snapshot => (.ok [.snapshot (shard.recipients canonical) snapshot], shard)

def apply (rts : FsRuntimeRegistry) (shard : Shard) (fs : FsCalls) (canonical : String) (hint : Hint) :
    Except FsError (List ShardOutput) × Shard :=
  let (outcome, tree) := shard.tree.apply rts fs canonical hint
  let shard := { shard with tree }
  match outcome with
  | .error e => (.error e, shard)
  | .ok none => (.ok [], shard)
  | .ok (some delta) =>
    let subscribers := shard.recipients canonical
    (.ok (if subscribers = [] then [] else [.delta subscribers delta]), shard)

def overflow (fs : FsCalls) (canonical : String) : Except FsError (List ShardOutput) × Shard :=
  match shard.tree.snapshot canonical with
  | none => (.ok [], shard)
  | some _ =>
    let (outcome, tree) := shard.tree.apply rts fs canonical .all
    let shard := { shard with tree }
    match outcome with
    | .error e => (.error e, shard)
    | .ok _ =>
      let subscribers := shard.recipients canonical
      match shard.tree.snapshot canonical with
      | some snapshot => (.ok (if subscribers = [] then [] else [.snapshot subscribers snapshot]),
          shard)
      | none => (.ok [], shard)

/-- Unmount what the registry does not keep warm any more. -/
def evict (gone : List String × SubscriptionRegistry) : Shard :=
  { shard with tree := gone.1.foldl (TreeModel.unmount rts) shard.tree, subs := gone.2 }

def reapTick (now : Nat) : Shard :=
  let shard := shard.evict rts (shard.subs.reap now)
  shard.evict rts (shard.subs.enforceWatchBudget shard.warmBudget)

def handle (fs : FsCalls) :
    Command → Except FsError (List ShardOutput) × Shard
  | .subscribe sub canonical _ => shard.subscribe rts fs sub canonical
  | .unsubscribe sub canonical now =>
    (.ok [], { shard with subs := (shard.subs.unsubscribe sub canonical now).2 })
  | .remount canonical => shard.remount rts fs canonical
  | .apply canonical hint => shard.apply rts fs canonical hint
  | .overflow canonical => shard.overflow rts fs canonical
  | .dropSession session now => (.ok [], { shard with subs := (shard.subs.dropSession session now).2 })
  | .reapTick now => (.ok [], shard.reapTick rts now)

variable {rts : FsRuntimeRegistry} {shard : Shard} {fs : FsCalls} {sub : Subscriber}
  {canonical : String}
  {hint : Hint} {tree : TreeModel} {delta : DeltaBatch} {outcome : Except FsError (Option DeltaBatch)}

lemma subscribe_eq : shard.subscribe rts fs sub canonical =
    ((shard.tree.mount rts fs canonical).1.map fun snapshot => [.snapshot [sub] snapshot],
      { shard with
        tree := (shard.tree.mount rts fs canonical).2
        subs := (shard.subs.subscribe sub canonical).2 }) := by
  unfold subscribe deliver
  cases shard.subs.subscribe sub canonical with
  | mk outcome subs =>
    dsimp only
    cases there : shard.tree.snapshot canonical with
    | none =>
      cases shard.tree.mount rts fs canonical with
      | mk delivered tree => cases outcome <;> cases delivered <;> rfl
    | some snapshot =>
      have mounted : shard.tree.mount rts fs canonical = (.ok snapshot, shard.tree) := by
        unfold TreeModel.mount
        rw [there]
      rw [mounted]
      cases outcome <;> rfl

lemma remount_watched (h : shard.subs.isWatched canonical = true) : shard.remount rts fs canonical =
    (((shard.tree.unmount rts canonical).mount rts fs canonical).1.map fun snapshot =>
        [.snapshot (shard.recipients canonical) snapshot],
      { shard with tree := ((shard.tree.unmount rts canonical).mount rts fs canonical).2 }) := by
  unfold remount deliver
  rw [h, if_neg (by simp)]
  dsimp only
  cases ((shard.tree.unmount rts canonical).mount rts fs canonical).1 with
  | error e => rfl
  | ok snapshot => rfl

lemma remount_unwatched (h : shard.subs.isWatched canonical = false) :
    shard.remount rts fs canonical = (.ok [], shard) := by
  unfold remount
  rw [h, if_pos (by simp)]

lemma apply_unchanged (e : shard.tree.apply rts fs canonical hint = (outcome, shard.tree))
    (unchanged : ∀ delta, outcome ≠ .ok (some delta)) :
      (∃ error, shard.apply rts fs canonical hint = (.error error, shard)) ∨
      shard.apply rts fs canonical hint = (.ok [], shard) := by
  unfold apply
  rw [e]
  cases outcome with
  | error error => exact .inl ⟨error, rfl⟩
  | ok found =>
    cases found with
    | none => exact .inr rfl
    | some delta => exact absurd rfl (unchanged delta)

lemma apply_changed (e : shard.tree.apply rts fs canonical hint = (.ok (some delta), tree)) :
    shard.apply rts fs canonical hint =
      (.ok (if shard.recipients canonical = [] then [] else
        [.delta (shard.recipients canonical) delta]),
        { shard with tree }) := by
  unfold apply
  rw [e]
  rfl

lemma overflow_cases (rts : FsRuntimeRegistry) (shard : Shard) (fs : FsCalls) (canonical : String) :
    (∃ error, shard.overflow rts fs canonical = (.error error, shard)) ∨
    shard.overflow rts fs canonical = (.ok [], shard) ∨
    ∃ (tree : TreeModel) (node : Node), tree.nodes[canonical]? = some node ∧
      (∀ path ≠ canonical, tree.nodes[path]? = shard.tree.nodes[path]?) ∧
      shard.overflow rts fs canonical =
        (.ok (if shard.recipients canonical = [] then []
          else [.snapshot (shard.recipients canonical) { canonical, entries := node.entries.toList }]),
          { shard with tree }) := by
  unfold overflow
  cases there : shard.tree.nodes[canonical]? with
  | none =>
    refine .inr (.inl ?_)
    rw [TreeModel.snapshot, there]
    rfl
  | some node =>
    have mounted : shard.tree.snapshot canonical = some
      { canonical, entries := node.entries.toList } := by
      rw [TreeModel.snapshot, there]
      rfl
    rcases TreeModel.apply_cases rts shard.tree fs canonical .all with
      ⟨outcome, unchanged, e⟩ | ⟨node', fresh, _, _, _, _, e⟩
    · rw [mounted, e]
      cases outcome with
      | error error => exact .inl ⟨error, rfl⟩
      | ok found =>
        refine .inr (.inr ⟨shard.tree, node, there, fun _ _ => rfl, ?_⟩)
        dsimp only
        rw [mounted]
    · have inserted : (shard.tree.nodes.insert canonical { node' with entries := fresh })[canonical]? =
          some { node' with entries := fresh } := by
        rw [Table.get_insert, if_pos rfl]
      rw [mounted, e]
      refine .inr (.inr ⟨{ shard.tree with
          nodes := shard.tree.nodes.insert canonical { node' with entries := fresh } }, _, inserted,
        fun path ne => ?_, ?_⟩)
      · rw [Table.get_insert, if_neg ne.symm]
      · dsimp only
        rw [TreeModel.snapshot, inserted]
        rfl

end Shard

end KiCore.Project

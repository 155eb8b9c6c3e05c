import KiCore.Lib.Transition
import KiCore.Project.Runtime.Subscription

/-!
# The two indexes of the registry

`forward` should mirror `reverse`: a session leads to a path if and only if one of its subscribers
is among those of the path. An unsubscription takes the path out of `forward` without a look at the
other subscriptions that its session has of it, so that `forward` loses the path if there is one,
and the disconnect of the session then leaves that subscriber behind. Nothing else breaks the mirror
(`mirrored_next_iff`).
-/

namespace KiCore.Project

open KiCore.Lib

namespace SubscriptionRegistry

variable {reg : SubscriptionRegistry} {sub other : Subscriber} {canonical path session : String}
  {now max : Nat}
  {stays : Subscriber → Bool}

lemma reverse_leave : ((reg.leave canonical stays now).2.reverse.image path) =
    if canonical = path then (reg.reverse.image path).filter stays else reg.reverse.image path := by
  unfold leave
  cases e : reg.reverse[canonical]? with
  | none =>
    split_ifs with h
    · subst h
      rw [MultiMap.image_of_none e]
      rfl
    · rfl
  | some subs =>
    dsimp only
    split_ifs with gone h h
    · exact MultiMap.image_retain.trans (if_pos h)
    · exact MultiMap.image_retain.trans (if_neg h)
    · exact MultiMap.image_retain.trans (if_pos h)
    · exact MultiMap.image_retain.trans (if_neg h)

@[simp] lemma forward_leave : (reg.leave canonical stays now).2.forward = reg.forward := by
  unfold leave
  cases reg.reverse[canonical]? with
  | none => rfl
  | some subs =>
    dsimp only
    split_ifs with gone
    · rfl
    · rfl

lemma dropFrom_snd (acc : List String × SubscriptionRegistry) :
    (dropFrom session now acc canonical).2 = (acc.2.leave canonical (·.session ≠ session) now).2 := by
  unfold dropFrom
  cases acc.2.leave canonical (·.session ≠ session) now with
  | mk outcome reg => cases outcome <;> rfl

lemma dropSession_keeps {P : SubscriptionRegistry → Prop}
    (leaves : ∀ reg canonical, P reg → P (reg.leave canonical (·.session ≠ session) now).2)
    (h : P { reg with forward := reg.forward.erase session }) : P (reg.dropSession session now).2 := by
  have loop : ∀ (paths : List String) (acc : List String × SubscriptionRegistry), P acc.2 →
      P (paths.foldl (dropFrom session now) acc).2 := by
    intro paths
    induction paths with
    | nil => exact fun acc h => h
    | cons canonical paths ih =>
      intro acc h
      apply ih
      rw [dropFrom_snd]
      exact leaves acc.2 canonical h
  exact loop _ _ h

lemma forward_dropSession : (reg.dropSession session now).2.forward = reg.forward.erase session := by
  refine dropSession_keeps (P := fun reg' => reg'.forward = reg.forward.erase session) ?_ rfl
  intro reg' canonical h
  rw [forward_leave, h]

lemma mem_reverse_dropSession : sub ∈ (reg.dropSession session now).2.reverse.image path ↔
    sub ∈ reg.reverse.image path ∧ ¬ (sub.session = session ∧ path ∈ reg.forward.image session) := by
  have loop : ∀ (paths : List String) (acc : List String × SubscriptionRegistry),
      sub ∈ (paths.foldl (dropFrom session now) acc).2.reverse.image path ↔
        sub ∈ acc.2.reverse.image path ∧ ¬ (sub.session = session ∧ path ∈ paths) := by
    intro paths
    induction paths with
    | nil => simp
    | cons canonical paths ih =>
      intro acc
      rw [List.foldl_cons, ih, dropFrom_snd, reverse_leave]
      split_ifs with h
      · subst h
        simp only [List.mem_filter, decide_eq_true_eq, List.mem_cons_self, and_true]
        tauto
      · simp only [List.mem_cons, Ne.symm h, false_or]
  exact loop _ _

/-- No path without subscribers is kept, and none is both live and warm. -/
structure Tidy (reg : SubscriptionRegistry) : Prop where
  full : reg.reverse.NoEmpty
  apart : ∀ canonical : String, (reg.reverse[canonical]?).isSome → reg.grace[canonical]? = none

lemma Tidy.new : Tidy new := by
  refine ⟨MultiMap.noEmpty_empty, fun canonical _ => ?_⟩
  exact Table.get_empty

lemma isSome_retain (h : ((reg.reverse.retain canonical stays)[path]?).isSome) :
    (reg.reverse[path]?).isSome ∧
      (canonical = path → (reg.reverse.image path).filter stays ≠ []) := by
  unfold MultiMap.retain at h
  cases e : reg.reverse[canonical]? with
  | none =>
    rw [e] at h
    refine ⟨h, fun same => ?_⟩
    subst same
    rw [e] at h
    cases h
  | some subs =>
    rw [e] at h
    dsimp only at h
    split_ifs at h with gone
    · rw [Table.get_erase] at h
      split_ifs at h with same
      · cases h
      · exact ⟨h, fun e => absurd e same⟩
    · rw [Table.get_insert] at h
      split_ifs at h with same
      · subst same
        rw [e, MultiMap.image_of_get e]
        exact ⟨rfl, fun _ => gone⟩
      · exact ⟨h, fun e => absurd e same⟩

lemma Tidy.leave (tidy : Tidy reg) : Tidy (reg.leave canonical stays now).2 := by
  unfold SubscriptionRegistry.leave
  cases e : reg.reverse[canonical]? with
  | none => exact tidy
  | some subs =>
    dsimp only
    split_ifs with gone
    · refine ⟨tidy.full.retain, fun path live => ?_⟩
      obtain ⟨was, stay⟩ := isSome_retain live
      dsimp only
      rw [Table.get_insert]
      split_ifs with same
      · subst same
        exact absurd ((MultiMap.image_of_get e).symm ▸ gone) (stay rfl)
      · exact tidy.apart path was
    · exact ⟨tidy.full.retain, fun path live => tidy.apart path (isSome_retain live).1⟩

lemma Tidy.subscribe (tidy : Tidy reg) : Tidy (reg.subscribe sub canonical).2 := by
  refine ⟨tidy.full.link, fun path live => ?_⟩
  unfold SubscriptionRegistry.subscribe at live ⊢
  dsimp only at live ⊢
  rw [MultiMap.link, Table.get_insert] at live
  rw [Table.get_erase]
  split_ifs at live ⊢
  · rfl
  · exact tidy.apart path live

lemma Tidy.unsubscribe (tidy : Tidy reg) : Tidy (reg.unsubscribe sub canonical now).2 :=
  Tidy.leave ⟨tidy.full, tidy.apart⟩

lemma Tidy.dropSession (tidy : Tidy reg) : Tidy (reg.dropSession session now).2 :=
  dropSession_keeps (fun _ _ => Tidy.leave) ⟨tidy.full, tidy.apart⟩

lemma Tidy.shrink {grace : Table String Nat} (tidy : Tidy reg)
    (shrinks : ∀ path : String, reg.grace[path]? = none → grace[path]? = none) :
    Tidy { reg with grace := grace } :=
  ⟨tidy.full, fun path live => shrinks path (tidy.apart path live)⟩

lemma get_reap (path : String) : (reg.reap now).2.grace[path]? =
    (reg.grace[path]?).filter fun evictAt => ¬ evictAt ≤ now := by
  apply Option.ext
  intro evictAt
  rw [reap, Table.get_filter, Option.filter_eq_some_iff]

lemma get_erase_none (canonical : String) (h : reg.grace[path]? = none) :
    (reg.grace.erase canonical)[path]? = none := by
  rw [Table.get_erase]
  split_ifs
  · rfl
  · exact h

lemma Tidy.reap (tidy : Tidy reg) : Tidy (reg.reap now).2 := by
  refine tidy.shrink fun path h => (get_reap path).trans ?_
  rw [h]
  rfl

lemma Tidy.evictOldest (tidy : Tidy reg) (fuel : Nat) : Tidy (reg.evictOldest max fuel).2 := by
  induction fuel generalizing reg with
  | zero => exact tidy
  | succ fuel ih =>
    unfold SubscriptionRegistry.evictOldest
    split_ifs
    · cases reg.oldest with
      | none => exact tidy
      | some canonical => exact ih (tidy.shrink fun path h => get_erase_none canonical h)
    · exact tidy

lemma indexes_evictOldest (fuel : Nat) : (reg.evictOldest max fuel).2.forward = reg.forward ∧
    (reg.evictOldest max fuel).2.reverse = reg.reverse := by
  induction fuel generalizing reg with
  | zero => exact ⟨rfl, rfl⟩
  | succ fuel ih =>
    unfold SubscriptionRegistry.evictOldest
    split_ifs
    · cases reg.oldest with
      | none => exact ⟨rfl, rfl⟩
      | some canonical => exact ih
    · exact ⟨rfl, rfl⟩

/-- A session leads to a path if and only if one of the subscribers of the path is a subscriber of
it. -/
def Mirrored (reg : SubscriptionRegistry) : Prop :=
  ∀ session canonical, canonical ∈ reg.forward.image session ↔
    ∃ sub ∈ reg.reverse.image canonical, sub.session = session

lemma Mirrored.new : Mirrored new := by
  intro session canonical
  simp [SubscriptionRegistry.new]

lemma Mirrored.subscribe (mirror : Mirrored reg) : Mirrored (reg.subscribe sub canonical).2 := by
  intro session path
  simp only [SubscriptionRegistry.subscribe, MultiMap.mem_image_link, mirror session path]
  constructor
  · rintro (⟨same, rfl⟩ | ⟨other, mem, same⟩)
    · exact ⟨sub, .inl ⟨rfl, rfl⟩, same⟩
    · exact ⟨other, .inr mem, same⟩
  · rintro ⟨other, ⟨rfl, rfl⟩ | mem, same⟩
    · exact .inl ⟨same, rfl⟩
    · exact .inr ⟨other, mem, same⟩

lemma mem_forward_unsubscribe : path ∈ (reg.unsubscribe sub canonical now).2.forward.image session ↔
    path ∈ reg.forward.image session ∧ ¬ (sub.session = session ∧ path = canonical) := by
  rw [SubscriptionRegistry.unsubscribe, forward_leave, MultiMap.mem_image_unlink]

lemma mem_reverse_unsubscribe : other ∈ (reg.unsubscribe sub canonical now).2.reverse.image path ↔
    other ∈ reg.reverse.image path ∧ ¬ (canonical = path ∧ other = sub) := by
  rw [SubscriptionRegistry.unsubscribe, reverse_leave]
  split_ifs with h
  · simp [h]
  · simp [h]

lemma mirrored_unsubscribe_iff (mirror : Mirrored reg) :
    Mirrored (reg.unsubscribe sub canonical now).2 ↔
    ∀ other ∈ reg.reverse.image canonical, other.session = sub.session → other = sub := by
  constructor
  · intro kept other mem same
    by_contra ne
    have gone := (kept sub.session canonical).mpr
      ⟨other, mem_reverse_unsubscribe.mpr ⟨mem, fun h => ne h.2⟩, same⟩
    exact (mem_forward_unsubscribe.mp gone).2 ⟨rfl, rfl⟩
  · intro only session path
    rw [mem_forward_unsubscribe, mirror session path]
    constructor
    · rintro ⟨⟨other, mem, same⟩, ne⟩
      refine ⟨other, mem_reverse_unsubscribe.mpr ⟨mem, ?_⟩, same⟩
      rintro ⟨rfl, rfl⟩
      exact ne ⟨same, rfl⟩
    · rintro ⟨other, mem, same⟩
      obtain ⟨mem', ne⟩ := mem_reverse_unsubscribe.mp mem
      refine ⟨⟨other, mem', same⟩, ?_⟩
      rintro ⟨rfl, rfl⟩
      exact ne ⟨rfl, only other mem' same⟩

lemma Mirrored.dropped (mirror : Mirrored reg) :
    ∀ sub ∈ (reg.dropSession session now).2.reverse.image path, sub.session ≠ session := by
  intro sub mem same
  obtain ⟨mem, ne⟩ := mem_reverse_dropSession.mp mem
  exact ne ⟨same, (mirror session path).mpr ⟨sub, mem, same⟩⟩

lemma Mirrored.dropSession (mirror : Mirrored reg) : Mirrored (reg.dropSession session now).2 := by
  intro session' path
  rw [forward_dropSession, MultiMap.image_erase]
  split_ifs with h
  · subst h
    simp only [List.not_mem_nil, false_iff]
    rintro ⟨sub, mem, same⟩
    exact mirror.dropped sub mem same
  · rw [mirror session' path]
    constructor
    · rintro ⟨sub, mem, rfl⟩
      exact ⟨sub, mem_reverse_dropSession.mpr ⟨mem, fun e => h e.1.symm⟩, rfl⟩
    · rintro ⟨sub, mem, same⟩
      exact ⟨sub, (mem_reverse_dropSession.mp mem).1, same⟩

inductive Op where
  | subscribe (sub : Subscriber) (canonical : String)
  | unsubscribe (sub : Subscriber) (canonical : String) (now : Nat)
  | dropSession (session : String) (now : Nat)
  | reap (now : Nat)
  | enforceWatchBudget (max : Nat)

def next (reg : SubscriptionRegistry) : Op → SubscriptionRegistry
  | .subscribe sub canonical => (reg.subscribe sub canonical).2
  | .unsubscribe sub canonical now => (reg.unsubscribe sub canonical now).2
  | .dropSession session now => (reg.dropSession session now).2
  | .reap now => (reg.reap now).2
  | .enforceWatchBudget max => (reg.enforceWatchBudget max).2

/-- The indexes mirror each other, the registry is tidy, and whichever session is dropped next, none
of its subscribers remains. -/
structure Consistent (reg : SubscriptionRegistry) : Prop where
  mirrored : Mirrored reg
  tidy : Tidy reg
  dropped : ∀ session now path, ∀ sub ∈ (reg.dropSession session now).2.reverse.image path,
    sub.session ≠ session

def OnlySubscription (reg : SubscriptionRegistry) : Op → Prop
  | .unsubscribe sub canonical _ =>
    ∀ other ∈ reg.reverse.image canonical, other.session = sub.session → other = sub
  | _ => True

lemma Tidy.next (tidy : Tidy reg) (op : Op) : Tidy (reg.next op) := by
  cases op with
  | subscribe sub canonical => exact tidy.subscribe
  | unsubscribe sub canonical now => exact tidy.unsubscribe
  | dropSession session now => exact tidy.dropSession
  | reap now => exact tidy.reap
  | enforceWatchBudget max => exact tidy.evictOldest _

lemma mirrored_next_iff (mirror : Mirrored reg) (op : Op) : Mirrored (reg.next op) ↔
    OnlySubscription reg op := by
  cases op with
  | subscribe sub canonical => exact iff_true_intro mirror.subscribe
  | unsubscribe sub canonical now => exact mirrored_unsubscribe_iff mirror
  | dropSession session now => exact iff_true_intro mirror.dropSession
  | reap now => exact iff_true_intro mirror
  | enforceWatchBudget max =>
    refine iff_true_intro ?_
    intro session canonical
    rw [SubscriptionRegistry.next, enforceWatchBudget, (indexes_evictOldest _).1,
      (indexes_evictOldest _).2]
    exact mirror session canonical

lemma consistent_iff : Consistent reg ↔ Mirrored reg ∧ Tidy reg :=
  ⟨fun h => ⟨h.mirrored, h.tidy⟩, fun h => ⟨h.1, h.2, fun _ _ _ => h.1.dropped⟩⟩

/-- The registry is consistent throughout a run if and only if every unsubscription of the run is
that of the only subscription that its session has of the path. -/
theorem registry_consistent_iff (ops : List Op) :
    LTS.Throughout next Consistent new ops ↔ LTS.EnabledAll OnlySubscription next new ops := by
  rw [LTS.throughout_iff, and_iff_right (consistent_iff.mpr ⟨.new, .new⟩)]
  refine LTS.enabledAll_iff (Q := Consistent) (fun reg op ok => ?_) (consistent_iff.mpr ⟨.new, .new⟩)
  have kept : Consistent (reg.next op) ↔ OnlySubscription reg op := by
    rw [consistent_iff, and_iff_left (ok.tidy.next op)]
    exact mirrored_next_iff ok.mirrored op
  exact ⟨kept, kept.mpr⟩

/-- One session observes one path through two project entries. -/
def sharedPath : List Op :=
  [.subscribe { session := "s", peId := "a", rel := "" } "file:///p",
    .subscribe { session := "s", peId := "b", rel := "" } "file:///p",
    .unsubscribe { session := "s", peId := "a", rel := "" } "file:///p" 0]

/-- The session gives up one of the two, and is no longer led to the path. Its disconnect leaves the
other. -/
theorem sharedPath_forgotten : ¬ LTS.Throughout next Consistent new sharedPath ∧
    (((sharedPath.foldl next new).dropSession "s" 0).2.reverse.image "file:///p").map (·.peId) =
      ["b"] := by
  constructor
  · rintro ⟨_, _, before, after⟩
    have only := (mirrored_next_iff before.mirrored _).mp after.mirrored
    exact absurd (only { session := "s", peId := "b", rel := "" } (by decide) rfl) (by decide)
  · decide

end SubscriptionRegistry

end KiCore.Project

import Mathlib.Tactic

/-!
# Dispatch boards

A board is the bookkeeping of a work queue with claims. Items wait in the lanes of their home slot,
one claim at a time takes items out of a slot's lanes and holds them, and a held or waiting item may
end for good. The board keeps three records of one fact, where each item stands: the entry of the
item, the lanes, and the claims. `Board.Partitioned` says that the three agree.

`Board.Move G` lists what may happen to a board: an item enters (under the guard `G`), a claim takes
items, is retagged or is released with a verdict on each item it held, waiting items are dropped, a
lane is rearranged. Each move keeps the partition, and what an item is, never changes; an item that
is done stays as it is. `Moves G` is a finite sequence of moves.
-/

namespace KiCore.Lib

open Classical

/-- Where an item stands: waiting in its lane, held by a claim with a tag, or done. -/
inductive Phase (τ ω : Type*) where
  | queued
  | held (tag : τ)
  | done (outcome : ω)

/-- The phase after a claim was released with a verdict: back to waiting, or done. -/
def Phase.ofVerdict {τ ω : Type*} : Option ω → Phase τ ω
  | none => .queued
  | some o => .done o

def Phase.Live {τ ω : Type*} (p : Phase τ ω) : Prop :=
  ∀ o, p ≠ .done o

/-- The phase after a waiting item was dropped if `P` holds, and a held one released if `Q` does. -/
noncomputable def Phase.settle {τ ω : Type*} (P : Prop) (o : ω) (Q : Prop) (v : Option ω) :
    Phase τ ω → Phase τ ω
  | .queued => if P then .done o else .queued
  | .held t => if Q then .ofVerdict v else .held t
  | .done o => .done o

/-- What routes an item: the slot it belongs to and its lane there. -/
class Routed (α : Type*) (σ ℓ : outParam (Type*)) where
  home : α → σ
  lane : α → ℓ

open Routed

/-- Items `α` under ids `κ`, in lanes `ℓ` of slots `σ`, with claim tags `τ` and outcomes `ω`. -/
@[ext] structure Board (κ α σ ℓ τ ω : Type*) where
  entry : κ → Option (α × Phase τ ω)
  queue : σ → ℓ → List κ
  claim : σ → Option (τ × List κ)

namespace Board

variable {κ α σ ℓ τ ω : Type*} [Routed α σ ℓ] (b : Board κ α σ ℓ τ ω)

def claimed (s : σ) : List κ :=
  ((b.claim s).map Prod.snd).getD []

/-- Entries, lanes and claims tell the same story. -/
structure Partitioned (b : Board κ α σ ℓ τ ω) : Prop where
  nodup : ∀ s l, (b.queue s l).Nodup
  queued : ∀ s l k, k ∈ b.queue s l ↔ ∃ a, b.entry k = some (a, .queued) ∧ home a = s ∧ lane a = l
  claim_nodup : ∀ s, (b.claimed s).Nodup
  held : ∀ s t k, (∃ ks, b.claim s = some (t, ks) ∧ k ∈ ks) ↔
    ∃ a, b.entry k = some (a, .held t) ∧ home a = s

/-- A new item joins its lane, at the front or at the back. -/
noncomputable def enqueue (k : κ) (a : α) (front : Bool) : Board κ α σ ℓ τ ω where
  entry k' := if k' = k then some (a, .queued) else b.entry k'
  queue s l :=
    if s = home a ∧ l = lane a then
      if front then k :: b.queue s l else b.queue s l ++ [k]
    else b.queue s l
  claim := b.claim

/-- A claim takes items out of the lanes of a slot. -/
noncomputable def take (s : σ) (t : τ) (ks : List κ) : Board κ α σ ℓ τ ω where
  entry k := if k ∈ ks then (b.entry k).map fun e => (e.1, .held t) else b.entry k
  queue s' l := if s' = s then (b.queue s' l).filter (· ∉ ks) else b.queue s' l
  claim s' := if s' = s then some (t, ks) else b.claim s'

/-- The claim of a slot changes its tag. -/
noncomputable def retag (s : σ) (t : τ) : Board κ α σ ℓ τ ω where
  entry k := if k ∈ b.claimed s then (b.entry k).map fun e => (e.1, .held t) else b.entry k
  queue := b.queue
  claim s' := if s' = s then (b.claim s').map fun c => (t, c.2) else b.claim s'

/-- The claims of the slots in `Q` end: each item gets its verdict, and the items that go back to
waiting are put in front of their lane, in the order of the claim. -/
noncomputable def release (Q : σ → Prop) (v : κ → Option ω) : Board κ α σ ℓ τ ω where
  entry k := (b.entry k).map fun e =>
    (e.1, match e.2 with
      | .held t => if Q (home e.1) then .ofVerdict (v k) else .held t
      | p => p)
  queue s l :=
    if Q s then
      ((b.claimed s).filter fun k => v k = none ∧ ∃ e, b.entry k = some e ∧ lane e.1 = l) ++ b.queue s l
    else b.queue s l
  claim s := if Q s then none else b.claim s

/-- The waiting items in `P` are done, and leave their lanes. -/
noncomputable def drop (P : κ → Prop) (o : κ → ω) : Board κ α σ ℓ τ ω where
  entry k := (b.entry k).map fun e =>
    (e.1, match e.2 with
      | .queued => if P k then .done (o k) else .queued
      | p => p)
  queue s l := (b.queue s l).filter fun k => ¬ P k
  claim := b.claim

/-- One move of a board. `G` is the guard under which an item may enter. -/
inductive Move (G : Board κ α σ ℓ τ ω → κ → α → Prop) :
    Board κ α σ ℓ τ ω → Board κ α σ ℓ τ ω → Prop where
  | enqueue {b k a} (front : Bool) : b.entry k = none → G b k a → Move G b (b.enqueue k a front)
  | take {b s t ks} : b.claim s = none → ks.Nodup →
      (∀ k ∈ ks, ∃ l, k ∈ b.queue s l) → Move G b (b.take s t ks)
  | retag {b s t} : Move G b (b.retag s t)
  | release {b Q v} : Move G b (b.release Q v)
  | drop {b P o} : Move G b (b.drop P o)
  | shuffle {b : Board κ α σ ℓ τ ω} {q} : (∀ s l, (q s l).Perm (b.queue s l)) →
      Move G b { b with queue := q }

def Moves (G : Board κ α σ ℓ τ ω → κ → α → Prop) : Board κ α σ ℓ τ ω → Board κ α σ ℓ τ ω → Prop :=
  Relation.ReflTransGen (Move G)

variable {G H : Board κ α σ ℓ τ ω → κ → α → Prop} {b c d : Board κ α σ ℓ τ ω}

lemma Moves.one (m : Move G b c) : Moves G b c :=
  .single m

lemma Moves.of_eq (e : c = b) : Moves G b c := by
  subst e; exact .refl

lemma Moves.mono (imp : ∀ b k a, G b k a → H b k a) (m : Moves G b c) : Moves H b c := by
  refine Relation.ReflTransGen.mono (fun x y mv => ?_) _ _ m
  cases mv with
  | enqueue front fresh g => exact .enqueue front fresh (imp _ _ _ g)
  | take free nd hq => exact .take free nd hq
  | retag => exact .retag
  | release => exact .release
  | drop => exact .drop
  | shuffle hq => exact .shuffle hq

lemma Moves.preserves {P : Board κ α σ ℓ τ ω → Prop} (m : Moves G b c)
    (step : ∀ x y, P x → Move G x y → P y) (h : P b) : P c := by
  induction m with
  | refl => exact h
  | tail _ mv ih => exact step _ _ ih mv

lemma Partitioned.queue_inj {s s' : σ} {l l' : ℓ} {k : κ} (p : b.Partitioned)
    (h : k ∈ b.queue s l) (h' : k ∈ b.queue s' l') : s = s' ∧ l = l' := by
  obtain ⟨a, e, hs, hl⟩ := (p.queued s l k).mp h
  obtain ⟨a', e', hs', hl'⟩ := (p.queued s' l' k).mp h'
  rw [e] at e'
  cases e'
  exact ⟨hs.symm.trans hs', hl.symm.trans hl'⟩

lemma Partitioned.claimed_iff {s : σ} {k : κ} (p : b.Partitioned) :
    k ∈ b.claimed s ↔ ∃ a t, b.entry k = some (a, .held t) ∧ home a = s := by
  unfold claimed
  cases hc : b.claim s with
  | none =>
    simp only [Option.map_none, Option.getD_none, List.not_mem_nil, false_iff]
    rintro ⟨a, t, e, hs⟩
    obtain ⟨ks, hks, _⟩ := (p.held s t k).mpr ⟨a, e, hs⟩
    rw [hc] at hks
    cases hks
  | some c =>
    obtain ⟨t, ks⟩ := c
    simp only [Option.map_some, Option.getD_some]
    constructor
    · intro hk
      obtain ⟨a, e, hs⟩ := (p.held s t k).mp ⟨ks, hc, hk⟩
      exact ⟨a, t, e, hs⟩
    · rintro ⟨a, t', e, hs⟩
      obtain ⟨ks', hks, hk⟩ := (p.held s t' k).mpr ⟨a, e, hs⟩
      rw [hc] at hks
      cases hks
      exact hk

lemma Partitioned.enqueue {k : κ} {a : α} (p : b.Partitioned) (front : Bool)
    (fresh : b.entry k = none) : (b.enqueue k a front).Partitioned where
  nodup s l := by
    have out : k ∉ b.queue s l := fun h => by
      obtain ⟨_, e, _⟩ := (p.queued s l k).mp h
      rw [fresh] at e; cases e
    have nd := p.nodup s l
    simp only [Board.enqueue]
    split_ifs
    · exact List.nodup_cons.mpr ⟨out, nd⟩
    · exact List.nodup_append.mpr ⟨nd, by simp, by rintro x hx y hy rfl; simp_all⟩
    · exact nd
  queued s l k' := by
    have old := p.queued s l k'
    simp only [Board.enqueue]
    by_cases hk : k' = k
    · subst hk
      have out : k' ∉ b.queue s l := fun h => by
        obtain ⟨_, e, _⟩ := old.mp h
        rw [fresh] at e; cases e
      simp only [if_true]
      split_ifs with here fr
      · simp [here.1, here.2]
      · simp [here.1, here.2]
      · simp only [out, false_iff]
        rintro ⟨a', e, hs, hl⟩
        cases e
        exact here ⟨hs.symm, hl.symm⟩
    · simp only [if_neg hk]
      split_ifs <;> simp [hk, old]
  claim_nodup := p.claim_nodup
  held s t k' := by
    simp only [Board.enqueue]
    by_cases hk : k' = k
    · subst hk
      rw [p.held s t k', fresh]
      simp
    · rw [if_neg hk]
      exact p.held s t k'

omit [Routed α σ ℓ] in
lemma mem_take_queue {s s' : σ} {t : τ} {ks : List κ} {l : ℓ} {k : κ} :
    k ∈ (b.take s t ks).queue s' l ↔ k ∈ b.queue s' l ∧ (s' = s → k ∉ ks) := by
  simp only [Board.take]
  split_ifs with hs
  · simp [hs]
  · simp [hs]

omit [Routed α σ ℓ] in
lemma take_entry_taken {s : σ} {t : τ} {ks : List κ} {k : κ} (taken : k ∈ ks) :
    (b.take s t ks).entry k = (b.entry k).map fun e => (e.1, .held t) :=
  if_pos taken

omit [Routed α σ ℓ] in
lemma take_entry_other {s : σ} {t : τ} {ks : List κ} {k : κ} (other : k ∉ ks) :
    (b.take s t ks).entry k = b.entry k :=
  if_neg other

lemma Partitioned.take_queued {s s' : σ} {t : τ} {ks : List κ} {l : ℓ} {k : κ} (p : b.Partitioned)
    (waiting : ∀ k ∈ ks, ∃ l, k ∈ b.queue s l) :
    k ∈ (b.take s t ks).queue s' l ↔
      ∃ a, (b.take s t ks).entry k = some (a, .queued) ∧ home a = s' ∧ lane a = l := by
  rw [mem_take_queue]
  by_cases hk : k ∈ ks
  · obtain ⟨l0, h0⟩ := waiting k hk
    rw [take_entry_taken hk]
    constructor
    · rintro ⟨h, out⟩
      exact absurd hk (out (p.queue_inj h h0).1)
    · rintro ⟨a, e, _⟩
      obtain ⟨e0, _, e'⟩ := Option.map_eq_some_iff.mp e
      cases e'
  · rw [take_entry_other hk, p.queued s' l k]
    exact and_iff_left fun _ => hk

lemma Partitioned.take_held {s s' : σ} {t t' : τ} {ks : List κ} {k : κ} (p : b.Partitioned)
    (free : b.claim s = none) (waiting : ∀ k ∈ ks, ∃ l, k ∈ b.queue s l) :
    (∃ ks', (b.take s t ks).claim s' = some (t', ks') ∧ k ∈ ks') ↔
      ∃ a, (b.take s t ks).entry k = some (a, .held t') ∧ home a = s' := by
  have old := p.held s' t' k
  simp only [Board.take]
  by_cases hk : k ∈ ks
  · obtain ⟨l0, h0⟩ := waiting k hk
    obtain ⟨a, e, hs, _⟩ := (p.queued s l0 k).mp h0
    simp only [if_pos hk, e, Option.map_some]
    split_ifs with hs'
    · subst hs'
      constructor
      · rintro ⟨ks', hks, _⟩
        cases hks
        exact ⟨a, rfl, hs⟩
      · rintro ⟨a', e', _⟩
        cases e'
        exact ⟨ks, rfl, hk⟩
    · rw [old, e]
      constructor
      · rintro ⟨_, e', _⟩
        cases e'
      · rintro ⟨a', e', hs2⟩
        cases e'
        exact absurd (hs2.symm.trans hs) hs'
  · simp only [if_neg hk]
    split_ifs with hs'
    · subst hs'
      rw [← old, free]
      simp only [Option.some.injEq, Prod.mk.injEq, reduceCtorEq, false_and, exists_false, iff_false]
      rintro ⟨ks', ⟨_, rfl⟩, h⟩
      exact hk h
    · exact old

lemma Partitioned.take {s : σ} {t : τ} {ks : List κ} (p : b.Partitioned)
    (free : b.claim s = none) (nd : ks.Nodup) (waiting : ∀ k ∈ ks, ∃ l, k ∈ b.queue s l) :
    (b.take s t ks).Partitioned where
  nodup s' l := by
    simp only [Board.take]
    split_ifs
    · exact (p.nodup s' l).filter _
    · exact p.nodup s' l
  queued s' l k := p.take_queued waiting
  claim_nodup s' := by
    have old := p.claim_nodup s'
    simp only [claimed, Board.take] at old ⊢
    split_ifs
    · simpa using nd
    · exact old
  held s' t' k := p.take_held free waiting

/-- Retagging a claim keeps the partition. -/
lemma Partitioned.retag {s : σ} {t : τ} (p : b.Partitioned) : (b.retag s t).Partitioned where
  nodup := p.nodup
  queued s' l k := by
    simp only [Board.retag]
    split_ifs with hk
    · obtain ⟨a, t0, e, _⟩ := p.claimed_iff.mp hk
      rw [p.queued s' l k, e]
      simp
    · exact p.queued s' l k
  claim_nodup s' := by
    have old := p.claim_nodup s'
    simp only [claimed, Board.retag] at old ⊢
    split_ifs
    · cases hc : b.claim s' <;> simp_all
    · exact old
  held s' t' k := by
    have old := p.held s' t' k
    have mem : k ∈ b.claimed s ↔ ∃ c, b.claim s = some c ∧ k ∈ c.2 := by
      unfold claimed
      cases b.claim s <;> simp
    simp only [Board.retag]
    by_cases hk : k ∈ b.claimed s
    · obtain ⟨a, t0, e, hs⟩ := p.claimed_iff.mp hk
      simp only [if_pos hk, e, Option.map_some]
      split_ifs with hs'
      · subst hs'
        obtain ⟨c, hc, hkc⟩ := mem.mp hk
        simp [hc, hkc, hs, eq_comm]
      · rw [old, e]
        constructor
        · rintro ⟨_, e', hs2⟩
          cases e'
          exact absurd (hs2.symm.trans hs) hs'
        · rintro ⟨a', e', hs2⟩
          cases e'
          exact absurd (hs2.symm.trans hs) hs'
    · simp only [if_neg hk]
      split_ifs with hs'
      · subst hs'
        have none' : ¬ ∃ c, b.claim s' = some c ∧ k ∈ c.2 := fun h => hk (mem.mpr h)
        constructor
        · rintro ⟨ks, e, hks⟩
          cases hc : b.claim s' with
          | none => rw [hc] at e; cases e
          | some c =>
            rw [hc] at e
            cases e
            exact absurd ⟨c, hc, hks⟩ none'
        · intro h
          obtain ⟨ks, hc, hks⟩ := old.mpr h
          exact absurd ⟨_, hc, hks⟩ none'
      · exact old

variable {Q : σ → Prop}

lemma release_entry {v : κ → Option ω} {k : κ} {a : α} {p : Phase τ ω} :
    (b.release Q v).entry k = some (a, p) ↔
      ∃ p0, b.entry k = some (a, p0) ∧
        p = match p0 with
          | .held t => if Q (home a) then .ofVerdict (v k) else .held t
          | p0 => p0 := by
  simp only [Board.release, Option.map_eq_some_iff, Prod.mk.injEq, Prod.exists]
  constructor
  · rintro ⟨a', p0, e, rfl, rfl⟩
    exact ⟨p0, e, rfl⟩
  · rintro ⟨p0, e, rfl⟩
    exact ⟨a, p0, e, rfl, rfl⟩

lemma mem_release_queue {v : κ → Option ω} {s : σ} {l : ℓ} {k : κ} :
    k ∈ (b.release Q v).queue s l ↔ k ∈ b.queue s l ∨
      Q s ∧ k ∈ b.claimed s ∧ v k = none ∧ ∃ e, b.entry k = some e ∧ lane e.1 = l := by
  simp only [Board.release]
  split_ifs with hQ
  · rw [List.mem_append, List.mem_filter, decide_eq_true_eq, or_comm]
    simp only [hQ, true_and]
  · simp only [hQ, false_and, or_false]

lemma Partitioned.release_queued {v : κ → Option ω} {s : σ} {l : ℓ} {k : κ}
    (p : b.Partitioned) : k ∈ (b.release Q v).queue s l ↔
      ∃ a, (b.release Q v).entry k = some (a, .queued) ∧ home a = s ∧ lane a = l := by
  rw [mem_release_queue]
  constructor
  · rintro (h | ⟨hQ, hc, hv, ⟨a', p'⟩, e', hl⟩)
    · obtain ⟨a, e, hs, hl⟩ := (p.queued s l k).mp h
      exact ⟨a, release_entry.mpr ⟨_, e, rfl⟩, hs, hl⟩
    · obtain ⟨a, t, e, hs⟩ := p.claimed_iff.mp hc
      rw [e] at e'
      cases e'
      refine ⟨a', release_entry.mpr ⟨_, e, ?_⟩, hs, hl⟩
      simp [hs, hQ, hv, Phase.ofVerdict]
  · rintro ⟨a, e, hs, hl⟩
    obtain ⟨p0, e0, hp⟩ := release_entry.mp e
    cases p0 with
    | queued => exact .inl ((p.queued s l k).mpr ⟨a, e0, hs, hl⟩)
    | held t =>
      simp only at hp
      split_ifs at hp with hQ
      rw [hs] at hQ
      refine .inr ⟨hQ, p.claimed_iff.mpr ⟨a, t, e0, hs⟩, ?_, _, e0, hl⟩
      cases hv : v k with
      | none => rfl
      | some o => simp [hv, Phase.ofVerdict] at hp
    | done o => cases hp

lemma Partitioned.release_held {v : κ → Option ω} {s : σ} {t : τ} {k : κ}
    (p : b.Partitioned) : (∃ ks, (b.release Q v).claim s = some (t, ks) ∧ k ∈ ks) ↔
      ∃ a, (b.release Q v).entry k = some (a, .held t) ∧ home a = s := by
  have old := p.held s t k
  constructor
  · rintro ⟨ks, hc, hk⟩
    simp only [Board.release] at hc
    split_ifs at hc with hQ
    obtain ⟨a, e, hs⟩ := old.mp ⟨ks, hc, hk⟩
    exact ⟨a, release_entry.mpr ⟨_, e, by simp [hs, hQ]⟩, hs⟩
  · rintro ⟨a, e, hs⟩
    obtain ⟨p0, e0, hp⟩ := release_entry.mp e
    simp only [Board.release]
    cases p0 with
    | queued => cases hp
    | held t0 =>
      simp only at hp
      split_ifs at hp with hQ
      · cases hv : v k <;> simp [hv, Phase.ofVerdict] at hp
      · cases hp
        rw [hs] at hQ
        rw [if_neg hQ]
        exact old.mpr ⟨a, e0, hs⟩
    | done o => cases hp

lemma Partitioned.release {v : κ → Option ω} (p : b.Partitioned) : (b.release Q v).Partitioned where
  nodup s l := by
    simp only [Board.release]
    split_ifs
    · refine List.nodup_append.mpr ⟨(p.claim_nodup s).filter _, p.nodup s l, ?_⟩
      rintro x hx y hy rfl
      obtain ⟨a, t, e, _⟩ := p.claimed_iff.mp (List.mem_filter.mp hx).1
      obtain ⟨a', e', _⟩ := (p.queued s l x).mp hy
      rw [e] at e'; cases e'
    · exact p.nodup s l
  queued s l k := p.release_queued
  claim_nodup s := by
    have old := p.claim_nodup s
    simp only [claimed, Board.release] at old ⊢
    split_ifs
    · simp
    · exact old
  held s t k := p.release_held

omit [Routed α σ ℓ] in
lemma drop_entry {P : κ → Prop} {o : κ → ω} {k : κ} {a : α} {p : Phase τ ω} :
    (b.drop P o).entry k = some (a, p) ↔
      ∃ p0, b.entry k = some (a, p0) ∧
        p = match p0 with
          | .queued => if P k then .done (o k) else .queued
          | p0 => p0 := by
  simp only [Board.drop, Option.map_eq_some_iff, Prod.mk.injEq, Prod.exists]
  constructor
  · rintro ⟨a', p0, e, rfl, rfl⟩
    exact ⟨p0, e, rfl⟩
  · rintro ⟨p0, e, rfl⟩
    exact ⟨a, p0, e, rfl, rfl⟩

lemma Partitioned.drop {P : κ → Prop} {o : κ → ω} (p : b.Partitioned) :
    (b.drop P o).Partitioned where
  nodup s l := (p.nodup s l).filter _
  queued s l k := by
    have old := p.queued s l k
    simp only [Board.drop, List.mem_filter, decide_eq_true_eq]
    constructor
    · rintro ⟨h, hP⟩
      obtain ⟨a, e, hs, hl⟩ := old.mp h
      exact ⟨a, drop_entry.mpr ⟨_, e, by simp [hP]⟩, hs, hl⟩
    · rintro ⟨a, e, hs, hl⟩
      obtain ⟨p0, e0, hp⟩ := drop_entry.mp e
      cases p0 with
      | queued =>
        simp only at hp
        split_ifs at hp with hP
        exact ⟨old.mpr ⟨a, e0, hs, hl⟩, hP⟩
      | held t => cases hp
      | done o => cases hp
  claim_nodup := p.claim_nodup
  held s t k := by
    rw [show (b.drop P o).claim = b.claim from rfl, p.held s t k]
    constructor
    · rintro ⟨a, e, hs⟩
      exact ⟨a, drop_entry.mpr ⟨_, e, rfl⟩, hs⟩
    · rintro ⟨a, e, hs⟩
      obtain ⟨p0, e0, hp⟩ := drop_entry.mp e
      cases p0 with
      | queued => simp only at hp; split_ifs at hp
      | held t0 => cases hp; exact ⟨a, e0, hs⟩
      | done o => cases hp

lemma Partitioned.move (p : b.Partitioned) (m : Move G b c) : c.Partitioned := by
  cases m with
  | enqueue front fresh _ => exact p.enqueue front fresh
  | take free nd waiting => exact p.take free nd waiting
  | retag => exact p.retag
  | release => exact p.release
  | drop => exact p.drop
  | @shuffle q hq =>
    exact {
      nodup := fun s l => (hq s l).nodup_iff.mpr (p.nodup s l)
      queued := fun s l k => (hq s l).mem_iff.trans (p.queued s l k)
      claim_nodup := p.claim_nodup
      held := p.held }

/-- A sequence of moves keeps the partition. -/
theorem Partitioned.moves (p : b.Partitioned) (m : Moves G b c) : c.Partitioned :=
  m.preserves (fun _ _ p mv => p.move mv) p

lemma Moves.settle {P : κ → Prop} {o : κ → ω} {Q : σ → Prop} {v : κ → Option ω} (pt : b.Partitioned)
    (claim : ∀ s, c.claim s = if Q s then none else b.claim s) (entry : ∀ k, c.entry k =
      (b.entry k).map fun e => (e.1, e.2.settle (P k) (o k) (Q (home e.1)) (v k)))
    (nodup : ∀ s l, (c.queue s l).Nodup)
    (queued : ∀ s l k, k ∈ c.queue s l ↔
      ∃ a, c.entry k = some (a, .queued) ∧ home a = s ∧ lane a = l) : Moves G b c := by
  let d := (b.drop P o).release Q v
  have ptd : d.Partitioned := pt.drop.release
  have ed : d.entry = c.entry := by
    funext k
    rw [entry k]
    simp only [d, Board.release, Board.drop, Option.map_map]
    refine congrArg (fun f => Option.map f (b.entry k)) (funext fun e => ?_)
    obtain ⟨a, p⟩ := e
    cases p with
    | queued => by_cases h : P k <;> simp [Phase.settle, h]
    | held t => rfl
    | done o => rfl
  have cd : c = { d with queue := c.queue } := by
    refine Board.ext ed.symm rfl (funext fun s => ?_)
    rw [claim s]
    rfl
  have perm : ∀ s l, (c.queue s l).Perm (d.queue s l) := fun s l => by
    refine (List.perm_ext_iff_of_nodup (nodup s l) (ptd.nodup s l)).mpr fun k => ?_
    rw [queued, ptd.queued, ed]
  rw [cd]
  exact .tail (.tail (.tail .refl .drop) .release) (.shuffle perm)

lemma Move.entry_mono {k : κ} {a : α} {p : Phase τ ω} (m : Move G b c) (pt : b.Partitioned)
    (e : b.entry k = some (a, p)) :
    ∃ p', c.entry k = some (a, p') ∧ ∀ o, p = .done o → p' = .done o := by
  cases m with
  | @enqueue k' a' front fresh _ =>
    have ne : k ≠ k' := by rintro rfl; rw [fresh] at e; cases e
    exact ⟨p, by simp [Board.enqueue, ne, e], fun _ h => h⟩
  | @take s t ks free nd waiting =>
    by_cases hk : k ∈ ks
    · obtain ⟨l, hl⟩ := waiting k hk
      obtain ⟨a', e', _⟩ := (pt.queued s l k).mp hl
      rw [e] at e'; cases e'
      exact ⟨.held t, by simp [Board.take, hk, e], nofun⟩
    · exact ⟨p, by simp [Board.take, hk, e], fun _ h => h⟩
  | @retag s t =>
    by_cases hk : k ∈ b.claimed s
    · obtain ⟨a', t0, e', _⟩ := pt.claimed_iff.mp hk
      rw [e] at e'; cases e'
      exact ⟨.held t, by simp [Board.retag, hk, e], nofun⟩
    · exact ⟨p, by simp [Board.retag, hk, e], fun _ h => h⟩
  | @release Q v =>
    refine ⟨_, release_entry.mpr ⟨p, e, rfl⟩, ?_⟩
    rintro o rfl; rfl
  | @drop P o =>
    refine ⟨_, drop_entry.mpr ⟨p, e, rfl⟩, ?_⟩
    rintro o rfl; rfl
  | shuffle => exact ⟨p, e, fun _ h => h⟩

lemma Move.entry_old {k : κ} {a : α} {p : Phase τ ω} (m : Move G b c) (pt : b.Partitioned)
    (e : c.entry k = some (a, p)) :
    (∃ p0, b.entry k = some (a, p0)) ∨ (b.entry k = none ∧ G b k a) := by
  cases hb : b.entry k with
  | some e0 =>
    obtain ⟨a0, p0⟩ := e0
    obtain ⟨p', e', _⟩ := m.entry_mono pt hb
    rw [e] at e'; cases e'
    exact .inl ⟨p0, rfl⟩
  | none =>
    cases m with
    | @enqueue k' a' front fresh g =>
      simp only [Board.enqueue] at e
      split_ifs at e with hk
      · subst hk
        cases e
        exact .inr ⟨rfl, g⟩
      · rw [hb] at e; cases e
    | take => simp [Board.take, hb] at e
    | retag => simp [Board.retag, hb] at e
    | release => simp [Board.release, hb] at e
    | drop => simp [Board.drop, hb] at e
    | shuffle => rw [hb] at e; cases e

lemma Move.live_old {k : κ} {a : α} {p : Phase τ ω} (m : Move G b c) (pt : b.Partitioned)
    (e : c.entry k = some (a, p)) (lv : p.Live) :
    (∃ p0, b.entry k = some (a, p0) ∧ p0.Live) ∨ (b.entry k = none ∧ G b k a) := by
  rcases m.entry_old pt e with ⟨p0, e0⟩ | h
  · refine .inl ⟨p0, e0, ?_⟩
    rintro o rfl
    obtain ⟨p', e', hd⟩ := m.entry_mono pt e0
    rw [e] at e'; cases e'
    exact lv o (hd o rfl)
  · exact .inr h

/-- What an item is, never changes, and an item that is done stays as it is. -/
theorem Moves.entry_mono {k : κ} {a : α} {p : Phase τ ω} (m : Moves G b c) (pt : b.Partitioned)
    (e : b.entry k = some (a, p)) :
    ∃ p', c.entry k = some (a, p') ∧ ∀ o, p = .done o → p' = .done o := by
  induction m with
  | refl => exact ⟨p, e, fun _ h => h⟩
  | tail ms mv ih =>
    obtain ⟨p1, e1, h1⟩ := ih
    obtain ⟨p2, e2, h2⟩ := mv.entry_mono (pt.moves ms) e1
    exact ⟨p2, e2, fun o h => h2 o (h1 o h)⟩

/-- An item that was not on the board before has entered under the guard. -/
theorem Moves.entered {k : κ} {a : α} {p : Phase τ ω} (m : Moves G b c) (pt : b.Partitioned)
    (absent : b.entry k = none) (e : c.entry k = some (a, p)) : ∃ d, G d k a := by
  induction m generalizing p with
  | refl =>
    rw [absent] at e
    cases e
  | @tail d _ ms mv ih =>
    rcases mv.entry_old (pt.moves ms) e with ⟨p0, e0⟩ | ⟨_, g⟩
    · exact ih e0
    · exact ⟨d, g⟩

/-- If only items that meet `P` enter, the items on the board keep meeting `P`. -/
theorem Moves.entries {P : κ → α → Prop} (m : Moves G b c) (pt : b.Partitioned)
    (old : ∀ k a p, b.entry k = some (a, p) → P k a) (enter : ∀ d k a, G d k a → P k a) :
    ∀ k a p, c.entry k = some (a, p) → P k a := by
  induction m with
  | refl => exact old
  | tail ms mv ih =>
    intro k a p e
    rcases mv.entry_old (pt.moves ms) e with ⟨p0, e0⟩ | ⟨_, g⟩
    · exact ih k a p0 e0
    · exact enter _ _ _ g

/-- Every live item meets `P`. -/
def AllLive (P : κ → α → Prop) (b : Board κ α σ ℓ τ ω) : Prop :=
  ∀ k a p, b.entry k = some (a, p) → p.Live → P k a

/-- If only items that meet `P` enter, live items keep meeting `P`. -/
theorem AllLive.moves {P : κ → α → Prop} (h : b.AllLive P) (pt : b.Partitioned) (m : Moves G b c)
    (enter : ∀ d k a, G d k a → P k a) : c.AllLive P := by
  induction m with
  | refl => exact h
  | tail ms mv ih =>
    intro k a p e lv
    rcases mv.live_old (pt.moves ms) e lv with ⟨p0, e0, lv0⟩ | ⟨_, g⟩
    · exact ih k a p0 e0 lv0
    · exact enter _ _ _ g

/-- No two live items of a slot have the same key. -/
def UniqueLive {μ : Type*} (key : α → Option μ) (b : Board κ α σ ℓ τ ω) : Prop :=
  ∀ k k' a a' p p' x, b.entry k = some (a, p) → b.entry k' = some (a', p') → p.Live → p'.Live →
    home a = home a' → key a = some x → key a' = some x → k = k'

def Owned {μ : Type*} (key : α → Option μ) (b : Board κ α σ ℓ τ ω) (s : σ) (x : μ) : Prop :=
  ∃ k a p, b.entry k = some (a, p) ∧ p.Live ∧ home a = s ∧ key a = some x

/-- If an item only enters when its key is free in its slot, keys stay unique. -/
theorem UniqueLive.moves {μ : Type*} {key : α → Option μ} (h : b.UniqueLive key)
    (pt : b.Partitioned) (m : Moves G b c)
    (enter : ∀ d k a x, G d k a → key a = some x → ¬ d.Owned key (home a) x) :
    c.UniqueLive key := by
  induction m with
  | refl => exact h
  | @tail d e ms mv ih =>
    have ptd := pt.moves ms
    intro k k' a a' p p' x he he' lv lv' hs hx hx'
    rcases mv.live_old ptd he lv with ⟨p0, e0, lv0⟩ | ⟨new, g⟩ <;>
      rcases mv.live_old ptd he' lv' with ⟨p1, e1, lv1⟩ | ⟨new', g'⟩
    · exact ih k k' a a' p0 p1 x e0 e1 lv0 lv1 hs hx hx'
    · exact absurd ⟨k, a, p0, e0, lv0, hs, hx⟩ (enter d k' a' x g' hx')
    · exact absurd ⟨k', a', p1, e1, lv1, hs.symm, hx'⟩ (enter d k a x g hx)
    · cases mv with
      | @enqueue k0 a0 front fresh _ =>
        simp only [Board.enqueue] at he he'
        split_ifs at he with h0
        · split_ifs at he' with h1
          · exact h0.trans h1.symm
          · rw [new'] at he'; cases he'
        · rw [new] at he; cases he
      | take => simp [Board.take, new] at he
      | retag => simp [Board.retag, new] at he
      | release => simp [Board.release, new] at he
      | drop => simp [Board.drop, new] at he
      | shuffle => rw [new] at he; cases he

end Board

end KiCore.Lib

import KiCore.Lib.Table

/-!
# Edit scripts on tables

A table is edited by putting, dropping and moving entries; `replay` makes the edits of a list in
their order.

What a list of moves does to a table depends on their order as soon as a key is the target of one
and the source of another. A list is `Straight` if no key is a target before it is a source; then
every target ends up with what its source had in the beginning. A source that no later move leads
back to is gone in the end, whatever came before.
-/

namespace KiCore.Lib

inductive Edit (κ : Type) (υ : Type) where
  | put (k : κ) (v : υ)
  | drop (k : κ)
  | move (source target : κ)
  | touch (k : κ)
  deriving DecidableEq

namespace Edit

variable {κ υ : Type} [Ord κ] (t : Table κ υ)

/-- Make one edit. An entry that is not there is not moved. -/
def apply : Edit κ υ → Table κ υ
  | .put k v => t.insert k v
  | .drop k => t.erase k
  | .move source target =>
    match t[source]? with
    | some v => (t.erase source).insert target v
    | none => t
  | .touch _ => t

def replay (edits : List (Edit κ υ)) : Table κ υ :=
  edits.foldl apply t

def moves (ms : List (κ × κ)) : Table κ υ :=
  replay t (ms.map fun m => .move m.1 m.2)

variable {t : Table κ υ} {edits edits' : List (Edit κ υ)} {ms ms' : List (κ × κ)} {a b k n : κ} {v : υ}

lemma replay_append : replay t (edits ++ edits') = replay (replay t edits) edits' :=
  List.foldl_append

lemma moves_append : moves t (ms ++ ms') = moves (moves t ms) ms' := by
  rw [moves, List.map_append, replay_append]
  rfl

lemma moves_cons {m : κ × κ} : moves t (m :: ms) = moves (apply t (.move m.1 m.2)) ms :=
  rfl

/-- No key is the target of a move before it is the source of another, and each is the source and
the target of one move at most. -/
structure Straight (ms : List (κ × κ)) : Prop where
  distinct : ∀ m ∈ ms, m.1 ≠ m.2
  apart : ms.Pairwise fun m m' => m.1 ≠ m'.1 ∧ m.2 ≠ m'.2 ∧ m.2 ≠ m'.1

omit [Ord κ] in
lemma Straight.tail {m : κ × κ} (straight : Straight (m :: ms)) : Straight ms :=
  ⟨fun m' mem => straight.distinct m' (List.mem_cons_of_mem _ mem), straight.apart.of_cons⟩

variable [Std.TransOrd κ] [Std.LawfulEqOrd κ] [DecidableEq κ]

omit [Std.TransOrd κ] [Std.LawfulEqOrd κ] [DecidableEq κ] in
lemma apply_move_none (h : t[a]? = none) : apply t (.move a b) = t := by
  simp only [apply, h]

lemma get_move (h : t[a]? = some v) : (apply t (.move a b))[n]? =
    if b = n then some v else if a = n then none else t[n]? := by
  simp only [apply, h]
  rw [Table.get_insert, Table.get_erase]

lemma move_none (h : t[n]? = none) (ne : b ≠ n) : (apply t (.move a b))[n]? = none := by
  cases e : t[a]? with
  | none => rwa [apply_move_none e]
  | some v =>
    rw [get_move e, if_neg ne]
    split_ifs
    · rfl
    · exact h

lemma move_source (ne : b ≠ a) : (apply t (.move a b))[a]? = none := by
  cases e : t[a]? with
  | none => rwa [apply_move_none e]
  | some v => rw [get_move e, if_neg ne, if_pos rfl]

lemma moves_none (h : t[n]? = none) (untouched : ∀ m ∈ ms, m.2 ≠ n) : (moves t ms)[n]? = none := by
  induction ms generalizing t with
  | nil => exact h
  | cons m ms ih =>
    rw [moves_cons]
    apply ih
    · exact move_none h (untouched m List.mem_cons_self)
    · exact fun m' mem => untouched m' (List.mem_cons_of_mem _ mem)

lemma moves_source_gone (ne : b ≠ a) (untouched : ∀ m ∈ ms', m.2 ≠ a) :
    (moves t (ms ++ (a, b) :: ms'))[a]? = none := by
  rw [moves_append, moves_cons]
  exact moves_none (move_source ne) untouched

lemma moves_other (source : ∀ m ∈ ms, m.1 ≠ n) (target : ∀ m ∈ ms, m.2 ≠ n) :
    (moves t ms)[n]? = t[n]? := by
  induction ms generalizing t with
  | nil => rfl
  | cons m ms ih =>
    rw [moves_cons, ih (fun m' mem => source m' (List.mem_cons_of_mem _ mem))
      (fun m' mem => target m' (List.mem_cons_of_mem _ mem))]
    cases e : t[m.1]? with
    | none => rw [apply_move_none e]
    | some v =>
      rw [get_move e, if_neg (target m List.mem_cons_self), if_neg (source m List.mem_cons_self)]

lemma Straight.target (straight : Straight ms) (there : ∀ m ∈ ms, t[m.1]?.isSome) (mem : (a, b) ∈ ms) :
    (moves t ms)[b]? = t[a]? := by
  induction ms generalizing t with
  | nil => cases mem
  | cons m ms ih =>
    have apart : ∀ m' ∈ ms, m.1 ≠ m'.1 ∧ m.2 ≠ m'.2 ∧ m.2 ≠ m'.1 :=
      fun m' mem' => List.rel_of_pairwise_cons straight.apart mem'
    obtain ⟨v, e⟩ := Option.isSome_iff_exists.mp (there m List.mem_cons_self)
    rw [moves_cons]
    rcases List.mem_cons.mp mem with rfl | mem
    · rw [moves_other (fun m' mem => (apart m' mem).2.2.symm) (fun m' mem => (apart m' mem).2.1.symm)]
      rw [get_move e, if_pos rfl, e]
    · have kept : ∀ m' ∈ ms, (apply t (.move m.1 m.2))[m'.1]? = t[m'.1]? := by
        intro m' mem'
        rw [get_move e, if_neg (apart m' mem').2.2, if_neg (apart m' mem').1]
      rw [ih straight.tail _ mem]
      · exact kept (a, b) mem
      · intro m' mem'
        rw [kept m' mem']
        exact there m' (List.mem_cons_of_mem _ mem')

lemma Straight.source (straight : Straight ms) (mem : (a, b) ∈ ms) (untouched : ∀ m ∈ ms, m.2 ≠ a) :
    (moves t ms)[a]? = none := by
  obtain ⟨before, after, rfl⟩ := List.append_of_mem mem
  refine moves_source_gone (straight.distinct (a, b) mem).symm fun m mem' => ?_
  exact untouched m (List.mem_append_right _ (List.mem_cons_of_mem _ mem'))

lemma get_puts_other {entries : List (κ × υ)} (other : ∀ e ∈ entries, e.1 ≠ n) :
    (replay t (entries.map fun e => .put e.1 e.2))[n]? = t[n]? := by
  induction entries generalizing t with
  | nil => rfl
  | cons e entries ih =>
    refine (ih fun e' mem => other e' (List.mem_cons_of_mem _ mem)).trans ?_
    exact (Table.get_insert t e.1 n e.2).trans (if_neg (other e List.mem_cons_self))

lemma get_puts {entries : List (κ × υ)} (nodup : (entries.map Prod.fst).Nodup)
    (mem : (n, v) ∈ entries) : (replay t (entries.map fun e => .put e.1 e.2))[n]? = some v := by
  induction entries generalizing t with
  | nil => cases mem
  | cons e entries ih =>
    rw [List.map_cons, List.nodup_cons] at nodup
    rcases List.mem_cons.mp mem with rfl | mem
    · have other : ∀ e ∈ entries, e.1 ≠ n := by
        intro e mem' same
        exact nodup.1 (List.mem_map.mpr ⟨e, mem', same⟩)
      exact (get_puts_other other).trans ((Table.get_insert t n n v).trans (if_pos rfl))
    · exact ih nodup.2 mem

lemma get_drops {keys : List κ} :
    (replay t (keys.map fun k => Edit.drop k))[n]? = if n ∈ keys then none else t[n]? := by
  induction keys generalizing t with
  | nil => rfl
  | cons k keys ih =>
    refine ih.trans ?_
    rw [show apply t (.drop k) = t.erase k from rfl, Table.get_erase]
    simp only [List.mem_cons]
    grind

omit [Std.TransOrd κ] [Std.LawfulEqOrd κ] [DecidableEq κ] in
lemma replay_touches (t : Table κ υ) (keys : List κ) :
    replay t (keys.map fun k => Edit.touch k) = t := by
  induction keys with
  | nil => rfl
  | cons k keys ih => exact ih

end Edit

end KiCore.Lib

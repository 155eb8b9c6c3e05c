import Mathlib.Tactic

/-!
# Tables that users own

The rows of a table with an ownership column, `user_id` or `owner_user_id`, and the statement
`UPDATE OR IGNORE … SET owner = ? WHERE owner = 'system_default_user'` of `sqlite_user.rs`: rows are visited
one after another, and a row that would collide with another one under a unique key is skipped. A table is
kept with the proof that its keys are unique.
-/

namespace KiCore.Auth

inductive OwnerColumn where
  | userId
  | ownerUserId
  deriving DecidableEq

structure OwnedRow where
  id : Nat
  /-- global templates have no owner -/
  owner : Option String
  /-- the values under those unique keys of the table that the owner is part of -/
  keys : List String
  deriving DecidableEq

namespace OwnedRow

def collides (a b : OwnedRow) : Bool := a.keys.any fun key => key ∈ b.keys

/-- The row belongs to the owner, and collides with another one. -/
def blocks (owner : String) (row other : OwnedRow) : Bool := other.owner = some owner && row.collides other

end OwnedRow

/-- Ids are unique, and so are the keys of the rows of one owner. -/
def Sound (rows : List OwnedRow) : Prop :=
  (rows.map OwnedRow.id).Nodup ∧
    rows.Pairwise fun a b => a.owner = b.owner → a.owner.isSome → a.collides b = false

instance (rows : List OwnedRow) : Decidable (Sound rows) := by
  unfold Sound
  infer_instance

/-- The rows that have been visited, and those that are to come. -/
def updateOrIgnore (source owner : String) (visited : List OwnedRow) : List OwnedRow → List OwnedRow
  | [] => visited
  | row :: rows =>
    if row.owner = some source && !(visited ++ rows).any (row.blocks owner) then
      updateOrIgnore source owner (visited ++ [{ row with owner := some owner }]) rows
    else updateOrIgnore source owner (visited ++ [row]) rows

/-- A row of the source moves to the owner, unless it collides with a row of his. -/
def moved (source owner : String) (rows : List OwnedRow) (row : OwnedRow) : OwnedRow :=
  if row.owner = some source ∧ ¬ rows.any (row.blocks owner) then { row with owner := some owner } else row

variable {source owner : String} {rows visited all : List OwnedRow} {a b row : OwnedRow}

lemma OwnedRow.collides_iff : a.collides b ↔ ∃ key ∈ a.keys, key ∈ b.keys := by
  simp [OwnedRow.collides]

lemma OwnedRow.collides_comm : a.collides b = b.collides a := by
  rw [Bool.eq_iff_iff, OwnedRow.collides_iff, OwnedRow.collides_iff]
  exact ⟨fun ⟨key, here, there⟩ => ⟨key, there, here⟩, fun ⟨key, here, there⟩ => ⟨key, there, here⟩⟩

@[simp] lemma moved_id : (moved source owner rows row).id = row.id := by
  unfold moved
  split_ifs <;> rfl

@[simp] lemma moved_keys : (moved source owner rows row).keys = row.keys := by
  unfold moved
  split_ifs <;> rfl

lemma moved_collides : (moved source owner rows a).collides (moved source owner rows b) = a.collides b := by
  simp [OwnedRow.collides]

@[simp] lemma moved_self : moved owner owner rows row = row := by
  unfold moved
  split_ifs with here
  · rw [← here.1]
  · rfl

lemma updateOrIgnore_self : updateOrIgnore owner owner visited rows = visited ++ rows := by
  induction rows generalizing visited with
  | nil => simp [updateOrIgnore]
  | cons row rows ih =>
    unfold updateOrIgnore
    split_ifs with here
    · have own : row.owner = some owner := by simpa using (Bool.and_eq_true_iff.mp here).1
      rw [ih, ← own, List.append_assoc]
      rfl
    · rw [ih, List.append_assoc]
      rfl

lemma moved_owner : (moved source owner rows row).owner = row.owner ∨
    (moved source owner rows row).owner = some owner ∧ row.owner = some source ∧
      ¬ rows.any (row.blocks owner) := by
  unfold moved
  split_ifs with here
  · exact .inr ⟨rfl, here⟩
  · exact .inl rfl

lemma blocks_moved (own : row.owner = some source)
    (apart : a.owner = row.owner → a.owner.isSome → a.collides row = false) :
    row.blocks owner (moved source owner all a) = row.blocks owner a := by
  obtain kept | ⟨now, was, -⟩ := @moved_owner source owner all a
  · simp [OwnedRow.blocks, OwnedRow.collides, kept]
  · have free := apart (was.trans own.symm) (by simp [was])
    rw [OwnedRow.collides_comm] at free
    have still : row.collides (moved source owner all a) = false := by simpa [OwnedRow.collides] using free
    rw [OwnedRow.blocks, OwnedRow.blocks, still, free, Bool.and_false, Bool.and_false]

lemma blocked_iff (sound : Sound (visited ++ row :: rows)) (other : owner ≠ source)
    (own : row.owner = some source) :
    (visited.map (moved source owner all) ++ rows).any (row.blocks owner) =
      (visited ++ row :: rows).any (row.blocks owner) := by
  have apart := (List.pairwise_append.mp sound.2).2.2
  have self : row.blocks owner row = false := by simp [OwnedRow.blocks, own, Ne.symm other]
  have same : ∀ a ∈ visited, row.blocks owner (moved source owner all a) = row.blocks owner a :=
    fun a mem => blocks_moved own (apart a mem row List.mem_cons_self)
  rw [List.any_append, List.any_append, List.any_cons, self, Bool.false_or, List.any_map]
  congr 1
  rw [Bool.eq_iff_iff, List.any_eq_true, List.any_eq_true]
  exact exists_congr fun a => and_congr_right fun mem => by rw [Function.comp_apply, same a mem]

lemma updateOrIgnore_visited (sound : Sound all) (other : owner ≠ source) (split : visited ++ rows = all) :
    updateOrIgnore source owner (visited.map (moved source owner all)) rows =
      all.map (moved source owner all) := by
  induction rows generalizing visited with
  | nil => rw [updateOrIgnore, ← split, List.append_nil]
  | cons row rows ih =>
    have next := @ih (visited ++ [row]) (by rw [← split, List.append_assoc]; rfl)
    rw [List.map_append, List.map_singleton] at next
    rw [updateOrIgnore]
    by_cases own : row.owner = some source
    · rw [blocked_iff (split ▸ sound) other own, split]
      cases blocked : all.any (row.blocks owner) with
      | false =>
        have moves : moved source owner all row = { row with owner := some owner } :=
          if_pos ⟨own, Bool.eq_false_iff.mp blocked⟩
        rw [moves] at next
        rw [if_pos (by simp [own]), next]
      | true =>
        have stays : moved source owner all row = row := if_neg fun h => h.2 blocked
        rw [stays] at next
        rw [if_neg (by simp), next]
    · have stays : moved source owner all row = row := if_neg fun h => own h.1
      rw [stays] at next
      rw [if_neg (by simp [own]), next]

/-- The statement moves the rows of the source at once. -/
theorem updateOrIgnore_eq (sound : Sound rows) :
    updateOrIgnore source owner [] rows = rows.map (moved source owner rows) := by
  by_cases same : owner = source
  · subst same
    rw [updateOrIgnore_self, List.nil_append, List.map_congr_left fun _ _ => moved_self, List.map_id']
  · exact @updateOrIgnore_visited source owner rows [] rows sound same rfl

lemma sound_moved (sound : Sound rows) : Sound (rows.map (moved source owner rows)) := by
  constructor
  · simpa [Function.comp_def] using sound.1
  · rw [List.pairwise_map]
    refine sound.2.imp_of_mem fun {a b} memA memB apart same some => ?_
    rw [moved_collides]
    obtain keptA | ⟨nowA, wasA, freeA⟩ := @moved_owner source owner rows a <;>
      obtain keptB | ⟨nowB, wasB, freeB⟩ := @moved_owner source owner rows b
    · exact apart (keptA ▸ keptB ▸ same) (keptA ▸ some)
    · have ofA : a.owner = Option.some owner := by rw [← keptA, same, nowB]
      simp only [List.any_eq_true, not_exists, not_and, OwnedRow.blocks] at freeB
      have free := freeB a memA
      rw [OwnedRow.collides_comm]
      simpa [ofA] using free
    · have ofB : b.owner = Option.some owner := by rw [← keptB, ← same, nowA]
      simp only [List.any_eq_true, not_exists, not_and, OwnedRow.blocks] at freeA
      have free := freeA b memB
      simpa [ofB] using free
    · exact apart (wasA.trans wasB.symm) (by simp [wasA])

structure OwnedTable where
  name : String
  ownerColumn : OwnerColumn
  /-- the owner has to be a row of `users` -/
  references : Bool
  rows : List OwnedRow
  sound : Sound rows
  deriving DecidableEq

namespace OwnedTable

variable {table table' : OwnedTable} {id : Nat}

def updateOwner (source owner : String) (table : OwnedTable) : OwnedTable :=
  { table with
    rows := updateOrIgnore source owner [] table.rows
    sound := by
      rw [updateOrIgnore_eq table.sound]
      exact sound_moved table.sound }

def readers (table : OwnedTable) (id : Nat) : List String :=
  (table.rows.filter fun row => row.id = id).filterMap OwnedRow.owner

lemma insertable (table : OwnedTable) (row : OwnedRow)
    (fresh : ∀ other ∈ table.rows, other.id ≠ row.id ∧
      (other.owner = row.owner → other.owner.isSome → other.collides row = false)) :
    Sound (table.rows ++ [row]) := by
  constructor
  · rw [List.map_append, List.nodup_append]
    refine ⟨table.sound.1, by simp, ?_⟩
    simp only [List.map_singleton, List.mem_singleton, List.mem_map]
    rintro _ ⟨other, mem, rfl⟩ _ rfl
    exact (fresh other mem).1
  · rw [List.pairwise_append]
    refine ⟨table.sound.2, by simp, fun other mem added => ?_⟩
    rw [List.mem_singleton]
    rintro rfl
    exact (fresh other mem).2

/-- An `INSERT`, which fails if a key is taken. -/
def insert (table : OwnedTable) (row : OwnedRow) : OwnedTable :=
  if fresh : ∀ other ∈ table.rows, other.id ≠ row.id ∧
      (other.owner = row.owner → other.owner.isSome → other.collides row = false) then
    { table with rows := table.rows ++ [row], sound := table.insertable row fresh }
  else table

lemma removable (table : OwnedTable) (id : Nat) : Sound (table.rows.filter fun row => row.id ≠ id) :=
  ⟨table.sound.1.sublist (List.filter_sublist.map _), table.sound.2.sublist List.filter_sublist⟩

/-- A `DELETE`. -/
def remove (table : OwnedTable) (id : Nat) : OwnedTable :=
  { table with rows := table.rows.filter fun row => row.id ≠ id, sound := table.removable id }

end OwnedTable

end KiCore.Auth

import KiCore.Auth.Provision
import KiCore.Lib.Pool

/-!
# The one adoption of the default user's data

The marker that closes the window is stamped on the row of the system user. A database may be without that
row, as it is not inserted where another local user is called `admin`; then nothing is stamped, and every
later login of the adopter adopts again what the default user has written meanwhile. `adopted_once` says that
the data is adopted once, and whole, in every run whose transactions see the row.
-/

namespace KiCore.Auth

open KiCore.Lib

variable {table table' : OwnedTable} {db db' : Database} {users : List Account} {tables : List OwnedTable}
  {row other : OwnedRow} {owner name : String} {rows : List OwnedRow}

namespace Provisioning

variable {s t : Provisioning} {e : ProvisionEvent} {stage : ProvisionStage} {n : Nat} {id : String}
  {answered : Bool} {calls : List ProvisionStage}

/-- The rows of a table before and after the owner has adopted them. -/
structure Adopts (owner : String) (table table' : OwnedTable) : Prop where
  /-- no row is deleted -/
  ids : table'.rows.map OwnedRow.id = table.rows.map OwnedRow.id
  others : ∀ row ∈ table.rows, row.owner ≠ some SYSTEM_DEFAULT_USER_ID → row ∈ table'.rows
  adopted : ∀ row ∈ table.rows, row.owner = some SYSTEM_DEFAULT_USER_ID →
    ¬ table.rows.any (row.blocks owner) → table'.readers row.id = [owner]
  /-- a row that collides is left behind -/
  left : ∀ row ∈ table.rows, row.owner = some SYSTEM_DEFAULT_USER_ID →
    table.rows.any (row.blocks owner) → table'.readers row.id = [SYSTEM_DEFAULT_USER_ID]

def provisions : ProvisionEvent → Bool
  | .provision _ _ | .advance _ _ _ => true
  | _ => false

structure OneShot (s : Provisioning) (e : ProvisionEvent) : Prop where
  /-- at most one user ever adopts -/
  one : ∀ owner ∈ (s.next e).adopters, ∀ other ∈ (s.next e).adopters, owner = other
  /-- a provisioning leaves all rows as they are, or it adopts them in all tables, for the first time -/
  whole : provisions e → (s.next e).db.tables = s.db.tables ∨
    s.adopters = [] ∧ ∃ owner, (s.next e).adopters = [owner] ∧
      (∃ user ∈ s.db.users, user.id = owner ∧ user.isExternal) ∧
      List.Forall₂ (Adopts owner) s.db.tables (s.next e).db.tables
  /-- a row that has an owner is read by one user -/
  single : ∀ table ∈ (s.next e).db.tables, ∀ row ∈ table.rows, ∀ owner ∈ row.owner,
    table.readers row.id = [owner]

/-- A transaction that adopts and is committed sees the row of the system user. -/
def Heeded (s : Provisioning) : ProvisionEvent → Prop
  | .advance n _ answered =>
    match s.calls[n]? with
    | some (.sweeping _ snapshot) =>
      answered → snapshot.commits = s.db.commits → snapshot.getSystemUser.isSome
    | _ => True
  | _ => True

instance : Decidable (s.Heeded e) := by
  unfold Heeded
  split
  · split <;> infer_instance
  · infer_instance

end Provisioning

namespace OwnedTable

lemma readers_eq (mem : row ∈ table.rows) : table.readers row.id = row.owner.toList := by
  have alone : table.rows.filter (fun other => other.id = row.id) = [row] := by
    have nodup := table.sound.1
    obtain ⟨before, after, split⟩ := List.append_of_mem mem
    rw [split, List.map_append, List.map_cons, List.nodup_append, List.nodup_cons] at nodup
    have notBefore : before.filter (fun other => other.id = row.id) = [] := by
      refine List.filter_eq_nil_iff.mpr fun other mem same => ?_
      exact nodup.2.2 other.id (List.mem_map_of_mem mem) row.id List.mem_cons_self (by simpa using same)
    have notAfter : after.filter (fun other => other.id = row.id) = [] := by
      refine List.filter_eq_nil_iff.mpr fun other mem same => ?_
      have same : other.id = row.id := by simpa using same
      exact nodup.2.1.1 (same ▸ List.mem_map_of_mem mem)
    rw [split, List.filter_append, List.filter_cons_of_pos (by simp), notBefore, notAfter, List.nil_append]
  rw [readers, alone, List.filterMap_cons]
  cases row.owner <;> rfl

lemma updateOwner_rows : (table.updateOwner SYSTEM_DEFAULT_USER_ID owner).rows =
    table.rows.map (moved SYSTEM_DEFAULT_USER_ID owner table.rows) :=
  updateOrIgnore_eq table.sound

lemma adopts_updateOwner :
    Provisioning.Adopts owner table (table.updateOwner SYSTEM_DEFAULT_USER_ID owner) := by
  have there : ∀ row ∈ table.rows, moved SYSTEM_DEFAULT_USER_ID owner table.rows row ∈
      (table.updateOwner SYSTEM_DEFAULT_USER_ID owner).rows := by
    intro row mem
    rw [updateOwner_rows]
    exact List.mem_map_of_mem mem
  constructor
  · simp [updateOwner_rows, Function.comp_def]
  · intro row mem own
    have stays : moved SYSTEM_DEFAULT_USER_ID owner table.rows row = row := if_neg fun h => own h.1
    exact stays ▸ there row mem
  · intro row mem own free
    have moves : (moved SYSTEM_DEFAULT_USER_ID owner table.rows row).owner = some owner := by
      rw [moved, if_pos ⟨own, free⟩]
    have read := readers_eq (there row mem)
    rwa [moved_id, moves] at read
  · intro row mem own blocked
    have stays : moved SYSTEM_DEFAULT_USER_ID owner table.rows row = row := if_neg fun h => h.2 blocked
    have read := readers_eq (stays ▸ there row mem)
    rwa [own] at read

end OwnedTable

namespace Database

@[simp] lemma written_users : (db.written users tables).users = users := by
  unfold written
  split_ifs with same
  · exact same.1.symm
  · rfl

@[simp] lemma written_tables : (db.written users tables).tables = tables := by
  unfold written
  split_ifs with same
  · exact same.2.symm
  · rfl

/-- Databases, an earlier one and a later one: if nothing has been committed, they are the same. -/
def Before (db db' : Database) : Prop :=
  db.commits ≤ db'.commits ∧ (db.commits = db'.commits → db = db')

lemma Before.refl : Before db db := ⟨le_rfl, fun _ => rfl⟩

lemma Before.written (h : Before db db') : Before db (db'.written users tables) := by
  unfold Database.written
  split_ifs with same
  · exact h
  · exact ⟨h.1.trans (Nat.le_succ _), fun eq => absurd eq (Nat.lt_succ_of_le h.1).ne⟩

lemma adopt_tables : (db.adopt owner).tables =
    db.tables.map (OwnedTable.updateOwner SYSTEM_DEFAULT_USER_ID owner) := by
  rw [adopt, written_tables, List.foldl_cons, List.foldl_cons, List.foldl_nil, sweep, sweep, List.map_map]
  refine List.map_congr_left fun table _ => ?_
  cases column : table.ownerColumn with
  | userId => simp [column, OwnedTable.updateOwner]
  | ownerUserId => simp [column]

/-- The marker that is on the row of the system user. -/
def adopter (db : Database) : Option String := db.getSystemUser.bind Account.adoptedBy

lemma getSystemUser_map {f : Account → Account} (ids : ∀ user, (f user).id = user.id) :
    (db.users.map f).find? (·.id = SYSTEM_DEFAULT_USER_ID) = db.getSystemUser.map f := by
  rw [List.find?_map]
  simp only [Function.comp_def, ids]
  rfl

lemma adopter_map {f : Account → Account} (ids : ∀ user, (f user).id = user.id)
    (markers : ∀ user, (f user).adoptedBy = user.adoptedBy) :
    (db.written (db.users.map f) tables).adopter = db.adopter := by
  unfold adopter getSystemUser findById
  rw [written_users, getSystemUser_map ids, Option.bind_map]
  exact congrArg _ (funext markers)

lemma adopter_append {user : Account} (unmarked : user.adoptedBy = none) :
    (db.written (db.users ++ [user]) tables).adopter = db.adopter := by
  unfold adopter getSystemUser findById
  rw [written_users, List.find?_append]
  cases db.users.find? (·.id = SYSTEM_DEFAULT_USER_ID) with
  | some found => rfl
  | none =>
    rw [Option.none_or, List.find?_singleton]
    split_ifs
    · exact unmarked
    · rfl

lemma adopter_adopt (has : db.getSystemUser.isSome) (free : db.adopter = none) :
    (db.adopt owner).adopter = some owner := by
  obtain ⟨user, found⟩ := Option.isSome_iff_exists.mp has
  have here : user.id = SYSTEM_DEFAULT_USER_ID := by simpa using List.find?_some found
  have unmarked : user.adoptedBy = none := by rwa [adopter, found] at free
  have ids : ∀ user : Account, (if user.id = SYSTEM_DEFAULT_USER_ID && user.adoptedBy.isNone then
      { user with adoptedBy := some owner } else user).id = user.id := by
    intro user
    split_ifs <;> rfl
  rw [adopter, getSystemUser, findById, adopt, written_users, stamp, getSystemUser_map ids, found]
  simp [here, unmarked]

lemma adopter_written : (db.written db.users tables).adopter = db.adopter := by
  simp [adopter, getSystemUser, findById]

lemma adopter_ensureSystemUser : db.ensureSystemUser.adopter = db.adopter := by
  unfold ensureSystemUser
  split_ifs
  · rfl
  · exact adopter_append rfl

lemma adopter_setStatus {id : String} {status : UserStatus} : (db.setStatus id status).adopter = db.adopter := by
  refine adopter_map ?_ ?_
  · intro user
    split_ifs <;> rfl
  · intro user
    split_ifs <;> rfl

lemma mayAdopt_iff : db.mayAdopt owner ↔ db.users.countP Account.isExternal = 1 ∧
    db.users.countP (fun user => user.id = owner && user.isExternal) = 1 ∧ db.adopter = none := by
  simp [mayAdopt, adopter, and_assoc]

lemma external_of_mayAdopt (may : db.mayAdopt owner) :
    ∃ user ∈ db.users, user.id = owner ∧ user.isExternal := by
  have own := (mayAdopt_iff.mp may).2.1
  have there : 0 < db.users.countP fun user => user.id = owner && user.isExternal := by omega
  obtain ⟨user, mem, holds⟩ := List.countP_pos_iff.mp there
  exact ⟨user, mem, by simpa using holds⟩

end Database

namespace Provisioning

variable {s t : Provisioning} {e : ProvisionEvent} {stage : ProvisionStage} {n : Nat} {id : String}
  {answered : Bool} {calls : List ProvisionStage} {snapshot : Database}

/-- A transaction has read a database that the present one has come from. -/
def Read (db : Database) : ProvisionStage → Prop
  | .sweeping owner snapshot => snapshot.Before db ∧ snapshot.mayAdopt owner
  | _ => True

structure Tracked (s : Provisioning) : Prop where
  adopters : s.adopters = s.db.adopter.toList
  read : ∀ stage ∈ s.calls, Read s.db stage

lemma Read.of_before (h : Read db stage) (later : ∀ snapshot : Database, snapshot.Before db → snapshot.Before db') :
    Read db' stage := by
  cases stage with
  | sweeping owner snapshot => exact ⟨later snapshot h.1, h.2⟩
  | _ => trivial

section

variable (h : Tracked s)
include h

lemma Tracked.of_written (adopter : db.adopter = s.db.adopter)
    (later : ∀ snapshot : Database, snapshot.Before s.db → snapshot.Before db)
    (known : ∀ stage ∈ calls, stage ∈ s.calls ∨ Read db stage) : Tracked { s with db, calls } where
  adopters := h.adopters.trans (by rw [adopter])
  read stage mem := (known stage mem).elim (fun mem => (h.read stage mem).of_before later) id

lemma Tracked.elsewhere (adopter : db.adopter = s.db.adopter)
    (later : ∀ snapshot : Database, snapshot.Before s.db → snapshot.Before db) : Tracked { s with db } :=
  h.of_written adopter later fun _ mem => .inl mem

lemma Tracked.goTo (read : Read s.db stage) : Tracked (s.goTo n stage) :=
  ⟨h.adopters, Pool.forall_set h.read read⟩

lemma Tracked.fail {error : ProvisionError} : Tracked (s.fail n error) :=
  h.goTo trivial

lemma Tracked.welcome {user : Account} : Tracked (s.welcome n user) := by
  unfold Provisioning.welcome
  split_ifs
  · exact h.fail
  · exact h.goTo trivial

end

lemma welcome_db {user : Account} : (s.welcome n user).db = s.db := by
  unfold Provisioning.welcome
  split_ifs <;> rfl

/-- All rows are as they were, or have been adopted for the first time. -/
def Whole (s t : Provisioning) : Prop :=
  t.db.tables = s.db.tables ∨
    s.adopters = [] ∧ ∃ owner, t.adopters = [owner] ∧
      (∃ user ∈ s.db.users, user.id = owner ∧ user.isExternal) ∧
      List.Forall₂ (Adopts owner) s.db.tables t.db.tables

section

variable (h : Tracked s)
include h

lemma Tracked.commitAdoption (read : Read s.db (.sweeping owner snapshot))
    (has : snapshot.commits = s.db.commits → snapshot.getSystemUser.isSome) :
    Tracked (s.commitAdoption n owner snapshot) ∧ Whole s (s.commitAdoption n owner snapshot) := by
  unfold Provisioning.commitAdoption
  split_ifs with same
  · obtain ⟨before, may⟩ := read
    have has := has same
    obtain rfl := before.2 same
    have free := (Database.mayAdopt_iff.mp may).2.2
    have first : s.adopters = [] := by rw [h.adopters, free, Option.toList_none]
    refine ⟨⟨?_, ?_⟩, .inr ⟨first, owner, ?_, Database.external_of_mayAdopt may, ?_⟩⟩
    · rw [Database.adopter_adopt has free, first]
      rfl
    · exact Pool.forall_set (fun stage mem => (h.read stage mem).of_before fun _ => .written) trivial
    · rw [first]
    · rw [Database.adopt_tables, List.forall₂_map_right_iff]
      exact List.forall₂_same.mpr fun table _ => OwnedTable.adopts_updateOwner
  · exact ⟨h.fail, .inl rfl⟩

lemma Tracked.insertExternal {userType : UserType} {externalUserId : String}
    {projection : ExternalUserProjection}
    (inserted : s.db.insertExternal id userType externalUserId projection = .ok db) :
    Tracked { s with db, calls := s.calls.set n (.inserted id) } ∧ db.tables = s.db.tables := by
  unfold Database.insertExternal at inserted
  dsimp only at inserted
  split_ifs at inserted
  cases inserted
  refine ⟨h.of_written (Database.adopter_append rfl) (fun _ => .written) fun stage mem => ?_,
    Database.written_tables⟩
  obtain mem | rfl := List.mem_or_eq_of_mem_set mem
  · exact .inl mem
  · exact .inr trivial

lemma Tracked.query (mem : stage ∈ s.calls)
    (has : ∀ owner snapshot, stage = .sweeping owner snapshot → snapshot.commits = s.db.commits →
      snapshot.getSystemUser.isSome) :
    Tracked (s.query n id stage) ∧ Whole s (s.query n id stage) := by
  cases stage with
  | received userType externalUserId projection =>
    rw [Provisioning.query]
    split
    · exact ⟨h.fail, .inl rfl⟩
    · split
      · exact ⟨h.welcome, .inl (by rw [welcome_db])⟩
      · exact ⟨h.goTo trivial, .inl rfl⟩
  | absent userType externalUserId projection =>
    rw [Provisioning.query]
    split
    case h_1 db inserted => exact (h.insertExternal inserted).imp_right .inl
    case h_2 => exact ⟨h.fail, .inl rfl⟩
  | inserted id =>
    rw [Provisioning.query]
    split
    · exact ⟨h.welcome, .inl (by rw [welcome_db])⟩
    · exact ⟨h.fail, .inl rfl⟩
  | provisioned user =>
    rw [Provisioning.query]
    split_ifs with may
    · exact ⟨h.goTo ⟨.refl, may⟩, .inl rfl⟩
    · exact ⟨h.goTo trivial, .inl rfl⟩
  | sweeping owner snapshot => exact h.commitAdoption (h.read _ mem) (has owner snapshot rfl)
  | adopted owner => exact ⟨h.goTo trivial, .inl rfl⟩
  | done result => exact ⟨h, .inl rfl⟩

lemma Tracked.advance (heeded : s.Heeded (.advance n id answered)) :
    Tracked (s.advance n id answered) ∧ Whole s (s.advance n id answered) := by
  unfold Provisioning.advance
  split
  case h_1 | h_2 => exact ⟨h, .inl rfl⟩
  case h_3 stage _ there =>
    split_ifs with answers
    · refine h.query (List.mem_of_getElem? there) fun owner snapshot here => ?_
      rw [Heeded, there, here] at heeded
      exact heeded answers
    · exact ⟨h.fail, .inl rfl⟩

lemma Tracked.next (heeded : s.Heeded e) : Tracked (s.next e) := by
  cases e with
  | start =>
    refine h.of_written Database.adopter_ensureSystemUser (fun _ before => ?_) (by simp)
    unfold Database.ensureSystemUser
    split_ifs
    · exact before
    · exact before.written
  | provision externalUserId projection => exact ⟨h.adopters, Pool.forall_append h.read trivial⟩
  | advance n id answered => exact (h.advance heeded).1
  | setStatus id status => exact h.elsewhere Database.adopter_setStatus fun _ => .written
  | insert table row => exact h.elsewhere Database.adopter_written fun _ => .written
  | remove table id => exact h.elsewhere Database.adopter_written fun _ => .written

lemma Tracked.oneShot (heeded : s.Heeded e) : OneShot s e where
  one owner mem other mem' := by
    rw [(h.next heeded).adopters, Option.mem_toList] at mem mem'
    exact Option.mem_unique mem mem'
  whole provisioning := by
    cases e with
    | provision => exact .inl rfl
    | advance n id answered => exact (h.advance heeded).2
    | _ => cases provisioning
  single table _ row mem owner own := by rw [OwnedTable.readers_eq mem, Option.mem_def.mp own, Option.toList_some]

end

lemma tracked_start : Tracked (start db) := ⟨rfl, by simp [start]⟩

/-- In every run whose adopting transactions see the row of the system user, one external user at most adopts
the default user's rows; he adopts those of all tables in one step, except those that collide with rows of
his, which are read by the default user as before; and no other provisioning touches a row. -/
theorem adopted_once (db : Database) (events : List ProvisionEvent)
    (heeded : LTS.EnabledAll Heeded next (start db) events) :
    LTS.EnabledAll OneShot next (start db) events :=
  heeded.imp (fun _ _ h heeds => ⟨h.oneShot heeds, h.next heeds⟩) tracked_start

/-- A first login fails midway, and the user writes settings of his own before the next one. -/
theorem adopted_once_retried :
    LTS.EnabledAll OneShot next
      (start { users := [], commits := 0, tables := [
        { name := "system_settings", ownerColumn := .userId, references := true, rows := [], sound := by decide },
        { name := "assistant_plugins", ownerColumn := .ownerUserId, references := true, rows := [],
          sound := by decide } ] })
      [ .start, .insert "system_settings" ⟨0, some SYSTEM_DEFAULT_USER_ID, ["settings"]⟩,
        .insert "assistant_plugins" ⟨0, some SYSTEM_DEFAULT_USER_ID, ["telegram"]⟩,
        .provision "a" ⟨none, none⟩, .advance 0 "u" true, .advance 0 "u" true, .advance 0 "u" true,
        .advance 0 "u" true, .insert "system_settings" ⟨1, some "u", ["settings"]⟩, .advance 0 "u" true,
        .provision "a" ⟨none, none⟩, .advance 1 "v" true, .advance 1 "v" true, .advance 1 "v" true,
        .advance 1 "v" true, .insert "assistant_plugins" ⟨1, some SYSTEM_DEFAULT_USER_ID, ["lark"]⟩,
        .provision "a" ⟨none, none⟩, .advance 2 "w" true, .advance 2 "w" true, .advance 2 "w" true ] :=
  adopted_once _ _ (by decide)

/-- Another local user is called `admin`, so there is no row to stamp, and the next login adopts again. -/
theorem adopted_again : ¬ ∀ db events, LTS.EnabledAll OneShot next (start db) events := by
  intro h
  have law := LTS.EnabledAll.last <| h
    { users := [⟨"1", .localUser, none, some "admin", none, .active, none⟩], commits := 0, tables := [
      { name := "providers", ownerColumn := .userId, references := false, rows := [], sound := by decide } ] }
    ([ .start, .provision "a" ⟨none, none⟩, .advance 0 "u" true, .advance 0 "u" true, .advance 0 "u" true,
      .advance 0 "u" true, .advance 0 "u" true, .advance 0 "u" true,
      .insert "providers" ⟨0, some SYSTEM_DEFAULT_USER_ID, []⟩, .provision "a" ⟨none, none⟩,
      .advance 1 "v" true, .advance 1 "v" true ] ++ [.advance 1 "v" true])
  obtain same | ⟨first, -⟩ := law.whole rfl
  · revert same
    decide
  · revert first
    decide

end Provisioning

end KiCore.Auth

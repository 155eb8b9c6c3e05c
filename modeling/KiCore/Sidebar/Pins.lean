import KiCore.Lib.Transition
import KiCore.Sidebar.Archive

/-!
# Archived units and pinned rows

No archived unit is pinned (`NoneArchivedPinned`). A pin does not look at the archive column, and an
archive deletes the rows of its own user and of the units it is told to archive only, and none of
the conversations that a team takes along. `archived_never_pinned_iff` says under which operations
the invariant holds throughout a run.
-/

namespace KiCore.Sidebar

open KiCore.Lib

namespace UserOrder

variable {order : UserOrder} {userId : String} {item : OrderItemRef} {row : UserOrderRow}

def keys (order : UserOrder) : List (String × OrderItemRef) :=
  order.rows.map UserOrderRow.key

lemma mem_keys_pin {key : String × OrderItemRef} :
    key ∈ (order.pin userId item).2.keys ↔ key ∈ order.keys ∨ key = (userId, item) := by
  rw [pin]
  split
  · rename_i new
    simp [keys, insert, UserOrderRow.key]
  · rename_i there
    push Not at there
    obtain ⟨row, mem, same⟩ := there
    refine ⟨.inl, Or.rec id ?_⟩
    rintro rfl
    exact List.mem_map.mpr ⟨row, mem, same⟩

lemma mem_keys_delete (test : String × OrderItemRef → Bool) {key : String × OrderItemRef} :
    key ∈ (order.delete fun row => test row.key).keys ↔ key ∈ order.keys ∧ ¬ test key := by
  simp only [keys, delete, List.mem_map, List.mem_filter, decide_eq_true_eq]
  constructor
  · rintro ⟨row, ⟨mem, kept⟩, rfl⟩
    exact ⟨⟨row, mem, rfl⟩, kept⟩
  · rintro ⟨⟨row, mem, rfl⟩, kept⟩
    exact ⟨row, ⟨mem, kept⟩, rfl⟩

@[simp] lemma keys_rekey {key : UserOrderRow → Int} : (order.rekey key).keys = order.keys := by
  rw [keys, rekey, List.map_map]
  rfl

@[simp] lemma keys_setKey {key : Int} : (order.setKey userId item key).keys = order.keys :=
  keys_rekey

@[simp] lemma keys_rebalanceScene : (order.rebalanceScene userId).keys = order.keys :=
  keys_rekey

@[simp] lemma keys_moveItem {after : Option OrderItemRef} :
    (order.moveItem userId item after).2.keys = order.keys := by
  rw [moveItem.eq_def]
  cases order.orderKey userId item with
  | none => rfl
  | some own =>
    cases after with
    | none => exact keys_setKey
    | some after =>
      dsimp only
      repeat' split
      all_goals simp

end UserOrder

namespace SidebarService

/-- The operations on pins and archives. -/
inductive Op where
  | pin (userId scene itemType itemId : String)
  | unpin (userId scene itemType itemId : String)
  | moveOrder (userId scene : String) (moved : String × String) (after : Option (String × String))
  | archiveConversation (userId id : String) (now : Int)
  | archiveTeam (userId id : String) (now : Int)
  | archiveProject (userId projectId : String) (now : Int)
  | unarchiveConversation (userId id : String)
  | unarchiveTeam (userId id : String)
  | unarchiveProject (userId projectId : String)

variable (paths : Paths)

def next (s : SidebarService) : Op → SidebarService
  | .pin userId scene itemType itemId => (s.pin userId scene itemType itemId).2
  | .unpin userId scene itemType itemId => (s.unpin userId scene itemType itemId).2
  | .moveOrder userId scene moved after => (s.moveOrder userId scene moved after).2
  | .archiveConversation userId id now => (s.archiveConversation userId id now).2
  | .archiveTeam userId id now => (s.archiveTeam userId id now).2
  | .archiveProject userId projectId now => (s.archiveProject paths userId projectId now).2
  | .unarchiveConversation userId id => (s.unarchiveConversation userId id).2
  | .unarchiveTeam userId id => (s.unarchiveTeam userId id).2
  | .unarchiveProject userId projectId => (s.unarchiveProject paths userId projectId).2

variable (s : SidebarService)

def NoneArchivedPinned : Prop :=
  ∀ key ∈ s.db.userOrder.keys, ¬ s.db.archived key.2

instance : Decidable s.NoneArchivedPinned :=
  inferInstanceAs (Decidable (∀ key ∈ s.db.userOrder.keys, ¬ s.db.archived key.2))

def UnarchiveKeepsPins (s : SidebarService) : Op → Prop
  | .unarchiveConversation userId id =>
    (s.next paths (.unarchiveConversation userId id)).db.userOrder = s.db.userOrder
  | .unarchiveTeam userId id => (s.next paths (.unarchiveTeam userId id)).db.userOrder = s.db.userOrder
  | .unarchiveProject userId projectId =>
    (s.next paths (.unarchiveProject userId projectId)).db.userOrder = s.db.userOrder
  | _ => True

/-- Of what the archive of some units takes along, nothing is pinned but the units themselves, and
these for the user only. -/
def UnpinsAll (userId : String) (units : List OrderItemRef) : Prop :=
  ∀ key ∈ s.db.userOrder.keys, ∀ unit ∈ units, s.db.takes userId unit key.2 →
    key.1 = userId ∧ key.2 ∈ units

/-- A pin names no archived unit, and an archive unpins all that it takes along. -/
def RespectsArchive (s : SidebarService) : Op → Prop
  | .pin _ scene itemType itemId => ∀ itemType', OrderScene.parse scene = some .pinned →
      OrderItemType.parse itemType = some itemType' → ¬ s.db.archived ⟨itemType', itemId⟩
  | .archiveConversation userId id _ => s.UnpinsAll userId [⟨.conversation, id⟩]
  | .archiveTeam userId id _ => s.UnpinsAll userId [⟨.team, id⟩]
  | .archiveProject userId projectId _ => s.UnpinsAll userId (s.activeUnits paths userId projectId)
  | _ => True

variable {paths : Paths} {s t : SidebarService} {userId : String} {units : List OrderItemRef}

lemma takes_owned {db : Db} {unit item : OrderItemRef} (takes : db.takes userId unit item) :
    db.ownedBy userId item := by
  rw [Db.takes, Bool.and_eq_true, Bool.or_eq_true, decide_eq_true_eq] at takes
  obtain ⟨owned, rfl | member⟩ := takes
  · exact owned
  · rw [Bool.and_eq_true, decide_eq_true_eq, decide_eq_true_eq] at member
    obtain ⟨_ | _, id⟩ := item
    · dsimp only [Db.markerOf] at member
      obtain ⟨row, mine, -⟩ := Option.bind_eq_some_iff.mp member.2
      obtain ⟨found, mine⟩ := Option.filter_eq_some_iff.mp mine
      simpa [Db.ownedBy, found] using mine
    · cases member.2

lemma mem_keys_archives {a b : Db} (archives : Db.Archives userId units a b)
    {key : String × OrderItemRef} :
    key ∈ b.userOrder.keys ↔ key ∈ a.userOrder.keys ∧
      ¬ ∃ unit ∈ units, a.ownedBy userId unit ∧ key = (userId, unit) := by
  let gone : String × OrderItemRef → Bool := fun key =>
    units.any fun unit => a.ownedBy userId unit && key = (userId, unit)
  have deleted : b.userOrder.keys = (a.userOrder.delete fun row => gone row.key).keys := by
    rw [UserOrder.keys, archives.rows]
    rfl
  rw [deleted, UserOrder.mem_keys_delete gone]
  simp [gone]

lemma noneArchivedPinned_archives (archives : Db.Archives userId units s.db t.db)
    (inv : s.NoneArchivedPinned) : t.NoneArchivedPinned ↔ s.UnpinsAll userId units := by
  constructor
  · intro kept key pinned unit named takes
    by_contra other
    refine kept key ?_ ((archives.archived key.2).mpr (.inr ⟨unit, named, takes⟩))
    refine (mem_keys_archives archives).mpr ⟨pinned, ?_⟩
    rintro ⟨unit, named, -, rfl⟩
    exact other ⟨rfl, named⟩
  · intro unpins key pinned archived
    obtain ⟨pinned, left⟩ := (mem_keys_archives archives).mp pinned
    obtain before | ⟨unit, named, takes⟩ := (archives.archived key.2).mp archived
    · exact inv key pinned before
    · obtain ⟨mine, there⟩ := unpins key pinned unit named takes
      exact left ⟨key.2, there, takes_owned takes, Prod.ext mine rfl⟩

lemma noneArchivedPinned_archiveUnit {unit : OrderItemRef} {now : Int} (inv : s.NoneArchivedPinned) :
    (s.archiveUnit userId unit now).2.NoneArchivedPinned ↔ s.UnpinsAll userId [unit] := by
  obtain ⟨db, done, archives⟩ := archiveUnit_spec now s userId unit
  rw [done]
  exact noneArchivedPinned_archives archives inv

lemma setArchived_none (s : SidebarService) (userId : String) (unit : OrderItemRef) :
    (s.setArchived userId unit none).2.db.userOrder = s.db.userOrder ∧
      (s.NoneArchivedPinned → (s.setArchived userId unit none).2.NoneArchivedPinned) := by
  obtain ⟨db, done, flips⟩ := s.setArchived_spec userId unit none
  rw [done]
  refine ⟨flips.order, fun inv key pinned archived => ?_⟩
  rw [NoneArchivedPinned] at inv
  dsimp only at pinned archived
  rw [flips.order] at pinned
  rw [flips.archived] at archived
  split at archived
  · cases archived
  · exact inv key pinned archived

lemma unarchiveUnit_none (s : SidebarService) (userId : String) (unit : OrderItemRef) :
    (s.unarchiveUnit userId unit).2.db.userOrder = s.db.userOrder ∧
      (s.NoneArchivedPinned → (s.unarchiveUnit userId unit).2.NoneArchivedPinned) := by
  have spec := s.setArchived_none userId unit
  rw [unarchiveUnit]
  split
  · rename_i t done
    rwa [done] at spec
  · rename_i t done
    rwa [done] at spec

lemma unarchiveProject_none (s : SidebarService) (userId projectId : String) :
    (s.unarchiveProject paths userId projectId).2.db.userOrder = s.db.userOrder ∧
      (s.NoneArchivedPinned → (s.unarchiveProject paths userId projectId).2.NoneArchivedPinned) := by
  rw [unarchiveProject]
  split
  · exact ⟨rfl, id⟩
  · rename_i units _
    dsimp only
    clear * -
    induction units generalizing s with
    | nil => exact ⟨rfl, id⟩
    | cons unit units ih =>
      obtain ⟨order, kept⟩ := s.setArchived_none userId unit
      obtain ⟨orderRest, keptRest⟩ := ih (s.setArchived userId unit none).2
      exact ⟨orderRest.trans order, keptRest ∘ kept⟩

lemma noneArchivedPinned_pin {scene itemType itemId : String} (inv : s.NoneArchivedPinned) :
    (s.pin userId scene itemType itemId).2.NoneArchivedPinned ↔
      RespectsArchive paths s (.pin userId scene itemType itemId) := by
  rw [pin, RespectsArchive]
  split
  · rename_i none
    simp [none, inv]
  · rename_i scene
    split
    · rename_i none
      simp [none, inv]
    · rename_i itemType known
      simp only [scene, known, true_imp_iff, Option.some.injEq, forall_eq']
      constructor
      · intro kept
        exact kept (userId, _) (UserOrder.mem_keys_pin.mpr (.inr rfl))
      · intro active key pinned
        obtain before | rfl := UserOrder.mem_keys_pin.mp pinned
        · exact inv key before
        · exact active

lemma noneArchivedPinned_next_iff (inv : s.NoneArchivedPinned) (op : Op) :
    (s.next paths op).NoneArchivedPinned ↔ RespectsArchive paths s op := by
  cases op with
  | pin userId scene itemType itemId => exact noneArchivedPinned_pin inv
  | unpin userId scene itemType itemId =>
    refine iff_of_true ?_ trivial
    rw [next, unpin]
    split
    · exact inv
    · split
      · exact inv
      · intro key pinned
        exact inv key ((UserOrder.mem_keys_delete fun key => key = _).mp pinned).1
  | moveOrder userId scene moved after =>
    refine iff_of_true ?_ trivial
    rw [next, moveOrder]
    split
    · exact inv
    · rename_i moved after _
      have moves : NoneArchivedPinned
          { s with db.userOrder := (s.db.userOrder.moveItem userId moved after).2 } := by
        intro key pinned
        exact inv key (UserOrder.keys_moveItem ▸ pinned)
      dsimp only
      split <;> exact moves
  | archiveConversation userId id now => exact noneArchivedPinned_archiveUnit inv
  | archiveTeam userId id now => exact noneArchivedPinned_archiveUnit inv
  | archiveProject userId projectId now =>
    obtain ⟨db, done, archives⟩ := archiveProject_spec paths s userId projectId now
    rw [next, done]
    exact noneArchivedPinned_archives archives inv
  | unarchiveConversation userId id => exact iff_of_true ((s.unarchiveUnit_none userId _).2 inv) trivial
  | unarchiveTeam userId id => exact iff_of_true ((s.unarchiveUnit_none userId _).2 inv) trivial
  | unarchiveProject userId projectId =>
    exact iff_of_true ((s.unarchiveProject_none userId projectId).2 inv) trivial

lemma unarchiveKeepsPins (s : SidebarService) (op : Op) : UnarchiveKeepsPins paths s op := by
  cases op with
  | unarchiveConversation userId id => exact (s.unarchiveUnit_none userId _).1
  | unarchiveTeam userId id => exact (s.unarchiveUnit_none userId _).1
  | unarchiveProject userId projectId => exact (s.unarchiveProject_none userId projectId).1
  | _ => trivial

/-- No archived unit is pinned throughout a run and nothing that unarchives pins, if and only if
none is at the start, every pin names no archived unit, and every archive unpins all that it takes
along. -/
theorem archived_never_pinned_iff (paths : Paths) (s : SidebarService) (ops : List Op) :
    (LTS.Throughout (next paths) NoneArchivedPinned s ops ∧
      LTS.EnabledAll (UnarchiveKeepsPins paths) (next paths) s ops) ↔
      s.NoneArchivedPinned ∧ LTS.EnabledAll (RespectsArchive paths) (next paths) s ops := by
  have keeps : LTS.EnabledAll (UnarchiveKeepsPins paths) (next paths) s ops :=
    LTS.enabledAll_of (Q := fun _ => True) (fun s op _ => ⟨unarchiveKeepsPins s op, trivial⟩) trivial
  rw [and_iff_left keeps, LTS.throughout_iff]
  apply and_congr_right
  intro inv
  refine LTS.enabledAll_iff (Q := NoneArchivedPinned) (fun s op inv => ?_) inv
  exact ⟨noneArchivedPinned_next_iff inv op, (noneArchivedPinned_next_iff inv op).mpr⟩

def pinnedAgain : List Op :=
  [.archiveConversation "u" "c" 5, .pin "u" "pinned" "conversation" "c"]

/-- The archived conversation has a pinned row. -/
theorem pinnedAgain_archived :
    oneConversation.NoneArchivedPinned ∧
      ¬ LTS.Throughout (next noPaths) NoneArchivedPinned oneConversation pinnedAgain := by
  constructor
  · decide
  · rintro ⟨-, -, last⟩
    exact absurd (show NoneArchivedPinned _ from last) (by decide)

end SidebarService

end KiCore.Sidebar

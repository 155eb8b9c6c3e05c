import KiCore.Sidebar.Service

/-!
# The archive of units

What an archive does to the tables is the same on every path: it flips the units, with the
conversations that the teams among them take along, and deletes the rows under which its user has
them pinned (`Archives`). The archive of a project and the archive of its units one by one differ in
what they stop only.
-/

namespace KiCore.Sidebar

open KiCore.Lib

namespace Db

def ownedBy (db : Db) (userId : String) (item : OrderItemRef) : Bool :=
  match item.itemType with
  | .conversation => db.conversations[item.itemId]?.any fun row => row.userId = userId
  | .team => db.teams[item.itemId]?.any fun row => row.userId = userId

def archived (db : Db) (item : OrderItemRef) : Bool :=
  match item.itemType with
  | .conversation => db.conversations[item.itemId]?.any fun row => row.archivedAt.isSome
  | .team => db.teams[item.itemId]?.any fun row => row.archivedAt.isSome

/-- The team that a conversation of a user names. -/
def markerOf (db : Db) (userId : String) (item : OrderItemRef) : Option String :=
  match item.itemType with
  | .conversation =>
    (db.conversations[item.itemId]?.filter fun row => row.userId = userId).bind (·.teamMarker)
  | .team => none

/-- The archive of a unit on behalf of a user flips an item: the unit itself, or a conversation that
names it. -/
def takes (db : Db) (userId : String) (unit item : OrderItemRef) : Bool :=
  db.ownedBy userId unit &&
    (item = unit || (unit.itemType = .team && db.markerOf userId item = some unit.itemId))

variable {s t u : Db} {userId user : String} {item unit : OrderItemRef}
variable {units units' : List OrderItemRef} {at_ : Option Int} {now : Int}

/-- A write of the archive column of some items. -/
structure Flips (flip : OrderItemRef → Bool) (at_ : Option Int) (s t : Db) : Prop where
  conversations : ∀ id : String, t.conversations[id]? = s.conversations[id]?.map fun row =>
    if flip ⟨.conversation, id⟩ then { row with archivedAt := at_ } else row
  teams : ∀ id : String, t.teams[id]? = s.teams[id]?.map fun row =>
    if flip ⟨.team, id⟩ then { row with archivedAt := at_ } else row
  order : t.userOrder = s.userOrder

namespace Flips

variable {flip : OrderItemRef → Bool} (flips : Flips flip at_ s t)

include flips

lemma ownedBy : t.ownedBy user item = s.ownedBy user item := by
  obtain ⟨_ | _, id⟩ := item
  · dsimp only [Db.ownedBy]
    rw [flips.conversations, Option.any_map]
    congr 1
    funext row
    exact decide_eq_decide.mpr (by split <;> rfl)
  · dsimp only [Db.ownedBy]
    rw [flips.teams, Option.any_map]
    congr 1
    funext row
    exact decide_eq_decide.mpr (by split <;> rfl)

lemma markerOf : t.markerOf user item = s.markerOf user item := by
  obtain ⟨_ | _, id⟩ := item
  · dsimp only [Db.markerOf]
    rw [flips.conversations]
    cases s.conversations[id]? with
    | none => rfl
    | some row =>
      by_cases owner : row.userId = user
      · cases flip ⟨.conversation, id⟩ <;> simp [Option.filter, owner, ConversationRow.teamMarker]
      · cases flip ⟨.conversation, id⟩ <;> simp [Option.filter, owner]
  · rfl

lemma takes : t.takes user unit item = s.takes user unit item := by
  rw [Db.takes, Db.takes, flips.ownedBy, flips.markerOf]

end Flips

lemma takes_row (takes : s.takes userId unit item) :
    match item.itemType with
    | .conversation => s.conversations[item.itemId]?.isSome
    | .team => s.teams[item.itemId]?.isSome := by
  rw [Db.takes, Bool.and_eq_true, Bool.or_eq_true, decide_eq_true_eq] at takes
  obtain ⟨owned, rfl | member⟩ := takes
  · obtain ⟨_ | _, id⟩ := item
    · exact Option.isSome_of_any owned
    · exact Option.isSome_of_any owned
  · rw [Bool.and_eq_true, decide_eq_true_eq, decide_eq_true_eq] at member
    obtain ⟨_ | _, id⟩ := item
    · dsimp only [Db.markerOf] at member
      cases found : s.conversations[id]? with
      | none => simp [found] at member
      | some row => rfl
    · simp [Db.markerOf] at member

lemma Flips.archived (flips : Flips (s.takes userId unit) at_ s t) :
    t.archived item = if s.takes userId unit item then at_.isSome else s.archived item := by
  cases taken : s.takes userId unit item with
  | false =>
    obtain ⟨_ | _, id⟩ := item
    · simp [Db.archived, flips.conversations, taken]
    · simp [Db.archived, flips.teams, taken]
  | true =>
    have row := takes_row taken
    obtain ⟨_ | _, id⟩ := item
    · obtain ⟨row, found⟩ := Option.isSome_iff_exists.mp row
      simp [Db.archived, flips.conversations, taken, found]
    · obtain ⟨row, found⟩ := Option.isSome_iff_exists.mp row
      simp [Db.archived, flips.teams, taken, found]

lemma flips_refl (foreign : s.ownedBy userId unit = false) : Flips (s.takes userId unit) at_ s s where
  conversations := by simp [takes, foreign]
  teams := by simp [takes, foreign]
  order := rfl

lemma setConversationArchived_flips (s : Db) (userId id : String) (at_ : Option Int) :
    (s.setConversationArchived userId id at_).1 = s.ownedBy userId ⟨.conversation, id⟩ ∧
      Flips (s.takes userId ⟨.conversation, id⟩) at_ s (s.setConversationArchived userId id at_).2 := by
  rw [setConversationArchived]
  cases found : s.conversations[id]? with
  | none =>
    have foreign : s.ownedBy userId ⟨.conversation, id⟩ = false := by simp [ownedBy, found]
    exact ⟨foreign.symm, flips_refl foreign⟩
  | some row =>
    by_cases owner : row.userId = userId
    · have owned : s.ownedBy userId ⟨.conversation, id⟩ = true := by simp [ownedBy, found, owner]
      simp only [if_pos owner]
      refine ⟨owned.symm, fun other => ?_, fun other => by simp [takes], rfl⟩
      rw [Table.get_insert]
      by_cases same : id = other
      · cases same
        simp [takes, owned, found]
      · simp [takes, same, Ne.symm same]
    · have foreign : s.ownedBy userId ⟨.conversation, id⟩ = false := by simp [ownedBy, found, owner]
      simp only [if_neg owner]
      exact ⟨foreign.symm, flips_refl foreign⟩

lemma setTeamArchived_flips (s : Db) (userId id : String) (at_ : Option Int) :
    (s.setTeamArchived userId id at_).1 = s.ownedBy userId ⟨.team, id⟩ ∧
      Flips (s.takes userId ⟨.team, id⟩) at_ s (s.setTeamArchived userId id at_).2 := by
  rw [setTeamArchived]
  cases found : s.teams[id]? with
  | none =>
    have foreign : s.ownedBy userId ⟨.team, id⟩ = false := by simp [ownedBy, found]
    exact ⟨foreign.symm, flips_refl foreign⟩
  | some row =>
    by_cases owner : row.userId = userId
    · have owned : s.ownedBy userId ⟨.team, id⟩ = true := by simp [ownedBy, found, owner]
      simp only [if_pos owner]
      refine ⟨owned.symm, fun other => ?_, fun other => ?_, rfl⟩
      · rw [Table.get_map]
        cases member : s.conversations[other]? with
        | none => rfl
        | some conv =>
          by_cases mine : conv.userId = userId
          · simp [takes, markerOf, owned, member, mine, Option.filter]
          · simp [takes, markerOf, owned, member, mine, Option.filter]
      · rw [Table.get_insert]
        by_cases same : id = other
        · cases same
          simp [takes, owned, found]
        · simp [takes, markerOf, same, Ne.symm same]
    · have foreign : s.ownedBy userId ⟨.team, id⟩ = false := by simp [ownedBy, found, owner]
      simp only [if_neg owner]
      exact ⟨foreign.symm, flips_refl foreign⟩

/-- What the archive of some units on behalf of a user does to the tables. -/
structure Archives (userId : String) (units : List OrderItemRef) (s t : Db) : Prop where
  archived : ∀ item, t.archived item ↔ s.archived item ∨ ∃ unit ∈ units, s.takes userId unit item
  ownedBy : ∀ user item, t.ownedBy user item = s.ownedBy user item
  takes : ∀ user unit item, t.takes user unit item = s.takes user unit item
  rows : t.userOrder.rows = s.userOrder.rows.filter fun row =>
    ¬ units.any fun unit => s.ownedBy userId unit && row.key = (userId, unit)

namespace Archives

lemma refl : Archives userId [] s s where
  archived := by simp
  ownedBy := fun _ _ => rfl
  takes := fun _ _ _ => rfl
  rows := by simp

lemma append (a : Archives userId units s t) (b : Archives userId units' t u) :
    Archives userId (units ++ units') s u where
  archived := by
    intro item
    rw [b.archived, a.archived, or_assoc]
    apply or_congr_right
    simp only [a.takes, List.mem_append, or_and_right, exists_or]
  ownedBy := fun user item => (b.ownedBy user item).trans (a.ownedBy user item)
  takes := fun user unit item => (b.takes user unit item).trans (a.takes user unit item)
  rows := by
    rw [b.rows, a.rows, List.filter_filter]
    apply List.filter_congr
    intro row _
    simp only [a.ownedBy, List.any_append, Bool.or_eq_true, not_or, ← Bool.decide_and]
    exact decide_eq_decide.mpr and_comm

end Archives

lemma Flips.archives (flips : Flips (s.takes userId unit) (some now) s t)
    (owned : s.ownedBy userId unit) :
    Archives userId [unit] s ({ t with userOrder := (t.userOrder.unpin userId unit).2 }) where
  archived := by
    intro item
    change t.archived item ↔ _
    rw [flips.archived]
    cases taken : s.takes userId unit item <;> simp [taken]
  ownedBy := fun _ _ => flips.ownedBy
  takes := fun _ _ _ => flips.takes
  rows := by
    change t.userOrder.rows.filter _ = _
    rw [flips.order]
    simp only [List.any_cons, List.any_nil, owned, Bool.true_and, Bool.or_false]

lemma Flips.archives_foreign (flips : Flips (s.takes userId unit) (some now) s t)
    (foreign : s.ownedBy userId unit = false) : Archives userId [unit] s t where
  archived := by
    intro item
    rw [flips.archived]
    simp [Db.takes, foreign]
  ownedBy := fun _ _ => flips.ownedBy
  takes := fun _ _ _ => flips.takes
  rows := by
    rw [flips.order]
    simp [foreign]

end Db

namespace SidebarService

variable {paths : Paths} {s t : SidebarService} {userId projectId : String} {unit : OrderItemRef}
variable {units : List OrderItemRef} {at_ : Option Int} {now : Int}

lemma setArchived_spec (s : SidebarService) (userId : String) (unit : OrderItemRef) (at_ : Option Int) :
    ∃ db, s.setArchived userId unit at_ = (s.db.ownedBy userId unit, { s with db }) ∧
      Db.Flips (s.db.takes userId unit) at_ s.db db := by
  obtain ⟨_ | _, id⟩ := unit
  · obtain ⟨found, flips⟩ := s.db.setConversationArchived_flips userId id at_
    exact ⟨_, by rw [setArchived, ← found], flips⟩
  · obtain ⟨found, flips⟩ := s.db.setTeamArchived_flips userId id at_
    exact ⟨_, by rw [setArchived, ← found], flips⟩

lemma archiveMember_spec (now : Int) (s : SidebarService) (userId : String) (unit : OrderItemRef) :
    ∃ db, s.archiveMember userId now unit = { s with db } ∧ Db.Archives userId [unit] s.db db := by
  obtain ⟨db, done, flips⟩ := s.setArchived_spec userId unit (some now)
  rw [archiveMember, done]
  cases owned : s.db.ownedBy userId unit with
  | true => exact ⟨_, rfl, flips.archives owned⟩
  | false => exact ⟨_, rfl, flips.archives_foreign owned⟩

def stops (s : SidebarService) (userId : String) (unit : OrderItemRef) : List (String × OrderItemRef) :=
  if s.teardownPorts && s.db.ownedBy userId unit then [(userId, unit)] else []

lemma archiveUnit_spec (now : Int) (s : SidebarService) (userId : String) (unit : OrderItemRef) :
    ∃ db, (s.archiveUnit userId unit now).2 =
      { s with db, stopped := s.stopped ++ s.stops userId unit } ∧
      Db.Archives userId [unit] s.db db := by
  obtain ⟨db, done, flips⟩ := s.setArchived_spec userId unit (some now)
  rw [archiveUnit, done, stops]
  cases owned : s.db.ownedBy userId unit with
  | true =>
    refine ⟨_, ?_, flips.archives owned⟩
    cases s.teardownPorts <;> simp [stopBestEffort, unpinItem]
  | false =>
    refine ⟨db, ?_, flips.archives_foreign owned⟩
    simp

def activeUnits (paths : Paths) (s : SidebarService) (userId projectId : String) : List OrderItemRef :=
  match s.collectProjectUnits paths userId projectId .active with
  | .ok units => units
  | .error _ => []

lemma activeUnits_owned (mem : unit ∈ s.activeUnits paths userId projectId) :
    s.db.ownedBy userId unit := by
  rw [activeUnits, collectProjectUnits] at mem
  split at mem
  · rename_i units collected
    split at collected
    · cases collected
      rw [List.mem_append, List.mem_map, List.mem_map] at mem
      obtain ⟨team, there, rfl⟩ | ⟨conv, there, rfl⟩ := mem
      · obtain ⟨entry, row, rfl⟩ := List.mem_map.mp (List.mem_filter.mp there).1
        obtain ⟨row, mine⟩ := List.mem_filter.mp row
        rw [Bool.and_eq_true, decide_eq_true_eq] at mine
        have found := Std.TreeMap.mem_toList_iff_getElem?_eq_some.mp row
        simp [Db.ownedBy, TeamRow.thin, found, mine.1]
      · obtain ⟨entry, row, rfl⟩ := List.mem_map.mp (List.mem_filter.mp (List.mem_filter.mp there).1).1
        obtain ⟨row, mine⟩ := List.mem_filter.mp row
        have found := Std.TreeMap.mem_toList_iff_getElem?_eq_some.mp row
        simp only [ConversationRow.listed, Bool.and_eq_true, decide_eq_true_eq] at mine
        simp [Db.ownedBy, ConversationRow.thin, found, mine.1.1]
    · cases collected
  · cases mem

lemma archiveMembers_spec (now : Int) (s : SidebarService) (units : List OrderItemRef) :
    ∃ db, units.foldl (archiveMember userId now) s = { s with db } ∧
      Db.Archives userId units s.db db := by
  induction units generalizing s with
  | nil => exact ⟨s.db, rfl, .refl⟩
  | cons unit units ih =>
    obtain ⟨db, done, archives⟩ := archiveMember_spec now s userId unit
    obtain ⟨last, rest, archivesRest⟩ := ih { s with db }
    exact ⟨last, by rw [List.foldl_cons, done, rest], archives.append archivesRest⟩

lemma archiveProject_spec (paths : Paths) (s : SidebarService) (userId projectId : String) (now : Int) :
    ∃ db, (s.archiveProject paths userId projectId now).2 = { s with db } ∧
      Db.Archives userId (s.activeUnits paths userId projectId) s.db db := by
  rw [archiveProject, activeUnits]
  cases s.collectProjectUnits paths userId projectId .active with
  | error e => exact ⟨s.db, rfl, .refl⟩
  | ok units => exact archiveMembers_spec now s units

def archiveEach (s : SidebarService) (userId : String) (calls : List (OrderItemRef × Int)) :
    SidebarService :=
  calls.foldl (fun s call => match call.1.itemType with
    | .team => (s.archiveTeam userId call.1.itemId call.2).2
    | .conversation => (s.archiveConversation userId call.1.itemId call.2).2) s

lemma archiveEach_cons (call : OrderItemRef × Int) (calls : List (OrderItemRef × Int)) :
    s.archiveEach userId (call :: calls) =
      (s.archiveUnit userId call.1 call.2).2.archiveEach userId calls := by
  obtain ⟨⟨_ | _, _⟩, _⟩ := call <;> rfl

lemma archiveEach_spec (s : SidebarService) (userId : String) (calls : List (OrderItemRef × Int)) :
    Db.Archives userId (calls.map Prod.fst) s.db (s.archiveEach userId calls).db ∧
      (s.archiveEach userId calls).stopped =
        s.stopped ++ (calls.map Prod.fst).flatMap (s.stops userId) := by
  induction calls generalizing s with
  | nil => exact ⟨.refl, (List.append_nil _).symm⟩
  | cons call calls ih =>
    rw [archiveEach_cons]
    obtain ⟨db, done, archives⟩ := archiveUnit_spec call.2 s userId call.1
    obtain ⟨rest, stopped⟩ := ih (s.archiveUnit userId call.1 call.2).2
    rw [done] at rest stopped ⊢
    refine ⟨archives.append rest, ?_⟩
    have later :
        stops { s with db, stopped := s.stopped ++ s.stops userId call.1 } userId =
          s.stops userId := by
      funext unit
      dsimp only [stops]
      rw [archives.ownedBy]
    rw [stopped, later, List.append_assoc]
    rfl

/-- The calls to the teardown ports between two states. -/
def told (s t : SidebarService) : List (String × OrderItemRef) :=
  t.stopped.drop s.stopped.length

/-- Two ways to go on from a state have the same effect: on the archive flags, on the pinned rows,
and on what is told to stop. -/
structure SameEffect (s a b : SidebarService) : Prop where
  archived : ∀ item, a.db.archived item = b.db.archived item
  rows : a.db.userOrder.rows = b.db.userOrder.rows
  told : ∀ call, call ∈ s.told a ↔ call ∈ s.told b

/-- The archive of a project has the effect of the archive of its active units one by one, in any
order and at any times, if and only if no teardown ports are wired or the project has no active
unit. -/
theorem archiveProject_as_units (paths : Paths) (s : SidebarService) (userId projectId : String)
    (now : Int) (calls : List (OrderItemRef × Int))
    (every : (calls.map Prod.fst).Perm (s.activeUnits paths userId projectId)) :
    SameEffect s (s.archiveProject paths userId projectId now).2 (s.archiveEach userId calls) ↔
      s.teardownPorts = false ∨ s.activeUnits paths userId projectId = [] := by
  obtain ⟨db, done, whole⟩ := archiveProject_spec paths s userId projectId now
  obtain ⟨each, stopped⟩ := archiveEach_spec s userId calls
  rw [done]
  have silent : s.told { s with db } = [] := List.drop_length
  have loud : s.told (s.archiveEach userId calls) = (calls.map Prod.fst).flatMap (s.stops userId) := by
    rw [told, stopped, List.drop_left]
  constructor
  · intro same
    cases wired : s.teardownPorts with
    | false => exact .inl rfl
    | true =>
      refine .inr (List.eq_nil_iff_forall_not_mem.mpr fun unit mem => ?_)
      have call : (userId, unit) ∈ s.told (s.archiveEach userId calls) := by
        rw [loud]
        refine List.mem_flatMap.mpr ⟨unit, every.symm.subset mem, ?_⟩
        simp [stops, wired, activeUnits_owned mem]
      rw [← same.told, silent] at call
      cases call
  · intro quiet
    refine ⟨fun item => ?_, ?_, fun call => ?_⟩
    · rw [Bool.eq_iff_iff, whole.archived, each.archived]
      simp only [every.mem_iff]
    · rw [whole.rows, each.rows]
      simp only [every.any_eq]
    · rw [silent, loud]
      obtain unwired | none := quiet
      · simp [stops, unwired]
      · rw [none] at every
        rw [every.eq_nil]
        simp

/-- A standard project with one conversation, whose row is pinned. -/
def oneConversation : SidebarService where
  db :=
    { conversations := Std.TreeMap.empty.insert "c"
        { userId := "u", projectId := some "p", extraWorkspace := none, extraTeamId := none,
          extraTeamIdCamel := none
          isHealthCheck := false, hydrates := true, archivedAt := none, updatedAt := 0, createdAt := 0 }
      teams := ∅
      projects := Std.TreeMap.empty.insert "p"
        { userId := "u", name := "project", kind := "standard", workspaceCanonical := none,
          workspaceUri := none
          createdAt := 0 }
      userOrder := (UserOrder.empty.pin "u" ⟨.conversation, "c"⟩).2 }
  teardownPorts := true
  stopped := []

def noPaths : Paths where
  isTempSessionWorkspace := fun _ => false
  canonical := fun _ => none
  canonicalToDirKey := id

/-- The archive of the project and that of its conversation. -/
theorem archiveProject_as_units_one :
    SameEffect oneConversation (oneConversation.archiveProject noPaths "u" "p" 5).2
        (oneConversation.archiveEach "u" [(⟨.conversation, "c"⟩, 5)]) ↔
      oneConversation.teardownPorts = false ∨ oneConversation.activeUnits noPaths "u" "p" = [] :=
  archiveProject_as_units noPaths oneConversation "u" "p" 5 [(⟨.conversation, "c"⟩, 5)] (by decide)

/-- The archive of the project leaves the agent of its conversation running. -/
theorem archivedProject_keeps_running :
    ¬ SameEffect oneConversation (oneConversation.archiveProject noPaths "u" "p" 5).2
        (oneConversation.archiveEach "u" [(⟨.conversation, "c"⟩, 5)]) := by
  intro same
  have call : ("u", ⟨.conversation, "c"⟩) ∈
      oneConversation.told (oneConversation.archiveEach "u" [(⟨.conversation, "c"⟩, 5)]) := by decide
  exact absurd ((same.told _).mpr call) (by decide)

end SidebarService

end KiCore.Sidebar

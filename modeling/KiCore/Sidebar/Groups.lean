import KiCore.Lib.Paging
import KiCore.Sidebar.Screen
import Mathlib.Data.Prod.Lex

/-!
# The groups of a screen

Every unit of the active slice is put into the group of its key, unless it has a pinned row
(`Sorts`). The groups that a screen ends up with have distinct scopes, and their items are sorted by
their positions, which is the order that cursors go by.
-/

namespace KiCore.Sidebar

open KiCore.Lib

lemma OrderItemRef.ext_ord {a b : OrderItemRef} (ord : a.itemType.ord = b.itemType.ord)
    (id : a.itemId = b.itemId) : a = b := by
  obtain ⟨_ | _, _⟩ := a <;> obtain ⟨_ | _, _⟩ := b <;> first | (cases id; rfl) | cases ord

namespace GroupItemRef

def item (unit : GroupItemRef) : OrderItemRef :=
  ⟨unit.itemType, unit.itemId⟩

def position (unit : GroupItemRef) : Int ×ₗ Nat ×ₗ String :=
  toLex (-unit.updatedAt, toLex (unit.itemType.ord, unit.itemId))

lemma ord_injective {a b : OrderItemType} (h : a.ord = b.ord) : a = b := by
  cases a <;> cases b <;> first | rfl | cases h

lemma cmpItem_iff {a b : GroupItemRef} : cmpItem a b ↔ a.position ≤ b.position := by
  simp only [cmpItem, position, Prod.Lex.toLex_le_toLex, Bool.or_eq_true, Bool.and_eq_true,
    decide_eq_true_eq,
    neg_lt_neg_iff, neg_inj, not_lt]

lemma isAfter_activityCursor {a b : GroupItemRef} :
    a.isAfter (some b.activityCursor) = decide (b.position < a.position) := by
  have type : typeOrdOf b.itemType.asStr = b.itemType.ord := by
    cases b.itemType <;> rfl
  rw [Bool.eq_iff_iff]
  simp only [isAfter, activityCursor, type, position, Prod.Lex.toLex_lt_toLex, Bool.or_eq_true,
    Bool.and_eq_true,
    decide_eq_true_eq, neg_lt_neg_iff, neg_inj]
  rw [eq_comm (a := a.updatedAt)]

end GroupItemRef

def UserOrderRow.position (row : UserOrderRow) : Int ×ₗ Nat ×ₗ String :=
  toLex (row.orderKey, toLex (row.item.itemType.ord, row.item.itemId))

lemma precedes_iff {a b : UserOrderRow} :
    precedes a.orderKey a.item b = decide (a.position < b.position) := by
  simp only [precedes, UserOrderRow.position, Prod.Lex.toLex_lt_toLex]
  rw [Bool.eq_iff_iff]
  have : a.item.itemType = b.item.itemType ↔ a.item.itemType.ord = b.item.itemType.ord :=
    ⟨congrArg _, GroupItemRef.ord_injective⟩
  simp [this]

lemma ofUser_sorted (order : UserOrder) (userId : String) :
    (order.ofUser userId).Pairwise fun a b => a.position < b.position := by
  apply Paging.sorted_mergeSort
  · intro a b
    rw [precedes_iff]
    simp
  · have keys := order.unique.sublist
      ((List.filter_sublist (p := fun row => row.userId = userId)).map _)
    rw [List.Nodup, List.pairwise_map] at keys ⊢
    refine keys.imp_of_mem fun {a b} memA memB ne same => ne ?_
    have userA := of_decide_eq_true (List.mem_filter.mp memA).2
    have userB := of_decide_eq_true (List.mem_filter.mp memB).2
    obtain ⟨-, inner⟩ := Prod.ext_iff.mp (toLex.injective same)
    obtain ⟨ord, id⟩ := Prod.ext_iff.mp (toLex.injective inner)
    exact Prod.ext (userA.trans userB.symm) (OrderItemRef.ext_ord ord id)

namespace Db

variable {db : Db} {userId : String} {scope : ArchiveScope}

lemma mem_listConversationsThin {conv : SidebarConversationThin} :
    conv ∈ db.listConversationsThin userId scope ↔
      ∃ row, db.conversations[conv.id]? = some row ∧ row.listed userId scope ∧
        conv = row.thin conv.id := by
  rw [listConversationsThin, List.mem_map]
  constructor
  · rintro ⟨⟨id, row⟩, mem, rfl⟩
    obtain ⟨mem, listed⟩ := List.mem_filter.mp mem
    exact ⟨row, Std.TreeMap.mem_toList_iff_getElem?_eq_some.mp mem, listed, rfl⟩
  · rintro ⟨row, found, listed, thin⟩
    exact ⟨(conv.id, row),
      List.mem_filter.mpr ⟨Std.TreeMap.mem_toList_iff_getElem?_eq_some.mpr found, listed⟩,
      thin.symm⟩

lemma listConversationsThin_nodup (db : Db) (userId : String) (scope : ArchiveScope) :
    ((db.listConversationsThin userId scope).map (·.id)).Nodup := by
  rw [listConversationsThin, List.map_map]
  exact db.conversations.nodup_keys.sublist (by
    rw [← Std.TreeMap.map_fst_toList_eq_keys]
    exact List.filter_sublist.map _)

lemma listTeamsThin_nodup (db : Db) (userId : String) (scope : ArchiveScope) :
    ((db.listTeamsThin userId scope).map (·.id)).Nodup := by
  rw [listTeamsThin, List.map_map]
  exact db.teams.nodup_keys.sublist (by
    rw [← Std.TreeMap.map_fst_toList_eq_keys]
    exact List.filter_sublist.map _)

end Db

variable {convs : List SidebarConversationThin} {teams : List SidebarTeamThin}

lemma aggregateTeams_get {id : String} {agg : TeamAgg}
    (found : (aggregateTeams convs teams).1[id]? = some agg) :
    ∃ team ∈ teams, team.id = id ∧ agg = teamAgg convs team := by
  have scan : ∀ (l : List SidebarTeamThin) (byId : Table String TeamAgg),
      (l.foldl (fun byId team => byId.insert team.id (teamAgg convs team)) byId)[id]? = some agg →
        (∃ team ∈ l, team.id = id ∧ agg = teamAgg convs team) ∨ byId[id]? = some agg := by
    intro l
    induction l with
    | nil => exact fun byId found => .inr found
    | cons team l ih =>
      intro byId found
      obtain ⟨other, mem, known⟩ | found := ih _ found
      · exact .inl ⟨other, List.mem_cons_of_mem _ mem, known⟩
      · rw [Table.get_insert] at found
        split at found
        · rename_i same
          exact .inl ⟨team, List.mem_cons_self, same, (Option.some.inj found).symm⟩
        · exact .inr found
  obtain known | none := scan teams ∅ found
  · exact known
  · rw [Table.get_empty] at none
    cases none

lemma aggregateTeams_isSome (convs : List SidebarConversationThin) {team : SidebarTeamThin}
    (mem : team ∈ teams) : ((aggregateTeams convs teams).1[team.id]?).isSome := by
  have scan : ∀ (l : List SidebarTeamThin) (byId : Table String TeamAgg), team ∈ l ∨
    byId[team.id]?.isSome →
      (l.foldl (fun byId team => byId.insert team.id (teamAgg convs team)) byId)[team.id]?.isSome := by
    intro l
    induction l with
    | nil =>
      rintro byId (none | there)
      · cases none
      · exact there
    | cons other l ih =>
      intro byId there
      apply ih
      by_cases same : other.id = team.id
      · exact .inr (by rw [Table.get_insert, if_pos same]; rfl)
      · rw [Table.get_insert, if_neg same]
        obtain mem | there := there
        · obtain rfl | mem := List.mem_cons.mp mem
          · exact absurd rfl same
          · exact .inl mem
        · exact .inr there
  exact scan teams ∅ (.inl mem)

lemma mem_memberIds {id : String} :
    id ∈ (Table.values (aggregateTeams convs teams).1).flatMap (·.memberIds) ↔
      ∃ conv ∈ convs, conv.id = id ∧ ∃ team ∈ teams, conv.teamId = some team.id := by
  simp only [List.mem_flatMap, Table.mem_values]
  have members : ∀ team, id ∈ (teamAgg convs team).memberIds ↔
      ∃ conv ∈ convs, conv.teamId = some team.id ∧ conv.id = id := by
    intro team
    simp [teamAgg, membersOf, and_assoc]
  constructor
  · rintro ⟨agg, ⟨teamId, found⟩, mem⟩
    obtain ⟨team, known, rfl, rfl⟩ := aggregateTeams_get found
    obtain ⟨conv, listed, named, rfl⟩ := (members team).mp mem
    exact ⟨conv, listed, rfl, team, known, named⟩
  · rintro ⟨conv, listed, rfl, team, known, named⟩
    obtain ⟨agg, found⟩ := Option.isSome_iff_exists.mp (aggregateTeams_isSome convs known)
    obtain ⟨other, -, same, rfl⟩ := aggregateTeams_get found
    refine ⟨_, ⟨team.id, found⟩, ?_⟩
    have := (members team).mpr ⟨conv, listed, named, rfl⟩
    rwa [show (teamAgg convs other).memberIds = (teamAgg convs team).memberIds by
      simp only [teamAgg, same]]

/-- A unit on its way into a group: the key of the group, whether it is pinned, and what it is
there. -/
structure Sorted where
  key : GroupKey
  pinned : Bool
  item : GroupItemRef

/-- The units that a group shows, in the order in which they came. -/
def itemsUnder (units : List Sorted) (key : GroupKey) : List GroupItemRef :=
  (units.filter fun unit => unit.key = key && ¬ unit.pinned).map (·.item)

structure GroupBuilder.Sorts (paths : Paths) (builder : GroupBuilder) (units : List Sorted) : Prop where
  nodup : (builder.map Prod.fst).Nodup
  token : ∀ group ∈ builder, group.2.token = group.1.token ∧
    group.2.tokenStr = group.1.token.toToken paths
  items : ∀ key, (Keyed.lookup Prod.fst key builder).elim [] (·.2.items) = itemsUnder units key
  known : ∀ unit ∈ units, unit.key ∈ builder.map Prod.fst

namespace GroupBuilder

variable {paths : Paths} {builder : GroupBuilder} {units : List Sorted}

lemma sorts_nil : Sorts paths [] [] where
  nodup := List.nodup_nil
  token := by simp
  items := fun _ => rfl
  known := by simp

lemma Sorts.push (sorts : builder.Sorts paths units) (byId : Table String SidebarProjectMeta)
    (key : GroupKey) (updatedAt : Int) (pinned : Bool) (item : GroupItemRef) :
    (builder.push paths byId key updatedAt pinned item).Sorts paths
      (units ++ [⟨key, pinned, item⟩]) where
  nodup := Keyed.nodup_upsert (fun _ same => same) sorts.nodup
  token := by
    intro group mem
    obtain old | rfl | ⟨group, old, same, rfl⟩ := Keyed.mem_upsert mem
    · exact sorts.token group old
    · exact ⟨rfl, rfl⟩
    · exact sorts.token group old
  items := by
    intro other
    rw [GroupBuilder.push, Keyed.lookup_upsert (fun _ same => same)]
    have before := sorts.items other
    simp only [itemsUnder, List.filter_append, List.map_append] at before ⊢
    by_cases same : key = other
    · rw [if_pos same, ← before]
      cases pinned <;> cases Keyed.lookup Prod.fst other builder <;>
        simp [GroupAccum.add, GroupAccum.new, same]
    · rw [if_neg same, before]
      simp [same]
  known := by
    intro unit mem
    apply Keyed.mem_keys_upsert_of fun _ same => same
    rw [List.mem_append, List.mem_singleton] at mem
    obtain old | rfl := mem
    · exact .inr (sorts.known unit old)
    · exact .inl rfl

lemma Sorts.ensureStandardSpine (sorts : builder.Sorts paths units) (project : SidebarProjectMeta) :
    (builder.ensureStandardSpine paths project).Sorts paths units where
  nodup := Keyed.nodup_upsert (fun _ same => same) sorts.nodup
  token := by
    intro group mem
    obtain old | rfl | ⟨group, old, same, rfl⟩ := Keyed.mem_upsert mem
    · exact sorts.token group old
    · exact ⟨rfl, rfl⟩
    · exact sorts.token group old
  items := by
    intro other
    rw [GroupBuilder.ensureStandardSpine, Keyed.lookup_upsert (fun _ same => same), ← sorts.items other]
    split
    · cases Keyed.lookup Prod.fst other builder <;> rfl
    · rfl
  known := fun unit mem => Keyed.mem_keys_upsert_of (fun _ same => same) (.inr (sorts.known unit mem))

lemma Sorts.foldl {α : Type} (sorts : builder.Sorts paths units) (unitOf : α → Sorted)
    {f : GroupBuilder → α → GroupBuilder} (l : List α)
    (step : ∀ builder units, ∀ x ∈ l, builder.Sorts paths units → (f builder x).Sorts paths
      (units ++ [unitOf x])) :
    (l.foldl f builder).Sorts paths (units ++ l.map unitOf) := by
  induction l generalizing builder units with
  | nil => rwa [List.map_nil, List.append_nil]
  | cons x l ih =>
    have rest := ih (step builder units x List.mem_cons_self sorts) fun builder units y mem =>
      step builder units y (List.mem_cons_of_mem _ mem)
    rwa [List.append_assoc] at rest

/-- The groups of a screen: they have distinct scopes other than the pinned one, every unit has its
group, and the items of a group are those under its key, sorted. -/
structure Natural (paths : Paths) (groups : List NaturalGroup) (units : List Sorted) : Prop where
  nodup : (groups.map (·.token)).Nodup
  known : ∀ unit ∈ units, ∃ group ∈ groups, group.token = unit.key.token
  items : ∀ group ∈ groups, group.tokenStr = group.token.toToken paths ∧
    ∃ key, group.token = key.token ∧ group.items = (itemsUnder units key).mergeSort GroupItemRef.cmpItem

lemma token_injective {a b : GroupKey} (h : a.token = b.token) : a = b := by
  cases a <;> cases b <;> simp_all [GroupKey.token]

lemma Sorts.chats (sorts : builder.Sorts paths units) :
    builder.finish.2.1.token = .chats ∧ builder.finish.2.1.tokenStr = "chats" ∧
      builder.finish.2.1.items = (itemsUnder units .chats).mergeSort GroupItemRef.cmpItem := by
  have items := sorts.items .chats
  cases found : Keyed.lookup Prod.fst .chats builder with
  | none =>
    rw [found] at items
    simp only [finish, found, ← items]
    exact ⟨rfl, rfl, rfl⟩
  | some group =>
    rw [found] at items
    obtain ⟨token, tokenStr⟩ := sorts.token group (Keyed.mem_of_lookup found)
    rw [Keyed.lookup_key found] at token tokenStr
    simp only [finish, found, ← items]
    exact ⟨token, tokenStr, rfl⟩

lemma finish_area (whole : builder.finish.2.2 = false) :
    builder.finish.1.Perm
      ((builder.filter fun group => group.1 ≠ .chats).map fun group => group.2.intoGroup) := by
  have perm := List.mergeSort_perm
    ((builder.filter fun group => group.1 ≠ .chats).map Prod.snd) GroupAccum.cmpGroup
  simp only [finish, decide_eq_false_iff_not, not_lt] at whole ⊢
  rw [List.take_of_length_le whole]
  refine (perm.map _).trans ?_
  rw [List.map_map]
  rfl

/-- The groups of a builder are those of a screen, if the project area is not cut off. -/
lemma Sorts.natural (sorts : builder.Sorts paths units) (whole : builder.finish.2.2 = false) :
    Natural paths (builder.finish.1 ++ [builder.finish.2.1]) units := by
  have area := finish_area whole
  obtain ⟨chats, chatsStr, chatsItems⟩ := sorts.chats
  have tokens : (builder.finish.1.map (·.token)).Perm
      ((builder.filter fun group => group.1 ≠ .chats).map fun group => group.1.token) := by
    refine (area.map _).trans ?_
    rw [List.map_map]
    apply List.Perm.of_eq
    apply List.map_congr_left
    intro group mem
    exact (sorts.token group (List.mem_filter.mp mem).1).1
  have mem_area : ∀ {group}, group ∈ builder.finish.1 ↔
      ∃ entry ∈ builder, entry.1 ≠ .chats ∧ entry.2.intoGroup = group := by
    intro group
    rw [area.mem_iff]
    simp [and_assoc]
  constructor
  · rw [List.map_append, List.map_singleton, chats, List.nodup_append]
    refine ⟨?_, List.nodup_singleton _, ?_⟩
    · refine tokens.nodup_iff.mpr ?_
      have keys := sorts.nodup.sublist
        (List.filter_sublist (p := fun group => group.1 ≠ .chats) |>.map Prod.fst)
      have distinct := keys.map (f := GroupKey.token) fun a b => token_injective
      rwa [List.map_map] at distinct
    · intro token mem other last same
      rw [List.mem_singleton] at last
      subst last
      subst same
      obtain ⟨entry, mem, token⟩ := List.mem_map.mp (tokens.subset mem)
      exact of_decide_eq_true (List.mem_filter.mp mem).2 (token_injective (b := .chats) token)
  · intro unit mem
    by_cases home : unit.key = .chats
    · refine ⟨_, List.mem_append_right _ (List.mem_singleton.mpr rfl), ?_⟩
      rw [chats, home]
      rfl
    · obtain ⟨entry, there, same⟩ := List.mem_map.mp (sorts.known unit mem)
      refine ⟨_, List.mem_append_left _ (mem_area.mpr ⟨entry, there, same ▸ home, rfl⟩), ?_⟩
      rw [← same]
      exact (sorts.token entry there).1
  · intro group mem
    rw [List.mem_append, List.mem_singleton] at mem
    obtain mem | rfl := mem
    · obtain ⟨entry, there, -, rfl⟩ := mem_area.mp mem
      obtain ⟨token, tokenStr⟩ := sorts.token entry there
      have items := sorts.items entry.1
      rw [Keyed.lookup_of_mem sorts.nodup there] at items
      refine ⟨?_, entry.1, token, congrArg (List.mergeSort · GroupItemRef.cmpItem) items⟩
      rw [GroupAccum.intoGroup, tokenStr, token]
    · exact ⟨by rw [chatsStr, chats]; rfl, .chats, chats, chatsItems⟩

end GroupBuilder

namespace SidebarService

variable {paths : Paths} {s : SidebarService} {userId : String} {scope : ArchiveScope}

/-- The units of the active slice on their way into their groups. -/
def sortedUnits (paths : Paths) (s : SidebarService) (userId : String) : List Sorted :=
  let convs := s.db.listConversationsThin userId .active
  let teams := s.db.listTeamsThin userId .active
  let projects := s.db.listUserProjects userId
  teams.map (fun team =>
    { key := classifyUnit paths projects team.projectId team.workspace
      pinned := (s.db.userOrder.pinnedRefs userId).contains ⟨.team, team.id⟩
      item := .team team.id (((aggregateTeams convs teams).1[team.id]?).elim 0 (·.updatedAt)) }) ++
  (aggregateTeams convs teams).2.map fun conv =>
    { key := classifyUnit paths projects conv.projectId conv.workspace
      pinned := (s.db.userOrder.pinnedRefs userId).contains ⟨.conversation, conv.id⟩
      item := .conv conv.id conv.updatedAt }

lemma classify_sorts (paths : Paths) (s : SidebarService) (userId : String) :
    ∃ builder : GroupBuilder, builder.Sorts paths (s.sortedUnits paths userId) ∧
      builder.finish = ((s.classify paths userId .active).projectArea,
        (s.classify paths userId .active).chats,
        (s.classify paths userId .active).hasMoreGroups) := by
  refine ⟨_, ?_, rfl⟩
  have spines : ∀ (projects : List SidebarProjectMeta) (builder : GroupBuilder) units,
      builder.Sorts paths units →
        (projects.foldl (GroupBuilder.ensureStandardSpine paths) builder).Sorts paths units := by
    intro projects
    induction projects with
    | nil => exact fun _ _ sorts => sorts
    | cons project projects ih =>
      exact fun builder units sorts => ih _ units (sorts.ensureStandardSpine project)
  apply spines
  refine GroupBuilder.Sorts.foldl ?_ _ _ fun builder units conv _ sorts => sorts.push _ _ _ _ _
  refine GroupBuilder.Sorts.foldl GroupBuilder.sorts_nil _ _ fun builder units team mem sorts => ?_
  obtain ⟨agg, found⟩ := Option.isSome_iff_exists.mp
    (aggregateTeams_isSome (s.db.listConversationsThin userId .active) mem)
  dsimp only [aggregateTeams] at found ⊢
  simp only [found, Option.elim]
  exact sorts.push _ _ _ _ _

lemma sortedUnits_nodup (paths : Paths) (s : SidebarService) (userId : String) :
    ((s.sortedUnits paths userId).map fun unit => unit.item.item).Nodup := by
  rw [sortedUnits, List.map_append, List.map_map, List.map_map, List.nodup_append]
  refine ⟨?_, ?_, ?_⟩
  · have ids := (s.db.listTeamsThin_nodup userId .active).map
      (f := fun id => (⟨.team, id⟩ : OrderItemRef))
      fun a b same => (OrderItemRef.mk.inj same).2
    rwa [List.map_map] at ids
  · have independents : ((aggregateTeams (s.db.listConversationsThin userId .active)
        (s.db.listTeamsThin userId .active)).2.map (·.id)).Nodup :=
      (s.db.listConversationsThin_nodup userId .active).sublist (List.filter_sublist.map _)
    have ids := independents.map (f := fun id => (⟨.conversation, id⟩ : OrderItemRef))
      fun a b same => (OrderItemRef.mk.inj same).2
    rwa [List.map_map] at ids
  · intro a memA b memB same
    obtain ⟨team, -, rfl⟩ := List.mem_map.mp memA
    obtain ⟨conv, -, rfl⟩ := List.mem_map.mp memB
    cases same

def naturalGroups (paths : Paths) (s : SidebarService) (userId : String) : List NaturalGroup :=
  (s.classify paths userId .active).projectArea ++ [(s.classify paths userId .active).chats]

lemma classify_natural (whole : (s.classify paths userId .active).hasMoreGroups = false) :
    GroupBuilder.Natural paths (s.naturalGroups paths userId) (s.sortedUnits paths userId) := by
  obtain ⟨builder, sorts, finish⟩ := s.classify_sorts paths userId
  have natural := sorts.natural (by rw [finish]; exact whole)
  rwa [finish] at natural

lemma classify_chats (paths : Paths) (s : SidebarService) (userId : String) :
    (s.classify paths userId .active).chats.token = .chats := by
  obtain ⟨builder, sorts, finish⟩ := s.classify_sorts paths userId
  have chats := sorts.chats.1
  rwa [finish] at chats

end SidebarService

end KiCore.Sidebar

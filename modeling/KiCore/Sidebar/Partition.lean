import KiCore.Sidebar.Archive
import KiCore.Sidebar.Groups

/-!
# Sidebar partition

A reader takes the first screen, and exhausts the paging of every group on it (`Reads`). Every unit
is shown to the reader once, in the pinned group if it has a pinned row and in the group of its key
otherwise (`Shows`), unless the pinned group is missing: the first screen leaves it out when none of
the rows of its window is shown, however many rows follow. `shows_iff` says when that is the case.
-/

namespace KiCore.Sidebar

open KiCore.Lib

def SidebarItem.ref : SidebarItem → OrderItemRef
  | .conversation id _ _ => ⟨.conversation, id⟩
  | .team teamId _ _ _ _ => ⟨.team, teamId⟩

namespace SidebarService

variable {paths : Paths} {s : SidebarService} {userId : String} {scope : ArchiveScope}

/-- The active teams of a user and the independent conversations that hydrate, with the keys of
their groups. -/
def units (paths : Paths) (s : SidebarService) (userId : String) : List (OrderItemRef × GroupKey) :=
  let convs := s.db.listConversationsThin userId .active
  let teams := s.db.listTeamsThin userId .active
  let projects := s.db.listUserProjects userId
  teams.map (fun team =>
    (⟨.team, team.id⟩, classifyUnit paths projects team.projectId team.workspace)) ++
  ((aggregateTeams convs teams).2.filter fun conv => s.db.conversations[conv.id]?.any (·.hydrates)).map
    fun conv => (⟨.conversation, conv.id⟩, classifyUnit paths projects conv.projectId conv.workspace)

def home (s : SidebarService) (userId : String) (unit : OrderItemRef × GroupKey) : ScopeToken :=
  if s.db.userOrder.contains userId unit.1 then .pinned else unit.2.token

def answer (paths : Paths) (s : SidebarService) (userId : String) (scope : ScopeToken)
    (cursor : CursorPayload) (limit : Limit) : Option (Paging.Page CursorPayload SidebarItem) :=
  match s.items paths userId scope (some cursor) (some limit.val) .active with
  | .ok page => some { items := page.items, next := page.nextCursor }
  | .error _ => none

/-- A reader exhausts a group of the first screen, with windows of the lengths `limits`. -/
def ReadsGroup (paths : Paths) (s : SidebarService) (userId : String)
    (limits : ScopeToken → Nat → Limit)
    (group : SidebarGroup) (shown : List (ScopeToken × OrderItemRef)) : Prop :=
  ∃ rest, Paging.Exhausts
    (fun k cursor => s.answer paths userId group.scope cursor (limits group.scope k)) 0
      group.nextCursor rest ∧
    shown = (group.items ++ rest).map fun item => (group.scope, item.ref)

/-- A reader takes the first screen and exhausts its groups, and is shown items in their scopes. -/
def Reads (paths : Paths) (s : SidebarService) (userId : String) (limit : Option Limit)
    (win : List (String × Limit))
    (limits : ScopeToken → Nat → Limit) (shown : List (ScopeToken × OrderItemRef)) : Prop :=
  ∃ parts, List.Forall₂ (s.ReadsGroup paths userId limits)
    (s.firstScreen paths userId limit win .active).groups parts ∧
    shown = parts.flatten

def Shows (paths : Paths) (s : SidebarService) (userId : String)
    (shown : List (ScopeToken × OrderItemRef)) : Prop :=
  ∀ unit ∈ s.units paths userId, ∀ place,
    shown.count (place, unit.1) = if place = s.home userId unit then 1 else 0

def PinnedInWindow (paths : Paths) (s : SidebarService) (userId : String) (limit : Limit) : Prop :=
  (∃ row ∈ s.db.userOrder.ofUser userId, row.item ∈ (s.units paths userId).map Prod.fst) →
    ∃ row ∈ (s.db.userOrder.ofUser userId).take limit, row.item ∈ (s.units paths userId).map Prod.fst

lemma hydrate_get {ids : List String} {id : String} {row : ConversationRow} :
    (s.hydrate userId ids scope)[id]? = some row ↔
      id ∈ ids ∧ s.db.conversations[id]? = some row ∧ row.listed userId scope ∧ row.hydrates := by
  rw [hydrate, Db.hydrateConversations, Table.get_filter, Table.get_filter, Bool.and_eq_true,
    List.contains_iff_mem]
  tauto

lemma hydrate_one {ids : List String} {id : String} (mem : id ∈ ids) :
    (s.hydrate userId ids scope)[id]? = (s.hydrate userId [id] scope)[id]? := by
  apply Option.ext
  intro row
  rw [hydrate_get, hydrate_get, and_iff_right mem, and_iff_right (List.mem_singleton.mpr rfl)]

def viewItem (s : SidebarService) (userId : String) : GroupItemRef → Option SidebarItem
  | .conv id _ => (s.hydrate userId [id] .active)[id]?.map fun row => .conversation id row false
  | .team teamId _ => (s.loadTeamAggregates userId .active)[teamId]?.map fun agg => teamItem agg false

def memberIds (s : SidebarService) (userId : String) : List String :=
  (Table.values (s.loadTeamAggregates userId .active)).flatMap (·.memberIds)

def viewRow (s : SidebarService) (userId : String) (row : UserOrderRow) : Option SidebarItem :=
  match row.item.itemType with
  | .conversation =>
    if (s.memberIds userId).contains row.item.itemId then none
    else (s.hydrate userId [row.item.itemId] .active)[row.item.itemId]?.map fun conv =>
      .conversation row.item.itemId conv true
  | .team => (s.loadTeamAggregates userId .active)[row.item.itemId]?.map fun agg => teamItem agg true

lemma viewItem_ref (item : GroupItemRef) {shown : SidebarItem}
    (view : s.viewItem userId item = some shown) : shown.ref = item.item := by
  cases item with
  | conv id updatedAt =>
    obtain ⟨row, -, rfl⟩ := Option.map_eq_some_iff.mp view
    rfl
  | team teamId updatedAt =>
    obtain ⟨agg, found, rfl⟩ := Option.map_eq_some_iff.mp view
    obtain ⟨team, -, rfl, rfl⟩ := aggregateTeams_get found
    rfl

lemma viewRow_ref (row : UserOrderRow) {shown : SidebarItem}
    (view : s.viewRow userId row = some shown) : shown.ref = row.item := by
  obtain ⟨_, ⟨_ | _, id⟩, _⟩ := row
  · simp only [viewRow] at view
    split at view
    · cases view
    · obtain ⟨row, -, rfl⟩ := Option.map_eq_some_iff.mp view
      rfl
  · obtain ⟨agg, found, rfl⟩ := Option.map_eq_some_iff.mp view
    obtain ⟨team, -, rfl, rfl⟩ := aggregateTeams_get found
    rfl

lemma assembleItems_eq {window : List GroupItemRef} {ids : List String} (all : convIds window ⊆ ids) :
    assembleItems window (s.hydrate userId ids .active) (s.loadTeamAggregates userId .active) false =
      window.filterMap (s.viewItem userId) := by
  apply List.filterMap_congr
  intro item mem
  cases item with
  | conv id updatedAt =>
    have asked : id ∈ convIds window := List.mem_filterMap.mpr ⟨_, mem, rfl⟩
    simp only [viewItem, hydrate_one (all asked)]
  | team teamId updatedAt => rfl

def rowCursor (paths : Paths) (row : UserOrderRow) : CursorPayload :=
  (Cursor.pinned row.orderKey row.item.itemType.asStr row.item.itemId).encode paths .pinned

lemma pagePinned_window (paths : Paths) (s : SidebarService) (userId : String)
    (after : Option (Int × OrderItemRef)) (limit : Limit) :
    let page := s.pagePinned paths userId after limit (s.loadTeamAggregates userId .active)
    let rows := (s.db.userOrder.ofUser userId).filter fun row =>
      after.all fun cursor => precedes cursor.1 cursor.2 row
    (⟨page.items, page.nextCursor⟩ : Paging.Page CursorPayload SidebarItem) =
      Paging.window (rowCursor paths) (s.viewRow userId) limit rows := by
  intro page rows
  have take : (rows.take (limit + 1)).take limit = rows.take limit := by
    rw [List.take_take, min_eq_left (Nat.le_succ _)]
  have more : limit.val < (rows.take (limit + 1)).length ↔ limit.val < rows.length := by
    rw [List.length_take]
    omega
  have listed : s.db.userOrder.listPinned userId after (limit + 1) = rows.take (limit + 1) := rfl
  simp only [page, pagePinned, listed, take, more, Paging.window, Paging.Page.mk.injEq]
  refine ⟨?_, rfl⟩
  apply List.filterMap_congr
  intro row mem
  obtain ⟨owner, ⟨_ | _, id⟩, orderKey⟩ := row
  · by_cases member : (s.memberIds userId).contains id
    · simp only [viewRow, if_pos member]
      rw [Option.map_eq_none_iff]
      apply Option.eq_none_iff_forall_ne_some.mpr
      intro conv found
      obtain ⟨other, asked, same⟩ := List.mem_map.mp (hydrate_get.mp found).1
      simp only [List.mem_filter, Bool.and_eq_true, decide_eq_true_eq] at asked
      exact asked.2.2 (same ▸ member)
    · simp only [viewRow, if_neg member]
      rw [hydrate_one]
      refine List.mem_map.mpr ⟨_, List.mem_filter.mpr ⟨mem, ?_⟩, rfl⟩
      simpa [memberIds] using member
  · rfl

lemma pageNatural_window (paths : Paths) (s : SidebarService) (userId : String) (group : NaturalGroup)
    (cursor : Option Cursor) (limit : Limit) :
    let page := s.pageNatural paths userId group
      (s.loadTeamAggregates userId .active) cursor limit .active
    (⟨page.items, page.nextCursor⟩ : Paging.Page CursorPayload SidebarItem) =
      Paging.window (fun item => item.activityCursor.encode paths group.token) (s.viewItem userId) limit
        (group.items.filter fun item => item.isAfter cursor) := by
  intro page
  simp only [page, pageNatural, Paging.window, Paging.Page.mk.injEq, and_true]
  exact assembleItems_eq (List.Subset.refl _)

lemma validateLimit_val (limit : Limit) : validateLimit limit.val = .ok limit := by
  rw [validateLimit, dif_pos (by exact limit.property)]
  rfl

lemma answer_pinned (row : UserOrderRow) (limit : Limit) :
    s.answer paths userId .pinned (rowCursor paths row) limit =
      some (Paging.window (rowCursor paths) (s.viewRow userId) limit
        ((s.db.userOrder.ofUser userId).filter fun other => row.position < other.position)) := by
  have parsed : OrderItemType.parse row.item.itemType.asStr = some row.item.itemType := by
    cases row.item.itemType <;> rfl
  have page := pagePinned_window paths s userId (some (row.orderKey, row.item)) limit
  simp only [Option.all_some, precedes_iff] at page
  rw [← page]
  have decoded : Cursor.decode paths (rowCursor paths row) .pinned =
      .ok (.pinned row.orderKey row.item.itemType.asStr row.item.itemId) := by
    simp [rowCursor, Cursor.encode, Cursor.decode]
  have pinned : toPinnedCursor (.pinned row.orderKey row.item.itemType.asStr row.item.itemId) =
      .ok (row.orderKey, row.item) := by
    simp only [toPinnedCursor, parsed]
  simp only [answer, items, Option.getD_some, validateLimit_val, Option.mapM_some, decoded]
  simp only [bind, Except.bind, pinned]
  rfl

lemma find_natural {units : List Sorted}
    (natural : GroupBuilder.Natural paths (s.naturalGroups paths userId) units)
    {group : NaturalGroup} (mem : group ∈ s.naturalGroups paths userId) :
    group.token = .chats ∧ group = (s.classify paths userId .active).chats ∨
      (∃ id, group.token = .project id ∨ group.token = .dir id) ∧
        (s.classify paths userId .active).projectArea.find?
          (fun other => other.token = group.token) = some group := by
  have distinct := natural.nodup
  rw [naturalGroups, List.map_append, List.map_singleton, classify_chats, List.nodup_append] at distinct
  obtain ⟨area, -, apart⟩ := distinct
  obtain ⟨-, key, token, -⟩ := natural.items group mem
  rw [naturalGroups, List.mem_append, List.mem_singleton] at mem
  obtain mem | rfl := mem
  · refine .inr ⟨?_, Keyed.lookup_of_mem area mem⟩
    cases key with
    | project id => exact ⟨id, .inl token⟩
    | dir canonical => exact ⟨canonical, .inr token⟩
    | chats => exact absurd token (apart _ (List.mem_map_of_mem mem) _ (List.mem_singleton.mpr rfl))
  · exact .inl ⟨classify_chats _ _ _, rfl⟩

lemma answer_natural {units : List Sorted}
    (natural : GroupBuilder.Natural paths (s.naturalGroups paths userId) units) {group : NaturalGroup}
    (mem : group ∈ s.naturalGroups paths userId) (item : GroupItemRef) (limit : Limit) :
    s.answer paths userId group.token (item.activityCursor.encode paths group.token) limit =
      some (Paging.window (fun item => item.activityCursor.encode paths group.token)
        (s.viewItem userId) limit
        (group.items.filter fun other => item.position < other.position)) := by
  have page := pageNatural_window paths s userId group (some item.activityCursor) limit
  simp only [GroupItemRef.isAfter_activityCursor] at page
  rw [← page]
  obtain ⟨chats, rfl⟩ | ⟨⟨id, area⟩, found⟩ := find_natural natural mem
  · have decoded : Cursor.decode paths (item.activityCursor.encode paths .chats) .chats =
        .ok item.activityCursor := by
      simp [GroupItemRef.activityCursor, Cursor.encode, Cursor.decode]
    rw [chats]
    simp only [answer, items, Option.getD_some, validateLimit_val, Option.mapM_some, decoded]
    rfl
  · obtain token | token := area
    · have decoded : Cursor.decode paths (item.activityCursor.encode paths (.project id))
          (.project id) = .ok item.activityCursor := by
        simp [GroupItemRef.activityCursor, Cursor.encode, Cursor.decode]
      rw [token] at found ⊢
      simp only [answer, items, Option.getD_some, validateLimit_val, Option.mapM_some, decoded, found]
      rfl
    · have decoded : Cursor.decode paths (item.activityCursor.encode paths (.dir id)) (.dir id) =
          .ok item.activityCursor := by
        simp [GroupItemRef.activityCursor, Cursor.encode, Cursor.decode]
      rw [token] at found ⊢
      simp only [answer, items, Option.getD_some, validateLimit_val, Option.mapM_some, decoded, found]
      rfl

/-- What a reader is shown of a group, whose items are the rows of `l`. -/
def shownOf {α : Type} (token : ScopeToken) (view : α → Option SidebarItem) (l : List α) :
    List (ScopeToken × OrderItemRef) :=
  (l.filterMap view).map fun item => (token, item.ref)

variable {limits : ScopeToken → Nat → Limit} {shown : List (ScopeToken × OrderItemRef)}

lemma readsGroup_iff {α κ : Type} [LinearOrder κ] {key : α → κ} {cursor : α → CursorPayload}
    {view : α → Option SidebarItem} {l : List α} {group : SidebarGroup} (first : Limit)
    (sorted : l.Pairwise fun a b => key a < key b)
    (answers : ∀ limit, ∀ y ∈ l, s.answer paths userId group.scope (cursor y) limit =
      some (Paging.window cursor view limit.val (l.filter fun x => key y < key x)))
    (page : (⟨group.items, group.nextCursor⟩ : Paging.Page _ _) = Paging.window cursor view first l) :
    s.ReadsGroup paths userId limits group shown ↔ shown = shownOf group.scope view l := by
  obtain ⟨items, next⟩ := (Paging.Page.mk.injEq ..).mp page
  have exhausts : ∀ rest, Paging.Exhausts
    (fun k cursor => s.answer paths userId group.scope cursor (limits group.scope k))
      0 group.nextCursor rest ↔ rest = (l.drop first).filterMap view := by
    intro rest
    rw [show group.nextCursor = (Paging.window cursor view first l).next from next]
    exact Paging.exhausts_iff sorted (fun k => (limits group.scope k).property.1)
      (fun k y mem => answers (limits group.scope k) y mem) first.property.1
  simp only [ReadsGroup, exhausts, exists_eq_left]
  rw [items, ← List.filterMap_append, List.take_append_drop]
  rfl

lemma natural_sorted {units : List Sorted} (distinct : (units.map fun unit => unit.item.item).Nodup)
    {groups : List NaturalGroup} (natural : GroupBuilder.Natural paths groups units)
      {group : NaturalGroup}
    (mem : group ∈ groups) : group.items.Pairwise fun a b => a.position < b.position := by
  obtain ⟨-, key, -, items⟩ := natural.items group mem
  rw [items]
  apply Paging.sorted_mergeSort
  · intro a b
    rw [Bool.eq_iff_iff, decide_eq_true_eq]
    exact GroupItemRef.cmpItem_iff
  · rw [itemsUnder, List.map_map]
    have sub := distinct.sublist
      ((List.filter_sublist (p := fun unit => unit.key = key && ¬ unit.pinned)).map _)
    rw [List.Nodup, List.pairwise_map] at sub ⊢
    refine sub.imp fun ne same => ne ?_
    obtain ⟨ord, id⟩ := Prod.ext_iff.mp (toLex.injective (Prod.ext_iff.mp (toLex.injective same)).2)
    exact OrderItemRef.ext_ord ord id

def pinnedWindow (limit : Option Limit) (win : List (String × Limit)) : Limit :=
  (win.lookup "pinned").getD (limit.getD defaultLimit)

def WindowShown (s : SidebarService) (userId : String) (limit : Limit) : Prop :=
  ∃ row ∈ (s.db.userOrder.ofUser userId).take limit, (s.viewRow userId row).isSome

instance (limit : Limit) : Decidable (s.WindowShown userId limit) :=
  inferInstanceAs (Decidable (∃ row ∈ (s.db.userOrder.ofUser userId).take limit, _))

def everything (paths : Paths) (s : SidebarService) (userId : String) (limit : Limit) :
    List (ScopeToken × OrderItemRef) :=
  (if s.WindowShown userId limit then
    shownOf .pinned (s.viewRow userId) (s.db.userOrder.ofUser userId) else []) ++
    (s.naturalGroups paths userId).flatMap fun group =>
      shownOf group.token (s.viewItem userId) group.items

def pinnedGroup (paths : Paths) (s : SidebarService) (userId : String) (first : Limit) : SidebarGroup :=
  let page := s.pagePinned paths userId none first (s.loadTeamAggregates userId .active)
  { scope := .pinned, items := page.items, hasMore := page.hasMore, nextCursor := page.nextCursor }

/-- A natural group of a first screen, which hydrates the conversations `ids`. -/
def naturalGroup (paths : Paths) (s : SidebarService) (userId : String) (ids : List String)
    (first : Limit) (group : NaturalGroup) : SidebarGroup :=
  { scope := group.token
    items := assembleItems (group.items.take first) (s.hydrate userId ids .active)
      (s.loadTeamAggregates userId .active) false
    hasMore := first.val < group.items.length
    nextCursor := if first.val < group.items.length then
      (group.items.take first).getLast?.map fun item =>
        item.activityCursor.encode paths group.token else none }

lemma readsPinned_iff (first : Limit) :
    s.ReadsGroup paths userId limits (s.pinnedGroup paths userId first) shown ↔
      shown = shownOf .pinned (s.viewRow userId) (s.db.userOrder.ofUser userId) := by
  refine readsGroup_iff first (ofUser_sorted _ _) (fun limit row _ => answer_pinned row limit) ?_
  have window := pagePinned_window paths s userId none first
  simp only [Option.all_none, List.filter_true] at window
  exact window

lemma pagePinned_isEmpty (s : SidebarService) (paths : Paths) (userId : String) (first : Limit) :
    (s.pagePinned paths userId none first (s.loadTeamAggregates userId .active)).items.isEmpty ↔
      ¬ s.WindowShown userId first := by
  have window := pagePinned_window paths s userId none first
  simp only [Option.all_none, List.filter_true] at window
  rw [(Paging.Page.mk.inj window).1, List.isEmpty_iff, List.filterMap_eq_nil_iff, WindowShown]
  simp [Option.isSome_iff_ne_none]

lemma readsNatural_iff {units : List Sorted} (distinct : (units.map fun unit => unit.item.item).Nodup)
    (natural : GroupBuilder.Natural paths (s.naturalGroups paths userId) units) {group : NaturalGroup}
    (mem : group ∈ s.naturalGroups paths userId) {ids : List String} (first : Limit)
    (all : convIds (group.items.take first) ⊆ ids) :
    s.ReadsGroup paths userId limits (s.naturalGroup paths userId ids first group) shown ↔
      shown = shownOf group.token (s.viewItem userId) group.items := by
  refine readsGroup_iff first (natural_sorted distinct natural mem)
    (fun limit item _ => answer_natural natural mem item limit) ?_
  rw [naturalGroup, assembleItems_eq all]
  simp only [Paging.window]

lemma firstScreen_groups (s : SidebarService) (paths : Paths) (userId : String)
    (limit : Option Limit) (win : List (String × Limit)) :
    ∃ (ids : List String) (windowOf : NaturalGroup → Limit),
      (∀ group ∈ s.naturalGroups paths userId, convIds (group.items.take (windowOf group)) ⊆ ids) ∧
      (s.firstScreen paths userId limit win .active).groups =
        (if s.WindowShown userId (pinnedWindow limit win) then
          [s.pinnedGroup paths userId (pinnedWindow limit win)]
          else []) ++
        (s.naturalGroups paths userId).map fun group =>
          s.naturalGroup paths userId ids (windowOf group) group := by
  let windowOf := fun tokenStr => ((win.lookup tokenStr).getD (limit.getD defaultLimit) : Limit)
  refine ⟨(s.naturalGroups paths userId).flatMap fun group =>
      convIds (group.items.take (windowOf group.tokenStr)),
    fun group => windowOf group.tokenStr,
    fun group mem id asked => List.mem_flatMap.mpr ⟨group, mem, asked⟩, ?_⟩
  have empty := s.pagePinned_isEmpty paths userId (pinnedWindow limit win)
  by_cases shows : s.WindowShown userId (pinnedWindow limit win)
  · have items := mt empty.mp (not_not.mpr shows)
    rw [if_pos shows]
    refine congrArg₂ (· ++ ·) ?_ rfl
    exact if_neg items
  · rw [if_neg shows]
    refine congrArg₂ (· ++ ·) ?_ rfl
    exact if_pos (empty.mpr shows)

lemma forall₂_iff {α β γ : Type} {R : α → β → Prop} {f : γ → α} {g : γ → β} {l : List γ}
    (one : ∀ x ∈ l, ∀ b, R (f x) b ↔ b = g x) {parts : List β} :
    List.Forall₂ R (l.map f) parts ↔ parts = l.map g := by
  induction l generalizing parts with
  | nil => exact List.forall₂_nil_left_iff
  | cons x l ih =>
    rw [List.map_cons, List.forall₂_cons_left_iff]
    simp only [one x List.mem_cons_self, ih fun y mem => one y (List.mem_cons_of_mem _ mem)]
    constructor
    · rintro ⟨_, _, rfl, rfl, rfl⟩
      rfl
    · rintro rfl
      exact ⟨_, _, rfl, rfl, rfl⟩

lemma reads_iff {limit : Option Limit} {win : List (String × Limit)}
    (whole : (s.classify paths userId .active).hasMoreGroups = false) :
    s.Reads paths userId limit win limits shown ↔
      shown = s.everything paths userId (pinnedWindow limit win) := by
  have natural := classify_natural whole
  have distinct := s.sortedUnits_nodup paths userId
  obtain ⟨ids, windowOf, all, groups⟩ := s.firstScreen_groups paths userId limit win
  have naturals : ∀ parts, List.Forall₂ (s.ReadsGroup paths userId limits)
      ((s.naturalGroups paths userId).map fun group =>
        s.naturalGroup paths userId ids (windowOf group) group) parts ↔
      parts = (s.naturalGroups paths userId).map fun group =>
        shownOf group.token (s.viewItem userId) group.items :=
    fun parts => forall₂_iff fun group mem shown =>
      readsNatural_iff distinct natural mem (windowOf group) (all group mem)
  rw [Reads, groups, everything]
  split
  · simp only [List.singleton_append, List.forall₂_cons_left_iff, readsPinned_iff, naturals]
    constructor
    · rintro ⟨_, ⟨_, _, rfl, rfl, rfl⟩, rfl⟩
      rfl
    · rintro rfl
      exact ⟨_, ⟨_, _, rfl, rfl, rfl⟩, rfl⟩
  · simp only [List.nil_append, naturals, exists_eq_left]
    rfl

lemma contains_iff {item : OrderItemRef} :
    s.db.userOrder.contains userId item ↔ ∃ row ∈ s.db.userOrder.ofUser userId, row.item = item := by
  simp only [UserOrder.contains, UserOrder.ofUser, List.any_eq_true, decide_eq_true_eq,
    UserOrderRow.key,
    Prod.mk.injEq, List.mem_mergeSort, List.mem_filter, and_assoc]

lemma pinnedRefs_contains {item : OrderItemRef} :
    (s.db.userOrder.pinnedRefs userId).contains item = s.db.userOrder.contains userId item := by
  rw [Bool.eq_iff_iff]
  simp [UserOrder.contains, UserOrder.pinnedRefs, UserOrderRow.key, and_assoc]

lemma pinned_of_sorted {sorted : Sorted} (mem : sorted ∈ s.sortedUnits paths userId) :
    sorted.pinned = s.db.userOrder.contains userId sorted.item.item := by
  rw [sortedUnits, List.mem_append, List.mem_map, List.mem_map] at mem
  obtain ⟨team, -, rfl⟩ | ⟨conv, -, rfl⟩ := mem
  · exact pinnedRefs_contains
  · exact pinnedRefs_contains

lemma loadTeamAggregates_isSome {id : String} :
    ((s.loadTeamAggregates userId .active)[id]?).isSome ↔
      ∃ team ∈ s.db.listTeamsThin userId .active, team.id = id := by
  constructor
  · intro some
    obtain ⟨agg, found⟩ := Option.isSome_iff_exists.mp some
    obtain ⟨team, mem, same, -⟩ := aggregateTeams_get found
    exact ⟨team, mem, same⟩
  · rintro ⟨team, mem, rfl⟩
    exact aggregateTeams_isSome _ mem

lemma hydrate_isSome {conv : SidebarConversationThin}
    (mem : conv ∈ s.db.listConversationsThin userId .active) :
    ((s.hydrate userId [conv.id] .active)[conv.id]?).isSome ↔
      s.db.conversations[conv.id]?.any (·.hydrates) := by
  obtain ⟨row, found, listed, -⟩ := Db.mem_listConversationsThin.mp mem
  simp only [Option.isSome_iff_exists, hydrate_get, found]
  simp [listed]

lemma mem_units {unit : OrderItemRef × GroupKey} :
    unit ∈ s.units paths userId ↔ ∃ sorted ∈ s.sortedUnits paths userId, sorted.key = unit.2 ∧
      sorted.item.item = unit.1 ∧ (s.viewItem userId sorted.item).isSome := by
  obtain ⟨item, key⟩ := unit
  simp only [units, sortedUnits, List.mem_append, List.mem_map, List.mem_filter, or_and_right,
    exists_or]
  refine or_congr ?_ ?_
  · constructor
    · rintro ⟨team, mem, same⟩
      obtain ⟨rfl, rfl⟩ := Prod.mk.inj same
      exact ⟨_, ⟨team, mem, rfl⟩, rfl, rfl, Option.isSome_map.trans (aggregateTeams_isSome _ mem)⟩
    · rintro ⟨_, ⟨team, mem, rfl⟩, rfl, rfl, -⟩
      exact ⟨team, mem, rfl⟩
  · constructor
    · rintro ⟨conv, ⟨mem, hydrates⟩, same⟩
      obtain ⟨rfl, rfl⟩ := Prod.mk.inj same
      refine ⟨_, ⟨conv, mem, rfl⟩, rfl, rfl, Option.isSome_map.trans ?_⟩
      exact (hydrate_isSome (List.mem_filter.mp mem).1).mpr hydrates
    · rintro ⟨_, ⟨conv, mem, rfl⟩, rfl, rfl, some⟩
      refine ⟨conv, ⟨mem, ?_⟩, rfl⟩
      exact (hydrate_isSome (List.mem_filter.mp mem).1).mp (Option.isSome_map.symm.trans some)

lemma mem_independents {conv : SidebarConversationThin} :
    conv ∈ (aggregateTeams (s.db.listConversationsThin userId .active)
      (s.db.listTeamsThin userId .active)).2 ↔
      conv ∈ s.db.listConversationsThin userId .active ∧ conv.id ∉ s.memberIds userId := by
  have member : conv.id ∈ s.memberIds userId ↔ ∃ other ∈ s.db.listConversationsThin userId .active,
      other.id = conv.id ∧ ∃ team ∈ s.db.listTeamsThin userId .active,
        other.teamId = some team.id := mem_memberIds
  rw [aggregateTeams, List.mem_filter, member]
  apply and_congr_right
  intro listed
  simp only [Option.any_eq_true, List.any_eq_true, decide_eq_true_eq]
  apply not_congr
  constructor
  · rintro ⟨teamId, named, team, known, rfl⟩
    exact ⟨conv, listed, rfl, team, known, named⟩
  · rintro ⟨other, listed', same, team, known, named⟩
    -- The slice has one conversation under the identifier.
    obtain ⟨row, found, -, thin⟩ := Db.mem_listConversationsThin.mp listed
    obtain ⟨row', found', -, thin'⟩ := Db.mem_listConversationsThin.mp listed'
    rw [same, found] at found'
    obtain rfl := Option.some.inj found'
    rw [thin', same, ← thin] at named
    exact ⟨team.id, named, team, known, rfl⟩

lemma viewRow_isSome (paths : Paths) {row : UserOrderRow} :
    (s.viewRow userId row).isSome ↔ row.item ∈ (s.units paths userId).map Prod.fst := by
  obtain ⟨owner, ⟨_ | _, id⟩, orderKey⟩ := row
  · have unit : ⟨.conversation, id⟩ ∈ (s.units paths userId).map Prod.fst ↔
        ∃ conv ∈ s.db.listConversationsThin userId .active, conv.id = id ∧ id ∉ s.memberIds userId ∧
          s.db.conversations[id]?.any (·.hydrates) := by
      rw [List.mem_map]
      simp only [units, List.mem_append, List.mem_map, List.mem_filter, mem_independents]
      constructor
      · rintro ⟨_, ⟨team, -, rfl⟩ | ⟨conv, ⟨⟨listed, independent⟩, hydrates⟩, rfl⟩, same⟩
        · cases same
        · cases same
          exact ⟨conv, listed, rfl, independent, hydrates⟩
      · rintro ⟨conv, listed, rfl, independent, hydrates⟩
        exact ⟨_, .inr ⟨conv, ⟨⟨listed, independent⟩, hydrates⟩, rfl⟩, rfl⟩
    rw [unit]
    by_cases member : (s.memberIds userId).contains id
    · simp only [viewRow, if_pos member, Option.isSome_none, Bool.false_eq_true, false_iff]
      rintro ⟨conv, -, -, independent, -⟩
      exact independent (List.contains_iff_mem.mp member)
    · simp only [viewRow, if_neg member, Option.isSome_map]
      constructor
      · intro some
        obtain ⟨row, found⟩ := Option.isSome_iff_exists.mp some
        obtain ⟨-, found, listed, hydrates⟩ := hydrate_get.mp found
        refine ⟨row.thin id, Db.mem_listConversationsThin.mpr ⟨row, found, listed, rfl⟩, rfl,
          mt List.contains_iff_mem.mpr member, ?_⟩
        simp [found, hydrates]
      · rintro ⟨conv, listed, rfl, -, hydrates⟩
        exact (hydrate_isSome listed).mpr hydrates
  · simp only [viewRow, Option.isSome_map, loadTeamAggregates_isSome]
    rw [List.mem_map]
    simp only [units, List.mem_append, List.mem_map]
    constructor
    · rintro ⟨team, mem, rfl⟩
      exact ⟨_, .inl ⟨team, mem, rfl⟩, rfl⟩
    · rintro ⟨_, ⟨team, mem, rfl⟩ | ⟨conv, -, rfl⟩, same⟩
      · cases same
        exact ⟨team, mem, rfl⟩
      · cases same

lemma mem_shownOf {α : Type} {token place : ScopeToken} {view : α → Option SidebarItem}
    {item : α → OrderItemRef}
    (ref : ∀ x shown, view x = some shown → shown.ref = item x) {l : List α} {one : OrderItemRef} :
    (place, one) ∈ shownOf token view l ↔ place = token ∧ ∃ x ∈ l, item x = one ∧ (view x).isSome := by
  simp only [shownOf, List.mem_map, List.mem_filterMap]
  constructor
  · rintro ⟨shown, ⟨x, mem, view⟩, same⟩
    cases same
    exact ⟨rfl, x, mem, (ref x shown view).symm, by rw [view]; rfl⟩
  · rintro ⟨rfl, x, mem, rfl, some⟩
    obtain ⟨shown, view⟩ := Option.isSome_iff_exists.mp some
    exact ⟨shown, ⟨x, mem, view⟩, by rw [ref x shown view]⟩

lemma nodup_shownOf {α : Type} {token : ScopeToken} {view : α → Option SidebarItem}
    {item : α → OrderItemRef}
    (ref : ∀ x shown, view x = some shown → shown.ref = item x) {l : List α}
      (distinct : (l.map item).Nodup) :
    (shownOf token view l).Nodup := by
  rw [List.Nodup, List.pairwise_map] at distinct
  rw [shownOf, List.Nodup, List.pairwise_map, List.pairwise_filterMap]
  refine distinct.imp fun {x y} ne a viewA b viewB same => ne ?_
  rw [← ref x a viewA, ← ref y b viewB]
  exact (Prod.ext_iff.mp same).2

lemma ofUser_nodup (order : UserOrder) (userId : String) :
    ((order.ofUser userId).map (·.item)).Nodup := by
  refine ((List.mergeSort_perm _ _).map _).nodup_iff.mpr ?_
  have keys := order.unique.sublist ((List.filter_sublist (p := fun row => row.userId = userId)).map _)
  rw [List.Nodup, List.pairwise_map] at keys ⊢
  refine keys.imp_of_mem fun {a b} memA memB ne same => ne (Prod.ext ?_ same)
  have userA := of_decide_eq_true (List.mem_filter.mp memA).2
  have userB := of_decide_eq_true (List.mem_filter.mp memB).2
  exact userA.trans userB.symm

section

variable (whole : (s.classify paths userId .active).hasMoreGroups = false)
include whole

lemma mem_naturals {unit : OrderItemRef × GroupKey}
    (mem : unit ∈ s.units paths userId) {place : ScopeToken} :
    (place, unit.1) ∈ (s.naturalGroups paths userId).flatMap
        (fun group => shownOf group.token (s.viewItem userId) group.items) ↔
      ¬ s.db.userOrder.contains userId unit.1 ∧ place = unit.2.token := by
  have natural := classify_natural whole
  have distinct := s.sortedUnits_nodup paths userId
  obtain ⟨sorted, there, key, item, view⟩ := mem_units.mp mem
  have pinned := pinned_of_sorted there
  rw [item] at pinned
  rw [List.mem_flatMap]
  simp only [mem_shownOf fun x shown => viewItem_ref x]
  constructor
  · rintro ⟨group, known, rfl, shown, inGroup, same, -⟩
    obtain ⟨-, key', token, items⟩ := natural.items group known
    rw [items, List.mem_mergeSort, itemsUnder, List.mem_map] at inGroup
    obtain ⟨other, there', rfl⟩ := inGroup
    rw [List.mem_filter, Bool.and_eq_true, decide_eq_true_eq, decide_eq_true_eq] at there'
    -- The item is that of one sorted unit.
    have one : other = sorted := List.inj_on_of_nodup_map distinct there'.1 there (same.trans item.symm)
    rw [one] at there'
    rw [← pinned, token, ← there'.2.1, key]
    exact ⟨there'.2.2, rfl⟩
  · rintro ⟨unpinned, rfl⟩
    obtain ⟨group, known, token⟩ := natural.known sorted there
    refine ⟨group, known, by rw [token, key], sorted.item, ?_, item, view⟩
    obtain ⟨-, key', token', items⟩ := natural.items group known
    rw [items, List.mem_mergeSort, itemsUnder, List.mem_map]
    refine ⟨sorted, List.mem_filter.mpr ⟨there, ?_⟩, rfl⟩
    rw [Bool.and_eq_true, decide_eq_true_eq, decide_eq_true_eq, pinned]
    exact ⟨GroupBuilder.token_injective (token.symm.trans token'), unpinned⟩

lemma naturals_not_pinned {item : OrderItemRef} :
    (.pinned, item) ∉ (s.naturalGroups paths userId).flatMap
        fun group => shownOf group.token (s.viewItem userId) group.items := by
  rw [List.mem_flatMap]
  rintro ⟨group, known, mem⟩
  obtain ⟨-, key, token, -⟩ := (classify_natural whole).items group known
  have place := ((mem_shownOf fun x shown => viewItem_ref x).mp mem).1
  rw [token] at place
  cases key <;> cases place

lemma nodup_everything {limit : Limit} : (s.everything paths userId limit).Nodup := by
  have natural := classify_natural whole
  have distinct := s.sortedUnits_nodup paths userId
  rw [everything, List.nodup_append]
  refine ⟨?_, ?_, ?_⟩
  · split
    · exact nodup_shownOf (fun x shown => viewRow_ref x) (ofUser_nodup _ _)
    · exact List.nodup_nil
  · rw [List.nodup_flatMap]
    constructor
    · intro group mem
      apply nodup_shownOf fun x shown => viewItem_ref x
      obtain ⟨-, key, -, items⟩ := natural.items group mem
      rw [items, ((List.mergeSort_perm _ _).map _).nodup_iff, itemsUnder, List.map_map]
      exact distinct.sublist (List.filter_sublist.map _)
    · have apart := natural.nodup
      rw [List.Nodup, List.pairwise_map] at apart
      refine apart.imp fun {a b} ne => ?_
      rintro ⟨place, item⟩ memA memB
      have placeA := ((mem_shownOf fun x shown => viewItem_ref x).mp memA).1
      have placeB := ((mem_shownOf fun x shown => viewItem_ref x).mp memB).1
      exact ne (placeA.symm.trans placeB)
  · rintro ⟨place, item⟩ pinned other natural same
    subst same
    split at pinned
    · obtain ⟨rfl, -⟩ := (mem_shownOf fun x shown => viewRow_ref x).mp pinned
      exact naturals_not_pinned whole natural
    · cases pinned

/-- Every unit is shown once where it belongs, if and only if one in the first window is pinned if
any is. -/
lemma shows_everything_iff {limit : Limit} :
    s.Shows paths userId (s.everything paths userId limit) ↔ s.PinnedInWindow paths userId limit := by
  have counts : s.Shows paths userId (s.everything paths userId limit) ↔
    ∀ unit ∈ s.units paths userId, ∀ place,
      (place, unit.1) ∈ s.everything paths userId limit ↔ place = s.home userId unit := by
    refine forall₂_congr fun unit mem => forall_congr' fun place => ?_
    rw [(nodup_everything whole).count]
    split <;> split <;> simp_all
  have window : s.WindowShown userId limit ↔
      ∃ row ∈ (s.db.userOrder.ofUser userId).take limit,
        row.item ∈ (s.units paths userId).map Prod.fst := by
    simp only [WindowShown, viewRow_isSome paths]
  rw [counts, PinnedInWindow, ← window]
  by_cases shown : s.WindowShown userId limit
  · refine iff_of_true (fun unit mem place => ?_) fun _ => shown
    rw [everything, if_pos shown, List.mem_append, mem_naturals whole mem,
      mem_shownOf fun x shown => viewRow_ref x, home]
    have rows : (∃ row ∈ s.db.userOrder.ofUser userId,
      row.item = unit.1 ∧ (s.viewRow userId row).isSome) ↔
        s.db.userOrder.contains userId unit.1 := by
      rw [contains_iff]
      refine exists_congr fun row => and_congr_right fun _ => and_iff_left_of_imp fun same => ?_
      rw [viewRow_isSome paths, same]
      exact List.mem_map_of_mem mem
    rw [rows]
    split <;> simp_all
  · have none : s.everything paths userId limit = (s.naturalGroups paths userId).flatMap
        fun group => shownOf group.token (s.viewItem userId) group.items := by
      rw [everything, if_neg shown, List.nil_append]
    rw [none]
    constructor
    · rintro all ⟨row, there, mem⟩
      obtain ⟨unit, mem, same⟩ := List.mem_map.mp mem
      have pinned : s.db.userOrder.contains userId unit.1 := contains_iff.mpr ⟨row, there, same.symm⟩
      have missing := (all unit mem .pinned).mpr (by rw [home, if_pos pinned])
      exact absurd missing (naturals_not_pinned whole)
    · intro absent unit mem place
      have unpinned : ¬ s.db.userOrder.contains userId unit.1 := by
        intro pinned
        obtain ⟨row, there, same⟩ := contains_iff.mp pinned
        exact shown (absent ⟨row, there, same ▸ List.mem_map_of_mem mem⟩)
      rw [mem_naturals whole mem, home, if_neg unpinned, and_iff_right unpinned]

end

/-- Of a project area that is not cut off, a reader takes the first screen and exhausts the paging
of its groups, in windows of any lengths. Every unit is shown once where it belongs, if and only if
a row of a unit is among those of the first pinned window if there is any. -/
theorem shows_iff (paths : Paths) (s : SidebarService) (userId : String)
    (whole : (s.classify paths userId .active).hasMoreGroups = false) (limit : Option Limit)
    (win : List (String × Limit)) (limits : ScopeToken → Nat → Limit) :
    (∃ shown, s.Reads paths userId limit win limits shown) ∧
      ∀ shown, s.Reads paths userId limit win limits shown →
        (s.Shows paths userId shown ↔ s.PinnedInWindow paths userId (pinnedWindow limit win)) := by
  constructor
  · exact ⟨_, (reads_iff whole).mpr rfl⟩
  · intro shown reads
    rw [(reads_iff whole).mp reads]
    exact shows_everything_iff whole

/-- A pinned conversation, below the row of one that is gone. -/
def belowDangling : SidebarService :=
  { oneConversation with
    db.userOrder :=
      { rows := [⟨"u", ⟨.conversation, "gone"⟩, 0⟩, ⟨"u", ⟨.conversation, "c"⟩, 1000⟩]
        unique := by decide } }

lemma belowDangling_whole : (belowDangling.classify noPaths "u" .active).hasMoreGroups = false := by
  decide +kernel

/-- With a window of both rows, the conversation is in it. -/
theorem shows_iff_both :
    (∃ shown, belowDangling.Reads noPaths "u" (some ⟨2, by decide⟩) []
      (fun _ _ => defaultLimit) shown) ∧
    ∀ shown, belowDangling.Reads noPaths "u" (some ⟨2, by decide⟩) [] (fun _ _ => defaultLimit) shown →
      (belowDangling.Shows noPaths "u" shown ↔
        belowDangling.PinnedInWindow noPaths "u" (pinnedWindow (some ⟨2, by decide⟩) [])) :=
  shows_iff noPaths belowDangling "u" belowDangling_whole (some ⟨2, by decide⟩) [] fun _ _ =>
    defaultLimit

/-- With a window of one row, the first screen has no pinned group, and the conversation is not
shown. -/
theorem belowDangling_missing :
    ∃ shown, belowDangling.Reads noPaths "u" (some ⟨1, by decide⟩) [] (fun _ _ => defaultLimit) shown ∧
      ¬ belowDangling.Shows noPaths "u" shown := by
  refine ⟨_, (reads_iff belowDangling_whole).mpr rfl, ?_⟩
  rw [shows_everything_iff belowDangling_whole, PinnedInWindow]
  have rows : belowDangling.db.userOrder.ofUser "u" = belowDangling.db.userOrder.rows :=
    List.mergeSort_of_pairwise (by decide)
  rw [rows]
  decide

end SidebarService

end KiCore.Sidebar

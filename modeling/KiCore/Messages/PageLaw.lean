import KiCore.Lib.Paging
import KiCore.Lib.Place
import KiCore.Messages.Page
import Mathlib.Data.String.Basic

/-!
# What the pages of a conversation show

The messages that are shown have one order, by their times and their ids, and every page is a window
of it (`window_of_ok`). A reader who goes back from the newest page, or on from any page, is shown
the rest, each message once.
-/

namespace KiCore.Messages

open KiCore.Lib

def MessagePageCursor.place (cursor : MessagePageCursor) : Int ×ₗ String :=
  toLex (cursor.createdAt, cursor.id)

def MessageRow.place (row : MessageRow) : Int ×ₗ String :=
  row.cursor.place

variable {db : Db} {userId convId : String} {row a b : MessageRow} {cursor : MessagePageCursor}
  {l rows : List MessageRow} {limit : Nat} {direction : MessagePageDirection} {page : MessagePageResult}

lemma isBefore_eq : row.isBefore cursor = decide (row.place < cursor.place) := by
  rw [Bool.eq_iff_iff]
  simp [MessageRow.isBefore, MessageRow.place, MessageRow.cursor, MessagePageCursor.place,
    Prod.Lex.toLex_lt_toLex]

lemma isAfter_eq : row.isAfter cursor = decide (cursor.place < row.place) := by
  rw [Bool.eq_iff_iff]
  simp [MessageRow.isAfter, MessageRow.place, MessageRow.cursor, MessagePageCursor.place,
    Prod.Lex.toLex_lt_toLex, eq_comm (a := row.createdAt)]

lemma ascending_eq : ascending a b = decide (a.place ≤ b.place) := by
  rw [Bool.eq_iff_iff]
  simp [ascending, MessageRow.place, MessageRow.cursor, MessagePageCursor.place,
    Prod.Lex.toLex_le_toLex]

lemma descending_eq : descending a b = decide (b.place ≤ a.place) := by
  rw [Bool.eq_iff_iff]
  simp [descending, MessageRow.place, MessageRow.cursor, MessagePageCursor.place,
    Prod.Lex.toLex_le_toLex, eq_comm (a := a.createdAt)]

/-- The messages that are shown, in their order. -/
def Db.timeline (db : Db) (userId convId : String) : List MessageRow :=
  (db.visibleMessages userId convId).mergeSort ascending

lemma place_injective (nodup : (l.map MessageRow.id).Nodup) : (l.map MessageRow.place).Nodup := by
  rw [List.Nodup, List.pairwise_map] at nodup ⊢
  refine nodup.imp fun apart same => apart ?_
  exact congrArg (fun p : Int ×ₗ String => (ofLex p).2) same

lemma visible_nodup (db : Db) (userId convId : String) :
    ((db.visibleMessages userId convId).map MessageRow.id).Nodup :=
  db.unique.sublist (List.filter_sublist.map _)

lemma sorted_ascending (nodup : (l.map MessageRow.id).Nodup) :
    (l.mergeSort ascending).Pairwise fun a b => a.place < b.place :=
  Paging.sorted_mergeSort (fun _ _ => ascending_eq) (place_injective nodup)

lemma timeline_sorted (db : Db) (userId convId : String) :
    (db.timeline userId convId).Pairwise fun a b => a.place < b.place :=
  sorted_ascending (visible_nodup db userId convId)

lemma sort_filter (p : MessageRow → Bool) :
    ((db.visibleMessages userId convId).filter p).mergeSort ascending =
      (db.timeline userId convId).filter p := by
  have nodup : (((db.visibleMessages userId convId).filter p).map MessageRow.id).Nodup :=
    (visible_nodup db userId convId).sublist (List.filter_sublist.map _)
  refine eq_of_sorted (sorted_ascending nodup) ((timeline_sorted db userId convId).filter _) ?_
  intro row
  rw [List.mem_mergeSort, List.mem_filter, List.mem_filter, Db.timeline, List.mem_mergeSort]

lemma sort_descending (nodup : (l.map MessageRow.id).Nodup) :
    l.mergeSort descending = (l.mergeSort ascending).reverse := by
  have sorted : (l.mergeSort descending).Pairwise fun a b =>
      OrderDual.toDual a.place < OrderDual.toDual b.place := by
    refine Paging.sorted_mergeSort (fun a b => descending_eq) ?_
    exact place_injective nodup
  refine eq_of_sorted sorted (List.pairwise_reverse.mpr (sorted_ascending nodup)) fun row => ?_
  rw [List.mem_reverse, List.mem_mergeSort, List.mem_mergeSort]

lemma around {older newer : List MessageRow} (split : db.timeline userId convId = older ++ row :: newer) :
    (db.timeline userId convId).filter (MessageRow.isBefore row.cursor) = older ∧
      (db.timeline userId convId).filter (MessageRow.isAfter row.cursor) = newer := by
  have sorted := timeline_sorted db userId convId
  have before : MessageRow.isBefore row.cursor = fun other => decide (other.place < row.place) :=
    funext fun _ => isBefore_eq
  have after : MessageRow.isAfter row.cursor = fun other => decide (row.place < other.place) :=
    funext fun _ => isAfter_eq
  rw [before, after]
  rw [split] at sorted ⊢
  exact filter_lt_gt sorted

lemma last_eq (l : List MessageRow) (n : Nat) :
    ((l.reverse.take (n + 1)).take n).reverse = l.drop (l.length - n) := by
  rw [List.take_take, min_eq_left (Nat.le_succ n), List.reverse_take, List.reverse_reverse,
    List.length_reverse]

lemma pageRows_eq (db : Db) (userId convId : String) (limit : Nat) :
    db.pageRows userId convId limit .initialLatest =
      .ok ((db.timeline userId convId).drop ((db.timeline userId convId).length - limit)) ∧
    (∀ cursor, db.pageRows userId convId limit (.before cursor) =
      .ok (((db.timeline userId convId).filter (MessageRow.isBefore cursor)).drop
        (((db.timeline userId convId).filter (MessageRow.isBefore cursor)).length - limit))) ∧
    ∀ cursor, db.pageRows userId convId limit (.after cursor) =
      .ok (((db.timeline userId convId).filter (MessageRow.isAfter cursor)).take limit) := by
  have nodup := visible_nodup db userId convId
  refine ⟨?_, fun cursor => ?_, fun cursor => ?_⟩
  · unfold Db.pageRows
    dsimp only
    rw [sort_descending nodup, last_eq]
    rfl
  · unfold Db.pageRows
    dsimp only
    rw [sort_descending (nodup.sublist (List.filter_sublist.map _)), last_eq, sort_filter]
  · unfold Db.pageRows
    dsimp only
    rw [sort_filter, List.take_take, min_eq_left (Nat.le_succ limit)]

lemma top_up {take all room : Nat} (within : take ≤ all) :
    take + min (all - take) room = min all (take + room) := by
  rw [← Nat.add_min_add_left, Nat.add_sub_cancel' within]

lemma anchorTakes_eq (limit before after : Nat) :
    Db.anchorTakes limit before after =
      (min before (limit - 1 - min after (limit - 1 - min before ((limit - 1) / 2))),
        min after (limit - 1 - min before ((limit - 1) / 2))) := by
  unfold Db.anchorTakes
  dsimp only
  have bound : (limit - 1) / 2 ≤ limit - 1 := Nat.div_le_self _ _
  have first : min before ((limit - 1) / 2) ≤ (limit - 1) / 2 := min_le_right _ _
  have within : min before ((limit - 1) / 2) ≤ before := min_le_left _ _
  have second : min after (limit - (1 + (limit - 1) / 2)) ≤ limit - (1 + (limit - 1) / 2) := min_le_right _ _
  have within' : min after (limit - (1 + (limit - 1) / 2)) ≤ after := min_le_left _ _
  generalize (limit - 1) / 2 = half at *
  generalize min before half = take at *
  generalize min after (limit - (1 + half)) = take' at *
  have unused : limit - (1 + take + take') = limit - 1 - take - take' := by
    rw [Nat.sub_sub, Nat.sub_sub, Nat.add_assoc]
  rw [← Nat.sub_sub] at second
  have fits : take + take' ≤ limit - 1 := (Nat.add_le_add first second).trans_eq (Nat.add_sub_cancel' bound)
  generalize limit - 1 = room at *
  have extra : take' + min (after - take') (room - take - take') = _ := top_up within'
  have most := min_le_right (after - take') (room - take - take')
  rw [Nat.add_sub_cancel' (Nat.le_sub_of_add_le' fits)] at extra
  rw [unused, top_up within, ← extra]
  generalize min (after - take') (room - take - take') = more at *
  have rest : take + (room - take - take' - more) = room - (take' + more) := by
    clear extra unused second
    omega
  rw [rest]

lemma anchorTakes_cases (limit before after : Nat) :
    before + 1 + after ≤ limit ∧ Db.anchorTakes limit before after = (before, after) ∨
    limit < before + 1 + after ∧ before ≤ (limit - 1) / 2 ∧
      Db.anchorTakes limit before after = (before, limit - 1 - before) ∨
    limit < before + 1 + after ∧ after ≤ limit - 1 - (limit - 1) / 2 ∧
      Db.anchorTakes limit before after = (limit - 1 - after, after) ∨
    Db.anchorTakes limit before after = ((limit - 1) / 2, limit - 1 - (limit - 1) / 2) ∧
      (limit - 1) / 2 ≤ before ∧ limit - 1 - (limit - 1) / 2 ≤ after := by
  rw [anchorTakes_eq]
  have bound : (limit - 1) / 2 ≤ limit - 1 := Nat.div_le_self _ _
  generalize (limit - 1) / 2 = half at *
  obtain low | low := Nat.le_total before half
  · rw [min_eq_left low]
    obtain many | few := Nat.lt_or_ge limit (before + 1 + after)
    · rw [min_eq_right (show limit - 1 - before ≤ after by omega), Nat.sub_sub_self (low.trans bound), min_self]
      exact .inr (.inl ⟨many, low, rfl⟩)
    · rw [min_eq_left (show after ≤ limit - 1 - before by omega),
        min_eq_left (show before ≤ limit - 1 - after by omega)]
      exact .inl ⟨few, rfl⟩
  · rw [min_eq_right low]
    obtain high | high := Nat.le_total after (limit - 1 - half)
    · rw [min_eq_left high]
      obtain many | few := Nat.lt_or_ge limit (before + 1 + after)
      · rw [min_eq_right (show limit - 1 - after ≤ before by omega)]
        exact .inr (.inr (.inl ⟨many, high, rfl⟩))
      · rw [min_eq_left (show before ≤ limit - 1 - after by omega)]
        exact .inl ⟨few, rfl⟩
    · rw [min_eq_right high, Nat.sub_sub_self bound, min_eq_right low]
      exact .inr (.inr (.inr ⟨rfl, low, high⟩))

lemma anchorTakes_spec (pos : 0 < limit) (before after : Nat) :
    (Db.anchorTakes limit before after).1 ≤ before ∧ (Db.anchorTakes limit before after).2 ≤ after ∧
      (Db.anchorTakes limit before after).1 + 1 + (Db.anchorTakes limit before after).2 =
        min limit (before + 1 + after) ∧
      ∀ older newer, older ≤ before → newer ≤ after →
        older + newer = (Db.anchorTakes limit before after).1 + (Db.anchorTakes limit before after).2 →
        max (Db.anchorTakes limit before after).1 (Db.anchorTakes limit before after).2 ≤
          max older newer := by
  obtain ⟨few, takes⟩ | ⟨many, low, takes⟩ | ⟨many, high, takes⟩ | ⟨takes, low, high⟩ :=
    anchorTakes_cases limit before after
  · rw [takes]
    exact ⟨le_rfl, le_rfl, (min_eq_right few).symm, fun older newer _ _ _ =>
      max_le_max (by omega) (by omega)⟩
  · rw [takes, min_eq_left many.le]
    exact ⟨le_rfl, by omega, by omega, fun older newer _ _ _ =>
      (max_le (by omega) (by omega)).trans (le_max_right _ _)⟩
  · rw [takes, min_eq_left many.le]
    refine ⟨by omega, le_rfl, by omega, fun older newer _ _ sum => ?_⟩
    obtain less | more := Nat.lt_or_ge newer after
    · exact (max_le (by omega) (by omega)).trans (le_max_left _ _)
    · exact max_le_max (by omega) more
  · have most : (limit - 1) / 2 + 1 + (limit - 1 - (limit - 1) / 2) = limit := by omega
    rw [takes, min_eq_left (by omega)]
    refine ⟨low, high, most, fun older newer _ _ sum => ?_⟩
    obtain less | more := Nat.lt_or_ge newer (limit - 1 - (limit - 1) / 2)
    · exact (max_le (by omega) (by omega)).trans (le_max_left _ _)
    · exact (max_le (by omega) more).trans (le_max_right _ _)

lemma pageRows_anchor (pos : 0 < limit) {anchor : MessageRow} {older newer : List MessageRow}
    (split : db.timeline userId convId = older ++ anchor :: newer) :
    ∃ takes, takes = Db.anchorTakes limit (min limit older.length) (min limit newer.length) ∧
      db.pageRows userId convId limit (.anchor anchor.id) =
        .ok (older.drop (older.length - takes.1) ++ anchor :: newer.take takes.2) := by
  refine ⟨_, rfl, ?_⟩
  have nodup := visible_nodup db userId convId
  have mem : anchor ∈ db.visibleMessages userId convId := by
    have there : anchor ∈ db.timeline userId convId := by
      rw [split]
      exact List.mem_append_right _ List.mem_cons_self
    exact List.mem_mergeSort.mp there
  have found := Keyed.lookup_of_mem nodup mem
  obtain ⟨before, after⟩ := around split
  have lengths : ((older.reverse.take limit).reverse).length = min limit older.length := by simp
  have lengths' : (newer.take limit).length = min limit newer.length := by simp
  obtain ⟨few, few', -⟩ := anchorTakes_spec pos (min limit older.length) (min limit newer.length)
  unfold Db.pageRows
  dsimp only
  rw [found]
  dsimp only
  rw [sort_descending (nodup.sublist (List.filter_sublist.map _)), sort_filter, sort_filter, before, after,
    lengths, lengths']
  -- what is taken of a side is within what was read of it
  have front : (older.reverse.take limit).reverse = older.drop (older.length - limit) := by
    rw [List.reverse_take, List.reverse_reverse, List.length_reverse]
  rw [front, List.drop_drop, List.take_take, min_eq_left (few'.trans (min_le_left _ _))]
  congr 4
  omega

lemma pageWithFlags_items (items : List MessageRow) :
    (db.pageWithFlags userId convId items).items = items := by
  unfold Db.pageWithFlags
  split <;> rfl

lemma window_of_rows (pos : 0 < limit) (ok : db.pageRows userId convId limit direction = .ok rows) :
    ∃ older newer, db.timeline userId convId = older ++ rows ++ newer := by
  have sorted := timeline_sorted db userId convId
  obtain ⟨initial, before, after⟩ := pageRows_eq db userId convId limit
  cases direction with
  | initialLatest =>
    cases initial.symm.trans ok
    exact ⟨_, [], by rw [List.append_nil, List.take_append_drop]⟩
  | before cursor =>
    cases (before cursor).symm.trans ok
    have split := filter_append_filter_not (p := MessageRow.isBefore cursor) sorted fun a b lt earlier => by
      rw [isBefore_eq, decide_eq_true_eq] at *
      exact lt.trans earlier
    exact ⟨_, _, by rw [List.take_append_drop, split]⟩
  | after cursor =>
    cases (after cursor).symm.trans ok
    have split := filter_append_filter_not (p := fun row => !MessageRow.isAfter cursor row) sorted
      fun a b lt earlier => by
        rw [isAfter_eq, Bool.not_eq_true', decide_eq_false_iff_not, not_lt] at *
        exact lt.le.trans earlier
    simp only [Bool.not_not] at split
    exact ⟨_, _, by rw [List.append_assoc, List.take_append_drop, split]⟩
  | anchor messageId =>
    cases found : Keyed.lookup MessageRow.id messageId (db.visibleMessages userId convId) with
    | none =>
      unfold Db.pageRows at ok
      dsimp only at ok
      rw [found] at ok
      cases ok
    | some anchor =>
      have mem : anchor ∈ db.timeline userId convId :=
        List.mem_mergeSort.mpr (Keyed.mem_of_lookup found)
      obtain ⟨older, newer, split⟩ := List.append_of_mem mem
      obtain ⟨takes, -, rows'⟩ := pageRows_anchor pos split
      rw [Keyed.lookup_key found] at rows'
      cases rows'.symm.trans ok
      refine ⟨older.take (older.length - takes.1), newer.drop takes.2, ?_⟩
      rw [split, ← List.append_assoc, List.take_append_drop, List.append_assoc, List.cons_append,
        List.take_append_drop]

lemma window_of_ok (ok : db.listMessagesPage userId convId limit direction = .ok page) :
    db.pageRows userId convId (max limit 1) direction = .ok page.items ∧
      page = db.pageWithFlags userId convId page.items ∧
      ∃ older newer, db.timeline userId convId = older ++ page.items ++ newer := by
  unfold Db.listMessagesPage at ok
  split_ifs at ok with owned
  cases found : db.pageRows userId convId (max limit 1) direction with
  | error e =>
    rw [found] at ok
    cases ok
  | ok rows =>
    rw [found] at ok
    dsimp only at ok
    obtain ⟨older, newer, split⟩ := window_of_rows (lt_max_of_lt_right Nat.one_pos) found
    have sorted := split ▸ timeline_sorted db userId convId
    have still : rows.mergeSort ascending = rows := by
      refine List.mergeSort_of_pairwise ?_
      refine (List.pairwise_append.mp (List.pairwise_append.mp sorted).1).2.1.imp fun lt => ?_
      rw [ascending_eq]
      exact decide_eq_true lt.le
    rw [still] at ok
    cases ok
    rw [pageWithFlags_items]
    exact ⟨rfl, rfl, older, newer, split⟩

lemma flags_eq {items older newer : List MessageRow}
    (split : db.timeline userId convId = older ++ items ++ newer) (some : items ≠ []) :
    ((db.pageWithFlags userId convId items).hasMoreBefore = true ↔ older ≠ []) ∧
      ((db.pageWithFlags userId convId items).hasMoreAfter = true ↔ newer ≠ []) := by
  have any_iff (p : MessageRow → Bool) : (db.visibleMessages userId convId).any p = true ↔
      (db.timeline userId convId).filter p ≠ [] := by
    rw [List.any_eq_true, ne_eq, List.filter_eq_nil_iff]
    simp [Db.timeline]
  have head := List.head?_eq_some_head some
  have tail := List.getLast?_eq_some_getLast some
  unfold Db.pageWithFlags
  rw [head, tail]
  dsimp only
  constructor
  · obtain ⟨rest, cons⟩ := List.head?_eq_some_iff.mp head
    have split' : db.timeline userId convId = older ++ items.head some :: (rest ++ newer) := by
      rw [split, List.append_assoc, ← List.cons_append, ← cons]
    rw [any_iff, (around split').1]
  · obtain ⟨init, snoc⟩ := List.getLast?_eq_some_iff.mp tail
    have split' : db.timeline userId convId = (older ++ init) ++ items.getLast some :: newer := by
      rw [split, List.append_assoc, List.append_assoc, ← List.singleton_append, ← List.append_assoc init,
        ← snoc]
    rw [any_iff, (around split').2]

/-- The pages of a reader who goes back: newest first, and on from the oldest cursor. -/
def MessageListResponse.backward (response : MessageListResponse) : Paging.Page String MessageRow where
  items := response.items.reverse
  next := if response.hasMoreBefore then response.oldestCursor else none

def MessageListResponse.forward (response : MessageListResponse) : Paging.Page String MessageRow where
  items := response.items
  next := if response.hasMoreAfter then response.newestCursor else none

/-- The `k`th request of a reader who goes back. -/
def olderPages (codec : CursorCodec) (db : Db) (userId convId : String) (limits : Nat → Option Nat)
    (k : Nat) (cursor : String) : Option (Paging.Page String MessageRow) :=
  (listMessages codec db userId convId
    { limit := limits k, before := some cursor, after := none, anchorMessageId := none }).toOption.map
      MessageListResponse.backward

/-- The `k`th request of a reader who goes forward. -/
def newerPages (codec : CursorCodec) (db : Db) (userId convId : String) (limits : Nat → Option Nat)
    (k : Nat) (cursor : String) : Option (Paging.Page String MessageRow) :=
  (listMessages codec db userId convId
    { limit := limits k, before := none, after := some cursor, anchorMessageId := none }).toOption.map
      MessageListResponse.forward

variable {codec : CursorCodec} {limits : Nat → Option Nat} {n : Nat} {older newer : List MessageRow}
  {query : ListMessagesQuery} {response : MessageListResponse}

lemma effectiveMessageLimit_pos (limit : Option Nat) : 0 < effectiveMessageLimit limit := by
  unfold effectiveMessageLimit
  split
  · decide
  · rename_i some
    exact lt_min (Nat.pos_of_ne_zero some) (by decide)

lemma forward_window (codec : CursorCodec) (split : db.timeline userId convId = older ++ l) (pos : 0 < n) :
    ((db.pageWithFlags userId convId (l.take n)).response codec).forward =
      Paging.window (fun row => codec.encodeMessageCursor row.cursor) some n l := by
  by_cases empty : l = []
  · subst empty
    unfold Paging.window
    rw [List.take_nil]
    rfl
  · have some : l.take n ≠ [] := by
      rw [ne_eq, List.take_eq_nil_iff, not_or]
      exact ⟨pos.ne', empty⟩
    have parts : db.timeline userId convId = older ++ l.take n ++ l.drop n := by
      rw [List.append_assoc, List.take_append_drop, split]
    have more := (flags_eq parts some).2
    have follows : l.drop n ≠ [] ↔ n < l.length := by
      rw [ne_eq, List.drop_eq_nil_iff, not_le]
    unfold MessageListResponse.forward Paging.window MessagePageResult.response
    dsimp only
    rw [pageWithFlags_items, List.filterMap_some, if_congr (more.trans follows) rfl rfl]

lemma backward_window (codec : CursorCodec) (split : db.timeline userId convId = l.reverse ++ newer)
    (pos : 0 < n) :
    ((db.pageWithFlags userId convId (l.take n).reverse).response codec).backward =
      Paging.window (fun row => codec.encodeMessageCursor row.cursor) some n l := by
  by_cases empty : l = []
  · subst empty
    unfold Paging.window
    rw [List.take_nil]
    rfl
  · have some : (l.take n).reverse ≠ [] := by
      rw [ne_eq, List.reverse_eq_nil_iff, List.take_eq_nil_iff, not_or]
      exact ⟨pos.ne', empty⟩
    have parts : db.timeline userId convId = (l.drop n).reverse ++ (l.take n).reverse ++ newer := by
      rw [← List.reverse_append, List.take_append_drop, split]
    have more := (flags_eq parts some).1
    have follows : (l.drop n).reverse ≠ [] ↔ n < l.length := by
      rw [ne_eq, List.reverse_eq_nil_iff, List.drop_eq_nil_iff, not_le]
    unfold MessageListResponse.backward Paging.window MessagePageResult.response
    dsimp only
    rw [pageWithFlags_items, List.reverse_reverse, List.filterMap_some, List.head?_reverse,
      if_congr (more.trans follows) rfl rfl]

/-- Every message that is shown has a type, a position and a status that the service knows. -/
def Converts (db : Db) (userId convId : String) : Prop :=
  ∀ row ∈ db.timeline userId convId, rowToMessageResponse row = .ok row

lemma mapM_converts (converts : ∀ row ∈ rows, rowToMessageResponse row = .ok row) :
    rows.mapM rowToMessageResponse = .ok rows := by
  induction rows with
  | nil => rfl
  | cons row rows ih =>
    obtain ⟨first, rest⟩ := List.forall_mem_cons.mp converts
    rw [List.mapM_cons, first, ih rest]
    rfl

lemma Converts.window (converts : Converts db userId convId)
    (split : db.timeline userId convId = older ++ rows ++ newer) :
    rows.mapM rowToMessageResponse = .ok rows := by
  refine mapM_converts fun row mem => converts row ?_
  rw [split]
  exact List.mem_append_left _ (List.mem_append_right _ mem)

lemma listMessages_eq (direction : MessagePageDirection) (owned : db.owns userId convId)
    (converts : Converts db userId convId) (one : messageLocatorCount query ≤ 1)
    (start : codec.direction query = .ok direction)
    (read : db.pageRows userId convId (effectiveMessageLimit query.limit) direction = .ok rows) :
    listMessages codec db userId convId query =
      .ok ((db.pageWithFlags userId convId rows).response codec) := by
  have pos := effectiveMessageLimit_pos query.limit
  have paged : ∃ page, db.listMessagesPage userId convId (effectiveMessageLimit query.limit) direction =
      .ok page := by
    unfold Db.listMessagesPage
    rw [if_neg (not_not.mpr owned), max_eq_left pos, read]
    exact ⟨_, rfl⟩
  obtain ⟨page, paged⟩ := paged
  obtain ⟨items, flags, _, _, split⟩ := window_of_ok paged
  rw [max_eq_left pos, read] at items
  obtain rfl := Except.ok.inj items
  unfold listMessages
  rw [if_neg (not_not.mpr owned), if_neg (not_lt.mpr one), start]
  dsimp only
  rw [paged]
  dsimp only
  rw [converts.window split, ← flags]
  rfl

lemma window_of_listMessages (converts : Converts db userId convId)
    (ok : listMessages codec db userId convId query = .ok response) :
    ∃ older newer, db.timeline userId convId = older ++ response.items ++ newer ∧
      response = (db.pageWithFlags userId convId response.items).response codec := by
  unfold listMessages at ok
  split_ifs at ok
  cases start : codec.direction query with
  | error e =>
    rw [start] at ok
    cases ok
  | ok direction =>
    rw [start] at ok
    dsimp only at ok
    cases paged : db.listMessagesPage userId convId (effectiveMessageLimit query.limit) direction with
    | error e =>
      rw [paged] at ok
      cases ok
    | ok page =>
      obtain ⟨-, flags, older, newer, split⟩ := window_of_ok paged
      rw [paged] at ok
      dsimp only at ok
      rw [converts.window split] at ok
      cases ok
      exact ⟨older, newer, split, congrArg (·.response codec) flags⟩

lemma newerPages_eq (owned : db.owns userId convId) (converts : Converts db userId convId)
    (split : db.timeline userId convId = older ++ row :: newer)
    (decoded : codec.decodeMessageCursor (codec.encodeMessageCursor row.cursor) = .ok row.cursor)
    (k : Nat) :
    newerPages codec db userId convId limits k (codec.encodeMessageCursor row.cursor) =
      some (Paging.window (fun row => codec.encodeMessageCursor row.cursor) some
        (effectiveMessageLimit (limits k))
        newer) := by
  have pos := effectiveMessageLimit_pos (limits k)
  have read := (pageRows_eq db userId convId (effectiveMessageLimit (limits k))).2.2 row.cursor
  rw [(around split).2] at read
  unfold newerPages
  rw [listMessages_eq (.after row.cursor) owned converts (by simp [messageLocatorCount])
    (by simp [CursorCodec.direction, decoded, Except.map]) read]
  have split' : db.timeline userId convId = (older ++ [row]) ++ newer := by
    rw [split, List.append_assoc, List.singleton_append]
  exact congrArg some (forward_window codec split' pos)

lemma olderPages_eq (owned : db.owns userId convId) (converts : Converts db userId convId)
    (split : db.timeline userId convId = older ++ row :: newer)
    (decoded : codec.decodeMessageCursor (codec.encodeMessageCursor row.cursor) = .ok row.cursor)
    (k : Nat) :
    olderPages codec db userId convId limits k (codec.encodeMessageCursor row.cursor) =
      some (Paging.window (fun row => codec.encodeMessageCursor row.cursor) some
        (effectiveMessageLimit (limits k))
        older.reverse) := by
  have pos := effectiveMessageLimit_pos (limits k)
  have read := (pageRows_eq db userId convId (effectiveMessageLimit (limits k))).2.1 row.cursor
  have last : older.drop (older.length - effectiveMessageLimit (limits k)) =
      (older.reverse.take (effectiveMessageLimit (limits k))).reverse := by
    rw [List.reverse_take, List.reverse_reverse, List.length_reverse]
  rw [(around split).1, last] at read
  unfold olderPages
  rw [listMessages_eq (.before row.cursor) owned converts (by simp [messageLocatorCount])
    (by simp [CursorCodec.direction, decoded, Except.map]) read]
  exact congrArg some (backward_window codec (by rw [List.reverse_reverse, split]) pos)

/-- The cursors of the messages that are shown are read back. -/
def Decodes (codec : CursorCodec) (db : Db) (userId convId : String) : Prop :=
  ∀ row ∈ db.timeline userId convId,
    codec.decodeMessageCursor (codec.encodeMessageCursor row.cursor) = .ok row.cursor

lemma decodes_of_payload (payload : ∀ row ∈ db.timeline userId convId,
      codec.decodePayload (codec.encodePayload row.cursor) = some row.cursor)
    (ids : ∀ row ∈ db.timeline userId convId, row.id ≠ "") : Decodes codec db userId convId := by
  intro row mem
  have raw : ("v1." ++ codec.encodePayload row.cursor).toList =
      'v' :: '1' :: '.' :: (codec.encodePayload row.cursor).toList := by
    rw [String.toList_append]
    rfl
  unfold CursorCodec.decodeMessageCursor CursorCodec.encodeMessageCursor
  rw [raw]
  simp only [String.ofList_toList, payload row mem]
  exact if_neg (ids row mem)

section

variable (owned : db.owns userId convId)
include owned

variable (converts : Converts db userId convId)
include converts

lemma reads_newer (decodes : Decodes codec db userId convId)
    (split : db.timeline userId convId = older ++ rows ++ newer) (some : rows ≠ [])
    (shown : List MessageRow) :
    Paging.Exhausts (newerPages codec db userId convId limits) 0
      ((db.pageWithFlags userId convId rows).response codec).forward.next shown ↔ shown = newer := by
  have sorted := timeline_sorted db userId convId
  have length : 0 < rows.length := List.length_pos_iff.mpr some
  rw [List.append_assoc] at split
  have page := forward_window codec split length
  rw [List.take_left] at page
  rw [page]
  have sorted' := (List.pairwise_append.mp (split ▸ sorted)).2.1
  rw [Paging.exhausts_iff sorted' (fun k => effectiveMessageLimit_pos (limits k)) ?_ length,
    List.drop_left, List.filterMap_some]
  intro k row mem
  obtain ⟨before, after, parts⟩ := List.append_of_mem mem
  have split' : db.timeline userId convId = (older ++ before) ++ row :: after := by
    rw [split, parts, List.append_assoc]
  rw [newerPages_eq owned converts split' (decodes row (split' ▸ by simp)), parts,
    (filter_lt_gt (parts ▸ sorted')).2]

lemma reads_older (decodes : Decodes codec db userId convId)
    (split : db.timeline userId convId = older ++ rows ++ newer) (some : rows ≠ [])
    (shown : List MessageRow) :
    Paging.Exhausts (olderPages codec db userId convId limits) 0
      ((db.pageWithFlags userId convId rows).response codec).backward.next shown ↔
        shown = older.reverse := by
  have sorted := timeline_sorted db userId convId
  have length : 0 < rows.reverse.length := by
    rw [List.length_reverse]
    exact List.length_pos_iff.mpr some
  have reversed : (older ++ rows).reverse = rows.reverse ++ older.reverse := List.reverse_append
  have parts : db.timeline userId convId = (rows.reverse ++ older.reverse).reverse ++ newer := by
    rw [← reversed, List.reverse_reverse, split]
  have page := backward_window codec parts length
  rw [List.take_left, List.reverse_reverse] at page
  rw [page]
  have sorted' : (rows.reverse ++ older.reverse).Pairwise fun a b =>
      OrderDual.toDual a.place < OrderDual.toDual b.place := by
    rw [← reversed]
    exact List.pairwise_reverse.mpr (List.pairwise_append.mp (split ▸ sorted)).1
  rw [Paging.exhausts_iff sorted' (fun k => effectiveMessageLimit_pos (limits k)) ?_ length,
    List.drop_left, List.filterMap_some]
  intro k row mem
  obtain ⟨before, after, parts⟩ := List.append_of_mem mem
  have split' : db.timeline userId convId = after.reverse ++ row :: (before.reverse ++ newer) := by
    rw [split, ← List.reverse_reverse (older ++ rows), reversed, parts]
    simp
  have rest := (@filter_lt_gt _ _ _ (fun other : MessageRow => OrderDual.toDual other.place) _ _ _
    (parts ▸ sorted')).2
  rw [olderPages_eq owned converts split' (decodes row (split' ▸ by simp)), parts, List.reverse_reverse, rest]

lemma reads_all (decodes : Decodes codec db userId convId) (limit : Option Nat) : ∃ response,
      listMessages codec db userId convId
        { limit, before := none, after := none, anchorMessageId := none } = .ok response ∧
      ∀ (limits : Nat → Option Nat) (shown : List MessageRow),
        Paging.Exhausts (olderPages codec db userId convId limits) 0 response.backward.next shown ↔
          response.backward.items ++ shown = (db.timeline userId convId).reverse := by
  have pos := effectiveMessageLimit_pos limit
  have read := (pageRows_eq db userId convId (effectiveMessageLimit limit)).1
  refine ⟨_, listMessages_eq _ owned converts (by simp [messageLocatorCount]) rfl read, fun limits shown => ?_⟩
  generalize cut : (db.timeline userId convId).length - effectiveMessageLimit limit = n
  have split : db.timeline userId convId =
      (db.timeline userId convId).take n ++ (db.timeline userId convId).drop n ++ [] := by
    rw [List.append_nil, List.take_append_drop]
  by_cases some : (db.timeline userId convId).drop n = []
  · -- nothing is shown at all
    have empty : db.timeline userId convId = [] := by
      rw [List.drop_eq_nil_iff] at some
      refine List.length_eq_zero_iff.mp ?_
      omega
    rw [some, empty]
    constructor
    · intro read
      cases read
      rfl
    · intro same
      obtain rfl : shown = [] := same
      exact .done
  · rw [reads_older owned converts decodes split some]
    have whole := congrArg List.reverse split
    rw [List.append_nil, List.reverse_append] at whole
    unfold MessageListResponse.backward MessagePageResult.response
    dsimp only
    rw [pageWithFlags_items, whole, List.append_cancel_left_eq]

end

lemma min_quota (limit older newer : Nat) :
    min limit (min limit older + 1 + min limit newer) = min limit (older + 1 + newer) := by
  obtain all | all := Nat.le_total limit older
  · rw [min_eq_left all, min_eq_left (by omega), min_eq_left (by omega)]
  · rw [min_eq_right all]
    obtain all | all := Nat.le_total limit newer
    · rw [min_eq_left all, min_eq_left (by omega), min_eq_left (by omega)]
    · rw [min_eq_right all]

lemma anchor_page (owned : db.owns userId convId) (converts : Converts db userId convId)
    (limit : Option Nat) {anchor : MessageRow}
    (split : db.timeline userId convId = older ++ anchor :: newer) :
    ∃ response before after,
      listMessages codec db userId convId
        { limit, before := none, after := none, anchorMessageId := some anchor.id } = .ok response ∧
      response.items = before ++ anchor :: after ∧ before <:+ older ∧ after <+: newer ∧
      response.items.length = min (effectiveMessageLimit limit) (db.timeline userId convId).length ∧
      ∀ x y, x ≤ older.length → y ≤ newer.length → x + y = before.length + after.length →
        max before.length after.length ≤ max x y := by
  have pos := effectiveMessageLimit_pos limit
  obtain ⟨takes, eq, read⟩ := pageRows_anchor pos split
  have spec := anchorTakes_spec pos
    (min (effectiveMessageLimit limit) older.length) (min (effectiveMessageLimit limit) newer.length)
  rw [← eq, min_quota] at spec
  obtain ⟨few, few', full, even⟩ := spec
  have front := Nat.sub_sub_self (few.trans (min_le_right _ _))
  have back := min_eq_left (few'.trans (min_le_right _ _))
  have room := full.trans_le (min_le_left _ _)
  refine ⟨_, _, _, listMessages_eq _ owned converts (by simp [messageLocatorCount]) rfl read,
    pageWithFlags_items _, List.drop_suffix _ _, List.take_prefix _ _, ?_, ?_⟩
  · unfold MessagePageResult.response
    dsimp only
    rw [pageWithFlags_items, split, List.length_append, List.length_append, List.length_drop,
      List.length_cons, List.length_cons, List.length_take, front, back]
    rwa [Nat.add_right_comm, Nat.add_right_comm older.length] at full
  · intro x y hx hy sum
    rw [List.length_drop, List.length_take, front, back] at sum ⊢
    exact even x y (le_min (by omega) hx) (le_min (by omega) hy) sum

/-- The pages of a conversation whose messages convert: an answer is a window of the timeline, with flags
that tell whether there is more on its sides unless it is empty; from a page that is not, the cursors lead
through all that comes after it and all that came before it; the newest page starts a reading of
everything; and a page with an anchor has as many rows as the limit and the timeline allow, as near to
even on both sides of the anchor as they go. -/
theorem message_paging (owned : db.owns userId convId) (converts : Converts db userId convId)
    (decodes : Decodes codec db userId convId) :
    (∀ query response, listMessages codec db userId convId query = .ok response →
      ∃ older newer, db.timeline userId convId = older ++ response.items ++ newer ∧
        (response.items = [] → response.hasMoreBefore = false ∧ response.hasMoreAfter = false) ∧
        (response.items ≠ [] →
          (response.hasMoreBefore = true ↔ older ≠ []) ∧ (response.hasMoreAfter = true ↔ newer ≠ []) ∧
          ∀ (limits : Nat → Option Nat) (shown : List MessageRow),
            (Paging.Exhausts (newerPages codec db userId convId limits) 0 response.forward.next shown ↔
              shown = newer) ∧
            (Paging.Exhausts (olderPages codec db userId convId limits) 0 response.backward.next shown ↔
              shown = older.reverse))) ∧
    (∀ limit, ∃ response,
      listMessages codec db userId convId
        { limit, before := none, after := none, anchorMessageId := none } = .ok response ∧
      ∀ (limits : Nat → Option Nat) (shown : List MessageRow),
        Paging.Exhausts (olderPages codec db userId convId limits) 0 response.backward.next shown ↔
          response.backward.items ++ shown = (db.timeline userId convId).reverse) ∧
    ∀ limit (anchor : MessageRow) (older newer : List MessageRow),
      db.timeline userId convId = older ++ anchor :: newer →
      ∃ response before after,
        listMessages codec db userId convId
          { limit, before := none, after := none, anchorMessageId := some anchor.id } = .ok response ∧
        response.items = before ++ anchor :: after ∧ before <:+ older ∧ after <+: newer ∧
        response.items.length = min (effectiveMessageLimit limit) (db.timeline userId convId).length ∧
        ∀ x y, x ≤ older.length → y ≤ newer.length → x + y = before.length + after.length →
          max before.length after.length ≤ max x y := by
  refine ⟨?_, reads_all owned converts decodes,
    fun limit anchor older newer => anchor_page owned converts limit⟩
  · intro query response ok
    obtain ⟨older, newer, split, page⟩ := window_of_listMessages converts ok
    refine ⟨older, newer, split, fun empty => ?_, fun some => ?_⟩
    · rw [page, empty]
      exact ⟨rfl, rfl⟩
    · obtain ⟨before, after⟩ := flags_eq split some
      rw [page]
      exact ⟨before, after, fun limits shown =>
        ⟨reads_newer owned converts decodes split some shown,
          reads_older owned converts decodes split some shown⟩⟩

def hello (id type : String) : MessageRow :=
  { id, conversationId := "c", msgId := none, type, content := .obj [("content", .str "hi")]
    position := some "right", status := some "finish", hidden := false, createdAt := 1
    backendTurnId := none }

def greetings : List MessageRow :=
  [hello "a" "text", hello "b" "text", hello "c" "tips"]

def storing (messages : List MessageRow) (unique : (messages.map MessageRow.id).Nodup) : Db :=
  { conversations := (∅ : Table String ConversationRow).insert "c" { userId := "u", updatedAt := 1 }
    messages
    unique }

def greeted : Db :=
  storing greetings (by decide)

def greetingCodec : CursorCodec where
  encodePayload cursor := "eyJjcmVhdGVkX2F0IjoxLCJpZCI6Im" ++
    (if cursor.id = "a" then "EifQ" else if cursor.id = "b" then "IifQ" else "MifQ")
  decodePayload raw :=
    if raw = "eyJjcmVhdGVkX2F0IjoxLCJpZCI6ImEifQ" then some ⟨1, "a"⟩
    else if raw = "eyJjcmVhdGVkX2F0IjoxLCJpZCI6ImIifQ" then some ⟨1, "b"⟩
    else if raw = "eyJjcmVhdGVkX2F0IjoxLCJpZCI6ImMifQ" then some ⟨1, "c"⟩
    else none

lemma greeted_timeline : greeted.timeline "u" "c" = greetings := by
  have visible : greeted.visibleMessages "u" "c" = greetings :=
    List.filter_eq_self.mpr (by decide)
  rw [Db.timeline, visible]
  exact List.mergeSort_of_pairwise (by decide)

lemma greeted_converts : Converts greeted "u" "c" := by
  rw [Converts, greeted_timeline]
  simp only [greetings, List.forall_mem_cons]
  exact ⟨rfl, rfl, rfl, nofun⟩

lemma greeted_decodes : Decodes greetingCodec greeted "u" "c" := by
  refine decodes_of_payload ?_ ?_
  · rw [greeted_timeline]
    decide
  · rw [greeted_timeline]
    decide

/-- The page around the second message has one other, and who goes back from the newest message, one at
a time, sees all three. -/
theorem message_paging_greeted :
    (∃ response before after,
      listMessages greetingCodec greeted "u" "c"
        { limit := some 2, before := none, after := none, anchorMessageId := some "b" } = .ok response ∧
      response.items = before ++ hello "b" "text" :: after ∧ response.items.length = 2) ∧
    ∃ response,
      listMessages greetingCodec greeted "u" "c"
        { limit := some 1, before := none, after := none, anchorMessageId := none } = .ok response ∧
      ∀ shown, Paging.Exhausts (olderPages greetingCodec greeted "u" "c" fun _ => some 1) 0
          response.backward.next shown ↔
        response.backward.items ++ shown = [hello "c" "tips", hello "b" "text", hello "a" "text"] := by
  obtain ⟨-, all, around⟩ := message_paging (by decide) greeted_converts greeted_decodes
  constructor
  · obtain ⟨response, before, after, ok, items, -, -, length, -⟩ :=
      around (some 2) (hello "b" "text") [hello "a" "text"] [hello "c" "tips"] greeted_timeline
    rw [greeted_timeline] at length
    exact ⟨response, before, after, ok, items, length⟩
  · obtain ⟨response, ok, reads⟩ := all (some 1)
    rw [greeted_timeline] at reads
    exact ⟨response, ok, reads fun _ => some 1⟩

def legacy : Db :=
  storing [hello "a" "codex_tool_call"] (by decide)

lemma legacy_timeline : legacy.timeline "u" "c" = [hello "a" "codex_tool_call"] := by
  have visible : legacy.visibleMessages "u" "c" = [hello "a" "codex_tool_call"] :=
    List.filter_eq_self.mpr (by decide)
  rw [Db.timeline, visible, List.mergeSort_singleton]

/-- The page after the last message is empty, and says that there is nothing before it; and a message of
a type that the service does not know fails its page. -/
theorem message_paging_behind :
    (∃ response,
      listMessages greetingCodec greeted "u" "c"
        { limit := none, before := none, after := some "v1.eyJjcmVhdGVkX2F0IjoxLCJpZCI6ImMifQ"
          anchorMessageId := none } = .ok response ∧
      response.items = [] ∧ response.hasMoreBefore = false ∧ greeted.timeline "u" "c" = greetings) ∧
    listMessages greetingCodec legacy "u" "c"
      { limit := none, before := none, after := none, anchorMessageId := none } =
        .error (.internal "Invalid enum value 'codex_tool_call'") := by
  constructor
  · have read := (pageRows_eq greeted "u" "c" (effectiveMessageLimit none)).2.2 ⟨1, "c"⟩
    have none_after : greetings.filter (MessageRow.isAfter ⟨1, "c"⟩) = [] :=
      List.filter_eq_nil_iff.mpr (by decide)
    rw [greeted_timeline, none_after, List.take_nil] at read
    exact ⟨_, listMessages_eq _ (by decide) greeted_converts (by decide) (by rfl) read, rfl, rfl,
      greeted_timeline⟩
  · have read := (pageRows_eq legacy "u" "c" 50).1
    rw [legacy_timeline] at read
    have paged : legacy.listMessagesPage "u" "c" 50 .initialLatest =
        .ok (legacy.pageWithFlags "u" "c" [hello "a" "codex_tool_call"]) := by
      unfold Db.listMessagesPage
      rw [if_neg (by decide), show max 50 1 = 50 from rfl, read]
      exact congrArg (fun rows => Except.ok (legacy.pageWithFlags "u" "c" rows))
        (List.mergeSort_singleton _)
    unfold listMessages
    rw [if_neg (by decide), if_neg (by decide),
      show greetingCodec.direction ⟨none, none, none, none⟩ = .ok .initialLatest from rfl]
    dsimp only
    rw [show effectiveMessageLimit none = 50 from rfl, paged]
    rfl

end KiCore.Messages

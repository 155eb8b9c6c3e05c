import KiCore.Lib.Place
import KiCore.Lib.Transition
import KiCore.Sidebar.Groups

/-!
# Moving pinned rows

A move writes the key of one row, so that the row is placed among the others by its new key
(`ofUser_setKey`). It is what `reinsert` says of the displayed items, if the key lies between those of the
anchor and of the row behind it: this is so of a midpoint with room, and of the keys next to the ends of the
scene. A scene without room is spaced evenly first, which keeps the rows in their order
(`display_rebalanceScene`).

All of this is as long as no key leaves the `i64`: `MoveFits` says so of one move.
-/

namespace KiCore.Sidebar

open KiCore.Lib

lemma i64_eq {n : Int} (low : -2 ^ 63 ≤ n) (high : n < 2 ^ 63) : i64 n = n := by
  unfold i64 Int.bmod
  dsimp only
  split_ifs
  · omega
  · omega

lemma i64_range (n : Int) : -2 ^ 63 ≤ i64 n ∧ i64 n < 2 ^ 63 := by
  unfold i64 Int.bmod
  dsimp only
  split_ifs
  · omega
  · omega

lemma midpoint_between {left right : Int} (le : left ≤ right) (low : -2 ^ 63 ≤ left) (high : right < 2 ^ 63)
    (room : rebalanceThreshold ≤ i64 (right - left)) :
    left < midpoint left right ∧ midpoint left right < right := by
  have small : right - left < 2 ^ 63 := by
    by_contra large
    -- the difference would have wrapped to a negative number
    have wraps : i64 (right - left) = right - left - 2 ^ 64 := by
      unfold i64 Int.bmod
      dsimp only
      split_ifs
      · omega
      · omega
    rw [wraps, rebalanceThreshold] at room
    omega
  have exact : i64 (right - left) = right - left := i64_eq (by omega) small
  rw [exact, rebalanceThreshold] at room
  have half : (right - left).tdiv 2 = (right - left) / 2 := Int.tdiv_eq_ediv_of_nonneg (by omega)
  rw [midpoint, exact, half, i64_eq (by omega) (by omega)]
  omega

lemma position_lt_of_key {a b : UserOrderRow} (h : a.orderKey < b.orderKey) : a.position < b.position :=
  Prod.Lex.toLex_lt_toLex.mpr (.inl h)

lemma key_le_of_position {a b : UserOrderRow} (h : a.position < b.position) : a.orderKey ≤ b.orderKey := by
  by_contra gt
  exact lt_asymm h (position_lt_of_key (not_le.mp gt))

lemma item_eq_of_position {a b : UserOrderRow} (h : a.position = b.position) : a.item = b.item := by
  obtain ⟨-, inner⟩ := Prod.ext_iff.mp (toLex.injective h)
  obtain ⟨ord, id⟩ := Prod.ext_iff.mp (toLex.injective inner)
  exact OrderItemRef.ext_ord ord id

namespace UserOrder

variable (order : UserOrder)

/-- The items of a user, in the order they are displayed in. -/
def display (userId : String) : List OrderItemRef :=
  (order.ofUser userId).map (·.item)

/-- The rows of a user but that of one item. -/
def others (userId : String) (item : OrderItemRef) : List UserOrderRow :=
  (order.ofUser userId).filter fun row => row.item ≠ item

/-- The keys are of type `i64`. -/
def Typed : Prop :=
  ∀ row ∈ order.rows, -2 ^ 63 ≤ row.orderKey ∧ row.orderKey < 2 ^ 63

variable {order : UserOrder} {userId : String} {item moved anchor : OrderItemRef}
  {after : Option OrderItemRef} {row : UserOrderRow} {k own left right : Int}

lemma mem_ofUser : row ∈ order.ofUser userId ↔ row ∈ order.rows ∧ row.userId = userId := by
  rw [ofUser, List.mem_mergeSort, List.mem_filter, decide_eq_true_eq]

lemma orderKey_eq_some : order.orderKey userId item = some k ↔ ⟨userId, item, k⟩ ∈ order.rows := by
  have apart : ∀ row ∈ order.rows, ∀ row' ∈ order.rows, row.key = row'.key → row = row' :=
    fun row h row' h' => List.inj_on_of_nodup_map order.unique h h'
  rw [orderKey, Option.map_eq_some_iff]
  constructor
  · rintro ⟨row, found, rfl⟩
    have same : row.key = (userId, item) := by simpa using List.find?_some found
    obtain ⟨rfl, rfl⟩ := Prod.ext_iff.mp same
    exact List.mem_of_find?_eq_some found
  · intro there
    cases found : order.rows.find? fun row => row.key = (userId, item) with
    | none => exact absurd (decide_eq_true rfl) (List.find?_eq_none.mp found _ there)
    | some row =>
      have same : row.key = (userId, item) := by simpa using List.find?_some found
      exact ⟨row, rfl, by rw [apart row (List.mem_of_find?_eq_some found) _ there same]⟩

lemma nodup_display : (order.display userId).Nodup := by
  rw [display, List.Nodup, List.pairwise_map]
  have rows : ∀ a ∈ order.ofUser userId, ∀ b ∈ order.ofUser userId, a.item = b.item → a = b := by
    intro a ha b hb same
    obtain ⟨memA, rfl⟩ := mem_ofUser.mp ha
    obtain ⟨memB, user⟩ := mem_ofUser.mp hb
    exact List.inj_on_of_nodup_map order.unique memA memB (Prod.ext user.symm same)
  refine (ofUser_sorted order userId).imp_of_mem fun {a b} ha hb lt same => ?_
  rw [rows a ha b hb same] at lt
  exact lt_irrefl _ lt

lemma others_sorted : (order.others userId item).Pairwise fun a b => a.position < b.position :=
  (ofUser_sorted order userId).filter _

lemma map_others : (order.others userId item).map (·.item) = (order.display userId).erase item := by
  rw [nodup_display.erase_eq_filter, display, List.filter_map, others]
  congr 1
  refine List.filter_congr fun row _ => ?_
  rw [Bool.eq_iff_iff, decide_eq_true_eq, Function.comp_apply, bne_iff_ne]

lemma others_apart (there : row ∈ order.others userId item) :
    row.position ≠ UserOrderRow.position ⟨userId, item, k⟩ :=
  fun same => of_decide_eq_true (List.mem_filter.mp there).2 (item_eq_of_position same)

section

variable (there : order.orderKey userId item = some own)
include there

lemma ofUser_place :
    order.ofUser userId = place UserOrderRow.position ⟨userId, item, own⟩ (order.others userId item) := by
  apply eq_place others_sorted (ofUser_sorted order userId) fun row => others_apart
  intro row
  rw [others, List.mem_filter, decide_eq_true_eq]
  constructor
  · intro mem
    by_cases same : row.item = item
    · obtain ⟨inTable, user⟩ := mem_ofUser.mp mem
      have listed := orderKey_eq_some.mp there
      exact .inl (List.inj_on_of_nodup_map order.unique inTable listed (Prod.ext user same))
    · exact .inr ⟨mem, same⟩
  · rintro (rfl | ⟨mem, _⟩)
    · exact mem_ofUser.mpr ⟨orderKey_eq_some.mp there, rfl⟩
    · exact mem

lemma mem_rows_setKey :
    row ∈ (order.setKey userId item k).rows ↔
      row = ⟨userId, item, k⟩ ∨ row ∈ order.rows ∧ row.key ≠ (userId, item) := by
  rw [setKey, rekey, List.mem_map]
  constructor
  · rintro ⟨old, mem, rfl⟩
    by_cases same : old.key = (userId, item)
    · rw [if_pos same]
      obtain ⟨user, own⟩ := Prod.ext_iff.mp same
      exact .inl (by rw [← show old.userId = userId from user, ← show old.item = item from own])
    · rw [if_neg same]
      exact .inr ⟨mem, same⟩
  · rintro (rfl | ⟨mem, other⟩)
    · exact ⟨_, orderKey_eq_some.mp there, by rw [if_pos (by rfl)]⟩
    · exact ⟨row, mem, by rw [if_neg other]⟩

lemma ofUser_setKey :
    (order.setKey userId item k).ofUser userId =
      place UserOrderRow.position ⟨userId, item, k⟩ (order.others userId item) := by
  apply eq_place others_sorted (ofUser_sorted _ userId) fun row => others_apart
  intro row
  rw [mem_ofUser, others, List.mem_filter, mem_ofUser, decide_eq_true_eq, mem_rows_setKey there]
  constructor
  · rintro ⟨rfl | ⟨mem, other⟩, user⟩
    · exact .inl rfl
    · exact .inr ⟨⟨mem, user⟩, fun same => other (Prod.ext user same)⟩
  · rintro (rfl | ⟨⟨mem, user⟩, other⟩)
    · exact ⟨.inl rfl, rfl⟩
    · exact ⟨.inr ⟨mem, fun same => other (congrArg Prod.snd same)⟩, user⟩

end

lemma display_first (there : order.orderKey userId moved = some own)
    (below : ∀ row ∈ order.rows, row.userId = userId → k < row.orderKey) :
    (order.setKey userId moved k).display userId = reinsert moved none (order.display userId) := by
  rw [display, ofUser_setKey there, place_first, List.map_cons, map_others, reinsert]
  intro row mem
  obtain ⟨mem, user⟩ := mem_ofUser.mp (List.mem_of_mem_filter mem)
  exact position_lt_of_key (below row mem user)

lemma successorKey_le (mem : row ∈ order.others userId moved) (behind : precedes left anchor row = true) :
    ∃ right, order.successorKey userId left anchor moved = some right ∧ right ≤ row.orderKey := by
  obtain ⟨listed, other⟩ := List.mem_filter.mp mem
  have meets : (precedes left anchor row && decide (row.item ≠ moved)) = true :=
    (Bool.and_eq_true ..).mpr ⟨behind, other⟩
  cases found : (order.ofUser userId).find? fun row => precedes left anchor row && row.item ≠ moved with
  | none => exact absurd meets (List.find?_eq_none.mp found row listed)
  | some first =>
    refine ⟨first.orderKey, by rw [successorKey, found]; rfl, ?_⟩
    obtain ⟨_, before, rest, split, none⟩ := List.find?_eq_some_iff_append.mp found
    rw [split] at listed
    rcases List.mem_append.mp listed with earlier | later
    · have := none row earlier
      rw [meets] at this
      cases this
    · rcases List.mem_cons.mp later with rfl | later
      · exact le_rfl
      · have sorted := ofUser_sorted order userId
        rw [split, List.pairwise_append, List.pairwise_cons] at sorted
        exact key_le_of_position (sorted.2.1.1 row later)

lemma exists_successor (found : order.successorKey userId left anchor moved = some right) :
    ∃ row ∈ order.others userId moved, precedes left anchor row = true ∧ row.orderKey = right := by
  obtain ⟨row, first, rfl⟩ := Option.map_eq_some_iff.mp found
  have meets := List.find?_some first
  rw [Bool.and_eq_true] at meets
  exact ⟨row, List.mem_filter.mpr ⟨List.mem_of_find?_eq_some first, meets.2⟩, meets.1, rfl⟩

lemma precedes_anchor (userId : String) (row : UserOrderRow) : precedes left anchor row = true ↔
    UserOrderRow.position ⟨userId, anchor, left⟩ < row.position := by
  rw [← decide_eq_true_eq (p := _ < _), ← precedes_iff]

lemma display_behind (there : order.orderKey userId moved = some own)
    (anchored : order.orderKey userId anchor = some left) (above : left < k)
    (below : ∀ right, order.successorKey userId left anchor moved = some right → k < right) :
    (order.setKey userId moved k).display userId = reinsert moved (some anchor) (order.display userId) := by
  have behind : ∀ row ∈ order.others userId moved, precedes left anchor row = true → k < row.orderKey := by
    intro row mem after
    obtain ⟨right, found, le⟩ := successorKey_le mem after
    exact (below right found).trans_le le
  rw [display, ofUser_setKey there, reinsert]
  split_ifs with self
  · -- the anchor is the row itself, which stays between the same rows
    subst self
    rw [display, ofUser_place anchored]
    refine map_place_congr (fun row mem => ?_) rfl
    rcases lt_or_gt_of_ne (others_apart (k := left) mem) with before | after
    · have le : row.orderKey ≤ left := key_le_of_position before
      exact iff_of_true (position_lt_of_key (le.trans_lt above)) before
    · have lt := behind row mem ((precedes_anchor userId row).mpr after)
      exact iff_of_false (position_lt_of_key lt).asymm after.asymm
  · have mem : (⟨userId, anchor, left⟩ : UserOrderRow) ∈ order.others userId moved :=
      List.mem_filter.mpr ⟨mem_ofUser.mpr ⟨orderKey_eq_some.mp anchored, rfl⟩, decide_eq_true self⟩
    rw [← map_others]
    apply map_place_behind others_sorted _ mem (position_lt_of_key above)
    · intro row mem after before
      have lt := behind row mem ((precedes_anchor userId row).mpr after)
      exact lt_asymm before (position_lt_of_key lt)
    · rw [map_others]
      exact nodup_display.erase _

def spacedKey (order : UserOrder) (userId : String) (item : OrderItemRef) : Int :=
  (((order.display userId).idxOf item : Nat) + 1) * pinGap

def Spaceable (order : UserOrder) (userId : String) : Prop :=
  ((order.display userId).length : Int) * pinGap < 2 ^ 63

def spacedRow (order : UserOrder) (userId : String) (row : UserOrderRow) : UserOrderRow :=
  { row with orderKey := order.spacedKey userId row.item }

variable {a b : UserOrderRow}

lemma mem_display (mem : row ∈ order.ofUser userId) : row.item ∈ order.display userId :=
  List.mem_map.mpr ⟨row, mem, rfl⟩

lemma spacedKey_range (spaceable : order.Spaceable userId) (mem : item ∈ order.display userId) :
    0 < order.spacedKey userId item ∧ order.spacedKey userId item < 2 ^ 63 := by
  have lt := List.idxOf_lt_length_of_mem mem
  unfold Spaceable pinGap at spaceable
  unfold spacedKey pinGap
  omega

lemma spacedKey_lt (memA : a ∈ order.ofUser userId) (memB : b ∈ order.ofUser userId)
    (lt : a.position < b.position) :
    order.spacedKey userId a.item + pinGap ≤ order.spacedKey userId b.item := by
  have index : ∀ i, ∀ h : i < (order.ofUser userId).length,
      (order.display userId).idxOf (order.ofUser userId)[i].item = i := by
    intro i h
    have inside : i < (order.display userId).length := by
      rw [display, List.length_map]
      exact h
    have item : (order.display userId)[i] = (order.ofUser userId)[i].item := List.getElem_map ..
    rw [← item]
    exact nodup_display.idxOf_getElem i inside
  obtain ⟨i, hi, rfl⟩ := List.mem_iff_getElem.mp memA
  obtain ⟨j, hj, rfl⟩ := List.mem_iff_getElem.mp memB
  have sorted := List.pairwise_iff_getElem.mp (ofUser_sorted order userId)
  have ij : i < j := by
    rcases lt_trichotomy i j with ij | rfl | ji
    · exact ij
    · exact absurd lt (lt_irrefl _)
    · exact absurd lt (sorted j i hj hi ji).asymm
  unfold spacedKey pinGap
  rw [index i hi, index j hj]
  omega

section

variable (spaceable : order.Spaceable userId)
include spaceable

lemma mem_ofUser_rebalanceScene :
    row ∈ (order.rebalanceScene userId).ofUser userId ↔
      ∃ old ∈ order.ofUser userId, row = order.spacedRow userId old := by
  have keys : ∀ old ∈ order.rows, old.userId = userId →
      i64 ((((order.ofUser userId).map (·.item)).idxOf old.item + 1) * pinGap) =
        order.spacedKey userId old.item := by
    intro old mem user
    have range := spacedKey_range spaceable (mem_display (mem_ofUser.mpr ⟨mem, user⟩))
    exact i64_eq (show -2 ^ 63 ≤ order.spacedKey userId old.item by omega) range.2
  rw [mem_ofUser, rebalanceScene, rekey, List.mem_map]
  constructor
  · rintro ⟨⟨old, mem, rfl⟩, user⟩
    refine ⟨old, mem_ofUser.mpr ⟨mem, user⟩, ?_⟩
    rw [if_pos user, keys old mem user]
    rfl
  · rintro ⟨old, mem, rfl⟩
    obtain ⟨mem, user⟩ := mem_ofUser.mp mem
    refine ⟨⟨old, mem, ?_⟩, user⟩
    rw [if_pos user, keys old mem user]
    rfl

lemma ofUser_rebalanceScene :
    (order.rebalanceScene userId).ofUser userId = (order.ofUser userId).map (order.spacedRow userId) := by
  refine eq_of_sorted (ofUser_sorted _ userId) ?_ fun row => ?_
  · rw [List.pairwise_map]
    refine (ofUser_sorted order userId).imp_of_mem fun {a b} memA memB lt => position_lt_of_key ?_
    have gap := spacedKey_lt memA memB lt
    unfold pinGap at gap
    show order.spacedKey userId a.item < order.spacedKey userId b.item
    omega
  · rw [mem_ofUser_rebalanceScene spaceable, List.mem_map]
    simp only [eq_comm]

lemma display_rebalanceScene :
    (order.rebalanceScene userId).display userId = order.display userId := by
  rw [display, ofUser_rebalanceScene spaceable, List.map_map]
  rfl

lemma orderKey_rebalanceScene (there : order.orderKey userId item = some own) :
    (order.rebalanceScene userId).orderKey userId item = some (order.spacedKey userId item) := by
  have mem := mem_ofUser.mpr ⟨orderKey_eq_some.mp there, rfl⟩
  exact orderKey_eq_some.mpr
    (mem_ofUser.mp ((mem_ofUser_rebalanceScene spaceable).mpr ⟨_, mem, rfl⟩)).1

/-- In a scene that was spaced evenly, the row behind another one is a gap away. -/
lemma successorKey_rebalanceScene (anchored : order.orderKey userId anchor = some left)
    (found : order.successorKey userId left anchor moved = some right) :
    ∃ right',
      (order.rebalanceScene userId).successorKey userId (order.spacedKey userId anchor) anchor moved =
        some right' ∧ order.spacedKey userId anchor + pinGap ≤ right' ∧ right' < 2 ^ 63 := by
  have anchorRow : (⟨userId, anchor, left⟩ : UserOrderRow) ∈ order.ofUser userId :=
    mem_ofUser.mpr ⟨orderKey_eq_some.mp anchored, rfl⟩
  obtain ⟨row, other, behind, _⟩ := exists_successor found
  obtain ⟨mem, ne⟩ := List.mem_filter.mp other
  have gap := spacedKey_lt anchorRow mem ((precedes_anchor userId row).mp behind)
  dsimp only at gap
  -- the row that was behind is behind still, and so some row is the next one
  obtain ⟨right', found', _⟩ : ∃ right', (order.rebalanceScene userId).successorKey userId
      (order.spacedKey userId anchor) anchor moved = some right' ∧ right' ≤ _ := by
    have still : order.spacedRow userId row ∈ (order.rebalanceScene userId).others userId moved :=
      List.mem_filter.mpr ⟨(mem_ofUser_rebalanceScene spaceable).mpr ⟨row, mem, rfl⟩, ne⟩
    apply successorKey_le still
    rw [precedes_anchor userId]
    unfold pinGap at gap
    exact position_lt_of_key (show order.spacedKey userId anchor < order.spacedKey userId row.item by omega)
  refine ⟨right', found', ?_⟩
  obtain ⟨next, other', behind', rfl⟩ := exists_successor found'
  obtain ⟨old, listed, rfl⟩ := (mem_ofUser_rebalanceScene spaceable).mp (List.mem_of_mem_filter other')
  refine ⟨?_, (spacedKey_range spaceable (mem_display listed)).2⟩
  apply spacedKey_lt anchorRow listed
  have after := (precedes_anchor userId _).mp behind'
  rcases lt_trichotomy (UserOrderRow.position ⟨userId, anchor, left⟩) old.position with
    before | same | behind
  · exact before
  · have item : anchor = old.item := item_eq_of_position same
    have place : (order.spacedRow userId old).position =
        UserOrderRow.position ⟨userId, anchor, order.spacedKey userId anchor⟩ := by
      rw [item]
      rfl
    rw [place] at after
    exact absurd after (lt_irrefl _)
  · have le : order.spacedKey userId anchor ≤ order.spacedKey userId old.item := key_le_of_position after
    have gap := spacedKey_lt listed anchorRow behind
    unfold pinGap at gap
    dsimp only at gap
    omega

end

/-- The move of a row that is there finds no room behind its anchor. -/
def Crowded (order : UserOrder) (userId : String) (moved : OrderItemRef) (after : Option OrderItemRef) :
    Prop :=
  (order.orderKey userId moved).isSome ∧ ∃ anchor ∈ after, ∃ left right, order.orderKey userId anchor = some left ∧
    order.successorKey userId left anchor moved = some right ∧ i64 (right - left) < rebalanceThreshold

/-- No key that the move of a row that is there calculates leaves the `i64`: in front of the first row, behind
the last row, and in a scene that has to be spaced evenly. -/
structure MoveFits (order : UserOrder) (userId : String) (moved : OrderItemRef)
    (after : Option OrderItemRef) : Prop where
  front : (order.orderKey userId moved).isSome → after = none →
    ∀ key ∈ order.minOrderKey userId, -2 ^ 63 ≤ key - pinGap
  back : (order.orderKey userId moved).isSome → ∀ anchor ∈ after, ∀ left,
    order.orderKey userId anchor = some left → order.successorKey userId left anchor moved = none →
      left + pinGap < 2 ^ 63
  spaceable : order.Crowded userId moved after → order.Spaceable userId

/-- What is asked of a move: it displays the item in front or directly behind its anchor and all others as
before, or it leaves the scene as it is; and if it spaces the scene, that is displayed as before. -/
structure MoveLaw (order : UserOrder) (userId : String) (moved : OrderItemRef)
    (after : Option OrderItemRef) : Prop where
  reinserted : (order.moveItem userId moved after).1 = .ok .moved →
    (order.moveItem userId moved after).2.display userId = reinsert moved after (order.display userId)
  unchanged : (order.moveItem userId moved after).1 ≠ .ok .moved →
    (order.moveItem userId moved after).2 = order
  spaced : order.Crowded userId moved after →
    (order.rebalanceScene userId).display userId = order.display userId

lemma minOrderKey_le (found : order.minOrderKey userId = some k) (mem : row ∈ order.rows)
    (user : row.userId = userId) : k ≤ row.orderKey := by
  unfold minOrderKey at found
  obtain ⟨_, least⟩ := List.min?_eq_some_iff.mp found
  exact least _ (List.mem_map.mpr ⟨row, List.mem_filter.mpr ⟨mem, decide_eq_true user⟩, rfl⟩)

lemma Typed.orderKey (typed : order.Typed) (there : order.orderKey userId item = some k) :
    -2 ^ 63 ≤ k ∧ k < 2 ^ 63 :=
  typed _ (orderKey_eq_some.mp there)

lemma move_front (typed : order.Typed) (there : order.orderKey userId moved = some own)
    (front : ∀ key ∈ order.minOrderKey userId, -2 ^ 63 ≤ key - pinGap) :
    (order.setKey userId moved (i64 ((order.minOrderKey userId).getD pinGap - pinGap))).display userId =
      reinsert moved none (order.display userId) := by
  have mine : own ∈ (order.rows.filter fun row => row.userId = userId).map (·.orderKey) :=
    List.mem_map.mpr ⟨_, List.mem_filter.mpr ⟨orderKey_eq_some.mp there, decide_eq_true rfl⟩, rfl⟩
  obtain ⟨least, found⟩ : ∃ least, order.minOrderKey userId = some least := by
    rw [← Option.isSome_iff_exists, minOrderKey, List.isSome_min?_iff]
    exact List.ne_nil_of_mem mine
  have low := front least found
  have high : least < 2 ^ 63 :=
    (minOrderKey_le found (orderKey_eq_some.mp there) rfl).trans_lt (typed.orderKey there).2
  unfold pinGap at low ⊢
  apply display_first there
  intro row mem user
  have le := minOrderKey_le found mem user
  rw [found, Option.getD_some, i64_eq low (by omega)]
  omega

lemma move_between (typed : order.Typed) (there : order.orderKey userId moved = some own)
    (anchored : order.orderKey userId anchor = some left)
    (found : order.successorKey userId left anchor moved = some right)
    (room : rebalanceThreshold ≤ i64 (right - left)) :
    (order.setKey userId moved (midpoint left right)).display userId =
      reinsert moved (some anchor) (order.display userId) := by
  obtain ⟨row, other, behind, rfl⟩ := exists_successor found
  obtain ⟨mem, _⟩ := mem_ofUser.mp (List.mem_of_mem_filter other)
  have le : left ≤ row.orderKey := key_le_of_position ((precedes_anchor userId row).mp behind)
  obtain ⟨above, below⟩ := midpoint_between le (typed.orderKey anchored).1 (typed row mem).2 room
  apply display_behind there anchored above
  intro right found'
  rw [found] at found'
  rwa [← Option.some.inj found']

lemma move_spaced (spaceable : order.Spaceable userId) (there : order.orderKey userId moved = some own)
    (anchored : order.orderKey userId anchor = some left)
    (found : order.successorKey userId left anchor moved = some right) :
    ∃ right',
      (order.rebalanceScene userId).successorKey userId (order.spacedKey userId anchor) anchor moved =
        some right' ∧
      ((order.rebalanceScene userId).setKey userId moved
        (midpoint (order.spacedKey userId anchor) right')).display userId =
          reinsert moved (some anchor) (order.display userId) := by
  obtain ⟨right', found', gap, high⟩ := successorKey_rebalanceScene spaceable anchored found
  have mem := mem_display (mem_ofUser.mpr ⟨orderKey_eq_some.mp anchored, rfl⟩)
  have low := (spacedKey_range spaceable mem).1
  dsimp only at low
  unfold pinGap at gap
  have room : rebalanceThreshold ≤ i64 (right' - order.spacedKey userId anchor) := by
    rw [i64_eq (by omega) (by omega), rebalanceThreshold]
    omega
  obtain ⟨above, below⟩ := midpoint_between (by omega) (by omega) high room
  refine ⟨right', found', ?_⟩
  rw [← display_rebalanceScene spaceable]
  apply display_behind (orderKey_rebalanceScene spaceable there)
    (orderKey_rebalanceScene spaceable anchored) above
  intro right found''
  rw [found'] at found''
  rwa [← Option.some.inj found'']

lemma move_back (typed : order.Typed) (there : order.orderKey userId moved = some own)
    (anchored : order.orderKey userId anchor = some left)
    (last : order.successorKey userId left anchor moved = none) (back : left + pinGap < 2 ^ 63) :
    (order.setKey userId moved (i64 (left + pinGap))).display userId =
      reinsert moved (some anchor) (order.display userId) := by
  have low := (typed.orderKey anchored).1
  unfold pinGap at back ⊢
  rw [i64_eq (by omega) back]
  apply display_behind there anchored (by omega)
  intro right found
  rw [last] at found
  cases found

lemma MoveLaw.of_unmoved {outcome : Except String MoveOutcome}
    (answer : order.moveItem userId moved after = (outcome, order)) (other : outcome ≠ .ok .moved)
    (spaced : order.Crowded userId moved after →
      (order.rebalanceScene userId).display userId = order.display userId) :
    order.MoveLaw userId moved after where
  reinserted h := by
    rw [answer] at h
    exact absurd h other
  unchanged _ := by rw [answer]
  spaced := spaced

lemma MoveLaw.of_moved {order' : UserOrder}
    (answer : order.moveItem userId moved after = (.ok .moved, order'))
    (shown : order'.display userId = reinsert moved after (order.display userId))
    (spaced : order.Crowded userId moved after →
      (order.rebalanceScene userId).display userId = order.display userId) :
    order.MoveLaw userId moved after where
  reinserted _ := by
    rw [answer]
    exact shown
  unchanged h := by
    rw [answer] at h
    exact absurd rfl h
  spaced := spaced

lemma MoveFits.law (typed : order.Typed) (fits : order.MoveFits userId moved after) :
    order.MoveLaw userId moved after := by
  have spaced : order.Crowded userId moved after →
      (order.rebalanceScene userId).display userId = order.display userId :=
    fun crowded => display_rebalanceScene (fits.spaceable crowded)
  have answer := moveItem.eq_def order userId moved after
  cases there : order.orderKey userId moved with
  | none =>
    rw [there] at answer
    exact .of_unmoved answer (by rintro ⟨⟩) spaced
  | some own =>
    rw [there] at answer
    have some_ : (order.orderKey userId moved).isSome := Option.isSome_of_eq_some there
    cases after with
    | none => exact .of_moved answer (move_front typed there (fits.front some_ rfl)) spaced
    | some anchor =>
      dsimp only at answer
      cases anchored : order.orderKey userId anchor with
      | none =>
        rw [anchored] at answer
        exact .of_unmoved answer (by rintro ⟨⟩) spaced
      | some left =>
        rw [anchored] at answer
        dsimp only at answer
        cases found : order.successorKey userId left anchor moved with
        | none =>
          rw [found] at answer
          have back := fits.back some_ anchor rfl left anchored found
          exact .of_moved answer (move_back typed there anchored found back) spaced
        | some right =>
          rw [found] at answer
          dsimp only at answer
          split_ifs at answer with room
          · exact .of_moved answer (move_between typed there anchored found room) spaced
          · have spaceable := fits.spaceable
              ⟨some_, anchor, rfl, left, right, anchored, found, not_le.mp room⟩
            obtain ⟨right', found', shown⟩ := move_spaced spaceable there anchored found
            rw [orderKey_rebalanceScene spaceable anchored] at answer
            dsimp only at answer
            rw [found'] at answer
            exact .of_moved answer shown spaced

end UserOrder

inductive OrderCall where
  | pin (userId : String) (item : OrderItemRef)
  | unpin (userId : String) (item : OrderItemRef)
  | moveItem (userId : String) (moved : OrderItemRef) (after : Option OrderItemRef)
  deriving DecidableEq

namespace UserOrder

variable {order : UserOrder} {call : OrderCall} {userId : String} {item : OrderItemRef} {k : Int}

def next (order : UserOrder) : OrderCall → UserOrder
  | .pin userId item => (order.pin userId item).2
  | .unpin userId item => (order.unpin userId item).2
  | .moveItem userId moved after => (order.moveItem userId moved after).2

def CallLaw (order : UserOrder) : OrderCall → Prop
  | .moveItem userId moved after => order.MoveLaw userId moved after
  | _ => True

/-- A call calculates no key that leaves the `i64`, if it is a move. -/
def CallFits (order : UserOrder) : OrderCall → Prop
  | .moveItem userId moved after => order.MoveFits userId moved after
  | _ => True

lemma Typed.rekey {key : UserOrderRow → Int}
    (range : ∀ row ∈ order.rows, -2 ^ 63 ≤ key row ∧ key row < 2 ^ 63) :
    (order.rekey key).Typed := by
  intro row mem
  obtain ⟨old, there, rfl⟩ := List.mem_map.mp mem
  exact range old there

lemma Typed.setKey (typed : order.Typed) (range : -2 ^ 63 ≤ k ∧ k < 2 ^ 63) :
    (order.setKey userId item k).Typed := by
  apply Typed.rekey
  intro row mem
  split_ifs
  · exact range
  · exact typed row mem

lemma Typed.rebalanceScene (typed : order.Typed) : (order.rebalanceScene userId).Typed := by
  apply Typed.rekey
  intro row mem
  split_ifs
  · exact i64_range _
  · exact typed row mem

lemma Typed.next (typed : order.Typed) : (order.next call).Typed := by
  cases call with
  | pin userId item =>
    change (order.pin userId item).2.Typed
    unfold pin
    split_ifs with new
    · intro row mem
      rcases List.mem_append.mp mem with mem | mem
      · exact typed row mem
      · rw [List.mem_singleton.mp mem]
        dsimp only
        split
        · exact i64_range _
        · decide
    · exact typed
  | unpin userId item => exact fun row mem => typed row (List.mem_of_mem_filter mem)
  | moveItem userId moved after =>
    unfold UserOrder.next
    dsimp only
    rw [moveItem.eq_def]
    cases order.orderKey userId moved with
    | none => exact typed
    | some own =>
      cases after with
      | none => exact typed.setKey (i64_range _)
      | some anchor =>
        dsimp only
        split
        · exact typed
        · split
          · exact typed.setKey (i64_range _)
          · split_ifs
            · exact typed.setKey (i64_range _)
            · split
              · exact typed
              · split
                · exact typed.rebalanceScene.setKey (i64_range _)
                · exact typed.rebalanceScene.setKey (i64_range _)

/-- In a run in which no move calculates a key that leaves the `i64`, every move does what is asked of it:
the displayed order is the old one with the item put back in front or directly behind its anchor, or nothing
changes, and an even spacing displays everything as before. -/
theorem move_item_law (typed : order.Typed) {calls : List OrderCall}
    (fits : LTS.EnabledAll CallFits next order calls) : LTS.EnabledAll CallLaw next order calls := by
  refine fits.imp (Q := Typed) (fun order call typed fits => ⟨?_, typed.next⟩) typed
  cases call with
  | pin userId item => trivial
  | unpin userId item => trivial
  | moveItem userId moved after => exact fits.law typed

/-- Three pinned rows: the second one is moved in front, and then behind the first, where there is no room. -/
theorem move_item_law_front :
    let order : UserOrder := ⟨[⟨"u", ⟨.conversation, "a"⟩, 1⟩, ⟨"u", ⟨.conversation, "b"⟩, 2⟩,
      ⟨"u", ⟨.conversation, "c"⟩, 3⟩], by decide⟩
    LTS.EnabledAll CallLaw next order [.moveItem "u" ⟨.conversation, "b"⟩ none,
      .moveItem "u" ⟨.conversation, "b"⟩ (some ⟨.conversation, "a"⟩)] := by
  intro order
  have typed : order.Typed := by
    unfold Typed
    decide
  refine move_item_law typed ⟨⟨fun _ _ => ?_, fun _ anchor none => ?_, fun crowded => ?_⟩,
    ⟨fun _ none => ?_, fun _ anchor same left found _ => ?_, fun _ => ?_⟩, trivial⟩
  · decide
  · cases none
  · obtain ⟨_, anchor, none, _⟩ := crowded
    cases none
  · cases none
  · cases same
    cases found
    decide
  · rw [Spaceable, display, List.length_map, ofUser, List.length_mergeSort]
    decide

/-- The first row has the least key that there is, and another one is moved in front of it. -/
theorem move_item_wraps :
    let order : UserOrder :=
      ⟨[⟨"u", ⟨.conversation, "a"⟩, -2 ^ 63⟩, ⟨"u", ⟨.conversation, "b"⟩, 0⟩], by decide⟩
    order.Typed ∧ (order.moveItem "u" ⟨.conversation, "b"⟩ none).1 = .ok .moved ∧
      ¬ LTS.EnabledAll CallLaw next order [.moveItem "u" ⟨.conversation, "b"⟩ none] := by
  intro order
  have rows : (order.moveItem "u" ⟨.conversation, "b"⟩ none).2.rows =
      [⟨"u", ⟨.conversation, "a"⟩, -2 ^ 63⟩, ⟨"u", ⟨.conversation, "b"⟩, 2 ^ 63 - 1000⟩] := by
    decide
  have moved : (order.moveItem "u" ⟨.conversation, "b"⟩ none).1 = .ok .moved := by rfl
  refine ⟨by unfold Typed; decide, moved, ?_⟩
  rintro ⟨law, _⟩
  have shown := law.reinserted moved
  have sorted := ofUser_sorted (order.moveItem "u" ⟨.conversation, "b"⟩ none).2 "u"
  have first : (⟨"u", ⟨.conversation, "a"⟩, -2 ^ 63⟩ : UserOrderRow) ∈
      (order.moveItem "u" ⟨.conversation, "b"⟩ none).2.ofUser "u" := by
    rw [mem_ofUser, rows]
    exact ⟨List.mem_cons_self .., rfl⟩
  rw [display, reinsert] at shown
  cases listed : (order.moveItem "u" ⟨.conversation, "b"⟩ none).2.ofUser "u" with
  | nil =>
    rw [listed] at first
    cases first
  | cons row rest =>
    -- the row that is shown first would be the moved one, whose key has become the greatest
    have mem : row ∈ (order.moveItem "u" ⟨.conversation, "b"⟩ none).2.ofUser "u" := by
      rw [listed]
      exact List.mem_cons_self ..
    rw [listed, List.map_cons] at shown
    have item := (List.cons.inj shown).1
    rw [mem_ofUser, rows] at mem
    rw [listed] at first sorted
    rcases List.mem_cons.mp first with rfl | later
    · exact absurd item (by decide)
    · have le := key_le_of_position ((List.pairwise_cons.mp sorted).1 _ later)
      rcases List.mem_cons.mp mem.1 with rfl | mem
      · exact absurd item (by decide)
      · rw [List.mem_singleton.mp mem] at le
        exact absurd le (by decide)

end UserOrder

end KiCore.Sidebar

import KiCore.Lib.Decimal
import KiCore.Lib.Paging
import KiCore.Lib.Table
import KiCore.SessionMessage.Service

/-!
# Mention targets, page by page

Port of `targets.rs`. A page is filled by scanning the ranked rows past those that the hard filters drop,
with at most `maxScans` reads of the repository a request; its cursor counts the rows that were scanned. The
repository and the project service are the fields of `Outside`, and `teamId` is what
`team_id_from_extra_str` finds in the row.

A reader who follows the cursors is shown each row that passes the filters once and in order, as long as the
offsets of the rows fit a `u32`. In a table that is longer by a read the offset wraps before any read is
short, and no answer is the last one.
-/

namespace KiCore.SessionMessage

open KiCore.Lib
open Str (isWhitespace trim)

/-- Hard cap on a single page (`MAX_LIMIT`). -/
def maxLimit : Nat := 50

/-- `DEFAULT_LIMIT`. -/
def defaultLimit : Nat := 20

/-- Rows read beyond the requested page size per round trip (`SCAN_SLACK`). -/
def scanSlack : Nat := 10

/-- Round-trip ceiling for one request (`MAX_SCANS`). -/
def maxScans : Nat := 5

/-- The columns of a conversation that the list reads. -/
structure CandidateRow where
  id : String
  name : String
  projectId : Option String
  teamId : Option String
  updatedAt : Int

structure TargetCandidate where
  id : String
  name : String
  projectId : Option String
  modifiedAt : Int

structure SessionMentionTarget where
  id : String
  name : String
  project : Option String
  modifiedAt : Int

structure SessionMentionableQuery where
  q : Option String
  projectId : Option String
  limit : Option Nat
  cursor : Option String
  id : Option String

structure SessionMentionableResponse where
  items : List SessionMentionTarget
  nextCursor : Option String

structure MentionableCandidatesParams where
  projectId : Option String
  filterProjectId : Option String
  id : Option String
  nameQuery : Option String
  limit : Nat
  offset : Nat

/-- What the repository and the project service answer: the project of a conversation, the ranked
candidates, and the name of a project. -/
structure Outside where
  projectOf : String → String → Option String
  listMentionableCandidates : String → MentionableCandidatesParams → Except String (List CandidateRow)
  projectName : String → String → Option String

def nonBlank (value : Option String) : Option String :=
  (value.map trim).filter (· ≠ "")

def parseCursor (cursor : Option String) : Nat :=
  match nonBlank cursor with
  | none => 0
  | some raw =>
    match Decimal.parse 0 (2 ^ 32 - 1) raw with
    | .ok offset => offset.toNat
    | .error _ => 0

/-- The offset behind one more row; it is a `u32`. -/
def nextOffset (offset : Nat) : Nat :=
  (offset + 1) % 2 ^ 32

def CandidateRow.candidate (row : CandidateRow) : TargetCandidate :=
  { id := row.id, name := row.name, projectId := row.projectId, modifiedAt := row.updatedAt }

def scanRows (current : String) (limit : Nat) :
    List CandidateRow → Nat → List TargetCandidate → Nat × List TargetCandidate
  | [], offset, kept => (offset, kept)
  | row :: rows, offset, kept =>
    if row.id = current then scanRows current limit rows (nextOffset offset) kept
    else if row.teamId.isSome then scanRows current limit rows (nextOffset offset) kept
    else if (kept ++ [row.candidate]).length = limit then (nextOffset offset, kept ++ [row.candidate])
    else scanRows current limit rows (nextOffset offset) (kept ++ [row.candidate])

/-- What the reads of a request leave. -/
structure Scanned where
  offset : Nat
  kept : List TargetCandidate
  exhausted : Bool

/-- At most `scans` more reads. -/
def scan (read : Nat → Except String (List CandidateRow)) (current : String) (limit scanLimit : Nat) :
    Nat → Nat → List TargetCandidate → Except String Scanned
  | 0, offset, kept => .ok { offset := offset, kept := kept, exhausted := false }
  | scans + 1, offset, kept => do
    let rows ← read offset
    let scanned := rows.length % 2 ^ 32
    let after := scanRows current limit rows offset kept
    if after.2.length = limit then
      .ok { offset := after.1, kept := after.2, exhausted := false }
    -- a short read is the only proof the table ran out
    else if scanned < scanLimit then
      .ok { offset := after.1, kept := after.2, exhausted := true }
    else scan read current limit scanLimit scans after.1 after.2

namespace Outside

def resolveProjectNames (outside : Outside) (userId : String) (candidates : List TargetCandidate) :
    Table String String :=
  (candidates.filterMap (·.projectId)).foldl (fun names projectId =>
    if names.contains projectId then names
    else
      match outside.projectName userId projectId with
      | some name => names.insert projectId name
      | none => names) ∅

def limitOf (query : SessionMentionableQuery) : Nat :=
  max 1 (min maxLimit (query.limit.getD defaultLimit))

def params (outside : Outside) (userId currentConversationId : String) (query : SessionMentionableQuery)
    (limit offset : Nat) : MentionableCandidatesParams :=
  { projectId := outside.projectOf userId currentConversationId
    filterProjectId := nonBlank query.projectId
    id := nonBlank query.id
    nameQuery := nonBlank query.q
    limit := limit
    offset := offset }

/-- One ranked page of mentionable conversations. -/
def list (outside : Outside) (userId currentConversationId : String) (query : SessionMentionableQuery) :
    Except SessionMessageError SessionMentionableResponse :=
  let limit := limitOf query
  let scanLimit := limit + scanSlack
  let read := fun offset => outside.listMentionableCandidates userId
    (outside.params userId currentConversationId query scanLimit offset)
  match scan read currentConversationId limit scanLimit maxScans (parseCursor query.cursor) [] with
  | .error reason => .error (.transportUnavailable reason)
  | .ok scanned =>
    let projectNames := outside.resolveProjectNames userId scanned.kept
    .ok
      { items := scanned.kept.map fun candidate =>
          { project := candidate.projectId.bind fun projectId => projectNames[projectId]?
            id := candidate.id
            name := candidate.name
            modifiedAt := candidate.modifiedAt }
        nextCursor := if scanned.exhausted then none else some (toString scanned.offset) }

/-- The repository returns slices of a table that is ranked for the query. -/
def Ranked (outside : Outside) (userId currentConversationId : String) (query : SessionMentionableQuery)
    (table : List CandidateRow) : Prop :=
  ∀ limit offset, outside.listMentionableCandidates userId
    (outside.params userId currentConversationId query limit offset) = .ok ((table.drop offset).take limit)

/-- The `k`th request of a reader, with a page size of its own. -/
def request (outside : Outside) (userId currentConversationId : String) (query : SessionMentionableQuery)
    (limits : Nat → Option Nat) (k : Nat) (cursor : Option String) :
    Option (Paging.Page String SessionMentionTarget) :=
  match outside.list userId currentConversationId { query with limit := limits k, cursor := cursor } with
  | .ok response => some ⟨response.items, response.nextCursor⟩
  | .error _ => none

/-- The target that a row is shown as, if it passes the hard filters. -/
def target (outside : Outside) (userId currentConversationId : String) (row : CandidateRow) :
    Option SessionMentionTarget :=
  if row.id = currentConversationId ∨ row.teamId.isSome then none
  else some
    { id := row.id
      name := row.name
      project := row.projectId.bind (outside.projectName userId)
      modifiedAt := row.updatedAt }

/-- Whoever follows the cursors from the start gets to the end, and is shown the targets of the list. -/
def Complete (outside : Outside) (userId currentConversationId : String) (query : SessionMentionableQuery)
    (limits : Nat → Option Nat) (targets : List SessionMentionTarget) : Prop :=
  ∃ page rest, outside.request userId currentConversationId query limits 0 none = some page ∧
    Paging.Exhausts (fun k cursor =>
      outside.request userId currentConversationId query limits k (some cursor)) 1 page.next rest ∧
    page.items ++ rest = targets

variable {outside : Outside} {userId current : String} {query : SessionMentionableQuery}
  {table rows : List CandidateRow} {limits : Nat → Option Nat} {k offset limit scanLimit scans : Nat}
  {kept candidates : List TargetCandidate}

lemma isDigit_toString {n : Nat} {c : Char} (h : c ∈ (toString n).toList) : c.isDigit = true := by
  rw [Nat.toString_eq_repr, Nat.toList_repr] at h
  exact Nat.isDigit_of_mem_toDigits (by decide) (by decide) h

lemma isWhitespace_digit {c : Char} (digit : c.isDigit = true) : isWhitespace c = false := by
  simp only [Char.isDigit, Bool.and_eq_true, decide_eq_true_eq] at digit
  have low := UInt32.le_iff_toNat_le.mp digit.1
  have high := UInt32.le_iff_toNat_le.mp digit.2
  have value : c.toNat = c.val.toNat := rfl
  have zero : '0'.val.toNat = 48 := rfl
  have nine : '9'.val.toNat = 57 := rfl
  simp only [isWhitespace, Bool.or_eq_false_iff, Bool.and_eq_false_iff, decide_eq_false_iff_not,
    beq_eq_false_iff_ne]
  omega

lemma trim_toString (n : Nat) : trim (toString n) = toString n := by
  have digits : ∀ c ∈ (toString n).toList, isWhitespace c = false :=
    fun c h => isWhitespace_digit (isDigit_toString h)
  have keep : ∀ cs : List Char, (∀ c ∈ cs, isWhitespace c = false) → cs.dropWhile isWhitespace = cs := by
    intro cs none
    cases cs with
    | nil => rfl
    | cons c cs => exact List.dropWhile_cons_of_neg (by simp [none c (List.mem_cons_self ..)])
  rw [trim, Text.trim, keep _ digits, List.rdropWhile,
    keep _ fun c h => digits c (List.mem_reverse.mp h), List.reverse_reverse, String.ofList_toList]

lemma parseCursor_toString {n : Nat} (fits : n < 2 ^ 32) : parseCursor (some (toString n)) = n := by
  have read : Decimal.parse 0 (2 ^ 32 - 1) (toString (n : Int)) = .ok (n : Int) :=
    Decimal.parse_toString (by omega) (by omega)
  have shown : toString n ≠ "" := by
    intro empty
    have chars := congrArg String.toList empty
    rw [Nat.toString_eq_repr, Nat.toList_repr] at chars
    exact Nat.toDigits_ne_nil chars
  have there : nonBlank (some (toString n)) = some (toString n) := by
    unfold nonBlank
    rw [Option.map_some, trim_toString, Option.filter_some, if_pos (by simp)]
  unfold parseCursor
  rw [there]
  dsimp only
  rw [show toString n = toString (n : Int) from rfl, read]
  exact Int.toNat_natCast n

/-- The candidate that a row is kept as, if it passes the hard filters. -/
def keptOf (current : String) (row : CandidateRow) : Option TargetCandidate :=
  if row.id = current ∨ row.teamId.isSome then none else some row.candidate

/-- The rows of a read up to the one that fills the page, or all of them. -/
lemma scanRows_spec (current : String) (rows : List CandidateRow) (room : kept.length < limit)
    (fits : offset < 2 ^ 32) :
    ∃ taken rest, rows = taken ++ rest ∧
      scanRows current limit rows offset kept =
        ((offset + taken.length) % 2 ^ 32, kept ++ taken.filterMap (keptOf current)) ∧
      (taken = [] → rows = []) ∧
      ((kept ++ taken.filterMap (keptOf current)).length = limit ∨
        rest = [] ∧ (kept ++ taken.filterMap (keptOf current)).length < limit) := by
  induction rows generalizing offset kept with
  | nil =>
    refine ⟨[], [], rfl, ?_, fun _ => rfl, .inr ⟨rfl, ?_⟩⟩
    · rw [scanRows, List.length_nil, Nat.add_zero, Nat.mod_eq_of_lt fits, List.filterMap_nil,
        List.append_nil]
    · rw [List.filterMap_nil, List.append_nil]
      exact room
  | cons row rows ih =>
    have next (taken : List CandidateRow) :
        (nextOffset offset + taken.length) % 2 ^ 32 = (offset + (row :: taken).length) % 2 ^ 32 := by
      rw [nextOffset, Nat.mod_add_mod, List.length_cons]
      congr 1
      omega
    have small : nextOffset offset < 2 ^ 32 := Nat.mod_lt _ (by decide)
    by_cases hole : row.id = current ∨ row.teamId.isSome
    · have skipped : scanRows current limit (row :: rows) offset kept =
          scanRows current limit rows (nextOffset offset) kept := by
        rw [scanRows]
        split_ifs with self team
        · rfl
        · rfl
        · exact absurd hole (not_or.mpr ⟨self, team⟩)
        · exact absurd hole (not_or.mpr ⟨self, team⟩)
      have none : keptOf current row = none := if_pos hole
      obtain ⟨taken, rest, split, done, _, ends⟩ := ih room small
      refine ⟨row :: taken, rest, by rw [split, List.cons_append], ?_, by rintro ⟨⟩, ?_⟩
      · rw [skipped, done, next, List.filterMap_cons_none none]
      · rw [List.filterMap_cons_none none]
        exact ends
    · obtain ⟨self, team⟩ := not_or.mp hole
      have some : keptOf current row = some row.candidate := if_neg hole
      have more (taken : List CandidateRow) : kept ++ (row :: taken).filterMap (keptOf current) =
          (kept ++ [row.candidate]) ++ taken.filterMap (keptOf current) := by
        rw [List.filterMap_cons_some some, List.append_assoc, List.singleton_append]
      by_cases full : (kept ++ [row.candidate]).length = limit
      · refine ⟨[row], rows, rfl, ?_, by rintro ⟨⟩, .inl ?_⟩
        · rw [scanRows, if_neg self, if_neg team, if_pos full, more, ← next, List.length_nil, Nat.add_zero,
            Nat.mod_eq_of_lt small, List.filterMap_nil, List.append_nil]
        · rw [more, List.filterMap_nil, List.append_nil]
          exact full
      · have room' : (kept ++ [row.candidate]).length < limit := by
          rw [List.length_append, List.length_singleton] at full ⊢
          omega
        obtain ⟨taken, rest, split, done, _, ends⟩ := ih room' small
        refine ⟨row :: taken, rest, by rw [split, List.cons_append], ?_, by rintro ⟨⟩, ?_⟩
        · rw [scanRows, if_neg self, if_neg team, if_neg full, done, next, more]
        · rw [more]
          exact ends

variable {read : Nat → Except String (List CandidateRow)}

/-- In a table whose offsets fit, the reads of a request take a stretch of it, which goes to the end of the
table if they were exhausted. -/
lemma scan_spec (current : String) (scans : Nat)
    (slices : ∀ offset, read offset = .ok ((table.drop offset).take scanLimit))
    (small : table.length < 2 ^ 32) (pos : 0 < scanLimit) (fits : scanLimit < 2 ^ 32)
    (room : kept.length < limit) (le : offset ≤ table.length) :
    ∃ taken rest exhausted, table.drop offset = taken ++ rest ∧
      scan read current limit scanLimit scans offset kept =
        .ok ⟨offset + taken.length, kept ++ taken.filterMap (keptOf current), exhausted⟩ ∧
      (exhausted = true → rest = []) ∧ (exhausted = false → scans ≠ 0 → taken ≠ []) := by
  induction scans generalizing offset kept with
  | zero =>
    refine ⟨[], table.drop offset, false, rfl, ?_, by rintro ⟨⟩, fun _ no => absurd rfl no⟩
    rw [scan, List.length_nil, Nat.add_zero, List.filterMap_nil, List.append_nil]
  | succ scans ih =>
    obtain ⟨taken, rest, split, done, progress, ends⟩ :=
      scanRows_spec current ((table.drop offset).take scanLimit) room (show offset < 2 ^ 32 by omega)
    have whole : table.drop offset = taken ++ (rest ++ (table.drop offset).drop scanLimit) := by
      rw [← List.append_assoc, ← split, List.take_append_drop]
    have bound : offset + taken.length ≤ table.length := by
      have lengths := congrArg List.length whole
      rw [List.length_append, List.length_drop] at lengths
      omega
    rw [Nat.mod_eq_of_lt (by omega)] at done
    have len : ((table.drop offset).take scanLimit).length % 2 ^ 32 =
        ((table.drop offset).take scanLimit).length := by
      apply Nat.mod_eq_of_lt
      rw [List.length_take]
      omega
    rw [scan, slices]
    dsimp only [bind, Except.bind]
    rw [done, len]
    dsimp only
    by_cases full : (kept ++ taken.filterMap (keptOf current)).length = limit
    · refine ⟨taken, rest ++ (table.drop offset).drop scanLimit, false, whole, if_pos full, ?_, ?_⟩
      · rintro ⟨⟩
      · rintro - - rfl
        rw [List.filterMap_nil, List.append_nil] at full
        omega
    · obtain ⟨rfl, room'⟩ := ends.resolve_left full
      rw [List.append_nil] at split
      rw [if_neg full]
      by_cases short : ((table.drop offset).take scanLimit).length < scanLimit
      · refine ⟨taken, (table.drop offset).drop scanLimit, true, whole, if_pos short, ?_, by rintro ⟨⟩⟩
        rintro -
        rw [List.length_take] at short
        exact List.drop_eq_nil_of_le (by omega)
      · obtain ⟨taken', rest', exhausted, split', done', ends', _⟩ := ih room' bound
        have behind : table.drop (offset + taken.length) = (table.drop offset).drop scanLimit := by
          rw [List.nil_append] at whole
          rw [← List.drop_drop]
          conv_lhs => rw [whole]
          exact List.drop_left
        refine ⟨taken ++ taken', rest', exhausted, ?_, ?_, ends', ?_⟩
        · rw [whole, List.nil_append, ← behind, split', List.append_assoc]
        · rw [if_neg short, done', List.length_append, List.filterMap_append, List.append_assoc,
            Nat.add_assoc]
        · rintro - - none
          rw [List.append_eq_nil_iff.mp none |>.1] at split
          rw [split, List.length_nil] at short
          omega

lemma scan_long (current : String) (scans : Nat)
    (slices : ∀ offset, read offset = .ok ((table.drop offset).take scanLimit))
    (long : 2 ^ 32 + scanLimit ≤ table.length) (fits : scanLimit < 2 ^ 32)
    (room : kept.length < limit) (small : offset < 2 ^ 32) :
    ∃ scanned, scan read current limit scanLimit scans offset kept = .ok scanned ∧
      scanned.exhausted = false ∧ scanned.offset < 2 ^ 32 := by
  induction scans generalizing offset kept with
  | zero => exact ⟨_, rfl, rfl, small⟩
  | succ scans ih =>
    obtain ⟨taken, rest, split, done, _, ends⟩ :=
      scanRows_spec current ((table.drop offset).take scanLimit) room small
    have len : ((table.drop offset).take scanLimit).length = scanLimit := by
      rw [List.length_take, List.length_drop]
      omega
    have wraps : (offset + taken.length) % 2 ^ 32 < 2 ^ 32 := Nat.mod_lt _ (by decide)
    rw [scan, slices]
    dsimp only [bind, Except.bind]
    rw [done, len, Nat.mod_eq_of_lt fits]
    dsimp only
    by_cases full : (kept ++ taken.filterMap (keptOf current)).length = limit
    · exact ⟨_, if_pos full, rfl, wraps⟩
    · rw [if_neg full, if_neg (Nat.lt_irrefl _)]
      exact ih (ends.resolve_left full).2 wraps

/-- The names are those of the projects of the page. -/
lemma get_resolveProjectNames {projectId : String} :
    (outside.resolveProjectNames userId candidates)[projectId]? =
      if projectId ∈ candidates.filterMap (·.projectId) then outside.projectName userId projectId
      else none := by
  -- the names that are there come first, so that the fold can start from any table
  have fold : ∀ (ids : List String) (names : Table String String),
      (ids.foldl (fun names projectId =>
        if names.contains projectId then names
        else
          match outside.projectName userId projectId with
          | some name => names.insert projectId name
          | none => names) names)[projectId]? =
        names[projectId]?.or (if projectId ∈ ids then outside.projectName userId projectId else none) := by
    intro ids
    induction ids with
    | nil =>
      intro names
      rw [List.foldl_nil, if_neg List.not_mem_nil, Option.or_none]
    | cons id ids ih =>
      intro names
      rw [List.foldl_cons, ih]
      by_cases own : id = projectId
      · subst own
        rw [if_pos (List.mem_cons_self ..)]
        by_cases known : names.contains id = true
        · obtain ⟨name, there⟩ := Option.isSome_iff_exists.mp
            ((Std.TreeMap.contains_eq_isSome_getElem? (t := names) (a := id)).symm.trans known)
          rw [if_pos known, there]
          rfl
        · have unknown : names[id]? = none := by
            rw [Std.TreeMap.contains_eq_isSome_getElem?] at known
            exact Option.not_isSome_iff_eq_none.mp known
          rw [if_neg known, unknown]
          cases named : outside.projectName userId id with
          | none => simp [unknown]
          | some name => simp
      · have other : projectId ∈ id :: ids ↔ projectId ∈ ids := by
          rw [List.mem_cons]
          exact or_iff_right (Ne.symm own)
        simp only [other]
        congr 1
        split_ifs
        · rfl
        · cases outside.projectName userId id with
          | none => rfl
          | some name => exact (Table.get_insert ..).trans (if_neg own)
  unfold resolveProjectNames
  rw [fold, Table.get_empty, Option.none_or]

lemma items_eq (taken : List CandidateRow) :
    ((taken.filterMap (keptOf current)).map fun candidate =>
      ({ project := candidate.projectId.bind fun projectId =>
          (outside.resolveProjectNames userId (taken.filterMap (keptOf current)))[projectId]?
         id := candidate.id
         name := candidate.name
         modifiedAt := candidate.modifiedAt } : SessionMentionTarget)) =
      taken.filterMap (outside.target userId current) := by
  have named : ∀ candidate ∈ taken.filterMap (keptOf current),
      (candidate.projectId.bind fun projectId =>
        (outside.resolveProjectNames userId (taken.filterMap (keptOf current)))[projectId]?) =
        candidate.projectId.bind (outside.projectName userId) := by
    intro candidate there
    cases project : candidate.projectId with
    | none => rfl
    | some projectId =>
      rw [Option.bind_some, Option.bind_some, get_resolveProjectNames, if_pos]
      exact List.mem_filterMap.mpr ⟨candidate, there, project⟩
  rw [List.map_congr_left fun candidate there => by rw [named candidate there], List.map_filterMap]
  congr 1
  funext row
  unfold keptOf target
  split_ifs
  · rfl
  · rfl

lemma limitOf_bounds (query : SessionMentionableQuery) : 0 < limitOf query ∧ limitOf query ≤ maxLimit := by
  unfold limitOf maxLimit
  omega

/-- The query of the `k`th request of a reader. -/
def queryAt (query : SessionMentionableQuery) (limits : Nat → Option Nat) (k : Nat)
    (cursor : Option String) : SessionMentionableQuery :=
  { query with limit := limits k, cursor := cursor }

lemma Ranked.at (ranked : outside.Ranked userId current query table) (limits : Nat → Option Nat) (k : Nat)
    (cursor : Option String) (offset : Nat) :
    outside.listMentionableCandidates userId (outside.params userId current (queryAt query limits k cursor)
      (limitOf (queryAt query limits k cursor) + scanSlack) offset) =
      .ok ((table.drop offset).take (limitOf (queryAt query limits k cursor) + scanSlack)) :=
  ranked _ offset

lemma list_of_scan {q : SessionMentionableQuery} {scanned : Scanned}
    (done : scan (fun offset => outside.listMentionableCandidates userId
        (outside.params userId current q (limitOf q + scanSlack) offset))
      current (limitOf q) (limitOf q + scanSlack) maxScans (parseCursor q.cursor) [] = .ok scanned) :
    outside.list userId current q = .ok
      { items := scanned.kept.map fun candidate =>
          { project := candidate.projectId.bind fun projectId =>
              (outside.resolveProjectNames userId scanned.kept)[projectId]?
            id := candidate.id
            name := candidate.name
            modifiedAt := candidate.modifiedAt }
        nextCursor := if scanned.exhausted then none else some (toString scanned.offset) } := by
  unfold list
  dsimp only
  rw [done]

lemma request_of_list {cursor : Option String} {response : SessionMentionableResponse}
    (answer : outside.list userId current (queryAt query limits k cursor) = .ok response) :
    outside.request userId current query limits k cursor = some ⟨response.items, response.nextCursor⟩ := by
  unfold request
  rw [show outside.list userId current { query with limit := limits k, cursor := cursor } = _ from answer]

section

variable (ranked : outside.Ranked userId current query table)
include ranked

lemma request_spec (small : table.length < 2 ^ 32)
    (limits : Nat → Option Nat) (k : Nat) {cursor : Option String}
    (le : parseCursor cursor ≤ table.length) :
    ∃ taken rest next, table.drop (parseCursor cursor) = taken ++ rest ∧
      outside.request userId current query limits k cursor =
        some ⟨taken.filterMap (outside.target userId current), next⟩ ∧
      (next = none ∧ rest = [] ∨
        next = some (toString (parseCursor cursor + taken.length)) ∧ taken ≠ []) := by
  obtain ⟨pos, bound⟩ := limitOf_bounds (queryAt query limits k cursor)
  unfold maxLimit at bound
  obtain ⟨taken, rest, exhausted, split, done, ends, progress⟩ := scan_spec current maxScans
    (ranked.at limits k cursor) small
    (by unfold scanSlack; omega) (by unfold scanSlack; omega)
    (show ([] : List TargetCandidate).length < limitOf (queryAt query limits k cursor) from pos) le
  refine ⟨taken, rest, if exhausted then none else some (toString (parseCursor cursor + taken.length)),
    split, ?_, ?_⟩
  · rw [request_of_list (list_of_scan done), List.nil_append, items_eq]
  · cases exhausted with
    | true => exact .inl ⟨rfl, ends rfl⟩
    | false => exact .inr ⟨rfl, progress rfl (by decide)⟩

lemma request_long
    (long : 2 ^ 32 + (maxLimit + scanSlack) ≤ table.length) (limits : Nat → Option Nat) (k : Nat)
    {cursor : Option String} (fits : parseCursor cursor < 2 ^ 32) :
    ∃ items next, outside.request userId current query limits k cursor =
      some ⟨items, some (toString next)⟩ ∧ next < 2 ^ 32 := by
  obtain ⟨pos, bound⟩ := limitOf_bounds (queryAt query limits k cursor)
  unfold maxLimit at bound long
  unfold scanSlack at long
  obtain ⟨scanned, done, more, small⟩ := scan_long current maxScans
    (ranked.at limits k cursor)
    (by unfold scanSlack; omega) (by unfold scanSlack; omega)
    (show ([] : List TargetCandidate).length < limitOf (queryAt query limits k cursor) from pos) fits
  have answer : outside.request userId current query limits k cursor = some _ :=
    request_of_list (list_of_scan done)
  rw [more] at answer
  exact ⟨_, scanned.offset, answer, small⟩

lemma exhausts_from (small : table.length < 2 ^ 32) (le : offset ≤ table.length) :
    Paging.Exhausts (fun k cursor => outside.request userId current query limits k (some cursor)) k
      (some (toString offset)) ((table.drop offset).filterMap (outside.target userId current)) := by
  -- every page takes a row, or is the last one
  induction left : table.length - offset using Nat.strong_induction_on generalizing offset k with
  | _ left ih =>
    subst left
    have here := parseCursor_toString (show offset < 2 ^ 32 by omega)
    obtain ⟨taken, rest, next, split, answer, ends⟩ :=
      request_spec ranked small limits k (here.le.trans le)
    rw [here] at split ends
    have lengths := congrArg List.length split
    rw [List.length_append, List.length_drop] at lengths
    rw [split, List.filterMap_append]
    change Paging.Exhausts _ _ _ ((⟨_, next⟩ : Paging.Page String SessionMentionTarget).items ++ _)
    refine .more answer ?_
    obtain ⟨rfl, rfl⟩ | ⟨rfl, progress⟩ := ends
    · exact .done
    · have pos := List.length_pos_iff.mpr progress
      have behind : table.drop (offset + taken.length) = rest := by
        rw [← List.drop_drop, split]
        exact List.drop_left
      rw [← behind]
      exact ih _ (by omega) (by omega) rfl

lemma not_exhausts (long : 2 ^ 32 + (maxLimit + scanSlack) ≤ table.length) {next : Option String}
    (more : ∃ offset, next = some (toString offset) ∧ offset < 2 ^ 32) {shown : List SessionMentionTarget} :
    ¬ Paging.Exhausts (fun k cursor => outside.request userId current query limits k (some cursor)) k
      next shown := by
  intro read
  induction read with
  | done =>
    obtain ⟨offset, gone, _⟩ := more
    cases gone
  | more answer _ ih =>
    obtain ⟨offset, here, fits⟩ := more
    obtain rfl := Option.some.inj here
    obtain ⟨items, next, answer', fits'⟩ := request_long ranked long limits _
      ((parseCursor_toString fits).trans_lt fits)
    rw [answer'] at answer
    obtain rfl := Option.some.inj answer
    exact ih ⟨next, rfl, fits'⟩

lemma complete_of_lt (small : table.length < 2 ^ 32) :
    outside.Complete userId current query limits (table.filterMap (outside.target userId current)) := by
  have start : parseCursor none = 0 := rfl
  obtain ⟨taken, rest, next, split, answer, ends⟩ :=
    request_spec ranked small limits 0 (start.trans_le (Nat.zero_le _))
  rw [start, List.drop_zero] at split
  refine ⟨_, rest.filterMap (outside.target userId current), answer, ?_, ?_⟩
  · obtain ⟨rfl, rfl⟩ | ⟨rfl, progress⟩ := ends
    · exact .done
    · have behind : table.drop taken.length = rest := by
        rw [split]
        exact List.drop_left
      have le := congrArg List.length split
      rw [List.length_append] at le
      rw [← behind, start, Nat.zero_add]
      exact exhausts_from ranked small (by omega)
  · rw [split, List.filterMap_append]

lemma not_complete_of_le
    (long : 2 ^ 32 + (maxLimit + scanSlack) ≤ table.length) {targets : List SessionMentionTarget} :
    ¬ outside.Complete userId current query limits targets := by
  rintro ⟨page, rest, first, read, _⟩
  obtain ⟨items, next, answer, fits⟩ :=
    request_long ranked long limits 0 (show parseCursor none < 2 ^ 32 by decide)
  rw [answer] at first
  obtain rfl := Option.some.inj first
  exact not_exhausts ranked long ⟨next, rfl, fits⟩ read

end

/-- Whoever follows the cursors gets to the end and is shown every eligible row once and in order, if the
offsets of the rows fit a `u32`; in a table that is longer than that by a read, nobody gets to the end. -/
theorem list_targets_complete (ranked : outside.Ranked userId current query table) :
    (table.length < 2 ^ 32 → outside.Complete userId current query limits
      (table.filterMap (outside.target userId current))) ∧
    (2 ^ 32 + (maxLimit + scanSlack) ≤ table.length →
      ∀ targets, ¬ outside.Complete userId current query limits targets) :=
  ⟨complete_of_lt ranked, fun long _ => not_complete_of_le ranked long⟩

def ofTable (table : List CandidateRow) : Outside :=
  { projectOf := fun _ _ => none
    listMentionableCandidates := fun _ params => .ok ((table.drop params.offset).take params.limit)
    projectName := fun _ _ => none }

/-- A table whose second row is the conversation of the picker, and whose third row is owned by a team. -/
theorem list_targets_holes :
    let table : List CandidateRow := [⟨"a", "A", none, none, 3⟩, ⟨"me", "M", none, none, 2⟩,
      ⟨"t", "T", none, some "team", 1⟩, ⟨"b", "B", none, none, 0⟩]
    (ofTable table).Complete "user" "me" ⟨none, none, none, none, none⟩ (fun _ => some 1)
      [⟨"a", "A", none, 3⟩, ⟨"b", "B", none, 0⟩] := by
  intro table
  have ranked : (ofTable table).Ranked "user" "me" ⟨none, none, none, none, none⟩ table := fun _ _ => rfl
  exact (list_targets_complete ranked).1 (by decide)

/-- In a table of `2 ^ 32 + 60` rows, nobody gets to the end. -/
theorem list_targets_endless :
    ¬ (ofTable (List.replicate (2 ^ 32 + 60) ⟨"a", "A", none, none, 0⟩)).Complete "user" "me"
      ⟨none, none, none, none, none⟩ (fun _ => none)
      ((List.replicate (2 ^ 32 + 60) (⟨"a", "A", none, none, 0⟩ : CandidateRow)).filterMap
        ((ofTable (List.replicate (2 ^ 32 + 60) ⟨"a", "A", none, none, 0⟩)).target "user" "me")) :=
  not_complete_of_le (fun _ _ => rfl) (by rw [List.length_replicate, maxLimit, scanSlack])

end Outside

end KiCore.SessionMessage

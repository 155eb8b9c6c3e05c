import KiCore.Messages.StreamPersistence
import Mathlib

/-!
# Tool rows converge

The row of a tool call has its status twice, in a column and in its content. Frames of the kind of
the row keep the two together (`merge_same`), and frames of the other kind set the column only
(`merge_other`).
-/

namespace KiCore.Messages

open KiCore.Lib

variable {old new row : MessageRow} {key k : String} {value : Option Json}
  {members patch : List (String × Json)}

lemma lookup_append (l l' : List (String × Json)) :
    Json.lookup k (l ++ l') = (Json.lookup k l).or (Json.lookup k l') := by
  rw [Json.lookup, Keyed.lookup_append, Json.lookup, Json.lookup]
  cases Keyed.lookup Prod.fst k l <;> rfl

lemma lookup_member : Json.lookup k (member key value) = if key = k then value else none := by
  cases value with
  | none => simp [member]
  | some value => exact (Json.lookup_cons (key, value)).trans (by simp)

lemma keys_member (key : String) (value : Option Json) :
    ((member key value).map Prod.fst).Sublist [key] := by
  cases value with
  | none => exact List.nil_sublist _
  | some value => exact List.Sublist.refl _

lemma normalizeMembers_cons {value : Json} : normalizeMembers ((key, value) :: members) =
    if (Json.lookup (normalizeKey key) (normalizeMembers members)).isSome then normalizeMembers members
    else (normalizeKey key, if key = "_meta" then value else normalizeKeysToSnakeCase value) ::
      normalizeMembers members :=
  rfl

lemma nodup_normalizeMembers (members : List (String × Json)) :
    ((normalizeMembers members).map Prod.fst).Nodup := by
  induction members with
  | nil => exact List.nodup_nil
  | cons entry members ih =>
    obtain ⟨key, value⟩ := entry
    rw [normalizeMembers_cons]
    by_cases taken : (Json.lookup (normalizeKey key) (normalizeMembers members)).isSome = true
    · rw [if_pos taken]
      exact ih
    · rw [if_neg taken, List.map_cons, List.nodup_cons]
      refine ⟨fun mem => taken ?_, ih⟩
      obtain ⟨entry, mem, same⟩ := List.mem_map.mp mem
      rw [Json.lookup, Option.isSome_map]
      exact List.find?_isSome.mpr ⟨entry, mem, decide_eq_true same⟩

lemma lookup_normalizeMembers (nodup : (members.map Prod.fst).Nodup)
    (own : ∀ key ∈ members.map Prod.fst, normalizeKey key = k → key = k) (fixed : normalizeKey k = k)
    (plain : k ≠ "_meta") :
    Json.lookup k (normalizeMembers members) =
      (Json.lookup k members).map normalizeKeysToSnakeCase := by
  induction members with
  | nil => rfl
  | cons entry members ih =>
    obtain ⟨key, value⟩ := entry
    rw [List.map_cons, List.nodup_cons] at nodup
    have ih := ih nodup.2 fun key mem => own key (List.mem_cons_of_mem _ mem)
    rw [normalizeMembers_cons, Json.lookup_cons]
    dsimp only
    by_cases same : key = k
    · subst same
      have absent : Json.lookup key members = none := by
        rw [Json.lookup, Option.map_eq_none_iff, Keyed.lookup_eq_none]
        exact fun entry mem same => nodup.1 (List.mem_map.mpr ⟨entry, mem, same⟩)
      rw [fixed, ih, absent, if_neg (by simp), Json.lookup_cons, if_pos rfl, if_pos rfl, if_neg plain]
      rfl
    · have other : normalizeKey key ≠ k := fun e => same (own key List.mem_cons_self e)
      rw [if_neg same, ← ih]
      by_cases taken : (Json.lookup (normalizeKey key) (normalizeMembers members)).isSome = true
      · rw [if_pos taken]
      · rw [if_neg taken, Json.lookup_cons, if_neg other]

lemma snakeFrom_snakeFrom (p prev : Option Char) (cs : List Char) :
    snakeFrom p (snakeFrom prev cs) = snakeFrom prev cs := by
  induction prev, cs using snakeFrom.induct generalizing p with
  | case1 => rfl
  | case2 prev c rest upper ih =>
    rw [snakeFrom, if_pos upper]
    dsimp only
    split <;> simp [snakeFrom, Char.isUpper_toLower_eq_false, ih]
  | case3 prev c rest lower ih => rw [snakeFrom, if_neg lower, snakeFrom, if_neg lower, ih]

lemma normalizeKey_normalizeKey (key : String) : normalizeKey (normalizeKey key) = normalizeKey key := by
  by_cases kept : key = "_meta"
  · rw [kept]
    rfl
  · rw [show normalizeKey key = camelToSnake key from if_neg kept, normalizeKey, ite_eq_left_iff]
    intro _
    rw [camelToSnake, camelToSnake, String.toList_ofList, snakeFrom_snakeFrom]

theorem normalize_settles (value : Json) :
    normalizeKeysToSnakeCase (normalizeKeysToSnakeCase value) = normalizeKeysToSnakeCase value := by
  refine normalizeKeysToSnakeCase.induct
    (fun value => normalizeKeysToSnakeCase (normalizeKeysToSnakeCase value) =
      normalizeKeysToSnakeCase value)
    (fun items => normalizeItems (normalizeItems items) = normalizeItems items)
    (fun members => normalizeMembers (normalizeMembers members) = normalizeMembers members)
    (fun members ih => congrArg Json.obj ih) (fun items ih => congrArg Json.arr ih)
    (fun value obj arr => ?_) rfl (fun item items ih below => congrArg₂ List.cons ih below) rfl
    ?_ ?_ value
  · rw [normalizeKeysToSnakeCase.eq_3 value obj arr, normalizeKeysToSnakeCase.eq_3 value obj arr]
  · intro key value members rest taken _ below
    rw [normalizeMembers_cons, if_pos taken, below]
  · intro key value members rest free ih below
    rw [normalizeMembers_cons, if_neg free, normalizeMembers_cons, below, normalizeKey_normalizeKey,
      if_neg free]
    -- A key that becomes `_meta`, such as `_Meta`, has its value passed over from then on.
    by_cases passed : normalizeKey key = "_meta"
    · rw [if_pos passed]
    · have moved : key ≠ "_meta" := by
        rintro rfl
        exact passed (if_pos rfl)
      rw [if_neg passed, if_neg moved, ih]

def MessageRow.embedded (row : MessageRow) : Option Json :=
  row.content.getPath (statusPath row.type)

def column (type : String) (embedded : Option Json) : Option String :=
  if type = "acp_tool_call" then
    match embedded with
    | none | some (.str "pending") | some (.str "in_progress") => some "work"
    | some (.str "completed") => some "finish"
    | some (.str "failed") => some "error"
    | _ => none
  else
    match embedded with
    | some (.str "running") => some "work"
    | some (.str "completed") | some (.str "canceled") => some "finish"
    | some (.str "error") => some "error"
    | _ => none

/-- The column says what the content says. -/
def MessageRow.Agrees (row : MessageRow) : Prop :=
  column row.type row.embedded = row.status

instance : Decidable row.Agrees :=
  inferInstanceAs (Decidable (_ = _))

/-- What a frame of either kind writes: an object with the status of its kind, if it has one, and
without the status of the other kind. -/
structure FrameRow (row : MessageRow) : Prop where
  kind : row.type = "tool_call" ∨ row.type = "acp_tool_call"
  agrees : row.Agrees
  object : ∃ patch, row.content = .obj patch ∧ (patch.map Prod.fst).Nodup ∧
    (row.type = "tool_call" → Json.lookup "update" patch = none ∧
      ∃ s, Json.lookup "status" patch = some (.str s)) ∧
    (row.type = "acp_tool_call" → Json.lookup "status" patch = none ∧
      ∃ update, Json.lookup "update" patch = some (.obj update) ∧ (update.map Prod.fst).Nodup ∧
        ∀ v, Json.lookup "status" update = some v → ∃ s, v = .str s)

lemma statusPath_acp : statusPath "acp_tool_call" = ["update", "status"] :=
  if_pos rfl

lemma statusPath_tool : statusPath "tool_call" = ["status"] :=
  if_neg (by decide)

lemma getPath_one (doc : Json) : doc.getPath [k] = doc.get k := by
  rw [Json.getPath]
  cases doc.get k <;> rfl

lemma getPath_two (doc : Json) : doc.getPath [key, k] = (doc.get key).bind fun below => below.get k := by
  rw [Json.getPath]
  exact congrArg _ (funext fun below => getPath_one below)

namespace StreamPersistenceAdapter

variable (adapter : StreamPersistenceAdapter) (now : Int)

lemma frameRow_tool (data : ToolCallEventData) : FrameRow (adapter.toolCallRow now data) := by
  have status : Json.lookup "status" data.toJson.members = some (.str data.status.asStr) := by
    simp [ToolCallEventData.toJson, Json.members, lookup_append, lookup_member]
  have update : Json.lookup "update" data.toJson.members = none := by
    simp [ToolCallEventData.toJson, Json.members, lookup_append, lookup_member]
  have nodup : (data.toJson.members.map Prod.fst).Nodup := by
    have keys : (data.toJson.members.map Prod.fst).Sublist
        (["call_id"] ++ ["name"] ++ ["args"] ++ ["status"] ++ ["input"] ++ ["output"] ++
          ["description"] ++ ["parent_call_id"]) := by
      simp only [ToolCallEventData.toJson, Json.members, List.map_append]
      repeat' apply List.Sublist.append
      all_goals exact keys_member _ _
    exact keys.nodup (by decide)
  refine ⟨.inl rfl, ?_, _, rfl, nodup, fun _ => ⟨update, _, status⟩,
    fun h => absurd h (by decide : ¬ ("tool_call" = "acp_tool_call"))⟩
  have embedded : (adapter.toolCallRow now data).embedded = some (.str data.status.asStr) := by
    change data.toJson.getPath (statusPath "tool_call") = _
    rw [statusPath_tool, getPath_one]
    exact status
  unfold MessageRow.Agrees
  rw [embedded]
  unfold toolCallRow
  dsimp only
  cases data.status <;> rfl

lemma normalizeKey_update : ∀ key ∈ ["content", "kind", "locations", "rawInput", "rawOutput",
    "sessionUpdate", "status", "title", "tool_call_id"], normalizeKey key = "status" → key = "status" := by
  decide

lemma normalizeKey_event : ∀ key ∈ ["_meta", "session_id", "update"],
    normalizeKey key ≠ "status" ∧ (normalizeKey key = "update" → key = "update") := by
  decide

lemma update_spec (update : AcpToolCallUpdateData) :
    Json.lookup "status" (normalizeMembers update.toJson.members) =
      update.status.map fun status => .str status.asStr := by
  have status : Json.lookup "status" update.toJson.members =
      update.status.map fun status => .str status.asStr := by
    simp [AcpToolCallUpdateData.toJson, Json.members, lookup_append, lookup_member]
  have keys : (update.toJson.members.map Prod.fst).Sublist
      (["content"] ++ ["kind"] ++ ["locations"] ++ ["rawInput"] ++ ["rawOutput"] ++ ["sessionUpdate"] ++
        ["status"] ++ ["title"] ++ ["tool_call_id"]) := by
    simp only [AcpToolCallUpdateData.toJson, Json.members, List.map_append]
    repeat' apply List.Sublist.append
    all_goals exact keys_member _ _
  rw [lookup_normalizeMembers (keys.nodup (by decide))
    (fun key mem => normalizeKey_update key (keys.subset mem)) (by decide) (by decide), status,
    Option.map_map]
  rfl

lemma frameRow_acp (data : AcpToolCallEventData) : FrameRow (adapter.acpToolCallRow now data) := by
  have keys : (data.toJson.members.map Prod.fst).Sublist (["_meta"] ++ ["session_id"] ++ ["update"]) := by
    simp only [AcpToolCallEventData.toJson, Json.members, List.map_append]
    repeat' apply List.Sublist.append
    all_goals exact keys_member _ _
  have status : Json.lookup "status" (normalizeMembers data.toJson.members) = none := by
    rw [lookup_normalizeMembers (keys.nodup (by decide))
      (fun key mem e => absurd e (normalizeKey_event key (keys.subset mem)).1) (by decide) (by decide)]
    simp [AcpToolCallEventData.toJson, Json.members, lookup_append, lookup_member]
  have update : Json.lookup "update" (normalizeMembers data.toJson.members) =
      some (.obj (normalizeMembers data.update.toJson.members)) := by
    rw [lookup_normalizeMembers (keys.nodup (by decide))
      (fun key mem => (normalizeKey_event key (keys.subset mem)).2) (by decide) (by decide)]
    simp [AcpToolCallEventData.toJson, Json.members, lookup_append, lookup_member]
    rfl
  refine ⟨.inr rfl, ?_, _, rfl, nodup_normalizeMembers _,
    fun h => absurd h (by decide : ¬ ("acp_tool_call" = "tool_call")),
    fun _ => ⟨status, _, update, nodup_normalizeMembers _, fun v found => ?_⟩⟩
  · have embedded : (adapter.acpToolCallRow now data).embedded =
        data.update.status.map fun status => .str status.asStr := by
      change (Json.obj (normalizeMembers data.toJson.members)).getPath (statusPath "acp_tool_call") = _
      rw [statusPath_acp, getPath_two, Json.get_obj, update, Option.bind_some, Json.get_obj, update_spec]
    unfold MessageRow.Agrees
    rw [embedded]
    unfold acpToolCallRow
    dsimp only
    cases data.update.status with
    | none => rfl
    | some status => cases status <;> rfl
  · rw [update_spec, Option.map_eq_some_iff] at found
    obtain ⟨status, -, rfl⟩ := found
    exact ⟨_, rfl⟩

end StreamPersistenceAdapter

lemma get_setPath_one (value : Json) (members : List (String × Json)) :
    (Json.setPath value [k] (.obj members)).getPath [k] = some value := by
  rw [getPath_one]
  exact Json.lookup_insert.trans (if_pos rfl)

lemma get_setPath_two (value : Json) {below : List (String × Json)}
    (there : Json.lookup key members = some (.obj below)) :
    (Json.setPath value [key, k] (.obj members)).getPath [key, k] = some value := by
  rw [getPath_two]
  have step : (Json.setPath value [key, k] (.obj members)).get key =
      some (Json.setPath value [k] (.obj below)) := by
    refine (Json.lookup_insert.trans (if_pos rfl)).trans ?_
    rw [there]
    rfl
  rw [step, Option.bind_some, ← getPath_one, get_setPath_one]

lemma MessageRow.Agrees.str (agrees : old.Agrees) (settled : old.Settled) :
    ∃ s, old.embedded = some (.str s) := by
  unfold MessageRow.Agrees at agrees
  unfold MessageRow.Settled at settled
  rw [← agrees] at settled
  cases embedded : old.embedded with
  | none =>
    rw [embedded] at settled
    unfold column at settled
    split_ifs at settled <;> simp at settled
  | some value =>
    rw [embedded] at settled
    cases value with
    | str s => exact ⟨s, rfl⟩
    | _ =>
      unfold column at settled
      split_ifs at settled <;> simp at settled

/-- A late frame comes after the end of a call, and says that it is at work. -/
def Late (old new : MessageRow) : Prop :=
  old.Settled ∧ new.status = some "work"

instance : Decidable (Late old new) :=
  inferInstanceAs (Decidable (_ ∧ _))

lemma merge_status : (old.merge new).status = if Late old new then old.status else new.status := rfl

lemma embedded_tool (type : row.type = "tool_call") : row.embedded = row.content.get "status" := by
  unfold MessageRow.embedded
  rw [type, statusPath_tool, getPath_one]

lemma embedded_acp (type : row.type = "acp_tool_call") :
    row.embedded = (row.content.get "update").bind fun update => update.get "status" := by
  unfold MessageRow.embedded
  rw [type, statusPath_acp, getPath_two]

lemma embedded_patched (frame : FrameRow new)
    (kind : old.type = "tool_call" ∨ old.type = "acp_tool_call") :
    (Json.mergePatch old.content new.content).getPath (statusPath old.type) =
      if new.type = old.type then new.embedded.or old.embedded else old.embedded := by
  obtain ⟨kind', -, patch, content, nodup, tool, acp⟩ := frame
  have merged (k : String) : (Json.mergePatch old.content new.content).get k = _ :=
    (congrArg (fun c => (Json.mergePatch old.content c).get k) content).trans
      (Json.get_mergePatch patch nodup)
  rcases kind with is | is <;> rcases kind' with is' | is'
  · -- the status of the frame takes the place of the one that is there
    obtain ⟨-, s, status⟩ := tool is'
    rw [if_pos (is'.trans is.symm), is, statusPath_tool, getPath_one, merged, status, embedded_tool is',
      content, Json.get_obj, status]
    rfl
  · rw [if_neg (by rw [is, is']; decide), is, statusPath_tool, getPath_one, merged, (acp is').1,
      embedded_tool is]
  · rw [if_neg (by rw [is, is']; decide), is, statusPath_acp, getPath_two, merged, (tool is').1,
      embedded_acp is]
  · -- the update of the frame is merged into the one that is there
    obtain ⟨-, update, there, distinct, strings⟩ := acp is'
    rw [if_pos (is'.trans is.symm), is, statusPath_acp, getPath_two, merged, there, embedded_acp is',
      embedded_acp is, content, Json.get_obj, there, Option.bind_some, Option.bind_some, Json.get_obj]
    change Json.lookup "status"
      (Json.mergeMembers ((old.content.get "update").getD .null).members update) = _
    rw [Json.lookup_mergeMembers update distinct]
    have before : Json.lookup "status" ((old.content.get "update").getD .null).members =
        (old.content.get "update").bind fun update => update.get "status" := by
      cases old.content.get "update" <;> rfl
    rw [before]
    cases status : Json.lookup "status" update with
    | none => rfl
    | some value =>
      obtain ⟨s, rfl⟩ := strings value status
      rfl

lemma object_of_getPath {members : List (String × Json)} {a b : String} {v : Json}
    (inside : (Json.obj members).getPath [a, b] = some v) :
    ∃ below, Json.lookup a members = some (.obj below) := by
  rw [getPath_two, Json.get_obj, Option.bind_eq_some_iff] at inside
  obtain ⟨below, there, found⟩ := inside
  cases below with
  | obj below => exact ⟨below, there⟩
  | _ => simp [Json.get, Json.members] at found

/-- What a frame leaves of the status in the content: its own if it is of the kind of the row and has
one, and is not late. -/
lemma embedded_merge (frame : FrameRow new)
    (kind : old.type = "tool_call" ∨ old.type = "acp_tool_call") (agrees : old.Agrees) :
    (old.merge new).embedded = if Late old new then old.embedded
      else if new.type = old.type then new.embedded.or old.embedded else old.embedded := by
  have patched := embedded_patched frame kind
  by_cases late : Late old new
  · obtain ⟨s, embedded⟩ := agrees.str late.1
    have stored : (old.merge new).content = Json.setPath (sqlValue (old.content.getPath
        (statusPath old.type))) (statusPath old.type) (Json.mergePatch old.content new.content) :=
      if_pos late
    have back : sqlValue (old.content.getPath (statusPath old.type)) = .str s := by
      rw [show old.content.getPath (statusPath old.type) = some (.str s) from embedded]
      rfl
    obtain ⟨-, -, patch, content, -⟩ := frame
    have object : Json.mergePatch old.content new.content =
        .obj (Json.mergeMembers old.content.members patch) := by
      rw [content]
      rfl
    rw [if_pos late, embedded]
    unfold MessageRow.embedded
    rw [stored, back, MessageRow.merge_type]
    rcases kind with is | is
    · rw [is, statusPath_tool, object]
      exact get_setPath_one _ _
    · have inside : ∃ v,
          (Json.mergePatch old.content new.content).getPath ["update", "status"] = some v := by
        rw [← statusPath_acp, ← is, patched, embedded]
        split_ifs
        · cases new.embedded with
          | none => exact ⟨_, rfl⟩
          | some v => exact ⟨v, rfl⟩
        · exact ⟨_, rfl⟩
      obtain ⟨v, inside⟩ := inside
      rw [object] at inside
      obtain ⟨below, there⟩ := object_of_getPath inside
      rw [is, statusPath_acp, object]
      exact get_setPath_two _ there
  · have stored : (old.merge new).content = Json.mergePatch old.content new.content := if_neg late
    rw [if_neg late, ← patched]
    unfold MessageRow.embedded
    rw [stored, MessageRow.merge_type]

lemma MessageRow.Agrees.work (agrees : old.Agrees) (known : old.status.isSome)
    (open_ : ¬ old.Settled) : old.status = some "work" := by
  have agrees : column old.type old.embedded = old.status := agrees
  unfold MessageRow.Settled at open_
  rw [← agrees] at open_ known ⊢
  unfold column at open_ known ⊢
  split_ifs at open_ known ⊢ <;> split at open_ <;> simp_all

lemma agrees_merge_same (frame : FrameRow new) (same : new.type = old.type) (agrees : old.Agrees)
    (known : old.status.isSome) : (old.merge new).Agrees := by
  have agrees' : column new.type new.embedded = new.status := frame.agrees
  have kind := same ▸ frame.kind
  unfold MessageRow.Agrees
  rw [embedded_merge frame kind agrees, if_pos same, MessageRow.merge_type, merge_status]
  by_cases late : Late old new
  · rw [if_pos late, if_pos late]
    exact agrees
  · rw [if_neg late, if_neg late]
    cases embedded : new.embedded with
    | some value =>
      rw [← same, Option.some_or, ← embedded]
      exact agrees'
    | none =>
      -- a frame without a status says that the call is at work, as the row does
      have silent : new.status = some "work" := by
        rw [← agrees', embedded]
        rcases frame.kind with is | is
        · obtain ⟨-, -, patch, content, -, tool, -⟩ := frame
          obtain ⟨-, s, status⟩ := tool is
          rw [embedded_tool is, content, Json.get_obj, status] at embedded
          cases embedded
        · rw [is]
          rfl
      have open_ : ¬ old.Settled := fun settled => late ⟨settled, silent⟩
      rw [Option.none_or, silent, ← agrees.work known open_]
      exact agrees

lemma agrees_merge_other (frame : FrameRow new)
    (kind : old.type = "tool_call" ∨ old.type = "acp_tool_call") (other : new.type ≠ old.type)
    (agrees : old.Agrees) : (old.merge new).Agrees ↔ Late old new ∨ new.status = old.status := by
  unfold MessageRow.Agrees
  rw [embedded_merge frame kind agrees, if_neg other, ite_self, MessageRow.merge_type, merge_status]
  have agrees : column old.type old.embedded = old.status := agrees
  rw [agrees]
  by_cases late : Late old new
  · simp [late]
  · simp [late, eq_comm]

end KiCore.Messages

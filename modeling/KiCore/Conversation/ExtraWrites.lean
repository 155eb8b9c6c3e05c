import KiCore.Conversation.Extra
import KiCore.Conversation.Types
import KiCore.Lib.Transition

/-!
# Writes of the extra column

`update`, `update_extra`, `maybe_persist_workspace` and the backfill of `get` and `list` read the
row, compute a new value of the column `extra` and write all of it, with nothing that tells whether
the row is still the one they have read. Each is a patch (`get_merged`) that is written over a stale
copy of the row, and takes the keys of other patches back with it. `patches_kept_iff` says for every
run when no patch is lost: when each write finds the keys that are not its own as it has read them.
-/

namespace KiCore.Conversation

open KiCore.Lib

inductive CallKind where
  | update (patch : Extra)
  | updateExtra (patch : Extra)
  | persistWorkspace (resolved : String)
  | read
  deriving DecidableEq

structure ExtraCall where
  kind : CallKind
  seen : Option Extra
  done : Bool

/-- The write of a read operation: what it had read, the row before and the row after. -/
structure Backfill where
  seen : Option Extra
  before : Option Extra
  after : Option Extra

/-- The column of a row, and the calls on it. `accepted` are the patches of the writes that
succeeded, the later over the earlier, and `backfilled` is the last write if a read made it. -/
structure ExtraWrites where
  agentType : AgentType
  extra : Option Extra
  calls : List ExtraCall
  accepted : Patch String Json
  backfilled : Option Backfill

inductive ExtraEvent where
  | update (patch : Extra) (hasModel : Bool)
  | updateExtra (patch : Extra)
  | persistWorkspace (stored resolved : String) (allows : Bool)
  | read
  | write (call : Nat) (autoInject : List String) (ok : Bool)

def extraKey (extra : Option Extra) (key : String) : Option Json :=
  extra.bind (·.get key)

namespace ExtraWrites

variable (agentType : AgentType)

def start (extra : Option Extra) : ExtraWrites where
  agentType := agentType
  extra := extra
  calls := []
  accepted := .nothing
  backfilled := none

/-- Patches that `update` does not take: of snapshots, of what ACP keeps in its session, and models
of others than aionrs. -/
def rejects (patch : Extra) (hasModel : Bool) : Bool :=
  ["skills", "mcp_server_ids", "mcp_servers", "mcp_statuses", "session_mcp_servers"].any
      (fun key => (patch.get key).isSome) ||
    ((agentType = .acp ∨ agentType = .antigravity) &&
      ["current_model_id", "current_mode_id"].any fun key => (patch.get key).isSome) ||
    (agentType ≠ .aionrs && hasModel)

variable (available : String → Bool)

/-- The merge of a patch into an object; text that is no JSON counts as an empty one. -/
def merge (patch : Extra) (strip : Extra → Extra) (seen : Option Extra) : Option Extra :=
  let merged := strip ((seen.getD (.object [])).mergeJson patch)
  if (patch.get "workspace").isSome then merged.normalizeWorkspaceExtra available else some merged

/-- What `update` strips after the merge. -/
def stripUpdate (extra : Extra) : Extra :=
  let merged := extra.stripRequestOwnerUserId
  if agentType = .aionrs then merged.removeKey "model" else merged

/-- The value that a call writes, if it comes to that. The key of a value that is neither an object
nor null cannot be set, which ends the call. -/
def merged (agentType : AgentType) (autoInject : List String) :
    CallKind → Option Extra → Option Extra
  | .update patch, seen => merge available patch (stripUpdate agentType) seen
  | .updateExtra patch, seen => merge available patch id seen
  | .persistWorkspace resolved, seen =>
    match seen.getD (.object []) with
    | .object fields => some (.object (fields.insert "workspace" (.string resolved)))
    | .null => some (.object (Fields.insert [] "workspace" (.string resolved)))
    | .other _ => none
  | .read, some extra =>
    let filled := extra.backfill autoInject
    if filled.1 then some filled.2 else none
  | .read, none => none

variable (s : ExtraWrites)

def begin (kind : CallKind) : ExtraWrites :=
  { s with calls := s.calls ++ [{ kind, seen := s.extra, done := false }] }

/-- The patch of a backfill: the legacy fields go, and the skills and the two names of the cron job
are set where they are not. -/
def backfillPatch (autoInject : List String) (fields : Fields) : Patch String Json := fun key =>
  if key = "enabled_skills" ∨ key = "exclude_builtin_skills" ∨ key = "loaded_skills" then some none
  else if key = "skills" then
    if (fields.get "skills").isNone then
      some (some (.strings (Extra.computeInitialSkills autoInject
        (Extra.stringArray fields "enabled_skills")
        (Extra.stringArray fields "exclude_builtin_skills"))))
    else none
  else if key = "cron_job_id" ∨ key = "cronJobId" then
    (Extra.cronJobId fields).bind fun id =>
      if (fields.get key).bind Json.asStr ≠ some id then some (some (.string id)) else none
  else none

/-- The keys that a call sets or removes, given what it has read. -/
def patchOf (autoInject : List String) :
    CallKind → Option Extra → Patch String Json
  | .update patch, seen =>
    match seen.getD (.object []) with
    | .object _ => fun key =>
      if key = "user_id" ∨ key = "model" ∧ agentType = .aionrs then some none
      else (patch.get key).map some
    | _ => .nothing
  | .updateExtra patch, seen =>
    match seen.getD (.object []) with
    | .object _ => fun key => (patch.get key).map some
    | _ => .nothing
  | .persistWorkspace resolved, _ => fun key =>
    if key = "workspace" then some (some (.string resolved)) else none
  | .read, some (.object fields) => backfillPatch autoInject fields
  | .read, _ => .nothing

/-- The write of a call takes effect, or the call ends without one. -/
def write (available : String → Bool) (k : Nat) (call : ExtraCall)
    (autoInject : List String) (ok : Bool) : ExtraWrites :=
  let s' := { s with calls := s.calls.set k { call with done := true } }
  match merged available s.agentType autoInject call.kind call.seen with
  | some new =>
    if ok then { s' with
      extra := some new
      accepted := s.accepted.andThen (patchOf s.agentType autoInject call.kind call.seen)
      backfilled := if call.kind = .read then some ⟨call.seen, s.extra, some new⟩ else none }
    else s'
  | none => s'

def next (s : ExtraWrites) : ExtraEvent → ExtraWrites
  | .update patch hasModel =>
    if rejects s.agentType patch hasModel then s else s.begin (.update patch)
  | .updateExtra patch => s.begin (.updateExtra patch)
  | .persistWorkspace stored resolved allows =>
    if resolved = "" ∨ resolved = stored ∨ ¬ allows then s else s.begin (.persistWorkspace resolved)
  | .read => if s.extra.isSome then s.begin .read else s
  | .write k autoInject ok =>
    match s.calls[k]? with
    | some call => if call.done then s else s.write available k call autoInject ok
    | none => s

/-- Every key holds what the last successful patch that mentions it says, and the write of a read
leaves the keys that were written since it has read the row. -/
structure Kept (s : ExtraWrites) : Prop where
  patches : s.accepted.Holds (extraKey s.extra)
  reads : ∀ b ∈ s.backfilled, ∀ key, extraKey b.seen key ≠ extraKey b.before key →
    extraKey b.after key = extraKey b.before key

/-- A write finds the keys of earlier patches that are not its own as its call has read them. That
of a read finds every key so, except where it sets what is there already. -/
def FreshCall (autoInject : List String) (call : ExtraCall) : Prop :=
  let patch := patchOf s.agentType autoInject call.kind call.seen
  (∀ key, s.accepted key ≠ none → patch key = none →
    extraKey call.seen key = extraKey s.extra key) ∧
  (call.kind = .read → ∀ key, extraKey call.seen key ≠ extraKey s.extra key →
    patch key = some (extraKey s.extra key))

def Fresh (s : ExtraWrites) : ExtraEvent → Prop
  | .write k autoInject ok => ∀ call ∈ s.calls[k]?, call.done = false → ok = true →
    (merged available s.agentType autoInject call.kind call.seen).isSome = true →
    s.FreshCall autoInject call
  | _ => True

variable {s : ExtraWrites} {available : String → Bool} {agentType : AgentType}
  {autoInject : List String} {seen : Option Extra} {patch new : Extra} {k : Nat} {call : ExtraCall}
  {ok : Bool} {event : ExtraEvent}

lemma get_merge {strip : Extra → Extra} (h : merge available patch strip seen = some new) :
    new = strip ((seen.getD (.object [])).mergeJson patch) := by
  rw [merge] at h
  split at h
  · exact Extra.normalizeWorkspaceExtra_eq h
  · exact (Option.some_inj.mp h).symm

lemma get_stripUpdate {key : String} {extra : Extra} : (stripUpdate agentType extra).get key =
    if key = "user_id" ∨ key = "model" ∧ agentType = .aionrs then none else extra.get key := by
  rw [stripUpdate]
  split
  · rename_i aionrs
    rw [Extra.get_removeKey, Extra.stripRequestOwnerUserId, Extra.get_removeKey]
    by_cases model : "model" = key
    · rw [if_pos model, if_pos (.inr ⟨model.symm, aionrs⟩)]
    · by_cases user : "user_id" = key
      · rw [if_neg model, if_pos user, if_pos (.inl user.symm)]
      · rw [if_neg model, if_neg user, if_neg]
        rintro (same | ⟨same, _⟩)
        · exact user same.symm
        · exact model same.symm
  · rename_i other
    rw [Extra.stripRequestOwnerUserId, Extra.get_removeKey]
    by_cases user : "user_id" = key
    · rw [if_pos user, if_pos (.inl user.symm)]
    · rw [if_neg user, if_neg]
      rintro (same | ⟨_, aionrs⟩)
      · exact user same.symm
      · exact other aionrs

lemma extraKey_getD : extraKey seen = (seen.getD (.object [])).get := by
  cases seen <;> rfl

lemma get_update (h : merged available agentType autoInject (.update patch) seen = some new) :
    new.get = (patchOf agentType autoInject (.update patch) seen).apply (extraKey seen) := by
  rw [get_merge h, extraKey_getD, patchOf]
  cases seen.getD (.object []) with
  | object fields =>
    funext key
    rw [get_stripUpdate, Patch.apply, Extra.get_mergeJson]
    dsimp only
    split
    · rfl
    · cases patch.get key <;> rfl
  | null => rw [stripUpdate]; split <;> rfl
  | other => rw [stripUpdate]; split <;> rfl

lemma get_updateExtra
    (h : merged available agentType autoInject (.updateExtra patch) seen = some new) :
    new.get = (patchOf agentType autoInject (.updateExtra patch) seen).apply (extraKey seen) := by
  rw [get_merge h, extraKey_getD, patchOf]
  cases seen.getD (.object []) with
  | object fields =>
    funext key
    rw [id, Patch.apply, Extra.get_mergeJson]
    dsimp only
    cases patch.get key <;> rfl
  | null => rfl
  | other => rfl

lemma get_persistWorkspace {resolved : String}
    (h : merged available agentType autoInject (.persistWorkspace resolved) seen = some new) :
    new.get = (patchOf agentType autoInject (.persistWorkspace resolved) seen).apply
      (extraKey seen) := by
  have inserted : ∀ fields : Fields, (fields.insert "workspace" (.string resolved)).get =
      (patchOf agentType autoInject (.persistWorkspace resolved) seen).apply fields.get := by
    intro fields
    funext key
    rw [Fields.get_insert, Patch.apply, patchOf]
    dsimp only
    by_cases here : key = "workspace"
    · rw [if_pos here.symm, if_pos here, Option.getD_some]
    · rw [if_neg (Ne.symm here), if_neg here, Option.getD_none]
  rw [merged] at h
  rw [extraKey_getD]
  cases base : seen.getD (.object []) with
  | object fields =>
    rw [base] at h
    cases h
    exact inserted fields
  | null =>
    rw [base] at h
    cases h
    exact inserted []
  | other =>
    rw [base] at h
    cases h

lemma cronJobId_congr {fields rest : Fields} (id_ : rest.get "cron_job_id" = fields.get "cron_job_id")
    (alias_ : rest.get "cronJobId" = fields.get "cronJobId") :
    Extra.cronJobId rest = Extra.cronJobId fields := by
  rw [Extra.cronJobId, Extra.cronJobId, id_, alias_]

lemma get_backfill {fields : Fields} : ((Extra.object fields).backfill autoInject).2.get =
    (backfillPatch autoInject fields).apply fields.get := by
  obtain ⟨rest, is_rest, get_rest⟩ := Extra.get_backfillSkills
  obtain ⟨filled, is_filled, get_filled⟩ := Extra.get_backfillCron rest
  have same : Extra.cronJobId rest = Extra.cronJobId fields := by
    apply cronJobId_congr
    · rw [get_rest]; rfl
    · rw [get_rest]; rfl
  rw [Extra.backfill]
  dsimp only
  rw [is_rest, is_filled]
  funext key
  dsimp only [Extra.get]
  rw [get_filled, same, get_rest, Patch.apply, backfillPatch]
  cases Extra.cronJobId fields with
  | none => grind
  | some id => grind

lemma get_read (h : merged available agentType autoInject .read seen = some new) :
    new.get = (patchOf agentType autoInject .read seen).apply (extraKey seen) := by
  cases seen with
  | none => cases h
  | some extra =>
    rw [merged] at h
    split_ifs at h
    cases h
    cases extra with
    | object fields => exact get_backfill
    | null => rfl
    | other => rfl

lemma get_merged {kind : CallKind} (h : merged available agentType autoInject kind seen = some new) :
    new.get = (patchOf agentType autoInject kind seen).apply (extraKey seen) := by
  cases kind with
  | update patch => exact get_update h
  | updateExtra patch => exact get_updateExtra h
  | persistWorkspace resolved => exact get_persistWorkspace h
  | read => exact get_read h

lemma kept_begin {kind : CallKind} (h : s.Kept) : (s.begin kind).Kept :=
  ⟨h.patches, h.reads⟩

lemma reads_iff {patch : Patch String Json} {before : Option Extra}
    (after : new.get = patch.apply (extraKey seen)) :
    (∀ key, extraKey seen key ≠ extraKey before key → new.get key = extraKey before key) ↔
      ∀ key, extraKey seen key ≠ extraKey before key → patch key = some (extraKey before key) := by
  refine forall_congr' fun key => imp_congr_right fun changed => ?_
  rw [after]
  cases e : patch key with
  | none =>
    rw [Patch.apply_of_none e]
    exact ⟨fun same => absurd same changed, nofun⟩
  | some value => rw [Patch.apply_of_some e, Option.some_inj]

lemma kept_write_iff (h : s.Kept) :
    (s.write available k call autoInject true).Kept ↔
      ((merged available s.agentType autoInject call.kind call.seen).isSome = true →
        s.FreshCall autoInject call) := by
  rw [write]
  dsimp only
  cases e : merged available s.agentType autoInject call.kind call.seen with
  | none => exact ⟨nofun, fun _ => ⟨h.patches, h.reads⟩⟩
  | some new =>
    have after := get_merged e
    dsimp only
    rw [if_pos rfl, imp_iff_right Option.isSome_some, FreshCall]
    constructor
    · rintro ⟨patches, reads⟩
      refine ⟨?_, fun read => ?_⟩
      · rw [← Patch.holds_stale_iff h.patches, ← after]
        exact patches
      · rw [← reads_iff after]
        exact reads _ (if_pos read)
    · rintro ⟨patches, reads⟩
      refine ⟨?_, fun b there => ?_⟩
      · rw [← Patch.holds_stale_iff h.patches, ← after] at patches
        exact patches
      · dsimp only at there
        split at there
        · rename_i read
          cases there
          exact (reads_iff after).mpr (reads read)
        · cases there

lemma kept_write_failed (h : s.Kept) : (s.write available k call autoInject false).Kept := by
  rw [write]
  dsimp only
  split <;> exact ⟨h.patches, h.reads⟩

lemma kept_next_iff (h : s.Kept) : (next available s event).Kept ↔ s.Fresh available event := by
  cases event with
  | write k autoInject ok =>
    rw [next, Fresh]
    cases s.calls[k]? with
    | none => exact ⟨fun _ => nofun, fun _ => h⟩
    | some call =>
      simp only [Option.mem_def, Option.some_inj, forall_eq']
      cases done : call.done with
      | true =>
        rw [if_pos rfl]
        exact ⟨fun _ => nofun, fun _ => h⟩
      | false =>
        rw [if_neg Bool.false_ne_true, imp_iff_right rfl]
        cases ok with
        | false => exact ⟨fun _ => nofun, fun _ => kept_write_failed h⟩
        | true => rw [kept_write_iff h, imp_iff_right rfl]
  | update patch hasModel =>
    refine ⟨fun _ => trivial, fun _ => ?_⟩
    rw [next]
    split
    · exact h
    · exact kept_begin h
  | updateExtra patch => exact ⟨fun _ => trivial, fun _ => kept_begin h⟩
  | persistWorkspace stored resolved allows =>
    refine ⟨fun _ => trivial, fun _ => ?_⟩
    rw [next]
    split
    · exact h
    · exact kept_begin h
  | read =>
    refine ⟨fun _ => trivial, fun _ => ?_⟩
    rw [next]
    split
    · exact kept_begin h
    · exact h

/-- In a run, no accepted patch is lost and no read takes a write back, if and only if every write
finds the keys that are not its own as its call has read them. -/
theorem patches_kept_iff (available : String → Bool) (agentType : AgentType) (extra : Option Extra)
    (events : List ExtraEvent) :
    LTS.Throughout (next available) Kept (start agentType extra) events ↔
      LTS.EnabledAll (Fresh available) (next available) (start agentType extra) events := by
  have start_kept : (start agentType extra).Kept := ⟨Patch.nothing_holds, nofun⟩
  rw [LTS.throughout_iff, and_iff_right start_kept]
  refine LTS.enabledAll_iff (Q := Kept) (fun s event h => ⟨kept_next_iff h, ?_⟩) start_kept
  exact (kept_next_iff h).mpr

/-- Two patches of different keys overlap, and the second one takes the first with it. -/
theorem overlapping_patch_lost : ¬ LTS.Throughout (next fun _ => true) Kept
    (start .acp (some (.object [])))
    [.updateExtra (.object [("a", .string "1")]), .updateExtra (.object [("b", .string "2")]),
      .write 0 [] true, .write 1 [] true] := by
  intro h
  have holds := h.last.patches "a" (some (.string "1")) rfl
  cases holds

end ExtraWrites

end KiCore.Conversation

import KiCore.Lib.Transition
import KiCore.Messages.ToolRows

/-!
# Tool rows over a run

Frames of tool calls are persisted one after the other. The row of a call keeps its column with its
content, its time and its end exactly as long as the frames that are stored are of its kind, or say
what the column says, and as long as no one else brings its first frame (`tool_rows_converge`).
-/

namespace KiCore.Messages

open KiCore.Lib

inductive ToolFrame where
  | toolCall (data : ToolCallEventData)
  | acpToolCall (data : AcpToolCallEventData)

structure Frame where
  adapter : StreamPersistenceAdapter
  now : Int
  data : ToolFrame

namespace Frame

variable (frame : Frame)

def row : MessageRow :=
  match frame.data with
  | .toolCall data => frame.adapter.toolCallRow frame.now data
  | .acpToolCall data => frame.adapter.acpToolCallRow frame.now data

def persist (db : Db) : Db :=
  match frame.data with
  | .toolCall data => frame.adapter.persistToolCall frame.now db data
  | .acpToolCall data => frame.adapter.persistAcpToolCall frame.now db data

def Writes : Prop :=
  match frame.data with
  | .toolCall data =>
    frame.adapter.allowsWrite .toolCallPersist = true ∧ Str.trim data.callId ≠ ""
  | .acpToolCall _ => frame.adapter.allowsWrite .acpToolCallPersist = true

instance : Decidable frame.Writes := by
  unfold Writes
  cases frame.data <;> infer_instance

/-- The frame comes from a conversation and the user that it belongs to. -/
def Own (convId owner : String) (frame : Frame) : Prop :=
  frame.adapter.conversationId = convId ∧ frame.adapter.userId = owner

instance (convId owner : String) (frame : Frame) : Decidable (frame.Own convId owner) :=
  inferInstanceAs (Decidable (_ ∧ _))

variable (frame : Frame) (db : Db)

lemma persist_eq : frame.persist db = if frame.Writes then frame.adapter.upsert db frame.row else db := by
  obtain ⟨adapter, now, data⟩ := frame
  cases data with
  | toolCall data =>
    simp only [persist, Writes, StreamPersistenceAdapter.persistToolCall, row]
    by_cases allowed : adapter.allowsWrite .toolCallPersist = true
    · by_cases blank : Str.trim data.callId = "" <;> simp [allowed, blank]
    · simp [allowed]
  | acpToolCall data =>
    simp only [persist, Writes, StreamPersistenceAdapter.persistAcpToolCall, row]
    by_cases allowed : adapter.allowsWrite .acpToolCallPersist = true <;> simp [allowed]

lemma frameRow : FrameRow frame.row := by
  obtain ⟨adapter, now, data⟩ := frame
  cases data with
  | toolCall data => exact adapter.frameRow_tool now data
  | acpToolCall data => exact adapter.frameRow_acp now data

@[simp] lemma row_conversationId : frame.row.conversationId = frame.adapter.conversationId := by
  obtain ⟨adapter, now, data⟩ := frame
  cases data <;> rfl

@[simp] lemma row_createdAt : frame.row.createdAt = frame.now := by
  obtain ⟨adapter, now, data⟩ := frame
  cases data <;> rfl

lemma row_status : frame.row.status.isSome := by
  obtain ⟨adapter, now, data⟩ := frame
  cases data <;> rfl

end Frame

/-- The tables, and the times of the frames of a call that were stored. -/
structure Watched where
  db : Db
  times : List Int

def Watched.next (id : String) (w : Watched) (frame : Frame) : Watched where
  db := frame.persist w.db
  times :=
    if frame.row.id = id ∧ frame.Writes ∧
        (w.db.upsertMessage frame.adapter.userId frame.row).isOk then frame.now :: w.times
    else w.times

/-- A step keeps the row of a call settled and its two statuses together, gives it the least of the
times, and does nothing for a frame that comes from elsewhere. -/
structure Converges (convId owner id : String) (w : Watched) (frame : Frame) : Prop where
  settled : ∀ row row', w.db.findMessage id = some row →
    (w.next id frame).db.findMessage id = some row' → row.Settled → row'.status ≠ some "work"
  agrees : ∀ row', (w.next id frame).db.findMessage id = some row' → row'.Agrees
  created : ∀ row', (w.next id frame).db.findMessage id = some row' →
    row'.createdAt ∈ (w.next id frame).times ∧ ∀ t ∈ (w.next id frame).times, row'.createdAt ≤ t
  foreign : frame.row.id = id → ¬ frame.Own convId owner → (w.next id frame).db = w.db

/-- A frame that is stored finds no row, or one of its kind, or says what the row says, or is late;
and one from elsewhere is not the first. -/
def Fits (convId owner id : String) (w : Watched) (frame : Frame) : Prop :=
  frame.row.id = id → frame.Writes →
    if frame.Own convId owner then
      ∀ row, w.db.findMessage id = some row →
        frame.row.type = row.type ∨ Late row frame.row ∨ frame.row.status = row.status
    else
      (w.db.findMessage id).isSome ∨ w.db.conversations[frame.adapter.conversationId]? = none

instance (convId owner id : String) (w : Watched) (frame : Frame) :
    Decidable (Fits convId owner id w frame) := by
  have (row : MessageRow) : Decidable (frame.row.type = row.type ∨ Late row frame.row ∨
      frame.row.status = row.status) := inferInstance
  have : Decidable (∀ row ∈ w.db.findMessage id,
      frame.row.type = row.type ∨ Late row frame.row ∨ frame.row.status = row.status) := inferInstance
  unfold Fits
  exact inferInstanceAs (Decidable (_ → _ → ite _ _ _))

structure Watched.RowOk (w : Watched) (convId : String) (row : MessageRow) : Prop where
  conversationId : row.conversationId = convId
  kind : row.type = "tool_call" ∨ row.type = "acp_tool_call"
  agrees : row.Agrees
  known : row.status.isSome
  first : row.createdAt ∈ w.times
  least : ∀ t ∈ w.times, row.createdAt ≤ t

structure Watched.Ok (convId owner id : String) (w : Watched) : Prop where
  owned : w.db.owns owner convId
  row : ∀ row, w.db.findMessage id = some row → w.RowOk convId row
  times : w.db.findMessage id = none → w.times = []

namespace Watched

variable {convId owner id : String} {w : Watched} {frame : Frame}

/-- A frame that stores nothing in the row of the call. -/
structure Passes (convId owner id : String) (w : Watched) (frame : Frame) : Prop where
  stranger : frame.row.id = id → frame.Writes → ¬ frame.Own convId owner ∧
    ((w.db.findMessage id).isSome ∨ w.db.conversations[frame.adapter.conversationId]? = none)
  nothing : frame.row.id = id → (w.next id frame).db = w.db
  find : (w.next id frame).db.findMessage id = w.db.findMessage id
  times : (w.next id frame).times = w.times

/-- A frame that makes the row of the call. -/
structure Creates (id : String) (w : Watched) (frame : Frame) : Prop where
  same : frame.row.id = id
  writes : frame.Writes
  none : w.db.findMessage id = none
  there : (w.db.conversations[frame.adapter.conversationId]?).isSome
  find : (w.next id frame).db.findMessage id = some frame.row
  times : (w.next id frame).times = frame.now :: w.times

/-- A frame of the conversation that is merged into the row of the call. -/
structure Merges (convId owner id : String) (w : Watched) (frame : Frame) (old : MessageRow) : Prop where
  same : frame.row.id = id
  writes : frame.Writes
  own : frame.Own convId owner
  found : w.db.findMessage id = some old
  find : (w.next id frame).db.findMessage id = some (old.merge frame.row)
  times : (w.next id frame).times = frame.now :: w.times

def Stores (w : Watched) (frame : Frame) : Prop :=
  (w.db.findMessage frame.row.id = none ∧ (w.db.conversations[frame.row.conversationId]?).isSome) ∨
    ∃ old, w.db.findMessage frame.row.id = some old ∧ old.conversationId = frame.row.conversationId ∧
      w.db.owns frame.adapter.userId old.conversationId

lemma next_db (writes : frame.Writes) : (w.next id frame).db = frame.adapter.upsert w.db frame.row :=
  (frame.persist_eq w.db).trans (if_pos writes)

lemma next_stored (ok : w.Ok convId owner id) (writes : frame.Writes)
    (upserted : w.db.upsertMessage frame.adapter.userId frame.row =
      .ok ((w.db.put MessageRow.merge MessageRow.merge_id frame.row).bump frame.row.conversationId
        frame.row.createdAt))
    (stores : w.Stores frame) :
    w.Passes convId owner id frame ∨ w.Creates id frame ∨ ∃ old, w.Merges convId owner id frame old := by
  have find : (w.next id frame).db.findMessage id = if frame.row.id = id then
      some ((w.db.findMessage id).elim frame.row (MessageRow.merge · frame.row))
      else w.db.findMessage id := by
    rw [next_db writes, StreamPersistenceAdapter.upsert, upserted]
    exact Db.find_put MessageRow.merge_id
  by_cases same : frame.row.id = id
  · have times : (w.next id frame).times = frame.now :: w.times := by
      refine if_pos ⟨same, writes, ?_⟩
      rw [upserted]
      rfl
    rw [if_pos same] at find
    rw [Stores, same, frame.row_conversationId] at stores
    rcases stores with ⟨none, there⟩ | ⟨old, found, at_, owned⟩
    · rw [none] at find
      exact .inr (.inl ⟨same, writes, none, there, find, times⟩)
    · rw [found] at find
      have home := (ok.row old found).conversationId
      rw [home] at at_ owned
      have user := Option.some.inj (owned.symm.trans ok.owned)
      exact .inr (.inr ⟨old, same, writes, ⟨at_.symm, user⟩, found, find, times⟩)
  · rw [if_neg same] at find
    exact .inl ⟨fun h => absurd h same, fun h => absurd h same, find, if_neg fun h => same h.1⟩

lemma next_refused (ok : w.Ok convId owner id) (writes : frame.Writes)
    (failed : ∃ e, w.db.upsertMessage frame.adapter.userId frame.row = .error e)
    (absent : w.db.findMessage frame.row.id = none → w.db.conversations[frame.row.conversationId]? = none)
    (present : ∀ old, w.db.findMessage frame.row.id = some old →
      ¬ (old.conversationId = frame.row.conversationId ∧
        w.db.owns frame.adapter.userId old.conversationId)) : w.Passes convId owner id frame := by
  obtain ⟨e, failed⟩ := failed
  have persisted : (w.next id frame).db = w.db := by
    rw [next_db writes, StreamPersistenceAdapter.upsert, failed]
  have times : (w.next id frame).times = w.times := by
    refine if_neg fun h => ?_
    rw [failed] at h
    exact absurd h.2.2 Bool.false_ne_true
  refine ⟨fun same _ => ?_, fun _ => persisted, congrArg (Db.findMessage · id) persisted, times⟩
  rw [same, frame.row_conversationId] at absent present
  cases found : w.db.findMessage id with
  | none =>
    refine ⟨fun own => ?_, .inr (absent found)⟩
    have owned := ok.owned
    rw [Db.owns, ← own.1, absent found] at owned
    cases owned
  | some old =>
    refine ⟨fun own => present old found ?_, .inl rfl⟩
    rw [(ok.row old found).conversationId, own.2]
    exact ⟨own.1.symm, ok.owned⟩

lemma next_cases (ok : w.Ok convId owner id) (frame : Frame) :
    w.Passes convId owner id frame ∨ w.Creates id frame ∨ ∃ old, w.Merges convId owner id frame old := by
  by_cases writes : frame.Writes
  · rcases Db.upsertMessage_cases w.db frame.adapter.userId frame.row with
      ⟨upserted, stores⟩ | ⟨failed, absent, present⟩
    · exact next_stored ok writes upserted stores
    · exact .inl (next_refused ok writes failed absent present)
  · have persisted : (w.next id frame).db = w.db := (frame.persist_eq w.db).trans (if_neg writes)
    exact .inl ⟨fun _ h => absurd h writes, fun _ => persisted, congrArg (Db.findMessage · id) persisted,
      if_neg fun h => writes h.2.1⟩

lemma owned_next (owned : w.db.owns owner convId) : (w.next id frame).db.owns owner convId := by
  have persisted := frame.persist_eq w.db
  unfold next
  dsimp only
  rw [persisted]
  by_cases writes : frame.Writes
  · rw [if_pos writes]
    unfold StreamPersistenceAdapter.upsert
    rcases Db.upsertMessage_cases w.db frame.adapter.userId frame.row with ⟨upserted, -⟩ | ⟨⟨e, failed⟩, -⟩
    · rw [upserted]
      exact Db.owns_bump.mpr owned
    · rw [failed]
      exact owned
  · rw [if_neg writes]
    exact owned

lemma least_cons {row : MessageRow} {now : Int} (first : row.createdAt ∈ w.times)
    (least : ∀ t ∈ w.times, row.createdAt ≤ t) :
    min row.createdAt now ∈ now :: w.times ∧ ∀ t ∈ now :: w.times, min row.createdAt now ≤ t := by
  refine ⟨?_, fun t mem => ?_⟩
  · rcases min_choice row.createdAt now with is | is
    · rw [is]
      exact List.mem_cons_of_mem _ first
    · rw [is]
      exact List.mem_cons_self
  · rcases List.mem_cons.mp mem with rfl | mem
    · exact min_le_right _ _
    · exact (min_le_left _ _).trans (least t mem)

namespace Passes

variable (passes : w.Passes convId owner id frame) (ok : w.Ok convId owner id)
include passes

lemma fits : Fits convId owner id w frame := by
  intro same writes
  obtain ⟨foreign, there⟩ := passes.stranger same writes
  rw [if_neg foreign]
  exact there

include ok

lemma keeps : Converges convId owner id w frame where
  settled row row' found found' settled := by
    rw [passes.find, found] at found'
    cases found'
    rcases settled with is | is <;> rw [is] <;> decide
  agrees row' found' := (ok.row row' (passes.find ▸ found')).agrees
  created row' found' := by
    rw [passes.times]
    have row := ok.row row' (passes.find ▸ found')
    exact ⟨row.first, row.least⟩
  foreign same _ := passes.nothing same

lemma next : (w.next id frame).Ok convId owner id where
  owned := owned_next ok.owned
  row row' found' := by
    have row := ok.row row' (passes.find ▸ found')
    exact { row with first := passes.times ▸ row.first, least := passes.times ▸ row.least }
  times none := passes.times.trans (ok.times (passes.find ▸ none))

end Passes

namespace Creates

variable (creates : w.Creates id frame) (ok : w.Ok convId owner id)
include creates

lemma fits_iff : Fits convId owner id w frame ↔ frame.Own convId owner := by
  refine ⟨fun fits => ?_, fun own same writes => ?_⟩
  · have fits := fits creates.same creates.writes
    by_contra foreign
    rw [if_neg foreign] at fits
    have there := creates.there
    rcases fits with found | absent
    · rw [creates.none] at found
      cases found
    · rw [absent] at there
      cases there
  · rw [if_pos own]
    intro row found
    rw [creates.none] at found
    cases found

include ok

lemma least : ∀ t ∈ (w.next id frame).times, frame.row.createdAt = t := by
  rw [creates.times, ok.times creates.none, frame.row_createdAt]
  exact fun t mem => (List.mem_singleton.mp mem).symm

lemma converges_iff : Converges convId owner id w frame ↔ frame.Own convId owner := by
  refine ⟨fun converges => ?_, fun own => ?_⟩
  · by_contra foreign
    have found := creates.find
    rw [converges.foreign creates.same foreign, creates.none] at found
    cases found
  · refine ⟨fun row row' found => ?_, fun row' found' => ?_, fun row' found' => ?_,
      fun _ foreign => absurd own foreign⟩
    · rw [creates.none] at found
      cases found
    · rw [creates.find] at found'
      cases found'
      exact frame.frameRow.agrees
    · rw [creates.find] at found'
      cases found'
      refine ⟨?_, fun t mem => (creates.least ok t mem).le⟩
      rw [creates.times, frame.row_createdAt]
      exact List.mem_cons_self

lemma next (own : frame.Own convId owner) : (w.next id frame).Ok convId owner id where
  owned := owned_next ok.owned
  row row' found' := by
    rw [creates.find] at found'
    cases found'
    have created := ((creates.converges_iff ok).mpr own).created _ creates.find
    exact ⟨frame.row_conversationId.trans own.1, frame.frameRow.kind, frame.frameRow.agrees,
      frame.row_status, created.1, created.2⟩
  times none := by
    rw [creates.find] at none
    cases none

end Creates

namespace Merges

variable {old : MessageRow} (merges : w.Merges convId owner id frame old) (ok : w.Ok convId owner id)
include merges

lemma fits_iff : Fits convId owner id w frame ↔
    frame.row.type = old.type ∨ Late old frame.row ∨ frame.row.status = old.status := by
  unfold Fits
  rw [if_pos merges.own]
  refine ⟨fun fits => fits merges.same merges.writes old merges.found, fun fits _ _ row found => ?_⟩
  rw [merges.found] at found
  cases found
  exact fits

include ok

lemma agrees_iff : (old.merge frame.row).Agrees ↔
    frame.row.type = old.type ∨ Late old frame.row ∨ frame.row.status = old.status := by
  have row := ok.row old merges.found
  by_cases same : frame.row.type = old.type
  · exact iff_of_true (agrees_merge_same frame.frameRow same row.agrees row.known) (.inl same)
  · rw [agrees_merge_other frame.frameRow row.kind same row.agrees, or_iff_right same]

lemma created : (old.merge frame.row).createdAt ∈ (w.next id frame).times ∧
    ∀ t ∈ (w.next id frame).times, (old.merge frame.row).createdAt ≤ t := by
  have row := ok.row old merges.found
  rw [merges.times]
  rw [← frame.row_createdAt]
  exact least_cons row.first row.least

lemma converges_iff : Converges convId owner id w frame ↔ (old.merge frame.row).Agrees := by
  refine ⟨fun converges => converges.agrees _ merges.find, fun agrees => ?_⟩
  refine ⟨fun row row' found found' settled => ?_, fun row' found' => ?_, fun row' found' => ?_,
    fun _ foreign => absurd merges.own foreign⟩
  · rw [merges.found] at found
    cases found
    rw [merges.find] at found'
    cases found'
    rw [merge_status]
    by_cases late : Late old frame.row
    · rw [if_pos late]
      rcases settled with is | is <;> rw [is] <;> decide
    · rw [if_neg late]
      exact fun work => late ⟨settled, work⟩
  · rw [merges.find] at found'
    cases found'
    exact agrees
  · rw [merges.find] at found'
    cases found'
    exact merges.created ok

lemma next (agrees : (old.merge frame.row).Agrees) : (w.next id frame).Ok convId owner id where
  owned := owned_next ok.owned
  row row' found' := by
    rw [merges.find] at found'
    cases found'
    have row := ok.row old merges.found
    have created := merges.created ok
    refine ⟨row.conversationId, row.kind, agrees, ?_, created.1, created.2⟩
    rw [merge_status]
    by_cases late : Late old frame.row
    · rw [if_pos late]
      exact row.known
    · rw [if_neg late]
      exact frame.row_status
  times none := by
    rw [merges.find] at none
    cases none

end Merges

lemma Ok.step (ok : w.Ok convId owner id) (frame : Frame) :
    (Converges convId owner id w frame ↔ Fits convId owner id w frame) ∧
      (Fits convId owner id w frame → (w.next id frame).Ok convId owner id) := by
  rcases next_cases ok frame with passes | creates | ⟨old, merges⟩
  · exact ⟨iff_of_true (passes.keeps ok) passes.fits, fun _ => passes.next ok⟩
  · rw [creates.converges_iff ok, creates.fits_iff]
    exact ⟨Iff.rfl, creates.next ok⟩
  · rw [merges.converges_iff ok, merges.fits_iff, merges.agrees_iff ok]
    exact ⟨Iff.rfl, fun fits => merges.next ok ((merges.agrees_iff ok).mpr fits)⟩

end Watched

/-- In the conversation of a user, the frames of a call that has no row yet converge exactly as long as
they fit. -/
theorem tool_rows_converge (db : Db) (convId owner id : String) (owned : db.owns owner convId)
    (fresh : db.findMessage id = none) (frames : List Frame) :
    LTS.EnabledAll (Converges convId owner id) (Watched.next id) ⟨db, []⟩ frames ↔
      LTS.EnabledAll (Fits convId owner id) (Watched.next id) ⟨db, []⟩ frames := by
  refine LTS.enabledAll_iff (Q := Watched.Ok convId owner id) (fun w frame ok => ok.step frame) ?_
  refine ⟨owned, fun row found => ?_, fun _ => rfl⟩
  rw [fresh] at found
  cases found

def oneConversation : Db where
  conversations := Std.TreeMap.ofList [("c", ⟨"u", 0⟩)] compare
  messages := []
  unique := List.nodup_nil

def toolFrame (userId : String) (now : Int) (status : ToolCallStatus) : Frame where
  adapter := ⟨userId, "c", "m", none, none⟩
  now := now
  data := .toolCall ⟨"t", "read", .null, status, none, none, none, none⟩

def acpFrame (now : Int) (status : Option AcpToolCallStatus) : Frame where
  adapter := ⟨"u", "c", "m", none, none⟩
  now := now
  data := .acpToolCall
    ⟨"s", ⟨.str "tool_call_update", "t", status, none, none, none, none, none, none⟩, none⟩

/-- The end of a call arrives before its start. -/
theorem tool_rows_converge_late :
    LTS.EnabledAll (Converges "c" "u" "t") (Watched.next "t") ⟨oneConversation, []⟩
      [toolFrame "u" 5 .completed, toolFrame "u" 3 .running, toolFrame "v" 4 .running] :=
  (tool_rows_converge oneConversation "c" "u" "t" (by decide) rfl _).mpr (by decide)

/-- A call ends in a frame of one kind and fails in one of the other: its content says completed, and
its column error. And the first frame of a call may come from a user that does not own the conversation. -/
theorem tool_rows_converge_mixed :
    ¬ LTS.EnabledAll (Converges "c" "u" "t") (Watched.next "t") ⟨oneConversation, []⟩
        [acpFrame 5 (some .completed), toolFrame "u" 6 .error] ∧
      ¬ LTS.EnabledAll (Converges "c" "u" "t") (Watched.next "t") ⟨oneConversation, []⟩
        [toolFrame "v" 5 .running] := by
  constructor
  · rintro ⟨-, converges, -⟩
    have agrees := converges.agrees _ rfl
    exact absurd agrees (by decide)
  · rintro ⟨converges, -⟩
    have same := converges.foreign rfl (by decide)
    have found := congrArg (fun db => (db.findMessage "t").isSome) same
    exact absurd found (by decide)

end KiCore.Messages

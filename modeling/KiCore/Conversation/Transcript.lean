import KiCore.Conversation.RelayOutcome
import KiCore.Lib.Keyed

/-!
# Live and reloaded transcripts

What a client makes of the live frames of a turn is what it finds in the rows after a reload.
`Mirrored` says how the two views go together while the relay runs: the closed segments have their
rows, the active one has a row once it was flushed, and the live text of each segment is what was
received of it. The rewrite at the end changes both views in the same way (`Agree`); a segment that
was superseded is hidden in both, and only there the row keeps a text that the live view has
dropped.
-/

namespace KiCore.Conversation

open KiCore.Lib

structure LiveText where
  text : String
  hidden : Bool

def LiveFrame.fold (id : MsgId) (live : LiveText) : LiveFrame → LiveText
  | .content msgId text => if msgId = id then { live with text := live.text ++ text } else live
  | .replace msgId text hidden => if msgId = id then { text, hidden } else live
  | .thinkingDone _ | .event _ _ | .system _ => live

def liveText (frames : List LiveFrame) (id : MsgId) : LiveText :=
  frames.foldl (LiveFrame.fold id) { text := "", hidden := false }

/-- The two views have the same texts and the same flags. -/
structure Agree (rows : List TextRow) (frames : List LiveFrame) : Prop where
  distinct : (rows.map (·.id)).Nodup
  stored : ∀ id, (liveText frames id).text ≠ "" → ∃ row ∈ rows, row.id = id ∧
    row.content = (liveText frames id).text ∧ row.hidden = (liveText frames id).hidden
  shown : ∀ row ∈ rows, row.hidden = (liveText frames row.id).hidden ∧
    (row.content = (liveText frames row.id).text ∨
      row.hidden = true ∧ (liveText frames row.id).text = "")
  settled : ∀ row ∈ rows, row.status ≠ .work

/-- What a reader sees of the rows. -/
def shownText (rows : List TextRow) : String :=
  String.join ((rows.filter (!·.hidden)).map (·.content))

/-- The middleware changes the text of a turn, or leaves nothing of it. -/
def StreamRelay.Rewrites (r : StreamRelay) (text : String) : Prop :=
  text ≠ "" ∧ ((r.process text).message ≠ text ∨ r.trim (r.process text).message = "")

/-- The rows of a turn with that text, before and after the rewrite: they keep their texts, or show
what the middleware has made of them. -/
structure StreamRelay.Rewritten (r : StreamRelay) (text : String) (before after : List TextRow) :
    Prop where
  ids : after.map (·.id) = before.map (·.id)
  kept : ¬ r.Rewrites text →
    after.map (·.content) = before.map (·.content) ∧ ∀ row ∈ after, row.hidden = false
  shown : r.Rewrites text → shownText after = r.trim (r.process text).message

namespace RelayState

variable (s : RelayState)

/-- The text that was received of a segment, given the rows of those that are closed. -/
def textOf (closed : List TextRow) (id : MsgId) : String :=
  match s.activeText with
  | some active =>
    if active.id = id then active.buffer
    else ((Keyed.lookup (·.id) id closed).map (·.content)).getD ""
  | none => ((Keyed.lookup (·.id) id closed).map (·.content)).getD ""

def activeBuffer : String :=
  (s.activeText.map (·.buffer)).getD ""

def activeIds : List MsgId :=
  (s.activeText.map (·.id)).toList

/-- The segment that has a row which is not final. -/
def workingIds : List MsgId :=
  match s.activeText with
  | some active => if active.recordCreated then [active.id] else []
  | none => []

/-- The closed segments have the rows `closed`, the others have not got that far. -/
structure Mirrored (s : RelayState) (closed : List TextRow) : Prop where
  distinct : s.segments.Nodup
  first : .primary ∈ s.segments → s.usedPrimary = true
  fresh : ∀ n, .minted n ∈ s.segments → n < s.minted
  ids : closed.map (·.id) = s.textSegments
  opened : ∀ id ∈ s.textSegments ++ s.activeIds, id ∈ s.segments
  nodup : (s.textSegments ++ s.activeIds).Nodup
  plain : ∀ row ∈ closed, row.status ≠ .work ∧ row.hidden = false
  rows : ∃ working, s.textRows = closed ++ working ∧ working.map (·.id) = s.workingIds
  created : ∀ active, s.activeText = some active → active.recordCreated = true → active.buffer ≠ ""
  text : String.join (closed.map (·.content)) ++ s.activeBuffer = s.fullText
  live : ∀ id, liveText s.frames id = { text := s.textOf closed id, hidden := false }

variable {s : RelayState} {closed : List TextRow} {allows : RuntimeWriteKind → Bool}
  {segment : TextSegmentState} {status : MessageStatus} {event : StreamRelay.AgentStreamEvent}
  {state : ConversationRuntimeState} {id : MsgId} {content : String} {frame : LiveFrame}

lemma liveText_snoc (frames : List LiveFrame) :
    liveText (frames ++ [frame]) id = frame.fold id (liveText frames id) :=
  List.foldl_concat ..

lemma Mirrored.start : start.Mirrored [] where
  distinct := List.nodup_nil
  first := nofun
  fresh := nofun
  ids := rfl
  opened := nofun
  nodup := List.nodup_nil
  plain := nofun
  rows := ⟨[], rfl, rfl⟩
  created := nofun
  text := rfl
  live _ := rfl

section

variable (h : s.Mirrored closed)
include h

lemma Mirrored.send (other : ∀ id live, frame.fold id live = live) :
    (s.send frame).Mirrored closed :=
  { h with live := fun id => (liveText_snoc _).trans ((other id _).trans (h.live id)) }

lemma Mirrored.forward : (s.forward event).Mirrored closed :=
  h.send fun _ _ => rfl

lemma Mirrored.completeActiveThinking : (s.completeActiveThinking allows).Mirrored closed := by
  rw [RelayState.completeActiveThinking]
  split
  · exact h
  · exact { h.send fun _ _ => rfl with }

lemma Mirrored.next_fresh : s.nextSegmentMsgId ∉ s.segments := by
  rw [nextSegmentMsgId]
  split
  · exact fun mem => lt_irrefl _ (h.fresh _ mem)
  · rename_i unused
    exact fun mem => unused (h.first mem)

lemma Mirrored.mint : s.mintSegmentMsgId.Mirrored closed where
  distinct := by
    apply List.nodup_append.mpr
    refine ⟨h.distinct, List.nodup_singleton _, fun id mem id' mem' => ?_⟩
    rw [List.mem_singleton.mp mem']
    exact fun same => h.next_fresh (same ▸ mem)
  first _ := rfl
  fresh n mem := by
    dsimp only [mintSegmentMsgId]
    obtain mem | mem := List.mem_append.mp mem
    · have lt := h.fresh n mem
      split <;> omega
    · -- Only the primary id is there at first; every id after it is minted.
      rw [List.mem_singleton, nextSegmentMsgId] at mem
      split at mem <;> cases mem
      rename_i used
      rw [if_pos used]
      exact Nat.lt_succ_self _
  ids := h.ids
  opened id mem := List.mem_append_left _ (h.opened id mem)
  nodup := h.nodup
  plain := h.plain
  rows := h.rows
  created := h.created
  text := h.text
  live := h.live

lemma Mirrored.lookup_none (not : id ∉ s.textSegments) : Keyed.lookup (·.id) id closed = none := by
  apply Keyed.lookup_eq_none.mpr
  intro row mem same
  apply not
  rw [← h.ids, ← same]
  exact List.mem_map_of_mem mem

lemma Mirrored.openThinking : s.openThinking.Mirrored closed := by
  rw [RelayState.openThinking]
  split
  · exact h
  · exact { h.mint with }

lemma Mirrored.openText : s.openText.Mirrored closed := by
  rw [RelayState.openText]
  split
  · exact h
  · rename_i idle
    have next : s.nextSegmentMsgId ∉ s.textSegments := by
      intro mem
      exact h.next_fresh (h.opened _ (List.mem_append_left _ mem))
    refine { h.mint with
      opened := ?_, nodup := ?_, rows := ?_, created := ?_, text := ?_, live := ?_ }
    · intro id mem
      obtain mem | mem := List.mem_append.mp mem
      · exact List.mem_append_left _ (h.opened id (List.mem_append_left _ mem))
      · exact List.mem_append_right _ mem
    · apply List.nodup_append.mpr
      refine ⟨(List.nodup_append.mp h.nodup).1, List.nodup_singleton _, fun id mem id' mem' same => ?_⟩
      obtain rfl : id = s.nextSegmentMsgId := same.trans (List.mem_singleton.mp mem')
      exact next mem
    · obtain ⟨working, rows, ids⟩ := h.rows
      refine ⟨working, rows, ?_⟩
      rw [workingIds, idle] at ids
      exact ids
    · intro active opened created
      cases opened
      cases created
    · have text := h.text
      rw [activeBuffer, idle] at text
      exact text
    · intro id
      have live := h.live id
      rw [textOf, idle] at live
      rw [textOf]
      dsimp only
      split
      · rename_i same
        rw [← same, h.lookup_none next] at live
        rw [← same]
        exact live
      · exact live

end

/-! While a segment is active, it is the one that is open. -/

section

variable (h : s.Mirrored closed)
include h

variable (active : s.activeText = some segment)
include active

lemma Mirrored.opened_active : ∀ id ∈ s.textSegments ++ [segment.id], id ∈ s.segments := by
  have opened := h.opened
  rw [activeIds, active] at opened
  exact opened

lemma Mirrored.nodup_active : (s.textSegments ++ [segment.id]).Nodup := by
  have nodup := h.nodup
  rw [activeIds, active] at nodup
  exact nodup

lemma Mirrored.text_active :
    String.join (closed.map (·.content)) ++ segment.buffer = s.fullText := by
  have text := h.text
  rw [activeBuffer, active] at text
  exact text

lemma Mirrored.live_active (id : MsgId) : liveText s.frames id =
      { text :=
          if segment.id = id then segment.buffer
          else ((Keyed.lookup (·.id) id closed).map (·.content)).getD ""
        hidden := false } := by
  have live := h.live id
  rw [textOf, active] at live
  exact live

lemma Mirrored.append (content : String) (n : Nat) :
    ({ s.send (.content segment.id content) with
        fullText := s.fullText ++ content
        activeText := some { segment with
          buffer := segment.buffer ++ content,
          flushCounter := n } } : RelayState).Mirrored closed := by
  refine { h with opened := ?_, nodup := ?_, rows := ?_, created := ?_, text := ?_, live := ?_ }
  · exact (h.opened_active active :)
  · exact (h.nodup_active active :)
  · obtain ⟨working, rows, ids⟩ := h.rows
    rw [workingIds, active] at ids
    exact ⟨working, rows, ids⟩
  · -- A row is only there if its segment has text, and text is never taken back.
    rintro _ ⟨⟩ created empty
    exact h.created segment active created (String.append_eq_empty_iff.mp empty).1
  · rw [← h.text_active active, String.append_assoc]
    rfl
  · intro id
    rw [RelayState.send, liveText_snoc, h.live_active active, LiveFrame.fold, textOf]
    dsimp only
    split <;> rfl

end

lemma updateMessage_append (f : TextRow → TextRow) (rows rows' : List TextRow) :
    updateMessage id f (rows ++ rows') = updateMessage id f rows ++ updateMessage id f rows' :=
  List.map_append

lemma updateMessage_absent {f : TextRow → TextRow} {rows : List TextRow}
    (absent : id ∉ rows.map (·.id)) : updateMessage id f rows = rows := by
  refine (List.map_congr_left fun row mem => ?_).trans (List.map_id _)
  have other : row.id ≠ id := by
    rintro rfl
    exact absent (List.mem_map_of_mem mem)
  exact if_neg other

section

variable (h : s.Mirrored closed)
include h

section

variable (active : s.activeText = some segment)
include active

lemma Mirrored.absent : segment.id ∉ closed.map (·.id) := by
  have nodup := List.nodup_append.mp (h.nodup_active active)
  rw [h.ids]
  exact fun mem => nodup.2.2 _ mem _ (List.mem_singleton_self _) rfl

lemma Mirrored.update_working (created : segment.recordCreated = true) (f : TextRow → TextRow) :
    ∃ row, row.id = segment.id ∧ updateMessage segment.id f s.textRows = closed ++ [f row] := by
  obtain ⟨working, rows, ids⟩ := h.rows
  rw [workingIds, active] at ids
  dsimp only at ids
  rw [if_pos created, List.map_eq_singleton_iff] at ids
  obtain ⟨row, rfl, same⟩ := ids
  refine ⟨row, same, ?_⟩
  rw [rows, updateMessage_append, updateMessage_absent (h.absent active)]
  exact congrArg (closed ++ [·]) (if_pos same)

lemma Mirrored.rows_closed (missing : segment.recordCreated = false) : s.textRows = closed := by
  obtain ⟨working, rows, ids⟩ := h.rows
  rw [workingIds, active] at ids
  dsimp only at ids
  rw [if_neg (by rw [missing]; exact Bool.false_ne_true), List.map_eq_nil_iff] at ids
  rw [rows, ids, List.append_nil]

lemma Mirrored.rework (n : Nat)
    (created : Bool) (some_ : created = true → segment.buffer ≠ "") {rows working : List TextRow}
    (eq : rows = closed ++ working)
    (ids : working.map (·.id) = if created then [segment.id] else []) :
    ({ s with
        activeText := some { segment with flushCounter := n, recordCreated := created }
        textRows := rows } : RelayState).Mirrored closed := by
  refine { h with
    opened := ?_, nodup := ?_, rows := ⟨working, eq, ids⟩, created := ?_, text := ?_,
    live := fun id => ?_ }
  · exact (h.opened_active active :)
  · exact (h.nodup_active active :)
  · rintro _ ⟨⟩
    exact some_
  · exact (h.text_active active :)
  · exact (h.live_active active id :)

lemma Mirrored.flush : (s.flushTextSegment allows segment).Mirrored closed := by
  rw [flushTextSegment]
  split
  · obtain ⟨working, rows, ids⟩ := h.rows
    rw [workingIds, active] at ids
    exact h.rework active 0 segment.recordCreated (h.created segment active) rows ids
  · rename_i writes
    have some_ := (not_or.mp writes).2
    split
    · -- The row is there and gets the new text, else it is added.
      rename_i created
      obtain ⟨row, same, rows⟩ := h.update_working active created
        fun row => { row with content := segment.buffer, status := .work }
      refine h.rework active 0 segment.recordCreated (h.created segment active) rows ?_
      rw [if_pos created]
      exact congrArg ([·]) same
    · rename_i missing
      have rows := h.rows_closed active (eq_false_of_ne_true missing)
      exact h.rework active 0 true (fun _ => some_) (congrArg (· ++ _) rows) rfl

end

lemma Mirrored.appendText : (s.appendText allows content).Mirrored closed := by
  rw [RelayState.appendText]
  split
  · exact h
  · rename_i segment active
    have appended := h.append active content (segment.flushCounter + 1)
    dsimp only
    split
    · exact appended.flush rfl
    · exact appended

lemma Mirrored.appendThinking : (s.appendThinking content event).Mirrored closed := by
  rw [RelayState.appendThinking]
  split
  · exact h
  · exact { h.send fun _ _ => rfl with }

lemma Mirrored.sawVisibleOutput : s.sawVisibleOutput.Mirrored closed :=
  { h with }

lemma Mirrored.sawToolOrSideEffect : s.sawToolOrSideEffect.Mirrored closed :=
  { h with }

lemma Mirrored.onTips {tipType : TipType} {code : Option String} :
    (s.onTips tipType code).Mirrored closed := by
  rw [RelayState.onTips]
  apply Mirrored.forward
  split <;> split
  · exact { h with }
  · exact { h with }
  · exact { h with }
  · exact h

lemma Mirrored.onText : (s.onText allows content).Mirrored closed := by
  rw [RelayState.onText]
  apply Mirrored.appendText
  apply Mirrored.openText
  split
  · exact h.completeActiveThinking
  · exact h.completeActiveThinking.sawVisibleOutput

lemma Mirrored.close_empty (active : s.activeText = some segment)
    (empty : segment.buffer = "") : ({ s with activeText := none } : RelayState).Mirrored closed := by
  have absent := h.absent active
  have missing : segment.recordCreated = false := by
    apply eq_false_of_ne_true
    exact fun created => h.created segment active created empty
  refine { h with
    opened := ?_, nodup := ?_, rows := ?_, created := ?_, text := ?_, live := fun id => ?_ }
  · intro id mem
    obtain mem | mem := List.mem_append.mp mem
    · exact h.opened id (List.mem_append_left _ mem)
    · cases mem
  · exact (List.append_nil _).symm ▸ (List.nodup_append.mp h.nodup).1
  · exact ⟨[], (h.rows_closed active missing).trans (List.append_nil _).symm, rfl⟩
  · exact nofun
  · exact (congrArg _ empty.symm).trans (h.text_active active)
  · have live := h.live_active active id
    split at live
    · rename_i same
      rw [live, textOf]
      dsimp only
      rw [← same, h.lookup_none (h.ids ▸ absent), empty]
      rfl
    · exact live

lemma Mirrored.close (active : s.activeText = some segment)
    (final : status ≠ .work) {rows : List TextRow} (eq : rows = closed ++
      [{ id := segment.id, content := segment.buffer, status, hidden := false }]) :
    ({ s with
        activeText := none
        textSegments := s.textSegments ++ [segment.id]
        textRows := rows } : RelayState).Mirrored
      (closed ++ [{ id := segment.id, content := segment.buffer, status, hidden := false }]) := by
  have absent := h.absent active
  refine { h with
    ids := ?_, opened := ?_, nodup := ?_, plain := ?_, rows := ?_, created := ?_, text := ?_
    live := fun id => ?_ }
  · rw [List.map_append, h.ids]
    rfl
  · exact (List.append_nil _).symm ▸ h.opened_active active
  · exact (List.append_nil _).symm ▸ h.nodup_active active
  · intro row mem
    obtain mem | mem := List.mem_append.mp mem
    · exact h.plain row mem
    · rw [List.mem_singleton.mp mem]
      exact ⟨final, rfl⟩
  · exact ⟨[], eq.trans (List.append_nil _).symm, rfl⟩
  · exact nofun
  · rw [List.map_append, String.join_append, ← h.text_active active]
    change _ ++ String.join [segment.buffer] ++ "" = _
    rw [String.join_cons, String.join_nil, String.append_empty, String.append_empty]
  · rw [h.live_active active id, textOf]
    dsimp only
    rw [Keyed.lookup_append]
    split
    · rename_i same
      rw [← same, h.lookup_none (h.ids ▸ absent), Keyed.lookup_cons, if_pos rfl]
      rfl
    · rename_i other
      rw [Keyed.lookup_cons, if_neg other, Keyed.lookup_nil, Option.or_none]

lemma Mirrored.closeActiveText (status : MessageStatus)
    (allowed : allows .assistantTextFinalize = true) (final : status ≠ .work) :
    ∃ closed', (s.closeActiveText allows status).Mirrored closed' ∧
      (s.closeActiveText allows status).activeText = none := by
  rw [RelayState.closeActiveText]
  split
  · rename_i idle
    exact ⟨closed, h, idle⟩
  · rename_i segment active
    split
    · -- With writes allowed, only an empty segment is left without a row.
      rename_i empty
      have empty := empty.resolve_left (by simp [allowed])
      exact ⟨closed, h.close_empty active empty, rfl⟩
    · refine ⟨_, h.close active final ?_, rfl⟩
      split
      · rename_i created
        obtain ⟨row, same, rows⟩ := h.update_working active created
          fun row => { row with content := segment.buffer, status, hidden := false }
        rw [rows, same]
      · rename_i missing
        rw [h.rows_closed active (eq_false_of_ne_true missing)]

lemma Mirrored.closeSegments (status : MessageStatus)
    (allowed : allows .assistantTextFinalize = true) (final : status ≠ .work) :
    ∃ closed', (s.closeSegments allows status).Mirrored closed' ∧
      (s.closeSegments allows status).activeText = none :=
  h.completeActiveThinking.closeActiveText status allowed final

lemma Mirrored.onThinking {subject thinking : Option String}
    (allowed : allows .assistantTextFinalize = true) :
    ∃ closed', (s.onThinking allows content subject thinking).Mirrored closed' := by
  rw [RelayState.onThinking]
  split
  · exact ⟨closed, h.completeActiveThinking⟩
  · split
    · exact ⟨closed, h⟩
    · obtain ⟨closed', h', _⟩ := h.closeActiveText .finish allowed (by decide)
      refine ⟨closed', Mirrored.appendThinking (Mirrored.openThinking ?_)⟩
      split
      · exact h'
      · exact h'.sawVisibleOutput

lemma Mirrored.handle (event : StreamRelay.AgentStreamEvent) (writable : state.Writable) :
    ∃ closed', (s.handle state event).Mirrored closed' := by
  have allowed : state.lifecycle.allows .assistantTextFinalize = true :=
    writable.allows (.inr (.inl rfl))
  have present : ¬ state.deleting = true := by
    simp [writable.deleting]
  unfold RelayState.handle
  rw [if_neg present]
  cases event with
  | segmentBreak =>
    obtain ⟨closed', h', _⟩ := h.closeSegments .finish allowed (by decide)
    exact ⟨closed', h'⟩
  | thinking content subject thinking => exact h.onThinking allowed
  | text content => exact ⟨closed, h.onText⟩
  | toolCall | acpToolCall | toolGroup =>
    obtain ⟨closed', h', _⟩ := h.sawToolOrSideEffect.closeSegments .finish allowed (by decide)
    exact ⟨closed', h'.forward⟩
  | tips tipType code =>
    exact ⟨closed, h.onTips⟩
  | cronTrigger | permission | acpPermission | ask => exact ⟨closed, h.sawToolOrSideEffect.forward⟩
  | workflowProgress _ | acpSessionInfo | plan | forwarded => exact ⟨closed, h.forward⟩
  | acpDialectSignal | backendTurnBound _ | messageLifecycle | finish | error _ => exact ⟨closed, h⟩

end

variable {closing : ConversationRuntimeState}
  {events : List (ConversationRuntimeState × StreamRelay.AgentStreamEvent)}

lemma Mirrored.loop (h : s.Mirrored closed) (closing : ConversationRuntimeState)
    (writable : ∀ e ∈ events, e.1.Writable) :
    ∃ closed', (StreamRelay.loop closing s events).1.Mirrored closed' := by
  induction events generalizing s closed with
  | nil => exact ⟨closed, h⟩
  | cons e rest ih =>
    obtain ⟨state, event⟩ := e
    obtain ⟨here, later⟩ := List.forall_mem_cons.mp writable
    obtain ⟨ending, loop, _⟩ | ⟨loop, _⟩ := StreamRelay.loop_cons event
    · rw [loop]
      exact ⟨closed, h⟩
    · obtain ⟨closed', h'⟩ := h.handle event here
      rw [loop]
      exact ih h' later

lemma loop_writable (writable : ∀ e ∈ events, e.1.Writable) (closes : closing.Writable) :
    (StreamRelay.loop closing s events).2.1.Writable := by
  induction events generalizing s with
  | nil => exact closes
  | cons e rest ih =>
    obtain ⟨state, event⟩ := e
    obtain ⟨here, later⟩ := List.forall_mem_cons.mp writable
    obtain ⟨ending, loop, _⟩ | ⟨loop, _⟩ := StreamRelay.loop_cons event
    · rw [loop]
      exact here
    · rw [loop]
      exact ih later

lemma foldl_updateMessage (f : TextRow → TextRow) (keeps : ∀ row, (f row).id = row.id)
    (again : ∀ row, f (f row) = f row) (ids : List MsgId) (rows : List TextRow) :
    ids.foldl (fun rows id => updateMessage id f rows) rows =
      rows.map fun row => if row.id ∈ ids then f row else row := by
  induction ids generalizing rows with
  | nil => exact (List.map_id _).symm
  | cons id ids ih =>
    rw [List.foldl_cons, ih, updateMessage, List.map_map]
    apply List.map_congr_left
    intro row _
    rw [Function.comp_apply]
    by_cases here : row.id = id
    · simp [here, keeps, again]
    · simp [here]

lemma liveText_hidden (frames : List LiveFrame) (ids : List MsgId) :
    liveText (frames ++ ids.map (.replace · "" true)) id =
      if id ∈ ids then { text := "", hidden := true } else liveText frames id := by
  induction ids generalizing frames with
  | nil => rw [List.map_nil, List.append_nil, if_neg List.not_mem_nil]
  | cons first ids ih =>
    rw [List.map_cons, List.append_cons, ih, liveText_snoc, LiveFrame.fold]
    by_cases here : first = id
    · simp [here]
    · simp [here, Ne.symm here]

lemma liveText_system (frames : List LiveFrame) (responses : List String) :
    liveText (frames ++ responses.map .system) id = liveText frames id := by
  induction responses generalizing frames with
  | nil => rw [List.map_nil, List.append_nil]
  | cons response responses ih =>
    rw [List.map_cons, List.append_cons, ih, liveText_snoc]
    rfl

lemma agree_of {rows : List TextRow} {frames : List LiveFrame} (distinct : (rows.map (·.id)).Nodup)
    (shown : ∀ row ∈ rows, row.hidden = (liveText frames row.id).hidden ∧
      (row.content = (liveText frames row.id).text ∨
        row.hidden = true ∧ (liveText frames row.id).text = ""))
    (absent : ∀ id, id ∉ rows.map (·.id) → (liveText frames id).text = "")
    (settled : ∀ row ∈ rows, row.status ≠ .work) : Agree rows frames where
  distinct := distinct
  stored id some_ := by
    have present : id ∈ rows.map (·.id) := by
      by_contra missing
      exact some_ (absent id missing)
    obtain ⟨row, mem, rfl⟩ := List.mem_map.mp present
    obtain ⟨hidden, same | ⟨_, empty⟩⟩ := shown row mem
    · exact ⟨row, mem, rfl, same, hidden⟩
    · exact absurd empty some_
  shown := shown
  settled := settled

lemma Mirrored.idle (h : s.Mirrored closed) (idle : s.activeText = none) :
    s.textRows = closed ∧ (closed.map (·.id)).Nodup ∧
      (∀ row ∈ closed, liveText s.frames row.id = { text := row.content, hidden := false }) ∧
      ∀ id, id ∉ closed.map (·.id) → (liveText s.frames id).text = "" := by
  have nodup : (closed.map (·.id)).Nodup := by
    rw [h.ids]
    exact (List.nodup_append.mp h.nodup).1
  have live : ∀ id, liveText s.frames id =
      { text := ((Keyed.lookup (·.id) id closed).map (·.content)).getD "", hidden := false } := by
    intro id
    rw [h.live id, textOf, idle]
  refine ⟨?_, nodup, fun row mem => ?_, fun id absent => ?_⟩
  · obtain ⟨working, rows, ids⟩ := h.rows
    rw [workingIds, idle, List.map_eq_nil_iff] at ids
    rw [rows, ids, List.append_nil]
  · rw [live, Keyed.lookup_of_mem nodup mem]
    rfl
  · rw [live, h.lookup_none (h.ids ▸ absent)]
    rfl

lemma Mirrored.agree_plain (h : s.Mirrored closed) (idle : s.activeText = none)
    (final : status ≠ .work) (responses : List String) :
    Agree (closed.map fun row => { row with status, hidden := false })
      (s.frames ++ [] ++ responses.map .system) := by
  obtain ⟨_, nodup, live, absent⟩ := h.idle idle
  rw [List.append_nil]
  have ids : (closed.map fun row => { row with status, hidden := false }).map (·.id) =
      closed.map (·.id) := List.map_map
  apply agree_of
  · rw [ids]
    exact nodup
  · intro row mem
    obtain ⟨old, there, rfl⟩ := List.mem_map.mp mem
    rw [liveText_system, live old there]
    exact ⟨rfl, .inl rfl⟩
  · intro id missing
    rw [ids] at missing
    rw [liveText_system, absent id missing]
  · intro row mem
    obtain ⟨old, mem, rfl⟩ := List.mem_map.mp mem
    exact final

/-- A rewritten text is in the first row, and the others are hidden. -/
lemma Mirrored.agree_rewritten {row : TextRow} {rest : List TextRow} (h : s.Mirrored (row :: rest))
    (idle : s.activeText = none) (final : status ≠ .work) (finalText : String) (hidden : Bool)
    (responses : List String) :
    Agree ({ row with content := finalText, status, hidden } ::
        rest.map fun row => { row with status, hidden := true })
      (s.frames ++ (.replace row.id finalText hidden :: (rest.map (·.id)).map (.replace · "" true)) ++
        responses.map .system) := by
  obtain ⟨_, nodup, live, absent⟩ := h.idle idle
  have ids : (rest.map fun row => { row with status, hidden := true }).map (·.id) =
      rest.map (·.id) := List.map_map
  rw [List.map_cons, List.nodup_cons] at nodup
  have other : ∀ old ∈ rest, old.id ≠ row.id := fun old mem same =>
    nodup.1 (same ▸ List.mem_map_of_mem mem)
  have live' : ∀ id, liveText (s.frames ++ (.replace row.id finalText hidden ::
        (rest.map (·.id)).map (.replace · "" true)) ++ responses.map .system) id =
      if id ∈ rest.map (·.id) then { text := "", hidden := true }
      else if row.id = id then { text := finalText, hidden }
      else liveText s.frames id := by
    intro id
    rw [liveText_system, List.append_cons, liveText_hidden, liveText_snoc]
    rfl
  apply agree_of
  · rw [List.map_cons, ids]
    exact List.nodup_cons.mpr nodup
  · intro row' mem
    rw [live']
    obtain rfl | mem := List.mem_cons.mp mem
    · rw [if_neg nodup.1, if_pos rfl]
      exact ⟨rfl, .inl rfl⟩
    · obtain ⟨old, there, rfl⟩ := List.mem_map.mp mem
      rw [if_pos (List.mem_map_of_mem there)]
      exact ⟨rfl, .inr ⟨rfl, rfl⟩⟩
  · intro id missing
    rw [List.map_cons, ids, List.mem_cons, not_or] at missing
    rw [live', if_neg missing.2, if_neg (Ne.symm missing.1)]
    exact absent id (List.not_mem_cons_of_ne_of_not_mem missing.1 missing.2)
  · intro row' mem
    obtain rfl | mem := List.mem_cons.mp mem
    · exact final
    · obtain ⟨old, there, rfl⟩ := List.mem_map.mp mem
      exact final

lemma map_updated {f : TextRow → TextRow} (rows : List TextRow) :
    (rows.map fun row => if row.id ∈ rows.map (·.id) then f row else row) = rows.map f := by
  apply List.map_congr_left
  intro row mem
  exact if_pos (List.mem_map_of_mem mem)

lemma rewriteRows_eq {row : TextRow} {rest : List TextRow}
    (nodup : ((row :: rest).map (·.id)).Nodup) (finalText : String) (hidden rewrite : Bool) :
    rewriteRows ((row :: rest).map (·.id)) status finalText hidden rewrite (row :: rest) =
      if rewrite then
        { row with content := finalText, status, hidden } ::
          rest.map fun row => { row with status, hidden := true }
      else (row :: rest).map fun row => { row with status, hidden := false } := by
  rw [List.map_cons, List.nodup_cons] at nodup
  rw [List.map_cons, rewriteRows]
  split
  · rw [foldl_updateMessage (fun row => { row with status, hidden := true }) (fun _ => rfl)
      (fun _ => rfl)]
    have first : updateMessage row.id (fun row => { row with content := finalText, status, hidden })
        (row :: rest) = { row with content := finalText, status, hidden } :: rest := by
      rw [updateMessage, List.map_cons, if_pos rfl]
      exact congrArg _ (updateMessage_absent nodup.1)
    rw [first, List.map_cons, if_neg nodup.1, map_updated]
  · rw [foldl_updateMessage (fun row => { row with status, hidden := false }) (fun _ => rfl)
      (fun _ => rfl)]
    exact map_updated (row :: rest)

lemma shownText_rewritten (row : TextRow) (rest : List TextRow) (finalText : String) :
    shownText ({ row with content := finalText, status, hidden := decide (finalText = "") } ::
      rest.map fun row => { row with status, hidden := true }) = finalText := by
  have others : (rest.map fun row => { row with status, hidden := true }).filter (!·.hidden) = [] := by
    rw [List.filter_eq_nil_iff]
    intro row mem
    obtain ⟨old, -, rfl⟩ := List.mem_map.mp mem
    exact Bool.false_ne_true
  rw [shownText, List.filter_cons, others]
  by_cases empty : finalText = ""
  · simp [empty]
  · simp [empty]

lemma Mirrored.finalize (h : s.Mirrored closed) (idle : s.activeText = none) (r : StreamRelay)
    (allowed : allows .terminalFinalize = true) (error : Option AgentStreamErrorData) :
    Agree (r.finalize s allows error).2.textRows (r.finalize s allows error).2.frames ∧
      r.Rewritten s.fullText s.textRows (r.finalize s allows error).2.textRows := by
  have final : (if error.isSome then MessageStatus.error else .finish) ≠ .work := by
    split <;> decide
  obtain ⟨rows, nodup, live, absent⟩ := h.idle idle
  unfold StreamRelay.finalize
  dsimp only
  split
  · rename_i silent
    have plain : Agree s.textRows s.frames := by
      rw [rows]
      refine agree_of nodup (fun row mem => ?_) absent fun row mem => (h.plain row mem).1
      rw [live row mem]
      exact ⟨(h.plain row mem).2, .inl rfl⟩
    have same : r.Rewritten s.fullText s.textRows s.textRows :=
      ⟨rfl, fun _ => ⟨rfl, fun row mem => (h.plain row (rows ▸ mem)).2⟩,
        fun rewrites => absurd silent rewrites.1⟩
    cases error <;> exact ⟨plain, same⟩
  · rename_i some_
    dsimp only
    rw [rows, ← h.ids]
    cases closed with
    | nil =>
      -- Without a closed segment there is no text.
      have text := h.text
      rw [activeBuffer, idle] at text
      exact absurd text.symm some_
    | cons row rest =>
      have overrides : ∀ finalText hidden rewrite,
          finalOverrides ((row :: rest).map (·.id)) finalText hidden rewrite =
            if rewrite then
              .replace row.id finalText hidden :: (rest.map (·.id)).map (.replace · "" true)
            else [] := fun _ _ _ => rfl
      rw [rewriteRows_eq nodup, overrides]
      split
      · rename_i rewrite
        have rewrites : r.Rewrites s.fullText := by
          refine ⟨some_, ?_⟩
          simpa only [Bool.or_eq_true, decide_eq_true_eq] using rewrite
        exact ⟨h.agree_rewritten idle final _ _ _, congrArg (row.id :: ·) List.map_map,
          (absurd rewrites ·), fun _ => shownText_rewritten row rest _⟩
      · rename_i keep
        refine ⟨h.agree_plain idle final _, List.map_map, fun _ => ⟨List.map_map, fun row mem => ?_⟩,
          fun rewrites => absurd ?_ keep⟩
        · obtain ⟨old, -, rfl⟩ := List.mem_map.mp mem
          rfl
        · simpa only [Bool.or_eq_true, decide_eq_true_eq] using rewrites.2

lemma finalize_segments (r : StreamRelay) (error : Option AgentStreamErrorData) :
    (r.finalize s allows error).2.segments = s.segments := by
  unfold StreamRelay.finalize
  dsimp only
  split
  · cases error with
    | none => rfl
    | some data =>
      dsimp only
      split <;> rfl
  · rfl

lemma status_ne_work (ending : StreamRelay.RelayEnd) : ending.status ≠ .work := by
  cases ending <;> simp [StreamRelay.RelayEnd.status]

lemma close_textRows (writable : state.Writable) (ending : StreamRelay.RelayEnd) :
    (StreamRelay.close s state ending).textRows =
      (s.closeSegments state.lifecycle.allows ending.status).textRows := by
  rw [StreamRelay.close, if_neg (by simp [writable.deleting])]
  cases ending <;> rfl

lemma Mirrored.conclude (h : s.Mirrored closed) (writable : state.Writable) (r : StreamRelay)
    (ending : StreamRelay.RelayEnd) :
    Agree (r.conclude s state ending).2.textRows (r.conclude s state ending).2.frames ∧
      r.Rewritten s.fullText (StreamRelay.close s state ending).textRows
        (r.conclude s state ending).2.textRows ∧
      (r.conclude s state ending).2.segments.Nodup := by
  obtain ⟨closed', closes, idle⟩ :=
    h.closeSegments _ (writable.allows (.inr (.inl rfl))) (status_ne_work ending)
  have present : ¬ state.deleting = true := by
    simp [writable.deleting]
  have allowed : state.lifecycle.allows .terminalFinalize = true :=
    writable.allows (.inr (.inr (.inr rfl)))
  have text : s.fullText = (s.closeSegments state.lifecycle.allows ending.status).fullText :=
    Kept.closeSegments.fullText.symm
  rw [close_textRows writable]
  unfold StreamRelay.conclude StreamRelay.close
  dsimp only
  rw [if_neg present, if_neg present, finalize_segments, text]
  cases ending with
  | closed =>
    obtain ⟨agree, rewritten⟩ := closes.finalize idle r allowed _
    exact ⟨agree, rewritten, closes.distinct⟩
  | finish | error _ =>
    obtain ⟨agree, rewritten⟩ := closes.forward.finalize idle r allowed _
    exact ⟨agree, rewritten, closes.distinct⟩

end RelayState

open RelayState

lemma StreamRelay.terminate_direct {r : StreamRelay} (direct : r.deferCleanTerminalErrors = false)
    (s : RelayState) (state : ConversationRuntimeState) (ending : StreamRelay.RelayEnd) :
    r.terminate s state ending = r.conclude s state ending := by
  cases ending with
  | finish | closed => rfl
  | error data =>
    rw [terminate, defersError, direct]
    rfl

/-- For every sequence of events of a turn whose writes are allowed and whose error is not deferred:
the rows of the segments hold the whole text before the rewrite, which leaves it or puts what the
middleware has made of it in its place; the live frames and the rows agree at the end, and no two
segments have the same id. -/
theorem transcripts_agree (r : StreamRelay) (closing : ConversationRuntimeState)
    (events : List (ConversationRuntimeState × StreamRelay.AgentStreamEvent))
    (direct : r.deferCleanTerminalErrors = false) (writable : ∀ e ∈ events, e.1.Writable)
    (closes : closing.Writable) :
    let text := String.join ((StreamRelay.handledEvents events).map (·.contents))
    let ended := StreamRelay.loop closing .start events
    let before := (StreamRelay.close ended.1 ended.2.1 ended.2.2).textRows
    let final := (r.consume closing events).2
    String.join (before.map (·.content)) = text ∧ r.Rewritten text before final.textRows ∧
      Agree final.textRows final.frames ∧ final.segments.Nodup := by
  obtain ⟨opened, looped⟩ := Mirrored.start.loop closing writable
  have ends := loop_writable (s := .start) writable closes
  obtain ⟨closed, mirrored, idle⟩ :=
    looped.closeSegments _ (ends.allows (.inr (.inl rfl))) (status_ne_work _)
  have text := (StreamRelay.loop_collected closing events .start).fullText.trans String.empty_append
  obtain ⟨agree, rewritten, distinct⟩ := looped.conclude ends r (StreamRelay.loop closing .start events).2.2
  rw [StreamRelay.consume, StreamRelay.terminate_direct direct]
  refine ⟨?_, text ▸ rewritten, agree, distinct⟩
  have before := mirrored.text
  rw [activeBuffer, idle] at before
  rw [close_textRows ends, (mirrored.idle idle).1, ← String.append_empty (s := String.join _)]
  exact before.trans (Kept.closeSegments.fullText.trans text)

/-- Thinking, text in two chunks, a tool, more text, and a rewrite by the middleware. -/
theorem transcripts_agree_rewritten :
    let r : StreamRelay := {
      process := fun _ => { message := "ac", systemResponses := ["done"] }
      trim := id
      deferCleanTerminalErrors := false }
    let events := [.thinking "t" none none, .text "a", .text "", .toolCall, .text "b",
      .finish].map fun event => (ConversationRuntimeState.default, event)
    let final := (r.consume .default events).2
    shownText final.textRows = "ac" ∧ Agree final.textRows final.frames :=
  have ⟨_, rewritten, agree, _⟩ := transcripts_agree _ .default _ rfl
    (fun e mem => by
      obtain ⟨event, _, rfl⟩ := List.mem_map.mp mem
      exact ⟨rfl, rfl⟩) ⟨rfl, rfl⟩
  ⟨rewritten.shown ⟨by decide, .inl (by decide)⟩, agree⟩

end KiCore.Conversation

import KiCore.Conversation.StreamRelay

/-!
# What a relay reports

The operations on segments keep the text, the summary of the attempt and the errors (`Kept`), so an
event adds to them what it says (`handle_spec`), and a relay reports what its events have produced.
An error is deferred, or it is shown once.
-/

namespace KiCore.Conversation

def LiveFrame.errorData : LiveFrame → Option AgentStreamErrorData
  | .event _ (.error data) => some data
  | _ => none

def StreamRelay.AgentStreamEvent.contents : StreamRelay.AgentStreamEvent → String
  | .text content => content
  | _ => ""

/-- Text and thinking that the user sees, and the tip of a success. -/
def StreamRelay.AgentStreamEvent.visible : StreamRelay.AgentStreamEvent → Bool
  | .text content => content ≠ ""
  | .thinking content _ status => status ≠ some "done" && content ≠ ""
  | .tips tipType _ => tipType = .success
  | _ => false

def StreamRelay.AgentStreamEvent.sideEffect : StreamRelay.AgentStreamEvent → Bool
  | .toolCall | .acpToolCall | .toolGroup | .cronTrigger | .permission | .acpPermission | .ask => true
  | _ => false

def StreamRelay.AgentStreamEvent.signalsAuth : StreamRelay.AgentStreamEvent → Bool
  | .tips _ code => code = some "ACP_EMPTY_TURN_NEEDS_AUTH"
  | _ => false

def TurnAttemptSummary.note (a : TurnAttemptSummary) (event : StreamRelay.AgentStreamEvent) :
    TurnAttemptSummary :=
  { a with
    sawVisibleOutput := a.sawVisibleOutput || event.visible
    sawToolOrSideEffect := a.sawToolOrSideEffect || event.sideEffect
    needsAuth := a.needsAuth || event.signalsAuth }

/-- An event that is neither visible nor a side effect, and adds no text. -/
structure StreamRelay.AgentStreamEvent.Silent (event : StreamRelay.AgentStreamEvent) : Prop where
  contents : event.contents = ""
  visible : event.visible = false
  sideEffect : event.sideEffect = false
  signalsAuth : event.signalsAuth = false

lemma TurnAttemptSummary.note_silent {a : TurnAttemptSummary} {event : StreamRelay.AgentStreamEvent}
    (silent : event.Silent) : a.note event = a := by
  rw [note, silent.visible, silent.sideEffect, silent.signalsAuth]
  simp only [Bool.or_false]

lemma TurnAttemptSummary.note_visible {a : TurnAttemptSummary} {event : StreamRelay.AgentStreamEvent}
    (visible : event.visible = true) (sideEffect : event.sideEffect = false)
    (signalsAuth : event.signalsAuth = false) :
    { a with sawVisibleOutput := true } = a.note event := by
  rw [note, visible, sideEffect, signalsAuth]
  simp only [Bool.or_false, Bool.or_true]

lemma TurnAttemptSummary.note_sideEffect {a : TurnAttemptSummary}
    {event : StreamRelay.AgentStreamEvent}
    (visible : event.visible = false) (sideEffect : event.sideEffect = true)
    (signalsAuth : event.signalsAuth = false) :
    { a with sawToolOrSideEffect := true } = a.note event := by
  rw [note, visible, sideEffect, signalsAuth]
  simp only [Bool.or_false, Bool.or_true]

namespace RelayState

def shownErrors (s : RelayState) : List AgentStreamErrorData :=
  s.frames.filterMap (·.errorData)

/-- The second state has the text, the summary and the errors of the first one. -/
structure Kept (s s' : RelayState) : Prop where
  fullText : s'.fullText = s.fullText
  attempt : s'.attempt = s.attempt
  errorTips : s'.errorTips = s.errorTips
  shownErrors : s'.shownErrors = s.shownErrors

variable {s s' s'' : RelayState} {allows : RuntimeWriteKind → Bool} {segment : TextSegmentState}
  {status : MessageStatus} {event : StreamRelay.AgentStreamEvent} {state : ConversationRuntimeState}
  {content : String} {frame : LiveFrame}

lemma Kept.refl : Kept s s :=
  ⟨rfl, rfl, rfl, rfl⟩

lemma Kept.trans (h : Kept s s') (h' : Kept s' s'') : Kept s s'' where
  fullText := h'.fullText.trans h.fullText
  attempt := h'.attempt.trans h.attempt
  errorTips := h'.errorTips.trans h.errorTips
  shownErrors := h'.shownErrors.trans h.shownErrors

lemma shownErrors_send (other : frame.errorData = none) :
    (s.send frame).shownErrors = s.shownErrors := by
  rw [shownErrors, RelayState.send, List.filterMap_append, List.filterMap_cons_none other]
  exact List.append_nil _

lemma Kept.send (other : frame.errorData = none) : Kept s (s.send frame) where
  fullText := rfl
  attempt := rfl
  errorTips := rfl
  shownErrors := shownErrors_send other

lemma Kept.completeActiveThinking : Kept s (s.completeActiveThinking allows) := by
  rw [RelayState.completeActiveThinking]
  split
  · exact .refl
  · exact ⟨rfl, rfl, rfl, shownErrors_send rfl⟩

lemma Kept.closeActiveText : Kept s (s.closeActiveText allows status) := by
  rw [RelayState.closeActiveText]
  split
  · exact .refl
  · split <;> exact { Kept.refl with }

lemma Kept.closeSegments : Kept s (s.closeSegments allows status) :=
  Kept.completeActiveThinking.trans .closeActiveText

lemma Kept.openThinking : Kept s s.openThinking := by
  rw [RelayState.openThinking]
  split <;> exact { Kept.refl with }

lemma Kept.openText : Kept s s.openText := by
  rw [RelayState.openText]
  split <;> exact { Kept.refl with }

lemma Kept.flushTextSegment : Kept s (s.flushTextSegment allows segment) := by
  rw [RelayState.flushTextSegment]
  split
  · exact { Kept.refl with }
  · split <;> exact { Kept.refl with }

lemma Kept.appendThinking {subject status : Option String} :
    Kept s (s.appendThinking content (.thinking content subject status)) := by
  rw [RelayState.appendThinking]
  split
  · exact .refl
  · exact ⟨rfl, rfl, rfl, shownErrors_send rfl⟩

/-- The second state is the first one with what an event adds. -/
structure Handled (event : StreamRelay.AgentStreamEvent) (s s' : RelayState) : Prop where
  fullText : s'.fullText = s.fullText ++ event.contents
  attempt : s'.attempt = s.attempt.note event
  errorTips : s'.errorTips = s.errorTips
  shownErrors : s'.shownErrors = s.shownErrors

lemma Handled.after (h : Handled event s s') (kept : Kept s' s'') : Handled event s s'' where
  fullText := kept.fullText.trans h.fullText
  attempt := kept.attempt.trans h.attempt
  errorTips := kept.errorTips.trans h.errorTips
  shownErrors := kept.shownErrors.trans h.shownErrors

lemma Handled.before (kept : Kept s s') (h : Handled event s' s'') : Handled event s s'' where
  fullText := kept.fullText ▸ h.fullText
  attempt := kept.attempt ▸ h.attempt
  errorTips := kept.errorTips ▸ h.errorTips
  shownErrors := kept.shownErrors ▸ h.shownErrors

lemma openText_active : ∃ segment, s.openText.activeText = some segment := by
  rw [RelayState.openText]
  split
  · rename_i segment active
    exact ⟨segment, active⟩
  · exact ⟨_, rfl⟩

lemma Kept.appendText (active : s.activeText = some segment) :
    Kept { s with fullText := s.fullText ++ content } (s.appendText allows content) := by
  rw [RelayState.appendText, active]
  dsimp only
  split
  · refine Kept.trans ?_ .flushTextSegment
    exact ⟨rfl, rfl, rfl, shownErrors_send rfl⟩
  · exact ⟨rfl, rfl, rfl, shownErrors_send rfl⟩

lemma Kept.handled (h : Kept s s') (silent : event.Silent) : Handled event s s' where
  fullText := by rw [h.fullText, silent.contents, String.append_empty]
  attempt := by rw [h.attempt, TurnAttemptSummary.note_silent silent]
  errorTips := h.errorTips
  shownErrors := h.shownErrors

lemma Handled.text : Handled (.text content) s (s.onText allows content) := by
  rw [RelayState.onText]
  have thought : Kept s (s.completeActiveThinking allows) := .completeActiveThinking
  split
  · rename_i empty
    obtain ⟨segment, active⟩ := openText_active (s := s.completeActiveThinking allows)
    have kept : Kept s ((s.completeActiveThinking allows).openText.appendText allows content) := by
      refine (thought.trans .openText).trans (Kept.trans ?_ (.appendText active))
      rw [empty]
      exact { Kept.refl with fullText := String.append_empty }
    exact kept.handled ⟨empty, by simp [StreamRelay.AgentStreamEvent.visible, empty], rfl, rfl⟩
  · rename_i some_
    obtain ⟨segment, active⟩ :=
      openText_active (s := (s.completeActiveThinking allows).sawVisibleOutput)
    refine Handled.after (Handled.before thought ?_) (.appendText active)
    have opened : Kept (s.completeActiveThinking allows).sawVisibleOutput _ := .openText
    have visible : StreamRelay.AgentStreamEvent.visible (.text content) = true := decide_eq_true some_
    exact {
      fullText := congrArg (· ++ content) opened.fullText
      attempt := opened.attempt.trans (TurnAttemptSummary.note_visible visible rfl rfl)
      errorTips := opened.errorTips
      shownErrors := opened.shownErrors }

lemma Handled.visible (visible : event.visible = true) (sideEffect : event.sideEffect = false)
    (signalsAuth : event.signalsAuth = false) (contents : event.contents = "") :
    Handled event s s.sawVisibleOutput where
  fullText := by
    rw [contents, String.append_empty]
    rfl
  attempt := TurnAttemptSummary.note_visible visible sideEffect signalsAuth
  errorTips := rfl
  shownErrors := rfl

lemma Handled.sideEffect (visible : event.visible = false) (sideEffect : event.sideEffect = true)
    (signalsAuth : event.signalsAuth = false) (contents : event.contents = "") :
    Handled event s s.sawToolOrSideEffect where
  fullText := by
    rw [contents, String.append_empty]
    rfl
  attempt := TurnAttemptSummary.note_sideEffect visible sideEffect signalsAuth
  errorTips := rfl
  shownErrors := rfl

lemma Handled.thinking {subject thinking : Option String} :
    Handled (.thinking content subject thinking) s (s.onThinking allows content subject thinking) := by
  rw [RelayState.onThinking]
  split
  · rename_i done
    exact Kept.completeActiveThinking.handled
      ⟨rfl, by simp [StreamRelay.AgentStreamEvent.visible, done], rfl, rfl⟩
  · rename_i chunk
    split
    · rename_i empty
      exact Kept.refl.handled ⟨rfl, by simp [StreamRelay.AgentStreamEvent.visible, empty.1], rfl, rfl⟩
    · apply Handled.before .closeActiveText
      split
      · rename_i empty
        apply Kept.handled (Kept.openThinking.trans .appendThinking)
        exact ⟨rfl, by simp [StreamRelay.AgentStreamEvent.visible, empty], rfl, rfl⟩
      · rename_i some_
        have visible :
            StreamRelay.AgentStreamEvent.visible (.thinking content subject thinking) = true := by
          simp [StreamRelay.AgentStreamEvent.visible, chunk, some_]
        exact (Handled.visible visible rfl rfl rfl).after (Kept.openThinking.trans .appendThinking)

lemma Handled.tips {tipType : TipType} {code : Option String} :
    Handled (.tips tipType code) s (s.onTips tipType code) := by
  rw [RelayState.onTips]
  apply Handled.after _ (Kept.send rfl)
  exact {
    fullText := by
      split <;> split <;> exact String.append_empty.symm
    attempt := by
      rw [TurnAttemptSummary.note]
      split <;> split <;> simp_all [StreamRelay.AgentStreamEvent.visible,
        StreamRelay.AgentStreamEvent.sideEffect,
        StreamRelay.AgentStreamEvent.signalsAuth, RelayState.sawVisibleOutput]
    errorTips := by
      split <;> split <;> rfl
    shownErrors := by
      split <;> split <;> rfl }

lemma Handled.handle (present : state.deleting = false) :
    Handled event s (s.handle state event) := by
  have not : ¬ state.deleting = true := by
    rw [present]
    exact nofun
  unfold RelayState.handle
  rw [if_neg not]
  cases event with
  | text content => exact .text
  | thinking content subject thinking => exact .thinking
  | tips tipType code => exact .tips
  | segmentBreak => exact Kept.closeSegments.handled ⟨rfl, rfl, rfl, rfl⟩
  | toolCall | acpToolCall | toolGroup =>
    exact (Handled.sideEffect rfl rfl rfl rfl).after (Kept.closeSegments.trans (.send rfl))
  | cronTrigger | permission | acpPermission | ask =>
    exact (Handled.sideEffect rfl rfl rfl rfl).after (.send rfl)
  | workflowProgress _ | acpSessionInfo | plan | forwarded =>
    exact (Kept.send rfl).handled ⟨rfl, rfl, rfl, rfl⟩
  | acpDialectSignal | backendTurnBound _ | messageLifecycle | finish | error _ =>
    exact Kept.refl.handled ⟨rfl, rfl, rfl, rfl⟩

end RelayState

namespace StreamRelay

open RelayState

/-- The events up to the first terminal that were not skipped. -/
def handledEvents : List (ConversationRuntimeState × StreamRelay.AgentStreamEvent) →
    List StreamRelay.AgentStreamEvent
  | [] => []
  | (_, .finish) :: _ => []
  | (_, .error _) :: _ => []
  | (state, event) :: rest =>
    if state.deleting then handledEvents rest else event :: handledEvents rest

/-- The second state is the first one with what a list of events adds. -/
structure Collected (events : List StreamRelay.AgentStreamEvent) (s s' : RelayState) : Prop where
  fullText : s'.fullText = s.fullText ++ String.join (events.map (·.contents))
  attempt : s'.attempt = events.foldl .note s.attempt
  errorTips : s'.errorTips = s.errorTips
  shownErrors : s'.shownErrors = s.shownErrors

variable {r : StreamRelay} {s s' s'' : RelayState} {state closing : ConversationRuntimeState}
  {events : List (ConversationRuntimeState × StreamRelay.AgentStreamEvent)}
  {data : AgentStreamErrorData} {allows : RuntimeWriteKind → Bool}

lemma Collected.nil : Collected [] s s :=
  ⟨String.append_empty.symm, rfl, rfl, rfl⟩

lemma Collected.cons {event : StreamRelay.AgentStreamEvent} {rest : List StreamRelay.AgentStreamEvent}
    (h : Handled event s s') (h' : Collected rest s' s'') : Collected (event :: rest) s s'' where
  fullText := by rw [h'.fullText, h.fullText, List.map_cons, String.join_cons, String.append_assoc]
  attempt := by rw [h'.attempt, h.attempt, List.foldl_cons]
  errorTips := h'.errorTips.trans h.errorTips
  shownErrors := h'.shownErrors.trans h.shownErrors

lemma loop_cons (event : StreamRelay.AgentStreamEvent) :
    (∃ ending, loop closing s ((state, event) :: events) = (s, state, ending) ∧
      handledEvents ((state, event) :: events) = []) ∨
    (loop closing s ((state, event) :: events) = loop closing (s.handle state event) events ∧
      handledEvents ((state, event) :: events) =
        if state.deleting then handledEvents events else event :: handledEvents events) := by
  cases event with
  | finish => exact .inl ⟨_, rfl, rfl⟩
  | error data => exact .inl ⟨_, rfl, rfl⟩
  | text | tips | toolCall | acpToolCall | toolGroup | thinking | plan | permission | acpPermission
  | ask | cronTrigger | acpSessionInfo | segmentBreak | backendTurnBound | workflowProgress
  | messageLifecycle | acpDialectSignal | forwarded => exact .inr ⟨rfl, rfl⟩

lemma loop_collected (closing : ConversationRuntimeState)
    (events : List (ConversationRuntimeState × StreamRelay.AgentStreamEvent)) (s : RelayState) :
    Collected (handledEvents events) s (loop closing s events).1 := by
  induction events generalizing s with
  | nil => exact .nil
  | cons e rest ih =>
    obtain ⟨state, event⟩ := e
    obtain ⟨ending, loop, handled⟩ | ⟨loop, handled⟩ := loop_cons event
    · rw [loop, handled]
      exact .nil
    · rw [loop, handled]
      cases present : state.deleting with
      | true =>
        have skipped : s.handle state event = s := by
          unfold RelayState.handle
          exact if_pos present
        rw [skipped]
        exact ih s
      | false => exact .cons (.handle present) (ih _)

lemma foldl_note_safe (events : List StreamRelay.AgentStreamEvent) (a : TurnAttemptSummary) :
    (events.foldl .note a).safeToAutoReplay = true ↔ a.safeToAutoReplay = true ∧
      ∀ event ∈ events, event.visible = false ∧ event.sideEffect = false := by
  induction events generalizing a with
  | nil => simp
  | cons event rest ih =>
    rw [List.foldl_cons, ih, List.forall_mem_cons]
    have step : (a.note event).safeToAutoReplay = true ↔ a.safeToAutoReplay = true ∧
        event.visible = false ∧ event.sideEffect = false := by
      simp only [TurnAttemptSummary.safeToAutoReplay, TurnAttemptSummary.note, Bool.and_eq_true,
        Bool.not_eq_true', Bool.or_eq_false_iff]
      tauto
    rw [step, and_assoc]

lemma contents_of_not_visible {event : StreamRelay.AgentStreamEvent} (h : event.visible = false) :
    event.contents = "" := by
  cases event with
  | text content => exact of_not_not (of_decide_eq_false h)
  | _ => rfl

lemma shownErrors_append (frames : List LiveFrame)
    (silent : ∀ frame ∈ frames, frame.errorData = none) :
    ({ s with frames := s.frames ++ frames } : RelayState).shownErrors = s.shownErrors := by
  have none_ : frames.filterMap (·.errorData) = [] := List.filterMap_eq_nil_iff.mpr silent
  rw [shownErrors, List.filterMap_append, none_]
  exact List.append_nil _

lemma finalOverrides_silent {textSegments : List MsgId} {finalText : String} {hidden rewrite : Bool} :
    ∀ frame ∈ finalOverrides textSegments finalText hidden rewrite, frame.errorData = none := by
  intro frame mem
  unfold finalOverrides at mem
  split at mem
  · cases mem
  · split at mem
    · obtain rfl | mem := List.mem_cons.mp mem
      · rfl
      · obtain ⟨id, _, rfl⟩ := List.mem_map.mp mem
        rfl
    · cases mem

lemma finalize_errors (r : StreamRelay) (s : RelayState) (allows : RuntimeWriteKind → Bool)
    (error : Option AgentStreamErrorData) :
    (r.finalize s allows error).2.shownErrors = s.shownErrors ∧
    (r.finalize s allows error).2.errorTips = s.errorTips ++
      if s.fullText = "" ∧ allows .terminalFinalize = true then error.toList else [] := by
  unfold finalize
  dsimp only
  split
  · rename_i empty
    cases error with
    | none => simp
    | some data =>
      dsimp only
      split
      · rename_i allowed
        simp [empty, allowed, shownErrors]
      · rename_i disallowed
        simp [disallowed]
  · rename_i some_
    refine ⟨?_, by simp [some_]⟩
    dsimp only
    rw [List.append_assoc]
    apply shownErrors_append
    intro frame mem
    obtain mem | mem := List.mem_append.mp mem
    · split at mem
      · exact finalOverrides_silent frame mem
      · cases mem
    · obtain ⟨response, _, rfl⟩ := List.mem_map.mp mem
      rfl

/-- Whether the error of a relay is left to the orchestrator. -/
def deferred (r : StreamRelay) (closing : ConversationRuntimeState)
    (events : List (ConversationRuntimeState × StreamRelay.AgentStreamEvent)) : Bool :=
  let ended := loop closing .start events
  (ended.2.2.errorData.map (r.defersError ended.1.attempt)).getD false

/-- What a relay reports of its events, and what it shows and persists of its error. -/
structure Reported (r : StreamRelay) (closing : ConversationRuntimeState)
    (events : List (ConversationRuntimeState × StreamRelay.AgentStreamEvent)) : Prop where
  terminal : (r.consume closing events).1.terminal = (loop closing .start events).2.2.terminal
  terminalError : (r.consume closing events).1.attempt.terminalError =
    (loop closing .start events).2.2.errorData
  terminalErrorDeferred : (r.consume closing events).1.attempt.terminalErrorDeferred =
    r.deferred closing events
  safe : (r.consume closing events).1.attempt.safeToAutoReplay = true ↔
    ∀ event ∈ handledEvents events, event.visible = false ∧ event.sideEffect = false
  shown : (r.consume closing events).2.shownErrors =
    if r.deferred closing events then [] else (loop closing .start events).2.2.errorData.toList
  persisted : (r.consume closing events).2.errorTips =
    if r.deferred closing events = false ∧ (loop closing .start events).2.1.deleting = false ∧
      (loop closing .start events).1.fullText = "" ∧
      (loop closing .start events).2.1.lifecycle.allows .terminalFinalize = true
    then (loop closing .start events).2.2.errorData.toList else []

lemma foldl_note_kept (events : List StreamRelay.AgentStreamEvent) (a : TurnAttemptSummary) :
    (events.foldl .note a).terminalErrorDeferred = a.terminalErrorDeferred ∧
      (events.foldl .note a).persistedAssistantOutput = a.persistedAssistantOutput := by
  induction events generalizing a with
  | nil => exact ⟨rfl, rfl⟩
  | cons event rest ih => exact ih (a.note event)

lemma loop_errors (closing : ConversationRuntimeState)
    (events : List (ConversationRuntimeState × StreamRelay.AgentStreamEvent)) :
    (loop closing .start events).1.shownErrors = [] ∧
    (loop closing .start events).1.errorTips = [] ∧
    (loop closing .start events).1.attempt.terminalErrorDeferred = false ∧
    (loop closing .start events).1.attempt.persistedAssistantOutput = false := by
  have collected := loop_collected closing events .start
  have kept := foldl_note_kept (handledEvents events) .default
  rw [collected.shownErrors, collected.errorTips, collected.attempt]
  exact ⟨rfl, rfl, kept.1, kept.2⟩

lemma loop_safe (closing : ConversationRuntimeState)
    (events : List (ConversationRuntimeState × StreamRelay.AgentStreamEvent)) :
    (loop closing .start events).1.attempt.safeToAutoReplay = true ↔
    ∀ event ∈ handledEvents events, event.visible = false ∧ event.sideEffect = false := by
  rw [(loop_collected closing events .start).attempt, foldl_note_safe]
  exact and_iff_right rfl

lemma join_contents {events : List StreamRelay.AgentStreamEvent}
    (silent : ∀ event ∈ events, event.visible = false) :
    String.join (events.map (·.contents)) = "" := by
  induction events with
  | nil => exact String.join_nil
  | cons event rest ih =>
    obtain ⟨here, later⟩ := List.forall_mem_cons.mp silent
    rw [List.map_cons, String.join_cons, contents_of_not_visible here, ih later]
    rfl

lemma loop_text
    (silent : ∀ event ∈ handledEvents events, event.visible = false ∧ event.sideEffect = false) :
    (loop closing .start events).1.fullText = "" := by
  rw [(loop_collected closing events .start).fullText,
    join_contents fun event mem => (silent event mem).1]
  rfl

lemma close_kept (state : ConversationRuntimeState) (ending : RelayEnd) :
    (close s state ending).fullText = s.fullText ∧ (close s state ending).errorTips = s.errorTips ∧
      (close s state ending).shownErrors = s.shownErrors ++ ending.errorData.toList := by
  have kept : Kept s (if state.deleting then s
      else s.closeSegments state.lifecycle.allows ending.status) := by
    split
    · exact .refl
    · exact .closeSegments
  rw [close]
  cases ending with
  | closed => exact ⟨kept.fullText, kept.errorTips, kept.shownErrors.trans (List.append_nil _).symm⟩
  | finish =>
    refine ⟨kept.fullText, kept.errorTips, (shownErrors_send rfl).trans ?_⟩
    exact kept.shownErrors.trans (List.append_nil _).symm
  | error data =>
    refine ⟨kept.fullText, kept.errorTips, ?_⟩
    rw [← kept.shownErrors]
    exact List.filterMap_append

lemma conclude_errors (state : ConversationRuntimeState) (ending : RelayEnd) :
    (r.conclude s state ending).2.shownErrors = s.shownErrors ++ ending.errorData.toList ∧
    (r.conclude s state ending).2.errorTips = s.errorTips ++
      if state.deleting = false ∧ s.fullText = "" ∧ state.lifecycle.allows .terminalFinalize = true
      then ending.errorData.toList else [] := by
  obtain ⟨fullText, errorTips, shownErrors⟩ := close_kept (s := s) state ending
  rw [conclude]
  cases state.deleting with
  | true =>
    refine ⟨shownErrors, errorTips.trans ?_⟩
    simp
  | false =>
    have final := finalize_errors r (close s state ending) state.lifecycle.allows
      ending.errorData
    rw [fullText, shownErrors, errorTips] at final
    refine ⟨final.1, final.2.trans ?_⟩
    simp

lemma reported_concluded (not : r.deferred closing events = false)
    (concluded : r.consume closing events = r.conclude (loop closing .start events).1
      (loop closing .start events).2.1 (loop closing .start events).2.2) :
    r.Reported closing events := by
  obtain ⟨noneShown, nonePersisted, notDeferred, notPersisted⟩ :=
    loop_errors closing events
  have errors := conclude_errors (r := r) (s := (loop closing .start events).1)
    (loop closing .start events).2.1 (loop closing .start events).2.2
  rw [noneShown, nonePersisted, ← concluded] at errors
  have safe := loop_safe closing events
  exact {
    terminal := by
      rw [concluded]
      rfl
    terminalError := by
      rw [concluded]
      rfl
    terminalErrorDeferred := by
      rw [concluded, not]
      exact notDeferred
    safe := by
      have attempt : (r.consume closing events).1.attempt.safeToAutoReplay =
          ((loop closing .start events).1.attempt.safeToAutoReplay &&
            decide ((loop closing .start events).1.fullText = "")) := by
        rw [concluded]
        simp [conclude, TurnAttemptSummary.safeToAutoReplay, notPersisted]
      rw [attempt, Bool.and_eq_true, safe, decide_eq_true_iff]
      exact and_iff_left_of_imp loop_text
    shown := by
      rw [not]
      exact errors.1
    persisted := by
      rw [not]
      refine errors.2.trans ?_
      simp }

/-- Every relay reports what it has seen. -/
lemma reported (r : StreamRelay) (closing : ConversationRuntimeState)
    (events : List (ConversationRuntimeState × StreamRelay.AgentStreamEvent)) :
    r.Reported closing events := by
  cases ending : (loop closing .start events).2.2 with
  | finish | closed =>
    apply reported_concluded
    · rw [deferred, ending]
      rfl
    · rw [consume, ending]
      rfl
  | error data =>
    have own : r.deferred closing events =
        r.defersError (loop closing .start events).1.attempt data := by
      rw [deferred, ending]
      rfl
    cases defers : r.defersError (loop closing .start events).1.attempt data with
    | false =>
      apply reported_concluded (own.trans defers)
      rw [consume, ending, terminate, defers]
      rfl
    | true =>
      have left : r.consume closing events =
          ({ systemResponses := []
             terminal := .error data.code data.retryable
             attempt := { (loop closing .start events).1.attempt with
               terminalError := some data, terminalErrorDeferred := true } },
            (loop closing .start events).1) := by
        rw [consume, ending, terminate, defers]
        rfl
      obtain ⟨noneShown, nonePersisted, _, _⟩ := loop_errors closing events
      exact {
        terminal := by
          rw [left, ending]
          rfl
        terminalError := by
          rw [left, ending]
          rfl
        terminalErrorDeferred := by
          rw [left, own, defers]
        safe := by
          rw [left, ← loop_safe closing events]
          rfl
        shown := by
          rw [left, own, defers]
          exact noneShown
        persisted := by
          rw [left, own, defers]
          simpa using nonePersisted }

end StreamRelay

end KiCore.Conversation

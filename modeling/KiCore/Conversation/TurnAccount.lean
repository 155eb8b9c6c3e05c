import KiCore.Conversation.TurnOrchestrator
import KiCore.Lib.Transition

/-!
# Replays and errors of a turn

Whatever its relays bring and however the lifecycle changes, a turn makes two attempts at most, and
the second one only after an attempt that has left no trace. The relay decides from its own summary
whether it shows an error, and the orchestrator from the merged one whether it replays the turn:
`Accounted` says which errors are shown and persisted in the end. The two disagree only if the
lifecycle was not active when the relay began, but is when the orchestrator asks.
-/

namespace KiCore.Conversation

open KiCore.Lib StreamRelay

namespace RelayRun

def ending (run : RelayRun) : RelayState × ConversationRuntimeState × RelayEnd :=
  loop run.closing .start run.events

def shown (relay : StreamRelay) (runs : List RelayRun) : List AgentStreamErrorData :=
  runs.flatMap fun run => (run.consume relay).2.shownErrors

def persisted (relay : StreamRelay) (runs : List RelayRun) : List AgentStreamErrorData :=
  runs.flatMap fun run => (run.consume relay).2.errorTips

/-- The error of a relay is persisted with its terminal, unless there is text before it. -/
def persistsError (run : RelayRun) : Bool :=
  run.ending.2.1.deleting = false && run.ending.1.fullText = "" &&
    run.ending.2.1.lifecycle.allows .terminalFinalize

/-- An attempt that may be replayed: nothing that was handled in it was visible or a side effect,
and it has ended with an error that a replay may cure. If the lifecycle was active when its last
relay began, the error was neither shown nor persisted. -/
structure Replayable (relay : StreamRelay) (runs : List RelayRun) : Prop where
  silent : ∀ run ∈ runs, ∀ event ∈ handledEvents run.events,
    event.visible = false ∧ event.sideEffect = false
  failed : ∃ run ∈ runs.getLast?, ∃ data, run.ending.2.2 = .error data ∧
    data.retryable = some true ∧ data.code ≠ some .userLlmProviderModelNotFound ∧
    ((classifySessionRecoverySignal data).isSome = true ∨
      isProviderTurnError data.code (some data) = false)
  hidden : ∀ run ∈ runs.getLast?, run.lifecycle = .active → shown relay runs = [] ∧
    persisted relay runs = []

end RelayRun

namespace TurnOrchestrator

open RelayRun

/-- What became of the error of a tip: it is shown and persisted, if the lifecycle allows that. -/
def tipErrors : Option (AgentStreamErrorData × ConversationRuntimeState) → List AgentStreamErrorData
  | some (data, state) => if state.lifecycle.allows .sendFailureTip then [data] else []
  | none => []

variable (o : TurnOrchestrator)

def shownErrors : List AgentStreamErrorData :=
  shown o.relay o.relays ++ tipErrors o.tip

def persistedErrors : List AgentStreamErrorData :=
  persisted o.relay o.relays ++ tipErrors o.tip

/-- The one error of a turn that has failed: it has a tip, or the last relay has shown it. -/
def Failed : Prop :=
  (∃ data state, o.tip = some (data, state) ∧ o.shownErrors = tipErrors o.tip ∧
    o.persistedErrors = tipErrors o.tip) ∨
  (o.tip = none ∧ ∃ run ∈ o.relays.getLast?, ∃ data, run.ending.2.2 = .error data ∧
    o.shownErrors = [data] ∧ o.persistedErrors = if run.persistsError then [data] else [])

structure Accounted (o : TurnOrchestrator) : Prop where
  attempts : o.attempts ≤ 2
  replay : o.attempts = 2 → o.agentType = .acp ∧ o.replayedWhile = some .active ∧
    Replayable o.relay o.firstRelays
  completed : o.stage = .finished false → o.shownErrors = [] ∧ o.persistedErrors = []
  failed : o.stage = .finished true → o.Failed

/-- A step of the orchestrator, with the runtime state that it finds. -/
def step (event : ConversationRuntimeState × OrchestratorInput) : TurnOrchestrator :=
  o.next event.1 event.2

def EndsWith (data : AgentStreamErrorData) : Prop :=
  ∃ run ∈ o.relays.getLast?, run.ending.2.2 = .error data

/-- A tip is of the error of the await that has failed or of the last relay, in the state that it finds. -/
def Sourced (event : ConversationRuntimeState × OrchestratorInput) : Prop :=
  ∀ data state, (o.step event).tip = some (data, state) → o.tip = some (data, state) ∨
    event.1 = state ∧ (event.2 = .fail data ∨ o.EndsWith data)

end TurnOrchestrator

namespace TurnAttemptSummary

variable {a b : TurnAttemptSummary}

lemma merge_safe : (a.merge b).safeToAutoReplay = true ↔
    a.safeToAutoReplay = true ∧ b.safeToAutoReplay = true := by
  simp only [safeToAutoReplay, merge, Bool.and_eq_true, Bool.not_eq_true', Bool.or_eq_false_iff]
  tauto

end TurnAttemptSummary

namespace RelayRun

variable {relay : StreamRelay} {run : RelayRun} {runs : List RelayRun} {data : AgentStreamErrorData}

def summaryOf (relay : StreamRelay) (runs : List RelayRun) : TurnAttemptSummary :=
  runs.foldl (fun a run => a.merge (run.consume relay).1.attempt) .default

lemma summaryOf_snoc : summaryOf relay (runs ++ [run]) =
    (summaryOf relay runs).merge (run.consume relay).1.attempt :=
  List.foldl_concat ..

lemma shown_snoc :
    shown relay (runs ++ [run]) = shown relay runs ++ (run.consume relay).2.shownErrors := by
  rw [shown, List.flatMap_append, List.flatMap_singleton]
  rfl

lemma persisted_snoc :
    persisted relay (runs ++ [run]) = persisted relay runs ++ (run.consume relay).2.errorTips := by
  rw [persisted, List.flatMap_append, List.flatMap_singleton]
  rfl

lemma reports (relay : StreamRelay) (run : RelayRun) :
    ({ relay with deferCleanTerminalErrors := run.deferCleanTerminalErrors } : StreamRelay).Reported
      run.closing run.events :=
  reported _ _ _

lemma summaryOf_safe : (summaryOf relay runs).safeToAutoReplay = true ↔
    ∀ run ∈ runs, ∀ event ∈ handledEvents run.events,
      event.visible = false ∧ event.sideEffect = false := by
  induction runs using List.reverseRecOn with
  | nil => exact iff_of_true rfl (List.forall_mem_nil _)
  | append_singleton runs run ih =>
    have own := (reports relay run).safe
    rw [summaryOf_snoc, TurnAttemptSummary.merge_safe, ih]
    rw [RelayRun.consume, own, List.forall_mem_append, List.forall_mem_singleton]

lemma quiet_of_not_error (h : (run.consume relay).1.terminal.isError = false) :
    (run.consume relay).2.shownErrors = [] ∧ (run.consume relay).2.errorTips = [] := by
  have report := reports relay run
  have none_ : run.ending.2.2.errorData = none := by
    rw [RelayRun.consume, report.terminal] at h
    cases ending : run.ending.2.2 with
    | finish | closed => rfl
    | error data =>
      rw [RelayRun.ending] at ending
      rw [ending] at h
      cases h
  rw [RelayRun.ending] at none_
  constructor
  · rw [RelayRun.consume, report.shown, none_]
    exact ite_self _
  · rw [RelayRun.consume, report.persisted, none_]
    exact ite_self _

lemma ending_of_error (h : (run.consume relay).1.terminal.isError = true) :
    ∃ data, run.ending.2.2 = .error data ∧
      (run.consume relay).1.terminal = .error data.code data.retryable ∧
      (run.consume relay).1.attempt.terminalError = some data := by
  have report := reports relay run
  rw [RelayRun.consume, report.terminal] at h
  cases ending : run.ending.2.2 with
  | finish | closed =>
    rw [RelayRun.ending] at ending
    rw [ending] at h
    cases h
  | error data =>
    refine ⟨data, rfl, ?_, ?_⟩
    · rw [RelayRun.consume, report.terminal]
      exact congrArg RelayEnd.terminal ending
    · rw [RelayRun.consume, report.terminalError]
      exact congrArg RelayEnd.errorData ending

lemma quiet_of_deferred (h : (run.consume relay).1.attempt.terminalErrorDeferred = true) :
    (run.consume relay).2.shownErrors = [] ∧ (run.consume relay).2.errorTips = [] := by
  have report := reports relay run
  rw [RelayRun.consume, report.terminalErrorDeferred] at h
  constructor
  · rw [RelayRun.consume, report.shown, h]
    rfl
  · rw [RelayRun.consume, report.persisted, h]
    exact if_neg fun both => nomatch both.1

lemma shown_of_direct (error : run.ending.2.2 = .error data)
    (h : (run.consume relay).1.attempt.terminalErrorDeferred = false) :
    (run.consume relay).2.shownErrors = [data] ∧
      (run.consume relay).2.errorTips = if run.persistsError then [data] else [] := by
  have report := reports relay run
  rw [RelayRun.ending] at error
  rw [RelayRun.consume, report.terminalErrorDeferred] at h
  constructor
  · rw [RelayRun.consume, report.shown, h, error]
    rfl
  · rw [RelayRun.consume, report.persisted, h, error, persistsError, RelayRun.ending]
    simp [RelayEnd.errorData, and_assoc]

lemma deferred_of_clean (flag : run.deferCleanTerminalErrors = true)
    (error : run.ending.2.2 = .error data) (retryable : data.retryable = some true)
    (found : data.code ≠ some .userLlmProviderModelNotFound)
    (silent : ∀ event ∈ handledEvents run.events, event.visible = false ∧ event.sideEffect = false) :
    (run.consume relay).1.attempt.terminalErrorDeferred = true := by
  have safe := (loop_safe run.closing run.events).mpr silent
  rw [RelayRun.ending] at error
  rw [RelayRun.consume, (reports relay run).terminalErrorDeferred, StreamRelay.deferred, error]
  change defersError _ _ data = true
  simp [defersError, flag, retryable, found, safe]

end RelayRun

namespace TurnOrchestrator

open RelayRun

/-- The relays so far have shown and persisted no error. -/
def Quiet (relay : StreamRelay) (runs : List RelayRun) : Prop :=
  shown relay runs = [] ∧ persisted relay runs = []

/-- The attempt has come to the end of a relay. -/
structure Ended (o : TurnOrchestrator) (outcome : RelayOutcome) (before : List RelayRun)
    (run : RelayRun) : Prop where
  relays : o.relays = before ++ [run]
  quiet : Quiet o.relay before
  outcome : outcome = (run.consume o.relay).1
  flag : run.deferCleanTerminalErrors =
    (!o.replayed && o.agentType = .acp && run.lifecycle = .active &&
      (summaryOf o.relay before).safeToAutoReplay)

def Holds (o : TurnOrchestrator) : Prop :=
  match o.stage with
  | .build | .persistWorkspace | .takeDeferredCancel | .readLifecycle | .applyMode _ | .sendPrompt _
  | .relaying _ => o.tip = none ∧ Quiet o.relay o.relays
  | .persistTip data => o.tip = none ∧ Quiet o.relay o.relays ∧ o.EndsWith data
  | .decideContinuation _ outcome | .decideRecovery outcome =>
    o.tip = none ∧ ∃ before run, o.Ended outcome before run
  | .evictTask => o.tip = none ∧ o.replayed = false ∧ o.agentType = .acp ∧
    o.replayedWhile = some .active ∧ Replayable o.relay o.relays
  | .releaseClaim failed | .finished failed =>
    if failed then o.Failed else o.shownErrors = [] ∧ o.persistedErrors = []

/-- What carries `Accounted` from step to step. -/
structure Tracked (o : TurnOrchestrator) : Prop where
  attempts : o.attempts = if o.replayed then 2 else 1
  replay : o.replayed = true → o.agentType = .acp ∧ o.replayedWhile = some .active ∧
    Replayable o.relay o.firstRelays
  summary : o.summary = summaryOf o.relay o.relays
  holds : o.Holds

variable {o : TurnOrchestrator} {state : ConversationRuntimeState} {input : OrchestratorInput}
  {data : AgentStreamErrorData} {lifecycle : RuntimeLifecycleState} {outcome : RelayOutcome}
  {before : List RelayRun} {run : RelayRun}

lemma Tracked.accounted (h : o.Tracked) : o.Accounted where
  attempts := by
    rw [h.attempts]
    split <;> omega
  replay twice := by
    apply h.replay
    by_contra once
    rw [h.attempts, if_neg once] at twice
    cases twice
  completed done := by
    have holds := h.holds
    rw [Holds, done] at holds
    exact holds
  failed done := by
    have holds := h.holds
    rw [Holds, done] at holds
    exact holds

lemma Tracked.failWith (h : o.Tracked) (quiet : Quiet o.relay o.relays) :
    (o.failWith state data).Tracked where
  attempts := h.attempts
  replay := h.replay
  summary := h.summary
  holds := by
    refine .inl ⟨data, state, rfl, ?_, ?_⟩
    · rw [shownErrors]
      exact congrArg (· ++ _) quiet.1
    · rw [persistedErrors]
      exact congrArg (· ++ _) quiet.2

lemma quiet_snoc {relay : StreamRelay} (quiet : Quiet relay before)
    (own : (run.consume relay).2.shownErrors = [] ∧ (run.consume relay).2.errorTips = []) :
    Quiet relay (before ++ [run]) := by
  constructor
  · rw [shown_snoc, quiet.1, own.1]
    rfl
  · rw [persisted_snoc, quiet.2, own.2]
    rfl

lemma errors_nil (quiet : Quiet o.relay o.relays) (tip : o.tip = none) :
    o.shownErrors = [] ∧ o.persistedErrors = [] := by
  constructor
  · rw [shownErrors, quiet.1, tip]
    rfl
  · rw [persistedErrors, quiet.2, tip]
    rfl

lemma Tracked.relayed (h : o.Tracked) (tip : o.tip = none) (quiet : Quiet o.relay o.relays)
    (closing : ConversationRuntimeState)
    (events : List (ConversationRuntimeState × StreamRelay.AgentStreamEvent)) :
    (o.relayed lifecycle closing events).Tracked where
  attempts := h.attempts
  replay := h.replay
  summary := by
    rw [TurnOrchestrator.relayed]
    dsimp only
    rw [summaryOf_snoc, h.summary]
  holds := by
    refine ⟨tip, o.relays, _, rfl, quiet, rfl, ?_⟩
    rw [TurnOrchestrator.defersErrors, h.summary]
    rfl

lemma Tracked.continued (h : o.Tracked) (tip : o.tip = none) (ended : o.Ended outcome before run) :
    (o.continued lifecycle outcome).Tracked := by
  rw [TurnOrchestrator.continued]
  split
  · rename_i content nextCount continues
    refine ⟨h.attempts, h.replay, h.summary, tip, ?_⟩
    dsimp only
    rw [ended.relays]
    apply quiet_snoc ended.quiet
    apply quiet_of_not_error
    rw [← ended.outcome]
    exact (decideContinuation_continue continues).2.1
  · exact ⟨h.attempts, h.replay, h.summary, tip, before, run, { ended with }⟩

lemma Tracked.replayable (h : o.Tracked) (ended : o.Ended outcome before run)
    (replays : autoReplays o.agentType outcome.terminal o.summary lifecycle o.replayed = true) :
    Replayable o.relay o.relays := by
  obtain ⟨_, acp, error, retryable, found, curable, safe, once⟩ := autoReplays_true.mp replays
  have outcome := ended.outcome
  subst outcome
  obtain ⟨data, ending, terminal, terminalError⟩ := ending_of_error error
  have last : run ∈ o.relays.getLast? := by
    rw [ended.relays, List.getLast?_concat]
    rfl
  rw [terminal] at retryable found curable
  rw [h.summary] at safe curable
  have silent := summaryOf_safe.mp safe
  -- If the whole attempt was silent, the relays before the last one were.
  have clean : (summaryOf o.relay before).safeToAutoReplay = true := by
    apply summaryOf_safe.mpr
    intro run' mem
    apply silent
    rw [ended.relays]
    exact List.mem_append_left _ mem
  have merged : (summaryOf o.relay o.relays).terminalError = some data := by
    rw [ended.relays, summaryOf_snoc, TurnAttemptSummary.merge, terminalError]
    rfl
  rw [merged] at curable
  refine ⟨silent, ⟨run, last, data, ending, retryable, found, curable⟩, fun run' last' active => ?_⟩
  obtain rfl : run = run' := Option.some_inj.mp (last.symm.trans last')
  -- The relay was told to defer, as the lifecycle was active when it began.
  have flag : run.deferCleanTerminalErrors = true := by
    rw [ended.flag, once, acp, active, clean]
    rfl
  rw [ended.relays]
  apply quiet_snoc ended.quiet
  apply quiet_of_deferred
  apply deferred_of_clean flag ending retryable found
  apply silent
  rw [ended.relays]
  exact List.mem_append_right _ (List.mem_singleton_self _)

lemma Ended.failed (ended : o.Ended outcome before run) (tip : o.tip = none)
    (error : outcome.terminal.isError = true)
    (direct : outcome.attempt.terminalErrorDeferred = false) :
    ({ o with stage := .releaseClaim true } : TurnOrchestrator).Failed := by
  have outcome := ended.outcome
  subst outcome
  obtain ⟨data, ending, _⟩ := ending_of_error error
  obtain ⟨shown, persisted⟩ := shown_of_direct ending direct
  refine .inr ⟨tip, run, ?_, data, ending, ?_, ?_⟩
  · dsimp only
    rw [ended.relays, List.getLast?_concat]
    rfl
  · rw [shownErrors]
    dsimp only
    rw [ended.relays, shown_snoc, ended.quiet.1, shown, tip]
    rfl
  · rw [persistedErrors]
    dsimp only
    rw [ended.relays, persisted_snoc, ended.quiet.2, persisted, tip, List.nil_append]
    exact List.append_nil _

lemma Tracked.recovered (h : o.Tracked) (tip : o.tip = none) (ended : o.Ended outcome before run) :
    (o.recovered lifecycle outcome).Tracked := by
  rw [TurnOrchestrator.recovered]
  split
  · rename_i well
    refine { h with holds := ?_ }
    rw [ended.outcome] at well
    have quiet := quiet_snoc ended.quiet (quiet_of_not_error well)
    rw [← ended.relays] at quiet
    exact errors_nil quiet tip
  · rename_i fails
    have error := eq_true_of_ne_false fails
    split
    · rename_i replays
      obtain ⟨active, acp, _, _, _, _, _, once⟩ := autoReplays_true.mp replays
      exact { h with
        replay := fun twice => nomatch once.symm.trans twice
        holds := ⟨tip, once, acp, congrArg some active, h.replayable ended replays⟩ }
    · split
      · rename_i deferred
        have deferred' := deferred
        rw [ended.outcome] at deferred'
        have quiet := quiet_snoc ended.quiet (quiet_of_deferred deferred')
        rw [← ended.relays] at quiet
        -- A relay that has failed says with which error.
        have outcome := ended.outcome
        subst outcome
        obtain ⟨data, ending, _, terminalError⟩ := ending_of_error error
        split
        · rename_i found
          cases found.symm.trans terminalError
          refine { h with holds := ⟨tip, quiet, run, ?_, ending⟩ }
          dsimp only
          rw [ended.relays, List.getLast?_concat]
          rfl
        · rename_i missing
          exact nomatch missing.symm.trans terminalError
      · rename_i direct
        exact { h with holds := ended.failed tip error (eq_false_of_ne_true direct) }

lemma Tracked.replay_step (h : o.Tracked) (tip : o.tip = none) (once : o.replayed = false)
    (acp : o.agentType = .acp) (active : o.replayedWhile = some .active)
    (replayable : Replayable o.relay o.relays) : o.replay.Tracked where
  attempts := by
    rw [TurnOrchestrator.replay]
    dsimp only
    rw [h.attempts, once]
    rfl
  replay _ := ⟨acp, active, replayable⟩
  summary := rfl
  holds := ⟨tip, rfl, rfl⟩

lemma Tracked.next (h : o.Tracked) : (o.next state input).Tracked := by
  have holds := h.holds
  unfold TurnOrchestrator.next
  cases stage : o.stage with
  | build | persistWorkspace | applyMode lifecycle =>
    rw [Holds, stage] at holds
    cases input with
    | proceed => exact { h with holds := holds }
    | fail data => exact h.failWith holds.2
    | relayed => exact h
  | takeDeferredCancel =>
    rw [Holds, stage] at holds
    cases input with
    | proceed =>
      -- A turn that is cancelled before its prompt ends well, and has shown nothing.
      dsimp only
      refine { h with holds := ?_ }
      split
      · exact errors_nil holds.2 holds.1
      · exact holds
    | fail | relayed => exact h
  | readLifecycle | sendPrompt lifecycle =>
    rw [Holds, stage] at holds
    cases input with
    | proceed => exact { h with holds := holds }
    | fail | relayed => exact h
  | relaying lifecycle =>
    rw [Holds, stage] at holds
    cases input with
    | relayed closing events => exact h.relayed holds.1 holds.2 closing events
    | proceed | fail => exact h
  | decideContinuation lifecycle outcome =>
    rw [Holds, stage] at holds
    obtain ⟨tip, before, run, ended⟩ := holds
    cases input with
    | proceed => exact h.continued tip ended
    | fail | relayed => exact h
  | decideRecovery outcome =>
    rw [Holds, stage] at holds
    obtain ⟨tip, before, run, ended⟩ := holds
    cases input with
    | proceed => exact h.recovered tip ended
    | fail | relayed => exact h
  | persistTip data =>
    rw [Holds, stage] at holds
    cases input with
    | proceed => exact h.failWith holds.2.1
    | fail | relayed => exact h
  | evictTask =>
    rw [Holds, stage] at holds
    obtain ⟨tip, once, acp, active, replayable⟩ := holds
    cases input with
    | proceed => exact h.replay_step tip once acp active replayable
    | fail | relayed => exact h
  | releaseClaim failed =>
    rw [Holds, stage] at holds
    cases input with
    | proceed => exact { h with holds := holds }
    | fail | relayed => exact h
  | finished failed =>
    cases input <;> exact h

lemma Tracked.start (turnId : Nat) (agentType : AgentType) (relay : StreamRelay) :
    (start turnId agentType relay).Tracked where
  attempts := rfl
  replay := nofun
  summary := rfl
  holds := ⟨rfl, rfl, rfl⟩

lemma continued_tip : (o.continued lifecycle outcome).tip = o.tip := by
  rw [TurnOrchestrator.continued]
  split <;> rfl

lemma recovered_tip : (o.recovered lifecycle outcome).tip = o.tip := by
  rw [TurnOrchestrator.recovered]
  repeat' split
  all_goals rfl

lemma Tracked.sourced (h : o.Tracked) (event : ConversationRuntimeState × OrchestratorInput) :
    o.Sourced event := by
  intro data state tip
  have holds := h.holds
  unfold step TurnOrchestrator.next at tip
  split at tip
  case h_2 failed | h_4 failed | h_8 failed =>
    cases tip
    exact .inr ⟨rfl, .inl failed⟩
  case h_11 => exact .inl (continued_tip ▸ tip)
  case h_12 => exact .inl (recovered_tip ▸ tip)
  case h_13 stage _ =>
    rw [Holds, stage] at holds
    cases tip
    exact .inr ⟨rfl, .inr holds.2.2⟩
  all_goals exact .inl tip

/-- In every run of a turn, whatever its relays bring and whatever lifecycles it finds, replays are
safe, errors are accounted for, and a tip says what has failed. -/
theorem turn_accounted (turnId : Nat) (agentType : AgentType) (relay : StreamRelay)
    (events : List (ConversationRuntimeState × OrchestratorInput)) :
    LTS.Throughout step Accounted (start turnId agentType relay) events ∧
      LTS.EnabledAll Sourced step (start turnId agentType relay) events := by
  have tracked := Tracked.start turnId agentType relay
  refine ⟨LTS.throughout_iff.mpr ⟨tracked.accounted, ?_⟩, ?_⟩
  · exact LTS.enabledAll_of (fun o event h => ⟨h.next.accounted, h.next⟩) tracked
  · exact LTS.enabledAll_of (fun o event h => ⟨h.sourced event, h.next⟩) tracked

/-- A provider that times out while the remote session is compacted: the turn is replayed. -/
theorem provider_error_replayed :
    let data : AgentStreamErrorData :=
      { message := "remote compact failed", code := some .userLlmProviderTimeout
        ownership := some .userLlmProvider, detail := none, retryable := some true }
    let relay : StreamRelay :=
      { process := fun text => { message := text, systemResponses := [] }, trim := id
        deferCleanTerminalErrors := false }
    ¬ LTS.Throughout step
      (fun o => o.attempts = 2 → ∀ run ∈ o.firstRelays.getLast?, ∀ data,
        run.ending.2.2 = .error data → isProviderTurnError data.code (some data) = false)
      (start 0 .acp relay)
      ([.proceed, .proceed, .proceed, .proceed, .proceed, .proceed,
        .relayed .default [(.default, .error data)], .proceed, .proceed, .proceed].map
          fun input => (ConversationRuntimeState.default, input)) := by
  intro data relay h
  let run : RelayRun := ⟨true, .active, .default, [(.default, .error data)]⟩
  exact absurd (h.last (by decide) run (by decide) data (by decide)) (by decide)

end TurnOrchestrator

end KiCore.Conversation

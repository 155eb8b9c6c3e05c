import KiCore.Conversation.RelayOutcome

/-!
# The orchestrator of a turn

Port of `run_attempt` and `run_user_turn` in `turn_orchestrator.rs`, with the two policies that they
ask. An attempt builds the agent, asks for a cancel that was deferred, and then sends the prompt and
its continuations, each with a relay of its own; a turn makes a second attempt if the recovery
policy says so. Every await is a step, and comes with the runtime state of the conversation at that
moment.

The session key, the availability of the agent and the eviction of an unhealthy agent after a failed
turn are left out.
-/

namespace KiCore.Conversation

/-- `MAX_SYSTEM_RESPONSE_CONTINUATIONS_PER_TURN`. -/
def maxContinuations : Nat := 4

inductive ContinuationStopReason where
  | noSystemResponses
  | terminalNotFinish
  | lifecycleNotActive
  | limitReached
  deriving DecidableEq

inductive ContinuationDecision where
  | continue (content : String) (nextCount : Nat)
  | stop (reason : ContinuationStopReason)
  deriving DecidableEq

/-- `TurnContinuationPolicy::decide`. -/
def decideContinuation (continuationCount : Nat) (outcome : RelayOutcome)
    (lifecycle : RuntimeLifecycleState) : ContinuationDecision :=
  if lifecycle ≠ .active then .stop .lifecycleNotActive
  else if outcome.terminal.isError then .stop .terminalNotFinish
  else if outcome.systemResponses = [] then .stop .noSystemResponses
  else if maxContinuations ≤ continuationCount then .stop .limitReached
  else .continue ("\n".intercalate outcome.systemResponses) (continuationCount + 1)

lemma decideContinuation_continue {continuationCount nextCount : Nat} {outcome : RelayOutcome}
    {lifecycle : RuntimeLifecycleState} {content : String}
    (h : decideContinuation continuationCount outcome lifecycle = .continue content nextCount) :
    lifecycle = .active ∧ outcome.terminal.isError = false ∧ outcome.systemResponses ≠ [] ∧
      continuationCount < maxContinuations := by
  rw [decideContinuation] at h
  split_ifs at h with inactive error none_ limit
  exact ⟨of_not_not inactive, eq_false_of_ne_true error, none_, not_le.mp limit⟩

inductive SessionRecoverySignal where
  | compactFailed
  | resumeFailed
  deriving DecidableEq

/-- `str::contains`, on the characters. -/
def containsText (haystack : List Char) (needle : String) : Bool :=
  haystack.tails.any needle.toList.isPrefixOf

/-- `classify_session_recovery_signal`, on the error of the attempt. -/
def classifySessionRecoverySignal (data : AgentStreamErrorData) : Option SessionRecoverySignal :=
  let haystack := (data.message ++ "\n" ++ data.detail.getD "").toList.map Char.toLower
  if containsText haystack "/responses/compact" || containsText haystack "remote compact failed" then
    some .compactFailed
  else if containsText haystack "session/load" || containsText haystack "resume" then
    some .resumeFailed
  else none

def isProviderTurnError (code : Option AgentErrorCode) (data : Option AgentStreamErrorData) : Bool :=
  data.bind (·.ownership) = some .userLlmProvider ||
    code ∈ [AgentErrorCode.userLlmProviderAuthFailed, .userLlmProviderAwsSsoExpired,
      .userLlmProviderPermissionDenied, .userLlmProviderBillingRequired,
      .userLlmProviderConfigError, .userLlmProviderModelNotFound,
      .userLlmProviderUnsupportedModel, .userLlmProviderEndpointNotFound,
      .userLlmProviderInvalidRequest, .userLlmProviderInvalidToolSchema,
      .userLlmProviderContextTooLarge, .userLlmProviderRateLimited, .userLlmProviderTimeout,
      .userLlmProviderNetworkError, .userLlmProviderEmptyResponse,
      .userLlmProviderGatewayError].map some

/-- `TurnRecoveryPolicy::decide`: whether the turn is replayed. `summary` is that of the whole
attempt. -/
def autoReplays (agentType : AgentType) (terminal : RelayTerminal) (summary : TurnAttemptSummary)
    (lifecycle : RuntimeLifecycleState) (alreadyReplayed : Bool) : Bool :=
  lifecycle = .active && agentType = .acp && terminal.isError && terminal.retryable = some true &&
    terminal.code ≠ some .userLlmProviderModelNotFound &&
    ((summary.terminalError.bind classifySessionRecoverySignal).isSome ||
      !isProviderTurnError terminal.code summary.terminalError) &&
    summary.safeToAutoReplay && !alreadyReplayed

lemma autoReplays_true {agentType : AgentType} {terminal : RelayTerminal}
    {summary : TurnAttemptSummary} {lifecycle : RuntimeLifecycleState} {alreadyReplayed : Bool} :
    autoReplays agentType terminal summary lifecycle alreadyReplayed = true ↔
      lifecycle = .active ∧ agentType = .acp ∧ terminal.isError = true ∧
      terminal.retryable = some true ∧ terminal.code ≠ some .userLlmProviderModelNotFound ∧
      ((summary.terminalError.bind classifySessionRecoverySignal).isSome = true ∨
        isProviderTurnError terminal.code summary.terminalError = false) ∧
      summary.safeToAutoReplay = true ∧ alreadyReplayed = false := by
  simp [autoReplays, and_assoc]

/-- What the orchestrator does next. `lifecycle` is what it has read before the relay. -/
inductive OrchestratorStage where
  | build
  | persistWorkspace
  | takeDeferredCancel
  | readLifecycle
  | applyMode (lifecycle : RuntimeLifecycleState)
  | sendPrompt (lifecycle : RuntimeLifecycleState)
  | relaying (lifecycle : RuntimeLifecycleState)
  | decideContinuation (lifecycle : RuntimeLifecycleState) (outcome : RelayOutcome)
  | decideRecovery (outcome : RelayOutcome)
  | persistTip (data : AgentStreamErrorData)
  | evictTask
  | releaseClaim (failed : Bool)
  | finished (failed : Bool)
  deriving DecidableEq

/-- A relay of an attempt: its flag, what the orchestrator had read before it, and its events. -/
structure RelayRun where
  deferCleanTerminalErrors : Bool
  lifecycle : RuntimeLifecycleState
  closing : ConversationRuntimeState
  events : List (ConversationRuntimeState × StreamRelay.AgentStreamEvent)
  deriving DecidableEq

/-- The locals of the turn and of its current attempt. `relays` are the relays of the attempt and
`tip` is the error that it has failed with outside a relay, with the runtime state when its tip was
due; `firstRelays` are the relays of an attempt that was replayed, `replayedWhile` the lifecycle
that was read for it. -/
structure TurnOrchestrator where
  turnId : Nat
  agentType : AgentType
  relay : StreamRelay
  stage : OrchestratorStage
  replayed : Bool
  continuationCount : Nat
  summary : TurnAttemptSummary
  attempts : Nat
  prompts : Nat
  relays : List RelayRun
  tip : Option (AgentStreamErrorData × ConversationRuntimeState)
  firstRelays : List RelayRun
  replayedWhile : Option RuntimeLifecycleState

/-- What an await comes back with. -/
inductive OrchestratorInput where
  | proceed
  | fail (data : AgentStreamErrorData)
  | relayed (closing : ConversationRuntimeState)
      (events : List (ConversationRuntimeState × StreamRelay.AgentStreamEvent))
  deriving DecidableEq

def RelayRun.consume (run : RelayRun) (relay : StreamRelay) : RelayOutcome × RelayState :=
  { relay with
    deferCleanTerminalErrors := run.deferCleanTerminalErrors }.consume run.closing run.events

namespace TurnOrchestrator

def start (turnId : Nat) (agentType : AgentType) (relay : StreamRelay) : TurnOrchestrator where
  turnId := turnId
  agentType := agentType
  relay := relay
  stage := .build
  replayed := false
  continuationCount := 0
  summary := .default
  attempts := 1
  prompts := 0
  relays := []
  tip := none
  firstRelays := []
  replayedWhile := none

variable (o : TurnOrchestrator)

/-- The turn ends with an error that no relay has shown. -/
def failWith (state : ConversationRuntimeState) (data : AgentStreamErrorData) : TurnOrchestrator :=
  { o with tip := some (data, state), stage := .releaseClaim true }

variable (lifecycle : RuntimeLifecycleState)

def defersErrors : Bool :=
  !o.replayed && o.agentType = .acp && lifecycle = .active && o.summary.safeToAutoReplay

def relayed (closing : ConversationRuntimeState)
    (events : List (ConversationRuntimeState × StreamRelay.AgentStreamEvent)) : TurnOrchestrator :=
  let run : RelayRun :=
    { deferCleanTerminalErrors := o.defersErrors lifecycle, lifecycle, closing, events }
  let outcome := (run.consume o.relay).1
  { o with
    summary := o.summary.merge outcome.attempt
    relays := o.relays ++ [run]
    stage := .decideContinuation lifecycle outcome }

def continued (outcome : RelayOutcome) : TurnOrchestrator :=
  match Conversation.decideContinuation o.continuationCount outcome lifecycle with
  | .continue _ nextCount => { o with continuationCount := nextCount, stage := .readLifecycle }
  | .stop _ => { o with stage := .decideRecovery outcome }

/-- A turn that ends well, is replayed, or ends with the error of its last relay. -/
def recovered (outcome : RelayOutcome) : TurnOrchestrator :=
  if outcome.terminal.isError = false then { o with stage := .releaseClaim false }
  else if autoReplays o.agentType outcome.terminal o.summary lifecycle o.replayed then
    { o with stage := .evictTask, replayedWhile := some lifecycle }
  else if outcome.attempt.terminalErrorDeferred then
    match outcome.attempt.terminalError with
    | some data => { o with stage := .persistTip data }
    | none => { o with stage := .releaseClaim true }
  else { o with stage := .releaseClaim true }

def replay : TurnOrchestrator :=
  { o with
    stage := .build
    replayed := true
    continuationCount := 0
    summary := .default
    attempts := o.attempts + 1
    relays := []
    firstRelays := o.relays }

def next (state : ConversationRuntimeState) (input : OrchestratorInput) : TurnOrchestrator :=
  match o.stage, input with
  | .build, .proceed => { o with stage := .persistWorkspace }
  | .build, .fail data => o.failWith state data
  | .persistWorkspace, .proceed => { o with stage := .takeDeferredCancel }
  | .persistWorkspace, .fail data => o.failWith state data
  | .takeDeferredCancel, .proceed =>
    { o with
      stage := if (state.takeDeferredCancel o.turnId).1 then .releaseClaim false else .readLifecycle }
  | .readLifecycle, .proceed => { o with stage := .applyMode state.lifecycle }
  | .applyMode lifecycle, .proceed => { o with stage := .sendPrompt lifecycle }
  | .applyMode _, .fail data => o.failWith state data
  | .sendPrompt lifecycle, .proceed =>
    { o with stage := .relaying lifecycle, prompts := o.prompts + 1 }
  | .relaying lifecycle, .relayed closing events => o.relayed lifecycle closing events
  | .decideContinuation lifecycle outcome, .proceed => o.continued lifecycle outcome
  | .decideRecovery outcome, .proceed => o.recovered state.lifecycle outcome
  | .persistTip data, .proceed => o.failWith state data
  | .evictTask, .proceed => o.replay
  | .releaseClaim failed, .proceed => { o with stage := .finished failed }
  | _, _ => o

/-- What a step of the orchestrator does to the runtime state. -/
def runtimeAfter (state : ConversationRuntimeState) (input : OrchestratorInput) :
    ConversationRuntimeState :=
  match o.stage, input with
  | .takeDeferredCancel, .proceed => (state.takeDeferredCancel o.turnId).2
  | .releaseClaim _, .proceed => (state.release o.turnId).2
  | _, _ => state

end TurnOrchestrator

end KiCore.Conversation

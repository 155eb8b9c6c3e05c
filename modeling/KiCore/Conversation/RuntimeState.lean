import Mathlib.Tactic

/-!
# The runtime state of a conversation

Port of `ConversationRuntimeStateService` in `runtime_state.rs`. An operation holds the lock for as
long as it runs, and reads and writes the entries of one conversation and the flag of the shutdown;
these are kept here. What was logged once for a turn is left out. Which writes a lifecycle allows is the
port of `RuntimePersistenceCoordinator` in `runtime_persistence.rs`.
-/

namespace KiCore.Conversation

inductive ConversationError where
  | busy (reason : String)
  | runtimeRestarting (conversationId : String)
  deriving DecidableEq

inductive RuntimeLifecycleState where
  | active
  | deleting
  | cancelling
  | shuttingDown
  deriving DecidableEq

/-- The entries of a conversation. `deferredCancel` is the turn a cancel was meant for that came
before the turn's agent had registered. -/
structure ConversationRuntimeState where
  activeTurn : Option Nat
  deleting : Bool
  cancelling : Bool
  restarting : Bool
  deferredCancel : Option Nat
  shuttingDown : Bool
  deriving DecidableEq

namespace ConversationRuntimeState

def default : ConversationRuntimeState where
  activeTurn := none
  deleting := false
  cancelling := false
  restarting := false
  deferredCancel := none
  shuttingDown := false

variable (s : ConversationRuntimeState)

def tryClaimTurn (conversationId : String) (turnId : Nat) :
    Except ConversationError ConversationRuntimeState :=
  if s.shuttingDown then
    .error (.busy "conversation runtime is shutting down")
  else if s.deleting then
    .error (.busy s!"conversation {conversationId} is being deleted")
  else if s.restarting then
    .error (.runtimeRestarting conversationId)
  else if s.activeTurn.isSome then
    .error (.busy s!"conversation {conversationId} is already running")
  else
    .ok { s with activeTurn := some turnId }

/-- The release of a claim, and whether the conversation was being deleted. A turn that is not the
active one is ignored. -/
def release (turnId : Nat) : Bool × ConversationRuntimeState :=
  if s.activeTurn = some turnId then
    (s.deleting, { s with activeTurn := none, deleting := false, cancelling := false })
  else
    (false, s)

def markDeleting : Bool × ConversationRuntimeState :=
  (s.activeTurn.isSome, { s with deleting := true })

def clearDeleting : ConversationRuntimeState :=
  { s with deleting := false }

def markCancelling : ConversationRuntimeState :=
  { s with cancelling := true }

def clearCancelling : ConversationRuntimeState :=
  { s with cancelling := false }

def deferCancel (turnId : Nat) : ConversationRuntimeState :=
  { s with deferredCancel := some turnId }

def takeDeferredCancel (turnId : Nat) : Bool × ConversationRuntimeState :=
  if s.deferredCancel = some turnId then
    (true, { s with deferredCancel := none })
  else
    (false, s)

def beginRestart (conversationId : String) : Except ConversationError ConversationRuntimeState :=
  if s.shuttingDown then
    .error (.busy "conversation runtime is shutting down")
  else if s.deleting then
    .error (.busy s!"conversation {conversationId} is being deleted")
  else if s.restarting then
    .error (.runtimeRestarting conversationId)
  else
    .ok { s with restarting := true }

def clearRestarting : ConversationRuntimeState :=
  { s with restarting := false }

def clearTurnStateForRestart : ConversationRuntimeState :=
  { s with activeTurn := none, cancelling := false, deferredCancel := none }

def clearConversation : ConversationRuntimeState :=
  { default with shuttingDown := s.shuttingDown }

def markShuttingDown : ConversationRuntimeState :=
  { s with shuttingDown := true }

def lifecycle (s : ConversationRuntimeState) : RuntimeLifecycleState :=
  if s.shuttingDown then .shuttingDown
  else if s.deleting then .deleting
  else if s.cancelling then .cancelling
  else .active

variable {s s' : ConversationRuntimeState} {conversationId : String} {turnId : Nat}

lemma tryClaimTurn_ok (h : s.tryClaimTurn conversationId turnId = .ok s') :
    s.shuttingDown = false ∧ s.deleting = false ∧ s.restarting = false ∧ s.activeTurn = none ∧
      s' = { s with activeTurn := some turnId } := by
  rw [tryClaimTurn] at h
  split_ifs at h with down deleting restarting active
  cases h
  exact ⟨eq_false_of_ne_true down, eq_false_of_ne_true deleting, eq_false_of_ne_true restarting,
    Option.not_isSome_iff_eq_none.mp active, rfl⟩

lemma beginRestart_ok (h : s.beginRestart conversationId = .ok s') :
    s.restarting = false ∧ s' = { s with restarting := true } := by
  rw [beginRestart] at h
  split_ifs at h with down deleting restarting
  cases h
  exact ⟨eq_false_of_ne_true restarting, rfl⟩

lemma release_other (h : s.activeTurn ≠ some turnId) : (s.release turnId).2 = s := by
  rw [release, if_neg h]

lemma release_own (h : s.activeTurn = some turnId) :
    (s.release turnId).2 = { s with activeTurn := none, deleting := false, cancelling := false } := by
  rw [release, if_pos h]

end ConversationRuntimeState

inductive RuntimeWriteKind where
  | userMessage
  | assistantTextCreate
  | assistantTextFlush
  | assistantTextFinalize
  | assistantThinkingFinalize
  | toolCallPersist
  | acpToolCallPersist
  | toolGroupPersist
  | terminalFinalize
  | conversationFinished
  | sendFailureTip
  | sessionKey
  | acpRecoveryCleanup
  | resolvedWorkspace
  | startupRecovery
  deriving DecidableEq

/-- `RuntimePersistenceCoordinator::allows`. -/
def RuntimeLifecycleState.allows : RuntimeLifecycleState → RuntimeWriteKind → Bool
  | .active, _ => true
  | .deleting, kind => kind = .userMessage
  | .cancelling, kind =>
    kind ∈ [.assistantTextCreate, .assistantTextFlush, .assistantTextFinalize,
      .assistantThinkingFinalize, .toolCallPersist, .acpToolCallPersist, .toolGroupPersist,
      .terminalFinalize, .conversationFinished]
  | .shuttingDown, kind => kind = .userMessage

/-- The writes of a relay are allowed while the conversation is neither deleted nor shut down. -/
structure ConversationRuntimeState.Writable (s : ConversationRuntimeState) : Prop where
  deleting : s.deleting = false
  shuttingDown : s.shuttingDown = false

lemma ConversationRuntimeState.Writable.allows {s : ConversationRuntimeState} (h : s.Writable)
    {kind : RuntimeWriteKind} (relays : kind = .assistantTextFlush ∨ kind = .assistantTextFinalize ∨
      kind = .assistantThinkingFinalize ∨ kind = .terminalFinalize) :
    s.lifecycle.allows kind = true := by
  rw [lifecycle, h.shuttingDown, h.deleting]
  cases s.cancelling with
  | false => rfl
  | true => obtain rfl | rfl | rfl | rfl := relays <;> rfl

end KiCore.Conversation

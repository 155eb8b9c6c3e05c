import KiCore.Conversation.TurnClaims
import KiCore.Conversation.Types
import KiCore.SessionMessage.Service

/-!
# Sending a message

Port of `send_message`, `deliver_midturn_message` and `apply_message_receipt` of `service.rs`. Calls
run side by side over the claims of turns, and every await is a step, with what it brings from
outside: what is read before the first write, the agent of the conversation, and whether a write or
a build succeeds. The rows and the frames of a user message are kept with the call that has minted
its id.
-/

namespace KiCore.Conversation

def midturnStatusQueued : String := "pending"

def midturnStatusReceived : String := "finish"

structure SendMessageRequest where
  content : String
  files : List String
  sessions : List String
  injectSkills : List String
  hidden : Bool

inductive SendError where
  | badRequest (reason : String)
  | notFound (id : String)
  | forbidden (reason : String)
  | archived (id reason : String)
  | runtime (error : ConversationError)
  | db
  deriving DecidableEq

structure ResolvedChatMessage where
  content : String
  files : List String

structure SendConversationRow where
  agentType : Option AgentType
  teamId : Option String

structure SendReads where
  row : Except SendError (Option SendConversationRow)
  mentions : Except SendError String
  attachments : String → Except SendError ResolvedChatMessage

def AgentType.isDeprecatedRuntime (agentType : AgentType) : Bool :=
  agentType ∉ [.acp, .aionrs, .antigravity]

def acceptMessage (conversationId : String) (req : SendMessageRequest) (reads : SendReads) :
    Except SendError ResolvedChatMessage := do
  if Lib.Str.trim req.content = "" then
    throw (.badRequest "Message content must not be empty")
  match ← reads.row with
  | none => throw (.notFound conversationId)
  | some row =>
    if row.teamId.isSome then
      throw (.forbidden "Team-owned conversations must be sent through Team API")
    if row.agentType.any AgentType.isDeprecatedRuntime then
      throw (.archived conversationId
        "This historical conversation can no longer be continued. Please start a new conversation.")
    let content ← if req.sessions = [] then pure req.content else reads.mentions
    reads.attachments content

structure SendMessageResponse where
  msgId : Nat
  turnId : Nat
  deliveredMidturn : Bool

structure UserMessage where
  id : Nat
  content : String
  status : String
  hidden : Bool

def UserMessage.setStatus (msgId : Nat) (status : String) (m : UserMessage) : UserMessage :=
  if m.id = msgId then { m with status } else m

/-- `message.userCreated`. -/
structure UserCreated where
  msgId : Nat
  clientMsgId : Option Nat
  content : String
  status : String
  hidden : Bool

/-- What an agent is handed in a turn that is active. -/
structure SendMessageData where
  content : String
  msgId : Nat
  turnId : Option Nat
  files : List String
  injectSkills : List String

structure TurnStartInput where
  content : String
  files : List String
  injectSkills : List String
  turnId : Nat

/-- What a call does next. `claim` is the place of its claim among those of the conversation. -/
inductive SendStage where
  | accept
  | choose (resolved : ResolvedChatMessage)
  | mintMidturn (resolved : ResolvedChatMessage) (turnId : Nat)
  | insertMidturn (resolved : ResolvedChatMessage) (turnId msgId : Nat)
  | deliver (resolved : ResolvedChatMessage) (turnId msgId : Nat) (persisted : Bool)
  | receive (resolved : ResolvedChatMessage) (msgId : Nat)
  | markError (turnId msgId : Nat)
  | claimTurn (resolved : ResolvedChatMessage) (fallback : Option Nat)
  | askWrite (resolved : ResolvedChatMessage) (fallback : Option Nat) (turnId claim : Nat)
  | insert (resolved : ResolvedChatMessage) (turnId claim msgId : Nat)
  | build (resolved : ResolvedChatMessage) (turnId claim msgId : Nat)
  | returned (result : Except SendError SendMessageResponse)

/-- The ids that a call has minted, the rows and frames of its message, and who was handed the
message. `claimed` is the turn that it has claimed, `fellBack` whether its steer was rejected after the
message was stored, and `allowed` whether the lifecycle has allowed the message when it was asked. -/
structure SendMessageCall where
  request : SendMessageRequest
  stage : SendStage
  minted : Nat
  messages : List UserMessage
  created : List UserCreated
  statusChanged : List (Nat × String)
  delivered : List SendMessageData
  started : List TurnStartInput
  claimed : Option Nat
  fellBack : Bool
  allowed : Bool

/-- An agent as `get_task` finds it. -/
structure MidturnAgent where
  supportsMidturnDelivery : Bool
  hasConfirmations : Bool

/-- How `deliver_midturn` ends. -/
inductive DeliverOutcome where
  | taken
  | turnEnded
  | failed
  deriving DecidableEq

/-- What a step brings from outside; each stage reads the part that it asks for. -/
structure SendInput where
  reads : SendReads
  agent : Option MidturnAgent
  outcome : DeliverOutcome
  ok : Bool

namespace SendMessageCall

def new (request : SendMessageRequest) : SendMessageCall where
  request := request
  stage := .accept
  minted := 0
  messages := []
  created := []
  statusChanged := []
  delivered := []
  started := []
  claimed := none
  fellBack := false
  allowed := false

variable (c : SendMessageCall)

def respond (msgId turnId : Nat) (deliveredMidturn : Bool) : SendMessageCall :=
  { c with stage := .returned (.ok { msgId, turnId, deliveredMidturn }) }

def fail (error : SendError) : SendMessageCall :=
  { c with stage := .returned (.error error) }

/-- Insert the row of the message and broadcast it. -/
def persist (resolved : ResolvedChatMessage) (msgId : Nat) (status : String)
    (clientMsgId : Option Nat) : SendMessageCall :=
  { c with
    messages := c.messages ++
      [{ id := msgId, content := resolved.content, status, hidden := c.request.hidden }]
    created := c.created ++
      [{ msgId, clientMsgId, content := resolved.content, status, hidden := c.request.hidden }] }

/-- Set the status of a message and broadcast it. With `onlyIfQueued` the message has to be queued. -/
def applyMessageReceipt (msgId : Nat) (status : String) (onlyIfQueued ok : Bool) :
    SendMessageCall :=
  if onlyIfQueued ∧ ¬ ∃ m ∈ c.messages, m.id = msgId ∧ m.status = midturnStatusQueued then c
  else if ¬ ok then c
  else
    { c with
      messages := c.messages.map (.setStatus msgId status)
      statusChanged := c.statusChanged ++ [(msgId, status)] }

/-- The agent gets the message while it is delivered. -/
def take : SendMessageCall :=
  match c.stage with
  | .deliver resolved turnId msgId _ =>
    { c with
      delivered := c.delivered ++ [{
        content := resolved.content
        msgId
        turnId := some turnId
        files := resolved.files
        injectSkills := c.request.injectSkills }] }
  | _ => c

def spawnUserTurn (resolved : ResolvedChatMessage) (turnId : Nat) : SendMessageCall :=
  { c with
    started := c.started ++ [{
      content := resolved.content
      files := resolved.files
      injectSkills := c.request.injectSkills
      turnId }] }

def step (claims : TurnClaims) (input : SendInput) (c : SendMessageCall) : SendMessageCall × TurnClaims :=
  match c.stage with
  | .accept =>
    match acceptMessage claims.conversationId c.request input.reads with
    | .error e => (c.fail e, claims)
    | .ok resolved => ({ c with stage := .choose resolved }, claims)
  | .choose resolved =>
    match claims.state.activeTurn, input.agent with
    | some turnId, some agent =>
      -- a turn that waits for an answer is not steered
      if agent.supportsMidturnDelivery ∧ ¬ agent.hasConfirmations then
        ({ c with stage := .mintMidturn resolved turnId }, claims)
      else ({ c with stage := .claimTurn resolved none }, claims)
    | _, _ => ({ c with stage := .claimTurn resolved none }, claims)
  | .mintMidturn resolved turnId =>
    let allowed := claims.state.lifecycle.allows .userMessage
    ({ c with
      minted := c.minted + 1
      allowed := c.allowed || allowed
      stage := if allowed then .insertMidturn resolved turnId c.minted
        else .deliver resolved turnId c.minted false }, claims)
  | .insertMidturn resolved turnId msgId =>
    if ¬ input.ok then (c.fail .db, claims)
    else
      ({ c.persist resolved msgId midturnStatusQueued (some msgId) with
        stage := .deliver resolved turnId msgId true }, claims)
  | .deliver resolved turnId msgId persisted =>
    match input.outcome with
    | .taken => (c.respond msgId turnId true, claims)
    | .turnEnded =>
      ({ c with
        fellBack := persisted
        stage := if persisted then .receive resolved msgId else .claimTurn resolved none }, claims)
    | .failed =>
      (if persisted then { c with stage := .markError turnId msgId } else c.respond msgId turnId false,
        claims)
  | .receive resolved msgId =>
    ({ c.applyMessageReceipt msgId midturnStatusReceived false input.ok with
      stage := .claimTurn resolved (some msgId) }, claims)
  | .markError turnId msgId =>
    ((c.applyMessageReceipt msgId "error" false input.ok).respond msgId turnId false, claims)
  | .claimTurn resolved fallback =>
    match claims.state.tryClaimTurn claims.conversationId claims.minted with
    | .error e => (c.fail (.runtime e), claims.claim)
    | .ok _ =>
      ({ c with
        claimed := some claims.minted
        stage := .askWrite resolved fallback claims.minted claims.claims.length }, claims.claim)
  | .askWrite resolved fallback turnId claim =>
    let allowed := claims.state.lifecycle.allows .userMessage
    let c' := { c with
      minted := if fallback.isSome then c.minted else c.minted + 1
      allowed := c.allowed || allowed }
    let msgId := fallback.getD c.minted
    if ¬ allowed then (c'.respond msgId turnId false, claims.next (.release claim))
    else if fallback.isSome then ({ c' with stage := .build resolved turnId claim msgId }, claims)
    else ({ c' with stage := .insert resolved turnId claim msgId }, claims)
  | .insert resolved turnId claim msgId =>
    -- the claim is dropped with the call
    if ¬ input.ok then (c.fail .db, claims.next (.release claim))
    else
      ({ c.persist resolved msgId "finish" none with stage := .build resolved turnId claim msgId }, claims)
  | .build resolved turnId claim msgId =>
    if ¬ input.ok then (c.respond msgId turnId false, claims.next (.release claim))
    else
      ((c.spawnUserTurn resolved turnId).respond msgId turnId false, claims)
  | .returned _ => (c, claims)

end SendMessageCall

structure SendService where
  claims : TurnClaims
  calls : List SendMessageCall

namespace SendService

inductive Event where
  | send (request : SendMessageRequest)
  | step (call : Nat) (input : SendInput)
  /-- the agent gets the message that a call delivers -/
  | take (call : Nat)
  /-- the agent echoes a message -/
  | echo (call msgId : Nat) (ok : Bool)
  /-- anything else that happens to the runtime state of the conversation -/
  | claims (event : TurnClaims.Event)

def start (conversationId : String) : SendService where
  claims := .start conversationId
  calls := []

def next (s : SendService) : Event → SendService
  | .send request => { s with calls := s.calls ++ [.new request] }
  | .step k input =>
    match s.calls[k]? with
    | none => s
    | some call =>
      let moved := call.step s.claims input
      { claims := moved.2, calls := s.calls.set k moved.1 }
  | .take k => { s with calls := s.calls.modify k SendMessageCall.take }
  | .echo k msgId ok =>
    { s with calls := s.calls.modify k (·.applyMessageReceipt msgId midturnStatusReceived true ok) }
  | .claims event => { s with claims := s.claims.next event }

def Got (call : SendMessageCall) (msgId : Nat) : Prop :=
  ∃ data ∈ call.delivered, data.msgId = msgId

instance (call : SendMessageCall) (msgId : Nat) : Decidable (Got call msgId) :=
  inferInstanceAs (Decidable (∃ data ∈ call.delivered, _))

/-- What is relied on of an agent: it gets a message at most once for a delivery, it says so truly,
and it echoes only what it has got. -/
def Faithful (s : SendService) : Event → Prop
  | .step k input => ∀ call ∈ s.calls[k]?,
    match call.stage with
    | .deliver _ _ msgId _ =>
      (input.outcome = .taken → Got call msgId) ∧ (input.outcome = .turnEnded → ¬ Got call msgId)
    | _ => True
  | .take k => ∀ call ∈ s.calls[k]?,
    match call.stage with
    | .deliver _ _ msgId _ => ¬ Got call msgId
    | _ => True
  | .echo k msgId _ => ∀ call ∈ s.calls[k]?, Got call msgId
  | _ => True

instance (s : SendService) : (event : Event) → Decidable (s.Faithful event)
  | .step k input => by
    have (call : SendMessageCall) : Decidable (match call.stage with
        | .deliver _ _ msgId _ =>
          (input.outcome = .taken → Got call msgId) ∧ (input.outcome = .turnEnded → ¬ Got call msgId)
        | _ => True) := by
      split <;> infer_instance
    exact inferInstanceAs (Decidable (∀ call ∈ s.calls[k]?, _))
  | .take k => by
    have (call : SendMessageCall) : Decidable (match call.stage with
        | .deliver _ _ msgId _ => ¬ Got call msgId
        | _ => True) := by
      split <;> infer_instance
    exact inferInstanceAs (Decidable (∀ call ∈ s.calls[k]?, _))
  | .echo k msgId _ => inferInstanceAs (Decidable (∀ call ∈ s.calls[k]?, Got call msgId))
  | .send _ | .claims _ => .isTrue trivial

end SendService

end KiCore.Conversation

import KiCore.Lib.Transition

/-!
# The connection loops of the channel plugins

`ws_loop` of Lark, `ws_stream_loop` of DingTalk, `socket_loop` of Slack and `gateway_loop` of Discord
are one loop that differs in a few places. An event is what the await brings that the loop is at.
`ConnectionRun` keeps beside the loop what its environment has seen of it: how its attempts went, the
backoff that is due and the sessions that the server has declared invalid.
-/

namespace KiCore.Channel

open KiCore.Lib

def maxReconnectAttempts : Nat := 10

def maxReconnectDelay : Nat := 30

def backoffDelay (attempt : Nat) : Nat :=
  min (2 ^ attempt) maxReconnectDelay

/-- What the loops differ in: whether an endpoint that was fetched resets the counter of errors,
whether a connection that was closed cleanly ends the loop, and whether the protocol has sessions. -/
structure LoopPolicy where
  endpointResets : Bool
  cleanEnds : Bool
  resumes : Bool

def larkWsLoop : LoopPolicy where
  endpointResets := false
  cleanEnds := true
  resumes := false

def dingtalkWsStreamLoop : LoopPolicy where
  endpointResets := true
  cleanEnds := true
  resumes := false

def slackSocketLoop : LoopPolicy where
  endpointResets := false
  cleanEnds := false
  resumes := false

def discordGatewayLoop : LoopPolicy where
  endpointResets := false
  cleanEnds := false
  resumes := true

inductive ConnectionLoop where
  | lark
  | dingtalk
  | slack
  | discord
  deriving DecidableEq

def ConnectionLoop.policy : ConnectionLoop → LoopPolicy
  | .lark => larkWsLoop
  | .dingtalk => dingtalkWsStreamLoop
  | .slack => slackSocketLoop
  | .discord => discordGatewayLoop

inductive LoopStage where
  | fetching
  | connecting (resume : Bool)
  | listening
  | backingOff (delay : Nat)
  | exited
  deriving DecidableEq

structure GatewaySession where
  id : Option String
  resumeUrl : Option String
  lastSeq : Option Nat

/-- How an attempt went: it failed, an endpoint was fetched, a connection opened or was closed cleanly. -/
inductive Mark where
  | failed
  | endpoint
  | connected
  | closed
  deriving DecidableEq

/-- The loop, and beside it its marks (the newest first), the backoff that is due, whether a close frame
has ended the loop, the sessions that are invalid and whether one of them was resumed. -/
structure ConnectionRun where
  consecutiveErrors : Nat
  stage : LoopStage
  session : GatewaySession
  shutdown : Bool
  history : List Mark
  due : Option Nat
  endedByClose : Bool
  invalid : List String
  resumedInvalid : Bool

namespace ConnectionRun

/-- `connect` is the whole handshake, up to the frame that opens the connection. An error of the
reads is also an end of the stream, a ping that could not be sent and a heartbeat without an answer.
What the server sends may make the task panic: a heartbeat interval of 0 on Discord, on Lark a ping
interval that no `Instant` holds, or a frame in more parts than a `Vec` holds. -/
inductive Event where
  | signalShutdown
  | noticeShutdown
  | endpoint (ok : Bool)
  | connect (ok : Bool)
  | readError
  | panic
  | closeFrame
  | reconnectRequest (seq : Option Nat)
  | invalidSession (resumable : Bool) (seq : Option Nat)
  | ready (sessionId resumeUrl : String) (seq : Option Nat)
  | otherFrame (seq : Option Nat)
  | slept
  deriving DecidableEq

def start : ConnectionRun where
  consecutiveErrors := 0
  stage := .fetching
  session := { id := none, resumeUrl := none, lastSeq := none }
  shutdown := false
  history := []
  due := none
  endedByClose := false
  invalid := []
  resumedInvalid := false

variable (policy : LoopPolicy)

/-- The top of the loop: a session with its URL is resumed, otherwise an endpoint is fetched. -/
def iterate (s : ConnectionRun) : ConnectionRun :=
  if s.shutdown then { s with stage := .exited }
  else if policy.resumes && s.session.id.isSome && s.session.resumeUrl.isSome then
    { s with stage := .connecting true }
  else { s with stage := .fetching }

variable (s : ConnectionRun)

/-- An error is counted, and the loop gives up or backs off. -/
def fail : ConnectionRun :=
  { s with
    consecutiveErrors := s.consecutiveErrors + 1
    stage := if maxReconnectAttempts ≤ s.consecutiveErrors + 1 then .exited
      else .backingOff (backoffDelay (s.consecutiveErrors + 1))
    history := .failed :: s.history
    due := some (backoffDelay (s.consecutiveErrors + 1)) }

/-- `connect_and_listen` has returned without an error. -/
def finishCleanly (s : ConnectionRun) : ConnectionRun :=
  if policy.cleanEnds then { s with stage := .exited }
  else iterate policy { s with consecutiveErrors := 0, history := .closed :: s.history }

def sawSeq (seq : Option Nat) : ConnectionRun :=
  { s with session := { s.session with lastSeq := seq.or s.session.lastSeq } }

/-- A session that the server has declared invalid is forgotten. -/
def clearSession : ConnectionRun :=
  { s with
    session := { id := none, resumeUrl := none, lastSeq := none }
    invalid := s.session.id.toList ++ s.invalid }

def readySession (sessionId resumeUrl : String) : ConnectionRun :=
  { s with
    session := { s.session with id := some sessionId, resumeUrl := some resumeUrl }
    invalid := s.invalid.filter (· ≠ sessionId) }

/-- The session that the opening frame resumes, if it does not identify anew. -/
def resumedSession (resume : Bool) : Option String :=
  if resume && s.session.lastSeq.isSome then s.session.id else none

def connected (s : ConnectionRun) (resume : Bool) : ConnectionRun :=
  { s with
    stage := .listening
    history := .connected :: s.history
    resumedInvalid := s.resumedInvalid || (s.resumedSession resume).any (· ∈ s.invalid) }

/-- What the frames do that end a connection, or that belong to a session. -/
def listen (s : ConnectionRun) : Event → ConnectionRun
  | .noticeShutdown =>
    if s.shutdown then
      if policy.resumes then { s with stage := .exited } else finishCleanly policy s
    else s
  | .readError => s.fail
  | .panic => { s with stage := .exited }
  | .closeFrame =>
    let closed := finishCleanly policy s
    { closed with endedByClose := s.endedByClose || (closed.stage = .exited && !s.shutdown) }
  | .reconnectRequest seq =>
    -- Lark and DingTalk have no such request.
    if policy.cleanEnds then s else finishCleanly policy (s.sawSeq seq)
  | .invalidSession resumable seq =>
    if policy.resumes then
      finishCleanly policy (if resumable then s.sawSeq seq else (s.sawSeq seq).clearSession)
    else s
  | .ready sessionId resumeUrl seq =>
    if policy.resumes then (s.sawSeq seq).readySession sessionId resumeUrl else s
  | .otherFrame seq => if policy.resumes then s.sawSeq seq else s
  | .signalShutdown | .endpoint _ | .connect _ | .slept => s

def fetch (s : ConnectionRun) : Event → ConnectionRun
  | .endpoint ok =>
    if ok then
      { s with
        consecutiveErrors := if policy.endpointResets then 0 else s.consecutiveErrors
        stage := .connecting false
        history := .endpoint :: s.history }
    else s.fail
  | _ => s

def connect (s : ConnectionRun) (resume : Bool) : Event → ConnectionRun
  | .connect ok => if ok then s.connected resume else s.fail
  | _ => s

def backOff (s : ConnectionRun) (delay : Nat) : Event → ConnectionRun
  | .slept => iterate policy { s with due := if s.due = some delay then none else s.due }
  | .noticeShutdown => if s.shutdown then { s with stage := .exited } else s
  | _ => s

def next (loop : ConnectionLoop) (s : ConnectionRun) (event : Event) : ConnectionRun :=
  if event = .signalShutdown then { s with shutdown := true }
  else match s.stage with
    | .fetching => fetch loop.policy s event
    | .connecting resume => connect s resume event
    | .listening => listen loop.policy s event
    | .backingOff delay => backOff loop.policy s delay event
    | .exited => s

end ConnectionRun

end KiCore.Channel

import KiCore.Lib.Table
import KiCore.Lib.Transition
import KiCore.Session.Suspend

/-!
# Sends and cancels of codex

Port of the `Send` and `Cancel` of `dispatch` in `codex_conn.rs`, with `bound_thread` and `wake_handle`.
Any number of them run at a time, each in the stages between which it waits. Of what the reader makes of
a frame, only what it does to the flags, the thread and the correlations is kept; the turns are those of
`TurnReader`. Left out are the check of the block kinds, the parse of slash commands, what `build_input`
makes of the content, discovery, the title, receipts and logs.
-/

namespace KiCore.Session.Codex

open KiCore.Lib

inductive SlashRoute where
  | init
  | compact
  | review (target : String)
  | logout
  deriving DecidableEq

inductive TurnInput where
  | content (input : String)
  /-- the canned prompt of `/init` -/
  | initPrompt
  deriving DecidableEq

inductive ClientRequest where
  | turnStart (threadId : String) (input : TurnInput)
  | compactStart (threadId : String)
  | reviewStart (threadId target : String)
  | accountLogout
  | turnInterrupt (threadId turnId : String)
  deriving DecidableEq

inductive BackendError where
  | transport (message : String)
  | sessionNotFound (message : String)
  | handshakeTimeout
  deriving DecidableEq

structure SendInput where
  input : String
  route : Option SlashRoute
  clientMsgId : Option String
  deriving DecidableEq

structure PendingSend where
  clientMsgId : Option String
  opensTurn : Bool

variable (i : SendInput)

def SendInput.isLogout : Bool := i.route = some .logout

def SendInput.pending : PendingSend where
  clientMsgId := i.clientMsgId
  opensTurn := !i.isLogout

def SendInput.request (threadId : String) : ClientRequest :=
  match i.route with
  | none => .turnStart threadId (.content i.input)
  | some .init => .turnStart threadId .initPrompt
  | some .compact => .compactStart threadId
  | some (.review target) => .reviewStart threadId target
  | some .logout => .accountLogout

inductive SendStage where
  | received
  /-- no turn was found active -/
  | clear
  | awake
  | marked
  | bound (threadId : String)
  | registered (id : Nat) (threadId : String)
  /-- accepted: the request is written -/
  | sent (id : Nat)
  /-- accepted as input of the turn that is active, with nothing written -/
  | merged (turnId : String)
  | unsent (error : BackendError)
  | unwritten (id : Nat) (error : BackendError)
  deriving DecidableEq

structure Send where
  input : SendInput
  stage : SendStage
  deriving DecidableEq

inductive CancelStage where
  | received
  | bound (threadId : String)
  | polling (threadId : String) (polls : Nat)
  | found (threadId turnId : String)
  /-- accepted: the interrupt is written -/
  | interrupted (id : Nat) (threadId turnId : String)
  /-- accepted, with nothing to interrupt -/
  | nothing (inFlight : Bool) (polls : Nat)
  | failed (error : BackendError)
  deriving DecidableEq

inductive Sender where
  | send (k : Nat)
  | cancel (k : Nat)
  deriving DecidableEq

/-- A request on the wire: who has written it, under which id, and the process it went to. -/
structure Written where
  sender : Sender
  id : Nat
  request : ClientRequest
  process : ProcessState

structure DispatchRun where
  process : ProcessState
  activeTurnId : Option String
  turnInFlight : Bool
  /-- of the reader of the process: its turn has ended -/
  terminated : Bool
  /-- the turns that the process has announced -/
  announced : List String
  threadBinding : Option String
  resumePoison : Option String
  rpcId : Nat
  pendingSends : Table Nat PendingSend
  sends : Table Nat Send
  cancels : Table Nat CancelStage
  wire : List Written

def DispatchRun.start : DispatchRun where
  process := .live
  activeTurnId := none
  turnInFlight := false
  terminated := false
  announced := []
  threadBinding := none
  resumePoison := none
  rpcId := 0
  pendingSends := ∅
  sends := ∅
  cancels := ∅
  wire := []

namespace DispatchRun

variable (s : DispatchRun) (k : Nat)

def sendAt : Option Send := s.sends[k]?

def cancelAt : Option CancelStage := s.cancels[k]?

def pendingAt (id : Nat) : Option PendingSend := s.pendingSends[id]?

inductive Frame where
  | threadStarted (threadId : String)
  | turnStarted (turnId : Option String)
  /-- `turn/completed`, or the grace of a system error runs out -/
  | turnEnded
  /-- an error that is not going to be retried -/
  | fatalError
  | resumeRejected (message : String)
  | forkRejected (message : String)
  | response (id : Nat) (error : Bool)
  deriving DecidableEq

def terminal : DispatchRun :=
  if s.terminated then s
  else { s with terminated := true, activeTurnId := none, turnInFlight := false }

def response (id : Nat) (error : Bool) : DispatchRun :=
  match s.pendingAt id with
  | none => s
  | some pending =>
    let s := { s with pendingSends := s.pendingSends.erase id }
    if error ∧ pending.opensTurn then s.terminal else s

def readFrame : Frame → DispatchRun
  | .threadStarted threadId => { s with threadBinding := some threadId }
  | .turnStarted none => { s with terminated := false }
  | .turnStarted (some turnId) =>
    { s with
      terminated := false
      activeTurnId := some turnId
      announced := turnId :: s.announced }
  | .turnEnded => s.terminal
  | .fatalError => if s.turnInFlight then s.terminal else s
  | .resumeRejected message => { s with threadBinding := none, resumePoison := some message }
  | .forkRejected message => { s with resumePoison := some message }
  | .response id error => s.response id error

/-- The stream ends. Only a terminal that was deferred clears the id of the turn. -/
def endOfStream (deferred : Bool) : DispatchRun :=
  { s with
    process := s.process.exit
    turnInFlight := false
    activeTurnId := if deferred then none else s.activeTurnId }

/-- What becomes of a wake: how many requests the handshake has written. -/
inductive Wake where
  | woken
  | spawnFailed (error : String)
  | handshakeFailed (requests : Nat) (error : String)
  deriving DecidableEq

def attach (requests : Nat) : DispatchRun :=
  { s with
    activeTurnId := none
    terminated := false
    announced := []
    resumePoison := none
    rpcId := s.rpcId + requests }

/-- The slot is filled, unless it is; a wake that fails leaves it dormant. -/
def ensureAwake (s : DispatchRun) (wake : Wake) : Except BackendError Unit × DispatchRun :=
  if s.process.isActive then (.ok (), s)
  else
    match wake with
    | .woken => (.ok (), { s.attach 4 with process := s.process.ensureAwake })
    | .spawnFailed error => (.error (.transport error), s)
    | .handshakeFailed requests error => (.error (.transport error), s.attach requests)

/-- One poll for the thread: the rejected resume comes first. -/
def boundThread (expired : Bool) : Option (Except BackendError String) :=
  match s.resumePoison, s.threadBinding with
  | some poison, _ => some (.error (.sessionNotFound poison))
  | none, some threadId => some (.ok threadId)
  | none, none => if expired then some (.error .handshakeTimeout) else none

def setSend (send : Send) (stage : SendStage) : DispatchRun :=
  { s with sends := s.sends.insert k { send with stage } }

def setCancel (stage : CancelStage) : DispatchRun :=
  { s with cancels := s.cancels.insert k stage }

/-- A stage of a send, with what the process and the pipe do in it. -/
inductive SendStep where
  | checkActive
  | ensureAwake (wake : Wake)
  | markInFlight
  | boundThread (expired : Bool)
  | register
  | write (write : Write)
  deriving DecidableEq

/-- The correlation comes before the frame, so that no response finds it missing. -/
def registerSend (send : Send) (threadId : String) : DispatchRun :=
  { s with
    rpcId := s.rpcId + 1
    pendingSends := s.pendingSends.insert (s.rpcId + 1) send.input.pending }.setSend k send
    (.registered (s.rpcId + 1) threadId)

def put (sender : Sender) (id : Nat) (request : ClientRequest) : DispatchRun :=
  { s with wire := s.wire ++ [{ sender, id, request, process := s.process }] }

def sendStep (send : Send) (step : SendStep) : DispatchRun :=
  match step, send.stage with
  | .checkActive, .received =>
    if send.input.isLogout then s.setSend k send .clear
    else
      match s.activeTurnId with
      | some turnId => s.setSend k send (.merged turnId)
      | none => s.setSend k send .clear
  | .ensureAwake wake, .clear =>
    match s.ensureAwake wake with
    | (.ok (), s) => s.setSend k send .awake
    | (.error error, s) => s.setSend k send (.unsent error)
  | .markInFlight, .awake =>
    if send.input.isLogout then s
    else { s with turnInFlight := true }.setSend k send .marked
  | .boundThread expired, .marked =>
    match s.boundThread expired with
    | none => s
    | some (.ok threadId) => s.setSend k send (.bound threadId)
    -- nothing has reached the wire
    | some (.error error) => { s with turnInFlight := false }.setSend k send (.unsent error)
  | .register, .bound threadId => s.registerSend k send threadId
  | .register, .awake => if send.input.isLogout then s.registerSend k send "" else s
  | .write .unavailable, .registered id _ =>
    s.setSend k send (.unwritten id (.transport "codex stdin unavailable"))
  | .write (.failed error), .registered id _ => s.setSend k send (.unwritten id (.transport error))
  | .write .written, .registered id threadId =>
    (s.put (.send k) id (send.input.request threadId)).setSend k send (.sent id)
  | _, _ => s

inductive CancelStep where
  | boundThread (expired : Bool)
  | look
  | write (write : Write)
  deriving DecidableEq

/-- The reader has fifty polls to bind the id of a turn that is in flight. -/
def maxPolls : Nat := 50

def look (threadId : String) (polls : Nat) : CancelStage :=
  match s.activeTurnId with
  | some turnId => .found threadId turnId
  | none =>
    if s.turnInFlight ∧ polls < maxPolls then .polling threadId polls
    else .nothing s.turnInFlight polls

def cancelStep (step : CancelStep) (stage : CancelStage) : DispatchRun :=
  match step, stage with
  | .boundThread expired, .received =>
    match s.boundThread expired with
    | none => s
    | some (.ok threadId) => s.setCancel k (.bound threadId)
    | some (.error error) => s.setCancel k (.failed error)
  | .look, .bound threadId => s.setCancel k (s.look threadId 0)
  | .look, .polling threadId polls => s.setCancel k (s.look threadId (polls + 1))
  | .write .unavailable, .found _ _ =>
    { s with rpcId := s.rpcId + 1 }.setCancel k (.failed (.transport "codex stdin unavailable"))
  | .write (.failed error), .found _ _ =>
    { s with rpcId := s.rpcId + 1 }.setCancel k (.failed (.transport error))
  | .write .written, .found threadId turnId =>
    ({ s with rpcId := s.rpcId + 1 }.put (.cancel k) (s.rpcId + 1)
      (.turnInterrupt threadId turnId)).setCancel k (.interrupted (s.rpcId + 1) threadId turnId)
  | _, _ => s

inductive Event where
  | send (k : Nat) (input : SendInput)
  | sendStep (k : Nat) (step : SendStep)
  | cancel (k : Nat)
  | cancelStep (k : Nat) (step : CancelStep)
  | frame (f : Frame)
  | endOfStream (deferred : Bool)
  | suspend
  | terminate
  deriving DecidableEq

def next : Event → DispatchRun
  | .send k input => { s with sends := s.sends.insert k { input, stage := .received } }
  | .sendStep k step =>
    match s.sendAt k with
    | some send => s.sendStep k send step
    | none => s
  | .cancel k => s.setCancel k .received
  | .cancelStep k step =>
    match s.cancelAt k with
    | some stage => s.cancelStep k step stage
    | none => s
  | .frame f => if s.process = .live then s.readFrame f else s
  | .endOfStream deferred => if s.process = .live then s.endOfStream deferred else s
  | .suspend => { s with process := s.process.suspendIfIdle s.turnInFlight }
  | .terminate => { s with process := s.process.terminate }

/-- A dispatch has a number of its own, and the pipe takes a frame only while the process runs. -/
def Possible : Event → Prop
  | .send k _ => s.sendAt k = none
  | .cancel k => s.cancelAt k = none
  | .sendStep _ (.write .written) | .cancelStep _ (.write .written) => s.process = .live
  | _ => True

instance (e : Event) : Decidable (s.Possible e) := by
  unfold Possible
  split <;> infer_instance

def system : LTS DispatchRun Event := .computed .start Possible next

end DispatchRun

end KiCore.Session.Codex

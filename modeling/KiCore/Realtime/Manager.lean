import KiCore.Lib.Text
import KiCore.Lib.Transition

/-!
# Realtime connections

Port of `WebSocketManager` (`manager.rs`), of the loops of a connection (`handler.rs`) and of the routers
and pushes of the monitors (`fs_monitor.rs`, `scm_monitor.rs`). A push and the removal that follows if it
fails are two steps, as are a scan of the connections and the removals that it has collected. The client
answers a close frame. Left out are the upgrade with its checks, whether texts can be serialized, and the
contents of frames that the loops only pass on.
-/

namespace KiCore.Realtime

open KiCore.Lib

inductive RealtimeError where
  | authExpired
  | invalidMessage
  | unsupportedMessage
  | heartbeatTimeout
  deriving DecidableEq

inductive WebSocketCloseCode where
  | normalClosure
  | policyViolation
  deriving DecidableEq

inductive Stream where
  | fs
  | scm
  deriving DecidableEq

inductive ServerText where
  | error (error : RealtimeError)
  | ping (timestamp : Nat)
  | showOpenRequest (id : String) (properties : List String) (isFileMode : Bool)
  | ordered (stream : Stream) (frame : String)
  | event (name : String)
  deriving DecidableEq

inductive WsOutbound where
  | text (text : ServerText)
  | close (code : WebSocketCloseCode) (reason : String)
  | textThenClose (text : ServerText) (code : WebSocketCloseCode) (reason : String)
  deriving DecidableEq

/-- What the server writes to a socket. -/
inductive Message where
  | text (text : ServerText)
  | close (code : WebSocketCloseCode) (reason : String)
  deriving DecidableEq

def Message.closes : Message → Bool
  | .close _ _ => true
  | .text _ => false

/-- What a client writes: `data` is read only for `subscribe-show-open`. -/
inductive ClientFrame where
  | malformed
  | text (name : String) (id : Option String) (properties : List String)
  | other
  | close
  deriving DecidableEq

inductive SendLoop where
  | running
  /-- the text has been sent, and the close frame follows -/
  | closing (code : WebSocketCloseCode) (reason : String)
  | ended
  deriving DecidableEq

inductive RecvLoop where
  | reading
  | left
  | aborted
  | ended
  deriving DecidableEq

structure ClientInfo where
  userId : String
  token : String
  lastPing : Nat

structure Connection where
  /-- its entry in the manager -/
  client : Option ClientInfo
  queue : List WsOutbound
  sendLoop : SendLoop
  recvLoop : RecvLoop
  /-- written to the socket, and not read by the client yet -/
  written : List Message
  received : List Message
  /-- written by the client, and not read yet -/
  sent : List ClientFrame
  clientClosed : Bool
  broken : Bool
  /-- collected by a scan, to be removed -/
  condemned : Bool
  /-- streams a push of which has failed, to be removed -/
  dropping : List Stream
  /-- the frames of the file system that have been pushed -/
  pushed : List String
  /-- the frames of the client that were handed to a router's actor -/
  routed : List String

def PER_CONNECTION_BUFFER : Nat := 64

def HEARTBEAT_TIMEOUT : Nat := 60000

inductive TrySend where
  | ok
  | full
  | closed
  deriving DecidableEq

namespace Connection

def open_ (userId token : String) (now : Nat) : Connection where
  client := some { userId, token, lastPing := now }
  queue := []
  sendLoop := .running
  recvLoop := .reading
  written := []
  received := []
  sent := []
  clientClosed := false
  broken := false
  condemned := false
  dropping := []
  pushed := []
  routed := []

variable (conn : Connection)

def hasRoom : Bool :=
  conn.sendLoop ≠ .ended && conn.queue.length < PER_CONNECTION_BUFFER

def trySend (outbound : WsOutbound) : Connection × TrySend :=
  if conn.hasRoom then ({ conn with queue := conn.queue ++ [outbound] }, .ok)
  else (conn, if conn.sendLoop = .ended then .closed else .full)

def removeClient : Connection := { conn with client := none }

def updateLastPing (now : Nat) : Connection :=
  { conn with client := conn.client.map fun info => { info with lastPing := now } }

def terminalRealtimeError (error : RealtimeError) (reason : String) : WsOutbound :=
  .textThenClose (.error error) .policyViolation reason

/-- `send_to`: a full queue drops the message, and a closed one the client. -/
def sendTo (text : ServerText) : Connection :=
  match conn.client with
  | none => conn
  | some _ =>
    match conn.trySend (.text text) with
    | (conn, .closed) => conn.removeClient
    | (conn, _) => conn

/-- `send_to_or_disconnect`, up to the removal. -/
def push (stream : Stream) (frame : String) : Connection :=
  let conn := if stream = .fs then { conn with pushed := conn.pushed ++ [frame] } else conn
  match conn.client with
  | none => conn
  | some _ =>
    match conn.trySend (.text (.ordered stream frame)) with
    | (conn, .ok) => conn
    | (conn, _) => { conn with dropping := stream :: conn.dropping }

def drop : Connection :=
  if conn.dropping = [] then conn else { conn.removeClient with dropping := [] }

/-- An entry of `disconnect_user`. -/
def disconnect (userId reason : String) : Connection :=
  match conn.client with
  | none => conn
  | some info =>
    if info.userId = userId then
      { (conn.trySend (terminalRealtimeError .authExpired reason)).1 with condemned := true }
    else conn

/-- An entry of `broadcast_to_user`. -/
def broadcast (userId name : String) : Connection :=
  match conn.client with
  | none => conn
  | some info =>
    if info.userId = userId then
      match conn.trySend (.text (.event name)) with
      | (conn, .closed) => { conn with condemned := true }
      | (conn, _) => conn
    else conn

/-- An entry of `heartbeat_tick`. -/
def heartbeatTick (now : Nat) (expired : List String) : Connection :=
  match conn.client with
  | none => conn
  | some info =>
    if HEARTBEAT_TIMEOUT < now - info.lastPing then
      { (conn.trySend (terminalRealtimeError .heartbeatTimeout "heartbeat timeout")).1 with
        condemned := true }
    else if info.token ∈ expired then
      { (conn.trySend (terminalRealtimeError .authExpired "token expired")).1 with condemned := true }
    else
      match conn.trySend (.text (.ping now)) with
      | (conn, .closed) => { conn with condemned := true }
      | (conn, _) => conn

def removeCondemned : Connection :=
  if conn.condemned then { conn.removeClient with condemned := false } else conn

def closeWritten : Bool := (conn.received ++ conn.written).any Message.closes

/-- The receiver of the queue is dropped, with what is in it. -/
def stopSending : Connection := { conn with sendLoop := .ended, queue := [] }

def write (message : Message) (sendLoop : SendLoop) : Connection :=
  if conn.broken || conn.closeWritten then conn.stopSending
  else { conn with written := conn.written ++ [message], sendLoop }

def sendStep : Connection :=
  match conn.sendLoop with
  | .ended => conn
  | .closing code reason => conn.write (.close code reason) .running
  | .running =>
    match conn.queue with
    | [] => if conn.client = none then conn.stopSending else conn
    | .text text :: rest => { conn with queue := rest }.write (.text text) .running
    | .close code reason :: rest => { conn with queue := rest }.write (.close code reason) .running
    | .textThenClose text code reason :: rest =>
      { conn with queue := rest }.write (.text text) (.closing code reason)

def routes (name : String) : Bool := name ∈ ["fs", "scm"]

def isBlank (name : String) : Bool := name.toList.all Lib.Str.isWhitespace

def handleSubscribeShowOpen (id : Option String) (properties : List String) : Connection :=
  let hasOpenFile := properties.contains "openFile"
  let hasOpenDirectory := properties.contains "openDirectory"
  conn.sendTo (.showOpenRequest (id.getD "") properties (hasOpenFile && !hasOpenDirectory))

def handleTextMessage (now : Nat) (name : String) (id : Option String)
    (properties : List String) : Connection :=
  if isBlank name then conn.sendTo (.error .invalidMessage)
  else if name = "pong" then conn.updateLastPing now
  else if name = "subscribe-show-open" then conn.handleSubscribeShowOpen id properties
  else if routes name then { conn with routed := conn.routed ++ [name] }
  else conn.sendTo (.error .unsupportedMessage)

def recvFrame (now : Nat) : ClientFrame → Connection
  | .malformed => conn.sendTo (.error .invalidMessage)
  | .text name id properties => conn.handleTextMessage now name id properties
  | .other => conn
  | .close => { conn with recvLoop := .left }

/-- `recv_loop`, and then the end of `handle_socket`. -/
def recvStep (now : Nat) : Connection :=
  match conn.recvLoop with
  | .reading =>
    match conn.sent with
    | frame :: rest => { conn with sent := rest }.recvFrame now frame
    | [] => if conn.broken then { conn with recvLoop := .left } else conn
  | .left => { conn.stopSending with recvLoop := .aborted }
  | .aborted => { conn.removeClient with recvLoop := .ended }
  | .ended => conn

def clientSend (frame : ClientFrame) : Connection :=
  { conn with sent := conn.sent ++ [frame], clientClosed := conn.clientClosed || frame = .close }

/-- A close frame is answered with another. -/
def clientReceive : Connection :=
  match conn.written with
  | [] => conn
  | message :: rest =>
    let conn := { conn with written := rest, received := conn.received ++ [message] }
    if message.closes && !conn.clientClosed then conn.clientSend .close else conn

end Connection

/-- The connections, those that are no longer held among them. -/
structure WebSocketManager where
  connections : List Connection
  now : Nat

inductive RealtimeEvent where
  | connect (userId token : String)
  | clientSend (c : Nat) (frame : ClientFrame)
  | clientReceive (c : Nat)
  | break_ (c : Nat)
  | sendLoop (c : Nat)
  | recvLoop (c : Nat)
  | sendTo (c : Nat) (name : String)
  | push (c : Nat) (stream : Stream) (frame : String)
  | drop (c : Nat)
  | broadcast (userId name : String)
  | disconnectUser (userId reason : String)
  | heartbeat (expired : List String)
  | removeCondemned (c : Nat)
  | tick (ms : Nat)
  deriving DecidableEq

namespace WebSocketManager

def start : WebSocketManager := { connections := [], now := 0 }

variable (s : WebSocketManager)

def on (c : Nat) (f : Connection → Connection) : WebSocketManager :=
  { s with connections := s.connections.modify c f }

def all (f : Connection → Connection) : WebSocketManager :=
  { s with connections := s.connections.map f }

def next : RealtimeEvent → WebSocketManager
  | .connect userId token => { s with connections := s.connections ++ [.open_ userId token s.now] }
  | .clientSend c frame => s.on c (·.clientSend frame)
  | .clientReceive c => s.on c Connection.clientReceive
  | .break_ c => s.on c fun conn => { conn with broken := true }
  | .sendLoop c => s.on c Connection.sendStep
  | .recvLoop c => s.on c (·.recvStep s.now)
  | .sendTo c name => s.on c (·.sendTo (.event name))
  | .push c stream frame => s.on c (·.push stream frame)
  | .drop c => s.on c Connection.drop
  | .broadcast userId name => s.all (·.broadcast userId name)
  | .disconnectUser userId reason => s.all (·.disconnect userId reason)
  | .heartbeat expired => s.all (·.heartbeatTick s.now expired)
  | .removeCondemned c => s.on c Connection.removeCondemned
  | .tick ms => { s with now := s.now + ms }

/-- A client writes and reads while its socket holds, and writes nothing after a close frame. -/
def Possible : RealtimeEvent → Prop
  | .clientSend c _ => ∀ conn ∈ s.connections[c]?, ¬ conn.broken ∧ ¬ conn.clientClosed
  | .clientReceive c => ∀ conn ∈ s.connections[c]?, ¬ conn.broken
  | _ => True

instance (e : RealtimeEvent) : Decidable (s.Possible e) := by
  unfold Possible
  split <;> infer_instance

end WebSocketManager

end KiCore.Realtime

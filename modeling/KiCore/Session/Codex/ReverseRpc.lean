import KiCore.Session.Requests
import KiCore.Session.Suspend

/-!
# The blocking requests of codex

Port of what `codex_conn.rs` does with the requests of the server: `handle_reverse_rpc`, the
`serverRequest/resolved` of `reader_task`, and the two answers of `dispatch`. What `serde_json` makes of
an id is a parameter. Left out are the inputs and titles of the cards, receipts and logs.
-/

namespace KiCore.Session.Codex

open KiCore.Lib

def elicitPrefix : String := "elicit:"

/-- The ids of requests, as `serde_json` writes and reads them. -/
structure JsonIds (Id : Type) where
  toString : Id → String
  fromStr : String → Option Id
  /-- the id that is the string itself -/
  string : String → Id
  isNull : Id → Bool
  /-- no text of a value begins with a letter of the prefix -/
  untagged : ∀ id, ¬ elicitPrefix.toList <+: (toString id).toList

inductive ServerMethod where
  /-- `account/chatgptAuthTokens/refresh` -/
  | authRefresh
  /-- `attestation/generate` -/
  | attestation
  /-- `item/commandExecution/requestApproval` -/
  | commandExecution
  /-- `item/fileChange/requestApproval` -/
  | fileChange
  /-- `mcpServer/elicitation/request` -/
  | elicitation
  | other (method : String)
  deriving DecidableEq

inductive ResponseBody where
  | decision (decision : String)
  /-- with an empty content -/
  | action (action : String)
  | tokens (accessToken chatgptAccountId : String) (chatgptPlanType : Option String)
  | error (code : Int) (message : String)
  deriving DecidableEq

structure RpcResponse (Id : Type) where
  id : Id
  body : ResponseBody

/-- A backend, as far as the requests of the server go. What has been written and shown counts from the
start of the process on, as do the requests that have not been answered, and those that the server has
not closed. -/
structure RequestRun (Id : Type) where
  process : ProcessState
  pendingAuthId : Option Id
  pendingToolApprovals : Table String String
  events : List SessionEvent
  written : List (RpcResponse Id)
  owed : List (Id × ServerMethod)
  unresolved : List (Id × ServerMethod)

def RequestRun.start (Id : Type) : RequestRun Id where
  process := .live
  pendingAuthId := none
  pendingToolApprovals := ∅
  events := []
  written := []
  owed := []
  unresolved := []

/-- The id of a resolution is untagged, and the entry of an elicitation is not. -/
def removePendingToolApproval (pending : Table String String) (requestId : String) :
    Table String String :=
  if (pending[requestId]?).isSome then pending.erase requestId
  else pending.erase (elicitPrefix ++ requestId)

def stripElicit (requestId : String) : Option String :=
  (requestId.toList.dropPrefix? elicitPrefix.toList).map String.ofList

/-- The object of the credentials may have its keys in either case. -/
def tokensBody (credentials : List (String × String)) : ResponseBody :=
  .tokens
    (((credentials.lookup "access_token").or (credentials.lookup "accessToken")).getD "null")
    (((credentials.lookup "chatgpt_account_id").or (credentials.lookup "chatgptAccountId")).getD "null")
    ((credentials.lookup "chatgpt_plan_type").or (credentials.lookup "chatgptPlanType"))

def decisionStr : PermissionDecision → String
  | .allowAlways => "acceptForSession"
  | .approved => "accept"
  | .denied => "decline"

variable {Id : Type} [DecidableEq Id]

def JsonIds.parse (ids : JsonIds Id) (raw : String) : Id := (ids.fromStr raw).getD (ids.string raw)

def permissionResponse (ids : JsonIds Id) (requestId : String) (decision : PermissionDecision) :
    RpcResponse Id :=
  match stripElicit requestId with
  | some raw =>
    { id := ids.parse raw
      body := .action (if decision = .denied then "decline" else "accept") }
  | none => { id := ids.parse requestId, body := .decision (decisionStr decision) }

namespace RequestRun

variable (s : RequestRun Id)

def emit (e : SessionEvent) : RequestRun Id := { s with events := s.events ++ [e] }

def writeFrame (response : RpcResponse Id) :
    Write → Except String Unit × RequestRun Id
  | .unavailable => (.error "codex stdin unavailable", s)
  | .failed error => (.error error, s)
  | .written =>
    (.ok (), { s with
      written := s.written ++ [response]
      owed := s.owed.filter fun request => request.1 ≠ response.id })

variable (ids : JsonIds Id)

/-- Without an id there is nothing to answer. -/
def writeReverseError (s : RequestRun Id) (id : Id) (code : Int) (message : String)
    (write : Write) : RequestRun Id :=
  if ids.isNull id then s else (s.writeFrame ⟨id, .error code message⟩ write).2

def surface (requestId title : String) : RequestRun Id :=
  { s with pendingToolApprovals := s.pendingToolApprovals.insert requestId title }.emit
    (.permission requestId .tool)

def handleReverseRpc (s : RequestRun Id) (id : Id) (write : Write) :
    ServerMethod → RequestRun Id
  | .authRefresh =>
    { s with pendingAuthId := some id }.emit (.permission (ids.toString id) .auth)
  | .attestation =>
    (s.writeReverseError ids id (-32601) "client cannot supply codex attestation" write).emit
      (.adapterSpecific "codex_reverse_rpc_auto_answered")
  | .commandExecution => s.surface (ids.toString id) "CommandExecution"
  | .fileChange => s.surface (ids.toString id) "FileChange"
  | .elicitation => s.surface (elicitPrefix ++ ids.toString id) "Elicitation"
  | .other _ =>
    (s.writeReverseError ids id (-32601) "method not handled by aionui-session" write).emit
      (.adapterSpecific "codex_reverse_rpc")

/-- The notification does not say what kind of request it is about. -/
def serverRequestResolved (s : RequestRun Id) (id : Id) : RequestRun Id :=
  let kind : PermissionKind := if s.pendingAuthId = some id then .auth else .tool
  { s with
    pendingAuthId := if kind = PermissionKind.auth then none else s.pendingAuthId
    pendingToolApprovals := removePendingToolApproval s.pendingToolApprovals (ids.toString id)
    unresolved := s.unresolved.filter fun request => request.1 ≠ id }.emit
    (.permissionResolved (ids.toString id) kind)

def answerPermission (s : RequestRun Id) (requestId : String)
    (decision : PermissionDecision) (write : Write) : Except String Unit × RequestRun Id :=
  match s.writeFrame (permissionResponse ids requestId decision) write with
  | (.error error, s) => (.error error, s)
  | (.ok (), s) =>
    (.ok (), { s with
      pendingToolApprovals := removePendingToolApproval s.pendingToolApprovals requestId })

def answerAuth (credentials : List (String × String)) (write : Write) :
    Except String Unit × RequestRun Id :=
  match s.pendingAuthId with
  | none => (.error "no pending auth refresh to answer", s)
  | some id =>
    { s with pendingAuthId := none }.writeFrame ⟨id, tokensBody credentials⟩ write

inductive Event (Id : Type) where
  /-- a request of the server, with what becomes of the response if it is rejected -/
  | request (id : Id) (method : ServerMethod) (write : Write)
  | answerPermission (requestId : String) (decision : PermissionDecision) (write : Write)
  | answerAuth (credentials : List (String × String)) (write : Write)
  /-- `serverRequest/resolved` -/
  | resolved (id : Id)
  /-- the process ends by itself -/
  | exit
  /-- the slot is closed: the idle timer, or a forced termination -/
  | stop
  /-- a new process, with a new reader -/
  | wake
  deriving DecidableEq

/-- What the server waits for, once it has sent a request: nothing, if the id is null and nobody is
asked. -/
def receive (s : RequestRun Id) (id : Id) (method : ServerMethod) : RequestRun Id :=
  match method with
  | .attestation | .other _ =>
    if ids.isNull id then s
    else { s with owed := (id, method) :: s.owed, unresolved := (id, method) :: s.unresolved }
  | _ => { s with owed := (id, method) :: s.owed, unresolved := (id, method) :: s.unresolved }

/-- The process is gone, and its requests with it. -/
def close (process : ProcessState) : RequestRun Id :=
  { s with process, events := [], written := [], owed := [], unresolved := [] }

def next (s : RequestRun Id) : Event Id → RequestRun Id
  | .request id method write =>
    if s.process = .live then (s.receive ids id method).handleReverseRpc ids id write method else s
  | .answerPermission requestId decision write => (s.answerPermission ids requestId decision write).2
  | .answerAuth credentials write => (s.answerAuth credentials write).2
  | .resolved id => if s.process = .live then s.serverRequestResolved ids id else s
  | .exit => if s.process = .live then s.close s.process.exit else s
  | .stop => s.close s.process.terminate
  | .wake => if s.process = .dormant then s.close .live else s

end RequestRun

end KiCore.Session.Codex

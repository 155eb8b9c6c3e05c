import KiCore.Agent.Acp.Permission
import KiCore.Lib.Table
import KiCore.Lib.Transition

/-!
# The permission router

Port of `permission_router.rs`. The handler loop takes one request after the other; it registers a request
under its call id, and then sends the event that shows it. It takes the lock of the table for each of the
two, and so does each call of `confirm` and `cancel_all`: what happens between two uses of the lock is one
step, and the steps interleave. A `confirm` that has taken a responder out of the table answers in a step
of its own.

A request is known by the number of requests received before it, which is also its responder.
-/

namespace KiCore.Agent.Acp.Permission

open KiCore.Lib

inductive PermissionDecision where
  | selected (optionId : String)
  | cancelled
  deriving DecidableEq

structure PendingPermission where
  responder : Nat
  confirmation : Confirmation

structure PermissionRouter where
  pendingPermissions : Table String PendingPermission
  closing : Bool

namespace PermissionRouter

def new : PermissionRouter := ⟨∅, false⟩

variable (router : PermissionRouter)

def getConfirmations : List Confirmation :=
  router.pendingPermissions.values.map (·.confirmation)

/-- Register a request; what comes with it is the request that had its call id. -/
def insert (router : PermissionRouter) (callId : String) (pending : PendingPermission) :
    PermissionRouter × Option PendingPermission :=
  ({ router with pendingPermissions := router.pendingPermissions.insert callId pending },
    router.pendingPermissions[callId]?)

def remove (callId : String) : PermissionRouter × Option PendingPermission :=
  ({ router with pendingPermissions := router.pendingPermissions.erase callId },
    router.pendingPermissions[callId]?)

/-- `confirm`, up to the answer. -/
def take (callId : String) : PermissionRouter × Except String PendingPermission :=
  let (router, pending) := router.remove callId
  match pending with
  | some pending => (router, .ok pending)
  | none => (router, .error s!"Pending ACP permission not found: {callId}")

def drain : PermissionRouter × List PendingPermission :=
  ({ router with pendingPermissions := ∅ }, router.pendingPermissions.values)

def setClosing : PermissionRouter := { router with closing := true }

end PermissionRouter

inductive Loop where
  | waiting
  | received (n : Nat) (request : RequestPermissionRequest)
  /-- the event is sent next -/
  | registered (n : Nat) (callId : String)
  /-- the event could not be sent -/
  | unsent (n : Nat) (callId : String)
  deriving DecidableEq

/-- A call of `confirm`. When it was made, the requests `known` had been registered, and `shown` was the
one under its call id. -/
structure Confirm where
  callId : String
  optionId : String
  known : List Nat
  shown : Option Nat
  deriving DecidableEq

/-- Why a request is decided. -/
inductive Cause where
  | autoApproved
  | confirmed (call : Confirm)
  | replaced
  | unsent
  | cancelAll
  deriving DecidableEq

structure Decision where
  request : Nat
  decision : PermissionDecision
  cause : Cause
  deriving DecidableEq

/-- The router, the handler loop, and the calls of `confirm`: those that have not had the lock, and those
that have taken a responder. `requests` are all that were received, and `registered`, `shown` and
`decisions` say what became of them. -/
structure System where
  router : PermissionRouter
  loop : Loop
  confirms : List Confirm
  taken : List (Nat × Confirm)
  requests : List RequestPermissionRequest
  registered : List Nat
  shown : List Nat
  decisions : List Decision

inductive Step where
  | receive (request : RequestPermissionRequest)
  | register
  | send (delivered : Bool)
  | unregister
  | call (callId optionId : String)
  | confirm (call : Confirm)
  | answer (n : Nat) (call : Confirm)
  | cancelAll
  | setClosing
  deriving DecidableEq

namespace System

def start : System where
  router := .new
  loop := .waiting
  confirms := []
  taken := []
  requests := []
  registered := []
  shown := []
  decisions := []

variable (σ : System)

/-- Answer some requests that were pending. -/
def cancel (pending : List PendingPermission) (cause : Cause) : System :=
  { σ with decisions := pending.map (fun p => ⟨p.responder, .cancelled, cause⟩) ++ σ.decisions }

def receive (request : RequestPermissionRequest) : System :=
  let n := σ.requests.length
  let σ := { σ with requests := σ.requests ++ [request] }
  match request.autoApproveOptionId with
  | some optionId => { σ with decisions := ⟨n, .selected optionId, .autoApproved⟩ :: σ.decisions }
  | none => { σ with loop := .received n request }

def register (n : Nat) (request : RequestPermissionRequest) : System :=
  let (router, previous) := σ.router.insert request.toolCallId ⟨n, request.toConfirmation⟩
  { σ with
    router := router
    loop := .registered n request.toolCallId
    registered := n :: σ.registered }.cancel previous.toList .replaced

def unregister (callId : String) : System :=
  let (router, pending) := σ.router.remove callId
  { σ with router := router, loop := .waiting }.cancel pending.toList .unsent

def confirm (call : Confirm) : System :=
  let (router, pending) := σ.router.take call.callId
  match pending with
  | .ok pending => { σ with router := router, taken := (pending.responder, call) :: σ.taken }
  | .error _ => { σ with router := router }

def answer (n : Nat) (call : Confirm) : System :=
  { σ with decisions := ⟨n, .selected call.optionId, .confirmed call⟩ :: σ.decisions }

def cancelAll (σ : System) : System :=
  let (router, pending) := σ.router.drain
  { σ with router := router }.cancel pending .cancelAll

def next : Step → System
  | .receive request => if σ.loop = .waiting then σ.receive request else σ
  | .register =>
    match σ.loop with
    | .received n request => σ.register n request
    | _ => σ
  | .send delivered =>
    match σ.loop with
    | .registered n callId =>
      if delivered then { σ with loop := .waiting, shown := n :: σ.shown }
      else { σ with loop := .unsent n callId }
    | _ => σ
  | .unregister =>
    match σ.loop with
    | .unsent _ callId => σ.unregister callId
    | _ => σ
  | .call callId optionId =>
    let shown := (σ.router.pendingPermissions[callId]?).map (·.responder)
    { σ with confirms := ⟨callId, optionId, σ.registered, shown⟩ :: σ.confirms }
  | .confirm call =>
    if call ∈ σ.confirms then { σ with confirms := σ.confirms.erase call }.confirm call else σ
  | .answer n call =>
    if (n, call) ∈ σ.taken then { σ with taken := σ.taken.erase (n, call) }.answer n call else σ
  | .cancelAll => σ.cancelAll
  | .setClosing => { σ with router := σ.router.setClosing }

end System

end KiCore.Agent.Acp.Permission

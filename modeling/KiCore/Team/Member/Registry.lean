import KiCore.Lib.Table

/-!
# The member runtime registry

Port of `member_runtime.rs`. The registry keeps one entry for each member whose runtime is attaching,
ready, failed or being removed. An operation under way has a watch channel, on which its waiters read the
outcome: the registry's channels are numbered in the order of their creation, a sender or receiver is the
number of its channel, and `channels` holds the last signal sent on each.
-/

namespace KiCore.Team

open KiCore.Lib

/-- The machine integer arithmetic of `AtomicU64::fetch_add(1, ..)`. -/
def u64WrappingSucc (n : Nat) : Nat := (n + 1) % 2 ^ 64

structure MemberRuntimeFailure where
  classification : String
  publicReason : String
  deriving DecidableEq

inductive AttachOutcome where
  | ready
  | failed (failure : MemberRuntimeFailure)
  | removed
  | sessionStopped
  deriving DecidableEq

inductive AttachSignal where
  | pending
  | terminal (outcome : AttachOutcome)
  deriving DecidableEq

/-- A receiver of the outcome of an operation. -/
structure AttachWaiter where
  operationId : Nat
  outcomeRx : Nat

structure AttachLease where
  sessionGeneration : String
  agentId : String
  waiter : AttachWaiter

def AttachLease.operationId (lease : AttachLease) : Nat :=
  lease.waiter.operationId

structure RemoveLease where
  sessionGeneration : String
  agentId : String
  operationId : Nat

inductive ReserveAttach where
  | start (lease : AttachLease)
  | join (waiter : AttachWaiter)
  | alreadyReady
  | removing (waiter : AttachWaiter)
  | sessionStopped

inductive BeginRemove where
  | start (lease : RemoveLease)
  | join (waiter : AttachWaiter)
  | absent
  | sessionStopped

inductive MemberRuntimeSnapshot where
  | absent
  | attaching (operationId : Nat)
  | ready
  | failed (operationId : Nat) (failure : MemberRuntimeFailure)
  | removing (operationId : Nat)
  | sessionStopped
  deriving DecidableEq

inductive MemberRuntimeEntry where
  | attaching (operationId outcomeTx : Nat)
  | ready
  | failed (operationId : Nat) (failure : MemberRuntimeFailure) (outcomeTx : Nat)
  | removing (operationId outcomeTx : Nat)
  deriving DecidableEq

structure MemberRuntimeRegistry where
  sessionGeneration : String
  nextOperationId : Nat
  entries : Table String MemberRuntimeEntry
  stopped : Bool
  channels : List AttachSignal

namespace MemberRuntimeRegistry

/-- `MemberRuntimeRegistry::new`. -/
def new (sessionGeneration : String) : MemberRuntimeRegistry where
  sessionGeneration := sessionGeneration
  nextOperationId := 1
  entries := ∅
  stopped := false
  channels := []

variable (registry : MemberRuntimeRegistry)

/-- Send a signal on a channel, in place of the last one. -/
def sendReplace (tx : Nat) (signal : AttachSignal) : MemberRuntimeRegistry :=
  { registry with channels := registry.channels.set tx signal }

variable (agentId : String)

/-- Begin an operation on a member, under the next id and with a new channel. -/
def begin (entry : Nat → Nat → MemberRuntimeEntry) : MemberRuntimeRegistry :=
  { registry with
    nextOperationId := u64WrappingSucc registry.nextOperationId
    entries :=
      registry.entries.insert agentId (entry registry.nextOperationId registry.channels.length)
    channels := registry.channels ++ [.pending] }

def startAttach : ReserveAttach × MemberRuntimeRegistry :=
  (.start
    { sessionGeneration := registry.sessionGeneration
      agentId := agentId
      waiter := ⟨registry.nextOperationId, registry.channels.length⟩ },
    registry.begin agentId .attaching)

/-- The three reservations: they differ in whether they start over a ready and over a failed entry. -/
def reserve (overReady overFailed : Bool) (registry : MemberRuntimeRegistry) (agentId : String) :
    ReserveAttach × MemberRuntimeRegistry :=
  if registry.stopped then (.sessionStopped, registry)
  else
    match registry.entries[agentId]? with
    | some (.attaching operationId tx) => (.join ⟨operationId, tx⟩, registry)
    | some .ready => if overReady then registry.startAttach agentId else (.alreadyReady, registry)
    | some (.failed operationId _ tx) =>
      if overFailed then registry.startAttach agentId else (.join ⟨operationId, tx⟩, registry)
    | some (.removing operationId tx) => (.removing ⟨operationId, tx⟩, registry)
    | none => registry.startAttach agentId

def reserveAttach (retryFailed : Bool) : ReserveAttach × MemberRuntimeRegistry :=
  registry.reserve false retryFailed agentId

def reserveRestart : ReserveAttach × MemberRuntimeRegistry :=
  registry.reserve true true agentId

def reserveRepair : ReserveAttach × MemberRuntimeRegistry :=
  registry.reserve true false agentId

/-- Commit the attach of a lease, if the lease owns it: the member gets its entry, and the waiters their
outcome. -/
def commitAttach (lease : AttachLease)
    (entry : Nat → MemberRuntimeEntry) (outcome : AttachOutcome) : Bool × MemberRuntimeRegistry :=
  if lease.sessionGeneration ≠ registry.sessionGeneration ∨ registry.stopped then (false, registry)
  else
    match registry.entries[lease.agentId]? with
    | some (.attaching operationId tx) =>
      if operationId ≠ lease.operationId then (false, registry)
      else
        (true, { registry with entries := registry.entries.insert lease.agentId (entry tx) }.sendReplace
          tx (.terminal outcome))
    | _ => (false, registry)

def commitReady (lease : AttachLease) : Bool × MemberRuntimeRegistry :=
  registry.commitAttach lease (fun _ => .ready) .ready

def commitFailed (lease : AttachLease)
    (failure : MemberRuntimeFailure) : Bool × MemberRuntimeRegistry :=
  registry.commitAttach lease (.failed lease.operationId failure) (.failed failure)

def startRemove : BeginRemove × MemberRuntimeRegistry :=
  (.start
    { sessionGeneration := registry.sessionGeneration
      agentId := agentId
      operationId := registry.nextOperationId },
    registry.begin agentId .removing)

def beginRemove : BeginRemove × MemberRuntimeRegistry :=
  if registry.stopped then (.sessionStopped, registry)
  else
    match registry.entries[agentId]? with
    | some (.removing operationId tx) => (.join ⟨operationId, tx⟩, registry)
    -- the waiters of a cancelled attach learn that the member is removed
    | some (.attaching _ tx) => (registry.sendReplace tx (.terminal .removed)).startRemove agentId
    | some (.failed _ _ _) | some .ready => registry.startRemove agentId
    | none => (.absent, registry)

/-- End the removal of a lease, if the lease owns it: the member keeps an entry or not, and the waiters get
their outcome. -/
def endRemove (lease : RemoveLease)
    (entry : Nat → Option MemberRuntimeEntry) (outcome : AttachOutcome) :
    Bool × MemberRuntimeRegistry :=
  if lease.sessionGeneration ≠ registry.sessionGeneration ∨ registry.stopped then (false, registry)
  else
    match registry.entries[lease.agentId]? with
    | some (.removing operationId tx) =>
      if operationId ≠ lease.operationId then (false, registry)
      else
        (true, { registry with
          entries :=
            match entry tx with
            | some entry => registry.entries.insert lease.agentId entry
            | none => registry.entries.erase lease.agentId }.sendReplace tx (.terminal outcome))
    | _ => (false, registry)

def finishRemove (lease : RemoveLease) : Bool × MemberRuntimeRegistry :=
  registry.endRemove lease (fun _ => none) .removed

def restoreAttachRequiredAfterRemovePersistError
    (lease : RemoveLease) (failure : MemberRuntimeFailure) : Bool × MemberRuntimeRegistry :=
  registry.endRemove lease (fun tx => some (.failed lease.operationId failure tx)) (.failed failure)

def snapshot : MemberRuntimeSnapshot :=
  if registry.stopped then .sessionStopped
  else
    match registry.entries[agentId]? with
    | none => .absent
    | some (.attaching operationId _) => .attaching operationId
    | some .ready => .ready
    | some (.failed operationId failure _) => .failed operationId failure
    | some (.removing operationId _) => .removing operationId

end MemberRuntimeRegistry

def MemberRuntimeEntry.underWay : MemberRuntimeEntry → Option (Nat × Nat)
  | .attaching operationId tx | .removing operationId tx => some (operationId, tx)
  | .ready | .failed _ _ _ => none

def MemberRuntimeEntry.channel : MemberRuntimeEntry → Option (Nat × Nat)
  | .attaching operationId tx | .removing operationId tx | .failed operationId _ tx =>
    some (operationId, tx)
  | .ready => none

namespace MemberRuntimeRegistry

/-- The channels after `stop` has drained an entry. -/
def drain (channels : List AttachSignal) : MemberRuntimeEntry → List AttachSignal
  | .attaching _ tx | .removing _ tx => channels.set tx (.terminal .sessionStopped)
  | .ready | .failed _ _ _ => channels

def stop (registry : MemberRuntimeRegistry) : Bool × MemberRuntimeRegistry :=
  if registry.stopped then (false, registry)
  else
    (true, { registry with
      stopped := true
      entries := ∅
      channels := (Table.values registry.entries).foldl drain registry.channels })

end MemberRuntimeRegistry

/-- What a waiter gets, if it need not wait any more: the outcome that was sent, or, when the sender is
dropped without one, `SessionStopped`. -/
def AttachWaiter.outcome (waiter : AttachWaiter) (registry : MemberRuntimeRegistry) :
    Option AttachOutcome :=
  match registry.channels[waiter.outcomeRx]? with
  | some (.terminal outcome) => some outcome
  | _ =>
    if (Table.values registry.entries).any fun entry =>
      entry.channel.any fun channel => channel.2 = waiter.outcomeRx
    then none
    else some .sessionStopped

end KiCore.Team

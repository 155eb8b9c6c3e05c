import KiCore.Lib.Table

/-!
# The pending-delivery queue

Port of `queue.rs`: the deliveries that wait for their targets, one bucket a target, and the count of all of
them. The clock is read by the callers here.

A delivery carries two marks that no function reads: the call of `send` it was made by, and how many
deliveries the queue had accepted before it. They say which delivery is which.
-/

namespace KiCore.SessionMessage

open KiCore.Lib

/-- Per-target cap (`PER_TARGET_LIMIT`). -/
def perTargetLimit : Nat := 20

/-- Cap across all targets (`GLOBAL_LIMIT`). -/
def globalLimit : Nat := 200

/-- A message's time to live (`TTL_MS`). -/
def ttlMs : Int := 10 * 60 * 1000

inductive SessionMessageError where
  | targetNotFound (id : String)
  | targetIsTeam (id : String)
  | senderIsTeam (id : String)
  | targetIsSelf (id : String)
  | queueFull
  | rateLimited
  | featureDisabled
  | schemaValidation (reason : String)
  | transportUnavailable (reason : String)
  deriving DecidableEq

structure PendingDelivery where
  recipient : String
  userId : String
  fromConversationId : String
  message : String
  expiresAtMs : Int
  send : Nat
  stamp : Nat
  deriving DecidableEq

structure QueueState where
  byTarget : Table String (List PendingDelivery)
  total : Nat

namespace QueueState

/-- `QueueState::default()`. -/
def default : QueueState :=
  { byTarget := ∅, total := 0 }

variable (state : QueueState) (target : String)

def bucket : List PendingDelivery :=
  (state.byTarget[target]?).getD []

def push (item : PendingDelivery) : Except SessionMessageError Unit × QueueState :=
  if globalLimit ≤ state.total then (.error .queueFull, state)
  else
    let bucket := state.bucket item.recipient
    if perTargetLimit ≤ bucket.length then
      (.error .queueFull, { state with byTarget := state.byTarget.insert item.recipient bucket })
    else
      (.ok (),
        { byTarget := state.byTarget.insert item.recipient (bucket ++ [item])
          total := state.total + 1 })

/-- Drop what is past its deadline, and report how much that was. -/
def dropExpired (now : Int) : Nat × QueueState :=
  let live (bucket : List PendingDelivery) := bucket.filter (now < ·.expiresAtMs)
  let dropped := Table.sum (fun bucket => bucket.length - (live bucket).length) state.byTarget
  (dropped,
    { byTarget := (state.byTarget.map fun _ bucket => live bucket).filter fun _ bucket => bucket ≠ []
      total := state.total - dropped })

/-- The head of each bucket, in the order the hash map is iterated. -/
def snapshotHeads (order : IterOrder (List PendingDelivery)) : List PendingDelivery :=
  (order.arrange (Table.values state.byTarget)).filterMap (·.head?)

/-- `remove_head`, by which `pop_head` and `drop_head` do their work. -/
def removeHead : QueueState :=
  match state.byTarget[target]? with
  | none => state
  | some bucket =>
    { byTarget :=
        if bucket.tail = [] then state.byTarget.erase target
        else state.byTarget.insert target bucket.tail
      total := if bucket = [] then state.total else state.total - 1 }

def popHead : QueueState :=
  state.removeHead target

def dropHead : QueueState :=
  state.removeHead target

/-- Drop what waits for a target, and report how much that was. -/
def clearFor : Nat × QueueState :=
  let removed := (state.bucket target).length
  (removed, { byTarget := state.byTarget.erase target, total := state.total - removed })

end QueueState

end KiCore.SessionMessage

import KiCore.Lib.MultiMap

/-!
# Subscription registry

Port of `subscription.rs`: who observes which directory. `forward` leads from a session to the
canonical paths it observes and serves disconnects, `reverse` leads from a canonical path to its
subscribers and serves the fan-out. A path that its last subscriber leaves is kept warm in `grace`
for a while.

A hash set is a list, in an order that nothing depends on. The clock is that of the caller.
-/

namespace KiCore.Project

open KiCore.Lib

/-- How long a path is kept warm (`GRACE_TTL_MS`). -/
def graceTtlMs : Nat := 5 * 60 * 1000

/-- The interest of a connection in a path, with the project entry and the relative path it is known
by. -/
structure Subscriber where
  session : String
  peId : String
  rel : String
  deriving DecidableEq

inductive SubscribeOutcome where
  | mount
  | rescuedFromGrace
  | alreadyLive
  deriving DecidableEq

inductive UnsubscribeOutcome where
  | enteredGrace
  | stillLive
  | notSubscribed
  deriving DecidableEq

structure SubscriptionRegistry where
  forward : MultiMap String String
  reverse : MultiMap String Subscriber
  grace : Table String Nat

namespace SubscriptionRegistry

def new : SubscriptionRegistry :=
  { forward := ∅, reverse := ∅, grace := ∅ }

variable (reg : SubscriptionRegistry)

def subscribe (sub : Subscriber) (canonical : String) : SubscribeOutcome × SubscriptionRegistry :=
  let rescued := reg.grace.contains canonical
  let wasEmpty := reg.reverse.image canonical = []
  (if rescued then .rescuedFromGrace else if wasEmpty then .mount else .alreadyLive,
    { forward := reg.forward.link sub.session canonical
      reverse := reg.reverse.link canonical sub
      grace := reg.grace.erase canonical })

/-- Keep the subscribers of a path that meet a test. A path without any is not kept, but goes to
`grace`. -/
def leave (canonical : String) (stays : Subscriber → Bool) (now : Nat) :
    UnsubscribeOutcome × SubscriptionRegistry :=
  match reg.reverse[canonical]? with
  | none => (.notSubscribed, reg)
  | some subs =>
    if subs.filter stays = [] then
      (.enteredGrace,
        { reg with
          reverse := reg.reverse.retain canonical stays
          grace := reg.grace.insert canonical (now + graceTtlMs) })
    else (.stillLive, { reg with reverse := reg.reverse.retain canonical stays })

def unsubscribe (sub : Subscriber) (canonical : String) (now : Nat) :
    UnsubscribeOutcome × SubscriptionRegistry :=
  { reg with forward := reg.forward.unlink sub.session canonical }.leave canonical (· ≠ sub) now

def dropFrom (session : String) (now : Nat) (acc : List String × SubscriptionRegistry)
    (canonical : String) : List String × SubscriptionRegistry :=
  match acc.2.leave canonical (·.session ≠ session) now with
  | (.enteredGrace, reg) => (acc.1 ++ [canonical], reg)
  | (_, reg) => (acc.1, reg)

def dropSession (session : String) (now : Nat) : List String × SubscriptionRegistry :=
  let (graced, reg) := (reg.forward.image session).foldl (dropFrom session now)
    ([], { reg with forward := reg.forward.erase session })
  (graced.mergeSort, reg)

def subscribersOf (canonical : String) : Option (List Subscriber) :=
  reg.reverse[canonical]?

/-- Evict what has been warm for long enough, in the order of the names. -/
def reap (now : Nat) : List String × SubscriptionRegistry :=
  ((reg.grace.filter fun _ evictAt => evictAt ≤ now).keys,
    { reg with grace := reg.grace.filter fun _ evictAt => ¬ evictAt ≤ now })

/-- The number of paths that are live or warm. -/
def watchedCount : Nat :=
  reg.reverse.size + reg.grace.size

def isWatched (canonical : String) : Bool :=
  reg.reverse.contains canonical || reg.grace.contains canonical

/-- The warm path that is to be evicted first. The names come in their order, so that ties go to the
first. -/
def oldest : Option String :=
  (reg.grace.toList.foldl (fun first entry =>
    match first with
    | none => some entry
    | some best => if entry.2 < best.2 then some entry else some best) none).map Prod.fst

/-- One turn of the loop below for each unit of `fuel`. -/
def evictOldest (reg : SubscriptionRegistry) (max : Nat) : Nat → List String × SubscriptionRegistry
  | 0 => ([], reg)
  | fuel + 1 =>
    if reg.watchedCount > max then
      match reg.oldest with
      | none => ([], reg)
      | some canonical =>
        let (evicted, reg) := evictOldest { reg with grace := reg.grace.erase canonical } max fuel
        (canonical :: evicted, reg)
    else ([], reg)

/-- Every turn of the loop evicts a warm path, so that there are at most as many turns as warm
paths. -/
def enforceWatchBudget (max : Nat) : List String × SubscriptionRegistry :=
  reg.evictOldest max reg.grace.size

end SubscriptionRegistry

end KiCore.Project

import Mathlib.Tactic

/-!
# The suspend controller

Port of the slot of `suspend.rs`, together with the process that is in it: an active slot may hold a
process that has ended by itself. The clock is left out, so that the idle timer may fire at any time
when no turn is active.
-/

namespace KiCore.Session

inductive ProcessState where
  /-- active, and the process runs -/
  | live
  /-- active, and the process has ended -/
  | exited
  | dormant
  deriving DecidableEq

/-- What becomes of a frame that is written to the stdin of the process. -/
inductive Write where
  | unavailable
  | failed (error : String)
  | written
  deriving DecidableEq

namespace ProcessState

def isActive : ProcessState → Bool
  | live | exited => true
  | dormant => false

variable (slot : ProcessState)

/-- Only a dormant slot is filled with a new process. -/
def ensureAwake : ProcessState :=
  if slot.isActive then slot else live

/-- The idle timer never closes the slot while a turn is active. -/
def suspendIfIdle (turnActive : Bool) : ProcessState :=
  if turnActive then slot else dormant

def terminate (_ : ProcessState) : ProcessState := dormant

def exit : ProcessState :=
  if slot = live then exited else slot

end ProcessState

end KiCore.Session

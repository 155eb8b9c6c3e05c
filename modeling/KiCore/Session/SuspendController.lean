import KiCore.Lib.Transition

/-!
# The suspend controller under its lock

Port of `suspend.rs`. The slot is behind an async lock, and a call that holds the lock waits in two
places: `ensure_awake` for the wake, `terminate` for the end of the process. What a call does between two
waits is one step. A call to `suspend_if_idle` samples the flag of the turn and the clock before it waits
for the lock, so a turn may start in between. Each call brings its own reading of the clock, and no order
is assumed between them.

`never_suspended` says when the slot is closed, and what the mirrored abort handle designates.
-/

namespace KiCore.Session.Suspend

open KiCore.Lib
open LTS (EnabledAll)

structure ProcHandle where
  reader : Nat
  io : Nat
  deriving DecidableEq

inductive Slot where
  | active (handle : ProcHandle)
  | dormant
  deriving DecidableEq

def Slot.isActive : Slot → Bool
  | .active _ => true
  | .dormant => false

def Slot.reader : Slot → Option Nat
  | .active handle => some handle.reader
  | .dormant => none

structure SuspendController where
  slot : Slot
  lastActivity : Int
  idleTtlMs : Option Int
  currentAbort : Option Nat

namespace SuspendController

def active (handle : ProcHandle) (idleTtlMs : Option Int) (nowMs : Int) : SuspendController where
  slot := .active handle
  lastActivity := nowMs
  idleTtlMs := idleTtlMs
  currentAbort := some handle.reader

variable (c : SuspendController)

/-- `ensure_awake` with the process of a wake that succeeded. -/
def wake (handle : ProcHandle) : SuspendController :=
  { c with currentAbort := some handle.reader, slot := .active handle }

/-- The end of an `ensure_awake`. -/
def refresh (nowMs : Int) : SuspendController :=
  { c with lastActivity := nowMs }

/-- The slot is idle past the ttl. Both are readings of the clock, so their difference does not
overflow. -/
def idle (nowMs ttl : Int) : Bool :=
  ttl ≤ nowMs - c.lastActivity

/-- `suspend_if_idle` under the lock. -/
def suspendIfIdle (nowMs ttl : Int) : SuspendController :=
  if c.slot.isActive && c.idle nowMs ttl then { c with slot := .dormant, currentAbort := none } else c

/-- `terminate` up to the end of the process. -/
def beginTerminate : SuspendController :=
  { c with slot := .dormant }

/-- The rest of `terminate`. -/
def endTerminate : SuspendController :=
  { c with currentAbort := none }

end SuspendController

inductive Call where
  | ensureAwake (nowMs : Int)
  /-- no turn was active when the caller looked, and `turns` had been started by then -/
  | suspendIfIdle (nowMs ttl : Int) (turns : Nat)
  | terminate
  deriving DecidableEq

inductive Holder where
  | waking (nowMs : Int)
  | killing (handle : ProcHandle)
  deriving DecidableEq

/-- The controller, the lock with the calls that wait for it, and the flag of the turn. `aborted` are the
readers that have been aborted, `turns` counts the turns that have been started, and `dispatched` are the
dispatches that went through, the latest first. -/
structure System where
  controller : SuspendController
  holder : Option Holder
  calls : List Call
  turnActive : Bool
  aborted : List Nat
  turns : Nat
  dispatched : List Int

inductive Step where
  | ensureAwake (nowMs : Int)
  /-- the idle timer, or another caller, samples the clock and the flag -/
  | suspendIfIdle (nowMs : Int)
  | terminate
  | lock (call : Call)
  /-- the wake ends; one that fails brings no process -/
  | woken (handle : Option ProcHandle)
  | killed
  | turnStart
  | turnEnd
  deriving DecidableEq

namespace System

def start (handle : ProcHandle) (idleTtlMs : Option Int) (nowMs : Int) : System where
  controller := .active handle idleTtlMs nowMs
  holder := none
  calls := []
  turnActive := false
  aborted := []
  turns := 0
  dispatched := [nowMs]

variable (σ : System)

def dispatch (controller : SuspendController) (nowMs : Int) : System :=
  { σ with controller := controller.refresh nowMs, dispatched := nowMs :: σ.dispatched }

/-- What a call does once it has the lock, up to its end or to its first wait. -/
def enter : Call → System
  | .ensureAwake nowMs =>
    if σ.controller.slot.isActive then σ.dispatch σ.controller nowMs
    else { σ with holder := some (.waking nowMs) }
  | .suspendIfIdle nowMs ttl _ =>
    { σ with
      controller := σ.controller.suspendIfIdle nowMs ttl
      aborted :=
        if σ.controller.idle nowMs ttl then σ.controller.slot.reader.toList ++ σ.aborted else σ.aborted }
  | .terminate =>
    match σ.controller.slot with
    | .active handle =>
      -- the reader is aborted first, so that it does not see the process end
      { σ with
        controller := σ.controller.beginTerminate
        aborted := handle.reader :: σ.aborted
        holder := some (.killing handle) }
    | .dormant => { σ with controller := σ.controller.endTerminate }

def woken (nowMs : Int) : Option ProcHandle → System
  | some handle => { σ with holder := none }.dispatch (σ.controller.wake handle) nowMs
  | none => { σ with holder := none }

def next : Step → System
  | .ensureAwake nowMs => { σ with calls := .ensureAwake nowMs :: σ.calls }
  | .suspendIfIdle nowMs =>
    match σ.controller.idleTtlMs with
    | none => σ
    | some ttl =>
      if σ.turnActive then σ else { σ with calls := .suspendIfIdle nowMs ttl σ.turns :: σ.calls }
  | .terminate => { σ with calls := .terminate :: σ.calls }
  | .lock call =>
    if call ∈ σ.calls ∧ σ.holder = none then { σ with calls := σ.calls.erase call }.enter call else σ
  | .woken handle =>
    match σ.holder with
    | some (.waking nowMs) => σ.woken nowMs handle
    | _ => σ
  | .killed =>
    match σ.holder with
    | some (.killing _) => { σ with controller := σ.controller.endTerminate, holder := none }
    | _ => σ
  | .turnStart => { σ with turnActive := true, turns := σ.turns + 1 }
  | .turnEnd => { σ with turnActive := false }

end System

def Closes (σ : System) (step : Step) : Prop :=
  σ.controller.slot.isActive = true ∧ (σ.next step).controller.slot = .dormant

structure SuspendLaw (σ : System) (step : Step) : Prop where
  /-- the slot is closed by a forced termination, or by an idle check past the ttl of the last dispatch. No
  turn was active when the check was called: if one is active now, it has been started since. -/
  closes : Closes σ step → step = .lock .terminate ∨
    ∃ nowMs ttl turns, step = .lock (.suspendIfIdle nowMs ttl turns) ∧ σ.controller.idleTtlMs = some ttl ∧
      (∀ last ∈ σ.dispatched.head?, last + ttl ≤ nowMs) ∧ (σ.turnActive = true → turns < σ.turns)
  /-- the reader of a process that leaves the slot is aborted -/
  aborts : Closes σ step → ∀ reader ∈ σ.controller.slot.reader, reader ∈ (σ.next step).aborted
  /-- a wake that fails leaves the slot dormant -/
  failed : ∀ nowMs, σ.holder = some (.waking nowMs) → step = .woken none →
    (σ.next step).holder = none ∧ (σ.next step).controller.slot = .dormant
  /-- the mirror designates the process in the slot, or nothing if the slot is dormant, -/
  mirror : (∀ handle, (σ.next step).holder ≠ some (.killing handle)) →
    (σ.next step).controller.currentAbort = (σ.next step).controller.slot.reader
  /-- and while a process is killed, this process, whose reader has been aborted -/
  killing : ∀ handle, (σ.next step).holder = some (.killing handle) →
    (σ.next step).controller.slot = .dormant ∧ handle.reader ∈ (σ.next step).aborted ∧
      (σ.next step).controller.currentAbort = some handle.reader

/-- What holds of the slot and its mirror while the lock is free, or held. -/
def Mirrors (σ : System) : Option Holder → Prop
  | none => σ.controller.currentAbort = σ.controller.slot.reader
  | some (.waking _) => σ.controller.slot = .dormant ∧ σ.controller.currentAbort = none
  | some (.killing handle) => σ.controller.slot = .dormant ∧ handle.reader ∈ σ.aborted ∧
      σ.controller.currentAbort = some handle.reader

/-- A pending idle check has seen no turn. -/
def Sampled (σ : System) : Call → Prop
  | .suspendIfIdle _ ttl turns => σ.controller.idleTtlMs = some ttl ∧ turns ≤ σ.turns ∧
      (σ.turnActive = true → turns < σ.turns)
  | _ => True

structure Inv (σ : System) : Prop where
  last : σ.dispatched.head? = some σ.controller.lastActivity
  mirrors : Mirrors σ σ.holder
  sampled : ∀ call ∈ σ.calls, Sampled σ call

variable {σ : System} {step : Step} {call : Call} {handle : ProcHandle} {idleTtlMs : Option Int}
  {nowMs ttl : Int} {turns : Nat}

lemma Inv.start : Inv (System.start handle idleTtlMs nowMs) :=
  ⟨rfl, rfl, by rintro _ ⟨⟩⟩

lemma Sampled.congr {σ' : System} (sampled : Sampled σ call)
    (ttl : σ'.controller.idleTtlMs = σ.controller.idleTtlMs) (turns : σ'.turns = σ.turns)
    (active : σ'.turnActive = σ.turnActive) : Sampled σ' call := by
  cases call with
  | ensureAwake | terminate => trivial
  | suspendIfIdle =>
    unfold Sampled
    rw [ttl, turns, active]
    exact sampled

lemma enter_suspendIfIdle (σ : System) : σ.enter (.suspendIfIdle nowMs ttl turns) = σ ∨
    ∃ handle, σ.controller.slot = .active handle ∧ ttl ≤ nowMs - σ.controller.lastActivity ∧
      σ.enter (.suspendIfIdle nowMs ttl turns) =
        { σ with
          controller := { σ.controller with slot := .dormant, currentAbort := none }
          aborted := handle.reader :: σ.aborted } := by
  unfold System.enter SuspendController.suspendIfIdle
  dsimp only
  cases idle : σ.controller.idle nowMs ttl with
  | false => exact .inl (by simp)
  | true =>
    cases slot : σ.controller.slot with
    | dormant => exact .inl (by simp [Slot.isActive, Slot.reader])
    | active handle =>
      exact .inr ⟨handle, rfl, of_decide_eq_true idle, by simp [Slot.isActive, Slot.reader]⟩

section

variable (inv : Inv σ)
include inv

section

variable (free : σ.holder = none)
include free

lemma Inv.mirrored : σ.controller.currentAbort = σ.controller.slot.reader := by
  have mirrors := inv.mirrors
  rwa [free] at mirrors

lemma Inv.ensureAwake : Inv (σ.enter (.ensureAwake nowMs)) := by
  have mirrored := inv.mirrored free
  cases slot : σ.controller.slot with
  | active handle =>
    have entered : σ.enter (.ensureAwake nowMs) = σ.dispatch σ.controller nowMs :=
      if_pos (by rw [slot]; rfl)
    rw [entered]
    refine ⟨rfl, ?_, fun call mem => (inv.sampled call mem).congr rfl rfl rfl⟩
    show Mirrors _ σ.holder
    rw [free]
    exact mirrored
  | dormant =>
    have entered : σ.enter (.ensureAwake nowMs) = { σ with holder := some (.waking nowMs) } :=
      if_neg (by rw [slot]; exact Bool.false_ne_true)
    rw [entered]
    refine ⟨inv.last, ⟨slot, ?_⟩, fun call mem => (inv.sampled call mem).congr rfl rfl rfl⟩
    rw [slot] at mirrored
    exact mirrored

lemma Inv.suspendIfIdle : Inv (σ.enter (.suspendIfIdle nowMs ttl turns)) := by
  rcases enter_suspendIfIdle σ with entered | ⟨handle, _, _, entered⟩
  · rw [entered]
    exact inv
  · rw [entered]
    refine ⟨inv.last, ?_, fun call mem => (inv.sampled call mem).congr rfl rfl rfl⟩
    show Mirrors _ σ.holder
    rw [free]
    rfl

lemma Inv.terminate : Inv (σ.enter .terminate) := by
  have mirrored := inv.mirrored free
  cases slot : σ.controller.slot with
  | active handle =>
    have entered : σ.enter .terminate = { σ with
        controller := σ.controller.beginTerminate
        aborted := handle.reader :: σ.aborted
        holder := some (.killing handle) } := by
      simp only [System.enter, slot]
    rw [entered]
    refine ⟨inv.last, ⟨rfl, .head _, ?_⟩, fun call mem => (inv.sampled call mem).congr rfl rfl rfl⟩
    rw [slot] at mirrored
    exact mirrored
  | dormant =>
    have entered : σ.enter .terminate = { σ with controller := σ.controller.endTerminate } := by
      simp only [System.enter, slot]
    rw [entered]
    refine ⟨inv.last, ?_, fun call mem => (inv.sampled call mem).congr rfl rfl rfl⟩
    show Mirrors _ σ.holder
    rw [free]
    show none = σ.controller.slot.reader
    rw [slot]
    rfl

lemma Inv.enter : Inv (σ.enter call) := by
  cases call with
  | ensureAwake nowMs => exact inv.ensureAwake free
  | suspendIfIdle nowMs ttl turns => exact inv.suspendIfIdle free
  | terminate => exact inv.terminate free

end

lemma Inv.called (sampled : Sampled σ call) : Inv { σ with calls := call :: σ.calls } := by
  refine ⟨inv.last, inv.mirrors, fun call' mem => ?_⟩
  rcases List.mem_cons.mp mem with rfl | mem
  · exact sampled.congr rfl rfl rfl
  · exact (inv.sampled call' mem).congr rfl rfl rfl

lemma Inv.called_erase : Inv { σ with calls := σ.calls.erase call } :=
  ⟨inv.last, inv.mirrors, fun call' mem =>
    (inv.sampled call' (List.mem_of_mem_erase mem)).congr rfl rfl rfl⟩

end

lemma Inv.woken {handle : Option ProcHandle} (inv : Inv σ) (waking : σ.holder = some (.waking nowMs)) :
    Inv (σ.woken nowMs handle) := by
  have mirrors := inv.mirrors
  rw [waking] at mirrors
  cases handle with
  | some handle => exact ⟨rfl, rfl, fun call mem => (inv.sampled call mem).congr rfl rfl rfl⟩
  | none =>
    refine ⟨inv.last, ?_, fun call mem => (inv.sampled call mem).congr rfl rfl rfl⟩
    show σ.controller.currentAbort = σ.controller.slot.reader
    rw [mirrors.1, mirrors.2]
    rfl

lemma Inv.killed (inv : Inv σ) (killing : σ.holder = some (.killing handle)) :
    Inv { σ with controller := σ.controller.endTerminate, holder := none } := by
  have mirrors := inv.mirrors
  rw [killing] at mirrors
  refine ⟨inv.last, ?_, fun call mem => (inv.sampled call mem).congr rfl rfl rfl⟩
  show none = σ.controller.slot.reader
  rw [mirrors.1]
  rfl

lemma Inv.turnStart (inv : Inv σ) : Inv (σ.next .turnStart) := by
  refine ⟨inv.last, inv.mirrors, fun call mem => ?_⟩
  have sampled := inv.sampled call mem
  cases call with
  | ensureAwake | terminate => trivial
  | suspendIfIdle =>
    exact ⟨sampled.1, Nat.le_succ_of_le sampled.2.1, fun _ => Nat.lt_succ_of_le sampled.2.1⟩

lemma Inv.turnEnd (inv : Inv σ) : Inv (σ.next .turnEnd) := by
  refine ⟨inv.last, inv.mirrors, fun call mem => ?_⟩
  have sampled := inv.sampled call mem
  cases call with
  | ensureAwake | terminate => trivial
  | suspendIfIdle => exact ⟨sampled.1, sampled.2.1, by rintro ⟨⟩⟩

lemma Inv.next (inv : Inv σ) : Inv (σ.next step) := by
  cases step with
  | ensureAwake nowMs => exact inv.called trivial
  | terminate => exact inv.called trivial
  | suspendIfIdle nowMs =>
    unfold System.next
    dsimp only
    cases ttl : σ.controller.idleTtlMs with
    | none => exact inv
    | some ttl' =>
      dsimp only
      split
      next => exact inv
      next inactive => exact inv.called ⟨ttl, le_refl _, fun active => absurd active inactive⟩
  | lock call =>
    unfold System.next
    dsimp only
    split
    next free => exact inv.called_erase.enter free.2
    next => exact inv
  | woken handle =>
    unfold System.next
    dsimp only
    split
    next nowMs waking => exact inv.woken waking
    next => exact inv
  | killed =>
    unfold System.next
    dsimp only
    split
    next handle killing => exact inv.killed killing
    next => exact inv
  | turnStart => exact inv.turnStart
  | turnEnd => exact inv.turnEnd

lemma locks_of_closes (closes : Closes σ step) : ∃ call, step = .lock call ∧ call ∈ σ.calls ∧
    σ.next step = { σ with calls := σ.calls.erase call }.enter call := by
  obtain ⟨active, dormant⟩ := closes
  have open_ (same : (σ.next step).controller.slot = σ.controller.slot) : False := by
    rw [same] at dormant
    rw [dormant] at active
    cases active
  cases step with
  | ensureAwake | terminate | turnStart | turnEnd => exact (open_ rfl).elim
  | suspendIfIdle nowMs =>
    refine (open_ ?_).elim
    unfold System.next
    dsimp only
    split
    · rfl
    · split <;> rfl
  | lock call =>
    by_cases free : call ∈ σ.calls ∧ σ.holder = none
    · exact ⟨call, rfl, free.1, if_pos free⟩
    · have same : σ.next (.lock call) = σ := if_neg free
      exact (open_ (by rw [same])).elim
  | woken handle =>
    cases handle with
    | none =>
      refine (open_ ?_).elim
      unfold System.next
      dsimp only
      split <;> rfl
    | some handle =>
      unfold System.next at dormant
      dsimp only at dormant
      split at dormant
      · cases dormant
      · rw [dormant] at active
        cases active
  | killed =>
    refine (open_ ?_).elim
    unfold System.next
    dsimp only
    split <;> rfl

lemma closes_enter (σ : System) (active : σ.controller.slot.isActive = true)
    (dormant : (σ.enter call).controller.slot = .dormant) :
    (∀ reader ∈ σ.controller.slot.reader, reader ∈ (σ.enter call).aborted) ∧
      (call = .terminate ∨ ∃ nowMs ttl turns, call = .suspendIfIdle nowMs ttl turns ∧
        σ.controller.lastActivity + ttl ≤ nowMs) := by
  cases call with
  | ensureAwake nowMs =>
    have same : σ.enter (.ensureAwake nowMs) = σ.dispatch σ.controller nowMs := if_pos active
    rw [same] at dormant
    rw [show σ.controller.slot = .dormant from dormant] at active
    cases active
  | suspendIfIdle nowMs ttl turns =>
    rcases enter_suspendIfIdle σ with same | ⟨handle, slot, idle, closed⟩
    · rw [same] at dormant
      rw [dormant] at active
      cases active
    · rw [closed, slot]
      refine ⟨?_, .inr ⟨nowMs, ttl, turns, rfl, by omega⟩⟩
      rintro _ ⟨⟩
      exact .head _
  | terminate =>
    cases slot : σ.controller.slot with
    | dormant =>
      rw [slot] at active
      cases active
    | active handle =>
      refine ⟨?_, .inl rfl⟩
      rintro _ ⟨⟩
      simp [System.enter, slot]

lemma Inv.law (inv : Inv σ) : SuspendLaw σ step where
  closes closes := by
    obtain ⟨call, rfl, mem, moved⟩ := locks_of_closes closes
    have dormant := closes.2
    rw [moved] at dormant
    obtain ⟨_, rfl | ⟨nowMs, ttl, turns, rfl, idle⟩⟩ :=
      closes_enter { σ with calls := σ.calls.erase call } closes.1 dormant
    · exact .inl rfl
    · have sampled := inv.sampled _ mem
      refine .inr ⟨nowMs, ttl, turns, rfl, sampled.1, fun last here => ?_, sampled.2.2⟩
      rw [inv.last] at here
      cases here
      exact idle
  aborts closes := by
    obtain ⟨call, rfl, mem, moved⟩ := locks_of_closes closes
    have dormant := closes.2
    rw [moved] at dormant ⊢
    exact (closes_enter { σ with calls := σ.calls.erase call } closes.1 dormant).1
  failed nowMs waking failed := by
    subst failed
    have mirrors := inv.mirrors
    rw [waking] at mirrors
    have next : σ.next (.woken none) = { σ with holder := none } := by
      simp only [System.next, waking, System.woken]
    rw [next]
    exact ⟨rfl, mirrors.1⟩
  mirror awake := by
    have mirrors : Mirrors (σ.next step) (σ.next step).holder := inv.next.mirrors
    cases holder : (σ.next step).holder with
    | none => rwa [holder] at mirrors
    | some h =>
      cases h with
      | killing handle => exact absurd holder (awake handle)
      | waking nowMs =>
        rw [holder] at mirrors
        rw [mirrors.1, mirrors.2]
        rfl
  killing handle holder := by
    have mirrors : Mirrors (σ.next step) (σ.next step).holder := inv.next.mirrors
    rwa [holder] at mirrors

/-- Suspension: every step of every interleaving keeps the law. -/
theorem never_suspended (handle : ProcHandle) (idleTtlMs : Option Int) (nowMs : Int) (steps : List Step) :
    EnabledAll SuspendLaw System.next (.start handle idleTtlMs nowMs) steps :=
  LTS.enabledAll_of (Q := Inv) (fun _ _ inv => ⟨inv.law, inv.next⟩) .start

/-- A process that is terminated is closed under its turn, and is designated until it has ended. An idle
check that was called during a wake closes the slot under the turn of that wake. -/
theorem suspended_underTurn :
    let σ := System.start ⟨1, 1⟩ (some 100) 0
    let forced := [.turnStart, .terminate].foldl System.next σ
    let late := [.suspendIfIdle 100, .lock (.suspendIfIdle 100 100 0), .ensureAwake 110,
      .lock (.ensureAwake 110), .suspendIfIdle 300, .woken (some ⟨2, 2⟩), .turnStart].foldl System.next σ
    (forced.turnActive = true ∧ Closes forced (.lock .terminate) ∧
      (forced.next (.lock .terminate)).controller.currentAbort = some 1) ∧
      late.turnActive = true ∧ Closes late (.lock (.suspendIfIdle 300 100 0)) := by
  unfold Closes
  decide

end KiCore.Session.Suspend

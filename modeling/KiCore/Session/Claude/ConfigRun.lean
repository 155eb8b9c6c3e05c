import KiCore.Lib.Text
import KiCore.Session.Suspend
import KiCore.Session.Claude.Adapter

/-!
# The configuration of a claude session

Port of the roads on which a mode, a model and an effort reach the CLI, from `claude_conn.rs`: spawn
flags that a wake replays, the desired model that it re-applies, the queue that the next prompt drains,
and control requests that are written at once. A command that is accepted here has been written or
queued; what is written while no process is live is lost. Left out are the receipts, the other
capabilities, and the clock of the idle timer.
-/

namespace KiCore.Session.Claude

open KiCore.Lib
open Str (trim)

def claudePermissionModeIds : List String :=
  ["default", "acceptEdits", "bypassPermissions", "plan", "dontAsk", "auto"]

/-- The model to ask for; every row is sent, and only absence sends nothing. -/
def desiredModelFromConfig (model : Option String) : Option String :=
  (model.map trim).filter (· ≠ "")

/-- The value of `--permission-mode` that `build_claude_init_args` passes. -/
def spawnMode (mode : Option String) : String :=
  (((mode.map trim).filter (· ≠ "")).filter (· ∈ claudePermissionModeIds)).getD "default"

structure ModelInfo where
  id : String
  reasoningEfforts : List String

structure SessionConfig where
  mode : Option String
  model : Option String

inductive Control where
  | setPermissionMode (mode : String)
  | setModel (model : String)
  | applyFlagSettings (effort : String)
  deriving DecidableEq

inductive ControlSubtype where
  | setPermissionMode
  | setModel
  | applyFlagSettings
  deriving DecidableEq

def Control.subtype : Control → ControlSubtype
  | .setPermissionMode _ => .setPermissionMode
  | .setModel _ => .setModel
  | .applyFlagSettings _ => .applyFlagSettings

def Control.model : Control → Option String
  | .setModel model => some model
  | _ => none

def Control.effort : Control → Option String
  | .applyFlagSettings effort => some effort
  | _ => none

/-- Queue a control; it replaces one of its kind. -/
def requeue (queue : List Control) (c : Control) : List Control :=
  queue.filter (fun q => q.subtype ≠ c.subtype) ++ [c]

/-- The configuration that a process has been given, or that a user has asked for. -/
structure Settings where
  mode : String
  model : Option String
  effort : Option String

def Settings.take (given : Settings) : Control → Settings
  | .setPermissionMode mode => { given with mode }
  | .setModel model => { given with model := some model }
  | .applyFlagSettings effort => { given with effort := some effort }

/-- A backend with its process, as far as the configuration goes. -/
structure ConfigRun where
  config : SessionConfig
  process : ProcessState
  turnInFlight : Bool
  pendingControls : List Control
  desiredModel : Option String
  currentEffort : Option String
  currentModeOverride : Option String
  discoveredModel : Option String
  discoveredModels : List ModelInfo
  /-- what the process has been given, by its flags and the control requests in order -/
  given : Settings
  /-- the last accepted values, or those of the open -/
  wanted : Settings
  /-- the mode that the CLI has reported last is not the wanted one -/
  unconfirmed : Bool

structure ConfigCapabilities where
  currentModel : Option String
  currentMode : Option String
  currentEffort : Option String

namespace ConfigRun

variable (s : ConfigRun)

def write (c : Control) : ConfigRun :=
  if s.process = .live then { s with given := s.given.take c } else s

/-- A mode is written through; the other kinds wait for the end of a turn, the last one of each. -/
def writeOrQueueControl (c : Control) : ConfigRun :=
  if c.subtype ≠ .setPermissionMode ∧ s.turnInFlight then
    { s with pendingControls := requeue s.pendingControls c }
  else s.write c

/-- Re-apply the model to a process that has just started. A write that fails is only logged. -/
def applyDesiredModel (applied : Bool) : ConfigRun :=
  match s.desiredModel with
  | none => s
  | some model => if applied || s.turnInFlight then s.writeOrQueueControl (.setModel model) else s

def spawned : ConfigRun :=
  { s with
    process := s.process.ensureAwake
    given := { mode := spawnMode s.config.mode, model := none, effort := none } }

def wakeHandle (applied : Bool) : ConfigRun := s.spawned.applyDesiredModel applied

def ensureAwake (applied : Bool) : ConfigRun :=
  if s.process.isActive then s else s.wakeHandle applied

def writeAll (controls : List Control) : ConfigRun := controls.foldl write s

/-- The queue is taken before it is written; what is behind a frame that fails is lost with it. -/
def drainPendingControls (written : Nat) : ConfigRun :=
  { s.writeAll (s.pendingControls.take written) with pendingControls := [] }

def start (config : SessionConfig) : ConfigRun :=
  wakeHandle
    { config
      process := .dormant
      turnInFlight := false
      pendingControls := []
      desiredModel := desiredModelFromConfig config.model
      currentEffort := none
      currentModeOverride := none
      discoveredModel := none
      discoveredModels := []
      given := { mode := "", model := none, effort := none }
      wanted :=
        { mode := spawnMode config.mode, model := desiredModelFromConfig config.model, effort := none }
      unconfirmed := config.mode.getD "default" ≠ spawnMode config.mode } true

/-- The efforts of the current model, or of all models when it is not in the catalog. -/
def effortIsSupported (value : String) : Bool :=
  let current := s.config.model.or s.discoveredModel
  let efforts :=
    match current.bind fun id => s.discoveredModels.find? fun m => m.id = id with
    | some model => model.reasoningEfforts
    | none => s.discoveredModels.flatMap ModelInfo.reasoningEfforts
  -- an absent catalog cannot reject anything
  s.discoveredModels.isEmpty || efforts.isEmpty || value ∈ efforts

def setMode (mode : String) : ConfigRun :=
  { s.writeOrQueueControl (.setPermissionMode mode) with
    wanted := { s.wanted with mode }
    unconfirmed := s.unconfirmed || mode ≠ s.wanted.mode }

def setModel (s : ConfigRun) (model : String) : ConfigRun :=
  { s.writeOrQueueControl (.setModel model) with
    desiredModel := desiredModelFromConfig (some model)
    wanted := { s.wanted with model := desiredModelFromConfig (some model) } }

def setEffort (value : String) : ConfigRun :=
  if s.effortIsSupported value then
    { s.writeOrQueueControl (.applyFlagSettings value) with
      currentEffort := some value
      wanted := { s.wanted with effort := some value } }
  else s

inductive SendOutcome where
  | spawnFails
  | drainFails (written : Nat)
  | promptFails
  | written
  deriving DecidableEq

def send (applied : Bool) : SendOutcome → ConfigRun
  | .spawnFails => s
  | .drainFails written => (s.ensureAwake applied).drainPendingControls written
  | .promptFails | .written =>
    let s := s.ensureAwake applied
    { s.drainPendingControls s.pendingControls.length with turnInFlight := true }

def sniffMode (raw : String) : ConfigRun :=
  let mode := if raw = "normal" then "default" else raw
  { s with currentModeOverride := some mode, unconfirmed := mode ≠ s.wanted.mode }

def sniffModeReject : ConfigRun :=
  { s with
    currentModeOverride := none
    unconfirmed := s.config.mode.getD "default" ≠ s.wanted.mode }

/-- The model of an init frame counts only if the session was opened without one. -/
def sniffInit (model : String) : ConfigRun :=
  if s.config.model = none then { s with discoveredModel := some model } else s

def capabilities : ConfigCapabilities where
  currentModel := s.config.model.or s.discoveredModel
  currentMode := s.currentModeOverride.or s.config.mode
  currentEffort := s.currentEffort

inductive Event where
  -- accepted commands
  | setMode (mode : String)
  | setModel (model : String)
  | setEffort (value : String)
  | send (applied : Bool) (outcome : SendOutcome)
  | steer (applied : Bool)
  -- frames of the process
  | systemMode (raw : String)
  | modeRejected
  | systemInit (model : String)
  | initialized (models : List ModelInfo)
  | turnResult
  -- the life of the process
  | exit
  | suspendIfIdle
  | terminate

def frame (read : ConfigRun → ConfigRun) : ConfigRun :=
  if s.process = .live then read s else s

def next : Event → ConfigRun
  | .setMode mode => s.setMode mode
  | .setModel model => s.setModel model
  | .setEffort value => s.setEffort value
  | .send applied outcome => s.send applied outcome
  | .steer applied => s.ensureAwake applied
  | .systemMode raw => s.frame fun s => s.sniffMode raw
  | .modeRejected => s.frame sniffModeReject
  | .systemInit model => s.frame fun s => s.sniffInit model
  | .initialized models => s.frame fun s => { s with discoveredModels := models }
  | .turnResult => s.frame fun s => { s with turnInFlight := false }
  -- the end of the stream clears the flag, an aborted reader does not
  | .exit => s.frame fun s => { s with process := s.process.exit, turnInFlight := false }
  | .suspendIfIdle => { s with process := s.process.suspendIfIdle s.turnInFlight }
  | .terminate => { s with process := s.process.terminate }

end ConfigRun

end KiCore.Session.Claude

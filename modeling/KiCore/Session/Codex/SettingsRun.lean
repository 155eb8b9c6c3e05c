import KiCore.Session.Claude.ConfigRun

/-!
# The settings of a codex session

Port of the roads on which a model, a permission tier and an effort reach codex, from `codex_conn.rs`:
the overrides of the handshake, the task that reconciles the values of the open, and the commands of the
user. Calls run side by side, each in the stages between which it waits; a wake holds the slot, but not
the stdin that it has put in place. Left out are what codex answers to an update, the tracked model, the
other parameters of a handshake, the clock of the idle timer, and a `Send` that finds a turn active: it
writes nothing and wakes nothing.
-/

namespace KiCore.Session.Codex

open KiCore.Lib
open Str (trim)

def normalizeToProfileId (mode : String) : String :=
  let trimmed := trim mode
  match trimmed.toList with
  | ':' :: _ :: _ => trimmed
  | _ =>
    if trimmed ∈ ["agent-full-access", "full-access", "yolo", "yoloNoSandbox"] then ":danger-full-access"
    else if trimmed = "read-only" then ":read-only"
    else ":workspace"

def profileIdToLegacyValue (profileId : String) : String :=
  if profileId = ":read-only" then "read-only"
  else if profileId = ":workspace" then "auto"
  else if profileId = ":danger-full-access" then "full-access"
  else profileId

/-- The tier of a `sandbox_mode`, which the source pairs in comments only (of `open_session`
and `normalize_to_profile_id`). -/
def sandboxTier (sandbox : String) : String :=
  if sandbox = "read-only" then ":read-only"
  else if sandbox = "workspace-write" then ":workspace"
  else if sandbox = "danger-full-access" then ":danger-full-access"
  else sandbox

structure CodexConfig where
  model : Option String
  mode : Option String
  sandboxMode : Option String
  approvalPolicy : Option String

inductive Setting where
  | model (id : String)
  | permissions (profileId : String)
  | effort (value : String)
  deriving DecidableEq

def Setting.asModel : Setting → Option String
  | .model id => some id
  | _ => none

def Setting.asTier : Setting → Option String
  | .permissions profileId => some profileId
  | _ => none

def Setting.asEffort : Setting → Option String
  | .effort value => some value
  | _ => none

/-- The overrides that every handshake sends; the model is not among them. -/
structure ThreadStartParams where
  sandbox : String
  approvalPolicy : String

def threadStartParams (config : CodexConfig) : ThreadStartParams where
  sandbox := config.sandboxMode.getD "workspace-write"
  approvalPolicy := config.approvalPolicy.getD "on-request"

inductive SettingsFrame where
  | threadStart (params : ThreadStartParams)
  | threadResume (params : ThreadStartParams) (threadId : String)
  | threadFork (params : ThreadStartParams) (parentThreadId : String) (lastTurnId : Option String)
  | settingsUpdate (threadId : String) (setting : Setting)
  | turnStart (threadId : String)

structure Settings where
  model : Option String
  tier : Option String
  effort : Option String

def Settings.take (sent : Settings) : SettingsFrame → Settings
  | .threadStart params | .threadResume params _ | .threadFork params _ _ =>
    { sent with tier := some (sandboxTier params.sandbox) }
  | .settingsUpdate _ (.model id) => { sent with model := some id }
  | .settingsUpdate _ (.permissions profileId) => { sent with tier := some profileId }
  | .settingsUpdate _ (.effort value) => { sent with effort := some value }
  | .turnStart _ => sent

inductive SessionSpec where
  | fresh
  | resume (backendSessionId : Option String)
  | fork (parentBackendSessionId : String) (atTurnId : Option String)
  deriving DecidableEq

inductive HandshakeMode where
  | fresh
  | resume (threadId : String)
  | fork (parentThreadId : String) (lastTurnId : Option String)
  deriving DecidableEq

def SessionSpec.handshakeMode : SessionSpec → HandshakeMode
  | .fresh | .resume none => .fresh
  | .resume (some threadId) => .resume threadId
  | .fork parent atTurnId => .fork parent atTurnId

def HandshakeMode.frame (config : CodexConfig) : HandshakeMode → SettingsFrame
  | .fresh => .threadStart (threadStartParams config)
  | .resume threadId => .threadResume (threadStartParams config) threadId
  | .fork parent lastTurnId => .threadFork (threadStartParams config) parent lastTurnId

inductive SettingsCommand where
  | setMode (mode : String)
  | setModel (model : String)
  /-- `SetConfigOption` under one of the names of the effort -/
  | setEffort (value : String)
  | send
  deriving DecidableEq

def SettingsCommand.setting : SettingsCommand → Option Setting
  | .setMode mode => some (.permissions (normalizeToProfileId mode))
  | .setModel model => some (.model model)
  | .setEffort value => some (.effort value)
  | .send => none

def SettingsCommand.frame (command : SettingsCommand) (threadId : String) : SettingsFrame :=
  match command.setting with
  | some setting => .settingsUpdate threadId setting
  | none => .turnStart threadId

inductive Origin where
  | user
  | reconcile
  deriving DecidableEq

inductive CallStage where
  | received
  | awake
  /-- of a `Send`: the turn is marked as in flight -/
  | marked
  | bound (threadId : String)
  | accepted
  | failed
  deriving DecidableEq

structure SettingsCall where
  origin : Origin
  command : SettingsCommand
  stage : CallStage
  deriving DecidableEq

/-- The task that applies the values of the open, model first. -/
inductive ReconcileStage where
  | awaitModels (requested : String) (polls : Nat)
  | settingModel (call : Nat)
  | awaitModes (requested : String) (polls : Nat)
  | settingMode (call : Nat)
  | finished
  deriving DecidableEq

/-- The slot of the process. A call that wakes it holds its lock. -/
inductive CodexSlot where
  | active
  | dormant
  | waking (call : Nat) (resumed : Bool)
  deriving DecidableEq

/-- A backend with its process, as far as the settings go. -/
structure SettingsRun where
  config : CodexConfig
  slot : CodexSlot
  /-- the process behind the stdin runs -/
  running : Bool
  turnInFlight : Bool
  threadBinding : Option String
  resumePoison : Option String
  models : List String
  modes : List String
  reconcile : ReconcileStage
  calls : List SettingsCall
  /-- what has been written to the process -/
  wire : List SettingsFrame
  /-- the settings of the calls that were accepted, in order -/
  accepted : List (Origin × Setting)

namespace SettingsRun

def awaitModes (config : CodexConfig) : ReconcileStage :=
  match config.mode with
  | some mode => .awaitModes mode 0
  | none => .finished

def spawnCodexReconcile (config : CodexConfig) : SessionSpec → ReconcileStage
  | .fresh =>
    match config.model with
    | some model => .awaitModels model 0
    | none => awaitModes config
  | .resume _ | .fork _ _ => .finished

/-- A session that has been opened: the handshake is on the wire. -/
def start (config : CodexConfig) (spec : SessionSpec) : SettingsRun where
  config
  slot := .active
  running := true
  turnInFlight := false
  threadBinding :=
    match spec.handshakeMode with
    | .resume threadId => some threadId
    | .fresh | .fork _ _ => none
  resumePoison := none
  models := []
  modes := []
  reconcile := spawnCodexReconcile config spec
  calls := []
  wire := [spec.handshakeMode.frame config]
  accepted := []

variable (s : SettingsRun)

def sent : Settings := s.wire.foldl Settings.take ⟨none, none, none⟩

variable (k : Nat)

def setCall (call : SettingsCall) (stage : CallStage) : SettingsRun :=
  { s with calls := s.calls.set k { call with stage } }

inductive CallStep where
  /-- fills a dormant slot, if the spawn succeeds -/
  | ensureAwake (spawned : Bool)
  /-- of the call that wakes: the thread is resumed or started on the new process -/
  | openThread (written : Bool)
  /-- of the call that wakes: the catalogs are asked for -/
  | discover (written : Bool)
  | markInFlight
  | boundThread (expired : Bool)
  | write (write : Write)
  deriving DecidableEq

def wakeMode : HandshakeMode :=
  match s.threadBinding with
  | some threadId => .resume threadId
  | none => .fresh

/-- The stdin of the new process is in place before the handshake. -/
def spawned : SettingsRun :=
  { s with slot := .waking k false, running := true, wire := [] }

def wakeFailed (call : SettingsCall) : SettingsRun :=
  { s with slot := .dormant, running := false }.setCall k call .failed

def ensureAwake (call : SettingsCall) (spawned : Bool) : SettingsRun :=
  match s.slot with
  | .active => s.setCall k call .awake
  | .waking _ _ => s
  | .dormant => if spawned then s.spawned k else s.setCall k call .failed

def openThread (call : SettingsCall) (written : Bool) : SettingsRun :=
  if s.slot = .waking k false then
    let s := { s with resumePoison := none }
    if written then
      { s with slot := .waking k true, wire := s.wire ++ [s.wakeMode.frame s.config] }
    else s.wakeFailed k call
  else s

def discover (call : SettingsCall) (written : Bool) : SettingsRun :=
  if s.slot = .waking k true then
    if written then { s with slot := .active }.setCall k call .awake else s.wakeFailed k call
  else s

/-- One poll for the thread: a rejected resume comes first. A `Send` that finds none is not in flight. -/
def boundThread (call : SettingsCall) (expired : Bool) : SettingsRun :=
  let turnInFlight := s.turnInFlight && !decide (call.command = .send)
  let failed := { s with turnInFlight }.setCall k call .failed
  match s.resumePoison, s.threadBinding with
  | some _, _ => failed
  | none, some threadId => s.setCall k call (.bound threadId)
  | none, none => if expired then failed else s

def writeFrame (call : SettingsCall) (threadId : String) : SettingsRun :=
  { s with
    wire := s.wire ++ [call.command.frame threadId]
    accepted := s.accepted ++ (call.command.setting.map fun setting => (call.origin, setting)).toList
  }.setCall k call .accepted

def advance (call : SettingsCall) (step : CallStep) : SettingsRun :=
  match step, call.stage with
  | .ensureAwake spawned, .received => s.ensureAwake k call spawned
  | .openThread written, .received => s.openThread k call written
  | .discover written, .received => s.discover k call written
  | .markInFlight, .awake =>
    if call.command = .send then { s with turnInFlight := true }.setCall k call .marked else s
  | .boundThread expired, .awake => if call.command = .send then s else s.boundThread k call expired
  | .boundThread expired, .marked => s.boundThread k call expired
  | .write .written, .bound threadId => s.writeFrame k call threadId
  | .write _, .bound _ => s.setCall k call .failed
  | _, _ => s

def codexReconcilePolls : Nat := 100

/-- The catalog knows what the task asks for; the modes of the catalog are those of the frontend. -/
def Advertised : SettingsCommand → Prop
  | .setModel model => model ∈ s.models
  | .setMode mode => mode ∈ s.modes.map normalizeToProfileId
  | _ => False

instance (command : SettingsCommand) : Decidable (s.Advertised command) := by
  unfold Advertised
  split <;> infer_instance

/-- The task makes a call of its own if the catalog knows the value, and drops it if not. -/
def apply (command : SettingsCommand) (setting : Nat → ReconcileStage)
    (dropped : ReconcileStage) : SettingsRun :=
  if s.Advertised command then
    { s with
      calls := s.calls ++ [{ origin := .reconcile, command, stage := .received }]
      reconcile := setting s.calls.length }
  else { s with reconcile := dropped }

def callEnded : Bool :=
  s.calls[k]?.any fun call => call.stage = .accepted || call.stage = .failed

def reconcileStep : SettingsRun :=
  match s.reconcile with
  | .awaitModels requested polls =>
    if s.models ≠ [] then s.apply (.setModel requested) .settingModel (awaitModes s.config)
    else if polls + 1 < codexReconcilePolls then
      { s with reconcile := .awaitModels requested (polls + 1) }
    else { s with reconcile := awaitModes s.config }
  | .settingModel k => if s.callEnded k then { s with reconcile := awaitModes s.config } else s
  | .awaitModes requested polls =>
    if s.modes ≠ [] then s.apply (.setMode (normalizeToProfileId requested)) .settingMode .finished
    else if polls + 1 < codexReconcilePolls then
      { s with reconcile := .awaitModes requested (polls + 1) }
    else { s with reconcile := .finished }
  | .settingMode k => if s.callEnded k then { s with reconcile := .finished } else s
  | .finished => s

inductive SettingsNotice where
  | threadStarted (threadId : String)
  | resumeRejected (message : String)
  | forkRejected (message : String)
  | modelList (ids : List String)
  | permissionProfileList (profileIds : List String)
  | turnEnded
  deriving DecidableEq

def readFrame : SettingsNotice → SettingsRun
  | .threadStarted threadId => { s with threadBinding := some threadId }
  | .resumeRejected message => { s with threadBinding := none, resumePoison := some message }
  | .forkRejected message => { s with resumePoison := some message }
  | .modelList ids => { s with models := ids }
  | .permissionProfileList profileIds => { s with modes := profileIds.map profileIdToLegacyValue }
  | .turnEnded => { s with turnInFlight := false }

inductive SettingsEvent where
  | command (command : SettingsCommand)
  | step (k : Nat) (step : CallStep)
  | reconcile
  | frame (f : SettingsNotice)
  | endOfStream
  | suspend
  | terminate
  deriving DecidableEq

/-- The process is closed, unless a wake holds the slot. -/
def close : SettingsRun :=
  match s.slot with
  | .active => { s with slot := .dormant, running := false }
  | .dormant | .waking _ _ => s

def next : SettingsEvent → SettingsRun
  | .command command =>
    { s with calls := s.calls ++ [{ origin := .user, command, stage := .received }] }
  | .step k step =>
    match s.calls[k]? with
    | some call => s.advance k call step
    | none => s
  | .reconcile => s.reconcileStep
  | .frame f => if s.running then s.readFrame f else s
  | .endOfStream => if s.running then { s with running := false, turnInFlight := false } else s
  | .suspend => if s.turnInFlight then s else s.close
  | .terminate => s.close

/-- The pipe takes a frame only while the process runs. -/
def Possible : SettingsEvent → Prop
  | .step _ (.write .written) | .step _ (.openThread true) | .step _ (.discover true) =>
    s.running = true
  | _ => True

instance (e : SettingsEvent) : Decidable (s.Possible e) := by
  unfold Possible
  split <;> infer_instance

end SettingsRun

end KiCore.Session.Codex

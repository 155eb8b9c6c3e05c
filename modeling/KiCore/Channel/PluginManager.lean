import KiCore.Channel.StreamRelay

/-!
# The plugin manager

The entry of `ChannelManager::plugins` for one owner and plugin, its row, and the calls on it. Each
await of a call is one step, and what the call does up to its next await belongs to the same step.
An instance that is dropped is not stopped: only its shutdown channel closes.
-/

namespace KiCore.Channel

open KiCore.Lib

/-- `initialize` of these plugins spawns the loop that receives messages, as its last act, and
`start` does nothing; the others spawn it in `start`, as its last act. -/
def PluginType.spawnsEarly : PluginType → Bool
  | .dingtalk | .weixin => true
  | .telegram | .lark | .slack | .discord => false

/-- The loops of these plugins end when their shutdown channel closes. The polling loops look at its
value only, and the one of Slack connects again. -/
def PluginType.endsWhenDropped : PluginType → Bool
  | .lark | .dingtalk | .discord => true
  | .telegram | .weixin | .slack => false

/-- A plugin, and whether the factory has an implementation of it. -/
structure Platform where
  type : PluginType
  implemented : Bool

inductive PluginStatus where
  | created
  | running
  | stopped
  | error
  deriving DecidableEq

structure ChannelPluginRow where
  enabled : Bool
  status : PluginStatus

/-- `begun` tells whether the loop was spawned, `stopped` whether `stop` was called. -/
structure PluginInstance where
  begun : Bool
  started : Bool
  stopped : Bool
  dropped : Bool
  deriving DecidableEq

def PluginInstance.Running (platform : Platform) (plugin : PluginInstance) : Prop :=
  plugin.begun = true ∧ plugin.stopped = false ∧
    (plugin.dropped = true → platform.type.endsWhenDropped = false)

instance (platform : Platform) (plugin : PluginInstance) : Decidable (plugin.Running platform) :=
  inferInstanceAs (Decidable (_ ∧ _ ∧ (_ → _)))

inductive ManagerRequest where
  | enablePlugin
  | disablePlugin
  | restorePlugins
  | shutdown
  | shutdownForUser
  deriving DecidableEq

/-- The await that a call is at. `returning` is the last one, with what is to be returned: whether
the call has brought the plugin up. -/
inductive ManagerStage where
  | resolveConfig
  | getAllPlugins
  | collectKeys
  | stopPlugin
  | upsertPlugin
  | initializePlugin (plugin : Nat)
  | startPlugin (plugin : Nat)
  | updateRunning (plugin : Nat)
  | updateError
  | updateDisabled
  | returning (up : Bool)
  | finished
  deriving DecidableEq

structure ManagerCall where
  request : ManagerRequest
  stage : ManagerStage

/-- `active` is the entry of the map. `instances` are all that were made, and `last` is what the last
call to complete has returned; a call that is refused before it does anything does not count. -/
structure ChannelManager where
  row : Option ChannelPluginRow
  active : Option Nat
  instances : List PluginInstance
  calls : List ManagerCall
  last : Option Bool

namespace ChannelManager

inductive Event where
  | call (request : ManagerRequest)
  | step (call : Nat) (ok : Bool)
  deriving DecidableEq

/-- The row is what an earlier run of the program has left. -/
def start (row : Option ChannelPluginRow) : ChannelManager where
  row := row
  active := none
  instances := []
  calls := []
  last := none

variable (s : ChannelManager)

def move (k : Nat) (call : ManagerCall) (stage : ManagerStage) : ChannelManager :=
  { s with calls := s.calls.set k { call with stage } }

def complete (k : Nat) (call : ManagerCall) (up : Bool) : ChannelManager :=
  { s.move k call .finished with last := some up }

def change (id : Nat) (f : PluginInstance → PluginInstance) : ChannelManager :=
  { s with instances := s.instances.modify id f }

/-- `stop_plugin_by_key`: the entry is removed and told to stop. -/
def stopPlugin : ChannelManager :=
  match s.active with
  | none => s
  | some id => { s.change id fun plugin => { plugin with stopped := true } with active := none }

def newInstance : ChannelManager :=
  { s with instances := s.instances ++
      [{ begun := false, started := false, stopped := false, dropped := false }] }

def drop (id : Nat) : ChannelManager :=
  s.change id fun plugin => { plugin with dropped := true }

/-- `plugins.insert`: an instance that was there is dropped. -/
def insert (id : Nat) : ChannelManager :=
  { s.active.elim s s.drop with active := some id }

/-- `update_plugin_status` with an error, whose own failure is only logged. -/
def updatePluginError (ok : Bool) : ChannelManager :=
  { s with row := if ok then s.row.map fun row => { row with status := .error } else s.row }

def setRow (row : ChannelPluginRow) : ChannelManager :=
  { s with row := some row }

def firstStage : ManagerRequest → ManagerStage
  | .enablePlugin => .resolveConfig
  | .disablePlugin => .stopPlugin
  | .restorePlugins => .getAllPlugins
  | .shutdown | .shutdownForUser => .collectKeys

def stoppedStage : ManagerRequest → ManagerStage
  | .enablePlugin | .restorePlugins => .upsertPlugin
  | .disablePlugin => .updateDisabled
  | .shutdown | .shutdownForUser => .returning false

variable (platform : Platform)

/-- `initialize` has succeeded. -/
def initialized (s : ChannelManager) (id : Nat) : ChannelManager :=
  s.change id fun plugin => { plugin with begun := platform.type.spawnsEarly }

def started (s : ChannelManager) (id : Nat) : ChannelManager :=
  s.change id fun plugin => { plugin with begun := true, started := true }

/-- A call takes its next step, which fails unless `ok`. -/
def advance (s : ChannelManager) (k : Nat) (call : ManagerCall) (ok : Bool) : ChannelManager :=
  match call.stage with
  | .resolveConfig => if ok then s.move k call .stopPlugin else s.move k call .finished
  | .getAllPlugins =>
    if ok then
      if ∃ row ∈ s.row, row.enabled = true then
        if platform.implemented then s.newInstance.move k call (.initializePlugin s.instances.length)
        else s.move k call .updateError
      else s.complete k call false
    else s.move k call .finished
  | .collectKeys =>
    if s.active.isSome then s.move k call .stopPlugin else s.move k call (.returning false)
  | .stopPlugin => s.stopPlugin.move k call (stoppedStage call.request)
  | .upsertPlugin =>
    if ok then
      if platform.implemented then
        (s.setRow { enabled := true, status := .created }).newInstance.move k call
          (.initializePlugin s.instances.length)
      else (s.setRow { enabled := true, status := .created }).complete k call false
    else s.complete k call false
  | .initializePlugin id =>
    if ok then (initialized platform s id).move k call (.startPlugin id) else s.move k call .updateError
  | .startPlugin id =>
    -- A `start` that has nothing to do does not fail.
    if ok || platform.type.spawnsEarly then (s.started id).move k call (.updateRunning id)
    else s.move k call .updateError
  | .updateRunning id =>
    match s.row, ok with
    | some row, true =>
      ((s.setRow { row with status := .running }).insert id).move k call (.returning true)
    | _, _ =>
      if call.request = .restorePlugins then (s.drop id).move k call .updateError
      else (s.drop id).complete k call false
  | .updateError => (s.updatePluginError ok).move k call (.returning false)
  | .updateDisabled =>
    if ok && s.row.isSome then
      (s.setRow { enabled := false, status := .stopped }).move k call (.returning false)
    else s.complete k call false
  | .returning up => s.complete k call up
  | .finished => s

def next (s : ChannelManager) : Event → ChannelManager
  | .call request => { s with calls := s.calls ++ [{ request, stage := firstStage request }] }
  | .step k ok => (s.calls[k]?).elim s fun call => advance platform s k call ok

end ChannelManager

end KiCore.Channel

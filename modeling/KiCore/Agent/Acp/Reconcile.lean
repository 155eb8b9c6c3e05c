import KiCore.Agent.Acp.AcpSession

/-!
# Reconciling a session

Port of `reconcile_session` of `agent_reconcile.rs`, beside what else moves the session while it waits:
the user's confirmed choices and changes of what is desired, and the notifications of the agent. The
lock of the session is given back between any two actions and while a request is out, so each of them is
a step; a config value that is `mode` is normalised and put back in the step that sends it. One call runs
at a time, under `session_lock`. Left out are the logs, and what a caller does with the outcome.

A call keeps a record of what its last plan listed and of what it has attempted, which nothing reads.
-/

namespace KiCore.Agent.Acp

open KiCore.Lib
open Str (trim)

def MAX_RECONCILE_ACTIONS : Nat := 8

structure ReconcileCall where
  actions : List ReconcileAction
  executedActions : Nat
  /-- the action whose request is out -/
  awaiting : Option ReconcileAction
  planned : List ReconcileItem
  attempted : List ReconcileItem

structure AcpAgentManager where
  metadata : AgentMetadata
  session : AcpSession
  reconcile : Option ReconcileCall

inductive UserChange where
  | confirmMode (mode : String)
  | confirmModel (model : String)
  | setDesiredMode (mode : String)
  | setDesiredModel (model : String)
  | setDesiredConfig (key value : String)
  deriving DecidableEq

inductive AgentUpdate where
  | observedMode (mode : String)
  | observedModel (model : String)
  | observedConfig (key value : String)
  | advertisedModes (modes : SessionModeState)
  | advertisedModels (models : LegacySessionModelState)
  | advertisedConfigOptions (options : List SessionConfigOption)

def UserChange.apply (session : AcpSession) : UserChange → AcpSession
  | .confirmMode mode => session.confirmMode mode
  | .confirmModel model => session.confirmModel model
  | .setDesiredMode mode => session.setDesiredMode mode
  | .setDesiredModel model => session.setDesiredModel model
  | .setDesiredConfig key value => session.setDesiredConfig key value

def AgentUpdate.apply (session : AcpSession) : AgentUpdate → AcpSession
  | .observedMode mode => session.applyObservedMode mode
  | .observedModel model => session.applyObservedModel model
  | .observedConfig key value => session.applyObservedConfig key value
  | .advertisedModes modes => session.applyAdvertisedModes modes
  | .advertisedModels models => session.applyAdvertisedModels models
  | .advertisedConfigOptions options => session.applyAdvertisedConfigOptions options

inductive ReconcileEvent where
  /-- `reconcile_session` is called -/
  | reconcileSession (order : IterOrder (String × String))
  /-- the loop goes on with the next action -/
  | nextAction
  /-- the agent acknowledges; only the answer to `set_config_option` has config options -/
  | acked (configOptions : List SessionConfigOption) (order : IterOrder (String × String))
  | failed
  | sessionNotFound
  | user (change : UserChange)
  | agent (update : AgentUpdate)

namespace AcpSession

variable (metadata : AgentMetadata) (session : AcpSession)

def prepare : AcpSession :=
  ((session.resolvePendingStartupConfigSeedsWithModeNormalizer
    (normalizeRequestedModeForAvailableValues metadata)).clearInvalidDesiredMode).clearInvalidDesiredModel

def normalizedMode (mode : String) : String :=
  normalizeRequestedModeForAvailableValues metadata mode (session.configSnapshot.selectableValues "mode")

/-- The value that an action sends; a blank mode is passed over. -/
def resolvedValue : ReconcileAction → Option String
  | .setMode mode => (some (session.normalizedMode metadata mode)).filter (· ≠ "")
  | .setModel model => some model
  | .setConfigOption key value =>
    some (if key = "mode" then session.normalizedMode metadata value else trim value)

/-- A normalised mode takes the place of the one that was desired. -/
def adopt (resolved : String) : ReconcileAction → AcpSession
  | .setConfigOption key value =>
    if key = "mode" ∧ resolved ≠ value then session.setDesiredConfig key resolved else session
  | .setMode _ | .setModel _ => session

end AcpSession

namespace AcpAgentManager

variable (s : AcpAgentManager)

def reconcileSession (order : IterOrder (String × String)) : AcpAgentManager :=
  let session := s.session.prepare s.metadata
  let actions := session.planReconcile order
  { s with
    session
    reconcile := some
      { actions, executedActions := 0, awaiting := none
        planned := actions.map ReconcileAction.item, attempted := [] } }

def nextAction (call : ReconcileCall) : AcpAgentManager :=
  match call.actions with
  | [] => { s with reconcile := none }
  | action :: actions =>
    let executedActions := call.executedActions + 1
    if MAX_RECONCILE_ACTIONS < executedActions then { s with reconcile := none }
    else
      match s.session.resolvedValue s.metadata action with
      | none => { s with reconcile := some { call with actions, executedActions } }
      | some resolved =>
        { s with
          session := s.session.adopt resolved action
          reconcile := some { call with
            actions, executedActions, awaiting := some action
            attempted := call.attempted ++ [action.item] } }

/-- The session with the answer to `set_config_option` in it. -/
def answered (configOptions : List SessionConfigOption) : AcpSession :=
  (s.session.applyAdvertisedConfigOptions configOptions).prepare s.metadata

def ackedConfigOption (call : ReconcileCall) (executed : ReconcileAction)
    (configOptions : List SessionConfigOption) (order : IterOrder (String × String)) : AcpAgentManager :=
  let session := s.answered configOptions
  let followupActions := session.planReconcile order
  { s with
    session
    reconcile := some { call with
      actions := followupActions.filter (· ≠ executed)
      awaiting := none
      planned := followupActions.map ReconcileAction.item } }

def acked (call : ReconcileCall) (configOptions : List SessionConfigOption)
    (order : IterOrder (String × String)) : ReconcileAction → AcpAgentManager
  | .setConfigOption key value => s.ackedConfigOption call (.setConfigOption key value) configOptions order
  | .setMode _ | .setModel _ => { s with reconcile := some { call with awaiting := none } }

/-- The call that runs, where it is between two actions. -/
def ready : Option ReconcileCall :=
  s.reconcile.filter fun call => call.awaiting = none

def waiting : Option (ReconcileCall × ReconcileAction) := do
  let call ← s.reconcile
  let action ← call.awaiting
  return (call, action)

def next : ReconcileEvent → AcpAgentManager
  | .reconcileSession order => if s.reconcile.isSome then s else s.reconcileSession order
  | .nextAction => s.ready.elim s s.nextAction
  | .acked configOptions order =>
    s.waiting.elim s fun (call, action) => s.acked call configOptions order action
  | .failed =>
    s.waiting.elim s fun (call, _) => { s with reconcile := some { call with awaiting := none } }
  | .sessionNotFound => s.waiting.elim s fun _ => { s with reconcile := none }
  | .user change => { s with session := change.apply s.session }
  | .agent update => { s with session := update.apply s.session }

def start (metadata : AgentMetadata) (session : AcpSession) : AcpAgentManager where
  metadata
  session
  reconcile := none

end AcpAgentManager

end KiCore.Agent.Acp

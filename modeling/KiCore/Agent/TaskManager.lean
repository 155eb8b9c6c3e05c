import KiCore.Agent.RuntimeToken
import KiCore.Lib.Transition

/-!
# The task manager

Port of `WorkerTaskManagerImpl` in `task_manager.rs` for one conversation, with what the
conversation service does to prepare the options of a build. A slot is a once-cell: one caller runs
the factory in it, the others wait; when it fails, one of those runs it next. The map holds the slot
by its place, so that a slot that was removed is still there for the callers that have it.

A step is what a call does between two accesses to what it shares with others: `get_or_build_task`
looks at the instance, kills it, issues a token, takes the slot from the map and waits for its cell
in separate steps; `kill` and `clear` run through without waiting and are one.
-/

namespace KiCore.Agent

open KiCore.Lib

structure RuntimeCapabilities where
  conversationRuntimeContextVersion : Option Nat

def RuntimeCapabilities.satisfies (self requested : RuntimeCapabilities) : Bool :=
  match requested.conversationRuntimeContextVersion with
  | some version => self.conversationRuntimeContextVersion.any (version ≤ ·)
  | none => true

def CONVERSATION_RUNTIME_CONTEXT_VERSION : Nat := 2

/-- The options of a build, with the token among the values of its environment. -/
structure BuildTaskOptions where
  team : Bool
  runtimeCapabilities : RuntimeCapabilities
  runtimeToken : Option Nat

/-- The scopes that an agent needs: those of a team only if it is bound to one. -/
def BuildTaskOptions.scopes (options : BuildTaskOptions) : List RuntimeTokenScope :=
  if options.team then [.conversationHelper, .teamContext, .teamCall] else [.conversationHelper]

structure AgentInstance where
  options : BuildTaskOptions
  killed : Bool

/-- The cell of a slot, with the call whose factory runs in it, or the instance. -/
inductive OnceCell where
  | empty
  | initialising (call : Nat)
  | ready (agent : Nat)
  deriving DecidableEq

/-- What a call of `get_or_build_task` is about to do. -/
inductive BuildStage where
  | evict
  | refresh
  | enter
  | init (slot : Nat)
  | done
  deriving DecidableEq

structure BuildCall where
  options : BuildTaskOptions
  stage : BuildStage

/-- The entry of a conversation, everything that was ever in it, and the calls. `swept` tells that
no build was asked for since the last `clear` or `kill_and_wait`. -/
structure WorkerTaskManager where
  userId : String
  conversationId : String
  tokenService : RuntimeTokenService
  tasks : Option Nat
  slots : List OnceCell
  agents : List AgentInstance
  options : List BuildTaskOptions
  builds : List BuildCall
  waits : List (Option Nat)
  swept : Bool

/-- A step of a call of `get_or_build_task`. -/
inductive BuildAction where
  | evict (ok : Bool)
  | refresh
  | enter
  | poll
  | complete (ok : Bool)
  deriving DecidableEq

inductive Event where
  | newOptions (team : Bool) (capabilities : RuntimeCapabilities)
  | applyRuntimeContext (k : Nat)
  | getOrBuild (k : Nat)
  | build (call : Nat) (action : BuildAction)
  | kill
  | killAndWait
  | pollKill (wait : Nat)
  | clear

namespace WorkerTaskManager

def start (userId conversationId : String) : WorkerTaskManager where
  userId := userId
  conversationId := conversationId
  tokenService := .new
  tasks := none
  slots := []
  agents := []
  options := []
  builds := []
  waits := []
  swept := false

variable (m : WorkerTaskManager)

def instanceAt (slot : Nat) : Option Nat :=
  match m.slots[slot]? with
  | some (.ready agent) => some agent
  | _ => none

def initialisedInstance : Option Nat :=
  m.tasks.bind m.instanceAt

def killAgent (agent : Nat) : WorkerTaskManager :=
  { m with agents := m.agents.modify agent fun a => { a with killed := true } }

def killInstance : Option Nat → WorkerTaskManager
  | some agent => m.killAgent agent
  | none => m

/-- The slot leaves the map, and the tokens of the conversation die. -/
def remove : WorkerTaskManager :=
  { m with
    tasks := none
    tokenService := m.tokenService.invalidateConversationId m.conversationId }

/-- Also what the deletion of the conversation does. -/
def kill : WorkerTaskManager :=
  match m.tasks with
  | some slot => m.remove.killInstance (m.instanceAt slot)
  | none => m

/-- A kill whose future waits for the cell, if there is no instance in it yet. -/
def killAndWait : WorkerTaskManager :=
  let waits := if m.initialisedInstance = none then m.waits ++ [m.tasks] else m.waits
  { m.kill with waits, swept := true }

def clear : WorkerTaskManager :=
  { m.kill with swept := true }

/-- The future of `kill_and_wait`: an instance is killed, an empty cell ends the wait, since an
initialiser that fails leaves it empty. -/
def pollKill (wait slot : Nat) : WorkerTaskManager :=
  match m.slots[slot]? with
  | some (.ready agent) => { m.killAgent agent with waits := m.waits.set wait none }
  | some .empty => { m with waits := m.waits.set wait none }
  | _ => m

variable (call : Nat)

def setBuild (options : BuildTaskOptions) (stage : BuildStage) : WorkerTaskManager :=
  { m with builds := m.builds.set call { options, stage } }

variable (options : BuildTaskOptions)

def issueToken : BuildTaskOptions × RuntimeTokenService :=
  let issued := m.tokenService.issue m.userId m.conversationId
    TEAM_RUNTIME_TOKEN_SESSION_GENERATION options.scopes
  ({ options with runtimeToken := some issued.1.token }, issued.2)

/-- The conversation service makes options ready for a build. -/
def applyConversationRuntimeContext : WorkerTaskManager :=
  let issued := m.issueToken options
  let ready := { issued.1 with runtimeCapabilities := ⟨some CONVERSATION_RUNTIME_CONTEXT_VERSION⟩ }
  { m with tokenService := issued.2, options := m.options ++ [ready] }

/-- A build starts with an instance that has to be rebuilt, or goes to the map. -/
def mustRebuild : Bool :=
  match m.initialisedInstance.bind (m.agents[·]?) with
  | some existing => !existing.options.runtimeCapabilities.satisfies options.runtimeCapabilities
  | none => false

def getOrBuildTask : WorkerTaskManager :=
  let stage := if m.mustRebuild options then .evict else .enter
  { m with builds := m.builds ++ [{ options, stage }], swept := false }

/-- The kill of a rebuild. An error of the instance ends the call. -/
def evict (options : BuildTaskOptions) (ok : Bool) : WorkerTaskManager :=
  let stage := if ok ∨ m.initialisedInstance = none then .refresh else .done
  m.kill.setBuild call options stage

def refreshRuntimeToken (options : BuildTaskOptions) : WorkerTaskManager :=
  let issued := m.issueToken options
  { m with tokenService := issued.2 }.setBuild call issued.1 .enter

def enter (options : BuildTaskOptions) : WorkerTaskManager :=
  match m.tasks with
  | some slot => m.setBuild call options (.init slot)
  | none =>
    let slot := m.slots.length
    { m with tasks := some slot, slots := m.slots ++ [OnceCell.empty] }.setBuild call options
      (.init slot)

/-- A caller at the cell gets the instance, or runs its factory in an empty one. -/
def poll (options : BuildTaskOptions) (slot : Nat) : WorkerTaskManager :=
  match m.slots[slot]? with
  | some (.ready _) => m.setBuild call options .done
  | some .empty => { m with slots := m.slots.set slot (.initialising call) }
  | _ => m

/-- The factory has produced an instance, has failed, or was dropped with its caller. -/
def complete (options : BuildTaskOptions) (slot : Nat) (ok : Bool) : WorkerTaskManager :=
  let cell : OnceCell := if ok then .ready m.agents.length else .empty
  let made := if ok then [{ options, killed := false }] else []
  { m with slots := m.slots.set slot cell, agents := m.agents ++ made }.setBuild call options .done

def Building (call slot : Nat) : Prop :=
  m.slots[slot]? = some (.initialising call)

instance (call slot : Nat) : Decidable (m.Building call slot) :=
  inferInstanceAs (Decidable (_ = _))

def nextBuild (options : BuildTaskOptions) :
    BuildStage → BuildAction → WorkerTaskManager
  | .evict, .evict ok => m.evict call options ok
  | .refresh, .refresh => m.refreshRuntimeToken call options
  | .enter, .enter => m.enter call options
  | .init slot, .poll => m.poll call options slot
  | .init slot, .complete ok => if m.Building call slot then m.complete call options slot ok else m
  | _, _ => m

def stepBuild (action : BuildAction) : WorkerTaskManager :=
  match m.builds[call]? with
  | some build => m.nextBuild call build.options build.stage action
  | none => m

def next (event : Event) : WorkerTaskManager :=
  match event with
  | .newOptions team capabilities =>
    { m with options := m.options ++
      [{ team, runtimeCapabilities := capabilities, runtimeToken := none }] }
  | .applyRuntimeContext k => (m.options[k]?).elim m m.applyConversationRuntimeContext
  | .getOrBuild k => (m.options[k]?).elim m m.getOrBuildTask
  | .build call action => m.stepBuild call action
  | .kill => m.kill
  | .killAndWait => m.killAndWait
  | .pollKill wait => ((m.waits[wait]?).join).elim m (m.pollKill wait)
  | .clear => m.clear

variable {m : WorkerTaskManager} {slot agent call : Nat} {options : BuildTaskOptions}

lemma complete_agents : (m.complete call options slot true).agents =
    m.agents ++ [{ options, killed := false }] := rfl

lemma complete_failed : m.complete call options slot false =
    { m with slots := m.slots.set slot .empty }.setBuild call options .done := by
  simp [complete]

lemma complete_slots : (m.complete call options slot true).slots =
    m.slots.set slot (.ready m.agents.length) := rfl

lemma kill_tasks : m.kill.tasks = none := by
  rw [kill]
  split
  · rename_i slot _
    cases m.instanceAt slot <;> rfl
  · assumption

lemma kill_frame : m.kill.slots = m.slots ∧ m.kill.builds = m.builds ∧ m.kill.waits = m.waits := by
  rw [kill]
  split
  · rename_i slot _
    cases m.instanceAt slot <;> exact ⟨rfl, rfl, rfl⟩
  · exact ⟨rfl, rfl, rfl⟩

lemma instanceAt_iff : m.instanceAt slot = some agent ↔ m.slots[slot]? = some (.ready agent) := by
  rw [instanceAt]
  split
  · rename_i found
    rw [found, Option.some_inj, Option.some_inj, OnceCell.ready.injEq]
  · rename_i other
    exact ⟨nofun, fun found => absurd found (other agent)⟩

lemma initialisedInstance_iff : m.initialisedInstance = some agent ↔
    ∃ slot, m.tasks = some slot ∧ m.slots[slot]? = some (.ready agent) := by
  rw [initialisedInstance, Option.bind_eq_some_iff]
  exact exists_congr fun slot => and_congr_right fun _ => instanceAt_iff

lemma initialisedInstance_set {cell : OnceCell}
    (free : ∀ agent, m.slots[slot]? ≠ some (.ready agent))
    (found : m.initialisedInstance = some agent) :
    ({ m with slots := m.slots.set slot cell } : WorkerTaskManager).initialisedInstance =
      some agent := by
  obtain ⟨other, there, ready⟩ := initialisedInstance_iff.mp found
  apply initialisedInstance_iff.mpr
  refine ⟨other, there, ?_⟩
  have ne : slot ≠ other := fun same => free agent (same ▸ ready)
  exact (List.getElem?_set_ne ne).trans ready

lemma building_lt (building : m.Building call slot) : slot < m.slots.length :=
  (List.getElem?_eq_some_iff.mp building).1

end WorkerTaskManager

end KiCore.Agent

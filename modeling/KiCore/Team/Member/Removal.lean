import KiCore.Team.Coordinator.Closing
import KiCore.Team.Member.Ownership

/-!
# Removing a member

Port of the two ways to remove a member: `remove_agent` of `session.rs`, and `remove_agent` of
`service.rs` with the notice to the lead at its end. Both tear a slot of a session down; what they leave of
it in the work coordinator is said by `removal_iff`.

A call to the world outside the session (the database, the mailbox, the agent process) has its answer in
`RemovalWorld`. So has a removal that joins one that is under way: what the waiter gets, and the session as
it is then.
-/

namespace KiCore.Team

open KiCore.Lib SlotWorkCoordinator

inductive TeammateRole where
  | lead
  | teammate
  deriving DecidableEq

def targetRoleFor : TeammateRole → TeamRunTargetRole
  | .lead => .lead
  | .teammate => .teammate

structure TeamAgent where
  slotId : String
  conversationId : String
  role : TeammateRole

/-- The parts of a session that a removal touches. The scheduler keeps each agent under its slot. -/
structure TeamSession where
  memberRuntimes : MemberRuntimeRegistry
  workCoordinator : Tracked
  scheduler : Table String TeamAgent
  eventLoops : List String
  keyed : ∀ (s : String) (agent : TeamAgent), scheduler[s]? = some agent → agent.slotId = s

/-- One team of the service: its row in the database, and its session, if it is open. -/
structure TeamService where
  teamId : String
  agents : List TeamAgent
  session : Option TeamSession

inductive RemovalError where
  | team (error : TeamError)
  | sessionNotFound (teamId : String)
  | memberRuntimeFailed (teamId slotId conversationId publicReason : String)
  | external (message : String)
  deriving DecidableEq

structure RemovalWorld where
  load : Except RemovalError Unit
  persist : Except RemovalError Unit
  markRead : Except RemovalError Unit
  notice : Except RemovalError String
  binding : RunBinding
  order : IterOrder TeamAgent
  joinedOutcome : AttachOutcome
  joinedSession : TeamSession

namespace TeamSession

variable (c : SlotWorkCoordinator) (world : RemovalWorld) (session : TeamSession)

def coordinate (op : Op) : TeamSession :=
  { session with workCoordinator := track c session.workCoordinator op }

variable (slotId : String)

/-- `event_loops.remove`. -/
def removeLoop : TeamSession :=
  { session with eventLoops := session.eventLoops.filter (· ≠ slotId) }

/-- `scheduler.remove_agent`, where the agent is known. -/
def dropAgent : TeamSession :=
  { session with
    scheduler := session.scheduler.erase slotId
    keyed := by
      intro s agent h
      rw [Table.get_erase] at h
      split_ifs at h
      exact session.keyed s agent h }

/-- `member_runtimes.finish_remove`, where the removal owns a lease. -/
def finishRemove (session : TeamSession) (removal : BeginRemove) : TeamSession :=
  match removal with
  | .start lease =>
    { session with memberRuntimes := (session.memberRuntimes.finishRemove lease).2 }
  | _ => session

/-- The slot takes no more work, where the removal owns a lease. -/
def constrainRemoving (removal : BeginRemove) (slotId : String) : TeamSession :=
  match removal with
  | .start lease =>
    session.coordinate c (.setRuntimeConstraint slotId (.removing lease.operationId))
  | _ => session

/-- The teardown of a member, once its removal has begun. -/
def tearDown (removal : BeginRemove) (slotId : String) : Except RemovalError Unit × TeamSession :=
  let work := (removeSlot session.workCoordinator.state slotId).result
  let session := session.coordinate c (.removeSlot slotId)
  match if work.terminalMessageIds = [] then .ok () else world.markRead with
  | .error error => (.error error, session)
  | .ok _ =>
    if (work.cancelTarget.bind (·.turnId)).isSome ∧ (session.scheduler[slotId]?).isNone then
      (.error (.team (.agentNotFound slotId)), session)
    else
      let session := session.removeLoop slotId
      match session.scheduler[slotId]? with
      | none => (.error (.team (.agentNotFound slotId)), session)
      | some _ => (.ok (), (session.dropAgent slotId).finishRemove removal)

/-- `TeamSession::remove_agent`. -/
def removeAgent : Except RemovalError Unit × TeamSession :=
  match session.memberRuntimes.beginRemove slotId with
  | (.join _, _) => (.ok (), world.joinedSession)
  | (removal, memberRuntimes) =>
    ({ session with memberRuntimes := memberRuntimes }.constrainRemoving c removal slotId).tearDown
      c world removal slotId

def snapshotConstraint : RuntimeConstraint :=
  match session.memberRuntimes.snapshot slotId with
  | .absent => if slotId ∈ session.eventLoops then .ready else .starting 0
  | .attaching operationId => .starting operationId
  | .ready => .ready
  | .failed operationId failure => .failed operationId failure.classification
  | .removing operationId => .removing operationId
  | .sessionStopped => .sessionStopped

def publishRuntimeConstraint : Except RemovalError Unit × TeamSession :=
  let constraint := session.snapshotConstraint slotId
  let update := (setRuntimeConstraint c session.workCoordinator.state slotId constraint).result
  (if update.terminalMessageIds = [] then .ok () else world.markRead,
    session.coordinate c (.setRuntimeConstraint slotId constraint))

/-- `enqueue_system_work` with a mailbox row. -/
def enqueueSystemWork (source : WorkSource)
    (mailboxMessageId : String) : Except RemovalError Unit × TeamSession :=
  match session.scheduler[slotId]? with
  | none => (.error (.team (.agentNotFound slotId)), session)
  | some agent =>
    let (published, session) := session.publishRuntimeConstraint c world slotId
    match published with
    | .error error => (.error error, session)
    | .ok _ =>
      let request : EnqueueRequest :=
        { slotId := slotId
          role := targetRoleFor agent.role
          source := source
          binding := .systemInitiated none }
      let state := session.workCoordinator.state
      let session := session.coordinate c (.acquireEnqueue request world.binding)
      match (acquireEnqueue c (.answering world.binding) () state request).1 with
      | .error error => (.error (.team error), session)
      | .ok lease =>
        let state := session.workCoordinator.state
        let session := session.coordinate c (.commitEnqueue lease (some mailboxMessageId))
        match (commitEnqueue c state lease (some mailboxMessageId)).result with
        | .error error => (.error (.team error), session.coordinate c (.abortEnqueue lease))
        | .ok _ => (.ok (), session)

def notifyLeaderMembershipRemoved : Except RemovalError Unit × TeamSession :=
  match (world.order.arrange (Table.values session.scheduler)).find? (·.role = .lead) with
  | none => (.error (.team (.invalidRequest "team lead not found")), session)
  | some lead =>
    match world.notice with
    | .error error => (.error error, session)
    | .ok messageId => session.enqueueSystemWork c world lead.slotId .teamMembershipChanged messageId

end TeamSession

namespace TeamService

variable (c : SlotWorkCoordinator) (world : RemovalWorld) (service : TeamService)

/-- What the service makes of the outcome of the removal that it joined. -/
def joinedResult (removed : TeamAgent) : Except RemovalError Unit :=
  match world.joinedOutcome with
  | .removed => .ok ()
  | .failed failure =>
    .error (.memberRuntimeFailed service.teamId removed.slotId removed.conversationId
      failure.publicReason)
  | .ready | .sessionStopped => .error (.sessionNotFound service.teamId)

/-- `restore_attach_required_after_remove_persist_error`, where the removal owns a lease. -/
def restoreAttachRequired (session : TeamSession) (removal : BeginRemove) : TeamSession :=
  match removal with
  | .start lease =>
    { session with
      memberRuntimes :=
        (session.memberRuntimes.restoreAttachRequiredAfterRemovePersistError lease
          { classification := "membership_persist_failed"
            publicReason := "Agent runtime needs to restart after membership update failed" }).2 }
  | _ => session

/-- The teardown of an open session, after the member left the row. -/
def tearDown (session : TeamSession) (removal : BeginRemove) (slotId : String) :
    Except RemovalError Unit × TeamSession :=
  (((session.removeLoop slotId).dropAgent slotId).finishRemove removal).notifyLeaderMembershipRemoved
    c world

/-- The row of the team is written, and then the open session is torn down. -/
def persistRemoval (session : TeamSession) (removal : BeginRemove)
    (slotId : String) : Except RemovalError Unit × TeamService :=
  match world.persist with
  | .error error =>
    (.error error, { service with session := some (restoreAttachRequired session removal) })
  | .ok _ =>
    let (result, session) := tearDown c world session removal slotId
    (result,
      { service with
        agents := service.agents.filter (·.slotId ≠ slotId)
        session := some session })

/-- `TeamSessionService::remove_agent`. -/
def removeAgent (slotId : String) : Except RemovalError Unit × TeamService :=
  match world.load with
  | .error error => (.error error, service)
  | .ok _ =>
    match service.agents.find? (·.slotId = slotId) with
    | none => (.error (.team (.agentNotFound slotId)), service)
    | some removed =>
      if removed.role = .lead then
        (.error (.team (.invalidRequest "cannot remove the team lead")), service)
      else
        match service.session with
        | none =>
          match world.persist with
          | .error error => (.error error, service)
          | .ok _ => (.ok (), { service with agents := service.agents.filter (·.slotId ≠ slotId) })
        | some session =>
          match session.memberRuntimes.beginRemove slotId with
          | (.join _, _) =>
            (joinedResult world service removed,
              { service with session := some world.joinedSession })
          | (removal, memberRuntimes) =>
            service.persistRemoval c world
              ({ session with memberRuntimes := memberRuntimes }.removeLoop slotId) removal slotId

end TeamService

end KiCore.Team

import KiCore.Lib.Table
import KiCore.Lib.Transition

/-!
# The task board

Port of `task_board.rs` and of the rows of `sqlite_team.rs` that it reads and writes. A task names the
tasks that block it, and the tasks that it blocks: one edge is stored in two rows.

`create_task` and `update_task` await the database between one row and the next, so a call is a sequence of
steps and the steps of several calls interleave. `TaskCall` says where a call stands and what it still has
in its hands; one step of it is one access to the database, with the computation up to the next. The board
is that of one team.
-/

namespace KiCore.Team

open KiCore.Lib

inductive TaskStatus where
  | pending
  | inProgress
  | completed
  | deleted
  deriving DecidableEq

structure TeamTaskRow where
  id : String
  subject : String
  description : Option String
  status : TaskStatus
  owner : Option String
  blockedBy : List String
  blocks : List String
  metadata : Option String
  createdAt : Int
  updatedAt : Int

structure TaskUpdate where
  status : Option TaskStatus
  description : Option String
  owner : Option String
  blockedBy : Option (List String)
  metadata : Option String

/-- The arguments of `create_task`. -/
structure TaskRequest where
  subject : String
  description : Option String
  owner : Option String
  blockedBy : List String

inductive TaskError where
  | blockedTaskNotFound (taskId : String)
  | taskNotFound (taskId : String)
  | database (message : String)
  deriving DecidableEq

abbrev Tasks : Type := Table String TeamTaskRow

namespace Tasks

def updateRow (params : TaskUpdate) (now : Int) (row : TeamTaskRow) : TeamTaskRow :=
  { row with
    status := params.status.getD row.status
    description := params.description.or row.description
    owner := params.owner.or row.owner
    blockedBy := params.blockedBy.getD row.blockedBy
    metadata := params.metadata.or row.metadata
    updatedAt := now }

variable (tasks : Tasks)

def rewrite (taskId : String) (f : TeamTaskRow → TeamTaskRow) : Except TaskError Tasks :=
  match tasks[taskId]? with
  | none => .error (.database s!"task {taskId}")
  | some row => .ok (tasks.insert taskId (f row))

/-- The row is not touched where the update names no column. -/
def updateTask (now : Int) (taskId : String) (params : TaskUpdate) : Except TaskError Tasks :=
  if params.status.isNone ∧ params.description.isNone ∧ params.owner.isNone ∧ params.blockedBy.isNone ∧
      params.metadata.isNone then
    .ok tasks
  else tasks.rewrite taskId (updateRow params now)

def appendToBlocks (now : Int) (taskId blockedTaskId : String) : Except TaskError Tasks :=
  tasks.rewrite taskId fun row =>
    { row with
      blocks := if blockedTaskId ∈ row.blocks then row.blocks else row.blocks ++ [blockedTaskId]
      updatedAt := now }

def removeFromBlockedBy (now : Int) (taskId unblockedTaskId : String) : Except TaskError Tasks :=
  tasks.rewrite taskId fun row =>
    { row with
      blockedBy := row.blockedBy.filter (· ≠ unblockedTaskId)
      updatedAt := now }

end Tasks

/-- What the board reads from outside in each step: an id (never the same twice) and the clock. -/
structure TaskBoard where
  generateId : Nat → String
  generateId_injective : Function.Injective generateId
  nowMs : Nat → Int

/-- Where a call stands. The list of a phase is what a loop of the call has yet to visit. -/
inductive TaskCall where
  | checking (request : TaskRequest) (left : List String)
  | appending (row : TeamTaskRow) (left : List String)
  | reading (taskId : String) (update : TaskUpdate)
  | writing (taskId : String) (update : TaskUpdate) (existing : TeamTaskRow)
  | unblocking (taskId : String) (left : List String)
  | done (result : Except TaskError TeamTaskRow)

structure BoardState where
  tasks : Tasks
  calls : List TaskCall
  ticks : Nat

namespace TaskBoard

variable (board : TaskBoard)

def newTask (tick : Nat) (request : TaskRequest) : TeamTaskRow where
  id := board.generateId tick
  subject := request.subject
  description := request.description
  status := .pending
  owner := request.owner
  blockedBy := request.blockedBy
  blocks := []
  metadata := none
  createdAt := board.nowMs tick
  updatedAt := board.nowMs tick

/-- The tasks that an update has to unblock (`check_unblocks`). -/
def downstream (update : TaskUpdate) (existing : TeamTaskRow) : List String :=
  if update.status = some .completed then existing.blocks else []

/-- One step of a call of `create_task` or `update_task`. -/
def resume (tick : Nat) (tasks : Tasks) : TaskCall → TaskCall × Tasks
  | .checking request (dep :: left) =>
    match tasks[dep]? with
    | none => (.done (.error (.blockedTaskNotFound dep)), tasks)
    | some _ => (.checking request left, tasks)
  | .checking request [] =>
    let row := board.newTask tick request
    (.appending row request.blockedBy, tasks.insert row.id row)
  | .appending row (dep :: left) =>
    match tasks.appendToBlocks (board.nowMs tick) dep row.id with
    | .error error => (.done (.error error), tasks)
    | .ok tasks => (.appending row left, tasks)
  | .appending row [] => (.done (.ok row), tasks)
  | .reading taskId update =>
    match tasks[taskId]? with
    | none => (.done (.error (.taskNotFound taskId)), tasks)
    | some existing => (.writing taskId update existing, tasks)
  | .writing taskId update existing =>
    match tasks.updateTask (board.nowMs tick) taskId update with
    | .error error => (.done (.error error), tasks)
    | .ok tasks => (.unblocking taskId (downstream update existing), tasks)
  | .unblocking taskId (downstreamId :: left) =>
    match tasks.removeFromBlockedBy (board.nowMs tick) downstreamId taskId with
    | .error error => (.done (.error error), tasks)
    | .ok tasks => (.unblocking taskId left, tasks)
  | .unblocking taskId [] =>
    match tasks[taskId]? with
    | none => (.done (.error (.taskNotFound taskId)), tasks)
    | some updated => (.done (.ok updated), tasks)
  | .done result => (.done result, tasks)

/-- What may happen next: a call arrives, a call makes a step, or the database fails a call. -/
inductive Step where
  | createTask (request : TaskRequest)
  | updateTask (taskId : String) (update : TaskUpdate)
  | advance (call : Nat)
  | fail (call : Nat) (message : String)

def next (σ : BoardState) : Step → BoardState
  | .createTask request => { σ with calls := σ.calls ++ [.checking request request.blockedBy] }
  | .updateTask taskId update => { σ with calls := σ.calls ++ [.reading taskId update] }
  | .advance n =>
    match σ.calls[n]? with
    | none => σ
    | some call =>
      let (call, tasks) := board.resume σ.ticks σ.tasks call
      { tasks := tasks, calls := σ.calls.set n call, ticks := σ.ticks + 1 }
  | .fail n message =>
    match σ.calls[n]? with
    | none | some (.done _) => σ
    | some _ => { σ with calls := σ.calls.set n (.done (.error (.database message))) }

def initial : BoardState :=
  { tasks := ∅, calls := [], ticks := 0 }

def lts : LTS BoardState Step :=
  .computed initial (fun _ _ => True) board.next

end TaskBoard

end KiCore.Team

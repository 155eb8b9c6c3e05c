import KiCore.Auth.OwnedTable
import KiCore.Auth.Server
import KiCore.Sidebar.Store

/-!
# Provisioning

Port of `AuthProvisionService::ensure_external_user` (`service.rs`) and of the statements of `sqlite_user.rs`
that it makes, as one run over a database whose tables other requests write meanwhile. The transaction of
`adopt_system_default_data` reads before it writes: it keeps the snapshot that it has read, and fails if
something else has been committed before its first write. A database counts its commits. Left out are the
columns that nothing here reads, and the files that the adopter's logins move.
-/

namespace KiCore.Auth

open KiCore.Lib

inductive UserType where
  | localUser
  | aionpro
  deriving DecidableEq

inductive UserStatus where
  | active
  | disabled
  deriving DecidableEq

/-- A row of `users`, as provisioning reads it. -/
structure Account where
  id : String
  userType : UserType
  externalUserId : Option String
  username : Option String
  email : Option String
  status : UserStatus
  adoptedBy : Option String
  deriving DecidableEq

def Account.isExternal (user : Account) : Bool := user.userType ≠ .localUser

structure ExternalUserProjection where
  username : Option String
  email : Option String

inductive DbError where
  | conflict (message : String)
  | notFound (message : String)
  | query
  deriving DecidableEq

inductive ProvisionError where
  | userDisabled
  | db (error : DbError)
  deriving DecidableEq

structure Database where
  users : List Account
  tables : List OwnedTable
  commits : Nat

def systemAccount : Account where
  id := SYSTEM_DEFAULT_USER_ID
  userType := .localUser
  externalUserId := none
  username := some "admin"
  email := none
  status := .active
  adoptedBy := none

namespace Database

variable (db : Database)

/-- A commit is one if something has changed. -/
def written (users : List Account) (tables : List OwnedTable) : Database :=
  if users = db.users ∧ tables = db.tables then db else { users, tables, commits := db.commits + 1 }

/-- `INSERT OR IGNORE`: ids and the names of local users are unique. -/
def ensureSystemUser : Database :=
  if db.users.any fun user => user.id = SYSTEM_DEFAULT_USER_ID ||
      (user.userType = .localUser && user.username = some "admin") then db
  else db.written (db.users ++ [systemAccount]) db.tables

def findById (id : String) : Option Account := db.users.find? (·.id = id)

def getSystemUser : Option Account := db.findById SYSTEM_DEFAULT_USER_ID

def findByExternalUserId (userType : UserType) (externalUserId : String) : Option Account :=
  db.users.find? fun user => user.userType = userType && user.externalUserId = some externalUserId

def violates (user : Account) : Bool :=
  db.users.any fun other => other.id = user.id ||
    (user.externalUserId.isSome && other.userType = user.userType &&
      other.externalUserId = user.externalUserId) ||
    (user.email.isSome && other.email = user.email)

def insertExternal (id : String) (userType : UserType) (externalUserId : String)
    (projection : ExternalUserProjection) : Except DbError Database :=
  let user : Account :=
    { id, userType, externalUserId := some externalUserId, username := projection.username,
      email := projection.email, status := .active, adoptedBy := none }
  if db.violates user then .error (.conflict "External user mapping already exists")
  else .ok (db.written (db.users ++ [user]) db.tables)

def setStatus (id : String) (status : UserStatus) : Database :=
  db.written (db.users.map fun user => if user.id = id then { user with status } else user) db.tables

/-- An owner that is no row of `users` is refused where the column references it. -/
def insert (db : Database) (name : String) (row : OwnedRow) : Database :=
  db.written db.users <| db.tables.map fun table =>
    if table.name = name && (!table.references || row.owner.all fun owner => (db.findById owner).isSome) then
      table.insert row
    else table

def remove (db : Database) (name : String) (id : Nat) : Database :=
  db.written db.users <| db.tables.map fun table => if table.name = name then table.remove id else table

variable (owner : String)

/-- The adoption window: the owner is the one external user, and no adopter has been stamped. -/
def mayAdopt : Bool :=
  db.users.countP Account.isExternal = 1 &&
    db.users.countP (fun user => user.id = owner && user.isExternal) = 1 &&
    (db.getSystemUser.bind Account.adoptedBy).isNone

def sweep (tables : List OwnedTable) (column : OwnerColumn) : List OwnedTable :=
  tables.map fun table =>
    if table.ownerColumn = column then table.updateOwner SYSTEM_DEFAULT_USER_ID owner else table

def stamp (users : List Account) : List Account :=
  users.map fun user =>
    if user.id = SYSTEM_DEFAULT_USER_ID && user.adoptedBy.isNone then { user with adoptedBy := some owner }
    else user

def adopt : Database :=
  db.written (stamp owner db.users) ([.userId, .ownerUserId].foldl (sweep owner) db.tables)

def isDefaultDataAdopter : Bool :=
  db.users.countP (fun user => user.id = SYSTEM_DEFAULT_USER_ID && user.adoptedBy = some owner) = 1

end Database

def refuseExternal (userType : UserType) (externalUserId : String) : Option DbError :=
  if userType = .localUser then
    some (.conflict "External identity projection requires a non-local user type")
  else if externalUserId.toList.all Lib.Str.isWhitespace then
    some (.conflict "external_user_id must not be empty")
  else none

inductive ProvisionStage where
  | received (userType : UserType) (externalUserId : String) (projection : ExternalUserProjection)
  /-- no row has been found -/
  | absent (userType : UserType) (externalUserId : String) (projection : ExternalUserProjection)
  | inserted (id : String)
  | provisioned (user : Account)
  /-- the transaction that adopts has read its snapshot -/
  | sweeping (owner : String) (snapshot : Database)
  | adopted (owner : String)
  /-- with whether the files are moved -/
  | done (result : Except ProvisionError (String × Bool))

/-- The answers to the next query of a call. -/
inductive ProvisionEvent where
  /-- the server is started, or started again -/
  | start
  | provision (externalUserId : String) (projection : ExternalUserProjection)
  /-- the next query of a call is answered, or fails; a user who is inserted gets the id -/
  | advance (n : Nat) (id : String) (answered : Bool)
  | setStatus (id : String) (status : UserStatus)
  | insert (table : String) (row : OwnedRow)
  | remove (table : String) (id : Nat)

structure Provisioning where
  db : Database
  calls : List ProvisionStage
  /-- those whose transactions have adopted, newest first -/
  adopters : List String

namespace Provisioning

/-- An adopter that has been stamped before is known. -/
def start (db : Database) : Provisioning :=
  { db, calls := [], adopters := (db.getSystemUser.bind Account.adoptedBy).toList }

variable (s : Provisioning)

def provision (externalUserId : String) (projection : ExternalUserProjection) : Provisioning :=
  { s with calls := s.calls ++ [.received .aionpro externalUserId projection] }

def goTo (n : Nat) (stage : ProvisionStage) : Provisioning :=
  { s with calls := s.calls.set n stage }

def fail (n : Nat) (error : ProvisionError) : Provisioning :=
  s.goTo n (.done (.error error))

/-- The user is there; a disabled one is refused. -/
def welcome (n : Nat) (user : Account) : Provisioning :=
  if user.status = .disabled then s.fail n .userDisabled else s.goTo n (.provisioned user)

/-- The first write and the commit, if the snapshot is still that of the database. -/
def commitAdoption (n : Nat) (owner : String) (snapshot : Database) : Provisioning :=
  if snapshot.commits = s.db.commits then
    { s with
      db := s.db.adopt owner
      calls := s.calls.set n (.adopted owner)
      adopters := owner :: s.adopters }
  else s.fail n (.db .query)

def query (n : Nat) (id : String) : ProvisionStage → Provisioning
  | .received userType externalUserId projection =>
    match refuseExternal userType externalUserId with
    | some error => s.fail n (.db error)
    | none =>
      match s.db.findByExternalUserId userType externalUserId with
      | some user => s.welcome n user
      | none => s.goTo n (.absent userType externalUserId projection)
  | .absent userType externalUserId projection =>
    match s.db.insertExternal id userType externalUserId projection with
    | .ok db => { s with db, calls := s.calls.set n (.inserted id) }
    | .error error => s.fail n (.db error)
  | .inserted id =>
    match s.db.findById id with
    | some user => s.welcome n user
    | none => s.fail n (.db (.notFound s!"User '{id}' not found after insert"))
  | .provisioned user =>
    if s.db.mayAdopt user.id then s.goTo n (.sweeping user.id s.db) else s.goTo n (.adopted user.id)
  | .sweeping owner snapshot => s.commitAdoption n owner snapshot
  | .adopted owner => s.goTo n (.done (.ok (owner, s.db.isDefaultDataAdopter owner)))
  | .done _ => s

def advance (n : Nat) (id : String) (answered : Bool) : Provisioning :=
  match s.calls[n]? with
  | none | some (.done _) => s
  | some stage => if answered then s.query n id stage else s.fail n (.db .query)

def next : ProvisionEvent → Provisioning
  | .start => { s with db := s.db.ensureSystemUser, calls := [] }
  | .provision externalUserId projection => s.provision externalUserId projection
  | .advance n id answered => s.advance n id answered
  | .setStatus id status => { s with db := s.db.setStatus id status }
  | .insert table row => { s with db := s.db.insert table row }
  | .remove table id => { s with db := s.db.remove table id }

end Provisioning

end KiCore.Auth

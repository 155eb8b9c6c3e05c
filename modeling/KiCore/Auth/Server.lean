import KiCore.Auth.JwtService
import KiCore.Lib.Transition

/-!
# Servers and their secrets

Port of the resolution of the secrets at start-up (`services.rs`), of the handlers that issue, refresh and
revoke tokens (`routes.rs`) and of the commands that write the encryption secret (`secret.rs`), as one run
over a database. Every write of the database may fail. Left out are passwords and their checks; a request
that fails one of them does nothing.
-/

namespace KiCore.Auth

open KiCore.Lib

def SYSTEM_DEFAULT_USER_ID : String := "system_default_user"

structure User where
  id : String
  username : Option String
  aionpro : Bool
  active : Bool
  sessionGeneration : Int
  jwtSecret : Option String
  encryptionSecret : Option String

def systemUser : User where
  id := SYSTEM_DEFAULT_USER_ID
  username := some "admin"
  aionpro := false
  active := true
  sessionGeneration := 0
  jwtSecret := none
  encryptionSecret := none

abbrev Users : Type := List User

namespace Users

variable (users : Users)

def findById (id : String) : Option User := users.find? (·.id = id)

def getSystemUser : Option User := users.findById SYSTEM_DEFAULT_USER_ID

/-- `INSERT OR IGNORE`: ids and user names are unique. -/
def ensureSystemUser : Users :=
  if users.any fun user => user.id = SYSTEM_DEFAULT_USER_ID || user.username = some "admin" then users
  else users ++ [systemUser]

def update (id : String) (f : User → User) : Users :=
  users.map fun user => if user.id = id then f user else user

def updateJwtSecret (id secret : String) : Users :=
  users.update id fun user => { user with jwtSecret := some secret }

def updateEncryptionSecret (id secret : String) : Users :=
  users.update id fun user => { user with encryptionSecret := some secret }

def readDbRoots : DbRoots where
  encryption := normalize (users.getSystemUser.bind User.encryptionSecret)
  jwtSeed := normalize (users.getSystemUser.bind User.jwtSecret)

end Users

/-- What the starts and the commands have left behind. -/
inductive HistoryEntry where
  | started (env : Option String) (root : String)
  | forced
  /-- an unforced command has replaced a secret -/
  | replaced
  deriving DecidableEq

structure AuthServer where
  aionproMode : Bool
  users : Users
  /-- that of the server that is running -/
  service : Option JwtService
  now : Nat
  issued : List Token
  /-- logged out, or valid when the password of a user other than the system's was changed -/
  revoked : List Token
  /-- valid when the password of the system user was changed -/
  retired : List Token
  /-- newest first -/
  history : List HistoryEntry

namespace AuthServer

def create (aionproMode : Bool) (users : Users) (now : Nat) : AuthServer :=
  { aionproMode, users, service := none, now, issued := [], revoked := [], retired := [], history := [] }

def mustRefuseStartupOnUnreadableSystemUser (isNew systemUserPresent existingRowPresent : Bool) : Bool :=
  isNew && !systemUserPresent && existingRowPresent

/-- The root for the row that was read, stored if it has been seeded. -/
def resolveRoot (users : Users) (user : Option User) (encryptionEnv : Option String) (secret : String)
    (encryptionWritten : Bool) : Users × Option (String × String) :=
  let (root, seeded) := resolveEncryptionSecret encryptionEnv (user.bind User.encryptionSecret) secret
  if seeded && user.isSome then
    if encryptionWritten then
      (users.updateEncryptionSecret SYSTEM_DEFAULT_USER_ID root, some (secret, root))
    else (users, none)
  else (users, some (secret, root))

/-- The rows afterwards, and the secrets unless the start fails. -/
def resolveSecrets (users : Users) (jwtEnv encryptionEnv : Option String) (generated : String)
    (jwtWritten encryptionWritten : Bool) : Users × Option (String × String) :=
  let user := users.getSystemUser
  let (secret, isNew) := resolveJwtSecret jwtEnv (user.bind User.jwtSecret) generated
  if mustRefuseStartupOnUnreadableSystemUser isNew user.isSome
      (users.findById SYSTEM_DEFAULT_USER_ID).isSome then (users, none)
  else if isNew && user.isSome then
    if jwtWritten then
      resolveRoot (users.updateJwtSecret SYSTEM_DEFAULT_USER_ID secret) user encryptionEnv secret
        encryptionWritten
    else (users, none)
  else resolveRoot users user encryptionEnv secret encryptionWritten

variable (s : AuthServer)

def startUp (jwtEnv encryptionEnv : Option String) (generated : String)
    (jwtWritten encryptionWritten : Bool) : AuthServer :=
  match resolveSecrets s.users.ensureSystemUser jwtEnv encryptionEnv generated jwtWritten
    encryptionWritten with
  | (users, none) => { s with users, service := none }
  | (users, some (secret, root)) =>
    { s with
      users
      service := some (.new secret)
      history := .started (normalize encryptionEnv) root :: s.history }

def sign (service : JwtService) (user : User) : AuthServer :=
  let token := service.signWithSessionGeneration s.now user.id (user.username.getD "external_user")
    user.sessionGeneration
  { s with issued := s.issued ++ [token] }

def login (userId : String) : AuthServer :=
  match s.service, s.users.findById userId with
  | some service, some user => s.sign service user
  | _, _ => s

def refresh (token : Token) : AuthServer :=
  match s.service with
  | none => s
  | some service =>
    match service.verify s.now token with
    | .error _ => s
    | .ok payload =>
      match (s.users.findById payload.userId).filter User.active with
      | none => s
      | some user =>
        if s.aionproMode && !user.aionpro then s
        else if payload.sessionGeneration ≠ user.sessionGeneration then s
        else s.sign service user

def logout (token : Token) : AuthServer :=
  match s.service with
  | none => s
  | some service =>
    { s with service := some (service.blacklistToken s.now token), revoked := s.revoked ++ [token] }

/-- It reports success if every write has succeeded. -/
def changePassword (userId newSecret : String) (hashWritten secretWritten : Bool) : AuthServer :=
  match s.service, s.users.findById userId with
  | some service, some _ =>
    if !hashWritten then s
    else if !secretWritten then { s with service := some (.rotateSecret newSecret) }
    else
      let valid := s.issued.filter (service.accepts s.now)
      let system := userId = SYSTEM_DEFAULT_USER_ID
      { s with
        service := some (.rotateSecret newSecret)
        users := s.users.updateJwtSecret userId newSecret
        revoked := if system then s.revoked else s.revoked ++ valid
        retired := if system then s.retired ++ valid else s.retired }
  | _, _ => s

def persist (encryptionEnv jwtEnv : Option String) (newSecret : String)
    (force written : Bool) : AuthServer × Except SecretError SecretWriteOutcome :=
  let users := s.users.ensureSystemUser
  let s := { s with users, history := if force then .forced :: s.history else s.history }
  match persistPlan users.readDbRoots encryptionEnv jwtEnv newSecret force with
  | .refuse => (s, .error .alreadyExists)
  | .keep => (s, .ok .unchanged)
  | .write outcome =>
    if written && users.getSystemUser.isSome then
      ({ s with
          users := users.updateEncryptionSecret SYSTEM_DEFAULT_USER_ID newSecret
          history := if outcome = .overwritten then .replaced :: s.history else s.history },
        .ok outcome)
    else (s, .error .db)

def setSecret (encryptionEnv jwtEnv : Option String) (newSecret : String)
    (force written : Bool) : AuthServer × Except SecretError SecretWriteOutcome :=
  if newSecret = "" then ({ s with users := s.users.ensureSystemUser }, .error .empty)
  else s.persist encryptionEnv jwtEnv newSecret force written

inductive AuthEvent where
  | startUp (jwtEnv encryptionEnv : Option String) (generated : String) (jwtWritten encryptionWritten : Bool)
  | login (userId : String)
  | refresh (token : Token)
  | logout (token : Token)
  | changePassword (userId newSecret : String) (hashWritten secretWritten : Bool)
  | cleanup
  | tick (secs : Nat)
  | setSecret (encryptionEnv jwtEnv : Option String) (newSecret : String) (force written : Bool)
  | generateSecret (encryptionEnv jwtEnv : Option String) (generated : String) (force written : Bool)
  deriving DecidableEq

def next : AuthEvent → AuthServer
  | .startUp jwtEnv encryptionEnv generated jwtWritten encryptionWritten =>
    s.startUp jwtEnv encryptionEnv generated jwtWritten encryptionWritten
  | .login userId => s.login userId
  | .refresh token => s.refresh token
  | .logout token => s.logout token
  | .changePassword userId newSecret hashWritten secretWritten =>
    s.changePassword userId newSecret hashWritten secretWritten
  | .cleanup => { s with service := s.service.map fun service => service.cleanupBlacklist s.now }
  | .tick secs => { s with now := s.now + secs }
  | .setSecret encryptionEnv jwtEnv newSecret force written =>
    (s.setSecret encryptionEnv jwtEnv newSecret force written).1
  | .generateSecret encryptionEnv jwtEnv generated force written =>
    (s.persist encryptionEnv jwtEnv generated force written).1

/-- A secret that is generated is none that a token is signed with. -/
def Fresh (generated : String) : Prop :=
  generated ≠ "" ∧ ∀ token ∈ s.issued ++ s.revoked, token.secret ≠ generated

instance (generated : String) : Decidable (s.Fresh generated) := by
  unfold Fresh
  infer_instance

def Possible : AuthEvent → Prop
  | .startUp _ _ generated _ _ | .changePassword _ generated _ _ | .generateSecret _ _ generated _ _ =>
    s.Fresh generated
  | _ => True

instance (e : AuthEvent) : Decidable (s.Possible e) := by
  unfold Possible
  split <;> infer_instance

end AuthServer

end KiCore.Auth

import KiCore.Lib.Keyed
import KiCore.Lib.Pool
import KiCore.Lib.Transition

/-!
# Pairing of platform users

The pairing codes and the authorized users of one owner. `request_pairing`, `approve_pairing` and
`reject_pairing` are calls whose statements are steps of their own; what a call computes from the
rows it has read belongs to the step that reads them. The cleanup timer is one statement, with the
time that was read before it. A code stands for its six digits.
-/

namespace KiCore.Channel

open KiCore.Lib

inductive PairingStatus where
  | pending
  | approved
  | rejected
  | expired
  deriving DecidableEq

structure PlatformUser where
  platformUserId : String
  platformType : String
  deriving DecidableEq

structure PairingCodeRow where
  code : Nat
  user : PlatformUser
  displayName : Option String
  requestedAt : Nat
  expiresAt : Nat
  status : PairingStatus
  deriving DecidableEq

structure AssistantUserRow where
  id : Nat
  user : PlatformUser
  displayName : Option String
  authorizedAt : Nat

def pairingCodeLength : Nat := 6

def pairingCodeTtl : Nat := 10 * 60 * 1000

def generatePairingCode (bytes : UInt32) : Nat :=
  bytes.toNat % 10 ^ pairingCodeLength

inductive PairingRequest where
  | request (user : PlatformUser) (displayName : Option String)
  | approve (code : Nat)
  | reject (code : Nat)
  deriving DecidableEq

/-- The statement that a call is to execute next. -/
inductive PairingStage where
  | getPendingPairings
  | expireCode (code : Nat) (rest : List Nat)
  | createPairing
  | getPairingByCode
  | markExpired
  | createUser (row : PairingCodeRow)
  | markApproved
  | markRejected
  | finished (ok : Bool)
  deriving DecidableEq

/-- `wrote` tells whether an approve has created its user, which is the first thing it writes. -/
structure PairingCall where
  request : PairingRequest
  stage : PairingStage
  wrote : Bool

structure StatusChange where
  code : Nat
  before : PairingStatus
  after : PairingStatus
  deriving DecidableEq

/-- A user that was created for a code; `valid` tells whether the code was pending and not expired
then. -/
structure Grant where
  code : Nat
  user : Nat
  valid : Bool
  deriving DecidableEq

/-- The rows of one owner and the calls on them, with a record of the changes of status and of the
users that were created. -/
structure PairingService where
  codes : List PairingCodeRow
  users : List AssistantUserRow
  now : Nat
  mintedUsers : Nat
  calls : List PairingCall
  changes : List StatusChange
  granted : List Grant

namespace PairingService

inductive Event where
  | tick (ms : Nat)
  | call (request : PairingRequest)
  | cleanup (now : Nat)
  | step (call : Nat) (ok : Bool) (bytes : UInt32)
  deriving DecidableEq

def start : PairingService where
  codes := []
  users := []
  now := 0
  mintedUsers := 0
  calls := []
  changes := []
  granted := []

variable (s : PairingService) (code : Nat)

def getPairingByCode : Option PairingCodeRow :=
  Keyed.lookup (·.code) code s.codes

def pendingCodes (user : PlatformUser) : List Nat :=
  ((s.codes.filter fun row => row.status = .pending ∧ row.user = user).map (·.code)).reverse

/-- `UPDATE assistant_pairing_codes SET status = ? WHERE ..`. -/
def setStatus (p : PairingCodeRow → Bool) (status : PairingStatus) : PairingService :=
  { s with
    codes := s.codes.map fun row => if p row then { row with status } else row
    changes := s.changes ++ (s.codes.filter fun row => p row && row.status ≠ status).map
      fun row => { code := row.code, before := row.status, after := status } }

def updatePairingStatus (status : PairingStatus) : PairingService :=
  s.setStatus (·.code = code) status

def cleanupExpiredPairings (now : Nat) : PairingService :=
  s.setStatus (fun row => row.status = .pending && row.expiresAt ≤ now) .expired

def move (k : Nat) (call : PairingCall) (stage : PairingStage) : PairingService :=
  { s with calls := s.calls.set k { call with stage } }

/-- The old codes of a user are expired one by one, then the new one is inserted. -/
def expireStage : List Nat → PairingStage
  | [] => .createPairing
  | code :: rest => .expireCode code rest

def createPairing (user : PlatformUser) (displayName : Option String) (code : Nat) :
    PairingService :=
  { s with codes := s.codes ++ [{
      code, user, displayName
      requestedAt := s.now
      expiresAt := s.now + pairingCodeTtl
      status := .pending }] }

/-- A code that a user can be authorized by at this moment. -/
def ValidNow : Prop :=
  ∃ row ∈ s.codes, row.code = code ∧ row.status = .pending ∧ s.now < row.expiresAt

instance : Decidable (s.ValidNow code) :=
  inferInstanceAs (Decidable (∃ row ∈ s.codes, _))

def createUser (row : PairingCodeRow) : PairingService :=
  { s with
    users := s.users ++ [{
      id := s.mintedUsers, user := row.user, displayName := row.displayName, authorizedAt := s.now }]
    mintedUsers := s.mintedUsers + 1
    granted := s.granted ++ [{ code, user := s.mintedUsers, valid := s.ValidNow code }] }

/-- What `get_valid_pending_pairing` makes of the row it has read, and what comes after it. -/
def selectedStage (next : PairingCodeRow → PairingStage) :
    Option PairingCodeRow → PairingStage
  | none => .finished false
  | some row =>
    if row.status ≠ .pending then .finished false
    else if row.expiresAt ≤ s.now then .markExpired
    else next row

def hasCode : Bool :=
  s.codes.any (·.code = code)

/-- `UNIQUE (owner_user_id, platform_user_id, platform_type)`. -/
def hasUser (user : PlatformUser) : Bool :=
  s.users.any (·.user = user)

def update (k : Nat) (call : PairingCall) (code : Nat) (status : PairingStatus)
    (stage : PairingStage) : PairingService :=
  if s.hasCode code then (s.updatePairingStatus code status).move k call stage
  else s.move k call (.finished false)

def advance (k : Nat) (call : PairingCall) (bytes : UInt32) : PairingService :=
  match call.request, call.stage with
  | .request user _, .getPendingPairings => s.move k call (expireStage (s.pendingCodes user))
  | .request _ _, .expireCode code rest => s.update k call code .expired (expireStage rest)
  | .request user displayName, .createPairing =>
    if s.hasCode (generatePairingCode bytes) then s.move k call (.finished false)
    else (s.createPairing user displayName (generatePairingCode bytes)).move k call (.finished true)
  | .approve code, .getPairingByCode =>
    s.move k call (s.selectedStage .createUser (s.getPairingByCode code))
  | .approve code, .createUser row =>
    if s.hasUser row.user then s.move k call (.finished false)
    else (s.createUser code row).move k { call with wrote := true } .markApproved
  | .approve code, .markApproved => s.update k call code .approved (.finished true)
  | .reject code, .getPairingByCode =>
    s.move k call (s.selectedStage (fun _ => .markRejected) (s.getPairingByCode code))
  | .reject code, .markRejected => s.update k call code .rejected (.finished true)
  -- The result of the update is not looked at.
  | .approve code, .markExpired | .reject code, .markExpired =>
    s.update k call code .expired (.finished false)
  | _, _ => s

def firstStage : PairingRequest → PairingStage
  | .request _ _ => .getPendingPairings
  | .approve _ | .reject _ => .getPairingByCode

/-- Every error of a statement ends its call. -/
def next : Event → PairingService
  | .tick ms => { s with now := s.now + ms }
  | .call request => { s with
      calls := s.calls ++ [{ request, stage := firstStage request, wrote := false }] }
  | .cleanup now => if now ≤ s.now then s.cleanupExpiredPairings now else s
  | .step k ok bytes => (s.calls[k]?).elim s fun call =>
    if call.stage = .finished true then s
    else if ok then s.advance k call bytes else s.move k call (.finished false)

end PairingService

end KiCore.Channel

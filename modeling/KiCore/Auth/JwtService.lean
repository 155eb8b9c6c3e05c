import Mathlib.Tactic

/-!
# Tokens and secrets

Port of `JwtService` (`jwt.rs`). A token is its claims and the secret that it is signed with, and so are its
text and its hash; a text that is no token is one of another issuer. The decoder takes a token up to
60 seconds after it has expired.

The secrets of a server are the port of `resolve_jwt_secret` and `resolve_encryption_secret` (`jwt.rs`)
and of the provisioning of the encryption secret (`secret.rs`). Left out are the fingerprints; a random
secret is a parameter.
-/

namespace KiCore.Auth

def TOKEN_EXPIRY : Nat := 30 * 24 * 60 * 60

def JWT_ISSUER : String := "aionui"

def JWT_AUDIENCE : String := "aionui-webui"

/-- The leeway of the decoder, in seconds. -/
def LEEWAY : Nat := 60

structure TokenPayload where
  userId : String
  username : String
  iat : Nat
  exp : Nat
  iss : String
  aud : String
  sessionGeneration : Int
  deriving DecidableEq

structure Token where
  secret : String
  claims : TokenPayload
  deriving DecidableEq

inductive AuthError where
  | tokenBlacklisted
  | tokenExpired
  | tokenInvalid
  deriving DecidableEq

structure JwtService where
  secret : String
  /-- with the time at which each entry may go -/
  blacklist : List (Token × Nat)
  deriving DecidableEq

namespace JwtService

variable (secret : String)

def new : JwtService := { secret, blacklist := [] }

variable (service : JwtService) (now : Nat)

def signWithSessionGeneration (userId username : String) (sessionGeneration : Int) : Token where
  secret := service.secret
  claims :=
    { userId, username, iat := now, exp := now + TOKEN_EXPIRY, iss := JWT_ISSUER, aud := JWT_AUDIENCE,
      sessionGeneration }

def genuine (token : Token) : Bool :=
  token.secret = secret && token.claims.iss = JWT_ISSUER && token.claims.aud = JWT_AUDIENCE

def decodes (token : Token) : Bool :=
  genuine secret token && now ≤ token.claims.exp + LEEWAY

/-- The decoder checks the signature first, then the expiry, then issuer and audience. -/
def verify (token : Token) : Except AuthError TokenPayload :=
  if service.blacklist.any (·.1 = token) then .error .tokenBlacklisted
  else if decodes service.secret now token then .ok token.claims
  else if token.secret = service.secret ∧ token.claims.exp + LEEWAY < now then .error .tokenExpired
  else .error .tokenInvalid

def extractExpiry (token : Token) : Option Nat :=
  if genuine service.secret token then some token.claims.exp else none

def blacklistToken (token : Token) : JwtService :=
  let exp := (service.extractExpiry token).getD (now + TOKEN_EXPIRY)
  { service with blacklist := service.blacklist.filter (·.1 ≠ token) ++ [(token, exp)] }

def rotateSecret (newSecret : String) : JwtService := { secret := newSecret, blacklist := [] }

def cleanupBlacklist : JwtService :=
  { service with blacklist := service.blacklist.filter fun entry => now < entry.2 }

def accepts (token : Token) : Bool :=
  (service.verify now token).toOption.isSome

end JwtService

def normalize (secret : Option String) : Option String := secret.filter (· ≠ "")

def resolveJwtSecret (envSecret dbSecret : Option String) (generated : String) : String × Bool :=
  match normalize envSecret with
  | some s => (s, false)
  | none =>
    match normalize dbSecret with
    | some s => (s, false)
    | none => (generated, true)

def resolveEncryptionSecret (envSecret dbSecret : Option String) (jwtSecretSeed : String) : String × Bool :=
  match normalize envSecret with
  | some s => (s, false)
  | none =>
    match normalize dbSecret with
    | some s => (s, false)
    | none => (jwtSecretSeed, true)

lemma normalize_eq_some {secret : String} {old : Option String} :
    normalize old = some secret ↔ old = some secret ∧ secret ≠ "" := by
  simp [normalize, Option.filter_eq_some_iff]

lemma resolveJwtSecret_eq (env db : Option String) (generated : String) :
    resolveJwtSecret env db generated =
      (((normalize env).or (normalize db)).getD generated, ((normalize env).or (normalize db)).isNone) := by
  unfold resolveJwtSecret
  split
  case h_1 found => rw [found]; rfl
  case h_2 absent =>
    rw [absent]
    split
    case h_1 found => rw [found]; rfl
    case h_2 absent => rw [absent]; rfl

inductive SecretSource where
  | environment
  | database
  | seededFromSigning
  | none
  deriving DecidableEq

structure SecretStatus where
  envPresent : Bool
  dbPresent : Bool
  effectiveSource : SecretSource

inductive SecretWriteOutcome where
  | created
  | overwritten
  | unchanged
  deriving DecidableEq

inductive SecretError where
  | empty
  | alreadyExists
  | db
  deriving DecidableEq

structure DbRoots where
  encryption : Option String
  jwtSeed : Option String

def effectiveJwtSeed (jwtEnv jwtColumn : Option String) : Option String := (normalize jwtEnv).or jwtColumn

variable (roots : DbRoots)

def readSecretStatus (envSecret jwtEnv : Option String) : SecretStatus where
  envPresent := (normalize envSecret).isSome
  dbPresent := roots.encryption.isSome
  effectiveSource :=
    if (normalize envSecret).isSome then .environment
    else if roots.encryption.isSome then .database
    else if (effectiveJwtSeed jwtEnv roots.jwtSeed).isSome then .seededFromSigning
    else .none

/-- The root that a server would use, unless it generated one. -/
def effectiveRoot (envSecret jwtEnv : Option String) : Option String :=
  ((normalize envSecret).or roots.encryption).or (effectiveJwtSeed jwtEnv roots.jwtSeed)

/-- What `persist` does about a new secret. -/
inductive PersistPlan where
  | refuse
  | keep
  | write (outcome : SecretWriteOutcome)
  deriving DecidableEq

def persistPlan (envSecret jwtEnv : Option String) (newSecret : String) (force : Bool) :
    PersistPlan :=
  if (effectiveRoot roots envSecret jwtEnv).any (· ≠ newSecret) && !force then .refuse
  else if roots.encryption = some newSecret then .keep
  else .write (if roots.encryption.isSome then .overwritten else .created)

end KiCore.Auth

import KiCore.Auth.Server

/-!
# Invalidated tokens

The blacklist is kept in memory, and a start takes `JWT_SECRET` before the stored secret, so that a start
may resolve to the secret of a token that was invalidated. `invalidated_token_rejected` says that apart from
such a start, and from a cleanup that comes before the decoder stops taking the token, it is never accepted
again.
-/

namespace KiCore.Auth

open KiCore.Lib

namespace JwtService

variable {service : JwtService} {token other : Token} {now : Nat} {secret : String}

lemma accepts_iff : service.accepts now token ↔
    (∀ entry ∈ service.blacklist, entry.1 ≠ token) ∧ decodes service.secret now token := by
  have unlisted : service.blacklist.any (·.1 = token) = false ↔
      ∀ entry ∈ service.blacklist, entry.1 ≠ token := by
    simp only [List.any_eq_false, decide_eq_true_eq, ne_eq]
  rw [← unlisted, accepts, verify]
  split_ifs with listed decoded
  · simp [listed, Except.toOption]
  · simp [listed, decoded, Except.toOption]
  · simp [decoded, Except.toOption]
  · simp [decoded, Except.toOption]

lemma accepts_new : (new secret).accepts now token ↔ decodes secret now token := by
  simp [accepts_iff, new]

lemma decodes_later (later : decodes secret (now + k) token) : decodes secret now token := by
  unfold decodes at later ⊢
  simp only [Bool.and_eq_true, decide_eq_true_eq] at later ⊢
  exact ⟨later.1, (Nat.le_add_right _ _).trans later.2⟩

lemma secret_of_decodes (decoded : decodes secret now token) : token.secret = secret := by
  simp only [decodes, genuine, Bool.and_eq_true, decide_eq_true_eq] at decoded
  exact decoded.1.1.1

end JwtService

namespace AuthServer

variable {s : AuthServer} {e : AuthEvent} {token : Token} {service : JwtService}

/-- The server that is running, if any, does not accept a token. -/
def Rejects (s : AuthServer) (token : Token) : Prop :=
  ∀ service ∈ s.service, ¬ service.accepts s.now token

def Revoked (s : AuthServer) (token : Token) : Prop := token ∈ s.revoked ∨ token ∈ s.retired

structure Invalidated (token : Token) (s : AuthServer) (e : AuthEvent) : Prop where
  rejected : (s.next e).Revoked token → (s.next e).Rejects token
  /-- no token comes of a refresh with one that is not accepted -/
  refresh : ∀ other, e = .refresh other → s.Rejects other → (s.next e).issued = s.issued

/-- Before a token has expired for the decoder, no start is given its secret in `JWT_SECRET`; if it was not a
password change of the system user that invalidated it, no start finds its secret stored either; and a
cleanup does not prune it. -/
def Spares (token : Token) (s : AuthServer) : AuthEvent → Prop
  | .startUp jwtEnv _ _ _ _ => s.Revoked token → s.now ≤ token.claims.exp + LEEWAY →
    normalize jwtEnv ≠ some token.secret ∧
      (token ∈ s.revoked → normalize jwtEnv = none →
        s.users.ensureSystemUser.readDbRoots.jwtSeed ≠ some token.secret)
  | .cleanup => s.Revoked token → ∀ service ∈ s.service, ∀ entry ∈ service.blacklist, entry.1 = token →
    entry.2 ≤ s.now → ¬ JwtService.decodes service.secret s.now token
  | _ => True

instance : Decidable (s.Revoked token) := inferInstanceAs (Decidable (_ ∨ _))

instance : (e : AuthEvent) → Decidable (Spares token s e)
  | .startUp _ _ _ _ _ => inferInstanceAs (Decidable (_ → _ → _ ∧ (_ → _ → ¬ _)))
  | .cleanup => inferInstanceAs (Decidable (_ → ∀ service ∈ s.service, ∀ entry ∈ service.blacklist,
      entry.1 = token → entry.2 ≤ s.now → ¬ JwtService.decodes service.secret s.now token))
  | .login _ | .refresh _ | .logout _ | .changePassword _ _ _ _ | .tick _ | .setSecret _ _ _ _ _
  | .generateSecret _ _ _ _ _ => instDecidableTrue

/-- No row of the system user has the secret. -/
def Without (users : Users) (secret : String) : Prop :=
  ∀ user ∈ users, user.id = SYSTEM_DEFAULT_USER_ID → user.jwtSecret ≠ some secret

variable {users : Users} {secret id : String}

lemma Without.update {f : User → User} (h : Without users secret)
    (same : ∀ user, (f user).jwtSecret = some secret → user.jwtSecret = some secret)
    (keeps : ∀ user, (f user).id = user.id) : Without (users.update id f) secret := by
  intro user mem system stored
  obtain ⟨before, was, rfl⟩ := List.mem_map.mp mem
  split at stored
  case isTrue changed =>
    rw [if_pos changed, keeps] at system
    exact h before was system (same before stored)
  case isFalse kept =>
    rw [if_neg kept] at system
    exact h before was system stored

lemma Without.updateJwtSecret {other : String} (h : Without users secret) (new : other ≠ secret) :
    Without (users.updateJwtSecret id other) secret :=
  h.update (fun _ stored => absurd (Option.some.inj stored) new) fun _ => rfl

lemma Without.updateEncryptionSecret {root : String} (h : Without users secret) :
    Without (users.updateEncryptionSecret id root) secret :=
  h.update (fun _ stored => stored) fun _ => rfl

/-- A change of the system user's password replaces what is stored. -/
lemma without_changed {other : String} (new : other ≠ secret) :
    Without (users.updateJwtSecret SYSTEM_DEFAULT_USER_ID other) secret := by
  intro user mem system stored
  obtain ⟨before, -, rfl⟩ := List.mem_map.mp mem
  split at stored
  case isTrue => exact new (Option.some.inj stored)
  case isFalse kept =>
    rw [if_neg kept] at system
    exact kept system

lemma Without.ensureSystemUser (h : Without users secret) : Without users.ensureSystemUser secret := by
  unfold Users.ensureSystemUser
  split
  · exact h
  · intro user mem system
    rcases List.mem_append.mp mem with mem | mem
    · exact h user mem system
    · cases List.mem_singleton.mp mem
      exact nofun

lemma Without.jwtSeed (h : Without users secret) : users.readDbRoots.jwtSeed ≠ some secret := by
  intro seed
  obtain ⟨user, found, stored⟩ := Option.bind_eq_some_iff.mp (normalize_eq_some.mp seed).1
  exact h user (List.mem_of_find?_eq_some found) (by simpa using List.find?_some found) stored

def startSecret (s : AuthServer) (jwtEnv : Option String) (generated : String) : String :=
  (resolveJwtSecret jwtEnv (s.users.ensureSystemUser.getSystemUser.bind User.jwtSecret) generated).1

lemma startSecret_ne {jwtEnv : Option String} {generated : String} (env : normalize jwtEnv ≠ some secret)
    (stored : normalize jwtEnv = none → s.users.ensureSystemUser.readDbRoots.jwtSeed ≠ some secret)
    (new : generated ≠ secret) : s.startSecret jwtEnv generated ≠ secret := by
  rw [startSecret, resolveJwtSecret_eq]
  cases given : normalize jwtEnv with
  | some s => exact fun same => env (given.trans (congrArg some same))
  | none =>
    cases kept : normalize (s.users.ensureSystemUser.getSystemUser.bind User.jwtSecret) with
    | some s => exact fun same => stored given (kept.trans (congrArg some same))
    | none => exact new

lemma resolveRoot_secret {users users' : Users} {user : Option User} {encryptionEnv : Option String}
    {secret secret' root : String} {encryptionWritten : Bool}
    (resolved : resolveRoot users user encryptionEnv secret encryptionWritten =
      (users', some (secret', root))) : secret' = secret := by
  unfold resolveRoot at resolved
  dsimp only at resolved
  split_ifs at resolved <;> cases resolved <;> rfl

lemma resolveSecrets_secret {users : Users} {jwtEnv encryptionEnv : Option String} {generated : String}
    {jwtWritten encryptionWritten : Bool} {users' : Users} {secret root : String}
    (resolved : resolveSecrets users jwtEnv encryptionEnv generated jwtWritten encryptionWritten =
      (users', some (secret, root))) :
    secret = (resolveJwtSecret jwtEnv (users.getSystemUser.bind User.jwtSecret) generated).1 := by
  unfold resolveSecrets at resolved
  dsimp only at resolved
  split_ifs at resolved
  · cases resolved
  · exact resolveRoot_secret resolved
  · cases resolved
  · exact resolveRoot_secret resolved

variable {jwtEnv encryptionEnv : Option String}

lemma service_startUp {generated : String} {jwtWritten encryptionWritten : Bool}
    (running : (s.startUp jwtEnv encryptionEnv generated jwtWritten encryptionWritten).service =
      some service) : service = .new (s.startSecret jwtEnv generated) := by
  unfold startUp at running
  split at running
  case h_1 => cases running
  case h_2 users secret root resolved =>
    cases running
    rw [startSecret, resolveSecrets_secret resolved]

lemma isNew_generated {env db : Option String} {generated : String}
    (isNew : (resolveJwtSecret env db generated).2 = true) :
    (resolveJwtSecret env db generated).1 = generated := by
  rw [resolveJwtSecret_eq] at isNew ⊢
  rw [Option.isNone_iff_eq_none.mp isNew]
  rfl

lemma without_resolveRoot {user : Option User} {encryptionEnv : Option String} {other : String}
    {encryptionWritten : Bool} (h : Without users secret) :
    Without (resolveRoot users user encryptionEnv other encryptionWritten).1 secret := by
  unfold resolveRoot
  dsimp only
  split_ifs
  · exact h.updateEncryptionSecret
  · exact h
  · exact h

lemma without_resolveSecrets {generated : String}
    {jwtWritten encryptionWritten : Bool} (h : Without users secret) (new : generated ≠ secret) :
    Without (resolveSecrets users jwtEnv encryptionEnv generated jwtWritten encryptionWritten).1
      secret := by
  unfold resolveSecrets
  dsimp only
  split_ifs with _ isNew
  · exact h
  · rw [isNew_generated ((Bool.and_eq_true _ _).mp isNew).1]
    exact without_resolveRoot (h.updateJwtSecret new)
  · exact h
  · exact without_resolveRoot h

lemma startUp_frame {jwtEnv encryptionEnv : Option String} {generated : String}
    {jwtWritten encryptionWritten : Bool} :
    let t := s.startUp jwtEnv encryptionEnv generated jwtWritten encryptionWritten
    t.revoked = s.revoked ∧ t.retired = s.retired ∧ t.issued = s.issued ∧ t.now = s.now ∧
      t.users = (resolveSecrets s.users.ensureSystemUser jwtEnv encryptionEnv generated jwtWritten
        encryptionWritten).1 := by
  dsimp only
  unfold startUp
  split
  · rename_i resolved
    exact ⟨rfl, rfl, rfl, rfl, by rw [resolved]⟩
  · rename_i resolved
    exact ⟨rfl, rfl, rfl, rfl, by rw [resolved]⟩

/-- The invariant: a token whose secret a password change has replaced is stored nowhere. -/
structure Tracked (token : Token) (s : AuthServer) : Prop where
  rejected : s.Revoked token → s.Rejects token
  issued : token ∈ s.retired → token ∈ s.issued
  replaced : token ∈ s.retired → Without s.users token.secret

lemma Rejects.of_service {t : AuthServer} (h : s.Rejects token) (service : t.service = s.service)
    (now : t.now = s.now) : t.Rejects token := by
  rw [Rejects, service, now]
  exact h

lemma Tracked.startUp {generated : String}
    {jwtWritten encryptionWritten : Bool} (h : Tracked token s) (fresh : s.Fresh generated)
    (spares : Spares token s (.startUp jwtEnv encryptionEnv generated jwtWritten encryptionWritten)) :
    Tracked token (s.startUp jwtEnv encryptionEnv generated jwtWritten encryptionWritten) := by
  obtain ⟨revoked, retired, issued, now, users⟩ :=
    @startUp_frame s jwtEnv encryptionEnv generated jwtWritten encryptionWritten
  have new (mem : s.Revoked token) : generated ≠ token.secret := by
    refine (fresh.2 token ?_).symm
    exact List.mem_append.mpr (mem.symm.imp_left h.issued)
  refine ⟨fun mem service running => ?_, fun mem => ?_, fun mem => ?_⟩
  · rw [Revoked, revoked, retired] at mem
    rw [service_startUp running, now, JwtService.accepts_new]
    intro decoded
    have alive : s.now ≤ token.claims.exp + LEEWAY := by
      simp only [JwtService.decodes, Bool.and_eq_true, decide_eq_true_eq] at decoded
      exact decoded.2
    obtain ⟨env, stored⟩ := spares mem alive
    refine startSecret_ne env (fun none => ?_) (new mem) (JwtService.secret_of_decodes decoded).symm
    rcases mem with mem | mem
    · exact stored mem none
    · exact (h.replaced mem).ensureSystemUser.jwtSeed
  · rw [retired] at mem
    rw [issued]
    exact h.issued mem
  · rw [retired] at mem
    rw [users]
    exact without_resolveSecrets (h.replaced mem).ensureSystemUser (new (.inr mem))

section

variable (h : Tracked token s)
include h

lemma Tracked.sign {user : User} : Tracked token (s.sign service user) where
  rejected := h.rejected
  issued mem := List.mem_append_left _ (h.issued mem)
  replaced := h.replaced

lemma Tracked.login {userId : String} : Tracked token (s.login userId) := by
  unfold AuthServer.login
  split
  · exact h.sign
  · exact h

lemma Tracked.refresh {other : Token} : Tracked token (s.refresh other) := by
  unfold AuthServer.refresh
  split
  · exact h
  · split
    · exact h
    · split
      · exact h
      · split_ifs
        · exact h
        · exact h
        · exact h.sign

lemma Tracked.logout {other : Token} : Tracked token (s.logout other) := by
  unfold AuthServer.logout
  split
  case h_1 => exact h
  case h_2 service running =>
    refine ⟨?_, h.issued, h.replaced⟩
    rintro mem _ ⟨⟩
    rw [JwtService.accepts_iff]
    rintro ⟨unlisted, decoded⟩
    have apart : other ≠ token := unlisted _ (List.mem_append_right _ (List.mem_singleton_self _))
    have before : s.Revoked token := by simpa [Revoked, apart.symm] using mem
    refine h.rejected before service running
      (JwtService.accepts_iff.mpr ⟨fun entry listed => ?_, decoded⟩)
    rintro rfl
    refine unlisted entry (List.mem_append_left _ (List.mem_filter.mpr ⟨listed, ?_⟩)) rfl
    simpa using apart.symm

lemma Tracked.changePassword {userId newSecret : String}
    {hashWritten secretWritten : Bool} (fresh : s.Fresh newSecret) :
    Tracked token (s.changePassword userId newSecret hashWritten secretWritten) := by
  have new (mem : token ∈ s.issued ∨ s.Revoked token) : newSecret ≠ token.secret := by
    refine (fresh.2 token ?_).symm
    rcases mem with mem | mem | mem
    · exact List.mem_append_left _ mem
    · exact List.mem_append_right _ mem
    · exact List.mem_append_left _ (h.issued mem)
  have rotated (mem : token ∈ s.issued ∨ s.Revoked token) :
      ¬ (JwtService.rotateSecret newSecret).accepts s.now token := fun accepted =>
    new mem (JwtService.secret_of_decodes (JwtService.accepts_new.mp accepted)).symm
  unfold AuthServer.changePassword
  split
  case h_2 => exact h
  case h_1 service _ running found =>
    have valid : token ∈ s.issued.filter (service.accepts s.now) → token ∈ s.issued :=
      List.mem_of_mem_filter
    split_ifs
    · exact h
    · refine ⟨?_, h.issued, h.replaced⟩
      rintro mem _ ⟨⟩
      exact rotated (.inr mem)
    · dsimp only
      split_ifs with system
      · subst system
        have issued : token ∈ s.retired ++ s.issued.filter (service.accepts s.now) → token ∈ s.issued :=
          fun mem => (List.mem_append.mp mem).elim h.issued valid
        refine ⟨?_, issued, fun mem => without_changed (new (.inl (issued mem)))⟩
        rintro (mem | mem) _ ⟨⟩
        · exact rotated (.inr (.inl mem))
        · exact rotated (.inl (issued mem))
      · refine ⟨?_, h.issued, fun mem =>
          (h.replaced mem).updateJwtSecret (new (.inl (h.issued mem)))⟩
        rintro (mem | mem) _ ⟨⟩
        · exact rotated ((List.mem_append.mp mem).symm.imp valid .inl)
        · exact rotated (.inr (.inr mem))

lemma Tracked.cleanup (spares : Spares token s .cleanup) : Tracked token (s.next .cleanup) := by
  refine ⟨?_, h.issued, h.replaced⟩
  rintro mem _ running
  obtain ⟨service, was, rfl⟩ := Option.map_eq_some_iff.mp running
  rw [JwtService.accepts_iff]
  rintro ⟨unlisted, decoded⟩
  refine h.rejected mem service was
    (JwtService.accepts_iff.mpr ⟨fun entry listed same => ?_, decoded⟩)
  by_cases kept : s.now < entry.2
  · exact unlisted entry (List.mem_filter.mpr ⟨listed, by simpa using kept⟩) same
  · exact spares mem service was entry listed same (not_lt.mp kept) decoded

lemma Tracked.tick {secs : Nat} : Tracked token (s.next (.tick secs)) := by
  refine ⟨fun mem service running accepted => ?_, h.issued, h.replaced⟩
  rw [JwtService.accepts_iff] at accepted
  exact h.rejected mem service running
    (JwtService.accepts_iff.mpr ⟨accepted.1, JwtService.decodes_later accepted.2⟩)

lemma Tracked.ensured {history : List HistoryEntry} :
    Tracked token { s with users := s.users.ensureSystemUser, history } where
  rejected := h.rejected
  issued := h.issued
  replaced mem := (h.replaced mem).ensureSystemUser

lemma Tracked.persist {encryptionEnv jwtEnv : Option String} {newSecret : String}
    {force written : Bool} :
    Tracked token (s.persist encryptionEnv jwtEnv newSecret force written).1 := by
  unfold AuthServer.persist
  dsimp only
  split
  · exact h.ensured
  · exact h.ensured
  · split_ifs
    all_goals first
      | exact h.ensured
      | exact ⟨h.rejected, h.issued, fun mem =>
          (h.replaced mem).ensureSystemUser.updateEncryptionSecret⟩

lemma Tracked.next (possible : s.Possible e) (spares : Spares token s e) :
    Tracked token (s.next e) := by
  cases e with
  | startUp jwtEnv encryptionEnv generated jwtWritten encryptionWritten => exact h.startUp possible spares
  | login userId => exact h.login
  | refresh other => exact h.refresh
  | logout other => exact h.logout
  | changePassword userId newSecret hashWritten secretWritten => exact h.changePassword possible
  | cleanup => exact h.cleanup spares
  | tick secs => exact h.tick
  | setSecret encryptionEnv jwtEnv newSecret force written =>
    rw [AuthServer.next, setSecret]
    split_ifs
    · exact h.ensured
    · exact h.persist
  | generateSecret encryptionEnv jwtEnv generated force written => exact h.persist

end

lemma issued_refresh {other : Token} (rejects : s.Rejects other) : (s.refresh other).issued = s.issued := by
  unfold AuthServer.refresh
  split
  case h_1 => rfl
  case h_2 service running =>
    split
    case h_1 => rfl
    case h_2 payload verified =>
      refine absurd ?_ (rejects service running)
      rw [JwtService.accepts, verified]
      rfl

lemma Tracked.invalidated (h : Tracked token s) (possible : s.Possible e) (spares : Spares token s e) :
    Invalidated token s e where
  rejected := (h.next possible spares).rejected
  refresh other refreshes rejects := by
    subst refreshes
    exact issued_refresh rejects

lemma tracked_create {aionproMode : Bool} {users : Users} {now : Nat} :
    Tracked token (create aionproMode users now) where
  rejected mem := mem.elim (absurd · List.not_mem_nil) (absurd · List.not_mem_nil)
  issued mem := absurd mem List.not_mem_nil
  replaced mem := absurd mem List.not_mem_nil

/-- In every run a token that was invalidated is rejected from then on, unless, before it has expired, a
start is given its secret, or finds it stored although no password change of the system user has replaced
it, or a cleanup prunes the token; and a token that is rejected refreshes to none. -/
theorem invalidated_token_rejected (aionproMode : Bool) (users : Users) (now : Nat) (token : Token)
    (events : List AuthEvent)
    (spared : LTS.EnabledAll (fun s e => s.Possible e ∧ Spares token s e) next
      (create aionproMode users now) events) :
    LTS.EnabledAll (Invalidated token) next (create aionproMode users now) events :=
  spared.imp (fun _ _ h c => ⟨h.invalidated c.1 c.2, h.next c.1 c.2⟩) tracked_create

def adminToken (secret : String) (iat : Nat) : Token where
  secret
  claims := ⟨SYSTEM_DEFAULT_USER_ID, "admin", iat, iat + TOKEN_EXPIRY, JWT_ISSUER, JWT_AUDIENCE, 0⟩

/-- The password of the system user is changed, and the server started anew with what is stored. -/
theorem invalidated_token_rejected_changed :
    LTS.EnabledAll (Invalidated (adminToken "a" 0)) next (create false [] 0)
      [ .startUp none none "a" true true, .login SYSTEM_DEFAULT_USER_ID,
        .changePassword SYSTEM_DEFAULT_USER_ID "c" true true, .startUp none none "b" true true,
        .refresh (adminToken "a" 0), .logout (adminToken "a" 0), .tick (TOKEN_EXPIRY + 61), .cleanup,
        .startUp (some "a") none "e" true true ] :=
  invalidated_token_rejected _ _ _ _ _ (by decide)

def SecretBack (events : List AuthEvent) : Prop :=
  LTS.EnabledAll Possible next (create false [] 0) events ∧
    ¬ LTS.EnabledAll (Invalidated (adminToken "a" 0)) next (create false [] 0) events

/-- A start forgets that a token was logged out, and one that is given the secret of before undoes a change
of the password. -/
theorem blacklist_forgotten :
    SecretBack [ .startUp none none "a" true true, .login SYSTEM_DEFAULT_USER_ID,
      .logout (adminToken "a" 0), .startUp none none "b" true true ] ∧
    SecretBack [ .startUp (some "a") none "b" true true, .login SYSTEM_DEFAULT_USER_ID,
      .changePassword SYSTEM_DEFAULT_USER_ID "c" true true, .startUp (some "a") none "e" true true ] := by
  constructor
  all_goals
    refine ⟨by decide, fun ⟨_, _, _, last, _⟩ => ?_⟩
    exact last.rejected (by decide) (.new "a") (by decide) (by decide)

end AuthServer

end KiCore.Auth

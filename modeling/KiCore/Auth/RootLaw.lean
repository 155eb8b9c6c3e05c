import KiCore.Auth.Server

/-!
# The encryption root

The root is seeded once and then stored; an environment that names one goes before it and is not stored.
A command that stores the root of its environment needs no force. `root_stable` says that nothing else
changes the root between two starts, and that the commands see the root that a server would.
-/

namespace KiCore.Auth

open KiCore.Lib

lemma resolveEncryptionSecret_eq (env db : Option String) (seed : String) :
    resolveEncryptionSecret env db seed =
      (((normalize env).or (normalize db)).getD seed, ((normalize env).or (normalize db)).isNone) :=
  resolveJwtSecret_eq env db seed

lemma normalize_usable {usable : String} (old : Option String) (h : usable ≠ "") :
    (normalize old).getD usable ≠ "" := by
  cases found : normalize old with
  | none => exact h
  | some secret => exact (normalize_eq_some.mp found).2

lemma resolveJwtSecret_usable {env db : Option String} {generated : String} (usable : generated ≠ "") :
    (resolveJwtSecret env db generated).1 ≠ "" := by
  rw [resolveJwtSecret_eq]
  cases found : normalize env with
  | none => exact normalize_usable db usable
  | some secret => exact (normalize_eq_some.mp found).2

namespace Users

variable {users : Users} {id : String} {f : User → User}

def column (users : Users) : Option String :=
  normalize (users.ensureSystemUser.getSystemUser.bind User.encryptionSecret)

def HasSystemUser (users : Users) : Prop := users.ensureSystemUser.getSystemUser.isSome

instance : Decidable users.HasSystemUser := inferInstanceAs (Decidable (_ = true))

/-- The names that keep the row of the system user from being inserted. -/
def taken (users : Users) : Bool :=
  users.any fun user => user.id = SYSTEM_DEFAULT_USER_ID || user.username = some "admin"

lemma ensureSystemUser_eq (users : Users) :
    users.ensureSystemUser = if users.taken then users else users ++ [systemUser] :=
  rfl

lemma taken_ensureSystemUser : users.ensureSystemUser.taken := by
  rw [ensureSystemUser_eq]
  split_ifs with taken
  · exact taken
  · simp [Users.taken, systemUser]

@[simp] lemma ensureSystemUser_idem : users.ensureSystemUser.ensureSystemUser = users.ensureSystemUser := by
  rw [ensureSystemUser_eq users.ensureSystemUser, if_pos taken_ensureSystemUser]

lemma column_ensureSystemUser : users.ensureSystemUser.column = users.column := by
  rw [column, ensureSystemUser_idem, column]

structure KeepsNames (f : User → User) : Prop where
  id : ∀ user, (f user).id = user.id
  username : ∀ user, (f user).username = user.username

lemma KeepsNames.update (keeps : KeepsNames f) (id : String) :
    KeepsNames fun user => if user.id = id then f user else user := by
  constructor
  · intro user
    split_ifs <;> simp [keeps.id]
  · intro user
    split_ifs <;> simp [keeps.username]

lemma taken_update (keeps : KeepsNames f) : (users.update id f).taken = users.taken := by
  have same := keeps.update id
  simp only [taken, update, List.any_map, Function.comp_def, same.id, same.username]

lemma getSystemUser_update (keeps : KeepsNames f) : (users.update id f).getSystemUser =
    users.getSystemUser.map fun user => if user.id = id then f user else user := by
  have same := keeps.update id
  simp only [getSystemUser, findById, update, List.find?_map, Function.comp_def, same.id]

lemma getSystemUser_untaken (free : ¬ users.taken) : (users ++ [systemUser]).getSystemUser =
    some systemUser := by
  have absent : users.getSystemUser = none := by
    refine List.find?_eq_none.mpr fun user mem here => free ?_
    exact List.any_eq_true.mpr ⟨user, mem, by simp_all⟩
  rw [getSystemUser, findById] at absent ⊢
  rw [List.find?_append, absent]
  rfl

lemma getSystemUser_ensure_update (keeps : KeepsNames f) :
    (users.update id f).ensureSystemUser.getSystemUser.bind User.encryptionSecret =
      if users.taken then (users.getSystemUser.map fun user => if user.id = id then f user else user).bind
        User.encryptionSecret
      else none := by
  rw [ensureSystemUser_eq, taken_update keeps]
  split_ifs with taken
  · rw [getSystemUser_update keeps]
  · rw [getSystemUser_untaken (by rwa [taken_update keeps])]
    rfl

lemma column_update (keeps : KeepsNames f)
    (other : ∀ user, (f user).encryptionSecret = user.encryptionSecret) :
    (users.update id f).column = users.column := by
  have same : ∀ user, (if user.id = id then f user else user).encryptionSecret = user.encryptionSecret := by
    intro user
    split_ifs
    · exact other user
    · rfl
  rw [column, getSystemUser_ensure_update keeps, column, ensureSystemUser_eq]
  split_ifs with taken
  · cases users.getSystemUser with
    | none => rfl
    | some user => exact congrArg normalize (same user)
  · rw [getSystemUser_untaken taken]
    rfl

lemma hasSystemUser_update (keeps : KeepsNames f) :
    (users.update id f).HasSystemUser ↔ users.HasSystemUser := by
  unfold HasSystemUser
  rw [ensureSystemUser_eq, ensureSystemUser_eq, taken_update keeps]
  split_ifs with taken
  · rw [getSystemUser_update keeps, Option.isSome_map]
  · rw [getSystemUser_untaken (by rwa [taken_update keeps]), getSystemUser_untaken taken]

lemma keepsNames_jwt : KeepsNames fun user => { user with jwtSecret := some secret } := ⟨fun _ => rfl, fun _ => rfl⟩

lemma keepsNames_encryption : KeepsNames fun user => { user with encryptionSecret := some secret } :=
  ⟨fun _ => rfl, fun _ => rfl⟩

lemma isSome_updateJwtSecret :
    (users.updateJwtSecret id secret).getSystemUser.isSome = users.getSystemUser.isSome := by
  rw [updateJwtSecret, getSystemUser_update keepsNames_jwt, Option.isSome_map]

lemma hasSystemUser_updateJwtSecret : (users.updateJwtSecret id secret).HasSystemUser ↔ users.HasSystemUser :=
  hasSystemUser_update keepsNames_jwt

lemma column_updateJwtSecret : (users.updateJwtSecret id secret).column = users.column :=
  column_update keepsNames_jwt fun _ => rfl

lemma column_updateEncryptionSecret (has : users.getSystemUser.isSome) (usable : secret ≠ "") :
    (users.updateEncryptionSecret SYSTEM_DEFAULT_USER_ID secret).column = some secret := by
  obtain ⟨user, found⟩ := Option.isSome_iff_exists.mp has
  have taken : users.taken := by
    have mem := List.mem_of_find?_eq_some found
    have here := List.find?_some found
    exact List.any_eq_true.mpr ⟨user, mem, by simp_all⟩
  have here : user.id = SYSTEM_DEFAULT_USER_ID := by simpa using List.find?_some found
  rw [column, updateEncryptionSecret, getSystemUser_ensure_update keepsNames_encryption, if_pos taken, found]
  simp [here, normalize, usable]

end Users

namespace AuthServer

variable {s t : AuthServer} {e : AuthEvent} {users users' : Users} {stops : List HistoryEntry}
  {jwtEnv encryptionEnv env : Option String} {generated root newSecret : String}
  {jwtWritten encryptionWritten force written : Bool}

def since (stops history : List HistoryEntry) : List HistoryEntry := history.takeWhile (· ∉ stops)

/-- The root that a server would resolve, and where it comes from. -/
structure Resolved where
  root : String
  source : SecretSource

def wouldResolve (s : AuthServer) (encryptionEnv jwtEnv : Option String) (generated : String) : Resolved :=
  let user := s.users.ensureSystemUser.getSystemUser
  let (secret, isNew) := resolveJwtSecret jwtEnv (user.bind User.jwtSecret) generated
  let (root, seeded) := resolveEncryptionSecret encryptionEnv (user.bind User.encryptionSecret) secret
  { root
    source :=
      if (normalize encryptionEnv).isSome then .environment
      else if !seeded then .database
      else if !isNew then .seededFromSigning
      else .none }

structure StableRoot (stops : List HistoryEntry) (s : AuthServer) (e : AuthEvent) : Prop where
  /-- two starts with one value in the environment derive one root -/
  stable : ∀ env root earlier, (s.next e).history = .started env root :: s.history →
    .started env earlier ∈ since stops s.history → earlier = root
  /-- a secret is refused if it is not the root that a server would use -/
  guarded : ∀ encryptionEnv jwtEnv newSecret written generated,
    (s.persist encryptionEnv jwtEnv newSecret false written).2 = .error .alreadyExists ↔
      (s.wouldResolve encryptionEnv jwtEnv generated).source ≠ .none ∧
      (s.wouldResolve encryptionEnv jwtEnv generated).root ≠ newSecret
  /-- the status names the source of that root -/
  reported : ∀ encryptionEnv jwtEnv generated,
    (readSecretStatus s.users.ensureSystemUser.readDbRoots encryptionEnv jwtEnv).effectiveSource =
      (s.wouldResolve encryptionEnv jwtEnv generated).source

lemma wouldResolve_eq (s : AuthServer) (encryptionEnv jwtEnv : Option String) (generated : String) :
    (readSecretStatus s.users.ensureSystemUser.readDbRoots encryptionEnv jwtEnv).effectiveSource =
      (s.wouldResolve encryptionEnv jwtEnv generated).source ∧
    effectiveRoot s.users.ensureSystemUser.readDbRoots encryptionEnv jwtEnv =
      if (s.wouldResolve encryptionEnv jwtEnv generated).source = .none then none
      else some (s.wouldResolve encryptionEnv jwtEnv generated).root := by
  simp only [readSecretStatus, effectiveRoot, wouldResolve, Users.readDbRoots, effectiveJwtSeed,
    resolveEncryptionSecret_eq, resolveJwtSecret_eq]
  obtain env | ⟨root, env⟩ := Option.eq_none_or_eq_some (normalize encryptionEnv)
  · obtain stored | ⟨root, stored⟩ := Option.eq_none_or_eq_some
      (normalize (s.users.ensureSystemUser.getSystemUser.bind User.encryptionSecret))
    · obtain signing | ⟨seed, signing⟩ := Option.eq_none_or_eq_some ((normalize jwtEnv).or
        (normalize (s.users.ensureSystemUser.getSystemUser.bind User.jwtSecret)))
      · simp [env, stored, signing]
      · simp [env, stored, signing]
    · simp [env, stored]
  · simp [env]

lemma persistPlan_refuse {roots : DbRoots} :
    persistPlan roots encryptionEnv jwtEnv newSecret false = .refuse ↔
      ∃ root, effectiveRoot roots encryptionEnv jwtEnv = some root ∧ root ≠ newSecret := by
  unfold persistPlan
  rw [Bool.not_false, Bool.and_true]
  split_ifs with differs kept
  · simpa [Option.any_eq_true] using differs
  · simpa [Option.any_eq_true] using differs
  · simpa [Option.any_eq_true] using differs

lemma refused_iff : (s.persist encryptionEnv jwtEnv newSecret false written).2 = .error .alreadyExists ↔
    ∃ root, effectiveRoot s.users.ensureSystemUser.readDbRoots encryptionEnv jwtEnv = some root ∧
      root ≠ newSecret := by
  rw [← persistPlan_refuse, persist]
  dsimp only
  split
  case h_1 plan => simp [plan]
  case h_2 plan => simp [plan]
  case h_3 outcome plan => split_ifs <;> simp [plan]

lemma guarded : (s.persist encryptionEnv jwtEnv newSecret false written).2 = .error .alreadyExists ↔
    (s.wouldResolve encryptionEnv jwtEnv generated).source ≠ .none ∧
    (s.wouldResolve encryptionEnv jwtEnv generated).root ≠ newSecret := by
  rw [refused_iff, (wouldResolve_eq s encryptionEnv jwtEnv generated).2]
  split_ifs with generates
  · simp [generates]
  · simp [generates]

/-- The starts that count have taken the root of their environment, or the one that is stored. -/
structure Rooted (s : AuthServer) : Prop where
  has : s.users.HasSystemUser
  remembered : ∀ env root, .started env root ∈ since [.forced, .replaced] s.history →
    env = some root ∨ env = none ∧ s.users.column = some root

structure Starts (users users' : Users) (env : Option String) (result : Option (String × String)) : Prop where
  has : users'.HasSystemUser
  kept : ∀ stored, users.column = some stored → users'.column = some stored
  root : ∀ secret root, result = some (secret, root) →
    env = some root ∨ env = none ∧ users'.column = some root

lemma starts_resolveRoot {user : Option User} (has : users.HasSystemUser) (found : users.getSystemUser.isSome)
    (user_some : user.isSome) (same : normalize (user.bind User.encryptionSecret) = users.column)
    (usable : secret ≠ "") :
    Starts users (resolveRoot users user encryptionEnv secret encryptionWritten).1 (normalize encryptionEnv)
      (resolveRoot users user encryptionEnv secret encryptionWritten).2 := by
  unfold resolveRoot
  rw [resolveEncryptionSecret_eq, same, user_some]
  dsimp only
  cases env : normalize encryptionEnv with
  | some root =>
    refine ⟨has, fun _ => id, ?_⟩
    rintro _ _ ⟨⟩
    exact .inl rfl
  | none =>
    cases stored : users.column with
    | some root =>
      refine ⟨has, fun _ => id, ?_⟩
      rintro _ _ ⟨⟩
      exact .inr ⟨rfl, stored⟩
    | none =>
      have unstored : ∀ c, users.column ≠ some c := fun c => by simp [stored]
      dsimp
      split_ifs
      · refine ⟨(Users.hasSystemUser_update Users.keepsNames_encryption).mpr has, ?_, ?_⟩
        · exact fun c found => absurd found (unstored c)
        · rintro _ _ ⟨⟩
          exact .inr ⟨rfl, Users.column_updateEncryptionSecret found usable⟩
      · refine ⟨has, fun _ => id, ?_⟩
        rintro _ _ ⟨⟩

lemma Starts.of_column {users₁ users₂ : Users} {result : Option (String × String)}
    (h : Starts users₁ users' env result) (same : users₁.column = users₂.column) :
    Starts users₂ users' env result :=
  ⟨h.has, same ▸ h.kept, h.root⟩

lemma starts_resolveSecrets (has : users.HasSystemUser) (usable : generated ≠ "") :
    Starts users
      (resolveSecrets users.ensureSystemUser jwtEnv encryptionEnv generated jwtWritten encryptionWritten).1
      (normalize encryptionEnv)
      (resolveSecrets users.ensureSystemUser jwtEnv encryptionEnv generated jwtWritten
        encryptionWritten).2 := by
  have found : users.ensureSystemUser.getSystemUser.isSome := has
  have has' : users.ensureSystemUser.HasSystemUser := by
    rwa [Users.HasSystemUser, Users.ensureSystemUser_idem]
  have column := @Users.column_ensureSystemUser users
  have failed : Starts users users.ensureSystemUser (normalize encryptionEnv) none := by
    refine ⟨has', fun c stored => column.trans stored, ?_⟩
    rintro _ _ ⟨⟩
  unfold resolveSecrets
  dsimp only
  split_ifs
  · exact failed
  · refine Starts.of_column (starts_resolveRoot ?_ ?_ found ?_ (resolveJwtSecret_usable usable)) ?_
    · exact Users.hasSystemUser_updateJwtSecret.mpr has'
    · rwa [Users.isSome_updateJwtSecret]
    · rw [Users.column_updateJwtSecret, column]
      rfl
    · rw [Users.column_updateJwtSecret, column]
  · exact failed
  · exact Starts.of_column (starts_resolveRoot has' found found column.symm (resolveJwtSecret_usable usable))
      column

lemma since_started (history : List HistoryEntry) :
    since [.forced, .replaced] (.started env root :: history) =
      .started env root :: since [.forced, .replaced] history := by
  simp [since]

lemma Rooted.of_kept (h : Rooted s) (has : t.users.HasSystemUser)
    (kept : ∀ stored, s.users.column = some stored → t.users.column = some stored)
    (history : ∀ entry ∈ since [.forced, .replaced] t.history,
      entry ∈ since [.forced, .replaced] s.history) : Rooted t where
  has := has
  remembered env root mem :=
    (h.remembered env root (history _ mem)).imp_right fun ⟨absent, stored⟩ => ⟨absent, kept root stored⟩

lemma Rooted.startUp (h : Rooted s) (usable : generated ≠ "") :
    Rooted (s.startUp jwtEnv encryptionEnv generated jwtWritten encryptionWritten) := by
  have starts := @starts_resolveSecrets s.users jwtEnv encryptionEnv generated jwtWritten encryptionWritten
    h.has usable
  unfold AuthServer.startUp
  split
  case h_1 users resolved =>
    rw [resolved] at starts
    exact h.of_kept starts.has starts.kept fun _ => id
  case h_2 users secret root resolved =>
    rw [resolved] at starts
    refine ⟨starts.has, fun env earlier mem => ?_⟩
    rw [since_started, List.mem_cons] at mem
    obtain ⟨⟨⟩⟩ | mem := mem
    · exact starts.root secret root rfl
    · exact (h.remembered env earlier mem).imp_right fun ⟨absent, stored⟩ =>
        ⟨absent, starts.kept earlier stored⟩

lemma persistPlan_write {roots : DbRoots} {outcome : SecretWriteOutcome}
    (plan : persistPlan roots encryptionEnv jwtEnv newSecret force = .write outcome) :
    outcome = .overwritten ∨ roots.encryption = none := by
  unfold persistPlan at plan
  split_ifs at plan with refused kept stored
  · cases plan
    exact .inl rfl
  · exact .inr (Option.not_isSome_iff_eq_none.mp stored)

lemma has_ensureSystemUser (has : users.HasSystemUser) : users.ensureSystemUser.HasSystemUser := by
  rwa [Users.HasSystemUser, Users.ensureSystemUser_idem]

lemma Rooted.stop (has : t.users.HasSystemUser) (stops : since [.forced, .replaced] t.history = []) :
    Rooted t where
  has := has
  remembered env root mem := by simp [stops] at mem

lemma Rooted.opened (h : Rooted s) (history : List HistoryEntry)
    (same : since [.forced, .replaced] history = [] ∨ history = s.history) :
    Rooted { s with users := s.users.ensureSystemUser, history } := by
  obtain stops | rfl := same
  · exact .stop (has_ensureSystemUser h.has) stops
  · exact h.of_kept (has_ensureSystemUser h.has)
      (fun _ stored => Users.column_ensureSystemUser.trans stored) fun _ => id

lemma Rooted.persist (h : Rooted s) :
    Rooted (s.persist encryptionEnv jwtEnv newSecret force written).1 := by
  have same : since [.forced, .replaced] (if force then .forced :: s.history else s.history) = [] ∨
      (if force then .forced :: s.history else s.history) = s.history := by
    cases force
    · exact .inr rfl
    · exact .inl (by simp [since])
  unfold AuthServer.persist
  dsimp only
  generalize (if force then HistoryEntry.forced :: s.history else s.history) = history at same ⊢
  split
  case h_1 => exact h.opened history same
  case h_2 => exact h.opened history same
  case h_3 outcome plan =>
    split_ifs with wrote replaced
    · refine .stop ((Users.hasSystemUser_update Users.keepsNames_encryption).mpr ?_) (by simp [since])
      exact has_ensureSystemUser h.has
    · have absent : s.users.column = none := (persistPlan_write plan).resolve_left replaced
      have opened := h.opened history same
      refine opened.of_kept ((Users.hasSystemUser_update Users.keepsNames_encryption).mpr opened.has) ?_
        fun _ => id
      intro stored found
      rw [Users.column_ensureSystemUser, absent] at found
      cases found
    · exact h.opened history same

lemma Rooted.changePassword (h : Rooted s) {userId : String} {hashWritten secretWritten : Bool} :
    Rooted (s.changePassword userId newSecret hashWritten secretWritten) := by
  unfold AuthServer.changePassword
  split
  · split_ifs
    · exact h
    · exact ⟨h.has, h.remembered⟩
    · exact h.of_kept (Users.hasSystemUser_updateJwtSecret.mpr h.has)
        (fun _ stored => Users.column_updateJwtSecret.trans stored) fun _ => id
  · exact h

lemma Rooted.next (h : Rooted s) (possible : s.Possible e) : Rooted (s.next e) := by
  cases e with
  | startUp jwtEnv encryptionEnv generated jwtWritten encryptionWritten => exact h.startUp possible.1
  | login userId =>
    rw [AuthServer.next, login]
    split <;> exact ⟨h.has, h.remembered⟩
  | refresh token =>
    rw [AuthServer.next, refresh]
    split
    · exact h
    · split
      · exact h
      · split
        · exact h
        · split_ifs
          · exact h
          · exact h
          · exact ⟨h.has, h.remembered⟩
  | logout token =>
    rw [AuthServer.next, logout]
    split
    · exact h
    · exact ⟨h.has, h.remembered⟩
  | changePassword userId newSecret hashWritten secretWritten => exact h.changePassword
  | cleanup => exact ⟨h.has, h.remembered⟩
  | tick secs => exact ⟨h.has, h.remembered⟩
  | setSecret encryptionEnv jwtEnv newSecret force written =>
    rw [AuthServer.next, setSecret]
    split_ifs
    · exact h.opened _ (.inr rfl)
    · exact h.persist
  | generateSecret encryptionEnv jwtEnv generated force written => exact h.persist

lemma Rooted.stable (next : Rooted (s.next e)) {earlier : String}
    (started : (s.next e).history = .started env root :: s.history)
    (mem : .started env earlier ∈ since [.forced, .replaced] s.history) : earlier = root := by
  have last : .started env root ∈ since [.forced, .replaced] (s.next e).history := by
    rw [started, since_started]
    exact List.mem_cons_self
  have before : .started env earlier ∈ since [.forced, .replaced] (s.next e).history := by
    rw [started, since_started]
    exact List.mem_cons_of_mem _ mem
  obtain rfl | ⟨rfl, stored⟩ := next.remembered env root last
  · obtain same | ⟨absent, -⟩ := next.remembered _ earlier before
    · exact (Option.some.inj same).symm
    · cases absent
  · obtain same | ⟨-, stored'⟩ := next.remembered _ earlier before
    · cases same
    · exact Option.some.inj (stored'.symm.trans stored)

lemma Rooted.stableRoot (h : Rooted s) (possible : s.Possible e) :
    StableRoot [.forced, .replaced] s e where
  stable _ _ _ started mem := (h.next possible).stable started mem
  guarded _ _ _ _ _ := guarded
  reported encryptionEnv jwtEnv generated := (wouldResolve_eq s encryptionEnv jwtEnv generated).1

lemma rooted_create {aionproMode : Bool} {users : Users} {now : Nat} (has : users.HasSystemUser) :
    Rooted (create aionproMode users now) :=
  .stop has rfl

/-- In every run over a database that has, or gets, a row of the system user, two starts derive one root
unless the environment names another, or a command was forced or replaced the root that was stored by that of
its environment; the commands refuse what would change the root of a server, and report its source. -/
theorem root_stable (aionproMode : Bool) (users : Users) (now : Nat) (events : List AuthEvent)
    (has : users.HasSystemUser)
    (possible : LTS.EnabledAll Possible next (create aionproMode users now) events) :
    LTS.EnabledAll (StableRoot [.forced, .replaced]) next (create aionproMode users now) events :=
  possible.imp (fun _ _ h c => ⟨h.stableRoot c, h.next c⟩) (rooted_create has)

/-- A server is started, rotates its signing secret, and is started again. -/
theorem root_stable_rotated :
    LTS.EnabledAll (StableRoot [.forced, .replaced]) next (create false [] 0)
      [ .startUp none none "a" true true, .changePassword SYSTEM_DEFAULT_USER_ID "b" true true,
        .startUp (some "j") (some "") "c" true true, .generateSecret none none "d" false true,
        .setSecret (some "e") none "e" false true, .startUp none none "f" true true ] :=
  root_stable _ _ _ _ (by decide) (by decide)

/-- A command replaces the root that is stored by that of its own environment, without force; and without the
row of the system user each start generates a root. -/
theorem root_replaced :
    (¬ ∀ aionproMode users now events,
      LTS.EnabledAll Possible next (create aionproMode users now) events →
      LTS.EnabledAll (StableRoot [.forced]) next (create aionproMode users now) events) ∧
    ¬ ∀ aionproMode users now events,
      LTS.EnabledAll Possible next (create aionproMode users now) events →
      LTS.EnabledAll (StableRoot [.forced, .replaced]) next (create aionproMode users now) events := by
  constructor
  · intro h
    have stable := h false [] 0
      [ .startUp none none "a" true true, .setSecret (some "e") none "e" false true,
        .startUp none none "b" true true ] (by decide)
    obtain ⟨-, -, last, -⟩ := stable
    have same := last.stable none "e" "a" (by decide) (by decide)
    revert same
    decide
  · intro h
    have stable := h false [{ systemUser with id := "u" }] 0
      [.startUp none none "a" true true, .startUp none none "b" true true] (by decide)
    obtain ⟨-, last, -⟩ := stable
    have same := last.stable none "b" "a" (by decide) (by decide)
    revert same
    decide

end AuthServer

end KiCore.Auth

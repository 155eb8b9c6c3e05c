import KiCore.Channel.PairingService

/-!
# The pairing protocol

A call checks a code when it reads it and writes later, without a condition on what the row is by
then. `Current` says of a write that the row is still what the call takes it for: the code is
undecided, no approve has created the user of a code that is refused, the user has no other code.
The invariant `Tracked` is kept by every step that is current.
-/

namespace KiCore.Channel

open KiCore.Lib

def PairingCodeRow.Active (row : PairingCodeRow) (now : Nat) : Prop :=
  row.status = .pending ∧ now < row.expiresAt

/-- An approve that has created its user and is yet to mark its code. -/
def PairingCall.Approving (call : PairingCall) (code : Nat) : Prop :=
  call.request = .approve code ∧ call.stage = .markApproved

instance (row : PairingCodeRow) (now : Nat) : Decidable (row.Active now) :=
  inferInstanceAs (Decidable (_ ∧ _))

instance (call : PairingCall) (code : Nat) : Decidable (call.Approving code) :=
  inferInstanceAs (Decidable (_ ∧ _))

namespace PairingService

def Owns (s : PairingService) (code : Nat) (user : PlatformUser) : Prop :=
  ∃ row ∈ s.codes, row.code = code ∧ row.user = user

/-- A code is decided once; users are authorized by an approve of a code of theirs that is valid then, and
that ends approved unless its approve is still under way; a code that was refused authorizes nobody;
a user has one active code at most; and an approve that fails has written nothing. -/
structure PairingLaw (s : PairingService) : Prop where
  decidedOnce : (s.changes.map (·.code)).Nodup
  wasPending : ∀ change ∈ s.changes, change.before = .pending
  authorized : ∀ user ∈ s.users, ∃ grant ∈ s.granted, grant.user = user.id ∧ grant.valid = true ∧
    s.Owns grant.code user.user
  approved : ∀ grant ∈ s.granted, (∃ row ∈ s.codes, row.code = grant.code ∧ row.status = .approved) ∨
    ∃ call ∈ s.calls, call.Approving grant.code
  notRefused : ∀ grant ∈ s.granted, ∀ change ∈ s.changes, change.code = grant.code →
    change.after = .approved
  oneActive : ∀ row ∈ s.codes, ∀ row' ∈ s.codes, row.Active s.now → row'.Active s.now →
    row.user = row'.user → row.code = row'.code
  failedUnwritten : ∀ call ∈ s.calls, call.stage = .finished false → call.wrote = false

variable (s : PairingService)

/-- A refusal of a code changes nothing that is decided, and takes no code from an approve. -/
def Refusable (status : PairingStatus) (code : Nat) : Prop :=
  (∀ row ∈ s.codes, row.code = code → row.status = .pending ∨ row.status = status) ∧
    ∀ call ∈ s.calls, ¬ call.Approving code

def StillHolds (ok : Bool) (call : PairingCall) : Prop :=
  match call.request, call.stage with
  | .request _ _, .expireCode code _ => ok = true → s.Refusable .expired code
  | .request user _, .createPairing =>
    ok = true → ∀ row ∈ s.codes, row.user = user → ¬ row.Active s.now
  | .approve code, .createUser _ => ok = true → s.ValidNow code
  | .approve _, .markApproved => ok = true
  | .reject code, .markRejected => ok = true → s.Refusable .rejected code
  | .approve code, .markExpired | .reject code, .markExpired => ok = true → s.Refusable .expired code
  | _, _ => True

/-- Every write finds what its call has read; the timer expires no code whose user is there. -/
def Current : Event → Prop
  | .step k ok _ => ∀ call ∈ s.calls[k]?, s.StillHolds ok call
  | .cleanup now => ∀ call ∈ s.calls, ∀ row ∈ s.codes, call.Approving row.code → now < row.expiresAt
  | .tick _ | .call _ => True

instance (status : PairingStatus) (code : Nat) : Decidable (s.Refusable status code) :=
  inferInstanceAs (Decidable ((∀ row ∈ s.codes, _) ∧ ∀ call ∈ s.calls, _))

instance (ok : Bool) (call : PairingCall) : Decidable (s.StillHolds ok call) := by
  unfold StillHolds
  split <;> infer_instance

instance : (event : Event) → Decidable (s.Current event)
  | .step k ok _ => inferInstanceAs (Decidable (∀ call ∈ s.calls[k]?, s.StillHolds ok call))
  | .cleanup _ => inferInstanceAs (Decidable (∀ call ∈ s.calls, ∀ row ∈ s.codes, _))
  | .tick _ | .call _ => .isTrue trivial

/-- What carries `PairingLaw` from step to step. -/
structure Tracked (s : PairingService) : Prop where
  codes : (s.codes.map (·.code)).Nodup
  decidedOnce : (s.changes.map (·.code)).Nodup
  wasPending : ∀ change ∈ s.changes, change.before = .pending
  decided : ∀ change ∈ s.changes, change.after ≠ .pending ∧
    ∃ row ∈ s.codes, row.code = change.code ∧ row.status = change.after
  approving : ∀ call ∈ s.calls, ∀ code, call.Approving code →
    ∃ row ∈ s.codes, row.code = code ∧ (row.status = .pending ∨ row.status = .approved)
  authorized : ∀ user ∈ s.users, ∃ grant ∈ s.granted, grant.user = user.id ∧ grant.valid = true ∧
    s.Owns grant.code user.user
  granted : ∀ grant ∈ s.granted, (∃ row ∈ s.codes, row.code = grant.code ∧ row.status = .approved) ∨
    ∃ call ∈ s.calls, call.Approving grant.code
  oneActive : ∀ row ∈ s.codes, ∀ row' ∈ s.codes, row.Active s.now → row'.Active s.now →
    row.user = row'.user → row.code = row'.code
  wrote : ∀ call ∈ s.calls, call.wrote = true →
    call.stage = .finished true ∨ ∃ code, call.Approving code
  read : ∀ call ∈ s.calls, ∀ code row, call.request = .approve code → call.stage = .createUser row →
    s.Owns code row.user

variable {s : PairingService} {k code : Nat} {ok : Bool} {bytes : UInt32} {status : PairingStatus}
  {call call' : PairingCall} {row row' : PairingCodeRow} {event : Event} {stage : PairingStage}
  {p : PairingCodeRow → Bool}

lemma Tracked.sameRow (h : s.Tracked) (mem : row ∈ s.codes) (mem' : row' ∈ s.codes)
    (same : row.code = row'.code) : row = row' := by
  have found := Keyed.lookup_of_mem h.codes mem
  have found' := Keyed.lookup_of_mem h.codes mem'
  rw [same, found'] at found
  exact (Option.some.inj found).symm

lemma Tracked.known (h : s.Tracked) {change : StatusChange} (mem : row ∈ s.codes)
    (mem' : change ∈ s.changes) (same : change.code = row.code) :
    row.status = change.after ∧ row.status ≠ .pending := by
  obtain ⟨decided, row', there, same', status⟩ := h.decided change mem'
  obtain rfl := h.sameRow there mem (same'.trans same)
  exact ⟨status, status ▸ decided⟩

lemma Tracked.law (h : s.Tracked) : s.PairingLaw where
  decidedOnce := h.decidedOnce
  wasPending := h.wasPending
  authorized := h.authorized
  approved := h.granted
  notRefused grant mem change mem' same := by
    obtain ⟨row, there, rfl', approved⟩ | ⟨call, there, approving⟩ := h.granted grant mem
    · rw [← (h.known there mem' (same.trans rfl'.symm)).1, approved]
    · -- While the approve is under way, only itself can have decided the code.
      obtain ⟨row, there, rfl', pending | approved⟩ := h.approving call there grant.code approving
      · exact absurd pending (h.known there mem' (same.trans rfl'.symm)).2
      · rw [← (h.known there mem' (same.trans rfl'.symm)).1, approved]
  oneActive := h.oneActive
  failedUnwritten call mem failed := by
    cases wrote : call.wrote with
    | false => rfl
    | true =>
      obtain finished | ⟨code, approving⟩ := h.wrote call mem wrote
      · exact nomatch failed.symm.trans finished
      · exact nomatch failed.symm.trans approving.2

lemma Tracked.moved (h : s.Tracked) (call' : PairingCall) (there : s.calls[k]? = some call)
    (marked : ∀ code, call.Approving code → ∃ row ∈ s.codes, row.code = code ∧ row.status = .approved)
    (approving : ∀ code, ¬ call'.Approving code)
    (wrote : call'.wrote = true → call'.stage = .finished true)
    (read : ∀ code row, call'.request = .approve code → call'.stage = .createUser row →
      s.Owns code row.user) : Tracked { s with calls := s.calls.set k call' } where
  codes := h.codes
  decidedOnce := h.decidedOnce
  wasPending := h.wasPending
  decided := h.decided
  approving := Pool.forall_set h.approving fun code here => absurd here (approving code)
  authorized := h.authorized
  granted grant mem := by
    obtain approved | others := h.granted grant mem
    · exact .inl approved
    · obtain own | others := Pool.exists_of_set there others
      · exact .inl (marked grant.code own)
      · exact .inr others
  oneActive := h.oneActive
  wrote := Pool.forall_set h.wrote fun here => .inl (wrote here)
  read := Pool.forall_set h.read read

lemma setStatus_keys : (s.setStatus p status).codes.map (·.code) = s.codes.map (·.code) := by
  rw [PairingService.setStatus, List.map_map]
  apply List.map_congr_left
  intro row _
  change (if p row then _ else _ : PairingCodeRow).code = _
  split <;> rfl

lemma mem_changes_setStatus {change : StatusChange} : change ∈ (s.setStatus p status).changes ↔
    change ∈ s.changes ∨ ∃ row ∈ s.codes, (p row = true ∧ row.status ≠ status) ∧
      { code := row.code, before := row.status, after := status } = change := by
  simp only [PairingService.setStatus, List.mem_append, List.mem_map, List.mem_filter, Bool.and_eq_true,
    decide_eq_true_eq, and_assoc]

lemma setStatus_kept
    (undecided : ∀ row ∈ s.codes, p row = true → row.status = .pending ∨ row.status = status)
    (there : row ∈ s.codes) : ∃ row' ∈ (s.setStatus p status).codes,
      row'.code = row.code ∧ (row.status ≠ .pending → row'.status = row.status) := by
  refine ⟨_, List.mem_map.mpr ⟨row, there, rfl⟩, ?_⟩
  split
  case isTrue chosen =>
    refine ⟨rfl, fun decided => ?_⟩
    exact ((undecided row there chosen).resolve_left decided).symm
  case isFalse => exact ⟨rfl, fun _ => rfl⟩

lemma Owns.setStatus {user : PlatformUser} (owns : s.Owns code user) :
    (s.setStatus p status).Owns code user := by
  obtain ⟨row, there, same, user⟩ := owns
  refine ⟨_, List.mem_map.mpr ⟨row, there, rfl⟩, ?_⟩
  split <;> exact ⟨same, user⟩

/-- An `UPDATE` that finds its rows undecided, or already so. -/
lemma Tracked.setStatus (h : s.Tracked)
    (undecided : ∀ row ∈ s.codes, p row = true → row.status = .pending ∨ row.status = status)
    (free : status ≠ .pending ∧ (status = .approved ∨
      ∀ row ∈ s.codes, p row = true → ∀ call ∈ s.calls, ¬ call.Approving row.code)) :
    (s.setStatus p status).Tracked where
  codes := by
    rw [setStatus_keys]
    exact h.codes
  decidedOnce := by
    rw [PairingService.setStatus, List.map_append, List.map_map]
    refine List.nodup_append.mpr ⟨h.decidedOnce, h.codes.sublist (List.filter_sublist.map _), ?_⟩
    rintro code old _ new rfl
    obtain ⟨change, mem, rfl⟩ := List.mem_map.mp old
    obtain ⟨row, mem', same⟩ := List.mem_map.mp new
    obtain ⟨there, changed⟩ := List.mem_filter.mp mem'
    rw [Bool.and_eq_true, decide_eq_true_eq] at changed
    obtain pending | already := undecided row there changed.1
    · exact (h.known there mem same.symm).2 pending
    · exact changed.2 already
  wasPending := by
    intro change mem
    obtain old | ⟨row, there, ⟨chosen, differs⟩, rfl⟩ := mem_changes_setStatus.mp mem
    · exact h.wasPending change old
    · exact (undecided row there chosen).resolve_right differs
  decided := by
    intro change mem
    obtain old | ⟨row, there, ⟨chosen, -⟩, rfl⟩ := mem_changes_setStatus.mp mem
    · obtain ⟨decided, row, there, same, status'⟩ := h.decided change old
      obtain ⟨row', there', same', kept⟩ := setStatus_kept undecided there
      exact ⟨decided, row', there', same'.trans same, (kept (status' ▸ decided)).trans status'⟩
    · refine ⟨free.1, _, List.mem_map.mpr ⟨row, there, rfl⟩, ?_⟩
      rw [if_pos chosen]
      exact ⟨rfl, rfl⟩
  approving := by
    intro call mem code approving
    obtain ⟨row, there, rfl, undecided'⟩ := h.approving call mem code approving
    refine ⟨_, List.mem_map.mpr ⟨row, there, rfl⟩, ?_⟩
    split <;> rename_i chosen
    · obtain rfl | none_ := free.2
      · exact ⟨rfl, .inr rfl⟩
      · exact absurd approving (none_ row there chosen call mem)
    · exact ⟨rfl, undecided'⟩
  authorized user mem := by
    obtain ⟨grant, there, same, valid, owns⟩ := h.authorized user mem
    exact ⟨grant, there, same, valid, owns.setStatus⟩
  granted := by
    intro grant mem
    obtain ⟨row, there, same, approved⟩ | others := h.granted grant mem
    · obtain ⟨row', there', same', kept⟩ := setStatus_kept undecided there
      refine .inl ⟨row', there', same'.trans same, (kept ?_).trans approved⟩
      rw [approved]
      exact nofun
    · exact .inr others
  oneActive := by
    have before : ∀ row' ∈ (s.setStatus p status).codes, row'.Active s.now → row' ∈ s.codes := by
      intro row' mem active
      obtain ⟨row, there, rfl⟩ := List.mem_map.mp mem
      split at active <;> rename_i chosen
      · exact absurd active.1 free.1
      · rwa [if_neg chosen]
    intro row mem row' mem' active active'
    exact h.oneActive row (before row mem active) row' (before row' mem' active') active active'
  wrote := h.wrote
  read call mem code row own reads := (h.read call mem code row own reads).setStatus

lemma hasCode_iff : s.hasCode code = true ↔ ∃ row ∈ s.codes, row.code = code := by
  rw [hasCode, List.any_eq_true]
  exact exists_congr fun row => and_congr_right fun _ => decide_eq_true_iff

section

variable (h : s.Tracked)
include h

lemma Tracked.createPairing {user : PlatformUser} {displayName : Option String}
    (fresh : s.hasCode code ≠ true) (alone : ∀ row ∈ s.codes, row.user = user → ¬ row.Active s.now) :
    (s.createPairing user displayName code).Tracked := by
  have more : ∀ row ∈ s.codes, row ∈ (s.createPairing user displayName code).codes :=
    fun row mem => List.mem_append_left _ mem
  have owns {code' : Nat} {user' : PlatformUser} :
      s.Owns code' user' → (s.createPairing user displayName code).Owns code' user' :=
    fun ⟨row, mem, owns⟩ => ⟨row, more row mem, owns⟩
  exact {
    codes := by
      rw [PairingService.createPairing, List.map_append, List.map_singleton]
      refine List.nodup_append.mpr ⟨h.codes, List.nodup_singleton _, ?_⟩
      rintro _ old _ new rfl
      obtain ⟨row, mem, same⟩ := List.mem_map.mp old
      exact fresh (hasCode_iff.mpr ⟨row, mem, same.trans (List.mem_singleton.mp new)⟩)
    decidedOnce := h.decidedOnce
    wasPending := h.wasPending
    decided := by
      intro change mem
      obtain ⟨decided, row, there, known⟩ := h.decided change mem
      exact ⟨decided, row, more row there, known⟩
    approving := by
      intro call mem code approving
      obtain ⟨row, there, known⟩ := h.approving call mem code approving
      exact ⟨row, more row there, known⟩
    authorized user mem := by
      obtain ⟨grant, there, same, valid, own⟩ := h.authorized user mem
      exact ⟨grant, there, same, valid, owns own⟩
    granted := by
      intro grant mem
      obtain ⟨row, there, known⟩ | others := h.granted grant mem
      · exact .inl ⟨row, more row there, known⟩
      · exact .inr others
    oneActive := by
      intro row mem row' mem' active active' same
      obtain old | new := List.mem_append.mp mem <;> obtain old' | new' := List.mem_append.mp mem'
      · exact h.oneActive row old row' old' active active' same
      · obtain rfl := List.mem_singleton.mp new'
        exact absurd active (alone row old same)
      · obtain rfl := List.mem_singleton.mp new
        exact absurd active' (alone row' old' same.symm)
      · rw [List.mem_singleton.mp new, List.mem_singleton.mp new']
    wrote := h.wrote
    read call mem code row own reads := owns (h.read call mem code row own reads) }

variable (there : s.calls[k]? = some call)
include there

lemma Tracked.createUser
    (own : call.request = .approve code) (unmarked : call.stage = .createUser row)
    (valid : s.ValidNow code) :
    ((s.createUser code row).move k { call with wrote := true } .markApproved).Tracked where
  codes := h.codes
  decidedOnce := h.decidedOnce
  wasPending := h.wasPending
  decided := h.decided
  approving := by
    refine Pool.forall_set h.approving fun code' approving => ?_
    obtain rfl : code = code' := by
      have same := own.symm.trans approving.1
      injection same
    obtain ⟨row, there, same, pending, _⟩ := valid
    exact ⟨row, there, same, .inl pending⟩
  authorized := by
    intro user mem
    obtain old | new := List.mem_append.mp mem
    · obtain ⟨grant, there, known⟩ := h.authorized user old
      exact ⟨grant, List.mem_append_left _ there, known⟩
    · obtain rfl := List.mem_singleton.mp new
      exact ⟨_, List.mem_append_right _ (List.mem_singleton_self _), rfl, decide_eq_true valid,
        h.read call (List.mem_of_getElem? there) code row own unmarked⟩
  granted := by
    intro grant mem
    obtain old | new := List.mem_append.mp mem
    · obtain approved | others := h.granted grant old
      · exact .inl approved
      · obtain own' | others := Pool.exists_of_set there others
        · exact nomatch unmarked.symm.trans own'.2
        · exact .inr others
    · obtain rfl := List.mem_singleton.mp new
      exact .inr ⟨_, Pool.mem_set_self there, own, rfl⟩
  oneActive := h.oneActive
  wrote := Pool.forall_set h.wrote fun _ => .inr ⟨code, own, rfl⟩
  read := Pool.forall_set h.read nofun

lemma Tracked.move (unmarked : call.stage ≠ .markApproved)
    (unfinished : call.stage ≠ .finished true) (stage : PairingStage) (plain : stage ≠ .markApproved)
    (read : ∀ code row, call.request = .approve code → stage = .createUser row → s.Owns code row.user) :
    (s.move k call stage).Tracked := by
  refine h.moved _ there (fun code approving => absurd approving.2 unmarked)
    (fun code approving => plain approving.2) (fun wrote => ?_) read
  obtain finished | ⟨code, approving⟩ := h.wrote call (List.mem_of_getElem? there) wrote
  · exact absurd finished unfinished
  · exact absurd approving.2 unmarked

lemma Tracked.refuse
    (unmarked : call.stage ≠ .markApproved) (unfinished : call.stage ≠ .finished true)
    (plain : stage ≠ .markApproved ∧ ∀ row, stage ≠ .createUser row) (refusing : status ≠ .pending)
    (holds : s.Refusable status code) :
    (s.update k call code status stage).Tracked := by
  rw [update]
  split
  · refine Tracked.move (h.setStatus ?_ ⟨refusing, .inr ?_⟩) there unmarked unfinished stage plain.1
      fun _ row _ reads => absurd reads (plain.2 row)
    · intro row mem chosen
      exact holds.1 row mem (of_decide_eq_true chosen)
    · intro row mem chosen call mem'
      rw [of_decide_eq_true chosen]
      exact holds.2 call mem'
  · exact h.move there unmarked unfinished _ nofun nofun

lemma Tracked.markApproved
    (own : call.request = .approve code) (marks : call.stage = .markApproved) :
    (s.update k call code .approved (.finished true)).Tracked := by
  obtain ⟨row, mem, same, undecided⟩ :=
    h.approving call (List.mem_of_getElem? there) code ⟨own, marks⟩
  have tracked : (s.updatePairingStatus code .approved).Tracked := by
    refine h.setStatus (fun row' mem' chosen => ?_) ⟨nofun, .inl rfl⟩
    obtain rfl := h.sameRow mem mem' (same.trans (of_decide_eq_true chosen).symm)
    exact undecided
  rw [update, if_pos (hasCode_iff.mpr ⟨row, mem, same⟩)]
  refine tracked.moved { call with stage := .finished true } there (fun code' approving => ?_)
    (fun code' approving => nomatch approving.2) (fun _ => rfl) nofun
  obtain rfl : code = code' := by
    have same := own.symm.trans approving.1
    injection same
  refine ⟨_, List.mem_map.mpr ⟨row, mem, rfl⟩, ?_⟩
  rw [if_pos (decide_eq_true same)]
  exact ⟨same, rfl⟩

end

lemma expireStage_plain (codes : List Nat) :
    expireStage codes ≠ .markApproved ∧ ∀ row, expireStage codes ≠ .createUser row := by
  cases codes <;> exact ⟨nofun, nofun⟩

lemma selectedStage_plain {next : PairingCodeRow → PairingStage} (plain : ∀ row, next row ≠ .markApproved)
    (found : Option PairingCodeRow) : s.selectedStage next found ≠ .markApproved := by
  unfold selectedStage
  split
  · exact nofun
  · split_ifs
    · exact nofun
    · exact nofun
    · exact plain _

lemma selectedStage_read {found : Option PairingCodeRow}
    (reads : s.selectedStage .createUser found = .createUser row) : found = some row := by
  unfold selectedStage at reads
  split at reads
  · cases reads
  · split_ifs at reads
    cases reads
    rfl

lemma Tracked.advance (h : s.Tracked) (there : s.calls[k]? = some call)
    (holds : s.StillHolds true call) : (s.advance k call bytes).Tracked := by
  obtain ⟨request, stage, wrote⟩ := call
  cases request with
  | request user displayName =>
    cases stage with
    | getPendingPairings => exact h.move there nofun nofun _ (expireStage_plain _).1 nofun
    | expireCode code rest => exact h.refuse there nofun nofun (expireStage_plain _) nofun (holds rfl)
    | createPairing =>
      unfold PairingService.advance
      dsimp only
      split_ifs with taken
      · exact h.move there nofun nofun _ nofun nofun
      · exact (h.createPairing taken (holds rfl)).move there nofun nofun _ nofun nofun
    | getPairingByCode | markExpired | createUser | markApproved | markRejected | finished => exact h
  | approve code =>
    cases stage with
    | getPairingByCode =>
      refine h.move there nofun nofun _ (selectedStage_plain (by exact fun _ => nofun) _) ?_
      rintro _ row ⟨⟩ reads
      have found := selectedStage_read reads
      exact ⟨row, Keyed.mem_of_lookup found, Keyed.lookup_key found, rfl⟩
    | markExpired => exact h.refuse there nofun nofun ⟨nofun, nofun⟩ nofun (holds rfl)
    | createUser row =>
      unfold PairingService.advance
      dsimp only
      split_ifs with taken
      · exact h.move there nofun nofun _ nofun nofun
      · exact h.createUser there rfl rfl (holds rfl)
    | markApproved => exact h.markApproved there rfl rfl
    | getPendingPairings | expireCode | createPairing | markRejected | finished => exact h
  | reject code =>
    cases stage with
    | getPairingByCode =>
      exact h.move there nofun nofun _ (selectedStage_plain (by exact fun _ => nofun) _) nofun
    | markExpired => exact h.refuse there nofun nofun ⟨nofun, nofun⟩ nofun (holds rfl)
    | markRejected => exact h.refuse there nofun nofun ⟨nofun, nofun⟩ nofun (holds rfl)
    | getPendingPairings | expireCode | createPairing | createUser | markApproved | finished => exact h

lemma Tracked.fail (h : s.Tracked) (there : s.calls[k]? = some call)
    (unfinished : call.stage ≠ .finished true) (holds : s.StillHolds false call) :
    (s.move k call (.finished false)).Tracked := by
  refine h.moved _ there (fun code approving => ?_) (fun code approving => nomatch approving.2)
    (fun wrote => ?_) nofun
  · rw [StillHolds, approving.1, approving.2] at holds
    cases holds
  · obtain finished | ⟨code, approving⟩ := h.wrote call (List.mem_of_getElem? there) wrote
    · exact absurd finished unfinished
    · rw [StillHolds, approving.1, approving.2] at holds
      cases holds

lemma Tracked.tick (h : s.Tracked) (ms : Nat) : (s.next (.tick ms)).Tracked where
  codes := h.codes
  decidedOnce := h.decidedOnce
  wasPending := h.wasPending
  decided := h.decided
  approving := h.approving
  authorized := h.authorized
  granted := h.granted
  oneActive row mem row' mem' active active' :=
    h.oneActive row mem row' mem' ⟨active.1, (Nat.le_add_right _ ms).trans_lt active.2⟩
      ⟨active'.1, (Nat.le_add_right _ ms).trans_lt active'.2⟩
  wrote := h.wrote
  read := h.read

lemma firstStage_plain (request : PairingRequest) : firstStage request ≠ .markApproved := by
  cases request <;> exact nofun

lemma Tracked.arrive (h : s.Tracked) (request : PairingRequest) : (s.next (.call request)).Tracked where
  codes := h.codes
  decidedOnce := h.decidedOnce
  wasPending := h.wasPending
  decided := h.decided
  approving := Pool.forall_append h.approving fun code approving =>
    absurd approving.2 (firstStage_plain request)
  authorized := h.authorized
  granted grant mem := by
    obtain approved | ⟨call, there, approving⟩ := h.granted grant mem
    · exact .inl approved
    · exact .inr ⟨call, List.mem_append_left _ there, approving⟩
  oneActive := h.oneActive
  wrote := Pool.forall_append h.wrote nofun
  read := Pool.forall_append h.read fun _ row _ reads => absurd reads (by cases request <;> exact nofun)

lemma Tracked.cleanup (h : s.Tracked) {now : Nat} (current : s.Current (.cleanup now)) :
    (s.cleanupExpiredPairings now).Tracked := by
  refine h.setStatus (fun row mem chosen => ?_)
      ⟨nofun, .inr fun row mem chosen call mem' approving => ?_⟩ <;>
    rw [Bool.and_eq_true, decide_eq_true_eq, decide_eq_true_eq] at chosen
  · exact .inl chosen.1
  · exact absurd (current call mem' row mem approving) (not_lt_of_ge chosen.2)

lemma Tracked.next (h : s.Tracked) (current : s.Current event) : (s.next event).Tracked := by
  cases event with
  | tick ms => exact h.tick ms
  | call request => exact h.arrive request
  | cleanup now =>
    rw [PairingService.next]
    split_ifs
    · exact h.cleanup current
    · exact h
  | step k ok bytes =>
    rw [PairingService.next]
    cases there : s.calls[k]? with
    | none => exact h
    | some call =>
      have holds := current call there
      rw [Option.elim_some]
      split_ifs with finished succeeds
      · exact h
      · exact h.advance there (succeeds ▸ holds)
      · exact h.fail there finished (Bool.eq_false_of_not_eq_true succeeds ▸ holds)

lemma Tracked.start : start.Tracked where
  codes := List.nodup_nil
  decidedOnce := List.nodup_nil
  wasPending := List.forall_mem_nil _
  decided := List.forall_mem_nil _
  approving := List.forall_mem_nil _
  authorized := List.forall_mem_nil _
  granted := List.forall_mem_nil _
  oneActive := List.forall_mem_nil _
  wrote := List.forall_mem_nil _
  read := List.forall_mem_nil _

end PairingService

end KiCore.Channel

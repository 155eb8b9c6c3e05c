import KiCore.Team.Coordinator.LateStart
import KiCore.Team.Coordinator.Publish

/-!
# After the end of a slot and of the session

`stop` and `remove_slot` end all live work, of every slot and of one slot. They record the end in the
slots they know, as a constraint and as a flag, and the enqueue gate is the one place where the record
is read. So what is ended stays ended as long as no enqueue finds an open gate and no reconcile finds
an unread row: `stop_permanent_iff` for the session, `removed_forever_iff` for a slot.
-/

namespace KiCore.Team

open KiCore.Lib

namespace SlotWorkCoordinator

variable {c : SlotWorkCoordinator} {st : CoordinatorState} {σ : Tracked} {s k : String}
  {i : WorkIntent} {op : Op} {ops : List Op} {record : EnqueueLeaseRecord}

/-- The enqueue gate of a slot is closed: the slot is known, and was removed or has a runtime that
takes no work. -/
def GateClosed (state : CoordinatorState) (slotId : String) : Prop :=
  ∃ slot, state.slots[slotId]? = some slot ∧
    (slot.removed = true ∨ match slot.runtimeConstraint with
      | .failed _ _ | .removing _ | .sessionStopped => True
      | .ready | .starting _ => False)

lemma validate_error_iff {request : EnqueueRequest} :
    (∃ error, validateEnqueueConstraint request.slotId (requestedSlot st request) = .error error) ↔
      GateClosed st request.slotId := by
  unfold validateEnqueueConstraint GateClosed requestedSlot CoordinatorState.slotOrNew
  cases hs : st.slots[request.slotId]? with
  | none => simp [SlotState.new]
  | some slot =>
    simp only [Option.getD_some, Option.some.injEq, exists_eq_left']
    cases slot.removed with
    | true => simp
    | false => cases slot.runtimeConstraint <;> simp

lemma leases_acquireEnqueue (c : SlotWorkCoordinator) (st : CoordinatorState)
    (request : EnqueueRequest) (answer : RunBinding) :
    (GateClosed st request.slotId ∧
      (exec c st (.acquireEnqueue request answer)).1.enqueueLeases = st.enqueueLeases) ∨
    (¬ GateClosed st request.slotId ∧ ∃ record, record.lease.slotId = request.slotId ∧
      (exec c st (.acquireEnqueue request answer)).1.enqueueLeases =
        st.enqueueLeases.insert (c.generateId st.ticks) record) := by
  show _ ∧ (acquireEnqueue c (.answering answer) () st request).2.1.enqueueLeases = _ ∨
    _ ∧ ∃ record, _ ∧ (acquireEnqueue c (.answering answer) () st request).2.1.enqueueLeases = _
  rw [← validate_error_iff]
  unfold acquireEnqueue requestedSlot
  dsimp only
  cases validateEnqueueConstraint request.slotId
      { st.slotOrNew request.slotId request.role with role := request.role } with
  | error error => exact .inl ⟨⟨error, rfl⟩, rfl⟩
  | ok _ => exact .inr ⟨nofun, _, rfl, rfl⟩

lemma recoverAll_keeps {role : TeamRunTargetRole} {ms : List String} {n : Nat}
    {acc : CoordinatorState × List String} (old : n < acc.1.ticks) :
    (ms.foldl (recoverMessage c s role) acc).1.intents[c.generateId n]? =
      acc.1.intents[c.generateId n]? := by
  induction ms generalizing acc with
  | nil => rfl
  | cons m ms ih =>
    rw [List.foldl_cons, ih (old.trans_le recoverMessage_ticks)]
    unfold recoverMessage
    dsimp only
    split
    · rfl
    · refine (Table.get_insert ..).trans (if_neg fun e => ?_)
      have := c.generateId_injective e
      omega

lemma reconcile_creates {role : TeamRunTargetRole} {m : String} {ms stale : List String}
    (free : alreadyOwned (clearedState st s (m :: ms) role stale) s m = false) :
    ∃ i, (reconcileMailboxSnapshot c st s (m :: ms) role stale).state.intents[c.generateId st.ticks]? =
        some i ∧ i.slotId = s ∧ i.state = .queued := by
  have first : (recoverMessage c s role (clearedState st s (m :: ms) role stale, []) m).1 =
      { (clearedState st s (m :: ms) role stale).tick.modifySlot s
          (·.pushBack .background (c.generateId st.ticks)) with
        intents := (clearedState st s (m :: ms) role stale).intents.insert (c.generateId st.ticks)
          (recoveryIntent c (clearedState st s (m :: ms) role stale) s role m) } := by
    unfold recoverMessage
    dsimp only
    rw [free]
    rfl
  rw [reconcile_state, List.foldl_cons, recoverAll_keeps, first]
  · exact ⟨_, (Table.get_insert ..).trans (if_pos rfl), rfl, rfl⟩
  · rw [first]
    exact Nat.lt_succ_self _

/-- The slot has no lease and no live intent, and nothing can be claimed for it. -/
structure Shut (c : SlotWorkCoordinator) (slotId : String) (σ : Tracked) : Prop where
  leases : ∀ (k : String) (record : EnqueueLeaseRecord), σ.state.enqueueLeases[k]? = some record →
    record.lease.slotId ≠ slotId
  intents : ∀ (k : String) (i : WorkIntent), σ.state.intents[k]? = some i → i.slotId = slotId →
    i.state.isTerminal = true
  unclaimed : ∀ batch, (next c σ.state slotId).result ≠ .claim batch

/-- The operation finds no open gate of the slot, and no unread row. -/
def KeepsShut (slotId : String) (state : CoordinatorState) : Op → Prop
  | .acquireEnqueue request _ => request.slotId = slotId → GateClosed state slotId
  | .reconcileMailboxSnapshot s unread _ _ => s = slotId → unread = []
  | _ => True

lemma unclaimed_of_terminal (pt : (board st).Partitioned)
    (intents : ∀ (k : String) (i : WorkIntent), st.intents[k]? = some i → i.slotId = s →
      i.state.isTerminal = true) (batch : WorkBatch) : (next c st s).result ≠ .claim batch := by
  intro h
  rcases next_cases c st s with ⟨b, result, _, claims⟩ | ⟨result, _⟩
  · obtain ⟨k, hk⟩ := List.exists_mem_of_ne_nil _ claims.nonempty
    obtain ⟨i, hi, hq, hs, _⟩ := (mem_lane pt).mp (claims.lane.subset hk)
    have term := intents k i hi hs
    rw [hq] at term
    cases term
  · exact result batch h

lemma allLive_slot : ((board st).AllLive fun _ a => a.slotId ≠ s) ↔
    ∀ (k : String) (i : WorkIntent), st.intents[k]? = some i → i.slotId = s →
      i.state.isTerminal = true := by
  rw [allLive_iff fun _ => Iff.rfl]
  refine forall₃_congr fun k i _ => ?_
  cases i.state.isTerminal <;> simp

lemma not_alreadyOwned_cleared (pt : (board st).Partitioned)
    (intents : ∀ (k : String) (i : WorkIntent), st.intents[k]? = some i → i.slotId = s →
      i.state.isTerminal = true) (m : String) (unread : List String) (role : TeamRunTargetRole)
    (stale : List String) : alreadyOwned (clearedState st s unread role stale) s m = false := by
  have cleared : (board (clearedState st s unread role stale)).AllLive fun _ a => a.slotId ≠ s :=
    (allLive_slot.mpr intents).moves pt (clearedState_effect (G := fun _ _ _ => False) pt).moves
      fun _ _ _ h => h.elim
  cases owned : alreadyOwned (clearedState st s unread role stale) s m with
  | false => rfl
  | true =>
    obtain ⟨k, a, p, e, live, hs, _⟩ := alreadyOwned_iff.mp owned
    exact absurd hs (cleared k a p e live)

lemma enters_elsewhere {d : CoordinatorBoard} {a : WorkIntent} (shut : Shut c s σ)
    (keeps : KeepsShut s σ.state op) (g : opGuard c σ.state op d k a) : a.slotId ≠ s := by
  cases op with
  | commitEnqueue lease messageId =>
    obtain ⟨⟨slot, ok⟩, _, _, rfl⟩ := g
    obtain ⟨⟨record, hr, rfl⟩, _⟩ := checkCommit_ok ok
    exact shut.leases _ record hr
  | reconcileMailboxSnapshot slotId unread role stale =>
    obtain ⟨_, _, hs, _, m, hm, _⟩ := g
    rintro rfl
    rw [keeps hs.symm] at hm
    cases hm
  | _ => exact g.elim

/-- A slot without work stays without work exactly if no gate is open and no row is unread. -/
lemma shut_step (inv : Inv c σ) (allowed : Allowed σ op) (shut : Shut c s σ) :
    Shut c s (track c σ op) ↔ KeepsShut s σ.state op := by
  have pt := inv.sound.partitioned
  have inv' : Inv c (track c σ op) := inv.track allowed
  constructor
  · intro shut'
    cases op with
    | acquireEnqueue request answer =>
      rintro rfl
      rcases leases_acquireEnqueue c _ request answer with ⟨closed, _⟩ | ⟨_, record, hs, e⟩
      · exact closed
      · refine absurd hs (shut'.leases (c.generateId σ.state.ticks) record ?_)
        rw [show (track c σ (.acquireEnqueue request answer)).state.enqueueLeases = _ from e]
        exact (Table.get_insert ..).trans (if_pos rfl)
    | reconcileMailboxSnapshot slotId unread role stale =>
      rintro rfl
      cases unread with
      | nil => rfl
      | cons m ms =>
        obtain ⟨i, hi, hs, hq⟩ := reconcile_creates (c := c)
          (not_alreadyOwned_cleared pt shut.intents m (m :: ms) role stale)
        have term := shut'.intents _ i hi hs
        rw [hq] at term
        cases term
    | _ => trivial
  · intro keeps
    have live : (board (track c σ op).state).AllLive fun _ a => a.slotId ≠ s :=
      (allLive_slot.mpr shut.intents).moves pt (exec_moves inv allowed)
        fun _ _ _ g => enters_elsewhere shut keeps g
    have intents : ∀ (k : String) (i : WorkIntent), (track c σ op).state.intents[k]? = some i →
        i.slotId = s → i.state.isTerminal = true := allLive_slot.mp live
    refine ⟨fun k record h => ?_, intents, unclaimed_of_terminal inv'.sound.partitioned intents⟩
    by_cases acquire : ∃ request answer, op = .acquireEnqueue request answer
    · obtain ⟨request, answer, rfl⟩ := acquire
      rcases leases_acquireEnqueue c _ request answer with ⟨_, e⟩ | ⟨opened, granted, hs, e⟩
      · rw [show (track c σ (.acquireEnqueue request answer)).state.enqueueLeases = _ from e] at h
        exact shut.leases k record h
      · rw [show (track c σ (.acquireEnqueue request answer)).state.enqueueLeases = _ from e,
          Table.get_insert] at h
        split at h
        · cases h
          rintro rfl
          exact opened (hs ▸ keeps hs.symm)
        · exact shut.leases k record h
    · exact shut.leases k record (exec_leases (fun r b e => acquire ⟨r, b, e⟩) h)

lemma ended_of_removeSlot (inv : Inv c σ)
    (hi : (track c σ (.removeSlot s)).state.intents[k]? = some i) (hs : i.slotId = s) :
    i.state.isTerminal = true := by
  rw [show (track c σ (.removeSlot s)).state.intents[k]? = _ from
    intents_removeSlot inv.sound.partitioned inv.sound.keyed] at hi
  obtain ⟨i, _, rfl⟩ := Option.map_eq_some_iff.mp hi
  dsimp only at hs ⊢
  split
  · rfl
  next dead =>
    cases term : i.state.isTerminal with
    | true => rfl
    | false => exact absurd ⟨hs, term⟩ dead

/-- Once a slot is removed, it has no lease and no live intent, and nothing can be claimed for it, in
every state that operations go through, if and only if it had no lease when it was removed, no later
enqueue for it finds an open gate, and no later reconcile of it reads an unread row. -/
theorem removed_forever_iff (reach : (lts c).Reachable σ)
    (allowed : LTS.EnabledAll Allowed (track c) (track c σ (.removeSlot s)) ops) :
    LTS.Throughout (track c) (Shut c s) (track c σ (.removeSlot s)) ops ↔
      (∀ (k : String) (record : EnqueueLeaseRecord), σ.state.enqueueLeases[k]? = some record →
        record.lease.slotId ≠ s) ∧
      LTS.EnabledAll (fun τ op => KeepsShut s τ.state op) (track c) (track c σ (.removeSlot s)) ops := by
  have inv := Inv.reachable reach
  have inv' : Inv c (track c σ (.removeSlot s)) := inv.track (.of_none rfl)
  have ended : ∀ (k : String) (i : WorkIntent), (track c σ (.removeSlot s)).state.intents[k]? = some i →
      i.slotId = s → i.state.isTerminal = true := fun k i => ended_of_removeSlot inv
  have removed : Shut c s (track c σ (.removeSlot s)) ↔
      ∀ (k : String) (record : EnqueueLeaseRecord), σ.state.enqueueLeases[k]? = some record →
        record.lease.slotId ≠ s :=
    ⟨fun shut => shut.leases,
      fun leases => ⟨leases, ended, unclaimed_of_terminal inv'.sound.partitioned ended⟩⟩
  rw [LTS.throughout_iff, removed]
  refine and_congr_right fun leases => ?_
  refine LTS.enabledAll_congr (I := Inv c) (Q := Shut c s) (fun τ op inv al => inv.track al) ?_
    allowed inv' (removed.mpr leases)
  intro τ op inv shut al
  exact ⟨shut_step inv al shut, (shut_step inv al shut).mpr⟩

/-- The lead is removed while it works on a user message, and its loop goes on for a while. -/
theorem removed_forever_userTurn :
    LTS.Throughout (track strokes) (Shut strokes "lead")
      (track strokes (userTurn.foldl (track strokes) initial) (.removeSlot "lead"))
      [.completeBatchWithAck userBatch, .reconcileMailboxSnapshot "lead" [] .lead [], .next "lead"] := by
  have reach : (lts strokes).Reachable (userTurn.foldl (track strokes) initial) :=
    .computed (by decide)
  have leases : ∀ (k : String) (record : EnqueueLeaseRecord),
      (userTurn.foldl (track strokes) initial).state.enqueueLeases[k]? = some record →
        record.lease.slotId ≠ "lead" := by
    intro k record h
    have empty : (userTurn.foldl (track strokes) initial).state.enqueueLeases.toList = [] := by decide
    have mem := Std.TreeMap.mem_toList_iff_getElem?_eq_some.mpr h
    rw [empty] at mem
    cases mem
  exact (removed_forever_iff reach (by decide)).mpr ⟨leases, trivial, fun _ => rfl, trivial, trivial⟩

/-- A row is read for the removed lead: the slot has a live intent again, and `next` claims it. -/
theorem removed_reconcile :
    (lts strokes).Reachable (userTurn.foldl (track strokes) initial) ∧
      LTS.EnabledAll Allowed (track strokes)
        (track strokes (userTurn.foldl (track strokes) initial) (.removeSlot "lead"))
        [.reconcileMailboxSnapshot "lead" ["n"] .lead []] ∧
      (returnedBatch strokes (track strokes
        (track strokes (userTurn.foldl (track strokes) initial) (.removeSlot "lead"))
        (.reconcileMailboxSnapshot "lead" ["n"] .lead [])).state (.next "lead")).map (·.slotId) =
        some "lead" ∧
      ¬ LTS.Throughout (track strokes) (Shut strokes "lead")
        (track strokes (userTurn.foldl (track strokes) initial) (.removeSlot "lead"))
        [.reconcileMailboxSnapshot "lead" ["n"] .lead []] := by
  refine ⟨.computed (by decide), by decide, by decide, ?_⟩
  rintro ⟨_, shut⟩
  have live : ∃ i, (track strokes
      (track strokes (userTurn.foldl (track strokes) initial) (.removeSlot "lead"))
      (.reconcileMailboxSnapshot "lead" ["n"] .lead [])).state.intents["||||"]? = some i ∧
      i.slotId = "lead" ∧ i.state.isTerminal = false := ⟨_, rfl, by decide⟩
  obtain ⟨i, hi, hs, hq⟩ := live
  rw [shut.intents _ i hi hs] at hq
  cases hq

/-- No slot has a lease or a live intent, or anything to claim. -/
def Quiet (c : SlotWorkCoordinator) (σ : Tracked) : Prop :=
  ∀ s, Shut c s σ

/-- The operation grants no lease, creates no intent and returns no batch. -/
structure NoNewWork (c : SlotWorkCoordinator) (σ : Tracked) (op : Op) : Prop where
  leases : ∀ (k : String), σ.state.enqueueLeases[k]? = none →
    (exec c σ.state op).1.enqueueLeases[k]? = none
  intents : ∀ (k : String), σ.state.intents[k]? = none → (exec c σ.state op).1.intents[k]? = none
  batch : returnedBatch c σ.state op = none

/-- In a quiet state, an operation makes no work exactly if no gate is open and no row is unread. -/
lemma noNewWork_iff (inv : Inv c σ) (allowed : Allowed σ op) (quiet : Quiet c σ) :
    NoNewWork c σ op ↔ ∀ s, KeepsShut s σ.state op := by
  have pt := inv.sound.partitioned
  constructor
  · intro none' s
    cases op with
    | acquireEnqueue request answer =>
      rintro rfl
      rcases leases_acquireEnqueue c _ request answer with ⟨closed, _⟩ | ⟨_, record, _, e⟩
      · exact closed
      · have before : σ.state.enqueueLeases[c.generateId σ.state.ticks]? = none := by
          cases h : σ.state.enqueueLeases[c.generateId σ.state.ticks]? with
          | none => rfl
          | some old => exact absurd rfl ((quiet old.lease.slotId).leases _ old h)
        have after := none'.leases _ before
        rw [e, Table.get_insert, if_pos rfl] at after
        cases after
    | reconcileMailboxSnapshot slotId unread role stale =>
      rintro rfl
      cases unread with
      | nil => rfl
      | cons m ms =>
        obtain ⟨i, hi, _, _⟩ := reconcile_creates (c := c)
          (not_alreadyOwned_cleared pt (quiet slotId).intents m (m :: ms) role stale)
        have absent := none'.intents _ inv.sound.fresh
        rw [show (exec c σ.state (.reconcileMailboxSnapshot slotId (m :: ms) role stale)).1.intents[
          c.generateId σ.state.ticks]? = _ from hi] at absent
        cases absent
    | _ => trivial
  · intro keeps
    have quiet' : Quiet c (track c σ op) := fun s => (shut_step inv allowed (quiet s)).mpr (keeps s)
    refine ⟨fun k _ => ?_, fun k absent => ?_, ?_⟩
    · cases h : (exec c σ.state op).1.enqueueLeases[k]? with
      | none => rfl
      | some record => exact absurd rfl ((quiet' record.lease.slotId).leases k record h)
    · cases h : (exec c σ.state op).1.intents[k]? with
      | none => rfl
      | some i =>
        obtain ⟨d, g⟩ := (exec_moves inv allowed).entered pt (entry_none.mpr absent) (entry_of h)
        have elsewhere : i.ticket.slotId ≠ i.slotId :=
          enters_elsewhere (quiet i.slotId) (keeps i.slotId) g
        exact absurd rfl elsewhere
    · cases h : returnedBatch c σ.state op with
      | none => rfl
      | some b =>
        obtain ⟨s, rfl, _, _⟩ := claims_of_returned h
        unfold returnedBatch at h
        dsimp only at h
        split at h
        next b' result => exact absurd result ((quiet s).unclaimed b')
        · cases h

/-- Once the session is stopped, no lease is granted, no intent is created and no batch is claimed by
any of the operations that follow, if and only if no enqueue among them finds an open gate and no
reconcile among them reads an unread row. -/
theorem stop_permanent_iff (reach : (lts c).Reachable σ)
    (allowed : LTS.EnabledAll Allowed (track c) (track c σ .stop) ops) :
    LTS.EnabledAll (NoNewWork c) (track c) (track c σ .stop) ops ↔
      LTS.EnabledAll (fun τ op => ∀ s, KeepsShut s τ.state op) (track c) (track c σ .stop) ops := by
  have inv := Inv.reachable reach
  have inv' : Inv c (track c σ .stop) := inv.track (.of_none rfl)
  have ended : ∀ (k : String) (i : WorkIntent), (track c σ .stop).state.intents[k]? = some i →
      i.state.isTerminal = true := by
    intro k i' hi'
    rw [show (track c σ .stop).state.intents[k]? = _ from intents_stop] at hi'
    obtain ⟨i, hi, rfl⟩ := Option.map_eq_some_iff.mp hi'
    dsimp only
    split
    · rfl
    next dead => simpa using dead
  have quiet : Quiet c (track c σ .stop) := fun s => by
    refine ⟨fun k record h => ?_, fun k i hi _ => ended k i hi,
      unclaimed_of_terminal inv'.sound.partitioned fun k i hi _ => ended k i hi⟩
    rw [show (track c σ .stop).state.enqueueLeases[k]? = none from Table.get_empty] at h
    cases h
  refine LTS.enabledAll_congr (I := Inv c) (Q := Quiet c) (fun τ op inv al => inv.track al) ?_
    allowed inv' quiet
  intro τ op inv quiet al
  exact ⟨noNewWork_iff inv al quiet, fun keeps s => (shut_step inv al (quiet s)).mpr (keeps s)⟩

/-- The session is stopped during a user message, and nothing finds an open gate afterwards. -/
theorem stop_permanent_userTurn :
    LTS.EnabledAll (NoNewWork strokes) (track strokes)
      (track strokes (userTurn.foldl (track strokes) initial) .stop)
      [.acquireEnqueue
          { slotId := "lead", role := .lead, source := .userMessage, binding := .userVisible }
          { teamRunId := some "next", createdNewRun := true, userIntervention := false },
        .reconcileMailboxSnapshot "lead" [] .lead [], .next "lead"] := by
  have reach : (lts strokes).Reachable (userTurn.foldl (track strokes) initial) :=
    .computed (by decide)
  refine (stop_permanent_iff reach (by decide)).mpr ⟨?_, fun _ _ => rfl, fun _ => trivial, trivial⟩
  rintro s rfl
  exact ⟨_, rfl, .inr trivial⟩

/-- What happens after `stop`: the loop of a worker that was not known publishes its constraint, a
welcome is enqueued for it, and a row of it is read. -/
def reopening : List Op :=
  [.setRuntimeConstraint "worker" .ready,
    .acquireEnqueue
      { slotId := "worker", role := .teammate, source := .spawnWelcome, binding := .background }
      { teamRunId := none, createdNewRun := false, userIntervention := false },
    .reconcileMailboxSnapshot "worker" ["n"] .teammate []]

/-- After `stop` a lease is granted, an intent is created and a batch is claimed. -/
theorem stop_reopened :
    (lts strokes).Reachable (userTurn.foldl (track strokes) initial) ∧
      LTS.EnabledAll Allowed (track strokes)
        (track strokes (userTurn.foldl (track strokes) initial) .stop) reopening ∧
      (reopening.foldl (track strokes) (track strokes (userTurn.foldl (track strokes) initial)
        .stop)).state.enqueueLeases.toList.map (·.1) = ["||||"] ∧
      (reopening.foldl (track strokes) (track strokes (userTurn.foldl (track strokes) initial)
        .stop)).state.intents.toList.map (·.1) = ["||", "|||||"] ∧
      (returnedBatch strokes (reopening.foldl (track strokes) (track strokes
        (userTurn.foldl (track strokes) initial) .stop)).state (.next "worker")).map (·.intentIds) =
        some ["|||||"] ∧
      ¬ LTS.EnabledAll (NoNewWork strokes) (track strokes)
        (track strokes (userTurn.foldl (track strokes) initial) .stop) reopening := by
  refine ⟨.computed (by decide), by decide, by decide, by decide, by decide, ?_⟩
  rintro ⟨_, granted, _⟩
  have none' := granted.leases "||||" (by decide)
  exact absurd none' (by decide)

end SlotWorkCoordinator

end KiCore.Team

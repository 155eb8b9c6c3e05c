import KiCore.Team.Member.Removal

/-!
# What a removal leaves

`remove_slot` ends all work of a slot but the leases of enqueues that are under way, and only the path of
the session calls it. So the path of the session leaves nothing behind if no enqueue for the member is
under way, and the path of the service if there was nothing to begin with: `removal_iff`.
-/

namespace KiCore.Team

open KiCore.Lib SlotWorkCoordinator

def NotEnqueuing (st : CoordinatorState) (s : String) : Prop :=
  ∀ (k : String) (record : EnqueueLeaseRecord), st.enqueueLeases[k]? = some record →
    record.lease.slotId ≠ s

/-- The coordinator holds no live intent, no active batch and no enqueue lease for a slot. -/
structure NothingLeft (st : CoordinatorState) (s : String) : Prop where
  intents : ∀ (k : String) (i : WorkIntent), st.intents[k]? = some i → i.slotId = s →
    i.state.isTerminal = true
  active : activeOf st s = none
  leases : NotEnqueuing st s

/-- A removal of the member is under way already, and a further one joins it. -/
def Joins (session : TeamSession) (s : String) : Prop :=
  ∃ waiter, (session.memberRuntimes.beginRemove s).1 = .join waiter

variable {c : SlotWorkCoordinator} {world : RemovalWorld} {session after : TeamSession}
  {service : TeamService} {σ : Tracked} {st st' st'' : CoordinatorState} {op : Op} {ops : List Op}
  {s l k : String} {i : WorkIntent} {record : EnqueueLeaseRecord} {lease : EnqueueLease}

def LeasesDrawn (c : SlotWorkCoordinator) (st : CoordinatorState) : Prop :=
  ∀ (k : String) (record : EnqueueLeaseRecord), st.enqueueLeases[k]? = some record → Drawn c st k

lemma leases_acquire (c : SlotWorkCoordinator) (st : CoordinatorState) (request : EnqueueRequest)
    (answer : RunBinding) :
    (exec c st (.acquireEnqueue request answer)).1.enqueueLeases = st.enqueueLeases ∨
    ∃ record, record.lease.slotId = request.slotId ∧
      (exec c st (.acquireEnqueue request answer)).1.enqueueLeases =
        st.enqueueLeases.insert (c.generateId st.ticks) record ∧
      st.ticks < (exec c st (.acquireEnqueue request answer)).1.ticks := by
  show (acquireEnqueue c (.answering answer) () st request).2.1.enqueueLeases = _ ∨
    ∃ record, _ ∧ (acquireEnqueue c (.answering answer) () st request).2.1.enqueueLeases = _ ∧
      _ < (acquireEnqueue c (.answering answer) () st request).2.1.ticks
  unfold acquireEnqueue
  dsimp only
  cases validateEnqueueConstraint request.slotId
      { st.slotOrNew request.slotId request.role with role := request.role } with
  | error error => exact .inl rfl
  | ok _ => exact .inr ⟨_, rfl, rfl, Nat.lt_succ_self _⟩

lemma LeasesDrawn.exec (drawn : LeasesDrawn c st)
    (ticks : st.ticks ≤ (SlotWorkCoordinator.exec c st op).1.ticks) :
    LeasesDrawn c (SlotWorkCoordinator.exec c st op).1 := by
  intro k record h
  by_cases acquire : ∃ request answer, op = .acquireEnqueue request answer
  · obtain ⟨request, answer, rfl⟩ := acquire
    rcases leases_acquire c st request answer with e | ⟨granted, _, e, counted⟩
    · rw [e] at h
      exact (drawn k record h).mono ticks
    · rw [e, Table.get_insert] at h
      split_ifs at h with here
      · exact here ▸ ⟨st.ticks, counted, rfl⟩
      · exact (drawn k record h).mono ticks
  · exact (drawn k record (exec_leases (fun r b e => acquire ⟨r, b, e⟩) h)).mono ticks

lemma leasesDrawn (reach : (lts c).Reachable σ) : LeasesDrawn c σ.state := by
  have both : Inv c σ ∧ LeasesDrawn c σ.state := by
    refine reach.invariant (P := fun σ => Inv c σ ∧ LeasesDrawn c σ.state) ?_ ?_
    · intro σ start
      obtain rfl : σ = initial := start
      refine ⟨.start, fun k record h => ?_⟩
      rw [show initial.state.enqueueLeases[k]? = none from Table.get_empty] at h
      cases h
    · intro σ op σ' ⟨inv, drawn⟩ step
      obtain ⟨allowed, rfl⟩ := step
      exact ⟨inv.track allowed, drawn.exec (exec_ticks inv allowed)⟩
  exact both.2

structure SameWork (s : String) (st st' : CoordinatorState) : Prop where
  intents : ∀ (k : String) (i : WorkIntent), i.slotId = s →
    (st'.intents[k]? = some i ↔ st.intents[k]? = some i)
  active : activeOf st' s = activeOf st s
  leases : ∀ (k : String) (record : EnqueueLeaseRecord), record.lease.slotId = s →
    (st'.enqueueLeases[k]? = some record ↔ st.enqueueLeases[k]? = some record)

lemma SameWork.refl : SameWork s st st :=
  ⟨fun _ _ _ => Iff.rfl, rfl, fun _ _ _ => Iff.rfl⟩

lemma SameWork.trans (x : SameWork s st st') (y : SameWork s st' st'') : SameWork s st st'' where
  intents k i hs := (y.intents k i hs).trans (x.intents k i hs)
  active := y.active.trans x.active
  leases k record hs := (y.leases k record hs).trans (x.leases k record hs)

lemma SameWork.nothingLeft (same : SameWork s st st') : NothingLeft st' s ↔ NothingLeft st s := by
  constructor
  · intro left
    refine ⟨fun k i hi hs => ?_, same.active ▸ left.active, fun k record h hs => ?_⟩
    · exact left.intents k i ((same.intents k i hs).mpr hi) hs
    · exact left.leases k record ((same.leases k record hs).mpr h) hs
  · intro left
    refine ⟨fun k i hi hs => ?_, same.active.trans left.active, fun k record h hs => ?_⟩
    · exact left.intents k i ((same.intents k i hs).mp hi) hs
    · exact left.leases k record ((same.leases k record hs).mp h) hs

/-- The operations of an enqueue for another slot. -/
def Elsewhere (s : String) : Op → Prop
  | .setRuntimeConstraint l _ => l ≠ s
  | .acquireEnqueue request _ => request.slotId ≠ s
  | .commitEnqueue lease _ => lease.slotId ≠ s
  | _ => False

lemma Elsewhere.allowed (elsewhere : Elsewhere s op) : Allowed σ op := by
  cases op with
  | setRuntimeConstraint | acquireEnqueue | commitEnqueue => exact .of_none rfl
  | _ => exact elsewhere.elim

lemma setRuntimeConstraint_same {constraint : RuntimeConstraint} (keyed : Keyed st) (ne : l ≠ s) :
    SameWork s st (setRuntimeConstraint c st l constraint).state := by
  rw [setRuntimeConstraint_state]
  have put : SameWork s st (constrainedState st l constraint) := by
    refine ⟨fun _ _ _ => Iff.rfl, ?_, fun _ _ _ => Iff.rfl⟩
    rw [activeOf_eq, activeOf_eq, constrainedState_unmoved.work]
  cases endsWork constraint with
  | none => exact put
  | some classification =>
    refine put.trans ⟨fun k i hs => ?_, ?_, fun _ _ _ => Iff.rfl⟩
    · dsimp only
      rw [intents_endSlotWork (show Keyed (constrainedState st l constraint) from keyed),
        Option.map_eq_some_iff]
      constructor
      · intro h
        obtain ⟨i', hi', rfl⟩ := h
        have other : ¬ (i'.slotId = l ∧ i'.state.isTerminal = false) := fun h => ne (h.1.symm.trans hs)
        rw [hi', if_neg other]
      · intro hi
        have other : ¬ (i.slotId = l ∧ i.state.isTerminal = false) := fun h => ne (h.1.symm.trans hs)
        exact ⟨i, hi, by rw [if_neg other]⟩
    · have known : (constrainedState st l constraint).slots[l]? =
          some { st.slotOrNew l .teammate with runtimeConstraint := constraint } :=
        CoordinatorState.slots_putSlot.trans (if_pos rfl)
      rw [activeOf_eq, activeOf_eq, workOf_endSlotWork known, if_neg ne]

lemma commitState_same {messageId : Option String} {slot : SlotState} (so : Sound c st)
    (ok : checkCommit c st lease messageId = .ok slot) (ne : lease.slotId ≠ s) :
    SameWork s st (commitState c st lease messageId) := by
  obtain ⟨⟨record, hr, own⟩, _, _, hslot, _⟩ := checkCommit_ok ok
  refine ⟨fun k i hs => ?_, ?_, fun k r hs => ?_⟩
  · show (st.intents.insert (c.generateId st.ticks) _)[k]? = _ ↔ _
    rw [Table.get_insert]
    split_ifs with here
    · subst here
      rw [so.fresh]
      constructor
      · intro e
        cases e
        exact absurd hs ne
      · intro e
        cases e
    · rfl
  · show activeOf (st.tick.modifySlot lease.slotId _) s = _
    unfold activeOf
    rw [CoordinatorState.slots_modifySlot, if_neg ne]
    rfl
  · show (st.enqueueLeases.erase lease.leaseId)[k]? = _ ↔ _
    rw [Table.get_erase]
    split_ifs with here
    · subst here
      rw [hr]
      constructor
      · intro e
        cases e
      · intro e
        cases e
        exact absurd (own ▸ hs) ne
    · rfl

lemma Elsewhere.same (elsewhere : Elsewhere s op) (inv : Inv c σ) (drawn : LeasesDrawn c σ.state) :
    SameWork s σ.state (track c σ op).state := by
  cases op with
  | setRuntimeConstraint l constraint => exact setRuntimeConstraint_same inv.sound.keyed elsewhere
  | acquireEnqueue request answer =>
    have called : Unmoved σ.state (acquireEnqueue c (.answering answer) () σ.state request).2.1 :=
      acquireEnqueue_unmoved
    have unmoved : Unmoved σ.state (track c σ (.acquireEnqueue request answer)).state := called
    refine ⟨fun k i _ => by rw [unmoved.intents], ?_, fun k record hs => ?_⟩
    · rw [activeOf_eq, activeOf_eq, unmoved.work]
    · rcases leases_acquire c σ.state request answer with e | ⟨granted, slot, e, _⟩
      · rw [show (track c σ (.acquireEnqueue request answer)).state.enqueueLeases = _ from e]
      · rw [show (track c σ (.acquireEnqueue request answer)).state.enqueueLeases = _ from e,
          Table.get_insert]
        split_ifs with here
        · subst here
          constructor
          · intro h
            cases h
            exact absurd (slot.symm.trans hs) elsewhere
          · intro h
            exact absurd (drawn _ record h) not_drawn
        · rfl
  | commitEnqueue lease messageId =>
    rcases commitEnqueue_cases c σ.state lease messageId with ⟨slot, ok, e⟩ | ⟨_, e⟩
    · rw [show (track c σ (.commitEnqueue lease messageId)).state = _ from e]
      exact commitState_same inv.sound ok elsewhere
    · rw [show (track c σ (.commitEnqueue lease messageId)).state = _ from e]
      exact .refl
  | _ => exact elsewhere.elim

lemma sameWork_run (inv : Inv c σ) (drawn : LeasesDrawn c σ.state) (elsewhere : ∀ op ∈ ops, Elsewhere s op) :
    SameWork s σ.state (ops.foldl (track c) σ).state := by
  induction ops generalizing σ with
  | nil => exact .refl
  | cons op ops ih =>
    have here : Elsewhere s op := elsewhere op List.mem_cons_self
    have inv' : Inv c (track c σ op) := inv.track here.allowed
    have drawn' : LeasesDrawn c (track c σ op).state := drawn.exec (exec_ticks inv here.allowed)
    refine (here.same inv drawn).trans (ih inv' drawn' fun op mem => ?_)
    exact elsewhere op (List.mem_cons_of_mem _ mem)

lemma nothingLeft_removeSlot (inv : Inv c σ) :
    NothingLeft (track c σ (.removeSlot s)).state s ↔ NotEnqueuing σ.state s := by
  refine ⟨fun left => left.leases, fun leases => ⟨fun k i => ended_of_removeSlot inv, ?_, leases⟩⟩
  rw [activeOf_eq]
  have cleared (slot : SlotState) :
      { slot.clearWork with removed := true }.work = (fun _ => [], none) := slot.work_clearWork
  show (workOf (CoordinatorState.modifySlot _ s fun slot => { slot.clearWork with removed := true }) s).2 =
    none
  rw [workOf_modifySlot_cleared cleared, if_pos rfl]

lemma tearDown_ok {removal : BeginRemove}
    (h : session.tearDown c world removal s = (.ok (), after)) :
    after.workCoordinator = track c session.workCoordinator (.removeSlot s) := by
  unfold TeamSession.tearDown at h
  dsimp only at h
  split at h
  · cases h
  · split at h
    · cases h
    · split at h
      · cases h
      · obtain ⟨-, rfl⟩ := Prod.mk.inj h
        cases removal <;> rfl

lemma session_removeAgent_ok (h : session.removeAgent c world s = (.ok (), after)) :
    (Joins session s ∧ after = world.joinedSession) ∨
    (¬ Joins session s ∧ ∃ σ, (σ = session.workCoordinator ∨
        ∃ n, σ = track c session.workCoordinator (.setRuntimeConstraint s (.removing n))) ∧
      after.workCoordinator = track c σ (.removeSlot s)) := by
  unfold TeamSession.removeAgent at h
  unfold Joins
  rcases hb : session.memberRuntimes.beginRemove s with ⟨removal, memberRuntimes⟩
  rw [hb] at h
  cases removal with
  | join waiter => exact .inl ⟨⟨waiter, rfl⟩, (Prod.mk.inj h).2.symm⟩
  | start lease =>
    refine .inr ⟨?_, _, .inr ⟨lease.operationId, rfl⟩, tearDown_ok h⟩
    intro ⟨_, e⟩
    cases e
  | absent | sessionStopped =>
    refine .inr ⟨?_, session.workCoordinator, .inl rfl, ?_⟩
    · intro ⟨_, e⟩
      cases e
    · have torn : { session with memberRuntimes := memberRuntimes }.tearDown c world _ s =
          (.ok (), after) := h
      have removed := tearDown_ok torn
      exact removed

lemma notEnqueuing_removing {n : Nat} :
    NotEnqueuing (track c σ (.setRuntimeConstraint s (.removing n))).state s ↔ NotEnqueuing σ.state s :=
  Iff.rfl

lemma acquireEnqueue_ok {ρ : Type} {port : RunCausalityPort ρ} {r : ρ} {request : EnqueueRequest}
    (h : (acquireEnqueue c port r st request).1 = .ok lease) : lease.slotId = request.slotId := by
  unfold acquireEnqueue at h
  dsimp only at h
  split at h
  · cases h
  · cases h
    rfl

lemma enqueueSystemWork_ok {source : WorkSource} {messageId : String} (ne : l ≠ s)
    (h : session.enqueueSystemWork c world l source messageId = (.ok (), after)) :
    ∃ ops : List Op, (∀ op ∈ ops, Elsewhere s op) ∧
      after.workCoordinator = ops.foldl (track c) session.workCoordinator := by
  unfold TeamSession.enqueueSystemWork TeamSession.publishRuntimeConstraint at h
  split at h
  · cases h
  next agent _ =>
  dsimp only at h
  split at h
  · cases h
  split at h
  · cases h
  next lease granted =>
  split at h
  · cases h
  obtain ⟨-, rfl⟩ := Prod.mk.inj h
  have slot : lease.slotId = l := acquireEnqueue_ok granted
  refine ⟨[.setRuntimeConstraint l _, .acquireEnqueue _ _, .commitEnqueue lease _], ?_, rfl⟩
  simp only [List.forall_mem_cons, List.not_mem_nil, false_imp_iff, implies_true, and_true]
  exact ⟨ne, ne, (congrArg (· ≠ s) slot).mpr ne⟩

lemma service_tearDown_ok {removal : BeginRemove}
    (h : TeamService.tearDown c world session removal s = (.ok (), after)) :
    ∃ ops : List Op, (∀ op ∈ ops, Elsewhere s op) ∧
      after.workCoordinator = ops.foldl (track c) session.workCoordinator := by
  have kept (session : TeamSession) : (session.finishRemove removal).scheduler = session.scheduler ∧
      (session.finishRemove removal).workCoordinator = session.workCoordinator := by
    cases removal <;> exact ⟨rfl, rfl⟩
  unfold TeamService.tearDown TeamSession.notifyLeaderMembershipRemoved at h
  split at h
  · cases h
  next lead found =>
  split at h
  · cases h
  next messageId _ =>
  have mem : lead ∈ Table.values (session.scheduler.erase s) := by
    have mem := List.mem_of_find?_eq_some found
    rw [(kept _).1] at mem
    exact (world.order.perm _).mem_iff.mp mem
  obtain ⟨l, hl⟩ := Table.mem_values.mp mem
  obtain ⟨here, hl⟩ := Table.get_erase_some.mp hl
  have ne : lead.slotId ≠ s := by
    rw [session.keyed l lead hl]
    exact Ne.symm here
  obtain ⟨ops, elsewhere, e⟩ := enqueueSystemWork_ok ne h
  refine ⟨ops, elsewhere, ?_⟩
  rw [e, (kept _).2]
  rfl

lemma persistRemoval_ok {service' : TeamService} {removal : BeginRemove}
    (h : service.persistRemoval c world session removal s = (.ok (), service')) :
    ∃ after, service'.session = some after ∧ ∃ ops : List Op, (∀ op ∈ ops, Elsewhere s op) ∧
      after.workCoordinator = ops.foldl (track c) session.workCoordinator := by
  unfold TeamService.persistRemoval at h
  split at h
  · cases h
  obtain ⟨ok, rfl⟩ := Prod.mk.inj h
  exact ⟨_, rfl, service_tearDown_ok (Prod.ext ok rfl)⟩

lemma service_removeAgent_ok {service' : TeamService} (opened : service.session = some session)
    (h : service.removeAgent c world s = (.ok (), service')) :
    ∃ after, service'.session = some after ∧
      ((Joins session s ∧ after = world.joinedSession) ∨
      (¬ Joins session s ∧ ∃ ops : List Op, (∀ op ∈ ops, Elsewhere s op) ∧
        after.workCoordinator = ops.foldl (track c) session.workCoordinator)) := by
  unfold TeamService.removeAgent at h
  rw [opened] at h
  split at h
  · cases h
  split at h
  · cases h
  split at h
  · cases h
  dsimp only at h
  unfold Joins
  rcases hb : session.memberRuntimes.beginRemove s with ⟨removal, memberRuntimes⟩
  rw [hb] at h
  cases removal with
  | join waiter =>
    obtain ⟨-, rfl⟩ := Prod.mk.inj h
    exact ⟨_, rfl, .inl ⟨⟨waiter, rfl⟩, rfl⟩⟩
  | start | absent | sessionStopped =>
    have persisted : service.persistRemoval c world
        ({ session with memberRuntimes := memberRuntimes }.removeLoop s) _ s = (.ok (), service') := h
    obtain ⟨after, still, ran⟩ := persistRemoval_ok persisted
    refine ⟨after, still, .inr ⟨?_, ran⟩⟩
    intro ⟨_, e⟩
    cases e

lemma session_nothingLeft (inv : Inv c session.workCoordinator) (alone : ¬ Joins session s)
    (h : session.removeAgent c world s = (.ok (), after)) :
    NothingLeft after.workCoordinator.state s ↔ NotEnqueuing session.workCoordinator.state s := by
  obtain ⟨joins, -⟩ | ⟨-, σ, before, e⟩ := session_removeAgent_ok h
  · exact absurd joins alone
  · rw [e]
    rcases before with rfl | ⟨n, rfl⟩
    · exact nothingLeft_removeSlot inv
    · exact (nothingLeft_removeSlot (inv.track (.of_none rfl))).trans notEnqueuing_removing

/-- The session that a removal of its own leaves, and the condition for nothing to be left. -/
inductive Removed (c : SlotWorkCoordinator) (s : String) (session : TeamSession) : TeamSession → Prop → Prop
  | session {world : RemovalWorld} {after : TeamSession}
      (ok : session.removeAgent c world s = (.ok (), after)) :
      Removed c s session after (NotEnqueuing session.workCoordinator.state s)
  | service {world : RemovalWorld} {service service' : TeamService} {after : TeamSession}
      (opened : service.session = some session) (ok : service.removeAgent c world s = (.ok (), service'))
      (still : service'.session = some after) :
      Removed c s session after (NothingLeft session.workCoordinator.state s)

lemma Removed.nothingLeft {condition : Prop} (removed : Removed c s session after condition)
    (reach : (lts c).Reachable session.workCoordinator) (alone : ¬ Joins session s) :
    NothingLeft after.workCoordinator.state s ↔ condition := by
  have inv := Inv.reachable reach
  cases removed with
  | session ok => exact session_nothingLeft inv alone ok
  | service opened ok still =>
    obtain ⟨_, same, ⟨joins, -⟩ | ⟨-, ops, elsewhere, e⟩⟩ := service_removeAgent_ok opened ok
    · exact absurd joins alone
    · obtain rfl := Option.some.inj (still.symm.trans same)
      rw [e]
      exact (sameWork_run inv (leasesDrawn reach) elsewhere).nothingLeft

/-- A removal that joins another one leaves what that one left. Else the path of the session leaves
nothing of a member if and only if no enqueue for it is under way, and the path of the service if and only
if there was nothing. -/
theorem removal_iff (reach : (lts c).Reachable session.workCoordinator) :
    (∀ after, session.removeAgent c world s = (.ok (), after) →
      (NothingLeft after.workCoordinator.state s ↔
        (Joins session s → NothingLeft world.joinedSession.workCoordinator.state s) ∧
        (¬ Joins session s → NotEnqueuing session.workCoordinator.state s))) ∧
    (∀ service service' : TeamService, service.session = some session →
      service.removeAgent c world s = (.ok (), service') →
      ∃ after, service'.session = some after ∧
        (NothingLeft after.workCoordinator.state s ↔
          (Joins session s → NothingLeft world.joinedSession.workCoordinator.state s) ∧
          (¬ Joins session s → NothingLeft session.workCoordinator.state s))) ∧
    ∀ first condition, (lts c).Reachable first.workCoordinator → ¬ Joins first s →
      Removed c s first world.joinedSession condition →
      (NothingLeft world.joinedSession.workCoordinator.state s ↔ condition) := by
  refine ⟨fun after h => ?_, fun service service' opened h => ?_,
    fun first condition reach alone removed => removed.nothingLeft reach alone⟩
  · obtain ⟨joins, rfl⟩ | ⟨alone, -⟩ := session_removeAgent_ok h
    · simp [joins]
    · simp [alone, session_nothingLeft (Inv.reachable reach) alone h]
  · obtain ⟨after, still, ⟨joins, rfl⟩ | ⟨alone, -⟩⟩ := service_removeAgent_ok opened h
    · exact ⟨_, still, by simp [joins]⟩
    · exact ⟨after, still, by simp [alone, (Removed.service opened h still).nothingLeft reach alone]⟩

def pair : Table String TeamAgent :=
  (Std.TreeMap.insert ∅ "lead" { slotId := "lead", conversationId := "talk", role := .lead }).insert
    "worker" { slotId := "worker", conversationId := "errand", role := .teammate }

def errand : List Op :=
  [.setRuntimeConstraint "worker" .ready,
    .acquireEnqueue
      { slotId := "worker", role := .teammate, source := .userMessage, binding := .userVisible }
      { teamRunId := some "run", createdNewRun := true, userIntervention := false },
    .commitEnqueue { userLease with slotId := "worker", role := .teammate } (some "m")]

def errandSession : TeamSession where
  memberRuntimes := .new "generation"
  workCoordinator := errand.foldl (track strokes) initial
  scheduler := pair
  eventLoops := ["lead", "worker"]
  keyed s agent h := by
    rw [pair, Table.get_insert, Table.get_insert] at h
    split_ifs at h with hs hs
    · exact Option.some.inj h ▸ hs
    · exact Option.some.inj h ▸ hs
    · rw [show (∅ : Table String TeamAgent)[s]? = none from Table.get_empty] at h
      cases h

def errandService : TeamService where
  teamId := "team"
  agents := Table.values pair
  session := some errandSession

def calm : RemovalWorld where
  load := .ok ()
  persist := .ok ()
  markRead := .ok ()
  notice := .ok "notice"
  binding := { teamRunId := none, createdNewRun := false, userIntervention := false }
  order := .id
  joinedOutcome := .removed
  joinedSession := errandSession

lemma errand_reachable : (lts strokes).Reachable errandSession.workCoordinator :=
  .computed (by decide)

lemma errand_alone : ¬ Joins errandSession "worker" := by
  intro ⟨_, e⟩
  cases e

lemma errand_notEnqueuing : NotEnqueuing errandSession.workCoordinator.state "worker" := by
  intro k record h
  have none : errandSession.workCoordinator.state.enqueueLeases.toList = [] := by decide
  have mem := Std.TreeMap.mem_toList_iff_getElem?_eq_some.mpr h
  rw [none] at mem
  cases mem

/-- The worker is removed through the session, and nothing of it is left. -/
theorem removal_errand :
    NothingLeft (errandSession.removeAgent strokes calm "worker").2.workCoordinator.state "worker" :=
  ((removal_iff errand_reachable).1 _ (Prod.ext (by decide) rfl)).mpr
    ⟨fun joins => absurd joins errand_alone, fun _ => errand_notEnqueuing⟩

/-- The worker is removed through the service, and its message stays in the queue. The path of the session
ends it. -/
theorem strandedErrand :
    (lts strokes).Reachable errandSession.workCoordinator ∧
      ((errandSession.removeAgent strokes calm "worker").1 = .ok () ∧
        NothingLeft (errandSession.removeAgent strokes calm "worker").2.workCoordinator.state "worker") ∧
      (errandService.removeAgent strokes calm "worker").1 = .ok () ∧
      ∃ after, (errandService.removeAgent strokes calm "worker").2.session = some after ∧
        ¬ NothingLeft after.workCoordinator.state "worker" := by
  refine ⟨errand_reachable, ⟨by decide, ?_⟩, by decide, _, rfl, ?_⟩
  · have ok : errandSession.removeAgent strokes calm "worker" =
        (.ok (), (errandSession.removeAgent strokes calm "worker").2) := Prod.ext (by decide) rfl
    exact (session_nothingLeft (Inv.reachable errand_reachable) errand_alone ok).mpr errand_notEnqueuing
  · intro left
    have live : ∃ i, (TeamService.removeAgent strokes calm errandService "worker").2.session.bind
        (·.workCoordinator.state.intents["||"]?) = some i ∧ i.slotId = "worker" ∧
          i.state.isTerminal = false := ⟨_, rfl, by decide⟩
    obtain ⟨i, hi, hs, hq⟩ := live
    rw [left.intents _ i hi hs] at hq
    cases hq

end KiCore.Team

import KiCore.Team.Coordinator.Partition

/-!
# Owners of mailbox messages

An enqueue writes its mailbox row before it commits its lease, and the row can be read by a reconcile
in between. `mailboxLts` interleaves the operations of the coordinator with the row writes. The
reconcile asks whether some live intent of the slot owns a message before it makes an intent for it
(`alreadyOwned`); `commit_enqueue` does not ask. A message therefore has one live owner as long as
`commit_enqueue` is never called for a message that is owned already (`oneOwner_reachable`), and the
batches of `next` then name each message once (`oneOwner_batch`).
-/

namespace KiCore.Team

open KiCore.Lib

namespace SlotWorkCoordinator

variable {c : SlotWorkCoordinator} {st : CoordinatorState} {σ σ' : Tracked} {s k : String}
  {i : WorkIntent} {op : Op} {batch : WorkBatch}

/-- What happens around the mailbox: rows are written, and the coordinator works. -/
inductive MailboxOp where
  | write (slotId messageId : String)
  | work (op : Op)

/-- The coordinator, and the rows written so far with the slot they are addressed to. -/
structure MailboxState where
  coordinator : Tracked
  rows : List (String × String)

/-- An operation names only rows that have been written for its slot. -/
def Posted (rows : List (String × String)) : Op → Prop
  | .commitEnqueue lease messageId => ∀ m, messageId = some m → (lease.slotId, m) ∈ rows
  | .reconcileMailboxSnapshot slotId unread _ _ => ∀ m ∈ unread, (slotId, m) ∈ rows
  | _ => True

/-- A row id is used once, and an operation is allowed and names rows that are there. -/
def MailboxAllowed (x : MailboxState) : MailboxOp → Prop
  | .write _ messageId => ∀ row ∈ x.rows, row.2 ≠ messageId
  | .work op => Posted x.rows op ∧ Allowed x.coordinator op

def mailboxTrack (c : SlotWorkCoordinator) (x : MailboxState) : MailboxOp → MailboxState
  | .write slotId messageId => { x with rows := (slotId, messageId) :: x.rows }
  | .work op => { x with coordinator := track c x.coordinator op }

def emptyMailbox : MailboxState :=
  { coordinator := initial, rows := [] }

def mailboxLts (c : SlotWorkCoordinator) : LTS MailboxState MailboxOp :=
  .computed emptyMailbox MailboxAllowed (mailboxTrack c)

def mailboxSimulation (c : SlotWorkCoordinator) : LTS.Simulation (mailboxLts c) (lts c) where
  map := MailboxState.coordinator
  start := by
    rintro _ rfl
    rfl
  step := by
    intro x op y step
    cases op with
    | write slotId messageId =>
      obtain ⟨_, rfl⟩ := step
      exact ⟨[], .nil⟩
    | work op =>
      obtain ⟨⟨_, allowed⟩, rfl⟩ := step
      exact ⟨[op], .one ⟨allowed, rfl⟩⟩

/-- No two live intents of a slot own the same message. -/
def OneOwner (state : CoordinatorState) : Prop :=
  ∀ (k k' : String) (i i' : WorkIntent) (messageId : String),
    state.intents[k]? = some i → state.intents[k']? = some i' →
    i.state.isTerminal = false → i'.state.isTerminal = false → i.slotId = i'.slotId →
    i.mailboxMessageId = some messageId → i'.mailboxMessageId = some messageId → k = k'

lemma oneOwner_iff : OneOwner st ↔ (board st).UniqueLive WorkIntent.mailboxMessageId := by
  constructor
  · intro h k k' a a' p p' m e e' live live' hs hm hm'
    obtain ⟨i, hi, rfl, rfl⟩ := intent_of e
    obtain ⟨i', hi', rfl, rfl⟩ := intent_of e'
    exact h k k' i i' m hi hi' (WorkIntentState.phase_live.mp live) (WorkIntentState.phase_live.mp live')
      hs hm hm'
  · intro h k k' i i' m hi hi' live live' hs hm hm'
    exact h k k' i.ticket i'.ticket _ _ m (entry_of hi) (entry_of hi')
      (WorkIntentState.phase_live.mpr live) (WorkIntentState.phase_live.mpr live') hs hm hm'

/-- A commit that passes its checks is made for a message that no live intent of the slot owns. -/
def CommitsFree (c : SlotWorkCoordinator) (state : CoordinatorState) : Op → Prop
  | .commitEnqueue lease (some messageId) =>
    (∃ slot, checkCommit c state lease (some messageId) = .ok slot) →
      alreadyOwned state lease.slotId messageId = false
  | _ => True

def FreeStep (c : SlotWorkCoordinator) (x : MailboxState) : MailboxOp → Prop
  | .write _ _ => True
  | .work op => CommitsFree c x.coordinator.state op

lemma OneOwner.step (inv : Inv c σ) (allowed : Allowed σ op) (one : OneOwner σ.state)
    (free : CommitsFree c σ.state op) : OneOwner (track c σ op).state := by
  rw [oneOwner_iff] at one ⊢
  refine one.moves inv.sound.partitioned (exec_moves inv allowed) ?_
  intro d k a m g hm owned
  cases op with
  | commitEnqueue lease messageId =>
    obtain ⟨ok, rfl, rfl, rfl⟩ := g
    obtain rfl : messageId = some m := hm
    have taken : alreadyOwned σ.state lease.slotId m = true := alreadyOwned_iff.mpr owned
    rw [free ok] at taken
    cases taken
  | reconcileMailboxSnapshot slotId unread role stale =>
    obtain ⟨_, _, hs, _, message, _, hm', free⟩ := g
    rw [hm] at hm'
    cases hm'
    rw [home_eq, hs] at owned
    exact free owned
  | _ => exact g

lemma not_oneOwner {lease : EnqueueLease} {messageId : String} (inv : Inv c σ)
    (ok : ∃ slot, checkCommit c σ.state lease (some messageId) = .ok slot)
    (owned : alreadyOwned σ.state lease.slotId messageId = true) :
    ¬ OneOwner (track c σ (.commitEnqueue lease (some messageId))).state := by
  obtain ⟨slot, ok⟩ := ok
  rcases commitEnqueue_cases c σ.state lease (some messageId) with
    ⟨_, _, h⟩ | ⟨⟨error, h⟩, _⟩
  · rw [show (track c σ (.commitEnqueue lease (some messageId))).state = _ from h]
    obtain ⟨k, a, p, e, live, hs, hm⟩ := alreadyOwned_iff.mp owned
    obtain ⟨i, hi, rfl, rfl⟩ := intent_of e
    have ne : c.generateId σ.state.ticks ≠ k := by
      rintro rfl
      rw [inv.sound.fresh] at hi
      cases hi
    have new : (commitState c σ.state lease (some messageId)).intents[c.generateId σ.state.ticks]? =
        some (committedIntent c σ.state lease (some messageId)) :=
      (Table.get_insert ..).trans (if_pos rfl)
    have old : (commitState c σ.state lease (some messageId)).intents[k]? = some i :=
      (Table.get_insert ..).trans ((if_neg ne).trans hi)
    intro one
    exact ne (one _ _ _ _ messageId new old rfl (WorkIntentState.phase_live.mp live) hs.symm rfl hm)
  · rw [ok] at h
    cases h

lemma OneOwner.messages_nodup {b : WorkBatch} (pt : (board st).Partitioned) (one : OneOwner st)
    (returned : returnedBatch c st op = some b) : b.mailboxMessageIds.Nodup := by
  obtain ⟨s, _, _, claims⟩ := claims_of_returned returned
  have ids : b.intentIds.Nodup := (pt.nodup s b.highestPriority).sublist claims.lane
  rw [(congrArg WorkBatch.mailboxMessageIds claims.made :)]
  refine List.Pairwise.filterMap _ ?_ (List.Pairwise.and_mem.mp ids)
  rintro k k' ⟨hk, hk', ne⟩ m hm m' hm' rfl
  obtain ⟨i, hi, hq, hs, _⟩ := (mem_lane pt).mp (claims.lane.subset hk)
  obtain ⟨i', hi', hq', hs', _⟩ := (mem_lane pt).mp (claims.lane.subset hk')
  rw [hi] at hm
  rw [hi'] at hm'
  exact ne (one k k' i i' m hi hi' (by rw [hq]; rfl) (by rw [hq']; rfl) (hs.trans hs'.symm) hm hm')

lemma OneOwner.start : OneOwner initial.state := by
  intro k k' i i' m hi
  rw [show initial.state.intents[k]? = none from Table.get_empty] at hi
  cases hi

/-- In every run with the mailbox whose commits are for messages without an owner, a message has one
live owner at most in each slot, and batches name each message once. A commit for a message that is
owned gives it a second owner. -/
theorem one_owner_of_commitsFree (c : SlotWorkCoordinator) :
    (∀ y, ((mailboxLts c).guard (FreeStep c)).Reachable y →
      OneOwner y.coordinator.state ∧
        ∀ s batch, returnedBatch c y.coordinator.state (.next s) = some batch →
          batch.mailboxMessageIds.Nodup) ∧
    ∀ x op y, (mailboxLts c).Reachable x → (mailboxLts c).step x op y → ¬ FreeStep c x op →
      ¬ OneOwner y.coordinator.state := by
  refine ⟨fun y reach => ?_, fun x op y reach step free => ?_⟩
  · have inv {z} (reach : ((mailboxLts c).guard (FreeStep c)).Reachable z) : Inv c z.coordinator :=
      .reachable ((mailboxSimulation c).reachable reach.of_guard)
    have one : OneOwner y.coordinator.state := by
      refine reach.invariant_of (P := fun y => OneOwner y.coordinator.state) ?_ ?_
      · rintro _ rfl
        exact .start
      · rintro x op y reach one ⟨free, step⟩
        cases op with
        | write slotId messageId =>
          obtain ⟨_, rfl⟩ := step
          exact one
        | work o =>
          obtain ⟨⟨_, allowed⟩, rfl⟩ := step
          exact one.step (inv reach) allowed free
    exact ⟨one, fun s b => one.messages_nodup (inv reach).sound.partitioned⟩
  · have inv : Inv c x.coordinator := .reachable ((mailboxSimulation c).reachable reach)
    cases op with
    | write slotId messageId => exact absurd trivial free
    | work o =>
      obtain ⟨_, rfl⟩ := step
      cases o with
      | commitEnqueue lease messageId =>
        cases messageId with
        | none => exact absurd trivial free
        | some m =>
          simp only [FreeStep, CommitsFree, Classical.not_imp, Bool.not_eq_false] at free
          exact not_oneOwner inv free.1 free.2
      | _ => exact absurd trivial free

/-- A user message whose row is written and committed, and read by the reconcile afterwards. -/
def userMail : List MailboxOp :=
  [.work (.setRuntimeConstraint "lead" .ready),
    .work (.acquireEnqueue
      { slotId := "lead", role := .lead, source := .userMessage, binding := .userVisible }
      { teamRunId := some "run", createdNewRun := true, userIntervention := false }),
    .write "lead" "m",
    .work (.commitEnqueue userLease (some "m")),
    .work (.reconcileMailboxSnapshot "lead" ["m"] .lead [])]

/-- The message of the user has one owner, and the next batch names it once. -/
theorem one_owner_userMail :
    OneOwner (userMail.foldl (mailboxTrack strokes) emptyMailbox).coordinator.state ∧
      ∃ batch, batch.mailboxMessageIds = ["m"] ∧ batch.mailboxMessageIds.Nodup ∧
        returnedBatch strokes (userMail.foldl (mailboxTrack strokes) emptyMailbox).coordinator.state
          (.next "lead") = some batch := by
  have reach : ((mailboxLts strokes).guard (FreeStep strokes)).Reachable
      (userMail.foldl (mailboxTrack strokes) emptyMailbox) := by
    refine .guarded ⟨⟨trivial, trivial, nofun⟩, ⟨trivial, trivial, nofun⟩, ⟨trivial, nofun⟩,
      ⟨fun _ => by decide, ?_, nofun⟩, ⟨trivial, ?_, nofun⟩, trivial⟩
    · rintro m ⟨⟩
      exact .head _
    · intro m hm
      exact List.mem_map_of_mem hm
  obtain ⟨one, nodup⟩ := (one_owner_of_commitsFree strokes).1 _ reach
  have claim : ∃ batch, batch.mailboxMessageIds = ["m"] ∧
      returnedBatch strokes (userMail.foldl (mailboxTrack strokes) emptyMailbox).coordinator.state
        (.next "lead") = some batch := ⟨_, by decide, rfl⟩
  obtain ⟨batch, ids, returned⟩ := claim
  exact ⟨one, batch, ids, nodup "lead" batch returned, returned⟩

def welcomeLease : EnqueueLease where
  leaseId := "|"
  sessionGeneration := "generation"
  slotId := "worker"
  role := .teammate
  source := .spawnWelcome
  teamRunId := none

/-- The row of a welcome is written, and the reconcile of the worker's loop reads it before the
welcome is committed. -/
def welcomeRace : List MailboxOp :=
  [.work (.setRuntimeConstraint "worker" .ready),
    .work (.acquireEnqueue
      { slotId := "worker", role := .teammate, source := .spawnWelcome, binding := .background }
      { teamRunId := none, createdNewRun := false, userIntervention := false }),
    .write "worker" "m",
    .work (.reconcileMailboxSnapshot "worker" ["m"] .teammate []),
    .work (.commitEnqueue welcomeLease (some "m"))]

def welcomeRaced : MailboxState :=
  welcomeRace.foldl (mailboxTrack strokes) emptyMailbox

/-- After the race the message has two live owners, and the next batch names it twice. -/
theorem welcomeRace_two_owners :
    (mailboxLts strokes).Run emptyMailbox welcomeRace welcomeRaced ∧
      ¬ OneOwner welcomeRaced.coordinator.state ∧
      (returnedBatch strokes welcomeRaced.coordinator.state (.next "worker")).map
        (·.mailboxMessageIds) = some ["m", "m"] := by
  refine ⟨.computed ?_, ?_, by decide⟩
  · refine ⟨⟨trivial, nofun⟩, ⟨trivial, nofun⟩, nofun, ⟨?_, nofun⟩, ⟨?_, nofun⟩, trivial⟩
    · intro m hm
      exact List.mem_map_of_mem hm
    · rintro m ⟨⟩
      exact .head _
  · intro one
    have two : ∃ i i', welcomeRaced.coordinator.state.intents["||"]? = some i ∧
        welcomeRaced.coordinator.state.intents["|||"]? = some i' ∧ i.state.isTerminal = false ∧
        i'.state.isTerminal = false ∧ i.slotId = i'.slotId ∧ i.mailboxMessageId = some "m" ∧
        i'.mailboxMessageId = some "m" := ⟨_, _, rfl, rfl, by decide⟩
    obtain ⟨i, i', hi, hi', live, live', hs, hm, hm'⟩ := two
    exact absurd (one _ _ i i' "m" hi hi' live live' hs hm hm') (by decide)

end SlotWorkCoordinator

end KiCore.Team

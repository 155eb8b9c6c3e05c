import KiCore.Lib.Transition
import KiCore.Team.Member.Registry

/-!
# Ownership of member runtimes

The operations of the member runtime registry as a transition system, and what every run of it keeps
(`registry_kept`): one lease owns a member at a time, a lease is honoured exactly while it owns its member,
and a waiter gets one outcome. `RuntimeMove` says once what an operation can do; `RegistryInv` and
`HistoryInv` are the invariants.
-/

namespace KiCore.Team

open KiCore.Lib

inductive MemberLease where
  | attach (lease : AttachLease)
  | remove (lease : RemoveLease)

namespace MemberLease

def sessionGeneration : MemberLease → String
  | attach lease => lease.sessionGeneration
  | remove lease => lease.sessionGeneration

def agentId : MemberLease → String
  | attach lease => lease.agentId
  | remove lease => lease.agentId

def operationId : MemberLease → Nat
  | attach lease => lease.operationId
  | remove lease => lease.operationId

/-- The snapshot of a member that the lease owns. -/
def phase : MemberLease → MemberRuntimeSnapshot
  | attach lease => .attaching lease.operationId
  | remove lease => .removing lease.operationId

end MemberLease

/-- The lease is of this session, and its operation is the current one of its member. -/
def Owns (registry : MemberRuntimeRegistry) (lease : MemberLease) : Prop :=
  lease.sessionGeneration = registry.sessionGeneration ∧
    registry.snapshot lease.agentId = lease.phase

instance {registry : MemberRuntimeRegistry} {lease : MemberLease} : Decidable (Owns registry lease) :=
  inferInstanceAs (Decidable (_ ∧ _))

def ReserveAttach.lease : ReserveAttach → Option MemberLease
  | start lease => some (.attach lease)
  | _ => none

def ReserveAttach.waiter : ReserveAttach → Option AttachWaiter
  | start lease => some lease.waiter
  | join waiter | removing waiter => some waiter
  | alreadyReady | sessionStopped => none

def BeginRemove.lease : BeginRemove → Option MemberLease
  | start lease => some (.remove lease)
  | _ => none

def BeginRemove.waiter : BeginRemove → Option AttachWaiter
  | join waiter => some waiter
  | _ => none

/-- The operations of the registry. -/
inductive RuntimeOp where
  | reserveAttach (agentId : String) (retryFailed : Bool)
  | reserveRestart (agentId : String)
  | reserveRepair (agentId : String)
  | commitReady (lease : AttachLease)
  | commitFailed (lease : AttachLease) (failure : MemberRuntimeFailure)
  | beginRemove (agentId : String)
  | finishRemove (lease : RemoveLease)
  | restoreAttachRequired (lease : RemoveLease) (failure : MemberRuntimeFailure)
  | stop

namespace RuntimeOp

variable (registry : MemberRuntimeRegistry)

def exec : RuntimeOp → MemberRuntimeRegistry
  | reserveAttach agentId retryFailed => (registry.reserveAttach agentId retryFailed).2
  | reserveRestart agentId => (registry.reserveRestart agentId).2
  | reserveRepair agentId => (registry.reserveRepair agentId).2
  | commitReady lease => (registry.commitReady lease).2
  | commitFailed lease failure => (registry.commitFailed lease failure).2
  | beginRemove agentId => (registry.beginRemove agentId).2
  | finishRemove lease => (registry.finishRemove lease).2
  | restoreAttachRequired lease failure =>
    (registry.restoreAttachRequiredAfterRemovePersistError lease failure).2
  | stop => registry.stop.2

def granted : RuntimeOp → Option MemberLease
  | reserveAttach agentId retryFailed => (registry.reserveAttach agentId retryFailed).1.lease
  | reserveRestart agentId => (registry.reserveRestart agentId).1.lease
  | reserveRepair agentId => (registry.reserveRepair agentId).1.lease
  | beginRemove agentId => (registry.beginRemove agentId).1.lease
  | _ => none

def waiter (registry : MemberRuntimeRegistry) : RuntimeOp → Option AttachWaiter
  | reserveAttach agentId retryFailed => (registry.reserveAttach agentId retryFailed).1.waiter
  | reserveRestart agentId => (registry.reserveRestart agentId).1.waiter
  | reserveRepair agentId => (registry.reserveRepair agentId).1.waiter
  | beginRemove agentId => (registry.beginRemove agentId).1.waiter
  | _ => none

/-- The commit or the end of a lease: what it returns, and the snapshot of the member that it makes. -/
def settles :
    RuntimeOp → Option (MemberLease × Bool × MemberRuntimeSnapshot)
  | commitReady lease => some (.attach lease, (registry.commitReady lease).1, .ready)
  | commitFailed lease failure =>
    some (.attach lease, (registry.commitFailed lease failure).1, .failed lease.operationId failure)
  | finishRemove lease => some (.remove lease, (registry.finishRemove lease).1, .absent)
  | restoreAttachRequired lease failure =>
    some (.remove lease, (registry.restoreAttachRequiredAfterRemovePersistError lease failure).1,
      .failed lease.operationId failure)
  | _ => none

end RuntimeOp

/-- The registry, with every lease that it granted and every waiter that it handed out, in order. -/
structure RuntimeHistory where
  registry : MemberRuntimeRegistry
  granted : List MemberLease
  waiters : List AttachWaiter

namespace RuntimeHistory

def initial (sessionGeneration : String) : RuntimeHistory where
  registry := .new sessionGeneration
  granted := []
  waiters := []

def perform (h : RuntimeHistory) (op : RuntimeOp) : RuntimeHistory where
  registry := op.exec h.registry
  granted := h.granted ++ (op.granted h.registry).toList
  waiters := h.waiters ++ (op.waiter h.registry).toList

end RuntimeHistory

/-- What an operation on the registry keeps. Of the leases granted so far, at most one owns a member, and
their operation ids increase, as long as the counter has not wrapped around. A lease is honoured if and
only if it owns its member, and otherwise nothing changes. The outcome of a waiter is never rewritten, and
a waiter without one waits for an operation that is under way. Once the registry is stopped, nothing
changes. -/
structure RuntimeKept (h : RuntimeHistory) (op : RuntimeOp) : Prop where
  owner : (h.perform op).granted.length < 2 ^ 64 → ∀ l ∈ (h.perform op).granted,
    ∀ l' ∈ (h.perform op).granted, l.agentId = l'.agentId → Owns (op.exec h.registry) l →
    Owns (op.exec h.registry) l' → l = l'
  increasing : (h.perform op).granted.length < 2 ^ 64 →
    ((h.perform op).granted.map (·.operationId)).Pairwise (· < ·)
  honoured : ∀ lease honoured after, op.settles h.registry = some (lease, honoured, after) →
    (honoured = true ↔ Owns h.registry lease) ∧
      (honoured = true → (op.exec h.registry).snapshot lease.agentId = after) ∧
      (honoured = false → op.exec h.registry = h.registry)
  answered : ∀ w ∈ h.waiters, ∀ o, w.outcome h.registry = some o →
    w.outcome (op.exec h.registry) = some o
  waiting : ∀ w ∈ (h.perform op).waiters, w.outcome (op.exec h.registry) = none →
    ∃ (a : String) (e : MemberRuntimeEntry), (op.exec h.registry).entries[a]? = some e ∧
      e.underWay = some (w.operationId, w.outcomeRx)
  stopped : h.registry.stopped = true → op.exec h.registry = h.registry

variable {r r' : MemberRuntimeRegistry} {h : RuntimeHistory} {op : RuntimeOp} {a a' : String}
  {e e' : MemberRuntimeEntry} {id id' tx n : Nat} {o : AttachOutcome} {w : AttachWaiter}

/-- The entry of a member is free, or is freed by cancelling an attach under way. -/
inductive Freed (r : MemberRuntimeRegistry) (a : String) : MemberRuntimeRegistry → Prop where
  | free : (∀ e : MemberRuntimeEntry, r.entries[a]? = some e → e.underWay = none) → Freed r a r
  | cancelled {id tx : Nat} : r.entries[a]? = some (.attaching id tx) →
    Freed r a (r.sendReplace tx (.terminal .removed))

/-- What an operation on a registry does: the registry after it, and the lease and the waiter that it
returns. Nothing happens, and the waiter is of an entry; an operation begins; an operation under way is
settled; or the registry stops. -/
inductive RuntimeMove (r : MemberRuntimeRegistry) :
    MemberRuntimeRegistry → Option MemberLease → Option AttachWaiter → Prop where
  | stay {waiter : Option AttachWaiter} :
    (∀ w : AttachWaiter, waiter = some w → ∃ (a : String) (e : MemberRuntimeEntry),
      r.entries[a]? = some e ∧ e.channel = some (w.operationId, w.outcomeRx)) →
    RuntimeMove r r none waiter
  | begins {r' : MemberRuntimeRegistry} {a : String} {entry : Nat → Nat → MemberRuntimeEntry}
      {lease : MemberLease} {waiter : Option AttachWaiter} :
    r.stopped = false → Freed r a r' → (∀ id tx, (entry id tx).underWay = some (id, tx)) →
    lease.operationId = r.nextOperationId →
    (∀ w : AttachWaiter, waiter = some w → w = ⟨r.nextOperationId, r.channels.length⟩) →
    RuntimeMove r (r'.begin a entry) (some lease) waiter
  | settles {a : String} {e : MemberRuntimeEntry} {id tx : Nat} {entry : Option MemberRuntimeEntry}
      {entries : Table String MemberRuntimeEntry} {o : AttachOutcome} :
    r.stopped = false → r.entries[a]? = some e → e.underWay = some (id, tx) →
    (∀ e' : MemberRuntimeEntry, entry = some e' → e'.underWay = none ∧
      ∀ c, e'.channel = some c → c = (id, tx)) →
    (∀ a' : String, entries[a']? = if a = a' then entry else r.entries[a']?) →
    RuntimeMove r ({ r with entries := entries }.sendReplace tx (.terminal o)) none none
  | stops : r.stopped = false → RuntimeMove r r.stop.2 none none

lemma MemberRuntimeEntry.channel_of_underWay (h : e.underWay = some (id, tx)) :
    e.channel = some (id, tx) := by
  cases e <;> first | exact h | cases h

namespace MemberRuntimeRegistry

lemma reserve_move {overReady overFailed : Bool} :
    RuntimeMove r (r.reserve overReady overFailed a).2 (r.reserve overReady overFailed a).1.lease
      (r.reserve overReady overFailed a).1.waiter := by
  have starts (running : r.stopped = false)
      (free : ∀ e : MemberRuntimeEntry, r.entries[a]? = some e → e.underWay = none) :
      RuntimeMove r (r.startAttach a).2 (r.startAttach a).1.lease (r.startAttach a).1.waiter := by
    refine .begins running (.free free) (fun _ _ => rfl) rfl fun w hw => ?_
    exact (Option.some.inj hw).symm
  have joins {w : AttachWaiter} (held : ∃ e : MemberRuntimeEntry, r.entries[a]? = some e ∧
      e.channel = some (w.operationId, w.outcomeRx)) (w' : AttachWaiter) (hw : some w = some w') :
      ∃ (a : String) (e : MemberRuntimeEntry),
        r.entries[a]? = some e ∧ e.channel = some (w'.operationId, w'.outcomeRx) := by
    cases hw
    obtain ⟨e, he, channel⟩ := held
    exact ⟨a, e, he, channel⟩
  unfold reserve
  split
  · exact .stay fun w hw => by cases hw
  next stopped =>
  have running : r.stopped = false := eq_false_of_ne_true stopped
  cases he : r.entries[a]? with
  | none => exact starts running fun e hf => by rw [he] at hf; cases hf
  | some e =>
    have free (idle : e.underWay = none) (e' : MemberRuntimeEntry) (hf : r.entries[a]? = some e') :
        e'.underWay = none := by
      rw [he] at hf
      cases hf
      exact idle
    cases e with
    | attaching id tx => exact .stay (joins (w := ⟨id, tx⟩) ⟨_, he, rfl⟩)
    | removing id tx => exact .stay (joins (w := ⟨id, tx⟩) ⟨_, he, rfl⟩)
    | ready =>
      cases overReady with
      | true => exact starts running (free rfl)
      | false => exact .stay fun w hw => by cases hw
    | failed id failure tx =>
      cases overFailed with
      | true => exact starts running (free rfl)
      | false => exact .stay (joins (w := ⟨id, tx⟩) ⟨_, he, rfl⟩)

lemma beginRemove_move : RuntimeMove r (r.beginRemove a).2 (r.beginRemove a).1.lease
    (r.beginRemove a).1.waiter := by
  have starts {r' : MemberRuntimeRegistry} (running : r.stopped = false) (freed : Freed r a r')
      (next : r'.nextOperationId = r.nextOperationId) :
      RuntimeMove r (r'.startRemove a).2 (r'.startRemove a).1.lease (r'.startRemove a).1.waiter := by
    refine .begins running freed (fun _ _ => rfl) next fun w hw => ?_
    cases hw
  unfold beginRemove
  split_ifs with stopped
  · exact .stay fun w hw => by cases hw
  have running : r.stopped = false := eq_false_of_ne_true stopped
  cases he : r.entries[a]? with
  | none => exact .stay fun w hw => by cases hw
  | some e =>
    have free (idle : e.underWay = none) : Freed r a r := by
      refine .free fun e' hf => ?_
      rw [he] at hf
      cases hf
      exact idle
    cases e with
    | attaching id tx => exact starts running (.cancelled he) rfl
    | ready => exact starts running (free rfl) rfl
    | failed id failure tx => exact starts running (free rfl) rfl
    | removing id tx =>
      refine .stay fun w hw => ⟨a, _, he, ?_⟩
      cases hw
      rfl

lemma owns_attach {lease : AttachLease} : Owns r (.attach lease) ↔
    lease.sessionGeneration = r.sessionGeneration ∧ r.stopped = false ∧
      ∃ tx, r.entries[lease.agentId]? = some (.attaching lease.operationId tx) := by
  show _ ∧ r.snapshot lease.agentId = .attaching lease.operationId ↔ _
  unfold snapshot
  cases r.stopped with
  | true => simp
  | false =>
    cases r.entries[lease.agentId]? with
    | none => simp
    | some e => cases e <;> simp [MemberLease.sessionGeneration]

lemma owns_remove {lease : RemoveLease} : Owns r (.remove lease) ↔
    lease.sessionGeneration = r.sessionGeneration ∧ r.stopped = false ∧
      ∃ tx, r.entries[lease.agentId]? = some (.removing lease.operationId tx) := by
  show _ ∧ r.snapshot lease.agentId = .removing lease.operationId ↔ _
  unfold snapshot
  cases r.stopped with
  | true => simp
  | false =>
    cases r.entries[lease.agentId]? with
    | none => simp
    | some e => cases e <;> simp [MemberLease.sessionGeneration]

lemma commitAttach_cases (r : MemberRuntimeRegistry) (lease : AttachLease)
    (entry : Nat → MemberRuntimeEntry) (o : AttachOutcome) :
    (r.commitAttach lease entry o = (false, r) ∧ ¬ Owns r (.attach lease)) ∨
      ∃ tx, r.stopped = false ∧ Owns r (.attach lease) ∧
        r.entries[lease.agentId]? = some (.attaching lease.operationId tx) ∧
        r.commitAttach lease entry o =
          (true, { r with entries := r.entries.insert lease.agentId (entry tx) }.sendReplace tx
            (.terminal o)) := by
  by_cases owns : Owns r (.attach lease)
  · obtain ⟨generation, running, tx, he⟩ := owns_attach.mp owns
    exact .inr ⟨tx, running, owns, he, by simp [commitAttach, generation, running, he]⟩
  · refine .inl ⟨?_, owns⟩
    unfold commitAttach
    split
    · rfl
    next same =>
      rw [not_or, not_not] at same
      split
      next id tx he =>
        split
        · rfl
        next eq =>
          rw [not_not] at eq
          subst eq
          exact absurd (owns_attach.mpr ⟨same.1, eq_false_of_ne_true same.2, tx, he⟩) owns
      · rfl

/-- The table after the entry of a member was written or erased. -/
def written (r : MemberRuntimeRegistry) (a : String) :
    Option MemberRuntimeEntry → Table String MemberRuntimeEntry
  | some entry => r.entries.insert a entry
  | none => r.entries.erase a

lemma get_written {entry : Option MemberRuntimeEntry} :
    (r.written a entry)[a']? = if a = a' then entry else r.entries[a']? := by
  cases entry with
  | none => exact Table.get_erase ..
  | some entry => exact Table.get_insert ..

lemma endRemove_cases (r : MemberRuntimeRegistry) (lease : RemoveLease)
    (entry : Nat → Option MemberRuntimeEntry) (o : AttachOutcome) :
    (r.endRemove lease entry o = (false, r) ∧ ¬ Owns r (.remove lease)) ∨
      ∃ tx, r.stopped = false ∧ Owns r (.remove lease) ∧
        r.entries[lease.agentId]? = some (.removing lease.operationId tx) ∧
        r.endRemove lease entry o =
          (true, { r with entries := r.written lease.agentId (entry tx) }.sendReplace tx
            (.terminal o)) := by
  by_cases owns : Owns r (.remove lease)
  · obtain ⟨generation, running, tx, he⟩ := owns_remove.mp owns
    refine .inr ⟨tx, running, owns, he, ?_⟩
    cases hentry : entry tx <;> simp [endRemove, generation, running, he, hentry, written]
  · refine .inl ⟨?_, owns⟩
    unfold endRemove
    split
    · rfl
    next same =>
      rw [not_or, not_not] at same
      split
      next id tx he =>
        split
        · rfl
        next eq =>
          rw [not_not] at eq
          subst eq
          exact absurd (owns_remove.mpr ⟨same.1, eq_false_of_ne_true same.2, tx, he⟩) owns
      · rfl

lemma commitAttach_move {lease : AttachLease} {entry : Nat → MemberRuntimeEntry}
    (idle : ∀ tx, (entry tx).underWay = none)
    (channel : ∀ tx c, (entry tx).channel = some c → c = (lease.operationId, tx)) :
    RuntimeMove r (r.commitAttach lease entry o).2 none none := by
  rcases commitAttach_cases r lease entry o with ⟨refused, _⟩ | ⟨tx, running, _, he, settled⟩
  · rw [refused]
    exact .stay fun w hw => by cases hw
  · have after : ∀ e', some (entry tx) = some e' → e'.underWay = none ∧
        ∀ c, e'.channel = some c → c = (lease.operationId, tx) := by
      intro e' h
      cases h
      exact ⟨idle tx, channel tx⟩
    rw [settled]
    exact .settles running he rfl after fun a' => Table.get_insert ..

lemma endRemove_move {lease : RemoveLease} {entry : Nat → Option MemberRuntimeEntry}
    (idle : ∀ tx e, entry tx = some e → e.underWay = none)
    (channel : ∀ tx e c, entry tx = some e → e.channel = some c → c = (lease.operationId, tx)) :
    RuntimeMove r (r.endRemove lease entry o).2 none none := by
  rcases endRemove_cases r lease entry o with ⟨refused, _⟩ | ⟨tx, running, _, he, settled⟩
  · rw [refused]
    exact .stay fun w hw => by cases hw
  · rw [settled]
    exact .settles running he rfl (fun e' h => ⟨idle tx e' h, fun c hc => channel tx e' c h hc⟩)
      fun a' => get_written

end MemberRuntimeRegistry

lemma RuntimeOp.move : RuntimeMove r (op.exec r) (op.granted r) (op.waiter r) := by
  cases op with
  | reserveAttach agentId retryFailed => exact MemberRuntimeRegistry.reserve_move
  | reserveRestart agentId => exact MemberRuntimeRegistry.reserve_move
  | reserveRepair agentId => exact MemberRuntimeRegistry.reserve_move
  | beginRemove agentId => exact MemberRuntimeRegistry.beginRemove_move
  | commitReady lease =>
    exact MemberRuntimeRegistry.commitAttach_move (fun _ => rfl) fun _ _ h => by cases h
  | commitFailed lease failure =>
    apply MemberRuntimeRegistry.commitAttach_move (fun _ => rfl)
    intro tx c h
    exact (Option.some.inj h).symm
  | finishRemove lease =>
    exact MemberRuntimeRegistry.endRemove_move (fun _ _ h => by cases h) fun _ _ _ h => by cases h
  | restoreAttachRequired lease failure =>
    apply MemberRuntimeRegistry.endRemove_move
    · intro tx e h
      cases h
      rfl
    · intro tx e c h hc
      cases h
      exact (Option.some.inj hc).symm
  | stop =>
    show RuntimeMove r r.stop.2 none none
    cases stopped : r.stopped with
    | true =>
      have same : r.stop.2 = r := by simp [MemberRuntimeRegistry.stop, stopped]
      rw [same]
      exact .stay fun w hw => by cases hw
    | false => exact .stops stopped

/-- What holds of the channels of a registry. The senders that entries hold are of channels that exist, and
no two entries share one; a channel without an outcome is the one of an operation under way, and the other
way round; and a registry that is stopped has no entries. -/
structure RegistryInv (r : MemberRuntimeRegistry) : Prop where
  exists' : ∀ (a : String) (e : MemberRuntimeEntry) (id tx : Nat), r.entries[a]? = some e →
    e.channel = some (id, tx) → tx < r.channels.length
  apart : ∀ (a a' : String) (e e' : MemberRuntimeEntry) (id id' tx : Nat), r.entries[a]? = some e →
    r.entries[a']? = some e' → e.channel = some (id, tx) → e'.channel = some (id', tx) → a = a'
  pending : ∀ (a : String) (e : MemberRuntimeEntry) (id tx : Nat), r.entries[a]? = some e →
    e.underWay = some (id, tx) → r.channels[tx]? = some .pending
  owned : ∀ tx : Nat, r.channels[tx]? = some .pending →
    ∃ (a : String) (e : MemberRuntimeEntry) (id : Nat), r.entries[a]? = some e ∧
      e.underWay = some (id, tx)
  empty : r.stopped = true → ∀ a : String, r.entries[a]? = none

variable {channels : List AttachSignal} {entries : List MemberRuntimeEntry}

lemma pending_set : (channels.set id (.terminal o))[tx]? = some .pending ↔
    channels[tx]? = some .pending ∧ id ≠ tx := by
  rw [List.getElem?_set]
  split_ifs with same lt
  · simp [same]
  · simp [same]
  · simp [same]

lemma pending_drained : (entries.foldl MemberRuntimeRegistry.drain channels)[tx]? = some .pending ↔
    channels[tx]? = some .pending ∧ ∀ e ∈ entries, ∀ id, e.underWay ≠ some (id, tx) := by
  induction entries generalizing channels with
  | nil => simp
  | cons e entries ih =>
    have one : (MemberRuntimeRegistry.drain channels e)[tx]? = some .pending ↔
        channels[tx]? = some .pending ∧ ∀ id, e.underWay ≠ some (id, tx) := by
      cases e with
      | attaching id tx' | removing id tx' =>
        apply pending_set.trans
        simp [MemberRuntimeEntry.underWay]
      | _ => simp [MemberRuntimeRegistry.drain, MemberRuntimeEntry.underWay]
    rw [List.foldl_cons, ih, one, and_assoc, List.forall_mem_cons]

lemma getElem_drained (free : ∀ e ∈ entries, ∀ id, e.underWay ≠ some (id, tx)) :
    (entries.foldl MemberRuntimeRegistry.drain channels)[tx]? = channels[tx]? := by
  induction entries generalizing channels with
  | nil => rfl
  | cons e entries ih =>
    obtain ⟨here, later⟩ := List.forall_mem_cons.mp free
    rw [List.foldl_cons, ih later]
    cases e with
    | attaching id tx' | removing id tx' =>
      apply List.getElem?_set_ne
      intro same
      exact here id (same ▸ rfl)
    | _ => rfl

namespace Freed

lemma fields (freed : Freed r a r') : r'.entries = r.entries ∧
    r'.nextOperationId = r.nextOperationId ∧ r'.stopped = r.stopped ∧
    r'.channels.length = r.channels.length := by
  cases freed with
  | free idle => exact ⟨rfl, rfl, rfl, rfl⟩
  | cancelled he => exact ⟨rfl, rfl, rfl, List.length_set⟩

lemma pending (freed : Freed r a r') : r'.channels[tx]? = some .pending ↔
    r.channels[tx]? = some .pending ∧ ∀ e : MemberRuntimeEntry, r.entries[a]? = some e →
      ∀ id, e.underWay ≠ some (id, tx) := by
  cases freed with
  | free idle =>
    refine (and_iff_left fun e he id => ?_).symm
    rw [idle e he]
    simp
  | @cancelled id tx' he =>
    apply pending_set.trans
    refine and_congr_right fun _ => ?_
    rw [he]
    simp [MemberRuntimeEntry.underWay]

lemma getElem (freed : Freed r a r') (other : ∀ e : MemberRuntimeEntry, r.entries[a]? = some e →
    ∀ id, e.underWay ≠ some (id, tx)) : r'.channels[tx]? = r.channels[tx]? := by
  cases freed with
  | free idle => rfl
  | @cancelled id tx' he =>
    apply List.getElem?_set_ne
    intro same
    exact other _ he id (same ▸ rfl)

end Freed

namespace RegistryInv

lemma not_underWay (inv : RegistryInv r) (sent : r.channels[tx]? = some (.terminal o))
    (he : r.entries[a]? = some e) : e.underWay ≠ some (id, tx) := by
  intro under
  have pending := inv.pending a e id tx he under
  rw [sent] at pending
  cases pending

lemma sent (inv : RegistryInv r) {lease : Option MemberLease} {waiter : Option AttachWaiter}
    (move : RuntimeMove r r' lease waiter) (sent : r.channels[tx]? = some (.terminal o)) :
    r'.channels[tx]? = some (.terminal o) := by
  cases move with
  | stay joined => exact sent
  | begins running freed entry next waiter =>
    have same := (freed.getElem fun e he id => inv.not_underWay sent he).trans sent
    exact List.getElem?_append_left (List.getElem?_eq_some_iff.mp same).1 |>.trans same
  | settles running he under idle lookups =>
    refine (List.getElem?_set_ne ?_).trans sent
    intro same
    subst same
    exact inv.not_underWay sent he under
  | stops running =>
    have stop : r.stop.2.channels =
        (Table.values r.entries).foldl MemberRuntimeRegistry.drain r.channels := by
      simp [MemberRuntimeRegistry.stop, running]
    rw [stop, getElem_drained]
    · exact sent
    · intro e he id
      obtain ⟨a, ha⟩ := Table.mem_values.mp he
      exact inv.not_underWay sent ha

/-- An operation that begins gets a channel of its own. -/
lemma begins {entry : Nat → Nat → MemberRuntimeEntry} (inv : RegistryInv r) (running : r.stopped = false)
    (freed : Freed r a r') (under : ∀ id tx, (entry id tx).underWay = some (id, tx)) :
    RegistryInv (r'.begin a entry) := by
  obtain ⟨entries, next, stopped, length⟩ := freed.fields
  have lookup (x : String) : (r'.begin a entry).entries[x]? =
      if a = x then some (entry r.nextOperationId r.channels.length) else r.entries[x]? := by
    rw [← entries, ← next, ← length]
    exact Table.get_insert ..
  have channel : (entry r.nextOperationId r.channels.length).channel =
      some (r.nextOperationId, r.channels.length) :=
    MemberRuntimeEntry.channel_of_underWay (under ..)
  have size : (r'.begin a entry).channels.length = r.channels.length + 1 := by
    rw [← length]
    exact List.length_append
  have old {tx : Nat} (lt : tx < r.channels.length) :
      (r'.begin a entry).channels[tx]? = r'.channels[tx]? :=
    List.getElem?_append_left (by omega)
  have new : (r'.begin a entry).channels[r.channels.length]? = some .pending := by
    rw [← length]
    exact List.getElem?_concat_length
  refine ⟨?_, ?_, ?_, ?_, ?_⟩
  · intro x e id tx he hc
    rw [lookup] at he
    split_ifs at he with here
    · cases he
      rw [channel] at hc
      cases hc
      omega
    · have := inv.exists' x e id tx he hc
      omega
  · intro x y e e' id id' tx he he' hc hc'
    rw [lookup] at he he'
    split_ifs at he he' with hx hy hy
    · exact hx.symm.trans hy
    · cases he
      rw [channel] at hc
      cases hc
      have := inv.exists' y e' id' _ he' hc'
      omega
    · cases he'
      rw [channel] at hc'
      cases hc'
      have := inv.exists' x e id _ he hc
      omega
    · exact inv.apart x y e e' id id' tx he he' hc hc'
  · intro x e id tx he hu
    rw [lookup] at he
    split_ifs at he with here
    · cases he
      rw [under] at hu
      cases hu
      exact new
    · have hc := MemberRuntimeEntry.channel_of_underWay hu
      rw [old (inv.exists' x e id tx he hc)]
      refine freed.pending.mpr ⟨inv.pending x e id tx he hu, fun e' he' id' hu' => here ?_⟩
      exact inv.apart a x e' e id' id tx he' he (MemberRuntimeEntry.channel_of_underWay hu') hc
  · intro tx pending
    have lt : tx < r.channels.length + 1 := by
      rw [← size]
      exact (List.getElem?_eq_some_iff.mp pending).1
    by_cases last : tx = r.channels.length
    · subst last
      exact ⟨a, _, r.nextOperationId, (lookup a).trans (if_pos rfl), under ..⟩
    · rw [old (by omega)] at pending
      obtain ⟨pending, other⟩ := freed.pending.mp pending
      obtain ⟨x, e, id, he, hu⟩ := inv.owned tx pending
      refine ⟨x, e, id, (lookup x).trans (if_neg fun here => ?_) |>.trans he, hu⟩
      subst here
      exact other e he id hu
  · intro stop
    rw [show (r'.begin a entry).stopped = r.stopped from stopped, running] at stop
    cases stop

/-- An operation that is settled leaves its channel with an outcome. -/
lemma settles {entry : Option MemberRuntimeEntry} (inv : RegistryInv r)
    (running : r.stopped = false) (he : r.entries[a]? = some e) (under : e.underWay = some (id, tx))
    (idle : ∀ e' : MemberRuntimeEntry, entry = some e' → e'.underWay = none ∧
      ∀ c, e'.channel = some c → c = (id, tx))
    (lookup : ∀ x : String, r'.entries[x]? = if a = x then entry else r.entries[x]?)
    (channels : r'.channels = r.channels.set tx (.terminal o)) (stopped : r'.stopped = r.stopped) :
    RegistryInv r' := by
  have channel := MemberRuntimeEntry.channel_of_underWay under
  refine ⟨?_, ?_, ?_, ?_, ?_⟩
  · intro x e' id' tx' he' hc
    rw [channels, List.length_set]
    rw [lookup] at he'
    split_ifs at he' with here
    · cases (idle e' he').2 _ hc
      exact inv.exists' a e id tx he channel
    · exact inv.exists' x e' id' tx' he' hc
  · intro x y e1 e2 id1 id2 tx' h1 h2 c1 c2
    rw [lookup] at h1 h2
    split_ifs at h1 h2 with hx hy hy
    · exact hx.symm.trans hy
    · cases (idle e1 h1).2 _ c1
      subst hx
      exact inv.apart _ y e e2 id id2 tx he h2 channel c2
    · cases (idle e2 h2).2 _ c2
      subst hy
      exact inv.apart x _ e1 e id1 id tx h1 he c1 channel
    · exact inv.apart x y e1 e2 id1 id2 tx' h1 h2 c1 c2
  · intro x e' id' tx' he' hu
    rw [lookup] at he'
    split_ifs at he' with here
    · rw [(idle e' he').1] at hu
      cases hu
    · rw [channels]
      refine pending_set.mpr ⟨inv.pending x e' id' tx' he' hu, fun same => here ?_⟩
      subst same
      exact inv.apart a x e e' id id' tx he he' channel (MemberRuntimeEntry.channel_of_underWay hu)
  · intro tx' pending
    rw [channels] at pending
    obtain ⟨pending, ne⟩ := pending_set.mp pending
    obtain ⟨x, e', id', he', hu⟩ := inv.owned tx' pending
    refine ⟨x, e', id', (lookup x).trans (if_neg fun here => ?_) |>.trans he', hu⟩
    subst here
    rw [he] at he'
    cases he'
    rw [under] at hu
    cases hu
    exact ne rfl
  · intro stop
    rw [stopped, running] at stop
    cases stop

lemma stops (inv : RegistryInv r) (running : r.stopped = false) : RegistryInv r.stop.2 := by
  have fields : r.stop.2.entries = ∅ ∧ r.stop.2.channels =
      (Table.values r.entries).foldl MemberRuntimeRegistry.drain r.channels := by
    simp [MemberRuntimeRegistry.stop, running]
  have none' (x : String) : r.stop.2.entries[x]? = none := by
    rw [fields.1]
    exact Table.get_empty
  refine ⟨?_, ?_, ?_, ?_, fun _ => none'⟩
  · intro x e id tx he
    rw [none'] at he
    cases he
  · intro x y e e' id id' tx he
    rw [none'] at he
    cases he
  · intro x e id tx he
    rw [none'] at he
    cases he
  · intro tx pending
    rw [fields.2] at pending
    obtain ⟨pending, free⟩ := pending_drained.mp pending
    obtain ⟨x, e, id, he, hu⟩ := inv.owned tx pending
    exact absurd hu (free e (Table.mem_values.mpr ⟨x, he⟩) id)

lemma new {generation : String} : RegistryInv (.new generation) := by
  have none' (x : String) : (MemberRuntimeRegistry.new generation).entries[x]? = none := Table.get_empty
  refine ⟨?_, ?_, ?_, ?_, fun _ => none'⟩
  · intro x e id tx he
    rw [none'] at he
    cases he
  · intro x y e e' id id' tx he
    rw [none'] at he
    cases he
  · intro x e id tx he
    rw [none'] at he
    cases he
  · intro tx pending
    cases pending

lemma move (inv : RegistryInv r) {lease : Option MemberLease} {waiter : Option AttachWaiter}
    (move : RuntimeMove r r' lease waiter) : RegistryInv r' := by
  cases move with
  | stay joined => exact inv
  | begins running freed under next waiter => exact inv.begins running freed under
  | settles running he under idle lookup => exact inv.settles running he under idle lookup rfl rfl
  | stops running => exact inv.stops running

end RegistryInv

lemma outcome_eq_none (inv : RegistryInv r) (bounded : w.outcomeRx < r.channels.length) :
    w.outcome r = none ↔ r.channels[w.outcomeRx]? = some .pending := by
  obtain ⟨signal, hs⟩ : ∃ signal, r.channels[w.outcomeRx]? = some signal :=
    ⟨_, List.getElem?_eq_getElem bounded⟩
  unfold AttachWaiter.outcome
  rw [hs]
  cases signal with
  | terminal o => simp
  | pending =>
    obtain ⟨a, e, id, he, under⟩ := inv.owned _ hs
    have held : (Table.values r.entries).any (fun entry =>
        entry.channel.any fun channel => channel.2 = w.outcomeRx) = true := by
      apply List.any_eq_true.mpr
      refine ⟨e, Table.mem_values.mpr ⟨a, he⟩, ?_⟩
      simp [MemberRuntimeEntry.channel_of_underWay under]
    simp [held]

lemma outcome_eq_some (inv : RegistryInv r) (bounded : w.outcomeRx < r.channels.length) :
    w.outcome r = some o ↔ r.channels[w.outcomeRx]? = some (.terminal o) := by
  cases hs : r.channels[w.outcomeRx]? with
  | none => exact absurd (List.getElem?_eq_none_iff.mp hs) (not_le.mpr bounded)
  | some signal =>
    cases signal with
    | terminal o' => simp [AttachWaiter.outcome, hs]
    | pending =>
      rw [(outcome_eq_none inv bounded).mpr hs]
      simp

/-- What holds of a history. The waiters are of channels that exist, and of the operations that the entries
name; and the ids of the leases count from 1, modulo the width of the counter. -/
structure HistoryInv (h : RuntimeHistory) : Prop where
  registry : RegistryInv h.registry
  bounded : ∀ w ∈ h.waiters, w.outcomeRx < h.registry.channels.length
  named : ∀ w ∈ h.waiters, ∀ (a : String) (e : MemberRuntimeEntry) (id : Nat),
    h.registry.entries[a]? = some e → e.channel = some (id, w.outcomeRx) → id = w.operationId
  next : h.registry.nextOperationId = (h.granted.length + 1) % 2 ^ 64
  ids : h.granted.map (·.operationId) =
    (List.range h.granted.length).map fun k => (k + 1) % 2 ^ 64

namespace HistoryInv

lemma start {generation : String} : HistoryInv (.initial generation) where
  registry := .new
  bounded w hw := by cases hw
  named w hw := by cases hw
  next := rfl
  ids := rfl

variable {lease : Option MemberLease}

lemma length_channels {waiter : Option AttachWaiter}
    (move : RuntimeMove r r' lease waiter) : r.channels.length ≤ r'.channels.length := by
  cases move with
  | stay joined => exact le_refl _
  | begins running freed under next waiter =>
    obtain ⟨_, _, _, length⟩ := freed.fields
    show _ ≤ (_ ++ [_]).length
    rw [List.length_append, length]
    omega
  | settles running he under idle lookup => exact (List.length_set ..).ge
  | stops running =>
    have fold (entries : List MemberRuntimeEntry) (channels : List AttachSignal) :
        (entries.foldl MemberRuntimeRegistry.drain channels).length = channels.length := by
      induction entries generalizing channels with
      | nil => rfl
      | cons e entries ih =>
        rw [List.foldl_cons, ih]
        cases e <;> simp [MemberRuntimeRegistry.drain]
    have stop : r.stop.2.channels =
        (Table.values r.entries).foldl MemberRuntimeRegistry.drain r.channels := by
      simp [MemberRuntimeRegistry.stop, running]
    rw [stop, fold]

lemma named_move {waiter : Option AttachWaiter}
    (move : RuntimeMove r r' lease waiter) (bounded : w.outcomeRx < r.channels.length)
    (named : ∀ (a : String) (e : MemberRuntimeEntry) (id : Nat), r.entries[a]? = some e →
      e.channel = some (id, w.outcomeRx) → id = w.operationId)
    (he : r'.entries[a]? = some e) (hc : e.channel = some (id, w.outcomeRx)) :
    id = w.operationId := by
  cases move with
  | stay joined => exact named a e id he hc
  | @begins r' x entry _ _ running freed under next _ =>
    obtain ⟨entries, _, _, length⟩ := freed.fields
    rw [show (r'.begin x entry).entries[a]? = _ from Table.get_insert ..] at he
    split_ifs at he with here
    · cases he
      rw [MemberRuntimeEntry.channel_of_underWay (under ..)] at hc
      have last : r'.channels.length = w.outcomeRx := congrArg Prod.snd (Option.some.inj hc)
      omega
    · rw [entries] at he
      exact named a e id he hc
  | settles running hx under idle lookup =>
    have he := (lookup a).symm.trans he
    split_ifs at he with here
    · cases (idle e he).2 _ hc
      exact named _ _ _ hx (MemberRuntimeEntry.channel_of_underWay under)
    · exact named a e id he hc
  | stops running =>
    have none' : r.stop.2.entries[a]? = none := by
      rw [show r.stop.2.entries = ∅ by simp [MemberRuntimeRegistry.stop, running]]
      exact Table.get_empty
    rw [none'] at he
    cases he

lemma named_new (inv : RegistryInv r) {lease : Option MemberLease}
    (move : RuntimeMove r r' lease (some w)) : w.outcomeRx < r'.channels.length ∧
      ∀ (a : String) (e : MemberRuntimeEntry) (id : Nat), r'.entries[a]? = some e →
        e.channel = some (id, w.outcomeRx) → id = w.operationId := by
  cases move with
  | stay joined =>
    obtain ⟨a, e, he, hc⟩ := joined w rfl
    refine ⟨inv.exists' a e _ _ he hc, fun a' e' id he' hc' => ?_⟩
    obtain rfl := inv.apart a a' e e' _ _ _ he he' hc hc'
    rw [he] at he'
    cases he'
    rw [hc] at hc'
    cases hc'
    rfl
  | @begins r' x entry _ _ running freed under _ waiter =>
    obtain ⟨entries, next, _, length⟩ := freed.fields
    obtain rfl := waiter w rfl
    constructor
    · show _ < (_ ++ [_]).length
      rw [List.length_append, length]
      exact Nat.lt_succ_self _
    · intro a e id he hc
      rw [show (r'.begin x entry).entries[a]? = _ from Table.get_insert ..] at he
      split_ifs at he with here
      · cases he
        rw [MemberRuntimeEntry.channel_of_underWay (under ..)] at hc
        exact (congrArg Prod.fst (Option.some.inj hc)).symm.trans next
      · rw [entries] at he
        have := inv.exists' a e id _ he hc
        exact absurd this (lt_irrefl _)

lemma ids_move {waiter : Option AttachWaiter} {granted : List MemberLease}
    (move : RuntimeMove r r' lease waiter) (next : r.nextOperationId = (granted.length + 1) % 2 ^ 64)
    (ids : granted.map (·.operationId) = (List.range granted.length).map fun k => (k + 1) % 2 ^ 64) :
    r'.nextOperationId = ((granted ++ lease.toList).length + 1) % 2 ^ 64 ∧
      (granted ++ lease.toList).map (·.operationId) =
        (List.range (granted ++ lease.toList).length).map fun k => (k + 1) % 2 ^ 64 := by
  cases move with
  | stay joined => simpa using ⟨next, ids⟩
  | begins running freed under leaseId waiter =>
    obtain ⟨_, same, _, _⟩ := freed.fields
    constructor
    · show u64WrappingSucc _ = _
      rw [same, next, u64WrappingSucc]
      simp
    · rw [Option.toList_some, List.map_append, List.length_append, List.length_singleton,
        List.range_succ, List.map_append, ids]
      simp [leaseId, next]
  | settles running he under idle lookup => simpa using ⟨next, ids⟩
  | stops running =>
    have same : r.stop.2.nextOperationId = r.nextOperationId := by
      simp [MemberRuntimeRegistry.stop, running]
    rw [same]
    simpa using ⟨next, ids⟩

lemma perform (inv : HistoryInv h) : HistoryInv (h.perform op) := by
  have move : RuntimeMove h.registry (op.exec h.registry) (op.granted h.registry)
      (op.waiter h.registry) := RuntimeOp.move
  have ids := ids_move move inv.next inv.ids
  refine ⟨inv.registry.move move, fun w hw => ?_, fun w hw a e id he hc => ?_, ids.1, ids.2⟩
  · rcases List.mem_append.mp hw with old | new
    · exact (inv.bounded w old).trans_le (length_channels move)
    · rw [Option.mem_toList.mp new] at move
      exact (named_new inv.registry move).1
  · rcases List.mem_append.mp hw with old | new
    · exact named_move move (inv.bounded w old) (inv.named w old) he hc
    · rw [Option.mem_toList.mp new] at move
      exact (named_new inv.registry move).2 a e id he hc

lemma increasing (inv : HistoryInv h) (few : h.granted.length < 2 ^ 64) :
    (h.granted.map (·.operationId)).Pairwise (· < ·) := by
  have plain : (List.range h.granted.length).map (fun k => (k + 1) % 2 ^ 64) =
      (List.range h.granted.length).map (· + 1) := by
    apply List.map_congr_left
    intro k hk
    have := List.mem_range.mp hk
    exact Nat.mod_eq_of_lt (by omega)
  rw [inv.ids, plain, List.pairwise_map]
  exact List.pairwise_lt_range.imp fun lt => Nat.add_lt_add_right lt 1

lemma owner (inv : HistoryInv h) (few : h.granted.length < 2 ^ 64) {l l' : MemberLease}
    (hl : l ∈ h.granted) (hl' : l' ∈ h.granted) (same : l.agentId = l'.agentId)
    (owns : Owns h.registry l) (owns' : Owns h.registry l') : l = l' := by
  have phase : l.phase = l'.phase := by
    rw [← owns.2, ← owns'.2, same]
  have id : l.operationId = l'.operationId := by
    cases l with
    | attach l =>
      cases l' with
      | attach l' => exact MemberRuntimeSnapshot.attaching.inj phase
      | remove l' => cases phase
    | remove l =>
      cases l' with
      | attach l' => cases phase
      | remove l' => exact MemberRuntimeSnapshot.removing.inj phase
  have nodup : (h.granted.map (·.operationId)).Nodup := (inv.increasing few).imp ne_of_lt
  exact List.inj_on_of_nodup_map nodup hl hl' id

end HistoryInv

lemma commitAttach_honoured (r : MemberRuntimeRegistry) (lease : AttachLease)
    (entry : Nat → MemberRuntimeEntry) (o : AttachOutcome) (after : MemberRuntimeSnapshot)
    (ends : ∀ (tx : Nat) (r' : MemberRuntimeRegistry), r'.stopped = false →
      r'.entries[lease.agentId]? = some (entry tx) → r'.snapshot lease.agentId = after) :
    ((r.commitAttach lease entry o).1 = true ↔ Owns r (.attach lease)) ∧
      ((r.commitAttach lease entry o).1 = true →
        (r.commitAttach lease entry o).2.snapshot lease.agentId = after) ∧
      ((r.commitAttach lease entry o).1 = false → (r.commitAttach lease entry o).2 = r) := by
  rcases MemberRuntimeRegistry.commitAttach_cases r lease entry o with
    ⟨refused, foreign⟩ | ⟨tx, running, owns, _, settled⟩
  · rw [refused]
    simp [foreign]
  · rw [settled]
    refine ⟨iff_of_true rfl owns, fun _ => ends tx _ running ?_, fun h => by cases h⟩
    exact (Table.get_insert ..).trans (if_pos rfl)

lemma endRemove_honoured (r : MemberRuntimeRegistry) (lease : RemoveLease)
    (entry : Nat → Option MemberRuntimeEntry) (o : AttachOutcome) (after : MemberRuntimeSnapshot)
    (ends : ∀ (tx : Nat) (r' : MemberRuntimeRegistry), r'.stopped = false →
      r'.entries[lease.agentId]? = entry tx → r'.snapshot lease.agentId = after) :
    ((r.endRemove lease entry o).1 = true ↔ Owns r (.remove lease)) ∧
      ((r.endRemove lease entry o).1 = true →
        (r.endRemove lease entry o).2.snapshot lease.agentId = after) ∧
      ((r.endRemove lease entry o).1 = false → (r.endRemove lease entry o).2 = r) := by
  rcases MemberRuntimeRegistry.endRemove_cases r lease entry o with
    ⟨refused, foreign⟩ | ⟨tx, running, owns, _, settled⟩
  · rw [refused]
    simp [foreign]
  · rw [settled]
    refine ⟨iff_of_true rfl owns, fun _ => ends tx _ running ?_, fun h => by cases h⟩
    exact MemberRuntimeRegistry.get_written.trans (if_pos rfl)

lemma RuntimeOp.honoured_iff {lease : MemberLease} {honoured : Bool} {after : MemberRuntimeSnapshot}
    (settles : op.settles r = some (lease, honoured, after)) :
    (honoured = true ↔ Owns r lease) ∧
      (honoured = true → (op.exec r).snapshot lease.agentId = after) ∧
      (honoured = false → op.exec r = r) := by
  cases op with
  | commitReady lease =>
    cases settles
    apply commitAttach_honoured
    intro tx r' running he
    simp [MemberRuntimeRegistry.snapshot, running, he]
  | commitFailed lease failure =>
    cases settles
    apply commitAttach_honoured
    intro tx r' running he
    simp [MemberRuntimeRegistry.snapshot, running, he]
  | finishRemove lease =>
    cases settles
    apply endRemove_honoured
    intro tx r' running he
    simp [MemberRuntimeRegistry.snapshot, running, he]
  | restoreAttachRequired lease failure =>
    cases settles
    apply endRemove_honoured
    intro tx r' running he
    simp [MemberRuntimeRegistry.snapshot, running, he]
  | _ => cases settles

lemma RuntimeOp.exec_stopped (stopped : r.stopped = true) : op.exec r = r := by
  have foreign : ∀ lease, ¬ Owns r lease := by
    intro lease owns
    have phase := owns.2
    rw [MemberRuntimeRegistry.snapshot, if_pos stopped] at phase
    cases lease <;> cases phase
  have refused {lease : MemberLease} {honoured : Bool} {after : MemberRuntimeSnapshot}
      (settles : op.settles r = some (lease, honoured, after)) : op.exec r = r := by
    obtain ⟨owns, _, same⟩ := honoured_iff settles
    exact same (eq_false_of_ne_true fun h => foreign lease (owns.mp h))
  cases op with
  | reserveAttach agentId retryFailed =>
    simp [exec, MemberRuntimeRegistry.reserveAttach, MemberRuntimeRegistry.reserve, stopped]
  | reserveRestart agentId =>
    simp [exec, MemberRuntimeRegistry.reserveRestart, MemberRuntimeRegistry.reserve, stopped]
  | reserveRepair agentId =>
    simp [exec, MemberRuntimeRegistry.reserveRepair, MemberRuntimeRegistry.reserve, stopped]
  | beginRemove agentId => simp [exec, MemberRuntimeRegistry.beginRemove, stopped]
  | stop => simp [exec, MemberRuntimeRegistry.stop, stopped]
  | _ => exact refused rfl

lemma HistoryInv.kept (inv : HistoryInv h) : RuntimeKept h op := by
  have inv' : HistoryInv (h.perform op) := inv.perform
  refine ⟨fun few l hl l' hl' => inv'.owner few hl hl', inv'.increasing,
    fun lease honoured after settles => RuntimeOp.honoured_iff settles, fun w hw o sent => ?_,
    fun w hw unanswered => ?_, RuntimeOp.exec_stopped⟩
  · have before := (outcome_eq_some inv.registry (inv.bounded w hw)).mp sent
    have bounded : w.outcomeRx < (op.exec h.registry).channels.length :=
      (inv.bounded w hw).trans_le (length_channels RuntimeOp.move)
    have after := inv.registry.sent op.move before
    exact (outcome_eq_some inv'.registry bounded).mpr after
  · have pending := (outcome_eq_none inv'.registry (inv'.bounded w hw)).mp unanswered
    obtain ⟨a, e, id, he, under⟩ := inv'.registry.owned _ pending
    have named := inv'.named w hw a e id he (MemberRuntimeEntry.channel_of_underWay under)
    rw [named] at under
    exact ⟨a, e, he, under⟩

/-- Every operation of every run of a registry keeps what is promised. -/
theorem registry_kept {generation : String} {ops : List RuntimeOp} :
    LTS.EnabledAll RuntimeKept RuntimeHistory.perform (.initial generation) ops :=
  LTS.enabledAll_of (fun _ _ inv => ⟨HistoryInv.kept inv, HistoryInv.perform inv⟩) HistoryInv.start

/-- The lease of the `k`-th restart of a worker. -/
def restartLease (k : Nat) : AttachLease where
  sessionGeneration := "generation"
  agentId := "worker"
  waiter := ⟨(k + 1) % 2 ^ 64, k⟩

/-- A worker is restarted `n` times. -/
def restarts : Nat → List RuntimeOp
  | 0 => []
  | k + 1 => restarts k ++ [.reserveRestart "worker", .commitReady (restartLease k)]

/-- The worker is not attaching, in a registry that runs. -/
structure AtRest (r : MemberRuntimeRegistry) : Prop where
  generation : r.sessionGeneration = "generation"
  running : r.stopped = false
  entry : r.entries["worker"]? = none ∨ r.entries["worker"]? = some .ready

lemma AtRest.restart {k : Nat} (rest : AtRest h.registry)
    (next : h.registry.nextOperationId = (k + 1) % 2 ^ 64) :
    AtRest ((h.perform (.reserveRestart "worker")).perform (.commitReady (restartLease k))).registry ∧
      ((h.perform (.reserveRestart "worker")).perform
        (.commitReady (restartLease k))).granted.length = h.granted.length + 1 := by
  have starts : h.registry.reserveRestart "worker" = h.registry.startAttach "worker" := by
    rcases rest.entry with none' | ready
    · simp [MemberRuntimeRegistry.reserveRestart, MemberRuntimeRegistry.reserve, rest.running, none']
    · simp [MemberRuntimeRegistry.reserveRestart, MemberRuntimeRegistry.reserve, rest.running, ready]
  have begun : (h.perform (.reserveRestart "worker")).registry =
      h.registry.begin "worker" .attaching := congrArg Prod.snd starts
  have attaching : (h.registry.begin "worker" .attaching).entries["worker"]? =
      some (.attaching ((k + 1) % 2 ^ 64) h.registry.channels.length) := by
    rw [← next]
    exact (Table.get_insert ..).trans (if_pos rfl)
  have owns : Owns (h.registry.begin "worker" .attaching) (.attach (restartLease k)) :=
    MemberRuntimeRegistry.owns_attach.mpr ⟨rest.generation.symm, rest.running, _, attaching⟩
  constructor
  · show AtRest ((h.perform (.reserveRestart "worker")).registry.commitReady (restartLease k)).2
    rw [begun]
    rcases MemberRuntimeRegistry.commitAttach_cases (h.registry.begin "worker" .attaching)
      (restartLease k) (fun _ => .ready) .ready with ⟨_, foreign⟩ | ⟨tx, _, _, _, settled⟩
    · exact absurd owns foreign
    · rw [MemberRuntimeRegistry.commitReady, settled]
      exact ⟨rest.generation, rest.running, .inr ((Table.get_insert ..).trans (if_pos rfl))⟩
  · show (h.granted ++ (h.registry.reserveRestart "worker").1.lease.toList ++ []).length = _
    rw [starts, List.append_nil, List.length_append]
    rfl

lemma restarts_granted (n : Nat) :
    AtRest ((restarts n).foldl RuntimeHistory.perform (.initial "generation")).registry ∧
      HistoryInv ((restarts n).foldl RuntimeHistory.perform (.initial "generation")) ∧
      ((restarts n).foldl RuntimeHistory.perform (.initial "generation")).granted.length = n := by
  induction n with
  | zero => exact ⟨⟨rfl, rfl, .inl Table.get_empty⟩, .start, rfl⟩
  | succ k ih =>
    obtain ⟨rest, inv, length⟩ := ih
    rw [restarts, List.foldl_append]
    have next := inv.next
    rw [length] at next
    obtain ⟨rest', length'⟩ := rest.restart next
    exact ⟨rest', inv.perform.perform, length'.trans (congrArg (· + 1) length)⟩

/-- After 2^64 restarts of a worker, the counter has wrapped around: the last id is below the first. -/
theorem restarts_wrap :
    ¬ ((((restarts (2 ^ 64)).foldl RuntimeHistory.perform
      (.initial "generation")).granted.map (·.operationId)).Pairwise (· < ·)) := by
  obtain ⟨_, inv, length⟩ := restarts_granted (2 ^ 64)
  intro increasing
  rw [inv.ids, length, List.pairwise_map] at increasing
  have first : 0 < (List.range (2 ^ 64)).length := by
    rw [List.length_range]
    omega
  have last : 2 ^ 64 - 1 < (List.range (2 ^ 64)).length := by
    rw [List.length_range]
    omega
  have wrapped := List.pairwise_iff_getElem.mp increasing 0 (2 ^ 64 - 1) first last (by omega)
  rw [List.getElem_range, List.getElem_range] at wrapped
  omega

end KiCore.Team

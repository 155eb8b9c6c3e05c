import KiCore.Conversation.RuntimeState
import KiCore.Lib.Pool
import KiCore.Lib.Transition

/-!
# Claims of turns, side by side

What the calls of `ConversationService` do to the runtime state of a conversation: turns that are
claimed and released, deletes, cancels and restarts, the forced clear of a revoked session and the
shutdown. The calls run side by side, and each operation on the state is one step.

Two things go wrong. The flag of a delete has no owner: the release of the active turn takes it down
though the delete still runs, and so do the end of another delete and the forced clear. And a cancel
looks at the active turn first and raises its flag afterwards: if the turn is released in between,
the flag stays up for the next turn. A deferred cancel carries its turn and has no such trouble.
-/

namespace KiCore.Conversation

open KiCore.Lib

structure TurnClaim where
  turnId : Nat
  released : Bool

structure DeleteCall where
  hadActiveTurn : Bool
  inProgress : Bool

/-- A cancel has found its turn active, or waits for the agent. -/
inductive CancelStage where
  | found (turnId : Nat)
  | cancelling (turnId : Nat)
  | done
  deriving DecidableEq

/-- The runtime state of a conversation, and the calls that were made. `raised` are the turns that
the cancelling flag was raised for, `cleared` those that lost their claim to a clear, `deferred` and
`taken` the deferred cancels, each with its turn. -/
structure TurnClaims where
  conversationId : String
  state : ConversationRuntimeState
  minted : Nat
  claims : List TurnClaim
  deletes : List DeleteCall
  cancels : List CancelStage
  restarts : List Bool
  raised : List Nat
  cleared : List Nat
  deferred : List Nat
  taken : List Nat

namespace TurnClaims

inductive Event where
  | claim
  | release (claim : Nat)
  | beginDelete
  | endDelete (delete : Nat) (ok : Bool)
  | beginCancel (turnId : Nat)
  | recordCancel (cancel : Nat) (hasTask : Bool)
  | endCancel (cancel : Nat) (ok : Bool)
  | takeDeferredCancel (claim : Nat)
  | beginRestart
  | clearForRestart (restart : Nat)
  | endRestart (restart : Nat)
  | clearConversation
  | shutDown
  deriving DecidableEq

def start (conversationId : String) : TurnClaims where
  conversationId := conversationId
  state := .default
  minted := 0
  claims := []
  deletes := []
  cancels := []
  restarts := []
  raised := []
  cleared := []
  deferred := []
  taken := []

variable (c : TurnClaims)

def claim : TurnClaims :=
  match c.state.tryClaimTurn c.conversationId c.minted with
  | .ok state => { c with
      state
      minted := c.minted + 1
      claims := c.claims ++ [{ turnId := c.minted, released := false }] }
  | .error _ => { c with minted := c.minted + 1 }

/-- A claim is released or dropped. The second time does nothing. -/
def release (c : TurnClaims) (k : Nat) (held : TurnClaim) : TurnClaims :=
  if held.released then c
  else { c with
    state := (c.state.release held.turnId).2
    claims := c.claims.set k { held with released := true }
    raised := if c.state.activeTurn = some held.turnId then [] else c.raised }

def beginDelete : TurnClaims :=
  let marked := c.state.markDeleting
  { c with
    state := marked.2
    deletes := c.deletes ++ [{ hadActiveTurn := marked.1, inProgress := true }] }

/-- The row is deleted, or not. The flag is left to the turn that was active. -/
def endDelete (k : Nat) (delete : DeleteCall) (ok : Bool) : TurnClaims :=
  if delete.inProgress then
    { c with
      state := if ok ∧ delete.hadActiveTurn then c.state else c.state.clearDeleting
      deletes := c.deletes.set k { delete with inProgress := false } }
  else c

def beginCancel (turnId : Nat) : TurnClaims :=
  if c.state.activeTurn = some turnId then { c with cancels := c.cancels ++ [.found turnId] } else c

/-- The flag is raised if there is an agent to tell, else the cancel is deferred. -/
def recordCancel (k turnId : Nat) (hasTask : Bool) : TurnClaims :=
  if hasTask then
    { c with
      state := c.state.markCancelling
      cancels := c.cancels.set k (.cancelling turnId)
      raised := turnId :: c.raised }
  else
    { c with
      state := c.state.deferCancel turnId
      cancels := c.cancels.set k .done
      deferred := turnId :: c.deferred }

def endCancel (k : Nat) (ok : Bool) : TurnClaims :=
  if ok then { c with cancels := c.cancels.set k .done }
  else { c with
    state := c.state.clearCancelling
    cancels := c.cancels.set k .done
    raised := [] }

/-- The orchestrator of a turn asks for a cancel that was meant for it. -/
def takeDeferredCancel (c : TurnClaims) (turnId : Nat) : TurnClaims :=
  let asked := c.state.takeDeferredCancel turnId
  { c with state := asked.2, taken := if asked.1 then turnId :: c.taken else c.taken }

def beginRestart (c : TurnClaims) : TurnClaims :=
  match c.state.beginRestart c.conversationId with
  | .ok state => { c with state, restarts := c.restarts ++ [true] }
  | .error _ => c

def clearForRestart : TurnClaims :=
  { c with
    state := c.state.clearTurnStateForRestart
    raised := []
    cleared := c.state.activeTurn.toList ++ c.cleared }

def endRestart (k : Nat) : TurnClaims :=
  { c with state := c.state.clearRestarting, restarts := c.restarts.set k false }

def clearConversation (c : TurnClaims) : TurnClaims :=
  { c with
    state := c.state.clearConversation
    raised := []
    cleared := c.state.activeTurn.toList ++ c.cleared }

def foundTurn (k : Nat) : Option Nat :=
  match c.cancels[k]? with
  | some (.found turnId) => some turnId
  | _ => none

def next : Event → TurnClaims
  | .claim => c.claim
  | .release k => (c.claims[k]?).elim c (c.release k)
  | .beginDelete => c.beginDelete
  | .endDelete k ok => (c.deletes[k]?).elim c (c.endDelete k · ok)
  | .beginCancel turnId => c.beginCancel turnId
  | .recordCancel k hasTask => (c.foundTurn k).elim c (c.recordCancel k · hasTask)
  | .endCancel k ok =>
    match c.cancels[k]? with
    | some (.cancelling _) => c.endCancel k ok
    | _ => c
  | .takeDeferredCancel k => (c.claims[k]?).elim c fun held => c.takeDeferredCancel held.turnId
  | .beginRestart => c.beginRestart
  | .clearForRestart k => if c.restarts[k]? = some true then c.clearForRestart else c
  | .endRestart k => if c.restarts[k]? = some true then c.endRestart k else c
  | .clearConversation => c.clearConversation
  | .shutDown => { c with state := c.state.markShuttingDown }

def deleteInProgress : Bool :=
  c.deletes.any (·.inProgress)

def restartInProgress : Bool :=
  c.restarts.any id

/-- No operation takes a flag down under a delete or restart that still needs it, and a cancel
raises its flag while its turn is active. -/
def FlagsKept : Event → Prop
  | .release k => ∀ held ∈ c.claims[k]?, held.released = false →
    c.state.activeTurn = some held.turnId → c.deleteInProgress = false
  | .endDelete k ok => ∀ delete ∈ c.deletes[k]?, delete.inProgress = true →
    ¬ (ok = true ∧ delete.hadActiveTurn = true) →
    (c.deletes.set k { delete with inProgress := false }).any (·.inProgress) = false
  | .recordCancel k hasTask => ∀ turnId ∈ c.foundTurn k, hasTask = true →
    c.state.activeTurn = some turnId
  | .clearConversation => c.deleteInProgress = false ∧ c.restartInProgress = false
  | _ => True

instance : (event : Event) → Decidable (c.FlagsKept event)
  | .release k => inferInstanceAs (Decidable (∀ held ∈ c.claims[k]?, _))
  | .endDelete k _ => inferInstanceAs (Decidable (∀ delete ∈ c.deletes[k]?, _))
  | .recordCancel k _ => inferInstanceAs (Decidable (∀ turnId ∈ c.foundTurn k, _))
  | .clearConversation => inferInstanceAs (Decidable (_ ∧ _))
  | .claim | .beginDelete | .beginCancel _ | .endCancel .. | .takeDeferredCancel _ | .beginRestart |
    .clearForRestart _ | .endRestart _ | .shutDown => .isTrue trivial

/-- What carries `Hygienic` from step to step. -/
structure Tracked (c : TurnClaims) : Prop where
  fresh : ∀ held ∈ c.claims, held.turnId < c.minted
  distinct : ∀ (i j : Nat) (a b : TurnClaim), c.claims[i]? = some a → c.claims[j]? = some b →
    a.turnId = b.turnId → i = j
  active : ∀ turnId, c.state.activeTurn = some turnId → turnId < c.minted ∧ turnId ∉ c.cleared
  cleared : ∀ turnId ∈ c.cleared, turnId < c.minted
  deleting : c.deleteInProgress = true → c.state.deleting = true
  restarting : c.restartInProgress = true → c.state.restarting = true
  oneRestart : ∀ i j : Nat, c.restarts[i]? = some true → c.restarts[j]? = some true → i = j
  raised : ∀ turnId ∈ c.raised, c.state.activeTurn = some turnId
  deferred : ∀ turnId, (c.state.deferredCancel.toList ++ c.taken).count turnId ≤
    c.deferred.count turnId

variable {c : TurnClaims} {k : Nat} {held : TurnClaim} {delete : DeleteCall} {ok hasTask : Bool}
  {turnId : Nat} {event : Event}

lemma Tracked.taken_le (h : c.Tracked) (turnId : Nat) :
    c.taken.count turnId ≤ c.deferred.count turnId := by
  apply le_trans _ (h.deferred turnId)
  rw [List.count_append]
  exact Nat.le_add_left _ _

lemma Tracked.claim (h : c.Tracked) : c.claim.Tracked := by
  rw [TurnClaims.claim]
  split
  · rename_i state ok
    obtain ⟨_, deleting, restarting, idle, rfl⟩ := ConversationRuntimeState.tryClaimTurn_ok ok
    -- A raised flag belongs to the active turn, and there is none.
    have none_raised : c.raised = [] := by
      apply List.eq_nil_iff_forall_not_mem.mpr
      intro turnId mem
      exact nomatch idle.symm.trans (h.raised turnId mem)
    constructor
    · refine Pool.forall_append (fun held mem => ?_) (Nat.lt_succ_self _)
      exact Nat.lt_succ_of_lt (h.fresh held mem)
    · intro i j a b there there' same
      obtain there | ⟨rfl, rfl⟩ := Pool.getElem?_append_some there <;>
        obtain there' | ⟨rfl, rfl⟩ := Pool.getElem?_append_some there'
      · exact h.distinct i j a b there there' same
      · -- The new turn has an id that no claim has yet.
        exact absurd same (h.fresh a (List.mem_of_getElem? there)).ne
      · exact absurd same (h.fresh b (List.mem_of_getElem? there')).ne'
      · rfl
    · rintro turnId ⟨⟩
      refine ⟨Nat.lt_succ_self _, fun gone => ?_⟩
      exact lt_irrefl _ (h.cleared _ gone)
    · exact fun turnId gone => Nat.lt_succ_of_lt (h.cleared turnId gone)
    · exact h.deleting
    · exact h.restarting
    · exact h.oneRestart
    · intro turnId mem
      rw [none_raised] at mem
      cases mem
    · exact h.deferred
  · exact { h with
      fresh := fun held mem => Nat.lt_succ_of_lt (h.fresh held mem)
      active := fun turnId there =>
        ⟨Nat.lt_succ_of_lt (h.active turnId there).1, (h.active turnId there).2⟩
      cleared := fun turnId gone => Nat.lt_succ_of_lt (h.cleared turnId gone) }

lemma claims_set {i : Nat} {a : TurnClaim} (there : c.claims[k]? = some held)
    (found : (c.claims.set k { held with released := true })[i]? = some a) :
    ∃ b, c.claims[i]? = some b ∧ b.turnId = a.turnId := by
  rw [List.getElem?_set] at found
  split_ifs at found with same
  · cases found
    exact ⟨held, same ▸ there, rfl⟩
  · exact ⟨a, found, rfl⟩

section

variable (h : c.Tracked)
include h

lemma Tracked.release (there : c.claims[k]? = some held)
    (kept : held.released = false → c.state.activeTurn = some held.turnId →
      c.deleteInProgress = false) : (c.release k held).Tracked := by
  rw [TurnClaims.release]
  split
  · exact h
  · rename_i holds
    have fresh : ∀ a ∈ c.claims.set k { held with released := true }, a.turnId < c.minted :=
      Pool.forall_set h.fresh (h.fresh held (List.mem_of_getElem? there))
    have distinct : ∀ (i j : Nat) (a b : TurnClaim),
        (c.claims.set k { held with released := true })[i]? = some a →
        (c.claims.set k { held with released := true })[j]? = some b → a.turnId = b.turnId →
          i = j := by
      intro i j a b foundA foundB same
      obtain ⟨a', thereA, sameA⟩ := claims_set there foundA
      obtain ⟨b', thereB, sameB⟩ := claims_set there foundB
      exact h.distinct i j a' b' thereA thereB (sameA.trans (same.trans sameB.symm))
    by_cases own : c.state.activeTurn = some held.turnId
    · -- The flags go with the turn: no delete needs its flag, and no cancel was for another turn.
      have idle := kept (eq_false_of_ne_true holds) own
      rw [ConversationRuntimeState.release_own own, if_pos own]
      exact { h with
        fresh
        distinct
        active := nofun
        deleting := fun progress => nomatch idle.symm.trans progress
        raised := nofun }
    · rw [ConversationRuntimeState.release_other own, if_neg own]
      exact { h with fresh, distinct }

lemma Tracked.beginDelete : c.beginDelete.Tracked :=
  { h with deleting := fun _ => rfl }

lemma Tracked.endDelete
    (kept : delete.inProgress = true → ¬ (ok = true ∧ delete.hadActiveTurn = true) →
      (c.deletes.set k { delete with inProgress := false }).any (·.inProgress) = false) :
    (c.endDelete k delete ok).Tracked := by
  rw [TurnClaims.endDelete]
  split
  · rename_i progress
    split
    · -- The flag is left to the turn that was active.
      refine { h with deleting := fun others => h.deleting ?_ }
      obtain ⟨d, mem, inProgress⟩ := List.any_eq_true.mp others
      obtain mem | rfl := List.mem_or_eq_of_mem_set mem
      · exact List.any_eq_true.mpr ⟨d, mem, inProgress⟩
      · cases inProgress
    · rename_i clears
      refine { h with deleting := fun others => ?_ }
      exact nomatch (kept progress clears).symm.trans others
  · exact h

lemma Tracked.recordCancel (kept : hasTask = true → c.state.activeTurn = some turnId) :
    (c.recordCancel k turnId hasTask).Tracked := by
  rw [TurnClaims.recordCancel]
  split
  · rename_i task
    exact { h with raised := List.forall_mem_cons.mpr ⟨kept task, h.raised⟩ }
  · -- A deferred cancel that is overwritten was never taken.
    refine { h with deferred := fun other => ?_ }
    have before := h.taken_le other
    change (turnId :: c.taken).count other ≤ (turnId :: c.deferred).count other
    rw [List.count_cons, List.count_cons]
    exact Nat.add_le_add_right before _

lemma Tracked.endCancel : (c.endCancel k ok).Tracked := by
  rw [TurnClaims.endCancel]
  split
  · exact { h with }
  · exact { h with raised := nofun }

lemma Tracked.takeDeferredCancel : (c.takeDeferredCancel turnId).Tracked := by
  rw [TurnClaims.takeDeferredCancel, ConversationRuntimeState.takeDeferredCancel]
  split
  · rename_i own
    refine { h with deferred := fun other => ?_ }
    have before := h.deferred other
    rw [own] at before
    exact before
  · exact { h with }

lemma Tracked.beginRestart : c.beginRestart.Tracked := by
  rw [TurnClaims.beginRestart]
  split
  · rename_i state ok
    obtain ⟨idle, rfl⟩ := ConversationRuntimeState.beginRestart_ok ok
    refine { h with restarting := fun _ => rfl, oneRestart := fun i j there there' => ?_ }
    -- The flag of a restart in progress would have refused this one.
    have none_ : ∀ i : Nat, c.restarts[i]? ≠ some true := by
      intro i there
      have progress : c.restartInProgress = true :=
        List.any_eq_true.mpr ⟨true, List.mem_of_getElem? there, rfl⟩
      exact nomatch idle.symm.trans (h.restarting progress)
    obtain there | ⟨rfl, _⟩ := Pool.getElem?_append_some there
    · exact absurd there (none_ i)
    · obtain there' | ⟨rfl, _⟩ := Pool.getElem?_append_some there'
      · exact absurd there' (none_ j)
      · rfl
  · exact h

lemma Tracked.clear : ∀ turnId ∈ c.state.activeTurn.toList ++ c.cleared, turnId < c.minted := by
  intro turnId mem
  obtain mem | mem := List.mem_append.mp mem
  · exact (h.active turnId (Option.mem_toList.mp mem)).1
  · exact h.cleared turnId mem

lemma Tracked.clearForRestart : c.clearForRestart.Tracked :=
  { h with
    active := nofun
    cleared := h.clear
    raised := nofun
    deferred := h.taken_le }

lemma Tracked.endRestart (there : c.restarts[k]? = some true) : (c.endRestart k).Tracked := by
  -- There was one restart in progress at most, and it is the one that ends.
  have only : ∀ i : Nat, (c.restarts.set k false)[i]? ≠ some true := by
    intro i found
    obtain rfl | other := eq_or_ne k i
    · rw [List.getElem?_set_self (List.getElem?_eq_some_iff.mp there).1] at found
      cases found
    · rw [List.getElem?_set_ne other] at found
      exact other (h.oneRestart k i there found)
  refine { h with
    restarting := fun progress => ?_
    oneRestart := fun i _ found => absurd found (only i) }
  obtain ⟨b, mem, inProgress⟩ := List.any_eq_true.mp progress
  obtain ⟨i, found⟩ := List.mem_iff_getElem?.mp mem
  cases inProgress
  exact absurd found (only i)

lemma Tracked.clearConversation (noDelete : c.deleteInProgress = false)
    (noRestart : c.restartInProgress = false) : c.clearConversation.Tracked :=
  { h with
    active := nofun
    cleared := h.clear
    deleting := fun progress => nomatch noDelete.symm.trans progress
    restarting := fun progress => nomatch noRestart.symm.trans progress
    raised := nofun
    deferred := h.taken_le }

lemma Tracked.next (kept : c.FlagsKept event) : (c.next event).Tracked := by
  cases event with
  | claim => exact h.claim
  | release k =>
    rw [TurnClaims.next]
    cases there : c.claims[k]? with
    | none => exact h
    | some held => exact h.release there (kept held there)
  | beginDelete => exact h.beginDelete
  | endDelete k ok =>
    rw [TurnClaims.next]
    cases there : c.deletes[k]? with
    | none => exact h
    | some delete => exact h.endDelete (kept delete there)
  | beginCancel turnId =>
    rw [TurnClaims.next, beginCancel]
    split
    · exact { h with }
    · exact h
  | recordCancel k hasTask =>
    rw [TurnClaims.next]
    cases there : c.foundTurn k with
    | none => exact h
    | some turnId => exact h.recordCancel (kept turnId there)
  | endCancel k ok =>
    rw [TurnClaims.next]
    split
    · exact h.endCancel
    · exact h
  | takeDeferredCancel k =>
    rw [TurnClaims.next]
    cases c.claims[k]? with
    | none => exact h
    | some held => exact h.takeDeferredCancel
  | beginRestart => exact h.beginRestart
  | clearForRestart k =>
    rw [TurnClaims.next]
    split
    · exact h.clearForRestart
    · exact h
  | endRestart k =>
    rw [TurnClaims.next]
    split
    · rename_i there
      exact h.endRestart there
    · exact h
  | clearConversation => exact h.clearConversation kept.1 kept.2
  | shutDown => exact { h with }

end

lemma Tracked.start {conversationId : String} : (start conversationId).Tracked where
  fresh := nofun
  distinct _ _ _ _ there := nomatch there
  active := nofun
  cleared := nofun
  deleting := nofun
  restarting := nofun
  oneRestart _ _ there := nomatch there
  raised := nofun
  deferred _ := le_rfl

end TurnClaims

end KiCore.Conversation

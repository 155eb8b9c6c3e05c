import KiCore.Session.Codex.Dispatch

/-!
# Accepted sends and cancels of codex

`dispatches_kept` says what stands behind an accepted `Send` or `Cancel`, in every state that the stages
of dispatches, the reader and the process reach together. A send that finds a turn active is taken for
input of that turn and not written, and a cancel does not wait for ever for the id of its turn:
`merged_and_timed_out`.
-/

namespace KiCore.Session.Codex

open KiCore.Lib

def SendStage.rpcId : SendStage → Option Nat
  | registered id _ | sent id | unwritten id _ => some id
  | received | clear | awake | marked | bound _ | merged _ | unsent _ => none

def SendStage.accepted : SendStage → Bool
  | sent _ | merged _ => true
  | _ => false

namespace DispatchRun

def writtenBy (s : DispatchRun) (sender : Sender) : List Written :=
  s.wire.filter fun frame => frame.sender = sender

/-- What stands behind the dispatches that have returned. -/
structure Kept (s : DispatchRun) : Prop where
  /-- a send that is accepted as a request of its own is written, once and to a live process -/
  sent : ∀ k send id, s.sendAt k = some send → send.stage = .sent id → ∃ threadId,
    s.writtenBy (.send k) = [{
      sender := .send k, id, request := send.input.request threadId, process := .live }]
  /-- no other send has written anything -/
  unsent : ∀ k, (∀ send id, s.sendAt k = some send → send.stage ≠ .sent id) →
    s.writtenBy (.send k) = []
  /-- a correlation that is pending is that of a send that has registered it -/
  correlated : ∀ id pending, s.pendingAt id = some pending → ∃ k send,
    s.sendAt k = some send ∧ send.stage.rpcId = some id ∧ pending = send.input.pending
  /-- no two sends share an id -/
  own : ∀ k k' send send' id, s.sendAt k = some send → s.sendAt k' = some send' →
    send.stage.rpcId = some id → send'.stage.rpcId = some id → k = k'
  /-- a cancel that has found a turn has written the interrupt for it, once and to a live process -/
  interrupted : ∀ k id threadId turnId, s.cancelAt k = some (.interrupted id threadId turnId) →
    s.writtenBy (.cancel k) = [{
      sender := .cancel k, id, request := .turnInterrupt threadId turnId, process := .live }]
  /-- a cancel that has found none has waited for it as long as a turn was in flight -/
  nothing : ∀ k inFlight polls, s.cancelAt k = some (.nothing inFlight polls) →
    s.writtenBy (.cancel k) = [] ∧ (inFlight = false ∨ polls = maxPolls)
  /-- the active turn of a live process is one that it has announced -/
  active : s.process = .live → ∀ turnId, s.activeTurnId = some turnId → turnId ∈ s.announced

variable {s t : DispatchRun} {e : Event} {k id : Nat} {send : Send} {stage : SendStage}
  {sender : Sender} {request : ClientRequest}

lemma writtenBy_put (s : DispatchRun) (sender : Sender) (id : Nat) (request : ClientRequest) :
    (s.put sender id request).writtenBy sender =
      s.writtenBy sender ++ [{ sender, id, request, process := s.process }] := by
  simp [writtenBy, put]

lemma writtenBy_put_of_ne {other : Sender} (ne : sender ≠ other) :
    (s.put sender id request).writtenBy other = s.writtenBy other := by
  simp [writtenBy, put, ne]

/-- The invariant of every run. -/
structure Tracked (s : DispatchRun) : Prop extends Kept s where
  /-- the ids that are in use have been handed out -/
  below : ∀ k send id, s.sendAt k = some send → send.stage.rpcId = some id → id ≤ s.rpcId
  /-- a cancel has written nothing before it interrupts -/
  silent : ∀ k, (∀ id threadId turnId, s.cancelAt k ≠ some (.interrupted id threadId turnId)) →
    s.writtenBy (.cancel k) = []
  polling : ∀ k threadId polls, s.cancelAt k = some (.polling threadId polls) → polls < maxPolls

lemma sendAt_start : start.sendAt k = none := Table.get_empty

lemma cancelAt_start : start.cancelAt k = none := Table.get_empty

lemma tracked_start : Tracked .start where
  sent := by simp [sendAt_start]
  unsent k _ := rfl
  correlated := by simp [start, pendingAt]
  own := by simp [sendAt_start]
  interrupted := by simp [cancelAt_start]
  nothing := by simp [cancelAt_start]
  active _ := nofun
  below := by simp [sendAt_start]
  silent k _ := rfl
  polling := by simp [cancelAt_start]

/-- A step changes one send: what the send stands for then has been written, and its id is its own. -/
lemma Tracked.sendChanged (h : Tracked s) (k : Nat) (send : Send)
    (sends : ∀ k', t.sendAt k' = if k = k' then some send else s.sendAt k')
    (cancels : ∀ k', t.cancelAt k' = s.cancelAt k')
    (others : ∀ sender, sender ≠ .send k → t.writtenBy sender = s.writtenBy sender)
    (sent : ∀ id, send.stage = .sent id → ∃ threadId, t.writtenBy (.send k) = [{
      sender := .send k, id, request := send.input.request threadId, process := .live }])
    (unsent : (∀ id, send.stage ≠ .sent id) → t.writtenBy (.send k) = [])
    (pending : ∀ id entry, t.pendingAt id = some entry →
      (send.stage.rpcId = some id ∧ entry = send.input.pending) ∨
        ∃ k' other, k ≠ k' ∧ s.sendAt k' = some other ∧ other.stage.rpcId = some id ∧
          entry = other.input.pending)
    (rpcId : s.rpcId ≤ t.rpcId)
    (own : ∀ id, send.stage.rpcId = some id → id ≤ t.rpcId ∧ ∀ k' other, k ≠ k' →
      s.sendAt k' = some other → other.stage.rpcId ≠ some id)
    (active : t.process = .live → ∀ turnId, t.activeTurnId = some turnId → turnId ∈ t.announced) :
    Tracked t where
  sent k' other id found written := by
    rw [sends] at found
    split at found
    case isTrue here =>
      cases found
      subst here
      exact sent id written
    case isFalse elsewhere =>
      rw [others _ (by simpa using Ne.symm elsewhere)]
      exact h.sent k' other id found written
  unsent k' silent := by
    by_cases here : k = k'
    · subst here
      exact unsent fun id => silent send id ((sends k).trans (if_pos rfl))
    · rw [others _ (by simpa using Ne.symm here)]
      apply h.unsent
      intro other id found
      exact silent other id (((sends k').trans (if_neg here)).trans found)
  correlated id entry found := by
    obtain ⟨registered, same⟩ | ⟨k', other, elsewhere, found, registered, same⟩ := pending id entry found
    · exact ⟨k, send, (sends k).trans (if_pos rfl), registered, same⟩
    · exact ⟨k', other, ((sends k').trans (if_neg elsewhere)).trans found, registered, same⟩
  own k₁ k₂ send₁ send₂ id found₁ found₂ id₁ id₂ := by
    rw [sends] at found₁ found₂
    split at found₁ <;> split at found₂
    case isTrue.isTrue here₁ here₂ => exact here₁.symm.trans here₂
    case isTrue.isFalse elsewhere =>
      cases found₁
      exact absurd id₂ ((own id id₁).2 k₂ send₂ elsewhere found₂)
    case isFalse.isTrue elsewhere _ =>
      cases found₂
      exact absurd id₁ ((own id id₂).2 k₁ send₁ elsewhere found₁)
    case isFalse.isFalse => exact h.own k₁ k₂ send₁ send₂ id found₁ found₂ id₁ id₂
  interrupted k' id threadId turnId found := by
    rw [others _ Sender.noConfusion]
    exact h.interrupted k' id threadId turnId (cancels k' ▸ found)
  nothing k' inFlight polls found := by
    rw [others _ Sender.noConfusion]
    exact h.nothing k' inFlight polls (cancels k' ▸ found)
  active := active
  below k' other id found registered := by
    rw [sends] at found
    split at found
    case isTrue =>
      cases found
      exact (own id registered).1
    case isFalse => exact Nat.le_trans (h.below k' other id found registered) rpcId
  silent k' silent := by
    rw [others _ Sender.noConfusion]
    exact h.silent k' (by simpa only [cancels] using silent)
  polling k' threadId polls found := h.polling k' threadId polls (cancels k' ▸ found)

/-- A step changes one cancel: what the cancel stands for then has been written. -/
lemma Tracked.cancelChanged (h : Tracked s) (k : Nat) (stage : CancelStage)
    (cancels : ∀ k', t.cancelAt k' = if k = k' then some stage else s.cancelAt k')
    (sends : ∀ k', t.sendAt k' = s.sendAt k')
    (others : ∀ sender, sender ≠ .cancel k → t.writtenBy sender = s.writtenBy sender)
    (interrupted : ∀ id threadId turnId, stage = .interrupted id threadId turnId →
      t.writtenBy (.cancel k) = [{
        sender := .cancel k, id, request := .turnInterrupt threadId turnId, process := .live }])
    (silent : (∀ id threadId turnId, stage ≠ .interrupted id threadId turnId) →
      t.writtenBy (.cancel k) = [])
    (nothing : ∀ inFlight polls, stage = .nothing inFlight polls → inFlight = false ∨ polls = maxPolls)
    (polling : ∀ threadId polls, stage = .polling threadId polls → polls < maxPolls)
    (pending : t.pendingSends = s.pendingSends) (rpcId : s.rpcId ≤ t.rpcId)
    (active : t.process = .live → ∀ turnId, t.activeTurnId = some turnId → turnId ∈ t.announced) :
    Tracked t where
  sent k' send id found written := by
    rw [others _ Sender.noConfusion]
    exact h.sent k' send id (sends k' ▸ found) written
  unsent k' unsent := by
    rw [others _ Sender.noConfusion]
    exact h.unsent k' (by simpa only [sends] using unsent)
  correlated id entry found := by
    rw [pendingAt, pending] at found
    simpa only [sends] using h.correlated id entry found
  own := by simpa only [sends] using h.own
  interrupted k' id threadId turnId found := by
    rw [cancels] at found
    split at found
    case isTrue here =>
      cases found
      subst here
      exact interrupted id threadId turnId rfl
    case isFalse elsewhere =>
      rw [others _ (by simpa using Ne.symm elsewhere)]
      exact h.interrupted k' id threadId turnId found
  nothing k' inFlight polls found := by
    rw [cancels] at found
    split at found
    case isTrue here =>
      cases found
      subst here
      exact ⟨silent nofun, nothing inFlight polls rfl⟩
    case isFalse elsewhere =>
      rw [others _ (by simpa using Ne.symm elsewhere)]
      exact h.nothing k' inFlight polls found
  active := active
  below k' send id found registered :=
    Nat.le_trans (h.below k' send id (sends k' ▸ found) registered) rpcId
  silent k' quiet := by
    by_cases here : k = k'
    · subst here
      refine silent fun id threadId turnId same => quiet id threadId turnId ?_
      rw [cancels, if_pos rfl, same]
    · rw [others _ (by simpa using Ne.symm here)]
      apply h.silent
      intro id threadId turnId
      have stays := quiet id threadId turnId
      rwa [cancels, if_neg here] at stays
  polling k' threadId polls found := by
    rw [cancels] at found
    split at found
    case isTrue =>
      cases found
      exact polling threadId polls rfl
    case isFalse => exact h.polling k' threadId polls found

lemma Tracked.still (h : Tracked s) (sends : t.sends = s.sends) (cancels : t.cancels = s.cancels)
    (wire : t.wire = s.wire) (rpcId : t.rpcId = s.rpcId)
    (pending : ∀ id entry, t.pendingAt id = some entry → s.pendingAt id = some entry)
    (active : t.process = .live → ∀ turnId, t.activeTurnId = some turnId → turnId ∈ t.announced) :
    Tracked t := by
  have sendAt (k : Nat) : t.sendAt k = s.sendAt k := by rw [DispatchRun.sendAt, sends]; rfl
  have cancelAt (k : Nat) : t.cancelAt k = s.cancelAt k := by rw [DispatchRun.cancelAt, cancels]; rfl
  have written (sender : Sender) : t.writtenBy sender = s.writtenBy sender := by
    rw [writtenBy, wire]
    rfl
  constructor
  · constructor
    · simpa only [sendAt, written] using h.sent
    · simpa only [sendAt, written] using h.unsent
    · intro id entry found
      simpa only [sendAt] using h.correlated id entry (pending id entry found)
    · simpa only [sendAt] using h.own
    · simpa only [cancelAt, written] using h.interrupted
    · simpa only [cancelAt, written] using h.nothing
    · exact active
  · simpa only [sendAt, rpcId] using h.below
  · simpa only [cancelAt, written] using h.silent
  · simpa only [cancelAt] using h.polling

lemma sendAt_setSend (k k' : Nat) : (s.setSend k send stage).sendAt k' =
    if k = k' then some { send with stage } else s.sendAt k' :=
  Table.get_insert _ _ _ _

lemma cancelAt_setCancel {stage : CancelStage} (k k' : Nat) : (s.setCancel k stage).cancelAt k' =
    if k = k' then some stage else s.cancelAt k' :=
  Table.get_insert _ _ _ _

section

variable (h : Tracked s)
include h

lemma Tracked.written_nil (found : s.sendAt k = some send)
    (unsent : ∀ id, send.stage ≠ .sent id) : s.writtenBy (.send k) = [] := by
  apply h.unsent
  intro old id found'
  cases found.symm.trans found'
  exact unsent id

lemma Tracked.correlated_other (found : s.sendAt k = some send) {entry : PendingSend}
    (pending : s.pendingAt id = some entry) :
    (send.stage.rpcId = some id ∧ entry = send.input.pending) ∨
      ∃ k' other, k ≠ k' ∧ s.sendAt k' = some other ∧ other.stage.rpcId = some id ∧
        entry = other.input.pending := by
  obtain ⟨k', other, found', registered, same⟩ := h.correlated id entry pending
  by_cases here : k = k'
  · subst here
    cases found.symm.trans found'
    exact .inl ⟨registered, same⟩
  · exact .inr ⟨k', other, here, found', registered, same⟩

lemma Tracked.own_other (found : s.sendAt k = some send)
    (registered : send.stage.rpcId = some id) (k' : Nat) (other : Send) (elsewhere : k ≠ k')
    (found' : s.sendAt k' = some other) : other.stage.rpcId ≠ some id :=
  fun taken => elsewhere (h.own k k' send other id found found' registered taken)

lemma Tracked.received (fresh : s.sendAt k = none) (input : SendInput) :
    Tracked { s with sends := s.sends.insert k { input, stage := .received } } := by
  refine h.sendChanged k { input, stage := .received } (fun _ => Table.get_insert _ _ _ _)
    (fun _ => rfl) (fun _ _ => rfl) nofun ?_ ?_ (Nat.le_refl _) nofun h.active
  · intro _
    refine h.unsent k fun other id found => ?_
    rw [fresh] at found
    cases found
  · intro id entry pending
    obtain ⟨k', other, found, registered, same⟩ := h.correlated id entry pending
    refine .inr ⟨k', other, ?_, found, registered, same⟩
    rintro rfl
    rw [fresh] at found
    cases found

lemma Tracked.setSend (found : s.sendAt k = some send) (wire : t.wire = s.wire)
    (rpcId : s.rpcId ≤ t.rpcId) (pending : t.pendingSends = s.pendingSends) (sends : t.sends = s.sends)
    (cancels : t.cancels = s.cancels)
    (active : t.process = .live → ∀ turnId, t.activeTurnId = some turnId → turnId ∈ t.announced)
    (same : stage.rpcId = send.stage.rpcId) (unsent : ∀ id, stage ≠ .sent id)
    (unsent' : ∀ id, send.stage ≠ .sent id) : Tracked (t.setSend k send stage) := by
  have written (sender : Sender) : (t.setSend k send stage).writtenBy sender = s.writtenBy sender := by
    rw [writtenBy, DispatchRun.setSend, wire]
    rfl
  refine h.sendChanged k { send with stage } ?_ ?_ (fun sender _ => written sender) ?_ ?_ ?_ rpcId ?_
    active
  · intro k'
    rw [sendAt_setSend, sendAt, sends]
    rfl
  · intro k'
    rw [cancelAt, DispatchRun.setSend, cancels]
    rfl
  · exact fun id sent => absurd sent (unsent id)
  · exact fun _ => (written _).trans (h.written_nil found unsent')
  · intro id entry found'
    rw [pendingAt, DispatchRun.setSend, pending] at found'
    exact (h.correlated_other found found').imp_left (.imp_left same.trans)
  · intro id registered
    have earlier : send.stage.rpcId = some id := same.symm.trans registered
    exact ⟨Nat.le_trans (h.below k send id found earlier) rpcId, h.own_other found earlier⟩

end

lemma Tracked.registered {threadId : String} (h : Tracked s) (found : s.sendAt k = some send)
    (fresh : send.stage.rpcId = none) : Tracked (s.registerSend k send threadId) := by
  have unsent : ∀ id, send.stage ≠ .sent id := by
    intro id sent
    rw [sent] at fresh
    cases fresh
  refine h.sendChanged k { send with stage := .registered (s.rpcId + 1) threadId }
    (fun _ => Table.get_insert _ _ _ _) (fun _ => rfl) (fun _ _ => rfl) nofun
    (fun _ => h.written_nil found unsent) ?_ (Nat.le_succ _) ?_ h.active
  · intro id entry pending
    have inserted : (s.registerSend k send threadId).pendingAt id =
        if s.rpcId + 1 = id then some send.input.pending else s.pendingAt id :=
      Table.get_insert _ _ _ _
    rw [inserted] at pending
    split at pending
    case isTrue here =>
      cases pending
      exact .inl ⟨congrArg some here, rfl⟩
    case isFalse =>
      obtain ⟨registered, -⟩ | other := h.correlated_other found pending
      · rw [fresh] at registered
        cases registered
      · exact .inr other
  · rintro id ⟨⟩
    refine ⟨Nat.le_refl _, fun k' other _ found' registered => ?_⟩
    exact Nat.not_succ_le_self _ (h.below k' other _ found' registered)

lemma Tracked.wrote {threadId : String} (h : Tracked s) (live : s.process = .live)
    (found : s.sendAt k = some send) (registered : send.stage = .registered id threadId) :
    Tracked ((s.put (.send k) id (send.input.request threadId)).setSend k send (.sent id)) := by
  have earlier : send.stage.rpcId = some id := by rw [registered]; rfl
  refine h.sendChanged k { send with stage := .sent id } (fun _ => Table.get_insert _ _ _ _)
    (fun _ => rfl) (fun sender ne => writtenBy_put_of_ne (Ne.symm ne)) ?_ ?_ ?_ (Nat.le_refl _) ?_
    h.active
  · rintro id ⟨⟩
    refine ⟨threadId, ?_⟩
    have put := writtenBy_put s (.send k) id (send.input.request threadId)
    rw [h.written_nil found (by rw [registered]; exact nofun), live] at put
    exact put
  · exact fun unsent => absurd rfl (unsent id)
  · intro id' entry pending
    exact (h.correlated_other found pending).imp_left (.imp_left earlier.symm.trans)
  · rintro id ⟨⟩
    exact ⟨h.below k send id found earlier, h.own_other found earlier⟩

lemma Tracked.setCancel {before stage : CancelStage} (h : Tracked s) (found : s.cancelAt k = some before)
    (rpcId : Nat) (up : s.rpcId ≤ rpcId)
    (unwritten : ∀ id threadId turnId, before ≠ .interrupted id threadId turnId)
    (unwritten' : ∀ id threadId turnId, stage ≠ .interrupted id threadId turnId)
    (nothing : ∀ inFlight polls, stage = .nothing inFlight polls → inFlight = false ∨ polls = maxPolls)
    (polling : ∀ threadId polls, stage = .polling threadId polls → polls < maxPolls) :
    Tracked ({ s with rpcId }.setCancel k stage) := by
  refine h.cancelChanged k stage (cancelAt_setCancel k) (fun _ => rfl) (fun _ _ => rfl) ?_ ?_ nothing
    polling rfl up h.active
  · exact fun id threadId turnId same => absurd same (unwritten' id threadId turnId)
  · intro _
    apply h.silent k
    rw [found]
    exact fun id threadId turnId same => unwritten id threadId turnId (Option.some.inj same)

lemma Tracked.interrupts {threadId turnId : String} (h : Tracked s) (live : s.process = .live)
    (found : s.cancelAt k = some (.found threadId turnId)) :
    Tracked (({ s with rpcId := s.rpcId + 1 }.put (.cancel k) (s.rpcId + 1)
      (.turnInterrupt threadId turnId)).setCancel k (.interrupted (s.rpcId + 1) threadId turnId)) := by
  refine h.cancelChanged k (.interrupted (s.rpcId + 1) threadId turnId) (cancelAt_setCancel k)
    (fun _ => rfl) (fun sender ne => writtenBy_put_of_ne (Ne.symm ne)) ?_ ?_ nofun nofun rfl
    (Nat.le_succ _) h.active
  · rintro id threadId turnId ⟨⟩
    have put := writtenBy_put { s with rpcId := s.rpcId + 1 } (.cancel k) (s.rpcId + 1)
      (.turnInterrupt threadId turnId)
    have before : { s with rpcId := s.rpcId + 1 }.writtenBy (.cancel k) = [] :=
      h.silent k (by simp [found])
    rw [before] at put
    rw [← live]
    exact put
  · exact fun uninterrupted => absurd rfl (uninterrupted _ _ _)

lemma Tracked.ensureAwake_active (h : Tracked s) (wake : Wake) :
    (s.ensureAwake wake).2.process = .live → ∀ turnId,
      (s.ensureAwake wake).2.activeTurnId = some turnId → turnId ∈ (s.ensureAwake wake).2.announced := by
  unfold ensureAwake
  split
  case isTrue => exact h.active
  case isFalse =>
    cases wake with
    | woken | handshakeFailed => exact fun _ _ => nofun
    | spawnFailed => exact h.active

lemma ensureAwake_same (s : DispatchRun) (wake : Wake) :
    (s.ensureAwake wake).2.wire = s.wire ∧ s.rpcId ≤ (s.ensureAwake wake).2.rpcId ∧
      (s.ensureAwake wake).2.pendingSends = s.pendingSends ∧ (s.ensureAwake wake).2.sends = s.sends ∧
      (s.ensureAwake wake).2.cancels = s.cancels ∧
      (s.ensureAwake wake).2.turnInFlight = s.turnInFlight := by
  unfold ensureAwake
  split
  case isTrue => exact ⟨rfl, Nat.le_refl _, rfl, rfl, rfl, rfl⟩
  case isFalse =>
    cases wake with
    | woken | handshakeFailed => exact ⟨rfl, Nat.le_add_right _ _, rfl, rfl, rfl, rfl⟩
    | spawnFailed => exact ⟨rfl, Nat.le_refl _, rfl, rfl, rfl, rfl⟩

lemma Tracked.setStage {before : SendStage} (h : Tracked s) (stage : SendStage)
    (found : s.sendAt k = some send) (staged : send.stage = before) (flag : Bool)
    (same : stage.rpcId = before.rpcId) (unsent : ∀ id, stage ≠ .sent id)
    (unsent' : ∀ id, before ≠ .sent id) :
    Tracked ({ s with turnInFlight := flag }.setSend k send stage) := by
  subst staged
  exact h.setSend found rfl (Nat.le_refl _) rfl rfl rfl h.active same unsent unsent'

/-- Every stage of a send keeps the invariant. -/
lemma Tracked.sendStep {step : SendStep} (h : Tracked s) (found : s.sendAt k = some send)
    (possible : step = .write .written → s.process = .live) : Tracked (s.sendStep k send step) := by
  unfold DispatchRun.sendStep
  split
  case h_1 staged =>
    have clear := h.setStage .clear found staged s.turnInFlight rfl nofun nofun
    split
    case isTrue => exact clear
    case isFalse =>
      split
      case h_1 turnId _ =>
        exact h.setStage (.merged turnId) found staged s.turnInFlight rfl nofun nofun
      case h_2 => exact clear
  case h_2 wake staged =>
    obtain ⟨wire, rpcId, pending, sends, cancels, -⟩ := ensureAwake_same s wake
    have active := h.ensureAwake_active wake
    split
    all_goals
      rename_i woken
      rw [woken] at wire rpcId pending sends cancels active
      exact h.setSend found wire rpcId pending sends cancels active (by rw [staged]; rfl) nofun
        (by rw [staged]; exact nofun)
  case h_3 staged =>
    split
    case isTrue => exact h
    case isFalse => exact h.setStage _ found staged true rfl nofun nofun
  case h_4 expired staged =>
    split
    case h_1 => exact h
    case h_2 threadId _ =>
      exact h.setStage (.bound threadId) found staged s.turnInFlight rfl nofun nofun
    case h_3 => exact h.setStage _ found staged false rfl nofun nofun
  case h_5 threadId staged => exact h.registered found (by rw [staged]; rfl)
  case h_6 staged =>
    split
    case isTrue => exact h.registered found (by rw [staged]; rfl)
    case isFalse => exact h
  case h_7 id threadId staged =>
    exact h.setStage (.unwritten id _) found staged s.turnInFlight rfl nofun nofun
  case h_8 error id threadId staged =>
    exact h.setStage (.unwritten id _) found staged s.turnInFlight rfl nofun nofun
  case h_9 id threadId staged => exact h.wrote (possible rfl) found staged
  case h_10 => exact h

lemma look_cases (s : DispatchRun) (threadId : String) (polls : Nat) :
    (∃ turnId, s.activeTurnId = some turnId ∧ s.look threadId polls = .found threadId turnId) ∨
    (s.turnInFlight = true ∧ polls < maxPolls ∧ s.look threadId polls = .polling threadId polls) ∨
    (s.activeTurnId = none ∧ (s.turnInFlight = false ∨ maxPolls ≤ polls) ∧
      s.look threadId polls = .nothing s.turnInFlight polls) := by
  unfold look
  cases active : s.activeTurnId with
  | some turnId => exact .inl ⟨turnId, rfl, rfl⟩
  | none =>
    by_cases waits : s.turnInFlight = true ∧ polls < maxPolls
    · exact .inr (.inl ⟨waits.1, waits.2, if_pos waits⟩)
    · refine .inr (.inr ⟨rfl, ?_, if_neg waits⟩)
      cases flag : s.turnInFlight with
      | false => exact .inl rfl
      | true => exact .inr (Nat.le_of_not_lt fun less => waits ⟨flag, less⟩)

lemma Tracked.look {before : CancelStage} {threadId : String} {polls : Nat} (h : Tracked s)
    (found : s.cancelAt k = some before)
    (unwritten : ∀ id threadId turnId, before ≠ .interrupted id threadId turnId)
    (bound : polls ≤ maxPolls) : Tracked (s.setCancel k (s.look threadId polls)) := by
  obtain ⟨turnId, -, look⟩ | ⟨-, less, look⟩ | ⟨-, gaveUp, look⟩ := look_cases s threadId polls
  all_goals rw [look]
  · exact h.setCancel found s.rpcId (Nat.le_refl _) unwritten nofun nofun nofun
  · refine h.setCancel found s.rpcId (Nat.le_refl _) unwritten nofun nofun ?_
    intro threadId' polls' same
    cases same
    exact less
  · refine h.setCancel found s.rpcId (Nat.le_refl _) unwritten nofun ?_ nofun
    intro inFlight polls' same
    cases same
    exact gaveUp.imp id fun most => Nat.le_antisymm bound most

lemma Tracked.cancelStep {step : CancelStep} {stage : CancelStage} (h : Tracked s)
    (found : s.cancelAt k = some stage) (possible : step = .write .written → s.process = .live) :
    Tracked (s.cancelStep k step stage) := by
  unfold DispatchRun.cancelStep
  split
  case h_1 expired =>
    split
    case h_1 => exact h
    case h_2 => exact h.setCancel found s.rpcId (Nat.le_refl _) nofun nofun nofun nofun
    case h_3 => exact h.setCancel found s.rpcId (Nat.le_refl _) nofun nofun nofun nofun
  case h_2 threadId => exact h.look found nofun (Nat.zero_le _)
  case h_3 threadId polls => exact h.look found nofun (h.polling k threadId polls found)
  case h_4 => exact h.setCancel found (s.rpcId + 1) (Nat.le_succ _) nofun nofun nofun nofun
  case h_5 => exact h.setCancel found (s.rpcId + 1) (Nat.le_succ _) nofun nofun nofun nofun
  case h_6 threadId turnId => exact h.interrupts (possible rfl) found
  case h_7 => exact h

lemma Tracked.terminal (h : Tracked s) : Tracked s.terminal := by
  unfold DispatchRun.terminal
  split
  case isTrue => exact h
  case isFalse =>
    exact h.still rfl rfl rfl rfl (fun _ _ found => found) fun _ _ => nofun

lemma Tracked.readFrame {f : Frame} (h : Tracked s) : Tracked (s.readFrame f) := by
  cases f with
  | threadStarted | resumeRejected | forkRejected =>
    exact h.still rfl rfl rfl rfl (fun _ _ found => found) h.active
  | turnStarted turnId =>
    cases turnId with
    | none => exact h.still rfl rfl rfl rfl (fun _ _ found => found) h.active
    | some turnId =>
      refine h.still rfl rfl rfl rfl (fun _ _ found => found) ?_
      intro _ other same
      cases same
      exact .head _
  | turnEnded => exact h.terminal
  | fatalError =>
    rw [DispatchRun.readFrame]
    split
    case isTrue => exact h.terminal
    case isFalse => exact h
  | response id error =>
    rw [DispatchRun.readFrame, DispatchRun.response]
    split
    case h_1 => exact h
    case h_2 entry _ =>
      have claimed : Tracked { s with pendingSends := s.pendingSends.erase id } := by
        refine h.still rfl rfl rfl rfl ?_ h.active
        exact fun _ _ found => (Table.get_erase_some.mp found).2
      split
      case isTrue => exact claimed.terminal
      case isFalse => exact claimed

/-- Every step keeps the invariant. -/
lemma Tracked.next (h : Tracked s) (possible : s.Possible e) : Tracked (s.next e) := by
  cases e with
  | send k input => exact h.received possible input
  | sendStep k step =>
    simp only [DispatchRun.next]
    split
    case h_1 send found =>
      refine h.sendStep found ?_
      rintro rfl
      exact possible
    case h_2 => exact h
  | cancel k =>
    refine h.cancelChanged k .received (cancelAt_setCancel k) (fun _ => rfl) (fun _ _ => rfl) nofun ?_
      nofun nofun rfl (Nat.le_refl _) h.active
    intro _
    apply h.silent k
    rw [show s.cancelAt k = none from possible]
    exact nofun
  | cancelStep k step =>
    simp only [DispatchRun.next]
    split
    case h_1 stage found =>
      refine h.cancelStep found ?_
      rintro rfl
      exact possible
    case h_2 => exact h
  | frame f =>
    simp only [DispatchRun.next]
    split
    case isTrue => exact h.readFrame
    case isFalse => exact h
  | endOfStream deferred =>
    simp only [DispatchRun.next]
    split
    case isTrue live =>
      refine h.still rfl rfl rfl rfl (fun _ _ found => found) ?_
      intro still
      rw [endOfStream, live] at still
      cases still
    case isFalse => exact h
  | suspend =>
    refine h.still rfl rfl rfl rfl (fun _ _ found => found) ?_
    intro live
    simp only [DispatchRun.next, ProcessState.suspendIfIdle] at live
    split at live
    case isTrue => exact h.active live
    case isFalse => cases live
  | terminate =>
    exact h.still rfl rfl rfl rfl (fun _ _ found => found) nofun

/-- A stage of a send, as far as it merges, fails before it registers, registers or writes. -/
inductive Ended (s : DispatchRun) (old : Send) (t : DispatchRun) : SendStage → Prop where
  | merged (turnId : String) : s.activeTurnId = some turnId → old.input.isLogout = false →
    Ended s old t (.merged turnId)
  | asleep (error : BackendError) : old.stage = .clear → t.turnInFlight = s.turnInFlight →
    Ended s old t (.unsent error)
  | unbound (error : BackendError) : old.stage = .marked → t.turnInFlight = false →
    Ended s old t (.unsent error)
  | registered (id : Nat) (threadId : String) : t.pendingAt id = some old.input.pending →
    Ended s old t (.registered id threadId)
  | sent (id : Nat) (threadId : String) : old.stage = .registered id threadId → Ended s old t (.sent id)
  | other (reached : SendStage) : (∀ turnId, reached ≠ .merged turnId) →
    (∀ error, reached ≠ .unsent error) → (∀ id threadId, reached ≠ .registered id threadId) →
    (∀ id, reached ≠ .sent id) → Ended s old t reached

lemma terminal_same (s : DispatchRun) : s.terminal.sends = s.sends ∧ s.terminal.cancels = s.cancels := by
  unfold DispatchRun.terminal
  split <;> exact ⟨rfl, rfl⟩

lemma next_quiet (s : DispatchRun) (e : Event) (quiet : match e with
    | .frame _ | .endOfStream _ | .suspend | .terminate => True
    | _ => False) : (s.next e).sends = s.sends ∧ (s.next e).cancels = s.cancels := by
  cases e with
  | frame f =>
    simp only [DispatchRun.next]
    split
    case isFalse => exact ⟨rfl, rfl⟩
    case isTrue =>
      cases f with
      | turnStarted turnId => cases turnId <;> exact ⟨rfl, rfl⟩
      | threadStarted | resumeRejected | forkRejected => exact ⟨rfl, rfl⟩
      | turnEnded => exact terminal_same s
      | fatalError =>
        simp only [DispatchRun.readFrame]
        split
        case isTrue => exact terminal_same s
        case isFalse => exact ⟨rfl, rfl⟩
      | response id error =>
        simp only [DispatchRun.readFrame, DispatchRun.response]
        split
        case h_1 => exact ⟨rfl, rfl⟩
        case h_2 =>
          split
          case isTrue => exact terminal_same _
          case isFalse => exact ⟨rfl, rfl⟩
  | endOfStream deferred =>
    simp only [DispatchRun.next]
    split <;> exact ⟨rfl, rfl⟩
  | suspend | terminate => exact ⟨rfl, rfl⟩
  | send | sendStep | cancel | cancelStep => exact quiet.elim

lemma sendStep_pending (s : DispatchRun) (k : Nat) (old : Send) (step : SendStep) :
    (s.sendStep k old step).pendingSends = s.pendingSends ∨
      (s.sendStep k old step).pendingSends = s.pendingSends.insert (s.rpcId + 1) old.input.pending := by
  unfold DispatchRun.sendStep
  split
  case h_2 wake _ =>
    obtain ⟨-, -, pending, -⟩ := ensureAwake_same s wake
    split
    all_goals
      rename_i woken
      rw [woken] at pending
      exact .inl pending
  case h_1 => split <;> first | exact .inl rfl | (split <;> exact .inl rfl)
  case h_3 | h_4 => split <;> exact .inl rfl
  case h_5 => exact .inr rfl
  case h_6 =>
    split
    case isTrue => exact .inr rfl
    case isFalse => exact .inl rfl
  all_goals exact .inl rfl

lemma cancelStep_pending (s : DispatchRun) (k : Nat) (step : CancelStep) (old : CancelStage) :
    (s.cancelStep k step old).pendingSends = s.pendingSends := by
  unfold DispatchRun.cancelStep
  split
  case h_1 => split <;> rfl
  all_goals rfl

lemma terminal_pending (s : DispatchRun) : s.terminal.pendingSends = s.pendingSends := by
  unfold DispatchRun.terminal
  split <;> rfl

/-- A correlation waits for its response. -/
lemma Tracked.claims (h : Tracked s) {entry : PendingSend} (found : s.pendingAt id = some entry) :
    (s.next e).pendingAt id = some entry ∨ ∃ error, e = .frame (.response id error) := by
  have same {t : DispatchRun} (pending : t.pendingSends = s.pendingSends) : t.pendingAt id = some entry := by
    rw [pendingAt, pending]
    exact found
  cases e with
  | sendStep k step =>
    simp only [DispatchRun.next]
    split
    case h_1 old _ =>
      obtain kept | inserted := sendStep_pending s k old step
      · exact .inl (same kept)
      · obtain ⟨k', other, at', registered, -⟩ := h.correlated id entry found
        have below := h.below k' other id at' registered
        refine .inl ?_
        rw [pendingAt, inserted, Table.get_insert, if_neg (by omega)]
        exact found
    case h_2 => exact .inl found
  | cancelStep k step =>
    simp only [DispatchRun.next]
    split
    case h_1 old _ => exact .inl (same (cancelStep_pending s k step old))
    case h_2 => exact .inl found
  | frame f =>
    simp only [DispatchRun.next]
    split
    case isFalse => exact .inl found
    case isTrue =>
      cases f with
      | response id' error =>
        by_cases here : id' = id
        · exact .inr ⟨error, by rw [here]⟩
        · refine .inl ?_
          rw [DispatchRun.readFrame, DispatchRun.response]
          have kept : (s.pendingSends.erase id')[id]? = some entry :=
            Table.get_erase_some.mpr ⟨here, found⟩
          split
          case h_1 => exact found
          case h_2 =>
            split
            case isTrue => rw [pendingAt, terminal_pending]; exact kept
            case isFalse => exact kept
      | turnStarted turnId => cases turnId <;> exact .inl found
      | turnEnded => exact .inl (same (terminal_pending s))
      | fatalError =>
        rw [DispatchRun.readFrame]
        split
        case isTrue => exact .inl (same (terminal_pending s))
        case isFalse => exact .inl found
      | threadStarted | resumeRejected | forkRejected => exact .inl found
  | endOfStream deferred =>
    simp only [DispatchRun.next]
    split <;> exact .inl found
  | send | cancel | suspend | terminate => exact .inl found

end DispatchRun

end KiCore.Session.Codex

import KiCore.Channel.Sessions

/-!
# One conversation per channel chat

Each handler acts on the row as it has last read it. Two handlers that find no row insert one each;
two that find their row without a conversation create one each; a conversation whose first send
fails is never bound; and a `session.new` takes the row from a message that was already dispatched.
The invariant `Tracked` is kept by every step that meets none of these.
-/

namespace KiCore.Channel

open KiCore.Lib

/-- A message that has its session, and is yet to read it again. -/
def Handler.AwaitsRow (handler : Handler) : Prop :=
  match handler.stage with
  | .getSession _ => handler.kind = .message
  | .getSessionById _ _ => True
  | _ => False

/-- A handler that has a conversation of its own for a session, or is about to create it. -/
def HandlerStage.Binds (id : Nat) : HandlerStage → Prop
  | .createConversation id' _ => id' = id
  | .sendMessage id' _ created _ => created = true ∧ id' = id
  | .bindConversation id' _ => id' = id
  | _ => False

instance Handler.decidableAwaitsRow : (handler : Handler) → Decidable handler.AwaitsRow
  | { stage := .getSession _, .. } => inferInstanceAs (Decidable (_ = _))
  | { stage := .getSessionById _ _, .. } => .isTrue trivial
  | { stage := .deleteSession, .. } | { stage := .selectSession, .. } | { stage := .insertSession, .. }
  | { stage := .createConversation _ _, .. } | { stage := .sendMessage .., .. }
  | { stage := .bindConversation _ _, .. } | { stage := .finished, .. } => .isFalse id

instance HandlerStage.decidableBinds (id : Nat) : (stage : HandlerStage) → Decidable (stage.Binds id)
  | .createConversation _ _ | .bindConversation _ _ => inferInstanceAs (Decidable (_ = _))
  | .sendMessage .. => inferInstanceAs (Decidable (_ ∧ _))
  | .deleteSession | .selectSession | .insertSession | .getSession _ | .getSessionById _ _
  | .finished => .isFalse nofun

/-- What a message has by its stage: its session, then the conversation of the session that it was
sent to. -/
def Handler.Delivers (sent : List (Nat × Nat)) (handler : Handler) : Prop :=
  match handler.stage with
  | .getSessionById id _ | .createConversation id _ | .sendMessage id .. => handler.session = some id
  | .bindConversation id c =>
    handler.session = some id ∧ handler.conversation = some c ∧ (id, c) ∈ sent
  | .finished => handler.kind = .message → handler.failed = false →
    ∃ id c, handler.session = some id ∧ handler.conversation = some c ∧ (id, c) ∈ sent
  | .deleteSession | .selectSession | .insertSession | .getSession _ => True

namespace ChatSessions

/-- There is one row at most, and one conversation was created for it at most; a message that is done
and has not failed was sent for its session, and the messages of a session went to the conversation that
its row is bound to, also when all is done; and no message was dropped. -/
structure OneConversation (s : ChatSessions) : Prop where
  oneRow : s.rows.length ≤ 1
  oneCreated : ∀ id c c', (id, c) ∈ s.created → (id, c') ∈ s.created → c = c'
  delivered : ∀ handler ∈ s.handlers, handler.Delivers s.sent
  sent : ∀ row ∈ s.rows ++ s.deleted, ∀ c c', row.conversationId = some c → (row.id, c') ∈ s.sent →
    c = c'
  settled : (∀ handler ∈ s.handlers, handler.stage = .finished) →
    ∀ row ∈ s.rows, ∀ c, (row.id, c) ∈ s.sent → row.conversationId = some c
  kept : s.dropped = 0

variable (s : ChatSessions)

/-- A row is deleted while no message awaits it, and inserted by one handler; a row without a
conversation is read while no other handler has one for it; and what was created is bound. -/
def Undisturbed (ok : Bool) : HandlerStage → Prop
  | .deleteSession => ok = true → ∀ other ∈ s.handlers, ¬ other.AwaitsRow
  | .selectSession => ok = true → s.rows = [] → ∀ other ∈ s.handlers, other.stage ≠ .insertSession
  | .getSessionById id _ => ok = true →
    s.conversationOf id = some none → ∀ other ∈ s.handlers, ¬ other.stage.Binds id
  | .sendMessage id _ created _ => created = true → ok = false → s.conversationOf id = none
  | .bindConversation id _ => ok = false → s.conversationOf id ≠ some none
  | _ => True

def Apart : Event → Prop
  | .arrive _ => True
  | .step k ok => ∀ handler ∈ s.handlers[k]?, s.Undisturbed ok handler.stage

instance (ok : Bool) : (stage : HandlerStage) → Decidable (s.Undisturbed ok stage)
  | .deleteSession => inferInstanceAs (Decidable (_ → ∀ other ∈ s.handlers, ¬ other.AwaitsRow))
  | .selectSession => inferInstanceAs (Decidable (_ → _ → ∀ other ∈ s.handlers, other.stage ≠ _))
  | .getSessionById id _ =>
    inferInstanceAs (Decidable (_ → _ → ∀ other ∈ s.handlers, ¬ other.stage.Binds id))
  | .sendMessage .. | .bindConversation .. => inferInstanceAs (Decidable (_ → _))
  | .insertSession | .getSession _ | .createConversation _ _ | .finished => .isTrue trivial

instance : (event : Event) → Decidable (s.Apart event)
  | .arrive _ => .isTrue trivial
  | .step k ok => inferInstanceAs
      (Decidable (∀ handler ∈ s.handlers[k]?, s.Undisturbed ok handler.stage))

/-- What a handler may count on at its stage. -/
def Holds (handler : Handler) : Prop :=
  match handler.stage with
  | .insertSession => s.rows = []
  | .getSession id => handler.kind = .message → ∃ row, s.getSession id = some row
  | .getSessionById id dispatched => ∃ row, s.getSession id = some row ∧
    ∀ c, dispatched = some c → row.conversationId = some c
  | .createConversation id dispatched =>
    id < s.mintedSessions ∧ dispatched = none ∧ ∀ c, (id, c) ∉ s.created
  | .sendMessage id c created dispatched => (id, c) ∈ s.created ∧ (created = true → dispatched = none)
  | .bindConversation id c => (id, c) ∈ s.created
  | .deleteSession | .selectSession | .finished => True

/-- What carries `OneConversation` from step to step. -/
structure Tracked (s : ChatSessions) : Prop where
  oneRow : s.rows.length ≤ 1
  inserting : Pool.AtMostOne (·.stage = .insertSession) s.handlers
  creating : ∀ id, Pool.AtMostOne
    (fun handler => ∃ d, handler.stage = .createConversation id d) s.handlers
  holds : ∀ handler ∈ s.handlers, s.Holds handler
  fresh : ∀ row ∈ s.rows ++ s.deleted, row.id < s.mintedSessions
  created : ∀ id c, (id, c) ∈ s.created → id < s.mintedSessions
  oneCreated : ∀ id c c', (id, c) ∈ s.created → (id, c') ∈ s.created → c = c'
  bound : ∀ row ∈ s.rows ++ s.deleted, ∀ c, row.conversationId = some c → (row.id, c) ∈ s.created
  pending : ∀ row ∈ s.rows, row.conversationId = none → ∀ c, (row.id, c) ∈ s.created →
    ∃ handler ∈ s.handlers, handler.stage.Binds row.id
  sent : ∀ pair ∈ s.sent, pair ∈ s.created
  kept : s.dropped = 0

variable {s : ChatSessions} {k id c : Nat} {ok created : Bool} {kind : HandlerKind}
  {handler : Handler} {stage : HandlerStage} {row : AssistantSessionRow} {event : Event}
  {dispatched : Option Nat}

lemma getSession_mem (found : s.getSession id = some row) : row ∈ s.rows ∧ row.id = id :=
  ⟨Keyed.mem_of_lookup found, Keyed.lookup_key found⟩

lemma getSession_of_mem (one : s.rows.length ≤ 1) (mem : row ∈ s.rows) :
    s.getSession row.id = some row := by
  apply Keyed.lookup_of_mem _ mem
  cases rows : s.rows with
  | nil => exact List.nodup_nil
  | cons first rest =>
    rw [rows, List.length_cons] at one
    rw [List.eq_nil_of_length_eq_zero (by omega : rest.length = 0)]
    exact List.nodup_singleton _

lemma conversationOf_of_mem (one : s.rows.length ≤ 1) (mem : row ∈ s.rows) :
    s.conversationOf row.id = some row.conversationId := by
  rw [conversationOf, getSession_of_mem one mem]
  rfl

section

variable (h : s.Tracked)
include h

lemma Tracked.oneConversation
    (delivered : ∀ handler ∈ s.handlers, handler.Delivers s.sent) : s.OneConversation where
  oneRow := h.oneRow
  oneCreated := h.oneCreated
  delivered := delivered
  sent row mem c c' bound sent := h.oneCreated row.id c c' (h.bound row mem c bound) (h.sent _ sent)
  settled finished row mem c sent := by
    cases bound : row.conversationId with
    | none =>
      -- The handler that is to bind the row is not done.
      obtain ⟨handler, there, binds⟩ := h.pending row mem bound c (h.sent _ sent)
      rw [finished handler there] at binds
      cases binds
    | some c' =>
      have own := h.bound row (List.mem_append_left _ mem) c' bound
      rw [h.oneCreated row.id c' c own (h.sent _ sent)]
  kept := h.kept

lemma Tracked.move (stage : HandlerStage) (there : s.handlers[k]? = some handler) {moved : Handler}
    (inserts : stage = .insertSession → ∀ other ∈ s.handlers, other.stage ≠ .insertSession)
    (creates : ∀ id d, stage = .createConversation id d →
      ∀ other ∈ s.handlers, ¬ other.stage.Binds id)
    (holds : s.Holds { moved with stage })
    (binds : ∀ row ∈ s.rows, row.conversationId = none → handler.stage.Binds row.id →
      stage.Binds row.id ∨ ∀ c, (row.id, c) ∉ s.created) :
    (s.move k moved stage).Tracked where
  oneRow := h.oneRow
  inserting := h.inserting.set inserts
  creating id := by
    apply (h.creating id).set
    rintro ⟨d, creates'⟩ other mem ⟨d', creates''⟩
    apply creates id d creates' other mem
    rw [creates'']
    exact rfl
  holds := Pool.forall_set h.holds holds
  fresh := h.fresh
  created := h.created
  oneCreated := h.oneCreated
  bound := h.bound
  pending row mem unbound c own := by
    obtain own' | others := Pool.exists_of_set there (h.pending row mem unbound c own)
    · obtain still | none_ := binds row mem unbound own'
      · exact ⟨_, Pool.mem_set_self there, still⟩
      · exact absurd own (none_ c)
    · exact others
  sent := h.sent
  kept := h.kept

lemma Tracked.move_plain (stage : HandlerStage)
    (there : s.handlers[k]? = some handler) {moved : Handler} (plain : ∀ id, ¬ handler.stage.Binds id)
    (inserts : stage ≠ .insertSession) (creates : ∀ id d, stage ≠ .createConversation id d)
    (holds : s.Holds { moved with stage }) : (s.move k moved stage).Tracked :=
  h.move stage there (absurd · inserts) (fun id d same => absurd same (creates id d)) holds
    fun row _ _ binds => absurd binds (plain row.id)

lemma Tracked.deleteSession (alone : ∀ other ∈ s.handlers, ¬ other.AwaitsRow) :
    s.deleteSessionByUserChat.Tracked where
  oneRow := Nat.zero_le _
  inserting := h.inserting
  creating := h.creating
  holds handler mem := by
    have holds := h.holds handler mem
    have awaits := alone handler mem
    rw [Holds] at holds ⊢
    rw [Handler.AwaitsRow] at awaits
    split at holds <;> rename_i stage <;> simp only [stage] at awaits ⊢
    · rfl
    · exact fun message => absurd message awaits
    · exact absurd trivial awaits
    · exact holds
    · exact holds
    · exact holds
  fresh row mem := h.fresh row (by simpa [deleteSessionByUserChat, or_comm] using mem)
  created := h.created
  oneCreated := h.oneCreated
  bound row mem := h.bound row (by simpa [deleteSessionByUserChat, or_comm] using mem)
  pending := nofun
  sent := h.sent
  kept := h.kept

/-- The one handler that inserts puts a row into an empty table. -/
lemma Tracked.insertSession (there : s.handlers[k]? = some handler)
    (own : handler.stage = .insertSession) :
    (s.insertSession.move k handler (.getSession s.mintedSessions)).Tracked := by
  have empty : s.rows = [] := by
    have holds := h.holds handler (List.mem_of_getElem? there)
    rwa [Holds, own] at holds
  have others : ∀ other ∈ s.handlers.set k { handler with stage := .getSession s.mintedSessions },
      other.stage ≠ .insertSession :=
    h.inserting.none_left there own nofun
  have kept : ∀ id row, s.getSession id = some row → s.insertSession.getSession id = some row := by
    intro id row found
    rw [getSession, empty] at found
    cases found
  have inserted : s.insertSession.rows = [{ id := s.mintedSessions, conversationId := none }] := by
    rw [ChatSessions.insertSession, empty]
    rfl
  have newest : ∀ row ∈ s.insertSession.rows ++ s.deleted,
      row = { id := s.mintedSessions, conversationId := none } ∨ row ∈ s.rows ++ s.deleted := by
    intro row mem
    rw [inserted, List.singleton_append] at mem
    exact (List.mem_cons.mp mem).imp_right (List.mem_append_right _)
  exact {
    oneRow := inserted ▸ le_rfl
    inserting := h.inserting.set nofun
    creating := fun id => (h.creating id).set nofun
    holds := by
      intro other mem
      obtain mem' | rfl := List.mem_or_eq_of_mem_set mem
      · have holds := h.holds other mem'
        have notInserting := others other mem
        unfold Holds at holds ⊢
        split at holds <;> rename_i stage <;> simp only [stage] at notInserting ⊢
        · -- Nobody else inserts at the same time.
          exact absurd rfl notInserting
        · intro message
          obtain ⟨row, found⟩ := holds message
          exact ⟨row, kept _ row found⟩
        · obtain ⟨row, found, bound⟩ := holds
          exact ⟨row, kept _ row found, bound⟩
        · exact ⟨Nat.lt_succ_of_lt holds.1, holds.2⟩
        · exact holds
        · exact holds
      · intro _
        refine ⟨{ id := s.mintedSessions, conversationId := none }, ?_⟩
        change s.insertSession.getSession s.mintedSessions = _
        rw [getSession, inserted, Keyed.lookup_cons, if_pos rfl]
    fresh := by
      intro row mem
      obtain rfl | mem := newest row mem
      · exact Nat.lt_succ_self _
      · exact Nat.lt_succ_of_lt (h.fresh row mem)
    created := fun id c own => Nat.lt_succ_of_lt (h.created id c own)
    oneCreated := h.oneCreated
    bound := by
      intro row mem c bound
      obtain rfl | mem := newest row mem
      · cases bound
      · exact h.bound row mem c bound
    pending := by
      intro row mem _ c own
      obtain rfl := List.mem_singleton.mp (inserted ▸ mem)
      exact absurd (h.created _ c own) (lt_irrefl _)
    sent := h.sent
    kept := h.kept }

/-- The one handler that creates a conversation for a session has one for it afterwards. -/
lemma Tracked.createConversation (there : s.handlers[k]? = some handler)
    (own : handler.stage = .createConversation id dispatched) :
    ((s.createConversation id).move k handler
      (.sendMessage id s.mintedConversations true dispatched)).Tracked := by
  have holds := h.holds handler (List.mem_of_getElem? there)
  rw [Holds, own] at holds
  obtain ⟨minted, undispatched, none_⟩ := holds
  have others : ∀ other ∈ s.handlers.set k
        { handler with stage := .sendMessage id s.mintedConversations true dispatched },
      ¬ ∃ d, other.stage = .createConversation id d :=
    (h.creating id).none_left there ⟨dispatched, own⟩ nofun
  have more : ∀ pair ∈ s.created, pair ∈ (s.createConversation id).created :=
    fun pair mem => List.mem_cons_of_mem _ mem
  exact {
    oneRow := h.oneRow
    inserting := h.inserting.set nofun
    creating := fun id' => (h.creating id').set nofun
    holds := by
      intro other mem
      obtain mem' | rfl := List.mem_or_eq_of_mem_set mem
      · have holds := h.holds other mem'
        have notCreating := others other mem
        unfold Holds at holds ⊢
        split at holds <;> rename_i stage <;> simp only [stage] at notCreating ⊢
        · exact holds
        · exact holds
        · exact holds
        · rename_i id' dispatched'
          obtain ⟨minted, undispatched', none_'⟩ := holds
          refine ⟨minted, undispatched', fun c mem => ?_⟩
          obtain same | mem := List.mem_cons.mp mem
          · -- Nobody else creates one for the same session.
            cases same
            exact notCreating ⟨dispatched', rfl⟩
          · exact none_' c mem
        · exact ⟨more _ holds.1, holds.2⟩
        · exact more _ holds
      · exact ⟨List.mem_cons_self, fun _ => undispatched⟩
    fresh := h.fresh
    created := by
      intro id' c mem
      obtain same | mem := List.mem_cons.mp mem
      · cases same
        exact minted
      · exact h.created id' c mem
    oneCreated := by
      intro id' c c' mem mem'
      obtain same | mem := List.mem_cons.mp mem <;> obtain same' | mem' := List.mem_cons.mp mem'
      · cases same
        cases same'
        rfl
      · cases same
        -- There was no conversation of this session before.
        exact absurd mem' (none_ c')
      · cases same'
        exact absurd mem (none_ c)
      · exact h.oneCreated id' c c' mem mem'
    bound := fun row mem c bound => more _ (h.bound row mem c bound)
    pending := by
      intro row mem unbound c mem'
      obtain same | mem' := List.mem_cons.mp mem'
      · cases same
        exact ⟨_, Pool.mem_set_self there, ⟨rfl, rfl⟩⟩
      · obtain own' | others := Pool.exists_of_set there (h.pending row mem unbound c mem')
        · rw [own] at own'
          exact ⟨_, Pool.mem_set_self there, ⟨rfl, own'⟩⟩
        · exact others
    sent := fun pair mem => more _ (h.sent pair mem)
    kept := h.kept }

end

lemma getSession_bindConversation (id' : Nat) :
    (s.bindConversation id c).getSession id' = (s.getSession id').map fun row =>
      if row.id = id then { row with conversationId := some c } else row := by
  apply Keyed.lookup_map
  intro row
  split <;> rfl

lemma mem_bindConversation (mem : row ∈ (s.bindConversation id c).rows) :
    row ∈ s.rows ∧ row.id ≠ id ∨
      ∃ old ∈ s.rows, old.id = id ∧ row = { old with conversationId := some c } := by
  obtain ⟨old, there, rfl⟩ := List.mem_map.mp mem
  by_cases here : old.id = id
  · rw [if_pos here]
    exact .inr ⟨old, there, here, rfl⟩
  · rw [if_neg here]
    exact .inl ⟨there, here⟩

section

variable (h : s.Tracked)
include h

/-- The row of a session is bound to the one conversation that was created for it. -/
lemma Tracked.bindConversation (own : (id, c) ∈ s.created) : (s.bindConversation id c).Tracked where
  oneRow := by
    rw [ChatSessions.bindConversation, List.length_map]
    exact h.oneRow
  inserting := h.inserting
  creating := h.creating
  holds handler mem := by
    have holds := h.holds handler mem
    unfold Holds at holds ⊢
    split at holds
    · rw [ChatSessions.bindConversation, holds]
      rfl
    · intro message
      obtain ⟨row, found⟩ := holds message
      rw [getSession_bindConversation, found]
      exact ⟨_, rfl⟩
    · obtain ⟨row, found, bound⟩ := holds
      rw [getSession_bindConversation, found]
      refine ⟨_, rfl, fun c' dispatched => ?_⟩
      dsimp only
      split
      · rename_i here
        have before := h.bound row (List.mem_append_left _ (getSession_mem found).1) c'
          (bound c' dispatched)
        -- A row that was bound before is bound to the same conversation.
        rw [h.oneCreated id c c' own (here ▸ before)]
      · exact bound c' dispatched
    all_goals exact holds
  fresh row mem := by
    obtain mem | mem := List.mem_append.mp mem
    · obtain ⟨there, _⟩ | ⟨old, there, _, rfl⟩ := mem_bindConversation mem
      · exact h.fresh row (List.mem_append_left _ there)
      · exact h.fresh old (List.mem_append_left _ there)
    · exact h.fresh row (List.mem_append_right _ mem)
  created := h.created
  oneCreated := h.oneCreated
  bound row mem c' bound := by
    obtain mem | mem := List.mem_append.mp mem
    · obtain ⟨there, _⟩ | ⟨old, _, here, rfl⟩ := mem_bindConversation mem
      · exact h.bound row (List.mem_append_left _ there) c' bound
      · cases bound
        exact here ▸ own
    · exact h.bound row (List.mem_append_right _ mem) c' bound
  pending row mem unbound := by
    obtain ⟨there, _⟩ | ⟨old, _, _, rfl⟩ := mem_bindConversation mem
    · exact h.pending row there unbound
    · cases unbound
  sent := h.sent
  kept := h.kept

section

variable (there : s.handlers[k]? = some handler)
include there

lemma Tracked.drop (plain : ∀ id, ¬ handler.stage.Binds id) (action : handler.kind ≠ .message) :
    (s.drop k handler).Tracked := by
  rw [ChatSessions.drop, if_neg action]
  exact h.move_plain .finished there plain nofun nofun trivial

lemma Tracked.resolved
    (plain : ∀ id, ¬ handler.stage.Binds id) (found : s.getSession row.id = some row) :
    (s.resolve k handler row).Tracked := by
  rw [resolve]
  cases kind : handler.kind with
  | message =>
    exact h.move_plain _ there plain nofun nofun ⟨row, found, fun c dispatched => dispatched⟩
  | sessionNew => exact h.move_plain _ there plain nofun nofun trivial

lemma Tracked.reread (plain : ∀ id, ¬ handler.stage.Binds id) (found : s.getSession id = some row)
    (same : ∀ c, dispatched = some c → row.conversationId = some c)
    (alone : s.conversationOf id = some none → ∀ other ∈ s.handlers, ¬ other.stage.Binds id) :
    (s.move k handler (sendStage row dispatched)).Tracked := by
  obtain ⟨mem, rfl⟩ := getSession_mem found
  rw [sendStage]
  split
  · rename_i c bound
    refine h.move_plain _ there plain nofun nofun ⟨?_, nofun⟩
    exact h.bound row (List.mem_append_left _ mem) c bound
  · rename_i unbound
    have alone' := alone (by rw [conversationOf, found]; exact congrArg some unbound)
    have none_ : ∀ c, (row.id, c) ∉ s.created := by
      intro c own
      obtain ⟨other, mem', binds⟩ := h.pending row mem unbound c own
      exact alone' other mem' binds
    -- A row that is unbound was so when the message was dispatched.
    have undispatched : dispatched = none := by
      apply Option.eq_none_iff_forall_ne_some.mpr
      exact fun c given => nomatch unbound.symm.trans (same c given)
    refine h.move _ there nofun (fun id d same' => ?_) ?_ fun row _ _ binds =>
      absurd binds (plain row.id)
    · cases same'
      exact alone'
    · exact ⟨h.fresh row (List.mem_append_left _ mem), undispatched, none_⟩

lemma Tracked.send
    (own : handler.stage = .sendMessage id c created dispatched) (mem : (id, c) ∈ s.created)
    (fresh : created = true → dispatched = none) :
    (({ s with sent := (id, c) :: s.sent } : ChatSessions).move k { handler with conversation := some c }
      (if dispatched.isNone then .bindConversation id c else .finished)).Tracked := by
  have sent : ({ s with sent := (id, c) :: s.sent } : ChatSessions).Tracked :=
    { h with sent := List.forall_mem_cons.mpr ⟨mem, h.sent⟩ }
  cases dispatched with
  | none =>
    apply sent.move (.bindConversation id c) there nofun nofun mem
    rintro row _ _ binds
    rw [own] at binds
    obtain ⟨_, rfl⟩ := binds
    exact .inl rfl
  | some c' =>
    apply sent.move_plain .finished there _ nofun nofun trivial
    rw [own]
    exact fun _ binds => nomatch fresh binds.1

lemma Tracked.bind (own : handler.stage = .bindConversation id c) (mem : (id, c) ∈ s.created) :
    ((s.bindConversation id c).move k handler .finished).Tracked := by
  apply (h.bindConversation mem).move .finished there nofun nofun trivial
  intro row mem unbound binds
  rw [own] at binds
  obtain ⟨_, other⟩ | ⟨_, _, _, rfl⟩ := mem_bindConversation mem
  · exact absurd binds.symm other
  · cases unbound

lemma Tracked.advance
    (apart : s.Undisturbed true handler.stage) : (s.advance k handler).Tracked := by
  have holds := h.holds handler (List.mem_of_getElem? there)
  rw [ChatSessions.advance]
  rw [Holds] at holds
  cases own : handler.stage with
  | deleteSession =>
    have plain : ∀ id, ¬ handler.stage.Binds id := own ▸ fun _ => id
    rw [own] at apart
    exact (h.deleteSession (apart rfl)).move_plain _ there plain nofun nofun trivial
  | selectSession =>
    have plain : ∀ id, ¬ handler.stage.Binds id := own ▸ fun _ => id
    dsimp only
    cases first : s.rows.head? with
    | some row => exact h.resolved there plain (getSession_of_mem h.oneRow (List.mem_of_head? first))
    | none =>
      have empty := List.head?_eq_none_iff.mp first
      rw [own] at apart
      exact h.move _ there (fun _ => apart rfl empty) nofun empty
        fun row _ _ binds => absurd binds (plain row.id)
  | insertSession => exact h.insertSession there own
  | getSession id =>
    have plain : ∀ id, ¬ handler.stage.Binds id := own ▸ fun _ => nofun
    rw [own] at holds
    dsimp only
    cases found : s.getSession id with
    | some row =>
      obtain ⟨_, rfl⟩ := getSession_mem found
      exact h.resolved there plain found
    | none =>
      refine h.drop there plain fun message => ?_
      obtain ⟨row, found'⟩ := holds message
      exact nomatch found.symm.trans found'
  | getSessionById id dispatched =>
    have plain : ∀ id, ¬ handler.stage.Binds id := own ▸ fun _ => nofun
    rw [own] at holds apart
    obtain ⟨row, found, same⟩ := holds
    dsimp only
    rw [found]
    exact h.reread there plain found same (apart rfl)
  | createConversation id dispatched => exact h.createConversation there own
  | sendMessage id c created dispatched =>
    rw [own] at holds
    exact h.send there own holds.1 holds.2
  | bindConversation id c =>
    rw [own] at holds
    exact h.bind there own holds
  | finished => exact h

lemma Tracked.fail (apart : s.Undisturbed false handler.stage) :
    (s.move k { handler with failed := true } .finished).Tracked := by
  have holds := h.holds handler (List.mem_of_getElem? there)
  rw [Holds] at holds
  apply h.move .finished there nofun nofun trivial
  intro row mem unbound binds
  have here : s.conversationOf row.id = some none := unbound ▸ conversationOf_of_mem h.oneRow mem
  cases own : handler.stage with
  | createConversation id dispatched =>
    rw [own] at holds binds
    obtain rfl := binds
    exact .inr holds.2.2
  | sendMessage id c created dispatched =>
    rw [own] at apart binds
    obtain ⟨created, rfl⟩ := binds
    exact nomatch here.symm.trans (apart created rfl)
  | bindConversation id c =>
    rw [own] at apart binds
    obtain rfl := binds
    exact absurd here (apart rfl)
  | deleteSession | selectSession | insertSession | getSession | getSessionById | finished =>
    rw [own] at binds
    cases binds

end

lemma Tracked.arrive : (s.next (.arrive kind)).Tracked where
  oneRow := h.oneRow
  inserting := h.inserting.append (by cases kind <;> exact nofun)
  creating id := (h.creating id).append (by cases kind <;> exact nofun)
  holds := Pool.forall_append h.holds (by cases kind <;> exact trivial)
  fresh := h.fresh
  created := h.created
  oneCreated := h.oneCreated
  bound := h.bound
  pending row mem unbound c own := by
    obtain ⟨handler, there, binds⟩ := h.pending row mem unbound c own
    exact ⟨handler, List.mem_append_left _ there, binds⟩
  sent := h.sent
  kept := h.kept

lemma Tracked.next (apart : s.Apart event) : (s.next event).Tracked := by
  cases event with
  | arrive kind => exact h.arrive
  | step k ok =>
    rw [ChatSessions.next]
    cases there : s.handlers[k]? with
    | none => exact h
    | some handler =>
      cases ok with
      | true => exact h.advance there (apart handler there)
      | false => exact h.fail there (apart handler there)

end

lemma Tracked.start : start.Tracked where
  oneRow := Nat.zero_le _
  inserting := .nil
  creating _ := .nil
  holds := nofun
  fresh := nofun
  created := nofun
  oneCreated := nofun
  bound := nofun
  pending := nofun
  sent := nofun
  kept := rfl

lemma Handler.Delivers.more {sent sent' : List (Nat × Nat)} (delivers : handler.Delivers sent)
    (more : sent ⊆ sent') : handler.Delivers sent' := by
  unfold Handler.Delivers at delivers ⊢
  split at delivers
  all_goals try exact delivers
  · exact ⟨delivers.1, delivers.2.1, more delivers.2.2⟩
  · intro message succeeded
    obtain ⟨id, c, session, conversation, mem⟩ := delivers message succeeded
    exact ⟨id, c, session, conversation, more mem⟩

section

variable (h : ∀ handler ∈ s.handlers, handler.Delivers s.sent)
include h

lemma delivers_move {moved : Handler} (fits : ({ moved with stage } : Handler).Delivers s.sent) :
    ∀ handler ∈ (s.move k moved stage).handlers, handler.Delivers s.sent :=
  Pool.forall_set h fits

lemma delivers_resolve : ∀ other ∈ (s.resolve k handler row).handlers, other.Delivers s.sent := by
  apply delivers_move h
  obtain ⟨kind, stage, session, conversation, failed⟩ := handler
  cases kind with
  | message => exact rfl
  | sessionNew => exact nofun

lemma delivers_drop (kept : (s.drop k handler).dropped ≤ s.dropped) :
    ∀ other ∈ (s.drop k handler).handlers, other.Delivers s.sent := by
  apply delivers_move h
  intro message
  rw [drop, if_pos message] at kept
  exact absurd kept (Nat.not_succ_le_self _)

lemma delivers_advance
    (there : s.handlers[k]? = some handler) (kept : (s.advance k handler).dropped ≤ s.dropped) :
    ∀ other ∈ (s.advance k handler).handlers, other.Delivers (s.advance k handler).sent := by
  have own := h handler (List.mem_of_getElem? there)
  rw [Handler.Delivers] at own
  rw [advance] at kept ⊢
  cases stage : handler.stage with
  | deleteSession => exact delivers_move (s := s.deleteSessionByUserChat) h trivial
  | selectSession =>
    dsimp only
    cases s.rows.head? with
    | some row => exact delivers_resolve h
    | none => exact delivers_move h trivial
  | insertSession => exact delivers_move (s := s.insertSession) h trivial
  | getSession id =>
    rw [stage] at kept
    dsimp only at kept ⊢
    cases read : s.getSession id with
    | some row => exact delivers_resolve h
    | none =>
      rw [read] at kept
      exact delivers_drop h kept
  | getSessionById id dispatched =>
    rw [stage] at kept own
    dsimp only at kept ⊢
    cases read : s.getSession id with
    | some row =>
      apply delivers_move h
      obtain ⟨-, rfl⟩ := getSession_mem read
      unfold sendStage
      split
      · exact own
      · exact own
    | none =>
      rw [read] at kept
      exact delivers_drop h kept
  | createConversation id dispatched =>
    rw [stage] at own
    exact delivers_move (s := s.createConversation id) h own
  | sendMessage id c created dispatched =>
    rw [stage] at own
    refine delivers_move (s := { s with sent := (id, c) :: s.sent })
      (fun other mem => Handler.Delivers.more (h other mem) (List.subset_cons_self _ _)) ?_
    cases dispatched with
    | none => exact ⟨own, rfl, List.mem_cons_self⟩
    | some c' => exact fun _ _ => ⟨id, c, own, rfl, List.mem_cons_self⟩
  | bindConversation id c =>
    rw [stage] at own
    exact delivers_move (s := s.bindConversation id c) h fun _ _ => ⟨id, c, own⟩
  | finished => exact h

lemma delivers_next (kept : (s.next event).dropped ≤ s.dropped) :
    ∀ handler ∈ (s.next event).handlers, handler.Delivers (s.next event).sent := by
  cases event with
  | arrive kind =>
    refine Pool.forall_append h ?_
    cases kind <;> exact trivial
  | step k ok =>
    rw [ChatSessions.next] at kept ⊢
    cases there : s.handlers[k]? with
    | none => exact h
    | some handler =>
      rw [there] at kept
      cases ok with
      | true => exact delivers_advance h there kept
      | false => exact delivers_move h fun _ => nofun

end

/-- In every run whose handlers keep apart, a chat has one session and one conversation for it, and
every message goes there. -/
theorem one_conversation (events : List Event) (apart : LTS.EnabledAll Apart next start events) :
    LTS.Throughout next OneConversation start events := by
  apply LTS.throughout_iff.mpr
  refine ⟨Tracked.start.oneConversation nofun, ?_⟩
  refine apart.imp (Q := fun s => s.Tracked ∧ ∀ handler ∈ s.handlers, handler.Delivers s.sent)
    (fun s event h holds => ?_) ⟨.start, nofun⟩
  have tracked := h.1.next holds
  have delivered := delivers_next h.2 (tracked.kept.trans_le (Nat.zero_le _))
  exact ⟨tracked.oneConversation delivered, tracked, delivered⟩

/-- Two messages in a row, a `session.new`, and a message for the new session. -/
theorem one_conversation_in_turn : LTS.Throughout next OneConversation start
    [.arrive .message, .step 0 true, .step 0 true, .step 0 true, .step 0 true, .step 0 true,
      .step 0 true, .step 0 true, .arrive .message, .step 1 true, .step 1 true, .step 1 true,
      .arrive .sessionNew, .step 2 true, .step 2 true, .step 2 true, .step 2 true,
      .arrive .message, .step 3 true, .step 3 true, .step 3 true, .step 3 true, .step 3 true] :=
  one_conversation _ (by decide)

/-- Two messages that both find no row insert one each. -/
theorem two_rows_inserted : ¬ LTS.Throughout next OneConversation start
    [.arrive .message, .arrive .message, .step 0 true, .step 1 true, .step 0 true, .step 1 true] := by
  intro h
  exact absurd h.last.oneRow (by decide)

end ChatSessions

end KiCore.Channel

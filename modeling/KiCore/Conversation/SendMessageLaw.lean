import KiCore.Conversation.SendMessage

/-!
# What a send leaves behind

A call of `send_message` that fails leaves no message, unless its message was stored and then its steer
was rejected; one that returns has left one message if the lifecycle allowed it, and none otherwise
(`send_message_delivers`).
The lifecycle does not allow it while a turn is being cancelled: `send_message_cancelling`.
-/

namespace KiCore.Conversation

open KiCore.Lib

namespace SendMessageCall

variable (c : SendMessageCall)

/-- The message of an id is stored and was broadcast, and no other. -/
def Sent (msgId : Nat) : Prop :=
  ∃ m, c.messages = [m] ∧ m.id = msgId ∧ c.created.map (·.msgId) = [msgId]

def Unsent : Prop :=
  c.messages = [] ∧ c.created = []

/-- A message is marked as received only if an agent got it, or it opens a turn. -/
def Received : Prop :=
  ∀ m ∈ c.messages, m.status = midturnStatusReceived → SendService.Got c m.id ∨ c.claimed.isSome

/-- A call that fails leaves nothing unless the steer of its message was rejected; one that returns has
sent one message if it was allowed and none otherwise, and has handed it over at most once. -/
structure Delivers (c : SendMessageCall) : Prop where
  failed : ∀ e, c.stage = .returned (.error e) → c.fellBack = false → c.Unsent
  sent : ∀ r, c.stage = .returned (.ok r) → if c.allowed then c.Sent r.msgId else c.Unsent
  once : ∀ r, c.stage = .returned (.ok r) → c.delivered.length + c.started.length ≤ 1
  received : ∀ r, c.stage = .returned (.ok r) → c.Received

/-- The message is stored under an id, or no message was allowed. -/
def Holds : Option Nat → Prop
  | none => c.allowed = false ∧ c.Unsent
  | some msgId => c.allowed = true ∧ c.Sent msgId

def Kept : Prop :=
  c.delivered = [] ∧ c.started = []

/-- At most the agent was handed the message of an id. -/
def Offered (msgId : Nat) : Prop :=
  c.delivered.length ≤ 1 ∧ (∀ data ∈ c.delivered, data.msgId = msgId) ∧ c.started = []

def OkAt : SendStage → Prop
  | .accept | .choose _ | .mintMidturn _ _ => c.Holds none ∧ c.Kept ∧ c.fellBack = false
  | .insertMidturn _ _ _ => c.allowed = true ∧ c.Unsent ∧ c.Kept ∧ c.fellBack = false
  | .deliver _ _ msgId persisted =>
    c.Holds (if persisted then some msgId else none) ∧ c.Offered msgId ∧ c.Received
  | .receive _ msgId => c.Holds (some msgId) ∧ c.Kept ∧ c.fellBack = true
  | .markError _ msgId => c.Holds (some msgId) ∧ c.Offered msgId ∧ c.Received
  | .claimTurn _ fallback => c.Holds fallback ∧ c.Kept ∧ (fallback.isSome → c.fellBack = true)
  | .askWrite _ fallback _ _ => c.Holds fallback ∧ c.Kept ∧ c.claimed.isSome
  | .insert _ _ _ _ => c.allowed = true ∧ c.Unsent ∧ c.Kept ∧ c.claimed.isSome
  | .build _ _ _ msgId => c.Holds (some msgId) ∧ c.Kept ∧ c.claimed.isSome
  | .returned (.error _) => c.fellBack = false → c.Unsent
  | .returned (.ok r) =>
    c.Holds (if c.allowed then some r.msgId else none) ∧
      c.delivered.length + c.started.length ≤ 1 ∧ c.Received

def Ok : Prop :=
  c.OkAt c.stage

variable {c : SendMessageCall} {msgId : Nat} {status : String}

lemma Ok.delivers (ok : c.Ok) : c.Delivers := by
  unfold Ok at ok
  refine ⟨fun e returned => ?_, fun r returned => ?_, fun r returned => ?_, fun r returned => ?_⟩
  all_goals
    rw [returned] at ok
  · exact ok
  · cases allowed : c.allowed with
    | true =>
      rw [OkAt, allowed] at ok
      exact ok.1.2
    | false =>
      rw [OkAt, allowed] at ok
      exact ok.1.2
  · exact ok.2.1
  · exact ok.2.2

lemma receipt_eq (c : SendMessageCall) (msgId : Nat) (status : String) (onlyIfQueued ok : Bool) :
    ∃ messages statusChanged, c.applyMessageReceipt msgId status onlyIfQueued ok =
        { c with messages, statusChanged } ∧
      (messages = c.messages ∨ messages = c.messages.map (.setStatus msgId status)) := by
  unfold applyMessageReceipt
  split_ifs
  · exact ⟨c.messages, c.statusChanged, rfl, .inl rfl⟩
  · exact ⟨_, _, rfl, .inr rfl⟩
  · exact ⟨c.messages, c.statusChanged, rfl, .inl rfl⟩

lemma setStatus_id (m : UserMessage) : (m.setStatus msgId status).id = m.id := by
  unfold UserMessage.setStatus
  split_ifs <;> rfl

lemma setStatus_status (m : UserMessage) (is : (m.setStatus msgId status).status = midturnStatusReceived) :
    m.status = midturnStatusReceived ∨ m.id = msgId ∧ status = midturnStatusReceived := by
  unfold UserMessage.setStatus at is
  split_ifs at is with same
  · exact .inr ⟨same, is⟩
  · exact .inl is

section

variable {messages : List UserMessage} (statusChanged : List (Nat × String))
  (set : messages = c.messages ∨ messages = c.messages.map (.setStatus msgId status))
include set

lemma Unsent.receipt (unsent : c.Unsent) : Unsent { c with messages, statusChanged } := by
  refine ⟨?_, unsent.2⟩
  dsimp only
  rcases set with rfl | rfl
  · exact unsent.1
  · rw [unsent.1]
    rfl

lemma Sent.receipt {id : Nat} (sent : c.Sent id) : Sent { c with messages, statusChanged } id := by
  obtain ⟨m, one, same, broadcast⟩ := sent
  rcases set with rfl | rfl
  · exact ⟨m, one, same, broadcast⟩
  · refine ⟨m.setStatus msgId status, ?_, (setStatus_id m).trans same, broadcast⟩
    dsimp only
    rw [one]
    rfl

lemma Holds.receipt {id : Option Nat} (holds : c.Holds id) :
    Holds { c with messages, statusChanged } id := by
  cases id with
  | none => exact ⟨holds.1, holds.2.receipt statusChanged set⟩
  | some id => exact ⟨holds.1, holds.2.receipt statusChanged set⟩

lemma Received.receipt (received : c.Received)
    (got : status = midturnStatusReceived → SendService.Got c msgId) :
    Received { c with messages, statusChanged } := by
  intro m mem is
  rcases set with rfl | rfl
  · exact received m mem is
  · obtain ⟨old, there, rfl⟩ := List.mem_map.mp mem
    rw [setStatus_id]
    rcases setStatus_status old is with is | ⟨same, is⟩
    · exact received old there is
    · exact .inl (same ▸ got is)

end

lemma Ok.echo (ok : c.Ok) (got : SendService.Got c msgId) (updated : Bool) :
    (c.applyMessageReceipt msgId midturnStatusReceived true updated).Ok := by
  obtain ⟨messages, statusChanged, eq, set⟩ := c.receipt_eq msgId midturnStatusReceived true updated
  rw [eq]
  -- before the delivery, and once the agent has rejected it, there is nothing to echo
  have none {p : Prop} (kept : c.Kept) : p := by
    obtain ⟨data, mem, -⟩ := got
    rw [kept.1] at mem
    cases mem
  unfold Ok at ok ⊢
  dsimp only
  cases at_ : c.stage with
  | accept => rw [at_] at ok; exact none ok.2.1
  | choose resolved => rw [at_] at ok; exact none ok.2.1
  | mintMidturn resolved turnId => rw [at_] at ok; exact none ok.2.1
  | insertMidturn resolved turnId id => rw [at_] at ok; exact none ok.2.2.1
  | deliver resolved turnId id persisted =>
    rw [at_] at ok
    exact ⟨ok.1.receipt statusChanged set, ok.2.1, ok.2.2.receipt statusChanged set fun _ => got⟩
  | receive resolved id => rw [at_] at ok; exact none ok.2.1
  | markError turnId id =>
    rw [at_] at ok
    exact ⟨ok.1.receipt statusChanged set, ok.2.1, ok.2.2.receipt statusChanged set fun _ => got⟩
  | claimTurn resolved fallback => rw [at_] at ok; exact none ok.2.1
  | askWrite resolved fallback turnId claim => rw [at_] at ok; exact none ok.2.1
  | insert resolved turnId claim id => rw [at_] at ok; exact none ok.2.2.1
  | build resolved turnId claim id => rw [at_] at ok; exact none ok.2.1
  | returned result =>
    rw [at_] at ok
    cases result with
    | error e => exact fun direct => (ok direct).receipt statusChanged set
    | ok r => exact ⟨ok.1.receipt statusChanged set, ok.2.1, ok.2.2.receipt statusChanged set fun _ => got⟩

lemma Unsent.persist (unsent : c.Unsent) (resolved : ResolvedChatMessage) (clientMsgId : Option Nat) :
    (c.persist resolved msgId status clientMsgId).Sent msgId := by
  unfold SendMessageCall.persist Sent
  rw [unsent.1, unsent.2]
  exact ⟨_, rfl, rfl, rfl⟩

lemma Unsent.received (unsent : c.Unsent) : c.Received := by
  intro m mem
  rw [unsent.1] at mem
  cases mem

lemma received_of_claimed (claimed : c.claimed.isSome) : c.Received :=
  fun _ _ _ => .inr claimed

lemma Kept.once (kept : c.Kept) : c.delivered.length + c.started.length ≤ 1 := by
  rw [kept.1, kept.2]
  exact Nat.zero_le 1

lemma Offered.once (offered : c.Offered msgId) : c.delivered.length + c.started.length ≤ 1 := by
  rw [offered.2.2]
  exact offered.1

lemma Kept.offered (kept : c.Kept) : c.Offered msgId := by
  refine ⟨?_, fun data mem => ?_, kept.2⟩
  · rw [kept.1]
    exact Nat.zero_le 1
  · rw [kept.1] at mem
    cases mem

lemma Offered.kept (offered : c.Offered msgId) (none : ¬ SendService.Got c msgId) : c.Kept := by
  refine ⟨List.eq_nil_iff_forall_not_mem.mpr fun data mem => ?_, offered.2.2⟩
  exact none ⟨data, mem, offered.2.1 data mem⟩

lemma Ok.respond {id : Option Nat} (holds : c.Holds id) (same : ∀ i ∈ id, i = msgId)
    (once : c.delivered.length + c.started.length ≤ 1) (received : c.Received) (turnId : Nat)
    (deliveredMidturn : Bool) : (c.respond msgId turnId deliveredMidturn).Ok := by
  refine ⟨?_, once, received⟩
  cases id with
  | none =>
    change c.Holds (if c.allowed then some msgId else none)
    rw [holds.1]
    exact holds
  | some id =>
    change c.Holds (if c.allowed then some msgId else none)
    rw [holds.1, ← same id rfl]
    exact holds

lemma Ok.take (ok : c.Ok) (first : ∀ resolved turnId id persisted,
    c.stage = .deliver resolved turnId id persisted → ¬ SendService.Got c id) : c.take.Ok := by
  unfold SendMessageCall.take
  split
  · rename_i resolved turnId id persisted at_
    rw [Ok, at_] at ok
    obtain ⟨holds, offered, received⟩ := ok
    obtain ⟨none, started⟩ := offered.kept (first resolved turnId id persisted at_)
    rw [Ok]
    dsimp only
    rw [at_, none]
    refine ⟨?_, ⟨le_rfl, fun data mem => ?_, started⟩, fun m mem is => ?_⟩
    · cases persisted with
      | false => exact holds
      | true => exact holds
    · cases List.mem_singleton.mp mem
      rfl
    · rcases received m mem is with ⟨data, got, -⟩ | claimed
      · rw [none] at got
        cases got
      · exact .inr claimed
  · exact ok

variable {claims : TurnClaims} {input : SendInput} {resolved : ResolvedChatMessage}

lemma Ok.insertMidturn {turnId : Nat} (allowed : c.allowed = true)
    (unsent : c.Unsent) (kept : c.Kept) :
    Ok { c.persist resolved msgId midturnStatusQueued (some msgId) with
      stage := .deliver resolved turnId msgId true } := by
  refine ⟨⟨allowed, unsent.persist resolved _⟩, kept.offered, fun m mem is => ?_⟩
  have queued : m ∈ c.messages ++ [_] := mem
  rw [unsent.1] at queued
  cases List.mem_singleton.mp queued
  exact absurd (show midturnStatusQueued = midturnStatusReceived from is) (by decide)

lemma Ok.deliver {turnId : Nat} {persisted : Bool}
    (ok : c.OkAt (.deliver resolved turnId msgId persisted))
    (at_ : c.stage = .deliver resolved turnId msgId persisted)
    (truly : input.outcome = .turnEnded → ¬ SendService.Got c msgId) : (c.step claims input).1.Ok := by
  obtain ⟨holds, offered, received⟩ := ok
  have responds : ∀ deliveredMidturn, (c.respond msgId turnId deliveredMidturn).Ok := by
    refine Ok.respond holds (fun i mem => ?_) offered.once received turnId
    cases persisted with
    | false => cases mem
    | true => exact (Option.some.inj mem).symm
  unfold SendMessageCall.step
  rw [at_]
  dsimp only
  cases outcome : input.outcome with
  | taken => exact responds true
  | turnEnded =>
    have kept := offered.kept (truly outcome)
    cases persisted with
    | false => exact ⟨holds, kept, nofun⟩
    | true => exact ⟨holds, kept, rfl⟩
  | failed =>
    cases persisted with
    | false => exact responds false
    | true => exact ⟨holds, offered, received⟩

lemma Ok.askWrite {fallback : Option Nat} {turnId claim : Nat}
    (ok : c.OkAt (.askWrite resolved fallback turnId claim))
    (at_ : c.stage = .askWrite resolved fallback turnId claim) : (c.step claims input).1.Ok := by
  obtain ⟨holds, kept, claimed⟩ := ok
  unfold SendMessageCall.step
  rw [at_]
  dsimp only
  cases fallback with
  | none =>
    obtain ⟨unasked, unsent⟩ := holds
    rw [unasked]
    cases claims.state.lifecycle.allows .userMessage with
    | true => exact ⟨rfl, unsent, kept, claimed⟩
    | false => exact ⟨⟨rfl, unsent⟩, kept.once, unsent.received⟩
  | some id =>
    obtain ⟨allowed, sent⟩ := holds
    rw [allowed]
    cases claims.state.lifecycle.allows .userMessage with
    | true => exact ⟨⟨rfl, sent⟩, kept, claimed⟩
    | false => exact ⟨⟨rfl, sent⟩, kept.once, received_of_claimed claimed⟩

/-- A step keeps what is there at its stage. -/
lemma Ok.step (ok : c.Ok) (truly : ∀ resolved turnId id persisted,
    c.stage = .deliver resolved turnId id persisted →
      (input.outcome = .taken → SendService.Got c id) ∧
        (input.outcome = .turnEnded → ¬ SendService.Got c id)) : (c.step claims input).1.Ok := by
  unfold Ok at ok
  cases at_ : c.stage with
  | deliver resolved turnId id persisted =>
    exact Ok.deliver (at_ ▸ ok) at_ (truly resolved turnId id persisted at_).2
  | askWrite resolved fallback turnId claim => exact Ok.askWrite (at_ ▸ ok) at_
  | accept =>
    rw [at_] at ok
    unfold SendMessageCall.step
    rw [at_]
    dsimp only
    cases acceptMessage claims.conversationId c.request input.reads with
    | error e => exact fun _ => ok.1.2
    | ok resolved => exact ok
  | choose resolved =>
    rw [at_] at ok
    have claim : Ok { c with stage := .claimTurn resolved none } := ⟨ok.1, ok.2.1, nofun⟩
    unfold SendMessageCall.step
    rw [at_]
    dsimp only
    split
    · split_ifs
      · exact ok
      · exact claim
    · exact claim
  | mintMidturn resolved turnId =>
    rw [at_] at ok
    obtain ⟨⟨unasked, unsent⟩, kept, direct⟩ := ok
    unfold SendMessageCall.step
    rw [at_]
    dsimp only
    rw [unasked]
    cases claims.state.lifecycle.allows .userMessage with
    | true => exact ⟨rfl, unsent, kept, direct⟩
    | false => exact ⟨⟨rfl, unsent⟩, kept.offered, unsent.received⟩
  | insertMidturn resolved turnId id =>
    rw [at_] at ok
    obtain ⟨allowed, unsent, kept, direct⟩ := ok
    unfold SendMessageCall.step
    rw [at_]
    dsimp only
    split_ifs
    · exact Ok.insertMidturn allowed unsent kept
    · exact fun _ => unsent
  | receive resolved id =>
    rw [at_] at ok
    obtain ⟨holds, kept, fell⟩ := ok
    obtain ⟨messages, statusChanged, eq, set⟩ := c.receipt_eq id midturnStatusReceived false input.ok
    unfold SendMessageCall.step
    rw [at_]
    dsimp only
    rw [eq]
    exact ⟨holds.receipt statusChanged set, kept, fun _ => fell⟩
  | markError turnId id =>
    rw [at_] at ok
    obtain ⟨holds, offered, received⟩ := ok
    obtain ⟨messages, statusChanged, eq, set⟩ := c.receipt_eq id "error" false input.ok
    have marked : Received { c with messages, statusChanged } :=
      received.receipt statusChanged set fun is => absurd is (by decide)
    unfold SendMessageCall.step
    rw [at_]
    dsimp only
    rw [eq]
    exact Ok.respond (holds.receipt statusChanged set) (fun i mem => (Option.some.inj mem).symm)
      offered.once marked turnId false
  | claimTurn resolved fallback =>
    rw [at_] at ok
    obtain ⟨holds, kept, fell⟩ := ok
    unfold SendMessageCall.step
    rw [at_]
    dsimp only
    cases claims.state.tryClaimTurn claims.conversationId claims.minted with
    | error e =>
      intro direct
      cases fallback with
      | none => exact holds.2
      | some id => exact absurd ((fell rfl).symm.trans direct) (by decide)
    | ok state => exact ⟨holds, kept, rfl⟩
  | insert resolved turnId claim id =>
    rw [at_] at ok
    obtain ⟨allowed, unsent, kept, claimed⟩ := ok
    unfold SendMessageCall.step
    rw [at_]
    dsimp only
    split_ifs
    · exact ⟨⟨allowed, unsent.persist resolved _⟩, kept, claimed⟩
    · exact fun _ => unsent
  | build resolved turnId claim id =>
    rw [at_] at ok
    obtain ⟨holds, kept, claimed⟩ := ok
    have same : ∀ i ∈ some id, i = id := fun i mem => (Option.some.inj mem).symm
    have once : (c.spawnUserTurn resolved turnId).delivered.length +
        (c.spawnUserTurn resolved turnId).started.length ≤ 1 := by
      change c.delivered.length + (c.started ++ [_]).length ≤ 1
      rw [kept.1, kept.2]
      exact le_rfl
    unfold SendMessageCall.step
    rw [at_]
    dsimp only
    split_ifs
    · have spawned : (c.spawnUserTurn resolved turnId).Holds (some id) := holds
      exact Ok.respond spawned same once (received_of_claimed claimed) turnId false
    · exact Ok.respond holds same kept.once (received_of_claimed claimed) turnId false
  | returned result =>
    unfold SendMessageCall.step
    rw [at_]
    exact ok

end SendMessageCall

namespace SendService

lemma next_ok {s : SendService} (ok : ∀ call ∈ s.calls, call.Ok) {event : Event}
    (faithful : s.Faithful event) : ∀ call ∈ (s.next event).calls, call.Ok := by
  cases event with
  | send request =>
    exact Pool.forall_append ok ⟨⟨rfl, rfl, rfl⟩, ⟨rfl, rfl⟩, rfl⟩
  | step k input =>
    dsimp only [next]
    cases there : s.calls[k]? with
    | none => exact ok
    | some call =>
      refine Pool.forall_set ok ((ok call (List.mem_of_getElem? there)).step ?_)
      intro resolved turnId id persisted at_
      have truly := faithful call there
      rw [at_] at truly
      exact truly
  | take k =>
    refine Pool.forall_modify ok fun call there ok => ok.take fun resolved turnId id persisted at_ => ?_
    have first := faithful call there
    rw [at_] at first
    exact first
  | echo k msgId updated =>
    exact Pool.forall_modify ok fun call there ok => ok.echo (faithful call there) updated
  | claims event => exact ok

end SendService

end KiCore.Conversation

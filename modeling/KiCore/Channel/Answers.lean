import KiCore.Channel.StreamRelay

/-!
# The answers of a channel chat

A relay belongs to the stream and not to a turn. So it stops at the end of a turn that was running
before, and repeats a turn that another relay shows; it drops what it has not sent when there is an
error; and a turn that the chat has not started has no relay. The invariant `Tracked` says that none
of this happens in a run whose steps are `Orderly`: the relay of a turn has its text, and no other.
-/

namespace KiCore.Channel

open KiCore.Lib

def Dispatch.Answers (turn : Nat) : Dispatch → Prop
  | .relaying sentAt _ => sentAt = turn
  | .subscribed _ _ | .stopped _ _ _ | .failed _ => False

variable (c : RelayConfig)

/-- The relay has sent the text that an error makes it drop, and has none at the end that it leaves
out. -/
def RelayState.Ready (r : RelayState) : StreamAction → Prop
  | .error _ => textOf r.textBuffer = ""
  | .finish => c.platform = .weixin → c.trim (textOf r.textBuffer) = "" → textOf r.textBuffer = ""
  | .appendText _ | .thinking _ | .toolCall _ _ => True

def Dispatch.Ready (c : RelayConfig) (action : StreamAction) : Dispatch → Prop
  | .relaying _ relay => relay.Ready c action
  | .subscribed _ _ | .stopped _ _ _ | .failed _ => True

def StreamAction.addsText : StreamAction → Bool
  | .appendText chunk => chunk ≠ ""
  | .finish | .error _ | .thinking _ | .toolCall _ _ => false

def StreamAction.matters : StreamAction → Bool
  | .appendText _ | .finish | .error _ => true
  | .thinking _ | .toolCall _ _ => false

def Dispatch.isRelaying : Dispatch → Bool
  | .relaying _ _ => true
  | .subscribed _ _ | .stopped _ _ _ | .failed _ => false

namespace ChannelChat

/-- A turn is opened for a message when no other is running and nothing was kept since its
subscription, and no message is delivered into a turn. -/
def OrderlySend (s : ChannelChat) : Dispatch → SendOutcome → Prop
  | .subscribed kept closed, .started => s.turns = [] ∧ kept = [] ∧ closed = false
  | .subscribed _ _, .delivered => False
  | _, _ => True

/-- Text comes in a turn that has its relay, and the relay is ready and does not lag. -/
structure OrderlyAction (c : RelayConfig) (s : ChannelChat) (action : StreamAction)
    (lagging : List Nat) : Prop where
  asked : action.addsText = true → ∃ d ∈ s.dispatches, d.Answers s.running
  ready : ∀ d ∈ s.dispatches, d.Ready c action
  prompt : action.matters = true → ∀ k ∈ lagging, ∀ d ∈ s.dispatches[k]?, d.isRelaying = false

def Orderly (c : RelayConfig) (s : ChannelChat) : Event → Prop
  | .subscribe => True
  | .send k outcome _ => ∀ d ∈ s.dispatches[k]?, s.OrderlySend d outcome
  | .emit event _ lagging => ∀ action ∈ processStreamEvent event, s.OrderlyAction c action lagging
  | .close => ∀ d ∈ s.dispatches, d.Ready c .finish

end ChannelChat

instance Dispatch.decidableAnswers (turn : Nat) : (d : Dispatch) → Decidable (d.Answers turn)
  | .relaying _ _ => inferInstanceAs (Decidable (_ = _))
  | .subscribed _ _ | .stopped _ _ _ | .failed _ => .isFalse id

instance RelayState.decidableReady (r : RelayState) : (action : StreamAction) →
    Decidable (r.Ready c action)
  | .error _ => inferInstanceAs (Decidable (_ = _))
  | .finish => inferInstanceAs (Decidable (_ → _ → _))
  | .appendText _ | .thinking _ | .toolCall _ _ => .isTrue trivial

instance Dispatch.decidableReady (action : StreamAction) : (d : Dispatch) →
    Decidable (d.Ready c action)
  | .relaying _ relay => relay.decidableReady c action
  | .subscribed _ _ | .stopped _ _ _ | .failed _ => .isTrue trivial

namespace ChannelChat

instance (s : ChannelChat) : (d : Dispatch) → (outcome : SendOutcome) →
    Decidable (s.OrderlySend d outcome)
  | .subscribed _ _, .started => inferInstanceAs (Decidable (_ ∧ _ ∧ _))
  | .subscribed _ _, .delivered => .isFalse id
  | .subscribed _ _, .refused _ | .relaying _ _, _ | .stopped _ _ _, _ | .failed _, _ =>
    .isTrue trivial

instance (c : RelayConfig) (s : ChannelChat) (action : StreamAction) (lagging : List Nat) :
    Decidable (s.OrderlyAction c action lagging) :=
  decidable_of_iff
    ((action.addsText = true → ∃ d ∈ s.dispatches, d.Answers s.running) ∧
      (∀ d ∈ s.dispatches, d.Ready c action) ∧
      (action.matters = true → ∀ k ∈ lagging, ∀ d ∈ s.dispatches[k]?, d.isRelaying = false))
    ⟨fun h => ⟨h.1, h.2.1, h.2.2⟩, fun h => ⟨h.asked, h.ready, h.prompt⟩⟩

instance (c : RelayConfig) (s : ChannelChat) : (event : Event) → Decidable (s.Orderly c event)
  | .subscribe => .isTrue trivial
  | .send k outcome _ => inferInstanceAs (Decidable (∀ d ∈ s.dispatches[k]?, s.OrderlySend d outcome))
  | .emit event _ lagging =>
    inferInstanceAs (Decidable (∀ action ∈ processStreamEvent event, s.OrderlyAction c action lagging))
  | .close => inferInstanceAs (Decidable (∀ d ∈ s.dispatches, d.Ready c .finish))

end ChannelChat

structure Shown (c : RelayConfig) (turn : Nat) (messages : List UnifiedOutgoingMessage) : Prop where
  own : ∀ m ∈ messages, ∀ chunk ∈ m.source, chunk.turn = turn
  shown : ∀ m ∈ messages, m.source ≠ [] → m.text = c.formatText (textOf m.source)

/-- A relay has what its turn has brought so far. -/
structure Follows (c : RelayConfig) (turn : Nat) (chunks : List Chunk) (r : RelayState) : Prop extends
    Shown c turn r.messages where
  editing : c.platform ≠ .weixin → r.textBuffer = chunks ∧ ∃ m, r.messages = [m]
  sending : c.platform = .weixin → r.messages.flatMap (·.source) ++ r.textBuffer = chunks
  content : r.hasContent = false → r.textBuffer = []
  buffer : ∀ chunk ∈ r.textBuffer, chunk.turn = turn

/-- A relay has shown what its turn has brought. -/
structure Complete (c : RelayConfig) (turn : Nat) (chunks : List Chunk)
    (messages : List UnifiedOutgoingMessage) : Prop extends Shown c turn messages where
  editing : c.platform ≠ .weixin → textOf chunks ≠ "" → ∃ m, messages = [m] ∧ m.source = chunks
  sending : c.platform = .weixin → textOf (messages.flatMap (·.source)) = textOf chunks

variable {c : RelayConfig} {turn now : Nat} {chunks : List Chunk} {r : RelayState}
  {messages : List UnifiedOutgoingMessage} {m : UnifiedOutgoingMessage} {chunk : Chunk}
  {action : StreamAction}

@[simp]
lemma textOf_append (a b : List Chunk) : textOf (a ++ b) = textOf a ++ textOf b := by
  simp [textOf, String.join_append]

@[simp]
lemma textOf_nil : textOf [] = "" :=
  rfl

lemma textOf_cons (chunk : Chunk) (rest : List Chunk) :
    textOf (chunk :: rest) = chunk.content ++ textOf rest := by
  simp [textOf]

lemma Shown.append (h : Shown c turn messages) (own : ∀ chunk ∈ m.source, chunk.turn = turn)
    (shown : m.source ≠ [] → m.text = c.formatText (textOf m.source)) :
    Shown c turn (messages ++ [m]) where
  own := Pool.forall_append h.own own
  shown := Pool.forall_append h.shown shown

lemma Shown.single (own : ∀ chunk ∈ m.source, chunk.turn = turn)
    (shown : m.source ≠ [] → m.text = c.formatText (textOf m.source)) : Shown c turn [m] where
  own := by simpa using own
  shown := by simpa using shown

lemma Shown.filter (h : Shown c turn messages) :
    (messages.filter (·.source.any (·.turn = turn))).flatMap (·.source) =
      messages.flatMap (·.source) := by
  induction messages with
  | nil => rfl
  | cons m rest ih =>
    obtain ⟨own, owns⟩ := List.forall_mem_cons.mp h.own
    obtain ⟨_, showns⟩ := List.forall_mem_cons.mp h.shown
    rw [List.filter_cons, List.flatMap_cons, ← ih ⟨owns, showns⟩]
    split
    · rw [List.flatMap_cons]
    · rename_i none_
      have empty : m.source = [] := by
        apply List.eq_nil_iff_forall_not_mem.mpr
        intro chunk mem
        exact none_ (List.any_eq_true.mpr ⟨chunk, mem, decide_eq_true (own chunk mem)⟩)
      rw [empty, List.nil_append]

namespace Follows

lemma start : Follows c turn [] (.start c) where
  own m mem := by
    rw [RelayState.start] at mem
    split at mem
    · cases mem
    · rw [List.mem_singleton.mp mem]
      exact nofun
  shown m mem source := by
    rw [RelayState.start] at mem
    split at mem
    · cases mem
    · rw [List.mem_singleton.mp mem] at source
      exact absurd rfl source
  editing other := ⟨rfl, buildThinkingMessage, if_neg other⟩
  sending weixin := by
    rw [RelayState.start, if_pos weixin]
    rfl
  content _ := rfl
  buffer := nofun

variable (h : Follows c turn chunks r)
include h

lemma append (chunk : Chunk) (own : chunk.turn = turn) :
    Follows c turn (chunks ++ [chunk]) (r.append chunk) where
  own := h.own
  shown := h.shown
  editing other := ⟨congrArg (· ++ [chunk]) (h.editing other).1, (h.editing other).2⟩
  sending weixin := by
    rw [← h.sending weixin, List.append_assoc]
    rfl
  content := nofun
  buffer := Pool.forall_append h.buffer own

lemma edit (editing : c.platform ≠ .weixin) (lastEdit : Option Nat)
    (own : ∀ chunk ∈ m.source, chunk.turn = turn)
    (shown : m.source ≠ [] → m.text = c.formatText (textOf m.source)) :
    Follows c turn chunks { r with messages := [m], lastEdit } where
  toShown := .single own shown
  editing _ := ⟨(h.editing editing).1, m, rfl⟩
  sending weixin := absurd weixin editing
  content := h.content
  buffer := h.buffer

lemma flush (weixin : c.platform = .weixin) :
    Follows c turn chunks
      { r.send (c.buildStreamingMessage r.textBuffer) with
        textBuffer := [], hasContent := false } where
  toShown := h.toShown.append h.buffer fun _ => rfl
  editing other := absurd weixin other
  sending _ := by
    rw [← h.sending weixin]
    simp [RelayState.send, RelayConfig.buildStreamingMessage]
  content _ := rfl
  buffer := nofun

lemma recv_text (text : String) :
    Follows c turn (chunks ++ [{ turn, content := text }]) (r.recv c now turn (.appendText text)) := by
  have appended := h.append { turn, content := text } rfl
  rw [RelayState.recv]
  split
  · exact appended
  · rename_i other
    rw [RelayState.recvEditable]
    dsimp only
    split
    · exact appended.edit other (some now) appended.buffer fun _ => rfl
    · exact appended

lemma recv_silent (silent : action.matters = false) :
    Follows c turn chunks (r.recv c now turn action) := by
  rw [RelayState.recv]
  cases action with
  | appendText | finish | error => cases silent
  | thinking => split <;> exact h
  | toolCall name status =>
    split
    · rename_i weixin
      rw [RelayState.recvWeixin]
      split
      · exact h.flush weixin
      · exact h
    · rename_i other
      exact h.edit other r.lastEdit nofun (absurd rfl)

lemma conclude (ready : r.Ready c .finish) : Complete c turn chunks (r.conclude c).messages := by
  rw [RelayState.conclude]
  split_ifs with weixin text content
  · refine ⟨h.toShown.append h.buffer fun _ => rfl, absurd weixin, fun _ => ?_⟩
    rw [← h.sending weixin]
    simp [RelayState.send, RelayConfig.buildFinalMessage]
  · -- The buffer is empty, or blank and then empty as well.
    have none_ : textOf r.textBuffer = "" := by
      cases content : r.hasContent with
      | false => rw [h.content content, textOf_nil]
      | true =>
        apply ready weixin
        by_contra some_
        exact text (by simp [RelayState.hasText, content, some_])
    refine ⟨h.toShown, absurd weixin, fun _ => ?_⟩
    rw [← h.sending weixin, textOf_append, none_, String.append_empty]
  · refine ⟨.single h.buffer fun _ => rfl, fun _ _ => ?_, (absurd · weixin)⟩
    exact ⟨_, rfl, (h.editing weixin).1⟩
  · refine ⟨h.toShown, fun _ text => ?_, (absurd · weixin)⟩
    rw [← (h.editing weixin).1, h.content (eq_false_of_ne_true content)] at text
    exact absurd textOf_nil text

lemma recv_terminal (terminal : action.isTerminal = true)
    (ready : r.Ready c action) : Complete c turn chunks (r.recv c now turn action).messages := by
  rw [RelayState.recv]
  cases action with
  | appendText | thinking | toolCall => cases terminal
  -- The last message has what the buffer has left.
  | finish => split <;> exact h.conclude ready
  | error message =>
    -- The notice takes the place of the buffer, which has no text.
    have none_ : textOf r.textBuffer = "" := ready
    split
    · rename_i weixin
      refine ⟨h.toShown.append nofun (absurd rfl), absurd weixin, fun _ => ?_⟩
      rw [← h.sending weixin, textOf_append, none_]
      simp [RelayState.recvWeixin, RelayState.send, errorMessage, plainMessage]
    · rename_i other
      refine ⟨.single nofun (absurd rfl), fun _ text => ?_, (absurd · other)⟩
      rw [← (h.editing other).1] at text
      exact absurd none_ text

end Follows

/-- The message has a relay, and the turn that it was to open is this one. -/
def Dispatch.SentFor (turn : Nat) : Dispatch → Prop
  | .relaying sentAt _ | .stopped sentAt _ _ => sentAt = turn
  | .subscribed _ _ | .failed _ => False

namespace ChannelChat

/-- What a message of the chat may count on. -/
def Holds (c : RelayConfig) (s : ChannelChat) : Dispatch → Prop
  | .relaying turn r => s.turns = [turn] ∧ Follows c turn (s.chunks turn) r
  | .stopped turn r stoppedAt =>
    turn ∈ s.ended ∧ Complete c turn (s.chunks turn) r.messages ∧ ∀ t ∈ stoppedAt, turn ≤ t
  | .subscribed _ _ | .failed _ => True

/-- What carries `AnsweredOnce` from step to step. -/
structure Tracked (c : RelayConfig) (s : ChannelChat) : Prop where
  oneTurn : s.turns.length ≤ 1
  fresh : ∀ turn ∈ s.turns, turn < s.minted ∧ turn ∉ s.ended
  ended : ∀ turn ∈ s.ended, turn < s.minted
  log : ∀ chunk ∈ s.log, chunk.turn < s.minted
  holds : ∀ d ∈ s.dispatches, s.Holds c d
  one : ∀ turn, Pool.AtMostOne (Dispatch.SentFor turn) s.dispatches
  asked : ∀ chunk ∈ s.log, chunk.content ≠ "" → ∃ d ∈ s.dispatches, d.SentFor chunk.turn

variable {s : ChannelChat} {d : Dispatch} {k : Nat} {lagging : List Nat} {event : Event}

lemma Holds.text (h : s.Holds c d) (mem : m ∈ d.messages) (source : m.source ≠ []) :
    m.text = c.formatText (textOf m.source) := by
  cases d with
  | subscribed => cases mem
  | failed error =>
    rw [List.mem_singleton.mp mem] at source
    exact absurd rfl source
  | relaying sentAt relay => exact h.2.shown m mem source
  | stopped sentAt relay stoppedAt => exact h.2.1.shown m mem source

lemma Tracked.below (h : s.Tracked c) (mem : d ∈ s.dispatches) (own : d.SentFor turn) :
    turn < s.minted := by
  have holds := h.holds d mem
  cases d with
  | subscribed | failed => cases own
  | relaying sentAt relay =>
    refine own ▸ (h.fresh sentAt ?_).1
    rw [holds.1]
    exact List.mem_singleton_self _
  | stopped sentAt relay stoppedAt => exact own ▸ h.ended sentAt holds.1

lemma exists_of_textOf (some_ : textOf chunks ≠ "") : ∃ chunk ∈ chunks, chunk.content ≠ "" := by
  by_contra none_
  push Not at none_
  apply some_
  induction chunks with
  | nil => rfl
  | cons chunk rest ih =>
    obtain ⟨own, rest_⟩ := List.forall_mem_cons.mp none_
    rw [textOf_cons, own, String.empty_append]
    by_contra text
    exact text (ih text rest_)

lemma Tracked.complete (h : s.Tracked c) (ended : turn ∈ s.ended) (mem : d ∈ s.dispatches)
    (sent : d.SentFor turn) : Complete c turn (s.chunks turn) d.messages := by
  have holds := h.holds d mem
  cases d with
  | subscribed | failed => cases sent
  | relaying sentAt relay =>
    refine absurd ended (h.fresh _ ?_).2
    rw [holds.1, ← sent]
    exact List.mem_singleton_self _
  | stopped sentAt relay stoppedAt => exact sent ▸ holds.2.1

lemma Tracked.relay (h : s.Tracked c) (text : textOf (s.chunks turn) ≠ "") :
    ∃ d ∈ s.dispatches, d.SentFor turn := by
  obtain ⟨chunk, mem, some_⟩ := exists_of_textOf text
  obtain ⟨logged, own⟩ := List.mem_filter.mp mem
  obtain rfl := of_decide_eq_true own
  exact h.asked chunk logged some_

lemma chunks_append_own (s : ChannelChat) (text : String) :
    (s.record turn (.appendText text)).chunks turn = s.chunks turn ++ [{ turn, content := text }] := by
  simp [record, chunks]

lemma chunks_record_other {other : Nat} (ne : other ≠ turn) :
    (s.record turn action).chunks other = s.chunks other := by
  cases action with
  | appendText text => simp [record, chunks, ne.symm]
  | finish | error | thinking | toolCall => rfl

lemma Holds.recorded (h : s.Holds c d) (current : turn ∉ s.ended)
    (idle : action.matters = true → d.isRelaying = false) : (s.record turn action).Holds c d := by
  cases d with
  | subscribed | failed => trivial
  | relaying sentAt relay =>
    cases action with
    | appendText | finish | error => cases idle rfl
    | thinking | toolCall => exact h
  | stopped sentAt relay stoppedAt =>
    obtain ⟨ended, complete, timely⟩ := h
    have ne : sentAt ≠ turn := fun same => current (same ▸ ended)
    refine ⟨?_, ?_, timely⟩
    · cases action with
      | appendText | thinking | toolCall => exact ended
      | finish | error => exact List.mem_cons_of_mem _ ended
    · rw [chunks_record_other ne]
      exact complete

lemma Holds.received (h : s.Holds c d) (at_ : s.turns = [turn]) (current : turn ∉ s.ended)
    (ready : d.Ready c action) : (s.record turn action).Holds c (d.receive c now turn action) := by
  cases d with
  | subscribed | failed => trivial
  | stopped sentAt relay stoppedAt => exact h.recorded current fun _ => rfl
  | relaying sentAt relay =>
    obtain ⟨own, follows⟩ := h
    obtain rfl : turn = sentAt := List.singleton_inj.mp (at_.symm.trans own)
    cases action with
    | appendText text =>
      refine ⟨at_, ?_⟩
      rw [chunks_append_own]
      exact follows.recv_text text
    | thinking | toolCall => exact ⟨at_, follows.recv_silent rfl⟩
    | finish | error =>
      refine ⟨List.mem_cons_self, follows.recv_terminal rfl ready, ?_⟩
      rintro t same
      exact (Option.some_inj.mp same).le

lemma sentFor_receive {t : Nat} : (d.receive c now turn action).SentFor t ↔ d.SentFor t := by
  cases d with
  | subscribed | failed | stopped => exact Iff.rfl
  | relaying sentAt relay =>
    rw [Dispatch.receive]
    split <;> exact Iff.rfl

lemma sentFor_received {t : Nat} :
    (if k ∈ lagging then d else d.receive c now turn action).SentFor t ↔ d.SentFor t := by
  split
  · exact Iff.rfl
  · exact sentFor_receive

lemma sentFor_of_answers (h : d.Answers turn) : d.SentFor turn := by
  cases d with
  | relaying => exact h
  | subscribed | stopped | failed => cases h

lemma record_dispatches : (s.record turn action).dispatches = s.dispatches := by
  cases action <;> rfl

section

variable (h : s.Tracked c)
include h

/-- The turn that is running is the one whose event comes. -/
lemma Tracked.recorded (at_ : s.turns = [turn])
    (asked : action.addsText = true → ∃ d ∈ s.dispatches, d.Answers turn)
    (ready : ∀ d ∈ s.dispatches, d.Ready c action)
    (prompt : action.matters = true → ∀ k ∈ lagging, ∀ d ∈ s.dispatches[k]?, d.isRelaying = false) :
    ((s.record turn action).broadcast c now turn action lagging).Tracked c := by
  obtain ⟨minted, current⟩ := h.fresh turn (by rw [at_]; exact List.mem_singleton_self _)
  have still : ∀ t, (∃ d ∈ s.dispatches, d.SentFor t) →
      ∃ d ∈ ((s.record turn action).broadcast c now turn action lagging).dispatches, d.SentFor t := by
    rintro t ⟨d, mem, sent⟩
    obtain ⟨k, lt, rfl⟩ := List.mem_iff_getElem.mp mem
    refine ⟨_, List.mem_mapIdx.mpr ⟨k, ?_, rfl⟩, ?_⟩
    · rwa [record_dispatches]
    · -- A message keeps its turn, whatever its relay receives.
      simp only [record_dispatches]
      exact sentFor_received.mpr sent
  exact {
    oneTurn := by
      cases action with
      | appendText | thinking | toolCall => exact h.oneTurn
      | finish | error => exact (List.length_tail.trans_le (Nat.sub_le _ _)).trans h.oneTurn
    fresh := by
      cases action with
      | appendText | thinking | toolCall => exact h.fresh
      | finish | error =>
        intro t mem
        -- The only turn ends, and none is left.
        change t ∈ s.turns.tail at mem
        rw [at_] at mem
        cases mem
    ended := by
      cases action with
      | appendText | thinking | toolCall => exact h.ended
      | finish | error => exact List.forall_mem_cons.mpr ⟨minted, h.ended⟩
    log := by
      cases action with
      | finish | error | thinking | toolCall => exact h.log
      | appendText text => exact Pool.forall_append h.log minted
    holds := by
      intro d mem
      obtain ⟨k, lt, rfl⟩ := List.mem_mapIdx.mp mem
      simp only [record_dispatches] at lt ⊢
      have there : s.dispatches[k]? = some s.dispatches[k] := List.getElem?_eq_getElem lt
      have holds := h.holds _ (List.mem_of_getElem? there)
      split
      · rename_i lags
        exact holds.recorded current fun matters => prompt matters k lags _ there
      · exact holds.received at_ current (ready _ (List.mem_of_getElem? there))
    one := by
      intro t
      change Pool.AtMostOne _ ((s.record turn action).dispatches.mapIdx _)
      rw [record_dispatches]
      exact (h.one t).mapIdx fun _ _ => sentFor_received.mp
    asked := by
      cases action with
      | finish | error | thinking | toolCall =>
        exact fun chunk mem some_ => still _ (h.asked chunk mem some_)
      | appendText text =>
        apply Pool.forall_append fun chunk mem some_ => still _ (h.asked chunk mem some_)
        intro some_
        obtain ⟨d, mem, answers⟩ := asked (decide_eq_true some_)
        exact still _ ⟨d, mem, sentFor_of_answers answers⟩ }

lemma Tracked.ensureRunning : s.ensureRunning.Tracked c ∧ s.ensureRunning.turns = [s.running] := by
  cases turns : s.turns with
  | cons turn rest =>
    have alone := h.oneTurn
    rw [turns, List.length_cons] at alone
    -- There is one turn at most.
    obtain rfl := List.eq_nil_of_length_eq_zero (by omega : rest.length = 0)
    rw [ChannelChat.ensureRunning, if_neg (by rw [turns]; exact nofun), running, turns]
    exact ⟨h, rfl⟩
  | nil =>
    rw [ChannelChat.ensureRunning, if_pos turns, running, turns]
    refine ⟨⟨le_rfl, ?_, ?_, ?_, ?_, h.one, h.asked⟩, rfl⟩
    · intro turn mem
      obtain rfl := List.mem_singleton.mp mem
      exact ⟨Nat.lt_succ_self _, fun ended => lt_irrefl _ (h.ended _ ended)⟩
    · exact fun turn mem => Nat.lt_succ_of_lt (h.ended turn mem)
    · exact fun chunk mem => Nat.lt_succ_of_lt (h.log chunk mem)
    · intro d mem
      have holds := h.holds d mem
      cases d with
      | subscribed | failed => trivial
      | relaying sentAt relay => exact nomatch turns.symm.trans holds.1
      | stopped sentAt relay stoppedAt => exact holds

lemma Tracked.emit (orderly : s.OrderlyAction c action lagging) :
    (s.emit c now action lagging).Tracked c := by
  obtain ⟨tracked, at_⟩ := h.ensureRunning
  have dispatches : s.ensureRunning.dispatches = s.dispatches := by
    rw [ChannelChat.ensureRunning]
    split <;> rfl
  apply tracked.recorded at_
  · rw [dispatches]
    exact orderly.asked
  · rw [dispatches]
    exact orderly.ready
  · rw [dispatches]
    exact orderly.prompt

lemma Tracked.close (ready : ∀ d ∈ s.dispatches, d.Ready c .finish) : (s.close c).Tracked c where
  oneTurn := Nat.zero_le _
  fresh := nofun
  ended turn mem := by
    obtain mem | mem := List.mem_append.mp mem
    · exact (h.fresh turn mem).1
    · exact h.ended turn mem
  log := h.log
  holds d' mem := by
    obtain ⟨d, there, rfl⟩ := List.mem_map.mp mem
    have holds := h.holds d there
    cases d with
    | subscribed | failed => trivial
    | stopped sentAt relay stoppedAt => exact ⟨List.mem_append_right _ holds.1, holds.2⟩
    | relaying sentAt relay =>
      refine ⟨List.mem_append_left _ ?_, holds.2.conclude (ready _ there), nofun⟩
      rw [holds.1]
      exact List.mem_singleton_self _
  one turn := (h.one turn).map fun d sent => by cases d <;> exact sent
  asked chunk mem some_ := by
    obtain ⟨d, there, sent⟩ := h.asked chunk mem some_
    refine ⟨d.close c, List.mem_map_of_mem there, ?_⟩
    cases d <;> exact sent

lemma Tracked.send {kept : List (Nat × StreamAction)} {closed : Bool}
    (there : s.dispatches[k]? = some (.subscribed kept closed)) (outcome : SendOutcome)
    (orderly : s.OrderlySend (.subscribed kept closed) outcome) :
    (s.send c k now kept closed outcome).Tracked c := by
  have still : ∀ d', ∀ chunk ∈ s.log, chunk.content ≠ "" →
      ∃ d ∈ s.dispatches.set k d', d.SentFor chunk.turn :=
    fun d' chunk mem some_ => (Pool.exists_of_set there (h.asked chunk mem some_)).resolve_left id
  cases outcome with
  | delivered => cases orderly
  | refused error =>
    refine ⟨h.oneTurn, h.fresh, h.ended, h.log, ?_, ?_, still _⟩
    · exact Pool.forall_set h.holds trivial
    · exact fun turn => (h.one turn).set nofun
  | started =>
    obtain ⟨idle, rfl, rfl⟩ := orderly
    rw [ChannelChat.send, idle]
    have unsent : ∀ d ∈ s.dispatches, ¬ d.SentFor s.minted :=
      fun d mem sent => lt_irrefl _ (h.below mem sent)
    have silent : s.chunks s.minted = [] := by
      apply List.filter_eq_nil_iff.mpr
      intro chunk mem own
      exact (h.log chunk mem).ne (of_decide_eq_true own)
    refine ⟨le_rfl, ?_, ?_, ?_, ?_, ?_, still _⟩
    · intro turn mem
      obtain rfl := List.mem_singleton.mp mem
      exact ⟨Nat.lt_succ_self _, fun ended => lt_irrefl _ (h.ended _ ended)⟩
    · exact fun turn mem => Nat.lt_succ_of_lt (h.ended turn mem)
    · exact fun chunk mem => Nat.lt_succ_of_lt (h.log chunk mem)
    · intro d mem
      obtain mem | rfl := List.mem_or_eq_of_mem_set mem
      · have holds := h.holds d mem
        cases d with
        | subscribed | failed => trivial
        | relaying sentAt relay => exact nomatch idle.symm.trans holds.1
        | stopped sentAt relay stoppedAt => exact holds
      · refine ⟨rfl, ?_⟩
        change Follows c _ (s.chunks s.minted) _
        rw [silent]
        exact .start
    · exact fun turn => (h.one turn).set fun sent d mem => sent ▸ unsent d mem

lemma Tracked.next (orderly : s.Orderly c event) : (s.next c event).Tracked c := by
  cases event with
  | subscribe =>
    refine ⟨h.oneTurn, h.fresh, h.ended, h.log, ?_, ?_, ?_⟩
    · exact Pool.forall_append h.holds trivial
    · exact fun turn => (h.one turn).append nofun
    · intro chunk mem some_
      obtain ⟨d, there, sent⟩ := h.asked chunk mem some_
      exact ⟨d, List.mem_append_left _ there, sent⟩
  | send k outcome now =>
    rw [ChannelChat.next]
    split
    · rename_i kept closed there
      exact h.send there outcome (orderly _ there)
    · exact h
  | emit event now lagging =>
    rw [ChannelChat.next]
    split
    · rename_i action shown
      exact h.emit (orderly action shown)
    · exact h
  | close => exact h.close orderly

end

lemma Tracked.start : (start).Tracked c where
  oneTurn := Nat.zero_le _
  fresh := nofun
  ended := nofun
  log := nofun
  holds := nofun
  one _ := .nil
  asked := nofun

end ChannelChat

end KiCore.Channel

import KiCore.Conversation.BackgroundStream

/-!
# Which relay processes a frame

A frame of the stream is for one relay: the one of the user turn it is emitted in, or the one of the
orphan turn that the watcher opens for it. The watcher asks for the active turn when it gets to a
frame, so that a frame that a user turn's relay has worked through is taken for an orphan turn's
once the claim is released (`overrun_owned_twice`), and what it feeds behind the frame that ends an
orphan turn is processed by no relay.

`Sound` holds as long as the watcher takes frames in time (`InTime`): it ties what the relays of
user turns processed to the places where they subscribed and ended, and each frame of an orphan turn
to the one relay that has processed it or is ahead of it. `frames_owned` is the result for all runs.
-/

namespace KiCore.Conversation

open KiCore.Lib

/-- A frame was emitted before a relay subscribed, or after the frame that ended it. -/
def TurnRelay.Outside (relay : TurnRelay) (seq : Nat) : Prop :=
  seq < relay.subscribed ∨ relay.running = false ∧ relay.rx ≤ seq

instance (relay : TurnRelay) (seq : Nat) : Decidable (relay.Outside seq) :=
  inferInstanceAs (Decidable (_ ∨ _))

namespace OrphanTurn

/-- The frames up to one that ends a relay. -/
def untilTerminal : List Frame → List Frame
  | [] => []
  | frame :: frames => if frame.event.isTerminal then [frame] else frame :: untilTerminal frames

variable (orphan : OrphanTurn)

/-- The frames that the relay is still to process. -/
def ahead : List Frame :=
  untilTerminal orphan.waiting

/-- The relay has not ended, and no frame that ends it is waiting. -/
def Open : Prop :=
  orphan.running = true ∧ ∀ frame ∈ orphan.waiting, frame.event.isTerminal = false

/-- One more frame costs the relay no content. -/
def Room : Prop :=
  orphan.waiting.length < orphan.feed.capacity ∨
    ∀ frame ∈ orphan.waiting.head?, frame.event.isOrphanTurnContent = false

instance : Decidable orphan.Open :=
  inferInstanceAs (Decidable (_ ∧ _))

instance : Decidable orphan.Room :=
  inferInstanceAs (Decidable (_ ∨ _))

variable {frame : Frame} {frames : List Frame}

lemma untilTerminal_append (open_ : ∀ f ∈ frames, f.event.isTerminal = false) :
    untilTerminal (frames ++ [frame]) = frames ++ [frame] := by
  induction frames with
  | nil => rw [List.nil_append, untilTerminal, untilTerminal, ite_self]
  | cons f frames ih =>
    rw [List.cons_append, untilTerminal, open_ f List.mem_cons_self, if_neg Bool.false_ne_true,
      ih fun g mem => open_ g (List.mem_cons_of_mem f mem)]

lemma subset_untilTerminal_append : untilTerminal frames ⊆ untilTerminal (frames ++ [frame]) := by
  induction frames with
  | nil => exact List.nil_subset _
  | cons f frames ih =>
    rw [List.cons_append, untilTerminal, untilTerminal]
    split
    · exact fun _ mem => mem
    · exact List.cons_subset_cons f ih

lemma waiting_send {orphan : OrphanTurn} (frame : Frame) (running : orphan.running = true)
    (le : orphan.rx ≤ orphan.feed.sent.length) :
    (orphan.send frame).waiting =
      if orphan.waiting.length < orphan.feed.capacity then orphan.waiting ++ [frame]
      else (orphan.waiting ++ [frame]).tail := by
  simp only [waiting, send, running, if_true]
  exact Broadcast.waiting_send le

lemma waiting_send_ended {orphan : OrphanTurn} (frame : Frame) (ended : orphan.running = false) :
    (orphan.send frame).waiting = orphan.waiting := by
  simp only [waiting, send, ended, Bool.false_eq_true, if_false]

variable {orphan : OrphanTurn} {f : Frame} {fed : List Frame}

lemma send_cases (frame : Frame) (cap : 0 < orphan.feed.capacity)
    (le : orphan.rx ≤ orphan.feed.sent.length) :
    orphan.running = false ∧ (orphan.send frame).waiting = orphan.waiting ∨
      orphan.running = true ∧ (orphan.send frame).waiting = orphan.waiting ++ [frame] ∨
      ∃ g rest, orphan.running = true ∧ ¬ orphan.waiting.length < orphan.feed.capacity ∧
        orphan.waiting = g :: rest ∧ (orphan.send frame).waiting = rest ++ [frame] := by
  cases running : orphan.running with
  | false => exact .inl ⟨rfl, waiting_send_ended frame running⟩
  | true =>
    have waits := waiting_send frame running le
    by_cases room : orphan.waiting.length < orphan.feed.capacity
    · rw [if_pos room] at waits
      exact .inr (.inl ⟨rfl, waits⟩)
    · rw [if_neg room] at waits
      cases first : orphan.waiting with
      | nil =>
        rw [first] at room
        exact (room cap).elim
      | cons g rest =>
        rw [first, List.cons_append, List.tail_cons] at waits
        rw [first] at room
        exact .inr (.inr ⟨g, rest, rfl, room, rfl, waits⟩)

variable (cap : 0 < orphan.feed.capacity)
include cap

variable (le : orphan.rx ≤ orphan.feed.sent.length)
include le

lemma ahead_send (room : orphan.Room) (content : f.event.isOrphanTurnContent = true)
    (ahead : f ∈ untilTerminal orphan.waiting) : f ∈ untilTerminal (orphan.send frame).waiting := by
  obtain ⟨_, waits⟩ | ⟨_, waits⟩ | ⟨g, rest, _, full, first, waits⟩ := send_cases frame cap le
  · rwa [waits]
  · rw [waits]
    exact subset_untilTerminal_append ahead
  · have noise := room.resolve_left full
    rw [first] at noise ahead
    have notFirst : f ≠ g := by
      rintro rfl
      rw [noise f rfl] at content
      cases content
    rw [waits]
    rw [untilTerminal] at ahead
    split at ahead
    · exact (notFirst (List.mem_singleton.mp ahead)).elim
    · exact subset_untilTerminal_append ((List.mem_cons.mp ahead).resolve_left notFirst)

lemma gone_send
    (other : f ≠ frame) (gone : f ∉ orphan.waiting) : f ∉ (orphan.send frame).waiting := by
  obtain ⟨_, waits⟩ | ⟨_, waits⟩ | ⟨g, rest, _, _, first, waits⟩ := send_cases frame cap le
  · rwa [waits]
  · rw [waits, List.mem_append, List.mem_singleton]
    exact not_or.mpr ⟨gone, other⟩
  · rw [first] at gone
    rw [waits, List.mem_append, List.mem_singleton]
    exact not_or.mpr ⟨fun here => gone (List.mem_cons_of_mem g here), other⟩

lemma behind_send (goesOn : orphan.Open) : frame ∈ untilTerminal (orphan.send frame).waiting := by
  obtain ⟨ended, _⟩ | ⟨_, waits⟩ | ⟨g, rest, _, _, first, waits⟩ := send_cases frame cap le
  · rw [goesOn.1] at ended
    cases ended
  · rw [waits, untilTerminal_append goesOn.2]
    exact List.mem_append_right _ (List.mem_singleton_self frame)
  · have open_ := goesOn.2
    rw [first] at open_
    rw [waits, untilTerminal_append fun f mem => open_ f (List.mem_cons_of_mem g mem)]
    exact List.mem_append_right _ (List.mem_singleton_self frame)

lemma feed_send
    (subset : orphan.feed.sent ⊆ fed) (nodup : orphan.feed.sent.Nodup) (fresh : frame ∉ fed) :
    0 < (orphan.send frame).feed.capacity ∧
      (orphan.send frame).rx ≤ (orphan.send frame).feed.sent.length ∧
      (orphan.send frame).feed.sent ⊆ fed ++ [frame] ∧ (orphan.send frame).feed.sent.Nodup := by
  rw [send]
  dsimp only
  split
  · refine ⟨cap, ?_, ?_, ?_⟩
    · rw [Broadcast.send_sent, List.length_append]
      exact le.trans (Nat.le_add_right _ _)
    · exact List.append_subset.mpr
        ⟨List.subset_append_of_subset_left _ subset, List.subset_append_right _ _⟩
    · rw [Broadcast.send_sent, List.nodup_append]
      refine ⟨nodup, List.nodup_singleton frame, fun f mem g new => ?_⟩
      rintro rfl
      exact fresh (List.mem_singleton.mp new ▸ subset mem)
  · exact ⟨cap, le, List.subset_append_of_subset_left _ subset, nodup⟩

end OrphanTurn

namespace TurnStream

variable {w : BackgroundStreamWatcher} {s : TurnStream} {frame : Frame}

/-- The frames that the relay of an orphan turn is still to be given. -/
def waiting (s : TurnStream) : List Frame :=
  (s.orphan.map OrphanTurn.waiting).getD []

/-- The frames that the relay of an orphan turn is still to process. -/
def ahead (s : TurnStream) : List Frame :=
  (s.orphan.map OrphanTurn.ahead).getD []

/-- No frame of content is for a user turn and for an orphan turn, and each one that the watcher
reads while no foreign turn is active is processed by one relay, or is ahead of that of the orphan
turn and processed by no other. -/
def Owned (s : TurnStream) : Prop :=
  (∀ frame : Frame, frame.event.isOrphanTurnContent = true →
    ¬ ((∃ k, .user k ∈ s.processedBy frame) ∧ frame ∈ s.fed)) ∧
  ∀ frame ∈ s.unowned,
    (∃ relay, s.processedBy frame = [relay]) ∨ frame ∈ s.ahead ∧ s.processedBy frame = []

def takes (w : BackgroundStreamWatcher) (s : TurnStream) : Bool :=
  match s.orphan with
  | none => !w.titleOnly && s.activeTurn.isNone
  | some orphan => s.activeTurn.all (· = orphan.turnId)

/-- Content is taken outside of the relays of user turns, and is fed while the orphan turn goes on;
no frame that is fed costs content that waits. -/
def InTime (w : BackgroundStreamWatcher) (s : TurnStream) : Event → Prop
  | .watcherDecide _ => ∀ frame ∈ s.hand, s.takes w = true →
      (frame.event.isOrphanTurnContent = true →
        (∀ relay ∈ s.relays, relay.Outside frame.seq) ∧ ∀ orphan ∈ s.orphan, orphan.Open) ∧
      ∀ orphan ∈ s.orphan, orphan.Room
  | _ => True

instance (w : BackgroundStreamWatcher) (s : TurnStream) : (event : Event) → Decidable (s.InTime w event)
  | .watcherDecide _ => inferInstanceAs (Decidable (∀ frame ∈ s.hand, _))
  | .emit _ | .close | .refuse _ | .claimTurn | .subscribe _ | .relayRecv _ | .sendFailed _ |
      .relayDropped _
  | .releaseTurn _ | .clearTurn | .watcherRecv | .orphanRecv | .orphanIdle | .orphanJoined =>
      isTrue trivial

/-- The frame in hand comes after all that were fed. -/
structure InOrder (s : TurnStream) : Prop where
  read : s.rx ≤ s.stream.sent.length
  hand : ∀ frame ∈ s.hand, frame.seq < s.rx ∧ ∀ f ∈ s.fed, f.seq < frame.seq
  fed : ∀ frame ∈ s.fed, frame.seq < s.rx

/-- The relays of user turns process what comes after they subscribed, and none of the content that
was fed. -/
structure Windows (s : TurnStream) : Prop where
  forward : ∀ relay ∈ s.relays, relay.subscribed ≤ relay.rx
  user : ∀ k frame, (.user k, frame) ∈ s.processed →
    ∃ relay, s.relays[k]? = some relay ∧ relay.subscribed ≤ frame.seq ∧ frame.seq < relay.rx
  outside : ∀ frame ∈ s.fed, frame.event.isOrphanTurnContent = true → ∀ relay ∈ s.relays,
    relay.Outside frame.seq

/-- A frame is ahead of the relay of the orphan turn, or one such relay has processed it. -/
def Settled (s : TurnStream) (frame : Frame) : Prop :=
  frame ∈ s.ahead ∧ s.processedBy frame = [] ∨
    frame ∉ s.waiting ∧ ∃ turnId, s.processedBy frame = [.orphan turnId]

lemma settled_iff {orphan : OrphanTurn} (known : s.orphan = some orphan) :
    s.Settled frame ↔ frame ∈ OrphanTurn.untilTerminal orphan.waiting ∧ s.processedBy frame = [] ∨
      frame ∉ orphan.waiting ∧ ∃ turnId, s.processedBy frame = [.orphan turnId] := by
  rw [Settled, TurnStream.ahead, TurnStream.waiting, known]
  rfl

structure Fed (s : TurnStream) : Prop where
  byOrphan : ∀ turnId frame, (.orphan turnId, frame) ∈ s.processed → frame ∈ s.fed
  feed : ∀ orphan ∈ s.orphan,
    0 < orphan.feed.capacity ∧ orphan.rx ≤ orphan.feed.sent.length ∧ orphan.feed.sent ⊆ s.fed ∧
      orphan.feed.sent.Nodup
  unowned : ∀ frame ∈ s.unowned, frame ∈ s.fed ∧ frame.event.isOrphanTurnContent = true
  settled : ∀ frame ∈ s.unowned, s.Settled frame

structure Sound (s : TurnStream) : Prop where
  order : s.InOrder
  windows : s.Windows
  feeds : s.Fed

lemma mem_processedBy {relay : Relay} : relay ∈ s.processedBy frame ↔ (relay, frame) ∈ s.processed := by
  rw [processedBy, List.mem_filterMap]
  constructor
  · rintro ⟨⟨r, f⟩, mem, eq⟩
    dsimp only at eq
    split at eq
    · rename_i same
      cases eq
      rwa [← same]
    · cases eq
  · intro mem
    exact ⟨(relay, frame), mem, if_pos rfl⟩

lemma Sound.owned (sound : s.Sound) : s.Owned := by
  constructor
  · rintro frame content ⟨⟨k, mem⟩, fed⟩
    obtain ⟨relay, there, after, before⟩ := sound.windows.user k frame (mem_processedBy.mp mem)
    obtain early | ⟨-, late⟩ := sound.windows.outside frame fed content relay
      (List.mem_of_getElem? there)
    · omega
    · omega
  · intro frame mem
    obtain ahead | ⟨-, turnId, once⟩ := sound.feeds.settled frame mem
    · exact .inr ahead
    · exact .inl ⟨.orphan turnId, once⟩

lemma sound_start (capacity : Nat) : (start capacity).Sound where
  order := ⟨Nat.zero_le _, fun _ mem => (Option.not_mem_none _ mem).elim,
    fun _ mem => (List.not_mem_nil mem).elim⟩
  windows := ⟨fun _ mem => (List.not_mem_nil mem).elim, fun _ _ mem => (List.not_mem_nil mem).elim,
    fun _ mem => (List.not_mem_nil mem).elim⟩
  feeds := ⟨fun _ _ mem => (List.not_mem_nil mem).elim, fun _ mem => (Option.not_mem_none _ mem).elim,
    fun _ mem => (List.not_mem_nil mem).elim, fun _ mem => (List.not_mem_nil mem).elim⟩

section

variable (sound : s.Sound)
include sound

lemma Sound.claims {activeTurn : Option Nat} {refusing : Bool} {minted : Nat} {turns : List Nat}
    {pendingUserMsg : Option (String × Nat)} {stopped : Bool} :
    ({ s with
        activeTurn := activeTurn
        refusing := refusing
        minted := minted
        turns := turns
        pendingUserMsg := pendingUserMsg
        stopped := stopped } : TurnStream).Sound where
  order := ⟨sound.order.read, sound.order.hand, sound.order.fed⟩
  windows := ⟨sound.windows.forward, sound.windows.user, sound.windows.outside⟩
  feeds := ⟨sound.feeds.byOrphan, sound.feeds.feed, sound.feeds.unowned, sound.feeds.settled⟩

lemma Sound.release (turnId : Nat) : (s.release turnId).Sound := by
  rw [TurnStream.release]
  split
  · exact sound.claims
  · exact sound

lemma Sound.claimTurn : s.claimTurn.Sound := by
  rw [TurnStream.claimTurn, TurnStream.tryClaimTurn]
  split
  · exact sound
  · rename_i claimed eq
    split at eq
    · cases eq
    · cases eq
      exact sound.claims

lemma Sound.releaseTurn (turnId : Nat) : (s.releaseTurn turnId).Sound := by
  rw [TurnStream.releaseTurn]
  split
  · exact (sound.release turnId).claims
  · exact sound

lemma Sound.subscribe (turnId : Nat) : (s.subscribe turnId).Sound := by
  rw [TurnStream.subscribe]
  split
  · refine ⟨⟨sound.order.read, sound.order.hand, sound.order.fed⟩, ⟨?_, ?_, ?_⟩,
      ⟨sound.feeds.byOrphan, sound.feeds.feed, sound.feeds.unowned, sound.feeds.settled⟩⟩
    · intro relay mem
      obtain mem | mem := List.mem_append.mp mem
      · exact sound.windows.forward relay mem
      · rw [List.mem_singleton.mp mem]
    · intro k frame mem
      obtain ⟨relay, there, window⟩ := sound.windows.user k frame mem
      refine ⟨relay, ?_, window⟩
      rw [List.getElem?_append_left (List.getElem?_eq_some_iff.mp there).1, there]
    · intro frame mem content relay new
      obtain old | new := List.mem_append.mp new
      · exact sound.windows.outside frame mem content relay old
      · rw [List.mem_singleton.mp new]
        exact .inl ((sound.order.fed frame mem).trans_le sound.order.read)
  · exact sound

end

section Relays

variable {k : Nat} {relay : TurnRelay}

lemma Sound.setRelay (sound : s.Sound) (relay' : TurnRelay) (there : s.relays[k]? = some relay)
    (running : relay.running = true)
    (same : relay'.subscribed = relay.subscribed) (le : relay.rx ≤ relay'.rx) :
    ({ s with relays := s.relays.set k relay' } : TurnStream).Sound := by
  have known := List.mem_of_getElem? there
  refine ⟨⟨sound.order.read, sound.order.hand, sound.order.fed⟩, ⟨?_, ?_, ?_⟩,
    ⟨sound.feeds.byOrphan, sound.feeds.feed, sound.feeds.unowned, sound.feeds.settled⟩⟩
  · intro other mem
    obtain mem | rfl := List.mem_or_eq_of_mem_set mem
    · exact sound.windows.forward other mem
    · rw [same]
      exact (sound.windows.forward relay known).trans le
  · intro j frame mem
    obtain ⟨other, found, after, before⟩ := sound.windows.user j frame mem
    by_cases here : k = j
    · subst here
      obtain rfl : relay = other := Option.some.inj (there.symm.trans found)
      refine ⟨relay', ?_, same ▸ after, before.trans_le le⟩
      exact List.getElem?_set_self (List.getElem?_eq_some_iff.mp there).1
    · exact ⟨other, (List.getElem?_set_ne here).trans found, after, before⟩
  · intro frame fed content other mem
    obtain mem | rfl := List.mem_or_eq_of_mem_set mem
    · exact sound.windows.outside frame fed content other mem
    · -- What was fed comes before a relay that is running.
      obtain early | ⟨ended, -⟩ := sound.windows.outside frame fed content relay known
      · exact .inl (same ▸ early)
      · rw [running] at ended
        cases ended

lemma processedBy_append {t : TurnStream} {r : Relay} {f : Frame}
    (more : t.processed = s.processed ++ [(r, f)]) :
    t.processedBy frame = s.processedBy frame ++ if f = frame then [r] else [] := by
  simp only [processedBy, more, List.filterMap_append, List.filterMap_cons, List.filterMap_nil]
  split
  · rename_i none
    split at none
    · cases none
    · rename_i other
      rw [if_neg other]
  · rename_i relay some
    split at some
    · rename_i same
      cases some
      rw [if_pos same]
    · cases some

variable (sound : s.Sound)
include sound

lemma Sound.process (there : s.relays[k]? = some relay) (after : relay.subscribed ≤ frame.seq)
    (before : frame.seq < relay.rx) :
    ({ s with processed := s.processed ++ [(.user k, frame)] } : TurnStream).Sound := by
  refine ⟨⟨sound.order.read, sound.order.hand, sound.order.fed⟩,
    ⟨sound.windows.forward, ?_, sound.windows.outside⟩,
    ⟨?_, sound.feeds.feed, sound.feeds.unowned, ?_⟩⟩
  · intro j f mem
    obtain mem | new := List.mem_append.mp mem
    · exact sound.windows.user j f mem
    · cases List.mem_singleton.mp new
      exact ⟨relay, there, after, before⟩
  · intro turnId f mem
    obtain mem | new := List.mem_append.mp mem
    · exact sound.feeds.byOrphan turnId f mem
    · cases List.mem_singleton.mp new
  · intro f mem
    have other : frame ≠ f := by
      rintro rfl
      obtain ⟨fed, content⟩ := sound.feeds.unowned frame mem
      obtain early | ⟨-, late⟩ := sound.windows.outside frame fed content relay
        (List.mem_of_getElem? there)
      · omega
      · omega
    have settled := sound.feeds.settled f mem
    rw [Settled, processedBy_append (s := s) rfl, if_neg other, List.append_nil]
    exact settled

lemma Sound.onRelay {go : TurnRelay → TurnStream}
    (step : ∀ relay, s.relays[k]? = some relay → relay.running = true → (go relay).Sound) :
    (s.onRelay k go).Sound := by
  rw [TurnStream.onRelay]
  split
  · exact sound
  · rename_i relay there
    split
    · rename_i running
      exact step relay there running
    · exact sound

lemma Sound.relayRecv (k : Nat) : (s.relayRecv k).Sound := by
  refine sound.onRelay fun relay there running => ?_
  split
  · rename_i event got
    have set := sound.setRelay
      { relay with rx := relay.rx + 1, running := !event.isTerminal } there running rfl
      (Nat.le_succ _)
    refine set.process (List.getElem?_set_self (List.getElem?_eq_some_iff.mp there).1) ?_
      (Nat.lt_succ_self _)
    exact sound.windows.forward relay (List.mem_of_getElem? there)
  · rename_i rx got
    obtain ⟨rfl, behind⟩ := Broadcast.recv_lagged got
    exact sound.setRelay _ there running rfl behind.le
  · exact sound.setRelay _ there running rfl le_rfl
  · exact sound

lemma Sound.sendFailed (k : Nat) : (s.sendFailed k).Sound := by
  refine sound.onRelay fun relay there running => ?_
  split
  · exact sound
  · exact sound
  · exact sound.setRelay _ there running rfl le_rfl
  · exact sound.setRelay _ there running rfl le_rfl

lemma Sound.relayDropped (k : Nat) : (s.relayDropped k).Sound := by
  refine sound.onRelay fun relay there running => ?_
  split
  · exact sound.setRelay _ there running rfl le_rfl
  · exact sound

end Relays

section Orphan

variable {orphan orphan' : OrphanTurn}

section

variable (sound : s.Sound)
include sound

section

variable (known : s.orphan = some orphan)
include known

lemma Sound.sameAhead
    (feed : orphan'.rx ≤ orphan'.feed.sent.length ∧ orphan'.feed.sent = orphan.feed.sent ∧
      orphan'.feed.capacity = orphan.feed.capacity)
    (same : orphan'.waiting = orphan.waiting) :
    ({ s with orphan := some orphan' } : TurnStream).Sound := by
  refine ⟨⟨sound.order.read, sound.order.hand, sound.order.fed⟩,
    ⟨sound.windows.forward, sound.windows.user, sound.windows.outside⟩,
    ⟨sound.feeds.byOrphan, ?_, sound.feeds.unowned, ?_⟩⟩
  · intro other mem
    cases mem
    obtain ⟨room, -, sent⟩ := sound.feeds.feed orphan known
    exact ⟨feed.2.2 ▸ room, feed.1, feed.2.1 ▸ sent⟩
  · intro frame mem
    rw [settled_iff rfl, same]
    exact (settled_iff known).mp (sound.feeds.settled frame mem)

lemma Sound.dropFeed : ({ s with orphan := some orphan.dropFeed } : TurnStream).Sound :=
  sound.sameAhead known ⟨(sound.feeds.feed orphan known).2.1, rfl, rfl⟩ rfl

lemma Sound.nothingWaits (nothing : orphan.waiting = []) (next : Option OrphanTurn)
    (ended : ∀ orphan' ∈ next, orphan'.running = false ∧ orphan'.rx = orphan.rx ∧
      orphan'.feed = orphan.feed) :
    ({ s with orphan := next } : TurnStream).Sound := by
  refine ⟨⟨sound.order.read, sound.order.hand, sound.order.fed⟩,
    ⟨sound.windows.forward, sound.windows.user, sound.windows.outside⟩,
    ⟨sound.feeds.byOrphan, ?_, sound.feeds.unowned, ?_⟩⟩
  · intro other mem
    obtain ⟨-, rx, feed⟩ := ended other mem
    rw [rx, feed]
    exact sound.feeds.feed orphan known
  · intro frame mem
    have none : ({ s with orphan := next } : TurnStream).waiting = [] := by
      rw [TurnStream.waiting]
      cases next with
      | none => rfl
      | some other =>
        rw [Option.map_some, Option.getD_some, OrphanTurn.waiting, (ended other rfl).1,
          if_neg Bool.false_ne_true]
    refine .inr ⟨none ▸ List.not_mem_nil, ?_⟩
    obtain ⟨ahead, -⟩ | ⟨-, once⟩ := (settled_iff known).mp (sound.feeds.settled frame mem)
    · rw [nothing] at ahead
      exact (List.not_mem_nil ahead).elim
    · exact once

/-- The relay of the orphan turn processes the frame at its head. -/
lemma Sound.orphanValue (running : orphan.running = true)
    (got : orphan.feed.recv orphan.rx = .value frame) :
    ({ s with
        orphan := some { orphan with rx := orphan.rx + 1, running := !frame.event.isTerminal }
        processed := s.processed ++ [(.orphan orphan.turnId, frame)] } : TurnStream).Sound := by
  obtain ⟨room, -, subset, nodup⟩ := sound.feeds.feed orphan known
  have waits : orphan.waiting = frame :: orphan.feed.waiting (orphan.rx + 1) := by
    rw [OrphanTurn.waiting, running, if_pos rfl, Broadcast.waiting_value got]
  have fresh : frame ∉ orphan.feed.waiting (orphan.rx + 1) := by
    have distinct := nodup.sublist (Broadcast.waiting_sublist orphan.rx)
    rw [Broadcast.waiting_value got] at distinct
    exact (List.nodup_cons.mp distinct).1
  refine ⟨⟨sound.order.read, sound.order.hand, sound.order.fed⟩,
    ⟨sound.windows.forward, ?_, sound.windows.outside⟩, ⟨?_, ?_, sound.feeds.unowned, ?_⟩⟩
  · intro k f mem
    obtain mem | new := List.mem_append.mp mem
    · exact sound.windows.user k f mem
    · cases List.mem_singleton.mp new
  · intro turnId f mem
    obtain mem | new := List.mem_append.mp mem
    · exact sound.feeds.byOrphan turnId f mem
    · cases List.mem_singleton.mp new
      exact subset (List.mem_of_getElem? (Broadcast.recv_value got).1)
  · intro other mem
    cases mem
    exact ⟨room, Broadcast.recv_value_lt got, subset, nodup⟩
  · intro f mem
    have settled := (settled_iff known).mp (sound.feeds.settled f mem)
    rw [waits, OrphanTurn.untilTerminal] at settled
    rw [settled_iff rfl, processedBy_append (s := s) rfl, OrphanTurn.waiting]
    dsimp only
    by_cases this : frame = f
    · subst this
      obtain ⟨-, before⟩ | ⟨gone, -⟩ := settled
      · refine .inr ⟨?_, orphan.turnId, ?_⟩
        · split
          · exact fresh
          · exact List.not_mem_nil
        · rw [before, if_pos rfl, List.nil_append]
      · exact (gone List.mem_cons_self).elim
    · rw [if_neg this, List.append_nil]
      cases ends : frame.event.isTerminal with
      | true =>
        rw [ends, if_pos rfl] at settled
        obtain ⟨ahead, -⟩ | ⟨gone, once⟩ := settled
        · exact (this (List.mem_singleton.mp ahead).symm).elim
        · exact .inr ⟨List.not_mem_nil, once⟩
      | false =>
        rw [ends, if_neg Bool.false_ne_true] at settled
        rw [Bool.not_false, if_pos rfl]
        obtain ⟨ahead, before⟩ | ⟨gone, once⟩ := settled
        · exact .inl ⟨(List.mem_cons.mp ahead).resolve_left (Ne.symm this), before⟩
        · exact .inr ⟨fun mem => gone (List.mem_cons_of_mem _ mem), once⟩

end

lemma Sound.orphanRecv : s.orphanRecv.Sound := by
  rw [TurnStream.orphanRecv]
  split
  · exact sound
  · rename_i orphan known
    split
    · rename_i running
      have reads : orphan.waiting = orphan.feed.waiting orphan.rx := by
        rw [OrphanTurn.waiting, if_pos running]
      split
      · rename_i frame got
        exact sound.orphanValue known running got
      · rename_i rx got
        refine sound.sameAhead known ⟨?_, rfl, rfl⟩ ?_
        · obtain ⟨rfl, -⟩ := Broadcast.recv_lagged got
          exact Broadcast.oldest_le
        · rw [reads, OrphanTurn.waiting, if_pos running, Broadcast.waiting_lagged got]
      · rename_i got
        have nothing : orphan.waiting = [] := reads.trans (Broadcast.waiting_closed got)
        refine sound.nothingWaits known nothing _ fun other mem => ?_
        cases mem
        exact ⟨rfl, rfl, rfl⟩
      · exact sound
    · exact sound

lemma Sound.orphanIdle : s.orphanIdle.Sound := by
  rw [TurnStream.orphanIdle]
  split
  · rename_i orphan known _
    split
    · exact sound.dropFeed known
    · exact sound
  · exact sound

lemma Sound.orphanJoined : s.orphanJoined.Sound := by
  rw [TurnStream.orphanJoined]
  split
  · exact sound
  · rename_i orphan known
    split
    · exact sound
    · rename_i ended
      have nothing : orphan.waiting = [] := by
        rw [OrphanTurn.waiting, if_neg fun running => ended (by rw [running, Bool.true_or])]
      have joined := sound.nothingWaits known nothing none
        (fun _ mem => (Option.not_mem_none _ mem).elim)
      dsimp only
      split
      · rw [TurnStream.release]
        split
        · exact joined.claims
        · exact joined
      · exact joined

lemma Sound.watcherRecv : s.watcherRecv.Sound := by
  rw [TurnStream.watcherRecv]
  split
  · rename_i reading
    have empty : s.hand = none := by
      rw [TurnStream.reading, Bool.and_eq_true, Bool.and_eq_true, Option.isNone_iff_eq_none] at reading
      exact reading.1.2
    split
    · rename_i event got
      refine ⟨⟨Broadcast.recv_value_lt got, ?_, ?_⟩,
        ⟨sound.windows.forward, sound.windows.user, sound.windows.outside⟩,
        ⟨sound.feeds.byOrphan, sound.feeds.feed, sound.feeds.unowned, sound.feeds.settled⟩⟩
      · intro frame mem
        cases mem
        exact ⟨Nat.lt_succ_self _, sound.order.fed⟩
      · exact fun frame mem => (sound.order.fed frame mem).trans (Nat.lt_succ_self _)
    · rename_i rx got
      obtain ⟨rfl, behind⟩ := Broadcast.recv_lagged got
      refine ⟨⟨Broadcast.oldest_le, ?_, ?_⟩,
        ⟨sound.windows.forward, sound.windows.user, sound.windows.outside⟩,
        ⟨sound.feeds.byOrphan, sound.feeds.feed, sound.feeds.unowned, sound.feeds.settled⟩⟩
      · intro frame mem
        rw [empty] at mem
        cases mem
      · exact fun frame mem => (sound.order.fed frame mem).trans behind
    · split
      · exact sound.claims
      · rename_i orphan known
        exact sound.dropFeed known
    · exact sound
  · exact sound

lemma Sound.unprocessed (last : ∀ f ∈ s.fed, f.seq < frame.seq)
    (outside : ∀ relay ∈ s.relays, relay.Outside frame.seq) : s.processedBy frame = [] := by
  rw [List.eq_nil_iff_forall_not_mem]
  intro r mem
  rw [mem_processedBy] at mem
  cases r with
  | user k =>
    obtain ⟨relay, there, after, before⟩ := sound.windows.user k frame mem
    obtain early | ⟨-, late⟩ := outside relay (List.mem_of_getElem? there)
    · omega
    · omega
  | orphan turnId => exact (last frame (sound.feeds.byOrphan turnId frame mem)).false

end

lemma noteUnowned_eq : s.noteUnowned frame = { s with unowned := (s.noteUnowned frame).unowned } := by
  rw [noteUnowned]
  split <;> rfl

lemma mem_noteUnowned {f : Frame} :
    f ∈ (s.noteUnowned frame).unowned ↔
      f ∈ s.unowned ∨ f = frame ∧ frame.event.isOrphanTurnContent = true := by
  rw [noteUnowned]
  split
  · rename_i content
    rw [List.mem_append, List.mem_singleton, and_iff_left content]
  · rename_i noise
    exact (or_iff_left fun new => noise new.2).symm

/-- The frame in hand is fed, and waits behind what is ahead. -/
lemma Sound.feed (sound : s.Sound) (orphan' : OrphanTurn) (empty : s.hand = none)
    (read : frame.seq < s.rx) (last : ∀ f ∈ s.fed, f.seq < frame.seq)
    (outside : frame.event.isOrphanTurnContent = true → ∀ relay ∈ s.relays, relay.Outside frame.seq)
    (feed : 0 < orphan'.feed.capacity ∧ orphan'.rx ≤ orphan'.feed.sent.length ∧
      orphan'.feed.sent ⊆ s.fed ++ [frame] ∧ orphan'.feed.sent.Nodup)
    (old : ∀ f ∈ s.unowned,
      f ∈ OrphanTurn.untilTerminal orphan'.waiting ∧ s.processedBy f = [] ∨
        f ∉ orphan'.waiting ∧ ∃ turnId, s.processedBy f = [.orphan turnId])
    (new : frame.event.isOrphanTurnContent = true → frame ∈ OrphanTurn.untilTerminal orphan'.waiting) :
    ({ s with
        orphan := some orphan'
        fed := s.fed ++ [frame]
        unowned := (s.noteUnowned frame).unowned } : TurnStream).Sound := by
  refine ⟨⟨sound.order.read, ?_, ?_⟩, ⟨sound.windows.forward, sound.windows.user, ?_⟩, ⟨?_, ?_, ?_, ?_⟩⟩
  · intro f mem
    rw [empty] at mem
    cases mem
  · intro f mem
    obtain mem | mem := List.mem_append.mp mem
    · exact sound.order.fed f mem
    · rwa [List.mem_singleton.mp mem]
  · intro f mem content
    obtain mem | mem := List.mem_append.mp mem
    · exact sound.windows.outside f mem content
    · rw [List.mem_singleton.mp mem] at content ⊢
      exact outside content
  · exact fun turnId f mem => List.mem_append_left _ (sound.feeds.byOrphan turnId f mem)
  · intro other mem
    cases mem
    exact feed
  · intro f mem
    obtain mem | ⟨rfl, content⟩ := mem_noteUnowned.mp mem
    · obtain ⟨fed, content⟩ := sound.feeds.unowned f mem
      exact ⟨List.mem_append_left _ fed, content⟩
    · exact ⟨List.mem_append_right _ (List.mem_singleton_self f), content⟩
  · intro f mem
    rw [settled_iff rfl]
    obtain mem | ⟨rfl, content⟩ := mem_noteUnowned.mp mem
    · exact old f mem
    · exact .inl ⟨new content, sound.unprocessed last (outside content)⟩

variable (sound : s.Sound)
include sound

lemma Sound.runOrphanTurn (empty : s.hand = none) (none : s.orphan = none)
    (read : frame.seq < s.rx) (last : ∀ f ∈ s.fed, f.seq < frame.seq)
    (outside : ∀ relay ∈ s.relays, relay.Outside frame.seq) (pending : Option (String × Nat))
    (serving : Option String) :
    (TurnStream.runOrphanTurn
      { s.noteUnowned frame with pendingUserMsg := pending } frame serving).Sound := by
  have waits : ∀ claimed, OrphanTurn.waiting
      { turnId := s.minted, claimed := claimed, feed := (Broadcast.channel 256).send frame,
        rx := 0, running := true } =
      [frame] := by
    intro claimed
    rw [OrphanTurn.waiting, if_pos rfl]
    exact Broadcast.waiting_first (by decide)
  have opened := fun claimed => sound.feed
      { turnId := s.minted, claimed := claimed, feed := (Broadcast.channel 256).send frame,
        rx := 0, running := true }
    empty read last (fun _ => outside)
    ⟨Nat.succ_pos 255, Nat.zero_le _, List.subset_append_right _ _, List.nodup_singleton frame⟩
    (fun f mem => by
      obtain ⟨ahead, -⟩ | ⟨-, once⟩ := sound.feeds.settled f mem
      · rw [TurnStream.ahead, none] at ahead
        exact (List.not_mem_nil ahead).elim
      · refine .inr ⟨fun here => ?_, once⟩
        have same : f = frame := List.mem_singleton.mp (waits claimed ▸ here)
        exact (last f (sound.feeds.unowned f mem).1).ne (congrArg Frame.seq same))
    (fun _ => by
      have alone : frame ∈ OrphanTurn.untilTerminal [frame] := by
        rw [OrphanTurn.untilTerminal, OrphanTurn.untilTerminal, ite_self]
        exact List.mem_singleton_self frame
      rwa [← waits claimed] at alone)
  rw [TurnStream.runOrphanTurn, noteUnowned_eq]
  dsimp only
  split
  · rw [TurnStream.tryClaimTurn]
    split
    · exact (opened false).claims
    · exact (opened true).claims
  · exact (opened false).claims

lemma Sound.feedFrame (empty : s.hand = none) (known : s.orphan = some orphan)
    (read : frame.seq < s.rx) (last : ∀ f ∈ s.fed, f.seq < frame.seq)
    (inTime : s.activeTurn.all (· = orphan.turnId) = true →
      (frame.event.isOrphanTurnContent = true →
        (∀ relay ∈ s.relays, relay.Outside frame.seq) ∧ orphan.Open) ∧ orphan.Room) :
    (s.feedFrame orphan frame).Sound := by
  rw [TurnStream.feedFrame]
  split
  · exact sound.dropFeed known
  · rename_i own
    obtain ⟨content, room⟩ := inTime (by
      rw [Bool.not_eq_true, Option.any_eq_false] at own
      rw [Option.all_eq_true]
      intro active mem
      simpa using own active mem)
    obtain ⟨cap, at_, subset, nodup⟩ := sound.feeds.feed orphan known
    have fresh : frame ∉ s.fed := fun mem => (last frame mem).false
    rw [noteUnowned_eq]
    refine sound.feed (orphan.send frame) empty read last (fun h => (content h).1)
      (OrphanTurn.feed_send cap at_ subset nodup fresh) (fun f mem => ?_)
      fun h => OrphanTurn.behind_send cap at_ (content h).2
    obtain ⟨fed, wanted⟩ := sound.feeds.unowned f mem
    have other : f ≠ frame := by
      rintro rfl
      exact fresh fed
    obtain ⟨ahead, before⟩ | ⟨gone, once⟩ := (settled_iff known).mp (sound.feeds.settled f mem)
    · exact .inl ⟨OrphanTurn.ahead_send cap at_ room wanted ahead, before⟩
    · exact .inr ⟨OrphanTurn.gone_send cap at_ other gone, once⟩

lemma Sound.runFrame (empty : s.hand = none) (none : s.orphan = none) (read : frame.seq < s.rx)
    (last : ∀ f ∈ s.fed, f.seq < frame.seq)
    (inTime : w.titleOnly = false → s.activeTurn = .none → frame.event.isOrphanTurnContent = true →
      ∀ relay ∈ s.relays, relay.Outside frame.seq) (now : Nat) :
    (s.runFrame w now frame).Sound := by
  rw [TurnStream.runFrame]
  split
  · exact sound
  · exact sound.claims
  · split
    · exact sound
    · rename_i sessions
      split
      · exact sound
      · rename_i idle
        dsimp only
        split
        · rename_i content
          refine sound.runOrphanTurn empty none read last ?_ .none _
          refine inTime ?_ ?_ content
          · rwa [Bool.not_eq_true] at sessions
          · rwa [Option.not_isSome_iff_eq_none] at idle
        · rename_i noise
          rw [noteUnowned, if_neg noise]
          exact sound

lemma Sound.watcherDecide (now : Nat) (inTime : s.InTime w (.watcherDecide now)) :
    (s.watcherDecide w now).Sound := by
  rw [TurnStream.watcherDecide]
  split
  · exact sound
  · rename_i frame taken
    obtain ⟨read, last⟩ := sound.order.hand frame taken
    have inTime := inTime frame taken
    have put : ({ s with hand := none } : TurnStream).Sound :=
      ⟨⟨sound.order.read, fun _ mem => (Option.not_mem_none _ mem).elim, sound.order.fed⟩,
        ⟨sound.windows.forward, sound.windows.user, sound.windows.outside⟩,
        ⟨sound.feeds.byOrphan, sound.feeds.feed, sound.feeds.unowned, sound.feeds.settled⟩⟩
    dsimp only
    split
    · rename_i none
      refine put.runFrame rfl none read last (fun sessions idle content => ?_) now
      have takes : s.takes w = true := by
        rw [takes, none]
        simp only [sessions, show s.activeTurn = .none from idle]
        rfl
      exact ((inTime takes).1 content).1
    · rename_i orphan known
      refine put.feedFrame rfl known read last fun own => ?_
      have takes : s.takes w = true := by
        rw [takes, show s.orphan = some orphan from known]
        exact own
      obtain ⟨content, room⟩ := inTime takes
      exact ⟨fun h => ⟨(content h).1, (content h).2 orphan known⟩, room orphan known⟩

end Orphan

lemma Sound.next (sound : s.Sound) (event : Event) (inTime : s.InTime w event) :
    (s.next w event).Sound := by
  cases event with
  | emit event =>
    rw [TurnStream.next]
    split
    · exact sound
    · refine ⟨⟨?_, sound.order.hand, sound.order.fed⟩,
        ⟨sound.windows.forward, sound.windows.user, sound.windows.outside⟩,
        ⟨sound.feeds.byOrphan, sound.feeds.feed, sound.feeds.unowned, sound.feeds.settled⟩⟩
      rw [Broadcast.send_sent, List.length_append]
      exact sound.order.read.trans (Nat.le_add_right _ _)
  | close =>
    exact ⟨⟨sound.order.read, sound.order.hand, sound.order.fed⟩,
      ⟨sound.windows.forward, sound.windows.user, sound.windows.outside⟩,
      ⟨sound.feeds.byOrphan, sound.feeds.feed, sound.feeds.unowned, sound.feeds.settled⟩⟩
  | refuse refusing => exact sound.claims
  | claimTurn => exact sound.claimTurn
  | subscribe turnId => exact sound.subscribe turnId
  | relayRecv k => exact sound.relayRecv k
  | sendFailed k => exact sound.sendFailed k
  | relayDropped k => exact sound.relayDropped k
  | releaseTurn turnId => exact sound.releaseTurn turnId
  | clearTurn => exact sound.claims
  | watcherRecv => exact sound.watcherRecv
  | watcherDecide now => exact sound.watcherDecide now inTime
  | orphanRecv => exact sound.orphanRecv
  | orphanIdle => exact sound.orphanIdle
  | orphanJoined => exact sound.orphanJoined

end TurnStream

end KiCore.Conversation

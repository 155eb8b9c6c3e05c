import KiCore.Session.Codex.TurnReader

/-!
# One terminal for each turn

The terminals of a codex turn share one flag of the reader, which only `turn/started` resets, and the
turn counter, which is bumped after the write. `turns_settle_once` says on which runs every turn that
codex brings to an end leads to exactly one terminal that the session takes.
-/

namespace KiCore.Session.Codex.TurnReader

open KiCore.Lib

def resultOf (entry : LaneEntry) : Option Nat := if isTurnResult entry.2.event then entry.1 else none

variable (s : TurnReader)

/-- The prompts whose results are still to be folded. -/
def waiting : List Nat := s.lane.events.filterMap resultOf

/-- The prompt whose result the event folds. -/
def settled (s : TurnReader) : Event → Option Nat
  | .fold => s.lane.settled
  | _ => none

/-- The event folds the end of the process. -/
def detaches : Event → Bool
  | .fold => s.lane.head.any fun entry => isDetached entry.2.event
  | _ => false

/-- What an event must keep. -/
structure Lawful (s : TurnReader) (e : Event) : Prop where
  once : (s.next e).results.Nodup
  /-- a turn that has been brought to its end has got its result, or the end of the process -/
  answered : ∀ k ∈ (s.next e).lane.answered, k ∈ (s.next e).results ∨ (s.next e).closed
  /-- a result is folded while the session runs for its prompt, and ends the turn -/
  accepted : ∀ k, s.settled e = some k →
    s.lane.RunsFor k ∧ runningSince (s.next e).lane.state = none
  /-- the end of the process is folded while the session runs for a prompt that has got no result -/
  detached : s.detaches e → (∀ k, s.lane.Started k → k ∉ s.results → s.lane.RunsFor k) ∧
    runningSince (s.next e).lane.state = none
  flag : (s.next e).results ≠ s.results ∨ s.closed = false ∧ (s.next e).closed →
    (s.next e).turnInFlight = false
  /-- only a new send raises the flag again -/
  lowered : s.turnInFlight = false → e ≠ .register → (s.next e).turnInFlight = false
  done : (s.next e).lane.Quiescent → runningSince (s.next e).lane.state = none

/-- A frame is about a prompt that has been written, and a request is responded to once. -/
def FramePossible : Frame → Prop
  | .response k _ => (s.pendingSends[k]?).isSome
  | .turnStarted k _ | .statusIdle k | .statusSystemError k | .fatalError k _ | .turnCompleted k _ =>
    k < s.lane.prompts.length
  | .notification e => e.movesTurn = false

/-- A dispatch takes its stages in order, and the stream ends once. -/
def Possible : Event → Prop
  | .write _ => 0 < s.registered ∧ s.closed = false
  | .writeFails => 0 < s.registered
  | .bump k => s.lane.CanBump k
  | .lower k => s.lane.CanLower k
  | .frame f => s.closed = false ∧ s.FramePossible f
  | .graceExpired => s.closed = false ∧ s.systemErrorDeadline ∧ s.systemErrorPending.isSome ∧
    s.terminated = false
  | .endOfStream _ _ => s.closed = false
  | .register | .fold => True

/-- The counter stands at the epoch of the prompt, or at 0. -/
def InTime (k : Nat) : Prop :=
  s.lane.turnGen = 0 ∨ s.lane.epoch k = some s.lane.turnGen

/-- The flag says whether the turn has ended; one that ends now ends in time. -/
def Ready (k : Nat) : Prop :=
  if k ∈ s.lane.answered then s.terminated = true else s.terminated = false ∧ s.InTime k

def FrameHeeded : Frame → Prop
  | .response k (.error _) | .turnCompleted k _ => s.Ready k
  | .fatalError k _ => if s.turnInFlight then s.Ready k else k ∈ s.lane.answered
  | _ => True

/-- The condition under which the backend keeps the law: sends bump the counter in the order in which
they write; a turn is started while the session does not run, and before its end has been folded; when
codex brings a turn to its end, the flag says whether that has happened before, and the counter stands
at its epoch; and the deferred terminals are of turns that have not ended. -/
def Heeded : Event → Prop
  | .bump k => s.lane.InOrder k
  | .lower k => s.lane.lowered = [] ∧ runningSince s.lane.state = none ∧
    (k ∈ s.lane.answered → s.lane.Awaits k)
  | .frame f => s.FrameHeeded f
  | .graceExpired => ∀ k ∈ s.systemErrorPending, k ∉ s.lane.answered ∧ s.InTime k
  | .endOfStream _ _ => ∀ d ∈ s.deferred, d.1 ∉ s.lane.answered ∧ s.InTime d.1
  | .fold => ∀ k ∈ s.lane.settled, s.lane.Started k
  | _ => True

instance : ∀ f, Decidable (s.FramePossible f)
  | .response _ _ => inferInstanceAs (Decidable (_ = true))
  | .turnStarted _ _ | .statusIdle _ | .statusSystemError _ | .fatalError _ _ | .turnCompleted _ _ =>
    inferInstanceAs (Decidable (_ < _))
  | .notification _ => inferInstanceAs (Decidable (_ = _))

instance : ∀ e, Decidable (s.Possible e)
  | .write _ | .graceExpired => inferInstanceAs (Decidable (_ ∧ _))
  | .writeFails => inferInstanceAs (Decidable (_ < _))
  | .bump k => inferInstanceAs (Decidable (s.lane.CanBump k))
  | .lower k => inferInstanceAs (Decidable (s.lane.CanLower k))
  | .frame f => inferInstanceAs (Decidable (_ ∧ s.FramePossible f))
  | .endOfStream _ _ => inferInstanceAs (Decidable (_ = _))
  | .register | .fold => isTrue trivial

instance (k : Nat) : Decidable (s.InTime k) := inferInstanceAs (Decidable (_ ∨ _))
instance (k : Nat) : Decidable (s.Ready k) :=
  inferInstanceAs (Decidable (if k ∈ s.lane.answered then s.terminated = true
    else s.terminated = false ∧ s.InTime k))

instance : ∀ f, Decidable (s.FrameHeeded f)
  | .response k (.error _) | .turnCompleted k _ => inferInstanceAs (Decidable (s.Ready k))
  | .fatalError k _ =>
    inferInstanceAs (Decidable (if s.turnInFlight then s.Ready k else k ∈ s.lane.answered))
  | .response _ .result | .response _ .neither | .turnStarted _ _ | .statusIdle _
  | .statusSystemError _ | .notification _ => isTrue trivial

instance : ∀ e, Decidable (s.Heeded e)
  | .bump k => inferInstanceAs (Decidable (s.lane.InOrder k))
  | .lower k => inferInstanceAs (Decidable (s.lane.lowered = [] ∧ _ ∧ (_ → s.lane.Awaits k)))
  | .frame f => inferInstanceAs (Decidable (s.FrameHeeded f))
  | .graceExpired => inferInstanceAs (Decidable (∀ k ∈ s.systemErrorPending, _ ∧ s.InTime k))
  | .endOfStream _ _ => inferInstanceAs (Decidable (∀ d ∈ s.deferred, _ ∧ s.InTime d.1))
  | .fold => inferInstanceAs (Decidable (∀ k ∈ s.lane.settled, s.lane.Started k))
  | .register | .write _ | .writeFails => isTrue trivial

variable {s t : TurnReader} {e : Event} {f : Frame} {k : Nat} {entry : LaneEntry}

/-- The start of the prompt's turn is still to be folded. -/
def Pending (s : TurnReader) (k : Nat) : Prop :=
  ∃ env ∈ s.lane.lowered, env.event = .turnStarted (k + 1)

/-- The session is still to take the end of the prompt's turn. -/
def Live (s : TurnReader) (k : Nat) : Prop :=
  k ∈ s.waiting ∨ k ∉ s.results ∧
    (s.closed → ∃ entry ∈ s.lane.events, isDetached entry.2.event)

/-- The invariant of the runs that heed the condition. -/
structure Tracked (s : TurnReader) : Prop where
  lane : s.lane.Tracked
  single : s.lane.lowered = [] ∨ ∃ env k, s.lane.lowered = [env] ∧
    env.event = .turnStarted (k + 1) ∧ runningSince s.lane.state = none
  last : ∀ entry ∈ s.lane.events.dropLast, isDetached entry.2.event = false
  attached : s.closed = false → ∀ entry ∈ s.lane.events, isDetached entry.2.event = false
  distinct : s.waiting.Nodup
  emitted : ∀ k ∈ s.waiting, k ∈ s.results
  ended : ∀ k ∈ s.results, k ∈ s.lane.answered
  once : s.results.Nodup
  answered : ∀ k ∈ s.lane.answered, k ∈ s.results ∨ s.closed
  live : ∀ k, s.lane.Started k → s.Live k →
    s.Pending k ∨ runningSince s.lane.state = some (k + 1)

lemma tracked_start {sessionId : String} : Tracked (start sessionId) where
  lane := TurnLane.tracked_start
  single := .inl rfl
  last := List.forall_mem_nil _
  attached := fun _ => List.forall_mem_nil _
  distinct := .nil
  emitted := List.forall_mem_nil _
  ended := List.forall_mem_nil _
  once := .nil
  answered := List.forall_mem_nil _
  live := nofun

lemma Tracked.of_lane (h : Tracked s) (lane : t.lane.Tracked)
    (lowered : t.lane.lowered = s.lane.lowered) (events : t.lane.events = s.lane.events)
    (state : t.lane.state = s.lane.state) (answered : t.lane.answered = s.lane.answered)
    (results : t.results = s.results) (closed : t.closed = s.closed)
    (started : ∀ k, t.lane.Started k → s.lane.Started k) : Tracked t := by
  have waiting : t.waiting = s.waiting := by rw [TurnReader.waiting, events, TurnReader.waiting]
  exact {
    lane := lane
    single := by rw [lowered, state]; exact h.single
    last := by rw [events]; exact h.last
    attached := by rw [events, closed]; exact h.attached
    distinct := by rw [waiting]; exact h.distinct
    emitted := by rw [waiting, results]; exact h.emitted
    ended := by rw [results, answered]; exact h.ended
    once := by rw [results]; exact h.once
    answered := by rw [answered, results, closed]; exact h.answered
    live := by
      intro k start live
      rw [Live, waiting, results, closed, events] at live
      rw [Pending, lowered, state]
      exact h.live k (started k start) live }

lemma Tracked.of_same (h : Tracked s) (lane : t.lane = s.lane) (results : t.results = s.results)
    (closed : t.closed = s.closed) : Tracked t :=
  h.of_lane (lane ▸ h.lane) (by rw [lane]) (by rw [lane]) (by rw [lane]) (by rw [lane]) results closed
    (fun k started => lane ▸ started)

lemma Tracked.write {clientMsgId : Option String} (h : Tracked s) : Tracked (s.write clientMsgId) :=
  h.of_lane h.lane.write rfl rfl rfl rfl rfl rfl fun _ => TurnLane.started_write.mp

lemma Tracked.bump (h : Tracked s) (written : s.lane.CanBump k) (first : s.lane.InOrder k) :
    Tracked (s.next (.bump k)) :=
  h.of_lane (h.lane.bump written first) TurnLane.bump_lowered TurnLane.bump_events
    TurnLane.bump_state TurnLane.bump_answered rfl rfl fun _ => (TurnLane.started_bump written).mp

lemma Tracked.lower (h : Tracked s) (ready : s.lane.CanLower k) (empty : s.lane.lowered = [])
    (idle : runningSince s.lane.state = none) (awaits : k ∈ s.lane.answered → s.lane.Awaits k) :
    Tracked (s.next (.lower k)) := by
  have tracked := h.lane.lower ready awaits
  have started : ∀ j, (s.lane.lower k).Started j → j = k ∨ s.lane.Started j :=
    fun j => (h.lane.started_lower ready).mp
  obtain ⟨-, lower⟩ := h.lane.lower_eq ready
  have next : s.next (.lower k) = { s with lane := s.lane.lower k } := rfl
  rw [next]
  rw [lower] at tracked started ⊢
  exact {
    lane := tracked
    single := .inr ⟨_, k, by rw [empty]; rfl, rfl, idle⟩
    last := h.last
    attached := h.attached
    distinct := h.distinct
    emitted := h.emitted
    ended := h.ended
    once := h.once
    answered := h.answered
    live := by
      intro j start live
      rcases started j start with rfl | before
      · exact .inl ⟨_, List.mem_append_right _ (.head _), rfl⟩
      · rcases h.live j before live with ⟨env, mem, -⟩ | running
        · rw [empty] at mem
          cases mem
        · rw [idle] at running
          cases running }

/-- What a step of the reader posts: at most one result, of a turn that has not ended, and at the end
of the stream a `Detached` as the last event. -/
structure Posts (s t : TurnReader) (entries : List LaneEntry) (ends : List Nat) (result : Option Nat) :
    Prop where
  lane : t.lane = s.lane.post entries ends
  results : t.results = result.toList ++ s.results
  stamped : ∀ entry ∈ entries, TurnLane.Stamped entry
  tag : entries.filterMap resultOf = result.toList
  fresh : ∀ k ∈ result, k ∉ s.lane.answered ∧ k ∈ ends
  ends : ∀ k ∈ ends, k ∈ s.lane.answered ∨ k ∈ result ∨ t.closed
  detached : t.closed = entries.any fun entry => isDetached entry.2.event
  last : ∀ entry ∈ entries.dropLast, isDetached entry.2.event = false

lemma ends_of_resultOf (h : resultOf entry = some k) : entry.Ends k := by
  rw [resultOf] at h
  split at h
  case isTrue result => exact .inl ⟨h, result⟩
  case isFalse => cases h

lemma Posts.waiting {entries : List LaneEntry} {ends : List Nat} {result : Option Nat}
    (h : Posts s t entries ends result) : t.waiting = s.waiting ++ result.toList := by
  rw [TurnReader.waiting, h.lane, TurnReader.waiting, ← h.tag]
  exact List.filterMap_append

lemma Posts.tracked_lane {entries : List LaneEntry} {ends : List Nat} {result : Option Nat}
    (p : Posts s t entries ends result) (h : Tracked s) : t.lane.Tracked := by
  rw [p.lane]
  refine h.lane.post p.stamped ?_
  intro k mem unended
  rcases p.ends k mem with ended | now | closed
  · exact absurd ended unended
  · have waits : k ∈ entries.filterMap resultOf := by
      rw [p.tag]
      exact Option.mem_toList.mpr now
    obtain ⟨entry, mem, tagged⟩ := List.mem_filterMap.mp waits
    exact ⟨entry, mem, ends_of_resultOf tagged⟩
  · rw [p.detached] at closed
    obtain ⟨entry, mem, detached⟩ := List.any_eq_true.mp closed
    exact ⟨entry, mem, .inr detached⟩

/-- A step of the reader keeps the invariant. -/
lemma Tracked.posts {entries : List LaneEntry} {ends : List Nat} {result : Option Nat}
    (h : Tracked s) (opened : s.closed = false) (p : Posts s t entries ends result) : Tracked t := by
  have events : t.lane.events = s.lane.events ++ entries := by rw [p.lane]; rfl
  have unemitted : ∀ k ∈ result, k ∉ s.results := fun k mem emitted =>
    (p.fresh k mem).1 (h.ended k emitted)
  exact {
    lane := p.tracked_lane h
    single := by rw [p.lane]; exact h.single
    last := by
      intro entry mem
      rw [events] at mem
      rcases List.eq_nil_or_concat' entries with rfl | ⟨front, tail, rfl⟩
      · rw [List.append_nil] at mem
        exact h.last entry mem
      · rw [← List.append_assoc, List.dropLast_concat] at mem
        rcases List.mem_append.mp mem with before | now
        · exact h.attached opened entry before
        · exact p.last entry (by rw [List.dropLast_concat]; exact now)
    attached := by
      intro open' entry mem
      rw [events] at mem
      rcases List.mem_append.mp mem with before | now
      · exact h.attached opened entry before
      · rw [p.detached] at open'
        exact Bool.eq_false_iff.mpr (List.any_eq_false.mp open' entry now)
    distinct := by
      rw [p.waiting]
      refine List.Nodup.append h.distinct (Option.toList_nodup result) ?_
      intro k waits now
      exact unemitted k (Option.mem_toList.mp now) (h.emitted k waits)
    emitted := by
      intro k mem
      rw [p.waiting] at mem
      rw [p.results]
      exact (List.mem_append.mp mem).elim
        (fun before => List.mem_append_right _ (h.emitted k before)) (List.mem_append_left _)
    ended := by
      intro k mem
      rw [p.results] at mem
      rw [p.lane]
      rcases List.mem_append.mp mem with now | before
      · exact List.mem_append_left _ (p.fresh k (Option.mem_toList.mp now)).2
      · exact List.mem_append_right _ (h.ended k before)
    once := by
      rw [p.results]
      refine List.Nodup.append (Option.toList_nodup result) h.once ?_
      exact fun k now before => unemitted k (Option.mem_toList.mp now) before
    answered := by
      intro k mem
      have cases' : k ∈ s.lane.answered ∨ k ∈ result ∨ t.closed := by
        rw [p.lane] at mem
        rcases List.mem_append.mp mem with now | before
        · exact p.ends k now
        · exact .inl before
      rw [p.results]
      rcases cases' with before | now | closed
      · rcases h.answered k before with emitted | closed
        · exact .inl (List.mem_append_right _ emitted)
        · rw [opened] at closed
          cases closed
      · exact .inl (List.mem_append_left _ (Option.mem_toList.mpr now))
      · exact .inr closed
    live := by
      intro k started live
      have before : s.Live k := by
        rcases live with waits | ⟨unemitted', -⟩
        · rw [p.waiting] at waits
          rcases List.mem_append.mp waits with waits | now
          · exact .inl waits
          · exact .inr ⟨unemitted k (Option.mem_toList.mp now), by rw [opened]; exact nofun⟩
        · rw [p.results] at unemitted'
          refine .inr ⟨fun mem => unemitted' (List.mem_append_right _ mem), ?_⟩
          rw [opened]
          exact nofun
      have start : s.lane.Started k := by rw [p.lane] at started; exact started
      rw [Pending, p.lane]
      exact h.live k start before }

lemma Posts.emit {event : SessionEvent} (opened : s.closed = false) (moves : event.movesTurn = false) :
    Posts s (s.emit event) [s.entry none event] [] none := by
  obtain ⟨read, result, attached⟩ := TurnLane.still moves
  exact {
    lane := rfl
    results := rfl
    stamped := by
      intro entry mem
      cases List.mem_singleton.mp mem
      refine ⟨read, fun terminal => ?_⟩
      rw [TurnReader.entry, result] at terminal
      cases terminal
    tag := by simp [resultOf, TurnReader.entry]
    fresh := nofun
    ends := List.forall_mem_nil _
    detached := by simp [TurnReader.emit, TurnReader.entry, opened, attached]
    last := List.forall_mem_nil _ }

lemma Tracked.stamped_result {event : SessionEvent} (h : Tracked s) (inTime : s.InTime k)
    (unstamped : TurnLane.fromReader event) : TurnLane.Stamped (s.entry (some k) event) where
  read := unstamped
  result _ := by
    refine ⟨k, rfl, ?_⟩
    rcases inTime with zero | epoch
    · exact .inr zero
    · exact .inl (h.lane.epoch epoch)

lemma Tracked.terminal (h : Tracked s) (opened : s.closed = false) (unended : k ∉ s.lane.answered)
    (inTime : s.InTime k) {isError : Bool} {status : Option Nat} {text : String}
    {outcome : TurnOutcome} : Tracked (s.terminal k (.turnResult isError status text 0 outcome)) := by
  have posts : Posts s (s.terminal k (.turnResult isError status text 0 outcome))
      [s.entry (some k) (.turnResult isError status text 0 outcome)] [k] (some k) := {
    lane := rfl
    results := rfl
    stamped := by
      intro entry mem
      cases List.mem_singleton.mp mem
      exact h.stamped_result inTime rfl
    tag := rfl
    fresh := by
      rintro j ⟨⟩
      exact ⟨unended, .head _⟩
    ends := by
      intro j mem
      cases List.mem_singleton.mp mem
      exact .inr (.inl rfl)
    detached := opened
    last := List.forall_mem_nil _ }
  exact h.posts opened posts

lemma Tracked.absorb (h : Tracked s) (opened : s.closed = false) (ended : k ∈ s.lane.answered) :
    Tracked (s.absorb k) := by
  have posts : Posts s (s.absorb k) [] [k] none := {
    lane := rfl
    results := rfl
    stamped := List.forall_mem_nil _
    tag := rfl
    fresh := nofun
    ends := by
      intro j mem
      cases List.mem_singleton.mp mem
      exact .inl ended
    detached := opened
    last := List.forall_mem_nil _ }
  exact h.posts opened posts

lemma Tracked.ended_of_terminated (ready : s.Ready k) (terminated : s.terminated = true) :
    k ∈ s.lane.answered := by
  by_contra unended
  rw [Ready, if_neg unended, terminated] at ready
  exact absurd ready.1 (by decide)

lemma Tracked.unended_of_open (ready : s.Ready k) (open' : s.terminated = false) :
    k ∉ s.lane.answered ∧ s.InTime k := by
  rw [Ready, open'] at ready
  split at ready
  case isTrue => cases ready
  case isFalse unended => exact ⟨unended, ready.2⟩

lemma Tracked.ready (h : Tracked s) (opened : s.closed = false) (ready : s.Ready k) (t : TurnReader)
    (lane : t.lane = s.lane) (results : t.results = s.results) (closed : t.closed = s.closed)
    {isError : Bool} {status : Option Nat} {text : String} {outcome : TurnOutcome} :
    Tracked (if s.terminated then s.absorb k
      else t.terminal k (.turnResult isError status text 0 outcome)) := by
  split
  case isTrue terminated => exact h.absorb opened (Tracked.ended_of_terminated ready terminated)
  case isFalse open' =>
    obtain ⟨unended, inTime⟩ := Tracked.unended_of_open ready (Bool.eq_false_iff.mpr open')
    have same := h.of_same lane results closed
    refine same.terminal (closed.trans opened) (lane ▸ unended) ?_
    rw [InTime, lane]
    exact inTime

lemma Tracked.response {response : Response} (h : Tracked s) (opened : s.closed = false)
    (heeded : s.FrameHeeded (.response k response)) : Tracked (s.response k response) := by
  rw [TurnReader.response]
  split
  case h_1 => exact h
  case h_2 clientMsgId _ =>
    have removed : Tracked { s with pendingSends := s.pendingSends.erase k } := h.of_same rfl rfl rfl
    cases response with
    | neither => exact removed
    | result =>
      cases clientMsgId with
      | none => exact removed
      | some clientMsgId => exact removed.posts opened (.emit opened rfl)
    | error message => exact removed.ready opened heeded _ rfl rfl rfl

lemma Tracked.handleFrame (h : Tracked s) (opened : s.closed = false) (possible : s.FramePossible f)
    (heeded : s.FrameHeeded f) : Tracked (s.handleFrame f) := by
  cases f with
  | response k response => exact h.response opened heeded
  | turnStarted k turnId =>
    have reset : Tracked { s with
        terminated := false
        idlePending := none
        systemErrorPending := none
        systemErrorDeadline := false
        activeTurnId := turnId.or s.activeTurnId } := h.of_same rfl rfl rfl
    cases turnId with
    | none => exact reset
    | some turnId => exact reset.posts opened (.emit opened rfl)
  | statusIdle k =>
    rw [TurnReader.handleFrame]
    split
    · exact h
    · exact h.of_same rfl rfl rfl
  | statusSystemError k =>
    rw [TurnReader.handleFrame]
    split
    · exact h
    · exact h.of_same rfl rfl rfl
  | fatalError k message =>
    rw [FrameHeeded] at heeded
    rw [TurnReader.handleFrame]
    split at heeded
    case isTrue inFlight =>
      have flag : (!s.turnInFlight || s.terminated) = s.terminated := by simp [inFlight]
      rw [flag]
      exact h.ready opened heeded { s with systemErrorPending := none, systemErrorDeadline := false }
        rfl rfl rfl
    case isFalse idle =>
      have flag : (!s.turnInFlight || s.terminated) = true := by simp [idle]
      rw [flag]
      exact h.absorb opened heeded
  | turnCompleted k turn =>
    obtain ⟨isError, status, text, outcome, result⟩ : ∃ isError status text outcome,
        mapTurnCompleted turn = .turnResult isError status text 0 outcome := ⟨_, _, _, _, rfl⟩
    rw [TurnReader.handleFrame, result]
    exact h.ready opened heeded { s with idlePending := none, systemErrorPending := none } rfl rfl rfl
  | notification e => exact h.posts opened (.emit opened possible)

lemma dropDeadline_eq (s : TurnReader) :
    ∃ deadline, s.dropDeadline = { s with systemErrorDeadline := deadline } := by
  unfold dropDeadline
  split
  · exact ⟨false, rfl⟩
  · exact ⟨s.systemErrorDeadline, rfl⟩

lemma Tracked.frame (h : Tracked s) (opened : s.closed = false) (possible : s.FramePossible f)
    (heeded : s.FrameHeeded f) : Tracked (s.next (.frame f)) := by
  obtain ⟨deadline, drop⟩ := dropDeadline_eq s
  rw [next, drop]
  have same : Tracked { s with systemErrorDeadline := deadline } := h.of_same rfl rfl rfl
  refine same.handleFrame opened ?_ ?_
  · cases f <;> exact possible
  · cases f with
    | response k response => cases response <;> exact heeded
    | _ => exact heeded

lemma Tracked.expireGrace (h : Tracked s) (opened : s.closed = false)
    (heeded : ∀ k ∈ s.systemErrorPending, k ∉ s.lane.answered ∧ s.InTime k) :
    Tracked s.expireGrace := by
  rw [TurnReader.expireGrace]
  split
  case h_1 => exact h
  case h_2 k pending =>
    obtain ⟨unended, inTime⟩ := heeded k pending
    have same : Tracked { s with systemErrorPending := none, systemErrorDeadline := false } :=
      h.of_same rfl rfl rfl
    exact same.terminal opened unended inTime

lemma deferred_result {event : SessionEvent} (h : s.deferred = some (k, event)) :
    isTurnResult event ∧ TurnLane.fromReader event ∧ isDetached event = false := by
  rw [deferred] at h
  split at h
  · cases h
  · split at h
    · cases h
      exact ⟨rfl, rfl, rfl⟩
    · cases h
      exact ⟨rfl, rfl, rfl⟩
    · cases h

lemma Tracked.endOfStream {exit : Option ExitStatusLite} {summary : Option String} (h : Tracked s)
    (opened : s.closed = false) (heeded : ∀ d ∈ s.deferred, d.1 ∉ s.lane.answered ∧ s.InTime d.1) :
    Tracked (s.endOfStream exit summary) := by
  have posts : Posts s (s.endOfStream exit summary)
      ((s.deferred.map fun d => s.entry (some d.1) d.2).toList ++
        [s.entry none (.detached exit summary)])
      ((s.deferred.map Prod.fst).toList ++ List.range s.lane.prompts.length)
      (s.deferred.map Prod.fst) := {
    lane := rfl
    results := rfl
    stamped := by
      intro entry mem
      rcases List.mem_append.mp mem with flushed | detached
      · obtain ⟨⟨k, event⟩, deferred, rfl⟩ := Option.map_eq_some_iff.mp (Option.mem_toList.mp flushed)
        exact h.stamped_result (heeded _ deferred).2 (deferred_result deferred).2.1
      · cases List.mem_singleton.mp detached
        exact ⟨rfl, nofun⟩
    tag := by
      cases deferred : s.deferred with
      | none => rfl
      | some d =>
        obtain ⟨result, -, -⟩ := deferred_result deferred
        have flushed : resultOf (s.entry (some d.1) d.2) = some d.1 := if_pos result
        exact List.filterMap_cons_some flushed
    fresh := by
      intro k mem
      obtain ⟨d, deferred, rfl⟩ := Option.map_eq_some_iff.mp mem
      exact ⟨(heeded d deferred).1, List.mem_append_left _ (Option.mem_toList.mpr mem)⟩
    ends := fun _ _ => .inr (.inr rfl)
    detached := by simp [TurnReader.endOfStream, TurnReader.entry, isDetached]
    last := by
      intro entry mem
      rw [List.dropLast_concat] at mem
      obtain ⟨⟨k, event⟩, deferred, rfl⟩ := Option.map_eq_some_iff.mp (Option.mem_toList.mp mem)
      exact (deferred_result deferred).2.2 }
  exact h.posts opened posts

lemma waiting_cons {rest : List LaneEntry} (events : s.lane.events = entry :: rest) :
    s.waiting = (resultOf entry).toList ++ rest.filterMap resultOf := by
  rw [TurnReader.waiting, events, List.filterMap_cons]
  cases resultOf entry <;> rfl

section

variable (h : Tracked s)
include h

lemma Tracked.runsFor (empty : s.lane.lowered = []) (started : s.lane.Started k)
    (live : s.Live k) : runningSince s.lane.state = some (k + 1) := by
  rcases h.live k started live with ⟨env, mem, -⟩ | running
  · rw [empty] at mem
    cases mem
  · exact running

lemma Tracked.foldLowered {env : SessionEnvelope} {rest : List SessionEnvelope}
    (lowered : s.lane.lowered = env :: rest) :
    Tracked { s with lane := { s.lane with
      lowered := rest, state := foldEnvelope s.lane.state env } } := by
  obtain ⟨k, event, idle, rfl⟩ : ∃ k, env.event = .turnStarted (k + 1) ∧
      runningSince s.lane.state = none ∧ rest = [] := by
    rcases h.single with empty | ⟨env', k, single, event, idle⟩
    · rw [empty] at lowered
      cases lowered
    · cases single.symm.trans lowered
      exact ⟨k, event, idle, rfl⟩
  have running : runningSince (foldEnvelope s.lane.state env) = some (k + 1) :=
    runningSince_fold_started event idle
  exact {
    lane := h.lane.foldLowered lowered
    single := .inl rfl
    last := h.last
    attached := h.attached
    distinct := h.distinct
    emitted := h.emitted
    ended := h.ended
    once := h.once
    answered := h.answered
    live := by
      intro j started live
      rcases h.live j started live with ⟨env', mem, start⟩ | before
      · rw [lowered] at mem
        cases List.mem_singleton.mp mem
        cases start.symm.trans event
        exact .inr running
      · rw [idle] at before
        cases before }

variable {rest : List LaneEntry}

lemma Tracked.live_of_still (empty : s.lane.lowered = [])
    (events : s.lane.events = entry :: rest) (still : entry.2.event.movesTurn = false)
    (started : s.lane.Started k) (live : k ∈ rest.filterMap resultOf ∨ k ∉ s.results ∧
      (s.closed → ∃ entry ∈ rest, isDetached entry.2.event)) :
    runningSince (foldEnvelope s.lane.state entry.2) = some (k + 1) := by
  rw [runningSince_fold_still still]
  refine h.runsFor empty started ?_
  rcases live with waits | ⟨unemitted, detached⟩
  · exact .inl (by rw [waiting_cons events]; exact List.mem_append_right _ waits)
  · refine .inr ⟨unemitted, fun closed => ?_⟩
    obtain ⟨entry', mem, isDetached⟩ := detached closed
    exact ⟨entry', events ▸ .tail _ mem, isDetached⟩

lemma Tracked.live_of_result {j : Nat}
    (empty : s.lane.lowered = []) (events : s.lane.events = entry :: rest)
    (result : resultOf entry = some j) (started' : s.lane.Started j) (started : s.lane.Started k)
    (live : k ∈ rest.filterMap resultOf ∨ k ∉ s.results ∧
      (s.closed → ∃ entry ∈ rest, isDetached entry.2.event)) : False := by
  have waiting : s.waiting = j :: rest.filterMap resultOf := by
    rw [waiting_cons events, result]
    rfl
  have distinct := h.distinct
  rw [waiting, List.nodup_cons] at distinct
  have head : j ∈ s.waiting := by
    rw [waiting]
    exact .head _
  have before : s.Live k := by
    rcases live with waits | ⟨unemitted, detached⟩
    · exact .inl (by rw [waiting]; exact .tail _ waits)
    · refine .inr ⟨unemitted, fun closed => ?_⟩
      obtain ⟨entry', mem, isDetached⟩ := detached closed
      exact ⟨entry', events ▸ .tail _ mem, isDetached⟩
  have same := (h.runsFor empty started before).symm.trans (h.runsFor empty started' (.inl head))
  cases Nat.succ.inj (Option.some.inj same)
  rcases live with waits | ⟨unemitted, -⟩
  · exact distinct.1 waits
  · exact unemitted (h.emitted k head)

lemma Tracked.rest_of_detached
    (events : s.lane.events = entry :: rest) (detached : isDetached entry.2.event) :
    rest = [] ∧ s.closed = true := by
  constructor
  · by_contra more
    have front : entry ∈ s.lane.events.dropLast := by
      rw [events, List.dropLast_cons_of_ne_nil more]
      exact .head _
    rw [h.last entry front] at detached
    cases detached
  · by_contra opened
    rw [h.attached (Bool.eq_false_iff.mpr opened) entry (events ▸ .head _)] at detached
    cases detached

lemma Tracked.foldEvent (empty : s.lane.lowered = [])
    (events : s.lane.events = entry :: rest) (started : ∀ j ∈ resultOf entry, s.lane.Started j) :
    Tracked { s with lane := { s.lane with
      events := rest, state := foldEnvelope s.lane.state entry.2 } } where
  lane := h.lane.foldEvent empty events
  single := .inl empty
  last entry' mem := by
    refine h.last entry' ?_
    cases rest with
    | nil => cases mem
    | cons next rest =>
      rw [events, List.dropLast_cons_of_ne_nil (List.cons_ne_nil _ _)]
      exact .tail _ mem
  attached opened entry' mem := h.attached opened entry' (events ▸ .tail _ mem)
  distinct := by
    have distinct := h.distinct
    rw [waiting_cons events] at distinct
    exact (List.nodup_append.mp distinct).2.1
  emitted k mem := h.emitted k (by rw [waiting_cons events]; exact List.mem_append_right _ mem)
  ended := h.ended
  once := h.once
  answered := h.answered
  live k start live := by
    have stamped := h.lane.stamped entry (events ▸ .head _)
    by_cases still : entry.2.event.movesTurn = false
    · exact .inr (h.live_of_still empty events still start live)
    · cases event : entry.2.event with
      | turnResult isError status text epoch outcome =>
        have result : isTurnResult entry.2.event := by rw [event]; rfl
        obtain ⟨j, tagged, -⟩ := stamped.result result
        have tag : resultOf entry = some j := (if_pos result).trans tagged
        exact (h.live_of_result empty events tag (started j tag) start live).elim
      | detached exit summary =>
        obtain ⟨rfl, closed⟩ := h.rest_of_detached events (by rw [event]; rfl)
        rcases live with waits | ⟨-, detached⟩
        · cases waits
        · obtain ⟨_, mem, -⟩ := detached closed
          cases mem
      | turnStarted | cancel =>
        have read := stamped.read
        rw [event] at read
        cases read
      | _ =>
        rw [event] at still
        exact absurd rfl still

end

lemma settled_cons {rest : List LaneEntry} (empty : s.lane.lowered = [])
    (events : s.lane.events = entry :: rest) : s.lane.settled = resultOf entry := by
  rw [TurnLane.settled, TurnLane.head, empty, events]
  rfl

lemma Tracked.fold (h : Tracked s) (heeded : s.Heeded .fold) : Tracked (s.next .fold) := by
  rw [next, TurnLane.fold]
  split
  case h_1 lowered => exact h.foldLowered lowered
  case h_2 turn env rest empty events =>
    exact h.foldEvent empty events fun j tagged => heeded j ((settled_cons empty events).trans tagged)
  case h_3 => exact h

lemma Tracked.next (h : Tracked s) (possible : s.Possible e) (heeded : s.Heeded e) :
    Tracked (s.next e) := by
  cases e with
  | register =>
    rw [TurnReader.next, TurnReader.register]
    split
    · exact h.of_same rfl rfl rfl
    · exact h
  | write clientMsgId => exact h.write
  | writeFails => exact h.of_same rfl rfl rfl
  | bump k => exact h.bump possible heeded
  | lower k =>
    obtain ⟨empty, idle, awaits⟩ := heeded
    exact h.lower possible empty idle awaits
  | frame f => exact h.frame possible.1 possible.2 heeded
  | graceExpired => exact h.expireGrace possible.1 heeded
  | endOfStream exit summary => exact h.endOfStream possible heeded
  | fold => exact h.fold heeded

/-- A step keeps the flag, and emits no terminal, or lowers it. -/
structure KeptFlag (s t : TurnReader) : Prop where
  results : t.results = s.results
  closed : t.closed = s.closed
  flag : t.turnInFlight = s.turnInFlight

lemma KeptFlag.absorb_or_terminal {r : TurnReader} (kept : KeptFlag s r) (t : TurnReader) (b : Bool)
    (k : Nat) (event : SessionEvent) :
    KeptFlag s (if b then r.absorb k else t.terminal k event) ∨
      (if b then r.absorb k else t.terminal k event).turnInFlight = false := by
  cases b with
  | true => exact .inl ⟨kept.results, kept.closed, kept.flag⟩
  | false => exact .inr rfl

lemma keptFlag_frame (s : TurnReader) (f : Frame) :
    KeptFlag s (s.handleFrame f) ∨ (s.handleFrame f).turnInFlight = false := by
  cases f with
  | response k response =>
    rw [handleFrame, TurnReader.response]
    split
    · exact .inl ⟨rfl, rfl, rfl⟩
    · rename_i clientMsgId _
      cases response with
      | neither => exact .inl ⟨rfl, rfl, rfl⟩
      | result => cases clientMsgId <;> exact .inl ⟨rfl, rfl, rfl⟩
      | error message =>
        have kept : KeptFlag s { s with pendingSends := s.pendingSends.erase k } := ⟨rfl, rfl, rfl⟩
        exact kept.absorb_or_terminal _ s.terminated k _
  | turnStarted k turnId => cases turnId <;> exact .inl ⟨rfl, rfl, rfl⟩
  | statusIdle | statusSystemError =>
    rw [handleFrame]
    split <;> exact .inl ⟨rfl, rfl, rfl⟩
  | fatalError k message => exact KeptFlag.absorb_or_terminal ⟨rfl, rfl, rfl⟩ _ _ k _
  | turnCompleted k turn => exact KeptFlag.absorb_or_terminal ⟨rfl, rfl, rfl⟩ _ _ k _
  | notification e => exact .inl ⟨rfl, rfl, rfl⟩

lemma keptFlag_next (s : TurnReader) (other : e ≠ .register) :
    KeptFlag s (s.next e) ∨ (s.next e).turnInFlight = false := by
  cases e with
  | register => exact absurd rfl other
  | write | writeFails | bump | lower | fold => exact .inl ⟨rfl, rfl, rfl⟩
  | frame f =>
    obtain ⟨deadline, drop⟩ := dropDeadline_eq s
    rw [next, drop]
    exact (keptFlag_frame { s with systemErrorDeadline := deadline } f).imp_left fun kept =>
      ⟨kept.results, kept.closed, kept.flag⟩
  | graceExpired =>
    rw [next, expireGrace]
    split
    · exact .inl ⟨rfl, rfl, rfl⟩
    · exact .inr rfl
  | endOfStream exit summary => exact .inr rfl

lemma flag_of_terminal
    (ends : (s.next e).results ≠ s.results ∨ s.closed = false ∧ (s.next e).closed) :
    (s.next e).turnInFlight = false := by
  have other : e ≠ .register := by
    rintro rfl
    rw [next, register] at ends
    split at ends <;> simp_all
  rcases keptFlag_next s other with kept | low
  · rw [kept.results, kept.closed] at ends
    simp_all
  · exact low

lemma Tracked.lawful (h : Tracked s) (possible : s.Possible e) (heeded : s.Heeded e) :
    s.Lawful e where
  once := (h.next possible heeded).once
  answered := (h.next possible heeded).answered
  accepted k settled := by
    cases e with
    | fold =>
      obtain ⟨env, head, result⟩ := TurnLane.settled_eq_some settled
      obtain ⟨rest, empty, events, fold⟩ := TurnLane.fold_head head
      have mem : (some k, env) ∈ s.lane.events := by
        rw [events]
        exact .head _
      have stamped := h.lane.stamped _ mem
      have tag : resultOf (some k, env) = some k := if_pos result
      have waits : k ∈ s.waiting := by
        rw [waiting_cons events, tag]
        exact .head _
      have running := h.runsFor empty (heeded k settled) (.inl waits)
      refine ⟨h.lane.runsFor_iff.mpr running, ?_⟩
      simp only [TurnReader.next, fold]
      cases after : runningSince (foldEnvelope s.lane.state env) with
      | none => rfl
      | some n =>
        cases Option.some.inj ((stamped.running after).symm.trans running)
        exact absurd after (stamped.ends h.lane.unseen (ends_of_resultOf tag))
    | _ => cases settled
  detached detaches := by
    cases e with
    | fold =>
      obtain ⟨entry, head, detached⟩ := (Option.any_eq_true _ _).mp detaches
      obtain ⟨rest, empty, events, fold⟩ := TurnLane.fold_head head
      have mem : entry ∈ s.lane.events := events ▸ .head _
      refine ⟨fun k started unemitted => ?_, ?_⟩
      · exact h.lane.runsFor_iff.mpr
          (h.runsFor empty started (.inr ⟨unemitted, fun _ => ⟨entry, mem, detached⟩⟩))
      · simp only [TurnReader.next, fold]
        cases event : entry.2.event with
        | detached exit summary => exact runningSince_fold_detached event h.lane.unseen
        | _ =>
          rw [event] at detached
          cases detached
    | _ => cases detaches
  flag := flag_of_terminal
  lowered low other := (keptFlag_next s other).elim (fun kept => kept.flag.trans low) id
  done := (h.next possible heeded).lane.quiescent

end KiCore.Session.Codex.TurnReader

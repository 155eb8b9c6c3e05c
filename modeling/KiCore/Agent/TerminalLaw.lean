import KiCore.Agent.EventPump
import KiCore.Lib.Transition

/-!
# The terminal of a turn

The pump has one flag for the finish that it has made itself and one for the terminal of the turn,
and resets them with a generation. So a turn that the agent starts by itself after a finish of the
pump loses its own finish; it gets none from the pump, because the status is that of the turn
before; an exit after the end of a turn ends it again; and a debt is forgotten with a new generation
or at the end of the stream. The invariant `Tracked` is kept by every step that meets none of these.
-/

namespace KiCore.Agent

open KiCore.Lib

namespace EventPump

def terminals (s : EventPump) (turn : Nat) : Nat :=
  s.frames.countP fun frame => frame.1 = turn && frame.2.isTerminal

/-- A turn has one terminal at most. It has one when it has settled; it has one, after the place
where its result was held back, unless the pump still owes it while the stream goes on; and a tip
comes before it, in a turn that has shown nothing. -/
structure TerminalLaw (s : EventPump) : Prop where
  atMostOne : ∀ turn, s.terminals turn ≤ 1
  kept : ∀ turn ∈ s.settled, s.terminals turn = 1
  paid : ∀ turn ∈ s.suppressed, s.terminals turn = 1 ∨
    turn = s.turn ∧ s.finishSuppressedPending = true ∧ s.ended = false
  later : s.frames.Pairwise fun a b => a.1 = b.1 → b.2 = .segmentBreak → a.2.isTerminal = false
  tips : s.frames.Pairwise fun a b => a.1 = b.1 → b.2.isEmptyTurnTip = true →
    a.2.isVisible = false ∧ a.2.isTerminal = false

/-- A finish is owed, and no container is live. -/
def Owing (s : EventPump) : Prop :=
  s.finishSuppressedPending = true ∧ s.workflowInflight = []

variable (trim : String → String) (s : EventPump)

/-- A finish is owed without a live container only after the last one has completed by itself: whatever
else drains the roster pays it. -/
def DrainPays (event : Event) : Prop :=
  (s.next trim event).Owing → s.Owing ∨
    ∃ turnGen ref kind, event = .envelope ⟨turnGen, .subagentUpdate ref .completed kind⟩

/-- The guard of the finish that the pump has made itself applies to the event. -/
def Swallows (event : SessionEvent) : Prop :=
  s.syntheticFinishEmitted = true ∧ translateEvent trim s.terminalResultSeen event = some .finish

/-- A terminal is swallowed if and only if its turn has settled; a turn does not begin, and the
stream does not end, while a finish is owed; and the status is not that of a finished turn when the
pump pays. -/
def OrderlyEvent (event : SessionEvent) : Prop :=
  match event with
  | .turnStarted => s.finishSuppressedPending = false
  | .turnResult .. => s.terminalResultSeen = false → (s.turn ∈ s.settled ↔ s.Swallows trim event)
  | .detached _ => s.turn ∈ s.settled ↔ s.Swallows trim event
  | .subagentUpdate ref status _ => status.isTerminal = true → status ≠ .completed →
    s.finishSuppressedPending = true → s.workflowInflight.filter (· ≠ ref) = [] →
    s.status ≠ some .finished
  | _ => True

def Orderly : Event → Prop
  | .envelope env => s.ended = false →
    (s.lastSeenTurnGen < env.turnGen → s.finishSuppressedPending = false) ∧
      (s.advance env.turnGen).OrderlyEvent trim env.event
  | .close => s.finishSuppressedPending = false

instance (event : SessionEvent) : Decidable (s.Swallows trim event) :=
  inferInstanceAs (Decidable (_ ∧ _))

instance :
    (event : SessionEvent) → Decidable (s.OrderlyEvent trim event)
  | .turnStarted => inferInstanceAs (Decidable (_ = _))
  | .turnResult .. => inferInstanceAs (Decidable (_ → _))
  | .detached _ => inferInstanceAs (Decidable (_ ↔ _))
  | .subagentUpdate .. => inferInstanceAs (Decidable (_ → _ → _ → _ → _))
  | .messageDelta _ | .thoughtDelta _ | .toolCall .. | .toolResult .. | .toolOutputDelta _ | .plan
  | .permission | .ask | .notice .. | .other => inferInstanceAs (Decidable True)

instance :
    (event : Event) → Decidable (s.Orderly trim event)
  | .envelope _ => inferInstanceAs (Decidable (_ → _))
  | .close => inferInstanceAs (Decidable (_ = _))

/-- What carries `TerminalLaw` from step to step. -/
structure Tracked (s : EventPump) : Prop where
  frames : ∀ frame ∈ s.frames, frame.1 ≤ s.turn
  turns : ∀ turn ∈ s.settled, turn ≤ s.turn
  terminals : ∀ turn, s.terminals turn = if turn ∈ s.settled then 1 else 0
  owed : ∀ turn ∈ s.suppressed, turn ∈ s.settled ∨
    turn = s.turn ∧ s.finishSuppressedPending = true ∧ s.ended = false
  pending : s.finishSuppressedPending = true → s.turn ∉ s.settled
  seen : s.terminalResultSeen = true → s.turn ∈ s.settled
  blank : s.sawVisibleOutput = false → s.turn ∉ s.settled →
    ∀ frame ∈ s.frames, frame.1 = s.turn → frame.2.isVisible = false
  tools : s.sawVisibleOutput = false → ∀ tool ∈ s.openTools, tool.detachedExec = true
  later : s.frames.Pairwise fun a b => a.1 = b.1 → b.2 = .segmentBreak → a.2.isTerminal = false
  tips : s.frames.Pairwise fun a b => a.1 = b.1 → b.2.isEmptyTurnTip = true →
    a.2.isVisible = false ∧ a.2.isTerminal = false

variable {s s' : EventPump} {trim : String → String} {event : SessionEvent} {turn : Nat}
  {new closed tip : List AgentStreamEvent} {frame : AgentStreamEvent}

lemma Tracked.terminalLaw (h : s.Tracked) : s.TerminalLaw where
  atMostOne turn := by
    rw [h.terminals]
    split <;> omega
  kept turn settled := by rw [h.terminals, if_pos settled]
  paid turn suppressed := by
    apply (h.owed turn suppressed).imp_left
    intro settled
    rw [h.terminals, if_pos settled]
  later := h.later
  tips := h.tips

/-- The state goes on in the same turn, with new frames. -/
structure Extends (s s' : EventPump) (new : List AgentStreamEvent) : Prop where
  turn : s'.turn = s.turn
  suppressed : s'.suppressed = s.suppressed
  ended : s'.ended = s.ended
  frames : s'.frames = s.frames ++ new.map (s.turn, ·)

/-- A frame that is neither a terminal nor bound to its place. -/
structure Plain (frame : AgentStreamEvent) : Prop where
  terminal : frame.isTerminal = false
  tip : frame.isEmptyTurnTip = false
  segment : frame ≠ .segmentBreak

lemma Extends.terminals (e : s.Extends s' new) (turn : Nat) :
    s'.terminals turn =
      s.terminals turn + if turn = s.turn then new.countP (·.isTerminal) else 0 := by
  rw [EventPump.terminals, e.frames, List.countP_append, List.countP_map]
  congr 1
  split
  · rename_i same
    simp [Function.comp_def, same]
  · rename_i other
    simp [Function.comp_def, Ne.symm other]

lemma Extends.below (e : s.Extends s' new) (h : s.Tracked) :
    ∀ frame ∈ s'.frames, frame.1 ≤ s'.turn := by
  intro frame mem
  rw [e.frames] at mem
  rw [e.turn]
  obtain mem | mem := List.mem_append.mp mem
  · exact h.frames frame mem
  · obtain ⟨_, _, rfl⟩ := List.mem_map.mp mem
    exact le_rfl

lemma Extends.pairwise (e : s.Extends s' new) {R : AgentStreamEvent → AgentStreamEvent → Prop}
    (h : s.frames.Pairwise fun a b => a.1 = b.1 → R a.2 b.2)
    (own : new.Pairwise R) (cross : ∀ b ∈ new, ∀ a ∈ s.frames, a.1 = s.turn → R a.2 b) :
    s'.frames.Pairwise fun a b => a.1 = b.1 → R a.2 b.2 := by
  rw [e.frames]
  apply List.pairwise_append.mpr
  refine ⟨h, ?_, ?_⟩
  · apply List.pairwise_map.mpr
    exact own.imp fun {a b} (r : R a b) (_ : s.turn = s.turn) => r
  · intro a old b mem same
    obtain ⟨frame, there, rfl⟩ := List.mem_map.mp mem
    exact cross frame there a old same

lemma not_terminal (h : s.Tracked) (open_ : s.turn ∉ s.settled) :
    ∀ frame ∈ s.frames, frame.1 = s.turn → frame.2.isTerminal = false := by
  have none_ := h.terminals s.turn
  rw [if_neg open_, EventPump.terminals, List.countP_eq_zero] at none_
  intro frame mem own
  simpa [own] using none_ frame mem

lemma ends_none {p : Prop} (h : Plain frame ∨ frame = .segmentBreak ∧ p) :
    frame.isTerminal = false ∧ frame.isEmptyTurnTip = false := by
  obtain plain | ⟨rfl, _⟩ := h
  · exact ⟨plain.terminal, plain.tip⟩
  · exact ⟨rfl, rfl⟩

/-- Frames that end no turn. A segment breaks before the end of its turn only. -/
lemma Tracked.plain (h : s.Tracked) (e : s.Extends s' new) (settled : s'.settled = s.settled)
    (pending : s'.finishSuppressedPending = s.finishSuppressedPending)
    (seen : s'.terminalResultSeen = true → s.turn ∈ s.settled)
    (plain : ∀ frame ∈ new, Plain frame ∨ frame = .segmentBreak ∧ s.turn ∉ s.settled)
    (blank : s'.sawVisibleOutput = false → s.turn ∉ s.settled →
      s.sawVisibleOutput = false ∧ ∀ frame ∈ new, frame.isVisible = false)
    (tools : s'.sawVisibleOutput = false → ∀ tool ∈ s'.openTools, tool.detachedExec = true) :
    s'.Tracked where
  frames := e.below h
  turns := by
    rw [settled, e.turn]
    exact h.turns
  terminals turn := by
    have none_ : new.countP (·.isTerminal) = 0 :=
      List.countP_eq_zero.mpr fun frame mem => by simp [(ends_none (plain frame mem)).1]
    rw [e.terminals, h.terminals, settled, none_, ite_self, Nat.add_zero]
  owed := by
    rw [e.suppressed, settled, e.turn, pending, e.ended]
    exact h.owed
  pending := by
    rw [pending, settled, e.turn]
    exact h.pending
  seen now := by
    rw [settled, e.turn]
    exact seen now
  blank := by
    rw [settled, e.turn]
    intro blind open_ frame mem own
    obtain ⟨before, quiet⟩ := blank blind open_
    rw [e.frames] at mem
    obtain mem | mem := List.mem_append.mp mem
    · exact h.blank before open_ frame mem own
    · obtain ⟨_, there, rfl⟩ := List.mem_map.mp mem
      exact quiet _ there
  tools := tools
  later := by
    apply e.pairwise (R := fun a b => b = .segmentBreak → a.isTerminal = false) h.later
    · exact List.pairwise_of_forall_mem_list fun a mem _ _ _ => (ends_none (plain a mem)).1
    · intro b mem a old own is_
      obtain ⟨_, _, other⟩ | ⟨_, open_⟩ := plain b mem
      · exact absurd is_ other
      · -- A segment breaks in an open turn, which has no terminal yet.
        exact not_terminal h open_ a old own
  tips := by
    apply e.pairwise (R := fun a b => b.isEmptyTurnTip = true →
      a.isVisible = false ∧ a.isTerminal = false) h.tips
    · exact List.pairwise_of_forall_mem_list fun a _ b mem is_ =>
        nomatch is_.symm.trans (ends_none (plain b mem)).2
    · exact fun b mem a _ _ is_ => nomatch is_.symm.trans (ends_none (plain b mem)).2

lemma Plain.of_terminal (h : frame.isTerminal = true) :
    frame.isEmptyTurnTip = false ∧ frame ≠ .segmentBreak := by
  cases frame <;> simp_all [AgentStreamEvent.isTerminal, AgentStreamEvent.isEmptyTurnTip]

lemma Plain.of_tip (h : frame.isEmptyTurnTip = true) :
    frame.isTerminal = false ∧ frame.isVisible = false ∧ frame ≠ .segmentBreak := by
  cases frame <;> simp_all [AgentStreamEvent.isTerminal, AgentStreamEvent.isEmptyTurnTip,
    AgentStreamEvent.isVisible]

/-- The canceled calls, perhaps a tip, and the terminal of a turn. -/
structure Closing (s : EventPump) (closed tip : List AgentStreamEvent) (frame : AgentStreamEvent) :
    Prop where
  calls : ∀ frame ∈ closed, Plain frame
  tips : ∀ frame ∈ tip, frame.isEmptyTurnTip = true ∧ s.sawVisibleOutput = false ∧ closed = []
  terminal : frame.isTerminal = true

lemma Closing.mem (c : s.Closing closed tip frame) {b : AgentStreamEvent}
    (mem : b ∈ closed ++ (tip ++ [frame])) : Plain b ∨ b ∈ tip ∨ b = frame := by
  obtain mem | mem := List.mem_append.mp mem
  · exact .inl (c.calls b mem)
  · obtain mem | mem := List.mem_append.mp mem
    · exact .inr (.inl mem)
    · exact .inr (.inr (List.mem_singleton.mp mem))

section

variable (c : s.Closing closed tip frame)
include c

lemma Closing.not_segment {b : AgentStreamEvent}
    (mem : b ∈ closed ++ (tip ++ [frame])) : b ≠ .segmentBreak := by
  obtain plain | mem | rfl := c.mem mem
  · exact plain.segment
  · exact (Plain.of_tip (c.tips b mem).1).2.2
  · exact (Plain.of_terminal c.terminal).2

lemma Closing.mem_tip {b : AgentStreamEvent}
    (mem : b ∈ closed ++ (tip ++ [frame])) (is_ : b.isEmptyTurnTip = true) : b ∈ tip := by
  obtain plain | mem | rfl := c.mem mem
  · exact nomatch is_.symm.trans plain.tip
  · exact mem
  · exact nomatch is_.symm.trans (Plain.of_terminal c.terminal).1

lemma Closing.tips_first :
    (closed ++ (tip ++ [frame])).Pairwise fun a b => b.isEmptyTurnTip = true →
      a.isVisible = false ∧ a.isTerminal = false := by
  apply List.pairwise_append.mpr
  refine ⟨?_, List.pairwise_append.mpr ⟨?_, List.pairwise_singleton _ _, ?_⟩, ?_⟩
  · exact List.pairwise_of_forall_mem_list fun a _ b mem is_ =>
      nomatch is_.symm.trans (c.calls b mem).tip
  · apply List.pairwise_of_forall_mem_list
    intro a mem b _ _
    obtain ⟨terminal, visible, _⟩ := Plain.of_tip (c.tips a mem).1
    exact ⟨visible, terminal⟩
  · intro a _ b mem is_
    rw [List.mem_singleton.mp mem] at is_
    exact nomatch is_.symm.trans (Plain.of_terminal c.terminal).1
  · -- With a tip there are no calls.
    intro a there b mem is_
    have none_ := (c.tips b (c.mem_tip (List.mem_append_right _ mem) is_)).2.2
    rw [none_] at there
    cases there

lemma Closing.one_terminal : (closed ++ (tip ++ [frame])).countP (·.isTerminal) = 1 := by
  have no_call : closed.countP (·.isTerminal) = 0 :=
    List.countP_eq_zero.mpr fun b mem => by simp [(c.calls b mem).terminal]
  have no_tip : tip.countP (·.isTerminal) = 0 :=
    List.countP_eq_zero.mpr fun b mem => by simp [(Plain.of_tip (c.tips b mem).1).1]
  rw [List.countP_append, List.countP_append, no_call, no_tip, List.countP_singleton,
    if_pos c.terminal]

end

/-- A turn comes to its end. -/
lemma Tracked.settles (h : s.Tracked) (open_ : s.turn ∉ s.settled)
    (c : s.Closing closed tip frame) (e : s.Extends s' (closed ++ (tip ++ [frame])))
    (settled : s'.settled = s.turn :: s.settled) (pending : s'.finishSuppressedPending = false)
    (tools : ∀ tool ∈ s'.openTools, tool.detachedExec = true) : s'.Tracked where
  frames := e.below h
  turns := by
    rw [settled, e.turn]
    exact List.forall_mem_cons.mpr ⟨le_rfl, h.turns⟩
  terminals turn := by
    rw [e.terminals, h.terminals, settled, c.one_terminal]
    -- The turn had none so far, and gets that of the closing.
    by_cases own : turn = s.turn
    · rw [if_neg (own ▸ open_), if_pos own, if_pos (own ▸ List.mem_cons_self)]
    · rw [if_neg own, Nat.add_zero]
      simp [own]
  owed := by
    rw [e.suppressed, settled]
    intro turn suppressed
    left
    obtain old | ⟨rfl, _⟩ := h.owed turn suppressed
    · exact List.mem_cons_of_mem _ old
    · exact List.mem_cons_self
  pending owes := nomatch pending.symm.trans owes
  seen _ := by
    rw [settled, e.turn]
    exact List.mem_cons_self
  blank _ still := by
    rw [settled, e.turn] at still
    exact absurd List.mem_cons_self still
  tools _ := tools
  later := by
    apply e.pairwise (R := fun a b => b = .segmentBreak → a.isTerminal = false) h.later
    · exact List.pairwise_of_forall_mem_list fun a _ b mem is_ => absurd is_ (c.not_segment mem)
    · exact fun b mem a _ _ is_ => absurd is_ (c.not_segment mem)
  tips := by
    apply e.pairwise (R := fun a b => b.isEmptyTurnTip = true →
      a.isVisible = false ∧ a.isTerminal = false) h.tips
    · exact c.tips_first
    · -- Whatever was shown before the tip would have set the flag.
      intro b mem a old own is_
      obtain ⟨_, blind, _⟩ := c.tips b (c.mem_tip mem is_)
      exact ⟨h.blank blind open_ a old own, not_terminal h open_ a old own⟩

/-- Only the flags of the suppression, the roster, the status and the turn may differ. -/
structure Kept (s s' : EventPump) : Prop where
  settled : s'.settled = s.settled
  suppressed : s'.suppressed = s.suppressed
  ended : s'.ended = s.ended
  frames : s'.frames = s.frames
  saw : s'.sawVisibleOutput = s.sawVisibleOutput
  tools : s'.openTools = s.openTools

section

variable (h : s.Tracked)
include h

lemma Tracked.kept (k : s.Kept s') (turn : s'.turn = s.turn)
    (pending : s'.finishSuppressedPending = s.finishSuppressedPending)
    (seen : s'.terminalResultSeen = true → s.terminalResultSeen = true) : s'.Tracked := by
  have extends_ : s.Extends s' [] :=
    ⟨turn, k.suppressed, k.ended, k.frames.trans (List.append_nil _).symm⟩
  refine h.plain extends_ k.settled pending (fun now => h.seen (seen now)) nofun
    (fun blind _ => ?_) fun blind => ?_
  · exact ⟨k.saw.symm.trans blind, nofun⟩
  · rw [k.tools]
    exact h.tools (k.saw.symm.trans blind)

lemma Tracked.newTurn (free : s.finishSuppressedPending = false) (k : s.Kept s')
    (turn : s'.turn = s.turn + 1) (pending : s'.finishSuppressedPending = false)
    (seen : s'.terminalResultSeen = false) : s'.Tracked where
  frames frame mem := by
    rw [k.frames] at mem
    rw [turn]
    exact Nat.le_succ_of_le (h.frames frame mem)
  turns t mem := by
    rw [k.settled] at mem
    rw [turn]
    exact Nat.le_succ_of_le (h.turns t mem)
  terminals t := by
    rw [EventPump.terminals, k.frames, k.settled]
    exact h.terminals t
  owed t mem := by
    -- Nothing is owed, so the turn whose result was held back has settled.
    rw [k.suppressed] at mem
    rw [k.settled]
    exact .inl ((h.owed t mem).resolve_right fun owes => nomatch free.symm.trans owes.2.1)
  pending owes := nomatch pending.symm.trans owes
  seen now := nomatch seen.symm.trans now
  blank _ _ frame mem own := by
    rw [k.frames] at mem
    rw [turn] at own
    -- No frame is of the new turn yet.
    have := h.frames frame mem
    omega
  tools blind := by
    rw [k.tools]
    exact h.tools (k.saw.symm.trans blind)
  later := k.frames ▸ h.later
  tips := k.frames ▸ h.tips

lemma Tracked.free (settled : s.turn ∈ s.settled) : s.finishSuppressedPending = false := by
  cases owes : s.finishSuppressedPending with
  | false => rfl
  | true => exact absurd settled (h.pending owes)

lemma Tracked.beginTurn (k : s.Kept s') (turn : s'.turn = s.turn)
    (pending : s'.finishSuppressedPending = s.finishSuppressedPending)
    (seen : s'.terminalResultSeen = false) : s'.beginTurn.Tracked := by
  rw [EventPump.beginTurn]
  split
  · rename_i settled
    rw [turn, k.settled] at settled
    have free := h.free settled
    exact h.newTurn free ⟨k.settled, k.suppressed, k.ended, k.frames, k.saw, k.tools⟩
      (congrArg (· + 1) turn) (pending.trans free) seen
  · exact h.kept k turn pending fun now => nomatch seen.symm.trans now

lemma Tracked.startTurn (free : s.finishSuppressedPending = false) :
    s.startTurn.beginTurn.Tracked :=
  h.beginTurn ⟨rfl, rfl, rfl, rfl, rfl, rfl⟩ rfl free.symm rfl

lemma Tracked.rearm : (s.rearm event).Tracked := by
  rw [EventPump.rearm]
  split
  · exact h.beginTurn ⟨rfl, rfl, rfl, rfl, rfl, rfl⟩ rfl rfl rfl
  · exact h

lemma Tracked.advance {turnGen : Nat}
    (free : s.lastSeenTurnGen < turnGen → s.finishSuppressedPending = false) :
    (s.advance turnGen).Tracked := by
  rw [EventPump.advance]
  split
  · rename_i newer
    exact h.newTurn (free newer) ⟨rfl, rfl, rfl, rfl, rfl, rfl⟩ rfl rfl rfl
  · exact h

end

lemma closeTools_extends (s : EventPump) (keepBackground : Bool) :
    ∃ closed, (∀ frame ∈ closed, Plain frame) ∧ s.Extends (s.closeTools keepBackground) closed ∧
      (keepBackground = true → (∀ tool ∈ s.openTools, tool.detachedExec = true) → closed = []) ∧
      ∀ tool ∈ (s.closeTools keepBackground).openTools, tool.detachedExec = true := by
  refine ⟨_, ?_, ⟨rfl, rfl, rfl, rfl⟩, ?_, ?_⟩
  · intro frame mem
    obtain ⟨tool, _, rfl⟩ := List.mem_map.mp mem
    exact ⟨rfl, rfl, nofun⟩
  · intro keep detached
    rw [List.map_eq_nil_iff, List.filter_eq_nil_iff]
    intro tool mem
    simp [keep, detached tool mem]
  · intro tool mem
    have kept := (List.mem_filter.mp mem).2
    exact ((Bool.and_eq_true _ _).mp kept).2

lemma forward_other (suppress : Bool) (tip : Option AgentStreamEvent) (other : frame ≠ .finish) :
    s.forward suppress tip frame =
      (if frame.isVisible then { s with sawVisibleOutput := true } else s).emit [frame] := by
  rw [forward]
  dsimp only
  rw [if_neg other]

lemma Tracked.output (h : s.Tracked) (frame : AgentStreamEvent) (plain : Plain frame)
    (tools : List OpenTool) (same : frame.isVisible = false → tools = s.openTools) :
    ({ s with openTools := tools }.forward false none frame).Tracked := by
  have other : frame ≠ .finish := by
    rintro rfl
    cases plain.terminal
  rw [forward_other false none other]
  have silent : ∀ f ∈ [frame], Plain f ∨ f = .segmentBreak ∧ s.turn ∉ s.settled := by
    intro f mem
    rw [List.mem_singleton.mp mem]
    exact .inl plain
  split
  · exact h.plain ⟨rfl, rfl, rfl, rfl⟩ rfl rfl h.seen silent nofun nofun
  · rename_i unseen
    have unseen := eq_false_of_ne_true unseen
    -- A frame that shows nothing leaves the flag as it is.
    refine h.plain ⟨rfl, rfl, rfl, rfl⟩ rfl rfl h.seen silent (fun blind _ => ⟨blind, ?_⟩) ?_
    · intro f mem
      rw [List.mem_singleton.mp mem]
      exact unseen
    · intro blind
      exact same unseen ▸ h.tools blind

lemma not_visible_of_terminal (h : frame.isTerminal = true) : frame.isVisible = false := by
  cases frame <;> simp_all [AgentStreamEvent.isTerminal, AgentStreamEvent.isVisible]

lemma Extends.emit (e : s.Extends s' new) (more : List AgentStreamEvent) :
    s.Extends (s'.emit more) (new ++ more) where
  turn := e.turn
  suppressed := e.suppressed
  ended := e.ended
  frames := by
    rw [List.map_append, ← List.append_assoc, ← e.frames, ← e.turn]
    rfl

lemma finishTurn_extends (s : EventPump) (keepBackground isTurnResult : Bool) :
    ∃ closed, (∀ frame ∈ closed, Plain frame) ∧
      s.Extends (s.finishTurn keepBackground isTurnResult) closed ∧
      (keepBackground = true → (∀ tool ∈ s.openTools, tool.detachedExec = true) → closed = []) ∧
      ∀ tool ∈ (s.finishTurn keepBackground isTurnResult).openTools, tool.detachedExec = true := by
  obtain ⟨closed, calls, e, empty, tools⟩ := closeTools_extends
    { s with finishSuppressedPending := false, status := some .finished } keepBackground
  exact ⟨closed, calls, ⟨e.turn, e.suppressed, e.ended, e.frames⟩, empty, tools⟩

lemma Tracked.swallowed (h : s.Tracked) (keepBackground isTurnResult : Bool)
    (tip : Option AgentStreamEvent) (settled : s.turn ∈ s.settled)
    (synthetic : s.syntheticFinishEmitted = true) :
    ((s.finishTurn keepBackground isTurnResult).forward false tip .finish).Tracked := by
  obtain ⟨closed, calls, e, _, tools⟩ := finishTurn_extends s keepBackground isTurnResult
  have same : (s.finishTurn keepBackground isTurnResult).forward false tip .finish =
      s.finishTurn keepBackground isTurnResult := if_pos synthetic
  rw [same]
  exact h.plain e (List.insert_of_mem settled) (h.free settled).symm (fun _ => settled)
    (fun frame mem => .inl (calls frame mem)) (fun _ open_ => absurd settled open_) fun _ => tools

lemma forward_terminal (tip : Option AgentStreamEvent) (terminal : frame.isTerminal = true)
    (sent : frame = .finish → s.syntheticFinishEmitted = false)
    (none_ : frame ≠ .finish → tip = none) :
    s.forward false tip frame = (s.emit tip.toList).emit [frame] := by
  have unseen := not_visible_of_terminal terminal
  by_cases finish : frame = .finish
  · subst finish
    have clear : ¬ s.syntheticFinishEmitted = true := by simp [sent rfl]
    exact if_neg clear
  · rw [forward_other false tip finish, unseen, none_ finish]
    simp [emit]

lemma Tracked.terminal (h : s.Tracked) (keepBackground isTurnResult : Bool)
    {tip : Option AgentStreamEvent} (terminal : frame.isTerminal = true)
    (open_ : s.turn ∉ s.settled) (sent : frame = .finish → s.syntheticFinishEmitted = false)
    (none_ : frame ≠ .finish → tip = none)
    (tips : ∀ t ∈ tip, t.isEmptyTurnTip = true ∧ s.sawVisibleOutput = false ∧
      keepBackground = true) :
    ((s.finishTurn keepBackground isTurnResult).forward false tip frame).Tracked := by
  obtain ⟨closed, calls, e, empty, tools⟩ := finishTurn_extends s keepBackground isTurnResult
  rw [forward_terminal (s := s.finishTurn keepBackground isTurnResult) tip terminal sent none_]
  have e := (e.emit tip.toList).emit [frame]
  rw [List.append_assoc] at e
  refine h.settles open_ ⟨calls, ?_, terminal⟩ e (List.insert_of_not_mem open_) rfl tools
  intro t mem
  obtain ⟨is_, blind, keep⟩ := tips t (Option.mem_toList.mp mem)
  exact ⟨is_, blind, empty keep (h.tools blind)⟩

lemma Tracked.pay (h : s.Tracked) (open_ : s.turn ∉ s.settled)
    (calls : ∀ frame ∈ closed, Plain frame) (e : s.Extends s' closed)
    (unfinished : s'.status ≠ some .finished) (settled : s'.settled = s.settled)
    (pending : s'.finishSuppressedPending = false)
    (tools : ∀ tool ∈ s'.openTools, tool.detachedExec = true) :
    s'.emitFinishOnce.settle.Tracked := by
  have paid : s'.emitFinishOnce = { s'.emit [.finish] with status := some .finished } :=
    if_neg unfinished
  have settles : s'.settled.insert s'.turn = s.turn :: s.settled := by
    rw [settled, e.turn]
    exact List.insert_of_not_mem open_
  rw [paid]
  have e := e.emit [.finish]
  have closing : s.Closing closed [] .finish := ⟨calls, nofun, rfl⟩
  exact h.settles open_ closing ⟨e.turn, e.suppressed, e.ended, e.frames⟩
    settles pending tools

lemma Tracked.settleOwed (h : s.Tracked) (owes : s.finishSuppressedPending = true)
    (unfinished : s.status ≠ some .finished) : s.settleOwed.Tracked := by
  obtain ⟨closed, calls, e, _, tools⟩ := closeTools_extends
    { s with
      finishSuppressedPending := false, syntheticFinishEmitted := true, terminalResultSeen := true }
    false
  exact h.pay (h.pending owes) calls ⟨e.turn, e.suppressed, e.ended, e.frames⟩ unfinished rfl rfl
    tools

lemma Tracked.owe (h : s.Tracked) (open_ : s.turn ∉ s.settled) (running : s.ended = false) :
    { s with finishSuppressedPending := true, suppressed := s.turn :: s.suppressed }.Tracked where
  frames := h.frames
  turns := h.turns
  terminals := h.terminals
  owed turn mem := by
    obtain rfl | mem := List.mem_cons.mp mem
    · exact .inr ⟨rfl, rfl, running⟩
    · exact (h.owed turn mem).imp_right fun owes => ⟨owes.1, rfl, running⟩
  pending _ := open_
  seen := h.seen
  blank := h.blank
  tools := h.tools
  later := h.later
  tips := h.tips

lemma Tracked.suppressed (h : s.Tracked) (running : s.ended = false)
    (orderly : s.turn ∈ s.settled ↔ s.syntheticFinishEmitted = true) :
    (s.forward true none .finish).Tracked := by
  by_cases synthetic : s.syntheticFinishEmitted = true
  · have same : s.forward true none .finish = s := if_pos synthetic
    rw [same]
    exact h
  · have open_ : s.turn ∉ s.settled := fun settled => synthetic (orderly.mp settled)
    have held : s.forward true none .finish = { (s.emit []).emit [.segmentBreak] with
        finishSuppressedPending := true, suppressed := s.turn :: s.suppressed } :=
      if_neg synthetic
    rw [held]
    have e : s.Extends s [] := ⟨rfl, rfl, rfl, (List.append_nil _).symm⟩
    have broken : ((s.emit []).emit [.segmentBreak]).Tracked := by
      refine h.plain ((e.emit []).emit [.segmentBreak]) rfl rfl h.seen ?_ ?_ h.tools
      · intro frame mem
        exact .inr ⟨List.mem_singleton.mp mem, open_⟩
      · intro blind _
        refine ⟨blind, fun frame mem => ?_⟩
        rw [List.mem_singleton.mp mem]
        rfl
    exact broken.owe open_ running

lemma Tracked.updateSubagent (h : s.Tracked) {ref : String} {status : Session.SubagentStatus}
    (kind : Option SubagentTaskKind)
    (orderly : s.OrderlyEvent trim (.subagentUpdate ref status kind)) :
    (s.updateSubagent ref status kind).Tracked := by
  have roster : ∀ workflowInflight, { s with workflowInflight }.Tracked := fun _ =>
    h.kept ⟨rfl, rfl, rfl, rfl, rfl, rfl⟩ rfl rfl id
  rw [EventPump.updateSubagent]
  split
  · rename_i terminal
    dsimp only
    split
    · rename_i drained
      obtain ⟨empty, owes, killed⟩ := drained
      exact (roster _).settleOwed owes (orderly terminal killed owes empty)
    · exact roster _
  · split
    · exact roster _
    · exact h

lemma translateEvent_turnResult (trim : String → String) (isError : Bool) (resultText : String)
    (outcome : Session.TurnOutcome) :
    ∃ frame, (∀ seen, translateEvent trim seen (.turnResult isError resultText outcome) =
      some frame) ∧ frame.isTerminal = true ∧ (isError = false → frame = .finish) := by
  by_cases error : (isError && !isCancelled outcome && trim resultText ≠ "") = true
  · refine ⟨.error, fun _ => if_pos error, rfl, ?_⟩
    rintro rfl
    cases error
  · exact ⟨.finish, fun _ => if_neg error, rfl, fun _ => rfl⟩

lemma translateEvent_detached (trim : String → String) (seen : Bool)
    (exit : Option Session.ExitStatusLite) :
    ∃ frame, translateEvent trim seen (.detached exit) = some frame ∧ frame.isTerminal = true := by
  rw [translateEvent]
  cases Session.crashOutcome seen exit with
  | crashed => exact ⟨_, rfl, rfl⟩
  | cleanNoResult | followResult => exact ⟨_, rfl, rfl⟩

lemma isTip_of_emptyTurnTip {outcome : Session.TurnOutcome} (h : emptyTurnTip outcome = some frame) :
    frame.isEmptyTurnTip = true ∧ isCancelled outcome = false := by
  unfold emptyTurnTip at h
  split at h <;> cases h <;> exact ⟨rfl, rfl⟩

lemma Tracked.ends (h : s.Tracked) (keepBackground isTurnResult : Bool)
    {tip : Option AgentStreamEvent} (terminal : frame.isTerminal = true)
    (orderly : s.turn ∈ s.settled ↔ s.syntheticFinishEmitted = true ∧ frame = .finish)
    (tips : ∀ t ∈ tip, t.isEmptyTurnTip = true ∧ s.sawVisibleOutput = false ∧
      keepBackground = true ∧ frame = .finish) :
    ((s.finishTurn keepBackground isTurnResult).forward false tip frame).Tracked := by
  by_cases settled : s.turn ∈ s.settled
  · obtain ⟨synthetic, rfl⟩ := orderly.mp settled
    exact h.swallowed keepBackground isTurnResult tip settled synthetic
  · refine h.terminal keepBackground isTurnResult terminal settled ?_ ?_ ?_
    · intro finish
      exact eq_false_of_ne_true fun synthetic => settled (orderly.mpr ⟨synthetic, finish⟩)
    · intro other
      exact Option.eq_none_iff_forall_not_mem.mpr fun t mem => other (tips t mem).2.2.2
    · exact fun t mem => ⟨(tips t mem).1, (tips t mem).2.1, (tips t mem).2.2.1⟩

lemma Tracked.turnResult (h : s.Tracked) (running : s.ended = false) (isError : Bool)
    (resultText : String) (outcome : Session.TurnOutcome)
    (orderly : s.turn ∈ s.settled ↔ s.Swallows trim (.turnResult isError resultText outcome)) :
    (s.handle trim (.turnResult isError resultText outcome)).Tracked := by
  cases suppress : s.suppresses (.turnResult isError resultText outcome) with
  | true =>
    -- Only a clean result is held back, and it is translated into a finish.
    have clean : isError = false := by
      cases isError with
      | false => rfl
      | true => simp [suppresses, SessionEvent.isClean] at suppress
    subst clean
    have handled : s.handle trim (.turnResult false resultText outcome) =
        s.forward true none .finish := by
      simp [EventPump.handle, updateRoster, updateStatus, pendingEmptyTurnTip, suppress,
        translateEvent]
    rw [handled]
    apply h.suppressed running
    rw [orderly, Swallows]
    simp [translateEvent]
  | false =>
    obtain ⟨frame, translated, terminal, clean⟩ :=
      translateEvent_turnResult trim isError resultText outcome
    rw [Swallows, translated, Option.some_inj] at orderly
    have handled : s.handle trim (.turnResult isError resultText outcome) =
        (s.finishTurn (SessionEvent.turnResult isError resultText outcome).isClean true).forward
          false (s.pendingEmptyTurnTip (.turnResult isError resultText outcome)) frame := by
      simp [EventPump.handle, updateRoster, updateStatus, suppress, translated]
    rw [handled]
    refine h.ends _ _ terminal orderly ?_
    intro t mem
    cases isError with
    | true => cases mem
    | false =>
      have mem : s.pendingEmptyTurnTip _ = some t := mem
      rw [pendingEmptyTurnTip, suppress, Bool.false_or] at mem
      cases blind : s.sawVisibleOutput with
      | true => simp [blind] at mem
      | false =>
        have told : emptyTurnTip outcome = some t := by simpa [blind] using mem
        -- A turn with a tip was not cancelled, so its detached calls are kept open.
        obtain ⟨is_, uncancelled⟩ := isTip_of_emptyTurnTip told
        exact ⟨is_, rfl, by simp [SessionEvent.isClean, uncancelled], clean rfl⟩

lemma Tracked.detached (h : s.Tracked) (exit : Option Session.ExitStatusLite)
    (orderly : s.turn ∈ s.settled ↔ s.Swallows trim (.detached exit)) :
    (s.handle trim (.detached exit)).Tracked := by
  obtain ⟨frame, translated, terminal⟩ :=
    translateEvent_detached trim s.terminalResultSeen exit
  rw [Swallows, translated, Option.some_inj] at orderly
  have handled : s.handle trim (.detached exit) =
      (s.finishTurn false false).forward false none frame := by
    have seen : (s.finishTurn false false).terminalResultSeen = s.terminalResultSeen :=
      Bool.or_false _
    simp [EventPump.handle, updateRoster, updateStatus, pendingEmptyTurnTip, suppresses,
      SessionEvent.isClean, seen, translated]
  rw [handled]
  exact h.ends false false terminal orderly nofun

lemma Tracked.handle (h : s.Tracked) (running : s.ended = false)
    (fresh : event.isTurnResult = true → s.terminalResultSeen = false)
    (orderly : s.OrderlyEvent trim event) : (s.handle trim event).Tracked := by
  cases event with
  | turnStarted => exact h.startTurn orderly
  | messageDelta text =>
    exact h.output (.text text) ⟨rfl, rfl, by simp⟩ s.openTools fun _ => rfl
  | thoughtDelta text =>
    exact h.output (.thinking text) ⟨rfl, rfl, by simp⟩ s.openTools fun _ => rfl
  | toolCall toolUseId detachedExec =>
    exact h.output (.toolCall toolUseId .running) ⟨rfl, rfl, by simp⟩ _ fun hidden => by
      cases hidden
  | toolResult toolUseId isError =>
    exact h.output (.toolCall toolUseId _) ⟨rfl, rfl, by simp⟩ _ fun hidden => by cases hidden
  | turnResult isError resultText outcome =>
    exact h.turnResult running isError resultText outcome (orderly (fresh rfl))
  | detached exit => exact h.detached exit orderly
  | plan => exact h.output .plan ⟨rfl, rfl, by simp⟩ s.openTools fun _ => rfl
  | permission => exact h.output .acpPermission ⟨rfl, rfl, by simp⟩ s.openTools fun _ => rfl
  | ask => exact h.output .ask ⟨rfl, rfl, by simp⟩ s.openTools fun _ => rfl
  | notice tipType code =>
    exact h.output (.tips tipType code) ⟨rfl, rfl, by simp⟩ s.openTools fun _ => rfl
  | subagentUpdate ref status kind => exact h.updateSubagent kind orderly
  | toolOutputDelta | other => exact h

lemma orderlyEvent_rearm (orderly : s.OrderlyEvent trim event) :
    (s.rearm event).OrderlyEvent trim event := by
  cases event with
  | messageDelta | thoughtDelta | toolCall | toolResult | permission | ask => trivial
  | _ => exact orderly

lemma rearm_turnResult (h : event.isTurnResult = true) : s.rearm event = s := by
  cases event <;> first | rfl | cases h

lemma rearm_ended (s : EventPump) (event : SessionEvent) : (s.rearm event).ended = s.ended := by
  rw [EventPump.rearm, EventPump.beginTurn]
  split
  · split <;> rfl
  · rfl

lemma advance_ended (s : EventPump) (turnGen : Nat) : (s.advance turnGen).ended = s.ended := by
  rw [EventPump.advance]
  split <;> rfl

lemma Tracked.process (h : s.Tracked) (running : s.ended = false) {env : SessionEnvelope}
    (orderly : s.Orderly trim (.envelope env)) : (s.process trim env).Tracked := by
  obtain ⟨turnGen, event⟩ := env
  obtain ⟨free, orderly⟩ := orderly running
  have h := h.advance free
  rw [EventPump.process]
  dsimp only
  split
  · -- A duplicate is swallowed whole.
    exact h
  · rename_i first
    have runs : ((s.advance turnGen).rearm event).ended = false := by
      rw [rearm_ended, advance_ended, running]
    have fresh : event.isTurnResult = true →
        ((s.advance turnGen).rearm event).terminalResultSeen = false := by
      intro result
      rw [rearm_turnResult result]
      exact eq_false_of_ne_true fun seen => first ⟨seen, result⟩
    have handled := h.rearm.handle runs fresh (orderlyEvent_rearm orderly)
    cases event with
    | toolOutputDelta itemId =>
      exact h.rearm.output (.toolCall itemId .running) ⟨rfl, rfl, by simp⟩ _ fun _ => rfl
    | _ => exact handled

lemma Tracked.close (h : s.Tracked) (free : s.finishSuppressedPending = false) :
    { s with ended := true }.Tracked where
  frames := h.frames
  turns := h.turns
  terminals := h.terminals
  owed turn mem :=
    .inl ((h.owed turn mem).resolve_right fun owes => by simp [free] at owes)
  pending := h.pending
  seen := h.seen
  blank := h.blank
  tools := h.tools
  later := h.later
  tips := h.tips

lemma Tracked.next (h : s.Tracked) {event : Event} (orderly : s.Orderly trim event) :
    (s.next trim event).Tracked := by
  cases event with
  | envelope env =>
    rw [EventPump.next]
    split
    · exact h
    · rename_i running
      exact h.process (eq_false_of_ne_true running) orderly
  | close => exact h.close orderly

lemma Tracked.start : start.Tracked where
  frames _ mem := nomatch mem
  turns _ mem := nomatch mem
  terminals _ := rfl
  owed _ mem := nomatch mem
  pending owes := nomatch owes
  seen now := nomatch now
  blank _ _ _ mem := nomatch mem
  tools _ _ mem := nomatch mem
  later := .nil
  tips := .nil

lemma owing_advance {turnGen : Nat} (owing : (s.advance turnGen).Owing) : s.Owing := by
  rw [EventPump.advance] at owing
  split at owing
  · cases owing.1
  · exact owing

lemma owing_rearm (owing : (s.rearm event).Owing) : s.Owing := by
  rw [EventPump.rearm, EventPump.beginTurn] at owing
  split at owing
  · split at owing <;> exact owing
  · exact owing

/-- A kill that drains the roster pays. -/
lemma owing_updateRoster (owing : (s.updateRoster event).Owing) :
    s.Owing ∨ ∃ ref kind, event = .subagentUpdate ref .completed kind := by
  cases event with
  | subagentUpdate ref status kind =>
    rw [updateRoster, EventPump.updateSubagent] at owing
    split at owing
    · by_cases completed : status = .completed
      · exact .inr ⟨ref, kind, by rw [completed]⟩
      · dsimp only at owing
        split at owing
        · rw [EventPump.settleOwed, emitFinishOnce] at owing
          split at owing <;> cases owing.1
        · rename_i live
          exact absurd ⟨owing.2, owing.1, completed⟩ live
    · split at owing
      · exact absurd owing.2 (List.ne_nil_of_mem List.mem_insert_self)
      · exact .inl owing
  | _ => exact .inl owing

lemma owing_updateStatus (owing : (s.updateStatus event).Owing) : s.Owing := by
  cases event with
  | turnStarted =>
    rw [EventPump.updateStatus, EventPump.beginTurn] at owing
    split at owing <;> cases owing.1
  | turnResult =>
    rw [EventPump.updateStatus] at owing
    split at owing
    · exact owing
    · cases owing.1
  | detached => cases owing.1
  | _ => exact owing

/-- Only a result that is held back for a live container makes a debt. -/
lemma owing_forward {suppress : Bool} {tip : Option AgentStreamEvent} (live : suppress = true →
    s.workflowInflight ≠ []) (owing : (s.forward suppress tip frame).Owing) : s.Owing := by
  rw [forward] at owing
  cases suppress with
  | true =>
    refine absurd ?_ (live rfl)
    have drained := owing.2
    dsimp only at drained
    split_ifs at drained <;> exact drained
  | false =>
    dsimp only at owing
    split_ifs at owing <;> first | exact owing | contradiction

lemma owing_handle (owing : (s.handle trim event).Owing) : (s.updateRoster event).Owing := by
  rw [EventPump.handle] at owing
  refine owing_updateStatus (?_ : ((s.updateRoster event).updateStatus event).Owing)
  generalize translateEvent trim _ event = frame at owing
  cases frame with
  | none => exact owing
  | some frame =>
    refine owing_forward (fun suppress => ?_) owing
    cases event with
    | turnResult =>
      rw [EventPump.updateStatus, if_pos suppress]
      rw [suppresses, Bool.and_eq_true] at suppress
      simpa using suppress.1
    | _ => simp [suppresses, SessionEvent.isClean] at suppress

lemma drainPays (trim : String → String) (s : EventPump) (event : Event) : s.DrainPays trim event := by
  intro owing
  cases event with
  | close => exact .inl owing
  | envelope env =>
    obtain ⟨turnGen, event⟩ := env
    rw [EventPump.next] at owing
    split at owing
    · exact .inl owing
    · rw [EventPump.process] at owing
      dsimp only at owing
      split at owing
      · exact .inl (owing_advance owing)
      · have roster : (((s.advance turnGen).rearm event).updateRoster event).Owing := by
          cases event with
          | toolOutputDelta itemId => exact owing
          | _ => exact owing_handle owing
        rcases owing_updateRoster roster with owing | ⟨ref, kind, rfl⟩
        · exact .inl (owing_advance (owing_rearm owing))
        · exact .inr ⟨turnGen, ref, kind, rfl⟩

/-- The terminal law holds in every run in which each terminal comes in its own turn; and what drains the
roster pays what is owed, unless it is a container that completes by itself. -/
theorem terminal_law (trim : String → String) (events : List Event)
    (orderly : LTS.EnabledAll (Orderly trim) (next trim) start events) :
    LTS.Throughout (next trim) TerminalLaw start events ∧ ∀ s event, DrainPays trim s event := by
  refine ⟨LTS.throughout_iff.mpr ⟨Tracked.start.terminalLaw, ?_⟩, drainPays trim⟩
  refine orderly.imp (Q := Tracked) (fun s event h holds => ?_) .start
  exact ⟨(h.next holds).terminalLaw, h.next holds⟩

/-- A workflow that completes, a duplicate of its result, a turn that the agent starts by itself,
and a workflow that is killed. -/
theorem terminal_law_workflows :
    let envelope (turnGen : Nat) (event : SessionEvent) := Event.envelope { turnGen, event }
    let result := SessionEvent.turnResult false "" .endTurn
    LTS.Throughout (next id) TerminalLaw start
      [envelope 1 (.subagentUpdate "w" .running (some .workflowContainer)),
        envelope 1 (.messageDelta "a"), envelope 1 result,
        envelope 1 (.subagentUpdate "w" .completed none), envelope 1 (.messageDelta "b"),
        envelope 1 result, envelope 1 result, envelope 1 (.messageDelta "c"), envelope 1 result,
        envelope 2 (.subagentUpdate "v" .running (some .workflowContainer)), envelope 2 result,
        envelope 2 (.subagentUpdate "v" .interrupted none), envelope 2 result, .close] ∧
      ∀ s event, DrainPays id s event := by
  intro envelope result
  exact terminal_law _ _ (by decide)

/-- The agent starts a turn by itself after the pump has made a finish, and the finish of that turn
is swallowed. -/
theorem finish_swallowed :
    let envelope (event : SessionEvent) := Event.envelope { turnGen := 1, event }
    let result := SessionEvent.turnResult false "" .endTurn
    ¬ LTS.Throughout (next id) TerminalLaw start
      [envelope (.subagentUpdate "w" .running (some .workflowContainer)),
        envelope (.messageDelta "a"), envelope result,
        envelope (.subagentUpdate "w" .interrupted none), envelope (.messageDelta "b"),
        envelope result] := by
  intro envelope result h
  exact absurd (h.last.kept 2 (by decide)) (by decide)

end EventPump

end KiCore.Agent

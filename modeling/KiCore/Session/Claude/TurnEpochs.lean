import KiCore.Session.TurnLane
import KiCore.Session.Claude.Adapter

/-!
# The epochs of turns

Port of the turn counter of `claude_conn.rs`. `dispatch` bumps it after it has written the prompt; the
reader loads it once a batch, and locks the epoch of a wire turn when it reads the init frame.
`settles_own_turn` says on which runs every result ends the turn of the prompt that its wire turn has
consumed. Left out are the sniffers, the flag for the idle timer, the capability check, the failures of
the write and the end of the process.
-/

namespace KiCore.Session.Claude

open KiCore.Lib

/-- A backend and the lane of its session. -/
structure TurnRun where
  lane : TurnLane
  /-- how many prompts the CLI has taken off its queue -/
  taken : Nat
  /-- the prompt that the last wire turn has consumed -/
  turn : Option Nat
  parser : ClaudeAdapter
  turnOpenEpoch : Nat

def TurnRun.start (sessionId : String) : TurnRun where
  lane := .start sessionId
  taken := 0
  turn := none
  parser := .new
  turnOpenEpoch := 0

def Frame.isInit : Frame → Bool
  | .system "init" _ => true
  | _ => false

namespace TurnRun

variable (curGen : Nat)

def openTurn (s : TurnRun) : TurnRun :=
  { s with turn := some s.taken, taken := s.taken + 1, turnOpenEpoch := curGen }

/-- The turn that an event of the reader is stamped with. -/
def envGen (s : TurnRun) (e : SessionEvent) : Nat :=
  if isTurnResult e ∧ s.turnOpenEpoch ≠ 0 then s.turnOpenEpoch else curGen

/-- What the reader makes of an event of the adapter. -/
def entry (s : TurnRun) (e : AdapterEvent) : LaneEntry :=
  (s.turn, ⟨s.lane.sessionId, s.envGen curGen e.session, e.session⟩)

variable (s : TurnRun)

def produces (f : Frame) : Bool :=
  (s.parser.parseValue f).2.any fun e => isTurnResult e.session

/-- The reader passes on what the adapter makes of a frame. -/
def emit (s : TurnRun) (f : Frame) : TurnRun :=
  let (parser, events) := s.parser.parseValue f
  { s with
    parser
    lane := s.lane.post (events.map (s.entry curGen)) (if s.produces f then s.turn.toList else []) }

def readFrame (s : TurnRun) (f : Frame) : TurnRun :=
  (if f.isInit then s.openTurn curGen else s).emit curGen f

inductive Event where
  /-- a `Send` writes its prompt -/
  | write
  | bump (k : Nat)
  | lower (k : Nat)
  | cancel
  /-- the CLI takes a prompt without a wire turn of its own: it drops it after an interrupt, or adds
  it to the turn in flight -/
  | skip
  /-- the reader processes a batch of frames -/
  | read (frames : List Frame)
  | fold

def next : Event → TurnRun
  | .write => { s with lane := s.lane.write }
  | .bump k => { s with lane := s.lane.bump k }
  | .lower k => { s with lane := s.lane.lower k }
  | .cancel => { s with lane := s.lane.cancel }
  | .skip => { s with taken := s.taken + 1 }
  | .read frames => frames.foldl (readFrame s.lane.turnGen) s
  | .fold => { s with lane := s.lane.fold }

/-- The prompt whose wire turn has produced the result that the event folds. -/
def settled (s : TurnRun) : Event → Option Nat
  | .fold => s.lane.settled
  | _ => none

/-- What an event must keep. -/
structure Lawful (s : TurnRun) (e : Event) : Prop where
  /-- the result of a wire turn ends the turn of its prompt -/
  settles : ∀ k, s.settled e = some k → s.lane.RunsFor k → runningSince (s.next e).lane.state = none
  /-- the result of a wire turn does not end the turn of a later prompt -/
  spares : ∀ k j, s.settled e = some k → k < j → s.lane.RunsFor j → (s.next e).lane.RunsFor j
  done : (s.next e).lane.Quiescent → runningSince (s.next e).lane.state = none

/-- A wire turn consumes a prompt that is on the queue, and a result is of a wire turn. -/
def FramePossible (f : Frame) : Prop :=
  (f.isInit → s.taken < s.lane.prompts.length) ∧ (s.produces f → s.turn.isSome)

instance (f : Frame) : Decidable (s.FramePossible f) := inferInstanceAs (Decidable (_ ∧ _))

/-- A dispatch takes its stages in order, and the CLI sends what it can send. -/
def Possible : Event → Prop
  | .bump k => s.lane.CanBump k
  | .lower k => s.lane.CanLower k
  | .skip => s.taken < s.lane.prompts.length
  | .read frames => LTS.EnabledAll FramePossible (readFrame s.lane.turnGen) s frames
  | _ => True

instance : ∀ e, Decidable (s.Possible e)
  | .read _ => inferInstanceAs (Decidable (LTS.EnabledAll _ _ _ _))
  | .bump k => inferInstanceAs (Decidable (s.lane.CanBump k))
  | .lower k => inferInstanceAs (Decidable (s.lane.CanLower k))
  | .skip => inferInstanceAs (Decidable (_ < _))
  | .write | .cancel | .fold => isTrue trivial

/-- The counter that a wire turn goes by is the epoch of its prompt: the counter at its init frame, or,
if nothing had been sent then, at its result. A counter at 0 leaves the result unstamped. -/
def InTime (s : TurnRun) (f : Frame) : Prop :=
  curGen ≠ 0 → (f.isInit → s.lane.epoch s.taken = some curGen) ∧
    (s.produces f → s.turnOpenEpoch = 0 → ∀ k ∈ s.turn, s.lane.epoch k = some curGen)

instance (s : TurnRun) (f : Frame) : Decidable (s.InTime curGen f) :=
  inferInstanceAs (Decidable (_ → _ ∧ _))

/-- The event of the reader that the fold takes next is not stamped. -/
def unstamped : Bool := s.lane.head.any fun entry => entry.2.turnGen = 0

/-- The condition under which the backend keeps the law: sends bump the counter in the order in which
they write; wire turns go by the epoch of their prompt; a turn is started before the results of its
wire turn have been folded; and a result without a stamp does not meet the turn of a later prompt. -/
def Heeded : Event → Prop
  | .bump k => s.lane.InOrder k
  | .lower k => k ∈ s.lane.answered → s.lane.Awaits k
  | .read frames => LTS.EnabledAll (InTime s.lane.turnGen) (readFrame s.lane.turnGen) s frames
  | .fold => s.unstamped → ∀ k ∈ s.lane.settled, ∀ j < s.lane.prompts.length, k < j → ¬ s.lane.RunsFor j
  | _ => True

instance : ∀ e, Decidable (s.Heeded e)
  | .bump k => inferInstanceAs (Decidable (s.lane.InOrder k))
  | .lower _ => inferInstanceAs (Decidable (_ → _))
  | .read _ => inferInstanceAs (Decidable (LTS.EnabledAll _ _ _ _))
  | .fold => inferInstanceAs (Decidable (_ → ∀ k ∈ s.lane.settled, ∀ j < _, _ → _))
  | .write | .cancel | .skip => isTrue trivial

variable {s t : TurnRun} {e : Event} {k curGen : Nat} {f : Frame}

/-- The invariant of the runs that heed the condition. -/
structure Tracked (s : TurnRun) : Prop where
  lane : s.lane.Tracked
  opened : ∀ k, s.turn = some k → s.turnOpenEpoch = k + 1 ∨ s.turnOpenEpoch = 0

lemma tracked_start {sessionId : String} : Tracked (.start sessionId) where
  lane := TurnLane.tracked_start
  opened := nofun

lemma Tracked.openTurn (h : Tracked s) (inTime : curGen ≠ 0 → s.lane.epoch s.taken = some curGen) :
    Tracked (s.openTurn curGen) where
  lane := h.lane
  opened k turn := by
    cases turn
    by_cases zero : curGen = 0
    · exact .inr zero
    · exact .inl (h.lane.epoch (inTime zero))

lemma fromReader_parseValue {e : AdapterEvent} (mem : e ∈ (s.parser.parseValue f).2) :
    TurnLane.fromReader e.session := by
  have channel : ClaudeAdapter.dataEvent e.session ∨ ClaudeAdapter.requestEvent e.session := by
    cases channel : ClaudeAdapter.control f with
    | false => exact .inl (ClaudeAdapter.parseValue_data channel e mem)
    | true => exact ClaudeAdapter.parseValue_control channel e mem
  rcases channel with data | request
  · cases event : e.session <;> rw [event] at data <;> first | exact data | rfl
  · cases event : e.session <;> rw [event] at request <;> first | rfl | cases request

lemma Tracked.entry (h : Tracked s) (result : s.produces f → s.turn.isSome)
    (inTime : curGen ≠ 0 → s.produces f → s.turnOpenEpoch = 0 →
      ∀ k ∈ s.turn, s.lane.epoch k = some curGen)
    {e : AdapterEvent} (mem : e ∈ (s.parser.parseValue f).2) : TurnLane.Stamped (s.entry curGen e) where
  read := fromReader_parseValue mem
  result terminal := by
    have terminal : isTurnResult e.session := terminal
    have produces : s.produces f := List.any_eq_true.mpr ⟨e, mem, terminal⟩
    obtain ⟨k, turn⟩ := Option.isSome_iff_exists.mp (result produces)
    refine ⟨k, turn, ?_⟩
    rw [TurnRun.entry]
    by_cases opened : s.turnOpenEpoch = 0
    · have gen : s.envGen curGen e.session = curGen := by simp [envGen, opened]
      rw [gen]
      by_cases zero : curGen = 0
      · exact .inr zero
      · exact .inl (h.lane.epoch (inTime zero produces opened k turn))
    · have gen : s.envGen curGen e.session = s.turnOpenEpoch := by simp [envGen, opened, terminal]
      rw [gen]
      exact h.opened k turn

lemma Tracked.emit (h : Tracked s) (result : s.produces f → s.turn.isSome)
    (inTime : curGen ≠ 0 → s.produces f → s.turnOpenEpoch = 0 →
      ∀ k ∈ s.turn, s.lane.epoch k = some curGen) : Tracked (s.emit curGen f) where
  lane := by
    refine h.lane.post ?_ ?_
    · intro entry mem
      obtain ⟨e, emits, rfl⟩ := List.mem_map.mp mem
      exact h.entry result inTime emits
    · intro k mem _
      split at mem
      case isTrue produces =>
        -- the result is among the events of the frame
        obtain ⟨e, emits, terminal⟩ := List.any_eq_true.mp produces
        exact ⟨_, List.mem_map_of_mem emits, .inl ⟨Option.mem_toList.mp mem, terminal⟩⟩
      case isFalse => cases mem
  opened := h.opened

lemma Tracked.readFrame (h : Tracked s) (possible : s.FramePossible f) (inTime : s.InTime curGen f) :
    Tracked (s.readFrame curGen f) := by
  obtain ⟨-, result⟩ := possible
  by_cases init : f.isInit
  · have opened := h.openTurn fun ne => (inTime ne).1 init
    have silent : ¬ (s.openTurn curGen).produces f := by
      unfold Frame.isInit at init
      split at init
      · exact nofun
      · cases init
    rw [TurnRun.readFrame, if_pos init]
    exact opened.emit (fun produces => absurd produces silent)
      fun _ produces => absurd produces silent
  · rw [TurnRun.readFrame, if_neg init]
    exact h.emit result fun ne => (inTime ne).2

lemma Tracked.read {frames : List Frame} (h : Tracked s)
    (possible : LTS.EnabledAll FramePossible (TurnRun.readFrame curGen) s frames)
    (inTime : LTS.EnabledAll (InTime curGen) (TurnRun.readFrame curGen) s frames) :
    Tracked (frames.foldl (TurnRun.readFrame curGen) s) := by
  induction frames generalizing s with
  | nil => exact h
  | cons f frames ih => exact ih (h.readFrame possible.1 inTime.1) possible.2 inTime.2

lemma Tracked.next (h : Tracked s) (possible : s.Possible e) (heeded : s.Heeded e) :
    Tracked (s.next e) := by
  cases e with
  | write => exact ⟨h.lane.write, h.opened⟩
  | bump k => exact ⟨h.lane.bump possible heeded, h.opened⟩
  | lower k => exact ⟨h.lane.lower possible heeded, h.opened⟩
  | cancel => exact ⟨h.lane.cancel, h.opened⟩
  | skip => exact ⟨h.lane, h.opened⟩
  | read frames => exact h.read possible heeded
  | fold => exact ⟨h.lane.fold, h.opened⟩

lemma Tracked.settled (h : Tracked s) (settled : s.settled e = some k) :
    ∃ env, e = .fold ∧ s.lane.head = some (some k, env) ∧ isTurnResult env.event ∧
      TurnLane.Stamped (some k, env) ∧ (s.next e).lane.state = foldEnvelope s.lane.state env ∧
      (s.next e).lane.prompts = s.lane.prompts := by
  cases e with
  | fold =>
    obtain ⟨env, head, result⟩ := TurnLane.settled_eq_some settled
    obtain ⟨rest, -, events, next⟩ := TurnLane.fold_head head
    refine ⟨env, rfl, head, result, h.lane.stamped _ (events ▸ .head _), ?_, ?_⟩
    · simp only [TurnRun.next, next]
    · simp only [TurnRun.next, next]
  | _ => cases settled

lemma Tracked.lawful (h : Tracked s) (possible : s.Possible e) (heeded : s.Heeded e) :
    s.Lawful e where
  settles k settled runs := by
    obtain ⟨env, rfl, -, result, stamped, next, -⟩ := h.settled settled
    have running := h.lane.runsFor_iff.mp runs
    rw [next]
    cases after : runningSince (foldEnvelope s.lane.state env) with
    | none => rfl
    | some m =>
      cases Option.some.inj ((stamped.running after).symm.trans running)
      exact absurd after (stamped.ends h.lane.unseen (.inl ⟨rfl, result⟩))
  spares k j settled less runs := by
    obtain ⟨env, rfl, head, result, stamped, next, prompts⟩ := h.settled settled
    have running := h.lane.runsFor_iff.mp runs
    have epoch : s.lane.epoch j = some (j + 1) := runs.2.symm.trans running
    have length : j < s.lane.prompts.length := by
      obtain ⟨p, prompt, -⟩ := Option.bind_eq_some_iff.mp epoch
      exact (List.getElem?_eq_some_iff.mp prompt).1
    have gen : env.turnGen = k + 1 := by
      obtain ⟨k', same, gen | zero⟩ := stamped.result result
      · cases same
        exact gen
      · have unstamped : s.unstamped := by
          rw [TurnRun.unstamped, head]
          exact decide_eq_true zero
        exact absurd runs (heeded unstamped k settled j length less)
    have kept : (runningSince s.lane.state).filter
        (fun since => env.turnGen ≠ 0 ∧ env.turnGen < since) = some (j + 1) := by
      rw [running, gen]
      simp [Option.filter, less]
    refine ⟨?_, ?_⟩
    · rw [TurnLane.epoch, prompts]
      exact runs.1
    · rw [next, TurnLane.epoch, prompts]
      exact ((stamped.fold result).trans kept).trans epoch.symm
  done := (h.next possible heeded).lane.quiescent

/-- On every run in which sends bump the counter in the order in which they write, wire turns go by the
epoch of their prompt and turns are started before their results have been folded, the result of a
wire turn ends the turn of the prompt it has consumed, and no later one. -/
theorem settles_own_turn (sessionId : String) (events : List Event)
    (h : LTS.EnabledAll (fun s e => s.Possible e ∧ s.Heeded e) next (start sessionId) events) :
    LTS.EnabledAll Lawful next (start sessionId) events :=
  h.imp (Q := Tracked) (fun _ _ inv ⟨possible, heeded⟩ =>
    ⟨inv.lawful possible heeded, inv.next possible heeded⟩) tracked_start

def reply (text : String) : Frame :=
  .result {
    isError := false, apiErrorStatus := none, result := some text, errors := [], subtype := "success"
    reasons := { terminalReason := none, stopReason := none }, usage := none, modelUsage := [] }

/-- A proactive send: the result of the first wire turn meets the turn of the second prompt. -/
theorem settles_own_turn_proactive :
    LTS.EnabledAll Lawful next (start "s")
      [ .write, .bump 0, .lower 0, .fold, .read [.system "init" none], .write, .bump 1, .lower 1,
        .fold, .read [reply "one"], .fold, .read [.system "init" none, reply "two"], .fold ] :=
  settles_own_turn "s" _ (by decide)

/-- The reply to the second prompt is read before the counter is bumped for it: the session runs the
turn of that prompt for ever. -/
theorem overtaken_by_reply :
    ¬ ∀ sessionId events, LTS.EnabledAll Possible next (start sessionId) events →
      LTS.EnabledAll Lawful next (start sessionId) events := by
  intro h
  obtain ⟨-, -, -, -, -, -, -, -, -, -, -, -, lawful, -⟩ := h "s"
    [ .write, .bump 0, .lower 0, .fold, .read [.system "init" none, reply "one"], .fold,
      .write, .read [.system "init" none], .bump 1, .lower 1, .read [reply "two"], .fold, .fold ]
    (by decide)
  have ended := lawful.settles 1 (by decide) (by decide)
  revert ended
  decide

end TurnRun

end KiCore.Session.Claude

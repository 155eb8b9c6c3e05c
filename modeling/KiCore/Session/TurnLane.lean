import KiCore.Lib.Transition
import KiCore.Session.Orchestrator

/-!
# The lane of a session's turns

What the backends share around their turn counter: a `Send` writes its prompt and then bumps the
counter; the orchestrator lowers a `TurnStarted` with the epoch of the receipt; the reader posts its
events with the turn it takes them to be of; and the run loop folds what has been lowered before it
takes an event of the reader. Prompts are numbered as they are written, and an event of the reader
carries, beside its envelope, the prompt that its turn is about.
-/

namespace KiCore.Session

inductive Prompt where
  | written
  /-- the counter has been bumped: the epoch of the receipt -/
  | accepted (epoch : Nat)
  /-- the `TurnStarted` has been lowered -/
  | started (epoch : Nat)
  deriving DecidableEq

def Prompt.epoch : Prompt → Option Nat
  | .written => none
  | .accepted epoch | .started epoch => some epoch

def Prompt.isStarted : Prompt → Bool
  | .started _ => true
  | _ => false

def isTurnResult : SessionEvent → Bool
  | .turnResult _ _ _ _ _ => true
  | _ => false

def isDetached : SessionEvent → Bool
  | .detached _ _ => true
  | _ => false

abbrev LaneEntry : Type := Option Nat × SessionEnvelope

/-- The event ends the turn of a prompt: it is the result of it, or the end of the process. -/
def LaneEntry.Ends (entry : LaneEntry) (k : Nat) : Prop :=
  entry.1 = some k ∧ isTurnResult entry.2.event ∨ isDetached entry.2.event

instance (entry : LaneEntry) (k : Nat) : Decidable (entry.Ends k) := inferInstanceAs (Decidable (_ ∨ _))

structure TurnLane where
  sessionId : String
  turnGen : Nat
  prompts : List Prompt
  /-- the prompts whose turn has been brought to its end -/
  answered : List Nat
  lowered : List SessionEnvelope
  events : List LaneEntry
  state : SessionState

namespace TurnLane

def start (sessionId : String) : TurnLane where
  sessionId := sessionId
  turnGen := 0
  prompts := []
  answered := []
  lowered := []
  events := []
  state := .idle

variable (s : TurnLane)

def write : TurnLane := { s with prompts := s.prompts ++ [.written] }

variable (k : Nat)

/-- The end of a `Send`: the counter is bumped, and the receipt has its value. -/
def bump : TurnLane :=
  match s.prompts[k]? with
  | some .written =>
    { s with turnGen := s.turnGen + 1, prompts := s.prompts.set k (.accepted (s.turnGen + 1)) }
  | _ => s

/-- The orchestrator lowers the start of the turn, once it has the receipt. -/
def lower : TurnLane :=
  match s.prompts[k]? with
  | some (.accepted epoch) =>
    { s with
      prompts := s.prompts.set k (.started epoch)
      lowered := s.lowered ++ [⟨s.sessionId, epoch, .turnStarted epoch⟩] }
  | _ => s

def cancel (s : TurnLane) : TurnLane :=
  { s with lowered := s.lowered ++ [⟨s.sessionId, s.turnGen, .cancel⟩] }

/-- The reader posts events, which bring the turns of some prompts to their ends. -/
def post (entries : List LaneEntry) (ends : List Nat) : TurnLane :=
  { s with events := s.events ++ entries, answered := ends ++ s.answered }

/-- The run loop folds what has been lowered before it takes an event of the reader. -/
def fold : TurnLane :=
  match s.lowered, s.events with
  | env :: lowered, _ => { s with lowered, state := foldEnvelope s.state env }
  | [], (_, env) :: events => { s with events, state := foldEnvelope s.state env }
  | [], [] => s

def epoch (s : TurnLane) (k : Nat) : Option Nat := s.prompts[k]?.bind Prompt.epoch

def RunsFor : Prop :=
  (s.epoch k).isSome ∧ runningSince s.state = s.epoch k

/-- The `TurnStarted` of a prompt has been lowered. -/
def Started : Prop := (s.prompts[k]?.any Prompt.isStarted) = true

/-- The event that the fold takes next, where it is one of the reader. -/
def head (s : TurnLane) : Option LaneEntry :=
  match s.lowered with
  | [] => s.events.head?
  | _ :: _ => none

/-- The prompt whose result the fold takes next. -/
def settled : Option Nat :=
  s.head.bind fun entry => if isTurnResult entry.2.event then entry.1 else none

/-- The end of a prompt's turn is still to be folded. -/
def Awaits : Prop := ∃ entry ∈ s.events, entry.Ends k

/-- The dispatch of a prompt is ready to bump the counter. -/
def CanBump : Prop := s.prompts[k]? = some .written

/-- The start of a prompt's turn is ready to be lowered. -/
def CanLower : Prop := (s.epoch k).isSome ∧ ¬ s.Started k

/-- Sends bump the counter in the order in which they write. -/
def InOrder : Prop := ∀ j < k, s.prompts[j]? ≠ some .written

/-- Every prompt's turn has been started and brought to its end, and everything has been folded. -/
structure Quiescent (s : TurnLane) : Prop where
  started : ∀ k < s.prompts.length, s.Started k
  answered : ∀ k < s.prompts.length, k ∈ s.answered
  lowered : s.lowered = []
  events : s.events = []

instance : Decidable (s.RunsFor k) := inferInstanceAs (Decidable (_ ∧ _))
instance : Decidable (s.Started k) := inferInstanceAs (Decidable (_ = true))
instance : Decidable (s.Awaits k) :=
  inferInstanceAs (Decidable (∃ entry ∈ s.events, _))
instance : Decidable (s.CanBump k) := inferInstanceAs (Decidable (_ = _))
instance : Decidable (s.CanLower k) := inferInstanceAs (Decidable (_ ∧ _))
instance : Decidable (s.InOrder k) :=
  inferInstanceAs (Decidable (∀ j < k, _))

variable {s t : TurnLane} {k n : Nat} {turn : Option Nat} {env : SessionEnvelope} {state : SessionState}
  {entry : LaneEntry}

/-- A prompt has its number as its epoch, once the sends before it have bumped the counter. -/
def Numbered (turnGen k : Nat) (p : Prompt) : Prop :=
  p = .written ∧ turnGen ≤ k ∨ k < turnGen ∧ (p = .accepted (k + 1) ∨ p = .started (k + 1))

/-- The reader starts no turn, and leaves the epoch of a result to its envelope. -/
def fromReader : SessionEvent → Bool
  | .turnStarted _ | .cancel => false
  | .turnResult _ _ _ epoch _ => epoch = 0
  | _ => true

lemma still {e : SessionEvent} (h : e.movesTurn = false) :
    fromReader e ∧ isTurnResult e = false ∧ isDetached e = false := by
  cases e <;> first | exact ⟨rfl, rfl, rfl⟩ | cases h

/-- An event of the reader; a result is stamped with the epoch of its turn, or not at all. -/
structure Stamped (entry : LaneEntry) : Prop where
  read : fromReader entry.2.event
  result : isTurnResult entry.2.event →
    ∃ k, entry.1 = some k ∧ (entry.2.turnGen = k + 1 ∨ entry.2.turnGen = 0)

/-- The session does not run for the prompt, and is not about to. -/
structure Over (s : TurnLane) (k : Nat) : Prop where
  lowered : ∀ env ∈ s.lowered, env.event ≠ .turnStarted (k + 1)
  state : runningSince s.state ≠ some (k + 1)

/-- The invariant of a lane on which sends bump the counter in order, results are stamped with the
epoch of their turn and a turn is started while the end of it is still to be folded. -/
structure Tracked (s : TurnLane) : Prop where
  counter : s.turnGen ≤ s.prompts.length
  numbered : ∀ k p, s.prompts[k]? = some p → Numbered s.turnGen k p
  stamped : ∀ entry ∈ s.events, Stamped entry
  lowered : ∀ env ∈ s.lowered, ∀ epoch, env.event = .turnStarted epoch →
    ∃ k, epoch = k + 1 ∧ s.Started k
  running : ∀ epoch, runningSince s.state = some epoch → ∃ k, epoch = k + 1 ∧ s.Started k
  ended : ∀ k ∈ s.answered, s.Awaits k ∨ s.Over k
  unseen : terminalSeen s.state = false

lemma tracked_start {sessionId : String} : Tracked (start sessionId) where
  counter := le_rfl
  numbered k p h := by simp [start] at h
  stamped := List.forall_mem_nil _
  lowered := List.forall_mem_nil _
  running := nofun
  ended := List.forall_mem_nil _
  unseen := rfl

lemma Tracked.epoch (h : Tracked s) (found : s.epoch k = some n) : n = k + 1 := by
  obtain ⟨p, prompt, stage⟩ := Option.bind_eq_some_iff.mp found
  obtain ⟨rfl, -⟩ | ⟨-, rfl | rfl⟩ := h.numbered k p prompt
  · cases stage
  · exact (Option.some.inj stage).symm
  · exact (Option.some.inj stage).symm

lemma Tracked.epoch_started (h : Tracked s) (started : s.Started k) : s.epoch k = some (k + 1) := by
  obtain ⟨p, prompt, stage⟩ := (Option.any_eq_true _ _).mp started
  obtain ⟨rfl, -⟩ | ⟨-, rfl | rfl⟩ := h.numbered k p prompt
  · cases stage
  · cases stage
  · exact Option.bind_eq_some_iff.mpr ⟨_, prompt, rfl⟩

lemma Tracked.runsFor_iff (h : Tracked s) : s.RunsFor k ↔ runningSince s.state = some (k + 1) := by
  constructor
  · rintro ⟨known, running⟩
    obtain ⟨n, epoch⟩ := Option.isSome_iff_exists.mp known
    cases h.epoch epoch
    exact running.trans epoch
  · intro running
    obtain ⟨j, same, started⟩ := h.running _ running
    cases Nat.succ.inj same
    have epoch := h.epoch_started started
    exact ⟨by rw [epoch]; rfl, running.trans epoch.symm⟩

lemma started_length (h : s.Started k) : k < s.prompts.length := by
  obtain ⟨p, prompt, -⟩ := (Option.any_eq_true _ _).mp h
  exact (List.getElem?_eq_some_iff.mp prompt).1

lemma started_write : s.write.Started k ↔ s.Started k := by
  rw [Started, TurnLane.write, List.getElem?_append]
  split
  case isTrue => exact Iff.rfl
  case isFalse beyond =>
    constructor
    · intro started
      obtain ⟨p, prompt, stage⟩ := (Option.any_eq_true _ _).mp started
      cases List.mem_singleton.mp (List.mem_of_getElem? prompt)
      cases stage
    · exact fun started => absurd (started_length started) beyond

lemma Tracked.write (h : Tracked s) : Tracked s.write where
  counter := by
    have bound := h.counter
    simp only [TurnLane.write, List.length_append, List.length_singleton]
    omega
  numbered k p found := by
    have bound := h.counter
    rw [TurnLane.write, List.getElem?_append] at found
    split at found
    case isTrue => exact h.numbered k p found
    case isFalse beyond =>
      have written : p = .written := by
        obtain ⟨-, rfl⟩ := List.getElem?_eq_some_iff.mp found
        simp
      exact .inl ⟨written, by simp only [TurnLane.write]; omega⟩
  stamped := h.stamped
  lowered env mem epoch lowered := by
    obtain ⟨k, same, started⟩ := h.lowered env mem epoch lowered
    exact ⟨k, same, started_write.mpr started⟩
  running epoch running := by
    obtain ⟨k, same, started⟩ := h.running epoch running
    exact ⟨k, same, started_write.mpr started⟩
  ended k mem := (h.ended k mem).imp_right fun ended => ⟨ended.lowered, ended.state⟩
  unseen := h.unseen

lemma Tracked.turnGen_eq (h : Tracked s) (written : s.CanBump k) (first : s.InOrder k) :
    s.turnGen = k := by
  have bound := (List.getElem?_eq_some_iff.mp written).1
  have later : s.turnGen ≤ k := by
    obtain ⟨-, later⟩ | ⟨-, stage | stage⟩ := h.numbered k _ written
    · exact later
    · cases stage
    · cases stage
  by_contra ne
  have less : s.turnGen < s.prompts.length := by omega
  have found : s.prompts[s.turnGen]? = some s.prompts[s.turnGen] := List.getElem?_eq_getElem less
  obtain ⟨stage, -⟩ | ⟨less, -⟩ := h.numbered _ _ found
  · exact first s.turnGen (by omega) (found.trans (congrArg some stage))
  · exact less.false

@[simp] lemma bump_lowered : (s.bump k).lowered = s.lowered := by
  unfold TurnLane.bump
  split <;> rfl

@[simp] lemma bump_events : (s.bump k).events = s.events := by
  unfold TurnLane.bump
  split <;> rfl

@[simp] lemma bump_state : (s.bump k).state = s.state := by
  unfold TurnLane.bump
  split <;> rfl

@[simp] lemma bump_answered : (s.bump k).answered = s.answered := by
  unfold TurnLane.bump
  split <;> rfl

lemma started_bump (written : s.CanBump k) {j : Nat} : (s.bump k).Started j ↔ s.Started j := by
  have found : s.prompts[k]? = some .written := written
  have bound := (List.getElem?_eq_some_iff.mp found).1
  have prompts : (s.bump k).prompts = s.prompts.set k (.accepted (s.turnGen + 1)) := by
    simp only [TurnLane.bump, found]
  rcases eq_or_ne k j with rfl | ne
  · simp [Started, prompts, found, List.getElem?_set_self bound, Prompt.isStarted]
  · rw [Started, prompts, List.getElem?_set_ne ne, Started]

section

variable (h : Tracked s)
include h

lemma Tracked.bump (written : s.CanBump k) (first : s.InOrder k) : Tracked (s.bump k) := by
  have found : s.prompts[k]? = some .written := written
  have bound := (List.getElem?_eq_some_iff.mp found).1
  have counter := h.turnGen_eq written first
  have next : s.bump k =
      { s with turnGen := k + 1, prompts := s.prompts.set k (.accepted (k + 1)) } := by
    simp only [TurnLane.bump, found, counter]
  have started : ∀ j, s.Started j → (s.bump k).Started j := fun _ => (started_bump written).mpr
  rw [next] at started ⊢
  exact {
    counter := by rw [List.length_set]; exact bound
    numbered := by
      intro j p found
      rcases eq_or_ne k j with rfl | ne
      · rw [List.getElem?_set_self bound] at found
        exact .inr ⟨Nat.lt_succ_self k, .inl (Option.some.inj found).symm⟩
      · rw [List.getElem?_set_ne ne] at found
        obtain ⟨stage, later⟩ | ⟨less, stage⟩ := h.numbered j p found
        · exact .inl ⟨stage, Nat.lt_of_le_of_ne (counter ▸ later) ne⟩
        · exact .inr ⟨Nat.lt_succ_of_lt (counter ▸ less), stage⟩
    stamped := h.stamped
    lowered := fun env mem epoch lowered =>
      let ⟨k, same, before⟩ := h.lowered env mem epoch lowered
      ⟨k, same, started k before⟩
    running := fun epoch running =>
      let ⟨k, same, before⟩ := h.running epoch running
      ⟨k, same, started k before⟩
    ended := fun k mem => (h.ended k mem).imp_right fun ended => ⟨ended.lowered, ended.state⟩
    unseen := h.unseen }

lemma Tracked.lower_eq (ready : s.CanLower k) :
    s.prompts[k]? = some (.accepted (k + 1)) ∧ s.lower k =
      { s with
        prompts := s.prompts.set k (.started (k + 1))
        lowered := s.lowered ++ [⟨s.sessionId, k + 1, .turnStarted (k + 1)⟩] } := by
  obtain ⟨accepted, unstarted⟩ := ready
  obtain ⟨n, stage⟩ := Option.isSome_iff_exists.mp accepted
  obtain ⟨p, prompt, -⟩ := Option.bind_eq_some_iff.mp stage
  have found : s.prompts[k]? = some (.accepted (k + 1)) := by
    rw [TurnLane.epoch, prompt] at stage
    rw [Started, prompt] at unstarted
    obtain ⟨rfl, -⟩ | ⟨-, rfl | rfl⟩ := h.numbered k p prompt
    · cases stage
    · exact prompt
    · exact absurd rfl unstarted
  exact ⟨found, by simp only [TurnLane.lower, found]⟩

lemma Tracked.started_lower (ready : s.CanLower k) {j : Nat} :
    (s.lower k).Started j ↔ j = k ∨ s.Started j := by
  obtain ⟨found, next⟩ := h.lower_eq ready
  have bound := (List.getElem?_eq_some_iff.mp found).1
  rcases eq_or_ne k j with rfl | ne
  · rw [Started, next, List.getElem?_set_self bound]
    simp [Prompt.isStarted]
  · rw [Started, next, List.getElem?_set_ne ne, Started]
    exact (or_iff_right ne.symm).symm

lemma Tracked.lower (ready : s.CanLower k)
    (awaits : k ∈ s.answered → s.Awaits k) : Tracked (s.lower k) := by
  obtain ⟨found, next⟩ := h.lower_eq ready
  have bound := (List.getElem?_eq_some_iff.mp found).1
  have self : (s.lower k).Started k := (h.started_lower ready).mpr (.inl rfl)
  have started : ∀ j, s.Started j → (s.lower k).Started j :=
    fun j started => (h.started_lower ready).mpr (.inr started)
  rw [next] at self started ⊢
  exact {
    counter := by rw [List.length_set]; exact h.counter
    numbered := by
      intro j p found'
      rcases eq_or_ne k j with rfl | ne
      · rw [List.getElem?_set_self bound] at found'
        obtain ⟨stage, -⟩ | ⟨less, -⟩ := h.numbered k _ found
        · cases stage
        · exact .inr ⟨less, .inr (Option.some.inj found').symm⟩
      · rw [List.getElem?_set_ne ne] at found'
        exact h.numbered j p found'
    stamped := h.stamped
    lowered := by
      intro env mem epoch lowered
      rcases List.mem_append.mp mem with mem | mem
      · obtain ⟨j, same, before⟩ := h.lowered env mem epoch lowered
        exact ⟨j, same, started j before⟩
      · cases List.mem_singleton.mp mem
        cases lowered
        exact ⟨k, rfl, self⟩
    running := fun epoch running =>
      let ⟨k, same, before⟩ := h.running epoch running
      ⟨k, same, started k before⟩
    ended := by
      intro j mem
      rcases eq_or_ne k j with rfl | ne
      · exact .inl (awaits mem)
      · refine (h.ended j mem).imp_right fun ended => ⟨?_, ended.state⟩
        intro env mem
        rcases List.mem_append.mp mem with mem | mem
        · exact ended.lowered env mem
        · cases List.mem_singleton.mp mem
          exact fun same => ne (by cases same; rfl)
    unseen := h.unseen }

lemma Tracked.cancel : Tracked s.cancel where
  counter := h.counter
  numbered := h.numbered
  stamped := h.stamped
  lowered env mem epoch lowered := by
    rcases List.mem_append.mp mem with mem | mem
    · exact h.lowered env mem epoch lowered
    · cases List.mem_singleton.mp mem
      cases lowered
  running := h.running
  ended k mem := by
    refine (h.ended k mem).imp_right fun ended => ⟨?_, ended.state⟩
    intro env mem
    rcases List.mem_append.mp mem with mem | mem
    · exact ended.lowered env mem
    · cases List.mem_singleton.mp mem
      exact nofun
  unseen := h.unseen

end

lemma Awaits.post {entries : List LaneEntry} {ends : List Nat} (h : s.Awaits k) :
    (s.post entries ends).Awaits k := by
  obtain ⟨entry, mem, ends⟩ := h
  exact ⟨entry, List.mem_append_left _ mem, ends⟩

lemma Tracked.post {entries : List LaneEntry} {ends : List Nat} (h : Tracked s)
    (stamped : ∀ entry ∈ entries, Stamped entry)
    (ended : ∀ k ∈ ends, k ∉ s.answered → ∃ entry ∈ entries, entry.Ends k) :
    Tracked (s.post entries ends) where
  counter := h.counter
  numbered := h.numbered
  stamped entry mem := (List.mem_append.mp mem).elim (h.stamped entry) (stamped entry)
  lowered := h.lowered
  running := h.running
  ended k mem := by
    by_cases before : k ∈ s.answered
    · exact (h.ended k before).imp Awaits.post fun ended => ⟨ended.lowered, ended.state⟩
    · have now : k ∈ ends := (List.mem_append.mp mem).resolve_right before
      obtain ⟨entry, mem, ends⟩ := ended k now before
      exact .inl ⟨entry, List.mem_append_right _ mem, ends⟩
  unseen := h.unseen

lemma Stamped.fold (h : Stamped entry) (result : isTurnResult entry.2.event) :
    runningSince (foldEnvelope state entry.2) =
      (runningSince state).filter fun since => entry.2.turnGen ≠ 0 ∧ entry.2.turnGen < since := by
  obtain ⟨turn, sessionId, turnGen, event⟩ := entry
  cases event with
  | turnResult isError status text epoch outcome =>
    have unstamped : epoch = 0 := of_decide_eq_true h.read
    subst unstamped
    exact runningSince_unstamped rfl
  | _ => cases result

lemma Stamped.running (h : Stamped entry)
    (running : runningSince (foldEnvelope state entry.2) = some n) : runningSince state = some n := by
  rcases runningSince_foldEnvelope running with started | before
  · have read := h.read
    rw [started] at read
    cases read
  · exact before

lemma Stamped.ends (h : Stamped entry) (unseen : terminalSeen state = false) (ends : entry.Ends k) :
    runningSince (foldEnvelope state entry.2) ≠ some (k + 1) := by
  rcases ends with ⟨tagged, result⟩ | detached
  · obtain ⟨j, same, gen⟩ := h.result result
    cases same.symm.trans tagged
    rw [h.fold result]
    intro running
    obtain ⟨-, later⟩ := Option.filter_eq_some_iff.mp running
    have later := of_decide_eq_true later
    omega
  · cases event : entry.2.event with
    | detached exit summary =>
      rw [runningSince_fold_detached event unseen]
      exact nofun
    | _ =>
      rw [event] at detached
      cases detached

lemma Tracked.foldLowered (h : Tracked s) {rest : List SessionEnvelope}
    (lowered : s.lowered = env :: rest) :
    Tracked { s with lowered := rest, state := foldEnvelope s.state env } where
  counter := h.counter
  numbered := h.numbered
  stamped := h.stamped
  lowered env' mem := h.lowered env' (lowered ▸ .tail _ mem)
  running epoch running := by
    rcases runningSince_foldEnvelope running with started | before
    · exact h.lowered env (lowered ▸ .head _) epoch started
    · exact h.running epoch before
  ended k mem := by
    refine (h.ended k mem).imp_right fun ended => ⟨?_, ?_⟩
    · exact fun env' mem => ended.lowered env' (lowered ▸ .tail _ mem)
    · intro running
      rcases runningSince_foldEnvelope running with started | before
      · exact ended.lowered env (lowered ▸ .head _) started
      · exact ended.state before
  unseen := terminalSeen_foldEnvelope h.unseen

lemma Tracked.foldEvent (h : Tracked s) {rest : List LaneEntry} (lowered : s.lowered = [])
    (events : s.events = entry :: rest) :
    Tracked { s with events := rest, state := foldEnvelope s.state entry.2 } where
  counter := h.counter
  numbered := h.numbered
  stamped entry' mem := h.stamped entry' (events ▸ .tail _ mem)
  lowered := h.lowered
  running epoch running :=
    h.running epoch ((h.stamped entry (events ▸ .head _)).running running)
  ended k mem := by
    have stamped := h.stamped entry (events ▸ .head _)
    rcases h.ended k mem with ⟨entry', mem, ends⟩ | ended
    · rw [events] at mem
      cases mem with
      | head =>
        refine .inr ⟨?_, stamped.ends h.unseen ends⟩
        rw [lowered]
        exact List.forall_mem_nil _
      | tail _ mem => exact .inl ⟨entry', mem, ends⟩
    · exact .inr ⟨ended.lowered, fun running => ended.state (stamped.running running)⟩
  unseen := terminalSeen_foldEnvelope h.unseen

lemma Tracked.fold (h : Tracked s) : Tracked s.fold := by
  rw [TurnLane.fold]
  split
  case h_1 lowered => exact h.foldLowered lowered
  case h_2 lowered events => exact h.foldEvent lowered events
  case h_3 => exact h

lemma Tracked.quiescent (h : Tracked s) (quiet : s.Quiescent) : runningSince s.state = none := by
  cases running : runningSince s.state with
  | none => rfl
  | some epoch =>
    obtain ⟨k, rfl, started⟩ := h.running epoch running
    rcases h.ended k (quiet.answered k (started_length started)) with ⟨entry, mem, -⟩ | ended
    · rw [quiet.events] at mem
      cases mem
    · exact absurd running ended.state

lemma fold_head (h : s.head = some entry) :
    ∃ rest, s.lowered = [] ∧ s.events = entry :: rest ∧
      s.fold = { s with events := rest, state := foldEnvelope s.state entry.2 } := by
  rw [head] at h
  split at h
  case h_1 lowered =>
    obtain ⟨rest, events⟩ := List.head?_eq_some_iff.mp h
    exact ⟨rest, lowered, events, by rw [TurnLane.fold, lowered, events]⟩
  case h_2 => cases h

lemma settled_eq_some (h : s.settled = some k) :
    ∃ env, s.head = some (some k, env) ∧ isTurnResult env.event := by
  obtain ⟨⟨turn, env⟩, head, result⟩ := Option.bind_eq_some_iff.mp h
  split at result
  case isTrue terminal => exact ⟨env, by rw [head, ← result], terminal⟩
  case isFalse => cases result

end TurnLane

end KiCore.Session

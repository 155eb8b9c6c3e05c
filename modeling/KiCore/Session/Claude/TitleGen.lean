import KiCore.Lib.Text
import KiCore.Lib.Transition

/-!
# The title of a claude session

Port of `TitleGenState` and `sniff_session_title` of `claude_conn.rs`. The reader fires a request when a turn
ends well and observes the reply; a task for each request writes it and lets go of it when no reply has
come in time. The request `ctl-title-N` is the number `N`. Left out are logs and what else the reader does
with its frames; other control requests count as `control`.
-/

namespace KiCore.Session.Claude

open KiCore.Lib

def TITLE_MAX_ATTEMPTS : Nat := 3

inductive TitleTask where
  | reserved (assistantPart : String)
  | waiting
  | ended
  deriving DecidableEq

def TitleTask.isReserved : TitleTask → Bool
  | .reserved _ => true
  | _ => false

structure TitleGenState where
  pending : Bool
  attempts : Nat
  inflight : Option Nat
  description : Option String
  controlSeq : Nat
  tasks : Nat → Option TitleTask
  /-- the requests on the wire, with their descriptions -/
  written : List (Nat × String)
  /-- the `SessionTitle` events -/
  titles : List String
  /-- the requests fired, and those that were replied to -/
  fired : List Nat
  answered : List Nat
  /-- the replies with a title, and whether each came when its request was no longer in flight -/
  heard : List Bool

namespace TitleGenState

/-- The latch is armed for a fresh session. -/
def init (fresh : Bool) : TitleGenState :=
  { pending := fresh, attempts := 0, inflight := none, description := none, controlSeq := 0,
    tasks := fun _ => none, written := [], titles := [], fired := [], answered := [], heard := [] }

/-- `text.chars().take(1000)` -/
def bounded (text : String) : String := String.ofList (text.toList.take 1000)

variable (s : TitleGenState)

def clearInflight (requestId : Nat) : TitleGenState :=
  if s.inflight = some requestId then { s with inflight := none } else s

/-- A request with the next number, and its task. -/
def reserve (resultText : String) : TitleGenState :=
  { s with
    attempts := s.attempts + 1
    controlSeq := s.controlSeq + 1
    inflight := some (s.controlSeq + 1)
    tasks := Function.update s.tasks (s.controlSeq + 1) (some (.reserved (bounded resultText)))
    fired := (s.controlSeq + 1) :: s.fired }

def fire (resultText : String) : TitleGenState :=
  if s.inflight.isSome then s
  else if TITLE_MAX_ATTEMPTS < s.attempts + 1 then
    { s with attempts := s.attempts + 1, pending := false }
  else s.reserve resultText

def describe (userPart assistantPart : String) : String :=
  let description := if userPart = "" then "" else "User: " ++ userPart
  if assistantPart = "" then description
  else (if description = "" then "" else description ++ "\n\n") ++ "Assistant: " ++ assistantPart

/-- The task has the stdin: it writes its request, or lets go of it. -/
def write (requestId : Nat) (assistantPart : String) (ok : Bool) : TitleGenState :=
  if ok then
    { s with
      tasks := Function.update s.tasks requestId (some .waiting)
      written := s.written ++ [(requestId, describe (s.description.getD "") assistantPart)] }
  else { s.clearInflight requestId with tasks := Function.update s.tasks requestId (some .ended) }

def watchdog (requestId : Nat) : TitleGenState :=
  { s.clearInflight requestId with tasks := Function.update s.tasks requestId (some .ended) }

/-- The title in a reply, without blanks around it; none if it was an error or has no title. -/
def titleOf (title : Option String) : Option String :=
  (title.map Lib.Str.trim).filter (· ≠ "")

/-- `sniff_session_title`, with `on_reply`. -/
def onReply (requestId : Nat) (title : Option String) : TitleGenState :=
  let late := s.inflight ≠ some requestId
  let s := { s.clearInflight requestId with answered := requestId :: s.answered }
  match titleOf title with
  | some title => { s with pending := false, titles := s.titles ++ [title], heard := decide late :: s.heard }
  | none => s

def recordPrompt (text : String) : TitleGenState :=
  if s.pending && s.description.isNone && bounded text ≠ "" then { s with description := some (bounded text) }
  else s

inductive Event where
  | send (text : String)
  | turnResult (isError : Bool) (resultText : String)
  | write (requestId : Nat) (ok : Bool)
  | watchdog (requestId : Nat)
  | reply (requestId : Nat) (title : Option String)
  | control
  deriving DecidableEq

/-- Tasks go through their stages, and what has been written is replied to. -/
def Enabled : Event → Prop
  | .write requestId _ => (s.tasks requestId).any TitleTask.isReserved = true
  | .watchdog requestId => s.tasks requestId = some .waiting
  | .reply requestId _ => requestId ∈ s.written.map Prod.fst
  | _ => True

instance : DecidableRel Enabled := by
  intro s e
  unfold Enabled
  split <;> infer_instance

def next : Event → TitleGenState
  | .send text => s.recordPrompt text
  | .turnResult isError resultText => if !isError && s.pending then s.fire resultText else s
  | .write requestId ok => match s.tasks requestId with
    | some (.reserved part) => s.write requestId part ok
    | _ => s
  | .watchdog requestId => s.watchdog requestId
  | .reply requestId title => s.onReply requestId title
  | .control => { s with controlSeq := s.controlSeq + 1 }

/-- The request was fired, and has not failed, been replied to or been given up. -/
def Outstanding (id : Nat) : Prop :=
  ((∃ part, s.tasks id = some (.reserved part)) ∨ s.tasks id = some .waiting) ∧ id ∉ s.answered

structure Latched (s : TitleGenState) : Prop where
  one : ∀ id id', s.Outstanding id → s.Outstanding id' → id = id'
  bounded : s.written.length ≤ TITLE_MAX_ATTEMPTS
  single : s.titles.length ≤ 1

/-- After a title nothing is fired; and when none is outstanding, a turn that ends well fires another one,
as long as the latch is armed and attempts remain. -/
def Retries (e : Event) : Prop :=
  (s.titles ≠ [] → (s.next e).fired = s.fired) ∧
  ∀ resultText, e = .turnResult false resultText → s.pending = true → s.attempts < TITLE_MAX_ATTEMPTS →
    (∀ id, ¬ s.Outstanding id) → ∃ id, (s.next e).fired = id :: s.fired ∧ (s.next e).Outstanding id

/-- What holds of every run. -/
structure Inv (s : TitleGenState) : Prop where
  inflight : ∀ id, s.inflight = some id ↔ s.Outstanding id
  fresh : ∀ id, s.controlSeq < id → s.tasks id = none ∧ id ∉ s.answered
  fired : ∀ id, s.tasks id ≠ none → id ∈ s.fired
  wrote : ∀ id, id ∈ s.written.map Prod.fst → s.tasks id = some .waiting ∨ s.tasks id = some .ended
  once : (s.written.map Prod.fst).Nodup
  count : s.fired.length ≤ s.attempts
  max : s.fired.length ≤ TITLE_MAX_ATTEMPTS
  heard : s.titles.length = s.heard.length
  latch : s.heard ≠ [] → s.pending = false
  intime : false ∈ s.heard → s.inflight = none
  /-- of the replies with a title at most one came in time -/
  first : s.heard.count false ≤ 1

variable {s : TitleGenState} {e : Event} {id requestId : Nat} {text part : String}

lemma Inv.start (fresh : Bool) : Inv (init fresh) where
  inflight := fun id => iff_of_false (by simp [init]) fun out => by
    rcases out.1 with ⟨part, held⟩ | held <;> cases held
  fresh := fun id _ => ⟨rfl, List.not_mem_nil⟩
  fired := fun id held => absurd rfl held
  wrote := fun id mem => absurd mem List.not_mem_nil
  once := List.nodup_nil
  count := Nat.le_refl _
  max := Nat.zero_le _
  heard := rfl
  latch := fun some_ => absurd rfl some_
  intime := fun mem => absurd mem List.not_mem_nil
  first := Nat.zero_le _

lemma clearInflight_eq (s : TitleGenState) (requestId : Nat) :
    s.clearInflight requestId = { s with inflight := s.inflight.filter (· ≠ requestId) } := by
  rw [clearInflight]
  cases held : s.inflight with
  | none =>
    rw [if_neg (by simp)]
    exact congrArg (fun inflight => { s with inflight }) held
  | some id =>
    by_cases same : id = requestId
    · subst same
      rw [if_pos rfl, Option.filter_some_neg (by simp)]
    · have kept : (some id).filter (· ≠ requestId) = some id :=
        Option.filter_some_pos (decide_eq_true same)
      rw [if_neg (by simpa using same), kept, ← held]

lemma filter_ne_eq_some {inflight : Option Nat} :
    inflight.filter (· ≠ requestId) = some id ↔ inflight = some id ∧ id ≠ requestId := by
  rw [Option.filter_eq_some_iff, decide_eq_true_eq]

lemma Inv.unheard (inv : Inv s) (armed : s.pending = true) : s.heard = [] := by
  by_contra some_
  rw [inv.latch some_] at armed
  cases armed

lemma outstanding_congr {t : TitleGenState} (tasks : t.tasks id = s.tasks id)
    (answered : t.answered = s.answered) : s.Outstanding id ↔ t.Outstanding id := by
  rw [Outstanding, Outstanding, tasks, answered]

lemma not_outstanding_of_ended (ended : s.tasks id = some .ended) : ¬ s.Outstanding id := by
  rintro ⟨⟨part, held⟩ | held, -⟩ <;> (rw [ended] at held; cases held)

lemma Inv.reserve (inv : Inv s) (armed : s.pending = true) (idle : s.inflight = none)
    (more : s.attempts < TITLE_MAX_ATTEMPTS) (text : String) : Inv (s.reserve text) := by
  have unheard := inv.unheard armed
  obtain ⟨unused, unanswered⟩ := inv.fresh (s.controlSeq + 1) (Nat.lt_succ_self _)
  have other : ∀ {id}, id ≠ s.controlSeq + 1 → (s.reserve text).tasks id = s.tasks id :=
    fun ne => Function.update_of_ne ne _ _
  refine ⟨?_, ?_, ?_, ?_, inv.once, Nat.succ_le_succ inv.count,
    (Nat.succ_le_succ inv.count).trans more, inv.heard, ?_, ?_, inv.first⟩
  · intro id
    by_cases same : id = s.controlSeq + 1
    · subst same
      exact iff_of_true rfl ⟨.inl ⟨_, Function.update_self ..⟩, unanswered⟩
    · have out := inv.inflight id
      rw [idle] at out
      rw [← outstanding_congr (s := s) (other same) rfl, ← out]
      exact iff_of_false (fun held => same (Option.some_inj.mp held).symm) (by simp)
  · intro id later
    rw [other (Nat.ne_of_gt later)]
    exact inv.fresh id (Nat.lt_of_succ_lt later)
  · intro id held
    by_cases same : id = s.controlSeq + 1
    · subst same
      exact List.mem_cons_self
    · rw [other same] at held
      exact List.mem_cons_of_mem _ (inv.fired id held)
  · intro id mem
    have there := inv.wrote id mem
    have ne : id ≠ s.controlSeq + 1 := by
      rintro rfl
      rw [unused] at there
      rcases there with held | held <;> cases held
    rwa [other ne]
  · exact fun some_ => absurd unheard some_
  · intro mem
    exact absurd (unheard ▸ mem) List.not_mem_nil

lemma Inv.fire (inv : Inv s) (armed : s.pending = true) (text : String) : Inv (s.fire text) := by
  rw [TitleGenState.fire]
  split
  · exact inv
  next idle =>
    split
    · exact { inv with
        count := inv.count.trans (Nat.le_succ _)
        latch := fun _ => rfl }
    next more => exact inv.reserve armed (by simpa using idle) (Nat.lt_of_succ_le (Nat.not_lt.mp more)) text

/-- A task that is over has let go of its request. -/
lemma Inv.release (inv : Inv s) (held : s.tasks requestId ≠ none) :
    Inv { s with
      inflight := s.inflight.filter (· ≠ requestId)
      tasks := Function.update s.tasks requestId (some .ended) } := by
  have other : ∀ {id}, id ≠ requestId →
      Function.update s.tasks requestId (some .ended) id = s.tasks id :=
    fun ne => Function.update_of_ne ne _ _
  refine ⟨?_, ?_, ?_, ?_, inv.once, inv.count, inv.max, inv.heard, inv.latch, ?_, inv.first⟩
  · intro id
    dsimp only
    rw [filter_ne_eq_some]
    by_cases same : id = requestId
    · subst same
      exact iff_of_false (fun both => both.2 rfl)
        (not_outstanding_of_ended (Function.update_self ..))
    · rw [and_iff_left same]
      refine (inv.inflight id).trans ?_
      exact outstanding_congr (other same) rfl
  · intro id later
    obtain ⟨unused, unanswered⟩ := inv.fresh id later
    have ne : id ≠ requestId := by
      rintro rfl
      exact held unused
    exact ⟨(other ne).trans unused, unanswered⟩
  · intro id there
    by_cases same : id = requestId
    · subst same
      exact inv.fired id held
    · dsimp only at there
      rw [other same] at there
      exact inv.fired id there
  · intro id mem
    by_cases same : id = requestId
    · subst same
      exact .inr (Function.update_self ..)
    · dsimp only
      rw [other same]
      exact inv.wrote id mem
  · intro mem
    dsimp only
    rw [inv.intime mem]
    rfl

lemma Inv.wrote_ok (inv : Inv s) (held : s.tasks requestId = some (.reserved part)) :
    Inv { s with
      tasks := Function.update s.tasks requestId (some .waiting)
      written := s.written ++ [(requestId, describe (s.description.getD "") part)] } := by
  have other : ∀ {id}, id ≠ requestId →
      Function.update s.tasks requestId (some .waiting) id = s.tasks id :=
    fun ne => Function.update_of_ne ne _ _
  have unwritten : requestId ∉ s.written.map Prod.fst := by
    intro mem
    rcases inv.wrote requestId mem with there | there
    · rw [held] at there
      cases there
    · rw [held] at there
      cases there
  refine ⟨?_, ?_, ?_, ?_, ?_, inv.count, inv.max, inv.heard, inv.latch, inv.intime, inv.first⟩
  · intro id
    have before := inv.inflight id
    by_cases same : id = requestId
    · subst same
      refine before.trans (and_congr_left fun _ => iff_of_true (.inl ⟨part, held⟩) ?_)
      exact .inr (Function.update_self ..)
    · refine before.trans ?_
      exact outstanding_congr (other same) rfl
  · intro id later
    obtain ⟨unused, unanswered⟩ := inv.fresh id later
    have ne : id ≠ requestId := by
      rintro rfl
      rw [held] at unused
      cases unused
    exact ⟨(other ne).trans unused, unanswered⟩
  · intro id there
    by_cases same : id = requestId
    · subst same
      exact inv.fired id (by rw [held]; exact Option.some_ne_none _)
    · dsimp only at there
      rw [other same] at there
      exact inv.fired id there
  · intro id mem
    by_cases same : id = requestId
    · subst same
      exact .inl (Function.update_self ..)
    · dsimp only at mem ⊢
      rw [other same]
      rw [List.map_append, List.mem_append] at mem
      rcases mem with mem | mem
      · exact inv.wrote id mem
      · exact absurd (List.mem_singleton.mp mem) same
  · dsimp only
    rw [List.map_append]
    exact inv.once.append (List.nodup_singleton _) (by simpa using unwritten)

lemma Inv.reply (inv : Inv s) (wrote : requestId ∈ s.written.map Prod.fst) :
    Inv { s with inflight := s.inflight.filter (· ≠ requestId), answered := requestId :: s.answered } := by
  have known : s.tasks requestId ≠ none := by
    rcases inv.wrote requestId wrote with held | held <;> (rw [held]; exact Option.some_ne_none _)
  refine ⟨?_, ?_, inv.fired, inv.wrote, inv.once, inv.count, inv.max, inv.heard, inv.latch, ?_, inv.first⟩
  · intro id
    have before := inv.inflight id
    dsimp only
    rw [filter_ne_eq_some, before, Outstanding, Outstanding, List.mem_cons, not_or, and_assoc]
    exact and_congr_right fun _ => and_comm
  · intro id later
    obtain ⟨unused, unanswered⟩ := inv.fresh id later
    refine ⟨unused, fun mem => ?_⟩
    rcases List.mem_cons.mp mem with rfl | mem
    · exact known unused
    · exact unanswered mem
  · intro mem
    dsimp only
    rw [inv.intime mem]
    rfl

lemma Inv.title (inv : Inv s) (late : Bool) (title : String)
    (alone : late = false → s.inflight = none ∧ false ∉ s.heard) :
    Inv { s with pending := false, titles := s.titles ++ [title], heard := late :: s.heard } := by
  refine ⟨inv.inflight, inv.fresh, inv.fired, inv.wrote, inv.once, inv.count, inv.max, ?_,
    fun _ => rfl, ?_, ?_⟩
  · dsimp only
    rw [List.length_append, inv.heard]
    rfl
  · intro mem
    rcases List.mem_cons.mp mem with now | mem
    · exact (alone now.symm).1
    · exact inv.intime mem
  · cases late with
    | true =>
      rw [List.count_cons_of_ne (by decide)]
      exact inv.first
    | false =>
      rw [List.count_cons_self, List.count_eq_zero.mpr (alone rfl).2]

lemma Inv.onReply (inv : Inv s) (wrote : requestId ∈ s.written.map Prod.fst) (title : Option String) :
    Inv (s.onReply requestId title) := by
  rw [TitleGenState.onReply, clearInflight_eq]
  dsimp only
  cases titleOf title with
  | none => exact inv.reply wrote
  | some title =>
    refine (inv.reply wrote).title _ title fun intime => ?_
    have held : s.inflight = some requestId := by simpa using intime
    refine ⟨by rw [held]; simp, fun mem => ?_⟩
    have idle := inv.intime mem
    rw [held] at idle
    cases idle

lemma Inv.recordPrompt (inv : Inv s) (text : String) : Inv (s.recordPrompt text) := by
  rw [TitleGenState.recordPrompt]
  split
  · exact ⟨inv.inflight, inv.fresh, inv.fired, inv.wrote, inv.once, inv.count, inv.max, inv.heard, inv.latch,
      inv.intime, inv.first⟩
  · exact inv

lemma reserved_of_enabled {ok : Bool} (enabled : Enabled s (.write requestId ok)) :
    ∃ part, s.tasks requestId = some (.reserved part) := by
  obtain ⟨task, held, reserved⟩ := (Option.any_eq_true _ _).mp enabled
  cases task with
  | reserved part => exact ⟨part, held⟩
  | _ => cases reserved

lemma Inv.next (inv : Inv s) (enabled : Enabled s e) : Inv (s.next e) := by
  cases e with
  | send text => exact inv.recordPrompt text
  | turnResult isError resultText =>
    rw [TitleGenState.next]
    split
    next both => exact inv.fire (Bool.and_eq_true_iff.mp both).2 resultText
    next => exact inv
  | write requestId ok =>
    obtain ⟨part, held⟩ := reserved_of_enabled enabled
    rw [TitleGenState.next, held]
    dsimp only
    cases ok with
    | true => exact inv.wrote_ok held
    | false =>
      rw [TitleGenState.write, clearInflight_eq]
      exact inv.release (by rw [held]; exact Option.some_ne_none _)
  | watchdog requestId =>
    rw [TitleGenState.next, TitleGenState.watchdog, clearInflight_eq]
    exact inv.release (by rw [show s.tasks requestId = _ from enabled]; exact Option.some_ne_none _)
  | reply requestId title => exact inv.onReply enabled title
  | control =>
    exact ⟨inv.inflight, fun id later => inv.fresh id (Nat.lt_of_succ_lt later), inv.fired, inv.wrote, inv.once,
      inv.count, inv.max, inv.heard, inv.latch, inv.intime, inv.first⟩

variable {events : List Event} {fresh : Bool}

lemma fired_next (silent : s.pending = false) : (s.next e).fired = s.fired := by
  cases e with
  | send text =>
    rw [TitleGenState.next, TitleGenState.recordPrompt]
    split <;> rfl
  | turnResult isError resultText => rw [TitleGenState.next, silent, Bool.and_false, if_neg Bool.false_ne_true]
  | write requestId ok =>
    rw [TitleGenState.next]
    split
    · rw [TitleGenState.write, clearInflight_eq]
      split <;> rfl
    · rfl
  | watchdog requestId => rw [TitleGenState.next, TitleGenState.watchdog, clearInflight_eq]
  | reply requestId title =>
    rw [TitleGenState.next, TitleGenState.onReply, clearInflight_eq]
    cases titleOf title <;> rfl
  | control => rfl

lemma Inv.retries (inv : Inv s) (e : Event) : Retries s e := by
  constructor
  · intro some_
    apply fired_next
    apply inv.latch
    rintro none_
    exact some_ (List.eq_nil_of_length_eq_zero (by rw [inv.heard, none_]; rfl))
  · rintro resultText rfl armed more none_
    have idle : s.inflight = none := Option.eq_none_iff_forall_ne_some.mpr fun id held =>
      none_ id ((inv.inflight id).mp held)
    have fires : s.next (.turnResult false resultText) = s.reserve resultText := by
      rw [TitleGenState.next, armed, Bool.not_false, Bool.and_true, if_pos rfl, TitleGenState.fire, idle, Option.isSome_none,
        if_neg Bool.false_ne_true, if_neg (Nat.not_lt.mpr more)]
    rw [fires]
    exact ⟨s.controlSeq + 1, rfl, ((inv.reserve armed idle more resultText).inflight _).mp rfl⟩

lemma Inv.written_le (inv : Inv s) : s.written.length ≤ TITLE_MAX_ATTEMPTS := by
  have sub : s.written.map Prod.fst ⊆ s.fired := by
    intro id mem
    apply inv.fired
    rcases inv.wrote id mem with held | held <;> (rw [held]; exact Option.some_ne_none _)
  have shorter := (List.subperm_of_subset inv.once sub).length_le
  rw [List.length_map] at shorter
  exact shorter.trans inv.max

lemma Inv.latched (inv : Inv s) (single : s.titles.length ≤ 1) : Latched s where
  one := by
    intro id id' out out'
    have held := (inv.inflight id).mpr out
    rw [(inv.inflight id').mpr out'] at held
    exact (Option.some_inj.mp held).symm
  bounded := inv.written_le
  single := single

lemma titles_next (s : TitleGenState) (e : Event) : s.titles.length ≤ (s.next e).titles.length := by
  cases e with
  | send text =>
    rw [TitleGenState.next, TitleGenState.recordPrompt]
    split <;> exact Nat.le_refl _
  | turnResult isError resultText =>
    rw [TitleGenState.next, TitleGenState.fire]
    split
    · split
      · exact Nat.le_refl _
      · split <;> exact Nat.le_refl _
    · exact Nat.le_refl _
  | write requestId ok =>
    rw [TitleGenState.next]
    split
    · rw [TitleGenState.write, clearInflight_eq]
      split <;> exact Nat.le_refl _
    · exact Nat.le_refl _
  | watchdog requestId =>
    rw [TitleGenState.next, TitleGenState.watchdog, clearInflight_eq]
  | reply requestId title =>
    rw [TitleGenState.next, TitleGenState.onReply, clearInflight_eq]
    cases titleOf title with
    | none => exact Nat.le_refl _
    | some title =>
      dsimp only
      rw [List.length_append]
      exact Nat.le_add_right _ _
  | control => exact Nat.le_refl _

lemma titles_run (s : TitleGenState) (events : List Event) :
    s.titles.length ≤ (events.foldl TitleGenState.next s).titles.length := by
  induction events generalizing s with
  | nil => exact Nat.le_refl _
  | cons e events ih => exact (titles_next s e).trans (ih (s.next e))

lemma Inv.run (inv : Inv s) (enabled : LTS.EnabledAll Enabled TitleGenState.next s events) :
    Inv (events.foldl TitleGenState.next s) := by
  induction events generalizing s with
  | nil => exact inv
  | cons e events ih => exact ih (inv.next enabled.1) enabled.2

lemma Inv.throughout (inv : Inv s) (enabled : LTS.EnabledAll Enabled TitleGenState.next s events)
    (last : (events.foldl TitleGenState.next s).titles.length ≤ 1) :
    LTS.Throughout TitleGenState.next Latched s events := by
  induction events generalizing s with
  | nil => exact inv.latched last
  | cons e events ih =>
    exact ⟨inv.latched ((titles_run s (e :: events)).trans last), ih (inv.next enabled.1) enabled.2 last⟩

/-- A reply with a title that came late was the only reply with a title. -/
def LateAlone (s : TitleGenState) : Prop := true ∈ s.heard → s.heard.length ≤ 1

instance (s : TitleGenState) : Decidable s.LateAlone := inferInstanceAs (Decidable (_ → _))

/-- The latch does what it is for in the runs in which a late title comes alone. -/
theorem title_latch_iff (enabled : LTS.EnabledAll Enabled TitleGenState.next (init fresh) events) :
    LTS.EnabledAll Retries TitleGenState.next (init fresh) events ∧
        LTS.Throughout TitleGenState.next Latched (init fresh) events ↔
      LateAlone (events.foldl TitleGenState.next (init fresh)) := by
  have inv := (Inv.start fresh).run enabled
  have retries : LTS.EnabledAll Retries TitleGenState.next (init fresh) events :=
    enabled.imp (Q := Inv) (fun s e inv enabled => ⟨inv.retries e, inv.next enabled⟩) (Inv.start fresh)
  rw [and_iff_right retries]
  constructor
  · intro law _
    rw [← inv.heard]
    exact law.last.single
  · intro alone
    apply (Inv.start fresh).throughout enabled
    rw [inv.heard]
    by_cases late : true ∈ (events.foldl TitleGenState.next (init fresh)).heard
    · exact alone late
    · have intime : ∀ b ∈ (events.foldl TitleGenState.next (init fresh)).heard, false = b := by
        intro b mem
        cases b with
        | false => rfl
        | true => exact absurd mem late
      rw [← List.count_eq_length.mpr intime]
      exact inv.first

/-- The first request is given up and answered when the second one is in flight; then the second is. -/
def lateTitle : List Event :=
  [.turnResult false "one", .write 1 true, .watchdog 1, .turnResult false "two", .write 2 true,
    .reply 1 (some "Git basics"), .reply 2 (some "What is git")]

theorem lateTitle_twice : LTS.EnabledAll Enabled TitleGenState.next (init true) lateTitle ∧
    ¬ LTS.Throughout TitleGenState.next Latched (init true) lateTitle := by
  refine ⟨by decide, fun law => ?_⟩
  exact absurd law.last.single (by decide)

/-- The first reply has no title, the second one has. -/
def retried : List Event :=
  [.turnResult false "one", .write 1 true, .reply 1 (some " "), .turnResult false "two", .write 2 true,
    .reply 2 (some "What is git"), .turnResult false "three"]

theorem retried_latched : LTS.EnabledAll Retries TitleGenState.next (init true) retried ∧
    LTS.Throughout TitleGenState.next Latched (init true) retried :=
  (title_latch_iff (by decide)).mpr (by decide)

end TitleGenState

end KiCore.Session.Claude

import KiCore.Conversation.Fork

/-!
# A fork shows the history that its agent has

The transcript is cut at a row, and the session at the turn of the nearest stamp, or not at all if the row
is the newest one; then it is the head of the first open. `fork_same_history` says on which runs both cuts
agree and a failed fork leaves nothing.
-/

namespace KiCore.Conversation.ForkRun

open KiCore.Lib

variable {s t : ForkRun} {e : ForkEvent} {spec : ForkSpec} {cursor : Nat × Nat} {point row : MessageRow}
  {rows : List MessageRow} {turns : List Nat} {sessions : List (List Nat)} {anchor turn k : Nat}

def Shows (rows : List MessageRow) (turns : List Nat) : Prop :=
  ∀ turn, (∃ row ∈ rows, row.turn = some turn) ↔ turn ∈ turns

structure SameHistory (s : ForkRun) (e : ForkEvent) : Prop where
  /-- the first open gets the turns that are shown -/
  shows : e = .materialize → s.call = .succeeded → ∀ f ∈ s.forked, f.session = none →
    ∃ turns, f.spec.select s.parent.sessions = some turns ∧ Shows f.rows turns
  /-- an error leaves no row -/
  clean : ∀ error, (s.next e).call = .failed error → (s.next e).forked = none

/-- Where the fork is cut has not been settled. -/
def undecided (s : ForkRun) : Bool :=
  match s.call with
  | .received | .checked | .anchored _ | .capable _ _ | .pointed _ _ _ | .behind _ _ => true
  | _ => false

/-- A spec that has not been materialised. -/
def pending (s : ForkRun) : Option ForkSpec :=
  match s.call with
  | .resolved spec _ | .created spec _ | .snapshotted spec _ | .sessioned spec _ => some spec
  | .copied | .succeeded => s.forked.bind fun f => if f.session = none then some f.spec else none
  | _ => none

/-- The session has got every turn that has been claimed. -/
def Delivered (s : ForkRun) : Prop := ∀ turn ∈ s.parent.activeTurn, turn ∈ s.parent.turns

/-- No row up to the cursor is of a later turn than the nearest stamp. -/
def Covers (s : ForkRun) (cursor : Nat × Nat) : Prop :=
  ∀ anchor ∈ s.resolveBackendTurnAnchor cursor, ∀ row ∈ s.parent.rows, row.upTo cursor →
    ∀ turn ∈ row.turn, turn ≤ anchor

def HeededStep (s : ForkRun) : Prop :=
  match s.call with
  | .checked => s.parent.agentType = .aionrs → s.parent.sessionId.isSome
  | .pointed _ _ point => s.isHead point → s.Delivered
  | .behind _ point => s.Covers point.cursor
  | _ => True

def Heeded (s : ForkRun) : ForkEvent → Prop
  | .prompt persisted _ => s.undecided → persisted
  | .loseSession => ¬ s.undecided
  | .deliver => ∀ spec ∈ s.pending, spec.lastTurnId = none →
    s.parent.sessionId = some spec.parentSessionId → s.Delivered
  | .step ok => s.HeededStep ∧ (ok = false → s.forked.isNone)
  | _ => True

instance : Decidable s.Delivered := by
  unfold Delivered
  infer_instance

instance : Decidable (s.Covers cursor) := by
  unfold Covers
  infer_instance

instance : Decidable s.HeededStep := by
  unfold HeededStep
  split <;> infer_instance

instance : (e : ForkEvent) → Decidable (s.Heeded e)
  | .prompt _ _ => inferInstanceAs (Decidable (_ → _))
  | .loseSession => inferInstanceAs (Decidable (¬ _))
  | .deliver => inferInstanceAs (Decidable (∀ spec ∈ s.pending, spec.lastTurnId = none →
      s.parent.sessionId = some spec.parentSessionId → s.Delivered))
  | .step _ => inferInstanceAs (Decidable (_ ∧ (_ → _)))
  | .row _ _ _ _ _ | .endTurn | .tick _ | .bindSession | .materialize => instDecidableTrue

/-- The parent shows the turns of its session, each with its rows after those of the earlier ones. -/
structure Aligned (s : ForkRun) : Prop where
  sorted : s.parent.rows.Pairwise fun a b => a.createdAt ≤ b.createdAt ∧ a.id < b.id
  past : ∀ row ∈ s.parent.rows, row.createdAt ≤ s.now ∧ row.id < s.nextId
  bound : ∀ k ∈ s.parent.sessionId, k < s.parent.sessions.length
  ordered : s.parent.turns.Pairwise (· < ·)
  fresh : ∀ turn ∈ s.parent.sessions.flatten, turn < s.nextTurn
  newest : ∀ turn ∈ s.parent.activeTurn, turn < s.nextTurn ∧ ∀ earlier ∈ s.parent.turns, earlier ≤ turn
  current : ∀ turn ∈ s.parent.activeTurn, turn ∈ s.parent.sessions.flatten → turn ∈ s.parent.turns
  listed : ∀ turn ∈ s.parent.turns, ∃ row ∈ s.parent.rows, row.listed ∧ row.turn = some turn
  known : ∀ row ∈ s.parent.rows, ∀ turn ∈ row.turn,
    turn ∈ s.parent.turns ∨ s.parent.activeTurn = some turn
  stamped : ∀ row ∈ s.parent.rows, ∀ turn ∈ row.backendTurnId,
    row.turn = some turn ∧ turn ∈ s.parent.turns
  after : ∀ row ∈ s.parent.rows, ∀ turn ∈ row.turn, ∀ earlier ∈ s.parent.turns, earlier < turn →
    ∃ first ∈ s.parent.rows, first.turn = some earlier ∧ first.upTo row.cursor

def Prompted (s : ForkRun) : Prop :=
  ∀ turn ∈ s.parent.activeTurn, ∃ row ∈ s.parent.rows, row.listed ∧ row.turn = some turn

lemma takeThrough_of_mem (mem : anchor ∈ turns) :
    ∃ later, turns = takeThrough anchor turns ++ later := by
  induction turns with
  | nil => cases mem
  | cons turn turns ih =>
    by_cases same : turn = anchor
    · exact ⟨turns, by simp [takeThrough, same]⟩
    · obtain ⟨later, split⟩ := ih (by simpa [Ne.symm same] using mem)
      refine ⟨later, ?_⟩
      rw [takeThrough, List.takeWhile_cons_of_pos (by simpa using same)]
      simpa [takeThrough] using split

lemma takeThrough_append (mem : anchor ∈ turns) (later : List Nat) :
    takeThrough anchor (turns ++ later) = takeThrough anchor turns := by
  induction turns with
  | nil => cases mem
  | cons turn turns ih =>
    by_cases same : turn = anchor
    · simp [takeThrough, same]
    · have := ih (by simpa [Ne.symm same] using mem)
      simpa [takeThrough, same] using this

lemma mem_takeThrough (ordered : turns.Pairwise (· < ·)) (mem : anchor ∈ turns) :
    turn ∈ takeThrough anchor turns ↔ turn ∈ turns ∧ turn ≤ anchor := by
  obtain ⟨later, split⟩ := takeThrough_of_mem mem
  have apart := ordered
  rw [split, List.pairwise_append] at apart
  obtain ⟨before, -, across⟩ := apart
  rw [takeThrough, List.pairwise_append] at before
  have last : anchor ∈ takeThrough anchor turns := by simp [takeThrough]
  constructor
  · intro taken
    refine ⟨by rw [split]; exact List.mem_append_left _ taken, ?_⟩
    rw [takeThrough, List.mem_append, List.mem_singleton] at taken
    obtain taken | rfl := taken
    · exact (before.2.2 _ taken _ (List.mem_singleton_self _)).le
    · exact le_rfl
  · rintro ⟨taken, le⟩
    rw [split, List.mem_append] at taken
    obtain taken | dropped := taken
    · exact taken
    · exact absurd (across _ last _ dropped) (not_lt.mpr le)

section

variable (selected : spec.select sessions = some turns)
include selected

lemma select_flatten (mem : turn ∈ turns) : turn ∈ sessions.flatten := by
  obtain ⟨session, found, cut⟩ := Option.bind_eq_some_iff.mp selected
  rw [List.mem_flatten]
  refine ⟨session, List.mem_of_getElem? found, ?_⟩
  cases last : spec.lastTurnId with
  | none =>
    simp only [last, Option.some.injEq] at cut
    exact cut ▸ mem
  | some anchor =>
    simp only [last] at cut
    split_ifs at cut with known
    cases cut
    obtain ⟨later, split⟩ := takeThrough_of_mem known
    rw [split]
    exact List.mem_append_left _ mem

lemma select_bind : spec.select (sessions ++ [[]]) = some turns := by
  obtain ⟨session, found, cut⟩ := Option.bind_eq_some_iff.mp selected
  rw [ForkSpec.select, List.getElem?_append_left (List.getElem?_eq_some_iff.mp found).1, found]
  exact cut

lemma select_deliver (apart : spec.lastTurnId = none → k ≠ spec.parentSessionId) :
    spec.select (sessions.modify k (· ++ [turn])) = some turns := by
  obtain ⟨session, found, cut⟩ := Option.bind_eq_some_iff.mp selected
  rw [ForkSpec.select, List.getElem?_modify, found]
  by_cases same : k = spec.parentSessionId
  · cases last : spec.lastTurnId with
    | none => exact absurd same (apart last)
    | some anchor =>
      simp only [last] at cut
      split_ifs at cut with known
      simpa [same, known, takeThrough_append known] using cut
  · simpa [same] using cut

end

/-- Where the transcript is cut, its rows show the turns that the spec selects. -/
structure Cut (s : ForkRun) (spec : ForkSpec) (cursor : Nat × Nat) : Prop where
  past : cursor.1 ≤ s.now ∧ cursor.2 < s.nextId
  shows : ∃ turns, spec.select s.parent.sessions = some turns ∧
    Shows (s.parent.rows.filter fun row => row.upTo cursor) turns

def Has (s : ForkRun) (cursor : Nat × Nat) : Prop := ∃ row ∈ s.parent.rows, row.cursor = cursor

lemma upTo_iff : row.upTo cursor ↔
    row.createdAt < cursor.1 ∨ row.createdAt = cursor.1 ∧ row.id ≤ cursor.2 := by
  simp [MessageRow.upTo]

lemma turns_bound (bound : s.parent.sessionId = some k) (within : k < s.parent.sessions.length) :
    s.parent.sessions[k]? = some s.parent.turns := by
  simp [Parent.turns, bound, within]

lemma Aligned.same_row (h : Aligned s) {a b : MessageRow} (mem : a ∈ s.parent.rows)
    (other : b ∈ s.parent.rows) (same : a.id = b.id) : a = b := by
  have apart : (s.parent.rows.map MessageRow.id).Nodup :=
    List.pairwise_map.mpr (h.sorted.imp fun before => before.2.ne)
  exact List.inj_on_of_nodup_map apart mem other same

lemma upTo_refl : row.upTo row.cursor := by simp [upTo_iff, MessageRow.cursor]

lemma Aligned.listed_upTo (h : Aligned s) (has : s.Has point.cursor) (head : s.isHead point)
    (mem : row ∈ s.parent.rows) (listed : row.listed) : row.upTo point.cursor := by
  obtain ⟨same, known, cursor⟩ := has
  have among : row ∈ s.parent.rows.filter MessageRow.listed := List.mem_filter.mpr ⟨mem, listed⟩
  rw [isHead, latest] at head
  cases newest : (s.parent.rows.filter MessageRow.listed).getLast? with
  | none =>
    rw [List.getLast?_eq_none_iff] at newest
    simp [newest] at among
  | some last =>
    rw [newest] at head
    have final : last = same := by
      refine h.same_row (List.mem_of_mem_filter (List.mem_of_getLast? newest)) known ?_
      rw [show same.id = point.id from congrArg Prod.snd cursor]
      simpa using head
    obtain ⟨before, split⟩ := List.getLast?_eq_some_iff.mp newest
    have sorted := h.sorted.filter MessageRow.listed
    rw [split, List.pairwise_append] at sorted
    rw [split, List.mem_append, List.mem_singleton] at among
    rw [← cursor, ← final]
    obtain earlier | rfl := among
    · obtain ⟨le, lt⟩ := sorted.2.2 row earlier last (List.mem_singleton_self _)
      rw [upTo_iff, MessageRow.cursor]
      exact le.lt_or_eq.imp_right fun eq => ⟨eq, lt.le⟩
    · exact upTo_refl

lemma Aligned.past_cursor (h : Aligned s) (has : s.Has cursor) :
    cursor.1 ≤ s.now ∧ cursor.2 < s.nextId := by
  obtain ⟨row, mem, rfl⟩ := has
  exact h.past row mem

lemma Aligned.cut_head (h : Aligned s) (bound : s.parent.sessionId = some k)
    (has : s.Has point.cursor) (head : s.isHead point) (delivered : s.Delivered) :
    Cut s ⟨point.id, k, none⟩ point.cursor := by
  refine ⟨h.past_cursor has, s.parent.turns, ?_, fun turn => ⟨?_, ?_⟩⟩
  · rw [ForkSpec.select, turns_bound bound (h.bound k bound)]
    rfl
  · rintro ⟨row, mem, shown⟩
    exact (h.known row (List.mem_of_mem_filter mem) turn shown).elim id (delivered turn)
  · intro known
    obtain ⟨row, mem, listed, shown⟩ := h.listed turn known
    exact ⟨row, List.mem_filter.mpr ⟨mem, h.listed_upTo has head mem listed⟩, shown⟩

lemma upTo_trans {a b : MessageRow} (first : a.upTo b.cursor) (second : b.upTo cursor) :
    a.upTo cursor := by
  rw [upTo_iff] at *
  simp only [MessageRow.cursor] at first
  omega

lemma Aligned.cut_anchor (h : Aligned s) (bound : s.parent.sessionId = some k)
    (has : s.Has point.cursor) (resolved : s.resolveBackendTurnAnchor point.cursor = some anchor)
    (covers : s.Covers point.cursor) : Cut s ⟨point.id, k, some anchor⟩ point.cursor := by
  obtain ⟨row, among, stamp⟩ := List.mem_filterMap.mp (List.mem_of_getLast? resolved)
  obtain ⟨mem, upTo⟩ := List.mem_filter.mp among
  obtain ⟨shown, known⟩ := h.stamped row mem anchor stamp
  refine ⟨h.past_cursor has, takeThrough anchor s.parent.turns, ?_, fun turn => ?_⟩
  · rw [ForkSpec.select, turns_bound bound (h.bound k bound)]
    exact if_pos known
  · rw [mem_takeThrough h.ordered known]
    constructor
    · rintro ⟨other, among, shows⟩
      obtain ⟨mem, upTo⟩ := List.mem_filter.mp among
      have le : turn ≤ anchor := covers anchor resolved other mem upTo turn shows
      refine ⟨?_, le⟩
      obtain known | active := h.known other mem turn shows
      · exact known
      · rwa [le.antisymm ((h.newest turn active).2 anchor known)]
    · rintro ⟨session, le⟩
      obtain rfl | lt := le.eq_or_lt
      · exact ⟨row, among, shown⟩
      · obtain ⟨first, earlier, shows, before⟩ := h.after row mem anchor shown turn session lt
        exact ⟨first, List.mem_filter.mpr ⟨earlier, upTo_trans before upTo⟩, shows⟩

lemma Aligned.insertRow (h : Aligned s) (at_end : row.createdAt = s.now ∧ row.id = s.nextId)
    (known : ∀ turn ∈ row.turn, turn ∈ s.parent.turns ∨ s.parent.activeTurn = some turn)
    (stamped : ∀ turn ∈ row.backendTurnId, row.turn = some turn ∧ turn ∈ s.parent.turns) :
    Aligned (s.insertRow row) where
  sorted := by
    refine List.pairwise_append.mpr ⟨h.sorted, List.pairwise_singleton _ _, fun other mem => ?_⟩
    simpa [at_end] using h.past other mem
  past other mem := by
    obtain mem | mem := List.mem_append.mp mem
    · exact ⟨(h.past other mem).1, (h.past other mem).2.trans s.nextId.lt_succ_self⟩
    · cases List.mem_singleton.mp mem
      exact ⟨at_end.1.le, at_end.2 ▸ s.nextId.lt_succ_self⟩
  bound := h.bound
  ordered := h.ordered
  fresh := h.fresh
  newest := h.newest
  current := h.current
  listed turn shown := by
    obtain ⟨other, mem, listed⟩ := h.listed turn shown
    exact ⟨other, List.mem_append_left _ mem, listed⟩
  known := List.forall_mem_append.mpr ⟨h.known, List.forall_mem_singleton.mpr known⟩
  stamped := List.forall_mem_append.mpr ⟨h.stamped, List.forall_mem_singleton.mpr stamped⟩
  after other mem turn shown earlier session lt := by
    obtain mem | mem := List.mem_append.mp mem
    · obtain ⟨first, mem, shows, before⟩ := h.after other mem turn shown earlier session lt
      exact ⟨first, List.mem_append_left _ mem, shows, before⟩
    · cases List.mem_singleton.mp mem
      obtain ⟨first, mem, -, shows⟩ := h.listed earlier session
      refine ⟨first, List.mem_append_left _ mem, shows, ?_⟩
      have past := h.past first mem
      rw [upTo_iff, MessageRow.cursor, at_end.1, at_end.2]
      omega

lemma turns_flatten (mem : turn ∈ s.parent.turns) : turn ∈ s.parent.sessions.flatten := by
  rw [Parent.turns] at mem
  cases found : s.parent.sessionId.bind fun k => s.parent.sessions[k]? with
  | none => simp [found] at mem
  | some session =>
    rw [found] at mem
    obtain ⟨k, -, found⟩ := Option.bind_eq_some_iff.mp found
    exact List.mem_flatten.mpr ⟨session, List.mem_of_getElem? found, mem⟩

def claim (s : ForkRun) : ForkRun :=
  { s with parent := { s.parent with activeTurn := some s.nextTurn }, nextTurn := s.nextTurn + 1 }

lemma Aligned.claim (h : Aligned s) (idle : s.parent.activeTurn = none) : Aligned s.claim where
  sorted := h.sorted
  past := h.past
  bound := h.bound
  ordered := h.ordered
  fresh turn mem := (h.fresh turn mem).trans s.nextTurn.lt_succ_self
  newest turn active := by
    cases active
    exact ⟨s.nextTurn.lt_succ_self, fun earlier mem => (h.fresh earlier (turns_flatten mem)).le⟩
  current turn active mem := by
    cases active
    exact absurd (h.fresh _ mem) (lt_irrefl _)
  listed := h.listed
  known row mem turn shown := by
    obtain session | active := h.known row mem turn shown
    · exact .inl session
    · simp [idle] at active
  stamped := h.stamped
  after := h.after

lemma Aligned.prompt (h : Aligned s) (idle : s.parent.activeTurn = none) {hidden : Bool} :
    Aligned (s.prompt true hidden) :=
  (h.claim idle).insertRow ⟨rfl, rfl⟩ (fun _ mem => .inr mem) nofun

/-- The claimed turn becomes the last of its session. -/
def delivered (s : ForkRun) (turn k : Nat) : ForkRun :=
  { s with parent := { s.parent with sessions := s.parent.sessions.modify k (· ++ [turn]) } }

lemma deliver_cases (s : ForkRun) :
    s.deliver = s ∨ ∃ turn k, s.parent.activeTurn = some turn ∧ s.parent.sessionId = some k ∧
      turn ∉ s.parent.turns ∧ s.deliver = s.delivered turn k := by
  unfold deliver
  split
  case h_1 turn k active bound =>
    split
    · exact .inl rfl
    · exact .inr ⟨turn, k, active, bound, ‹_›, rfl⟩
  case h_2 => exact .inl rfl

lemma turns_delivered (turn : Nat) (bound : s.parent.sessionId = some k)
    (within : k < s.parent.sessions.length) :
    (s.delivered turn k).parent.turns = s.parent.turns ++ [turn] := by
  simp [delivered, Parent.turns, bound, within]

lemma mem_delivered {other : Nat} (mem : other ∈ (s.delivered turn k).parent.sessions.flatten) :
    other ∈ s.parent.sessions.flatten ∨ other = turn := by
  obtain ⟨session, found, mem⟩ := List.mem_flatten.mp mem
  obtain ⟨i, found⟩ := List.mem_iff_getElem?.mp found
  rw [delivered, List.getElem?_modify] at found
  obtain ⟨old, was, now⟩ := Option.map_eq_some_iff.mp found
  have within := List.mem_of_getElem? was
  split_ifs at now
  · rw [← now, List.mem_append, List.mem_singleton] at mem
    exact mem.imp_left fun mem => List.mem_flatten.mpr ⟨old, within, mem⟩
  · rw [← now] at mem
    exact .inl (List.mem_flatten.mpr ⟨old, within, mem⟩)

lemma Aligned.delivered (h : Aligned s) (prompted : Prompted s) (active : s.parent.activeTurn = some turn)
    (bound : s.parent.sessionId = some k) (missing : turn ∉ s.parent.turns) :
    Aligned (s.delivered turn k) := by
  have turns := turns_delivered turn bound (h.bound k bound)
  constructor
  case sorted => exact h.sorted
  case past => exact h.past
  case bound =>
    intro k bound
    rw [ForkRun.delivered, List.length_modify]
    exact h.bound k bound
  case ordered =>
    rw [turns, List.pairwise_append]
    refine ⟨h.ordered, List.pairwise_singleton _ _, fun earlier mem last single => ?_⟩
    cases List.mem_singleton.mp single
    exact ((h.newest turn active).2 earlier mem).lt_of_ne fun same => missing (same ▸ mem)
  case fresh =>
    intro other mem
    obtain mem | rfl := mem_delivered mem
    · exact h.fresh other mem
    · exact (h.newest other active).1
  case newest =>
    intro other same
    rw [turns]
    refine ⟨(h.newest other same).1, List.forall_mem_append.mpr ⟨(h.newest other same).2, ?_⟩⟩
    cases active.symm.trans same
    exact List.forall_mem_singleton.mpr le_rfl
  case current =>
    intro other same _
    cases active.symm.trans same
    rw [turns]
    exact List.mem_append_right _ (List.mem_singleton_self _)
  case listed =>
    rw [turns, List.forall_mem_append, List.forall_mem_singleton]
    exact ⟨h.listed, prompted turn active⟩
  case known =>
    intro row mem other shown
    rw [turns]
    exact (h.known row mem other shown).imp_left (List.mem_append_left _)
  case stamped =>
    intro row mem other stamp
    rw [turns]
    exact (h.stamped row mem other stamp).imp_right (List.mem_append_left _)
  case after =>
    intro row mem other shown earlier session lt
    rw [turns, List.mem_append, List.mem_singleton] at session
    obtain session | rfl := session
    · exact h.after row mem other shown earlier session lt
    · obtain known | same := h.known row mem other shown
      · exact absurd ((h.newest earlier active).2 other known) (not_le.mpr lt)
      · cases active.symm.trans same
        exact absurd lt (lt_irrefl _)

/-- A turn that no session has got is shown no more. -/
def forget (turn : Nat) (row : MessageRow) : MessageRow :=
  if row.turn = some turn then { row with turn := none } else row

@[simp] lemma cursor_forget : (forget turn row).cursor = row.cursor := by
  unfold forget
  split <;> rfl

lemma createdAt_forget : (forget turn row).createdAt = row.createdAt := congrArg Prod.fst cursor_forget

lemma id_forget : (forget turn row).id = row.id := congrArg Prod.snd cursor_forget

@[simp] lemma upTo_forget : (forget turn row).upTo cursor = row.upTo cursor := by
  rw [MessageRow.upTo, createdAt_forget, id_forget, MessageRow.upTo]

@[simp] lemma backendTurnId_forget : (forget turn row).backendTurnId = row.backendTurnId := by
  unfold forget
  split <;> rfl

@[simp] lemma listed_forget : (forget turn row).listed = row.listed := by
  unfold forget
  split <;> rfl

lemma turn_forget {other : Nat} :
    (forget turn row).turn = some other ↔ row.turn = some other ∧ other ≠ turn := by
  unfold forget
  split
  case isTrue same => simp_all [eq_comm]
  case isFalse apart =>
    refine ⟨fun shown => ⟨shown, ?_⟩, And.left⟩
    rintro rfl
    exact apart shown

def released (s : ForkRun) (rows : List MessageRow) : ForkRun :=
  { s with parent := { s.parent with activeTurn := none, rows } }

lemma endTurn_cases (s : ForkRun) :
    s.endTurn = s ∨ ∃ turn, s.parent.activeTurn = some turn ∧
      (turn ∈ s.parent.sessions.flatten ∧ s.endTurn = s.released s.parent.rows ∨
      turn ∉ s.parent.sessions.flatten ∧ s.endTurn = s.released (s.parent.rows.map (forget turn))) := by
  unfold endTurn
  split
  case h_1 => exact .inl rfl
  case h_2 turn active =>
    refine .inr ⟨turn, active, ?_⟩
    split
    · exact .inl ⟨‹_›, rfl⟩
    · exact .inr ⟨‹_›, rfl⟩

section

variable (h : Aligned s)
include h

lemma Aligned.released (active : s.parent.activeTurn = some turn)
    (got : turn ∈ s.parent.turns) : Aligned (s.released s.parent.rows) where
  sorted := h.sorted
  past := h.past
  bound := h.bound
  ordered := h.ordered
  fresh := h.fresh
  newest := nofun
  current := nofun
  listed := h.listed
  known row mem other shown := by
    obtain known | same := h.known row mem other shown
    · exact .inl known
    · cases active.symm.trans same
      exact .inl got
  stamped := h.stamped
  after := h.after

lemma Aligned.forgotten (active : s.parent.activeTurn = some turn)
    (missing : turn ∉ s.parent.turns) : Aligned (s.released (s.parent.rows.map (forget turn))) where
  sorted := by
    refine List.pairwise_map.mpr (h.sorted.imp ?_)
    simp only [createdAt_forget, id_forget, imp_self, implies_true]
  past := by
    simpa only [ForkRun.released, List.forall_mem_map, createdAt_forget, id_forget] using h.past
  bound := h.bound
  ordered := h.ordered
  fresh := h.fresh
  newest := nofun
  current := nofun
  listed other session := by
    obtain ⟨row, mem, listed, shown⟩ := h.listed other session
    refine ⟨_, List.mem_map_of_mem mem, by rwa [listed_forget], turn_forget.mpr ⟨shown, ?_⟩⟩
    rintro rfl
    exact missing session
  known := by
    refine List.forall_mem_map.mpr fun row mem other shown => .inl ?_
    obtain ⟨shown, apart⟩ := turn_forget.mp shown
    obtain known | same := h.known row mem other shown
    · exact known
    · exact absurd (Option.some.inj (same.symm.trans active)) apart
  stamped := by
    refine List.forall_mem_map.mpr fun row mem other stamp => ?_
    rw [backendTurnId_forget] at stamp
    obtain ⟨shown, session⟩ := h.stamped row mem other stamp
    refine ⟨turn_forget.mpr ⟨shown, ?_⟩, session⟩
    rintro rfl
    exact missing session
  after := by
    refine List.forall_mem_map.mpr fun row mem other shown earlier session lt => ?_
    obtain ⟨first, mem, shows, before⟩ :=
      h.after row mem other (turn_forget.mp shown).1 earlier session lt
    refine ⟨_, List.mem_map_of_mem mem, turn_forget.mpr ⟨shows, ?_⟩, ?_⟩
    · rintro rfl
      exact missing session
    · rwa [cursor_forget, upTo_forget]

lemma Aligned.endTurn : Aligned s.endTurn := by
  obtain same | ⟨turn, active, ⟨got, ended⟩ | ⟨missing, ended⟩⟩ := endTurn_cases s
  · rwa [same]
  · rw [ended]
    exact h.released active (h.current turn active got)
  · rw [ended]
    exact h.forgotten active fun mem => missing (turns_flatten mem)

lemma Aligned.of_same (rows : t.parent.rows = s.parent.rows)
    (turns : t.parent.turns = s.parent.turns)
    (flat : t.parent.sessions.flatten = s.parent.sessions.flatten)
    (active : t.parent.activeTurn = s.parent.activeTurn) (nextTurn : t.nextTurn = s.nextTurn)
    (time : s.now ≤ t.now ∧ s.nextId ≤ t.nextId)
    (bound : ∀ k ∈ t.parent.sessionId, k < t.parent.sessions.length) : Aligned t where
  sorted := rows ▸ h.sorted
  past row mem := by
    rw [rows] at mem
    exact ⟨(h.past row mem).1.trans time.1, (h.past row mem).2.trans_le time.2⟩
  bound := bound
  ordered := turns ▸ h.ordered
  fresh := by
    rw [flat, nextTurn]
    exact h.fresh
  newest := by
    rw [active, nextTurn, turns]
    exact h.newest
  current := by
    rw [active, flat, turns]
    exact h.current
  listed := by
    rw [turns, rows]
    exact h.listed
  known := by
    rw [rows, turns, active]
    exact h.known
  stamped := by
    rw [rows, turns]
    exact h.stamped
  after := by
    rw [rows, turns]
    exact h.after

lemma Aligned.bindSession : Aligned s.bindSession := by
  unfold ForkRun.bindSession
  split
  case h_1 => exact h
  case h_2 unbound =>
    refine h.of_same rfl ?_ ?_ rfl rfl ⟨le_rfl, le_rfl⟩ ?_
    · simp [Parent.turns, unbound]
    · simp
    · simp

end

lemma Prompted.insertRow (h : Prompted s) : Prompted (s.insertRow row) := by
  intro turn active
  obtain ⟨other, mem, shown⟩ := h turn active
  exact ⟨other, List.mem_append_left _ mem, shown⟩

lemma prompted_prompt {hidden : Bool} : Prompted (s.prompt true hidden) := by
  intro turn active
  cases active
  exact ⟨_, List.mem_append_right _ (List.mem_singleton_self _), rfl, rfl⟩

lemma prompted_endTurn (h : Prompted s) : Prompted s.endTurn := by
  obtain same | ⟨turn, active, ⟨got, ended⟩ | ⟨missing, ended⟩⟩ := endTurn_cases s
  · rwa [same]
  · rw [ended]
    nofun
  · rw [ended]
    nofun

lemma Has.insertRow (h : s.Has cursor) : (s.insertRow row).Has cursor := by
  obtain ⟨other, mem, same⟩ := h
  exact ⟨other, List.mem_append_left _ mem, same⟩

lemma Has.forget (h : s.Has cursor) : (s.released (s.parent.rows.map (forget turn))).Has cursor := by
  obtain ⟨other, mem, same⟩ := h
  exact ⟨_, List.mem_map_of_mem mem, cursor_forget.trans same⟩

lemma Cut.insertRow (h : Cut s spec cursor) (at_end : row.createdAt = s.now ∧ row.id = s.nextId) :
    Cut (s.insertRow row) spec cursor where
  past := ⟨h.past.1, h.past.2.trans s.nextId.lt_succ_self⟩
  shows := by
    obtain ⟨turns, selected, shows⟩ := h.shows
    refine ⟨turns, selected, ?_⟩
    have later : ¬ row.upTo cursor := by
      have past := h.past
      rw [upTo_iff, at_end.1, at_end.2]
      omega
    rw [ForkRun.insertRow, List.filter_append, List.filter_singleton]
    simpa [later] using shows

lemma Cut.forget (h : Cut s spec cursor) (missing : turn ∉ s.parent.sessions.flatten) :
    Cut (s.released (s.parent.rows.map (forget turn))) spec cursor where
  past := h.past
  shows := by
    obtain ⟨turns, selected, shows⟩ := h.shows
    refine ⟨turns, selected, fun other => ⟨?_, fun session => ?_⟩⟩
    · rintro ⟨_, among, shown⟩
      obtain ⟨mem, upTo⟩ := List.mem_filter.mp among
      obtain ⟨row, was, rfl⟩ := List.mem_map.mp mem
      rw [upTo_forget] at upTo
      exact (shows other).mp ⟨row, List.mem_filter.mpr ⟨was, upTo⟩, (turn_forget.mp shown).1⟩
    · obtain ⟨row, among, shown⟩ := (shows other).mpr session
      obtain ⟨mem, upTo⟩ := List.mem_filter.mp among
      refine ⟨_, List.mem_filter.mpr ⟨List.mem_map_of_mem mem, by rwa [upTo_forget]⟩, ?_⟩
      refine turn_forget.mpr ⟨shown, ?_⟩
      rintro rfl
      exact missing (select_flatten selected session)

lemma Cut.of_same (h : Cut s spec cursor) (rows : t.parent.rows = s.parent.rows)
    (time : s.now ≤ t.now ∧ s.nextId ≤ t.nextId)
    (select : ∀ turns, spec.select s.parent.sessions = some turns →
      spec.select t.parent.sessions = some turns) : Cut t spec cursor where
  past := ⟨h.past.1.trans time.1, h.past.2.trans_le time.2⟩
  shows := by
    obtain ⟨turns, selected, shows⟩ := h.shows
    exact ⟨turns, select turns selected, rows ▸ shows⟩

structure GoesOn (s t : ForkRun) : Prop where
  call : t.call = s.call
  forked : t.forked = s.forked
  aligned : s.undecided → Aligned s → Prompted s → Aligned t ∧ Prompted t
  bound : s.undecided → ∀ k ∈ s.parent.sessionId, t.parent.sessionId = some k
  has : ∀ cursor, s.Has cursor → t.Has cursor
  cut : ∀ spec ∈ s.pending, ∀ cursor, Cut s spec cursor → Cut t spec cursor
  select : ∀ spec ∈ s.pending, ∀ turns, spec.select s.parent.sessions = some turns →
    spec.select t.parent.sessions = some turns

lemma goesOn_insertRow (at_end : row.createdAt = s.now ∧ row.id = s.nextId)
    (known : ∀ turn ∈ row.turn, turn ∈ s.parent.turns ∨ s.parent.activeTurn = some turn)
    (stamped : ∀ turn ∈ row.backendTurnId, row.turn = some turn ∧ turn ∈ s.parent.turns) :
    GoesOn s (s.insertRow row) where
  call := rfl
  forked := rfl
  aligned _ aligned prompted := ⟨aligned.insertRow at_end known stamped, prompted.insertRow⟩
  bound _ _ bound := bound
  has _ := .insertRow
  cut _ _ _ cut := cut.insertRow at_end
  select _ _ _ selected := selected

lemma goesOn_prompt {persisted hidden : Bool} (idle : s.parent.activeTurn = none)
    (heeded : s.Heeded (.prompt persisted hidden)) : GoesOn s (s.prompt persisted hidden) := by
  cases persisted with
  | true =>
    exact ⟨rfl, rfl, fun _ aligned _ => ⟨aligned.prompt idle, prompted_prompt⟩, fun _ _ bound => bound,
      fun _ => Has.insertRow (s := s.claim), fun _ _ _ cut => Cut.insertRow (s := s.claim)
        (cut.of_same rfl ⟨le_rfl, le_rfl⟩ fun _ => id) ⟨rfl, rfl⟩, fun _ _ _ selected => selected⟩
  | false =>
    refine ⟨rfl, rfl, fun undecided => ?_, fun _ _ bound => bound, fun _ => id,
      fun _ _ _ cut => cut.of_same rfl ⟨le_rfl, le_rfl⟩ fun _ => id, fun _ _ _ selected => selected⟩
    exact absurd (heeded undecided) Bool.false_ne_true

lemma GoesOn.refl : GoesOn s s :=
  ⟨rfl, rfl, fun _ aligned prompted => ⟨aligned, prompted⟩, fun _ _ bound => bound, fun _ => id,
    fun _ _ _ => id, fun _ _ _ => id⟩

lemma goesOn_deliver (heeded : s.Heeded .deliver) : GoesOn s s.deliver := by
  obtain same | ⟨turn, k, active, bound, missing, delivered⟩ := deliver_cases s
  · rw [same]
    exact .refl
  · have select : ∀ spec ∈ s.pending, ∀ turns, spec.select s.parent.sessions = some turns →
        spec.select (s.delivered turn k).parent.sessions = some turns := by
      intro spec pending turns selected
      refine select_deliver selected fun head same => ?_
      exact missing (heeded spec pending head (same ▸ bound) turn active)
    rw [delivered]
    exact ⟨rfl, rfl, fun _ aligned prompted => ⟨aligned.delivered prompted active bound missing, prompted⟩,
      fun _ _ bound => bound, fun _ => id,
      fun spec pending _ cut => cut.of_same rfl ⟨le_rfl, le_rfl⟩ (select spec pending), select⟩

lemma goesOn_endTurn : GoesOn s s.endTurn := by
  have aligned : s.undecided → Aligned s → Prompted s → Aligned s.endTurn ∧ Prompted s.endTurn :=
    fun _ aligned prompted => ⟨aligned.endTurn, prompted_endTurn prompted⟩
  obtain same | ⟨turn, active, ⟨got, ended⟩ | ⟨missing, ended⟩⟩ := endTurn_cases s
  · rw [same]
    exact .refl
  · rw [ended] at aligned ⊢
    exact ⟨rfl, rfl, aligned, fun _ _ bound => bound, fun _ => id,
      fun _ _ _ cut => cut.of_same rfl ⟨le_rfl, le_rfl⟩ fun _ => id, fun _ _ _ => id⟩
  · rw [ended] at aligned ⊢
    exact ⟨rfl, rfl, aligned, fun _ _ bound => bound, fun _ => .forget,
      fun _ _ _ cut => cut.forget missing, fun _ _ _ => id⟩

lemma goesOn_bindSession : GoesOn s s.bindSession := by
  have aligned : s.undecided → Aligned s → Prompted s → Aligned s.bindSession ∧ Prompted s.bindSession := by
    refine fun _ aligned prompted => ⟨aligned.bindSession, ?_⟩
    unfold ForkRun.bindSession
    split <;> exact prompted
  unfold ForkRun.bindSession at aligned ⊢
  split at aligned
  case h_1 => exact .refl
  case h_2 unbound =>
    exact ⟨rfl, rfl, aligned, fun _ k bound => by simp [unbound] at bound, fun _ => id,
      fun _ _ _ cut => cut.of_same rfl ⟨le_rfl, le_rfl⟩ fun _ => select_bind, fun _ _ _ => select_bind⟩

lemma goesOn_next (possible : s.Possible e) (heeded : s.Heeded e) (parent : ∀ ok, e ≠ .step ok)
    (opens : e ≠ .materialize) : GoesOn s (s.next e) := by
  cases e with
  | prompt persisted hidden => exact goesOn_prompt possible heeded
  | deliver => exact goesOn_deliver heeded
  | row turn stamped type hidden msgId =>
    refine goesOn_insertRow ⟨rfl, rfl⟩ (fun t shown => ?_) fun t stamp => ?_
    · exact (possible t shown).imp_right And.right
    · cases stamped with
      | false => cases stamp
      | true => exact ⟨stamp, (possible t stamp).resolve_right (by simp)⟩
  | endTurn => exact goesOn_endTurn
  | tick ms =>
    have later : s.now ≤ (s.next (.tick ms)).now ∧ s.nextId ≤ (s.next (.tick ms)).nextId :=
      ⟨Nat.le_add_right _ _, le_rfl⟩
    exact ⟨rfl, rfl, fun _ aligned prompted =>
        ⟨aligned.of_same rfl rfl rfl rfl rfl later aligned.bound, prompted⟩,
      fun _ _ bound => bound, fun _ => id, fun _ _ _ cut => cut.of_same rfl later fun _ => id,
      fun _ _ _ => id⟩
  | bindSession => exact goesOn_bindSession
  | loseSession =>
    exact ⟨rfl, rfl, fun undecided => absurd undecided heeded, fun undecided => absurd undecided heeded,
      fun _ => id, fun _ _ _ cut => cut.of_same rfl ⟨le_rfl, le_rfl⟩ fun _ => id, fun _ _ _ => id⟩
  | step ok => exact absurd rfl (parent ok)
  | materialize => exact absurd rfl opens

def Tracked (s : ForkRun) : Prop :=
  match s.call with
  | .received | .checked => s.forked = none ∧ Aligned s ∧ Prompted s
  | .anchored k | .capable k _ => s.forked = none ∧ Aligned s ∧ Prompted s ∧ s.parent.sessionId = some k
  | .pointed k _ point | .behind k point =>
    s.forked = none ∧ Aligned s ∧ Prompted s ∧ s.parent.sessionId = some k ∧ s.Has point.cursor
  | .resolved spec cursor => s.forked = none ∧ Cut s spec cursor
  | .created spec cursor | .snapshotted spec cursor | .sessioned spec cursor =>
    (∃ f, s.forked = some f ∧ f.spec = spec ∧ f.session = none) ∧ Cut s spec cursor
  | .copied | .succeeded => ∀ f ∈ s.forked, f.session = none →
    ∃ turns, f.spec.select s.parent.sessions = some turns ∧ Shows f.rows turns
  | .failed _ => s.forked = none

lemma Tracked.goesOn (h : Tracked s) (goes : GoesOn s t) : Tracked t := by
  unfold Tracked at h ⊢
  rw [goes.call, goes.forked]
  cases call : s.call <;> simp only [call] at h ⊢
  case received | checked =>
    obtain ⟨none, aligned, prompted⟩ := h
    exact ⟨none, goes.aligned (by simp [undecided, call]) aligned prompted⟩
  case anchored k | capable k _ =>
    obtain ⟨none, aligned, prompted, bound⟩ := h
    have undecided : s.undecided := by simp [undecided, call]
    obtain ⟨aligned, prompted⟩ := goes.aligned undecided aligned prompted
    exact ⟨none, aligned, prompted, goes.bound undecided k bound⟩
  case pointed k _ point | behind k point =>
    obtain ⟨none, aligned, prompted, bound, has⟩ := h
    have undecided : s.undecided := by simp [undecided, call]
    obtain ⟨aligned, prompted⟩ := goes.aligned undecided aligned prompted
    exact ⟨none, aligned, prompted, goes.bound undecided k bound, goes.has _ has⟩
  case resolved spec cursor | created spec cursor | snapshotted spec cursor | sessioned spec cursor =>
    exact h.imp_right (goes.cut spec (by simp [pending, call]) cursor)
  case copied | succeeded =>
    intro f forked fresh
    obtain ⟨turns, selected, shows⟩ := h f forked fresh
    refine ⟨turns, goes.select f.spec ?_ turns selected, shows⟩
    simp [pending, call, Option.mem_def.mp forked, fresh]
  case failed => exact h

lemma shows_copyMessagesUpTo (shows : Shows (s.parent.rows.filter fun row => row.upTo cursor) turns) :
    Shows (s.copyMessagesUpTo cursor) turns := by
  intro turn
  rw [← shows turn]
  constructor
  · rintro ⟨copy, mem, shown⟩
    obtain ⟨i, within, rfl⟩ := List.mem_mapIdx.mp mem
    exact ⟨_, List.getElem_mem within, shown⟩
  · rintro ⟨row, mem, shown⟩
    obtain ⟨i, within, rfl⟩ := List.getElem_of_mem mem
    exact ⟨_, List.mem_mapIdx.mpr ⟨i, within, rfl⟩, shown⟩

lemma sessionAnchor_ok {p : Parent} (anchored : sessionAnchor p = .ok k)
    (heeded : p.agentType = .aionrs → p.sessionId.isSome) : p.sessionId = some k := by
  unfold sessionAnchor at anchored
  split_ifs at anchored with acp aionrs
  · split at anchored
    case h_1 sessionId bound =>
      cases anchored
      exact bound
    case h_2 => cases anchored
  · obtain ⟨sessionId, bound⟩ := Option.isSome_iff_exists.mp (heeded aionrs)
    rw [bound] at anchored ⊢
    cases anchored
    rfl

lemma has_forkPoint (found : s.forkPoint = some point) : s.Has point.cursor := by
  refine ⟨point, ?_, rfl⟩
  obtain byId | ⟨-, byMsgId⟩ := Option.or_eq_some_iff.mp found
  · exact List.mem_of_find?_eq_some byId
  · exact List.mem_of_find?_eq_some byMsgId

lemma Aligned.reach (h : Aligned s) (call : ForkStage) : Aligned { s with call } :=
  h.of_same rfl rfl rfl rfl rfl ⟨le_rfl, le_rfl⟩ h.bound

lemma Cut.reach (h : Cut s spec cursor) (call : ForkStage) : Cut { s with call } spec cursor :=
  h.of_same rfl ⟨le_rfl, le_rfl⟩ fun _ => id

lemma tracked_forkStep (h : Tracked s) (heeded : s.HeededStep) : Tracked s.forkStep := by
  unfold Tracked at h
  unfold HeededStep at heeded
  unfold forkStep
  cases call : s.call <;> simp only [call] at h heeded ⊢
  case received =>
    split_ifs
    · exact h.1
    · exact h.1
    · exact ⟨h.1, h.2.1.reach _, h.2.2⟩
  case checked =>
    obtain ⟨none, aligned, prompted⟩ := h
    split
    case h_1 k anchored => exact ⟨none, aligned.reach _, prompted, sessionAnchor_ok anchored heeded⟩
    case h_2 => exact none
  case anchored k =>
    obtain ⟨none, aligned, prompted, bound⟩ := h
    split
    · exact ⟨none, aligned.reach _, prompted, bound⟩
    · exact none
  case capable k atTurn =>
    obtain ⟨none, aligned, prompted, bound⟩ := h
    split
    case h_1 point found => exact ⟨none, aligned.reach _, prompted, bound, has_forkPoint found⟩
    case h_2 => exact none
  case pointed k atTurn point =>
    obtain ⟨none, aligned, prompted, bound, has⟩ := h
    split_ifs with head
    · exact ⟨none, (aligned.cut_head bound has head (heeded head)).reach _⟩
    · exact ⟨none, aligned.reach _, prompted, bound, has⟩
    · exact none
  case behind k point =>
    obtain ⟨none, aligned, prompted, bound, has⟩ := h
    split
    case h_1 anchor resolved => exact ⟨none, (aligned.cut_anchor bound has resolved heeded).reach _⟩
    case h_2 => exact none
  case resolved spec cursor => exact ⟨⟨_, rfl, rfl, rfl⟩, h.2.past, h.2.shows⟩
  case created spec cursor | snapshotted spec cursor =>
    obtain ⟨⟨f, forked, spec, fresh⟩, cut⟩ := h
    rw [forked]
    exact ⟨⟨_, rfl, spec, fresh⟩, cut.past, cut.shows⟩
  case sessioned spec cursor =>
    obtain ⟨⟨f, forked, rfl, fresh⟩, cut⟩ := h
    obtain ⟨turns, selected, shows⟩ := cut.shows
    rw [forked]
    rintro _ ⟨⟩ -
    exact ⟨turns, selected, shows_copyMessagesUpTo shows⟩
  case copied => exact h
  case succeeded | failed =>
    unfold Tracked
    rw [call]
    exact h

lemma tracked_materialize (h : Tracked s) : Tracked (s.next .materialize) := by
  rw [ForkRun.next]
  split
  case isTrue succeeded =>
    unfold Tracked at h
    simp only [succeeded] at h
    unfold Tracked ForkRun.materialize
    simp only [succeeded]
    rintro f forked fresh
    obtain ⟨f, was, rfl⟩ := Option.mem_map.mp forked
    obtain ⟨older, -⟩ := Option.or_eq_none_iff.mp fresh
    exact h f was older
  case isFalse => exact h

lemma Tracked.next (h : Tracked s) (possible : s.Possible e) (heeded : s.Heeded e) :
    Tracked (s.next e) := by
  cases e with
  | step ok =>
    rw [ForkRun.next, step]
    cases ok with
    | true => exact tracked_forkStep h heeded.1
    | false =>
      have none : s.forked = none := by simpa using heeded.2 rfl
      split
      · exact tracked_forkStep h heeded.1
      · exact none
  | materialize => exact tracked_materialize h
  | _ => exact h.goesOn (goesOn_next possible heeded (fun _ => nofun) nofun)

lemma Tracked.sameHistory (h : Tracked s) (possible : s.Possible e) (heeded : s.Heeded e) :
    s.SameHistory e where
  shows _ succeeded := by
    unfold Tracked at h
    rwa [succeeded] at h
  clean error failed := by
    have after := h.next possible heeded
    unfold Tracked at after
    rwa [failed] at after

lemma tracked_start {parent : Parent} {now nextId nextTurn messageId : Nat}
    (aligned : Aligned (start parent now nextId nextTurn messageId))
    (prompted : Prompted (start parent now nextId nextTurn messageId)) :
    Tracked (start parent now nextId nextTurn messageId) :=
  ⟨rfl, aligned, prompted⟩

/-- In every run that heeds the condition the new conversation shows the turns that its agent gets with the
first open, and a fork that fails leaves no row. -/
theorem fork_same_history (parent : Parent) (now nextId nextTurn messageId : Nat) (events : List ForkEvent)
    (aligned : Aligned (start parent now nextId nextTurn messageId))
    (prompted : Prompted (start parent now nextId nextTurn messageId))
    (heeded : LTS.EnabledAll (fun s e => s.Possible e ∧ s.Heeded e) next
      (start parent now nextId nextTurn messageId) events) :
    LTS.EnabledAll SameHistory next (start parent now nextId nextTurn messageId) events :=
  heeded.imp (fun _ _ h c => ⟨h.sameHistory c.1 c.2, h.next c.1 c.2⟩) (tracked_start aligned prompted)

def twoTurns : Parent where
  team := false
  agentType := .acp
  acpSession := true
  snapshot := true
  atTurn := some true
  sessionId := some 0
  sessions := [[0, 1]]
  activeTurn := none
  rows :=
    [ ⟨0, some 0, "text", false, 10, none, some 0⟩, ⟨1, some 1, "text", false, 11, some 0, some 0⟩,
      ⟨2, some 2, "text", false, 20, none, some 1⟩, ⟨3, some 3, "text", false, 21, some 1, some 1⟩ ]

/-- It is forked at the first answer, while another turn goes on. -/
theorem fork_same_history_earlier :
    LTS.EnabledAll SameHistory next (start twoTurns 30 4 2 1)
      [ .step true, .step true, .step true, .step true, .prompt true false, .step true, .deliver, .step true,
        .row (some 2) true "text" false none, .step true, .step true, .step true, .endTurn, .step true,
        .step true, .prompt false false, .deliver, .materialize ] :=
  fork_same_history _ _ _ _ _ _ (by constructor <;> decide) nofun (by decide)

/-- The head of the session moves on until the new conversation is first opened. -/
theorem head_moves :
    ¬ ∀ parent now nextId nextTurn messageId events,
      Aligned (start parent now nextId nextTurn messageId) →
      Prompted (start parent now nextId nextTurn messageId) →
      LTS.EnabledAll Possible next (start parent now nextId nextTurn messageId) events →
      LTS.EnabledAll SameHistory next (start parent now nextId nextTurn messageId) events := by
  intro h
  have run := h twoTurns 30 4 2 3
    [ .step true, .step true, .step true, .step true, .step true, .step true, .step true, .step true,
      .step true, .step true, .prompt true false, .deliver, .materialize ]
    (by constructor <;> decide) nofun (by decide)
  obtain ⟨-, -, -, -, -, -, -, -, -, -, -, -, last, -⟩ := run
  obtain ⟨turns, selected, shows⟩ := last.shows rfl rfl _ rfl rfl
  cases selected
  obtain ⟨row, mem, shown⟩ := (shows 2).mpr (by decide)
  revert row
  decide

end KiCore.Conversation.ForkRun

import KiCore.Session.Lifecycle

/-!
# Requests to the user

A running turn counts the requests it waits for, by their kind, and does not keep their ids. The
counters follow the outstanding requests as long as every resolution answers a request of its own kind
that is pending, or finds nothing pending that it could take off the counter: `requiresAction_of_orderly`.
A duplicate resolution while another request of the kind is pending takes that one off.
-/

namespace KiCore.Session

open KiCore.Lib

inductive WaitingOn where
  | approval
  | auth
  | question
  deriving DecidableEq

inductive PermissionDecision where
  | approved
  | denied
  | allowAlways
  deriving DecidableEq

abbrev Request : Type := String × WaitingOn

def RequiresActionSet.count (set : RequiresActionSet) : WaitingOn → Nat
  | .approval => set.waitingOnApproval
  | .auth => set.waitingOnAuth
  | .question => set.waitingOnQuestion

def PermissionKind.waitingOn : PermissionKind → WaitingOn
  | .tool => .approval
  | .auth => .auth

def SessionEvent.raises : SessionEvent → Option Request
  | .permission requestId kind => some (requestId, kind.waitingOn)
  | .ask requestId => some (requestId, .question)
  | _ => none

def SessionEvent.resolves : SessionEvent → Option Request
  | .permissionResolved requestId kind => some (requestId, kind.waitingOn)
  | .askResolved requestId => some (requestId, .question)
  | _ => none

def SessionEvent.Answers (e : SessionEvent) (requestId : String) : Prop :=
  e.resolves.map Prod.fst = some requestId

instance (e : SessionEvent) (requestId : String) : Decidable (e.Answers requestId) :=
  inferInstanceAs (Decidable (_ = _))

/-- The requests that no later event resolves. -/
def outstanding : List SessionEvent → List Request
  | [] => []
  | e :: es =>
    match e.raises with
    | some request =>
      if ∃ later ∈ es, later.Answers request.1 then outstanding es
      else request :: outstanding es
    | none => outstanding es

def DistinctIds (es : List SessionEvent) : Prop :=
  ((es.filterMap SessionEvent.raises).map Prod.fst).Nodup

instance (es : List SessionEvent) : Decidable (DistinctIds es) :=
  inferInstanceAs (Decidable (List.Nodup _))

/-- After a `TurnStarted` and the events of its turn the session requires an action, if it still runs,
exactly when a request of the turn is outstanding. -/
def FollowsRequests (s : SessionState) (epoch : Nat) (es : List SessionEvent) : Prop :=
  ∀ turn, (SessionEvent.turnStarted epoch :: es).foldl next s = .running turn →
    (isRequiresAction (.running turn) = true ↔ outstanding es ≠ [])

variable (pending : List Request)

def pend (e : SessionEvent) : List Request :=
  (pending.filter fun request => ¬ e.Answers request.1) ++ e.raises.toList

/-- The number of pending requests under a counter. -/
def waiting (k : WaitingOn) (pending : List Request) : Nat :=
  pending.countP fun request => request.2 = k

/-- A request finds its counter below its maximum; a resolution answers a pending request under its own
counter, or has an id that is not pending and a counter under which nothing is pending. -/
def Orderly (e : SessionEvent) : Prop :=
  match e.raises, e.resolves with
  | some request, _ => waiting request.2 pending < u32Max
  | none, some answer =>
    answer ∈ pending ∨ ∀ request ∈ pending, request.1 ≠ answer.1 ∧ request.2 ≠ answer.2
  | none, none => True

instance (e : SessionEvent) : Decidable (Orderly pending e) := by
  unfold Orderly
  split <;> infer_instance

variable {s : SessionState} {turn turn' : RunningTurn} {e : SessionEvent} {es : List SessionEvent}
  {pending : List Request} {request : Request} {k : WaitingOn} {epoch : Nat}

lemma resolves_of_raises (h : e.raises = some request) : e.resolves = none := by
  cases e <;> first | rfl | cases h

lemma foldl_pend (pending : List Request) (es : List SessionEvent) :
    es.foldl pend pending =
      (pending.filter fun request => ¬ ∃ e ∈ es, e.Answers request.1) ++ outstanding es := by
  induction es generalizing pending with
  | nil => simp [outstanding]
  | cons e es ih =>
    have kept : (pend pending e).filter (fun request => ¬ ∃ later ∈ es, later.Answers request.1) =
        (pending.filter fun request => ¬ ∃ later ∈ e :: es, later.Answers request.1) ++
          e.raises.toList.filter fun request => ¬ ∃ later ∈ es, later.Answers request.1 := by
      rw [pend, List.filter_append, List.filter_filter]
      congr 2
      funext request
      simp [Bool.and_comm]
    rw [List.foldl_cons, ih, kept, List.append_assoc]
    congr 1
    cases raised : e.raises with
    | none => simp [outstanding, raised]
    | some request =>
      by_cases answered : ∃ later ∈ es, later.Answers request.1
      · simp [outstanding, raised, answered]
      · have single : ([request].filter fun request =>
            ¬ ∃ later ∈ es, later.Answers request.1) = [request] :=
          List.filter_cons_of_pos (decide_eq_true answered)
        rw [Option.toList_some, single]
        simp [outstanding, raised, answered]

lemma mem_pend : request ∈ pend pending e ↔
    (request ∈ pending ∧ ¬ e.Answers request.1) ∨ e.raises = some request := by
  simp [pend]

lemma pend_of_raises (h : e.raises = some request) : pend pending e = pending ++ [request] := by
  simp [pend, h, SessionEvent.Answers, resolves_of_raises h]

lemma pend_of_resolves (h : e.resolves = some request) :
    pend pending e = pending.filter fun other => other.1 ≠ request.1 := by
  have raises : e.raises = none := by
    cases raised : e.raises with
    | none => rfl
    | some => cases (resolves_of_raises raised).symm.trans h
  simp [pend, raises, SessionEvent.Answers, h, eq_comm]

lemma outstanding_append (es later : List SessionEvent) :
    outstanding (es ++ later) = later.foldl pend (outstanding es) := by
  have whole := foldl_pend [] (es ++ later)
  have first := foldl_pend [] es
  simp only [List.filter_nil, List.nil_append] at whole first
  rw [← whole, List.foldl_append, first]

/-- An event that neither raises a request nor resolves one. -/
def Aloof (e : SessionEvent) : Prop := e.raises = none ∧ e.resolves = none

lemma Aloof.pend (h : Aloof e) : pend pending e = pending := by
  simp [Session.pend, h.1, SessionEvent.Answers, h.2]

lemma foldl_pend_aloof (h : ∀ e ∈ es, Aloof e) : es.foldl pend pending = pending := by
  induction es with
  | nil => rfl
  | cons e es ih =>
    rw [List.foldl_cons, (h e (.head _)).pend]
    exact ih fun e mem => h e (.tail _ mem)

lemma waiting_answer (nodup : (pending.map Prod.fst).Nodup) (mem : request ∈ pending) :
    waiting k (pending.filter fun other => other.1 ≠ request.1) =
      waiting k pending - if request.2 = k then 1 else 0 := by
  induction pending with
  | nil => cases mem
  | cons head pending ih =>
    rw [List.map_cons, List.nodup_cons] at nodup
    rcases List.mem_cons.mp mem with rfl | mem
    · have rest : (pending.filter fun other => other.1 ≠ request.1) = pending := by
        apply List.filter_eq_self.mpr
        intro other found
        have ne : other.1 ≠ request.1 := fun same =>
          nodup.1 (same ▸ List.mem_map_of_mem found)
        simpa using ne
      rw [List.filter_cons_of_neg (by simp), rest, waiting, waiting, List.countP_cons]
      split <;> simp_all
    · have ne : head.1 ≠ request.1 := fun same =>
        nodup.1 (same ▸ List.mem_map_of_mem mem)
      have counted : request.2 = k → 0 < waiting k pending := fun same =>
        List.countP_pos_iff.mpr ⟨request, mem, by simpa using same⟩
      have rest := ih nodup.2 mem
      simp only [waiting] at rest counted ⊢
      rw [List.filter_cons_of_pos (by simpa using ne), List.countP_cons, rest, List.countP_cons]
      split
      case isTrue same =>
        have := counted same
        omega
      case isFalse => omega

lemma count_next (same : ¬ Accepted (.running turn) e)
    (h : next (.running turn) e = .running turn') (k : WaitingOn) :
    turn'.requiresAction.count k =
      if e.raises.map Prod.snd = some k then saturatingAdd (turn.requiresAction.count k)
      else if e.resolves.map Prod.snd = some k then turn.requiresAction.count k - 1
      else turn.requiresAction.count k := by
  cases e with
  | turnStarted epoch =>
    have stale : epoch ≤ turn.sinceEpoch := Nat.le_of_not_lt same
    rw [next, step_staleStart stale] at h
    cases h
    rfl
  | turnResult isError status text epoch outcome =>
    simp only [next, step] at h
    split at h
    case isTrue =>
      cases h
      rfl
    case isFalse => exact (resultState_ne_running _ _ _ _ _ _ h).elim
  | detached exit =>
    cases outcome : crashOutcome turn.terminalResultSeen exit with
    | followResult =>
      simp only [next, step, outcome] at h
      cases h
      rfl
    | crashed | cleanNoResult =>
      simp only [next, step, outcome] at h
      cases h
  | permission requestId kind => cases h; cases kind <;> cases k <;> rfl
  | permissionResolved requestId kind => cases h; cases kind <;> cases k <;> rfl
  | ask | askResolved => cases h; cases k <;> rfl
  | cancel => cases h
  | _ => cases h; rfl

lemma running_or_ended (turn : RunningTurn) (e : SessionEvent) :
    (∃ turn', next (.running turn) e = .running turn') ∨
      (next (.running turn) e).isTerminal = true := by
  cases e with
  | turnStarted epoch =>
    simp only [next, step]
    split
    · exact .inl ⟨turn, rfl⟩
    · exact .inl ⟨freshTurn epoch, rfl⟩
  | turnResult isError status text epoch outcome =>
    simp only [next, step]
    split
    · exact .inl ⟨turn, rfl⟩
    · apply Or.inr
      simp only [settle, resultState]
      split_ifs <;> rfl
  | detached exit =>
    simp only [next, step]
    cases crashOutcome turn.terminalResultSeen exit with
    | followResult => exact .inl ⟨turn, rfl⟩
    | crashed | cleanNoResult => exact .inr rfl
  | cancel => exact .inr rfl
  | _ => exact .inl ⟨_, rfl⟩

/-- No counter of the turn exceeds the number of pending requests under it. -/
def Covered (turn : RunningTurn) (pending : List Request) : Prop :=
  ∀ k, turn.requiresAction.count k ≤ waiting k pending

lemma Covered.quiet (covered : Covered turn []) : isRequiresAction (.running turn) = false := by
  have zero (k : WaitingOn) : turn.requiresAction.count k = 0 := Nat.le_zero.mp (covered k)
  have approval : turn.requiresAction.waitingOnApproval = 0 := zero .approval
  have auth : turn.requiresAction.waitingOnAuth = 0 := zero .auth
  have question : turn.requiresAction.waitingOnQuestion = 0 := zero .question
  simp [isRequiresAction, approval, auth, question]

lemma Covered.step (covered : Covered turn pending) (nodup : (pending.map Prod.fst).Nodup)
    (answers : ∀ answer, e.resolves = some answer → answer ∈ pending)
    (same : ¬ Accepted (.running turn) e) (h : next (.running turn) e = .running turn') :
    Covered turn' (pend pending e) := by
  intro k
  rw [count_next same h k]
  have bound := covered k
  cases raised : e.raises with
  | some request =>
    have count : waiting k (pending ++ [request]) =
        waiting k pending + if request.2 = k then 1 else 0 := by
      simp [waiting, List.countP_append, List.countP_cons]
    have saturated : saturatingAdd (turn.requiresAction.count k) ≤ turn.requiresAction.count k + 1 :=
      Nat.min_le_left _ _
    rw [pend_of_raises raised, count, resolves_of_raises raised]
    by_cases counted : request.2 = k
    · simp only [Option.map_some, counted, if_true]
      omega
    · simpa [counted] using bound
  | none =>
    cases resolved : e.resolves with
    | none => simpa [pend, raised, SessionEvent.Answers, resolved] using bound
    | some answer =>
      rw [pend_of_resolves resolved, waiting_answer nodup (answers answer resolved)]
      by_cases counted : answer.2 = k
      · simp only [Option.map_none, reduceCtorEq, if_false, Option.map_some, counted, if_true]
        omega
      · simpa [counted] using bound

/-- The events leave distinct requests outstanding, and a turn that they run through has its counters
covered. -/
structure Counted (es : List SessionEvent) : Prop where
  nodup : ((outstanding es).map Prod.fst).Nodup
  counters : ∀ epoch, ∃ turn, es.foldl next (.running (freshTurn epoch)) = .running turn ∧
    Covered turn (outstanding es)

lemma counted_nil : Counted [] where
  nodup := .nil
  counters epoch := ⟨_, rfl, fun k => by cases k <;> exact Nat.le_refl 0⟩

lemma Counted.append (h : Counted es) (same : ∀ turn, ¬ Accepted (.running turn) e)
    (runs : ∀ turn, ∃ turn', next (.running turn) e = .running turn')
    (fresh : ∀ request, e.raises = some request → ∀ other ∈ outstanding es, other.1 ≠ request.1)
    (answers : ∀ answer, e.resolves = some answer → answer ∈ outstanding es) :
    Counted (es ++ [e]) where
  nodup := by
    rw [outstanding_append, List.foldl_cons, List.foldl_nil, pend, List.map_append, List.nodup_append]
    refine ⟨h.nodup.sublist (List.filter_sublist.map _), ?_, ?_⟩
    · cases e.raises <;> simp
    · intro id mem id' mem'
      obtain ⟨other, found, rfl⟩ := List.mem_map.mp mem
      obtain ⟨request, raised, rfl⟩ := List.mem_map.mp mem'
      exact fresh request (Option.mem_toList.mp raised) other (List.mem_of_mem_filter found)
  counters epoch := by
    obtain ⟨turn, fold, covered⟩ := h.counters epoch
    obtain ⟨turn', step⟩ := runs turn
    refine ⟨turn', ?_, ?_⟩
    · rw [List.foldl_append, fold]
      exact step
    · rw [outstanding_append]
      exact covered.step h.nodup answers (same turn) step

/-- Each counter of the turn is the number of pending requests under it. -/
def Synced (turn : RunningTurn) (pending : List Request) : Prop :=
  ∀ k, turn.requiresAction.count k = waiting k pending

lemma Synced.requiresAction (synced : Synced turn pending) :
    isRequiresAction (.running turn) = true ↔ pending ≠ [] := by
  have counters : isRequiresAction (.running turn) = true ↔
      ∃ k, 0 < turn.requiresAction.count k := by
    constructor
    · intro action
      simp only [isRequiresAction, Bool.or_eq_true, decide_eq_true_eq] at action
      obtain (approval | auth) | question := action
      · exact ⟨.approval, approval⟩
      · exact ⟨.auth, auth⟩
      · exact ⟨.question, question⟩
    · rintro ⟨k, positive⟩
      simp only [isRequiresAction, Bool.or_eq_true, decide_eq_true_eq]
      cases k with
      | approval => exact .inl (.inl positive)
      | auth => exact .inl (.inr positive)
      | question => exact .inr positive
  rw [counters]
  constructor
  · rintro ⟨k, positive⟩ empty
    rw [synced k, empty] at positive
    exact Nat.lt_irrefl 0 positive
  · intro some
    obtain ⟨request, mem⟩ := List.exists_mem_of_ne_nil pending some
    refine ⟨request.2, ?_⟩
    rw [synced]
    exact List.countP_pos_iff.mpr ⟨request, mem, by simp⟩

lemma Synced.step (synced : Synced turn pending) (nodup : (pending.map Prod.fst).Nodup)
    (orderly : Orderly pending e) (same : ¬ Accepted (.running turn) e)
    (h : next (.running turn) e = .running turn') : Synced turn' (pend pending e) := by
  intro k
  rw [count_next same h k, synced k]
  cases raised : e.raises with
  | some request =>
    simp only [Orderly, raised] at orderly
    rw [pend_of_raises raised, resolves_of_raises raised]
    by_cases counted : request.2 = k
    · subst counted
      have room : saturatingAdd (waiting request.2 pending) = waiting request.2 pending + 1 :=
        Nat.min_eq_left orderly
      simpa [waiting] using room
    · simp [waiting, counted]
  | none =>
    cases resolved : e.resolves with
    | none => simp [pend, raised, SessionEvent.Answers, resolved]
    | some answer =>
      simp only [Orderly, raised, resolved] at orderly
      rw [pend_of_resolves resolved]
      rcases orderly with found | absent
      · rw [waiting_answer nodup found]
        by_cases counted : answer.2 = k <;> simp [counted]
      -- nothing is pending under the counter, and it stays at zero
      · have kept : (pending.filter fun other => other.1 ≠ answer.1) = pending := by
          apply List.filter_eq_self.mpr
          intro other found
          simpa using (absent other found).1
        rw [kept]
        by_cases counted : answer.2 = k
        · have zero : waiting k pending = 0 := by
            apply List.countP_eq_zero.mpr
            intro other found
            simpa [← counted] using (absent other found).2
          simp [counted, zero]
        · simp [counted]

lemma nodup_pend (nodup : (pending.map Prod.fst ++
    ((e :: es).filterMap SessionEvent.raises).map Prod.fst).Nodup) :
    ((pend pending e).map Prod.fst ++ (es.filterMap SessionEvent.raises).map Prod.fst).Nodup := by
  apply List.Nodup.sublist _ nodup
  rw [pend, List.map_append, List.append_assoc]
  apply List.Sublist.append (List.filter_sublist.map _)
  cases raised : e.raises <;> simp [raised]

lemma Synced.run (synced : Synced turn pending)
    (nodup : (pending.map Prod.fst ++ (es.filterMap SessionEvent.raises).map Prod.fst).Nodup)
    (orderly : LTS.EnabledAll Orderly pend pending es) (same : SameTurn (.running turn) es)
    (h : es.foldl next (.running turn) = .running turn') :
    Synced turn' (es.foldl pend pending) := by
  induction es generalizing turn pending with
  | nil =>
    cases h
    exact synced
  | cons e es ih =>
    have later : SameTurn (next (.running turn) e) es := same.2
    rw [List.foldl_cons] at h
    obtain ⟨between, running⟩ | ended := running_or_ended turn e
    · have synced' := synced.step (List.Nodup.of_append_left nodup) orderly.1 same.1 running
      rw [running] at h later
      exact ih synced' (nodup_pend nodup) orderly.2 later h
    -- a turn that has ended does not run again
    · rw [(run_terminal ended later).1] at h
      rw [h] at ended
      cases ended

/-- If every resolution of a turn finds what it answers, a session that still runs the turn requires an
action exactly when a request of the turn is outstanding. -/
theorem requiresAction_of_orderly (accepted : Accepted s (.turnStarted epoch))
    (distinct : DistinctIds es) (same : SameTurn (.running (freshTurn epoch)) es)
    (orderly : LTS.EnabledAll Orderly pend [] es) : FollowsRequests s epoch es := by
  intro turn h
  have fresh : next s (.turnStarted epoch) = .running (freshTurn epoch) := by
    cases s with
    | running turn => exact congrArg Prod.fst (if_neg (Nat.not_le_of_lt accepted))
    | starting | idle | error => rfl
  rw [List.foldl_cons, fresh] at h
  have start : Synced (freshTurn epoch) [] := fun k => by cases k <;> rfl
  have synced := start.run distinct orderly same h
  rw [foldl_pend] at synced
  exact synced.requiresAction

/-- Two requests at a time, each answered once and in the other's order. -/
theorem crossedAnswers_orderly :
    DistinctIds [.permission "r1" .tool, .ask "q1", .permission "r2" .tool,
        .permissionResolved "r2" .tool, .askResolved "q1"] ∧
      FollowsRequests .idle 1 [.permission "r1" .tool, .ask "q1", .permission "r2" .tool,
        .permissionResolved "r2" .tool, .askResolved "q1"] :=
  ⟨by decide, requiresAction_of_orderly trivial (by decide) (by decide) (by decide)⟩

/-- The first answer comes twice, and the second request is not required any more. -/
theorem duplicateAnswer_forgets :
    DistinctIds [.permission "r1" .tool, .permission "r2" .tool,
        .permissionResolved "r1" .tool, .permissionResolved "r1" .tool] ∧
      SameTurn (.running (freshTurn 1)) [.permission "r1" .tool, .permission "r2" .tool,
        .permissionResolved "r1" .tool, .permissionResolved "r1" .tool] ∧
      ¬ FollowsRequests .idle 1 [.permission "r1" .tool, .permission "r2" .tool,
        .permissionResolved "r1" .tool, .permissionResolved "r1" .tool] := by
  refine ⟨by decide, by decide, ?_⟩
  intro follows
  have answered := follows (freshTurn 1) rfl
  exact absurd (answered.mpr (by decide)) (by decide)

end KiCore.Session

import KiCore.Team.Task.Graph
import KiCore.Lib.Pool

/-!
# The graph stays consistent

A call that is under way owes the board the rows it has yet to write. `BoardInv` is the graph up to what
calls owe, and every step keeps it that is in order (`Orderly`): it completes a task with all its waiters in
hand, takes no completed task back that blocks others, gives a task the dependencies it has, and creates
none on a completed task. Without that condition an edge is stored in one row only, and its task waits for
ever: `editedTask_waits`.
-/

namespace KiCore.Team

open KiCore.Lib Tasks

/-- The call has yet to tell `a` that it blocks `b`. -/
def TaskCall.OwesBlock (a b : String) : TaskCall → Prop
  | .appending row left => row.id = b ∧ a ∈ left
  | _ => False

/-- The call has yet to tell `b` that `a` blocks it no more. -/
def TaskCall.OwesRelease (a b : String) : TaskCall → Prop
  | .unblocking taskId left => taskId = a ∧ b ∈ left
  | _ => False

def TaskCall.Returned : TaskCall → Prop
  | .done _ => True
  | _ => False

instance : (call : TaskCall) → Decidable call.Returned
  | .done _ => isTrue trivial
  | .checking _ _ | .appending _ _ | .reading _ _ | .writing _ _ _ | .unblocking _ _ => isFalse id

structure CallInv (tasks : Tasks) (call : TaskCall) : Prop where
  checked : ∀ request left, call = .checking request left →
    ∀ dep ∈ request.blockedBy, dep ∈ left ∨ Known tasks dep
  read : ∀ taskId update existing, call = .writing taskId update existing →
    ∀ b ∈ existing.blocks, Blocks tasks taskId b
  owesBlock : ∀ a b, call.OwesBlock a b →
    Known tasks a ∧ Known tasks b ∧ (Completed tasks a → Blocks tasks a b)
  owesRelease : ∀ a b, call.OwesRelease a b → Blocks tasks a b ∧ Completed tasks a

/-- The graph, up to what calls owe. A task waits for tasks that are older than it. -/
structure BoardInv (board : TaskBoard) (σ : BoardState) : Prop where
  mirrored : ∀ a b, ¬ Completed σ.tasks a →
    ((Blocks σ.tasks a b ∨ ∃ call ∈ σ.calls, call.OwesBlock a b) ↔ Waits σ.tasks a b)
  released : ∀ a b, Completed σ.tasks a → Waits σ.tasks a b → ∃ call ∈ σ.calls, call.OwesRelease a b
  older : ∀ a b, Waits σ.tasks a b →
    Known σ.tasks a ∧ ∃ m n, m < n ∧ board.generateId m = a ∧ board.generateId n = b
  drawn : ∀ a, Known σ.tasks a → ∃ n < σ.ticks, board.generateId n = a
  blocked : ∀ a b, Blocks σ.tasks a b → Known σ.tasks b
  calls : ∀ call ∈ σ.calls, CallInv σ.tasks call

namespace TaskBoard

variable (tasks : Tasks)

/-- An update leaves the graph in order: it completes its task with all waiters in hand, takes no completed
task back that blocks others, and names the dependencies that the task has. -/
def OrderlyUpdate (taskId : String) (update : TaskUpdate) (existing : TeamTaskRow) : Prop :=
  (update.status = some .completed → ∀ b ∈ tasks.waiters taskId, b ∈ existing.blocks) ∧
  (∀ status ∈ update.status, status ≠ .completed → Completed tasks taskId →
    ∀ row ∈ tasks[taskId]?, row.blocks = []) ∧
  ∀ list ∈ update.blockedBy, ∀ row ∈ tasks[taskId]?,
    (∀ a ∈ list, a ∈ row.blockedBy) ∧ ∀ a ∈ row.blockedBy, ¬ Completed tasks a → a ∈ list

def OrderlyCall : TaskCall → Prop
  | .checking request [] => ∀ dep ∈ request.blockedBy, ¬ Completed tasks dep
  | .writing taskId update existing => OrderlyUpdate tasks taskId update existing
  | _ => True

def OwesNothing : TaskCall → Prop
  | .appending row left => ∀ a ∈ left, Blocks tasks a row.id
  | .unblocking taskId left => ∀ b ∈ left, ¬ Waits tasks taskId b
  | _ => True

def Orderly (σ : BoardState) : Step → Prop
  | .advance n => ∀ call ∈ σ.calls[n]?, OrderlyCall σ.tasks call
  | .fail n _ => ∀ call ∈ σ.calls[n]?, OwesNothing σ.tasks call
  | _ => True

instance (taskId : String) (update : TaskUpdate) (existing : TeamTaskRow) :
    Decidable (OrderlyUpdate tasks taskId update existing) := by
  unfold OrderlyUpdate
  infer_instance

instance : (call : TaskCall) → Decidable (OrderlyCall tasks call)
  | .checking request [] => inferInstanceAs (Decidable (∀ dep ∈ request.blockedBy, ¬ Completed tasks dep))
  | .writing taskId update existing =>
    inferInstanceAs (Decidable (OrderlyUpdate tasks taskId update existing))
  | .checking _ (_ :: _) | .appending _ _ | .reading _ _ | .unblocking _ _ | .done _ => isTrue trivial

instance : (call : TaskCall) → Decidable (OwesNothing tasks call)
  | .appending row left => inferInstanceAs (Decidable (∀ a ∈ left, Blocks tasks a row.id))
  | .unblocking taskId left => inferInstanceAs (Decidable (∀ b ∈ left, ¬ Waits tasks taskId b))
  | .checking _ _ | .reading _ _ | .writing _ _ _ | .done _ => isTrue trivial

instance (σ : BoardState) : (step : Step) → Decidable (Orderly σ step)
  | .advance n => inferInstanceAs (Decidable (∀ call ∈ σ.calls[n]?, OrderlyCall σ.tasks call))
  | .fail n _ => inferInstanceAs (Decidable (∀ call ∈ σ.calls[n]?, OwesNothing σ.tasks call))
  | .createTask _ | .updateTask _ _ => isTrue trivial

end TaskBoard

open TaskBoard

variable {board : TaskBoard} {σ : BoardState} {tasks tasks' : Tasks} {call call' : TaskCall}
  {n tick : Nat} {a b : String}

lemma CallInv.mono (inv : CallInv tasks call) (known : ∀ a, Known tasks a → Known tasks' a)
    (blocks : ∀ a b, Blocks tasks a b → Blocks tasks' a b)
    (done : ∀ a b, call.OwesBlock a b → Completed tasks' a → Blocks tasks' a b)
    (kept : ∀ a b, call.OwesRelease a b → Completed tasks' a) : CallInv tasks' call where
  checked request left e dep mem := (inv.checked request left e dep mem).imp_right (known dep)
  read taskId update existing e b mem := blocks taskId b (inv.read taskId update existing e b mem)
  owesBlock a b owes :=
    ⟨known a (inv.owesBlock a b owes).1, known b (inv.owesBlock a b owes).2.1, done a b owes⟩
  owesRelease a b owes := ⟨blocks a b (inv.owesRelease a b owes).1, kept a b owes⟩

lemma BoardInv.quiet (inv : BoardInv board σ) (hn : σ.calls[n]? = some call) (ticks : σ.ticks ≤ tick)
    (know : CallInv σ.tasks call') (new : ∀ a b, call'.OwesBlock a b → call.OwesBlock a b)
    (told : ∀ a b, call.OwesBlock a b → call'.OwesBlock a b ∨ Blocks σ.tasks a b)
    (freed : ∀ a b, call.OwesRelease a b → call'.OwesRelease a b ∨ ¬ Waits σ.tasks a b) :
    BoardInv board { tasks := σ.tasks, calls := σ.calls.set n call', ticks := tick } where
  mirrored a b open_ := by
    rw [← inv.mirrored a b open_]
    constructor
    · intro h
      rcases h with h | h
      · exact .inl h
      · rcases Pool.exists_set h with h | h
        · exact .inr h
        · exact .inr ⟨call, List.mem_of_getElem? hn, new a b h⟩
    · intro h
      rcases h with h | h
      · exact .inl h
      · rcases Pool.exists_of_set hn h with h | h
        · rcases told a b h with h | h
          · exact .inr ⟨call', Pool.mem_set_self hn, h⟩
          · exact .inl h
        · exact .inr h
  released a b completed waits := by
    rcases Pool.exists_of_set hn (inv.released a b completed waits) with h | h
    · rcases freed a b h with h | h
      · exact ⟨call', Pool.mem_set_self hn, h⟩
      · exact absurd waits h
    · exact h
  older := inv.older
  drawn a known := by
    obtain ⟨m, hm, e⟩ := inv.drawn a known
    exact ⟨m, hm.trans_le ticks, e⟩
  blocked := inv.blocked
  calls := Pool.forall_set inv.calls know

lemma CallInv.idle (nothing : ∀ a b, ¬ call.OwesBlock a b ∧ ¬ call.OwesRelease a b)
    (checked : ∀ request left, call = .checking request left →
      ∀ dep ∈ request.blockedBy, dep ∈ left ∨ Known tasks dep)
    (read : ∀ taskId update existing, call = .writing taskId update existing →
      ∀ b ∈ existing.blocks, Blocks tasks taskId b) : CallInv tasks call :=
  ⟨checked, read, fun a b owes => absurd owes (nothing a b).1,
    fun a b owes => absurd owes (nothing a b).2⟩

lemma CallInv.done (result : Except TaskError TeamTaskRow) : CallInv tasks (.done result) := by
  refine .idle (fun _ _ => ⟨id, id⟩) (fun _ _ e => ?_) fun _ _ _ e => ?_
  · cases e
  · cases e

lemma BoardInv.arrive (inv : BoardInv board σ) (know : CallInv σ.tasks call)
    (nothing : ∀ a b, ¬ call.OwesBlock a b) :
    BoardInv board { σ with calls := σ.calls ++ [call] } where
  mirrored a b open_ := by
    rw [← inv.mirrored a b open_]
    simp only [List.mem_append, List.mem_singleton, or_and_right, exists_or, exists_eq_left, nothing, or_false]
  released a b completed waits := by
    obtain ⟨c, hc, owes⟩ := inv.released a b completed waits
    exact ⟨c, List.mem_append_left _ hc, owes⟩
  older := inv.older
  drawn := inv.drawn
  blocked := inv.blocked
  calls c hc := by
    rcases List.mem_append.mp hc with hc | hc
    · exact inv.calls c hc
    · rw [List.mem_singleton.mp hc]
      exact know

/-- A new task is stored, and its blockers are told later. -/
lemma BoardInv.insert {request : TaskRequest} (inv : BoardInv board σ)
    (hn : σ.calls[n]? = some (.checking request []))
    (orderly : ∀ dep ∈ request.blockedBy, ¬ Completed σ.tasks dep) :
    BoardInv board
      { tasks := σ.tasks.insert (board.newTask σ.ticks request).id (board.newTask σ.ticks request)
        calls := σ.calls.set n (.appending (board.newTask σ.ticks request) request.blockedBy)
        ticks := σ.ticks + 1 } := by
  have fresh : ¬ Known σ.tasks (board.newTask σ.ticks request).id := by
    intro known
    obtain ⟨m, hm, e⟩ := inv.drawn _ known
    have := board.generateId_injective e
    omega
  have checked : ∀ dep ∈ request.blockedBy, Known σ.tasks dep := by
    intro dep mem
    rcases (inv.calls _ (List.mem_of_getElem? hn)).checked request [] rfl dep mem with h | h
    · cases h
    · exact h
  obtain ⟨known, completed, waits, blocks⟩ := insert_new fresh
    (show (board.newTask σ.ticks request).status = .pending from rfl)
    (show (board.newTask σ.ticks request).blocks = [] from rfl)
  refine ⟨fun a b open_ => ?_, fun a b done wait => ?_, fun a b wait => ?_, fun a h => ?_,
    fun a b h => ?_, Pool.forall_set ?_ ?_⟩
  · rw [waits, blocks, ← inv.mirrored a b fun h => open_ ((completed a).mpr h)]
    constructor
    · intro h
      rcases h with h | h
      · exact .inr (.inl h)
      · rcases Pool.exists_set h with h | ⟨rfl, mem⟩
        · exact .inr (.inr h)
        · exact .inl ⟨rfl, mem⟩
    · intro h
      rcases h with ⟨rfl, mem⟩ | h | h
      · exact .inr ⟨_, Pool.mem_set_self hn, rfl, mem⟩
      · exact .inl h
      · rcases Pool.exists_of_set hn h with h | h
        · exact h.elim
        · exact .inr h
  · rw [completed] at done
    rcases (waits a b).mp wait with ⟨_, mem⟩ | wait
    · exact absurd done (orderly a mem)
    · rcases Pool.exists_of_set hn (inv.released a b done wait) with h | h
      · exact h.elim
      · exact h
  · rcases (waits a b).mp wait with ⟨rfl, mem⟩ | wait
    · obtain ⟨m, hm, e⟩ := inv.drawn a (checked a mem)
      exact ⟨(known a).mpr (.inr (checked a mem)), m, σ.ticks, hm, e, rfl⟩
    · obtain ⟨h, older⟩ := inv.older a b wait
      exact ⟨(known a).mpr (.inr h), older⟩
  · rcases (known a).mp h with rfl | h
    · exact ⟨σ.ticks, Nat.lt_succ_self _, rfl⟩
    · obtain ⟨m, hm, e⟩ := inv.drawn a h
      exact ⟨m, hm.trans (Nat.lt_succ_self _), e⟩
  · exact (known b).mpr (.inr (inv.blocked a b ((blocks a b).mp h)))
  · intro c hc
    refine (inv.calls c hc).mono (fun a h => (known a).mpr (.inr h)) (fun a b => (blocks a b).mpr) ?_ ?_
    · intro a b owes done
      exact (blocks a b).mpr (((inv.calls c hc).owesBlock a b owes).2.2 ((completed a).mp done))
    · intro a b owes
      exact (completed a).mpr ((inv.calls c hc).owesRelease a b owes).2
  · refine ⟨fun _ _ e => ?_, fun _ _ _ e => ?_, fun a b ⟨hb, mem⟩ => ?_, fun _ _ owes => owes.elim⟩
    · cases e
    · cases e
    · subst hb
      refine ⟨(known a).mpr (.inr (checked a mem)), (known _).mpr (.inl rfl), fun done => ?_⟩
      exact absurd ((completed a).mp done) (orderly a mem)

/-- A blocker is told. -/
lemma BoardInv.append {row : TeamTaskRow} {dep : String} {left : List String} {now : Int}
    (inv : BoardInv board σ) (hn : σ.calls[n]? = some (.appending row (dep :: left)))
    (h : σ.tasks.appendToBlocks now dep row.id = .ok tasks') :
    BoardInv board
      { tasks := tasks', calls := σ.calls.set n (.appending row left), ticks := σ.ticks + 1 } := by
  obtain ⟨same, waits, blocks⟩ := appendToBlocks_ok h
  have owed := (inv.calls _ (List.mem_of_getElem? hn)).owesBlock
  refine ⟨fun a b open_ => ?_, fun a b done wait => ?_, fun a b wait => ?_, fun a h => ?_,
    fun a b h => ?_, Pool.forall_set ?_ ?_⟩
  · rw [waits, blocks, ← inv.mirrored a b fun h => open_ ((same.completed a).mpr h)]
    constructor
    · intro h
      rcases h with (h | ⟨rfl, rfl⟩) | h
      · exact .inl h
      · exact .inr ⟨_, List.mem_of_getElem? hn, rfl, List.mem_cons_self⟩
      · rcases Pool.exists_set h with h | ⟨hb, mem⟩
        · exact .inr h
        · exact .inr ⟨_, List.mem_of_getElem? hn, hb, List.mem_cons_of_mem _ mem⟩
    · intro h
      rcases h with h | h
      · exact .inl (.inl h)
      · rcases Pool.exists_of_set hn h with ⟨hb, mem⟩ | h
        · rcases List.mem_cons.mp mem with rfl | mem
          · exact .inl (.inr ⟨rfl, hb.symm⟩)
          · exact .inr ⟨_, Pool.mem_set_self hn, hb, mem⟩
        · exact .inr h
  · rcases Pool.exists_of_set hn (inv.released a b ((same.completed a).mp done) ((waits a b).mp wait)) with h | h
    · exact h.elim
    · exact h
  · obtain ⟨known, older⟩ := inv.older a b ((waits a b).mp wait)
    exact ⟨(same.known a).mpr known, older⟩
  · obtain ⟨m, hm, e⟩ := inv.drawn a ((same.known a).mp h)
    exact ⟨m, hm.trans (Nat.lt_succ_self _), e⟩
  · rcases (blocks a b).mp h with h | ⟨_, rfl⟩
    · exact (same.known b).mpr (inv.blocked a b h)
    · exact (same.known _).mpr (owed dep row.id ⟨rfl, List.mem_cons_self⟩).2.1
  · intro c hc
    refine (inv.calls c hc).mono (fun a => (same.known a).mpr) (fun a b h => (blocks a b).mpr (.inl h)) ?_ ?_
    · intro a b owes done
      exact (blocks a b).mpr (.inl (((inv.calls c hc).owesBlock a b owes).2.2 ((same.completed a).mp done)))
    · intro a b owes
      exact (same.completed a).mpr ((inv.calls c hc).owesRelease a b owes).2
  · refine ⟨fun _ _ e => ?_, fun _ _ _ e => ?_, fun a b ⟨hb, mem⟩ => ?_, fun _ _ owes => owes.elim⟩
    · cases e
    · cases e
    · obtain ⟨ha, hb', told⟩ := owed a b ⟨hb, List.mem_cons_of_mem _ mem⟩
      refine ⟨(same.known a).mpr ha, (same.known b).mpr hb', fun done => ?_⟩
      exact (blocks a b).mpr (.inl (told ((same.completed a).mp done)))

/-- A waiter is released. -/
lemma BoardInv.remove {taskId d : String} {left : List String} {now : Int} (inv : BoardInv board σ)
    (hn : σ.calls[n]? = some (.unblocking taskId (d :: left)))
    (h : σ.tasks.removeFromBlockedBy now d taskId = .ok tasks') :
    BoardInv board
      { tasks := tasks', calls := σ.calls.set n (.unblocking taskId left), ticks := σ.ticks + 1 } := by
  obtain ⟨same, waits, blocks⟩ := removeFromBlockedBy_ok h
  have owed := (inv.calls _ (List.mem_of_getElem? hn)).owesRelease
  have completed : Completed σ.tasks taskId := (owed taskId d ⟨rfl, List.mem_cons_self⟩).2
  refine ⟨fun a b open_ => ?_, fun a b done wait => ?_, fun a b wait => ?_, fun a h => ?_,
    fun a b h => ?_, Pool.forall_set ?_ ?_⟩
  · rw [same.completed] at open_
    have other : ¬ (a = taskId ∧ b = d) := by
      rintro ⟨rfl, _⟩
      exact open_ completed
    rw [waits, blocks, ← inv.mirrored a b open_, and_iff_left other]
    constructor
    · intro h
      rcases h with h | h
      · exact .inl h
      · rcases Pool.exists_set h with h | h
        · exact .inr h
        · exact h.elim
    · intro h
      rcases h with h | h
      · exact .inl h
      · rcases Pool.exists_of_set hn h with h | h
        · exact h.elim
        · exact .inr h
  · obtain ⟨wait, other⟩ := (waits a b).mp wait
    rcases Pool.exists_of_set hn (inv.released a b ((same.completed a).mp done) wait) with ⟨rfl, mem⟩ | h
    · rcases List.mem_cons.mp mem with rfl | mem
      · exact absurd ⟨rfl, rfl⟩ other
      · exact ⟨_, Pool.mem_set_self hn, rfl, mem⟩
    · exact h
  · obtain ⟨known, older⟩ := inv.older a b ((waits a b).mp wait).1
    exact ⟨(same.known a).mpr known, older⟩
  · obtain ⟨m, hm, e⟩ := inv.drawn a ((same.known a).mp h)
    exact ⟨m, hm.trans (Nat.lt_succ_self _), e⟩
  · exact (same.known b).mpr (inv.blocked a b ((blocks a b).mp h))
  · intro c hc
    refine (inv.calls c hc).mono (fun a => (same.known a).mpr) (fun a b => (blocks a b).mpr) ?_ ?_
    · intro a b owes done
      exact (blocks a b).mpr (((inv.calls c hc).owesBlock a b owes).2.2 ((same.completed a).mp done))
    · intro a b owes
      exact (same.completed a).mpr ((inv.calls c hc).owesRelease a b owes).2
  · refine ⟨fun _ _ e => ?_, fun _ _ _ e => ?_, fun _ _ owes => owes.elim, fun a b ⟨ha, mem⟩ => ?_⟩
    · cases e
    · cases e
    · obtain ⟨told, done⟩ := owed a b ⟨ha, List.mem_cons_of_mem _ mem⟩
      exact ⟨(blocks a b).mpr told, (same.completed a).mpr done⟩

lemma mem_downstream {update : TaskUpdate} {existing : TeamTaskRow} :
    b ∈ downstream update existing ↔ update.status = some .completed ∧ b ∈ existing.blocks := by
  unfold downstream
  split_ifs with h <;> simp [h]

/-- What an orderly update of a task does to the dependencies. -/
structure Rewrites (tasks tasks' : Tasks) (taskId : String) (update : TaskUpdate) (existing : TeamTaskRow) :
    Prop where
  known : ∀ a, Known tasks' a ↔ Known tasks a
  blocks : ∀ a b, Blocks tasks' a b ↔ Blocks tasks a b
  completed : update.status = some .completed → Known tasks taskId → Completed tasks' taskId
  fewer : ∀ a b, Waits tasks' a b → Waits tasks a b
  enough : ∀ a b, ¬ Completed tasks a → Waits tasks a b → Waits tasks' a b
  /-- a task that was completed and is so no more blocks nothing -/
  reopened : ∀ a b, Completed tasks a → ¬ Completed tasks' a → ¬ Blocks tasks a b
  /-- a task that was not completed and is so now has all its waiters in hand -/
  taken : ∀ a b, ¬ Completed tasks a → Completed tasks' a → Waits tasks a b →
    taskId = a ∧ b ∈ downstream update existing

lemma Rewrites.of_ok {taskId : String} {update : TaskUpdate} {existing : TeamTaskRow} {now : Int}
    (orderly : OrderlyUpdate tasks taskId update existing)
    (h : tasks.updateTask now taskId update = .ok tasks') :
    Rewrites tasks tasks' taskId update existing := by
  obtain ⟨known, completed, waits, blocks⟩ := updateTask_ok h
  obtain ⟨inHand, takenBack, named⟩ := orderly
  refine ⟨known, blocks, fun status there => ?_, fun a b wait => ?_, fun a b before wait => ?_,
    fun a b before open_ told => ?_, fun a b before done wait => ?_⟩
  · rw [completed, if_pos ⟨rfl, by rw [status]; rfl⟩]
    exact ⟨there, status⟩
  -- The update names dependencies that the task has, and all of them that are not completed.
  · rw [waits] at wait
    split_ifs at wait with here
    · obtain ⟨rfl, _⟩ := here
      obtain ⟨there, list, hlist, mem⟩ := wait
      obtain ⟨row, hrow⟩ := Option.isSome_iff_exists.mp there
      exact ⟨row, hrow, (named list hlist row hrow).1 a mem⟩
    · exact wait
  · rw [waits]
    split_ifs with here
    · obtain ⟨rfl, given⟩ := here
      obtain ⟨list, hlist⟩ := Option.isSome_iff_exists.mp given
      obtain ⟨row, hrow, mem⟩ := wait
      exact ⟨Option.isSome_iff_exists.mpr ⟨row, hrow⟩, list, hlist, (named list hlist row hrow).2 a mem before⟩
    · exact wait
  · rw [completed] at open_
    split_ifs at open_ with here
    · obtain ⟨rfl, given⟩ := here
      obtain ⟨status, hstatus⟩ := Option.isSome_iff_exists.mp given
      obtain ⟨row, hrow, mem⟩ := told
      have other : status ≠ .completed := by
        rintro rfl
        exact open_ ⟨before.known, hstatus⟩
      rw [takenBack status hstatus other before row hrow] at mem
      cases mem
    · exact open_ before
  · rw [completed] at done
    split_ifs at done with here
    · obtain ⟨rfl, _⟩ := here
      exact ⟨rfl, mem_downstream.mpr ⟨done.2, inHand done.2 b (mem_waiters.mpr wait)⟩⟩
    · exact absurd done before

/-- A task is rewritten. -/
lemma BoardInv.write {taskId : String} {update : TaskUpdate} {existing : TeamTaskRow} {now : Int}
    (inv : BoardInv board σ) (hn : σ.calls[n]? = some (.writing taskId update existing))
    (orderly : OrderlyUpdate σ.tasks taskId update existing)
    (h : σ.tasks.updateTask now taskId update = .ok tasks') :
    BoardInv board
      { tasks := tasks'
        calls := σ.calls.set n (.unblocking taskId (downstream update existing))
        ticks := σ.ticks + 1 } := by
  have d := Rewrites.of_ok orderly h
  have read := (inv.calls _ (List.mem_of_getElem? hn)).read taskId update existing rfl
  refine ⟨fun a b open_ => ?_, fun a b done wait => ?_, fun a b wait => ?_, fun a h => ?_,
    fun a b h => ?_, Pool.forall_set ?_ ?_⟩
  · rw [d.blocks]
    by_cases before : Completed σ.tasks a
    · have none : ¬ Blocks σ.tasks a b := d.reopened a b before open_
      constructor
      · intro h
        rcases h with h | h
        · exact absurd h none
        · rcases Pool.exists_set h with ⟨c, hc, owes⟩ | h
          · exact absurd (((inv.calls c hc).owesBlock a b owes).2.2 before) none
          · exact h.elim
      · intro wait
        obtain ⟨c, hc, owes⟩ := inv.released a b before (d.fewer a b wait)
        exact absurd ((inv.calls c hc).owesRelease a b owes).1 none
    · have same : Waits tasks' a b ↔ Waits σ.tasks a b := ⟨d.fewer a b, d.enough a b before⟩
      rw [same, ← inv.mirrored a b before]
      refine or_congr_right ⟨fun h => ?_, fun h => ?_⟩
      · rcases Pool.exists_set h with h | h
        · exact h
        · exact h.elim
      · rcases Pool.exists_of_set hn h with h | h
        · exact h.elim
        · exact h
  · by_cases before : Completed σ.tasks a
    · rcases Pool.exists_of_set hn (inv.released a b before (d.fewer a b wait)) with h | h
      · exact h.elim
      · exact h
    · exact ⟨_, Pool.mem_set_self hn, d.taken a b before done (d.fewer a b wait)⟩
  · obtain ⟨h, older⟩ := inv.older a b (d.fewer a b wait)
    exact ⟨(d.known a).mpr h, older⟩
  · obtain ⟨m, hm, e⟩ := inv.drawn a ((d.known a).mp h)
    exact ⟨m, hm.trans (Nat.lt_succ_self _), e⟩
  · exact (d.known b).mpr (inv.blocked a b ((d.blocks a b).mp h))
  · intro c hc
    refine (inv.calls c hc).mono (fun a => (d.known a).mpr) (fun a b => (d.blocks a b).mpr) ?_ ?_
    · intro a b owes done
      rw [d.blocks]
      by_cases before : Completed σ.tasks a
      · exact ((inv.calls c hc).owesBlock a b owes).2.2 before
      · have wait := (inv.mirrored a b before).mp (.inr ⟨c, hc, owes⟩)
        obtain ⟨rfl, mem⟩ := d.taken a b before done wait
        exact read b (mem_downstream.mp mem).2
    · intro a b owes
      obtain ⟨told, before⟩ := (inv.calls c hc).owesRelease a b owes
      by_contra open_
      exact d.reopened a b before open_ told
  · refine ⟨fun _ _ e => ?_, fun _ _ _ e => ?_, fun _ _ owes => owes.elim, fun a b ⟨ha, mem⟩ => ?_⟩
    · cases e
    · cases e
    · subst ha
      obtain ⟨status, mem⟩ := mem_downstream.mp mem
      have told := read b mem
      exact ⟨(d.blocks taskId b).mpr told, d.completed status told.known⟩

lemma BoardInv.pass (inv : BoardInv board σ) (hn : σ.calls[n]? = some call)
    (know : CallInv σ.tasks call') (before : ∀ a b, ¬ call.OwesBlock a b ∧ ¬ call.OwesRelease a b)
    (after : ∀ a b, ¬ call'.OwesBlock a b) :
    BoardInv board { tasks := σ.tasks, calls := σ.calls.set n call', ticks := σ.ticks + 1 } :=
  inv.quiet hn (Nat.le_succ _) know (fun a b owes => absurd owes (after a b))
    (fun a b owes => absurd owes (before a b).1) fun a b owes => absurd owes (before a b).2

/-- One step of a call keeps the invariant, if it is in order. -/
lemma BoardInv.resume (inv : BoardInv board σ) (hn : σ.calls[n]? = some call)
    (orderly : OrderlyCall σ.tasks call) :
    BoardInv board
      { tasks := (board.resume σ.ticks σ.tasks call).2
        calls := σ.calls.set n (board.resume σ.ticks σ.tasks call).1
        ticks := σ.ticks + 1 } := by
  have know := inv.calls call (List.mem_of_getElem? hn)
  cases call with
  | checking request left =>
    cases left with
    | nil => exact inv.insert hn orderly
    | cons dep left =>
      cases hdep : σ.tasks[dep]? with
      | none =>
        simp only [TaskBoard.resume, hdep]
        exact inv.pass hn (.done _) (fun _ _ => ⟨id, id⟩) fun _ _ => id
      | some row =>
        simp only [TaskBoard.resume, hdep]
        refine inv.pass hn (.idle (fun _ _ => ⟨id, id⟩) (fun _ _ e => ?_) fun _ _ _ e => ?_)
          (fun _ _ => ⟨id, id⟩) fun _ _ => id
        · cases e
          intro d mem
          rcases know.checked request (dep :: left) rfl d mem with h | h
          · rcases List.mem_cons.mp h with rfl | h
            · exact .inr (Option.isSome_iff_exists.mpr ⟨row, hdep⟩)
            · exact .inl h
          · exact .inr h
        · cases e
  | appending row left =>
    cases left with
    | nil =>
      refine inv.pass hn (.done _) (fun _ _ => ⟨fun owes => ?_, id⟩) fun _ _ => id
      cases owes.2
    | cons dep left =>
      obtain ⟨tasks', h⟩ : ∃ tasks', σ.tasks.appendToBlocks (board.nowMs σ.ticks) dep row.id = .ok tasks' :=
        rewrite_known (know.owesBlock dep row.id ⟨rfl, List.mem_cons_self⟩).1
      simp only [TaskBoard.resume, h]
      exact inv.append hn h
  | reading taskId update =>
    cases htask : σ.tasks[taskId]? with
    | none =>
      simp only [TaskBoard.resume, htask]
      exact inv.pass hn (.done _) (fun _ _ => ⟨id, id⟩) fun _ _ => id
    | some existing =>
      simp only [TaskBoard.resume, htask]
      refine inv.pass hn (.idle (fun _ _ => ⟨id, id⟩) (fun _ _ e => ?_) fun _ _ _ e => ?_)
        (fun _ _ => ⟨id, id⟩) fun _ _ => id
      · cases e
      · cases e
        exact fun b mem => ⟨existing, htask, mem⟩
  | writing taskId update existing =>
    cases h : σ.tasks.updateTask (board.nowMs σ.ticks) taskId update with
    | error error =>
      simp only [TaskBoard.resume, h]
      exact inv.pass hn (.done _) (fun _ _ => ⟨id, id⟩) fun _ _ => id
    | ok tasks' =>
      simp only [TaskBoard.resume, h]
      exact inv.write hn orderly h
  | unblocking taskId left =>
    cases left with
    | nil =>
      have nothing (a b : String) : ¬ (TaskCall.unblocking taskId []).OwesRelease a b := by
        intro owes
        cases owes.2
      cases htask : σ.tasks[taskId]? with
      | none =>
        simp only [TaskBoard.resume, htask]
        exact inv.pass hn (.done _) (fun a b => ⟨id, nothing a b⟩) fun _ _ => id
      | some updated =>
        simp only [TaskBoard.resume, htask]
        exact inv.pass hn (.done _) (fun a b => ⟨id, nothing a b⟩) fun _ _ => id
    | cons d left =>
      have blocks := (know.owesRelease taskId d ⟨rfl, List.mem_cons_self⟩).1
      obtain ⟨tasks', h⟩ :
          ∃ tasks', σ.tasks.removeFromBlockedBy (board.nowMs σ.ticks) d taskId = .ok tasks' :=
        rewrite_known (inv.blocked taskId d blocks)
      simp only [TaskBoard.resume, h]
      exact inv.remove hn h
  | done result => exact inv.pass hn (.done _) (fun _ _ => ⟨id, id⟩) fun _ _ => id

lemma BoardInv.fail (inv : BoardInv board σ) (hn : σ.calls[n]? = some call)
    (nothing : OwesNothing σ.tasks call) (message : String) :
    BoardInv board { σ with calls := σ.calls.set n (.done (.error (.database message))) } := by
  refine inv.quiet hn (le_refl _) (.done _) (fun _ _ owes => owes.elim) ?_ ?_
  · intro a b owes
    cases call with
    | appending row left =>
      obtain ⟨rfl, mem⟩ := owes
      exact .inr (nothing a mem)
    | _ => exact owes.elim
  · intro a b owes
    cases call with
    | unblocking taskId left =>
      obtain ⟨rfl, mem⟩ := owes
      exact .inr (nothing b mem)
    | _ => exact owes.elim

lemma BoardInv.step {step : Step} (inv : BoardInv board σ) (orderly : Orderly σ step) :
    BoardInv board (board.next σ step) := by
  cases step with
  | createTask request =>
    refine inv.arrive (.idle (fun _ _ => ⟨id, id⟩) (fun _ _ e => ?_) fun _ _ _ e => ?_) fun _ _ => id
    · cases e
      exact fun _ => .inl
    · cases e
  | updateTask taskId update =>
    refine inv.arrive (.idle (fun _ _ => ⟨id, id⟩) (fun _ _ e => ?_) fun _ _ _ e => ?_) fun _ _ => id
    · cases e
    · cases e
  | advance n =>
    cases hn : σ.calls[n]? with
    | none =>
      simp only [TaskBoard.next, hn]
      exact inv
    | some call =>
      simp only [TaskBoard.next, hn]
      exact inv.resume hn (orderly call hn)
  | fail n message =>
    cases hn : σ.calls[n]? with
    | none =>
      simp only [TaskBoard.next, hn]
      exact inv
    | some call =>
      cases call with
      | done =>
        simp only [TaskBoard.next, hn]
        exact inv
      | _ =>
        simp only [TaskBoard.next, hn]
        exact inv.fail hn (orderly _ hn) message

lemma BoardInv.start : BoardInv board initial := by
  have none : ∀ a : String, initial.tasks[a]? = none := fun a => Table.get_empty
  have unknown : ∀ a, ¬ Known initial.tasks a := fun a => by simp [Known, none]
  have edgeless : ∀ a b, ¬ Waits initial.tasks a b := fun a b => by simp [Waits, none]
  have unblocked : ∀ a b, ¬ Blocks initial.tasks a b := fun a b h => unknown a h.known
  refine ⟨fun a b _ => ?_, fun a b _ h => absurd h (edgeless a b), fun a b h => absurd h (edgeless a b),
    fun a h => absurd h (unknown a), fun a b h => absurd h (unblocked a b), fun call h => ?_⟩
  · constructor
    · intro h
      rcases h with h | ⟨call, hc, _⟩
      · exact absurd h (unblocked a b)
      · cases hc
    · exact fun h => absurd h (edgeless a b)
  · cases h

lemma BoardInv.reachable (h : (board.lts.guard Orderly).Reachable σ) : BoardInv board σ := by
  refine h.invariant ?_ ?_
  · rintro _ rfl
    exact .start
  · intro σ step σ' inv ⟨orderly, _, e⟩
    rw [e]
    exact inv.step orderly

lemma BoardInv.younger (inv : BoardInv board σ) (chain : Relation.TransGen (Waits σ.tasks) a b) :
    ∃ m n, m < n ∧ board.generateId m = a ∧ board.generateId n = b := by
  induction chain with
  | single wait => exact (inv.older _ _ wait).2
  | tail _ wait ih =>
    obtain ⟨m, n, lt, rfl, e⟩ := ih
    obtain ⟨n', k, lt', e', rfl⟩ := (inv.older _ _ wait).2
    obtain rfl := board.generateId_injective (e.trans e'.symm)
    exact ⟨m, k, lt.trans lt', rfl, rfl⟩

lemma BoardInv.oldest (inv : BoardInv board σ)
    (live : ∀ a b, Waits σ.tasks a b → Known σ.tasks a ∧ ¬ Completed σ.tasks a)
    (some_ : ∃ a, Known σ.tasks a ∧ ¬ Completed σ.tasks a) :
    ∃ a, Known σ.tasks a ∧ ¬ Completed σ.tasks a ∧ ∀ b, ¬ Waits σ.tasks b a := by
  have drawn : ∃ n, Known σ.tasks (board.generateId n) ∧ ¬ Completed σ.tasks (board.generateId n) := by
    obtain ⟨a, known, open_⟩ := some_
    obtain ⟨n, _, rfl⟩ := inv.drawn a known
    exact ⟨n, known, open_⟩
  classical
  refine ⟨board.generateId (Nat.find drawn), (Nat.find_spec drawn).1, (Nat.find_spec drawn).2, ?_⟩
  intro b wait
  obtain ⟨_, m, n, lt, rfl, e⟩ := inv.older b _ wait
  obtain rfl := board.generateId_injective e
  exact Nat.find_min drawn lt (live _ _ wait)

/-- In every run whose steps are in order, an edge is stored in both its rows up to what calls under way
have yet to write, a completed task is named by none but those that a call has yet to reach, and no task
waits for itself through others. Between calls, the graph is consistent. -/
theorem consistent_of_orderly (reach : (board.lts.guard Orderly).Reachable σ) :
    (∀ a b, ¬ Completed σ.tasks a →
      ((Blocks σ.tasks a b ∨ ∃ call ∈ σ.calls, call.OwesBlock a b) ↔ Waits σ.tasks a b)) ∧
    (∀ a b, Completed σ.tasks a → Waits σ.tasks a b → ∃ call ∈ σ.calls, call.OwesRelease a b) ∧
    (∀ a, ¬ Relation.TransGen (Waits σ.tasks) a a) ∧
    ((∀ call ∈ σ.calls, call.Returned) → Tasks.Consistent σ.tasks) := by
  have inv := BoardInv.reachable reach
  have acyclic : ∀ a, ¬ Relation.TransGen (Waits σ.tasks) a a := by
    intro a chain
    obtain ⟨m, n, lt, e, e'⟩ := inv.younger chain
    have := board.generateId_injective (e.trans e'.symm)
    omega
  refine ⟨inv.mirrored, inv.released, acyclic, fun returned => ?_⟩
  have paid : ∀ a b, (¬ ∃ call ∈ σ.calls, call.OwesBlock a b) ∧
      ¬ ∃ call ∈ σ.calls, call.OwesRelease a b := by
    intro a b
    constructor
    · intro ⟨call, hc, owes⟩
      cases call with
      | appending => exact returned _ hc
      | _ => exact owes
    · intro ⟨call, hc, owes⟩
      cases call with
      | unblocking => exact returned _ hc
      | _ => exact owes
  have released : ∀ a b, Completed σ.tasks a → ¬ Waits σ.tasks a b := fun a b completed wait =>
    (paid a b).2 (inv.released a b completed wait)
  have live : ∀ a b, Waits σ.tasks a b → Known σ.tasks a ∧ ¬ Completed σ.tasks a := fun a b wait =>
    ⟨(inv.older a b wait).1, fun completed => released a b completed wait⟩
  refine ⟨fun a b open_ => ?_, released, live, acyclic, inv.oldest live⟩
  rw [← inv.mirrored a b open_, or_iff_left (paid a b).1]

/-- A board whose ids are one stroke, two strokes and so on. -/
def tally : TaskBoard where
  generateId n := String.ofList (List.replicate (n + 1) '|')
  generateId_injective := strokes_injective
  nowMs n := n

def taskRequest (blockedBy : List String) : TaskRequest :=
  { subject := "task", description := none, owner := none, blockedBy := blockedBy }

def statusUpdate (status : TaskStatus) : TaskUpdate :=
  { status := some status, description := none, owner := none, blockedBy := none, metadata := none }

/-- A task is created, and another one that waits for it; the first one is completed while the second one is
started. -/
def orderlyRun : List Step :=
  [.createTask (taskRequest []), .advance 0, .advance 0,
    .createTask (taskRequest ["|"]), .advance 1, .advance 1, .advance 1, .advance 1,
    .updateTask "|" (statusUpdate .completed), .updateTask "||||" (statusUpdate .inProgress),
    .advance 2, .advance 3, .advance 2, .advance 3, .advance 2, .advance 3, .advance 2]

/-- At its end nothing waits. -/
theorem consistent_orderlyRun : Tasks.Consistent (orderlyRun.foldl tally.next initial).tasks :=
  (consistent_of_orderly (.guarded (by decide))).2.2.2 (by decide)

/-- Two tasks are created, the second one is made to wait for the first one, and the first one is
completed. -/
def editedRun : List Step :=
  [.createTask (taskRequest []), .advance 0, .advance 0,
    .createTask (taskRequest []), .advance 1, .advance 1,
    .updateTask "|||" { statusUpdate .pending with blockedBy := some ["|"] },
    .advance 2, .advance 2, .advance 2,
    .updateTask "|" (statusUpdate .completed), .advance 3, .advance 3, .advance 3]

/-- A task is completed while another one is created that is to wait for it. -/
def racedRun : List Step :=
  [.createTask (taskRequest []), .advance 0, .advance 0,
    .createTask (taskRequest ["|"]), .advance 1,
    .updateTask "|" (statusUpdate .completed), .advance 2,
    .advance 1, .advance 1, .advance 1, .advance 2, .advance 2]

/-- In both runs every call returns, and a task waits for a completed one. -/
theorem editedTask_waits :
    (tally.lts.Reachable (editedRun.foldl tally.next initial) ∧
      (∀ call ∈ (editedRun.foldl tally.next initial).calls, call.Returned) ∧
      Completed (editedRun.foldl tally.next initial).tasks "|" ∧
      Waits (editedRun.foldl tally.next initial).tasks "|" "|||") ∧
    (tally.lts.Reachable (racedRun.foldl tally.next initial) ∧
      (∀ call ∈ (racedRun.foldl tally.next initial).calls, call.Returned) ∧
      Completed (racedRun.foldl tally.next initial).tasks "|" ∧
      Waits (racedRun.foldl tally.next initial).tasks "|" "|||||") := by
  refine ⟨⟨.computed LTS.enabledAll_true, by decide, by decide, by decide⟩,
    ⟨.computed LTS.enabledAll_true, by decide, by decide, by decide⟩⟩

end KiCore.Team

import KiCore.Lib.Transition
import KiCore.Session.Claude.Adapter

/-!
# The cost of a claude session

Port of `CostLedger` of `claude_conn.rs` and of what `session_agent.rs` keeps of a usage report:
`informative_usage`, `persist_context_usage` and `initial_cost_usd_from_snapshot`. The CLI counts the cost of
one process; the ledger adds what earlier processes have spent. Costs are rationals. `parses` stands for the
decoder of a stored snapshot, which is not part of the repository. Left out are logs and the frames that the
renderer gets.
-/

namespace KiCore.Session.Claude

open KiCore.Lib

/-- A usage event with its cost, which the adapter takes from `total_cost_usd`. -/
structure UsageReport extends UsageDelta where
  costUsd : Option ℚ

structure CostLedger where
  /-- what was spent before the current process -/
  base : ℚ
  /-- the latest report of the current process -/
  lastRaw : ℚ

namespace CostLedger

def seeded (initialCostUsd : Option ℚ) : CostLedger where
  base := initialCostUsd.getD 0
  lastRaw := 0

def startReader (ledger : CostLedger) : CostLedger :=
  if 0 < ledger.lastRaw then { base := ledger.base + ledger.lastRaw, lastRaw := 0 } else ledger

/-- `process_batch`: the ledger after a usage event, and the cost that is broadcast with the event. -/
def record (ledger : CostLedger) : Option ℚ → CostLedger × Option ℚ
  | some raw => ({ ledger with lastRaw := raw }, some (raw + ledger.base))
  | none => (ledger, none)

end CostLedger

structure Cost where
  amount : ℚ
  currency : String

/-- The detail line of a snapshot. -/
structure UsageMeta where
  inputTokens : Nat
  outputTokens : Nat
  cachedReadTokens : Nat
  cachedWriteTokens : Nat
  thoughtTokens : Nat

structure ContextUsage where
  used : Option Nat := none
  size : Option Nat := none
  cost : Option Cost := none
  detail : Option UsageMeta := none

def UsageDelta.breakdownIsEmpty (delta : UsageDelta) : Bool :=
  delta.cachedReadTokens = 0 && delta.cachedWriteTokens = 0 && delta.thoughtTokens = 0

def UsageDelta.detail (delta : UsageDelta) : UsageMeta where
  inputTokens := delta.inputTokens
  outputTokens := delta.outputTokens
  cachedReadTokens := delta.cachedReadTokens
  cachedWriteTokens := delta.cachedWriteTokens
  thoughtTokens := delta.thoughtTokens

def informativeUsage (report : UsageReport) : Bool := 0 < report.totalTokens

def persistContextUsage (usage : Option ContextUsage) (report : UsageReport) : ContextUsage :=
  let usage := usage.getD {}
  { used := some report.totalTokens
    size := report.contextWindow.or usage.size
    cost := (report.costUsd.map fun cost => { amount := cost, currency := "USD" }).or usage.cost
    detail := if report.breakdownIsEmpty then usage.detail else some report.toUsageDelta.detail }

def initialCostUsdFromSnapshot (snapshot : Option ContextUsage) : Option ℚ :=
  match snapshot.bind ContextUsage.cost with
  | some cost =>
    if cost.currency.toList.map Char.toLower = ['u', 's', 'd'] ∧ 0 < cost.amount then some cost.amount else none
  | none => none

structure Conversation where
  /-- the ledger of the backend, if one is open -/
  backend : Option CostLedger
  /-- the stored snapshot -/
  usage : Option ContextUsage
  /-- the cost in the snapshot before the first open -/
  seed : ℚ
  /-- the last reports of the finished processes, and that of the current one -/
  finals : List ℚ
  current : ℚ
  /-- the costs shown: the seed and the broadcasts, the last one first -/
  shown : List ℚ
  /-- a report has raised the cost since the snapshot took one -/
  behind : Bool

namespace Conversation

inductive Event where
  /-- a new backend, at first or after a restart of the application; `loaded` tells whether the row of the
  session could be read -/
  | «open» (loaded : Bool)
  /-- a new process of the backend that is open -/
  | wake
  /-- a usage event; `stored` tells whether the consumer could read and write the snapshot -/
  | report (delta : UsageReport) (stored : Bool)

def spent (s : Conversation) : ℚ := s.seed + s.finals.sum + s.current

def init (usage : Option ContextUsage) : Conversation :=
  { backend := none, usage := usage, seed := (initialCostUsdFromSnapshot usage).getD 0, finals := [], current := 0,
    shown := [(initialCostUsdFromSnapshot usage).getD 0], behind := false }

variable (parses : ContextUsage → Bool) (s : Conversation)

def loadSnapshot (loaded : Bool) : Option ContextUsage :=
  if loaded then s.usage.filter parses else none

/-- A usage event: the backend rewrites its cost, the consumer merges it into the snapshot. -/
def report (ledger : CostLedger) (delta : UsageReport) (stored : Bool) : Conversation :=
  let (ledger, cost) := ledger.record delta.costUsd
  let kept := informativeUsage delta && stored
  { s with
    backend := some ledger
    usage := if kept then some (persistContextUsage s.usage { delta with costUsd := cost }) else s.usage
    current := delta.costUsd.getD s.current
    shown := cost.toList ++ s.shown
    behind := match delta.costUsd with
      | some raw => !kept && (s.behind || raw ≠ s.current)
      | none => s.behind }

def next : Event → Conversation
  | .open loaded =>
    { s with
      backend := some (.startReader (.seeded (initialCostUsdFromSnapshot (s.loadSnapshot parses loaded))))
      finals := s.current :: s.finals
      current := 0 }
  | .wake => match s.backend with
    | some ledger =>
      { s with backend := some ledger.startReader, finals := s.current :: s.finals, current := 0 }
    | none => s
  | .report delta stored => match s.backend with
    | some ledger => s.report ledger delta stored
    | none => s

/-- A process reports costs that do not decrease. -/
def Enabled : Event → Prop
  | .open _ => True
  | .wake => s.backend.isSome
  | .report delta _ => s.backend.isSome ∧ ∀ raw, delta.costUsd = some raw → s.current ≤ raw

/-- A broadcast cost is the seed with the last reports of all earlier processes and the current one, so it is not
below another one; and neither is the figure from which a new backend goes on. -/
def Cumulative : Event → Prop
  | .open loaded => ∀ figure ∈ s.shown, ∀ ledger, (s.next parses (.open loaded)).backend = some ledger →
      figure ≤ ledger.base
  | .wake => True
  | .report delta _ => ∀ ledger, s.backend = some ledger → ∀ cost, (ledger.record delta.costUsd).2 = some cost →
      cost = s.seed + s.finals.sum + delta.costUsd.getD 0 ∧ ∀ figure ∈ s.shown, figure ≤ cost

/-- A backend is opened when nothing has been spent yet, or from a snapshot that could be read and has taken a
report since the cost was last raised. -/
def UpToDate : Event → Prop
  | .open loaded => s.spent = 0 ∨ loaded ∧ s.usage.any parses ∧ s.behind = false
  | _ => True

def persisted (usage : Option ContextUsage) : ℚ := (initialCostUsdFromSnapshot usage).getD 0

lemma persisted_none : persisted none = 0 := rfl

lemma persisted_nonneg (usage : Option ContextUsage) : 0 ≤ persisted usage := by
  rw [persisted, initialCostUsdFromSnapshot]
  split
  · split
    next positive => exact positive.2.le
    next => exact le_rfl
  · exact le_rfl

lemma persisted_cost {usage : Option ContextUsage} {report : UsageReport} {cost : ℚ}
    (costed : report.costUsd = some cost) (nonneg : 0 ≤ cost) :
    persisted (some (persistContextUsage usage report)) = cost := by
  have stored : (some (persistContextUsage usage report)).bind ContextUsage.cost = some ⟨cost, "USD"⟩ := by
    rw [Option.bind_some, persistContextUsage, costed]
    rfl
  rw [persisted, initialCostUsdFromSnapshot, stored]
  dsimp only
  rcases nonneg.eq_or_lt with zero | positive
  · rw [if_neg fun both => (zero ▸ both.2).false, ← zero]
    rfl
  · rw [if_pos ⟨by decide, positive⟩, Option.getD_some]

lemma persisted_costless {usage : Option ContextUsage} {report : UsageReport} (costless : report.costUsd = none) :
    persisted (some (persistContextUsage usage report)) = persisted usage := by
  have stored : (some (persistContextUsage usage report)).bind ContextUsage.cost =
      usage.bind ContextUsage.cost := by
    rw [Option.bind_some, persistContextUsage, costless]
    cases usage <;> rfl
  rw [persisted, persisted, initialCostUsdFromSnapshot, initialCostUsdFromSnapshot, stored]

lemma startReader_eq {ledger : CostLedger} (nonneg : 0 ≤ ledger.lastRaw) :
    ledger.startReader = { base := ledger.base + ledger.lastRaw, lastRaw := 0 } := by
  rw [CostLedger.startReader]
  split
  next => rfl
  next not_ =>
    obtain ⟨base, lastRaw⟩ := ledger
    obtain rfl : lastRaw = 0 := le_antisymm (not_lt.mp not_) nonneg
    rw [add_zero]

lemma next_open (loaded : Bool) : s.next parses (.open loaded) =
    { s with
      backend := some { base := persisted (s.loadSnapshot parses loaded), lastRaw := 0 }
      finals := s.current :: s.finals
      current := 0 } := by
  rw [next, startReader_eq le_rfl, CostLedger.seeded, add_zero]
  rfl

/-- The ledger holds what was spent, and the snapshot what was spent unless it is behind. -/
structure Inv (s : Conversation) : Prop where
  before : 0 ≤ s.seed + s.finals.sum
  current : 0 ≤ s.current
  ledger : ∀ ledger, s.backend = some ledger → ledger = { base := s.seed + s.finals.sum, lastRaw := s.current }
  stored : s.behind = false → persisted s.usage = s.spent
  behind : s.behind = true → persisted s.usage < s.spent
  shown : s.spent ∈ s.shown
  top : ∀ figure ∈ s.shown, figure ≤ s.spent

lemma Inv.init (usage : Option ContextUsage) : Inv (init usage) := by
  have all : (Conversation.init usage).spent = persisted usage := by
    change persisted usage + List.sum [] + 0 = _
    rw [List.sum_nil, add_zero, add_zero]
  refine ⟨?_, le_rfl, fun _ none_ => ?_, fun _ => all.symm, fun never => ?_, ?_, ?_⟩
  · change 0 ≤ persisted usage + List.sum []
    rw [List.sum_nil, add_zero]
    exact persisted_nonneg usage
  · cases none_
  · cases never
  · rw [all]
    exact List.mem_singleton_self _
  · rw [all]
    intro figure mem
    exact (List.mem_singleton.mp mem).le

variable {s : Conversation} {parses}

lemma Inv.persisted_le (inv : Inv s) : persisted s.usage ≤ s.spent := by
  cases late : s.behind with
  | false => exact (inv.stored late).le
  | true => exact (inv.behind late).le

lemma Inv.load_le (inv : Inv s) (loaded : Bool) : persisted (s.loadSnapshot parses loaded) ≤ s.spent := by
  have nothing : persisted none ≤ s.spent := add_nonneg inv.before inv.current
  rw [loadSnapshot]
  split
  · cases there : s.usage with
    | none => exact nothing
    | some usage =>
      rw [Option.filter_some]
      split
      · exact there ▸ inv.persisted_le
      · exact nothing
  · exact nothing

lemma Inv.process (inv : Inv s) {ledger : CostLedger} (base : ledger = { base := s.spent, lastRaw := 0 }) :
    Inv { s with backend := some ledger, finals := s.current :: s.finals, current := 0 } := by
  have sum : s.seed + (s.current :: s.finals).sum = s.spent := by
    rw [List.sum_cons, spent]
    ring
  have all : spent { s with backend := some ledger, finals := s.current :: s.finals, current := 0 } = s.spent := by
    rw [spent, add_zero]
    exact sum
  refine ⟨?_, le_rfl, ?_, ?_, ?_, ?_, ?_⟩
  · dsimp only
    rw [sum]
    exact add_nonneg inv.before inv.current
  · rintro _ ⟨⟩
    dsimp only
    rw [sum, base]
  all_goals rw [all]
  · exact inv.stored
  · exact inv.behind
  · exact inv.shown
  · exact inv.top

lemma Inv.open_iff (inv : Inv s) (loaded : Bool) :
    s.UpToDate parses (.open loaded) ↔ persisted (s.loadSnapshot parses loaded) = s.spent := by
  have nonneg : 0 ≤ s.spent := add_nonneg inv.before inv.current
  change s.spent = 0 ∨ _ ↔ _
  by_cases read : loaded = true ∧ s.usage.any parses = true
  · have whole : s.loadSnapshot parses loaded = s.usage := by
      rw [loadSnapshot, if_pos read.1]
      obtain ⟨usage, there, ok⟩ := (Option.any_eq_true _ _).mp read.2
      rw [there, Option.filter_some, if_pos ok]
    rw [whole]
    constructor
    · rintro (zero | ⟨-, -, current⟩)
      · exact le_antisymm inv.persisted_le (zero ▸ persisted_nonneg _)
      · exact inv.stored current
    · intro same
      refine .inr ⟨read.1, read.2, ?_⟩
      cases late : s.behind with
      | false => rfl
      | true => exact absurd same (inv.behind late).ne
  · have nothing : s.loadSnapshot parses loaded = none := by
      rw [loadSnapshot]
      split
      next yes =>
        apply Option.filter_eq_none_iff.mpr
        intro usage there ok
        exact read ⟨yes, (Option.any_eq_true _ _).mpr ⟨usage, there, ok⟩⟩
      next => rfl
    rw [nothing, persisted_none]
    constructor
    · rintro (zero | ⟨yes, ok, -⟩)
      · exact zero.symm
      · exact absurd ⟨yes, ok⟩ read
    · intro zero
      exact .inl zero.symm

lemma Inv.wake (inv : Inv s) : Inv (s.next parses .wake) := by
  rw [next]
  cases open_ : s.backend with
  | none => exact inv
  | some ledger =>
    apply inv.process
    obtain rfl := inv.ledger ledger open_
    exact startReader_eq inv.current

/-- What the consumer keeps of a usage event. -/
def kept (usage : Option ContextUsage) (report : UsageReport) (stored : Bool) : Option ContextUsage :=
  if informativeUsage report && stored then some (persistContextUsage usage report) else usage

lemma persisted_kept_costless {usage : Option ContextUsage} {report : UsageReport} {stored : Bool}
    (costless : report.costUsd = none) : persisted (kept usage report stored) = persisted usage := by
  rw [kept]
  split
  · exact persisted_costless costless
  · rfl

lemma report_costless {delta : UsageReport} {ledger : CostLedger} {stored : Bool} (costless : delta.costUsd = none) :
    s.report ledger delta stored =
      { s with backend := some ledger, usage := kept s.usage { delta with costUsd := none } stored } := by
  rw [Conversation.report, costless]
  rfl

lemma report_costed {delta : UsageReport} {ledger : CostLedger} {stored : Bool} {raw : ℚ}
    (costed : delta.costUsd = some raw) : s.report ledger delta stored =
      { s with
        backend := some { ledger with lastRaw := raw }
        usage := kept s.usage { delta with costUsd := some (raw + ledger.base) } stored
        current := raw
        shown := (raw + ledger.base) :: s.shown
        behind := !(informativeUsage delta && stored) && (s.behind || raw ≠ s.current) } := by
  rw [Conversation.report, costed]
  rfl

lemma Inv.costless (inv : Inv s) {usage : Option ContextUsage} (same : persisted usage = persisted s.usage) :
    Inv { s with usage := usage } where
  before := inv.before
  current := inv.current
  ledger := inv.ledger
  stored late := same.trans (inv.stored late)
  behind late := same.trans_lt (inv.behind late)
  shown := inv.shown
  top := inv.top

lemma Inv.kept (inv : Inv s) (report : UsageReport) (stored : Bool) {raw cost : ℚ}
    (costed : report.costUsd = some cost) (sum : cost = s.seed + s.finals.sum + raw) (rises : s.current ≤ raw)
    (late : Bool) (eq : late = (!(informativeUsage report && stored) && (s.behind || raw ≠ s.current))) :
    (late = false → persisted (kept s.usage report stored) = cost) ∧
      (late = true → persisted (kept s.usage report stored) < cost) := by
  have more : s.spent ≤ cost := by
    rw [sum, spent]
    exact add_le_add_right rises _
  have nonneg : 0 ≤ cost := (add_nonneg inv.before inv.current).trans more
  rw [Conversation.kept]
  cases keep : informativeUsage report && stored with
  | true =>
    rw [if_pos rfl, persisted_cost costed nonneg]
    rw [keep] at eq
    exact ⟨fun _ => rfl, fun yes => absurd (yes.symm.trans eq) Bool.true_eq_false_eq_False⟩
  | false =>
    rw [if_neg Bool.false_ne_true]
    rw [keep, Bool.not_false, Bool.true_and] at eq
    constructor
    · rintro rfl
      obtain ⟨current, same⟩ := Bool.or_eq_false_iff.mp eq.symm
      rw [inv.stored current, sum, spent, not_not.mp (of_decide_eq_false same)]
    · rintro rfl
      rcases Bool.or_eq_true_iff.mp eq.symm with behind | raised
      · exact (inv.behind behind).trans_le more
      · apply inv.persisted_le.trans_lt
        rw [sum, spent]
        exact add_lt_add_right (rises.lt_of_ne' (of_decide_eq_true raised)) _

lemma Inv.report (inv : Inv s) {ledger : CostLedger} (open_ : s.backend = some ledger) (delta : UsageReport)
    (stored : Bool) (rising : ∀ raw, delta.costUsd = some raw → s.current ≤ raw) :
    Inv (s.report ledger delta stored) := by
  cases costed : delta.costUsd with
  | none =>
    rw [report_costless costed, ← open_]
    exact inv.costless (persisted_kept_costless rfl)
  | some raw =>
    obtain rfl := inv.ledger ledger open_
    have rises := rising raw costed
    rw [report_costed costed]
    dsimp only
    rw [add_comm raw]
    obtain ⟨same, less⟩ := inv.kept { delta with costUsd := _ } stored rfl rfl rises _ rfl
    refine ⟨inv.before, inv.current.trans rises, ?_, same, less, List.mem_cons_self, ?_⟩
    · rintro _ ⟨⟩
      rfl
    · intro figure mem
      rcases List.mem_cons.mp mem with rfl | mem
      · exact le_rfl
      · exact (inv.top figure mem).trans (add_le_add_right rises _)

lemma Inv.next (inv : Inv s) {e : Event} (enabled : Enabled s e) (current : s.UpToDate parses e) :
    Inv (s.next parses e) := by
  cases e with
  | «open» loaded =>
    rw [next_open]
    apply inv.process
    rw [(inv.open_iff loaded).mp current]
  | wake => exact inv.wake
  | report delta stored =>
    rw [Conversation.next]
    cases open_ : s.backend with
    | none => exact inv
    | some ledger => exact inv.report open_ delta stored enabled.2

lemma Inv.cumulative_iff (inv : Inv s) {e : Event} (enabled : Enabled s e) :
    s.Cumulative parses e ↔ s.UpToDate parses e := by
  cases e with
  | «open» loaded =>
    rw [inv.open_iff, Cumulative, next_open]
    constructor
    · intro above
      exact le_antisymm (inv.load_le loaded) (above _ inv.shown _ rfl)
    · rintro same figure mem _ ⟨⟩
      exact same ▸ inv.top figure mem
  | wake => exact Iff.rfl
  | report delta stored =>
    refine iff_of_true (fun ledger open_ cost sent => ?_) trivial
    obtain rfl := inv.ledger ledger open_
    cases costed : delta.costUsd with
    | none =>
      rw [costed] at sent
      cases sent
    | some raw =>
      rw [costed] at sent
      obtain rfl := Option.some_inj.mp sent
      refine ⟨add_comm _ _, fun figure mem => (inv.top figure mem).trans ?_⟩
      rw [spent, add_comm raw]
      exact add_le_add_right (enabled.2 raw costed) _

variable {usage : Option ContextUsage} {events : List Event}

/-- In any run the costs are cumulative over all processes exactly as long as every backend is opened up to date. -/
theorem cost_cumulative_iff (run : LTS.EnabledAll Enabled (next parses) (init usage) events) :
    LTS.EnabledAll (Cumulative parses) (next parses) (init usage) events ↔
      LTS.EnabledAll (UpToDate parses) (next parses) (init usage) events :=
  LTS.enabledAll_congr (I := fun _ => True) (fun _ _ _ _ => trivial)
    (fun _ _ _ inv enabled => ⟨inv.cumulative_iff enabled, inv.next enabled⟩) run trivial (Inv.init usage)

/-- A snapshot is decoded if it has what the schema of the protocol requires. -/
def hasSize (usage : ContextUsage) : Bool := usage.used.isSome && usage.size.isSome

/-- A usage report of a claude model with a window of 200000 tokens. -/
def turn (totalTokens : Nat) (costUsd : ℚ) : UsageReport where
  inputTokens := totalTokens
  outputTokens := 0
  totalTokens := totalTokens
  contextWindow := some 200000
  cachedReadTokens := 0
  cachedWriteTokens := 0
  thoughtTokens := 0
  costUsd := some costUsd

lemma next_turn {ledger : CostLedger} {usage : Option ContextUsage} {seed current : ℚ} {finals shown : List ℚ}
    {behind stored : Bool} {totalTokens : Nat} {costUsd : ℚ} :
    next hasSize ⟨some ledger, usage, seed, finals, current, shown, behind⟩ (.report (turn totalTokens costUsd) stored) =
      ⟨some { ledger with lastRaw := costUsd }, kept usage (turn totalTokens (costUsd + ledger.base)) stored, seed, finals,
        costUsd, (costUsd + ledger.base) :: shown,
        !(decide (0 < totalTokens) && stored) && (behind || costUsd ≠ current)⟩ :=
  report_costed (show (turn totalTokens costUsd).costUsd = some costUsd from rfl)

lemma kept_turn {usage : Option ContextUsage} {stored : Bool} {totalTokens : Nat} {costUsd : ℚ} :
    kept usage (turn totalTokens costUsd) stored = if decide (0 < totalTokens) && stored then
      some (persistContextUsage usage (turn totalTokens costUsd)) else usage := rfl

lemma persisted_turn {usage : Option ContextUsage} {totalTokens : Nat} {costUsd : ℚ} (nonneg : 0 ≤ costUsd) :
    persisted ((some (persistContextUsage usage (turn totalTokens costUsd))).filter hasSize) = costUsd :=
  persisted_cost rfl nonneg

lemma next_wake {base lastRaw : ℚ} {usage : Option ContextUsage} {seed current : ℚ} {finals shown : List ℚ}
    {behind : Bool} (nonneg : 0 ≤ lastRaw) :
    next hasSize ⟨some ⟨base, lastRaw⟩, usage, seed, finals, current, shown, behind⟩ .wake =
      ⟨some ⟨base + lastRaw, 0⟩, usage, seed, current :: finals, 0, shown, behind⟩ := by
  rw [next]
  dsimp only
  rw [startReader_eq nonneg]

lemma next_restart {ledger : CostLedger} {usage : Option ContextUsage} {seed current : ℚ} {finals shown : List ℚ}
    {behind : Bool} :
    next hasSize ⟨some ledger, usage, seed, finals, current, shown, behind⟩ (.open true) =
      ⟨some ⟨persisted (usage.filter hasSize), 0⟩, usage, seed, current :: finals, 0, shown, behind⟩ :=
  next_open ..

lemma next_first : next hasSize (init none) (.open true) = ⟨some ⟨0, 0⟩, none, 0, [0], 0, [0], false⟩ :=
  next_open ..

/-- A compaction has its own cost and no tokens; the application is restarted before the next turn. -/
def compacted : List Event :=
  [.open true, .report (turn 26420 3) true, .report (turn 0 5) true, .open true, .report (turn 27238 1) true]

theorem compacted_lost : LTS.EnabledAll Enabled (next hasSize) (init none) compacted ∧
    (compacted.foldl (next hasSize) (init none)).shown = [4, 5, 3, 0] ∧
    ¬ LTS.EnabledAll (Cumulative hasSize) (next hasSize) (init none) compacted := by
  refine ⟨?_, ?_, ?_⟩
  · simp [compacted, LTS.EnabledAll, Enabled, next_first, next_restart, next_turn]
    norm_num [turn]
  · simp [compacted, next_first, next_restart, next_turn, kept_turn, persisted_turn]
    norm_num
  · rintro ⟨-, -, -, law, -⟩
    have below := law 5 (by simp [next_first, next_turn]) _ (by rw [next_open])
    simp [next_first, next_turn, loadSnapshot, kept_turn, persisted_turn] at below
    norm_num at below

/-- The next turn after the compaction is over before the restart. -/
def carried : List Event :=
  [.open true, .report (turn 26420 3) true, .report (turn 0 5) true, .wake, .report (turn 27238 1) true, .open true,
    .report (turn 30000 2) true]

theorem carried_cumulative : LTS.EnabledAll (Cumulative hasSize) (next hasSize) (init none) carried := by
  refine (cost_cumulative_iff ?_).mpr ?_
  · simp [carried, LTS.EnabledAll, Enabled, next_first, next_restart, next_turn, next_wake]
    norm_num [turn]
  · simp [carried, LTS.EnabledAll, UpToDate, next_first, next_turn, next_wake, kept_turn]
    norm_num
    exact ⟨.inl (by norm_num [spent, init, initialCostUsdFromSnapshot]), .inr rfl⟩

end Conversation

end KiCore.Session.Claude

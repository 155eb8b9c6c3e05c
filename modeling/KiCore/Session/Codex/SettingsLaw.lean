import KiCore.Lib.Pool
import KiCore.Lib.Transition
import KiCore.Session.Codex.SettingsRun

/-!
# The last setting chosen wins

The task that reconciles the values of the open asks nobody what the user has chosen in the meantime,
and a wake sends the overrides of the open once more, and neither a model nor an effort.
`last_setting_wins` says on which runs the settings that the process was sent last are those that were
accepted last.
-/

namespace KiCore.Session.Codex.SettingsRun

open KiCore.Lib

variable {s t : SettingsRun} {e : SettingsEvent} {k : Nat} {call : SettingsCall} {step : CallStep}
  {command : SettingsCommand} {setting : Setting} {threadId : String}
  {kind : Setting → Option String}

/-- The last value of a kind that was accepted from one side. -/
def lastFrom (s : SettingsRun) (origin : Origin) (kind : Setting → Option String) : Option String :=
  (s.accepted.filterMap fun entry => if entry.1 = origin then kind entry.2 else none).getLast?

/-- The user's last value, and that of the open only if there was none. -/
def wanted (s : SettingsRun) (kind : Setting → Option String) : Option String :=
  (s.lastFrom .user kind).or (s.lastFrom .reconcile kind)

def launchTier (s : SettingsRun) : String := sandboxTier (threadStartParams s.config).sandbox

def wantedTier (s : SettingsRun) : String := (s.wanted Setting.asTier).getD s.launchTier

/-- What the process was sent last is what is wanted. -/
structure Settled (s : SettingsRun) : Prop where
  model : s.sent.model = s.wanted Setting.asModel
  tier : s.sent.tier = some s.wantedTier
  effort : s.sent.effort = s.wanted Setting.asEffort

def Writes (s : SettingsRun) (e : SettingsEvent) (call : SettingsCall) : Prop :=
  ∃ k threadId, e = .step k (.write .written) ∧ s.calls[k]? = some call ∧ call.stage = .bound threadId

def Reopens (s : SettingsRun) (e : SettingsEvent) : Prop :=
  ∃ k call, e = .step k (.openThread true) ∧ s.calls[k]? = some call ∧ call.stage = .received ∧
    s.slot = .waking k false

/-- The last choice has won up to a step. -/
structure Chosen (s : SettingsRun) (e : SettingsEvent) : Prop where
  prompt : ∀ call, s.Writes e call → call.command = .send → (s.next e).Settled
  /-- a wake gives the tier that was accepted last, and so loosens none -/
  wake : s.Reopens e → (s.next e).sent.tier = some s.wantedTier
  /-- what the task of the open asks for has been validated -/
  validated : ∀ call, call.origin = .reconcile → (s.next e).calls = s.calls ++ [call] →
    s.Advertised call.command

/-- The user has not chosen another value. -/
def Unchosen (s : SettingsRun) (setting : Setting) : Prop :=
  ∀ kind ∈ [Setting.asModel, Setting.asTier, Setting.asEffort], ∀ value ∈ kind setting,
    ∀ chosen ∈ s.lastFrom .user kind, value = chosen

/-- The thread of a new process has not been opened yet. -/
def Unopened (s : SettingsRun) : Prop :=
  match s.slot with
  | .waking _ resumed => resumed = false
  | .active | .dormant => False

def HeededStep (s : SettingsRun) (k : Nat) (call : SettingsCall) (step : CallStep) : Prop :=
  match step, call.stage with
  -- the handshake of a wake sends the tier of the open
  | .openThread true, .received => s.slot = .waking k false → s.wantedTier = s.launchTier
  | .write .written, .bound _ =>
    match call.command.setting with
    | some setting => call.origin = .reconcile → s.Unchosen setting
    -- a wake sends neither a model nor an effort
    | none => ¬ s.Unopened ∧ (s.wanted Setting.asModel ≠ none → s.sent.model ≠ none) ∧
      (s.wanted Setting.asEffort ≠ none → s.sent.effort ≠ none)
  | _, _ => True

/-- The condition under which the last choice wins. -/
def Heeded (s : SettingsRun) : SettingsEvent → Prop
  | .step k step => ∀ call ∈ s.calls[k]?, s.HeededStep k call step
  | _ => True

instance (s : SettingsRun) (setting : Setting) : Decidable (s.Unchosen setting) :=
  inferInstanceAs (Decidable (∀ kind ∈ _, _))

instance (s : SettingsRun) : Decidable s.Unopened := by
  unfold Unopened
  split <;> infer_instance

instance (s : SettingsRun) (k : Nat) (call : SettingsCall) (step : CallStep) :
    Decidable (s.HeededStep k call step) := by
  unfold HeededStep
  split
  · infer_instance
  · split <;> infer_instance
  · infer_instance

instance (s : SettingsRun) (e : SettingsEvent) : Decidable (s.Heeded e) := by
  unfold Heeded
  split <;> infer_instance

lemma sent_append {frame : SettingsFrame} (wire : t.wire = s.wire ++ [frame]) :
    t.sent = s.sent.take frame := by
  rw [sent, wire, List.foldl_append]
  rfl

lemma sent_of_wire (wire : t.wire = s.wire) : t.sent = s.sent := by rw [sent, wire, sent]

lemma take_update (sent : Settings) (threadId : String) (setting : Setting) :
    sent.take (.settingsUpdate threadId setting) =
      { model := setting.asModel.or sent.model
        tier := setting.asTier.or sent.tier
        effort := setting.asEffort.or sent.effort } := by
  cases setting <;> rfl

lemma take_handshake (sent : Settings) (config : CodexConfig) (mode : HandshakeMode) :
    sent.take (mode.frame config) =
      { sent with tier := some (sandboxTier (threadStartParams config).sandbox) } := by
  cases mode <;> rfl

lemma lastFrom_append {origin o : Origin}
    (accepted : t.accepted = s.accepted ++ [(o, setting)]) (kind : Setting → Option String) :
    t.lastFrom origin kind =
      if o = origin then (kind setting).or (s.lastFrom origin kind) else s.lastFrom origin kind := by
  rw [lastFrom, accepted, List.filterMap_append, lastFrom]
  by_cases same : o = origin
  · cases value : kind setting with
    | none => simp [same, value]
    | some value => simp [same, value]
  · simp [same]

lemma wanted_of_accepted (accepted : t.accepted = s.accepted) (kind : Setting → Option String) :
    t.wanted kind = s.wanted kind := by
  simp only [wanted, lastFrom, accepted]

lemma wanted_append {o : Origin} (accepted : t.accepted = s.accepted ++ [(o, setting)])
    (unchosen : o = .reconcile → ∀ value ∈ kind setting, ∀ chosen ∈ s.lastFrom .user kind,
      value = chosen) :
    t.wanted kind = (kind setting).or (s.wanted kind) := by
  rw [wanted, lastFrom_append accepted, lastFrom_append accepted, wanted]
  cases o with
  | user => simp [Option.or_assoc]
  | reconcile =>
    cases applied : kind setting with
    | none => simp
    | some value =>
      cases choice : s.lastFrom .user kind with
      | none => simp
      | some chosen =>
        have same := unchosen rfl value applied chosen choice
        simp [same]

/-- The step writes nothing to the process, and accepts nothing. -/
structure Quiet (s t : SettingsRun) : Prop where
  config : t.config = s.config
  wire : t.wire = s.wire
  accepted : t.accepted = s.accepted
  unopened : t.running = true → s.Unopened → t.Unopened
  running : t.running = true → s.running = true

lemma Quiet.refl : Quiet s s := ⟨rfl, rfl, rfl, fun _ h => h, fun h => h⟩

lemma Quiet.of_same (config : t.config = s.config) (wire : t.wire = s.wire)
    (accepted : t.accepted = s.accepted) (slot : t.slot = s.slot) (running : t.running = s.running) :
    Quiet s t :=
  ⟨config, wire, accepted, fun _ h => by rwa [Unopened, slot], fun h => running ▸ h⟩

lemma quiet_setCall (stage : CallStage) : Quiet s (s.setCall k call stage) :=
  .of_same rfl rfl rfl rfl rfl

lemma quiet_wakeFailed : Quiet s (s.wakeFailed k call) :=
  ⟨rfl, rfl, rfl, nofun, nofun⟩

lemma quiet_boundThread (expired : Bool) : Quiet s (s.boundThread k call expired) := by
  unfold boundThread
  dsimp only
  split
  · exact .of_same rfl rfl rfl rfl rfl
  · exact quiet_setCall _
  · split
    · exact .of_same rfl rfl rfl rfl rfl
    · exact .refl

lemma quiet_close : Quiet s s.close := by
  unfold close
  split
  · exact ⟨rfl, rfl, rfl, nofun, nofun⟩
  · exact .refl
  · exact .refl

lemma quiet_apply (setting : Nat → ReconcileStage) (dropped : ReconcileStage) :
    Quiet s (s.apply command setting dropped) := by
  unfold apply
  split <;> exact .of_same rfl rfl rfl rfl rfl

lemma quiet_reconcileStep : Quiet s s.reconcileStep := by
  unfold reconcileStep
  split
  · split_ifs
    · exact quiet_apply _ _
    · exact .of_same rfl rfl rfl rfl rfl
    · exact .of_same rfl rfl rfl rfl rfl
  · split_ifs
    · exact .of_same rfl rfl rfl rfl rfl
    · exact .refl
  · split_ifs
    · exact quiet_apply _ _
    · exact .of_same rfl rfl rfl rfl rfl
    · exact .of_same rfl rfl rfl rfl rfl
  · split_ifs
    · exact .of_same rfl rfl rfl rfl rfl
    · exact .refl
  · exact .refl

def opened (s : SettingsRun) (k : Nat) : SettingsRun :=
  { s with
    resumePoison := none
    slot := .waking k true
    wire := s.wire ++ [s.wakeMode.frame s.config] }

/-- What a stage of a call does: it fills the slot, opens the thread, writes its frame, or nothing that
matters here. -/
lemma advance_cases (s : SettingsRun) (k : Nat) (call : SettingsCall) (step : CallStep) :
    Quiet s (s.advance k call step) ∨
    (step = .ensureAwake true ∧ s.advance k call step = s.spawned k) ∨
    (step = .openThread true ∧ call.stage = .received ∧ s.slot = .waking k false ∧
      s.advance k call step = s.opened k) ∨
    ∃ threadId, step = .write .written ∧ call.stage = .bound threadId ∧
      s.advance k call step = s.writeFrame k call threadId := by
  unfold advance
  split
  case h_1 spawns received =>
    rw [ensureAwake]
    split
    · exact .inl (quiet_setCall _)
    · exact .inl .refl
    · cases spawns with
      | true => exact .inr (.inl ⟨rfl, rfl⟩)
      | false => exact .inl (quiet_setCall _)
  case h_2 written received =>
    rw [openThread]
    by_cases waking : s.slot = .waking k false
    case pos =>
      rw [if_pos waking]
      cases written with
      | true => exact .inr (.inr (.inl ⟨rfl, received, waking, rfl⟩))
      | false => exact .inl ⟨rfl, rfl, rfl, nofun, nofun⟩
    case neg =>
      rw [if_neg waking]
      exact .inl .refl
  case h_3 written received =>
    rw [discover]
    split_ifs with waking
    · refine .inl ⟨rfl, rfl, rfl, fun _ unopened => ?_, fun h => h⟩
      rw [Unopened, waking] at unopened
      cases unopened
    · exact .inl quiet_wakeFailed
    · exact .inl .refl
  case h_4 awake =>
    split_ifs
    · exact .inl (.of_same rfl rfl rfl rfl rfl)
    · exact .inl .refl
  case h_5 =>
    split_ifs
    · exact .inl .refl
    · exact .inl (quiet_boundThread _)
  case h_6 => exact .inl (quiet_boundThread _)
  case h_7 threadId bound => exact .inr (.inr (.inr ⟨threadId, rfl, bound, rfl⟩))
  case h_8 => exact .inl (quiet_setCall _)
  case h_9 => exact .inl .refl

lemma next_cases (s : SettingsRun) (e : SettingsEvent) :
    Quiet s (s.next e) ∨
    ∃ k call, s.calls[k]? = some call ∧
      (s.next e = s.spawned k ∨
      (e = .step k (.openThread true) ∧ call.stage = .received ∧ s.slot = .waking k false ∧
        s.next e = s.opened k) ∨
      ∃ threadId, e = .step k (.write .written) ∧ call.stage = .bound threadId ∧
        s.next e = s.writeFrame k call threadId) := by
  cases e with
  | command => exact .inl (.of_same rfl rfl rfl rfl rfl)
  | step k step =>
    rw [SettingsRun.next]
    split
    case h_1 call found =>
      obtain quiet | ⟨rfl, spawned⟩ | ⟨rfl, received, waking, opened⟩ | ⟨threadId, rfl, bound, wrote⟩ :=
        advance_cases s k call step
      · exact .inl quiet
      · exact .inr ⟨k, call, found, .inl spawned⟩
      · exact .inr ⟨k, call, found, .inr (.inl ⟨rfl, received, waking, opened⟩)⟩
      · exact .inr ⟨k, call, found, .inr (.inr ⟨threadId, rfl, bound, wrote⟩)⟩
    case h_2 => exact .inl .refl
  | reconcile => exact .inl quiet_reconcileStep
  | frame f =>
    rw [SettingsRun.next]
    split
    · cases f <;> exact .inl (.of_same rfl rfl rfl rfl rfl)
    · exact .inl .refl
  | endOfStream =>
    rw [SettingsRun.next]
    split
    · exact .inl ⟨rfl, rfl, rfl, nofun, nofun⟩
    · exact .inl .refl
  | suspend =>
    rw [SettingsRun.next]
    split
    · exact .inl .refl
    · exact .inl quiet_close
  | terminate => exact .inl quiet_close

/-- A running process has been sent nothing but what is wanted, and the tier once its thread is open. -/
structure Tracked (s : SettingsRun) : Prop where
  model : s.running = true → ∀ model ∈ s.sent.model, s.wanted Setting.asModel = some model
  effort : s.running = true → ∀ effort ∈ s.sent.effort, s.wanted Setting.asEffort = some effort
  tier : s.running = true → ¬ s.Unopened → s.sent.tier = some s.wantedTier

lemma wantedTier_of_quiet (quiet : Quiet s t) : t.wantedTier = s.wantedTier := by
  rw [wantedTier, wanted_of_accepted quiet.accepted, launchTier, quiet.config, wantedTier, launchTier]

lemma Tracked.quiet (h : Tracked s) (quiet : Quiet s t) : Tracked t where
  model running := by
    rw [sent_of_wire quiet.wire, wanted_of_accepted quiet.accepted]
    exact h.model (quiet.running running)
  effort running := by
    rw [sent_of_wire quiet.wire, wanted_of_accepted quiet.accepted]
    exact h.effort (quiet.running running)
  tier running opened := by
    rw [sent_of_wire quiet.wire, wantedTier_of_quiet quiet]
    exact h.tier (quiet.running running) fun unopened => opened (quiet.unopened running unopened)

lemma tracked_spawned : Tracked (s.spawned k) where
  model _ := nofun
  effort _ := nofun
  tier _ opened := absurd rfl opened

lemma sent_opened : (s.opened k).sent = { s.sent with tier := some s.launchTier } :=
  (sent_append rfl).trans (take_handshake _ _ _)

lemma Tracked.opened (h : Tracked s) (same : s.wantedTier = s.launchTier) :
    Tracked (s.opened k) where
  model running := by
    rw [sent_opened]
    exact h.model running
  effort running := by
    rw [sent_opened]
    exact h.effort running
  tier _ _ := by
    rw [sent_opened, ← same]
    rfl

lemma sent_prompt (prompt : call.command.setting = none) :
    (s.writeFrame k call threadId).sent = s.sent := by
  have sent : (s.writeFrame k call threadId).sent = s.sent.take (call.command.frame threadId) :=
    sent_append rfl
  rw [sent, SettingsCommand.frame, prompt]
  rfl

lemma accepted_prompt (prompt : call.command.setting = none) :
    (s.writeFrame k call threadId).accepted = s.accepted := by
  simp [writeFrame, setCall, prompt]

lemma sent_update (update : call.command.setting = some setting) :
    (s.writeFrame k call threadId).sent =
      { model := setting.asModel.or s.sent.model
        tier := setting.asTier.or s.sent.tier
        effort := setting.asEffort.or s.sent.effort } := by
  have sent : (s.writeFrame k call threadId).sent = s.sent.take (call.command.frame threadId) :=
    sent_append rfl
  rw [sent, SettingsCommand.frame, update]
  exact take_update _ _ _

lemma wanted_update (update : call.command.setting = some setting)
    (unchosen : call.origin = .reconcile → s.Unchosen setting)
    (mem : kind ∈ [Setting.asModel, Setting.asTier, Setting.asEffort]) :
    (s.writeFrame k call threadId).wanted kind = (kind setting).or (s.wanted kind) := by
  refine wanted_append (o := call.origin) ?_ fun reconciles => unchosen reconciles kind mem
  simp [writeFrame, setCall, update]

lemma wantedTier_prompt (prompt : call.command.setting = none) :
    (s.writeFrame k call threadId).wantedTier = s.wantedTier := by
  rw [wantedTier, wanted_of_accepted (accepted_prompt prompt), wantedTier]
  rfl

lemma Tracked.prompt (h : Tracked s) (prompt : call.command.setting = none) :
    Tracked (s.writeFrame k call threadId) := by
  constructor
  · rw [sent_prompt prompt, wanted_of_accepted (accepted_prompt prompt)]
    exact h.model
  · rw [sent_prompt prompt, wanted_of_accepted (accepted_prompt prompt)]
    exact h.effort
  · rw [sent_prompt prompt, wantedTier_prompt prompt]
    exact h.tier

lemma or_wanted {sent wanted value : Option String} (h : ∀ v ∈ sent, wanted = some v) :
    ∀ v ∈ value.or sent, value.or wanted = some v := by
  cases value with
  | none => simpa using h
  | some value => simp

lemma Settled.prompt (h : Settled s) (prompt : call.command.setting = none) :
    Settled (s.writeFrame k call threadId) where
  model := by
    rw [sent_prompt prompt, wanted_of_accepted (accepted_prompt prompt)]
    exact h.model
  tier := by
    rw [sent_prompt prompt, wantedTier_prompt prompt]
    exact h.tier
  effort := by
    rw [sent_prompt prompt, wanted_of_accepted (accepted_prompt prompt)]
    exact h.effort

lemma Tracked.update (h : Tracked s) (update : call.command.setting = some setting)
    (unchosen : call.origin = .reconcile → s.Unchosen setting) :
    Tracked (s.writeFrame k call threadId) where
  model running := by
    rw [sent_update update, wanted_update update unchosen (by simp)]
    exact or_wanted (h.model running)
  effort running := by
    rw [sent_update update, wanted_update update unchosen (by simp)]
    exact or_wanted (h.effort running)
  tier running opened := by
    rw [sent_update update, wantedTier, wanted_update update unchosen (by simp)]
    cases changed : setting.asTier with
    | none => exact h.tier running opened
    | some profileId => rfl

lemma Tracked.next (h : Tracked s) (heeded : s.Heeded e) : Tracked (s.next e) := by
  obtain quiet | ⟨k, call, found, spawned | ⟨rfl, received, waking, opened⟩ |
    ⟨threadId, rfl, bound, wrote⟩⟩ := next_cases s e
  · exact h.quiet quiet
  · rw [spawned]
    exact tracked_spawned
  · rw [opened]
    have holds := heeded call found
    simp only [HeededStep, received] at holds
    exact h.opened (holds waking)
  · rw [wrote]
    have holds := heeded call found
    simp only [HeededStep, bound] at holds
    cases update : call.command.setting with
    | none => exact h.prompt update
    | some setting =>
      rw [update] at holds
      exact h.update update holds

lemma calls_close : s.close.calls = s.calls := by
  unfold close
  split <;> rfl

lemma length_setCall {stage : CallStage} (same : t.calls = s.calls) :
    (t.setCall k call stage).calls.length = s.calls.length := by
  rw [setCall, List.length_set, same]

lemma length_boundThread {expired : Bool} :
    (s.boundThread k call expired).calls.length = s.calls.length := by
  unfold boundThread
  dsimp only
  split
  · exact length_setCall rfl
  · exact length_setCall rfl
  · split
    · exact length_setCall rfl
    · rfl

lemma length_openThread {written : Bool} :
    (s.openThread k call written).calls.length = s.calls.length := by
  rw [openThread]
  split
  · split
    · rfl
    · exact length_setCall rfl
  · rfl

lemma length_advance : (s.advance k call step).calls.length = s.calls.length := by
  unfold advance
  split
  case h_1 =>
    rw [ensureAwake]
    split
    · exact length_setCall rfl
    · rfl
    · split
      · rfl
      · exact length_setCall rfl
  case h_2 => exact length_openThread
  case h_3 =>
    rw [discover]
    split
    · split <;> exact length_setCall rfl
    · rfl
  case h_4 =>
    split
    · exact length_setCall rfl
    · rfl
  case h_5 =>
    split
    · rfl
    · exact length_boundThread
  case h_6 => exact length_boundThread
  case h_7 => exact length_setCall rfl
  case h_8 => exact length_setCall rfl
  case h_9 => rfl

lemma advertised_of_apply {setting : Nat → ReconcileStage} {dropped : ReconcileStage}
    (added : (s.apply command setting dropped).calls = s.calls ++ [call]) :
    s.Advertised call.command := by
  unfold apply at added
  split at added
  case isTrue advertised =>
    cases List.append_cancel_left added
    exact advertised
  case isFalse => simp at added

lemma validated (origin : call.origin = .reconcile) (added : (s.next e).calls = s.calls ++ [call]) :
    s.Advertised call.command := by
  have longer : (s.next e).calls.length ≠ s.calls.length := by simp [added]
  cases e with
  | command command =>
    cases List.append_cancel_left added
    cases origin
  | step k step =>
    rw [SettingsRun.next] at longer
    split at longer
    · exact absurd length_advance longer
    · exact absurd rfl longer
  | reconcile =>
    simp only [SettingsRun.next, reconcileStep] at added
    split at added
    · split_ifs at added with known
      · exact advertised_of_apply added
      · simp at added
      · simp at added
    · split_ifs at added <;> simp at added
    · split_ifs at added with known
      · exact advertised_of_apply added
      · simp at added
      · simp at added
    · split_ifs at added <;> simp at added
    · simp at added
  | frame f =>
    rw [SettingsRun.next] at longer
    split at longer
    · cases f <;> exact absurd rfl longer
    · exact absurd rfl longer
  | endOfStream =>
    rw [SettingsRun.next] at longer
    split at longer <;> exact absurd rfl longer
  | suspend =>
    rw [SettingsRun.next] at longer
    split at longer
    · exact absurd rfl longer
    · exact absurd (congrArg List.length calls_close) longer
  | terminate => exact absurd (congrArg List.length calls_close) longer

lemma Tracked.chosen (h : Tracked s) (possible : s.Possible e) (heeded : s.Heeded e) :
    s.Chosen e where
  prompt call writes prompt := by
    obtain ⟨k, threadId, rfl, found, bound⟩ := writes
    have holds := heeded call found
    have plain : call.command.setting = none := by rw [prompt]; rfl
    simp only [HeededStep, bound, plain] at holds
    obtain ⟨opened, model, effort⟩ := holds
    have wrote : s.next (.step k (.write .written)) = s.writeFrame k call threadId := by
      rw [SettingsRun.next, found]
      simp only [advance, bound]
    have settled : s.Settled := by
      constructor
      · cases sent : s.sent.model with
        | none => exact (by_contra fun wanted => model (Ne.symm wanted) sent)
        | some value => exact (h.model possible value sent).symm
      · exact h.tier possible opened
      · cases sent : s.sent.effort with
        | none => exact (by_contra fun wanted => effort (Ne.symm wanted) sent)
        | some value => exact (h.effort possible value sent).symm
    rw [wrote]
    exact settled.prompt plain
  wake reopens := by
    obtain ⟨k, call, rfl, found, received, waking⟩ := reopens
    have holds := heeded call found
    simp only [HeededStep, received] at holds
    have opened : s.next (.step k (.openThread true)) = s.opened k := by
      rw [SettingsRun.next, found]
      simp only [advance, received, openThread, waking, if_true, SettingsRun.opened]
      rfl
    rw [opened, sent_opened, ← holds waking]
  validated call origin added := validated origin added

lemma tracked_start (config : CodexConfig) (spec : SessionSpec) : Tracked (start config spec) := by
  have sent : (start config spec).sent =
      ⟨none, some (sandboxTier (threadStartParams config).sandbox), none⟩ :=
    take_handshake _ _ _
  constructor
  · rw [sent]
    exact fun _ => nofun
  · rw [sent]
    exact fun _ => nofun
  · rw [sent]
    exact fun _ _ => rfl

/-- In every run that heeds the condition the settings that the process was sent last, when a turn is
started, are those that were accepted last, and a wake gives the tier that was accepted last. -/
theorem last_setting_wins (config : CodexConfig) (spec : SessionSpec) (events : List SettingsEvent)
    (heeded : LTS.EnabledAll (fun s e => s.Possible e ∧ s.Heeded e) next (start config spec) events) :
    LTS.EnabledAll Chosen next (start config spec) events :=
  heeded.imp (fun _ _ h c => ⟨h.chosen c.1 c.2, h.next c.2⟩) (tracked_start config spec)

/-- The values of the open are applied, the user chooses a tier and an effort, and the session goes to
sleep and is woken; the user chooses anew before the next prompt. -/
theorem last_setting_wins_woken :
    LTS.EnabledAll Chosen next (start ⟨some "m", some "read-only", some "read-only", none⟩ .fresh)
      [ .frame (.threadStarted "t"), .frame (.modelList ["m"]),
        .frame (.permissionProfileList [":workspace", ":read-only"]), .reconcile,
        .step 0 (.ensureAwake true), .step 0 (.boundThread false), .step 0 (.write .written), .reconcile,
        .reconcile, .step 1 (.ensureAwake true), .step 1 (.boundThread false), .step 1 (.write .written),
        .suspend, .command .send, .command (.setModel "n"), .step 2 (.ensureAwake true),
        .step 2 (.openThread true), .step 2 (.discover true), .step 3 (.ensureAwake true),
        .step 3 (.boundThread false), .step 3 (.write .written), .step 2 .markInFlight,
        .step 2 (.boundThread false), .step 2 (.write .written) ] :=
  last_setting_wins _ _ _ (by decide)

/-- The task writes the model of the open over the one that the user has chosen while it waited for the
catalog. -/
theorem open_replaces_choice :
    ¬ ∀ config spec events, LTS.EnabledAll Possible next (start config spec) events →
      LTS.EnabledAll Chosen next (start config spec) events := by
  intro h
  have chosen := h ⟨some "m", none, none, none⟩ .fresh
    [ .frame (.threadStarted "t"), .command (.setModel "n"), .step 0 (.ensureAwake true),
      .step 0 (.boundThread false), .step 0 (.write .written), .frame (.modelList ["m", "n"]), .reconcile,
      .step 1 (.ensureAwake true), .step 1 (.boundThread false), .step 1 (.write .written),
      .command .send, .step 2 (.ensureAwake true), .step 2 .markInFlight, .step 2 (.boundThread false),
      .step 2 (.write .written) ] (by decide)
  obtain ⟨-, -, -, -, -, -, -, -, -, -, -, -, -, -, last, -⟩ := chosen
  have settled := last.prompt ⟨.user, .send, .bound "t"⟩ ⟨2, "t", rfl, by decide, rfl⟩ rfl
  have same := settled.model
  revert same
  decide

end KiCore.Session.Codex.SettingsRun

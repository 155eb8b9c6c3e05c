import KiCore.Lib.Transition
import KiCore.Session.Claude.ConfigRun

/-!
# The configuration survives suspension

A wake replays the flags of the open and re-applies the desired model, and nothing else: a mode that was
switched at run time and an effort are lost with the process, unless the effort still waits in the
queue. `config_survives` says on which runs the process has been given what was asked for when a prompt
is written, and when `capabilities` reports it.
-/

namespace KiCore.Session.Claude.ConfigRun

open KiCore.Lib
open Str (trim trim_trim)

variable {s : ConfigRun} {e : Event} {c : Control}

/-- The process has been given what is wanted. -/
structure Configured (s : ConfigRun) : Prop where
  mode : s.given.mode = s.wanted.mode
  model : desiredModelFromConfig s.given.model = s.wanted.model
  effort : s.given.effort = s.wanted.effort

/-- The configuration has survived up to a step: a prompt goes to a process that has been given what is
wanted, and a wake gives the wanted mode, so that it never loosens one that was tightened. -/
structure Survives (s : ConfigRun) (e : Event) : Prop where
  prompt : ∀ applied, e = .send applied .written → (s.next e).process = .live → (s.next e).Configured
  wake : s.process = .dormant → (s.next e).process = .live → (s.next e).given.mode = s.wanted.mode

/-- `capabilities` reports what is wanted; a model only if one has been asked for. -/
structure Reporting (s : ConfigRun) : Prop where
  mode : s.capabilities.currentMode.getD "default" = s.wanted.mode
  model : ∀ model, s.wanted.model = some model →
    desiredModelFromConfig s.capabilities.currentModel = some model
  effort : s.capabilities.currentEffort = s.wanted.effort

/-- `capabilities` reports what is wanted when a prompt is written. -/
def Reports (s : ConfigRun) (e : Event) : Prop :=
  ∀ applied, e = .send applied .written → (s.next e).process = .live → (s.next e).Reporting

def queuedModels (s : ConfigRun) : List String := s.pendingControls.filterMap Control.model

def queuedEfforts (s : ConfigRun) : List String := s.pendingControls.filterMap Control.effort

/-- A wake loses nothing: the mode is that of the open, the model is written again or waits, and an
effort has not been set or still waits. -/
def WakesWell (s : ConfigRun) (applied : Bool) : Prop :=
  s.process = .dormant →
    s.wanted.mode = spawnMode s.config.mode ∧
      (applied ∨ s.wanted.model = none ∨ s.turnInFlight ∨ s.queuedModels ≠ []) ∧
      (s.wanted.effort = none ∨ s.queuedEfforts ≠ [])

instance (s : ConfigRun) (applied : Bool) : Decidable (s.WakesWell applied) :=
  inferInstanceAs (Decidable (_ → _))

/-- The condition under which the configuration survives. -/
def Heeded (s : ConfigRun) : Event → Prop
  | .setMode _ => s.process = .live
  -- a value that still waits must not come after one that is written at once
  | .setModel model => s.turnInFlight = false →
    ∀ queued ∈ s.queuedModels, desiredModelFromConfig (some queued) = desiredModelFromConfig (some model)
  | .setEffort value => s.effortIsSupported value → s.turnInFlight = false →
    s.process = .live ∧ ∀ queued ∈ s.queuedEfforts, queued = value
  | .send _ .spawnFails => True
  -- what a failed drain takes is lost
  | .send applied (.drainFails _) =>
    s.WakesWell applied ∧ s.pendingControls = [] ∧
      (s.process = .dormant → s.turnInFlight → s.wanted.model = none)
  | .send applied _ | .steer applied => s.WakesWell applied
  | _ => True

instance (s : ConfigRun) : ∀ e, Decidable (s.Heeded e) := by
  intro e
  unfold Heeded
  split <;> infer_instance

/-- The condition under which it is also reported: the model is never another one than that of the
open, and the CLI has confirmed the mode before a prompt. -/
def Confirmed (s : ConfigRun) : Event → Prop
  | .setModel model => desiredModelFromConfig (some model) = desiredModelFromConfig s.config.model
  | .send _ .written => s.unconfirmed = false
  | _ => True

instance (s : ConfigRun) : ∀ e, Decidable (s.Confirmed e) := by
  intro e
  unfold Confirmed
  split <;> infer_instance

lemma desired_idem (model : Option String) :
    desiredModelFromConfig (desiredModelFromConfig model) = desiredModelFromConfig model := by
  cases model with
  | none => rfl
  | some model =>
    by_cases blank : trim model = ""
    · simp [desiredModelFromConfig, Option.filter, blank]
    · simp [desiredModelFromConfig, Option.filter, blank, trim_trim]

/-- The same session: neither what is wanted nor what `capabilities` reads has moved. -/
structure Quiet (s t : ConfigRun) : Prop where
  config : t.config = s.config
  desired : t.desiredModel = s.desiredModel
  wanted : t.wanted = s.wanted
  currentEffort : t.currentEffort = s.currentEffort
  override : t.currentModeOverride = s.currentModeOverride
  discovered : t.discoveredModel = s.discoveredModel
  unconfirmed : t.unconfirmed = s.unconfirmed

variable {t u : ConfigRun}

lemma Quiet.refl : Quiet s s := ⟨rfl, rfl, rfl, rfl, rfl, rfl, rfl⟩

lemma Quiet.trans (h : Quiet s t) (h' : Quiet t u) : Quiet s u :=
  ⟨h'.config.trans h.config, h'.desired.trans h.desired, h'.wanted.trans h.wanted,
    h'.currentEffort.trans h.currentEffort, h'.override.trans h.override,
    h'.discovered.trans h.discovered, h'.unconfirmed.trans h.unconfirmed⟩

lemma quiet_write (s : ConfigRun) (c : Control) : Quiet s (s.write c) := by
  rw [write]
  split <;> exact ⟨rfl, rfl, rfl, rfl, rfl, rfl, rfl⟩

lemma quiet_writeOrQueueControl (s : ConfigRun) (c : Control) : Quiet s (s.writeOrQueueControl c) := by
  rw [writeOrQueueControl]
  split
  · exact ⟨rfl, rfl, rfl, rfl, rfl, rfl, rfl⟩
  · exact quiet_write s c

lemma quiet_wakeHandle (s : ConfigRun) (applied : Bool) : Quiet s (s.wakeHandle applied) := by
  have spawned : Quiet s s.spawned := ⟨rfl, rfl, rfl, rfl, rfl, rfl, rfl⟩
  rw [wakeHandle, applyDesiredModel]
  split
  · exact spawned
  · split
    · exact spawned.trans (quiet_writeOrQueueControl _ _)
    · exact spawned

lemma quiet_ensureAwake (s : ConfigRun) (applied : Bool) : Quiet s (s.ensureAwake applied) := by
  rw [ensureAwake]
  split
  · exact .refl
  · exact quiet_wakeHandle s applied

lemma writeAll_eq (controls : List Control) :
    s.writeAll controls =
      { s with given := if s.process = .live then controls.foldl Settings.take s.given else s.given } := by
  induction controls generalizing s with
  | nil => simp [writeAll]
  | cons c controls ih =>
    have step : s.writeAll (c :: controls) = (s.write c).writeAll controls := rfl
    rw [step, ih, write]
    by_cases live : s.process = .live
    · simp [live]
    · simp [live]

lemma quiet_drainPendingControls (s : ConfigRun) (written : Nat) :
    Quiet s (s.drainPendingControls written) := by
  rw [drainPendingControls, writeAll_eq]
  exact ⟨rfl, rfl, rfl, rfl, rfl, rfl, rfl⟩

lemma quiet_send (s : ConfigRun) (applied : Bool) (outcome : SendOutcome) :
    Quiet s (s.send applied outcome) := by
  have awake := quiet_ensureAwake s applied
  cases outcome with
  | spawnFails => exact .refl
  | drainFails written => exact awake.trans (quiet_drainPendingControls _ _)
  | promptFails | written =>
    have drained := awake.trans (quiet_drainPendingControls (s.ensureAwake applied)
      (s.ensureAwake applied).pendingControls.length)
    exact ⟨drained.config, drained.desired, drained.wanted, drained.currentEffort, drained.override,
      drained.discovered, drained.unconfirmed⟩

variable {controls : List Control} {given : Settings}

lemma foldl_take_mode (none : ∀ c ∈ controls, c.subtype ≠ .setPermissionMode) :
    (controls.foldl Settings.take given).mode = given.mode := by
  induction controls generalizing given with
  | nil => rfl
  | cons c controls ih =>
    rw [List.foldl_cons, ih fun c mem => none c (.tail _ mem)]
    cases c with
    | setPermissionMode mode => exact absurd rfl (none _ (.head _))
    | setModel | applyFlagSettings => rfl

lemma foldl_take_model {wanted : Option String}
    (all : ∀ model ∈ controls.filterMap Control.model, desiredModelFromConfig (some model) = wanted)
    (base : controls.filterMap Control.model = [] → desiredModelFromConfig given.model = wanted) :
    desiredModelFromConfig (controls.foldl Settings.take given).model = wanted := by
  induction controls generalizing given with
  | nil => exact base rfl
  | cons c controls ih =>
    cases c with
    | setModel model =>
      exact ih (fun model mem => all model (.tail _ mem)) fun _ => all model (.head _)
    | setPermissionMode | applyFlagSettings => exact ih all base

lemma foldl_take_effort {wanted : Option String}
    (all : ∀ effort ∈ controls.filterMap Control.effort, wanted = some effort)
    (base : controls.filterMap Control.effort = [] → given.effort = wanted) :
    (controls.foldl Settings.take given).effort = wanted := by
  induction controls generalizing given with
  | nil => exact base rfl
  | cons c controls ih =>
    cases c with
    | applyFlagSettings effort =>
      exact ih (fun effort mem => all effort (.tail _ mem)) fun _ => (all effort (.head _)).symm
    | setPermissionMode | setModel => exact ih all base

lemma requeue_model (controls : List Control) (model : String) :
    (requeue controls (.setModel model)).filterMap Control.model = [model] ∧
      (requeue controls (.setModel model)).filterMap Control.effort =
        controls.filterMap Control.effort := by
  induction controls with
  | nil => exact ⟨rfl, rfl⟩
  | cons c controls ih =>
    cases c with
    | setModel => exact ih
    | setPermissionMode => exact ih
    | applyFlagSettings effort => exact ⟨ih.1, congrArg (effort :: ·) ih.2⟩

lemma requeue_effort (controls : List Control) (effort : String) :
    (requeue controls (.applyFlagSettings effort)).filterMap Control.effort = [effort] ∧
      (requeue controls (.applyFlagSettings effort)).filterMap Control.model =
        controls.filterMap Control.model := by
  induction controls with
  | nil => exact ⟨rfl, rfl⟩
  | cons c controls ih =>
    cases c with
    | applyFlagSettings => exact ih
    | setPermissionMode => exact ih
    | setModel model => exact ⟨ih.1, congrArg (model :: ·) ih.2⟩

lemma requeue_mode {c : Control} (none : ∀ q ∈ controls, q.subtype ≠ .setPermissionMode)
    (ne : c.subtype ≠ .setPermissionMode) : ∀ q ∈ requeue controls c, q.subtype ≠ .setPermissionMode := by
  intro q mem
  rcases List.mem_append.mp mem with mem | mem
  · exact none q (List.mem_filter.mp mem).1
  · cases List.mem_singleton.mp mem
    exact ne

/-- The mode and the effort are where they will come from: in the process, or in the queue. -/
structure TracksFlags (s : ConfigRun) : Prop where
  queuedMode : ∀ c ∈ s.pendingControls, c.subtype ≠ .setPermissionMode
  queuedEffort : ∀ effort ∈ s.queuedEfforts, s.wanted.effort = some effort
  mode : s.process = .live → s.given.mode = s.wanted.mode
  effort : s.process = .live → s.queuedEfforts = [] → s.given.effort = s.wanted.effort

/-- And so is the model, which is desired besides. -/
structure Tracked (s : ConfigRun) : Prop extends TracksFlags s where
  desired : s.desiredModel = s.wanted.model
  normal : desiredModelFromConfig s.wanted.model = s.wanted.model
  queuedModel : ∀ model ∈ s.queuedModels, desiredModelFromConfig (some model) = s.wanted.model
  model : s.process = .live → s.queuedModels = [] →
    desiredModelFromConfig s.given.model = s.wanted.model

lemma TracksFlags.giveModel (h : TracksFlags s) (model : String) (w : Option String)
    (same : desiredModelFromConfig (some model) = w) (normal : desiredModelFromConfig w = w)
    (agrees : s.turnInFlight = false →
      ∀ queued ∈ s.queuedModels, desiredModelFromConfig (some queued) = w) :
    Tracked { s.writeOrQueueControl (.setModel model) with
      desiredModel := w, wanted := { s.wanted with model := w } } := by
  rw [writeOrQueueControl]
  cases flight : s.turnInFlight with
  | true =>
    obtain ⟨models, efforts⟩ := requeue_model s.pendingControls model
    simp only [Control.subtype, ne_eq, reduceCtorEq, not_false_eq_true, true_and, if_true]
    refine ⟨⟨requeue_mode h.queuedMode nofun, ?_, h.mode, ?_⟩, rfl, normal, ?_, ?_⟩
    · intro queued mem
      rw [queuedEfforts, efforts] at mem
      exact h.queuedEffort queued mem
    · intro live none
      rw [queuedEfforts, efforts] at none
      exact h.effort live none
    · intro queued mem
      rw [queuedModels, models] at mem
      cases List.mem_singleton.mp mem
      exact same
    · intro live none
      rw [queuedModels, models] at none
      cases none
  | false =>
    simp only [Bool.false_eq_true, and_false, if_false]
    rw [write]
    split
    case isTrue live =>
      exact ⟨⟨h.queuedMode, h.queuedEffort, h.mode, h.effort⟩, rfl, normal, agrees flight, fun _ _ => same⟩
    case isFalse dead =>
      exact ⟨⟨h.queuedMode, h.queuedEffort, fun live => absurd live dead, fun live => absurd live dead⟩,
        rfl, normal, agrees flight, fun live => absurd live dead⟩

lemma Tracked.setModel {model : String} (h : Tracked s) (heeded : s.Heeded (.setModel model)) :
    Tracked (s.setModel model) :=
  h.toTracksFlags.giveModel _ _ rfl (desired_idem _) heeded

lemma Tracked.setMode {mode : String} (h : Tracked s) (live : s.process = .live) :
    Tracked (s.setMode mode) := by
  have written : s.writeOrQueueControl (.setPermissionMode mode) =
      { s with given := { s.given with mode } } := by
    simp [writeOrQueueControl, Control.subtype, write, live, Settings.take]
  rw [ConfigRun.setMode, written]
  exact ⟨⟨h.queuedMode, h.queuedEffort, fun _ => rfl, h.effort⟩, h.desired, h.normal, h.queuedModel,
    h.model⟩

lemma Tracked.setEffort {value : String} (h : Tracked s) (heeded : s.Heeded (.setEffort value)) :
    Tracked (s.setEffort value) := by
  rw [ConfigRun.setEffort]
  split
  case isFalse => exact h
  case isTrue supported =>
    rw [writeOrQueueControl]
    cases flight : s.turnInFlight with
    | true =>
      obtain ⟨efforts, models⟩ := requeue_effort s.pendingControls value
      simp only [Control.subtype, ne_eq, reduceCtorEq, not_false_eq_true, true_and, if_true]
      refine ⟨⟨requeue_mode h.queuedMode nofun, ?_, h.mode, ?_⟩, h.desired, h.normal, ?_, ?_⟩
      · intro queued mem
        rw [queuedEfforts, efforts] at mem
        cases List.mem_singleton.mp mem
        rfl
      · intro live none
        rw [queuedEfforts, efforts] at none
        cases none
      · intro queued mem
        rw [queuedModels, models] at mem
        exact h.queuedModel queued mem
      · intro live none
        rw [queuedModels, models] at none
        exact h.model live none
    | false =>
      obtain ⟨live, agrees⟩ := heeded supported flight
      simp only [Bool.false_eq_true, and_false, if_false]
      rw [write, if_pos live]
      refine ⟨⟨h.queuedMode, ?_, h.mode, fun _ _ => rfl⟩, h.desired, h.normal, h.queuedModel, h.model⟩
      intro queued mem
      cases agrees queued mem
      rfl

lemma writeOrQueueControl_process (s : ConfigRun) (c : Control) :
    (s.writeOrQueueControl c).process = s.process := by
  rw [writeOrQueueControl, write]
  split_ifs <;> rfl

lemma with_same {desired : Option String} {wanted : Settings} (model : s.desiredModel = desired)
    (asked : s.wanted = wanted) : { s with desiredModel := desired, wanted := wanted } = s := by
  subst model asked
  rfl

lemma Tracked.wakeHandle {applied : Bool} (h : Tracked s) (dormant : s.process = .dormant)
    (well : s.WakesWell applied) : Tracked (s.wakeHandle applied) := by
  obtain ⟨mode, model, effort⟩ := well dormant
  have flags : TracksFlags s.spawned := by
    refine ⟨h.queuedMode, h.queuedEffort, fun _ => mode.symm, fun _ none => ?_⟩
    rcases effort with unset | waits
    · exact unset.symm
    · exact absurd none waits
  rw [ConfigRun.wakeHandle, applyDesiredModel]
  split
  case h_1 none =>
    have unset : s.wanted.model = .none := h.desired.symm.trans none
    exact ⟨flags, h.desired, h.normal, h.queuedModel, fun _ _ => unset.symm⟩
  case h_2 desired found =>
    have wanted : s.wanted.model = some desired := h.desired.symm.trans found
    split
    case isTrue =>
      have given := flags.giveModel desired s.wanted.model (by rw [← wanted, h.normal])
        h.normal fun _ => h.queuedModel
      have quiet := quiet_writeOrQueueControl s.spawned (.setModel desired)
      exact (congrArg Tracked (with_same (quiet.desired.trans h.desired) quiet.wanted)).mp given
    case isFalse unapplied =>
      -- the model is neither written nor put into the queue, and so it waits there already
      simp only [Bool.or_eq_true, not_or] at unapplied
      have waits : s.queuedModels ≠ [] := by
        rcases model with applied | unset | flight | waits
        · exact absurd applied unapplied.1
        · rw [wanted] at unset
          cases unset
        · exact absurd flight unapplied.2
        · exact waits
      exact ⟨flags, h.desired, h.normal, h.queuedModel, fun _ none => absurd none waits⟩

lemma Tracked.ensureAwake {applied : Bool} (h : Tracked s) (well : s.WakesWell applied) :
    Tracked (s.ensureAwake applied) := by
  rw [ConfigRun.ensureAwake]
  cases process : s.process with
  | live | exited => exact h
  | dormant => exact h.wakeHandle process well

lemma Tracked.configured (h : Tracked s) (live : s.process = .live) :
    Configured (s.drainPendingControls s.pendingControls.length) := by
  rw [drainPendingControls, writeAll_eq, List.take_length, if_pos live]
  exact ⟨(foldl_take_mode h.queuedMode).trans (h.mode live), foldl_take_model h.queuedModel (h.model live),
    foldl_take_effort h.queuedEffort (h.effort live)⟩

lemma Tracked.drained {written : Nat} (h : Tracked s)
    (all : s.pendingControls.length ≤ written) : Tracked (s.drainPendingControls written) := by
  have whole : s.drainPendingControls written = s.drainPendingControls s.pendingControls.length := by
    rw [drainPendingControls, drainPendingControls, List.take_of_length_le all, List.take_length]
  rw [whole]
  have configured := fun live => h.configured live
  rw [drainPendingControls, writeAll_eq] at configured ⊢
  exact ⟨⟨nofun, nofun, fun live => (configured live).mode, fun live _ => (configured live).effort⟩,
    h.desired, h.normal, nofun, fun live _ => (configured live).model⟩

lemma Tracked.of_process {process : ProcessState} {flight unconfirmed : Bool}
    {override discovered : Option String} {models : List ModelInfo} (h : Tracked s)
    (alive : process = .live → s.process = .live) :
    Tracked { s with
      process, turnInFlight := flight, currentModeOverride := override, discoveredModel := discovered
      discoveredModels := models, unconfirmed } :=
  ⟨⟨h.queuedMode, h.queuedEffort, fun live => h.mode (alive live), fun live => h.effort (alive live)⟩,
    h.desired, h.normal, h.queuedModel, fun live => h.model (alive live)⟩

lemma Tracked.ensureAwake_queue (h : Tracked s) (applied : Bool) (empty : s.pendingControls = [])
    (unset : s.process = .dormant → s.turnInFlight → s.wanted.model = none) :
    (s.ensureAwake applied).pendingControls = [] := by
  rw [ConfigRun.ensureAwake]
  split
  case isTrue => exact empty
  case isFalse asleep =>
    have dormant : s.process = .dormant := by
      cases process : s.process with
      | dormant => rfl
      | live | exited => exact absurd (by rw [process]; rfl) asleep
    rw [ConfigRun.wakeHandle, applyDesiredModel]
    split
    case h_1 => exact empty
    case h_2 desired found =>
      have grounded : s.turnInFlight = false := by
        cases flight : s.turnInFlight with
        | false => rfl
        | true =>
          have none := h.desired.trans (unset dormant flight)
          cases none.symm.trans found
      split
      · simp only [writeOrQueueControl, spawned, grounded, Bool.false_eq_true, and_false, if_false]
        rw [write]
        split <;> exact empty
      · exact empty

lemma Tracked.send {applied : Bool} {outcome : SendOutcome} (h : Tracked s)
    (heeded : s.Heeded (.send applied outcome)) : Tracked (s.send applied outcome) := by
  cases outcome with
  | spawnFails => exact h
  | drainFails written =>
    obtain ⟨well, empty, unset⟩ := heeded
    have nothing := h.ensureAwake_queue applied empty unset
    exact (h.ensureAwake well).drained (by rw [nothing]; exact Nat.zero_le _)
  | promptFails | written =>
    have awake := h.ensureAwake heeded
    exact (awake.drained le_rfl).of_process id

lemma Tracked.next (h : Tracked s) (heeded : s.Heeded e) : Tracked (s.next e) := by
  cases e with
  | setMode mode => exact h.setMode heeded
  | setModel model => exact h.setModel heeded
  | setEffort value => exact h.setEffort heeded
  | send applied outcome => exact h.send heeded
  | steer applied => exact h.ensureAwake heeded
  | systemMode | modeRejected | initialized | turnResult =>
    simp only [ConfigRun.next, frame]
    split
    · exact h.of_process id
    · exact h
  | systemInit model =>
    simp only [ConfigRun.next, frame, sniffInit]
    split_ifs
    · exact h.of_process id
    · exact h
    · exact h
  | exit =>
    simp only [ConfigRun.next, frame]
    split
    case isTrue live => exact h.of_process fun _ => live
    case isFalse => exact h
  | suspendIfIdle =>
    refine h.of_process (fun live => ?_)
    cases flight : s.turnInFlight with
    | true => simpa [ProcessState.suspendIfIdle, flight] using live
    | false => simp [ProcessState.suspendIfIdle, flight] at live
  | terminate => exact h.of_process nofun

lemma drainPendingControls_process (s : ConfigRun) (written : Nat) :
    (s.drainPendingControls written).process = s.process := by
  rw [drainPendingControls, writeAll_eq]

lemma wanted_of_wake (dormant : s.process = .dormant) (live : (s.next e).process = .live) :
    (s.next e).wanted = s.wanted := by
  cases e with
  | send applied outcome => exact (quiet_send s applied outcome).wanted
  | steer applied => exact (quiet_ensureAwake s applied).wanted
  | setMode mode =>
    dsimp only [ConfigRun.next, ConfigRun.setMode] at live
    rw [writeOrQueueControl_process, dormant] at live
    cases live
  | setModel model =>
    dsimp only [ConfigRun.next, ConfigRun.setModel] at live
    rw [writeOrQueueControl_process, dormant] at live
    cases live
  | setEffort value =>
    simp only [ConfigRun.next, ConfigRun.setEffort] at live ⊢
    split_ifs at live with supported
    · rw [writeOrQueueControl_process, dormant] at live
      cases live
    · rw [if_neg supported]
  | systemMode | modeRejected | systemInit | initialized | turnResult | exit =>
    simp [ConfigRun.next, frame, dormant] at live
  | suspendIfIdle | terminate => rfl

lemma Tracked.survives (h : Tracked s) (heeded : s.Heeded e) : s.Survives e where
  prompt applied written live := by
    subst written
    have awake : (s.ensureAwake applied).process = .live :=
      (drainPendingControls_process _ _).symm.trans live
    have configured := (h.ensureAwake heeded).configured awake
    exact ⟨configured.mode, configured.model, configured.effort⟩
  wake dormant live := by
    rw [(h.next heeded).mode live, wanted_of_wake dormant live]

/-- What `capabilities` reads, beside what is wanted. -/
structure TracksReport (s : ConfigRun) : Prop where
  effort : s.currentEffort = s.wanted.effort
  model : s.wanted.model = desiredModelFromConfig s.config.model
  mode : s.unconfirmed = false →
    (s.currentModeOverride.or s.config.mode).getD "default" = s.wanted.mode

lemma TracksReport.quiet (h : TracksReport s) (quiet : Quiet s t) : TracksReport t := by
  refine ⟨?_, ?_, fun confirmed => ?_⟩
  · rw [quiet.currentEffort, quiet.wanted, h.effort]
  · rw [quiet.wanted, quiet.config, h.model]
  · rw [quiet.override, quiet.config, quiet.wanted, h.mode (quiet.unconfirmed ▸ confirmed)]

/-- Every step that confirms keeps the report. -/
lemma TracksReport.next (h : TracksReport s) (confirmed : s.Confirmed e) : TracksReport (s.next e) := by
  cases e with
  | setMode mode =>
    have quiet := quiet_writeOrQueueControl s (.setPermissionMode mode)
    refine ⟨quiet.currentEffort.trans h.effort, h.model.trans (by rw [← quiet.config]; rfl), ?_⟩
    intro known
    obtain ⟨known, same⟩ := Bool.or_eq_false_iff.mp known
    have mode : mode = s.wanted.mode := by simpa using same
    simp only [ConfigRun.next, ConfigRun.setMode, quiet.override, quiet.config]
    rw [h.mode known, mode]
  | setModel model =>
    have quiet := quiet_writeOrQueueControl s (.setModel model)
    constructor <;> dsimp only [ConfigRun.next, ConfigRun.setModel]
    · rw [quiet.currentEffort, h.effort]
    · rw [quiet.config]
      exact confirmed
    · rw [quiet.unconfirmed, quiet.override, quiet.config]
      exact h.mode
  | setEffort value =>
    simp only [ConfigRun.next, ConfigRun.setEffort]
    split
    case isFalse => exact h
    case isTrue =>
      have quiet := quiet_writeOrQueueControl s (.applyFlagSettings value)
      refine ⟨rfl, h.model.trans (by rw [← quiet.config]), ?_⟩
      intro known
      have report := h.mode (quiet.unconfirmed ▸ known)
      simpa only [quiet.override, quiet.config] using report
  | send applied outcome => exact h.quiet (quiet_send s applied outcome)
  | steer applied => exact h.quiet (quiet_ensureAwake s applied)
  | systemMode raw =>
    simp only [ConfigRun.next, frame, sniffMode]
    split
    · exact ⟨h.effort, h.model, fun known => by simpa using known⟩
    · exact h
  | modeRejected =>
    simp only [ConfigRun.next, frame, sniffModeReject]
    split
    · exact ⟨h.effort, h.model, fun known => by simpa using known⟩
    · exact h
  | systemInit model =>
    simp only [ConfigRun.next, frame, sniffInit]
    split_ifs <;> exact ⟨h.effort, h.model, h.mode⟩
  | initialized | turnResult | exit =>
    simp only [ConfigRun.next, frame]
    split <;> exact ⟨h.effort, h.model, h.mode⟩
  | suspendIfIdle | terminate => exact ⟨h.effort, h.model, h.mode⟩

lemma TracksReport.reports (h : TracksReport s) (confirmed : s.Confirmed e) : s.Reports e := by
  intro applied written live
  subst written
  have after := h.next confirmed
  have known := (quiet_send s applied .written).unconfirmed.trans confirmed
  refine ⟨after.mode known, fun model wanted => ?_, after.effort⟩
  rw [after.model] at wanted
  cases opened : (s.send applied .written).config.model with
  | none =>
    simp only [ConfigRun.next, opened] at wanted
    cases wanted
  | some config =>
    simp only [ConfigRun.next, opened] at wanted
    simpa only [ConfigRun.next, capabilities, opened, Option.some_or] using wanted

lemma tracked_start (config : SessionConfig) : Tracked (start config) := by
  rw [start]
  apply Tracked.wakeHandle
  · exact ⟨⟨nofun, nofun, nofun, nofun⟩, rfl, desired_idem _, nofun, nofun⟩
  · rfl
  · exact fun _ => ⟨rfl, .inl rfl, .inl rfl⟩

end KiCore.Session.Claude.ConfigRun

import KiCore.Extension.Registry
import KiCore.Lib.Pool

/-!
# Extension state survives reloads

A load replaces the machine-level states by those of the extensions that it has found. What is not found
at one load is forgotten: a disabled extension comes back enabled, and an installed one is installed
again. States are also lost when the process is started again before the writer has saved them, and when
loads overlap; and a reader that lists extensions before a load commits and contributions after it sees
two loads. `state_survives` says that nothing else goes wrong.
-/

namespace KiCore.Extension

open KiCore.Lib

def LoadStage.hasRead : LoadStage → Bool
  | .installing _ _ _ => true
  | .activating _ _ _ _ => true
  | .hooked _ => true
  | .stored _ => true
  | _ => false

namespace ExtensionRegistry

variable {s t : ExtensionRegistry} {e : RegistryEvent} {load : Load} {stage : LoadStage} {n m : Nat}
  {ok : Bool} {name version userId : String} {log : List LogEntry} {ext : LoadedExtension}
  {declares : String → String → Bool}
  {hooked rest extensions : List LoadedExtension} {persisted : States}

def lastStored (name : String) (log : List LogEntry) : Option String :=
  log.findSome? fun
    | .stored other version => if other = name then some version else none
    | _ => none

/-- The log since another version of the extension was stored. -/
def sinceOther (name version : String) (log : List LogEntry) : List LogEntry :=
  log.takeWhile fun
    | .stored other version' => ¬ (other = name ∧ version' ≠ version)
    | _ => true

def MachineDisabled (s : ExtensionRegistry) (name : String) : Prop :=
  ∃ state, s.earlier.get name = some state ∧ state.enabled = false

/-- What the user has chosen last, or the machine for the default user. -/
def DisabledFor (s : ExtensionRegistry) (userId name : String) : Prop :=
  s.choices.getUserEnabled userId name = some false ∨
    s.choices.getUserEnabled userId name = none ∧ userId = SYSTEM_DEFAULT_USER_ID ∧ s.MachineDisabled name

/-- The install hook of the version has been run, or an earlier process has stored it. -/
def InstalledBefore (s : ExtensionRegistry) (name version : String) : Prop :=
  (∃ ok, .installed name version ok ∈ s.log) ∨
    ∃ state, s.earlier.get name = some state ∧ state.version = version

structure Survives (s : ExtensionRegistry) (e : RegistryEvent) : Prop where
  disabled : ∀ userId, ∀ ext ∈ (s.next e).extensionsForUser userId,
    (s.next e).DisabledFor userId ext.manifest.name → ext.state.enabled = false
  machine : ∀ name, (s.next e).MachineDisabled name →
    (∀ state, (s.next e).states.get name = some state → state.enabled = false) ∧
      ∀ ext ∈ (s.next e).inner.extensions, ext.manifest.name = name → ext.state.enabled = false
  installsFirst : ∀ name version, (s.next e).log = .activated name version true :: s.log →
    s.InstalledBefore name version
  installsOnce : ∀ name version ok, (s.next e).log = .installed name version ok :: s.log →
    .installed name version true ∉ sinceOther name version s.log
  oneLoad : ∀ (n : Nat) reader extensions shown contributions, (s.next e).readers[n]? = some reader →
    reader.stage = .ended extensions shown contributions → s.readers[n]? ≠ some reader →
      ∃ inner ∈ noInner :: s.commits, extensions = inner.extensions ∧
        (∃ users userId, shown = overlay users userId extensions) ∧
        contributions = retainContributions inner.contributions (enabledNames shown)

/-- The files have what is in the maps, or nothing has been read from them. -/
def Saved (s : ExtensionRegistry) : Prop :=
  s.fresh ∨ s.file = some s.states ∧ s.userFile = some s.userStates

/-- No load has read the states that it will replace. -/
def Settled (s : ExtensionRegistry) : Prop := ∀ load ∈ s.loads, load.stage.hasRead = false

/-- The states that a load reads are those of every extension it has found that has ever been stored. -/
def Remembers (persisted : States) (log : List LogEntry) (found : List Manifest) : Prop :=
  ∀ manifest ∈ found, persisted.get manifest.name = none → lastStored manifest.name log = none

/-- From when a load reads the states until it commits, no other load reads them, nor is the process
started again; files are only read, also by a new process, when they are up to date, and before any hot
reload reads the maps; no load brings back an extension that an earlier one has dropped; a version
declares one set of hooks; and no load commits while contributions are listed. -/
def Heeded (declares : String → String → Bool) (s : ExtensionRegistry) : RegistryEvent → Prop
  | .restart => s.Settled ∧ s.Saved
  | .advance n manifests ok =>
    match s.loads[n]? with
    | none => True
    | some load =>
      match load.stage with
      | .scanning _ => ∀ manifest ∈ manifests, manifest.installs = declares manifest.name manifest.version
      | .reading found =>
        if load.initializing then ok → s.Settled ∧ s.Saved ∧ Remembers (s.file.getD []) s.log found
        else s.Settled ∧ s.fresh = false ∧ Remembers s.states s.log found
      | _ => True
  | .advanceReader n =>
    match s.readers[n]? with
    | none => True
    | some reader =>
      match reader.stage with
      | .overlaid _ _ => reader.commits = s.commits.length
      | _ => True
  | .flush => s.fresh = false
  | _ => True

instance : Decidable s.Saved := inferInstanceAs (Decidable (_ ∨ _))

instance : Decidable s.Settled :=
  inferInstanceAs (Decidable (∀ load ∈ s.loads, load.stage.hasRead = false))

instance {found : List Manifest} : Decidable (Remembers persisted log found) :=
  inferInstanceAs (Decidable (∀ manifest ∈ found, _ → _))

instance : Decidable (s.Heeded declares e) := by
  unfold Heeded
  split
  · infer_instance
  · split
    · infer_instance
    · split <;> infer_instance
  · split
    · infer_instance
    · split <;> infer_instance
  · infer_instance
  · infer_instance

def sinceStored (name : String) (log : List LogEntry) : List LogEntry :=
  log.takeWhile fun
    | .stored other _ => other ≠ name
    | _ => true

def storedEntries (states : States) : List LogEntry :=
  states.map fun state => .stored state.name state.version

lemma lastStored_stored_append (states : States) :
    lastStored name (storedEntries states ++ log) =
      ((states.get name).map ExtensionState.version).or (lastStored name log) := by
  induction states with
  | nil => rfl
  | cons state states ih =>
    by_cases same : state.name = name
    · simp [storedEntries, lastStored, States.get, Keyed.lookup, same]
    · simpa [storedEntries, lastStored, States.get, Keyed.lookup, same] using ih

lemma sinceStored_stored_append {entry : LogEntry} (states : States)
    (here : entry ∈ sinceStored name (storedEntries states ++ log)) :
    (∃ other version, entry = .stored other version) ∨
      states.get name = none ∧ entry ∈ sinceStored name log := by
  induction states with
  | nil => exact .inr ⟨rfl, here⟩
  | cons state states ih =>
    by_cases same : state.name = name
    · simp [storedEntries, sinceStored, same] at here
    · have split : entry = .stored state.name state.version ∨
          entry ∈ sinceStored name (storedEntries states ++ log) := by
        simpa [storedEntries, sinceStored, same] using here
      obtain rfl | here := split
      · exact .inl ⟨_, _, rfl⟩
      · refine (ih here).imp_right (And.imp_left fun none => ?_)
        rwa [States.get, Keyed.lookup_cons, if_neg same]

lemma mem_sinceStored {entry : LogEntry}
    (stored : ∀ version', lastStored name log = some version' → version' ≠ version)
    (here : entry ∈ sinceOther name version log) : entry ∈ sinceStored name log := by
  induction log with
  | nil => exact here
  | cons first log ih =>
    cases first with
    | stored other version' =>
      by_cases same : other = name
      · have differs : version' ≠ version := stored version' (by simp [lastStored, same])
        simp [sinceOther, same, differs] at here
      · have ih := ih (by simpa [lastStored, same] using stored)
        simp only [sinceOther, sinceStored, same, false_and, not_false_eq_true, List.takeWhile_cons,
          decide_true, ne_eq, if_true, List.mem_cons] at here ih ⊢
        exact here.imp_right ih
    | installed =>
      have ih := ih (by simpa [lastStored] using stored)
      simp only [sinceOther, sinceStored, List.takeWhile_cons, if_true, List.mem_cons] at here ih ⊢
      exact here.imp_right ih
    | activated =>
      have ih := ih (by simpa [lastStored] using stored)
      simp only [sinceOther, sinceStored, List.takeWhile_cons, if_true, List.mem_cons] at here ih ⊢
      exact here.imp_right ih

/-- The states in the maps, or those that the files will give. -/
def current (s : ExtensionRegistry) : States := if s.fresh then s.file.getD [] else s.states

def currentUsers (s : ExtensionRegistry) : UserStates :=
  if s.fresh then (s.userFile.getD .none).seed (s.file.getD []) else s.userStates

/-- What a load says of an extension is what is stored of it, if anything has ever been. -/
structure Merged (declares : String → String → Bool) (states : States) (log : List LogEntry)
    (ext : LoadedExtension) : Prop where
  version : ext.state.version = ext.manifest.version
  installs : ext.manifest.installs = declares ext.manifest.name ext.manifest.version
  name : ext.state.name = ext.manifest.name
  enabled : ext.state.enabled = (states.get ext.manifest.name).all ExtensionState.enabled
  remembered : states.get ext.manifest.name = none → lastStored ext.manifest.name log = none

/-- If the extension needs an install hook, it has been run. -/
def Ready (s : ExtensionRegistry) (ext : LoadedExtension) : Prop :=
  ext.state.enabled → ext.manifest.installs → s.InstalledBefore ext.manifest.name ext.manifest.version

def manifestNames (extensions : List LoadedExtension) : List String :=
  extensions.map fun ext => ext.manifest.name

def FoundFacts (declares : String → String → Bool) (load : Load) : Prop :=
  match load.stage with
  | .reading found => (found.map Manifest.name).Nodup ∧
      ∀ manifest ∈ found, manifest.installs = declares manifest.name manifest.version
  | _ => True

def LoadFacts (declares : String → String → Bool) (s : ExtensionRegistry) (load : Load) : Prop :=
  match load.stage with
  | .installing hooked rest persisted => s.fresh = false ∧ persisted = s.states ∧
      (manifestNames (hooked ++ rest)).Nodup ∧
      (∀ ext ∈ hooked ++ rest, Merged declares s.states s.log ext) ∧ ∀ ext ∈ hooked, s.Ready ext
  | .activating hooked ext rest persisted => s.fresh = false ∧ persisted = s.states ∧
      (manifestNames (hooked ++ ext :: rest)).Nodup ∧
      (∀ other ∈ hooked ++ ext :: rest, Merged declares s.states s.log other) ∧
      (∀ ext ∈ hooked, s.Ready ext) ∧ ext.state.enabled ∧ s.Ready ext
  | .hooked extensions => s.fresh = false ∧ (∀ ext ∈ extensions, Merged declares s.states s.log ext) ∧
      ∀ ext ∈ extensions, s.Ready ext
  | .stored extensions => s.fresh = false ∧
      ∀ ext ∈ extensions, s.MachineDisabled ext.manifest.name → ext.state.enabled = false
  | _ => True

/-- The extensions whose hooks a load may have run. -/
def processed : LoadStage → List String
  | .installing hooked _ _ => manifestNames hooked
  | .activating hooked ext _ _ => manifestNames (hooked ++ [ext])
  | .hooked extensions => manifestNames extensions
  | _ => []

def ReaderFacts (s : ExtensionRegistry) (reader : Reader) : Prop :=
  match reader.stage with
  | .listed _ extensions => reader.commits ≤ s.commits.length ∧
      (reader.commits = s.commits.length → extensions = s.inner.extensions)
  | .overlaid extensions shown => reader.commits ≤ s.commits.length ∧
      (reader.commits = s.commits.length → extensions = s.inner.extensions) ∧
      ∃ users userId, shown = overlay users userId extensions
  | .ended _ _ _ => True

/-- What holds whatever the loads are at, but for the extensions whose hooks have been run. -/
structure Steady (declares : String → String → Bool) (done : List String) (s : ExtensionRegistry) :
    Prop where
  users : s.currentUsers = s.choices
  hasDefault : s.choices.hasDefault = true
  machine : ∀ name state, s.MachineDisabled name → s.current.get name = some state → state.enabled = false
  shown : ∀ ext ∈ s.inner.extensions, s.MachineDisabled ext.manifest.name → ext.state.enabled = false
  earlier : ∀ name state, s.earlier.get name = some state → lastStored name s.log ≠ none
  last : ∀ name state, s.current.get name = some state → lastStored name s.log = some state.version
  quiet : ∀ name, name ∉ done → ∀ version ok, .installed name version ok ∉ sinceStored name s.log
  installed : ∀ name state, s.current.get name = some state → state.enabled →
    declares name state.version → s.InstalledBefore name state.version
  idle : s.fresh = true → s.states = [] ∧ s.pending = false ∧ s.writing = .idle ∧ s.inner = noInner
  committed : s.inner ∈ noInner :: s.commits
  readers : ∀ reader ∈ s.readers, s.ReaderFacts reader

/-- No other load has read the states. -/
structure Alone (loads : List Load) (n : Nat) (load : Load) : Prop where
  found : loads[n]? = some load
  others : ∀ (m : Nat) other, loads[m]? = some other → m ≠ n → other.stage.hasRead = false

/-- The load that has read the states, if there is one. -/
def UnderWay (s : ExtensionRegistry) (load : Load) : Prop :=
  s.Settled ∧ load.stage = .ended ∨ load.stage.hasRead = true ∧ ∃ n, Alone s.loads n load

structure Tracked (declares : String → String → Bool) (s : ExtensionRegistry) : Prop where
  found : ∀ load ∈ s.loads, FoundFacts declares load
  steady : ∃ load, s.UnderWay load ∧ s.LoadFacts declares load ∧ s.Steady declares (processed load.stage)

lemma InstalledBefore.mono (h : s.InstalledBefore name version) (more : s.log ⊆ t.log)
    (same : t.earlier = s.earlier) : t.InstalledBefore name version := by
  unfold InstalledBefore
  rw [same]
  exact h.imp_left fun ⟨ok, here⟩ => ⟨ok, more here⟩

lemma Ready.mono (h : s.Ready ext) (more : s.log ⊆ t.log) (same : t.earlier = s.earlier) : t.Ready ext :=
  fun enabled installs => (h enabled installs).mono more same

section
variable {entry : LogEntry} (unstored : ∀ name version, entry ≠ .stored name version)
include unstored

lemma lastStored_cons : lastStored name (entry :: log) = lastStored name log := by
  cases entry with
  | stored => exact absurd rfl (unstored _ _)
  | installed => rfl
  | activated => rfl

lemma sinceStored_cons : sinceStored name (entry :: log) = entry :: sinceStored name log := by
  cases entry with
  | stored => exact absurd rfl (unstored _ _)
  | installed => rfl
  | activated => rfl

lemma Merged.cons {states : States} (h : Merged declares states log ext) :
    Merged declares states (entry :: log) ext := by
  refine ⟨h.version, h.installs, h.name, h.enabled, fun none => ?_⟩
  rw [lastStored_cons unstored]
  exact h.remembered none

lemma Steady.append {done : List String} (h : Steady declares done s)
    (into : ∀ name version ok, entry = .installed name version ok → name ∈ done) :
    Steady declares done (s.append entry) := by
  have more : s.log ⊆ (s.append entry).log := List.subset_cons_self _ _
  constructor
  · exact h.users
  · exact h.hasDefault
  · exact h.machine
  · exact h.shown
  · intro name state there
    rw [ExtensionRegistry.append, lastStored_cons unstored]
    exact h.earlier name state there
  · intro name state there
    rw [ExtensionRegistry.append, lastStored_cons unstored]
    exact h.last name state there
  · intro name fresh version ok here
    rw [ExtensionRegistry.append, sinceStored_cons unstored] at here
    obtain same | here := List.mem_cons.mp here
    · exact fresh (into name version ok same.symm)
    · exact h.quiet name fresh version ok here
  · exact fun name state there enabled declared =>
      (h.installed name state there enabled declared).mono more rfl
  · exact h.idle
  · exact h.committed
  · exact h.readers

end

lemma Steady.goTo {done : List String} (h : Steady declares done s) :
    Steady declares done (s.goTo n stage) :=
  ⟨h.users, h.hasDefault, h.machine, h.shown, h.earlier, h.last, h.quiet, h.installed, h.idle,
    h.committed, h.readers⟩

lemma Steady.weaken {done more : List String} (h : Steady declares done s) (sub : done ⊆ more) :
    Steady declares more s :=
  { h with quiet := fun name fresh => h.quiet name fun here => fresh (sub here) }

lemma foundFacts_of_hasRead {load : Load} (reads : load.stage.hasRead = true) :
    FoundFacts declares load := by
  unfold FoundFacts
  split
  case h_1 stage =>
    rw [stage] at reads
    cases reads
  case h_2 => trivial

section
variable {initializing : Bool} {was : LoadStage} (found : ∀ load ∈ s.loads, FoundFacts declares load)
include found

lemma Tracked.goTo (alone : Alone s.loads n ⟨initializing, was⟩) (reads : stage.hasRead = true)
    (facts : s.LoadFacts declares ⟨initializing, stage⟩) (steady : Steady declares (processed stage) s) :
    Tracked declares (s.goTo n stage) := by
  refine ⟨Pool.forall_modify found fun _ _ _ => foundFacts_of_hasRead reads, ⟨initializing, stage⟩,
    .inr ⟨reads, n, ?_, fun m other there ne => ?_⟩, facts, steady.goTo⟩
  · simp [ExtensionRegistry.goTo, alone.found]
  · refine alone.others m other ?_ ne
    rw [ExtensionRegistry.goTo] at there
    simpa [List.getElem?_modify, Ne.symm ne] using there

lemma Tracked.finish (alone : Alone s.loads n ⟨initializing, was⟩) (steady : Steady declares [] s) :
    Tracked declares (s.goTo n .ended) := by
  refine ⟨Pool.forall_modify found fun _ _ _ => trivial, ⟨false, .ended⟩, .inl ⟨?_, rfl⟩, trivial,
    steady.goTo⟩
  intro load here
  obtain ⟨m, there⟩ := List.mem_iff_getElem?.mp here
  rw [ExtensionRegistry.goTo, List.getElem?_modify] at there
  obtain ⟨other, was, rfl⟩ := Option.map_eq_some_iff.mp there
  split_ifs with same
  · rfl
  · exact alone.others m other was (Ne.symm same)

end

lemma Tracked.early (h : Tracked declares s) (found : s.loads[n]? = some load)
    (early : load.stage.hasRead = false)
    (still : stage.hasRead = false) (facts : FoundFacts declares ⟨load.initializing, stage⟩) :
    Tracked declares (s.goTo n stage) := by
  obtain ⟨known, under, underWay, loadFacts, steady⟩ := h
  refine ⟨Pool.forall_modify known fun other there _ => ?_, under, ?_, loadFacts, steady.goTo⟩
  · obtain rfl := Option.some.inj (found.symm.trans there)
    exact facts
  · obtain ⟨settled, ended⟩ | ⟨reads, k, alone⟩ := underWay
    · exact .inl ⟨Pool.forall_modify settled fun _ _ _ => still, ended⟩
    · have ne : n ≠ k := by
        rintro rfl
        obtain rfl := Option.some.inj (found.symm.trans alone.found)
        rw [early] at reads
        cases reads
      refine .inr ⟨reads, k, ?_, fun m other there apart => ?_⟩
      · simpa [ExtensionRegistry.goTo, List.getElem?_modify, ne] using alone.found
      · rw [ExtensionRegistry.goTo, List.getElem?_modify] at there
        obtain ⟨other, was, rfl⟩ := Option.map_eq_some_iff.mp there
        split_ifs
        · exact still
        · exact alone.others m other was apart

lemma Tracked.settled (h : Tracked declares s) (settled : s.Settled) : Steady declares [] s := by
  obtain ⟨load, ⟨-, ended⟩ | ⟨reads, n, alone⟩, -, steady⟩ := h.steady
  · rwa [ended] at steady
  · rw [settled load (List.mem_of_getElem? alone.found)] at reads
    cases reads

lemma Tracked.at (h : Tracked declares s) (found : s.loads[n]? = some load)
    (reads : load.stage.hasRead = true) :
    Alone s.loads n load ∧ s.LoadFacts declares load ∧ Steady declares (processed load.stage) s := by
  obtain ⟨-, other, ⟨settled, -⟩ | ⟨-, k, alone⟩, facts, steady⟩ := h
  · rw [settled load (List.mem_of_getElem? found)] at reads
    cases reads
  · have here : n = k := by
      by_contra ne
      rw [alone.others n load found ne] at reads
      cases reads
    subst here
    obtain rfl := Option.some.inj (found.symm.trans alone.found)
    exact ⟨alone, facts, steady⟩

lemma current_eq (fresh : s.fresh = false) : s.current = s.states := by simp [current, fresh]

lemma Steady.installed_of_same {done : List String} (h : Steady declares done s) (fresh : s.fresh = false)
    (own : Merged declares s.states s.log ext) (enabled : ext.state.enabled)
    (installs : ext.manifest.installs) (same : needsInstallHook ext.manifest.version
      ((s.states.get ext.manifest.name).map ExtensionState.version) =
      false) : s.InstalledBefore ext.manifest.name ext.manifest.version := by
  cases stored : s.states.get ext.manifest.name with
  | none =>
    rw [stored] at same
    cases same
  | some saved =>
    have version : saved.version = ext.manifest.version := by simpa [stored, needsInstallHook] using same
    have saved_enabled : saved.enabled = true := by simpa [stored, enabled] using own.enabled
    rw [← version]
    refine h.installed _ saved (current_eq fresh ▸ stored) saved_enabled ?_
    rw [version, ← own.installs]
    exact installs

section
variable {initializing : Bool} (found : ∀ load ∈ s.loads, FoundFacts declares load)
include found

lemma Tracked.install {ok : Bool}
    (alone : Alone s.loads n ⟨initializing, .installing hooked (ext :: rest) persisted⟩)
    (facts : s.LoadFacts declares ⟨initializing, .installing hooked (ext :: rest) persisted⟩)
    (steady : Steady declares (manifestNames hooked) s) :
    Tracked declares (s.install n hooked ext rest persisted ok) := by
  obtain ⟨fresh, rfl, nodup, merged, ready⟩ := facts
  have own := merged ext (List.mem_append_right _ List.mem_cons_self)
  have sub : manifestNames hooked ⊆ manifestNames (hooked ++ [ext]) :=
    List.map_subset _ (List.subset_append_left _ _)
  have shift : hooked ++ ext :: rest = hooked ++ [ext] ++ rest := by simp
  unfold ExtensionRegistry.install
  split_ifs with enabled runs
  · have unstored : ∀ name version, LogEntry.installed ext.manifest.name ext.manifest.version ok ≠
        .stored name version := fun _ _ => nofun
    have more : s.log ⊆ (s.append (.installed ext.manifest.name ext.manifest.version ok)).log :=
      List.subset_cons_self _ _
    refine Tracked.goTo (s := s.append _) found alone rfl ⟨fresh, rfl, nodup, ?_, ?_, enabled, ?_⟩ ?_
    · exact fun other here => (merged other here).cons unstored
    · exact fun other here => (ready other here).mono more rfl
    · exact fun _ _ => .inl ⟨ok, List.mem_cons_self⟩
    · refine (steady.weaken sub).append unstored fun name version ok same => ?_
      cases same
      exact List.mem_map_of_mem (List.mem_append_right _ List.mem_cons_self)
  · refine Tracked.goTo found alone rfl ⟨fresh, rfl, nodup, merged, ready, enabled, fun _ installs => ?_⟩
      (steady.weaken sub)
    exact steady.installed_of_same fresh own enabled installs (by simpa [installs] using runs)
  · refine Tracked.goTo found alone rfl ⟨fresh, rfl, ?_⟩ (steady.weaken sub)
    rw [← shift]
    refine ⟨nodup, merged, ?_⟩
    rw [List.forall_mem_append, List.forall_mem_singleton]
    exact ⟨ready, fun enabled' => absurd enabled' enabled⟩

lemma Tracked.activate (alone : Alone s.loads n ⟨initializing, .activating hooked ext rest persisted⟩)
    (facts : s.LoadFacts declares ⟨initializing, .activating hooked ext rest persisted⟩)
    (steady : Steady declares (manifestNames (hooked ++ [ext])) s) :
    Tracked declares (s.activate n hooked ext rest persisted) := by
  obtain ⟨fresh, rfl, nodup, merged, ready, enabled, own⟩ := facts
  have names : manifestNames (hooked ++ [ext]) =
      manifestNames (hooked ++ [{ ext with state := { ext.state with installed := true } }]) := by
    simp [manifestNames]
  rw [names] at steady
  have active : Merged declares s.states s.log
      { ext with state := { ext.state with installed := true } } :=
    have merged := merged ext (List.mem_append_right _ List.mem_cons_self)
    ⟨merged.version, merged.installs, merged.name, merged.enabled, merged.remembered⟩
  have nodup : (manifestNames
      (hooked ++ [{ ext with state := { ext.state with installed := true } }] ++ rest)).Nodup :=
    by simpa [manifestNames] using nodup
  have merged : ∀ other ∈ hooked ++ [{ ext with state := { ext.state with installed := true } }] ++ rest,
      Merged declares s.states s.log other := by
    simp only [List.append_assoc, List.singleton_append, List.forall_mem_append,
      List.forall_mem_cons] at merged ⊢
    exact ⟨merged.1, active, merged.2.2⟩
  have ready : ∀ other ∈ hooked ++ [{ ext with state := { ext.state with installed := true } }],
      s.Ready other := by
    rw [List.forall_mem_append, List.forall_mem_singleton]
    exact ⟨ready, own⟩
  unfold ExtensionRegistry.activate
  dsimp only
  split_ifs
  · have unstored : ∀ name version,
      LogEntry.activated ext.manifest.name ext.manifest.version ext.manifest.installs ≠
        .stored name version := fun _ _ => nofun
    refine Tracked.goTo (s := s.append _) found alone rfl ⟨fresh, rfl, nodup, ?_, ?_⟩ ?_
    · exact fun other here => (merged other here).cons unstored
    · exact fun other here => (ready other here).mono (List.subset_cons_self _ _) rfl
    · exact steady.append unstored fun _ _ _ => nofun
  · exact Tracked.goTo found alone rfl ⟨fresh, rfl, nodup, merged, ready⟩ steady

end

lemma States.get_build {state : ExtensionState}
    (there : States.get (buildStateMap extensions) name = some state) :
    ∃ ext ∈ extensions, ext.state = state ∧ ext.state.name = name := by
  obtain ⟨ext, here, rfl⟩ := List.mem_map.mp (Keyed.mem_of_lookup there)
  exact ⟨ext, here, rfl, Keyed.lookup_key there⟩

def stored (s : ExtensionRegistry) (extensions : List LoadedExtension) : ExtensionRegistry :=
  { s.setAll (buildStateMap extensions) with log := storedEntries (buildStateMap extensions) ++ s.log }

lemma store_eq : s.store n extensions = (s.stored extensions).goTo n (.stored extensions) := by
  simp [ExtensionRegistry.store, stored, storedEntries, buildStateMap, setAll, ExtensionRegistry.goTo]

lemma Steady.disabled {done : List String} (h : Steady declares done s) (fresh : s.fresh = false)
    (merged : Merged declares s.states s.log ext) (off : s.MachineDisabled ext.manifest.name) :
    ext.state.enabled = false := by
  rw [merged.enabled]
  cases saved : s.states.get ext.manifest.name with
  | none =>
    obtain ⟨state, there, -⟩ := off
    exact absurd (merged.remembered saved) (h.earlier _ state there)
  | some state => exact h.machine _ state off (current_eq fresh ▸ saved)

lemma Steady.stored (h : Steady declares (manifestNames extensions) s) (fresh : s.fresh = false)
    (merged : ∀ ext ∈ extensions, Merged declares s.states s.log ext)
    (ready : ∀ ext ∈ extensions, s.Ready ext) : Steady declares [] (s.stored extensions) := by
  have users : s.currentUsers = s.userStates := by simp [currentUsers, fresh]
  have origin : ∀ {name state}, (s.stored extensions).current.get name = some state →
      ∃ ext ∈ extensions, ext.state = state ∧ ext.manifest.name = name := by
    intro name state there
    obtain ⟨ext, here, same, named⟩ := States.get_build there
    exact ⟨ext, here, same, (merged ext here).name.symm.trans named⟩
  have more : s.log ⊆ (s.stored extensions).log := List.subset_append_right _ _
  constructor
  · exact users.symm.trans h.users
  · exact h.hasDefault
  · intro name state off there
    obtain ⟨ext, here, rfl, rfl⟩ := origin there
    exact h.disabled fresh (merged ext here) off
  · exact h.shown
  · intro name state there
    rw [ExtensionRegistry.stored, lastStored_stored_append]
    simpa using fun _ => h.earlier name state there
  · intro name state there
    have there : States.get (buildStateMap extensions) name = some state := there
    rw [ExtensionRegistry.stored, lastStored_stored_append, there]
    rfl
  · intro name _ version ok here
    obtain ⟨_, _, same⟩ | ⟨absent, here⟩ := sinceStored_stored_append _ here
    · cases same
    · refine h.quiet name (fun there => ?_) version ok here
      obtain ⟨ext, mem, rfl⟩ := List.mem_map.mp there
      exact Keyed.lookup_eq_none.mp absent _ (List.mem_map_of_mem mem) (merged ext mem).name
  · intro name state there enabled declared
    obtain ⟨ext, here, rfl, rfl⟩ := origin there
    have merged := merged ext here
    rw [merged.version] at declared ⊢
    exact (ready ext here enabled (merged.installs.trans declared)).mono more rfl
  · exact fun idle => nomatch idle
  · exact h.committed
  · exact h.readers

section
variable {initializing : Bool} (found : ∀ load ∈ s.loads, FoundFacts declares load)
include found

lemma Tracked.store (alone : Alone s.loads n ⟨initializing, .hooked extensions⟩)
    (facts : s.LoadFacts declares ⟨initializing, .hooked extensions⟩)
    (steady : Steady declares (manifestNames extensions) s) : Tracked declares (s.store n extensions) :=
    by
  obtain ⟨fresh, merged, ready⟩ := facts
  rw [store_eq]
  refine Tracked.goTo (s := s.stored extensions) found alone rfl ⟨rfl, ?_⟩
    (steady.stored fresh merged ready)
  exact fun ext here => steady.disabled fresh (merged ext here)

lemma Tracked.commit (alone : Alone s.loads n ⟨initializing, .stored extensions⟩)
    (facts : s.LoadFacts declares ⟨initializing, .stored extensions⟩) (steady : Steady declares [] s) :
    Tracked declares (s.commit n initializing extensions) := by
  obtain ⟨fresh, disabled⟩ := facts
  have older : ∀ {commits : Nat}, commits ≤ s.commits.length → commits ≤ s.commits.length + 1 ∧
      commits ≠ s.commits.length + 1 := fun le => ⟨Nat.le_succ_of_le le, (Nat.lt_succ_of_le le).ne⟩
  let inner : RegistryInner := ⟨extensions, resolveAllInstalledContributions extensions⟩
  refine Tracked.finish (s := { s with
    inner, initialized := s.initialized || initializing, commits := inner :: s.commits }) found alone ?_
  refine ⟨steady.users, steady.hasDefault, steady.machine, disabled, steady.earlier, steady.last,
    steady.quiet, steady.installed, fun idle => ?_, List.mem_cons_of_mem _ List.mem_cons_self,
    fun reader here => ?_⟩
  · rw [fresh] at idle
    cases idle
  · have facts := steady.readers reader here
    unfold ReaderFacts at facts ⊢
    split
    case h_1 stage =>
      rw [stage] at facts
      exact ⟨(older facts.1).1, fun same => absurd same (older facts.1).2⟩
    case h_2 stage =>
      rw [stage] at facts
      exact ⟨(older facts.1).1, fun same => absurd same (older facts.1).2, facts.2.2⟩
    case h_3 => trivial

end

lemma loadStates_states (saved : s.Saved) : s.loadStates.states = s.current := by
  obtain fresh | ⟨file, -⟩ := saved
  · simp [loadStates, current, fresh]
  · cases fresh : s.fresh <;> simp [loadStates, current, fresh, file]

lemma loadStates_users (saved : s.Saved) (hasDefault : s.currentUsers.hasDefault = true) :
    s.loadStates.userStates = s.currentUsers := by
  obtain fresh | ⟨-, file⟩ := saved
  · simp [loadStates, currentUsers, fresh]
  · cases fresh : s.fresh
    · simp only [loadStates, currentUsers, fresh, file] at hasDefault ⊢
      exact seed_eq hasDefault
    · simp [loadStates, currentUsers, fresh]

lemma Steady.loadStates {done : List String} (h : Steady declares done s) (saved : s.Saved) :
    Steady declares done s.loadStates := by
  have current := loadStates_states saved
  have users := loadStates_users saved (h.users ▸ h.hasDefault)
  constructor
  · exact users.trans h.users
  · exact h.hasDefault
  · exact fun name state off there => h.machine name state off (current ▸ there)
  · exact h.shown
  · exact h.earlier
  · exact fun name state there => h.last name state (current ▸ there)
  · exact h.quiet
  · exact fun name state there => h.installed name state (current ▸ there)
  · exact fun idle => nomatch idle
  · exact h.committed
  · exact h.readers

lemma Steady.restart {done : List String} (h : Steady declares done s) (saved : s.Saved) :
    Steady declares done s.restart := by
  have current := loadStates_states saved
  have users := loadStates_users saved (h.users ▸ h.hasDefault)
  constructor
  · exact users.trans h.users
  · exact h.hasDefault
  · exact fun name state off there => h.machine name state off (current ▸ there)
  · exact fun ext here => nomatch here
  · exact h.earlier
  · exact fun name state there => h.last name state (current ▸ there)
  · exact h.quiet
  · exact fun name state there => h.installed name state (current ▸ there)
  · exact fun _ => ⟨rfl, rfl, rfl, rfl⟩
  · exact List.mem_cons_self
  · exact fun reader here => nomatch here

lemma Steady.files {done : List String} (h : Steady declares done s) (fresh : s.fresh = false)
    (file : Option States) (userFile : Option UserStates) (pending : Bool) (writing : Writing) :
    Steady declares done { s with file, userFile, pending, writing } := by
  have current : s.current = s.states := current_eq fresh
  have current' : ExtensionRegistry.current { s with file, userFile, pending, writing } = s.states :=
    current_eq fresh
  have same := current'.trans current.symm
  constructor
  · have users := h.users
    simp only [currentUsers, fresh] at users ⊢
    exact users
  · exact h.hasDefault
  · exact fun name state off there => h.machine name state off (same ▸ there)
  · exact h.shown
  · exact h.earlier
  · exact fun name state there => h.last name state (same ▸ there)
  · exact h.quiet
  · exact fun name state there => h.installed name state (same ▸ there)
  · exact fun idle => nomatch fresh.symm.trans idle
  · exact h.committed
  · exact h.readers

lemma Tracked.write (h : Tracked declares s) : Tracked declares (s.write ok) := by
  obtain ⟨found, load, underWay, facts, steady⟩ := h
  cases fresh : s.fresh with
  | true =>
    obtain ⟨-, pending, idle, -⟩ := steady.idle fresh
    have same : s.write ok = s := by simp [ExtensionRegistry.write, pending, idle]
    rw [same]
    exact ⟨found, load, underWay, facts, steady⟩
  | false =>
    have files := steady.files fresh
    unfold ExtensionRegistry.write
    split
    · split_ifs
      · exact ⟨found, load, underWay, facts, files _ _ _ _⟩
      · exact ⟨found, load, underWay, facts, steady⟩
    · exact ⟨found, load, underWay, facts, files _ _ _ _⟩
    · split_ifs
      · exact ⟨found, load, underWay, facts, files _ _ _ _⟩
      · exact ⟨found, load, underWay, facts, files _ _ _ _⟩
    · split_ifs
      · exact ⟨found, load, underWay, facts, files _ _ _ _⟩
      · exact ⟨found, load, underWay, facts, files _ _ _ _⟩

lemma Tracked.merge {found : List Manifest} {initializing : Bool}
    (known : ∀ load ∈ s.loads, FoundFacts declares load)
    (alone : Alone s.loads n ⟨initializing, .reading found⟩) (fresh : s.fresh = false)
    (remembers : Remembers s.states s.log found) (steady : Steady declares [] s) :
    Tracked declares
      (s.goTo n (.installing []
        (mergePersistedStates s.states (found.map loadSingleExtension)) s.states)) := by
  obtain ⟨nodup, declared⟩ := known _ (List.mem_of_getElem? alone.found)
  have names : manifestNames (mergePersistedStates s.states (found.map loadSingleExtension)) =
      found.map Manifest.name := by simp [manifestNames, mergePersistedStates, loadSingleExtension]
  refine Tracked.goTo known alone rfl
    ⟨fresh, rfl, ?_, fun ext here => ?_, fun _ here => absurd here List.not_mem_nil⟩ steady
  · rw [List.nil_append, names]
    exact nodup
  · obtain ⟨_, there, rfl⟩ := List.mem_map.mp here
    obtain ⟨manifest, mem, rfl⟩ := List.mem_map.mp there
    constructor
    · simp [loadSingleExtension]
    · simpa [loadSingleExtension] using declared manifest mem
    · simp [loadSingleExtension]
    · simpa [loadSingleExtension] using @merge_enabled manifest s.states
    · simpa [loadSingleExtension] using remembers manifest mem

lemma Tracked.advance {manifests : List Manifest} (h : Tracked declares s)
    (heeded : s.Heeded declares (.advance n manifests ok)) :
    Tracked declares (s.advance n manifests ok) := by
  unfold ExtensionRegistry.advance
  dsimp only [Heeded] at heeded
  cases found : s.loads[n]? with
  | none => exact h
  | some load =>
    rw [found] at heeded
    obtain ⟨initializing, stage⟩ := load
    dsimp only at heeded ⊢
    have alone_of (settled : s.Settled) : Alone s.loads n ⟨initializing, stage⟩ :=
      ⟨found, fun _ other there _ => settled other (List.mem_of_getElem? there)⟩
    cases stage with
    | scanning scans =>
      refine h.early found rfl rfl ?_
      split_ifs
      · obtain ⟨nodup, mem⟩ := @nodup_loadAll manifests
        exact ⟨nodup, fun manifest here => heeded manifest (mem manifest here)⟩
      · exact ⟨List.nodup_nil, fun manifest here => nomatch here⟩
    | reading manifests =>
      dsimp only at heeded ⊢
      split_ifs with fails init
      · exact h.early found rfl rfl trivial
      · rw [if_pos init] at heeded
        obtain ⟨settled, saved, remembers⟩ := heeded (by simpa [init] using fails)
        exact Tracked.merge (s := s.loadStates) h.found (alone_of settled) rfl remembers
          ((h.settled settled).loadStates saved)
      · rw [if_neg init] at heeded
        obtain ⟨settled, fresh, remembers⟩ := heeded
        exact Tracked.merge h.found (alone_of settled) fresh remembers (h.settled settled)
    | installing hooked rest persisted =>
      obtain ⟨alone, facts, steady⟩ := h.at found rfl
      cases rest with
      | nil =>
        obtain ⟨fresh, rfl, nodup, merged, ready⟩ := facts
        rw [List.append_nil] at merged
        exact Tracked.goTo h.found alone rfl ⟨fresh, merged, ready⟩ steady
      | cons ext rest => exact Tracked.install h.found alone facts steady
    | activating hooked ext rest persisted =>
      obtain ⟨alone, facts, steady⟩ := h.at found rfl
      exact Tracked.activate h.found alone facts steady
    | hooked extensions =>
      obtain ⟨alone, facts, steady⟩ := h.at found rfl
      exact Tracked.store h.found alone facts steady
    | stored extensions =>
      obtain ⟨alone, facts, steady⟩ := h.at found rfl
      exact Tracked.commit h.found alone facts steady
    | ended => exact h

lemma Tracked.begin (h : Tracked declares s) {initializing scans : Bool} :
    Tracked declares { s with loads := s.loads ++ [⟨initializing, .scanning scans⟩] } := by
  obtain ⟨found, load, underWay, facts, steady⟩ := h
  refine ⟨Pool.forall_append found trivial, load, ?_, facts, ?_⟩
  · obtain ⟨settled, ended⟩ | ⟨reads, k, alone⟩ := underWay
    · exact .inl ⟨Pool.forall_append settled rfl, ended⟩
    · refine .inr ⟨reads, k, ?_, fun m other there ne => ?_⟩
      · rw [List.getElem?_append_left (List.getElem?_eq_some_iff.mp alone.found).1]
        exact alone.found
      · obtain old | ⟨-, rfl⟩ := Pool.getElem?_append_some there
        · exact alone.others m other old ne
        · rfl
  · exact ⟨steady.users, steady.hasDefault, steady.machine, steady.shown, steady.earlier, steady.last,
      steady.quiet, steady.installed, steady.idle, steady.committed, steady.readers⟩

lemma Tracked.setEnabled {enabled : Bool} (h : Tracked declares s) :
    Tracked declares (s.setEnabled userId name enabled) := by
  obtain ⟨found, load, underWay, facts, steady⟩ := h
  unfold ExtensionRegistry.setEnabled
  split_ifs with there same
  · exact ⟨found, load, underWay, facts, steady⟩
  · have fresh : s.fresh = false := by
      by_contra idle
      have inner := (steady.idle (by simpa using idle)).2.2.2
      simp [inner, noInner] at there
    have facts' : LoadFacts declares { s with fresh := false } load := by
      rw [← fresh]
      exact facts
    refine ⟨found, load, underWay, facts', ?_⟩
    have current : (s.setUserEnabled userId name enabled).current = s.current := (current_eq fresh).symm
    constructor
    · have users := steady.users
      simp only [currentUsers, fresh] at users
      exact congrArg (UserStates.setUserEnabled · userId name enabled) users
    · simp [setUserEnabled, UserStates.setUserEnabled, steady.hasDefault]
    · exact fun name state off there => steady.machine name state off (current ▸ there)
    · exact steady.shown
    · exact steady.earlier
    · exact fun name state there => steady.last name state (current ▸ there)
    · exact steady.quiet
    · exact fun name state there => steady.installed name state (current ▸ there)
    · intro idle
      cases idle
    · exact steady.committed
    · exact steady.readers
  · exact ⟨found, load, underWay, facts, steady⟩

lemma Tracked.readers (h : Tracked declares s) {readers : List Reader}
    (facts : ∀ reader ∈ readers, s.ReaderFacts reader) : Tracked declares { s with readers } := by
  obtain ⟨found, load, underWay, loadFacts, steady⟩ := h
  exact ⟨found, load, underWay, loadFacts, steady.users, steady.hasDefault, steady.machine,
    steady.shown, steady.earlier, steady.last, steady.quiet, steady.installed, steady.idle,
    steady.committed, facts⟩

lemma Tracked.committed (h : Tracked declares s) : s.inner ∈ noInner :: s.commits :=
  h.steady.elim fun _ h => h.2.2.committed

lemma Tracked.readerFacts (h : Tracked declares s) : ∀ reader ∈ s.readers, s.ReaderFacts reader :=
  h.steady.elim fun _ h => h.2.2.readers

lemma ReaderFacts.on {reader : Reader} (h : s.ReaderFacts reader) :
    s.ReaderFacts { reader with stage := s.readOn reader.stage } := by
  obtain ⟨commits, stage⟩ := reader
  cases stage with
  | listed => exact ⟨h.1, h.2, _, _, rfl⟩
  | overlaid => trivial
  | ended => trivial

/-- Every log entry is of a load: of what it has installed, activated or stored. -/
lemma log_next : (s.next e).log = s.log ∨
    (∃ states, (s.next e).log = storedEntries states ++ s.log) ∨
    (∃ load hooked ext rest persisted ok, load ∈ s.loads ∧
      load.stage = .installing hooked (ext :: rest) persisted ∧
      needsInstallHook ext.manifest.version
        ((persisted.get ext.manifest.name).map ExtensionState.version) = true ∧
      (s.next e).log = .installed ext.manifest.name ext.manifest.version ok :: s.log) ∨
    ∃ load hooked ext rest persisted, load ∈ s.loads ∧
      load.stage = .activating hooked ext rest persisted ∧
      (s.next e).log = .activated ext.manifest.name ext.manifest.version ext.manifest.installs ::
        s.log := by
  cases e with
  | setEnabled userId name enabled =>
    left
    dsimp only [ExtensionRegistry.next, ExtensionRegistry.setEnabled]
    split_ifs <;> rfl
  | write ok =>
    left
    dsimp only [ExtensionRegistry.next, ExtensionRegistry.write]
    split
    · split_ifs <;> rfl
    · rfl
    · split_ifs <;> rfl
    · split_ifs <;> rfl
  | advance n manifests ok =>
    dsimp only [ExtensionRegistry.next, ExtensionRegistry.advance]
    cases found : s.loads[n]? with
    | none => exact .inl rfl
    | some load =>
      have mem := List.mem_of_getElem? found
      dsimp only
      split
      case h_2 =>
        left
        split_ifs <;> rfl
      case h_4 hooked ext rest persisted stage =>
        unfold ExtensionRegistry.install
        split_ifs with enabled runs
        · exact .inr (.inr (.inl ⟨load, hooked, ext, rest, persisted, ok, mem, stage,
            (Bool.and_eq_true_iff.mp runs).2, rfl⟩))
        · exact .inl rfl
        · exact .inl rfl
      case h_5 hooked ext rest persisted stage =>
        unfold ExtensionRegistry.activate
        dsimp only
        split_ifs with runs
        · exact .inr (.inr (.inr ⟨load, hooked, ext, rest, persisted, mem, stage, rfl⟩))
        · exact .inl rfl
      case h_6 extensions stage => exact .inr (.inl ⟨buildStateMap extensions, congrArg log store_eq⟩)
      all_goals exact .inl rfl
  | _ => exact .inl rfl

lemma readers_advance {manifests : List Manifest} : (s.advance n manifests ok).readers = s.readers := by
  unfold ExtensionRegistry.advance
  cases s.loads[n]? with
  | none => rfl
  | some load =>
    dsimp only
    split
    case h_2 => split_ifs <;> rfl
    case h_4 =>
      unfold ExtensionRegistry.install
      split_ifs <;> rfl
    case h_5 =>
      unfold ExtensionRegistry.activate
      dsimp only
      split_ifs <;> rfl
    all_goals rfl

lemma readers_write : (s.write ok).readers = s.readers := by
  unfold ExtensionRegistry.write
  split
  · split_ifs <;> rfl
  · rfl
  · split_ifs <;> rfl
  · split_ifs <;> rfl

lemma Tracked.disabled (h : Tracked declares s) : ∀ ext ∈ s.extensionsForUser userId,
    s.DisabledFor userId ext.manifest.name → ext.state.enabled = false := by
  obtain ⟨_, _, _, steady⟩ := h.steady
  intro ext here off
  obtain ⟨listed, mem, rfl⟩ := List.mem_map.mp here
  have users : s.userStates = s.choices := by
    cases fresh : s.fresh with
    | true =>
      rw [(steady.idle fresh).2.2.2] at mem
      cases mem
    | false => simpa [currentUsers, fresh] using steady.users
  rw [users]
  dsimp only
  obtain chosen | ⟨unset, rfl, machine⟩ := off
  · have chosen : s.choices.getUserEnabled userId listed.manifest.name = some false := chosen
    simp [chosen]
  · have unset : s.choices.getUserEnabled SYSTEM_DEFAULT_USER_ID listed.manifest.name = none := unset
    simp [unset, steady.shown listed mem machine]

lemma Tracked.machine (h : Tracked declares s) (off : s.MachineDisabled name) :
    (∀ state, s.states.get name = some state → state.enabled = false) ∧
      ∀ ext ∈ s.inner.extensions, ext.manifest.name = name → ext.state.enabled = false := by
  obtain ⟨_, _, _, steady⟩ := h.steady
  refine ⟨fun state there => ?_, fun ext here same => steady.shown ext here (same ▸ off)⟩
  cases fresh : s.fresh with
  | true =>
    rw [(steady.idle fresh).1] at there
    cases there
  | false => exact steady.machine name state off (current_eq fresh ▸ there)

lemma cons_ne_stored {entry : LogEntry} (unstored : ∀ name version, entry ≠ .stored name version)
    (states : States) : storedEntries states ++ log ≠ entry :: log := by
  cases states with
  | nil => exact (List.cons_ne_self _ _).symm
  | cons state states =>
    intro same
    exact unstored _ _ (List.cons.inj same).1.symm

section

variable (h : Tracked declares s)
include h

lemma Tracked.installsFirst (log : (s.next e).log = .activated name version true :: s.log) :
    s.InstalledBefore name version := by
  obtain same | ⟨states, same⟩ | ⟨_, _, _, _, _, _, _, _, _, same⟩ |
    ⟨load, hooked, ext, rest, persisted, mem, stage, same⟩ := log_next (s := s) (e := e) <;>
      rw [log] at same
  · exact absurd same (List.cons_ne_self _ _)
  · refine absurd same.symm (cons_ne_stored ?_ states)
    exact fun _ _ => nofun
  · cases (List.cons.inj same).1
  · obtain ⟨n, found⟩ := List.mem_iff_getElem?.mp mem
    obtain ⟨-, facts, -⟩ := h.at found (by rw [stage]; rfl)
    rw [LoadFacts, stage] at facts
    obtain ⟨-, -, -, -, -, enabled, ready⟩ := facts
    injection same with same
    injection same with same_name same_version installs
    subst same_name same_version
    exact ready enabled installs.symm

lemma Tracked.installsOnce (log : (s.next e).log = .installed name version ok :: s.log) :
    .installed name version true ∉ sinceOther name version s.log := by
  obtain same | ⟨states, same⟩ | ⟨load, hooked, ext, rest, persisted, ok, mem, stage, needs, same⟩ |
    ⟨_, _, _, _, _, _, _, same⟩ := log_next (s := s) (e := e) <;> rw [log] at same
  · exact absurd same (List.cons_ne_self _ _)
  · refine absurd same.symm (cons_ne_stored ?_ states)
    exact fun _ _ => nofun
  · obtain ⟨n, found⟩ := List.mem_iff_getElem?.mp mem
    obtain ⟨-, facts, steady⟩ := h.at found (by rw [stage]; rfl)
    rw [LoadFacts, stage] at facts
    rw [stage] at steady
    obtain ⟨fresh, rfl, nodup, merged, -⟩ := facts
    injection same with same
    injection same with same_name same_version
    subst same_name same_version
    have unhooked : ext.manifest.name ∉ manifestNames hooked := by
      intro there
      rw [manifestNames, List.map_append] at nodup
      exact (List.nodup_append.mp nodup).2.2 _ there _ List.mem_cons_self rfl
    refine fun here => steady.quiet _ unhooked _ true (mem_sinceStored (fun version stored => ?_) here)
    cases saved : s.states.get ext.manifest.name with
    | none =>
      have merged := merged ext (List.mem_append_right _ List.mem_cons_self)
      rw [merged.remembered saved] at stored
      cases stored
    | some state =>
      rw [steady.last _ state (current_eq fresh ▸ saved)] at stored
      cases stored
      simpa [saved, needsInstallHook] using needs
  · cases (List.cons.inj same).1

lemma Tracked.oneLoad (heeded : s.Heeded declares e) {n : Nat} {reader : Reader}
    {shown : List LoadedExtension} {contributions : List Contribution}
    (there : (s.next e).readers[n]? = some reader)
    (ended : reader.stage = .ended extensions shown contributions)
    (was : s.readers[n]? ≠ some reader) : ∃ inner ∈ noInner :: s.commits, extensions = inner.extensions ∧
      (∃ users userId, shown = overlay users userId extensions) ∧
      contributions = retainContributions inner.contributions (enabledNames shown) := by
  cases e with
  | restart => cases there
  | read userId =>
    obtain old | ⟨-, rfl⟩ := Pool.getElem?_append_some there
    · exact absurd old was
    · cases ended
  | advanceReader m =>
    have there : (s.readers.modify m fun reader => { reader with stage := s.readOn reader.stage })[n]? =
        some reader := there
    rw [List.getElem?_modify] at there
    obtain ⟨⟨commits, stage⟩, found, same⟩ := Option.map_eq_some_iff.mp there
    by_cases here : m = n
    · subst here
      rw [if_pos rfl] at same
      subst same
      cases stage with
      | listed => cases ended
      | overlaid =>
        dsimp only [Heeded] at heeded
        rw [found] at heeded
        cases ended
        obtain ⟨-, same, overlaid⟩ := h.readerFacts _ (List.mem_of_getElem? found)
        exact ⟨s.inner, h.committed, same heeded, overlaid, rfl⟩
      | ended => exact absurd found was
    · rw [if_neg here] at same
      subst same
      exact absurd found was
  | advance => exact absurd (readers_advance ▸ there) was
  | write => exact absurd (readers_write ▸ there) was
  | setEnabled =>
    dsimp only [ExtensionRegistry.next, ExtensionRegistry.setEnabled] at there
    split_ifs at there <;> exact absurd there was
  | initializeWithScanPaths => exact absurd there was
  | hotReload => exact absurd there was
  | flush => exact absurd there was

lemma Tracked.next (heeded : s.Heeded declares e) : Tracked declares (s.next e) := by
  cases e with
  | restart =>
    obtain ⟨settled, saved⟩ := heeded
    exact ⟨List.forall_mem_nil _, ⟨false, .ended⟩, .inl ⟨List.forall_mem_nil _, rfl⟩, trivial,
      (h.settled settled).restart saved⟩
  | initializeWithScanPaths => exact h.begin
  | hotReload => exact h.begin
  | advance n manifests ok => exact h.advance heeded
  | setEnabled => exact h.setEnabled
  | read userId => exact h.readers (Pool.forall_append h.readerFacts ⟨le_rfl, fun _ => rfl⟩)
  | advanceReader n => exact h.readers (Pool.forall_modify h.readerFacts fun _ _ facts => facts.on)
  | write ok => exact h.write
  | flush =>
    obtain ⟨found, load, underWay, facts, steady⟩ := h
    exact ⟨found, load, underWay, facts, steady.files heeded _ _ _ _⟩

end

lemma tracked_start (file : Option States) (userFile : Option UserStates) :
    Tracked declares (start file userFile) := by
  refine ⟨List.forall_mem_nil _, ⟨false, .ended⟩, .inl ⟨List.forall_mem_nil _, rfl⟩, trivial, ?_⟩
  have log : (start file userFile).log = storedEntries (file.getD []) ++ [] := (List.append_nil _).symm
  constructor
  · rfl
  · exact seed_hasDefault
  · rintro name state ⟨first, there, off⟩ there'
    obtain rfl := Option.some.inj (there.symm.trans there')
    exact off
  · exact fun ext here => nomatch here
  · intro name state there
    have there : States.get (file.getD []) name = some state := there
    rw [log, lastStored_stored_append, there]
    exact nofun
  · intro name state there
    have there : States.get (file.getD []) name = some state := there
    rw [log, lastStored_stored_append, there]
    rfl
  · intro name _ version ok here
    rw [log] at here
    obtain ⟨_, _, same⟩ | ⟨-, here⟩ := sinceStored_stored_append _ here
    · cases same
    · cases here
  · exact fun name state there _ _ => .inr ⟨state, there, rfl⟩
  · exact fun _ => ⟨rfl, rfl, rfl, rfl⟩
  · exact List.mem_cons_self
  · exact fun reader here => nomatch here

lemma Tracked.survives (h : Tracked declares s) (heeded : s.Heeded declares e) : Survives s e where
  disabled _ := (h.next heeded).disabled
  machine _ := (h.next heeded).machine
  installsFirst _ _ := h.installsFirst
  installsOnce _ _ _ := h.installsOnce
  oneLoad _ _ _ _ _ := h.oneLoad heeded

/-- In every run in which a load has the states to itself from when it reads them until it commits,
files are only read when they are up to date, no load brings back an extension that an earlier one has
dropped, a version declares one set of hooks, and no load commits while contributions are listed: an
extension stays disabled for a user until that user enables it, the machine's choice is kept, an install
hook is run before a version is first activated and again only when the version has changed or the hook
has failed, and contributions are of one load.
-/
theorem state_survives (declares : String → String → Bool) (file : Option States) (userFile : Option UserStates)
    (events : List RegistryEvent)
    (heeded : LTS.EnabledAll (Heeded declares) next (start file userFile) events) :
    LTS.EnabledAll Survives next (start file userFile) events :=
  heeded.imp (fun _ _ h heeds => ⟨h.survives heeds, h.next heeds⟩) (tracked_start file userFile)

/-- An extension is installed, disabled by a user, loaded again in a new version while another load
looks for manifests, and read by a new process. -/
theorem survives_restarted :
    LTS.EnabledAll Survives next (start (some [⟨"off", "1", false, false⟩]) none)
      [ .initializeWithScanPaths,
        .advance 0 [⟨"off", "1", some "i", none, []⟩, ⟨"on", "1", some "i", some "a", ["c"]⟩] true,
        .advance 0 [] true, .hotReload, .advance 0 [] true, .advance 0 [] true, .advance 0 [] true,
        .advance 0 [] true, .advance 0 [] true, .advance 0 [] true,
        .setEnabled "u" "on" false, .read "u", .advanceReader 0, .advanceReader 0, .hotReload,
        .advance 2 [⟨"on", "2", some "i", some "a", ["d"]⟩, ⟨"off", "1", some "i", none, []⟩] true,
        .advance 2 [] true, .advance 2 [] true, .advance 2 [] true, .advance 2 [] true,
        .advance 2 [] true, .advance 2 [] true, .advance 2 [] true, .write true, .write true, .write true,
        .write true, .restart, .initializeWithScanPaths,
        .advance 0 [⟨"on", "2", some "i", some "a", ["d"]⟩] true, .advance 0 [] true, .advance 0 [] true,
        .advance 0 [] true, .advance 0 [] true, .advance 0 [] true, .advance 0 [] true ] :=
  state_survives (fun _ _ => true) _ _ _ (by decide)

/-- A load does not find an extension that is disabled, and the next one finds it. -/
theorem forgets_disabled :
    ¬ ∀ file userFile events, LTS.EnabledAll Survives next (start file userFile) events := by
  intro h
  have law := LTS.EnabledAll.last <| h (some [⟨"x", "1", false, true⟩]) none
    ([ .initializeWithScanPaths, .advance 0 [] true, .advance 0 [] true, .advance 0 [] true,
      .advance 0 [] true, .advance 0 [] true, .hotReload, .advance 1 [⟨"x", "1", none, none, []⟩] true,
      .advance 1 [] true, .advance 1 [] true, .advance 1 [] true, .advance 1 [] true ] ++
        [.advance 1 [] true])
  obtain ⟨enabled, -⟩ := law.machine "x" ⟨⟨"x", "1", false, true⟩, by decide, rfl⟩
  have enabled := enabled ⟨"x", "1", true, true⟩
  revert enabled
  decide

end ExtensionRegistry

end KiCore.Extension

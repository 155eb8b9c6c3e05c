import KiCore.Extension.State
import KiCore.Lib.Transition

/-!
# The extension registry

Port of `registry.rs` and of the store behind it (`state.rs`) as one run: loads
(`initialize_with_scan_paths` and `hot_reload`) go on side by side, hook by hook, while users enable and
disable extensions, readers list contributions, the writer saves the maps after a pause, and the process
is started again. What is on disk is arbitrary at each load: a load is given the manifests that are
valid and compatible, in load order. Left out are `onDeactivate` hooks, events, and what a contribution
holds.
-/

namespace KiCore.Extension

open KiCore.Lib

inductive LoadStage where
  /-- with whether there are paths to scan -/
  | scanning (scans : Bool)
  | reading (found : List Manifest)
  /-- the extensions whose hooks have been run, those whose are to come, and the states that were read -/
  | installing (hooked rest : List LoadedExtension) (persisted : States)
  | activating (hooked : List LoadedExtension) (ext : LoadedExtension) (rest : List LoadedExtension)
    (persisted : States)
  | hooked (extensions : List LoadedExtension)
  | stored (extensions : List LoadedExtension)
  | ended

structure Load where
  /-- `initialize`, or a hot reload -/
  initializing : Bool
  stage : LoadStage

structure RegistryInner where
  extensions : List LoadedExtension
  contributions : List Contribution

inductive ReaderStage where
  | listed (userId : String) (extensions : List LoadedExtension)
  /-- with the overrides of the user on it -/
  | overlaid (extensions overlay : List LoadedExtension)
  | ended (extensions overlay : List LoadedExtension) (contributions : List Contribution)

structure Reader where
  /-- how many loads had been committed when the extensions were listed -/
  commits : Nat
  stage : ReaderStage

inductive Writing where
  | idle
  | taken (states : States)
  | both (states : States) (users : UserStates)
  | half (users : UserStates)
  deriving DecidableEq

/-- What has happened to the versions of an extension. -/
inductive LogEntry where
  | installed (name version : String) (ok : Bool)
  /-- with whether the manifest has an install hook -/
  | activated (name version : String) (installs : Bool)
  | stored (name version : String)
  deriving DecidableEq

inductive RegistryEvent where
  /-- the process is started again -/
  | restart
  | initializeWithScanPaths
  | hotReload
  /-- the next step of a load, with what is on disk, and whether a hook or a read succeeds -/
  | advance (n : Nat) (manifests : List Manifest) (ok : Bool)
  | setEnabled (userId name : String) (enabled : Bool)
  | read (userId : String)
  | advanceReader (n : Nat)
  /-- the next step of the writer, and whether it succeeds -/
  | write (ok : Bool)
  | flush

structure ExtensionRegistry where
  file : Option States
  userFile : Option UserStates
  states : States
  userStates : UserStates
  /-- nothing has been read from the files, nor put into the maps -/
  fresh : Bool
  pending : Bool
  writing : Writing
  inner : RegistryInner
  initialized : Bool
  loads : List Load
  readers : List Reader
  /-- what was in the files at first -/
  earlier : States
  /-- what the users have chosen, newest first -/
  choices : UserStates
  /-- newest first -/
  log : List LogEntry
  /-- what loads have committed, newest first -/
  commits : List RegistryInner

namespace ExtensionRegistry

def noInner : RegistryInner where
  extensions := []
  contributions := []

def start (file : Option States) (userFile : Option UserStates) : ExtensionRegistry :=
  { file, userFile, states := [], userStates := .none, fresh := true, pending := false, writing := .idle,
    inner := noInner, initialized := false, loads := [], readers := [], earlier := file.getD [],
    choices := (userFile.getD .none).seed (file.getD []),
    log := (file.getD []).map fun state => .stored state.name state.version, commits := [] }

variable (s : ExtensionRegistry)

def restart : ExtensionRegistry :=
  { s with
    states := [], userStates := .none, fresh := true, pending := false, writing := .idle,
    inner := noInner,
    initialized := false, loads := [], readers := [] }

/-- `load`: the maps are replaced by the files. -/
def loadStates : ExtensionRegistry :=
  { s with
    states := s.file.getD [], userStates := (s.userFile.getD .none).seed (s.file.getD []),
    fresh := false }

def setAll (states : States) : ExtensionRegistry :=
  { s with states, fresh := false, pending := true }

def setUserEnabled (s : ExtensionRegistry) (userId name : String) (enabled : Bool) : ExtensionRegistry :=
  { s with
    userStates := s.userStates.setUserEnabled userId name enabled
    choices := s.choices.setUserEnabled userId name enabled
    fresh := false
    pending := true }

def write (ok : Bool) : ExtensionRegistry :=
  match s.writing with
  | .idle => if s.pending then { s with pending := false, writing := .taken s.states } else s
  | .taken states => { s with writing := .both states s.userStates }
  | .both states users =>
    if ok then { s with file := some states, writing := .half users } else { s with writing := .idle }
  | .half users =>
    if ok then { s with userFile := some users, writing := .idle } else { s with writing := .idle }

def flush : ExtensionRegistry :=
  { s with file := some s.states, userFile := some s.userStates }

variable (n : Nat)

def goTo (stage : LoadStage) : ExtensionRegistry :=
  { s with loads := s.loads.modify n fun load => { load with stage } }

def append (entry : LogEntry) : ExtensionRegistry :=
  { s with log := entry :: s.log }

/-- The next extension, and its install hook if it has to be run. -/
def install (hooked : List LoadedExtension) (ext : LoadedExtension)
    (rest : List LoadedExtension) (persisted : States) (ok : Bool) : ExtensionRegistry :=
  if ext.state.enabled then
    let next := s.goTo n (.activating hooked ext rest persisted)
    if ext.manifest.installs && needsInstallHook ext.manifest.version
        ((persisted.get ext.manifest.name).map ExtensionState.version) then
      next.append (.installed ext.manifest.name ext.manifest.version ok)
    else next
  else s.goTo n (.installing (hooked ++ [ext]) rest persisted)

def activate (hooked : List LoadedExtension) (ext : LoadedExtension)
    (rest : List LoadedExtension) (persisted : States) : ExtensionRegistry :=
  let next := s.goTo n
    (.installing (hooked ++ [{ ext with state := { ext.state with installed := true } }]) rest persisted)
  if ext.manifest.activates then
    next.append (.activated ext.manifest.name ext.manifest.version ext.manifest.installs)
  else next

def store (extensions : List LoadedExtension) : ExtensionRegistry :=
  let next := (s.setAll (buildStateMap extensions)).goTo n (.stored extensions)
  { next with log := (extensions.map fun ext => .stored ext.state.name ext.state.version) ++ next.log }

def commit (initializing : Bool) (extensions : List LoadedExtension) : ExtensionRegistry :=
  let inner := { extensions, contributions := resolveAllInstalledContributions extensions }
  { s.goTo n .ended with
    inner
    initialized := s.initialized || initializing
    commits := inner :: s.commits }

def advance (manifests : List Manifest) (ok : Bool) : ExtensionRegistry :=
  match s.loads[n]? with
  | none => s
  | some load =>
    match load.stage with
    | .scanning scans => s.goTo n (.reading (if scans then loadAll manifests else []))
    | .reading found =>
      if load.initializing && !ok then s.goTo n .ended
      else
        let s := if load.initializing then s.loadStates else s
        s.goTo n (.installing [] (mergePersistedStates s.states (found.map loadSingleExtension)) s.states)
    | .installing hooked [] _ => s.goTo n (.hooked hooked)
    | .installing hooked (ext :: rest) persisted => s.install n hooked ext rest persisted ok
    | .activating hooked ext rest persisted => s.activate n hooked ext rest persisted
    | .hooked extensions => s.store n extensions
    | .stored extensions => s.commit n load.initializing extensions
    | .ended => s

def extensionEnabledForUser (userId name : String) : Bool :=
  match s.userStates.getUserEnabled userId name with
  | some enabled => enabled
  | none => userId ≠ SYSTEM_DEFAULT_USER_ID ||
    (s.inner.extensions.find? fun ext => ext.manifest.name = name).all fun ext => ext.state.enabled

/-- An extension has to be installed, and nothing is stored for what is so already. -/
def setEnabled (userId name : String) (enabled : Bool) : ExtensionRegistry :=
  if s.inner.extensions.any fun ext => ext.manifest.name = name then
    if s.extensionEnabledForUser userId name = enabled then s else s.setUserEnabled userId name enabled
  else s

def overlay (users : UserStates) (userId : String) (extensions : List LoadedExtension) :
    List LoadedExtension :=
  extensions.map fun ext =>
    { ext with state := { ext.state with
      enabled := (users.getUserEnabled userId ext.manifest.name).getD
        (userId ≠ SYSTEM_DEFAULT_USER_ID || ext.state.enabled) } }

def extensionsForUser (userId : String) : List LoadedExtension :=
  overlay s.userStates userId s.inner.extensions

def enabledNames (extensions : List LoadedExtension) : List String :=
  (extensions.filter fun ext => ext.state.enabled).map fun ext => ext.manifest.name

/-- `get_contributions_for_user`, lock by lock. -/
def read (userId : String) : ExtensionRegistry :=
  { s with readers := s.readers ++ [⟨s.commits.length, .listed userId s.inner.extensions⟩] }

def readOn : ReaderStage → ReaderStage
  | .listed userId extensions => .overlaid extensions (overlay s.userStates userId extensions)
  | .overlaid extensions shown =>
    .ended extensions shown (retainContributions s.inner.contributions (enabledNames shown))
  | .ended extensions shown contributions => .ended extensions shown contributions

def advanceReader : ExtensionRegistry :=
  { s with readers := s.readers.modify n fun reader => { reader with stage := s.readOn reader.stage } }

def next : RegistryEvent → ExtensionRegistry
  | .restart => s.restart
  | .initializeWithScanPaths => { s with loads := s.loads ++ [⟨true, .scanning true⟩] }
  | .hotReload => { s with loads := s.loads ++ [⟨false, .scanning s.initialized⟩] }
  | .advance n manifests ok => s.advance n manifests ok
  | .setEnabled userId name enabled => s.setEnabled userId name enabled
  | .read userId => s.read userId
  | .advanceReader n => s.advanceReader n
  | .write ok => s.write ok
  | .flush => s.flush

end ExtensionRegistry

end KiCore.Extension

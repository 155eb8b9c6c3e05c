import KiCore.Lib.Keyed
import KiCore.Lib.Text

/-!
# What an ACP agent advertises

Port of `config_option_catalog.rs`, of the snapshot of `config_options.rs` and of `mode_normalize.rs`. A
config option is kept with what is read of it: its id, its category and, where it is a select, the current
value and the values to choose from. A snapshot is kept down to the ids and the values that its options
offer. Left out are the JSON forms, and the paths on which a value is set.
-/

namespace KiCore.Agent.Acp

open KiCore.Lib
open Str (trim)

inductive SessionConfigOptionCategory where
  | mode
  | model
  | thoughtLevel
  | other (name : String)
  deriving DecidableEq

structure SessionConfigSelectOption where
  value : String
  name : String
  description : Option String

inductive SessionConfigSelectOptions where
  | ungrouped (options : List SessionConfigSelectOption)
  | grouped (groups : List (List SessionConfigSelectOption))
  /-- a form that the client does not know -/
  | other

structure SessionConfigSelect where
  currentValue : String
  options : SessionConfigSelectOptions

inductive SessionConfigKind where
  | select (select : SessionConfigSelect)
  | other

structure SessionConfigOption where
  id : String
  category : Option SessionConfigOptionCategory
  kind : SessionConfigKind

structure SessionMode where
  id : String
  name : String
  description : Option String

structure SessionModeState where
  currentModeId : String
  availableModes : List SessionMode

structure LegacyModelEntry where
  modelId : String
  name : String
  description : Option String

structure LegacySessionModelState where
  currentModelId : String
  availableModels : List LegacyModelEntry

def flattenSelectOptions : SessionConfigSelectOptions → List SessionConfigSelectOption
  | .ungrouped options => options
  | .grouped groups => groups.flatten
  | .other => []

def selectFromKind : SessionConfigKind → Option SessionConfigSelect
  | .select select => some select
  | .other => none

variable (kind : SessionConfigKind)

/-- `select_option_values` -/
def selectOptionValues : List String :=
  (selectFromKind kind).elim [] fun select =>
    (flattenSelectOptions select.options).map SessionConfigSelectOption.value

def selectOptionContainsValue (value : String) : Bool :=
  value ∈ selectOptionValues kind

def extractConfigCurrentValue : Option String :=
  (selectFromKind kind).map SessionConfigSelect.currentValue

variable (options : List SessionConfigOption)

/-- The select of the category comes first, then one of the ids. -/
def findSelect (ids : List String)
    (category : SessionConfigOptionCategory) : Option SessionConfigSelect :=
  (options.findSome? fun option =>
    if option.category = some category then selectFromKind option.kind else none).or
  (options.findSome? fun option => if option.id ∈ ids then selectFromKind option.kind else none)

def nonEmptyOrFirst (current first : String) : String :=
  if current = "" then first else current

def deriveModesFromConfigOptions : Option SessionModeState := do
  let select ← findSelect options ["mode", "modes"] .mode
  let availableModes := (flattenSelectOptions select.options).map fun option =>
    ({ id := option.value, name := option.name, description := option.description } : SessionMode)
  let first ← availableModes.head?
  return { currentModeId := nonEmptyOrFirst select.currentValue first.id, availableModes }

def deriveModelsFromConfigOptions :
    Option LegacySessionModelState := do
  let select ← findSelect options ["model", "models"] .model
  let availableModels := (flattenSelectOptions select.options).map fun option =>
    ({ modelId := option.value, name := option.name, description := option.description } :
      LegacyModelEntry)
  let first ← availableModels.head?
  return { currentModelId := nonEmptyOrFirst select.currentValue first.modelId, availableModels }

def mergeConfigOptions (existing : Option (List SessionConfigOption))
    (incoming : List SessionConfigOption) : List SessionConfigOption :=
  match existing with
  | none => incoming
  | some existing =>
    incoming.foldl (fun merged option =>
      Keyed.upsert SessionConfigOption.id (fun _ new => new) option merged) existing

def configOptionAliasesForCategory : SessionConfigOptionCategory → List String
  | .mode => ["mode", "modes"]
  | .model => ["model", "models"]
  | .thoughtLevel => ["thought_level", "reasoning_effort", "effort", "thinking_budget", "thinking"]
  | .other _ => []

def selectOptionForStartupSeed
    (category : SessionConfigOptionCategory) : Option SessionConfigOption :=
  (options.find? fun option => option.category = some category).or
    (options.find? fun option => option.id ∈ configOptionAliasesForCategory category)

structure AcpConfigOptionDto where
  id : String
  options : List String

abbrev ConfigSnapshot : Type := List AcpConfigOptionDto

def dtoFromSdkOption (option : SessionConfigOption) : AcpConfigOptionDto where
  id := option.id
  options := selectOptionValues option.kind

def dtoFromModes (modes : SessionModeState) : AcpConfigOptionDto where
  id := "mode"
  options := modes.availableModes.map SessionMode.id

def dtoFromModels (models : LegacySessionModelState) : AcpConfigOptionDto where
  id := "model"
  options := models.availableModels.map LegacyModelEntry.modelId

def realOptionMatchesCategoryOrId (option : SessionConfigOption) (category : SessionConfigOptionCategory)
    (optionId : String) : Bool :=
  option.category = some category || option.id = optionId

namespace ConfigSnapshot

def fromLegacyCatalogs (modes : Option SessionModeState) (models : Option LegacySessionModelState) :
    ConfigSnapshot :=
  (modes.map dtoFromModes).toList ++ (models.map dtoFromModels).toList

/-- The catalogue that stands for an option which the agent does not list, if it is not empty. -/
def supplement (options : List SessionConfigOption) (category : SessionConfigOptionCategory)
    (optionId : String) (catalog : Option AcpConfigOptionDto) : Option AcpConfigOptionDto :=
  if options.any fun option => realOptionMatchesCategoryOrId option category optionId then none
  else catalog.filter fun dto => dto.options ≠ []

def fromRealOptionsWithRuntimeSupplements (options : List SessionConfigOption)
    (modes : Option SessionModeState) (models : Option LegacySessionModelState) : ConfigSnapshot :=
  options.map dtoFromSdkOption ++ (supplement options .mode "mode" (modes.map dtoFromModes)).toList ++
    (supplement options .model "model" (models.map dtoFromModels)).toList

def selectableValues (snapshot : ConfigSnapshot) (optionId : String) : List String :=
  (snapshot.find? fun option => option.id = optionId).elim [] AcpConfigOptionDto.options

end ConfigSnapshot

structure AgentMetadata where
  backend : Option String
  yoloId : Option String

def CODEX_CANONICAL_FULL_ACCESS_MODE : String := "agent-full-access"

def CODEX_LEGACY_FULL_ACCESS_MODE : String := "full-access"

variable (metadata : AgentMetadata)

def isCodex : Bool := metadata.backend = some "codex"

def isCodexFullAccessSemanticValue (mode : String) : Bool :=
  mode ∈ [CODEX_CANONICAL_FULL_ACCESS_MODE, CODEX_LEGACY_FULL_ACCESS_MODE, "yolo", "yoloNoSandbox"]

def normalizeRequestedMode (mode : String) : String :=
  let trimmed := trim mode
  if trimmed = "" then ""
  else if isCodex metadata && isCodexFullAccessSemanticValue trimmed then
    metadata.yoloId.getD CODEX_CANONICAL_FULL_ACCESS_MODE
  else if trimmed = "yolo" || trimmed = "yoloNoSandbox" then
    -- without a native id the alias passes through; codex has no other alias here
    metadata.yoloId.getD trimmed
  else if isCodex metadata && (trimmed = "default" || trimmed = "autoEdit") then "auto"
  else trimmed

def normalizeRequestedModeForAvailableValues (mode : String)
    (availableValues : List String) : String :=
  let trimmed := trim mode
  if isCodex metadata && isCodexFullAccessSemanticValue trimmed &&
      CODEX_CANONICAL_FULL_ACCESS_MODE ∈ availableValues then
    CODEX_CANONICAL_FULL_ACCESS_MODE
  else if isCodex metadata && isCodexFullAccessSemanticValue trimmed &&
      CODEX_LEGACY_FULL_ACCESS_MODE ∈ availableValues then
    CODEX_LEGACY_FULL_ACCESS_MODE
  else normalizeRequestedMode metadata mode

end KiCore.Agent.Acp

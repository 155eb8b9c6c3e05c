import KiCore.Cron.NextRun
import KiCore.Lib.Decimal

/-!
# Jobs and their rows

Port of `types.rs`: a job, its row in `cron_jobs`, and the conversions. The column `agent_config` holds
JSON text, and is kept as the object that it denotes. `cronJobFromRow_toRow` shows that a row gives the job
back that it was made from, but for the type of its agent, which has no column.
-/

namespace KiCore.Cron.Jobs

open KiCore.Lib

inductive ExecutionMode where
  | existing
  | newConversation
  deriving DecidableEq

def ExecutionMode.asStr : ExecutionMode → String
  | .existing => "existing"
  | .newConversation => "new_conversation"

def ExecutionMode.fromStr (s : String) : Except CronError ExecutionMode :=
  if s = "existing" then .ok .existing
  else if s = "new_conversation" then .ok .newConversation
  else .error (.invalidExecutionMode s)

inductive CreatedBy where
  | user
  | agent
  deriving DecidableEq

def CreatedBy.asStr : CreatedBy → String
  | .user => "user"
  | .agent => "agent"

def CreatedBy.fromStr (s : String) : Except CronError CreatedBy :=
  if s = "user" then .ok .user
  else if s = "agent" then .ok .agent
  else .error (.invalidCreatedBy s)

inductive JobStatus where
  | ok
  | error
  | skipped
  | missed
  deriving DecidableEq

def JobStatus.asStr : JobStatus → String
  | .ok => "ok"
  | .error => "error"
  | .skipped => "skipped"
  | .missed => "missed"

def JobStatus.fromStr (s : String) : Except CronError JobStatus :=
  if s = "ok" then .ok .ok
  else if s = "error" then .ok .error
  else if s = "skipped" then .ok .skipped
  else if s = "missed" then .ok .missed
  else .error (.invalidJobStatus s)

structure ProviderWithModel where
  providerId : String
  model : String
  useModel : Option String

/-- The entries of `configOptions` have different keys. -/
structure CronAgentConfig where
  name : String
  cliPath : Option String
  isPreset : Option Bool
  assistantId : Option String
  customAgentId : Option String
  mode : Option String
  modelId : Option String
  model : Option ProviderWithModel
  configOptions : Option (List (String × String))
  workspace : Option String
  skillIds : List String
  disabledBuiltinSkillIds : List String
  mcpIds : List String
  excludeAutoInjectSkills : List String

/-- The values in the object of a configuration; the values of an object among them are strings or null. -/
inductive Json where
  | null
  | bool (b : Bool)
  | string (s : String)
  | strings (l : List String)
  | object (fields : List (String × Option String))
  deriving DecidableEq

namespace Json

def asString : Json → Option String
  | .string s => some s
  | _ => none

def asBool : Json → Option Bool
  | .bool b => some b
  | _ => none

def asStrings : Json → Option (List String)
  | .strings l => some l
  | _ => none

def asModel : Json → Option ProviderWithModel
  | .object fields => do
    let providerId ← (fields.lookup "provider_id").join
    let model ← (fields.lookup "model").join
    return { providerId := providerId, model := model, useModel := (fields.lookup "use_model").join }
  | _ => none

def asOptions : Json → Option (List (String × String))
  | .object fields => fields.mapM fun entry => entry.2.map (entry.1, ·)
  | _ => none

def ofModel (model : ProviderWithModel) : Json :=
  .object [("provider_id", some model.providerId), ("model", some model.model),
    ("use_model", model.useModel)]

def ofOptions (options : List (String × String)) : Json :=
  .object (options.map fun entry => (entry.1, some entry.2))

end Json

/-- A field that is left out if it is `None`. -/
def field (key : String) (value : Option Json) : List (String × Json) :=
  (value.map (key, ·)).toList

def optional {α : Type} (decode : Json → Option α) : Option Json → Option (Option α)
  | none | some .null => some none
  | some value => (decode value).map some

namespace CronAgentConfig

def toJson (config : CronAgentConfig) : List (String × Json) :=
  field "name" (some (.string config.name)) ++
  field "cli_path" (config.cliPath.map .string) ++
  field "is_preset" (config.isPreset.map .bool) ++
  field "assistant_id" (config.assistantId.map .string) ++
  field "custom_agent_id" (config.customAgentId.map .string) ++
  field "mode" (config.mode.map .string) ++
  field "model_id" (config.modelId.map .string) ++
  field "model" (config.model.map .ofModel) ++
  field "config_options" (config.configOptions.map .ofOptions) ++
  field "workspace" (config.workspace.map .string) ++
  field "skill_ids" (some (.strings config.skillIds)) ++
  field "disabled_builtin_skill_ids" (some (.strings config.disabledBuiltinSkillIds)) ++
  field "mcp_ids" (some (.strings config.mcpIds)) ++
  field "exclude_auto_inject_skills" (some (.strings config.excludeAutoInjectSkills))

def fromJson (fields : List (String × Json)) : Option CronAgentConfig := do
  let name ← (fields.lookup "name").bind Json.asString
  let cliPath ← optional Json.asString (fields.lookup "cli_path")
  let isPreset ← optional Json.asBool (fields.lookup "is_preset")
  let assistantId ← optional Json.asString (fields.lookup "assistant_id")
  let customAgentId ← optional Json.asString (fields.lookup "custom_agent_id")
  let mode ← optional Json.asString (fields.lookup "mode")
  let modelId ← optional Json.asString (fields.lookup "model_id")
  let model ← optional Json.asModel (fields.lookup "model")
  let configOptions ← optional Json.asOptions (fields.lookup "config_options")
  let workspace ← optional Json.asString (fields.lookup "workspace")
  let skillIds ← (fields.lookup "skill_ids").bind Json.asStrings
  let disabledBuiltinSkillIds ← (fields.lookup "disabled_builtin_skill_ids").bind Json.asStrings
  let mcpIds ← (fields.lookup "mcp_ids").bind Json.asStrings
  let excludeAutoInjectSkills ← (fields.lookup "exclude_auto_inject_skills").bind Json.asStrings
  return { name, cliPath, isPreset, assistantId, customAgentId, mode, modelId, model, configOptions,
           workspace, skillIds, disabledBuiltinSkillIds, mcpIds, excludeAutoInjectSkills }

end CronAgentConfig

variable {key k : String} {value : Option Json} {rest : List (String × Json)}

lemma lookup_field : (field k value ++ rest).lookup key =
    if key == k then value.or (rest.lookup key) else rest.lookup key := by
  cases value <;> cases same : key == k <;> simp [field, List.lookup_cons, same]

lemma lookup_field_last : (field k value).lookup key = if key == k then value else none := by
  have found : (field k value ++ []).lookup key = if key == k then value.or (([] : List _).lookup key)
      else ([] : List _).lookup key := lookup_field
  simpa using found

@[simp] lemma optional_string {v : Option String} : optional Json.asString (v.map .string) = some v := by
  cases v <;> rfl

@[simp] lemma optional_bool {v : Option Bool} : optional Json.asBool (v.map .bool) = some v := by
  cases v <;> rfl

@[simp] lemma optional_model {v : Option ProviderWithModel} :
    optional Json.asModel (v.map .ofModel) = some v := by
  cases v <;> rfl

@[simp] lemma optional_options {v : Option (List (String × String))} :
    optional Json.asOptions (v.map .ofOptions) = some v := by
  cases v with
  | none => rfl
  | some options =>
    have all : (options.map fun entry => (entry.1, some entry.2)).mapM
        (fun entry : String × Option String => entry.2.map (entry.1, ·)) = some options := by
      induction options with
      | nil => rfl
      | cons entry options ih => simp [ih]
    exact congrArg (Option.map some) all

lemma CronAgentConfig.fromJson_toJson (config : CronAgentConfig) :
    CronAgentConfig.fromJson config.toJson = some config := by
  simp [CronAgentConfig.fromJson, CronAgentConfig.toJson, lookup_field, lookup_field_last,
    List.append_assoc, Json.asString, Json.asStrings]

structure CronJob where
  id : String
  userId : String
  name : String
  enabled : Bool
  schedule : CronSchedule
  message : String
  executionMode : ExecutionMode
  agentConfig : Option CronAgentConfig
  conversationId : String
  conversationTitle : Option String
  agentType : String
  createdBy : CreatedBy
  skillContent : Option String
  description : Option String
  createdAt : Int
  updatedAt : Int
  nextRunAt : Option Int
  lastRunAt : Option Int
  lastStatus : Option JobStatus
  lastError : Option String
  runCount : Int
  retryCount : Int
  maxRetries : Int
  queueEnabled : Bool

@[ext] structure CronJobRow where
  id : String
  userId : String
  name : String
  enabled : Bool
  scheduleKind : String
  scheduleValue : String
  scheduleTz : Option String
  scheduleDescription : Option String
  payloadMessage : String
  executionMode : String
  agentConfig : Option (List (String × Json))
  conversationId : String
  conversationTitle : Option String
  createdBy : String
  skillContent : Option String
  description : Option String
  createdAt : Int
  updatedAt : Int
  nextRunAt : Option Int
  lastRunAt : Option Int
  lastStatus : Option String
  lastError : Option String
  runCount : Int
  retryCount : Int
  maxRetries : Int
  queueEnabled : Bool
  deriving DecidableEq

/-- `str::parse::<i64>`. -/
def parseI64 : String → Except String Int :=
  Decimal.parse (-2 ^ 63) (2 ^ 63 - 1)

def parseSchedule (kind value : String) (tz description : Option String) : Except CronError CronSchedule :=
  if kind = "at" then
    match parseI64 value with
    | .ok atMs => .ok (.at_ atMs description)
    | .error e => .error (.invalidSchedule ("invalid at_ms '" ++ value ++ "': " ++ e))
  else if kind = "every" then
    match parseI64 value with
    | .ok everyMs => .ok (.every everyMs description)
    | .error e => .error (.invalidSchedule ("invalid every_ms '" ++ value ++ "': " ++ e))
  else if kind = "cron" then
    .ok (.cron value tz description)
  else
    .error (.invalidSchedule ("unknown schedule kind: " ++ kind))

structure ScheduleFields where
  kind : String
  value : String
  tz : Option String
  description : Option String

def scheduleToRowFields : CronSchedule → ScheduleFields
  | .at_ atMs description => ⟨"at", toString atMs, none, description⟩
  | .every everyMs description => ⟨"every", toString everyMs, none, description⟩
  | .cron expr tz description => ⟨"cron", expr, tz, description⟩

def agentConfigFromColumn : Option (List (String × Json)) → Except CronError (Option CronAgentConfig)
  | none => .ok none
  | some fields =>
    match CronAgentConfig.fromJson fields with
    | some config => .ok (some config)
    | none => .error .json

def lastStatusFromColumn : Option String → Except CronError (Option JobStatus)
  | none => .ok none
  | some status => (JobStatus.fromStr status).map some

def cronJobFromRow (row : CronJobRow) : Except CronError CronJob := do
  let schedule ← parseSchedule row.scheduleKind row.scheduleValue row.scheduleTz row.scheduleDescription
  let executionMode ← ExecutionMode.fromStr row.executionMode
  let createdBy ← CreatedBy.fromStr row.createdBy
  let agentConfig ← agentConfigFromColumn row.agentConfig
  let lastStatus ← lastStatusFromColumn row.lastStatus
  return {
    id := row.id
    userId := row.userId
    name := row.name
    enabled := row.enabled
    schedule := schedule
    message := row.payloadMessage
    executionMode := executionMode
    agentConfig := agentConfig
    conversationId := row.conversationId
    conversationTitle := row.conversationTitle
    agentType := ""
    createdBy := createdBy
    skillContent := row.skillContent
    description := row.description
    createdAt := row.createdAt
    updatedAt := row.updatedAt
    nextRunAt := row.nextRunAt
    lastRunAt := row.lastRunAt
    lastStatus := lastStatus
    lastError := row.lastError
    runCount := row.runCount
    retryCount := row.retryCount
    maxRetries := row.maxRetries
    queueEnabled := row.queueEnabled }

def cronJobToRow (job : CronJob) : CronJobRow :=
  let schedule := scheduleToRowFields job.schedule
  { id := job.id
    userId := job.userId
    name := job.name
    enabled := job.enabled
    scheduleKind := schedule.kind
    scheduleValue := schedule.value
    scheduleTz := schedule.tz
    scheduleDescription := schedule.description
    payloadMessage := job.message
    executionMode := job.executionMode.asStr
    agentConfig := job.agentConfig.map (·.toJson)
    conversationId := job.conversationId
    conversationTitle := job.conversationTitle
    createdBy := job.createdBy.asStr
    skillContent := job.skillContent
    description := job.description
    createdAt := job.createdAt
    updatedAt := job.updatedAt
    nextRunAt := job.nextRunAt
    lastRunAt := job.lastRunAt
    lastStatus := job.lastStatus.map (·.asStr)
    lastError := job.lastError
    runCount := job.runCount
    retryCount := job.retryCount
    maxRetries := job.maxRetries
    queueEnabled := job.queueEnabled }

/-- The instants and intervals of a schedule are values of an `i64`. -/
def InRange : CronSchedule → Prop
  | .at_ atMs _ => InI64 atMs
  | .every everyMs _ => InI64 everyMs
  | .cron _ _ _ => True

@[simp] lemma ExecutionMode.fromStr_asStr {mode : ExecutionMode} :
    ExecutionMode.fromStr mode.asStr = .ok mode := by
  cases mode <;> rfl

@[simp] lemma CreatedBy.fromStr_asStr {createdBy : CreatedBy} :
    CreatedBy.fromStr createdBy.asStr = .ok createdBy := by
  cases createdBy <;> rfl

@[simp] lemma lastStatusFromColumn_asStr {status : Option JobStatus} :
    lastStatusFromColumn (status.map (·.asStr)) = .ok status := by
  cases status with
  | none => rfl
  | some status => cases status <;> rfl

@[simp] lemma agentConfigFromColumn_toJson {config : Option CronAgentConfig} :
    agentConfigFromColumn (config.map (·.toJson)) = .ok config := by
  cases config with
  | none => rfl
  | some config => simp [agentConfigFromColumn, config.fromJson_toJson]

lemma parseI64_toString {n : Int} (range : InI64 n) : parseI64 (toString n) = .ok n :=
  Decimal.parse_toString (by decide) ⟨range.1, Int.le_sub_one_of_lt range.2⟩

lemma parseSchedule_toRowFields {schedule : CronSchedule} (range : InRange schedule) :
    parseSchedule (scheduleToRowFields schedule).kind (scheduleToRowFields schedule).value
      (scheduleToRowFields schedule).tz (scheduleToRowFields schedule).description = .ok schedule := by
  cases schedule with
  | at_ atMs description => simp only [parseSchedule, scheduleToRowFields, parseI64_toString range, if_true]
  | every everyMs description =>
    have other : "every" ≠ "at" := by decide
    simp only [parseSchedule, scheduleToRowFields, parseI64_toString range, if_neg other, if_true]
  | cron expr tz description => rfl

/-- A job is read back from its row, without the type of its agent. -/
theorem cronJobFromRow_toRow {job : CronJob} (range : InRange job.schedule) :
    cronJobFromRow (cronJobToRow job) = .ok { job with agentType := "" } := by
  have schedule := parseSchedule_toRowFields range
  simp only [cronJobFromRow, cronJobToRow, schedule, ExecutionMode.fromStr_asStr, CreatedBy.fromStr_asStr,
    agentConfigFromColumn_toJson, lastStatusFromColumn_asStr]
  rfl

end KiCore.Cron.Jobs

import KiCore.Cron.Jobs.Row
import KiCore.Lib.Table

/-!
# Updating a job

Port of `update_job` and `get_job` of `service.rs`, with `update_inner` of `sqlite_cron.rs`. The job that is
returned is edited in memory; what is stored goes through an `UpdateCronJobParams` of its own. What the
service asks of conversations, assistants and the file system is a parameter (`Environment`).

`update_reads_back_iff` says for which requests the stored row is the row of the returned job.
-/

namespace KiCore.Cron.Jobs

open KiCore.Lib

open Str (trim)

inductive CronScheduleDto where
  | at_ (atMs : Int) (description : Option String)
  | every (everyMs : Int) (description : Option String)
  | cron (expr : String) (tz : Option String) (description : Option String)
  deriving DecidableEq

structure CronAgentConfigWriteDto where
  name : String
  cliPath : Option String
  assistantId : Option String
  mode : Option String
  modelId : Option String
  model : Option ProviderWithModel
  configOptions : Option (List (String × String))
  workspace : Option String
  skillIds : List String
  disabledBuiltinSkillIds : List String
  mcpIds : List String
  excludeAutoInjectSkills : List String

structure UpdateCronJobRequest where
  name : Option String := none
  description : Option String := none
  enabled : Option Bool := none
  schedule : Option CronScheduleDto := none
  message : Option String := none
  executionMode : Option String := none
  agentConfig : Option CronAgentConfigWriteDto := none
  conversationTitle : Option String := none
  maxRetries : Option Int := none
  queueEnabled : Option Bool := none

/-- The columns that an update sets. A column that may be null has two layers. -/
structure UpdateCronJobParams where
  name : Option String := none
  enabled : Option Bool := none
  scheduleKind : Option String := none
  scheduleValue : Option String := none
  scheduleTz : Option (Option String) := none
  scheduleDescription : Option (Option String) := none
  payloadMessage : Option String := none
  executionMode : Option String := none
  agentConfig : Option (Option (List (String × Json))) := none
  conversationId : Option String := none
  conversationTitle : Option (Option String) := none
  skillContent : Option (Option String) := none
  description : Option (Option String) := none
  nextRunAt : Option (Option Int) := none
  lastRunAt : Option (Option Int) := none
  lastStatus : Option (Option String) := none
  lastError : Option (Option String) := none
  runCount : Option Int := none
  retryCount : Option Int := none
  queueEnabled : Option Bool := none
  deriving DecidableEq

/-- What the service learns from outside the table of jobs. -/
structure Environment where
  lib : CronCrate
  /-- `compute_next_run`: what it returns where its sum overflows depends on the build. -/
  computeNextRun : CronSchedule → Int → Option Int
  resolveAgentTypeForAssistantId : (userId assistantId : String) → Except CronError String
  resolveAssistantBackend : (userId assistantId : String) → Except CronError (Option String)
  resolveCronFullAutoMode : (userId runtimeAgentType assistantId backend : String) → Except CronError String
  isTeamConversation : (conversationId : String) → Except CronError Bool
  autoWorkspaceToDelete : (userId conversationId : String) → Except CronError (Option String)
  workspaceMatchesPath : (workspace path : String) → Bool
  validateJobWorkspace : CronJob → Except CronError Unit

def scheduleFromDto : CronScheduleDto → CronSchedule
  | .at_ atMs description => .at_ atMs description
  | .every everyMs description => .every everyMs description
  | .cron expr tz description => .cron expr tz description

def scheduleFromDtoWithExistingTimezone (dto : CronScheduleDto) (existing : CronSchedule) : CronSchedule :=
  match dto with
  | .cron expr tz description =>
    .cron expr (tz.or (match existing with | .cron _ tz _ => tz | _ => none)) description
  | dto => scheduleFromDto dto

def parseExecutionMode : Option String → Except CronError ExecutionMode
  | none => .ok .existing
  | some s => if s = "existing" then .ok .existing else ExecutionMode.fromStr s

def sanitizeStringList (values : List String) : List String :=
  values.foldl (fun sanitized value =>
    if trim value ≠ "" ∧ trim value ∉ sanitized then sanitized ++ [trim value] else sanitized) []

def sanitizeAgentConfigDto (config : CronAgentConfigWriteDto) : CronAgentConfigWriteDto :=
  { config with
    assistantId := (config.assistantId.map trim).filter (· ≠ "")
    skillIds := sanitizeStringList config.skillIds
    disabledBuiltinSkillIds := sanitizeStringList config.disabledBuiltinSkillIds
    mcpIds := sanitizeStringList config.mcpIds
    excludeAutoInjectSkills := sanitizeStringList config.excludeAutoInjectSkills }

def aionrsModelRequired : CronError :=
  .invalidAgentConfig "aionrs cron jobs require agent_config.model.provider_id and agent_config.model.model"

def normalizeModel (model : Option ProviderWithModel) (runtimeAgentType : String) :
    Except CronError (Option ProviderWithModel) :=
  match model with
  | none => .ok none
  | some model =>
    let model : ProviderWithModel :=
      { providerId := trim model.providerId
        model := trim model.model
        useModel := (model.useModel.map trim).filter (· ≠ "") }
    if runtimeAgentType = "aionrs" ∧ (model.providerId = "" ∨ model.model = "") then
      .error aionrsModelRequired
    else if model.providerId = "" ∨ model.model = "" then
      .ok none
    else
      .ok (some model)

def validateAionrsAgentConfig (agentType : String) (config : CronAgentConfigWriteDto) :
    Except CronError Unit :=
  if agentType ≠ "aionrs" then .ok ()
  else if config.model.any fun model => trim model.providerId ≠ "" ∧ trim model.model ≠ "" then .ok ()
  else .error aionrsModelRequired

namespace Environment

variable (env : Environment)

def buildCronAgentConfig (userId runtimeAgentType : String) (config : CronAgentConfigWriteDto) :
    Except CronError CronAgentConfig :=
  match config.assistantId.filter (trim · ≠ "") with
  | none => .error (.invalidAgentConfig "assistant_id is required for cron jobs")
  | some assistantId => do
    match ← env.resolveAssistantBackend userId assistantId with
    | none =>
      throw (.invalidAgentConfig ("assistant '" ++ assistantId ++ "' could not resolve a runtime backend"))
    | some backend =>
      let mode ← env.resolveCronFullAutoMode userId runtimeAgentType assistantId backend
      let model ← normalizeModel config.model runtimeAgentType
      return {
        name := config.name
        cliPath := config.cliPath
        isPreset := none
        assistantId := config.assistantId
        customAgentId := none
        mode := some mode
        modelId := config.modelId
        model := model
        configOptions := config.configOptions
        workspace := config.workspace
        skillIds := config.skillIds
        disabledBuiltinSkillIds := config.disabledBuiltinSkillIds
        mcpIds := config.mcpIds
        excludeAutoInjectSkills := config.excludeAutoInjectSkills }

def resolveNewJobAgentType (userId : String) (config : CronAgentConfigWriteDto) : Except CronError String :=
  match config.assistantId with
  | none => .error (.invalidAgentConfig "assistant_id is required for new cron jobs")
  | some assistantId => env.resolveAgentTypeForAssistantId userId assistantId

variable (job : CronJob)

def resolveJobAgentType : Except CronError String :=
  if trim job.agentType ≠ "" then
    .ok job.agentType
  else
    let assistantId := job.agentConfig.bind fun config => config.assistantId.or config.customAgentId
    match assistantId.filter (trim · ≠ "") with
    | none => .error (.invalidAgentConfig "assistant_id is required for cron jobs")
    | some assistantId => env.resolveAgentTypeForAssistantId job.userId assistantId

def isTeamConversationJob : Except CronError Bool :=
  if trim job.conversationId = "" then .ok false else env.isTeamConversation (trim job.conversationId)

/-- The configuration forgets its workspace if that is the one of the conversation that the job leaves. -/
def clearAutoWorkspaceFromJobConfig (conversationId : String) : CronJob × Bool :=
  match job.agentConfig with
  | none => (job, false)
  | some config =>
    match config.workspace with
    | none => (job, false)
    | some workspace =>
      match env.autoWorkspaceToDelete job.userId conversationId with
      | .ok (some path) =>
        if env.workspaceMatchesPath workspace path then
          ({ job with agentConfig := some { config with workspace := none } }, true)
        else
          (job, false)
      | .ok none => (job, false)
      | .error _ => (job, false)

def updateSchedule (req : UpdateCronJobRequest) : Except CronError CronSchedule :=
  match req.schedule with
  | none => .ok job.schedule
  | some dto => do
    let schedule := scheduleFromDtoWithExistingTimezone dto job.schedule
    env.lib.validateSchedule schedule
    return schedule

def updateExecutionMode (req : UpdateCronJobRequest) : Except CronError ExecutionMode :=
  match req.executionMode with
  | none => .ok job.executionMode
  | some mode => do
    let requestedMode ← parseExecutionMode (some mode)
    if requestedMode = job.executionMode then
      return requestedMode
    else do
      match ← env.isTeamConversationJob job with
      | true =>
        throw (.invalidExecutionMode "Team cron jobs must keep running in their owning Team conversation")
      | false => return requestedMode

def updateAgentConfig (mode : ExecutionMode) (req : UpdateCronJobRequest) :
    Except CronError (String × Option CronAgentConfig) :=
  match req.agentConfig with
  | none => .ok (job.agentType, job.agentConfig)
  | some config =>
    if job.executionMode = .existing ∨ mode = .existing then
      .error (.invalidAgentConfig "ongoing conversation jobs must keep their original assistant")
    else do
      let config := sanitizeAgentConfigDto config
      let agentType ← env.resolveNewJobAgentType job.userId config
      validateAionrsAgentConfig agentType config
      let agentConfig ← env.buildCronAgentConfig job.userId agentType config
      return (agentType, some agentConfig)

end Environment

variable (job : CronJob)

/-- A job leaves its conversation when it goes over to new ones. -/
def clearsConversationBinding (mode : ExecutionMode) : Bool :=
  mode ≠ job.executionMode ∧ mode = .newConversation

def buildUpdateParams (req : UpdateCronJobRequest) : UpdateCronJobParams :=
  let schedule := req.schedule.map fun _ => scheduleToRowFields job.schedule
  { name := req.name
    enabled := req.enabled
    scheduleKind := schedule.map (·.kind)
    scheduleValue := schedule.map (·.value)
    scheduleTz := schedule.map (·.tz)
    scheduleDescription := schedule.map (·.description)
    payloadMessage := req.message
    executionMode := req.executionMode
    agentConfig := req.agentConfig.bind fun _ => job.agentConfig.map fun config => some config.toJson
    conversationTitle := req.conversationTitle.map some
    description := req.description.map some
    nextRunAt := if req.schedule.isSome ∨ req.enabled.isSome then some job.nextRunAt else none
    queueEnabled := req.queueEnabled }

def Environment.editFields (env : Environment) (job : CronJob) (req : UpdateCronJobRequest)
    (schedule : CronSchedule) (mode : ExecutionMode) (agent : String × Option CronAgentConfig)
    (nextRunNow updatedNow : Int) : CronJob :=
  { job with
    name := req.name.getD job.name
    description := req.description.or job.description
    enabled := req.enabled.getD job.enabled
    schedule := schedule
    message := req.message.getD job.message
    executionMode := mode
    agentType := agent.1
    agentConfig := agent.2
    conversationTitle :=
      if clearsConversationBinding job mode then job.conversationTitle
      else req.conversationTitle.or job.conversationTitle
    maxRetries := req.maxRetries.getD job.maxRetries
    queueEnabled := req.queueEnabled.getD job.queueEnabled
    nextRunAt :=
      if req.schedule.isSome ∨ req.enabled.isSome then env.computeNextRun schedule nextRunNow
      else job.nextRunAt
    updatedAt := updatedNow }

/-- The edited job, and whether its configuration has lost its workspace. -/
def Environment.edited (env : Environment) (job : CronJob) (req : UpdateCronJobRequest)
    (schedule : CronSchedule) (mode : ExecutionMode) (agent : String × Option CronAgentConfig)
    (nextRunNow updatedNow : Int) : CronJob × Bool :=
  let edited := env.editFields job req schedule mode agent nextRunNow updatedNow
  if clearsConversationBinding job mode then
    env.clearAutoWorkspaceFromJobConfig edited job.conversationId
  else
    (edited, false)

/-- The columns that `update_job` sets. -/
def updateParams (req : UpdateCronJobRequest) (clears agentConfigChanged : Bool) :
    UpdateCronJobParams :=
  let params := buildUpdateParams job req
  { params with
    conversationTitle := if clears then some none else params.conversationTitle
    agentConfig :=
      if agentConfigChanged then some (job.agentConfig.map (·.toJson)) else params.agentConfig }

def Environment.editJob (env : Environment) (job : CronJob) (req : UpdateCronJobRequest)
    (nextRunNow updatedNow : Int) : Except CronError (CronJob × UpdateCronJobParams) := do
  let agentType ← env.resolveJobAgentType job
  let job := { job with agentType := agentType }
  let schedule ← env.updateSchedule job req
  let mode ← env.updateExecutionMode job req
  let agent ← env.updateAgentConfig job mode req
  let edited := env.edited job req schedule mode agent nextRunNow updatedNow
  env.validateJobWorkspace edited.1
  return (edited.1, updateParams edited.1 req (clearsConversationBinding job mode) edited.2)

/-- The rows of `cron_jobs` by their primary key. -/
abbrev Repo : Type := Table String CronJobRow

def Repo.getByIdForUser (repo : Repo) (userId id : String) : Option CronJobRow :=
  (repo[id]?).filter (·.userId = userId)

/-- A row after an `UPDATE` with these parts. -/
def CronJobRow.set (row : CronJobRow) (params : UpdateCronJobParams) (now : Int) : CronJobRow :=
  { row with
    name := params.name.getD row.name
    enabled := params.enabled.getD row.enabled
    scheduleKind := params.scheduleKind.getD row.scheduleKind
    scheduleValue := params.scheduleValue.getD row.scheduleValue
    scheduleTz := params.scheduleTz.getD row.scheduleTz
    scheduleDescription := params.scheduleDescription.getD row.scheduleDescription
    payloadMessage := params.payloadMessage.getD row.payloadMessage
    executionMode := params.executionMode.getD row.executionMode
    agentConfig := params.agentConfig.getD row.agentConfig
    conversationId := params.conversationId.getD row.conversationId
    conversationTitle := params.conversationTitle.getD row.conversationTitle
    skillContent := params.skillContent.getD row.skillContent
    description := params.description.getD row.description
    nextRunAt := params.nextRunAt.getD row.nextRunAt
    lastRunAt := params.lastRunAt.getD row.lastRunAt
    lastStatus := params.lastStatus.getD row.lastStatus
    lastError := params.lastError.getD row.lastError
    runCount := params.runCount.getD row.runCount
    retryCount := params.retryCount.getD row.retryCount
    queueEnabled := params.queueEnabled.getD row.queueEnabled
    updatedAt := now }

/-- `update_inner` for a user: without parts nothing is done. -/
def Repo.updateForUser (repo : Repo) (userId id : String) (params : UpdateCronJobParams) (now : Int) :
    Except CronError Repo :=
  if params = {} then
    .ok repo
  else
    match repo.getByIdForUser userId id with
    | none => .error (.database ("Record not found: cron job '" ++ id ++ "'"))
    | some row => .ok (repo.insert id (row.set params now))

namespace Environment

variable (env : Environment)

def updateJob (repo : Repo) (userId jobId : String) (req : UpdateCronJobRequest)
    (nextRunNow updatedNow storedNow : Int) : Except CronError (CronJob × Repo) :=
  match repo.getByIdForUser userId jobId with
  | none => .error (.jobNotFound jobId)
  | some row => do
    let job ← cronJobFromRow row
    let (job, params) ← env.editJob job req nextRunNow updatedNow
    let repo ← repo.updateForUser userId jobId params storedNow
    return (job, repo)

def getJob (repo : Repo) (userId jobId : String) : Except CronError CronJob :=
  match repo.getByIdForUser userId jobId with
  | none => .error (.jobNotFound jobId)
  | some row => do
    let job ← cronJobFromRow row
    let agentType ← env.resolveJobAgentType job
    return { job with agentType := agentType }

end Environment

/-- The stored row is the row of the job, and the job is what is read from it. -/
structure ReadsBack (env : Environment) (repo : Repo) (userId jobId : String) (job : CronJob) : Prop where
  row : ∃ row, repo[jobId]? = some row ∧ { row with updatedAt := job.updatedAt } = cronJobToRow job
  get : ∃ updatedAt, env.getJob repo userId jobId = .ok { job with updatedAt := updatedAt }

/-- The request leaves the number of retries as it is, and a job that leaves its conversation has no title
for it. -/
def Keeps (job : CronJob) (req : UpdateCronJobRequest) : Prop :=
  req.maxRetries.getD job.maxRetries = job.maxRetries ∧
    (req.executionMode = some "new_conversation" → job.executionMode = .existing →
      job.conversationTitle = none)

/-- The fields of a request are those of an `i64`. -/
def UpdateCronJobRequest.InRange (req : UpdateCronJobRequest) : Prop :=
  ∀ dto, req.schedule = some dto → Jobs.InRange (scheduleFromDto dto)

variable {env : Environment} {job edited : CronJob} {req : UpdateCronJobRequest} {mode : ExecutionMode}
  {schedule : CronSchedule} {agent : String × Option CronAgentConfig} {nextRunNow updatedNow now : Int}
  {repo : Repo} {userId jobId : String} {params : UpdateCronJobParams} {changed : Bool}

lemma bind_eq_ok {ε α β : Type} {x : Except ε α} {f : α → Except ε β} {b : β} :
    x >>= f = .ok b ↔ ∃ a, x = .ok a ∧ f a = .ok b := by
  cases x with
  | error e => exact ⟨fun h => absurd h (by simp [bind, Except.bind]), fun ⟨_, h, _⟩ => absurd h (by simp)⟩
  | ok a => exact ⟨fun h => ⟨a, rfl, h⟩, fun ⟨_, h, h'⟩ => Except.ok.inj h ▸ h'⟩

lemma parseExecutionMode_ok {s : String} (ok : parseExecutionMode (some s) = .ok mode) :
    s = mode.asStr := by
  simp only [parseExecutionMode, ExecutionMode.fromStr] at ok
  split_ifs at ok <;> cases ok <;> assumption

lemma updateExecutionMode_ok (ok : env.updateExecutionMode job req = .ok mode) :
    req.executionMode.getD job.executionMode.asStr = mode.asStr := by
  unfold Environment.updateExecutionMode at ok
  cases named : req.executionMode with
  | none =>
    rw [named] at ok
    cases ok
    rfl
  | some s =>
    rw [named] at ok
    obtain ⟨requested, parsed, ok⟩ := bind_eq_ok.mp ok
    rw [Option.getD_some, parseExecutionMode_ok parsed]
    split_ifs at ok
    · cases ok
      rfl
    · obtain ⟨team, _, ok⟩ := bind_eq_ok.mp ok
      cases team with
      | true => cases ok
      | false => cases ok; rfl

lemma updateSchedule_ok (ok : env.updateSchedule job req = .ok schedule) :
    (req.schedule = none → schedule = job.schedule) ∧
      (InRange job.schedule → req.InRange → InRange schedule) := by
  unfold Environment.updateSchedule at ok
  cases named : req.schedule with
  | none =>
    rw [named] at ok
    cases ok
    exact ⟨fun _ => rfl, fun range _ => range⟩
  | some dto =>
    rw [named] at ok
    obtain ⟨_, _, ok⟩ := bind_eq_ok.mp ok
    cases ok
    refine ⟨fun absent => absurd absent (by simp), fun _ range => ?_⟩
    cases dto with
    | at_ atMs description => exact range _ named
    | every everyMs description => exact range _ named
    | cron expr tz description => trivial

def assistant (config : Option CronAgentConfig) : Option String :=
  config.bind fun config => config.assistantId.or config.customAgentId

lemma resolveJobAgentType_congr {job' : CronJob} (user : job'.userId = job.userId)
    (read : job.agentType = "") (read' : job'.agentType = "")
    (same : assistant job'.agentConfig = assistant job.agentConfig) :
    env.resolveJobAgentType job' = env.resolveJobAgentType job := by
  unfold Environment.resolveJobAgentType
  unfold assistant at same
  rw [read, read', user, same]

lemma buildCronAgentConfig_ok {agentType : String} {config : CronAgentConfigWriteDto}
    {agentConfig : CronAgentConfig}
    (built : env.buildCronAgentConfig userId agentType config = .ok agentConfig) :
    ∃ id, trim id ≠ "" ∧ config.assistantId = some id ∧ assistant (some agentConfig) = some id := by
  unfold Environment.buildCronAgentConfig at built
  cases named : config.assistantId.filter (trim · ≠ "") with
  | none =>
    rw [named] at built
    cases built
  | some id =>
    rw [named] at built
    obtain ⟨own, filled⟩ := Option.filter_eq_some_iff.mp named
    refine ⟨id, by simpa using filled, own, ?_⟩
    obtain ⟨backend, _, built⟩ := bind_eq_ok.mp built
    cases backend with
    | none => cases built
    | some backend =>
      obtain ⟨_, _, built⟩ := bind_eq_ok.mp built
      obtain ⟨_, _, built⟩ := bind_eq_ok.mp built
      cases built
      simp [assistant, own]

lemma updateAgentConfig_ok (job : CronJob) {agentType : String} {job' : CronJob} (read : job.agentType = "")
    (resolved : env.resolveJobAgentType job = .ok agentType)
    (ok : env.updateAgentConfig { job with agentType := agentType } mode req = .ok agent)
    (user : job'.userId = job.userId) (read' : job'.agentType = "")
    (same : assistant job'.agentConfig = assistant agent.2) :
    env.resolveJobAgentType job' = .ok agent.1 := by
  unfold Environment.updateAgentConfig at ok
  cases named : req.agentConfig with
  | none =>
    rw [named] at ok
    cases ok
    exact (resolveJobAgentType_congr user read read' same).trans resolved
  | some config =>
    rw [named] at ok
    dsimp only at ok
    split_ifs at ok
    obtain ⟨newType, resolved', ok⟩ := bind_eq_ok.mp ok
    obtain ⟨_, _, ok⟩ := bind_eq_ok.mp ok
    obtain ⟨agentConfig, built, ok⟩ := bind_eq_ok.mp ok
    cases ok
    obtain ⟨id, filled, own, stored⟩ := buildCronAgentConfig_ok built
    rw [Environment.resolveNewJobAgentType, own] at resolved'
    have chosen : (job'.agentConfig.bind fun config => config.assistantId.or config.customAgentId).filter
        (trim · ≠ "") = some id :=
      Option.filter_eq_some_iff.mpr ⟨same.trans stored, by simpa using filled⟩
    have blank : ¬ trim job'.agentType ≠ "" := by
      rw [read']
      decide
    rw [Environment.resolveJobAgentType, if_neg blank]
    simp only [chosen, user]
    exact resolved'

lemma clearAutoWorkspace_cases (env : Environment) (job : CronJob) (conversationId : String) :
    env.clearAutoWorkspaceFromJobConfig job conversationId = (job, false) ∨
      ∃ config, job.agentConfig = some config ∧ env.clearAutoWorkspaceFromJobConfig job conversationId =
        ({ job with agentConfig := some { config with workspace := none } }, true) := by
  unfold Environment.clearAutoWorkspaceFromJobConfig
  split
  · exact .inl rfl
  next config some =>
    split
    · exact .inl rfl
    · split
      · split_ifs
        · exact .inr ⟨config, some, rfl⟩
        · exact .inl rfl
      · exact .inl rfl
      · exact .inl rfl

lemma updateAgentConfig_column (ok : env.updateAgentConfig job mode req = .ok agent) :
    (req.agentConfig = none → agent.2 = job.agentConfig) ∧ (req.agentConfig.isSome → agent.2.isSome) := by
  unfold Environment.updateAgentConfig at ok
  cases named : req.agentConfig with
  | none =>
    rw [named] at ok
    cases ok
    exact ⟨fun _ => rfl, fun h => by simp at h⟩
  | some config =>
    rw [named] at ok
    dsimp only at ok
    split_ifs at ok
    obtain ⟨_, _, ok⟩ := bind_eq_ok.mp ok
    obtain ⟨_, _, ok⟩ := bind_eq_ok.mp ok
    obtain ⟨_, _, ok⟩ := bind_eq_ok.mp ok
    cases ok
    exact ⟨fun h => by simp at h, fun _ => rfl⟩

lemma edited_cases
    (edits : env.edited job req schedule mode agent nextRunNow updatedNow = (edited, changed)) :
    ∃ config, edited = { env.editFields job req schedule mode agent nextRunNow updatedNow with
        agentConfig := config } ∧
      assistant config = assistant agent.2 ∧ (changed = false → config = agent.2) := by
  unfold Environment.edited at edits
  dsimp only at edits
  split_ifs at edits
  · rcases clearAutoWorkspace_cases env
      (env.editFields job req schedule mode agent nextRunNow updatedNow) job.conversationId with
      kept | ⟨config, named, cleared⟩
    · rw [kept] at edits
      cases edits
      exact ⟨agent.2, rfl, rfl, fun _ => rfl⟩
    · rw [cleared] at edits
      cases edits
      have named : agent.2 = some config := named
      exact ⟨some { config with workspace := none }, rfl, by rw [named]; rfl, fun kept => by cases kept⟩
  · cases edits
    exact ⟨agent.2, rfl, rfl, fun _ => rfl⟩

lemma getD_agentConfig (configured : env.updateAgentConfig job mode req = .ok agent)
    {config : Option CronAgentConfig} (kept : changed = false → config = agent.2) :
    (if changed then some (config.map (·.toJson))
      else req.agentConfig.bind fun _ => config.map fun config => some config.toJson).getD
        (job.agentConfig.map (·.toJson)) = config.map (·.toJson) := by
  obtain ⟨absent, present⟩ := updateAgentConfig_column configured
  cases changed with
  | true => rfl
  | false =>
    rw [kept rfl]
    cases named : req.agentConfig with
    | none =>
      rw [absent named]
      rfl
    | some dto =>
      obtain ⟨config', e⟩ := Option.isSome_iff_exists.mp (present (by rw [named]; rfl))
      rw [e]
      rfl

lemma getD_schedule {α : Type} (column : ScheduleFields → α)
    (scheduled : env.updateSchedule job req = .ok schedule) :
    ((req.schedule.map fun _ => scheduleToRowFields schedule).map column).getD
      (column (scheduleToRowFields job.schedule)) = column (scheduleToRowFields schedule) := by
  cases named : req.schedule with
  | none => rw [(updateSchedule_ok scheduled).1 named]; rfl
  | some dto => rfl

lemma getD_nextRunAt {rescheduled : Prop} [Decidable rescheduled] {next stored : Option Int} :
    (if rescheduled then some (if rescheduled then next else stored) else none).getD stored =
      if rescheduled then next else stored := by
  split_ifs <;> rfl

lemma set_updateParams (job : CronJob) (scheduled : env.updateSchedule job req = .ok schedule)
    (named : env.updateExecutionMode job req = .ok mode)
    (configured : env.updateAgentConfig job mode req = .ok agent)
    (edits : env.edited job req schedule mode agent nextRunNow updatedNow = (edited, changed)) :
    { (cronJobToRow job).set (updateParams edited req (clearsConversationBinding job mode) changed) now with
        updatedAt := updatedNow } =
      { cronJobToRow edited with
        conversationTitle := if clearsConversationBinding job mode then none else edited.conversationTitle
        maxRetries := job.maxRetries } := by
  obtain ⟨config, rfl, _, kept⟩ := edited_cases edits
  ext : 1
  case scheduleKind => exact getD_schedule (·.kind) scheduled
  case scheduleValue => exact getD_schedule (·.value) scheduled
  case scheduleTz => exact getD_schedule (·.tz) scheduled
  case scheduleDescription => exact getD_schedule (·.description) scheduled
  case executionMode => exact updateExecutionMode_ok named
  case agentConfig => exact getD_agentConfig configured kept
  case conversationTitle =>
    show (if clearsConversationBinding job mode then some none else req.conversationTitle.map some).getD
      job.conversationTitle = if clearsConversationBinding job mode then none else
        if clearsConversationBinding job mode then job.conversationTitle
        else req.conversationTitle.or job.conversationTitle
    split_ifs
    · rfl
    · cases req.conversationTitle <;> rfl
  case description =>
    show (req.description.map some).getD job.description = req.description.or job.description
    cases req.description <;> rfl
  case nextRunAt =>
    exact getD_nextRunAt
  all_goals rfl

lemma clearsConversationBinding_iff (named : env.updateExecutionMode job req = .ok mode) :
    clearsConversationBinding job mode = true ↔
      req.executionMode = some "new_conversation" ∧ job.executionMode = .existing := by
  have text := updateExecutionMode_ok named
  cases requested : req.executionMode with
  | none =>
    rw [requested] at text
    have kept : mode = job.executionMode := by
      cases mode <;> cases e : job.executionMode <;> simp_all [ExecutionMode.asStr]
    simp [clearsConversationBinding, kept]
  | some s =>
    rw [requested, Option.getD_some] at text
    subst text
    cases mode <;> cases e : job.executionMode <;> simp [clearsConversationBinding, ExecutionMode.asStr, e]

lemma keeps_iff (named : env.updateExecutionMode job req = .ok mode)
    (edits : env.edited job req schedule mode agent nextRunNow updatedNow = (edited, changed)) :
    { cronJobToRow edited with
      conversationTitle := if clearsConversationBinding job mode then none else edited.conversationTitle
      maxRetries := job.maxRetries } = cronJobToRow edited ↔ Keeps job req := by
  have clears := clearsConversationBinding_iff named
  obtain ⟨config, rfl, _, _⟩ := edited_cases edits
  constructor
  · intro same
    have retries : job.maxRetries = req.maxRetries.getD job.maxRetries :=
      congrArg CronJobRow.maxRetries same
    refine ⟨retries.symm, fun requested existing => ?_⟩
    have leaves := clears.mpr ⟨requested, existing⟩
    have title : (if clearsConversationBinding job mode then none else _) =
        if clearsConversationBinding job mode then job.conversationTitle else _ :=
      congrArg CronJobRow.conversationTitle same
    rw [if_pos leaves, if_pos leaves] at title
    exact title.symm
  · rintro ⟨retries, title⟩
    ext : 1
    case conversationTitle =>
      show (if clearsConversationBinding job mode then none
        else if clearsConversationBinding job mode then job.conversationTitle
          else req.conversationTitle.or job.conversationTitle) =
        if clearsConversationBinding job mode then job.conversationTitle
          else req.conversationTitle.or job.conversationTitle
      split_ifs with leaves
      · obtain ⟨requested, existing⟩ := clears.mp leaves
        exact (title requested existing).symm
      · rfl
    case maxRetries => exact retries.symm
    all_goals rfl

lemma getJob_of_row {row : CronJobRow} (found : repo[jobId]? = some row) (own : row.userId = userId)
    (same : { row with updatedAt := edited.updatedAt } = cronJobToRow edited)
    (range : InRange edited.schedule)
    (read : env.resolveJobAgentType { edited with agentType := "", updatedAt := row.updatedAt } =
      .ok edited.agentType) :
    env.getJob repo userId jobId = .ok { edited with updatedAt := row.updatedAt } := by
  have whole : row = cronJobToRow { edited with updatedAt := row.updatedAt } :=
    congrArg (fun same : CronJobRow => { same with updatedAt := row.updatedAt }) same
  have read' : cronJobFromRow row = .ok { edited with agentType := "", updatedAt := row.updatedAt } := by
    rw [whole]
    exact cronJobFromRow_toRow range
  unfold Environment.getJob Repo.getByIdForUser
  rw [found, Option.filter_some, if_pos (by simpa using own)]
  simp only [read', bind, Except.bind, read]
  rfl

lemma updateForUser_ok {repo' : Repo} {row : CronJobRow} (updatedNow : Int)
    (found : repo[jobId]? = some row) (ok : repo.updateForUser userId jobId params now = .ok repo') :
    ∃ row', repo'[jobId]? = some row' ∧ row'.userId = row.userId ∧
      { row' with updatedAt := updatedNow } = { row.set params now with updatedAt := updatedNow } := by
  unfold Repo.updateForUser at ok
  split_ifs at ok with none
  · cases ok
    exact ⟨row, found, rfl, by rw [none]; rfl⟩
  · cases mine : repo.getByIdForUser userId jobId with
    | none =>
      rw [mine] at ok
      cases ok
    | some row' =>
      rw [mine] at ok
      cases ok
      have same : row' = row :=
        Option.some.inj ((Option.filter_eq_some_iff.mp mine).1.symm.trans found)
      exact ⟨row.set params now, by rw [Table.get_insert, if_pos rfl, same], rfl, rfl⟩

lemma updateJob_ok {stored : CronJob} {repo' : Repo} {storedNow : Int} (range : InRange stored.schedule)
    (found : repo[jobId]? = some (cronJobToRow stored))
    (accepted : env.updateJob repo userId jobId req nextRunNow updatedNow storedNow = .ok (edited, repo')) :
    ∃ agentType schedule mode agent changed,
      stored.userId = userId ∧
      env.resolveJobAgentType { stored with agentType := "" } = .ok agentType ∧
      env.updateSchedule { stored with agentType := agentType } req = .ok schedule ∧
      env.updateExecutionMode { stored with agentType := agentType } req = .ok mode ∧
      env.updateAgentConfig { stored with agentType := agentType } mode req = .ok agent ∧
      env.edited { stored with agentType := agentType } req schedule mode agent nextRunNow updatedNow =
        (edited, changed) ∧
      repo.updateForUser userId jobId
        (updateParams edited req
          (clearsConversationBinding { stored with agentType := agentType } mode) changed)
        storedNow = .ok repo' := by
  unfold Environment.updateJob at accepted
  cases mine : repo.getByIdForUser userId jobId with
  | none =>
    rw [mine] at accepted
    cases accepted
  | some row =>
    rw [mine] at accepted
    obtain ⟨here, own⟩ := Option.filter_eq_some_iff.mp mine
    cases Option.some.inj (found.symm.trans here)
    obtain ⟨job, read, accepted⟩ := bind_eq_ok.mp accepted
    cases (cronJobFromRow_toRow range).symm.trans read
    obtain ⟨⟨job, params⟩, edits, accepted⟩ := bind_eq_ok.mp accepted
    obtain ⟨repo'', updated, accepted⟩ := bind_eq_ok.mp accepted
    cases accepted
    obtain ⟨agentType, resolved, edits⟩ := bind_eq_ok.mp edits
    obtain ⟨schedule, scheduled, edits⟩ := bind_eq_ok.mp edits
    obtain ⟨mode, named, edits⟩ := bind_eq_ok.mp edits
    obtain ⟨agent, configured, edits⟩ := bind_eq_ok.mp edits
    obtain ⟨_, _, edits⟩ := bind_eq_ok.mp edits
    cases edits
    exact ⟨agentType, schedule, mode, agent, _, of_decide_eq_true own, resolved, scheduled, named,
      configured, rfl, updated⟩

/-- Read your writes: for each stored job and each request that is accepted, the row that is stored is that
of the returned job, and the job is what is read from it, if and only if the request leaves the number of
retries as it is and does not take a job with a title for its conversation over to new ones. -/
theorem update_reads_back_iff (env : Environment) (repo repo' : Repo) (userId jobId : String)
    (stored job : CronJob) (req : UpdateCronJobRequest) (nextRunNow updatedNow storedNow : Int)
    (range : InRange stored.schedule) (found : repo[jobId]? = some (cronJobToRow stored))
    (reqRange : req.InRange)
    (accepted : env.updateJob repo userId jobId req nextRunNow updatedNow storedNow = .ok (job, repo')) :
    ReadsBack env repo' userId jobId job ↔ Keeps stored req := by
  obtain ⟨agentType, schedule, mode, agent, changed, user, resolved, scheduled, named, configured, edits,
    updated⟩ := updateJob_ok range found accepted
  obtain ⟨row, here, own, set⟩ := updateForUser_ok updatedNow found updated
  have written := set.trans
    (set_updateParams { stored with agentType := agentType } scheduled named configured edits)
  have keeps := keeps_iff named edits
  obtain ⟨config, rfl, same, _⟩ := edited_cases edits
  constructor
  · rintro ⟨⟨row', here', reads⟩, _⟩
    cases Option.some.inj (here.symm.trans here')
    exact keeps.mp (written.symm.trans reads)
  · intro kept
    have reads := written.trans (keeps.mpr kept)
    refine ⟨⟨row, here, reads⟩, row.updatedAt, getJob_of_row here (own.trans user) reads ?_ ?_⟩
    · exact (updateSchedule_ok scheduled).2 range reqRange
    · exact updateAgentConfig_ok { stored with agentType := "" } rfl resolved configured rfl rfl
        same

/-- One assistant, and no conversation of a team. -/
def plainEnvironment : Environment where
  lib := minutely
  computeNextRun := CronService.computeNextRun
    { instanceId := "a", jobId := "j", computeCronNextRun := minutely.computeCronNextRun }
  resolveAgentTypeForAssistantId _ assistantId :=
    if assistantId = "writer" then .ok "claude"
    else .error (.invalidAgentConfig ("assistant '" ++ assistantId ++ "' not found"))
  resolveAssistantBackend _ _ := .ok (some "claude")
  resolveCronFullAutoMode _ _ _ _ := .ok "bypassPermissions"
  isTeamConversation _ := .ok false
  autoWorkspaceToDelete _ _ := .ok none
  workspaceMatchesPath _ _ := false
  validateJobWorkspace _ := .ok ()

/-- A job that runs each minute in a conversation. -/
def report : CronJob where
  id := "cron_1"
  userId := "u"
  name := "Report"
  enabled := true
  schedule := .every 60000 none
  message := "Write the report."
  executionMode := .existing
  agentConfig := some {
    name := "Writer", cliPath := none, isPreset := none, assistantId := some "writer", customAgentId := none
    mode := none, modelId := none, model := none, configOptions := none, workspace := none, skillIds := []
    disabledBuiltinSkillIds := [], mcpIds := [], excludeAutoInjectSkills := [] }
  conversationId := "c"
  conversationTitle := none
  agentType := "claude"
  createdBy := .user
  skillContent := none
  description := none
  createdAt := 0
  updatedAt := 0
  nextRunAt := some 60000
  lastRunAt := none
  lastStatus := none
  lastError := none
  runCount := 0
  retryCount := 0
  maxRetries := 3
  queueEnabled := false

def reports : Repo :=
  (∅ : Repo).insert "cron_1" (cronJobToRow report)

/-- The job is taken over to new conversations, and runs each hour. -/
def hourly : UpdateCronJobRequest where
  name := some "Hourly report"
  description := some "each hour"
  schedule := some (.every 3600000 none)
  executionMode := some "new_conversation"

/-- Such a request is read back. -/
theorem update_reads_back_hourly :
    ∃ job repo', plainEnvironment.updateJob reports "u" "cron_1" hourly 10 11 12 = .ok (job, repo') ∧
      job.nextRunAt = some 3600010 ∧ ReadsBack plainEnvironment repo' "u" "cron_1" job := by
  refine ⟨_, _, rfl, rfl, ?_⟩
  refine (update_reads_back_iff plainEnvironment reports _ "u" "cron_1" report _ hourly 10 11 12
    (show InI64 60000 by decide) rfl ?_ rfl).mpr ⟨rfl, fun _ _ => rfl⟩
  rintro _ ⟨⟩
  show InI64 3600000
  decide

/-- A request for more retries is not. -/
theorem moreRetries_forgotten :
    ¬ ∀ (env : Environment) (repo repo' : Repo) (userId jobId : String) (stored job : CronJob)
      (req : UpdateCronJobRequest) (nextRunNow updatedNow storedNow : Int), InRange stored.schedule →
      repo[jobId]? = some (cronJobToRow stored) → req.InRange →
      env.updateJob repo userId jobId req nextRunNow updatedNow storedNow = .ok (job, repo') →
      ReadsBack env repo' userId jobId job := by
  intro law
  obtain ⟨⟨row, here, reads⟩, _⟩ := law plainEnvironment reports _ "u" "cron_1" report _
    { maxRetries := some 5 } 10 11 12 (show InI64 60000 by decide) rfl (by rintro _ ⟨⟩) rfl
  cases here
  exact absurd (congrArg CronJobRow.maxRetries reads) (by decide)

end KiCore.Cron.Jobs

import Mathlib.Tactic

/-!
# Permission requests of an ACP agent

Port of the request that `permission_router.rs` reads, of its automatic approval, and of the confirmation
that the user is shown (`permission.rs`, `translate.rs`). `autoApprove_some` says which requests are
approved without the user, and with which option.
-/

namespace KiCore.Agent.Acp

/-- A value of `raw_input`, as far as it is looked into: a string, an array with the keys of each object in
it, or anything else. -/
inductive RawValue where
  | string (s : String)
  | array (entries : List (List String)) (text : String)
  | other (text : String)
  deriving DecidableEq

def RawValue.asStr : RawValue → Option String
  | .string s => some s
  | _ => none

/-- An array of questions with their options, that is not empty. -/
def RawValue.asksQuestions : RawValue → Bool
  | .array entries _ =>
    !entries.isEmpty && entries.all fun keys => decide ("question" ∈ keys) && decide ("options" ∈ keys)
  | _ => false

inductive PermissionOptionKind where
  | allowOnce
  | allowAlways
  | rejectOnce
  | rejectAlways
  deriving DecidableEq

structure PermissionOption where
  optionId : String
  name : String
  kind : PermissionOptionKind
  deriving DecidableEq

inductive ToolKind where
  | read
  | search
  | edit
  | delete
  | move
  | execute
  | think
  | fetch
  | switchMode
  | other
  deriving DecidableEq

/-- The fields that are read of a request. A `raw_input` that is no object has no entries. -/
structure RequestPermissionRequest where
  toolCallId : String
  title : Option String
  kind : Option ToolKind
  rawInput : List (String × RawValue)
  options : List PermissionOption
  deriving DecidableEq

def teamMcpServerName : String := "aionui-team"

def autoApproveMcpServers : List String := [teamMcpServerName]

/-- What is before a separator, and what is after it. -/
def splitOnce (separator : List Char) : List Char → Option (List Char × List Char)
  | [] => none
  | c :: rest =>
    match (c :: rest).dropPrefix? separator with
    | some after => some ([], after)
    | none => (splitOnce separator rest).map fun halves => (c :: halves.1, halves.2)

def extractMcpServerFromPrefixedTitle (title : String) : Option String := do
  let rest ← title.toList.dropPrefix? "mcp__".toList
  let (serverName, toolName) ← splitOnce "__".toList rest
  if serverName = [] ∨ toolName = [] then none else some (String.ofList serverName)

namespace RequestPermissionRequest

variable (request : RequestPermissionRequest)

def extractMcpServerFromRawInput : Option String :=
  ((request.rawInput.lookup "server_name").bind (·.asStr)).filter fun serverName => serverName ≠ ""

def extractMcpServerName : Option String :=
  request.extractMcpServerFromRawInput.or (request.title.bind extractMcpServerFromPrefixedTitle)

def selectAllowOptionId : Option String :=
  ((request.options.find? (·.kind = .allowAlways)).or
    (request.options.find? (·.kind = .allowOnce))).map (·.optionId)

def autoApproveOptionId : Option String := do
  let serverName ← request.extractMcpServerName
  if serverName ∈ autoApproveMcpServers then request.selectAllowOptionId else none

end RequestPermissionRequest

structure ConfirmationOption where
  label : String
  value : String
  deriving DecidableEq

structure Confirmation where
  id : String
  callId : String
  title : Option String
  description : String
  commandType : Option String
  questions : Option RawValue
  options : List ConfirmationOption
  deriving DecidableEq

/-- `map_sdk_tool_kind`, and the name of the kind. -/
def ToolKind.commandType : ToolKind → String
  | .read | .search => "read"
  | .edit | .delete | .move => "edit"
  | .execute | .think | .fetch | .switchMode | .other => "execute"

variable (request : RequestPermissionRequest)

def RequestPermissionRequest.toConfirmation : Confirmation where
  id := request.toolCallId
  callId := request.toolCallId
  title := request.title
  description := ((request.rawInput.lookup "description").bind (·.asStr)).getD ""
  commandType := request.kind.map (·.commandType)
  questions := (request.rawInput.lookup "questions").filter (·.asksQuestions)
  options := request.options.map fun option => ⟨option.name, option.optionId⟩

/-- The request says that it is one of the MCP server of the team: in its input, or else in the title of
its tool. -/
def RequestPermissionRequest.OfTeamServer : Prop :=
  request.extractMcpServerFromRawInput = some "aionui-team" ∨
    request.extractMcpServerFromRawInput = none ∧
      ∃ tool ≠ "", request.title = some ("mcp__aionui-team__" ++ tool)

def RequestPermissionRequest.Allows (optionId : String) : Prop :=
  ∃ option ∈ request.options, option.optionId = optionId ∧
    (option.kind = .allowAlways ∨ option.kind = .allowOnce)

variable {request : RequestPermissionRequest} {separator chars before after : List Char}
  {title serverName optionId : String}

lemma splitOnce_some (split : splitOnce separator chars = some (before, after)) :
    chars = before ++ separator ++ after := by
  induction chars generalizing before with
  | nil => cases split
  | cons c rest ih =>
    rw [splitOnce] at split
    cases dropped : (c :: rest).dropPrefix? separator with
    | some rest' =>
      rw [dropped] at split
      cases split
      obtain ⟨front, whole, same⟩ := List.dropPrefix?_eq_some_iff.mp dropped
      cases eq_of_beq same
      exact whole
    | none =>
      rw [dropped] at split
      obtain ⟨⟨before', after'⟩, found, same⟩ := Option.map_eq_some_iff.mp split
      cases same
      rw [ih found]
      simp

lemma extractMcpServerFromPrefixedTitle_some
    (named : extractMcpServerFromPrefixedTitle title = some serverName) :
    ∃ tool ≠ "", title = "mcp__" ++ serverName ++ "__" ++ tool := by
  simp only [extractMcpServerFromPrefixedTitle, Option.bind_eq_bind, Option.bind_eq_some_iff] at named
  obtain ⟨rest, dropped, ⟨server, tool⟩, split, named⟩ := named
  split_ifs at named with empty
  cases named
  obtain ⟨front, whole, same⟩ := List.dropPrefix?_eq_some_iff.mp dropped
  cases eq_of_beq same
  refine ⟨String.ofList tool, fun blank => empty (.inr (by simpa using blank)), ?_⟩
  apply String.toList_inj.mp
  rw [whole, splitOnce_some split]
  simp [String.toList_append, String.toList_ofList]

lemma selectAllowOptionId_some (selected : request.selectAllowOptionId = some optionId) :
    request.Allows optionId := by
  obtain ⟨option, found, rfl⟩ := Option.map_eq_some_iff.mp selected
  rcases Option.or_eq_some_iff.mp found with always | ⟨_, once⟩
  · exact ⟨option, List.mem_of_find?_eq_some always, rfl, .inl (by simpa using List.find?_some always)⟩
  · exact ⟨option, List.mem_of_find?_eq_some once, rfl, .inr (by simpa using List.find?_some once)⟩

lemma autoApprove_some (approved : request.autoApproveOptionId = some optionId) :
    request.OfTeamServer ∧ request.Allows optionId := by
  obtain ⟨serverName, extracted, approved⟩ := Option.bind_eq_some_iff.mp approved
  split_ifs at approved with listed
  cases List.mem_singleton.mp listed
  refine ⟨?_, selectAllowOptionId_some approved⟩
  rcases Option.or_eq_some_iff.mp extracted with raw | ⟨raw, titled⟩
  · exact .inl raw
  · obtain ⟨title, here, named⟩ := Option.bind_eq_some_iff.mp titled
    obtain ⟨tool, some_, rfl⟩ := extractMcpServerFromPrefixedTitle_some named
    exact .inr ⟨raw, tool, some_, here⟩

example : RequestPermissionRequest.autoApproveOptionId
    ⟨"t", some "mcp__aionui-team__team_members", none, [], [⟨"reject", "", .rejectOnce⟩,
      ⟨"once", "", .allowOnce⟩, ⟨"always", "", .allowAlways⟩]⟩ = some "always" := by decide

end KiCore.Agent.Acp

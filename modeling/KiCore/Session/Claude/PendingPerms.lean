import KiCore.Session.Requests
import KiCore.Session.Suspend
import KiCore.Session.Claude.Adapter

/-!
# Pending permissions

Port of the registry behind `pending_permission_requests` in `claude_conn.rs`. The reader fills it by a
sniffer of its own, beside the adapter that shows the request; `answer_permission` and `answer_ask`
empty it before they write; and nothing ties it to the process. `answers_lawful_iff` says on which runs
every request that is shown can be answered exactly once. Left out are the input that an answer echoes,
the answers to questions, receipts and logs.
-/

namespace KiCore.Session.Claude

open KiCore.Lib

structure PendingPerm where
  toolUseId : String
  toolName : String

structure ControlResponse where
  requestId : String
  allow : Bool
  toolUseId : String

/-- A backend, as far as its requests go: the process with the parser of its reader, the registry, the
events of the live process in order, and the responses written so far. -/
structure PermissionRun where
  process : ProcessState
  parser : ClaudeAdapter
  pendingPerms : Table String PendingPerm
  events : List SessionEvent
  written : List ControlResponse

def PermissionRun.start : PermissionRun where
  process := .live
  parser := .new
  pendingPerms := ∅
  events := []
  written := []

/-- The sniffer of the reader, on the raw frame. -/
def registerOrClearPending (pending : Table String PendingPerm) : Frame → Table String PendingPerm
  | .controlRequest subtype toolUseId (some requestId) toolName =>
    -- without the id of the call there is nothing to answer with
    if subtype = "can_use_tool" ∧ toolUseId ≠ "" then
      pending.insert requestId { toolUseId, toolName := toolName.getD "" }
    else pending
  | .controlCancelRequest (some requestId) => pending.erase requestId
  | _ => pending

def buildControlResponse (requestId : String) (pending : PendingPerm)
    (decision : PermissionDecision) : ControlResponse where
  requestId := requestId
  allow := decision = .approved || decision = .allowAlways
  toolUseId := pending.toolUseId

namespace PermissionRun

/-- The shared course of an answer: the entry is taken, the response written, and then the resolution
is shown. -/
def answerWith (noun : String) (resolveEvent : PendingPerm → SessionEvent) (s : PermissionRun)
    (requestId : String) (decision : PermissionDecision) (write : Write) :
    Except String Unit × PermissionRun :=
  match s.pendingPerms[requestId]? with
  | none => (.error ("no pending " ++ noun ++ " for request_id " ++ requestId), s)
  | some pending =>
    let s := { s with pendingPerms := s.pendingPerms.erase requestId }
    match write with
    | .unavailable => (.error "claude stdin unavailable", s)
    | .failed error => (.error ("write control_response: " ++ error), s)
    | .written =>
      (.ok (), { s with
        written := s.written ++ [buildControlResponse requestId pending decision]
        events := s.events ++ [resolveEvent pending] })

/-- A question can be answered here too, and is resolved as a question. -/
def permissionEvent (requestId : String) (pending : PendingPerm) : SessionEvent :=
  if pending.toolName = "AskUserQuestion" then .askResolved requestId
  else .permissionResolved requestId .tool

variable (s : PermissionRun) (requestId : String)

def answerPermission (decision : PermissionDecision)
    (write : Write) : Except String Unit × PermissionRun :=
  s.answerWith "permission" (permissionEvent requestId) requestId decision write

/-- A card that the user dismisses is a denial. -/
def answerAsk (answered : Bool) (write : Write) : Except String Unit × PermissionRun :=
  s.answerWith "ask" (fun _ => .askResolved requestId) requestId
    (if answered then .approved else .denied) write

def handleFrame (f : Frame) : PermissionRun :=
  let (parser, events) := s.parser.parseValue f
  { s with
    parser
    pendingPerms := registerOrClearPending s.pendingPerms f
    events := s.events ++ events.map AdapterEvent.session }

inductive Event where
  | frame (f : Frame)
  | answerPermission (requestId : String) (decision : PermissionDecision) (write : Write)
  | answerAsk (requestId : String) (answered : Bool) (write : Write)
  /-- the process ends by itself -/
  | exit
  /-- the slot is closed: the idle timer, or a forced termination -/
  | stop
  /-- a new process, with a new reader -/
  | wake

def next : Event → PermissionRun
  | .frame f => if s.process = .live then s.handleFrame f else s
  | .answerPermission requestId decision write => (s.answerPermission requestId decision write).2
  | .answerAsk requestId answered write => (s.answerAsk requestId answered write).2
  | .exit => if s.process = .live then { s with process := s.process.exit, events := [] } else s
  | .stop => { s with process := s.process.terminate, events := [] }
  | .wake =>
    if s.process = .dormant then { s with process := .live, parser := .new, events := [] } else s

/-- The requests that the live process has shown and that no event has resolved. -/
def asked : List Request := outstanding s.events

def Registered : Prop :=
  (s.pendingPerms[requestId]?).isSome

instance : Decidable (s.Registered requestId) :=
  inferInstanceAs (Decidable (_ = true))

def writtenAnswer : Event → Option String
  | .answerPermission requestId _ .written | .answerAsk requestId _ .written => some requestId
  | _ => none

def failedAnswer : Event → Option String
  | .answerPermission requestId _ write | .answerAsk requestId _ write =>
    if write = .written then none else some requestId
  | _ => none

/-- What an event must keep. -/
structure Lawful (s : PermissionRun) (e : Event) : Prop where
  /-- the registry lists what has been asked -/
  registry : ∀ id, (s.next e).Registered id ↔ ∃ kind, (id, kind) ∈ (s.next e).asked
  /-- no request is answered twice -/
  once : ((s.next e).written.map ControlResponse.requestId).Nodup
  /-- an answer that is written shows one event, which resolves the request as the kind that was raised -/
  kind : ∀ id, writtenAnswer e = some id → s.Registered id → ∃ resolved kind,
    (s.next e).events = s.events ++ [resolved] ∧ resolved.resolves = some (id, kind) ∧
      (id, kind) ∈ s.asked
  /-- a request survives an answer that is not written -/
  answerable : ∀ id, failedAnswer e = some id → s.Registered id → (s.next e).Registered id

/-- A request to use a tool can be answered as it is shown: its id and the id of its call are both
given, or it shows nothing and registers nothing. -/
def Answerable (toolUseId : String) : Option String → Prop
  | none => True
  | some requestId =>
    if requestId = "" then toolUseId = "" else toolUseId ≠ "" ∨ s.Registered requestId

instance (toolUseId : String) : ∀ id, Decidable (s.Answerable toolUseId id)
  | none => isTrue trivial
  | some requestId => inferInstanceAs (Decidable (if requestId = "" then _ else _))

/-- The condition under which the backend keeps the law. -/
def Heeded : Event → Prop
  | .frame (.controlRequest "can_use_tool" toolUseId requestId _) =>
    s.process = .live → s.Answerable toolUseId requestId
  | .answerPermission requestId _ write =>
    s.Registered requestId →
      write = .written ∧ requestId ∉ s.written.map ControlResponse.requestId
  | .answerAsk requestId _ write =>
    s.Registered requestId →
      write = .written ∧ requestId ∉ s.written.map ControlResponse.requestId ∧
        (requestId, .question) ∈ s.asked
  | .exit | .stop => s.process = .live → s.asked = []
  | _ => True

variable {s : PermissionRun} {e : Event}

def waitingOn (pending : PendingPerm) : WaitingOn :=
  if pending.toolName = "AskUserQuestion" then .question else .approval

lemma dataEvent_aloof {e : SessionEvent} (h : ClaudeAdapter.dataEvent e) : Aloof e := by
  cases e <;> first | exact ⟨rfl, rfl⟩ | cases h

lemma parseValue_aloof {a : ClaudeAdapter} {f : Frame} (data : ClaudeAdapter.control f = false) :
    ∀ e ∈ (a.parseValue f).2, Aloof e.session :=
  fun e mem => dataEvent_aloof (ClaudeAdapter.parseValue_data data e mem)

/-- The invariant of the runs that heed the condition. -/
structure Tracked (s : PermissionRun) : Prop where
  registry : ∀ id, s.Registered id ↔ ∃ kind, (id, kind) ∈ s.asked
  once : (s.written.map ControlResponse.requestId).Nodup
  kind : ∀ id pending, s.pendingPerms[id]? = some pending → (id, waitingOn pending) ∈ s.asked
  named : ∀ kind, ("", kind) ∉ s.asked
  idle : s.process ≠ .live → s.asked = []

lemma tracked_start : Tracked .start where
  registry id := by simp [Registered, start, asked, outstanding]
  once := .nil
  kind id pending h := by simp [start] at h
  named kind := nofun
  idle _ := rfl

variable {t : PermissionRun}

lemma Tracked.of_same (h : Tracked s)
    (perms : ∀ id : String, t.pendingPerms[id]? = s.pendingPerms[id]?) (asked : t.asked = s.asked)
    (written : t.written = s.written) (idle : t.process ≠ .live → t.asked = []) : Tracked t where
  registry id := by rw [Registered, perms, asked]; exact h.registry id
  once := written ▸ h.once
  kind id pending found := asked ▸ h.kind id pending (perms id ▸ found)
  named kind := asked ▸ h.named kind
  idle := idle

lemma Tracked.raised {e : SessionEvent} {id : String} {kind : WaitingOn}
    {entry : PendingPerm} (h : Tracked s) (live : t.process = .live) (written : t.written = s.written)
    (perms : t.pendingPerms = s.pendingPerms.insert id entry) (asked : t.asked = pend s.asked e)
    (raises : e.raises = some (id, kind)) (same : waitingOn entry = kind) (ne : id ≠ "") :
    Tracked t := by
  have grown : ∀ other, other ∈ t.asked ↔ other ∈ s.asked ∨ other = (id, kind) := by
    intro other
    rw [asked, pend_of_raises raises, List.mem_append, List.mem_singleton]
  constructor
  · intro other
    rw [Registered, perms, Table.get_insert]
    simp only [grown, Prod.mk.injEq]
    split
    case isTrue e => simp [e]
    case isFalse ne => simpa [Registered, ne, Ne.symm ne] using h.registry other
  · exact written ▸ h.once
  · intro other pending found
    rw [perms, Table.get_insert] at found
    refine (grown _).mpr ?_
    split at found
    case isTrue e =>
      cases e
      cases found
      exact .inr (by rw [same])
    case isFalse => exact .inl (h.kind other pending found)
  · intro kind mem
    rcases (grown _).mp mem with mem | mem
    · exact h.named kind mem
    · cases mem
      exact ne rfl
  · exact fun idle => absurd live idle

lemma Tracked.resolved {e : SessionEvent} {id : String} {kind : WaitingOn}
    (h : Tracked s) (process : t.process = s.process)
    (once : (t.written.map ControlResponse.requestId).Nodup)
    (perms : t.pendingPerms = s.pendingPerms.erase id) (asked : t.asked = pend s.asked e)
    (resolves : e.resolves = some (id, kind)) : Tracked t := by
  have left : ∀ other, other ∈ t.asked ↔ other ∈ s.asked ∧ other.1 ≠ id := by
    intro other
    rw [asked, pend_of_resolves resolves, List.mem_filter, decide_eq_true_eq]
  constructor
  · intro other
    rw [Registered, perms, Table.get_erase]
    simp only [left]
    split
    case isTrue e => simp [e]
    case isFalse ne => simpa [Registered, Ne.symm ne] using h.registry other
  · exact once
  · intro other pending found
    rw [perms, Table.get_erase_some] at found
    exact (left _).mpr ⟨h.kind other pending found.2, Ne.symm found.1⟩
  · exact fun kind mem => h.named kind ((left _).mp mem).1
  · intro idle
    have nothing := h.idle (process ▸ idle)
    rw [asked, nothing, pend_of_resolves resolves, List.filter_nil]

lemma handleFrame_asked (s : PermissionRun) (f : Frame) :
    (s.handleFrame f).asked =
      ((s.parser.parseValue f).2.map AdapterEvent.session).foldl pend s.asked :=
  outstanding_append _ _

lemma Tracked.aloofFrame {f : Frame} (h : Tracked s) (live : s.process = .live)
    (aloof : ∀ e ∈ (s.parser.parseValue f).2, Aloof e.session)
    (sniffed : ∀ id : String, (registerOrClearPending s.pendingPerms f)[id]? = s.pendingPerms[id]?) :
    Tracked (s.handleFrame f) := by
  refine h.of_same sniffed ?_ rfl fun idle => absurd live idle
  rw [handleFrame_asked]
  apply foldl_pend_aloof
  intro e mem
  obtain ⟨emitted, found, rfl⟩ := List.mem_map.mp mem
  exact aloof emitted found

def shown (requestId : String) (toolName : Option String) : SessionEvent :=
  if toolName = some "AskUserQuestion" then .ask requestId else .permission requestId .tool

lemma handleFrame_shown {toolUseId requestId : String} {toolName : Option String} (ne : requestId ≠ "") :
    (s.handleFrame (.controlRequest "can_use_tool" toolUseId (some requestId) toolName)).asked =
      pend s.asked (shown requestId toolName) := by
  rw [handleFrame_asked]
  by_cases ask : toolName = some "AskUserQuestion"
  · simp [ClaudeAdapter.parseValue, ClaudeAdapter.parseControlRequest, ne, ask, shown,
      AdapterEvent.session]
  · simp [ClaudeAdapter.parseValue, ClaudeAdapter.parseControlRequest, ne, ask, shown,
      AdapterEvent.session]

lemma shown_raises (requestId toolUseId : String) (toolName : Option String) :
    (shown requestId toolName).raises =
      some (requestId, waitingOn { toolUseId, toolName := toolName.getD "" }) := by
  cases toolName with
  | none => rfl
  | some name =>
    by_cases ask : name = "AskUserQuestion"
    · simp [shown, waitingOn, ask, SessionEvent.raises]
    · simp [shown, waitingOn, ask, SessionEvent.raises, PermissionKind.waitingOn]

lemma handleFrame_cancel {requestId : String} (ne : requestId ≠ "") :
    ∃ e kind, (s.handleFrame (.controlCancelRequest (some requestId))).asked = pend s.asked e ∧
      e.resolves = some (requestId, kind) := by
  rw [handleFrame_asked]
  by_cases ask : requestId ∈ s.parser.askRequests
  · refine ⟨.askResolved requestId, .question, ?_, rfl⟩
    simp [ClaudeAdapter.parseValue, ClaudeAdapter.parseControlCancelRequest, ne, ask,
      AdapterEvent.session]
  · refine ⟨.permissionResolved requestId .tool, .approval, ?_, rfl⟩
    simp [ClaudeAdapter.parseValue, ClaudeAdapter.parseControlCancelRequest, ne, ask,
      AdapterEvent.session]

lemma Tracked.not_registered_empty (h : Tracked s) : ¬ s.Registered "" := by
  intro registered
  obtain ⟨kind, mem⟩ := (h.registry "").mp registered
  exact h.named kind mem

lemma Tracked.raisedAgain {e : SessionEvent} {request : Request} (h : Tracked s)
    (live : t.process = .live) (written : t.written = s.written)
    (perms : t.pendingPerms = s.pendingPerms) (asked : t.asked = pend s.asked e)
    (raises : e.raises = some request) (registered : s.Registered request.1) : Tracked t := by
  have grown : ∀ other, other ∈ t.asked ↔ other ∈ s.asked ∨ other = request := by
    intro other
    rw [asked, pend_of_raises raises, List.mem_append, List.mem_singleton]
  constructor
  · intro other
    rw [Registered, perms]
    constructor
    · intro found
      obtain ⟨kind, mem⟩ := (h.registry other).mp found
      exact ⟨kind, (grown _).mpr (.inl mem)⟩
    · rintro ⟨kind, mem⟩
      rcases (grown _).mp mem with mem | rfl
      · exact (h.registry other).mpr ⟨kind, mem⟩
      · exact registered
  · exact written ▸ h.once
  · exact fun other pending found => (grown _).mpr (.inl (h.kind other pending (perms ▸ found)))
  · intro kind mem
    rcases (grown _).mp mem with mem | rfl
    · exact h.named kind mem
    · exact h.not_registered_empty registered
  · exact fun idle => absurd live idle

lemma Tracked.canUseTool {toolUseId : String} {requestId toolName : Option String} (h : Tracked s)
    (live : s.process = .live) (answerable : s.Answerable toolUseId requestId) :
    Tracked (s.handleFrame (.controlRequest "can_use_tool" toolUseId requestId toolName)) := by
  cases requestId with
  | none =>
    refine h.aloofFrame live ?_ fun _ => rfl
    intro e mem
    cases List.mem_singleton.mp mem
    exact ⟨rfl, rfl⟩
  | some requestId =>
    by_cases empty : requestId = ""
    case pos =>
      have noCall : toolUseId = "" := by simpa [Answerable, empty] using answerable
      subst empty
      refine h.aloofFrame live ?_ ?_
      · intro e mem
        cases List.mem_singleton.mp mem
        exact ⟨rfl, rfl⟩
      · simp [registerOrClearPending, noCall]
    case neg =>
      have asked : (s.handleFrame (.controlRequest "can_use_tool" toolUseId (some requestId)
          toolName)).asked = pend s.asked (shown requestId toolName) := handleFrame_shown empty
      have raises := shown_raises requestId toolUseId toolName
      by_cases call : toolUseId = ""
      case pos =>
        have registered : s.Registered requestId := by simpa [Answerable, empty, call] using answerable
        refine h.raisedAgain live rfl ?_ asked raises registered
        simp [handleFrame, registerOrClearPending, call]
      case neg =>
        refine h.raised live rfl ?_ asked raises rfl empty
        simp [handleFrame, registerOrClearPending, call]

lemma Tracked.retract {requestId : Option String} (h : Tracked s) (live : s.process = .live) :
    Tracked (s.handleFrame (.controlCancelRequest requestId)) := by
  by_cases empty : requestId.getD "" = ""
  case pos =>
    refine h.aloofFrame live ?_ ?_
    · intro e mem
      simp only [ClaudeAdapter.parseValue, ClaudeAdapter.parseControlCancelRequest, empty,
        if_true, List.mem_singleton] at mem
      subst mem
      exact ⟨rfl, rfl⟩
    · intro id
      cases requestId with
      | none => rfl
      | some requestId =>
        -- nothing is registered under the empty id
        have nothing : s.pendingPerms[""]? = none := by
          simpa [Registered] using h.not_registered_empty
        cases (show requestId = "" from empty)
        rw [registerOrClearPending, Table.get_erase]
        split
        case isTrue e => rw [← e, nothing]
        case isFalse => rfl
  case neg =>
    cases requestId with
    | none => exact absurd rfl empty
    | some requestId =>
      obtain ⟨e, kind, asked, resolves⟩ := handleFrame_cancel (s := s) empty
      exact h.resolved rfl h.once rfl asked resolves

lemma Tracked.frame {f : Frame} (h : Tracked s) (live : s.process = .live)
    (heeded : s.Heeded (.frame f)) : Tracked (s.handleFrame f) := by
  cases f with
  | controlRequest subtype toolUseId requestId toolName =>
    by_cases use : subtype = "can_use_tool"
    case pos =>
      subst use
      exact h.canUseTool live (heeded live)
    case neg =>
      refine h.aloofFrame live ?_ ?_
      · intro e mem
        simp only [ClaudeAdapter.parseValue, ClaudeAdapter.parseControlRequest, use, false_and,
          if_false, List.mem_singleton] at mem
        subst mem
        exact ⟨rfl, rfl⟩
      · cases requestId <;> simp [registerOrClearPending, use]
  | controlCancelRequest requestId => exact h.retract live
  | _ => exact h.aloofFrame live (parseValue_aloof rfl) fun _ => rfl

lemma answerWith_missing {noun : String} {resolveEvent : PendingPerm → SessionEvent} {id : String}
    {decision : PermissionDecision} {write : Write} (missing : ¬ s.Registered id) :
    (answerWith noun resolveEvent s id decision write).2 = s := by
  have none : s.pendingPerms[id]? = none := by simpa [Registered] using missing
  simp [answerWith, none]

lemma answerWith_failed {noun : String} {resolveEvent : PendingPerm → SessionEvent} {id : String}
    {decision : PermissionDecision} {write : Write} (failed : write ≠ .written) :
    ¬ (answerWith noun resolveEvent s id decision write).2.Registered id := by
  rw [answerWith]
  split
  case h_1 missing => simp [Registered, missing]
  case h_2 pending found =>
    cases write with
    | written => exact absurd rfl failed
    | unavailable => simp [Registered]
    | failed error => simp [Registered]

lemma Tracked.answer {noun : String} {resolveEvent : PendingPerm → SessionEvent} {id : String}
    {decision : PermissionDecision} (h : Tracked s) (pending : PendingPerm)
    (found : s.pendingPerms[id]? = some pending)
    (fresh : id ∉ s.written.map ControlResponse.requestId)
    {kind : WaitingOn} (resolves : (resolveEvent pending).resolves = some (id, kind)) :
    Tracked (answerWith noun resolveEvent s id decision .written).2 := by
  have done : (answerWith noun resolveEvent s id decision .written).2 =
      { s with
        pendingPerms := s.pendingPerms.erase id
        written := s.written ++ [buildControlResponse id pending decision]
        events := s.events ++ [resolveEvent pending] } := by
    simp [answerWith, found]
  rw [done]
  refine h.resolved rfl ?_ rfl (outstanding_append _ _) resolves
  simpa [buildControlResponse, List.nodup_append, List.mem_map] using ⟨h.once, by simpa using fresh⟩

lemma permissionEvent_resolves (id : String) (pending : PendingPerm) :
    (permissionEvent id pending).resolves = some (id, waitingOn pending) := by
  by_cases ask : pending.toolName = "AskUserQuestion"
  · simp [permissionEvent, waitingOn, ask, SessionEvent.resolves]
  · simp [permissionEvent, waitingOn, ask, SessionEvent.resolves, PermissionKind.waitingOn]

lemma Tracked.quiet {process : ProcessState} {parser : ClaudeAdapter} (h : Tracked s)
    (nothing : s.asked = []) : Tracked { s with process, parser, events := [] } :=
  h.of_same (fun _ => rfl) nothing.symm rfl fun _ => rfl

lemma Tracked.next (h : Tracked s) (heeded : s.Heeded e) : Tracked (s.next e) := by
  cases e with
  | frame f =>
    simp only [PermissionRun.next]
    split
    case isTrue live => exact h.frame live heeded
    case isFalse => exact h
  | answerPermission id decision write =>
    simp only [PermissionRun.next, answerPermission]
    by_cases registered : s.Registered id
    · obtain ⟨pending, found⟩ := Option.isSome_iff_exists.mp registered
      obtain ⟨rfl, fresh⟩ := heeded registered
      exact h.answer pending found fresh (permissionEvent_resolves id pending)
    · rw [answerWith_missing registered]
      exact h
  | answerAsk id answered write =>
    simp only [PermissionRun.next, answerAsk]
    by_cases registered : s.Registered id
    · obtain ⟨pending, found⟩ := Option.isSome_iff_exists.mp registered
      obtain ⟨rfl, fresh, -⟩ := heeded registered
      have question : (SessionEvent.askResolved id).resolves = some (id, .question) := rfl
      exact h.answer pending found fresh question
    · rw [answerWith_missing registered]
      exact h
  | exit =>
    simp only [PermissionRun.next]
    split
    case isTrue live => exact h.quiet (heeded live)
    case isFalse => exact h
  | stop =>
    by_cases live : s.process = .live
    · exact h.quiet (heeded live)
    · exact h.quiet (h.idle live)
  | wake =>
    simp only [PermissionRun.next]
    split
    case isTrue dormant => exact h.quiet (h.idle (by simp [dormant]))
    case isFalse => exact h

lemma Tracked.lawful (h : Tracked s) (heeded : s.Heeded e) : s.Lawful e where
  registry := (h.next heeded).registry
  once := (h.next heeded).once
  kind id answers registered := by
    obtain ⟨pending, found⟩ := Option.isSome_iff_exists.mp registered
    cases e with
    | answerPermission _ decision write =>
      cases write with
      | written =>
        cases answers
        refine ⟨_, _, ?_, permissionEvent_resolves id pending, h.kind id pending found⟩
        simp [PermissionRun.next, answerPermission, answerWith, found]
      | unavailable | failed error => cases answers
    | answerAsk _ answered write =>
      cases write with
      | written =>
        cases answers
        refine ⟨.askResolved id, .question, ?_, rfl, (heeded registered).2.2⟩
        simp [PermissionRun.next, answerAsk, answerWith, found]
      | unavailable | failed error => cases answers
    | _ => cases answers
  answerable id failed registered := by
    cases e with
    | answerPermission id' decision write =>
      simp only [failedAnswer, Option.ite_none_left_eq_some, Option.some.injEq] at failed
      obtain ⟨failed, rfl⟩ := failed
      exact absurd (heeded registered).1 failed
    | answerAsk id' answered write =>
      simp only [failedAnswer, Option.ite_none_left_eq_some, Option.some.injEq] at failed
      obtain ⟨failed, rfl⟩ := failed
      exact absurd (heeded registered).1 failed
    | _ => cases failed

lemma Tracked.answerable {toolUseId : String} {requestId toolName : Option String} (h : Tracked s)
    (registry : ∀ id,
      (s.handleFrame (.controlRequest "can_use_tool" toolUseId requestId toolName)).Registered id ↔
        ∃ kind, (id, kind) ∈
          (s.handleFrame (.controlRequest "can_use_tool" toolUseId requestId toolName)).asked) :
    s.Answerable toolUseId requestId := by
  cases requestId with
  | none => exact trivial
  | some id =>
    by_cases empty : id = ""
    case pos =>
      subst empty
      rw [Answerable, if_pos rfl]
      by_contra call
      have registered : (s.handleFrame
          (.controlRequest "can_use_tool" toolUseId (some "") toolName)).Registered "" := by
        simp [Registered, handleFrame, registerOrClearPending, call]
      obtain ⟨kind, mem⟩ := (registry "").mp registered
      rw [handleFrame_asked] at mem
      simp only [ClaudeAdapter.parseValue, ClaudeAdapter.parseControlRequest] at mem
      rw [foldl_pend_aloof] at mem
      · exact h.named kind mem
      · intro e mem
        cases List.mem_singleton.mp mem
        exact ⟨rfl, rfl⟩
    case neg =>
      rw [Answerable, if_neg empty]
      by_contra neither
      obtain ⟨noCall, unregistered⟩ := not_or.mp neither
      rw [not_not] at noCall
      have shows : (s.handleFrame (.controlRequest "can_use_tool" toolUseId (some id) toolName)).asked =
          pend s.asked (shown id toolName) := handleFrame_shown empty
      have registered := (registry id).mpr ⟨waitingOn { toolUseId, toolName := toolName.getD "" }, by
        rw [shows, mem_pend]
        exact .inr (shown_raises id toolUseId toolName)⟩
      apply unregistered
      simpa [Registered, handleFrame, registerOrClearPending, noCall] using registered

lemma Tracked.asked_nil (h : Tracked s) (none : ∀ id, ¬ s.Registered id) : s.asked = [] := by
  apply List.eq_nil_iff_forall_not_mem.mpr
  intro request mem
  exact none request.1 ((h.registry request.1).mpr ⟨request.2, mem⟩)

lemma first_answer {noun : String} {resolveEvent : PendingPerm → SessionEvent} {id : String}
    {decision : PermissionDecision} {write : Write} (answerable : write ≠ .written →
      (answerWith noun resolveEvent s id decision write).2.Registered id)
    (once : ((answerWith noun resolveEvent s id decision write).2.written.map
      ControlResponse.requestId).Nodup)
    (registered : s.Registered id) :
    write = .written ∧ id ∉ s.written.map ControlResponse.requestId := by
  have written : write = .written := by
    by_contra failed
    exact answerWith_failed failed (answerable failed)
  subst written
  obtain ⟨pending, found⟩ := Option.isSome_iff_exists.mp registered
  refine ⟨rfl, fun mem => ?_⟩
  simp only [answerWith, found, List.map_append, List.map_cons, List.map_nil, buildControlResponse]
    at once
  exact (List.nodup_append.mp once).2.2 id mem id (.head _) rfl

/-- A step that keeps the law heeds the condition. -/
lemma Tracked.heeded (h : Tracked s) (lawful : s.Lawful e) : s.Heeded e := by
  cases e with
  | frame f =>
    cases f with
    | controlRequest subtype toolUseId requestId toolName =>
      unfold Heeded
      split
      case h_1 same =>
        cases same
        intro live
        have registry := lawful.registry
        simp only [PermissionRun.next, if_pos live] at registry
        exact h.answerable registry
      all_goals first | exact trivial | simp_all
    | _ => exact trivial
  | answerPermission id decision write =>
    intro registered
    refine first_answer (fun failed => ?_) lawful.once registered
    exact lawful.answerable id (if_neg failed) registered
  | answerAsk id answered write =>
    intro registered
    obtain ⟨rfl, fresh⟩ :=
      first_answer (fun failed => lawful.answerable id (if_neg failed) registered) lawful.once registered
    obtain ⟨pending, found⟩ := Option.isSome_iff_exists.mp registered
    obtain ⟨resolved, kind, shows, resolves, asked⟩ := lawful.kind id rfl registered
    obtain rfl : .askResolved id = resolved := by
      simpa [PermissionRun.next, answerAsk, answerWith, found] using shows
    cases resolves
    exact ⟨rfl, fresh, asked⟩
  | exit =>
    intro live
    have registry := lawful.registry
    simp only [PermissionRun.next, if_pos live] at registry
    apply h.asked_nil
    intro id registered
    obtain ⟨kind, mem⟩ := (registry id).mp registered
    cases mem
  | stop =>
    intro live
    apply h.asked_nil
    intro id registered
    obtain ⟨kind, mem⟩ := (lawful.registry id).mp registered
    cases mem
  | wake => exact trivial

/-- In every run the registry lists what the live process has asked, nothing is answered twice, every
answer resolves the kind that was raised and a failed one loses nothing, if and only if every step
heeds the condition. -/
theorem answers_lawful_iff (events : List Event) :
    LTS.EnabledAll Lawful next .start events ↔ LTS.EnabledAll Heeded next .start events :=
  LTS.enabledAll_iff (Q := Tracked)
    (fun _ _ h => ⟨⟨h.heeded, h.lawful⟩, h.next⟩) tracked_start

/-- An answer whose write fails loses the request. -/
theorem request_lost : ¬ ∀ events, LTS.EnabledAll Lawful next .start events := by
  intro h
  obtain ⟨-, lawful, -⟩ := h
    [ .frame (.controlRequest "can_use_tool" "tu_1" (some "r1") (some "Bash")),
      .answerPermission "r1" .approved (.failed "broken pipe") ]
  have kept := lawful.answerable "r1" rfl (by decide)
  revert kept
  decide

end PermissionRun

end KiCore.Session.Claude

import KiCore.Session.Codex.ReverseRpc

/-!
# The blocking requests of codex are answered once

`requests_paired_iff` says on which runs every request is answered at most once, with its own id and in
the shape of its own method, or rejected at once; every resolution is shown with the id and the kind
that its request was shown with; an answer that is not written loses nothing; and the registry lists
what is open. The kind of a resolution is read off the one stashed id, which an answer empties.
-/

namespace KiCore.Session.Codex

open KiCore.Lib

/-- The title under which a request is listed for recovery. -/
def ServerMethod.title : ServerMethod → Option String
  | commandExecution => some "CommandExecution"
  | fileChange => some "FileChange"
  | elicitation => some "Elicitation"
  | authRefresh | attestation | other _ => none

def ResponseBody.Fits : ResponseBody → ServerMethod → Prop
  | decision _, .commandExecution | decision _, .fileChange => True
  | action _, .elicitation => True
  | tokens _ _ _, .authRefresh => True
  | error _ _, .attestation | error _ _, .other _ => True
  | _, _ => False

instance (body : ResponseBody) (method : ServerMethod) : Decidable (body.Fits method) := by
  unfold ResponseBody.Fits
  split <;> infer_instance

variable {Id : Type}

def JsonIds.key (ids : JsonIds Id) (request : Id × ServerMethod) : String :=
  if request.2 = .elicitation then elicitPrefix ++ ids.toString request.1 else ids.toString request.1

def JsonIds.shown (ids : JsonIds Id) (request : Id × ServerMethod) : Option Request :=
  match request.2 with
  | .authRefresh => some (ids.key request, .auth)
  | .commandExecution | .fileChange | .elicitation => some (ids.key request, .approval)
  | .attestation | .other _ => none

section
variable {ids : JsonIds Id} {request other : Id × ServerMethod} {id : Id} {raw requestId key title : String}
  {decision : PermissionDecision}

lemma stripElicit_tagged : stripElicit (elicitPrefix ++ raw) = some raw := by
  rw [stripElicit, String.toList_append, List.dropPrefix?_append_of_beq _ BEq.rfl]
  simp

lemma stripElicit_eq_some (h : stripElicit requestId = some raw) : requestId = elicitPrefix ++ raw := by
  obtain ⟨chars, dropped, rfl⟩ := Option.map_eq_some_iff.mp h
  obtain ⟨front, split, same⟩ := List.dropPrefix?_eq_some_iff.mp dropped
  cases eq_of_beq same
  apply String.toList_inj.mp
  rw [split, String.toList_append, String.toList_ofList]

lemma stripElicit_toString : stripElicit (ids.toString id) = none := by
  cases stripped : stripElicit (ids.toString id) with
  | none => rfl
  | some raw =>
    have tagged := congrArg String.toList (stripElicit_eq_some stripped)
    rw [String.toList_append] at tagged
    exact absurd ⟨_, tagged.symm⟩ (ids.untagged id)

lemma toString_ne_tagged : ids.toString id ≠ elicitPrefix ++ raw := by
  intro same
  have stripped : stripElicit (ids.toString id) = none := stripElicit_toString
  rw [same, stripElicit_tagged] at stripped
  cases stripped

def JsonIds.Parses (ids : JsonIds Id) (id : Id) : Prop := ids.fromStr (ids.toString id) = some id

lemma JsonIds.Parses.parse (h : ids.Parses id) : ids.parse (ids.toString id) = id := by
  rw [JsonIds.parse, h]
  rfl

lemma key_injective (parses : ids.Parses request.1) (parses' : ids.Parses other.1)
    (same : ids.key request = ids.key other) : request.1 = other.1 := by
  simp only [JsonIds.key] at same
  split_ifs at same
  · have texts := congrArg stripElicit same
    rw [stripElicit_tagged, stripElicit_tagged, Option.some.injEq] at texts
    rw [← parses.parse, texts, parses'.parse]
  · exact (toString_ne_tagged same.symm).elim
  · exact (toString_ne_tagged same).elim
  · rw [← parses.parse, same, parses'.parse]

lemma key_tagged (tagged : ids.key request = elicitPrefix ++ raw) :
    request.2 = .elicitation ∧ ids.toString request.1 = raw := by
  simp only [JsonIds.key] at tagged
  split_ifs at tagged with elicits
  · have stripped := congrArg stripElicit tagged
    rw [stripElicit_tagged, stripElicit_tagged, Option.some.injEq] at stripped
    exact ⟨elicits, stripped⟩
  · exact (toString_ne_tagged tagged).elim

lemma permissionResponse_key (parses : ids.Parses request.1) (key : ids.key request = requestId) :
    (permissionResponse ids requestId decision).id = request.1 := by
  subst key
  simp only [JsonIds.key]
  split_ifs
  · rw [permissionResponse, stripElicit_tagged]
    exact parses.parse
  · rw [permissionResponse, stripElicit_toString]
    exact parses.parse

lemma not_fits_elicitation
    (fits : (permissionResponse ids (ids.toString id) decision).body.Fits .elicitation) : False := by
  rw [permissionResponse, stripElicit_toString] at fits
  exact fits

lemma shown_key {card : Request} (h : ids.shown request = some card) : card.1 = ids.key request := by
  unfold JsonIds.shown at h
  split at h <;> cases h <;> rfl

end

namespace RequestRun

variable [DecidableEq Id] (ids : JsonIds Id) (s : RequestRun Id)

/-- The requests that have been shown and that no event has resolved. -/
def asked : List Request := outstanding s.events

/-- A request that has neither been answered nor closed. -/
def Open (request : Id × ServerMethod) : Prop :=
  request ∈ s.owed ∧ request ∈ s.unresolved

/-- The requests that wait for a response as the event comes. -/
def owing : Event Id → List (Id × ServerMethod)
  | .request id method _ => (id, method) :: s.owed
  | _ => s.owed

def responses (e : Event Id) : List (RpcResponse Id) :=
  (s.next ids e).written.drop s.written.length

def emitted (e : Event Id) : List SessionEvent :=
  (s.next ids e).events.drop s.events.length

def Answerable (request : Id × ServerMethod) : Prop :=
  if request.2 = .authRefresh then s.pendingAuthId = some request.1
  else (s.pendingToolApprovals[ids.key request]?).isSome

def Unwritten : Event Id → Prop
  | .answerPermission _ _ write | .answerAuth _ write => write ≠ .written
  | _ => False

/-- What an event must keep. -/
structure Lawful (s : RequestRun Id) (e : Event Id) : Prop where
  /-- a response answers a request that waits for one, in the shape of its method -/
  answers : s.responses ids e = [] ∨ ∃ response, s.responses ids e = [response] ∧
    ∃ method, (response.id, method) ∈ s.owing e ∧ response.body.Fits method
  /-- a request that nobody is asked about is rejected at once -/
  rejects : ∀ id method, e = .request id method .written → s.process = .live →
    ids.shown (id, method) = none → ids.isNull id = false →
    ∃ response ∈ s.responses ids e, response.id = id
  /-- a resolution is shown with the id and the kind of its request -/
  resolves : ∀ event ∈ s.emitted ids e, ∀ request, event.resolves = some request → request ∈ s.asked
  /-- nothing is required of the user once everything is resolved -/
  counters : (∀ request ∈ (s.next ids e).unresolved, ids.shown request = none) →
    ∀ epoch, isRequiresAction
      ((s.next ids e).events.foldl Session.next (.running (freshTurn epoch))) = false
  /-- a request survives an answer that is not written -/
  answerable : Unwritten e → ∀ request ∈ s.owed, s.Answerable ids request →
    (s.next ids e).Answerable ids request
  /-- the registry lists the open requests that a user decides -/
  registry : ∀ key title, (s.next ids e).pendingToolApprovals[key]? = some title ↔
    ∃ request, (s.next ids e).Open request ∧ request.2.title = some title ∧ ids.key request = key

/-- What the server and the pipe can do. The text of an id parses back, as that of every string and of
every integer does, and an id is not used again before its request is answered and closed. -/
def Possible : Event Id → Prop
  | .request id _ _ => s.process = .live →
    ids.Parses id ∧ ∀ request ∈ s.owed ++ s.unresolved, request.1 ≠ id
  | .answerPermission _ _ write | .answerAuth _ write => write = .written → s.process = .live
  | .resolved id => s.process = .live → ∃ request ∈ s.unresolved, request.1 = id
  | .exit | .stop | .wake => True

instance (e : Event Id) : Decidable (s.Possible ids e) := by
  unfold Possible JsonIds.Parses
  split <;> infer_instance

/-- The stash says of which kind the request is that the server closes. -/
def Told (id : Id) : ServerMethod → Prop
  | .commandExecution | .fileChange => s.pendingAuthId ≠ some id
  | .authRefresh => s.pendingAuthId = some id
  | .elicitation | .attestation | .other _ => False

instance (id : Id) (method : ServerMethod) : Decidable (s.Told id method) := by
  unfold Told
  split <;> infer_instance

/-- The condition under which the backend keeps the law. -/
def Heeded : Event Id → Prop
  | .answerPermission requestId decision write => write = .written →
    ∃ request ∈ s.owed, request.1 = (permissionResponse ids requestId decision).id ∧
      (permissionResponse ids requestId decision).body.Fits request.2 ∧
      (request ∈ s.unresolved → ids.key request = requestId)
  | .answerAuth _ write => ∀ id ∈ s.pendingAuthId, write = .written ↔ (id, .authRefresh) ∈ s.owed
  | .resolved id => s.process = .live → ∀ request ∈ s.unresolved, request.1 = id → s.Told id request.2
  | .exit | .stop => s.process = .live → ∀ request ∈ s.owed, request ∈ s.unresolved → request.2.title = none
  | .request _ _ _ | .wake => True

instance (e : Event Id) : Decidable (s.Heeded ids e) := by
  unfold Heeded
  split <;> infer_instance

variable {ids} {s t : RequestRun Id} {e : Event Id} {id : Id} {write : Write}

/-- The invariant of the runs that heed the condition. -/
structure Tracked (ids : JsonIds Id) (s : RequestRun Id) : Prop where
  unique : ∀ request ∈ s.owed ++ s.unresolved, ∀ other ∈ s.owed ++ s.unresolved,
    request.1 = other.1 → request = other
  parses : ∀ request ∈ s.owed ++ s.unresolved, ids.Parses request.1
  registry : ∀ key title, s.pendingToolApprovals[key]? = some title ↔
    ∃ request, s.Open request ∧ request.2.title = some title ∧ ids.key request = key
  asked : ∀ card, card ∈ s.asked ↔ ∃ request ∈ s.unresolved, ids.shown request = some card
  counted : Counted s.events
  idle : s.process ≠ .live → s.owed = [] ∧ s.unresolved = []

omit [DecidableEq Id] in
lemma tracked_start : Tracked ids (start Id) where
  unique := nofun
  parses := nofun
  registry key title := by simp [start, Open]
  asked card := by simp [start, asked, outstanding]
  counted := counted_nil
  idle live := absurd rfl live

omit [DecidableEq Id] in
lemma Tracked.emit {event : SessionEvent} (h : Tracked ids s) (aloof : Aloof event)
    (same : ∀ turn, ¬ Accepted (.running turn) event)
    (runs : ∀ turn, ∃ turn', Session.next (.running turn) event = .running turn') :
    Tracked ids (s.emit event) where
  unique := h.unique
  parses := h.parses
  registry := h.registry
  asked card := by
    have quiet : (s.emit event).asked = s.asked := by
      rw [RequestRun.asked, RequestRun.emit, outstanding_append]
      exact aloof.pend
    rw [quiet]
    exact h.asked card
  counted := h.counted.append same runs (by simp [aloof.1]) (by simp [aloof.2])
  idle := h.idle

omit [DecidableEq Id] in
/-- The server sends a request under an id that is not in use. -/
lemma Tracked.received {method : ServerMethod} (h : Tracked ids s) (live : s.process = .live)
    (parses : ids.Parses id) (fresh : ∀ request ∈ s.owed ++ s.unresolved, request.1 ≠ id)
    (owed : t.owed = (id, method) :: s.owed) (unresolved : t.unresolved = (id, method) :: s.unresolved)
    (process : t.process = s.process)
    (registry : ∀ key title, t.pendingToolApprovals[key]? = some title ↔
      (method.title = some title ∧ ids.key (id, method) = key) ∨
        s.pendingToolApprovals[key]? = some title)
    (asked : ∀ card, card ∈ t.asked ↔ card ∈ s.asked ∨ ids.shown (id, method) = some card)
    (counted : Counted t.events) : Tracked ids t := by
  have grown : ∀ request, request ∈ t.owed ++ t.unresolved ↔
      request = (id, method) ∨ request ∈ s.owed ++ s.unresolved := by
    intro request
    simp only [owed, unresolved, List.mem_append, List.mem_cons]
    tauto
  have opened : ∀ request, t.Open request ↔ request = (id, method) ∨ s.Open request := by
    intro request
    have absent : (id, method) ∉ s.owed ∧ (id, method) ∉ s.unresolved := by
      constructor
      · exact fun mem => fresh _ (List.mem_append_left _ mem) rfl
      · exact fun mem => fresh _ (List.mem_append_right _ mem) rfl
    simp only [Open, owed, unresolved, List.mem_cons]
    tauto
  constructor
  · intro request mem other mem' same
    rcases (grown request).mp mem with rfl | mem <;> rcases (grown other).mp mem' with rfl | mem'
    · rfl
    · exact absurd same.symm (fresh other mem')
    · exact absurd same (fresh request mem)
    · exact h.unique request mem other mem' same
  · intro request mem
    rcases (grown request).mp mem with rfl | mem
    · exact parses
    · exact h.parses request mem
  · intro key title
    rw [registry, h.registry]
    constructor
    · rintro (⟨titled, same⟩ | ⟨request, found, titled, same⟩)
      · exact ⟨_, (opened _).mpr (.inl rfl), titled, same⟩
      · exact ⟨request, (opened _).mpr (.inr found), titled, same⟩
    · rintro ⟨request, found, titled, same⟩
      rcases (opened request).mp found with rfl | found
      · exact .inl ⟨titled, same⟩
      · exact .inr ⟨request, found, titled, same⟩
  · intro card
    rw [asked, h.asked, unresolved]
    simp only [List.mem_cons, exists_eq_or_imp]
    exact or_comm
  · exact counted
  · exact fun idle => absurd (process ▸ live) idle

lemma Tracked.answered (h : Tracked ids s) (owed : t.owed = s.owed.filter fun request => request.1 ≠ id)
    (unresolved : t.unresolved = s.unresolved) (process : t.process = s.process)
    (events : t.events = s.events)
    (registry : ∀ key title, t.pendingToolApprovals[key]? = some title ↔
      ∃ request, (s.Open request ∧ request.1 ≠ id) ∧ request.2.title = some title ∧
        ids.key request = key) : Tracked ids t := by
  have less : ∀ request, request ∈ t.owed ++ t.unresolved → request ∈ s.owed ++ s.unresolved := by
    intro request mem
    rw [owed, unresolved] at mem
    rcases List.mem_append.mp mem with mem | mem
    · exact List.mem_append_left _ (List.mem_of_mem_filter mem)
    · exact List.mem_append_right _ mem
  have opened : ∀ request, t.Open request ↔ s.Open request ∧ request.1 ≠ id := by
    intro request
    simp only [Open, owed, unresolved, List.mem_filter, decide_eq_true_eq]
    tauto
  constructor
  · exact fun request mem other mem' => h.unique request (less _ mem) other (less _ mem')
  · exact fun request mem => h.parses request (less _ mem)
  · intro key title
    simp only [registry, opened]
  · intro card
    rw [RequestRun.asked, events, unresolved]
    exact h.asked card
  · exact events ▸ h.counted
  · intro idle
    obtain ⟨none, nothing⟩ := h.idle (process ▸ idle)
    rw [owed, unresolved, none]
    exact ⟨rfl, nothing⟩

omit [DecidableEq Id] in
lemma Tracked.removed (h : Tracked ids s) {requestId : String}
    (named : ∀ request, s.Open request → request.2.title ≠ none →
      (request.1 = id ↔ ids.key request = requestId))
    (untagged : ∀ request, s.Open request → ids.key request ≠ elicitPrefix ++ requestId)
    (key title : String) :
    (removePendingToolApproval s.pendingToolApprovals requestId)[key]? = some title ↔
      ∃ request, (s.Open request ∧ request.1 ≠ id) ∧ request.2.title = some title ∧
        ids.key request = key := by
  have entry : (removePendingToolApproval s.pendingToolApprovals requestId)[key]? = some title ↔
      s.pendingToolApprovals[key]? = some title ∧ requestId ≠ key := by
    rw [removePendingToolApproval]
    split
    case isTrue => rw [Table.get_erase_some, and_comm]
    case isFalse absent =>
      rw [Table.get_erase_some]
      constructor
      · rintro ⟨-, found⟩
        refine ⟨found, fun same => absent ?_⟩
        rw [same, found]
        rfl
      · rintro ⟨found, -⟩
        refine ⟨fun same => ?_, found⟩
        obtain ⟨request, opened, -, tagged⟩ := (h.registry key title).mp found
        exact untagged request opened (tagged.trans same.symm)
  rw [entry, h.registry]
  constructor
  · rintro ⟨⟨request, opened, titled, same⟩, ne⟩
    refine ⟨request, ⟨opened, fun mine => ne ?_⟩, titled, same⟩
    rw [← (named request opened (by simp [titled])).mp mine, same]
  · rintro ⟨request, ⟨opened, ne⟩, titled, same⟩
    refine ⟨⟨request, opened, titled, same⟩, fun mine => ne ?_⟩
    exact (named request opened (by simp [titled])).mpr (same.trans mine.symm)

omit [DecidableEq Id] in
lemma Tracked.closed (h : Tracked ids s) (process : ProcessState)
    (decided : ∀ request ∈ s.owed, request ∈ s.unresolved → request.2.title = none) :
    Tracked ids (s.close process) where
  unique := nofun
  parses := nofun
  registry key title := by
    simp only [close, Open, List.not_mem_nil, false_and, exists_false, iff_false]
    intro listed
    obtain ⟨request, opened, titled, -⟩ := (h.registry key title).mp listed
    rw [decided request opened.1 opened.2] at titled
    cases titled
  asked card := by simp [close, RequestRun.asked, outstanding]
  counted := counted_nil
  idle _ := ⟨rfl, rfl⟩

omit [DecidableEq Id] in
lemma Tracked.closed_idle (h : Tracked ids s) (process : ProcessState) (idle : s.process ≠ .live) :
    Tracked ids (s.close process) := by
  apply h.closed
  intro request mem
  rw [(h.idle idle).1] at mem
  cases mem

omit [DecidableEq Id] in
lemma Tracked.shows (h : Tracked ids s) (method : ServerMethod) (kind : PermissionKind)
    (parses : ids.Parses id) (fresh : ∀ request ∈ s.owed ++ s.unresolved, request.1 ≠ id)
    (shown : ids.shown (id, method) = some (ids.key (id, method), kind.waitingOn)) :
    (∀ card, card ∈ outstanding (s.events ++ [.permission (ids.key (id, method)) kind]) ↔
      card ∈ s.asked ∨ ids.shown (id, method) = some card) ∧
    Counted (s.events ++ [.permission (ids.key (id, method)) kind]) := by
  constructor
  · intro card
    rw [shown, outstanding_append, List.foldl_cons, List.foldl_nil, pend_of_raises rfl]
    simp [RequestRun.asked, eq_comm]
  · refine h.counted.append (fun _ accepted => accepted) (fun _ => ⟨_, rfl⟩) ?_ ?_
    case refine_2 =>
      intro answer resolves
      cases resolves
    intro card raised other outstanding same
    cases raised
    obtain ⟨request, found, shows⟩ := (h.asked other).mp outstanding
    have mem := List.mem_append_right s.owed found
    apply fresh request mem
    exact key_injective (h.parses request mem) parses ((shown_key shows).symm.trans same)

omit [DecidableEq Id] in
lemma Tracked.surfaced {title : String} (h : Tracked ids s) (method : ServerMethod)
    (live : s.process = .live) (parses : ids.Parses id)
    (fresh : ∀ request ∈ s.owed ++ s.unresolved, request.1 ≠ id) (titled : method.title = some title) :
    Tracked ids
      ({ s with owed := (id, method) :: s.owed, unresolved := (id, method) :: s.unresolved }.surface
        (ids.key (id, method)) title) := by
  have shown : ids.shown (id, method) = some (ids.key (id, method), .approval) := by
    cases method <;> first | rfl | cases titled
  obtain ⟨asked, counted⟩ := h.shows method .tool parses fresh shown
  refine h.received live parses fresh rfl rfl rfl ?_ asked counted
  intro key other
  simp only [surface, RequestRun.emit, Table.get_insert, titled, Option.some.injEq]
  by_cases same : ids.key (id, method) = key
  · have unlisted : s.pendingToolApprovals[key]? ≠ some other := by
      intro listed
      obtain ⟨request, opened, -, key⟩ := (h.registry _ _).mp listed
      have mem := List.mem_append_left s.unresolved opened.1
      exact fresh request mem (key_injective (h.parses request mem) parses (key.trans same.symm))
    simp [same, unlisted]
  · simp [same]

lemma Tracked.stashed (h : Tracked ids s) (live : s.process = .live) (parses : ids.Parses id)
    (fresh : ∀ request ∈ s.owed ++ s.unresolved, request.1 ≠ id) :
    Tracked ids ((s.receive ids id .authRefresh).handleReverseRpc ids id write .authRefresh) := by
  obtain ⟨asked, counted⟩ := h.shows .authRefresh .auth parses fresh rfl
  refine h.received live parses fresh rfl rfl rfl ?_ asked counted
  simp [receive, handleReverseRpc, RequestRun.emit, ServerMethod.title]

lemma Tracked.writes {method : ServerMethod} {body : ResponseBody} (h : Tracked ids s)
    (owes : (id, method) ∈ s.owed) (untitled : method.title = none) :
    Tracked ids (s.writeFrame ⟨id, body⟩ write).2 := by
  cases write with
  | unavailable | failed => exact h
  | written =>
    refine h.answered rfl rfl rfl rfl ?_
    intro key title
    refine (h.registry key title).trans ?_
    constructor
    · rintro ⟨request, opened, titled, same⟩
      refine ⟨request, ⟨opened, fun mine => ?_⟩, titled, same⟩
      have first := h.unique request (List.mem_append_left _ opened.1) (id, method)
        (List.mem_append_left _ owes) mine
      rw [first, untitled] at titled
      cases titled
    · rintro ⟨request, ⟨opened, -⟩, titled, same⟩
      exact ⟨request, opened, titled, same⟩

lemma Tracked.rejected {method : ServerMethod} (h : Tracked ids s) (live : s.process = .live)
    (parses : ids.Parses id) (fresh : ∀ request ∈ s.owed ++ s.unresolved, request.1 ≠ id)
    (untitled : method.title = none) (unseen : ids.shown (id, method) = none) {code : Int}
    {message tag : String} :
    Tracked ids
      (({ s with owed := (id, method) :: s.owed, unresolved := (id, method) :: s.unresolved }.writeFrame
        ⟨id, .error code message⟩ write).2.emit (.adapterSpecific tag)) := by
  have received : Tracked ids
      { s with owed := (id, method) :: s.owed, unresolved := (id, method) :: s.unresolved } := by
    refine h.received live parses fresh rfl rfl rfl ?_ ?_ h.counted
    · simp [untitled]
    · simp [unseen, RequestRun.asked]
  exact (received.writes (.head _) untitled).emit ⟨rfl, rfl⟩ (fun _ accepted => accepted)
    fun _ => ⟨_, rfl⟩

lemma Tracked.request {method : ServerMethod} (h : Tracked ids s) (live : s.process = .live)
    (parses : ids.Parses id) (fresh : ∀ request ∈ s.owed ++ s.unresolved, request.1 ≠ id) :
    Tracked ids ((s.receive ids id method).handleReverseRpc ids id write method) := by
  cases method with
  | authRefresh => exact h.stashed live parses fresh
  | commandExecution => exact h.surfaced .commandExecution live parses fresh rfl
  | fileChange => exact h.surfaced .fileChange live parses fresh rfl
  | elicitation => exact h.surfaced .elicitation live parses fresh rfl
  | attestation | other =>
    simp only [receive, handleReverseRpc, writeReverseError]
    split
    case isTrue => exact h.emit ⟨rfl, rfl⟩ (fun _ accepted => accepted) fun _ => ⟨_, rfl⟩
    case isFalse => exact h.rejected live parses fresh rfl rfl

lemma Tracked.answerPermission {requestId : String} {decision : PermissionDecision} (h : Tracked ids s)
    (heeded : s.Heeded ids (.answerPermission requestId decision write)) :
    Tracked ids (s.answerPermission ids requestId decision write).2 := by
  cases write with
  | unavailable | failed => exact h
  | written =>
    obtain ⟨request, owes, mine, fits, named⟩ := heeded rfl
    have mem := List.mem_append_left s.unresolved owes
    refine h.answered rfl rfl rfl rfl (h.removed ?_ ?_)
    · intro other opened _
      have found := List.mem_append_left s.unresolved opened.1
      constructor
      · intro same
        cases h.unique other found request mem (same.trans mine.symm)
        exact named opened.2
      · exact fun same => (permissionResponse_key (h.parses other found) same).symm
    · intro other opened tagged
      have found := List.mem_append_left s.unresolved opened.1
      obtain ⟨elicits, text⟩ := key_tagged tagged
      subst text
      have own : (permissionResponse ids (ids.toString other.1) decision).id = other.1 := by
        rw [permissionResponse, stripElicit_toString]
        exact (h.parses other found).parse
      cases h.unique other found request mem (own.symm.trans mine.symm)
      rw [elicits] at fits
      exact not_fits_elicitation fits

lemma Tracked.answerAuth {credentials : List (String × String)} (h : Tracked ids s)
    (heeded : s.Heeded ids (.answerAuth credentials write)) :
    Tracked ids (s.answerAuth credentials write).2 := by
  rw [RequestRun.answerAuth]
  cases stash : s.pendingAuthId with
  | none => exact h
  | some id =>
    have emptied : Tracked ids { s with pendingAuthId := none } :=
      ⟨h.unique, h.parses, h.registry, h.asked, h.counted, h.idle⟩
    cases write with
    | unavailable | failed => exact emptied
    | written => exact emptied.writes ((heeded id stash).mp rfl) rfl

lemma shown_of_heeded (live : s.process = .live)
    (possible : s.Possible ids (.resolved id)) (heeded : s.Heeded ids (.resolved id)) :
    ∃ request ∈ s.unresolved, request.1 = id ∧ request.2 ≠ .elicitation ∧
      ids.shown request = some (ids.toString id,
        (if s.pendingAuthId = some id then PermissionKind.auth else .tool).waitingOn) := by
  obtain ⟨⟨id', method⟩, found, rfl⟩ := possible live
  have told := heeded live _ found rfl
  refine ⟨_, found, rfl, ?_⟩
  cases method with
  | commandExecution | fileChange =>
    rw [if_neg told]
    exact ⟨nofun, rfl⟩
  | authRefresh =>
    have stash : s.pendingAuthId = some id' := told
    rw [if_pos stash]
    exact ⟨nofun, rfl⟩
  | elicitation | attestation | other => exact told.elim

/-- A resolution that heeds the condition keeps the invariant. -/
lemma Tracked.resolved (h : Tracked ids s) (live : s.process = .live)
    (possible : s.Possible ids (.resolved id)) (heeded : s.Heeded ids (.resolved id)) :
    Tracked ids (s.serverRequestResolved ids id) := by
  obtain ⟨request, found, mine, plain, shows⟩ := shown_of_heeded live possible heeded
  have mem := List.mem_append_right s.owed found
  have key : ids.key request = ids.toString id := (shown_key shows).symm
  have same_of_key : ∀ other ∈ s.owed ++ s.unresolved, ids.key other = ids.toString id →
      other.1 = id := by
    intro other mem' same
    exact (key_injective (h.parses other mem') (h.parses request mem) (same.trans key.symm)).trans mine
  have less : ∀ other, other ∈ s.owed ++ s.unresolved.filter (fun request => request.1 ≠ id) →
      other ∈ s.owed ++ s.unresolved := by
    intro other mem'
    rcases List.mem_append.mp mem' with mem' | mem'
    · exact List.mem_append_left _ mem'
    · exact List.mem_append_right _ (List.mem_of_mem_filter mem')
  have named : ∀ other, s.Open other → other.2.title ≠ none →
      (other.1 = id ↔ ids.key other = ids.toString id) := by
    intro other opened _
    have mem' := List.mem_append_left s.unresolved opened.1
    refine ⟨fun same => ?_, same_of_key other mem'⟩
    cases h.unique other mem' request mem (same.trans mine.symm)
    exact key
  have untagged : ∀ other, s.Open other → ids.key other ≠ elicitPrefix ++ ids.toString id := by
    intro other opened tagged
    have mem' := List.mem_append_left s.unresolved opened.1
    obtain ⟨elicits, text⟩ := key_tagged tagged
    have same : other.1 = request.1 := by
      rw [← (h.parses other mem').parse, text, ← mine, (h.parses request mem).parse]
    cases h.unique other mem' request mem same
    exact plain elicits
  constructor
  · exact fun other mem other' mem' => h.unique other (less _ mem) other' (less _ mem')
  · exact fun other mem => h.parses other (less _ mem)
  · intro name title
    refine (h.removed named untagged name title).trans ?_
    simp [serverRequestResolved, RequestRun.emit, Open, and_assoc]
  · intro card
    rw [RequestRun.asked, serverRequestResolved, RequestRun.emit, outstanding_append, List.foldl_cons,
      List.foldl_nil, pend_of_resolves rfl]
    simp only [List.mem_filter, decide_eq_true_eq]
    constructor
    · rintro ⟨outstanding, ne⟩
      obtain ⟨other, found', shows'⟩ := (h.asked card).mp outstanding
      refine ⟨other, ⟨found', fun same => ne ?_⟩, shows'⟩
      cases h.unique other (List.mem_append_right _ found') request mem (same.trans mine.symm)
      rw [← key, shown_key shows']
    · rintro ⟨other, ⟨found', ne⟩, shows'⟩
      refine ⟨(h.asked card).mpr ⟨other, found', shows'⟩, fun same => ne ?_⟩
      exact same_of_key other (List.mem_append_right _ found')
        ((shown_key shows').symm.trans same)
  · refine h.counted.append (fun _ accepted => accepted) (fun _ => ⟨_, rfl⟩) ?_ ?_
    · intro card raised
      cases raised
    · intro answer resolves
      cases resolves
      exact (h.asked _).mpr ⟨request, found, shows⟩
  · exact fun idle => absurd live idle

lemma Tracked.next (h : Tracked ids s) (possible : s.Possible ids e) (heeded : s.Heeded ids e) :
    Tracked ids (s.next ids e) := by
  cases e with
  | request id method write =>
    simp only [RequestRun.next]
    split
    case isTrue live => exact h.request live (possible live).1 (possible live).2
    case isFalse => exact h
  | answerPermission requestId decision write => exact h.answerPermission heeded
  | answerAuth credentials write => exact h.answerAuth heeded
  | resolved id =>
    simp only [RequestRun.next]
    split
    case isTrue live => exact h.resolved live possible heeded
    case isFalse => exact h
  | exit =>
    simp only [RequestRun.next]
    split
    case isTrue live => exact h.closed _ (heeded live)
    case isFalse => exact h
  | stop =>
    by_cases live : s.process = .live
    · exact h.closed _ (heeded live)
    · exact h.closed_idle _ live
  | wake =>
    simp only [RequestRun.next]
    split
    case isTrue dormant => exact h.closed_idle _ (by simp [dormant])
    case isFalse => exact h

lemma writeFrame_written (response : RpcResponse Id) :
    (s.writeFrame response write).2.written =
      s.written ++ if write = .written then [response] else [] := by
  cases write <;> simp [writeFrame]

lemma writeFrame_events (response : RpcResponse Id) :
    (s.writeFrame response write).2.events = s.events := by
  cases write <;> rfl

lemma responses_request {method : ServerMethod} (live : s.process = .live) :
    s.responses ids (.request id method write) =
      if ids.shown (id, method) = none ∧ ids.isNull id = false ∧ write = .written then
        [⟨id, .error (-32601) (if method = .attestation then "client cannot supply codex attestation"
          else "method not handled by aionui-session")⟩]
      else [] := by
  rw [responses, RequestRun.next, if_pos live]
  cases method with
  | authRefresh | commandExecution | fileChange | elicitation =>
    simp [receive, handleReverseRpc, surface, RequestRun.emit, JsonIds.shown]
  | attestation | other =>
    by_cases null : ids.isNull id = true <;> by_cases written : write = .written <;>
      simp [receive, handleReverseRpc, writeReverseError, writeFrame_written, RequestRun.emit,
        JsonIds.shown, null, written]

lemma responses_answerPermission {requestId : String} {decision : PermissionDecision} :
    s.responses ids (.answerPermission requestId decision write) =
      if write = .written then [permissionResponse ids requestId decision] else [] := by
  cases write <;> simp [responses, RequestRun.next, RequestRun.answerPermission, writeFrame]

lemma responses_answerAuth {credentials : List (String × String)} :
    s.responses ids (.answerAuth credentials write) =
      if write = .written then
        (s.pendingAuthId.map fun id => ⟨id, tokensBody credentials⟩).toList else [] := by
  rw [responses, RequestRun.next, RequestRun.answerAuth]
  cases s.pendingAuthId with
  | none => simp
  | some id => simp [writeFrame_written]

lemma responses_quiet (quiet : match e with
    | .request _ _ _ => s.process ≠ .live
    | .answerPermission _ _ _ | .answerAuth _ _ => False
    | _ => True) : s.responses ids e = [] := by
  rw [responses]
  cases e with
  | request id method write => simp [RequestRun.next, quiet]
  | answerPermission | answerAuth => exact quiet.elim
  | resolved | exit | wake =>
    simp only [RequestRun.next]
    split <;> simp [serverRequestResolved, RequestRun.emit, close]
  | stop => simp [RequestRun.next, close]

lemma answers_of_heeded (heeded : s.Heeded ids e) :
    s.responses ids e = [] ∨ ∃ response, s.responses ids e = [response] ∧
      ∃ method, (response.id, method) ∈ s.owing e ∧ response.body.Fits method := by
  cases e with
  | request id method write =>
    by_cases live : s.process = .live
    · rw [responses_request live]
      split
      case isTrue rejects =>
        refine .inr ⟨_, rfl, method, .head _, ?_⟩
        cases method <;> first | exact trivial | cases rejects.1
      case isFalse => exact .inl rfl
    · exact .inl (responses_quiet live)
  | answerPermission requestId decision write =>
    rw [responses_answerPermission]
    split
    case isTrue written =>
      obtain ⟨request, owes, mine, fits, -⟩ := heeded written
      exact .inr ⟨_, rfl, request.2, mine ▸ owes, fits⟩
    case isFalse => exact .inl rfl
  | answerAuth credentials write =>
    rw [responses_answerAuth]
    split
    case isTrue written =>
      cases stash : s.pendingAuthId with
      | none => exact .inl rfl
      | some id => exact .inr ⟨_, rfl, .authRefresh, (heeded id stash).mp written, trivial⟩
    case isFalse => exact .inl rfl
  | resolved | exit | stop | wake => exact .inl (responses_quiet trivial)

lemma emitted_request {method : ServerMethod} {event : SessionEvent}
    (mem : event ∈ s.emitted ids (.request id method write)) : event.resolves = none := by
  rw [emitted, RequestRun.next] at mem
  split at mem
  case isFalse => simp at mem
  case isTrue =>
    cases method with
    | authRefresh | commandExecution | fileChange | elicitation =>
      simp only [receive, handleReverseRpc, surface, RequestRun.emit, List.drop_left,
        List.mem_singleton] at mem
      subst mem
      rfl
    | attestation | other =>
      by_cases null : ids.isNull id = true <;>
        simp only [receive, handleReverseRpc, writeReverseError, null, if_true, Bool.false_eq_true,
          if_false, RequestRun.emit, writeFrame_events, List.drop_left, List.mem_singleton] at mem <;>
        subst mem <;> rfl

lemma emitted_quiet {event : SessionEvent} {card : Request} (mem : event ∈ s.emitted ids e)
    (resolves : event.resolves = some card) :
    ∃ id, e = .resolved id ∧ s.process = .live ∧ card = (ids.toString id,
      (if s.pendingAuthId = some id then PermissionKind.auth else .tool).waitingOn) := by
  cases e with
  | request id method write =>
    rw [emitted_request mem] at resolves
    cases resolves
  | answerPermission requestId decision write =>
    cases write <;>
      simp [emitted, RequestRun.next, RequestRun.answerPermission, writeFrame] at mem
  | answerAuth credentials write =>
    rw [emitted, RequestRun.next, RequestRun.answerAuth] at mem
    cases stash : s.pendingAuthId with
    | none => simp [stash] at mem
    | some id => simp [stash, writeFrame_events] at mem
  | resolved id =>
    rw [emitted, RequestRun.next] at mem
    split at mem
    case isFalse => simp at mem
    case isTrue live =>
      simp only [serverRequestResolved, RequestRun.emit, List.drop_left, List.mem_singleton] at mem
      subst mem
      cases resolves
      exact ⟨id, rfl, live, rfl⟩
  | exit | wake =>
    rw [emitted, RequestRun.next] at mem
    split at mem <;> simp [close] at mem
  | stop => simp [emitted, RequestRun.next, close] at mem

/-- A step that heeds the condition keeps the law. -/
lemma Tracked.lawful (h : Tracked ids s) (possible : s.Possible ids e) (heeded : s.Heeded ids e) :
    s.Lawful ids e where
  answers := answers_of_heeded heeded
  rejects id method same live unseen given := by
    subst same
    rw [responses_request live, if_pos ⟨unseen, given, rfl⟩]
    exact ⟨_, .head _, rfl⟩
  resolves event mem card resolves := by
    obtain ⟨id, rfl, live, rfl⟩ := emitted_quiet mem resolves
    obtain ⟨request, found, -, -, shows⟩ := shown_of_heeded live possible heeded
    exact (h.asked _).mpr ⟨request, found, shows⟩
  counters unseen epoch := by
    have kept := h.next possible heeded
    have none : (s.next ids e).asked = [] := by
      apply List.eq_nil_iff_forall_not_mem.mpr
      intro card mem
      obtain ⟨request, found, shows⟩ := (kept.asked card).mp mem
      rw [unseen request found] at shows
      cases shows
    obtain ⟨turn, fold, covered⟩ := kept.counted.counters epoch
    rw [fold]
    exact Covered.quiet (none ▸ covered)
  answerable unwritten request owes answerable := by
    cases e with
    | answerPermission requestId decision write =>
      cases write with
      | written => exact absurd rfl unwritten
      | unavailable | failed => exact answerable
    | answerAuth credentials write =>
      rw [RequestRun.next, RequestRun.answerAuth]
      cases stash : s.pendingAuthId with
      | none => exact answerable
      | some id =>
        have unowed : (id, .authRefresh) ∉ s.owed := fun owes =>
          unwritten ((heeded id stash).mpr owes)
        have same : ∀ response, ({ s with pendingAuthId := none }.writeFrame response write).2 =
            { s with pendingAuthId := none } := by
          cases write with
          | written => exact absurd rfl unwritten
          | unavailable | failed => exact fun _ => rfl
        simp only [same, Answerable] at answerable ⊢
        split
        case isTrue auth =>
          rw [if_pos auth, stash, Option.some.injEq] at answerable
          rw [answerable, ← auth] at unowed
          exact absurd owes unowed
        case isFalse other => simpa [other] using answerable
    | _ => exact unwritten.elim
  registry := (h.next possible heeded).registry

lemma removed_key {pending : Table String String} {requestId key title : String}
    (found : pending[key]? = some title)
    (gone : (removePendingToolApproval pending requestId)[key]? ≠ some title) :
    key = requestId ∨ key = elicitPrefix ++ requestId := by
  rw [removePendingToolApproval] at gone
  split at gone
  case isTrue => exact .inl (by_contra fun ne => gone (Table.get_erase_some.mpr ⟨Ne.symm ne, found⟩))
  case isFalse => exact .inr (by_contra fun ne => gone (Table.get_erase_some.mpr ⟨Ne.symm ne, found⟩))

omit [DecidableEq Id] in
lemma titled_of_fits {requestId : String} {decision : PermissionDecision} {method : ServerMethod}
    (fits : (permissionResponse ids requestId decision).body.Fits method) :
    ∃ title, method.title = some title := by
  rw [permissionResponse] at fits
  split at fits <;> cases method <;> first | exact ⟨_, rfl⟩ | exact fits.elim

lemma Tracked.heeded_answerPermission {requestId : String} {decision : PermissionDecision}
    (h : Tracked ids s) (lawful : s.Lawful ids (.answerPermission requestId decision .written)) :
    s.Heeded ids (.answerPermission requestId decision .written) := by
  intro _
  have answers := lawful.answers
  rw [responses_answerPermission, if_pos rfl] at answers
  obtain nothing | ⟨response, same, method, owes, fits⟩ := answers
  · cases nothing
  cases List.singleton_injective same
  refine ⟨_, owes, rfl, fits, fun unresolved => ?_⟩
  obtain ⟨title, titled⟩ := titled_of_fits fits
  have mem := List.mem_append_left s.unresolved owes
  have listed := (h.registry _ title).mpr ⟨_, ⟨owes, unresolved⟩, titled, rfl⟩
  have gone : (removePendingToolApproval s.pendingToolApprovals requestId)[ids.key
      ((permissionResponse ids requestId decision).id, method)]? ≠ some title := by
    intro kept
    obtain ⟨other, opened, -, key⟩ := (lawful.registry _ _).mp kept
    simp only [RequestRun.next, RequestRun.answerPermission, writeFrame, Open, List.mem_filter,
      decide_eq_true_eq] at opened
    exact opened.1.2 (key_injective (h.parses other (List.mem_append_left _ opened.1.1))
      (h.parses _ mem) key)
  rcases removed_key listed gone with key | tagged
  · exact key
  · obtain ⟨elicits, text⟩ := key_tagged tagged
    cases elicits
    rw [← text] at fits
    exact (not_fits_elicitation fits).elim

lemma heeded_answerAuth {credentials : List (String × String)}
    (lawful : s.Lawful ids (.answerAuth credentials write)) :
    s.Heeded ids (.answerAuth credentials write) := by
  intro id stash
  constructor
  · intro written
    have answers := lawful.answers
    rw [responses_answerAuth, if_pos written, stash] at answers
    obtain nothing | ⟨response, same, method, owes, fits⟩ := answers
    · cases nothing
    cases List.singleton_injective same
    cases method with
    | authRefresh => exact owes
    | attestation | commandExecution | fileChange | elicitation | other => exact fits.elim
  · intro owes
    by_contra unwritten
    have answerable := lawful.answerable unwritten (id, .authRefresh) owes
      (by rw [Answerable, if_pos rfl]; exact stash)
    rw [Answerable, if_pos rfl, RequestRun.next, RequestRun.answerAuth, stash] at answerable
    cases write with
    | written => exact unwritten rfl
    | unavailable | failed => cases answerable

lemma Tracked.heeded_resolved (h : Tracked ids s) (lawful : s.Lawful ids (.resolved id)) :
    s.Heeded ids (.resolved id) := by
  intro live request found mine
  subst mine
  have emits : SessionEvent.permissionResolved (ids.toString request.1)
      (if s.pendingAuthId = some request.1 then .auth else .tool) ∈
        s.emitted ids (.resolved request.1) := by
    rw [emitted, RequestRun.next, if_pos live]
    simp [serverRequestResolved, RequestRun.emit]
  obtain ⟨other, found', shows⟩ := (h.asked _).mp (lawful.resolves _ emits _ rfl)
  have key : ids.key other = ids.toString request.1 := (shown_key shows).symm
  have mem := List.mem_append_right s.owed found
  have mem' := List.mem_append_right s.owed found'
  have untagged : other.2 ≠ .elicitation := by
    intro elicits
    rw [JsonIds.key, if_pos elicits] at key
    exact toString_ne_tagged key.symm
  have same : other.1 = request.1 := by
    rw [JsonIds.key, if_neg untagged] at key
    rw [← (h.parses other mem').parse, key, (h.parses request mem).parse]
  cases h.unique other mem' request mem same
  obtain ⟨id, method⟩ := request
  cases method with
  | commandExecution | fileChange =>
    intro stash
    rw [if_pos stash] at shows
    cases shows
  | authRefresh =>
    by_contra told
    have stash : s.pendingAuthId ≠ some id := told
    rw [if_neg stash] at shows
    cases shows
  | elicitation => exact untagged rfl
  | attestation | other => cases shows

omit [DecidableEq Id] in
lemma Tracked.decided (h : Tracked ids s) {process : ProcessState}
    (registry : ∀ key title, s.pendingToolApprovals[key]? = some title ↔
      ∃ request, (s.close process).Open request ∧ request.2.title = some title ∧
        ids.key request = key) :
    ∀ request ∈ s.owed, request ∈ s.unresolved → request.2.title = none := by
  intro request owes unresolved
  cases titled : request.2.title with
  | none => rfl
  | some title =>
    obtain ⟨other, opened, -⟩ := (registry _ title).mp
      ((h.registry _ title).mpr ⟨request, ⟨owes, unresolved⟩, titled, rfl⟩)
    cases opened.1

lemma Tracked.heeded (h : Tracked ids s) (lawful : s.Lawful ids e) : s.Heeded ids e := by
  cases e with
  | answerPermission requestId decision write =>
    intro written
    subst written
    exact h.heeded_answerPermission lawful rfl
  | answerAuth credentials write => exact heeded_answerAuth lawful
  | resolved id => exact h.heeded_resolved lawful
  | exit =>
    intro live
    have registry := lawful.registry
    simp only [RequestRun.next, if_pos live] at registry
    exact h.decided registry
  | stop => exact fun _ => h.decided lawful.registry
  | request | wake => exact trivial

/-- In every run the requests of the server are answered once and resolved as they were shown, and the
registry lists the open ones, if and only if every step heeds the condition. -/
theorem requests_paired_iff (ids : JsonIds Id) (events : List (Event Id))
    (possible : LTS.EnabledAll (Possible ids) (next ids) (start Id) events) :
    LTS.EnabledAll (Lawful ids) (next ids) (start Id) events ↔
      LTS.EnabledAll (Heeded ids) (next ids) (start Id) events :=
  LTS.enabledAll_congr (I := fun _ => True) (Q := Tracked ids) (fun _ _ _ _ => trivial)
    (fun _ _ _ h possible =>
      ⟨⟨h.heeded, h.lawful possible⟩, h.next possible⟩) possible trivial tracked_start

def quotedIds : JsonIds String where
  toString id := "\"" ++ id ++ "\""
  fromStr text :=
    match text.toList with
    | '"' :: rest => if rest.getLast? = some '"' then some (String.ofList rest.dropLast) else none
    | _ => none
  string text := text
  isNull _ := false
  untagged id := by
    simp only [String.toList_append]
    rintro ⟨rest, same⟩
    exact absurd (List.cons.inj same).1 (by decide)

/-- An approval that is answered and an elicitation that still waits, credentials that the server does
not need any more, and a question that nobody is asked. -/
theorem requests_paired_four :
    LTS.EnabledAll (Lawful quotedIds) (next quotedIds) (start String)
      [ .request "1" .commandExecution .written, .request "2" .elicitation .written,
        .request "3" .authRefresh .written, .request "4" (.other "item/tool/requestUserInput") .written,
        .answerPermission "\"1\"" .approved (.failed "broken pipe"),
        .answerPermission "\"1\"" .allowAlways .written, .resolved "3",
        .answerPermission "elicit:\"2\"" .denied .written, .resolved "1", .exit, .stop, .wake ] :=
  (requests_paired_iff quotedIds _ (by decide)).mpr (by decide)

/-- Credentials are written as asked for, and the server says so: the resolution is shown as that of an
approval, and the session waits for credentials on. -/
theorem auth_resolved_as_tool :
    ¬ ∀ events, LTS.EnabledAll (Possible quotedIds) (next quotedIds) (start String) events →
      LTS.EnabledAll (Lawful quotedIds) (next quotedIds) (start String) events := by
  intro h
  obtain ⟨-, -, lawful, -⟩ := h
    [ .request "1" .authRefresh .written,
      .answerAuth [("accessToken", "jwt"), ("chatgptAccountId", "acct")] .written, .resolved "1" ]
    (by decide)
  have quiet := lawful.counters (by decide) 1
  revert quiet
  decide

end RequestRun

end KiCore.Session.Codex

import KiCore.Agent.Acp.PermissionRouter

/-!
# Permission requests are answered once

`requests_answered_once` says, for every interleaving of the router, that each request is in one place: with
the loop, in the table, with a `confirm`, or decided. Each decision is one that the request may get, and the
confirmations are those of the requests that are shown and undecided. A `confirm` names a call id only. The
request under this id when it has the lock may be one that was registered after the call.
-/

namespace KiCore.Agent.Acp.Permission

open KiCore.Lib
open LTS (EnabledAll)

/-- The request that the loop has received and not registered yet. -/
def Loop.held : Loop → List Nat
  | .received n _ => [n]
  | _ => []

/-- The request that the loop has registered, while its event is on the way. -/
def Loop.showing : Loop → Option Nat
  | .registered n _ | .unsent n _ => some n
  | _ => none

variable (σ : System)

def System.pending (callId : String) : Option PendingPermission :=
  σ.router.pendingPermissions[callId]?

/-- Where the requests are: with the loop, in the table, with a `confirm`, or decided. -/
def places : List Nat :=
  σ.loop.held ++ σ.router.pendingPermissions.values.map (·.responder) ++ σ.taken.map (·.1) ++
    σ.decisions.map (·.request)

def Shown (n : Nat) : Prop := n ∈ σ.shown ∨ σ.loop.showing = some n

def Undecided (n : Nat) : Prop :=
  n ∉ σ.taken.map (·.1) ∧ n ∉ σ.decisions.map (·.request)

/-- A call of `confirm` is made for a request: it names the call id of the request. If the request had been
registered when the call was made, it was the one shown under its id. -/
def MadeFor (requests : List RequestPermissionRequest) (call : Confirm) (n : Nat) : Prop :=
  (∃ request, requests[n]? = some request ∧ request.toolCallId = call.callId) ∧
    (n ∈ call.known → call.shown = some n)

def Legit (requests : List RequestPermissionRequest) (d : Decision) : Prop :=
  match d.cause with
  | .autoApproved => ∃ request optionId, requests[d.request]? = some request ∧
      d.decision = .selected optionId ∧ request.OfTeamServer ∧ request.Allows optionId
  | .confirmed call => MadeFor requests call d.request ∧ d.decision = .selected call.optionId
  | .replaced | .unsent | .cancelAll => d.decision = .cancelled

def Empty : Prop := ∀ k, σ.pending k = none

structure PermissionLaw (σ : System) (step : Step) : Prop where
  /-- each request that was received is in one place -/
  once : (places (σ.next step)).Perm (List.range (σ.next step).requests.length)
  answers : ∀ d ∈ (σ.next step).decisions, Legit (σ.next step).requests d
  /-- the confirmations are those of the requests that are shown and undecided -/
  lists : ∀ confirmation, confirmation ∈ (σ.next step).router.getConfirmations ↔
    ∃ n request, (σ.next step).requests[n]? = some request ∧ Shown (σ.next step) n ∧
      Undecided (σ.next step) n ∧ confirmation = request.toConfirmation
  /-- an event that is not sent decides no other request, and leaves the others pending -/
  unsent : step = .send false ∨ step = .unregister → ∀ n, σ.loop.showing = some n →
    (∀ d ∈ (σ.next step).decisions, d ∈ σ.decisions ∨ d = ⟨n, .cancelled, .unsent⟩) ∧
      ∀ k p, p.responder ≠ n → ((σ.next step).pending k = some p ↔
        σ.pending k = some p)
  /-- when its turn comes, it cancels its request, if this one is still pending -/
  cancels : ∀ n callId, σ.loop = .unsent n callId → step = .unregister →
    (σ.next step).loop = .waiting ∧ (σ.next step).pending callId = none ∧
      ∀ p, σ.pending callId = some p →
        p.responder = n ∧ ⟨n, .cancelled, .unsent⟩ ∈ (σ.next step).decisions
  /-- a `confirm` that has the lock takes the request that is pending under its call id -/
  takes : ∀ call ∈ σ.confirms, step = .confirm call → (σ.next step).pending call.callId = none ∧
    ∀ p, σ.pending call.callId = some p → (p.responder, call) ∈ (σ.next step).taken
  /-- and answers it with its option -/
  selects : ∀ n call, step = .answer n call → (n, call) ∈ σ.taken →
    ⟨n, .selected call.optionId, .confirmed call⟩ ∈ (σ.next step).decisions
  /-- once all are cancelled, nothing is pending until the loop registers a request -/
  drains : step = .cancelAll ∨ Empty σ ∧ step ≠ .register → Empty (σ.next step)

def LoopInv : Loop → Prop
  | .waiting => True
  | .received n request => σ.requests[n]? = some request ∧ n ∉ σ.registered
  | .registered n callId | .unsent n callId =>
    (∃ request, σ.requests[n]? = some request ∧ request.toolCallId = callId) ∧
      ∀ p, σ.pending callId = some p → p.responder = n

/-- If a call of `confirm` takes a request that had been registered before, it takes the one it was made
for. -/
def Aimed (call : Confirm) : Prop :=
  (∀ n ∈ call.known, n ∈ σ.registered) ∧ ∀ p, σ.pending call.callId = some p →
    p.responder ∈ call.known → call.shown = some p.responder

structure Inv (σ : System) : Prop where
  accounted : (places σ).Perm (List.range σ.requests.length)
  keyed : ∀ k p, σ.pending k = some p → ∃ request,
    σ.requests[p.responder]? = some request ∧ request.toolCallId = k ∧
      p.confirmation = request.toConfirmation
  displayed : ∀ k p, σ.pending k = some p → Shown σ p.responder
  registered : ∀ n, Shown σ n → n ∈ σ.registered
  numbered : ∀ n ∈ σ.registered, n < σ.requests.length
  loop : LoopInv σ σ.loop
  aimed : ∀ call ∈ σ.confirms, Aimed σ call
  taken : ∀ entry ∈ σ.taken, MadeFor σ.requests entry.2 entry.1
  answers : ∀ d ∈ σ.decisions, Legit σ.requests d

variable {σ : System} {step : Step} {requests : List RequestPermissionRequest}
  {request : RequestPermissionRequest} {call : Confirm} {d : Decision} {n : Nat} {callId optionId : String}

lemma MadeFor.grow (made : MadeFor requests call n) : MadeFor (requests ++ [request]) call n := by
  obtain ⟨⟨request', here, same⟩, known⟩ := made
  exact ⟨⟨request', List.getElem?_append_left (List.getElem?_eq_some_iff.mp here).1 ▸ here, same⟩, known⟩

lemma Legit.grow (legit : Legit requests d) : Legit (requests ++ [request]) d := by
  obtain ⟨n, decision, cause⟩ := d
  cases cause with
  | autoApproved =>
    obtain ⟨request', optionId, here, rest⟩ := legit
    exact ⟨request', optionId, List.getElem?_append_left (List.getElem?_eq_some_iff.mp here).1 ▸ here, rest⟩
  | confirmed call => exact ⟨legit.1.grow, legit.2⟩
  | replaced | unsent | cancelAll => exact legit

lemma Inv.start : Inv System.start := by
  refine ⟨.refl _, ?_, ?_, ?_, ?_, trivial, ?_, ?_, ?_⟩
  · intro k p here
    rw [show System.start.pending k = none from Table.get_empty] at here
    cases here
  · intro k p here
    rw [show System.start.pending k = none from Table.get_empty] at here
    cases here
  · rintro n (mem | showing)
    · cases mem
    · cases showing
  · rintro _ ⟨⟩
  · rintro _ ⟨⟩
  · rintro _ ⟨⟩
  · rintro _ ⟨⟩

variable (table : Table String PendingPermission)

def responders : List Nat :=
  (Table.values table).map (·.responder)

lemma responders_erase (callId : String) :
    (responders table).Perm
      (table[callId]?.toList.map (·.responder) ++ responders (table.erase callId)) := by
  rw [responders, responders, ← List.map_append]
  exact (Table.values_erase table callId).map _

lemma responders_insert (callId : String) (p : PendingPermission) :
    (responders (table.insert callId p)).Perm (p.responder :: responders (table.erase callId)) :=
  (Table.values_insert table callId p).map _

lemma count_places : (places σ).count n = σ.loop.held.count n +
    (responders σ.router.pendingPermissions).count n + (σ.taken.map (·.1)).count n +
      (σ.decisions.map (·.request)).count n := by
  simp only [places, List.count_append, responders]

lemma places_receive (request : RequestPermissionRequest)
    (accounted : (places σ).Perm (List.range σ.requests.length)) (free : σ.loop = .waiting) :
    (places (σ.receive request)).Perm (List.range (σ.receive request).requests.length) := by
  refine List.perm_iff_count.mpr fun k => ?_
  have before := accounted.count_eq k
  rw [count_places, free] at before
  unfold System.receive
  dsimp only
  cases request.autoApproveOptionId with
  | some optionId =>
    rw [count_places]
    simp only [free, Loop.held, List.map_cons, List.count_cons, List.length_append, List.length_singleton,
      List.range_succ, List.count_append, List.count_nil] at before ⊢
    omega
  | none =>
    rw [count_places]
    simp only [Loop.held, List.count_cons, List.length_append, List.length_singleton,
      List.range_succ, List.count_append, List.count_nil] at before ⊢
    omega

lemma places_register (accounted : (places σ).Perm (List.range σ.requests.length))
    (held : σ.loop = .received n request) :
    (places (σ.register n request)).Perm (List.range σ.requests.length) := by
  refine List.perm_iff_count.mpr fun k => ?_
  have before := accounted.count_eq k
  have inserted := (responders_insert σ.router.pendingPermissions request.toolCallId
    ⟨n, request.toConfirmation⟩).count_eq k
  have erased := (responders_erase σ.router.pendingPermissions request.toolCallId).count_eq k
  rw [count_places, held] at before
  rw [count_places, ← before]
  simp only [System.register, PermissionRouter.insert, System.cancel, Loop.held, List.map_append,
    List.map_map, Function.comp_def, List.count_append, List.count_cons, List.count_nil] at inserted erased ⊢
  omega

lemma places_unregister (accounted : (places σ).Perm (List.range σ.requests.length))
    (held : σ.loop = .unsent n callId) :
    (places (σ.unregister callId)).Perm (List.range σ.requests.length) := by
  refine List.perm_iff_count.mpr fun k => ?_
  have before := accounted.count_eq k
  have erased := (responders_erase σ.router.pendingPermissions callId).count_eq k
  rw [count_places, held] at before
  rw [count_places, ← before]
  simp only [System.unregister, PermissionRouter.remove, System.cancel, Loop.held, List.map_append,
    List.map_map, Function.comp_def, List.count_append, List.count_nil] at erased ⊢
  omega

lemma confirm_cases (σ : System) (call : Confirm) :
    σ.pending call.callId = none ∧
      σ.confirm call = { σ with router := (σ.router.remove call.callId).1 } ∨
    ∃ p, σ.pending call.callId = some p ∧
      σ.confirm call = { σ with
        router := (σ.router.remove call.callId).1
        taken := (p.responder, call) :: σ.taken } := by
  unfold System.pending System.confirm PermissionRouter.take PermissionRouter.remove
  cases σ.router.pendingPermissions[call.callId]? with
  | none => exact .inl ⟨rfl, rfl⟩
  | some p => exact .inr ⟨p, rfl, rfl⟩

lemma places_confirm (call : Confirm) (accounted : (places σ).Perm (List.range σ.requests.length)) :
    (places (σ.confirm call)).Perm (List.range σ.requests.length) := by
  refine List.perm_iff_count.mpr fun k => ?_
  have before := accounted.count_eq k
  have erased := (responders_erase σ.router.pendingPermissions call.callId).count_eq k
  rw [count_places] at before
  rcases confirm_cases σ call with ⟨here, same⟩ | ⟨p, here, same⟩
  · rw [show σ.router.pendingPermissions[call.callId]? = none from here] at erased
    rw [same, count_places, ← before]
    simp only [PermissionRouter.remove, Option.toList_none, List.map_nil, List.nil_append] at erased ⊢
    omega
  · rw [show σ.router.pendingPermissions[call.callId]? = some p from here] at erased
    rw [same, count_places, ← before]
    simp only [PermissionRouter.remove, Option.toList_some, List.map_cons, List.map_nil,
      List.singleton_append, List.count_cons] at erased ⊢
    omega

lemma places_answer (accounted : (places σ).Perm (List.range σ.requests.length))
    (mem : (n, call) ∈ σ.taken) :
    (places (({ σ with taken := σ.taken.erase (n, call) } : System).answer n call)).Perm
      (List.range σ.requests.length) := by
  refine List.perm_iff_count.mpr fun k => ?_
  have before := accounted.count_eq k
  have taken := ((List.perm_cons_erase mem).map (·.1)).count_eq k
  rw [count_places] at before
  rw [count_places, ← before]
  simp only [System.answer, List.map_cons, List.count_cons] at taken ⊢
  omega

lemma places_cancelAll (accounted : (places σ).Perm (List.range σ.requests.length)) :
    (places σ.cancelAll).Perm (List.range σ.requests.length) := by
  refine List.perm_iff_count.mpr fun k => ?_
  have before := accounted.count_eq k
  have drained : (responders ∅).count k = 0 := rfl
  have whole : (σ.router.pendingPermissions.values.map (·.responder)).count k =
    (responders σ.router.pendingPermissions).count k := rfl
  rw [count_places] at before
  rw [count_places, ← before]
  simp only [System.cancelAll, PermissionRouter.drain, System.cancel, List.map_append, List.map_map,
    Function.comp_def, List.count_append]
  omega

/-- What a removal leaves pending was pending. -/
def Shrinks (σ σ' : System) : Prop := ∀ k p, σ'.pending k = some p → σ.pending k = some p

lemma Aimed.shrink {σ' : System} (aimed : Aimed σ call) (shrinks : Shrinks σ σ')
    (registered : ∀ n ∈ σ.registered, n ∈ σ'.registered) : Aimed σ' call :=
  ⟨fun n mem => registered n (aimed.1 n mem), fun p here => aimed.2 p (shrinks _ p here)⟩

lemma pending_erase {k : String} {p : PendingPermission} {table : Table String PendingPermission} :
    (table.erase callId)[k]? = some p ↔ callId ≠ k ∧ table[k]? = some p :=
  Table.get_erase_some

/-- The invariant after a step that leaves the requests and the loop, and takes pending requests out. -/
lemma Inv.shrink {σ' : System} (inv : Inv σ) (accounted : (places σ').Perm (List.range σ'.requests.length))
    (shrinks : Shrinks σ σ') (loop : σ'.loop = σ.loop) (requests : σ'.requests = σ.requests)
    (registered : σ'.registered = σ.registered) (shown : σ'.shown = σ.shown)
    (confirms : ∀ call ∈ σ'.confirms, call ∈ σ.confirms)
    (taken : ∀ entry ∈ σ'.taken, MadeFor σ.requests entry.2 entry.1)
    (answers : ∀ d ∈ σ'.decisions, Legit σ.requests d) : Inv σ' where
  accounted := accounted
  keyed k p here := by
    rw [requests]
    exact inv.keyed k p (shrinks k p here)
  displayed k p here := by
    unfold Shown
    rw [shown, loop]
    exact inv.displayed k p (shrinks k p here)
  registered n := by
    unfold Shown
    rw [shown, loop, registered]
    exact inv.registered n
  numbered := by
    rw [registered, requests]
    exact inv.numbered
  loop := by
    have known := inv.loop
    rw [loop]
    cases held : σ.loop with
    | waiting => trivial
    | received n request =>
      rw [held] at known
      unfold LoopInv
      rw [requests, registered]
      exact known
    | registered n callId | unsent n callId =>
      rw [held] at known
      unfold LoopInv
      rw [requests]
      exact ⟨known.1, fun p here => known.2 p (shrinks _ p here)⟩
  aimed call mem := (inv.aimed call (confirms call mem)).shrink shrinks fun n mem => registered ▸ mem
  taken := by
    rw [requests]
    exact taken
  answers := by
    rw [requests]
    exact answers

lemma getElem?_grow {requests : List RequestPermissionRequest} {request' : RequestPermissionRequest}
    (here : requests[n]? = some request') : (requests ++ [request])[n]? = some request' :=
  List.getElem?_append_left (List.getElem?_eq_some_iff.mp here).1 ▸ here

section

variable (inv : Inv σ)
include inv

lemma Inv.receive (free : σ.loop = .waiting) : Inv (σ.receive request) := by
  have accounted := places_receive request inv.accounted free
  have fresh : σ.requests.length ∉ σ.registered := fun mem => (inv.numbered _ mem).false
  have last : (σ.requests ++ [request])[σ.requests.length]? = some request := List.getElem?_concat_length
  have shown (n : Nat) (h : n ∈ σ.shown ∨ Loop.showing .waiting = some n) : n ∈ σ.registered :=
    inv.registered n (h.imp_right fun showing => by cases showing)
  have keyed (k : String) (p : PendingPermission) (here : σ.pending k = some p) : ∃ request',
      (σ.requests ++ [request])[p.responder]? = some request' ∧ request'.toolCallId = k ∧
        p.confirmation = request'.toConfirmation := by
    obtain ⟨request', found, rest⟩ := inv.keyed k p here
    exact ⟨request', getElem?_grow found, rest⟩
  have numbered (n : Nat) (mem : n ∈ σ.registered) : n < (σ.requests ++ [request]).length := by
    rw [List.length_append]
    exact Nat.lt_add_right _ (inv.numbered n mem)
  have displayed (k : String) (p : PendingPermission) (here : σ.pending k = some p) :
      p.responder ∈ σ.shown :=
    (inv.displayed k p here).resolve_right fun showing => by
      rw [free] at showing
      cases showing
  have taken (entry : Nat × Confirm) (mem : entry ∈ σ.taken) :
      MadeFor (σ.requests ++ [request]) entry.2 entry.1 := (inv.taken entry mem).grow
  have answers (d : Decision) (mem : d ∈ σ.decisions) : Legit (σ.requests ++ [request]) d :=
    (inv.answers d mem).grow
  unfold System.receive at accounted ⊢
  dsimp only at accounted ⊢
  cases approved : request.autoApproveOptionId with
  | some optionId =>
    rw [approved] at accounted
    refine ⟨accounted, keyed, fun k p here => .inl (displayed k p here), fun n h => shown n ?_, numbered,
      ?_, inv.aimed, taken, fun d mem => ?_⟩
    · rwa [Shown, free] at h
    · rw [free]
      trivial
    · rcases List.mem_cons.mp mem with rfl | mem
      · exact ⟨request, optionId, last, rfl, autoApprove_some approved⟩
      · exact answers d mem
  | none =>
    rw [approved] at accounted
    exact ⟨accounted, keyed, fun k p here => .inl (displayed k p here), shown, numbered, ⟨last, fresh⟩,
      inv.aimed, taken, answers⟩

/-- A request that is registered takes the place of the one under its call id. -/
lemma Inv.register (held : σ.loop = .received n request) : Inv (σ.register n request) := by
  have accounted := places_register inv.accounted held
  have known := inv.loop
  rw [held] at known
  obtain ⟨here, fresh⟩ := known
  have pending (k : String) : (σ.register n request).pending k =
      if request.toolCallId = k then some ⟨n, request.toConfirmation⟩ else σ.pending k :=
    Table.get_insert ..
  refine ⟨accounted, fun k p found => ?_, fun k p found => ?_, ?_, ?_, ⟨⟨request, here, rfl⟩, ?_⟩, ?_,
    inv.taken, ?_⟩
  · rw [pending] at found
    split_ifs at found with own
    · cases found
      exact ⟨request, here, own, rfl⟩
    · exact inv.keyed k p found
  · rw [pending] at found
    split_ifs at found with own
    · cases found
      exact .inr rfl
    · refine .inl ((inv.displayed k p found).resolve_right fun showing => ?_)
      rw [held] at showing
      cases showing
  · rintro m (mem | showing)
    · exact .tail _ (inv.registered m (.inl mem))
    · cases showing
      exact .head _
  · intro m mem
    rcases List.mem_cons.mp mem with rfl | mem
    · exact (List.getElem?_eq_some_iff.mp here).1
    · exact inv.numbered m mem
  · intro p found
    rw [pending, if_pos rfl] at found
    cases found
    rfl
  · intro call mem
    refine ⟨fun m here => .tail _ ((inv.aimed call mem).1 m here), fun p found known => ?_⟩
    rw [pending] at found
    split_ifs at found with own
    · cases found
      exact absurd ((inv.aimed call mem).1 n known) fresh
    · exact (inv.aimed call mem).2 p found known
  · intro d mem
    rcases List.mem_append.mp mem with mem | mem
    · obtain ⟨p, -, rfl⟩ := List.mem_map.mp mem
      exact rfl
    · exact inv.answers d mem

lemma Inv.unregister (held : σ.loop = .unsent n callId) : Inv (σ.unregister callId) := by
  have accounted := places_unregister inv.accounted held
  have known := inv.loop
  rw [held] at known
  obtain ⟨⟨request, here, same⟩, -⟩ := known
  have pending {k : String} {p : PendingPermission} (found : (σ.unregister callId).pending k = some p) :
      callId ≠ k ∧ σ.pending k = some p := pending_erase.mp found
  refine ⟨accounted, fun k p found => inv.keyed k p (pending found).2, fun k p found => ?_, ?_,
    inv.numbered, trivial, fun call mem => ?_, inv.taken, ?_⟩
  · obtain ⟨other, found⟩ := pending found
    refine .inl ((inv.displayed k p found).resolve_right fun showing => other ?_)
    rw [held] at showing
    cases showing
    obtain ⟨request', here', key, -⟩ := inv.keyed k p found
    cases here.symm.trans here'
    exact same.symm.trans key
  · rintro m (mem | showing)
    · exact inv.registered m (.inl mem)
    · cases showing
  · exact (inv.aimed call mem).shrink (fun k p found => (pending found).2) fun _ mem => mem
  · intro d mem
    rcases List.mem_append.mp mem with mem | mem
    · obtain ⟨p, -, rfl⟩ := List.mem_map.mp mem
      exact rfl
    · exact inv.answers d mem

lemma Inv.confirm (aimed : Aimed σ call) : Inv (σ.confirm call) := by
  have accounted := places_confirm call inv.accounted
  rcases confirm_cases σ call with ⟨-, same⟩ | ⟨p, here, same⟩
  · rw [same] at accounted ⊢
    exact inv.shrink accounted (fun k p found => (pending_erase.mp found).2) rfl rfl rfl rfl
      (fun _ mem => mem) inv.taken inv.answers
  · rw [same] at accounted ⊢
    refine inv.shrink accounted (fun k p found => (pending_erase.mp found).2) rfl rfl rfl rfl
      (fun _ mem => mem) (fun entry mem => ?_) inv.answers
    rcases List.mem_cons.mp mem with rfl | mem
    · obtain ⟨request, found, key, -⟩ := inv.keyed _ p here
      exact ⟨⟨request, found, key⟩, aimed.2 p here⟩
    · exact inv.taken entry mem

lemma Inv.answer (mem : (n, call) ∈ σ.taken) :
    Inv (({ σ with taken := σ.taken.erase (n, call) } : System).answer n call) := by
  refine inv.shrink (places_answer inv.accounted mem) (fun _ _ found => found) rfl rfl rfl rfl
    (fun _ mem => mem) (fun entry kept => inv.taken entry (List.mem_of_mem_erase kept)) fun d decided => ?_
  rcases List.mem_cons.mp decided with rfl | decided
  · exact ⟨inv.taken _ mem, rfl⟩
  · exact inv.answers d decided

lemma Inv.cancelAll : Inv σ.cancelAll := by
  refine inv.shrink (places_cancelAll inv.accounted) (fun k p here => ?_) rfl rfl rfl rfl (fun _ mem => mem)
    inv.taken fun d mem => ?_
  · rw [show σ.cancelAll.pending k = none from Table.get_empty] at here
    cases here
  · rcases List.mem_append.mp mem with mem | mem
    · obtain ⟨p, -, rfl⟩ := List.mem_map.mp mem
      exact rfl
    · exact inv.answers d mem

lemma Inv.send (held : σ.loop = .registered n callId) :
    Inv { σ with loop := .waiting, shown := n :: σ.shown } ∧ Inv { σ with loop := .unsent n callId } := by
  have known := inv.loop
  have accounted := inv.accounted
  have displayed := inv.displayed
  have registered := inv.registered
  unfold Shown at displayed registered
  unfold places at accounted
  rw [held] at known accounted displayed registered
  refine ⟨⟨accounted, inv.keyed, fun k p here => .inl ?_, ?_, inv.numbered, trivial, inv.aimed, inv.taken,
    inv.answers⟩, accounted, inv.keyed, displayed, registered, inv.numbered, known, inv.aimed, inv.taken,
    inv.answers⟩
  · rcases displayed k p here with mem | showing
    · exact .tail _ mem
    · cases showing
      exact .head _
  · rintro m (mem | showing)
    · rcases List.mem_cons.mp mem with rfl | mem
      · exact registered m (.inr rfl)
      · exact registered m (.inl mem)
    · cases showing

end

/-- Every step keeps the invariant. -/
lemma Inv.next (inv : Inv σ) : Inv (σ.next step) := by
  cases step with
  | receive request =>
    rw [System.next]
    split
    next free => exact inv.receive free
    next => exact inv
  | register =>
    unfold System.next
    dsimp only
    split
    next held => exact inv.register held
    next => exact inv
  | send delivered =>
    unfold System.next
    dsimp only
    split
    next n callId held =>
      cases delivered with
      | true => exact (inv.send held).1
      | false => exact (inv.send held).2
    next => exact inv
  | unregister =>
    unfold System.next
    dsimp only
    split
    next held => exact inv.unregister held
    next => exact inv
  | call callId optionId =>
    refine ⟨inv.accounted, inv.keyed, inv.displayed, inv.registered, inv.numbered, inv.loop,
      fun call mem => ?_, inv.taken, inv.answers⟩
    rcases List.mem_cons.mp mem with rfl | mem
    · exact ⟨fun _ known => known, fun p here _ => congrArg (Option.map _) here⟩
    · exact inv.aimed call mem
  | confirm call =>
    rw [System.next]
    split
    next mem =>
      have left : Inv { σ with confirms := σ.confirms.erase call } :=
        inv.shrink inv.accounted (fun _ _ found => found) rfl rfl rfl rfl
          (fun _ kept => List.mem_of_mem_erase kept) inv.taken inv.answers
      exact left.confirm (inv.aimed call mem)
    next => exact inv
  | answer n call =>
    rw [System.next]
    split
    next mem => exact inv.answer mem
    next => exact inv
  | cancelAll => exact inv.cancelAll
  | setClosing =>
    exact inv.shrink inv.accounted (fun _ _ found => found) rfl rfl rfl rfl (fun _ mem => mem) inv.taken
      inv.answers

lemma Inv.count_le (inv : Inv σ) (n : Nat) : σ.loop.held.count n +
    (responders σ.router.pendingPermissions).count n + (σ.taken.map (·.1)).count n +
      (σ.decisions.map (·.request)).count n ≤ 1 := by
  rw [← count_places]
  exact List.nodup_iff_count_le_one.mp (inv.accounted.nodup_iff.mpr List.nodup_range) n

lemma Inv.count_held (inv : Inv σ) (shown : Shown σ n) : σ.loop.held.count n = 0 := by
  refine List.count_eq_zero.mpr fun mem => ?_
  have known := inv.loop
  cases held : σ.loop with
  | received n' request =>
    rw [held] at mem known
    cases List.mem_singleton.mp mem
    exact known.2 (inv.registered n shown)
  | waiting | registered | unsent =>
    rw [held] at mem
    cases mem

lemma Inv.lists (inv : Inv σ) (confirmation : Confirmation) :
    confirmation ∈ σ.router.getConfirmations ↔ ∃ n request, σ.requests[n]? = some request ∧ Shown σ n ∧
      Undecided σ n ∧ confirmation = request.toConfirmation := by
  constructor
  · intro mem
    obtain ⟨p, listed, rfl⟩ := List.mem_map.mp mem
    obtain ⟨k, here⟩ := Table.mem_values.mp listed
    obtain ⟨request, found, -, same⟩ := inv.keyed k p here
    have pending : 0 < (responders σ.router.pendingPermissions).count p.responder :=
      List.count_pos_iff.mpr (List.mem_map.mpr ⟨p, listed, rfl⟩)
    have once := inv.count_le p.responder
    refine ⟨p.responder, request, found, inv.displayed k p here, ⟨?_, ?_⟩, same⟩
    · exact List.count_eq_zero.mp (by omega)
    · exact List.count_eq_zero.mp (by omega)
  · rintro ⟨n, request, found, shown, ⟨untaken, undecided⟩, rfl⟩
    have place : 0 < (places σ).count n := List.count_pos_iff.mpr (inv.accounted.mem_iff.mpr
      (List.mem_range.mpr (List.getElem?_eq_some_iff.mp found).1))
    rw [count_places, inv.count_held shown, List.count_eq_zero.mpr untaken,
      List.count_eq_zero.mpr undecided] at place
    have pending : n ∈ responders σ.router.pendingPermissions := List.count_pos_iff.mp (by omega)
    obtain ⟨p, listed, rfl⟩ := List.mem_map.mp pending
    obtain ⟨k, here⟩ := Table.mem_values.mp listed
    obtain ⟨request', found', -, same⟩ := inv.keyed k p here
    cases found.symm.trans found'
    exact List.mem_map.mpr ⟨p, listed, same⟩

/-- Only the loop makes a request pending. -/
lemma next_shrinks (quiet : step ≠ .register) : Shrinks σ (σ.next step) := by
  intro k p found
  cases step with
  | register => exact absurd rfl quiet
  | receive request =>
    have same : (σ.next (.receive request)).router = σ.router := by
      rw [System.next, System.receive]
      dsimp only
      split
      · cases request.autoApproveOptionId <;> rfl
      · rfl
    rwa [System.pending, same] at found
  | send delivered =>
    have same : (σ.next (.send delivered)).router = σ.router := by
      unfold System.next
      dsimp only
      split
      · cases delivered <;> rfl
      · rfl
    rwa [System.pending, same] at found
  | unregister =>
    unfold System.next at found
    dsimp only at found
    split at found
    · exact (pending_erase.mp found).2
    · exact found
  | call callId optionId => exact found
  | confirm call =>
    rw [System.next] at found
    split at found
    · rcases confirm_cases { σ with confirms := σ.confirms.erase call } call with ⟨-, same⟩ | ⟨_, -, same⟩
      · rw [same] at found
        exact (pending_erase.mp found).2
      · rw [same] at found
        exact (pending_erase.mp found).2
    · exact found
  | answer n call =>
    rw [System.next] at found
    split at found
    · exact found
    · exact found
  | cancelAll =>
    rw [show (σ.next .cancelAll).pending k = none from Table.get_empty] at found
    cases found
  | setClosing => exact found

lemma Inv.unsent (inv : Inv σ) (failed : step = .send false ∨ step = .unregister)
    (showing : σ.loop.showing = some n) :
    (∀ d ∈ (σ.next step).decisions, d ∈ σ.decisions ∨ d = ⟨n, .cancelled, .unsent⟩) ∧
      ∀ k p, p.responder ≠ n → ((σ.next step).pending k = some p ↔ σ.pending k = some p) := by
  have unmoved (router : (σ.next step).router = σ.router)
      (decisions : (σ.next step).decisions = σ.decisions) :
      (∀ d ∈ (σ.next step).decisions, d ∈ σ.decisions ∨ d = ⟨n, .cancelled, .unsent⟩) ∧
        ∀ k p, p.responder ≠ n → ((σ.next step).pending k = some p ↔ σ.pending k = some p) := by
    refine ⟨fun d mem => .inl (decisions ▸ mem), fun k p _ => ?_⟩
    rw [System.pending, router]
    rfl
  cases held : σ.loop with
  | waiting | received =>
    rw [held] at showing
    cases showing
  | registered n' callId =>
    rcases failed with rfl | rfl
    · exact unmoved (by simp [System.next, held]) (by simp [System.next, held])
    · exact unmoved (by simp [System.next, held]) (by simp [System.next, held])
  | unsent n' callId =>
    have known := inv.loop
    rw [held] at known showing
    cases showing
    rcases failed with rfl | rfl
    · exact unmoved (by simp [System.next, held]) (by simp [System.next, held])
    · have next : σ.next .unregister = σ.unregister callId := by simp [System.next, held]
      rw [next]
      refine ⟨fun d mem => ?_, fun k p other => ?_⟩
      · rcases List.mem_append.mp mem with mem | mem
        · obtain ⟨p, here, rfl⟩ := List.mem_map.mp mem
          right
          rw [known.2 p (Option.mem_toList.mp here)]
        · exact .inl mem
      · refine pending_erase.trans ⟨And.right, fun here => ⟨fun same => other ?_, here⟩⟩
        exact known.2 p (same ▸ here)

lemma pending_erased {table : Table String PendingPermission} : (table.erase callId)[callId]? = none := by
  rw [Table.get_erase, if_pos rfl]

lemma Inv.cancels (inv : Inv σ) (held : σ.loop = .unsent n callId) :
    (σ.next .unregister).loop = .waiting ∧ (σ.next .unregister).pending callId = none ∧
      ∀ p, σ.pending callId = some p →
        p.responder = n ∧ ⟨n, .cancelled, .unsent⟩ ∈ (σ.next .unregister).decisions := by
  have next : σ.next .unregister = σ.unregister callId := by simp [System.next, held]
  have known := inv.loop
  rw [held] at known
  rw [next]
  refine ⟨rfl, pending_erased, fun p here => ?_⟩
  have own := known.2 p here
  refine ⟨own, List.mem_append_left _ (List.mem_map.mpr ⟨p, Option.mem_toList.mpr here, ?_⟩)⟩
  rw [own]

lemma next_takes (mem : call ∈ σ.confirms) : (σ.next (.confirm call)).pending call.callId = none ∧
    ∀ p, σ.pending call.callId = some p → (p.responder, call) ∈ (σ.next (.confirm call)).taken := by
  rw [System.next, if_pos mem]
  rcases confirm_cases { σ with confirms := σ.confirms.erase call } call with
    ⟨absent, same⟩ | ⟨p, here, same⟩
  · rw [same]
    exact ⟨pending_erased, fun p here => nomatch absent.symm.trans here⟩
  · rw [same]
    refine ⟨pending_erased, fun p' here' => ?_⟩
    cases here.symm.trans here'
    exact .head _

lemma Inv.law (inv : Inv σ) : PermissionLaw σ step where
  once := inv.next.accounted
  answers := inv.next.answers
  lists := inv.next.lists
  unsent failed n showing := inv.unsent failed showing
  cancels n callId held unregisters := by
    subst unregisters
    exact inv.cancels held
  takes call mem confirms := by
    subst confirms
    exact next_takes mem
  selects n call answers mem := by
    subst answers
    rw [System.next, if_pos mem]
    exact .head _
  drains quiet k := by
    cases here : (σ.next step).pending k with
    | none => rfl
    | some p =>
      rcases quiet with rfl | ⟨empty, quiet⟩
      · rw [show (σ.next .cancelAll).pending k = none from Table.get_empty] at here
        cases here
      · have pending := next_shrinks quiet k p here
        rw [empty k] at pending
        cases pending

def askedTool : RequestPermissionRequest :=
  ⟨"t", some "Write file", some .edit, [], [⟨"allow", "Allow", .allowOnce⟩]⟩

/-- The user allows a request, but a second one under its call id is registered before the call has the
lock. -/
def overtaken : List Step :=
  [.receive askedTool, .register, .send true, .call "t" "allow", .receive askedTool, .register,
    .confirm ⟨"t", "allow", [0], some 0⟩, .answer 1 ⟨"t", "allow", [0], some 0⟩]

end KiCore.Agent.Acp.Permission

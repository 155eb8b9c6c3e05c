import KiCore.Session.TurnLane

/-!
# The turns of a codex process

Port of what `codex_conn.rs` makes of a turn, from `dispatch(Send)` to the one terminal of
`reader_task`. The frames say which prompt they are about, where the code reads no turn id; the prompt
goes beside the events that a frame makes and is otherwise not looked at. A correlation is listed under
the number of its prompt, from the write on: before it no frame can claim it. Left out are the binding
of the thread, `map_notification`, whose events neither start nor end a turn, the title, and requests
that open no turn.
-/

namespace KiCore.Session.Codex

open KiCore.Lib

/-- What `turn/completed` says of a turn; the status of the error is the one that is found after all
fallbacks. -/
structure CompletedTurn where
  status : Option String
  errorMessage : Option String
  httpStatus : Option Nat

def mapTurnCompleted (turn : CompletedTurn) : SessionEvent :=
  let (isError, outcome) : Bool × TurnOutcome := match turn.status.getD "completed" with
    | "interrupted" => (false, .cancelled .userCancel)
    | "failed" => (true, .failed)
    | _ => (false, .completed .endTurn)
  .turnResult isError (turn.httpStatus.map (· % 2 ^ 16)) (turn.errorMessage.getD "") 0 outcome

def synthErrorTerminal (message : String) : SessionEvent := .turnResult true none message 0 .failed

def synthCleanTerminal : SessionEvent := .turnResult false none "" 0 .endTurn

inductive Response where
  | result
  | error (message : Option String)
  | neither
  deriving DecidableEq

inductive Frame where
  /-- the response to the request of a prompt -/
  | response (k : Nat) (response : Response)
  | turnStarted (k : Nat) (turnId : Option String)
  | statusIdle (k : Nat)
  | statusSystemError (k : Nat)
  /-- an error that is not going to be retried -/
  | fatalError (k : Nat) (message : Option String)
  | turnCompleted (k : Nat) (turn : CompletedTurn)
  | notification (e : SessionEvent)

/-- The backend of one process, and the lane of its session. -/
structure TurnReader where
  lane : TurnLane
  /-- how many sends have registered and not written yet -/
  registered : Nat
  /-- the prompts that wait for the response, with the ids of their messages -/
  pendingSends : Table Nat (Option String)
  turnInFlight : Bool
  activeTurnId : Option String
  terminated : Bool
  idlePending : Option Nat
  systemErrorPending : Option Nat
  systemErrorDeadline : Bool
  /-- the prompts of the results that the reader has emitted -/
  results : List Nat
  /-- the stream has ended -/
  closed : Bool

def TurnReader.start (sessionId : String) : TurnReader where
  lane := .start sessionId
  registered := 0
  pendingSends := ∅
  turnInFlight := false
  activeTurnId := none
  terminated := false
  idlePending := none
  systemErrorPending := none
  systemErrorDeadline := false
  results := []
  closed := false

namespace TurnReader

variable (s : TurnReader)

def entry (k : Option Nat) (e : SessionEvent) : LaneEntry :=
  (k, ⟨s.lane.sessionId, s.lane.turnGen, e⟩)

def emit (e : SessionEvent) : TurnReader :=
  { s with lane := s.lane.post [s.entry none e] [] }

/-- The terminal of a turn: the turn is closed, and its result emitted. -/
def terminal (k : Nat) (e : SessionEvent) : TurnReader :=
  { s with
    terminated := true
    activeTurnId := none
    turnInFlight := false
    lane := s.lane.post [s.entry (some k) e] [k]
    results := k :: s.results }

/-- A terminal of a turn that has been closed already. -/
def absorb (k : Nat) : TurnReader := { s with lane := s.lane.post [] [k] }

/-- A `Send` registers its correlation, unless a turn is active: its input counts as part of that. -/
def register : TurnReader :=
  if s.activeTurnId = none then { s with turnInFlight := true, registered := s.registered + 1 } else s

def write (s : TurnReader) (clientMsgId : Option String) : TurnReader :=
  { s with
    registered := s.registered - 1
    pendingSends := s.pendingSends.insert s.lane.prompts.length clientMsgId
    lane := s.lane.write }

/-- The write has failed: the flag stays, and the correlation, which no frame can claim. -/
def writeFails : TurnReader := { s with registered := s.registered - 1 }

def response (s : TurnReader) (k : Nat) (response : Response) : TurnReader :=
  match s.pendingSends[k]? with
  | none => s
  | some clientMsgId =>
    let s := { s with pendingSends := s.pendingSends.erase k }
    match response, clientMsgId with
    | .result, some clientMsgId => s.emit (.promptAccepted clientMsgId)
    | .error message, _ =>
      if s.terminated then s.absorb k
      else s.terminal k (synthErrorTerminal
        ("codex rejected the turn request: " ++ message.getD "request rejected (no error message)"))
    | _, _ => s

def dropDeadline : TurnReader :=
  if s.systemErrorPending = none ∨ s.terminated then { s with systemErrorDeadline := false } else s

def handleFrame : Frame → TurnReader
  | .response k response => s.response k response
  | .turnStarted _ turnId =>
    let s := { s with
      terminated := false
      idlePending := none
      systemErrorPending := none
      systemErrorDeadline := false
      activeTurnId := turnId.or s.activeTurnId }
    match turnId with
    | none => s
    | some turnId => s.emit (.backendTurnBound turnId)
  -- codex sends `idle` first: wait for the terminal that says how the turn has ended
  | .statusIdle k => if s.terminated then s else { s with idlePending := some k }
  | .statusSystemError k =>
    if s.terminated then s
    else { s with
      systemErrorPending := some k
      systemErrorDeadline := s.systemErrorDeadline || s.systemErrorPending.isNone }
  | .fatalError k message =>
    if !s.turnInFlight || s.terminated then s.absorb k
    else { s with systemErrorPending := none, systemErrorDeadline := false }.terminal k
      (synthErrorTerminal (message.getD "codex reported a fatal error"))
  | .turnCompleted k turn =>
    if s.terminated then s.absorb k
    else { s with idlePending := none, systemErrorPending := none }.terminal k (mapTurnCompleted turn)
  | .notification e => s.emit e

/-- The time for the rich follow-up of a system error is over. -/
def expireGrace : TurnReader :=
  match s.systemErrorPending with
  | none => s
  | some k =>
    { s with systemErrorPending := none, systemErrorDeadline := false }.terminal k
      (synthErrorTerminal "codex reported a system error")

/-- The deferred terminal that the end of the stream flushes. -/
def deferred : Option (Nat × SessionEvent) :=
  if s.terminated then none
  else
    match s.systemErrorPending, s.idlePending with
    | some k, _ => some (k, synthErrorTerminal "codex reported a system error")
    | none, some k => some (k, synthCleanTerminal)
    | none, none => none

def endOfStream (exit : Option ExitStatusLite) (summary : Option String) : TurnReader :=
  { s with
    turnInFlight := false
    terminated := s.terminated || (s.deferred.isSome && s.systemErrorPending.isSome)
    activeTurnId := if s.deferred.isSome then none else s.activeTurnId
    lane := s.lane.post
      ((s.deferred.map fun (k, e) => s.entry (some k) e).toList ++
        [s.entry none (.detached exit summary)])
      ((s.deferred.map Prod.fst).toList ++ List.range s.lane.prompts.length)
    results := (s.deferred.map Prod.fst).toList ++ s.results
    closed := true }

inductive Event where
  | register
  | write (clientMsgId : Option String)
  | writeFails
  | bump (k : Nat)
  | lower (k : Nat)
  | frame (f : Frame)
  | graceExpired
  | endOfStream (exit : Option ExitStatusLite) (summary : Option String)
  | fold

def next : Event → TurnReader
  | .register => s.register
  | .write clientMsgId => s.write clientMsgId
  | .writeFails => s.writeFails
  | .bump k => { s with lane := s.lane.bump k }
  | .lower k => { s with lane := s.lane.lower k }
  | .frame f => s.dropDeadline.handleFrame f
  | .graceExpired => s.expireGrace
  | .endOfStream exit summary => s.endOfStream exit summary
  | .fold => { s with lane := s.lane.fold }

end TurnReader

end KiCore.Session.Codex

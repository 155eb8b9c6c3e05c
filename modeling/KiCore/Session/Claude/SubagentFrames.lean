import KiCore.Lib.Transition
import KiCore.Session.Claude.Adapter

/-!
# The frames of subagents

A subagent's `stream_event` and `assistant` frames carry a `parent_tool_use_id`, and the adapter does
not look at it where it streams: one stream state, one latched occupancy and one terminal rule serve
all frames. So a subagent that ends its reply ends the main turn, and its frames change what the main
agent's later frames emit. `subagents_apart` says under which condition on the order of frames they
do not.
-/

namespace KiCore.Session.Claude

open KiCore.Lib

/-- A streamed or an assistant frame that is not the main agent's own. -/
def Frame.isSubagent : Frame → Bool
  | .assistant parentToolUseId _ _ | .streamEvent parentToolUseId _ => parentToolUseId.isSome
  | _ => false

def mainFrames (frames : List Frame) : List Frame := frames.filter fun f => !f.isSubagent

def Frame.messageId : Frame → Option String
  | .assistant _ messageId _ | .streamEvent _ (.messageStart messageId) => some messageId
  | _ => none

def mainMessages (frames : List Frame) : List String := (mainFrames frames).filterMap Frame.messageId

def turnResults (events : List AdapterEvent) : List SessionEvent :=
  events.filterMap fun
    | .event (.turnResult isError status text epoch outcome) =>
      some (.turnResult isError status text epoch outcome)
    | _ => none

def occupancies (events : List AdapterEvent) : List Nat :=
  events.filterMap fun
    | .usageDelta delta => some delta.totalTokens
    | _ => none

def textDeltas (messageId : String) (events : List AdapterEvent) : List String :=
  events.filterMap fun
    | .event (.messageDelta itemId text) =>
      if itemId = streamItemKey messageId .text then some text else none
    | _ => none

def thinkingDeltas (messageId : String) (events : List AdapterEvent) : List String :=
  events.filterMap fun
    | .event (.thoughtDelta itemId text) =>
      if itemId = streamItemKey messageId .thinking then some text else none
    | _ => none

structure SameTurn (messages : List String) (events events' : List AdapterEvent) : Prop where
  results : turnResults events = turnResults events'
  occupancy : occupancies events = occupancies events'
  text : ∀ id ∈ messages,
    String.join (textDeltas id events) = String.join (textDeltas id events')
  thinking : ∀ id ∈ messages,
    String.join (thinkingDeltas id events) = String.join (thinkingDeltas id events')

/-- Whose frames have written the shared state. -/
structure Lane where
  /-- the message that the main agent streams -/
  mainId : String
  /-- the message that is streamed, whosever it is -/
  openId : String
  /-- a subagent has streamed since the main agent's message began -/
  strayed : Bool
  /-- the last call that was measured is a subagent's -/
  overlaid : Bool

def Lane.start : Lane := { mainId := "", openId := "", strayed := false, overlaid := false }

def Usage.measured : Option Usage → Bool
  | none => false
  | some usage => usage.total > 0

def Delta.shows : Delta → Bool
  | .textDelta text => text ≠ ""
  | .thinkingDelta thinking => thinking ≠ ""
  | .other => false

def Block.shows : Block → Bool
  | .text _ | .thinking _ => true
  | _ => false

def Lane.subagent (l : Lane) : StreamEvent → Lane
  | .messageStart messageId => { l with openId := messageId, strayed := true }
  | .contentBlockStart _ _ | .contentBlockDelta _ _ => { l with strayed := true }
  | .messageDelta usage _ => { l with overlaid := l.overlaid || Usage.measured usage }
  | _ => l

def Lane.main (l : Lane) : StreamEvent → Lane
  | .messageStart messageId => { l with mainId := messageId, openId := messageId, strayed := false }
  | .messageDelta usage _ => { l with overlaid := l.overlaid && !Usage.measured usage }
  | _ => l

def Lane.next (l : Lane) : Frame → Lane
  | .streamEvent (some _) event => l.subagent event
  | .streamEvent none event => l.main event
  | .system "compact_boundary" _ => { l with overlaid := false }
  | _ => l

variable (messages : List String)

/-- A frame keeps to its own side: a subagent's reply does not end the turn and shows nothing under a
message of the main agent; the main agent shows a delta only while no subagent has streamed into its
message, an assistant frame then only if it is not of a message in flight, and a result comes with
usage only after a call of its own. -/
def Apart (l : Lane) : Frame → Prop
  | .streamEvent (some _) (.messageDelta _ reasons) => ClaudeAdapter.continues reasons = true
  | .streamEvent (some _) (.contentBlockDelta _ delta) => delta.shows → l.openId ∉ messages
  | .assistant (some _) messageId content => (∃ b ∈ content, b.shows) → messageId ∉ messages
  | .streamEvent none (.contentBlockDelta _ delta) => delta.shows → l.strayed = false
  | .assistant none messageId content =>
    (∃ b ∈ content, b.shows) → l.strayed = true → messageId ≠ l.mainId ∧ messageId ≠ l.openId
  | .result frame => frame.usage.isSome → l.overlaid = false
  | _ => True

/-- Every frame of a sequence keeps to its own side. -/
abbrev KeptApart (l : Lane) (frames : List Frame) : Prop :=
  LTS.EnabledAll (Apart messages) Lane.next l frames

instance decidableApart : ∀ l f, Decidable (Apart messages l f) := by
  intro l f
  unfold Apart
  split <;> infer_instance

/-- The adapter `a` of all frames beside the adapter `m` of the main agent's. -/
structure Tracks (l : Lane) (a m : ClaudeAdapter) : Prop where
  openId : a.stream.itemId = l.openId
  mainId : m.stream.itemId = l.mainId
  stream : l.strayed = false → a.stream = m.stream
  occupancy : l.overlaid = false → a.lastCallTokens = m.lastCallTokens

/-- Two lists of events show the same, delta by delta. -/
structure Alike (messages : List String) (events events' : List AdapterEvent) : Prop where
  results : turnResults events = turnResults events'
  occupancy : occupancies events = occupancies events'
  text : ∀ id ∈ messages, textDeltas id events = textDeltas id events'
  thinking : ∀ id ∈ messages, thinkingDeltas id events = thinkingDeltas id events'

variable {messages : List String} {l : Lane} {a m : ClaudeAdapter}
  {events events' later later' : List AdapterEvent}

lemma Alike.refl : Alike messages events events := ⟨rfl, rfl, fun _ _ => rfl, fun _ _ => rfl⟩

lemma Alike.of_eq (h : events = events') : Alike messages events events' := h ▸ .refl

lemma Alike.append (h : Alike messages events events') (h' : Alike messages later later') :
    Alike messages (events ++ later) (events' ++ later') := by
  constructor
  · simpa [turnResults] using congrArg₂ (· ++ ·) h.results h'.results
  · simpa [occupancies] using congrArg₂ (· ++ ·) h.occupancy h'.occupancy
  · intro id mem
    simpa [textDeltas] using congrArg₂ (· ++ ·) (h.text id mem) (h'.text id mem)
  · intro id mem
    simpa [thinkingDeltas] using congrArg₂ (· ++ ·) (h.thinking id mem) (h'.thinking id mem)

lemma Alike.symm (h : Alike messages events events') : Alike messages events' events :=
  ⟨h.results.symm, h.occupancy.symm, fun id mem => (h.text id mem).symm,
    fun id mem => (h.thinking id mem).symm⟩

lemma Alike.trans {events'' : List AdapterEvent} (h : Alike messages events events')
    (h' : Alike messages events' events'') : Alike messages events events'' :=
  ⟨h.results.trans h'.results, h.occupancy.trans h'.occupancy,
    fun id mem => (h.text id mem).trans (h'.text id mem),
    fun id mem => (h.thinking id mem).trans (h'.thinking id mem)⟩

lemma Alike.sameTurn (h : Alike messages events events') : SameTurn messages events events' where
  results := h.results
  occupancy := h.occupancy
  text id mem := congrArg String.join (h.text id mem)
  thinking id mem := congrArg String.join (h.thinking id mem)

/-- Neither a result nor a delta nor a usage event. -/
def AdapterEvent.aside : AdapterEvent → Bool
  | .event (.turnResult ..) | .event (.messageDelta ..) | .event (.thoughtDelta ..) => false
  | .usageDelta _ => false
  | _ => true

lemma Alike.aside (h : ∀ e ∈ events, e.aside = true) : Alike messages events [] := by
  induction events with
  | nil => exact .refl
  | cons e events ih =>
    have one : Alike messages [e] [] := by
      have aside := h e (.head _)
      unfold AdapterEvent.aside at aside
      split at aside
      iterate 4 cases aside
      constructor <;> simp [turnResults, occupancies, textDeltas, thinkingDeltas]
    exact one.append (ih fun e mem => h e (.tail _ mem))

lemma Alike.text_elsewhere {id text : String} (h : id ∉ messages) :
    Alike messages [.event (.messageDelta (streamItemKey id .text) text)] [] := by
  refine ⟨rfl, rfl, fun id' mem => ?_, fun _ _ => rfl⟩
  have ne : id ≠ id' := fun e => h (e ▸ mem)
  simp [textDeltas, streamItemKey, String.append_left_inj, ne]

lemma Alike.thinking_elsewhere {id thinking : String} (h : id ∉ messages) :
    Alike messages [.event (.thoughtDelta (streamItemKey id .thinking) thinking)] [] := by
  refine ⟨rfl, rfl, fun _ _ => rfl, fun id' mem => ?_⟩
  have ne : id ≠ id' := fun e => h (e ▸ mem)
  simp [thinkingDeltas, streamItemKey, String.append_left_inj, ne]

lemma contentBlockDelta_silent (kind : Option StreamBlockKind) {delta : Delta}
    (h : delta.shows = false) : a.contentBlockDelta kind delta = (a, []) := by
  unfold ClaudeAdapter.contentBlockDelta
  split
  case h_1 text => rw [if_pos (by simpa [Delta.shows] using h)]
  case h_2 thinking => rw [if_pos (by simpa [Delta.shows] using h)]
  case h_3 => rfl

lemma contentBlockDelta_frame (a : ClaudeAdapter) (kind : Option StreamBlockKind) (delta : Delta) :
    (a.contentBlockDelta kind delta).1.stream.itemId = a.stream.itemId ∧
      (a.contentBlockDelta kind delta).1.lastCallTokens = a.lastCallTokens := by
  unfold ClaudeAdapter.contentBlockDelta
  split <;> (try split) <;> exact ⟨rfl, rfl⟩

lemma contentBlockDelta_congr (h : a.stream = m.stream) (kind : Option StreamBlockKind)
    (delta : Delta) :
    (a.contentBlockDelta kind delta).1.stream = (m.contentBlockDelta kind delta).1.stream ∧
      (a.contentBlockDelta kind delta).2 = (m.contentBlockDelta kind delta).2 := by
  unfold ClaudeAdapter.contentBlockDelta
  split <;> (try split) <;> simp [h]

lemma contentBlockDelta_elsewhere (kind : Option StreamBlockKind) {delta : Delta}
    (h : delta.shows → a.stream.itemId ∉ messages) :
    Alike messages (a.contentBlockDelta kind delta).2 [] := by
  cases shows : delta.shows with
  | false =>
    rw [contentBlockDelta_silent kind shows]
    exact .refl
  | true =>
    unfold ClaudeAdapter.contentBlockDelta
    split <;> (try split)
    case h_1.isFalse => exact .text_elsewhere (h shows)
    case h_2.isFalse => exact .thinking_elsewhere (h shows)
    all_goals exact .refl

lemma latch_lastCallTokens (a : ClaudeAdapter) (usage : Option Usage) :
    (a.latch usage).lastCallTokens =
      if Usage.measured usage then usage.map Usage.total else a.lastCallTokens := by
  cases usage with
  | none => rfl
  | some usage => simp [ClaudeAdapter.latch, Usage.measured]

lemma latch_stream (a : ClaudeAdapter) (usage : Option Usage) :
    (a.latch usage).stream = a.stream := by
  cases usage <;> rfl

lemma Tracks.subagent {parent : String} {event : StreamEvent} (t : Tracks l a m)
    (apart : Apart messages l (.streamEvent (some parent) event)) :
    Tracks (l.subagent event) (a.parseStreamEvent event).1 m ∧
      Alike messages (a.parseStreamEvent event).2 [] := by
  cases event with
  | messageStart messageId => exact ⟨⟨rfl, t.mainId, nofun, t.occupancy⟩, .refl⟩
  | contentBlockStart index kind =>
    cases index with
    | none => exact ⟨⟨t.openId, t.mainId, nofun, t.occupancy⟩, .refl⟩
    | some index => exact ⟨⟨t.openId, t.mainId, nofun, t.occupancy⟩, .refl⟩
  | contentBlockDelta index delta =>
    obtain ⟨itemId, latched⟩ :=
      contentBlockDelta_frame a (index.bind fun i => a.stream.blockKind[i]?) delta
    refine ⟨⟨itemId.trans t.openId, t.mainId, nofun, fun o => latched.trans (t.occupancy o)⟩, ?_⟩
    exact contentBlockDelta_elsewhere _ fun shows => t.openId ▸ apart shows
  | contentBlockStop => exact ⟨t, .refl⟩
  | messageStop => exact ⟨t, .refl⟩
  | messageDelta usage reasons =>
    have goesOn : ClaudeAdapter.continues reasons = true := apart
    constructor
    · refine ⟨?_, t.mainId, ?_, ?_⟩
      · simpa [ClaudeAdapter.parseStreamEvent, Lane.subagent, latch_stream] using t.openId
      · simpa [ClaudeAdapter.parseStreamEvent, Lane.subagent, latch_stream] using t.stream
      · intro o
        obtain ⟨kept, unmeasured⟩ := Bool.or_eq_false_iff.mp o
        simpa [ClaudeAdapter.parseStreamEvent, latch_lastCallTokens, unmeasured]
          using t.occupancy kept
    · simp only [ClaudeAdapter.parseStreamEvent, goesOn, if_true]
      exact .refl
  | other subType => exact ⟨t, .aside (by simp [ClaudeAdapter.parseStreamEvent, AdapterEvent.aside])⟩

/-- The main agent's streamed frame does the same in both adapters, if it keeps to its side. -/
lemma Tracks.main {event : StreamEvent} (t : Tracks l a m)
    (apart : Apart messages l (.streamEvent none event)) :
    Tracks (l.main event) (a.parseStreamEvent event).1 (m.parseStreamEvent event).1 ∧
      Alike messages (a.parseStreamEvent event).2 (m.parseStreamEvent event).2 := by
  cases event with
  | messageStart messageId => exact ⟨⟨rfl, rfl, fun _ => rfl, t.occupancy⟩, .refl⟩
  | contentBlockStart index kind =>
    cases index with
    | none => exact ⟨t, .refl⟩
    | some index =>
      refine ⟨⟨t.openId, t.mainId, fun own => ?_, t.occupancy⟩, .refl⟩
      simp [ClaudeAdapter.parseStreamEvent, t.stream own]
  | contentBlockDelta index delta =>
    cases shows : delta.shows with
    | false =>
      simp only [ClaudeAdapter.parseStreamEvent, contentBlockDelta_silent _ shows]
      exact ⟨t, .refl⟩
    | true =>
      have same := t.stream (apart shows)
      obtain ⟨itemId, latched⟩ :=
        contentBlockDelta_frame a (index.bind fun i => a.stream.blockKind[i]?) delta
      obtain ⟨itemId', latched'⟩ :=
        contentBlockDelta_frame m (index.bind fun i => m.stream.blockKind[i]?) delta
      obtain ⟨stream, events⟩ :=
        contentBlockDelta_congr same (index.bind fun i => m.stream.blockKind[i]?) delta
      simp only [ClaudeAdapter.parseStreamEvent]
      rw [same] at itemId latched ⊢
      refine ⟨⟨?_, itemId'.trans t.mainId, fun _ => stream, fun o => ?_⟩, .of_eq events⟩
      · rw [itemId, ← same, t.openId]; rfl
      · rw [latched, latched', t.occupancy o]
  | contentBlockStop => exact ⟨t, .refl⟩
  | messageStop => exact ⟨t, .refl⟩
  | messageDelta usage reasons =>
    refine ⟨⟨?_, ?_, ?_, ?_⟩, .refl⟩
    · simpa [ClaudeAdapter.parseStreamEvent, Lane.main, latch_stream] using t.openId
    · simpa [ClaudeAdapter.parseStreamEvent, Lane.main, latch_stream] using t.mainId
    · simpa [ClaudeAdapter.parseStreamEvent, Lane.main, latch_stream] using t.stream
    · intro o
      simp only [ClaudeAdapter.parseStreamEvent, latch_lastCallTokens]
      -- a measured call of its own brings the two occupancies together again
      split
      case isTrue => rfl
      case isFalse unmeasured =>
        apply t.occupancy
        simpa [Lane.main, unmeasured] using o
  | other subType => exact ⟨t, .refl⟩

lemma blockEvents_silent {b : Block} (h : b.shows = false) (id : String) (s s' t t' : Bool) :
    ClaudeAdapter.blockEvents id s t b = ClaudeAdapter.blockEvents id s' t' b := by
  cases b with
  | text => cases h
  | thinking => cases h
  | toolUse => rfl
  | other => rfl

lemma blockEvents_elsewhere {b : Block} {id : String} {s t : Bool} (h : b.shows → id ∉ messages) :
    Alike messages (ClaudeAdapter.blockEvents id s t b) [] := by
  cases b with
  | text text =>
    rw [ClaudeAdapter.blockEvents]
    split
    · exact .refl
    · exact .text_elsewhere (h rfl)
  | thinking thinking =>
    rw [ClaudeAdapter.blockEvents]
    split
    · exact .refl
    · exact .thinking_elsewhere (h rfl)
  | toolUse id name displayName todos =>
    rw [ClaudeAdapter.blockEvents]
    split
    · exact .refl
    · split <;> exact .aside (by simp [AdapterEvent.aside])
  | other type => exact .aside (by simp [ClaudeAdapter.blockEvents, AdapterEvent.aside])

lemma blocks_elsewhere {content : List Block} {id : String} {s t : Bool}
    (h : (∃ b ∈ content, b.shows) → id ∉ messages) :
    Alike messages (content.flatMap (ClaudeAdapter.blockEvents id s t)) [] := by
  induction content with
  | nil => exact .refl
  | cons b content ih =>
    rw [List.flatMap_cons]
    refine (blockEvents_elsewhere fun shows => h ⟨b, .head _, shows⟩).append (ih ?_)
    rintro ⟨b', mem, shows⟩
    exact h ⟨b', .tail _ mem, shows⟩

lemma Tracks.assistant {messageId : String} {content : List Block} (t : Tracks l a m)
    (apart : Apart messages l (.assistant none messageId content)) :
    (a.parseAssistant messageId content).2 = (m.parseAssistant messageId content).2 := by
  by_cases shows : ∃ b ∈ content, b.shows
  case pos =>
    cases strayed : l.strayed with
    | false => simp [ClaudeAdapter.parseAssistant, t.stream strayed]
    | true =>
      -- neither adapter has streamed this message
      obtain ⟨main, other⟩ := apart shows strayed
      simp [ClaudeAdapter.parseAssistant, t.openId, t.mainId, Ne.symm main, Ne.symm other]
  case neg =>
    have silent : ∀ b ∈ content, b.shows = false := by simpa using shows
    simp only [ClaudeAdapter.parseAssistant]
    exact List.flatMap_congr fun b mem => blockEvents_silent (silent b mem) _ _ _ _ _

lemma parseUser_aside (content : List ToolResultBlock) :
    ∀ a : ClaudeAdapter, (a.parseUser content).1.stream = a.stream ∧
      (a.parseUser content).1.lastCallTokens = a.lastCallTokens ∧
      ∀ e ∈ (a.parseUser content).2, e.aside = true := by
  induction content with
  | nil =>
    intro a
    exact ⟨rfl, rfl, List.forall_mem_nil _⟩
  | cons b content ih =>
    intro a
    rw [ClaudeAdapter.parseUser]
    split
    · exact ih _
    · obtain ⟨stream, latched, aside⟩ := ih a
      refine ⟨stream, latched, fun e mem => ?_⟩
      cases mem with
      | head => rfl
      | tail _ mem => exact aside e mem

lemma Tracks.system (t : Tracks l a m) (subtype : String) (model : Option String) :
    Tracks (l.next (.system subtype model)) (a.parseSystem subtype model).1
        (m.parseSystem subtype model).1 ∧
      (a.parseSystem subtype model).2 = (m.parseSystem subtype model).2 := by
  unfold ClaudeAdapter.parseSystem
  split
  · exact ⟨⟨t.openId, t.mainId, t.stream, t.occupancy⟩, rfl⟩
  · exact ⟨⟨t.openId, t.mainId, t.stream, fun _ => rfl⟩, rfl⟩
  · exact ⟨t, rfl⟩
  · exact ⟨t, rfl⟩
  · rename_i notInit notBoundary notRetry notCompacting
    have same : l.next (.system subtype model) = l := by
      unfold Lane.next
      split <;> simp_all
    rw [same]
    exact ⟨t, rfl⟩

lemma Tracks.subagentFrame {f : Frame} (t : Tracks l a m) (sub : f.isSubagent = true)
    (apart : Apart messages l f) :
    Tracks (l.next f) (a.parseValue f).1 m ∧ Alike messages (a.parseValue f).2 [] := by
  cases f with
  | streamEvent parent event =>
    obtain ⟨p, rfl⟩ := Option.isSome_iff_exists.mp sub
    exact t.subagent apart
  | assistant parent messageId content =>
    obtain ⟨p, rfl⟩ := Option.isSome_iff_exists.mp sub
    exact ⟨⟨t.openId, t.mainId, t.stream, t.occupancy⟩, blocks_elsewhere apart⟩
  | _ => cases sub

/-- Every other frame does the same in both adapters, if it keeps to its side. -/
lemma Tracks.mainFrame {f : Frame} (t : Tracks l a m) (own : f.isSubagent = false)
    (apart : Apart messages l f) :
    Tracks (l.next f) (a.parseValue f).1 (m.parseValue f).1 ∧
      Alike messages (a.parseValue f).2 (m.parseValue f).2 := by
  cases f with
  | streamEvent parent event =>
    obtain rfl := Option.isNone_iff_eq_none.mp (Option.isSome_eq_false_iff.mp own)
    exact t.main apart
  | assistant parent messageId content =>
    obtain rfl := Option.isNone_iff_eq_none.mp (Option.isSome_eq_false_iff.mp own)
    exact ⟨⟨t.openId, t.mainId, t.stream, t.occupancy⟩, .of_eq (t.assistant apart)⟩
  | system subtype model =>
    obtain ⟨kept, events⟩ := t.system subtype model
    exact ⟨kept, .of_eq events⟩
  | user parent content =>
    obtain ⟨stream, latched, aside⟩ := parseUser_aside content a
    obtain ⟨stream', latched', aside'⟩ := parseUser_aside content m
    refine ⟨⟨?_, ?_, ?_, ?_⟩, (Alike.aside aside).trans (Alike.aside aside').symm⟩
    · exact (congrArg StreamState.itemId stream).trans t.openId
    · exact (congrArg StreamState.itemId stream').trans t.mainId
    · exact fun s => stream.trans ((t.stream s).trans stream'.symm)
    · exact fun o => latched.trans ((t.occupancy o).trans latched'.symm)
  | result frame =>
    cases usage : frame.usage with
    | none =>
      simp only [ClaudeAdapter.parseValue, ClaudeAdapter.parseResult, usage]
      exact ⟨⟨t.openId, t.mainId, t.stream, t.occupancy⟩, .refl⟩
    | some counts =>
      have same := t.occupancy (apart (by simp [usage]))
      simp only [ClaudeAdapter.parseValue, ClaudeAdapter.parseResult, usage]
      refine ⟨⟨t.openId, t.mainId, t.stream, t.occupancy⟩, ⟨rfl, ?_, fun _ _ => rfl, fun _ _ => rfl⟩⟩
      simp [occupancies, ClaudeAdapter.turnResult, ClaudeAdapter.usageDelta,
        ClaudeAdapter.totalTokens, same]
  | controlRequest subtype toolUseId requestId toolName =>
    simp only [ClaudeAdapter.parseValue, ClaudeAdapter.parseControlRequest]
    split_ifs <;> exact ⟨⟨t.openId, t.mainId, t.stream, t.occupancy⟩, .refl⟩
  | controlCancelRequest requestId =>
    simp only [ClaudeAdapter.parseValue, ClaudeAdapter.parseControlCancelRequest]
    split_ifs <;>
      exact ⟨⟨t.openId, t.mainId, t.stream, t.occupancy⟩,
        (Alike.aside (by simp [AdapterEvent.aside])).trans
          (Alike.aside (by simp [AdapterEvent.aside])).symm⟩
  | commandLifecycle => exact ⟨t, .refl⟩
  | other => exact ⟨t, .refl⟩

lemma Tracks.emitted {frames : List Frame} (t : Tracks l a m)
    (apart : KeptApart messages l frames) :
    Alike messages (a.emitted frames) (m.emitted (mainFrames frames)) := by
  induction frames generalizing l a m with
  | nil => exact .refl
  | cons f frames ih =>
    obtain ⟨first, rest⟩ := apart
    cases sub : f.isSubagent with
    | true =>
      obtain ⟨kept, unseen⟩ := t.subagentFrame sub first
      simpa [ClaudeAdapter.emitted, mainFrames, sub] using unseen.append (ih kept rest)
    | false =>
      obtain ⟨kept, same⟩ := t.mainFrame sub first
      simpa [ClaudeAdapter.emitted, mainFrames, sub] using same.append (ih kept rest)

lemma tracks_new : Tracks .start .new .new := ⟨rfl, rfl, fun _ => rfl, fun _ => rfl⟩

/-- If every frame keeps to its side, then the results, the deltas of the main agent's messages and the
occupancies are those of the main agent's frames alone, and so the same wherever the subagents' frames
lie between them. -/
theorem subagents_apart (frames : List Frame)
    (apart : KeptApart (mainMessages frames) .start frames) :
    SameTurn (mainMessages frames) (ClaudeAdapter.new.emitted frames)
        (ClaudeAdapter.new.emitted (mainFrames frames)) ∧
      ∀ moved, mainFrames moved = mainFrames frames →
        KeptApart (mainMessages frames) .start moved →
        SameTurn (mainMessages frames) (ClaudeAdapter.new.emitted moved)
          (ClaudeAdapter.new.emitted frames) := by
  have alone := tracks_new.emitted apart
  refine ⟨alone.sameTurn, fun moved same apart' => ?_⟩
  have alone' := tracks_new.emitted apart'
  rw [same] at alone'
  exact (alone'.trans alone.symm).sameTurn

/-- A call that is measured at `n` tokens. -/
def measured (n : Nat) : Option Usage :=
  some { inputTokens := n, outputTokens := 0, cacheCreationInputTokens := 0
         cacheReadInputTokens := 0, totalTokens := none, thinkingTokens := 0 }

def stops (reason : String) : Reasons := { terminalReason := none, stopReason := some reason }

/-- The main agent delegates, waits for its subagent and replies. -/
def delegation : List Frame :=
  [ .streamEvent none (.messageStart "m1"),
    .streamEvent none (.messageDelta (measured 10) (stops "tool_use")),
    .assistant (some "task") "s1" [.text "looking"],
    .streamEvent (some "task") (.messageStart "s2"),
    .streamEvent (some "task") (.contentBlockStart (some 0) .text),
    .streamEvent (some "task") (.contentBlockDelta (some 0) (.textDelta "found")),
    .streamEvent (some "task") (.messageDelta (measured 7) (stops "tool_use")),
    .streamEvent none (.messageStart "m2"),
    .streamEvent none (.contentBlockStart (some 0) .text),
    .streamEvent none (.contentBlockDelta (some 0) (.textDelta "done")),
    .streamEvent none (.messageDelta (measured 20) (stops "end_turn")),
    .result
      { isError := false, apiErrorStatus := none, result := some "done", errors := []
        subtype := "success", reasons := stops "end_turn", usage := measured 37, modelUsage := [] } ]

theorem subagents_apart_delegation :
    SameTurn ["m1", "m2"] (ClaudeAdapter.new.emitted delegation)
      (ClaudeAdapter.new.emitted (mainFrames delegation)) :=
  (subagents_apart delegation (by decide)).1

/-- A subagent that ends its reply ends the turn of the main agent. -/
theorem subagent_ends_turn :
    ¬ ∀ frames : List Frame,
      SameTurn (mainMessages frames) (ClaudeAdapter.new.emitted frames)
        (ClaudeAdapter.new.emitted (mainFrames frames)) := by
  intro h
  have same := (h [ .streamEvent none (.messageStart "m1"),
    .streamEvent none (.messageDelta none (stops "tool_use")),
    .streamEvent (some "task") (.messageStart "s1"),
    .streamEvent (some "task") (.messageDelta none (stops "end_turn")) ]).results
  have one := congrArg List.length same
  revert one
  decide

end KiCore.Session.Claude

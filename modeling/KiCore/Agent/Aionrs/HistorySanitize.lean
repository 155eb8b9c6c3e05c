import KiCore.Lib.Json
import KiCore.Lib.Text

/-!
# Sanitizing a resumed history

Port of `manager/aionrs/history_sanitize.rs`. Tool calls without a name go, with every result under
their id; then the assistant messages without text that hold a call without a result. Results are
looked up in the whole history, and before any of these messages is gone.
-/

namespace KiCore.Agent.Aionrs

open KiCore.Lib
open Str (trim)

inductive Role where
  | user
  | assistant
  | tool
  deriving DecidableEq

inductive ContentBlock where
  | text (text : String)
  | thinking (thinking : String)
  | image (data mediaType : String)
  | toolUse (id name : String) (input : Json) (extra : Option Json)
  | toolResult (toolUseId content : String) (isError : Bool)
  | providerItem (provider : String) (item : Json)

structure Message where
  role : Role
  content : List ContentBlock

variable (messages : List Message)

def blocks : List ContentBlock := messages.flatMap Message.content

def malformedToolUseIds : List String :=
  (blocks messages).filterMap fun block => match block with
    | .toolUse id name _ _ => if trim name = "" then some id else none
    | _ => none

/-- The closure of the first `retain`. -/
def retained (malformed : List String) : ContentBlock → Bool
  | .toolUse _ name _ _ => trim name ≠ ""
  | .toolResult toolUseId _ _ => toolUseId ∉ malformed
  | _ => true

def Message.strip (malformed : List String) (msg : Message) : Message :=
  { msg with content := msg.content.filter (retained malformed) }

def stripMalformedToolCalls : List Message × Nat :=
  let malformed := malformedToolUseIds messages
  if malformed.isEmpty then (messages, 0)
  else
    let stripped := messages.map (Message.strip malformed)
    let kept := stripped.filter fun msg => !msg.content.isEmpty
    (kept, stripped.length - kept.length)

def answeredToolUseIds : List String :=
  (blocks messages).filterMap fun block => match block with
    | .toolResult toolUseId _ _ => some toolUseId
    | _ => none

variable (msg : Message)

def isOrphanedAssistantToolCall (answered : List String) : Bool :=
  if msg.role ≠ .assistant then false
  else
    let hasToolUse := msg.content.any fun block => match block with
      | .toolUse .. => true
      | _ => false
    let hasUnanswered := msg.content.any fun block => match block with
      | .toolUse id _ _ _ => id ∉ answered
      | _ => false
    let hasText := msg.content.any fun block => match block with
      | .text text => trim text ≠ ""
      | _ => false
    hasToolUse && hasUnanswered && !hasText

/-- What is left of the history, and how many messages were removed. -/
def sanitizeSessionMessages : List Message × Nat :=
  if messages.isEmpty then (messages, 0)
  else
    let (stripped, removed) := stripMalformedToolCalls messages
    let answered := answeredToolUseIds stripped
    let kept := stripped.filter fun msg => !isOrphanedAssistantToolCall msg answered
    (kept, removed + (stripped.length - kept.length))

variable (id : String)

def Message.uses : Prop :=
  ∃ name input extra, .toolUse id name input extra ∈ msg.content

/-- There is a tool use with the id, and it has a name. -/
def Message.calls : Prop :=
  ∃ name input extra, trim name ≠ "" ∧ .toolUse id name input extra ∈ msg.content

/-- There is a tool use with the id, and its name is blank. -/
def Message.malforms : Prop :=
  ∃ name input extra, trim name = "" ∧ .toolUse id name input extra ∈ msg.content

def Message.answers : Prop :=
  ∃ content isError, .toolResult id content isError ∈ msg.content

def Message.textless : Prop :=
  msg.role = .assistant ∧ ∀ text, .text text ∈ msg.content → trim text = ""

/-- Some message has a tool use with the id and no name. -/
def Malformed : Prop := ∃ msg ∈ messages, msg.malforms id

/-- Some message has a result for the id, and no use without a name takes it away. -/
def Answered : Prop :=
  (∃ msg ∈ messages, msg.answers id) ∧ ¬ Malformed messages id

def Dropped (msg : Message) : Prop :=
  msg.textless ∧ ∃ id, msg.calls id ∧ ¬ Answered messages id

variable {messages before after pre post : List Message} {msg msg' : Message} {id : String}
  {malformed answered : List String}

lemma mem_blocks {block : ContentBlock} :
    block ∈ blocks messages ↔ ∃ msg ∈ messages, block ∈ msg.content :=
  List.mem_flatMap

lemma mem_malformedToolUseIds : id ∈ malformedToolUseIds messages ↔ Malformed messages id := by
  rw [malformedToolUseIds, List.mem_filterMap]
  constructor
  · rintro ⟨block, mem, found⟩
    obtain ⟨msg, held, inside⟩ := mem_blocks.mp mem
    cases block with
    | toolUse id' name input extra =>
      by_cases blank : trim name = ""
      · have same : id' = id := by simpa [blank] using found
        subst same
        exact ⟨msg, held, name, input, extra, blank, inside⟩
      · simp [blank] at found
    | _ => cases found
  · rintro ⟨msg, held, name, input, extra, blank, inside⟩
    exact ⟨_, mem_blocks.mpr ⟨msg, held, inside⟩, by simp [blank]⟩

lemma mem_answeredToolUseIds :
    id ∈ answeredToolUseIds messages ↔ ∃ msg ∈ messages, msg.answers id := by
  rw [answeredToolUseIds, List.mem_filterMap]
  constructor
  · rintro ⟨block, mem, found⟩
    obtain ⟨msg, held, inside⟩ := mem_blocks.mp mem
    cases block with
    | toolResult id' content isError =>
      cases found
      exact ⟨msg, held, content, isError, inside⟩
    | _ => cases found
  · rintro ⟨msg, held, content, isError, inside⟩
    exact ⟨_, mem_blocks.mpr ⟨msg, held, inside⟩, rfl⟩

lemma Message.calls.uses (called : msg.calls id) : msg.uses id := by
  obtain ⟨name, input, extra, -, mem⟩ := called
  exact ⟨name, input, extra, mem⟩

lemma mem_strip {block : ContentBlock} :
    block ∈ (msg.strip malformed).content ↔ block ∈ msg.content ∧ retained malformed block = true :=
  List.mem_filter

lemma strip_calls : (msg.strip malformed).calls id ↔ msg.calls id := by
  constructor
  · rintro ⟨name, input, extra, named, mem⟩
    exact ⟨name, input, extra, named, (mem_strip.mp mem).1⟩
  · rintro ⟨name, input, extra, named, mem⟩
    exact ⟨name, input, extra, named, mem_strip.mpr ⟨mem, decide_eq_true named⟩⟩

lemma strip_uses : (msg.strip malformed).uses id ↔ msg.calls id := by
  constructor
  · rintro ⟨name, input, extra, mem⟩
    obtain ⟨held, kept⟩ := mem_strip.mp mem
    exact ⟨name, input, extra, of_decide_eq_true kept, held⟩
  · intro called
    exact (strip_calls.mpr called).uses

lemma strip_answers : (msg.strip malformed).answers id ↔ msg.answers id ∧ id ∉ malformed := by
  constructor
  · rintro ⟨content, isError, mem⟩
    obtain ⟨held, kept⟩ := mem_strip.mp mem
    exact ⟨⟨content, isError, held⟩, of_decide_eq_true kept⟩
  · rintro ⟨⟨content, isError, mem⟩, good⟩
    exact ⟨content, isError, mem_strip.mpr ⟨mem, decide_eq_true good⟩⟩

lemma strip_textless : (msg.strip malformed).textless ↔ msg.textless := by
  constructor
  · intro bare
    exact ⟨bare.1, fun text mem => bare.2 text (mem_strip.mpr ⟨mem, rfl⟩)⟩
  · intro bare
    exact ⟨bare.1, fun text mem => bare.2 text (mem_strip.mp mem).1⟩

lemma strip_eq_self (named : ∀ id, ¬ msg.malforms id)
    (results : ∀ id, msg.answers id → id ∉ malformed) : msg.strip malformed = msg := by
  have all : ∀ block ∈ msg.content, retained malformed block = true := by
    intro block mem
    cases block with
    | toolUse id name input extra =>
      exact decide_eq_true fun blank => named id ⟨name, input, extra, blank, mem⟩
    | toolResult id content isError => exact decide_eq_true (results id ⟨content, isError, mem⟩)
    | _ => rfl
  rw [Message.strip, List.filter_eq_self.mpr all]

lemma isOrphaned_iff : isOrphanedAssistantToolCall msg answered = true ↔
    msg.textless ∧ ∃ id, msg.uses id ∧ id ∉ answered := by
  by_cases role : msg.role = .assistant
  · rw [isOrphanedAssistantToolCall, if_neg (not_not.mpr role)]
    simp only [Bool.and_eq_true, Bool.not_eq_true', List.any_eq_true, List.any_eq_false]
    constructor
    · rintro ⟨⟨-, block, mem, open_⟩, silent⟩
      refine ⟨⟨role, fun text held => ?_⟩, ?_⟩
      · simpa using silent _ held
      · cases block with
        | toolUse id name input extra =>
          exact ⟨id, ⟨name, input, extra, mem⟩, of_decide_eq_true open_⟩
        | _ => cases open_
    · rintro ⟨bare, id, ⟨name, input, extra, mem⟩, open_⟩
      refine ⟨⟨⟨_, mem, rfl⟩, _, mem, decide_eq_true open_⟩, fun block held => ?_⟩
      cases block with
      | text text => simpa using bare.2 text held
      | _ => exact Bool.false_ne_true
  · rw [isOrphanedAssistantToolCall, if_pos role]
    exact iff_of_false Bool.false_ne_true fun orphaned => role orphaned.1.1

/-- The message stays, stripped: it is not dropped, and if there is a malformed use anywhere then some
block is left of it. -/
def Stays (messages : List Message) (msg : Message) : Prop :=
  ¬ Dropped messages msg ∧
    ((∀ id, ¬ Malformed messages id) ∨ (msg.strip (malformedToolUseIds messages)).content ≠ [])

open Classical in
noncomputable def settle (messages : List Message) (msg : Message) : Option Message :=
  if Stays messages msg then some (msg.strip (malformedToolUseIds messages)) else none

lemma settle_eq_some :
    settle messages msg = some msg' ↔
      Stays messages msg ∧ msg' = msg.strip (malformedToolUseIds messages) := by
  by_cases stays : Stays messages msg
  · rw [settle, if_pos stays, Option.some_inj, eq_comm]
    exact (and_iff_right stays).symm
  · rw [settle, if_neg stays]
    exact iff_of_false (by simp) fun both => stays both.1

lemma Stays.settle_eq (stays : Stays messages msg) :
    settle messages msg = some (msg.strip (malformedToolUseIds messages)) :=
  if_pos stays

lemma settle_of_not (gone : ¬ Stays messages msg) : settle messages msg = none :=
  if_neg gone

lemma Stays.of_calls (kept : ¬ Dropped messages msg) (called : msg.calls id) : Stays messages msg := by
  refine ⟨kept, .inr fun empty => ?_⟩
  obtain ⟨name, input, extra, -, mem⟩ := strip_calls.mpr called
  rw [empty] at mem
  exact absurd mem List.not_mem_nil

lemma Stays.of_answers (kept : ¬ Dropped messages msg) (answer : msg.answers id)
    (good : ¬ Malformed messages id) : Stays messages msg := by
  refine ⟨kept, .inr fun empty => ?_⟩
  obtain ⟨content, isError, mem⟩ :=
    strip_answers.mpr ⟨answer, mt mem_malformedToolUseIds.mp good⟩
  rw [empty] at mem
  exact absurd mem List.not_mem_nil

lemma malformedToolUseIds_eq_nil :
    malformedToolUseIds messages = [] ↔ ∀ id, ¬ Malformed messages id := by
  rw [List.eq_nil_iff_forall_not_mem]
  exact forall_congr' fun id => not_congr mem_malformedToolUseIds

lemma strip_of_none (none : ∀ id, ¬ Malformed messages id) (mem : msg ∈ messages) :
    msg.strip (malformedToolUseIds messages) = msg :=
  strip_eq_self (fun id bad => none id ⟨msg, mem, bad⟩)
    fun id _ listed => none id (mem_malformedToolUseIds.mp listed)

lemma stripMalformed_fst (messages : List Message) :
    (stripMalformedToolCalls messages).1 =
      (messages.map (Message.strip (malformedToolUseIds messages))).filter fun msg =>
        (malformedToolUseIds messages).isEmpty || !msg.content.isEmpty := by
  rw [stripMalformedToolCalls]
  by_cases clean : malformedToolUseIds messages = []
  · have same : messages.map (Message.strip (malformedToolUseIds messages)) = messages :=
      (List.map_congr_left fun msg mem =>
        strip_of_none (malformedToolUseIds_eq_nil.mp clean) mem).trans (List.map_id _)
    rw [same]
    simp [clean]
  · have some_ : (malformedToolUseIds messages).isEmpty = false := by simpa using clean
    simp only [some_, Bool.false_eq_true, if_false, Bool.false_or]

lemma answered_stripped :
    id ∈ answeredToolUseIds (stripMalformedToolCalls messages).1 ↔ Answered messages id := by
  rw [mem_answeredToolUseIds, stripMalformed_fst]
  constructor
  · rintro ⟨msg', held, answer⟩
    obtain ⟨msg, mem, rfl⟩ := List.mem_map.mp (List.mem_filter.mp held).1
    obtain ⟨answer, good⟩ := strip_answers.mp answer
    exact ⟨⟨msg, mem, answer⟩, mt mem_malformedToolUseIds.mpr good⟩
  · rintro ⟨⟨msg, mem, answer⟩, good⟩
    have answer' := strip_answers.mpr ⟨answer, mt mem_malformedToolUseIds.mp good⟩
    refine ⟨_, List.mem_filter.mpr ⟨List.mem_map_of_mem mem, ?_⟩, answer'⟩
    obtain ⟨content, isError, inside⟩ := answer'
    rw [List.isEmpty_eq_false_iff_exists_mem.mpr ⟨_, inside⟩, Bool.not_false, Bool.or_true]

lemma orphaned_strip : isOrphanedAssistantToolCall (msg.strip (malformedToolUseIds messages))
      (answeredToolUseIds (stripMalformedToolCalls messages).1) = true ↔ Dropped messages msg := by
  rw [isOrphaned_iff, strip_textless]
  simp only [strip_uses, answered_stripped]
  rfl

/-- Each message is settled by itself, in view of the whole history. -/
theorem sanitize_fst (messages : List Message) :
    (sanitizeSessionMessages messages).1 = messages.filterMap (settle messages) := by
  have whole : (sanitizeSessionMessages messages).1 = (stripMalformedToolCalls messages).1.filter fun msg =>
      !isOrphanedAssistantToolCall msg (answeredToolUseIds (stripMalformedToolCalls messages).1) := by
    cases messages <;> rfl
  have orphaned := @orphaned_strip messages
  generalize answeredToolUseIds (stripMalformedToolCalls messages).1 = answered at whole orphaned
  rw [whole, stripMalformed_fst, List.filter_filter, ← List.filterMap_eq_filter, List.filterMap_map]
  apply List.filterMap_congr
  intro msg _
  rw [Function.comp_apply]
  by_cases stays : Stays messages msg
  · rw [stays.settle_eq]
    apply Option.guard_pos
    rw [Bool.and_eq_true, Bool.not_eq_true', ← Bool.not_eq_true, orphaned, Bool.or_eq_true,
      List.isEmpty_iff, malformedToolUseIds_eq_nil, Bool.not_eq_true', List.isEmpty_eq_false_iff]
    exact stays
  · rw [settle, if_neg stays, Option.guard_eq_none_iff, ← Bool.not_eq_true]
    intro kept
    rw [Bool.and_eq_true, Bool.not_eq_true', ← Bool.not_eq_true, orphaned, Bool.or_eq_true,
      List.isEmpty_iff, malformedToolUseIds_eq_nil, Bool.not_eq_true', List.isEmpty_eq_false_iff] at kept
    exact stays kept

/-- `after` is `before` with messages and blocks taken away. -/
inductive Trimmed : List Message → List Message → Prop where
  | nil : Trimmed [] []
  | drop (m : Message) {l l' : List Message} : Trimmed l l' → Trimmed (m :: l) l'
  | keep {m m' : Message} {l l' : List Message} : m'.role = m.role → m'.content.Sublist m.content →
    Trimmed l l' → Trimmed (m :: l) (m' :: l')

/-- An assistant message without text holds a tool use that no later message answers. -/
def Orphaned (msg : Message) (post : List Message) : Prop :=
  msg.textless ∧ ∃ id, msg.uses id ∧ ∀ later ∈ post, ¬ later.answers id

/-- No malformed use is in the message, and no result for one. -/
def Untouched (messages : List Message) (msg : Message) : Prop :=
  (∀ id, ¬ msg.malforms id) ∧ ∀ id, msg.answers id → ¬ Malformed messages id

structure Sanitized (before after : List Message) (removed : Nat) : Prop where
  named : ∀ msg ∈ after, ∀ id, ¬ msg.malforms id
  answered : ∀ pre msg post, after = pre ++ msg :: post → ¬ Orphaned msg post
  /-- A malformed use does not part a use that has its id from its result. -/
  paired : ∀ id, Malformed before id → (∃ msg ∈ before, msg.calls id) → (∃ msg ∈ before, msg.answers id) →
    ((∃ msg ∈ after, msg.calls id) ↔ ∃ msg ∈ after, msg.answers id)
  kept : ∀ pre msg post, before = pre ++ msg :: post → msg.content ≠ [] → Untouched before msg →
    ¬ Orphaned msg post → ∃ pre' post', after = pre' ++ msg :: post' ∧ Trimmed pre pre' ∧ Trimmed post post'
  counted : removed + after.length = before.length
  settled : sanitizeSessionMessages after = (after, 0)

/-- When the code gets there. -/
structure WellPaired (messages : List Message) : Prop where
  /-- Calls that all have results have them later, in messages that are not dropped. -/
  later : ∀ pre msg post, messages = pre ++ msg :: post → msg.textless →
    (∀ id, msg.calls id → Answered messages id) →
    ∀ id, msg.calls id → ∃ result ∈ post, result.answers id ∧ ¬ Dropped messages result
  /-- A use that shares its id with a malformed one, and has a result, is in no message that stays for
  its text or its role. -/
  unshared : ∀ id, Malformed messages id → (∃ msg ∈ messages, msg.answers id) →
    ∀ msg ∈ messages, msg.calls id → msg.textless
  /-- Nor is it in a message without malformed uses whose uses all have later results. -/
  complete : ∀ pre msg post, messages = pre ++ msg :: post → msg.textless → Untouched messages msg →
    (∀ id, msg.uses id → ∃ result ∈ post, result.answers id) → ∀ id, msg.uses id → ¬ Malformed messages id

lemma trimmed_filterMap (messages : List Message) :
    Trimmed pre (pre.filterMap (settle messages)) := by
  induction pre with
  | nil => exact .nil
  | cons msg pre ih =>
    by_cases stays : Stays messages msg
    · rw [List.filterMap_cons_some stays.settle_eq]
      exact .keep rfl List.filter_sublist ih
    · rw [List.filterMap_cons_none (settle_of_not stays)]
      exact .drop msg ih

lemma mem_sanitized : msg' ∈ messages.filterMap (settle messages) ↔
    ∃ msg ∈ messages, Stays messages msg ∧ msg' = msg.strip (malformedToolUseIds messages) := by
  simp only [List.mem_filterMap, settle_eq_some]

lemma sanitized_split (split : messages.filterMap (settle messages) = before ++ msg' :: after) :
    ∃ pre msg post, messages = pre ++ msg :: post ∧ Stays messages msg ∧
      msg' = msg.strip (malformedToolUseIds messages) ∧ post.filterMap (settle messages) = after := by
  obtain ⟨pre, rest, rfl, -, there⟩ := List.filterMap_eq_append_iff.mp split
  obtain ⟨gone, msg, post, rfl, -, settled, rfl⟩ := List.filterMap_eq_cons_iff.mp there
  obtain ⟨stays, eq⟩ := settle_eq_some.mp settled
  exact ⟨pre ++ gone, msg, post, (List.append_assoc ..).symm, stays, eq, rfl⟩

lemma Stays.sanitized_append (stays : Stays messages msg) (split : messages = pre ++ msg :: post) :
    messages.filterMap (settle messages) = pre.filterMap (settle messages) ++
      msg.strip (malformedToolUseIds messages) :: post.filterMap (settle messages) := by
  conv_lhs => rw [split]
  rw [List.filterMap_append, ← split, List.filterMap_cons_some stays.settle_eq]

lemma not_malforms_strip : ¬ (msg.strip malformed).malforms id := by
  rintro ⟨name, input, extra, blank, mem⟩
  exact of_decide_eq_true (mem_strip.mp mem).2 blank

lemma answered_of_stays (stays : Stays messages msg) (bare : msg.textless) (called : msg.calls id) :
    Answered messages id :=
  not_not.mp fun missing => stays.1 ⟨bare, id, called, missing⟩

lemma answered_iff : (∀ pre msg post, messages.filterMap (settle messages) = pre ++ msg :: post →
      ¬ Orphaned msg post) ↔
    ∀ pre msg post, messages = pre ++ msg :: post → msg.textless →
      (∀ id, msg.calls id → Answered messages id) →
      ∀ id, msg.calls id → ∃ result ∈ post, result.answers id ∧ ¬ Dropped messages result := by
  constructor
  · rintro law pre msg post rfl bare results id called
    have stays : Stays (pre ++ msg :: post) msg :=
      .of_calls (fun dropped => dropped.2.elim fun id both => both.2 (results id both.1)) called
    have kept := law _ _ _ (stays.sanitized_append rfl)
    have found : ∃ later ∈ post.filterMap (settle (pre ++ msg :: post)), later.answers id := by
      by_contra none
      exact kept ⟨strip_textless.mpr bare, id, strip_uses.mpr called,
        fun later mem answer => none ⟨later, mem, answer⟩⟩
    obtain ⟨later, mem, answer⟩ := found
    obtain ⟨result, held, settled⟩ := List.mem_filterMap.mp mem
    obtain ⟨stays', rfl⟩ := settle_eq_some.mp settled
    exact ⟨result, held, (strip_answers.mp answer).1, stays'.1⟩
  · rintro law before msg' after split ⟨bare, id, used, open_⟩
    obtain ⟨pre, msg, post, eq, stays, rfl, rfl⟩ := sanitized_split split
    have bare := strip_textless.mp bare
    have called := strip_uses.mp used
    obtain ⟨result, mem, answer, kept⟩ :=
      law pre msg post eq bare (fun id called => answered_of_stays stays bare called) id called
    have good := (answered_of_stays stays bare called).2
    have stays' := Stays.of_answers kept answer good
    exact open_ _ (List.mem_filterMap.mpr ⟨result, mem, stays'.settle_eq⟩)
      (strip_answers.mpr ⟨answer, mt mem_malformedToolUseIds.mp good⟩)

lemma not_answers_of_malformed (bad : Malformed messages id) :
    ¬ ∃ msg ∈ messages.filterMap (settle messages), msg.answers id := by
  rintro ⟨msg', mem, answer⟩
  obtain ⟨msg, -, -, rfl⟩ := mem_sanitized.mp mem
  exact (strip_answers.mp answer).2 (mem_malformedToolUseIds.mpr bad)

lemma paired_iff : (∀ id, Malformed messages id → (∃ msg ∈ messages, msg.calls id) →
      (∃ msg ∈ messages, msg.answers id) →
      ((∃ msg ∈ messages.filterMap (settle messages), msg.calls id) ↔
        ∃ msg ∈ messages.filterMap (settle messages), msg.answers id)) ↔
    ∀ id, Malformed messages id → (∃ msg ∈ messages, msg.answers id) →
      ∀ msg ∈ messages, msg.calls id → msg.textless := by
  constructor
  · intro law id bad result msg mem called
    by_contra silent
    have stays : Stays messages msg := .of_calls (fun dropped => silent dropped.1) called
    have left := (law id bad ⟨msg, mem, called⟩ result).mp
      ⟨_, List.mem_filterMap.mpr ⟨msg, mem, stays.settle_eq⟩, strip_calls.mpr called⟩
    exact not_answers_of_malformed bad left
  · intro law id bad _ result
    refine iff_of_false ?_ (not_answers_of_malformed bad)
    rintro ⟨msg', mem, called⟩
    obtain ⟨msg, held, stays, rfl⟩ := mem_sanitized.mp mem
    have called := strip_calls.mp called
    exact (answered_of_stays stays (law id bad result msg held called) called).2 bad

lemma Untouched.strip (untouched : Untouched messages msg) :
    msg.strip (malformedToolUseIds messages) = msg :=
  strip_eq_self untouched.1 fun id answer => mt mem_malformedToolUseIds.mp (untouched.2 id answer)

lemma kept_iff : (∀ pre msg post, messages = pre ++ msg :: post → msg.content ≠ [] →
      Untouched messages msg → ¬ Orphaned msg post → ∃ pre' post',
        messages.filterMap (settle messages) = pre' ++ msg :: post' ∧ Trimmed pre pre' ∧ Trimmed post post') ↔
    ∀ pre msg post, messages = pre ++ msg :: post → msg.textless → Untouched messages msg →
      (∀ id, msg.uses id → ∃ result ∈ post, result.answers id) →
      ∀ id, msg.uses id → ¬ Malformed messages id := by
  constructor
  · intro law pre msg post split bare untouched results id used
    have full : msg.content ≠ [] := by
      obtain ⟨name, input, extra, mem⟩ := used
      exact List.ne_nil_of_mem mem
    have paired : ¬ Orphaned msg post := by
      rintro ⟨-, id, used, none⟩
      obtain ⟨result, mem, answer⟩ := results id used
      exact none result mem answer
    obtain ⟨pre', post', kept, -, -⟩ := law pre msg post split full untouched paired
    have mem : msg ∈ messages.filterMap (settle messages) :=
      kept ▸ List.mem_append_right _ List.mem_cons_self
    obtain ⟨origin, -, stays, rfl⟩ := mem_sanitized.mp mem
    exact (answered_of_stays stays (strip_textless.mp bare) (strip_uses.mp used)).2
  · intro law pre msg post split full untouched paired
    have kept : ¬ Dropped messages msg := by
      rintro ⟨bare, id, called, open_⟩
      have results : ∀ id, msg.uses id → ∃ result ∈ post, result.answers id := by
        intro id used
        by_contra none
        exact paired ⟨bare, id, used, fun later mem answer => none ⟨later, mem, answer⟩⟩
      obtain ⟨result, mem, answer⟩ := results id called.uses
      have there : result ∈ messages := by
        rw [split]
        exact List.mem_append_right _ (List.mem_cons_of_mem _ mem)
      exact open_ ⟨⟨result, there, answer⟩, law pre msg post split bare untouched results id called.uses⟩
    have stays : Stays messages msg := ⟨kept, .inr (by rwa [untouched.strip])⟩
    refine ⟨_, _, ?_, trimmed_filterMap messages, trimmed_filterMap messages⟩
    rw [stays.sanitized_append split, untouched.strip]

lemma strip_snd (messages : List Message) :
    (stripMalformedToolCalls messages).2 + (stripMalformedToolCalls messages).1.length =
      messages.length := by
  rw [stripMalformedToolCalls]
  dsimp only
  split
  · exact Nat.zero_add _
  · rw [Nat.sub_add_cancel (List.length_filter_le ..), List.length_map]

lemma sanitize_cons (msg : Message) (rest : List Message) : sanitizeSessionMessages (msg :: rest) =
    let (stripped, removed) := stripMalformedToolCalls (msg :: rest)
    let kept := stripped.filter fun msg =>
      !isOrphanedAssistantToolCall msg (answeredToolUseIds stripped)
    (kept, removed + (stripped.length - kept.length)) :=
  rfl

lemma sanitize_counted (messages : List Message) :
    (sanitizeSessionMessages messages).2 + (sanitizeSessionMessages messages).1.length =
      messages.length := by
  cases messages with
  | nil => rfl
  | cons msg rest =>
    rw [sanitize_cons, Nat.add_assoc, Nat.sub_add_cancel (List.length_filter_le ..)]
    exact strip_snd (msg :: rest)

lemma sanitize_of_fates (fates : ∀ msg ∈ messages, settle messages msg = some msg) :
    sanitizeSessionMessages messages = (messages, 0) := by
  have same : (sanitizeSessionMessages messages).1 = messages := by
    rw [sanitize_fst, List.filterMap_congr fates, List.filterMap_some]
  have count := sanitize_counted messages
  rw [same] at count
  exact Prod.ext same (by simpa using count)

lemma sanitize_of_settled (named : ∀ msg ∈ messages, ∀ id, ¬ msg.malforms id)
    (law : ∀ pre msg post, messages = pre ++ msg :: post → ¬ Orphaned msg post) :
    sanitizeSessionMessages messages = (messages, 0) := by
  have clean : ∀ id, ¬ Malformed messages id := by
    rintro id ⟨msg, mem, bad⟩
    exact named msg mem id bad
  have fates : ∀ msg ∈ messages, settle messages msg = some msg := by
    intro msg mem
    obtain ⟨pre, post, split⟩ := List.append_of_mem mem
    have kept : ¬ Dropped messages msg := by
      rintro ⟨bare, id, called, open_⟩
      refine law pre msg post split ⟨bare, id, called.uses, fun later held answer => ?_⟩
      have there : later ∈ messages := by
        rw [split]
        exact List.mem_append_right _ (List.mem_cons_of_mem _ held)
      exact open_ ⟨⟨later, there, answer⟩, clean id⟩
    have stays : Stays messages msg := ⟨kept, .inl clean⟩
    rw [stays.settle_eq, strip_of_none clean mem]
  exact sanitize_of_fates fates

/-- Sanitizing a history comes to what it is for exactly if the history is well paired. -/
theorem sanitize_iff (messages : List Message) :
    Sanitized messages (sanitizeSessionMessages messages).1 (sanitizeSessionMessages messages).2 ↔
      WellPaired messages := by
  have named : ∀ msg ∈ messages.filterMap (settle messages), ∀ id, ¬ msg.malforms id := by
    intro msg' mem id
    obtain ⟨msg, -, -, rfl⟩ := mem_sanitized.mp mem
    exact not_malforms_strip
  have counted := sanitize_counted messages
  rw [sanitize_fst] at counted ⊢
  constructor
  · intro law
    exact ⟨answered_iff.mp law.answered, paired_iff.mp law.paired, kept_iff.mp law.kept⟩
  · intro paired
    have answered := answered_iff.mpr paired.later
    exact ⟨named, answered, paired_iff.mpr paired.unshared, kept_iff.mpr paired.complete, counted,
      sanitize_of_settled named answered⟩

/-- The result of the only call comes before it: the call is kept, and no later message answers it. -/
def resultFirst : List Message :=
  [ { role := .user, content := [.toolResult "call" "ok" false] },
    { role := .assistant, content := [.toolUse "call" "search" .null none] } ]

theorem resultFirst_kept :
    ¬ Sanitized resultFirst (sanitizeSessionMessages resultFirst).1 (sanitizeSessionMessages resultFirst).2 := by
  intro law
  have same : (sanitizeSessionMessages resultFirst).1 = resultFirst := by rfl
  rw [same] at law
  apply law.answered [_] _ [] rfl
  refine ⟨⟨rfl, ?_⟩, "call", ⟨"search", .null, none, List.mem_singleton.mpr rfl⟩, List.forall_mem_nil _⟩
  intro text mem
  cases List.mem_singleton.mp mem

/-- Where assistant messages hold no results, sanitizing takes nothing from a history that is sanitized,
also if a result comes before its use. -/
theorem sanitize_settles (apart : ∀ msg ∈ messages, msg.role = .assistant → ∀ id, ¬ msg.answers id) :
    sanitizeSessionMessages (sanitizeSessionMessages messages).1 =
      ((sanitizeSessionMessages messages).1, 0) := by
  rw [sanitize_fst]
  have clean : ∀ id, ¬ Malformed (messages.filterMap (settle messages)) id := by
    rintro id ⟨msg', mem, bad⟩
    obtain ⟨msg, -, -, rfl⟩ := mem_sanitized.mp mem
    exact not_malforms_strip bad
  have fates : ∀ msg' ∈ messages.filterMap (settle messages),
      settle (messages.filterMap (settle messages)) msg' = some msg' := by
    intro msg' mem
    have kept : ¬ Dropped (messages.filterMap (settle messages)) msg' := by
      rintro ⟨bare, id, called, open_⟩
      obtain ⟨msg, -, stays, rfl⟩ := mem_sanitized.mp mem
      obtain ⟨⟨result, there, answer⟩, good⟩ :=
        answered_of_stays stays (strip_textless.mp bare) (strip_calls.mp called)
      -- a message with results is no assistant message, and stays
      have held := Stays.of_answers (fun dropped => apart result there dropped.1.1 id answer) answer good
      exact open_ ⟨⟨_, mem_sanitized.mpr ⟨result, there, held, rfl⟩,
        strip_answers.mpr ⟨answer, mt mem_malformedToolUseIds.mp good⟩⟩, clean id⟩
    have stays : Stays (messages.filterMap (settle messages)) msg' := ⟨kept, .inl clean⟩
    rw [stays.settle_eq, strip_of_none clean mem]
  exact sanitize_of_fates fates

theorem sanitize_settles_resultFirst :
    sanitizeSessionMessages (sanitizeSessionMessages resultFirst).1 =
      ((sanitizeSessionMessages resultFirst).1, 0) := by
  refine sanitize_settles fun msg mem role id answer => ?_
  obtain ⟨content, isError, held⟩ := answer
  rcases List.mem_pair.mp mem with rfl | rfl
  · cases role
  · cases List.mem_singleton.mp held

end KiCore.Agent.Aionrs

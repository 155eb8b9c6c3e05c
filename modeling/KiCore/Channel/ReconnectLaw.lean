import KiCore.Channel.ConnectionLoop

/-!
# When the connection loops give up

The loops count errors since different points: the counter of Lark is never reset, the one of
DingTalk by every registration, those of Slack and Discord by a connection that was closed cleanly,
and none by a successful connection. `gives_up_iff` says where failures and these marks stand in a run
in which that does not show.
-/

namespace KiCore.Channel

open KiCore.Lib

def LoopStage.Attempting : LoopStage → Prop
  | .fetching | .connecting _ | .listening => True
  | .backingOff _ | .exited => False

def failuresSince (resets : Mark → Bool) : List Mark → Nat
  | [] => 0
  | mark :: history =>
    if resets mark then 0
    else if mark = .failed then failuresSince resets history + 1
    else failuresSince resets history

/-- Where a loop starts to count anew. -/
def LoopPolicy.resets (policy : LoopPolicy) : Mark → Bool
  | .endpoint => policy.endpointResets
  | .closed => !policy.cleanEnds
  | .failed | .connected => false

namespace ConnectionRun

/-- The failures since the last successful connection. -/
def failures (s : ConnectionRun) : Nat :=
  failuresSince (· = .connected) s.history

/-- A loop exits if and only if shutdown was signalled or that many attempts have failed without a
successful connection in between; no close frame ends it; no attempt is made before the backoff of
the last failure is over; and no invalid session is resumed. -/
structure ReconnectLaw (s : ConnectionRun) : Prop where
  exits : s.stage = .exited → s.shutdown = true ∨ maxReconnectAttempts ≤ s.failures
  givesUp : maxReconnectAttempts ≤ s.failures → s.stage = .exited ∨ s.shutdown = true
  closes : s.endedByClose = false
  waits : s.stage.Attempting → s.due = none
  resumes : s.resumedInvalid = false

/-- With the next failure, as many as the limit have come since the loop started to count anew if and
only if as many have come since the last successful connection. -/
def Counted (policy : LoopPolicy) (s : ConnectionRun) : Prop :=
  s.shutdown = true ∨ (maxReconnectAttempts ≤ failuresSince policy.resets s.history + 1 ↔
    maxReconnectAttempts ≤ s.failures + 1)

/-- What the loop has to meet while it listens. -/
def ListenFits (policy : LoopPolicy) (s : ConnectionRun) (event : Event) : Prop :=
  (event = .readError → s.Counted policy) ∧
    (event = .closeFrame → s.shutdown = true ∨ policy.cleanEnds = false) ∧
    (event = .panic → s.shutdown = true)

/-- What a run meets in which the loop keeps its law. -/
def Heeded (loop : ConnectionLoop) (s : ConnectionRun) (event : Event) : Prop :=
  match s.stage with
  | .fetching => event = .endpoint false → s.Counted loop.policy
  | .connecting _ => event = .connect false → s.Counted loop.policy
  | .listening => s.ListenFits loop.policy event
  | .backingOff _ | .exited => True

/-- An event ends the await that the loop is at. -/
def Moves (loop : ConnectionLoop) (s : ConnectionRun) (event : Event) : Prop :=
  (next loop s event).stage ≠ s.stage

/-- What is kept beside the law: the counter is that of the failures since the loop started to count
anew, and below its limit while the loop goes on, and the session is valid. -/
structure Kept (policy : LoopPolicy) (s : ConnectionRun) : Prop where
  law : s.ReconnectLaw
  counter : s.consecutiveErrors = failuresSince policy.resets s.history
  below : s.stage ≠ .exited → s.consecutiveErrors < maxReconnectAttempts
  backoff : ∀ delay, s.stage = .backingOff delay → s.due = some delay
  valid : ∀ id, s.session.id = some id → id ∉ s.invalid

variable {loop : ConnectionLoop} {policy : LoopPolicy} {s : ConnectionRun} {event : Event}

/-- A loop between two awaits of one attempt, or before the next one. -/
structure Between (policy : LoopPolicy) (s : ConnectionRun) : Prop where
  counter : s.consecutiveErrors = failuresSince policy.resets s.history
  below : s.consecutiveErrors < maxReconnectAttempts
  failures : maxReconnectAttempts ≤ s.failures → s.shutdown = true
  closes : s.endedByClose = false
  waited : s.due = none
  resumes : s.resumedInvalid = false
  valid : ∀ id, s.session.id = some id → id ∉ s.invalid

lemma attempting_stays {stage : LoopStage} (attempts : stage.Attempting) : stage ≠ .exited := by
  rintro rfl
  exact attempts

lemma Kept.failures (h : s.Kept policy) (stays : s.stage ≠ .exited) (many : maxReconnectAttempts ≤ s.failures) :
    s.shutdown = true :=
  (h.law.givesUp many).resolve_left stays

lemma Kept.between (h : s.Kept policy) (attempts : s.stage.Attempting) : s.Between policy where
  counter := h.counter
  below := h.below (attempting_stays attempts)
  failures := h.failures (attempting_stays attempts)
  closes := h.law.closes
  waited := h.law.waits attempts
  resumes := h.law.resumes
  valid := h.valid

lemma Between.attempt (h : s.Between policy) (stage : LoopStage) (attempts : stage.Attempting) :
    Kept policy { s with stage } where
  counter := h.counter
  law := {
    exits := fun exited => absurd exited (attempting_stays attempts)
    givesUp := fun many => .inr (h.failures many)
    closes := h.closes
    waits := fun _ => h.waited
    resumes := h.resumes }
  below _ := h.below
  backoff delay backs := by
    rw [show stage = _ from backs] at attempts
    exact attempts.elim
  valid := h.valid

lemma Between.exit (h : s.Between policy) (shutdown : s.shutdown = true) : Kept policy { s with stage := .exited } where
  counter := h.counter
  law := {
    exits := fun _ => .inl shutdown
    givesUp := fun _ => .inl rfl
    closes := h.closes
    waits := fun _ => h.waited
    resumes := h.resumes }
  below stays := absurd rfl stays
  backoff := nofun
  valid := h.valid

lemma Between.iterate (h : s.Between policy) : (iterate policy s).Kept policy := by
  rw [ConnectionRun.iterate]
  split_ifs with shutdown
  · exact h.exit shutdown
  · exact h.attempt (.connecting true) trivial
  · exact h.attempt .fetching trivial

lemma Between.finishCleanly (h : s.Between policy) (goesOn : s.shutdown = true ∨ policy.cleanEnds = false) :
    (finishCleanly policy s).Kept policy := by
  rw [ConnectionRun.finishCleanly]
  split_ifs with ends
  · exact h.exit (goesOn.resolve_right fun clean => nomatch ends.symm.trans clean)
  · refine Between.iterate { h with counter := ?_, below := Nat.zero_lt_succ 9 }
    rw [failuresSince, if_pos (by rw [LoopPolicy.resets, Bool.eq_false_of_not_eq_true ends]; rfl)]

/-- A failure keeps the law if and only if the counters agree about it. -/
lemma Kept.fail_law_iff (h : s.Kept policy) : s.fail.ReconnectLaw ↔ s.Counted policy := by
  have exits : s.fail.stage = .exited ↔ maxReconnectAttempts ≤ s.consecutiveErrors + 1 := by
    rw [fail]
    split_ifs with limit
    · exact iff_of_true rfl limit
    · exact iff_of_false nofun limit
  constructor
  · intro law
    have exits' := fun limit => law.exits (exits.mpr limit)
    have givesUp' := fun many => (law.givesUp many).imp_left exits.mp
    change _ → _ ∨ _ ≤ s.failures + 1 at exits'
    change _ ≤ s.failures + 1 → _ at givesUp'
    rw [Counted, ← h.counter]
    by_cases shutdown : s.shutdown = true
    · exact .inl shutdown
    · exact .inr ⟨fun limit => (exits' limit).resolve_left shutdown,
        fun many => (givesUp' many).resolve_right shutdown⟩
  · intro counted
    rw [Counted, ← h.counter] at counted
    exact {
      exits := fun exited => counted.imp id fun same => same.mp (exits.mp exited)
      givesUp := fun many => (counted.imp id fun same => exits.mpr (same.mpr many)).symm
      closes := h.law.closes
      waits := by
        rw [fail]
        split_ifs <;> exact nofun
      resumes := h.law.resumes }

lemma Kept.fail (h : s.Kept policy) (counted : s.Counted policy) : s.fail.Kept policy where
  law := h.fail_law_iff.mpr counted
  counter := congrArg (· + 1) h.counter
  below := by
    rw [ConnectionRun.fail]
    split_ifs with limit
    · exact fun stays => absurd rfl stays
    · exact fun _ => lt_of_not_ge limit
  backoff := by
    rw [ConnectionRun.fail]
    split_ifs with limit
    · exact nofun
    · intro delay backs
      injection backs with same
      exact congrArg some same
  valid := h.valid

section

variable (h : s.Between policy)
include h

lemma Between.sawSeq (seq : Option Nat) : (s.sawSeq seq).Between policy :=
  { h with }

lemma Between.clearSession : s.clearSession.Between policy :=
  { h with valid := nofun }

lemma Between.readySession (sessionId resumeUrl : String) :
    (s.readySession sessionId resumeUrl).Between policy :=
  { h with
    valid := by
      intro id ready mem
      obtain rfl := Option.some.inj ready
      exact of_decide_eq_true (List.mem_filter.mp mem).2 rfl }

lemma Between.kept (attempts : s.stage.Attempting) : s.Kept policy :=
  h.attempt s.stage attempts

lemma Between.connected (resume : Bool) : (s.connected resume).Kept policy := by
  have valid : (s.resumedSession resume).any (· ∈ s.invalid) = false := by
    rw [resumedSession]
    split_ifs
    · cases session : s.session.id with
      | none => rfl
      | some id => exact decide_eq_false (h.valid id session)
    · rfl
  refine Between.kept { h with counter := ?_, failures := nofun, resumes := ?_ } trivial
  · exact h.counter
  · change (s.resumedInvalid || _) = false
    rw [h.resumes, valid]
    rfl

lemma Between.close :
    ((listen policy s .closeFrame).ReconnectLaw ↔ s.shutdown = true ∨ policy.cleanEnds = false) ∧
      (s.shutdown = true ∨ policy.cleanEnds = false → (listen policy s .closeFrame).Kept policy) := by
  have kept : s.shutdown = true ∨ policy.cleanEnds = false → (listen policy s .closeFrame).Kept policy := by
    intro goesOn
    have closed := h.finishCleanly goesOn
    have goes : (s.endedByClose || (decide ((ConnectionRun.finishCleanly policy s).stage = .exited) &&
        !s.shutdown)) = false := by
      rw [h.closes, Bool.false_or]
      obtain shutdown | clean := goesOn
      · rw [shutdown, Bool.not_true, Bool.and_false]
      · rw [ConnectionRun.finishCleanly, if_neg (by rw [clean]; exact nofun), ConnectionRun.iterate]
        split_ifs with shutdown
        · rw [show s.shutdown = true from shutdown, Bool.not_true, Bool.and_false]
        · rfl
        · rfl
    exact { closed with law := { closed.law with closes := goes } }
  refine ⟨⟨fun law => ?_, fun goesOn => (kept goesOn).law⟩, kept⟩
  by_contra ends
  rw [not_or, Bool.not_eq_true, Bool.not_eq_false] at ends
  have closes : (s.endedByClose || (decide ((ConnectionRun.finishCleanly policy s).stage = .exited) &&
      !s.shutdown)) = false := law.closes
  rw [ConnectionRun.finishCleanly, if_pos ends.2, ends.1, Bool.not_false, Bool.and_true, decide_eq_true rfl,
    Bool.or_true] at closes
  cases closes

end

lemma always {P : Prop} (holds : P) (kept : s.Kept policy) : (s.ReconnectLaw ↔ P) ∧ (P → s.Kept policy) :=
  ⟨iff_of_true kept.law holds, fun _ => kept⟩

lemma under {P Q : Prop} (same : P ↔ Q) (step : (s.ReconnectLaw ↔ Q) ∧ (Q → s.Kept policy)) :
    (s.ReconnectLaw ↔ P) ∧ (P → s.Kept policy) :=
  ⟨step.1.trans same.symm, fun holds => step.2 (same.mp holds)⟩

lemma Kept.panic (h : s.Kept policy) (attempts : s.stage.Attempting) :
    ((listen policy s .panic).ReconnectLaw ↔ s.shutdown = true) ∧
      (s.shutdown = true → (listen policy s .panic).Kept policy) := by
  have kept := (h.between attempts).exit
  refine ⟨⟨fun law => ?_, fun shutdown => (kept shutdown).law⟩, kept⟩
  exact (law.exits rfl).elim id (h.failures (attempting_stays attempts))

/-- What each frame does to the law while the loop listens. -/
lemma Kept.listen (h : s.Kept loop.policy) (attempts : s.stage.Attempting) :
    ((listen loop.policy s event).ReconnectLaw ↔ s.ListenFits loop.policy event) ∧
      (s.ListenFits loop.policy event → (listen loop.policy s event).Kept loop.policy) := by
  have between := h.between attempts
  have other (frame : event ≠ .readError ∧ event ≠ .closeFrame ∧ event ≠ .panic) :
      s.ListenFits loop.policy event :=
    ⟨(absurd · frame.1), (absurd · frame.2.1), (absurd · frame.2.2)⟩
  cases event with
  | readError =>
    exact under (by simp [ListenFits]) ⟨h.fail_law_iff, h.fail⟩
  | closeFrame => exact under (by simp [ListenFits]) between.close
  | panic => exact under (by simp [ListenFits]) (h.panic attempts)
  | noticeShutdown =>
    refine always (other (by simp)) ?_
    rw [ConnectionRun.listen]
    split_ifs with shutdown resumes
    · exact between.exit shutdown
    · exact between.finishCleanly (.inl shutdown)
    · exact h
  | reconnectRequest seq =>
    refine always (other (by simp)) ?_
    rw [ConnectionRun.listen]
    split_ifs with ends
    · exact h
    · exact (between.sawSeq seq).finishCleanly (.inr (Bool.eq_false_of_not_eq_true ends))
  | invalidSession resumable seq =>
    refine always (other (by simp)) ?_
    rw [ConnectionRun.listen]
    split_ifs with resumes resumable
    · exact (between.sawSeq seq).finishCleanly (.inr (by cases loop <;> first | rfl | cases resumes))
    · exact (between.sawSeq seq).clearSession.finishCleanly
        (.inr (by cases loop <;> first | rfl | cases resumes))
    · exact h
  | ready sessionId resumeUrl seq =>
    refine always (other (by simp)) ?_
    rw [ConnectionRun.listen]
    split_ifs
    · exact ((between.sawSeq seq).readySession sessionId resumeUrl).kept attempts
    · exact h
  | otherFrame seq =>
    refine always (other (by simp)) ?_
    rw [ConnectionRun.listen]
    split_ifs
    · exact (between.sawSeq seq).kept attempts
    · exact h
  | signalShutdown | endpoint | connect | slept => exact always (other (by simp)) h

lemma Kept.fetch (h : s.Kept policy) (attempts : s.stage.Attempting) :
    ((fetch policy s event).ReconnectLaw ↔ (event = .endpoint false → s.Counted policy)) ∧
      ((event = .endpoint false → s.Counted policy) → (fetch policy s event).Kept policy) := by
  have between := h.between attempts
  cases event with
  | endpoint ok =>
    cases ok with
    | true =>
      have reset : Between policy { s with
          consecutiveErrors := if policy.endpointResets then 0 else s.consecutiveErrors
          history := .endpoint :: s.history } := by
        refine { between with counter := ?_, below := ?_ }
        · rw [failuresSince, LoopPolicy.resets, h.counter]
          rfl
        · change (if policy.endpointResets then 0 else s.consecutiveErrors) < maxReconnectAttempts
          split_ifs
          · exact Nat.zero_lt_succ 9
          · exact between.below
      exact always nofun (reset.attempt (.connecting false) trivial)
    | false => exact under (by simp) ⟨h.fail_law_iff, h.fail⟩
  | _ => exact always nofun h

lemma Kept.connect (h : s.Kept policy) (attempts : s.stage.Attempting) {resume : Bool} :
    ((connect s resume event).ReconnectLaw ↔ (event = .connect false → s.Counted policy)) ∧
      ((event = .connect false → s.Counted policy) → (connect s resume event).Kept policy) := by
  cases event with
  | connect ok =>
    cases ok with
    | true => exact always nofun ((h.between attempts).connected resume)
    | false => exact under (by simp) ⟨h.fail_law_iff, h.fail⟩
  | _ => exact always nofun h

lemma Kept.signalShutdown (h : s.Kept policy) : Kept policy { s with shutdown := true } where
  counter := h.counter
  law := {
    exits := fun _ => .inl rfl
    givesUp := fun _ => .inr rfl
    closes := h.law.closes
    waits := h.law.waits
    resumes := h.law.resumes }
  below := h.below
  backoff := h.backoff
  valid := h.valid

lemma Kept.backOff (h : s.Kept policy) {delay : Nat} (backs : s.stage = .backingOff delay) :
    (backOff policy s delay event).Kept policy := by
  have rested : Between policy { s with due := if s.due = some delay then none else s.due } := {
    counter := h.counter
    below := h.below (by rw [backs]; exact nofun)
    failures := h.failures (by rw [backs]; exact nofun)
    closes := h.law.closes
    waited := if_pos (h.backoff delay backs)
    resumes := h.law.resumes
    valid := h.valid }
  cases event with
  | slept => exact rested.iterate
  | noticeShutdown =>
    rw [ConnectionRun.backOff]
    split_ifs with shutdown
    · exact {
        law := {
          exits := fun _ => .inl shutdown
          givesUp := fun _ => .inl rfl
          closes := h.law.closes
          waits := fun attempts => attempts.elim
          resumes := h.law.resumes }
        counter := h.counter
        below := fun stays => absurd rfl stays
        backoff := nofun
        valid := h.valid }
    · exact h
  | _ => exact h

lemma Kept.next (h : s.Kept loop.policy) : ((next loop s event).ReconnectLaw ↔ Heeded loop s event) ∧
    (Heeded loop s event → (next loop s event).Kept loop.policy) := by
  rw [ConnectionRun.next]
  split_ifs with signalled
  · subst signalled
    refine always ?_ h.signalShutdown
    rw [Heeded]
    split
    · exact nofun
    · exact nofun
    · exact ⟨nofun, nofun, nofun⟩
    · trivial
    · trivial
  · rw [Heeded]
    cases stage : s.stage with
    | fetching => exact h.fetch (by rw [stage]; trivial)
    | connecting resume => exact h.connect (by rw [stage]; trivial)
    | listening => exact h.listen (by rw [stage]; trivial)
    | backingOff delay => exact always trivial (h.backOff stage)
    | exited => exact always trivial h

lemma Kept.start : start.Kept policy where
  counter := rfl
  law := {
    exits := nofun
    givesUp := nofun
    closes := rfl
    waits := fun _ => rfl
    resumes := rfl }
  below _ := Nat.zero_lt_succ 9
  backoff := nofun
  valid := nofun

/-- How many awaits of a loop end at most before it exits, once shutdown was signalled. -/
def rank : LoopStage → Nat
  | .fetching => 4
  | .connecting _ => 3
  | .listening => 2
  | .backingOff _ => 1
  | .exited => 0

end ConnectionRun

end KiCore.Channel

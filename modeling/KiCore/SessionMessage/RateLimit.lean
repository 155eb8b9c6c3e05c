import KiCore.Lib.MultiMap
import KiCore.Lib.SlidingWindow

/-!
# The outbound rate limit

Port of `rate_limit.rs`: two windows over the sends of a conversation, one of all of them and one of those
to the same target. The clock reads milliseconds since the epoch, so that the cutoff of a window is no less
an `i64` than the reading; the counts are cast to `u32`.

`Sound` says that the two queues stand for the calls that were allowed so far, and that these keep both
limits. It fixes the verdict of the next call (`Sound.verdict`), and every call keeps it. So the verdicts
depend on the allowed calls alone, and a refused call might as well not have been made.
-/

namespace KiCore.SessionMessage

open KiCore.Lib

/-- `WINDOW_MS`. -/
def windowMs : Int := 10 * 60 * 1000

/-- Per-conversation outbound cap within the window (`OUTBOUND_LIMIT`). -/
def outboundLimit : Nat := 20

/-- Per-(from, to) cap within the window (`PAIR_LIMIT`). -/
def pairLimit : Nat := 10

inductive SessionRateGate where
  | outbound
  | pair
  deriving DecidableEq

inductive RateVerdict where
  | allowed
  | tripped (gate : SessionRateGate) (windowCount : Nat)
  deriving DecidableEq

/-- Pairs of ids as the keys of a table. -/
instance instOrdIds : Ord (String × String) := lexOrd

structure Windows where
  outbound : MultiMap String Int
  pair : MultiMap (String × String) Int

/-- `Vec::len` as a `u32`. -/
def lenU32 (times : List Int) : Nat := times.length % 2 ^ 32

namespace Windows

/-- `Windows::default()`. -/
def default : Windows :=
  { outbound := ∅, pair := ∅ }

def checkAndRecord (windows : Windows) (sender target : String) (now : Int) : RateVerdict × Windows :=
  let cutoff := now - windowMs
  let outbound := (windows.outbound.image sender).filter (cutoff < ·)
  let outboundCount := lenU32 outbound
  let pair := (windows.pair.image (sender, target)).filter (cutoff < ·)
  let pairCount := lenU32 pair
  let pruned : Windows :=
    { outbound := windows.outbound.insert sender outbound
      pair := windows.pair.insert (sender, target) pair }
  -- the pair gate first: it is the tighter of the two
  if pairLimit ≤ pairCount then (.tripped .pair pairCount, pruned)
  else if outboundLimit ≤ outboundCount then (.tripped .outbound outboundCount, pruned)
  else
    (.allowed,
      { outbound := pruned.outbound.insert sender (outbound ++ [now])
        pair := pruned.pair.insert (sender, target) (pair ++ [now]) })

end Windows

/-- One call of `check_and_record`, with the reading of the clock. -/
structure Attempt where
  sender : String
  target : String
  now : Int

namespace Windows

def verdict (windows : Windows) (call : Attempt) : RateVerdict :=
  (windows.checkAndRecord call.sender call.target call.now).1

def next (windows : Windows) (call : Attempt) : Windows :=
  (windows.checkAndRecord call.sender call.target call.now).2

def verdicts (windows : Windows) : List Attempt → List RateVerdict
  | [] => []
  | call :: calls => windows.verdict call :: (windows.next call).verdicts calls

def allowed (windows : Windows) : List Attempt → List Attempt
  | [] => []
  | call :: calls =>
    if windows.verdict call = .allowed then call :: (windows.next call).allowed calls
    else (windows.next call).allowed calls

end Windows

/-- The readings at the calls of one sender. -/
def sentBy (sender : String) (calls : List Attempt) : List Int :=
  (calls.filter (·.sender = sender)).map (·.now)

/-- The readings at the calls of one sender to one target. -/
def sentTo (sender target : String) (calls : List Attempt) : List Int :=
  (calls.filter fun call => call.sender = sender ∧ call.target = target).map (·.now)

/-- The clock does not go back from call to call. -/
def ClockForward (calls : List Attempt) : Prop :=
  calls.Pairwise (·.now ≤ ·.now)

def verdictAfter (past : List Attempt) (call : Attempt) : RateVerdict :=
  let outboundCount := (windowAt windowMs (sentBy call.sender past) call.now).length
  let pairCount := (windowAt windowMs (sentTo call.sender call.target past) call.now).length
  if pairLimit ≤ pairCount then .tripped .pair pairCount
  else if outboundLimit ≤ outboundCount then .tripped .outbound outboundCount
  else .allowed

/-- The windows at a reading of the clock, after the calls that were allowed before. -/
structure Sound (windows : Windows) (past : List Attempt) (now : Int) : Prop where
  last : ∀ call ∈ past, call.now ≤ now
  outbound : ∀ sender, KeepsAfter (now - windowMs) (windows.outbound.image sender) (sentBy sender past)
  pair : ∀ sender target,
    KeepsAfter (now - windowMs) (windows.pair.image (sender, target)) (sentTo sender target past)
  outboundLe : ∀ sender t, (windowAt windowMs (sentBy sender past) t).length ≤ outboundLimit
  pairLe : ∀ sender target t, (windowAt windowMs (sentTo sender target past) t).length ≤ pairLimit

variable {windows windows' : Windows} {past calls later : List Attempt} {call : Attempt}
  {sender target : String} {now now' : Int}

lemma mem_sentBy {t : Int} (h : t ∈ sentBy sender calls) : ∃ call ∈ calls, call.now = t := by
  obtain ⟨call, there, rfl⟩ := List.mem_map.mp h
  exact ⟨call, List.mem_of_mem_filter there, rfl⟩

lemma mem_sentTo {t : Int} (h : t ∈ sentTo sender target calls) : ∃ call ∈ calls, call.now = t := by
  obtain ⟨call, there, rfl⟩ := List.mem_map.mp h
  exact ⟨call, List.mem_of_mem_filter there, rfl⟩

lemma sentBy_append : sentBy sender (past ++ [call]) =
    if call.sender = sender then sentBy sender past ++ [call.now] else sentBy sender past := by
  unfold sentBy
  rw [List.filter_append, List.map_append]
  split_ifs with own
  · rw [List.filter_cons_of_pos (by simpa using own)]
    rfl
  · rw [List.filter_cons_of_neg (by simpa using own)]
    exact List.append_nil _

lemma sentTo_append : sentTo sender target (past ++ [call]) =
    if call.sender = sender ∧ call.target = target then sentTo sender target past ++ [call.now]
    else sentTo sender target past := by
  unfold sentTo
  rw [List.filter_append, List.map_append]
  split_ifs with own
  · rw [List.filter_cons_of_pos (by simpa using own)]
    rfl
  · rw [List.filter_cons_of_neg (by simpa using own)]
    exact List.append_nil _

lemma lenU32_of_le {times : List Int} (h : times.length ≤ outboundLimit) : lenU32 times = times.length := by
  apply Nat.mod_eq_of_lt
  unfold outboundLimit at h
  omega

namespace Sound

lemma default : Sound Windows.default [] now where
  last call h := by cases h
  outbound sender := by
    rw [Windows.default, MultiMap.image_empty]
    rfl
  pair sender target := by
    rw [Windows.default, MultiMap.image_empty]
    rfl
  outboundLe sender t := Nat.zero_le _
  pairLe sender target t := Nat.zero_le _

section

variable (sound : Sound windows past now)
include sound

lemma mono (le : now ≤ now') : Sound windows past now' where
  last call h := (sound.last call h).trans le
  outbound sender := (sound.outbound sender).mono (by omega)
  pair sender target := (sound.pair sender target).mono (by omega)
  outboundLe := sound.outboundLe
  pairLe := sound.pairLe

lemma pruned_outbound :
    (windows.outbound.image sender).filter (now - windowMs < ·) =
      windowAt windowMs (sentBy sender past) now := by
  rw [windowAt_last]
  · exact sound.outbound sender
  · intro t ht
    obtain ⟨call, there, rfl⟩ := mem_sentBy ht
    exact sound.last call there

lemma pruned_pair :
    (windows.pair.image (sender, target)).filter (now - windowMs < ·) =
      windowAt windowMs (sentTo sender target past) now := by
  rw [windowAt_last]
  · exact sound.pair sender target
  · intro t ht
    obtain ⟨call, there, rfl⟩ := mem_sentTo ht
    exact sound.last call there

end

section

variable (sound : Sound windows past call.now)
include sound

lemma verdict : windows.verdict call = verdictAfter past call := by
  have outbound := lenU32_of_le (sound.outboundLe call.sender call.now)
  have pair := lenU32_of_le ((sound.pairLe call.sender call.target call.now).trans (by decide))
  unfold Windows.verdict Windows.checkAndRecord verdictAfter
  dsimp only
  rw [sound.pruned_outbound, sound.pruned_pair, outbound, pair]
  split_ifs
  · rfl
  · rfl
  · rfl

lemma refused (no : windows.verdict call ≠ .allowed) : Sound (windows.next call) past call.now := by
  have pruned : windows.next call =
      { outbound := windows.outbound.insert call.sender
          ((windows.outbound.image call.sender).filter (call.now - windowMs < ·))
        pair := windows.pair.insert (call.sender, call.target)
          ((windows.pair.image (call.sender, call.target)).filter (call.now - windowMs < ·)) } := by
    unfold Windows.verdict Windows.checkAndRecord at no
    unfold Windows.next Windows.checkAndRecord
    dsimp only at no ⊢
    split_ifs at no ⊢
    · rfl
    · rfl
    · exact absurd rfl no
  rw [pruned]
  refine ⟨sound.last, fun sender => ?_, fun sender target => ?_, sound.outboundLe, sound.pairLe⟩
  · rw [MultiMap.image_insert]
    split_ifs with own
    · exact own ▸ (sound.outbound call.sender).prune
    · exact sound.outbound sender
  · rw [MultiMap.image_insert]
    split_ifs with own
    · cases own
      exact (sound.pair call.sender call.target).prune
    · exact sound.pair sender target

/-- An allowed call is recorded in both queues. -/
lemma recorded (yes : windows.verdict call = .allowed) :
    Sound (windows.next call) (past ++ [call]) call.now := by
  have pushed : windows.next call =
      { outbound := (windows.outbound.insert call.sender
            ((windows.outbound.image call.sender).filter (call.now - windowMs < ·))).insert call.sender
          ((windows.outbound.image call.sender).filter (call.now - windowMs < ·) ++ [call.now])
        pair := (windows.pair.insert (call.sender, call.target)
            ((windows.pair.image (call.sender, call.target)).filter (call.now - windowMs < ·))).insert
          (call.sender, call.target)
          ((windows.pair.image (call.sender, call.target)).filter (call.now - windowMs < ·) ++
            [call.now]) } := by
    unfold Windows.verdict Windows.checkAndRecord at yes
    unfold Windows.next Windows.checkAndRecord
    dsimp only at yes ⊢
    split_ifs at yes ⊢
    rfl
  have room := sound.verdict.symm.trans yes
  unfold verdictAfter at room
  dsimp only at room
  split_ifs at room with tight wide
  rw [pushed]
  refine ⟨?_, fun sender => ?_, fun sender target => ?_, fun sender t => ?_, fun sender target t => ?_⟩
  · intro made h
    rcases List.mem_append.mp h with h | h
    · exact sound.last made h
    · rw [List.mem_singleton.mp h]
  · rw [MultiMap.image_insert, MultiMap.image_insert, sentBy_append]
    split_ifs with own
    · exact own ▸ (sound.outbound call.sender).prune.record
    · exact sound.outbound sender
  · rw [MultiMap.image_insert, MultiMap.image_insert, sentTo_append]
    simp only [Prod.mk.injEq]
    split_ifs with own
    · obtain ⟨rfl, rfl⟩ := own
      exact (sound.pair call.sender call.target).prune.record
    · exact sound.pair sender target
  · rw [sentBy_append]
    split_ifs with own
    · subst own
      apply windowAt_le _ (sound.outboundLe call.sender) (Nat.lt_of_not_le wide)
      intro t ht
      obtain ⟨made, there, rfl⟩ := mem_sentBy ht
      exact sound.last made there
    · exact sound.outboundLe sender t
  · rw [sentTo_append]
    split_ifs with own
    · obtain ⟨rfl, rfl⟩ := own
      apply windowAt_le _ (sound.pairLe call.sender call.target) (Nat.lt_of_not_le tight)
      intro t ht
      obtain ⟨made, there, rfl⟩ := mem_sentTo ht
      exact sound.last made there
    · exact sound.pairLe sender target t

end

lemma foldl (sound : Sound windows past now) (forward : ClockForward calls)
    (after : ∀ call ∈ calls, now ≤ call.now) (upTo : ∀ call ∈ calls, call.now ≤ now') (le : now ≤ now') :
    Sound (calls.foldl Windows.next windows) (past ++ windows.allowed calls) now' := by
  induction calls generalizing windows past now with
  | nil =>
    rw [Windows.allowed, List.append_nil]
    exact sound.mono le
  | cons call calls ih =>
    obtain ⟨first, rest⟩ := List.pairwise_cons.mp forward
    have here := sound.mono (after call (List.mem_cons_self ..))
    have still : ∀ later ∈ calls, later.now ≤ now' := fun later h => upTo later (List.mem_cons_of_mem _ h)
    have reached := upTo call (List.mem_cons_self ..)
    rw [List.foldl_cons, Windows.allowed]
    split_ifs with yes
    · rw [List.append_cons]
      exact ih (here.recorded yes) rest first still reached
    · exact ih (here.refused yes) rest first still reached

lemma verdicts (sound : Sound windows past now) (sound' : Sound windows' past now)
    (forward : ClockForward calls) (after : ∀ call ∈ calls, now ≤ call.now) :
    windows.verdicts calls = windows'.verdicts calls := by
  induction calls generalizing windows windows' past now with
  | nil => rfl
  | cons call calls ih =>
    obtain ⟨first, rest⟩ := List.pairwise_cons.mp forward
    have here := sound.mono (after call (List.mem_cons_self ..))
    have here' := sound'.mono (after call (List.mem_cons_self ..))
    have same : windows.verdict call = windows'.verdict call := here.verdict.trans here'.verdict.symm
    rw [Windows.verdicts, Windows.verdicts, same]
    congr 1
    by_cases yes : windows'.verdict call = .allowed
    · exact ih (here.recorded (same.trans yes)) (here'.recorded yes) rest first
    · exact ih (here.refused (same ▸ yes)) (here'.refused yes) rest first

end Sound

lemma exists_bounds (calls : List Attempt) :
    ∃ first last : Int, first ≤ last ∧ (∀ call ∈ calls, first ≤ call.now) ∧
      ∀ call ∈ calls, call.now ≤ last := by
  induction calls with
  | nil => exact ⟨0, 0, le_rfl, by simp, by simp⟩
  | cons call calls ih =>
    obtain ⟨first, last, le, lower, upper⟩ := ih
    refine ⟨min call.now first, max call.now last, by omega, ?_, ?_⟩
    · rintro made (_ | ⟨_, h⟩)
      · exact min_le_left _ _
      · exact (min_le_right _ _).trans (lower made h)
    · rintro made (_ | ⟨_, h⟩)
      · exact le_max_left _ _
      · exact (upper made h).trans (le_max_right _ _)

lemma sound_at (forward : ClockForward (calls ++ call :: later)) :
    Sound (calls.foldl Windows.next Windows.default) (Windows.default.allowed calls) call.now := by
  obtain ⟨before, _, apart⟩ := List.pairwise_append.mp forward
  obtain ⟨first, _, _, lower, _⟩ := exists_bounds (calls ++ [call])
  have start : Sound Windows.default [] first := .default
  apply start.foldl before
  · exact fun made h => lower made (List.mem_append_left _ h)
  · exact fun made h => apart made h call (List.mem_cons_self ..)
  · exact lower call (List.mem_append_right _ (List.mem_singleton_self call))

lemma verdictAfter_ne : verdictAfter past call ≠ .allowed ↔
    outboundLimit ≤ (windowAt windowMs (sentBy call.sender past) call.now).length ∨
      pairLimit ≤ (windowAt windowMs (sentTo call.sender call.target past) call.now).length := by
  unfold verdictAfter
  dsimp only
  split_ifs with tight wide
  · exact ⟨fun _ => .inr tight, fun _ => by rintro ⟨⟩⟩
  · exact ⟨fun _ => .inl wide, fun _ => by rintro ⟨⟩⟩
  · exact ⟨fun no => absurd rfl no, fun h => absurd h (not_or.mpr ⟨wide, tight⟩)⟩

/-- The limiter is an exact sliding window: no window of a sender or of a pair holds more allowed calls
than its limit, a call is refused if and only if the calls that were allowed before and lie in the window
that ends with it have reached one of the limits, and without a call that was refused the later verdicts
are the same. -/
theorem check_and_record_exact (calls later : List Attempt) (call : Attempt)
    (forward : ClockForward (calls ++ call :: later)) :
    let windows := calls.foldl Windows.next Windows.default
    let before := Windows.default.allowed calls
    let all := Windows.default.allowed (calls ++ call :: later)
    (∀ sender t, (windowAt windowMs (sentBy sender all) t).length ≤ outboundLimit) ∧
    (∀ sender target t, (windowAt windowMs (sentTo sender target all) t).length ≤ pairLimit) ∧
    (windows.verdict call ≠ .allowed ↔
      outboundLimit ≤ (windowAt windowMs (sentBy call.sender before) call.now).length ∨
        pairLimit ≤ (windowAt windowMs (sentTo call.sender call.target before) call.now).length) ∧
    (windows.verdict call ≠ .allowed → (windows.next call).verdicts later = windows.verdicts later) := by
  intro windows before all
  obtain ⟨first, last, le, lower, upper⟩ := exists_bounds (calls ++ call :: later)
  have start : Sound Windows.default [] first := .default
  have done : Sound ((calls ++ call :: later).foldl Windows.next Windows.default) ([] ++ all) last :=
    start.foldl forward lower upper le
  have here : Sound windows before call.now := sound_at forward
  refine ⟨done.outboundLe, done.pairLe, ?_, ?_⟩
  · rw [here.verdict]
    exact verdictAfter_ne
  · intro no
    obtain ⟨_, rest, _⟩ := List.pairwise_append.mp forward
    obtain ⟨after, rest⟩ := List.pairwise_cons.mp rest
    exact (here.refused no).verdicts here rest after

/-- Ten calls of one pair, and another one while they are in the window. -/
theorem check_and_record_eleventh :
    let calls := List.replicate 10 (Attempt.mk "a" "b" 0)
    ClockForward (calls ++ [⟨"a", "b", 5⟩]) ∧
    ((calls.foldl Windows.next Windows.default).verdict ⟨"a", "b", 5⟩ ≠ .allowed ↔
      outboundLimit ≤ (windowAt windowMs (sentBy "a" (Windows.default.allowed calls)) 5).length ∨
        pairLimit ≤ (windowAt windowMs (sentTo "a" "b" (Windows.default.allowed calls)) 5).length) := by
  intro calls
  have forward : ClockForward (calls ++ [⟨"a", "b", 5⟩]) := by
    unfold ClockForward
    decide
  exact ⟨forward, (check_and_record_exact calls [] ⟨"a", "b", 5⟩ forward).2.2.1⟩

structure SameSender (sender : String) (windows windows' : Windows) : Prop where
  outbound : windows.outbound.image sender = windows'.outbound.image sender
  pair : ∀ target, windows.pair.image (sender, target) = windows'.pair.image (sender, target)

lemma SameSender.checkAndRecord (same : SameSender sender windows windows') (target : String) (now : Int) :
    (windows.checkAndRecord sender target now).1 = (windows'.checkAndRecord sender target now).1 ∧
      SameSender sender (windows.checkAndRecord sender target now).2
        (windows'.checkAndRecord sender target now).2 := by
  unfold Windows.checkAndRecord
  dsimp only
  rw [same.outbound, same.pair target]
  split_ifs <;> refine ⟨rfl, ⟨?_, fun other => ?_⟩⟩ <;>
    simp only [MultiMap.image_insert, same.pair, if_true]

lemma sameSender_next (other : call.sender ≠ sender) : SameSender sender (windows.next call) windows := by
  have apart : ∀ target, (call.sender, call.target) ≠ (sender, target) := fun target same =>
    other (congrArg Prod.fst same)
  unfold Windows.next Windows.checkAndRecord
  dsimp only
  split_ifs <;> refine ⟨?_, fun target => ?_⟩ <;>
    simp only [MultiMap.image_insert, if_neg other, if_neg (apart _)]

/-- The verdict on a call depends on the calls of its sender alone, whatever the clock does. -/
theorem senders_apart (calls : List Attempt) (call : Attempt) :
    (calls.foldl Windows.next Windows.default).verdict call =
      ((calls.filter (·.sender = call.sender)).foldl Windows.next Windows.default).verdict call := by
  have run : ∀ (calls : List Attempt) (windows windows' : Windows),
      SameSender call.sender windows windows' → SameSender call.sender (calls.foldl Windows.next windows)
        ((calls.filter (·.sender = call.sender)).foldl Windows.next windows') := by
    intro calls
    induction calls with
    | nil => exact fun windows windows' same => same
    | cons made calls ih =>
      intro windows windows' same
      by_cases own : made.sender = call.sender
      · rw [List.filter_cons_of_pos (by simpa using own)]
        refine ih _ _ ?_
        rw [← own] at same ⊢
        exact (same.checkAndRecord made.target made.now).2
      · rw [List.filter_cons_of_neg (by simpa using own)]
        have kept : SameSender call.sender (windows.next made) windows := sameSender_next own
        exact ih _ _ ⟨kept.outbound.trans same.outbound,
          fun target => (kept.pair target).trans (same.pair target)⟩
  exact ((run calls _ _ ⟨rfl, fun _ => rfl⟩).checkAndRecord call.target call.now).1

end KiCore.SessionMessage

import KiCore.Project.Runtime.Shard
import Std.Data.TreeSet.Lemmas

/-!
# Debouncer

Port of the `Debouncer` of `actor.rs`: raw events of the watchers are gathered by their directories
until the worker drains them into one command for each directory. The batch that is drained covers
every name that an event reported (`rescan_drain`).
-/

namespace KiCore.Project

open KiCore.Lib

/-- What a watcher reports: paths that have changed, or that it has lost events. -/
inductive RawEvent where
  | changed (canonical : String) (paths : List String)
  | overflow (canonical : String)
  deriving DecidableEq

/-- What is gathered for a directory. A rescan covers any child. -/
inductive Pending where
  | changed (names : Std.TreeSet String)
  | overflow

/-- What is gathered, by the directories. -/
structure Debouncer where
  pending : Table String Pending

namespace Debouncer

def new : Debouncer :=
  { pending := ∅ }

/-- Gather one event. `fileName` is `Path::file_name`. -/
def push (fileName : String → Option String) (debouncer : Debouncer) : RawEvent → Debouncer
  | .overflow canonical => { pending := debouncer.pending.insert canonical .overflow }
  | .changed canonical paths =>
    let pending := match debouncer.pending[canonical]?.getD (.changed ∅) with
      | .overflow => .overflow
      | .changed names => .changed (names.insertMany (paths.filterMap fileName))
    { pending := debouncer.pending.insert canonical pending }

def command (entry : String × Pending) : Command :=
  match entry.2 with
  | .overflow => .overflow entry.1
  | .changed names => .apply entry.1 (.childNames names.toList)

/-- Turn what was gathered into commands, in the order of the directories. -/
def drain (debouncer : Debouncer) : List Command × Debouncer :=
  (debouncer.pending.toList.map command, new)

end Debouncer

def Command.rescan (canonical : String) : Command → Option Hint
  | .apply path hint => if path = canonical then some hint else none
  | .overflow path => if path = canonical then some .all else none
  | _ => none

def Hint.Covers (name : String) : Hint → Prop
  | .all => True
  | .childNames names => name ∈ names

def RawEvent.canonical : RawEvent → String
  | .overflow path => path
  | .changed path _ => path

/-- An event reports a name of its directory. Where events were lost it can be any. -/
def RawEvent.Reports (fileName : String → Option String) (name : String) : RawEvent → Prop
  | .overflow _ => True
  | .changed _ paths => name ∈ paths.filterMap fileName

/-- The look that is taken again for what was gathered. -/
def Pending.hint : Pending → Hint
  | .overflow => .all
  | .changed names => .childNames names.toList

namespace Debouncer

variable {fileName : String → Option String} {debouncer : Debouncer} {event : RawEvent}
  {events : List RawEvent} {pending : Pending} {canonical name : String}

lemma get_push (fileName : String → Option String) (debouncer : Debouncer) (event : RawEvent)
    (canonical : String) :
    event.canonical ≠ canonical ∧
      (debouncer.push fileName event).pending[canonical]? = debouncer.pending[canonical]? ∨
    event.canonical = canonical ∧
      ∃ after, (debouncer.push fileName event).pending[canonical]? = some after ∧
        (∀ name, event.Reports fileName name → after.hint.Covers name) ∧
        ∀ before, debouncer.pending[canonical]? = some before →
          ∀ name, before.hint.Covers name → after.hint.Covers name := by
  have apart {path : String} {after : Pending} (ne : path ≠ canonical) :
      (debouncer.pending.insert path after)[canonical]? = debouncer.pending[canonical]? := by
    rw [Table.get_insert, if_neg ne]
  have stored {after : Pending} : (debouncer.pending.insert canonical after)[canonical]? = some after := by
    rw [Table.get_insert, if_pos rfl]
  cases event with
  | overflow path =>
    by_cases same : path = canonical
    · subst same
      exact .inr ⟨rfl, .overflow, stored, fun _ _ => trivial, fun _ _ _ _ => trivial⟩
    · exact .inl ⟨same, apart same⟩
  | changed path paths =>
    by_cases same : path = canonical
    · subst same
      refine .inr ⟨rfl, _, stored, ?_, ?_⟩
      · intro name reported
        cases debouncer.pending[path]?.getD (.changed ∅) with
        | overflow => trivial
        | changed names =>
          refine Std.TreeSet.mem_toList.mpr (Std.TreeSet.mem_insertMany_list.mpr (.inr ?_))
          exact List.contains_iff_mem.mpr reported
      · intro before gathered name covered
        rw [gathered, Option.getD_some]
        cases before with
        | overflow => trivial
        | changed names =>
          have mem := Std.TreeSet.mem_toList.mp covered
          exact Std.TreeSet.mem_toList.mpr (Std.TreeSet.mem_insertMany_list.mpr (.inl mem))
    · exact .inl ⟨same, apart same⟩

lemma covers_pushAll (fileName : String → Option String) (events : List RawEvent)
    (some : ∃ event ∈ events, event.canonical = canonical) :
    ∃ pending, (events.foldl (push fileName) debouncer).pending[canonical]? = .some pending ∧
      ∀ event ∈ events, event.canonical = canonical →
        ∀ name, event.Reports fileName name → pending.hint.Covers name := by
  induction events using List.reverseRecOn with
  | nil => simp at some
  | append_singleton events event ih =>
    simp only [List.mem_append, List.mem_singleton, List.foldl_append, List.foldl_cons, List.foldl_nil]
      at some ⊢
    rcases get_push fileName (events.foldl (push fileName) debouncer) event canonical with
      ⟨other, kept⟩ | ⟨same, after, get, reported, still⟩
    · -- the last event is about another directory
      rw [kept]
      obtain ⟨event', mem, about⟩ := some
      have mem : event' ∈ events := mem.resolve_right fun e => other (e ▸ about)
      obtain ⟨pending, gathered, covers⟩ := ih ⟨event', mem, about⟩
      refine ⟨pending, gathered, fun event'' mem about => covers event'' (mem.resolve_right ?_) about⟩
      exact fun e => other (e ▸ about)
    · refine ⟨after, get, ?_⟩
      rintro event' (mem | rfl) about name report
      · obtain ⟨before, gathered, covers⟩ := ih ⟨event', mem, about⟩
        exact still before gathered name (covers event' mem about name report)
      · exact reported name report

lemma rescan_drain (debouncer : Debouncer) (canonical : String) :
    debouncer.drain.1.filterMap (Command.rescan canonical) =
      (debouncer.pending[canonical]?.map Pending.hint).toList := by
  have rescan (entry : String × Pending) : (command entry).rescan canonical =
      if entry.1 = canonical then some entry.2.hint else none := by
    obtain ⟨path, pending⟩ := entry
    cases pending <;> rfl
  have others {entries : List (String × Pending)} (none : ∀ entry ∈ entries, entry.1 ≠ canonical) :
      (entries.map command).filterMap (Command.rescan canonical) = [] := by
    rw [List.filterMap_map, List.filterMap_eq_nil_iff]
    intro entry mem
    rw [Function.comp_apply, rescan, if_neg (none entry mem)]
  unfold drain
  cases gathered : debouncer.pending[canonical]? with
  | none =>
    refine others fun entry mem same => ?_
    rw [← same, Std.TreeMap.mem_toList_iff_getElem?_eq_some.mp mem] at gathered
    cases gathered
  | some pending =>
    obtain ⟨before, behind, split⟩ := List.append_of_mem
      (Std.TreeMap.mem_toList_iff_getElem?_eq_some.mpr gathered)
    have distinct := Std.TreeMap.distinct_keys_toList (t := debouncer.pending)
    simp only [split, List.pairwise_append, List.pairwise_cons, List.mem_cons, forall_eq_or_imp,
      Std.LawfulEqOrd.compare_eq_iff_eq] at distinct
    rw [split, List.map_append, List.map_cons, List.filterMap_append, List.filterMap_cons, rescan,
      if_pos rfl, others fun entry mem => (distinct.2.2 entry mem).1,
      others fun entry mem => Ne.symm (distinct.2.1.1 entry mem)]
    rfl

end Debouncer

end KiCore.Project

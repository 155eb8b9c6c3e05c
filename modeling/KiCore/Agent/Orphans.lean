import KiCore.Agent.TaskManager

/-!
# Orphaned agents

An instance is orphaned if nobody has killed it and it is not the one in the map. A slot leaves the
map while its factory may still run; `kill` and `clear` kill the instance that is in it at that
time, and a factory that completes later puts one into a slot that nobody can find
(`detached_orphan`). No other step makes an orphan (`no_orphans`).
-/

namespace KiCore.Agent.WorkerTaskManager

open KiCore.Lib

variable (m : WorkerTaskManager)

/-- An instance was produced, and has received no kill. -/
def Unkilled (agent : Nat) : Prop :=
  (m.agents[agent]?).any (fun a => !a.killed) = true

/-- No call of `get_or_build_task` is pending. -/
def Settled : Prop :=
  ∀ build ∈ m.builds, build.stage = .done

def factorySlot (call : Nat) : Option Nat :=
  match m.builds[call]? with
  | some ⟨_, .init slot⟩ => if m.Building call slot then some slot else none
  | _ => none

/-- A factory produces an instance only in the slot of the map, and no call from before a `clear` or
`kill_and_wait` puts a new slot into it afterwards. -/
def BuildsInPlace (call : Nat) : BuildAction → Prop
  | .complete ok => ok = true → m.factorySlot call = none ∨ m.factorySlot call = m.tasks
  | .enter => (m.builds[call]?).map (·.stage) = some .enter → m.tasks = none → m.swept = false
  | _ => True

def InPlace : Event → Prop
  | .build call action => m.BuildsInPlace call action
  | _ => True

instance (call : Nat) :
    (action : BuildAction) → Decidable (m.BuildsInPlace call action)
  | .complete _ | .enter => inferInstanceAs (Decidable (_ → _))
  | .evict _ | .refresh | .poll => .isTrue trivial

instance : (event : Event) → Decidable (m.InPlace event)
  | .build call action => inferInstanceAs (Decidable (m.BuildsInPlace call action))
  | .newOptions .. | .applyRuntimeContext _ | .getOrBuild _ | .kill | .killAndWait | .pollKill _ |
    .clear => .isTrue trivial

/-- What carries `NoOrphans` from step to step. -/
structure Tracked (m : WorkerTaskManager) : Prop where
  stored : ∀ agent, m.Unkilled agent → m.initialisedInstance = some agent
  swept : m.swept = true → m.tasks = none

variable {m : WorkerTaskManager} {call agent slot wait : Nat} {options : BuildTaskOptions} {ok : Bool}
  {action : BuildAction} {event : Event}

lemma unkilled_killAgent : (m.killAgent agent).Unkilled slot ↔ m.Unkilled slot ∧ slot ≠ agent := by
  rw [Unkilled, Unkilled, killAgent, List.getElem?_modify]
  cases m.agents[slot]? with
  | none => simp
  | some a =>
    by_cases same : agent = slot
    · simp [same]
    · simp [same, Ne.symm same]

lemma unkilled_killInstance {target : Option Nat} :
    (m.killInstance target).Unkilled agent ↔ m.Unkilled agent ∧ target ≠ some agent := by
  cases target with
  | none => exact ⟨fun h => ⟨h, nofun⟩, fun h => h.1⟩
  | some a =>
    refine unkilled_killAgent.trans (and_congr_right fun _ => ?_)
    exact ⟨fun ne e => ne (Option.some_inj.mp e).symm, fun ne e => ne (congrArg some e.symm)⟩

lemma Tracked.kill_unkilled (h : Tracked m) : ¬ m.kill.Unkilled agent := by
  rw [kill]
  split
  · -- The instance of the map is the only one left, and it is killed.
    rename_i slot there
    rw [unkilled_killInstance]
    rintro ⟨a, other⟩
    have stored := h.stored agent a
    rw [initialisedInstance, there] at stored
    exact other stored
  · rename_i gone
    intro a
    have stored := h.stored agent a
    rw [initialisedInstance, gone] at stored
    cases stored

lemma Tracked.kill (h : Tracked m) : Tracked m.kill where
  stored _ a := absurd a h.kill_unkilled
  swept _ := kill_tasks

lemma Tracked.clear (h : Tracked m) : Tracked m.clear where
  stored _ a := absurd a h.kill_unkilled
  swept _ := kill_tasks

lemma Tracked.killAndWait (h : Tracked m) : Tracked m.killAndWait where
  stored _ a := absurd a h.kill_unkilled
  swept _ := kill_tasks

lemma Tracked.keep {m' : WorkerTaskManager} (h : Tracked m)
    (agents : ∀ agent, m'.Unkilled agent → m.Unkilled agent)
    (instance_ : ∀ agent, m.initialisedInstance = some agent → m'.initialisedInstance = some agent)
    (tasks : m'.swept = true → m.swept = true ∧ m'.tasks = m.tasks) : Tracked m' where
  stored agent a := instance_ agent (h.stored agent (agents agent a))
  swept swept := by
    obtain ⟨before, same⟩ := tasks swept
    exact same.trans (h.swept before)

section

variable (h : Tracked m)
include h

lemma Tracked.pollKill : Tracked (m.pollKill wait slot) := by
  rw [WorkerTaskManager.pollKill]
  split
  · refine h.keep (fun agent a => ?_) (fun _ a => a) fun swept => ⟨swept, rfl⟩
    exact (unkilled_killAgent.mp a).1
  · exact h.keep (fun _ a => a) (fun _ a => a) fun swept => ⟨swept, rfl⟩
  · exact h

lemma Tracked.setBuild {stage : BuildStage} : Tracked (m.setBuild call options stage) :=
  h.keep (fun _ a => a) (fun _ a => a) fun swept => ⟨swept, rfl⟩

lemma Tracked.enter (old : m.tasks = none → m.swept = false) : Tracked (m.enter call options) := by
  rw [WorkerTaskManager.enter]
  split
  · exact h.setBuild
  · rename_i gone
    -- Without a slot in the map there is no instance to lose.
    refine ⟨fun agent a => ?_, fun swept => ?_⟩
    · have stored := h.stored agent a
      rw [initialisedInstance, gone] at stored
      cases stored
    · rw [old gone] at swept
      cases swept

lemma Tracked.poll : Tracked (m.poll call options slot) := by
  rw [WorkerTaskManager.poll]
  split
  · exact h.setBuild
  · rename_i empty
    refine h.keep (fun _ a => a) (fun _ a => ?_) fun swept => ⟨swept, rfl⟩
    exact initialisedInstance_set (fun _ ready => nomatch empty.symm.trans ready) a
  · exact h

lemma Tracked.fail (building : m.Building call slot) :
    Tracked (m.complete call options slot false) := by
  rw [complete_failed]
  have kept : Tracked { m with slots := m.slots.set slot .empty } := by
    refine h.keep (fun _ a => a) (fun _ a => ?_) fun swept => ⟨swept, rfl⟩
    exact initialisedInstance_set (fun _ ready => nomatch building.symm.trans ready) a
  exact kept.setBuild

lemma Tracked.building_unkilled (building : m.Building call slot)
    (there : m.tasks = some slot) : ¬ m.Unkilled agent := by
  intro a
  obtain ⟨slot', there', ready⟩ := initialisedInstance_iff.mp (h.stored agent a)
  cases there.symm.trans there'
  cases building.symm.trans ready

end

lemma unkilled_complete (a : (m.complete call options slot true).Unkilled agent) :
    m.Unkilled agent ∨ agent = m.agents.length := by
  rw [Unkilled, complete_agents] at a
  by_cases lt : agent < m.agents.length
  · left
    rw [List.getElem?_append_left lt] at a
    exact a
  · right
    by_contra ne
    rw [List.getElem?_eq_none (by simp; omega)] at a
    cases a

lemma Tracked.produce (h : Tracked m) (building : m.Building call slot) (there : m.tasks = some slot) :
    Tracked (m.complete call options slot true) where
  stored agent a := by
    -- While the factory ran, the slot of the map had no instance.
    obtain before | rfl := unkilled_complete a
    · exact absurd before (h.building_unkilled building there)
    · apply initialisedInstance_iff.mpr
      exact ⟨slot, there, List.getElem?_set_self (building_lt building)⟩
  swept swept := h.swept swept

lemma Tracked.evict (h : Tracked m) : Tracked (m.evict call options ok) :=
  h.kill.setBuild

lemma Tracked.refresh (h : Tracked m) : Tracked (m.refreshRuntimeToken call options) :=
  h.keep (fun _ a => a) (fun _ a => a) fun swept => ⟨swept, rfl⟩

lemma factorySlot_of_building {stage : BuildStage} (there : m.builds[call]? = some ⟨options, stage⟩)
    (at_ : stage = .init slot) (building : m.Building call slot) : m.factorySlot call = some slot := by
  subst at_
  rw [factorySlot, there]
  exact if_pos building

lemma Tracked.stepBuild (h : Tracked m) (inPlace : m.BuildsInPlace call action) :
    Tracked (m.stepBuild call action) := by
  rw [WorkerTaskManager.stepBuild]
  split
  · rename_i build there
    unfold nextBuild
    split
    · exact h.evict
    · exact h.refresh
    · rename_i _ _ at_
      refine h.enter fun gone => inPlace ?_ gone
      rw [there, Option.map_some, at_]
    · exact h.poll
    · rename_i _ _ slot ok at_
      split
      · rename_i building
        cases ok with
        | false => exact h.fail building
        | true =>
          -- The slot is still the one of the map.
          obtain none_ | here := inPlace rfl
          · rw [factorySlot_of_building there at_ building] at none_
            cases none_
          · rw [factorySlot_of_building there at_ building] at here
            exact h.produce building here.symm
      · exact h
    · exact h
  · exact h

lemma Tracked.next (h : Tracked m) (inPlace : m.InPlace event) : Tracked (m.next event) := by
  cases event with
  | newOptions => exact h.keep (fun _ a => a) (fun _ a => a) fun swept => ⟨swept, rfl⟩
  | applyRuntimeContext k =>
    cases e : m.options[k]? with
    | none =>
      simp only [WorkerTaskManager.next, e]
      exact h
    | some options =>
      simp only [WorkerTaskManager.next, e]
      exact h.keep (fun _ a => a) (fun _ a => a) fun swept => ⟨swept, rfl⟩
  | getOrBuild k =>
    cases e : m.options[k]? with
    | none =>
      simp only [WorkerTaskManager.next, e]
      exact h
    | some options =>
      simp only [WorkerTaskManager.next, e]
      exact h.keep (fun _ a => a) (fun _ a => a) nofun
  | build call action => exact h.stepBuild inPlace
  | kill => exact h.kill
  | killAndWait => exact h.killAndWait
  | pollKill wait =>
    cases e : (m.waits[wait]?).join with
    | none =>
      simp only [WorkerTaskManager.next, e]
      exact h
    | some slot =>
      simp only [WorkerTaskManager.next, e]
      exact h.pollKill
  | clear => exact h.clear

lemma Tracked.start {userId conversationId : String} : Tracked (start userId conversationId) where
  stored _ a := nomatch a
  swept _ := rfl

end KiCore.Agent.WorkerTaskManager

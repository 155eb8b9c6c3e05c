import KiCore.Lib.Keyed
import KiCore.Project.Scm.Runtime

/-!
# Convergence of the repository lists

What a session is sent adds up to a list of the repositories of a project (`view`). Once every
change of a project is told and processed, the list of every session that is interested is that of
the project, and nothing else is held (`Converged`). The changes are told against the last list that
anyone has read: a request for a list that finds another one replaces it, and what it replaces is
told to no other session and released by nobody. `converges` says that nothing else goes wrong.
-/

namespace KiCore.Project.Scm

open KiCore.Lib

/-- The list of a project after one more frame. -/
def viewStep (projectId : String) (view : Option (Finset String)) : Frame → Option (Finset String)
  | .repositories id found => if id = projectId then some found else view
  | .repositoriesChanged id added removed =>
    if id = projectId then view.map fun ids => (ids \ removed) ∪ added else view
  | .failed => view
  | .closed => none

/-- The list of a project that a session was sent, with the changes since. -/
def view (pushed : List (String × Frame)) (session projectId : String) : Option (Finset String) :=
  (pushed.filter fun entry => entry.1 = session).foldl
    (fun view entry => viewStep projectId view entry.2) none

variable {pushed : List (String × Frame)} {session other projectId id : String} {frame : Frame}

lemma view_append : view (pushed ++ [(other, frame)]) session projectId =
    if other = session then viewStep projectId (view pushed session projectId) frame
    else view pushed session projectId := by
  rw [view, List.filter_append, List.foldl_append]
  by_cases same : other = session
  · rw [if_pos same]
    simp [same, view]
  · rw [if_neg same]
    simp [same, view]

lemma view_told {added removed : Finset String} {sessions : List String} {s : ScmActor} :
    view (sessions.foldl (fun s session => s.push session
      (.repositoriesChanged id added removed)) s).pushed
        session projectId =
      if session ∈ sessions then viewStep projectId (view s.pushed session projectId)
        (.repositoriesChanged id added removed) else view s.pushed session projectId := by
  induction sessions generalizing s with
  | nil => rfl
  | cons first sessions ih =>
    rw [List.foldl_cons, ih, ScmActor.push, view_append]
    by_cases same : first = session
    · -- A change that is told twice is no other change.
      have twice : ∀ view : Option (Finset String), viewStep projectId (viewStep projectId view
          (.repositoriesChanged id added removed)) (.repositoriesChanged id added removed) =
          viewStep projectId view (.repositoriesChanged id added removed) := by
        intro view
        simp only [viewStep]
        split
        · rw [Option.map_map]
          congr 1
          funext ids
          ext repo
          simp only [Function.comp, Finset.mem_union, Finset.mem_sdiff]
          tauto
        · rfl
      simp only [same, if_true, List.mem_cons, true_or, twice]
      split <;> rfl
    · simp [same, Ne.symm same]

def rootsOf (entries : List Entry) : List ResolvedRoot :=
  entries.filterMap fun entry => entry.absolutePath.map fun absolutePath =>
    { peId := entry.peId, absolutePath, discoverChildren := entry.role = .workspace }

namespace ScmActor

variable (disk : Disk) (s : ScmActor)

def current (projectId : String) : Finset String :=
  reposUnder disk (s.projects[projectId]?.elim [] fun row => rootsOf row.entries)

/-- The changes that are not processed yet, but for the one that the actor is at. -/
def pending : List (String × String) :=
  s.untold ++ s.inbound.filterMap fun event => match event with
    | .rootsChanged projectId userId => some (projectId, userId)
    | _ => none

/-- The actor is at a change of a project. -/
def Recomputes (projectId : String) : Prop :=
  ∃ todo resolved, s.task = .roots .rootsChanged projectId todo resolved

/-- Once every change is processed, the lists that sessions were sent, with the changes since, are those
of their projects, and every repository that is held belongs to a project. -/
def Converged : Prop :=
  s.pending = [] → (∀ projectId, ¬ s.Recomputes projectId) →
    (∀ session projectId ids, view s.pushed session projectId = some ids →
      ids = s.current disk projectId) ∧
    ∀ repo ∈ s.runtime.repos ∪ s.runtime.provider, ∃ projectId, repo ∈ s.current disk projectId

/-- The roots that a request for a list has resolved lead to the last list, or no other session has
a list; and what they do not lead to any more is not held, or is on the last list of another
project. -/
def ReadsBaseline (session projectId : String) (resolved : List ResolvedRoot) : Prop :=
  (reposUnder disk resolved = s.runtime.baseline projectId ∨
    ∀ other ∈ s.runtime.projectSubscribersOf projectId, other ≠ session →
      view s.pushed other projectId = none) ∧
  ∀ repo ∈ s.runtime.baseline projectId \ reposUnder disk resolved,
    repo ∉ s.runtime.repos ∪ s.runtime.provider ∨
    ∃ entry ∈ s.runtime.projectRepos.toList, entry.1 ≠ projectId ∧ repo ∈ entry.2

/-- A request for a list that is about to be answered finds the last list. -/
def FindsBaseline : Event → Prop
  | .turn =>
    match s.task with
    | .roots (.list session) projectId [] resolved => s.ReadsBaseline disk session projectId resolved
    | _ => True
  | _ => True

instance {disk : Disk} {s : ScmActor} {session projectId : String} {resolved : List ResolvedRoot} :
    Decidable (s.ReadsBaseline disk session projectId resolved) :=
  inferInstanceAs (Decidable (_ ∧ _))

instance {disk : Disk} : (s : ScmActor) → (event : Event) → Decidable (s.FindsBaseline disk event)
  | ⟨projects, untold, inbound, .roots (.list session) projectId [] resolved, runtime, pushed⟩, .turn =>
    inferInstanceAs (Decidable (ReadsBaseline disk ⟨projects, untold, inbound,
      .roots (.list session) projectId [] resolved, runtime, pushed⟩ session projectId resolved))
  | ⟨_, _, _, .roots (.list _) _ (_ :: _) _, _, _⟩, .turn => isTrue trivial
  | ⟨_, _, _, .roots .rootsChanged _ _ _, _, _⟩, .turn => isTrue trivial
  | ⟨_, _, _, .idle, _, _⟩, .turn => isTrue trivial
  | _, .listRepositories .. => isTrue trivial
  | _, .disconnect _ => isTrue trivial
  | _, .attachFolder .. => isTrue trivial
  | _, .removeAttached .. => isTrue trivial
  | _, .notifyRootsChanged _ => isTrue trivial

/-- What holds in every state of a run. -/
structure Sound (disk : Disk) (s : ScmActor) : Prop where
  owned : ∀ change ∈ s.pending, ∃ row, s.projects[change.1]? = some row ∧ row.owner = change.2
  fresh : ∀ projectId, projectId ∉ s.pending.map Prod.fst → s.Recomputes projectId ∨
    s.runtime.projectRepos[projectId]? = none ∨
    s.runtime.projectRepos[projectId]? = some (s.current disk projectId)
  reading : ∀ purpose projectId todo resolved, s.task = .roots purpose projectId todo resolved →
    projectId ∉ s.pending.map Prod.fst →
      ∃ row, s.projects[projectId]? = some row ∧ ∃ done, row.entries = done ++ todo ∧
        resolved = rootsOf done
  lister : ∀ session projectId todo resolved, s.task = .roots (.list session) projectId todo resolved →
    session ∈ s.runtime.projectSubscribersOf projectId
  viewed : ∀ session projectId ids, view s.pushed session projectId = some ids →
    session ∈ s.runtime.projectSubscribersOf projectId ∧ s.runtime.projectRepos[projectId]? = some ids
  held : ∀ repo ∈ s.runtime.repos ∪ s.runtime.provider,
    ∃ (projectId : String) (ids : Finset String), s.runtime.projectRepos[projectId]? = some ids ∧
      repo ∈ ids

lemma Sound.converged {disk : Disk} {s : ScmActor} (sound : s.Sound disk) : s.Converged disk := by
  intro quiet idle
  have fresh : ∀ (projectId : String) ids, s.runtime.projectRepos[projectId]? = some ids →
      ids = s.current disk projectId := by
    intro projectId ids last
    obtain busy | none | known := sound.fresh projectId (by rw [quiet]; exact List.not_mem_nil)
    · exact absurd busy (idle projectId)
    · rw [none] at last
      cases last
    · rw [known] at last
      exact (Option.some.inj last).symm
  constructor
  · intro session projectId ids sent
    exact fresh projectId ids (sound.viewed session projectId ids sent).2
  · intro repo mem
    obtain ⟨projectId, ids, last, there⟩ := sound.held repo mem
    exact ⟨projectId, fresh projectId ids last ▸ there⟩

lemma sound_start (projects : Table String ProjectRow) : (start projects).Sound disk where
  owned := by simp [start, pending]
  fresh := fun _ _ => .inr (.inl rfl)
  reading := by simp [start]
  lister := by simp [start]
  viewed := by simp [start, view]
  held := by simp [start, ScmRuntime.new]

variable {disk : Disk} {s t : ScmActor}

lemma Sound.of_eq (sound : s.Sound disk) (pending : ∀ change, change ∈ t.pending ↔ change ∈ s.pending)
    (projects : t.projects = s.projects) (task : t.task = s.task) (runtime : t.runtime = s.runtime)
    (pushed : t.pushed = s.pushed) : t.Sound disk := by
  have mem : ∀ projectId, projectId ∈ t.pending.map Prod.fst ↔ projectId ∈ s.pending.map Prod.fst := by
    intro projectId
    simp only [List.mem_map, pending]
  obtain ⟨owned, fresh, reading, lister, viewed, held⟩ := sound
  constructor
  · simpa only [pending, projects] using owned
  · simpa only [mem, Recomputes, task, runtime, current, projects] using fresh
  · simpa only [mem, task, projects] using reading
  · simpa only [task, runtime] using lister
  · simpa only [pushed, runtime] using viewed
  · simpa only [runtime] using held

/-- A project is changed, and the change is to be told. -/
lemma Sound.store (sound : s.Sound disk) {projectId : String} {row row' : ProjectRow}
    (found : s.projects[projectId]? = some row) (owner : row'.owner = row.owner) :
    ({ s with
      projects := s.projects.insert projectId row'
      untold := s.untold ++ [(projectId, row.owner)] } : ScmActor).Sound disk := by
  have pending : ∀ change, change ∈ ({ s with
      projects := s.projects.insert projectId row'
      untold := s.untold ++ [(projectId, row.owner)] } : ScmActor).pending ↔
        change ∈ s.pending ∨ change = (projectId, row.owner) := by
    intro change
    simp only [ScmActor.pending, List.mem_append, List.mem_singleton]
    tauto
  have apart : ∀ {id}, id ∉ (ScmActor.pending { s with
      projects := s.projects.insert projectId row'
      untold := s.untold ++ [(projectId, row.owner)] }).map Prod.fst →
        projectId ≠ id ∧ id ∉ s.pending.map Prod.fst := by
    intro id none
    constructor
    · rintro rfl
      exact none (List.mem_map.mpr ⟨_, (pending _).mpr (.inr rfl), rfl⟩)
    · intro mem
      obtain ⟨change, there, rfl⟩ := List.mem_map.mp mem
      exact none (List.mem_map.mpr ⟨change, (pending change).mpr (.inl there), rfl⟩)
  constructor
  · intro change mem
    obtain old | rfl := (pending change).mp mem
    · obtain ⟨other, there, mine⟩ := sound.owned change old
      rw [Table.get_insert]
      split
      · rename_i same
        rw [← same, found] at there
        exact ⟨row', rfl, owner.trans (Option.some.inj there ▸ mine)⟩
      · exact ⟨other, there, mine⟩
    · exact ⟨row', by rw [Table.get_insert, if_pos rfl], owner⟩
  · intro id none
    obtain ⟨other, none⟩ := apart none
    have same : current disk { s with
        projects := s.projects.insert projectId row'
        untold := s.untold ++ [(projectId, row.owner)] } id = s.current disk id := by
      simp only [current, Table.get_insert, if_neg other]
    rw [same]
    exact sound.fresh id none
  · intro purpose id todo resolved task none
    obtain ⟨other, none⟩ := apart none
    rw [Table.get_insert, if_neg other]
    exact sound.reading purpose id todo resolved task none
  · exact sound.lister
  · exact sound.viewed
  · exact sound.held

lemma Sound.notify (sound : s.Sound disk) (i : Nat) : (s.notifyRootsChanged i).Sound disk := by
  rw [notifyRootsChanged]
  split
  · exact sound
  · rename_i projectId userId found
    obtain ⟨bound, there⟩ := List.getElem?_eq_some_iff.mp found
    refine sound.of_eq (fun change => ?_) rfl rfl rfl rfl
    have perm := (List.getElem_cons_eraseIdx_perm bound).mem_iff (a := change)
    rw [there, List.mem_cons] at perm
    simp only [ScmActor.pending, List.filterMap_append, List.mem_append, ← perm, List.filterMap_cons,
      List.filterMap_nil, List.mem_singleton]
    tauto

lemma mem_registerInterest {runtime : ScmRuntime} {session other projectId id : String} :
    other ∈ (runtime.registerInterest session projectId).projectSubscribersOf id ↔
      projectId = id ∧ other = session ∨ other ∈ runtime.projectSubscribersOf id :=
  MultiMap.mem_image_link

lemma Sound.listBegun (sound : s.Sound disk) (idle : s.task = .idle) {session userId projectId : String}
    {inbound : List ScmInbound}
      (events : s.inbound = .listRepositories session userId projectId :: inbound) :
    (ScmActor.onInbound { s with inbound }
      (.listRepositories session userId projectId)).Sound disk := by
  obtain ⟨owned, fresh, reading, lister, viewed, held⟩ := sound
  simp only [ScmActor.pending, events, List.filterMap_cons, Recomputes, idle, reduceCtorEq,
    exists_false, false_or,
    current] at owned fresh
  rw [onInbound]
  cases found : ScmActor.getProject
    { s with inbound, runtime := s.runtime.registerInterest session projectId }
      userId projectId with
  | none =>
    dsimp only
    refine ⟨owned, fun id none => .inr (fresh id none), by simp [push, idle], by simp [push, idle],
      ?_, held⟩
    intro other id ids sent
    rw [push, view_append] at sent
    have old : view s.pushed other id = some ids := by
      split at sent
      · exact sent
      · exact sent
    obtain ⟨interested, last⟩ := viewed other id ids old
    exact ⟨mem_registerInterest.mpr (.inr interested), last⟩
  | some entries =>
    dsimp only
    refine ⟨owned, fun id none => .inr (fresh id none), ?_, ?_, ?_, held⟩
    · intro purpose id todo resolved task none
      cases task
      obtain ⟨row, there, rfl⟩ := Option.map_eq_some_iff.mp found
      exact ⟨row, (Option.filter_eq_some_iff.mp there).1, [], rfl, rfl⟩
    · intro other id todo resolved task
      cases task
      exact mem_registerInterest.mpr (.inl ⟨rfl, rfl⟩)
    · intro other id ids sent
      obtain ⟨interested, last⟩ := viewed other id ids sent
      exact ⟨mem_registerInterest.mpr (.inr interested), last⟩

lemma Sound.disconnected (sound : s.Sound disk) (idle : s.task = .idle) {session : String}
    {inbound : List ScmInbound} (events : s.inbound = .disconnect session :: inbound) :
    (ScmActor.onInbound { s with inbound } (.disconnect session)).Sound disk := by
  obtain ⟨owned, fresh, reading, lister, viewed, held⟩ := sound
  simp only [ScmActor.pending, events, List.filterMap_cons, Recomputes, idle, reduceCtorEq,
    exists_false, false_or,
    current] at owned fresh
  refine ⟨owned, fun id none => .inr (fresh id none), by simp [onInbound, push, idle],
    by simp [onInbound, push, idle], ?_, held⟩
  intro other id ids sent
  rw [onInbound, push, view_append] at sent
  split at sent
  · cases sent
  · rename_i ne
    obtain ⟨interested, last⟩ := viewed other id ids sent
    refine ⟨?_, last⟩
    rw [ScmRuntime.projectSubscribersOf, onInbound, push, ScmRuntime.dropSession]
    dsimp only
    rw [MultiMap.image_discard]
    exact List.mem_filter.mpr ⟨interested, decide_eq_true (Ne.symm ne)⟩

lemma Sound.changeBegun (sound : s.Sound disk) (idle : s.task = .idle) {projectId userId : String}
    {inbound : List ScmInbound} (events : s.inbound = .rootsChanged projectId userId :: inbound) :
    (ScmActor.onInbound { s with inbound } (.rootsChanged projectId userId)).Sound disk := by
  obtain ⟨owned, fresh, reading, lister, viewed, held⟩ := sound
  have pending : ∀ change, change ∈ s.pending ↔
      change = (projectId, userId) ∨ change ∈ ScmActor.pending { s with inbound } := by
    intro change
    simp only [ScmActor.pending, events, List.filterMap_cons, List.mem_append, List.mem_cons]
    tauto
  -- The change is one of the owner of its project, which is found.
  obtain ⟨row, found, mine⟩ := owned _ ((pending _).mpr (.inl rfl))
  have entries : ScmActor.getProject { s with inbound } userId projectId = some row.entries := by
    simp only [getProject, found]
    simp [Option.filter, mine]
  simp only [onInbound, entries]
  refine ⟨fun change mem => owned change ((pending change).mpr (.inr mem)), ?_, ?_, by simp,
    viewed, held⟩
  · intro id none
    by_cases same : id = projectId
    · exact .inl ⟨row.entries, [], by rw [same]⟩
    · refine .inr ((fresh id ?_).resolve_left ?_)
      · intro mem
        obtain ⟨change, there, rfl⟩ := List.mem_map.mp mem
        obtain rfl | later := (pending change).mp there
        · exact same rfl
        · exact none (List.mem_map_of_mem later)
      · rintro ⟨todo, resolved, task⟩
        rw [idle] at task
        cases task
  · intro purpose id todo resolved task none
    cases task
    exact ⟨row, found, [], rfl, rfl⟩

lemma Sound.resolved (sound : s.Sound disk) {purpose : Purpose} {projectId : String} {entry : Entry}
    {todo : List Entry} {resolved : List ResolvedRoot}
    (task : s.task = .roots purpose projectId (entry :: todo) resolved) :
    ({ s with
        task := .roots purpose projectId todo
          (resolved ++ (s.resolveReference projectId entry).toList) } : ScmActor).Sound disk := by
  obtain ⟨owned, fresh, reading, lister, viewed, held⟩ := sound
  refine ⟨owned, ?_, ?_, ?_, viewed, held⟩
  · intro id none
    refine (fresh id none).imp_left ?_
    rintro ⟨_, _, busy⟩
    rw [task] at busy
    cases busy
    exact ⟨_, _, rfl⟩
  · intro purpose' id todo' resolved' task' none
    cases task'
    obtain ⟨row, found, done, entries, rfl⟩ := reading _ _ _ _ task none
    refine ⟨row, found, done ++ [entry], by rw [entries, List.append_assoc]; rfl, ?_⟩
    have mem : entry ∈ row.entries := by
      rw [entries]
      exact List.mem_append_right _ List.mem_cons_self
    have there : row.entries.find? (fun other => other.peId = entry.peId) = some entry :=
      Keyed.lookup_of_mem row.unique mem
    rw [resolveReference, found, Option.bind_some, there, Option.bind_some, rootsOf, rootsOf,
      List.filterMap_append]
    cases path : entry.absolutePath <;> simp [path]
  · intro session id todo' resolved' task'
    cases task'
    exact lister _ _ _ _ task

lemma Sound.found (sound : s.Sound disk) {purpose : Purpose} {projectId : String}
    {resolved : List ResolvedRoot} (task : s.task = .roots purpose projectId [] resolved)
      (quiet : projectId ∉ s.pending.map Prod.fst) :
    reposUnder disk resolved = s.current disk projectId := by
  obtain ⟨row, found, done, entries, rfl⟩ := sound.reading _ _ _ _ task quiet
  rw [List.append_nil] at entries
  rw [current, found, Option.elim, entries]

section

variable (sound : s.Sound disk)
include sound

lemma Sound.fresh_read {purpose : Purpose} {projectId : String}
    {resolved : List ResolvedRoot} (task : s.task = .roots purpose projectId [] resolved) {id : String}
    (quiet : id ∉ s.pending.map Prod.fst) :
    (s.runtime.projectRepos.insert projectId (reposUnder disk resolved))[id]? = none ∨
      (s.runtime.projectRepos.insert projectId (reposUnder disk resolved))[id]? =
        some (s.current disk id) := by
  rw [Table.get_insert]
  split
  · rename_i same
    subst same
    exact .inr (congrArg some (sound.found task quiet))
  · rename_i other
    refine (sound.fresh id quiet).resolve_left ?_
    rintro ⟨todo, roots, busy⟩
    rw [task] at busy
    cases busy
    exact other rfl

lemma Sound.viewed_listed {session projectId : String} {found : Finset String}
    (interested : session ∈ s.runtime.projectSubscribersOf projectId)
    (told : found = s.runtime.baseline projectId ∨
      ∀ other ∈ s.runtime.projectSubscribersOf projectId, other ≠ session →
        view s.pushed other projectId = none) {other id : String} {ids : Finset String}
    (sent : view (s.pushed ++ [(session, .repositories projectId found)]) other id = some ids) :
    other ∈ s.runtime.projectSubscribersOf id ∧
      (s.runtime.projectRepos.insert projectId found)[id]? = some ids := by
  rw [view_append] at sent
  rw [Table.get_insert]
  by_cases here : projectId = id
  · subst here
    rw [if_pos rfl]
    by_cases same : session = other
    · subst same
      rw [if_pos rfl, viewStep, if_pos rfl] at sent
      exact ⟨interested, sent⟩
    · rw [if_neg same] at sent
      obtain ⟨mine, last⟩ := sound.viewed other projectId ids sent
      refine ⟨mine, ?_⟩
      obtain equal | alone := told
      · rw [equal, ScmRuntime.baseline, last]
        rfl
      · rw [alone other mine (Ne.symm same)] at sent
        cases sent
  · rw [if_neg here]
    refine sound.viewed other id ids ?_
    split at sent
    · rwa [viewStep, if_neg here] at sent
    · exact sent

lemma Sound.held_listed {projectId : String} {found : Finset String}
    (released : ∀ repo ∈ s.runtime.baseline projectId \ found,
      repo ∉ s.runtime.repos ∪ s.runtime.provider ∨
      ∃ entry ∈ s.runtime.projectRepos.toList, entry.1 ≠ projectId ∧ repo ∈ entry.2) {repo : String}
    (mem : repo ∈ s.runtime.repos ∪ found ∪ (s.runtime.provider ∪ found)) :
    ∃ (id : String) (ids : Finset String),
      (s.runtime.projectRepos.insert projectId found)[id]? = some ids ∧ repo ∈ ids := by
  by_cases new : repo ∈ found
  · exact ⟨projectId, _, by rw [Table.get_insert, if_pos rfl], new⟩
  have old : repo ∈ s.runtime.repos ∪ s.runtime.provider := by
    simp only [Finset.mem_union, new, or_false] at mem ⊢
    exact mem
  obtain ⟨id, ids, last, there⟩ := sound.held repo old
  by_cases here : projectId = id
  · subst here
    have before : repo ∈ s.runtime.baseline projectId := by
      rw [ScmRuntime.baseline, last]
      exact there
    obtain gone | ⟨⟨id, ids⟩, known, other, there⟩ := released repo (Finset.mem_sdiff.mpr ⟨before, new⟩)
    · exact absurd old gone
    · refine ⟨id, ids, ?_, there⟩
      rw [Table.get_insert, if_neg (Ne.symm other)]
      exact Std.TreeMap.mem_toList_iff_getElem?_eq_some.mp known
  · exact ⟨id, ids, by rw [Table.get_insert, if_neg here]; exact last, there⟩

lemma Sound.listed {session projectId : String} {resolved : List ResolvedRoot}
    (task : s.task = .roots (.list session) projectId [] resolved)
      (finds : s.FindsBaseline disk .turn) :
    (s.listed disk session projectId resolved).Sound disk := by
  simp only [FindsBaseline, task] at finds
  obtain ⟨told, released⟩ := finds
  rw [ScmActor.listed]
  exact ⟨sound.owned, fun id quiet => .inr (sound.fresh_read task quiet), by simp [push],
    by simp [push], fun other id ids => sound.viewed_listed (sound.lister _ _ _ _ task) told,
    fun repo => sound.held_listed released⟩

end

lemma told_eq {sessions : List String} {frame : Frame} (s : ScmActor) :
    sessions.foldl (fun s session => s.push session frame) s =
      { s with pushed := (sessions.foldl (fun s session => s.push session frame) s).pushed } := by
  induction sessions generalizing s with
  | nil => rfl
  | cons session sessions ih => exact ih (s.push session frame)

lemma recomputed_spec (disk : Disk) (s : ScmActor) (projectId : String) (resolved : List ResolvedRoot) :
    let now := reposUnder disk resolved
    let previous := s.runtime.baseline projectId
    ∃ pushed, s.recomputed disk projectId resolved =
        { s with
          task := .idle
          runtime := (s.runtime.recomputeProject disk projectId resolved).2
          pushed } ∧
      ∀ session id, view pushed session id =
        if session ∈ s.runtime.projectSubscribersOf projectId then
          viewStep id (view s.pushed session id)
            (.repositoriesChanged projectId (now \ previous) (previous \ now))
        else view s.pushed session id := by
  intro now previous
  by_cases none : now \ previous = ∅ ∧ previous \ now = ∅
  · refine ⟨s.pushed, if_pos none, fun session id => ?_⟩
    rw [none.1, none.2]
    have same : viewStep id (view s.pushed session id) (.repositoriesChanged projectId ∅ ∅) =
        view s.pushed session id := by
      simp [viewStep]
    rw [same, ite_self]
  · exact ⟨_, (if_neg none).trans (told_eq _), fun session id => view_told⟩

section

variable (sound : s.Sound disk)
include sound

lemma Sound.viewed_recomputed {projectId : String} {now : Finset String}
    {session id : String} {ids : Finset String}
    (sent : (if session ∈ s.runtime.projectSubscribersOf projectId then
        viewStep id (view s.pushed session id) (.repositoriesChanged projectId
          (now \ s.runtime.baseline projectId) (s.runtime.baseline projectId \ now))
      else view s.pushed session id) = some ids) :
    session ∈ s.runtime.projectSubscribersOf id ∧
      (s.runtime.projectRepos.insert projectId now)[id]? = some ids := by
  rw [Table.get_insert]
  by_cases here : projectId = id
  · subst here
    rw [if_pos rfl]
    cases known : view s.pushed session projectId with
    | none =>
      rw [known] at sent
      split at sent
      · simp [viewStep] at sent
      · cases sent
    | some ids' =>
      obtain ⟨mine, before⟩ := sound.viewed session projectId ids' known
      refine ⟨mine, ?_⟩
      rw [if_pos mine, known, viewStep, if_pos rfl, Option.map_some, ScmRuntime.baseline,
        before] at sent
      rw [← sent]
      congr 1
      ext repo
      simp only [Option.getD_some, Finset.mem_union, Finset.mem_sdiff]
      tauto
  · rw [if_neg here]
    refine sound.viewed session id ids ?_
    split at sent
    · rwa [viewStep, if_neg here] at sent
    · exact sent

lemma Sound.held_recomputed {projectId : String} {resolved : List ResolvedRoot} {repo : String}
    (mem : repo ∈ (s.runtime.recomputeProject disk projectId resolved).2.repos ∪
      (s.runtime.recomputeProject disk projectId resolved).2.provider) :
    ∃ (id : String) (ids : Finset String),
      (s.runtime.projectRepos.insert projectId (reposUnder disk resolved))[id]? = some ids ∧
        repo ∈ ids := by
  by_cases new : repo ∈ reposUnder disk resolved
  · exact ⟨projectId, _, by rw [Table.get_insert, if_pos rfl], new⟩
  simp only [ScmRuntime.recomputeProject, ScmRuntime.discoverRoots, ScmRuntime.releaseRepos,
    Finset.mem_union, Finset.mem_sdiff, new, or_false, not_false_eq_true, and_true] at mem
  obtain ⟨id, ids, known, there⟩ := sound.held repo (Finset.mem_union.mpr (mem.imp And.left And.left))
  refine ⟨id, ids, ?_, there⟩
  rw [Table.get_insert, if_neg ?_]
  · exact known
  · rintro rfl
    -- What the last list has and the roots do not is released.
    have kept : repo ∉ s.runtime.baseline projectId := by
      obtain ⟨-, kept⟩ | ⟨-, kept⟩ := mem
      · exact kept
      · exact kept
    rw [ScmRuntime.baseline, known] at kept
    exact kept there

lemma Sound.recomputed {projectId : String} {resolved : List ResolvedRoot}
    (task : s.task = .roots .rootsChanged projectId [] resolved) :
    (s.recomputed disk projectId resolved).Sound disk := by
  obtain ⟨pushed, done, views⟩ := recomputed_spec disk s projectId resolved
  rw [done]
  refine ⟨sound.owned, fun id quiet => .inr (sound.fresh_read task quiet), by simp, by simp, ?_,
    fun repo => sound.held_recomputed⟩
  intro session id ids sent
  exact sound.viewed_recomputed ((views session id).symm.trans sent)

lemma Sound.turn (finds : s.FindsBaseline disk .turn) : (s.turn disk).Sound disk := by
  rw [ScmActor.turn]
  split
  · rename_i idle
    split
    · exact sound
    · rename_i event inbound events
      cases event with
      | listRepositories session userId projectId => exact sound.listBegun idle events
      | disconnect session => exact sound.disconnected idle events
      | rootsChanged projectId userId => exact sound.changeBegun idle events
  · rename_i task
    exact sound.resolved task
  · rename_i task
    exact sound.listed task finds
  · rename_i task
    exact sound.recomputed task

lemma Sound.next (event : Event) (finds : s.FindsBaseline disk event) :
    (s.next disk event).Sound disk := by
  cases event with
  | listRepositories session userId projectId =>
    refine sound.of_eq (fun change => ?_) rfl rfl rfl rfl
    simp [ScmActor.next, ScmActor.pending]
  | disconnect session =>
    refine sound.of_eq (fun change => ?_) rfl rfl rfl rfl
    simp [ScmActor.next, ScmActor.pending]
  | attachFolder userId projectId peId absolutePath =>
    rw [ScmActor.next, ScmActor.attachFolder]
    split
    · exact sound
    · rename_i row found
      split
      · rename_i new
        obtain ⟨rfl, new⟩ := new
        exact sound.store found rfl
      · exact sound
  | removeAttached userId projectId peId =>
    rw [ScmActor.next, ScmActor.removeAttached]
    split
    · exact sound
    · rename_i row found
      split
      · rename_i there
        obtain ⟨rfl, there⟩ := there
        exact sound.store found rfl
      · exact sound
  | notifyRootsChanged i => exact sound.notify i
  | turn => exact sound.turn finds

end

/-- The lists of all sessions converge to those of the projects and nothing else is held, throughout
every run in which each request for a list finds the last one. -/
theorem converges (disk : Disk) (projects : Table String ProjectRow) (events : List Event)
    (finds : LTS.EnabledAll (FindsBaseline disk) (next disk) (start projects) events) :
    LTS.Throughout (next disk) (Converged disk) (start projects) events := by
  have sound := sound_start disk projects
  rw [LTS.throughout_iff]
  refine ⟨sound.converged, ?_⟩
  refine finds.imp (Q := Sound disk) (fun s event sound finds => ?_) sound
  exact ⟨(sound.next event finds).converged, sound.next event finds⟩

def oneProject : Table String ProjectRow :=
  Std.TreeMap.empty.insert "p" { owner := "u", entries := [], unique := List.nodup_nil }

def oneRepository : Disk := fun path _ => some (if path = "/r" then [""] else [])

/-- A session reads its list, a folder with a repository is attached, and the change is told and
processed. -/
def attached : List Event :=
  [.listRepositories "a" "u" "p", .turn, .turn, .attachFolder "u" "p" "pe" (some "/r"),
    .notifyRootsChanged 0,
    .turn, .turn, .turn]

/-- The list of the session converges. -/
theorem converges_attached :
    LTS.EnabledAll (FindsBaseline oneRepository) (next oneRepository) (start oneProject) attached ∧
      LTS.Throughout (next oneRepository) (Converged oneRepository) (start oneProject) attached :=
  have finds : LTS.EnabledAll (FindsBaseline oneRepository) (next oneRepository)
    (start oneProject) attached := by
    decide
  ⟨finds, converges oneRepository oneProject attached finds⟩

/-- Another session reads the list before the change is told. -/
def overtaken : List Event :=
  [.listRepositories "a" "u" "p", .turn, .turn, .attachFolder "u" "p" "pe" (some "/r"),
    .listRepositories "b" "u" "p", .turn, .turn, .turn, .notifyRootsChanged 0, .turn, .turn, .turn]

/-- The first session never hears of the repository. -/
theorem overtaken_diverges :
    ¬ LTS.Throughout (next oneRepository) (Converged oneRepository) (start oneProject) overtaken := by
  rintro ⟨-, -, -, -, -, -, -, -, -, -, -, -, last⟩
  let s := overtaken.foldl (next oneRepository) (start oneProject)
  have idle : s.task = .idle := by decide
  have agree := (show s.Converged oneRepository from last) (by decide) (fun id busy => by
    obtain ⟨todo, resolved, task⟩ := busy
    rw [idle] at task
    cases task)
  exact absurd (agree.1 "a" "p" ∅ (by decide)) (by decide)

end ScmActor

end KiCore.Project.Scm

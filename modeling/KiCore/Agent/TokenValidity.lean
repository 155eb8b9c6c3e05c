import KiCore.Agent.TaskManager
import KiCore.Lib.Pool

/-!
# The validity of runtime tokens

The token of an agent is issued before its build, and whatever kills an agent of the conversation,
or issues a token with scopes that the current one has not, kills the current token. Nothing ties
the token in the options of a build to the moment of the build: options that were prepared before a
kill, as those are that an automatic replay clones, bring a dead token to a new agent; and a new
token for a conversation takes the place of the one that its running agent has. These are the two
ways to an agent with a dead token (`tokens_valid_iff`). A killed agent never has a live one.
-/

namespace KiCore.Agent.WorkerTaskManager

open KiCore.Lib

variable {m : WorkerTaskManager} {call agent slot wait : Nat} {options : BuildTaskOptions} {ok : Bool}
  {action : BuildAction} {event : Event}

/-- The token of the agent in the map validates for its scopes, those of killed agents for nobody.
-/
structure TokensValid (m : WorkerTaskManager) : Prop where
  stored : ∀ (agent : Nat) (a : AgentInstance) (token : Nat), m.initialisedInstance = some agent →
    m.agents[agent]? = some a → a.options.runtimeToken = some token →
    ∀ scope ∈ a.options.scopes, m.tokenService.ValidatesFor token m.userId m.conversationId scope
      TEAM_RUNTIME_TOKEN_SESSION_GENERATION
  killed : ∀ a ∈ m.agents, a.killed = true → ∀ token, a.options.runtimeToken = some token →
    ∀ userId conversationId scope sessionGeneration,
      ¬ m.tokenService.ValidatesFor token userId conversationId scope sessionGeneration

def bearer (m : WorkerTaskManager) : Option Nat :=
  (m.initialisedInstance.bind (m.agents[·]?)).bind (·.options.runtimeToken)

/-- An issue hands out the token that there is, or the agent in the map has none. -/
def IssueFits (m : WorkerTaskManager) (options : BuildTaskOptions) : Prop :=
  m.bearer = none ∨ (m.tokenService.existingToken m.userId m.conversationId
    TEAM_RUNTIME_TOKEN_SESSION_GENERATION options.scopes).isSome = true

/-- An agent is built into the map with a token that has not been invalidated since its issue. -/
def BuildFits (m : WorkerTaskManager) (call : Nat) (options : BuildTaskOptions) :
    BuildStage → BuildAction → Prop
  | .refresh, .refresh => m.IssueFits options
  | .init slot, .complete ok => ok = true → m.Building call slot → m.tasks = some slot →
    ∀ token ∈ options.runtimeToken, m.tokenService.Live token
  | _, _ => True

def TokensFit (m : WorkerTaskManager) : Event → Prop
  | .applyRuntimeContext k => ∀ options ∈ m.options[k]?, m.IssueFits options
  | .build call action => ∀ build ∈ m.builds[call]?, m.BuildFits call build.options build.stage action
  | _ => True

def Dead (m : WorkerTaskManager) (options : BuildTaskOptions) : Prop :=
  ∀ token, options.runtimeToken = some token → ¬ m.tokenService.Live token

/-- The token of options was drawn, and whoever knows it issued it for them. -/
def Covered (m : WorkerTaskManager) (options : BuildTaskOptions) : Prop :=
  ∀ token, options.runtimeToken = some token → token < m.tokenService.minted ∧
    m.tokenService.Covers token m.userId m.conversationId TEAM_RUNTIME_TOKEN_SESSION_GENERATION
      options.scopes

/-- All options around have a token that was issued for them. -/
structure Issued (m : WorkerTaskManager) : Prop where
  drawn : m.tokenService.Drawn
  options : ∀ o ∈ m.options, m.Covered o
  builds : ∀ build ∈ m.builds, m.Covered build.options
  agents : ∀ a ∈ m.agents, m.Covered a.options

/-- What is tied to a slot that has left the map has a dead token, and so has a killed agent. -/
structure Detached (m : WorkerTaskManager) : Prop where
  tasks : ∀ slot, m.tasks = some slot → slot < m.slots.length
  waits : ∀ slot, some slot ∈ m.waits → slot < m.slots.length ∧ m.tasks ≠ some slot
  builds : ∀ build ∈ m.builds, ∀ slot, build.stage = .init slot →
    slot < m.slots.length ∧ (m.tasks ≠ some slot → m.Dead build.options)
  agents : ∀ slot agent, m.slots[slot]? = some (.ready agent) →
    ∃ a, m.agents[agent]? = some a ∧ (m.tasks ≠ some slot → m.Dead a.options)
  killed : ∀ a ∈ m.agents, a.killed = true → m.Dead a.options

structure Sound (m : WorkerTaskManager) : Prop where
  issued : m.Issued
  detached : m.Detached

def Known (m : WorkerTaskManager) : Prop :=
  ∀ token, m.bearer = some token → m.tokenService.Live token

lemma helper_mem : RuntimeTokenScope.conversationHelper ∈ options.scopes := by
  rw [BuildTaskOptions.scopes]
  split <;> exact List.mem_cons_self

lemma bearer_iff {token : Nat} :
    m.bearer = some token ↔ ∃ agent a, m.initialisedInstance = some agent ∧
    m.agents[agent]? = some a ∧ a.options.runtimeToken = some token := by
  simp only [bearer, Option.bind_eq_some_iff]
  constructor
  · rintro ⟨a, ⟨agent, there, found⟩, has⟩
    exact ⟨agent, a, there, found, has⟩
  · rintro ⟨agent, a, there, found, has⟩
    exact ⟨a, ⟨agent, there, found⟩, has⟩

lemma Sound.tokensValid_iff (h : m.Sound) : m.TokensValid ↔ m.Known := by
  constructor
  · intro valid token has
    obtain ⟨agent, a, there, found, has⟩ := bearer_iff.mp has
    by_contra dead
    exact RuntimeTokenService.not_validatesFor dead
      (valid.stored agent a token there found has _ helper_mem)
  · intro live
    constructor
    · intro agent a token there found has scope mem
      have covered := h.issued.agents a (List.mem_of_getElem? found) token has
      exact RuntimeTokenService.validatesFor
        (live token (bearer_iff.mpr ⟨agent, a, there, found, has⟩))
        covered.2 mem
    · intro a mem killed token has userId conversationId scope sessionGeneration
      exact RuntimeTokenService.not_validatesFor (h.detached.killed a mem killed token has)

lemma Covered.dead_remove (h : m.Covered options) : m.remove.Dead options := by
  intro token has
  exact RuntimeTokenService.dead_invalidateConversationId (h token has).2

lemma Sound.serve (h : m.Sound) {svc : RuntimeTokenService} (drawn : svc.Drawn)
    (later : m.tokenService.Later svc) : Sound { m with tokenService := svc } := by
  have covered : ∀ o, m.Covered o → Covered { m with tokenService := svc } o := by
    intro o covered token has
    obtain ⟨old, covers⟩ := covered token has
    exact ⟨old.trans_le later.minted, later.covers old covers⟩
  have dead : ∀ o, m.Covered o → m.Dead o → Dead { m with tokenService := svc } o := by
    intro o covered dead token has
    exact later.dead (covered token has).1 (dead token has)
  constructor
  · exact {
      drawn
      options := fun o mem => covered o (h.issued.options o mem)
      builds := fun build mem => covered _ (h.issued.builds build mem)
      agents := fun a mem => covered _ (h.issued.agents a mem) }
  · refine ⟨h.detached.tasks, h.detached.waits, ?_, ?_, ?_⟩
    · intro build mem slot at_
      obtain ⟨lt, gone⟩ := h.detached.builds build mem slot at_
      exact ⟨lt, fun away => dead _ (h.issued.builds build mem) (gone away)⟩
    · intro slot agent ready
      obtain ⟨a, found, gone⟩ := h.detached.agents slot agent ready
      have covered := h.issued.agents a (List.mem_of_getElem? found)
      exact ⟨a, found, fun away => dead _ covered (gone away)⟩
    · intro a mem killed
      exact dead _ (h.issued.agents a mem) (h.detached.killed a mem killed)

lemma Sound.remove (h : m.Sound) : m.remove.Sound := by
  have served := (h.serve h.issued.drawn.invalidateConversationId
    (RuntimeTokenService.Later.invalidateConversationId m.conversationId))
  refine ⟨⟨served.issued.drawn, served.issued.options, served.issued.builds, served.issued.agents⟩,
    ⟨nofun, ?_, ?_, ?_, served.detached.killed⟩⟩
  · intro slot mem
    exact ⟨(h.detached.waits slot mem).1, nofun⟩
  · intro build mem slot at_
    exact ⟨(h.detached.builds build mem slot at_).1, fun _ => (h.issued.builds build mem).dead_remove⟩
  · -- Every token of the conversation goes with the slot, that of its agent too.
    intro slot agent ready
    obtain ⟨a, found, _⟩ := h.detached.agents slot agent ready
    exact ⟨a, found, fun _ => (h.issued.agents a (List.mem_of_getElem? found)).dead_remove⟩

lemma agents_killAgent {n : Nat} {a : AgentInstance}
    (found : (m.killAgent agent).agents[n]? = some a) :
    ∃ before, m.agents[n]? = some before ∧ before.options = a.options ∧
      (a.killed = true → before.killed = true ∨ n = agent) := by
  rw [killAgent, List.getElem?_modify] at found
  obtain ⟨before, there, rfl⟩ := Option.map_eq_some_iff.mp found
  refine ⟨before, there, ?_⟩
  by_cases same : agent = n
  · rw [if_pos same]
    exact ⟨rfl, fun _ => .inr same.symm⟩
  · rw [if_neg same]
    exact ⟨rfl, .inl⟩

lemma killAgent_there {n : Nat} {a : AgentInstance} (agent : Nat) (found : m.agents[n]? = some a) :
    ∃ after, (m.killAgent agent).agents[n]? = some after ∧ after.options = a.options := by
  rw [killAgent, List.getElem?_modify, found]
  refine ⟨_, rfl, ?_⟩
  split <;> rfl

section

variable (h : m.Sound)
include h

lemma Sound.killAgent (dead : ∀ a, m.agents[agent]? = some a → m.Dead a.options) :
    (m.killAgent agent).Sound := by
  refine ⟨⟨h.issued.drawn, h.issued.options, h.issued.builds, ?_⟩,
    ⟨h.detached.tasks, h.detached.waits, h.detached.builds, ?_, ?_⟩⟩
  · intro a mem
    obtain ⟨n, found⟩ := List.mem_iff_getElem?.mp mem
    obtain ⟨before, there, same, _⟩ := agents_killAgent found
    rw [← same]
    exact h.issued.agents before (List.mem_of_getElem? there)
  · intro slot n ready
    obtain ⟨a, found, gone⟩ := h.detached.agents slot n ready
    obtain ⟨after, there, same⟩ := killAgent_there agent found
    exact ⟨after, there, same ▸ gone⟩
  · intro a mem killed
    obtain ⟨n, found⟩ := List.mem_iff_getElem?.mp mem
    obtain ⟨before, there, same, kills⟩ := agents_killAgent found
    rw [← same]
    -- A killed agent was killed before, or is the one whose token is dead.
    obtain already | rfl := kills killed
    · exact h.detached.killed before (List.mem_of_getElem? there) already
    · exact dead before there

lemma Sound.kill : m.kill.Sound := by
  rw [WorkerTaskManager.kill]
  split
  · rename_i slot there
    cases m.instanceAt slot with
    | none => exact h.remove
    | some agent =>
      refine h.remove.killAgent fun a found => ?_
      exact (h.issued.agents a (List.mem_of_getElem? found)).dead_remove
  · exact h

lemma Sound.setBuild {stage : BuildStage} (covered : m.Covered options)
    (at_ : ∀ slot, stage = .init slot →
      slot < m.slots.length ∧ (m.tasks ≠ some slot → m.Dead options)) :
    (m.setBuild call options stage).Sound :=
  ⟨⟨h.issued.drawn, h.issued.options, Pool.forall_set h.issued.builds covered, h.issued.agents⟩,
    ⟨h.detached.tasks, h.detached.waits, Pool.forall_set h.detached.builds at_, h.detached.agents,
      h.detached.killed⟩⟩

lemma Sound.serveToken (options : BuildTaskOptions) :
    Sound { m with tokenService := (m.issueToken options).2 } ∧
      Covered { m with tokenService := (m.issueToken options).2 } (m.issueToken options).1 := by
  refine ⟨h.serve h.issued.drawn.issue .issue, ?_⟩
  intro token has
  cases has
  exact RuntimeTokenService.issue_covers h.issued.drawn

lemma Sound.applyConversationRuntimeContext :
    (m.applyConversationRuntimeContext options).Sound := by
  obtain ⟨sound, covered⟩ := h.serveToken options
  exact ⟨⟨sound.issued.drawn, Pool.forall_append sound.issued.options covered, sound.issued.builds,
    sound.issued.agents⟩, ⟨sound.detached.tasks, sound.detached.waits, sound.detached.builds,
    sound.detached.agents, sound.detached.killed⟩⟩

lemma Sound.refreshRuntimeToken : (m.refreshRuntimeToken call options).Sound := by
  obtain ⟨sound, covered⟩ := h.serveToken options
  exact sound.setBuild covered nofun

lemma Sound.getOrBuildTask (covered : m.Covered options) : (m.getOrBuildTask options).Sound := by
  refine ⟨⟨h.issued.drawn, h.issued.options, Pool.forall_append h.issued.builds covered,
    h.issued.agents⟩, ⟨h.detached.tasks, h.detached.waits, ?_, h.detached.agents, h.detached.killed⟩⟩
  refine Pool.forall_append h.detached.builds fun slot at_ => ?_
  dsimp only at at_
  split at at_ <;> cases at_

lemma Sound.enter (covered : m.Covered options) : (m.enter call options).Sound := by
  rw [WorkerTaskManager.enter]
  split
  · rename_i slot there
    refine h.setBuild covered fun slot' at_ => ?_
    cases at_
    exact ⟨h.detached.tasks slot there, fun away => absurd there away⟩
  · rename_i gone
    have grown : ∀ slot, slot < m.slots.length → slot < (m.slots ++ [OnceCell.empty]).length := by
      intro slot lt
      rw [List.length_append]
      omega
    have away : ∀ slot, m.tasks ≠ some slot := fun slot there => nomatch gone.symm.trans there
    have sound : Sound
        { m with tasks := some m.slots.length, slots := m.slots ++ [OnceCell.empty] } := by
      refine ⟨⟨h.issued.drawn, h.issued.options, h.issued.builds, h.issued.agents⟩,
        ⟨?_, ?_, ?_, ?_, h.detached.killed⟩⟩
      · -- The new slot is the last one, and the slots before it stay where they are.
        rintro slot ⟨⟩
        rw [List.length_append]
        exact Nat.lt_succ_self _
      · intro slot mem
        have lt := (h.detached.waits slot mem).1
        refine ⟨grown slot lt, fun same => ?_⟩
        cases same
        exact lt_irrefl _ lt
      · intro build mem slot at_
        obtain ⟨lt, dead⟩ := h.detached.builds build mem slot at_
        exact ⟨grown slot lt, fun _ => dead (away slot)⟩
      · intro slot agent ready
        have ready' : m.slots[slot]? = some (.ready agent) := by
          obtain there | ⟨_, empty⟩ := Pool.getElem?_append_some ready
          · exact there
          · cases empty
        obtain ⟨a, found, dead⟩ := h.detached.agents slot agent ready'
        exact ⟨a, found, fun _ => dead (away slot)⟩
    refine sound.setBuild covered fun slot at_ => ?_
    cases at_
    exact ⟨sound.detached.tasks _ rfl, fun other => absurd rfl other⟩

lemma Sound.setCell {cell : OnceCell} (free : ∀ agent, cell ≠ .ready agent) :
    Sound { m with slots := m.slots.set slot cell } := by
  have same : (m.slots.set slot cell).length = m.slots.length := List.length_set
  refine ⟨⟨h.issued.drawn, h.issued.options, h.issued.builds, h.issued.agents⟩,
    ⟨?_, ?_, ?_, ?_, h.detached.killed⟩⟩
  · intro slot' there
    exact same ▸ h.detached.tasks slot' there
  · intro slot' mem
    exact same ▸ h.detached.waits slot' mem
  · intro build mem slot' at_
    exact same ▸ h.detached.builds build mem slot' at_
  · intro slot' agent ready
    refine h.detached.agents slot' agent ?_
    dsimp only at ready
    rw [List.getElem?_set] at ready
    split at ready
    · split at ready
      · exact absurd (Option.some_inj.mp ready) (free agent)
      · cases ready
    · exact ready

lemma Sound.produce (building : m.Building call slot) (covered : m.Covered options)
    (dead : m.tasks ≠ some slot → m.Dead options) : (m.complete call options slot true).Sound := by
  have same : (m.slots.set slot (.ready m.agents.length)).length = m.slots.length := List.length_set
  have sound : Sound { m with
      slots := m.slots.set slot (.ready m.agents.length)
      agents := m.agents ++ [{ options, killed := false }] } := by
    refine ⟨⟨h.issued.drawn, h.issued.options, h.issued.builds,
      Pool.forall_append h.issued.agents covered⟩, ⟨?_, ?_, ?_, ?_, ?_⟩⟩
    · intro slot' there
      exact same ▸ h.detached.tasks slot' there
    · intro slot' mem
      exact same ▸ h.detached.waits slot' mem
    · intro build mem slot' at_
      exact same ▸ h.detached.builds build mem slot' at_
    · intro slot' agent ready
      dsimp only at ready ⊢
      -- In its own slot is the new agent, in others are those from before.
      by_cases here : slot = slot'
      · subst here
        rw [List.getElem?_set_self (building_lt building)] at ready
        cases ready
        exact ⟨_, List.getElem?_concat_length, dead⟩
      · rw [List.getElem?_set_ne here] at ready
        obtain ⟨a, found, gone⟩ := h.detached.agents slot' agent ready
        rw [List.getElem?_append_left (List.getElem?_eq_some_iff.mp found).1]
        exact ⟨a, found, gone⟩
    · exact Pool.forall_append h.detached.killed nofun
  exact sound.setBuild covered nofun

lemma Sound.stepBuild : (m.stepBuild call action).Sound := by
  rw [WorkerTaskManager.stepBuild]
  split
  · rename_i build there
    have mem := List.mem_of_getElem? there
    have covered := h.issued.builds build mem
    unfold nextBuild
    split
    · refine h.kill.setBuild ?_ fun slot at_ => ?_
      · exact h.kill.issued.builds build (kill_frame.2.1.symm ▸ mem)
      · split at at_ <;> cases at_
    · exact h.refreshRuntimeToken
    · exact h.enter covered
    · rw [poll]
      split
      · exact h.setBuild covered nofun
      · exact h.setCell nofun
      · exact h
    · rename_i slot ok at_
      split
      · rename_i building
        cases ok with
        | false =>
          rw [complete_failed]
          have sound : Sound { m with slots := m.slots.set slot .empty } := h.setCell nofun
          exact sound.setBuild covered nofun
        | true => exact h.produce building covered (h.detached.builds build mem slot at_).2
      · exact h
    · exact h
  · exact h

lemma Sound.killAndWait : m.killAndWait.Sound := by
  have k := h.kill
  refine ⟨⟨k.issued.drawn, k.issued.options, k.issued.builds, k.issued.agents⟩,
    ⟨k.detached.tasks, ?_, k.detached.builds, k.detached.agents, k.detached.killed⟩⟩
  obtain ⟨slots, _, _⟩ := m.kill_frame
  intro slot mem
  have lt : slot < m.slots.length := by
    dsimp only [WorkerTaskManager.killAndWait] at mem
    split at mem
    · obtain mem | mem := List.mem_append.mp mem
      · exact (h.detached.waits slot mem).1
      · exact h.detached.tasks slot (List.mem_singleton.mp mem).symm
    · exact (h.detached.waits slot mem).1
  dsimp only [WorkerTaskManager.killAndWait]
  rw [slots, kill_tasks]
  exact ⟨lt, nofun⟩

lemma Sound.pollKill (there : some slot ∈ m.waits) : (m.pollKill wait slot).Sound := by
  have waits : ∀ m' : WorkerTaskManager, m'.Sound →
      Sound { m' with waits := m'.waits.set wait none } := by
    intro m' h'
    refine ⟨⟨h'.issued.drawn, h'.issued.options, h'.issued.builds, h'.issued.agents⟩,
      ⟨h'.detached.tasks, fun slot mem => ?_, h'.detached.builds, h'.detached.agents,
        h'.detached.killed⟩⟩
    obtain mem | same := List.mem_or_eq_of_mem_set mem
    · exact h'.detached.waits slot mem
    · cases same
  rw [WorkerTaskManager.pollKill]
  split
  · rename_i agent ready
    refine waits _ (h.killAgent fun a found => ?_)
    -- Nobody waits for the slot of the map, so the agent's token is dead.
    obtain ⟨a', found', dead⟩ := h.detached.agents slot agent ready
    cases found.symm.trans found'
    exact dead (h.detached.waits slot there).2
  · exact waits m h
  · exact h

lemma Sound.next : (m.next event).Sound := by
  cases event with
  | newOptions =>
    refine ⟨⟨h.issued.drawn, Pool.forall_append h.issued.options nofun, h.issued.builds,
      h.issued.agents⟩, ⟨h.detached.tasks, h.detached.waits, h.detached.builds, h.detached.agents,
      h.detached.killed⟩⟩
  | applyRuntimeContext k =>
    cases e : m.options[k]? with
    | none =>
      simp only [WorkerTaskManager.next, e]
      exact h
    | some options =>
      simp only [WorkerTaskManager.next, e]
      exact h.applyConversationRuntimeContext
  | getOrBuild k =>
    cases e : m.options[k]? with
    | none =>
      simp only [WorkerTaskManager.next, e]
      exact h
    | some options =>
      simp only [WorkerTaskManager.next, e]
      exact h.getOrBuildTask (h.issued.options options (List.mem_of_getElem? e))
  | build call action => exact h.stepBuild
  | kill => exact h.kill
  | killAndWait => exact h.killAndWait
  | pollKill wait =>
    cases e : (m.waits[wait]?).join with
    | none =>
      simp only [WorkerTaskManager.next, e]
      exact h
    | some slot =>
      simp only [WorkerTaskManager.next, e]
      exact h.pollKill (List.mem_of_getElem? (Option.join_eq_some_iff.mp e))
  | clear =>
    have k := h.kill
    exact ⟨⟨k.issued.drawn, k.issued.options, k.issued.builds, k.issued.agents⟩,
      ⟨k.detached.tasks, k.detached.waits, k.detached.builds, k.detached.agents, k.detached.killed⟩⟩

end

lemma known_of_gone (gone : m.tasks = none) : m.Known := by
  intro token has
  rw [bearer, initialisedInstance, gone] at has
  cases has

lemma Sound.known_issue_iff (h : m.Sound) (known : m.Known) :
    Known { m with tokenService := (m.issueToken options).2 } ↔ m.IssueFits options := by
  rw [IssueFits, issueToken, RuntimeTokenService.issue]
  cases e : m.tokenService.existingToken m.userId m.conversationId
    TEAM_RUNTIME_TOKEN_SESSION_GENERATION options.scopes with
  | some existing => exact ⟨fun _ => .inr rfl, fun _ => known⟩
  | none =>
    constructor
    · -- A token that is drawn anew puts the one of the agent in the map out of use.
      intro after
      left
      by_contra some_
      obtain ⟨token, has⟩ := Option.ne_none_iff_exists'.mp some_
      obtain ⟨agent, a, _, found, owns⟩ := bearer_iff.mp has
      obtain ⟨drawn, covers⟩ := h.issued.agents a (List.mem_of_getElem? found) token owns
      exact RuntimeTokenService.dead_mint drawn covers (after token has)
    · intro fits token has
      obtain none_ | moved := fits
      · cases none_.symm.trans has
      · cases moved

lemma known_killAgent (known : m.Known) : (m.killAgent agent).Known := by
  intro token has
  obtain ⟨n, a, there, found, owns⟩ := bearer_iff.mp has
  obtain ⟨before, found', same, _⟩ := agents_killAgent found
  exact known token (bearer_iff.mpr ⟨n, before, there, found', same ▸ owns⟩)

lemma known_setCell {cell : OnceCell} (known : m.Known) (free : ∀ agent, cell ≠ .ready agent) :
    Known { m with slots := m.slots.set slot cell } := by
  intro token has
  obtain ⟨agent, a, there, found, owns⟩ := bearer_iff.mp has
  obtain ⟨slot', task, ready⟩ := initialisedInstance_iff.mp there
  refine known token (bearer_iff.mpr ⟨agent, a, initialisedInstance_iff.mpr ⟨slot', task, ?_⟩, found,
    owns⟩)
  dsimp only at ready
  rw [List.getElem?_set] at ready
  split at ready
  · split at ready
    · exact absurd (Option.some_inj.mp ready) (free agent)
    · cases ready
  · exact ready

lemma known_enter (known : m.Known) : (m.enter call options).Known := by
  rw [enter]
  split
  · exact known
  · intro token has
    obtain ⟨agent, a, there, _⟩ := bearer_iff.mp has
    obtain ⟨slot', task, ready⟩ := initialisedInstance_iff.mp there
    cases task
    exact nomatch List.getElem?_concat_length.symm.trans ready

lemma Sound.known_produce_iff (h : m.Sound) (known : m.Known) (building : m.Building call slot) :
    (m.complete call options slot true).Known ↔
      (m.tasks = some slot → ∀ token ∈ options.runtimeToken, m.tokenService.Live token) := by
  have new : (m.complete call options slot true).agents[m.agents.length]? =
      some { options, killed := false } := List.getElem?_concat_length
  constructor
  · intro after here token has
    apply after token
    refine bearer_iff.mpr ⟨_, _, initialisedInstance_iff.mpr ⟨slot, here, ?_⟩, new, has⟩
    exact List.getElem?_set_self (building_lt building)
  · intro fits token has
    obtain ⟨agent, a, there, found, owns⟩ := bearer_iff.mp has
    obtain ⟨slot', task, ready⟩ := initialisedInstance_iff.mp there
    rw [complete_slots] at ready
    by_cases here : slot = slot'
    · subst here
      rw [List.getElem?_set_self (building_lt building)] at ready
      cases ready
      cases new.symm.trans found
      exact fits task token owns
    · rw [List.getElem?_set_ne here] at ready
      obtain ⟨a', found', _⟩ := h.detached.agents slot' agent ready
      rw [complete_agents, List.getElem?_append_left (List.getElem?_eq_some_iff.mp found').1] at found
      exact known token (bearer_iff.mpr ⟨agent, a, initialisedInstance_iff.mpr ⟨slot', task, ready⟩,
        found, owns⟩)

lemma Sound.known_nextBuild_iff (h : m.Sound) (known : m.Known) {stage : BuildStage} :
    (m.nextBuild call options stage action).Known ↔ m.BuildFits call options stage action := by
  unfold nextBuild
  split
  · exact ⟨fun _ => trivial, fun _ => known_of_gone kill_tasks⟩
  · exact h.known_issue_iff known
  · exact ⟨fun _ => trivial, fun _ => known_enter known⟩
  · refine ⟨fun _ => trivial, fun _ => ?_⟩
    rw [poll]
    split
    · exact known
    · exact known_setCell known nofun
    · exact known
  · rename_i slot ok
    split
    · rename_i building
      cases ok with
      | false =>
        refine ⟨fun _ => nofun, fun _ => ?_⟩
        rw [complete_failed]
        have kept : Known { m with slots := m.slots.set slot .empty } := known_setCell known nofun
        exact kept
      | true =>
        refine (h.known_produce_iff known building).trans ?_
        exact ⟨fun fits _ _ => fits, fun fits => fits rfl building⟩
    · rename_i waiting
      exact ⟨fun _ _ building => absurd building waiting, fun _ => known⟩
  · -- In no other stage does a call issue a token or produce an agent.
    rename_i noRefresh _ _ noComplete
    refine ⟨fun _ => ?_, fun _ => known⟩
    unfold BuildFits
    split
    · exact (noRefresh rfl rfl).elim
    · exact (noComplete _ _ rfl rfl).elim
    · trivial

lemma Sound.known_stepBuild_iff (h : m.Sound) (known : m.Known) :
    (m.stepBuild call action).Known ↔ m.TokensFit (.build call action) := by
  rw [WorkerTaskManager.stepBuild, TokensFit]
  cases m.builds[call]? with
  | none => exact ⟨nofun, fun _ => known⟩
  | some build =>
    simp only [Option.mem_def, Option.some_inj, forall_eq']
    exact h.known_nextBuild_iff known

lemma Sound.known_next_iff (h : m.Sound) (known : m.Known) :
    (m.next event).Known ↔ m.TokensFit event := by
  cases event with
  | newOptions => exact ⟨fun _ => trivial, fun _ => known⟩
  | applyRuntimeContext k =>
    rw [TokensFit]
    cases e : m.options[k]? with
    | none =>
      simp only [WorkerTaskManager.next, e]
      exact ⟨nofun, fun _ => known⟩
    | some options =>
      simp only [WorkerTaskManager.next, e, Option.mem_def, Option.some_inj, forall_eq']
      exact h.known_issue_iff known
  | getOrBuild k =>
    refine ⟨fun _ => trivial, fun _ => ?_⟩
    rw [WorkerTaskManager.next]
    cases m.options[k]? <;> exact known
  | build call action => exact h.known_stepBuild_iff known
  | kill => exact ⟨fun _ => trivial, fun _ => known_of_gone kill_tasks⟩
  | killAndWait => exact ⟨fun _ => trivial, fun _ => known_of_gone kill_tasks⟩
  | pollKill wait =>
    refine ⟨fun _ => trivial, fun _ => ?_⟩
    rw [WorkerTaskManager.next]
    cases (m.waits[wait]?).join with
    | none => exact known
    | some slot =>
      rw [Option.elim_some, WorkerTaskManager.pollKill]
      split
      · exact known_killAgent known
      · exact known
      · exact known
  | clear => exact ⟨fun _ => trivial, fun _ => known_of_gone kill_tasks⟩

lemma Sound.start {userId conversationId : String} : Sound (start userId conversationId) :=
  ⟨⟨.new, nofun, nofun, nofun⟩, ⟨nofun, nofun, nofun, nofun, nofun⟩⟩

/-- In a run, the agent in the map has a valid token throughout and no killed agent has one, if and
only if every build into the map brings a token that has not been invalidated since its issue, and
every issue hands out the token that there is or finds no token in the map. -/
theorem tokens_valid_iff (userId conversationId : String) (events : List Event) :
    LTS.Throughout next TokensValid (start userId conversationId) events ↔
      LTS.EnabledAll TokensFit next (start userId conversationId) events := by
  have start_known : Known (start userId conversationId) := known_of_gone rfl
  rw [LTS.throughout_iff, Sound.start.tokensValid_iff, and_iff_right start_known]
  refine LTS.enabledAll_iff (Q := fun m => m.Sound ∧ m.Known) ?_ ⟨.start, start_known⟩
  rintro m event ⟨sound, known⟩
  rw [sound.next.tokensValid_iff]
  refine ⟨sound.known_next_iff known, fun fits => ?_⟩
  exact ⟨sound.next, (sound.known_next_iff known).mpr fits⟩

/-- An automatic replay kills the agent and builds the next one from the options of the first. -/
theorem replayed_with_dead_token : ¬ LTS.Throughout next TokensValid (start "u" "c")
    [.newOptions false ⟨none⟩, .applyRuntimeContext 0, .getOrBuild 1, .build 0 .enter, .build 0 .poll,
      .build 0 (.complete true), .killAndWait, .getOrBuild 1, .build 1 .enter, .build 1 .poll,
      .build 1 (.complete true)] := by
  intro h
  obtain ⟨claims, ok⟩ := h.last.stored 1 _ 0 rfl rfl rfl .conversationHelper (by decide)
  cases ok

end KiCore.Agent.WorkerTaskManager

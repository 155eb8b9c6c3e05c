import KiCore.Channel.PluginManager

/-!
# The life of a plugin

An enable takes the old instance away first and puts the new one into the map after four more
awaits, and nothing keeps other calls out in between. `Orderly` says which steps of the others go
well together with it; the invariant `Tracked` is kept by every step that is orderly.
-/

namespace KiCore.Channel

open KiCore.Lib

/-- The instance that a call has made, and that is not in the map yet. -/
def ManagerStage.Owns (id : Nat) : ManagerStage → Prop
  | .initializePlugin id' | .startPlugin id' | .updateRunning id' => id' = id
  | _ => False

/-- A call that has taken the old instance away, or has read that there is none, and is yet to
return. -/
def ManagerStage.UnderWay : ManagerStage → Prop
  | .resolveConfig | .getAllPlugins | .collectKeys | .stopPlugin | .finished => False
  | _ => True

def ManagerStage.BringsUp : ManagerStage → Prop
  | .initializePlugin _ | .startPlugin _ | .updateRunning _ => True
  | _ => False

/-- A stage at which a call neither brings the plugin up nor has just done so. -/
abbrev ManagerStage.Plain (stage : ManagerStage) : Prop :=
  ¬ stage.BringsUp ∧ stage ≠ .returning true

instance ManagerStage.decidableUnderWay : (stage : ManagerStage) → Decidable stage.UnderWay
  | .resolveConfig | .getAllPlugins | .collectKeys | .stopPlugin | .finished => .isFalse id
  | .upsertPlugin | .initializePlugin _ | .startPlugin _ | .updateRunning _ | .updateError | .updateDisabled
  | .returning _ => .isTrue trivial

instance ManagerStage.decidableBringsUp : (stage : ManagerStage) → Decidable stage.BringsUp
  | .initializePlugin _ | .startPlugin _ | .updateRunning _ => .isTrue trivial
  | .resolveConfig | .getAllPlugins | .collectKeys | .stopPlugin | .finished | .upsertPlugin
  | .updateError | .updateDisabled | .returning _ => .isFalse id

lemma owns_bringsUp {stage : ManagerStage} {id : Nat} (owns : stage.Owns id) : stage.BringsUp := by
  cases stage <;> first | exact trivial | exact owns

lemma bringsUp_underWay {stage : ManagerStage} (brings : stage.BringsUp) : stage.UnderWay := by
  cases stage <;> first | exact trivial | exact brings

lemma plain_free {stage : ManagerStage} (plain : stage.Plain) (id : Nat) : ¬ stage.Owns id :=
  fun owns => plain.1 (owns_bringsUp owns)

namespace ChannelManager

/-- When all calls have returned, a started instance runs if and only if the row is enabled and the
last call has brought it up; one instance runs at most; and one that runs is in the map, or in the
hands of a call. -/
structure PluginLaw (platform : Platform) (s : ChannelManager) : Prop where
  settled : (∀ call ∈ s.calls, call.stage = .finished) →
    ((∃ plugin ∈ s.instances, plugin.Running platform ∧ plugin.started = true) ↔
      (∃ row ∈ s.row, row.enabled = true) ∧ s.last = some true)
  oneRunning : Pool.AtMostOne (PluginInstance.Running platform) s.instances
  owned : ∀ id plugin, s.instances[id]? = some plugin → plugin.Running platform →
    s.active = some id ∨ ∃ call ∈ s.calls, call.stage.Owns id

variable (platform : Platform) (s : ChannelManager)

def NoneRuns : Prop :=
  ∀ plugin ∈ s.instances, ¬ plugin.Running platform

/-- No other call is in the way of the step that a call is at. -/
def Undisturbed (k : Nat) (ok : Bool) : ManagerStage → Prop
  | .getAllPlugins => ok = true → (∃ row ∈ s.row, row.enabled = true) → s.active = none
  | .stopPlugin => ∀ other ∈ s.calls, other.stage ≠ .returning true
  | .initializePlugin _ => ok = true → platform.type.spawnsEarly = true → NoneRuns platform s
  | .startPlugin _ => ok = true → platform.type.spawnsEarly = false → NoneRuns platform s
  | .updateRunning _ =>
    if ok then ∀ other ∈ s.calls.eraseIdx k, ¬ other.stage.UnderWay
    else platform.type.endsWhenDropped = true
  | .updateDisabled => ok = true → ∀ other ∈ s.calls, ¬ other.stage.BringsUp
  | _ => True

def Orderly : Event → Prop
  | .call _ => True
  | .step k ok => ∀ call ∈ s.calls[k]?, Undisturbed platform s k ok call.stage

instance : Decidable (NoneRuns platform s) :=
  inferInstanceAs (Decidable (∀ plugin ∈ s.instances, _))

instance (k : Nat) (ok : Bool) (stage : ManagerStage) :
    Decidable (Undisturbed platform s k ok stage) := by
  unfold Undisturbed
  split <;> infer_instance

instance : (event : Event) → Decidable (Orderly platform s event)
  | .call _ => .isTrue trivial
  | .step k ok => inferInstanceAs
      (Decidable (∀ call ∈ s.calls[k]?, Undisturbed platform s k ok call.stage))

/-- What an instance has behind it at the stage of its call. -/
def Prepared (plugin : PluginInstance) : ManagerStage → Prop
  | .initializePlugin _ => plugin.begun = false
  | .startPlugin _ => plugin.begun = platform.type.spawnsEarly
  | .updateRunning _ => plugin.begun = true ∧ plugin.started = true
  | _ => True

/-- What carries `PluginLaw` from step to step. -/
structure Tracked (platform : Platform) (s : ChannelManager) : Prop where
  oneRunning : Pool.AtMostOne (PluginInstance.Running platform) s.instances
  owned : ∀ id plugin, s.instances[id]? = some plugin → plugin.Running platform →
    s.active = some id ∨ ∃ call ∈ s.calls, call.stage.Owns id
  active : ∀ id, s.active = some id →
    (∃ plugin, s.instances[id]? = some plugin ∧ plugin.Running platform ∧ plugin.started = true) ∧
      ∃ row ∈ s.row, row.enabled = true
  hands : ∀ call ∈ s.calls, ∀ id, call.stage.Owns id → s.active ≠ some id ∧
    ∃ plugin, s.instances[id]? = some plugin ∧ plugin.stopped = false ∧ plugin.dropped = false ∧
      Prepared platform plugin call.stage
  apart : ∀ id, Pool.AtMostOne (fun call => call.stage.Owns id) s.calls
  enabled : ∀ call ∈ s.calls, call.stage.BringsUp → ∃ row ∈ s.row, row.enabled = true
  alone : ∀ call ∈ s.calls, call.stage.UnderWay → call.stage ≠ .returning true → s.active = none
  returning : ∀ call ∈ s.calls, call.stage = .returning true → s.active ≠ none
  up : s.active ≠ none → (∃ call ∈ s.calls, call.stage = .returning true) ∨ s.last = some true
  down : s.active = none → s.last = some true → ∃ call ∈ s.calls, call.stage.UnderWay

variable {platform : Platform} {s : ChannelManager} {k id : Nat} {ok up : Bool} {call : ManagerCall}
  {stage : ManagerStage} {event : Event}

lemma Tracked.law (h : Tracked platform s) : PluginLaw platform s where
  settled finished := by
    constructor
    · rintro ⟨plugin, mem, running, _⟩
      obtain ⟨id, found⟩ := List.mem_iff_getElem?.mp mem
      obtain active | ⟨call, there, owns⟩ := h.owned id plugin found running
      · obtain ⟨_, enabled⟩ := h.active id active
        refine ⟨enabled, ?_⟩
        obtain ⟨call, there, returning⟩ | up := h.up (by rw [active]; exact nofun)
        · exact nomatch (finished call there).symm.trans returning
        · exact up
      · rw [finished call there] at owns
        cases owns
    · rintro ⟨_, last⟩
      cases active : s.active with
      | none =>
        obtain ⟨call, there, underWay⟩ := h.down active last
        rw [finished call there] at underWay
        cases underWay
      | some id =>
        obtain ⟨⟨plugin, found, running⟩, _⟩ := h.active id active
        exact ⟨plugin, List.mem_of_getElem? found, running⟩
  oneRunning := h.oneRunning
  owned := h.owned

lemma Tracked.others (h : Tracked platform s) (there : s.calls[k]? = some call) {n : Nat}
    {other : ManagerCall} (there' : s.calls[n]? = some other) (ne : n ≠ k)
    (owns : other.stage.Owns id) : ¬ call.stage.Owns id :=
  fun own => ne (h.apart id n k other call there' there owns own)

lemma Tracked.inactive (h : Tracked platform s) (there : s.calls[k]? = some call)
    (own : call.stage.Owns id) : s.active = none := by
  refine h.alone call (List.mem_of_getElem? there) (bringsUp_underWay (owns_bringsUp own)) fun same => ?_
  rw [same] at own
  exact own

lemma Tracked.prepared (h : Tracked platform s) (there : s.calls[k]? = some call)
    (own : call.stage.Owns id) {plugin : PluginInstance} (found : s.instances[id]? = some plugin) :
    Prepared platform plugin call.stage := by
  obtain ⟨_, mine, foundMine, _, _, prepared⟩ := h.hands call (List.mem_of_getElem? there) id own
  rw [found] at foundMine
  cases foundMine
  exact prepared

/-- A call gives up its instance, if it had one, and goes on to a stage without any; it may return. -/
lemma Tracked.plain (h : Tracked platform s) (there : s.calls[k]? = some call) (stage : ManagerStage)
    (last' : Option Bool) (instances' : List PluginInstance)
    (kept : ∀ id, ¬ call.stage.Owns id → instances'[id]? = s.instances[id]?)
    (quiet : ∀ id plugin, call.stage.Owns id → instances'[id]? = some plugin → ¬ plugin.Running platform)
    (plain : stage.Plain) (alone : stage.UnderWay → s.active = none)
    (up : s.active ≠ none → last' = some true ∨ last' = s.last ∧ call.stage ≠ .returning true)
    (down : s.active = none → last' = some true →
      s.last = some true ∧ (call.stage.UnderWay → stage.UnderWay)) :
    Tracked platform { s with
      instances := instances', calls := s.calls.set k { call with stage }, last := last' } := by
  have before : ∀ id plugin, instances'[id]? = some plugin → plugin.Running platform →
      s.instances[id]? = some plugin ∧ ¬ call.stage.Owns id := by
    intro id plugin found running
    have own : ¬ call.stage.Owns id := fun own => quiet id plugin own found running
    exact ⟨(kept id own).symm.trans found, own⟩
  exact {
    oneRunning := fun i j a b foundA foundB runA runB =>
      h.oneRunning i j a b (before i a foundA runA).1 (before j b foundB runB).1 runA runB
    owned := by
      intro id plugin found running
      obtain ⟨found', notOwn⟩ := before id plugin found running
      refine (h.owned id plugin found' running).imp_right fun others => ?_
      exact (Pool.exists_of_set there others).resolve_left notOwn
    active := by
      intro id active
      obtain ⟨⟨plugin, found, running⟩, enabled⟩ := h.active id active
      refine ⟨⟨plugin, ?_, running⟩, enabled⟩
      rw [← found]
      exact kept id fun own => (h.hands call (List.mem_of_getElem? there) id own).1 active
    hands := by
      intro other mem id owns
      obtain ⟨n, found⟩ := List.mem_iff_getElem?.mp mem
      rw [List.getElem?_set] at found
      split_ifs at found with here
      · cases found
        exact absurd owns (plain_free plain id)
      · obtain ⟨apart, plugin, found', known⟩ := h.hands other (List.mem_of_getElem? found) id owns
        refine ⟨apart, plugin, ?_, known⟩
        rw [← found']
        exact kept id (h.others there found (Ne.symm here) owns)
    apart := fun id => (h.apart id).set fun owns => absurd owns (plain_free plain id)
    enabled := Pool.forall_set h.enabled fun brings => absurd brings plain.1
    alone := Pool.forall_set h.alone fun underWay _ => alone underWay
    returning := Pool.forall_set h.returning fun returning => absurd returning plain.2
    up := by
      intro active
      obtain last | ⟨same, notReturning⟩ := up active
      · exact .inr last
      · refine (h.up active).imp (fun others => ?_) fun last => same.trans last
        exact (Pool.exists_of_set there others).resolve_left notReturning
    down := by
      intro active last
      obtain ⟨last', still⟩ := down active last
      obtain own | others := Pool.exists_of_set there (h.down active last')
      · exact ⟨_, Pool.mem_set_self there, still own⟩
      · exact others }

section

variable (h : Tracked platform s)
include h

lemma Tracked.letGo (there : s.calls[k]? = some call) (stage : ManagerStage)
    (quiet : ∀ id plugin, call.stage.Owns id → s.instances[id]? = some plugin → ¬ plugin.Running platform)
    (plain : stage.Plain) (alone : stage.UnderWay → s.active = none)
    (notReturning : call.stage ≠ .returning true) (still : call.stage.UnderWay → stage.UnderWay) :
    Tracked platform (s.move k call stage) :=
  h.plain there stage s.last s.instances (fun _ _ => rfl) quiet plain alone
    (fun _ => .inr ⟨rfl, notReturning⟩) fun _ last => ⟨last, still⟩

lemma Tracked.move (there : s.calls[k]? = some call) (plain : call.stage.Plain)
    (stage : ManagerStage) (plain' : stage.Plain) (alone : stage.UnderWay → s.active = none)
    (still : call.stage.UnderWay → stage.UnderWay) : Tracked platform (s.move k call stage) :=
  h.letGo there stage (fun id _ owns => absurd owns (plain_free plain id)) plain' alone plain.2 still

lemma Tracked.giveUp (there : s.calls[k]? = some call) (plain : call.stage.Plain)
    (none_ : s.active = none) : Tracked platform (s.complete k call false) :=
  h.plain there .finished (some false) s.instances (fun _ _ => rfl)
    (fun id _ owns => absurd owns (plain_free plain id)) (by decide) (fun _ => none_)
    (fun active => absurd none_ active) fun _ last => nomatch last

lemma Tracked.withRow (row : Option ChannelPluginRow)
    (keeps : (∃ row' ∈ s.row, row'.enabled = true) → (∃ row' ∈ row, row'.enabled = true) ∨
      s.active = none ∧ ∀ call ∈ s.calls, ¬ call.stage.BringsUp) :
    Tracked platform { s with row } where
  oneRunning := h.oneRunning
  owned := h.owned
  active id active := by
    obtain ⟨plugin, enabled⟩ := h.active id active
    refine ⟨plugin, (keeps enabled).resolve_right fun idle => ?_⟩
    exact nomatch idle.1.symm.trans active
  hands := h.hands
  apart := h.apart
  enabled call mem brings :=
    (keeps (h.enabled call mem brings)).resolve_right fun idle => idle.2 call mem brings
  alone := h.alone
  returning := h.returning
  up := h.up
  down := h.down

lemma Tracked.setRow (row : ChannelPluginRow)
    (keeps : row.enabled = true ∨ s.active = none ∧ ∀ call ∈ s.calls, ¬ call.stage.BringsUp) :
    Tracked platform (s.setRow row) :=
  h.withRow (some row) fun _ => keeps.imp_left fun enabled => ⟨row, rfl, enabled⟩

lemma Tracked.updatePluginError : Tracked platform (s.updatePluginError ok) := by
  refine h.withRow _ fun ⟨row, there, enabled⟩ => .inl ?_
  cases ok with
  | false => exact ⟨row, there, enabled⟩
  | true => exact ⟨_, Option.mem_map_of_mem _ there, enabled⟩

end

lemma owns_unique {id' : Nat} (owns : stage.Owns id) (owns' : stage.Owns id') : id = id' := by
  cases stage <;> first | exact owns.symm.trans owns' | exact owns.elim

lemma getElem?_change {f : PluginInstance → PluginInstance} {id' : Nat} {plugin : PluginInstance}
    (found : (s.change id f).instances[id']? = some plugin) :
    ∃ plugin', s.instances[id']? = some plugin' ∧ plugin = if id = id' then f plugin' else plugin' := by
  rw [change, List.getElem?_modify, Option.map_eq_map, Option.map_eq_some_iff] at found
  obtain ⟨plugin', found, rfl⟩ := found
  exact ⟨plugin', found, by split <;> rfl⟩

lemma getElem?_change_of (id : Nat) (f : PluginInstance → PluginInstance) {id' : Nat}
    {plugin : PluginInstance} (found : s.instances[id']? = some plugin) :
    (s.change id f).instances[id']? = some (if id = id' then f plugin else plugin) := by
  rw [change, List.getElem?_modify, found]
  split <;> rfl

section

variable (h : Tracked platform s)
include h

variable (there : s.calls[k]? = some call)
include there

/-- A call goes on with the instance in its hands, which starts to run only while no other does. -/
lemma Tracked.prepare (own : call.stage.Owns id)
    (own' : stage.Owns id) (f : PluginInstance → PluginInstance)
    (keeps : ∀ plugin, (f plugin).stopped = plugin.stopped ∧ (f plugin).dropped = plugin.dropped)
    (prepared : ∀ plugin, Prepared platform plugin call.stage → Prepared platform (f plugin) stage)
    (alone : NoneRuns platform s ∨ ∀ plugin, Prepared platform plugin call.stage →
      (f plugin).Running platform → plugin.Running platform) :
    Tracked platform ((s.change id f).move k call stage) := by
  obtain ⟨inactive, mine, foundMine, unstopped, undropped, preparedMine⟩ :=
    h.hands call (List.mem_of_getElem? there) id own
  -- What runs now ran before, or it is the one that has just started.
  have before : ∀ id' plugin, (s.change id f).instances[id']? = some plugin → plugin.Running platform →
      (∃ plugin', s.instances[id']? = some plugin' ∧ plugin'.Running platform) ∨
        id' = id ∧ NoneRuns platform s := by
    intro id' plugin found running
    obtain ⟨plugin', found', rfl⟩ := getElem?_change found
    split_ifs at running with here
    · subst here
      rw [foundMine] at found'
      cases found'
      obtain none_ | ran := alone
      · exact .inr ⟨rfl, none_⟩
      · exact .inl ⟨mine, foundMine, ran mine preparedMine running⟩
    · exact .inl ⟨plugin', found', running⟩
  exact {
    oneRunning := by
      intro i j a b foundA foundB runA runB
      obtain ⟨a', foundA', runA'⟩ | ⟨rfl, none_⟩ := before i a foundA runA <;>
        obtain ⟨b', foundB', runB'⟩ | ⟨rfl, none_'⟩ := before j b foundB runB
      · exact h.oneRunning i j a' b' foundA' foundB' runA' runB'
      · exact absurd runA' (none_' a' (List.mem_of_getElem? foundA'))
      · exact absurd runB' (none_ b' (List.mem_of_getElem? foundB'))
      · rfl
    owned := by
      intro id' plugin found running
      obtain ⟨plugin', found', running'⟩ | ⟨rfl, _⟩ := before id' plugin found running
      · refine (h.owned id' plugin' found' running').imp_right fun others => ?_
        obtain own'' | others := Pool.exists_of_set there others
        · obtain rfl := owns_unique own own''
          exact ⟨_, Pool.mem_set_self there, own'⟩
        · exact others
      · exact .inr ⟨_, Pool.mem_set_self there, own'⟩
    active := by
      intro id' active
      obtain ⟨⟨plugin, found, running⟩, enabled⟩ := h.active id' active
      refine ⟨⟨plugin, ?_, running⟩, enabled⟩
      have found' := getElem?_change_of id f found
      rwa [if_neg (by rintro rfl; exact inactive active)] at found'
    hands := by
      intro other mem id' owns
      obtain ⟨n, found⟩ := List.mem_iff_getElem?.mp mem
      rw [ChannelManager.move, List.getElem?_set] at found
      split_ifs at found with here
      · cases found
        obtain rfl := owns_unique own' owns
        have found' := getElem?_change_of id f foundMine
        rw [if_pos rfl] at found'
        exact ⟨inactive, f mine, found', (keeps mine).1.trans unstopped, (keeps mine).2.trans undropped,
          prepared mine preparedMine⟩
      · obtain ⟨apart, plugin, found', known⟩ := h.hands other (List.mem_of_getElem? found) id' owns
        refine ⟨apart, plugin, ?_, known⟩
        have found'' := getElem?_change_of id f found'
        rwa [if_neg (by rintro rfl; exact h.others there found (Ne.symm here) owns own)] at found''
    apart := by
      intro id'
      by_cases same : id = id'
      · exact same ▸ (h.apart id).set_own there own
      · exact (h.apart id').set fun owns => absurd (owns_unique own' owns) same
    enabled := Pool.forall_set h.enabled fun _ =>
      h.enabled call (List.mem_of_getElem? there) (owns_bringsUp own)
    alone := Pool.forall_set h.alone fun _ _ => h.inactive there own
    returning := Pool.forall_set h.returning fun returning => by
      rw [show stage = _ from returning] at own'
      exact own'.elim
    up := by
      intro active
      refine (h.up active).imp_left fun others => ?_
      refine (Pool.exists_of_set there others).resolve_left fun same => ?_
      rw [same] at own
      exact own
    down := fun active last => by
      obtain _ | others := Pool.exists_of_set there (h.down active last)
      · exact ⟨_, Pool.mem_set_self there, bringsUp_underWay (owns_bringsUp own')⟩
      · exact others }

/-- The running instance is stopped, after the call that put it there has returned. -/
lemma Tracked.stopPlugin
    (own : call.stage = .stopPlugin) (returned : ∀ other ∈ s.calls, other.stage ≠ .returning true)
    (stage : ManagerStage) (plain : stage.Plain) (underWay : stage.UnderWay) :
    Tracked platform (s.stopPlugin.move k call stage) := by
  rw [ChannelManager.stopPlugin]
  cases active : s.active with
  | none =>
    exact h.move there (by rw [own]; decide) stage plain (fun _ => active) fun _ => underWay
  | some id =>
    have before : ∀ (id' : Nat) (plugin : PluginInstance),
        (s.change id fun plugin => { plugin with stopped := true }).instances[id']? = some plugin →
        plugin.Running platform → s.instances[id']? = some plugin ∧ id ≠ id' := by
      intro id' plugin found running
      obtain ⟨plugin', found', rfl⟩ := getElem?_change found
      split_ifs at running with here
      · exact nomatch running.2.1
      · rw [if_neg here]
        exact ⟨found', here⟩
    exact {
      oneRunning := fun i j a b foundA foundB runA runB =>
        h.oneRunning i j a b (before i a foundA runA).1 (before j b foundB runB).1 runA runB
      owned := by
        intro id' plugin found running
        obtain ⟨found', ne⟩ := before id' plugin found running
        obtain active' | others := h.owned id' plugin found' running
        · rw [active] at active'
          exact absurd (Option.some.inj active') ne
        · refine .inr ((Pool.exists_of_set there others).resolve_left fun owns => ?_)
          rw [own] at owns
          exact owns
      active := nofun
      hands := by
        refine Pool.forall_set (fun other mem id' owns => ⟨nofun, ?_⟩) fun id' owns =>
          absurd owns (plain_free plain id')
        obtain ⟨apart, plugin, found, known⟩ := h.hands other mem id' owns
        refine ⟨plugin, ?_, known⟩
        have found' := getElem?_change_of id (fun plugin => { plugin with stopped := true }) found
        rwa [if_neg (by rintro rfl; exact apart active)] at found'
      apart := fun id' => (h.apart id').set fun owns => absurd owns (plain_free plain id')
      enabled := Pool.forall_set h.enabled fun brings => absurd brings plain.1
      alone := fun _ _ _ _ => rfl
      returning := Pool.forall_set (fun other mem returning => absurd returning (returned other mem))
        fun returning => absurd returning plain.2
      up := fun absent => absurd rfl absent
      down := fun _ _ => ⟨_, Pool.mem_set_self there, underWay⟩ }

/-- A call makes an instance, for an enabled row and while nothing is active. -/
lemma Tracked.newInstance
    (plain : call.stage.Plain) (none_ : s.active = none) (enabled : ∃ row ∈ s.row, row.enabled = true) :
    Tracked platform (s.newInstance.move k call (.initializePlugin s.instances.length)) := by
  have before : ∀ (id : Nat) (plugin : PluginInstance), s.newInstance.instances[id]? = some plugin →
      plugin.Running platform → s.instances[id]? = some plugin := by
    intro id plugin found running
    obtain found | ⟨_, rfl⟩ := Pool.getElem?_append_some found
    · exact found
    · exact nomatch running.1
  have more : ∀ (id : Nat) plugin, s.instances[id]? = some plugin →
      s.newInstance.instances[id]? = some plugin :=
    fun id plugin found => by
      rw [ChannelManager.newInstance,
        List.getElem?_append_left (List.getElem?_eq_some_iff.mp found).1, found]
  exact {
    oneRunning := fun i j a b foundA foundB runA runB =>
      h.oneRunning i j a b (before i a foundA runA) (before j b foundB runB) runA runB
    owned := by
      intro id plugin found running
      refine (h.owned id plugin (before id plugin found running) running).imp_right fun others => ?_
      exact (Pool.exists_of_set there others).resolve_left (plain_free plain id)
    active := fun id active => nomatch none_.symm.trans active
    hands := by
      refine Pool.forall_set (fun other mem id owns => ?_) fun id owns => ⟨?_, ?_⟩
      · obtain ⟨apart, plugin, found, known⟩ := h.hands other mem id owns
        exact ⟨apart, plugin, more id plugin found, known⟩
      · exact fun active => nomatch none_.symm.trans active
      · obtain rfl : s.instances.length = id := owns
        exact ⟨_, List.getElem?_concat_length, rfl, rfl, rfl⟩
    apart := by
      intro id
      refine (h.apart id).set fun owns other mem owns' => ?_
      -- The other ones have instances that were there before.
      obtain rfl : s.instances.length = id := owns
      obtain ⟨_, plugin, found, _⟩ := h.hands other mem _ owns'
      exact absurd (List.getElem?_eq_some_iff.mp found).1 (lt_irrefl _)
    enabled := Pool.forall_set h.enabled fun _ => enabled
    alone := fun _ _ _ _ => none_
    returning := Pool.forall_set h.returning nofun
    up := fun active => absurd none_ active
    down := fun _ _ => ⟨_, Pool.mem_set_self there, trivial⟩ }

/-- The started instance is put into the map, while no other call is under way. -/
lemma Tracked.insert
    (own : call.stage = .updateRunning id) (others : ∀ other ∈ s.calls.eraseIdx k, ¬ other.stage.UnderWay) :
    Tracked platform ((s.insert id).move k call (.returning true)) := by
  have mem := List.mem_of_getElem? there
  have idle : ∀ other ∈ s.calls.set k { call with stage := .returning true },
      other.stage.UnderWay → other.stage = .returning true := by
    intro other mem' underWay
    obtain ⟨n, found⟩ := List.mem_iff_getElem?.mp mem'
    rw [List.getElem?_set] at found
    split_ifs at found with here
    · cases found
      rfl
    · exact absurd underWay (others other (List.mem_eraseIdx_iff_getElem?.mpr ⟨n, Ne.symm here, found⟩))
  have mine : call.stage.Owns id := by rw [own]; exact rfl
  have none_ := h.inactive there mine
  obtain ⟨_, plugin, found, unstopped, undropped, prepared⟩ := h.hands call mem id mine
  rw [own] at prepared
  rw [ChannelManager.insert, none_, Option.elim_none]
  exact {
    oneRunning := h.oneRunning
    owned := by
      intro id' plugin' found' running
      obtain active | others' := h.owned id' plugin' found' running
      · exact nomatch none_.symm.trans active
      · obtain owns | others' := Pool.exists_of_set there others'
        · rw [own] at owns
          exact .inl (congrArg some owns)
        · exact .inr others'
    active := by
      intro id' active
      obtain rfl := Option.some.inj active
      exact ⟨⟨plugin, found, ⟨prepared.1, unstopped, fun dropped => nomatch undropped.symm.trans dropped⟩,
        prepared.2⟩, h.enabled call mem (owns_bringsUp mine)⟩
    hands := by
      intro other mem' id' owns
      rw [idle other mem' (bringsUp_underWay (owns_bringsUp owns))] at owns
      exact owns.elim
    apart := fun id' => (h.apart id').set nofun
    enabled := Pool.forall_set h.enabled nofun
    alone := fun other mem' underWay waits => absurd (idle other mem' underWay) waits
    returning := fun _ _ _ => nofun
    up := fun _ => .inl ⟨_, Pool.mem_set_self there, rfl⟩
    down := nofun }

lemma Tracked.returned
    (own : call.stage = .returning up) : Tracked platform (s.complete k call up) := by
  cases up with
  | false =>
    have plain : call.stage.Plain := by rw [own]; decide
    have underWay : call.stage.UnderWay := by rw [own]; exact trivial
    exact h.giveUp there plain (h.alone call (List.mem_of_getElem? there) underWay plain.2)
  | true =>
    refine h.plain there .finished (some true) s.instances (fun _ _ => rfl) (fun id _ owns => ?_)
      (by decide) (fun underWay => underWay.elim) (fun _ => .inl rfl) fun none_ => ?_
    · rw [own] at owns
      exact owns.elim
    · exact absurd none_ (h.returning call (List.mem_of_getElem? there) own)

lemma Tracked.drop
    (own : call.stage = .updateRunning id) (ends : platform.type.endsWhenDropped = true) :
    Tracked platform ((s.drop id).move k call .updateError) ∧
      Tracked platform ((s.drop id).complete k call false) := by
  have mine : call.stage.Owns id := by rw [own]; exact rfl
  have none_ := h.inactive there mine
  have kept : ∀ id', ¬ call.stage.Owns id' → (s.drop id).instances[id']? = s.instances[id']? := by
    intro id' notOwn
    have elsewhere : id ≠ id' := fun here => notOwn (by rw [own]; exact here)
    rw [ChannelManager.drop, change, List.getElem?_modify_ne _ _ elsewhere]
  have quiet : ∀ id' plugin, call.stage.Owns id' → (s.drop id).instances[id']? = some plugin →
      ¬ plugin.Running platform := by
    intro id' plugin owns found running
    rw [own] at owns
    obtain ⟨plugin', _, rfl⟩ := getElem?_change found
    obtain rfl : id = id' := owns
    rw [if_pos rfl] at running
    exact nomatch ends.symm.trans (running.2.2 rfl)
  constructor
  · exact h.plain there .updateError s.last _ kept quiet (by decide) (fun _ => none_)
      (fun active => absurd none_ active) fun _ last => ⟨last, fun _ => trivial⟩
  · exact h.plain there .finished (some false) _ kept quiet (by decide) (fun underWay => underWay.elim)
      (fun active => absurd none_ active) fun _ last => nomatch last

end

lemma Tracked.advance (h : Tracked platform s) (there : s.calls[k]? = some call)
    (holds : Undisturbed platform s k ok call.stage) : Tracked platform (advance platform s k call ok) := by
  have mem := List.mem_of_getElem? there
  obtain ⟨request, stage⟩ := call
  cases stage with
  | resolveConfig =>
    unfold ChannelManager.advance
    dsimp only
    split_ifs <;> exact h.move there ⟨id, nofun⟩ _ (by decide) (fun underWay => underWay.elim) id
  | getAllPlugins =>
    unfold ChannelManager.advance
    dsimp only
    split_ifs with succeeds enabled implemented
    · exact h.newInstance there ⟨id, nofun⟩ (holds succeeds enabled) enabled
    · exact h.move there ⟨id, nofun⟩ _ (by decide) (fun _ => holds succeeds enabled) fun _ => trivial
    · refine h.giveUp there ⟨id, nofun⟩ ?_
      by_contra active
      obtain ⟨id, active⟩ := Option.ne_none_iff_exists'.mp active
      exact enabled (h.active id active).2
    · exact h.move there ⟨id, nofun⟩ _ (by decide) (fun underWay => underWay.elim) id
  | collectKeys =>
    unfold ChannelManager.advance
    dsimp only
    split_ifs with active
    · exact h.move there ⟨id, nofun⟩ _ (by decide) (fun underWay => underWay.elim) id
    · exact h.move there ⟨id, nofun⟩ _ (by decide) (fun _ => Option.not_isSome_iff_eq_none.mp active)
        fun _ => trivial
  | stopPlugin => cases request <;> exact h.stopPlugin there rfl holds _ (by decide) trivial
  | upsertPlugin =>
    have none_ := h.alone _ mem trivial nofun
    have row := h.setRow { enabled := true, status := .created } (.inl rfl)
    unfold ChannelManager.advance
    dsimp only
    split_ifs with succeeds implemented
    · exact row.newInstance there ⟨id, nofun⟩ none_ ⟨_, rfl, rfl⟩
    · exact row.giveUp there ⟨id, nofun⟩ none_
    · exact h.giveUp there ⟨id, nofun⟩ none_
  | initializePlugin id =>
    unfold ChannelManager.advance
    dsimp only
    split_ifs with succeeds
    · refine h.prepare there rfl (by exact rfl) _ (fun _ => ⟨rfl, rfl⟩) (fun _ _ => rfl) ?_
      cases early : platform.type.spawnsEarly with
      | true => exact .inl (holds succeeds early)
      | false => exact .inr fun plugin _ running => nomatch running.1
    · refine h.letGo there _ (fun id' plugin owns found running => ?_) (by decide)
        (fun _ => h.inactive there rfl) nofun fun _ => trivial
      exact nomatch running.1.symm.trans (h.prepared there owns found)
  | startPlugin id =>
    unfold ChannelManager.advance
    dsimp only
    split_ifs with succeeds
    · refine h.prepare there rfl (by exact rfl) _ (fun _ => ⟨rfl, rfl⟩) (fun _ _ => ⟨rfl, rfl⟩) ?_
      cases early : platform.type.spawnsEarly with
      | true => exact .inr fun plugin begun running => ⟨begun.trans early, running.2⟩
      | false =>
        rw [early, Bool.or_false] at succeeds
        exact .inl (holds succeeds early)
    · refine h.letGo there _ (fun id' plugin owns found running => ?_) (by decide)
        (fun _ => h.inactive there rfl) nofun fun _ => trivial
      have begun : plugin.begun = platform.type.spawnsEarly := h.prepared there owns found
      rw [Bool.or_eq_true, not_or] at succeeds
      exact succeeds.2 (begun.symm.trans running.1)
  | updateRunning id =>
    obtain ⟨row, there', enabled⟩ := h.enabled _ mem trivial
    cases ok with
    | true =>
      rw [ChannelManager.advance, there']
      exact (h.setRow { row with status := .running } (.inl enabled)).insert there rfl holds
    | false =>
      obtain ⟨failed, completed⟩ := h.drop there rfl holds
      unfold ChannelManager.advance
      dsimp only
      split
      · contradiction
      · split_ifs
        · exact failed
        · exact completed
  | updateError =>
    exact h.updatePluginError.move there ⟨id, nofun⟩ _ (by decide)
      (fun _ => h.updatePluginError.alone _ mem trivial nofun) fun _ => trivial
  | updateDisabled =>
    have none_ := h.alone _ mem trivial nofun
    unfold ChannelManager.advance
    dsimp only
    split_ifs with succeeds
    · rw [Bool.and_eq_true] at succeeds
      exact (h.setRow _ (.inr ⟨none_, holds succeeds.1⟩)).move there ⟨id, nofun⟩ _ (by decide)
        (fun _ => none_) fun _ => trivial
    · exact h.giveUp there ⟨id, nofun⟩ none_
  | returning up => exact h.returned there rfl
  | finished => exact h

lemma Tracked.arrive (h : Tracked platform s) (request : ManagerRequest) :
    Tracked platform (next platform s (.call request)) := by
  have idle : ¬ (firstStage request).UnderWay := by cases request <;> exact fun underWay => underWay
  have waits : firstStage request ≠ .returning true := fun same => idle (by rw [same]; exact trivial)
  have grows : ∀ P : ManagerCall → Prop, (∃ call ∈ s.calls, P call) →
      ∃ call ∈ s.calls ++ [{ request, stage := firstStage request }], P call :=
    fun P ⟨call, there, holds⟩ => ⟨call, List.mem_append_left _ there, holds⟩
  exact {
    oneRunning := h.oneRunning
    owned := fun id plugin found running => (h.owned id plugin found running).imp_right (grows _)
    active := h.active
    hands := Pool.forall_append h.hands fun id owns =>
      absurd (bringsUp_underWay (owns_bringsUp owns)) idle
    apart := fun id => (h.apart id).append fun owns => absurd (bringsUp_underWay (owns_bringsUp owns)) idle
    enabled := Pool.forall_append h.enabled fun brings => absurd (bringsUp_underWay brings) idle
    alone := Pool.forall_append h.alone fun underWay => absurd underWay idle
    returning := Pool.forall_append h.returning fun returning => absurd returning waits
    up := fun active => (h.up active).imp_left (grows _)
    down := fun active last => grows _ (h.down active last) }

lemma Tracked.next (h : Tracked platform s) (orderly : Orderly platform s event) :
    Tracked platform (next platform s event) := by
  cases event with
  | call request => exact h.arrive request
  | step k ok =>
    rw [ChannelManager.next]
    cases there : s.calls[k]? with
    | none => exact h
    | some call => exact h.advance there (orderly call there)

lemma Tracked.start (row : Option ChannelPluginRow) : Tracked platform (start row) where
  oneRunning := .nil
  owned _ _ found := nomatch found
  active _ active := nomatch active
  hands := List.forall_mem_nil _
  apart _ := .nil
  enabled := List.forall_mem_nil _
  alone := List.forall_mem_nil _
  returning := List.forall_mem_nil _
  up absent := absurd rfl absent
  down _ := nofun

/-- In every run whose calls are orderly, for every plugin and row at the start, the plugin has one
life. -/
theorem one_life (platform : Platform) (row : Option ChannelPluginRow) (events : List Event)
    (orderly : LTS.EnabledAll (Orderly platform) (next platform) (start row) events) :
    LTS.Throughout (next platform) (PluginLaw platform) (start row) events := by
  apply LTS.throughout_iff.mpr
  refine ⟨(Tracked.start row).law, ?_⟩
  refine orderly.imp (Q := Tracked platform) (fun s event h holds => ?_) (.start row)
  exact ⟨(h.next holds).law, h.next holds⟩

/-- A WeChat plugin is restored and enabled anew while a shutdown is about to stop it; an enable that
fails to initialize follows, and a disable. -/
theorem one_life_enabled : LTS.Throughout (next ⟨.weixin, true⟩) (PluginLaw ⟨.weixin, true⟩)
    (start (some ⟨true, .stopped⟩))
    [.call .restorePlugins, .step 0 true, .step 0 true, .step 0 true, .step 0 true, .step 0 true,
      .call .shutdownForUser, .step 1 true, .call .enablePlugin, .step 2 true, .step 2 true, .step 2 true,
      .step 2 true, .step 2 true, .step 2 true, .step 2 true, .step 1 true, .step 1 true,
      .call .enablePlugin, .step 3 true, .step 3 true, .step 3 true, .step 3 false, .step 3 true,
      .step 3 true,
      .call .disablePlugin, .step 4 true, .step 4 true, .step 4 true] :=
  one_life _ _ _ (by decide)

/-- Two enables that overlap start an instance each. -/
theorem two_instances_running : ¬ LTS.Throughout (next ⟨.telegram, true⟩) (PluginLaw ⟨.telegram, true⟩)
    (start none)
    [.call .enablePlugin, .call .enablePlugin, .step 0 true, .step 0 true, .step 1 true, .step 1 true,
      .step 0 true, .step 0 true, .step 0 true, .step 1 true, .step 1 true, .step 1 true] := by
  intro h
  exact absurd (h.last.oneRunning 0 1 ⟨true, true, false, false⟩ ⟨true, true, false, false⟩
    (by decide) (by decide) (by decide) (by decide)) (by decide)

end ChannelManager

end KiCore.Channel

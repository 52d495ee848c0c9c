/-
**From the agent's messages to published resources.**

Three goroutines pass values on unbuffered channels: the topology watch hands snapshots to the
profile, which hands resources to the driver. `Pipeline.step` is one step of any of them, or of a
`Prepare` call that holds the driver's lock; a hand-over is one step of both sides. Of a startup only
the first publication can fail here; `Process` has the other failures.

* `Pipeline.held`, `Pipeline.pending`, `Pipeline.offered` — what is on its way between the stages.
* **`Flow`** — every usable snapshot taken is applied, on its way or installed, in order; what was
  published are the changes of what was installed.
* **`run_flow`** — this holds in every state of every run.
-/

import DraDriver.Base.Changes
import DraDriver.FabricManager.Watch
import DraDriver.Plugin.Runs
import DraDriver.Tenstorrent.Edits

namespace DraDriver.Plugin

open DraDriver.Base DraDriver.FabricManager DraDriver.Profiles DraDriver.Tenstorrent

variable {Config : Type}

/-! ### The goroutines -/

/-- Where `deviceWatch.run` is. -/
inductive ProfileStage
  /-- In the `range` over the snapshots. -/
  | idle
  /-- With a usable snapshot, before `applyTopology` installs its table. -/
  | holding (topo : HostPhysicalTopology)
  /-- In the `select` that hands the resources over. -/
  | offering (resources : DriverResources)
  /-- It has returned; a shutdown drops what it was offering. -/
  | finished (dropped : Option DriverResources)

/-- Where `NewDriver` and then `republishDevices` are. -/
inductive DriverStage
  /-- In `waitForInitialDevices`. -/
  | starting
  /-- With the first resources, before `NewDeviceState` returns. -/
  | building (resources : DriverResources)
  /-- In the first `PublishResources`. -/
  | announcing
  /-- In the `range` over the resources. -/
  | idle
  /-- With resources, before `SetResources`. -/
  | setting (resources : DriverResources)
  /-- In `PublishResources` after a change. -/
  | publishing (resources : DriverResources)
  | halted

/-- One call of `applyTopology`: its topology, the resources it returned and the table it left. -/
structure Applied where
  topo : HostPhysicalTopology
  resources : DriverResources
  table : GoMap String AllocatableUnit

/-- The three goroutines and the state they share. `prepare` are the results of the `Prepare` call
that holds the driver's lock and has passed the allocatable check; `log` and `installed` record the
calls of `applyTopology` and how many of their resources the driver has installed. -/
structure Pipeline (Config : Type) where
  watch : Watch
  stage : ProfileStage
  profile : Profile
  driver : DriverStage
  state : Option (DeviceState Config)
  prepare : Option (List DeviceRequestAllocationResult)
  published : List DriverResources
  log : List Applied
  installed : ℕ

/-- A step of one goroutine, or a hand-over between two. -/
inductive PipeEvent
  | watch (event : WatchEvent)
  /-- The watch hands a snapshot to the profile. -/
  | take
  /-- `applyTopology`. -/
  | install (rt : Runtime)
  /-- The profile hands resources to the driver. -/
  | hand
  /-- `NewDeviceState`. -/
  | build
  | setResources
  /-- `PublishResources` returns. -/
  | publish (success : Bool)
  /-- A `Prepare` takes the lock and finds its devices allocatable. -/
  | check (results : List DeviceRequestAllocationResult)
  /-- It returns. -/
  | release
  /-- The watch has stopped. -/
  | profileEnds
  | driverEnds

/-- Every device is allocatable. -/
def allAllocatable (state : DeviceState Config) (results : List DeviceRequestAllocationResult) : Bool :=
  results.all fun result => decide (result.device ∈ state.allocatable)

section Steps

variable (c : AgentClient) (config : DriverConfig Config)
  (deepEqual : DriverResources → DriverResources → Bool)

/-- The profile takes a snapshot: one that is not usable is skipped. -/
def Pipeline.taken (s : Pipeline Config) (watch : Watch) (snapshot : Snapshot) : Pipeline Config :=
  match snapshot.usableTopology with
  | some topo => { s with watch := watch, stage := .holding topo }
  | none => { s with watch := watch }

/-- `SetResources`, and what `republishDevices` makes of its answer. -/
def Pipeline.updated (s : Pipeline Config) (state : DeviceState Config) (resources : DriverResources) :
    Pipeline Config :=
  { s with
    state := some (state.setResources deepEqual resources).2
    driver := if (state.setResources deepEqual resources).1 then .publishing resources else .idle
    installed := s.installed + 1 }

/-- One step of one goroutine, or of two at a hand-over; `none` where it cannot be taken. -/
def Pipeline.step (s : Pipeline Config) : PipeEvent → Option (Pipeline Config)
  | .watch event =>
    if event = .forward then none
    else (s.watch.step c event).map fun watch => { s with watch := watch }
  | .take =>
    match s.watch.phase, s.stage with
    | .forwarding snapshot, .idle =>
      (s.watch.step c .forward).map fun watch => s.taken watch snapshot
    | _, _ => none
  | .install rt =>
    match s.stage with
    | .holding topo => some { s with
        stage := .offering (applyTopology rt s.profile topo).1
        profile := (applyTopology rt s.profile topo).2
        log := s.log ++ [⟨topo, (applyTopology rt s.profile topo).1,
          (applyTopology rt s.profile topo).2.unitByDevice⟩] }
    | _ => none
  | .hand =>
    match s.stage, s.driver with
    | .offering resources, .starting => some { s with stage := .idle, driver := .building resources }
    | .offering resources, .idle => some { s with stage := .idle, driver := .setting resources }
    | _, _ => none
  | .build =>
    match s.driver with
    | .building resources => some { s with
        driver := .announcing
        state := some (initialState config resources)
        installed := s.installed + 1 }
    | _ => none
  | .setResources =>
    match s.driver, s.state, s.prepare with
    | .setting resources, some state, none => some (s.updated deepEqual state resources)
    | _, _, _ => none
  | .publish success =>
    match s.driver, s.state with
    | .announcing, some state => some { s with
        driver := if success then .idle else .halted
        published := s.published ++ [state.driverResources] }
    | .publishing resources, _ => some { s with
        driver := if success then .idle else .halted
        published := s.published ++ [resources] }
    | _, _ => none
  | .check results =>
    match s.state, s.prepare with
    | some state, none =>
      if allAllocatable state results then some { s with prepare := some results } else none
    | _, _ => none
  | .release => if s.prepare.isSome then some { s with prepare := none } else none
  | .profileEnds =>
    match s.watch.phase, s.stage, s.watch.parentDone with
    | .stopped _, .idle, _ => some { s with stage := .finished none }
    | _, .offering resources, true => some { s with stage := .finished (some resources) }
    | _, _, _ => none
  | .driverEnds =>
    match s.stage, s.driver with
    | .finished _, .starting => some { s with driver := .halted }
    | .finished _, .idle => some { s with driver := .halted }
    | _, _ => none

/-- What each step does, and when it can be taken. -/
inductive Pipeline.Moves (s : Pipeline Config) : PipeEvent → Pipeline Config → Prop
  | watch {event : WatchEvent} {watch : Watch} (other : event ≠ .forward)
      (inner : s.watch.step c event = some watch) :
    Moves s (.watch event) { s with watch := watch }
  | takeUsable {snapshot : Snapshot} {topo : HostPhysicalTopology} {watch : Watch}
      (phase : s.watch.phase = .forwarding snapshot) (stage : s.stage = .idle)
      (inner : s.watch.step c .forward = some watch) (usable : snapshot.usableTopology = some topo) :
    Moves s .take { s with watch := watch, stage := .holding topo }
  | takeOther {snapshot : Snapshot} {watch : Watch}
      (phase : s.watch.phase = .forwarding snapshot) (stage : s.stage = .idle)
      (inner : s.watch.step c .forward = some watch) (unusable : snapshot.usableTopology = none) :
    Moves s .take { s with watch := watch }
  | install (rt : Runtime) {topo : HostPhysicalTopology} (stage : s.stage = .holding topo) :
    Moves s (.install rt) { s with
      stage := .offering (applyTopology rt s.profile topo).1
      profile := (applyTopology rt s.profile topo).2
      log := s.log ++ [⟨topo, (applyTopology rt s.profile topo).1,
        (applyTopology rt s.profile topo).2.unitByDevice⟩] }
  | handFirst {resources : DriverResources} (stage : s.stage = .offering resources)
      (driver : s.driver = .starting) :
    Moves s .hand { s with stage := .idle, driver := .building resources }
  | handNext {resources : DriverResources} (stage : s.stage = .offering resources)
      (driver : s.driver = .idle) :
    Moves s .hand { s with stage := .idle, driver := .setting resources }
  | build {resources : DriverResources} (driver : s.driver = .building resources) :
    Moves s .build { s with
      driver := .announcing
      state := some (initialState config resources)
      installed := s.installed + 1 }
  | setResources {resources : DriverResources} {state : DeviceState Config}
      (driver : s.driver = .setting resources) (started : s.state = some state)
      (free : s.prepare = none) :
    Moves s .setResources (s.updated deepEqual state resources)
  | announce {success : Bool} {state : DeviceState Config} (driver : s.driver = .announcing)
      (started : s.state = some state) :
    Moves s (.publish success) { s with
      driver := if success then .idle else .halted
      published := s.published ++ [state.driverResources] }
  | publish {success : Bool} {resources : DriverResources} (driver : s.driver = .publishing resources) :
    Moves s (.publish success) { s with
      driver := if success then .idle else .halted
      published := s.published ++ [resources] }
  | check {results : List DeviceRequestAllocationResult} {state : DeviceState Config}
      (started : s.state = some state) (free : s.prepare = none)
      (all : allAllocatable state results = true) :
    Moves s (.check results) { s with prepare := some results }
  | release (held : s.prepare.isSome = true) : Moves s .release { s with prepare := none }
  | profileStops {err : Option StreamError} (phase : s.watch.phase = .stopped err)
      (stage : s.stage = .idle) :
    Moves s .profileEnds { s with stage := .finished none }
  | profileDrops {resources : DriverResources} (stage : s.stage = .offering resources)
      (done : s.watch.parentDone = true) :
    Moves s .profileEnds { s with stage := .finished (some resources) }
  | driverEnds {dropped : Option DriverResources} (stage : s.stage = .finished dropped)
      (driver : s.driver = .starting ∨ s.driver = .idle) :
    Moves s .driverEnds { s with driver := .halted }

/-- **Every step is one of these.** -/
theorem Pipeline.moves {c : AgentClient} {config : DriverConfig Config}
    {deepEqual : DriverResources → DriverResources → Bool} {s s' : Pipeline Config}
    {event : PipeEvent} (moved : s.step c config deepEqual event = some s') :
    s.Moves c config deepEqual event s' := by
  cases event with
  | watch event =>
    simp only [Pipeline.step] at moved
    split at moved
    next => cases moved
    next other =>
      obtain ⟨watch, inner, rfl⟩ := Option.map_eq_some_iff.mp moved
      exact .watch other inner
  | take =>
    simp only [Pipeline.step] at moved
    split at moved
    next snapshot phase stage =>
      obtain ⟨watch, inner, rfl⟩ := Option.map_eq_some_iff.mp moved
      unfold Pipeline.taken
      split
      next topo usable => exact .takeUsable phase stage inner usable
      next unusable => exact .takeOther phase stage inner unusable
    next => cases moved
  | install rt =>
    simp only [Pipeline.step] at moved
    split at moved
    next topo stage =>
      cases moved
      exact .install rt stage
    next => cases moved
  | hand =>
    simp only [Pipeline.step] at moved
    split at moved
    next stage driver =>
      cases moved
      exact .handFirst stage driver
    next stage driver =>
      cases moved
      exact .handNext stage driver
    next => cases moved
  | build =>
    simp only [Pipeline.step] at moved
    split at moved
    next driver =>
      cases moved
      exact .build driver
    next => cases moved
  | setResources =>
    simp only [Pipeline.step] at moved
    split at moved
    next driver started free =>
      cases moved
      exact .setResources driver started free
    next => cases moved
  | publish success =>
    simp only [Pipeline.step] at moved
    split at moved
    next driver started =>
      cases moved
      exact .announce driver started
    next driver =>
      cases moved
      exact .publish driver
    next => cases moved
  | check results =>
    simp only [Pipeline.step] at moved
    split at moved
    next started free =>
      obtain ⟨all, moved⟩ := Option.ite_none_right_eq_some.mp moved
      cases moved
      exact .check started free all
    next => cases moved
  | release =>
    obtain ⟨held, moved⟩ := Option.ite_none_right_eq_some.mp moved
    cases moved
    exact .release held
  | profileEnds =>
    simp only [Pipeline.step] at moved
    split at moved
    next phase stage =>
      cases moved
      exact .profileStops phase stage
    next stage done =>
      cases moved
      exact .profileDrops stage done
    next => cases moved
  | driverEnds =>
    simp only [Pipeline.step] at moved
    split at moved
    next stage driver =>
      cases moved
      exact .driverEnds stage (Or.inl driver)
    next stage driver =>
      cases moved
      exact .driverEnds stage (Or.inr driver)
    next => cases moved

/-- `sort.Slice` is one function; maps are visited in any order. -/
def PipeEvent.Sorts (base : Runtime) : PipeEvent → Prop
  | .install rt => rt.SortsAlike base
  | _ => True

/-- **One step of the pipeline.** -/
def PipeStep (base : Runtime) (s : Pipeline Config) (event : PipeEvent) (s' : Pipeline Config) : Prop :=
  event.Sorts base ∧ s.step c config deepEqual event = some s'

/-- `NewDriver` has called `WatchDevices`. -/
def Pipeline.start (opts : Options) : Pipeline Config where
  watch := .start c
  stage := .idle
  profile := newProfile config.nodeName opts
  driver := .starting
  state := none
  prepare := none
  published := []
  log := []
  installed := 0

end Steps

/-! ### What is on its way -/

namespace Pipeline

variable (s : Pipeline Config)

/-- The topology the profile has taken and not applied. -/
def held : List HostPhysicalTopology :=
  match s.stage with
  | .holding topo => [topo]
  | _ => []

/-- The resources the profile has not handed over. -/
def offered : List DriverResources :=
  match s.stage with
  | .offering resources => [resources]
  | .finished dropped => dropped.toList
  | _ => []

/-- The resources the driver has taken and not installed. -/
def pending : List DriverResources :=
  match s.driver with
  | .building resources => [resources]
  | .setting resources => [resources]
  | _ => []

/-- The resources the driver has installed and not published. -/
def unpublished : List DriverResources :=
  match s.driver with
  | .announcing => (s.state.map DeviceState.driverResources).toList
  | .publishing resources => [resources]
  | _ => []

/-- The device state has been built. -/
def running : Bool :=
  match s.driver with
  | .starting => false
  | .building _ => false
  | _ => true

end Pipeline

/-! ### The profile's side -/

/-- The call is one of `applyTopology` on a profile of these options. -/
def IsCall (base : Runtime) (p : Profile) (call : Applied) : Prop :=
  ∃ rt : Runtime, rt.SortsAlike base ∧ call.resources = (applyTopology rt p call.topo).1 ∧
    call.table = (applyTopology rt p call.topo).2.unitByDevice

/-- **Every usable snapshot handed over is applied, in order**, but for the one the profile holds,
and the device table is that of the last call. -/
structure ProfileFlow (base : Runtime) (p : Profile) (s : Pipeline Config) : Prop where
  applied : s.log.map Applied.topo ++ s.held = s.watch.forwarded.filterMap Snapshot.usableTopology
  calls : ∀ call ∈ s.log, IsCall base p call
  current : s.profile =
    { p with unitByDevice := (s.log.getLast?.map Applied.table).getD p.unitByDevice }

section ProfileSteps

variable {c : AgentClient} {config : DriverConfig Config} {base : Runtime} {p : Profile}
  {deepEqual : DriverResources → DriverResources → Bool} {s s' : Pipeline Config}

/-- What the profile's side reads. -/
theorem ProfileFlow.congr (flow : ProfileFlow base p s) (watch : s'.watch = s.watch)
    (held : s'.held = s.held) (profile : s'.profile = s.profile) (log : s'.log = s.log) :
    ProfileFlow base p s' := by
  refine ⟨?_, log ▸ flow.calls, ?_⟩
  · rw [log, held, watch]
    exact flow.applied
  · rw [profile, log]
    exact flow.current

theorem ProfileFlow.install {topo : HostPhysicalTopology} {rt : Runtime} (flow : ProfileFlow base p s)
    (stage : s.stage = .holding topo) (alike : rt.SortsAlike base) :
    ProfileFlow base p { s with
      stage := .offering (applyTopology rt s.profile topo).1
      profile := (applyTopology rt s.profile topo).2
      log := s.log ++ [⟨topo, (applyTopology rt s.profile topo).1,
        (applyTopology rt s.profile topo).2.unitByDevice⟩] } := by
  have same : applyTopology rt s.profile topo = applyTopology rt p topo := by
    rw [flow.current]
    rfl
  rw [same]
  have applied := flow.applied
  rw [Pipeline.held, stage] at applied
  refine ⟨?_, ?_, ?_⟩
  · show (s.log ++ [_]).map Applied.topo ++ [] = _
    rw [List.append_nil, List.map_append]
    exact applied
  · intro call member
    rcases List.mem_append.mp member with old | new
    · exact flow.calls call old
    · cases List.mem_singleton.mp new
      exact ⟨rt, alike, rfl, rfl⟩
  · simp only [List.getLast?_concat]
    rfl

/-- The usable snapshots after one more, taken by a profile that holds none. -/
theorem ProfileFlow.forwarded (flow : ProfileFlow base p s) {snapshot : Snapshot} {watch : Watch}
    (phase : s.watch.phase = .forwarding snapshot) (stage : s.stage = .idle)
    (inner : s.watch.step c .forward = some watch) :
    watch.forwarded.filterMap Snapshot.usableTopology =
      s.log.map Applied.topo ++ snapshot.usableTopology.toList := by
  have applied := flow.applied
  rw [Pipeline.held, stage, List.append_nil] at applied
  rw [Watch.step_forward phase inner]
  show (s.watch.forwarded ++ [snapshot]).filterMap _ = _
  rw [List.filterMap_append, ← applied]
  cases usable : snapshot.usableTopology with
  | some topo => rw [List.filterMap_cons_some usable, List.filterMap_nil, Option.toList_some]
  | none => rw [List.filterMap_cons_none usable, List.filterMap_nil, Option.toList_none]

/-- **One step keeps the profile's side.** -/
theorem ProfileFlow.step {event : PipeEvent} (flow : ProfileFlow base p s)
    (moved : PipeStep c config deepEqual base s event s') : ProfileFlow base p s' := by
  obtain ⟨alike, moved⟩ := moved
  cases Pipeline.moves moved with
  | @watch _ watch other inner =>
    refine ⟨?_, flow.calls, flow.current⟩
    show _ = watch.forwarded.filterMap _
    rw [Watch.step_forwarded other inner]
    exact flow.applied
  | takeUsable phase stage inner usable =>
    refine ⟨?_, flow.calls, flow.current⟩
    rw [flow.forwarded phase stage inner, usable]
    rfl
  | @takeOther _ watch phase stage inner unusable =>
    refine ⟨?_, flow.calls, flow.current⟩
    rw [flow.forwarded phase stage inner, unusable, Pipeline.held, stage]
    rfl
  | install rt stage => exact flow.install stage alike
  | handFirst stage _ | handNext stage _ | profileStops _ stage | profileDrops stage _ =>
    exact flow.congr rfl (by simp [Pipeline.held, stage]) rfl rfl
  | build | setResources | announce | publish | check | release | driverEnds =>
    exact flow.congr rfl rfl rfl rfl

end ProfileSteps

/-! ### The driver's side -/

/-- **What the driver has taken it has installed, in order**, but for what is pending; what it has
published are the changes of that, and the device state is that of the last one. -/
structure DriverFlow (config : DriverConfig Config)
    (deepEqual : DriverResources → DriverResources → Bool) (done : List DriverResources)
    (s : Pipeline Config) : Prop where
  split : s.log.map Applied.resources = done ++ (s.pending ++ s.offered)
  count : done.length = s.installed
  published : s.published ++ s.unpublished = changes deepEqual done
  before : s.running = false → s.state = none ∧ done = []
  after : s.running = true → s.driver ≠ .halted → s.state.isSome = true
  state : ∀ state, s.state = some state →
    (changes deepEqual done).getLast? = some state.driverResources ∧
      state.nodeName = config.nodeName ∧
      state.allocatable = allocatableFrom state.driverResources config.nodeName
  locked : ∀ results, s.prepare = some results →
    ∃ state, s.state = some state ∧ ∀ result ∈ results, result.device ∈ state.allocatable

section DriverSteps

variable {c : AgentClient} {config : DriverConfig Config} {base : Runtime}
  {deepEqual : DriverResources → DriverResources → Bool} {done : List DriverResources}
  {s s' : Pipeline Config}

/-- A step of the profile that offers nothing new. -/
theorem DriverFlow.elsewhere (flow : DriverFlow config deepEqual done s) {watch : Watch}
    {stage : ProfileStage} (offered : Pipeline.offered { s with watch := watch, stage := stage } = s.offered) :
    DriverFlow config deepEqual done { s with watch := watch, stage := stage } where
  split := by
    rw [offered]
    exact flow.split
  count := flow.count
  published := flow.published
  before := flow.before
  after := flow.after
  state := flow.state
  locked := flow.locked

theorem DriverFlow.offer (flow : DriverFlow config deepEqual done s) {topo : HostPhysicalTopology}
    (stage : s.stage = .holding topo) (call : Applied) (profile : Profile) :
    DriverFlow config deepEqual done
      { s with stage := .offering call.resources, profile := profile, log := s.log ++ [call] } where
  split := by
    have split := flow.split
    rw [Pipeline.offered, stage, List.append_nil] at split
    show (s.log ++ [call]).map Applied.resources = done ++ (s.pending ++ [call.resources])
    rw [List.map_append, split, List.append_assoc]
    rfl
  count := flow.count
  published := flow.published
  before := flow.before
  after := flow.after
  state := flow.state
  locked := flow.locked

/-- The first resources are installed by `NewDeviceState`. -/
theorem DriverFlow.build (flow : DriverFlow config deepEqual done s) {resources : DriverResources}
    (driver : s.driver = .building resources) :
    DriverFlow config deepEqual [resources] { s with
      driver := .announcing
      state := some (initialState config resources)
      installed := s.installed + 1 } := by
  obtain ⟨none, rfl⟩ := flow.before (by rw [Pipeline.running, driver])
  have split := flow.split
  rw [Pipeline.pending, driver] at split
  have published := flow.published
  rw [Pipeline.unpublished, driver, List.append_nil, changes_nil] at published
  refine ⟨split, ?_, ?_, nofun, fun _ _ => rfl, ?_, ?_⟩
  · rw [← flow.count]
    rfl
  · show s.published ++ [resources] = [resources]
    rw [published]
    rfl
  · intro state same
    cases same
    exact ⟨rfl, rfl, rfl⟩
  · intro results holds
    obtain ⟨state, some, _⟩ := flow.locked results holds
    rw [none] at some
    cases some

/-- Later resources are installed by `SetResources`, which keeps equal ones. -/
theorem DriverFlow.update (flow : DriverFlow config deepEqual done s) {resources : DriverResources}
    {state : DeviceState Config} (driver : s.driver = .setting resources)
    (started : s.state = some state) (free : s.prepare = none) :
    DriverFlow config deepEqual (done ++ [resources]) (s.updated deepEqual state resources) := by
  obtain ⟨last, nodeName, table⟩ := flow.state state started
  have split := flow.split
  rw [Pipeline.pending, driver] at split
  have published := flow.published
  rw [Pipeline.unpublished, driver, List.append_nil] at published
  have filled : done ≠ [] := by
    rintro rfl
    cases last
  obtain ⟨last', kept, more⟩ := changes_concat deepEqual filled resources
  cases last.symm.trans kept
  have count : (done ++ [resources]).length = s.installed + 1 := by
    rw [List.length_append, flow.count]
    rfl
  have locked : ∀ (now : Option (DeviceState Config)) results, s.prepare = some results →
      ∃ state, now = some state ∧ ∀ result ∈ results, result.device ∈ state.allocatable := by
    intro now results holds
    rw [free] at holds
    cases holds
  by_cases same : deepEqual state.driverResources resources = true
  · have updated : s.updated deepEqual state resources =
        { s with state := some state, driver := .idle, installed := s.installed + 1 } := by
      unfold Pipeline.updated DeviceState.setResources
      rw [if_pos same]
      rfl
    rw [if_pos same] at more
    rw [updated]
    refine ⟨?_, count, ?_, nofun, fun _ _ => rfl, ?_, locked _⟩
    · rw [split, List.append_assoc]
      rfl
    · rw [more]
      exact (List.append_nil _).trans published
    · rintro _ ⟨⟩
      rw [more]
      exact ⟨last, nodeName, table⟩
  · have updated : s.updated deepEqual state resources = { s with
        state := some { state with
          driverResources := resources, allocatable := allocatableFrom resources state.nodeName }
        driver := .publishing resources
        installed := s.installed + 1 } := by
      unfold Pipeline.updated DeviceState.setResources
      rw [if_neg same]
      rfl
    rw [if_neg same] at more
    rw [updated]
    refine ⟨?_, count, ?_, nofun, fun _ _ => rfl, ?_, locked _⟩
    · rw [split, List.append_assoc]
      rfl
    · rw [more, ← published]
      rfl
    · rintro _ ⟨⟩
      rw [more, List.getLast?_concat]
      exact ⟨rfl, nodeName, congrArg (allocatableFrom resources) nodeName⟩

/-- A publication that returns. -/
theorem DriverFlow.publish (flow : DriverFlow config deepEqual done s) {resources : DriverResources}
    {driver : DriverStage} (unpublished : s.unpublished = [resources]) (pending : s.pending = [])
    (running : s.running = true) (alive : s.driver ≠ .halted) (next : driver = .idle ∨ driver = .halted) :
    DriverFlow config deepEqual done
      { s with driver := driver, published := s.published ++ [resources] } := by
  have split := flow.split
  rw [pending] at split
  have published := flow.published
  rw [unpublished] at published
  have started := flow.after running alive
  rcases next with rfl | rfl
  · exact ⟨split, flow.count, (List.append_nil _).trans published, nofun, fun _ _ => started, flow.state,
      flow.locked⟩
  · exact ⟨split, flow.count, (List.append_nil _).trans published, nofun, fun _ _ => started, flow.state,
      flow.locked⟩

/-- The first hand-over to the driver. -/
theorem DriverFlow.handFirst (flow : DriverFlow config deepEqual done s) {resources : DriverResources}
    (stage : s.stage = .offering resources) (driver : s.driver = .starting) :
    DriverFlow config deepEqual done { s with stage := .idle, driver := .building resources } := by
  have split := flow.split
  rw [Pipeline.pending, Pipeline.offered, stage, driver] at split
  have published := flow.published
  rw [Pipeline.unpublished, driver] at published
  have before := flow.before (by rw [Pipeline.running, driver])
  exact ⟨split, flow.count, published, fun _ => before, nofun, flow.state, flow.locked⟩

/-- A later one. -/
theorem DriverFlow.handNext (flow : DriverFlow config deepEqual done s) {resources : DriverResources}
    (stage : s.stage = .offering resources) (driver : s.driver = .idle) :
    DriverFlow config deepEqual done { s with stage := .idle, driver := .setting resources } := by
  have split := flow.split
  rw [Pipeline.pending, Pipeline.offered, stage, driver] at split
  have published := flow.published
  rw [Pipeline.unpublished, driver] at published
  have started := flow.after (by rw [Pipeline.running, driver]) (by rw [driver]; nofun)
  exact ⟨split, flow.count, published, nofun, fun _ _ => started, flow.state, flow.locked⟩

/-- A driver that waits for resources may end. -/
theorem DriverFlow.halt (flow : DriverFlow config deepEqual done s)
    (driver : s.driver = .starting ∨ s.driver = .idle) :
    DriverFlow config deepEqual done { s with driver := .halted } := by
  have split := flow.split
  have published := flow.published
  rcases driver with driver | driver
  all_goals
    rw [Pipeline.pending, driver] at split
    rw [Pipeline.unpublished, driver] at published
    exact ⟨split, flow.count, published, nofun, fun _ alive => absurd rfl alive, flow.state,
      flow.locked⟩

/-- **One step keeps the driver's side.** -/
theorem DriverFlow.step {event : PipeEvent} (flow : DriverFlow config deepEqual done s)
    (moved : PipeStep c config deepEqual base s event s') :
    ∃ more, DriverFlow config deepEqual more s' := by
  have next : ∀ success : Bool, (if success then DriverStage.idle else .halted) = .idle ∨
      (if success then DriverStage.idle else .halted) = .halted
    | true => Or.inl rfl
    | false => Or.inr rfl
  cases Pipeline.moves moved.2 with
  | watch _ _ => exact ⟨done, flow.elsewhere rfl⟩
  | takeOther _ _ _ _ => exact ⟨done, flow.elsewhere rfl⟩
  | takeUsable _ stage _ _ => exact ⟨done, flow.elsewhere (by simp [Pipeline.offered, stage])⟩
  | @install rt topo stage => exact ⟨done, flow.offer stage ⟨topo, _, _⟩ _⟩
  | handFirst stage driver => exact ⟨done, flow.handFirst stage driver⟩
  | handNext stage driver => exact ⟨done, flow.handNext stage driver⟩
  | build driver => exact ⟨_, flow.build driver⟩
  | setResources driver started free => exact ⟨_, flow.update driver started free⟩
  | @announce success _ driver started =>
    refine ⟨done, flow.publish ?_ ?_ ?_ ?_ (next success)⟩ <;>
      simp [Pipeline.unpublished, Pipeline.pending, Pipeline.running, driver, started]
  | @publish success _ driver =>
    refine ⟨done, flow.publish ?_ ?_ ?_ ?_ (next success)⟩ <;>
      simp [Pipeline.unpublished, Pipeline.pending, Pipeline.running, driver]
  | check started _ all =>
    refine ⟨done, flow.split, flow.count, flow.published, flow.before, flow.after, flow.state, ?_⟩
    rintro _ ⟨⟩
    exact ⟨_, started, by simpa [allAllocatable] using all⟩
  | release _ =>
    exact ⟨done, flow.split, flow.count, flow.published, flow.before, flow.after, flow.state,
      fun _ => nofun⟩
  | profileStops _ stage => exact ⟨done, flow.elsewhere (by simp [Pipeline.offered, stage])⟩
  | profileDrops stage _ => exact ⟨done, flow.elsewhere (by simp [Pipeline.offered, stage])⟩
  | driverEnds _ driver => exact ⟨done, flow.halt driver⟩

end DriverSteps

/-! ### Whole runs -/

/-- Both sides. -/
structure Flow (config : DriverConfig Config) (base : Runtime) (opts : Options)
    (deepEqual : DriverResources → DriverResources → Bool) (done : List DriverResources)
    (s : Pipeline Config) : Prop where
  profile : ProfileFlow base (newProfile config.nodeName opts) s
  driver : DriverFlow config deepEqual done s

theorem flow_start (c : AgentClient) (config : DriverConfig Config) (base : Runtime) (opts : Options)
    (deepEqual : DriverResources → DriverResources → Bool) :
    Flow config base opts deepEqual [] (.start c config opts) where
  profile := ⟨rfl, fun _ => nofun, rfl⟩
  driver := ⟨rfl, rfl, rfl, fun _ => ⟨rfl, rfl⟩, nofun, fun _ => nofun, fun _ => nofun⟩

/-- **Both sides hold in every state of every run.** -/
theorem run_flow {c : AgentClient} {config : DriverConfig Config} {base : Runtime} {opts : Options}
    {deepEqual : DriverResources → DriverResources → Bool} {events : List PipeEvent}
    {s : Pipeline Config}
    (run : Run (PipeStep c config deepEqual base) (.start c config opts) events s) :
    ∃ done, Flow config base opts deepEqual done s := by
  have keep : ∀ s event s', (∃ done, Flow config base opts deepEqual done s) →
      PipeStep c config deepEqual base s event s' → ∃ done, Flow config base opts deepEqual done s' := by
    rintro s event s' ⟨done, flow⟩ moved
    obtain ⟨more, driver⟩ := flow.driver.step moved
    exact ⟨more, flow.profile.step moved, driver⟩
  exact run.invariant keep ⟨[], flow_start c config base opts deepEqual⟩

/-! ### Runs by evaluation -/

/-- A message with a topology. -/
def topologyMessage (topo : HostPhysicalTopology) : WatchTopologyResponse :=
  { status := .topologyOk, physicalTopology := some topo, version := 1 }

/-- A message on its way to the profile. -/
def deliver (topo : HostPhysicalTopology) : List PipeEvent :=
  [.watch (.arrive (topologyMessage topo)), .watch .recvMessage, .watch .stop, .take]

/-- The first message, up to the first publication. -/
def startupEvents (topo : HostPhysicalTopology) : List PipeEvent :=
  .watch .opened :: deliver topo ++ [.install Runtime.plain, .hand, .build, .publish true]

/-- A run from its evaluation. -/
theorem pipeRun_of_foldlM {c : AgentClient} {config : DriverConfig Config} {base : Runtime}
    {deepEqual : DriverResources → DriverResources → Bool} {events : List PipeEvent}
    {s s' : Pipeline Config} (sorts : ∀ event ∈ events, event.Sorts base)
    (ran : events.foldlM (Pipeline.step c config deepEqual) s = some s') :
    Run (PipeStep c config deepEqual base) s events s' :=
  (run_of_foldlM ran).restrict sorts

end DraDriver.Plugin

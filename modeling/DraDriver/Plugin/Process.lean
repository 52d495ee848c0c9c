/-
**The plugin's process: startup, background errors and exit.**

`NewDriver` runs in steps that can each fail, `republishDevices` runs beside the kubelet's calls, and
`RunPlugin` waits for the main context, which a signal or a fatal background error cancels.
`Process.step` puts them on top of the pipeline.

* `process_refines` — every run of the process is one of the pipeline.
* `Process.Sound` — where `RunPlugin` is agrees with where the driver is; a driver that is up and no
  longer follows the profile has cancelled the main context.
* **`plugin_supervised`** — the process never stays up without following the topology: left alone, it
  waits for its first devices, or is up with everything published, or has returned.
* `recoverable_blind` — a publication that fails with a recoverable error is the exception.
-/

import DraDriver.Plugin.Settle

namespace DraDriver.Plugin

open DraDriver.Base DraDriver.FabricManager DraDriver.Profiles DraDriver.Tenstorrent

variable {Config : Type}

/-! ### Errors -/

/-- What `NewDriver` returns. -/
inductive StartError
  /-- `watch devices: …`, around the watch's own error. -/
  | watchDevices (err : StreamError)
  /-- `device watch stopped before reporting any devices` -/
  | stoppedEarly
  /-- `no devices reported within …` -/
  | deadline
  /-- The main context's error. -/
  | context
  | state (err : String)
  | helper (err : String)
  /-- `start healthcheck: …` -/
  | healthcheck (err : String)
  | publish (err : String)
  deriving DecidableEq

/-- What `HandleError` is given. -/
inductive BackgroundError
  /-- The watch's own error. -/
  | watch (err : StreamError)
  /-- `device watch stopped unexpectedly` -/
  | stopped
  /-- An error of the helper or of a publication; `recoverable` if it is an `ErrRecoverable`. -/
  | helper (err : String) (recoverable : Bool)
  deriving DecidableEq

/-- `errors.Is(err, kubeletplugin.ErrRecoverable)`. -/
def BackgroundError.isRecoverable : BackgroundError → Bool
  | .helper _ recoverable => recoverable
  | _ => false

/-- `context.Cause` of the main context; `fatal` is `fatal background error: …`. -/
inductive MainCause
  | canceled
  | fatal (err : BackgroundError)
  deriving DecidableEq

/-! ### The process -/

/-- Where `RunPlugin` is. -/
inductive MainStage
  /-- In `waitForInitialDevices`. -/
  | waiting
  /-- In `NewDeviceState`. -/
  | building
  /-- In `kubeletplugin.Start`. -/
  | registering
  /-- In `startHealthcheck`. -/
  | probing
  /-- In the first `PublishResources`. -/
  | announcing
  /-- In `<-ctx.Done()`. -/
  | serving
  /-- In `Shutdown`. -/
  | stopping
  /-- It has returned. -/
  | exited (result : Option StartError)
  deriving DecidableEq

/-- `NewDriver` has returned a driver, and `republishDevices` was started. -/
def MainStage.up : MainStage → Bool
  | .serving => true
  | .stopping => true
  | _ => false

/-- The kubelet can call the plugin. -/
def MainStage.registered : MainStage → Bool
  | .probing => true
  | .announcing => true
  | main => main.up

/-- `NewDriver` runs. -/
def MainStage.starts : MainStage → Bool
  | .waiting => true
  | .building => true
  | .registering => true
  | .probing => true
  | .announcing => true
  | _ => false

/-- It has not returned. -/
def MainStage.runs (main : MainStage) : Bool := main.starts || main.up

/-- The goroutines, where `RunPlugin` is, and why the main context was cancelled. -/
structure Process (Config : Type) where
  pipe : Pipeline Config
  main : MainStage
  cause : Option MainCause

/-- A step of the process or of what runs beside it. -/
inductive ProcessEvent
  /-- A step of the goroutines that `RunPlugin` and `republishDevices` have no part in, or of the
  latter between publications. -/
  | inner (event : PipeEvent)
  /-- `waitForInitialDevices` receives. -/
  | firstDevices
  /-- It finds the channel closed. -/
  | updatesClosed
  | deadline
  /-- It sees the main context done. -/
  | cancelled
  | buildState (outcome : Except String Unit)
  | startHelper (outcome : Except String Unit)
  | startHealthcheck (outcome : Except String Unit)
  | announce (outcome : Except String Unit)
  /-- A publication of `republishDevices`. -/
  | republish (outcome : Except (String × Bool) Unit)
  /-- The loop of `republishDevices` ends. -/
  | rangeEnds
  /-- The helper reports an error. -/
  | background (err : String) (recoverable : Bool)
  | signal
  /-- `RunPlugin` sees the main context done. -/
  | wake
  /-- `Shutdown` returns. -/
  | shutdown

/-- `NewDriver` fails, before it publishes. -/
def ProcessEvent.failsStart : ProcessEvent → Bool
  | .updatesClosed => true
  | .deadline => true
  | .cancelled => true
  | .buildState (.error _) => true
  | .startHelper (.error _) => true
  | .startHealthcheck (.error _) => true
  | _ => false

/-- The main context is cancelled: the watch and the profile were started with it. -/
def Pipeline.shutDown (s : Pipeline Config) : Pipeline Config :=
  { s with watch := { s.watch with
      parentDone := true
      stream := { s.watch.stream with cause := s.watch.stream.cause.or (some .parent) } } }

/-- `watch.Err()`: what the profile copies once the topology watch has stopped. -/
def Pipeline.watchErr (s : Pipeline Config) : Option StreamError :=
  match s.stage, s.watch.phase with
  | .finished none, .stopped err => err
  | _, _ => none

namespace Process

/-- The first cause stays. -/
def cancel (s : Process Config) (cause : MainCause) : Process Config :=
  { s with pipe := s.pipe.shutDown, cause := s.cause.or (some cause) }

/-- `driver.HandleError`: a fatal error cancels the main context. -/
def handleError (s : Process Config) (err : BackgroundError) : Process Config :=
  if err.isRecoverable then s else s.cancel (.fatal err)

/-- `NewDriver` fails; the deferred `stop` cancels the main context. -/
def fail (s : Process Config) (err : StartError) : Process Config :=
  { s.cancel .canceled with main := .exited (some err) }

/-- What `waitForInitialDevices` makes of a closed channel. -/
def closedError (s : Process Config) : StartError :=
  match s.pipe.watchErr with
  | some err => .watchDevices err
  | none => .stoppedEarly

/-- What `republishDevices` does after its loop. -/
def afterRange (s : Process Config) : Process Config :=
  if s.pipe.watch.parentDone then s
  else match s.pipe.watchErr with
    | some err => s.handleError (.watch err)
    | none => s.handleError .stopped

/-- The goroutines' own steps: first devices, builds, publications and ends are separate. -/
def allows (main : MainStage) : PipeEvent → Bool
  | .watch event => event ≠ .shutdown
  | .hand => main.up
  | .check _ => main.registered
  | .build => false
  | .publish _ => false
  | .driverEnds => false
  | _ => true

section Steps

variable (c : AgentClient) (config : DriverConfig Config)
  (deepEqual : DriverResources → DriverResources → Bool)

/-- One step of the process, or of what runs beside it; `none` where it cannot be taken. -/
def step (s : Process Config) : ProcessEvent → Option (Process Config)
  | .inner event =>
    if s.main.runs && allows s.main event then
      (s.pipe.step c config deepEqual event).map fun pipe => { s with pipe := pipe }
    else none
  | .firstDevices =>
    match s.main with
    | .waiting => (s.pipe.step c config deepEqual .hand).map fun pipe =>
        { s with pipe := pipe, main := .building }
    | _ => none
  | .updatesClosed =>
    match s.main, s.pipe.stage with
    | .waiting, .finished _ => some (s.fail s.closedError)
    | _, _ => none
  | .deadline => if s.main = .waiting then some (s.fail .deadline) else none
  | .cancelled =>
    if s.main = .waiting && s.pipe.watch.parentDone then some (s.fail .context) else none
  | .buildState outcome =>
    if s.main = .building then match outcome with
      | .ok () => (s.pipe.step c config deepEqual .build).map fun pipe =>
          { s with pipe := pipe, main := .registering }
      | .error err => some (s.fail (.state err))
    else none
  | .startHelper outcome =>
    if s.main = .registering then match outcome with
      | .ok () => some { s with main := .probing }
      | .error err => some (s.fail (.helper err))
    else none
  | .startHealthcheck outcome =>
    if s.main = .probing then match outcome with
      | .ok () => some { s with main := .announcing }
      | .error err => some (s.fail (.healthcheck err))
    else none
  | .announce outcome =>
    if s.main = .announcing then match outcome with
      | .ok () => (s.pipe.step c config deepEqual (.publish true)).map fun pipe =>
          { s with pipe := pipe, main := .serving }
      | .error err => (s.pipe.step c config deepEqual (.publish false)).map fun pipe =>
          fail { s with pipe := pipe } (.publish err)
    else none
  | .republish outcome =>
    if s.main.up then match outcome with
      | .ok () => (s.pipe.step c config deepEqual (.publish true)).map fun pipe =>
          { s with pipe := pipe }
      | .error (err, recoverable) => (s.pipe.step c config deepEqual (.publish false)).map fun pipe =>
          handleError { s with pipe := pipe } (.helper err recoverable)
    else none
  | .rangeEnds =>
    if s.main.up then
      (s.pipe.step c config deepEqual .driverEnds).map fun pipe => afterRange { s with pipe := pipe }
    else none
  | .background err recoverable =>
    if s.main.registered then some (s.handleError (.helper err recoverable)) else none
  | .signal => if s.main.starts || s.main = .serving then some (s.cancel .canceled) else none
  | .wake =>
    if s.main = .serving && s.pipe.watch.parentDone then some { s with main := .stopping } else none
  | .shutdown => if s.main = .stopping then some { s with main := .exited none } else none

/-- What each step does, and when it can be taken. -/
inductive Moves (s : Process Config) : ProcessEvent → Process Config → Prop
  | inner {event : PipeEvent} {pipe : Pipeline Config} (runs : s.main.runs = true)
      (allowed : allows s.main event = true) (moved : s.pipe.step c config deepEqual event = some pipe) :
    Moves s (.inner event) { s with pipe := pipe }
  | firstDevices {pipe : Pipeline Config} (main : s.main = .waiting)
      (moved : s.pipe.step c config deepEqual .hand = some pipe) :
    Moves s .firstDevices { s with pipe := pipe, main := .building }
  | fails {event : ProcessEvent} {err : StartError} (starts : s.main.starts = true)
      (which : event.failsStart = true) (other : ∀ text, err ≠ .publish text) : Moves s event (s.fail err)
  | built {pipe : Pipeline Config} (main : s.main = .building)
      (moved : s.pipe.step c config deepEqual .build = some pipe) :
    Moves s (.buildState (.ok ())) { s with pipe := pipe, main := .registering }
  | registered (main : s.main = .registering) : Moves s (.startHelper (.ok ())) { s with main := .probing }
  | probed (main : s.main = .probing) : Moves s (.startHealthcheck (.ok ())) { s with main := .announcing }
  | announced {pipe : Pipeline Config} (main : s.main = .announcing)
      (moved : s.pipe.step c config deepEqual (.publish true) = some pipe) :
    Moves s (.announce (.ok ())) { s with pipe := pipe, main := .serving }
  | announceFails {err : String} {pipe : Pipeline Config} (main : s.main = .announcing)
      (moved : s.pipe.step c config deepEqual (.publish false) = some pipe) :
    Moves s (.announce (.error err)) (fail { s with pipe := pipe } (.publish err))
  | republished {pipe : Pipeline Config} (up : s.main.up = true)
      (moved : s.pipe.step c config deepEqual (.publish true) = some pipe) :
    Moves s (.republish (.ok ())) { s with pipe := pipe }
  | republishFails {err : String} {recoverable : Bool} {pipe : Pipeline Config} (up : s.main.up = true)
      (moved : s.pipe.step c config deepEqual (.publish false) = some pipe) :
    Moves s (.republish (.error (err, recoverable)))
      (handleError { s with pipe := pipe } (.helper err recoverable))
  | rangeEnds {pipe : Pipeline Config} (up : s.main.up = true)
      (moved : s.pipe.step c config deepEqual .driverEnds = some pipe) :
    Moves s .rangeEnds (afterRange { s with pipe := pipe })
  | background {err : String} {recoverable : Bool} (ready : s.main.registered = true) :
    Moves s (.background err recoverable) (s.handleError (.helper err recoverable))
  | signal (runs : s.main.runs = true) : Moves s .signal (s.cancel .canceled)
  | wake (main : s.main = .serving) (done : s.pipe.watch.parentDone = true) :
    Moves s .wake { s with main := .stopping }
  | shutdown (main : s.main = .stopping) : Moves s .shutdown { s with main := .exited none }

/-- **Every step is one of these.** -/
theorem moves {c : AgentClient} {config : DriverConfig Config}
    {deepEqual : DriverResources → DriverResources → Bool} {s s' : Process Config}
    {event : ProcessEvent} (moved : s.step c config deepEqual event = some s') :
    s.Moves c config deepEqual event s' := by
  cases event with
  | inner event =>
    obtain ⟨guard, moved⟩ := Option.ite_none_right_eq_some.mp moved
    obtain ⟨pipe, inner, rfl⟩ := Option.map_eq_some_iff.mp moved
    obtain ⟨runs, allowed⟩ := Bool.and_eq_true_iff.mp guard
    exact .inner runs allowed inner
  | firstDevices =>
    simp only [step] at moved
    split at moved
    next main =>
      obtain ⟨pipe, inner, rfl⟩ := Option.map_eq_some_iff.mp moved
      exact .firstDevices main inner
    next => cases moved
  | updatesClosed =>
    simp only [step] at moved
    split at moved
    next main _ =>
      cases moved
      refine .fails (by rw [main]; rfl) rfl ?_
      intro text
      unfold closedError
      split <;> intro wrong <;> cases wrong
    next => cases moved
  | deadline =>
    obtain ⟨main, moved⟩ := Option.ite_none_right_eq_some.mp moved
    cases moved
    exact .fails (by rw [main]; rfl) rfl (by simp)
  | cancelled =>
    obtain ⟨guard, moved⟩ := Option.ite_none_right_eq_some.mp moved
    cases moved
    have main := of_decide_eq_true (Bool.and_eq_true_iff.mp guard).1
    exact .fails (by rw [main]; rfl) rfl (by simp)
  | buildState outcome =>
    obtain ⟨main, moved⟩ := Option.ite_none_right_eq_some.mp moved
    cases outcome with
    | ok =>
      obtain ⟨pipe, inner, rfl⟩ := Option.map_eq_some_iff.mp moved
      exact .built main inner
    | error err =>
      cases moved
      exact .fails (by rw [main]; rfl) rfl (by simp)
  | startHelper outcome =>
    obtain ⟨main, moved⟩ := Option.ite_none_right_eq_some.mp moved
    cases outcome with
    | ok =>
      cases moved
      exact .registered main
    | error err =>
      cases moved
      exact .fails (by rw [main]; rfl) rfl (by simp)
  | startHealthcheck outcome =>
    obtain ⟨main, moved⟩ := Option.ite_none_right_eq_some.mp moved
    cases outcome with
    | ok =>
      cases moved
      exact .probed main
    | error err =>
      cases moved
      exact .fails (by rw [main]; rfl) rfl (by simp)
  | announce outcome =>
    obtain ⟨main, moved⟩ := Option.ite_none_right_eq_some.mp moved
    cases outcome with
    | ok =>
      obtain ⟨pipe, inner, rfl⟩ := Option.map_eq_some_iff.mp moved
      exact .announced main inner
    | error err =>
      obtain ⟨pipe, inner, rfl⟩ := Option.map_eq_some_iff.mp moved
      exact .announceFails main inner
  | republish outcome =>
    obtain ⟨up, moved⟩ := Option.ite_none_right_eq_some.mp moved
    cases outcome with
    | ok =>
      obtain ⟨pipe, inner, rfl⟩ := Option.map_eq_some_iff.mp moved
      exact .republished up inner
    | error err =>
      obtain ⟨pipe, inner, rfl⟩ := Option.map_eq_some_iff.mp moved
      exact .republishFails up inner
  | rangeEnds =>
    obtain ⟨up, moved⟩ := Option.ite_none_right_eq_some.mp moved
    obtain ⟨pipe, inner, rfl⟩ := Option.map_eq_some_iff.mp moved
    exact .rangeEnds up inner
  | background err recoverable =>
    obtain ⟨ready, moved⟩ := Option.ite_none_right_eq_some.mp moved
    cases moved
    exact .background ready
  | signal =>
    obtain ⟨guard, moved⟩ := Option.ite_none_right_eq_some.mp moved
    cases moved
    refine .signal ?_
    rcases Bool.or_eq_true_iff.mp guard with starts | main
    · exact Bool.or_eq_true_iff.mpr (Or.inl starts)
    · rw [of_decide_eq_true main]
      rfl
  | wake =>
    obtain ⟨guard, moved⟩ := Option.ite_none_right_eq_some.mp moved
    cases moved
    obtain ⟨main, done⟩ := Bool.and_eq_true_iff.mp guard
    exact .wake (of_decide_eq_true main) done
  | shutdown =>
    obtain ⟨main, moved⟩ := Option.ite_none_right_eq_some.mp moved
    cases moved
    exact .shutdown main

/-- `NewDriver` has called `WatchDevices`. -/
def start (opts : Options) : Process Config where
  pipe := .start c config opts
  main := .waiting
  cause := none

end Steps

end Process

/-! ### Runs -/

/-- `sort.Slice` is one function; maps are visited in any order. -/
def ProcessEvent.Sorts (base : Runtime) : ProcessEvent → Prop
  | .inner event => event.Sorts base
  | _ => True

/-- **One step of the process.** -/
def ProcessStep (c : AgentClient) (config : DriverConfig Config)
    (deepEqual : DriverResources → DriverResources → Bool) (base : Runtime) (s : Process Config)
    (event : ProcessEvent) (s' : Process Config) : Prop :=
  event.Sorts base ∧ s.step c config deepEqual event = some s'

section Runs

variable {c : AgentClient} {config : DriverConfig Config} {base : Runtime} {opts : Options}
  {deepEqual : DriverResources → DriverResources → Bool}

theorem shutDown_step (pipe : Pipeline Config) :
    PipeStep c config deepEqual base pipe (.watch .shutdown) pipe.shutDown :=
  ⟨trivial, rfl⟩

variable {s s' : Process Config} {event : ProcessEvent}

/-- `HandleError` does nothing, or cancels. -/
theorem Process.handleError_cases (s : Process Config) (err : BackgroundError) :
    (err.isRecoverable = true ∧ s.handleError err = s) ∨
      (err.isRecoverable = false ∧ s.handleError err = s.cancel (.fatal err)) := by
  unfold handleError
  cases err.isRecoverable with
  | true => exact Or.inl ⟨rfl, rfl⟩
  | false => exact Or.inr ⟨rfl, rfl⟩

/-- A loop that ends for any reason but the main context cancels it. -/
theorem Process.afterRange_cases (s : Process Config) :
    (s.pipe.watch.parentDone = true ∧ s.afterRange = s) ∨
      (s.pipe.watch.parentDone = false ∧ ∃ err, s.afterRange = s.cancel (.fatal err)) := by
  unfold afterRange
  cases s.pipe.watch.parentDone with
  | true => exact Or.inl ⟨rfl, rfl⟩
  | false =>
    refine Or.inr ⟨rfl, ?_⟩
    cases s.pipe.watchErr with
    | some err => exact ⟨.watch err, rfl⟩
    | none => exact ⟨.stopped, rfl⟩

/-- **A step of the process is none, one or two of the pipeline.** -/
theorem refines_step (moved : ProcessStep c config deepEqual base s event s') :
    ∃ inner, Run (PipeStep c config deepEqual base) s.pipe inner s'.pipe := by
  have one : ∀ {event : PipeEvent} {pipe : Pipeline Config},
      s.pipe.step c config deepEqual event = some pipe → event.Sorts base →
      Run (PipeStep c config deepEqual base) s.pipe [event] pipe :=
    fun stepped sorts => .snoc (.nil _) ⟨sorts, stepped⟩
  have none : ∃ inner, Run (PipeStep c config deepEqual base) s.pipe inner s.pipe := ⟨[], .nil _⟩
  have last : ∃ inner, Run (PipeStep c config deepEqual base) s.pipe inner s.pipe.shutDown :=
    ⟨_, .snoc (.nil _) (shutDown_step s.pipe)⟩
  obtain ⟨sorts, moved⟩ := moved
  cases Process.moves moved with
  | inner _ _ stepped => exact ⟨_, one stepped sorts⟩
  | firstDevices _ stepped | built _ stepped | announced _ stepped | republished _ stepped =>
    exact ⟨_, one stepped trivial⟩
  | fails | signal => exact last
  | registered | probed | wake | shutdown => exact none
  | announceFails _ stepped => exact ⟨_, .snoc (one stepped trivial) (shutDown_step _)⟩
  | @republishFails err recoverable pipe _ stepped =>
    rcases Process.handleError_cases { s with pipe := pipe } (.helper err recoverable) with
      ⟨-, same⟩ | ⟨-, same⟩ <;> rw [same]
    · exact ⟨_, one stepped trivial⟩
    · exact ⟨_, .snoc (one stepped trivial) (shutDown_step _)⟩
  | @rangeEnds pipe _ stepped =>
    rcases Process.afterRange_cases { s with pipe := pipe } with ⟨-, same⟩ | ⟨-, err, same⟩ <;> rw [same]
    · exact ⟨_, one stepped trivial⟩
    · exact ⟨_, .snoc (one stepped trivial) (shutDown_step _)⟩
  | @background err recoverable =>
    rcases Process.handleError_cases s (.helper err recoverable) with ⟨-, same⟩ | ⟨-, same⟩ <;> rw [same]
    · exact none
    · exact last

/-- **Every run of the process is one of the pipeline.** -/
theorem process_refines {events : List ProcessEvent}
    (run : Run (ProcessStep c config deepEqual base) (.start c config opts) events s) :
    ∃ inner, Run (PipeStep c config deepEqual base) (.start c config opts) inner s.pipe := by
  have keep : ∀ (s : Process Config) event (s' : Process Config),
      (∃ inner, Run (PipeStep c config deepEqual base) (.start c config opts) inner s.pipe) →
      ProcessStep c config deepEqual base s event s' →
      ∃ inner, Run (PipeStep c config deepEqual base) (.start c config opts) inner s'.pipe := by
    rintro s event s' ⟨before, run⟩ moved
    obtain ⟨after, more⟩ := refines_step moved
    exact ⟨before ++ after, run.append more⟩
  exact run.invariant keep ⟨[], .nil _⟩

/-! ### Where everyone is -/

/-- The driver is past its first publication. -/
def DriverStage.follows : DriverStage → Bool
  | .idle => true
  | .setting _ => true
  | .publishing _ => true
  | .halted => true
  | _ => false

/-- `RunPlugin` and the driver's goroutine are at the same place. -/
inductive Agrees : MainStage → DriverStage → Prop
  | waiting : Agrees .waiting .starting
  | building (resources : DriverResources) : Agrees .building (.building resources)
  | registering : Agrees .registering .announcing
  | probing : Agrees .probing .announcing
  | announcing : Agrees .announcing .announcing
  | up {main : MainStage} {driver : DriverStage} (up : main.up = true) (follows : driver.follows = true) :
    Agrees main driver
  | exited (result : Option StartError) (driver : DriverStage) : Agrees (.exited result) driver

theorem Agrees.announces {main : MainStage} {driver : DriverStage} (agrees : Agrees main driver)
    (place : main = .registering ∨ main = .probing ∨ main = .announcing) : driver = .announcing := by
  cases agrees with
  | registering | probing | announcing => rfl
  | waiting | building | exited => simp at place
  | up up => rcases place with rfl | rfl | rfl <;> cases up

theorem Agrees.builds {main : MainStage} {driver : DriverStage} (agrees : Agrees main driver)
    (place : main = .building) : ∃ resources, driver = .building resources := by
  cases agrees with
  | building resources => exact ⟨resources, rfl⟩
  | waiting | registering | probing | announcing | exited => cases place
  | up up =>
    rw [place] at up
    cases up

/-- Where the driver is tells where `RunPlugin` is, unless it has returned. -/
structure Places (main : MainStage) (driver : DriverStage) : Prop where
  starting : driver = .starting → main = .waiting
  building : ∀ resources, driver = .building resources → main = .building
  announcing : driver = .announcing → main = .registering ∨ main = .probing ∨ main = .announcing
  follows : driver.follows = true → main.up = true

theorem Agrees.places {main : MainStage} {driver : DriverStage} (agrees : Agrees main driver)
    (runs : main.runs = true) : Places main driver := by
  cases agrees with
  | waiting | building | registering | probing | announcing =>
    constructor <;> simp [DriverStage.follows]
  | up up follows =>
    refine ⟨?_, ?_, ?_, fun _ => up⟩
    · rintro rfl
      cases follows
    · rintro resources rfl
      cases follows
    · rintro rfl
      cases follows
  | exited => cases runs

/-- **The process and its goroutines agree.** -/
structure Process.Sound (s : Process Config) : Prop where
  pipe : s.pipe.Sound
  agrees : Agrees s.main s.pipe.driver
  early : s.main.starts = true → s.pipe.published = []
  ordered : s.pipe.watch.parentDone = false → Ordered s.pipe.watch
  cause : s.pipe.watch.parentDone = s.cause.isSome
  stopped : s.main = .stopping ∨ s.main = .exited none → s.cause.isSome = true
  failed : ∀ err, s.main = .exited (some err) → s.pipe.published = [] ∨ ∃ text, err = .publish text

theorem Process.sound_start : (start c config opts).Sound where
  pipe := Pipeline.sound_start c config opts
  agrees := .waiting
  early := fun _ => rfl
  ordered := fun _ => ordered_start c
  cause := rfl
  stopped := by rintro (wrong | wrong) <;> cases wrong
  failed := by
    intro err wrong
    cases wrong

theorem Pipeline.Sound.shutDown {pipe : Pipeline Config} (sound : pipe.Sound) : pipe.shutDown.Sound := by
  have moved : pipe.watch.step ⟨0, 0, 0⟩ .shutdown = some pipe.shutDown.watch := rfl
  exact sound.watch_step moved

theorem isSome_or_some {α : Type} (first : Option α) (second : α) :
    (first.or (some second)).isSome = true := by
  cases first <;> rfl

theorem Process.Sound.cancel (sound : s.Sound) (cause : MainCause) : (s.cancel cause).Sound where
  pipe := sound.pipe.shutDown
  agrees := sound.agrees
  early := sound.early
  ordered := by
    intro lives
    cases lives
  cause := (isSome_or_some s.cause cause).symm
  stopped := fun _ => isSome_or_some s.cause cause
  failed := sound.failed

theorem Process.sound_fail (sound : s.pipe.Sound) (err : StartError)
    (unpublished : s.pipe.published = [] ∨ ∃ text, err = .publish text) : (s.fail err).Sound where
  pipe := sound.shutDown
  agrees := .exited _ _
  early := by
    intro wrong
    cases wrong
  ordered := by
    intro lives
    cases lives
  cause := (isSome_or_some s.cause .canceled).symm
  stopped := fun _ => isSome_or_some s.cause .canceled
  failed := by
    rintro _ ⟨⟩
    exact unpublished

/-- `NewDriver` goes on. -/
theorem Process.Sound.next (sound : s.Sound) {main : MainStage} (starts : s.main.starts = true)
    (agrees : Agrees main s.pipe.driver) (still : main.starts = true) :
    Process.Sound { s with main := main } where
  pipe := sound.pipe
  agrees := agrees
  early := fun _ => sound.early starts
  ordered := sound.ordered
  cause := sound.cause
  stopped := by rintro (rfl | rfl) <;> cases still
  failed := by
    rintro err rfl
    cases still

/-- Only a publication adds to what was published. -/
theorem Pipeline.published_step {pipe pipe' : Pipeline Config} {event : PipeEvent}
    (other : ∀ success, event ≠ .publish success)
    (moved : pipe.step c config deepEqual event = some pipe') : pipe'.published = pipe.published := by
  cases Pipeline.moves moved with
  | announce | publish => exact absurd rfl (other _)
  | _ => rfl

theorem Pipeline.parentDone_step {pipe pipe' : Pipeline Config} {event : PipeEvent}
    (other : event ≠ .watch .shutdown) (moved : pipe.step c config deepEqual event = some pipe') :
    pipe'.watch.parentDone = pipe.watch.parentDone := by
  cases Pipeline.work_step moved with
  | @watch inner _ stepped _ =>
    have live : inner ≠ .shutdown := fun same => other (congrArg PipeEvent.watch same)
    simp [Watch.parentDone_step stepped, live]
  | take stepped => simp [Watch.parentDone_step stepped]
  | check watch | less _ watch => rw [watch]

/-- A step of the pipeline that is not a shutdown, seen from the process. -/
theorem Process.Sound.inner (sound : s.Sound) {event : PipeEvent} {pipe : Pipeline Config}
    (moved : s.pipe.step c config deepEqual event = some pipe) (other : event ≠ .watch .shutdown)
    {main : MainStage} (agrees : Agrees main pipe.driver)
    (early : main.starts = true → pipe.published = [])
    (runs : main = s.main ∧ main.runs = true ∨ main.starts = true ∨ main = .serving) :
    Process.Sound { s with pipe := pipe, main := main } where
  pipe := sound.pipe.step moved
  agrees := agrees
  early := early
  ordered := by
    intro lives
    have before : s.pipe.watch.parentDone = false := (Pipeline.parentDone_step other moved).symm.trans lives
    exact ordered_pipe_step (sound.ordered before) other moved
  cause := (Pipeline.parentDone_step other moved).trans sound.cause
  stopped := by
    rcases runs with ⟨rfl, -⟩ | starts | rfl
    · exact sound.stopped
    · rintro (rfl | rfl) <;> cases starts
    · rintro (wrong | wrong) <;> cases wrong
  failed := by
    rintro err rfl
    rcases runs with ⟨-, wrong⟩ | wrong | wrong <;> cases wrong

/-- The goroutines' own steps leave `RunPlugin` where it is. -/
theorem agrees_inner {main : MainStage} {pipe pipe' : Pipeline Config} {event : PipeEvent}
    (agrees : Agrees main pipe.driver) (allowed : Process.allows main event = true)
    (moved : pipe.step c config deepEqual event = some pipe') : Agrees main pipe'.driver := by
  have here : ∀ driver, pipe.driver = driver → Agrees main driver := fun driver same => same ▸ agrees
  cases Pipeline.moves moved with
  | handFirst _ driver =>
    cases here _ driver with
    | waiting => cases allowed
    | exited => cases allowed
    | up _ follows => cases follows
  | handNext => exact .up allowed rfl
  | setResources driver =>
    cases here _ driver with
    | exited => exact .exited _ _
    | up up _ =>
      refine .up up ?_
      simp only [Pipeline.updated]
      split <;> rfl
  | build | announce | publish | driverEnds => cases allowed
  | _ => exact agrees

theorem up_runs {main : MainStage} (up : main.up = true) : main.runs = true := by
  rw [MainStage.runs, up, Bool.or_true]

theorem up_starts {main : MainStage} (up : main.up = true) : main.starts ≠ true := by
  cases main <;> simp [MainStage.up, MainStage.starts] at up ⊢

/-- A step of `republishDevices`. -/
theorem Process.Sound.republish (sound : s.Sound) (up : s.main.up = true) {event : PipeEvent}
    {pipe : Pipeline Config} (moved : s.pipe.step c config deepEqual event = some pipe)
    (other : event ≠ .watch .shutdown) (follows : pipe.driver.follows = true) :
    Process.Sound { s with pipe := pipe } :=
  sound.inner moved other (.up up follows) (fun starts => absurd starts (up_starts up))
    (Or.inl ⟨rfl, up_runs up⟩)

/-- After a publication the driver follows the profile, or has returned. -/
theorem Pipeline.follows_publish {pipe pipe' : Pipeline Config} {success : Bool}
    (moved : pipe.step c config deepEqual (.publish success) = some pipe') :
    pipe'.driver = (if success then .idle else .halted) ∧ pipe'.driver.follows = true := by
  cases Pipeline.moves moved with
  | announce | publish => cases success <;> exact ⟨rfl, rfl⟩

theorem Pipeline.halted_driverEnds {pipe pipe' : Pipeline Config}
    (moved : pipe.step c config deepEqual .driverEnds = some pipe') : pipe'.driver = .halted := by
  cases Pipeline.moves moved
  rfl

/-- **One step keeps the agreement.** -/
theorem Process.Sound.step (sound : s.Sound) (moved : s.step c config deepEqual event = some s') :
    s'.Sound := by
  have agrees := sound.agrees
  have early : ∀ {main}, s.main = main → main.starts = true → s.pipe.published = [] :=
    fun same starts => sound.early (same ▸ starts)
  cases Process.moves moved with
  | @inner event pipe runs allowed stepped =>
    have other : event ≠ .watch .shutdown := by
      rintro rfl
      cases allowed
    have plain : ∀ success, event ≠ .publish success := by
      rintro success rfl
      cases allowed
    refine sound.inner stepped other (agrees_inner agrees allowed stepped) ?_ (Or.inl ⟨rfl, runs⟩)
    intro starts
    rw [Pipeline.published_step plain stepped]
    exact sound.early starts
  | firstDevices main stepped =>
    have published := Pipeline.published_step (by simp) stepped
    refine sound.inner stepped (by simp) ?_ (fun _ => published.trans (early main rfl)) (Or.inr (Or.inl rfl))
    cases Pipeline.moves stepped with
    | handFirst => exact .building _
    | handNext _ driver =>
      rw [main, driver] at agrees
      cases agrees with
      | up wrong => cases wrong
  | fails starts => exact Process.sound_fail sound.pipe _ (Or.inl (sound.early starts))
  | built main stepped =>
    have published := Pipeline.published_step (by simp) stepped
    refine sound.inner stepped (by simp) ?_ (fun _ => published.trans (early main rfl)) (Or.inr (Or.inl rfl))
    cases Pipeline.moves stepped
    exact .registering
  | registered main =>
    refine sound.next (by rw [main]; rfl) ?_ rfl
    rw [agrees.announces (Or.inl main)]
    exact .probing
  | probed main =>
    refine sound.next (by rw [main]; rfl) ?_ rfl
    rw [agrees.announces (Or.inr (Or.inl main))]
    exact .announcing
  | announced main stepped =>
    exact sound.inner stepped (by simp) (.up rfl (Pipeline.follows_publish stepped).2) nofun
      (Or.inr (Or.inr rfl))
  | @announceFails err pipe _ stepped =>
    have pipeSound : pipe.Sound := sound.pipe.step stepped
    exact Process.sound_fail (s := { s with pipe := pipe }) pipeSound _ (Or.inr ⟨err, rfl⟩)
  | republished up stepped => exact sound.republish up stepped (by simp) (Pipeline.follows_publish stepped).2
  | @republishFails err recoverable pipe up stepped =>
    have after := sound.republish up stepped (by simp) (Pipeline.follows_publish stepped).2
    rcases Process.handleError_cases { s with pipe := pipe } (.helper err recoverable) with
      ⟨-, same⟩ | ⟨-, same⟩ <;> rw [same]
    · exact after
    · exact after.cancel _
  | @rangeEnds pipe up stepped =>
    have after := sound.republish up stepped (by simp)
      (by rw [Pipeline.halted_driverEnds stepped]; rfl)
    rcases Process.afterRange_cases { s with pipe := pipe } with ⟨-, same⟩ | ⟨-, err, same⟩ <;> rw [same]
    · exact after
    · exact after.cancel _
  | @background err recoverable =>
    rcases Process.handleError_cases s (.helper err recoverable) with ⟨-, same⟩ | ⟨-, same⟩ <;> rw [same]
    · exact sound
    · exact sound.cancel _
  | signal => exact sound.cancel _
  | wake main done =>
    refine ⟨sound.pipe, ?_, nofun, sound.ordered, sound.cause, fun _ => sound.cause ▸ done, nofun⟩
    rw [main] at agrees
    cases agrees with
    | up _ follows => exact .up rfl follows
  | shutdown main =>
    refine ⟨sound.pipe, .exited _ _, nofun, sound.ordered, sound.cause,
      fun _ => sound.stopped (Or.inl main), ?_⟩
    intro err wrong
    cases wrong

/-- **A driver that is up and has stopped following the profile has cancelled the main context.** -/
def Process.Follows (s : Process Config) : Prop :=
  s.main.up = true → s.pipe.driver = .halted → s.pipe.watch.parentDone = true

/-- The goroutines' own steps do not end the driver. -/
theorem halted_inner {main : MainStage} {pipe pipe' : Pipeline Config} {event : PipeEvent}
    (allowed : Process.allows main event = true)
    (moved : pipe.step c config deepEqual event = some pipe') (halted : pipe'.driver = .halted) :
    pipe.driver = .halted := by
  cases Pipeline.moves moved with
  | build | announce | publish | driverEnds => cases allowed
  | handFirst | handNext => cases halted
  | setResources =>
    simp only [Pipeline.updated] at halted
    split at halted <;> cases halted
  | _ => exact halted

/-- **One step keeps it**, but for a publication that fails with a recoverable error. -/
theorem Process.follows_step (follows : s.Follows)
    (fatal : ∀ err, event ≠ .republish (.error (err, true)))
    (moved : s.step c config deepEqual event = some s') : s'.Follows := by
  unfold Process.Follows at follows ⊢
  cases Process.moves moved with
  | @inner event pipe _ allowed stepped =>
    intro up halted
    have other : event ≠ .watch .shutdown := by
      rintro rfl
      cases allowed
    rw [Pipeline.parentDone_step other stepped]
    exact follows up (halted_inner allowed stepped halted)
  | firstDevices | built | registered | probed | shutdown => nofun
  | fails | announceFails | signal => exact fun _ _ => rfl
  | announced _ stepped | republished _ stepped =>
    intro _ halted
    rw [(Pipeline.follows_publish stepped).1] at halted
    cases halted
  | @republishFails err recoverable pipe =>
    rcases Process.handleError_cases { s with pipe := pipe } (.helper err recoverable) with
      ⟨wrong, -⟩ | ⟨-, same⟩
    · have recover : recoverable = true := wrong
      exact absurd (by rw [recover]) (fatal err)
    · rw [same]
      exact fun _ _ => rfl
  | @rangeEnds pipe =>
    rcases Process.afterRange_cases { s with pipe := pipe } with ⟨done, same⟩ | ⟨-, err, same⟩ <;> rw [same]
    · exact fun _ _ => done
    · exact fun _ _ => rfl
  | @background err recoverable =>
    rcases Process.handleError_cases s (.helper err recoverable) with ⟨-, same⟩ | ⟨-, same⟩ <;> rw [same]
    · exact follows
    · exact fun _ _ => rfl
  | wake _ done => exact fun _ _ => done

/-! ### A bound -/

/-- The steps the goroutines have left. -/
def Pipeline.rank (s : Pipeline Config) : ℕ :=
  s.watch.rank + s.work

/-- The steps `RunPlugin` has left. -/
def MainStage.rank : MainStage → ℕ
  | .waiting => 7
  | .building => 6
  | .registering => 5
  | .probing => 4
  | .announcing => 3
  | .serving => 2
  | .stopping => 1
  | .exited _ => 0

/-- The steps the process has left: none after `RunPlugin` has returned. -/
def Process.rank (s : Process Config) : ℕ :=
  if s.main.runs then s.pipe.rank + s.main.rank else 0

/-- A step that no signal, deadline or failure of others causes. -/
def ProcessEvent.own : ProcessEvent → Bool
  | .inner event => event.settles
  | .deadline => false
  | .signal => false
  | .background _ _ => false
  | .buildState outcome => outcome.isOk
  | .startHelper outcome => outcome.isOk
  | .startHealthcheck outcome => outcome.isOk
  | .announce outcome => outcome.isOk
  | .republish outcome => outcome.isOk
  | _ => true

theorem Pipeline.rank_shutDown (pipe : Pipeline Config) : pipe.shutDown.rank ≤ pipe.rank + 2 := by
  have less := Watch.drainRank_le pipe.watch
  show pipe.watch.drainRank + pipe.work ≤ pipe.rank + 2
  unfold rank Watch.rank
  split <;> omega

/-- **A step of the pipeline lowers the rank**, a publication whether or not it succeeds. -/
theorem Pipeline.rank_step {pipe pipe' : Pipeline Config} {event : PipeEvent}
    (other : event ≠ .watch .shutdown) (moved : pipe.step c config deepEqual event = some pipe') :
    (event.settles = true ∨ event = .publish false → pipe'.rank < pipe.rank) ∧
      pipe'.rank ≤ pipe.rank + 8 := by
  unfold rank
  cases Pipeline.work_step moved with
  | @watch inner _ stepped same =>
    have live : inner ≠ .shutdown := fun same => other (congrArg PipeEvent.watch same)
    obtain ⟨lower, higher, -⟩ := Watch.rank_step live stepped
    rw [same]
    refine ⟨?_, by omega⟩
    rintro (settles | wrong)
    · exact Nat.add_lt_add_right (lower settles) _
    · cases wrong
  | take stepped more =>
    obtain ⟨-, -, forward⟩ := Watch.rank_step (by decide) stepped
    have lower := forward rfl
    exact ⟨fun _ => by omega, by omega⟩
  | check watch more =>
    rw [watch, more]
    refine ⟨?_, by omega⟩
    rintro (wrong | wrong) <;> cases wrong
  | less _ watch less =>
    rw [watch]
    exact ⟨fun _ => by omega, by omega⟩

/-- Once the watch has stopped, a shutdown costs nothing. -/
theorem Pipeline.rank_stopped {pipe : Pipeline Config} {err : Option StreamError}
    (phase : pipe.watch.phase = .stopped err) : pipe.shutDown.rank ≤ pipe.rank := by
  have zero : pipe.watch.drainRank = 0 := by rw [Watch.drainRank, phase]
  show pipe.watch.drainRank + pipe.work ≤ pipe.rank
  rw [zero]
  unfold rank
  omega

/-- A driver that ends while the main context lives has seen the watch stop. -/
theorem Pipeline.Sound.stopped_driverEnds {pipe pipe' : Pipeline Config} (sound : pipe.Sound)
    (moved : pipe.step c config deepEqual .driverEnds = some pipe')
    (lives : pipe'.watch.parentDone = false) : ∃ err, pipe'.watch.phase = .stopped err := by
  cases Pipeline.moves moved with
  | @driverEnds dropped stage _ =>
    cases dropped with
    | none => exact sound.finished stage
    | some resources =>
      have done := sound.dropped resources stage
      rw [done] at lives
      cases lives

theorem Process.rank_runs (runs : s.main.runs = true) : s.rank = s.pipe.rank + s.main.rank :=
  if_pos runs

theorem Process.rank_exited {result : Option StartError} (main : s.main = .exited result) :
    s.rank = 0 := by
  refine if_neg ?_
  rw [main]
  exact Bool.false_ne_true

theorem rank_pos {main : MainStage} (runs : main.runs = true) : 0 < main.rank := by
  cases main <;> first | decide | cases runs

theorem runs_of_starts {main : MainStage} (starts : main.starts = true) : main.runs = true := by
  rw [MainStage.runs, starts, Bool.true_or]

theorem runs_of_registered {main : MainStage} (ready : main.registered = true) : main.runs = true := by
  cases main <;> first | rfl | cases ready

theorem Process.rank_cancel (runs : s.main.runs = true) (cause : MainCause) :
    (s.cancel cause).rank ≤ s.rank + 2 := by
  have after : (s.cancel cause).rank = s.pipe.shutDown.rank + s.main.rank := if_pos runs
  have less := Pipeline.rank_shutDown s.pipe
  rw [after, Process.rank_runs runs]
  omega

/-- **One step of the process.** -/
theorem Process.rank_step (sound : s.Sound) (moved : s.step c config deepEqual event = some s') :
    (event.own = true → s'.rank < s.rank) ∧ s'.rank ≤ s.rank + 8 := by
  have exits : ∀ {result} {after : Process Config}, s.main.runs = true → after.main = .exited result →
      (event.own = true → after.rank < s.rank) ∧ after.rank ≤ s.rank + 8 := by
    intro result after runs main
    have pos := rank_pos runs
    rw [Process.rank_exited main, Process.rank_runs runs]
    omega
  -- one step of the pipeline, and `RunPlugin` at its place or one further
  have goes : ∀ (main : MainStage) {inner : PipeEvent} {pipe : Pipeline Config},
      s.pipe.step c config deepEqual inner = some pipe → inner ≠ .watch .shutdown →
      s.main.runs = true → main.runs = true → main.rank ≤ s.main.rank →
      (inner.settles = true ∨ inner = .publish false →
        rank { s with pipe := pipe, main := main } < s.rank) ∧
      rank { s with pipe := pipe, main := main } ≤ s.rank + 8 := by
    intro main inner pipe stepped other runs still less
    obtain ⟨lower, higher⟩ := Pipeline.rank_step other stepped
    have after : rank { s with pipe := pipe, main := main } = pipe.rank + main.rank := if_pos still
    rw [after, Process.rank_runs runs]
    exact ⟨fun pays => by have := lower pays; omega, by omega⟩
  have further : ∀ main : MainStage, s.main.runs = true → main.runs = true →
      main.rank < s.main.rank →
      (event.own = true → rank { s with main := main } < s.rank) ∧
        rank { s with main := main } ≤ s.rank + 8 := by
    intro main runs still less
    have after : rank { s with main := main } = s.pipe.rank + main.rank := if_pos still
    rw [after, Process.rank_runs runs]
    omega
  cases Process.moves moved with
  | @inner event pipe runs allowed stepped =>
    have other : event ≠ .watch .shutdown := by
      rintro rfl
      cases allowed
    obtain ⟨lower, higher⟩ := goes s.main stepped other runs runs le_rfl
    exact ⟨fun settles => lower (Or.inl settles), higher⟩
  | fails starts => exact exits (runs_of_starts starts) rfl
  | announceFails main => exact exits (by rw [main]; rfl) rfl
  | shutdown main => exact exits (by rw [main]; rfl) rfl
  | firstDevices main stepped =>
    obtain ⟨lower, higher⟩ := goes .building stepped (by simp) (by rw [main]; rfl) rfl (by rw [main]; decide)
    exact ⟨fun _ => lower (Or.inl rfl), higher⟩
  | built main stepped =>
    obtain ⟨lower, higher⟩ := goes .registering stepped (by simp) (by rw [main]; rfl) rfl
      (by rw [main]; decide)
    exact ⟨fun _ => lower (Or.inl rfl), higher⟩
  | announced main stepped =>
    obtain ⟨lower, higher⟩ := goes .serving stepped (by simp) (by rw [main]; rfl) rfl (by rw [main]; decide)
    exact ⟨fun _ => lower (Or.inl rfl), higher⟩
  | registered main => exact further .probing (by rw [main]; rfl) rfl (by rw [main]; decide)
  | probed main => exact further .announcing (by rw [main]; rfl) rfl (by rw [main]; decide)
  | wake main => exact further .stopping (by rw [main]; rfl) rfl (by rw [main]; decide)
  | republished up stepped =>
    obtain ⟨lower, higher⟩ := goes s.main stepped (by simp) (up_runs up) (up_runs up) le_rfl
    exact ⟨fun _ => lower (Or.inl rfl), higher⟩
  | @republishFails err recoverable pipe up stepped =>
    have lower := (goes s.main stepped (by simp) (up_runs up) (up_runs up) le_rfl).1 (Or.inr rfl)
    refine ⟨nofun, ?_⟩
    rcases Process.handleError_cases { s with pipe := pipe } (.helper err recoverable) with
      ⟨-, same⟩ | ⟨-, same⟩ <;> rw [same]
    · exact le_trans lower.le (Nat.le_add_right _ _)
    · have more := Process.rank_cancel (s := { s with pipe := pipe }) (up_runs up)
        (.fatal (.helper err recoverable))
      exact le_trans more (by omega)
  | @rangeEnds pipe up stepped =>
    have lower := (goes s.main stepped (by simp) (up_runs up) (up_runs up) le_rfl).1 (Or.inl rfl)
    have less : (afterRange { s with pipe := pipe }).rank < s.rank := by
      rcases Process.afterRange_cases { s with pipe := pipe } with ⟨-, same⟩ | ⟨lives, err, same⟩ <;>
        rw [same]
      · exact lower
      · -- the watch has stopped, so that the shutdown adds nothing
        obtain ⟨reason, phase⟩ := sound.pipe.stopped_driverEnds stepped lives
        have still := Pipeline.rank_stopped phase
        have after : (cancel { s with pipe := pipe } (.fatal err)).rank =
          pipe.shutDown.rank + s.main.rank := if_pos (up_runs up)
        have before : rank { s with pipe := pipe } = pipe.rank + s.main.rank := if_pos (up_runs up)
        omega
    exact ⟨fun _ => less, by omega⟩
  | @background err recoverable ready =>
    refine ⟨nofun, ?_⟩
    rcases Process.handleError_cases s (.helper err recoverable) with ⟨-, same⟩ | ⟨-, same⟩ <;> rw [same]
    · exact Nat.le_add_right _ _
    · have more := Process.rank_cancel (runs_of_registered ready) (.fatal (.helper err recoverable))
      omega
  | signal runs =>
    have more := Process.rank_cancel runs .canceled
    exact ⟨nofun, by omega⟩

/-- **Every step of the process is paid for.** -/
theorem process_potential (c : AgentClient) (config : DriverConfig Config) (base : Runtime)
    (deepEqual : DriverResources → DriverResources → Bool) :
    Potential (ProcessStep c config deepEqual base) ProcessEvent.own Process.Sound Process.rank 8 where
  keep := fun _ _ _ sound moved => sound.step moved.2
  pays := fun _ _ _ sound moved => (Process.rank_step sound moved.2).1
  adds := fun _ _ _ sound moved _ => (Process.rank_step sound moved.2).2

/-! ### Where it ends -/

/-- **A step of the goroutines is one of the process**, through `RunPlugin` where it has a part. -/
theorem process_moves (sound : s.Sound) (runs : s.main.runs = true) {inner : PipeEvent}
    {pipe : Pipeline Config} (settles : inner.settles = true)
    (moved : PipeStep c config deepEqual base s.pipe inner pipe) :
    ∃ event s', event.own = true ∧ ProcessStep c config deepEqual base s event s' := by
  obtain ⟨sorts, stepped⟩ := moved
  have agrees := sound.agrees
  have itself : Process.allows s.main inner = true →
      ∃ event s', event.own = true ∧ ProcessStep c config deepEqual base s event s' := by
    intro allowed
    refine ⟨.inner inner, { s with pipe := pipe }, settles, sorts, ?_⟩
    simp only [Process.step, runs, allowed, stepped]
    rfl
  have places := sound.agrees.places runs
  cases Pipeline.moves stepped with
  | @watch event _ _ _ =>
    refine itself (decide_eq_true ?_)
    rintro rfl
    cases settles
  | takeUsable | takeOther | install | setResources | release | profileStops | profileDrops =>
    exact itself rfl
  | check => cases settles
  | handFirst _ driver =>
    exact ⟨.firstDevices, _, rfl, trivial,
      by simp only [Process.step, places.starting driver, stepped]; rfl⟩
  | handNext _ driver => exact itself (places.follows (by rw [driver]; rfl))
  | build driver =>
    exact ⟨.buildState (.ok ()), _, rfl, trivial,
      (if_pos (places.building _ driver)).trans (by simp only [stepped]; rfl)⟩
  | @announce success _ driver =>
    have accepted : success = true := settles
    subst accepted
    rcases places.announcing driver with main | main | main
    · exact ⟨.startHelper (.ok ()), _, rfl, trivial, if_pos main⟩
    · exact ⟨.startHealthcheck (.ok ()), _, rfl, trivial, if_pos main⟩
    · exact ⟨.announce (.ok ()), _, rfl, trivial, (if_pos main).trans (by simp only [stepped]; rfl)⟩
  | @publish success _ driver =>
    have accepted : success = true := settles
    subst accepted
    have up := places.follows (by rw [driver]; rfl)
    exact ⟨.republish (.ok ()), _, rfl, trivial, (if_pos up).trans (by simp only [stepped]; rfl)⟩
  | driverEnds stage driver =>
    rcases driver with driver | driver
    · exact ⟨.updatesClosed, _, rfl, trivial,
        by simp only [Process.step, places.starting driver, stage]; rfl⟩
    · have up := places.follows (by rw [driver]; rfl)
      exact ⟨.rangeEnds, _, rfl, trivial, (if_pos up).trans (by simp only [stepped]; rfl)⟩

/-- **When no step is left**: `NewDriver` has failed before anything was accepted, or `RunPlugin` has
returned after the main context was cancelled, or the process waits for its first devices, or it is up
and follows the agent, with everything published. -/
inductive Supervised (deepEqual : DriverResources → DriverResources → Bool) (s : Process Config) : Prop
  | failed {err : StartError} (main : s.main = .exited (some err))
      (unpublished : s.pipe.published = [] ∨ ∃ text, err = .publish text)
  | stopped {cause : MainCause} (main : s.main = .exited none) (why : s.cause = some cause)
  | waiting (main : s.main = .waiting) (watch : s.pipe.watch.Silent)
      (nothing : usableTopologies s.pipe.watch.delivered = [])
  | serving (main : s.main = .serving) (watch : s.pipe.watch.Silent) (driver : s.pipe.driver = .idle)
      (applied : s.pipe.log.map Applied.topo = usableTopologies s.pipe.watch.delivered)
      (published : s.pipe.published = changes deepEqual (s.pipe.log.map Applied.resources))

/-- Before the first hand-over nothing was applied. -/
theorem log_of_starting {pipe : Pipeline Config} {done : List DriverResources}
    (flow : Flow config base opts deepEqual done pipe) (stage : pipe.stage = .idle)
    (driver : pipe.driver = .starting) : pipe.log = [] := by
  have split := flow.driver.split
  rw [(flow.driver.before (by rw [Pipeline.running, driver])).2, Pipeline.pending, driver,
    Pipeline.offered, stage] at split
  exact List.map_eq_nil_iff.mp split

/-- **Once the main context is done, `RunPlugin` goes on to return.** -/
theorem done_moves (sound : s.Sound) (runs : s.main.runs = true)
    (done : s.pipe.watch.parentDone = true) :
    ∃ event s', event.own = true ∧ ProcessStep c config deepEqual base s event s' := by
  have agrees := sound.agrees
  cases main : s.main with
  | waiting => exact ⟨.cancelled, _, rfl, trivial, if_pos (by simp [main, done])⟩
  | building =>
    obtain ⟨resources, driver⟩ := agrees.builds main
    exact ⟨.buildState (.ok ()), _, rfl, trivial, (if_pos main).trans (by simp only [Pipeline.step, driver]; rfl)⟩
  | registering => exact ⟨.startHelper (.ok ()), _, rfl, trivial, if_pos main⟩
  | probing => exact ⟨.startHealthcheck (.ok ()), _, rfl, trivial, if_pos main⟩
  | announcing =>
    have driver := agrees.announces (Or.inr (Or.inr main))
    obtain ⟨state, started⟩ := Option.isSome_iff_exists.mp
      (sound.pipe.started (by rw [Pipeline.running, driver]) (by simp [driver]))
    exact ⟨.announce (.ok ()), _, rfl, trivial,
      (if_pos main).trans (by simp only [Pipeline.step, driver, started]; rfl)⟩
  | serving => exact ⟨.wake, _, rfl, trivial, if_pos (by simp [main, done])⟩
  | stopping => exact ⟨.shutdown, _, rfl, trivial, if_pos main⟩
  | exited =>
    rw [main] at runs
    cases runs

/-- **A process without a step is supervised.** -/
theorem supervised_of_stuck {done : List DriverResources}
    (stuck : Stuck (ProcessStep c config deepEqual base) ProcessEvent.own s) (sound : s.Sound)
    (follows : s.Follows) (flow : Flow config base opts deepEqual done s.pipe) :
    Supervised deepEqual s := by
  cases runs : s.main.runs with
  | false =>
    cases main : s.main with
    | exited result =>
      cases result with
      | some err => exact .failed main (sound.failed err main)
      | none =>
        obtain ⟨cause, why⟩ := Option.isSome_iff_exists.mp (sound.stopped (Or.inr main))
        exact .stopped main why
    | _ =>
      rw [main] at runs
      cases runs
  | true =>
    have lives : s.pipe.watch.parentDone = false := by
      by_contra done
      obtain ⟨event, s', own, moved⟩ := done_moves (c := c) sound runs (Bool.eq_true_of_not_eq_false done)
      exact stuck event s' own moved
    have still : Stuck (PipeStep c config deepEqual base) PipeEvent.settles s.pipe := by
      intro inner pipe settles moved
      obtain ⟨event, s', own, moved⟩ := process_moves sound runs settles moved
      exact stuck event s' own moved
    have places := sound.agrees.places runs
    have awake : s.pipe.driver ≠ .halted := by
      intro halted
      have up := places.follows (by rw [halted]; rfl)
      rw [follows up halted] at lives
      cases lives
    obtain ⟨rest, -⟩ := atRest_of_stuck still sound.pipe lives fun halted => absurd halted awake
    obtain ⟨applied, published⟩ := rest.flushed flow (sound.ordered lives)
    cases rest with
    | ended _ _ driver => exact absurd driver awake
    | waiting watch stage driver =>
      rcases driver with driver | driver
      · refine .waiting (places.starting driver) watch ?_
        rw [← applied, log_of_starting flow stage driver]
        rfl
      · have up := places.follows (by rw [driver]; rfl)
        refine .serving ?_ watch driver applied published
        cases main : s.main with
        | serving => rfl
        | stopping => exact absurd ⟨trivial, if_pos main⟩ (stuck .shutdown _ rfl)
        | _ =>
          rw [main] at up
          cases up

end Runs

/-- **The process is supervised.** In every run in which no publication fails with a recoverable
error, the process takes at most nineteen steps and eight more for each message, signal, deadline or
failure; from every state at most `rank` steps of its own lead to one in which it has none; and
whenever it has none, `NewDriver` has failed before any publication was accepted, or `RunPlugin` has
returned because the main context was cancelled, or the process waits for a first usable message, or it
is up, follows the agent and has published all it was told. -/
theorem plugin_supervised (c : AgentClient) (config : DriverConfig Config) (base : Runtime)
    (opts : Options) (deepEqual : DriverResources → DriverResources → Bool)
    {events : List ProcessEvent} {s : Process Config}
    (run : Run (ProcessStep c config deepEqual base) (.start c config opts) events s)
    (fatal : ∀ err, .republish (.error (err, true)) ∉ events) :
    events.countP ProcessEvent.own ≤ 19 + 8 * events.countP (fun event => !event.own) ∧
    (∃ later s', (∀ event ∈ later, event.own = true) ∧ later.length ≤ s.rank ∧
      Run (ProcessStep c config deepEqual base) s later s' ∧
      Stuck (ProcessStep c config deepEqual base) ProcessEvent.own s') ∧
    (Stuck (ProcessStep c config deepEqual base) ProcessEvent.own s → Supervised deepEqual s) := by
  have potential := process_potential c config base deepEqual
  have start : (Process.start c config opts).Sound := Process.sound_start
  have sound : s.Sound := run.invariant potential.keep start
  refine ⟨?_, potential.exists_stuck sound, fun stuck => ?_⟩
  · have bound := potential.bounded run start
    have first : (Process.start c config opts).rank = 19 := by
      show Stream.settleLoad (.fresh c false) + 10 + 2 + 7 = 19
      rw [Watch.settleLoad_fresh]
    rw [first] at bound
    exact le_trans (Nat.le_add_right _ _) bound
  · obtain ⟨inner, refined⟩ := process_refines run
    obtain ⟨done, flow⟩ := run_flow refined
    have each : ∀ event ∈ events, ∀ err, event ≠ .republish (.error (err, true)) := by
      rintro event member err rfl
      exact fatal err member
    have follows : s.Follows := (run.restrict each).invariant
      (fun _ _ _ follows moved => Process.follows_step follows moved.1 moved.2.2) nofun
    exact supervised_of_stuck stuck sound follows flow

/-! ### A watch that fails for good -/

/-- A process that has returned has no step. -/
theorem stuck_of_exited {c : AgentClient} {config : DriverConfig Config} {base : Runtime}
    {deepEqual : DriverResources → DriverResources → Bool} {s : Process Config}
    {result : Option StartError} (exited : s.main = .exited result) :
    Stuck (ProcessStep c config deepEqual base) ProcessEvent.own s := by
  rintro event s' - ⟨-, moved⟩
  cases Process.moves moved with
  | inner runs | fails runs | republished runs | republishFails runs | rangeEnds runs | background runs
  | signal runs =>
    rw [exited] at runs
    cases runs
  | firstDevices main | built main | registered main | probed main | announced main
  | announceFails main | wake main | shutdown main =>
    rw [exited] at main
    cases main

/-- The goroutines' steps. -/
def inners (events : List PipeEvent) : List ProcessEvent := events.map .inner

theorem inners_sorts {base : Runtime} {events : List PipeEvent} (sorts : ∀ event ∈ events, event.Sorts base) :
    ∀ event ∈ inners events, event.Sorts base := by
  intro event member
  obtain ⟨inner, inside, rfl⟩ := List.mem_map.mp member
  exact sorts inner inside

/-- The process comes up. -/
def bootEvents (topo : HostPhysicalTopology) : List ProcessEvent :=
  inners (.watch .opened :: deliver topo ++ [.install Runtime.plain]) ++
    [.firstDevices, .buildState (.ok ()), .startHelper (.ok ()), .startHealthcheck (.ok ()), .announce (.ok ())]

/-- Then the agent is replaced by one that has no `WatchTopology`. -/
def lostWatchEvents : List ProcessEvent :=
  bootEvents twoTrayHost ++ inners [.watch (.hangUp (.status .unimplemented)), .watch .recvFailed,
    .watch .classify, .profileEnds] ++ [.rangeEnds, .wake, .shutdown]

/-- A run from its evaluation. -/
theorem processRun_of_foldlM {c : AgentClient} {config : DriverConfig Config} {base : Runtime}
    {deepEqual : DriverResources → DriverResources → Bool} {events : List ProcessEvent}
    {s s' : Process Config} (sorts : ∀ event ∈ events, event.Sorts base)
    (ran : events.foldlM (Process.step c config deepEqual) s = some s') :
    Run (ProcessStep c config deepEqual base) s events s' :=
  (run_of_foldlM ran).restrict sorts

theorem bootEvents_sorts (topo : HostPhysicalTopology) :
    ∀ event ∈ bootEvents topo, event.Sorts Runtime.plain := by
  have plain : Runtime.plain.SortsAlike Runtime.plain := fun _ _ => rfl
  simp [bootEvents, inners, deliver, ProcessEvent.Sorts, PipeEvent.Sorts, plain]

/-- `RunPlugin` returns, with the watch's error as the cause. -/
theorem lostWatch_supervised : ∃ s : Process Unit,
    Run (ProcessStep sampleClient sampleConfig sampleEqual Runtime.plain)
        (.start sampleClient sampleConfig ⟨false, false⟩) lostWatchEvents s ∧
      s.main = .exited none ∧ s.cause = some (.fatal (.watch (.watchUnsupported .unimplemented))) ∧
      Supervised sampleEqual s := by
  have ran : (lostWatchEvents.foldlM (Process.step sampleClient sampleConfig sampleEqual)
      (.start sampleClient sampleConfig ⟨false, false⟩)).map (fun s : Process Unit => (s.main, s.cause)) =
      some (.exited none, some (.fatal (.watch (.watchUnsupported .unimplemented)))) := by decide +kernel
  obtain ⟨s, moved, facts⟩ := Option.map_eq_some_iff.mp ran
  obtain ⟨main, cause⟩ := Prod.mk.inj facts
  have sorts : ∀ event ∈ lostWatchEvents, event.Sorts Runtime.plain := by
    have boot := bootEvents_sorts twoTrayHost
    simp only [lostWatchEvents, List.mem_append]
    rintro event ((first | second) | third)
    · exact boot event first
    · exact inners_sorts (by simp [PipeEvent.Sorts]) event second
    · revert event
      simp [ProcessEvent.Sorts]
  have run := processRun_of_foldlM sorts moved
  obtain ⟨-, -, ends⟩ := plugin_supervised sampleClient sampleConfig Runtime.plain ⟨false, false⟩
    sampleEqual run (by simp [lostWatchEvents, bootEvents, inners, deliver])
  exact ⟨s, run, main, cause, ends (stuck_of_exited main)⟩

/-! ### A recoverable publication error -/

/-- What a driver that has returned leaves as it is. -/
structure Blind (pipe pipe' : Pipeline Config) : Prop where
  halted : pipe'.driver = .halted
  published : pipe'.published = pipe.published
  state : pipe'.state = pipe.state

theorem Blind.step {c : AgentClient} {config : DriverConfig Config} {base : Runtime}
    {deepEqual : DriverResources → DriverResources → Bool} {pipe pipe' pipe'' : Pipeline Config}
    {event : PipeEvent} (blind : Blind pipe pipe')
    (moved : PipeStep c config deepEqual base pipe' event pipe'') : Blind pipe pipe'' := by
  have away : ∀ {driver : DriverStage}, driver ≠ .halted → pipe'.driver ≠ driver := by
    rintro driver other same
    exact other (same.symm.trans blind.halted)
  cases Pipeline.moves moved.2 with
  | handFirst _ driver | handNext _ driver | build driver | setResources driver | announce driver
  | publish driver => exact absurd driver (away nofun)
  | driverEnds => exact ⟨rfl, blind.published, blind.state⟩
  | _ => exact ⟨blind.halted, blind.published, blind.state⟩

/-- **A recoverable publication error leaves the driver blind.** Once a publication of
`republishDevices` has failed with a recoverable error, the process is up and its main context is as it
was; but whatever the agent sends from then on, nothing more is published and the device state stays
the same. -/
theorem recoverable_blind (c : AgentClient) (config : DriverConfig Config) (base : Runtime)
    (deepEqual : DriverResources → DriverResources → Bool) {later : List ProcessEvent} {err : String}
    {before s s' : Process Config}
    (failed : ProcessStep c config deepEqual base before (.republish (.error (err, true))) s)
    (rest : Run (ProcessStep c config deepEqual base) s later s') :
    s.main.up = true ∧ s.cause = before.cause ∧ Blind s.pipe s'.pipe := by
  obtain ⟨up, cause, halted⟩ : s.main.up = true ∧ s.cause = before.cause ∧ s.pipe.driver = .halted := by
    cases Process.moves failed.2 with
    | fails _ wrong => cases wrong
    | republishFails up stepped => exact ⟨up, rfl, (Pipeline.follows_publish stepped).1⟩
  refine ⟨up, cause, ?_⟩
  have keep : ∀ (t : Process Config) event (t' : Process Config), Blind s.pipe t.pipe →
      ProcessStep c config deepEqual base t event t' → Blind s.pipe t'.pipe := by
    intro t event t' blind moved
    obtain ⟨inner, run⟩ := refines_step moved
    exact run.invariant (fun _ _ _ blind stepped => blind.step stepped) blind
  exact rest.invariant keep ⟨halted, rfl, rfl⟩

/-- The chips disappear, and their publication fails. -/
def emptiedEvents : List ProcessEvent :=
  bootEvents twoTrayHost ++ inners (deliver { twoTrayHost with asics := [] } ++
    [.install Runtime.plain, .hand, .setResources])

/-- They come back: the profile has the devices to offer, and nobody takes them. -/
theorem emptied_blind : ∃ before s s' : Process Unit,
    Run (ProcessStep sampleClient sampleConfig sampleEqual Runtime.plain)
        (.start sampleClient sampleConfig ⟨false, false⟩) emptiedEvents before ∧
      Run (ProcessStep sampleClient sampleConfig sampleEqual Runtime.plain) s
        (inners (deliver twoTrayHost ++ [.install Runtime.plain])) s' ∧
      s.main.up = true ∧ s.cause = before.cause ∧ Blind s.pipe s'.pipe ∧ s'.pipe.offered.length = 1 := by
  have ran : ((emptiedEvents.foldlM (Process.step sampleClient sampleConfig sampleEqual)
      (.start sampleClient sampleConfig ⟨false, false⟩)).bind fun before : Process Unit =>
        (before.step sampleClient sampleConfig sampleEqual (.republish (.error ("", true)))).bind fun s =>
          (inners (deliver twoTrayHost ++ [.install Runtime.plain])).foldlM
            (Process.step sampleClient sampleConfig sampleEqual) s).map
      (fun s => s.pipe.offered.length) = some 1 := by decide +kernel
  obtain ⟨s', moved, offered⟩ := Option.map_eq_some_iff.mp ran
  obtain ⟨before, first, moved⟩ := Option.bind_eq_some_iff.mp moved
  obtain ⟨s, failed, second⟩ := Option.bind_eq_some_iff.mp moved
  have plain : Runtime.plain.SortsAlike Runtime.plain := fun _ _ => rfl
  have boot := bootEvents_sorts twoTrayHost
  have sorts : ∀ event ∈ emptiedEvents, event.Sorts Runtime.plain := by
    intro event member
    rcases List.mem_append.mp member with early | late
    · exact boot event early
    · exact inners_sorts (by simp [deliver, PipeEvent.Sorts, plain]) event late
  have rest : Run (ProcessStep sampleClient sampleConfig sampleEqual Runtime.plain) s _ s' :=
    processRun_of_foldlM (inners_sorts (by simp [deliver, PipeEvent.Sorts, plain])) second
  obtain ⟨up, cause, blind⟩ := recoverable_blind sampleClient sampleConfig Runtime.plain sampleEqual
    ⟨trivial, failed⟩ rest
  exact ⟨before, s, s', processRun_of_foldlM sorts first, rest, up, cause, blind, offered⟩

end DraDriver.Plugin

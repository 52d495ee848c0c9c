/-
**Concurrent calls of one driver.**

`Prepare`, `Unprepare` and `SetResources` are called from any number of goroutines, and every one of
them runs its whole body under the lock of the `DeviceState`. Here each goroutine waits, takes its
disk operations one at a time, releases the lock and returns, perhaps after others that got the lock
later; the process may die at any point and start again.

* **`concurrent_sequential`** — however the goroutines interleave, what they return and what they
  leave on disk is what a sequential run of whole calls, in the order of the lock, returns and leaves.
  The run theorems of the driver, whose events are whole calls, so hold of concurrent callers.
* **`concurrent_deterministic`** — calls on distinct claims return and leave the same whatever the
  schedule.
-/

import DraDriver.Base.Lock
import DraDriver.Plugin.Batch

namespace DraDriver.Plugin

open DraDriver.Base DraDriver.Profiles DraDriver.Tenstorrent

variable {Config : Type}

/-! ### The goroutines -/

/-- What takes the lock: a call with the profile it meets, or the startup of the next process. -/
inductive Request (Config : Type)
  | prepare (rt rt' : Runtime) (handler : ConfigHandler Config) (claim : ResourceClaim)
  | unprepare (uid : ClaimUID)
  | setResources (driverResources : DriverResources)
  | start (driverResources : DriverResources)

/-- What a call comes to. -/
inductive Response (Config : Type)
  | prepared (result : Except String (List KubeletDevice))
  | unprepared (result : Except String Unit)
  | installed
  | started (result : Except String (DeviceState Config))

/-- An operation on the disk of a system. -/
def System.act {config : DriverConfig Config} (mayFail : DiskOp → Bool) (sys : System config)
    (o : DiskOp) (q : Outcome) : o.Answer × System config :=
  ((sys.disk.act mayFail o q).1, { sys with disk := (sys.disk.act mayFail o q).2 })

/-- Calls need a running driver, a startup that none is running. -/
def Request.ready {config : DriverConfig Config} (sys : System config) : Request Config → Bool
  | .start _ => sys.running.isNone
  | _ => sys.running.isSome

/-- The body of a call; one without a driver is not `ready`. -/
def Request.body {config : DriverConfig Config} (sys : System config) :
    Request Config → DiskProg (Response Config)
  | .prepare rt rt' handler claim =>
    match sys.running with
    | some driver => do
      return .prepared (← (driver.withHandler handler).state.prepare rt rt' claim)
    | none => return .installed
  | .unprepare uid =>
    match sys.running with
    | some driver => do return .unprepared (← driver.state.unprepare uid)
    | none => return .installed
  | .setResources _ => return .installed
  | .start driverResources => do return .started (← newDeviceState config driverResources)

/-- What a call leaves in memory. -/
def Request.finish {config : DriverConfig Config}
    (deepEqual : DriverResources → DriverResources → Bool) :
    Request Config → Response Config → System config → System config
  | .setResources driverResources, _, sys =>
    { sys with running := sys.running.map fun driver => driver.setResources deepEqual driverResources }
  | .start driverResources, .started result, sys =>
    { sys with running := afterStartup config driverResources (some result) }
  | _, _, sys => sys

/-- The `DeviceState` behind its lock. -/
def lockedState (config : DriverConfig Config) (deepEqual : DriverResources → DriverResources → Bool) :
    Service DiskOp DiskOp.Answer (System config) (Request Config) (Response Config) where
  ready request sys := request.ready sys
  body request sys := request.body sys
  finish := Request.finish deepEqual
  fall sys := { sys with running := none }

/-! ### Whole calls are events of a run -/

/-- An event without the note whether the checkpoint read of an `Unprepare` failed. -/
def Event.unflagged : Event → Event
  | .unprepare uid _ result => .unprepare uid false result
  | event => event

/-- The event of a call; a process that dies outside of any call leaves none. -/
def eventOf : Seen Outcome (Request Config) (Response Config) → Option Event
  | .released (.prepare _ _ _ claim) _ (.prepared result) => some (.prepare claim (some result))
  | .released (.unprepare uid) _ (.unprepared result) => some (.unprepare uid false (some result))
  | .released (.setResources driverResources) _ _ => some (.setResources driverResources)
  | .released (.start driverResources) _ (.started result) =>
    some (.restart driverResources (succeeded (some result)))
  | .crashed (some (.prepare _ _ _ claim, _)) => some (.prepare claim none)
  | .crashed (some (.unprepare uid, _)) => some (.unprepare uid false none)
  | .crashed (some (.start driverResources, _)) => some (.restart driverResources false)
  | _ => none

/-- The system of a run is as far as the process: a process that died leaves its driver behind, for
the next startup to replace. -/
def Follows {config : DriverConfig Config} (sys run : System config) : Prop :=
  run.disk = sys.disk ∧ ∀ driver, sys.running = some driver → run.running = some driver

section Sequential

variable {config : DriverConfig Config} {mayFail : DiskOp → Bool}
  {deepEqual : DriverResources → DriverResources → Bool} {sys sys' run : System config}

/-- A program on the disk of a system, its result renamed. -/
theorem exec_onDisk {α : Type} (p : DiskProg α) (f : α → Response Config) (outcomes : List Outcome)
    (sys : System config) :
    Prog.exec (System.act mayFail) (do return f (← p)) outcomes sys =
      ({ sys with disk := (Prog.exec (Disk.act mayFail) p outcomes sys.disk).1 },
        (Prog.exec (Disk.act mayFail) p outcomes sys.disk).2.map f) := by
  have embedded : Prog.exec (System.act mayFail) p outcomes { sys with disk := sys.disk } =
      ({ sys with disk := (Prog.exec (Disk.act mayFail) p outcomes sys.disk).1 },
        (Prog.exec (Disk.act mayFail) p outcomes sys.disk).2) :=
    Prog.exec_embed (fun disk => ({ sys with disk := disk } : System config)) (fun _ _ _ => rfl) p
      outcomes sys.disk
  refine (Prog.exec_map f p outcomes sys).trans ?_
  rw [show sys = { sys with disk := sys.disk } from rfl, embedded]

/-- A run of the driver that follows the process while a driver is running. -/
theorem Follows.running {driver : Instance config} {disk : Disk}
    (follows : Follows ⟨disk, some driver⟩ run) : run = ⟨disk, some driver⟩ := by
  obtain ⟨sameDisk, sameDriver⟩ := follows
  cases run
  cases sameDisk
  cases sameDriver driver rfl
  rfl

/-- The startup of a run replaces whatever is running. -/
theorem Follows.start {result : Option (Except String (DeviceState Config))}
    {driverResources : DriverResources} {outcomes : List Outcome} (follows : Follows sys run)
    (returned : (Prog.exec (Disk.act mayFail) (newDeviceState config driverResources) outcomes
      sys.disk).2 = result) :
    Step config mayFail deepEqual run (.restart driverResources (succeeded result))
      ⟨(Prog.exec (Disk.act mayFail) (newDeviceState config driverResources) outcomes sys.disk).1,
        afterStartup config driverResources result⟩ := by
  obtain ⟨disk, running⟩ := run
  cases follows.1
  exact .restart running driverResources outcomes (Prod.ext rfl returned)

/-- **A whole call is an event of a run**, and so is one that the process died in. -/
theorem event_of_atomicStep {seen : Seen Outcome (Request Config) (Response Config)}
    (step : AtomicStep (System.act mayFail) (lockedState config deepEqual) sys seen sys')
    (follows : Follows sys run) :
    ∃ events run', Run (Step config mayFail deepEqual) run events run' ∧
      events.map Event.unflagged = (eventOf seen).toList ∧ Follows sys' run' := by
  obtain ⟨disk, running⟩ := sys
  cases step with
  | @released request outcomes result _ after ready ran =>
    cases request with
    | prepare rt rt' handler claim =>
      obtain ⟨driver, rfl⟩ := Option.isSome_iff_exists.mp ready
      obtain rfl := follows.running
      obtain ⟨rfl, returned⟩ := Prod.mk.inj ((exec_onDisk _ _ _ _).symm.trans ran)
      obtain ⟨devices, given, rfl⟩ := Option.map_eq_some_iff.mp returned
      exact ⟨_, _, .snoc (.nil _) (.of_prepare rt rt' handler driver claim outcomes disk given),
        rfl, rfl, fun _ same => same⟩
    | unprepare uid =>
      obtain ⟨driver, rfl⟩ := Option.isSome_iff_exists.mp ready
      obtain rfl := follows.running
      obtain ⟨rfl, returned⟩ := Prod.mk.inj ((exec_onDisk _ _ _ _).symm.trans ran)
      obtain ⟨answer, given, rfl⟩ := Option.map_eq_some_iff.mp returned
      exact ⟨_, _, .snoc (.nil _) (.of_unprepare driver uid outcomes disk rfl given), rfl, rfl,
        fun _ same => same⟩
    | setResources driverResources =>
      obtain ⟨driver, rfl⟩ := Option.isSome_iff_exists.mp ready
      obtain rfl := follows.running
      have untouched : (⟨disk, some driver⟩ : System config) = after := by
        cases outcomes with
        | nil => cases ran
        | cons q rest => exact (Prod.mk.inj ran).1
      subst untouched
      exact ⟨_, _, .snoc (.nil _) (.setResources driver driverResources), rfl, rfl, fun _ same => same⟩
    | start driverResources =>
      obtain ⟨rfl, returned⟩ := Prod.mk.inj ((exec_onDisk _ _ _ _).symm.trans ran)
      obtain ⟨answer, given, rfl⟩ := Option.map_eq_some_iff.mp returned
      exact ⟨_, _, .snoc (.nil _) (follows.start given), rfl, rfl, fun _ same => same⟩
  | @crashedInside request outcomes _ after ready ran =>
    cases request with
    | prepare rt rt' handler claim =>
      obtain ⟨driver, rfl⟩ := Option.isSome_iff_exists.mp ready
      obtain rfl := follows.running
      obtain ⟨rfl, cut⟩ := Prod.mk.inj ((exec_onDisk _ _ _ _).symm.trans ran)
      have given := Option.map_eq_none_iff.mp cut
      exact ⟨_, _, .snoc (.nil _) (.of_prepare rt rt' handler driver claim outcomes disk given),
        rfl, rfl, fun _ none => by cases none⟩
    | unprepare uid =>
      obtain ⟨driver, rfl⟩ := Option.isSome_iff_exists.mp ready
      obtain rfl := follows.running
      obtain ⟨rfl, cut⟩ := Prod.mk.inj ((exec_onDisk _ _ _ _).symm.trans ran)
      have given := Option.map_eq_none_iff.mp cut
      exact ⟨_, _, .snoc (.nil _) (.of_unprepare driver uid outcomes disk rfl given), rfl, rfl,
        fun _ none => by cases none⟩
    | setResources driverResources =>
      have untouched : (⟨disk, running⟩ : System config) = after := by
        cases outcomes with
        | nil => exact (Prod.mk.inj ran).1
        | cons q rest => cases ran
      subst untouched
      exact ⟨[], run, .nil run, rfl, follows.1, fun _ none => by cases none⟩
    | start driverResources =>
      obtain ⟨rfl, cut⟩ := Prod.mk.inj ((exec_onDisk _ _ _ _).symm.trans ran)
      have given := Option.map_eq_none_iff.mp cut
      exact ⟨_, _, .snoc (.nil _) (follows.start given), rfl, rfl,
        fun _ none => by cases none⟩
  | crashed => exact ⟨[], run, .nil run, rfl, follows.1, fun _ none => by cases none⟩

/-- A run of whole calls is a run of the driver's events. -/
theorem sequential_of_atomic {seen : List (Seen Outcome (Request Config) (Response Config))}
    (calls : Run (AtomicStep (System.act mayFail) (lockedState config deepEqual)) sys seen sys')
    (follows : Follows sys run) :
    ∃ events run', Run (Step config mayFail deepEqual) run events run' ∧
      events.map Event.unflagged = seen.filterMap eventOf ∧ Follows sys' run' := by
  induction calls with
  | nil => exact ⟨[], run, .nil _, rfl, follows⟩
  | @snoc seen _ label _ _ last ih =>
    obtain ⟨events, run', before, same, follows'⟩ := ih
    obtain ⟨more, run'', after, shown, follows''⟩ := event_of_atomicStep last follows'
    refine ⟨events ++ more, run'', before.append after, ?_, follows''⟩
    rw [List.map_append, same, shown, List.filterMap_append, List.filterMap_cons]
    cases eventOf label <;> rfl

end Sequential

/-- **Concurrent calls are sequential.** Whatever order the goroutines get the lock in and wherever
the process dies, the calls that have released the lock, in the order of their releases, are the events
of a sequential run with the same results, and a call that has returned is one of them. While no call
is running that run has the same disk and driver. What happens later only extends it, so that a call
that has returned comes before every call that is made after. -/
theorem concurrent_sequential (config : DriverConfig Config) (mayFail : DiskOp → Bool)
    (deepEqual : DriverResources → DriverResources → Bool) {disk : Disk}
    {moves later : List (LockMove Outcome (Request Config))}
    {process process' : Locked DiskOp DiskOp.Answer (System config) Outcome (Request Config)
      (Response Config)}
    (run : Run (Locked.Step (System.act mayFail) (lockedState config deepEqual))
      (Locked.start ⟨disk, none⟩) moves process)
    (goesOn : Run (Locked.Step (System.act mayFail) (lockedState config deepEqual)) process later
      process') :
    ∃ events sys more sys', Run (Step config mayFail deepEqual) ⟨disk, none⟩ events sys ∧
      events.map Event.unflagged = process.log.filterMap eventOf ∧
      process.returned.Subperm process.released ∧
      (process.holder = none → sys.disk = process.shared.disk ∧
        ∀ driver, process.shared.running = some driver → sys.running = some driver) ∧
      Run (Step config mayFail deepEqual) sys more sys' ∧
      (events ++ more).map Event.unflagged = process'.log.filterMap eventOf := by
  obtain ⟨inside, seen, logged, calls⟩ := run_atomic Locked.inside_start run
  obtain ⟨-, seen', logged', calls'⟩ := run_atomic inside goesOn
  have nothing : Follows (⟨disk, none⟩ : System config) ⟨disk, none⟩ := ⟨rfl, fun _ same => same⟩
  obtain ⟨events, sys, ran, same, follows⟩ := sequential_of_atomic calls nothing
  obtain ⟨more, sys', ran', same', -⟩ := sequential_of_atomic calls' follows
  have shown : events.map Event.unflagged = process.log.filterMap eventOf := by
    rw [same, logged]
    rfl
  refine ⟨events, sys, more, sys', ran, shown, returned_subperm run, fun free => ?_, ran', ?_⟩
  · rwa [Locked.committed_free free] at follows
  · rw [List.map_append, shown, same', logged', List.filterMap_append]

/-- A startup, then two goroutines: the later one gets the lock first and has released it. -/
def busyProcess : List (LockMove Outcome (Request Unit)) :=
  [.arrive (.start (sampleResources ["tt-0", "tt-1"])), .enter 0] ++ List.replicate 5 (.op .done) ++
  [.unlock .done, .leave 0,
    .arrive (.prepare .plain .plain sampleConfig.configHandler (sampleClaim uidA ["tt-0"])),
    .arrive (.prepare .plain .plain sampleConfig.configHandler (sampleClaim uidB ["tt-1"])),
    .enter 1, .op .done, .op .done, .op .done, .unlock .done]

/-- The other one gets the lock before the first has returned, and the process dies when it has written
its spec file and not yet its checkpoint. -/
def dyingProcess : List (LockMove Outcome (Request Unit)) :=
  [.enter 0, .op .done, .leave 0, .op .done, .crash]

/-- Its two calls are a sequential run that leaves the same disk, and the one the process died in
follows them. -/
theorem dyingProcess_sequential :
    ∃ (process process' : Locked DiskOp DiskOp.Answer (System sampleConfig) Outcome (Request Unit)
        (Response Unit)) (events : List Event) (sys : System sampleConfig) (more : List Event)
        (sys' : System sampleConfig),
      process.log.length = 2 ∧ process.returned.length = 1 ∧ process'.log.length = 3 ∧
      process'.returned.length = 2 ∧
      Run (Step sampleConfig noneFails sampleEqual) ⟨{ checkpoint := none, root := ∅ }, none⟩ events sys ∧
      events.map Event.unflagged = process.log.filterMap eventOf ∧ sys.disk = process.shared.disk ∧
      Run (Step sampleConfig noneFails sampleEqual) sys more sys' ∧
      (events ++ more).map Event.unflagged = process'.log.filterMap eventOf := by
  have evaluated : ((busyProcess.foldlM (Locked.step (System.act noneFails)
      (lockedState sampleConfig sampleEqual)) (Locked.start ⟨{ checkpoint := none, root := ∅ }, none⟩)).map
        fun process => (process.log.length, process.returned.length, process.holder.isNone,
          (dyingProcess.foldlM (Locked.step (System.act noneFails) (lockedState sampleConfig sampleEqual))
            process).map fun process' => (process'.log.length, process'.returned.length))) =
      some (2, 1, true, some (3, 2)) := by
    decide +kernel
  obtain ⟨process, ran, shown⟩ := Option.map_eq_some_iff.mp evaluated
  simp only [Prod.mk.injEq, Option.isNone_iff_eq_none] at shown
  obtain ⟨logged, returned, free, after⟩ := shown
  obtain ⟨process', ran', shown'⟩ := Option.map_eq_some_iff.mp after
  obtain ⟨logged', returned'⟩ := Prod.mk.inj shown'
  obtain ⟨events, sys, more, sys', run, same, -, idle, run', same'⟩ := concurrent_sequential sampleConfig
    noneFails sampleEqual (run_of_foldlM ran) (run_of_foldlM ran')
  exact ⟨process, process', events, sys, more, sys', logged, returned, logged', returned', run, same,
    (idle free).1, run', same'⟩

/-! ### Calls on distinct claims -/

section Distinct

variable (order : Orders) (s : DeviceState Config)

/-- The calls of one driver while its resources and its profile stay as they are. -/
def lockedCalls : Service DiskOp DiskOp.Answer Disk Call CallResult where
  ready _ _ := true
  body call _ := s.call order call
  finish _ _ disk := disk
  fall disk := disk

/-- The calls one after the other, each with every disk operation done. -/
def callAll (calls : List Call) (disk : Disk) : List CallResult × Disk :=
  runAll (fun call => Disk.run (s.call order call)) calls disk

variable {order s} {disk disk' : Disk}

theorem act_noneFails (disk : Disk) (o : DiskOp) (q : Outcome) :
    disk.act noneFails o q = disk.perform o := by
  cases q <;> rfl

/-- Whole calls that all return are the calls one after the other. -/
theorem callAll_of_atomic {seen : List (Seen Outcome Call CallResult)}
    (calls : Run (AtomicStep (Disk.act noneFails) (lockedCalls order s)) disk seen disk')
    (alive : ∀ label ∈ seen, label.done.isSome = true) :
    callAll order s ((seen.filterMap Seen.done).map Prod.fst) disk =
      ((seen.filterMap Seen.done).map Prod.snd, disk') := by
  induction calls with
  | nil => rfl
  | @snoc seen _ label _ _ last ih =>
    have earlier := ih fun label member => alive label (List.mem_append_left _ member)
    have isDone := alive label (List.mem_append_right _ (List.mem_singleton_self _))
    rw [List.filterMap_append, List.map_append, List.map_append]
    unfold callAll at earlier ⊢
    rw [runAll_append, earlier]
    cases last with
    | @released call outcomes result _ left _ ran =>
      have alone : Disk.run (s.call order call) _ = (result, left) :=
        Prog.run_of_exec act_noneFails _ outcomes ran
      show (_ ++ [(Disk.run (s.call order call) _).1], (Disk.run (s.call order call) _).2) = _
      rw [alone]
      rfl
    | crashedInside => cases isDone
    | crashed => cases isDone

/-- **Concurrent calls on distinct claims do not depend on the schedule.** Whatever order the
goroutines get the lock in, each comes to what it would have come to alone, which is what it returns,
and together they leave the checkpoint and the files that the calls leave in any other order. -/
theorem concurrent_deterministic (order : Orders) (s : DeviceState Config) {disk : Disk}
    (present : disk.checkpoint.isSome = true) {moves : List (LockMove Outcome Call)}
    {process : Locked DiskOp DiskOp.Answer Disk Outcome Call CallResult}
    (run : Run (Locked.Step (Disk.act noneFails) (lockedCalls order s)) (Locked.start disk) moves process)
    (free : process.holder = none) (alive : ∀ label ∈ process.log, label.done.isSome = true)
    {calls : List Call} (perm : (process.released.map Prod.fst).Perm calls)
    (distinct : (calls.map Call.uid).Nodup) :
    (∀ done ∈ process.released, done.2 = (Disk.run (s.call order done.1) disk).1) ∧
      process.returned ⊆ process.released ∧ process.shared.Same (callAll order s calls disk).2 := by
  obtain ⟨-, seen, logged, atomic⟩ := run_atomic Locked.inside_start run
  rw [Locked.committed_free free, show seen = process.log from logged.symm] at atomic
  have ran : callAll order s (process.released.map Prod.fst) disk =
      (process.released.map Prod.snd, process.shared) := callAll_of_atomic atomic alive
  have isLocal := (calls_byEffect order s).isLocal
  have distinct' : ((process.released.map Prod.fst).map Call.uid).Nodup :=
    (perm.map Call.uid).nodup_iff.mpr distinct
  have apart := ownPlaces_pairwise s.cdi Call.uid distinct'
  refine ⟨?_, (returned_subperm run).subset, ?_⟩
  · have answers := isLocal.answers apart present
    rw [show runAll _ _ disk = _ from ran, List.map_map] at answers
    exact List.map_inj_left.mp answers
  · rw [show process.shared = (callAll order s (process.released.map Prod.fst) disk).2 from
      (congrArg Prod.snd ran).symm]
    exact ⟨(isLocal.keepsAll _ present).trans (isLocal.keepsAll _ present).symm,
      isLocal.perm apart perm present⟩

/-- Two goroutines wait, the later one gets the lock first, and the other returns first. -/
def overtaking : List (LockMove Outcome Call) :=
  [.arrive (.prepare (sampleClaim uidA ["tt-0"])), .arrive (.prepare (sampleClaim uidB ["tt-1"])),
    .enter 1, .op .done, .op .done, .op .done, .unlock .done,
    .enter 0, .op .done, .op .done, .op .done, .unlock .done, .leave 1, .leave 0]

/-- Both calls return as they would have alone. -/
theorem overtaking_deterministic :
    ∃ process : Locked DiskOp DiskOp.Answer Disk Outcome Call CallResult,
      process.released.map (fun done => done.1.uid) = [uidB, uidA] ∧
      process.returned.map (fun done => done.1.uid) = [uidA, uidB] ∧
      ∀ done ∈ process.returned, done.2 = (Disk.run
        ((initialState sampleConfig (sampleResources ["tt-0", "tt-1"])).call
          (fun _ => (Runtime.plain, Runtime.plain)) done.1) { checkpoint := some ∅, root := ∅ }).1 := by
  have evaluated : ((overtaking.foldlM (Locked.step (Disk.act noneFails) (lockedCalls
      (fun _ => (Runtime.plain, Runtime.plain))
      (initialState sampleConfig (sampleResources ["tt-0", "tt-1"]))))
      (Locked.start { checkpoint := some ∅, root := ∅ })).map fun process =>
        (process.released.map (fun done => done.1.uid), process.returned.map (fun done => done.1.uid),
          process.holder.isNone, process.log.all fun label => label.done.isSome)) =
      some ([uidB, uidA], [uidA, uidB], true, true) := by
    decide +kernel
  obtain ⟨process, ran, shown⟩ := Option.map_eq_some_iff.mp evaluated
  simp only [Prod.mk.injEq] at shown
  obtain ⟨order, order', free, alive⟩ := shown
  have distinct : ((process.released.map Prod.fst).map Call.uid).Nodup := by
    rw [List.map_map, show process.released.map (Call.uid ∘ Prod.fst) = [uidB, uidA] from order]
    decide
  obtain ⟨answers, among, -⟩ := concurrent_deterministic _ _ rfl (run_of_foldlM ran)
    (Option.isNone_iff_eq_none.mp free) (List.all_eq_true.mp alive) (List.Perm.refl _) distinct
  exact ⟨process, order, order', fun done member => answers done (among member)⟩

end Distinct

end DraDriver.Plugin

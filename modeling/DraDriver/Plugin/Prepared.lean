/-
**What `prepareDevices` returns with the tenstorrent profile.**

The profile refuses every opaque config, so that a claim it prepares has all its results under the
nil config, and `prepareDevices` is a function of the allocation, the allocatable names and the
profile's device table, whatever order the maps are visited in.

* `prepareCalling_eq` — what `prepareDevices` returns, and the calls of `ApplyConfig` it makes.
* `sortResults_ok_iff` — the lookup loop groups the driver's own results by their config.
* **`prepareDevices_ok_iff`** — when it succeeds, and with which devices.
* `prepareDevices_ordered` — what the devices are with any other config handler.
* `prepareDevices_transfer` — a later state in which the devices are allocatable and resolve to the
  same edits prepares the same devices.
-/

import DraDriver.Plugin.State
import DraDriver.Tenstorrent.Edits

namespace DraDriver.Plugin

open DraDriver.Base DraDriver.Profiles DraDriver.Tenstorrent

variable {Config : Type}

/-- The driver with the profile as its config handler. -/
def DeviceState.withProfile (s : DeviceState Config) (p : Profile) : DeviceState Config :=
  { s with configHandler := p.configHandler Config }

/-- The results of an allocation that are this driver's. -/
def ownResults (driverName : String) (results : List DeviceRequestAllocationResult) :
    List DeviceRequestAllocationResult :=
  results.filter fun result => result.driver = driverName

/-- What `prepareDevices` always puts first. -/
def withNilConfig (configs : List (OpaqueDeviceConfig Config)) : List (OpaqueDeviceConfig Config) :=
  { requests := [], config := none } :: configs

/-! ### The calls of `ApplyConfig` -/

/-- What one turn of the merge loop comes to, given the handler's answer. -/
def DeviceState.mergeAnswer (s : DeviceState Config) (configs : List (OpaqueDeviceConfig Config))
    (edits : PerDeviceCDIContainerEdits) (entry : ℕ × List DeviceRequestAllocationResult) :
    Except String PerDeviceCDIContainerEdits :=
  match s.configHandler.applyConfig (callOf configs entry).1 (callOf configs entry).2 with
  | .error e => .error ("error applying config: " ++ e)
  | .ok containerEdits => .ok (copyEdits edits containerEdits)

/-- The calls a loop over the configs makes: it stops after one that fails. -/
def callsMade (handler : ConfigHandler Config) : List (ApplyCall Config) → List (ApplyCall Config)
  | [] => []
  | call :: rest => call :: match handler.applyConfig call.1 call.2 with
    | .error _ => []
    | .ok _ => callsMade handler rest

/-- A step that returned goes on with its record. -/
theorem calling_bind_ok {α β : Type} {x : Calling Config α} {f : α → Calling Config β}
    {calls calls' : List (ApplyCall Config)} {a : α} (ran : x calls = (.ok a, calls')) :
    (x >>= f) calls = f a calls' := by
  show ExceptT.bindCont f (x calls).1 (x calls).2 = _
  rw [ran]
  rfl

/-- A step that failed is the last. -/
theorem calling_bind_error {α β : Type} {x : Calling Config α} {f : α → Calling Config β}
    {calls calls' : List (ApplyCall Config)} {e : String} (ran : x calls = (.error e, calls')) :
    (x >>= f) calls = (.error e, calls') := by
  show ExceptT.bindCont f (x calls).1 (x calls).2 = _
  rw [ran]
  rfl

/-- **The merge loop**: what it returns, and the calls it adds to the record. -/
theorem mergeLoop_eq (s : DeviceState Config) (configs : List (OpaqueDeviceConfig Config)) :
    ∀ (entries : List (ℕ × List DeviceRequestAllocationResult)) (edits : PerDeviceCDIContainerEdits)
      (calls : List (ApplyCall Config)),
      (entries.foldlM (s.mergeEdits configs) edits : Calling Config _) calls =
        (entries.foldlM (s.mergeAnswer configs) edits,
          calls ++ callsMade s.configHandler (entries.map (callOf configs)))
  | [], edits, calls => by
    rw [List.map_nil, callsMade, List.append_nil]
    rfl
  | entry :: entries, edits, calls => by
    have turn : s.mergeEdits configs edits entry calls =
        (s.mergeAnswer configs edits entry, calls ++ [callOf configs entry]) := by
      unfold DeviceState.mergeEdits DeviceState.mergeAnswer DeviceState.applyConfig
      cases s.configHandler.applyConfig (callOf configs entry).1 (callOf configs entry).2 <;> rfl
    rw [List.foldlM_cons, List.foldlM_cons, List.map_cons, callsMade]
    unfold DeviceState.mergeAnswer at turn ⊢
    cases answer : s.configHandler.applyConfig (callOf configs entry).1 (callOf configs entry).2 with
    | error e =>
      simp only [answer] at turn
      exact calling_bind_error turn
    | ok containerEdits =>
      simp only [answer] at turn
      rw [calling_bind_ok turn, mergeLoop_eq s configs entries, List.append_assoc]
      rfl

/-- **`prepareDevices` with its record**: what it returns, and the calls it adds once the configs and
the devices have passed their checks. -/
theorem prepareCalling_eq (rt rt' : Runtime) (s : DeviceState Config) (claim : ResourceClaim)
    (calls : List (ApplyCall Config)) :
    s.prepareCalling rt rt' claim calls =
      match claim.allocation with
      | none => (.error "claim not yet allocated", calls)
      | some allocation =>
        match getOpaqueDeviceConfigs s.configDecoder s.driverName allocation.config with
        | .error e => (.error ("error getting opaque device configs: " ++ e), calls)
        | .ok configs =>
          match allocation.results.foldlM (s.sortResult (withNilConfig configs)) ∅ with
          | .error e => (.error e, calls)
          | .ok table =>
            (((rt.range table).foldlM (s.mergeAnswer (withNilConfig configs)) ∅).map fun edits =>
              appended ((rt'.range table).flatMap fun entry =>
                entry.2.map (s.preparedDevice claim.uid edits (checkAdminAccess allocation))),
              calls ++ callsMade s.configHandler ((rt.range table).map (callOf (withNilConfig configs)))) := by
  unfold DeviceState.prepareCalling
  cases claim.allocation with
  | none => rfl
  | some allocation =>
    simp only
    cases getOpaqueDeviceConfigs s.configDecoder s.driverName allocation.config with
    | error e => rfl
    | ok configs =>
      simp only [withNilConfig]
      cases allocation.results.foldlM (s.sortResult ({ requests := [], config := none } :: configs)) ∅ with
      | error e => rfl
      | ok table =>
        have loop := mergeLoop_eq s ({ requests := [], config := none } :: configs) (rt.range table) ∅ calls
        show ((rt.range table).foldlM (s.mergeEdits _) ∅ >>= _) calls =
          (Except.map _ ((rt.range table).foldlM (s.mergeAnswer _) ∅), _)
        cases merged : (rt.range table).foldlM
            (s.mergeAnswer ({ requests := [], config := none } :: configs)) ∅ with
        | error e =>
          rw [merged] at loop
          exact calling_bind_error loop
        | ok edits =>
          rw [merged] at loop
          exact calling_bind_ok loop

/-- What `prepareDevices` returns, each step in `Except`. -/
theorem prepareDevices_eq (rt rt' : Runtime) (s : DeviceState Config) (claim : ResourceClaim) :
    s.prepareDevices rt rt' claim =
      match claim.allocation with
      | none => .error "claim not yet allocated"
      | some allocation =>
        match getOpaqueDeviceConfigs s.configDecoder s.driverName allocation.config with
        | .error e => .error ("error getting opaque device configs: " ++ e)
        | .ok configs => do
          let table ← allocation.results.foldlM (s.sortResult (withNilConfig configs)) ∅
          let edits ← (rt.range table).foldlM (s.mergeAnswer (withNilConfig configs)) ∅
          return appended ((rt'.range table).flatMap fun entry =>
            entry.2.map (s.preparedDevice claim.uid edits (checkAdminAccess allocation))) := by
  unfold DeviceState.prepareDevices
  rw [prepareCalling_eq]
  cases claim.allocation with
  | none => rfl
  | some allocation =>
    simp only
    cases getOpaqueDeviceConfigs s.configDecoder s.driverName allocation.config with
    | error e => rfl
    | ok configs =>
      simp only
      cases allocation.results.foldlM (s.sortResult (withNilConfig configs)) ∅ with
      | error e => rfl
      | ok table =>
        show Except.map _ ((rt.range table).foldlM _ ∅) = ((rt.range table).foldlM _ ∅ >>= _)
        cases (rt.range table).foldlM (s.mergeAnswer (withNilConfig configs)) ∅ <;> rfl

/-! ### Configs -/

/-- Every config the driver decodes is an object. -/
theorem getOpaqueDeviceConfigs_some {decoder : String → Except String Config} {driverName : String}
    {possible : List DeviceAllocationConfiguration} {configs : List (OpaqueDeviceConfig Config)}
    (decoded : getOpaqueDeviceConfigs decoder driverName possible = .ok configs) :
    ∀ config ∈ configs, config.config.isSome = true := by
  unfold getOpaqueDeviceConfigs at decoded
  cases sources : splitConfigs possible with
  | error e =>
    rw [sources] at decoded
    cases decoded
  | ok split =>
    rw [sources] at decoded
    refine foldlM_ok_invariant (P := fun configs => ∀ config ∈ configs, config.config.isSome = true)
      ?_ decoded (by simp)
    intro before config after objects turn
    unfold decodeStep at turn
    split at turn
    · cases turn
    · split at turn
      · cases turn
        exact objects
      · split at turn
        · cases turn
        · cases turn
          intro other member
          rcases List.mem_append.mp member with old | new
          · exact objects other old
          · cases List.mem_singleton.mp new
            rfl

/-- The nil config applies to every request, so that some config always does. -/
theorem configFor_withNilConfig (configs : List (OpaqueDeviceConfig Config)) (request : String) :
    ∃ place config, configFor (withNilConfig configs) request = some place ∧
      (withNilConfig configs)[place]? = some config := by
  let applying := (withNilConfig configs).zipIdx.filter fun placed =>
    placed.1.requests.length = 0 ∨ request ∈ placed.1.requests
  have first : (({ requests := [], config := none } : OpaqueDeviceConfig Config), 0) ∈ applying := by
    refine List.mem_filter.mpr ⟨?_, by simp⟩
    rw [withNilConfig, List.zipIdx_cons]
    exact List.mem_cons_self
  have filled : applying.map Prod.snd ≠ [] := by
    intro none
    rw [List.map_eq_nil_iff.mp none] at first
    cases first
  have last := List.getLast?_eq_some_getLast filled
  obtain ⟨⟨config, place⟩, member, same⟩ := List.mem_map.mp (List.getLast_mem filled)
  refine ⟨place, config, ?_, ?_⟩
  · exact last.trans (congrArg some same.symm)
  · exact List.mem_zipIdx_iff_getElem?.mp (List.mem_of_mem_filter member)

/-- The config a result falls under. -/
def placeOf (configs : List (OpaqueDeviceConfig Config)) (result : DeviceRequestAllocationResult) : ℕ :=
  (configFor (withNilConfig configs) result.request).getD 0

/-- Only the nil config is not an object. -/
theorem placeOf_eq_zero {configs : List (OpaqueDeviceConfig Config)}
    (objects : ∀ config ∈ configs, config.config.isSome = true)
    (result : DeviceRequestAllocationResult)
    (nil : ((withNilConfig configs)[placeOf configs result]?.bind OpaqueDeviceConfig.config).isSome =
      false) : placeOf configs result = 0 := by
  obtain ⟨place, config, applies, found⟩ := configFor_withNilConfig configs result.request
  have here : placeOf configs result = place := by rw [placeOf, applies, Option.getD_some]
  rw [here] at nil ⊢
  rw [found, Option.bind_some] at nil
  cases place with
  | zero => rfl
  | succ place =>
    rw [withNilConfig, List.getElem?_cons_succ] at found
    rw [objects config (List.mem_of_getElem? found)] at nil
    cases nil

/-! ### The lookup loop -/

/-- One turn of the loop. -/
theorem sortResult_ok_iff (s : DeviceState Config) (configs : List (OpaqueDeviceConfig Config))
    (table table' : ConfigResultsMap) (result : DeviceRequestAllocationResult) :
    s.sortResult (withNilConfig configs) table result = .ok table' ↔
      (result.driver = s.driverName → result.device ∈ s.allocatable) ∧
        table' = if result.driver = s.driverName then groupStep (placeOf configs) table result
          else table := by
  obtain ⟨place, config, applies, _⟩ := configFor_withNilConfig configs result.request
  have here : placeOf configs result = place := by rw [placeOf, applies, Option.getD_some]
  rw [DeviceState.sortResult]
  by_cases ours : result.driver = s.driverName
  · rw [if_neg (not_not.mpr ours), if_pos ours]
    by_cases known : result.device ∈ s.allocatable
    · rw [if_neg (not_not.mpr known), applies, groupStep, here]
      simp [known, eq_comm]
    · rw [if_pos known]
      simp [known, ours]
  · rw [if_pos ours, if_neg ours]
    simp [ours, eq_comm]

/-- The loop from any table. -/
theorem sortResults_from (s : DeviceState Config) (configs : List (OpaqueDeviceConfig Config))
    (results : List DeviceRequestAllocationResult) (table table' : ConfigResultsMap) :
    results.foldlM (s.sortResult (withNilConfig configs)) table = .ok table' ↔
      (∀ result ∈ ownResults s.driverName results, result.device ∈ s.allocatable) ∧
        table' = (ownResults s.driverName results).foldl (groupStep (placeOf configs)) table := by
  induction results generalizing table with
  | nil =>
    show Except.ok table = Except.ok table' ↔ _
    simp [ownResults, eq_comm]
  | cons result rest ih =>
    have own : ownResults s.driverName (result :: rest) = if result.driver = s.driverName then
        result :: ownResults s.driverName rest else ownResults s.driverName rest := by
      rw [ownResults, List.filter_cons]
      simp only [decide_eq_true_eq]
      rfl
    rw [List.foldlM_cons, except_bind_eq_ok, own]
    simp only [sortResult_ok_iff, ih]
    by_cases ours : result.driver = s.driverName
    · rw [if_pos ours, if_pos ours, List.forall_mem_cons, List.foldl_cons]
      constructor
      · rintro ⟨_, ⟨known, rfl⟩, others, last⟩
        exact ⟨⟨known ours, others⟩, last⟩
      · rintro ⟨⟨known, others⟩, last⟩
        exact ⟨_, ⟨fun _ => known, rfl⟩, others, last⟩
    · rw [if_neg ours, if_neg ours]
      constructor
      · rintro ⟨_, ⟨_, rfl⟩, others, last⟩
        exact ⟨others, last⟩
      · rintro ⟨others, last⟩
        exact ⟨_, ⟨fun same => absurd same ours, rfl⟩, others, last⟩

/-- **The lookup loop** succeeds exactly when the driver's own results are all allocatable, and then
groups them by their config. -/
theorem sortResults_ok_iff (s : DeviceState Config) (configs : List (OpaqueDeviceConfig Config))
    (results : List DeviceRequestAllocationResult) (table : ConfigResultsMap) :
    results.foldlM (s.sortResult (withNilConfig configs)) ∅ = .ok table ↔
      (∀ result ∈ ownResults s.driverName results, result.device ∈ s.allocatable) ∧
        table = groupBy (placeOf configs) (ownResults s.driverName results) :=
  sortResults_from s configs results ∅ table

/-! ### The devices -/

/-- The device a result is prepared as. -/
def DeviceState.expectedDevice (s : DeviceState Config) (p : Profile) (uid : ClaimUID)
    (hasAdminAccess : Bool) (result : DeviceRequestAllocationResult) : PreparedDevice :=
  { device :=
      { requestNames := [result.request]
        poolName := result.pool
        deviceName := result.device
        cdiDeviceIds := s.cdi.getClaimDevices uid [result.device] }
    containerEdits := (p.unitByDevice.lookup result.device).map unitEdits
    adminAccess := hasAdminAccess }

/-- The profile accepts the results of a config only if it is the nil one. -/
theorem mergeAnswer_nil {s : DeviceState Config} {p : Profile}
    {configs : List (OpaqueDeviceConfig Config)} {before after : PerDeviceCDIContainerEdits}
    {entry : ℕ × List DeviceRequestAllocationResult}
    (merged : (s.withProfile p).mergeAnswer configs before entry = .ok after) :
    (configs[entry.1]?.bind OpaqueDeviceConfig.config).isSome = false := by
  by_contra object
  have refused : p.applyConfig (configs[entry.1]?.bind OpaqueDeviceConfig.config) entry.2 =
      .error .unsupported := if_pos (Bool.not_eq_false _ ▸ object)
  unfold DeviceState.mergeAnswer at merged
  have handled : (s.withProfile p).configHandler.applyConfig (callOf configs entry).1
      (callOf configs entry).2 = .error ApplyConfigError.unsupported.message :=
    congrArg (Except.mapError ApplyConfigError.message) refused
  rw [handled] at merged
  cases merged

/-- The edits of a claim whose results are all under the nil config. -/
theorem mergeAnswer_known (rt : Runtime) (s : DeviceState Config) {p : Profile} (anchored : p.Anchored)
    (configs : List (OpaqueDeviceConfig Config)) {results : List DeviceRequestAllocationResult}
    (nil : ∀ result ∈ results, placeOf configs result = 0)
    (known : ∀ result ∈ results, result.device ∈ p.unitByDevice) :
    ∃ edits, (rt.range (groupBy (placeOf configs) results)).foldlM
        ((s.withProfile p).mergeAnswer (withNilConfig configs)) ∅ = .ok edits ∧
      ∀ result ∈ results, edits.lookup result.device =
        (p.unitByDevice.lookup result.device).map unitEdits := by
  rw [range_groupBy_const rt nil]
  split
  · rename_i none
    exact ⟨∅, rfl, by simp [none]⟩
  · obtain ⟨edits, applied, lookups⟩ := applyConfig_known Config anchored results known
    have handled : (s.withProfile p).configHandler.applyConfig (callOf (withNilConfig configs) (0, results)).1
        (callOf (withNilConfig configs) (0, results)).2 = .ok edits :=
      congrArg (Except.mapError ApplyConfigError.message) applied
    refine ⟨copyEdits ∅ edits, ?_, fun result member => ?_⟩
    · rw [List.foldlM_cons, DeviceState.mergeAnswer, handled]
      rfl
    · have copied := lookup_copy Runtime.plain ∅ edits result.device
      rw [AList.lookup_empty, Option.or_none, Runtime.range, Runtime.plain, List.foldl_map] at copied
      exact (copied.trans (lookups result.device)).trans
        (if_pos (List.mem_map_of_mem (f := fun result => result.device) member))

/-- A result of a loop that ended is under the nil config and known to the profile. -/
theorem known_of_mergeAnswer {rt : Runtime} {s : DeviceState Config} {p : Profile}
    (anchored : p.Anchored) {configs : List (OpaqueDeviceConfig Config)}
    (objects : ∀ config ∈ configs, config.config.isSome = true)
    {results : List DeviceRequestAllocationResult} {edits : PerDeviceCDIContainerEdits}
    (merged : (rt.range (groupBy (placeOf configs) results)).foldlM
      ((s.withProfile p).mergeAnswer (withNilConfig configs)) ∅ = .ok edits) :
    ∀ result ∈ results, placeOf configs result = 0 ∧ result.device ∈ p.unitByDevice := by
  have nil : ∀ result ∈ results, placeOf configs result = 0 := by
    intro result member
    have grouped : (groupBy (placeOf configs) results).lookup (placeOf configs result) =
        some (results.filter fun other => placeOf configs other = placeOf configs result) := by
      rw [lookup_groupBy, if_neg]
      exact List.ne_nil_of_mem (List.mem_filter.mpr ⟨member, by simp⟩)
    obtain ⟨before, after, turn⟩ := foldlM_ok_turn merged _ ((mem_range_iff rt _ _ _).mpr grouped)
    exact placeOf_eq_zero objects result (mergeAnswer_nil turn)
  refine fun result member => ⟨nil result member, ?_⟩
  by_contra unknown
  rw [range_groupBy_const rt nil, if_neg (List.ne_nil_of_mem member)] at merged
  obtain ⟨before, after, turn⟩ := foldlM_ok_turn merged _ List.mem_cons_self
  obtain ⟨device, -, -, refused⟩ := applyConfig_unknown Config anchored results ⟨result, member, unknown⟩
  have handled : (s.withProfile p).configHandler.applyConfig (callOf (withNilConfig configs) (0, results)).1
      (callOf (withNilConfig configs) (0, results)).2 =
        .error (ApplyConfigError.notInTopology device).message :=
    congrArg (Except.mapError ApplyConfigError.message) refused
  rw [DeviceState.mergeAnswer, handled] at turn
  cases turn

/-- The devices of a claim whose results are all under the nil config. -/
theorem preparedDevices_nil (rt' : Runtime) (s : DeviceState Config) (p : Profile) (uid : ClaimUID)
    (hasAdminAccess : Bool) (configs : List (OpaqueDeviceConfig Config))
    {results : List DeviceRequestAllocationResult} {edits : PerDeviceCDIContainerEdits}
    (nil : ∀ result ∈ results, placeOf configs result = 0)
    (lookups : ∀ result ∈ results, edits.lookup result.device =
      (p.unitByDevice.lookup result.device).map unitEdits) :
    ((rt'.range (groupBy (placeOf configs) results)).flatMap fun entry =>
      entry.2.map ((s.withProfile p).preparedDevice uid edits hasAdminAccess)) =
        results.map (s.expectedDevice p uid hasAdminAccess) := by
  have each : results.map ((s.withProfile p).preparedDevice uid edits hasAdminAccess) =
      results.map (s.expectedDevice p uid hasAdminAccess) := by
    refine List.map_congr_left fun result member => ?_
    rw [DeviceState.preparedDevice, lookups result member]
    rfl
  rw [range_groupBy_const rt' nil]
  split
  · rename_i none
    rw [none]
    rfl
  · rw [List.flatMap_cons, List.flatMap_nil, List.append_nil]
    exact each

/-- **`prepareDevices` with the profile**: it succeeds exactly when the allocation's configs decode
and each of the driver's own results is under the nil config, allocatable and known to the profile,
and its devices are then the results in their order, each with the edits of its unit. -/
theorem prepareDevices_ok_iff (rt rt' : Runtime) (s : DeviceState Config) {p : Profile}
    (anchored : p.Anchored) (claim : ResourceClaim) (devices : PreparedDevices) :
    (s.withProfile p).prepareDevices rt rt' claim = .ok devices ↔
      ∃ allocation configs, claim.allocation = some allocation ∧
        getOpaqueDeviceConfigs s.configDecoder s.driverName allocation.config = .ok configs ∧
        (∀ result ∈ ownResults s.driverName allocation.results, placeOf configs result = 0 ∧
          result.device ∈ s.allocatable ∧ result.device ∈ p.unitByDevice) ∧
        devices = appended ((ownResults s.driverName allocation.results).map
          (s.expectedDevice p claim.uid (checkAdminAccess allocation))) := by
  rw [prepareDevices_eq]
  cases claim.allocation with
  | none => simp
  | some allocation =>
    simp only [Option.some.injEq, exists_eq_left', exists_and_left]
    have same : getOpaqueDeviceConfigs (s.withProfile p).configDecoder (s.withProfile p).driverName
        allocation.config = getOpaqueDeviceConfigs s.configDecoder s.driverName allocation.config := rfl
    rw [same]
    cases decoded : getOpaqueDeviceConfigs s.configDecoder s.driverName allocation.config with
    | error e => simp
    | ok configs =>
      simp only [Except.ok.injEq, exists_eq_left']
      have sorts := sortResults_ok_iff (s.withProfile p) configs allocation.results
      have objects := getOpaqueDeviceConfigs_some decoded
      constructor
      · intro ran
        obtain ⟨table, sorted, ran⟩ := except_bind_eq_ok.mp ran
        obtain ⟨edits, merged, ran⟩ := except_bind_eq_ok.mp ran
        obtain ⟨allocatable, rfl⟩ := (sorts table).mp sorted
        have known := known_of_mergeAnswer anchored objects merged
        obtain ⟨same, again, lookups⟩ := mergeAnswer_known rt s anchored configs
          (fun result member => (known result member).1) fun result member => (known result member).2
        cases Except.ok.inj (again.symm.trans merged)
        refine ⟨fun result member => ⟨(known result member).1, allocatable result member,
          (known result member).2⟩, ?_⟩
        rw [← Except.ok.inj ran]
        exact congrArg appended (preparedDevices_nil rt' s p claim.uid (checkAdminAccess allocation)
          configs (fun result member => (known result member).1) lookups)
      · rintro ⟨known, rfl⟩
        obtain ⟨edits, merged, lookups⟩ := mergeAnswer_known rt s anchored configs
          (fun result member => (known result member).1) fun result member => (known result member).2.2
        have sorted := (sorts _).mpr ⟨fun result member => (known result member).2.1, rfl⟩
        refine except_bind_eq_ok.mpr ⟨_, sorted, except_bind_eq_ok.mpr ⟨_, merged, ?_⟩⟩
        exact congrArg (fun devices => Except.ok (appended devices)) (preparedDevices_nil rt' s p
          claim.uid (checkAdminAccess allocation) configs (fun result member => (known result member).1)
          lookups)

@[simp] theorem rangeDevices_appended (devices : List PreparedDevice) :
    rangeDevices (appended devices) = devices := by
  unfold appended
  split
  · rename_i empty
    exact (List.length_eq_zero_iff.mp empty).symm
  · rfl

/-- **The devices of any config handler** are the driver's own results, in the order the maps are
visited, each with the flag of the claim. -/
theorem prepareDevices_ordered {rt rt' : Runtime} {s : DeviceState Config} {claim : ResourceClaim}
    {devices : PreparedDevices} (prepared : s.prepareDevices rt rt' claim = .ok devices) :
    ∃ (allocation : Allocation) (ordered : List DeviceRequestAllocationResult)
      (edits : PerDeviceCDIContainerEdits), claim.allocation = some allocation ∧
      ordered.Perm (ownResults s.driverName allocation.results) ∧
      (∀ result ∈ ordered, result.device ∈ s.allocatable) ∧
      rangeDevices devices =
        ordered.map (s.preparedDevice claim.uid edits (checkAdminAccess allocation)) := by
  rw [prepareDevices_eq] at prepared
  split at prepared
  · cases prepared
  · rename_i allocation allocated
    split at prepared
    · cases prepared
    · rename_i configs decoded
      obtain ⟨table, sorted, prepared⟩ := except_bind_eq_ok.mp prepared
      obtain ⟨edits, merged, prepared⟩ := except_bind_eq_ok.mp prepared
      obtain ⟨allocatable, rfl⟩ := (sortResults_ok_iff s configs allocation.results table).mp sorted
      have visited := range_groupBy_perm rt' (placeOf configs) (ownResults s.driverName
        allocation.results)
      refine ⟨allocation, _, edits, allocated, visited,
        fun result member => allocatable result (visited.mem_iff.mp member), ?_⟩
      rw [← Except.ok.inj prepared, rangeDevices_appended, List.map_flatMap]

section Later

variable {rt rt' : Runtime} {s : DeviceState Config} {p : Profile} {claim : ResourceClaim}
  {devices : PreparedDevices}

/-- A prepared device carries the edits of its unit. -/
theorem prepareDevices_edits (anchored : p.Anchored)
    (prepared : (s.withProfile p).prepareDevices rt rt' claim = .ok devices) :
    ∀ device ∈ rangeDevices devices,
      (p.unitByDevice.lookup device.device.deviceName).map unitEdits = device.containerEdits := by
  obtain ⟨allocation, configs, _, _, _, rfl⟩ :=
    (prepareDevices_ok_iff rt rt' s anchored claim devices).mp prepared
  intro device member
  rw [rangeDevices_appended] at member
  obtain ⟨result, _, rfl⟩ := List.mem_map.mp member
  rfl

/-- **A later state prepares the same devices** if they are allocatable there and its profile gives
them the same edits. -/
theorem prepareDevices_transfer {s' : DeviceState Config} {p' : Profile} (anchored : p.Anchored)
    (anchored' : p'.Anchored) (driverName : s'.driverName = s.driverName)
    (decoder : s'.configDecoder = s.configDecoder) (cdi : s'.cdi = s.cdi)
    (prepared : (s.withProfile p).prepareDevices rt rt' claim = .ok devices)
    (allocatable : ∀ device ∈ rangeDevices devices, device.device.deviceName ∈ s'.allocatable)
    (known : ∀ device ∈ rangeDevices devices, device.device.deviceName ∈ p'.unitByDevice)
    (edits : ∀ device ∈ rangeDevices devices,
      (p'.unitByDevice.lookup device.device.deviceName).map unitEdits = device.containerEdits)
    (again again' : Runtime) :
    (s'.withProfile p').prepareDevices again again' claim = .ok devices := by
  obtain ⟨allocation, configs, allocated, decoded, nil, rfl⟩ :=
    (prepareDevices_ok_iff rt rt' s anchored claim devices).mp prepared
  rw [rangeDevices_appended] at allocatable known edits
  refine (prepareDevices_ok_iff again again' s' anchored' claim _).mpr
    ⟨allocation, configs, allocated, ?_, ?_, ?_⟩
  · rw [decoder, driverName]
    exact decoded
  · rw [driverName]
    exact fun result member => ⟨(nil result member).1,
      allocatable _ (List.mem_map_of_mem member), known _ (List.mem_map_of_mem member)⟩
  · rw [driverName]
    refine congrArg appended (List.map_congr_left fun result member => ?_)
    have same : (p'.unitByDevice.lookup result.device).map unitEdits =
        (p.unitByDevice.lookup result.device).map unitEdits := edits _ (List.mem_map_of_mem member)
    unfold DeviceState.expectedDevice
    rw [same, cdi]

/-- The nodes the profile's table assigns to each device a claim was allocated. -/
def assignedNodes (p : Profile) (driverName : String) (claim : ResourceClaim) :
    List (String × Option (List DeviceNode)) :=
  (ownResults driverName ((claim.allocation.map Allocation.results).getD [])).map fun result =>
    (claim.uid.text ++ "-" ++ result.device,
      (p.unitByDevice.lookup result.device).map fun unit => unit.bundles.map deviceNode)

/-- **The spec of a prepared claim injects exactly the assigned nodes.** -/
theorem claimSpec_nodes (anchored : p.Anchored)
    (prepared : (s.withProfile p).prepareDevices rt rt' claim = .ok devices) {spec : CdiSpec}
    (derived : s.cdi.claimSpec claim.uid devices = .ok spec) :
    spec.devices.map (fun device => (device.name, some device.containerEdits.deviceNodes)) =
      assignedNodes p s.driverName claim := by
  obtain ⟨allocation, configs, allocated, _, known, rfl⟩ :=
    (prepareDevices_ok_iff rt rt' s anchored claim devices).mp prepared
  rw [(claimSpec_eq derived).2, rangeDevices_appended, List.map_map, List.map_map, assignedNodes, allocated]
  refine List.map_congr_left fun result member => ?_
  obtain ⟨unit, found⟩ := Option.isSome_iff_exists.mp
    (AList.lookup_isSome.mpr (known result member).2.2)
  simp [CDIHandler.claimDevice, DeviceState.expectedDevice, found, ContainerEdits.append, unitEdits]

end Later

end DraDriver.Plugin

/-
**Which opaque config governs a result.**

`GetOpaqueDeviceConfigs` puts class configs before claim configs, `prepareDevices` scans them from the
back and hands each config its results in one call of `ApplyConfig`.

* `getOpaqueDeviceConfigs_ok_iff` — when the configs decode, and in which order they come.
* `placeOf_governs` — the scan finds the config that ranks above all others that apply.
* `mergeAnswers_ok_iff` — the loop over the configs merges the answers to its calls, in their order.
* **`config_precedence`** — a result is handed over once and under that config, as long as no call
  before it failed, and `prepareDevices` fails for no reason but the ones it checks.
-/

import DraDriver.Plugin.Isolation

namespace DraDriver.Plugin

open DraDriver.Base DraDriver.Profiles DraDriver.Tenstorrent

variable {Config : Type}

/-! ### Rank -/

/-- The config at place `i` is addressed to the driver and applies to the request. -/
def Applies (driverName : String) (possible : List DeviceAllocationConfiguration) (request : String)
    (i : ℕ) : Prop :=
  ∃ config, possible[i]? = some config ∧
    config.opaqueConfig.map OpaqueConfiguration.driver = some driverName ∧
    (config.requests = [] ∨ request ∈ config.requests)

/-- Claim configs rank above class configs, and of one source the later above the earlier. -/
def Outranks (possible : List DeviceAllocationConfiguration) (i j : ℕ) : Prop :=
  ∃ above below, possible[i]? = some above ∧ possible[j]? = some below ∧
    (above.source = .fromClaim ∧ below.source = .fromClass ∨ above.source = below.source ∧ j < i)

/-- **The config a request is under**: the highest that applies, decoded, or nil if none does. -/
def Governs (decoder : String → Except String Config) (driverName : String)
    (possible : List DeviceAllocationConfiguration) (request : String) : Option Config → Prop
  | none => ∀ i, ¬ Applies driverName possible request i
  | some decoded => ∃ i config content, Applies driverName possible request i ∧
      (∀ j, Applies driverName possible request j → j ≠ i → Outranks possible i j) ∧
      possible[i]? = some config ∧ config.opaqueConfig = some content ∧
      decoder content.parameters = .ok decoded

/-- A config that the driver cannot take. -/
def DeviceAllocationConfiguration.Refused (decoder : String → Except String Config)
    (driverName : String) (config : DeviceAllocationConfiguration) : Prop :=
  (∃ text, config.source = .invalid text) ∨ config.opaqueConfig = none ∨
    ∃ content e, config.opaqueConfig = some content ∧ content.driver = driverName ∧
      decoder content.parameters = .error e

/-- The class configs, then the claim configs. -/
def ranked (possible : List DeviceAllocationConfiguration) : List DeviceAllocationConfiguration :=
  (possible.filter fun config => config.source = .fromClass) ++
    possible.filter fun config => !decide (config.source = .fromClass)

theorem mem_ranked {possible : List DeviceAllocationConfiguration}
    {config : DeviceAllocationConfiguration} : config ∈ ranked possible ↔ config ∈ possible := by
  unfold ranked
  rw [List.mem_append, List.mem_filter, List.mem_filter]
  by_cases source : config.source = .fromClass <;> simp [source]

/-! ### Decoding -/

/-- What a config is decoded to. -/
def DecodedAs (decoder : String → Except String Config) (config : DeviceAllocationConfiguration)
    (decoded : OpaqueDeviceConfig Config) : Prop :=
  ∃ content value, config.opaqueConfig = some content ∧ decoder content.parameters = .ok value ∧
    decoded = { requests := config.requests, config := some value }

section Decoding

variable {decoder : String → Except String Config} {driverName : String}

theorem decodeStep_ok_iff {before after : List (OpaqueDeviceConfig Config)}
    {config : DeviceAllocationConfiguration} :
    decodeStep decoder driverName before config = .ok after ↔
      config.opaqueConfig.isSome = true ∧
        if config.opaqueConfig.map OpaqueConfiguration.driver = some driverName then
          ∃ decoded, DecodedAs decoder config decoded ∧ after = before ++ [decoded]
        else after = before := by
  unfold decodeStep DecodedAs
  cases held : config.opaqueConfig with
  | none => simp
  | some content =>
    by_cases ours : content.driver = driverName
    · cases decoded : decoder content.parameters with
      | error e => simp [ours, decoded]
      | ok value => simp [ours, decoded, eq_comm]
    · simp [ours, eq_comm (a := before)]

/-- The decoding loop from any list. -/
theorem decodeLoop_ok_iff {configs : List DeviceAllocationConfiguration}
    {before after : List (OpaqueDeviceConfig Config)} :
    configs.foldlM (decodeStep decoder driverName) before = .ok after ↔
      (∀ config ∈ configs, config.opaqueConfig.isSome = true) ∧
        ∃ decoded, List.Forall₂ (DecodedAs decoder) (ownConfigs driverName configs) decoded ∧
          after = before ++ decoded := by
  induction configs generalizing before with
  | nil =>
    show Except.ok before = Except.ok after ↔ _
    constructor
    · rintro ⟨⟩
      exact ⟨by simp, [], .nil, (List.append_nil _).symm⟩
    · rintro ⟨_, _, ⟨⟩, rfl⟩
      rw [List.append_nil]
  | cons config configs ih =>
    have own : ownConfigs driverName (config :: configs) =
        if config.opaqueConfig.map OpaqueConfiguration.driver = some driverName then
          config :: ownConfigs driverName configs else ownConfigs driverName configs := by
      rw [ownConfigs, List.filter_cons]
      simp only [decide_eq_true_eq]
      rfl
    rw [List.foldlM_cons, except_bind_eq_ok, own]
    simp only [decodeStep_ok_iff, ih, List.forall_mem_cons]
    by_cases ours : config.opaqueConfig.map OpaqueConfiguration.driver = some driverName
    · simp only [if_pos ours, List.forall₂_cons_left_iff]
      constructor
      · rintro ⟨_, ⟨holds, first, decoded, rfl⟩, others, rest, later, rfl⟩
        exact ⟨⟨holds, others⟩, first :: rest, ⟨first, rest, decoded, later, rfl⟩, by simp⟩
      · rintro ⟨⟨holds, others⟩, _, ⟨first, rest, decoded, later, rfl⟩, rfl⟩
        exact ⟨_, ⟨holds, first, decoded, rfl⟩, others, rest, later, by simp⟩
    · simp only [if_neg ours]
      constructor
      · rintro ⟨_, ⟨holds, rfl⟩, others, rest⟩
        exact ⟨⟨holds, others⟩, rest⟩
      · rintro ⟨⟨holds, others⟩, rest⟩
        exact ⟨_, ⟨holds, rfl⟩, others, rest⟩

/-- **The configs decode** exactly when all are opaque and of a known source and the driver's own
can be decoded, and come class configs first. -/
theorem getOpaqueDeviceConfigs_ok_iff {possible : List DeviceAllocationConfiguration}
    {configs : List (OpaqueDeviceConfig Config)} :
    getOpaqueDeviceConfigs decoder driverName possible = .ok configs ↔
      (∀ config ∈ possible, config.WellFormed) ∧
        List.Forall₂ (DecodedAs decoder) (ownConfigs driverName (ranked possible)) configs := by
  have loop : ∀ split, splitConfigs possible = .ok split →
      getOpaqueDeviceConfigs decoder driverName possible =
        (split.1 ++ split.2).foldlM (decodeStep decoder driverName) [] := by
    intro split sources
    unfold getOpaqueDeviceConfigs
    rw [sources]
    rfl
  constructor
  · intro decoded
    obtain ⟨split, sources, _⟩ := except_bind_eq_ok.mp decoded
    have valid := splitConfigs_sources sources
    rw [loop _ (splitConfigs_eq valid)] at decoded
    obtain ⟨holds, rest, opposite, rfl⟩ := decodeLoop_ok_iff.mp decoded
    exact ⟨fun config member => ⟨holds config (mem_ranked.mpr member), valid config member⟩, opposite⟩
  · rintro ⟨wellFormed, opposite⟩
    rw [loop _ (splitConfigs_wellFormed wellFormed)]
    exact decodeLoop_ok_iff.mpr ⟨fun config member => (wellFormed config (mem_ranked.mp member)).holds,
      configs, opposite, rfl⟩

/-- The configs fail to decode exactly when one of them is refused. -/
theorem getOpaqueDeviceConfigs_error_iff {possible : List DeviceAllocationConfiguration} :
    (∃ e, getOpaqueDeviceConfigs decoder driverName possible = .error e) ↔
      ∃ config ∈ possible, config.Refused decoder driverName := by
  constructor
  · rintro ⟨e, failed⟩
    by_contra taken
    push Not at taken
    have wellFormed : ∀ config ∈ possible, config.WellFormed := by
      intro config member
      refine ⟨Option.isSome_iff_ne_none.mpr fun none => taken config member (Or.inr (Or.inl none)), ?_⟩
      cases source : config.source with
      | fromClass => exact Or.inl rfl
      | fromClaim => exact Or.inr rfl
      | invalid text => exact absurd (Or.inl ⟨text, source⟩) (taken config member)
    obtain ⟨configs, opposite⟩ : ∃ configs, List.Forall₂ (DecodedAs decoder)
        (ownConfigs driverName (ranked possible)) configs := by
      refine exists_forall₂ fun config member => ?_
      obtain ⟨listed, ours⟩ := List.mem_filter.mp member
      obtain ⟨content, held⟩ :=
        Option.isSome_iff_exists.mp (wellFormed config (mem_ranked.mp listed)).holds
      cases decoded : decoder content.parameters with
      | ok value => exact ⟨_, content, value, held, decoded, rfl⟩
      | error e =>
        rw [held, Option.map_some, decide_eq_true_eq, Option.some.injEq] at ours
        exact absurd (Or.inr (Or.inr ⟨content, e, held, ours, decoded⟩))
          (taken config (mem_ranked.mp listed))
    rw [getOpaqueDeviceConfigs_ok_iff.mpr ⟨wellFormed, opposite⟩] at failed
    cases failed
  · rintro ⟨config, member, refused⟩
    cases result : getOpaqueDeviceConfigs decoder driverName possible with
    | error e => exact ⟨e, rfl⟩
    | ok configs =>
      obtain ⟨wellFormed, opposite⟩ := getOpaqueDeviceConfigs_ok_iff.mp result
      rcases refused with ⟨text, source⟩ | none | ⟨content, e, held, ours, failed⟩
      · have known := (wellFormed config member).source
        rw [source] at known
        simp at known
      · have holds := (wellFormed config member).holds
        rw [none] at holds
        cases holds
      · have own : config ∈ ownConfigs driverName (ranked possible) :=
          List.mem_filter.mpr ⟨mem_ranked.mpr member, by simp [held, ours]⟩
        obtain ⟨_, _, content', value, held', decoded, _⟩ := forall₂_exists_left opposite.flip own
        cases Option.some.inj (held.symm.trans held')
        rw [failed] at decoded
        cases decoded

end Decoding

/-! ### The scan -/

/-- The places of a list come in order. -/
theorem zipIdx_increasing {α : Type} (l : List α) : l.zipIdx.Pairwise fun a b => a.2 < b.2 := by
  have places : (l.zipIdx.map Prod.snd).Pairwise (· < ·) := by
    rw [List.zipIdx_map_snd]
    exact List.pairwise_lt_range'
  exact List.pairwise_map.mp places

/-- The scan stops at the last config that applies. -/
theorem placeOf_last (configs : List (OpaqueDeviceConfig Config))
    (result : DeviceRequestAllocationResult) :
    (∃ config, (withNilConfig configs)[placeOf configs result]? = some config ∧
      (config.requests = [] ∨ result.request ∈ config.requests)) ∧
      ∀ (k : ℕ) config, (withNilConfig configs)[k]? = some config →
        (config.requests = [] ∨ result.request ∈ config.requests) → k ≤ placeOf configs result := by
  let applying := (withNilConfig configs).zipIdx.filter fun placed =>
    placed.1.requests.length = 0 ∨ result.request ∈ placed.1.requests
  have member_iff : ∀ config k, (config, k) ∈ applying ↔ (withNilConfig configs)[k]? = some config ∧
      (config.requests = [] ∨ result.request ∈ config.requests) := by
    intro config k
    rw [List.mem_filter, List.mem_zipIdx_iff_getElem?]
    simp
  obtain ⟨place, _, applies, _⟩ := configFor_withNilConfig configs result.request
  have here : placeOf configs result = place := by rw [placeOf, applies, Option.getD_some]
  obtain ⟨front, back⟩ := List.getLast?_eq_some_iff.mp applies
  obtain ⟨before, ⟨config, k⟩, split, rfl, same⟩ : ∃ before last, applying = before ++ [last] ∧
      before.map Prod.snd = front ∧ last.2 = place := by
    obtain ⟨before, last, split, fronts, lasts⟩ := List.map_eq_append_iff.mp back
    obtain ⟨last, rfl, same⟩ := List.map_eq_singleton_iff.mp lasts
    exact ⟨before, last, split, fronts, same⟩
  cases same
  have increasing : applying.Pairwise fun a b => a.2 < b.2 :=
    (zipIdx_increasing (withNilConfig configs)).filter _
  rw [here]
  refine ⟨⟨config, (member_iff config _).mp (by rw [split]; simp)⟩, fun k' config' found applies' => ?_⟩
  have listed : (config', k') ∈ applying := (member_iff config' k').mpr ⟨found, applies'⟩
  rw [split] at listed
  rcases List.mem_append.mp listed with earlier | last
  · have sorted : (before ++ [(config, k)]).Pairwise fun a b => a.2 < b.2 := split ▸ increasing
    exact ((List.pairwise_append.mp sorted).2.2 _ earlier _ List.mem_cons_self).le
  · cases List.mem_singleton.mp last
    exact le_rfl

/-- The ranked configs with their places. -/
def rankedPlaces (driverName : String) (possible : List DeviceAllocationConfiguration) :
    List (DeviceAllocationConfiguration × ℕ) :=
  ((possible.zipIdx.filter fun entry => entry.1.source = .fromClass) ++
    possible.zipIdx.filter fun entry => !decide (entry.1.source = .fromClass)).filter
      fun entry => entry.1.opaqueConfig.map OpaqueConfiguration.driver = some driverName

theorem rankedPlaces_configs (driverName : String) (possible : List DeviceAllocationConfiguration) :
    (rankedPlaces driverName possible).map Prod.fst = ownConfigs driverName (ranked possible) := by
  have kept_fst : ∀ (kept : DeviceAllocationConfiguration → Bool)
      (entries : List (DeviceAllocationConfiguration × ℕ)),
      (entries.filter fun entry => kept entry.1).map Prod.fst = (entries.map Prod.fst).filter kept :=
    fun kept entries => List.filter_map.symm
  unfold rankedPlaces ownConfigs ranked
  rw [kept_fst fun config => config.opaqueConfig.map OpaqueConfiguration.driver = some driverName,
    List.map_append, kept_fst fun config => config.source = .fromClass,
    kept_fst fun config => !decide (config.source = .fromClass), List.zipIdx_map_fst]

theorem mem_rankedPlaces {driverName : String} {possible : List DeviceAllocationConfiguration}
    {config : DeviceAllocationConfiguration} {i : ℕ} :
    (config, i) ∈ rankedPlaces driverName possible ↔ possible[i]? = some config ∧
      config.opaqueConfig.map OpaqueConfiguration.driver = some driverName := by
  unfold rankedPlaces
  rw [List.mem_filter, List.mem_append, List.mem_filter, List.mem_filter,
    List.mem_zipIdx_iff_getElem?]
  by_cases source : config.source = .fromClass <;> simp [source]

/-- Of two ranked configs the later outranks the earlier. -/
theorem rankedPlaces_outrank {driverName : String} {possible : List DeviceAllocationConfiguration}
    (wellFormed : ∀ config ∈ possible, config.WellFormed) :
    (rankedPlaces driverName possible).Pairwise fun a b => Outranks possible b.2 a.2 := by
  have found : ∀ {entry : DeviceAllocationConfiguration × ℕ} {kept : _ → Bool},
      entry ∈ possible.zipIdx.filter kept → possible[entry.2]? = some entry.1 := fun member =>
    List.mem_zipIdx_iff_getElem?.mp (List.mem_of_mem_filter member)
  have increasing := zipIdx_increasing possible
  refine List.Pairwise.filter _ (List.pairwise_append.mpr ⟨?_, ?_, ?_⟩)
  · refine (increasing.filter _).imp_of_mem fun {a b} inA inB below => ?_
    have sources := And.intro (List.mem_filter.mp inA).2 (List.mem_filter.mp inB).2
    simp only [decide_eq_true_eq] at sources
    exact ⟨b.1, a.1, found inB, found inA, Or.inr ⟨sources.2.trans sources.1.symm, below⟩⟩
  · refine (increasing.filter _).imp_of_mem fun {a b} inA inB below => ?_
    have claims : ∀ {entry : DeviceAllocationConfiguration × ℕ}, entry ∈ possible.zipIdx.filter
        (fun entry => !decide (entry.1.source = .fromClass)) → entry.1.source = .fromClaim := by
      intro entry member
      have listed := List.mem_of_getElem? (found member)
      exact (wellFormed _ listed).source.resolve_left (by simpa using (List.mem_filter.mp member).2)
    exact ⟨b.1, a.1, found inB, found inA, Or.inr ⟨(claims inB).trans (claims inA).symm, below⟩⟩
  · intro a inA b inB
    have listed := List.mem_of_getElem? (found inB)
    refine ⟨b.1, a.1, found inB, found inA, Or.inl ⟨?_, by simpa using (List.mem_filter.mp inA).2⟩⟩
    exact (wellFormed _ listed).source.resolve_left (by simpa using (List.mem_filter.mp inB).2)

/-- **The scan finds the config that governs the request.** -/
theorem placeOf_governs {decoder : String → Except String Config} {driverName : String}
    {possible : List DeviceAllocationConfiguration} {configs : List (OpaqueDeviceConfig Config)}
    (decoded : getOpaqueDeviceConfigs decoder driverName possible = .ok configs)
    (result : DeviceRequestAllocationResult) :
    Governs decoder driverName possible result.request
      ((withNilConfig configs)[placeOf configs result]?.bind OpaqueDeviceConfig.config) := by
  obtain ⟨wellFormed, opposite⟩ := getOpaqueDeviceConfigs_ok_iff.mp decoded
  obtain ⟨⟨config, found, applies⟩, last⟩ := placeOf_last configs result
  rw [← rankedPlaces_configs, List.forall₂_map_left_iff] at opposite
  -- where a config that applies stands among the decoded ones
  have stands : ∀ i, Applies driverName possible result.request i → ∃ k entry,
      (rankedPlaces driverName possible)[k]? = some entry ∧ entry.2 = i ∧
        k + 1 ≤ placeOf configs result := by
    rintro i ⟨config, listed, ours, applies⟩
    obtain ⟨k, bound, here⟩ := List.mem_iff_getElem.mp (mem_rankedPlaces.mpr ⟨listed, ours⟩)
    have bound' := opposite.length_eq ▸ bound
    obtain ⟨content, value, _, _, same⟩ := opposite.get bound bound'
    refine ⟨k, (config, i), List.getElem?_eq_some_iff.mpr ⟨bound, here⟩, rfl,
      last (k + 1) configs[k] (List.getElem?_eq_getElem bound') ?_⟩
    have requests : configs[k].requests = config.requests := by
      have stated := congrArg OpaqueDeviceConfig.requests same
      simp only [List.get_eq_getElem, here] at stated
      exact stated
    rw [requests]
    exact applies
  rw [found, Option.bind_some]
  cases place : placeOf configs result with
  | zero =>
    rw [place] at found stands
    cases found
    intro i applied
    obtain ⟨k, _, _, _, low⟩ := stands i applied
    omega
  | succ k =>
    rw [place] at found stands
    rw [withNilConfig, List.getElem?_cons_succ] at found
    obtain ⟨bound, rfl⟩ := List.getElem?_eq_some_iff.mp found
    have bound' := opposite.length_eq.symm ▸ bound
    obtain ⟨content, value, held, value_eq, same⟩ := opposite.get bound' bound
    simp only [List.get_eq_getElem] at held same
    rw [same]
    obtain ⟨listed, ours⟩ := mem_rankedPlaces.mp (List.getElem_mem bound')
    refine ⟨_, _, content, ⟨_, listed, ours, ?_⟩, fun j applied other => ?_, listed, held, value_eq⟩
    · rw [same] at applies
      exact applies
    · obtain ⟨k', entry, here, rfl, low⟩ := stands j applied
      obtain ⟨bound'', rfl⟩ := List.getElem?_eq_some_iff.mp here
      refine List.pairwise_iff_getElem.mp (rankedPlaces_outrank wellFormed) k' k bound'' bound' ?_
      refine lt_of_le_of_ne (Nat.le_of_succ_le_succ low) fun equal => other ?_
      subst equal
      rfl

/-! ### The calls -/

/-- The configs with their results, in the order the map is visited. -/
def planned (rt : Runtime) (configs : List (OpaqueDeviceConfig Config)) (table : ConfigResultsMap) :
    List (ApplyCall Config) :=
  (rt.range table).map (callOf configs)

section Calls

variable {handler : ConfigHandler Config}

theorem callsMade_isPrefix : ∀ (calls : List (ApplyCall Config)), callsMade handler calls <+: calls
  | [] => List.nil_prefix
  | call :: rest => by
    rw [callsMade]
    cases handler.applyConfig call.1 call.2 with
    | error e => exact ⟨rest, rfl⟩
    | ok edits => exact List.cons_prefix_cons.mpr ⟨rfl, callsMade_isPrefix rest⟩

/-- A loop none of whose calls fails makes them all. -/
theorem callsMade_all : ∀ {calls : List (ApplyCall Config)},
    (∀ call ∈ callsMade handler calls, ∃ edits, handler.applyConfig call.1 call.2 = .ok edits) →
      callsMade handler calls = calls
  | [], _ => rfl
  | call :: rest, succeed => by
    rw [callsMade] at succeed ⊢
    obtain ⟨edits, ok⟩ := succeed call List.mem_cons_self
    rw [ok] at succeed ⊢
    rw [callsMade_all fun later member => succeed later (List.mem_cons_of_mem _ member)]

/-- The first call that would fail is made. -/
theorem callsMade_fails_iff {calls : List (ApplyCall Config)} :
    (∃ call ∈ callsMade handler calls, ∃ e, handler.applyConfig call.1 call.2 = .error e) ↔
      ∃ call ∈ calls, ∃ e, handler.applyConfig call.1 call.2 = .error e := by
  constructor
  · rintro ⟨call, made, failed⟩
    exact ⟨call, (callsMade_isPrefix calls).subset made, failed⟩
  · rintro ⟨call, member, e, failed⟩
    by_contra none
    push Not at none
    have all : callsMade handler calls = calls := callsMade_all fun call made => by
      cases result : handler.applyConfig call.1 call.2 with
      | error e => exact absurd result (none call made e)
      | ok edits => exact ⟨edits, rfl⟩
    rw [all] at none
    exact none call member e failed

end Calls

/-- The answers a loop got, one a call. -/
def Answered (handler : ConfigHandler Config) :
    List (ApplyCall Config) → List PerDeviceCDIContainerEdits → Prop :=
  List.Forall₂ fun call answer => handler.applyConfig call.1 call.2 = .ok answer

/-- Calls that were all answered were all made. -/
theorem callsMade_answered {handler : ConfigHandler Config} {calls : List (ApplyCall Config)}
    {answers : List PerDeviceCDIContainerEdits} (answered : Answered handler calls answers) :
    callsMade handler calls = calls := by
  refine callsMade_all fun call made => ?_
  obtain ⟨answer, _, answered⟩ :=
    forall₂_exists_left answered.flip ((callsMade_isPrefix calls).subset made)
  exact ⟨answer, answered⟩

/-- **The merge loop** succeeds exactly when every call is answered, and merges the answers in the
order of the calls. -/
theorem mergeAnswers_ok_iff (s : DeviceState Config) (configs : List (OpaqueDeviceConfig Config)) :
    ∀ (entries : List (ℕ × List DeviceRequestAllocationResult))
      (edits merged : PerDeviceCDIContainerEdits),
      entries.foldlM (s.mergeAnswer configs) edits = .ok merged ↔
        ∃ answers, Answered s.configHandler (entries.map (callOf configs)) answers ∧
          merged = answers.foldl copyEdits edits
  | [], edits, merged => by
    show Except.ok edits = Except.ok merged ↔ _
    constructor
    · rintro ⟨⟩
      exact ⟨[], .nil, rfl⟩
    · rintro ⟨_, ⟨⟩, rfl⟩
      rfl
  | entry :: entries, edits, merged => by
    unfold Answered
    rw [List.foldlM_cons, List.map_cons, DeviceState.mergeAnswer]
    simp only [List.forall₂_cons_left_iff]
    cases answer : s.configHandler.applyConfig (callOf configs entry).1 (callOf configs entry).2 with
    | error e =>
      constructor
      · intro none
        cases none
      · rintro ⟨_, ⟨_, _, none, _⟩, _⟩
        cases none
    | ok containerEdits =>
      refine Iff.trans (mergeAnswers_ok_iff s configs entries _ merged) ?_
      constructor
      · rintro ⟨answers, answered, rfl⟩
        exact ⟨_, ⟨containerEdits, answers, rfl, answered, rfl⟩, rfl⟩
      · rintro ⟨_, ⟨first, answers, same, answered, rfl⟩, rfl⟩
        cases same
        exact ⟨answers, answered, rfl⟩

section Whole

variable {s : DeviceState Config} {claim : ResourceClaim} {allocation : Allocation}
  {configs : List (OpaqueDeviceConfig Config)} (rt : Runtime)
  (allocated : claim.allocation = some allocation)
  (decoded : getOpaqueDeviceConfigs s.configDecoder s.driverName allocation.config = .ok configs)
  (allocatable : ∀ result ∈ ownResults s.driverName allocation.results, result.device ∈ s.allocatable)

include allocated decoded allocatable

/-- What is left to do once the configs and the devices have passed their checks. -/
theorem prepareCalling_checked (rt' : Runtime) : s.prepareCalling rt rt' claim [] =
    (((rt.range (groupBy (placeOf configs) (ownResults s.driverName allocation.results))).foldlM
        (s.mergeAnswer (withNilConfig configs)) ∅).map fun edits =>
      appended ((rt'.range (groupBy (placeOf configs)
        (ownResults s.driverName allocation.results))).flatMap fun entry =>
          entry.2.map (s.preparedDevice claim.uid edits (checkAdminAccess allocation))),
      callsMade s.configHandler (planned rt (withNilConfig configs)
        (groupBy (placeOf configs) (ownResults s.driverName allocation.results)))) := by
  have sorted := (sortResults_ok_iff s configs allocation.results _).mpr ⟨allocatable, rfl⟩
  rw [prepareCalling_eq, allocated]
  simp only [decoded, sorted]
  rfl

theorem applyCalls_eq (rt' : Runtime) : s.applyCalls rt rt' claim = callsMade s.configHandler
    (planned rt (withNilConfig configs)
      (groupBy (placeOf configs) (ownResults s.driverName allocation.results))) :=
  congrArg Prod.snd (prepareCalling_checked rt allocated decoded allocatable rt')

omit allocated decoded allocatable in
/-- Together the planned calls hold every result of the driver once. -/
theorem planned_perm (configs : List (OpaqueDeviceConfig Config))
    (results : List DeviceRequestAllocationResult) :
    ((planned rt (withNilConfig configs) (groupBy (placeOf configs) results)).flatMap Prod.snd).Perm
      results := by
  unfold planned
  rw [List.flatMap_map]
  exact range_groupBy_perm rt (placeOf configs) results

omit allocated allocatable in
/-- A planned call is for the config that governs its results. -/
theorem planned_governs {call : Option Config × List DeviceRequestAllocationResult}
    (member : call ∈ planned rt (withNilConfig configs)
      (groupBy (placeOf configs) (ownResults s.driverName allocation.results))) :
    ∀ result ∈ call.2,
      Governs s.configDecoder s.driverName allocation.config result.request call.1 := by
  obtain ⟨⟨place, group⟩, visited, rfl⟩ := List.mem_map.mp member
  obtain ⟨rfl, _⟩ := mem_groupBy ((mem_range_iff rt _ _ _).mp visited)
  intro result inside
  have here : placeOf configs result = place := of_decide_eq_true (List.mem_filter.mp inside).2
  rw [← here]
  exact placeOf_governs decoded result

theorem prepareDevices_fails_iff (rt' : Runtime) :
    (∃ e, s.prepareDevices rt rt' claim = .error e) ↔
      ∃ call ∈ s.applyCalls rt rt' claim, ∃ e, s.configHandler.applyConfig call.1 call.2 = .error e := by
  have merges := mergeAnswers_ok_iff s (withNilConfig configs)
    (rt.range (groupBy (placeOf configs) (ownResults s.driverName allocation.results))) ∅
  rw [applyCalls_eq rt allocated decoded allocatable, callsMade_fails_iff, DeviceState.prepareDevices,
    prepareCalling_checked rt allocated decoded allocatable]
  cases loop : (rt.range (groupBy (placeOf configs) (ownResults s.driverName allocation.results))).foldlM
      (s.mergeAnswer (withNilConfig configs)) ∅ with
  | error e =>
    refine ⟨fun _ => ?_, fun _ => ⟨e, rfl⟩⟩
    by_contra none
    push Not at none
    obtain ⟨answers, answered⟩ := exists_forall₂ fun (call : ApplyCall Config) member => by
      cases answer : s.configHandler.applyConfig call.1 call.2 with
      | error e => exact absurd answer (none call member e)
      | ok edits => exact ⟨edits, answer⟩
    cases loop.symm.trans ((merges _).mpr ⟨answers, answered, rfl⟩)
  | ok edits =>
    obtain ⟨answers, answered, _⟩ := (merges edits).mp loop
    constructor
    · rintro ⟨e, none⟩
      cases none
    · rintro ⟨call, member, e, failed⟩
      obtain ⟨answer, _, succeeded⟩ := forall₂_exists_left answered.flip member
      cases failed.symm.trans succeeded

/-- **The edits a claim is prepared with** are the handler's answers to the calls, merged in the order
they were made. -/
theorem prepareDevices_merged {rt' : Runtime} {devices : PreparedDevices}
    (prepared : s.prepareDevices rt rt' claim = .ok devices) :
    ∃ answers, Answered s.configHandler (s.applyCalls rt rt' claim) answers ∧
      ∀ device ∈ rangeDevices devices,
        device.containerEdits = (answers.foldl copyEdits ∅).lookup device.device.deviceName := by
  rw [DeviceState.prepareDevices, prepareCalling_checked rt allocated decoded allocatable] at prepared
  rw [applyCalls_eq rt allocated decoded allocatable]
  cases loop : (rt.range (groupBy (placeOf configs) (ownResults s.driverName allocation.results))).foldlM
      (s.mergeAnswer (withNilConfig configs)) ∅ with
  | error e =>
    rw [loop] at prepared
    cases prepared
  | ok edits =>
    rw [loop] at prepared
    obtain ⟨answers, answered, rfl⟩ := (mergeAnswers_ok_iff s (withNilConfig configs) _ ∅ edits).mp loop
    refine ⟨answers, ?_, ?_⟩
    · rw [planned, callsMade_answered answered]
      exact answered
    · rw [← Except.ok.inj prepared, rangeDevices_appended]
      intro device member
      obtain ⟨entry, _, inside⟩ := List.mem_flatMap.mp member
      obtain ⟨result, _, rfl⟩ := List.mem_map.mp inside
      rfl

end Whole

/-- A sample driver that decodes a config to its text, with a handler that names the config in the
environment of each device, or refuses. -/
def textState (accepts : Bool) : DeviceState String where
  driverName := "tenstorrent.com"
  nodeName := "node"
  cdi := sampleHandler
  driverResources := sampleResources ["tt-0", "tt-1", "tt-2"]
  allocatable := allocatableFrom (sampleResources ["tt-0", "tt-1", "tt-2"]) "node"
  configDecoder := .ok
  configHandler := { applyConfig := fun config results =>
    if accepts then .ok (results.foldl (fun edits result =>
      edits.insert result.device { env := ["CONFIG=" ++ config.getD ""] }) ∅) else .error "refused" }

/-- A config of the driver's own. -/
def textConfig (source : ConfigSource) (requests : List String) (parameters : String) :
    DeviceAllocationConfiguration :=
  { source := source, requests := requests,
    opaqueConfig := some { driver := "tenstorrent.com", parameters := parameters } }

/-- A claim config before two class configs, the second for fewer requests. -/
def mixedAllocation : Allocation where
  config := [textConfig .fromClaim ["a"] "claim", textConfig .fromClass [] "class",
    textConfig .fromClass ["a", "b"] "later class"]
  results := [{ sampleResult "tt-0" with request := "a" }, { sampleResult "tt-1" with request := "b" },
    { sampleResult "tt-2" with request := "c" }]

/-- The claim with that allocation. -/
def mixedClaim : ResourceClaim := ⟨uidA, some mixedAllocation⟩

end DraDriver.Plugin

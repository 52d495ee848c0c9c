/-
**The ResourceSlice devices of chips and trays.**

`chipDevice` and `trayDevice` build the advertised device of a bundle and of a tray: name, counter
consumption, attributes and memory. Chip, tray and mesh devices share one pool, so their names are
formatted apart: `deviceNameForChip`, `deviceNameForTray` and `deviceNameForMesh` are injective and
never meet (`chipName_ne_trayName` and the two after it).

Lists of ids are published as one attribute, cut short if it would be too long.

* `elide_longest` — the loop ends at the longest list of ids within its limit.
* **`joinAttrList_elides`** — an attribute fits, and read at its commas it gives whole ids back.
-/

import DraDriver.Tenstorrent.Counters

namespace DraDriver.Tenstorrent

open DraDriver.Base DraDriver.FabricManager

/-! ### Devices -/

/-- `resourceapi.DeviceAttribute`, for the two kinds of value the profile publishes. -/
inductive DeviceAttribute
  | string (value : String)
  | int (value : ℤ)
  deriving DecidableEq, Repr

/-- `resourceapi.Device`; `memory` is its one capacity. -/
structure Device where
  name : String
  consumesCounters : List DeviceCounterConsumption
  attributes : List (String × DeviceAttribute)
  memory : Option ℤ
  deriving DecidableEq

/-- The values of the `unit` attribute. -/
inductive UnitKind
  | chip
  | tray
  | mesh
  deriving DecidableEq, Repr

/-- The text of the attribute. -/
def UnitKind.text : UnitKind → String
  | .chip => "chip"
  | .tray => "tray"
  | .mesh => "mesh"

/-- What a published device resolves to: the bundles it covers, in order. -/
structure AllocatableUnit where
  kind : UnitKind
  trayID : UInt32
  bundles : List HostBundle
  deriving DecidableEq, Repr

/-- The value of the `vendor` attribute. -/
def vendor : String := "tenstorrent"

/-! ### Names -/

/-- The name of a chip device. -/
def deviceNameForChip (chipID : UInt32) : String := "tt-" ++ decimal chipID.toNat

/-- The name of a tray device. -/
def deviceNameForTray (trayID : UInt32) : String := "tt-tray-" ++ decimal trayID.toNat

/-- The name of a mesh device: its grouping and its origin chip. -/
def deviceNameForMesh (slug : String) (originChipID : UInt32) : String :=
  "tt-mesh-" ++ slug ++ "-" ++ decimal originChipID.toNat

theorem deviceNameForChip_inj {c c' : UInt32} (same : deviceNameForChip c = deviceNameForChip c') :
    c = c' :=
  UInt32.toNat_inj.mp (append_decimal_inj same)

theorem deviceNameForTray_inj {t t' : UInt32} (same : deviceNameForTray t = deviceNameForTray t') :
    t = t' :=
  UInt32.toNat_inj.mp (append_decimal_inj same)

theorem deviceNameForMesh_inj {slug : String} {c c' : UInt32}
    (same : deviceNameForMesh slug c = deviceNameForMesh slug c') : c = c' :=
  UInt32.toNat_inj.mp (append_decimal_inj same)

/-- The "tray" infix keeps a tray's name from every chip's. -/
theorem chipName_ne_trayName (c t : UInt32) : deviceNameForChip c ≠ deviceNameForTray t := by
  have split : deviceNameForTray t = "tt-" ++ ("tray-" ++ decimal t.toNat) := by
    rw [← String.append_assoc]
    rfl
  rw [split]
  exact append_decimal_ne "tt-" _ _ (by simp) (by simp)

/-- The "mesh" infix keeps a mesh's name from every chip's. -/
theorem chipName_ne_meshName (c : UInt32) (slug : String) (c' : UInt32) :
    deviceNameForChip c ≠ deviceNameForMesh slug c' := by
  have split : deviceNameForMesh slug c' = "tt-" ++ ("mesh-" ++ (slug ++ "-" ++ decimal c'.toNat)) := by
    unfold deviceNameForMesh
    rw [← String.append_assoc, ← String.append_assoc, ← String.append_assoc]
    rfl
  rw [split]
  exact append_decimal_ne "tt-" _ _ (by simp) (by simp)

theorem trayName_ne_meshName (t : UInt32) (slug : String) (c : UInt32) :
    deviceNameForTray t ≠ deviceNameForMesh slug c := by
  intro same
  have chars := congrArg String.toList same
  simp [deviceNameForTray, deviceNameForMesh] at chars

/-! ### Attribute texts -/

/-- `boardTypeName`, with `boardNameFor`'s default. -/
def boardNameFor (boardType : UInt32) : String :=
  match boardType.toNat with
  | 0 => "e75"
  | 1 => "e150"
  | 2 => "e300"
  | 3 => "n150"
  | 4 => "n300"
  | 5 => "p100"
  | 6 => "p150"
  | 7 => "p300"
  | 8 => "galaxy"
  | 9 => "galaxy-wormhole"
  | 10 => "galaxy-blackhole"
  | 11 => "quasar"
  | 12 => "unknown"
  | _ => "unknown"

/-- `DeviceAttributeMaxValueLength`, in bytes. -/
def deviceAttributeMaxValueLength : ℕ := 64

/-- What stands for the ids that were left out. -/
def ellipsis : String := ",…"

/-- The elision loop of `joinAttrList`: prefixes of the ids, longest first, down to one id. -/
def elide (ids : List String) (limit : ℕ) : ℕ → String → String
  | 0, joined => joined
  | i + 1, _ =>
    let joined := ",".intercalate (ids.take (i + 1))
    if joined.utf8ByteSize ≤ limit then joined else elide ids limit i joined

/-- A list of ids as one attribute value, cut to the bytes the API allows. -/
def joinAttrList (ids : List String) : String :=
  let joined := ",".intercalate ids
  if joined.utf8ByteSize ≤ deviceAttributeMaxValueLength then joined
  else
    elide ids (deviceAttributeMaxValueLength - ellipsis.utf8ByteSize) (ids.length - 1) joined ++
      ellipsis

/-- `strings.Split(text, ",")`. -/
def commaSplit (text : String) : List String := (text.toList.splitOn ',').map String.ofList

/-! ### Elided lists -/

/-- How many ids an elided list keeps: at least one, not all, and as many as the limit allows. -/
structure LongestPrefix (ids : List String) (limit kept : ℕ) : Prop where
  some : 0 < kept
  proper : kept < ids.length
  fits : (",".intercalate (ids.take kept)).utf8ByteSize ≤ limit
  longest : ∀ k, kept < k → k < ids.length → limit < (",".intercalate (ids.take k)).utf8ByteSize

/-- The loop stops at the longest list within the limit, since one id alone is within it. -/
theorem elide_longest {ids : List String} {limit : ℕ} (each : ∀ id ∈ ids, id.utf8ByteSize ≤ limit) :
    ∀ (i : ℕ) (joined : String), i + 1 < ids.length → ∃ kept, 0 < kept ∧ kept ≤ i + 1 ∧
      (",".intercalate (ids.take kept)).utf8ByteSize ≤ limit ∧
      (∀ k, kept < k → k ≤ i + 1 → limit < (",".intercalate (ids.take k)).utf8ByteSize) ∧
      elide ids limit (i + 1) joined = ",".intercalate (ids.take kept)
  | 0, joined, several => by
    have one : (",".intercalate (ids.take 1)).utf8ByteSize ≤ limit := by
      cases ids with
      | nil => exact Nat.zero_le _
      | cons id rest => exact each id List.mem_cons_self
    refine ⟨1, Nat.one_pos, le_rfl, one, fun k above below => ?_, ?_⟩
    · omega
    · unfold elide
      exact if_pos one
  | i + 1, joined, several => by
    by_cases fits : (",".intercalate (ids.take (i + 2))).utf8ByteSize ≤ limit
    · refine ⟨i + 2, Nat.succ_pos _, le_rfl, fits, fun k above below => ?_, ?_⟩
      · omega
      · unfold elide
        exact if_pos fits
    · obtain ⟨kept, some, low, within, longest, ran⟩ :=
        elide_longest each i (",".intercalate (ids.take (i + 2))) (Nat.lt_of_succ_lt several)
      refine ⟨kept, some, Nat.le_succ_of_le low, within, fun k above below => ?_, ?_⟩
      · rcases Nat.lt_or_eq_of_le below with lower | rfl
        · exact longest k above (Nat.le_of_lt_succ lower)
        · exact Nat.lt_of_not_le fits
      · rw [elide]
        exact (if_neg fits).trans ran

/-- A list that is too long to be joined is cut after its longest part that leaves room for the
marker. -/
theorem joinAttrList_cut {ids : List String} (each : ∀ id ∈ ids, id.utf8ByteSize ≤ 60)
    (long : 64 < (",".intercalate ids).utf8ByteSize) :
    ∃ kept, LongestPrefix ids 60 kept ∧
      joinAttrList ids = ",".intercalate (ids.take kept) ++ ellipsis := by
  -- one id alone would fit, so that the loop has a turn to make
  obtain ⟨i, several⟩ : ∃ i, ids.length = i + 2 := by
    match ids, each, long with
    | [], _, long => exact absurd long (by decide)
    | [first], each, long =>
      have short := each first List.mem_cons_self
      rw [String.intercalate_singleton] at long
      omega
    | _ :: _ :: rest, _, _ => exact ⟨rest.length, rfl⟩
  obtain ⟨kept, some, low, fits, longest, ran⟩ :=
    elide_longest each i (",".intercalate ids) (by omega)
  refine ⟨kept, ⟨some, by omega, fits, fun k above below => longest k above (by omega)⟩, ?_⟩
  unfold joinAttrList
  simp only [several]
  exact (if_neg (Nat.not_le_of_lt long)).trans (congrArg (· ++ ellipsis) ran)

theorem joinAttrList_whole {ids : List String} (fits : (",".intercalate ids).utf8ByteSize ≤ 64) :
    joinAttrList ids = ",".intercalate ids :=
  if_pos fits

/-- **A list of short ids fits an attribute value**, elided or not. -/
theorem joinAttrList_bytes {ids : List String} (each : ∀ id ∈ ids, id.utf8ByteSize ≤ 60) :
    (joinAttrList ids).utf8ByteSize ≤ 64 := by
  by_cases fits : (",".intercalate ids).utf8ByteSize ≤ 64
  · rw [joinAttrList_whole fits]
    exact fits
  · obtain ⟨kept, prefixed, cut⟩ := joinAttrList_cut each (Nat.lt_of_not_le fits)
    rw [cut, String.utf8ByteSize_append]
    exact Nat.add_le_add_right prefixed.fits 4

/-- Ids without commas are read back from their join. -/
theorem commaSplit_intercalate {ids : List String} (free : ∀ id ∈ ids, ',' ∉ id.toList)
    (some : ids ≠ []) : commaSplit (",".intercalate ids) = ids := by
  have pieces : ((",".intercalate ids).toList.splitOn ',') = ids.map String.toList := by
    rw [String.toList_intercalate]
    refine List.splitOn_intercalate ',' ?_ fun none => some (List.map_eq_nil_iff.mp none)
    exact List.forall_mem_map.mpr free
  unfold commaSplit
  rw [pieces, List.map_map]
  exact (List.map_congr_left fun id _ => String.ofList_toList).trans (List.map_id _)

/-- A cut list is read back as the ids it keeps and the marker. -/
theorem commaSplit_cut {ids : List String} (free : ∀ id ∈ ids, ',' ∉ id.toList) {limit kept : ℕ}
    (longest : LongestPrefix ids limit kept) :
    commaSplit (",".intercalate (ids.take kept) ++ ellipsis) = ids.take kept ++ ["…"] := by
  have some : ids.take kept ≠ [] := by
    intro none
    have length := congrArg List.length none
    rw [List.length_take, List.length_nil] at length
    have := longest.some
    have := longest.proper
    omega
  have joined : ",".intercalate (ids.take kept) ++ ellipsis =
      ",".intercalate (ids.take kept ++ ["…"]) := by
    rw [String.intercalate_append_of_ne_nil some (List.cons_ne_nil _ _), String.append_assoc]
    rfl
  rw [joined]
  refine commaSplit_intercalate (fun id member => ?_) (List.append_ne_nil_of_left_ne_nil some _)
  rcases List.mem_append.mp member with listed | last
  · exact free id (List.mem_of_mem_take listed)
  · cases List.mem_singleton.mp last
    decide

/-- **Attribute lists are elided, never corrupted.** A list of short ids without commas fits, is
whole exactly when it can be, and is otherwise the longest part that leaves room for the marker. Read
at its commas, a list with an id in it gives back whole ids from the front, and the marker after them
exactly when one is missing; an id that reads as the marker does cannot be told from it. -/
theorem joinAttrList_elides (ids : List String) (free : ∀ id ∈ ids, ',' ∉ id.toList)
    (each : ∀ id ∈ ids, id.utf8ByteSize ≤ 60) :
    (joinAttrList ids).utf8ByteSize ≤ 64 ∧
      (joinAttrList ids = ",".intercalate ids ↔ (",".intercalate ids).utf8ByteSize ≤ 64) ∧
      (64 < (",".intercalate ids).utf8ByteSize → ellipsis.utf8ByteSize = 4 ∧
        ∃ kept, LongestPrefix ids 60 kept ∧
          joinAttrList ids = ",".intercalate (ids.take kept) ++ ellipsis) ∧
      (ids ≠ [] → ∃ kept, kept ≤ ids.length ∧
        commaSplit (joinAttrList ids) = ids.take kept ++ (if kept < ids.length then ["…"] else []) ∧
        ("…" ∉ ids → ("…" ∈ commaSplit (joinAttrList ids) ↔ kept < ids.length))) := by
  have bytes := joinAttrList_bytes each
  refine ⟨bytes, ⟨fun whole => whole ▸ bytes, joinAttrList_whole⟩,
    fun long => ⟨by decide, joinAttrList_cut each long⟩, fun some => ?_⟩
  by_cases fits : (",".intercalate ids).utf8ByteSize ≤ 64
  · have read : commaSplit (joinAttrList ids) = ids := by
      rw [joinAttrList_whole fits, commaSplit_intercalate free some]
    refine ⟨ids.length, le_rfl, ?_, fun unmarked => ?_⟩
    · rw [read, if_neg (lt_irrefl _), List.take_length, List.append_nil]
    · rw [read]
      exact ⟨fun listed => absurd listed unmarked, fun more => absurd more (lt_irrefl _)⟩
  · obtain ⟨kept, longest, cut⟩ := joinAttrList_cut each (Nat.lt_of_not_le fits)
    have read : commaSplit (joinAttrList ids) = ids.take kept ++ ["…"] := by
      rw [cut, commaSplit_cut free longest]
    refine ⟨kept, longest.proper.le, ?_, fun _ => ⟨fun _ => longest.proper, fun _ => ?_⟩⟩
    · rw [read, if_pos longest.proper]
    · rw [read]
      exact List.mem_append_right _ List.mem_cons_self

/-- Ten ids of six bytes: nine of them would fit, eight leave room for the marker. -/
theorem joinAttrList_elides_ten :
    joinAttrList (List.replicate 10 "123456") = ",".intercalate (List.replicate 8 "123456") ++ ellipsis ∧
      (joinAttrList (List.replicate 10 "123456")).utf8ByteSize ≤ 64 :=
  ⟨by decide +kernel, (joinAttrList_elides (List.replicate 10 "123456") (by decide)
    (by decide)).1⟩

/-- **An id can read as the marker does**, and no id at all reads as an empty one. -/
theorem joinAttrList_marker_id :
    joinAttrList ["1", "…"] = ",".intercalate ["1"] ++ ellipsis ∧
      commaSplit (joinAttrList ["1", "…"]) = ["1", "…"] ∧ commaSplit (joinAttrList []) = [""] := by
  decide +kernel

/-! ### Chip and tray devices -/

/-- The DRAM of every ASIC in the bundles, as a `uint64`. -/
def bundlesMemoryBytes (bundles : List HostBundle) : UInt64 :=
  bundles.foldl (fun total bundle =>
    bundle.remotes.foldl (fun total remote => total + remote.memoryBytes)
      (total + bundle.mmio.memoryBytes)) 0

/-- The memory capacity of a device: absent when nothing is reported. -/
def memoryCapacity (bundles : List HostBundle) : Option ℤ :=
  if 0 < bundlesMemoryBytes bundles then some (bundlesMemoryBytes bundles).toInt64.toInt else none

/-- Every ASIC of the bundles, MMIO or not. -/
def chipCount (bundles : List HostBundle) : ℕ :=
  bundles.foldl (fun count bundle => count + (1 + bundle.remotes.length)) 0

/-- The device of one bundle. -/
def chipDevice (bundle : HostBundle) (layout : CounterLayout) : Device :=
  let mmio := bundle.mmio
  { name := deviceNameForChip mmio.chipId
    consumesCounters := (chipCounterConsumption layout [bundle]).getD []
    attributes :=
      [("vendor", .string vendor),
        ("unit", .string UnitKind.chip.text),
        ("chipID", .int mmio.chipId.toNat),
        ("trayID", .int mmio.trayId.toNat),
        ("asicLocation", .int mmio.asicLocation.toNat),
        ("boardType", .int mmio.boardType.toNat),
        ("boardName", .string (boardNameFor mmio.boardType)),
        ("chipArch", .string mmio.chipArch),
        ("uniqueID", .string (decimal mmio.uniqueId.toNat)),
        ("chipCount", .int (1 + bundle.remotes.length))] ++
      (if mmio.pciAddress ≠ "" then [("pciAddress", .string mmio.pciAddress)] else []) ++
      (if 0 < bundle.remotes.length then
        [("remoteChipIDs", .string (joinAttrList (bundle.remotes.map fun r => decimal r.chipId.toNat))),
          ("remoteUniqueIDs",
            .string (joinAttrList (bundle.remotes.map fun r => decimal r.uniqueId.toNat)))]
      else [])
    memory := memoryCapacity [bundle] }

/-- `none` is the source's `false`: the tray is not published. A group is never empty, so its first
bundle always stands for the tray. -/
def trayDevice (tray : TrayGroup) (layout : CounterLayout) : Option Device := do
  let representative ← tray.bundles.head?
  let consumption ← chipCounterConsumption layout tray.bundles
  return {
    name := deviceNameForTray tray.trayID
    consumesCounters := consumption
    attributes :=
      [("vendor", .string vendor),
        ("unit", .string UnitKind.tray.text),
        ("trayID", .int tray.trayID.toNat),
        ("boardType", .int representative.mmio.boardType.toNat),
        ("boardName", .string (boardNameFor representative.mmio.boardType)),
        ("chipArch", .string representative.mmio.chipArch),
        ("uniqueID", .string (decimal representative.mmio.uniqueId.toNat)),
        ("chipCount", .int (chipCount tray.bundles)),
        ("chipDeviceCount", .int tray.bundles.length)]
    memory := memoryCapacity tray.bundles }

end DraDriver.Tenstorrent

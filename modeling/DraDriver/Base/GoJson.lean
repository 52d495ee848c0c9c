/-
**What `encoding/json` writes of a Go value and reads back.**

A `Codec` holds, for one Go type, its zero value, the test that `omitempty` makes, both directions
of `encoding/json`, and what a value comes back as (`restored`): reading a written value into a zero
value gives it, and it is written as the value was. Slices, maps and pointers are `Option`s, `none`
for nil; a null in the text sets them nil and leaves every other value as it is.

* `Codec.slice`, `Codec.map`, `Codec.ptr` — the codecs of `[]T`, `map[string]T` and `*T`.
* `Record` — a struct as its list of fields, each with its name, its `omitempty` and its place;
  `Record.codec` writes the fields in order, and reads each member of an object into its place.
* `Record.embedded` — a struct that embeds a pointer: the fields are promoted, and reading one
  allocates what the pointer lacks.
* `Record.get_restored` — what a field comes back as: an omitted one with its zero value.
* `Codec.unmarshal_text` — reading a written text is reading the value it was written from.

A key is matched to a field by equality: every key a writer emits is one of the names.
-/

import DraDriver.Base.GoRuntime
import DraDriver.Base.Json

namespace DraDriver.Base

/-- How `encoding/json` treats one Go type. `decode old j` reads `j` into a variable that holds
`old`; a type error is `none`. -/
structure Codec (α : Type) where
  zero : α
  isEmpty : α → Bool
  encode : α → Json
  decode : α → Json → Option α
  restored : α → α
  isEmpty_zero : ∀ v, isEmpty v = true → isEmpty zero = true
  decode_encode : ∀ v, decode zero (encode v) = some (restored v)
  encode_restored : ∀ v, encode (restored v) = encode v
  isEmpty_restored : ∀ v, isEmpty (restored v) = isEmpty v

namespace Codec

/-! ### Strings, booleans and numbers -/

/-- The codec of `string`. -/
def string : Codec String where
  zero := ""
  isEmpty s := s.isEmpty
  encode := .str
  decode old
    | .null => some old
    | .str s => some s
    | _ => none
  restored s := s
  isEmpty_zero _ _ := rfl
  decode_encode _ := rfl
  encode_restored _ := rfl
  isEmpty_restored _ := rfl

/-- The codec of `bool`. -/
def bool : Codec Bool where
  zero := false
  isEmpty b := !b
  encode := .bool
  decode old
    | .null => some old
    | .bool b => some b
    | _ => none
  restored b := b
  isEmpty_zero _ _ := rfl
  decode_encode _ := rfl
  encode_restored _ := rfl
  isEmpty_restored _ := rfl

/-- `uint64`: a number out of range is a type error. -/
def uint64 : Codec UInt64 where
  zero := 0
  isEmpty n := n = 0
  encode n := .num n.toNat
  decode old
    | .null => some old
    | .num n => if n < 2 ^ 64 then some (UInt64.ofNat n) else none
    | _ => none
  restored n := n
  isEmpty_zero _ _ := rfl
  decode_encode n := by
    show (if n.toNat < 2 ^ 64 then some (UInt64.ofNat n.toNat) else none) = some n
    rw [if_pos n.toNat_lt, UInt64.ofNat_toNat]
  encode_restored _ := rfl
  isEmpty_restored _ := rfl

variable {α : Type}

/-! ### Slices -/

/-- The items of an array, each read into the element that is already there. -/
def decodeItems (c : Codec α) : List α → List Json → Option (List α)
  | _, [] => some []
  | olds, item :: items => do
    let v ← c.decode (olds.head?.getD c.zero) item
    let vs ← decodeItems c olds.tail items
    some (v :: vs)

theorem decodeItems_encode (c : Codec α) (vs : List α) :
    c.decodeItems [] (vs.map c.encode) = some (vs.map c.restored) := by
  induction vs with
  | nil => rfl
  | cons v vs ih =>
    show (c.decode c.zero (c.encode v)).bind (fun v => (c.decodeItems [] (vs.map c.encode)).bind
      fun vs => some (v :: vs)) = _
    rw [c.decode_encode, ih]
    rfl

/-- `[]T`: a nil slice is null, an empty one is `[]`. -/
def slice (c : Codec α) : Codec (Option (List α)) where
  zero := none
  isEmpty s := (s.getD []).isEmpty
  encode
    | none => .null
    | some vs => .arr (vs.map c.encode)
  decode old
    | .null => some none
    | .arr items => (c.decodeItems (old.getD []) items).map some
    | _ => none
  restored s := s.map (List.map c.restored)
  isEmpty_zero _ _ := rfl
  decode_encode
    | none => rfl
    | some vs => congrArg (Option.map some) (c.decodeItems_encode vs)
  encode_restored
    | none => rfl
    | some vs => by
      show Json.arr ((vs.map c.restored).map c.encode) = Json.arr (vs.map c.encode)
      rw [List.map_map]
      exact congrArg Json.arr (List.map_congr_left fun v _ => c.encode_restored v)
  isEmpty_restored
    | none => rfl
    | some vs => by cases vs <;> rfl

/-! ### Maps -/

/-- Maps with the same keys list them alike. -/
theorem sortedKeys_congr {m m' : GoMap String α} (same : ∀ k, k ∈ m ↔ k ∈ m') :
    sortedKeys id m = sortedKeys id m' := by
  refine List.Perm.eq_of_pairwise (fun _ _ _ _ => le_antisymm) (List.pairwise_insertionSort _ _)
    (List.pairwise_insertionSort _ _) ?_
  refine (List.perm_insertionSort _ _).trans (List.Perm.trans ?_ (List.perm_insertionSort _ _).symm)
  rw [List.perm_ext_iff_of_nodup m.keys_nodup m'.keys_nodup]
  intro k
  rw [← AList.mem_keys, ← AList.mem_keys]
  exact same k

/-- The entries of a map in the order `json.Marshal` writes them. -/
def entriesInOrder (m : GoMap String α) : List (String × α) :=
  (sortedKeys id m).filterMap fun k => (m.lookup k).map fun v => (k, v)

theorem mem_entriesInOrder {m : GoMap String α} {k : String} {v : α} :
    (k, v) ∈ entriesInOrder m ↔ m.lookup k = some v := by
  unfold entriesInOrder
  rw [List.mem_filterMap]
  constructor
  · rintro ⟨k', -, written⟩
    obtain ⟨v', found, same⟩ := Option.map_eq_some_iff.mp written
    cases same
    exact found
  · intro found
    have inside : k ∈ m := AList.lookup_isSome.mp (by rw [found]; rfl)
    exact ⟨k, mem_sortedKeys.mpr inside, by rw [found]; rfl⟩

theorem entriesInOrder_keys_nodup (m : GoMap String α) :
    ((entriesInOrder m).map Prod.fst).Nodup := by
  have keys : (entriesInOrder m).map Prod.fst =
      (sortedKeys id m).filterMap fun k => (m.lookup k).map fun _ => k := by
    unfold entriesInOrder
    rw [List.map_filterMap]
    exact List.filterMap_congr fun k _ => by rw [Option.map_map]; rfl
  have sorted : (sortedKeys id m).Nodup := (List.perm_insertionSort _ _).nodup_iff.mpr m.keys_nodup
  rw [keys]
  refine sorted.filterMap fun k k' name written written' => ?_
  obtain ⟨_, _, rfl⟩ := Option.map_eq_some_iff.mp written
  obtain ⟨_, _, rfl⟩ := Option.map_eq_some_iff.mp written'
  rfl

/-- A member read into a map: its value is read into a fresh zero value. -/
def decodeEntry (c : Codec α) (m : GoMap String α) (member : String × Json) :
    Option (GoMap String α) :=
  (c.decode c.zero member.2).map fun v => m.insert member.1 v

/-- What a map comes back as. -/
def restoredMap (c : Codec α) (m : GoMap String α) : GoMap String α :=
  (entriesInOrder m).foldl (fun found entry => found.insert entry.1 (c.restored entry.2)) ∅

/-- **Every entry comes back, and no other.** -/
theorem lookup_restoredMap (c : Codec α) (m : GoMap String α) (k : String) :
    (c.restoredMap m).lookup k = (m.lookup k).map c.restored := by
  refine Option.ext fun v => (lookup_fill (entriesInOrder_keys_nodup m)).trans ?_
  rw [Option.map_eq_some_iff]
  constructor
  · rintro ⟨⟨k', v'⟩, member, rfl, rfl⟩
    exact ⟨v', mem_entriesInOrder.mp member, rfl⟩
  · rintro ⟨v', found, rfl⟩
    exact ⟨(k, v'), mem_entriesInOrder.mpr found, rfl, rfl⟩

theorem mem_restoredMap {c : Codec α} {m : GoMap String α} {k : String} :
    k ∈ c.restoredMap m ↔ k ∈ m := by
  rw [← AList.lookup_isSome, ← AList.lookup_isSome, lookup_restoredMap, Option.isSome_map]

theorem entriesInOrder_restoredMap (c : Codec α) (m : GoMap String α) :
    entriesInOrder (c.restoredMap m) =
      (entriesInOrder m).map fun entry => (entry.1, c.restored entry.2) := by
  unfold entriesInOrder
  rw [sortedKeys_congr fun k => mem_restoredMap, List.map_filterMap]
  refine List.filterMap_congr fun k _ => ?_
  rw [lookup_restoredMap, Option.map_map, Option.map_map]
  rfl

theorem decodeEntries_encode (c : Codec α) (entries : List (String × α)) (m : GoMap String α) :
    (entries.map fun entry => (entry.1, c.encode entry.2)).foldlM c.decodeEntry m =
      some (entries.foldl (fun found entry => found.insert entry.1 (c.restored entry.2)) m) := by
  induction entries generalizing m with
  | nil => rfl
  | cons entry entries ih =>
    have read : c.decodeEntry m (entry.1, c.encode entry.2) =
        some (m.insert entry.1 (c.restored entry.2)) :=
      congrArg (Option.map fun v => m.insert entry.1 v) (c.decode_encode entry.2)
    rw [List.map_cons, List.foldlM_cons, read]
    exact ih _

/-- `map[string]T`: a nil map is null, an empty one is an empty object. Reading an object adds its
members to the map in place. -/
def map (c : Codec α) : Codec (Option (GoMap String α)) where
  zero := none
  isEmpty m := (entriesInOrder (m.getD ∅)).isEmpty
  encode
    | none => .null
    | some m => .obj ((entriesInOrder m).map fun entry => (entry.1, c.encode entry.2))
  decode old
    | .null => some none
    | .obj members => (members.foldlM c.decodeEntry (old.getD ∅)).map some
    | _ => none
  restored m := m.map c.restoredMap
  isEmpty_zero _ _ := rfl
  decode_encode
    | none => rfl
    | some m => congrArg (Option.map some) (c.decodeEntries_encode (entriesInOrder m) ∅)
  encode_restored
    | none => rfl
    | some m => by
      show Json.obj ((entriesInOrder (c.restoredMap m)).map _) = Json.obj _
      rw [entriesInOrder_restoredMap, List.map_map]
      refine congrArg Json.obj (List.map_congr_left fun entry _ => ?_)
      exact congrArg (Prod.mk entry.1) (c.encode_restored entry.2)
  isEmpty_restored
    | none => rfl
    | some m => by
      show (entriesInOrder (c.restoredMap m)).isEmpty = (entriesInOrder m).isEmpty
      rw [entriesInOrder_restoredMap, List.isEmpty_map]

/-! ### Pointers -/

/-- Reading anything but null fills what a pointer points at, which is allocated where it is nil. -/
def decodePtr (c : Codec α) (old : Option α) : Json → Option (Option α)
  | .null => some none
  | j => (c.decode (old.getD c.zero) j).map some

theorem decodePtr_present (c : Codec α) (old : Option α) {j : Json} (present : j ≠ .null) :
    c.decodePtr old j = (c.decode (old.getD c.zero) j).map some := by
  cases j with
  | null => exact absurd rfl present
  | _ => rfl

/-- `*T`, for a type that is never written as null. -/
def ptr (c : Codec α) (present : ∀ v, c.encode v ≠ .null) : Codec (Option α) where
  zero := none
  isEmpty v := v.isNone
  encode
    | none => .null
    | some v => c.encode v
  decode := c.decodePtr
  restored v := v.map c.restored
  isEmpty_zero _ _ := rfl
  decode_encode
    | none => rfl
    | some v => by
      show c.decodePtr none (c.encode v) = some (some (c.restored v))
      rw [c.decodePtr_present none (present v)]
      exact congrArg (Option.map some) (c.decode_encode v)
  encode_restored
    | none => rfl
    | some v => c.encode_restored v
  isEmpty_restored
    | none => rfl
    | some _ => rfl

/-! ### The text -/

/-- `json.Marshal`. -/
def marshal (c : Codec α) (v : α) : String := (c.encode v).text

/-- `json.Unmarshal` into a variable that holds `old`. -/
def unmarshal (c : Codec α) (old : α) (text : String) : Option α := (parse text).bind (c.decode old)

/-- Reading a written text is reading the value it was written from. -/
theorem unmarshal_text (c : Codec α) (old : α) (j : Json) : c.unmarshal old j.text = c.decode old j := by
  unfold unmarshal
  rw [parse_text, Option.bind_some]

end Codec

/-! ### Structs -/

/-- A field of a struct: its JSON name, whether it has `omitempty`, and its place. -/
structure Field (σ : Type) where
  Value : Type
  codec : Codec Value
  name : String
  omitempty : Bool
  get : σ → Value
  set : σ → Value → σ

namespace Field

variable {σ : Type}

/-- Whether `json.Marshal` leaves the field out. -/
def omitted (f : Field σ) (s : σ) : Bool := f.omitempty && f.codec.isEmpty (f.get s)

/-- Setting the one leaves the other. -/
def Apart (f g : Field σ) : Prop :=
  (∀ s a, f.get (g.set s a) = f.get s) ∧ ∀ s a, g.get (f.set s a) = g.get s

end Field

/-- A struct type: its fields in the order they are written, with places that do not overlap. -/
structure Record (σ : Type) where
  zero : σ
  fields : List (Field σ)
  names_nodup : (fields.map Field.name).Nodup
  apart : fields.Pairwise Field.Apart
  get_set : ∀ f ∈ fields, ∀ s a, f.get (f.set s a) = a
  get_zero : ∀ f ∈ fields, f.get zero = f.codec.zero

namespace Record

variable {σ : Type}

/-- The members the given fields are written as. -/
def members (fields : List (Field σ)) (s : σ) : List (String × Json) :=
  fields.filterMap fun f => if f.omitted s then none else some (f.name, f.codec.encode (f.get s))

/-- Nothing is written exactly when every field is left out. -/
theorem members_eq_nil {fields : List (Field σ)} {s : σ} :
    members fields s = [] ↔ ∀ f ∈ fields, f.omitted s = true := by
  unfold members
  rw [List.filterMap_eq_nil_iff]
  refine forall₂_congr fun f _ => ?_
  by_cases out : f.omitted s = true
  · simp [out]
  · simp [out]

/-- A member read into its field; one that names no field is skipped. -/
def decodeMember (R : Record σ) (s : σ) (member : String × Json) : Option σ :=
  match R.fields.find? fun f => f.name = member.1 with
  | none => some s
  | some f => (f.codec.decode (f.get s) member.2).map (f.set s)

/-- A field put back as it is read into a zero value. -/
def putBack (s cur : σ) (f : Field σ) : σ :=
  if f.omitted s then cur else f.set cur (f.codec.restored (f.get s))

/-- What a struct comes back as. -/
def restored (R : Record σ) (s : σ) : σ := R.fields.foldl (putBack s) R.zero

theorem find_field (R : Record σ) {f : Field σ} (inside : f ∈ R.fields) :
    R.fields.find? (fun g => g.name = f.name) = some f := by
  have listed : (R.fields.find? fun g => g.name = f.name).isSome = true :=
    List.find?_isSome.mpr ⟨f, inside, decide_eq_true rfl⟩
  obtain ⟨g, found⟩ := Option.isSome_iff_exists.mp listed
  have named := List.find?_some found
  have sameName : g.name = f.name := of_decide_eq_true named
  rw [found, List.inj_on_of_nodup_map R.names_nodup (List.mem_of_find?_eq_some found) inside sameName]

/-- A field that the rest of a struct's fields leave alone keeps what it holds. -/
theorem get_putBacks {f : Field σ} {s : σ} {todo : List (Field σ)} (others : ∀ g ∈ todo, f.Apart g)
    (cur : σ) : f.get (todo.foldl (putBack s) cur) = f.get cur := by
  induction todo generalizing cur with
  | nil => rfl
  | cons g todo ih =>
    rw [List.foldl_cons, ih (fun h member => others h (List.mem_cons_of_mem _ member))]
    unfold putBack
    split
    · rfl
    · exact (others g List.mem_cons_self).1 _ _

/-- **What a field comes back as**: an omitted one with its zero value. -/
theorem get_restored (R : Record σ) (s : σ) {f : Field σ} (inside : f ∈ R.fields) :
    f.get (R.restored s) = if f.omitted s then f.codec.zero else f.codec.restored (f.get s) := by
  obtain ⟨before, after, split⟩ := List.append_of_mem inside
  have apart := R.apart
  rw [split, List.pairwise_append] at apart
  obtain ⟨-, tail, across⟩ := apart
  have later := (List.pairwise_cons.mp tail).1
  have earlier : ∀ g ∈ before, f.Apart g := fun g member =>
    (across g member f List.mem_cons_self).symm
  -- the fields after it leave it alone, and those before it leave it at zero
  unfold restored
  rw [split, List.foldl_append, List.foldl_cons, get_putBacks later]
  by_cases out : f.omitted s = true
  · have skipped : ∀ cur, putBack s cur f = cur := fun cur => if_pos out
    rw [if_pos out, skipped, get_putBacks earlier, R.get_zero f inside]
  · have set : ∀ cur, putBack s cur f = f.set cur (f.codec.restored (f.get s)) := fun cur => if_neg out
    rw [if_neg out, set, R.get_set f inside]

/-- The field at a position. -/
theorem get_restored_at (R : Record σ) (s : σ) (i : Fin R.fields.length) :
    (R.fields.get i).get (R.restored s) = if (R.fields.get i).omitted s then (R.fields.get i).codec.zero
      else (R.fields.get i).codec.restored ((R.fields.get i).get s) :=
  R.get_restored s (List.get_mem R.fields i)

/-- An omitted field comes back as one that is omitted, and no other does. -/
theorem omitted_restored (R : Record σ) (s : σ) {f : Field σ} (inside : f ∈ R.fields) :
    f.omitted (R.restored s) = f.omitted s := by
  have back := R.get_restored s inside
  by_cases out : f.omitted s = true
  · rw [if_pos out] at back
    obtain ⟨tagged, empty⟩ := Bool.and_eq_true_iff.mp out
    rw [out]
    exact Bool.and_eq_true_iff.mpr ⟨tagged, by rw [back]; exact f.codec.isEmpty_zero _ empty⟩
  · rw [if_neg out] at back
    unfold Field.omitted
    rw [back, f.codec.isEmpty_restored]

theorem members_restored (R : Record σ) (s : σ) :
    members R.fields (R.restored s) = members R.fields s := by
  refine List.filterMap_congr fun f inside => ?_
  rw [R.omitted_restored s inside, R.get_restored s inside]
  by_cases out : f.omitted s = true
  · rw [if_pos out, if_pos out]
  · rw [if_neg out, if_neg out, if_neg out, f.codec.encode_restored]

/-- Reading what the fields are written as puts each of them back, when they hold zero values. -/
theorem decode_members (R : Record σ) (s : σ) {todo : List (Field σ)}
    (inside : ∀ f ∈ todo, f ∈ R.fields) (apart : todo.Pairwise Field.Apart) {cur : σ}
    (blank : ∀ f ∈ todo, f.get cur = f.codec.zero) :
    (members todo s).foldlM R.decodeMember cur = some (todo.foldl (putBack s) cur) := by
  induction todo generalizing cur with
  | nil => rfl
  | cons f todo ih =>
    obtain ⟨others, apart⟩ := List.pairwise_cons.mp apart
    have inTodo : ∀ g ∈ todo, g ∈ R.fields := fun g member => inside g (List.mem_cons_of_mem _ member)
    have blankTodo : ∀ g ∈ todo, g.get cur = g.codec.zero := fun g member =>
      blank g (List.mem_cons_of_mem _ member)
    rw [List.foldl_cons]
    by_cases out : f.omitted s = true
    · have skipped : members (f :: todo) s = members todo s := List.filterMap_cons_none (if_pos out)
      have same : putBack s cur f = cur := if_pos out
      rw [skipped, same]
      exact ih inTodo apart blankTodo
    · have written : members (f :: todo) s = (f.name, f.codec.encode (f.get s)) :: members todo s :=
        List.filterMap_cons_some (if_neg out)
      have put : putBack s cur f = f.set cur (f.codec.restored (f.get s)) := if_neg out
      have read : R.decodeMember cur (f.name, f.codec.encode (f.get s)) =
          some (f.set cur (f.codec.restored (f.get s))) := by
        unfold decodeMember
        rw [R.find_field (inside f List.mem_cons_self)]
        show (f.codec.decode (f.get cur) (f.codec.encode (f.get s))).map (f.set cur) = _
        rw [blank f List.mem_cons_self, f.codec.decode_encode, Option.map_some]
      rw [written, List.foldlM_cons, read, put]
      -- the fields still to be read hold zero values as before
      refine ih inTodo apart fun g member => ?_
      rw [(others g member).2, blankTodo g member]

/-- The codec of a struct: a null leaves it as it is. -/
def codec (R : Record σ) : Codec σ where
  zero := R.zero
  isEmpty _ := false
  encode s := .obj (members R.fields s)
  decode old
    | .null => some old
    | .obj found => found.foldlM R.decodeMember old
    | _ => none
  restored := R.restored
  isEmpty_zero _ empty := empty
  decode_encode s := R.decode_members s (fun _ inside => inside) R.apart R.get_zero
  encode_restored s := congrArg Json.obj (R.members_restored s)
  isEmpty_restored _ := rfl

theorem codec_present (R : Record σ) (s : σ) : R.codec.encode s ≠ .null := by
  intro null
  cases null

/-! ### Embedded pointers -/

/-- A member read into a promoted field: the pointer is allocated where it is nil. -/
def decodePromoted (R : Record σ) (cur : Option σ) (member : String × Json) : Option (Option σ) :=
  match R.fields.find? fun f => f.name = member.1 with
  | none => some cur
  | some f => (f.codec.decode (f.get (cur.getD R.zero)) member.2).map fun a =>
      some (f.set (cur.getD R.zero) a)

/-- Through an allocated pointer a member is read as into the struct. -/
theorem decodePromoted_some (R : Record σ) (s : σ) (found : List (String × Json)) :
    found.foldlM R.decodePromoted (some s) = (found.foldlM R.decodeMember s).map some := by
  induction found generalizing s with
  | nil => rfl
  | cons member found ih =>
    have step : R.decodePromoted (some s) member = (R.decodeMember s member).map some := by
      unfold decodePromoted decodeMember
      split
      · rfl
      · rw [Option.map_map]
        rfl
    rw [List.foldlM_cons, List.foldlM_cons, step]
    cases R.decodeMember s member with
    | none => rfl
    | some next => exact ih next

/-- The first promoted field that is read allocates the pointer. -/
theorem decodePromoted_none (R : Record σ) {f : Field σ} (inside : f ∈ R.fields) (j : Json) :
    R.decodePromoted none (f.name, j) = R.decodePromoted (some R.zero) (f.name, j) := by
  unfold decodePromoted
  rw [R.find_field inside]
  rfl

/-- What an embedded pointer comes back as: a struct of which nothing is written is lost. -/
def restoredPtr (R : Record σ) : Option σ → Option σ
  | none => none
  | some s => if members R.fields s = [] then none else some (R.restored s)

theorem restoredPtr_some (R : Record σ) (s : σ) : R.restoredPtr (some s) =
    if members R.fields s = [] then none else some (R.restored s) := rfl

theorem decodePromoted_members (R : Record σ) (s : σ) :
    (members R.fields s).foldlM R.decodePromoted none = some (R.restoredPtr (some s)) := by
  have whole := R.decode_members s (fun _ inside => inside) R.apart R.get_zero
  rw [restoredPtr_some]
  cases written : members R.fields s with
  | nil => rfl
  | cons member others =>
    have first : member ∈ members R.fields s := by
      rw [written]
      exact List.mem_cons_self
    -- something is written, and reading it allocates the struct
    obtain ⟨f, inside, made⟩ := List.mem_filterMap.mp first
    by_cases out : f.omitted s = true
    · rw [if_pos out] at made
      cases made
    · rw [if_neg out] at made
      obtain rfl := Option.some.inj made
      rw [List.foldlM_cons, R.decodePromoted_none inside, ← List.foldlM_cons, decodePromoted_some,
        ← written, whole, if_neg (by rw [written]; exact List.cons_ne_nil _ _)]
      rfl

/-- The members of a struct behind an embedded pointer. -/
def promoted (R : Record σ) : Option σ → List (String × Json)
  | none => []
  | some s => members R.fields s

theorem promoted_restoredPtr (R : Record σ) (s : Option σ) :
    R.promoted (R.restoredPtr s) = R.promoted s := by
  cases s with
  | none => rfl
  | some s =>
    rw [restoredPtr_some]
    by_cases blank : members R.fields s = []
    · rw [if_pos blank]
      exact blank.symm
    · rw [if_neg blank]
      exact R.members_restored s

/-- `struct { *T }`: the fields of `T` are written as if they were the struct's own. -/
def embedded (R : Record σ) : Codec (Option σ) where
  zero := none
  isEmpty _ := false
  encode s := .obj (R.promoted s)
  decode old
    | .null => some old
    | .obj found => found.foldlM R.decodePromoted old
    | _ => none
  restored := R.restoredPtr
  isEmpty_zero _ empty := empty
  decode_encode
    | none => rfl
    | some s => R.decodePromoted_members s
  encode_restored s := congrArg Json.obj (R.promoted_restoredPtr s)
  isEmpty_restored _ := rfl

theorem embedded_present (R : Record σ) (s : Option σ) : R.embedded.encode s ≠ .null := by
  intro null
  cases null

end Record

end DraDriver.Base

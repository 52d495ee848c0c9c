/-
**Go maps, `sort.Slice` and `slices.Chunk`, with the order left open.**

A Go `range` over a map visits its entries in an order the language does not fix, and `sort.Slice`
is any correct sort by its key. `Runtime` carries one choice for both, with the facts a Go program
may rely on; a statement over every `Runtime` holds whatever the run time does.

* `groupBy key l` — the map a loop `m[key(a)] = append(m[key(a)], a)` builds.
* `lookup_groupBy` — its entry at `k` is the sublist of the elements with key `k`.
* **`groupBy_perm`** — its entries, in any order, hold every element of `l` exactly once.
* `chunk_flatten` — the chunks of a list, in order, give the list back.
* `foldlM_ok_invariant`, `foldlM_ok_turn` — what a loop that may stop early has kept and done.
-/

import Mathlib.Data.List.AList
import Mathlib.Data.List.Sort
import Mathlib.Data.String.Basic
import Mathlib.Tactic

namespace DraDriver.Base

/-- A Go map: one value a key, compared through its lookups only. -/
abbrev GoMap (κ ν : Type) := AList fun _ : κ => ν

/-- Equality of maps is equality of their entries; stated so that the kernel can evaluate it. -/
instance {κ ν : Type} [DecidableEq κ] [DecidableEq ν] : DecidableEq (GoMap κ ν) := fun m m' =>
  decidable_of_iff (m.entries = m'.entries) AList.ext_iff.symm

/-- `slices.Sorted(maps.Keys(m))`, for keys that are compared by their text. -/
def sortedKeys {κ ν : Type} (text : κ → String) (m : GoMap κ ν) : List κ :=
  m.keys.insertionSort fun k k' => text k ≤ text k'

@[simp] theorem mem_sortedKeys {κ ν : Type} [DecidableEq κ] {text : κ → String} {m : GoMap κ ν} {k : κ} :
    k ∈ sortedKeys text m ↔ k ∈ m := by
  unfold sortedKeys
  rw [(List.perm_insertionSort _ _).mem_iff]
  exact AList.mem_keys

/-- The choices the Go run time makes: the order of a `range` over a map, and the sort that
`sort.Slice` runs for a `less` that compares a numeric key. -/
structure Runtime where
  rangeOrder : {α : Type} → List α → List α
  rangeOrder_perm : ∀ {α : Type} (l : List α), (rangeOrder l).Perm l
  sortSlice : {α : Type} → (α → ℕ) → List α → List α
  sortSlice_perm : ∀ {α : Type} (key : α → ℕ) (l : List α), (sortSlice key l).Perm l
  sortSlice_sorted : ∀ {α : Type} (key : α → ℕ) (l : List α),
    (sortSlice key l).Pairwise fun a b => key a ≤ key b

namespace Runtime

/-- `for k, v := range m`. -/
def range {κ ν : Type} (rt : Runtime) (m : GoMap κ ν) : List (κ × ν) :=
  rt.rangeOrder (m.entries.map fun entry => (entry.1, entry.2))

/-- The run time that visits a map as it is stored and sorts by insertion. -/
def plain : Runtime where
  rangeOrder l := l
  rangeOrder_perm _ := List.Perm.refl _
  sortSlice key l := l.insertionSort fun a b => key a ≤ key b
  sortSlice_perm _ _ := List.perm_insertionSort _ _
  sortSlice_sorted key l := by
    have total : Std.Total fun a b : _ => key a ≤ key b := ⟨fun a b => le_total (key a) (key b)⟩
    have trans : IsTrans _ fun a b : _ => key a ≤ key b := ⟨fun _ _ _ => le_trans⟩
    exact List.pairwise_insertionSort _ _

/-- The run time that visits a map the other way round and sorts alike. -/
def reversed : Runtime where
  rangeOrder l := l.reverse
  rangeOrder_perm := List.reverse_perm
  sortSlice := plain.sortSlice
  sortSlice_perm := plain.sortSlice_perm
  sortSlice_sorted := plain.sortSlice_sorted

theorem mem_sortSlice (rt : Runtime) {α : Type} (key : α → ℕ) {l : List α} {a : α} :
    a ∈ rt.sortSlice key l ↔ a ∈ l :=
  (rt.sortSlice_perm key l).mem_iff

/-- `sort.Slice` is a function of the slice; the run time may still visit maps in other orders. -/
def SortsAlike (rt rt' : Runtime) : Prop :=
  ∀ {α : Type} (key : α → ℕ) (l : List α), rt.sortSlice key l = rt'.sortSlice key l

/-- Two ascending arrangements of the same elements agree when keys tell them apart. -/
theorem eq_of_sorted_perm {α : Type} (key : α → ℕ) {l l' : List α} (perm : l.Perm l')
    (distinct : (l.map key).Nodup) (sorted : l.Pairwise fun a b => key a ≤ key b)
    (sorted' : l'.Pairwise fun a b => key a ≤ key b) : l = l' :=
  List.Perm.eq_of_pairwise (fun _ _ inA inB below above => List.inj_on_of_nodup_map distinct inA
    (perm.mem_iff.mpr inB) (le_antisymm below above)) sorted sorted' perm

/-- **Distinct keys leave a sort no choice**, whatever order its input comes in. -/
theorem sortSlice_unique (rt rt' : Runtime) {α : Type} {key : α → ℕ} {l l' : List α} (perm : l.Perm l')
    (distinct : (l.map key).Nodup) : rt.sortSlice key l = rt'.sortSlice key l' := by
  have first := rt.sortSlice_perm key l
  refine eq_of_sorted_perm key (first.trans (perm.trans (rt'.sortSlice_perm key l').symm))
    ((first.map key).nodup_iff.mpr distinct) (rt.sortSlice_sorted key l) (rt'.sortSlice_sorted key l')

/-- Two loops over one map visit the same entries. -/
theorem range_perm (rt rt' : Runtime) {κ ν : Type} (m : GoMap κ ν) : (rt.range m).Perm (rt'.range m) :=
  (rt.rangeOrder_perm _).trans (rt'.rangeOrder_perm _).symm

theorem range_keys_nodup (rt : Runtime) {κ ν : Type} (m : GoMap κ ν) :
    ((rt.range m).map Prod.fst).Nodup := by
  refine ((rt.rangeOrder_perm _).map Prod.fst).nodup_iff.mpr ?_
  rw [List.map_map]
  exact m.keys_nodup

end Runtime

section Lookup

variable {κ ν : Type} [DecidableEq κ]

theorem mem_range_iff (rt : Runtime) (m : GoMap κ ν) (k : κ) (v : ν) :
    (k, v) ∈ rt.range m ↔ m.lookup k = some v := by
  unfold Runtime.range
  rw [(rt.rangeOrder_perm _).mem_iff, List.mem_map]
  constructor
  · rintro ⟨⟨k', v'⟩, member, same⟩
    cases same
    exact AList.mem_lookup_iff.mpr member
  · intro found
    exact ⟨⟨k, v⟩, AList.mem_lookup_iff.mp found, rfl⟩

/-- The entry of an updated map. -/
theorem lookup_insert_eq (m : GoMap κ ν) (k k' : κ) (v : ν) :
    (m.insert k v).lookup k' = if k' = k then some v else m.lookup k' := by
  by_cases same : k' = k
  · subst same
    rw [if_pos rfl, AList.lookup_insert]
  · rw [if_neg same, AList.lookup_insert_ne same]

/-- The entry of a map with a key deleted. -/
theorem lookup_erase_eq (m : GoMap κ ν) (k k' : κ) :
    (m.erase k).lookup k' = if k' = k then none else m.lookup k' := by
  by_cases same : k' = k
  · subst same
    rw [if_pos rfl, AList.lookup_erase]
  · rw [if_neg same, AList.lookup_erase_ne same]

/-- A present key's entry, moved to the front. -/
theorem entries_perm_of_lookup {m : GoMap κ ν} {k : κ} {v : ν} (found : m.lookup k = some v) :
    m.entries.Perm (⟨k, v⟩ :: m.entries.kerase k) := by
  have inside : k ∈ m.entries.keys := AList.mem_keys.mp (AList.lookup_isSome.mp (by rw [found]; rfl))
  obtain ⟨v', front, back, notFront, split, erased⟩ := List.exists_of_kerase inside
  have same : v' = v := by
    have member : (⟨k, v'⟩ : Sigma fun _ : κ => ν) ∈ m.entries := by rw [split]; simp
    have stored : m.lookup k = some v' := AList.mem_lookup_iff.mpr member
    rw [found] at stored
    exact (Option.some.inj stored).symm
  rw [erased, split, same]
  exact List.perm_middle

/-- A loop over a map visits a present key once. -/
theorem range_split (rt : Runtime) {m : GoMap κ ν} {k : κ} {v : ν} (found : m.lookup k = some v) :
    ∃ rest, (rt.range m).Perm ((k, v) :: rest) ∧ ∀ entry ∈ rest, entry.1 ≠ k := by
  refine ⟨(m.entries.kerase k).map fun entry => (entry.1, entry.2), ?_, ?_⟩
  · exact (rt.rangeOrder_perm _).trans ((entries_perm_of_lookup found).map fun entry => (entry.1, entry.2))
  · rintro entry member rfl
    obtain ⟨stored, inside, same⟩ := List.mem_map.mp member
    cases same
    exact List.notMem_keys_kerase stored.1 m.nodupKeys (List.mem_keys_of_mem inside)

end Lookup

/-! ### Filling a map from a list -/

section Fill

variable {α κ ν : Type} [DecidableEq κ] {key : α → κ} {value : α → ν}

theorem mem_fill {k : κ} : ∀ {items : List α} {m : GoMap κ ν},
    k ∈ items.foldl (fun m a => m.insert (key a) (value a)) m ↔ k ∈ m ∨ k ∈ items.map key
  | [], m => by simp
  | a :: items, m => by
    rw [List.foldl_cons, mem_fill, AList.mem_insert, List.map_cons, List.mem_cons]
    tauto

/-- An entry was there before or is that of a listed item. -/
theorem lookup_fill_cases {k : κ} {v : ν} : ∀ {items : List α} {m : GoMap κ ν},
    (items.foldl (fun m a => m.insert (key a) (value a)) m).lookup k = some v →
      m.lookup k = some v ∨ ∃ a ∈ items, key a = k ∧ value a = v
  | [], _, found => Or.inl found
  | a :: items, m, found => by
    rw [List.foldl_cons] at found
    rcases lookup_fill_cases found with old | ⟨later, member, same⟩
    · rw [lookup_insert_eq] at old
      by_cases here : k = key a
      · rw [if_pos here] at old
        exact Or.inr ⟨a, List.mem_cons_self, here.symm, Option.some.inj old⟩
      · rw [if_neg here] at old
        exact Or.inl old
    · exact Or.inr ⟨later, List.mem_cons_of_mem _ member, same⟩

/-- Into an empty map only listed items are written. -/
theorem lookup_fill_sound {k : κ} {v : ν} {items : List α}
    (found : (items.foldl (fun m a => m.insert (key a) (value a)) (∅ : GoMap κ ν)).lookup k = some v) :
    ∃ a ∈ items, key a = k ∧ value a = v := by
  rcases lookup_fill_cases found with none | listed
  · rw [AList.lookup_empty] at none
    cases none
  · exact listed

/-- **With distinct keys the entries are exactly those of the items.** -/
theorem lookup_fill {items : List α} (distinct : (items.map key).Nodup) {k : κ} {v : ν} :
    (items.foldl (fun m a => m.insert (key a) (value a)) (∅ : GoMap κ ν)).lookup k = some v ↔
      ∃ a ∈ items, key a = k ∧ value a = v := by
  refine ⟨lookup_fill_sound, ?_⟩
  rintro ⟨a, member, rfl, rfl⟩
  have inside : key a ∈ items.foldl (fun m a => m.insert (key a) (value a)) (∅ : GoMap κ ν) :=
    mem_fill.mpr (Or.inr (List.mem_map_of_mem member))
  obtain ⟨v, stored⟩ := Option.isSome_iff_exists.mp (AList.lookup_isSome.mpr inside)
  obtain ⟨b, listed, sameKey, sameValue⟩ := lookup_fill_sound stored
  rw [stored, ← sameValue, List.inj_on_of_nodup_map distinct listed member sameKey]

/-- What is written hides what was there. -/
theorem lookup_fill_from (items : List α) (m : GoMap κ ν) (k : κ) :
    (items.foldl (fun m a => m.insert (key a) (value a)) m).lookup k =
      ((items.foldl (fun m a => m.insert (key a) (value a)) (∅ : GoMap κ ν)).lookup k).or
        (m.lookup k) := by
  induction items using List.reverseRecOn with
  | nil => rw [List.foldl_nil, List.foldl_nil, AList.lookup_empty, Option.none_or]
  | append_singleton items a ih =>
    simp only [List.foldl_append, List.foldl_cons, List.foldl_nil, lookup_insert_eq]
    by_cases here : k = key a
    · rw [if_pos here, if_pos here, Option.some_or]
    · rw [if_neg here, if_neg here, ih]

/-- A map copied into another, in any order. -/
theorem lookup_copy (rt : Runtime) (m m' : GoMap κ ν) (k : κ) :
    ((rt.range m').foldl (fun m entry => m.insert entry.1 entry.2) m).lookup k =
      (m'.lookup k).or (m.lookup k) := by
  rw [lookup_fill_from]
  congr 1
  refine Option.ext fun v => (lookup_fill (rt.range_keys_nodup m')).trans ?_
  rw [← mem_range_iff rt]
  constructor
  · rintro ⟨entry, member, rfl, rfl⟩
    exact member
  · exact fun member => ⟨(k, v), member, rfl, rfl⟩

/-- Items opposite each other leave entries opposite each other. -/
theorem lookup_fill_rel {R : ν → ν → Prop} {items items' : List α}
    (opposite : List.Forall₂ (fun a b => key b = key a ∧ R (value a) (value b)) items items') (k : κ) :
    Option.Rel R
      ((items.foldl (fun m a => m.insert (key a) (value a)) (∅ : GoMap κ ν)).lookup k)
      ((items'.foldl (fun m a => m.insert (key a) (value a)) (∅ : GoMap κ ν)).lookup k) := by
  refine List.rel_foldl (P := fun m m' : GoMap κ ν => Option.Rel R (m.lookup k) (m'.lookup k))
    (fun m m' before a b both => ?_) ?_ opposite
  · show Option.Rel R ((m.insert (key a) (value a)).lookup k) ((m'.insert (key b) (value b)).lookup k)
    rw [lookup_insert_eq, lookup_insert_eq, both.1]
    split
    · exact .some both.2
    · exact before
  · exact .none

/-- So the order of the items does not show. -/
theorem lookup_fill_perm {items items' : List α} (distinct : (items.map key).Nodup)
    (perm : items.Perm items') (k : κ) :
    (items.foldl (fun m a => m.insert (key a) (value a)) (∅ : GoMap κ ν)).lookup k =
      (items'.foldl (fun m a => m.insert (key a) (value a)) (∅ : GoMap κ ν)).lookup k := by
  refine Option.ext fun v => ?_
  refine (lookup_fill distinct).trans (Iff.trans ?_
    (lookup_fill ((perm.map key).nodup_iff.mp distinct)).symm)
  exact exists_congr fun a => and_congr_left' perm.mem_iff

end Fill

/-! ### Grouping by a key -/

section GroupBy

variable {α κ : Type} [DecidableEq κ]

/-- One turn of the grouping loop. -/
def groupStep (key : α → κ) (m : GoMap κ (List α)) (a : α) : GoMap κ (List α) :=
  m.insert (key a) ((m.lookup (key a)).getD [] ++ [a])

/-- The map the grouping loop builds. -/
def groupBy (key : α → κ) (l : List α) : GoMap κ (List α) :=
  l.foldl (groupStep key) ∅

theorem groupBy_append (key : α → κ) (l : List α) (a : α) :
    groupBy key (l ++ [a]) = groupStep key (groupBy key l) a := by
  unfold groupBy
  rw [List.foldl_append, List.foldl_cons, List.foldl_nil]

/-- **The group of a key is the sublist of the elements that carry it.** -/
theorem lookup_groupBy (key : α → κ) (l : List α) (k : κ) :
    (groupBy key l).lookup k =
      if l.filter (fun a => key a = k) = [] then none
      else some (l.filter fun a => key a = k) := by
  induction l using List.reverseRecOn with
  | nil => rfl
  | append_singleton l a ih =>
    rw [groupBy_append, groupStep, lookup_insert_eq, List.filter_append]
    by_cases same : k = key a
    · subst same
      simp only [if_true, ih]
      by_cases none : l.filter (fun b => key b = key a) = [] <;> simp [none]
    · have skip : ([a].filter fun b => key b = k) = [] := by simp [Ne.symm same]
      rw [if_neg same, ih, skip, List.append_nil]

theorem mem_groupBy {key : α → κ} {l : List α} {k : κ} {group : List α}
    (found : (groupBy key l).lookup k = some group) :
    group = l.filter (fun a => key a = k) ∧ group ≠ [] := by
  rw [lookup_groupBy] at found
  by_cases none : l.filter (fun a => key a = k) = []
  · rw [if_pos none] at found
    cases found
  · rw [if_neg none] at found
    cases found
    exact ⟨rfl, none⟩

/-- **The groups hold every element exactly once.** -/
theorem groupBy_perm (key : α → κ) (l : List α) :
    ((groupBy key l).entries.flatMap fun entry => entry.2).Perm l := by
  induction l using List.reverseRecOn with
  | nil => exact List.Perm.refl _
  | append_singleton l a ih =>
    rw [groupBy_append, groupStep, AList.entries_insert, List.flatMap_cons]
    cases found : (groupBy key l).lookup (key a) with
    | none =>
      have absent : key a ∉ (groupBy key l).entries.keys := AList.lookup_eq_none.mp found
      rw [List.kerase_of_notMem_keys absent, Option.getD_none, List.nil_append]
      exact (ih.cons a).trans (List.perm_append_singleton a l).symm
    | some group =>
      have moved := (entries_perm_of_lookup found).flatMap_right fun entry => entry.2
      rw [List.flatMap_cons] at moved
      have whole := moved.symm.trans ih
      rw [Option.getD_some, List.append_assoc]
      refine List.Perm.trans ?_ (whole.append_right [a])
      rw [List.append_assoc]
      exact List.Perm.append_left _ List.perm_append_comm

/-- The groups, in the order the run time visits them. -/
theorem range_groupBy_perm (rt : Runtime) (key : α → κ) (l : List α) :
    ((rt.range (groupBy key l)).flatMap fun entry => entry.2).Perm l := by
  refine List.Perm.trans ?_ (groupBy_perm key l)
  have visited := (rt.rangeOrder_perm ((groupBy key l).entries.map fun entry =>
    (entry.1, entry.2))).flatMap_right fun entry => entry.2
  rw [List.flatMap_map] at visited
  exact visited

/-- Elements of one key make one group. -/
theorem entries_groupBy_const {key : α → κ} {k : κ} {l : List α} (same : ∀ a ∈ l, key a = k) :
    (groupBy key l).entries = if l = [] then [] else [⟨k, l⟩] := by
  induction l using List.reverseRecOn with
  | nil => rfl
  | append_singleton l a ih =>
    have before := ih fun b member => same b (List.mem_append_left _ member)
    have group : ((groupBy key l).lookup k).getD [] = l := by
      rw [lookup_groupBy, List.filter_eq_self.mpr fun b member => by
        simpa using same b (List.mem_append_left _ member)]
      by_cases none : l = [] <;> simp [none]
    rw [groupBy_append, groupStep, same a (by simp), group, AList.entries_insert, before,
      if_neg (List.append_ne_nil_of_right_ne_nil l (List.cons_ne_nil a []))]
    by_cases none : l = []
    · rw [if_pos none]
      rfl
    · have alone : List.kerase k [(⟨k, l⟩ : Sigma fun _ : κ => List α)] = [] :=
        List.kerase_cons_eq rfl
      rw [if_neg none, alone]

/-- The loop over a map of one group has one turn. -/
theorem range_groupBy_const (rt : Runtime) {key : α → κ} {k : κ} {l : List α}
    (same : ∀ a ∈ l, key a = k) : rt.range (groupBy key l) = if l = [] then [] else [(k, l)] := by
  have visited := rt.rangeOrder_perm ((groupBy key l).entries.map fun entry => (entry.1, entry.2))
  unfold Runtime.range
  rw [entries_groupBy_const same] at visited ⊢
  by_cases none : l = []
  · rw [if_pos none] at visited ⊢
    rw [if_pos none]
    exact List.perm_nil.mp visited
  · rw [if_neg none] at visited ⊢
    rw [if_neg none]
    exact List.perm_singleton.mp visited

end GroupBy

/-! ### Chunks -/

section Chunk

variable {α : Type}

/-- `slices.Chunk(l, size)`, with the length of `l` as its bound on the number of turns. -/
def chunkAux (size : ℕ) : ℕ → List α → List (List α)
  | 0, _ => []
  | _, [] => []
  | turns + 1, a :: l => (a :: l).take size :: chunkAux size turns ((a :: l).drop size)

/-- `slices.Chunk(l, size)`. -/
def chunk (size : ℕ) (l : List α) : List (List α) := chunkAux size l.length l

theorem chunkAux_flatten {size : ℕ} (positive : 0 < size) :
    ∀ (turns : ℕ) (l : List α), l.length ≤ turns → (chunkAux size turns l).flatten = l
  | 0, l, short => by
    have : l = [] := List.length_eq_zero_iff.mp (Nat.le_zero.mp short)
    subst this
    rfl
  | turns + 1, [], _ => rfl
  | turns + 1, a :: l, short => by
    have rest : ((a :: l).drop size).length ≤ turns := by
      rw [List.length_drop]
      omega
    rw [chunkAux, List.flatten_cons, chunkAux_flatten positive turns _ rest, List.take_append_drop]

/-- **The chunks of a list, in order, give the list back.** -/
theorem chunk_flatten {size : ℕ} (positive : 0 < size) (l : List α) :
    (chunk size l).flatten = l :=
  chunkAux_flatten positive l.length l le_rfl

theorem length_chunkAux_le {size : ℕ} : ∀ (turns : ℕ) (l : List α),
    ∀ part ∈ chunkAux size turns l, part.length ≤ size
  | 0, _, _, member => by cases member
  | _ + 1, [], _, member => by cases member
  | turns + 1, a :: l, part, member => by
    rcases List.mem_cons.mp member with rfl | later
    · exact List.length_take_le _ _
    · exact length_chunkAux_le turns _ part later

/-- No chunk is longer than its size. -/
theorem length_chunk_le {size : ℕ} {l part : List α} (member : part ∈ chunk size l) :
    part.length ≤ size :=
  length_chunkAux_le l.length l part member

theorem chunk_eq_nil {size : ℕ} (positive : 0 < size) {l : List α} (none : chunk size l = []) : l = [] := by
  rw [← chunk_flatten positive l, none]
  rfl

/-- Lists opposite each other are cut at the same places. -/
theorem chunk_rel {β : Type} {R : α → β → Prop} (size : ℕ) {l : List α} {u : List β}
    (opposite : List.Forall₂ R l u) : List.Forall₂ (List.Forall₂ R) (chunk size l) (chunk size u) := by
  have turns : ∀ (turns : ℕ) {l : List α} {u : List β}, List.Forall₂ R l u →
      List.Forall₂ (List.Forall₂ R) (chunkAux size turns l) (chunkAux size turns u) := by
    intro turns
    induction turns with
    | zero => exact fun _ => .nil
    | succ turns ih =>
      intro l u opposite
      cases opposite with
      | nil => exact .nil
      | cons here rest =>
        exact .cons (List.forall₂_take size (.cons here rest))
          (ih (List.forall₂_drop size (.cons here rest)))
  unfold chunk
  rw [opposite.length_eq]
  exact turns u.length opposite

end Chunk

/-! ### A loop that may stop early -/

/-- A lookup loop that comes to its end has looked every element up, in order. -/
theorem mapM_eq_some_iff {α β : Type} {f : α → Option β} : ∀ {l : List α} {out : List β},
    l.mapM f = some out ↔ List.Forall₂ (fun a b => f a = some b) l out
  | [], out => by
    rw [List.mapM_nil, List.forall₂_nil_left_iff]
    exact ⟨fun ran => (Option.some.inj ran).symm, fun same => congrArg some same.symm⟩
  | a :: l, out => by
    rw [List.mapM_cons, List.forall₂_cons_left_iff]
    constructor
    · intro ran
      obtain ⟨b, first, ran⟩ := Option.bind_eq_some_iff.mp ran
      obtain ⟨rest, later, same⟩ := Option.bind_eq_some_iff.mp ran
      exact ⟨b, rest, first, mapM_eq_some_iff.mp later, (Option.some.inj same).symm⟩
    · rintro ⟨b, rest, first, later, rfl⟩
      rw [first, mapM_eq_some_iff.mpr later]
      rfl

/-- Lists drawn from one list are told apart by a key that tells its elements apart. -/
theorem eq_of_map_eq {α κ : Type} {key : α → κ} {l : List α} (distinct : (l.map key).Nodup) :
    ∀ {s s' : List α}, s ⊆ l → s' ⊆ l → s.map key = s'.map key → s = s'
  | [], [], _, _, _ => rfl
  | a :: s, a' :: s', first, second, same => by
    obtain ⟨here, rest⟩ := List.cons.inj same
    obtain ⟨inA, first⟩ := List.cons_subset.mp first
    obtain ⟨inA', second⟩ := List.cons_subset.mp second
    rw [List.inj_on_of_nodup_map distinct inA inA' here, eq_of_map_eq distinct first second rest]

/-- What stands opposite an element of the right-hand list. -/
theorem forall₂_exists_left {α β : Type} {R : α → β → Prop} {b : β} :
    ∀ {l : List α} {u : List β}, List.Forall₂ R l u → b ∈ u → ∃ a ∈ l, R a b
  | _, _, .cons here rest, member => by
    rcases List.mem_cons.mp member with rfl | member
    · exact ⟨_, List.mem_cons_self, here⟩
    · obtain ⟨a, inside, related⟩ := forall₂_exists_left rest member
      exact ⟨a, List.mem_cons_of_mem _ inside, related⟩

/-- A list each element of which has a partner has a list opposite it. -/
theorem exists_forall₂ {α β : Type} {R : α → β → Prop} :
    ∀ {l : List α}, (∀ a ∈ l, ∃ b, R a b) → ∃ u, List.Forall₂ R l u
  | [], _ => ⟨[], .nil⟩
  | a :: l, partners => by
    obtain ⟨⟨b, here⟩, rest⟩ := List.forall_mem_cons.mp partners
    obtain ⟨u, later⟩ := exists_forall₂ rest
    exact ⟨b :: u, .cons here later⟩

/-- Lists of the same keys stand opposite each other, element by element. -/
theorem forall₂_of_map_eq {α β κ : Type} {f : α → κ} {g : β → κ} {R : α → β → Prop} :
    ∀ {l : List α} {l' : List β}, l.map f = l'.map g →
      (∀ a ∈ l, ∀ b ∈ l', f a = g b → R a b) → List.Forall₂ R l l'
  | [], [], _, _ => .nil
  | a :: l, b :: l', same, related => by
    obtain ⟨here, rest⟩ := List.cons.inj same
    exact .cons (related a List.mem_cons_self b List.mem_cons_self here)
      (forall₂_of_map_eq rest fun a' inside b' inside' =>
        related a' (List.mem_cons_of_mem _ inside) b' (List.mem_cons_of_mem _ inside'))

/-- Related lists stand opposite the same lists. -/
theorem forall₂_congr_left {α β γ : Type} {E : α → β → Prop} {R : α → γ → Prop} {S : β → γ → Prop}
    (same : ∀ a b c, E a b → (R a c ↔ S b c)) : ∀ {l : List α} {l' : List β}, List.Forall₂ E l l' →
      ∀ {u : List γ}, List.Forall₂ R l u ↔ List.Forall₂ S l' u
  | _, _, .nil, _ => by rw [List.forall₂_nil_left_iff, List.forall₂_nil_left_iff]
  | _, _, .cons _ _, [] => by rw [List.forall₂_nil_right_iff, List.forall₂_nil_right_iff]; simp
  | _, _, .cons here rest, c :: u => by
    rw [List.forall₂_cons, List.forall₂_cons, same _ _ c here, forall₂_congr_left same rest]

/-- A list of values of a loop is the image of a list of its elements. -/
theorem exists_map_eq {α β : Type} {f : α → β} {l : List α} :
    ∀ {u : List β}, u ⊆ l.map f → ∃ s, s ⊆ l ∧ s.map f = u
  | [], _ => ⟨[], List.nil_subset _, rfl⟩
  | b :: u, inside => by
    obtain ⟨here, rest⟩ := List.cons_subset.mp inside
    obtain ⟨a, member, rfl⟩ := List.mem_map.mp here
    obtain ⟨s, covered, rfl⟩ := exists_map_eq rest
    exact ⟨a :: s, List.cons_subset.mpr ⟨member, covered⟩, rfl⟩

/-- A condition on the right-hand elements, taken out of a pointwise relation. -/
theorem forall₂_and_right {α β : Type} {R : α → β → Prop} {P : β → Prop} {l : List α} {u : List β} :
    List.Forall₂ (fun a b => P b ∧ R a b) l u ↔ (∀ b ∈ u, P b) ∧ List.Forall₂ R l u := by
  have flipped := List.forall₂_and_left (R := flip R) (p := P) u l
  constructor
  · intro both
    obtain ⟨each, rest⟩ := flipped.mp (List.Forall₂.flip both)
    exact ⟨each, rest.flip⟩
  · rintro ⟨each, rest⟩
    exact (flipped.mpr ⟨each, List.Forall₂.flip rest⟩).flip

section Except

variable {ε α β : Type} {f : β → α → Except ε β}

theorem except_bind_eq_ok {x : Except ε α} {next : α → Except ε β} {b : β} :
    (x >>= next) = .ok b ↔ ∃ a, x = .ok a ∧ next a = .ok b := by
  constructor
  · intro ran
    cases x with
    | error e => cases ran
    | ok a => exact ⟨a, rfl, ran⟩
  · rintro ⟨a, rfl, ran⟩
    exact ran

/-- A loop none of whose turns fails is a plain one. -/
theorem foldlM_eq_foldl {g : β → α → β} : ∀ {l : List α} (b : β),
    (∀ a ∈ l, ∀ b, f b a = .ok (g b a)) → l.foldlM f b = .ok (l.foldl g b)
  | [], _, _ => rfl
  | a :: l, b, turns => by
    obtain ⟨here, rest⟩ := List.forall_mem_cons.mp turns
    rw [List.foldlM_cons, here b, List.foldl_cons]
    exact foldlM_eq_foldl (g b a) rest

/-- Turns that change nothing may be left out. -/
theorem foldlM_filter (kept : α → Bool) : ∀ {l : List α} (b : β),
    (∀ a ∈ l, kept a = false → ∀ b, f b a = .ok b) → l.foldlM f b = (l.filter kept).foldlM f b
  | [], _, _ => rfl
  | a :: l, b, skips => by
    obtain ⟨here, rest⟩ := List.forall_mem_cons.mp skips
    cases keep : kept a with
    | true =>
      rw [List.filter_cons_of_pos keep, List.foldlM_cons, List.foldlM_cons]
      exact congrArg (f b a >>= ·) (funext fun next => foldlM_filter kept next rest)
    | false =>
      rw [List.filter_cons_of_neg (by rw [keep]; decide), List.foldlM_cons, here keep b]
      exact foldlM_filter kept b rest

/-- What every turn keeps holds when the loop ends. -/
theorem foldlM_ok_invariant {P : β → Prop} (keep : ∀ b a b', P b → f b a = .ok b' → P b') :
    ∀ {l : List α} {b b' : β}, l.foldlM f b = .ok b' → P b → P b'
  | [], b, b', ran, start => by
    cases ran
    exact start
  | a :: l, b, b', ran, start => by
    rw [List.foldlM_cons] at ran
    obtain ⟨next, first, ran⟩ := except_bind_eq_ok.mp ran
    exact foldlM_ok_invariant keep ran (keep b a next start first)

/-- A loop that ends has made every turn. -/
theorem foldlM_ok_turn : ∀ {l : List α} {b b' : β}, l.foldlM f b = .ok b' → ∀ a ∈ l,
    ∃ before after, f before a = .ok after
  | [], _, _, _, _, member => by cases member
  | first :: l, b, b', ran, a, member => by
    rw [List.foldlM_cons] at ran
    obtain ⟨next, step, ran⟩ := except_bind_eq_ok.mp ran
    rcases List.mem_cons.mp member with rfl | later
    · exact ⟨b, next, step⟩
    · exact foldlM_ok_turn ran a later

end Except

end DraDriver.Base

/-
**Exclusion by unit counters.**

Devices of a pool cover resources; a scheduler sees counters only. `Admits` lets a device in when it
is not held itself and every counter it uses still has room. A `Scheme` relates the two views: a
device uses one unit of a counter or none, a used counter has capacity one, and two devices share a
counter exactly when they share a resource. Over whole runs of allocations and releases:

* **`Scheme.run_exclusive`** — held devices cover pairwise disjoint resources;
* **`Scheme.refused_iff`** — a device is refused exactly when a held device covers one of its
  resources;
* **`CounterPool.foldlM_act_map`** — devices that never refuse each other are scheduled as if there
  were no counters.
-/

import DraDriver.Base.Transition

namespace DraDriver.Base

variable {D C X : Type} [DecidableEq D]

/-- The devices of a pool as a counter scheduler sees them. -/
structure CounterPool (D C : Type) where
  listed : List D
  uses : D → List C
  amount : D → C → ℤ
  capacity : C → ℤ

namespace CounterPool

/-- What the held devices take of a counter. -/
def taken (pool : CounterPool D C) (held : List D) (c : C) : ℤ :=
  (held.map fun d => pool.amount d c).sum

/-- Not held itself, and room in every counter it uses. -/
def Admits (pool : CounterPool D C) (held : List D) (d : D) : Prop :=
  d ∉ held ∧ ∀ c ∈ pool.uses d, pool.taken held c + pool.amount d c ≤ pool.capacity c

instance (pool : CounterPool D C) (held : List D) (d : D) : Decidable (pool.Admits held d) :=
  inferInstanceAs (Decidable (_ ∧ _))

/-- One step of the scheduler. -/
inductive Action (D : Type)
  | allocate (d : D)
  | release (d : D)
  deriving DecidableEq, Repr

/-- The held devices after a step; `none` when the scheduler does not take it. -/
def act (pool : CounterPool D C) (held : List D) : Action D → Option (List D)
  | .allocate d => if d ∈ pool.listed ∧ pool.Admits held d then some (held ++ [d]) else none
  | .release d => if d ∈ held then some (held.erase d) else none

/-- The scheduler as a step relation. -/
def Step (pool : CounterPool D C) (held : List D) (action : Action D) (held' : List D) : Prop :=
  pool.act held action = some held'

theorem step_cases {pool : CounterPool D C} {held held' : List D} {action : Action D}
    (step : pool.Step held action held') :
    (∃ d ∈ pool.listed, action = .allocate d ∧ pool.Admits held d ∧ held' = held ++ [d]) ∨
      ∃ d ∈ held, action = .release d ∧ held' = held.erase d := by
  unfold Step act at step
  cases action with
  | allocate d =>
    simp only at step
    split at step
    · rename_i admitted
      exact Or.inl ⟨d, admitted.1, rfl, admitted.2, (Option.some.inj step).symm⟩
    · cases step
  | release d =>
    simp only at step
    split at step
    · rename_i inside
      exact Or.inr ⟨d, inside, rfl, (Option.some.inj step).symm⟩
    · cases step

/-- Only listed devices are held. -/
theorem run_listed {pool : CounterPool D C} {actions : List (Action D)} {held : List D}
    (run : Run pool.Step [] actions held) : held ⊆ pool.listed := by
  have keep : ∀ before action after, before ⊆ pool.listed → pool.Step before action after →
      after ⊆ pool.listed := by
    intro before action after inside step
    rcases step_cases step with ⟨d, known, -, -, rfl⟩ | ⟨d, -, -, rfl⟩
    · exact List.append_subset.mpr ⟨inside, by simpa using known⟩
    · exact fun a member => inside (List.mem_of_mem_erase member)
  exact run.invariant keep (List.nil_subset _)

/-- Where no counter is used, any two devices can be held together. -/
theorem run_pair {pool : CounterPool D C} {a b : D} (listedA : a ∈ pool.listed)
    (listedB : b ∈ pool.listed) (different : b ≠ a) (unusedA : pool.uses a = [])
    (unusedB : pool.uses b = []) : Run pool.Step [] [.allocate a, .allocate b] [a, b] := by
  have admitsA : pool.Admits [] a := ⟨List.not_mem_nil, by simp [unusedA]⟩
  have admitsB : pool.Admits [a] b := ⟨by simpa using different, by simp [unusedB]⟩
  have first : pool.Step [] (.allocate a) [a] := if_pos ⟨listedA, admitsA⟩
  have second : pool.Step [a] (.allocate b) [a, b] := if_pos ⟨listedB, admitsB⟩
  exact .snoc (.snoc (.nil []) first) second

/-! #### A part of a pool -/

/-- The device of an action. -/
def Action.device : Action D → D
  | .allocate d => d
  | .release d => d

/-- The action on another device. -/
def Action.map {D' : Type} (f : D → D') : Action D → Action D'
  | .allocate d => .allocate (f d)
  | .release d => .release (f d)

/-- A pool whose devices use no counter: a device is free or held. -/
def free (listed : List D) : CounterPool D C :=
  { listed := listed, uses := fun _ => [], amount := fun _ _ => 0, capacity := fun _ => 0 }

section Part

variable {D' : Type} [DecidableEq D'] {pool : CounterPool D' C} {part : List D} {f : D → D'}

theorem map_erase_of_injOn (inj : Set.InjOn f {d | d ∈ part}) {d : D} (here : d ∈ part) {held : List D}
    (inside : held ⊆ part) : (held.map f).erase (f d) = (held.erase d).map f := by
  induction held with
  | nil => rfl
  | cons first held ih =>
    obtain ⟨known, inside⟩ := List.cons_subset.mp inside
    rw [List.map_cons, List.erase_cons, List.erase_cons]
    by_cases same : first = d
    · simp [same]
    · have different : f first ≠ f d := fun image => same (inj known here image)
      simp [same, different, ih inside]

/-- One step on such a part is one step of the counter-free pool. -/
theorem act_map (inj : Set.InjOn f {d | d ∈ part}) (listed : ∀ d ∈ part, f d ∈ pool.listed)
    (admits : ∀ held ⊆ part, ∀ d ∈ part, d ∉ held → pool.Admits (held.map f) (f d)) {held : List D}
    (inside : held ⊆ part) {action : Action D} (here : action.device ∈ part) :
    pool.act (held.map f) (action.map f) = ((free (C := C) part).act held action).map (List.map f) := by
  have mem : f action.device ∈ held.map f ↔ action.device ∈ held := by
    constructor
    · intro image
      obtain ⟨other, old, same⟩ := List.mem_map.mp image
      exact inj (inside old) here same ▸ old
    · exact List.mem_map_of_mem
  cases action with
  | allocate d =>
    by_cases old : d ∈ held
    · have refused : ¬ pool.Admits (held.map f) (f d) := fun admitted => admitted.1 (mem.mpr old)
      have refused' : ¬ (free (C := C) part).Admits held d := fun admitted => admitted.1 old
      simp [act, Action.map, refused, refused']
    · have admitted : (free (C := C) part).Admits held d := ⟨old, fun c used => by cases used⟩
      have known : d ∈ (free (C := C) part).listed := here
      simp [act, Action.map, listed d here, admits held inside d here old, admitted, known]
  | release d =>
    by_cases old : d ∈ held
    · have taken : f d ∈ held.map f := mem.mpr old
      rw [act, Action.map, act, if_pos taken, if_pos old]
      exact congrArg some (map_erase_of_injOn inj here inside)
    · have absent : f d ∉ held.map f := fun image => old (mem.mp image)
      rw [act, Action.map, act, if_neg absent, if_neg old]
      rfl

/-- **A part of a pool whose devices never refuse each other is a pool of its own**, whatever counters
they use. -/
theorem foldlM_act_map (inj : Set.InjOn f {d | d ∈ part}) (listed : ∀ d ∈ part, f d ∈ pool.listed)
    (admits : ∀ held ⊆ part, ∀ d ∈ part, d ∉ held → pool.Admits (held.map f) (f d))
    {actions : List (Action D)} (known : ∀ action ∈ actions, action.device ∈ part) {held : List D}
    (inside : held ⊆ part) : (actions.map (Action.map f)).foldlM pool.act (held.map f) =
      (actions.foldlM (free (C := C) part).act held).map (List.map f) := by
  induction actions generalizing held with
  | nil => rfl
  | cons action actions ih =>
    obtain ⟨here, rest⟩ := List.forall_mem_cons.mp known
    rw [List.map_cons, List.foldlM_cons, List.foldlM_cons, act_map inj listed admits inside here]
    cases taken : (free (C := C) part).act held action with
    | none => rfl
    | some held' =>
      refine ih rest ?_
      rcases step_cases taken with ⟨d, member, -, -, rfl⟩ | ⟨d, -, -, rfl⟩
      · exact List.append_subset.mpr ⟨inside, by simpa [free] using member⟩
      · exact fun d member => inside (List.mem_of_mem_erase member)

end Part

end CounterPool

/-- **The counters say what the covers say.** -/
structure Scheme (pool : CounterPool D C) (cover : D → X → Prop) : Prop where
  unit : ∀ d ∈ pool.listed, ∀ c, (c ∈ pool.uses d → pool.amount d c = 1) ∧
    (c ∉ pool.uses d → pool.amount d c = 0)
  capacity : ∀ d ∈ pool.listed, ∀ c ∈ pool.uses d, pool.capacity c = 1
  share : ∀ d ∈ pool.listed, ∀ d' ∈ pool.listed, d ≠ d' →
    ((∃ x, cover d x ∧ cover d' x) ↔ ∃ c, c ∈ pool.uses d ∧ c ∈ pool.uses d')
  covers : ∀ d ∈ pool.listed, ∃ x, cover d x

namespace Scheme

variable {pool : CounterPool D C} {cover : D → X → Prop}

/-- Two devices have no resource in common. -/
def Apart (cover : D → X → Prop) (d d' : D) : Prop := ∀ x, cover d x → ¬ cover d' x

/-- What the scheduler keeps: listed devices, each once, covering disjoint resources. -/
structure Exclusive (pool : CounterPool D C) (cover : D → X → Prop) (held : List D) : Prop where
  listed : held ⊆ pool.listed
  nodup : held.Nodup
  apart : ∀ d ∈ held, ∀ d' ∈ held, d ≠ d' → Apart cover d d'

omit [DecidableEq D] in
theorem taken_eq_zero (scheme : Scheme pool cover) {held : List D} (listed : held ⊆ pool.listed)
    {c : C} (unused : ∀ d ∈ held, c ∉ pool.uses d) : pool.taken held c = 0 := by
  refine List.sum_eq_zero fun value member => ?_
  obtain ⟨d, inside, rfl⟩ := List.mem_map.mp member
  exact (scheme.unit d (listed inside) c).2 (unused d inside)

omit [DecidableEq D] in
theorem one_le_taken (scheme : Scheme pool cover) {held : List D} (listed : held ⊆ pool.listed)
    {c : C} {d : D} (inside : d ∈ held) (used : c ∈ pool.uses d) : 1 ≤ pool.taken held c := by
  have nonneg : ∀ value ∈ held.map fun d => pool.amount d c, 0 ≤ value := by
    intro value member
    obtain ⟨other, inOther, rfl⟩ := List.mem_map.mp member
    by_cases uses : c ∈ pool.uses other
    · rw [(scheme.unit other (listed inOther) c).1 uses]
      decide
    · rw [(scheme.unit other (listed inOther) c).2 uses]
  have single := List.single_le_sum nonneg _
    (List.mem_map_of_mem (f := fun d => pool.amount d c) inside)
  rwa [(scheme.unit d (listed inside) c).1 used] at single

omit [DecidableEq D] in
/-- **Admission is disjointness**: a device is let in exactly when no held device covers one of its
resources. -/
theorem admits_iff (scheme : Scheme pool cover) {held : List D} (listed : held ⊆ pool.listed) {d : D}
    (known : d ∈ pool.listed) : pool.Admits held d ↔ ∀ d' ∈ held, Apart cover d d' := by
  constructor
  · rintro ⟨notHeld, room⟩ d' inside x covered covered'
    have different : d ≠ d' := fun same => notHeld (same ▸ inside)
    obtain ⟨c, used, used'⟩ := (scheme.share d known d' (listed inside) different).mp
      ⟨x, covered, covered'⟩
    have full := scheme.one_le_taken listed inside used'
    have bound := room c used
    rw [(scheme.unit d known c).1 used, scheme.capacity d known c used] at bound
    omega
  · intro apart
    refine ⟨fun inside => ?_, fun c used => ?_⟩
    · obtain ⟨x, covered⟩ := scheme.covers d known
      exact apart d inside x covered covered
    · have unused : ∀ d' ∈ held, c ∉ pool.uses d' := by
        intro d' inside used'
        have different : d ≠ d' := fun same => by
          obtain ⟨x, covered⟩ := scheme.covers d known
          exact apart d' inside x covered (same ▸ covered)
        obtain ⟨x, covered, covered'⟩ := (scheme.share d known d' (listed inside) different).mpr
          ⟨c, used, used'⟩
        exact apart d' inside x covered covered'
      rw [scheme.taken_eq_zero listed unused, (scheme.unit d known c).1 used,
        scheme.capacity d known c used]
      decide

omit [DecidableEq D] in
theorem start_exclusive : Exclusive pool cover [] where
  listed := List.nil_subset _
  nodup := List.nodup_nil
  apart d inside := by cases inside

/-- One step keeps the held devices apart. -/
theorem step_exclusive (scheme : Scheme pool cover) {held held' : List D}
    {action : CounterPool.Action D} (exclusive : Exclusive pool cover held)
    (step : pool.Step held action held') : Exclusive pool cover held' := by
  rcases CounterPool.step_cases step with ⟨d, known, -, admits, rfl⟩ | ⟨d, inside, -, rfl⟩
  · have fresh := (scheme.admits_iff exclusive.listed known).mp admits
    refine ⟨?_, ?_, ?_⟩
    · exact List.append_subset.mpr ⟨exclusive.listed, by simpa using known⟩
    · refine List.nodup_append.mpr ⟨exclusive.nodup, List.nodup_singleton d, ?_⟩
      intro a old b new same
      exact admits.1 (by rw [List.mem_singleton] at new; exact new ▸ same ▸ old)
    · intro a inA b inB different
      rcases List.mem_append.mp inA with oldA | newA
      · rcases List.mem_append.mp inB with oldB | newB
        · exact exclusive.apart a oldA b oldB different
        · have same : b = d := by simpa using newB
          exact same ▸ fun x covered covered' => fresh a oldA x covered' covered
      · have same : a = d := by simpa using newA
        rcases List.mem_append.mp inB with oldB | newB
        · exact same ▸ fresh b oldB
        · have sameB : b = d := by simpa using newB
          exact absurd (same.trans sameB.symm) different
  · exact ⟨fun a member => exclusive.listed (List.mem_of_mem_erase member),
      exclusive.nodup.erase d, fun a inA b inB => exclusive.apart a (List.mem_of_mem_erase inA) b
        (List.mem_of_mem_erase inB)⟩

/-- **Every run keeps the held devices apart.** -/
theorem run_exclusive (scheme : Scheme pool cover) {actions : List (CounterPool.Action D)}
    {held : List D} (run : Run pool.Step [] actions held) : Exclusive pool cover held := by
  have keep : ∀ before action after, Exclusive pool cover before → pool.Step before action after →
      Exclusive pool cover after := fun _ _ _ exclusive step => scheme.step_exclusive exclusive step
  exact run.invariant keep start_exclusive

/-- **No over-blocking**: a device is refused exactly when a held device covers one of its
resources. -/
theorem refused_iff (scheme : Scheme pool cover) {actions : List (CounterPool.Action D)}
    {held : List D} (run : Run pool.Step [] actions held) {d : D} (known : d ∈ pool.listed) :
    ¬ pool.Admits held d ↔ ∃ d' ∈ held, ∃ x, cover d x ∧ cover d' x := by
  rw [scheme.admits_iff (scheme.run_exclusive run).listed known]
  simp only [Apart, not_forall, not_not, exists_prop]

/-- **A list of devices can be allocated one after another exactly when they are pairwise apart**, in
whatever order. -/
theorem run_allocate_iff (scheme : Scheme pool cover) {devices : List D} (listed : devices ⊆ pool.listed) :
    Run pool.Step [] (devices.map .allocate) devices ↔ devices.Pairwise (Apart cover) := by
  constructor
  · intro run
    have exclusive := scheme.run_exclusive run
    refine exclusive.nodup.imp_of_mem fun {d d'} inside inside' different => ?_
    exact exclusive.apart d inside d' inside' different
  · intro apart
    induction devices using List.reverseRecOn with
    | nil => exact .nil []
    | append_singleton before d ih =>
      obtain ⟨inside, known⟩ := List.append_subset.mp listed
      obtain ⟨old, -, last⟩ := List.pairwise_append.mp apart
      have known : d ∈ pool.listed := known (List.mem_singleton_self d)
      have admits : pool.Admits before d := (scheme.admits_iff inside known).mpr fun d' held x here there =>
        last d' held d (List.mem_singleton_self d) x there here
      have step : pool.Step before (.allocate d) (before ++ [d]) := if_pos ⟨known, admits⟩
      rw [List.map_append]
      exact .snoc (ih inside old) step

end Scheme

end DraDriver.Base

/-
**Devices of a counter pool given to owners.**

A ledger lists what each owner holds; all it lists together is what the scheduler of
`Base.Exclusion` holds.

* `Ledger.Grants` — the scheduler takes the devices for a new owner one after another.
* `Ledger.exclusive_grant`, `Ledger.exclusive_release` — a new owner and one that leaves keep all held
  devices apart.
* **`Ledger.apart`** — no resource is covered by devices of two owners.
-/

import DraDriver.Base.Exclusion

namespace DraDriver.Base

variable {O D C X : Type}

/-- What each owner holds. -/
abbrev Ledger (O D : Type) := List (O × List D)

namespace Ledger

/-- All devices that are held. -/
def held (ledger : Ledger O D) : List D := ledger.flatMap Prod.snd

theorem held_append (ledger more : Ledger O D) : held (ledger ++ more) = held ledger ++ held more :=
  List.flatMap_append

/-- The scheduler takes one device after another. -/
def Grants [DecidableEq D] (pool : CounterPool D C) (ledger : Ledger O D) (devices : List D) : Prop :=
  Run pool.Step (held ledger) (devices.map .allocate) (held ledger ++ devices)

variable {pool : CounterPool D C} {cover : D → X → Prop} {ledger : Ledger O D}

theorem exclusive_grant [DecidableEq D] (scheme : Scheme pool cover)
    (exclusive : Scheme.Exclusive pool cover (held ledger)) {devices : List D}
    (granted : Grants pool ledger devices) (owner : O) :
    Scheme.Exclusive pool cover (held (ledger ++ [(owner, devices)])) := by
  have all : held (ledger ++ [(owner, devices)]) = held ledger ++ devices := by
    rw [held_append]
    simp [held]
  rw [all]
  exact granted.invariant (fun _ _ _ exclusive step => scheme.step_exclusive exclusive step) exclusive

theorem exclusive_release {before after : Ledger O D} {entry : O × List D}
    (exclusive : Scheme.Exclusive pool cover (held (before ++ entry :: after))) :
    Scheme.Exclusive pool cover (held (before ++ after)) := by
  have part : List.Sublist (held (before ++ after)) (held (before ++ entry :: after)) := by
    rw [held_append, held_append]
    exact (List.Sublist.refl _).append (List.sublist_append_right entry.2 (held after))
  exact ⟨fun d inside => exclusive.listed (part.subset inside), exclusive.nodup.sublist part,
    fun d inside d' inside' => exclusive.apart d (part.subset inside) d' (part.subset inside')⟩

/-- **Devices of two owners cover nothing in common.** -/
theorem apart (exclusive : Scheme.Exclusive pool cover (held ledger)) {entry other : O × List D}
    (listed : entry ∈ ledger) (listed' : other ∈ ledger) (different : entry.1 ≠ other.1) :
    ∀ d ∈ entry.2, ∀ d' ∈ other.2, Scheme.Apart cover d d' := by
  intro d inside d' inside'
  obtain ⟨-, disjoint⟩ := List.nodup_flatMap.mp exclusive.nodup
  have symm : Std.Symm (Function.onFun List.Disjoint (Prod.snd : O × List D → List D)) :=
    ⟨fun _ _ => List.Disjoint.symm⟩
  have apart := disjoint.forall listed listed' fun same => different (congrArg Prod.fst same)
  refine exclusive.apart d (List.mem_flatMap.mpr ⟨entry, listed, inside⟩) d'
    (List.mem_flatMap.mpr ⟨other, listed', inside'⟩) ?_
  rintro rfl
  exact apart inside inside'

end Ledger

end DraDriver.Base

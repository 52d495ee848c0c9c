/-
**Actions with disjoint footprints.**

A state is read place by place (`get`), and each action has its places. `Local` says that an action
answers by what is at its places, rewrites them by that alone, and leaves every other place as it
was. For a batch of actions no two of which share a place:

* `Local.answers` — each answers as it would have answered alone;
* `Local.untouched`, `Local.touched` — what the batch leaves at a place is what was there, or what
  the one action of that place would have left alone;
* **`Local.perm`** — so the order of the batch changes nothing.

`inv` is what the actions need of a state, and keep.
-/

import Mathlib.Tactic

namespace DraDriver.Base

variable {A S R P V : Type}

/-- Perform actions one after the other. -/
def runAll (act : A → S → R × S) : List A → S → List R × S
  | [], s => ([], s)
  | a :: rest, s =>
    ((act a s).1 :: (runAll act rest (act a s).2).1, (runAll act rest (act a s).2).2)

theorem runAll_append (act : A → S → R × S) : ∀ (first second : List A) (s : S),
    runAll act (first ++ second) s = ((runAll act first s).1 ++ (runAll act second (runAll act first s).2).1,
      (runAll act second (runAll act first s).2).2)
  | [], _, _ => rfl
  | a :: first, second, s => by
    have later := runAll_append act first second (act a s).2
    show ((act a s).1 :: (runAll act (first ++ second) (act a s).2).1,
      (runAll act (first ++ second) (act a s).2).2) = _
    rw [later]
    rfl

/-- Two states hold the same at these places. -/
def Alike (get : P → S → V) (places : P → Prop) (s s' : S) : Prop :=
  ∀ p, places p → get p s = get p s'

/-- No place of the one is a place of the other. -/
def Apart (places : A → P → Prop) (a b : A) : Prop := ∀ p, places a p → ¬ places b p

theorem Apart.symm {places : A → P → Prop} {a b : A} (apart : Apart places a b) : Apart places b a :=
  fun p there here => apart p here there

/-- **Actions that keep to their places**: each answers by what its own places hold, changes them by what
they hold, and leaves every other place alone. -/
structure Local (inv : S → Prop) (get : P → S → V) (places : A → P → Prop) (act : A → S → R × S) :
    Prop where
  keeps : ∀ a s, inv s → inv (act a s).2
  answer : ∀ a s s', inv s → inv s' → Alike get (places a) s s' → (act a s).1 = (act a s').1
  own : ∀ a s s', inv s → inv s' → Alike get (places a) s s' →
    Alike get (places a) (act a s).2 (act a s').2
  others : ∀ a s p, inv s → ¬ places a p → get p (act a s).2 = get p s

namespace Local

variable {inv : S → Prop} {get : P → S → V} {places : A → P → Prop} {act : A → S → R × S}

/-- An action leaves the places of another as they were. -/
theorem alike (isLocal : Local inv get places act) {a b : A} (apart : Apart places a b) {s : S}
    (ok : inv s) : Alike get (places b) (act a s).2 s :=
  fun p there => isLocal.others a s p ok fun here => apart p here there

theorem answers (isLocal : Local inv get places act) : ∀ {batch : List A},
    batch.Pairwise (Apart places) → ∀ {s : S}, inv s →
      (runAll act batch s).1 = batch.map fun a => (act a s).1 := by
  intro batch
  induction batch with
  | nil => exact fun _ _ _ => rfl
  | cons a rest ih =>
    intro apart s ok
    obtain ⟨first, later⟩ := List.pairwise_cons.mp apart
    have kept := isLocal.keeps a s ok
    show (act a s).1 :: (runAll act rest (act a s).2).1 = (act a s).1 :: _
    rw [ih later kept]
    refine congrArg _ (List.map_congr_left fun b member => ?_)
    exact isLocal.answer b _ s kept ok (isLocal.alike (first b member) ok)

theorem keepsAll (isLocal : Local inv get places act) : ∀ (batch : List A) {s : S}, inv s →
    inv (runAll act batch s).2
  | [], _, ok => ok
  | a :: rest, s, ok => isLocal.keepsAll rest (isLocal.keeps a s ok)

theorem untouched (isLocal : Local inv get places act) {p : P} : ∀ {batch : List A},
    (∀ a ∈ batch, ¬ places a p) → ∀ {s : S}, inv s → get p (runAll act batch s).2 = get p s := by
  intro batch
  induction batch with
  | nil => exact fun _ _ _ => rfl
  | cons a rest ih =>
    intro free s ok
    refine (ih (fun b member => free b (List.mem_cons_of_mem _ member)) (isLocal.keeps a s ok)).trans ?_
    exact isLocal.others a s p ok (free a List.mem_cons_self)

theorem touched (isLocal : Local inv get places act) {a : A} {p : P} (here : places a p) :
    ∀ {batch : List A}, a ∈ batch → batch.Pairwise (Apart places) → ∀ {s : S}, inv s →
      get p (runAll act batch s).2 = get p (act a s).2 := by
  intro batch
  induction batch with
  | nil => exact fun member => absurd member List.not_mem_nil
  | cons b rest ih =>
    intro member apart s ok
    obtain ⟨first, later⟩ := List.pairwise_cons.mp apart
    have kept := isLocal.keeps b s ok
    rcases List.mem_cons.mp member with rfl | member
    · exact isLocal.untouched (fun c inside => first c inside p here) kept
    · refine (ih member later kept).trans ?_
      exact isLocal.own a _ s kept ok (isLocal.alike (first a member) ok) p here

/-- **Any order of a batch leaves the same at every place.** -/
theorem perm (isLocal : Local inv get places act) {batch batch' : List A}
    (apart : batch.Pairwise (Apart places)) (same : batch.Perm batch') {s : S} (ok : inv s) (p : P) :
    get p (runAll act batch s).2 = get p (runAll act batch' s).2 := by
  have apart' : batch'.Pairwise (Apart places) := same.pairwise apart fun apart => apart.symm
  by_cases owner : ∃ a ∈ batch, places a p
  · obtain ⟨a, member, here⟩ := owner
    rw [isLocal.touched here member apart ok, isLocal.touched here (same.mem_iff.mp member) apart' ok]
  · have free : ∀ a ∈ batch, ¬ places a p := fun a member here => owner ⟨a, member, here⟩
    rw [isLocal.untouched free ok, isLocal.untouched (fun a member => free a (same.mem_iff.mpr member)) ok]

end Local

end DraDriver.Base

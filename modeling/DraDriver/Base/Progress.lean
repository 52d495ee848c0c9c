/-
**Bounded work.**

The steps of a transition system are its own or the environment's. A `Potential` is a number that
every step of its own lowers and a step of the environment raises by at most `cost`.

* **`Potential.bounded`** — in every run the system takes no more steps than its potential at the
  start and what the environment added pay for.
* **`Potential.exists_stuck`** — left alone, it reaches a state in which it has no step.
-/

import DraDriver.Base.Transition

namespace DraDriver.Base

universe u v

variable {S : Type u} {L : Type v}

/-- The system has no step of its own. -/
def Stuck (step : S → L → S → Prop) (own : L → Bool) (s : S) : Prop :=
  ∀ label s', own label = true → ¬ step s label s'

/-- Where an invariant holds, own steps lower the rank and other steps raise it by at most `cost`. -/
structure Potential (step : S → L → S → Prop) (own : L → Bool) (Inv : S → Prop) (rank : S → ℕ)
    (cost : ℕ) : Prop where
  keep : ∀ s label s', Inv s → step s label s' → Inv s'
  pays : ∀ s label s', Inv s → step s label s' → own label = true → rank s' < rank s
  adds : ∀ s label s', Inv s → step s label s' → own label = false → rank s' ≤ rank s + cost

namespace Potential

variable {step : S → L → S → Prop} {own : L → Bool} {Inv : S → Prop} {rank : S → ℕ} {cost : ℕ}

/-- **Every own step is paid for**, by the rank at the start or by a step of the environment. -/
theorem bounded (potential : Potential step own Inv rank cost) {s s' : S} {labels : List L}
    (run : Run step s labels s') (start : Inv s) :
    labels.countP own + rank s' ≤ rank s + cost * labels.countP fun label => !own label := by
  induction run with
  | nil => simp
  | @snoc labels mid label last before moved ih =>
    have inv := before.invariant potential.keep start
    rw [List.countP_append, List.countP_append, List.countP_singleton, List.countP_singleton]
    cases mine : own label with
    | true =>
      have lower := potential.pays mid label last inv moved mine
      simp only [if_true, Bool.not_true, Bool.false_eq_true, if_false, add_zero]
      omega
    | false =>
      have higher := potential.adds mid label last inv moved mine
      simp only [Bool.false_eq_true, if_false, Bool.not_false, if_true, add_zero, mul_add, mul_one]
      omega

/-- **Left alone, the system reaches a state without a step**, in no more steps than its rank. -/
theorem exists_stuck (potential : Potential step own Inv rank cost) {s : S} (start : Inv s) :
    ∃ labels s', (∀ label ∈ labels, own label = true) ∧ labels.length ≤ rank s ∧
      Run step s labels s' ∧ Stuck step own s' := by
  induction bound : rank s using Nat.strong_induction_on generalizing s with
  | _ most ih =>
    subst bound
    by_cases stuck : Stuck step own s
    · exact ⟨[], s, by simp, Nat.zero_le _, .nil s, stuck⟩
    · unfold Stuck at stuck
      push Not at stuck
      obtain ⟨label, mid, mine, moved⟩ := stuck
      have lower := potential.pays s label mid start moved mine
      obtain ⟨labels, s', all, few, run, ends⟩ :=
        ih _ lower (potential.keep s label mid start moved) rfl
      have first : Run step s [label] mid := .snoc (.nil s) moved
      refine ⟨label :: labels, s', ?_, ?_, first.append run, ends⟩
      · intro other member
        rcases List.mem_cons.mp member with rfl | later
        · exact mine
        · exact all other later
      · rw [List.length_cons]
        omega

end Potential

end DraDriver.Base

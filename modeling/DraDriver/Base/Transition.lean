/-
**Runs of a labelled transition system.**

`Run step s labels s'` is a finite run from `s` to `s'`. An invariant that one step keeps holds at
the end of every run (`Run.invariant`), and a run splits at any point of its labels (`Run.split`).
For a step function, or one behind a guard, runs come from evaluation (`run_of_foldlM`,
`run_of_guarded`).
-/

import Mathlib.Tactic

namespace DraDriver.Base

universe u v

variable {S : Type u} {L : Type v}

/-- A finite run, extended at its end. -/
inductive Run (step : S → L → S → Prop) : S → List L → S → Prop
  | nil (s : S) : Run step s [] s
  | snoc {s : S} {labels : List L} {s' : S} {label : L} {s'' : S} :
      Run step s labels s' → step s' label s'' → Run step s (labels ++ [label]) s''

namespace Run

variable {step : S → L → S → Prop}

/-- **What every step keeps holds at the end of every run.** -/
theorem invariant {Inv : S → Prop} {s : S} {labels : List L} {s' : S} (run : Run step s labels s')
    (keep : ∀ s label s', Inv s → step s label s' → Inv s') (start : Inv s) : Inv s' := by
  induction run with
  | nil => exact start
  | snoc _ last ih => exact keep _ _ _ ih last

/-- A step relation with fewer steps has fewer runs. -/
theorem mono {step' : S → L → S → Prop} {s : S} {labels : List L} {s' : S}
    (run : Run step s labels s') (weaker : ∀ s label s', step s label s' → step' s label s') :
    Run step' s labels s' := by
  induction run with
  | nil => exact .nil _
  | snoc _ last ih => exact .snoc ih (weaker _ _ _ last)

/-- A run whose labels all have a property. -/
theorem restrict {P : L → Prop} {s : S} {labels : List L} {s' : S} (run : Run step s labels s')
    (all : ∀ label ∈ labels, P label) : Run (fun s label s' => P label ∧ step s label s') s labels s' := by
  induction run with
  | nil => exact .nil _
  | snoc _ last ih =>
    refine .snoc (ih fun label member => all label (List.mem_append_left _ member)) ⟨?_, last⟩
    exact all _ (List.mem_append_right _ (List.mem_singleton_self _))

theorem append {s s' s'' : S} {first second : List L} (run : Run step s first s')
    (rest : Run step s' second s'') : Run step s (first ++ second) s'' := by
  induction rest with
  | nil => simpa using run
  | snoc _ last ih =>
    rw [← List.append_assoc]
    exact .snoc ih last

/-- **A run splits at any point of its labels.** -/
theorem split {s s'' : S} {first : List L} : ∀ {second : List L},
    Run step s (first ++ second) s'' → ∃ s', Run step s first s' ∧ Run step s' second s'' := by
  intro second
  induction second using List.reverseRecOn generalizing s'' with
  | nil =>
    intro run
    rw [List.append_nil] at run
    exact ⟨s'', run, .nil s''⟩
  | append_singleton second label ih =>
    intro run
    rw [← List.append_assoc] at run
    generalize whole : first ++ second ++ [label] = labels at run
    cases run with
    | nil => simp at whole
    | snoc before last =>
      obtain ⟨same, sameLabel⟩ := List.append_inj' whole rfl
      obtain ⟨s', one, two⟩ := ih (same ▸ before)
      cases sameLabel
      exact ⟨s', one, .snoc two last⟩

end Run

/-- The runs of a step function, from its evaluation. -/
theorem run_of_foldlM {f : S → L → Option S} : ∀ {labels : List L} {s s' : S},
    labels.foldlM f s = some s' → Run (fun s label s' => f s label = some s') s labels s' := by
  intro labels
  induction labels using List.reverseRecOn with
  | nil =>
    intro s s' done
    cases Option.some.inj done
    exact .nil s
  | append_singleton labels label ih =>
    intro s s' ran
    rw [List.foldlM_append] at ran
    obtain ⟨mid, before, last⟩ := Option.bind_eq_some_iff.mp ran
    refine .snoc (ih before) ?_
    simpa using last

/-- A step function behind a guard. -/
def guarded (guard : S → L → Bool) (f : S → L → Option S) (s : S) (label : L) : Option S :=
  if guard s label then f s label else none

/-- The runs of a guarded step function, from its evaluation. -/
theorem run_of_guarded {guard : S → L → Bool} {f : S → L → Option S} {labels : List L} {s s' : S}
    (ran : labels.foldlM (guarded guard f) s = some s') :
    Run (fun s label s' => guard s label = true ∧ f s label = some s') s labels s' :=
  (run_of_foldlM ran).mono fun _ _ _ step => Option.ite_none_right_eq_some.mp step

end DraDriver.Base

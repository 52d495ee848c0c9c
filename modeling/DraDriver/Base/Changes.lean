/-
**The changes of a sequence.**

A consumer that acts on a value only when it differs from the last one it acted on acts on
`List.destutter` of what it is given. With an equivalence as its notion of sameness:

* `changes_concat` — one more value is kept exactly when it differs from the last one kept.
* **`last_changes`** — the last value kept is the same as the last value given.
* `changes_repeat`, `changes_repeat_append` — a value that repeats the one before it adds nothing.
* `changes_isChain` — no two values kept in a row are the same.
-/

import Mathlib.Data.List.Destutter
import Mathlib.Tactic

namespace DraDriver.Base

variable {α : Type} (same : α → α → Bool)

/-- The values of a sequence that differ from the last one kept. -/
def changes (l : List α) : List α := l.destutter fun a b => same a b = false

@[simp] theorem changes_nil : changes same [] = [] := rfl

theorem changes_isChain (l : List α) :
    (changes same l).IsChain fun a b => same a b = false :=
  List.isChain_destutter _ l

/-- One more value, after at least one. -/
theorem destutter'_concat (b : α) : ∀ (l : List α) (a : α), ∃ front last,
    l.destutter' (fun a b => same a b = false) a = front ++ [last] ∧
      (l ++ [b]).destutter' (fun a b => same a b = false) a =
        if same last b then front ++ [last] else front ++ [last, b]
  | [], a => by
    refine ⟨[], a, rfl, ?_⟩
    cases here : same a b <;> simp [List.destutter', here]
  | c :: l, a => by
    cases here : same a c with
    | true =>
      obtain ⟨front, last, kept, more⟩ := destutter'_concat b l a
      refine ⟨front, last, ?_, ?_⟩
      · simpa [List.destutter', here] using kept
      · simpa [List.destutter', here] using more
    | false =>
      obtain ⟨front, last, kept, more⟩ := destutter'_concat b l c
      refine ⟨a :: front, last, ?_, ?_⟩
      · simpa [List.destutter', here] using kept
      · simp only [List.cons_append, List.destutter', here, if_true, more]
        split <;> rfl

/-- **One more value is kept exactly when it differs from the last one kept.** -/
theorem changes_concat {l : List α} (filled : l ≠ []) (b : α) : ∃ last,
    (changes same l).getLast? = some last ∧
      changes same (l ++ [b]) =
        if same last b then changes same l else changes same l ++ [b] := by
  obtain ⟨a, l, rfl⟩ := List.exists_cons_of_ne_nil filled
  obtain ⟨front, last, kept, more⟩ := destutter'_concat same b l a
  have whole : changes same (a :: l) = front ++ [last] := kept
  refine ⟨last, by rw [whole]; simp, ?_⟩
  rw [whole]
  refine more.trans ?_
  split <;> simp

section Equivalence

variable {same} (refl : ∀ a, same a a = true)

include refl

/-- **The last value kept is the same as the last value given.** -/
theorem last_changes (l : List α) (b : α) :
    ∃ last, (changes same (l ++ [b])).getLast? = some last ∧ same last b = true := by
  by_cases empty : l = []
  · subst empty
    exact ⟨b, rfl, refl b⟩
  · obtain ⟨last, kept, more⟩ := changes_concat same empty b
    rw [more]
    split
    · rename_i repeated
      exact ⟨last, kept, repeated⟩
    · exact ⟨b, by simp, refl b⟩

/-- A value that repeats the last one given adds nothing. -/
theorem changes_repeat (trans : ∀ a b c, same a b = true → same b c = true → same a c = true)
    (l : List α) {b c : α} (repeated : same b c = true) :
    changes same (l ++ [b] ++ [c]) = changes same (l ++ [b]) := by
  obtain ⟨last, kept, near⟩ := last_changes refl l b
  obtain ⟨last', kept', more⟩ :=
    changes_concat same (List.append_ne_nil_of_right_ne_nil l (List.cons_ne_nil b [])) c
  rw [kept] at kept'
  cases kept'
  rw [more, if_pos (trans _ _ _ near repeated)]

/-- Nor does it anywhere in a sequence. -/
theorem changes_repeat_append (trans : ∀ a b c, same a b = true → same b c = true → same a c = true)
    (front back : List α) {b c : α} (repeated : same b c = true) :
    changes same (front ++ [b] ++ [c] ++ back) = changes same (front ++ [b] ++ back) := by
  induction back using List.reverseRecOn with
  | nil =>
    rw [List.append_nil, List.append_nil]
    exact changes_repeat refl trans front repeated
  | append_singleton back d ih =>
    -- both sides have kept the same values before the last one
    obtain ⟨last, kept, more⟩ := changes_concat same
      (List.append_ne_nil_of_left_ne_nil (List.append_ne_nil_of_right_ne_nil (front ++ [b])
        (List.cons_ne_nil c [])) back) d
    obtain ⟨last', kept', more'⟩ := changes_concat same
      (List.append_ne_nil_of_left_ne_nil (List.append_ne_nil_of_right_ne_nil front
        (List.cons_ne_nil b [])) back) d
    rw [ih] at kept
    cases kept.symm.trans kept'
    rw [← List.append_assoc, ← List.append_assoc, more, more', ih]

end Equivalence

end DraDriver.Base

/-
**Programs that call a device, their runs and their assertions.**

A `Prog` is a pure value: the next operation and what to do with its answer, or a result. `perform`
says what an operation does to the device's state under an outcome (done, failed, …). The same
program is then read in three ways.

* `exec` — alone, under a list of outcomes; the list running out is a crash at that point, also
  between the last operation and the return. **`exec_ensures`**: an `Ensures` assertion holds of it.
* `Ensures always p post` — pre- and postconditions in which `always` holds after every single
  operation, so that a crash leaves a state that satisfies it (`ensures_bind`, `ensures_foldEach`).
* `Resists env always p post` — the same when others step between any two operations, as far as
  `env` lets them (`Resists.env`, `Resists.step`).

`run` is `exec` where every operation is done (`exec_run`); it always returns.
`Only P A p` says that as long as the answers are among `A`, `p` calls operations of `P` alone;
two runs of such a program are compared operation by operation (`exec_related`).
-/

import Mathlib.Tactic

namespace DraDriver.Base

/-- A program: a result, or an operation and what follows on its answer. -/
inductive Prog (Op : Type) (Ans : Op → Type) (α : Type) : Type
  | ret (a : α)
  | call (o : Op) (k : Ans o → Prog Op Ans α)

namespace Prog

variable {Op : Type} {Ans : Op → Type} {α β γ ε : Type}

/-- What comes after a program, once it has returned. -/
def bind : Prog Op Ans α → (α → Prog Op Ans β) → Prog Op Ans β
  | .ret a, f => f a
  | .call o k, f => .call o fun answer => (k answer).bind f

instance : Monad (Prog Op Ans) where
  pure := .ret
  bind := .bind

/-- The program of one operation. -/
def perform (o : Op) : Prog Op Ans (Ans o) := .call o .ret

/-- The operation a program calls next. -/
def next : Prog Op Ans α → Option Op
  | .ret _ => none
  | .call o _ => some o

/-- A loop over a list that carries an accumulator and stops at the first error. -/
def foldEach (f : γ → β → Prog Op Ans (Except ε γ)) : List β → γ → Prog Op Ans (Except ε γ)
  | [], acc => .ret (.ok acc)
  | b :: bs, acc => do
    match ← f acc b with
    | .error e => return .error e
    | .ok acc => foldEach f bs acc

/-! ### Running alone -/

section Alone

variable {S Q : Type} (act : S → (o : Op) → Q → Ans o × S)

/-- Run under a list of outcomes, one an operation and one for the return. -/
def exec : Prog Op Ans α → List Q → S → S × Option α
  | .ret _, [], s => (s, none)
  | .ret a, _ :: _, s => (s, some a)
  | .call _ _, [], s => (s, none)
  | .call o k, q :: outcomes, s => exec (k (act s o q).1) outcomes (act s o q).2

/-- `always` holds at every point of the program and `post` where it returns, whatever the
outcomes. -/
def Ensures (always : S → Prop) : Prog Op Ans α → (S → α → Prop) → S → Prop
  | .ret a, post, s => always s ∧ post s a
  | .call o k, post, s => always s ∧ ∀ q, Ensures always (k (act s o q).1) post (act s o q).2

variable {act} {always : S → Prop}

theorem Ensures.here {p : Prog Op Ans α} {post : S → α → Prop} {s : S}
    (ensures : Ensures act always p post s) : always s := by
  cases p with
  | ret a => exact ensures.1
  | call o k => exact ensures.1

/-- **A run under any outcomes meets the assertion**, also where it is cut short. -/
theorem exec_ensures {p : Prog Op Ans α} {post : S → α → Prop} : ∀ {s : S} (outcomes : List Q),
    Ensures act always p post s → always (exec act p outcomes s).1 ∧
      ∀ a, (exec act p outcomes s).2 = some a → post (exec act p outcomes s).1 a := by
  induction p with
  | ret a =>
    intro s outcomes ensures
    cases outcomes with
    | nil => exact ⟨ensures.1, fun _ none => by cases none⟩
    | cons q rest => exact ⟨ensures.1, fun _ returned => Option.some.inj returned ▸ ensures.2⟩
  | call o k ih =>
    intro s outcomes ensures
    cases outcomes with
    | nil => exact ⟨ensures.1, fun _ none => by cases none⟩
    | cons q rest => exact ih _ rest (ensures.2 q)

/-- A call ends in one of the ways its assertion lists; `none` is a crash. -/
theorem exec_ends {p : Prog Op Ans α} {ends : S → Option α → Prop} {s : S} (outcomes : List Q)
    (ensures : Ensures act (fun s => ends s none) p (fun s a => ends s (some a)) s) :
    ends (exec act p outcomes s).1 (exec act p outcomes s).2 := by
  obtain ⟨crashed, returned⟩ := exec_ensures outcomes ensures
  cases result : (exec act p outcomes s).2 with
  | none => exact crashed
  | some a => exact returned a result

theorem ensures_bind {p : Prog Op Ans α} {f : α → Prog Op Ans β} {post : S → β → Prop} :
    ∀ {s : S}, Ensures act always (p >>= f) post s ↔
      Ensures act always p (fun s a => Ensures act always (f a) post s) s := by
  induction p with
  | ret a =>
    intro s
    exact ⟨fun ensures => ⟨ensures.here, ensures⟩, fun ensures => ensures.2⟩
  | call o k ih =>
    intro s
    exact and_congr Iff.rfl (forall_congr' fun _ => ih _)

theorem Ensures.mono {weaker : S → Prop} {p : Prog Op Ans α} {post post' : S → α → Prop}
    (points : ∀ s, always s → weaker s) (returns : ∀ s a, always s → post s a → post' s a) :
    ∀ {s : S}, Ensures act always p post s → Ensures act weaker p post' s := by
  induction p with
  | ret a => exact fun ensures => ⟨points _ ensures.1, returns _ a ensures.1 ensures.2⟩
  | call o k ih => exact fun ensures => ⟨points _ ensures.1, fun q => ih _ (ensures.2 q)⟩

/-- A postcondition for each of the two kinds of result. -/
def onResult (good : S → γ → Prop) (bad : S → ε → Prop) (s : S) : Except ε γ → Prop
  | .ok a => good s a
  | .error e => bad s e

/-- **The loop rule**: an invariant over the part of the list done so far. -/
theorem ensures_foldEach {f : γ → β → Prog Op Ans (Except ε γ)} (inv : List β → γ → S → Prop)
    (bad : S → ε → Prop) (points : ∀ done acc s, inv done acc s → always s) :
    ∀ (rest done : List β), (∀ b ∈ rest, ∀ done acc s, inv done acc s →
      Ensures act always (f acc b) (onResult (fun s acc => inv (done ++ [b]) acc s) bad) s) →
      ∀ (acc : γ) (s : S), inv done acc s → Ensures act always (foldEach f rest acc)
        (onResult (fun s acc => inv (done ++ rest) acc s) bad) s := by
  intro rest
  induction rest with
  | nil =>
    intro done _ acc s holds
    exact ⟨points _ _ _ holds, by simpa [onResult] using holds⟩
  | cons b rest ih =>
    intro done body acc s holds
    unfold foldEach
    refine ensures_bind.mpr (Ensures.mono (fun _ point => point) ?_
      (body b List.mem_cons_self done acc s holds))
    intro s r point returned
    cases r with
    | error e => exact ⟨point, returned⟩
    | ok acc =>
      have later := ih (done ++ [b]) (fun b' member => body b' (List.mem_cons_of_mem _ member)) acc s
        returned
      simpa using later

/-- Run with every operation answered by `answer`. -/
def run (answer : S → (o : Op) → Ans o × S) : Prog Op Ans α → S → α × S
  | .ret a, s => (a, s)
  | .call o k, s => run answer (k (answer s o).1) (answer s o).2

theorem run_bind (answer : S → (o : Op) → Ans o × S) {f : α → Prog Op Ans β} :
    ∀ (p : Prog Op Ans α) (s : S),
      run answer (p >>= f) s = run answer (f (run answer p s).1) (run answer p s).2
  | .ret _, _ => rfl
  | .call o k, s => run_bind answer (k (answer s o).1) (answer s o).2

/-- **Where every outcome is the answer, a run with outcomes enough returns what `run` does.** -/
theorem exec_run {answer : S → (o : Op) → Ans o × S} {q : Q} (done : ∀ s o, act s o q = answer s o) :
    ∀ (p : Prog Op Ans α) (s : S), ∃ n, ∀ m, n ≤ m →
      exec act p (List.replicate m q) s = ((run answer p s).2, some (run answer p s).1) := by
  intro p
  induction p with
  | ret a =>
    refine fun s => ⟨1, fun m enough => ?_⟩
    obtain ⟨m, rfl⟩ := Nat.exists_eq_add_of_le' enough
    rfl
  | call o k ih =>
    intro s
    obtain ⟨n, rest⟩ := ih (answer s o).1 (answer s o).2
    refine ⟨n + 1, fun m enough => ?_⟩
    obtain ⟨m, rfl⟩ := Nat.exists_eq_add_of_le' (Nat.le_of_add_left_le enough)
    rw [List.replicate_succ]
    show exec act (k (act s o q).1) (List.replicate m q) (act s o q).2 = _
    rw [done]
    exact rest m (Nat.le_of_succ_le_succ enough)

/-- Where the outcomes make no difference, a run that returns is `run`. -/
theorem run_of_exec {answer : S → (o : Op) → Ans o × S} (fixed : ∀ s o q, act s o q = answer s o) :
    ∀ (p : Prog Op Ans α) (outcomes : List Q) {s s' : S} {a : α},
      exec act p outcomes s = (s', some a) → run answer p s = (a, s')
  | .ret _, [], _, _, _, ran => by cases ran
  | .ret _, _ :: _, _, _, _, ran => by
    cases ran
    rfl
  | .call _ _, [], _, _, _, ran => by cases ran
  | .call o k, q :: outcomes, s, s', a, ran => by
    have later : exec act (k (act s o q).1) outcomes (act s o q).2 = (s', some a) := ran
    rw [fixed] at later
    exact run_of_exec fixed (k (answer s o).1) outcomes later

end Alone

/-! ### Running among others -/

section Among

variable {S Q : Type} (act : S → (o : Op) → Q → Ans o × S)

/-- As `Ensures`, while others change the state between any two operations; `env` bounds what they
do, given the operation this program is about to call. -/
def Resists (env : Option Op → S → S → Prop) (always : S → Prop) :
    Prog Op Ans α → (S → α → Prop) → S → Prop
  | .ret a, post, s => ∀ s', env none s s' → always s' ∧ post s' a
  | .call o k, post, s => ∀ s', env (some o) s s' → always s' ∧
      ∀ q, Resists env always (k (act s' o q).1) post (act s' o q).2

variable {act} {env : Option Op → S → S → Prop} {always : S → Prop}

/-- The others' steps keep the assertion. -/
theorem Resists.env_keeps (trans : ∀ o s s' s'', env o s s' → env o s' s'' → env o s s'')
    {p : Prog Op Ans α} {post : S → α → Prop} {s s' : S} (resists : Resists act env always p post s)
    (moved : env p.next s s') : Resists act env always p post s' := by
  cases p with
  | ret a => exact fun s'' again => resists s'' (trans _ _ _ _ moved again)
  | call o k => exact fun s'' again => resists s'' (trans _ _ _ _ moved again)

theorem Resists.here (refl : ∀ o s, env o s s) {p : Prog Op Ans α} {post : S → α → Prop} {s : S}
    (resists : Resists act env always p post s) : always s := by
  cases p with
  | ret a => exact (resists s (refl _ s)).1
  | call o k => exact (resists s (refl _ s)).1

theorem resists_ret (stable : ∀ o s s', always s → env o s s' → always s') {a : α}
    {post : S → α → Prop} {s : S} (here : always s) (returns : ∀ s', env none s s' → post s' a) :
    Resists act env always (.ret a) post s :=
  fun s' moved => ⟨stable _ _ _ here moved, returns s' moved⟩

theorem resists_call (stable : ∀ o s s', always s → env o s s' → always s') {o : Op}
    {k : Ans o → Prog Op Ans α} {post : S → α → Prop} {s : S} (here : always s)
    (next : ∀ s', env (some o) s s' → always s' → ∀ q,
      Resists act env always (k (act s' o q).1) post (act s' o q).2) :
    Resists act env always (.call o k) post s :=
  fun s' moved => ⟨stable _ _ _ here moved, next s' moved (stable _ _ _ here moved)⟩

/-- The program's own step keeps the assertion. -/
theorem Resists.step (refl : ∀ o s, env o s s) {o : Op} {k : Ans o → Prog Op Ans α}
    {post : S → α → Prop} {s : S} (resists : Resists act env always (.call o k) post s) (q : Q) :
    Resists act env always (k (act s o q).1) post (act s o q).2 :=
  (resists s (refl _ s)).2 q

end Among

/-! ### What a program may call -/

/-- As long as the answers are among `A`, only operations of `P` are called. -/
def Only (P : Op → Prop) (A : (o : Op) → Ans o → Prop) : Prog Op Ans α → Prop
  | .ret _ => True
  | .call o k => P o ∧ ∀ answer, A o answer → Only P A (k answer)

variable {P : Op → Prop} {A : (o : Op) → Ans o → Prop}

theorem only_bind {p : Prog Op Ans α} {f : α → Prog Op Ans β} (first : p.Only P A)
    (rest : ∀ a, (f a).Only P A) : (p >>= f).Only P A := by
  induction p with
  | ret a => exact rest a
  | call o k ih => exact ⟨first.1, fun answer among => ih answer (first.2 answer among)⟩

theorem only_foldEach {f : γ → β → Prog Op Ans (Except ε γ)} (body : ∀ acc b, (f acc b).Only P A) :
    ∀ (items : List β) (acc : γ), (foldEach f items acc).Only P A
  | [], _ => trivial
  | b :: items, acc => by
    refine only_bind (body acc b) fun r => ?_
    cases r with
    | error e => trivial
    | ok acc => exact only_foldEach body items acc

section Related

variable {S Q : Type} {act : S → (o : Op) → Q → Ans o × S}

/-- **Two runs under the same outcomes**: if the operations of `P` answer alike from related states
and keep them related, so does every program that calls no other. -/
theorem exec_related {R : S → S → Prop} (step : ∀ o, P o → ∀ s s' q, R s s' →
      (act s o q).1 = (act s' o q).1 ∧ R (act s o q).2 (act s' o q).2)
    {p : Prog Op Ans α} (only : p.Only P fun _ _ => True) :
    ∀ (outcomes : List Q) {s s' : S}, R s s' → (exec act p outcomes s).2 = (exec act p outcomes s').2 ∧
      R (exec act p outcomes s).1 (exec act p outcomes s').1 := by
  induction p with
  | ret a =>
    intro outcomes s s' related
    cases outcomes with
    | nil => exact ⟨rfl, related⟩
    | cons q rest => exact ⟨rfl, related⟩
  | call o k ih =>
    intro outcomes s s' related
    cases outcomes with
    | nil => exact ⟨rfl, related⟩
    | cons q rest =>
      obtain ⟨answers, after⟩ := step o only.1 s s' q related
      have later := ih _ (only.2 (act s o q).1 trivial) rest after
      show (exec act (k (act s o q).1) rest _).2 = (exec act (k (act s' o q).1) rest _).2 ∧
        R (exec act (k (act s o q).1) rest _).1 (exec act (k (act s' o q).1) rest _).1
      rw [← answers]
      exact later

/-- What no operation of `P` changes, a run does not change. -/
theorem exec_keeps (view : S → β) (step : ∀ o, P o → ∀ s q, view (act s o q).2 = view s)
    {p : Prog Op Ans α} (only : p.Only P fun _ _ => True) :
    ∀ (outcomes : List Q) (s : S), view (exec act p outcomes s).1 = view s := by
  induction p with
  | ret a =>
    intro outcomes s
    cases outcomes <;> rfl
  | call o k ih =>
    intro outcomes s
    cases outcomes with
    | nil => rfl
    | cons q rest => exact (ih _ (only.2 _ trivial) rest _).trans (step o only.1 s q)

end Related

/-- A program whose result is renamed runs as before. -/
theorem exec_map {S Q : Type} {act : S → (o : Op) → Q → Ans o × S} (f : α → β) :
    ∀ (p : Prog Op Ans α) (outcomes : List Q) (s : S),
      exec act (p >>= fun a => Prog.ret (f a)) outcomes s =
        ((exec act p outcomes s).1, (exec act p outcomes s).2.map f)
  | .ret _, [], _ => rfl
  | .ret _, _ :: _, _ => rfl
  | .call _ _, [], _ => rfl
  | .call o k, q :: outcomes, s => exec_map f (k (act s o q).1) outcomes (act s o q).2

/-- A device that is a part of a larger state runs as it does alone. -/
theorem exec_embed {S T Q : Type} {act : S → (o : Op) → Q → Ans o × S}
    {act' : T → (o : Op) → Q → Ans o × T} (embed : S → T)
    (same : ∀ s o q, act' (embed s) o q = ((act s o q).1, embed (act s o q).2)) :
    ∀ (p : Prog Op Ans α) (outcomes : List Q) (s : S),
      exec act' p outcomes (embed s) =
        (embed (exec act p outcomes s).1, (exec act p outcomes s).2)
  | .ret _, [], _ => rfl
  | .ret _, _ :: _, _ => rfl
  | .call _ _, [], _ => rfl
  | .call o k, q :: outcomes, s => by
    show exec act' (k (act' (embed s) o q).1) outcomes (act' (embed s) o q).2 = _
    rw [same]
    exact exec_embed embed same (k (act s o q).1) outcomes (act s o q).2

end Prog

end DraDriver.Base

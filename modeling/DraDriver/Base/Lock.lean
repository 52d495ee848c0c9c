/-
**Calls under one lock.**

Callers wait for the lock in any order, run their program one operation a move, release the lock and
return; between its release and its return a call may be overtaken by others. A crash takes the
process with all its callers. `Locked.step` is one move of one caller, `AtomicStep` is a whole call.

* **`run_atomic`** — every run of the moves is a run of whole calls: those that have released the lock,
  in the order of their releases, with the same results and the same state. A call that is still
  running has not happened yet; one that a crash cuts short has happened up to there. The run of whole
  calls only grows, so that a call that has returned comes before every call made later.
* `returned_subperm` — every call that has returned is among those, with the result it returned.
-/

import DraDriver.Base.Effect
import DraDriver.Base.Transition

namespace DraDriver.Base

universe w

/-- What the callers of one lock do: `body` is a call's program, from the state it finds when it
gets the lock; `finish` is what it changes beside its operations, and `fall` what a crash does. -/
structure Service (Op : Type) (Ans : Op → Type) (S : Type) (C : Type w) (R : Type) where
  ready : C → S → Bool
  body : C → S → Prog Op Ans R
  finish : C → R → S → S
  fall : S → S

/-- What is seen of the calls, with the outcomes of their operations. -/
inductive Seen (Q : Type) (C : Type w) (R : Type)
  | released (call : C) (outcomes : List Q) (result : R)
  | crashed (inside : Option (C × List Q))

/-- A call that has released the lock, with its result. -/
def Seen.done {Q : Type} {C : Type w} {R : Type} : Seen Q C R → Option (C × R)
  | .released call _ result => some (call, result)
  | .crashed _ => none

/-- The caller that holds the lock: the state it found, the outcomes so far and what is left. -/
structure Holder (Op : Type) (Ans : Op → Type) (S Q : Type) (C : Type w) (R : Type) where
  call : C
  found : S
  outcomes : List Q
  rest : Prog Op Ans R

/-- The shared state with its callers. `leaving` are those that have released the lock and not yet
returned, `returned` those that have, in that order; `log` is what has been seen under the lock. -/
structure Locked (Op : Type) (Ans : Op → Type) (S Q : Type) (C : Type w) (R : Type) where
  shared : S
  waiting : List C
  holder : Option (Holder Op Ans S Q C R)
  leaving : List (C × R)
  returned : List (C × R)
  log : List (Seen Q C R)

/-- A move of one caller; the lock goes to whichever waits at `place`, and of those that have released
it whichever is at `place` returns. -/
inductive LockMove (Q : Type) (C : Type w)
  | arrive (call : C)
  | enter (place : ℕ)
  | op (q : Q)
  | unlock (q : Q)
  | leave (place : ℕ)
  | crash

variable {Op : Type} {Ans : Op → Type} {S Q : Type} {C : Type w} {R : Type}

/-- A free lock nobody waits for. -/
def Locked.start (s : S) : Locked Op Ans S Q C R := ⟨s, [], none, [], [], []⟩

/-- The calls that have released the lock, in that order, with their results. -/
def Locked.released (l : Locked Op Ans S Q C R) : List (C × R) := l.log.filterMap Seen.done

/-- The state the calls that are over have left. -/
def Locked.committed (l : Locked Op Ans S Q C R) : S := (l.holder.map Holder.found).getD l.shared

section Steps

variable (act : S → (o : Op) → Q → Ans o × S) (service : Service Op Ans S C R)

/-- One move of one caller. -/
def Locked.step (l : Locked Op Ans S Q C R) : LockMove Q C → Option (Locked Op Ans S Q C R)
  | .arrive call => some { l with waiting := l.waiting ++ [call] }
  | .enter place =>
    match l.holder, l.waiting[place]? with
    | none, some call =>
      if service.ready call l.shared then some { l with
        waiting := l.waiting.eraseIdx place
        holder := some ⟨call, l.shared, [], service.body call l.shared⟩ }
      else none
    | _, _ => none
  | .op q =>
    match l.holder with
    | some ⟨call, found, outcomes, .call o k⟩ => some { l with
        shared := (act l.shared o q).2
        holder := some ⟨call, found, outcomes ++ [q], k (act l.shared o q).1⟩ }
    | _ => none
  | .unlock q =>
    match l.holder with
    | some ⟨call, _, outcomes, .ret result⟩ => some
        { shared := service.finish call result l.shared
          waiting := l.waiting
          holder := none
          leaving := l.leaving ++ [(call, result)]
          returned := l.returned
          log := l.log ++ [.released call (outcomes ++ [q]) result] }
    | _ => none
  | .leave place =>
    match l.leaving[place]? with
    | some done => some { l with
        leaving := l.leaving.eraseIdx place
        returned := l.returned ++ [done] }
    | none => none
  | .crash => some
      { shared := service.fall l.shared
        waiting := []
        holder := none
        leaving := []
        returned := l.returned
        log := l.log ++ [.crashed (l.holder.map fun holder => (holder.call, holder.outcomes))] }

/-- The moves as a step relation. -/
def Locked.Step (l : Locked Op Ans S Q C R) (move : LockMove Q C) (l' : Locked Op Ans S Q C R) : Prop :=
  l.step act service move = some l'

/-- What each move does, and when it can be made. -/
inductive Locked.Moves (l : Locked Op Ans S Q C R) :
    LockMove Q C → Locked Op Ans S Q C R → Prop
  | arrive (call : C) : Moves l (.arrive call) { l with waiting := l.waiting ++ [call] }
  | enter {place : ℕ} {call : C} (free : l.holder = none) (waits : l.waiting[place]? = some call)
      (ready : service.ready call l.shared = true) :
    Moves l (.enter place) { l with
      waiting := l.waiting.eraseIdx place
      holder := some ⟨call, l.shared, [], service.body call l.shared⟩ }
  | op (q : Q) {call : C} {found : S} {outcomes : List Q} {o : Op} {k : Ans o → Prog Op Ans R}
      (held : l.holder = some ⟨call, found, outcomes, .call o k⟩) :
    Moves l (.op q) { l with
      shared := (act l.shared o q).2
      holder := some ⟨call, found, outcomes ++ [q], k (act l.shared o q).1⟩ }
  | unlock (q : Q) {call : C} {found : S} {outcomes : List Q} {result : R}
      (held : l.holder = some ⟨call, found, outcomes, .ret result⟩) :
    Moves l (.unlock q)
      { shared := service.finish call result l.shared
        waiting := l.waiting
        holder := none
        leaving := l.leaving ++ [(call, result)]
        returned := l.returned
        log := l.log ++ [.released call (outcomes ++ [q]) result] }
  | leave {place : ℕ} {done : C × R} (here : l.leaving[place]? = some done) :
    Moves l (.leave place) { l with
      leaving := l.leaving.eraseIdx place
      returned := l.returned ++ [done] }
  | crash : Moves l .crash
      { shared := service.fall l.shared
        waiting := []
        holder := none
        leaving := []
        returned := l.returned
        log := l.log ++ [.crashed (l.holder.map fun holder => (holder.call, holder.outcomes))] }

/-- A whole call in one step, or a crash. -/
inductive AtomicStep : S → Seen Q C R → S → Prop
  | released {call : C} {outcomes : List Q} {result : R} {s s' : S}
      (ready : service.ready call s = true)
      (ran : (service.body call s).exec act outcomes s = (s', some result)) :
    AtomicStep s (.released call outcomes result) (service.finish call result s')
  | crashedInside {call : C} {outcomes : List Q} {s s' : S} (ready : service.ready call s = true)
      (ran : (service.body call s).exec act outcomes s = (s', none)) :
    AtomicStep s (.crashed (some (call, outcomes))) (service.fall s')
  | crashed {s : S} : AtomicStep s (.crashed none) (service.fall s)

/-- What is left of a program after its first outcomes. -/
def Prog.Leaves (p : Prog Op Ans R) (outcomes : List Q) (s : S) (rest : Prog Op Ans R) (s' : S) : Prop :=
  ∀ more, p.exec act (outcomes ++ more) s = rest.exec act more s'

/-- The holder is on its way from the state it found. -/
def Locked.Inside (l : Locked Op Ans S Q C R) : Prop :=
  ∀ holder, l.holder = some holder → service.ready holder.call holder.found = true ∧
    Prog.Leaves act (service.body holder.call holder.found) holder.outcomes holder.found holder.rest
      l.shared

/-- The calls of the log so far are followed by more, which lead to where the lock is now. -/
def Locked.Extends (l l' : Locked Op Ans S Q C R) : Prop :=
  ∃ seen, l'.log = l.log ++ seen ∧ Run (AtomicStep act service) l.committed seen l'.committed

variable {act service} {s : S} {l l' : Locked Op Ans S Q C R} {move : LockMove Q C}

namespace Locked

/-- **Every move is one of these.** -/
theorem moves (step : l.Step act service move l') : l.Moves act service move l' := by
  unfold Locked.Step Locked.step at step
  cases move with
  | arrive call =>
    obtain rfl := Option.some.inj step
    exact .arrive call
  | enter place =>
    simp only at step
    split at step
    next call free waits =>
      obtain ⟨ready, step⟩ := Option.ite_none_right_eq_some.mp step
      obtain rfl := Option.some.inj step
      exact .enter free waits ready
    next => cases step
  | op q =>
    simp only at step
    split at step
    next held =>
      obtain rfl := Option.some.inj step
      exact .op q held
    next => cases step
  | unlock q =>
    simp only at step
    split at step
    next held =>
      obtain rfl := Option.some.inj step
      exact .unlock q held
    next => cases step
  | leave place =>
    simp only at step
    split at step
    next here =>
      obtain rfl := Option.some.inj step
      exact .leave here
    next => cases step
  | crash =>
    obtain rfl := Option.some.inj step
    exact .crash

/-- The state that whole calls lead to is the one the lock's holder found, or the shared one. -/
theorem committed_holder {holder : Holder Op Ans S Q C R} (held : l.holder = some holder) :
    l.committed = holder.found := by
  unfold committed
  rw [held]
  rfl

theorem committed_free (free : l.holder = none) : l.committed = l.shared := by
  unfold committed
  rw [free]
  rfl

theorem inside_start : (start s : Locked Op Ans S Q C R).Inside act service :=
  fun holder held => by cases held

/-- A move that is not in the log keeps the state that whole calls lead to. -/
theorem extends_unseen (same : l'.log = l.log) (committed : l'.committed = l.committed) :
    l.Extends act service l' := by
  unfold Extends
  rw [same, committed]
  exact ⟨[], (List.append_nil _).symm, .nil _⟩

/-- **One move is a whole call, or none**: the call appears when it releases the lock, as run from the
state it found. -/
theorem step_atomic (inside : l.Inside act service) (step : l.Step act service move l') :
    l'.Inside act service ∧ l.Extends act service l' := by
  cases moves step with
  | arrive call => exact ⟨inside, extends_unseen rfl rfl⟩
  | leave here => exact ⟨inside, extends_unseen rfl rfl⟩
  | enter free waits ready =>
    refine ⟨fun holder held => ?_, extends_unseen rfl (committed_free free).symm⟩
    obtain rfl := Option.some.inj held
    exact ⟨ready, fun more => rfl⟩
  | op q held =>
    obtain ⟨ready, leaves⟩ := inside _ held
    refine ⟨fun holder held' => ?_, extends_unseen rfl (committed_holder held).symm⟩
    obtain rfl := Option.some.inj held'
    refine ⟨ready, fun more => ?_⟩
    rw [List.append_assoc]
    exact leaves (q :: more)
  | unlock q held =>
    obtain ⟨ready, leaves⟩ := inside _ held
    refine ⟨fun holder held' => (Option.some_ne_none holder held'.symm).elim, _, rfl, ?_⟩
    rw [committed_holder held]
    exact .snoc (.nil _) (.released ready (leaves [q]))
  | crash =>
    refine ⟨fun holder held' => (Option.some_ne_none holder held'.symm).elim, _, rfl,
      .snoc (.nil _) ?_⟩
    cases held : l.holder with
    | none =>
      rw [committed_free held]
      exact .crashed
    | some holder =>
      obtain ⟨ready, leaves⟩ := inside holder held
      rw [committed_holder held]
      have cut : (service.body holder.call holder.found).exec act holder.outcomes holder.found =
          (l.shared, none) := by
        have ran := leaves []
        rw [List.append_nil] at ran
        rw [ran]
        cases holder.rest <;> rfl
      exact .crashedInside ready cut

/-- One move returns at most what was released. -/
theorem step_subperm (among : (l.returned ++ l.leaving).Subperm l.released)
    (step : l.Step act service move l') : (l'.returned ++ l'.leaving).Subperm l'.released := by
  cases moves step with
  | arrive | enter | op => exact among
  | @unlock q call found outcomes result held =>
    have more : (l.log ++ [Seen.released call (outcomes ++ [q]) result]).filterMap Seen.done =
        l.released ++ [(call, result)] := List.filterMap_append
    unfold released
    rw [more, ← List.append_assoc]
    exact (List.subperm_append_right _).mpr among
  | @leave place done here =>
    obtain ⟨bound, rfl⟩ := List.getElem?_eq_some_iff.mp here
    have same : (l.returned ++ [l.leaving[place]] ++ l.leaving.eraseIdx place).Perm
        (l.returned ++ l.leaving) := by
      rw [List.append_assoc]
      exact (List.getElem_cons_eraseIdx_perm bound).append_left _
    exact same.subperm.trans among
  | crash =>
    have more : (l.log ++ [Seen.crashed (l.holder.map fun holder : Holder Op Ans S Q C R =>
        (holder.call, holder.outcomes))]).filterMap Seen.done = l.released := by
      rw [List.filterMap_append]
      exact List.append_nil _
    unfold released
    rw [more, List.append_nil]
    exact (List.sublist_append_left _ _).subperm.trans among

end Locked

/-- **Calls under a lock are atomic**: whatever the callers do from here, the whole calls so far are
followed by more of them. -/
theorem run_atomic {moves : List (LockMove Q C)} (inside : l.Inside act service)
    (run : Run (Locked.Step act service) l moves l') :
    l'.Inside act service ∧ l.Extends act service l' := by
  induction run with
  | nil => exact ⟨inside, Locked.extends_unseen rfl rfl⟩
  | snoc _ last ih =>
    obtain ⟨inside', before, logged, calls⟩ := ih
    obtain ⟨inside'', after, logged', calls'⟩ := Locked.step_atomic inside' last
    refine ⟨inside'', before ++ after, ?_, calls.append calls'⟩
    rw [logged', logged, List.append_assoc]

/-- **Every call that has returned is among those that released the lock**, with its result. -/
theorem returned_subperm {moves : List (LockMove Q C)}
    (run : Run (Locked.Step act service) (Locked.start s) moves l) :
    l.returned.Subperm l.released := by
  have among : (l.returned ++ l.leaving).Subperm l.released :=
    run.invariant (fun _ _ _ among step => Locked.step_subperm among step) (List.Subperm.refl _)
  exact (List.sublist_append_left _ _).subperm.trans among

end Steps

end DraDriver.Base

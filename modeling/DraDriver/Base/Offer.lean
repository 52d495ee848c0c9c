/-
**Grants that outlive the pool they were taken from.**

A counter scheduler looks at one pool at a time. A grant is a name and the resources that have been
handed out under it; when the pool is replaced, all the scheduler sees of the grants are the devices of
the new pool that have their names.

* `Offer.Guards` — the offer has, under the grant's own name, every resource of the grant that it has
  at all.
* `Offer.expose` — a new offer hands out, to a grant it has a device for, what that device has.
* `Offer.Serves.step` — while every grant is guarded, no resource is granted twice.
* **`Offer.exclusive_iff`** — and only then: an offer with an unguarded grant can be served so that one
  of its resources is granted again.
-/

import DraDriver.Base.Exclusion

namespace DraDriver.Base

variable {D C N X : Type}

/-- What is offered at one time: a pool, and of each device its name and its resources. -/
structure Offer (D C N X : Type) where
  pool : CounterPool D C
  name : D → N
  parts : D → List X

/-- What was allocated under a name, and every resource that has come under it. -/
structure Grant (N X : Type) where
  name : N
  parts : List X
  deriving DecidableEq, Repr

/-- No resource is in two grants. -/
def Grant.Apart (grants : List (Grant N X)) : Prop :=
  grants.Pairwise fun grant other => List.Disjoint grant.parts other.parts

namespace Offer

/-- One step of the scheduler on what is offered. -/
inductive Action (D N : Type)
  | allocate (d : D)
  | release (name : N)
  deriving DecidableEq, Repr

/-- The offer has the resource. -/
def Has (offer : Offer D C N X) (x : X) : Prop := ∃ d ∈ offer.pool.listed, x ∈ offer.parts d

/-- **The grant still guards its resources.** -/
def Guards (offer : Offer D C N X) (grant : Grant N X) : Prop :=
  ∀ x ∈ grant.parts, offer.Has x → ∃ d ∈ offer.pool.listed, offer.name d = grant.name ∧ x ∈ offer.parts d

instance [DecidableEq X] (offer : Offer D C N X) (x : X) : Decidable (offer.Has x) :=
  inferInstanceAs (Decidable (∃ d ∈ offer.pool.listed, x ∈ offer.parts d))

instance [DecidableEq N] [DecidableEq X] (offer : Offer D C N X) (grant : Grant N X) :
    Decidable (offer.Guards grant) :=
  inferInstanceAs (Decidable (∀ x ∈ grant.parts, offer.Has x →
    ∃ d ∈ offer.pool.listed, offer.name d = grant.name ∧ x ∈ offer.parts d))

/-- Counters say which devices share a resource, names which device is meant, and every resource is
offered alone too. -/
structure Sound (offer : Offer D C N X) : Prop where
  named : ∀ d ∈ offer.pool.listed, ∀ d' ∈ offer.pool.listed, offer.name d = offer.name d' → d = d'
  scheme : Scheme offer.pool fun d x => x ∈ offer.parts d
  alone : ∀ x, offer.Has x → ∃ d ∈ offer.pool.listed, offer.parts d = [x]

section Serve

variable [DecidableEq N]

/-- The devices the scheduler takes for granted. -/
def held (offer : Offer D C N X) (grants : List (Grant N X)) : List D :=
  offer.pool.listed.filter fun d => offer.name d ∈ grants.map Grant.name

/-- The grant once the offer stands. -/
def expose [DecidableEq X] (offer : Offer D C N X) (grant : Grant N X) : Grant N X :=
  let now := (offer.pool.listed.filter fun d => offer.name d = grant.name).flatMap offer.parts
  { grant with parts := grant.parts ++ now.filter (· ∉ grant.parts) }

/-- One step of the scheduler while the offer stands. -/
inductive Serve (offer : Offer D C N X) : List (Grant N X) → Action D N → List (Grant N X) → Prop
  | allocate (grants : List (Grant N X)) (d : D) (listed : d ∈ offer.pool.listed)
      (admits : offer.pool.Admits (offer.held grants) d) :
      Serve offer grants (.allocate d) (grants ++ [⟨offer.name d, offer.parts d⟩])
  | release (grants : List (Grant N X)) (name : N) :
      Serve offer grants (.release name) (grants.filter fun grant => grant.name ≠ name)

variable {offer : Offer D C N X} {grants : List (Grant N X)}

theorem mem_held {d : D} : d ∈ offer.held grants ↔
    d ∈ offer.pool.listed ∧ ∃ grant ∈ grants, grant.name = offer.name d := by
  unfold held
  rw [List.mem_filter, decide_eq_true_eq, List.mem_map]

theorem mem_expose [DecidableEq X] {grant : Grant N X} {x : X} : x ∈ (offer.expose grant).parts ↔
    x ∈ grant.parts ∨ ∃ d ∈ offer.pool.listed, offer.name d = grant.name ∧ x ∈ offer.parts d := by
  unfold expose
  rw [List.mem_append, List.mem_filter, List.mem_flatMap]
  simp only [List.mem_filter, decide_eq_true_eq, and_assoc]
  tauto

/-- What the offer adds to a grant is under the grant's name. -/
theorem guards_expose [DecidableEq X] {grant : Grant N X} :
    offer.Guards (offer.expose grant) ↔ offer.Guards grant := by
  constructor
  · intro guarded x inside
    exact guarded x (mem_expose.mpr (Or.inl inside))
  · intro guarded x inside has
    rcases mem_expose.mp inside with old | now
    · exact guarded x old has
    · exact now

/-- **A device is refused exactly when a held one has a resource of it.** -/
theorem Sound.admits_iff (sound : offer.Sound) {d : D} (listed : d ∈ offer.pool.listed) :
    offer.pool.Admits (offer.held grants) d ↔
      ∀ d' ∈ offer.held grants, List.Disjoint (offer.parts d) (offer.parts d') :=
  sound.scheme.admits_iff (fun _ held => (mem_held.mp held).1) listed

/-- Every name is granted once, and a grant has all that its device has now. -/
structure Tracks (offer : Offer D C N X) (grants : List (Grant N X)) : Prop where
  once : (grants.map Grant.name).Nodup
  shown : ∀ grant ∈ grants, ∀ d ∈ offer.pool.listed, offer.name d = grant.name →
    offer.parts d ⊆ grant.parts

theorem Tracks.step (sound : offer.Sound) {grants' : List (Grant N X)} {action : Action D N}
    (tracks : offer.Tracks grants) (step : offer.Serve grants action grants') : offer.Tracks grants' := by
  cases step with
  | allocate d listed admits =>
    refine ⟨?_, ?_⟩
    · rw [List.map_append]
      refine List.nodup_append.mpr ⟨tracks.once, List.nodup_singleton _, ?_⟩
      rintro name old _ new rfl
      cases List.mem_singleton.mp new
      obtain ⟨grant, member, named⟩ := List.mem_map.mp old
      exact admits.1 (mem_held.mpr ⟨listed, grant, member, named⟩)
    · intro grant member
      rcases List.mem_append.mp member with old | new
      · exact tracks.shown grant old
      · cases List.mem_singleton.mp new
        intro d' listed' named
        rw [sound.named d' listed' d listed named]
        exact List.Subset.refl _
  | release name =>
    exact ⟨tracks.once.sublist (List.filter_sublist.map _),
      fun grant member => tracks.shown grant (List.mem_of_mem_filter member)⟩

theorem Tracks.expose [DecidableEq X] {next : Offer D C N X} (tracks : offer.Tracks grants) :
    next.Tracks (grants.map next.expose) where
  once := by
    rw [List.map_map]
    exact tracks.once
  shown grant member d listed named x inside := by
    obtain ⟨old, -, rfl⟩ := List.mem_map.mp member
    exact mem_expose.mpr (Or.inr ⟨d, listed, named, inside⟩)

/-- What is kept while the offer stands. -/
structure Serves (offer : Offer D C N X) (grants : List (Grant N X)) : Prop where
  apart : Grant.Apart grants
  guarded : ∀ grant ∈ grants, offer.Guards grant

/-- One step keeps the grants apart and guarded. -/
theorem Serves.step (sound : offer.Sound) {grants' : List (Grant N X)} {action : Action D N}
    (serves : offer.Serves grants) (step : offer.Serve grants action grants') : offer.Serves grants' := by
  cases step with
  | allocate d listed admits =>
    have free := (sound.admits_iff listed).mp admits
    refine ⟨List.pairwise_append.mpr ⟨serves.apart, List.pairwise_singleton _ _, ?_⟩, ?_⟩
    · intro grant member other new
      cases List.mem_singleton.mp new
      intro x granted wanted
      -- the grant's own device is held and has the resource
      obtain ⟨d', listed', named, here⟩ := serves.guarded grant member x granted ⟨d, listed, wanted⟩
      exact free d' (mem_held.mpr ⟨listed', grant, member, named.symm⟩) wanted here
    · intro grant member
      rcases List.mem_append.mp member with old | new
      · exact serves.guarded grant old
      · cases List.mem_singleton.mp new
        exact fun x inside _ => ⟨d, listed, rfl, inside⟩
  | release name =>
    exact ⟨serves.apart.sublist List.filter_sublist,
      fun grant member => serves.guarded grant (List.mem_of_mem_filter member)⟩

theorem run_release (offer : Offer D C N X) (grants : List (Grant N X)) (names : List N) :
    Run offer.Serve grants (names.map .release) (grants.filter fun grant => grant.name ∉ names) := by
  induction names using List.reverseRecOn with
  | nil =>
    rw [List.filter_eq_self.mpr (by simp)]
    exact .nil grants
  | append_singleton names name ih =>
    have last : offer.Serve (grants.filter fun grant => grant.name ∉ names) (.release name) _ :=
      .release _ name
    have both : (grants.filter fun grant => grant.name ∉ names).filter (fun grant => grant.name ≠ name) =
        grants.filter fun grant => grant.name ∉ names ++ [name] := by
      rw [List.filter_filter]
      refine List.filter_congr fun grant _ => ?_
      simp [and_comm]
    rw [both] at last
    rw [List.map_append]
    exact ih.snoc last

/-- A resource its grant no longer guards is granted again once the other grants are released. -/
theorem Sound.granted_again (sound : offer.Sound) {grant : Grant N X} (member : grant ∈ grants)
    (unguarded : ¬ offer.Guards grant) :
    ∃ actions grants', Run offer.Serve grants actions grants' ∧ ¬ Grant.Apart grants' := by
  unfold Guards at unguarded
  push Not at unguarded
  obtain ⟨x, granted, has, lost⟩ := unguarded
  obtain ⟨d, listed, only⟩ := sound.alone x has
  -- keep the grants of this name only
  let others := (grants.map Grant.name).filter (· ≠ grant.name)
  let kept := grants.filter fun grant => grant.name ∉ others
  have here : grant ∈ kept := List.mem_filter.mpr ⟨member, by simp [others]⟩
  have same : ∀ other ∈ kept, other.name = grant.name := by
    intro other inside
    obtain ⟨known, notOther⟩ := List.mem_filter.mp inside
    by_contra different
    refine of_decide_eq_true notOther (List.mem_filter.mpr ⟨List.mem_map_of_mem known, ?_⟩)
    exact decide_eq_true different
  have admits : offer.pool.Admits (offer.held kept) d := by
    refine (sound.admits_iff listed).mpr fun d' held => ?_
    obtain ⟨listed', other, inside, named⟩ := mem_held.mp held
    rw [only]
    exact List.singleton_disjoint.mpr (lost d' listed' (named.symm.trans (same other inside)))
  refine ⟨_, _, (run_release offer grants others).snoc (.allocate kept d listed admits), fun apart => ?_⟩
  have disjoint := (List.pairwise_append.mp apart).2.2 grant here _ (List.mem_singleton_self _)
  exact disjoint granted (only ▸ List.mem_singleton_self x)

/-- **The grants stay apart, however the offer is served, exactly when each is guarded.** -/
theorem exclusive_iff (sound : offer.Sound) (apart : Grant.Apart grants) :
    (∀ actions grants', Run offer.Serve grants actions grants' → Grant.Apart grants') ↔
      ∀ grant ∈ grants, offer.Guards grant := by
  constructor
  · intro kept grant member
    by_contra unguarded
    obtain ⟨actions, grants', run, shared⟩ := sound.granted_again member unguarded
    exact shared (kept actions grants' run)
  · intro guarded actions grants' run
    have serves : offer.Serves grants' :=
      run.invariant (fun _ _ _ serves step => serves.step sound step) ⟨apart, guarded⟩
    exact serves.apart

end Serve

end Offer

end DraDriver.Base

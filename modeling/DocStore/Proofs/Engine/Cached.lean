import DocStore.Proofs.Engine.Durable

/-!
This module contains what a mutation does before it waits for the slot of a collection that is in
use: it draws identifiers, and nothing else of the engine matters to it or is changed by it.
-/

namespace DocStore

open Work

namespace Request

def target? : Request → Option Value
  | .call c => some c.collection
  | .flush name => some name
  | _ => none

def reads : Request → Bool
  | .call c => c.reads
  | _ => false

structure Mutates (q : Request) (n : String) : Prop where
  target : q.target? = some (.text n)
  reads : q.reads = false

end Request

namespace Engine

def OnlyDraws {α : Type} (n : String) (i : Nat) (x : Action α) : Prop :=
  ∃ f : Drawing α, ∀ e, e.cached.lookup n = some i → x e = ofDrawing f e

section

variable {α β : Type} {n : String} {i : Nat}

theorem onlyDraws_pure (a : α) : OnlyDraws n i (pure a) := ⟨pure a, fun _ _ => rfl⟩

theorem onlyDraws_throw (err : Error) : OnlyDraws n i (throw err : Action α) :=
  ⟨throw err, fun _ _ => rfl⟩

theorem onlyDraws_ofDrawing (f : Drawing α) : OnlyDraws n i (ofDrawing f) := ⟨f, fun _ _ => rfl⟩

theorem onlyDraws_lift (r : Except Error α) : OnlyDraws n i (liftM r : Action α) := by
  cases r with
  | ok a => exact onlyDraws_pure a
  | error err => exact onlyDraws_throw err

theorem onlyDraws_bind {x : Action α} {f : α → Action β} (hx : OnlyDraws n i x)
    (hf : ∀ a, (∃ e e', x e = (.ok a, e')) → OnlyDraws n i (f a)) : OnlyDraws n i (x >>= f) := by
  obtain ⟨y, hy⟩ := hx
  have hnext : ∀ a, ∃ g : Drawing β, (∃ e e', x e = (.ok a, e')) → ∀ e, e.cached.lookup n = some i →
      f a e = ofDrawing g e := by
    intro a
    by_cases ha : ∃ e e', x e = (.ok a, e')
    . obtain ⟨g, hg⟩ := hf a ha
      exact ⟨g, fun _ => hg⟩
    . exact ⟨throw (.fault .noOperation), fun h => absurd h ha⟩
  choose g hg using hnext
  refine ⟨y >>= g, ?_⟩
  intro e he
  have hxe := hy e he
  unfold ofDrawing at hxe ⊢
  rcases hr : y e.ids with ⟨r, ids⟩
  rw [hr] at hxe
  cases r with
  | error err => rw [bind_error hxe, bind_error hr]
  | ok a =>
    rw [bind_ok hxe, bind_ok hr]
    exact hg a ⟨_, _, hxe⟩ { e with ids } he

theorem onlyDraws_collection : OnlyDraws n i (collection (.text n)) := by
  cases hname : checkName (.text n) with
  | error err =>
    refine ⟨throw err, ?_⟩
    intro e _
    unfold collection
    rw [hname]
    rfl
  | ok name =>
    refine ⟨pure i, ?_⟩
    intro e he
    unfold collection
    rw [hname, lift_ok_bind, get_bind]
    cases checkName_ok hname
    simp only [he]
    rfl

theorem onlyDraws_mutation (m : Mutation) : OnlyDraws n i (mutation (.text n) m) :=
  onlyDraws_bind onlyDraws_collection (fun _ _ => onlyDraws_pure _)

theorem onlyDraws_carryOut {c : Call} {p : Plan} (hreads : c.reads = false) (hp : c.Intends p)
    : OnlyDraws n i (carryOut (.text n) p) := by
  cases hp with
  | reads h =>
    rw [h] at hreads
    cases hreads
  | mutates => exact onlyDraws_mutation _
  | inserts =>
    apply onlyDraws_bind onlyDraws_collection
    intro j _
    apply onlyDraws_bind (onlyDraws_lift _)
    intro given _
    cases given with
    | nil => exact onlyDraws_pure _
    | cons => exact onlyDraws_pure _

theorem beginCall_onlyDraws {c : Call} (hname : c.collection = .text n) (hreads : c.reads = false)
    : OnlyDraws n i (beginCall c) := by
  rw [beginCall_eq, hname]
  apply onlyDraws_bind (onlyDraws_ofDrawing _)
  rintro p ⟨e, e', hp⟩
  obtain ⟨ids, hplan, _⟩ := ofDrawing_eq hp
  exact onlyDraws_carryOut hreads (Call.plan_intends hplan)

theorem begin_onlyDraws {q : Request} (h : q.Mutates n) : OnlyDraws n i (begin q) := by
  have htarget := h.target
  cases q with
  | call c => exact beginCall_onlyDraws (Option.some.inj htarget) h.reads
  | flush name =>
    cases htarget
    exact onlyDraws_mutation _
  | _ => cases htarget

end

theorem IsPlaceOf.eq {e : Engine} {n : String} {i j : Nat} (h : IsPlaceOf e (.text n) j)
    (hi : e.cached.lookup n = some i) : j = i := by
  obtain ⟨n', hname, hj⟩ := h
  cases checkName_ok hname
  rw [hi] at hj
  exact (Option.some.inj hj).symm

theorem begin_inUse {q : Request} {n : String} {i : Nat} {e e₁ : Engine} {r : Except Error Start}
    (h : q.target? = some (.text n)) (hi : e.cached.lookup n = some i) (hb : begin q e = (r, e₁))
    : e₁.cached.lookup n = some i ∧ ∀ j t, r = .ok (.waits j t) → j = i ∧ ∃ m, t = .mutate m := by
  cases begin_hasBegun hb with
  | call hbegun =>
    have hi₁ := hbegun.opens.lookup hi
    refine ⟨hi₁, ?_⟩
    intro j t ht
    obtain ⟨name, m, hasks, ht, hplace⟩ := hbegun.waits j t ht
    cases hasks.collection.symm.trans (Option.some.inj h)
    exact ⟨hplace.eq hi₁, m, ht⟩
  | flush opens waits =>
    have hi₁ := opens.lookup hi
    refine ⟨hi₁, ?_⟩
    intro j t ht
    obtain ⟨ht, hplace⟩ := waits j t ht
    cases h
    exact ⟨hplace.eq hi₁, .flush, ht⟩
  | _ => cases h

end Engine

end DocStore

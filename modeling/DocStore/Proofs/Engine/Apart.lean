import DocStore.Proofs.Engine.Growth

/-!
This module contains what becomes of a collection that is in use no more: no request looks at its
documents, and none changes them.
-/

namespace DocStore

open Work

namespace Engine

structure Apart (i : Nat) (e : Engine) : Prop where
  opened : i < e.opened.length
  unused : ∀ c ∈ e.cached, c.2 ≠ i

def Overlooks {α : Type} (i : Nat) (x : Action α) (P : α → Prop) : Prop :=
  ∀ e, Apart i e → Apart i (x e).2 ∧ (∀ a, (x e).1 = .ok a → P a)
    ∧ ∀ docs, x (withDocuments i docs e) = ((x e).1, withDocuments i docs (x e).2)

section

variable {α β : Type} {i : Nat}

theorem overlooks_pure {P : α → Prop} {a : α} (h : P a) : Overlooks i (pure a) P := by
  intro e he
  refine ⟨he, ?_, fun _ => rfl⟩
  intro b hb
  cases hb
  exact h

theorem overlooks_throw {P : α → Prop} (err : Error) : Overlooks i (throw err : Action α) P :=
  fun _ he => ⟨he, nofun, fun _ => rfl⟩

theorem overlooks_ofDrawing (f : Drawing α) : Overlooks i (ofDrawing f) (fun _ => True) :=
  fun _ he => ⟨⟨he.opened, he.unused⟩, fun _ _ => trivial, fun _ => rfl⟩

theorem overlooks_lift (r : Except Error α) : Overlooks i (liftM r : Action α) (fun _ => True) := by
  cases r with
  | ok a => exact overlooks_pure trivial
  | error err => exact overlooks_throw err

theorem overlooks_bind {x : Action α} {f : α → Action β} {P : α → Prop} {Q : β → Prop}
    (hx : Overlooks i x P)
    (hf : ∀ a, P a → Overlooks i (f a) Q) : Overlooks i (x >>= f) Q := by
  intro e he
  obtain ⟨hapart, hvalue, hsame⟩ := hx e he
  rcases hr : x e with ⟨r, e₁⟩
  rw [hr] at hapart hvalue hsame
  cases r with
  | error err =>
    rw [bind_error hr]
    exact ⟨hapart, nofun, fun docs => bind_error (hsame docs)⟩
  | ok a =>
    obtain ⟨hapart', hvalue', hsame'⟩ := hf a (hvalue a rfl) e₁ hapart
    rw [bind_ok hr]
    refine ⟨hapart', hvalue', ?_⟩
    intro docs
    rw [bind_ok (hsame docs)]
    exact hsame' docs

theorem overlooks_then {x : Action α} {f : α → Action β} {P : α → Prop} {Q : β → Prop}
    (hx : Overlooks i x P)
    (hf : ∀ a, Overlooks i (f a) Q) : Overlooks i (x >>= f) Q := overlooks_bind hx (fun a _ => hf a)

theorem withDocuments_store_ne {i j : Nat} (h : j ≠ i) (docs : List Fields) (e : Engine)
    : (withDocuments i docs e).store j = e.store j := store_setStore_ne h.symm

theorem withDocuments_cached (i : Nat) (docs : List Fields) (e : Engine)
    : (withDocuments i docs e).cached = e.cached := rfl

theorem withDocuments_slot (i j : Nat) (docs : List Fields) (e : Engine)
    : ((withDocuments i docs e).store j).slot = (e.store j).slot :=
  store_setStore_keep (p := Store.slot) (f := fun s => { s with documents := docs })
    (fun _ => rfl) e i j

theorem collection_refused {name : Value} {e : Engine} {err : Error}
    (hname : checkName name = .error err)
    : collection name e = (.error err, e) := by
  unfold collection
  rw [hname, lift_error_bind]

theorem collection_inUse {name : Value} {n : String} {e : Engine} {j : Nat}
    (hname : checkName name = .ok n)
    (hlookup : e.cached.lookup n = some j) : collection name e = (.ok j, e) := by
  unfold collection
  rw [hname, lift_ok_bind, get_bind]
  simp only [hlookup]
  rfl

theorem collection_unread {name : Value} {n : String} {e : Engine} {err : Error} {ids : IdSupply}
    (hname : checkName name = .ok n) (hlookup : e.cached.lookup n = none)
    (hload : Collection.load e.disk n e.ids = (.error err, ids))
    : collection name e = (.error err, { e with ids }) := by
  unfold collection
  rw [hname, lift_ok_bind, get_bind]
  simp only [hlookup]
  exact bind_error (ofDrawing_of hload)

theorem collection_loads {name : Value} {n : String} {e : Engine} {docs : List Fields}
    {ids : IdSupply} (hname : checkName name = .ok n) (hlookup : e.cached.lookup n = none)
    (hload : Collection.load e.disk n e.ids = (.ok docs, ids))
    : collection name e = (.ok e.opened.length, { e with
        ids
        opened := e.opened ++ [⟨n, docs, {}⟩]
        cached := e.cached ++ [(n, e.opened.length)] }) := by
  unfold collection
  rw [hname, lift_ok_bind, get_bind]
  simp only [hlookup]
  exact bind_ok (ofDrawing_of hload)

theorem modify_append {l l' : List α} {f : α → α} (h : i < l.length)
    : (l ++ l').modify i f = l.modify i f ++ l' := by
  apply List.ext_getElem?
  intro j
  rw [List.getElem?_modify]
  by_cases hj : j < l.length
  . rw [List.getElem?_append_left hj,
      List.getElem?_append_left (by rw [List.length_modify]; exact hj), List.getElem?_modify]
  . have hij : i ≠ j := by omega
    rw [List.getElem?_append_right (Nat.le_of_not_lt hj),
      List.getElem?_append_right (by rw [List.length_modify]; exact Nat.le_of_not_lt hj),
        List.length_modify]
    simp [hij]

theorem overlooks_collection (name : Value) : Overlooks i (collection name) (fun j => j ≠ i) := by
  intro e he
  cases hname : checkName name with
  | error err =>
    rw [collection_refused hname]
    exact ⟨he, nofun, fun docs => collection_refused hname⟩
  | ok n =>
    cases hlookup : e.cached.lookup n with
    | some j =>
      rw [collection_inUse hname hlookup]
      refine ⟨he, ?_, fun docs => collection_inUse hname hlookup⟩
      intro k hk
      cases hk
      exact he.unused _ (mem_of_lookup hlookup)
    | none =>
      rcases hload : Collection.load e.disk n e.ids with ⟨r, ids⟩
      cases r with
      | error err =>
        rw [collection_unread hname hlookup hload]
        exact ⟨⟨he.opened, he.unused⟩, nofun, fun docs => collection_unread hname hlookup hload⟩
      | ok new =>
        rw [collection_loads hname hlookup hload]
        -- the collection that is loaded comes after the place that is kept apart
        refine ⟨⟨?_, ?_⟩, ?_, ?_⟩
        . rw [List.length_append]
          exact Nat.lt_add_right _ he.opened
        . intro c hc
          cases List.mem_append.mp hc with
          | inl hc => exact he.unused c hc
          | inr hc =>
            rw [List.mem_singleton.mp hc]
            exact Nat.ne_of_gt he.opened
        . intro j hj
          cases hj
          exact Nat.ne_of_gt he.opened
        . intro docs
          rw [collection_loads (e := withDocuments i docs e) hname hlookup hload]
          unfold withDocuments setStore
          dsimp only
          rw [List.length_modify, modify_append he.opened]

theorem overlooks_snapshot (name : Value) : Overlooks i (snapshot name) (fun _ => True) := by
  unfold snapshot
  apply overlooks_bind (overlooks_collection name)
  intro j hj e he
  rw [get_bind]
  refine ⟨he, fun _ _ => trivial, ?_⟩
  intro docs
  rw [get_bind, withDocuments_store_ne hj]
  rfl

theorem overlooks_mutation (name : Value) (m : Mutation)
    : Overlooks i (mutation name m) (fun st => ∀ j t, st = .waits j t → j ≠ i) := by
  apply overlooks_bind (overlooks_collection name)
  intro j hj
  apply overlooks_pure
  intro k t hk
  cases hk
  exact hj

theorem overlooks_carryOut (name : Value) (p : Plan)
    : Overlooks i (carryOut name p) (fun st => ∀ j t, st = .waits j t → j ≠ i) := by
  cases p with
  | reads answer =>
    exact overlooks_then (overlooks_snapshot name) fun _ =>
      overlooks_then (overlooks_lift _) fun _ =>
      overlooks_pure nofun
  | mutates m => exact overlooks_mutation name m
  | inserts docs =>
    apply overlooks_bind (overlooks_collection name)
    intro j hj
    apply overlooks_then (overlooks_lift _)
    intro given
    cases given with
    | nil => exact overlooks_pure nofun
    | cons =>
      apply overlooks_pure
      intro k t hk
      cases hk
      exact hj

theorem overlooks_beginCall (c : Call)
    : Overlooks i (beginCall c) (fun st => ∀ j t, st = .waits j t → j ≠ i) := by
  rw [beginCall_eq]
  exact overlooks_then (overlooks_ofDrawing _) (overlooks_carryOut _)

theorem overlooks_drop (name : Value)
    : Overlooks i (begin (.drop name)) (fun st => ∀ j t, st = .waits j t → j ≠ i) := by
  intro e he
  cases hname : checkName name with
  | error err =>
    rw [begin_drop_refused hname]
    exact ⟨he, nofun, fun docs => begin_drop_refused hname⟩
  | ok n =>
    cases hlookup : e.cached.lookup n with
    | some j =>
      rw [begin_drop_opened hname hlookup]
      refine ⟨⟨he.opened, ?_⟩, ?_, fun docs => begin_drop_opened hname hlookup⟩
      . intro c hc
        exact he.unused c (List.mem_of_mem_filter hc)
      . intro st hst k t hk
        cases hst
        cases hk
        exact he.unused _ (mem_of_lookup hlookup)
    | none =>
      rw [begin_drop_closed hname hlookup]
      refine ⟨⟨he.opened, he.unused⟩, ?_, fun docs => begin_drop_closed hname hlookup⟩
      intro st hst k t hk
      obtain ⟨existed, _, rfl⟩ := map_ok hst
      cases hk

theorem overlooks_close
    : Overlooks i (begin .close) (fun st => ∀ j t, st = .waits j t → j ≠ i) := by
  intro e he
  have hheld : ∀ docs, (fun c : String × Nat => !((withDocuments i docs e).store c.2).slot.isFree)
      = fun c => !(e.store c.2).slot.isFree := by
    intro docs
    funext c
    rw [withDocuments_slot]
  have hsame := fun docs => begin_close (withDocuments i docs e)
  simp only [hheld, withDocuments_cached] at hsame
  rw [begin_close]
  cases hfind : e.cached.find? fun c => !(e.store c.2).slot.isFree with
  | some c =>
    simp only [hfind] at hsame
    refine ⟨he, ?_, hsame⟩
    intro st hst k t hk
    cases hst
    cases hk
    exact he.unused c (List.mem_of_find?_eq_some hfind)
  | none =>
    simp only [hfind] at hsame
    exact ⟨⟨he.opened, nofun⟩, fun st hst => by cases hst; nofun, hsame⟩

theorem overlooks_begin (q : Request)
    : Overlooks i (begin q) (fun st => ∀ j t, st = .waits j t → j ≠ i) := by
  cases q with
  | call c => exact overlooks_beginCall c
  | flush name => exact overlooks_mutation _ _
  | drop name => exact overlooks_drop name
  | close => exact overlooks_close
  | list => exact fun e he => ⟨he, fun st hst => by cases hst; nofun, fun _ => rfl⟩

theorem setStore_withDocuments {j : Nat} (h : j ≠ i) (f : Store → Store) (docs : List Fields)
    (e : Engine)
    : setStore j f (withDocuments i docs e) = withDocuments i docs (setStore j f e) := by
  unfold withDocuments setStore
  dsimp only
  rw [List.modify_modify_ne _ _ _ h.symm]

theorem effectAt_withDocuments {j : Nat} (h : j ≠ i) (docs : List Fields) (e : Engine)
    (now : Moment) (m : Mutation)
    : effectAt (withDocuments i docs e) now j m = effectAt e now j m := by
  unfold effectAt
  rw [withDocuments_store_ne h]
  rfl

theorem withEffect_withDocuments {j : Nat} (h : j ≠ i) (docs : List Fields) (e : Engine)
    (now : Moment) (m : Mutation)
    : withEffect (withDocuments i docs e) now j m =
      withDocuments i docs (withEffect e now j m) := by
  unfold withEffect
  rw [effectAt_withDocuments h]
  exact congrArg (fun b : Engine => { b with ids := (effectAt e now j m).ids })
    (setStore_withDocuments h ..)

theorem Apart.setStore {e : Engine} (h : Apart i e) (j : Nat) (f : Store → Store)
    : Apart i (setStore j f e) :=
  ⟨lt_of_lt_of_eq h.opened (length_setStore ..).symm, h.unused⟩

end

end Engine

end DocStore

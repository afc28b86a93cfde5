import DocStore.Proofs.Engine.Growth

/-!
This module contains engines that differ only in what the slot of a collection counts and in what
identifiers are left: a turn with the collection ends in the same way in both, and leaves engines
that differ only so.
-/

namespace DocStore

namespace Engine

def bare (i : Nat) (e : Engine) : Engine := { withSlot i (fun _ => {}) e with ids := {} }

section

variable {i : Nat} {e e' : Engine}

theorem bare_withSlot (i : Nat) (f : Slot → Slot) (e : Engine)
    : bare i (withSlot i f e) = bare i e := by
  unfold bare withSlot setStore
  dsimp only
  rw [List.modify_modify_eq]
  rfl

theorem bare_enqueue (i : Nat) (e : Engine) : bare i (enqueue i e).2 = bare i e :=
  bare_withSlot i (fun s => s.draw.2) e

theorem bare_release (i : Nat) (e : Engine) : bare i (release i e) = bare i e :=
  bare_withSlot i Slot.released e

theorem bare_withDocuments (i : Nat) (docs : List Fields) (e : Engine)
    : bare i (withDocuments i docs e) = withDocuments i docs (bare i e) := by
  unfold bare withSlot withDocuments setStore
  dsimp only
  rw [List.modify_modify_eq, List.modify_modify_eq]
  rfl

theorem bare_name (i : Nat) (e : Engine) : ((bare i e).store i).name = (e.store i).name :=
  withSlot_name i i (fun _ => {}) e

theorem bare_documents (i : Nat) (e : Engine)
    : ((bare i e).store i).documents = (e.store i).documents :=
  withSlot_documents i i (fun _ => {}) e

theorem bare_disk (i : Nat) (e : Engine) : (bare i e).disk = e.disk := rfl

theorem bare_cached (i : Nat) (e : Engine) : (bare i e).cached = e.cached := rfl

theorem bare_length (i : Nat) (e : Engine) : (bare i e).opened.length = e.opened.length :=
  length_setStore ..

theorem name_of_bare (h : bare i e = bare i e') : (e.store i).name = (e'.store i).name := by
  rw [← bare_name, h, bare_name]

theorem documents_of_bare (h : bare i e = bare i e')
    : (e.store i).documents = (e'.store i).documents := by
  rw [← bare_documents, h, bare_documents]

theorem disk_of_bare (h : bare i e = bare i e') : e.disk = e'.disk := by
  rw [← bare_disk i e, h, bare_disk]

theorem cached_of_bare (h : bare i e = bare i e') : e.cached = e'.cached := by
  rw [← bare_cached i e, h, bare_cached]

theorem length_of_bare (h : bare i e = bare i e') : e.opened.length = e'.opened.length := by
  rw [← bare_length i, h, bare_length]

theorem effectAt_of_bare (h : bare i e = bare i e') (hids : e.ids = e'.ids) (now : Moment)
    (m : Mutation)
    : effectAt e now i m = effectAt e' now i m := by
  unfold effectAt
  rw [name_of_bare h, documents_of_bare h, hids]

theorem withEffect_of_bare (h : bare i e = bare i e') (hids : e.ids = e'.ids) (now : Moment)
    (m : Mutation)
    : bare i (withEffect e now i m) = bare i (withEffect e' now i m) := by
  unfold withEffect
  rw [effectAt_of_bare h hids]
  exact (bare_withDocuments ..).trans ((congrArg _ h).trans (bare_withDocuments ..).symm)

theorem withSlot_bare (i : Nat) (e : Engine)
    : withSlot i (fun _ => (e.store i).slot) (bare i e) = { e with ids := {} } := by
  have hopened : (withSlot i (fun _ => (e.store i).slot) (bare i e)).opened = e.opened := by
    apply List.ext_getElem?
    intro j
    unfold withSlot bare withSlot
    rw [getElem?_setStore]
    dsimp only
    rw [getElem?_setStore]
    split
    next hij =>
      rw [← hij]
      cases hs : e.opened[i]? with
      | none => rfl
      | some s =>
        rw [store_eq hs]
        rfl
    . rfl
  exact congrArg (fun opened => { e with ids := {}, opened }) hopened

theorem eq_of_bare (h : bare i e = bare i e') (hslot : (e.store i).slot = (e'.store i).slot)
    : e = { e' with ids := e.ids } := by
  have hids : { e with ids := {} } = ({ e' with ids := {} } : Engine) := by
    rw [← withSlot_bare i e, ← withSlot_bare i e', h, hslot]
  exact congrArg (fun b : Engine => { b with ids := e.ids }) hids

end

end Engine

end DocStore

import DocStore.Proofs.Disk.Replace
import DocStore.Proofs.Engine.Begin

/-!
This module contains what an admitted request does: a mutation changes the memory of the collection
at its place, and the file if there is something to write; everything else in the engine stays.
-/

namespace DocStore

open Work

def Slot.released (s : Slot) : Slot :=
  match s.release with
  | .ok slot => slot
  | .error _ => s

namespace Engine

def withDocuments (i : Nat) (docs : List Fields) (e : Engine) : Engine :=
  setStore i (fun s => { s with documents := docs }) e

theorem store_eq {e : Engine} {i : Nat} {s : Store} (h : e.opened[i]? = some s)
    : e.store i = s := by
  unfold store
  rw [h]
  rfl

theorem getElem?_setStore (e : Engine) (i j : Nat) (f : Store → Store)
    : (setStore i f e).opened[j]? = if i = j then e.opened[j]?.map f else e.opened[j]? := by
  unfold setStore
  rw [List.getElem?_modify]
  split <;> cases e.opened[j]? <;> rfl

theorem store_setStore_ne {e : Engine} {i j : Nat} {f : Store → Store} (h : i ≠ j)
    : (setStore i f e).store j = e.store j := by
  unfold store
  rw [getElem?_setStore, if_neg h]

theorem store_setStore_self {e : Engine} {i : Nat} {f : Store → Store} (h : i < e.opened.length)
    : (setStore i f e).store i = f (e.store i) := by
  unfold store
  rw [getElem?_setStore, if_pos rfl, List.getElem?_eq_getElem h]
  rfl

theorem store_setStore_keep {β : Type} {p : Store → β} {f : Store → Store} (h : ∀ s, p (f s) = p s)
    (e : Engine)
    (i j : Nat) : p ((setStore i f e).store j) = p (e.store j) := by
  unfold store
  rw [getElem?_setStore]
  cases e.opened[j]? with
  | none => split <;> rfl
  | some s =>
    split
    . exact h s
    . rfl

def effectAt (e : Engine) (now : Moment) (i : Nat) (m : Mutation) : Effect :=
  m.effect now (e.store i).name (e.store i).documents e.ids

def withEffect (e : Engine) (now : Moment) (i : Nat) (m : Mutation) : Engine :=
  { withDocuments i (effectAt e now i m).documents e with ids := (effectAt e now i m).ids }

theorem withEffect_store_ne {e : Engine} {now : Moment} {i j : Nat} {m : Mutation} (h : i ≠ j)
    : (withEffect e now i m).store j = e.store j := store_setStore_ne h

theorem withEffect_store_self {e : Engine} {now : Moment} {i : Nat} {m : Mutation}
    (h : i < e.opened.length)
    : (withEffect e now i m).store i =
      { e.store i with documents := (effectAt e now i m).documents } :=
  store_setStore_self h

theorem takeTurn_mutate_error {e : Engine} {now : Moment} {i : Nat} {m : Mutation} {err : Error}
    (h : (effectAt e now i m).outcome = .error err)
    : takeTurn now i (.mutate m) e = (.error err, withEffect e now i m) := by
  unfold takeTurn
  dsimp only
  rw [Mutation.execute_eq]
  unfold effectAt at h
  unfold Effect.perform
  dsimp only
  rw [h]
  rfl

theorem takeTurn_mutate_unwritten {e : Engine} {now : Moment} {i : Nat} {m : Mutation} {a : Answer}
    (h : (effectAt e now i m).outcome = .ok (a, false))
    : takeTurn now i (.mutate m) e = (.ok a, withEffect e now i m) := by
  unfold takeTurn
  dsimp only
  rw [Mutation.execute_eq]
  unfold effectAt at h
  unfold Effect.perform
  dsimp only
  rw [h]
  rfl

theorem takeTurn_mutate_written {e : Engine} {now : Moment} {i : Nat} {m : Mutation} {a : Answer}
    (h : (effectAt e now i m).outcome = .ok (a, true)) {r : Except Error Unit} {disk : Disk}
    (hs : Collection.save (e.store i).name (effectAt e now i m).documents e.disk = (r, disk))
    : takeTurn now i (.mutate m) e = (r.map fun _ => a, { withEffect e now i m with disk }) := by
  unfold takeTurn
  dsimp only
  rw [Mutation.execute_eq]
  unfold effectAt at h hs
  unfold Effect.perform Holding.persist
  dsimp only
  rw [h]
  dsimp only
  rw [hs]
  cases r with
  | ok u => rfl
  | error err => rfl

inductive Outcome (e : Engine) (now : Moment) (i : Nat) (m : Mutation)
    : Except Error Answer → Engine → Prop where
  | refused {err} (h : (effectAt e now i m).outcome = .error err) :
      Outcome e now i m (.error err) (withEffect e now i m)
  | unchanged {a} (h : (effectAt e now i m).outcome = .ok (a, false)) :
      Outcome e now i m (.ok a) (withEffect e now i m)
  | written {a s disk} (h : (effectAt e now i m).outcome = .ok (a, true))
      (text : Collection.textOf (effectAt e now i m).documents = .ok s)
      (replaces : Filing.Replaces (Collection.fileName (e.store i).name) s e.disk (.ok ()) disk) :
      Outcome e now i m (.ok a) { withEffect e now i m with disk }
  | failed {a s reason path disk} (h : (effectAt e now i m).outcome = .ok (a, true))
      (text : Collection.textOf (effectAt e now i m).documents = .ok s)
      (replaces : Filing.Replaces (Collection.fileName (e.store i).name) s e.disk
        (.error reason) disk) :
      Outcome e now i m (.error (.file (.unwritten (e.store i).name reason) path))
      { withEffect e now i m with disk }

theorem takeTurn_outcome {e : Engine} {now : Moment} {i : Nat} {m : Mutation}
    (hstored : ∀ d ∈ (effectAt e now i m).documents, d.IsStored)
    : Outcome e now i m (takeTurn now i (.mutate m) e).1 (takeTurn now i (.mutate m) e).2 := by
  cases h : (effectAt e now i m).outcome with
  | error err =>
    rw [takeTurn_mutate_error h]
    exact .refused h
  | ok p =>
    obtain ⟨a, writes⟩ := p
    cases writes with
    | false =>
      rw [takeTurn_mutate_unwritten h]
      exact .unchanged h
    | true =>
      rcases hs : Collection.save (e.store i).name (effectAt e now i m).documents e.disk
        with ⟨r, disk⟩
      rw [takeTurn_mutate_written h hs]
      obtain ⟨s, htext, ⟨rfl, hr⟩ | ⟨reason, path, rfl, hr⟩⟩ := Collection.save_cases hstored hs
      . exact .written h htext (Filing.replace_replaces hr)
      . exact .failed h htext (Filing.replace_replaces hr)

theorem takeTurn_mutate_memory (e : Engine) (now : Moment) (i : Nat) (m : Mutation)
    : ∃ disk, (takeTurn now i (.mutate m) e).2 = { withEffect e now i m with disk } := by
  cases h : (effectAt e now i m).outcome with
  | error err =>
    rw [takeTurn_mutate_error h]
    exact ⟨e.disk, rfl⟩
  | ok p =>
    obtain ⟨a, writes⟩ := p
    cases writes with
    | false =>
      rw [takeTurn_mutate_unwritten h]
      exact ⟨e.disk, rfl⟩
    | true =>
      rw [takeTurn_mutate_written h rfl]
      exact ⟨_, rfl⟩

theorem takeTurn_removeFile (e : Engine) (now : Moment) (i : Nat)
    : takeTurn now i .removeFile e
      = ((removal (e.store i).name e.disk).1.map fun _ => .truth true,
          { e with disk := (removal (e.store i).name e.disk).2 }) := by
  unfold takeTurn
  dsimp only
  rw [get_bind]
  have h := removeFile_eq (e.store i).name e
  rcases hr : removal (e.store i).name e.disk with ⟨r, disk⟩
  rw [hr] at h
  cases r with
  | ok b => exact bind_ok h
  | error err => exact bind_error h

def withSlot (i : Nat) (f : Slot → Slot) (e : Engine) : Engine :=
  setStore i (fun s => { s with slot := f s.slot }) e

theorem enqueue_eq (i : Nat) (e : Engine)
    : enqueue i e = (.ok (), withSlot i (fun s => s.draw.2) e) := rfl

theorem store_withSlot (i j : Nat) (f : Slot → Slot) (e : Engine)
    : ∃ slot, (withSlot i f e).store j = { e.store j with slot } := by
  unfold withSlot store
  rw [getElem?_setStore]
  cases e.opened[j]? with
  | none => exact ⟨{}, by split <;> rfl⟩
  | some s =>
    split
    . exact ⟨f s.slot, rfl⟩
    . exact ⟨s.slot, rfl⟩

theorem withSlot_name (i j : Nat) (f : Slot → Slot) (e : Engine)
    : ((withSlot i f e).store j).name = (e.store j).name := by
  obtain ⟨slot, h⟩ := store_withSlot i j f e
  rw [h]

theorem withSlot_documents (i j : Nat) (f : Slot → Slot) (e : Engine)
    : ((withSlot i f e).store j).documents = (e.store j).documents := by
  obtain ⟨slot, h⟩ := store_withSlot i j f e
  rw [h]

theorem effectAt_withSlot (e : Engine) (now : Moment) (i j : Nat) (f : Slot → Slot) (m : Mutation)
    : effectAt (withSlot i f e) now j m = effectAt e now j m := by
  unfold effectAt
  rw [withSlot_name, withSlot_documents]
  rfl

theorem withEffect_withSlot (e : Engine) (now : Moment) (i : Nat) (f : Slot → Slot) (m : Mutation)
    : withEffect (withSlot i f e) now i m = withSlot i f (withEffect e now i m) := by
  unfold withEffect
  rw [effectAt_withSlot]
  unfold withDocuments withSlot setStore
  dsimp only
  rw [List.modify_modify_eq, List.modify_modify_eq]
  rfl

theorem takeTurn_withSlot (e : Engine) (now : Moment) (i : Nat) (f : Slot → Slot) (t : Turn)
    : takeTurn now i t (withSlot i f e) =
      ((takeTurn now i t e).1, withSlot i f (takeTurn now i t e).2) := by
  cases t with
  | mutate m =>
    cases h : (effectAt e now i m).outcome with
    | error err =>
      rw [takeTurn_mutate_error h, takeTurn_mutate_error (by rw [effectAt_withSlot, h]),
        withEffect_withSlot]
    | ok p =>
      obtain ⟨a, writes⟩ := p
      cases writes with
      | false =>
        rw [takeTurn_mutate_unwritten h, takeTurn_mutate_unwritten (by rw [effectAt_withSlot, h]),
          withEffect_withSlot]
      | true =>
        rcases hs : Collection.save (e.store i).name (effectAt e now i m).documents e.disk
          with ⟨r, disk⟩
        have hs' : Collection.save ((withSlot i f e).store i).name
          (effectAt (withSlot i f e) now i m).documents
            (withSlot i f e).disk = (r, disk) := by
          rw [effectAt_withSlot, withSlot_name]
          exact hs
        rw [takeTurn_mutate_written h hs,
          takeTurn_mutate_written (by rw [effectAt_withSlot, h]) hs', withEffect_withSlot]
        rfl
  | removeFile =>
    rw [takeTurn_removeFile, takeTurn_removeFile, withSlot_name]
    rfl
  | releaseAll => rfl

end Engine

end DocStore

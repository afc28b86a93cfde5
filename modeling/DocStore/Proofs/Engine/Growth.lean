import DocStore.Proofs.Engine.Reachable

/-!
This module contains what becomes of the documents of an opened collection: a request that deletes
drops some, any other one keeps them in their order, merges patches into them, and puts new ones
after them.
-/

namespace DocStore

open Collection

def Call.deletes : Call → Bool
  | .deleteOne .. => true
  | .deleteMany .. => true
  | _ => false

def Request.deletes : Request → Bool
  | .call c => c.deletes
  | _ => false

def Request.Changes (q : Request) (now : Moment) (docs docs' : List Fields) : Prop :=
  if q.deletes then docs'.Sublist docs else Growth now docs docs'

theorem Request.Changes.refl (q : Request) (now : Moment) (docs : List Fields)
    : q.Changes now docs docs := by
  unfold Request.Changes
  split
  . exact .refl docs
  . exact .refl now docs

theorem Call.Asks.deletes {c : Call} {name : Value} {m : Mutation} (h : c.Asks name m)
    : m.deletes = c.deletes := by
  cases h <;> rfl

namespace Engine

theorem Opens.store {e e₁ : Engine} (h : Opens e e₁) {i : Nat} (hi : i < e.opened.length)
    : i < e₁.opened.length ∧ e₁.store i = e.store i := by
  cases h with
  | none => exact ⟨hi, rfl⟩
  | load =>
    refine ⟨?_, ?_⟩
    . dsimp only
      rw [List.length_append]
      omega
    . unfold Engine.store
      dsimp only
      rw [List.getElem?_append_left hi]

theorem begin_store {q : Request} {e e₁ : Engine} {r : Except Error Start}
    (hb : begin q e = (r, e₁)) {i : Nat}
    (hi : i < e.opened.length) : i < e₁.opened.length ∧ e₁.store i = e.store i := by
  cases begin_hasBegun hb with
  | call h => exact h.opens.store hi
  | flush opens => exact opens.store hi
  | _ => exact ⟨hi, rfl⟩

theorem takeTurn_mutate_documents (e : Engine) (now : Moment) {i j : Nat} (m : Mutation)
    (hi : i < e.opened.length)
    : ((takeTurn now j (.mutate m) e).2.store i).documents
      = if j = i then (effectAt e now i m).documents else (e.store i).documents := by
  obtain ⟨disk, hmemory⟩ := takeTurn_mutate_memory e now j m
  rw [hmemory]
  change ((withEffect e now j m).store i).documents = _
  by_cases hij : j = i
  . rw [if_pos hij, hij, withEffect_store_self hi]
  . rw [if_neg hij, withEffect_store_ne hij]

theorem takeTurn_length (e : Engine) (now : Moment) (i : Nat) (t : Turn)
    : (takeTurn now i t e).2.opened.length = e.opened.length := by
  cases t with
  | mutate m =>
    obtain ⟨disk, hmemory⟩ := takeTurn_mutate_memory e now i m
    rw [hmemory]
    exact List.length_modify ..
  | removeFile => rw [takeTurn_removeFile]
  | releaseAll => rfl

theorem takeTurn_change {e : Engine} {clock : Clock} {i j : Nat} {t : Turn} (ht : IsAwaited t)
    (hi : i < e.opened.length)
    : Change clock.now (e.store i).documents ((takeTurn clock.now j t e).2.store i).documents := by
  cases t with
  | mutate m =>
    rw [takeTurn_mutate_documents e clock.now m hi]
    split
    . exact Mutation.effect_change ht.isNormal ..
    . exact .refl ..
  | removeFile =>
    rw [takeTurn_removeFile]
    exact .refl ..
  | releaseAll => exact .refl ..

theorem length_setStore (i : Nat) (f : Store → Store) (e : Engine)
    : (setStore i f e).opened.length = e.opened.length := List.length_modify ..

theorem store_enqueue_documents (i j : Nat) (e : Engine)
    : ((enqueue i e).2.store j).documents = (e.store j).documents :=
  withSlot_documents i j (fun s => s.draw.2) e

theorem store_release_documents (i j : Nat) (e : Engine)
    : ((release i e).store j).documents = (e.store j).documents :=
  withSlot_documents i j Slot.released e

theorem Step.change {e e' : Engine} (hs : Step e e') {i : Nat} (hi : i < e.opened.length)
    : i < e'.opened.length
      ∧ ∃ clock : Clock, Change clock.now (e.store i).documents (e'.store i).documents := by
  cases hs with
  | begin q =>
    rcases hb : Engine.begin q e with ⟨r, e₁⟩
    obtain ⟨hlt, hstore⟩ := begin_store hb hi
    refine ⟨hlt, .epoch, ?_⟩
    rw [hstore]
    exact .refl ..
  | enqueue j =>
    refine ⟨?_, .epoch, ?_⟩
    . rw [enqueue_eq]
      exact lt_of_lt_of_eq hi (length_setStore ..).symm
    . rw [store_enqueue_documents]
      exact .refl ..
  | takeTurn clock j ht =>
    refine ⟨?_, clock, takeTurn_change ht hi⟩
    rw [takeTurn_length]
    exact hi
  | release j =>
    refine ⟨lt_of_lt_of_eq hi (length_setStore ..).symm, .epoch, ?_⟩
    rw [store_release_documents]
    exact .refl ..
  | directory disk => exact ⟨hi, .epoch, .refl ..⟩
  | supply ids => exact ⟨hi, .epoch, .refl ..⟩

theorem run_changes {e e' : Engine} {clock : Clock} {q : Request} {r : Except Error Answer}
    (hrun : run clock.now q e = (r, e')) {i : Nat} (hi : i < e.opened.length)
    : q.Changes clock.now (e.store i).documents (e'.store i).documents := by
  rcases run_cases hrun with ⟨err, hb, _⟩ | ⟨a, hb, _⟩ | ⟨j, t, e₁, hb, _, rfl⟩
  . rw [(begin_store hb hi).2]
    exact .refl ..
  . rw [(begin_store hb hi).2]
    exact .refl ..
  . obtain ⟨hlt, hstore⟩ := begin_store hb hi
    have hawaited : IsAwaited t := ⟨_, _, _, _, hb⟩
    rw [passed_documents, ← hstore]
    cases t with
    | removeFile =>
      rw [takeTurn_removeFile]
      exact .refl ..
    | releaseAll => exact .refl ..
    | mutate m =>
      rw [takeTurn_mutate_documents e₁ clock.now m hlt]
      split
      . have hm := hawaited.isNormal
        have hdeletes : m.deletes = q.deletes := by
          cases begin_hasBegun hb with
          | call h =>
            obtain ⟨name, m', hasks, ht, _⟩ := h.waits _ _ rfl
            cases ht
            exact hasks.deletes
          | flush opens waits =>
            obtain ⟨ht, _⟩ := waits _ _ rfl
            cases ht
            rfl
          | @dropClosed _ n _ _ _ hr =>
            cases hremoved : (removal n e.disk).1 <;> rw [hremoved] at hr <;> cases hr
        unfold Request.Changes
        split
        next hq => exact Mutation.effect_sublist (hdeletes.trans hq) ..
        next hq => exact Mutation.effect_growth hm (by rw [hdeletes]; simpa using hq) ..
      . exact .refl ..

end Engine

end DocStore

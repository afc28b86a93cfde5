import DocStore.Proofs.Engine.Timed

/-!
This module contains what becomes of a request for a collection that is in use: it looks at the
documents in memory, and if it mutates them it has its effect on them, whether or not the file can
be written.
-/

namespace DocStore

open Work

namespace Engine

section

variable {e e₁ : Engine} {name : Value} {i : Nat}

theorem begin_call (c : Call) : begin (.call c) = beginCall c := rfl

theorem collection_of_place (h : IsPlaceOf e name i) : collection name e = (.ok i, e) := by
  obtain ⟨n, hname, hlookup⟩ := h
  unfold collection
  rw [hname, lift_ok_bind, get_bind]
  simp only [hlookup]
  rfl

theorem snapshot_of_place (h : IsPlaceOf e name i)
    : snapshot name e = (.ok (e.store i).documents, e) := by
  unfold snapshot
  rw [bind_ok (collection_of_place h)]
  rfl

theorem mutation_of_place (h : IsPlaceOf e name i) (m : Mutation)
    : mutation name m e = (.ok (.waits i (.mutate m)), e) := by
  unfold mutation
  rw [bind_ok (collection_of_place h)]
  rfl

theorem Sound.lt_of_place (he : e.Sound) (h : IsPlaceOf e name i) : i < e.opened.length := by
  obtain ⟨n, _, hlookup⟩ := h
  exact (he.store_of_lookup hlookup).1

theorem IsPlaceOf.congr (h : IsPlaceOf e name i) (hcached : e₁.cached = e.cached)
    : IsPlaceOf e₁ name i := by
  obtain ⟨n, hname, hlookup⟩ := h
  exact ⟨n, hname, by rw [hcached, hlookup]⟩

theorem IsPlaceOf.run {clock : Clock} {q : Request} {r : Except Error Answer} {e' : Engine}
    (h : IsPlaceOf e name i)
    (hq : q.keepsOpen = true) (hrun : run clock.now q e = (r, e')) : IsPlaceOf e' name i := by
  obtain ⟨n, hname, hlookup⟩ := h
  exact ⟨n, hname, run_lookup hq hrun hlookup⟩

end

section

variable (clock : Clock) {e e₁ : Engine} {q : Request} {i : Nat} {m : Mutation}

theorem run_mutation_documents (hb : begin q e = (.ok (.waits i (.mutate m)), e₁))
    (hi : i < e₁.opened.length)
    : ((run clock.now q e).2.store i).documents = (effectAt e₁ clock.now i m).documents := by
  rw [run_waits hb]
  dsimp only
  rw [passed_documents, takeTurn_mutate_documents e₁ clock.now m hi, if_pos rfl]

theorem run_mutation_ids (hb : begin q e = (.ok (.waits i (.mutate m)), e₁))
    : (run clock.now q e).2.ids = (effectAt e₁ clock.now i m).ids := by
  obtain ⟨disk, hmemory⟩ := takeTurn_mutate_memory e₁ clock.now i m
  rw [run_waits hb]
  dsimp only
  rw [hmemory]
  rfl

theorem run_mutation_name (hb : begin q e = (.ok (.waits i (.mutate m)), e₁))
    : ((run clock.now q e).2.store i).name = (e₁.store i).name := by
  obtain ⟨disk, hmemory⟩ := takeTurn_mutate_memory e₁ clock.now i m
  rw [run_waits hb]
  dsimp only
  rw [passed_name, hmemory]
  have hkeep : ∀ s : Store, { s with documents := (effectAt e₁ clock.now i m).documents }.name =
      s.name := fun _ => rfl
  exact store_setStore_keep hkeep e₁ i i

theorem run_mutation_refused (hb : begin q e = (.ok (.waits i (.mutate m)), e₁)) {err : Error}
    (hout : (effectAt e₁ clock.now i m).outcome = .error err)
    : (run clock.now q e).1 = .error err ∧ (run clock.now q e).2.disk = e₁.disk := by
  rw [run_waits hb, takeTurn_mutate_error hout]
  exact ⟨rfl, rfl⟩

theorem run_mutation_unwritten (hb : begin q e = (.ok (.waits i (.mutate m)), e₁)) {a : Answer}
    (hout : (effectAt e₁ clock.now i m).outcome = .ok (a, false))
    : (run clock.now q e).1 = .ok a ∧ (run clock.now q e).2.disk = e₁.disk := by
  rw [run_waits hb, takeTurn_mutate_unwritten hout]
  exact ⟨rfl, rfl⟩

def IsAnswered (a : Answer) (r : Except Error Answer) : Prop := HasFailed r ∨ r = .ok a

theorem run_mutation_answer (he : e.Sound) (hb : begin q e = (.ok (.waits i (.mutate m)), e₁))
    {a : Answer} {writes : Bool} (hout : (effectAt e₁ clock.now i m).outcome = .ok (a, writes))
    : IsAnswered a (run clock.now q e).1 := by
  have he₁ : e₁.Sound := by
    have h := he.begin q
    rwa [hb] at h
  have hawaited : IsAwaited (.mutate m) := ⟨_, _, _, _, hb⟩
  have hstored :=
    (Mutation.effect_change hawaited.isNormal clock.now (e₁.store i).name (e₁.store i).documents
    e₁.ids).isStored clock.now_isStored (he₁.documents i)
  have houtcome := takeTurn_outcome hstored
  rw [run_waits hb]
  rcases hturn : takeTurn clock.now i (.mutate m) e₁ with ⟨r, e₂⟩
  rw [hturn] at houtcome
  cases houtcome with
  | refused h =>
    rw [hout] at h
    cases h
  | unchanged h =>
    rw [hout] at h
    cases h
    exact .inr rfl
  | written h =>
    rw [hout] at h
    cases h
    exact .inr rfl
  | failed => exact .inl .unwritten

end

end Engine

end DocStore

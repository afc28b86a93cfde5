import DocStore.Proofs.Crowd.Queue
import DocStore.Proofs.Engine.Apart

/-!
This module contains callers of an engine while a collection is in use no more: whatever their steps
are, the documents that the collection had do not matter.
-/

namespace DocStore

namespace Crowd

variable {ι : Type}

def withDocuments (i : Nat) (docs : List Fields) (x : Crowd ι) : Crowd ι :=
  { x with engine := x.engine.withDocuments i docs }

structure Apart (i : Nat) (x : Crowd ι) : Prop where
  engine : x.engine.Apart i
  place : ∀ c j, (x.stage c).place? = some j → j ≠ i

variable [DecidableEq ι]

namespace Apart

variable {i : Nat} {x : Crowd ι}

theorem go (h : Apart i x) {c : ι} {st : Stage} {e : Engine} (he : e.Apart i)
    (hplace : ∀ j, st.place? = some j → j ≠ i) : Apart i (x.go c st e) :=
  ⟨he, forall_stage_go (P := fun _ st => ∀ j, st.place? = some j → j ≠ i) hplace fun d _ =>
    h.place d⟩

theorem elsewhere (h : Apart i x) {c : ι} {st : Stage} {e : Engine} {j : Nat} (hj : j ≠ i)
    (he : e.Apart i)
    (hplace : st.place? = some j) : Apart i (x.go c st e) := by
  refine h.go he fun k hk => ?_
  rwa [← Option.some.inj (hplace.symm.trans hk)]

theorem call (h : Apart i x) {callers : ι → Caller} {c : ι} (hc : x.stage c = .called)
    : Apart i (advance callers x c)
      ∧ ∀ docs,
        Crowd.advance callers (x.withDocuments i docs) c =
          (Crowd.advance callers x c).withDocuments i docs := by
  obtain ⟨hapart, hvalue, hsame⟩ :=
    Engine.overlooks_begin (callers c).request ((callers c).atCall x.engine)
    ⟨h.engine.opened, h.engine.unused⟩
  rcases hb : Engine.begin (callers c).request ((callers c).atCall x.engine) with ⟨r, e⟩
  rw [hb] at hapart hvalue hsame
  rw [advance_called hc hb]
  refine ⟨h.go hapart ?_, fun docs => advance_called hc (hsame docs)⟩
  intro j hj
  obtain ⟨t, rfl⟩ := Stage.of_place?_begun hj
  exact hvalue _ rfl j t rfl

theorem change (h : Apart i x) {callers : ι → Caller} {c : ι} {j k : Nat} {t : Turn} (hj : j ≠ i)
    (hc : x.stage c = .entered j t k)
    : Apart i (advance callers x c)
      ∧ ∀ docs,
        Crowd.advance callers (x.withDocuments i docs) c =
          (Crowd.advance callers x c).withDocuments i docs := by
  have hstage : ∀ docs, (x.withDocuments i docs).stage c = .entered j t k := fun _ => hc
  have hturn : ∀ docs, (callers c).atTurn (x.withDocuments i docs).engine
      = Engine.withDocuments i docs ((callers c).atTurn x.engine) := fun _ => rfl
  cases t with
  | mutate m =>
    rw [advance_entered_mutate hc]
    refine ⟨h.elsewhere hj ?_ (Stage.place?_turned ..), ?_⟩
    . exact ⟨lt_of_lt_of_eq h.engine.opened (Engine.length_setStore ..).symm, h.engine.unused⟩
    . intro docs
      rw [advance_entered_mutate (hstage docs), hturn, Engine.effectAt_withDocuments hj,
        Engine.withEffect_withDocuments hj]
      rfl
  | removeFile =>
    rw [advance_entered hc nofun, Engine.takeTurn_removeFile]
    refine ⟨h.elsewhere hj ⟨h.engine.opened, h.engine.unused⟩ rfl, fun docs => ?_⟩
    rw [advance_entered (hstage docs) nofun, hturn, Engine.takeTurn_removeFile,
      Engine.withDocuments_store_ne hj]
    rfl
  | releaseAll =>
    rw [advance_entered hc nofun]
    refine ⟨h.elsewhere hj ⟨h.engine.opened, nofun⟩ rfl, fun docs => ?_⟩
    rw [advance_entered (hstage docs) nofun, hturn]
    rfl

theorem advance (h : Apart i x) (callers : ι → Caller) (c : ι)
    : Apart i (advance callers x c)
      ∧ ∀ docs,
        Crowd.advance callers (x.withDocuments i docs) c =
          (Crowd.advance callers x c).withDocuments i docs := by
  have hstage : ∀ docs, (x.withDocuments i docs).stage c = x.stage c := fun _ => rfl
  have hstore : ∀ {j docs}, j ≠ i → (x.withDocuments i docs).engine.store j = x.engine.store j :=
    fun hj => Engine.withDocuments_store_ne hj ..
  -- A caller that goes on with a collection uses another one than that which is in use no more.
  have hplace := h.place c
  cases hc : x.stage c with
  | called => exact h.call hc
  | ready j t =>
    have hj : j ≠ i := hplace j (by rw [hc]; rfl)
    have hgo : Apart i
        (x.go c (.queued j t (x.engine.store j).slot.draw.1) (Engine.enqueue j x.engine).2) :=
      h.elsewhere hj (h.engine.setStore j _) rfl
    rw [advance_ready hc]
    refine ⟨⟨hgo.engine, hgo.place⟩, ?_⟩
    intro docs
    have henqueue : (Engine.enqueue j (x.withDocuments i docs).engine).2
        = Engine.withDocuments i docs (Engine.enqueue j x.engine).2 :=
          Engine.setStore_withDocuments hj ..
    rw [advance_ready ((hstage docs).trans hc), hstore hj, henqueue]
    rfl
  | queued j t k =>
    have hj : j ≠ i := hplace j (by rw [hc]; rfl)
    rw [advance_queued hc]
    refine ⟨?_, ?_⟩
    . split
      . exact h.elsewhere hj h.engine rfl
      . exact h
    . intro docs
      rw [advance_queued ((hstage docs).trans hc), hstore hj]
      split <;> rfl
  | entered j t k => exact h.change (hplace j (by rw [hc]; rfl)) hc
  | changed j k a =>
    have hj : j ≠ i := hplace j (by rw [hc]; rfl)
    rw [advance_changed hc rfl]
    refine ⟨h.elsewhere hj ⟨h.engine.opened, h.engine.unused⟩ rfl, fun docs => ?_⟩
    rw [advance_changed ((hstage docs).trans hc) rfl, hstore hj]
    rfl
  | served j k r =>
    have hj : j ≠ i := hplace j (by rw [hc]; rfl)
    rw [advance_served hc]
    refine ⟨h.go (h.engine.setStore j _) nofun, ?_⟩
    intro docs
    have hrelease : Engine.release j (x.withDocuments i docs).engine
        = Engine.withDocuments i docs (Engine.release j x.engine) :=
          Engine.setStore_withDocuments hj ..
    rw [advance_served ((hstage docs).trans hc), hrelease]
    rfl
  | done r =>
    rw [advance_done hc]
    exact ⟨h, fun docs => advance_done hc⟩

theorem run (h : Apart i x) (callers : ι → Caller) (schedule : List ι) (docs : List Fields)
    : run callers (x.withDocuments i docs) schedule =
      (run callers x schedule).withDocuments i docs := by
  induction schedule generalizing x with
  | nil => rfl
  | cons c schedule ih =>
    have hc := h.advance callers c
    change Crowd.run callers (Crowd.advance callers (x.withDocuments i docs) c) schedule = _
    rw [hc.2]
    exact ih hc.1

end Apart

end Crowd

end DocStore

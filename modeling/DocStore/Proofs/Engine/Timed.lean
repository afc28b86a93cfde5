import DocStore.Proofs.Engine.History
import DocStore.Proofs.Engine.Times

/-!
This module contains the proof that the documents of an engine have their times over whole runs: in
memory and in the files every document was created and changed at whole milliseconds, was not
changed before it was created, and neither time goes back, whatever the clock shows.
-/

namespace DocStore

open Collection Document

namespace Collection

variable {clock : Clock} {docs docs' : List Fields}

theorem Change.isTimed (hdocs : ∀ d ∈ docs, IsTimed d) (h : Change clock.now docs docs')
    : ∀ d ∈ docs', IsTimed d := by
  apply h.forall_mem _ _ hdocs
  . exact fun id fs _ _ => assemble_isTimed clock id fs
  . intro patch d d' hp hd hm
    obtain ⟨_, created, updated, updated', _, htimes, _⟩ := merge_isLater clock hp hd hm
    exact ⟨created, updated', htimes⟩

theorem isLater_of_isMerged {patch : Value} (hp : IsPatch patch) (hdocs : ∀ d ∈ docs, IsTimed d)
    (h : List.Forall₂ (IsMerged patch clock.now) docs docs') : List.Forall₂ IsLater docs docs' := by
  induction h with
  | nil => exact .nil
  | @cons doc doc' docs docs' hm _ ih =>
    have hdoc := hdocs doc (List.mem_cons_self ..)
    refine .cons ?_ (ih fun d hd => hdocs d (List.mem_cons_of_mem _ hd))
    cases hm with
    | inl hm =>
      rw [hm]
      exact hdoc.isLater
    | inr hm => exact merge_isLater clock hp hdoc hm

theorem Growth.isLater (hdocs : ∀ d ∈ docs, IsTimed d) (h : Growth clock.now docs docs')
    : ∃ old new, docs' = old ++ new ∧ List.Forall₂ IsLater docs old := by
  cases h with
  | @append new _ => exact ⟨docs, new, rfl, List.forall₂_same.mpr fun d hd => (hdocs d hd).isLater⟩
  | patch hp h => exact ⟨docs', [], (List.append_nil _).symm, isLater_of_isMerged hp hdocs h⟩

end Collection

def Request.keepsOpen : Request → Bool
  | .drop _ => false
  | .close => false
  | _ => true

def Request.Ages (q : Request) (docs docs' : List Fields) : Prop :=
  if q.deletes then docs'.Sublist docs
  else ∃ old new, docs' = old ++ new ∧ List.Forall₂ IsLater docs old

theorem Request.Changes.ages {q : Request} {clock : Clock} {docs docs' : List Fields}
    (hdocs : ∀ d ∈ docs, IsTimed d) (h : q.Changes clock.now docs docs') : q.Ages docs docs' := by
  unfold Request.Changes at h
  unfold Request.Ages
  split
  next hq =>
    rw [if_pos hq] at h
    exact h
  next hq =>
    rw [if_neg hq] at h
    exact h.isLater hdocs

namespace Engine

def Holds (e : Engine) (P : Fields → Prop) : Prop := ∀ i, ∀ d ∈ (e.store i).documents, P d

section

variable {e e₁ e' : Engine} {P : Fields → Prop} {clock : Clock} {q : Request}

theorem store_of_le {i : Nat} (h : e.opened.length ≤ i) : (e.store i).documents = [] := by
  unfold store
  rw [List.getElem?_eq_none h]
  rfl

theorem Opens.holds (ho : Opens e e₁) (he : e.Holds P)
    (hload : ∀ name docs ids ids', Collection.load e.disk name ids = (.ok docs, ids') →
      ∀ d ∈ docs, P d) : e₁.Holds P := by
  cases ho with
  | none ids => exact he
  | @load name docs _ _ ids absent h =>
    intro i
    by_cases hi : i < e.opened.length
    . rw [((Opens.load ids absent h).store hi).2]
      exact he i
    by_cases heq : i = e.opened.length
    . have hstore : ({ e with
          ids
          opened := e.opened ++ [⟨name, docs, {}⟩]
          cached :=
            e.cached ++ [(name, e.opened.length)] } : Engine).store i = ⟨name, docs, {}⟩ := by
        apply store_eq
        rw [heq]
        simp
      rw [hstore]
      exact hload _ _ _ _ h
    . rw [store_of_le]
      . simp
      . dsimp only
        rw [List.length_append]
        simp only [List.length_singleton]
        omega

theorem begin_holds {r : Except Error Start} (hb : begin q e = (r, e₁)) (he : e.Holds P)
    (hload : ∀ name docs ids ids', Collection.load e.disk name ids = (.ok docs, ids') →
      ∀ d ∈ docs, P d) : e₁.Holds P := by
  cases begin_hasBegun hb with
  | call h => exact h.opens.holds he hload
  | flush opens => exact opens.holds he hload
  | _ => exact he

theorem takeTurn_holds {i : Nat} {t : Turn} (ht : IsAwaited t)
    (hchange : ∀ docs docs', Change clock.now docs docs' → (∀ d ∈ docs, P d) → ∀ d ∈ docs', P d)
    (he : e.Holds P)
    : (takeTurn clock.now i t e).2.Holds P := by
  intro j
  by_cases hj : j < e.opened.length
  . exact hchange _ _ (takeTurn_change ht hj) (he j)
  . rw [store_of_le]
    . simp
    . rw [takeTurn_length]
      omega

theorem run_isTimed {r : Except Error Answer} (hrun : run clock.now q e = (r, e'))
    (he : e.Holds IsTimed)
    (hload : ∀ name docs ids ids', Collection.load e.disk name ids = (.ok docs, ids') →
      ∀ d ∈ docs, IsTimed d)
    : e'.Holds IsTimed := by
  rcases run_cases hrun with ⟨err, hb, _⟩ | ⟨a, hb, _⟩ | ⟨i, t, e₁, hb, _, rfl⟩
  . exact begin_holds hb he hload
  . exact begin_holds hb he hload
  . intro j
    rw [passed_documents]
    exact takeTurn_holds ⟨_, _, _, _, hb⟩ (fun _ _ h hdocs => h.isTimed hdocs)
      (begin_holds hb he hload) j

theorem begin_lookup {r : Except Error Start} (hq : q.keepsOpen = true) (hb : begin q e = (r, e₁))
    {name : String}
    {i : Nat} (h : e.cached.lookup name = some i) : e₁.cached.lookup name = some i := by
  cases begin_hasBegun hb with
  | call hc => exact hc.opens.lookup h
  | flush opens => exact opens.lookup h
  | list => exact h
  | _ => cases hq

theorem takeTurn_mutate_cached (i : Nat) (m : Mutation) (now : Moment)
    : (takeTurn now i (.mutate m) e).2.cached = e.cached := by
  obtain ⟨disk, hmemory⟩ := takeTurn_mutate_memory e now i m
  rw [hmemory]
  rfl

theorem waits_of_keepsOpen {i : Nat} {t : Turn} (hq : q.keepsOpen = true)
    (hb : begin q e = (.ok (.waits i t), e₁))
    : ∃ m, t = .mutate m := by
  cases begin_hasBegun hb with
  | call h =>
    obtain ⟨_, m, _, ht, _⟩ := h.waits _ _ rfl
    exact ⟨m, ht⟩
  | flush opens waits => exact ⟨.flush, (waits _ _ rfl).1⟩
  | _ => cases hq

theorem documentsOf_of_lookup {name : String} {i : Nat} (h : e.cached.lookup name = some i)
    : e.documentsOf name = (e.store i).documents := by
  unfold documentsOf
  rw [h]

theorem run_lookup {r : Except Error Answer} (hq : q.keepsOpen = true)
    (hrun : run clock.now q e = (r, e'))
    {name : String} {i : Nat} (h : e.cached.lookup name = some i)
    : e'.cached.lookup name = some i := by
  rcases run_cases hrun with ⟨err, hb, _⟩ | ⟨a, hb, _⟩ | ⟨j, t, e₁, hb, _, rfl⟩
  . exact begin_lookup hq hb h
  . exact begin_lookup hq hb h
  . obtain ⟨m, rfl⟩ := waits_of_keepsOpen hq hb
    change (takeTurn clock.now j (.mutate m) e₁).2.cached.lookup name = some i
    rw [takeTurn_mutate_cached]
    exact begin_lookup hq hb h

end

structure History.IsTimed (h : History) : Prop where
  kept : h.IsKept
  memory : h.engine.Holds Document.IsTimed
  files : ∀ name docs, h.written name = some docs → ∀ d ∈ docs, d.IsStored ∧ Document.IsTimed d

namespace History

variable {h : History}

theorem IsTimed.load (ht : h.IsTimed) (name : String) (docs : List Fields) (ids ids' : IdSupply)
    (hload : Collection.load h.engine.disk name ids = (.ok docs, ids'))
    : ∀ d ∈ docs, Document.IsTimed d := by
  have hfile := ht.kept.files name
  unfold Collection.load at hload
  cases hwritten : h.written name with
  | none =>
    rw [hwritten] at hfile
    change h.engine.disk.get? _ = none at hfile
    rw [hfile] at hload
    cases hload
    simp
  | some written =>
    rw [hwritten] at hfile
    obtain ⟨s, hs, hget⟩ := hfile
    change h.engine.disk.get? _ = _ at hget
    rw [hget] at hload
    have hdocs := ht.files name written hwritten
    have hkeeps := ofText_keepsTimes (fun d hd => (hdocs d hd).1) hs hload
    exact forall_isTimed_of_keepsTimes hkeeps fun d hd => (hdocs d hd).2

theorem documentsOf_forall_mem {e : Engine} {P : Fields → Prop} (he : e.Holds P) (name : String)
    : ∀ d ∈ e.documentsOf name, P d := by
  unfold documentsOf
  cases e.cached.lookup name with
  | none => simp
  | some i => exact he i

theorem IsTimed.answer (ht : h.IsTimed) {clock : Clock} {q : Request} {r : Except Error Answer}
    {e : Engine}
    (hrun : Engine.run clock.now q h.engine = (r, e)) : (h.answer q r e).IsTimed := by
  have hmemory := run_isTimed hrun ht.memory ht.load
  have hsound := ht.kept.sound.run hrun
  refine ⟨ht.kept.answer hrun, hmemory, ?_⟩
  intro name docs hdocs
  unfold History.answer at hdocs
  dsimp only at hdocs
  split at hdocs
  . cases hdocs
    intro d hd
    exact ⟨documentsOf_forall_mem hsound.documents name d hd,
      documentsOf_forall_mem hmemory name d hd⟩
  . split at hdocs
    . cases hdocs
    . exact ht.files name docs hdocs

theorem IsTimed.next (ht : h.IsTimed) (event : Event) : (h.next event).IsTimed := by
  cases event with
  | request clock q => exact ht.answer rfl
  | fail u t => exact ⟨ht.kept.next (.fail u t), ht.memory, ht.files⟩
  | supply ids => exact ⟨ht.kept.next (.supply ids), ht.memory, ht.files⟩
  | reopen =>
    refine ⟨ht.kept.next .reopen, ?_, ht.files⟩
    intro i
    rw [store_of_le (Nat.zero_le i)]
    simp

theorem IsTimed.run (ht : h.IsTimed) (events : List Event) : (h.run events).IsTimed := by
  induction events generalizing h with
  | nil => exact ht
  | cons event events ih => exact ih (ht.next event)

theorem start_isTimed (directory : String) (ids : IdSupply) : (start directory ids).IsTimed := by
  refine ⟨start_isKept directory ids, ?_, nofun⟩
  intro i
  rw [store_of_le (Nat.zero_le i)]
  simp

end History

structure TellsTimes (e : Engine) : Prop where
  memory : ∀ name, ∀ d ∈ e.documentsOf name, Document.IsTimed d
  files : ∀ name, ∃ docs, IsFileOf (e.file? name) docs ∧ ∀ ds, docs = some ds →
    ∀ d ∈ ds, Document.IsTimed d
  /-- What is read from a file has the times too. -/
  readings : ∀ name docs ids ids', Collection.load e.disk name ids = (.ok docs, ids') →
    ∀ d ∈ docs, Document.IsTimed d
  /-- A collection in use stays so, and its documents are there later. -/
  requests : ∀ (clock : Clock) (q : Request), q.keepsOpen = true →
    ∀ name i, e.cached.lookup name = some i →
    (run clock.now q e).2.cached.lookup name = some i
      ∧ q.Ages (e.documentsOf name) ((run clock.now q e).2.documentsOf name)

theorem History.IsTimed.tellsTimes {h : History} (ht : h.IsTimed) : h.engine.TellsTimes := by
  constructor
  . exact History.documentsOf_forall_mem ht.memory
  . intro name
    exact ⟨_, ht.kept.files name, fun docs hdocs d hd => (ht.files name docs hdocs d hd).2⟩
  . exact ht.load
  . intro clock q hq name i hi
    have hi' := run_lookup hq (Prod.eta (Engine.run clock.now q h.engine)).symm hi
    obtain ⟨hlt, _⟩ := ht.kept.sound.store_of_lookup hi
    refine ⟨hi', ?_⟩
    rw [documentsOf_of_lookup hi, documentsOf_of_lookup hi']
    exact (run_changes rfl hlt).ages (ht.memory i)

/--
After any run, every document in memory and in every file has its times, and so has every document
that a file is read as. A request other than one that ends the use of a collection keeps the
creation of each document that stays in memory, and does not turn back its last change.
-/
theorem history_timed (directory : String) (ids : IdSupply) (events : List Event)
    : ((History.start directory ids).run events).engine.TellsTimes :=
  ((History.start_isTimed directory ids).run events).tellsTimes

end Engine

end DocStore

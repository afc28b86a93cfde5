import DocStore.Proofs.Disk.Calm
import DocStore.Proofs.Engine.Run

/-!
This module contains the proof that the memory of an engine does not depend on what fails in its
directory: a request does to the memory what it does when nothing fails.
-/

namespace DocStore

open Work

namespace Engine

def calm (e : Engine) : Engine := { e with disk := e.disk.calm }

def Indifferent {α : Type} (x : Action α) : Prop := ∀ e, x e.calm = ((x e).1, (x e).2.calm)

theorem indifferent_pure {α : Type} (a : α) : Indifferent (pure a : Action α) := fun _ => rfl

theorem indifferent_lift {α : Type} (x : Except Error α) : Indifferent (liftM x : Action α) := by
  intro e
  cases x <;> rfl

theorem indifferent_bind {α β : Type} {x : Action α} {f : α → Action β} (hx : Indifferent x)
    (hf : ∀ a, Indifferent (f a)) : Indifferent (x >>= f) := by
  intro e
  have hxe := hx e
  rcases h : x e with ⟨r, e₁⟩
  rw [h] at hxe
  cases r with
  | ok a => rw [bind_ok hxe, bind_ok h, hf a e₁]
  | error err => rw [bind_error hxe, bind_error h]

theorem indifferent_ofDrawing {α : Type} (x : Drawing α) : Indifferent (ofDrawing x) := fun _ => rfl

theorem indifferent_collection (name : Value) : Indifferent (collection name) := by
  refine indifferent_bind (indifferent_lift _) ?_
  intro n e
  rw [get_bind, get_bind]
  have hcached : e.calm.cached.lookup n = e.cached.lookup n := rfl
  cases hlookup : e.cached.lookup n with
  | some i =>
    simp only [hcached, hlookup]
    rfl
  | none =>
    simp only [hcached, hlookup]
    have hdisk : Collection.load e.calm.disk n = Collection.load e.disk n := rfl
    rw [hdisk]
    refine indifferent_bind (indifferent_ofDrawing _) ?_ e
    exact fun _ _ => rfl

theorem indifferent_snapshot (name : Value) : Indifferent (snapshot name) :=
  indifferent_bind (indifferent_collection name) fun _ _ => rfl

theorem indifferent_mutation (name : Value) (m : Mutation) : Indifferent (mutation name m) :=
  indifferent_bind (indifferent_collection name) fun _ => indifferent_pure _

theorem indifferent_carryOut (name : Value) (p : Plan) : Indifferent (carryOut name p) := by
  cases p with
  | reads answer =>
    exact indifferent_bind (indifferent_snapshot name) fun _ =>
      indifferent_bind (indifferent_lift _) fun _ =>
      indifferent_pure _
  | mutates m => exact indifferent_mutation name m
  | inserts docs =>
    refine indifferent_bind (indifferent_collection name) fun i =>
      indifferent_bind (indifferent_lift _) fun given => ?_
    cases given with
    | nil => exact indifferent_pure _
    | cons doc given => exact indifferent_pure _

theorem indifferent_beginCall (c : Call) : Indifferent (beginCall c) := by
  rw [beginCall_eq]
  exact indifferent_bind (indifferent_ofDrawing _) (indifferent_carryOut _)

structure SameMemory (e e' : Engine) : Prop where
  ids : e'.ids = e.ids
  opened : e'.opened = e.opened
  cached : e'.cached = e.cached

theorem SameMemory.passed {e e' : Engine} (h : SameMemory e e') (i : Nat)
    : SameMemory (passed i e) (passed i e') := by
  refine ⟨h.ids, ?_, h.cached⟩
  unfold Engine.passed withSlot setStore
  dsimp only
  rw [h.opened]

/--
The answer tells that documents could not be stored, or that their file could not be written or
removed.
-/
inductive HasFailed : Except Error Answer → Prop where
  | unstorable {name cause path} : HasFailed (.error (.file (.unstorable name cause) path))
  | unwritten {name reason path} : HasFailed (.error (.file (.unwritten name reason) path))
  | unremoved {name reason path} : HasFailed (.error (.file (.unremoved name reason) path))

def SameAnswer (r r' : Except Error Answer) : Prop := HasFailed r ∨ r = r'

theorem save_calm (name : String) (docs : List Fields) (d : Disk) (a : Answer)
    : SameAnswer ((Collection.save name docs d).1.map fun _ => a)
      ((Collection.save name docs d.calm).1.map fun _ => a) := by
  unfold Collection.save
  split
  . exact .inr rfl
  . exact .inr rfl
  next s _ =>
    rcases h : Filing.replace (Collection.fileName name) s d with ⟨r, d'⟩
    cases r with
    | error reason => exact .inl .unwritten
    | ok u =>
      rw [Filing.isCalm_replace _ _ _ _ _ h]
      exact .inr rfl

theorem removal_calm (name : String) (d : Disk) (f : Bool → Answer)
    : SameAnswer ((removal name d).1.map f) ((removal name d.calm).1.map f) := by
  unfold removal
  rcases h : Filing.remove (Collection.fileName name) d with ⟨r, d'⟩
  cases r with
  | error reason => exact .inl .unremoved
  | ok existed =>
    rw [Filing.isCalm_remove _ _ _ _ h]
    exact .inr rfl

theorem takeTurn_calm (now : Moment) (i : Nat) (t : Turn) (e : Engine)
    : SameMemory (takeTurn now i t e).2 (takeTurn now i t e.calm).2
      ∧ SameAnswer (takeTurn now i t e).1 (takeTurn now i t e.calm).1 := by
  cases t with
  | mutate m =>
    have heffect : effectAt e.calm now i m = effectAt e now i m := rfl
    have hmemory : SameMemory (withEffect e now i m) (withEffect e.calm now i m) := ⟨rfl, rfl, rfl⟩
    cases h : (effectAt e now i m).outcome with
    | error err =>
      rw [takeTurn_mutate_error h, takeTurn_mutate_error (heffect ▸ h)]
      exact ⟨hmemory, .inr rfl⟩
    | ok p =>
      obtain ⟨a, writes⟩ := p
      cases writes with
      | false =>
        rw [takeTurn_mutate_unwritten h, takeTurn_mutate_unwritten (heffect ▸ h)]
        exact ⟨hmemory, .inr rfl⟩
      | true =>
        rw [takeTurn_mutate_written h rfl, takeTurn_mutate_written (heffect ▸ h) rfl]
        exact ⟨⟨rfl, rfl, rfl⟩, save_calm _ _ _ _⟩
  | removeFile =>
    rw [takeTurn_removeFile, takeTurn_removeFile]
    exact ⟨⟨rfl, rfl, rfl⟩, removal_calm _ _ _⟩
  | releaseAll => exact ⟨⟨rfl, rfl, rfl⟩, .inr rfl⟩

theorem run_calm (now : Moment) (q : Request) (e : Engine)
    : SameMemory (run now q e).2 (run now q e.calm).2 ∧
      SameAnswer (run now q e).1 (run now q e.calm).1 := by
  -- a request that begins alike waits for the same turn; only turns and the removal of a file
  -- of a collection that is not in use meet with failures
  have hbegun : ∀ start e₁, begin q e = (start, e₁) → begin q e.calm = (start, e₁.calm) →
      SameMemory (run now q e).2 (run now q e.calm).2 ∧
          SameAnswer (run now q e).1 (run now q e.calm).1 := by
    intro start e₁ hb hb'
    cases start with
    | error err =>
      rw [run_error hb, run_error hb']
      exact ⟨⟨rfl, rfl, rfl⟩, .inr rfl⟩
    | ok start =>
      cases start with
      | answered a =>
        rw [run_answered hb, run_answered hb']
        exact ⟨⟨rfl, rfl, rfl⟩, .inr rfl⟩
      | waits i t =>
        rw [run_waits hb, run_waits hb']
        obtain ⟨hmemory, hanswer⟩ := takeTurn_calm now i t e₁
        exact ⟨hmemory.passed i, hanswer⟩
  have hindifferent : Indifferent (begin q) →
      SameMemory (run now q e).2 (run now q e.calm).2 ∧
          SameAnswer (run now q e).1 (run now q e.calm).1 :=
    fun h => hbegun _ _ rfl (h e)
  cases q with
  | call c => exact hindifferent (indifferent_beginCall c)
  | flush name => exact hindifferent (indifferent_mutation name .flush)
  | drop name =>
    cases hname : checkName name with
    | error err => exact hbegun _ _ (begin_drop_refused hname) (begin_drop_refused hname)
    | ok n =>
      cases hlookup : e.cached.lookup n with
      | some i =>
        exact hbegun _ _ (begin_drop_opened hname hlookup) (begin_drop_opened hname hlookup)
      | none =>
        have hlookup' : e.calm.cached.lookup n = none := hlookup
        rw [run_drop_closed hname hlookup, run_drop_closed hname hlookup']
        exact ⟨⟨rfl, rfl, rfl⟩, removal_calm n e.disk .truth⟩
  | close =>
    refine hindifferent fun e => ?_
    rw [begin_close, begin_close]
    have hheld : (e.calm.cached.find? fun c => !(e.calm.store c.2).slot.isFree)
        = e.cached.find? fun c => !(e.store c.2).slot.isFree := rfl
    rw [hheld]
    cases e.cached.find? fun c => !(e.store c.2).slot.isFree with
    | some c => rfl
    | none => rfl
  | list => exact hindifferent fun _ => rfl

end Engine

end DocStore

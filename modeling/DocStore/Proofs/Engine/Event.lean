import DocStore.Proofs.Engine.Reachable

/-!
This module contains the runs of an engine on a directory that nobody else changes: requests one
after another, failures of the file system in between, and new engines on the same directory.
-/

namespace DocStore

inductive Event where
  | request (clock : Clock) (q : Request)
  | fail (u : FileUse) (t : Trouble)
  | supply (ids : IdSupply)
  | reopen

namespace Engine

def reopen (e : Engine) : Engine := { disk := e.disk, ids := e.ids }

def after (e : Engine) : Event → Engine
  | .request clock q => (run clock.now q e).2
  | .fail u t => { e with disk := e.disk.trouble u t }
  | .supply ids => { e with ids }
  | .reopen => e.reopen

def documentsOf (e : Engine) (name : String) : List Fields :=
  match e.cached.lookup name with
  | some i => (e.store i).documents
  | none => []

def file? (e : Engine) (name : String) : Option Entry :=
  e.disk.get? (.given (Collection.fileName name))

theorem Sound.steps {e e' : Engine} (h : e.Sound) (hs : Steps e e') : e'.Sound := by
  induction hs with
  | refl => exact h
  | tail _ hs ih => exact ih.step hs

theorem Sound.run {e e' : Engine} (h : e.Sound) {clock : Clock} {q : Request}
    {r : Except Error Answer}
    (hrun : run clock.now q e = (r, e')) : e'.Sound := by
  have hs := run_steps clock q e
  rw [hrun] at hs
  exact h.steps hs

theorem Sound.after {e : Engine} (h : e.Sound) (event : Event) : (e.after event).Sound := by
  cases event with
  | request clock q => exact h.run rfl
  | fail u t => exact h.congr rfl (.refl _)
  | supply ids => exact h.congr rfl (.refl _)
  | reopen => exact ⟨by simp [Engine.after, reopen], by simp [Engine.after, reopen]⟩

theorem sound_onEmpty (directory : String) (ids : IdSupply)
    : ({ onEmpty directory with ids }).Sound :=
  ⟨by simp [onEmpty], by simp [onEmpty]⟩

end Engine

end DocStore

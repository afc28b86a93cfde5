import DocStore.Proofs.Engine.Durable

/-!
This module contains the proof that an engine is durable: however often the file system fails, the
file of a collection is the text of the documents that the collection had when it was written for
the last time.
-/

namespace DocStore

namespace Engine

structure History where
  engine : Engine
  /--
  The documents that a collection had when its file was written last, if the file was not removed
  since.
  -/
  written : String → Option (List Fields) := fun _ => none
  uncleared : List Nat := []

namespace History

def start (directory : String) (ids : IdSupply) : History :=
  { engine := { onEmpty directory with ids } }

def answer (h : History) (q : Request) (r : Except Error Answer) (e : Engine) : History where
  engine := e
  written name :=
    if q.written? r = some name then some (e.documentsOf name)
    else if q.removed? r = some name then none
    else h.written name
  uncleared :=
    if e.disk.made ≠ h.engine.disk.made ∧ e.disk.removals ≠ h.engine.disk.removals then
      h.engine.disk.made :: h.uncleared
    else h.uncleared

def next (h : History) : Event → History
  | .request clock q =>
  h.answer q (Engine.run clock.now q h.engine).1 (Engine.run clock.now q h.engine).2
  | .fail u t => { h with engine := h.engine.after (.fail u t) }
  | .supply ids => { h with engine := h.engine.after (.supply ids) }
  | .reopen => { h with engine := h.engine.after .reopen }

def run (h : History) (events : List Event) : History := events.foldl next h

structure IsKept (h : History) : Prop where
  sound : h.engine.Sound
  files : ∀ name, IsFileOf (h.engine.file? name) (h.written name)
  temporaries : ∀ base n, (h.engine.disk.get? (.temporary base n)).isSome → n ∈ h.uncleared

theorem start_isKept (directory : String) (ids : IdSupply) : (start directory ids).IsKept := by
  refine ⟨sound_onEmpty directory ids, fun _ => rfl, ?_⟩
  intro base n hn
  cases hn

theorem IsKept.answer {h : History} (hk : h.IsKept) {clock : Clock} {q : Request}
    {r : Except Error Answer}
    {e : Engine} (hrun : Engine.run clock.now q h.engine = (r, e)) : (h.answer q r e).IsKept := by
  have hstep := run_fileStep hk.sound hrun
  constructor
  . exact hk.sound.run hrun
  . intro name
    unfold History.answer
    dsimp only
    split
    next hw => exact hstep.written name hw
    next hw =>
      split
      next hr => exact hstep.removed name hr
      next hr =>
        rw [hstep.kept name hw hr]
        exact hk.files name
  . intro base n hn
    unfold History.answer
    dsimp only
    cases hstep.temporaries base n hn with
    | inl hold =>
      have hmem := hk.temporaries base n hold
      split
      . exact List.mem_cons_of_mem _ hmem
      . exact hmem
    | inr hnew =>
      obtain ⟨rfl, hmade, hremovals⟩ := hnew
      rw [if_pos ⟨hmade, hremovals⟩]
      exact List.mem_cons_self ..

theorem IsKept.next {h : History} (hk : h.IsKept) (event : Event) : (h.next event).IsKept := by
  cases event with
  | request clock q => exact hk.answer rfl
  | fail u t => exact ⟨hk.sound.after (.fail u t), hk.files, hk.temporaries⟩
  | supply ids => exact ⟨hk.sound.after (.supply ids), hk.files, hk.temporaries⟩
  | reopen => exact ⟨hk.sound.after .reopen, hk.files, hk.temporaries⟩

theorem IsKept.run {h : History} (hk : h.IsKept) (events : List Event) : (h.run events).IsKept := by
  induction events generalizing h with
  | nil => exact hk
  | cons event events ih => exact ih (hk.next event)

end History

structure IsDurable (e : Engine) (clock : Clock) (q : Request) : Prop where
  /-- What was written is what is in memory. -/
  current : ∀ name, q.written? (run clock.now q e).1 = some name →
    IsFileOf ((run clock.now q e).2.file? name) (some ((run clock.now q e).2.documentsOf name))
  /-- A request that raises an error leaves the files as they are. -/
  unchanged : ∀ err, (run clock.now q e).1 = .error err →
    ∀ name, (run clock.now q e).2.file? name = e.file? name
  /-- The memory is what it is when nothing fails. -/
  memory : SameMemory (run clock.now q e).2 (run clock.now q e.calm).2
  /-- The answer is what it is when nothing fails, or else the error of a file. -/
  answer : SameAnswer (run clock.now q e).1 (run clock.now q e.calm).1

theorem Sound.isDurable {e : Engine} (he : e.Sound) (clock : Clock) (q : Request)
    : IsDurable e clock q := by
  rcases hrun : Engine.run clock.now q e with ⟨r, e'⟩
  have hstep := run_fileStep he hrun
  obtain ⟨hmemory, hanswer⟩ := run_calm clock.now q e
  refine ⟨?_, ?_, hmemory, hanswer⟩
  . rw [hrun]
    exact hstep.written
  . rw [hrun]
    intro err herr name
    dsimp only at herr
    rw [herr] at hstep
    apply hstep.kept
    . rw [q.written?_error]
      nofun
    . rw [q.removed?_error]
      nofun

/--
After any run, the file of every collection is the text of the documents that the collection had
when it was written last, and there is no temporary file but those that could not be removed.
-/
theorem history_durable (directory : String) (ids : IdSupply) (events : List Event)
    : let h := (History.start directory ids).run events
      (∀ name, IsFileOf (h.engine.file? name) (h.written name))
        ∧ (∀ base n, (h.engine.disk.get? (.temporary base n)).isSome → n ∈ h.uncleared)
        ∧ ∀ clock q, IsDurable h.engine clock q := by
  have hk := (History.start_isKept directory ids).run events
  exact ⟨hk.files, hk.temporaries, hk.sound.isDurable⟩

end Engine

end DocStore

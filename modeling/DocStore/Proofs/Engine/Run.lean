import DocStore.Proofs.Engine.Turn

/-!
This module contains what becomes of a request for which nobody waits: it begins, and takes its turn
with the collection as it is; its ticket leaves no trace but in the numbers of the slot.
-/

namespace DocStore

open Work

namespace Slot

def passed (s : Slot) : Slot :=
  match s.draw.2.release with
  | .ok slot => slot
  | .error _ => s.draw.2

theorem passed_pending (s : Slot) : s.passed.pending = s.pending := by
  unfold passed release draw pending
  dsimp only
  split
  next h =>
    split at h
    . cases h
    . cases h
      dsimp only
      omega
  next h =>
    split at h
    . dsimp only
      omega
    . cases h

end Slot

namespace Engine

def passed (i : Nat) (e : Engine) : Engine := withSlot i Slot.passed e

theorem release_enqueue (i : Nat) (e : Engine) : release i (enqueue i e).2 = passed i e := by
  rw [enqueue_eq]
  unfold release passed withSlot setStore
  dsimp only
  rw [List.modify_modify_eq]
  rfl

theorem serve_enqueue (now : Moment) (i : Nat) (t : Turn) (e : Engine)
    : serve now i t (enqueue i e).2 =
      ((takeTurn now i t e).1, passed i (takeTurn now i t e).2) := by
  unfold serve
  rw [enqueue_eq, takeTurn_withSlot]
  dsimp only
  rw [← release_enqueue]
  rfl

theorem run_error {now : Moment} {q : Request} {e e₁ : Engine} {err : Error}
    (h : begin q e = (.error err, e₁))
    : run now q e = (.error err, e₁) := bind_error h

theorem run_answered {now : Moment} {q : Request} {e e₁ : Engine} {a : Answer}
    (h : begin q e = (.ok (.answered a), e₁)) : run now q e = (.ok a, e₁) := bind_ok h

theorem run_waits {now : Moment} {q : Request} {e e₁ : Engine} {i : Nat} {t : Turn}
    (h : begin q e = (.ok (.waits i t), e₁))
    : run now q e = ((takeTurn now i t e₁).1, passed i (takeTurn now i t e₁).2) := by
  unfold run
  rw [bind_ok h]
  dsimp only
  rw [bind_ok (enqueue_eq i e₁), ← serve_enqueue]
  rfl

theorem run_drop_closed {now : Moment} {name : Value} {n : String} {e : Engine}
    (h : checkName name = .ok n) (hi : e.cached.lookup n = none)
    : run now (.drop name) e =
      ((removal n e.disk).1.map .truth, { e with disk := (removal n e.disk).2 }) := by
  have hb := begin_drop_closed h hi
  cases hr : (removal n e.disk).1 with
  | error err =>
    rw [hr] at hb
    rw [run_error hb]
    rfl
  | ok existed =>
    rw [hr] at hb
    rw [run_answered hb]
    rfl

theorem run_cases {now : Moment} {q : Request} {e e' : Engine} {r : Except Error Answer}
    (h : run now q e = (r, e'))
    : (∃ err, begin q e = (.error err, e') ∧ r = .error err)
      ∨ (∃ a, begin q e = (.ok (.answered a), e') ∧ r = .ok a)
      ∨ ∃ i t e₁, begin q e = (.ok (.waits i t), e₁) ∧ r = (takeTurn now i t e₁).1
        ∧ e' = passed i (takeTurn now i t e₁).2 := by
  rcases hb : begin q e with ⟨start, e₁⟩
  cases start with
  | error err =>
    rw [run_error hb] at h
    cases h
    exact .inl ⟨err, rfl, rfl⟩
  | ok start =>
    cases start with
    | answered a =>
      rw [run_answered hb] at h
      cases h
      exact .inr (.inl ⟨a, rfl, rfl⟩)
    | waits i t =>
      rw [run_waits hb] at h
      cases h
      exact .inr (.inr ⟨i, t, e₁, rfl, rfl, rfl⟩)

theorem passed_name (i j : Nat) (e : Engine) : ((passed i e).store j).name = (e.store j).name :=
  withSlot_name i j Slot.passed e

theorem passed_documents (i j : Nat) (e : Engine)
    : ((passed i e).store j).documents = (e.store j).documents :=
  withSlot_documents i j Slot.passed e

theorem passed_pending (i j : Nat) (e : Engine)
    : ((passed i e).store j).slot.pending = (e.store j).slot.pending := by
  unfold passed withSlot store
  rw [getElem?_setStore]
  cases e.opened[j]? with
  | none => split <;> rfl
  | some s =>
    split
    . exact Slot.passed_pending s.slot
    . rfl

theorem passed_length (i : Nat) (e : Engine) : (passed i e).opened.length = e.opened.length :=
  List.length_modify ..

end Engine

end DocStore

import Mathlib.Algebra.Order.BigOperators.Group.Finset
import DocStore.Proofs.Crowd.Queue

/-!
This module contains the proof that callers at the slot of a collection can always go on until all
of them have got their answers.
-/

namespace DocStore

def Stage.left : Stage → Nat
  | .ready _ _ => 5
  | .queued _ _ _ => 4
  | .entered _ _ _ => 3
  | .changed _ _ _ => 2
  | .served _ _ _ => 1
  | _ => 0

namespace Stage

theorem left_turned (i k : Nat) (r : Except Error (Answer × Bool)) : (turned i k r).left < 3 := by
  unfold turned
  split <;> simp [left]

theorem turned_ne_called (i k : Nat) (r : Except Error (Answer × Bool))
    : turned i k r ≠ .called := by
  intro h
  have hticket := ticket?_turned i k r
  rw [h] at hticket
  cases hticket

theorem begun_ne_called (r : Except Error Start) : begun r ≠ .called := by
  unfold begun
  split <;> nofun

end Stage

namespace Crowd

variable {ι : Type} [DecidableEq ι] {callers : ι → Caller}

theorem advance_stage_ne (x : Crowd ι) {c d : ι} (h : d ≠ c)
    : (advance callers x c).stage d = x.stage d := by
  unfold advance
  split
  case h_3 =>
    split
    . exact stage_go_ne h ..
    . rfl
  case h_8 => rfl
  all_goals exact Function.update_of_ne h ..

theorem forall_stage_advance {x : Crowd ι} {c : ι} {P : ι → Stage → Prop}
    (hc : P c ((advance callers x c).stage c))
    (h : ∀ d, d ≠ c → P d (x.stage d)) (d : ι) : P d ((advance callers x c).stage d) := by
  by_cases hdc : d = c
  . rw [hdc]
    exact hc
  . rw [advance_stage_ne x hdc]
    exact h d hdc

theorem advance_stage_ne_called (x : Crowd ι) (c : ι)
    : (advance callers x c).stage c ≠ .called := by
  cases hc : x.stage c with
  | called =>
    rw [advance_called hc rfl, stage_go_self]
    exact Stage.begun_ne_called _
  | ready i t =>
    rw [advance_ready hc]
    dsimp only
    rw [stage_go_self]
    nofun
  | queued i t k =>
    rw [advance_queued hc]
    split
    . rw [stage_go_self]
      nofun
    . rw [hc]
      nofun
  | entered i t k =>
    cases t with
    | mutate m =>
      rw [advance_entered_mutate hc, stage_go_self]
      exact Stage.turned_ne_called _ _ _
    | _ =>
      rw [advance_entered hc nofun, stage_go_self]
      nofun
  | changed i k a =>
    rw [advance_changed hc rfl, stage_go_self]
    nofun
  | served i k r =>
    rw [advance_served hc, stage_go_self]
    nofun
  | done r =>
    rw [advance_done hc, hc]
    nofun

theorem run_stage_eq_called (x : Crowd ι) (schedule : List ι) (c : ι)
    : (run callers x schedule).stage c = .called ↔ x.stage c = .called ∧ c ∉ schedule := by
  induction schedule generalizing x with
  | nil => simp [run]
  | cons d schedule ih =>
    change (run callers (advance callers x d) schedule).stage c = .called ↔ _
    rw [ih]
    by_cases hcd : c = d
    . rw [hcd]
      simp [advance_stage_ne_called]
    . rw [advance_stage_ne x hcd]
      simp [hcd]

theorem advance_left {x : Crowd ι} {c : ι} (hrest : (x.stage c).isAtRest = false)
    (hadmits : ∀ i t k, x.stage c = .queued i t k → (x.engine.store i).slot.admits k = true)
    : ((advance callers x c).stage c).left < (x.stage c).left := by
  cases hc : x.stage c with
  | called =>
    rw [hc] at hrest
    cases hrest
  | ready i t =>
    rw [advance_ready hc]
    dsimp only
    rw [stage_go_self]
    exact Nat.lt_succ_self 4
  | queued i t k =>
    rw [advance_queued hc, if_pos (hadmits i t k hc), stage_go_self]
    exact Nat.lt_succ_self 3
  | entered i t k =>
    cases t with
    | mutate m =>
      rw [advance_entered_mutate hc, stage_go_self]
      exact Stage.left_turned ..
    | _ =>
      rw [advance_entered hc nofun, stage_go_self]
      exact (by decide : 1 < 3)
  | changed i k a =>
    rw [advance_changed hc rfl, stage_go_self]
    exact Nat.lt_succ_self 1
  | served i k r =>
    rw [advance_served hc, stage_go_self]
    exact Nat.lt_succ_self 0
  | done r =>
    rw [hc] at hrest
    cases hrest

namespace Queue

variable {i first : Nat} {x : Crowd ι}

theorem exists_rest (h : Queue i first x) (s : Finset ι)
    (hs : ∀ c, (x.stage c).isAtRest = false → c ∈ s)
    : ∃ more, ∀ c, ((run callers x more).stage c).isAtRest = true := by
  -- each step takes one from what is left in all
  induction hleft : ∑ c ∈ s, (x.stage c).left using Nat.strong_induction_on generalizing x with
  | h total ih =>
    by_cases hrest : ∀ c, (x.stage c).isAtRest = true
    . exact ⟨[], hrest⟩
    . obtain ⟨c, hc⟩ := Classical.not_forall.mp hrest
      obtain ⟨d, hd, hadmits⟩ := h.exists_movable (Bool.eq_false_iff.mpr hc)
      have hcalled : x.stage d ≠ .called := by
        intro hcalled
        rw [hcalled] at hd
        cases hd
      have hless : ∑ c ∈ s, ((Crowd.advance callers x d).stage c).left < total := by
        rw [← hleft]
        apply Finset.sum_lt_sum
        . intro c _
          exact forall_stage_advance (P := fun c st => st.left ≤ (x.stage c).left)
            (Nat.le_of_lt (advance_left hd hadmits)) (fun _ _ => Nat.le_refl _) c
        . exact ⟨d, hs d hd, advance_left hd hadmits⟩
      have hmembers : ∀ c, ((Crowd.advance callers x d).stage c).isAtRest = false → c ∈ s :=
        forall_stage_advance (P := fun c st => st.isAtRest = false → c ∈ s) (fun _ => hs d hd)
          (fun c _ => hs c)
      obtain ⟨more, hmore⟩ :=
        ih _ hless (h.advance (fun _ _ _ hd => absurd hd hcalled)) hmembers rfl
      exact ⟨d :: more, hmore⟩

end Queue

end Crowd

end DocStore

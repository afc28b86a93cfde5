import Mathlib.Data.List.Nodup
import DocStore.Proofs.Slot.Monitor

/-!
This module contains the proof that a slot is safe in all states that threads can reach, however
many there are and however their steps interleave: one thread holds it at a time, in the order of
the tickets, and no thread that could go on is left asleep.
-/

namespace DocStore

namespace Point

theorem ticket?_isSome (p : Point) : p.ticket?.isSome = (p.isHolding || p.isWaiting) := by
  cases p <;> rfl

theorem ticket?_eq_none {p : Point} (hholding : p.isHolding = false)
    (hwaiting : p.isWaiting = false)
    : p.ticket? = none := by
  rw [← Option.not_isSome_iff_eq_none, ticket?_isSome, hholding, hwaiting]
  decide

end Point

namespace Monitor

variable {ι : Type}

structure IsSafe (s : Monitor ι) : Prop where
  order : s.slot.serving ≤ s.slot.drawn
  exclusive : ∀ i j, (s.point i).isHolding = true → (s.point j).isHolding = true → i = j
  served : ∀ i, (s.point i).isHolding = true → (s.point i).ticket? = some s.slot.serving
  /-- Threads are admitted in the order in which they drew their tickets. -/
  fifo : s.entered <+: s.drew
  /-- Those who hold the slot or wait for it are as many as are told. -/
  pending : ∃ queue : List ι, queue.Nodup
    ∧ (∀ i, i ∈ queue ↔ (s.point i).isHolding = true ∨ (s.point i).isWaiting = true)
    ∧ s.slot.pending = queue.length
  /--
  If threads wait and none holds the slot, the one to be served is awake, or is about to be woken.
  -/
  notified : (∀ i, (s.point i).isHolding = false) → (∃ i, (s.point i).isWaiting = true) →
    ∃ i, (s.point i).ticket? = some s.slot.serving
      ∧ ∀ k, s.point i = .asleep k → ∃ j, s.owner = some j ∧ s.point j = .notifying
  /-- To give back a slot that nobody holds or waits for is refused, and changes nothing. -/
  refused : (∀ i, (s.point i).isHolding = false ∧ (s.point i).isWaiting = false) →
    s.slot.release = .error .notHeld ∧ s.stray = s

namespace Inv

variable {s : Monitor ι}

theorem mem_queue (h : Inv s) (i : ι)
    : i ∈ s.drew.drop s.slot.serving ↔ (s.point i).ticket?.isSome = true := by
  constructor
  . intro hi
    obtain ⟨n, hn⟩ := List.mem_iff_getElem?.mp hi
    rw [List.getElem?_drop] at hn
    have hlt : s.slot.serving + n < s.slot.drawn := by
      rw [← h.length]
      exact (List.getElem?_eq_some_iff.mp hn).1
    obtain ⟨j, hj⟩ := h.queued (s.slot.serving + n) (Nat.le_add_right ..) hlt
    rw [(h.ticket j _ hj).2] at hn
    cases hn
    rw [hj]
    rfl
  . intro hi
    obtain ⟨k, hk⟩ := Option.isSome_iff_exists.mp hi
    obtain ⟨hle, hdrew⟩ := h.ticket i k hk
    rw [List.mem_iff_getElem?]
    refine ⟨k - s.slot.serving, ?_⟩
    rw [List.getElem?_drop, Nat.add_sub_cancel' hle, hdrew]

theorem nodup_queue (h : Inv s) : (s.drew.drop s.slot.serving).Nodup := by
  rw [List.nodup_iff_getElem?_ne_getElem?]
  intro m n hmn hn heq
  rw [List.length_drop, h.length] at hn
  rw [List.getElem?_drop, List.getElem?_drop] at heq
  obtain ⟨i, hi⟩ := h.queued (s.slot.serving + m) (Nat.le_add_right ..) (by omega)
  obtain ⟨j, hj⟩ := h.queued (s.slot.serving + n) (Nat.le_add_right ..) (by omega)
  rw [(h.ticket i _ hi).2, (h.ticket j _ hj).2] at heq
  cases heq
  rw [hi] at hj
  have hsum := Option.some.inj hj
  omega

theorem isSafe (h : Inv s) : IsSafe s where
  order := h.order
  exclusive i j hi hj := h.holding_inj hi hj
  served := h.served
  fifo := h.fifo
  pending := by
    refine ⟨s.drew.drop s.slot.serving, h.nodup_queue, ?_, ?_⟩
    . intro i
      rw [h.mem_queue, Point.ticket?_isSome, Bool.or_eq_true]
    . rw [List.length_drop, h.length]
      rfl
  notified := by
    intro _ hwaiting
    obtain ⟨i, hi⟩ := hwaiting
    have hsome : (s.point i).ticket?.isSome = true := by
      rw [Point.ticket?_isSome, hi, Bool.or_true]
    obtain ⟨k, hk⟩ := Option.isSome_iff_exists.mp hsome
    obtain ⟨j, hj⟩ :=
      h.queued s.slot.serving (Nat.le_refl _)
        (Nat.lt_of_le_of_lt (h.ticket i k hk).1 (h.lt_drawn hk))
    refine ⟨j, hj, ?_⟩
    intro k' hasleep
    apply h.awake j
    rw [hasleep] at hj ⊢
    cases hj
    rfl
  refused := by
    intro hall
    have hnone : ∀ i, (s.point i).ticket? = none :=
      fun i => Point.ticket?_eq_none (hall i).1 (hall i).2
    exact ⟨h.release_unheld hnone, h.stray_unheld hnone⟩

end Inv

/-- A slot is safe in all states that threads can reach. -/
theorem reachable_isSafe [DecidableEq ι] {s : Monitor ι} (h : Reachable s) : IsSafe s :=
  h.inv.isSafe

theorem exists_queuedPair
    : ∃ s : Monitor Bool, Reachable s ∧ s.point false = .holding 0 ∧ s.point true = .asleep 1 := by
  have h₁ := Reachable.start.step (.arrive (i := false) rfl)
  have h₂ := (h₁.step (.enter (i := false) rfl rfl)).step (.read (i := false) rfl)
  have h₃ := (h₂.step (.draw (i := false) rfl)).step (.pass (i := false) rfl rfl)
  have h₄ := (h₃.step (.acquired (i := false) rfl)).step (.arrive (i := true) rfl)
  have h₅ := (h₄.step (.enter (i := true) rfl rfl)).step (.read (i := true) rfl)
  have h₆ := (h₅.step (.draw (i := true) rfl)).step (.sleep (i := true) rfl rfl)
  exact ⟨_, h₆, rfl, rfl⟩

theorem reachable_isSafe_queuedPair
    : ∃ s : Monitor Bool, (Reachable s ∧ s.point false = .holding 0 ∧ s.point true = .asleep 1) ∧
      IsSafe s := by
  obtain ⟨s, hs, hpoints⟩ := exists_queuedPair
  exact ⟨s, ⟨hs, hpoints⟩, reachable_isSafe hs⟩

end Monitor

end DocStore

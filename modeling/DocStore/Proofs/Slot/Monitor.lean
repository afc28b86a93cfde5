import Mathlib.Logic.Function.Basic
import DocStore.Engine.Slot

/-!
This module contains the threads at a slot, step by step: a thread takes the lock, draws its ticket,
sleeps until its ticket is served, and gives the slot back under the lock. Threads are woken by
those that give the slot back, or for no reason, and take the lock in any order.
-/

namespace DocStore

inductive Point where
  | idle
  | arriving
  | reading
  | drawing (ticket : Nat)
  | checking (ticket : Nat)
  | asleep (ticket : Nat)
  | woken (ticket : Nat)
  | admitted (ticket : Nat)
  | holding (ticket : Nat)
  | returning (ticket : Nat)
  | releasing (ticket : Nat)
  | advancing (ticket : Nat)
  | notifying
  | leaving
  deriving DecidableEq, Repr

namespace Point

def ticket? : Point → Option Nat
  | .checking k => some k
  | .asleep k => some k
  | .woken k => some k
  | .admitted k => some k
  | .holding k => some k
  | .returning k => some k
  | .releasing k => some k
  | .advancing k => some k
  | _ => none

def isHolding : Point → Bool
  | .admitted _ => true
  | .holding _ => true
  | .returning _ => true
  | .releasing _ => true
  | .advancing _ => true
  | _ => false

def isWaiting : Point → Bool
  | .checking _ => true
  | .asleep _ => true
  | .woken _ => true
  | _ => false

def isInside : Point → Bool
  | .reading => true
  | .drawing _ => true
  | .checking _ => true
  | .admitted _ => true
  | .releasing _ => true
  | .advancing _ => true
  | .notifying => true
  | .leaving => true
  | _ => false

def notified : Point → Point
  | .asleep k => .woken k
  | p => p

theorem ticket?_notified (p : Point) : p.notified.ticket? = p.ticket? := by
  cases p <;> rfl

theorem isHolding_notified (p : Point) : p.notified.isHolding = p.isHolding := by
  cases p <;> rfl

theorem isInside_notified (p : Point) : p.notified.isInside = p.isInside := by
  cases p <;> rfl

theorem notified_ne_asleep (p : Point) (k : Nat) : p.notified ≠ .asleep k := by
  cases p <;> nofun

theorem notified_eq_drawing {p : Point} {k : Nat} (h : p.notified = .drawing k)
    : p = .drawing k := by
  cases p <;> cases h
  rfl

end Point

structure Monitor (ι : Type) where
  slot : Slot := {}
  owner : Option ι := none
  point : ι → Point := fun _ => .idle
  drew : List ι := []
  entered : List ι := []

namespace Monitor

variable {ι : Type}

section

variable [DecidableEq ι]

def move (s : Monitor ι) (i : ι) (p : Point) : Monitor ι :=
  { s with point := Function.update s.point i p }

def stray (s : Monitor ι) : Monitor ι :=
  { s with slot := match s.slot.release with | .ok slot => slot | .error _ => s.slot }

/--
A step of a thread. No thread gives back a slot that it does not hold, unless nobody holds it or
waits.
-/
inductive Step (s : Monitor ι) : Monitor ι → Prop where
  | arrive {i} (h : s.point i = .idle) : Step s (s.move i .arriving)
  | enter {i} (h : s.point i = .arriving) (free : s.owner = none) :
      Step s { s.move i .reading with owner := some i }
  | read {i} (h : s.point i = .reading) : Step s (s.move i (.drawing s.slot.draw.1))
  | draw {i k} (h : s.point i = .drawing k) :
      Step s { s.move i (.checking k) with slot := s.slot.draw.2, drew := s.drew ++ [i] }
  | pass {i k} (h : s.point i = .checking k) (served : s.slot.admits k = true) :
      Step s { s.move i (.admitted k) with entered := s.entered ++ [i] }
  | sleep {i k} (h : s.point i = .checking k) (unserved : s.slot.admits k = false) :
      Step s { s.move i (.asleep k) with owner := none }
  | wake {i k} (h : s.point i = .asleep k) : Step s (s.move i (.woken k))
  | resume {i k} (h : s.point i = .woken k) (free : s.owner = none) :
      Step s { s.move i (.checking k) with owner := some i }
  | acquired {i k} (h : s.point i = .admitted k) : Step s
      { s.move i (.holding k) with owner := none }
  | giveBack {i k} (h : s.point i = .holding k) : Step s (s.move i (.returning k))
  | reenter {i k} (h : s.point i = .returning k) (free : s.owner = none) :
      Step s { s.move i (.releasing k) with owner := some i }
  | check {i k slot} (h : s.point i = .releasing k) (hr : s.slot.release = .ok slot) :
      Step s (s.move i (.advancing k))
  | refuse {i k kind} (h : s.point i = .releasing k) (hr : s.slot.release = .error kind) :
      Step s (s.move i .leaving)
  | advance {i k slot} (h : s.point i = .advancing k) (hr : s.slot.release = .ok slot) :
      Step s { s.move i .notifying with slot }
  | notify {i} (h : s.point i = .notifying) :
      Step s { s with point := Function.update (fun j => (s.point j).notified) i .leaving }
  | leave {i} (h : s.point i = .leaving) : Step s { s.move i .idle with owner := none }
  | stray {i} (h : s.point i = .idle) (free : s.owner = none)
      (unheld : ∀ j, (s.point j).ticket? = none) : Step s s.stray

inductive Reachable : Monitor ι → Prop where
  | start : Reachable {}
  | step {s s'} (h : Reachable s) (hs : Step s s') : Reachable s'

end

structure Inv (s : Monitor ι) : Prop where
  inside : ∀ i, (s.point i).isInside = true ↔ s.owner = some i
  order : s.slot.serving ≤ s.slot.drawn
  length : s.drew.length = s.slot.drawn
  ticket : ∀ i k, (s.point i).ticket? = some k → s.slot.serving ≤ k ∧ s.drew[k]? = some i
  queued : ∀ k, s.slot.serving ≤ k → k < s.slot.drawn → ∃ i, (s.point i).ticket? = some k
  served : ∀ i, (s.point i).isHolding = true → (s.point i).ticket? = some s.slot.serving
  read : ∀ i k, s.point i = .drawing k → k = s.slot.drawn
  awake : ∀ i, s.point i = .asleep s.slot.serving → ∃ j, s.owner = some j ∧ s.point j = .notifying
  fifo : s.entered <+: s.drew
  held : ∀ i, (s.point i).isHolding = true → s.entered.length = s.slot.serving + 1
  unheld : (∀ i, (s.point i).isHolding = false) → s.entered.length = s.slot.serving

theorem point_move_self [DecidableEq ι]
    (s : Monitor ι) (i : ι) (p : Point) : (s.move i p).point i = p :=
  Function.update_self ..

theorem point_move_ne [DecidableEq ι] (s : Monitor ι) {i j : ι} (h : j ≠ i) (p : Point)
    : (s.move i p).point j = s.point j :=
  Function.update_of_ne h ..

theorem forall_point_move [DecidableEq ι] {s : Monitor ι} {i : ι} {p : Point} {P : ι → Point → Prop}
    (hi : P i p)
    (h : ∀ j, j ≠ i → P j (s.point j)) : ∀ j, P j ((s.move i p).point j) :=
  (Function.forall_update_iff s.point P).mpr ⟨hi, h⟩

theorem inv_start : Inv ({} : Monitor ι) := by
  constructor <;> simp [Point.isInside, Point.ticket?, Point.isHolding]

namespace Inv

variable {s : Monitor ι} {i : ι}

theorem lt_drawn (h : Inv s) {k : Nat} (hk : (s.point i).ticket? = some k) : k < s.slot.drawn := by
  obtain ⟨hlt, _⟩ := List.getElem?_eq_some_iff.mp (h.ticket i k hk).2
  rw [← h.length]
  exact hlt

theorem ticket_inj (h : Inv s) {j : ι} {k : Nat} (hi : (s.point i).ticket? = some k)
    (hj : (s.point j).ticket? = some k) : i = j := by
  have hi := (h.ticket i k hi).2
  rw [(h.ticket j k hj).2] at hi
  exact (Option.some.inj hi).symm

theorem holding_inj (h : Inv s) {j : ι} (hi : (s.point i).isHolding = true)
    (hj : (s.point j).isHolding = true)
    : i = j := h.ticket_inj (h.served i hi) (h.served j hj)

theorem not_asleep (h : Inv s) (hinside : (s.point i).isInside = true)
    (hnotify : s.point i ≠ .notifying) (j : ι)
    : s.point j ≠ .asleep s.slot.serving := by
  intro hj
  obtain ⟨n, hn, hpoint⟩ := h.awake j hj
  rw [(h.inside i).mp hinside] at hn
  cases hn
  exact hnotify hpoint

theorem not_holding (h : Inv s) {k : Nat} (hi : s.point i = .checking k) (hk : k = s.slot.serving)
    (j : ι)
    : (s.point j).isHolding = false := by
  rw [← Bool.not_eq_true]
  intro hj
  have hticket : (s.point i).ticket? = some s.slot.serving := by
    rw [hi, hk]
    rfl
  have hji := h.ticket_inj (h.served j hj) hticket
  rw [hji, hi] at hj
  cases hj

inductive Passes (owner : Option ι) (i : ι) (p q : Point) : Option ι → Prop where
  | enter (free : owner = none) (hq : q.isInside = true) : Passes owner i p q (some i)
  | leave (hp : p.isInside = true) (hq : q.isInside = false) : Passes owner i p q none
  | stay (h : q.isInside = p.isInside) : Passes owner i p q owner

variable [DecidableEq ι] {p q : Point}

theorem inside_move (h : Inv s) (hi : s.point i = p) {owner : Option ι}
    (hpass : Passes s.owner i p q owner) (j : ι)
    : ((s.move i q).point j).isInside = true ↔ owner = some j := by
  have hinside := h.inside i
  have hj := h.inside j
  rw [hi] at hinside
  by_cases hji : j = i
  . rw [hji, point_move_self]
    cases hpass with
    | enter free hq => simp [hq]
    | leave hp hq => simp [hq]
    | stay hq => rw [hq, hinside]
  . rw [point_move_ne s hji]
    cases hpass with
    | enter free hq =>
      rw [hj, free]
      simp [Ne.symm hji]
    | leave hp hq =>
      rw [hj, hinside.mp hp]
      simp [Ne.symm hji]
    | stay hq => exact hj

/--
A thread that goes on without drawing a ticket, being admitted or giving the slot back changes
nothing for the others, if it does not fall asleep when it is served and is not about to wake the
sleepers.
-/
theorem moved (h : Inv s) (hi : s.point i = p) {owner : Option ι}
    (hpass : Passes s.owner i p q owner) (hsame : q.ticket? = p.ticket? ∧ q.isHolding = p.isHolding)
    (hread : ∀ k, q = .drawing k → k = s.slot.drawn) (hsleep : q ≠ .asleep s.slot.serving)
    (hnotify : p = .notifying → ∀ j, s.point j ≠ .asleep s.slot.serving)
    : Inv { s.move i q with owner } := by
  have hview : ∀ j, ((s.move i q).point j).ticket? = (s.point j).ticket?
      ∧ ((s.move i q).point j).isHolding = (s.point j).isHolding :=
    forall_point_move (P := fun j p => p.ticket? = (s.point j).ticket? ∧
      p.isHolding = (s.point j).isHolding)
      (by rw [hi]; exact hsame) fun _ _ => ⟨rfl, rfl⟩
  constructor
  case inside => exact h.inside_move hi hpass
  case order => exact h.order
  case length => exact h.length
  case ticket => exact fun j k hj => h.ticket j k ((hview j).1 ▸ hj)
  case queued =>
    intro k hk hk'
    obtain ⟨j, hj⟩ := h.queued k hk hk'
    exact ⟨j, (hview j).1.trans hj⟩
  case served => exact fun j hj => (hview j).1.trans (h.served j ((hview j).2 ▸ hj))
  case read =>
    exact forall_point_move (P := fun _ p => ∀ k, p = .drawing k → k = _) hread fun j _ => h.read j
  case awake =>
    refine forall_point_move (P := fun _ p => p = .asleep s.slot.serving → _)
      (fun hq => absurd hq hsleep) ?_
    intro j _ hj
    -- a sleeper with the ticket that is served waits for another thread than the one that goes on
    obtain ⟨n, hn, hpoint⟩ := h.awake j hj
    have hni : n ≠ i := by
      intro heq
      rw [heq, hi] at hpoint
      exact hnotify hpoint j hj
    refine ⟨n, ?_, (point_move_ne s hni q).trans hpoint⟩
    cases hpass with
    | enter free _ =>
      rw [free] at hn
      cases hn
    | leave hp _ =>
      rw [(h.inside i).mp (by rw [hi]; exact hp)] at hn
      exact absurd (Option.some.inj hn).symm hni
    | stay _ => exact hn
  case fifo => exact h.fifo
  case held => exact fun j hj => h.held j ((hview j).2 ▸ hj)
  case unheld => exact fun hall => h.unheld fun j => (hview j).2 ▸ hall j

theorem drawn (h : Inv s) {k : Nat} (hi : s.point i = .drawing k)
    : Inv { s.move i (.checking k) with slot := s.slot.draw.2, drew := s.drew ++ [i] } := by
  have hk : k = s.slot.drawn := h.read i k hi
  have hinside : (s.point i).isInside = true := by rw [hi]; rfl
  have hother : ∀ {j k'}, (s.point j).ticket? = some k' → j ≠ i := by
    rintro j k' hj rfl
    rw [hi] at hj
    cases hj
  have hholding : ∀ j, ((s.move i (.checking k)).point j).isHolding = (s.point j).isHolding :=
    forall_point_move (P := fun j p => p.isHolding = (s.point j).isHolding) (by rw [hi]; rfl)
      fun _ _ => rfl
  constructor
  case inside => exact h.inside_move hi (.stay rfl)
  case order => exact Nat.le_succ_of_le h.order
  case length =>
    dsimp only
    rw [List.length_append, h.length]
    rfl
  case ticket =>
    refine forall_point_move
      (P := fun j p => ∀ k', p.ticket? = some k' → s.slot.serving ≤ k' ∧
        (s.drew ++ [i])[k']? = some j) ?_ ?_
    . intro k' hk'
      cases hk'
      rw [hk, ← h.length]
      exact ⟨h.length ▸ h.order, List.getElem?_concat_length⟩
    . intro j _ k' hj
      obtain ⟨hserving, hdrew⟩ := h.ticket j k' hj
      exact ⟨hserving, List.getElem?_append_left (h.length ▸ h.lt_drawn hj) ▸ hdrew⟩
  case queued =>
    intro k' hserving hlt
    change k' < s.slot.drawn + 1 at hlt
    by_cases hk' : k' = k
    . refine ⟨i, ?_⟩
      change ((s.move i (.checking k)).point i).ticket? = _
      rw [point_move_self, hk']
      rfl
    . obtain ⟨j, hj⟩ := h.queued k' hserving (by omega)
      exact ⟨j, (congrArg Point.ticket? (point_move_ne s (hother hj) _)).trans hj⟩
  case served =>
    intro j hj
    have hserved := h.served j (hholding j ▸ hj)
    exact (congrArg Point.ticket? (point_move_ne s (hother hserved) _)).trans hserved
  case read =>
    refine forall_point_move (P := fun _ p => ∀ k', p = .drawing k' → k' = s.slot.drawn + 1)
      nofun ?_
    intro j hji k' hj
    -- the other thread would have the lock too
    have howner := (h.inside j).mp (by rw [hj]; rfl)
    rw [(h.inside i).mp hinside] at howner
    exact absurd (Option.some.inj howner).symm hji
  case awake =>
    exact forall_point_move (P := fun _ p => p = .asleep s.slot.serving → _) nofun
      fun j _ hj => absurd hj (h.not_asleep hinside (by rw [hi]; nofun) j)
  case fifo => exact h.fifo.trans (List.prefix_append ..)
  case held => exact fun j hj => h.held j (hholding j ▸ hj)
  case unheld => exact fun hall => h.unheld fun j => hholding j ▸ hall j

theorem admitted (h : Inv s) {k : Nat} (hi : s.point i = .checking k)
    (hserved : s.slot.admits k = true)
    : Inv { s.move i (.admitted k) with entered := s.entered ++ [i] } := by
  have hk : k = s.slot.serving := (of_decide_eq_true hserved).symm
  have hinside : (s.point i).isInside = true := by rw [hi]; rfl
  have hnobody := h.not_holding hi hk
  have hlength : s.entered.length = s.slot.serving := h.unheld hnobody
  have hticket : ∀ j, ((s.move i (.admitted k)).point j).ticket? = (s.point j).ticket? :=
    forall_point_move (P := fun j p => p.ticket? = (s.point j).ticket?) (by rw [hi]; rfl) fun _ _ =>
      rfl
  constructor
  case inside => exact h.inside_move hi (.stay rfl)
  case order => exact h.order
  case length => exact h.length
  case ticket => exact fun j k' hj => h.ticket j k' (hticket j ▸ hj)
  case queued =>
    intro k' hserving hlt
    obtain ⟨j, hj⟩ := h.queued k' hserving hlt
    exact ⟨j, (hticket j).trans hj⟩
  case served =>
    refine forall_point_move (P := fun _ p => p.isHolding = true → p.ticket? = some s.slot.serving)
      ?_ ?_
    . exact fun _ => congrArg some hk
    . intro j _ hj
      rw [hnobody j] at hj
      cases hj
  case read =>
    exact forall_point_move (P := fun _ p => ∀ k', p = .drawing k' → k' = s.slot.drawn) nofun
      fun j _ => h.read j
  case awake =>
    exact forall_point_move (P := fun _ p => p = .asleep s.slot.serving → _) nofun
      fun j _ hj => absurd hj (h.not_asleep hinside (by rw [hi]; nofun) j)
  case fifo =>
    -- those that were admitted are the first ones that drew tickets, and this one is the next
    have hdrew : s.drew[s.slot.serving]? = some i := by
      rw [← hk]
      apply (h.ticket i k _).2
      rw [hi]
      rfl
    have htake : s.entered = s.drew.take s.slot.serving := by
      rw [← hlength]
      exact List.prefix_iff_eq_take.mp h.fifo
    have hnext : s.entered ++ [i] = s.drew.take (s.slot.serving + 1) := by
      rw [List.take_add_one, hdrew, ← htake]
      rfl
    dsimp only
    rw [hnext]
    exact List.take_prefix ..
  case held =>
    intro _ _
    dsimp only
    rw [List.length_append, hlength]
    rfl
  case unheld =>
    intro hall
    have hi' := hall i
    change ((s.move i (.admitted k)).point i).isHolding = false at hi'
    rw [point_move_self] at hi'
    cases hi'

theorem advanced (h : Inv s) {k : Nat} {slot : Slot} (hi : s.point i = .advancing k)
    (hr : s.slot.release = .ok slot)
    : Inv { s.move i .notifying with slot } := by
  have hinside : (s.point i).isInside = true := by rw [hi]; rfl
  have hholding : (s.point i).isHolding = true := by rw [hi]; rfl
  have hserving := h.served i hholding
  have hlt := h.lt_drawn hserving
  have hslot : slot = { s.slot with serving := s.slot.serving + 1 } := by
    unfold Slot.release at hr
    rw [if_neg (Nat.not_le.mpr hlt)] at hr
    cases hr
    rfl
  have hnobody : ∀ j, ((s.move i .notifying).point j).isHolding = false := by
    refine forall_point_move (P := fun _ p => p.isHolding = false) rfl ?_
    intro j hji
    rw [← Bool.not_eq_true]
    exact fun hj => hji (h.holding_inj hj hholding)
  -- nobody holds the slot any more, and all tickets that are left come after the one given back
  rw [hslot]
  constructor
  case inside => exact h.inside_move hi (.stay rfl)
  case order => exact hlt
  case length => exact h.length
  case ticket =>
    refine forall_point_move
      (P := fun j p => ∀ k', p.ticket? = some k' → s.slot.serving + 1 ≤ k' ∧ s.drew[k']? = some j)
        nofun ?_
    intro j hji k' hj
    obtain ⟨hle, hdrew⟩ := h.ticket j k' hj
    refine ⟨?_, hdrew⟩
    have hne : k' ≠ s.slot.serving := by
      intro heq
      rw [heq] at hj
      exact hji (h.ticket_inj hj hserving)
    omega
  case queued =>
    intro k' hle hlt'
    change s.slot.serving + 1 ≤ k' at hle
    obtain ⟨j, hj⟩ := h.queued k' (by omega) hlt'
    have hji : j ≠ i := by
      intro heq
      rw [heq, hserving] at hj
      cases hj
      omega
    exact ⟨j, (congrArg Point.ticket? (point_move_ne s hji _)).trans hj⟩
  case served =>
    intro j hj
    exact absurd hj (by rw [hnobody j]; decide)
  case read =>
    exact forall_point_move (P := fun _ p => ∀ k', p = .drawing k' → k' = s.slot.drawn) nofun
      fun j _ => h.read j
  case awake =>
    intro _ _
    exact ⟨i, (h.inside i).mp hinside, point_move_self s i _⟩
  case fifo => exact h.fifo
  case held =>
    intro j hj
    exact absurd hj (by rw [hnobody j]; decide)
  case unheld =>
    intro _
    exact h.held i hholding

omit [DecidableEq ι] in
theorem notified (h : Inv s) : Inv { s with point := fun j => (s.point j).notified } := by
  constructor
  case inside =>
    intro j
    dsimp only
    rw [Point.isInside_notified]
    exact h.inside j
  case order => exact h.order
  case length => exact h.length
  case ticket =>
    intro j k hj
    dsimp only at hj
    rw [Point.ticket?_notified] at hj
    exact h.ticket j k hj
  case queued =>
    intro k hle hlt
    obtain ⟨j, hj⟩ := h.queued k hle hlt
    exact ⟨j, (Point.ticket?_notified _).trans hj⟩
  case served =>
    intro j hj
    dsimp only at hj
    rw [Point.isHolding_notified] at hj
    exact (Point.ticket?_notified _).trans (h.served j hj)
  case read => exact fun j k hj => h.read j k (Point.notified_eq_drawing hj)
  case awake => exact fun _ hj => absurd hj (Point.notified_ne_asleep _ _)
  case fifo => exact h.fifo
  case held =>
    intro j hj
    dsimp only at hj
    rw [Point.isHolding_notified] at hj
    exact h.held j hj
  case unheld =>
    intro hall
    apply h.unheld
    intro j
    rw [← Point.isHolding_notified]
    exact hall j

omit [DecidableEq ι] in
theorem release_unheld (h : Inv s) (hnone : ∀ j, (s.point j).ticket? = none)
    : s.slot.release = .error .notHeld := by
  have hle : s.slot.drawn ≤ s.slot.serving := by
    by_contra hlt
    obtain ⟨j, hj⟩ := h.queued s.slot.serving (Nat.le_refl _) (by omega)
    rw [hnone j] at hj
    cases hj
  unfold Slot.release
  rw [if_pos hle]

omit [DecidableEq ι] in
theorem stray_unheld (h : Inv s) (hnone : ∀ j, (s.point j).ticket? = none) : s.stray = s := by
  unfold stray
  rw [h.release_unheld hnone]

theorem step {s' : Monitor ι} (h : Inv s) (hs : Step s s') : Inv s' := by
  cases hs with
  | arrive hi => exact h.moved hi (.stay rfl) ⟨rfl, rfl⟩ nofun nofun nofun
  | enter hi free => exact h.moved hi (.enter free rfl) ⟨rfl, rfl⟩ nofun nofun nofun
  | read hi =>
    refine h.moved hi (.stay rfl) ⟨rfl, rfl⟩ ?_ nofun nofun
    intro k hk
    cases hk
    rfl
  | draw hi => exact h.drawn hi
  | pass hi served => exact h.admitted hi served
  | sleep hi unserved =>
    refine h.moved hi (.leave rfl rfl) ⟨rfl, rfl⟩ nofun ?_ nofun
    intro heq
    cases heq
    exact of_decide_eq_false unserved rfl
  | wake hi => exact h.moved hi (.stay rfl) ⟨rfl, rfl⟩ nofun nofun nofun
  | resume hi free => exact h.moved hi (.enter free rfl) ⟨rfl, rfl⟩ nofun nofun nofun
  | acquired hi => exact h.moved hi (.leave rfl rfl) ⟨rfl, rfl⟩ nofun nofun nofun
  | giveBack hi => exact h.moved hi (.stay rfl) ⟨rfl, rfl⟩ nofun nofun nofun
  | reenter hi free => exact h.moved hi (.enter free rfl) ⟨rfl, rfl⟩ nofun nofun nofun
  | check hi _ => exact h.moved hi (.stay rfl) ⟨rfl, rfl⟩ nofun nofun nofun
  | @refuse i k _ hi hr =>
    have hlt : s.slot.serving < s.slot.drawn := h.lt_drawn (h.served i (by rw [hi]; rfl))
    unfold Slot.release at hr
    rw [if_neg (Nat.not_le.mpr hlt)] at hr
    cases hr
  | advance hi hr => exact h.advanced hi hr
  | @notify i hi =>
    have hpoint : (s.point i).notified = .notifying := by rw [hi]; rfl
    exact h.notified.moved hpoint (.stay rfl) ⟨rfl, rfl⟩ nofun nofun fun _ _ =>
      Point.notified_ne_asleep _ _
  | leave hi => exact h.moved hi (.leave rfl rfl) ⟨rfl, rfl⟩ nofun nofun nofun
  | stray hi free unheld =>
    rw [h.stray_unheld unheld]
    exact h

end Inv

theorem Reachable.inv [DecidableEq ι] {s : Monitor ι} (h : Reachable s) : Inv s := by
  induction h with
  | start => exact inv_start
  | step _ hs ih => exact ih.step hs

end Monitor

end DocStore

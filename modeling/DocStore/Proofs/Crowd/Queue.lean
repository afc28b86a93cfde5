import Mathlib.Data.List.Nodup
import DocStore.Proofs.Crowd.Basic

/-!
This module contains the queue at the slot of a collection: the callers that wait for it or hold it
are the last ones that drew tickets, in their order, and only the first of them holds it.
-/

namespace DocStore

namespace Engine

theorem withEffect_slot (e : Engine) (now : Moment) (i j : Nat) (m : Mutation)
    : ((withEffect e now i m).store j).slot = (e.store j).slot :=
  store_setStore_keep (p := Store.slot)
    (f := fun s => { s with documents := (effectAt e now i m).documents }) (fun _ => rfl) e i j

theorem takeTurn_slot (e : Engine) (now : Moment) (i j : Nat) (t : Turn)
    : ((takeTurn now i t e).2.store j).slot = (e.store j).slot := by
  cases t with
  | mutate m =>
    obtain ⟨disk, hmemory⟩ := takeTurn_mutate_memory e now i m
    rw [hmemory]
    exact withEffect_slot e now i j m
  | removeFile => rw [takeTurn_removeFile]; rfl
  | releaseAll => rfl

theorem enqueue_slot {e : Engine} {i : Nat} (hi : i < e.opened.length)
    : ((enqueue i e).2.store i).slot = (e.store i).slot.draw.2 := by
  rw [enqueue_eq]
  unfold withSlot
  rw [store_setStore_self hi]

theorem release_slot {e : Engine} {i : Nat} (hi : i < e.opened.length)
    (hheld : (e.store i).slot.serving < (e.store i).slot.drawn)
    : ((release i e).store i).slot =
      { (e.store i).slot with serving := (e.store i).slot.serving + 1 } := by
  unfold release
  rw [store_setStore_self hi]
  unfold Slot.release
  rw [if_neg (Nat.not_le_of_lt hheld)]

end Engine

namespace Stage

theorem ticket?_begun (r : Except Error Start) : (begun r).ticket? = none := by
  unfold begun
  split <;> rfl

theorem held?_begun (r : Except Error Start) : (begun r).held? = none := by
  unfold begun
  split <;> rfl

theorem ticket?_turned (i k : Nat) (r : Except Error (Answer × Bool))
    : (turned i k r).ticket? = some k := by
  unfold turned
  split <;> rfl

theorem place?_turned (i k : Nat) (r : Except Error (Answer × Bool))
    : (turned i k r).place? = some i := by
  unfold turned
  split <;> rfl

theorem of_place?_begun {r : Except Error Start} {i : Nat} (h : (begun r).place? = some i)
    : ∃ t, r = .ok (.waits i t) := by
  unfold begun at h
  split at h
  . cases h
  . cases h
  next t =>
    cases h
    exact ⟨t, rfl⟩

theorem isAtRest_of_ticket? {st : Stage} {k : Nat} (h : st.ticket? = some k)
    : st.isAtRest = false := by
  cases st <;> cases h <;> rfl

theorem ticket?_of_isAtRest {st : Stage} (h : st.isAtRest = true) : st.ticket? = none := by
  cases st <;> cases h <;> rfl

theorem of_turn?_begun {r : Except Error Start} {t : Turn} (h : (begun r).turn? = some t)
    : ∃ i, r = .ok (.waits i t) := by
  unfold begun at h
  split at h
  . cases h
  . cases h
  next i _ =>
    cases h
    exact ⟨i, rfl⟩

theorem turn?_turned (i k : Nat) (r : Except Error (Answer × Bool))
    : (turned i k r).turn? = none := by
  unfold turned
  split <;> rfl

theorem isDone_turned (i k : Nat) (r : Except Error (Answer × Bool))
    : (turned i k r).isDone = false := by
  unfold turned
  split <;> rfl

theorem ticket?_of_held? {st : Stage} {k : Nat} (h : st.held? = some k) : st.ticket? = some k := by
  cases st <;> cases h <;> rfl

theorem isDone_of_ticket? {st : Stage} {k : Nat} (h : st.ticket? = some k) : st.isDone = false := by
  cases st <;> cases h <;> rfl

end Stage

namespace Crowd

variable {ι : Type}

structure Queue (i first : Nat) (x : Crowd ι) : Prop where
  opened : i < x.engine.opened.length
  drawn : (x.engine.store i).slot.drawn = first + x.arrived.length
  first_le : first ≤ (x.engine.store i).slot.serving
  serving_le : (x.engine.store i).slot.serving ≤ (x.engine.store i).slot.drawn
  nodup : x.arrived.Nodup
  place : ∀ c j, (x.stage c).place? = some j → j = i
  arrived : ∀ c ∈ x.arrived, (x.stage c).ticket?.isSome = true ∨ (x.stage c).isDone = true
  ticket : ∀ c k, (x.stage c).ticket? = some k →
    (x.engine.store i).slot.serving ≤ k ∧ x.arrived[k - first]? = some c
  waiting : ∀ k, (x.engine.store i).slot.serving ≤ k → k < (x.engine.store i).slot.drawn →
    ∃ c, (x.stage c).ticket? = some k
  held : ∀ c k, (x.stage c).held? = some k → k = (x.engine.store i).slot.serving

theorem queue_gather {e : Engine} {i : Nat} (hi : i < e.opened.length)
    (hfree : (e.store i).slot.isFree = true)
    : Queue i (e.store i).slot.drawn (gather e : Crowd ι) := by
  have hserving : (e.store i).slot.serving = (e.store i).slot.drawn := by
    simpa [Slot.isFree, Slot.admits] using hfree
  refine ⟨hi, rfl, Nat.le_of_eq hserving.symm, Nat.le_of_eq hserving, List.nodup_nil, ?_, ?_,
    ?_, ?_, ?_⟩
  . nofun
  . nofun
  . nofun
  . intro k hle hlt
    exact absurd (hserving ▸ hle) (Nat.not_le_of_lt hlt)
  . nofun

namespace Queue

variable {i first : Nat} {x : Crowd ι}

theorem notMem (h : Queue i first x) {c : ι} (hticket : (x.stage c).ticket? = none)
    (hdone : (x.stage c).isDone = false) : c ∉ x.arrived := by
  intro hmem
  cases h.arrived c hmem with
  | inl harrived =>
    rw [hticket] at harrived
    cases harrived
  | inr harrived =>
    rw [hdone] at harrived
    cases harrived

theorem ticket_inj (h : Queue i first x) {c d : ι} {k : Nat} (hc : (x.stage c).ticket? = some k)
    (hd : (x.stage d).ticket? = some k) : c = d := by
  have hget := (h.ticket c k hc).2
  rw [(h.ticket d k hd).2] at hget
  exact (Option.some.inj hget).symm

theorem all_served (h : Queue i first x) (hrest : ∀ c, (x.stage c).ticket? = none)
    : (x.engine.store i).slot.serving = first + x.arrived.length := by
  rw [← h.drawn]
  apply Nat.le_antisymm h.serving_le
  apply Nat.le_of_not_lt
  intro hlt
  obtain ⟨c, hc⟩ := h.waiting _ (Nat.le_refl _) hlt
  rw [hrest] at hc
  cases hc

theorem lt_drawn (h : Queue i first x) {c : ι} {k : Nat} (hc : (x.stage c).ticket? = some k)
    : k < (x.engine.store i).slot.drawn := by
  obtain ⟨hle, hget⟩ := h.ticket c k hc
  have hlt := (List.getElem?_eq_some_iff.mp hget).1
  have hfirst := h.first_le
  rw [h.drawn]
  omega

theorem unticketed_of_last (h : Queue i first x) {d : ι} (hlast : x.arrived.getLast? = some d)
    (hdone : (x.stage d).isDone = true) (c : ι) : (x.stage c).ticket? = none := by
  rw [Option.eq_none_iff_forall_ne_some]
  intro k hk
  have hget := (List.getElem?_eq_some_iff.mp (h.ticket c k hk).2).1
  have hlt := h.lt_drawn hk
  have hdrawn := h.drawn
  have hle := (h.ticket c k hk).1
  obtain ⟨c', hc'⟩ := h.waiting (first + (x.arrived.length - 1)) (by omega) (by omega)
  have hlast' := (h.ticket c' _ hc').2
  rw [Nat.add_sub_cancel_left, ← List.getLast?_eq_getElem?, hlast] at hlast'
  cases hlast'
  rw [Stage.isDone_of_ticket? hc'] at hdone
  cases hdone

theorem getElem?_of_held (h : Queue i first x) {c : ι} {k : Nat} (hc : (x.stage c).held? = some k)
    : x.arrived[(x.engine.store i).slot.serving - first]? = some c := by
  rw [← h.held c k hc]
  exact (h.ticket c k (Stage.ticket?_of_held? hc)).2

theorem release_slot (h : Queue i first x) {c : ι} {k : Nat} {r : Except Error Answer}
    (hc : x.stage c = .served i k r) : ((Engine.release i x.engine).store i).slot
      = { (x.engine.store i).slot with serving := (x.engine.store i).slot.serving + 1 } := by
  apply Engine.release_slot h.opened
  rw [← h.held c k (by rw [hc]; rfl)]
  exact h.lt_drawn (by rw [hc]; rfl)

theorem exists_movable (h : Queue i first x) {c : ι} (hc : (x.stage c).isAtRest = false)
    : ∃ d, (x.stage d).isAtRest = false
      ∧ ∀ j t k, x.stage d = .queued j t k → (x.engine.store j).slot.admits k = true := by
  cases hticket : (x.stage c).ticket? with
  | none =>
    refine ⟨c, hc, ?_⟩
    intro j t k hqueued
    rw [hqueued] at hticket
    cases hticket
  | some k =>
    obtain ⟨d, hd⟩ :=
      h.waiting _ (Nat.le_refl _) (Nat.lt_of_le_of_lt (h.ticket c k hticket).1 (h.lt_drawn hticket))
    refine ⟨d, Stage.isAtRest_of_ticket? hd, ?_⟩
    intro j t l hqueued
    have hj : j = i := h.place d j (by rw [hqueued]; rfl)
    rw [hqueued] at hd
    rw [hj, Option.some.inj hd]
    exact decide_eq_true rfl

end Queue

variable [DecidableEq ι]

theorem stage_go_self (x : Crowd ι) (c : ι) (st : Stage) (e : Engine)
    : (x.go c st e).stage c = st :=
  Function.update_self ..

theorem stage_go_ne {x : Crowd ι} {c d : ι} (h : d ≠ c) (st : Stage) (e : Engine)
    : (x.go c st e).stage d = x.stage d := Function.update_of_ne h ..

theorem forall_stage_go {x : Crowd ι} {c : ι} {st : Stage} {P : ι → Stage → Prop} (hc : P c st)
    (h : ∀ d, d ≠ c → P d (x.stage d)) : ∀ d, P d (Function.update x.stage c st d) :=
  (Function.forall_update_iff x.stage P).mpr ⟨hc, h⟩

namespace Queue

variable {i first : Nat} {x : Crowd ι}

theorem go (h : Queue i first x) {c : ι} {st : Stage} {e : Engine} (hopened : i < e.opened.length)
    (hslot : (e.store i).slot = (x.engine.store i).slot) (hdone : (x.stage c).isDone = false)
    (hticket : st.ticket? = (x.stage c).ticket?) (hplace : ∀ j, st.place? = some j → j = i)
    (hheld : ∀ k, st.held? = some k → k = (x.engine.store i).slot.serving)
    : Queue i first (x.go c st e) := by
  have hsame : ∀ d, ((x.go c st e).stage d).ticket? = (x.stage d).ticket? := by
    intro d
    by_cases hd : d = c
    . rw [hd, stage_go_self, hticket]
    . rw [stage_go_ne hd]
  constructor
  case opened => exact hopened
  case drawn => exact (congrArg Slot.drawn hslot).trans h.drawn
  case first_le =>
    change first ≤ (e.store i).slot.serving
    rw [hslot]
    exact h.first_le
  case serving_le =>
    change (e.store i).slot.serving ≤ (e.store i).slot.drawn
    rw [hslot]
    exact h.serving_le
  case nodup => exact h.nodup
  case place =>
    exact forall_stage_go (P := fun _ st => ∀ j, st.place? = some j → j = i) hplace fun d _ =>
      h.place d
  case arrived =>
    intro d hd
    rw [hsame]
    by_cases hc : d = c
    . have harrived := h.arrived d hd
      rw [hc, hdone] at harrived
      rw [hc]
      exact .inl (harrived.resolve_right nofun)
    . rw [stage_go_ne hc]
      exact h.arrived d hd
  case ticket =>
    intro d k hd
    rw [hsame] at hd
    change (e.store i).slot.serving ≤ k ∧ _
    rw [hslot]
    exact h.ticket d k hd
  case waiting =>
    intro k hle hlt
    change (e.store i).slot.serving ≤ k at hle
    change k < (e.store i).slot.drawn at hlt
    rw [hslot] at hle hlt
    obtain ⟨d, hd⟩ := h.waiting k hle hlt
    exact ⟨d, by rw [hsame, hd]⟩
  case held =>
    change ∀ d k, _ → k = (e.store i).slot.serving
    rw [hslot]
    exact forall_stage_go (P := fun _ st => ∀ k, st.held? = some k → k = _) hheld fun d _ =>
      h.held d

theorem keep (h : Queue i first x) {c : ι} {k : Nat} {st : Stage} {e : Engine}
    (hheld : (x.stage c).held? = some k) (hopened : i < e.opened.length)
    (hslot : (e.store i).slot = (x.engine.store i).slot)
    (hticket : st.ticket? = some k) (hplace : st.place? = some i)
    : Queue i first (x.go c st e) := by
  have hc := Stage.ticket?_of_held? hheld
  refine h.go hopened hslot (Stage.isDone_of_ticket? hc) (hticket.trans hc.symm) ?_ ?_
  . intro j hj
    exact Option.some.inj (hj.symm.trans hplace)
  . intro l hl
    rw [Option.some.inj ((Stage.ticket?_of_held? hl).symm.trans hticket)]
    exact h.held c k hheld

theorem draw (h : Queue i first x) {c : ι} {t : Turn} (hc : x.stage c = .ready i t)
    : Queue i first
      { x.go c (.queued i t (x.engine.store i).slot.draw.1) (Engine.enqueue i x.engine).2 with
        arrived := x.arrived ++ [c] } := by
  have hslot := Engine.enqueue_slot h.opened
  have hnotMem : c ∉ x.arrived := h.notMem (by rw [hc]; rfl) (by rw [hc]; rfl)
  -- tickets count those who have arrived, so that the new one stands behind all of them
  have hnew : (x.engine.store i).slot.draw.1 = first + x.arrived.length := h.drawn
  constructor
  case opened => exact lt_of_lt_of_eq h.opened (Engine.length_setStore ..).symm
  case drawn =>
    change ((Engine.enqueue i x.engine).2.store i).slot.drawn = first + (x.arrived ++ [c]).length
    rw [hslot, List.length_append, List.length_singleton, ← Nat.add_assoc, ← h.drawn]
    rfl
  case first_le =>
    change first ≤ ((Engine.enqueue i x.engine).2.store i).slot.serving
    rw [hslot]
    exact h.first_le
  case serving_le =>
    change ((Engine.enqueue i x.engine).2.store i).slot.serving ≤
      ((Engine.enqueue i x.engine).2.store i).slot.drawn
    rw [hslot]
    exact Nat.le_trans h.serving_le (Nat.le_succ _)
  case nodup =>
    change (x.arrived ++ [c]).Nodup
    rw [List.nodup_append]
    refine ⟨h.nodup, List.nodup_singleton c, ?_⟩
    intro d hd d' hd' heq
    rw [List.mem_singleton] at hd'
    rw [heq, hd'] at hd
    exact hnotMem hd
  case place =>
    refine forall_stage_go (P := fun _ st => ∀ j, st.place? = some j → j = i) ?_ fun d _ =>
      h.place d
    intro j hj
    exact (Option.some.inj hj).symm
  case arrived =>
    refine forall_stage_go (P := fun d st => d ∈ x.arrived ++ [c] →
      st.ticket?.isSome = true ∨ st.isDone = true)
      (fun _ => .inl rfl) fun d hdc hd => h.arrived d ?_
    simpa [hdc] using hd
  case ticket =>
    change ∀ d k, _ → ((Engine.enqueue i x.engine).2.store i).slot.serving ≤ k ∧
      (x.arrived ++ [c])[k - first]? = some d
    rw [hslot]
    refine forall_stage_go
      (P := fun d st => ∀ k, st.ticket? = some k → _ ≤ k ∧ (x.arrived ++ [c])[k - first]? = some d)
        ?_ ?_
    . intro k hk
      rw [← Option.some.inj hk, hnew]
      refine ⟨?_, ?_⟩
      . rw [← h.drawn]
        exact h.serving_le
      . rw [Nat.add_sub_cancel_left]
        exact List.getElem?_concat_length ..
    . intro d _ k hd
      obtain ⟨hle, hget⟩ := h.ticket d k hd
      refine ⟨hle, ?_⟩
      rw [List.getElem?_append_left (List.getElem?_eq_some_iff.mp hget).1, hget]
  case waiting =>
    intro k hle hlt
    change ((Engine.enqueue i x.engine).2.store i).slot.serving ≤ k at hle
    change k < ((Engine.enqueue i x.engine).2.store i).slot.drawn at hlt
    rw [hslot] at hle hlt
    -- the new ticket is in the hands of the caller, and the others are where they were
    by_cases hk : k = (x.engine.store i).slot.drawn
    . refine ⟨c, ?_⟩
      rw [hk, stage_go_self]
      rfl
    . obtain ⟨d, hd⟩ := h.waiting k hle (Nat.lt_of_le_of_ne (Nat.le_of_lt_succ hlt) hk)
      refine ⟨d, ?_⟩
      have hdc : d ≠ c := by
        intro hdc
        rw [hdc, hc] at hd
        cases hd
      rw [stage_go_ne hdc, hd]
  case held =>
    change ∀ d k, _ → k = ((Engine.enqueue i x.engine).2.store i).slot.serving
    rw [hslot]
    exact forall_stage_go (P := fun _ st => ∀ k, st.held? = some k → k = _) nofun fun d _ =>
      h.held d

theorem release (h : Queue i first x) {c : ι} {k : Nat} {r : Except Error Answer}
    (hc : x.stage c = .served i k r)
    : Queue i first (x.go c (.done r) (Engine.release i x.engine)) := by
  have hk : k = (x.engine.store i).slot.serving := h.held c k (by rw [hc]; rfl)
  have hticket : (x.stage c).ticket? = some k := by rw [hc]; rfl
  have hlt := h.lt_drawn hticket
  have hslot := h.release_slot hc
  constructor
  case opened => exact lt_of_lt_of_eq h.opened (Engine.length_setStore ..).symm
  case drawn => exact (congrArg Slot.drawn hslot).trans h.drawn
  case first_le =>
    change first ≤ ((Engine.release i x.engine).store i).slot.serving
    rw [hslot]
    exact Nat.le_trans h.first_le (Nat.le_succ _)
  case serving_le =>
    change ((Engine.release i x.engine).store i).slot.serving ≤
      ((Engine.release i x.engine).store i).slot.drawn
    rw [hslot]
    exact hk ▸ hlt
  case nodup => exact h.nodup
  case place =>
    exact forall_stage_go (P := fun _ st => ∀ j, st.place? = some j → j = i) nofun fun d _ =>
      h.place d
  case arrived =>
    exact forall_stage_go (P := fun d st => d ∈ x.arrived →
      st.ticket?.isSome = true ∨ st.isDone = true)
      (fun _ => .inr rfl) fun d _ => h.arrived d
  case ticket =>
    intro d l hd
    change ((Engine.release i x.engine).store i).slot.serving ≤ l ∧ _
    rw [hslot]
    by_cases hdc : d = c
    . rw [hdc, stage_go_self] at hd
      cases hd
    . rw [stage_go_ne hdc] at hd
      obtain ⟨hle, hget⟩ := h.ticket d l hd
      -- nobody but the caller has the ticket that was served, so the others come after it
      refine ⟨Nat.lt_of_le_of_ne hle ?_, hget⟩
      intro heq
      rw [← heq, ← hk] at hd
      exact hdc (h.ticket_inj hd hticket)
  case waiting =>
    intro l hle hlt'
    change ((Engine.release i x.engine).store i).slot.serving ≤ l at hle
    change l < ((Engine.release i x.engine).store i).slot.drawn at hlt'
    rw [hslot] at hle hlt'
    obtain ⟨d, hd⟩ := h.waiting l (Nat.le_of_succ_le hle) hlt'
    refine ⟨d, ?_⟩
    have hdc : d ≠ c := by
      intro hdc
      rw [hdc, hticket, hk] at hd
      exact absurd (Option.some.inj hd) (Nat.ne_of_lt hle)
    rw [stage_go_ne hdc, hd]
  case held =>
    intro d l hd
    by_cases hdc : d = c
    . rw [hdc, stage_go_self] at hd
      cases hd
    . rw [stage_go_ne hdc] at hd
      have hl := h.held d l hd
      rw [hl, ← hk] at hd
      exact absurd (h.ticket_inj (Stage.ticket?_of_held? hd) hticket) hdc

theorem call (h : Queue i first x) {callers : ι → Caller} {c : ι} (hc : x.stage c = .called)
    (hbegin : ∀ j t e, Engine.begin (callers c).request ((callers c).atCall x.engine) =
      (.ok (.waits j t), e) → j = i)
    : Queue i first (advance callers x c) := by
  rcases hb : Engine.begin (callers c).request ((callers c).atCall x.engine) with ⟨r, e⟩
  rw [advance_called hc hb]
  have hstore := Engine.begin_store hb (i := i) h.opened
  refine h.go hstore.1 (congrArg Store.slot hstore.2) ?_ ?_ ?_ ?_
  . rw [hc]; rfl
  . rw [hc, Stage.ticket?_begun]; rfl
  . intro j hj
    obtain ⟨t, rfl⟩ := Stage.of_place?_begun hj
    exact hbegin j t e hb
  . intro k hk
    rw [Stage.held?_begun] at hk
    cases hk

theorem enter (h : Queue i first x) {callers : ι → Caller} {c : ι} {t : Turn} {k : Nat}
    (hc : x.stage c = .queued i t k) : Queue i first (advance callers x c) := by
  rw [advance_queued hc]
  split
  next hadmits =>
    refine h.go h.opened rfl ?_ ?_ ?_ ?_
    . rw [hc]; rfl
    . rw [hc]; rfl
    . intro j hj
      exact (Option.some.inj hj).symm
    . intro l hl
      rw [← Option.some.inj hl]
      exact (of_decide_eq_true hadmits).symm
  . exact h

theorem advance (h : Queue i first x) {callers : ι → Caller} {c : ι}
    (hbegin : ∀ j t e, x.stage c = .called →
      Engine.begin (callers c).request ((callers c).atCall x.engine) =
        (.ok (.waits j t), e) → j = i)
    : Queue i first (advance callers x c) := by
  have hplace := h.place c
  cases hc : x.stage c with
  | called => exact h.call hc (hbegin · · · hc)
  | ready j t =>
    rw [hplace j (by rw [hc]; rfl)] at hc
    rw [advance_ready hc]
    exact h.draw hc
  | queued j t k =>
    rw [hplace j (by rw [hc]; rfl)] at hc
    exact h.enter hc
  | entered j t k =>
    have hheld : (x.stage c).held? = some k := by rw [hc]; rfl
    rw [hplace j (by rw [hc]; rfl)] at hc
    cases t with
    | mutate m =>
      rw [advance_entered_mutate hc]
      exact h.keep hheld (lt_of_lt_of_eq h.opened (Engine.length_setStore ..).symm)
        (Engine.withEffect_slot ..)
        (Stage.ticket?_turned ..) (Stage.place?_turned ..)
    | _ =>
      rw [advance_entered hc nofun]
      refine h.keep hheld ?_ (Engine.takeTurn_slot ..) rfl rfl
      rw [Engine.takeTurn_length]
      exact h.opened
  | changed j k a =>
    have hheld : (x.stage c).held? = some k := by rw [hc]; rfl
    rw [hplace j (by rw [hc]; rfl)] at hc
    rw [advance_changed hc rfl]
    exact h.keep hheld h.opened rfl rfl rfl
  | served j k r =>
    rw [hplace j (by rw [hc]; rfl)] at hc
    rw [advance_served hc]
    exact h.release hc
  | done r =>
    rw [advance_done hc]
    exact h

end Queue

end Crowd

end DocStore

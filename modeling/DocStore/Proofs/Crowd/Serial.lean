import DocStore.Proofs.Crowd.Alone
import DocStore.Proofs.Crowd.Progress
import DocStore.Proofs.Engine.Unique

/-!
This module contains the proof that mutations of a collection whose steps interleave come to the
same as if they were done one at a time, in the order in which they drew their tickets.
-/

namespace DocStore

open Work

namespace Crowd

variable {ι : Type}

/--
What the engine has come to while a caller is at a stage, if it was another engine when the caller's
turn began.
-/
inductive Reached (c : Caller) (n : String) (i : Nat) (e₀ e : Engine) : Stage → Prop where
  | before {st} (h : ∀ k a, st ≠ .changed i k a) (h' : ∀ k r, st ≠ .served i k r)
      (same : e.bare i = e₀.bare i) : Reached c n i e₀ e st
  | changed {m k a} (begins : c.Begins n i (.ok (.waits i (.mutate m))))
      (outcome : (Engine.effectAt (c.atTurn e₀) c.clock.now i m).outcome = .ok (a, true))
      (same : e.bare i = (Engine.withEffect (c.atTurn e₀) c.clock.now i m).bare i) :
      Reached c n i e₀ e (.changed i k a)
  | served {m k r} (begins : c.Begins n i (.ok (.waits i (.mutate m))))
      (result : (c.alone e₀).1 = r)
      (same : e.bare i = (c.alone e₀).2.bare i) : Reached c n i e₀ e (.served i k r)

theorem Reached.of_bare {c : Caller} {n : String} {i : Nat} {e₀ e e' : Engine} {st : Stage}
    (h : Reached c n i e₀ e st) (hbare : e'.bare i = e.bare i) : Reached c n i e₀ e' st := by
  cases h with
  | before h h' same => exact .before h h' (hbare.trans same)
  | changed begins outcome same => exact .changed begins outcome (hbare.trans same)
  | served begins result same => exact .served begins result (hbare.trans same)

theorem Reached.turn {c : Caller} {n : String} {i : Nat} {e₀ e : Engine} {m : Mutation}
    (begins : c.Begins n i (.ok (.waits i (.mutate m)))) (hi : e₀.cached.lookup n = some i)
    (same : e.bare i = e₀.bare i) (k : Nat)
    : Reached c n i e₀ (Engine.withEffect (c.atTurn e) c.clock.now i m)
        (.turned i k (Engine.effectAt (c.atTurn e) c.clock.now i m).outcome) := by
  have hturn := c.atTurn_of_bare same
  have heffect := Engine.withEffect_of_bare hturn rfl c.clock.now m
  have halone := c.alone_waits begins hi
  rw [Engine.effectAt_of_bare hturn rfl]
  cases houtcome : (Engine.effectAt (c.atTurn e₀) c.clock.now i m).outcome with
  | error err =>
    rw [Engine.takeTurn_mutate_error houtcome] at halone
    refine .served begins (congrArg Prod.fst halone) ?_
    rw [halone]
    exact heffect.trans (Engine.bare_withSlot ..).symm
  | ok p =>
    obtain ⟨a, writes⟩ := p
    cases writes with
    | false =>
      rw [Engine.takeTurn_mutate_unwritten houtcome] at halone
      refine .served begins (congrArg Prod.fst halone) ?_
      rw [halone]
      exact heffect.trans (Engine.bare_withSlot ..).symm
    | true => exact .changed begins houtcome heffect

theorem Reached.write {c : Caller} {n : String} {i k : Nat} {a : Answer} {e₀ e : Engine}
    (h : Reached c n i e₀ e (.changed i k a)) (hi : e₀.cached.lookup n = some i)
    (hopened : i < e₀.opened.length) {r : Except Error Unit} {disk : Disk}
    (hs : Collection.save (e.store i).name (e.store i).documents e.disk = (r, disk))
    : Reached c n i e₀ { e with disk } (.served i k (r.map fun _ => a)) := by
  cases h with
  | before h => exact absurd rfl (h k a)
  | @changed m _ _ begins outcome same =>
    have hstore : (Engine.withEffect (c.atTurn e₀) c.clock.now i m).store i =
        { (c.atTurn e₀).store i with
        documents := (Engine.effectAt (c.atTurn e₀) c.clock.now i m).documents } :=
          Engine.withEffect_store_self hopened
    have hname := Engine.name_of_bare same
    have hdocuments := Engine.documents_of_bare same
    rw [hstore] at hname hdocuments
    rw [hname, hdocuments, Engine.disk_of_bare same] at hs
    have halone := c.alone_waits begins hi
    rw [Engine.takeTurn_mutate_written outcome hs] at halone
    refine .served begins (congrArg Prod.fst halone) ?_
    rw [halone]
    refine Eq.trans ?_ (Engine.bare_withSlot ..).symm
    exact congrArg (fun b : Engine => { b with disk }) same

def served (i first : Nat) (x : Crowd ι) : List ι :=
  x.arrived.take ((x.engine.store i).slot.serving - first)

def head? (i first : Nat) (x : Crowd ι) : Option ι :=
  x.arrived[(x.engine.store i).slot.serving - first]?

def settled (callers : ι → Caller) (i first : Nat) (e₀ : Engine) (x : Crowd ι) : Engine :=
  (serial callers (x.served i first) e₀).2

/-- The callers come to the same as if they were done one after another. -/
structure InOrder (callers : ι → Caller) (n : String) (i first : Nat) (e₀ : Engine)
    (x : Crowd ι) : Prop
    extends Queue i first x where
  lookup : x.engine.cached.lookup n = some i
  settledLookup : (x.settled callers i first e₀).cached.lookup n = some i
  settledOpened : i < (x.settled callers i first e₀).opened.length
  settledSlot : ((x.settled callers i first e₀).store i).slot
    = ⟨(x.engine.store i).slot.serving, (x.engine.store i).slot.serving⟩
  asks : ∀ c t, (x.stage c).turn? = some t → (callers c).Begins n i (.ok (.waits i t))
  unqueued : ∀ c r, x.stage c = .done r → c ∉ x.arrived →
    ∃ q, (callers c).Begins n i q ∧ Stage.begun q = .done r
  results : List.Forall₂ (fun c r => x.stage c = .done r) (x.served i first)
    (serial callers (x.served i first) e₀).1
  current : ∀ c, x.head? i first = some c →
    Reached (callers c) n i (x.settled callers i first e₀) x.engine (x.stage c)
  idle : x.head? i first = none → x.engine.bare i = (x.settled callers i first e₀).bare i

namespace InOrder

variable {callers : ι → Caller} {n : String} {i first : Nat} {e₀ : Engine} {x : Crowd ι}

theorem atRest (h : InOrder callers n i first e₀ x) (hrest : ∀ c, (x.stage c).isAtRest = true)
    : List.Forall₂ (fun c r => x.stage c = .done r) x.arrived (serial callers x.arrived e₀).1
      ∧ x.engine = { (serial callers x.arrived e₀).2 with ids := x.engine.ids } := by
  have hall := h.all_served (fun c => Stage.ticket?_of_isAtRest (hrest c))
  have hserved : x.served i first = x.arrived := by
    unfold served
    rw [hall, Nat.add_sub_cancel_left, List.take_length]
  have hsettled : x.settled callers i first e₀ = (serial callers x.arrived e₀).2 := by
    unfold settled
    rw [hserved]
  have hnone : x.head? i first = none := by
    unfold head?
    rw [hall, Nat.add_sub_cancel_left]
    exact List.getElem?_eq_none (Nat.le_refl _)
  have hslot : (x.engine.store i).slot = ((x.settled callers i first e₀).store i).slot := by
    rw [h.settledSlot]
    exact congrArg (fun drawn => Slot.mk drawn (x.engine.store i).slot.serving)
      (h.drawn.trans hall.symm)
  refine ⟨?_, ?_⟩
  . have hresults := h.results
    rw [hserved] at hresults
    exact hresults
  . rw [← hsettled]
    exact Engine.eq_of_bare (h.idle hnone) hslot

end InOrder

theorem inOrder_gather {callers : ι → Caller} {n : String} {i : Nat} {e : Engine}
    (hi : e.cached.lookup n = some i) (hopened : i < e.opened.length)
    (hfree : (e.store i).slot.isFree = true)
    : InOrder callers n i (e.store i).slot.drawn e (gather e) := by
  have hserving : (e.store i).slot.serving = (e.store i).slot.drawn := by
    simpa [Slot.isFree, Slot.admits] using hfree
  have hserved : (gather e).served i (e.store i).slot.drawn = ([] : List ι) := List.take_nil
  have hsettled : (gather e).settled callers i (e.store i).slot.drawn e = e := by
    unfold settled
    rw [hserved]
    rfl
  constructor
  case toQueue => exact queue_gather hopened hfree
  case lookup => exact hi
  case settledLookup =>
    rw [hsettled]
    exact hi
  case settledOpened =>
    rw [hsettled]
    exact hopened
  case settledSlot =>
    rw [hsettled]
    exact congrArg (fun drawn => Slot.mk drawn (e.store i).slot.serving) hserving.symm
  case asks =>
    intro _ _ h
    cases h
  case unqueued =>
    intro _ _ h
    cases h
  case results =>
    rw [hserved]
    exact .nil
  case current =>
    intro _ h
    cases h
  case idle =>
    intro _
    rw [hsettled]
    rfl

variable [DecidableEq ι]

namespace InOrder

variable {callers : ι → Caller} {n : String} {i first : Nat} {e₀ : Engine} {x : Crowd ι}

theorem results_go (h : InOrder callers n i first e₀ x) {c : ι} {st : Stage} {e : Engine}
    (hdone : (x.stage c).isDone = false)
    : List.Forall₂ (fun d r => (x.go c st e).stage d = .done r) (x.served i first)
      (serial callers (x.served i first) e₀).1 := by
  apply h.results.imp
  intro d r hd
  rw [stage_go_ne, hd]
  intro hdc
  rw [← hdc, hd] at hdone
  cases hdone

theorem go (h : InOrder callers n i first e₀ x) {c : ι} {st : Stage} {e : Engine} {l : List ι}
    (hq : Queue i first { x.go c st e with arrived := l })
    (hserving : (e.store i).slot.serving = (x.engine.store i).slot.serving)
    (hserved : ({ x.go c st e with arrived := l } : Crowd ι).served i first = x.served i first)
    (harrived : x.arrived ⊆ l) (hdone : (x.stage c).isDone = false)
    (hlookup : e.cached.lookup n = some i)
    (hasks : ∀ t, st.turn? = some t → (callers c).Begins n i (.ok (.waits i t)))
    (hanswered : ∀ r, st = .done r → ∃ q, (callers c).Begins n i q ∧ Stage.begun q = .done r)
    (hhead : ({ x.go c st e with arrived := l } : Crowd ι).head? i first = some c →
      Reached (callers c) n i (x.settled callers i first e₀) e st)
    (hothers : ({ x.go c st e with arrived := l } : Crowd ι).head? i first ≠ some c →
      ({ x.go c st e with arrived := l } : Crowd ι).head? i first = x.head? i first
        ∧ e.bare i = x.engine.bare i)
    : InOrder callers n i first e₀ { x.go c st e with arrived := l } := by
  have hsettled : ({ x.go c st e with arrived := l } : Crowd ι).settled callers i first e₀
      = x.settled callers i first e₀ := by
    unfold settled
    rw [hserved]
  -- what has been settled is the same, so that only the caller at the head is to be looked at
  constructor
  case toQueue => exact hq
  case lookup => exact hlookup
  case settledLookup =>
    rw [hsettled]
    exact h.settledLookup
  case settledOpened =>
    rw [hsettled]
    exact h.settledOpened
  case settledSlot =>
    rw [hsettled, h.settledSlot, ← hserving]
    rfl
  case asks =>
    exact forall_stage_go (P := fun d st => ∀ t, st.turn? = some t →
      (callers d).Begins n i (.ok (.waits i t))) hasks
      fun d _ => h.asks d
  case unqueued =>
    exact forall_stage_go (P := fun d st => ∀ r, st = .done r → d ∉ l →
        ∃ q, (callers d).Begins n i q ∧ Stage.begun q = .done r)
      (fun r hr _ => hanswered r hr)
      (fun d _ r hr hnotMem => h.unqueued d r hr fun hmem => hnotMem (harrived hmem))
  case results =>
    rw [hserved]
    exact h.results_go (e := e) hdone
  case current =>
    intro d hd
    rw [hsettled]
    by_cases hdc : d = c
    . rw [hdc] at hd ⊢
      rw [stage_go_self]
      exact hhead hd
    . have hne : ({ x.go c st e with arrived := l } : Crowd ι).head? i first ≠ some c := by
        rw [hd]
        intro heq
        exact hdc (Option.some.inj heq)
      rw [stage_go_ne hdc]
      rw [(hothers hne).1] at hd
      exact (h.current d hd).of_bare (hothers hne).2
  case idle =>
    intro hnone
    have hne : ({ x.go c st e with arrived := l } : Crowd ι).head? i first ≠ some c := by
      rw [hnone]
      nofun
    rw [(hothers hne).1] at hnone
    rw [hsettled, ← h.idle hnone]
    exact (hothers hne).2

theorem stay (h : InOrder callers n i first e₀ x) {c : ι} {st : Stage} {e : Engine}
    (hq : Queue i first (x.go c st e)) (hslot : (e.store i).slot = (x.engine.store i).slot)
    (hdone : (x.stage c).isDone = false) (hlookup : e.cached.lookup n = some i)
    (hasks : ∀ t, st.turn? = some t → (callers c).Begins n i (.ok (.waits i t)))
    (hanswered : ∀ r, st = .done r → ∃ q, (callers c).Begins n i q ∧ Stage.begun q = .done r)
    (hhead : x.head? i first = some c → Reached (callers c) n i (x.settled callers i first e₀) e st)
    (hothers : x.head? i first ≠ some c → e.bare i = x.engine.bare i)
    : InOrder callers n i first e₀ (x.go c st e) := by
  have hserving := congrArg Slot.serving hslot
  have hhead? : (x.go c st e).head? i first = x.head? i first := by
    change x.arrived[(e.store i).slot.serving - first]? = _
    rw [hserving]
    rfl
  refine h.go (l := x.arrived) hq hserving ?_ (List.Subset.refl _) hdone hlookup hasks
    hanswered ?_ ?_
  . change x.arrived.take ((e.store i).slot.serving - first) = _
    rw [hserving]
    rfl
  . intro hc
    exact hhead (hhead?.symm.trans hc)
  . intro hc
    exact ⟨hhead?, hothers (fun heq => hc (hhead?.trans heq))⟩

theorem draw (h : InOrder callers n i first e₀ x) {c : ι} {t : Turn} (hc : x.stage c = .ready i t)
    : InOrder callers n i first e₀
        { x.go c (.queued i t (x.engine.store i).slot.draw.1) (Engine.enqueue i x.engine).2 with
          arrived := x.arrived ++ [c] } := by
  have hserving : ((Engine.enqueue i x.engine).2.store i).slot.serving =
      (x.engine.store i).slot.serving := by
    rw [Engine.enqueue_slot h.opened]
    rfl
  have hle : (x.engine.store i).slot.serving - first ≤ x.arrived.length := by
    have hserving_le := h.serving_le
    rw [h.drawn] at hserving_le
    omega
  have hnotMem : c ∉ x.arrived := h.notMem (by rw [hc]; rfl) (by rw [hc]; rfl)
  -- the caller comes to stand at the head if nobody is there, and changes nothing otherwise
  have hnew : (x.arrived ++ [c])[((Engine.enqueue i x.engine).2.store i).slot.serving - first]? =
    x.head? i first
      ∨ x.head? i first = none
        ∧ (x.arrived ++ [c])[((Engine.enqueue i x.engine).2.store i).slot.serving - first]? =
            some c := by
    rw [hserving]
    cases Nat.lt_or_eq_of_le hle with
    | inl hlt => exact .inl (List.getElem?_append_left hlt)
    | inr heq =>
      right
      unfold head?
      rw [heq]
      exact ⟨List.getElem?_eq_none (Nat.le_refl _), List.getElem?_concat_length ..⟩
  refine h.go (h.toQueue.draw hc) hserving ?_ (List.subset_append_left ..) ?_ h.lookup ?_
    nofun ?_ ?_
  . change (x.arrived ++ [c]).take (((Engine.enqueue i x.engine).2.store i).slot.serving - first) =
      _
    rw [hserving, List.take_append_of_le_length hle]
    rfl
  . rw [hc]
    rfl
  . intro t' ht'
    cases ht'
    exact h.asks c t (by rw [hc]; rfl)
  . intro hhead
    refine .before nofun nofun ?_
    rw [Engine.bare_enqueue]
    apply h.idle
    cases hnew with
    | inl hsame => exact absurd (List.mem_of_getElem? (hsame.symm.trans hhead)) hnotMem
    | inr hnew => exact hnew.1
  . intro hothers
    cases hnew with
    | inl hsame => exact ⟨hsame, Engine.bare_enqueue ..⟩
    | inr hnew => exact absurd hnew.2 hothers

theorem served_release (h : InOrder callers n i first e₀ x) {c : ι} {k : Nat}
    {r : Except Error Answer} (hc : x.stage c = .served i k r)
    : (x.go c (.done r) (Engine.release i x.engine)).served i first = x.served i first ++ [c]
      ∧ (x.go c (.done r) (Engine.release i x.engine)).settled callers i first e₀
        = ((callers c).alone (x.settled callers i first e₀)).2 := by
  have hhead : x.head? i first = some c := h.getElem?_of_held (by rw [hc]; rfl)
  have hserved : (x.go c (.done r) (Engine.release i x.engine)).served i first = x.served i first ++
      [c] := by
    change x.arrived.take (((Engine.release i x.engine).store i).slot.serving - first) = _
    rw [h.toQueue.release_slot hc]
    dsimp only
    rw [Nat.sub_add_comm h.first_le, List.take_add_one]
    unfold head? at hhead
    rw [hhead]
    rfl
  refine ⟨hserved, ?_⟩
  unfold settled
  rw [hserved, serial_concat]

theorem current_release (h : InOrder callers n i first e₀ x) {c : ι} {k : Nat}
    {r : Except Error Answer}
    (hc : x.stage c = .served i k r)
    (hbare : (Engine.release i x.engine).bare i =
      ((callers c).alone (x.settled callers i first e₀)).2.bare i) {d : ι}
    (hd : (x.go c (.done r) (Engine.release i x.engine)).head? i first = some d)
    : Reached (callers d) n i ((callers c).alone (x.settled callers i first e₀)).2
      (Engine.release i x.engine)
        ((x.go c (.done r) (Engine.release i x.engine)).stage d) := by
  have hhead : x.head? i first = some c := h.getElem?_of_held (by rw [hc]; rfl)
  -- The one that is served next stands behind the one that was served, and so is another one.
  have hdc : d ≠ c := by
    intro hdc
    rw [hdc] at hd
    change x.arrived[((Engine.release i x.engine).store i).slot.serving - first]? = _ at hd
    rw [h.toQueue.release_slot hc] at hd
    dsimp only at hd
    rw [Nat.sub_add_comm h.first_le] at hd
    have hsame := hhead.trans hd.symm
    exact absurd ((List.getElem?_inj (List.getElem?_eq_some_iff.mp hhead).1 h.nodup).mp hsame)
      (Nat.ne_of_lt (Nat.lt_succ_self _))
  have hheld : ∀ k', (x.stage d).held? ≠ some k' := by
    intro k' hk'
    have hticket : (x.stage c).ticket? = some k := by rw [hc]; rfl
    rw [h.held d k' hk', ← h.held c k (by rw [hc]; rfl)] at hk'
    exact hdc (h.ticket_inj (Stage.ticket?_of_held? hk') hticket)
  rw [stage_go_ne hdc]
  refine .before ?_ ?_ hbare
  . intro k' a hst
    exact hheld k' (by rw [hst]; rfl)
  . intro k' r' hst
    exact hheld k' (by rw [hst]; rfl)

theorem release (h : InOrder callers n i first e₀ x) {c : ι} {k : Nat} {r : Except Error Answer}
    (hc : x.stage c = .served i k r)
    : InOrder callers n i first e₀ (x.go c (.done r) (Engine.release i x.engine)) := by
  obtain ⟨hserved, hsettled⟩ := h.served_release hc
  have hhead : x.head? i first = some c := h.getElem?_of_held (by rw [hc]; rfl)
  have hcurrent := h.current c hhead
  rw [hc] at hcurrent
  -- the caller has had its turn, so that the engine is what the caller leaves alone
  cases hcurrent with
  | before _ h' => exact absurd rfl (h' k r)
  | @served m _ _ begins result same =>
    have hbare : (Engine.release i x.engine).bare i
        = ((callers c).alone (x.settled callers i first e₀)).2.bare i :=
          (Engine.bare_release ..).trans same
    constructor
    case toQueue => exact h.toQueue.release hc
    case lookup => exact h.lookup
    case settledLookup =>
      rw [hsettled, ← Engine.cached_of_bare hbare]
      exact h.lookup
    case settledOpened =>
      rw [hsettled, ← Engine.length_of_bare same]
      exact h.opened
    case settledSlot =>
      rw [hsettled, (callers c).alone_slot begins h.settledLookup h.settledOpened, h.settledSlot,
        Slot.passed_free]
      exact congrArg (fun s : Slot => Slot.mk s.serving s.serving) (h.toQueue.release_slot hc).symm
    case asks =>
      exact forall_stage_go (P := fun d st => ∀ t, st.turn? = some t →
        (callers d).Begins n i (.ok (.waits i t))) nofun
        fun d _ => h.asks d
    case unqueued =>
      intro d r' hd hnotMem
      have hdc : d ≠ c := by
        intro hdc
        rw [hdc] at hnotMem
        exact hnotMem (List.mem_of_getElem? hhead)
      rw [stage_go_ne hdc] at hd
      exact h.unqueued d r' hd hnotMem
    case results =>
      rw [hserved, serial_concat]
      apply List.rel_append
      . apply h.results_go
        rw [hc]
        rfl
      . refine .cons ?_ .nil
        rw [stage_go_self, ← result]
        rfl
    case current =>
      intro d hd
      rw [hsettled]
      exact h.current_release hc hbare hd
    case idle =>
      intro _
      rw [hsettled]
      exact hbare

theorem queue_advance (h : InOrder callers n i first e₀ x) (c : ι)
    (hmutates : (callers c).request.Mutates n)
    : Queue i first (Crowd.advance callers x c) := by
  apply h.toQueue.advance
  intro j t e _ hb
  exact ((Engine.begin_inUse hmutates.target (e := (callers c).atCall x.engine) h.lookup hb).2 j
    t rfl).1

theorem call (h : InOrder callers n i first e₀ x) {c : ι} (hmutates : (callers c).request.Mutates n)
    (hc : x.stage c = .called) : InOrder callers n i first e₀ (Crowd.advance callers x c) := by
  have hq := h.queue_advance c hmutates
  rcases hb : Engine.begin (callers c).request ((callers c).atCall x.engine) with ⟨r, e⟩
  obtain ⟨hbegins, ids, rfl⟩ := (callers c).begins hmutates h.lookup hb
  have hnotMem : c ∉ x.arrived := h.notMem (by rw [hc]; rfl) (by rw [hc]; rfl)
  rw [advance_called hc hb] at hq ⊢
  refine h.stay hq rfl ?_ h.lookup ?_ ?_ ?_ ?_
  . rw [hc]; rfl
  . intro t ht
    obtain ⟨j, rfl⟩ := Stage.of_turn?_begun ht
    rw [(hbegins.waits hmutates h.lookup).1] at hbegins
    exact hbegins
  . intro r' hr'
    exact ⟨r, hbegins, hr'⟩
  . intro hhead
    exact absurd (List.mem_of_getElem? hhead) hnotMem
  . intro _
    rfl

theorem enter (h : InOrder callers n i first e₀ x) {c : ι} {t : Turn} {k : Nat}
    (hmutates : (callers c).request.Mutates n) (hc : x.stage c = .queued i t k)
    : InOrder callers n i first e₀ (Crowd.advance callers x c) := by
  have hq := h.queue_advance c hmutates
  rw [advance_queued hc] at hq ⊢
  split at hq
  next hadmits =>
    rw [if_pos hadmits]
    refine h.stay hq rfl ?_ h.lookup ?_ nofun ?_ ?_
    . rw [hc]; rfl
    . intro t' ht'
      cases ht'
      exact h.asks c t (by rw [hc]; rfl)
    . intro hhead
      have hcurrent := h.current c hhead
      rw [hc] at hcurrent
      cases hcurrent with
      | before _ _ same => exact .before nofun nofun same
    . intro _
      rfl
  next hadmits =>
    rw [if_neg hadmits]
    exact h

theorem change (h : InOrder callers n i first e₀ x) {c : ι} {t : Turn} {k : Nat}
    (hmutates : (callers c).request.Mutates n) (hc : x.stage c = .entered i t k)
    : InOrder callers n i first e₀ (Crowd.advance callers x c) := by
  have hq := h.queue_advance c hmutates
  have hasks := h.asks c t (by rw [hc]; rfl)
  -- The turn of a mutation is the mutation: neither a removal nor a release of all collections
  -- comes between.
  obtain ⟨_, m, rfl⟩ := hasks.waits hmutates h.lookup
  have hhead : x.head? i first = some c := h.getElem?_of_held (by rw [hc]; rfl)
  have hcurrent := h.current c hhead
  rw [advance_entered_mutate hc] at hq ⊢
  refine h.stay hq (Engine.withEffect_slot ..) ?_ h.lookup ?_ ?_ ?_ ?_
  . rw [hc]; rfl
  . intro t' ht'
    rw [Stage.turn?_turned] at ht'
    cases ht'
  . intro r hr
    have hdone := Stage.isDone_turned i k
      (Engine.effectAt ((callers c).atTurn x.engine) (callers c).clock.now i m).outcome
    rw [hr] at hdone
    cases hdone
  . intro _
    rw [hc] at hcurrent
    cases hcurrent with
    | before _ _ same => exact .turn hasks h.settledLookup same k
  . intro hothers
    exact absurd hhead hothers

theorem write (h : InOrder callers n i first e₀ x) {c : ι} {k : Nat} {a : Answer}
    (hmutates : (callers c).request.Mutates n) (hc : x.stage c = .changed i k a)
    : InOrder callers n i first e₀ (Crowd.advance callers x c) := by
  have hq := h.queue_advance c hmutates
  have hhead : x.head? i first = some c := h.getElem?_of_held (by rw [hc]; rfl)
  have hcurrent := h.current c hhead
  rw [advance_changed hc rfl] at hq ⊢
  refine h.stay hq rfl ?_ h.lookup nofun nofun ?_ ?_
  . rw [hc]; rfl
  . intro _
    rw [hc] at hcurrent
    exact hcurrent.write h.settledLookup h.settledOpened rfl
  . intro hothers
    exact absurd hhead hothers

theorem advance (h : InOrder callers n i first e₀ x) (c : ι)
    (hmutates : (callers c).request.Mutates n)
    : InOrder callers n i first e₀ (advance callers x c) := by
  have hplace := h.place c
  cases hc : x.stage c with
  | called => exact h.call hmutates hc
  | ready j t =>
    rw [hplace j (by rw [hc]; rfl)] at hc
    rw [advance_ready hc]
    exact h.draw hc
  | queued j t k =>
    rw [hplace j (by rw [hc]; rfl)] at hc
    exact h.enter hmutates hc
  | entered j t k =>
    rw [hplace j (by rw [hc]; rfl)] at hc
    exact h.change hmutates hc
  | changed j k a =>
    rw [hplace j (by rw [hc]; rfl)] at hc
    exact h.write hmutates hc
  | served j k r =>
    rw [hplace j (by rw [hc]; rfl)] at hc
    rw [advance_served hc]
    exact h.release hc
  | done r =>
    rw [advance_done hc]
    exact h

theorem run (h : InOrder callers n i first e₀ x) (hmutates : ∀ c, (callers c).request.Mutates n)
    (schedule : List ι)
    : InOrder callers n i first e₀ (run callers x schedule) := by
  induction schedule generalizing x with
  | nil => exact h
  | cons c schedule ih => exact ih (h.advance c (hmutates c))

end InOrder

/--
Mutations of a collection in use whose steps interleave can always go on until all of them have
their answers. The engine, its documents and its directory are then those that the mutations leave
one after another, in the order in which they drew their tickets, and so are their answers; one that
draws no ticket can come at any time. Only the identifiers that are left may differ.
-/
theorem run_serial {callers : ι → Caller} {n : String} {i : Nat} {e : Engine} (he : e.Reachable)
    (hi : e.cached.lookup n = some i) (hfree : (e.store i).slot.isFree = true)
    (hmutates : ∀ c, (callers c).request.Mutates n) (schedule : List ι)
    : let x := run callers (gather e) schedule
      (∃ more, ∀ c, ((run callers x more).stage c).isAtRest = true)
        ∧ ((∀ c, (x.stage c).isAtRest = true) →
          x.arrived.Nodup ∧ x.arrived ⊆ schedule
            ∧ ∀ order : List ι, order.Nodup → (∀ c, c ∈ order ↔ c ∈ schedule) →
              x.arrived.Sublist order →
              List.Forall₂ (fun c r => x.stage c = .done r) order (serial callers order e).1
                ∧ x.engine = { (serial callers order e).2 with ids := x.engine.ids }) := by
  intro x
  have h : InOrder callers n i (e.store i).slot.drawn e x :=
    (inOrder_gather hi (he.sound.store_of_lookup hi).1 hfree).run hmutates schedule
  have hscheduled : ∀ c, c ∈ schedule ↔ x.stage c ≠ .called := by
    intro c
    rw [Ne, run_stage_eq_called]
    simp [gather]
  refine ⟨?_, ?_⟩
  . apply h.exists_rest schedule.toFinset
    intro c hc
    rw [List.mem_toFinset, hscheduled]
    intro hcalled
    rw [hcalled] at hc
    cases hc
  . intro hrest
    obtain ⟨hresults, hengine⟩ := h.atRest hrest
    refine ⟨h.nodup, ?_, ?_⟩
    . intro c hc
      rw [hscheduled]
      intro hcalled
      exact h.notMem (by rw [hcalled]; rfl) (by rw [hcalled]; rfl) hc
    . intro order hnodup horder hsublist
      -- those that have drawn no ticket got their answers when they began
      have hanswered : ∀ c ∈ order, c ∉ x.arrived →
          ∃ q a, (callers c).Begins n i q ∧ Stage.begun q = .done a ∧ x.stage c = .done a := by
        intro c hc hnotMem
        rw [horder, hscheduled] at hc
        cases hstage : x.stage c with
        | done a =>
          obtain ⟨q, hbegins, hq⟩ := h.unqueued c a hstage hnotMem
          exact ⟨q, a, hbegins, hq, rfl⟩
        | called => exact absurd hstage hc
        | _ =>
          have hc := hrest c
          rw [hstage] at hc
          cases hc
      obtain ⟨hordered, ids, heq⟩ :=
        serial_sublist hmutates hsublist hnodup hanswered e.ids hi hresults
      refine ⟨hordered, ?_⟩
      rw [hengine]
      exact congrArg (fun b : Engine => { b with ids := x.engine.ids }) heq.symm

def createAndDelete : Bool → Caller
  | false => { request := .call (.createOne (.text "c") (.object [(.text "_id", .int 1)])) }
  | true => { request := .call (.deleteOne (.text "c") (.int 1)) }

def createFirst : List Bool :=
  [true, false, false, false, true, false, true, false, false, true, true, true, true]

theorem run_serial_createFirst
    : let x := run createAndDelete (gather Engine.openedEngine) createFirst
      (∀ c, (x.stage c).isAtRest = true)
        ∧ List.Forall₂ (fun c r => x.stage c = .done r) [false, true]
          (serial createAndDelete [false, true] Engine.openedEngine).1 := by
  have hrest : ∀ c,
      ((run createAndDelete (gather Engine.openedEngine) createFirst).stage c).isAtRest = true := by
    decide +kernel
  have harrived : (run createAndDelete (gather Engine.openedEngine) createFirst).arrived =
      [false, true] := by
    decide +kernel
  have hmutates : ∀ c, (createAndDelete c).request.Mutates "c" := by
    intro c
    cases c <;> exact ⟨rfl, rfl⟩
  obtain ⟨_, _, horder⟩ :=
    (run_serial Engine.openedEngine_reachable (n := "c") (i := 0) (by decide +kernel)
    (by decide +kernel) hmutates createFirst).2 hrest
  refine ⟨hrest, (horder [false, true] (by decide) (by decide) ?_).1⟩
  rw [harrived]

end Crowd

end DocStore

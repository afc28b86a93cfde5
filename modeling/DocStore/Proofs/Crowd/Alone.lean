import DocStore.Proofs.Crowd.Queue
import DocStore.Proofs.Engine.Bare
import DocStore.Proofs.Engine.Cached

/-!
This module contains callers of one engine that come one after another: mutations of a collection
that is in use.
-/

namespace DocStore

open Work

theorem Slot.passed_free (k : Nat) : Slot.passed ⟨k, k⟩ = ⟨k + 1, k + 1⟩ := by
  unfold Slot.passed Slot.release Slot.draw
  dsimp only
  rw [if_neg (Nat.not_succ_le_self k)]

namespace Engine

theorem passed_slot {e : Engine} {i : Nat} (hi : i < e.opened.length)
    : ((passed i e).store i).slot = (e.store i).slot.passed := by
  unfold passed withSlot
  rw [store_setStore_self hi]

end Engine

namespace Caller

theorem alone_eq_run {c : Caller} {e : Engine} (hfails : c.fails = [])
    (hlate : (Engine.begin c.request (c.atCall e)).2.ids = c.late)
    : c.alone e = Engine.run c.clock.now c.request (c.atCall e) := by
  unfold alone
  rcases hb : Engine.begin c.request (c.atCall e) with ⟨r, e₁⟩
  rw [hb] at hlate
  rcases r with err | ⟨a⟩ | ⟨i, t⟩
  . rw [Engine.run_error hb]
  . rw [Engine.run_answered hb]
  . have hturn : c.atTurn (Engine.enqueue i e₁).2 = (Engine.enqueue i e₁).2 := by
      unfold atTurn
      rw [hfails, ← hlate]
      rfl
    rw [Engine.run_waits hb, ← Engine.serve_enqueue]
    dsimp only
    rw [hturn]

def Begins (c : Caller) (n : String) (i : Nat) (r : Except Error Start) : Prop :=
  ∃ ids, ∀ e : Engine, e.cached.lookup n = some i →
    Engine.begin c.request (c.atCall e) = (r, { e with ids })

section

variable {c : Caller} {n : String} {i : Nat} {e e' : Engine}

theorem begins {r : Except Error Start} (h : c.request.Mutates n) (hi : e.cached.lookup n = some i)
    (hb : Engine.begin c.request (c.atCall e) = (r, e'))
    : c.Begins n i r ∧ ∃ ids, e' = { e with ids } := by
  obtain ⟨f, hf⟩ := Engine.begin_onlyDraws (i := i) h
  rw [hf (c.atCall e) hi] at hb
  cases hb
  exact ⟨⟨(f c.early).2, fun e he => hf (c.atCall e) he⟩, (f c.early).2, rfl⟩

theorem Begins.waits {j : Nat} {t : Turn} (hb : c.Begins n i (.ok (.waits j t)))
    (h : c.request.Mutates n)
    (hi : e.cached.lookup n = some i) : j = i ∧ ∃ m, t = .mutate m := by
  obtain ⟨ids, hb⟩ := hb
  exact (Engine.begin_inUse h.target (e := c.atCall e) hi (hb e hi)).2 j t rfl

theorem atTurn_of_bare (c : Caller) (h : e.bare i = e'.bare i)
    : (c.atTurn e).bare i = (c.atTurn e').bare i := by
  have hturn : ∀ e : Engine,
      (c.atTurn e).bare i =
          { e.bare i with disk := c.fails.foldl (fun d f => d.trouble f.1 f.2) e.disk } :=
    fun _ => rfl
  rw [hturn, hturn, h, Engine.disk_of_bare h]

theorem alone_waits {t : Turn} (hb : c.Begins n i (.ok (.waits i t)))
    (hi : e.cached.lookup n = some i)
    : c.alone e = ((Engine.takeTurn c.clock.now i t (c.atTurn e)).1,
        Engine.passed i (Engine.takeTurn c.clock.now i t (c.atTurn e)).2) := by
  obtain ⟨ids, hb⟩ := hb
  unfold alone
  rw [hb e hi, ← Engine.serve_enqueue]
  rfl

theorem alone_slot (c : Caller) {t : Turn} (hb : c.Begins n i (.ok (.waits i t)))
    (hi : e.cached.lookup n = some i)
    (hopened : i < e.opened.length) : ((c.alone e).2.store i).slot = (e.store i).slot.passed := by
  rw [alone_waits hb hi]
  dsimp only
  rw [Engine.passed_slot, Engine.takeTurn_slot]
  . rfl
  . rw [Engine.takeTurn_length]
    exact hopened

theorem alone_answered {r : Except Error Start} {a : Except Error Answer} (hb : c.Begins n i r)
    (ha : Stage.begun r = .done a) (hi : e.cached.lookup n = some i)
    : ∃ ids, c.alone e = (a, { e with ids }) := by
  obtain ⟨ids, hb⟩ := hb
  refine ⟨ids, ?_⟩
  unfold alone
  rw [hb e hi]
  unfold Stage.begun at ha
  split at ha
  . cases ha; rfl
  . cases ha; rfl
  . cases ha

theorem alone_lookup (h : c.request.Mutates n) (hi : e.cached.lookup n = some i)
    : (c.alone e).2.cached.lookup n = some i := by
  rcases hb : Engine.begin c.request (c.atCall e) with ⟨r, e'⟩
  obtain ⟨hbegins, _⟩ := begins h hi hb
  rcases r with err | ⟨a⟩ | ⟨j, t⟩
  . obtain ⟨ids, halone⟩ := alone_answered hbegins rfl hi
    rw [halone]
    exact hi
  . obtain ⟨ids, halone⟩ := alone_answered hbegins rfl hi
    rw [halone]
    exact hi
  . obtain ⟨rfl, m, rfl⟩ := hbegins.waits h hi
    obtain ⟨disk, hmemory⟩ := Engine.takeTurn_mutate_memory (c.atTurn e) c.clock.now j m
    rw [alone_waits hbegins hi, hmemory]
    exact hi

end

end Caller

namespace Crowd

variable {ι : Type}

def serial (callers : ι → Caller) : List ι → Engine → List (Except Error Answer) × Engine
  | [], e => ([], e)
  | c :: cs, e =>
    let (r, e) := (callers c).alone e
    let (rs, e) := serial callers cs e
    (r :: rs, e)

theorem serial_cons (callers : ι → Caller) (c : ι) (cs : List ι) (e : Engine)
    : serial callers (c :: cs) e
      = (((callers c).alone e).1 :: (serial callers cs ((callers c).alone e).2).1,
          (serial callers cs ((callers c).alone e).2).2) := rfl

theorem serial_concat (callers : ι → Caller) (cs : List ι) (c : ι) (e : Engine)
    : serial callers (cs ++ [c]) e
      = ((serial callers cs e).1 ++ [((callers c).alone (serial callers cs e).2).1],
          ((callers c).alone (serial callers cs e).2).2) := by
  induction cs generalizing e with
  | nil => rfl
  | cons d cs ih =>
    rw [List.cons_append, serial_cons, serial_cons, ih]
    rfl

theorem serial_sublist {callers : ι → Caller} {n : String} {i : Nat}
    {P : ι → Except Error Answer → Prop}
    (hmutates : ∀ c, (callers c).request.Mutates n) {arrived order : List ι}
    (h : arrived.Sublist order)
    (hnodup : order.Nodup)
    (hanswered : ∀ c ∈ order, c ∉ arrived → ∃ q a, (callers c).Begins n i q ∧
      Stage.begun q = .done a ∧ P c a)
    {e : Engine} (ids : IdSupply) (hi : e.cached.lookup n = some i)
    (hresults : List.Forall₂ P arrived (serial callers arrived e).1)
    : List.Forall₂ P order (serial callers order { e with ids }).1
      ∧ ∃ ids', (serial callers order { e with ids }).2 =
        { (serial callers arrived e).2 with ids := ids' } := by
  induction h generalizing e ids with
  | slnil => exact ⟨.nil, ids, rfl⟩
  | @cons arrived order c h ih =>
    rw [List.nodup_cons] at hnodup
    have hnotMem : c ∉ arrived := fun hc => hnodup.1 (h.subset hc)
    obtain ⟨q, a, hbegins, hq, ha⟩ := hanswered c (List.mem_cons_self ..) hnotMem
    obtain ⟨ids₁, halone⟩ := (callers c).alone_answered (e := { e with ids }) hbegins hq hi
    obtain ⟨hrest, ids₂, heq⟩ :=
      ih hnodup.2 (fun d hd => hanswered d (List.mem_cons_of_mem _ hd)) ids₁ hi hresults
    rw [serial_cons, halone]
    exact ⟨.cons ha hrest, ids₂, heq⟩
  | @cons_cons arrived order c h ih =>
    rw [List.nodup_cons] at hnodup
    cases hresults with
    | cons hc hresults =>
      have hanswered' : ∀ d ∈ order, d ∉ arrived →
          ∃ q a, (callers d).Begins n i q ∧ Stage.begun q = .done a ∧ P d a := by
        intro d hd hnotMem
        apply hanswered d (List.mem_cons_of_mem _ hd)
        intro hmem
        cases List.mem_cons.mp hmem with
        | inl heq => exact hnodup.1 (heq ▸ hd)
        | inr hmem => exact hnotMem hmem
      obtain ⟨hrest, ids₂, heq⟩ := ih hnodup.2 hanswered' ((callers c).alone e).2.ids
        ((callers c).alone_lookup (hmutates c) hi) hresults
      exact ⟨.cons hc hrest, ids₂, heq⟩

end Crowd

end DocStore

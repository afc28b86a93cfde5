import DocStore.Proofs.Crowd.Apart
import DocStore.Proofs.Crowd.Progress
import DocStore.Proofs.Engine.Cached
import DocStore.Proofs.Engine.Unique

/-!
This module contains what becomes of the documents of a collection that is dropped while other
callers read it and change it.
-/

namespace DocStore

namespace Engine

theorem enqueue_name (i : Nat) (e : Engine) (j : Nat)
    : ((enqueue i e).2.store j).name = (e.store j).name :=
  withSlot_name i j (fun s => s.draw.2) e

theorem release_name (i : Nat) (e : Engine) (j : Nat)
    : ((release i e).store j).name = (e.store j).name :=
  withSlot_name i j Slot.released e

theorem withEffect_name (e : Engine) (now : Moment) (i : Nat) (m : Mutation) (j : Nat)
    : ((withEffect e now i m).store j).name = (e.store j).name :=
  store_setStore_keep (p := Store.name)
    (f := fun s => { s with documents := (effectAt e now i m).documents }) (fun _ => rfl) e i j

theorem removal_gone {n : String} {d : Disk} {existed : Bool} (h : (removal n d).1 = .ok existed)
    : (removal n d).2.get? (.given (Collection.fileName n)) = none := by
  unfold removal at h ⊢
  rcases hr : Filing.remove (Collection.fileName n) d with ⟨r, d'⟩
  rw [hr] at h
  cases Filing.remove_removes hr with
  | absent habsent =>
    unfold Disk.contains at habsent
    simpa using habsent
  | done present gone => exact gone
  | failed => cases h

theorem Opens.mem_of_place {e e₁ : Engine} (h : Opens e e₁) {i : Nat} (hi : i < e.opened.length)
    {c : String × Nat}
    (hc : c ∈ e₁.cached) (hplace : c.2 = i) : c ∈ e.cached := by
  cases h with
  | none => exact hc
  | load =>
    cases List.mem_append.mp hc with
    | inl hc => exact hc
    | inr hc =>
      rw [List.mem_singleton.mp hc] at hplace
      exact absurd hplace.symm (Nat.ne_of_lt hi)

theorem begin_mem_of_place {q : Request} {n : String} {i : Nat} {e e₁ : Engine}
    {r : Except Error Start} (h : q.target? = some (.text n)) (hi : i < e.opened.length)
    (hb : begin q e = (r, e₁)) {c : String × Nat}
    (hc : c ∈ e₁.cached) (hplace : c.2 = i) : c ∈ e.cached := by
  cases begin_hasBegun hb with
  | call hbegun => exact hbegun.opens.mem_of_place hi hc hplace
  | flush opens => exact opens.mem_of_place hi hc hplace
  | _ => cases h

end Engine

def Stage.isReady : Stage → Bool
  | .ready _ _ => true
  | _ => false

def Stage.isRemoving : Stage → Bool
  | .ready _ .removeFile => true
  | .queued _ .removeFile _ => true
  | .entered _ .removeFile _ => true
  | .served _ _ _ => true
  | .done _ => true
  | _ => false

namespace Stage

def truth? : Stage → Option Bool
  | .done (.ok (.truth b)) => some b
  | _ => none

def count? : Stage → Option Int
  | .done (.ok (.number (.int n))) => some n
  | _ => none

theorem of_truth? {st : Stage} {b : Bool} (h : st.truth? = some b)
    : st = .done (.ok (.truth b)) := by
  unfold truth? at h
  split at h
  . cases h
    rfl
  . cases h

theorem of_count? {st : Stage} {n : Int} (h : st.count? = some n)
    : st = .done (.ok (.number (.int n))) := by
  unfold count? at h
  split at h
  . cases h
    rfl
  . cases h

theorem turn?_of_isRemoving {st : Stage} {t : Turn} (h : st.isRemoving = true)
    (ht : st.turn? = some t)
    : t = .removeFile := by
  cases st <;> cases ht <;> cases t <;> cases h <;> rfl

theorem isReady_turned (i k : Nat) (r : Except Error (Answer × Bool))
    : (turned i k r).isReady = false := by
  unfold turned
  split <;> rfl

end Stage

namespace Crowd

variable {ι : Type}

structure Using (n : String) (i first : Nat) (x : Crowd ι) : Prop extends Queue i first x where
  name : (x.engine.store i).name = n
  lookup : x.engine.cached.lookup n = some i
  only : ∀ c ∈ x.engine.cached, c.2 = i → c.1 = n
  mutates : ∀ c t, (x.stage c).turn? = some t → ∃ m, t = .mutate m

/--
A caller drops the collection of a name, which others have begun to use before; nobody has begun
since. When the caller has drawn its ticket, nobody is left that is about to draw one.
-/
structure Dropping (n : String) (i first : Nat) (d : ι) (x : Crowd ι)
    : Prop extends Queue i first x where
  name : (x.engine.store i).name = n
  absent : x.engine.cached.lookup n = none
  unused : ∀ c ∈ x.engine.cached, c.2 ≠ i
  removes : (x.stage d).isRemoving = true
  mutates : ∀ c t, c ≠ d → (x.stage c).turn? = some t → ∃ m, t = .mutate m
  last : (x.stage d).isReady = false → x.arrived.getLast? = some d ∧
    ∀ c, (x.stage c).isReady = false
  gone : (∃ j k, x.stage d = .served j k (.ok (.truth true))) ∨
    x.stage d = .done (.ok (.truth true)) →
    x.engine.file? n = none

namespace Dropping

variable {n : String} {i first : Nat} {d : ι} {x : Crowd ι}

theorem unheld (h : Dropping n i first d x) {c : ι} (hcd : c ≠ d)
    (hd : (∃ j k r, x.stage d = .served j k r) ∨ ∃ r, x.stage d = .done r)
    : (x.stage c).held? = none := by
  rw [Option.eq_none_iff_forall_ne_some]
  intro k hk
  have hc := h.getElem?_of_held hk
  cases hd with
  | inl hd =>
    obtain ⟨j, l, r, hd⟩ := hd
    have hhead := h.getElem?_of_held (c := d) (k := l) (by rw [hd]; rfl)
    rw [hc] at hhead
    exact hcd (Option.some.inj hhead)
  | inr hd =>
    obtain ⟨r, hd⟩ := hd
    have hlast := (h.last (by rw [hd]; rfl)).1
    have hnone := h.unticketed_of_last hlast (by rw [hd]; rfl) c
    rw [Stage.ticket?_of_held? hk] at hnone
    cases hnone

theorem turn?_ne (h : Dropping n i first d x) (c : ι) : (x.stage c).turn? ≠ some .releaseAll := by
  intro ht
  by_cases hcd : c = d
  . rw [hcd] at ht
    cases Stage.turn?_of_isRemoving h.removes ht
  . obtain ⟨m, hm⟩ := h.mutates c _ hcd ht
    cases hm

theorem apart (h : Dropping n i first d x) (hdone : (x.stage d).isDone = true)
    (hready : (x.stage d).isReady = false)
    : Apart i x := by
  obtain ⟨hlast, hall⟩ := h.last hready
  refine ⟨⟨h.opened, h.unused⟩, ?_⟩
  intro c j hc
  have hticket := h.unticketed_of_last hlast hdone c
  have hc' := hall c
  cases hst : x.stage c with
  | ready k t =>
    rw [hst] at hc'
    cases hc'
  | called =>
    rw [hst] at hc
    cases hc
  | done r =>
    rw [hst] at hc
    cases hc
  | _ =>
    rw [hst] at hticket
    cases hticket

end Dropping

theorem using_gather {e : Engine} (he : e.Reachable) {n : String} {i : Nat}
    (hi : e.cached.lookup n = some i)
    (hfree : (e.store i).slot.isFree = true)
    : Using n i (e.store i).slot.drawn (gather e : Crowd ι) := by
  obtain ⟨hopened, hname⟩ := he.sound.store_of_lookup hi
  refine ⟨queue_gather hopened hfree, hname, hi, ?_, nofun⟩
  intro c hc hplace
  obtain ⟨s, hs, hsc⟩ := he.sound.places c hc
  rw [hplace] at hs
  rw [← hsc, ← hname, Engine.store_eq hs]

variable [DecidableEq ι] {callers : ι → Caller}

theorem advance_keeps (callers : ι → Caller) {x : Crowd ι} {c : ι} (hcalled : x.stage c ≠ .called)
    (hturn : (x.stage c).turn? ≠ some .releaseAll)
    : (advance callers x c).engine.cached = x.engine.cached
      ∧ (∀ j, ((advance callers x c).engine.store j).name = (x.engine.store j).name)
      ∧ ((advance callers x c).stage c).isReady = false
      ∧ ∀ t, ((advance callers x c).stage c).turn? = some t → (x.stage c).turn? = some t := by
  cases hc : x.stage c with
  | called => exact absurd hc hcalled
  | ready i t =>
    rw [advance_ready hc]
    dsimp only
    rw [stage_go_self]
    exact ⟨rfl, Engine.enqueue_name i x.engine, rfl, fun _ ht => ht⟩
  | queued i t k =>
    rw [advance_queued hc]
    split
    . rw [stage_go_self]
      exact ⟨rfl, fun _ => rfl, rfl, fun _ ht => ht⟩
    . rw [hc]
      exact ⟨rfl, fun _ => rfl, rfl, fun _ ht => ht⟩
  | entered i t k =>
    cases t with
    | mutate m =>
      rw [advance_entered_mutate hc, stage_go_self, Stage.isReady_turned, Stage.turn?_turned]
      exact ⟨rfl, Engine.withEffect_name _ _ i m, rfl, nofun⟩
    | removeFile =>
      rw [advance_entered hc nofun, stage_go_self, Engine.takeTurn_removeFile]
      exact ⟨rfl, fun _ => rfl, rfl, nofun⟩
    | releaseAll =>
      rw [hc] at hturn
      exact absurd rfl hturn
  | changed i k a =>
    rw [advance_changed hc rfl, stage_go_self]
    exact ⟨rfl, fun _ => rfl, rfl, nofun⟩
  | served i k r =>
    rw [advance_served hc, stage_go_self]
    exact ⟨rfl, Engine.release_name i x.engine, rfl, nofun⟩
  | done r =>
    rw [advance_done hc, hc]
    exact ⟨rfl, fun _ => rfl, rfl, nofun⟩

theorem advance_disk {x : Crowd ι} {c : ι} (hcalled : x.stage c ≠ .called)
    (hheld : (x.stage c).held? = none)
    : (advance callers x c).engine.disk = x.engine.disk := by
  cases hc : x.stage c with
  | called => exact absurd hc hcalled
  | ready i t => rw [advance_ready hc]; rfl
  | queued i t k =>
    rw [advance_queued hc]
    split <;> rfl
  | done r => rw [advance_done hc]
  | _ =>
    rw [hc] at hheld
    cases hheld

theorem run_stage_done {x : Crowd ι} {c : ι} {r : Except Error Answer} (hc : x.stage c = .done r)
    (schedule : List ι)
    : (run callers x schedule).stage c = .done r := by
  induction schedule generalizing x with
  | nil => exact hc
  | cons d schedule ih =>
    apply ih
    by_cases hcd : c = d
    . rw [← hcd, advance_done hc, hc]
    . rw [advance_stage_ne x hcd, hc]

theorem Using.advance {n : String} {i first : Nat} {x : Crowd ι} (h : Using n i first x) {c : ι}
    (htarget : (callers c).request.target? = some (.text n))
    : Using n i first (advance callers x c) := by
  have hbegin : ∀ {r e}, Engine.begin (callers c).request ((callers c).atCall x.engine) = (r, e) →
      e.cached.lookup n = some i ∧ ∀ j t, r = .ok (.waits j t) → j = i ∧ ∃ m, t = .mutate m :=
    fun hb => Engine.begin_inUse htarget (e := (callers c).atCall x.engine) h.lookup hb
  have hq : Queue i first (Crowd.advance callers x c) :=
    h.toQueue.advance (fun j t _ _ hb => ((hbegin hb).2 j t rfl).1)
  by_cases hcalled : x.stage c = .called
  . rcases hb : Engine.begin (callers c).request ((callers c).atCall x.engine) with ⟨r, e⟩
    rw [advance_called hcalled hb] at hq ⊢
    refine ⟨hq, ?_, (hbegin hb).1, ?_, ?_⟩
    . exact (congrArg Store.name (Engine.begin_store hb (i := i) h.opened).2).trans h.name
    . intro p hp hplace
      exact h.only p (Engine.begin_mem_of_place htarget
        (e := (callers c).atCall x.engine) h.opened hb hp hplace) hplace
    . refine forall_stage_go (P := fun _ st => ∀ t, st.turn? = some t → ∃ m, t = .mutate m) ?_
        fun d _ => h.mutates d
      intro t ht
      obtain ⟨j, rfl⟩ := Stage.of_turn?_begun ht
      exact ((hbegin hb).2 j t rfl).2
  . have hturn : (x.stage c).turn? ≠ some .releaseAll := by
      intro ht
      obtain ⟨m, hm⟩ := h.mutates c _ ht
      cases hm
    obtain ⟨hcached, hname, _, hturns⟩ := advance_keeps callers hcalled hturn
    refine ⟨hq, (hname i).trans h.name, ?_, ?_, ?_⟩
    . rw [hcached]
      exact h.lookup
    . rw [hcached]
      exact h.only
    . exact forall_stage_advance (P := fun _ st => ∀ t, st.turn? = some t → ∃ m, t = .mutate m)
        (fun t ht => h.mutates c t (hturns t ht)) (fun d _ => h.mutates d)

theorem Using.run {n : String} {i first : Nat} {x : Crowd ι} (h : Using n i first x)
    {schedule : List ι} (htarget : ∀ c ∈ schedule, (callers c).request.target? = some (.text n))
    : Using n i first (run callers x schedule) := by
  induction schedule generalizing x with
  | nil => exact h
  | cons c schedule ih =>
    exact ih (h.advance (htarget c (List.mem_cons_self ..))) fun d hd =>
      htarget d (List.mem_cons_of_mem _ hd)

theorem advance_arrived {x : Crowd ι} {c : ι} (hready : (x.stage c).isReady = false)
    : (advance callers x c).arrived = x.arrived := by
  cases hc : x.stage c with
  | ready i t =>
    rw [hc] at hready
    cases hready
  | called => rw [advance_called hc rfl]; rfl
  | queued i t k =>
    rw [advance_queued hc]
    split <;> rfl
  | entered i t k =>
    cases t with
    | mutate m => rw [advance_entered_mutate hc]; rfl
    | _ => rw [advance_entered hc nofun]; rfl
  | changed i k a => rw [advance_changed hc rfl]; rfl
  | served i k r => rw [advance_served hc]; rfl
  | done r => rw [advance_done hc]

theorem advance_isRemoving {x : Crowd ι} {c : ι} (h : (x.stage c).isRemoving = true)
    : ((advance callers x c).stage c).isRemoving = true := by
  cases hst : x.stage c with
  | ready j t =>
    rw [hst] at h
    cases Stage.turn?_of_isRemoving h rfl
    rw [advance_ready hst]
    dsimp only
    rw [stage_go_self]
    rfl
  | queued j t k =>
    rw [hst] at h
    cases Stage.turn?_of_isRemoving h rfl
    rw [advance_queued hst]
    split
    . rw [stage_go_self]
      rfl
    . rw [hst]
      rfl
  | entered j t k =>
    rw [hst] at h
    cases Stage.turn?_of_isRemoving h rfl
    rw [advance_entered hst nofun, stage_go_self]
    rfl
  | served j k r =>
    rw [advance_served hst, stage_go_self]
    rfl
  | done r =>
    rw [advance_done hst, hst]
    rfl
  | _ =>
    rw [hst] at h
    cases h

namespace Dropping

variable {n : String} {i first : Nat} {d : ι} {x : Crowd ι}

theorem advance_last (h : Dropping n i first d x) {c : ι}
    (hready : ((advance callers x c).stage c).isReady = false)
    (hothers : c = d → (x.stage d).isReady = true → ∀ c', c' ≠ d → (x.stage c').isReady = false)
    (hd : ((advance callers x c).stage d).isReady = false)
    : (advance callers x c).arrived.getLast? = some d ∧
      ∀ c', ((advance callers x c).stage c').isReady = false := by
  have hkeep : ∀ c', (x.stage c').isReady = false →
      ((Crowd.advance callers x c).stage c').isReady = false :=
    forall_stage_advance (P := fun c' st => (x.stage c').isReady = false → st.isReady = false)
      (fun _ => hready)
      (fun _ _ hc' => hc')
  cases hdr : (x.stage d).isReady with
  | false =>
    obtain ⟨hlast, hall⟩ := h.last hdr
    rw [advance_arrived (hall c)]
    exact ⟨hlast, fun c' => hkeep c' (hall c')⟩
  | true =>
    by_cases hcd : c = d
    . cases hst : x.stage d with
      | ready j t =>
        refine ⟨?_, ?_⟩
        . rw [hcd, advance_ready hst]
          exact List.getLast?_concat
        . intro c'
          by_cases hc' : c' = d
          . rw [hc']
            exact hd
          . exact hkeep c' (hothers hcd hdr c' hc')
      | _ =>
        rw [hst] at hdr
        cases hdr
    . rw [advance_stage_ne x (Ne.symm hcd), hdr] at hd
      cases hd

theorem advance_gone (h : Dropping n i first d x) {c : ι} (hcalled : x.stage c ≠ .called)
    (hd : (∃ j k, (Crowd.advance callers x c).stage d = .served j k (.ok (.truth true)))
      ∨ (Crowd.advance callers x c).stage d = .done (.ok (.truth true)))
    : (Crowd.advance callers x c).engine.file? n = none := by
  by_cases hcd : c = d
  . have hremoves := h.removes
    rw [hcd] at hd ⊢
    cases hst : x.stage d with
    | ready j t =>
      rw [advance_ready hst] at hd
      dsimp only at hd
      rw [stage_go_self] at hd
      rcases hd with ⟨_, _, hd⟩ | hd <;> cases hd
    | queued j t k =>
      rw [advance_queued hst] at hd
      split at hd
      . rw [stage_go_self] at hd
        rcases hd with ⟨_, _, hd⟩ | hd <;> cases hd
      . rw [hst] at hd
        rcases hd with ⟨_, _, hd⟩ | hd <;> cases hd
    -- the one step in which the file is removed
    | entered j t k =>
      have hj : j = i := h.place d j (by rw [hst]; rfl)
      rw [hst] at hremoves
      cases Stage.turn?_of_isRemoving hremoves rfl
      rw [advance_entered hst nofun, stage_go_self, Engine.takeTurn_removeFile] at hd
      rw [advance_entered hst nofun, Engine.takeTurn_removeFile]
      rcases hd with ⟨_, _, hd⟩ | hd
      . obtain ⟨existed, hremoved, _⟩ := Work.map_ok (Stage.served.inj hd).2.2
        have hgone := Engine.removal_gone hremoved
        have hname : (((callers d).atTurn x.engine).store j).name = n := by
          rw [hj]
          exact h.name
        rw [hname] at hgone ⊢
        exact hgone
      . cases hd
    | served j k r =>
      rw [advance_served hst, stage_go_self] at hd
      rw [advance_served hst]
      rcases hd with ⟨_, _, hd⟩ | hd
      . cases hd
      . cases hd
        exact h.gone (.inl ⟨j, k, hst⟩)
    | done r =>
      rw [advance_done hst] at hd ⊢
      exact h.gone hd
    | _ =>
      rw [hst] at hremoves
      cases hremoves
  . rw [advance_stage_ne x (Ne.symm hcd)] at hd
    have hheld : (x.stage c).held? = none := by
      apply h.unheld hcd
      rcases hd with ⟨j, k, hd⟩ | hd
      . exact .inl ⟨j, k, _, hd⟩
      . exact .inr ⟨_, hd⟩
    unfold Engine.file?
    rw [advance_disk hcalled hheld]
    exact h.gone hd

theorem advance (h : Dropping n i first d x) {c : ι} (hcalled : x.stage c ≠ .called)
    (hothers : c = d → (x.stage d).isReady = true → ∀ c', c' ≠ d → (x.stage c').isReady = false)
    : Dropping n i first d (advance callers x c) := by
  obtain ⟨hcached, hname, hready, hturns⟩ := advance_keeps callers hcalled (h.turn?_ne c)
  constructor
  case toQueue => exact h.toQueue.advance (fun _ _ _ hc => absurd hc hcalled)
  case name => exact (hname i).trans h.name
  case absent =>
    rw [hcached]
    exact h.absent
  case unused =>
    rw [hcached]
    exact h.unused
  case mutates =>
    exact forall_stage_advance (P := fun c' st => ∀ t, c' ≠ d → st.turn? = some t →
      ∃ m, t = .mutate m)
      (fun t hcd ht => h.mutates c t hcd (hturns t ht)) (fun c' _ => h.mutates c')
  case removes =>
    exact forall_stage_advance (P := fun c' st => (x.stage c').isRemoving = true →
      st.isRemoving = true)
      advance_isRemoving (fun _ _ hc' => hc') d h.removes
  case last => exact h.advance_last hready hothers
  case gone => exact h.advance_gone hcalled

theorem run (h : Dropping n i first d x) {schedule : List ι}
    (hcalled : ∀ c ∈ schedule, x.stage c ≠ .called)
    (hready : d ∈ schedule → (x.stage d).isReady = false)
    : Dropping n i first d (run callers x schedule) := by
  induction schedule generalizing x with
  | nil => exact h
  | cons c schedule ih =>
    have hc := hcalled c (List.mem_cons_self ..)
    have hnext : Dropping n i first d (Crowd.advance callers x c) := by
      apply h.advance hc
      intro hcd hd
      rw [hready (hcd ▸ List.mem_cons_self ..)] at hd
      cases hd
    apply ih hnext
    . exact forall_stage_advance (P := fun c' st => c' ∈ schedule → st ≠ .called)
        (fun _ => advance_stage_ne_called x c)
          (fun c' _ hc' => hcalled c' (List.mem_cons_of_mem _ hc'))
    . intro hd
      by_cases hcd : d = c
      . rw [hcd]
        exact (advance_keeps callers hc (h.turn?_ne c)).2.2.1
      . rw [advance_stage_ne x hcd]
        exact hready (List.mem_cons_of_mem _ hd)

end Dropping

theorem Using.drop {n : String} {i first : Nat} {x : Crowd ι} (h : Using n i first x) {d : ι}
    (hdrop : (callers d).request = .drop (.text n)) (hname : Engine.checkName (.text n) = .ok n)
    (hd : x.stage d = .called) : Dropping n i first d (Crowd.advance callers x d) := by
  have hb := Engine.begin_drop_opened (e := (callers d).atCall x.engine) hname h.lookup
  rw [← hdrop] at hb
  have hq : Queue i first (Crowd.advance callers x d) := by
    apply h.toQueue.advance
    intro j t e _ hb'
    rw [hb] at hb'
    cases hb'
    rfl
  rw [advance_called hd hb] at hq ⊢
  constructor
  case toQueue => exact hq
  case name => exact h.name
  case absent => exact Engine.lookup_filter_self _ n
  case unused =>
    intro c hc hplace
    have hne : c.1 ≠ n := of_decide_eq_true (List.mem_filter.mp hc).2
    exact hne (h.only c (List.mem_filter.mp hc).1 hplace)
  case removes =>
    rw [stage_go_self]
    rfl
  case mutates =>
    intro c t hcd ht
    rw [stage_go_ne hcd] at ht
    exact h.mutates c t ht
  case last =>
    rw [stage_go_self]
    nofun
  case gone =>
    rw [stage_go_self]
    nofun

theorem Using.dropping {n : String} {i first : Nat} {x : Crowd ι} (h : Using n i first x) {d : ι}
    (hdrop : (callers d).request = .drop (.text n)) (hname : Engine.checkName (.text n) = .ok n)
    (hd : x.stage d = .called) {between during : List ι}
    (hbetween : ∀ c ∈ between, c ≠ d ∧ x.stage c ≠ .called)
    (hready : ∀ c, ((Crowd.run callers x (d :: between)).stage c).isReady = true → c = d)
    (hduring : ∀ c ∈ during, c = d ∨ x.stage c ≠ .called)
    : Dropping n i first d (Crowd.run callers x (d :: between ++ d :: during)) := by
  have hbegun : ∀ schedule c, c = d ∨ x.stage c ≠ .called →
      (Crowd.run callers x (d :: schedule)).stage c ≠ .called := by
    intro schedule c hc hcalled
    obtain ⟨hcalled, hnotMem⟩ := (run_stage_eq_called x _ c).mp hcalled
    cases hc with
    | inl hcd => exact hnotMem (hcd ▸ List.mem_cons_self ..)
    | inr hc => exact hc hcalled
  have hwaiting : Dropping n i first d (Crowd.run callers x (d :: between)) :=
    (h.drop hdrop hname hd).run (fun c hc => hbegun [] c (.inr (hbetween c hc).2))
      (fun hmem => absurd rfl (hbetween d hmem).1)
  have hdrawn : Dropping n i first d
      (Crowd.advance callers (Crowd.run callers x (d :: between)) d) := by
    apply hwaiting.advance (hbegun between d (.inl rfl))
    intro _ _ c hcd
    rw [Bool.eq_false_iff]
    exact fun hc => hcd (hready c hc)
  have hsplit : ∀ schedule, Crowd.run callers x (d :: between ++ d :: schedule)
      = Crowd.run callers (Crowd.advance callers (Crowd.run callers x (d :: between)) d) schedule :=
    fun _ => List.foldl_append ..
  rw [hsplit]
  apply hdrawn.run
  . intro c hc
    have hcalled := hbegun (between ++ [d]) c (hduring c hc)
    rw [← List.cons_append, hsplit] at hcalled
    exact hcalled
  . intro _
    exact (advance_keeps callers (hbegun between d (.inl rfl)) (hwaiting.turn?_ne d)).2.2.1

theorem drop_refused {x : Crowd ι} {d : ι} {name : Value} {err : Error}
    (hdrop : (callers d).request = .drop name) (hname : Engine.checkName name = .error err)
    (hd : x.stage d = .called) (schedule : List ι)
    : (run callers x (d :: schedule)).stage d = .done (.error err) := by
  have hb := Engine.begin_drop_refused (e := (callers d).atCall x.engine) hname
  rw [← hdrop] at hb
  have hrefused : (advance callers x d).stage d = .done (.error err) := by
    rw [advance_called hd hb, stage_go_self]
    rfl
  exact run_stage_done hrefused schedule

/--
A collection is dropped while others use it. If nobody has begun to use it while it was dropped, and
if those who had begun before have drawn their tickets before the one that drops, then the
collection and its file are gone, and whatever comes afterwards does not depend on the documents
that the collection had.
-/
theorem drop_final {callers : ι → Caller} {n : String} {i : Nat} {e : Engine} {d : ι}
    (he : e.Reachable)
    (hi : e.cached.lookup n = some i) (hfree : (e.store i).slot.isFree = true)
    (hdrop : (callers d).request = .drop (.text n)) {before between during : List ι}
    (hbefore : ∀ c ∈ before, c ≠ d ∧ (callers c).request.target? = some (.text n))
    (hbetween : between ⊆ before)
    (hready : ∀ c, ((run callers (gather e) (before ++ d :: between)).stage c).isReady =
      true → c = d)
    (hduring : during ⊆ d :: before)
    (hdone : (run callers (gather e) (before ++ d :: between ++ d :: during)).stage d =
      .done (.ok (.truth true)))
    : let x := run callers (gather e) (before ++ d :: between ++ d :: during)
      x.engine.cached.lookup n = none ∧ x.engine.file? n = none
        ∧ ∀ docs after, run callers (x.withDocuments i docs) after =
            (run callers x after).withDocuments i docs := by
  have husing : Using n i (e.store i).slot.drawn (run callers (gather e) before) :=
    (using_gather he hi hfree).run fun c hc => (hbefore c hc).2
  have hbegun : ∀ c, (run callers (gather e) before).stage c ≠ .called ↔ c ∈ before := by
    intro c
    rw [Ne, run_stage_eq_called]
    simp [gather]
  have hd := not_not.mp fun hd => (hbefore d ((hbegun d).mp hd)).1 rfl
  have hsplit : ∀ schedule, run callers (gather e) (before ++ schedule)
      = run callers (run callers (gather e) before) schedule := fun _ => List.foldl_append ..
  rw [hsplit] at hready
  rw [List.append_assoc, hsplit] at hdone ⊢
  cases hname : Engine.checkName (.text n) with
  | error err =>
    rw [List.cons_append, drop_refused hdrop hname hd] at hdone
    cases hdone
  | ok name =>
    cases Engine.checkName_ok hname
    have hdropping : Dropping n i (e.store i).slot.drawn d
        (run callers (run callers (gather e) before) (d :: between ++ d :: during)) := by
      refine husing.dropping hdrop hname hd ?_ hready ?_
      . intro c hc
        exact ⟨(hbefore c (hbetween hc)).1, (hbegun c).mpr (hbetween hc)⟩
      . intro c hc
        exact (List.mem_cons.mp (hduring hc)).imp_right (hbegun c).mpr
    have hapart := hdropping.apart (by rw [hdone]; rfl) (by rw [hdone]; rfl)
    exact ⟨hdropping.absent, hdropping.gone (.inr hdone), fun docs after =>
      hapart.run callers after docs⟩

def createdEngine : Engine :=
  (Engine.run Clock.epoch.now (.call (.createOne (.text "c") (.object [(.text "_id", .int 1)])))
    Engine.openedEngine).2

theorem createdEngine_reachable : createdEngine.Reachable :=
  Engine.openedEngine_reachable.steps (Engine.run_steps .epoch _ _)

def dropAndCount : Fin 3 → Caller
  | 0 => { request := .drop (.text "c") }
  | _ => { request := .call (.count (.text "c") .null) }

theorem drop_final_countedBefore
    : let x := run dropAndCount (gather createdEngine) [1, 0, 0, 0, 0, 0]
      x.stage 0 = .done (.ok (.truth true)) ∧ x.engine.cached.lookup "c" = none ∧
        x.engine.file? "c" = none
        ∧ ∀ docs after,
          run dropAndCount (x.withDocuments 0 docs) after =
              (run dropAndCount x after).withDocuments 0 docs := by
  have hdone : (run dropAndCount (gather createdEngine) [1, 0, 0, 0, 0, 0]).stage 0 =
      .done (.ok (.truth true)) :=
    Stage.of_truth? (by decide +kernel)
  have hbefore : ∀ c ∈ [1], c ≠ 0 ∧ (dropAndCount c).request.target? = some (.text "c") := by
    intro c hc
    rw [List.mem_singleton.mp hc]
    exact ⟨by decide, rfl⟩
  have hschedule : ([1] ++ 0 :: [] ++ 0 :: [0, 0, 0] : List (Fin 3)) = [1, 0, 0, 0, 0, 0] := rfl
  have hfinal :=
    @drop_final (Fin 3) _ dropAndCount "c" 0 createdEngine 0 createdEngine_reachable
      (by decide +kernel)
    (by decide +kernel) rfl [1] [] [0, 0, 0] hbefore (by decide) (by decide +kernel) (by decide)
  rw [hschedule] at hfinal
  exact ⟨hdone, hfinal hdone⟩

/--
The documents are counted while they are dropped: the collection is opened once more from the file
that is not yet removed, and whoever counts them after the drop finds the document still there.
-/
theorem drop_not_final
    : let x := run dropAndCount (gather createdEngine) [0, 1, 0, 0, 0, 0]
      (createdEngine.documentsOf "c").length = 1 ∧ x.stage 0 = .done (.ok (.truth true)) ∧
        x.stage 2 = .called
        ∧ (advance dropAndCount x 2).stage 2 = .done (.ok (.number (.int 1))) := by
  refine ⟨by decide +kernel, Stage.of_truth? (by decide +kernel), ?_,
    Stage.of_count? (by decide +kernel)⟩
  rw [run_stage_eq_called]
  exact ⟨rfl, by decide⟩

def dropAndUpdate : Fin 3 → Caller
  | 0 => { request := .drop (.text "c") }
  | 1 => { request := .call (.updateOne (.text "c") (.object [(.text "_id", .int 1)])) }
  | 2 => { request := .call (.count (.text "c") .null) }

theorem drop_undone
    : let x := run dropAndUpdate (gather createdEngine) [1, 0, 0, 0, 0, 0]
      let y := run dropAndUpdate x [1, 1, 1, 1, 1]
      x.stage 0 = .done (.ok (.truth true)) ∧ x.engine.file? "c" = none ∧
        (y.engine.file? "c").isSome = true
        ∧ (advance dropAndUpdate y 2).stage 2 = .done (.ok (.number (.int 1))) :=
  ⟨Stage.of_truth? (by decide +kernel), by decide +kernel, by decide +kernel,
    Stage.of_count? (by decide +kernel)⟩

end Crowd

end DocStore

import Mathlib.Logic.Relation
import DocStore.Proofs.Engine.Apart
import DocStore.Proofs.Engine.Durable

/-!
This module contains the proof that collections are apart from each other: what is done with one of
them, however it ends, leaves all others alone, in memory and on disk, and the temporary files of
one are nobody's files.
-/

namespace DocStore

open Work

namespace Collection

def temporaryName (base letters : String) : String := ".tmp_" ++ base ++ "_" ++ letters ++ ".tmp"

theorem temporaryName_text (base : String) (number : Nat)
    : (FileName.temporary base number).text = temporaryName base "*" := by
  apply String.toList_inj.mp
  simp [temporaryName, FileName.text, toString]

theorem getLast?_temporaryName (base letters : String)
    : (temporaryName base letters).toList.getLast? = some 'p' := by
  unfold temporaryName
  rw [String.toList_append, List.getLast?_append]
  rfl

theorem getLast?_of_suffix {cs : List Char} (h : fileSuffix.toList <:+ cs)
    : cs.getLast? = some 'n' := by
  obtain ⟨front, rfl⟩ := h
  rw [List.getLast?_append]
  rfl

theorem temporaryName_ne (base letters other : String)
    : temporaryName base letters ≠ fileName other := by
  intro h
  have hlast := getLast?_temporaryName base letters
  have hsuffix : fileSuffix.toList <:+ (fileName other).toList :=
    ⟨other.toList, String.toList_append.symm⟩
  rw [h, getLast?_of_suffix hsuffix] at hlast
  cases hlast

theorem ofFileName?_temporaryName (base letters : String)
    : ofFileName? (temporaryName base letters) = none := by
  unfold ofFileName?
  have hsuffix : fileSuffix.toList.isSuffixOf (temporaryName base letters).toList = false := by
    rw [Bool.eq_false_iff, Ne, List.isSuffixOf_iff_suffix]
    intro h
    have hlast := getLast?_temporaryName base letters
    rw [getLast?_of_suffix h] at hlast
    cases hlast
  dsimp only
  rw [hsuffix]
  rfl

end Collection

def Disk.withoutTemporaries (d : Disk) : Disk :=
  { d with entries := d.entries.filter fun f => match f.1
    with | .given _ => true | .temporary .. => false }

theorem Disk.get?_withoutTemporaries (d : Disk) (name : String)
    : d.withoutTemporaries.get? (.given name) = d.get? (.given name) := by
  unfold Disk.get? withoutTemporaries
  dsimp only
  induction d.entries with
  | nil => rfl
  | cons f entries ih =>
    rw [List.filter_cons]
    rcases f with ⟨other, entry⟩
    cases other with
    | given other =>
      dsimp only
      rw [if_pos rfl, List.lookup_cons, List.lookup_cons, ih]
    | temporary base number =>
      have hne : (FileName.given name == .temporary base number) = false := beq_false_of_ne nofun
      dsimp only
      rw [if_neg (by decide), ih, List.lookup_cons, hne]

theorem Collection.load_withoutTemporaries (d : Disk) (collection : String)
    : load d.withoutTemporaries collection = load d collection := by
  unfold load
  dsimp only
  rw [d.get?_withoutTemporaries]
  rfl

theorem Engine.names_withoutTemporaries (e : Engine)
    : names { e with disk := e.disk.withoutTemporaries } = e.names := by
  have hstored : e.disk.withoutTemporaries.entries.filterMap
    (fun f => Collection.ofFileName? f.1.text)
      = e.disk.entries.filterMap fun f => Collection.ofFileName? f.1.text := by
    unfold Disk.withoutTemporaries
    dsimp only
    induction e.disk.entries with
    | nil => rfl
    | cons f entries ih =>
      rw [List.filter_cons]
      rcases f with ⟨name, entry⟩
      cases name with
      | given name =>
        dsimp only
        rw [if_pos rfl, List.filterMap_cons, List.filterMap_cons, ih]
      | temporary base number =>
        dsimp only
        rw [if_neg (by decide), ih, List.filterMap_cons]
        dsimp only
        rw [Collection.temporaryName_text, Collection.ofFileName?_temporaryName]
  unfold names
  dsimp only
  rw [hstored]

def Request.subject? : Request → Option Value
  | .call c => some c.collection
  | .flush name => some name
  | .drop name => some name
  | _ => none

namespace Engine

/-- From one state to the other nothing is touched but what belongs to the collection of a name. -/
structure OnlyTouches (v : Value) (e e' : Engine) : Prop where
  cached : ∀ n, v ≠ .text n → e'.cached.lookup n = e.cached.lookup n
  opened : ∀ (i : Nat) (s : Store), v ≠ .text s.name →
    (e'.opened[i]? = some s ↔ e.opened[i]? = some s)
  files : ∀ name, e'.disk.get? name ≠ e.disk.get? name →
    ∃ n, v = .text n ∧
      (name = .given (Collection.fileName n) ∨ ∃ k, name = .temporary (Collection.fileName n) k)

theorem OnlyTouches.refl (v : Value) (e : Engine) : OnlyTouches v e e :=
  ⟨fun _ _ => rfl, fun _ _ _ => .rfl, fun _ h => absurd rfl h⟩

theorem OnlyTouches.trans {v : Value} {e e' e'' : Engine} (h : OnlyTouches v e e')
    (h' : OnlyTouches v e' e'')
    : OnlyTouches v e e'' := by
  refine ⟨fun n hn => (h'.cached n hn).trans (h.cached n hn),
    fun i s hs => (h'.opened i s hs).trans (h.opened i s hs), ?_⟩
  intro name hname
  by_cases hfirst : e'.disk.get? name = e.disk.get? name
  . rw [← hfirst] at hname
    exact h'.files name hname
  . exact h.files name hfirst

structure LeavesAlone (n : String) (e e' : Engine) : Prop where
  cached : e'.cached.lookup n = e.cached.lookup n
  opened : ∀ (i : Nat) (s : Store), s.name = n → (e'.opened[i]? = some s ↔ e.opened[i]? = some s)
  file : e'.file? n = e.file? n

theorem OnlyTouches.leavesAlone {v : Value} {e e' : Engine} (h : OnlyTouches v e e') {n : String}
    (hn : v ≠ .text n)
    : LeavesAlone n e e' := by
  refine ⟨h.cached n hn, fun i s hs => h.opened i s (by rw [hs]; exact hn), ?_⟩
  refine Decidable.byContradiction fun hfile => ?_
  obtain ⟨m, rfl, hname | ⟨k, hname⟩⟩ := h.files _ hfile
  . cases Collection.fileName_injective (FileName.given.inj hname)
    exact hn rfl
  . cases hname

def Minds {α : Type} (v : Value) (x : Action α) : Prop := ∀ e, OnlyTouches v e (x e).2

section

variable {α β : Type} {v : Value}

theorem minds_pure (a : α) : Minds v (pure a) := .refl v

theorem minds_throw (err : Error) : Minds v (throw err : Action α) := .refl v

theorem minds_ofDrawing (f : Drawing α) : Minds v (ofDrawing f) :=
  fun _ => ⟨fun _ _ => rfl, fun _ _ _ => .rfl, fun _ h => absurd rfl h⟩

theorem minds_lift (r : Except Error α) : Minds v (liftM r : Action α) := by
  cases r with
  | ok a => exact minds_pure a
  | error err => exact minds_throw err

theorem minds_bind {x : Action α} {f : α → Action β} (hx : Minds v x) (hf : ∀ a, Minds v (f a))
    : Minds v (x >>= f) := by
  intro e
  have hfirst := hx e
  rcases hr : x e with ⟨r, e₁⟩
  rw [hr] at hfirst
  cases r with
  | error err =>
    rw [bind_error hr]
    exact hfirst
  | ok a =>
    rw [bind_ok hr]
    exact hfirst.trans (hf a e₁)

theorem minds_get_bind {f : Engine → Action β} (hf : ∀ e, Minds v (f e)) : Minds v (get >>= f) :=
  fun e => hf e e

theorem minds_collection (v : Value) : Minds v (collection v) := by
  intro e
  cases hname : checkName v with
  | error err =>
    rw [collection_refused hname]
    exact .refl v e
  | ok n =>
    cases hlookup : e.cached.lookup n with
    | some j =>
      rw [collection_inUse hname hlookup]
      exact .refl v e
    | none =>
      rcases hload : Collection.load e.disk n e.ids with ⟨r, ids⟩
      cases r with
      | error err =>
        rw [collection_unread hname hlookup hload]
        exact ⟨fun _ _ => rfl, fun _ _ _ => .rfl, fun _ h => absurd rfl h⟩
      | ok docs =>
        rw [collection_loads hname hlookup hload]
        cases checkName_ok hname
        -- the collection that is loaded takes a new place, and no other is moved
        refine ⟨?_, ?_, fun _ h => absurd rfl h⟩
        . intro m hm
          have hne : m ≠ n := fun h => hm (congrArg _ h.symm)
          dsimp only
          rw [List.lookup_append]
          simp [List.lookup_cons, beq_false_of_ne hne]
        . intro i s hs
          dsimp only
          rw [List.getElem?_append]
          split
          . exact .rfl
          next hlt =>
            rw [List.getElem?_eq_none (Nat.le_of_not_lt hlt), List.getElem?_singleton]
            split
            . refine ⟨fun h => ?_, fun h => ?_⟩
              . cases h
                exact absurd rfl hs
              . cases h
            . exact .rfl

theorem minds_snapshot (v : Value) : Minds v (snapshot v) :=
  minds_bind (minds_collection v) fun _ => minds_get_bind fun _ => minds_pure _

theorem minds_mutation (v : Value) (m : Mutation) : Minds v (mutation v m) :=
  minds_bind (minds_collection v) fun _ => minds_pure _

end

theorem minds_carryOut (v : Value) (p : Plan) : Minds v (carryOut v p) := by
  cases p with
  | reads answer =>
    exact minds_bind (minds_snapshot v) fun _ => minds_bind (minds_lift _) fun _ => minds_pure _
  | mutates m => exact minds_mutation v m
  | inserts docs =>
    refine minds_bind (minds_collection v) fun i => minds_bind (minds_lift _) fun given => ?_
    cases given with
    | nil => exact minds_pure _
    | cons => exact minds_pure _

theorem minds_beginCall (c : Call) : Minds c.collection (beginCall c) := by
  rw [beginCall_eq]
  exact minds_bind (minds_ofDrawing _) (minds_carryOut _)

def Belongs (v : Value) (i : Nat) (e : Engine) : Prop :=
  i < e.opened.length ∧ Value.text (e.store i).name = v

section

variable {v : Value} {i : Nat} {e : Engine}

theorem setStore_touches (h : e.Belongs v i) {f : Store → Store} (hname : ∀ s, (f s).name = s.name)
    : OnlyTouches v e (setStore i f e) := by
  refine ⟨fun _ _ => rfl, ?_, fun _ h => absurd rfl h⟩
  intro j s hs
  rw [getElem?_setStore]
  split
  next hij =>
    subst hij
    have hstore : e.opened[i]? = some (e.store i) := by
      unfold store
      rw [List.getElem?_eq_getElem h.1]
      rfl
    rw [hstore]
    constructor
    . intro hf
      cases hf
      exact absurd (by rw [hname]; exact h.2.symm) hs
    . intro hf
      cases hf
      exact absurd h.2.symm hs
  . exact .rfl

theorem disk_touches (h : e.Belongs v i) {disk : Disk}
    (hfiles : ∀ name, disk.get? name ≠ e.disk.get? name →
      name = .given (Collection.fileName (e.store i).name)
        ∨ ∃ k, name = .temporary (Collection.fileName (e.store i).name) k)
    : OnlyTouches v e { e with disk } :=
  ⟨fun _ _ => rfl, fun _ _ _ => .rfl, fun name hname => ⟨_, h.2.symm, hfiles name hname⟩⟩

theorem save_files {n : String} {docs : List Fields} {d : Disk} {name : FileName}
    (h : (Collection.save n docs d).2.get? name ≠ d.get? name)
    : name = .given (Collection.fileName n) ∨ ∃ k, name = .temporary (Collection.fileName n) k := by
  unfold Collection.save at h
  cases htext : Collection.textOf docs with
  | error err =>
    rw [htext] at h
    cases err <;> exact absurd rfl h
  | ok s =>
    rw [htext] at h
    dsimp only at h
    rcases hr : Filing.replace (Collection.fileName n) s d with ⟨r, d'⟩
    rw [hr] at h
    have hchanged : d'.get? name ≠ d.get? name := by cases r <;> exact h
    refine Classical.byContradiction fun hother => hchanged ?_
    rw [not_or, not_exists] at hother
    cases Filing.replace_replaces hr with
    | done file others => exact others name hother.1 (hother.2 _)
    | refused quiet => exact quiet.get? name
    | failed others => exact others name (hother.2 _)

theorem removal_files {n : String} {d : Disk} {name : FileName}
    (h : (removal n d).2.get? name ≠ d.get? name)
    : name = .given (Collection.fileName n) := by
  unfold removal at h
  rcases hr : Filing.remove (Collection.fileName n) d with ⟨r, d'⟩
  rw [hr] at h
  have hchanged : d'.get? name ≠ d.get? name := by cases r <;> exact h
  refine Decidable.byContradiction fun hother => hchanged ?_
  cases Filing.remove_removes hr with
  | absent => rfl
  | done _ _ others => exact others name hother
  | failed entries =>
    unfold Disk.get?
    rw [entries]

theorem takeTurn_touches (h : e.Belongs v i) (now : Moment) {t : Turn} (ht : t ≠ .releaseAll)
    : OnlyTouches v e (takeTurn now i t e).2 := by
  cases t with
  | mutate m =>
    have hset : OnlyTouches v e (withDocuments i (effectAt e now i m).documents e) :=
      setStore_touches h fun _ => rfl
    have heffect : OnlyTouches v e (withEffect e now i m) := ⟨hset.cached, hset.opened, hset.files⟩
    cases houtcome : (effectAt e now i m).outcome with
    | error err =>
      rw [takeTurn_mutate_error houtcome]
      exact heffect
    | ok p =>
      obtain ⟨a, writes⟩ := p
      cases writes with
      | false =>
        rw [takeTurn_mutate_unwritten houtcome]
        exact heffect
      | true =>
        rw [takeTurn_mutate_written houtcome rfl]
        exact ⟨heffect.cached, heffect.opened, fun name hname => ⟨_, h.2.symm, save_files hname⟩⟩
  | removeFile =>
    rw [takeTurn_removeFile]
    exact disk_touches h fun name hname => .inl (removal_files hname)
  | releaseAll => exact absurd rfl ht

theorem enqueue_touches (h : e.Belongs v i) : OnlyTouches v e (enqueue i e).2 :=
  setStore_touches h fun _ => rfl

theorem release_touches (h : e.Belongs v i) : OnlyTouches v e (release i e) :=
  setStore_touches h fun _ => rfl

theorem Belongs.setStore (h : e.Belongs v i) (j : Nat) {f : Store → Store}
    (hname : ∀ s, (f s).name = s.name)
    : (setStore j f e).Belongs v i := by
  refine ⟨lt_of_lt_of_eq h.1 (length_setStore ..).symm, ?_⟩
  rw [store_setStore_keep (p := Store.name) hname]
  exact h.2

theorem Belongs.takeTurn (h : e.Belongs v i) (now : Moment) (j : Nat) (t : Turn)
    : (takeTurn now j t e).2.Belongs v i := by
  cases t with
  | mutate m =>
    obtain ⟨disk, hmemory⟩ := takeTurn_mutate_memory e now j m
    rw [hmemory]
    have hset :=
      h.setStore j (f := fun s => { s with documents := (effectAt e now j m).documents }) fun _ =>
        rfl
    exact ⟨hset.1, hset.2⟩
  | removeFile =>
    rw [takeTurn_removeFile]
    exact h
  | releaseAll => exact h

theorem Belongs.step {e' : Engine} (h : e.Belongs v i) (hs : Step e e') : e'.Belongs v i := by
  cases hs with
  | begin q =>
    rcases hb : Engine.begin q e with ⟨r, e₁⟩
    obtain ⟨hlt, hstore⟩ := begin_store hb h.1
    exact ⟨hlt, by rw [hstore]; exact h.2⟩
  | enqueue j => exact h.setStore j fun _ => rfl
  | takeTurn clock j => exact h.takeTurn clock.now j _
  | release j => exact h.setStore j fun _ => rfl
  | directory disk => exact h
  | supply ids => exact h

theorem Belongs.steps {e' : Engine} (h : e.Belongs v i) (hs : Steps e e') : e'.Belongs v i := by
  induction hs with
  | refl => exact h
  | tail _ hs ih => exact ih.step hs

theorem serve_touches (h : e.Belongs v i) (now : Moment) {t : Turn} (ht : t ≠ .releaseAll)
    : OnlyTouches v e (serve now i t e).2 :=
  (takeTurn_touches h now ht).trans (release_touches (h.takeTurn now i t))

end

theorem IsPlaceOf.belongs {e : Engine} (he : e.Sound) {v : Value} {i : Nat} (h : IsPlaceOf e v i)
    : e.Belongs v i := by
  obtain ⟨n, hname, hlookup⟩ := h
  obtain ⟨hlt, hstore⟩ := he.store_of_lookup hlookup
  exact ⟨hlt, by rw [hstore, checkName_ok hname]⟩

theorem lookup_filter_ne (cached : List (String × Nat)) {n m : String} (h : m ≠ n)
    : (cached.filter fun c => c.1 ≠ n).lookup m = cached.lookup m := by
  induction cached with
  | nil => rfl
  | cons c cached ih =>
    rw [List.filter_cons]
    by_cases hc : c.1 = n
    . have hm : (m == c.1) = false := by
        rw [hc]
        exact beq_false_of_ne h
      rw [if_neg (by simpa using hc), ih, List.lookup_cons, hm]
    . rw [if_pos (by simpa using hc), List.lookup_cons, List.lookup_cons, ih]

theorem begin_touches {e e₁ : Engine} (he : e.Sound) {q : Request} {v : Value}
    (hq : q.subject? = some v) {r : Except Error Start} (hb : begin q e = (r, e₁))
    : OnlyTouches v e e₁ ∧ ∀ i t, r = .ok (.waits i t) → e₁.Belongs v i ∧ t ≠ .releaseAll := by
  cases q with
  | call c =>
    cases hq
    have htouches := minds_beginCall c e
    have hbegun := beginCall_begun hb
    change beginCall c e = (r, e₁) at hb
    rw [hb] at htouches
    refine ⟨htouches, ?_⟩
    rintro i t rfl
    obtain ⟨name, m, hasks, rfl, hplace⟩ := hbegun.waits i t rfl
    rw [hasks.collection]
    exact ⟨hplace.belongs (he.opens hbegun.opens), nofun⟩
  | flush name =>
    cases hq
    have htouches := minds_mutation v .flush e
    change mutation v .flush e = (r, e₁) at hb
    rw [hb] at htouches
    refine ⟨htouches, ?_⟩
    rintro i t rfl
    cases @begin_hasBegun (.flush v) e e₁ _ hb with
    | flush opens waits =>
      obtain ⟨rfl, hplace⟩ := waits i t rfl
      exact ⟨hplace.belongs (he.opens opens), nofun⟩
  | drop name =>
    cases hq
    cases begin_hasBegun hb with
    | dropRefused => exact ⟨.refl v e, nofun⟩
    -- a collection in use is taken out of those that are kept, and one that is not loses its file
    -- at once
    | @dropOpened _ n i hname hlookup =>
      cases checkName_ok hname
      refine ⟨⟨fun m hm => lookup_filter_ne _ fun h => hm (congrArg _ h.symm), fun _ _ _ => .rfl,
        fun _ h => absurd rfl h⟩, ?_⟩
      intro j t hwaits
      cases hwaits
      exact ⟨IsPlaceOf.belongs he ⟨n, hname, hlookup⟩, nofun⟩
    | @dropClosed _ n _ hname hlookup hr =>
      cases checkName_ok hname
      refine ⟨⟨fun _ _ => rfl, fun _ _ _ => .rfl, fun file hfile =>
        ⟨n, rfl, .inl (removal_files hfile)⟩⟩, ?_⟩
      rintro i t rfl
      cases hremoved : (removal n e.disk).1 with
      | ok b =>
        rw [hremoved] at hr
        cases hr
      | error err =>
        rw [hremoved] at hr
        cases hr
  | close => cases hq
  | list => cases hq

theorem arrive_waits {now : Moment} {q : Request} {e e₁ : Engine} {i : Nat} {t : Turn}
    (hb : begin q e = (.ok (.waits i t), e₁))
    : arrive now q e = if (e₁.store i).slot.isFree = true
        then (.done (serve now i t (enqueue i e₁).2).1, (serve now i t (enqueue i e₁).2).2)
        else (.queued i t, (enqueue i e₁).2) := by
  unfold arrive
  rw [hb]
  rfl

theorem arrive_touches {e e' : Engine} (he : e.Sound) {q : Request} {v : Value}
    (hq : q.subject? = some v) {now : Moment} {a : Arrival} (h : arrive now q e = (a, e'))
    : OnlyTouches v e e' ∧ ∀ i t, a = .queued i t → e'.Belongs v i ∧ t ≠ .releaseAll := by
  rcases hb : begin q e with ⟨r, e₁⟩
  obtain ⟨htouches, hwaits⟩ := begin_touches he hq hb
  have hdone {r : Except Error Answer} : ∀ i t, Arrival.done r = .queued i t →
      e'.Belongs v i ∧ t ≠ .releaseAll := nofun
  cases r with
  | error err =>
    unfold arrive at h
    rw [hb] at h
    cases h
    exact ⟨htouches, hdone⟩
  | ok start =>
    cases start with
    | answered a =>
      unfold arrive at h
      rw [hb] at h
      cases h
      exact ⟨htouches, hdone⟩
    | waits i t =>
      obtain ⟨hbelongs, ht⟩ := hwaits i t rfl
      have henqueue := htouches.trans (enqueue_touches hbelongs)
      have hqueued : (enqueue i e₁).2.Belongs v i := hbelongs.setStore i fun _ => rfl
      rw [arrive_waits hb] at h
      split at h
      . cases h
        exact ⟨henqueue.trans (serve_touches hqueued now ht), hdone⟩
      . cases h
        refine ⟨henqueue, ?_⟩
        rintro _ _ ⟨⟩
        exact ⟨hqueued, ht⟩

theorem run_touches {e : Engine} (he : e.Sound) {q : Request} {v : Value} (hq : q.subject? = some v)
    (now : Moment)
    : OnlyTouches v e (run now q e).2 := by
  rcases hb : begin q e with ⟨r, e₁⟩
  obtain ⟨htouches, hwaits⟩ := begin_touches he hq hb
  cases r with
  | error err =>
    rw [run_error hb]
    exact htouches
  | ok start =>
    cases start with
    | answered a =>
      rw [run_answered hb]
      exact htouches
    | waits i t =>
      obtain ⟨hbelongs, ht⟩ := hwaits i t rfl
      -- nobody else waits, so that the ticket may as well be drawn after the turn
      rw [run_waits hb, ← release_enqueue]
      have hturn := hbelongs.takeTurn now i t
      have henqueue :=
        hturn.setStore i (f := fun s => { s with slot := s.slot.draw.2 }) fun _ => rfl
      exact ((htouches.trans (takeTurn_touches hbelongs now ht)).trans
        (enqueue_touches hturn)).trans
        (release_touches henqueue)

/--
Whatever is asked of a collection, however it ends and however long it waits for the slot, the
collections of all other names stay as they are: their documents and slots, whether they are in use,
and their files. In the directory nothing changes but the file of the collection and temporary files
beside it, and no temporary file has the name of a collection's file, is read as one, or is listed.
-/
theorem collections_isolated {e : Engine} (he : e.Reachable) {q : Request} {v : Value}
    (hq : q.subject? = some v) (now : Moment)
    : (∀ n, v ≠ .text n → LeavesAlone n e (run now q e).2)
      ∧ (∀ n, v ≠ .text n → LeavesAlone n e (arrive now q e).2)
      ∧ (∀ i t e₁ e₂ later, arrive now q e = (.queued i t, e₁) → Steps e₁ e₂ →
          ∀ n, v ≠ .text n → LeavesAlone n e₂ (serve later i t e₂).2)
      ∧ (∀ name, (run now q e).2.disk.get? name ≠ e.disk.get? name → ∃ n, v = .text n
          ∧ (name = .given (Collection.fileName n) ∨ ∃ k,
            name = .temporary (Collection.fileName n) k))
      ∧ (∀ base letters other, Collection.temporaryName base letters ≠ Collection.fileName other
          ∧ Collection.ofFileName? (Collection.temporaryName base letters) = none)
      ∧ ∀ e' : Engine, names { e' with disk := e'.disk.withoutTemporaries } = e'.names
          ∧ ∀ other, Collection.load e'.disk.withoutTemporaries other =
            Collection.load e'.disk other := by
  have hrun := run_touches he.sound hq now
  refine ⟨fun n => hrun.leavesAlone, fun n => (arrive_touches he.sound hq rfl).1.leavesAlone, ?_,
    hrun.files, ?_, ?_⟩
  . intro i t e₁ e₂ later harrive hsteps n hn
    obtain ⟨hbelongs, ht⟩ := (arrive_touches he.sound hq harrive).2 i t rfl
    exact (serve_touches (hbelongs.steps hsteps) later ht).leavesAlone hn
  . exact fun base letters other =>
      ⟨Collection.temporaryName_ne base letters other,
        Collection.ofFileName?_temporaryName base letters⟩
  . exact fun e' => ⟨e'.names_withoutTemporaries, Collection.load_withoutTemporaries e'.disk⟩

def stuckEngine : Engine :=
  let e :=
    (run Clock.epoch.now (.call (.createOne (.text "b") (.object [(.text "_id", .text "1")])))
      (.onEmpty "d")).2
  { e with disk := (e.disk.trouble .replace ⟨1, "disk full"⟩).trouble .remove ⟨1, "busy"⟩ }

def stuckRequest : Request := .call (.createOne (.text "c") (.object [(.text "_id", .text "1")]))

theorem collections_isolated_stuck
    : stuckEngine.Reachable ∧ stuckRequest.subject? = some (.text "c")
      ∧ (run Clock.epoch.now stuckRequest stuckEngine).2.disk.contains (.temporary "c.json" 1) =
        true
      ∧ LeavesAlone "b" stuckEngine (run Clock.epoch.now stuckRequest stuckEngine).2 := by
  have hreachable : stuckEngine.Reachable :=
    .step (Reachable.steps (.start _ _) (run_steps .epoch _ _)) (.directory _)
  refine ⟨hreachable, rfl, by decide +kernel, ?_⟩
  have hother : Value.text "c" ≠ .text "b" := by
    rw [Ne, Value.text.injEq]
    decide
  exact (collections_isolated hreachable (q := stuckRequest) rfl Clock.epoch.now).1 "b" hother

end Engine

end DocStore

import DocStore.Proofs.Engine.Catalogue

/-!
This module contains the proof that nobody can tell two engines apart of which one has the documents
of a collection in memory, and the other one has yet to read them from its file, as long as the file
has the same documents.
-/

namespace DocStore

open Work

namespace Collection

theorem ofText_ok {path path' : String} {s : List Char} {ids ids' : IdSupply} {docs : List Fields}
    (h : ofText path s ids = (.ok docs, ids')) : ofText path' s ids = (.ok docs, ids') := by
  unfold ofText at h ⊢
  split at h
  next hblank =>
    rw [if_pos hblank]
    exact h
  next hblank =>
    rw [if_neg hblank]
    split at h
    . split at h
      . exact h
      . cases h
    . cases h
    . cases h

theorem load_congr {d d' : Disk} {name : String} {docs : List Fields} {ids ids' : IdSupply}
    (hfile : d'.get? (.given (fileName name)) = d.get? (.given (fileName name)))
    (h : load d name ids = (.ok docs, ids')) : load d' name ids = (.ok docs, ids') := by
  unfold load at h ⊢
  rw [hfile]
  cases hentry : d.get? (.given (fileName name)) with
  | none =>
    rw [hentry] at h
    exact h
  | some entry =>
    rw [hentry] at h
    cases entry with
    | directory => cases h
    | file content =>
      cases content with
      | bytes bs => cases h
      | text s => exact ofText_ok h

def IsReadAs (d : Disk) (name : String) (docs : List Fields) : Prop :=
  ∀ ids, load d name ids = (.ok docs, ids)

theorem IsReadAs.congr {d d' : Disk} {name : String} {docs : List Fields} (h : IsReadAs d name docs)
    (hfile : d'.get? (.given (fileName name)) = d.get? (.given (fileName name)))
    : IsReadAs d' name docs :=
  fun ids => load_congr hfile (h ids)

end Collection

namespace Engine

inductive ShowsAlike (a b : Engine) (n : String) : Prop where
  | unused (ha : a.cached.lookup n = none) (hb : b.cached.lookup n = none)
  | inUse {i j} (ha : a.cached.lookup n = some i) (hb : b.cached.lookup n = some j)
      (documents : (a.store i).documents = (b.store j).documents)
  | unread {j} (ha : a.cached.lookup n = none) (hb : b.cached.lookup n = some j)
      (file : (b.file? n).isSome)
      (visible : Collection.isHidden n = false)
      (read : Collection.IsReadAs b.disk n (b.store j).documents)

structure Mirrors (a b : Engine) : Prop where
  sound : a.Sound ∧ b.Sound
  disk : a.disk = b.disk
  ids : a.ids = b.ids
  shows : ∀ n, ShowsAlike a b n

structure SamePlace (v : Value) (a b : Engine) (i j : Nat) : Prop where
  left : IsPlaceOf a v i
  right : IsPlaceOf b v j

section

variable {a b a' b' : Engine} {n : String} {i j : Nat}

theorem LeavesAlone.store_eq {e e' : Engine} (h : LeavesAlone n e e') (he : e.Sound)
    (hi : e.cached.lookup n = some i)
    : e'.store i = e.store i := by
  obtain ⟨s, hs, hname⟩ := he.places _ (mem_of_lookup hi)
  rw [Engine.store_eq hs, Engine.store_eq ((h.opened i s hname).mpr hs)]

theorem Mirrors.file? (h : Mirrors a b) (n : String) : a.file? n = b.file? n := by
  unfold Engine.file?
  rw [h.disk]

theorem Mirrors.shows_of_leavesAlone (h : Mirrors a b) (ha : LeavesAlone n a a')
    (hb : LeavesAlone n b b')
    : ShowsAlike a' b' n := by
  cases h.shows n with
  | unused hna hnb => exact .unused (ha.cached.trans hna) (hb.cached.trans hnb)
  | inUse hna hnb documents =>
    refine .inUse (ha.cached.trans hna) (hb.cached.trans hnb) ?_
    rw [ha.store_eq h.sound.1 hna, hb.store_eq h.sound.2 hnb, documents]
  | unread hna hnb file visible read =>
    refine .unread (ha.cached.trans hna) (hb.cached.trans hnb) ?_ visible ?_
    . rw [hb.file]
      exact file
    . rw [hb.store_eq h.sound.2 hnb]
      exact read.congr hb.file

theorem Mirrors.draw (h : Mirrors a b) (ids : IdSupply)
    : Mirrors { a with ids } { b with ids } := by
  have halone : ∀ (e : Engine) n, LeavesAlone n e { e with ids } :=
    fun _ _ => ⟨rfl, fun _ _ _ => .rfl, rfl⟩
  exact ⟨⟨h.sound.1.congr rfl (.refl _), h.sound.2.congr rfl (.refl _)⟩, h.disk, rfl,
    fun n => h.shows_of_leavesAlone (halone a n) (halone b n)⟩

theorem Mirrors.documents (h : Mirrors a b) {v : Value} (hplace : SamePlace v a b i j)
    : (a.store i).documents = (b.store j).documents := by
  obtain ⟨n, hname, hi⟩ := hplace.left
  obtain ⟨n', hname', hj⟩ := hplace.right
  rw [hname] at hname'
  cases hname'
  cases h.shows n with
  | unused ha hb =>
    rw [ha] at hi
    cases hi
  | inUse ha hb documents =>
    rw [ha] at hi
    rw [hb] at hj
    cases hi
    cases hj
    exact documents
  | unread ha hb file visible read =>
    rw [ha] at hi
    cases hi

theorem Mirrors.names (h : Mirrors a b) : a.names = b.names := by
  apply names_eq
  intro n
  rw [mem_names, mem_names, h.file? n]
  cases h.shows n with
  | unused ha hb => rw [ha, hb]
  | inUse ha hb => simp [ha, hb]
  | unread ha hb file visible => simp [ha, hb, file, visible]

end

inductive EndsAlike {α β : Type} (R : Engine → Engine → α → β → Prop)
    : Except Error α × Engine → Except Error β × Engine → Prop where
  | failed {a b err} (h : Mirrors a b) : EndsAlike R (.error err, a) (.error err, b)
  | done {a b u v} (h : Mirrors a b) (hr : R a b u v) : EndsAlike R (.ok u, a) (.ok v, b)

def Same {α : Type} (_ _ : Engine) (u v : α) : Prop := u = v

inductive SameStart (v : Value) (a b : Engine) : Start → Start → Prop where
  | answered (x : Answer) : SameStart v a b (.answered x) (.answered x)
  | waits {i j} (place : SamePlace v a b i j) (m : Mutation) :
      SameStart v a b (.waits i (.mutate m)) (.waits j (.mutate m))

section

variable {α β γ δ : Type} {R : Engine → Engine → α → β → Prop} {S : Engine → Engine → γ → δ → Prop}
  {a b : Engine}

theorem EndsAlike.bind {x : Action α} {y : Action β} {f : α → Action γ} {g : β → Action δ}
    (hx : EndsAlike R (x a) (y b))
    (hf : ∀ a' b' u v, Mirrors a' b' → R a' b' u v → EndsAlike S (f u a') (g v b'))
    : EndsAlike S ((x >>= f) a) ((y >>= g) b) := by
  rcases hxa : x a with ⟨r, a₁⟩
  rcases hyb : y b with ⟨r', b₁⟩
  rw [hxa, hyb] at hx
  cases hx with
  | failed h =>
    rw [bind_error hxa, bind_error hyb]
    exact .failed h
  | done h hr =>
    rw [bind_ok hxa, bind_ok hyb]
    exact hf _ _ _ _ h hr

theorem EndsAlike.next {x : Action α} {f : α → Action γ} {g : α → Action δ}
    (hx : EndsAlike Same (x a) (x b))
    (hf : ∀ u a' b', Mirrors a' b' → EndsAlike S (f u a') (g u b'))
    : EndsAlike S ((x >>= f) a) ((x >>= g) b) := by
  refine hx.bind fun a' b' u v h hr => ?_
  cases hr
  exact hf u a' b' h

theorem lift_alike (h : Mirrors a b) (r : Except Error α)
    : EndsAlike Same ((liftM r : Action α) a) ((liftM r : Action α) b) := by
  cases r with
  | ok u => exact .done h rfl
  | error err => exact .failed h

theorem ofDrawing_alike (h : Mirrors a b) (x : Drawing α)
    : EndsAlike Same (ofDrawing x a) (ofDrawing x b) := by
  unfold ofDrawing
  rw [h.ids]
  rcases x b.ids with ⟨r, ids⟩
  cases r with
  | ok u => exact .done (h.draw ids) rfl
  | error err => exact .failed (h.draw ids)

end

section

variable {a b : Engine}

theorem store_append (e : Engine) (s : Store) (ids : IdSupply) (cached : List (String × Nat))
    : ({ e with ids, opened := e.opened ++ [s], cached } : Engine).store e.opened.length = s := by
  unfold store
  simp

theorem Mirrors.collection {v : Value} {n : String} (h : Mirrors a b) (hname : checkName v = .ok n)
    (hids : (Engine.collection v a).2.ids = (Engine.collection v b).2.ids)
    (hshows : ShowsAlike (Engine.collection v a).2 (Engine.collection v b).2 n)
    : Mirrors (Engine.collection v a).2 (Engine.collection v b).2 := by
  have ha : Opens a (Engine.collection v a).2 := (collection_opens rfl).1
  have hb : Opens b (Engine.collection v b).2 := (collection_opens rfl).1
  refine ⟨⟨h.sound.1.opens ha, h.sound.2.opens hb⟩, by rw [ha.disk, hb.disk, h.disk], hids,
    fun m => ?_⟩
  by_cases hm : v = .text m
  . rw [hm] at hname
    cases checkName_ok hname
    exact hshows
  . exact h.shows_of_leavesAlone ((minds_collection v a).leavesAlone hm)
      ((minds_collection v b).leavesAlone hm)

theorem collection_alike (h : Mirrors a b) (v : Value)
    : EndsAlike (SamePlace v) (collection v a) (collection v b) := by
  cases hname : checkName v with
  | error err =>
    rw [collection_refused hname, collection_refused hname]
    exact .failed h
  | ok n =>
    cases h.shows n with
    | unused ha hb =>
      rcases hload : Collection.load b.disk n b.ids with ⟨r, ids⟩
      have hloada : Collection.load a.disk n a.ids = (r, ids) := by rw [h.disk, h.ids, hload]
      cases r with
      | error err =>
        rw [collection_unread hname ha hloada, collection_unread hname hb hload]
        exact .failed (h.draw ids)
      | ok docs =>
        have hopened := h.collection hname
        rw [collection_loads hname ha hloada, collection_loads hname hb hload] at hopened ⊢
        have hna := lookup_append_self (i := a.opened.length) ha
        have hnb := lookup_append_self (i := b.opened.length) hb
        refine .done (hopened rfl (.inUse hna hnb ?_)) ⟨⟨n, hname, hna⟩, ⟨n, hname, hnb⟩⟩
        rw [store_append, store_append]
    | inUse ha hb =>
      rw [collection_inUse hname ha, collection_inUse hname hb]
      exact .done h ⟨⟨n, hname, ha⟩, ⟨n, hname, hb⟩⟩
    | @unread j ha hb file visible read =>
      have hload : Collection.load a.disk n a.ids = (.ok (b.store j).documents, a.ids) := by
        rw [h.disk]
        exact read a.ids
      have hopened := h.collection hname
      rw [collection_loads hname ha hload, collection_inUse hname hb] at hopened ⊢
      have hna := lookup_append_self (i := a.opened.length) ha
      refine .done (hopened h.ids (.inUse hna hb ?_)) ⟨⟨n, hname, hna⟩, ⟨n, hname, hb⟩⟩
      rw [store_append]

theorem snapshot_alike (h : Mirrors a b)
    (v : Value) : EndsAlike Same (snapshot v a) (snapshot v b) := by
  refine (collection_alike h v).bind fun a' b' i j h' hplace => ?_
  exact .done h' (h'.documents hplace)

theorem mutation_alike (h : Mirrors a b) (v : Value) (m : Mutation)
    : EndsAlike (SameStart v) (mutation v m a) (mutation v m b) := by
  refine (collection_alike h v).bind fun a' b' i j h' hplace => ?_
  exact .done h' (.waits hplace m)

theorem carryOut_alike (h : Mirrors a b) (v : Value) (p : Plan)
    : EndsAlike (SameStart v) (carryOut v p a) (carryOut v p b) := by
  cases p with
  | reads answer =>
    refine (snapshot_alike h v).next fun docs a₁ b₁ h₁ => ?_
    refine (lift_alike h₁ (answer docs)).next fun x a₂ b₂ h₂ => ?_
    exact .done h₂ (.answered x)
  | mutates m => exact mutation_alike h v m
  | inserts docs =>
    refine (collection_alike h v).bind fun a₁ b₁ i j h₁ hplace => ?_
    cases docs with
    | error err => exact .failed h₁
    | ok given =>
      cases given with
      | nil => exact .done h₁ (.answered _)
      | cons doc given => exact .done h₁ (.waits hplace _)

theorem beginCall_alike (h : Mirrors a b) (c : Call)
    : EndsAlike (SameStart c.collection) (beginCall c a) (beginCall c b) := by
  rw [beginCall_eq]
  exact (ofDrawing_alike h c.plan).next fun p a₁ b₁ h₁ => carryOut_alike h₁ c.collection p

end

structure RunsAlike (now : Moment) (q : Request) (a b : Engine) : Prop where
  answer : (run now q a).1 = (run now q b).1
  mirrors : Mirrors (run now q a).2 (run now q b).2

structure TurnsAlike (now : Moment) (m : Mutation) (i j : Nat) (a b : Engine) : Prop where
  answer : (takeTurn now i (.mutate m) a).1 = (takeTurn now j (.mutate m) b).1
  disk : (takeTurn now i (.mutate m) a).2.disk = (takeTurn now j (.mutate m) b).2.disk
  ids : (takeTurn now i (.mutate m) a).2.ids = (takeTurn now j (.mutate m) b).2.ids
  left : (takeTurn now i (.mutate m) a).2.cached = a.cached
  right : (takeTurn now j (.mutate m) b).2.cached = b.cached
  documents : ((takeTurn now i (.mutate m) a).2.store i).documents
    = ((takeTurn now j (.mutate m) b).2.store j).documents

section

variable {a b : Engine} {v : Value} {i j : Nat}

theorem takeTurn_alike (h : Mirrors a b) (hplace : SamePlace v a b i j) (now : Moment)
    (m : Mutation)
    : TurnsAlike now m i j a b := by
  obtain ⟨n, hname, hi⟩ := hplace.left
  obtain ⟨n', hname', hj⟩ := hplace.right
  rw [hname] at hname'
  cases hname'
  obtain ⟨hlti, hna⟩ := h.sound.1.store_of_lookup hi
  obtain ⟨hltj, hnb⟩ := h.sound.2.store_of_lookup hj
  have hheld : Held.mk (a.store i).name (a.store i).documents a.disk a.ids
      = ⟨(b.store j).name, (b.store j).documents, b.disk, b.ids⟩ := by
    rw [hna, hnb, h.documents hplace, h.disk, h.ids]
  have hturn : ∀ (e : Engine) k result,
      m.execute now ⟨(e.store k).name, (e.store k).documents, e.disk, e.ids⟩ = result →
      takeTurn now k (.mutate m) e = (result.1,
        { withDocuments k result.2.documents e
            with disk := result.2.disk, ids := result.2.ids }) := by
    rintro e k _ rfl
    rfl
  have hta := hturn a i _ (congrArg _ hheld)
  have htb := hturn b j _ rfl
  generalize m.execute now ⟨(b.store j).name, (b.store j).documents, b.disk, b.ids⟩ = result
    at hta htb
  constructor
  . rw [hta, htb]
  . rw [hta, htb]
  . rw [hta, htb]
  . rw [hta]
    rfl
  . rw [htb]
    rfl
  . rw [hta, htb]
    change ((withDocuments i result.2.documents a).store i).documents
      = ((withDocuments j result.2.documents b).store j).documents
    unfold withDocuments
    rw [store_setStore_self hlti, store_setStore_self hltj]

theorem Mirrors.run {clock : Clock} {q : Request} (h : Mirrors a b) (hq : q.subject? = some v)
    (hdisk : (Engine.run clock.now q a).2.disk = (Engine.run clock.now q b).2.disk)
    (hids : (Engine.run clock.now q a).2.ids = (Engine.run clock.now q b).2.ids)
    (hshows : ∀ n, v = .text n → ShowsAlike (Engine.run clock.now q a).2
      (Engine.run clock.now q b).2 n)
    : Mirrors (Engine.run clock.now q a).2 (Engine.run clock.now q b).2 := by
  refine ⟨⟨h.sound.1.run rfl, h.sound.2.run rfl⟩, hdisk, hids, fun n => ?_⟩
  by_cases hn : v = .text n
  . exact hshows n hn
  . exact h.shows_of_leavesAlone ((run_touches h.sound.1 hq clock.now).leavesAlone hn)
      ((run_touches h.sound.2 hq clock.now).leavesAlone hn)

theorem run_alike_of_begin {clock : Clock} {q : Request} (h : Mirrors a b)
    (hq : q.subject? = some v)
    (hbegin : EndsAlike (SameStart v) (begin q a) (begin q b)) : RunsAlike clock.now q a b := by
  rcases ha : begin q a with ⟨r, a₁⟩
  rcases hb : begin q b with ⟨r', b₁⟩
  rw [ha, hb] at hbegin
  cases hbegin with
  | failed h₁ =>
    constructor
    . rw [run_error ha, run_error hb]
    . rw [run_error ha, run_error hb]
      exact h₁
  | done h₁ hstart =>
    cases hstart with
    | answered x =>
      constructor
      . rw [run_answered ha, run_answered hb]
      . rw [run_answered ha, run_answered hb]
        exact h₁
    | @waits i j hplace m =>
      have hturn := takeTurn_alike h₁ hplace clock.now m
      have hruna : run clock.now q a = _ := run_waits ha
      have hrunb : run clock.now q b = _ := run_waits hb
      refine ⟨by rw [hruna, hrunb, hturn.answer], h.run hq ?_ ?_ ?_⟩
      . rw [hruna, hrunb]
        exact hturn.disk
      . rw [hruna, hrunb]
        exact hturn.ids
      . intro n hn
        obtain ⟨na, hna, hi⟩ := hplace.left
        obtain ⟨nb, hnb, hj⟩ := hplace.right
        rw [hn] at hna hnb
        cases checkName_ok hna
        cases checkName_ok hnb
        rw [hruna, hrunb]
        refine .inUse (i := i) (j := j) ?_ ?_ ?_
        . exact (congrArg (List.lookup n) hturn.left).trans hi
        . exact (congrArg (List.lookup n) hturn.right).trans hj
        . dsimp only
          rw [passed_documents, passed_documents, hturn.documents]

structure Drops (n : String) (e : Engine) (r : Except Error Answer) (e' : Engine) : Prop where
  answer : r = (removal n e.disk).1.map fun existed =>
    .truth (existed || (e.cached.lookup n).isSome)
  disk : e'.disk = (removal n e.disk).2
  ids : e'.ids = e.ids
  unused : e'.cached.lookup n = none

theorem run_drops {e : Engine} (he : e.Sound) (now : Moment) {n : String}
    (hname : checkName v = .ok n)
    : Drops n e (run now (.drop v) e).1 (run now (.drop v) e).2 := by
  cases hi : e.cached.lookup n with
  | none =>
    rw [run_drop_closed hname hi]
    refine ⟨?_, rfl, rfl, hi⟩
    rw [hi]
    simp
  | some i =>
    have hn := (he.store_of_lookup hi).2
    rw [run_waits (begin_drop_opened hname hi), takeTurn_removeFile]
    change Drops n e ((removal (e.store i).name e.disk).1.map _) (passed i { e with
      cached := e.cached.filter fun c => c.1 ≠ n, disk := (removal (e.store i).name e.disk).2 })
    rw [hn]
    refine ⟨?_, rfl, rfl, lookup_filter_self e.cached n⟩
    rw [hi]
    simp

theorem removal_existed {n : String} {d : Disk}
    (h : d.contains (.given (Collection.fileName n)) = true) {b : Bool}
    (hr : (removal n d).1 = .ok b) : b = true := by
  unfold removal at hr
  rcases hremove : Filing.remove (Collection.fileName n) d with ⟨r, d'⟩
  rw [hremove] at hr
  cases Filing.remove_removes hremove with
  | absent habsent =>
    rw [habsent] at h
    cases h
  | done =>
    cases hr
    rfl
  | failed => cases hr

theorem drop_alike (h : Mirrors a b) (clock : Clock) (v : Value)
    : RunsAlike clock.now (.drop v) a b := by
  cases hname : checkName v with
  | error err =>
    constructor
    . rw [run_error (begin_drop_refused hname), run_error (begin_drop_refused hname)]
    . rw [run_error (begin_drop_refused hname), run_error (begin_drop_refused hname)]
      exact h
  | ok n =>
    have ha := run_drops h.sound.1 clock.now hname
    have hb := run_drops h.sound.2 clock.now hname
    constructor
    . rw [ha.answer, hb.answer, h.disk]
      cases hr : (removal n b.disk).1 with
      | error err => rfl
      | ok existed =>
        cases h.shows n with
        | unused hna hnb => rw [hna, hnb]
        | inUse hna hnb => rw [hna, hnb]; rfl
        | unread hna hnb file =>
          cases removal_existed file hr
          rfl
    . refine h.run rfl ?_ ?_ ?_
      . rw [ha.disk, hb.disk, h.disk]
      . rw [ha.ids, hb.ids, h.ids]
      . rintro m rfl
        cases checkName_ok hname
        exact .unused ha.unused hb.unused

theorem close_alike (h : Mirrors a b) (clock : Clock) : RunsAlike clock.now .close a b := by
  have hclose : ∀ e : Engine, (run clock.now .close e).1 = .ok .nothing ∧
      (run clock.now .close e).2.ids = e.ids := by
    intro e
    have hb := begin_close e
    split at hb
    . rw [run_waits hb]
      exact ⟨rfl, rfl⟩
    . rw [run_answered hb]
      exact ⟨rfl, rfl⟩
  have hsound : ∀ e : Engine, e.Sound → (run clock.now .close e).2.Sound := fun _ he =>
    he.after (.request clock .close)
  have hdisk : ∀ e : Engine, (run clock.now .close e).2.disk = e.disk := fun _ => run_close_disk rfl
  refine ⟨(hclose a).1.trans (hclose b).1.symm, ⟨hsound a h.sound.1, hsound b h.sound.2⟩, ?_, ?_,
    fun n => ?_⟩
  . rw [hdisk, hdisk, h.disk]
  . rw [(hclose a).2, (hclose b).2, h.ids]
  . refine .unused ?_ ?_
    . rw [run_close_cached]
      rfl
    . rw [run_close_cached]
      rfl

theorem Mirrors.runsAlike (h : Mirrors a b) (clock : Clock) (q : Request)
    : RunsAlike clock.now q a b := by
  cases q with
  | call c => exact run_alike_of_begin h rfl (beginCall_alike h c)
  | flush name => exact run_alike_of_begin h rfl (mutation_alike h name .flush)
  | drop name => exact drop_alike h clock name
  | close => exact close_alike h clock
  | list =>
    constructor
    . rw [run_list, run_list, h.names]
    . rw [run_list, run_list]
      exact h

end

def answers (e : Engine) : List Event → List (Except Error Answer)
  | [] => []
  | .request clock q :: events => (run clock.now q e).1 :: answers (run clock.now q e).2 events
  | event :: events => answers (e.after event) events

def AnswerAlike (a b : Engine) : Prop := ∀ events, a.answers events = b.answers events

theorem Mirrors.after {a b : Engine} (h : Mirrors a b) (event : Event)
    : Mirrors (a.after event) (b.after event) := by
  have halone : ∀ (e : Engine) (disk : Disk) n, disk.get? (.given (Collection.fileName n)) =
    e.file? n →
      LeavesAlone n e { e with disk } := fun _ _ _ hfile => ⟨rfl, fun _ _ _ => .rfl, hfile⟩
  cases event with
  | request clock q => exact (h.runsAlike clock q).mirrors
  | fail u t =>
    refine ⟨⟨h.sound.1.after (.fail u t), h.sound.2.after (.fail u t)⟩, ?_, h.ids, fun n => ?_⟩
    . exact congrArg (fun d : Disk => d.trouble u t) h.disk
    . exact h.shows_of_leavesAlone (halone a _ n rfl) (halone b _ n rfl)
  | supply ids => exact h.draw ids
  | reopen =>
    exact ⟨⟨h.sound.1.after .reopen, h.sound.2.after .reopen⟩, h.disk, h.ids, fun n =>
      .unused rfl rfl⟩

theorem Mirrors.answerAlike {a b : Engine} (h : Mirrors a b) : AnswerAlike a b := by
  intro events
  induction events generalizing a b with
  | nil => rfl
  | cons event events ih =>
    have hafter := ih (h.after event)
    cases event with
    | request clock q =>
      unfold answers
      rw [(h.runsAlike clock q).answer]
      exact congrArg _ hafter
    | fail u t => exact hafter
    | supply ids => exact hafter
    | reopen => exact hafter

end Engine

end DocStore

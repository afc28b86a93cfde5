import DocStore.Proofs.Engine.Batch
import DocStore.Proofs.Engine.Mirror
import DocStore.Proofs.Engine.Reload
import DocStore.Proofs.Engine.Selection
import DocStore.Proofs.Text.Hex

/-!
This module contains what becomes of a collection whose drop fails because its file cannot be
removed: it is in use no more, so that it is read from its file again. That goes unnoticed exactly
if the file has what was in memory, and if the collection is listed by its file.
-/

namespace DocStore

open Work

namespace Slot

theorem passed_isFree {s : Slot} (h : s.isFree = true) : s.passed.isFree = true := by
  unfold isFree admits at h
  rw [decide_eq_true_eq] at h
  unfold passed release draw
  dsimp only
  rw [h, if_neg (Nat.not_succ_le_self _)]
  unfold isFree admits
  rw [decide_eq_true_eq]

end Slot

namespace Collection

theorem assemble_injective {id id' : Value} {fs : Fields} {now : Moment}
    (h : assemble id fs now = assemble id' fs now)
    : id = id' := by
  unfold assemble at h
  rw [List.cons_append, List.cons_append] at h
  exact (Prod.mk.inj (List.cons.inj h).1).2

end Collection

namespace Engine

open Collection

section

variable {d : Disk} {n : String} {err : Error}

theorem removal_failed (h : (removal n d).1 = .error err)
    : (∃ reason, err = .file (.unremoved n reason) (path d n)) ∧
      d.contains (.given (fileName n)) = true
      ∧ ∀ file, (removal n d).2.get? file = d.get? file := by
  have hpresent : d.contains (.given (fileName n)) = true := by
    refine Decidable.byContradiction fun habsent => ?_
    have hremove : Filing.remove (fileName n) d = (.ok false, d) := by
      unfold Filing.remove
      rw [get_bind]
      dsimp only
      rw [if_neg habsent]
      rfl
    unfold removal at h
    rw [hremove] at h
    cases h
  unfold removal at h ⊢
  rcases hremove : Filing.remove (fileName n) d with ⟨r, d'⟩
  rw [hremove] at h
  cases Filing.remove_removes hremove with
  | absent => cases h
  | done => cases h
  | failed entries =>
    cases h
    refine ⟨⟨_, rfl⟩, hpresent, fun file => ?_⟩
    unfold Disk.get?
    rw [entries]

end

structure IsReleasedAlone (n : String) (e e' : Engine) : Prop where
  files : ∀ file, e'.disk.get? file = e.disk.get? file
  ids : e'.ids = e.ids
  unused : e'.cached.lookup n = none
  others : ∀ m, m ≠ n → e'.cached.lookup m = e.cached.lookup m
  documents : ∀ i, (e'.store i).documents = (e.store i).documents
  pending : ∀ i, (e'.store i).slot.pending = (e.store i).slot.pending
  free : ∀ i, (e.store i).slot.isFree = true → (e'.store i).slot.isFree = true

section

variable {e e' : Engine} {name : Value} {n : String}

theorem passed_isFree (i j : Nat) (h : (e.store j).slot.isFree = true)
    : ((passed i e).store j).slot.isFree = true := by
  unfold passed withSlot store at *
  rw [getElem?_setStore]
  cases hs : e.opened[j]? with
  | none =>
    rw [hs] at h
    split <;> exact h
  | some s =>
    rw [hs] at h
    split
    . exact Slot.passed_isFree h
    . exact h

theorem checkName_blames (name : Value) : Blames (checkName name) (·.isOfFile = false) := by
  unfold checkName
  split
  . dsimp only
    split
    . exact blames_error rfl
    . split
      . exact blames_error rfl
      . exact blames_ok
  . exact blames_error rfl

theorem drop_failed (he : e.Sound) {clock : Clock} {reason path : String}
    (hrun : run clock.now (.drop name) e = (.error (.file (.unremoved n reason) path), e'))
    : checkName name = .ok n ∧ (e.file? n).isSome ∧ IsReleasedAlone n e e' := by
  cases hname : checkName name with
  | error err =>
    rw [run_error (begin_drop_refused hname)] at hrun
    cases hrun
    cases checkName_blames name _ hname
  | ok m =>
    have hdrops := run_drops he clock.now hname
    have hothers : ∀ k, name ≠ .text k → (run clock.now (.drop name) e).2.cached.lookup k =
        e.cached.lookup k :=
      fun k hk => ((run_touches he rfl clock.now).leavesAlone hk).cached
    rw [hrun] at hdrops hothers
    -- a removal that succeeds would have been answered otherwise
    cases hremoval : (removal m e.disk).1 with
    | ok existed =>
      have hanswer := hdrops.answer
      rw [hremoval] at hanswer
      cases hanswer
    | error err =>
      obtain ⟨⟨reason', rfl⟩, hpresent, hfiles⟩ := removal_failed hremoval
      have hanswer := hdrops.answer
      rw [hremoval] at hanswer
      cases hanswer
      cases checkName_ok hname
      refine ⟨rfl, hpresent, ?_⟩
      have hstores : ∀ i, (e'.store i).documents = (e.store i).documents
          ∧ (e'.store i).slot.pending = (e.store i).slot.pending
          ∧ ((e.store i).slot.isFree = true → (e'.store i).slot.isFree = true) := by
        intro i
        cases hj : e.cached.lookup n with
        | none =>
          rw [run_drop_closed hname hj] at hrun
          obtain ⟨_, rfl⟩ := Prod.mk.inj hrun
          exact ⟨rfl, rfl, id⟩
        | some j =>
          rw [run_waits (begin_drop_opened hname hj), takeTurn_removeFile] at hrun
          obtain ⟨_, rfl⟩ := Prod.mk.inj hrun
          exact ⟨passed_documents j i _, passed_pending j i _, passed_isFree j i⟩
      refine ⟨?_, hdrops.ids, hdrops.unused, ?_, fun i => (hstores i).1, fun i => (hstores i).2.1,
        fun i => (hstores i).2.2⟩
      . intro file
        rw [hdrops.disk]
        exact hfiles file
      . exact fun m hm => hothers m fun h => hm (Value.text.inj h).symm

end

def undropped (e e' : Engine) : Engine := { e with disk := e'.disk }

section

variable {e e' : Engine} {n : String} {i : Nat} {docs : List Fields} {clock : Clock}

theorem IsReleasedAlone.mirrors (h : IsReleasedAlone n e e') (he : e.Sound) (he' : e'.Sound)
    (hfile : (e.file? n).isSome)
    (hshown : ∀ i, e.cached.lookup n = some i →
      IsReadAs e.disk n (e.store i).documents ∧ isHidden n = false)
    : Mirrors e' (undropped e e') := by
  refine ⟨⟨he', he.congr rfl (.refl _)⟩, rfl, h.ids, fun m => ?_⟩
  by_cases hm : m = n
  . subst hm
    cases hi : e.cached.lookup m with
    | none => exact .unused h.unused hi
    | some i =>
      obtain ⟨hread, hvisible⟩ := hshown i hi
      refine .unread h.unused hi ?_ hvisible (hread.congr (h.files _))
      exact (congrArg Option.isSome (h.files _)).trans hfile
  . have hlookup := h.others m hm
    cases hi : e.cached.lookup m with
    | none => exact .unused (hlookup.trans hi) hi
    | some i => exact .inUse (hlookup.trans hi) hi (h.documents i)

def readAll (n : String) : Request := .call (.find (.text n) .null (.int 0) (.int 0) .null)

theorem begin_readAll (n : String) (e : Engine)
    : begin (readAll n) e
      = (do
        let docs ← snapshot (.text n)
        return .answered (.documents (docs.map .object)) : Action Start) e := by
  have hzero : ∀ argument, pageNumber argument (.int 0) = .ok 0 := fun _ => rfl
  have hfind : ∀ docs, find docs .null 0 0 .null = .ok (docs.map .object) := by
    intro docs
    rw [find_eq (isEvaluated_of_not_isTruthy rfl docs), selected_of_not_isTruthy rfl]
  unfold readAll
  rw [begin_call]
  dsimp only [beginCall]
  rw [hzero, hzero, lift_ok_bind, lift_ok_bind]
  simp only [hfind]
  rfl

theorem run_readAll {e₁ : Engine} (h : collection (.text n) e = (.ok i, e₁))
    : run clock.now (readAll n) e =
      (.ok (.documents ((e₁.store i).documents.map .object)), e₁) := by
  have hsnapshot : snapshot (.text n) e = (.ok (e₁.store i).documents, e₁) := bind_ok h
  apply run_answered
  rw [begin_readAll, bind_ok hsnapshot]
  rfl

theorem run_readAll_error {e₁ : Engine} {err : Error}
    (h : collection (.text n) e = (.error err, e₁))
    : run clock.now (readAll n) e = (.error err, e₁) := by
  have hsnapshot : snapshot (.text n) e = (.error err, e₁) := bind_error h
  apply run_error
  rw [begin_readAll, bind_error hsnapshot]

def tellNext (n : String) : List Event :=
  [.request .epoch (.call (.deleteMany (.text n) .null)),
    .request .epoch (.call (.createOne (.text n) (.object []))), .request .epoch (readAll n)]

theorem answers_tellNext (he : e.Sound) (h : IsPlaceOf e (.text n) i)
    : (e.answers (tellNext n)).getLast?
      = some (.ok
        (.documents [.object (assemble (.ofText e.ids.upcoming.hex) [] Clock.epoch.now)])) := by
  rcases hdelete : run Clock.epoch.now (.call (.deleteMany (.text n) .null)) e with ⟨r, e₁⟩
  have heval : IsEvaluated .null (e.store i).documents := isEvaluated_of_not_isTruthy rfl _
  have hempty := (run_deleteMany .epoch he h heval).2
  have hbegin : begin (.call (.deleteMany (.text n) .null)) e = _ := begin_deleteMany h
  have hids := run_mutation_ids .epoch hbegin
  rw [effectAt_deleteMany .epoch heval] at hids
  rw [hdelete] at hempty hids
  have hdocs : (e₁.store i).documents = [] := by
    rw [hempty, List.filter_eq_nil_iff]
    exact fun _ _ => Bool.false_ne_true
  have he₁ : e₁.Sound := he.run hdelete
  have h₁ : IsPlaceOf e₁ (.text n) i := h.run rfl hdelete
  rcases hcreate : run Clock.epoch.now (.call (.createOne (.text n) (.object []))) e₁ with ⟨r', e₂⟩
  have hnew : newDocument (e₁.store i).name (.object [])
    (takenIds (e₁.store i).documents) Clock.epoch.now e₁.ids
      = (.ok (assemble (.ofText e.ids.upcoming.hex) [] Clock.epoch.now), e.ids.draw.2) := by
    rw [hdocs, hids]
    rfl
  have hcreated := (run_createOne he₁ h₁ hnew hcreate).documents
  have h₂ : IsPlaceOf e₂ (.text n) i := h₁.run rfl hcreate
  unfold tellNext answers answers answers answers
  rw [hdelete]
  dsimp only
  rw [hcreate, run_readAll (collection_of_place h₂), hcreated, hdocs]
  rfl

theorem load_of_answerAlike {a b : Engine} (halike : AnswerAlike a b) (ha : a.Sound) (hb : b.Sound)
    (hids : a.ids = b.ids) (hname : checkName (.text n) = .ok n)
    (hunused : a.cached.lookup n = none)
    (hi : b.cached.lookup n = some i)
    : load a.disk n a.ids = (.ok (b.store i).documents, a.ids) := by
  have hplace : IsPlaceOf b (.text n) i := ⟨n, hname, hi⟩
  have hrunb : run Clock.epoch.now (readAll n) b = _ := run_readAll (collection_of_place hplace)
  have hlater : ∀ events, (run Clock.epoch.now (readAll n) a).1 ::
    (run Clock.epoch.now (readAll n) a).2.answers events
      = .ok (.documents ((b.store i).documents.map .object)) :: b.answers events := by
    intro events
    have h := halike (.request .epoch (readAll n) :: events)
    unfold answers at h
    rwa [hrunb] at h
  have hanswer := (List.cons.inj (hlater [])).1
  rcases hload : load a.disk n a.ids with ⟨r, ids⟩
  cases r with
  | error err =>
    rw [run_readAll_error (collection_unread hname hunused hload)] at hanswer
    cases hanswer
  | ok docs =>
    have hopen := collection_loads hname hunused hload
    rw [run_readAll hopen] at hanswer hlater
    dsimp only at hanswer hlater
    rw [store_append] at hanswer
    have hdocs : docs = (b.store i).documents := by
      refine List.map_injective_iff.mpr (fun _ _ => Value.object.inj) ?_
      injection hanswer with hanswer
      injection hanswer
    -- both have the collection in use, and hand out the same identifier
    have htold := congrArg List.getLast? (List.cons.inj (hlater (tellNext n))).2
    rw [answers_tellNext (ha.opens (collection_opens hopen).1)
      ⟨n, hname, lookup_append_self hunused⟩, answers_tellNext hb hplace] at htold
    injection htold with htold
    injection htold with htold
    injection htold with htold
    have hid := assemble_injective (Value.object.inj (List.cons.inj htold).1)
    have hupcoming : ids.upcoming = b.ids.upcoming :=
      ObjectId.hex_injective (String.ofList_injective (Value.text.inj hid))
    rw [hdocs, hids]
    exact congrArg (fun next => (Except.ok (b.store i).documents, IdSupply.mk next)) hupcoming

/--
The drop of a collection whose file cannot be removed leaves all files, documents and slots as they
were, and no slot is held for it. The collection is in use no more, so that whoever reads it next is
answered from its file. Nothing tells that the drop was tried if, and only if, the collection was
not in use, or its file is read as the documents that were in memory and does not have the name of a
hidden one.
-/
theorem failed_drop_unnoticed {e e' : Engine} (he : e.Reachable) {clock : Clock} {name : Value}
    {n reason path : String}
    (hrun : run clock.now (.drop name) e = (.error (.file (.unremoved n reason) path), e'))
    : IsReleasedAlone n e e'
      ∧ (∀ (later : Clock) docs ids, load e.disk n e.ids = (.ok docs, ids) →
          (run later.now (readAll n) e').1 = .ok (.documents (docs.map .object)))
      ∧ (AnswerAlike e' (undropped e e') ↔ ∀ i, e.cached.lookup n = some i →
          IsReadAs e.disk n (e.store i).documents ∧ isHidden n = false) := by
  have he' : e'.Sound := he.sound.run hrun
  obtain ⟨hname, hfile, hreleased⟩ := drop_failed he.sound hrun
  cases checkName_ok hname
  have hbefore : (undropped e e').Sound := he.sound.congr rfl (.refl _)
  refine ⟨hreleased, fun later docs ids hload => ?_, fun halike i hi => ⟨?_, ?_⟩, fun hshown =>
    (hreleased.mirrors he.sound he' hfile hshown).answerAlike⟩
  . rw [← hreleased.ids] at hload
    rw [run_readAll
      (collection_loads hname hreleased.unused (load_congr (hreleased.files _) hload))]
    dsimp only
    rw [store_append]
  . -- they answer alike whatever identifiers are supplied, so that what is loaded is what was held
    have hread : IsReadAs e'.disk n (e.store i).documents := by
      intro ids
      have hsupplied : AnswerAlike { e' with ids } { undropped e e' with ids } := fun events =>
        halike (.supply ids :: events)
      exact load_of_answerAlike hsupplied (he'.after (.supply ids))
        (hbefore.after (.supply ids)) rfl hname
        hreleased.unused hi
    exact hread.congr (hreleased.files _).symm
  . have hlist := (List.cons.inj (halike [.request clock .list])).1
    rw [run_list, run_list] at hlist
    have hnames : e'.names = (undropped e e').names := by
      injection hlist with hlist
      injection hlist
    have hmem : n ∈ e'.names := by
      rw [hnames, mem_names]
      exact .inl (by rw [show (undropped e e').cached = e.cached from rfl, hi]; rfl)
    rw [mem_names, hreleased.unused] at hmem
    rcases hmem with hopen | ⟨_, hvisible⟩
    . cases hopen
    . exact hvisible

end

theorem Reachable.afterAll {e : Engine} (he : e.Reachable) (events : List Event)
    : (events.foldl Engine.after e).Reachable := by
  induction events generalizing e with
  | nil => exact he
  | cons event events ih =>
    apply ih
    cases event with
    | request clock q => exact he.steps (run_steps clock q e)
    | fail u t => exact he.step (.directory _)
    | supply ids => exact he.step (.supply ids)
    | reopen => exact .start e.disk e.ids

def createEvent (id : String) : Event :=
  .request .epoch (.call (.createOne (.text "c") (.object [(.text "_id", .text id)])))

def savedEngine : Engine :=
  [createEvent "1", .fail .remove ⟨1, "busy"⟩].foldl Engine.after (onEmpty "d")

theorem savedEngine_reachable : savedEngine.Reachable :=
  (Reachable.start { root := "d" } {}).afterAll _

def savedDocument : Fields :=
  [(.text "_id", .text "1"), (.text Document.createdAt, .date (.utc 0)),
    (.text Document.updatedAt, .date (.utc 0))]

theorem savedDocument_isPlain : (Value.object savedDocument).IsPlain := by
  unfold savedDocument
  refine .object ⟨by simp, by simp [Document.createdAt, Document.updatedAt]⟩ ?_ ?_
  . simp only [List.mem_cons, List.not_mem_nil, or_false]
    rintro f (rfl | rfl | rfl) s hs <;> cases hs <;> decide
  . simp only [List.mem_cons, List.not_mem_nil, or_false]
    rintro f (rfl | rfl | rfl)
    . exact .text _
    . exact .date ⟨by decide, by decide⟩
    . exact .date ⟨by decide, by decide⟩

theorem savedEngine_isReadAs : IsReadAs savedEngine.disk "c" (savedEngine.store 0).documents := by
  intro ids
  have hdocs : (savedEngine.store 0).documents = [savedDocument] := by with_unfolding_all rfl
  obtain ⟨s, hfile, hs⟩ : ∃ s, savedEngine.disk.get? (.given (fileName "c")) = some (.file (.text s))
      ∧ textOf [savedDocument] = .ok s := ⟨_, by with_unfolding_all rfl, by with_unfolding_all rfl⟩
  rw [hdocs]
  unfold load
  rw [hfile]
  refine ofText_textOf ?_ hs _ ids
  simpa using savedDocument_isPlain

theorem failed_drop_unnoticed_saved
    : let e' := (run Clock.epoch.now (.drop (.text "c")) savedEngine).2
      (run Clock.epoch.now (.drop (.text "c")) savedEngine).1 =
        .error (.file (.unremoved "c" "busy") "d/c.json")
        ∧ IsReleasedAlone "c" savedEngine e' ∧ AnswerAlike e' (undropped savedEngine e') := by
  have hfailed : (run Clock.epoch.now (.drop (.text "c")) savedEngine).1
      = .error (.file (.unremoved "c" "busy") "d/c.json") := by
    with_unfolding_all rfl
  have hrun : run Clock.epoch.now (.drop (.text "c")) savedEngine
      = (.error (.file (.unremoved "c" "busy") "d/c.json"),
          (run Clock.epoch.now (.drop (.text "c")) savedEngine).2) :=
    Prod.ext hfailed rfl
  obtain ⟨hreleased, _, halike⟩ := failed_drop_unnoticed savedEngine_reachable hrun
  refine ⟨hfailed, hreleased, halike.mpr fun i hi => ?_⟩
  have hplace : savedEngine.cached.lookup "c" = some 0 := by decide +kernel
  rw [hplace] at hi
  cases hi
  exact ⟨savedEngine_isReadAs, by decide +kernel⟩

def aheadEngine : Engine :=
  [createEvent "1", .fail .sync ⟨1, "disk full"⟩, createEvent "2", .fail .remove ⟨1, "busy"⟩].foldl
    Engine.after
    (onEmpty "d")

def number? : Except Error Answer → Option Int
  | .ok (.number (.int n)) => some n
  | _ => none

theorem failed_drop_noticed
    : let countAll : Request := .call (.count (.text "c") .null)
      let e' := (run Clock.epoch.now (.drop (.text "c")) aheadEngine).2
      aheadEngine.Reachable
        ∧ (run Clock.epoch.now (.drop (.text "c")) aheadEngine).1 =
          .error (.file (.unremoved "c" "busy") "d/c.json")
        ∧ number? (run Clock.epoch.now countAll (undropped aheadEngine e')).1 = some 2
        ∧ number? (run Clock.epoch.now countAll e').1 = some 1 :=
  ⟨(Reachable.start { root := "d" } {}).afterAll _, by with_unfolding_all rfl, by decide +kernel, by decide +kernel⟩

end Engine

end DocStore

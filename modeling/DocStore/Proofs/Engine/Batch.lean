import DocStore.Proofs.Engine.InUse

/-!
This module contains the proof that a request that creates many documents does what as many requests
do that create one each: both succeed with the same documents and the same identifiers, or both are
refused.
-/

namespace DocStore

open Work

namespace Collection

def IsMadeFrom (now : Moment) (given : Value) (new : Fields) : Prop :=
  ∃ ids ids' fs, Extended.normalForm given ids = (.ok (.object fs), ids') ∧
    new = assemble (idOf new) fs now
    ∧ ((Fields.getD fs Document.idField).normalizeId ≠ .null →
      idOf new = (Fields.getD fs Document.idField).normalizeId)

theorem newId_given {collection : String} {given id : Value} {taken : List Value}
    {ids ids' : IdSupply}
    (h : newId collection given taken ids = (.ok id, ids')) (hgiven : given ≠ .null)
    : id = given := by
  unfold newId at h
  split at h
  . exact absurd rfl hgiven
  . split at h
    . cases h
    . split at h
      . cases h
      . cases h
        rfl

theorem newDocument_made {collection : String} {doc : Value} {taken : List Value} {now : Moment}
    {new : Fields} {ids ids' : IdSupply}
    (h : newDocument collection doc taken now ids = (.ok new, ids'))
    : IsMadeFrom now doc new := by
  unfold newDocument at h
  split at h
  . obtain ⟨v, ids₁, hv, h⟩ := of_bind_ok h
    split at h
    next fs =>
      obtain ⟨id, ids₂, hid, h⟩ := of_bind_ok h
      cases h
      refine ⟨ids, ids₁, fs, hv, ?_, ?_⟩
      . rw [idOf, getD_assemble_id]
      . intro hgiven
        rw [idOf, getD_assemble_id]
        exact newId_given hid hgiven
    . cases h
  . cases h

theorem newDocuments_made {collection : String} {docs taken : List Value} {now : Moment}
    {news : List Fields} {ids ids' : IdSupply}
    (h : newDocuments collection now docs taken ids = (.ok news, ids'))
    : List.Forall₂ (IsMadeFrom now) docs news := by
  induction docs generalizing taken news ids with
  | nil =>
    cases h
    exact .nil
  | cons doc docs ih =>
    unfold newDocuments at h
    obtain ⟨new, ids₁, hnew, h⟩ := of_bind_ok h
    obtain ⟨rest, ids₂, hrest, h⟩ := of_bind_ok h
    cases h
    exact .cons (newDocument_made hnew) (ih hrest)

theorem newDocuments_cons_refused {collection : String} {doc : Value} {docs taken : List Value}
    {now : Moment} {ids ids' : IdSupply} {err : Error}
    (h : newDocument collection doc taken now ids = (.error err, ids'))
    : newDocuments collection now (doc :: docs) taken ids = (.error err, ids') := bind_error h

theorem newDocuments_cons {collection : String} {doc : Value} {docs taken : List Value}
    {now : Moment} {ids ids' : IdSupply} {new : Fields}
    (h : newDocument collection doc taken now ids = (.ok new, ids'))
    : newDocuments collection now (doc :: docs) taken ids
      = ((newDocuments collection now docs (idOf new :: taken) ids').1.map (new :: ·),
          (newDocuments collection now docs (idOf new :: taken) ids').2) := by
  change (newDocument collection doc taken now >>= _) ids = _
  rw [bind_ok h]
  change (newDocuments collection now docs (idOf new :: taken) >>= _) ids' = _
  rcases hrest : newDocuments collection now docs (idOf new :: taken) ids' with ⟨r, ids''⟩
  cases r with
  | error err => exact bind_error hrest
  | ok rest => exact bind_ok hrest

section

variable {taken taken' : List Value}

theorem isTaken_perm (h : taken.Perm taken') (id : Value) : isTaken taken id = isTaken taken' id :=
  h.any_eq

theorem generateId_perm (h : taken.Perm taken')
    : generateId (.set false taken) = generateId (.set false taken') := by
  have hcapacity : (Value.set false taken).textCapacity = (Value.set false taken').textCapacity :=
    congrArg Except.ok h.length_eq
  have hholds : (fun s => (Value.set false taken).holdsText s) =
      fun s => (Value.set false taken').holdsText s :=
    funext fun s => h.any_eq
  funext ids
  unfold generateId
  rw [hcapacity, hholds]

theorem newDocument_perm (h : taken.Perm taken') (collection : String) (doc : Value) (now : Moment)
    : newDocument collection doc taken now = newDocument collection doc taken' now := by
  -- identifiers that are taken are only counted and looked for
  have hnewId : ∀ given, newId collection given taken = newId collection given taken' := by
    intro given
    unfold newId
    rw [generateId_perm h]
    split
    . rfl
    . rw [isTaken_perm h]
  unfold newDocument
  split
  . simp only [hnewId]
  . rfl

end

theorem takenIds_append {taken : List Value} {docs : List Fields} {new : Fields}
    {collection : String} {doc : Value} {now : Moment} {ids ids' : IdSupply}
    (h : newDocument collection doc taken now ids = (.ok new, ids'))
    : takenIds (docs ++ [new]) = takenIds docs ++ [idOf new] := by
  obtain ⟨id, fs, rfl, hid, _⟩ := newDocument_ok h
  unfold takenIds
  rw [List.map_append, List.filter_append, List.map_singleton, getD_assemble_id, hid.normal, idOf,
    getD_assemble_id, List.filter_cons, if_pos hid.hashable]
  rfl

end Collection

namespace Engine

open Collection

def createEach (now : Moment) (name : Value) : List Value → Action (List Answer)
  | [] => return []
  | doc :: docs => do
    let a ← run now (.call (.createOne name doc))
    return a :: (← createEach now name docs)

/-- Whatever came of requests, it was not that documents could not be stored or removed. -/
def IsFiled {α : Type} (r : Except Error α) : Prop :=
  ∀ err, r = .error err → ¬ HasFailed (.error err)

theorem IsFiled.of_isOk {α : Type} {r : Except Error α} (h : r.isOk = true) : IsFiled r := by
  obtain ⟨a, rfl⟩ := isOk_iff.mp h
  exact nofun

theorem IsFiled.answer {r : Except Error Answer} {a : Answer} (h : IsFiled r) (hr : IsAnswered a r)
    : r = .ok a := by
  refine hr.resolve_left ?_
  intro hfailed
  cases r with
  | error err => exact h err rfl hfailed
  | ok a => cases hfailed

section

variable {e : Engine} {name : Value} {i : Nat} {clock : Clock} {doc : Value} {docs : List Value}
  {ids : IdSupply}

theorem createEach_cons_refused {e₁ : Engine} {err : Error}
    (hrun : run clock.now (.call (.createOne name doc)) e = (.error err, e₁))
    : createEach clock.now name (doc :: docs) e = (.error err, e₁) := bind_error hrun

theorem createEach_cons {e₁ : Engine} {a : Answer}
    (hrun : run clock.now (.call (.createOne name doc)) e = (.ok a, e₁))
    : createEach clock.now name (doc :: docs) e
      = ((createEach clock.now name docs e₁).1.map (a :: ·),
        (createEach clock.now name docs e₁).2) := by
  change (run clock.now (.call (.createOne name doc)) >>= _) e = _
  rw [bind_ok hrun]
  rcases hrest : createEach clock.now name docs e₁ with ⟨r, e₂⟩
  cases r with
  | error err => exact bind_error hrest
  | ok as => exact bind_ok hrest

theorem IsFiled.of_createEach {e₁ : Engine} {r : Except Error Answer}
    (hrun : run clock.now (.call (.createOne name doc)) e = (r, e₁))
    (h : IsFiled (createEach clock.now name (doc :: docs) e).1)
    : IsFiled r ∧ ∀ a, r = .ok a → IsFiled (createEach clock.now name docs e₁).1 := by
  cases r with
  | error err =>
    rw [createEach_cons_refused hrun] at h
    refine ⟨?_, nofun⟩
    intro err' herr
    cases herr
    exact h err rfl
  | ok a =>
    rw [createEach_cons hrun] at h
    refine ⟨nofun, ?_⟩
    intro _ _ err herr
    apply h
    rw [herr]
    rfl

theorem begin_createOne (h : IsPlaceOf e name i)
    : begin (.call (.createOne name doc)) e = (.ok (.waits i (.mutate (.create doc))), e) :=
  mutation_of_place h _

theorem run_createOne_refused (h : IsPlaceOf e name i) {err : Error}
    (hnew : newDocument (e.store i).name doc (takenIds (e.store i).documents) clock.now e.ids =
      (.error err, ids))
    : (run clock.now (.call (.createOne name doc)) e).1 = .error err := by
  refine (run_mutation_refused clock (begin_createOne h) ?_).1
  unfold effectAt Mutation.effect Mutation.appendEffect
  dsimp only
  rw [hnew]

structure HasCreated (e : Engine) (i : Nat) (new : Fields) (ids : IdSupply)
    (r : Except Error Answer) (e' : Engine) :
    Prop where
  answer : IsAnswered (.report (.created (idOf new))) r
  documents : (e'.store i).documents = (e.store i).documents ++ [new]
  name : (e'.store i).name = (e.store i).name
  ids : e'.ids = ids

theorem run_createOne (he : e.Sound) (h : IsPlaceOf e name i) {new : Fields}
    (hnew : newDocument (e.store i).name doc (takenIds (e.store i).documents) clock.now e.ids =
      (.ok new, ids))
    {r : Except Error Answer} {e' : Engine}
    (hrun : run clock.now (.call (.createOne name doc)) e = (r, e'))
    : HasCreated e i new ids r e' := by
  have heffect : effectAt e clock.now i (.create doc)
      = ⟨(e.store i).documents ++ [new], ids, .ok (.report (.created (idOf new)), true)⟩ := by
    unfold effectAt Mutation.effect Mutation.appendEffect
    dsimp only
    rw [hnew]
    rfl
  have hbegin : begin (.call (.createOne name doc)) e =
      (.ok (.waits i (.mutate (.create doc))), e) :=
    begin_createOne h
  have hanswer := run_mutation_answer clock he hbegin (congrArg Effect.outcome heffect)
  have hdocuments := run_mutation_documents clock hbegin (he.lt_of_place h)
  have hname := run_mutation_name clock hbegin
  have hids := run_mutation_ids clock hbegin
  rw [hrun] at hanswer hdocuments hname hids
  rw [heffect] at hdocuments hids
  exact ⟨hanswer, hdocuments, hname, hids⟩

theorem createEach_eq (he : e.Sound) (h : IsPlaceOf e name i) {taken : List Value}
    (htaken : taken.Perm (takenIds (e.store i).documents))
    (hfiled : IsFiled (createEach clock.now name docs e).1) {r : Except Error (List Fields)}
    (hnews : newDocuments (e.store i).name clock.now docs taken e.ids = (r, ids))
    : (createEach clock.now name docs e).1 = r.map (·.map fun new => .report (.created (idOf new)))
      ∧ ∀ news, r = .ok news →
        ((createEach clock.now name docs e).2.store i).documents = (e.store i).documents ++
          news := by
  induction docs generalizing e taken r ids with
  | nil =>
    cases hnews
    refine ⟨rfl, ?_⟩
    intro news hr
    cases hr
    exact (List.append_nil _).symm
  | cons doc docs ih =>
    rcases hrun : run clock.now (.call (.createOne name doc)) e with ⟨a, e₁⟩
    obtain ⟨hfiled₁, hrest⟩ := hfiled.of_createEach hrun
    rcases hnew : newDocument (e.store i).name doc taken clock.now e.ids with ⟨x, ids₁⟩
    cases x with
    | error err =>
      rw [newDocuments_cons_refused hnew] at hnews
      cases hnews
      rw [newDocument_perm htaken] at hnew
      have hrefused := run_createOne_refused h hnew
      rw [hrun] at hrefused
      cases hrefused
      rw [createEach_cons_refused hrun]
      exact ⟨rfl, nofun⟩
    | ok new =>
      rw [newDocuments_cons hnew] at hnews
      cases hnews
      rw [newDocument_perm htaken] at hnew
      have hcreated := run_createOne he h hnew hrun
      cases hfiled₁.answer hcreated.answer
      -- the collection takes the new identifier last, the batch puts it first
      have htaken₁ : (idOf new :: taken).Perm (takenIds (e₁.store i).documents) := by
        rw [hcreated.documents, takenIds_append hnew]
        exact (htaken.cons _).trans (List.perm_append_singleton ..).symm
      obtain ⟨hb, hdocs⟩ :=
        ih (he.run hrun) (h.run rfl hrun) htaken₁ (hrest _ rfl) (Prod.ext rfl rfl)
      rw [hcreated.name, hcreated.ids] at hb hdocs
      rw [createEach_cons hrun, hb]
      rcases hy : newDocuments (e.store i).name clock.now docs (idOf new :: taken) ids₁
        with ⟨y, ids₂⟩
      rw [hy] at hdocs
      cases y with
      | error err => exact ⟨rfl, nofun⟩
      | ok news =>
        refine ⟨rfl, ?_⟩
        intro all hall
        cases hall
        refine (hdocs news rfl).trans ?_
        rw [hcreated.documents, List.append_assoc]
        rfl

theorem effectAt_createMany_refused {err : Error}
    (hnews : newDocuments (e.store i).name clock.now docs (takenIds (e.store i).documents) e.ids =
      (.error err, ids))
    : effectAt e clock.now i (.createMany docs) = ⟨(e.store i).documents, ids, .error err⟩ := by
  unfold effectAt Mutation.effect
  dsimp only
  rw [hnews]

theorem effectAt_createMany {news : List Fields}
    (hnews : newDocuments (e.store i).name clock.now docs (takenIds (e.store i).documents) e.ids =
      (.ok news, ids))
    : effectAt e clock.now i (.createMany docs)
      = ⟨(e.store i).documents ++ news, ids,
        .ok (.report (.createdMany (news.map idOf)), true)⟩ := by
  unfold effectAt Mutation.effect
  dsimp only
  rw [hnews]
  rfl

theorem begin_createMany (h : IsPlaceOf e name i) {batch : Value} (hbatch : batch.items = .ok docs)
    (hne : docs ≠ [])
    : begin (.call (.createMany name batch)) e =
      (.ok (.waits i (.mutate (.createMany docs))), e) := by
  rw [begin_call]
  dsimp only [beginCall]
  rw [bind_ok (collection_of_place h), hbatch]
  cases docs with
  | nil => exact absurd rfl hne
  | cons doc docs => rfl

end

/--
What a request that creates many documents comes to, beside requests that create one each: all
documents are created by either, or the batch is refused as a whole for the reason for which one of
them is refused.
-/
inductive CreatesAlike (now : Moment) (given : List Value) (i : Nat) (e : Engine) :
    Except Error Answer × Engine → Except Error (List Answer) × Engine → Prop where
  | created {news e₁ e₂} (made : List.Forall₂ (IsMadeFrom now) given news)
      (many : (e₁.store i).documents = (e.store i).documents ++ news)
      (each : (e₂.store i).documents = (e.store i).documents ++ news) :
      CreatesAlike now given i e (.ok (.report (.createdMany (news.map idOf))), e₁)
        (.ok (news.map fun new => .report (.created (idOf new))), e₂)
  | refused {err e₁ e₂} (kept : (e₁.store i).documents = (e.store i).documents)
      (disk : e₁.disk = e.disk) : CreatesAlike now given i e (.error err, e₁) (.error err, e₂)

section

variable {e e₀ : Engine} {name : Value} {i : Nat} {clock : Clock} {given : List Value}
  {batch : Value}

theorem createMany_alike_of_place (he : e.Sound) (h : IsPlaceOf e name i)
    (hbatch : batch.items = .ok given) (hne : given ≠ [])
    (hmany : IsFiled (run clock.now (.call (.createMany name batch)) e).1)
    (heach : IsFiled (createEach clock.now name given e).1)
    : CreatesAlike clock.now given i e (run clock.now (.call (.createMany name batch)) e)
      (createEach clock.now name given e) := by
  have hbegin := begin_createMany h hbatch hne
  have hdocs := run_mutation_documents clock hbegin (he.lt_of_place h)
  rcases hnews : newDocuments (e.store i).name clock.now given
    (takenIds (e.store i).documents) e.ids with ⟨r, ids⟩
  obtain ⟨heq, hdocs'⟩ := createEach_eq he h (.refl _) heach hnews
  rcases hm : run clock.now (.call (.createMany name batch)) e with ⟨many, e₁⟩
  rcases hc : createEach clock.now name given e with ⟨each, e₂⟩
  rw [hm] at hmany hdocs
  rw [hc] at heq hdocs'
  dsimp only at hmany hdocs heq hdocs'
  rw [heq]
  cases r with
  | error err =>
    have heffect := effectAt_createMany_refused hnews
    obtain ⟨hrefused, hdisk⟩ := run_mutation_refused clock hbegin (congrArg Effect.outcome heffect)
    rw [heffect] at hdocs
    rw [hm] at hrefused hdisk
    dsimp only at hrefused
    rw [hrefused]
    exact .refused hdocs hdisk
  | ok news =>
    have heffect := effectAt_createMany hnews
    have hanswer := run_mutation_answer clock he hbegin (congrArg Effect.outcome heffect)
    rw [hm] at hanswer
    rw [heffect] at hdocs
    cases hmany.answer hanswer
    exact .created (newDocuments_made hnews) hdocs (hdocs' news rfl)

theorem run_congr {q : Request} (h : begin q e = begin q e₀)
    : run clock.now q e = run clock.now q e₀ :=
  bind_congr_state h

end

/--
To create many documents by one request is to create them by one request each, in their order, if no
file fails: the same documents follow the old ones and the same identifiers are answered, or nothing
is created by the one request and the others are refused as well.
-/
theorem createMany_alike {e e₀ : Engine} (he : e.Reachable) {name : Value} {i : Nat}
    (hopen : collection name e = (.ok i, e₀)) {batch : Value} {given : List Value}
    (hbatch : batch.items = .ok given) (hne : given ≠ []) (clock : Clock)
    (hmany : IsFiled (run clock.now (.call (.createMany name batch)) e).1)
    (heach : IsFiled (createEach clock.now name given e).1)
    : CreatesAlike clock.now given i e₀ (run clock.now (.call (.createMany name batch)) e)
      (createEach clock.now name given e) := by
  -- whichever request comes first opens the collection
  have hplace : IsPlaceOf e₀ name i := (collection_opens hopen).2 i rfl
  have hmutation : ∀ m, mutation name m e = mutation name m e₀ := by
    intro m
    rw [mutation_of_place hplace]
    exact bind_ok hopen
  have he₀ : e₀.Sound := by
    have hflush : mutation name .flush e = (.ok (.waits i (.mutate .flush)), e₀) := bind_ok hopen
    have hsound := he.sound.begin (.flush name)
    change (mutation name .flush e).2.Sound at hsound
    rwa [hflush] at hsound
  have hmany₀ : run clock.now (.call (.createMany name batch)) e
      = run clock.now (.call (.createMany name batch)) e₀ := by
    apply run_congr
    rw [begin_call]
    dsimp only [beginCall]
    rw [bind_ok hopen, bind_ok (collection_of_place hplace)]
  have heach₀ : createEach clock.now name given e = createEach clock.now name given e₀ := by
    cases given with
    | nil => exact absurd rfl hne
    | cons doc docs => exact bind_congr_state (run_congr (hmutation (.create doc)))
  rw [hmany₀] at hmany ⊢
  rw [heach₀] at heach ⊢
  exact createMany_alike_of_place he₀ hplace hbatch hne hmany heach

def threeDocuments : List Value :=
  [.object [], .object [(.text "_id", .bool true)], .object [(.text "n", .int 1)]]

theorem createMany_alike_three
    : CreatesAlike Clock.epoch.now threeDocuments 0 openedEngine
        (run Clock.epoch.now (.call (.createMany (.text "c") (.list threeDocuments))) (onEmpty "d"))
        (createEach Clock.epoch.now (.text "c") threeDocuments (onEmpty "d")) :=
  createMany_alike (.start { root := "d" } {}) rfl rfl (by decide) .epoch
    (.of_isOk (by decide +kernel))
    (.of_isOk (by decide +kernel))

end Engine

end DocStore

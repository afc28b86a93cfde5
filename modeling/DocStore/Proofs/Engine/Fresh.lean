import DocStore.Proofs.Engine.Batch
import DocStore.Proofs.Engine.Supply

/-!
This module contains the proof that generated identifiers are new: each is found after at most one
identifier more than there are taken ones, and those that are generated for the documents of a batch
differ.
-/

namespace DocStore

open Work

def ObjectId.IsWritten (s : List Char) : Prop := s.length = 24 ∧ ∀ c ∈ s, c ∈ Text.smallDigits

theorem ObjectId.hex_isWritten (i : ObjectId) : IsWritten i.hex :=
  ⟨i.length_hex, fun _ => Text.mem_smallDigits_of_hexDigits⟩

namespace Collection

structure LacksId (doc : Value) (ids : IdSupply) (fs : Fields) (ids' : IdSupply) : Prop where
  isObject : ∃ gs, doc = .object gs
  normal : Extended.normalForm doc ids = (.ok (.object fs), ids')
  absent : Fields.getD fs Document.idField = .null

inductive Numbers (collection : String) (now : Moment) :
    List Value → List Value → IdSupply → List ObjectId → Except Error (List Fields) × IdSupply →
      Prop where
  | nil {taken ids} : Numbers collection now [] taken ids [] (.ok [], ids)
  | generated {doc docs taken ids fs ids₁ n i ids₂ generated r ids'}
      (lacks : LacksId doc ids fs ids₁)
      (finds : ids₁.Finds (.set false taken) n i ids₂)
      (rest : Numbers collection now docs (.ofText i.hex :: taken) ids₂ generated (r, ids')) :
      Numbers collection now (doc :: docs) taken ids (i :: generated)
        (r.map (assemble (.ofText i.hex) fs now :: ·), ids')
  | given {doc docs taken ids new ids₁ generated r ids'}
      (has : ∀ fs ids₁, ¬ LacksId doc ids fs ids₁)
      (made : newDocument collection doc taken now ids = (.ok new, ids₁))
      (rest : Numbers collection now docs (idOf new :: taken) ids₁ generated (r, ids')) :
      Numbers collection now (doc :: docs) taken ids generated (r.map (new :: ·), ids')
  | refused {doc docs taken ids err ids'} (has : ∀ fs ids₁, ¬ LacksId doc ids fs ids₁)
      (refuses : newDocument collection doc taken now ids = (.error err, ids')) :
      Numbers collection now (doc :: docs) taken ids [] (.error err, ids')

section

variable {collection : String} {now : Moment} {doc : Value} {docs taken members : List Value}
  {ids ids' : IdSupply}

theorem newDocument_lacksId {fs : Fields} {ids₁ : IdSupply} {id : Value}
    (h : LacksId doc ids fs ids₁) (hid : generateId (.set false taken) ids₁ = (.ok id, ids'))
    : newDocument collection doc taken now ids = (.ok (assemble id fs now), ids') := by
  obtain ⟨⟨gs, rfl⟩, hnormal, habsent⟩ := h
  have hnewId : newId collection (Fields.getD fs Document.idField).normalizeId taken ids₁ =
      (.ok id, ids') := by
    rw [habsent]
    exact hid
  unfold newDocument
  dsimp only
  rw [bind_ok hnormal]
  exact bind_ok hnewId

theorem newDocuments_numbers (hmembers : (Value.set false taken).HoldsAmong members)
    (hfew : members.length + docs.length ≤ 2 ^ 96)
    : ∃ generated, Numbers collection now docs taken ids generated
      (newDocuments collection now docs taken ids) := by
  induction docs generalizing taken members ids with
  | nil => exact ⟨[], .nil⟩
  | cons doc docs ih =>
    rw [List.length_cons] at hfew
    by_cases hlacks : ∃ fs ids₁, LacksId doc ids fs ids₁
    . obtain ⟨fs, ids₁, hlacks⟩ := hlacks
      obtain ⟨n, i, ids₂, _, hfinds, hid⟩ := generateId_finds hmembers (by omega) ids₁
      rw [newDocuments_cons (newDocument_lacksId hlacks hid), idOf, getD_assemble_id]
      obtain ⟨generated, hrest⟩ :=
        ih (hmembers.cons (.ofText i.hex)) (by rw [List.length_cons]; omega)
      exact ⟨i :: generated, .generated hlacks hfinds hrest⟩
    . have hhas : ∀ fs ids₁, ¬ LacksId doc ids fs ids₁ := fun fs ids₁ h => hlacks ⟨fs, ids₁, h⟩
      rcases hnew : newDocument collection doc taken now ids with ⟨r, ids₁⟩
      cases r with
      | error err =>
        rw [newDocuments_cons_refused hnew]
        exact ⟨[], .refused hhas hnew⟩
      | ok new =>
        rw [newDocuments_cons hnew]
        obtain ⟨generated, hrest⟩ := ih (hmembers.cons (idOf new)) (by rw [List.length_cons]; omega)
        exact ⟨generated, .given hhas hnew hrest⟩

theorem isTaken_cons {id v : Value}
    : isTaken (v :: taken) id = false ↔ v.equals id = false ∧ isTaken taken id = false := by
  unfold isTaken
  rw [List.any_cons, Bool.or_eq_false_iff]

theorem Numbers.free {generated : List ObjectId} {r : Except Error (List Fields) × IdSupply}
    (h : Numbers collection now docs taken ids generated r)
    : generated.Nodup ∧ ∀ i ∈ generated, isTaken taken (.ofText i.hex) = false := by
  induction h with
  | nil => exact ⟨.nil, nofun⟩
  | @generated doc docs taken ids fs ids₁ n i ids₂ generated r ids' lacks finds rest ih =>
    obtain ⟨hnodup, hfree⟩ := ih
    constructor
    . refine List.nodup_cons.mpr ⟨fun hmem => ?_, hnodup⟩
      have hself : (Value.ofText i.hex).equals (.ofText i.hex) = true := Value.text_equals.mpr rfl
      rw [(isTaken_cons.mp (hfree i hmem)).1] at hself
      cases hself
    . intro j hj
      cases List.mem_cons.mp hj with
      | inl heq =>
        rw [heq]
        exact finds.isFree
      | inr hmem => exact (isTaken_cons.mp (hfree j hmem)).2
  | given _ _ _ ih =>
    obtain ⟨hnodup, hfree⟩ := ih
    exact ⟨hnodup, fun j hj => (isTaken_cons.mp (hfree j hj)).2⟩
  | refused => exact ⟨.nil, nofun⟩

end

end Collection

namespace Engine

open Collection

inductive HasNumbered (now : Moment) (given : List Value) (i : Nat) (e : Engine)
    (generated : List ObjectId) :
    Except Error Answer × Engine → Prop where
  | created {news r e'}
      (numbers : Numbers (e.store i).name now given (takenIds (e.store i).documents) e.ids generated
        (.ok news, e'.ids))
      (documents : (e'.store i).documents = (e.store i).documents ++ news)
      (answer : IsAnswered (.report (.createdMany (news.map idOf))) r) :
      HasNumbered now given i e generated (r, e')
  | refused {err e'}
      (numbers : Numbers (e.store i).name now given (takenIds (e.store i).documents) e.ids generated
        (.error err, e'.ids))
      (documents : (e'.store i).documents = (e.store i).documents) :
      HasNumbered now given i e generated (.error err, e')

section

variable {e e₀ : Engine} {name : Value} {i : Nat} {clock : Clock} {given members : List Value}
  {batch : Value}

theorem begin_createMany_nothing (h : IsPlaceOf e name i) (hbatch : batch.items = .ok [])
    : begin (.call (.createMany name batch)) e =
      (.ok (.answered (.report (.createdMany []))), e) := by
  rw [begin_call]
  dsimp only [beginCall]
  rw [bind_ok (collection_of_place h), hbatch]
  rfl

theorem run_createMany_opened (hopen : collection name e = (.ok i, e₀))
    : run clock.now (.call (.createMany name batch)) e =
      run clock.now (.call (.createMany name batch)) e₀ := by
  apply run_congr
  rw [begin_call]
  dsimp only [beginCall]
  rw [bind_ok hopen, bind_ok (collection_of_place ((collection_opens hopen).2 i rfl))]

theorem HasNumbered.free {now : Moment} {generated : List ObjectId}
    {r : Except Error Answer × Engine} (h : HasNumbered now given i e generated r)
    : generated.Nodup ∧ ∀ j ∈ generated, isTaken (takenIds (e.store i).documents) (.ofText j.hex) =
      false := by
  cases h with
  | created numbers => exact numbers.free
  | refused numbers => exact numbers.free

theorem createMany_numbers_of_place (he : e.Sound) (h : IsPlaceOf e name i)
    (hbatch : batch.items = .ok given)
    (hmembers : (Value.set false (takenIds (e.store i).documents)).HoldsAmong members)
    (hfew : members.length + given.length ≤ 2 ^ 96)
    : ∃ generated, HasNumbered clock.now given i e generated
      (run clock.now (.call (.createMany name batch)) e) := by
  rcases hnews : newDocuments (e.store i).name clock.now given
    (takenIds (e.store i).documents) e.ids with ⟨r, ids⟩
  obtain ⟨generated, hnumbers⟩ : ∃ generated,
    Numbers (e.store i).name clock.now given (takenIds (e.store i).documents)
      e.ids generated (r, ids) := by
    rw [← hnews]
    exact newDocuments_numbers hmembers hfew
  refine ⟨generated, ?_⟩
  rcases hrun : run clock.now (.call (.createMany name batch)) e with ⟨a, e'⟩
  -- an empty batch is answered at once, without a turn
  by_cases hne : given = []
  . subst hne
    cases hnews
    rw [run_answered (begin_createMany_nothing h hbatch)] at hrun
    cases hrun
    exact .created hnumbers (List.append_nil _).symm (.inr rfl)
  . have hbegin := begin_createMany h hbatch hne
    have hids := run_mutation_ids clock hbegin
    have hdocs := run_mutation_documents clock hbegin (he.lt_of_place h)
    cases r with
    | error err =>
      have heffect := effectAt_createMany_refused hnews
      have hrefused := (run_mutation_refused clock hbegin (congrArg Effect.outcome heffect)).1
      rw [heffect, hrun] at hids hdocs
      rw [hrun] at hrefused
      cases hrefused
      cases hids
      exact .refused hnumbers hdocs
    | ok news =>
      have heffect := effectAt_createMany hnews
      have hanswer := run_mutation_answer clock he hbegin (congrArg Effect.outcome heffect)
      rw [heffect, hrun] at hids hdocs
      rw [hrun] at hanswer
      cases hids
      exact .created hnumbers hdocs hanswer

end

theorem generated_ids_new
    : (∀ (taken : Value) (members : List Value) (ids : IdSupply), taken.HoldsAmong members →
        members.length < 2 ^ 96 →
        ∃ n i ids', n ≤ members.length + 1 ∧ ids.Finds taken n i ids'
          ∧ generateId taken ids = (.ok (.ofText i.hex), ids') ∧ ObjectId.IsWritten i.hex
          ∧ taken.holdsText i.hex = false)
      ∧ ∀ (e e₀ : Engine) (name batch : Value) (i : Nat) (given members : List Value)
        (clock : Clock), e.Reachable →
        collection name e = (.ok i, e₀) → batch.items = .ok given →
        (Value.set false (takenIds (e₀.store i).documents)).HoldsAmong members →
        members.length + given.length ≤ 2 ^ 96 →
        ∃ generated, HasNumbered clock.now given i e₀ generated
          (run clock.now (.call (.createMany name batch)) e)
          ∧ generated.Nodup
          ∧ ∀ j ∈ generated, ObjectId.IsWritten j.hex
            ∧ isTaken (takenIds (e₀.store i).documents) (.ofText j.hex) = false := by
  constructor
  . intro taken members ids hmembers hfew
    obtain ⟨n, i, ids', hn, hfinds, hid⟩ := generateId_finds hmembers hfew ids
    exact ⟨n, i, ids', hn, hfinds, hid, i.hex_isWritten, hfinds.isFree⟩
  . intro e e₀ name batch i given members clock he hopen hbatch hmembers hfew
    have hopens := collection_opens hopen
    have hplace : IsPlaceOf e₀ name i := hopens.2 i rfl
    rw [run_createMany_opened hopen]
    obtain ⟨generated, hnumbered⟩ :=
      createMany_numbers_of_place (he.sound.opens hopens.1) hplace hbatch hmembers hfew
    obtain ⟨hnodup, hfree⟩ := hnumbered.free
    exact ⟨generated, hnumbered, hnodup, fun j hj => ⟨j.hex_isWritten, hfree j hj⟩⟩

theorem lastId_lt : 2 ^ 96 - 1 < 2 ^ 96 := by decide

def lastSupply : IdSupply := ⟨⟨⟨2 ^ 96 - 1, lastId_lt⟩⟩⟩

def usedIds : List Value :=
  [.text "ffffffffffffffffffffffff", .int 7, .text "000000000000000000000000"]

def wrappingEngine : Engine :=
  { (run Clock.epoch.now
    (.call (.createOne (.text "c") (.object [(.text "_id", .text "000000000000000000000000")])))
      (onEmpty "d")).2 with ids := lastSupply }

theorem generated_ids_new_wrapped
    : (∃ n i ids', n ≤ 4 ∧ lastSupply.Finds (.set false usedIds) n i ids'
        ∧ generateId (.set false usedIds) lastSupply = (.ok (.ofText i.hex), ids') ∧
          ObjectId.IsWritten i.hex
        ∧ (Value.set false usedIds).holdsText i.hex = false)
      ∧ ∃ generated, HasNumbered Clock.epoch.now threeDocuments 0 wrappingEngine generated
          (run Clock.epoch.now (.call (.createMany (.text "c") (.list threeDocuments)))
            wrappingEngine)
          ∧ generated.Nodup
          ∧ ∀ j ∈ generated, ObjectId.IsWritten j.hex
            ∧ isTaken (takenIds (wrappingEngine.store 0).documents) (.ofText j.hex) = false := by
  have hreachable : wrappingEngine.Reachable :=
    .step ((Reachable.start { root := "d" } {}).steps (run_steps .epoch _ _)) (.supply lastSupply)
  have hplace : IsPlaceOf wrappingEngine (.text "c") 0 := ⟨"c", rfl, by decide +kernel⟩
  have hfew : (takenIds (wrappingEngine.store 0).documents).length + threeDocuments.length ≤ 2 ^
      96 := by
    decide +kernel
  constructor
  . exact generated_ids_new.1 _ usedIds lastSupply (Value.holdsAmong_set false usedIds) (by decide)
  . exact generated_ids_new.2 _ _ _ _ _ _ _ .epoch hreachable (collection_of_place hplace) rfl
      (Value.holdsAmong_set false _) hfew

end Engine

end DocStore

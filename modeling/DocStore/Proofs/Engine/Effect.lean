import DocStore.Engine.Mutation
import DocStore.Proofs.Work

/-!
This module contains what a mutation does to the memory of a collection, apart from the file. A
mutation is its effect on the memory, followed by a write of the file if there is something to
write.
-/

namespace DocStore

structure Effect where
  documents : List Fields
  ids : IdSupply
  outcome : Except Error (Answer × Bool)

namespace Effect

def perform (f : Effect) : Holding Answer := fun h =>
  let h := { h with documents := f.documents, ids := f.ids }
  match f.outcome with
  | .error e => (.error e, h)
  | .ok (a, false) => (.ok a, h)
  | .ok (a, true) =>
    match Holding.persist h with
    | (.ok (), h) => (.ok a, h)
    | (.error e, h) => (.error e, h)

end Effect

namespace Mutation

def changeEffect (docs : List Fields) (ids : IdSupply) (index : Nat) (patch : Value) (now : Moment)
    : Effect :=
  match docs[index]? with
  | none => ⟨docs, ids, .ok (.report (updated 0), false)⟩
  | some doc =>
    match Collection.merge doc patch now with
    | .error e => ⟨docs, ids, .error e⟩
    | .ok merged => ⟨docs.set index merged, ids, .ok (.report (updated 1), true)⟩

def appendEffect (collection : String) (docs : List Fields) (ids : IdSupply) (doc : Value)
    (now : Moment)
    (report : Value → Report) : Effect :=
  match Collection.newDocument collection doc (Collection.takenIds docs) now ids with
  | (.error e, ids) => ⟨docs, ids, .error e⟩
  | (.ok new, ids) =>
    ⟨docs ++ [new], ids, .ok (.report (report (Fields.getD new Document.idField)), true)⟩

def effect (now : Moment) (collection : String) (docs : List Fields) (ids : IdSupply)
    : Mutation → Effect
  | .create doc => appendEffect collection docs ids doc now .created
  | .createMany given =>
    match Collection.newDocuments collection now given (Collection.takenIds docs) ids with
    | (.error e, ids) => ⟨docs, ids, .error e⟩
    | (.ok new, ids) =>
      ⟨docs ++ new, ids,
        .ok (.report (.createdMany (new.map (Fields.getD · Document.idField))), true)⟩
  | .update id patch =>
    match Collection.indexOf? docs id with
    | none => ⟨docs, ids, .ok (.report (updated 0), false)⟩
    | some index => changeEffect docs ids index patch now
  | .updateMany query patch =>
    match Collection.mergeMatching query patch now docs with
    | (.error e, docs) => ⟨docs, ids, .error e⟩
    | (.ok n, docs) => ⟨docs, ids, .ok (.report (updated n), n ≠ 0)⟩
  | .upsert fs key =>
    match Collection.upsertIndex? docs fs key with
    | some index => changeEffect docs ids index (.object (Document.stripStoreFields fs)) now
    | none => appendEffect collection docs ids (.object fs) now .upserted
  | .delete id =>
    match Collection.indexOf? docs id with
    | none => ⟨docs, ids, .ok (.report (.deleted (.int 0)), false)⟩
    | some index => ⟨docs.eraseIdx index, ids, .ok (.report (.deleted (.int 1)), true)⟩
  | .deleteMany query =>
    match Collection.unmatched query docs with
    | .error e => ⟨docs, ids, .error e⟩
    | .ok kept =>
      ⟨kept, ids, .ok (.report (.deleted (.int ((docs.length : Int) - kept.length))),
        kept.length < docs.length)⟩
  | .flush => ⟨docs, ids, .ok (.nothing, true)⟩

inductive Changes (docs : List Fields) (ids : IdSupply) (index : Nat) (patch : Value)
    (now : Moment) :
    Effect → Prop where
  | missing (absent : docs[index]? = none) :
      Changes docs ids index patch now ⟨docs, ids, .ok (.report (updated 0), false)⟩
  | refused {doc err} (found : docs[index]? = some doc)
      (merge : Collection.merge doc patch now = .error err) :
      Changes docs ids index patch now ⟨docs, ids, .error err⟩
  | changed {doc merged} (found : docs[index]? = some doc)
      (merge : Collection.merge doc patch now = .ok merged) :
      Changes docs ids index patch now ⟨docs.set index merged, ids, .ok (.report (updated 1), true)⟩

inductive Appends (collection : String) (docs : List Fields) (ids : IdSupply) (doc : Value)
    (now : Moment)
    (report : Value → Report) : Effect → Prop where
  | refused {err ids'}
      (fresh : Collection.newDocument collection doc (Collection.takenIds docs) now ids =
        (.error err, ids')) :
      Appends collection docs ids doc now report ⟨docs, ids', .error err⟩
  | appended {new ids'}
      (fresh : Collection.newDocument collection doc (Collection.takenIds docs) now ids =
        (.ok new, ids')) :
      Appends collection docs ids doc now report
        ⟨docs ++ [new], ids', .ok (.report (report (Fields.getD new Document.idField)), true)⟩

inductive ComesTo (now : Moment) (collection : String) (docs : List Fields) (ids : IdSupply) :
    Mutation → Effect → Prop where
  | create {doc f} (appends : Appends collection docs ids doc now .created f) :
      ComesTo now collection docs ids (.create doc) f
  | createManyRefused {given err ids'}
      (fresh : Collection.newDocuments collection now given (Collection.takenIds docs) ids =
        (.error err, ids')) :
      ComesTo now collection docs ids (.createMany given) ⟨docs, ids', .error err⟩
  | createMany {given news ids'}
      (fresh : Collection.newDocuments collection now given (Collection.takenIds docs) ids =
        (.ok news, ids')) :
      ComesTo now collection docs ids (.createMany given)
        ⟨docs ++ news, ids',
          .ok (.report (.createdMany (news.map (Fields.getD · Document.idField))), true)⟩
  | updateMissing {id patch} (absent : Collection.indexOf? docs id = none) :
      ComesTo now collection docs ids (.update id patch)
      ⟨docs, ids, .ok (.report (updated 0), false)⟩
  | update {id patch index f} (found : Collection.indexOf? docs id = some index)
      (changes : Changes docs ids index patch now f) :
      ComesTo now collection docs ids (.update id patch) f
  | updateManyRefused {query patch err docs'}
      (merges : Collection.mergeMatching query patch now docs = (.error err, docs')) :
      ComesTo now collection docs ids (.updateMany query patch) ⟨docs', ids, .error err⟩
  | updateMany {query patch n docs'}
      (merges : Collection.mergeMatching query patch now docs = (.ok n, docs')) :
      ComesTo now collection docs ids (.updateMany query patch)
      ⟨docs', ids, .ok (.report (updated n), n ≠ 0)⟩
  | upsertFound {fs key index f} (found : Collection.upsertIndex? docs fs key = some index)
      (changes : Changes docs ids index (.object (Document.stripStoreFields fs)) now f) :
      ComesTo now collection docs ids (.upsert fs key) f
  | upsertMissing {fs key f} (absent : Collection.upsertIndex? docs fs key = none)
      (appends : Appends collection docs ids (.object fs) now .upserted f) :
      ComesTo now collection docs ids (.upsert fs key) f
  | deleteMissing {id} (absent : Collection.indexOf? docs id = none) :
      ComesTo now collection docs ids (.delete id)
      ⟨docs, ids, .ok (.report (.deleted (.int 0)), false)⟩
  | delete {id index} (found : Collection.indexOf? docs id = some index) :
      ComesTo now collection docs ids (.delete id)
        ⟨docs.eraseIdx index, ids, .ok (.report (.deleted (.int 1)), true)⟩
  | deleteManyRefused {query err} (unmatched : Collection.unmatched query docs = .error err) :
      ComesTo now collection docs ids (.deleteMany query) ⟨docs, ids, .error err⟩
  | deleteMany {query kept} (unmatched : Collection.unmatched query docs = .ok kept) :
      ComesTo now collection docs ids (.deleteMany query)
        ⟨kept, ids, .ok (.report (.deleted (.int ((docs.length : Int) - kept.length))),
          kept.length < docs.length)⟩
  | flush : ComesTo now collection docs ids .flush ⟨docs, ids, .ok (.nothing, true)⟩

theorem changes_changeEffect (docs : List Fields) (ids : IdSupply) (index : Nat) (patch : Value)
    (now : Moment)
    : Changes docs ids index patch now (changeEffect docs ids index patch now) := by
  unfold changeEffect
  cases hdoc : docs[index]? with
  | none => exact .missing hdoc
  | some doc =>
    dsimp only
    cases hmerge : Collection.merge doc patch now with
    | error err => exact .refused hdoc hmerge
    | ok merged => exact .changed hdoc hmerge

theorem appends_appendEffect (collection : String) (docs : List Fields) (ids : IdSupply)
    (doc : Value) (now : Moment) (report : Value → Report)
    : Appends collection docs ids doc now report
      (appendEffect collection docs ids doc now report) := by
  unfold appendEffect
  rcases hnew : Collection.newDocument collection doc (Collection.takenIds docs) now ids
    with ⟨r, ids'⟩
  cases r with
  | error err => exact .refused hnew
  | ok new => exact .appended hnew

/--
All that a mutation can come to. Whatever holds of its effect is shown case by case from here.
-/
theorem comesTo_effect (m : Mutation) (now : Moment) (collection : String) (docs : List Fields)
    (ids : IdSupply)
    : ComesTo now collection docs ids m (m.effect now collection docs ids) := by
  cases m with
  | create doc => exact .create (appends_appendEffect ..)
  | createMany given =>
    unfold effect
    dsimp only
    split
    next hnews => exact .createManyRefused hnews
    next hnews => exact .createMany hnews
  | update id patch =>
    unfold effect
    dsimp only
    split
    next habsent => exact .updateMissing habsent
    next hfound => exact .update hfound (changes_changeEffect ..)
  | updateMany query patch =>
    unfold effect
    dsimp only
    split
    next hmerges => exact .updateManyRefused hmerges
    next hmerges => exact .updateMany hmerges
  | upsert fs key =>
    unfold effect
    dsimp only
    split
    next hfound => exact .upsertFound hfound (changes_changeEffect ..)
    next habsent => exact .upsertMissing habsent (appends_appendEffect ..)
  | delete id =>
    unfold effect
    dsimp only
    split
    next habsent => exact .deleteMissing habsent
    next hfound => exact .delete hfound
  | deleteMany query =>
    unfold effect
    dsimp only
    split
    next hkept => exact .deleteManyRefused hkept
    next hkept => exact .deleteMany hkept
  | flush => exact .flush

end Mutation

open Work

namespace Holding

theorem ofDrawing_eq {α : Type} {x : Drawing α} {h : Held} {r : Except Error α} {ids : IdSupply}
    (hx : x h.ids = (r, ids))
    : ofDrawing x h = (r, { h with ids }) := by
  unfold ofDrawing
  rw [hx]

end Holding

namespace Collection

theorem unmatched_sublist {query : Value} {docs kept : List Fields}
    (h : unmatched query docs = .ok kept)
    : kept.Sublist docs := by
  induction docs generalizing kept with
  | nil =>
    cases h
    exact .slnil
  | cons doc docs ih =>
    unfold unmatched at h
    obtain ⟨holds, _, h⟩ := then_ok h
    obtain ⟨rest, hrest, h⟩ := then_ok h
    cases h
    split
    . exact (ih hrest).cons _
    . exact (ih hrest).cons_cons _

end Collection

namespace Mutation

open Holding

theorem commit_then (docs : List Fields) (ids : IdSupply) (a : Answer) (h : Held)
    : (do commit docs; return a : Holding Answer) { h with ids } =
      (Effect.mk docs ids (.ok (a, true))).perform h := by
  unfold Effect.perform
  dsimp only
  rcases hp : persist { h with documents := docs, ids } with ⟨r, h'⟩
  cases r with
  | ok u => exact bind_ok hp
  | error e => exact bind_error hp

theorem change_eq (index : Nat) (patch : Value) (now : Moment) (h : Held)
    : (do return .report (← change index patch now) : Holding Answer) h
      = (changeEffect h.documents h.ids index patch now).perform h := by
  unfold change changeEffect
  rw [bind_assoc, get_bind]
  dsimp only
  cases hd : h.documents[index]? with
  | none => rfl
  | some doc =>
    dsimp only
    rw [bind_assoc]
    cases Collection.merge doc patch now with
    | error e => rfl
    | ok merged =>
      rw [lift_ok_bind, bind_assoc]
      exact commit_then _ _ _ _

theorem append_eq (doc : Value) (now : Moment) (report : Value → Report) (h : Held)
    : (do return .report (report (← append doc now)) : Holding Answer) h
      = (appendEffect h.collection h.documents h.ids doc now report).perform h := by
  unfold append appendEffect
  rw [bind_assoc, get_bind, bind_assoc]
  rcases hn : Collection.newDocument h.collection doc (Collection.takenIds h.documents) now h.ids
    with ⟨r, ids⟩
  cases r with
  | error e => exact bind_error (ofDrawing_eq hn)
  | ok new =>
    rw [bind_ok (ofDrawing_eq hn), bind_assoc]
    exact commit_then _ _ _ _

theorem execute_eq (m : Mutation) (now : Moment) (h : Held)
    : m.execute now h = (m.effect now h.collection h.documents h.ids).perform h := by
  -- a mutation settles what becomes of the memory first; the file is written last, if at all
  cases m with
  | create doc => exact append_eq doc now .created h
  | createMany given =>
    unfold execute effect
    dsimp only
    rw [get_bind]
    rcases hn : Collection.newDocuments h.collection now given
      (Collection.takenIds h.documents) h.ids with ⟨r, ids⟩
    cases r with
    | error e => exact bind_error (ofDrawing_eq hn)
    | ok new =>
      rw [bind_ok (ofDrawing_eq hn)]
      exact commit_then _ _ _ _
  | update id patch =>
    unfold execute effect
    dsimp only
    rw [get_bind]
    cases Collection.indexOf? h.documents id with
    | none => rfl
    | some index => exact change_eq _ _ _ _
  | updateMany query patch =>
    unfold execute effect
    dsimp only
    rw [get_bind]
    rcases hm : Collection.mergeMatching query patch now h.documents with ⟨r, docs⟩
    cases r with
    | error e => rfl
    | ok n =>
      by_cases hn : n = 0
      . rw [hn]
        rfl
      . have hne : decide (n ≠ 0) = true := by simpa using hn
        simp only [hne]
        rw [modify_bind, lift_ok_bind, if_pos hn]
        exact commit_then docs h.ids _ h
  | upsert fs key =>
    unfold execute effect
    dsimp only
    rw [get_bind]
    cases Collection.upsertIndex? h.documents fs key with
    | some index => exact change_eq _ _ _ _
    | none => exact append_eq _ _ _ _
  | delete id =>
    unfold execute effect
    dsimp only
    rw [get_bind]
    cases Collection.indexOf? h.documents id with
    | none => rfl
    | some index => exact commit_then _ _ _ _
  | deleteMany query =>
    unfold execute effect
    dsimp only
    rw [get_bind]
    cases hu : Collection.unmatched query h.documents with
    | error e => rfl
    | ok kept =>
      rw [lift_ok_bind]
      by_cases hlt : kept.length < h.documents.length
      . dsimp only
        rw [if_pos hlt, decide_eq_true hlt]
        exact commit_then _ _ _ _
      -- where nothing is dropped the list is the same one, and is not written
      . have hkept : kept = h.documents :=
          (Collection.unmatched_sublist hu).eq_of_length_le (by omega)
        dsimp only
        rw [if_neg hlt, decide_eq_false hlt, hkept]
        rfl
  | flush => exact commit_then h.documents h.ids .nothing h

end Mutation

end DocStore

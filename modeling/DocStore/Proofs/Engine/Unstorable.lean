import DocStore.Proofs.Engine.Batch
import DocStore.Proofs.Engine.Event
import DocStore.Proofs.Engine.Load
import DocStore.Proofs.Engine.Selection
import DocStore.Proofs.Engine.Supply
import DocStore.Proofs.Extended.Unstorable

/-!
This module contains what comes of a call whose documents or whose patch are spoilt: an error that
is none of those that the library has. For other reasons such an error is raised only if the
collection cannot be opened, another argument is at fault, or no identifier is left. It is about
machines whose stack bounds how deep values may nest, and about calls that meet nothing that the
values leave out.
-/

namespace DocStore

open Work

namespace Value

mutual

def nesting : Value → Nat
  | .list xs => itemsNesting xs + 1
  | .tuple xs => itemsNesting xs + 1
  | .set _ xs => itemsNesting xs + 1
  | .object fs => fieldsNesting fs + 1
  | _ => 0

def itemsNesting : List Value → Nat
  | [] => 0
  | x :: xs => max x.nesting (itemsNesting xs)

def fieldsNesting : List (Value × Value) → Nat
  | [] => 0
  | (k, v) :: fs => max (max k.nesting v.nesting) (fieldsNesting fs)

end

end Value

def Error.isOwn : Error → Bool
  | .argument _ => true
  | .duplicateKey .. => true
  | .file .. => true
  | _ => false

def Call.contentCount : Call → Nat
  | .createMany _ docs =>
    match docs.items with
    | .ok given => given.length
    | .error _ => 0
  | _ => 1

def Call.arguments : Call → List Value
  | .createOne _ doc => [doc]
  | .createMany _ docs => [docs]
  | .findOne _ query sort => [query, sort]
  | .findById _ id => [id]
  | .find _ query limit skip sort => [query, limit, skip, sort]
  | .count _ query => [query]
  | .updateOne _ doc => [doc]
  | .updateMany _ query patch => [query, patch]
  | .upsertOne _ doc key => [doc, key]
  | .deleteOne _ id => [id]
  | .deleteMany _ query => [query]

theorem Error.isOwn_ofDecodeFault (e : Extended.DecodeFault)
    : (Error.ofDecodeFault e).isOwn = false := by
  unfold Error.ofDecodeFault
  split <;> rfl

namespace Extended

/--
What is raised for fields that are spoilt: the error of reading them, or a fault of a value that is
no object.
-/
inductive Spoilt (fs : Fields) (ids : IdSupply) (kind : Fault) : Error → Prop where
  | refused {err} (h : Spoils fs ids (.error err)) : Spoilt fs ids kind err
  | typed {v} (h : Spoils fs ids (.ok v)) (other : ∀ gs, v ≠ .object gs) :
      Spoilt fs ids kind (.fault kind)

theorem Spoils.isOwn_error {fs : Fields} {ids : IdSupply} {err : Error}
    (h : Spoils fs ids (.error err))
    : err.isOwn = false := by
  cases h with
  | refused => exact Error.isOwn_ofDecodeFault _

theorem Spoilt.isOwn {fs : Fields} {ids : IdSupply} {kind : Fault} {err : Error}
    (h : Spoilt fs ids kind err)
    : err.isOwn = false := by
  cases h with
  | refused h => exact h.isOwn_error
  | typed => rfl

theorem spoils_error {fs : Fields} {ids ids' : IdSupply} {err : Error}
    (h : normalForm (.object fs) ids = (.error err, ids')) (hown : err.isOwn = false)
    : Spoils fs ids (.error err) := by
  refine spoils_iff.mpr ⟨by rw [h], ?_⟩
  intro hsettled
  cases hsettled with
  | unstorable => cases hown

theorem spoils_ok {fs : Fields} {ids ids' : IdSupply} {v : Value}
    (h : normalForm (.object fs) ids = (.ok v, ids'))
    (hv : ∀ gs, v ≠ .object gs) : Spoils fs ids (.ok v) := by
  refine spoils_iff.mpr ⟨by rw [h], ?_⟩
  intro hsettled
  cases hsettled with
  | document => exact hv _ rfl

theorem normalForm_isRead {fs : Fields} (h : (Value.object fs).IsRead) (ids : IdSupply)
    : normalForm (.object fs) ids = (.ok (.object fs.reread), ids) := by
  obtain ⟨j, hj⟩ := encodeTree_isOk .line h.isStored
  have hread := decode_encodeTree_reread h hj
  rw [Value.reread_object] at hread
  exact normalForm_read ((encode_eq_encodeTree .line h.isStored).trans hj) (by rw [hread]; rfl)

end Extended

namespace Collection

open Extended

section

variable {collection : String} {taken : List Value} {now : Moment} {ids ids' : IdSupply}
  {err : Error}

theorem newId_error {given : Value} (h : newId collection given taken ids = (.error err, ids'))
    (hown : err.isOwn = false) : 2 ^ 96 ≤ taken.length := by
  unfold newId at h
  split at h
  . exact generateId_error h
  . split at h
    . cases h
      cases hown
    . split at h
      . cases h
        cases hown
      . cases h

theorem newDocument_error {doc : Value}
    (h : newDocument collection doc taken now ids = (.error err, ids')) (hown : err.isOwn = false)
    : (∃ fs, doc = .object fs ∧ Spoilt fs ids .noOperation err) ∨ 2 ^ 96 ≤ taken.length := by
  unfold newDocument at h
  split at h
  next fs =>
    rcases bind_cases h with ⟨_, hnormal, he⟩ | ⟨v, ids₁, hnormal, h⟩
    . cases he
      exact .inl ⟨fs, rfl, .refused (spoils_error hnormal hown)⟩
    . split at h
      next gs =>
        rcases bind_cases h with ⟨_, hid, he⟩ | ⟨_, _, _, hnew⟩
        . cases he
          exact .inr (newId_error hid hown)
        . cases hnew
      next hv =>
        cases h
        exact .inl ⟨fs, rfl, .typed (spoils_ok hnormal hv) hv⟩
  . cases h
    cases hown

theorem newDocuments_error {docs : List Value}
    (h : newDocuments collection now docs taken ids = (.error err, ids'))
    : ∃ before doc after news ids₁ taken', docs = before ++ doc :: after
        ∧ newDocuments collection now before taken ids = (.ok news, ids₁)
        ∧ newDocument collection doc taken' now ids₁ = (.error err, ids')
        ∧ taken'.length = taken.length + before.length := by
  induction docs generalizing taken ids with
  | nil => cases h
  | cons doc docs ih =>
    rcases hnew : newDocument collection doc taken now ids with ⟨r, ids₁⟩
    cases r with
    | error err' =>
      rw [newDocuments_cons_refused hnew] at h
      cases h
      exact ⟨[], doc, docs, [], ids, taken, rfl, rfl, hnew, rfl⟩
    | ok new =>
      rw [newDocuments_cons hnew] at h
      rcases hrest : newDocuments collection now docs (idOf new :: taken) ids₁ with ⟨r, ids₂⟩
      rw [hrest] at h
      cases r with
      | ok news => cases h
      | error err' =>
        cases h
        obtain ⟨before, doc', after, news, ids₃, taken', rfl, hbefore, hdoc, hlength⟩ := ih hrest
        refine ⟨doc :: before, doc', after, new :: news, ids₃, taken', rfl, ?_, hdoc, ?_⟩
        . rw [newDocuments_cons hnew, hbefore]
          rfl
        . rw [hlength, List.length_cons, List.length_cons]
          omega

theorem length_takenIds_le (docs : List Fields) : (takenIds docs).length ≤ docs.length := by
  unfold takenIds
  exact (List.length_filter_le ..).trans (List.length_map ..).le

end

end Collection

namespace Engine

open Collection Extended

inductive Waits (e : Engine) : Call → Nat → Mutation → Engine → Prop where
  | createOne {name doc i e₁} (opened : collection name e = (.ok i, e₁)) :
      Waits e (.createOne name doc) i (.create doc) e₁
  | createMany {name docs given i e₁} (opened : collection name e = (.ok i, e₁))
      (items : docs.items = .ok given)
      (some : given ≠ []) : Waits e (.createMany name docs) i (.createMany given) e₁
  | updateOne {name doc fs id rest patch ids i e₁} (fields : Document.fieldsOf doc = .ok fs)
      (split : Document.splitId fs = (id, rest)) (present : id ≠ .null)
      (normal : normalForm (.object (Document.stripStoreFields rest)) e.ids = (.ok patch, ids))
      (opened : collection name { e with ids } = (.ok i, e₁)) :
      Waits e (.updateOne name doc) i (.update id.normalizeId patch) e₁
  | updateMany {name query fs patch ids i e₁}
      (normal : normalForm (.object (Document.stripStoreFields fs)) e.ids = (.ok patch, ids))
      (opened : collection name { e with ids } = (.ok i, e₁)) :
      Waits e (.updateMany name query (.object fs)) i (.updateMany query patch) e₁
  | upsertOne {name fs key gs key' gs' ids i e₁}
      (normal : normalForm (.object fs) e.ids = (.ok (.object gs), ids))
      (resolved : Document.resolveKey gs key = .ok (key', gs'))
      (opened : collection name { e with ids } = (.ok i, e₁)) :
      Waits e (.upsertOne name (.object fs) key) i (.upsert gs' key') e₁

inductive SpoiltBy (e : Engine) (now : Moment) : Call → Error → Prop where
  | createOne {name i e₁ fs err} (opened : collection name e = (.ok i, e₁))
      (spoilt : Spoilt fs e₁.ids .noOperation err) :
      SpoiltBy e now (.createOne name (.object fs)) err
  | createMany {name docs i e₁ before fs after news ids err}
      (opened : collection name e = (.ok i, e₁))
      (items : docs.items = .ok (before ++ .object fs :: after))
      (earlier : newDocuments (e₁.store i).name now before
        (takenIds (e₁.store i).documents) e₁.ids = (.ok news, ids))
      (spoilt : Spoilt fs ids .noOperation err) : SpoiltBy e now (.createMany name docs) err
  | updateOne {name doc fs id rest err} (fields : Document.fieldsOf doc = .ok fs)
      (split : Document.splitId fs = (id, rest)) (present : id ≠ .null)
      (spoils : Spoils (Document.stripStoreFields rest) e.ids (.error err)) :
      SpoiltBy e now (.updateOne name doc) err
  | updateOneTyped {name doc fs id rest v ids i e₁ index} (fields : Document.fieldsOf doc = .ok fs)
      (split : Document.splitId fs = (id, rest)) (present : id ≠ .null)
      (spoils : Spoils (Document.stripStoreFields rest) e.ids (.ok v))
      (other : ∀ gs, v ≠ .object gs)
      (supply : (normalForm (.object (Document.stripStoreFields rest)) e.ids).2 = ids)
      (opened : collection name { e with ids } = (.ok i, e₁))
      (found : indexOf? (e₁.store i).documents id.normalizeId = some index) :
      SpoiltBy e now (.updateOne name doc) (.fault .wrongKind)
  | updateMany {name query fs err}
      (spoils : Spoils (Document.stripStoreFields fs) e.ids (.error err)) :
      SpoiltBy e now (.updateMany name query (.object fs)) err
  | updateManyTyped {name query fs v ids i e₁ before doc after}
      (spoils : Spoils (Document.stripStoreFields fs) e.ids (.ok v)) (other : ∀ gs, v ≠ .object gs)
      (supply : (normalForm (.object (Document.stripStoreFields fs)) e.ids).2 = ids)
      (opened : collection name { e with ids } = (.ok i, e₁))
      (split : (e₁.store i).documents = before ++ doc :: after)
      (passed : ∀ d ∈ before, isMatch (.object d) query = .ok false)
      (found : isMatch (.object doc) query = .ok true) :
      SpoiltBy e now (.updateMany name query (.object fs)) (.fault .wrongKind)
  | upsertOne {name fs key err} (spoilt : Spoilt fs e.ids .noOperation err) :
      SpoiltBy e now (.upsertOne name (.object fs) key) err

inductive FailsOtherwise (e : Engine) : Call → Error → Prop where
  | opening {c ids e₁ err} (h : collection c.collection { e with ids } = (.error err, e₁)) :
      FailsOtherwise e c err
  | items {name docs kind} (h : docs.items = .error kind) :
      FailsOtherwise e (.createMany name docs) (.fault kind)
  | fields {name doc kind} (h : Document.fieldsOf doc = .error kind) :
      FailsOtherwise e (.updateOne name doc) (.fault kind)
  | patch {name query patch} (h : ∀ fs, patch ≠ .object fs) :
      FailsOtherwise e (.updateMany name query patch) (.fault .noOperation)
  | key {name doc key} (h : key.isHashable = false) :
      FailsOtherwise e (.upsertOne name doc key) (.fault .wrongKind)
  | query {name query patch ids i e₁ doc err}
      (opened : collection name { e with ids } = (.ok i, e₁))
      (stored : doc ∈ (e₁.store i).documents) (h : isMatch (.object doc) query = .error err) :
      FailsOtherwise e (.updateMany name query patch) err
  | exhausted {c ids i e₁ err} (opened : collection c.collection { e with ids } = (.ok i, e₁))
      (full : 2 ^ 96 ≤ (e₁.store i).documents.length + c.contentCount) : FailsOtherwise e c err

def IsAccounted (e : Engine) (now : Moment) (c : Call) (err : Error) : Prop :=
  err.isOwn = true ∨ SpoiltBy e now c err ∨ FailsOtherwise e c err

inductive Begins (e : Engine) (now : Moment) (c : Call) : Except Error Start → Engine → Prop where
  | refused {err e₁} (h : IsAccounted e now c err) : Begins e now c (.error err) e₁
  | answered {a e₁} : Begins e now c (.ok (.answered a)) e₁
  | waits {i m e₁} (h : Waits e c i m e₁) : Begins e now c (.ok (.waits i (.mutate m))) e₁

section

variable {e e₁ : Engine} {now : Moment} {c : Call} {i : Nat} {m : Mutation} {err : Error}

theorem Waits.opened (h : Waits e c i m e₁)
    : ∃ ids, collection c.collection { e with ids } = (.ok i, e₁) := by
  cases h with
  | createOne opened => exact ⟨e.ids, opened⟩
  | createMany opened => exact ⟨e.ids, opened⟩
  | updateOne _ _ _ _ opened => exact ⟨_, opened⟩
  | updateMany _ opened => exact ⟨_, opened⟩
  | upsertOne _ _ opened => exact ⟨_, opened⟩

theorem mutation_of_opened {name : Value} (h : collection name e = (.ok i, e₁)) (m : Mutation)
    : mutation name m e = (.ok (.waits i (.mutate m)), e₁) := bind_ok h

theorem begin_updateOne {name doc id : Value} {fs rest : Fields}
    (fields : Document.fieldsOf doc = .ok fs) (split : Document.splitId fs = (id, rest))
    (present : id ≠ .null)
    : begin (.call (.updateOne name doc)) e
      = (patchOf (.object rest) >>= fun patch => mutation name (.update id.normalizeId patch))
        e := by
  rw [begin_call]
  dsimp only [beginCall]
  rw [fields]
  dsimp only [Except.mapError]
  rw [lift_ok_bind, split]
  cases id with
  | null => exact absurd rfl present
  | _ => rfl

theorem begin_upsertOne {name key : Value} {fs gs : Fields} {ids : IdSupply}
    (normal : normalForm (.object fs) e.ids = (.ok (.object gs), ids))
    : begin (.call (.upsertOne name (.object fs) key)) e
      = ((Document.resolveKey gs key : Except Error (Value × Fields)) >>= fun p =>
          mutation name (.upsert p.2 p.1) : Action Start) { e with ids } := by
  rw [begin_call]
  dsimp only [beginCall]
  rw [bind_ok (ofDrawing_of normal)]

theorem Waits.begin (h : Waits e c i m e₁)
    : begin (.call c) e = (.ok (.waits i (.mutate m)), e₁) := by
  cases h with
  | createOne opened => exact mutation_of_opened opened _
  | @createMany name docs given i e₁ opened items some =>
    rw [begin_call]
    dsimp only [beginCall]
    rw [bind_ok opened, items]
    cases given with
    | nil => exact absurd rfl some
    | cons doc given => rfl
  | updateOne fields split present normal opened =>
    rw [begin_updateOne fields split present, bind_ok (patchOf_object normal)]
    exact mutation_of_opened opened _
  | updateMany normal opened =>
    rw [begin_call]
    dsimp only [beginCall]
    rw [bind_ok (patchOf_object normal)]
    exact mutation_of_opened opened _
  | upsertOne normal resolved opened =>
    rw [begin_upsertOne normal, resolved, lift_ok_bind]
    exact mutation_of_opened opened _

theorem IsAccounted.of_content
    (h : err.isOwn = false → SpoiltBy e now c err ∨ FailsOtherwise e c err)
    : IsAccounted e now c err := by
  cases hown : err.isOwn with
  | true => exact .inl hown
  | false => exact .inr (h hown)

theorem IsAccounted.spoilt (h : err.isOwn = false → SpoiltBy e now c err)
    : IsAccounted e now c err :=
  .of_content fun hown => .inl (h hown)

theorem IsAccounted.otherwise (h : FailsOtherwise e c err) : IsAccounted e now c err :=
  .inr (.inr h)

theorem merge_typed {doc : Fields} {patch : Value} (h : ∀ gs, patch ≠ .object gs)
    : merge doc patch now = .error (.fault .wrongKind) := by
  unfold merge
  split
  next gs => exact absurd rfl (h gs)
  . rfl

theorem merge_object (doc gs : Fields) (now : Moment)
    : ∃ merged, merge doc (.object gs) now = .ok merged := ⟨_, rfl⟩

/-- A document that a query stops on, or that it selects although the patch cannot be merged. -/
def Stops (query : Value) (err : Error) (doc : Fields) : Prop :=
  isMatch (.object doc) query = .error err ∨ isMatch (.object doc) query = .ok true ∧
    err = .fault .wrongKind

theorem mergeMatching_typed_error {query patch : Value} {docs : List Fields}
    (h : ∀ gs, patch ≠ .object gs) (herror : (mergeMatching query patch now docs).1 = .error err)
    : ∃ before doc after, docs = before ++ doc :: after ∧
      (∀ d ∈ before, isMatch (.object d) query = .ok false)
      ∧ Stops query err doc := by
  induction docs with
  | nil => cases herror
  | cons doc docs ih =>
    cases hmatch : isMatch (.object doc) query with
    | error err' =>
      rw [mergeMatching_refused hmatch] at herror
      cases herror
      exact ⟨[], doc, docs, rfl, by simp, .inl hmatch⟩
    | ok holds =>
      cases holds with
      | true =>
        rw [mergeMatching_unmerged hmatch (merge_typed h)] at herror
        cases herror
        exact ⟨[], doc, docs, rfl, by simp, .inr ⟨hmatch, rfl⟩⟩
      | false =>
        rw [mergeMatching_unmatched hmatch] at herror
        obtain ⟨before, d, after, rfl, hpassed, hstops⟩ := ih herror
        refine ⟨doc :: before, d, after, rfl, ?_, hstops⟩
        intro d' hd'
        rcases List.mem_cons.mp hd' with rfl | hd'
        . exact hmatch
        . exact hpassed d' hd'

theorem mergeMatching_object_error {query : Value} {gs : Fields} {docs : List Fields}
    (herror : (mergeMatching query (.object gs) now docs).1 = .error err)
    : ∃ doc ∈ docs, isMatch (.object doc) query = .error err := by
  rcases hmerge : mergeMatching query (.object gs) now docs with ⟨r, docs'⟩
  rw [hmerge] at herror
  dsimp only at herror
  subst herror
  obtain ⟨before, doc, after, rfl, _, _, hcause⟩ := mergeMatching_error hmerge
  refine ⟨doc, by simp, hcause.resolve_right ?_⟩
  obtain ⟨merged, hmerged⟩ := merge_object doc gs now
  rw [hmerged]
  nofun

theorem getElem?_of_indexOf? {docs : List Fields} {id : Value} {index : Nat}
    (h : indexOf? docs id = some index)
    : ∃ doc, docs[index]? = some doc := by
  unfold indexOf? at h
  obtain ⟨hlt, _⟩ := List.findIdx?_eq_some_iff_getElem.mp h
  exact ⟨docs[index], List.getElem?_eq_getElem hlt⟩

theorem changeEffect_typed {docs : List Fields} {ids : IdSupply} {index : Nat} {patch : Value}
    {doc : Fields} (h : ∀ gs, patch ≠ .object gs) (hdoc : docs[index]? = some doc)
    : (Mutation.changeEffect docs ids index patch now).outcome = .error (.fault .wrongKind) := by
  unfold Mutation.changeEffect
  rw [hdoc]
  dsimp only
  rw [merge_typed h]

theorem Changes.error_typed {docs : List Fields} {ids : IdSupply} {index : Nat} {patch : Value}
    {f : Effect} (h : Mutation.Changes docs ids index patch now f) (hout : f.outcome = .error err)
    : (∀ gs, patch ≠ .object gs) ∧ err = .fault .wrongKind := by
  cases h with
  | @refused doc _ _ merge =>
    cases hout
    have hother : ∀ gs, patch ≠ .object gs := by
      rintro gs rfl
      obtain ⟨merged, hmerged⟩ := merge_object doc gs now
      rw [hmerged] at merge
      cases merge
    rw [merge_typed hother] at merge
    cases merge
    exact ⟨hother, rfl⟩
  | _ => cases hout

theorem appendEffect_outcome {collection : String} {docs : List Fields} {ids ids' : IdSupply}
    {doc : Value} {report : Value → Report}
    (h : newDocument collection doc (takenIds docs) now ids = (.error err, ids'))
    : (Mutation.appendEffect collection docs ids doc now report).outcome = .error err := by
  unfold Mutation.appendEffect
  rw [h]

theorem Appends.error_new {collection : String} {docs : List Fields} {ids : IdSupply} {doc : Value}
    {report : Value → Report} {f : Effect}
    (h : Mutation.Appends collection docs ids doc now report f) (hout : f.outcome = .error err)
    : ∃ ids', newDocument collection doc (takenIds docs) now ids = (.error err, ids') := by
  cases h with
  | refused fresh =>
    cases hout
    exact ⟨_, fresh⟩
  | appended => cases hout

theorem Waits.refused (h : Waits e c i m e₁) (hout : (effectAt e₁ now i m).outcome = .error err)
    (hown : err.isOwn = false) : SpoiltBy e now c err ∨ FailsOtherwise e c err := by
  have htaken := length_takenIds_le (e₁.store i).documents
  obtain ⟨ids, hopened⟩ := h.opened
  have hfull : 2 ^ 96 ≤ (e₁.store i).documents.length + c.contentCount → FailsOtherwise e c err :=
    .exhausted hopened
  have hcomes := Mutation.comesTo_effect m now (e₁.store i).name (e₁.store i).documents e₁.ids
  unfold effectAt at hout
  generalize m.effect now (e₁.store i).name (e₁.store i).documents e₁.ids = f at hcomes hout
  cases h with
  | createOne opened =>
    cases hcomes with | create appends =>
    obtain ⟨ids', hnew⟩ := Appends.error_new appends hout
    rcases newDocument_error hnew hown with ⟨fs, rfl, hspoilt⟩ | hmany
    . exact .inl (.createOne opened hspoilt)
    . exact .inr (hfull (by omega))
  | @createMany name docs given _ _ opened items =>
    cases hcomes with
    | createMany => cases hout
    | createManyRefused fresh =>
      cases hout
      obtain ⟨before, doc, after, news, ids₁, taken, rfl, hbefore, hdoc, hlength⟩ :=
        newDocuments_error fresh
      rcases newDocument_error hdoc hown with ⟨fs, rfl, hspoilt⟩ | hmany
      . exact .inl (.createMany opened items hbefore hspoilt)
      . have hcount : (Call.createMany name docs).contentCount =
            (before ++ doc :: after).length := by
          unfold Call.contentCount
          dsimp only
          rw [items]
        rw [List.length_append, List.length_cons] at hcount
        exact .inr (hfull (by omega))
  | updateOne fields split present normal opened =>
    cases hcomes with
    | updateMissing => cases hout
    | update found changes =>
      obtain ⟨hother, rfl⟩ := Changes.error_typed changes hout
      exact .inl (.updateOneTyped fields split present (spoils_ok normal hother) hother
        (by rw [normal]) opened found)
  | @updateMany name query fs patch _ _ _ normal opened =>
    cases hcomes with
    | updateMany => cases hout
    | updateManyRefused merges =>
      cases hout
      have hmerge := congrArg Prod.fst merges
      by_cases hpatch : ∃ gs, patch = .object gs
      . obtain ⟨gs, rfl⟩ := hpatch
        obtain ⟨doc, hdoc, herror⟩ := mergeMatching_object_error hmerge
        exact .inr (.query opened hdoc herror)
      . have hother : ∀ gs, patch ≠ .object gs := fun gs h => hpatch ⟨gs, h⟩
        obtain ⟨before, doc, after, hsplit, hpassed, hstops⟩ :=
          mergeMatching_typed_error hother hmerge
        rcases hstops with herror | ⟨hfound, rfl⟩
        . exact .inr (.query opened (by simp [hsplit]) herror)
        . exact .inl (.updateManyTyped (spoils_ok normal hother) hother
            (by rw [normal]) opened hsplit hpassed hfound)
  | upsertOne normal resolved opened =>
    cases hcomes with
    | upsertFound _ changes => exact absurd rfl ((Changes.error_typed changes hout).1 _)
    | upsertMissing _ appends =>
      obtain ⟨ids', hnew⟩ := Appends.error_new appends hout
      rcases newDocument_error hnew hown with ⟨gs, hgs, hspoilt⟩ | hmany
      . cases hgs
        -- what was read once is read again
        have hread :=
          normalForm_isRead (resolveKey_isRead (normalForm_reads _ _ _ _ normal) resolved) e₁.ids
        cases hspoilt with
        | refused h =>
          have hr := h.normalForm
          rw [hread] at hr
          cases hr
        | typed h other =>
          have hr := h.normalForm
          rw [hread] at hr
          cases hr
          exact absurd rfl (other _)
      . exact .inr (hfull (by omega))

theorem SpoiltBy.isOwn (h : SpoiltBy e now c err) : err.isOwn = false := by
  cases h with
  | createOne _ spoilt => exact spoilt.isOwn
  | createMany _ _ _ spoilt => exact spoilt.isOwn
  | updateOne _ _ _ spoils => exact spoils.isOwn_error
  | updateOneTyped => rfl
  | updateMany spoils => exact spoils.isOwn_error
  | updateManyTyped => rfl
  | upsertOne spoilt => exact spoilt.isOwn

end

end Engine

end DocStore

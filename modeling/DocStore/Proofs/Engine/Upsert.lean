import DocStore.Proofs.Connector.Report
import DocStore.Proofs.Engine.Unstorable
import DocStore.Proofs.Value.Equivalence

/-!
This module contains what an upsert does: it changes the document with the identifier, or else the
first one with the value in the field of the key, or else it appends a document.
-/

namespace DocStore

open Work

namespace Document

/--
The field by which a document is looked up beside its identifier, if there is one, and the fields
that are written. An entry that designates the field is not written.
-/
inductive Designates (given : Fields) : Value → Option String → Fields → Prop where
  | key {s} (present : Fields.getD given s ≠ .null) : Designates given (.text s) (some s) given
  | entry {s} (named : Fields.getD given designatorField = .text s) (other : s ≠ designatorField)
      (present : Fields.getD given s ≠ .null) :
      Designates given .null (some s) (Fields.erase given (.text designatorField))
  | none (unnamed : ∀ s, Fields.getD given designatorField = .text s →
      s = designatorField ∨ Fields.getD given s = .null) : Designates given .null none given

def keyOf : Option String → Value
  | some s => .text s
  | none => .null

theorem text_of_get? {fs : Fields} (hfs : fs.IsKeyed) {key v : Value}
    (h : Fields.get? fs key = some v)
    : ∃ s, key = .text s := by
  obtain ⟨f, hf, hkey, _⟩ := Fields.get?_mem h
  obtain ⟨s, hs⟩ := hfs.keys f hf
  rw [hs, Value.text_equals] at hkey
  exact ⟨s, hkey⟩

theorem resolveKey_designates {given written : Fields} (hgiven : given.IsKeyed) {key key' : Value}
    (h : resolveKey given key = .ok (key', written))
    : ∃ field, key' = keyOf field ∧ Designates given key field written := by
  -- only where no key is asked for can the designator count, and then it must name another field
  -- with a value
  unfold resolveKey at h
  split at h
  . split at h
    next name hname =>
      split at h
      next hself =>
        cases h
        refine ⟨none, rfl, .none ?_⟩
        intro s hs
        rw [hname] at hs
        cases hs
        exact .inl hself
      next hother =>
        split at h
        next habsent =>
          cases h
          refine ⟨none, rfl, .none ?_⟩
          intro s hs
          rw [hname] at hs
          cases hs
          exact .inr habsent
        next hpresent =>
          cases h
          exact ⟨some name, rfl, .entry hname hother hpresent⟩
    next hno =>
      cases h
      exact ⟨none, rfl, .none fun s hs => absurd hs (hno s)⟩
  . split at h
    . cases h
    . split at h
      . cases h
      next hpresent =>
        cases h
        cases hget : Fields.get? given key with
        | none =>
          rw [hget] at hpresent
          exact absurd rfl hpresent
        | some v =>
          obtain ⟨s, rfl⟩ := text_of_get? hgiven hget
          exact ⟨some s, rfl, .key hpresent⟩

section

variable {given written : Fields} {key : Value} {field : Option String}

theorem Designates.resolveKey (h : Designates given key field written)
    : Document.resolveKey given key = .ok (keyOf field, written) := by
  unfold Document.resolveKey
  cases h with
  | @key s present =>
    have hhash : (!(Value.text s).isHashable) = false := rfl
    change Fields.getD given s ≠ .null at present
    dsimp only
    rw [hhash, if_neg Bool.false_ne_true]
    split
    next hnull => exact absurd hnull present
    . rfl
  | entry named other present =>
    dsimp only
    rw [named]
    dsimp only
    rw [if_neg other]
    split
    next hnull => exact absurd hnull present
    . rfl
  | none unnamed =>
    dsimp only
    split
    next name hname =>
      split
      . rfl
      next hother =>
        rw [(unnamed name hname).resolve_left hother]
        rfl
    . rfl

theorem Designates.getD_of_ne (h : Designates given key field written) {name : String}
    (hname : name ≠ designatorField)
    : Fields.getD written name = Fields.getD given name := by
  cases h with
  | key => rfl
  | entry => exact Fields.getD_erase_ne given hname.symm
  | none => rfl

theorem Designates.getD_of_field (h : Designates given key field written) {s : String}
    (hs : field = some s)
    : Fields.getD written s = Fields.getD given s := by
  cases h with
  | key => rfl
  | entry _ other =>
    cases hs
    exact Fields.getD_erase_ne given other.symm
  | none => cases hs

theorem Designates.present (h : Designates given key field written) {s : String}
    (hs : field = some s)
    : Fields.getD written s ≠ .null := by
  cases h with
  | key present =>
    cases hs
    exact present
  | entry _ other present =>
    cases hs
    rw [Fields.getD_erase_ne given other.symm]
    exact present
  | none => cases hs

end

end Document

namespace Collection

open Document

def patched (doc gs : Fields) (now : Moment) : Fields :=
  Fields.insert (Fields.merge doc gs) (.text updatedAt) (.date (timeOfChange doc now))

theorem merge_eq_patched (doc gs : Fields) (now : Moment)
    : merge doc (.object gs) now = .ok (patched doc gs now) := rfl

def HasId (given doc : Fields) : Prop :=
  Fields.getD given idField ≠ .null ∧ valuesEqual (idOf doc) (Fields.getD given idField) = true

theorem HaveUniqueIds.unique {docs : List Fields} (hunique : HaveUniqueIds docs)
    (hstored : ∀ d ∈ docs, d.IsStored) {id : Value} (hid : id.IsStored) {j k : Nat}
    {doc doc' : Fields} (hj : docs[j]? = some doc) (hk : docs[k]? = some doc')
    (hdoc : valuesEqual (idOf doc) id = true) (hdoc' : valuesEqual (idOf doc') id = true)
    : j = k := by
  have hd : (idOf doc).IsStored := (hstored doc (List.mem_of_getElem? hj)).getD _
  have hd' : (idOf doc').IsStored := (hstored doc' (List.mem_of_getElem? hk)).getD _
  have heq := valuesEqual_trans hd hid hd' hdoc (valuesEqual_symm hd' hid hdoc')
  have heq' := valuesEqual_symm hd hd' heq
  unfold HaveUniqueIds at hunique
  rw [List.pairwise_map, List.pairwise_iff_getElem] at hunique
  obtain ⟨hjlt, rfl⟩ := List.getElem?_eq_some_iff.mp hj
  obtain ⟨hklt, rfl⟩ := List.getElem?_eq_some_iff.mp hk
  rcases Nat.lt_trichotomy j k with hlt | rfl | hlt
  . rw [(hunique j k hjlt hklt hlt).1] at heq
    cases heq
  . rfl
  . rw [(hunique k j hklt hjlt hlt).1] at heq'
    cases heq'

theorem findIdx?_of_first {docs : List Fields} {p : Fields → Bool} {j : Nat} {doc : Fields}
    (hj : docs[j]? = some doc)
    (hdoc : p doc = true) (hfirst : ∀ k d, k < j → docs[k]? = some d → p d = false)
    : docs.findIdx? p = some j := by
  obtain ⟨hlt, rfl⟩ := List.getElem?_eq_some_iff.mp hj
  rw [List.findIdx?_eq_some_iff_getElem]
  refine ⟨hlt, hdoc, ?_⟩
  intro k hk
  rw [hfirst k _ hk (List.getElem?_eq_getElem _)]
  exact Bool.false_ne_true

section

variable {docs : List Fields} {fs : Fields} {field : Option String} {j : Nat} {doc : Fields}

def HasField (fs : Fields) (field : Option String) (doc : Fields) : Prop :=
  ∃ s, field = some s ∧ hasInField (.text s) (Fields.getD fs s) doc = true

def placeById? (docs : List Fields) (fs : Fields) : Option Nat :=
  match (Fields.getD fs idField).normalizeId with
  | .null => none
  | id => indexOf? docs id

def placeByField? (docs : List Fields) (fs : Fields) (field : Option String) : Option Nat :=
  field.bind fun s => docs.findIdx? (hasInField (.text s) (Fields.getD fs s))

theorem upsertIndex?_eq (docs : List Fields) (fs : Fields) (field : Option String)
    : upsertIndex? docs fs (keyOf field) = (placeById? docs fs).or
      (placeByField? docs fs field) := by
  have hindex : upsertIndex? docs fs (keyOf field)
      = (placeById? docs fs).orElse fun _ => placeByField? docs fs field := by
    cases field <;> rfl
  rw [hindex]
  cases placeById? docs fs <;> rfl

theorem placeById?_present (docs : List Fields) (h : Fields.getD fs idField ≠ .null)
    : placeById? docs fs = docs.findIdx? fun d => valuesEqual (idOf d)
      (Fields.getD fs idField) := by
  unfold placeById?
  split
  next hnull => exact absurd (Value.normalizeId_eq_null.mp hnull) h
  . unfold indexOf?
    simp only [valuesEqual_normalizeId]
    rfl

theorem placeById?_of_hasId (hj : docs[j]? = some doc) (hdoc : HasId fs doc)
    (hfirst : ∀ k d, k < j → docs[k]? = some d → ¬ HasId fs d) : placeById? docs fs = some j := by
  rw [placeById?_present docs hdoc.1]
  apply findIdx?_of_first hj hdoc.2
  intro k d hk hd
  have hno := hfirst k d hk hd
  unfold HasId at hno
  simpa [hdoc.1] using hno

theorem placeById?_eq_none_iff : placeById? docs fs = none ↔ ∀ d ∈ docs, ¬ HasId fs d := by
  unfold HasId
  by_cases hid : Fields.getD fs idField = .null
  . unfold placeById?
    rw [hid]
    simp [Value.normalizeId]
  . rw [placeById?_present docs hid, List.findIdx?_eq_none_iff]
    simp [hid]

theorem placeByField?_of_hasField (hj : docs[j]? = some doc) (hdoc : HasField fs field doc)
    (hfirst : ∀ k d, k < j → docs[k]? = some d → ¬ HasField fs field d)
    : placeByField? docs fs field = some j := by
  obtain ⟨s, rfl, hs⟩ := hdoc
  apply findIdx?_of_first hj hs
  intro k d hk hd
  have hno := hfirst k d hk hd
  unfold HasField at hno
  simpa using hno

theorem placeByField?_eq_none_iff
    : placeByField? docs fs field = none ↔ ∀ d ∈ docs, ¬ HasField fs field d := by
  unfold HasField placeByField?
  cases field with
  | none => simp
  | some s =>
    rw [Option.bind_some, List.findIdx?_eq_none_iff]
    simp

theorem upsertIndex?_eq_none_iff
    : upsertIndex? docs fs (keyOf field) = none ↔ ∀ d ∈ docs, ¬ HasId fs d ∧
      ¬ HasField fs field d := by
  rw [upsertIndex?_eq, Option.or_eq_none_iff, placeById?_eq_none_iff, placeByField?_eq_none_iff,
    forall₂_and]

theorem getElem?_of_upsertIndex? (h : upsertIndex? docs fs (keyOf field) = some j)
    : ∃ doc, docs[j]? = some doc := by
  rw [upsertIndex?_eq] at h
  rcases Option.or_eq_some_iff.mp h with hid | ⟨_, hfield⟩
  . unfold placeById? at hid
    split at hid
    . cases hid
    . exact Engine.getElem?_of_indexOf? hid
  . unfold placeByField? at hfield
    cases field with
    | none => cases hfield
    | some s =>
      obtain ⟨hlt, _⟩ := List.findIdx?_eq_some_iff_getElem.mp hfield
      exact ⟨docs[j], List.getElem?_eq_getElem hlt⟩

end

end Collection

namespace Mutation

open Collection Document

section

variable {now : Moment} {collection : String} {docs : List Fields} {ids ids' : IdSupply}
  {written : Fields}
variable {field : Option String}

theorem effect_upsert_change {j : Nat} {doc : Fields}
    (hindex : upsertIndex? docs written (keyOf field) = some j) (hj : docs[j]? = some doc)
    : (Mutation.upsert written (keyOf field)).effect now collection docs ids
      = ⟨docs.set j (patched doc (stripStoreFields written) now), ids,
        .ok (.report (updated 1), true)⟩ := by
  unfold effect
  dsimp only
  rw [hindex]
  dsimp only
  unfold changeEffect
  rw [hj]
  rfl

theorem effect_upsert_append {new : Fields}
    (hindex : upsertIndex? docs written (keyOf field) = none)
    (hnew : newDocument collection (.object written) (takenIds docs) now ids = (.ok new, ids'))
    : (Mutation.upsert written (keyOf field)).effect now collection docs ids
      = ⟨docs ++ [new], ids', .ok (.report (.upserted (idOf new)), true)⟩ := by
  unfold effect
  dsimp only
  rw [hindex]
  dsimp only
  unfold appendEffect
  rw [hnew]
  rfl

inductive HasUpserted (now : Moment) (collection : String) (docs : List Fields) (ids : IdSupply)
    (written : Fields)
    (field : Option String) (docs' : List Fields) (a : Answer) : Prop where
  | changed {j doc} (index : upsertIndex? docs written (keyOf field) = some j)
      (found : docs[j]? = some doc)
      (after : docs' = docs.set j (patched doc (stripStoreFields written) now))
      (answer : a = .report (updated 1))
  | appended {new ids'} (index : upsertIndex? docs written (keyOf field) = none)
      (fresh : newDocument collection (.object written) (takenIds docs) now ids = (.ok new, ids'))
      (after : docs' = docs ++ [new]) (answer : a = .report (.upserted (idOf new)))

theorem effect_upsert_cases {a : Answer} {writes : Bool} {effect : Effect}
    (heffect : (Mutation.upsert written (keyOf field)).effect now collection docs ids = effect)
    (hout : effect.outcome = .ok (a, writes))
    : HasUpserted now collection docs ids written field effect.documents a := by
  have hcomes := comesTo_effect (.upsert written (keyOf field)) now collection docs ids
  rw [heffect] at hcomes
  cases hcomes with
  | upsertFound index changes =>
    cases changes with
    | missing absent =>
      obtain ⟨doc, hj⟩ := getElem?_of_upsertIndex? index
      rw [absent] at hj
      cases hj
    | refused => cases hout
    | changed found merge =>
      rw [merge_eq_patched] at merge
      cases merge
      cases hout
      exact .changed index found rfl rfl
  | upsertMissing absent appends =>
    cases appends with
    | refused => cases hout
    | appended fresh =>
      cases hout
      exact .appended absent fresh rfl rfl

end

end Mutation

namespace Collection

open Document

theorem get?_stripStoreFields {s : String} (hs : s ∉ storeFields) (fs : Fields)
    : Fields.get? (stripStoreFields fs) (.text s) = Fields.get? fs (.text s) := by
  refine Fields.get?_filter ?_
  intro f _ hf
  rw [Bool.not_eq_true', List.any_eq_false]
  intro name hname heq
  rw [hf, Value.equals_text] at heq
  rw [← Value.text.inj heq] at hname
  exact hs hname

theorem get?_assemble {s : String} (hs : s ∉ storeFields) (id : Value) (fs : Fields) (now : Moment)
    : Fields.get? (assemble id fs now) (.text s) = Fields.get? fs (.text s) := by
  have hother : ∀ name ∈ storeFields, ¬ (Value.text name).equals (.text s) = true := by
    intro name hname heq
    rw [Value.text_equals] at heq
    rw [← Value.text.inj heq] at hname
    exact hs hname
  unfold assemble
  rw [List.cons_append, Fields.get?_cons, if_neg (hother _ (by decide)), Fields.get?_append,
    get?_stripStoreFields hs, Fields.get?_cons, if_neg (hother _ (by decide)), Fields.get?_cons,
    if_neg (hother _ (by decide))]
  exact Option.or_none

structure IsChanged (written doc doc' : Fields)
    : Prop extends IsPatched (stripStoreFields written) doc doc' where
  id : idOf doc' = idOf doc
  created : Fields.get? doc' (.text createdAt) = Fields.get? doc (.text createdAt)

structure IsInserted (written new : Fields) : Prop where
  given : ∀ s ∉ storeFields, Fields.get? new (.text s) =
    (Fields.get? written (.text s)).map Value.reread
  id : Fields.getD written idField ≠ .null → idOf new =
    (Fields.getD written idField).reread.normalizeId

theorem patched_isChanged {written : Fields} (hread : (Value.object written).IsRead) (doc : Fields)
    (now : Moment)
    : IsChanged written doc (patched doc (stripStoreFields written) now) := by
  have hpatch := stripStoreFields_isPatch hread
  have hpatched : IsPatched (stripStoreFields written) doc
      (patched doc (stripStoreFields written) now) :=
    merge_isPatched hpatch (merge_eq_patched ..)
  refine ⟨hpatched, idOf_merge hpatch (merge_eq_patched ..), ?_⟩
  refine hpatched.kept _ ?_ (by decide)
  rw [Fields.get?_eq_none]
  exact fun f hf => (mem_stripStoreFields hf).2 _ (by decide)

theorem newDocument_isInserted {written new : Fields} {collection : String} {taken : List Value}
    {now : Moment} {ids ids' : IdSupply} (hread : (Value.object written).IsRead)
    (h : newDocument collection (.object written) taken now ids = (.ok new, ids'))
    : IsInserted written new := by
  obtain ⟨ids₀, ids₁, fs, hnormal, hnew, hid⟩ := newDocument_made h
  rw [Extended.normalForm_isRead hread] at hnormal
  cases hnormal
  constructor
  . intro s hs
    rw [hnew, get?_assemble hs, Fields.get?_reread]
  . intro hpresent
    rw [← Fields.getD_reread]
    apply hid
    rw [Fields.getD_reread]
    exact fun hnull => hpresent (Value.reread_eq_null (Value.normalizeId_eq_null.mp hnull))

structure ChangesAt (written : Fields) (docs : List Fields) (j : Nat) (docs' : List Fields)
    (a : Answer) : Prop where
  changed : ∃ doc doc', docs[j]? = some doc ∧ docs' = docs.set j doc' ∧ IsChanged written doc doc'
  reported : ∃ report, a = .report report ∧ report.TellsUpdate (.int 1) (.int 1)

structure Appends (written : Fields) (docs docs' : List Fields) (a : Answer) : Prop where
  inserted : ∃ new report, docs' = docs ++ [new] ∧ IsInserted written new ∧ a = .report report
    ∧ report.TellsInsertion (idOf new)

structure Resolves (given written : Fields) (field : Option String) (docs docs' : List Fields)
    (a : Answer) : Prop where
  one : (∃ j, ChangesAt written docs j docs' a) ∨ Appends written docs docs' a
  /-- A document with the identifier is changed, whatever the field of the look-up says. -/
  byId : ∀ j doc, docs[j]? = some doc → HasId given doc → ChangesAt written docs j docs' a
  /-- If there is none, the first document with the value in the field is changed. -/
  byField : (∀ d ∈ docs, ¬ HasId given d) → ∀ j doc, docs[j]? = some doc →
    HasField given field doc →
    (∀ k d, k < j → docs[k]? = some d → ¬ HasField given field d) → ChangesAt written docs j docs' a
  /-- If there is none either, a document is appended. -/
  otherwise : (∀ d ∈ docs, ¬ HasId given d) → (∀ d ∈ docs, ¬ HasField given field d) →
    Appends written docs docs' a
  /-- The collection grows by as many documents as are reported. -/
  grows : ∃ report, a = .report report ∧ (docs'.length : Int) = docs.length + report.upsertedCount

section

variable {given written : Fields} {key : Value} {field : Option String} {docs : List Fields}
  {j : Nat} {doc : Fields}

theorem hasId_written (h : Designates given key field written) (doc : Fields)
    : HasId written doc ↔ HasId given doc := by
  unfold HasId
  rw [h.getD_of_ne (by decide)]

theorem hasField_written (h : Designates given key field written) (doc : Fields)
    : HasField written field doc ↔ HasField given field doc := by
  unfold HasField
  refine exists_congr fun s => and_congr_right fun hs => ?_
  rw [h.getD_of_field hs]

theorem upsertIndex?_of_hasId (hstored : ∀ d ∈ docs, d.IsStored) (hunique : HaveUniqueIds docs)
    (hgiven : (Value.object given).IsRead) (h : Designates given key field written)
    (hj : docs[j]? = some doc)
    (hdoc : HasId given doc) : upsertIndex? docs written (keyOf field) = some j := by
  have hid : (Fields.getD given idField).IsStored :=
    (Fields.isStored_object.mp hgiven.isStored).getD _
  rw [upsertIndex?_eq, placeById?_of_hasId hj ((hasId_written h doc).mpr hdoc), Option.some_or]
  intro k d hk hd hother
  rw [hasId_written h] at hother
  exact absurd (hunique.unique hstored hid hj hd hdoc.2 hother.2) (by omega)

theorem upsertIndex?_of_hasField (h : Designates given key field written)
    (hid : ∀ d ∈ docs, ¬ HasId given d) (hj : docs[j]? = some doc) (hdoc : HasField given field doc)
    (hfirst : ∀ k d, k < j → docs[k]? = some d → ¬ HasField given field d)
    : upsertIndex? docs written (keyOf field) = some j := by
  rw [upsertIndex?_eq, placeById?_eq_none_iff.mpr, Option.none_or]
  . apply placeByField?_of_hasField hj ((hasField_written h doc).mpr hdoc)
    intro k d hk hd
    rw [hasField_written h]
    exact hfirst k d hk hd
  . intro d hd
    rw [hasId_written h]
    exact hid d hd

theorem upsertIndex?_eq_none (h : Designates given key field written)
    (hid : ∀ d ∈ docs, ¬ HasId given d)
    (hfield : ∀ d ∈ docs, ¬ HasField given field d)
    : upsertIndex? docs written (keyOf field) = none := by
  rw [upsertIndex?_eq_none_iff]
  intro d hd
  rw [hasId_written h, hasField_written h]
  exact ⟨hid d hd, hfield d hd⟩

theorem hasUpserted_resolves (hstored : ∀ d ∈ docs, d.IsStored) (hunique : HaveUniqueIds docs)
    (hgiven : (Value.object given).IsRead) (hwritten : (Value.object written).IsRead)
    (h : Designates given key field written) {now : Moment} {collection : String} {ids : IdSupply}
    {docs' : List Fields} {a : Answer}
    (hupserted : Mutation.HasUpserted now collection docs ids written field docs' a)
    : Resolves given written field docs docs' a := by
  -- the place that was found tells which of the lookups has succeeded: the others contradict it
  cases hupserted with
  | @changed j doc hindex hj hdocs ha =>
    have htells : (Mutation.updated 1).TellsUpdate (.int 1) (.int 1) := Report.updated_tells _ _
    have hchanges : ChangesAt written docs j docs' a :=
      ⟨⟨doc, _, hj, hdocs, patched_isChanged hwritten doc now⟩, ⟨_, ha, htells⟩⟩
    constructor
    . exact .inl ⟨j, hchanges⟩
    . intro k d hk hd
      rw [upsertIndex?_of_hasId hstored hunique hgiven h hk hd] at hindex
      cases hindex
      exact hchanges
    . intro hid k d hk hd hfirst
      rw [upsertIndex?_of_hasField h hid hk hd hfirst] at hindex
      cases hindex
      exact hchanges
    . intro hid hfield
      rw [upsertIndex?_eq_none h hid hfield] at hindex
      cases hindex
    . refine ⟨_, ha, ?_⟩
      rw [hdocs, List.length_set, htells.upsertedCount]
      omega
  | @appended new ids' hindex hnew hdocs ha =>
    have htells := Report.upserted_tells (idOf new)
    have happends : Appends written docs docs' a :=
      ⟨new, _, hdocs, newDocument_isInserted hwritten hnew, ha, htells⟩
    constructor
    . exact .inr happends
    . intro k d hk hd
      rw [upsertIndex?_of_hasId hstored hunique hgiven h hk hd] at hindex
      cases hindex
    . intro hid k d hk hd hfirst
      rw [upsertIndex?_of_hasField h hid hk hd hfirst] at hindex
      cases hindex
    . exact fun _ _ => happends
    . refine ⟨_, ha, ?_⟩
      rw [hdocs, List.length_append, List.length_singleton, htells.upsertedCount]
      omega

end

end Collection

namespace Engine

open Collection Document

structure IsResolved (e : Engine) (name : Value) (fs : Fields) (key : Value) (given : Fields)
    (field : Option String)
    (written : Fields) (i : Nat) (e₁ : Engine) : Prop where
  opened : ∃ ids, Extended.normalForm (.object fs) e.ids = (.ok (.object given), ids)
    ∧ collection name { e with ids } = (.ok i, e₁)
  designates : Designates given key field written

section

variable {e e₁ e' : Engine} {name key : Value} {fs given written : Fields} {field : Option String}
  {i : Nat}
variable {clock : Clock} {a : Answer}

theorem IsResolved.isRead (h : IsResolved e name fs key given field written i e₁)
    : (Value.object given).IsRead := by
  obtain ⟨ids, hnormal, _⟩ := h.opened
  exact Extended.normalForm_reads _ _ _ _ hnormal

theorem IsResolved.written_isRead (h : IsResolved e name fs key given field written i e₁)
    : (Value.object written).IsRead := resolveKey_isRead h.isRead h.designates.resolveKey

theorem IsResolved.waits (h : IsResolved e name fs key given field written i e₁)
    : Waits e (.upsertOne name (.object fs) key) i (.upsert written (keyOf field)) e₁ := by
  obtain ⟨ids, hnormal, hopened⟩ := h.opened
  exact .upsertOne hnormal h.designates.resolveKey hopened

theorem begin_upsertOne_ok {doc : Value} {start : Start}
    (h : begin (.call (.upsertOne name doc key)) e = (.ok start, e₁))
    : ∃ fs given field written i, doc = .object fs ∧
      IsResolved e name fs key given field written i e₁
        ∧ start = .waits i (.mutate (.upsert written (keyOf field))) := by
  rw [begin_call] at h
  dsimp only [beginCall] at h
  split at h
  next fs =>
    obtain ⟨v, e₂, hv, h⟩ := of_bind_ok h
    obtain ⟨ids, hnormal, rfl⟩ := ofDrawing_eq hv
    split at h
    next given =>
      cases hkey : Document.resolveKey given key with
      | error err =>
        rw [hkey, lift_error_bind] at h
        cases h
      | ok p =>
        obtain ⟨key', written⟩ := p
        rw [hkey, lift_ok_bind] at h
        have hread := Extended.normalForm_reads _ _ _ _ hnormal
        obtain ⟨field, rfl, hdesignates⟩ :=
          resolveKey_designates (Fields.isStored_object.mp hread.isStored).keyed hkey
        obtain ⟨i, e₃, hopened, h⟩ := of_bind_ok h
        cases h
        exact ⟨fs, given, field, written, i, rfl, ⟨⟨ids, hnormal, hopened⟩, hdesignates⟩, rfl⟩
    . cases h
  . cases h

theorem isResolved_of_run {doc : Value}
    (hrun : run clock.now (.call (.upsertOne name doc key)) e = (.ok a, e'))
    : ∃ fs given field written i e₁, doc = .object fs ∧
      IsResolved e name fs key given field written i e₁ := by
  rcases hb : begin (.call (.upsertOne name doc key)) e with ⟨r, e₁⟩
  cases r with
  | error err =>
    rw [run_error hb] at hrun
    cases hrun
  | ok start =>
    obtain ⟨fs, given, field, written, i, hdoc, hresolved, _⟩ := begin_upsertOne_ok hb
    exact ⟨fs, given, field, written, i, e₁, hdoc, hresolved⟩

theorem IsResolved.sound (he : e.Sound) (h : IsResolved e name fs key given field written i e₁)
    : e₁.Sound := by
  have hsound := he.begin (.call (.upsertOne name (.object fs) key))
  rwa [h.waits.begin] at hsound

theorem IsResolved.isPlaceOf (h : IsResolved e name fs key given field written i e₁)
    : IsPlaceOf e₁ name i := by
  obtain ⟨ids, _, hopened⟩ := h.opened
  exact (collection_opens hopened).2 i rfl

theorem IsResolved.of_place {j : Nat} (hplace : IsPlaceOf e name j)
    (h : IsResolved e name fs key given field written i e₁)
    : i = j ∧ ∃ ids, e₁ = { e with ids } := by
  obtain ⟨ids, _, hopened⟩ := h.opened
  have hplace' : IsPlaceOf { e with ids } name j := hplace.congr rfl
  rw [collection_of_place hplace'] at hopened
  cases hopened
  exact ⟨rfl, ids, rfl⟩

theorem IsResolved.run (he : e.Sound) (h : IsResolved e name fs key given field written i e₁)
    (hrun : run clock.now (.call (.upsertOne name (.object fs) key)) e = (.ok a, e'))
    : Mutation.HasUpserted clock.now (e₁.store i).name (e₁.store i).documents e₁.ids written field
        (e'.store i).documents a := by
  have hbegin := h.waits.begin
  have hdocuments := run_mutation_documents clock hbegin ((h.sound he).lt_of_place h.isPlaceOf)
  rw [hrun] at hdocuments
  rw [hdocuments]
  cases hout : (effectAt e₁ clock.now i (.upsert written (keyOf field))).outcome with
  | error err =>
    have hrefused := (run_mutation_refused clock hbegin hout).1
    rw [hrun] at hrefused
    cases hrefused
  | ok p =>
    obtain ⟨b, writes⟩ := p
    have hanswer := run_mutation_answer clock he hbegin hout
    rw [hrun] at hanswer
    cases hanswer with
    | inl hfailed => cases hfailed
    | inr hanswer =>
      cases hanswer
      exact Mutation.effect_upsert_cases rfl hout

end

/--
An upsert that returns has changed or appended one document. If the identifiers are pairwise unequal
it is the one with the identifier, or else the first one with the value in the field of the look-up,
or else a new one.
-/
theorem upsert_resolves {e e' : Engine} (he : e.Reachable) {name doc key : Value} {clock : Clock}
    {a : Answer} (hrun : run clock.now (.call (.upsertOne name doc key)) e = (.ok a, e'))
    : ∃ fs given field written i e₁, doc = .object fs ∧
      IsResolved e name fs key given field written i e₁
      ∧ (HaveUniqueIds (e₁.store i).documents →
        Resolves given written field (e₁.store i).documents (e'.store i).documents a) := by
  obtain ⟨fs, given, field, written, i, e₁, rfl, h⟩ := isResolved_of_run hrun
  refine ⟨fs, given, field, written, i, e₁, rfl, h, ?_⟩
  intro hunique
  exact hasUpserted_resolves ((h.sound he.sound).documents i) hunique h.isRead h.written_isRead
    h.designates
    (h.run he.sound hrun)

def crossedUpsert : Request :=
  .call (.upsertOne (.text "c")
    (.object [(.text "_id", .text "2"), (.text "t", .text "a"), (.text "key", .text "t")]) .null)

theorem upsert_resolves_crossed
    : ∃ a e' given written field, run Clock.epoch.now crossedUpsert pairEngine = (.ok a, e')
        ∧ Resolves given written field (pairEngine.store 0).documents (e'.store 0).documents a := by
  have hplace : IsPlaceOf pairEngine (.text "c") 0 := ⟨"c", rfl, by decide +kernel⟩
  have hunique : HaveUniqueIds (pairEngine.store 0).documents := by
    unfold HaveUniqueIds AreUnequal
    decide +kernel
  have hok : (run Clock.epoch.now crossedUpsert pairEngine).1.isOk = true := by decide +kernel
  rcases hrun : run Clock.epoch.now crossedUpsert pairEngine with ⟨r, e'⟩
  rw [hrun] at hok
  obtain ⟨a, rfl⟩ := isOk_iff.mp hok
  obtain ⟨fs, given, field, written, i, e₁, _, h, hresolves⟩ :=
    upsert_resolves pairEngine_reachable hrun
  obtain ⟨rfl, ids, rfl⟩ := h.of_place hplace
  exact ⟨a, e', given, written, field, rfl, hresolves hunique⟩

end Engine

end DocStore

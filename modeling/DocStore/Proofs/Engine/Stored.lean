import DocStore.Proofs.Engine.Change

/-!
This module contains the proof that the documents of a collection can always be written: those that
are loaded can, and a mutation leaves them so.
-/

namespace DocStore

namespace Collection

def timeOfChange (doc : Fields) (now : Moment) : Moment :=
  laterOf (laterOf now (Fields.getD doc Document.createdAt)) (Fields.getD doc Document.updatedAt)

theorem merge_ok {doc merged : Fields} {patch : Value} {now : Moment}
    (h : merge doc patch now = .ok merged)
    : ∃ fs, patch = .object fs
        ∧ merged = Fields.insert (Fields.merge doc fs) (.text Document.updatedAt)
          (.date (timeOfChange doc now)) := by
  unfold merge at h
  split at h
  next fs =>
    cases h
    exact ⟨fs, rfl, rfl⟩
  . cases h

theorem laterOf_isStored {now : Moment} {v : Value} (hnow : (Value.date now).IsStored)
    (hv : v.IsStored)
    : (Value.date (laterOf now v)).IsStored := by
  unfold laterOf
  split
  . split
    . exact hv
    . exact hnow
  . exact hnow

theorem timeOfChange_isStored {now : Moment} {doc : Fields} (hnow : (Value.date now).IsStored)
    (hdoc : doc.IsStored)
    : (Value.date (timeOfChange doc now)).IsStored :=
  laterOf_isStored (laterOf_isStored hnow (hdoc.getD _)) (hdoc.getD _)

theorem merge_isStored {doc merged : Fields} {patch : Value} {now : Moment}
    (hnow : (Value.date now).IsStored)
    (hdoc : doc.IsStored) (hp : patch.IsStored) (h : merge doc patch now = .ok merged)
    : merged.IsStored := by
  obtain ⟨fs, rfl, rfl⟩ := merge_ok h
  rw [Fields.isStored_object] at hp
  apply Fields.IsStored.insert
  . exact hdoc.merge hp.keyed.keys hp.values
  . exact timeOfChange_isStored hnow hdoc

theorem mem_assemble {id : Value} {fs : Fields} {now : Moment} {f : Value × Value}
    : f ∈ assemble id fs now ↔ f = (.text Document.idField, id) ∨ f ∈ Document.stripStoreFields fs
        ∨ f = (.text Document.createdAt, .date now) ∨
          f = (.text Document.updatedAt, .date now) := by
  unfold assemble
  simp only [List.cons_append, List.mem_cons, List.mem_append, List.not_mem_nil, or_false]

theorem assemble_isStored {id : Value} {fs : Fields} {now : Moment}
    (hnow : (Value.date now).IsStored)
    (hid : id.IsStored) (hfs : fs.IsStored) : (assemble id fs now).IsStored := by
  have hstrip : Fields.IsStored (Document.stripStoreFields fs) := hfs.filter _
  -- the fields of the store itself are left out of the given ones, so that no name comes twice
  have hforeign : ∀ name ∈ Document.storeFields,
      .text name ∉ (Document.stripStoreFields fs).map (·.1) := by
    intro name hname hmem
    rw [List.mem_map] at hmem
    obtain ⟨f, hf, he⟩ := hmem
    exact (Document.mem_stripStoreFields hf).2 name hname he
  refine ⟨⟨?_, ?_⟩, ?_⟩
  . intro f hf
    rcases mem_assemble.mp hf with rfl | hf | rfl | rfl
    . exact ⟨_, rfl⟩
    . exact hstrip.keyed.keys f hf
    . exact ⟨_, rfl⟩
    . exact ⟨_, rfl⟩
  . have hid := hforeign Document.idField (by decide)
    have hcreated := hforeign Document.createdAt (by decide)
    have hupdated := hforeign Document.updatedAt (by decide)
    have hnames : Document.idField ≠ Document.createdAt ∧ Document.idField ≠ Document.updatedAt
        ∧ Document.createdAt ≠ Document.updatedAt := by decide
    have hnodup := hstrip.keyed.nodup
    simp only [assemble, List.cons_append, List.map_cons, List.map_append, List.map_nil,
      List.nodup_cons, List.nodup_append, List.mem_append, List.mem_cons, List.not_mem_nil,
      or_false, Value.text.injEq]
    refine ⟨?_, hnodup, ?_, ?_⟩
    . rintro (h | h | h)
      . exact hid h
      . exact hnames.1 h
      . exact hnames.2.1 h
    . exact ⟨hnames.2.2, by simp⟩
    . rintro k hk l (hl | hl) hkl
      . rw [hkl, hl] at hk
        exact hcreated hk
      . rw [hkl, hl] at hk
        exact hupdated hk
  . intro f hf
    rcases mem_assemble.mp hf with rfl | hf | rfl | rfl
    . exact hid
    . exact hstrip.values f hf
    . exact hnow
    . exact hnow

theorem Change.isStored {now : Moment} {docs docs' : List Fields} (hnow : (Value.date now).IsStored)
    (hdocs : ∀ d ∈ docs, d.IsStored) (h : Change now docs docs') : ∀ d ∈ docs', d.IsStored :=
  h.forall_mem (fun _ _ hid hfs => assemble_isStored hnow hid.isStored
    (Fields.isStored_object.mp hfs.isStored))
    (fun _ _ _ hp hd => merge_isStored hnow hd hp.stored) hdocs

theorem documentsOf?_ok {vs : List Value} {docs : List Fields} (h : documentsOf? vs = some docs)
    : vs = docs.map .object := by
  unfold documentsOf? at h
  induction vs generalizing docs with
  | nil =>
    cases h
    rfl
  | cons v vs ih =>
    rw [List.mapM_cons] at h
    cases v with
    | object fs =>
      simp only [bind, Option.bind_some, Option.bind_eq_some_iff] at h
      obtain ⟨rest, hrest, h⟩ := h
      cases h
      rw [ih hrest]
      rfl
    | _ => cases h

theorem load_ok {s : List Char} {v : Value} {ids ids' : IdSupply}
    (h : Extended.load s ids = (.ok v, ids'))
    : ∃ j, Json.read s = .ok j ∧ Extended.decode j ids = (.ok v, ids') := by
  unfold Extended.load at h
  split at h
  next j hj =>
    refine ⟨j, hj, ?_⟩
    split at h
    next hd =>
      cases h
      exact hd
    . cases h
  . split at h
    . cases h
    . cases h

theorem ofText_reads {path : String} {s : List Char} {docs : List Fields} {ids ids' : IdSupply}
    (h : ofText path s ids = (.ok docs, ids')) : ∀ d ∈ docs, (Value.object d).IsRead := by
  unfold ofText at h
  split at h
  . cases h
    simp
  . split at h
    next hl =>
      split at h
      next hdocs =>
        cases h
        obtain ⟨j, hj, hd⟩ := load_ok hl
        have hread := Extended.decode_reads (Json.read_isShort hj) _ _ _ hd
        rw [documentsOf?_ok hdocs] at hread
        cases hread with
        | list hitems =>
          intro d hd
          exact hitems _ (List.mem_map_of_mem hd)
      . cases h
    . cases h
    . cases h

theorem load_reads {d : Disk} {name : String} {docs : List Fields} {ids ids' : IdSupply}
    (h : load d name ids = (.ok docs, ids')) : ∀ doc ∈ docs, (Value.object doc).IsRead := by
  unfold load at h
  generalize d.get? _ = entry at h
  cases entry with
  | none =>
    cases h
    simp
  | some entry =>
    cases entry with
    | directory => cases h
    | file content =>
      cases content with
      | bytes bs => cases h
      | text s => exact ofText_reads h

theorem load_isStored {d : Disk} {name : String} {docs : List Fields} {ids ids' : IdSupply}
    (h : load d name ids = (.ok docs, ids')) : ∀ doc ∈ docs, doc.IsStored :=
  fun doc hdoc => Fields.isStored_object.mp (load_reads h doc hdoc).isStored

theorem save_cases {collection : String} {docs : List Fields} {d d' : Disk} {r : Except Error Unit}
    (hstored : ∀ doc ∈ docs, doc.IsStored) (h : save collection docs d = (r, d'))
    : ∃ s, textOf docs = .ok s
        ∧ ((r = .ok () ∧ Filing.replace (fileName collection) s d = (.ok (), d'))
          ∨ ∃ reason path, r = .error (.file (.unwritten collection reason) path)
            ∧ Filing.replace (fileName collection) s d = (.error reason, d')) := by
  obtain ⟨s, hs⟩ := textOf_isOk hstored
  refine ⟨s, hs, ?_⟩
  unfold save at h
  rw [hs] at h
  dsimp only at h
  split at h
  next hr =>
    cases h
    exact .inl ⟨rfl, hr⟩
  next hr =>
    cases h
    exact .inr ⟨_, _, rfl, hr⟩

end Collection

end DocStore

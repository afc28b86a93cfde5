import DocStore.Proofs.Disk.Calm
import DocStore.Proofs.Engine.File
import DocStore.Proofs.Engine.Stored
import DocStore.Proofs.Extended.Plain

/-!
This module contains the proof that a collection of plain documents is loaded from its file as it
was saved, and that saving it succeeds if the file system does its work.
-/

namespace DocStore

open Work

namespace Collection

theorem documentsOf?_map (docs : List Fields) : documentsOf? (docs.map .object) = some docs := by
  unfold documentsOf?
  induction docs with
  | nil => rfl
  | cons doc docs ih =>
    rw [List.map_cons, List.mapM_cons, ih]
    rfl

theorem ofText_textOf_reread {docs : List Fields} {s : List Char}
    (hdocs : ∀ d ∈ docs, (Value.object d).IsRead) (hs : textOf docs = .ok s) (path : String)
    (ids : IdSupply)
    : ofText path (Content.unifyLines s) ids = (.ok (docs.map Fields.reread), ids) := by
  have hstored : ∀ d ∈ docs, d.IsStored :=
    fun d hd => Fields.isStored_object.mp (hdocs d hd).isStored
  obtain ⟨js, hjs, hread, hblank⟩ := read_textOf hstored hs
  have hdecode : Extended.decode (.array js) =
      pure (.list ((docs.map Fields.reread).map .object)) := by
    have hitems : ∀ v ∈ docs.map Value.object, ∀ j, Extended.encodeTree .indented v = .ok j →
        Extended.decode j = pure v.reread := by
      intro v hv j hj
      rw [List.mem_map] at hv
      obtain ⟨d, hd, rfl⟩ := hv
      exact Extended.decode_encodeTree_reread (hdocs d hd) hj
    rw [Extended.decode, Extended.decodeItems_encodeTrees hitems hjs, pure_bind,
      Value.map_reread_object]
  have hload : Extended.load (Content.unifyLines s) ids
      = (.ok (.list ((docs.map Fields.reread).map .object)), ids) := by
    unfold Extended.load
    rw [hread]
    dsimp only
    rw [hdecode]
    rfl
  unfold ofText
  rw [hblank, if_neg (by decide), hload]
  dsimp only
  rw [documentsOf?_map]

theorem ofText_textOf {docs : List Fields} {s : List Char}
    (hdocs : ∀ d ∈ docs, (Value.object d).IsPlain) (hs : textOf docs = .ok s) (path : String)
    (ids : IdSupply)
    : ofText path (Content.unifyLines s) ids = (.ok docs, ids) := by
  have hsame : docs.map Fields.reread = docs := by
    refine (List.map_congr_left ?_).trans (List.map_id' docs)
    intro d hd
    have hd := (hdocs d hd).reread_eq
    rw [Value.reread_object] at hd
    exact Value.object.inj hd
  rw [ofText_textOf_reread (fun d hd => (hdocs d hd).isRead) hs path ids, hsame]

/--
Plain documents that were saved are loaded as they were: the same documents in the same order, each
with the same names in the same order, and the same values. Saving them fails only if the directory
does not take the file.
-/
theorem load_save {docs : List Fields} (hdocs : ∀ d ∈ docs, (Value.object d).IsPlain)
    (name : String) (d : Disk)
    : (∀ d', save name docs d = (.ok (), d') → ∀ ids, load d' name ids = (.ok docs, ids))
        ∧ (Filing.Takes (fileName name) d → ∃ d', save name docs d = (.ok (), d')) := by
  have hstored : ∀ d ∈ docs, d.IsStored :=
    fun d hd => Fields.isStored_object.mp (hdocs d hd).isStored
  constructor
  . intro d' hsave ids
    obtain ⟨s, hs, ⟨_, hreplace⟩ | ⟨_, _, herr, _⟩⟩ := save_cases hstored hsave
    . cases Filing.replace_replaces hreplace with
      | done file =>
        unfold load
        rw [file]
        exact ofText_textOf hdocs hs _ ids
    . cases herr
  . intro htakes
    obtain ⟨s, hs⟩ := textOf_isOk hstored
    obtain ⟨d', hd'⟩ := Filing.replace_ok htakes s
    refine ⟨d', ?_⟩
    unfold save
    rw [hs]
    dsimp only
    rw [hd']

def plainDocument : Fields :=
  [(.text "_id", .id ⟨7⟩), (.text "a\"b", .list []), (.text "then", .date (.utc (-1000))),
    (.text "inner", .object [(.text "bytes", .bytes [0, 255]), (.text "number", .double .nan)])]

theorem plainDocument_isPlain : (Value.object plainDocument).IsPlain := by
  unfold plainDocument
  refine .object ⟨by simp, by simp⟩ ?_ ?_
  . simp only [List.mem_cons, List.not_mem_nil, or_false]
    rintro f (rfl | rfl | rfl | rfl) s hs <;> cases hs <;> decide
  . simp only [List.mem_cons, List.not_mem_nil, or_false]
    rintro f (rfl | rfl | rfl | rfl)
    . exact .id _
    . exact .list (by simp)
    . exact .date ⟨by decide, by decide⟩
    . refine .object ⟨by simp, by simp⟩ ?_ ?_
      . simp only [List.mem_cons, List.not_mem_nil, or_false]
        rintro f (rfl | rfl) s hs <;> cases hs <;> decide
      . simp only [List.mem_cons, List.not_mem_nil, or_false]
        rintro f (rfl | rfl)
        . exact .bytes _
        . exact .double _

theorem load_save_plainDocument
    : ∃ d', save "c" [plainDocument] { root := "d" } = (.ok (), d') ∧
      load d' "c" {} = (.ok [plainDocument], {}) := by
  have hplain : ∀ d ∈ [plainDocument], (Value.object d).IsPlain := by
    simpa using plainDocument_isPlain
  obtain ⟨hload, hsave⟩ := load_save hplain "c" { root := "d" }
  obtain ⟨d', hd'⟩ := hsave ⟨rfl, by decide +kernel, nofun⟩
  exact ⟨d', hd', hload d' hd' {}⟩

end Collection

end DocStore

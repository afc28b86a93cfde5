import DocStore.Proofs.Remote.Treats
import DocStore.Proofs.Text.Hex

/-!
This module contains the proof of which identifiers come back from a server that are sent to it as
texts: texts return as they are, but for the digits of an identifier, which return in small letters.
-/

namespace DocStore

namespace Value

def returned (id : Value) : Value := id.atServer.normalizeId

theorem atServer_text {s : String} {i : ObjectId} (h : ObjectId.ofHex? s.toList = some i)
    : (text s).atServer = .id i := by
  unfold atServer normalizeId toObjectId
  dsimp only
  rw [h]

theorem atServer_text_none {s : String} (h : ObjectId.ofHex? s.toList = none)
    : (text s).atServer = .text s := by
  unfold atServer normalizeId toObjectId
  dsimp only
  rw [h]

theorem isName_atServer (s : String) : (text s).atServer.isName = true := by
  cases h : ObjectId.ofHex? s.toList with
  | some i =>
    rw [atServer_text h]
    rfl
  | none =>
    rw [atServer_text_none h]
    rfl

end Value

namespace Remote

open Collection (idOf)

section

variable {held : List Value} {name : String}

end

theorem exists_getElem?_of_forall₂ {α β : Type} {R : α → β → Prop} {as : List α} {bs : List β}
    (h : List.Forall₂ R as bs) {i : Nat} {a : α} (ha : as[i]? = some a)
    : ∃ b, bs[i]? = some b ∧ R a b := by
  induction h generalizing i with
  | nil => cases ha
  | @cons a' b' as bs hab _ ih =>
    cases i with
    | zero =>
      cases ha
      exact ⟨b', rfl, hab⟩
    | succ i => exact ih ha

theorem Inserts.name {mayChange : Bool} {docs : List Fields} {held mid ids : List Value}
    {told : List (Command × Reply)} {place : Nat} {doc : Fields} {name : String}
    (h : Inserts mayChange docs held told (.ok (some ids)) mid) (hdoc : docs[place]? = some doc)
    (hid : idOf doc = .text name)
    : ids[place]? = some (Value.text name).returned ∧ (Value.text name).atServer ∈ mid := by
  cases h with
  | @inserted ks placed =>
    obtain ⟨k, hk, hplaced⟩ := exists_getElem?_of_forall₂ placed hdoc
    have hsame : k = (Value.text name).atServer := by
      rw [hid] at hplaced
      have hname := Value.isName_atServer name
      generalize (Value.text name).atServer = id at hplaced hname
      cases hplaced with
      | sent => rfl
      | drawn => cases hname
    rw [hsame] at hk
    refine ⟨?_, List.mem_append_right _ (List.mem_of_getElem? hk)⟩
    rw [List.getElem?_map, hk]
    rfl

end Remote

end DocStore

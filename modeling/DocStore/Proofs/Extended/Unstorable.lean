import DocStore.Proofs.Extended.Normal
import DocStore.Proofs.Extended.Refused
import DocStore.Proofs.Extended.Reread

/-!
This module contains what a document is spoilt by: it can be written, but what is read of it is no
document. Its normal form is then neither a document nor refused as a value that cannot be stored.
-/

namespace DocStore

theorem Error.ofDecodeFault_ne (e : Extended.DecodeFault) (cause : ArgumentFault)
    : Error.ofDecodeFault e ≠ .argument cause := by
  unfold Error.ofDecodeFault
  split <;> nofun

namespace Extended

open Work

/--
Fields are spoilt: an object in them is refused, or their own marks give them another meaning.
-/
inductive Spoils (fs : Fields) (ids : IdSupply) : Except Error Value → Prop where
  | refused {j gs e} (written : encode .line (.object fs) = .ok j)
      (first : FirstRefused j ids gs e) : Spoils fs ids (.error (.ofDecodeFault e))
  | typed {ms es ids₁ v ids₂} (written : encode .line (.object fs) = .ok (.object ms))
      (members : decodeMembers ms ids = (.ok es, ids₁)) (marked : ¬ IsOwn (Fields.ofList es))
      (read : decodeObject (Fields.ofList es) ids₁ = (.ok v, ids₂)) : Spoils fs ids (.ok v)

/-- What a normal form should be: a document, or an error of a value that cannot be stored. -/
inductive IsSettled : Except Error Value → Prop where
  | document {gs} (own : IsOwn gs) : IsSettled (.ok (.object gs))
  | unstorable (cause : EncodeFault) : IsSettled (.error (.argument (.unstorable cause)))

section

variable {fs : Fields} {ids : IdSupply}

theorem normalForm_unwritten {doc : Value} {cause : EncodeFault}
    (h : encode .line doc = .error cause)
    : normalForm doc ids = (.error (.argument (.unstorable cause)), ids) := by
  unfold normalForm
  rw [h]

theorem normalForm_read {doc v : Value} {j : Json} {ids' : IdSupply} (h : encode .line doc = .ok j)
    (hv : decode j ids = (.ok v, ids')) : normalForm doc ids = (.ok v, ids') := by
  unfold normalForm
  rw [h]
  dsimp only
  rw [hv]

theorem normalForm_unread {doc : Value} {j : Json} {e : DecodeFault} {ids' : IdSupply}
    (h : encode .line doc = .ok j)
    (he : decode j ids = (.error e, ids'))
    : normalForm doc ids = (.error (.ofDecodeFault e), ids') := by
  unfold normalForm
  rw [h]
  dsimp only
  rw [he]

theorem encode_members {j : Json} (h : encode .line (.object fs) = .ok j)
    : ∃ ms, encodeFields .line fs = .ok ms ∧ j = .object ms := by
  have h := encode_ok h
  rw [encodeTree] at h
  exact map_ok h

theorem Spoils.normalForm {r : Except Error Value} (h : Spoils fs ids r)
    : (normalForm (.object fs) ids).1 = r := by
  cases h with
  | refused written first =>
    obtain ⟨⟨ids', herror⟩, _⟩ := first.decode_error
    rw [normalForm_unread written herror]
  | @typed ms es ids₁ v ids₂ written members marked read =>
    have hv : decode (.object ms) ids = (.ok v, ids₂) := by
      rw [decode, bind_ok members]
      exact read
    rw [normalForm_read written hv]

theorem Spoils.not_isSettled {r : Except Error Value} (h : Spoils fs ids r) : ¬ IsSettled r := by
  intro hr
  cases h with
  | refused =>
    generalize herr : Error.ofDecodeFault _ = err at hr
    cases hr with
    | unstorable cause => exact Error.ofDecodeFault_ne _ _ herr
  | typed written members marked read =>
    obtain ⟨ms, hms, heq⟩ := encode_members written
    cases heq
    have hentries := decodeMembers_ensures (decode_encodeFields fs hms) _ _ _ members
    cases hr with
    | @document gs own =>
      rcases decodeObject_ensures hentries.ofList _ _ _ read with ⟨heq, _⟩ | hleaf
      . cases heq
        exact marked own
      . exact hleaf.2 gs rfl

theorem spoils_of_not_isSettled {r : Except Error Value}
    (h : (Extended.normalForm (.object fs) ids).1 = r)
    (hr : ¬ IsSettled r) : Spoils fs ids r := by
  cases hwritten : encode .line (.object fs) with
  | error cause =>
    rw [normalForm_unwritten hwritten] at h
    exact absurd (h ▸ .unstorable cause) hr
  | ok j =>
    obtain ⟨ms, hms, rfl⟩ := encode_members hwritten
    rcases hread : decode (.object ms) ids with ⟨q, ids'⟩
    cases q with
    | error e =>
      rw [normalForm_unread hwritten hread] at h
      obtain ⟨gs, hfirst⟩ := firstRefused_of_error _ hread
      exact h ▸ .refused hwritten hfirst
    | ok v =>
      rw [normalForm_read hwritten hread] at h
      rw [decode] at hread
      obtain ⟨es, ids₁, hes, hv⟩ := of_bind_ok hread
      refine h ▸ .typed hwritten hes ?_ hv
      intro hown
      rw [IsOwn.decodeObject hown] at hv
      cases hv
      exact hr (h ▸ .document hown)

theorem spoils_iff {r : Except Error Value}
    : Spoils fs ids r ↔ (Extended.normalForm (.object fs) ids).1 = r ∧ ¬ IsSettled r :=
  ⟨fun h => ⟨h.normalForm, h.not_isSettled⟩, fun h => spoils_of_not_isSettled h.1 h.2⟩

end

end Extended

end DocStore

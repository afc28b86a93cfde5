import DocStore.Proofs.Extended.Normal

/-!
This module contains when a document is read in the same way from every supply of identifiers: if
none is handed out, which happens only where the typed form of an identifier is empty.
-/

namespace DocStore

namespace Work

variable {ε σ α β : Type}

def IsSteady (x : ExceptT ε (StateM σ) α) : Prop := ∃ r, ∀ s, x s = (r, s)

theorem isSteady_pure (a : α) : IsSteady (pure a : ExceptT ε (StateM σ) α) := ⟨.ok a, fun _ => rfl⟩

theorem isSteady_throw (e : ε) : IsSteady (throw e : ExceptT ε (StateM σ) α) :=
  ⟨.error e, fun _ => rfl⟩

theorem isSteady_lift (x : Except ε α) : IsSteady (liftM x : ExceptT ε (StateM σ) α) := by
  refine ⟨x, fun s => ?_⟩
  cases x <;> rfl

theorem isSteady_bind {x : ExceptT ε (StateM σ) α} {f : α → ExceptT ε (StateM σ) β}
    (hx : IsSteady x)
    (hf : ∀ a, (∀ s, x s = (.ok a, s)) → IsSteady (f a)) : IsSteady (x >>= f) := by
  obtain ⟨r, hr⟩ := hx
  cases r with
  | ok a =>
    obtain ⟨q, hq⟩ := hf a hr
    exact ⟨q, fun s => (bind_ok (hr s)).trans (hq s)⟩
  | error e => exact ⟨.error e, fun s => bind_error (hr s)⟩

end Work

namespace Extended

open Work

/-- A tree in which every identifier in typed form is a text, and none is left to be handed out. -/
inductive HasNamedIds : Json → Prop where
  | null : HasNamedIds .null
  | bool (b) : HasNamedIds (.bool b)
  | int (n) : HasNamedIds (.int n)
  | number (x) : HasNamedIds (.number x)
  | text (s) : HasNamedIds (.text s)
  | array {js} (items : ∀ j ∈ js, HasNamedIds j) : HasNamedIds (.array js)
  | object {ms} (members : ∀ m ∈ ms, HasNamedIds m.2)
      (ids : ∀ m ∈ ms, m.1 = Mark.oid.name.toList → ∃ s, m.2 = .text s) : HasNamedIds (.object ms)

theorem decodeId_isSteady (s : String) : IsSteady (decodeId (.text s)) := by
  unfold decodeId
  dsimp only
  split
  . exact isSteady_pure _
  . exact isSteady_throw _

theorem interpret_isSteady {mark : Mark} {v : Value} (fs : Fields)
    (h : mark = .oid → ∃ s, v = .text s)
    : IsSteady (interpret mark v fs) := by
  have honly : ∀ {f : Unit → Decoding Value}, IsSteady (f ()) →
      IsSteady (liftM (onlyField mark fs) >>= f) :=
    fun hf => isSteady_bind (isSteady_lift _) fun _ _ => hf
  cases mark with
  | oid =>
    obtain ⟨s, rfl⟩ := h rfl
    exact honly (decodeId_isSteady s)
  | uuid =>
    refine honly ?_
    split
    . exact isSteady_bind (isSteady_lift _) fun _ _ => isSteady_pure _
    . exact isSteady_throw _
  | numberLong =>
    refine honly ?_
    exact isSteady_bind (isSteady_lift _) fun _ _ => isSteady_pure _
  | numberInt =>
    refine honly ?_
    split
    . exact isSteady_bind (isSteady_lift _) fun _ _ => isSteady_pure _
    . exact isSteady_throw _
  | numberDouble =>
    refine honly ?_
    split
    . split
      . exact isSteady_pure _
      . exact isSteady_throw _
    . exact isSteady_throw _
  | numberDecimal =>
    refine honly ?_
    split
    . exact isSteady_pure _
    . exact isSteady_throw _
  | date => exact honly (isSteady_lift _)
  | dbPointer => exact honly (isSteady_throw _)
  | symbol => exact honly (isSteady_pure _)
  | undefined | ref => exact isSteady_pure _
  | code | regex | minKey | maxKey | binary | timestamp | regularExpression => exact isSteady_lift _

theorem decodeItems_isSteady {js : List Json} (h : ∀ j ∈ js, IsSteady (decode j))
    : IsSteady (decodeItems js) := by
  induction js with
  | nil =>
    rw [decodeItems]
    exact isSteady_pure _
  | cons j js ih =>
    rw [decodeItems]
    refine isSteady_bind (h j (List.mem_cons_self ..)) fun v _ => ?_
    refine isSteady_bind (ih fun k hk => h k (List.mem_cons_of_mem _ hk)) fun vs _ => ?_
    exact isSteady_pure _

theorem decodeMembers_isSteady {ms : List (List Char × Json)} (h : ∀ m ∈ ms, IsSteady (decode m.2))
    : IsSteady (decodeMembers ms) := by
  induction ms with
  | nil =>
    rw [decodeMembers]
    exact isSteady_pure _
  | cons m ms ih =>
    obtain ⟨k, j⟩ := m
    rw [decodeMembers]
    refine isSteady_bind (h (k, j) (List.mem_cons_self ..)) fun v _ => ?_
    refine isSteady_bind (ih fun m hm => h m (List.mem_cons_of_mem _ hm)) fun fs _ => ?_
    exact isSteady_pure _

theorem text_of_firstMark? {ms : List (List Char × Json)} {ids ids' : IdSupply} {es : Fields}
    {v : Value} (hms : ∀ m ∈ ms, m.1 = Mark.oid.name.toList → ∃ s, m.2 = .text s)
    (h : decodeMembers ms ids = (.ok es, ids'))
    (hmark : firstMark? (Fields.ofList es) = some (.oid, v))
    : ∃ s, v = .text s := by
  have hkeys : ∀ e ∈ es, ∃ s, e.1 = .text s := by
    intro e he
    obtain ⟨m, _, hname, _⟩ := exists_left_of_forall₂ (decodeMembers_forall₂ h) he
    exact ⟨_, hname⟩
  have hkeyed : (Fields.ofList es).IsKeyed := .merge hkeys .nil
  have hget := hkeyed.get?_of_mem (mem_of_firstMark? hmark) rfl
  rcases Fields.get?_merge_cases hget with ⟨e, he, hkey, rfl⟩ | hnone
  . obtain ⟨m, hm, hname, ids₁, ids₂, hv⟩ := exists_left_of_forall₂ (decodeMembers_forall₂ h) he
    rw [hkey, Value.ofText, Value.text.injEq] at hname
    obtain ⟨s, hs⟩ := hms m hm (by rw [hname, String.toList_ofList])
    rw [hs, decode] at hv
    exact ⟨_, (Except.ok.inj (Prod.mk.inj hv).1).symm⟩
  . cases hnone

theorem decode_isSteady {j : Json} (h : HasNamedIds j) : IsSteady (decode j) := by
  induction h with
  | null | bool | int | number | text =>
    rw [decode]
    exact isSteady_pure _
  | array _ ih =>
    rw [decode]
    exact isSteady_bind (decodeItems_isSteady ih) fun _ _ => isSteady_pure _
  | object _ hids ih =>
    rw [decode]
    refine isSteady_bind (decodeMembers_isSteady ih) fun es hes => ?_
    unfold decodeObject
    split
    next hmark =>
      split
      . exact isSteady_pure _
      . apply interpret_isSteady
        rintro rfl
        exact text_of_firstMark? hids (hes {}) hmark
    . exact isSteady_pure _

theorem normalForm_again {doc v : Value} {ids ids' : IdSupply}
    (h : normalForm doc ids = (.ok v, ids'))
    (hnamed : ∀ j, encode .line doc = .ok j → HasNamedIds j) (ids₁ : IdSupply)
    : normalForm doc ids₁ = (.ok v, ids₁) := by
  obtain ⟨j, hj, hv⟩ := normalForm_ok h
  obtain ⟨r, hr⟩ := decode_isSteady (hnamed j hj)
  rw [hr] at hv
  cases hv
  unfold normalForm
  rw [hj]
  dsimp only
  rw [hr]

end Extended

end DocStore

import DocStore.Proofs.Extended.Refusal
import DocStore.Proofs.Text.Hex

/-!
This module contains the object of a tree that is refused first, where a tree has no value.
-/

namespace DocStore.Extended

open Work

/--
Whether fields are a typed form that is left out, or an identifier with blanks among its digits.
-/
def areLeftOut (fs : Fields) (ids : IdSupply) : Bool :=
  match (decodeObject fs ids).1 with
  | .ok (.object _) => areTyped fs
  | .error (.idText s) => ObjectId.isSpaced s.toList
  | _ => false

mutual

/-- Whether the reader of a tree meets what is left out, before it refuses an object. -/
def leavesOut (ids : IdSupply) : Json → Bool
  | .array js => itemsLeaveOut ids js
  | .object ms => membersLeaveOut ids ms || match decodeMembers ms ids with
    | (.ok es, ids) => areLeftOut (Fields.ofList es) ids
    | (.error _, _) => false
  | _ => false

def itemsLeaveOut (ids : IdSupply) : List Json → Bool
  | [] => false
  | j :: js => leavesOut ids j || match decode j ids with
    | (.ok _, ids) => itemsLeaveOut ids js
    | (.error _, _) => false

def membersLeaveOut (ids : IdSupply) : List (List Char × Json) → Bool
  | [] => false
  | (_, j) :: ms => leavesOut ids j || match decode j ids with
    | (.ok _, ids) => membersLeaveOut ids ms
    | (.error _, _) => false

end

/--
An object in a tree is the first one that is refused, with a fault. Objects are read from the inside
out.
-/
inductive FirstRefused : Json → IdSupply → Fields → DecodeFault → Prop where
  | object {ms ids es ids' e ids''} (members : decodeMembers ms ids = (.ok es, ids'))
      (refused : decodeObject (Fields.ofList es) ids' = (.error e, ids'')) :
      FirstRefused (.object ms) ids (Fields.ofList es) e
  | member {before k j after ids es ids' fs e} (members : decodeMembers before ids = (.ok es, ids'))
      (refused : FirstRefused j ids' fs e) :
      FirstRefused (.object (before ++ (k, j) :: after)) ids fs e
  | item {before j after ids vs ids' fs e} (items : decodeItems before ids = (.ok vs, ids'))
      (refused : FirstRefused j ids' fs e) : FirstRefused (.array (before ++ j :: after)) ids fs e

theorem decodeItems_eq_mapM (js : List Json) : decodeItems js = js.mapM decode := by
  induction js with
  | nil => rw [decodeItems, List.mapM_nil]
  | cons j js ih => rw [decodeItems, List.mapM_cons, ih]

def decodeMember (m : List Char × Json) : Decoding (Value × Value) := do
  return (.ofText m.1, ← decode m.2)

theorem decodeMembers_eq_mapM (ms : List (List Char × Json))
    : decodeMembers ms = ms.mapM decodeMember := by
  induction ms with
  | nil => rw [decodeMembers, List.mapM_nil]
  | cons m ms ih =>
    obtain ⟨k, j⟩ := m
    rw [decodeMembers, List.mapM_cons, ih, decodeMember, bind_assoc]
    congr 1

theorem decodeMember_error {m : List Char × Json} {ids ids' : IdSupply} {e : DecodeFault}
    : decodeMember m ids = (.error e, ids') ↔ decode m.2 ids = (.error e, ids') := by
  constructor
  . intro h
    rcases bind_cases h with ⟨_, hj, he⟩ | ⟨v, t, _, hv⟩
    . cases he
      exact hj
    . cases hv
  . exact bind_error

theorem firstRefused_of_error (j : Json) {ids ids' : IdSupply} {e : DecodeFault}
    (h : decode j ids = (.error e, ids'))
    : ∃ fs, FirstRefused j ids fs e := by
  match j with
  | .null => rw [decode] at h; cases h
  | .bool b => rw [decode] at h; cases h
  | .int n => rw [decode] at h; cases h
  | .number x => rw [decode] at h; cases h
  | .text s => rw [decode] at h; cases h
  | .array js =>
    rw [decode] at h
    rcases bind_cases h with ⟨_, hjs, he⟩ | ⟨vs, t, _, hvs⟩
    . cases he
      rw [decodeItems_eq_mapM, mapM_error_iff] at hjs
      obtain ⟨before, x, after, vs, t, hsplit, hbefore, hx⟩ := hjs
      rw [← decodeItems_eq_mapM] at hbefore
      have hmem : x ∈ js := by rw [hsplit]; exact List.mem_append_right _ (List.mem_cons_self ..)
      obtain ⟨fs, hfs⟩ := firstRefused_of_error x hx
      rw [hsplit]
      exact ⟨fs, .item hbefore hfs⟩
    . cases hvs
  | .object ms =>
    rw [decode] at h
    rcases bind_cases h with ⟨_, hms, he⟩ | ⟨es, t, hes, hobject⟩
    . cases he
      rw [decodeMembers_eq_mapM, mapM_error_iff] at hms
      obtain ⟨before, m, after, es, t, hsplit, hbefore, hm⟩ := hms
      rw [← decodeMembers_eq_mapM] at hbefore
      rw [decodeMember_error] at hm
      have hmem : m ∈ ms := by rw [hsplit]; exact List.mem_append_right _ (List.mem_cons_self ..)
      obtain ⟨fs, hfs⟩ := firstRefused_of_error m.2 hm
      rw [hsplit]
      exact ⟨fs, .member hbefore hfs⟩
    . exact ⟨_, .object hes hobject⟩
termination_by sizeOf j
decreasing_by
  . have := List.sizeOf_lt_of_mem hmem
    simp only [Json.array.sizeOf_spec]
    omega
  . have := List.sizeOf_lt_of_mem hmem
    have : sizeOf m = 1 + sizeOf m.1 + sizeOf m.2 := rfl
    simp only [Json.object.sizeOf_spec]
    omega

theorem FirstRefused.decode_error {j : Json} {ids : IdSupply} {fs : Fields} {e : DecodeFault}
    (h : FirstRefused j ids fs e)
    : (∃ ids', decode j ids = (.error e, ids')) ∧ ∃ ids₁ ids₂, decodeObject fs ids₁ =
      (.error e, ids₂) := by
  induction h with
  | @object ms ids es ids' e ids'' members refused =>
    refine ⟨⟨ids'', ?_⟩, _, _, refused⟩
    rw [decode, bind_ok members]
    exact refused
  | member members _ ih =>
    obtain ⟨⟨ids', hj⟩, hobject⟩ := ih
    rw [decodeMembers_eq_mapM] at members
    refine ⟨⟨ids', ?_⟩, hobject⟩
    rw [decode]
    apply bind_error
    rw [decodeMembers_eq_mapM, mapM_error_iff]
    exact ⟨_, _, _, _, _, rfl, members, decodeMember_error.mpr hj⟩
  | item items _ ih =>
    obtain ⟨⟨ids', hj⟩, hobject⟩ := ih
    rw [decodeItems_eq_mapM] at items
    refine ⟨⟨ids', ?_⟩, hobject⟩
    rw [decode]
    apply bind_error
    rw [decodeItems_eq_mapM, mapM_error_iff]
    exact ⟨_, _, _, _, _, rfl, items, hj⟩

end DocStore.Extended

import DocStore.Proofs.Text.Hex
import DocStore.Proofs.Value.Equivalence

/-!
This module contains the proof of how deep the equality of queries goes. Its rules on booleans and
identifiers are rules for single values: lists and objects are equal if they have the same structure
and their leaves are natively equal. So the equality is not that of all leaves if a boolean stands
for a number in a list or an object, or an identifier for its digits.
-/

namespace DocStore

namespace Value

def isLeaf : Value → Bool
  | .null => true
  | .bool _ => true
  | .int _ => true
  | .long _ => true
  | .double _ => true
  | .text _ => true
  | .date _ => true
  | .id _ => true
  | _ => false

def isId : Value → Bool
  | .id _ => true
  | _ => false

inductive IsNested : Value → Prop where
  | leaf {v} (h : v.isLeaf = true) : IsNested v
  | list {xs} (h : ∀ x ∈ xs, IsNested x) : IsNested (.list xs)
  | object {fs} (keyed : Fields.IsKeyed fs) (h : ∀ f ∈ fs, IsNested f.2) : IsNested (.object fs)

mutual

/-- The pairs of corresponding leaves of two values, if these have the same structure. -/
def leafPairs? : Value → Value → Option (List (Value × Value))
  | .list xs, .list ys => itemPairs? xs ys
  | .object fs, .object gs => if fs.length = gs.length then fieldPairs? fs gs else none
  | v, w => if v.isLeaf && w.isLeaf then some [(v, w)] else none

def itemPairs? : List Value → List Value → Option (List (Value × Value))
  | [], [] => some []
  | x :: xs, y :: ys => do return (← leafPairs? x y) ++ (← itemPairs? xs ys)
  | _, _ => none

def fieldPairs? : List (Value × Value) → List (Value × Value) → Option (List (Value × Value))
  | [], _ => some []
  | (k, v) :: fs, gs => do
    let w ← Fields.get? gs k
    return (← leafPairs? v w) ++ (← fieldPairs? fs gs)

end

def AllLeaves (R : Value → Value → Prop) (v w : Value) : Prop :=
  ∃ ps, leafPairs? v w = some ps ∧ ∀ p ∈ ps, R p.1 p.2

section

variable {R : Value → Value → Prop}

theorem leafPairs?_leaf {v w : Value} (hv : v.isLeaf = true) (hw : w.isLeaf = true)
    : leafPairs? v w = some [(v, w)] := by
  unfold leafPairs?
  split
  . cases hv
  . cases hv
  . rw [hv, hw]
    rfl

theorem allLeaves_leaf {v w : Value} (hv : v.isLeaf = true) (hw : w.isLeaf = true)
    : AllLeaves R v w ↔ R v w := by
  unfold AllLeaves
  rw [leafPairs?_leaf hv hw]
  simp

theorem not_allLeaves_of_isLeaf {v w : Value} (h : v.isLeaf ≠ w.isLeaf) : ¬ AllLeaves R v w := by
  rintro ⟨ps, hps, _⟩
  unfold leafPairs? at hps
  split at hps
  . exact h rfl
  . exact h rfl
  . split at hps
    next hleaves =>
      rw [Bool.and_eq_true] at hleaves
      exact h (hleaves.1.trans hleaves.2.symm)
    . cases hps

theorem not_allLeaves_list_object {xs : List Value} {fs : Fields}
    : ¬ AllLeaves R (.list xs) (.object fs) :=
  fun ⟨_, h, _⟩ => by simp [leafPairs?, isLeaf] at h

theorem not_allLeaves_object_list {xs : List Value} {fs : Fields}
    : ¬ AllLeaves R (.object fs) (.list xs) :=
  fun ⟨_, h, _⟩ => by simp [leafPairs?, isLeaf] at h

theorem exists_pairs_append {a b : Option (List (Value × Value))}
    : (∃ ps, (do return (← a) ++ (← b)) = some ps ∧ ∀ p ∈ ps, R p.1 p.2)
      ↔ (∃ ps, a = some ps ∧ ∀ p ∈ ps, R p.1 p.2) ∧ ∃ ps, b = some ps ∧ ∀ p ∈ ps, R p.1 p.2 := by
  cases a with
  | none => simp
  | some ps =>
    cases b with
    | none => simp
    | some qs => simp [or_imp, forall_and]

theorem allLeaves_list {xs ys : List Value}
    : AllLeaves R (.list xs) (.list ys) ↔ List.Forall₂ (AllLeaves R) xs ys := by
  have hitems : AllLeaves R (.list xs) (.list ys) ↔ ∃ ps, itemPairs? xs ys = some ps ∧
      ∀ p ∈ ps, R p.1 p.2 := by
    unfold AllLeaves
    rw [leafPairs?]
  rw [hitems]
  clear hitems
  induction xs generalizing ys with
  | nil => cases ys <;> simp [itemPairs?]
  | cons x xs ih =>
    cases ys with
    | nil => simp [itemPairs?]
    | cons y ys =>
      rw [itemPairs?, exists_pairs_append, List.forall₂_cons]
      exact and_congr_right fun _ => ih

theorem allLeaves_object {fs gs : Fields} : AllLeaves R (.object fs) (.object gs)
    ↔ fs.length = gs.length ∧ ∀ f ∈ fs, ∃ w, gs.get? f.1 = some w ∧ AllLeaves R f.2 w := by
  have hfields : AllLeaves R (.object fs) (.object gs)
      ↔ fs.length = gs.length ∧ ∃ ps, fieldPairs? fs gs = some ps ∧ ∀ p ∈ ps, R p.1 p.2 := by
    unfold AllLeaves
    rw [leafPairs?]
    by_cases hlength : fs.length = gs.length
    . simp [hlength]
    . simp [hlength]
  have hpairs : (∃ ps, fieldPairs? fs gs = some ps ∧ ∀ p ∈ ps, R p.1 p.2)
      ↔ ∀ f ∈ fs, ∃ w, gs.get? f.1 = some w ∧ AllLeaves R f.2 w := by
    clear hfields
    induction fs with
    | nil => simp [fieldPairs?]
    | cons f fs ih =>
      obtain ⟨k, v⟩ := f
      rw [fieldPairs?, List.forall_mem_cons, ← ih]
      cases hget : Fields.get? gs k with
      | none => simp
      | some w =>
        rw [Option.bind_eq_bind, Option.bind_some, exists_pairs_append]
        simp [AllLeaves]
  rw [hfields, hpairs]

end

theorem equalLists_iff_forall₂ {xs ys : List Value}
    : equalLists xs ys = true ↔ List.Forall₂ (fun x y => x.equals y = true) xs ys := by
  induction xs generalizing ys with
  | nil => cases ys <;> simp [equalLists]
  | cons x xs ih =>
    cases ys with
    | nil => simp [equalLists]
    | cons y ys => rw [equalLists, Bool.and_eq_true, ih, List.forall₂_cons]

theorem leaf_equals_list {v : Value} (h : v.isLeaf = true) (xs : List Value)
    : v.equals (.list xs) = false := by
  cases v <;> simp [isLeaf, equals, equalsInteger, integer?] at h ⊢

theorem leaf_equals_object {v : Value} (h : v.isLeaf = true) (fs : Fields)
    : v.equals (.object fs) = false := by
  cases v <;> simp [isLeaf, equals, equalsInteger, integer?] at h ⊢

theorem list_equals_leaf {v : Value} (h : v.isLeaf = true) (xs : List Value)
    : (Value.list xs).equals v = false := by
  cases v <;> simp [isLeaf, equals] at h ⊢

theorem object_equals_leaf {v : Value} (h : v.isLeaf = true) (fs : Fields)
    : (Value.object fs).equals v = false := by
  cases v <;> simp [isLeaf, equals] at h ⊢

theorem equals_iff_allLeaves {v w : Value} (hv : v.IsNested) (hw : w.IsNested)
    : v.equals w = true ↔ AllLeaves (fun a b => a.equals b = true) v w := by
  -- values of different shapes are unequal and have no leaves in common; fields go by their names
  induction hv generalizing w with
  | leaf hleaf =>
    cases hw with
    | leaf hleaf' => rw [allLeaves_leaf hleaf hleaf']
    | list =>
      rw [leaf_equals_list hleaf]
      exact iff_of_false Bool.false_ne_true
        (not_allLeaves_of_isLeaf fun h => by cases hleaf.symm.trans h)
    | object =>
      rw [leaf_equals_object hleaf]
      exact iff_of_false Bool.false_ne_true
        (not_allLeaves_of_isLeaf fun h => by cases hleaf.symm.trans h)
  | @list xs _ ih =>
    cases hw with
    | leaf hleaf =>
      rw [list_equals_leaf hleaf]
      exact iff_of_false Bool.false_ne_true
        (not_allLeaves_of_isLeaf fun h => by cases h.trans hleaf)
    | @list ys hys =>
      rw [equals, equalLists_iff_forall₂, allLeaves_list]
      exact ⟨fun h => forall₂_of_mem (fun x hx y hy => (ih x hx (hys y hy)).mp) h,
        fun h => forall₂_of_mem (fun x hx y hy => (ih x hx (hys y hy)).mpr) h⟩
    | object => exact iff_of_false (by simp [equals]) not_allLeaves_list_object
  | @object fs keyed _ ih =>
    cases hw with
    | leaf hleaf =>
      rw [object_equals_leaf hleaf]
      exact iff_of_false Bool.false_ne_true
        (not_allLeaves_of_isLeaf fun h => by cases h.trans hleaf)
    | list => exact iff_of_false (by simp [equals]) not_allLeaves_object_list
    | @object gs hgs hvalues =>
      rw [object_equals_iff keyed, allLeaves_object]
      refine and_congr_right fun _ => forall₂_congr fun f hf => ?_
      obtain ⟨s, hs⟩ := keyed.keys f hf
      constructor
      . rintro ⟨g, hg, hkey, hequals⟩
        refine ⟨g.2, ?_, (ih f hf (hvalues g hg)).mp hequals⟩
        rw [hs]
        exact hgs.get?_of_mem hg (hkey.trans hs)
      . rintro ⟨w, hw, hall⟩
        obtain ⟨g, hg, hkey, rfl⟩ := Fields.get?_mem hw
        rw [hs, equals_text] at hkey
        exact ⟨g, hg, hkey.trans hs.symm, (ih f hf (hvalues g hg)).mpr hall⟩

theorem isBool_normalizeId (v : Value) : v.normalizeId.isBool = v.isBool := by
  cases v <;> rfl

theorem normalizeId_eq_self {v : Value} (h : v.isId = false) : v.normalizeId = v := by
  cases v with
  | id i => cases h
  | _ => rfl

theorem isId_of_isLeaf {v : Value} (h : v.isLeaf = false) : v.isId = false := by
  cases v <;> first | rfl | cases h

theorem isBool_of_isLeaf {v : Value} (h : v.isLeaf = false) : v.isBool = false := by
  cases v <;> first | rfl | cases h

theorem id_equals {i : ObjectId} {v : Value} : (Value.id i).equals v = true ↔ v = .id i := by
  cases v <;> simp [equals, eq_comm]

theorem equals_id {i : ObjectId} {v : Value} : v.equals (.id i) = true ↔ v = .id i := by
  cases v <;> simp [equals, equalsInteger, integer?]

theorem equals_iff_normalizeId (v w : Value)
    : v.equals w = true ↔ v.normalizeId.equals w.normalizeId = true ∧ v.isId = w.isId := by
  cases hv : v.isId with
  | false =>
    rw [normalizeId_eq_self hv]
    cases hw : w.isId with
    | false => rw [normalizeId_eq_self hw, and_iff_left rfl]
    | true =>
      refine iff_of_false ?_ fun h => by cases h.2
      cases w with
      | id j =>
        rw [equals_id]
        rintro rfl
        cases hv
      | _ => cases hw
  | true =>
    cases v with
    | id i =>
      rw [id_equals, normalizeId, ofText, text_equals]
      cases w with
      | id j =>
        simp only [normalizeId, ofText, text.injEq, id.injEq, isId, and_true]
        exact ⟨fun h => by rw [h], fun h => ObjectId.hex_injective (String.ofList_injective h)⟩
      | _ => simp [isId]
    | _ => cases hv

theorem equals_iff_valuesEqual {v w : Value} (h : valuesEqual v w = true)
    : v.equals w = true ↔ v.isId = w.isId := by
  rw [valuesEqual_eq, Bool.and_eq_true] at h
  rw [equals_iff_normalizeId, and_iff_right h.2]

theorem valuesEqual_iff_equals {v w : Value} (h : v.equals w = true)
    : valuesEqual v w = true ↔ v.isBool = w.isBool := by
  rw [equals_iff_normalizeId] at h
  rw [valuesEqual_eq, Bool.and_eq_true, and_iff_left h.1, beq_iff_eq, isBool_normalizeId,
    isBool_normalizeId]

theorem valuesEqual_of_isLeaf {v : Value} (h : v.isLeaf = false) (w : Value)
    : valuesEqual v w = v.equals w := by
  have hbool : v.isBool = false := isBool_of_isLeaf h
  have hid : v.isId = false := isId_of_isLeaf h
  rw [valuesEqual_eq, isBool_normalizeId, isBool_normalizeId, normalizeId_eq_self hid, hbool]
  cases w with
  | bool b => cases v <;> simp [isLeaf, isBool, equals] at h ⊢
  | id i => cases v <;> simp [isLeaf, isBool, equals, normalizeId, ofText] at h ⊢
  | _ => rfl

def DeeplyEqual (v w : Value) : Prop := AllLeaves (fun a b => valuesEqual a b = true) v w

/--
Two lists or objects of the same structure are equal but for the leaves: a boolean is natively equal
to a number, or an identifier stands for its digits.
-/
def IsConfused (v w : Value) : Prop :=
  v.isLeaf = false ∧ ∃ ps, leafPairs? v w = some ps
    ∧ ((∀ p ∈ ps, p.1.equals p.2 = true) ∧ (∃ p ∈ ps, p.1.isBool ≠ p.2.isBool)
      ∨ (∀ p ∈ ps, valuesEqual p.1 p.2 = true) ∧ ∃ p ∈ ps, p.1.isId ≠ p.2.isId)

theorem forall_valuesEqual_iff {ps : List (Value × Value)} (h : ∀ p ∈ ps, p.1.equals p.2 = true)
    : (∀ p ∈ ps, valuesEqual p.1 p.2 = true) ↔ ¬ ∃ p ∈ ps, p.1.isBool ≠ p.2.isBool := by
  push Not
  exact forall₂_congr fun p hp => valuesEqual_iff_equals (h p hp)

theorem forall_equals_iff {ps : List (Value × Value)} (h : ∀ p ∈ ps, valuesEqual p.1 p.2 = true)
    : (∀ p ∈ ps, p.1.equals p.2 = true) ↔ ¬ ∃ p ∈ ps, p.1.isId ≠ p.2.isId := by
  push Not
  exact forall₂_congr fun p hp => equals_iff_valuesEqual (h p hp)

theorem allLeaves_iff_deeplyEqual {v w : Value} (h : v.isLeaf = false)
    : (AllLeaves (fun a b => a.equals b = true) v w ↔ DeeplyEqual v w) ↔ ¬ IsConfused v w := by
  unfold DeeplyEqual AllLeaves IsConfused
  cases leafPairs? v w with
  | none => simp
  | some ps =>
    simp only [h, true_and, Option.some.injEq, exists_eq_left']
    rw [not_or, not_and, not_and]
    constructor
    . intro hsame
      exact ⟨fun hnative => (forall_valuesEqual_iff hnative).mp (hsame.mp hnative),
        fun hdeep => (forall_equals_iff hdeep).mp (hsame.mpr hdeep)⟩
    . rintro ⟨hbools, hids⟩
      exact ⟨fun hnative => (forall_valuesEqual_iff hnative).mpr (hbools hnative),
        fun hdeep => (forall_equals_iff hdeep).mpr (hids hdeep)⟩

theorem valuesEqual_bool {b : Bool} {w : Value} : valuesEqual (.bool b) w = true ↔ w = .bool b := by
  rw [valuesEqual_eq, isBool_normalizeId, isBool_normalizeId]
  cases w with
  | bool c => cases b <;> cases c <;> simp [normalizeId, isBool, equals, equalsInteger, integer?]
  | _ => simp [isBool]

theorem valuesEqual_id {i : ObjectId} {w : Value}
    : valuesEqual (.id i) w = true ↔ w = .id i ∨ w = .ofText i.hex := by
  rw [valuesEqual_eq, Bool.and_eq_true, beq_iff_eq, isBool_normalizeId, isBool_normalizeId,
    normalizeId, ofText, text_equals]
  constructor
  . rintro ⟨_, h⟩
    cases w with
    | id j =>
      simp only [normalizeId, ofText, text.injEq] at h
      rw [ObjectId.hex_injective (String.ofList_injective h)]
      exact .inl rfl
    | _ => exact .inr h
  . rintro (rfl | rfl)
    . exact ⟨rfl, rfl⟩
    . exact ⟨rfl, rfl⟩

structure IsComparedToDepth (v w : Value) : Prop where
  booleans : ∀ b, v = .bool b → (valuesEqual v w = true ↔ w = .bool b)
  identifiers : ∀ i, v = .id i → (valuesEqual v w = true ↔ w = .id i ∨ w = .ofText i.hex)
  leaves : v.isLeaf = true → (valuesEqual v w = true ↔ DeeplyEqual v w)
  composites : v.isLeaf = false →
    (valuesEqual v w = true ↔ AllLeaves (fun a b => a.equals b = true) v w)
  /-- Nothing but confused leaves keeps the equality from being deep. -/
  deep_iff : (valuesEqual v w = true ↔ DeeplyEqual v w) ↔ ¬ IsConfused v w

theorem valuesEqual_leaf {v w : Value} (hv : v.isLeaf = true) (hw : w.IsNested)
    : valuesEqual v w = true ↔ DeeplyEqual v w := by
  unfold DeeplyEqual
  cases hleaf : w.isLeaf with
  | true => rw [allLeaves_leaf hv hleaf]
  | false =>
    have hstructure : v.isLeaf ≠ w.isLeaf := fun h => by cases hv.symm.trans (h.trans hleaf)
    refine iff_of_false ?_ (not_allLeaves_of_isLeaf hstructure)
    rw [Bool.not_eq_true]
    apply valuesEqual_eq_false
    rw [normalizeId_eq_self (isId_of_isLeaf hleaf)]
    have hnormal : v.normalizeId.isLeaf = true := by cases v <;> first | rfl | cases hv
    cases hw with
    | leaf h => cases h.symm.trans hleaf
    | list => exact leaf_equals_list hnormal _
    | object => exact leaf_equals_object hnormal _

/--
Single values are compared by the rules of queries and others natively, which differs if leaves are
confused.
-/
theorem isComparedToDepth {v w : Value} (hv : v.IsNested) (hw : w.IsNested)
    : IsComparedToDepth v w where
  booleans := by
    rintro b rfl
    exact valuesEqual_bool
  identifiers := by
    rintro i rfl
    exact valuesEqual_id
  leaves hleaf := valuesEqual_leaf hleaf hw
  composites hleaf := by rw [valuesEqual_of_isLeaf hleaf, equals_iff_allLeaves hv hw]
  deep_iff := by
    cases hleaf : v.isLeaf with
    | true =>
      refine iff_of_true (valuesEqual_leaf hleaf hw) ?_
      rintro ⟨h, _⟩
      cases hleaf.symm.trans h
    | false =>
      rw [valuesEqual_of_isLeaf hleaf, equals_iff_allLeaves hv hw, allLeaves_iff_deeplyEqual hleaf]

def switchedOn : Value := .ofFields [("flags", .list [.bool true, .null])]

def setToOne : Value := .ofFields [("flags", .list [.int 1, .null])]

theorem isComparedToDepth_switchedOn
    : switchedOn.IsNested ∧ setToOne.IsNested
      ∧ ¬ (valuesEqual switchedOn setToOne = true ↔ DeeplyEqual switchedOn setToOne) := by
  have hnested : ∀ v : Value, v.isLeaf = true →
      IsNested (.ofFields [("flags", .list [v, .null])]) := by
    intro v hv
    apply IsNested.object ⟨by simp, by simp⟩
    simp only [List.map_cons, List.map_nil, List.mem_singleton, forall_eq]
    apply IsNested.list
    simp only [List.mem_cons, List.not_mem_nil, or_false, forall_eq_or_imp, forall_eq]
    exact ⟨.leaf hv, .leaf rfl⟩
  have hon : switchedOn.IsNested := hnested _ rfl
  have hone : setToOne.IsNested := hnested _ rfl
  refine ⟨hon, hone, fun h => (isComparedToDepth hon hone).deep_iff.mp h ⟨rfl, ?_⟩⟩
  refine ⟨[(.bool true, .int 1), (.null, .null)], ?_, .inl ⟨?_, ?_⟩⟩
  . have hname : (text "flags").equals (.text "flags") = true := equals_text.mpr rfl
    simp only [switchedOn, setToOne, ofFields, List.map_cons, List.map_nil, leafPairs?, fieldPairs?,
      Fields.get?_cons, hname, if_true]
    rfl
  . simp [equals, equalsInteger, integer?, Bool.toInt]
  . exact ⟨(.bool true, .int 1), List.mem_cons_self .., by decide⟩

theorem valuesEqual_not_deep
    : valuesEqual (.list [.bool true]) (.list [.int 1]) = true
      ∧ ¬ DeeplyEqual (.list [.bool true]) (.list [.int 1]) := by
  constructor
  . rw [valuesEqual_of_isLeaf rfl]
    simp [equals, equalLists, equalsInteger, integer?, Bool.toInt]
  . unfold DeeplyEqual
    rw [allLeaves_list, List.forall₂_cons, allLeaves_leaf rfl rfl]
    rintro ⟨h, _⟩
    cases h

end Value

end DocStore

import DocStore.Proofs.Query.Conjunction
import DocStore.Proofs.Value.Equal

/-!
This module contains the proof of when an identifier in a query on identifiers can be given by its
digits: always but in a range, which no text is in if it is bounded by an identifier.
-/

namespace DocStore

section

variable {α : Type} {test test' : α → Except Error Bool} {p : α → Prop}

def Reaches (test : α → Except Error Bool) (p : α → Prop) (xs : List α) : Prop :=
  ∃ before x after, xs = before ++ x :: after ∧ (∀ y ∈ before, test y = .ok true) ∧ p x

theorem not_reaches_nil : ¬ Reaches test p [] := by
  rintro ⟨before, x, after, h, _⟩
  cases before <;> cases h

theorem reaches_cons {x : α} {xs : List α}
    : Reaches test p (x :: xs) ↔ p x ∨ test x = .ok true ∧ Reaches test p xs := by
  constructor
  . rintro ⟨before, y, after, h, hbefore, hy⟩
    cases before with
    | nil =>
      cases h
      exact .inl hy
    | cons z before =>
      cases h
      rw [List.forall_mem_cons] at hbefore
      exact .inr ⟨hbefore.1, before, y, after, rfl, hbefore.2, hy⟩
  . rintro (hx | ⟨hx, before, y, after, rfl, hbefore, hy⟩)
    . exact ⟨[], x, xs, rfl, by simp, hx⟩
    . refine ⟨x :: before, y, after, rfl, ?_, hy⟩
      rw [List.forall_mem_cons]
      exact ⟨hx, hbefore⟩

theorem allHold_of_reaches {xs : List α} (hfails : ∀ x, p x → test x = .ok false)
    (h : Reaches test p xs)
    : allHold test xs = .ok false := by
  induction xs with
  | nil => exact absurd h not_reaches_nil
  | cons x xs ih =>
    unfold allHold
    rw [reaches_cons] at h
    rcases h with hx | ⟨hx, h⟩
    . rw [hfails x hx]
      rfl
    . rw [hx]
      exact ih h

theorem allHold_map {f : α → α} {xs : List α} (hsame : ∀ x, ¬ p x → test (f x) = test x)
    (h : ¬ Reaches test p xs)
    : allHold test (xs.map f) = allHold test xs := by
  induction xs with
  | nil => rfl
  | cons x xs ih =>
    rw [reaches_cons, not_or, not_and] at h
    rw [List.map_cons]
    unfold allHold
    rw [hsame x h.1]
    cases hx : test x with
    | error e => rfl
    | ok b =>
      cases b with
      | false => rfl
      | true => exact ih (h.2 hx)

end

def Operator.withDigits (o : Operator) (operand : Value) : Value :=
  match o with
  | .equal => operand.normalizeId
  | .unequal => operand.normalizeId
  | .ordered _ => operand.normalizeId
  | .among => inList operand
  | .notAmong => inList operand
  | .pattern => operand
where
  inList : Value → Value
    | .list xs => .list (xs.map Value.normalizeId)
    | .tuple xs => .tuple (xs.map Value.normalizeId)
    | candidates => candidates

def entryWithDigits (entry : Value × Value) : Value × Value :=
  match Operator.ofKey? entry.1 with
  | some o => (entry.1, o.withDigits entry.2)
  | none => entry

def conditionWithDigits (condition : Value) : Value :=
  match condition with
  | .object fs => if isOperatorObject condition then .object (fs.map entryWithDigits) else condition
  | condition => condition.normalizeId

def fieldWithDigits (entry : Value × Value) : Value × Value :=
  if entry.1.equals (.text "_id") then (entry.1, conditionWithDigits entry.2) else entry

/--
A query in which all identifiers that the identifier of a document is compared with are given by
their digits.
-/
def queryWithDigits (query : Value) : Value :=
  match query with
  | .object conditions => .object (conditions.map fieldWithDigits)
  | query => query

def BoundsById (entry : Value × Value) : Prop :=
  (∃ r, Operator.ofKey? entry.1 = some (.ordered r)) ∧ ∃ i, entry.2 = .id i

def RangesById (v condition : Value) : Prop :=
  ∃ fs, condition = .object fs ∧ Reaches (entryHolds (Fields.getD fs "$options") v) BoundsById fs

/--
The evaluation of a query on a document comes to a range of identifiers that an identifier bounds.
-/
def ComesToRange (doc : Fields) (query : Value) : Prop :=
  ∃ conditions, query = .object conditions
    ∧ Reaches (fieldHolds (.object doc))
      (fun c => c.1 = .text "_id" ∧ RangesById (doc.getD "_id") c.2) conditions

theorem isAmong_withDigits (operator : String) (v candidates : Value)
    : isAmong operator v (Operator.withDigits.inList candidates) =
      isAmong operator v candidates := by
  have hmap : ∀ xs : List Value, (xs.map Value.normalizeId).any (valuesEqual v) =
      xs.any (valuesEqual v) := by
    intro xs
    rw [List.any_map]
    exact congrArg xs.any (funext fun x => valuesEqual_normalizeId v x)
  unfold Operator.withDigits.inList
  split
  . exact congrArg Except.ok (hmap _)
  . exact congrArg Except.ok (hmap _)
  . rfl

theorem holds_withDigits {o : Operator} {operand : Value}
    (h : ∀ r i, o = .ordered r → operand ≠ .id i)
    (options v : Value) : o.holds (o.withDigits operand) options v = o.holds operand options v := by
  cases o with
  | equal =>
    unfold Operator.holds Operator.withDigits
    dsimp only
    rw [valuesEqual_normalizeId]
  | unequal =>
    unfold Operator.holds Operator.withDigits
    dsimp only
    rw [valuesEqual_normalizeId]
  | ordered r =>
    have hoperand : operand.normalizeId = operand := by
      cases operand with
      | id i => exact absurd rfl (h r i rfl)
      | _ => rfl
    unfold Operator.withDigits
    rw [hoperand]
  | among => exact isAmong_withDigits "$in" v operand
  | notAmong =>
    unfold Operator.holds Operator.withDigits
    dsimp only
    rw [isAmong_withDigits]
  | pattern => rfl

theorem entryHolds_withDigits {entry : Value × Value} (h : ¬ BoundsById entry) (options v : Value)
    : entryHolds options v (entryWithDigits entry) = entryHolds options v entry := by
  unfold entryWithDigits
  split
  next o ho =>
    unfold entryHolds
    dsimp only
    rw [ho]
    apply holds_withDigits
    rintro r i rfl hid
    exact h ⟨⟨r, ho⟩, i, hid⟩
  . rfl

theorem entryHolds_of_boundsById {entry : Value × Value} (h : BoundsById entry) (options : Value)
    (s : String)
    : entryHolds options (.text s) entry = .ok false := by
  obtain ⟨⟨r, hr⟩, i, hid⟩ := h
  unfold entryHolds
  rw [hr, hid]
  rfl

theorem entryWithDigits_fst (entry : Value × Value) : (entryWithDigits entry).1 = entry.1 := by
  unfold entryWithDigits
  split <;> rfl

theorem isOperatorObject_withDigits (fs : Fields)
    : isOperatorObject (.object (fs.map entryWithDigits)) = isOperatorObject (.object fs) := by
  unfold isOperatorObject
  dsimp only
  rw [List.any_map]
  exact congrArg fs.any (funext fun entry => congrArg isOperatorKey (entryWithDigits_fst entry))

theorem options_withDigits (fs : Fields)
    : Fields.getD (fs.map entryWithDigits) "$options" = Fields.getD fs "$options" := by
  unfold Fields.getD
  congr 1
  induction fs with
  | nil => rfl
  | cons f fs ih =>
    rw [List.map_cons, Fields.get?_cons, Fields.get?_cons, entryWithDigits_fst, ih]
    split
    next hkey =>
      rw [Value.equals_text] at hkey
      unfold entryWithDigits
      rw [hkey]
      rfl
    . rfl

theorem isOperatorObject_of_reaches {fs : Fields} {test : Value × Value → Except Error Bool}
    (h : Reaches test BoundsById fs) : isOperatorObject (.object fs) = true := by
  obtain ⟨before, entry, after, rfl, _, ⟨⟨r, hr⟩, _⟩⟩ := h
  have hknown : isKnown entry = true := by
    unfold isKnown
    rw [hr]
    rfl
  unfold isOperatorObject
  dsimp only
  rw [List.any_append, List.any_cons, isOperatorKey_of_isKnown hknown, Bool.true_or, Bool.or_true]

theorem conditionHolds_withDigits {v condition : Value} (h : ¬ RangesById v condition)
    : conditionHolds v (conditionWithDigits condition) = conditionHolds v condition := by
  cases condition with
  | object fs =>
    unfold conditionWithDigits
    dsimp only
    split
    next hop =>
      unfold conditionHolds
      dsimp only
      rw [isOperatorObject_withDigits, if_pos hop, if_pos hop, options_withDigits]
      apply allHold_map (p := BoundsById)
      . intro entry hentry
        exact entryHolds_withDigits hentry _ _
      . intro hreaches
        exact h ⟨fs, rfl, hreaches⟩
    . rfl
  | id i => exact congrArg Except.ok (valuesEqual_normalizeId v (.id i))
  | _ => rfl

theorem conditionHolds_of_rangesById {s : String} {condition : Value}
    (h : RangesById (.text s) condition)
    : conditionHolds (.text s) condition = .ok false := by
  obtain ⟨fs, rfl, hreaches⟩ := h
  unfold conditionHolds
  dsimp only
  rw [if_pos (isOperatorObject_of_reaches hreaches)]
  apply allHold_of_reaches _ hreaches
  intro entry hentry
  exact entryHolds_of_boundsById hentry _ s

theorem getField_id (doc : Fields) : getField (.object doc) (.text "_id") = .ok (doc.getD "_id") :=
  getField_plain (by decide) doc

theorem fieldHolds_id (doc : Fields) (condition : Value)
    : fieldHolds (.object doc) (.text "_id", condition) =
      conditionHolds (doc.getD "_id") condition := by
  unfold fieldHolds
  rw [getField_id]
  rfl

theorem fieldHolds_withDigits {doc : Fields} {entry : Value × Value}
    (h : ¬ (entry.1 = .text "_id" ∧ RangesById (doc.getD "_id") entry.2))
    : fieldHolds (.object doc) (fieldWithDigits entry) = fieldHolds (.object doc) entry := by
  obtain ⟨key, condition⟩ := entry
  unfold fieldWithDigits
  split
  next hkey =>
    rw [Value.equals_text] at hkey
    dsimp only at hkey h ⊢
    subst hkey
    rw [fieldHolds_id, fieldHolds_id]
    apply conditionHolds_withDigits
    intro hranges
    exact h ⟨rfl, hranges⟩
  . rfl

/--
A document whose identifier is a text matches a query on identifiers just as it matches the query on
their digits, unless the query comes to a range. It matches no such range by identifiers, whatever
the range of digits is.
-/
theorem isMatch_withDigits {doc : Fields} {s : String} (hid : doc.getD "_id" = .text s)
    (query : Value)
    : (ComesToRange doc query → isMatch (.object doc) query = .ok false)
      ∧ (isMatch (.object doc) (queryWithDigits query) = isMatch (.object doc) query
        ↔ (ComesToRange doc query → isMatch (.object doc) (queryWithDigits query) =
          .ok false)) := by
  -- a range that is reached decides the query: the document is not found
  have hrange : ComesToRange doc query → isMatch (.object doc) query = .ok false := by
    rintro ⟨conditions, rfl, hreaches⟩
    rw [isMatch_object]
    apply allHold_of_reaches _ hreaches
    rintro ⟨key, condition⟩ ⟨hkey, hranges⟩
    dsimp only at hkey hranges
    rw [hid] at hranges
    rw [hkey, fieldHolds_id, hid]
    exact conditionHolds_of_rangesById hranges
  have hsame : ¬ ComesToRange doc query → isMatch (.object doc) (queryWithDigits query) =
      isMatch (.object doc) query := by
    intro hranges
    cases query with
    | object conditions =>
      unfold queryWithDigits
      dsimp only
      rw [isMatch_object, isMatch_object]
      apply allHold_map (p := fun c => c.1 = .text "_id" ∧ RangesById (doc.getD "_id") c.2)
      . intro entry hentry
        exact fieldHolds_withDigits hentry
      . intro hreaches
        exact hranges ⟨conditions, rfl, hreaches⟩
    | _ => rfl
  refine ⟨hrange, fun h hranges => by rw [h, hrange hranges], fun h => ?_⟩
  by_cases hranges : ComesToRange doc query
  . rw [h hranges, hrange hranges]
  . exact hsame hranges

def firstId : ObjectId := ({} : IdSupply).draw.1

def secondId : ObjectId := firstId.next

def secondDocument : Fields := [(.text "_id", .ofText secondId.hex)]

def chosenId : Value :=
  .ofFields [("_id", .ofFields [("$in", .list [.id firstId, .id secondId]), ("$ne", .id firstId)])]

theorem isMatch_withDigits_chosen
    : secondDocument.getD "_id" = .ofText secondId.hex
      ∧ isMatch (.object secondDocument) (queryWithDigits chosenId) =
        isMatch (.object secondDocument) chosenId := by
  have hid : secondDocument.getD "_id" = .ofText secondId.hex := Fields.getD_cons_self "_id" _ []
  refine ⟨hid, (isMatch_withDigits hid chosenId).2.mpr ?_⟩
  rintro ⟨conditions, ⟨⟩, hreaches⟩
  rw [List.map_cons, reaches_cons] at hreaches
  rcases hreaches with ⟨_, fs, ⟨⟩, hreaches⟩ | ⟨_, hreaches⟩
  . simp only [List.map_cons, List.map_nil, reaches_cons, not_reaches_nil, and_false, or_false]
      at hreaches
    rcases hreaches with ⟨⟨r, hr⟩, _⟩ | ⟨_, ⟨r, hr⟩, _⟩
    . cases hr
    . cases hr
  . exact absurd hreaches not_reaches_nil

def laterIds : Value := .ofFields [("_id", .ofFields [("$gt", .id firstId)])]

theorem laterIds_withDigits
    : isMatch (.object secondDocument) laterIds = .ok false
      ∧ isMatch (.object secondDocument) (queryWithDigits laterIds) = .ok true := by
  constructor
  . with_unfolding_all rfl
  . with_unfolding_all rfl

end DocStore

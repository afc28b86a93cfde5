import Mathlib.Data.List.Perm.Basic
import DocStore.Proofs.Query.Refusal

/-!
This module contains the proof that a query is the conjunction of what its operators ask for one by
one, so that the order of its fields, and of the operators of a condition, does not matter to the
documents that match it.
-/

namespace DocStore

open Work

section

variable {α : Type} {test : α → Except Error Bool}

theorem allHold_iff {xs : List α} : allHold test xs = .ok true ↔ ∀ x ∈ xs, test x = .ok true := by
  constructor
  . exact allHold_ok
  . intro h
    induction xs with
    | nil => rfl
    | cons x xs ih =>
      unfold allHold
      rw [h x (List.mem_cons_self ..), ok_bind, if_pos rfl]
      exact ih fun y hy => h y (List.mem_cons_of_mem _ hy)

theorem allHold_singleton (x : α) : allHold test [x] = test x := by
  unfold allHold
  cases test x with
  | error e => rfl
  | ok b => cases b <;> rfl

end

namespace Fields

def AreDistinct (fs : Fields) : Prop := fs.Pairwise fun f g => f.1.equals g.1 = false

instance (fs : Fields) : Decidable fs.AreDistinct :=
  inferInstanceAs (Decidable (List.Pairwise _ fs))

theorem AreDistinct.eq_of_name {fs : Fields} (h : fs.AreDistinct) {s : String} {f g : Value × Value}
    (hf : f ∈ fs)
    (hg : g ∈ fs) (hfs : f.1 = .text s) (hgs : g.1 = .text s) : f = g := by
  have hequal : f.1.equals g.1 = true := by
    rw [hfs, hgs]
    exact Value.equals_text.mpr rfl
  have hequal' : g.1.equals f.1 = true := by
    rw [hfs, hgs]
    exact Value.equals_text.mpr rfl
  induction h with
  | nil => cases hf
  | @cons other fs hother _ ih =>
    rw [List.mem_cons] at hf hg
    rcases hf with rfl | hf
    . rcases hg with rfl | hg
      . rfl
      . rw [hother g hg] at hequal
        cases hequal
    . rcases hg with rfl | hg
      . rw [hother f hf] at hequal'
        cases hequal'
      . exact ih hf hg

theorem AreDistinct.get?_perm {fs gs : Fields} (h : fs.AreDistinct) (hperm : fs.Perm gs)
    (s : String)
    : gs.get? (.text s) = fs.get? (.text s) := by
  cases hfs : fs.get? (.text s) with
  | none =>
    rw [get?_eq_none] at hfs ⊢
    exact fun g hg => hfs g (hperm.mem_iff.mpr hg)
  | some v =>
    obtain ⟨f, hf, hkey, rfl⟩ := get?_mem hfs
    rw [Value.equals_text] at hkey
    obtain ⟨w, hw⟩ := exists_get?_iff.mpr (List.mem_map.mpr ⟨f, hperm.mem_iff.mp hf, hkey⟩)
    obtain ⟨g, hg, hkey', rfl⟩ := get?_mem hw
    rw [Value.equals_text] at hkey'
    rw [hw, h.eq_of_name hf (hperm.mem_iff.mpr hg) hkey hkey']

theorem AreDistinct.getD_perm {fs gs : Fields} (h : fs.AreDistinct) (hperm : fs.Perm gs)
    (s : String)
    : gs.getD s = fs.getD s := by
  unfold getD
  rw [h.get?_perm hperm]

end Fields

inductive SameOperators : Value → Value → Prop where
  | refl (condition) : SameOperators condition condition
  | perm {fs gs : Fields} (operators : isOperatorObject (.object fs) = true) (perm : fs.Perm gs) :
      SameOperators (.object fs) (.object gs)

inductive Reorders : Value → Value → Prop where
  | refl (query) : Reorders query query
  | perm {fs gs hs : Fields} (fields : fs.Perm gs)
      (conditions : List.Forall₂ (fun f g => f.1 = g.1 ∧ SameOperators f.2 g.2) gs hs) :
      Reorders (.object fs) (.object hs)

def AsksOnce (query : Value) : Prop :=
  ∀ conditions, query = .object conditions → ∀ c ∈ conditions, ∀ fs, c.2 = .object fs →
    Fields.AreDistinct fs

theorem conditionHolds_operators {fs : Fields} (hop : isOperatorObject (.object fs) = true)
    (v : Value)
    : conditionHolds v (.object fs) = .ok true ↔
      ∀ e ∈ fs, entryHolds (Fields.getD fs "$options") v e = .ok true := by
  unfold conditionHolds
  dsimp only
  rw [if_pos hop, allHold_iff]

theorem isOperatorObject_perm {fs gs : Fields} (h : fs.Perm gs)
    : isOperatorObject (.object gs) = isOperatorObject (.object fs) := h.any_eq.symm

theorem conditionHolds_perm {fs gs : Fields} (hdistinct : fs.AreDistinct) (hperm : fs.Perm gs)
    (hop : isOperatorObject (.object fs) = true) (v : Value)
    : conditionHolds v (.object gs) = .ok true ↔ conditionHolds v (.object fs) = .ok true := by
  have hop' : isOperatorObject (.object gs) = true := by rw [isOperatorObject_perm hperm, hop]
  rw [conditionHolds_operators hop, conditionHolds_operators hop', hdistinct.getD_perm hperm]
  exact forall_congr' fun e => imp_congr_left hperm.mem_iff.symm

theorem SameOperators.conditionHolds_iff {condition condition' : Value}
    (h : SameOperators condition condition')
    (hdistinct : ∀ fs, condition = .object fs → Fields.AreDistinct fs) (v : Value)
    : conditionHolds v condition' = .ok true ↔ conditionHolds v condition = .ok true := by
  cases h with
  | refl => exact Iff.rfl
  | @perm fs gs operators perm => exact conditionHolds_perm (hdistinct fs rfl) perm operators v

theorem fieldHolds_iff {doc : Value} {c : Value × Value}
    : fieldHolds doc c = .ok true ↔ ∃ v, getField doc c.1 = .ok v ∧
      conditionHolds v c.2 = .ok true := by
  unfold fieldHolds
  cases getField doc c.1 with
  | error kind => exact iff_of_false nofun fun ⟨_, h, _⟩ => nomatch h
  | ok v => exact ⟨fun h => ⟨v, rfl, h⟩, fun ⟨_, h, hholds⟩ => by cases h; exact hholds⟩

theorem isMatch_object (doc : Value) (conditions : Fields)
    : isMatch doc (.object conditions) = allHold (fieldHolds doc) conditions := by
  unfold isMatch
  cases conditions with
  | nil => rfl
  | cons c conditions => rfl

theorem isMatch_singleton (doc : Value) (c : Value × Value)
    : isMatch doc (.object [c]) = fieldHolds doc c := by
  rw [isMatch_object, allHold_singleton]

theorem isMatch_iff {doc : Value} {conditions : Fields}
    : isMatch doc (.object conditions) = .ok true ↔
      ∀ c ∈ conditions, isMatch doc (.object [c]) = .ok true := by
  rw [isMatch_object, allHold_iff]
  exact forall₂_congr fun c _ => by rw [isMatch_singleton]

theorem Reorders.isMatch_iff {query query' : Value} (h : Reorders query query')
    (honce : AsksOnce query) (doc : Value)
    : isMatch doc query' = .ok true ↔ isMatch doc query = .ok true := by
  cases h with
  | refl => exact Iff.rfl
  | @perm fs gs hs fields conditions =>
    have hfield : ∀ f g, f ∈ gs → f.1 = g.1 ∧ SameOperators f.2 g.2 →
        (fieldHolds doc g = .ok true ↔ fieldHolds doc f = .ok true) := by
      rintro f g hf ⟨hkey, hsame⟩
      rw [fieldHolds_iff, fieldHolds_iff, hkey]
      refine exists_congr fun v => and_congr_right fun _ => ?_
      exact hsame.conditionHolds_iff (honce fs rfl f (fields.mem_iff.mpr hf)) v
    rw [isMatch_object, isMatch_object, allHold_iff, allHold_iff]
    trans ∀ f ∈ gs, fieldHolds doc f = .ok true
    . clear fields
      induction conditions with
      | nil => exact Iff.rfl
      | @cons f g gs hs hfg _ ih =>
        rw [List.forall_mem_cons, List.forall_mem_cons, hfield f g (List.mem_cons_self ..) hfg]
        exact and_congr_right fun _ => ih fun f' g' hf' => hfield f' g' (List.mem_cons_of_mem _ hf')
    . exact forall_congr' fun f => imp_congr_left fields.mem_iff.symm

def isKnown (entry : Value × Value) : Bool := (Operator.ofKey? entry.1).isSome

/-- An operator of a condition as a condition of its own. A pattern takes its options with it. -/
def alone (fs : Fields) (entry : Value × Value) : Value :=
  match Operator.ofKey? entry.1 with
  | some .pattern => .object (entry :: fs.filter fun f => f.1.equals (.text "$options"))
  | _ => .object [entry]

theorem isOperatorKey_of_isKnown {entry : Value × Value} (h : isKnown entry = true)
    : isOperatorKey entry.1 = true := by
  unfold isKnown Operator.ofKey? at h
  split at h
  next name hkey =>
    rw [hkey]
    unfold Operator.ofName? at h
    split at h <;> first | rfl | cases h
  . cases h

theorem entryHolds_unknown {entry : Value × Value} (h : isKnown entry = false) (options v : Value)
    : entryHolds options v entry = .ok true := by
  unfold isKnown at h
  unfold entryHolds
  cases ho : Operator.ofKey? entry.1 with
  | none => rfl
  | some o =>
    rw [ho] at h
    cases h

theorem entryHolds_options {entry : Value × Value} (h : Operator.ofKey? entry.1 ≠ some .pattern)
    (options options' v : Value) : entryHolds options v entry = entryHolds options' v entry := by
  unfold entryHolds
  cases ho : Operator.ofKey? entry.1 with
  | none => rfl
  | some o =>
    cases o with
    | pattern => exact absurd ho h
    | _ => rfl

theorem isOperatorObject_cons {entry : Value × Value} (h : isKnown entry = true) (fs : Fields)
    : isOperatorObject (.object (entry :: fs)) = true := by
  unfold isOperatorObject
  dsimp only
  rw [List.any_cons, isOperatorKey_of_isKnown h, Bool.true_or]

theorem getD_options (fs : Fields) {entry : Value × Value}
    (h : Operator.ofKey? entry.1 = some .pattern)
    : Fields.getD (entry :: fs.filter fun f => f.1.equals (.text "$options")) "$options" =
      Fields.getD fs "$options" := by
  have hkey : entry.1.equals (.text "$options") = false := by
    rw [Bool.eq_false_iff, ne_eq, Value.equals_text]
    intro hkey
    rw [hkey] at h
    cases h
  unfold Fields.getD
  rw [Fields.get?_cons, hkey, if_neg Bool.false_ne_true, Fields.get?_filter]
  exact fun f _ hf => Value.equals_text.mpr hf

theorem conditionHolds_alone {fs : Fields} {entry : Value × Value} (hknown : isKnown entry = true)
    (v : Value)
    : conditionHolds v (alone fs entry) = .ok true ↔
      entryHolds (Fields.getD fs "$options") v entry = .ok true := by
  by_cases hpattern : Operator.ofKey? entry.1 = some .pattern
  . have halone : alone fs entry =
        .object (entry :: fs.filter fun f => f.1.equals (.text "$options")) := by
      unfold alone
      rw [hpattern]
    have hoptions : ∀ f ∈ fs.filter fun f => f.1.equals (.text "$options"),
        entryHolds (Fields.getD fs "$options") v f = .ok true := by
      intro f hf
      have hkey := Value.equals_text.mp (List.mem_filter.mp hf).2
      refine entryHolds_unknown ?_ _ _
      unfold isKnown
      rw [hkey]
      rfl
    rw [halone, conditionHolds_operators (isOperatorObject_cons hknown _), getD_options fs hpattern,
      List.forall_mem_cons]
    exact and_iff_left hoptions
  . have halone : alone fs entry = .object [entry] := by
      unfold alone
      split
      next h => exact absurd h hpattern
      . rfl
    rw [halone, conditionHolds_operators (isOperatorObject_cons hknown _),
      List.forall_mem_singleton, entryHolds_options hpattern]

theorem conditionHolds_iff {fs : Fields} (hop : isOperatorObject (.object fs) = true) (v : Value)
    : conditionHolds v (.object fs) = .ok true
      ↔ ∀ e ∈ fs, isKnown e = true → conditionHolds v (alone fs e) = .ok true := by
  rw [conditionHolds_operators hop]
  refine forall₂_congr fun e _ => ?_
  cases hknown : isKnown e with
  | true => rw [conditionHolds_alone hknown, forall_prop_of_true rfl]
  | false =>
    rw [entryHolds_unknown hknown]
    exact iff_of_true rfl fun h => by cases h

theorem getField_text_isOk (fs : Fields) (s : String)
    : ∃ v, getField (.object fs) (.text s) = .ok v := by
  unfold getField
  dsimp only
  rw [if_neg (by simp [Value.isHashable])]
  split
  . exact ⟨_, rfl⟩
  . exact ⟨_, rfl⟩

structure IsConjunction (doc query : Value) : Prop where
  /-- A document that matches is matched by the query in every order, without a fault. -/
  keeps : isMatch doc query = .ok true → ∀ query', Reorders query query' →
    isMatch doc query' = .ok true
  /-- A document that does not match is matched in no order. -/
  denies : isMatch doc query = .ok false → ∀ query', Reorders query query' →
    isMatch doc query' ≠ .ok true
  fields : ∀ conditions, query = .object conditions →
    (isMatch doc query = .ok true ↔ ∀ c ∈ conditions, isMatch doc (.object [c]) = .ok true)
  /-- Operators that are not known add nothing, once the field is found that they are about. -/
  operators : ∀ conditions, query = .object conditions →
    ∀ key fs, (key, .object fs) ∈ conditions → isOperatorObject (.object fs) = true →
      (isMatch doc (.object [(key, .object fs)]) = .ok true ↔ (∃ v, getField doc key = .ok v)
        ∧ ∀ e ∈ fs, isKnown e = true → isMatch doc (.object [(key, alone fs e)]) = .ok true)
  /-- The fields of documents are found by their names. -/
  found : ∀ fs s, doc = .object fs → ∃ v, getField doc (.text s) = .ok v

theorem isMatch_operators {doc key : Value} {fs : Fields}
    (hop : isOperatorObject (.object fs) = true)
    : isMatch doc (.object [(key, .object fs)]) = .ok true ↔ (∃ v, getField doc key = .ok v)
      ∧ ∀ e ∈ fs, isKnown e = true → isMatch doc (.object [(key, alone fs e)]) = .ok true := by
  have hfield : ∀ condition, isMatch doc (.object [(key, condition)]) = .ok true
      ↔ ∃ v, getField doc key = .ok v ∧ conditionHolds v condition = .ok true := by
    intro condition
    rw [isMatch_singleton, fieldHolds_iff]
  rw [hfield]
  cases hget : getField doc key with
  | error kind => exact iff_of_false nofun fun h => nomatch h.1
  | ok v =>
    have hvalue : ∀ condition,
      (∃ w, (Except.ok v : Except Fault Value) = .ok w ∧ conditionHolds w condition = .ok true)
        ↔ conditionHolds v condition = .ok true :=
      fun condition => ⟨fun ⟨_, h, hholds⟩ => by cases h; exact hholds, fun h => ⟨v, rfl, h⟩⟩
    rw [hvalue, conditionHolds_iff hop]
    refine ⟨fun h => ⟨⟨v, rfl⟩, fun e he hknown => ?_⟩, fun h e he hknown => ?_⟩
    . rw [hfield, hget, hvalue]
      exact h e he hknown
    . have hmatch := h.2 e he hknown
      rwa [hfield, hget, hvalue] at hmatch

/--
Whatever a document and a query are, the query holds if all that it asks for holds by itself, and
the order in which it asks does not matter.
-/
theorem isMatch_isConjunction (doc : Value) {query : Value} (honce : AsksOnce query)
    : IsConjunction doc query where
  keeps h _ hreorders := (hreorders.isMatch_iff honce doc).mpr h
  denies h _ hreorders hmatch := by
    rw [(hreorders.isMatch_iff honce doc).mp hmatch] at h
    cases h
  fields := by
    rintro conditions rfl
    exact isMatch_iff
  operators := by
    rintro conditions rfl key fs _ hop
    exact isMatch_operators hop
  found := by
    rintro fs s rfl
    exact getField_text_isOk fs s

def adultAnn : Value := .ofFields [("name", .text "Ann"), ("age", .int 30)]

def adultsByName : Value :=
  .ofFields [("name", .ofFields [("$regex", .text "^a"), ("$options", .text "i")]),
    ("age", .ofFields [("$gte", .int 18), ("$near", .int 1), ("$lt", .int 65)])]

def adultsByAge : Value :=
  .ofFields [("age", .ofFields [("$near", .int 1), ("$lt", .int 65), ("$gte", .int 18)]),
    ("name", .ofFields [("$options", .text "i"), ("$regex", .text "^a")])]

theorem adultsByName_asksOnce : AsksOnce adultsByName := by
  rintro conditions ⟨⟩ c hc fs hfs
  simp only [List.map_cons, List.map_nil, List.mem_cons, List.not_mem_nil, or_false] at hc
  rcases hc with rfl | rfl
  . cases hfs
    decide +kernel
  . cases hfs
    decide +kernel

theorem adultsByName_reorders : Reorders adultsByName adultsByAge := by
  refine .perm (List.Perm.swap ..)
    (.cons ⟨rfl, .perm rfl ?_⟩ (.cons ⟨rfl, .perm rfl (List.Perm.swap ..)⟩ .nil))
  exact (List.Perm.swap ..).trans ((List.Perm.swap ..).cons _)

theorem isMatch_isConjunction_adults
    : AsksOnce adultsByName ∧ isMatch adultAnn adultsByName = .ok true ∧
      isMatch adultAnn adultsByAge = .ok true := by
  have hmatch : isMatch adultAnn adultsByName = .ok true := by with_unfolding_all rfl
  have hconjunction := isMatch_isConjunction adultAnn adultsByName_asksOnce
  exact ⟨adultsByName_asksOnce, hmatch, hconjunction.keeps hmatch _ adultsByName_reorders⟩

end DocStore

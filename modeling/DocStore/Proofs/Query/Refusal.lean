import DocStore.Proofs.Value.Stored
import DocStore.Proofs.Work
import DocStore.Query.Match

/-!
This module contains what a query can be refused for. What is wrong with a query is found on the
first document that it is evaluated on in full, but for a match with a group that ends before it
begins: such a match depends on the text that it is looked for in.
-/

namespace DocStore

open Work

theorem Value.IsStored.normalizeId {v : Value} (h : v.IsStored) : v.normalizeId.IsStored := by
  cases h with
  | id i => exact .text _
  | null => exact .null
  | bool b => exact .bool b
  | int h => exact .int h
  | long h => exact .long h
  | double x => exact .double x
  | text s => exact .text s
  | date h => exact .date h
  | list h => exact .list h
  | bytes bs => exact .bytes bs
  | binary t bs => exact .binary t bs
  | object keyed h => exact .object keyed h
  | storedRegex s bits => exact .storedRegex s bits
  | minKey => exact .minKey
  | maxKey => exact .maxKey
  | timestamp ht hi => exact .timestamp ht hi

theorem followPath_isStored {v : Value} (h : v.IsStored) (ps : List (List Char))
    : (followPath ps v).IsStored := by
  induction ps generalizing v with
  | nil => exact h
  | cons p ps ih =>
    unfold followPath
    split
    . assumption
    next heq =>
      cases heq
      rw [Fields.isStored_object] at h
      split
      . exact .null
      next w _ hw =>
        apply ih
        cases hget : Fields.get? _ (.ofText _) with
        | none => exact .null
        | some u => exact h.get hget
    . exact .null

theorem lookupPath_isStored {v key w : Value} (h : v.IsStored) (hw : lookupPath v key = .ok w)
    : w.IsStored := by
  have hplain : ∀ xs, lookupPath.plain xs = .ok w → w.IsStored := by
    intro xs hxs
    unfold lookupPath.plain at hxs
    split at hxs
    . cases hxs
    . cases hxs
      exact .null
  unfold lookupPath at hw
  split at hw
  . cases hw
    split
    . exact followPath_isStored h _
    . exact .null
  . exact hplain _ hw
  . exact hplain _ hw
  . exact hplain _ hw
  . exact hplain _ hw
  . cases hw

theorem getField_isStored {fs : Fields} {key v : Value} (h : fs.IsStored)
    (hv : getField (.object fs) key = .ok v) : v.IsStored := by
  unfold getField at hv
  dsimp only at hv
  split at hv
  . cases hv
  . split at hv
    next hw =>
      cases hv
      exact h.get hw
    . exact lookupPath_isStored (Fields.isStored_object.mpr h) hv

theorem Fields.IsKeyed.get?_eq_none {fs : Fields} (h : fs.IsKeyed) {key : Value}
    (hkey : ∀ s, key ≠ .text s)
    : fs.get? key = none := by
  unfold Fields.get?
  rw [Option.map_eq_none_iff, List.find?_eq_none]
  intro f hf he
  obtain ⟨s, hs⟩ := h.keys f hf
  rw [hs, Value.text_equals] at he
  exact hkey s he

theorem getField_isOk {fs gs : Fields} {key v : Value} (hf : fs.IsKeyed) (hg : gs.IsKeyed)
    (hv : getField (.object fs) key = .ok v) : ∃ w, getField (.object gs) key = .ok w := by
  unfold getField at hv ⊢
  dsimp only at hv ⊢
  split at hv
  . cases hv
  next hhash =>
    rw [if_neg hhash]
    by_cases hkey : ∃ s, key = .text s
    . obtain ⟨s, rfl⟩ := hkey
      split
      . exact ⟨_, rfl⟩
      . exact ⟨_, rfl⟩
    . have hne : ∀ s, key ≠ .text s := fun s hs => hkey ⟨s, hs⟩
      rw [hf.get?_eq_none hne] at hv
      rw [hg.get?_eq_none hne]
      refine ⟨v, ?_⟩
      cases key with
      | text s => exact absurd rfl (hne s)
      | _ => exact hv

theorem getField_plain {s : String} (hs : s.toList.contains '.' = false) (doc : Fields)
    : getField (.object doc) (.text s) = .ok (Fields.getD doc s) := by
  unfold getField Fields.getD
  dsimp only
  rw [if_neg (by simp [Value.isHashable])]
  cases hget : Fields.get? doc (.text s) with
  | some v => rfl
  | none =>
    dsimp only [lookupPath]
    rw [hs]
    rfl

theorem searchText_isOk {v : Value} (h : v.IsStored) : ∃ s, v.searchText = .ok s := by
  unfold Value.searchText
  split
  . exact ⟨_, rfl⟩
  . rw [h.normalizeId.plain?]
    exact ⟨_, rfl⟩

theorem occursIn_error {r : Pattern.Regex} {text : List Char} {kind : Fault}
    (h : r.occursIn text = .error kind) : kind = .crossedGroup := by
  unfold Pattern.Regex.occursIn at h
  split at h
  . cases h
  . split at h
    . cases h
      rfl
    . cases h

def Error.isCrossed (e : Error) : Prop := e = .fault .crossedGroup

theorem patternMatches_error {v w pattern options : Value} {e : Error} (hw : w.IsStored)
    (hv : patternMatches v pattern options = .ok true)
    (he : patternMatches w pattern options = .error e)
    : e.isCrossed := by
  have hregex : ∃ r, pattern.toRegex options = .ok r := by
    cases v with
    | null => cases hv
    | _ =>
      obtain ⟨_, _, hv⟩ := then_ok hv
      obtain ⟨r, hr, _⟩ := then_ok hv
      exact ⟨r, hr⟩
  obtain ⟨r, hr⟩ := hregex
  obtain ⟨s, hs⟩ := searchText_isOk hw
  have hcrossed : (r.occursIn s).mapError Error.fault = .error e → e.isCrossed := by
    intro h
    cases ho : r.occursIn s with
    | ok b =>
      rw [ho] at h
      cases h
    | error kind =>
      rw [ho] at h
      cases h
      rw [occursIn_error ho]
      rfl
  have hsearch : (do
      let text ← w.searchText
      let r ← pattern.toRegex options
      (r.occursIn text).mapError .fault : Except Error Bool) = .error e → e.isCrossed := by
    rw [hs, hr]
    exact hcrossed
  cases w with
  | null => cases he
  | _ => exact hsearch he

theorem isAmong_error {operator : String} {v w candidates : Value} {b : Bool} {e : Error}
    (hv : isAmong operator v candidates = .ok b) : isAmong operator w candidates ≠ .error e := by
  intro he
  unfold isAmong at hv he
  split at he
  . cases he
  . cases he
  . cases he
  . simp at hv

theorem holds_error {o : Operator} {operand options v w : Value} {e : Error} (hw : w.IsStored)
    (hv : o.holds operand options v = .ok true) (he : o.holds operand options w = .error e)
    : e.isCrossed := by
  cases o with
  | equal => cases he
  | unequal => cases he
  | ordered r => cases he
  | among => exact absurd he (isAmong_error hv)
  | notAmong =>
    unfold Operator.holds at hv he
    dsimp only at hv he
    obtain ⟨b, hb, _⟩ := map_ok hv
    cases ho : isAmong "$nin" w operand with
    | ok c =>
      rw [ho] at he
      cases he
    | error e' => exact absurd ho (isAmong_error hb)
  | pattern => exact patternMatches_error hw hv he

theorem allHold_ok {α : Type} {test : α → Except Error Bool} {xs : List α}
    (h : allHold test xs = .ok true)
    : ∀ x ∈ xs, test x = .ok true := by
  induction xs with
  | nil => simp
  | cons x xs ih =>
    unfold allHold at h
    obtain ⟨b, hb, h⟩ := then_ok h
    split at h
    next hbt =>
      intro y hy
      rw [List.mem_cons] at hy
      cases hy with
      | inl hy =>
        rw [hy, hb, hbt]
      | inr hy => exact ih h y hy
    . cases h

theorem allHold_error {α : Type} {test : α → Except Error Bool} {xs : List α} {e : Error}
    (h : allHold test xs = .error e) : ∃ x ∈ xs, test x = .error e := by
  induction xs with
  | nil => cases h
  | cons x xs ih =>
    unfold allHold at h
    cases hx : test x with
    | error e' =>
      rw [hx] at h
      cases h
      exact ⟨x, List.mem_cons_self .., hx⟩
    | ok b =>
      rw [hx] at h
      cases b with
      | false => cases h
      | true =>
        obtain ⟨y, hy, he⟩ := ih h
        exact ⟨y, List.mem_cons_of_mem _ hy, he⟩

theorem conditionHolds_error {v w condition : Value} {e : Error} (hw : w.IsStored)
    (hv : conditionHolds v condition = .ok true) (he : conditionHolds w condition = .error e)
    : e.isCrossed := by
  unfold conditionHolds at hv he
  split at he
  . split at he
    next hop =>
      simp only [hop, if_true] at hv
      obtain ⟨entry, hentry, hee⟩ := allHold_error he
      have hve := allHold_ok hv entry hentry
      unfold entryHolds at hve hee
      split at hee
      next o ho =>
        rw [ho] at hve
        exact holds_error hw hve hee
      . cases hee
    . cases he
  . cases he

theorem fieldHolds_error {fs gs : Fields} {entry : Value × Value} {e : Error} (hf : fs.IsStored)
    (hg : gs.IsStored) (hv : fieldHolds (.object fs) entry = .ok true)
    (he : fieldHolds (.object gs) entry = .error e) : e.isCrossed := by
  unfold fieldHolds at hv he
  obtain ⟨v, hget, hv⟩ := then_ok hv
  have hgetf : getField (.object fs) entry.1 = .ok v := by
    cases hx : getField (.object fs) entry.1 with
    | ok u =>
      rw [hx] at hget
      cases hget
      rfl
    | error k =>
      rw [hx] at hget
      cases hget
  obtain ⟨w, hgetg⟩ := getField_isOk hf.keyed hg.keyed hgetf
  rw [hgetg] at he
  exact conditionHolds_error (getField_isStored hg hgetg) hv he

theorem isMatch_error {fs gs : Fields} {query : Value} {e : Error} (hf : fs.IsStored)
    (hg : gs.IsStored) (hv : isMatch (.object fs) query = .ok true)
    (he : isMatch (.object gs) query = .error e)
    : e.isCrossed := by
  unfold isMatch at hv he
  split at he
  . cases he
  next htruthy =>
    rw [if_neg htruthy] at hv
    split at he
    . obtain ⟨entry, hentry, hee⟩ := allHold_error he
      exact fieldHolds_error hf hg (allHold_ok hv entry hentry) hee
    . simp at hv

end DocStore

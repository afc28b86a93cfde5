import Mathlib.Data.List.Forall2
import DocStore.Engine.Search
import DocStore.Proofs.Work

/-!
This module contains the documents that a query selects: however a list of documents is walked
through, to find, to count, to change or to drop, the query holds of the same ones.
-/

namespace DocStore

open Work

namespace Collection

def holds (query : Value) (doc : Fields) : Bool :=
  match isMatch (.object doc) query with
  | .ok b => b
  | .error _ => false

def selected (query : Value) (docs : List Fields) : List Fields := docs.filter (holds query)

def IsEvaluated (query : Value) (docs : List Fields) : Prop :=
  ∀ d ∈ docs, ∃ b, isMatch (.object d) query = .ok b

instance (query : Value) (docs : List Fields) : Decidable (IsEvaluated query docs) :=
  decidable_of_iff (∀ d ∈ docs, (isMatch (.object d) query).isOk = true)
    (forall_congr' fun _ => imp_congr_right fun _ => isOk_iff)

section

variable {query : Value} {doc : Fields} {docs : List Fields}

theorem IsEvaluated.head (h : IsEvaluated query (doc :: docs))
    : isMatch (.object doc) query = .ok (holds query doc) := by
  obtain ⟨b, hb⟩ := h doc (List.mem_cons_self ..)
  unfold holds
  rw [hb]

theorem IsEvaluated.tail (h : IsEvaluated query (doc :: docs)) : IsEvaluated query docs :=
  fun d hd => h d (List.mem_cons_of_mem _ hd)

theorem matching_eq (h : IsEvaluated query docs)
    : matching query docs = .ok (selected query docs) := by
  induction docs with
  | nil => rfl
  | cons doc docs ih =>
    unfold matching selected
    rw [h.head, ih h.tail, List.filter_cons]
    cases holds query doc <;> rfl

theorem unmatched_eq (h : IsEvaluated query docs)
    : unmatched query docs = .ok (docs.filter (!holds query ·)) := by
  induction docs with
  | nil => rfl
  | cons doc docs ih =>
    unfold unmatched
    rw [h.head, ih h.tail, List.filter_cons]
    cases holds query doc <;> rfl

theorem isEvaluated_of_not_isTruthy (h : query.isTruthy = false) (docs : List Fields)
    : IsEvaluated query docs := by
  intro d _
  unfold isMatch
  rw [h]
  exact ⟨true, rfl⟩

theorem selected_of_not_isTruthy (h : query.isTruthy = false) (docs : List Fields)
    : selected query docs = docs := by
  unfold selected
  rw [List.filter_eq_self]
  intro d _
  unfold holds isMatch
  rw [h]
  rfl

theorem count_eq (h : IsEvaluated query docs)
    : count docs query = .ok (selected query docs).length := by
  unfold count
  cases htruthy : query.isTruthy with
  | false => rw [selected_of_not_isTruthy htruthy, if_neg (by decide)]
  | true =>
    rw [matching_eq h, if_pos rfl]
    rfl

theorem find_eq (h : IsEvaluated query docs)
    : find docs query 0 0 .null = .ok ((selected query docs).map .object) := by
  unfold find
  rw [matching_eq h]
  rfl

theorem length_selected_add (query : Value) (docs : List Fields)
    : (selected query docs).length + (docs.filter (!holds query ·)).length = docs.length :=
  List.length_eq_length_filter_add (holds query) |>.symm

def IsMergedWhere (query patch : Value) (now : Moment) (doc doc' : Fields) : Prop :=
  if holds query doc then merge doc patch now = .ok doc' else doc' = doc

theorem mergeMatching_ok {patch : Value} {now : Moment} {n : Nat} {docs' : List Fields}
    (h : IsEvaluated query docs) (hm : mergeMatching query patch now docs = (.ok n, docs'))
    : n = (selected query docs).length ∧
      List.Forall₂ (IsMergedWhere query patch now) docs docs' := by
  induction docs generalizing n docs' with
  | nil =>
    cases hm
    exact ⟨rfl, .nil⟩
  | cons doc docs ih =>
    rcases hrest : mergeMatching query patch now docs with ⟨r, rest⟩
    have hhead := h.head
    unfold mergeMatching at hm
    rw [hhead, hrest] at hm
    unfold selected
    rw [List.filter_cons]
    cases hholds : holds query doc with
    | false =>
      rw [hholds] at hm
      cases hm
      obtain ⟨hn, hall⟩ := ih h.tail hrest
      refine ⟨hn, .cons ?_ hall⟩
      unfold IsMergedWhere
      rw [hholds, if_neg (by decide)]
    | true =>
      rw [hholds] at hm
      cases hmerge : merge doc patch now with
      | error e =>
        rw [hmerge] at hm
        cases hm
      | ok merged =>
        rw [hmerge] at hm
        dsimp only at hm
        cases r with
        | error e => cases hm
        | ok k =>
          cases hm
          obtain ⟨hn, hall⟩ := ih h.tail hrest
          refine ⟨by rw [hn]; rfl, .cons ?_ hall⟩
          unfold IsMergedWhere
          rw [hholds, if_pos rfl, hmerge]

theorem mergeMatching_object (h : IsEvaluated query docs) (fs : Fields) (now : Moment)
    : ∃ n docs', mergeMatching query (.object fs) now docs = (.ok n, docs') := by
  induction docs with
  | nil => exact ⟨0, [], rfl⟩
  | cons doc docs ih =>
    obtain ⟨n, docs', hrest⟩ := ih h.tail
    unfold mergeMatching
    rw [h.head, hrest]
    cases holds query doc with
    | false => exact ⟨_, _, rfl⟩
    | true => exact ⟨_, _, rfl⟩

end

end Collection

end DocStore

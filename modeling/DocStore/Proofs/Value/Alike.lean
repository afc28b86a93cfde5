import DocStore.Proofs.Extended.Reread

/-!
This module contains the equality of values in which what is no number is equal to itself, and the
values that are equal to what they are read as when they are written and read again: those with
moments in whole milliseconds.
-/

namespace DocStore

namespace Value

mutual

/--
The value with a token, which is equal to itself, in the place of everything that is no number.
-/
def masked : Value → Value
  | .double .nan => .token 0
  | .list xs => .list (maskedItems xs)
  | .tuple xs => .tuple (maskedItems xs)
  | .set frozen xs => .set frozen (maskedItems xs)
  | .object fs => .object (maskedFields fs)
  | v => v

def maskedItems : List Value → List Value
  | [] => []
  | x :: xs => x.masked :: maskedItems xs

def maskedFields : List (Value × Value) → List (Value × Value)
  | [] => []
  | (k, v) :: fs => (k, v.masked) :: maskedFields fs

end

def alike (v w : Value) : Bool := v.masked.equals w.masked

mutual

def isWhole : Value → Bool
  | .date m => m.wall % 1000 = 0
  | .list xs => areWhole xs
  | .tuple xs => areWhole xs
  | .set _ xs => areWhole xs
  | .object fs => haveWhole fs
  | _ => true

def areWhole : List Value → Bool
  | [] => true
  | x :: xs => x.isWhole && areWhole xs

def haveWhole : List (Value × Value) → Bool
  | [] => true
  | (_, v) :: fs => v.isWhole && haveWhole fs

end

theorem maskedItems_eq_map (xs : List Value) : maskedItems xs = xs.map masked := by
  induction xs with
  | nil => rfl
  | cons x xs ih => rw [maskedItems, ih, List.map_cons]

theorem maskedFields_eq_map (fs : Fields)
    : maskedFields fs = fs.map fun f => (f.1, f.2.masked) := by
  induction fs with
  | nil => rfl
  | cons f fs ih =>
    rw [maskedFields, ih]
    rfl

theorem areWhole_eq_all (xs : List Value) : areWhole xs = xs.all isWhole := by
  induction xs with
  | nil => rfl
  | cons x xs ih => rw [areWhole, ih, List.all_cons]

theorem haveWhole_eq_all (fs : Fields) : haveWhole fs = fs.all fun f => f.2.isWhole := by
  induction fs with
  | nil => rfl
  | cons f fs ih =>
    rw [haveWhole, ih]
    rfl

theorem equalLists_map (f g : Value → Value) (xs : List Value)
    : equalLists (xs.map f) (xs.map g) = xs.all fun x => (f x).equals (g x) := by
  induction xs with
  | nil => rw [List.map_nil, List.map_nil, equalLists, List.all_nil]
  | cons x xs ih => rw [List.map_cons, List.map_cons, equalLists, ih, List.all_cons]

theorem allFields_eq_all (fs gs : Fields)
    : allFields fs gs = fs.all fun f => gs.any fun g => f.1.equals g.1 && f.2.equals g.2 := by
  induction fs with
  | nil => rw [allFields, List.all_nil]
  | cons f fs ih => rw [allFields, ih, List.all_cons]

theorem allFields_map {fs : Fields} (h : fs.IsKeyed) (f g : Value → Value)
    : allFields (fs.map fun p => (p.1, f p.2)) (fs.map fun p => (p.1, g p.2))
      = fs.all fun p => (f p.2).equals (g p.2) := by
  have hfield : ∀ p ∈ fs, (fs.any fun q => p.1.equals q.1 && (f p.2).equals (g q.2)) =
      (f p.2).equals (g p.2) := by
    intro p hp
    obtain ⟨s, hs⟩ := h.keys p hp
    rw [Bool.eq_iff_iff, List.any_eq_true]
    constructor
    . rintro ⟨q, hq, he⟩
      rw [Bool.and_eq_true, hs, text_equals] at he
      have hqp : q = p := List.inj_on_of_nodup_map h.nodup hq hp (he.1.trans hs.symm)
      rw [hqp] at he
      exact he.2
    . intro he
      refine ⟨p, hp, ?_⟩
      rw [Bool.and_eq_true, hs, text_equals]
      exact ⟨rfl, he⟩
  rw [allFields_eq_all, List.all_map, Bool.eq_iff_iff, List.all_eq_true, List.all_eq_true]
  refine forall₂_congr fun p hp => ?_
  rw [Function.comp_apply, List.any_map]
  exact Bool.eq_iff_iff.mp (hfield p hp)

theorem sameAs_truncateToMillis (wall : Int)
    : (Moment.utc wall).sameAs (Moment.utc wall).truncateToMillis = decide (wall % 1000 = 0) := by
  have htruncate : (Moment.utc wall).truncateToMillis = .utc (wall / 1000 * 1000) := rfl
  unfold Moment.sameAs
  rw [htruncate, Extended.instant_utc, Extended.instant_utc, decide_eq_decide]
  simp only [Moment.utc, true_and]
  omega

theorem masked_double_equals (x : Double)
    : (Value.double x).masked.equals (Value.double x).masked = true := by
  cases x with
  | nan => simp [masked, equals]
  | infinite negative => cases negative <;> simp [masked, equals, Double.order?]
  | finite negative rank => cases negative <;> simp [masked, equals, Double.order?]

theorem alike_reread {v : Value} (hv : v.IsRead) : v.alike v.reread = v.isWhole := by
  unfold alike
  induction hv with
  | double x => exact masked_double_equals x
  | date h =>
    simp only [masked, reread, equals, isWhole]
    exact sameAs_truncateToMillis _
  | list _ ih =>
    rw [reread_list, masked, masked, maskedItems_eq_map, maskedItems_eq_map, List.map_map, equals,
      equalLists_map, isWhole, areWhole_eq_all, Bool.eq_iff_iff, List.all_eq_true, List.all_eq_true]
    exact forall₂_congr fun x hx => Bool.eq_iff_iff.mp (ih x hx)
  | @object fs keyed own _ ih =>
    have hreread : fs.reread.map (fun f => (f.1, f.2.masked)) =
        fs.map fun f => (f.1, f.2.reread.masked) := by
      unfold Fields.reread
      rw [List.map_map]
      rfl
    rw [reread_object, masked, masked, maskedFields_eq_map, maskedFields_eq_map, hreread, equals,
      List.length_map, List.length_map, allFields_map keyed masked fun v =>
        v.reread.masked, decide_eq_true rfl, Bool.true_and, isWhole, haveWhole_eq_all,
          Bool.eq_iff_iff, List.all_eq_true, List.all_eq_true]
    exact forall₂_congr fun f hf => Bool.eq_iff_iff.mp (ih f hf)
  | _ => simp [masked, reread, isWhole, equals, equalsInteger, integer?]

theorem reread_equals {v : Value} (hv : v.IsRead)
    : v.reread.equals v = (v.isWhole && v.equals v) := by
  induction hv with
  | @date wall h =>
    have hsame : (Moment.utc wall).truncateToMillis.sameAs (Moment.utc wall)
        = (Moment.utc wall).sameAs (Moment.utc wall).truncateToMillis := by
      unfold Moment.sameAs
      rw [decide_eq_decide, and_congr eq_comm eq_comm]
    have hself : (Moment.utc wall).sameAs (Moment.utc wall) = true := by simp [Moment.sameAs]
    simp only [reread, equals, isWhole]
    rw [hsame, hself, Bool.and_true]
    exact sameAs_truncateToMillis _
  | @list xs _ ih =>
    have hself : equalLists xs xs = xs.all fun x => x.equals x := by
      simpa using equalLists_map (fun v => v) (fun v => v) xs
    have hreread : equalLists (xs.map reread) xs = xs.all fun x => x.reread.equals x := by
      simpa using equalLists_map reread (fun v => v) xs
    rw [reread_list, equals, hreread, isWhole, areWhole_eq_all, equals, hself, Bool.eq_iff_iff,
      Bool.and_eq_true, List.all_eq_true, List.all_eq_true, List.all_eq_true, ← forall₂_and]
    exact forall₂_congr fun x hx => by rw [ih x hx, Bool.and_eq_true]
  | @object fs keyed own _ ih =>
    have hself : allFields fs fs = fs.all fun f => f.2.equals f.2 := by
      simpa using allFields_map keyed (fun v => v) fun v => v
    have hreread : allFields fs.reread fs = fs.all fun f => f.2.reread.equals f.2 := by
      unfold Fields.reread
      simpa using allFields_map keyed reread fun v => v
    have hlength : fs.reread.length = fs.length := List.length_map ..
    rw [reread_object, equals, hreread, hlength, isWhole, haveWhole_eq_all, equals, hself,
      decide_eq_true rfl, Bool.true_and, Bool.true_and, Bool.eq_iff_iff, Bool.and_eq_true,
      List.all_eq_true, List.all_eq_true, List.all_eq_true, ← forall₂_and]
    exact forall₂_congr fun f hf => by rw [ih f hf, Bool.and_eq_true]
  | _ => simp [reread, isWhole, equals, equalsInteger, integer?]

theorem IsStored.alike_refl {v : Value} (hv : v.IsStored) : v.alike v = true := by
  unfold alike
  induction hv with
  | double x => exact masked_double_equals x
  | list _ ih =>
    rw [masked, maskedItems_eq_map, equals, equalLists_map, List.all_eq_true]
    exact ih
  | @object fs keyed _ ih =>
    rw [masked, maskedFields_eq_map, equals, allFields_map keyed masked masked, decide_eq_true rfl,
      Bool.true_and, List.all_eq_true]
    exact ih
  | _ => simp [masked, equals, equalsInteger, integer?, Moment.sameAs]

end Value

end DocStore

import Mathlib.Data.List.Sublists
import DocStore.Proofs.Extended.Date
import DocStore.Proofs.Text.Base64
import DocStore.Proofs.Text.Hex

/-!
This module contains what a value that was read is read as when it is written and read again: the
same value, except that an integer has lost its mark and a moment the part of a millisecond.
-/

namespace DocStore

namespace Value

mutual

def reread : Value → Value
  | .long n => .int n
  | .date m => .date m.truncateToMillis
  | .list xs => .list (rereadItems xs)
  | .object fs => .object (rereadFields fs)
  | v => v

def rereadItems : List Value → List Value
  | [] => []
  | x :: xs => x.reread :: rereadItems xs

def rereadFields : List (Value × Value) → List (Value × Value)
  | [] => []
  | (k, v) :: fs => (k, v.reread) :: rereadFields fs

end

theorem rereadItems_eq_map (xs : List Value) : rereadItems xs = xs.map reread := by
  induction xs with
  | nil => rfl
  | cons x xs ih => rw [rereadItems, ih, List.map_cons]

end Value

def Fields.reread (fs : Fields) : Fields := fs.map fun f => (f.1, f.2.reread)

namespace Value

theorem rereadFields_eq (fs : Fields) : rereadFields fs = fs.reread := by
  induction fs with
  | nil => rfl
  | cons f fs ih =>
    rw [rereadFields, ih]
    rfl

theorem reread_list (xs : List Value) : (Value.list xs).reread = .list (xs.map reread) := by
  rw [reread, rereadItems_eq_map]

theorem reread_object (fs : Fields) : (Value.object fs).reread = .object fs.reread := by
  rw [reread, rereadFields_eq]

theorem map_reread_object (docs : List Fields)
    : (docs.map Value.object).map reread = (docs.map Fields.reread).map .object := by
  rw [List.map_map, List.map_map]
  exact List.map_congr_left fun doc _ => reread_object doc

theorem reread_eq_null {v : Value} (h : v.reread = .null) : v = .null := by
  cases v with
  | list xs =>
    rw [reread_list] at h
    cases h
  | object fs =>
    rw [reread_object] at h
    cases h
  | _ => cases h <;> rfl

end Value

theorem Fields.length_reread (fs : Fields) : List.length fs.reread = List.length fs :=
  List.length_map ..

theorem Fields.get?_reread (fs : Fields) (k : Value)
    : Fields.get? fs.reread k = (Fields.get? fs k).map Value.reread := by
  induction fs with
  | nil => rfl
  | cons f fs ih =>
    change Fields.get? ((f.1, f.2.reread) :: Fields.reread fs) k = _
    rw [get?_cons, get?_cons, ih]
    split <;> rfl

theorem Fields.getD_reread (fs : Fields) (s : String)
    : Fields.getD fs.reread s = (Fields.getD fs s).reread := by
  unfold Fields.getD
  rw [get?_reread]
  cases Fields.get? fs (.text s) <;> rfl

theorem Fields.IsKeyed.reread {fs : Fields} (h : fs.IsKeyed) : fs.reread.IsKeyed := by
  apply h.congr
  unfold Fields.reread
  rw [List.map_map]
  rfl

namespace Extended

open Moment Work

variable {layout : Layout}

theorem firstMark?_eq_none {fs : Fields} (h : ∀ f ∈ fs, ∀ s, f.1 = .text s → Mark.ofName? s = none)
    : firstMark? fs = none := by
  unfold firstMark?
  rw [List.findSome?_eq_none_iff]
  intro f hf
  split
  next s hs => rw [h f hf s hs, Option.map_none]
  . rfl

theorem firstMark?_reread (fs : Fields)
    : firstMark? fs.reread = (firstMark? fs).map fun p => (p.1, p.2.reread) := by
  unfold firstMark? Fields.reread
  induction fs with
  | nil => rfl
  | cons f fs ih =>
    obtain ⟨k, v⟩ := f
    rw [List.map_cons, List.findSome?_cons, List.findSome?_cons, ih]
    cases k with
    | text s =>
      dsimp only
      cases Mark.ofName? s <;> rfl
    | _ => rfl

theorem isText_reread (v : Value) : isText v.reread = isText v := by
  cases v with
  | list xs => rw [Value.reread_list]; rfl
  | object fs => rw [Value.reread_object]; rfl
  | _ => rfl

theorem isBytes_reread (v : Value) : isBytes v.reread = isBytes v := by
  cases v with
  | list xs => rw [Value.reread_list]; rfl
  | object fs => rw [Value.reread_object]; rfl
  | _ => rfl

theorem isTextOrNull_reread (v : Value) : isTextOrNull v.reread = isTextOrNull v := by
  cases v with
  | list xs => rw [Value.reread_list]; rfl
  | object fs => rw [Value.reread_object]; rfl
  | _ => rfl

theorem areReference_reread (fs : Fields) : areReference fs.reread = areReference fs := by
  unfold areReference
  rw [Fields.get?_reread, Option.isSome_map, Fields.getD_reread, Fields.getD_reread, isText_reread,
    isTextOrNull_reread]

theorem areTyped_reread (fs : Fields) : areTyped fs.reread = areTyped fs := by
  unfold areTyped
  rw [firstMark?_reread]
  cases firstMark? fs with
  | none => rfl
  | some p =>
    obtain ⟨mark, v⟩ := p
    dsimp only [Option.map_some]
    rw [isText_reread, isBytes_reread, areReference_reread]

mutual

theorem holdsTyped_reread (v : Value) : holdsTyped v.reread = holdsTyped v := by
  cases v with
  | list xs =>
    rw [Value.reread, holdsTyped, holdsTyped]
    exact haveTyped_reread xs
  | object fs =>
    rw [Value.reread, holdsTyped, holdsTyped, fieldsHaveTyped_reread fs, Value.rereadFields_eq,
      areTyped_reread]
  | _ => rfl

theorem haveTyped_reread (xs : List Value) : haveTyped (Value.rereadItems xs) = haveTyped xs := by
  cases xs with
  | nil => rfl
  | cons x xs =>
    rw [Value.rereadItems, haveTyped, haveTyped, holdsTyped_reread x, haveTyped_reread xs]

theorem fieldsHaveTyped_reread (fs : List (Value × Value))
    : fieldsHaveTyped (Value.rereadFields fs) = fieldsHaveTyped fs := by
  cases fs with
  | nil => rfl
  | cons f fs =>
    obtain ⟨k, v⟩ := f
    rw [Value.rereadFields, fieldsHaveTyped, fieldsHaveTyped, holdsTyped_reread v,
      fieldsHaveTyped_reread fs]

end

theorem letter_reread {v : Value} {c : Char} (h : optionsBits.letter v = .ok c)
    : optionsBits.letter v.reread = .ok c := by
  cases v with
  | list xs => cases h
  | object fs => cases h
  | _ => exact h

theorem letters_reread {xs : List Value} {cs : List Char} (h : xs.mapM optionsBits.letter = .ok cs)
    : (xs.map Value.reread).mapM optionsBits.letter = .ok cs := by
  induction xs generalizing cs with
  | nil => exact h
  | cons x xs ih =>
    rw [List.mapM_cons] at h
    obtain ⟨c, hc, h⟩ := then_ok h
    obtain ⟨cs', hcs, h⟩ := then_ok h
    cases h
    rw [List.map_cons, List.mapM_cons, letter_reread hc, ih hcs]
    rfl

theorem optionsBits_reread {v : Value} {bits : Int} (h : optionsBits v = .ok bits)
    : optionsBits v.reread = .ok bits := by
  cases v with
  | list xs =>
    rw [optionsBits] at h
    obtain ⟨cs, hcs, h⟩ := then_ok h
    rw [Value.reread_list, optionsBits, letters_reread hcs]
    exact h
  | object fs =>
    rw [Value.reread_object, optionsBits, Fields.reread, List.mapM_map]
    exact h
  | _ => first | exact h | cases h

theorem oldOptions_reread {fs : Fields} {bits : Int} (h : oldOptions fs = .ok bits)
    : oldOptions fs.reread = .ok bits := by
  unfold oldOptions at h ⊢
  rw [Fields.get?_reread]
  cases hget : Fields.get? fs (.text "$options") with
  | none =>
    rw [hget] at h
    exact h
  | some v =>
    rw [hget] at h
    exact optionsBits_reread h

theorem IsLeftOut.reread {fs : Fields} (h : IsLeftOut fs) : IsLeftOut fs.reread := by
  have hmark : ∀ {mark v}, firstMark? fs = some (mark, v) →
      firstMark? fs.reread = some (mark, v.reread) :=
    fun first => by rw [firstMark?_reread, first, Option.map_some]
  have hlength : fs.length = 1 → fs.reread.length = 1 := fs.length_reread.trans
  cases h with
  | around first h =>
    unfold areAround at h
    refine .around (hmark first) ?_
    unfold areAround
    rwa [Fields.getD_reread, holdsTyped_reread, holdsTyped_reread]
  | reference first => exact .reference (hmark first)
  | code first only scope =>
    refine .code (hmark first) ?_ ?_
    . intro f hf
      obtain ⟨g, hg, rfl⟩ := List.mem_map.mp hf
      exact only g hg
    . rw [Fields.getD_reread]
      rcases scope with h | ⟨gs, h⟩
      . exact .inl (by rw [h]; rfl)
      . exact .inr ⟨Fields.reread gs, by rw [h, Value.reread_object]⟩
  | decimal first only => exact .decimal (hmark first) (hlength only)
  | oldPattern first bytes options =>
    exact .oldPattern (hmark first) ((isBytes_reread _).trans bytes) (oldOptions_reread options)
  | @pattern parts _ _ first only two options pattern bytes =>
    have hparts := hmark first
    rw [Value.reread_object] at hparts
    have htwo := (Fields.length_reread parts).trans two
    have hoptions := (Fields.get?_reread parts _).trans (congrArg (Option.map Value.reread) options)
    have hpattern := (Fields.get?_reread parts _).trans (congrArg (Option.map Value.reread) pattern)
    exact .pattern hparts (hlength only) htwo hoptions hpattern ((isBytes_reread _).trans bytes)

theorem StandForThemselves.reread {fs : Fields} (h : StandForThemselves fs)
    : StandForThemselves fs.reread :=
  h.imp (areTyped_reread fs).trans IsLeftOut.reread

theorem onlyField_bind {α : Type} (mark : Mark) (f : Value × Value) (x : Decoding α)
    : ((liftM (onlyField mark [f]) : Decoding Unit) >>= fun _ => x) = x := rfl

theorem decodeObject_of_kept {fs : Fields} {mark : Mark} {v : Value}
    (hmark : firstMark? fs = some (mark, v))
    (h : interpret mark v fs = pure (.object fs)) : decodeObject fs = pure (.object fs) := by
  unfold decodeObject
  rw [hmark]
  dsimp only
  rw [h, ite_self]

theorem isOwn_of_unmarked {fs : Fields} (h : firstMark? fs = none) : IsOwn fs := by
  unfold IsOwn areTyped
  rw [h]

theorem IsOwn.decodeObject {fs : Fields} (h : IsOwn fs) : decodeObject fs = pure (.object fs) := by
  unfold IsOwn areTyped at h
  cases hmark : firstMark? fs with
  | none =>
    unfold Extended.decodeObject
    rw [hmark]
  | some p =>
    obtain ⟨mark, v⟩ := p
    rw [hmark] at h
    apply decodeObject_of_kept hmark
    cases mark with
    | ref => rfl
    | regex =>
      dsimp only at h
      rw [Bool.or_eq_false_iff] at h
      change (liftM (decodeOldRegex v fs) : Decoding Value) = _
      unfold decodeOldRegex
      split
      . cases h.1
      . rw [h.2]
        rfl
    | _ => cases h

theorem decodeCode_kept {fs : Fields} (s : String)
    (only : ∀ f ∈ fs, f.1 = .text "$code" ∨ f.1 = .text "$scope")
    (scope : Fields.getD fs "$scope" = .null ∨ ∃ gs, Fields.getD fs "$scope" = .object gs)
    : decodeCode (.text s) fs = .ok (.object fs) := by
  have hextra : (fs.any fun f => !(f.1.equals (.text "$code") || f.1.equals (.text "$scope"))) =
      false := by
    rw [List.any_eq_false]
    intro f hf
    rw [Bool.not_eq_true', Bool.not_eq_false, Bool.or_eq_true, Value.equals_text, Value.equals_text]
    exact only f hf
  unfold decodeCode
  rw [hextra]
  rcases scope with h | ⟨gs, h⟩
  . rw [h]
    rfl
  . rw [h]
    rfl

theorem IsLeftOut.decodeObject {fs : Fields} (h : IsLeftOut fs)
    : decodeObject fs = pure (.object fs) := by
  cases h with
  | around first h =>
    unfold Extended.decodeObject
    rw [first]
    dsimp only
    rw [h, if_pos rfl]
  | reference first => exact decodeObject_of_kept first rfl
  | code first only scope =>
    apply decodeObject_of_kept first
    rw [interpret, decodeCode_kept _ only scope]
    rfl
  | decimal first only =>
    apply decodeObject_of_kept first
    rw [eq_of_firstMark? first only, interpret, onlyField_bind]
  | @oldPattern v bits first bytes options =>
    apply decodeObject_of_kept first
    rw [interpret]
    unfold decodeOldRegex
    split
    . cases bytes
    . rw [bytes, options]
      rfl
  | @pattern parts options p first only two hoptions hpattern bytes =>
    apply decodeObject_of_kept first
    have hget : ∀ {name v}, Fields.get? parts (.text name) = some v →
        part (.object parts) name = .ok v := by
      intro name v h
      unfold part
      dsimp only
      rw [h]
    rw [interpret, decodeRegex, onlyField, if_pos only, partCount, two, hget hoptions,
      hget hpattern]
    simp only [ok_bind]
    rw [if_neg (by decide)]
    cases p with
    | bytes => rfl
    | binary => rfl
    | _ => cases bytes

theorem StandForThemselves.decodeObject {fs : Fields} (h : StandForThemselves fs)
    : decodeObject fs = pure (.object fs) :=
  h.elim IsOwn.decodeObject IsLeftOut.decodeObject

theorem holdsTyped_text (s : String) : holdsTyped (.text s) = false := rfl

theorem holdsTyped_int (n : Int) : holdsTyped (.int n) = false := rfl

theorem decode_numberDouble {s : String} {x : Double} (h : Numeral.readDouble? s.toList = some x)
    : decode (tagged "$numberDouble" (ofString s)) = pure (.double x) := by
  unfold ofString
  rw [decode_tagged, decode, pure_bind, Value.ofText, String.ofList_toList]
  change Extended.decodeObject [(.text Mark.numberDouble.name, _)] = _
  rw [decodeObject_marked _ (holdsTyped_text s), interpret, onlyField_bind, h]

theorem decode_encodeDouble (x : Double) : decode (encodeDouble x) = pure (.double x) := by
  cases x with
  | nan => exact decode_numberDouble (by decide +kernel)
  | infinite negative =>
    cases negative with
    | false => exact decode_numberDouble (by decide +kernel)
    | true => exact decode_numberDouble (by decide +kernel)
  | finite negative rank =>
    unfold encodeDouble
    rw [decode]

theorem decode_encodeId (i : ObjectId) : decode (tagged "$oid" (.text i.hex)) = pure (.id i) := by
  rw [decode_tagged, decode, pure_bind, Value.ofText]
  change Extended.decodeObject [(.text Mark.oid.name, _)] = _
  rw [decodeObject_marked _ (holdsTyped_text _), interpret, onlyField_bind, decodeId,
    String.toList_ofList, i.ofHex?_hex]

theorem encodeDate_truncateToMillis (wall : Int)
    : encodeDate (utc wall).truncateToMillis = encodeDate (utc wall) := by
  change encodeDate (utc (wall / 1000 * 1000)) = encodeDate (utc wall)
  have hwall : ∀ micros : Int, (utc micros).timeOfDay = (micros % 86400000000).toNat := fun _ => rfl
  have htime : (utc (wall / 1000 * 1000)).timeOfDay = (utc wall).timeOfDay / 1000 * 1000 := by
    rw [hwall, hwall]
    omega
  have hdays : wall / 1000 * 1000 / 86400000000 = wall / 86400000000 := by omega
  have hcivil : (utc (wall / 1000 * 1000)).civil = (utc wall).civil := congrArg Civil.ofDays hdays
  have hhour : (utc (wall / 1000 * 1000)).hour = (utc wall).hour := by
    unfold hour
    omega
  have hminute : (utc (wall / 1000 * 1000)).minute = (utc wall).minute := by
    unfold minute
    omega
  have hsecond : (utc (wall / 1000 * 1000)).second = (utc wall).second := by
    unfold second
    omega
  have hmillis : (utc (wall / 1000 * 1000)).microsecond / 1000 = (utc wall).microsecond / 1000 := by
    unfold microsecond
    omega
  have htext : Extended.dateText (utc (wall / 1000 * 1000)) = Extended.dateText (utc wall) := by
    unfold Extended.dateText Moment.dateText timeText
    rw [hcivil, hhour, hminute, hsecond, hmillis]
    rfl
  have hsign : (0 ≤ wall / 1000 * 1000) = (0 ≤ wall) := by
    rw [eq_iff_iff]
    omega
  have hcount : wall / 1000 * 1000 / 1000 = wall / 1000 := by omega
  unfold encodeDate millis
  simp only [instant_utc, htext, hsign, hcount]

theorem decode_encodeDate_reread {wall : Int} (h : Moment.inRange wall = true)
    : decode (encodeDate (utc wall)) = pure (.date (utc wall).truncateToMillis) := by
  have hwhole : IsWhole (wall / 1000 * 1000) := by
    have he : Moment.earliest = -62135596800000000 := by decide
    have hl : Moment.latest = 253402300799999999 := by decide
    simp only [Moment.inRange, decide_eq_true_eq, he, hl] at h
    refine ⟨?_, by omega⟩
    simp only [Moment.inRange, decide_eq_true_eq, he, hl]
    omega
  -- The moment may have more than milliseconds, but it is written as the one that has not.
  rw [← encodeDate_truncateToMillis]
  exact decode_encodeDate hwhole

def partFields (layout : Layout) (a b : String) (v w : Value) : Fields :=
  if layout = .sortedLine then [(.text b, w), (.text a, v)] else [(.text a, v), (.text b, w)]

section

variable {a b : String} {v w : Value}

theorem mem_partFields {f : Value × Value} (h : f ∈ partFields layout a b v w)
    : f = (.text a, v) ∨ f = (.text b, w) := by
  unfold partFields at h
  split at h
  . simpa [or_comm] using h
  . simpa using h

theorem partFields_isKeyed (hne : a ≠ b) : (partFields layout a b v w).IsKeyed := by
  unfold partFields
  split
  . exact ⟨by simp, by simp [hne.symm]⟩
  . exact ⟨by simp, by simp [hne]⟩

theorem partCount_partFields : partCount (.object (partFields layout a b v w)) = .ok 2 := by
  unfold partFields
  split <;> rfl

theorem part_first (hne : a ≠ b) : part (.object (partFields layout a b v w)) a = .ok v := by
  unfold partFields
  split <;> simp [part, Fields.get?_cons, Value.equals_text, hne.symm]

theorem part_second (hne : a ≠ b) : part (.object (partFields layout a b v w)) b = .ok w := by
  unfold partFields
  split <;> simp [part, Fields.get?_cons, Value.equals_text, hne]

theorem partFields_isOwn (ha : Mark.ofName? a = none) (hb : Mark.ofName? b = none)
    : IsOwn (partFields layout a b v w) := by
  apply isOwn_of_unmarked
  apply firstMark?_eq_none
  intro f hf s hs
  rcases mem_partFields hf with rfl | rfl
  . cases hs
    exact ha
  . cases hs
    exact hb

theorem holdsTyped_partFields (ha : Mark.ofName? a = none) (hb : Mark.ofName? b = none)
    (hv : holdsTyped v = false) (hw : holdsTyped w = false)
    : holdsTyped (.object (partFields layout a b v w)) = false := by
  have hown : areTyped (partFields layout a b v w) = false := partFields_isOwn ha hb
  rw [holdsTyped, hown, Bool.false_or]
  unfold partFields
  split <;> simp [fieldsHaveTyped, hv, hw]

theorem decode_parts {j k : Json} (hne : a ≠ b) (ha : Mark.ofName? a = none)
    (hb : Mark.ofName? b = none) (hj : decode j = pure v) (hk : decode k = pure w)
    : decode (parts layout (a, j) (b, k)) = pure (.object (partFields layout a b v w)) := by
  have hmembers : decode (parts layout (a, j) (b, k))
      = Extended.decodeObject (Fields.ofList (partFields layout a b v w)) := by
    unfold parts partFields
    dsimp only
    rw [decode]
    split <;> simp [decodeMembers, hj, hk, Value.ofText]
  rw [hmembers, (partFields_isKeyed hne).ofList_eq, (partFields_isOwn ha hb).decodeObject]

end

theorem decode_ofText (s : List Char) : decode (.text s) = pure (.text (String.ofList s)) := by
  rw [decode, Value.ofText]

theorem readHexadecimal?_hexDigits
    : ∀ t : Fin 256, Numeral.readHexadecimal? (Text.hexDigits 2 t) = some (t : Int)
    ∧ (Text.hexDigits 2 t).length ≤ 2 := by
  decide +kernel

theorem decode_encodeBinary {t : Nat} (ht : t < 256) (bs : List UInt8)
    : decode (encodeBinary t bs) = (liftM (binaryValue t bs) : Decoding Value) := by
  have hdata : readBase64 (String.ofList (Text.base64Encode bs)) = .ok bs := by
    unfold readBase64
    rw [String.toList_ofList, Text.base64Decode_base64Encode]
  obtain ⟨hdigits, hlength⟩ := readHexadecimal?_hexDigits ⟨t, ht⟩
  have hsubtype : readHexadecimal (String.ofList (Text.hexDigits 2 t)) = .ok (t : Int) := by
    unfold readHexadecimal
    rw [String.toList_ofList, hdigits]
  have hshort : (String.ofList (Text.hexDigits 2 t)).length ≤ 2 := by simpa using hlength
  have hne : "base64" ≠ "subType" := by decide
  unfold encodeBinary
  rw [decode_tagged, decode_parts hne (by decide) (by decide) (decode_ofText _) (decode_ofText _),
    pure_bind]
  generalize String.ofList (Text.base64Encode bs) = data at hdata
  generalize String.ofList (Text.hexDigits 2 t) = subtype at hsubtype hshort
  have hlegacy : Fields.get?
    [(.text Mark.binary.name, .object (partFields .line "base64" "subType" (.text data)
      (.text subtype)))] (.text "$type") = none := by
    rw [Fields.get?_eq_none]
    simp [Mark.name]
  change Extended.decodeObject [(.text Mark.binary.name, _)] = _
  have huntyped : holdsTyped
      (.object (partFields .line "base64" "subType" (.text data) (.text subtype))) = false :=
    holdsTyped_partFields (by decide) (by decide) (holdsTyped_text data) (holdsTyped_text subtype)
  rw [decodeObject_marked _ huntyped, interpret, decodeBinary, hlegacy]
  dsimp only
  rw [part_first hne, part_second hne, partCount_partFields]
  simp only [ok_bind, hdata, hsubtype]
  rw [if_neg (by omega), if_neg (by decide)]

theorem decode_encodeBytes (bs : List UInt8) : decode (encodeBinary 0 bs) = pure (.bytes bs) :=
  decode_encodeBinary (by decide) bs

theorem binaryValue_toNat {t : UInt8} (ht : t ≠ 0) (bs : List UInt8)
    : binaryValue t.toNat bs = .ok (.binary t bs) := by
  have hlt := t.toNat_lt
  have hne : t.toNat ≠ 0 := fun h => ht (UInt8.toNat_inj.mp h)
  unfold binaryValue
  rw [if_neg (by omega), if_neg (by omega), Int.toNat_natCast, UInt8.ofNat_toNat]

theorem ofLetters_bitLetters (letters : List Char)
    : optionsBits.ofLetters (bitLetters (optionsBits.ofLetters letters)).toList =
      optionsBits.ofLetters letters := by
  -- Letters choose some of the options, in their order; there are 64 such choices.
  have hall : ∀ chosen ∈ optionBits.sublists,
      optionsBits.ofLetters (bitLetters (chosen.foldl (fun acc o => acc + o.2) 0)).toList
        = chosen.foldl (fun (acc : Int) o => acc + o.2) 0 := by
    decide +kernel
  exact hall _ (List.mem_sublists.mpr List.filter_sublist)

theorem decode_encodeRegex (source options : String) : decode (encodeRegex layout source options)
    = pure (.storedRegex source (optionsBits.ofLetters options.toList) true) := by
  have hne : "pattern" ≠ "options" := by decide
  unfold encodeRegex ofString
  rw [decode_tagged, decode_parts hne (by decide) (by decide) (decode_ofText _) (decode_ofText _),
    pure_bind, String.ofList_toList, String.ofList_toList]
  change Extended.decodeObject [(.text Mark.regularExpression.name, _)] = _
  rw [decodeObject_marked _
    (holdsTyped_partFields (by decide) (by decide) (holdsTyped_text _) (holdsTyped_text _)),
    interpret, decodeRegex, partCount_partFields, part_first hne, part_second hne]
  rfl

theorem decode_encodeTimestamp {t i : Nat} (ht : t < 2 ^ 32) (hi : i < 2 ^ 32)
    : decode (tagged "$timestamp" (parts layout ("t", .int t) ("i", .int i))) =
      pure (.timestamp t i) := by
  have hparts : timestampParts? (.object (partFields layout "t" "i" (.int t) (.int i))) =
      some (.int t, .int i) := by
    unfold partFields
    split <;> simp [timestampParts?, Fields.get?_cons, Value.equals_text]
  have hj : ∀ n : Int, decode (.int n) = pure (.int n) := by
    intro n
    rw [decode]
  rw [decode_tagged, decode_parts (by decide) (by decide) (by decide) (hj _) (hj _), pure_bind]
  change Extended.decodeObject [(.text Mark.timestamp.name, _)] = _
  rw [decodeObject_marked _
    (holdsTyped_partFields (by decide) (by decide) (holdsTyped_int _) (holdsTyped_int _)),
    interpret, decodeTimestamp, hparts]
  simp only [Value.integer?, ok_bind]
  rw [if_neg (by omega), if_neg (by omega)]
  rfl

theorem decodeItems_encodeTrees {g : Value → Value} {xs : List Value} {js : List Json}
    (hxs : ∀ x ∈ xs, ∀ j, encodeTree layout x = .ok j → decode j = pure (g x))
    (h : encodeTrees layout xs = .ok js)
    : decodeItems js = pure (xs.map g) := by
  induction xs generalizing js with
  | nil =>
    cases h
    rw [decodeItems, List.map_nil]
  | cons x xs ih =>
    rw [encodeTrees] at h
    obtain ⟨j, hj, h⟩ := then_ok h
    obtain ⟨js, hjs, h⟩ := then_ok h
    cases h
    rw [decodeItems, hxs x (List.mem_cons_self ..) j hj, pure_bind,
      ih (fun y hy => hxs y (List.mem_cons_of_mem _ hy)) hjs, pure_bind, List.map_cons]

theorem decodeMembers_encodeFields {g : Value → Value} {fs : Fields} {ms : List (List Char × Json)}
    (hk : ∀ f ∈ fs, ∃ s, f.1 = .text s)
    (hfs : ∀ f ∈ fs, ∀ j, encodeTree layout f.2 = .ok j → decode j = pure (g f.2))
    (h : encodeFields layout fs = .ok ms)
    : decodeMembers ms = pure (fs.map fun f => (f.1, g f.2)) := by
  induction fs generalizing ms with
  | nil =>
    cases h
    rw [decodeMembers, List.map_nil]
  | cons f fs ih =>
    obtain ⟨k, v⟩ := f
    obtain ⟨s, rfl⟩ : ∃ s, k = .text s := hk (k, v) (List.mem_cons_self ..)
    rw [encodeFields] at h
    obtain ⟨name, hname, h⟩ := then_ok h
    obtain ⟨j, hj, h⟩ := then_ok h
    obtain ⟨ns, hns, h⟩ := then_ok h
    cases h
    cases hname
    have htail :=
      ih (fun g hg => hk g (List.mem_cons_of_mem _ hg))
        (fun g hg => hfs g (List.mem_cons_of_mem _ hg)) hns
    rw [decodeMembers, hfs _ (List.mem_cons_self ..) j hj, pure_bind, htail, pure_bind,
      Value.ofText, String.ofList_toList, List.map_cons]

theorem decode_encodeInteger {n : Int} {j : Json} (h : encodeInteger n = .ok j)
    : decode j = pure (.int n) := by
  unfold encodeInteger at h
  split at h
  . cases h
  . cases h
    rw [decode]

theorem decode_encodeTree_reread {v : Value} (hv : v.IsRead) {j : Json}
    (h : encodeTree layout v = .ok j)
    : decode j = pure v.reread := by
  induction hv generalizing j with
  | null =>
    cases h
    rw [decode]
    rfl
  | bool b =>
    cases h
    rw [decode]
    rfl
  | int _ => exact decode_encodeInteger h
  | long _ => exact decode_encodeInteger h
  | double x =>
    cases h
    exact decode_encodeDouble x
  | text s =>
    cases h
    unfold ofString
    rw [decode, Value.ofText, String.ofList_toList]
    rfl
  | date hrange =>
    cases h
    exact decode_encodeDate_reread hrange
  | id i =>
    cases h
    exact decode_encodeId i
  | list _ ih =>
    rw [encodeTree] at h
    obtain ⟨js, hjs, rfl⟩ := map_ok h
    rw [decode, decodeItems_encodeTrees (fun x hx j => ih x hx) hjs, pure_bind, Value.reread_list]
  | bytes bs =>
    cases h
    exact decode_encodeBytes bs
  | @binary t ht bs =>
    cases h
    rw [decode_encodeBinary t.toNat_lt, binaryValue_toNat ht]
    rfl
  | object keyed own _ ih =>
    rw [encodeTree] at h
    obtain ⟨ms, hms, rfl⟩ := map_ok h
    rw [decode, decodeMembers_encodeFields keyed.keys (fun f hf j => ih f hf) hms, pure_bind]
    change Extended.decodeObject (Fields.ofList (Fields.reread _)) = _
    rw [keyed.reread.ofList_eq, own.reread.decodeObject, Value.reread_object]
  | storedRegex s letters =>
    cases h
    rw [decode_encodeRegex, ofLetters_bitLetters]
    rfl
  | minKey =>
    cases h
    rw [decode_tagged, decode, pure_bind]
    change Extended.decodeObject [(.text Mark.minKey.name, _)] = _
    rw [decodeObject_marked _ (holdsTyped_int 1)]
    rfl
  | maxKey =>
    cases h
    rw [decode_tagged, decode, pure_bind]
    change Extended.decodeObject [(.text Mark.maxKey.name, _)] = _
    rw [decodeObject_marked _ (holdsTyped_int 1)]
    rfl
  | timestamp ht hi =>
    cases h
    exact decode_encodeTimestamp ht hi

end Extended

end DocStore

import Mathlib.Data.List.TakeWhile
import DocStore.Extended.Encode
import DocStore.Proofs.Calendar.Civil
import DocStore.Proofs.Extended.Normal
import DocStore.Proofs.Number.Digits

/-!
This module contains the proof that a moment in universal time and in whole milliseconds is read
from its typed form as it was.
-/

namespace DocStore

namespace Moment

theorem ofDigitChars_pad (width n : Nat) : Nat.ofDigitChars 10 (pad width n) 0 = n := by
  unfold pad
  dsimp only
  rw [Nat.ofDigitChars_append, Nat.ofDigitChars_replicate_zero, Nat.mul_zero,
    Nat.ofDigitChars_ten_toDigits]

theorem isDigit_pad {width n : Nat} {c : Char} (h : c ∈ pad width n) : c.isDigit = true := by
  unfold pad at h
  rw [List.mem_append] at h
  cases h with
  | inl h =>
    rw [List.eq_of_mem_replicate h]
    decide
  | inr h => exact isDigit_toDigits h

theorem length_pad {width n : Nat} (hw : 0 < width) (h : n < 10 ^ width)
    : (pad width n).length = width := by
  have hle := (Nat.length_toDigits_le_iff (b := 10) (by decide) hw).mpr h
  unfold pad
  rw [List.length_append, List.length_replicate]
  omega

end Moment

namespace Extended

open Moment

theorem digitsNumber_of_isDigit {s : List Char} (h : ∀ c ∈ s, c.isDigit = true)
    : digitsNumber s = Nat.ofDigitChars 10 s 0 := by
  unfold digitsNumber
  generalize 0 = acc
  induction s generalizing acc with
  | nil => rfl
  | cons c s ih =>
    rw [List.foldl_cons, digit?_of_isDigit (h c (List.mem_cons_self ..)), Nat.ofDigitChars_cons]
    exact ih (fun d hd => h d (List.mem_cons_of_mem _ hd)) _

theorem takeShape_length {shape : Shape} {s t r : List Char} (h : takeShape shape s = some (t, r))
    : s.length = shape.length + r.length := by
  induction shape generalizing s t with
  | nil =>
    cases h
    rw [List.length_nil, Nat.zero_add]
  | cons p shape ih =>
    cases s with
    | nil => cases h
    | cons c s =>
      rw [takeShape] at h
      split at h
      . rw [Option.map_eq_some_iff] at h
        obtain ⟨⟨t', r'⟩, ht, he⟩ := h
        cases he
        rw [List.length_cons, List.length_cons, ih ht]
        omega
      . cases h

theorem takeShape_append {shape : Shape} {s : List Char} (h : shape.length ≤ s.length)
    (rest : List Char)
    : takeShape shape (s ++ rest) = (takeShape shape s).map fun p => (p.1, p.2 ++ rest) := by
  induction shape generalizing s with
  | nil => rfl
  | cons p shape ih =>
    cases s with
    | nil => exact absurd h (by simp)
    | cons c s =>
      rw [List.cons_append, takeShape, takeShape]
      split
      . rw [ih (Nat.le_of_succ_le_succ h), Option.map_map, Option.map_map]
        rfl
      . rfl

theorem takeNumber_append {shapes : List Shape} {next : Char → Bool} {s : List Char}
    (h : ∀ shape ∈ shapes, shape.length < s.length) (rest : List Char)
    : takeNumber shapes next (s ++ rest) = (takeNumber shapes next s).map
      fun p => (p.1, p.2 ++ rest) := by
  unfold takeNumber
  induction shapes with
  | nil => rfl
  | cons shape shapes ih =>
    have hlt := h shape (List.mem_cons_self ..)
    have ih := ih fun shape' hshape => h shape' (List.mem_cons_of_mem _ hshape)
    rw [List.findSome?_cons, List.findSome?_cons, takeShape_append (Nat.le_of_lt hlt)]
    cases hs : takeShape shape s with
    | none => exact ih
    | some p =>
      obtain ⟨t, r⟩ := p
      cases r with
      | nil =>
        have hlength := takeShape_length hs
        rw [List.length_nil] at hlength
        omega
      | cons c r =>
        simp only [Option.map_some, List.cons_append]
        cases next c with
        | true => rfl
        | false => exact ih

theorem takeNumber_pad {shapes : List Shape} {next : Char → Bool} {n : Nat} {c : Char}
    (hn : n < 100) (hshapes : ∀ shape ∈ shapes, shape.length < 3)
    (h : takeNumber shapes next (pad 2 n ++ [c]) = some (n, []))
    (rest : List Char) : takeNumber shapes next (pad 2 n ++ c :: rest) = some (n, rest) := by
  have happend : pad 2 n ++ c :: rest = (pad 2 n ++ [c]) ++ rest := by
    rw [List.append_assoc, List.singleton_append]
  rw [happend, takeNumber_append, h]
  . rfl
  . intro shape hshape
    rw [List.length_append, length_pad (by decide) hn]
    exact hshapes shape hshape

theorem takeNumber_year {n : Nat} (hn : n < 10000) (rest : List Char)
    : takeNumber [[Text.isDigit, Text.isDigit, Text.isDigit, Text.isDigit]] (· = '-')
      (pad 4 n ++ '-' :: rest)
      = some (n, rest) := by
  have hlength : (pad 4 n).length = 4 := length_pad (by decide) hn
  have hdigit : ∀ c ∈ pad 4 n, c.isDigit = true := fun c hc => isDigit_pad hc
  have hvalue := ofDigitChars_pad 4 n
  rw [← digitsNumber_of_isDigit hdigit] at hvalue
  generalize pad 4 n = s at hlength hdigit hvalue
  match s, hlength with
  | [a, b, c, d], _ =>
    have hisDigit : ∀ e ∈ [a, b, c, d], Text.isDigit e = true := by
      intro e he
      unfold Text.isDigit
      rw [digit?_of_isDigit (hdigit e he)]
      rfl
    simp only [List.mem_cons, List.not_mem_nil, or_false, forall_eq_or_imp, forall_eq] at hisDigit
    obtain ⟨ha, hb, hc, hd⟩ := hisDigit
    simp only [takeNumber, List.findSome?_cons, List.cons_append, List.nil_append, takeShape, ha,
      hb, hc, hd, if_true, Option.map_some, decide_true, hvalue]

theorem takeNumber_month : ∀ n : Fin 13, 1 ≤ n.val →
    takeNumber monthShapes (· = '-') (pad 2 n ++ ['-']) = some (n.val, []) := by decide +kernel

theorem takeNumber_day : ∀ n : Fin 32, 1 ≤ n.val →
    takeNumber dayShapes (fun c => c = 'T' ∨ c = 't') (pad 2 n ++ ['T']) = some (n.val, []) := by
  decide +kernel

theorem takeNumber_hour : ∀ n : Fin 24,
    takeNumber hourShapes (· = ':') (pad 2 n ++ [':']) = some (n.val, []) := by decide +kernel

theorem takeNumber_minute : ∀ n : Fin 60,
    takeNumber minuteShapes (· = ':') (pad 2 n ++ [':']) = some (n.val, []) := by decide +kernel

theorem takeShape_second : ∀ n : Fin 60,
    secondShapes.findSome? (takeShape · (pad 2 n)) = some (pad 2 n.val, []) := by decide +kernel

theorem truncate?_scale_millis {n : Nat} (h : n < 1000)
    : ((Double.ofDecimal false n (-3)).scale 1000000).truncate? = some (1000 * (n : Int)) := by
  -- A product of a rounded fraction may round to just below the integer, as that of 0.29 and 100
  -- does.
  have hall : (List.range 1000).all (fun n =>
      ((Double.ofDecimal false n (-3)).scale 1000000).truncate? = some (1000 * (n : Int))) =
          true := by
    decide +kernel
  rw [List.all_eq_true] at hall
  exact of_decide_eq_true (hall n (List.mem_range.mpr h))

theorem fractionMicros_pad {n : Nat} (h : n < 1000)
    : fractionMicros ('.' :: pad 3 n) = .ok (1000 * n) := by
  have hlength : (pad 3 n).length = 3 := length_pad (by decide) h
  have hne : pad 3 n ≠ [] := by
    rw [← List.length_pos_iff, hlength]
    decide
  have hexponent : -((3 : Nat) : Int) = -3 := rfl
  unfold fractionMicros
  rw [Numeral.readDouble?_fraction hne fun c hc => isDigit_pad hc, ofDigitChars_pad, hlength,
    hexponent]
  dsimp only
  rw [truncate?_scale_millis h]

structure HasBounds (m : Moment) : Prop where
  year : 1970 ≤ m.civil.year ∧ m.civil.year ≤ 9999
  month : 1 ≤ m.civil.month ∧ m.civil.month ≤ 12
  day : 1 ≤ m.civil.day ∧ m.civil.day ≤ 31
  hour : m.hour < 24
  minute : m.minute < 60
  second : m.second < 60

theorem timeOfDay_lt (m : Moment) : m.timeOfDay < 86400000000 := by
  unfold timeOfDay microsPerDay
  omega

theorem hasBounds_utc {wall : Int} (h₀ : 0 ≤ wall) (h₁ : wall ≤ Moment.latest)
    : HasBounds (.utc wall) := by
  have htime := timeOfDay_lt (.utc wall)
  have hdays : wall / microsPerDay < Civil.toDays ⟨10000, 1, 1⟩ := by
    have hlatest : Moment.latest = Civil.toDays ⟨10000, 1, 1⟩ * microsPerDay - 1 := rfl
    unfold microsPerDay at hlatest ⊢
    omega
  refine ⟨Civil.ofDays_year ?_ hdays, Civil.ofDays_month _, Civil.ofDays_day _, ?_, ?_, ?_⟩
  . dsimp only [Moment.utc, microsPerDay]
    omega
  . unfold hour
    omega
  . unfold minute
    omega
  . unfold second
    omega

theorem dateParts?_text {m : Moment} (h : HasBounds m)
    : dateParts? (m.dateText ++ 'T' :: m.timeText)
      = some ⟨m.civil.year.toNat, m.civil.month.toNat, m.civil.day.toNat, m.hour, m.minute,
        m.second, []⟩ := by
  obtain ⟨_, _⟩ := h.year
  obtain ⟨_, _⟩ := h.month
  obtain ⟨_, _⟩ := h.day
  have hyear := takeNumber_year (n := m.civil.year.toNat) (by omega)
  have hmonth := takeNumber_pad (by omega) (by decide)
    (takeNumber_month ⟨m.civil.month.toNat, by omega⟩ (by dsimp only; omega))
  have hday := takeNumber_pad (by omega) (by decide)
    (takeNumber_day ⟨m.civil.day.toNat, by omega⟩ (by dsimp only; omega))
  have hhour :=
    takeNumber_pad (Nat.lt_trans h.hour (by decide)) (by decide) (takeNumber_hour ⟨m.hour, h.hour⟩)
  have hminute := takeNumber_pad (Nat.lt_trans h.minute (by decide)) (by decide)
    (takeNumber_minute ⟨m.minute, h.minute⟩)
  have hsecond := takeShape_second ⟨m.second, h.second⟩
  have hvalue : digitsNumber (pad 2 m.second) = m.second := by
    rw [digitsNumber_of_isDigit fun c hc => isDigit_pad hc, ofDigitChars_pad]
  unfold dateParts? Moment.dateText timeText
  dsimp only at hmonth hday hhour hminute hsecond ⊢
  simp only [List.append_assoc, List.cons_append, hyear, hmonth, hday, hhour, hminute, hsecond,
    hvalue, Option.bind_eq_bind, Option.bind_some, pure]

theorem readDateTime_text {m : Moment} (h : HasBounds m)
    : readDateTime (m.dateText ++ 'T' :: m.timeText)
      = .ok (.utc (m.civil.toDays * microsPerDay
        + ((m.hour * 3600 + m.minute * 60 + m.second : Nat) : Int) * microsPerSecond)) := by
  obtain ⟨_, _⟩ := h.year
  obtain ⟨_, _⟩ := h.month
  obtain ⟨_, _⟩ := h.day
  have hsecond := h.second
  have hcivil : (⟨m.civil.year.toNat, m.civil.month.toNat, m.civil.day.toNat⟩ : Civil) =
      m.civil := by
    rw [Int.toNat_of_nonneg (by omega), Int.toNat_of_nonneg (by omega),
      Int.toNat_of_nonneg (by omega)]
  have hvalid : m.civil.isValid = true := Civil.ofDays_isValid _
  unfold readDateTime
  rw [dateParts?_text h]
  dsimp only
  rw [hcivil, hvalid, if_neg (by simp), if_neg (by omega), if_neg (by simp), if_neg (by omega)]
  congr 4

theorem splitOffset_zulu (s : List Char) : splitOffset (s ++ ['Z']) = some (s, .zulu) := by
  unfold splitOffset
  simp

theorem splitFraction_none {s : List Char} (h : '.' ∉ s) : splitFraction s = (s, none) := by
  have hdrop : s.reverse.dropWhile (· ≠ '.') = [] := by
    rw [List.dropWhile_eq_nil_iff]
    intro c hc
    rw [decide_eq_true_eq]
    intro heq
    rw [heq, List.mem_reverse] at hc
    exact h hc
  unfold splitFraction
  rw [hdrop]

theorem splitFraction_some {s f : List Char} (h : '.' ∉ f)
    : splitFraction (s ++ '.' :: f) = (s, some ('.' :: f)) := by
  have hdrop : (s ++ '.' :: f).reverse.dropWhile (· ≠ '.') = '.' :: s.reverse := by
    rw [List.reverse_append, List.reverse_cons, List.append_assoc, List.dropWhile_append_of_pos]
    . simp
    . intro c hc
      rw [decide_eq_true_eq]
      intro heq
      rw [heq, List.mem_reverse] at hc
      exact h hc
  unfold splitFraction
  rw [hdrop]
  dsimp only
  rw [List.reverse_reverse, List.length_reverse, List.drop_left]

theorem point_notMem_pad (width n : Nat) : '.' ∉ pad width n := by
  intro h
  exact absurd (isDigit_pad h) (by decide)

theorem point_notMem_text (m : Moment) : '.' ∉ m.dateText ++ 'T' :: m.timeText := by
  unfold Moment.dateText timeText
  simp [point_notMem_pad]

structure IsWhole (wall : Int) : Prop where
  inRange : Moment.inRange wall = true
  millis : wall % 1000 = 0

theorem wall_parts {wall : Int} (h : wall % 1000 = 0)
    : wall = wall / microsPerDay * microsPerDay
        + (((utc wall).hour * 3600 + (utc wall).minute * 60 + (utc wall).second : Nat) : Int) *
          microsPerSecond
        + 1000 * (((utc wall).microsecond / 1000 : Nat) : Int) := by
  have hwall : (utc wall).timeOfDay = (wall % 86400000000).toNat := rfl
  unfold hour minute second microsecond microsPerDay microsPerSecond
  rw [hwall]
  omega

theorem readDate_zulu {body dateTime : List Char} {fraction : Option (List Char)} {micros : Int}
    {m : Moment} (hsplit : splitFraction body = (dateTime, fraction))
    (hfraction : fraction.elim (.ok 0) fractionMicros = .ok micros) (h₀ : 0 ≤ micros)
    (h₁ : micros ≤ 999999) (hm : readDateTime dateTime = .ok m)
    (hrange : Moment.inRange (m.wall + micros) = true)
    : readDate (body ++ ['Z']) = .ok (.utc (m.wall + micros)) := by
  have hwidth : ¬(2 : Int) ^ 31 ≤ micros := by omega
  have hmicros : ¬(micros < 0 ∨ 999999 < micros) := by omega
  have hoffset : m.wall + micros - 0 * microsPerSecond = m.wall + micros := by omega
  unfold readDate
  rw [splitOffset_zulu]
  dsimp only
  rw [hsplit]
  cases fraction with
  | none =>
    cases hfraction
    simp only [bind, Except.bind, hm, hwidth, hmicros, offsetSeconds, hoffset, hrange, if_true,
      if_false]
  | some f =>
    rw [Option.elim_some] at hfraction
    simp only [bind, Except.bind, hm, hfraction, hwidth, hmicros, offsetSeconds, hoffset, hrange,
      if_true, if_false]

theorem readDate_body {wall : Int} (h : IsWhole wall) (h₀ : 0 ≤ wall) {body : List Char}
    {fraction : Option (List Char)}
    (hsplit : splitFraction body = ((utc wall).dateText ++ 'T' :: (utc wall).timeText, fraction))
    (hfraction : fraction.elim (.ok 0) fractionMicros =
      .ok (1000 * (((utc wall).microsecond / 1000 : Nat) : Int)))
    : readDate (body ++ ['Z']) = .ok (.utc wall) := by
  have hrange := h.inRange
  simp only [Moment.inRange, decide_eq_true_eq] at hrange
  have hmicros : (utc wall).microsecond / 1000 < 1000 := by
    unfold microsecond
    omega
  have hdays : (utc wall).civil.toDays = wall / microsPerDay := Civil.toDays_ofDays _
  have hm := readDateTime_text (hasBounds_utc h₀ hrange.2)
  rw [hdays] at hm
  have hwall := wall_parts h.millis
  have hsum : (utc (wall / microsPerDay * microsPerDay
      + (((utc wall).hour * 3600 + (utc wall).minute * 60 + (utc wall).second : Nat) : Int) *
        microsPerSecond)).wall
      + 1000 * (((utc wall).microsecond / 1000 : Nat) : Int) = wall := hwall.symm
  rw [readDate_zulu hsplit hfraction (by omega) (by omega) hm (by rw [hsum]; exact h.inRange), hsum]

theorem readDate_dateText {wall : Int} (h : IsWhole wall) (h₀ : 0 ≤ wall)
    : readDate (dateText (.utc wall)) = .ok (.utc wall) := by
  have hpoint := point_notMem_text (utc wall)
  unfold dateText
  dsimp only [Moment.utc, Option.getD_some]
  change readDate ((utc wall).dateText ++ 'T' :: (utc wall).timeText ++ _ ++ ['Z']) = _
  split
  next hzero =>
    rw [List.append_nil]
    refine readDate_body h h₀ (splitFraction_none hpoint) ?_
    change Except.ok 0 = Except.ok (1000 * (((utc wall).microsecond / 1000 : Nat) : Int))
    rw [show (utc wall).microsecond / 1000 = 0 from hzero]
    rfl
  . refine readDate_body h h₀ (splitFraction_some (point_notMem_pad _ _)) ?_
    rw [Option.elim_some]
    apply fractionMicros_pad
    change (utc wall).microsecond / 1000 < 1000
    unfold microsecond
    omega

theorem isLong_millis {wall : Int} (h : Moment.inRange wall = true)
    : Numeral.isLong (wall / 1000) = false := by
  simp only [Moment.inRange, decide_eq_true_eq] at h
  have he : Moment.earliest = -62135596800000000 := by decide
  have hl : Moment.latest = 253402300799999999 := by decide
  exact Numeral.isLong_eq_false 20 (by omega) (by decide)

theorem dateOfMillis_ok {wall : Int} (h : IsWhole wall)
    : dateOfMillis (wall / 1000) = .ok (.utc wall) := by
  have hrange := h.inRange
  simp only [Moment.inRange, decide_eq_true_eq] at hrange
  have he : Moment.earliest = -62135596800000000 := by decide
  have hl : Moment.latest = 253402300799999999 := by decide
  have hmillis := h.millis
  have hwall : wall / 1000 * 1000 = wall := by omega
  unfold dateOfMillis maxSpanDays
  dsimp only
  rw [if_neg (by omega), if_neg (by omega), hwall, if_pos h.inRange]

theorem decodeObject_date {v : Value} (h : holdsTyped v = false)
    : decodeObject [(.text "$date", v)] = (liftM (decodeDate v) : Decoding Value) :=
  decodeObject_marked .date h

theorem decodeObject_numberLong {v : Value} (h : holdsTyped v = false)
    : decodeObject [(.text "$numberLong", v)]
      = ((do return .long (← toInteger v)) : Decoding Value) :=
  decodeObject_marked .numberLong h

theorem decode_encodeDate {wall : Int} (h : IsWhole wall)
    : decode (encodeDate (.utc wall)) = (pure (.date (.utc wall)) : Decoding Value) := by
  have hinstant : (utc wall).instant = wall := instant_utc wall
  have htext : ∀ s, holdsTyped (.text s) = false := fun _ => rfl
  have hlong : ∀ n, holdsTyped (.long n) = false := fun _ => rfl
  unfold encodeDate
  rw [hinstant]
  split
  next h₀ =>
    rw [decode_tagged, decode, pure_bind, Value.ofText, decodeObject_date (htext _)]
    unfold decodeDate
    dsimp only
    rw [String.toList_ofList, readDate_dateText h h₀]
    rfl
  . have hmillis : (utc wall).millis = wall / 1000 := by
      unfold Moment.millis
      rw [hinstant]
    rw [hmillis, decode_tagged, decode_tagged, decode, pure_bind, Value.ofText,
      decodeObject_numberLong (htext _)]
    unfold toInteger
    dsimp only
    rw [String.toList_ofList, Numeral.readInteger_text (isLong_millis h.inRange)]
    dsimp only
    change decodeObject [(.text "$date", .long (wall / 1000))] = _
    rw [decodeObject_date (hlong _)]
    unfold decodeDate toInteger Value.integer?
    simp only [bind, Except.bind, dateOfMillis_ok h]
    rfl

end Extended

end DocStore

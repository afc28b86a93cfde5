import DocStore.Proofs.Json.Short
import DocStore.Proofs.Number.Digits
import DocStore.Proofs.Number.Shortest

/-!
This module contains the proof that the reader of JSON texts reads a written number as the number.
-/

namespace DocStore

namespace Json

def EndsNumber (rest : List Char) : Prop := ∀ c ∈ rest.head?, isNumeralChar c = false ∧ c ≠ 'E'

theorem EndsNumber.isDigit {rest : List Char} (h : EndsNumber rest)
    : ∀ c ∈ rest.head?, c.isDigit = false := by
  intro c hc
  have hc := (h c hc).1
  simp only [isNumeralChar, Bool.or_eq_false_iff] at hc
  exact hc.1.1.1.1

theorem splitDigits_append {ds rest : List Char} (h : ∀ c ∈ ds, c.isDigit = true)
    (hrest : ∀ c ∈ rest.head?, c.isDigit = false) : splitDigits (ds ++ rest) = (ds, rest) := by
  unfold splitDigits
  rw [List.takeWhile_append_of_pos h, List.dropWhile_append_of_pos h]
  cases rest with
  | nil => rw [List.takeWhile_nil, List.dropWhile_nil, List.append_nil]
  | cons c rest =>
    have hc := hrest c rfl
    rw [List.takeWhile_cons_of_neg (by simp [hc]), List.dropWhile_cons_of_neg (by simp [hc]),
      List.append_nil]

theorem digitsValue_eq (s : List Char) : digitsValue s = Nat.ofDigitChars 10 s 0 := rfl

inductive IsWhole : List Char → Prop where
  | zero : IsWhole ['0']
  | digits {c : Char} {s : List Char} (hc : c ≠ '0') (h : ∀ d ∈ c :: s, d.isDigit = true) :
      IsWhole (c :: s)

theorem IsWhole.isDigit {ds : List Char} (h : IsWhole ds) : ∀ c ∈ ds, c.isDigit = true := by
  cases h with
  | zero => simp
  | digits _ h => exact h

theorem IsWhole.append_zeros {ds : List Char} (h : IsWhole ds) (hne : ds ≠ ['0']) (k : Nat)
    : IsWhole (ds ++ List.replicate k '0') := by
  cases h with
  | zero => exact absurd rfl hne
  | digits hc h =>
    rw [List.cons_append]
    apply IsWhole.digits hc
    intro d hd
    rw [← List.cons_append, List.mem_append] at hd
    cases hd with
    | inl hd => exact h d hd
    | inr hd =>
      rw [List.eq_of_mem_replicate hd]
      decide

theorem isWhole_toDigits (n : Nat) : IsWhole (Nat.toDigits 10 n) := by
  have hdigit : ∀ c ∈ Nat.toDigits 10 n, c.isDigit = true := fun c hc => isDigit_toDigits hc
  have hvalue : Nat.ofDigitChars 10 (Nat.toDigits 10 n) 0 = n := Nat.ofDigitChars_ten_toDigits
  have hle : ∀ k, 0 < k → ((Nat.toDigits 10 n).length ≤ k ↔ n < 10 ^ k) :=
    fun k hk => Nat.length_toDigits_le_iff (by decide) hk
  have hne : Nat.toDigits 10 n ≠ [] := Nat.toDigits_ne_nil
  generalize Nat.toDigits 10 n = s at hdigit hvalue hle hne
  match s, hne with
  | c :: s, _ =>
    by_cases hc : c = '0'
    . cases s with
      | nil =>
        rw [hc]
        exact .zero
      | cons d s =>
        -- the digits after the zero would be enough
        have hlt := digitsValue_lt (s := d :: s) fun e he => hdigit e (List.mem_cons_of_mem _ he)
        rw [hc, Nat.ofDigitChars_cons] at hvalue
        change digitsValue (d :: s) = n at hvalue
        rw [hvalue] at hlt
        have := (hle (d :: s).length (by simp)).mpr hlt
        rw [List.length_cons] at this
        omega
    . exact .digits hc hdigit

theorem toDigits_ne_zero {n : Nat} (h : n ≠ 0) : Nat.toDigits 10 n ≠ ['0'] := by
  intro heq
  have hvalue : Nat.ofDigitChars 10 (Nat.toDigits 10 n) 0 = n := Nat.ofDigitChars_ten_toDigits
  rw [heq] at hvalue
  exact h hvalue.symm

theorem readWhole {ds rest : List Char} (h : IsWhole ds)
    (hrest : ∀ c ∈ rest.head?, c.isDigit = false)
    : (match ds ++ rest with
        | '0' :: rest => some (['0'], rest)
        | s => match splitDigits s with
          | ([], _) => none
          | p => some p) = some (ds, rest) := by
  cases h with
  | zero => rfl
  | @digits c s hc h =>
    split
    next heq =>
      rw [List.cons_append] at heq
      injection heq with heq _
      exact absurd heq hc
    . rw [splitDigits_append h hrest]

theorem readFraction_end {rest : List Char} (h : ∀ c ∈ rest.head?, c ≠ '.')
    : readFraction rest = ([], rest) := by
  unfold readFraction
  split
  . exact absurd rfl (h '.' rfl)
  . rfl

theorem readFraction_point {ds rest : List Char} (hne : ds ≠ []) (h : ∀ c ∈ ds, c.isDigit = true)
    (hrest : ∀ c ∈ rest.head?, c.isDigit = false)
    : readFraction ('.' :: (ds ++ rest)) = (ds, rest) := by
  rw [readFraction, splitDigits_append h hrest]
  cases ds with
  | nil => exact absurd rfl hne
  | cons c ds => rfl

theorem readExponent_end {rest : List Char} (h : EndsNumber rest)
    : readExponent rest = (none, rest) := by
  cases rest with
  | nil => rfl
  | cons c rest =>
    obtain ⟨hc, hE⟩ := h c rfl
    have he : c ≠ 'e' := by
      intro he
      rw [he] at hc
      exact absurd hc (by decide)
    rw [readExponent, if_neg (by simp [he, hE])]

theorem readExponent_text {n : Int} {ds rest : List Char} (hne : ds ≠ [])
    (h : ∀ c ∈ ds, c.isDigit = true) (hvalue : digitsValue ds = n.natAbs)
    (hrest : ∀ c ∈ rest.head?, c.isDigit = false)
    : readExponent ('e' :: (if n < 0 then '-' else '+') :: (ds ++ rest)) = (some n, rest) := by
  have hsplit := splitDigits_append h hrest
  have hsign : Numeral.sign ((if n < 0 then '-' else '+') :: (ds ++ rest)) =
      (decide (n < 0), ds ++ rest) := by
    by_cases hn : n < 0
    . rw [if_pos hn, decide_eq_true hn]
      rfl
    . rw [if_neg hn, decide_eq_false hn]
      rfl
  have habs : (if decide (n < 0) = true then -(n.natAbs : Int) else n.natAbs) = n := by
    simp only [decide_eq_true_eq]
    omega
  obtain ⟨c, ds, rfl⟩ := List.exists_cons_of_ne_nil hne
  rw [readExponent, if_pos (.inl rfl)]
  simp only [hsign, hsplit, hvalue, habs]

theorem readNumber_int (negative : Bool) (place : List Char) {ds rest : List Char} (h : IsWhole ds)
    (hlength : ds.length ≤ Numeral.maxDigits) (hrest : EndsNumber rest)
    : readNumber negative place (ds ++ rest)
      = .ok (.int (if negative then -(digitsValue ds : Int) else digitsValue ds), rest) := by
  have hpoint : ∀ c ∈ rest.head?, c ≠ '.' := by
    intro c hc heq
    have := (hrest c hc).1
    rw [heq] at this
    exact absurd this (by decide)
  have hwhole := readWhole h hrest.isDigit
  unfold readNumber
  dsimp only
  split
  next hnone => cases hnone.symm.trans hwhole
  next hsome =>
    cases hsome.symm.trans hwhole
    simp only [readFraction_end hpoint, readExponent_end hrest]
    rw [if_neg (by omega)]

theorem readNumber_decimal (negative : Bool) (place : List Char)
    {ds fraction text tail rest : List Char} {exponent? : Option Int} (h : IsWhole ds)
    (htext : ∀ c ∈ text.head?, c.isDigit = false) (hfraction : readFraction text = (fraction, tail))
    (hexponent : readExponent tail = (exponent?, rest)) (hmark : fraction ≠ [] ∨ exponent? ≠ none)
    : readNumber negative place (ds ++ text)
      = .ok (.number (.ofDecimal negative (digitsValue (ds ++ fraction))
        (exponent?.getD 0 - fraction.length)), rest) := by
  have hwhole := readWhole h htext
  unfold readNumber
  dsimp only
  split
  next hnone => cases hnone.symm.trans hwhole
  next hsome =>
    cases hsome.symm.trans hwhole
    simp only [hfraction, hexponent]
    split
    . simp at hmark
    . rfl

theorem readNumber_point (negative : Bool) (place : List Char) {ds rest : List Char}
    (h : IsWhole ds) (fraction : List Char) (hne : fraction ≠ [])
    (hfraction : ∀ c ∈ fraction, c.isDigit = true) (hrest : EndsNumber rest)
    : readNumber negative place (ds ++ '.' :: (fraction ++ rest))
      = .ok (.number
        (.ofDecimal negative (digitsValue (ds ++ fraction)) (-(fraction.length : Int))), rest) := by
  have hpoint : ∀ c ∈ ('.' :: (fraction ++ rest)).head?, c.isDigit = false := by simp
  rw [readNumber_decimal negative place h hpoint (readFraction_point hne hfraction hrest.isDigit)
    (readExponent_end hrest) (.inl hne), Option.getD_none, Int.zero_sub]

theorem isDigit_pad {width n : Nat} {c : Char} (h : c ∈ Double.Layout.pad width (Nat.toDigits 10 n))
    : c.isDigit = true := by
  unfold Double.Layout.pad at h
  rw [List.mem_append] at h
  cases h with
  | inl h =>
    rw [List.eq_of_mem_replicate h]
    decide
  | inr h => exact isDigit_toDigits h

theorem digitsValue_zeros_append (k : Nat) (s : List Char)
    : digitsValue (List.replicate k '0' ++ s) = digitsValue s := by
  rw [digitsValue_eq, digitsValue_eq, Nat.ofDigitChars_append, Nat.ofDigitChars_replicate_zero,
    Nat.mul_zero]

theorem digitsValue_append_zeros (s : List Char) (k : Nat)
    : digitsValue (s ++ List.replicate k '0') = digitsValue s * 10 ^ k := by
  rw [digitsValue_eq, digitsValue_eq, Nat.ofDigitChars_append, Nat.ofDigitChars_replicate_zero,
    Nat.mul_comm]

theorem readExponent_pad (e : Int) (width : Nat) {rest : List Char} (hrest : EndsNumber rest)
    : readExponent ('e' :: (if e < 0 then '-' else '+')
        :: (Double.Layout.pad width (Nat.toDigits 10 e.natAbs) ++ rest)) = (some e, rest) := by
  refine readExponent_text ?_ (fun c hc => isDigit_pad hc) ?_ hrest.isDigit
  . unfold Double.Layout.pad
    exact List.append_ne_nil_of_right_ne_nil _ Nat.toDigits_ne_nil
  . unfold Double.Layout.pad
    rw [digitsValue_zeros_append]
    exact Nat.ofDigitChars_ten_toDigits

theorem readNumber_exponent (negative : Bool) (place : List Char) {c : Char}
    {fraction rest : List Char} (h : IsWhole [c]) (hfraction : ∀ d ∈ fraction, d.isDigit = true)
    (e : Int) (width : Nat) (hrest : EndsNumber rest)
    : readNumber negative place
        ((match c :: fraction with
          | [c] => [c]
          | c :: r => c :: '.' :: r
          | [] => []) ++ 'e' :: (if e < 0 then '-' else '+')
            :: (Double.Layout.pad width (Nat.toDigits 10 e.natAbs) ++ rest))
      = .ok (.number (.ofDecimal negative (digitsValue (c :: fraction)) (e - fraction.length)),
        rest) := by
  have hexponent := readExponent_pad e width hrest
  cases fraction with
  | nil =>
    have hmark : ∀ d ∈ ('e' :: (if e < 0 then '-' else '+')
        :: (Double.Layout.pad width (Nat.toDigits 10 e.natAbs) ++ rest)).head?, d ≠ '.' := by simp
    exact readNumber_decimal negative place h (by simp) (readFraction_end hmark) hexponent
      (.inr (by simp))
  | cons d fraction =>
    exact readNumber_decimal negative place h (by simp)
      (readFraction_point (List.cons_ne_nil d fraction) hfraction (by simp)) hexponent
        (.inr (by simp))

theorem IsWhole.head {c : Char} {s : List Char} (h : IsWhole (c :: s)) (hne : c :: s ≠ ['0'])
    : IsWhole [c] := by
  cases h with
  | zero => exact absurd rfl hne
  | digits hc h =>
    apply IsWhole.digits hc
    intro d hd
    rw [List.mem_singleton] at hd
    rw [hd]
    exact h c (List.mem_cons_self ..)

theorem IsWhole.take {ds : List Char} (h : IsWhole ds) (hne : ds ≠ ['0']) {k : Nat} (hk : 0 < k)
    : IsWhole (ds.take k) := by
  cases h with
  | zero => exact absurd rfl hne
  | @digits c s hc h =>
    obtain ⟨k, rfl⟩ := Nat.exists_eq_succ_of_ne_zero (Nat.ne_of_gt hk)
    rw [List.take_succ_cons]
    apply IsWhole.digits hc
    intro d hd
    apply h
    rw [List.mem_cons] at hd ⊢
    exact hd.imp_right fun hd => List.mem_of_mem_take hd

open Double (Decimal Layout) in
theorem readNumber_render (l : Layout) {d : Decimal} (hd : d.digits ≠ 0) (negative : Bool)
    (place : List Char) {rest : List Char} (hrest : EndsNumber rest)
    : readNumber negative place (l.render d ++ rest) =
      .ok (.number (.ofDecimal negative d.digits d.exponent), rest) := by
  have hwhole := isWhole_toDigits d.digits
  have hne := toDigits_ne_zero hd
  have hvalue : digitsValue (Nat.toDigits 10 d.digits) = d.digits := Nat.ofDigitChars_ten_toDigits
  unfold Layout.render
  dsimp only
  generalize Nat.toDigits 10 d.digits = digits at hwhole hne hvalue ⊢
  have hdigit := hwhole.isDigit
  have hpos : 0 < digits.length := by
    cases hwhole with
    | zero => decide
    | digits _ _ => exact Nat.succ_pos _
  generalize hpoint : (digits.length : Int) + d.exponent = point
  split
  . split
    -- below one: zeros stand between the point and the digits
    next hle =>
      have hfraction : ∀ c ∈ List.replicate point.natAbs '0' ++ digits, c.isDigit = true := by
        intro c hc
        rw [List.mem_append] at hc
        cases hc with
        | inl hc =>
          rw [List.eq_of_mem_replicate hc]
          decide
        | inr hc => exact hdigit c hc
      have hread :=
        readNumber_point negative place .zero (List.replicate point.natAbs '0' ++ digits)
        (List.append_ne_nil_of_right_ne_nil _ (List.ne_nil_of_length_pos hpos)) hfraction hrest
      have hzeros : digitsValue (['0'] ++ (List.replicate point.natAbs '0' ++ digits)) =
          d.digits := by
        rw [← List.replicate_one, digitsValue_zeros_append, digitsValue_zeros_append, hvalue]
      have hexponent : -((List.replicate point.natAbs '0' ++ digits).length : Int) =
          d.exponent := by
        rw [List.length_append, List.length_replicate]
        omega
      rw [hzeros, hexponent] at hread
      exact hread
    . split
      -- a whole number: zeros stand between the digits and the point, and one behind it
      next hle =>
        generalize hk : point.toNat - digits.length = k
        have hread := readNumber_point negative place (hwhole.append_zeros hne k) ['0'] (by decide)
          (List.forall_mem_singleton.mpr (by decide)) hrest
        have hzeros : digitsValue (digits ++ List.replicate k '0' ++ ['0']) = d.digits * 10 ^
            (k + 1) := by
          rw [List.append_assoc, ← List.replicate_succ', digitsValue_append_zeros, hvalue]
        have hexponent : -((['0'].length : Nat) : Int) + ((k + 1 : Nat) : Int) = d.exponent := by
          rw [List.length_singleton]
          omega
        rw [hzeros, Double.ofDecimal_shift, hexponent] at hread
        rw [List.append_assoc _ _ rest]
        exact hread
      -- the point stands among the digits
      next hlt =>
        have htoNat : 0 < point.toNat := by omega
        have hread :=
          readNumber_point negative place (hwhole.take hne htoNat) (digits.drop point.toNat)
          (List.ne_nil_of_length_pos (by rw [List.length_drop]; omega))
          (fun c hc => hdigit c (List.mem_of_mem_drop hc)) hrest
        have hexponent : -((digits.drop point.toNat).length : Int) = d.exponent := by
          rw [List.length_drop]
          omega
        rw [List.take_append_drop, hvalue, hexponent] at hread
        rw [List.append_assoc]
        exact hread
  -- one digit stands before the point, and an exponent tells the size
  . cases digits with
    | nil => exact absurd hpos (by decide)
    | cons c fraction =>
      have hread := readNumber_exponent negative place (hwhole.head hne)
        (fun d hd => hdigit d (List.mem_cons_of_mem _ hd)) (point - 1) l.exponentWidth hrest
      have hexponent : point - 1 - (fraction.length : Int) = d.exponent := by
        rw [List.length_cons] at hpoint
        omega
      rw [hvalue, hexponent] at hread
      rw [List.append_assoc]
      exact hread

theorem ne_of_isDigit {c d : Char} (hc : c.isDigit = true) (hd : d.isDigit = false) : c ≠ d := by
  intro heq
  rw [heq, hd] at hc
  cases hc

theorem readValue_digit (fuel : Nat) {c : Char} (s : List Char) (h : c.isDigit = true)
    : readValue (fuel + 1) (c :: s) = readNumber false (c :: s) (c :: s) := by
  rw [readValue.eq_def]
  dsimp only
  split
  all_goals
    first
    | rfl
    | next heq =>
      injection heq with heq _
      exact absurd heq (ne_of_isDigit h (by decide))

theorem readValue_minus (fuel : Nat) {c : Char} (s : List Char) (h : c.isDigit = true)
    : readValue (fuel + 1) ('-' :: c :: s) = readNumber true ('-' :: c :: s) (c :: s) := by
  rw [readValue.eq_def]
  dsimp only
  split
  all_goals
    first
    | next heq =>
      injection heq with _ heq
      injection heq with heq _
      exact absurd heq (ne_of_isDigit h (by decide))
    | next heq =>
      injection heq with heq _
      exact absurd heq (by decide)
    | next heq =>
      cases heq
      rfl
    | next hnone => exact absurd rfl (hnone _)

theorem exists_digit_render (l : Double.Layout) (d : Double.Decimal)
    : ∃ c s, l.render d = c :: s ∧ c.isDigit = true := by
  have hwhole := isWhole_toDigits d.digits
  unfold Double.Layout.render
  dsimp only
  generalize Nat.toDigits 10 d.digits = digits at hwhole ⊢
  have hdigit := hwhole.isDigit
  split
  . split
    . exact ⟨'0', _, rfl, by decide⟩
    . cases digits with
      | nil => cases hwhole
      | cons c s =>
        have hc := hdigit c (List.mem_cons_self ..)
        split
        . exact ⟨c, _, rfl, hc⟩
        next hlt =>
          obtain ⟨k, hk⟩ : ∃ k, ((c :: s).length + d.exponent).toNat = k + 1 :=
            Nat.exists_eq_succ_of_ne_zero (by omega)
          rw [hk, List.take_succ_cons]
          exact ⟨c, _, rfl, hc⟩
  . cases digits with
    | nil => cases hwhole
    | cons c s =>
      have hc := hdigit c (List.mem_cons_self ..)
      cases s with
      | nil => exact ⟨c, _, rfl, hc⟩
      | cons e s => exact ⟨c, _, rfl, hc⟩

theorem readValue_signed (fuel : Nat) (negative : Bool) (body : List Char)
    (h : ∃ c s, body = c :: s ∧ c.isDigit = true) (rest : List Char)
    : ∃ place, readValue (fuel + 1) ((if negative then '-' :: body else body) ++ rest)
        = readNumber negative place (body ++ rest) := by
  obtain ⟨c, s, rfl, hc⟩ := h
  cases negative with
  | false => exact ⟨_, readValue_digit fuel (s ++ rest) hc⟩
  | true => exact ⟨_, readValue_minus fuel (s ++ rest) hc⟩

theorem readValue_number (fuel : Nat) (negative : Bool) (rank : Fin (2047 * 2 ^ 52))
    {rest : List Char} (hrest : EndsNumber rest)
    : readValue (fuel + 1) (writeNumber (.finite negative rank) ++ rest) =
      .ok (.number (.finite negative rank), rest) := by
  change readValue (fuel + 1) (Double.text (.finite negative rank) ++ rest) = _
  unfold Double.text
  dsimp only
  by_cases hzero : rank = 0
  . obtain ⟨place, hplace⟩ :=
      readValue_signed fuel negative "0.0".toList ⟨'0', _, rfl, by decide⟩ rest
    rw [if_pos hzero, hplace, hzero]
    exact readNumber_point negative place .zero ['0'] (by decide)
      (List.forall_mem_singleton.mpr (by decide)) hrest
  . have hpos : 0 < rank.val := Nat.pos_of_ne_zero fun h => hzero (Fin.ext h)
    obtain ⟨place, hplace⟩ :=
      readValue_signed fuel negative _ (exists_digit_render Double.layout _) rest
    have hread := Double.ofDecimal_finite
      (Double.Decimal.readsBack_iff.mp (Double.Decimal.shortest_readsBack hpos)) negative
    rw [if_neg hzero, hplace, readNumber_render _
      (Double.Decimal.shortest_digits_ne_zero hpos) negative place hrest, hread]

theorem readValue_int (fuel : Nat) {n : Int} (h : Numeral.isLong n = false) {rest : List Char}
    (hrest : EndsNumber rest)
    : readValue (fuel + 1) (Numeral.text n ++ rest) = .ok (.int n, rest) := by
  have hread : ∀ (negative : Bool) (k : Nat), Numeral.isLong k = false →
      readValue (fuel + 1)
        ((if negative then '-' :: Nat.toDigits 10 k else Nat.toDigits 10 k) ++ rest)
        = .ok (.int (if negative then -(k : Int) else k), rest) := by
    intro negative k hk
    have hwhole := isWhole_toDigits k
    have hdigit : ∃ c s, Nat.toDigits 10 k = c :: s ∧ c.isDigit = true := by
      obtain ⟨c, s, hs⟩ := List.exists_cons_of_ne_nil (Nat.toDigits_ne_nil (n := k) (b := 10))
      exact ⟨c, s, hs, hwhole.isDigit c (by rw [hs]; exact List.mem_cons_self ..)⟩
    have hvalue : digitsValue (Nat.toDigits 10 k) = k := Nat.ofDigitChars_ten_toDigits
    obtain ⟨place, hplace⟩ := readValue_signed fuel negative _ hdigit rest
    rw [hplace, readNumber_int negative place hwhole (Numeral.length_toDigits_le hk) hrest, hvalue]
  cases n with
  | ofNat k => exact hread false k h
  | negSucc k => exact hread true (k + 1) h

end Json

end DocStore

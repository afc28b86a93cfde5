import DocStore.Proofs.Json.Number
import DocStore.Proofs.Json.Short
import DocStore.Proofs.Json.Text

/-!
This module contains the proof that the reader of JSON texts reads a written tree as the tree, at
any depth and in any layout that keeps characters as they are.
-/

namespace DocStore

namespace Json

variable {style : Style}

theorem isSpace_newline {level : Nat} : ∀ c ∈ newline style level, isSpace c = true := by
  intro c hc
  unfold newline at hc
  split at hc
  . rw [List.mem_cons] at hc
    cases hc with
    | inl hc =>
      rw [hc]
      decide
    | inr hc =>
      rw [List.eq_of_mem_replicate hc]
      decide
  . cases hc

theorem separator_eq (style : Style) (level : Nat)
    : ∃ blanks, separator style level = ',' :: blanks ∧ ∀ c ∈ blanks, isSpace c = true := by
  unfold separator
  split
  . exact ⟨[' '], rfl, List.forall_mem_singleton.mpr (by decide)⟩
  . exact ⟨_, rfl, isSpace_newline⟩

theorem colon_eq (style : Style)
    : ∃ blanks, colon style = ':' :: blanks ∧ ∀ c ∈ blanks, isSpace c = true := by
  unfold colon
  split
  . exact ⟨[' '], rfl, List.forall_mem_singleton.mpr (by decide)⟩
  . exact ⟨[], rfl, by simp⟩

def BeginsPlain (s : List Char) : Prop := ∃ c t, s = c :: t ∧ isSpace c = false

theorem skipSpaces_append {blanks s : List Char} (hblanks : ∀ c ∈ blanks, isSpace c = true)
    (hs : BeginsPlain s)
    : skipSpaces (blanks ++ s) = s := by
  obtain ⟨c, t, rfl, hc⟩ := hs
  unfold skipSpaces
  rw [List.dropWhile_append_of_pos hblanks, List.dropWhile_cons_of_neg]
  simp [hc]

theorem skipSpaces_self {s : List Char} (hs : BeginsPlain s) : skipSpaces s = s :=
  @skipSpaces_append [] s (by simp) hs

theorem endsNumber_cons {c : Char} (rest : List Char) (h : isNumeralChar c = false) (hE : c ≠ 'E')
    : EndsNumber (c :: rest) := by
  intro d hd
  rw [List.head?_cons, Option.mem_some_iff] at hd
  rw [← hd]
  exact ⟨h, hE⟩

theorem endsNumber_of_isSpace {blanks s : List Char} (hblanks : ∀ c ∈ blanks, isSpace c = true)
    (hs : EndsNumber s) : EndsNumber (blanks ++ s) := by
  cases blanks with
  | nil => exact hs
  | cons c blanks =>
    have hc := hblanks c (List.mem_cons_self ..)
    simp only [isSpace, Bool.or_eq_true, decide_eq_true_eq] at hc
    rcases hc with ((hc | hc) | hc) | hc
    all_goals
      rw [hc]
      exact endsNumber_cons _ (by decide) (by decide)

theorem writeText_append (s rest : List Char)
    : writeText false s ++ rest = '"' :: (s.flatMap (writeChar false) ++ '"' :: rest) := by
  simp [writeText]

theorem writeText_beginsPlain (s rest : List Char) : BeginsPlain (writeText false s ++ rest) :=
  ⟨'"', _, writeText_append s rest, by decide⟩

def opensValue (c : Char) : Bool :=
  c.isDigit || ['n', 't', 'f', 'N', 'I', '-', '"', '[', '\x7b'].contains c

theorem opensValue_of_isDigit {c : Char} (h : c.isDigit = true) : opensValue c = true := by
  unfold opensValue
  rw [h, Bool.true_or]

theorem ne_of_opensValue {c d : Char} (hc : opensValue c = true) (hd : opensValue d = false)
    : c ≠ d := by
  intro heq
  rw [heq, hd] at hc
  cases hc

theorem isSpace_of_opensValue {c : Char} (h : opensValue c = true) : isSpace c = false := by
  simp only [isSpace, Bool.or_eq_false_iff, decide_eq_false_iff_not]
  exact ⟨⟨⟨ne_of_opensValue h (by decide), ne_of_opensValue h (by decide)⟩,
    ne_of_opensValue h (by decide)⟩,
    ne_of_opensValue h (by decide)⟩

def BeginsValue (s : List Char) : Prop := ∃ c t, s = c :: t ∧ opensValue c = true

theorem BeginsValue.append {s : List Char} (h : BeginsValue s) (rest : List Char)
    : BeginsValue (s ++ rest) := by
  obtain ⟨c, t, rfl, hc⟩ := h
  exact ⟨c, t ++ rest, rfl, hc⟩

theorem BeginsValue.plain {s : List Char} (h : BeginsValue s) : BeginsPlain s := by
  obtain ⟨c, t, hs, hc⟩ := h
  exact ⟨c, t, hs, isSpace_of_opensValue hc⟩

theorem toDigits_begins (n : Nat) : BeginsValue (Nat.toDigits 10 n) := by
  obtain ⟨c, t, hs⟩ := List.exists_cons_of_ne_nil (Nat.toDigits_ne_nil (n := n) (b := 10))
  refine ⟨c, t, hs, opensValue_of_isDigit (isDigit_toDigits (n := n) ?_)⟩
  rw [hs]
  exact List.mem_cons_self ..

theorem writeNumber_begins (x : Double) : BeginsValue (writeNumber x) := by
  cases x with
  | nan => exact ⟨'N', _, rfl, by decide⟩
  | infinite negative =>
    cases negative with
    | false => exact ⟨'I', _, rfl, by decide⟩
    | true => exact ⟨'-', _, rfl, by decide⟩
  | finite negative rank =>
    change BeginsValue (Double.text (.finite negative rank))
    unfold Double.text
    dsimp only
    cases negative with
    | true => exact ⟨'-', _, rfl, by decide⟩
    | false =>
      rw [if_neg (by decide)]
      split
      . exact ⟨'0', _, rfl, by decide⟩
      . obtain ⟨c, t, hs, hc⟩ := exists_digit_render Double.layout (Double.Decimal.shortest rank)
        exact ⟨c, t, hs, opensValue_of_isDigit hc⟩

theorem writeAt_begins (style : Style) (level : Nat) (j : Json)
    : BeginsValue (writeAt style level j) := by
  cases j with
  | null => exact ⟨'n', _, rfl, by decide⟩
  | bool b =>
    cases b with
    | false => exact ⟨'f', _, rfl, by decide⟩
    | true => exact ⟨'t', _, rfl, by decide⟩
  | int n =>
    cases n with
    | ofNat k => exact toDigits_begins k
    | negSucc k => exact ⟨'-', _, rfl, by decide⟩
  | number x => exact writeNumber_begins x
  | text s => exact ⟨'"', _, rfl, by decide⟩
  | array xs =>
    cases xs with
    | nil => exact ⟨'[', _, rfl, by decide⟩
    | cons x xs => exact ⟨'[', _, rfl, by decide⟩
  | object ms =>
    cases ms with
    | nil => exact ⟨'\x7b', _, rfl, by decide⟩
    | cons m ms => exact ⟨'\x7b', _, rfl, by decide⟩

theorem exists_fuel {level fuel : Nat} {j : Json} (h : 2 * (writeAt style level j).length ≤ fuel)
    : ∃ k, fuel = k + 1 := by
  obtain ⟨c, t, hj, _⟩ := writeAt_begins style level j
  rw [hj, List.length_cons] at h
  exact Nat.exists_eq_succ_of_ne_zero (by omega)

def IsRead (style : Style) (j : Json) : Prop :=
  ∀ level fuel rest, 2 * (writeAt style level j).length ≤ fuel → EndsNumber rest →
    readValue fuel (writeAt style level j ++ rest) = .ok (j, rest)

theorem endsNumber_writeItems (level : Nat) (xs : List Json) (rest : List Char)
    : EndsNumber (writeItems style level xs ++ (newline style (level - 1) ++ ']' :: rest)) := by
  cases xs with
  | nil =>
    rw [writeItems, List.nil_append]
    exact endsNumber_of_isSpace isSpace_newline (endsNumber_cons _ (by decide) (by decide))
  | cons x xs =>
    obtain ⟨blanks, hseparator, _⟩ := separator_eq style level
    rw [writeItems, hseparator]
    exact endsNumber_cons _ (by decide) (by decide)

theorem readItems_write (level : Nat) (rest : List Char) {x : Json} {xs : List Json}
    (hread : ∀ y ∈ x :: xs, IsRead style y) {fuel : Nat}
    (hfuel : 2 * ((writeAt style (level + 1) x).length + (writeItems style level xs).length) +
      1 ≤ fuel)
    : readItems fuel (writeAt style (level + 1) x
        ++ (writeItems style level xs ++ (newline style (level - 1) ++ ']' :: rest)))
      = .ok (x :: xs, rest) := by
  -- each item takes one step for itself and one for what follows it, which its characters pay for
  -- twice
  induction xs generalizing x fuel with
  | nil =>
    obtain ⟨fuel, rfl⟩ : ∃ k, fuel = k + 1 := Nat.exists_eq_succ_of_ne_zero (by omega)
    rw [readItems, hread x (List.mem_cons_self ..) _ _ _
      (by omega) (endsNumber_writeItems level [] rest)]
    dsimp only
    rw [writeItems, List.nil_append, skipSpaces_append isSpace_newline ⟨']', rest, rfl, by decide⟩]
    rfl
  | cons y xs ih =>
    obtain ⟨fuel, rfl⟩ : ∃ k, fuel = k + 1 := Nat.exists_eq_succ_of_ne_zero (by omega)
    obtain ⟨blanks, hseparator, hblanks⟩ := separator_eq style level
    have hlength : (writeItems style level (y :: xs)).length
        = blanks.length + 1 + (writeAt style (level + 1) y).length +
            (writeItems style level xs).length := by
      rw [writeItems, hseparator]
      simp
      omega
    have hrest := @ih y (fun z hz => hread z (List.mem_cons_of_mem _ hz)) fuel (by omega)
    rw [readItems, hread x (List.mem_cons_self ..) _ _ _
      (by omega) (endsNumber_writeItems level (y :: xs) rest)]
    dsimp only
    rw [writeItems, hseparator]
    simp only [List.append_assoc, List.cons_append]
    rw [skipSpaces_self ⟨',', _, rfl, by decide⟩]
    change completing [_] _ = _
    rw [skipSpaces_append hblanks ((writeAt_begins _ _ _).append _).plain, hrest]
    rfl

theorem readMembers_name (fuel : Nat) (k s : List Char)
    : readMembers (fuel + 1) (writeText false k ++ (colon style ++ s))
      = match readValue fuel (skipSpaces s) with
        | .error e => .error e
        | .ok (v, rest) =>
          match skipSpaces rest with
          | '\x7d' :: rest => .ok ([(k, v)], rest)
          | ',' :: rest =>
            completing [v] ((readMembers fuel (skipSpaces rest)).map fun (ms, r) =>
              ((k, v) :: ms, r))
          | rest => completing [v] (refuse .comma rest) := by
  obtain ⟨blanks, hcolon, hblanks⟩ := colon_eq style
  have hskip : skipSpaces (blanks ++ s) = skipSpaces s := List.dropWhile_append_of_pos hblanks
  rw [writeText_append, hcolon, readMembers]
  dsimp only
  rw [readText_text]
  dsimp only
  rw [List.cons_append, skipSpaces_self ⟨':', _, rfl, by decide⟩]
  exact hskip ▸ rfl

theorem endsNumber_writeMembers (level : Nat) (ms : List (List Char × Json)) (rest : List Char)
    : EndsNumber (writeMembers style level ms ++
      (newline style (level - 1) ++ '\x7d' :: rest)) := by
  cases ms with
  | nil =>
    rw [writeMembers, List.nil_append]
    exact endsNumber_of_isSpace isSpace_newline (endsNumber_cons _ (by decide) (by decide))
  | cons m ms =>
    obtain ⟨blanks, hseparator, _⟩ := separator_eq style level
    rw [writeMembers, hseparator]
    exact endsNumber_cons _ (by decide) (by decide)

theorem readMembers_write (hstyle : style.asciiOnly = false) (level : Nat) (rest : List Char)
    {k : List Char}
    {v : Json} {ms : List (List Char × Json)} (hread : ∀ m ∈ (k, v) :: ms, IsRead style m.2)
    {fuel : Nat}
    (hfuel : 2 * ((writeAt style (level + 1) v).length + (writeMembers style level ms).length) +
      1 ≤ fuel)
    : readMembers fuel (writeText false k ++ (colon style ++ (writeAt style (level + 1) v
        ++ (writeMembers style level ms ++ (newline style (level - 1) ++ '\x7d' :: rest)))))
      = .ok ((k, v) :: ms, rest) := by
  induction ms generalizing k v fuel with
  | nil =>
    obtain ⟨fuel, rfl⟩ : ∃ n, fuel = n + 1 := Nat.exists_eq_succ_of_ne_zero (by omega)
    rw [readMembers_name, skipSpaces_self ((writeAt_begins _ _ _).append _).plain,
      hread (k, v) (List.mem_cons_self ..) _ _ _ (by dsimp only; omega)
        (endsNumber_writeMembers level [] rest)]
    dsimp only
    rw [writeMembers, List.nil_append,
      skipSpaces_append isSpace_newline ⟨'\x7d', rest, rfl, by decide⟩]
    rfl
  | cons m ms ih =>
    obtain ⟨l, w⟩ := m
    obtain ⟨fuel, rfl⟩ : ∃ n, fuel = n + 1 := Nat.exists_eq_succ_of_ne_zero (by omega)
    obtain ⟨blanks, hseparator, hblanks⟩ := separator_eq style level
    have hlength : (writeMembers style level ((l, w) :: ms)).length
        = blanks.length + 1 + (writeText false l).length + (colon style).length
          + (writeAt style (level + 1) w).length + (writeMembers style level ms).length := by
      rw [writeMembers, hseparator, hstyle]
      simp
      omega
    have hrest := @ih l w (fun m hm => hread m (List.mem_cons_of_mem _ hm)) fuel (by omega)
    rw [readMembers_name, skipSpaces_self ((writeAt_begins _ _ _).append _).plain,
      hread (k, v) (List.mem_cons_self ..) _ _ _ (by dsimp only; omega)
        (endsNumber_writeMembers level ((l, w) :: ms) rest)]
    dsimp only
    rw [writeMembers, hseparator, hstyle]
    simp only [List.append_assoc, List.cons_append]
    rw [skipSpaces_self ⟨',', _, rfl, by decide⟩]
    change completing [_] _ = _
    rw [skipSpaces_append hblanks (writeText_beginsPlain l _), hrest]
    rfl

theorem readValue_array (fuel : Nat) {blanks s : List Char}
    (hblanks : ∀ c ∈ blanks, isSpace c = true) (h : BeginsValue s)
    : readValue (fuel + 1) ('[' :: (blanks ++ s)) =
      (readItems fuel s).map fun (xs, r) => (.array xs, r) := by
  rw [readValue]
  dsimp only
  rw [skipSpaces_append hblanks h.plain]
  obtain ⟨c, t, rfl, hc⟩ := h
  split
  next heq =>
    cases heq
    cases hc
  . rfl

theorem readValue_object (fuel : Nat) (k s : List Char) {blanks : List Char}
    (hblanks : ∀ c ∈ blanks, isSpace c = true)
    : readValue (fuel + 1) ('\x7b' :: (blanks ++ (writeText false k ++ s)))
      = (readMembers fuel (writeText false k ++ s)).map fun (ms, r) => (.object ms, r) := by
  rw [readValue]
  dsimp only
  rw [writeText_append, skipSpaces_append hblanks ⟨'"', _, rfl, by decide⟩]
  rfl

theorem isRead_array {xs : List Json} (hread : ∀ x ∈ xs, IsRead style x)
    : IsRead style (.array xs) := by
  intro level fuel rest hfuel hrest
  obtain ⟨fuel, rfl⟩ := exists_fuel hfuel
  cases xs with
  | nil => simp [writeAt, readValue, skipSpaces, isSpace]
  | cons x xs =>
    have hlength : (writeAt style level (.array (x :: xs))).length
        = (newline style level).length + (writeAt style (level + 1) x).length +
          (writeItems style level xs).length
          + (newline style (level - 1)).length + 2 := by
      rw [writeAt]
      simp
      omega
    rw [writeAt]
    simp only [List.append_assoc, List.cons_append, List.nil_append]
    rw [readValue_array fuel isSpace_newline ((writeAt_begins _ _ _).append _),
      readItems_write level rest hread (by omega)]
    rfl

theorem isRead_object (hstyle : style.asciiOnly = false) {ms : List (List Char × Json)}
    (hread : ∀ m ∈ ms, IsRead style m.2) : IsRead style (.object ms) := by
  intro level fuel rest hfuel hrest
  obtain ⟨fuel, rfl⟩ := exists_fuel hfuel
  cases ms with
  | nil => simp [writeAt, readValue, skipSpaces, isSpace]
  | cons m ms =>
    obtain ⟨k, v⟩ := m
    have hlength : (writeAt style level (.object ((k, v) :: ms))).length
        = (newline style level).length + (writeText false k).length + (colon style).length
          + (writeAt style (level + 1) v).length + (writeMembers style level ms).length
          + (newline style (level - 1)).length + 2 := by
      rw [writeAt, hstyle]
      simp
      omega
    rw [writeAt, hstyle]
    simp only [List.append_assoc, List.cons_append, List.nil_append]
    rw [readValue_object fuel k _ isSpace_newline,
      readMembers_write hstyle level rest hread (by omega)]
    rfl

theorem isRead_number (x : Double) : IsRead style (.number x) := by
  intro level fuel rest hfuel hrest
  obtain ⟨fuel, rfl⟩ := exists_fuel hfuel
  rw [writeAt]
  cases x with
  | nan => rfl
  | infinite negative =>
    cases negative with
    | false => rfl
    | true => rfl
  | finite negative rank => exact readValue_number fuel negative rank hrest

theorem readValue_write (hstyle : style.asciiOnly = false) {j : Json} (h : j.IsShort)
    : IsRead style j := by
  induction h with
  | null =>
    intro level fuel rest hfuel hrest
    obtain ⟨fuel, rfl⟩ := exists_fuel hfuel
    rw [writeAt]
    rfl
  | bool b =>
    intro level fuel rest hfuel hrest
    obtain ⟨fuel, rfl⟩ := exists_fuel hfuel
    rw [writeAt]
    cases b with
    | false => rfl
    | true => rfl
  | @int n hn =>
    intro level fuel rest hfuel hrest
    obtain ⟨fuel, rfl⟩ := exists_fuel hfuel
    exact readValue_int fuel hn hrest
  | number x => exact isRead_number x
  | text s =>
    intro level fuel rest hfuel hrest
    obtain ⟨fuel, rfl⟩ := exists_fuel hfuel
    rw [writeAt, hstyle, writeText_append, readValue]
    dsimp only
    rw [readText_text]
    rfl
  | array _ ih => exact isRead_array ih
  | object _ ih => exact isRead_object hstyle ih

theorem read_write (hstyle : style.asciiOnly = false) {j : Json} (h : j.IsShort)
    : read (j.write style) = .ok j := by
  have hbegins := writeAt_begins style 1 j
  have hread := readValue_write hstyle h 1 (2 * (writeAt style 1 j).length + 2) [] (by omega) (by
    intro c hc
    cases hc)
  rw [List.append_nil] at hread
  unfold write read
  split
  next heq =>
    obtain ⟨c, t, hc, hopens⟩ := hbegins
    rw [hc] at heq
    cases heq
    cases hopens
  . rw [skipSpaces_self hbegins.plain, hread]
    rfl

end Json

end DocStore

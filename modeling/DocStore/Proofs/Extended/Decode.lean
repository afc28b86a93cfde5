import DocStore.Proofs.Json.Short
import DocStore.Proofs.Value.Stored
import DocStore.Proofs.Work

/-!
This module contains what typed text is read as: every value is one that a collection can hold, with
options and a subtype that a typed form can have, and every object is one that stands for itself.
-/

namespace DocStore

namespace Extended

def IsOwn (fs : Fields) : Prop := areTyped fs = false

/-- Typed forms that are left out. These are kept as objects. -/
inductive IsLeftOut (fs : Fields) : Prop where
  | around {mark v} (first : firstMark? fs = some (mark, v)) (h : areAround v fs = true)
  | reference {v} (first : firstMark? fs = some (.ref, v))
  | code {s} (first : firstMark? fs = some (.code, .text s))
      (only : ∀ f ∈ fs, f.1 = .text "$code" ∨ f.1 = .text "$scope")
      (scope : Fields.getD fs "$scope" = .null ∨ ∃ gs, Fields.getD fs "$scope" = .object gs)
  | decimal {s} (first : firstMark? fs = some (.numberDecimal, .text s)) (only : fs.length = 1)
  | oldPattern {v bits} (first : firstMark? fs = some (.regex, v)) (bytes : isBytes v = true)
      (options : oldOptions fs = .ok bits)
  | pattern {parts options p} (first : firstMark? fs = some (.regularExpression, .object parts))
      (only : fs.length = 1) (two : parts.length = 2)
      (options : Fields.get? parts (.text "options") = some (.text options))
      (pattern : Fields.get? parts (.text "pattern") = some p) (bytes : isBytes p = true)

def StandForThemselves (fs : Fields) : Prop := IsOwn fs ∨ IsLeftOut fs

end Extended

inductive Value.IsRead : Value → Prop where
  | null : IsRead .null
  | bool (b) : IsRead (.bool b)
  | int {n} (h : Numeral.isLong n = false) : IsRead (.int n)
  | long {n} (h : Numeral.isLong n = false) : IsRead (.long n)
  | double (x) : IsRead (.double x)
  | text (s) : IsRead (.text s)
  | date {wall} (h : Moment.inRange wall = true) : IsRead (.date (.utc wall))
  | id (i) : IsRead (.id i)
  | list {xs} (h : ∀ x ∈ xs, IsRead x) : IsRead (.list xs)
  | bytes (bs) : IsRead (.bytes bs)
  | binary {t} (ht : t ≠ 0) (bs) : IsRead (.binary t bs)
  | object {fs} (keyed : Fields.IsKeyed fs) (own : Extended.StandForThemselves fs)
      (h : ∀ f ∈ fs, IsRead f.2) : IsRead (.object fs)
  | storedRegex (s letters) : IsRead (.storedRegex s (Extended.optionsBits.ofLetters letters) true)
  | minKey : IsRead .minKey
  | maxKey : IsRead .maxKey
  | timestamp {t i} (ht : t < 2 ^ 32) (hi : i < 2 ^ 32) : IsRead (.timestamp t i)

theorem Value.IsRead.isStored {v : Value} (h : v.IsRead) : v.IsStored := by
  induction h with
  | null => exact .null
  | bool b => exact .bool b
  | int h => exact .int h
  | long h => exact .long h
  | double x => exact .double x
  | text s => exact .text s
  | date h => exact .date h
  | id i => exact .id i
  | list _ ih => exact .list ih
  | bytes bs => exact .bytes bs
  | binary _ bs => exact .binary _ bs
  | object keyed _ _ ih => exact .object keyed ih
  | storedRegex s letters => exact .storedRegex s _
  | minKey => exact .minKey
  | maxKey => exact .maxKey
  | timestamp ht hi => exact .timestamp ht hi

structure Fields.AreRead (fs : Fields) : Prop where
  keyed : fs.IsKeyed
  values : ∀ f ∈ fs, f.2.IsRead

theorem Fields.AreRead.isStored {fs : Fields} (h : fs.AreRead) : fs.IsStored :=
  ⟨h.keyed, fun f hf => (h.values f hf).isStored⟩

namespace Extended

open Work

def IsLeaf (v : Value) : Prop := v.IsRead ∧ ∀ fs, v ≠ .object fs

def IsReading (fs : Fields) (v : Value) : Prop :=
  (v = .object fs ∧ StandForThemselves fs) ∨ IsLeaf v

theorem IsReading.isRead {fs : Fields} {v : Value} (hfs : fs.AreRead) (h : IsReading fs v)
    : v.IsRead := by
  cases h with
  | inl h =>
    rw [h.1]
    exact .object hfs.keyed h.2 hfs.values
  | inr h => exact h.1

theorem toInteger_yields {v : Value} (hv : v.IsStored)
    : Yields (toInteger v) fun n => Numeral.isLong n = false := by
  have hbytes : ∀ w bs, Yields (toInteger.ofBytes w bs) fun n => Numeral.isLong n = false := by
    intro w bs
    unfold toInteger.ofBytes
    split
    next hr => exact yields_ok (Numeral.readInteger_isLong hr)
    . exact yields_error
    . exact yields_error
  cases hv with
  | text s =>
    unfold toInteger
    dsimp only
    split
    next hr => exact yields_ok (Numeral.readInteger_isLong hr)
    . exact yields_error
    . exact yields_error
  | bytes bs => exact hbytes _ _
  | binary t bs => exact hbytes _ _
  | double x =>
    cases x with
    | nan => exact yields_error
    | infinite negative => exact yields_error
    | finite negative rank =>
      unfold toInteger
      dsimp only
      split
      next ht => exact yields_ok (Double.truncate?_isLong ht)
      . exact yields_error
  | bool b =>
    apply yields_ok
    refine Numeral.isLong_eq_false 1 ?_ (by decide)
    cases b with
    | false => decide
    | true => decide
  | int hn => exact yields_ok hn
  | long hn => exact yields_ok hn
  | _ => exact yields_error

theorem dateOfMillis_yields (n : Int) : Yields (dateOfMillis n) fun m => (Value.date m).IsRead := by
  unfold dateOfMillis
  dsimp only
  split
  . exact yields_error
  . split
    . exact yields_error
    . split
      next hr => exact yields_ok (.date hr)
      . exact yields_error

theorem readDate_yields (s : List Char) : Yields (readDate s) fun m => (Value.date m).IsRead := by
  unfold readDate
  split
  . exact yields_error
  . dsimp only
    split
    all_goals
      refine yields_then fun micros => yields_then fun m => ?_
      split
      . exact yields_error
      . split
        . exact yields_error
        . refine yields_then fun secs => ?_
          split
          next hr => exact yields_ok (.date hr)
          . exact yields_error

theorem decodeDate_yields (v : Value) : Yields (decodeDate v) IsLeaf := by
  unfold decodeDate
  split
  . exact yields_map (readDate_yields _) fun _ hm => ⟨hm, nofun⟩
  . refine yields_then fun n => yields_bind (dateOfMillis_yields n) ?_
    intro m hm
    exact yields_ok ⟨hm, nofun⟩

theorem optionsBits_yields (v : Value)
    : Yields (optionsBits v) fun bits => ∃ letters, bits = optionsBits.ofLetters letters := by
  unfold optionsBits
  split
  . exact yields_ok ⟨_, rfl⟩
  . exact yields_then fun letters => yields_ok ⟨letters, rfl⟩
  . exact yields_then fun letters => yields_ok ⟨letters, rfl⟩
  . exact yields_then fun letters => yields_ok ⟨letters, rfl⟩
  . exact yields_ok ⟨[], rfl⟩
  . exact yields_ok ⟨[], rfl⟩
  . exact yields_error

theorem oldOptions_yields (fs : Fields)
    : Yields (oldOptions fs) fun bits => ∃ letters, bits = optionsBits.ofLetters letters := by
  unfold oldOptions
  split
  . exact optionsBits_yields _
  . exact yields_ok ⟨[], rfl⟩

theorem decodeOldRegex_yields {v : Value} {fs : Fields} (hmark : firstMark? fs = some (.regex, v))
    : Yields (decodeOldRegex v fs) (IsReading fs) := by
  unfold decodeOldRegex
  split
  . refine yields_map (oldOptions_yields fs) ?_
    rintro _ ⟨letters, rfl⟩
    exact .inr ⟨.storedRegex _ letters, nofun⟩
  next htext =>
    split
    next hbytes =>
      intro w hw
      obtain ⟨bits, hbits, rfl⟩ := map_ok hw
      exact .inl ⟨rfl, .inr (.oldPattern hmark hbytes hbits)⟩
    next hbytes =>
      refine yields_ok (.inl ⟨rfl, .inl ?_⟩)
      unfold IsOwn areTyped
      rw [hmark]
      dsimp only
      rw [Bool.or_eq_false_iff]
      refine ⟨?_, Bool.eq_false_iff.mpr hbytes⟩
      unfold isText
      split
      . exact absurd rfl (htext _)
      . rfl

theorem onlyField_yields (mark : Mark) (fs : Fields)
    : Yields (onlyField mark fs) fun _ => fs.length = 1 := by
  unfold onlyField
  split
  next h => exact yields_ok h
  . exact yields_error

theorem part_ok {v w : Value} {name : String} (h : part v name = .ok w)
    : ∃ parts, v = .object parts ∧ Fields.get? parts (.text name) = some w := by
  unfold part at h
  split at h
  . split at h
    . cases h
      exact ⟨_, rfl, ‹_›⟩
    . cases h
  . cases h

theorem decodeRegex_yields {v : Value} {fs : Fields}
    (hmark : firstMark? fs = some (.regularExpression, v))
    : Yields (decodeRegex v fs) (IsReading fs) := by
  unfold decodeRegex
  refine yields_bind (onlyField_yields _ fs) fun _ honly => yields_after fun n hn => ?_
  dsimp only
  split
  . exact yields_error
  next htwo =>
    refine yields_after fun o ho => ?_
    split
    . refine yields_after fun p hp => ?_
      split
      . exact yields_ok (.inr ⟨.storedRegex _ _, nofun⟩)
      . split
        next hbytes =>
          obtain ⟨parts, rfl, hoptions⟩ := part_ok ho
          obtain ⟨_, hparts, hpattern⟩ := part_ok hp
          cases hparts
          cases hn
          exact yields_ok
            (.inl
            ⟨rfl, .inr (.pattern hmark honly (Decidable.not_not.mp htwo) hoptions hpattern hbytes)⟩)
        . exact yields_error
    . exact yields_error

theorem decodeCode_yields {v : Value} {fs : Fields} (hmark : firstMark? fs = some (.code, v))
    : Yields (decodeCode v fs) (IsReading fs) := by
  unfold decodeCode
  dsimp only
  split
  . exact yields_error
  next hextra =>
    have honly : ∀ f ∈ fs, f.1 = .text "$code" ∨ f.1 = .text "$scope" := by
      intro f hf
      rw [List.any_eq_true] at hextra
      rw [← Value.equals_text, ← Value.equals_text, ← Bool.or_eq_true, ← Bool.not_eq_false]
      exact fun hother => hextra ⟨f, hf, by rw [hother]; rfl⟩
    split
    . split
      next hscope => exact yields_ok (.inl ⟨rfl, .inr (.code hmark honly (.inl hscope))⟩)
      next hscope => exact yields_ok (.inl ⟨rfl, .inr (.code hmark honly (.inr ⟨_, hscope⟩))⟩)
      . exact yields_error
    . exact yields_error

theorem binaryValue_yields (t : Int) (bs : List UInt8) : Yields (binaryValue t bs) IsLeaf := by
  unfold binaryValue
  split
  . exact yields_ok ⟨.bytes _, nofun⟩
  . split
    . exact yields_error
    . refine yields_ok ⟨.binary ?_ _, nofun⟩
      rw [ne_eq, ← UInt8.toNat_inj, UInt8.toNat_ofNat']
      change ¬ t.toNat % 256 = 0
      omega

theorem decodeOldBinary_yields (v t : Value) : Yields (decodeOldBinary v t) IsLeaf := by
  have htext : ∀ s, Yields (decodeOldBinary v (.text s)) IsLeaf := by
    intro s
    unfold decodeOldBinary
    refine yields_then fun digits => yields_then fun first => ?_
    dsimp only
    split
    all_goals
      refine yields_then fun number => ?_
      split
      . refine yields_then fun bs => ?_
        exact binaryValue_yields _ _
      . exact yields_error
  cases t with
  | text s => exact htext s
  | _ =>
    unfold decodeOldBinary
    dsimp only
    split
    . exact htext _
    . exact yields_error

theorem decodeBinary_yields (v : Value) (fs : Fields) : Yields (decodeBinary v fs) IsLeaf := by
  unfold decodeBinary
  split
  . exact decodeOldBinary_yields _ _
  . refine yields_then fun data => yields_then fun subtype => ?_
    split
    . dsimp only
      split
      . exact yields_error
      . refine yields_then fun n => ?_
        split
        . exact yields_error
        . refine yields_then fun bs => yields_then fun t => ?_
          exact binaryValue_yields _ _
    . exact yields_error
    . exact yields_error

theorem decodeTimestamp_yields (v : Value) (fs : Fields)
    : Yields (decodeTimestamp v fs) IsLeaf := by
  have hparts : ∀ t i : Int, Yields (do
      if t < 0 ∨ 2 ^ 32 ≤ t then throw (.timestampRange "time")
      if i < 0 ∨ 2 ^ 32 ≤ i then throw (.timestampRange "inc")
      return .timestamp t.toNat i.toNat : Except DecodeFault Value) IsLeaf := by
    intro t i
    dsimp only
    split
    . exact yields_error
    . split
      . exact yields_error
      . refine yields_ok ⟨.timestamp ?_ ?_, nofun⟩
        . omega
        . omega
  unfold decodeTimestamp
  refine yields_then fun _ => ?_
  dsimp only
  split
  . refine yields_then fun parts => ?_
    obtain ⟨time, increment⟩ := parts
    dsimp only
    split
    . refine yields_then fun t => ?_
      split
      . exact yields_then (hparts t)
      . exact yields_error
    . split
      . refine yields_then fun t => ?_
        split
        . exact yields_then (hparts t)
        . exact yields_error
      . exact yields_error
  . exact yields_error

theorem decodeEnd_yields (mark : Mark) {v : Value} (hv : IsLeaf v) (fv : Value) (fs : Fields)
    : Yields (decodeEnd mark v fv fs) IsLeaf := by
  unfold decodeEnd
  split
  . dsimp only
    split
    . exact yields_error
    . exact yields_ok hv
  . exact yields_error

theorem decodeId_ensures (v : Value) : Ensures (decodeId v) IsLeaf := by
  have hbytes : ∀ w bs, Ensures (decodeId.ofBytes w bs) IsLeaf := by
    intro w bs
    unfold decodeId.ofBytes
    split
    . exact ensures_pure ⟨.id _, nofun⟩
    . exact ensures_throw
  unfold decodeId
  split
  . refine ensures_then fun i => ?_
    exact ensures_pure ⟨.id i, nofun⟩
  . exact ensures_pure ⟨.id _, nofun⟩
  . split
    . exact ensures_pure ⟨.id _, nofun⟩
    . exact ensures_throw
  . exact hbytes _ _
  . exact hbytes _ _
  . exact ensures_throw

theorem name_of_ofName? {s : String} {mark : Mark} (h : Mark.ofName? s = some mark)
    : mark.name = s := by
  simpa using List.find?_some h

theorem mem_of_firstMark? {fs : Fields} {mark : Mark} {v : Value}
    (h : firstMark? fs = some (mark, v))
    : (.text mark.name, v) ∈ fs := by
  unfold firstMark? at h
  obtain ⟨⟨k, w⟩, hf, h⟩ := List.exists_of_findSome?_eq_some h
  split at h
  next s hs =>
    obtain ⟨m, hm, he⟩ := Option.map_eq_some_iff.mp h
    cases he
    cases hs
    rw [name_of_ofName? hm]
    exact hf
  . cases h

theorem eq_of_firstMark? {fs : Fields} {mark : Mark} {v : Value}
    (h : firstMark? fs = some (mark, v))
    (hlength : fs.length = 1) : fs = [(.text mark.name, v)] := by
  obtain ⟨f, rfl⟩ := List.length_eq_one_iff.mp hlength
  rw [List.mem_singleton.mp (mem_of_firstMark? h)]

theorem interpret_ensures {mark : Mark} {v : Value} {fs : Fields} (hv : v.IsStored)
    (hmark : firstMark? fs = some (mark, v)) : Ensures (interpret mark v fs) (IsReading fs) := by
  have hleaf : ∀ {x : Decoding Value}, Ensures x IsLeaf → Ensures x (IsReading fs) := by
    intro x hx s w s' hw
    exact .inr (hx s w s' hw)
  cases mark with
  | oid => exact ensures_then fun _ => hleaf (decodeId_ensures v)
  | date => exact ensures_then fun _ => hleaf (ensures_lift (decodeDate_yields v))
  | regex => exact ensures_lift (decodeOldRegex_yields hmark)
  | minKey => exact hleaf (ensures_lift (decodeEnd_yields _ ⟨.minKey, nofun⟩ _ _))
  | maxKey => exact hleaf (ensures_lift (decodeEnd_yields _ ⟨.maxKey, nofun⟩ _ _))
  | binary => exact hleaf (ensures_lift (decodeBinary_yields _ _))
  | uuid =>
    refine ensures_then fun _ => ?_
    split
    . refine ensures_then fun bs => ?_
      exact ensures_pure (.inr ⟨.binary (by decide) _, nofun⟩)
    . exact ensures_throw
  | undefined => exact ensures_pure (.inr ⟨.null, nofun⟩)
  | numberLong =>
    refine ensures_then fun _ => ensures_bind (ensures_lift (toInteger_yields hv)) ?_
    intro n hn
    exact ensures_pure (.inr ⟨.long hn, nofun⟩)
  | timestamp => exact hleaf (ensures_lift (decodeTimestamp_yields _ _))
  | dbPointer => exact ensures_then fun _ => ensures_throw
  | regularExpression => exact ensures_lift (decodeRegex_yields hmark)
  | symbol => exact ensures_then fun _ => ensures_pure (.inr ⟨.text _, nofun⟩)
  | numberInt =>
    refine ensures_then fun _ => ?_
    split
    . refine ensures_bind (ensures_lift (toInteger_yields hv)) ?_
      intro n hn
      exact ensures_pure (.inr ⟨.int hn, nofun⟩)
    . exact ensures_throw
  | numberDouble =>
    refine ensures_then fun _ => ?_
    split
    . split
      . exact ensures_pure (.inr ⟨.double _, nofun⟩)
      . exact ensures_throw
    . exact ensures_throw
  | numberDecimal =>
    refine ensures_bind (ensures_lift (onlyField_yields _ fs)) ?_
    intro _ hlength
    split
    . exact ensures_pure (.inl ⟨rfl, .inr (.decimal hmark hlength)⟩)
    . exact ensures_throw
  | ref => exact ensures_pure (.inl ⟨rfl, .inr (.reference hmark)⟩)
  | code => exact ensures_lift (decodeCode_yields hmark)

theorem decodeObject_ensures {fs : Fields} (hfs : fs.AreRead)
    : Ensures (decodeObject fs) (IsReading fs) := by
  unfold decodeObject
  split
  next mark v hm =>
    split
    next haround => exact ensures_pure (.inl ⟨rfl, .inr (.around hm haround)⟩)
    . exact interpret_ensures (hfs.values _ (mem_of_firstMark? hm)).isStored hm
  next hm =>
    refine ensures_pure (.inl ⟨rfl, .inl ?_⟩)
    unfold IsOwn areTyped
    rw [hm]

theorem decodeObject_of_mark {fs : Fields} {mark : Mark} {v : Value}
    (hmark : firstMark? fs = some (mark, v))
    (h : areAround v fs = false) : decodeObject fs = interpret mark v fs := by
  unfold decodeObject
  rw [hmark]
  dsimp only
  rw [h]
  rfl

theorem areAround_singleton (mark : Mark) (v : Value)
    : areAround v [(.text mark.name, v)] = holdsTyped v := by
  have htype : Fields.getD [(.text mark.name, v)] "$type" = .null := by
    unfold Fields.getD
    rw [Fields.get?_cons, if_neg]
    . rfl
    . rw [Value.equals_text, Value.text.injEq]
      cases mark <;> decide
  have hnull : holdsTyped .null = false := rfl
  unfold areAround
  rw [htype, hnull, Bool.or_false]

theorem decodeObject_marked (mark : Mark) {v : Value} (h : holdsTyped v = false)
    : decodeObject [(.text mark.name, v)] = interpret mark v [(.text mark.name, v)] := by
  apply decodeObject_of_mark
  . cases mark <;> rfl
  . rw [areAround_singleton, h]

def AreEntries (fs : Fields) : Prop := ∀ f ∈ fs, (∃ s, f.1 = .text s) ∧ f.2.IsRead

theorem AreEntries.cons {s : List Char} {v : Value} {fs : Fields} (hv : v.IsRead)
    (hfs : AreEntries fs)
    : AreEntries ((.ofText s, v) :: fs) := by
  intro f hf
  rw [List.mem_cons] at hf
  cases hf with
  | inl hf =>
    rw [hf]
    exact ⟨⟨_, rfl⟩, hv⟩
  | inr hf => exact hfs f hf

theorem AreEntries.ofList {fs : Fields} (h : AreEntries fs) : (Fields.ofList fs).AreRead := by
  refine ⟨Fields.IsKeyed.merge (fun g hg => (h g hg).1) .nil, ?_⟩
  intro f hf
  cases Fields.mem_merge hf with
  | inl hf =>
    obtain ⟨g, hg, he⟩ := hf
    rw [he]
    exact (h g hg).2
  | inr hf => cases hf

theorem decodeItems_ensures {js : List Json} (h : ∀ j ∈ js, Ensures (decode j) Value.IsRead)
    : Ensures (decodeItems js) fun vs => ∀ v ∈ vs, v.IsRead := by
  induction js with
  | nil =>
    rw [decodeItems]
    apply ensures_pure
    simp
  | cons j js ih =>
    rw [decodeItems]
    refine ensures_bind (h j (List.mem_cons_self ..)) ?_
    intro v hv
    refine ensures_bind (ih fun k hk => h k (List.mem_cons_of_mem _ hk)) ?_
    intro vs hvs
    apply ensures_pure
    simpa using And.intro hv hvs

theorem decodeMembers_ensures {ms : List (List Char × Json)}
    (h : ∀ m ∈ ms, Ensures (decode m.2) Value.IsRead)
    : Ensures (decodeMembers ms) AreEntries := by
  induction ms with
  | nil =>
    rw [decodeMembers]
    apply ensures_pure
    simp [AreEntries]
  | cons m ms ih =>
    obtain ⟨k, j⟩ := m
    rw [decodeMembers]
    refine ensures_bind (h (k, j) (List.mem_cons_self ..)) ?_
    intro v hv
    refine ensures_bind (ih fun m hm => h m (List.mem_cons_of_mem _ hm)) ?_
    intro fs hfs
    exact ensures_pure (hfs.cons hv)

theorem decode_array_ensures {js : List Json} (h : ∀ j ∈ js, Ensures (decode j) Value.IsRead)
    : Ensures (decode (.array js)) Value.IsRead := by
  rw [decode]
  exact ensures_bind (decodeItems_ensures h) fun vs hvs => ensures_pure (.list hvs)

theorem decode_object_ensures {ms : List (List Char × Json)}
    (h : ∀ m ∈ ms, Ensures (decode m.2) Value.IsRead)
    : Ensures (decode (.object ms)) Value.IsRead := by
  rw [decode]
  refine ensures_bind (decodeMembers_ensures h) ?_
  intro fs hfs s v s' hv
  exact (decodeObject_ensures hfs.ofList s v s' hv).isRead hfs.ofList

theorem decode_reads {j : Json} (h : j.IsShort) : Ensures (decode j) Value.IsRead := by
  induction h with
  | null =>
    rw [decode]
    exact ensures_pure .null
  | bool b =>
    rw [decode]
    exact ensures_pure (.bool b)
  | int hn =>
    rw [decode]
    exact ensures_pure (.int hn)
  | number x =>
    rw [decode]
    exact ensures_pure (.double x)
  | text s =>
    rw [decode]
    exact ensures_pure (.text _)
  | array _ ih => exact decode_array_ensures ih
  | object _ ih => exact decode_object_ensures ih

end Extended

end DocStore

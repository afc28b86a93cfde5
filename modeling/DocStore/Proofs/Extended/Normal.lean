import DocStore.Proofs.Extended.Decode
import DocStore.Proofs.Number.Written

/-!
This module contains what the normal form of a document is: a value that a collection can hold, with
no names but those of the fields of the document.
-/

namespace DocStore

section

variable {α β γ : Type} {R : α → β → Prop} {as : List α} {bs : List β}

theorem exists_left_of_forall₂ (h : List.Forall₂ R as bs) {b : β} (hb : b ∈ bs)
    : ∃ a ∈ as, R a b := by
  induction h with
  | nil => cases hb
  | cons hab _ ih =>
    cases hb with
    | head => exact ⟨_, List.mem_cons_self .., hab⟩
    | tail _ hb =>
      obtain ⟨a, ha, hr⟩ := ih hb
      exact ⟨a, List.mem_cons_of_mem _ ha, hr⟩

theorem exists_right_of_forall₂ (h : List.Forall₂ R as bs) {a : α} (ha : a ∈ as)
    : ∃ b ∈ bs, R a b :=
  exists_left_of_forall₂ (R := flip R) h.flip ha

theorem forall₂_of_mem {S : α → β → Prop} (hRS : ∀ a ∈ as, ∀ b ∈ bs, R a b → S a b)
    (h : List.Forall₂ R as bs)
    : List.Forall₂ S as bs := by
  induction h with
  | nil => exact .nil
  | cons hab _ ih =>
    refine .cons (hRS _ (List.mem_cons_self ..) _ (List.mem_cons_self ..) hab) (ih ?_)
    exact fun a ha b hb => hRS a (List.mem_cons_of_mem _ ha) b (List.mem_cons_of_mem _ hb)

theorem forall₂_comp {S : β → γ → Prop} {cs : List γ} (h : List.Forall₂ R as bs)
    (h' : List.Forall₂ S bs cs)
    : List.Forall₂ (fun a c => ∃ b, R a b ∧ S b c) as cs := by
  induction h generalizing cs with
  | nil =>
    cases h'
    exact .nil
  | cons hab _ ih =>
    cases h' with
    | cons hbc h' => exact .cons ⟨_, hab, hbc⟩ (ih h')

end

namespace Extended

open Work

theorem encodeInteger_isShort {n : Int} {j : Json} (h : encodeInteger n = .ok j) : j.IsShort := by
  unfold encodeInteger at h
  split at h
  . cases h
  next hn =>
    cases h
    exact .int (by simpa using hn)

theorem tagged_isShort (name : String) {j : Json} (h : j.IsShort) : (tagged name j).IsShort := by
  apply Json.IsShort.object
  intro m hm
  rw [List.mem_singleton] at hm
  rw [hm]
  exact h

theorem parts_isShort (layout : Layout) {a b : String × Json} (ha : a.2.IsShort) (hb : b.2.IsShort)
    : (parts layout a b).IsShort := by
  apply Json.IsShort.object
  intro m hm
  split at hm
  . simp only [List.mem_cons, List.not_mem_nil, or_false] at hm
    cases hm with
    | inl hm =>
      rw [hm]
      exact hb
    | inr hm =>
      rw [hm]
      exact ha
  . simp only [List.mem_cons, List.not_mem_nil, or_false] at hm
    cases hm with
    | inl hm =>
      rw [hm]
      exact ha
    | inr hm =>
      rw [hm]
      exact hb

theorem encodeDouble_isShort (x : Double) : (encodeDouble x).IsShort := by
  cases x with
  | nan => exact tagged_isShort _ (.text _)
  | infinite negative => exact tagged_isShort _ (.text _)
  | finite negative rank => exact .number _

theorem encodeDate_isShort (m : Moment) : (encodeDate m).IsShort := by
  unfold encodeDate
  split
  . exact tagged_isShort _ (.text _)
  . exact tagged_isShort _ (tagged_isShort _ (.text _))

section

variable {layout : Layout}

theorem encodeTrees_forall₂ {xs : List Value} {js : List Json} (h : encodeTrees layout xs = .ok js)
    : List.Forall₂ (fun x j => encodeTree layout x = .ok j) xs js := by
  induction xs generalizing js with
  | nil =>
    cases h
    exact .nil
  | cons x xs ih =>
    rw [encodeTrees] at h
    obtain ⟨j, hj, h⟩ := then_ok h
    obtain ⟨ks, hks, h⟩ := then_ok h
    cases h
    exact .cons hj (ih hks)

theorem encodeFields_forall₂ {fs : Fields} {ms : List (List Char × Json)}
    (h : encodeFields layout fs = .ok ms)
    : List.Forall₂ (fun f m => encodeKey layout f.1 = .ok m.1 ∧ encodeTree layout f.2 = .ok m.2) fs
      ms := by
  induction fs generalizing ms with
  | nil =>
    cases h
    exact .nil
  | cons f fs ih =>
    obtain ⟨k, v⟩ := f
    rw [encodeFields] at h
    obtain ⟨name, hname, h⟩ := then_ok h
    obtain ⟨j, hj, h⟩ := then_ok h
    obtain ⟨ns, hns, h⟩ := then_ok h
    cases h
    exact .cons ⟨hname, hj⟩ (ih hns)

end

theorem decodeItems_forall₂ {js : List Json} {ids ids' : IdSupply} {vs : List Value}
    (h : decodeItems js ids = (.ok vs, ids'))
    : List.Forall₂ (fun j v => ∃ ids₁ ids₂, decode j ids₁ = (.ok v, ids₂)) js vs := by
  induction js generalizing ids vs with
  | nil =>
    rw [decodeItems] at h
    cases h
    exact .nil
  | cons j js ih =>
    rw [decodeItems] at h
    obtain ⟨v, ids₁, hv, h⟩ := of_bind_ok h
    obtain ⟨vs, ids₂, hvs, h⟩ := of_bind_ok h
    cases h
    exact .cons ⟨ids, ids₁, hv⟩ (ih hvs)

theorem decodeMembers_forall₂ {ms : List (List Char × Json)} {ids ids' : IdSupply} {es : Fields}
    (h : decodeMembers ms ids = (.ok es, ids'))
    : List.Forall₂ (fun m e => e.1 = .ofText m.1 ∧ ∃ ids₁ ids₂, decode m.2 ids₁ = (.ok e.2, ids₂))
      ms es := by
  induction ms generalizing ids es with
  | nil =>
    rw [decodeMembers] at h
    cases h
    exact .nil
  | cons m ms ih =>
    obtain ⟨k, j⟩ := m
    rw [decodeMembers] at h
    obtain ⟨v, ids₁, hv, h⟩ := of_bind_ok h
    obtain ⟨es, ids₂, hes, h⟩ := of_bind_ok h
    cases h
    exact .cons ⟨rfl, ids, ids₁, hv⟩ (ih hes)

theorem encodeTree_isShort {layout : Layout} {v : Value} (hv : v.IsStored) {j : Json}
    (h : encodeTree layout v = .ok j)
    : j.IsShort := by
  induction hv generalizing j with
  | null =>
    cases h
    exact .null
  | bool b =>
    cases h
    exact .bool b
  | int hn => exact encodeInteger_isShort h
  | long hn => exact encodeInteger_isShort h
  | double x =>
    cases h
    exact encodeDouble_isShort x
  | text s =>
    cases h
    exact .text _
  | date hm =>
    cases h
    exact encodeDate_isShort _
  | id i =>
    cases h
    exact tagged_isShort _ (.text _)
  | list _ ih =>
    rw [encodeTree] at h
    obtain ⟨js, hjs, rfl⟩ := map_ok h
    refine .array fun j hj => ?_
    obtain ⟨x, hx, hxj⟩ := exists_left_of_forall₂ (encodeTrees_forall₂ hjs) hj
    exact ih x hx hxj
  | bytes bs =>
    cases h
    exact tagged_isShort _ (parts_isShort _ (.text _) (.text _))
  | binary t bs =>
    cases h
    exact tagged_isShort _ (parts_isShort _ (.text _) (.text _))
  | object keyed _ ih =>
    rw [encodeTree] at h
    obtain ⟨ms, hms, rfl⟩ := map_ok h
    refine .object fun m hm => ?_
    obtain ⟨f, hf, _, hfm⟩ := exists_left_of_forall₂ (encodeFields_forall₂ hms) hm
    exact ih f hf hfm
  | storedRegex s bits =>
    cases h
    exact tagged_isShort _ (parts_isShort _ (.text _) (.text _))
  | minKey =>
    cases h
    exact tagged_isShort _ (.int (Numeral.isLong_eq_false 1 (by decide) (by decide)))
  | maxKey =>
    cases h
    exact tagged_isShort _ (.int (Numeral.isLong_eq_false 1 (by decide) (by decide)))
  | @timestamp t i ht hi =>
    cases h
    have hbound : ∀ n : Nat, n < 2 ^ 32 → Numeral.isLong n = false := by
      intro n hn
      exact Numeral.isLong_eq_false 10 (by simp; omega) (by decide)
    exact tagged_isShort _ (parts_isShort _ (.int (hbound t ht)) (.int (hbound i hi)))

theorem decode_tagged (name : String) (j : Json)
    : decode (tagged name j) = decode j >>= fun v => decodeObject [(.text name, v)] := by
  unfold tagged
  rw [decode, decodeMembers, decodeMembers]
  simp only [bind_assoc, pure_bind, Value.ofText, String.ofList_toList]
  rfl

theorem decode_timestamp_ensures (t i : Int)
    : Ensures (decode (tagged "$timestamp" (parts .line ("t", .int t) ("i", .int i))))
      Value.IsRead := by
  have hkeyed : Fields.IsKeyed [(.text "t", .int t), (.text "i", .int i)] := ⟨by simp, by simp⟩
  have hparts : decode (parts .line ("t", .int t) ("i", .int i))
      = pure (.object [(.text "t", .int t), (.text "i", .int i)]) := by
    unfold parts
    simp only [reduceCtorEq, if_false, decode, decodeMembers, pure_bind, Value.ofText,
      String.ofList_toList]
    rw [hkeyed.ofList_eq]
    rfl
  have huntyped : holdsTyped (.object [(.text "t", .int t), (.text "i", .int i)]) = false := by
    simp only [holdsTyped, fieldsHaveTyped]
    rfl
  rw [decode_tagged, hparts, pure_bind]
  change Ensures (decodeObject [(.text Mark.timestamp.name, _)]) _
  rw [decodeObject_marked .timestamp huntyped]
  intro ids w ids' hw
  exact (ensures_lift (decodeTimestamp_yields _ _) ids w ids' hw).1

mutual

theorem decode_encodeTree (v : Value) {j : Json} (h : encodeTree .line v = .ok j)
    : Ensures (decode j) Value.IsRead := by
  -- lists and objects by recursion; any other typed form has short integers only, and is read
  -- as a value that can be held, whatever it stands for
  cases v with
  | list xs =>
    rw [encodeTree] at h
    obtain ⟨js, hjs, rfl⟩ := map_ok h
    exact decode_array_ensures (decode_encodeTrees xs hjs)
  | tuple xs =>
    rw [encodeTree] at h
    obtain ⟨js, hjs, rfl⟩ := map_ok h
    exact decode_array_ensures (decode_encodeTrees xs hjs)
  | set frozen xs =>
    rw [encodeTree] at h
    obtain ⟨js, hjs, rfl⟩ := map_ok h
    exact decode_array_ensures (decode_encodeTrees xs hjs)
  | object fs =>
    rw [encodeTree] at h
    obtain ⟨ms, hms, rfl⟩ := map_ok h
    exact decode_object_ensures (decode_encodeFields fs hms)
  | timestamp t i =>
    rw [encodeTree] at h
    cases h
    exact decode_timestamp_ensures t i
  | int n => exact decode_reads (encodeInteger_isShort h)
  | long n => exact decode_reads (encodeInteger_isShort h)
  | double x =>
    cases h
    exact decode_reads (encodeDouble_isShort x)
  | date m =>
    cases h
    exact decode_reads (encodeDate_isShort m)
  | token t => cases h
  | null =>
    cases h
    exact decode_reads .null
  | bool b =>
    cases h
    exact decode_reads (.bool b)
  | text s =>
    cases h
    exact decode_reads (.text _)
  | id i =>
    cases h
    exact decode_reads (tagged_isShort _ (.text _))
  | minKey =>
    cases h
    exact decode_reads (tagged_isShort _ (.int (Numeral.isLong_eq_false 1 (by decide) (by decide))))
  | maxKey =>
    cases h
    exact decode_reads (tagged_isShort _ (.int (Numeral.isLong_eq_false 1 (by decide) (by decide))))
  | bytes bs =>
    cases h
    exact decode_reads (tagged_isShort _ (parts_isShort _ (.text _) (.text _)))
  | binary t bs =>
    cases h
    exact decode_reads (tagged_isShort _ (parts_isShort _ (.text _) (.text _)))
  | regex s f =>
    cases h
    exact decode_reads (tagged_isShort _ (parts_isShort _ (.text _) (.text _)))
  | storedRegex s f named =>
    cases h
    exact decode_reads (tagged_isShort _ (parts_isShort _ (.text _) (.text _)))

theorem decode_encodeTrees (xs : List Value) {js : List Json} (h : encodeTrees .line xs = .ok js)
    : ∀ j ∈ js, Ensures (decode j) Value.IsRead := by
  cases xs with
  | nil =>
    cases h
    simp
  | cons x xs =>
    rw [encodeTrees] at h
    obtain ⟨k, hk, h⟩ := then_ok h
    obtain ⟨ks, hks, h⟩ := then_ok h
    cases h
    intro j hj
    rw [List.mem_cons] at hj
    cases hj with
    | inl hj =>
      rw [hj]
      exact decode_encodeTree x hk
    | inr hj => exact decode_encodeTrees xs hks j hj

theorem decode_encodeFields (fs : List (Value × Value)) {ms : List (List Char × Json)}
    (h : encodeFields .line fs = .ok ms) : ∀ m ∈ ms, Ensures (decode m.2) Value.IsRead := by
  cases fs with
  | nil =>
    cases h
    simp
  | cons f fs =>
    obtain ⟨k, v⟩ := f
    rw [encodeFields] at h
    obtain ⟨name, _, h⟩ := then_ok h
    obtain ⟨j, hj, h⟩ := then_ok h
    obtain ⟨ns, hns, h⟩ := then_ok h
    cases h
    intro m hm
    rw [List.mem_cons] at hm
    cases hm with
    | inl hm =>
      rw [hm]
      exact decode_encodeTree v hj
    | inr hm => exact decode_encodeFields fs hns m hm

end

theorem normalForm_ok {doc v : Value} {ids ids' : IdSupply} (h : normalForm doc ids = (.ok v, ids'))
    : ∃ j, encode .line doc = .ok j ∧ decode j ids = (.ok v, ids') := by
  unfold normalForm at h
  split at h
  . cases h
  next j hj =>
    refine ⟨j, hj, ?_⟩
    split at h
    next hd =>
      cases h
      exact hd
    . cases h

theorem encode_ok {layout : Layout} {v : Value} {j : Json} (h : encode layout v = .ok j)
    : encodeTree layout v = .ok j := by
  unfold encode at h
  split at h
  . cases h
  . exact h

theorem normalForm_reads (doc : Value) : Ensures (normalForm doc) Value.IsRead := by
  intro ids v ids' h
  obtain ⟨j, hj, hv⟩ := normalForm_ok h
  exact decode_encodeTree doc (encode_ok hj) ids v ids' hv

def markLetter : Char := 'd'

theorem encodeKey_text {layout : Layout} {k : Value} {name : List Char}
    (h : encodeKey layout k = .ok name)
    (hd : markLetter ∈ name) : k = .ofText name := by
  have hnumeral : ¬ isNumeralChar markLetter = true := by decide
  cases k with
  | text s =>
    cases h
    simp [Value.ofText]
  | double x =>
    cases h
    cases x with
    | nan => exact absurd hd (by decide)
    | infinite negative =>
      cases negative with
      | false => exact absurd hd (by decide)
      | true => exact absurd hd (by decide)
    | finite negative rank => exact absurd (Double.isNumeralChar_text hd) hnumeral
  | bool b =>
    cases h
    cases b with
    | false => exact absurd hd (by decide)
    | true => exact absurd hd (by decide)
  | null =>
    cases h
    exact absurd hd (by decide)
  | int n =>
    dsimp only [encodeKey] at h
    split at h
    . cases h
    . cases h
      exact absurd (Numeral.isNumeralChar_text hd) hnumeral
  | long n =>
    dsimp only [encodeKey] at h
    split at h
    . cases h
    . cases h
      exact absurd (Numeral.isNumeralChar_text hd) hnumeral
  | _ => cases h

theorem normalForm_object {fs gs : Fields} {ids ids' : IdSupply}
    (h : normalForm (.object fs) ids = (.ok (.object gs), ids'))
    : ∃ ms es ids₁, encodeFields .line fs = .ok ms ∧ decodeMembers ms ids = (.ok es, ids₁)
        ∧ gs = Fields.ofList es := by
  obtain ⟨j, hj, hv⟩ := normalForm_ok h
  have hj := encode_ok hj
  rw [encodeTree] at hj
  obtain ⟨ms, hms, rfl⟩ := map_ok hj
  rw [decode] at hv
  obtain ⟨es, ids₁, hes, hv⟩ := of_bind_ok hv
  have hstored := decodeMembers_ensures (decode_encodeFields fs hms) _ _ _ hes
  refine ⟨ms, es, ids₁, hms, hes, ?_⟩
  cases decodeObject_ensures hstored.ofList _ _ _ hv with
  | inl he =>
    cases he.1
    rfl
  | inr hleaf => exact absurd rfl (hleaf.2 gs)

theorem exists_field_of_read {fs es : Fields} {ms : List (List Char × Json)} {ids ids' : IdSupply}
    {s : String} (hms : encodeFields .line fs = .ok ms)
    (hes : decodeMembers ms ids = (.ok es, ids')) (hs : markLetter ∈ s.toList) {e : Value × Value}
    (he : e ∈ es) (hkey : e.1 = .text s)
    : ∃ f ∈ fs, f.1 = .text s
        ∧ ∃ j ids₁ ids₂, encodeTree .line f.2 = .ok j ∧ decode j ids₁ = (.ok e.2, ids₂) := by
  obtain ⟨m, hm, hem, ids₁, ids₂, hdecode⟩ := exists_left_of_forall₂ (decodeMembers_forall₂ hes) he
  obtain ⟨f, hf, hkf, hencode⟩ := exists_left_of_forall₂ (encodeFields_forall₂ hms) hm
  have hname : m.1 = s.toList := by
    rw [hem, Value.ofText] at hkey
    cases hkey
    simp
  refine ⟨f, hf, ?_, m.2, ids₁, ids₂, hencode, hdecode⟩
  rw [hname] at hkf
  rw [encodeKey_text hkf hs, Value.ofText, String.ofList_toList]

theorem normalForm_key {fs gs : Fields} {ids ids' : IdSupply} {s : String}
    (h : normalForm (.object fs) ids = (.ok (.object gs), ids')) (hs : markLetter ∈ s.toList)
    {g : Value × Value} (hg : g ∈ gs) (hkey : g.1 = .text s) : ∃ f ∈ fs, f.1 = .text s := by
  obtain ⟨ms, es, ids₁, hms, hes, rfl⟩ := normalForm_object h
  have hkeys : ∀ k ∈ (Fields.ofList es).map (·.1), k ∈ es.map (·.1) :=
    fun k hk => Fields.mem_keys_ofList hk
  have hg := hkeys g.1 (List.mem_map_of_mem hg)
  rw [List.mem_map] at hg
  obtain ⟨e, he, heg⟩ := hg
  obtain ⟨f, hf, hkf, _⟩ := exists_field_of_read hms hes hs he (heg.trans hkey)
  exact ⟨f, hf, hkf⟩

theorem normalForm_get? {fs gs : Fields} {ids ids' : IdSupply} {s : String} {v : Value}
    (h : normalForm (.object fs) ids = (.ok (.object gs), ids')) (hs : markLetter ∈ s.toList)
    (hget : Fields.get? gs (.text s) = some v)
    : ∃ f ∈ fs, f.1 = .text s ∧ ∃ j ids₁ ids₂, encodeTree .line f.2 = .ok j ∧
      decode j ids₁ = (.ok v, ids₂) := by
  obtain ⟨ms, es, ids₁, hms, hes, rfl⟩ := normalForm_object h
  rcases Fields.get?_merge_cases hget with ⟨e, he, hkey, rfl⟩ | hnone
  . exact exists_field_of_read hms hes hs he hkey
  . cases hnone

end Extended

end DocStore

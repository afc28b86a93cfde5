import DocStore.Disk.Replace
import DocStore.Proofs.Work

/-!
This module contains what the replacement and the removal of a file do to the other files of a
directory, and what a failure leaves behind: the file as it was, and no temporary file but one whose
own removal failed.
-/

namespace DocStore

open Work

namespace Disk

theorem get?_erase_self (d : Disk) (name : FileName) : (d.erase name).get? name = none := by
  unfold erase get?
  dsimp only
  induction d.entries with
  | nil => rfl
  | cons f fs ih =>
    rw [List.filter_cons]
    split
    next hne =>
      rw [List.lookup_cons]
      have : (name == f.1) = false := by
        rw [beq_eq_false_iff_ne]
        exact fun h => of_decide_eq_true hne h.symm
      rw [this]
      exact ih
    . exact ih

theorem get?_erase_ne (d : Disk) {name other : FileName} (h : other ≠ name)
    : (d.erase name).get? other = d.get? other := by
  unfold erase get?
  dsimp only
  induction d.entries with
  | nil => rfl
  | cons f fs ih =>
    rw [List.filter_cons]
    split
    . rw [List.lookup_cons, List.lookup_cons, ih]
    next heq =>
      rw [List.lookup_cons, ih]
      have : (other == f.1) = false := by
        rw [beq_eq_false_iff_ne]
        intro hother
        rw [hother] at h
        simp [h] at heq
      rw [this]

theorem get?_put_self (d : Disk) (name : FileName) (e : Entry)
    : (d.put name e).get? name = some e := by
  unfold put get?
  dsimp only
  split
  next hc =>
    unfold contains get? at hc
    generalize d.entries = entries at hc
    induction entries with
    | nil => simp at hc
    | cons f fs ih =>
      rw [List.map_cons]
      by_cases hf : f.1 = name
      . rw [if_pos hf, List.lookup_cons_self]
      . have hne : (name == f.1) = false := by
          rw [beq_eq_false_iff_ne]
          exact fun h => hf h.symm
        rw [if_neg hf, List.lookup_cons, hne]
        rw [List.lookup_cons, hne] at hc
        exact ih hc
  next hc =>
    unfold contains get? at hc
    rw [List.lookup_append, Option.not_isSome_iff_eq_none.mp hc]
    simp

theorem get?_put_ne (d : Disk) {name other : FileName} (h : other ≠ name) (e : Entry)
    : (d.put name e).get? other = d.get? other := by
  have hother : (other == name) = false := by
    rw [beq_eq_false_iff_ne]
    exact h
  unfold put get?
  dsimp only
  split
  . induction d.entries with
    | nil => rfl
    | cons f fs ih =>
      rw [List.map_cons, List.lookup_cons, List.lookup_cons, ih]
      by_cases hf : f.1 = name
      . rw [if_pos hf, hf, hother]
      . rw [if_neg hf]
  . rw [List.lookup_append, List.lookup_cons, hother]
    simp

def removals (d : Disk) : Option Trouble := d.troubles.lookup .remove

structure Aside (name : FileName) (d d' : Disk) : Prop where
  others : ∀ other, other ≠ name → d'.get? other = d.get? other
  made : d'.made = d.made
  removals : d'.removals = d.removals

theorem Aside.trans {name : FileName} {d d' d'' : Disk} (h : Aside name d d')
    (h' : Aside name d' d'')
    : Aside name d d'' := by
  refine ⟨?_, h'.made.trans h.made, h'.removals.trans h.removals⟩
  intro other hother
  rw [h'.others other hother, h.others other hother]

structure Quiet (d d' : Disk) : Prop where
  entries : d'.entries = d.entries
  made : d'.made = d.made
  removals : d'.removals = d.removals

theorem Quiet.get? {d d' : Disk} (h : Quiet d d') (name : FileName)
    : d'.get? name = d.get? name := by
  unfold Disk.get?
  rw [h.entries]

theorem Quiet.aside {d d' : Disk} (h : Quiet d d') (name : FileName) : Aside name d d' :=
  ⟨fun other _ => h.get? other, h.made, h.removals⟩

theorem put_aside (d : Disk) (name : FileName) (e : Entry) : Aside name d (d.put name e) :=
  ⟨fun _ hother => get?_put_ne d hother e, rfl, rfl⟩

theorem removals_trouble {d : Disk} {u : FileUse} {t : Trouble} (hu : u ≠ .remove)
    : (d.trouble u t).removals = d.removals := by
  unfold trouble removals
  dsimp only
  have hne : (FileUse.remove == u) = false := by
    rw [beq_eq_false_iff_ne]
    exact fun h => hu h.symm
  rw [List.lookup_cons, hne]
  dsimp only
  induction d.troubles with
  | nil => rfl
  | cons f fs ih =>
    rw [List.filter_cons, List.lookup_cons, ← ih]
    split
    . rw [List.lookup_cons]
    next heq =>
      have hf : f.1 = u := by simpa using heq
      rw [hf, hne]

theorem use_quiet {u : FileUse} (hu : u ≠ .remove) (d : Disk) : Quiet d (d.use u).2 := by
  unfold use
  split
  . exact ⟨rfl, rfl, removals_trouble hu⟩
  . exact ⟨rfl, rfl, rfl⟩

theorem use_remove_failed {d : Disk} {text : String} (h : (d.use .remove).1 = some text)
    : (d.use .remove).2.entries = d.entries ∧ (d.use .remove).2.made = d.made
      ∧ (d.use .remove).2.removals ≠ d.removals := by
  unfold use at h ⊢
  split
  next n text' hlookup =>
    refine ⟨rfl, rfl, ?_⟩
    unfold removals trouble
    rw [List.lookup_cons_self, hlookup]
    simp
  next hnone =>
    split at h
    next hlookup => exact absurd hlookup (hnone _ _)
    . cases h

theorem use_remove_done {d : Disk} (h : (d.use .remove).1 = none) : (d.use .remove).2 = d := by
  unfold use at h ⊢
  split
  next hlookup =>
    rw [hlookup] at h
    cases h
  . rfl

end Disk

namespace Filing

open Disk

theorem use_cases {u : FileUse} {d d' : Disk} {r : Except String Unit} (hu : u ≠ .remove)
    (h : use u d = (r, d')) : Quiet d d' := by
  unfold use at h
  have hquiet := use_quiet hu d
  rcases hd : d.use u with ⟨text?, d₁⟩
  rw [hd] at h hquiet
  cases text? with
  | some text =>
    cases h
    exact hquiet
  | none =>
    cases h
    exact hquiet

theorem use_same {u : FileUse} {d d' : Disk} {r : Except String Unit} (h : use u d = (r, d'))
    : d'.entries = d.entries ∧ d'.made = d.made := by
  unfold use at h
  have hsame : (d.use u).2.entries = d.entries ∧ (d.use u).2.made = d.made := by
    unfold Disk.use
    split <;> exact ⟨rfl, rfl⟩
  rcases hd : d.use u with ⟨text?, d₁⟩
  rw [hd] at h hsame
  cases text? with
  | some text =>
    cases h
    exact hsame
  | none =>
    cases h
    exact hsame

inductive Replaces (base : String) (s : List Char) (d : Disk)
    : Except String Unit → Disk → Prop where
  | done {d'} (file : d'.get? (.given base) = some (.file (.text s)))
      (others : ∀ name, name ≠ .given base → name ≠ .temporary base d.made →
        d'.get? name = d.get? name)
      (cleared : d'.get? (.temporary base d.made) = none) (made : d'.made = d.made + 1) :
      Replaces base s d (.ok ()) d'
  | refused {text d'} (quiet : Quiet d d') : Replaces base s d (.error text) d'
  | failed {text d'} (others : ∀ name, name ≠ .temporary base d.made → d'.get? name = d.get? name)
      (cleared : d'.get? (.temporary base d.made) = none ∨ d'.removals ≠ d.removals)
      (made : d'.made = d.made + 1) : Replaces base s d (.error text) d'

theorem makeTemporary_cases {base : String} {d d' : Disk} {r : Except String FileName}
    (h : makeTemporary base d = (r, d'))
    : (∃ text, r = .error text ∧ Quiet d d')
      ∨ (r = .ok (.temporary base d.made)
        ∧ (∀ other, other ≠ .temporary base d.made → d'.get? other = d.get? other)
        ∧ d'.made = d.made + 1 ∧ d'.removals = d.removals) := by
  unfold makeTemporary at h
  rcases bind_cases h with ⟨text, hx, rfl⟩ | ⟨_, d₁, hx, h⟩
  . exact .inl ⟨text, rfl, use_cases (by decide) hx⟩
  . have hquiet := use_cases (by decide) hx
    have hname : FileName.temporary base d₁.made = .temporary base d.made := by rw [hquiet.made]
    rw [get_bind] at h
    dsimp only at h
    split at h
    . cases h
      exact .inl ⟨_, rfl, hquiet⟩
    . cases h
      refine .inr ⟨by rw [hname], ?_, ?_, ?_⟩
      . intro other hother
        rw [← hname] at hother
        exact (get?_put_ne d₁ hother _).trans (hquiet.get? other)
      . dsimp only
        rw [hquiet.made]
      . exact hquiet.removals

theorem rename_cases {temporary name : FileName} {d d' : Disk} {r : Except String Unit} {e : Entry}
    (hne : name ≠ temporary) (he : d.get? temporary = some e)
    (h : rename temporary name d = (r, d'))
    : (∃ text, r = .error text ∧ d' = d)
      ∨ (r = .ok () ∧ d'.get? name = some e ∧ d'.get? temporary = none
        ∧ (∀ other, other ≠ name → other ≠ temporary → d'.get? other = d.get? other)
        ∧ d'.made = d.made ∧ d'.removals = d.removals) := by
  unfold rename at h
  rw [get_bind, he] at h
  have hdone : ((set ((d.erase temporary).put name e) : Filing Unit) d) = (r, d') →
      r = .ok () ∧ d'.get? name = some e ∧ d'.get? temporary = none
        ∧ (∀ other, other ≠ name → other ≠ temporary → d'.get? other = d.get? other)
        ∧ d'.made = d.made ∧ d'.removals = d.removals := by
    intro hset
    cases hset
    refine ⟨rfl, get?_put_self .., ?_, ?_, rfl, rfl⟩
    . rw [get?_put_ne _ (Ne.symm hne), get?_erase_self]
    . intro other hother htemporary
      rw [get?_put_ne _ hother, get?_erase_ne _ htemporary]
  cases hname : d.get? name with
  | none =>
    rw [hname] at h
    exact .inr (hdone h)
  | some entry =>
    rw [hname] at h
    cases entry with
    | directory =>
      cases h
      exact .inl ⟨_, rfl, rfl⟩
    | file content => exact .inr (hdone h)

theorem fill_cases {temporary : FileName} {base : String} {s : List Char} {d d' : Disk}
    {r : Except String Unit} (hne : FileName.given base ≠ temporary)
    (h : fill temporary base s d = (r, d'))
    : (∃ text, r = .error text ∧ Aside temporary d d')
      ∨ (r = .ok () ∧ d'.get? (.given base) = some (.file (.text s)) ∧ d'.get? temporary = none
        ∧ (∀ other, other ≠ .given base → other ≠ temporary → d'.get? other = d.get? other)
        ∧ d'.made = d.made) := by
  unfold fill at h
  rcases bind_cases h with ⟨text, hx, rfl⟩ | ⟨_, d₁, hx, h⟩
  . exact .inl ⟨text, rfl, (use_cases (by decide) hx).aside temporary⟩
  . have hopened := (use_cases (by decide) hx).aside temporary
    rw [modify_bind] at h
    have hput := hopened.trans (put_aside d₁ temporary (.file (.text s)))
    rcases bind_cases h with ⟨text, hx, rfl⟩ | ⟨_, d₂, hx, h⟩
    . exact .inl ⟨text, rfl, hput.trans ((use_cases (by decide) hx).aside temporary)⟩
    . have hsynced := use_cases (by decide) hx
      rcases bind_cases h with ⟨text, hx, rfl⟩ | ⟨_, d₃, hx, h⟩
      . exact .inl ⟨text, rfl, (hput.trans (hsynced.aside temporary)).trans
          ((use_cases (by decide) hx).aside temporary)⟩
      . have hreplaced := use_cases (by decide) hx
        have hall := (hput.trans (hsynced.aside temporary)).trans (hreplaced.aside temporary)
        have htemporary : d₃.get? temporary = some (.file (.text s)) := by
          rw [hreplaced.get?, hsynced.get?, get?_put_self]
        rcases rename_cases hne htemporary h
          with ⟨text, rfl, rfl⟩ | ⟨rfl, hfile, hgone, hothers, hmade, _⟩
        . exact .inl ⟨text, rfl, hall⟩
        . refine .inr ⟨rfl, hfile, hgone, ?_, hmade.trans hall.made⟩
          intro other hother htemp
          rw [hothers other hother htemp, hall.others other htemp]

theorem clear_cases {temporary : FileName} {d d' : Disk} {r : Except String Unit}
    (h : clear temporary d = (r, d'))
    : r = .ok () ∧ d'.made = d.made ∧ (∀ other, other ≠ temporary → d'.get? other = d.get? other)
      ∧ (d'.get? temporary = none ∨ d'.removals ≠ d.removals) := by
  unfold clear at h
  rcases hu : d.use .remove with ⟨text?, d₁⟩
  rw [hu] at h
  cases text? with
  | some text =>
    obtain ⟨hentries, hmade, hremovals⟩ := use_remove_failed (d := d) (by rw [hu])
    rw [hu] at hentries hmade hremovals
    cases h
    refine ⟨rfl, hmade, ?_, .inr hremovals⟩
    intro other _
    unfold Disk.get?
    rw [hentries]
  | none =>
    have hsame := use_remove_done (d := d) (by rw [hu])
    rw [hu] at hsame
    dsimp only at hsame
    rw [hsame] at h
    cases h
    exact ⟨rfl, rfl, fun other hother => get?_erase_ne d hother, .inl (get?_erase_self d temporary)⟩

theorem replace_replaces {base : String} {s : List Char} {d d' : Disk} {r : Except String Unit}
    (h : replace base s d = (r, d')) : Replaces base s d r d' := by
  have hne : ∀ n, FileName.given base ≠ .temporary base n := fun _ => nofun
  unfold replace at h
  rcases bind_cases h with ⟨text, hx, rfl⟩ | ⟨_, d₁, hx, h⟩
  . exact .refused (use_cases (by decide) hx)
  . have hquiet := use_cases (by decide) hx
    rcases bind_cases h with ⟨text, hx, rfl⟩ | ⟨temporary, d₂, hx, h⟩
    . rcases makeTemporary_cases hx with ⟨text', _, hquiet'⟩ | ⟨hr, _⟩
      . exact .refused ⟨hquiet'.entries.trans hquiet.entries, hquiet'.made.trans hquiet.made,
          hquiet'.removals.trans hquiet.removals⟩
      . cases hr
    . rcases makeTemporary_cases hx with ⟨text', hr, _⟩ | ⟨hr, hothers, hmade, hremovals⟩
      . cases hr
      . cases hr
        rw [hquiet.made] at hothers hmade h
        rw [hquiet.removals] at hremovals
        rcases tryCatch_cases h with ⟨_, hx, rfl⟩ | ⟨text, d₃, hx, h⟩
        . rcases fill_cases (hne _) hx with ⟨_, hr, _⟩ | ⟨_, hfile, hgone, hothers', hmade'⟩
          . cases hr
          . refine .done hfile ?_ hgone (hmade'.trans hmade)
            intro name hname htemporary
            rw [hothers' name hname htemporary, hothers name htemporary, hquiet.get?]
        . rcases fill_cases (hne _) hx with ⟨_, _, haside⟩ | ⟨hr, _⟩
          . rcases bind_cases h with ⟨_, hx, rfl⟩ | ⟨_, d₄, hx, h⟩
            . cases (clear_cases hx).1
            . obtain ⟨_, hmade', hothers', hcleared⟩ := clear_cases hx
              cases h
              refine .failed ?_ ?_ ?_
              . intro name htemporary
                rw [hothers' name htemporary, haside.others name htemporary,
                  hothers name htemporary, hquiet.get?]
              . rwa [haside.removals, hremovals] at hcleared
              . rw [hmade', haside.made, hmade]
          . cases hr

inductive Removes (base : String) (d : Disk) : Except String Bool → Disk → Prop where
  | absent (h : d.contains (.given base) = false) : Removes base d (.ok false) d
  | done {d'} (present : d.contains (.given base) = true) (gone : d'.get? (.given base) = none)
      (others : ∀ name, name ≠ .given base → d'.get? name = d.get? name) (made : d'.made = d.made) :
      Removes base d (.ok true) d'
  | failed {text d'} (entries : d'.entries = d.entries) (made : d'.made = d.made) :
      Removes base d (.error text) d'

theorem remove_removes {base : String} {d d' : Disk} {r : Except String Bool}
    (h : remove base d = (r, d'))
    : Removes base d r d' := by
  unfold remove at h
  rw [get_bind] at h
  dsimp only at h
  split at h
  next hc =>
    rcases bind_cases h with ⟨text, hx, rfl⟩ | ⟨_, d₁, hx, h⟩
    . obtain ⟨hentries, hmade⟩ := use_same hx
      exact .failed hentries hmade
    . obtain ⟨hentries, hmade⟩ := use_same hx
      have hsame : ∀ name, d₁.get? name = d.get? name := by
        intro name
        unfold Disk.get?
        rw [hentries]
      have hdone : Removes base d (.ok true) (d₁.erase (.given base)) :=
        .done hc (get?_erase_self ..)
          (fun name hname => (get?_erase_ne d₁ hname).trans (hsame name)) hmade
      rw [get_bind] at h
      cases hentry : d₁.get? (.given base) with
      | none =>
        rw [hentry] at h
        cases h
        exact hdone
      | some entry =>
        rw [hentry] at h
        cases entry with
        | directory =>
          cases h
          exact .failed hentries hmade
        | file content =>
          cases h
          exact hdone
  next hc =>
    cases h
    exact .absent (by simpa using hc)

end Filing

end DocStore

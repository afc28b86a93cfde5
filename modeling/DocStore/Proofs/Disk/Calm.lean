import DocStore.Proofs.Disk.Replace

/-!
This module contains the proof that work with files that succeeds has met no failure: it does what
it does in a directory in which nothing fails. There the replacement of a file succeeds.
-/

namespace DocStore

open Work

def Disk.calm (d : Disk) : Disk := { d with troubles := [] }

namespace Filing

def IsCalm {α : Type} (x : Filing α) : Prop :=
  ∀ d a d', x d = (.ok a, d') → x d.calm = (.ok a, d'.calm)

theorem isCalm_bind {α β : Type} {x : Filing α} {f : α → Filing β} (hx : IsCalm x)
    (hf : ∀ a, IsCalm (f a))
    : IsCalm (x >>= f) := by
  intro d b d' h
  obtain ⟨a, t, ha, hb⟩ := of_bind_ok h
  rw [bind_ok (hx d a t ha)]
  exact hf a t b d' hb

theorem isCalm_use (u : FileUse) : IsCalm (use u) := by
  intro d a d' h
  unfold use Disk.use at h
  split at h
  next hfailed =>
    split at hfailed <;> cases hfailed
    cases h
  next hdone =>
    split at hdone <;> cases hdone
    cases h
    rfl

theorem isCalm_modify {f : Disk → Disk} (h : ∀ d, f d.calm = (f d).calm) : IsCalm (modify f) := by
  intro d a d' hd
  cases hd
  change ((Except.ok (), f d.calm) : Except String Unit × Disk) = _
  rw [h]

theorem isCalm_makeTemporary (base : String) : IsCalm (makeTemporary base) := by
  refine isCalm_bind (isCalm_use _) fun _ => ?_
  intro d a d' h
  rw [get_bind] at h ⊢
  dsimp only at h ⊢
  split at h
  . cases h
  next hshort =>
    rw [if_neg hshort]
    cases h
    rfl

theorem isCalm_rename (temporary name : FileName) : IsCalm (rename temporary name) := by
  intro d a d' h
  unfold rename at h ⊢
  rw [get_bind] at h ⊢
  have hget : ∀ other, d.calm.get? other = d.get? other := fun _ => rfl
  cases ht : d.get? temporary with
  | none =>
    simp only [hget, ht] at h ⊢
    cases h
    rfl
  | some moved =>
    cases hn : d.get? name with
    | none =>
      simp only [hget, ht, hn] at h ⊢
      cases h
      rfl
    | some entry =>
      cases entry with
      | directory =>
        simp only [ht, hn] at h
        cases h
      | file content =>
        simp only [hget, ht, hn] at h ⊢
        cases h
        rfl

theorem isCalm_fill (temporary : FileName) (base : String) (s : List Char)
    : IsCalm (fill temporary base s) :=
  isCalm_bind (isCalm_use _) fun _ => isCalm_bind (isCalm_modify fun _ => rfl) fun _ =>
    isCalm_bind (isCalm_use _) fun _ => isCalm_bind (isCalm_use _) fun _ => isCalm_rename _ _

theorem isCalm_replace (base : String) (s : List Char) : IsCalm (replace base s) := by
  refine isCalm_bind (isCalm_use _) fun _ =>
    isCalm_bind (isCalm_makeTemporary base) fun temporary => ?_
  intro d a d' h
  rcases tryCatch_cases h with ⟨_, hfill, ha⟩ | ⟨text, t, _, h⟩
  . cases ha
    exact tryCatch_ok (isCalm_fill temporary base s d a d' hfill)
  -- what is done after a failure never succeeds
  . obtain ⟨_, t', _, h⟩ := of_bind_ok h
    cases h

theorem isCalm_remove (base : String) : IsCalm (remove base) := by
  intro d a d' h
  unfold remove at h ⊢
  rw [get_bind] at h ⊢
  have hcontains : d.calm.contains (.given base) = d.contains (.given base) := rfl
  rw [hcontains]
  split at h
  next hc =>
    rw [if_pos hc]
    refine isCalm_bind (isCalm_use _) (fun _ => ?_) d a d' h
    intro d a d' h
    rw [get_bind] at h ⊢
    have hget : d.calm.get? (.given base) = d.get? (.given base) := rfl
    cases hentry : d.get? (.given base) with
    | none =>
      simp only [hget, hentry] at h ⊢
      cases h
      rfl
    | some entry =>
      cases entry with
      | directory =>
        simp only [hentry] at h
        cases h
      | file content =>
        simp only [hget, hentry] at h ⊢
        cases h
        rfl
  next hc =>
    rw [if_neg hc]
    cases h
    rfl

structure Takes (base : String) (d : Disk) : Prop where
  calm : d.troubles = []
  short : base.utf8ByteSize + Disk.temporaryBytes ≤ Disk.nameLimit
  file : d.get? (.given base) ≠ some .directory

theorem use_calm {d : Disk} (h : d.troubles = []) (u : FileUse) : use u d = (.ok (), d) := by
  unfold use Disk.use
  rw [h]
  rfl

theorem makeTemporary_ok {base : String} {d : Disk} (h : Takes base d)
    : makeTemporary base d
      = (.ok (.temporary base d.made),
          { d.put (.temporary base d.made) (.file (.text [])) with made := d.made + 1 }) := by
  unfold makeTemporary
  rw [bind_ok (use_calm h.calm _), get_bind]
  dsimp only
  rw [if_neg (Nat.not_lt.mpr h.short)]
  rfl

theorem rename_ok {d : Disk} {name : FileName} (h : d.get? name ≠ some .directory)
    (temporary : FileName)
    : ∃ d', rename temporary name d = (.ok (), d') := by
  unfold rename
  rw [get_bind]
  cases d.get? temporary with
  | none => exact ⟨d, rfl⟩
  | some e =>
    cases hname : d.get? name with
    | none => exact ⟨_, rfl⟩
    | some entry =>
      cases entry with
      | directory => exact absurd hname h
      | file content => exact ⟨_, rfl⟩

theorem fill_ok {temporary : FileName} {base : String} {d : Disk} (h : d.troubles = [])
    (hne : FileName.given base ≠ temporary) (hfile : d.get? (.given base) ≠ some .directory)
    (s : List Char)
    : ∃ d', fill temporary base s d = (.ok (), d') := by
  have hput : (d.put temporary (.file (.text s))).troubles = [] := h
  unfold fill
  rw [bind_ok (use_calm h _), modify_bind, bind_ok (use_calm hput _), bind_ok (use_calm hput _)]
  apply rename_ok
  rw [Disk.get?_put_ne d hne]
  exact hfile

theorem replace_ok {base : String} {d : Disk} (h : Takes base d) (s : List Char)
    : ∃ d', replace base s d = (.ok (), d') := by
  have hne : FileName.given base ≠ .temporary base d.made := nofun
  have hfile : (d.put (.temporary base d.made) (.file (.text []))).get? (.given base) ≠
      some .directory := by
    rw [Disk.get?_put_ne d hne]
    exact h.file
  have hmade : { d.put (.temporary base d.made) (.file (.text []))
    with made := d.made + 1 }.troubles = [] := h.calm
  obtain ⟨d', hd'⟩ := fill_ok hmade hne hfile s
  refine ⟨d', ?_⟩
  unfold replace
  rw [bind_ok (use_calm h.calm _), bind_ok (makeTemporary_ok h)]
  exact tryCatch_ok hd'

end Filing

end DocStore

import DocStore.Extended.Normal

/-!
This module contains the laws of work that carries a state and may fail: how one step goes on to the
next, and what holds of every value and of every error that it ends with.
-/

namespace DocStore

namespace Work

variable {ε σ α β : Type}

theorem bind_ok {x : ExceptT ε (StateM σ) α} {f : α → ExceptT ε (StateM σ) β} {s s' : σ} {a : α}
    (h : x s = (.ok a, s'))
    : (x >>= f) s = f a s' := by
  simp only [bind, ExceptT.bind, ExceptT.mk, StateT.bind, h]
  rfl

theorem bind_error {x : ExceptT ε (StateM σ) α} {f : α → ExceptT ε (StateM σ) β} {s s' : σ} {e : ε}
    (h : x s = (.error e, s'))
    : (x >>= f) s = (.error e, s') := by
  simp only [bind, ExceptT.bind, ExceptT.mk, StateT.bind, h]
  rfl

theorem bind_congr_state {x : ExceptT ε (StateM σ) α} {f : α → ExceptT ε (StateM σ) β} {s s' : σ}
    (h : x s = x s')
    : (x >>= f) s = (x >>= f) s' := by
  rcases hx : x s' with ⟨r, t⟩
  rw [hx] at h
  cases r with
  | ok a => rw [bind_ok h, bind_ok hx]
  | error e => rw [bind_error h, bind_error hx]

theorem get_bind (f : σ → ExceptT ε (StateM σ) β) (s : σ) : (get >>= f) s = f s s := rfl

theorem modify_bind (g : σ → σ) (f : Unit → ExceptT ε (StateM σ) β) (s : σ)
    : (modify g >>= f) s = f () (g s) := rfl

theorem lift_ok_bind (a : α) (f : α → ExceptT ε (StateM σ) β) (s : σ)
    : ((liftM (.ok a : Except ε α) : ExceptT ε (StateM σ) α) >>= f) s = f a s := rfl

theorem lift_error_bind (e : ε) (f : α → ExceptT ε (StateM σ) β) (s : σ)
    : ((liftM (.error e : Except ε α) : ExceptT ε (StateM σ) α) >>= f) s = (.error e, s) := rfl

theorem bind_cases {x : ExceptT ε (StateM σ) α} {f : α → ExceptT ε (StateM σ) β} {s s' : σ}
    {r : Except ε β} (h : (x >>= f) s = (r, s'))
    : (∃ e, x s = (.error e, s') ∧ r = .error e) ∨ ∃ a t, x s = (.ok a, t) ∧ f a t = (r, s') := by
  rcases hx : x s with ⟨q, t⟩
  cases q with
  | ok a =>
    rw [bind_ok hx] at h
    exact .inr ⟨a, t, rfl, h⟩
  | error e =>
    rw [bind_error hx] at h
    cases h
    exact .inl ⟨e, rfl, rfl⟩

theorem of_bind_ok {x : ExceptT ε (StateM σ) α} {f : α → ExceptT ε (StateM σ) β} {s s' : σ} {b : β}
    (h : (x >>= f) s = (.ok b, s'))
    : ∃ a t, x s = (.ok a, t) ∧ f a t = (.ok b, s') := by
  rcases bind_cases h with ⟨_, _, h⟩ | h
  . cases h
  . exact h

theorem tryCatch_cases {x : ExceptT ε (StateM σ) α} {f : ε → ExceptT ε (StateM σ) α} {s s' : σ}
    {r : Except ε α} (h : tryCatch x f s = (r, s'))
    : (∃ a, x s = (.ok a, s') ∧ r = .ok a) ∨ ∃ e t, x s = (.error e, t) ∧ f e t = (r, s') := by
  simp only [tryCatch, tryCatchThe, MonadExceptOf.tryCatch, ExceptT.tryCatch, ExceptT.mk, bind,
    StateT.bind] at h
  rcases hx : x s with ⟨q, t⟩
  rw [hx] at h
  cases q with
  | ok a =>
    cases h
    exact .inl ⟨a, rfl, rfl⟩
  | error e => exact .inr ⟨e, t, rfl, h⟩

theorem tryCatch_ok {x : ExceptT ε (StateM σ) α} {f : ε → ExceptT ε (StateM σ) α} {s s' : σ} {a : α}
    (h : x s = (.ok a, s'))
    : tryCatch x f s = (.ok a, s') := by
  simp only [tryCatch, tryCatchThe, MonadExceptOf.tryCatch, ExceptT.tryCatch, ExceptT.mk, bind,
    StateT.bind, h]
  rfl

theorem tryCatch_error {x : ExceptT ε (StateM σ) α} {f : ε → ExceptT ε (StateM σ) α} {s s' : σ}
    {e : ε} (h : x s = (.error e, s'))
    : tryCatch x f s = f e s' := by
  simp only [tryCatch, tryCatchThe, MonadExceptOf.tryCatch, ExceptT.tryCatch, ExceptT.mk, bind,
    StateT.bind, h]

theorem ok_bind (a : α) (f : α → Except ε β) : (Except.ok a >>= f) = f a := rfl

theorem isOk_iff {x : Except ε α} : x.isOk = true ↔ ∃ a, x = .ok a := by
  cases x <;> simp [Except.isOk, Except.toBool]

theorem map_ok {x : Except ε α} {f : α → β} {b : β} (h : x.map f = .ok b)
    : ∃ a, x = .ok a ∧ b = f a := by
  cases x with
  | ok a =>
    cases h
    exact ⟨a, rfl, rfl⟩
  | error e => cases h

theorem then_ok {x : Except ε α} {f : α → Except ε β} {b : β} (h : (x >>= f) = .ok b)
    : ∃ a, x = .ok a ∧ f a = .ok b := by
  cases x with
  | ok a => exact ⟨a, rfl, h⟩
  | error e => cases h

def Yields (x : Except ε α) (P : α → Prop) : Prop := ∀ a, x = .ok a → P a

theorem yields_ok {P : α → Prop} {a : α} (h : P a) : Yields (.ok a : Except ε α) P := by
  intro b hb
  cases hb
  exact h

theorem yields_error {P : α → Prop} {e : ε} : Yields (.error e : Except ε α) P := by
  intro b hb
  cases hb

theorem yields_bind {x : Except ε α} {f : α → Except ε β} {P : α → Prop} {Q : β → Prop}
    (hx : Yields x P) (hf : ∀ a, P a → Yields (f a) Q)
    : Yields (x >>= f) Q := by
  cases x with
  | ok a => exact hf a (hx a rfl)
  | error e => exact yields_error

theorem yields_after {x : Except ε α} {f : α → Except ε β} {Q : β → Prop}
    (hf : ∀ a, x = .ok a → Yields (f a) Q)
    : Yields (x >>= f) Q :=
  yields_bind (P := fun a => x = .ok a) (fun _ h => h) hf

theorem yields_then {x : Except ε α} {f : α → Except ε β} {Q : β → Prop} (hf : ∀ a, Yields (f a) Q)
    : Yields (x >>= f) Q :=
  yields_after fun a _ => hf a

theorem yields_map {x : Except ε α} {f : α → β} {P : α → Prop} {Q : β → Prop} (hx : Yields x P)
    (hf : ∀ a, P a → Q (f a))
    : Yields (x.map f) Q := by
  cases x with
  | ok a => exact yields_ok (hf a (hx a rfl))
  | error e => exact yields_error

def Answers (x : Except ε α) (P : α → Prop) : Prop := ∃ a, x = .ok a ∧ P a

theorem answers_ok {P : α → Prop} {a : α} (h : P a) : Answers (.ok a : Except ε α) P := ⟨a, rfl, h⟩

def Ensures (x : ExceptT ε (StateM σ) α) (P : α → Prop) : Prop :=
  ∀ s a s', x s = (.ok a, s') → P a

theorem ensures_pure {P : α → Prop} {a : α} (h : P a)
    : Ensures (pure a : ExceptT ε (StateM σ) α) P := by
  intro s b s' hb
  cases hb
  exact h

theorem ensures_throw {P : α → Prop} {e : ε}
    : Ensures (throw e : ExceptT ε (StateM σ) α) P := by
  intro s b s' hb
  cases hb

theorem ensures_bind {x : ExceptT ε (StateM σ) α} {f : α → ExceptT ε (StateM σ) β} {P : α → Prop}
    {Q : β → Prop} (hx : Ensures x P) (hf : ∀ a, P a → Ensures (f a) Q)
    : Ensures (x >>= f) Q := by
  intro s b s' hb
  obtain ⟨a, t, ha, hb⟩ := of_bind_ok hb
  exact hf a (hx s a t ha) t b s' hb

theorem ensures_then {x : ExceptT ε (StateM σ) α} {f : α → ExceptT ε (StateM σ) β} {Q : β → Prop}
    (hf : ∀ a, Ensures (f a) Q)
    : Ensures (x >>= f) Q :=
  ensures_bind (P := fun _ => True) (fun _ _ _ _ => trivial) (fun a _ => hf a)

theorem ensures_lift {x : Except ε α} {P : α → Prop} (h : Yields x P)
    : Ensures (liftM x : ExceptT ε (StateM σ) α) P := by
  intro s a s' ha
  cases x with
  | ok b =>
    cases ha
    exact h _ rfl
  | error e => cases ha

def Blames (x : Except ε α) (P : ε → Prop) : Prop := ∀ e, x = .error e → P e

theorem blames_ok {P : ε → Prop} {a : α} : Blames (.ok a : Except ε α) P := nofun

theorem blames_error {P : ε → Prop} {e : ε} (h : P e) : Blames (.error e : Except ε α) P := by
  intro e' he
  cases he
  exact h

structure Ends (x : Except ε α) (P : α → Prop) (Q : ε → Prop) : Prop where
  yields : Yields x P
  blames : Blames x Q

theorem ends_ok {P : α → Prop} {Q : ε → Prop} {a : α} (h : P a) : Ends (.ok a : Except ε α) P Q :=
  ⟨yields_ok h, blames_ok⟩

theorem ends_bind {P : α → Prop} {P' : β → Prop} {Q : ε → Prop} {x : Except ε α}
    {f : α → Except ε β}
    (hx : Ends x P Q) (hf : ∀ a, P a → Ends (f a) P' Q) : Ends (x >>= f) P' Q := by
  cases x with
  | ok a => exact hf a (hx.yields a rfl)
  | error e => exact ⟨yields_error, blames_error (hx.blames e rfl)⟩

theorem Ends.imp {P P' : α → Prop} {Q : ε → Prop} {x : Except ε α} (h : Ends x P Q)
    (himp : ∀ a, P a → P' a)
    : Ends x P' Q :=
  ⟨fun a ha => himp a (h.yields a ha), h.blames⟩

theorem Ends.answers {P : α → Prop} {x : Except ε α} (h : Ends x P fun _ => False)
    : Answers x P := by
  cases x with
  | ok a => exact answers_ok (h.yields a rfl)
  | error e => exact absurd (h.blames e rfl) id

def IsImage {α' : Type} (g : α → α') (x : Except ε α) (y : Except ε α') : Prop := y = x.map g

theorem image_ok {α' : Type} {g : α → α'} {a : α} {b : α'} (h : b = g a)
    : IsImage g (.ok a : Except ε α) (.ok b) :=
  congrArg _ h

theorem image_bind {α' β' : Type} {g : α → α'} {g' : β → β'} {x : Except ε α} {y : Except ε α'}
    {k : α → Except ε β} {k' : α' → Except ε β'} (hx : IsImage g x y)
    (hk : ∀ a, IsImage g' (k a) (k' (g a)))
    : IsImage g' (x >>= k) (y >>= k') := by
  rw [IsImage] at hx
  rw [hx]
  cases x with
  | ok a => exact hk a
  | error e => rfl

theorem image_then {β' : Type} {g : β → β'} {x : Except ε α} {k : α → Except ε β}
    {k' : α → Except ε β'}
    (hk : ∀ a, IsImage g (k a) (k' a)) : IsImage g (x >>= k) (x >>= k') := by
  cases x with
  | ok a => exact hk a
  | error e => rfl

def Accuses (x : ExceptT ε (StateM σ) α) (P : ε → Prop) : Prop :=
  ∀ s e s', x s = (.error e, s') → P e

theorem accuses_pure {P : ε → Prop} {a : α} : Accuses (pure a : ExceptT ε (StateM σ) α) P := by
  intro s e s' h
  cases h

theorem accuses_throw {P : ε → Prop} {e : ε} (h : P e)
    : Accuses (throw e : ExceptT ε (StateM σ) α) P := by
  intro s e' s' he
  cases he
  exact h

theorem accuses_bind {P : ε → Prop} {x : ExceptT ε (StateM σ) α} {f : α → ExceptT ε (StateM σ) β}
    (hx : Accuses x P)
    (hf : ∀ a, Accuses (f a) P) : Accuses (x >>= f) P := by
  intro s e s' h
  rcases bind_cases h with ⟨e', he, hr⟩ | ⟨a, t, _, h⟩
  . cases hr
    exact hx _ _ _ he
  . exact hf a _ _ _ h

theorem mapM_error_iff {f : α → ExceptT ε (StateM σ) β} {as : List α} {s s' : σ} {e : ε}
    : as.mapM f s = (.error e, s') ↔ ∃ before a after bs t, as = before ++ a :: after ∧
      before.mapM f s = (.ok bs, t)
      ∧ f a t = (.error e, s') := by
  constructor
  . intro h
    induction as generalizing s with
    | nil =>
      rw [List.mapM_nil] at h
      cases h
    | cons a as ih =>
      rw [List.mapM_cons] at h
      rcases bind_cases h with ⟨_, ha, he⟩ | ⟨b, t, hb, h⟩
      . cases he
        exact ⟨[], a, as, [], s, rfl, rfl, ha⟩
      . rcases bind_cases h with ⟨_, has, he⟩ | ⟨bs, u, _, hbs⟩
        . cases he
          obtain ⟨before, a', after, bs, u, rfl, hbefore, ha'⟩ := ih has
          refine ⟨a :: before, a', after, b :: bs, u, rfl, ?_, ha'⟩
          rw [List.mapM_cons, bind_ok hb, bind_ok hbefore]
          rfl
        . cases hbs
  . rintro ⟨before, a, after, bs, t, rfl, hbefore, ha⟩
    induction before generalizing s bs with
    | nil =>
      cases hbefore
      rw [List.nil_append, List.mapM_cons, bind_error ha]
    | cons b before ih =>
      rw [List.mapM_cons] at hbefore
      obtain ⟨c, u, hc, hbefore⟩ := of_bind_ok hbefore
      obtain ⟨cs, t', hcs, hend⟩ := of_bind_ok hbefore
      cases hend
      rw [List.cons_append, List.mapM_cons, bind_ok hc, bind_error (ih _ hcs)]

end Work

end DocStore

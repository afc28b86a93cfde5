import DocStore.Proofs.Engine.Cached

/-!
This module contains the proof that a damaged file is never overwritten: as long as the file of a
collection cannot be read and the collection is not dropped, whatever is asked of the collection is
refused, and the file stays.
-/

namespace DocStore

open Work

namespace Collection

/--
The file of a collection is there and is refused, whatever identifiers are handed out while it is
read.
-/
def IsDamaged (d : Disk) (name : String) : Prop :=
  ∀ ids, ∃ err ids', load d name ids = (.error err, ids')

theorem ofText_error {path path' : String} {s : List Char} {ids ids' : IdSupply} {err : Error}
    (h : ofText path s ids = (.error err, ids'))
    : ∃ err', ofText path' s ids = (.error err', ids') := by
  unfold ofText at h ⊢
  split at h
  . cases h
  next hblank =>
    rw [if_neg hblank]
    split at h
    . split at h
      . cases h
      . cases h
        exact ⟨_, rfl⟩
    . cases h
      exact ⟨_, rfl⟩
    . cases h
      exact ⟨_, rfl⟩

theorem IsDamaged.congr {d d' : Disk} {name : String} (h : IsDamaged d name)
    (hfile : d'.get? (.given (fileName name)) = d.get? (.given (fileName name)))
    : IsDamaged d' name := by
  intro ids
  obtain ⟨err, ids', hload⟩ := h ids
  unfold load at hload ⊢
  rw [hfile]
  cases hentry : d.get? (.given (fileName name)) with
  | none =>
    rw [hentry] at hload
    cases hload
  | some entry =>
    rw [hentry] at hload
    cases entry with
    | directory => exact ⟨_, _, rfl⟩
    | file content =>
      cases content with
      | bytes bs => exact ⟨_, _, rfl⟩
      | text s =>
        obtain ⟨err', h'⟩ := ofText_error hload
        exact ⟨err', ids', h'⟩

end Collection

theorem Request.target?_of_written? {q : Request} {r : Except Error Answer} {name : String}
    (h : q.written? r = some name) : q.target? = some (.text name) ∧ ∃ a, r = .ok a := by
  have htext : ∀ v : Value, v.text? = some name → v = .text name := by
    intro v hv
    cases v <;> cases hv
    rfl
  cases r with
  | error err =>
    rw [q.written?_error] at h
    cases h
  | ok a =>
    refine ⟨?_, a, rfl⟩
    cases q with
    | call c =>
      dsimp only [written?] at h
      split at h
      . exact congrArg some (htext _ h)
      . cases h
    | flush v => exact congrArg some (htext _ h)
    | _ => cases h

theorem Request.eq_drop_of_removed? {q : Request} {r : Except Error Answer} {name : String}
    (h : q.removed? r = some name) : q = .drop (.text name) := by
  cases r with
  | error err =>
    rw [q.removed?_error] at h
    cases h
  | ok a =>
    cases q with
    | drop v =>
      cases v <;> cases h
      rfl
    | _ => cases h

namespace Engine

section

variable {e e₁ : Engine} {name : Value}

theorem snapshot_inUse {docs : List Fields} (h : snapshot name e = (.ok docs, e₁))
    : ∃ i, IsPlaceOf e₁ name i := by
  unfold snapshot at h
  obtain ⟨i, e₂, hcollection, h⟩ := of_bind_ok h
  cases h
  exact ⟨i, (collection_opens hcollection).2 i rfl⟩

theorem mutation_inUse {m : Mutation} {s : Start} (h : mutation name m e = (.ok s, e₁))
    : ∃ i, IsPlaceOf e₁ name i := by
  unfold mutation at h
  obtain ⟨i, e₂, hcollection, h⟩ := of_bind_ok h
  cases h
  exact ⟨i, (collection_opens hcollection).2 i rfl⟩

end

theorem carryOut_inUse {name : Value} {p : Plan} {s : Start} {e e₁ : Engine}
    (h : carryOut name p e = (.ok s, e₁))
    : ∃ i, IsPlaceOf e₁ name i := by
  cases p with
  | reads answer =>
    obtain ⟨docs, e₂, hsnapshot, h⟩ := of_bind_ok h
    have hplace := snapshot_inUse hsnapshot
    cases hread : answer docs with
    | error err =>
      rw [hread] at h
      cases h
    | ok a =>
      rw [hread] at h
      cases h
      exact hplace
  | mutates m => exact mutation_inUse h
  | inserts docs =>
    obtain ⟨i, e₂, hcollection, h⟩ := of_bind_ok h
    have hplace := (collection_opens hcollection).2 i rfl
    cases docs with
    | error err => cases h
    | ok given => cases given <;> cases h <;> exact ⟨i, hplace⟩

theorem beginCall_inUse {c : Call} {s : Start} {e e₁ : Engine} (h : beginCall c e = (.ok s, e₁))
    : ∃ i, IsPlaceOf e₁ c.collection i := by
  rw [beginCall_eq] at h
  obtain ⟨p, e₂, _, h⟩ := of_bind_ok h
  exact carryOut_inUse h

theorem begin_target_inUse {q : Request} {s : Start} {v : Value} {e e₁ : Engine}
    (htarget : q.target? = some v)
    (h : begin q e = (.ok s, e₁)) : ∃ i, IsPlaceOf e₁ v i := by
  cases q with
  | call c =>
    cases htarget
    exact beginCall_inUse h
  | flush name =>
    cases htarget
    exact mutation_inUse h
  | _ => cases htarget

structure IsShut (e : Engine) (name : String) : Prop where
  unused : e.cached.lookup name = none
  damaged : Collection.IsDamaged e.disk name

section

variable {e e₁ e' : Engine} {name : String} {clock : Clock} {q : Request}

theorem lookup_of_subset {cached cached' : List (String × Nat)} (h : cached.lookup name = none)
    (hsub : cached' ⊆ cached) : cached'.lookup name = none := by
  rw [List.lookup_eq_none_iff] at h ⊢
  exact fun c hc => h c (hsub hc)

theorem IsShut.opens (h : e.IsShut name) (ho : Opens e e₁) : e₁.cached.lookup name = none := by
  cases ho with
  | none => exact h.unused
  | @load other docs ids₀ _ _ _ hload =>
    have hne : name ≠ other := by
      rintro rfl
      obtain ⟨err, ids', herr⟩ := h.damaged ids₀
      rw [herr] at hload
      cases hload
    dsimp only
    rw [List.lookup_append, h.unused]
    simp [List.lookup_cons, beq_false_of_ne hne]

theorem IsShut.begin (h : e.IsShut name) {r : Except Error Start} (hb : begin q e = (r, e₁))
    : e₁.cached.lookup name = none := by
  cases begin_hasBegun hb with
  | call hc => exact h.opens hc.opens
  | flush opens => exact h.opens opens
  | dropOpened => exact lookup_of_subset h.unused ((List.filter_subset_self _))
  | close => rfl
  | _ => exact h.unused

theorem takeTurn_unused (h : e.cached.lookup name = none) (now : Moment) (i : Nat) (t : Turn)
    : (takeTurn now i t e).2.cached.lookup name = none := by
  cases t with
  | mutate m =>
    obtain ⟨disk, hmemory⟩ := takeTurn_mutate_memory e now i m
    rw [hmemory]
    exact h
  | removeFile =>
    rw [takeTurn_removeFile]
    exact h
  | releaseAll => rfl

theorem IsShut.run_unused (h : e.IsShut name) {r : Except Error Answer}
    (hrun : run clock.now q e = (r, e'))
    : e'.cached.lookup name = none := by
  rcases run_cases hrun with ⟨err, hb, _⟩ | ⟨a, hb, _⟩ | ⟨i, t, e₁, hb, _, rfl⟩
  . exact h.begin hb
  . exact h.begin hb
  . exact takeTurn_unused (h.begin hb) clock.now i t

theorem IsShut.refuses (h : e.IsShut name) (clock : Clock) (htarget : q.target? = some (.text name))
    : ∃ err, (run clock.now q e).1 = .error err := by
  rcases hb : Engine.begin q e with ⟨r, e₁⟩
  cases r with
  | error err =>
    rw [run_error hb]
    exact ⟨err, rfl⟩
  | ok s =>
    -- a request that goes on has found or put the collection in use, which it is not afterwards
    obtain ⟨i, n, hname, hlookup⟩ := begin_target_inUse htarget hb
    cases checkName_ok hname
    rw [h.begin hb] at hlookup
    cases hlookup

theorem IsShut.run (he : e.Sound) (h : e.IsShut name) (hq : q ≠ .drop (.text name))
    {r : Except Error Answer}
    (hrun : run clock.now q e = (r, e')) : e'.IsShut name ∧ e'.file? name = e.file? name := by
  have hfile : e'.file? name = e.file? name := by
    apply (run_fileStep he hrun).kept
    . intro hwritten
      obtain ⟨htarget, a, rfl⟩ := Request.target?_of_written? hwritten
      obtain ⟨err, herr⟩ := h.refuses clock htarget
      rw [hrun] at herr
      cases herr
    . intro hremoved
      exact hq (Request.eq_drop_of_removed? hremoved)
  exact ⟨⟨h.run_unused hrun, h.damaged.congr hfile⟩, hfile⟩

end

end Engine

def Event.Spares (name : String) : Event → Prop
  | .request _ q => q ≠ .drop (.text name)
  | _ => True

namespace Engine

theorem IsShut.after {e : Engine} {name : String} (he : e.Sound) (h : e.IsShut name) {event : Event}
    (hspares : event.Spares name)
    : (e.after event).IsShut name ∧ (e.after event).file? name = e.file? name := by
  cases event with
  | request clock q => exact h.run he hspares rfl
  | fail u t => exact ⟨⟨h.unused, h.damaged.congr rfl⟩, rfl⟩
  | supply ids => exact ⟨⟨h.unused, h.damaged⟩, rfl⟩
  | reopen => exact ⟨⟨rfl, h.damaged⟩, rfl⟩

theorem IsShut.afterAll {e : Engine} {name : String} (he : e.Sound) (h : e.IsShut name)
    {events : List Event} (hspares : ∀ event ∈ events, event.Spares name)
    : (events.foldl Engine.after e).IsShut name ∧ (events.foldl Engine.after e).file? name =
      e.file? name := by
  induction events generalizing e with
  | nil => exact ⟨h, rfl⟩
  | cons event events ih =>
    obtain ⟨hafter, hfile⟩ := h.after he (hspares event (List.mem_cons_self ..))
    obtain ⟨hall, hfiles⟩ :=
      ih (he.after event) hafter fun other hother => hspares other (List.mem_cons_of_mem _ hother)
    exact ⟨hall, hfiles.trans hfile⟩

/--
A collection that is not in use and whose file is damaged stays so as long as it is not dropped, its
file stays byte for byte, and whatever is asked of it on the way is refused.
-/
theorem damaged_file_stays {e : Engine} (he : e.Reachable) {name : String} (hshut : e.IsShut name)
    (events : List Event) (hspares : ∀ event ∈ events, event.Spares name)
    : let e' := events.foldl Engine.after e
      e'.IsShut name ∧ e'.file? name = e.file? name
        ∧ ∀ (clock : Clock) (q : Request), q.target? = some (.text name) →
          ∃ err, (run clock.now q e').1 = .error err := by
  obtain ⟨hshut', hfile⟩ := hshut.afterAll he.sound hspares
  exact ⟨hshut', hfile, fun clock q htarget => hshut'.refuses clock htarget⟩

def cutEngine : Engine :=
  { disk := { root := "d", entries := [(.given "c.json", .file (.text ['[', '\x7b']))] } }

theorem cutEngine_isShut : cutEngine.IsShut "c" := ⟨rfl, fun _ => ⟨_, _, rfl⟩⟩

def cutEvents : List Event :=
  [.request .epoch (.call (.createOne (.text "c") (.object []))), .fail .replace ⟨1, "disk full"⟩,
    .request .epoch (.call (.createOne (.text "b") (.object []))),
      .request .epoch (.flush (.text "c")), .reopen,
    .request .epoch .close, .request .epoch (.drop (.text "b"))]

theorem damaged_file_stays_cut
    : cutEngine.IsShut "c" ∧ (∀ event ∈ cutEvents, event.Spares "c")
      ∧ (cutEvents.foldl Engine.after cutEngine).IsShut "c"
      ∧ (cutEvents.foldl Engine.after cutEngine).file? "c" =
        some (.file (.text ['[', '\x7b'])) := by
  have hspares : ∀ event ∈ cutEvents, event.Spares "c" := by simp [cutEvents, Event.Spares]
  have h := damaged_file_stays (.start _ _) cutEngine_isShut cutEvents hspares
  exact ⟨cutEngine_isShut, hspares, h.1, h.2.1⟩

end Engine

end DocStore

import Mathlib.Logic.Relation
import DocStore.Proofs.Engine.Run

/-!
This module contains the states that an engine can reach: requests begin, wait for slots, and take
their turns in any order, while the clock, the identifiers and the directory are as they may be. In
all of them the documents in memory can be written.
-/

namespace DocStore

open Work

structure Clock where
  micros : Int
  inRange : Moment.inRange micros = true

def Clock.epoch : Clock := ⟨0, by decide⟩

def Clock.now (c : Clock) : Moment := (Moment.utc c.micros).truncateToMillis

theorem Clock.now_isStored (c : Clock) : (Value.date c.now).IsStored := by
  apply Value.IsStored.date
  have h := c.inRange
  have he : Moment.earliest = -62135596800000000 := by decide
  have hl : Moment.latest = 253402300799999999 := by decide
  simp only [Moment.inRange, decide_eq_true_eq, he, hl] at h ⊢
  dsimp only [Moment.utc]
  omega

namespace Engine

def IsAwaited (t : Turn) : Prop := ∃ q e e₁ i, begin q e = (.ok (.waits i t), e₁)

inductive Step (e : Engine) : Engine → Prop where
  | begin (q : Request) : Step e (begin q e).2
  | enqueue (i : Nat) : Step e (enqueue i e).2
  | takeTurn (clock : Clock) (i : Nat) {t : Turn} (h : IsAwaited t) :
      Step e (takeTurn clock.now i t e).2
  | release (i : Nat) : Step e (release i e)
  | directory (disk : Disk) : Step e { e with disk }
  | supply (ids : IdSupply) : Step e { e with ids }

inductive Reachable : Engine → Prop where
  | start (disk : Disk) (ids : IdSupply) : Reachable { disk, ids }
  | step {e e' : Engine} (h : Reachable e) (hs : Step e e') : Reachable e'

structure Sound (e : Engine) : Prop where
  places : ∀ c ∈ e.cached, ∃ s, e.opened[c.2]? = some s ∧ s.name = c.1
  stored : ∀ s ∈ e.opened, ∀ d ∈ s.documents, d.IsStored

theorem mem_of_lookup {cached : List (String × Nat)} {name : String} {i : Nat}
    (h : cached.lookup name = some i)
    : (name, i) ∈ cached := by
  rw [List.lookup_eq_some_iff] at h
  obtain ⟨l₁, l₂, rfl, _⟩ := h
  simp

theorem Sound.store_of_lookup {e : Engine} (h : e.Sound) {name : String} {i : Nat}
    (hl : e.cached.lookup name = some i) : i < e.opened.length ∧ (e.store i).name = name := by
  obtain ⟨s, hs, hname⟩ := h.places _ (mem_of_lookup hl)
  dsimp only at hs hname
  refine ⟨(List.getElem?_eq_some_iff.mp hs).1, ?_⟩
  rw [store_eq hs, hname]

theorem Sound.documents {e : Engine} (h : e.Sound) (i : Nat)
    : ∀ d ∈ (e.store i).documents, d.IsStored := by
  unfold store
  cases hs : e.opened[i]? with
  | none => simp
  | some s => exact h.stored s (List.mem_of_getElem? hs)

theorem Sound.congr {e e' : Engine} (h : e.Sound) (ho : e'.opened = e.opened)
    (hc : e'.cached.Sublist e.cached)
    : e'.Sound := by
  constructor
  . intro c hmem
    rw [ho]
    exact h.places c (hc.subset hmem)
  . rw [ho]
    exact h.stored

theorem Sound.opens {e e₁ : Engine} (h : e.Sound) (ho : Opens e e₁) : e₁.Sound := by
  cases ho with
  | none ids => exact h.congr rfl (.refl _)
  | @load name docs _ _ ids absent hload =>
    constructor
    . intro c hc
      dsimp only at hc ⊢
      rw [List.mem_append, List.mem_singleton] at hc
      cases hc with
      | inl hc =>
        obtain ⟨s, hs, hname⟩ := h.places c hc
        have hlt := (List.getElem?_eq_some_iff.mp hs).1
        rw [List.getElem?_append_left hlt]
        exact ⟨s, hs, hname⟩
      | inr hc =>
        refine ⟨⟨name, docs, {}⟩, ?_, ?_⟩
        . rw [hc]
          simp
        . rw [hc]
    . intro s hs
      dsimp only at hs
      rw [List.mem_append, List.mem_singleton] at hs
      cases hs with
      | inl hs => exact h.stored s hs
      | inr hs =>
        rw [hs]
        exact Collection.load_isStored hload

theorem Sound.setStore {e : Engine} (h : e.Sound) (i : Nat) {f : Store → Store}
    (hname : ∀ s, (f s).name = s.name)
    (hdocs : ∀ d ∈ (f (e.store i)).documents, d.IsStored) : (setStore i f e).Sound := by
  constructor
  . intro c hc
    obtain ⟨s, hs, hsc⟩ := h.places c hc
    rw [getElem?_setStore, hs]
    split
    . exact ⟨f s, rfl, by rw [hname, hsc]⟩
    . exact ⟨s, rfl, hsc⟩
  . intro s hs
    obtain ⟨j, hj⟩ := List.getElem?_of_mem hs
    rw [getElem?_setStore] at hj
    split at hj
    next hij =>
      rw [Option.map_eq_some_iff] at hj
      obtain ⟨s', hs', rfl⟩ := hj
      rw [← hij] at hs'
      rw [store_eq hs'] at hdocs
      exact hdocs
    . exact h.stored s (List.mem_of_getElem? hj)

theorem IsAwaited.isNormal {m : Mutation} (h : IsAwaited (.mutate m)) : m.IsNormal := by
  obtain ⟨q, e, e₁, i, h⟩ := h
  cases begin_hasBegun h with
  | call h =>
    obtain ⟨name, m', hasks, ht, _⟩ := h.waits _ _ rfl
    cases ht
    exact hasks.isNormal
  | flush opens waits answered =>
    obtain ⟨ht, _⟩ := waits _ _ rfl
    cases ht
    trivial
  | @dropClosed _ n _ _ _ hr =>
    cases hremoved : (removal n e.disk).1 with
    | ok b =>
      rw [hremoved] at hr
      cases hr
    | error err =>
      rw [hremoved] at hr
      cases hr

theorem Sound.begin {e : Engine} (h : e.Sound) (q : Request) : (begin q e).2.Sound := by
  rcases hb : Engine.begin q e with ⟨r, e₁⟩
  cases begin_hasBegun hb with
  | call hc => exact h.opens hc.opens
  | flush opens => exact h.opens opens
  | dropRefused => exact h
  | dropOpened => exact h.congr rfl List.filter_sublist
  | dropClosed => exact h.congr rfl (.refl _)
  | closeLater => exact h
  | close => exact h.congr rfl (List.nil_sublist _)
  | list => exact h

theorem Sound.takeTurn {e : Engine} (h : e.Sound) (clock : Clock) (i : Nat) {t : Turn}
    (ht : IsAwaited t)
    : (takeTurn clock.now i t e).2.Sound := by
  cases t with
  | mutate m =>
    obtain ⟨disk, hmemory⟩ := takeTurn_mutate_memory e clock.now i m
    rw [hmemory]
    have hdocs :=
      (Mutation.effect_change ht.isNormal clock.now (e.store i).name (e.store i).documents
      e.ids).isStored clock.now_isStored (h.documents i)
    have hset : (withDocuments i (effectAt e clock.now i m).documents e).Sound :=
      h.setStore i (fun _ => rfl) hdocs
    exact hset.congr rfl (.refl _)
  | removeFile =>
    rw [takeTurn_removeFile]
    exact h.congr rfl (.refl _)
  | releaseAll => exact h.congr rfl (List.nil_sublist _)

theorem Sound.step {e e' : Engine} (h : e.Sound) (hs : Step e e') : e'.Sound := by
  cases hs with
  | begin q => exact h.begin q
  | enqueue i => exact h.setStore i (fun _ => rfl) (h.documents i)
  | takeTurn clock i ht => exact h.takeTurn clock i ht
  | release i => exact h.setStore i (fun _ => rfl) (h.documents i)
  | directory disk => exact h.congr rfl (.refl _)
  | supply ids => exact h.congr rfl (.refl _)

theorem Reachable.sound {e : Engine} (h : e.Reachable) : e.Sound := by
  induction h with
  | start disk ids => exact ⟨by simp, by simp⟩
  | step _ hs ih => exact ih.step hs

abbrev Steps : Engine → Engine → Prop := Relation.ReflTransGen Step

theorem Reachable.steps {e e' : Engine} (h : e.Reachable) (hs : Steps e e') : e'.Reachable := by
  induction hs with
  | refl => exact h
  | tail _ hs ih => exact ih.step hs

theorem run_steps (clock : Clock) (q : Request) (e : Engine) : Steps e (run clock.now q e).2 := by
  rcases hb : Engine.begin q e with ⟨r, e₁⟩
  have h₁ : Steps e e₁ := by
    have hs := Step.begin (e := e) q
    rw [hb] at hs
    exact .single hs
  cases r with
  | error err =>
    rw [run_error hb]
    exact h₁
  | ok start =>
    cases start with
    | answered a =>
      rw [run_answered hb]
      exact h₁
    | waits i t =>
      rw [run_waits hb, ← release_enqueue]
      exact ((h₁.tail (.takeTurn clock i ⟨q, e, e₁, i, hb⟩)).tail (.enqueue i)).tail (.release i)

end Engine

end DocStore

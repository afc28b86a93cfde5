import DocStore.Proofs.Engine.Reachable

/-!
This module contains what a call leaves that is refused for another reason than its file: the
documents as they were, unless a query stops on a match with a group that ends before it begins.
-/

namespace DocStore

open Work

namespace Collection

/--
The documents are walked through up to one on which the query stops, and one before that has been
changed.
-/
def StopsHalfway (query patch : Value) (now : Moment) (docs : List Fields) : Prop :=
  ∃ before doc after, docs = before ++ doc :: after
    ∧ (∀ d ∈ before, ∃ holds, isMatch (.object d) query = .ok holds)
    ∧ isMatch (.object doc) query = .error (.fault .crossedGroup)
    ∧ ∃ d ∈ before, isMatch (.object d) query = .ok true ∧ ∃ d', merge d patch now = .ok d' ∧ d' ≠ d

theorem merge_error {doc doc' : Fields} {patch : Value} {now : Moment} {e : Error}
    (h : merge doc patch now = .error e) : merge doc' patch now = .error e := by
  unfold merge at h ⊢
  cases patch with
  | object fs => cases h
  | _ => exact h

theorem mergeMatching_refused {query : Value} {doc : Fields} {e : Error}
    (h : isMatch (.object doc) query = .error e) (patch : Value) (now : Moment) (docs : List Fields)
    : mergeMatching query patch now (doc :: docs) = (.error e, doc :: docs) := by
  rw [mergeMatching, h]

theorem mergeMatching_unmatched {query : Value} {doc : Fields}
    (h : isMatch (.object doc) query = .ok false) (patch : Value) (now : Moment)
    (docs : List Fields)
    : mergeMatching query patch now (doc :: docs)
      = ((mergeMatching query patch now docs).1,
        doc :: (mergeMatching query patch now docs).2) := by
  rw [mergeMatching, h]

theorem mergeMatching_unmerged {query patch : Value} {now : Moment} {doc : Fields} {e : Error}
    (h : isMatch (.object doc) query = .ok true) (hm : merge doc patch now = .error e)
    (docs : List Fields)
    : mergeMatching query patch now (doc :: docs) = (.error e, doc :: docs) := by
  rw [mergeMatching, h]
  dsimp only
  rw [hm]

theorem mergeMatching_merged {query patch : Value} {now : Moment} {doc merged : Fields}
    (h : isMatch (.object doc) query = .ok true) (hm : merge doc patch now = .ok merged)
    (docs : List Fields)
    : mergeMatching query patch now (doc :: docs)
      = ((mergeMatching query patch now docs).1.map (· + 1),
        merged :: (mergeMatching query patch now docs).2) := by
  rw [mergeMatching, h]
  dsimp only
  rw [hm]

def IsPassed (query patch : Value) (now : Moment) (doc : Fields) : Prop :=
  ∃ holds, isMatch (.object doc) query = .ok holds ∧
    (holds = true → ∃ d', merge doc patch now = .ok d')

theorem mergeMatching_append {query patch : Value} {now : Moment} {before docs docs' : List Fields}
    {r : Except Error Nat} (hdocs : mergeMatching query patch now docs = (r, docs'))
    (hall : ∀ d ∈ before, IsPassed query patch now d)
    : ∃ before', (mergeMatching query patch now (before ++ docs)).2 = before' ++ docs'
        ∧ (before' ≠ before ↔
          ∃ d ∈ before, isMatch (.object d) query = .ok true ∧ ∃ d', merge d patch now = .ok d' ∧
            d' ≠ d) := by
  induction before with
  | nil =>
    refine ⟨[], ?_, by simp⟩
    rw [List.nil_append, hdocs, List.nil_append]
  | cons doc before ih =>
    obtain ⟨before', happend, hchanged⟩ := ih fun d hd => hall d (List.mem_cons_of_mem _ hd)
    obtain ⟨holds, hholds, hmerge⟩ := hall doc (List.mem_cons_self ..)
    rw [List.cons_append]
    cases holds with
    | false =>
      rw [mergeMatching_unmatched hholds, happend]
      refine ⟨doc :: before', rfl, ?_⟩
      simp only [ne_eq, List.cons.injEq, true_and, List.mem_cons, exists_eq_or_imp, hholds,
        Except.ok.injEq, Bool.false_eq_true, false_and, false_or]
      exact hchanged
    | true =>
      obtain ⟨merged, hmerged⟩ := hmerge rfl
      rw [mergeMatching_merged hholds hmerged, happend]
      refine ⟨merged :: before', rfl, ?_⟩
      simp only [ne_eq, List.cons.injEq, List.mem_cons, exists_eq_or_imp, hholds, hmerged,
        Except.ok.injEq, true_and, exists_eq_left']
      rw [← hchanged]
      by_cases hd : merged = doc <;> simp [hd]

theorem mergeMatching_error {query patch : Value} {now : Moment} {docs docs' : List Fields}
    {e : Error} (h : mergeMatching query patch now docs = (.error e, docs'))
    : ∃ before doc after, docs = before ++ doc :: after
        ∧ (∀ d ∈ before, IsPassed query patch now d)
        ∧ mergeMatching query patch now (doc :: after) = (.error e, doc :: after)
        ∧ (isMatch (.object doc) query = .error e ∨ merge doc patch now = .error e) := by
  induction docs generalizing docs' with
  | nil => cases h
  | cons doc docs ih =>
    -- a document that is passed stands before the one at which the query stops
    have hlater : IsPassed query patch now doc →
        ∀ docs'', mergeMatching query patch now docs = (.error e, docs'') →
        ∃ before d after, doc :: docs = before ++ d :: after
          ∧ (∀ d ∈ before, IsPassed query patch now d)
          ∧ mergeMatching query patch now (d :: after) = (.error e, d :: after)
          ∧ (isMatch (.object d) query = .error e ∨ merge d patch now = .error e) := by
      intro hpassed docs'' hdocs
      obtain ⟨before, d, after, rfl, hbefore, hstop, hcause⟩ := ih hdocs
      refine ⟨doc :: before, d, after, rfl, ?_, hstop, hcause⟩
      intro d' hd'
      rw [List.mem_cons] at hd'
      cases hd' with
      | inl hd' =>
        rw [hd']
        exact hpassed
      | inr hd' => exact hbefore d' hd'
    rcases hrest : mergeMatching query patch now docs with ⟨r, rest⟩
    cases hmatch : isMatch (.object doc) query with
    | error e' =>
      have hstop := mergeMatching_refused hmatch patch now docs
      rw [hstop] at h
      cases h
      exact ⟨[], doc, docs, rfl, by simp, hstop, .inl hmatch⟩
    | ok holds =>
      cases holds with
      | false =>
        rw [mergeMatching_unmatched hmatch, hrest] at h
        cases h
        exact hlater ⟨false, hmatch, nofun⟩ rest hrest
      | true =>
        cases hm : merge doc patch now with
        | error e' =>
          have hstop := mergeMatching_unmerged hmatch hm docs
          rw [hstop] at h
          cases h
          exact ⟨[], doc, docs, rfl, by simp, hstop, .inr hm⟩
        | ok merged =>
          rw [mergeMatching_merged hmatch hm, hrest] at h
          cases r with
          | ok n => cases h
          | error e' =>
            cases h
            exact hlater ⟨true, hmatch, fun _ => ⟨merged, hm⟩⟩ rest hrest

theorem mergeMatching_changes {query patch : Value} {now : Moment} {docs docs' : List Fields}
    {e : Error} (hstored : ∀ d ∈ docs, d.IsStored)
    (h : mergeMatching query patch now docs = (.error e, docs'))
    : docs' ≠ docs ↔ StopsHalfway query patch now docs := by
  constructor
  . intro hne
    obtain ⟨before, doc, after, rfl, hpassed, hstop, hcause⟩ := mergeMatching_error h
    obtain ⟨before', happend, hchanged⟩ := mergeMatching_append hstop hpassed
    rw [h] at happend
    dsimp only at happend
    have hbefore : before' ≠ before := by
      intro heq
      rw [happend, heq] at hne
      exact hne rfl
    obtain ⟨d, hd, hmatch, d', hmerge, hdd⟩ := hchanged.mp hbefore
    refine ⟨before, doc, after, rfl, ?_, ?_, d, hd, hmatch, d', hmerge, hdd⟩
    . intro d hd
      obtain ⟨holds, hholds, _⟩ := hpassed d hd
      exact ⟨holds, hholds⟩
    . cases hcause with
      | inl hcause =>
        have hcrossed :=
          isMatch_error (hstored d (by simp [hd])) (hstored doc (by simp)) hmatch hcause
        rw [hcause, hcrossed]
      | inr hcause =>
        -- a patch that was merged with one document can be merged with all
        rw [merge_error hcause] at hmerge
        cases hmerge
  . rintro ⟨before, doc, after, rfl, hpassed, hstop, d, hd, hmatch, d', hmerge, hdd⟩ heq
    have hall : ∀ d ∈ before, IsPassed query patch now d := by
      intro c hc
      obtain ⟨holds, hholds⟩ := hpassed c hc
      refine ⟨holds, hholds, fun _ => ?_⟩
      cases hm : merge c patch now with
      | ok c' => exact ⟨c', rfl⟩
      | error e' =>
        rw [merge_error hm] at hmerge
        cases hmerge
    obtain ⟨before', happend, hchanged⟩ :=
      mergeMatching_append (mergeMatching_refused hstop patch now after) hall
    rw [h, heq] at happend
    dsimp only at happend
    rw [List.append_cancel_right_eq] at happend
    exact hchanged.mpr ⟨d, hd, hmatch, d', hmerge, hdd⟩ happend.symm

end Collection

namespace Mutation

open Collection

theorem Changes.refused_documents {docs : List Fields} {ids : IdSupply} {index : Nat}
    {patch : Value} {now : Moment} {f : Effect} (h : Changes docs ids index patch now f) {e : Error}
    (hout : f.outcome = .error e)
    : f.documents = docs := by
  cases h with
  | changed => cases hout
  | _ => rfl

theorem Appends.refused_documents {collection : String} {docs : List Fields} {ids : IdSupply}
    {doc : Value} {now : Moment} {report : Value → Report} {f : Effect}
    (h : Appends collection docs ids doc now report f) {e : Error}
    (hout : f.outcome = .error e) : f.documents = docs := by
  cases h with
  | appended => cases hout
  | refused => rfl

theorem effect_refused {m : Mutation} {now : Moment} {collection : String} {docs : List Fields}
    {ids : IdSupply} {e : Error} (hm : ∀ query patch, m ≠ .updateMany query patch)
    (h : (m.effect now collection docs ids).outcome = .error e)
    : (m.effect now collection docs ids).documents = docs := by
  have hcomes := comesTo_effect m now collection docs ids
  generalize m.effect now collection docs ids = f at hcomes h ⊢
  cases hcomes with
  | create appends => exact appends.refused_documents h
  | update _ changes => exact changes.refused_documents h
  | upsertFound _ changes => exact changes.refused_documents h
  | upsertMissing _ appends => exact appends.refused_documents h
  | updateManyRefused => exact absurd rfl (hm _ _)
  | createManyRefused | deleteManyRefused => rfl
  | _ => cases h

theorem effect_updateMany (query patch : Value) (now : Moment) (collection : String)
    (docs : List Fields) (ids : IdSupply)
    : effect now collection docs ids (.updateMany query patch)
      = ⟨(mergeMatching query patch now docs).2, ids,
          (mergeMatching query patch now docs).1.map fun n => (.report (updated n), n ≠ 0)⟩ := by
  unfold effect
  dsimp only
  rcases mergeMatching query patch now docs with ⟨r, docs'⟩
  cases r <;> rfl

theorem effect_error {m : Mutation} {now : Moment} {collection : String} {docs : List Fields}
    {ids : IdSupply} {e : Error} (hstored : ∀ d ∈ docs, d.IsStored)
    (h : (m.effect now collection docs ids).outcome = .error e)
    : (m.effect now collection docs ids).documents ≠ docs
      ↔ ∃ query patch, m = .updateMany query patch ∧ StopsHalfway query patch now docs := by
  by_cases hm : ∃ query patch, m = .updateMany query patch
  . obtain ⟨query, patch, rfl⟩ := hm
    rw [effect_updateMany] at h ⊢
    rcases hmerge : mergeMatching query patch now docs with ⟨r, docs'⟩
    rw [hmerge] at h
    cases r with
    | ok n => cases h
    | error e' =>
      dsimp only
      rw [mergeMatching_changes hstored hmerge]
      constructor
      . exact fun hstops => ⟨query, patch, rfl, hstops⟩
      . rintro ⟨query', patch', heq, hstops⟩
        cases heq
        exact hstops
  . have hkept := effect_refused (fun query patch heq => hm ⟨query, patch, heq⟩) h
    constructor
    . exact fun hdocs => absurd hkept hdocs
    . rintro ⟨query, patch, heq, _⟩
      exact absurd ⟨query, patch, heq⟩ hm

end Mutation

namespace Engine

structure KeepsRest (e e' : Engine) : Prop where
  disk : e'.disk = e.disk
  cached : e'.cached = e.cached
  length : e'.opened.length = e.opened.length
  name : ∀ i, (e'.store i).name = (e.store i).name
  pending : ∀ i, (e'.store i).slot.pending = (e.store i).slot.pending

theorem withEffect_keepsRest (e : Engine) (now : Moment) (i : Nat) (m : Mutation)
    : KeepsRest e (passed i (withEffect e now i m)) := by
  have hstore : ∀ j, ∃ docs, (withEffect e now i m).store j =
      { e.store j with documents := docs } := by
    intro j
    by_cases hij : i = j
    . by_cases hlt : i < e.opened.length
      . rw [← hij]
        exact ⟨_, withEffect_store_self hlt⟩
      . refine ⟨(e.store j).documents, ?_⟩
        unfold withEffect withDocuments store setStore
        dsimp only
        rw [List.modify_eq_self (by omega)]
    . exact ⟨_, withEffect_store_ne hij⟩
  constructor
  . rfl
  . rfl
  . rw [passed_length]
    exact List.length_modify ..
  . intro j
    obtain ⟨docs, hdocs⟩ := hstore j
    rw [passed_name, hdocs]
  . intro j
    obtain ⟨docs, hdocs⟩ := hstore j
    rw [passed_pending, hdocs]

theorem KeepsRest.refl (e : Engine) : KeepsRest e e := ⟨rfl, rfl, rfl, fun _ => rfl, fun _ => rfl⟩

/--
A call that is refused for another reason than its file leaves the directory, the slots and the
documents as they were when it had opened its collection. The documents change only if the call
merges a patch into all that match a query, and the query stops half-way.
-/
theorem run_refused {e e₁ e' : Engine} (he : e.Reachable) {clock : Clock} {c : Call}
    {start : Except Error Start} {err : Error} (hbegin : begin (.call c) e = (start, e₁))
    (hrun : run clock.now (.call c) e = (.error err, e'))
    (hfile : ∀ cause path, err ≠ .file cause path)
    : Opens e e₁ ∧ e₁.disk = e.disk ∧ KeepsRest e₁ e'
      ∧ ∀ i, (e'.store i).documents ≠ (e₁.store i).documents
        ↔ ∃ query patch, start = .ok (.waits i (.mutate (.updateMany query patch)))
            ∧ Collection.StopsHalfway query patch clock.now (e₁.store i).documents := by
  have hbegun := beginCall_begun (c := c) hbegin
  have hsound : e₁.Sound := he.sound.opens hbegun.opens
  refine ⟨hbegun.opens, hbegun.opens.disk, ?_⟩
  cases start with
  | error err' =>
    rw [run_error hbegin] at hrun
    cases hrun
    refine ⟨.refl _, ?_⟩
    intro i
    simp
  | ok start =>
    cases start with
    | answered a =>
      rw [run_answered hbegin] at hrun
      cases hrun
    | waits i t =>
      obtain ⟨name, m, hasks, rfl, n, hname, hlookup⟩ := hbegun.waits i t rfl
      have hlt := (hsound.store_of_lookup hlookup).1
      rw [run_waits hbegin] at hrun
      have hdocs :=
        (Mutation.effect_change hasks.isNormal clock.now (e₁.store i).name (e₁.store i).documents
        e₁.ids).isStored clock.now_isStored (hsound.documents i)
      -- the effect is written, or the call is refused for it: only then can documents have changed
      have houtcome := takeTurn_outcome hdocs
      rcases hturn : takeTurn clock.now i (.mutate m) e₁ with ⟨r, e₂⟩
      rw [hturn] at hrun houtcome
      cases houtcome with
      | unchanged => cases hrun
      | written => cases hrun
      | failed =>
        cases hrun
        exact absurd rfl (hfile _ _)
      | refused hout =>
        cases hrun
        refine ⟨withEffect_keepsRest .., ?_⟩
        intro j
        rw [passed_documents]
        change ((withEffect e₁ clock.now i m).store j).documents ≠ _ ↔ _
        by_cases hij : i = j
        . rw [← hij, withEffect_store_self hlt]
          dsimp only
          unfold effectAt at hout ⊢
          rw [Mutation.effect_error (hsound.documents i) hout]
          constructor
          . rintro ⟨query, patch, rfl, hstops⟩
            exact ⟨query, patch, rfl, hstops⟩
          . rintro ⟨query, patch, heq, hstops⟩
            cases heq
            exact ⟨query, patch, rfl, hstops⟩
        . rw [withEffect_store_ne hij]
          constructor
          . intro hne
            exact absurd rfl hne
          . rintro ⟨query, patch, heq, _⟩
            cases heq
            exact absurd rfl hij

def halfwayQuery : Value := .object [(.text "t", .object [(.text "$regex", .text "(?:(a)|b)++")])]

def halfwayCall : Call := .updateMany (.text "c") halfwayQuery (.object [(.text "n", .int 1)])

def halfwayClock : Clock := ⟨1700000000000000, by decide⟩

def halfwayEngine : Engine :=
  let create (id t : String) : Request :=
    .call (.createOne (.text "c") (.object [(.text "_id", .text id), (.text "t", .text t)]))
  (run halfwayClock.now (create "2" "abb")
    (run halfwayClock.now (create "1" "a") (onEmpty "d")).2).2

theorem halfwayEngine_reachable : halfwayEngine.Reachable :=
  (Reachable.start { root := "d" } {}).steps
    ((run_steps halfwayClock _ _).trans (run_steps halfwayClock _ _))

def isCrossed (r : Except Error Answer) : Bool :=
  match r with
  | .error (.fault kind) => kind = .crossedGroup
  | _ => false

theorem isCrossed_iff {r : Except Error Answer}
    : isCrossed r = true ↔ r = .error (.fault .crossedGroup) := by
  unfold isCrossed
  constructor
  . intro h
    split at h
    . rw [of_decide_eq_true h]
    . cases h
  . intro h
    rw [h]
    rfl

theorem halfwayCall_refused
    : (run halfwayClock.now (.call halfwayCall) halfwayEngine).1 =
      .error (.fault .crossedGroup) := by
  rw [← isCrossed_iff]
  decide +kernel

theorem halfwayCall_changes
    : ((run halfwayClock.now (.call halfwayCall) halfwayEngine).2.store 0).documents
      ≠ (halfwayEngine.store 0).documents := by
  intro h
  have hlengths := congrArg (List.map List.length) h
  revert hlengths
  decide +kernel

theorem halfwayCall_changes_begun
    : ((run halfwayClock.now (.call halfwayCall) halfwayEngine).2.store 0).documents
      ≠ ((begin (.call halfwayCall) halfwayEngine).2.store 0).documents := by
  intro h
  have hlengths := congrArg (List.map List.length) h
  revert hlengths
  decide +kernel

theorem run_refused_halfway
    : ∃ query patch, (begin (.call halfwayCall) halfwayEngine).1
          = .ok (.waits 0 (.mutate (.updateMany query patch)))
        ∧ Collection.StopsHalfway query patch halfwayClock.now
          ((begin (.call halfwayCall) halfwayEngine).2.store 0).documents :=
  ((run_refused halfwayEngine_reachable rfl (Prod.ext halfwayCall_refused rfl) nofun).2.2.2 0).mp
    halfwayCall_changes_begun

theorem refused_call_changes_documents
    : halfwayEngine.Reachable
      ∧ (run halfwayClock.now (.call halfwayCall) halfwayEngine).1 = .error (.fault .crossedGroup)
      ∧ ((run halfwayClock.now (.call halfwayCall) halfwayEngine).2.store 0).documents
        ≠ (halfwayEngine.store 0).documents :=
  ⟨halfwayEngine_reachable, halfwayCall_refused, halfwayCall_changes⟩

end Engine

end DocStore

import DocStore.Proofs.Engine.InUse
import DocStore.Proofs.Engine.Refused
import DocStore.Proofs.Query.Selection

/-!
This module contains the proof that all requests that take a query select the same documents: those
that are found are those that are counted, that a patch is merged into, and that are dropped.
-/

namespace DocStore

open Work

namespace Fields

theorem get?_merge {fs gs : Fields} (hg : gs.IsKeyed) (s : String)
    : (fs.merge gs).get? (.text s) = (gs.get? (.text s)).or (fs.get? (.text s)) := by
  induction gs generalizing fs with
  | nil => rfl
  | cons g gs ih =>
    obtain ⟨k, hk⟩ := hg.keys g (List.mem_cons_self ..)
    have hnodup := hg.nodup
    rw [List.map_cons, List.nodup_cons] at hnodup
    have hrest : IsKeyed gs := ⟨fun f hf => hg.keys f (List.mem_cons_of_mem _ hf), hnodup.2⟩
    rw [merge_cons, ih hrest, get?_cons]
    -- the names are unequal, so that no later field replaces the first one
    by_cases hs : g.1 = .text s
    . have habsent : Fields.get? gs (.text s) = none := by
        rw [get?_eq_none]
        intro f hf hfs
        exact hnodup.1 (List.mem_map.mpr ⟨f, hf, hfs.trans hs.symm⟩)
      rw [if_pos (Value.equals_text.mpr hs), habsent, hs, get?_insert_self]
      rfl
    . rw [if_neg (fun h => hs (Value.equals_text.mp h)), get?_insert_ne fs hs]

theorem prefix_keys_insert (fs : Fields) (k v : Value)
    : fs.map (·.1) <+: (fs.insert k v).map (·.1) := by
  by_cases h : fs.contains k = true
  . rw [map_fst_insert_of_contains v h]
  . unfold insert
    rw [if_neg h, List.map_append]
    exact List.prefix_append ..

theorem prefix_keys_merge (fs gs : Fields) : fs.map (·.1) <+: (fs.merge gs).map (·.1) := by
  induction gs generalizing fs with
  | nil => exact List.prefix_refl _
  | cons g gs ih => exact (prefix_keys_insert fs g.1 g.2).trans (ih (fs.insert g.1 g.2))

end Fields

namespace Collection

structure IsPatched (gs doc doc' : Fields) : Prop where
  given : ∀ key v, gs.get? (.text key) = some v → doc'.get? (.text key) = some v
  kept : ∀ key, gs.get? (.text key) = none → key ≠ Document.updatedAt →
    doc'.get? (.text key) = doc.get? (.text key)
  keys : doc.map (·.1) <+: doc'.map (·.1)

theorem merge_isPatched {gs doc doc' : Fields} {now : Moment} (hp : Document.IsPatch (.object gs))
    (h : merge doc (.object gs) now = .ok doc') : IsPatched gs doc doc' := by
  have hkeyed : Fields.IsKeyed gs := (Fields.isStored_object.mp hp.stored).keyed
  obtain ⟨fs, hfs, rfl⟩ := merge_ok h
  cases hfs
  have hother : ∀ key, key ≠ Document.updatedAt → Value.text Document.updatedAt ≠ .text key :=
    fun key hkey heq => hkey (Value.text.inj heq).symm
  constructor
  . intro key v hv
    have hkey : key ≠ Document.updatedAt := by
      rintro rfl
      obtain ⟨g, hg, hname, _⟩ := Fields.get?_mem hv
      exact hp.foreign gs rfl g hg Document.updatedAt (by decide) (Value.equals_text.mp hname)
    rw [Fields.get?_insert_ne _ (hother key hkey), Fields.get?_merge hkeyed, hv]
    rfl
  . intro key hnone hkey
    rw [Fields.get?_insert_ne _ (hother key hkey), Fields.get?_merge hkeyed, hnone]
    rfl
  . exact (Fields.prefix_keys_merge doc gs).trans (Fields.prefix_keys_insert ..)

end Collection

namespace Engine

open Collection

def IsRefused (r : Except Error Answer) : Prop := ∃ err, r = .error err ∧ ¬ HasFailed (.error err)

theorem IsAnswered.not_isRefused {a : Answer} {r : Except Error Answer} (h : IsAnswered a r)
    : ¬ IsRefused r := by
  rintro ⟨err, rfl, hfailed⟩
  cases h with
  | inl h => exact hfailed h
  | inr h => cases h

def MergesWhere (query patch : Value) (docs docs' : List Fields) : Prop :=
  List.Forall₂ (fun doc doc' =>
    if holds query doc then ∃ gs, patch = .object gs ∧ IsPatched gs doc doc'
    else doc' = doc) docs docs'

structure SelectsAlike (e : Engine) (name : Value) (i : Nat) (query : Value) : Prop where
  finds : ∀ clock : Clock, run clock.now (.call (.find name query (.int 0) (.int 0) .null)) e
    = (.ok (.documents ((selected query (e.store i).documents).map .object)), e)
  counts : ∀ clock : Clock, run clock.now (.call (.count name query)) e
    = (.ok (.number (.int (selected query (e.store i).documents).length)), e)
  /--
  A patch that is not refused is merged into them and into no other, and as many are reported.
  -/
  updates : ∀ (clock : Clock) (patch : Value),
    let (r, e') := run clock.now (.call (.updateMany name query patch)) e
    ¬ IsRefused r →
      IsAnswered (.report (Mutation.updated (selected query (e.store i).documents).length)) r
        ∧ ∃ fs p ids, patch = .object fs
          ∧ Extended.normalForm (.object (Document.stripStoreFields fs)) e.ids = (.ok p, ids)
          ∧ MergesWhere query p (e.store i).documents (e'.store i).documents
  /-- A patch is not refused if its normal form is an object. -/
  accepts : ∀ (clock : Clock) (fs gs : Fields) (ids : IdSupply),
    Extended.normalForm (.object (Document.stripStoreFields fs)) e.ids = (.ok (.object gs), ids) →
    ¬ IsRefused (run clock.now (.call (.updateMany name query (.object fs))) e).1
  /--
  They are dropped and no other is, and as many are reported; then none is left to count or to drop.
  -/
  deletes : ∀ clock clock' : Clock,
    let (r, e') := run clock.now (.call (.deleteMany name query)) e
    IsAnswered (.report (.deleted (.int (selected query (e.store i).documents).length))) r
      ∧ (e'.store i).documents = (e.store i).documents.filter (!holds query ·)
      ∧ run clock'.now (.call (.count name query)) e' = (.ok (.number (.int 0)), e')
      ∧ let (r', e'') := run clock'.now (.call (.deleteMany name query)) e'
        r' = .ok (.report (.deleted (.int 0))) ∧ e''.disk = e'.disk
          ∧ (e''.store i).documents = (e'.store i).documents

section

variable {e : Engine} {name : Value} {i : Nat} {query : Value} {clock : Clock}

theorem run_find (h : IsPlaceOf e name i) (heval : IsEvaluated query (e.store i).documents)
    : run clock.now (.call (.find name query (.int 0) (.int 0) .null)) e
      = (.ok (.documents ((selected query (e.store i).documents).map .object)), e) := by
  apply run_answered
  rw [begin_call]
  dsimp only [beginCall]
  have hzero : ∀ argument, pageNumber argument (.int 0) = .ok 0 := fun _ => rfl
  rw [hzero, hzero, lift_ok_bind, lift_ok_bind, bind_ok (snapshot_of_place h), find_eq heval]
  rfl

theorem run_count (h : IsPlaceOf e name i) (heval : IsEvaluated query (e.store i).documents)
    : run clock.now (.call (.count name query)) e
      = (.ok (.number (.int (selected query (e.store i).documents).length)), e) := by
  apply run_answered
  rw [begin_call]
  dsimp only [beginCall]
  rw [bind_ok (snapshot_of_place h), count_eq heval]
  rfl

theorem begin_deleteMany (h : IsPlaceOf e name i)
    : begin (.call (.deleteMany name query)) e =
      (.ok (.waits i (.mutate (.deleteMany query))), e) :=
  mutation_of_place h _

theorem effectAt_deleteMany (clock : Clock) (heval : IsEvaluated query (e.store i).documents)
    : effectAt e clock.now i (.deleteMany query)
      = ⟨(e.store i).documents.filter (!holds query ·), e.ids,
          .ok (.report (.deleted (.int (selected query (e.store i).documents).length)),
            decide ((selected query (e.store i).documents).length ≠ 0))⟩ := by
  have hlength := length_selected_add query (e.store i).documents
  unfold effectAt Mutation.effect
  dsimp only
  rw [unmatched_eq heval]
  dsimp only
  congr 4
  . congr 2
    omega
  . apply propext
    omega

theorem isEvaluated_rest {docs : List Fields} (heval : IsEvaluated query docs)
    : IsEvaluated query (docs.filter (!holds query ·)) ∧
      selected query (docs.filter (!holds query ·)) = [] := by
  refine ⟨fun d hd => heval d (List.mem_of_mem_filter hd), ?_⟩
  unfold selected
  rw [List.filter_filter, List.filter_eq_nil_iff]
  simp

theorem run_deleteMany (clock : Clock) (he : e.Sound) (h : IsPlaceOf e name i)
    (heval : IsEvaluated query (e.store i).documents)
    : IsAnswered (.report (.deleted (.int (selected query (e.store i).documents).length)))
        (run clock.now (.call (.deleteMany name query)) e).1
      ∧ ((run clock.now (.call (.deleteMany name query)) e).2.store i).documents
        = (e.store i).documents.filter (!holds query ·) := by
  have heffect := effectAt_deleteMany clock heval
  constructor
  . apply run_mutation_answer clock he (begin_deleteMany h)
    rw [heffect]
  . rw [run_mutation_documents clock (begin_deleteMany h) (he.lt_of_place h), heffect]

theorem run_deleteMany_none (clock : Clock) (h : IsPlaceOf e name i)
    (heval : IsEvaluated query (e.store i).documents)
    (hnone : selected query (e.store i).documents = [])
    : (run clock.now (.call (.deleteMany name query)) e).1 = .ok (.report (.deleted (.int 0)))
      ∧ (run clock.now (.call (.deleteMany name query)) e).2.disk = e.disk := by
  apply run_mutation_unwritten clock (begin_deleteMany h)
  rw [effectAt_deleteMany clock heval, hnone]
  rfl

theorem begin_updateMany (query : Value) (h : IsPlaceOf e name i) {fs : Fields} {p : Value}
    {ids : IdSupply}
    (hp : Extended.normalForm (.object (Document.stripStoreFields fs)) e.ids = (.ok p, ids))
    : begin (.call (.updateMany name query (.object fs))) e
      = (.ok (.waits i (.mutate (.updateMany query p))), { e with ids }) := by
  rw [begin_call]
  dsimp only [beginCall]
  rw [bind_ok (patchOf_object hp)]
  exact mutation_of_place (h.congr rfl : IsPlaceOf { e with ids } name i) _

theorem isRefused_error {err : Error} (h : err.isOfFile = false) : IsRefused (.error err) := by
  refine ⟨err, rfl, fun hfailed => ?_⟩
  cases hfailed <;> cases h

theorem exists_normalForm {patch : Value}
    (hr : ¬ IsRefused (run clock.now (.call (.updateMany name query patch)) e).1)
    : ∃ fs p ids, patch = .object fs
        ∧ Extended.normalForm (.object (Document.stripStoreFields fs)) e.ids = (.ok p, ids) := by
  rcases hx : patchOf patch e with ⟨x, e₁⟩
  cases x with
  | ok p =>
    obtain ⟨fs, ids, rfl, _, hp⟩ := patchOf_ok hx
    exact ⟨fs, p, ids, rfl, hp⟩
  | error err =>
    have hbegin : begin (.call (.updateMany name query patch)) e = (.error err, e₁) := bind_error hx
    rw [run_error hbegin] at hr
    exact absurd (isRefused_error (patchOf_accuses _ _ _ _ hx)) hr

theorem effectAt_updateMany (e : Engine) (now : Moment) (i : Nat) (query p : Value)
    : effectAt e now i (.updateMany query p)
      = ⟨(mergeMatching query p now (e.store i).documents).2, e.ids,
          (mergeMatching query p now (e.store i).documents).1.map
            fun n => (.report (Mutation.updated n), n ≠ 0)⟩ :=
  Mutation.effect_updateMany ..

theorem mergesWhere_of_forall₂ {p : Value} {now : Moment} {docs docs' : List Fields}
    (hp : Document.IsPatch p)
    (h : List.Forall₂ (IsMergedWhere query p now) docs docs') : MergesWhere query p docs docs' := by
  refine h.imp fun doc doc' hdoc => ?_
  unfold IsMergedWhere at hdoc
  split
  next hholds =>
    rw [if_pos hholds] at hdoc
    obtain ⟨gs, rfl, _⟩ := merge_ok hdoc
    exact ⟨gs, rfl, merge_isPatched hp hdoc⟩
  next hholds =>
    rw [if_neg hholds] at hdoc
    exact hdoc

theorem run_updateMany (he : e.Sound) (h : IsPlaceOf e name i)
    (heval : IsEvaluated query (e.store i).documents) {fs : Fields} {p : Value} {ids : IdSupply}
    (hp : Extended.normalForm (.object (Document.stripStoreFields fs)) e.ids = (.ok p, ids))
    (hr : ¬ IsRefused (run clock.now (.call (.updateMany name query (.object fs))) e).1)
    : IsAnswered (.report (Mutation.updated (selected query (e.store i).documents).length))
        (run clock.now (.call (.updateMany name query (.object fs))) e).1
      ∧ MergesWhere query p (e.store i).documents
        ((run clock.now (.call (.updateMany name query (.object fs))) e).2.store i).documents := by
  have hbegin := begin_updateMany query h hp
  have hdocs := run_mutation_documents clock hbegin (he.lt_of_place h)
  have heffect := effectAt_updateMany { e with ids } clock.now i query p
  rw [heffect] at hdocs
  change _ = (mergeMatching query p clock.now (e.store i).documents).2 at hdocs
  rcases hm : mergeMatching query p clock.now (e.store i).documents with ⟨x, docs'⟩
  have houtcome : (effectAt { e with ids } clock.now i (.updateMany query p)).outcome
      = x.map fun n : Nat => (Answer.report (Mutation.updated n), decide (n ≠ 0)) := by
    rw [heffect]
    change (mergeMatching query p clock.now (e.store i).documents).1.map _ = _
    rw [hm]
  cases x with
  | error err =>
    -- the query is evaluated on all documents, so that it is the patch that cannot be merged
    obtain ⟨before, doc, after, hsplit, _, _, hcause⟩ := mergeMatching_error hm
    have hmerge : merge doc p clock.now = .error err := by
      cases hcause with
      | inl hcause =>
        obtain ⟨b, hb⟩ := heval doc (by simp [hsplit])
        rw [hb] at hcause
        cases hcause
      | inr hcause => exact hcause
    rw [(run_mutation_refused clock hbegin houtcome).1] at hr
    apply absurd (isRefused_error _) hr
    unfold merge at hmerge
    split at hmerge
    . cases hmerge
    . cases hmerge
      rfl
  | ok n =>
    obtain ⟨hn, hall⟩ := mergeMatching_ok heval hm
    rw [hdocs, hm, ← hn]
    exact ⟨run_mutation_answer clock he hbegin houtcome,
      mergesWhere_of_forall₂ (Document.normalForm_isPatch hp) hall⟩

theorem run_updateMany_object (he : e.Sound) (h : IsPlaceOf e name i)
    (heval : IsEvaluated query (e.store i).documents) {fs gs : Fields} {ids : IdSupply}
    (hp : Extended.normalForm (.object (Document.stripStoreFields fs)) e.ids =
      (.ok (.object gs), ids))
    : ¬ IsRefused (run clock.now (.call (.updateMany name query (.object fs))) e).1 := by
  have hbegin := begin_updateMany query h hp
  obtain ⟨n, docs', hm⟩ := mergeMatching_object heval gs clock.now
  have houtcome : (effectAt { e with ids } clock.now i (.updateMany query (.object gs))).outcome
      = .ok (.report (Mutation.updated n), n ≠ 0) := by
    rw [effectAt_updateMany]
    change (mergeMatching query (.object gs) clock.now (e.store i).documents).1.map _ = _
    rw [hm]
    rfl
  exact IsAnswered.not_isRefused (run_mutation_answer clock he hbegin houtcome)

end

/--
Whatever query is evaluated without a fault on the documents of a collection, those that are found,
counted, changed and dropped by it are the same.
-/
theorem query_selects_alike {e : Engine} (he : e.Reachable) {name : Value} {i : Nat}
    (hplace : IsPlaceOf e name i)
    {query : Value} (heval : IsEvaluated query (e.store i).documents)
    : SelectsAlike e name i query := by
  constructor
  . exact fun clock => run_find hplace heval
  . exact fun clock => run_count hplace heval
  . intro clock patch hr
    obtain ⟨fs, p, ids, rfl, hp⟩ := exists_normalForm hr
    obtain ⟨hanswer, hmerges⟩ := run_updateMany he.sound hplace heval hp hr
    exact ⟨hanswer, fs, p, ids, rfl, hp, hmerges⟩
  . exact fun clock fs gs ids hp => run_updateMany_object he.sound hplace heval hp
  . intro clock clock'
    obtain ⟨hanswer, hdocs⟩ := run_deleteMany clock he.sound hplace heval
    obtain ⟨hrest, hnone⟩ := isEvaluated_rest heval
    rcases hrun : run clock.now (.call (.deleteMany name query)) e with ⟨r, e'⟩
    have hsound := he.sound.run hrun
    have hplace' := hplace.run rfl hrun
    rw [hrun] at hanswer hdocs
    dsimp only at hanswer hdocs
    rw [← hdocs] at hrest hnone
    refine ⟨hanswer, hdocs, ?_, ?_⟩
    . rw [run_count hplace' hrest, hnone]
      rfl
    . obtain ⟨hr, hdisk⟩ := run_deleteMany_none clock' hplace' hrest hnone
      refine ⟨hr, hdisk, (run_deleteMany clock' hsound hplace' hrest).2.trans ?_⟩
      unfold selected at hnone
      rw [List.filter_eq_nil_iff] at hnone
      exact List.filter_eq_self.mpr fun d hd => by simpa using hnone d hd

def pairEngine : Engine :=
  let create (id t : String) : Request :=
    .call (.createOne (.text "c") (.object [(.text "_id", .text id), (.text "t", .text t)]))
  (run Clock.epoch.now (create "2" "b") (run Clock.epoch.now (create "1" "a") (onEmpty "d")).2).2

theorem pairEngine_reachable : pairEngine.Reachable :=
  (Reachable.start { root := "d" } {}).steps ((run_steps .epoch _ _).trans (run_steps .epoch _ _))

theorem query_selects_alike_pair
    : SelectsAlike pairEngine (.text "c") 0 (.object [(.text "t", .text "a")])
      ∧ (selected (.object [(.text "t", .text "a")]) (pairEngine.store 0).documents).length =
        1 := by
  have hplace : IsPlaceOf pairEngine (.text "c") 0 := ⟨"c", rfl, by decide +kernel⟩
  exact ⟨query_selects_alike pairEngine_reachable hplace (by decide +kernel), by decide +kernel⟩

end Engine

end DocStore

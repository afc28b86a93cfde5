import DocStore.Engine.Basic
import DocStore.Proofs.Engine.Stored

/-!
This module contains what a request does before it waits for the slot of a collection: it opens the
collection, and brings its arguments into the form in which they wait.
-/

namespace DocStore

open Work

inductive Call.Asks : Call → Value → Mutation → Prop where
  | createOne (name doc) : Asks (.createOne name doc) name (.create doc)
  | createMany {name docs given} (items : docs.items = .ok given) (some : given ≠ []) :
      Asks (.createMany name docs) name (.createMany given)
  | updateOne {name doc fs id rest patch ids ids'} (fields : Document.fieldsOf doc = .ok fs)
      (split : Document.splitId fs = (id, rest)) (present : id ≠ .null)
      (normal : Extended.normalForm (.object (Document.stripStoreFields rest)) ids =
        (.ok patch, ids')) : Asks (.updateOne name doc) name (.update id.normalizeId patch)
  | updateMany {name query fs patch ids ids'}
      (normal : Extended.normalForm (.object (Document.stripStoreFields fs)) ids =
        (.ok patch, ids')) :
      Asks (.updateMany name query (.object fs)) name (.updateMany query patch)
  | upsertOne {name fs key gs key' gs' ids ids'}
      (normal : Extended.normalForm (.object fs) ids = (.ok (.object gs), ids'))
      (resolved : Document.resolveKey gs key = .ok (key', gs')) :
      Asks (.upsertOne name (.object fs) key) name (.upsert gs' key')
  | deleteOne (name id) : Asks (.deleteOne name id) name (.delete id.normalizeId)
  | deleteMany (name query) : Asks (.deleteMany name query) name (.deleteMany query)

theorem eraseDesignator_isRead {fs : Fields} (h : (Value.object fs).IsRead)
    : (Value.object (Fields.erase fs (.text Document.designatorField))).IsRead := by
  refine Fields.isRead_filter h fun f _ s hkey hs => ?_
  rw [Bool.not_eq_true', Bool.eq_false_iff, hkey]
  intro heq
  cases Value.equals_text.mp heq
  cases hs

theorem resolveKey_isRead {fs gs : Fields} {key key' : Value} (h : (Value.object fs).IsRead)
    (hkey : Document.resolveKey fs key = .ok (key', gs)) : (Value.object gs).IsRead := by
  unfold Document.resolveKey at hkey
  split at hkey
  . split at hkey
    . split at hkey
      . cases hkey
        exact h
      . split at hkey
        . cases hkey
          exact h
        . cases hkey
          exact eraseDesignator_isRead h
    . cases hkey
      exact h
  . split at hkey
    . cases hkey
    . split at hkey
      . cases hkey
      . cases hkey
        exact h

theorem Call.Asks.isNormal {c : Call} {name : Value} {m : Mutation} (h : c.Asks name m)
    : m.IsNormal := by
  cases h with
  | createOne => trivial
  | createMany => trivial
  | updateOne _ _ _ normal => exact Document.normalForm_isPatch normal
  | updateMany normal => exact Document.normalForm_isPatch normal
  | upsertOne normal resolved =>
    exact resolveKey_isRead (Extended.normalForm_reads _ _ _ _ normal) resolved
  | deleteOne => trivial
  | deleteMany => trivial

def Error.isOfFile : Error → Bool
  | .file .. => true
  | _ => false

theorem normalForm_accuses (doc : Value)
    : Accuses (Extended.normalForm doc) (·.isOfFile = false) := by
  intro ids err ids' h
  unfold Extended.normalForm at h
  split at h
  . cases h
    rfl
  . split at h
    . cases h
    . cases h
      unfold Error.ofDecodeFault
      split <;> rfl

theorem resolveKey_blames (fs : Fields) (key : Value)
    : Blames (Document.resolveKey fs key) (·.isOfFile = false) := by
  unfold Document.resolveKey
  split
  . split
    . split
      . exact blames_ok
      . split <;> exact blames_ok
    . exact blames_ok
  . split
    . exact blames_error rfl
    . split
      . exact blames_error rfl
      . exact blames_ok

def Call.collection : Call → Value
  | .createOne name _ => name
  | .createMany name _ => name
  | .findOne name _ _ => name
  | .findById name _ => name
  | .find name _ _ _ _ => name
  | .count name _ => name
  | .updateOne name _ => name
  | .updateMany name _ _ => name
  | .upsertOne name _ _ => name
  | .deleteOne name _ => name
  | .deleteMany name _ => name

def Call.reads : Call → Bool
  | .findOne .. => true
  | .findById .. => true
  | .find .. => true
  | .count .. => true
  | _ => false

inductive Plan where
  | reads (answer : List Fields → Except Error Answer)
  | mutates (m : Mutation)
  -- Whether there is anything to insert is asked only when the collection is open.
  | inserts (docs : Except Error (List Value))

def Call.plan : Call → Drawing Plan
  | .createOne _ doc => return .mutates (.create doc)
  | .createMany _ docs => return .inserts (docs.items.mapError .fault)
  | .findOne _ query sort =>
    return .reads fun docs => (Collection.findOne docs query sort).map .document
  | .findById _ id => return .reads fun docs => .ok (.document (Collection.findById docs id))
  | .find _ query limit skip sort => do
    let limit ← pageNumber "limit" limit
    let skip ← pageNumber "skip" skip
    return .reads fun docs => (Collection.find docs query limit skip sort).map .documents
  | .count _ query =>
    return .reads fun docs => (Collection.count docs query).map fun n : Nat => .number (.int n)
  | .updateOne _ doc => do
    let fs ← ((Document.fieldsOf doc).mapError .fault : Except Error Fields)
    match Document.splitId fs with
    | (.null, _) => throw (.argument .noId)
    | (id, rest) =>
      let patch ← Extended.normalForm (.object (Document.stripStoreFields rest))
      return .mutates (.update id.normalizeId patch)
  | .updateMany _ query patch =>
    match patch with
    | .object fs => do
      let patch ← Extended.normalForm (.object (Document.stripStoreFields fs))
      return .mutates (.updateMany query patch)
    | _ => throw (.fault .noOperation)
  | .upsertOne _ doc key =>
    match doc with
    | .object _ => do
      match ← Extended.normalForm doc with
      | .object fs =>
        let (key, fs) ← Document.resolveKey fs key
        return .mutates (.upsert fs key)
      | _ => throw (.fault .noOperation)
    | doc => throw (.argument (.notADocument doc))
  | .deleteOne _ id => return .mutates (.delete id.normalizeId)
  | .deleteMany _ query => return .mutates (.deleteMany query)

inductive Call.Intends (c : Call) : Plan → Prop where
  | reads {answer} (reads : c.reads = true)
      (h : ∀ docs report, answer docs ≠ .ok (.report report)) : Intends c (.reads answer)
  | mutates {m} (h : c.Asks c.collection m) : Intends c (.mutates m)
  | inserts {docs}
      (h : ∀ given, docs = .ok given → given ≠ [] → c.Asks c.collection (.createMany given)) :
      Intends c (.inserts docs)

theorem Call.intends_reads_map {α : Type} {c : Call} (hc : c.reads = true)
    (read : List Fields → Except Error α) {answer : α → Answer}
    (hanswer : ∀ a report, answer a ≠ .report report)
    : c.Intends (.reads fun docs => (read docs).map answer) := by
  refine .reads hc fun docs report h => ?_
  obtain ⟨a, _, hreport⟩ := map_ok h
  exact hanswer a report hreport.symm

theorem Call.plan_intends {c : Call} {p : Plan} {ids ids' : IdSupply}
    (h : c.plan ids = (.ok p, ids'))
    : c.Intends p := by
  -- each kind of call intends one thing; what it refuses on the way leaves no plan
  cases c with
  | createOne name doc =>
    cases h
    exact .mutates (.createOne name doc)
  | createMany name docs =>
    cases h
    refine .inserts fun given hgiven hne => ?_
    cases hitems : docs.items with
    | error kind =>
      rw [hitems] at hgiven
      cases hgiven
    | ok items =>
      rw [hitems] at hgiven
      cases hgiven
      exact .createMany hitems hne
  | findOne name query sort =>
    cases h
    exact Call.intends_reads_map rfl _ nofun
  | findById name id =>
    cases h
    exact .reads rfl nofun
  | find name query limit skip sort =>
    obtain ⟨limit, _, _, h⟩ := of_bind_ok h
    obtain ⟨skip, _, _, h⟩ := of_bind_ok h
    cases h
    exact Call.intends_reads_map rfl _ nofun
  | count name query =>
    cases h
    exact Call.intends_reads_map rfl _ nofun
  | updateOne name doc =>
    dsimp only [Call.plan] at h
    cases hfs : Document.fieldsOf doc with
    | error kind =>
      rw [hfs] at h
      cases h
    | ok fs =>
      rw [hfs] at h
      dsimp only [Except.mapError] at h
      rw [lift_ok_bind] at h
      rcases hsplit : Document.splitId fs with ⟨id, rest⟩
      rw [hsplit] at h
      cases id with
      | null => cases h
      | _ =>
        obtain ⟨patch, _, hpatch, h⟩ := of_bind_ok h
        cases h
        exact .mutates (.updateOne hfs hsplit nofun hpatch)
  | updateMany name query patch =>
    cases patch with
    | object fs =>
      obtain ⟨patch, _, hpatch, h⟩ := of_bind_ok h
      cases h
      exact .mutates (.updateMany hpatch)
    | _ => cases h
  | upsertOne name doc key =>
    cases doc with
    | object gs =>
      obtain ⟨v, _, hv, h⟩ := of_bind_ok h
      cases v with
      | object fs =>
        dsimp only at h
        cases hkey : Document.resolveKey fs key with
        | error err =>
          rw [hkey] at h
          cases h
        | ok resolved =>
          rw [hkey, lift_ok_bind] at h
          cases h
          exact .mutates (.upsertOne hv hkey)
      | _ => cases h
    | _ => cases h
  | deleteOne name id =>
    cases h
    exact .mutates (.deleteOne name id)
  | deleteMany name query =>
    cases h
    exact .mutates (.deleteMany name query)

namespace Engine

def carryOut (name : Value) : Plan → Action Start
  | .reads answer => do return .answered (← answer (← snapshot name))
  | .mutates m => mutation name m
  | .inserts docs => do
    let i ← collection name
    match ← docs with
    | [] => return .answered (.report (.createdMany []))
    | docs => return .waits i (.mutate (.createMany docs))

section

variable {α β : Type}

theorem ofDrawing_of {x : Drawing α} {e : Engine} {r : Except Error α} {ids : IdSupply}
    (h : x e.ids = (r, ids))
    : ofDrawing x e = (r, { e with ids }) := by
  unfold ofDrawing
  rw [h]

theorem ofDrawing_lift (r : Except Error α) : ofDrawing (liftM r : Drawing α) = liftM r := by
  cases r <;> rfl

theorem ofDrawing_bind (x : Drawing α) (f : α → Drawing β)
    : ofDrawing (x >>= f) = ofDrawing x >>= fun a => ofDrawing (f a) := by
  funext e
  rcases h : x e.ids with ⟨r, ids⟩
  cases r with
  | ok a =>
    rw [bind_ok (ofDrawing_of h)]
    unfold ofDrawing
    rw [bind_ok h]
  | error err => rw [bind_error (ofDrawing_of h), ofDrawing_of (bind_error h)]

end

theorem carryOut_reads_map {α : Type} (name : Value) (read : List Fields → Except Error α)
    (answer : α → Answer)
    : carryOut name (.reads fun docs => (read docs).map answer) = (do
        let docs ← snapshot name
        let a ← (read docs : Except Error α)
        return .answered (answer a)) := by
  refine congrArg (snapshot name >>= ·) ?_
  funext docs
  dsimp only
  cases read docs <;> rfl

theorem beginCall_eq (c : Call) : beginCall c = ofDrawing c.plan >>= carryOut c.collection := by
  -- the identifiers are drawn before the collection is opened: the binds have only to be taken
  -- together
  cases c with
  | createOne name doc => rfl
  | createMany name docs => rfl
  | findOne name query sort => exact (carryOut_reads_map name _ _).symm
  | findById name id => rfl
  | find name query limit skip sort =>
    dsimp only [beginCall, Call.plan]
    rw [ofDrawing_bind, ofDrawing_lift, bind_assoc]
    congr 1
    funext limit
    rw [ofDrawing_bind, ofDrawing_lift, bind_assoc]
    congr 1
    funext skip
    exact (carryOut_reads_map name _ _).symm
  | count name query => exact (carryOut_reads_map name _ fun n : Nat => .number (.int n)).symm
  | updateOne name doc =>
    dsimp only [beginCall, Call.plan]
    rw [ofDrawing_bind, ofDrawing_lift, bind_assoc]
    congr 1
    funext fs
    rcases Document.splitId fs with ⟨id, rest⟩
    cases id with
    | null => rfl
    | _ =>
      rw [ofDrawing_bind, bind_assoc]
      rfl
  | updateMany name query patch =>
    cases patch with
    | object fs =>
      dsimp only [beginCall, Call.plan]
      rw [ofDrawing_bind, bind_assoc]
      rfl
    | _ => rfl
  | upsertOne name doc key =>
    cases doc with
    | object gs =>
      dsimp only [beginCall, Call.plan]
      rw [ofDrawing_bind, bind_assoc]
      congr 1
      funext v
      cases v with
      | object fs =>
        dsimp only
        rw [ofDrawing_bind, ofDrawing_lift, bind_assoc]
        rfl
      | _ => rfl
    | _ => rfl
  | deleteOne name id => rfl
  | deleteMany name query => rfl

/--
The ways in which a collection is opened. If it is in use, or if it cannot be opened, nothing
happens but that identifiers may be drawn; otherwise it has the documents that its file has.
-/
inductive Opens (e : Engine) : Engine → Prop where
  | none (ids : IdSupply) : Opens e { e with ids }
  | load {name docs ids₀ ids₁} (ids : IdSupply) (absent : e.cached.lookup name = none)
      (h : Collection.load e.disk name ids₀ = (.ok docs, ids₁)) :
      Opens e { e with
        ids
        opened := e.opened ++ [⟨name, docs, {}⟩]
        cached := e.cached ++ [(name, e.opened.length)] }

theorem Opens.refl (e : Engine) : Opens e e := .none e.ids

theorem Opens.disk {e e₁ : Engine} (h : Opens e e₁) : e₁.disk = e.disk := by
  cases h with
  | none => rfl
  | load => rfl

theorem Opens.after_draw {e e₁ : Engine} {ids : IdSupply} (h : Opens { e with ids } e₁)
    : Opens e e₁ := by
  cases h with
  | none ids => exact .none ids
  | load ids absent h => exact .load ids absent h

theorem Opens.lookup {e e₁ : Engine} (h : Opens e e₁) {n : String} {i : Nat}
    (hi : e.cached.lookup n = some i)
    : e₁.cached.lookup n = some i := by
  cases h with
  | none => exact hi
  | load =>
    dsimp only
    rw [List.lookup_append, hi]
    rfl

def IsPlace (e : Engine) (i : Nat) : Prop := ∃ name, e.cached.lookup name = some i

theorem ofDrawing_eq {α : Type} {x : Drawing α} {e e' : Engine} {r : Except Error α}
    (h : ofDrawing x e = (r, e')) : ∃ ids, x e.ids = (r, ids) ∧ e' = { e with ids } := by
  unfold ofDrawing at h
  rcases hx : x e.ids with ⟨q, ids⟩
  rw [hx] at h
  cases h
  exact ⟨ids, rfl, rfl⟩

theorem lookup_append_self {cached : List (String × Nat)} {name : String} {i : Nat}
    (h : cached.lookup name = none) : (cached ++ [(name, i)]).lookup name = some i := by
  rw [List.lookup_append, h]
  simp

theorem lookup_filter_self (cached : List (String × Nat)) (n : String)
    : (cached.filter fun c => c.1 ≠ n).lookup n = none := by
  rw [List.lookup_eq_none_iff]
  intro c hc
  have hne : c.1 ≠ n := of_decide_eq_true (List.mem_filter.mp hc).2
  exact bne_iff_ne.mpr hne.symm

theorem collection_opens {name : Value} {e e₁ : Engine} {r : Except Error Nat}
    (h : collection name e = (r, e₁))
    : Opens e e₁ ∧ ∀ i, r = .ok i → ∃ n, checkName name = .ok n ∧ e₁.cached.lookup n = some i := by
  unfold collection at h
  cases hname : checkName name with
  | error err =>
    rw [hname] at h
    cases h
    exact ⟨.refl e, nofun⟩
  | ok n =>
    rw [hname, lift_ok_bind, get_bind] at h
    cases hlookup : e.cached.lookup n with
    | some i =>
      simp only [hlookup] at h
      cases h
      refine ⟨.refl e, ?_⟩
      intro j hj
      cases hj
      exact ⟨n, rfl, hlookup⟩
    | none =>
      simp only [hlookup] at h
      rcases bind_cases h with ⟨err, hl, rfl⟩ | ⟨docs, e₂, hl, h⟩
      . obtain ⟨ids, _, rfl⟩ := ofDrawing_eq hl
        exact ⟨.none ids, nofun⟩
      . obtain ⟨ids, hload, rfl⟩ := ofDrawing_eq hl
        cases h
        refine ⟨.load ids hlookup hload, ?_⟩
        intro j hj
        cases hj
        exact ⟨n, rfl, lookup_append_self hlookup⟩

def IsPlaceOf (e : Engine) (name : Value) (i : Nat) : Prop :=
  ∃ n, checkName name = .ok n ∧ e.cached.lookup n = some i

structure Begun (c : Call) (e : Engine) (r : Except Error Start) (e₁ : Engine) : Prop where
  opens : Opens e e₁
  waits : ∀ i t, r = .ok (.waits i t) → ∃ name m, c.Asks name m ∧ t = .mutate m ∧
    IsPlaceOf e₁ name i
  answered : ∀ a report, r = .ok (.answered a) → a = .report report → report = .createdMany []

theorem mutation_begun {c : Call} {name : Value} {m : Mutation} {e e₁ : Engine}
    {r : Except Error Start}
    (hc : c.Asks name m) (h : mutation name m e = (r, e₁)) : Begun c e r e₁ := by
  unfold mutation at h
  rcases bind_cases h with ⟨err, hx, rfl⟩ | ⟨i, e₂, hx, h⟩
  . exact ⟨(collection_opens hx).1, nofun, nofun⟩
  . cases h
    obtain ⟨hopens, hplace⟩ := collection_opens hx
    refine ⟨hopens, ?_, nofun⟩
    intro j t ht
    cases ht
    exact ⟨name, m, hc, rfl, hplace _ rfl⟩

theorem Begun.after_draw {c : Call} {e e₁ : Engine} {ids : IdSupply} {r : Except Error Start}
    (h : Begun c { e with ids } r e₁) : Begun c e r e₁ := ⟨h.opens.after_draw, h.waits, h.answered⟩

theorem begun_error (c : Call) {e e₁ : Engine} (h : Opens e e₁) (err : Error)
    : Begun c e (.error err) e₁ :=
  ⟨h, nofun, nofun⟩

theorem patchOf_ok {patch p : Value} {e e₁ : Engine} (h : patchOf patch e = (.ok p, e₁))
    : ∃ fs ids, patch = .object fs ∧ e₁ = { e with ids }
        ∧ Extended.normalForm (.object (Document.stripStoreFields fs)) e.ids = (.ok p, ids) := by
  unfold patchOf at h
  split at h
  next fs =>
    obtain ⟨ids, hx, rfl⟩ := ofDrawing_eq h
    exact ⟨fs, ids, rfl, rfl, hx⟩
  . cases h

theorem patchOf_object {fs : Fields} {e : Engine} {r : Except Error Value} {ids : IdSupply}
    (h : Extended.normalForm (.object (Document.stripStoreFields fs)) e.ids = (r, ids))
    : patchOf (.object fs) e = (r, { e with ids }) := ofDrawing_of h

theorem patchOf_accuses (patch : Value) : Accuses (patchOf patch) (·.isOfFile = false) := by
  intro e err e₁ h
  unfold patchOf at h
  split at h
  . obtain ⟨ids, hx, _⟩ := ofDrawing_eq h
    exact normalForm_accuses _ _ _ _ hx
  . cases h
    rfl

theorem snapshot_opens {name : Value} {e e₁ : Engine} {r : Except Error (List Fields)}
    (h : snapshot name e = (r, e₁)) : Opens e e₁ := by
  unfold snapshot at h
  rcases bind_cases h with ⟨err, hx, rfl⟩ | ⟨i, e₂, hx, h⟩
  . exact (collection_opens hx).1
  . cases h
    exact (collection_opens hx).1

theorem carryOut_begun {c : Call} {p : Plan} {e e₁ : Engine} {r : Except Error Start}
    (hp : c.Intends p)
    (h : carryOut c.collection p e = (r, e₁)) : Begun c e r e₁ := by
  cases hp with
  | @reads answer _ hanswer =>
    rcases bind_cases h with ⟨err, hx, rfl⟩ | ⟨docs, e₂, hx, h⟩
    . exact begun_error c (snapshot_opens hx) err
    . cases hread : answer docs with
      | error err =>
        rw [hread] at h
        cases h
        exact begun_error c (snapshot_opens hx) err
      | ok a =>
        rw [hread] at h
        cases h
        refine ⟨snapshot_opens hx, nofun, ?_⟩
        intro b report hb hreport
        cases hb
        rw [hreport] at hread
        exact absurd hread (hanswer docs report)
  | mutates hm => exact mutation_begun hm h
  | @inserts docs hdocs =>
    rcases bind_cases h with ⟨err, hx, rfl⟩ | ⟨i, e₂, hx, h⟩
    . exact begun_error _ (collection_opens hx).1 err
    . obtain ⟨hopens, hplace⟩ := collection_opens hx
      cases docs with
      | error err =>
        cases h
        exact begun_error _ hopens err
      | ok given =>
        cases given with
        | nil =>
          cases h
          refine ⟨hopens, nofun, ?_⟩
          intro a report ha hreport
          cases ha
          cases hreport
          rfl
        | cons doc given =>
          cases h
          refine ⟨hopens, ?_, nofun⟩
          intro j t ht
          cases ht
          exact ⟨_, _, hdocs _ rfl nofun, rfl, hplace _ rfl⟩

theorem beginCall_begun {c : Call} {e e₁ : Engine} {r : Except Error Start}
    (h : beginCall c e = (r, e₁))
    : Begun c e r e₁ := by
  rw [beginCall_eq] at h
  rcases bind_cases h with ⟨err, hx, rfl⟩ | ⟨p, e₂, hx, h⟩
  . obtain ⟨ids, _, rfl⟩ := ofDrawing_eq hx
    exact begun_error c (.none ids) err
  . obtain ⟨ids, hplan, rfl⟩ := ofDrawing_eq hx
    exact (carryOut_begun (Call.plan_intends hplan) h).after_draw

def removal (name : String) (d : Disk) : Except Error Bool × Disk :=
  match Filing.remove (Collection.fileName name) d with
  | (.ok existed, d') => (.ok existed, d')
  | (.error text, d') => (.error (.file (.unremoved name text) (Collection.path d name)), d')

theorem removeFile_eq (name : String) (e : Engine)
    : removeFile name e =
      ((removal name e.disk).1, { e with disk := (removal name e.disk).2 }) := by
  unfold removeFile removal
  rcases Filing.remove (Collection.fileName name) e.disk with ⟨r, disk⟩
  cases r <;> rfl

theorem begin_drop_refused {name : Value} {e : Engine} {err : Error}
    (h : checkName name = .error err)
    : begin (.drop name) e = (.error err, e) := by
  dsimp only [begin]
  rw [h, lift_error_bind]

theorem begin_drop_opened {name : Value} {n : String} {e : Engine} {i : Nat}
    (h : checkName name = .ok n) (hi : e.cached.lookup n = some i)
    : begin (.drop name) e
      = (.ok (.waits i .removeFile), { e with cached := e.cached.filter fun c => c.1 ≠ n }) := by
  dsimp only [begin]
  rw [h, lift_ok_bind, get_bind]
  simp only [hi]
  rfl

theorem begin_drop_closed {name : Value} {n : String} {e : Engine} (h : checkName name = .ok n)
    (hi : e.cached.lookup n = none)
    : begin (.drop name) e
      = ((removal n e.disk).1.map fun b => .answered (.truth b),
        { e with disk := (removal n e.disk).2 }) := by
  dsimp only [begin]
  rw [h, lift_ok_bind, get_bind]
  simp only [hi]
  have hremove := removeFile_eq n e
  cases hr : (removal n e.disk).1 with
  | error err =>
    rw [hr] at hremove
    exact bind_error hremove
  | ok b =>
    rw [hr] at hremove
    exact bind_ok hremove

theorem begin_close (e : Engine)
    : begin .close e = (match e.cached.find? fun c => !(e.store c.2).slot.isFree with
      | some c => (.ok (.waits c.2 .releaseAll), e)
      | none => (.ok (.answered .nothing), releaseAll e)) := by
  dsimp only [begin]
  rw [get_bind]
  cases e.cached.find? fun c => !(e.store c.2).slot.isFree with
  | some c => rfl
  | none => rfl

inductive HasBegun (e : Engine) : Request → Except Error Start → Engine → Prop where
  | call {c r e₁} (h : Begun c e r e₁) : HasBegun e (.call c) r e₁
  | flush {name r e₁} (opens : Opens e e₁)
      (waits : ∀ i t, r = .ok (.waits i t) → t = .mutate .flush ∧ IsPlaceOf e₁ name i)
      (answered : ∀ a, r ≠ .ok (.answered a)) : HasBegun e (.flush name) r e₁
  | dropRefused {name err} (h : checkName name = .error err) :
      HasBegun e (.drop name) (.error err) e
  | dropOpened {name n i} (h : checkName name = .ok n) (hi : e.cached.lookup n = some i) :
      HasBegun e (.drop name) (.ok (.waits i .removeFile))
      { e with cached := e.cached.filter fun c => c.1 ≠ n }
  | dropClosed {name n r} (h : checkName name = .ok n) (hi : e.cached.lookup n = none)
      (hr : r = (removal n e.disk).1.map fun b => .answered (.truth b)) :
      HasBegun e (.drop name) r { e with disk := (removal n e.disk).2 }
  | closeLater {c} (h : c ∈ e.cached) : HasBegun e .close (.ok (.waits c.2 .releaseAll)) e
  | close : HasBegun e .close (.ok (.answered .nothing)) (releaseAll e)
  | list : HasBegun e .list (.ok (.answered (.names e.names))) e

theorem begin_hasBegun {q : Request} {e e₁ : Engine} {r : Except Error Start}
    (h : begin q e = (r, e₁))
    : HasBegun e q r e₁ := by
  cases q with
  | call c => exact .call (beginCall_begun h)
  | flush name =>
    dsimp only [begin] at h
    unfold mutation at h
    rcases bind_cases h with ⟨err, hx, rfl⟩ | ⟨i, e₂, hx, h⟩
    . exact .flush (collection_opens hx).1 nofun nofun
    . cases h
      obtain ⟨hopens, hplace⟩ := collection_opens hx
      refine .flush hopens ?_ nofun
      intro j t ht
      cases ht
      exact ⟨rfl, hplace _ rfl⟩
  | drop name =>
    cases hname : checkName name with
    | error err =>
      rw [begin_drop_refused hname] at h
      cases h
      exact .dropRefused hname
    | ok n =>
      cases hlookup : e.cached.lookup n with
      | some i =>
        rw [begin_drop_opened hname hlookup] at h
        cases h
        exact .dropOpened hname hlookup
      | none =>
        rw [begin_drop_closed hname hlookup] at h
        cases h
        exact .dropClosed hname hlookup rfl
  | close =>
    rw [begin_close] at h
    cases hheld : e.cached.find? fun c => !(e.store c.2).slot.isFree with
    | some c =>
      rw [hheld] at h
      cases h
      exact .closeLater (List.mem_of_find?_eq_some hheld)
    | none =>
      rw [hheld] at h
      cases h
      exact .close
  | list =>
    cases h
    exact .list

end Engine

end DocStore

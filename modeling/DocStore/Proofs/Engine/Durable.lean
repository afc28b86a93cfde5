import DocStore.Proofs.Engine.Calm
import DocStore.Proofs.Engine.Event

/-!
This module contains the proof that the file of a collection is at all times the text of the
documents that the collection had when the file was written for the last time, whatever fails in the
directory.
-/

namespace DocStore

namespace Report

def changes : Report → Bool
  | .created _ => true
  | .createdMany ids => !ids.isEmpty
  | .updated _ modified => modified.isTruthy
  | .upserted _ => true
  | .deleted count => count.isTruthy

end Report

def Answer.changes : Answer → Bool
  | .report r => r.changes
  | _ => false

def Value.text? : Value → Option String
  | .text s => some s
  | _ => none

namespace Request

def written? (q : Request) (r : Except Error Answer) : Option String :=
  match q, r with
  | .call c, .ok a => if a.changes then c.collection.text? else none
  | .flush name, .ok _ => name.text?
  | _, _ => none

def removed? (q : Request) (r : Except Error Answer) : Option String :=
  match q, r with
  | .drop name, .ok _ => name.text?
  | _, _ => none

theorem written?_error (q : Request) (err : Error) : q.written? (.error err) = none := by
  cases q <;> rfl

theorem removed?_error (q : Request) (err : Error) : q.removed? (.error err) = none := by
  cases q <;> rfl

end Request

theorem Call.Asks.collection {c : Call} {name : Value} {m : Mutation} (h : c.Asks name m)
    : c.collection = name := by
  cases h <;> rfl

theorem Call.Asks.ne_flush {c : Call} {name : Value} (h : c.Asks name .flush) : False := by
  cases h

theorem Call.Asks.ne_createMany_nil {c : Call} {name : Value} (h : c.Asks name (.createMany []))
    : False := by
  cases h with
  | createMany _ some => exact some rfl

namespace Mutation

theorem Changes.changes {docs : List Fields} {ids : IdSupply} {index : Nat} {patch : Value}
    {now : Moment} {f : Effect} (h : Changes docs ids index patch now f) {a : Answer}
    {writes : Bool} (hout : f.outcome = .ok (a, writes))
    : a.changes = writes := by
  cases h <;> cases hout <;> rfl

theorem Appends.changes {collection : String} {docs : List Fields} {ids : IdSupply} {doc : Value}
    {now : Moment} {report : Value → Report} {f : Effect}
    (h : Appends collection docs ids doc now report f) (hreport : ∀ id, (report id).changes = true)
    {a : Answer} {writes : Bool} (hout : f.outcome = .ok (a, writes))
    : a.changes = writes := by
  cases h <;> cases hout
  exact hreport _

theorem newDocuments_ne_nil {collection : String} {now : Moment} {given taken : List Value}
    {ids ids' : IdSupply} {new : List Fields} (hne : given ≠ [])
    (h : Collection.newDocuments collection now given taken ids = (.ok new, ids')) : new ≠ [] := by
  cases given with
  | nil => exact absurd rfl hne
  | cons doc given =>
    unfold Collection.newDocuments at h
    obtain ⟨d, ids₁, _, h⟩ := Work.of_bind_ok h
    obtain ⟨rest, ids₂, _, h⟩ := Work.of_bind_ok h
    cases h
    simp

theorem isTruthy_int (n : Int) : (Value.int n).isTruthy = decide (n ≠ 0) := rfl

theorem effect_changes {m : Mutation} {now : Moment} {collection : String} {docs : List Fields}
    {ids : IdSupply} {a : Answer} {writes : Bool} (hflush : m ≠ .flush) (hmany : m ≠ .createMany [])
    (h : (m.effect now collection docs ids).outcome = .ok (a, writes)) : a.changes = writes := by
  have hcomes := comesTo_effect m now collection docs ids
  generalize m.effect now collection docs ids = f at hcomes h
  cases hcomes with
  | create appends => exact appends.changes (fun _ => rfl) h
  | @createMany given news _ fresh =>
    cases h
    have hne : news ≠ [] := newDocuments_ne_nil (fun hg => hmany (by rw [hg])) fresh
    cases news with
    | nil => exact absurd rfl hne
    | cons d news => rfl
  | update _ changes => exact changes.changes h
  | updateMany =>
    cases h
    simp only [Answer.changes, Report.changes, updated, isTruthy_int]
    simp
  | upsertFound _ changes => exact changes.changes h
  | upsertMissing _ appends => exact appends.changes (fun _ => rfl) h
  | deleteMany unmatched =>
    cases h
    have hle := (Collection.unmatched_sublist unmatched).length_le
    simp only [Answer.changes, Report.changes, isTruthy_int, decide_eq_decide]
    omega
  | flush => exact absurd rfl hflush
  | updateMissing | deleteMissing | delete =>
    cases h
    rfl
  | createManyRefused | updateManyRefused | deleteManyRefused => cases h

end Mutation

namespace Collection

theorem fileName_injective {name other : String} (h : fileName name = fileName other)
    : name = other := by
  unfold fileName at h
  have hlist := congrArg String.toList h
  rw [String.toList_append, String.toList_append, List.append_cancel_right_eq] at hlist
  exact String.toList_inj.mp hlist

end Collection

namespace Engine

def IsFileOf (entry : Option Entry) : Option (List Fields) → Prop
  | some docs => ∃ s, Collection.textOf docs = .ok s ∧ entry = some (.file (.text s))
  | none => entry = none

theorem checkName_ok {v : Value} {name : String} (h : checkName v = .ok name) : v = .text name := by
  unfold checkName at h
  split at h
  . dsimp only at h
    split at h
    . cases h
    . split at h
      . cases h
      . cases h
        rfl
  . cases h

structure FileStep (e : Engine) (q : Request) (r : Except Error Answer) (e' : Engine) : Prop where
  written : ∀ n, q.written? r = some n → IsFileOf (e'.file? n) (some (e'.documentsOf n))
  removed : ∀ n, q.removed? r = some n → e'.file? n = none
  kept : ∀ n, q.written? r ≠ some n → q.removed? r ≠ some n → e'.file? n = e.file? n
  temporaries : ∀ base k, (e'.disk.get? (.temporary base k)).isSome →
    (e.disk.get? (.temporary base k)).isSome
      ∨ (k = e.disk.made ∧ e'.disk.made ≠ e.disk.made ∧ e'.disk.removals ≠ e.disk.removals)

section

variable {e e' : Engine} {q : Request} {r : Except Error Answer} {n : String}

theorem FileStep.of_files (hfiles : ∀ name, e'.disk.get? name = e.disk.get? name)
    (hwritten : q.written? r = none)
    (hremoved : ∀ n, q.removed? r = some n → e.file? n = none) : FileStep e q r e' := by
  constructor
  case written =>
    intro n hn
    rw [hwritten] at hn
    cases hn
  case removed => exact fun n hn => (hfiles _).trans (hremoved n hn)
  case kept => exact fun n _ _ => hfiles _
  case temporaries =>
    intro base k hk
    rw [hfiles] at hk
    exact .inl hk

theorem FileStep.same (hdisk : e'.disk = e.disk) (hwritten : q.written? r = none)
    (hremoved : q.removed? r = none)
    : FileStep e q r e' := by
  refine .of_files (fun _ => by rw [hdisk]) hwritten fun n hn => ?_
  rw [hremoved] at hn
  cases hn

theorem given_ne_of_ne {k : String} (h : k ≠ n)
    : FileName.given (Collection.fileName k) ≠ .given (Collection.fileName n) :=
  fun heq => h (Collection.fileName_injective (FileName.given.inj heq))

theorem FileStep.of_removal {name : Value} {f : Bool → Answer} (hname : checkName name = .ok n)
    (hdisk : e'.disk = (removal n e.disk).2)
    : FileStep e (.drop name) ((removal n e.disk).1.map f) e' := by
  have htext : name.text? = some n := by rw [checkName_ok hname]; rfl
  have hwritten : ∀ r : Except Error Answer, (Request.drop name).written? r = none := by
    intro r
    cases r <;> rfl
  unfold removal at hdisk ⊢
  rcases hr : Filing.remove (Collection.fileName n) e.disk with ⟨r, d⟩
  rw [hr] at hdisk
  cases Filing.remove_removes hr with
  | absent habsent =>
    dsimp only at hdisk ⊢
    refine .of_files (fun _ => by rw [hdisk]) (hwritten _) fun k hk => ?_
    have hkn : k = n := Option.some.inj (hk.symm.trans htext)
    unfold Disk.contains at habsent
    rw [hkn, file?]
    simpa using habsent
  | done present gone others made =>
    dsimp only at hdisk ⊢
    rw [← hdisk] at gone others
    constructor
    case written =>
      intro k hk
      rw [hwritten] at hk
      cases hk
    case removed =>
      intro k hk
      have hkn : k = n := Option.some.inj (hk.symm.trans htext)
      rw [hkn]
      exact gone
    case kept =>
      intro k _ hk
      exact others _ (given_ne_of_ne fun hkn => hk (hkn ▸ htext))
    case temporaries =>
      intro base k hk
      rw [others (.temporary base k) nofun] at hk
      exact .inl hk
  | failed entries made =>
    dsimp only at hdisk ⊢
    refine .of_files (fun name => ?_) (hwritten _) nofun
    rw [hdisk]
    unfold Disk.get?
    rw [entries]

theorem FileStep.of_replaced {s : List Char}
    (hreplaces : Filing.Replaces (Collection.fileName n) s e.disk (.ok ()) e'.disk)
    (htext : Collection.textOf (e'.documentsOf n) = .ok s) (hwritten : q.written? r = some n)
    (hremoved : q.removed? r = none) : FileStep e q r e' := by
  cases hreplaces with
  | done file others cleared made =>
    constructor
    case written =>
      intro k hk
      rw [← Option.some.inj (hwritten.symm.trans hk)]
      exact ⟨s, htext, file⟩
    case removed =>
      intro k hk
      rw [hremoved] at hk
      cases hk
    case kept =>
      intro k hk _
      exact others _ (given_ne_of_ne fun hkn => hk (hkn ▸ hwritten)) nofun
    case temporaries =>
      intro base k hk
      by_cases hbase : FileName.temporary base k = .temporary (Collection.fileName n) e.disk.made
      . rw [hbase, cleared] at hk
        cases hk
      . rw [others (.temporary base k) nofun hbase] at hk
        exact .inl hk

theorem FileStep.of_unreplaced {s : List Char} {reason : String} {err : Error}
    (hreplaces : Filing.Replaces (Collection.fileName n) s e.disk (.error reason) e'.disk)
    : FileStep e q (.error err) e' := by
  cases hreplaces with
  | refused quiet =>
    refine .of_files quiet.get? (q.written?_error err) fun k hk => ?_
    rw [q.removed?_error] at hk
    cases hk
  | failed others cleared made =>
    constructor
    case written =>
      intro k hk
      rw [q.written?_error] at hk
      cases hk
    case removed =>
      intro k hk
      rw [q.removed?_error] at hk
      cases hk
    case kept => exact fun k _ _ => others _ nofun
    case temporaries =>
      intro base k hk
      by_cases hbase : FileName.temporary base k = .temporary (Collection.fileName n) e.disk.made
      . rw [hbase] at hk
        rcases cleared with cleared | cleared
        . rw [cleared] at hk
          cases hk
        . cases hbase
          exact .inr ⟨rfl, by omega, cleared⟩
      . rw [others _ hbase] at hk
        exact .inl hk

theorem documentsOf_passed {i : Nat} (hlookup : e.cached.lookup n = some i)
    : (passed i e).documentsOf n = (e.store i).documents := by
  have hlookup' : (passed i e).cached.lookup n = some i := hlookup
  unfold documentsOf
  rw [hlookup']
  exact passed_documents ..

theorem FileStep.of_outcome {e₁ e₂ : Engine} {now : Moment} {i : Nat} {m : Mutation}
    (hdisk : e₁.disk = e.disk) (hname : (e₁.store i).name = n)
    (hlookup : e₁.cached.lookup n = some i) (hlt : i < e₁.opened.length)
    (hwritten : ∀ a writes, (effectAt e₁ now i m).outcome = .ok (a, writes) →
      q.written? (.ok a) = if writes then some n else none)
    (hremoved : q.removed? r = none) (houtcome : Outcome e₁ now i m r e₂)
    : FileStep e q r (passed i e₂) := by
  cases houtcome with
  | @refused err h => exact .same hdisk (q.written?_error err) hremoved
  | unchanged h => exact .same hdisk (hwritten _ _ h) hremoved
  | @written a s disk h text replaces =>
    rw [hname, hdisk] at replaces
    refine .of_replaced (n := n) replaces ?_ (hwritten _ _ h) hremoved
    have hstore : ({ withEffect e₁ now i m with disk } : Engine).store i =
        (withEffect e₁ now i m).store i := rfl
    have hdocs := documentsOf_passed (e := { withEffect e₁ now i m with disk }) hlookup
    rw [hstore, withEffect_store_self hlt] at hdocs
    rw [hdocs]
    exact text
  | @failed a s reason path disk h text replaces =>
    rw [hname, hdisk] at replaces
    exact .of_unreplaced replaces

end

theorem FileStep.of_mutation {e e₁ : Engine} {q : Request} {clock : Clock} {i : Nat} {m : Mutation}
    {n : String} (he₁ : e₁.Sound) (hdisk : e₁.disk = e.disk) (hlookup : e₁.cached.lookup n = some i)
    (hm : IsAwaited (.mutate m))
    (hwritten : ∀ a writes, (effectAt e₁ clock.now i m).outcome = .ok (a, writes) →
      q.written? (.ok a) = if writes then some n else none)
    (hremoved : ∀ r, q.removed? r = none)
    : FileStep e q (takeTurn clock.now i (.mutate m) e₁).1
      (passed i (takeTurn clock.now i (.mutate m) e₁).2) := by
  obtain ⟨hlt, hname⟩ := he₁.store_of_lookup hlookup
  have hstored :=
    (Mutation.effect_change hm.isNormal clock.now (e₁.store i).name (e₁.store i).documents
    e₁.ids).isStored clock.now_isStored (he₁.documents i)
  exact FileStep.of_outcome hdisk hname hlookup hlt hwritten (hremoved _) (takeTurn_outcome hstored)

theorem run_call_fileStep {e e' : Engine} {clock : Clock} {c : Call} {r : Except Error Answer}
    (he : e.Sound)
    (hrun : run clock.now (.call c) e = (r, e')) : FileStep e (.call c) r e' := by
  rcases run_cases hrun with ⟨err, hb, rfl⟩ | ⟨a, hb, rfl⟩ | ⟨i, t, e₁, hb, rfl, rfl⟩
  . exact FileStep.same (beginCall_begun hb).opens.disk rfl rfl
  . have hbegun := beginCall_begun hb
    refine FileStep.same hbegun.opens.disk ?_ rfl
    have hchanges : a.changes = false := by
      cases a with
      | report report =>
        rw [hbegun.answered _ report rfl rfl]
        rfl
      | _ => rfl
    dsimp only [Request.written?]
    rw [hchanges]
    rfl
  . have hbegun := beginCall_begun hb
    obtain ⟨name, m, hasks, rfl, n, hname, hlookup⟩ := hbegun.waits i t rfl
    refine FileStep.of_mutation (he.opens hbegun.opens) hbegun.opens.disk hlookup
      ⟨_, _, _, _, hb⟩ ?_ fun _ => rfl
    intro a writes hout
    have htext : c.collection.text? = some n := by
      rw [hasks.collection, checkName_ok hname]
      rfl
    have hchanges : a.changes = writes := by
      apply Mutation.effect_changes _ _ hout
      . intro hm
        rw [hm] at hasks
        exact hasks.ne_flush
      . intro hm
        rw [hm] at hasks
        exact hasks.ne_createMany_nil
    dsimp only [Request.written?]
    rw [hchanges, htext]

theorem run_flush_fileStep {e e' : Engine} {clock : Clock} {name : Value} {r : Except Error Answer}
    (he : e.Sound)
    (hrun : run clock.now (.flush name) e = (r, e')) : FileStep e (.flush name) r e' := by
  rcases run_cases hrun with ⟨err, hb, rfl⟩ | ⟨a, hb, rfl⟩ | ⟨i, t, e₁, hb, rfl, rfl⟩
  . cases begin_hasBegun hb with
    | flush opens => exact FileStep.same opens.disk rfl rfl
  . cases begin_hasBegun hb with
    | flush _ _ answered => exact absurd rfl (answered a)
  . cases begin_hasBegun hb with
    | flush opens waits =>
      obtain ⟨rfl, n, hname, hlookup⟩ := waits i t rfl
      refine FileStep.of_mutation (he.opens opens) opens.disk hlookup ⟨_, _, _, _, hb⟩ ?_ fun _ =>
        rfl
      intro a writes hout
      cases hout
      dsimp only [Request.written?]
      rw [checkName_ok hname]
      rfl

theorem run_drop_fileStep {e e' : Engine} {clock : Clock} {name : Value} {r : Except Error Answer}
    (he : e.Sound)
    (hrun : run clock.now (.drop name) e = (r, e')) : FileStep e (.drop name) r e' := by
  cases hname : checkName name with
  | error err =>
    rw [run_error (begin_drop_refused hname)] at hrun
    cases hrun
    exact FileStep.same rfl rfl rfl
  | ok n =>
    cases hlookup : e.cached.lookup n with
    | none =>
      rw [run_drop_closed hname hlookup] at hrun
      cases hrun
      exact FileStep.of_removal hname rfl
    | some i =>
      rw [run_waits (begin_drop_opened hname hlookup), takeTurn_removeFile] at hrun
      have hn := (he.store_of_lookup hlookup).2
      cases hrun
      change FileStep e (.drop name) ((removal (e.store i).name e.disk).1.map _) _
      rw [hn]
      apply FileStep.of_removal hname
      change (removal (e.store i).name e.disk).2 = _
      rw [hn]

theorem run_close_disk {e e' : Engine} {now : Moment} {r : Except Error Answer}
    (hrun : run now .close e = (r, e')) : e'.disk = e.disk := by
  have hb := begin_close e
  split at hb
  . rw [run_waits hb] at hrun
    cases hrun
    rfl
  . rw [run_answered hb] at hrun
    cases hrun
    rfl

theorem run_fileStep {e e' : Engine} {clock : Clock} {q : Request} {r : Except Error Answer}
    (he : e.Sound)
    (hrun : run clock.now q e = (r, e')) : FileStep e q r e' := by
  cases q with
  | call c => exact run_call_fileStep he hrun
  | flush name => exact run_flush_fileStep he hrun
  | drop name => exact run_drop_fileStep he hrun
  | close => exact FileStep.same (run_close_disk hrun) (by cases r <;> rfl) (by cases r <;> rfl)
  | list =>
    cases hrun
    exact FileStep.same rfl rfl rfl

end Engine

end DocStore

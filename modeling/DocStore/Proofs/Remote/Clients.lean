import DocStore.Proofs.Remote.Course
import DocStore.Proofs.Remote.Stamped

/-!
This module contains the account of the clients that a connector opens: each of them is the one that
it has, or was closed once, or did not answer when it was opened, and then it was never closed.
-/

namespace DocStore.Remote

namespace Trace

def opened (t : Trace) : List Nat :=
  t.filterMap fun
    | (.open n _ _, none) => some n
    | _ => none

def closed (t : Trace) : List Nat :=
  t.filterMap fun
    | (.close n, _) => some n
    | _ => none

def unanswered (t : Trace) : List Nat :=
  t.filterMap fun
    | (.ping n, some _) => some n
    | _ => none

theorem opened_append (t u : Trace) : opened (t ++ u) = opened t ++ opened u :=
  List.filterMap_append

theorem closed_append (t u : Trace) : closed (t ++ u) = closed t ++ closed u :=
  List.filterMap_append

theorem unanswered_append (t u : Trace) : unanswered (t ++ u) = unanswered t ++ unanswered u :=
  List.filterMap_append

structure Quiet (t : Trace) : Prop where
  opened : t.opened = []
  closed : t.closed = []
  unanswered : t.unanswered = []

theorem quiet_of_keeps (v : Server) {calls : List ClientCall}
    (h : ∀ call ∈ calls, call.keepsClients = true)
    : Quiet (v.outcomes calls) := by
  have hkeeps : ∀ entry ∈ v.outcomes calls, entry.1.keepsClients = true :=
    fun entry hentry => h entry.1 (Server.mem_outcomes hentry).1
  constructor
  all_goals
    refine List.filterMap_eq_nil_iff.mpr ?_
    rintro ⟨call, f⟩ hentry
    have hcall := hkeeps _ hentry
    cases call with
    | «open» => cases hcall
    | ping => cases hcall
    | close => cases hcall
    | _ => rfl

end Trace

/--
The account of the clients of a connector after a trace of calls: the clients that were opened are
those that were closed, those that did not answer, and the one that the connector has. This one has
been asked for a database, and there is one if it was selected.
-/
structure Account (s : State) (t : Trace) : Prop where
  clients : t.opened.Perm (t.closed ++ t.unanswered ++ s.session.client.toList)
  nodup : t.opened.Nodup
  past : ∀ n ∈ t.opened, n < s.clients
  bare : s.session.client = none → s.session.database = none
  selected : ∀ n ∈ t.selected, n ∈ t.opened
  database : ∀ n, s.session.client = some n → (s.session.database = none ↔ n ∉ t.selected)
  asked : ∀ n, s.session.client = some n → ∃ name f, (.select n name, f) ∈ t

structure Keeps (s : State) (calls : List ClientCall) (s' : State) : Prop where
  talk : Talk s calls s'
  account : ∀ t, Account s t → Account s' (t ++ s.server.outcomes calls)

theorem Keeps.trans {s s' s'' : State} {calls more : List ClientCall} (h : Keeps s calls s')
    (h' : Keeps s' more s'')
    : Keeps s (calls ++ more) s'' := by
  refine ⟨h.talk.trans h'.talk, fun t ht => ?_⟩
  rw [Server.outcomes_append, ← h.talk.server, ← List.append_assoc]
  exact h'.account _ (h.account t ht)

theorem Account.mem_opened {s : State} {t : Trace} (h : Account s t) {n : Nat}
    (hn : s.session.client = some n)
    : n ∈ t.opened := by
  rw [h.clients.mem_iff, hn]
  exact List.mem_append_right _ (List.mem_singleton_self n)

theorem Uses.selected_eq_nil_iff {s s' : State} {calls : List ClientCall} (h : Uses s calls s')
    {n : Nat} (hn : s.session.client = some n)
    : (s.server.outcomes calls).selected = [] ↔ n ∉ (s.server.outcomes calls).selected := by
  constructor
  . intro hnone
    rw [hnone]
    exact List.not_mem_nil
  . intro hmem
    refine List.eq_nil_iff_forall_not_mem.mpr fun m hm => hmem ?_
    have hsame := (h.selects m hm).symm.trans hn
    rwa [← Option.some.inj hsame]

theorem Uses.keeps_account {s s' : State} {calls : List ClientCall} (h : Uses s calls s')
    : Keeps s calls s' := by
  refine ⟨h.talk, fun t ht => ?_⟩
  have hquiet := Trace.quiet_of_keeps s.server h.keeps
  have hopened : (t ++ s.server.outcomes calls).opened = t.opened := by
    rw [Trace.opened_append, hquiet.opened, List.append_nil]
  constructor
  . rw [hopened, Trace.closed_append, Trace.unanswered_append, hquiet.closed, hquiet.unanswered,
      List.append_nil, List.append_nil, h.client]
    exact ht.clients
  . rw [hopened]
    exact ht.nodup
  . rw [hopened, h.clients]
    exact ht.past
  . intro hclient
    rw [h.client] at hclient
    refine h.database.mpr ⟨ht.bare hclient, List.eq_nil_iff_forall_not_mem.mpr fun n hn => ?_⟩
    have hsome := h.selects n hn
    rw [hclient] at hsome
    cases hsome
  . intro n hn
    rw [Trace.selected_append, List.mem_append] at hn
    rw [hopened]
    cases hn with
    | inl hn => exact ht.selected n hn
    | inr hn => exact ht.mem_opened (h.selects n hn)
  . intro n hn
    rw [h.client] at hn
    rw [h.database, ht.database n hn, h.selected_eq_nil_iff hn, Trace.selected_append,
      List.mem_append, not_or]
  . intro n hn
    rw [h.client] at hn
    obtain ⟨name, f, hmem⟩ := ht.asked n hn
    exact ⟨name, f, List.mem_append_left _ hmem⟩

theorem close_keeps_account (s : State) : ∃ calls, Keeps s calls (close s).2 := by
  cases hclient : s.session.client with
  | none =>
    rw [close_none hclient]
    exact ⟨[], (Uses.refl s).keeps_account⟩
  | some n =>
    rw [close_some hclient]
    refine ⟨[.close n], ⟨rfl, rfl⟩, fun t ht => ?_⟩
    have hopened : (t ++ s.server.outcomes [.close n]).opened = t.opened := by
      rw [Trace.opened_append]
      exact List.append_nil _
    constructor
    . rw [hopened, Trace.closed_append, Trace.unanswered_append]
      have hclients := ht.clients
      rw [hclient] at hclients
      refine hclients.trans ?_
      change (t.closed ++ t.unanswered ++ [n]).Perm (t.closed ++ [n] ++ (t.unanswered ++ []) ++ [])
      rw [List.append_nil, List.append_nil, List.append_assoc, List.append_assoc]
      exact List.perm_append_comm.append_left _
    . rw [hopened]
      exact ht.nodup
    . rw [hopened]
      exact ht.past
    . exact fun _ => rfl
    . intro m hm
      rw [Trace.selected_append] at hm
      change m ∈ t.selected ++ [] at hm
      rw [List.append_nil] at hm
      rw [hopened]
      exact ht.selected m hm
    . nofun
    . nofun

theorem Account.fresh {s : State} {t : Trace} (h : Account s t) : s.clients ∉ t.opened :=
  fun hmem => Nat.lt_irrefl _ (h.past _ hmem)

theorem Account.opening {s s' : State} {t u : Trace} (h : Account s t)
    (hclient : s.session.client = none) (opened : u.opened = [s.clients]) (closed : u.closed = [])
    (left : u.unanswered ++ s'.session.client.toList = [s.clients])
    (clients : s'.clients = s.clients + 1)
    (bare : s'.session.client = none → s'.session.database = none)
    (selected : ∀ n ∈ u.selected, n = s.clients)
    (database : s'.session.client = some s.clients → (s'.session.database = none ↔ u.selected = []))
    (asked : s'.session.client = some s.clients → ∃ name f, (.select s.clients name, f) ∈ u)
    : Account s' (t ++ u) := by
  have hclients := h.clients
  rw [hclient, Option.toList_none, List.append_nil] at hclients
  have hcurrent : ∀ n, s'.session.client = some n → n = s.clients := by
    intro n hn
    rw [hn] at left
    exact List.mem_singleton.mp (left ▸ List.mem_append_right _ (List.mem_singleton_self n))
  have hopened : (t ++ u).opened = t.opened ++ [s.clients] := by rw [Trace.opened_append, opened]
  constructor
  case clients =>
    rw [hopened, Trace.closed_append, Trace.unanswered_append, closed, List.append_nil,
      List.append_assoc, List.append_assoc, left, ← List.append_assoc]
    exact hclients.append_right _
  case nodup =>
    rw [hopened, List.perm_append_comm.nodup_iff, List.singleton_append, List.nodup_cons]
    exact ⟨h.fresh, h.nodup⟩
  case past =>
    intro n hn
    rw [hopened, List.mem_append, List.mem_singleton] at hn
    rw [clients]
    cases hn with
    | inl hn => exact Nat.lt_succ_of_lt (h.past n hn)
    | inr hn => exact Nat.lt_succ_of_le (Nat.le_of_eq hn)
  case bare => exact bare
  case selected =>
    intro n hn
    rw [Trace.selected_append, List.mem_append] at hn
    rw [hopened, List.mem_append, List.mem_singleton]
    exact hn.imp (h.selected n) (selected n)
  case database =>
    intro n hn
    cases hcurrent n hn
    -- no database was selected of a client before it was opened
    have hfresh : s.clients ∉ t.selected := fun hmem => h.fresh (h.selected _ hmem)
    rw [database hn, Trace.selected_append, List.mem_append, not_or, and_iff_right hfresh]
    constructor
    . intro hnone
      rw [hnone]
      exact List.not_mem_nil
    . intro hmem
      exact List.eq_nil_iff_forall_not_mem.mpr fun m hm => hmem (selected m hm ▸ hm)
  case asked =>
    intro n hn
    cases hcurrent n hn
    obtain ⟨name, f, hmem⟩ := asked hn
    exact ⟨name, f, List.mem_append_right _ hmem⟩

theorem Opens.keeps_account {s s' : State} {calls : List ClientCall} {r : Except Error Unit}
    (hclient : s.session.client = none) (h : Opens s calls r s') : Keeps s calls s' := by
  refine ⟨h.talk, fun t ht => ?_⟩
  have hbare := ht.bare hclient
  -- in each way of opening, the client that is made is left unanswered or kept by the session
  cases h with
  | misnamed =>
    rw [Server.outcomes, List.append_nil]
    exact ht
  | @notBuilt f names failure =>
    have htrace : s.server.outcomes [s.opening] = [(s.opening, s.server.openFailure)] := rfl
    rw [htrace, failure]
    have hopened : (t ++ [(s.opening, some f)]).opened = t.opened := by
      rw [Trace.opened_append]
      exact List.append_nil _
    have hselected : (t ++ [(s.opening, some f)]).selected = t.selected := by
      rw [Trace.selected_append]
      exact List.append_nil _
    constructor
    . rw [hopened, Trace.closed_append, Trace.unanswered_append]
      change t.opened.Perm (t.closed ++ [] ++ (t.unanswered ++ []) ++ s.session.client.toList)
      rw [List.append_nil, List.append_nil]
      exact ht.clients
    . rw [hopened]
      exact ht.nodup
    . rw [hopened]
      exact fun n hn => Nat.lt_succ_of_lt (ht.past n hn)
    . exact ht.bare
    . rw [hselected, hopened]
      exact ht.selected
    . rw [hselected]
      exact ht.database
    . intro n hn
      obtain ⟨name, f, hmem⟩ := ht.asked n hn
      exact ⟨name, f, List.mem_append_left _ hmem⟩
  | unanswered names built failure =>
    have htrace : s.server.outcomes [s.opening, .ping s.clients]
        = [(s.opening, s.server.openFailure), (.ping s.clients, s.server.pingFailure)] := rfl
    rw [htrace, built, failure]
    have hnone : s.session.client ≠ some s.clients := by
      rw [hclient]
      exact (Option.some_ne_none _).symm
    refine ht.opening hclient rfl rfl ?_ rfl (fun _ => hbare)
      (fun n hn => absurd hn List.not_mem_nil) (absurd · hnone) (absurd · hnone)
    change [s.clients] ++ s.session.client.toList = [s.clients]
    rw [hclient, Option.toList_none, List.append_nil]
  | unselected names built answered failure =>
    have htrace : s.server.outcomes
      [s.opening, .ping s.clients, .select s.clients s.session.databaseName]
        = [(s.opening, s.server.openFailure), (.ping s.clients, s.server.pingFailure),
          (.select s.clients s.session.databaseName,
            s.server.databaseFailure s.session.databaseName)] := rfl
    rw [htrace, built, answered, failure]
    refine ht.opening hclient rfl rfl rfl rfl (absurd · (Option.some_ne_none _))
      (fun n hn => absurd hn List.not_mem_nil) (fun _ => iff_of_true hbare rfl) fun _ => ?_
    exact ⟨_, _, List.mem_cons_of_mem _ (List.mem_cons_of_mem _ (List.mem_singleton_self _))⟩
  | connected names built answered selected =>
    have htrace : s.server.outcomes
      [s.opening, .ping s.clients, .select s.clients s.session.databaseName]
        = [(s.opening, s.server.openFailure), (.ping s.clients, s.server.pingFailure),
          (.select s.clients s.session.databaseName,
            s.server.databaseFailure s.session.databaseName)] := rfl
    rw [htrace, built, answered, selected]
    refine ht.opening hclient rfl rfl rfl rfl (absurd · (Option.some_ne_none _)) ?_
      (fun _ => iff_of_false (Option.some_ne_none _) (List.cons_ne_nil _ _)) fun _ => ?_
    . exact fun n hn => List.mem_singleton.mp hn
    . exact ⟨_, _, List.mem_cons_of_mem _ (List.mem_cons_of_mem _ (List.mem_singleton_self _))⟩

theorem Online.opens {α : Type} {x : Exchange α} (hx : Online x) {s : State}
    (h : s.session.client = none)
    : ∃ calls r t more, Opens s calls r t ∧ Uses t more (x s).2 := by
  obtain ⟨calls, hopens⟩ := connect_opens h
  rcases hx.2 s h with ⟨e, t, hconnect, err, hxs⟩ | ⟨t, more, hconnect, huses⟩
  . rw [hconnect] at hopens
    rw [hxs]
    exact ⟨calls, _, t, [], hopens, .refl t⟩
  . rw [hconnect] at hopens
    exact ⟨calls, _, t, more, hopens, huses⟩

def optionsOr (given : Value) (options : Fields) : Except Fault Fields :=
  match given with
  | .null => .ok options
  | given => Document.fieldsOf given

def Settles (given : Value) (x : Exchange Unit) : Prop :=
  ∀ s, ∃ s', Uses s [] s' ∧ match optionsOr given s.session.options with
    | .ok options => s'.session.options = options ∧ x s = connect s'
    | .error _ => (x s).2 = s'

theorem settles_setSession {given : Value} {x : Exchange Unit} (f : Session → Session)
    (hclient : ∀ s, (f s).client = s.client) (hdatabase : ∀ s, (f s).database = s.database)
    (hoptions : ∀ s, (f s).options = s.options) (hx : Settles given x)
    : Settles given (do setSession f; x) := by
  intro s
  obtain ⟨s', huses, hs'⟩ := hx { s with session := f s.session }
  have hset : Uses s [] { s with session := f s.session } :=
    .silent (.silent rfl rfl) (hclient _) (hdatabase _) rfl
  dsimp only at hs'
  rw [hoptions] at hs'
  exact ⟨s', hset.trans huses, hs'⟩

theorem reconnect_settles (url databaseName given : Value)
    : Settles given (reconnect url databaseName given) := by
  have hconnect : Settles given (match given with
      | .null => connect
      | given => do
        let options ← liftFault (Document.fieldsOf given)
        setSession fun s => { s with options }
        connect) := by
    intro s
    have hset : ∀ options, Uses s [] { s with session := { s.session with options } } :=
      fun _ => .silent (.silent rfl rfl) rfl rfl rfl
    cases given with
    | null => exact ⟨s, .refl s, rfl, rfl⟩
    | _ =>
      dsimp only [optionsOr]
      generalize Document.fieldsOf _ = fields
      cases fields with
      | error kind => exact ⟨s, .refl s, rfl⟩
      | ok options => exact ⟨_, hset options, rfl, rfl⟩
  unfold reconnect
  dsimp only
  -- the address and the name of the database may each be set or not, and neither has to do with the
  -- options
  split
  . split
    . exact hconnect
    . exact settles_setSession _ (fun _ => rfl) (fun _ => rfl) (fun _ => rfl) hconnect
  . refine settles_setSession _ (fun _ => rfl) (fun _ => rfl) (fun _ => rfl) ?_
    split
    . exact hconnect
    . exact settles_setSession _ (fun _ => rfl) (fun _ => rfl) (fun _ => rfl) hconnect

/--
From one state to the other the clients stay as they are, or a client is opened after the one that
there was is closed.
-/
inductive Passes (s : State) : List ClientCall → State → Prop where
  | uses {calls s'} (uses : Uses s calls s') : Passes s calls s'
  | opens {s₁ closing calls r t more s'} (set : Uses s [] s₁)
      (closes : Talk s₁ closing (close s₁).2)
      (opens : Opens (close s₁).2 calls r t) (uses : Uses t more s') :
      Passes s (closing ++ calls ++ more) s'

theorem Online.passes {α : Type} {x : Exchange α} (hx : Online x) (s : State)
    : ∃ calls, Passes s calls (x s).2 := by
  cases hclient : s.session.client with
  | some n =>
    obtain ⟨calls, huses⟩ := hx.1 s (by rw [hclient]; rfl)
    exact ⟨calls, .uses huses⟩
  | none =>
    obtain ⟨calls, r, t, more, hopens, huses⟩ := hx.opens hclient
    have hclose : (close s).2 = s := by rw [close_none hclient]
    have hcloses : Talk s [] (close s).2 := by
      rw [hclose]
      exact .silent rfl rfl
    exact ⟨_, .opens (.refl s) hcloses (by rw [hclose]; exact hopens) huses⟩

theorem reconnect_passes (url databaseName given : Value) (s : State)
    : ∃ calls, Passes s calls (reconnect url databaseName given s).2 := by
  obtain ⟨s', huses, hs'⟩ := reconnect_settles url databaseName given s
  cases hoptions : optionsOr given s.session.options with
  | error kind =>
    rw [hoptions] at hs'
    dsimp only at hs'
    rw [hs']
    exact ⟨[], .uses huses⟩
  | ok options =>
    rw [hoptions] at hs'
    obtain ⟨closing, hclosing⟩ := close_keeps_account s'
    obtain ⟨calls, hopens⟩ := connect_opens (close_client s')
    rw [← connect_close] at hopens
    rw [hs'.2]
    exact ⟨_, .opens huses hclosing.talk hopens (.refl _)⟩

theorem Passes.keeps_account {s s' : State} {calls : List ClientCall} (h : Passes s calls s')
    : Keeps s calls s' := by
  cases h with
  | uses huses => exact huses.keeps_account
  | @opens s₁ closing calls r t more s' hset hcloses hopens huses =>
    -- both lists of calls are what the closing adds to the log
    obtain ⟨closing', hclosed⟩ := close_keeps_account s₁
    have hclosing : closing' = closing := hclosed.talk.drop.symm.trans hcloses.drop
    rw [hclosing] at hclosed
    exact (hset.keeps_account.trans (hclosed.trans (hopens.keeps_account (close_client s₁)))).trans
      huses.keeps_account

theorem close_calls {s : State} {calls : List ClientCall} (h : Talk s calls (close s).2)
    : ∀ call ∈ calls, ∃ n, call = .close n := by
  intro call hcall
  cases hclient : s.session.client with
  | none =>
    rw [close_none hclient] at h
    rw [← h.drop, List.drop_length] at hcall
    cases hcall
  | some n =>
    rw [close_some hclient] at h
    rw [← List.append_cancel_left h.log, List.mem_singleton] at hcall
    exact ⟨n, hcall⟩

theorem Opens.client_of_fault {s s' : State} {calls : List ClientCall} {r : Except Error Unit}
    (h : Opens s calls r s') {call : ClientCall} {f : RemoteFault}
    (hf : (call, some f) ∈ s.server.outcomes calls)
    (hcall : call.keepsClients = false) : s'.session.client = s.session.client := by
  have htrace : s.server.outcomes
    [s.opening, .ping s.clients, .select s.clients s.session.databaseName]
      = [(s.opening, s.server.openFailure), (.ping s.clients, s.server.pingFailure),
        (.select s.clients s.session.databaseName,
          s.server.databaseFailure s.session.databaseName)] := rfl
  have hselect (f' : Option RemoteFault) : (call, some f) ∉
    [(s.opening, none), (.ping s.clients, none),
      (.select s.clients s.session.databaseName, f')] := by
    intro hmem
    simp only [List.mem_cons, Prod.mk.injEq, reduceCtorEq, and_false, false_or, List.not_mem_nil,
      or_false] at hmem
    rw [hmem.1] at hcall
    cases hcall
  cases h with
  | unselected names built answered =>
    rw [htrace, built, answered] at hf
    exact absurd hf (hselect _)
  | connected names built answered =>
    rw [htrace, built, answered] at hf
    exact absurd hf (hselect _)
  | _ => rfl

theorem Passes.client_of_fault {s s' : State} {calls : List ClientCall} (h : Passes s calls s')
    {call : ClientCall} {f : RemoteFault} (hf : (call, some f) ∈ s.server.outcomes calls)
    (hcall : call.keepsClients = false)
    : s'.session.client = none := by
  have hused {v : Server} {s s' : State} {calls : List ClientCall} (huses : Uses s calls s')
      : (call, some f) ∉ v.outcomes calls := by
    intro hmem
    rw [huses.keeps call (Server.mem_outcomes hmem).1] at hcall
    cases hcall
  cases h with
  | uses huses => exact absurd hf (hused huses)
  | @opens s₁ closing calls r t more s' hset hcloses hopens huses =>
    have hserver : (close s₁).2.server = s.server.after closing := by
      rw [hcloses.server, hset.talk.server]
      rfl
    rw [Server.outcomes_append, Server.outcomes_append, List.mem_append, List.mem_append, ← hserver]
      at hf
    rcases hf with (hf | hf) | hf
    . obtain ⟨hmem, v', hfault⟩ := Server.mem_outcomes hf
      obtain ⟨n, rfl⟩ := close_calls hcloses call hmem
      cases hfault
    . rw [huses.client, hopens.client_of_fault hf hcall]
      exact close_client s₁
    . exact absurd hf (hused huses)

namespace Event

def trace (s : State) : List Event → Trace
  | [] => []
  | e :: es => s.server.outcomes (e.calls s) ++ trace (e.after s) es

def FailsToConnect (s : State) (e : Event) : Prop :=
  ∃ call f, (call, some f) ∈ s.server.outcomes (e.calls s) ∧ call.keepsClients = false

inductive Needs (s : State) : Event → Fields → Prop where
  | call {now c} (h : ¬ Offline (run now c)) : Needs s (.call now c) s.session.options
  | reconnect {url databaseName given options}
      (h : optionsOr given s.session.options = .ok options) :
      Needs s (.reconnect url databaseName given) options
  | select {name} : Needs s (.select name) s.session.options

theorem calls_eq {s : State} {e : Event} {calls : List ClientCall} (h : Talk s calls (e.after s))
    : e.calls s = calls :=
  h.drop

theorem after_passes (s : State) (e : Event) (h : ∀ v, e ≠ .serve v) (hclose : e ≠ .close)
    : Passes s (e.calls s) (e.after s) := by
  have hpasses {calls : List ClientCall} (hcalls : Passes s calls (e.after s)) :
      Passes s (e.calls s) (e.after s) := by
    rw [calls_eq hcalls.keeps_account.talk]
    exact hcalls
  cases e with
  | call now c =>
    cases run_course now c with
    | inl hoffline =>
      obtain ⟨r, hr⟩ := hoffline
      apply hpasses
      . change Passes s [] (run now c s).2
        rw [hr]
        exact .uses (.refl s)
    | inr hx =>
      obtain ⟨calls, hcalls⟩ := hx.passes s
      exact hpasses hcalls
  | reconnect url databaseName given =>
    obtain ⟨calls, hcalls⟩ := reconnect_passes url databaseName given s
    exact hpasses hcalls
  | select name =>
    obtain ⟨calls, hcalls⟩ := (database_online name).passes s
    exact hpasses hcalls
  | close => exact absurd rfl hclose
  | serve v => exact absurd rfl (h v)

theorem after_account {s : State} {t : Trace} (h : Account s t) (e : Event)
    : Account (e.after s) (t ++ s.server.outcomes (e.calls s)) := by
  by_cases hclose : e = .close
  . subst hclose
    obtain ⟨calls, hcalls⟩ := close_keeps_account s
    rw [calls_eq (e := .close) hcalls.talk]
    exact hcalls.account t h
  by_cases hserve : ∃ v, e = .serve v
  -- another server adds no call, and an account does not depend on the server
  . obtain ⟨v, rfl⟩ := hserve
    have hcalls : Event.calls s (.serve v) = [] := List.drop_length
    rw [hcalls, Server.outcomes, List.append_nil]
    exact ⟨h.clients, h.nodup, h.past, h.bare, h.selected, h.database, h.asked⟩
  exact (after_passes s e (fun v hv => hserve ⟨v, hv⟩) hclose).keeps_account.account t h

theorem trace_account {s : State} {t : Trace} (h : Account s t) (es : List Event)
    : Account (es.foldl Event.after s) (t ++ trace s es) := by
  induction es generalizing s t with
  | nil =>
    rw [trace, List.append_nil]
    exact h
  | cons e es ih =>
    rw [List.foldl_cons, trace, ← List.append_assoc]
    exact ih (after_account h e)

theorem FailsToConnect.client {s : State} {e : Event} (h : e.FailsToConnect s)
    : (e.after s).session.client = none := by
  obtain ⟨call, f, hf, hcall⟩ := h
  obtain ⟨hmem, v', hfault⟩ := Server.mem_outcomes hf
  by_cases hclose : e = .close
  . subst hclose
    exact close_client s
  refine (after_passes s e ?_ hclose).client_of_fault hf hcall
  rintro v rfl
  have hcalls : Event.calls s (.serve v) = [] := List.drop_length
  rw [hcalls] at hmem
  cases hmem

theorem Needs.opens {s : State} {e : Event} {options : Fields} (h : e.Needs s options)
    (hclient : s.session.client = none)
    : ∃ s' calls r t more, Uses s [] s' ∧ s'.session.options = options ∧ Opens s' calls r t
        ∧ Uses t more (e.after s) := by
  cases h with
  | @call now c hoffline =>
    cases run_course now c with
    | inl h => exact absurd h hoffline
    | inr hx =>
      obtain ⟨calls, r, t, more, hopens, huses⟩ := hx.opens hclient
      exact ⟨s, calls, r, t, more, .refl s, rfl, hopens, huses⟩
  | @reconnect url databaseName given options hoptions =>
    obtain ⟨s', hset, hs'⟩ := reconnect_settles url databaseName given s
    rw [hoptions] at hs'
    obtain ⟨calls, hopens⟩ := connect_opens (hset.client.trans hclient)
    refine ⟨s', calls, _, _, [], hset, hs'.1, hopens, ?_⟩
    change Uses _ [] (Remote.reconnect url databaseName given s).2
    rw [hs'.2]
    exact .refl _
  | @select name =>
    obtain ⟨calls, r, t, more, hopens, huses⟩ := (database_online name).opens hclient
    exact ⟨s, calls, r, t, more, .refl s, rfl, hopens, huses⟩

end Event

theorem Opens.starts {s s' : State} {calls : List ClientCall} {r : Except Error Unit}
    (h : Opens s calls r s')
    (hnames : hasTextNames s.session.options = true) : ∃ more, calls = s.opening :: more := by
  cases h with
  | misnamed names =>
    rw [hnames] at names
    cases names
  | notBuilt => exact ⟨_, rfl⟩
  | unanswered => exact ⟨_, rfl⟩
  | unselected => exact ⟨_, rfl⟩
  | connected => exact ⟨_, rfl⟩

theorem Opens.client_of_answer {s s' : State} {calls : List ClientCall} {r : Except Error Unit}
    (h : Opens s calls r s') (hnames : hasTextNames s.session.options = true)
    (hopen : s.server.openFailure = none)
    (hping : s.server.pingFailure = none) : s'.session.client = some s.clients := by
  cases h with
  | misnamed names =>
    rw [hnames] at names
    cases names
  | notBuilt names failure =>
    rw [hopen] at failure
    cases failure
  | unanswered names built failure =>
    rw [hping] at failure
    cases failure
  | unselected => rfl
  | connected => rfl

theorem Account.kept_iff {s : State} {t : Trace} (h : Account s t) {n : Nat} (hn : n ∈ t.opened)
    : s.session.client = some n ∨ n ∈ t.closed ↔ n ∉ t.unanswered := by
  have hnodup := h.clients.nodup_iff.mp h.nodup
  have hmem := h.clients.mem_iff.mp hn
  rw [List.mem_append, List.mem_append, Option.mem_toList] at hmem
  rw [List.nodup_append, List.nodup_append] at hnodup
  obtain ⟨⟨_, _, hclosed⟩, _, hclient⟩ := hnodup
  constructor
  . rintro (hcurrent | hgone) hunanswered
    . exact hclient n (List.mem_append_right _ hunanswered) n (Option.mem_toList.mpr hcurrent) rfl
    . exact hclosed n hgone n hunanswered rfl
  . intro hanswered
    rcases hmem with (hgone | hunanswered) | hcurrent
    . exact .inr hgone
    . exact absurd hunanswered hanswered
    . exact .inl hcurrent

/--
However calls and other events follow one another, whatever clients the server lets in, and whatever
databases can be selected: no client is opened twice; those that were opened are closed once each,
or did not answer, or are the one that the connector has. Without a client there is no database;
with one there is none exactly if each database that the client was asked for could not be selected.
Where a client was not let in there is none, and the next event that has need of one opens another,
which the connector then has if it is let in.
-/
theorem clients_accounted (url databaseName : Value) (options : Fields) (server : Server)
    (es : List Event)
    : let start : State := { session := { url, databaseName, options }, server }
      let s := es.foldl Event.after start
      let t := Event.trace start es
      Account s t
        ∧ (∀ n ∈ t.opened, s.session.client = some n ∨ n ∈ t.closed ↔ n ∉ t.unanswered)
        ∧ (∀ n, s.session.client = some n →
          (s.session.database = none ↔ ∀ name, (.select n name, none) ∉ t)
          ∧ ∃ name f, (.select n name, f) ∈ t)
        ∧ (∀ e : Event, e.FailsToConnect s → (e.after s).session.client = none)
        ∧ ∀ (e : Event) options, s.session.client = none → e.Needs s options →
          hasTextNames options = true →
          s.clients ∉ t.opened ∧ (∃ url more, e.calls s = .open s.clients url options :: more)
            ∧ (s.server.openFailure = none → s.server.pingFailure = none →
              (e.after s).session.client = some s.clients) := by
  intro start s t
  have hstart : Account start [] := ⟨.refl _, .nil, nofun, fun _ => rfl, nofun, nofun, nofun⟩
  have haccount : Account s t := Event.trace_account hstart es
  refine ⟨haccount, fun n => haccount.kept_iff, ?_, fun e => Event.FailsToConnect.client, ?_⟩
  . intro n hn
    refine ⟨?_, haccount.asked n hn⟩
    rw [haccount.database n hn, Trace.mem_selected, not_exists]
  . intro e given hclient hneeds hnames
    obtain ⟨s', calls, r, u, more, hset, rfl, hopens, huses⟩ := hneeds.opens hclient
    have hserver : s'.server = s.server := hset.talk.server
    have hcalls : e.calls s = calls ++ more :=
      Event.calls_eq ((hset.talk.trans hopens.talk).trans huses.talk)
    refine ⟨haccount.fresh, ?_, ?_⟩
    . obtain ⟨rest, rfl⟩ := hopens.starts hnames
      refine ⟨s'.session.url, rest ++ more, ?_⟩
      rw [hcalls, ← hset.clients]
      rfl
    . intro hopen hping
      rw [← hserver] at hopen hping
      rw [huses.client, hopens.client_of_answer hnames hopen hping, hset.clients]

def silentServer : Server := { pingFailure := some (.other "ConnectionFailure" "down") }

def silentOnce : List Event :=
  [.serve silentServer, .reconnect .null .null .null, .serve {},
   .call (.utc 0) (.count (.text "c") .null), .close]

/--
The first client is not the one that the connector has, nor was it closed, then or ever after.
-/
theorem unanswered_client_left_open
    : ¬ ∀ es n, n ∈ (Event.trace (connectorTo []) es).opened →
        (es.foldl Event.after (connectorTo [])).session.client = some n
          ∨ n ∈ (Event.trace (connectorTo []) es).closed := by
  intro h
  have hopened : (Event.trace (connectorTo []) silentOnce).opened = [0, 1] := by rfl
  have hclosed : (Event.trace (connectorTo []) silentOnce).closed = [1] := by rfl
  have hclient : (silentOnce.foldl Event.after (connectorTo [])).session.client = none := by rfl
  have hfirst := h silentOnce 0
  rw [hopened, hclosed, hclient] at hfirst
  simp at hfirst

theorem clients_accounted_silent
    : let before := (silentOnce.take 1).foldl Event.after (connectorTo [])
      let s := (silentOnce.take 2).foldl Event.after (connectorTo [])
      (Event.reconnect .null .null .null).FailsToConnect before ∧ s.session.client = none
        ∧ hasTextNames [] = true ∧ Event.Needs s (.select .null) []
        ∧ s.clients ∉ (Event.trace (connectorTo []) (silentOnce.take 2)).opened
        ∧ ∃ url more, Event.calls s (.select .null) = .open s.clients url [] :: more := by
  intro before s
  have hoptions : s.session.options = [] := by rfl
  have hneeds : Event.Needs s (.select .null) [] := by
    rw [← hoptions]
    exact .select
  have hfails : (Event.reconnect .null .null .null).FailsToConnect before := by
    refine ⟨.ping 0, .other "ConnectionFailure" "down", ?_, rfl⟩
    have hping : (before.server.outcomes (Event.calls before (.reconnect .null .null .null)))[1]?
        = some (.ping 0, some (.other "ConnectionFailure" "down")) := by rfl
    exact List.mem_of_getElem? hping
  have hclient : s.session.client = none :=
    (clients_accounted (.text "mongodb://h:1") (.text "app") [] {} (silentOnce.take 1)).2.2.2.1
      _ hfails
  obtain ⟨hfresh, hopens, _⟩ :=
    (clients_accounted (.text "mongodb://h:1") (.text "app") [] {} (silentOnce.take 2)).2.2.2.2
      (.select .null) []
      hclient hneeds rfl
  exact ⟨hfails, hclient, rfl, hneeds, hfresh, hopens⟩

end DocStore.Remote

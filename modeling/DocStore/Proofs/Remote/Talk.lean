import DocStore.Proofs.Work
import DocStore.Remote.Connector

/-!
This module contains what passes between a connector and its server in the course of some work: the
calls to the client, and the faults that some of them raise.
-/

namespace DocStore.Remote

open Work

def Server.after (v : Server) : List ClientCall → Server
  | [] => v
  | .command .. :: calls => after { v with replies := v.replies.tail } calls
  | _ :: calls => v.after calls

def Server.fault? (v : Server) : ClientCall → Option RemoteFault
  | .open .. => v.openFailure
  | .ping _ => v.pingFailure
  | .select _ name => v.databaseFailure name
  | .command .. =>
    match v.replies with
    | .failure f :: _ => some f
    | _ => none
  | _ => none

def Server.raised (v : Server) : List ClientCall → List (ClientCall × RemoteFault)
  | [] => []
  | call :: calls => (v.fault? call).toList.map (call, ·) ++ raised (v.after [call]) calls

theorem Server.after_append (v : Server) (calls more : List ClientCall)
    : v.after (calls ++ more) = (v.after calls).after more := by
  induction calls generalizing v with
  | nil => rfl
  | cons call calls ih =>
    rw [List.cons_append]
    cases call with
    | command db collection c => exact ih _
    | _ => exact ih v

theorem Server.raised_append (v : Server) (calls more : List ClientCall)
    : v.raised (calls ++ more) = v.raised calls ++ (v.after calls).raised more := by
  induction calls generalizing v with
  | nil => rfl
  | cons call calls ih =>
    have hafter : v.after (call :: calls) = (v.after [call]).after calls :=
      v.after_append [call] calls
    rw [List.cons_append, raised, raised, ih, hafter, List.append_assoc]

theorem Server.mem_of_raised {v : Server} {calls : List ClientCall} {call : ClientCall}
    {f : RemoteFault}
    (h : (call, f) ∈ v.raised calls) : call ∈ calls := by
  induction calls generalizing v with
  | nil => cases h
  | cons other calls ih =>
    rw [raised, List.mem_append, List.mem_map] at h
    cases h with
    | inl h =>
      obtain ⟨_, _, he⟩ := h
      cases he
      exact List.mem_cons_self ..
    | inr h => exact List.mem_cons_of_mem _ (ih h)

structure Talk (s : State) (calls : List ClientCall) (s' : State) : Prop where
  log : s'.log = s.log ++ calls
  server : s'.server = s.server.after calls

theorem Talk.silent {s s' : State} (hlog : s'.log = s.log) (hserver : s'.server = s.server)
    : Talk s [] s' :=
  ⟨by rw [hlog, List.append_nil], hserver⟩

theorem Talk.trans {s s' s'' : State} {calls more : List ClientCall} (h : Talk s calls s')
    (h' : Talk s' more s'')
    : Talk s (calls ++ more) s'' := by
  constructor
  . rw [h'.log, h.log, List.append_assoc]
  . rw [h'.server, h.server, Server.after_append]

theorem Talk.drop {s s' : State} {calls : List ClientCall} (h : Talk s calls s')
    : s'.log.drop s.log.length = calls := by
  rw [h.log, List.drop_left]

def Talks (P : ClientCall → Prop) (T : ClientCall → RemoteFault → Error → Prop) {α : Type}
    (x : Exchange α) : Prop :=
  ∀ s, ∃ calls, Talk s calls (x s).2 ∧ (∀ call ∈ calls, P call)
    ∧ ∀ call f, (call, f) ∈ s.server.raised calls → ∃ err, (x s).1 = .error err ∧ T call f err

section

variable {α β : Type} {P : ClientCall → Prop} {T : ClientCall → RemoteFault → Error → Prop}

theorem talks_silent {x : Exchange α} (h : ∀ s, (x s).2.log = s.log ∧ (x s).2.server = s.server)
    : Talks P T x := by
  intro s
  exact ⟨[], .silent (h s).1 (h s).2, nofun, nofun⟩

theorem talks_mono {P' : ClientCall → Prop} {T' : ClientCall → RemoteFault → Error → Prop}
    {x : Exchange α} (hP : ∀ call, P call → P' call)
    (hT : ∀ call f err, P call → T call f err → T' call f err) (hx : Talks P T x)
    : Talks P' T' x := by
  intro s
  obtain ⟨calls, htalk, hcalls, hraises⟩ := hx s
  refine ⟨calls, htalk, fun call hcall => hP call (hcalls call hcall), ?_⟩
  intro call f hraised
  obtain ⟨err, he, ht⟩ := hraises call f hraised
  exact ⟨err, he, hT call f err (hcalls call (Server.mem_of_raised hraised)) ht⟩

theorem talks_pure (a : α) : Talks P T (pure a) := talks_silent fun _ => ⟨rfl, rfl⟩

theorem talks_throw (err : Error) : Talks P T (throw err : Exchange α) :=
  talks_silent fun _ => ⟨rfl, rfl⟩

theorem talks_lift (x : Except Error α) : Talks P T (liftM x : Exchange α) := by
  cases x with
  | ok a => exact talks_pure a
  | error err => exact talks_throw err

theorem talks_liftFault (x : Except Fault α) : Talks P T (liftFault x) := by
  cases x with
  | ok a => exact talks_pure a
  | error kind => exact talks_throw _

theorem talks_checkName (f : Option RemoteFault) : Talks P T (check f) := by
  cases f with
  | none => exact talks_pure _
  | some f => exact talks_throw _

theorem talks_get : Talks P T (get : Exchange State) := talks_silent fun _ => ⟨rfl, rfl⟩

theorem talks_setSession (f : Session → Session) : Talks P T (setSession f) :=
  talks_silent fun _ => ⟨rfl, rfl⟩

theorem talks_bind {x : Exchange α} {f : α → Exchange β} (hx : Talks P T x)
    (hf : ∀ a, Talks P T (f a))
    : Talks P T (x >>= f) := by
  intro s
  obtain ⟨calls, htalk, hP, hT⟩ := hx s
  rcases hxs : x s with ⟨r, t⟩
  rw [hxs] at htalk hT
  cases r with
  | error err =>
    rw [bind_error hxs]
    refine ⟨calls, htalk, hP, ?_⟩
    intro call fault hraised
    obtain ⟨err', he, ht⟩ := hT call fault hraised
    cases he
    exact ⟨err, rfl, ht⟩
  | ok a =>
    rw [bind_ok hxs]
    obtain ⟨more, htalk', hP', hT'⟩ := hf a t
    refine ⟨calls ++ more, htalk.trans htalk', ?_, ?_⟩
    . intro call hcall
      rw [List.mem_append] at hcall
      cases hcall with
      | inl hcall => exact hP call hcall
      | inr hcall => exact hP' call hcall
    . intro call fault hraised
      rw [Server.raised_append, List.mem_append, ← htalk.server] at hraised
      cases hraised with
      -- A call that raises a fault ends the work, so that the work would not have gone on.
      | inl hraised =>
        obtain ⟨err, he, _⟩ := hT call fault hraised
        cases he
      | inr hraised => exact hT' call fault hraised

theorem talks_bind_lift {x : Except Error α} {f : α → Exchange β}
    (hf : ∀ a, x = .ok a → Talks P T (f a))
    : Talks P T (liftM x >>= f) := by
  cases x with
  | ok a => exact hf a rfl
  | error err => exact talks_throw err

theorem talks_bind_liftFault {x : Except Fault α} {f : α → Exchange β}
    (hf : ∀ a, x = .ok a → Talks P T (f a))
    : Talks P T (liftFault x >>= f) := by
  cases x with
  | ok a => exact hf a rfl
  | error kind => exact talks_throw _

theorem talks_mapM {f : α → Exchange β} (hf : ∀ a, Talks P T (f a)) (as : List α)
    : Talks P T (as.mapM f) := by
  induction as with
  | nil => exact talks_pure []
  | cons a as ih =>
    rw [List.mapM_cons]
    exact talks_bind (hf a) fun _ => talks_bind ih fun _ => talks_pure _

theorem talks_tryCatch {T' : ClientCall → RemoteFault → Error → Prop} {x : Exchange α}
    {f : Error → Exchange α}
    (hx : Talks P T x) (hf : ∀ err s, (f err s).2 = s)
    (hT : ∀ call fault err s, P call → T call fault err →
      ∃ err', (f err s).1 = .error err' ∧ T' call fault err')
    : Talks P T' (tryCatch x f) := by
  intro s
  obtain ⟨calls, htalk, hP, hraises⟩ := hx s
  rcases hxs : x s with ⟨r, t⟩
  rw [hxs] at htalk hraises
  rcases htry : tryCatch x f s with ⟨r', t'⟩
  rcases tryCatch_cases htry with ⟨a, ha, _⟩ | ⟨err, u, he, hfe⟩
  . rw [hxs] at ha
    cases ha
    refine ⟨calls, htalk, hP, ?_⟩
    intro call fault hraised
    obtain ⟨err, he, _⟩ := hraises call fault hraised
    cases he
  . rw [hxs] at he
    cases he
    have hstate := hf err t
    rw [hfe] at hstate
    dsimp only at hstate
    refine ⟨calls, by rw [hstate]; exact htalk, hP, ?_⟩
    intro call fault hraised
    obtain ⟨err', he, ht⟩ := hraises call fault hraised
    cases he
    obtain ⟨err'', he, ht'⟩ := hT call fault err t (hP call (Server.mem_of_raised hraised)) ht
    rw [hfe] at he
    exact ⟨err'', he, ht'⟩

theorem talks_record {call : ClientCall} (hfault : ∀ v : Server, v.fault? call = none)
    (hafter : ∀ v : Server, v.after [call] = v) (hP : P call) : Talks P T (record call) := by
  intro s
  refine ⟨[call], ⟨rfl, (hafter s.server).symm⟩, ?_, ?_⟩
  . intro other hother
    rw [List.mem_singleton] at hother
    rw [hother]
    exact hP
  . intro other f hraised
    rw [Server.raised, hfault] at hraised
    cases hraised

theorem talks_check {call : ClientCall} {g : Server → Option RemoteFault}
    (hfault : ∀ v : Server, v.fault? call = g v) (hafter : ∀ v : Server, v.after [call] = v)
    (hP : P call) (hT : ∀ f, T call f (.remote f)) {x : Exchange α}
    (hx : Talks P T x) : Talks P T (do record call; check (g (← get).server); x) := by
  have hcall : Talks P T (do record call; check (g (← get).server)) := by
    intro s
    refine ⟨[call], ?_, ?_, ?_⟩
    . have htalk : Talk s [call] { s with log := s.log ++ [call] } := ⟨rfl, (hafter s.server).symm⟩
      change Talk s [call] (check (g s.server) { s with log := s.log ++ [call] }).2
      cases g s.server with
      | none => exact htalk
      | some f => exact htalk
    . intro other hother
      rw [List.mem_singleton] at hother
      rw [hother]
      exact hP
    . intro other f hraised
      rw [Server.raised, hfault, Server.raised, List.append_nil] at hraised
      change ∃ err, (check (g s.server) { s with log := s.log ++ [call] }).1 = .error err ∧
        T other f err
      cases hg : g s.server with
      | none =>
        rw [hg] at hraised
        cases hraised
      | some fault =>
        rw [hg, Option.toList_some, List.map_singleton, List.mem_singleton] at hraised
        cases hraised
        exact ⟨_, rfl, hT f⟩
  have hthen := talks_bind hcall fun _ => hx
  simpa only [bind_assoc] using hthen

end

def ClientCall.isCommand : ClientCall → Bool
  | .command .. => true
  | _ => false

section

variable {P : ClientCall → Prop} {T : ClientCall → RemoteFault → Error → Prop}
  (hP : ∀ call, call.isCommand = false → P call)
    (hT : ∀ call f, call.isCommand = false → T call f (.remote f))
include hP

theorem talks_close : Talks P T close := by
  unfold close
  refine talks_bind talks_get fun s => ?_
  cases s.session.client with
  | none => exact talks_pure _
  | some n =>
    exact talks_bind (talks_record (fun _ => rfl) (fun _ => rfl) (hP _ rfl)) fun _ =>
      talks_setSession _

include hT

theorem talks_connect : Talks P T connect := by
  unfold connect
  refine talks_bind (talks_close hP) fun _ => talks_bind talks_get fun s => ?_
  refine talks_bind ?_ fun _ => talks_bind talks_get fun t =>
    talks_bind (talks_silent fun _ => ⟨rfl, rfl⟩) fun _ => ?_
  . unfold checkOptions
    split
    . exact talks_pure _
    . exact talks_throw _
  . refine talks_check (fun _ => rfl) (fun _ => rfl) (hP _ rfl) (hT _ · rfl) ?_
    refine talks_check (fun _ => rfl) (fun _ => rfl) (hP _ rfl) (hT _ · rfl)
      (talks_bind (talks_setSession _) fun _ => ?_)
    exact talks_check (fun _ => rfl) (fun _ => rfl) (hP _ rfl) (hT _ · rfl) (talks_setSession _)

theorem talks_database (name : Value) : Talks P T (database name) := by
  unfold database
  refine talks_bind talks_get fun s => ?_
  have hrest : Talks P T (do
      let s := (← get).session
      if name.isTruthy && !name.equals s.databaseName then
        record (.select (s.client.getD 0) name)
        check ((← get).server.databaseFailure name)
        setSession fun s => { s with database := some name, databaseName := name }
      return (← get).session.database.getD .null : Exchange Value) := by
    refine talks_bind talks_get fun t => ?_
    dsimp only
    split
    . refine talks_check (fun _ => rfl) (fun _ => rfl) (hP _ rfl) (hT _ · rfl) ?_
      exact talks_bind (talks_setSession _) fun _ => talks_bind talks_get fun _ => talks_pure _
    . exact talks_bind talks_get fun _ => talks_pure _
  dsimp only
  split
  . exact talks_bind (talks_connect hP hT) fun _ => hrest
  . exact hrest

theorem talks_databaseFor (collection : Value) : Talks P T (databaseFor collection) := by
  have hname (db : Value) : Talks P T (do
      check ((← get).server.collectionFailure collection)
      return db) :=
    talks_bind talks_get fun _ => talks_bind (talks_checkName _) fun _ => talks_pure _
  unfold databaseFor
  refine talks_bind (talks_database hP hT _) fun db => talks_bind talks_get fun s => ?_
  split
  . exact talks_bind (talks_throw _) fun _ => hname db
  . exact hname db

theorem talks_reconnect (url databaseName options : Value)
    : Talks P T (reconnect url databaseName options) := by
  have hconnect := talks_connect hP hT
  have hset : ∀ (f : Session → Session) (x : Exchange Unit), Talks P T x →
      Talks P T (do setSession f; x) :=
    fun f _ hx => talks_bind (talks_setSession f) fun _ => hx
  unfold reconnect
  dsimp only
  split
  case' h_2 => refine hset _ _ ?_
  all_goals
    split
    case' h_2 => refine hset _ _ ?_
    all_goals
      split
      . exact hconnect
      . exact talks_bind (talks_liftFault _) fun _ => hset _ _ hconnect

end

section

variable {s : State} {database collection : Value} {c : Command}

theorem send_unscripted (h : s.server.replies = [])
    : send database collection c s =
      (.ok {}, { s with log := s.log ++ [.command database collection c] }) := by
  unfold send record
  rw [modify_bind, get_bind]
  dsimp only
  rw [h]
  rfl

theorem send_result {r : Result} {replies : List Reply}
    (h : s.server.replies = .result r :: replies)
    : send database collection c s
      = (.ok r, { s with
          log := s.log ++ [.command database collection c], server :=
  { s.server with replies } }) := by
  unfold send record
  rw [modify_bind, get_bind]
  dsimp only
  rw [h]
  rfl

theorem send_failure {f : RemoteFault} {replies : List Reply}
    (h : s.server.replies = .failure f :: replies)
    : send database collection c s
      = (.error (.remote f), { s with
          log := s.log ++ [.command database collection c], server :=
  { s.server with replies } }) := by
  unfold send record
  rw [modify_bind, get_bind]
  dsimp only
  rw [h]
  rfl

end

theorem talks_send {P : ClientCall → Prop} {T : ClientCall → RemoteFault → Error → Prop}
    {database collection : Value} {c : Command} (hP : P (.command database collection c))
    (hT : ∀ f, T (.command database collection c) f (.remote f))
    : Talks P T (send database collection c) := by
  intro s
  have hcalls : ∀ call ∈ [ClientCall.command database collection c], P call := by
    intro call hcall
    rw [List.mem_singleton] at hcall
    rw [hcall]
    exact hP
  refine ⟨[.command database collection c], ?_, hcalls, ?_⟩
  . cases hreplies : s.server.replies with
    | nil =>
      rw [send_unscripted hreplies]
      refine ⟨rfl, ?_⟩
      dsimp only [Server.after]
      rw [hreplies, List.tail_nil, ← hreplies]
    | cons reply replies =>
      cases reply with
      | result r =>
        rw [send_result hreplies]
        refine ⟨rfl, ?_⟩
        dsimp only [Server.after]
        rw [hreplies, List.tail_cons]
      | failure f =>
        rw [send_failure hreplies]
        refine ⟨rfl, ?_⟩
        dsimp only [Server.after]
        rw [hreplies, List.tail_cons]
  . intro call f hraised
    rw [Server.raised, Server.raised, List.append_nil] at hraised
    unfold Server.fault? at hraised
    cases hreplies : s.server.replies with
    | nil =>
      rw [hreplies] at hraised
      cases hraised
    | cons reply replies =>
      rw [hreplies] at hraised
      cases reply with
      | result r => cases hraised
      | failure fault =>
        dsimp only at hraised
        rw [Option.toList_some, List.map_singleton, List.mem_singleton] at hraised
        cases hraised
        rw [send_failure hreplies]
        exact ⟨_, rfl, hT f⟩

def connectorTo (replies : List Reply) : State :=
  { session := { url := .text "mongodb://h:1", databaseName := .text "app", options := [] },
    server := { replies } }

end DocStore.Remote

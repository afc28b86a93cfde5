import DocStore.Proofs.Remote.Command

/-!
This module contains what becomes of the client of a connector in the course of some work: the work
is done with the client that there is, or a client is opened first, or no client is needed.
-/

namespace DocStore.Remote

open Work

def ClientCall.keepsClients : ClientCall → Bool
  | .open .. => false
  | .ping _ => false
  | .close _ => false
  | _ => true

abbrev Trace := List (ClientCall × Option RemoteFault)

def Server.outcomes (v : Server) : List ClientCall → Trace
  | [] => []
  | call :: calls => (call, v.fault? call) :: outcomes (v.after [call]) calls

theorem Server.outcomes_append (v : Server) (calls more : List ClientCall)
    : v.outcomes (calls ++ more) = v.outcomes calls ++ (v.after calls).outcomes more := by
  induction calls generalizing v with
  | nil => rfl
  | cons call calls ih =>
    have hafter : v.after (call :: calls) = (v.after [call]).after calls :=
      v.after_append [call] calls
    rw [List.cons_append, outcomes, outcomes, ih, hafter, List.cons_append]

theorem Server.mem_outcomes {v : Server} {calls : List ClientCall} {call : ClientCall}
    {f : Option RemoteFault}
    (h : (call, f) ∈ v.outcomes calls) : call ∈ calls ∧ ∃ v' : Server, f = v'.fault? call := by
  induction calls generalizing v with
  | nil => cases h
  | cons other calls ih =>
    cases h with
    | head => exact ⟨List.mem_cons_self .., v, rfl⟩
    | tail _ h =>
      obtain ⟨hmem, hfault⟩ := ih h
      exact ⟨List.mem_cons_of_mem _ hmem, hfault⟩

def Trace.selected (t : Trace) : List Nat :=
  t.filterMap fun
    | (.select n _, none) => some n
    | _ => none

theorem Trace.selected_append (t u : Trace) : selected (t ++ u) = selected t ++ selected u :=
  List.filterMap_append

theorem Trace.mem_selected {t : Trace} {n : Nat}
    : n ∈ t.selected ↔ ∃ name, (.select n name, none) ∈ t := by
  unfold selected
  rw [List.mem_filterMap]
  constructor
  . rintro ⟨⟨call, f⟩, hmem, h⟩
    split at h
    next m name hentry =>
      cases hentry
      cases h
      exact ⟨name, hmem⟩
    . cases h
  . rintro ⟨name, hmem⟩
    exact ⟨_, hmem, rfl⟩

structure Uses (s : State) (calls : List ClientCall) (s' : State) : Prop where
  talk : Talk s calls s'
  keeps : ∀ call ∈ calls, call.keepsClients = true
  client : s'.session.client = s.session.client
  clients : s'.clients = s.clients
  selects : ∀ n ∈ (s.server.outcomes calls).selected, s.session.client = some n
  database : s'.session.database = none ↔ s.session.database = none ∧
    (s.server.outcomes calls).selected = []

theorem Uses.unselected {s s' : State} {calls : List ClientCall} (talk : Talk s calls s')
    (keeps : ∀ call ∈ calls, call.keepsClients = true)
    (client : s'.session.client = s.session.client)
    (database : s'.session.database = s.session.database) (clients : s'.clients = s.clients)
    (none : (s.server.outcomes calls).selected = []) : Uses s calls s' where
  talk := talk
  keeps := keeps
  client := client
  clients := clients
  selects n hn := by
    rw [none] at hn
    cases hn
  database := by rw [database, none, and_iff_left rfl]

theorem Uses.silent {s s' : State} (talk : Talk s [] s')
    (client : s'.session.client = s.session.client)
    (database : s'.session.database = s.session.database) (clients : s'.clients = s.clients)
    : Uses s [] s' :=
  .unselected talk nofun client database clients rfl

theorem Uses.refl (s : State) : Uses s [] s := .silent (.silent rfl rfl) rfl rfl rfl

theorem Uses.trans {s s' s'' : State} {calls more : List ClientCall} (h : Uses s calls s')
    (h' : Uses s' more s'')
    : Uses s (calls ++ more) s'' := by
  have hselected : (s.server.outcomes (calls ++ more)).selected
      = (s.server.outcomes calls).selected ++ (s'.server.outcomes more).selected := by
    rw [Server.outcomes_append, Trace.selected_append, h.talk.server]
  refine ⟨h.talk.trans h'.talk, ?_, h'.client.trans h.client, h'.clients.trans h.clients, ?_, ?_⟩
  . intro call hcall
    rw [List.mem_append] at hcall
    cases hcall with
    | inl hcall => exact h.keeps call hcall
    | inr hcall => exact h'.keeps call hcall
  . intro n hn
    rw [hselected, List.mem_append] at hn
    cases hn with
    | inl hn => exact h.selects n hn
    | inr hn => exact h.client.symm.trans (h'.selects n hn)
  . rw [h'.database, h.database, hselected, List.append_eq_nil_iff, and_assoc]

def Steady {α : Type} (x : Exchange α) : Prop :=
  ∀ s, s.session.client.isSome = true → ∃ calls, Uses s calls (x s).2

def Offline {α : Type} (x : Exchange α) : Prop := ∃ r, ∀ s, x s = (r, s)

def Online {α : Type} (x : Exchange α) : Prop :=
  Steady x ∧ ∀ s, s.session.client = none →
    (∃ e t, connect s = (.error e, t) ∧ ∃ err, x s = (.error err, t))
      ∨ ∃ t calls, connect s = (.ok (), t) ∧ Uses t calls (x s).2

def Course {α : Type} (x : Exchange α) : Prop := Offline x ∨ Online x

section

variable {α β : Type}

theorem steady_silent {x : Exchange α} (h : ∀ s, ∃ calls, Uses s calls (x s).2) : Steady x :=
  fun s _ => h s

theorem steady_pure (a : α) : Steady (pure a) := steady_silent fun s => ⟨[], .refl s⟩

theorem steady_throw (err : Error) : Steady (throw err : Exchange α) :=
  steady_silent fun s => ⟨[], .refl s⟩

theorem steady_lift (x : Except Error α) : Steady (liftM x : Exchange α) := by
  cases x with
  | ok a => exact steady_pure a
  | error err => exact steady_throw err

theorem steady_liftFault (x : Except Fault α) : Steady (liftFault x) := by
  cases x with
  | ok a => exact steady_pure a
  | error kind => exact steady_throw _

theorem steady_objectFields (doc : Value) : Steady (objectFields doc) := by
  cases doc with
  | object fs => exact steady_pure fs
  | _ => exact steady_throw _

theorem steady_bind {x : Exchange α} {f : α → Exchange β} (hx : Steady x) (hf : ∀ a, Steady (f a))
    : Steady (x >>= f) := by
  intro s hs
  obtain ⟨calls, huses⟩ := hx s hs
  rcases hxs : x s with ⟨r, t⟩
  rw [hxs] at huses
  cases r with
  | error err =>
    rw [bind_error hxs]
    exact ⟨calls, huses⟩
  | ok a =>
    rw [bind_ok hxs]
    obtain ⟨more, huses'⟩ := hf a t (by rw [huses.client]; exact hs)
    exact ⟨calls ++ more, huses.trans huses'⟩

theorem steady_mapM {f : α → Exchange β} (hf : ∀ a, Steady (f a)) (as : List α)
    : Steady (as.mapM f) := by
  induction as with
  | nil => exact steady_pure []
  | cons a as ih =>
    rw [List.mapM_cons]
    exact steady_bind (hf a) fun _ => steady_bind ih fun _ => steady_pure _

theorem steady_get : Steady (get : Exchange State) := steady_silent fun s => ⟨[], .refl s⟩

theorem steady_check (f : Option RemoteFault) : Steady (check f) := by
  cases f with
  | none => exact steady_pure _
  | some f => exact steady_throw _

theorem steady_record {call : ClientCall} (hafter : ∀ v : Server, v.after [call] = v)
    (hkeeps : call.keepsClients = true)
    (hselected : ∀ v : Server, (v.outcomes [call]).selected = [])
    : Steady (record call) := by
  refine steady_silent fun s =>
    ⟨[call], .unselected ⟨rfl, (hafter s.server).symm⟩ ?_ rfl rfl rfl (hselected s.server)⟩
  intro other hother
  rw [List.mem_singleton.mp hother]
  exact hkeeps

theorem steady_send (database collection : Value) (c : Command)
    : Steady (send database collection c) := by
  have htalks : Talks (fun _ => True) (fun _ _ _ => True) (send database collection c) :=
    talks_send trivial fun _ => trivial
  have hkeeps : ∀ other ∈ [ClientCall.command database collection c], other.keepsClients =
      true := by
    intro other hother
    rw [List.mem_singleton.mp hother]
    rfl
  refine steady_silent fun s => ?_
  obtain ⟨calls, htalk, _⟩ := htalks s
  cases hreplies : s.server.replies with
  | nil =>
    rw [send_unscripted hreplies] at htalk ⊢
    cases List.append_cancel_left htalk.log
    exact ⟨_, .unselected htalk hkeeps rfl rfl rfl rfl⟩
  | cons reply replies =>
    cases reply with
    | result r =>
      rw [send_result hreplies] at htalk ⊢
      cases List.append_cancel_left htalk.log
      exact ⟨_, .unselected htalk hkeeps rfl rfl rfl rfl⟩
    | failure f =>
      rw [send_failure hreplies] at htalk ⊢
      cases List.append_cancel_left htalk.log
      exact ⟨_, .unselected htalk hkeeps rfl rfl rfl rfl⟩

theorem Offline.steady {x : Exchange α} (h : Offline x) : Steady x := by
  obtain ⟨r, hr⟩ := h
  refine steady_silent fun s => ⟨[], ?_⟩
  rw [hr]
  exact .refl s

theorem Course.steady {x : Exchange α} (h : Course x) : Steady x := by
  cases h with
  | inl h => exact h.steady
  | inr h => exact h.1

theorem course_pure (a : α) : Course (pure a) := .inl ⟨.ok a, fun _ => rfl⟩

theorem course_throw (err : Error) : Course (throw err : Exchange α) :=
  .inl ⟨.error err, fun _ => rfl⟩

theorem course_bind_lift {x : Except Error α} {f : α → Exchange β}
    (hf : ∀ a, x = .ok a → Course (f a))
    : Course (liftM x >>= f) := by
  cases x with
  | ok a => exact hf a rfl
  | error err => exact course_throw err

theorem course_bind_liftFault {x : Except Fault α} {f : α → Exchange β}
    (hf : ∀ a, x = .ok a → Course (f a))
    : Course (liftFault x >>= f) := by
  cases x with
  | ok a => exact hf a rfl
  | error kind => exact course_throw _

theorem course_bind_objectFields {doc : Value} {f : Fields → Exchange β} (hf : ∀ fs, Course (f fs))
    : Course (objectFields doc >>= f) := by
  cases doc with
  | object fs => exact hf fs
  | _ => exact course_throw _

end

def hasTextNames (options : Fields) : Bool :=
  options.all fun f => match f.1 with | .text _ => true | _ => false

def State.opening (s : State) : ClientCall := .open s.clients s.session.url s.session.options

def State.asked (s : State) (calls : List ClientCall) : State :=
  { s with clients := s.clients + 1, log := s.log ++ calls }

/--
What opening a client comes to where there is none: how far the calls get, and whether there is one
then.
-/
inductive Opens (s : State) : List ClientCall → Except Error Unit → State → Prop where
  | misnamed (names : hasTextNames s.session.options = false) :
      Opens s [] (.error (.fault .wrongKind)) s
  | notBuilt {f} (names : hasTextNames s.session.options = true)
      (failure : s.server.openFailure = some f) :
      Opens s [s.opening] (.error (.remote f)) (s.asked [s.opening])
  | unanswered {f} (names : hasTextNames s.session.options = true)
      (built : s.server.openFailure = none)
      (failure : s.server.pingFailure = some f) :
      Opens s [s.opening, .ping s.clients] (.error (.remote f))
      (s.asked [s.opening, .ping s.clients])
  | unselected {f} (names : hasTextNames s.session.options = true)
      (built : s.server.openFailure = none)
      (answered : s.server.pingFailure = none)
      (failure : s.server.databaseFailure s.session.databaseName = some f) :
      Opens s [s.opening, .ping s.clients, .select s.clients s.session.databaseName]
      (.error (.remote f))
        { s.asked [s.opening, .ping s.clients, .select s.clients s.session.databaseName] with
          session := { s.session with client := some s.clients } }
  | connected (names : hasTextNames s.session.options = true) (built : s.server.openFailure = none)
      (answered : s.server.pingFailure = none)
      (selected : s.server.databaseFailure s.session.databaseName = none) :
      Opens s [s.opening, .ping s.clients, .select s.clients s.session.databaseName] (.ok ())
        { s.asked [s.opening, .ping s.clients, .select s.clients s.session.databaseName] with
          session :=
            { s.session with client := some s.clients, database := some s.session.databaseName } }

theorem Opens.talk {s s' : State} {calls : List ClientCall} {r : Except Error Unit}
    (h : Opens s calls r s')
    : Talk s calls s' := by
  cases h with
  | misnamed => exact .silent rfl rfl
  | _ => exact ⟨rfl, rfl⟩

theorem close_none {s : State} (h : s.session.client = none) : close s = (.ok (), s) := by
  unfold close
  rw [get_bind, h]
  rfl

theorem close_some {s : State} {n : Nat} (h : s.session.client = some n)
    : close s = (.ok (), { s with
        log := s.log ++ [.close n], session :=
  { s.session with client := none, database := none } }) := by
  unfold close
  rw [get_bind, h]
  rfl

theorem close_client (s : State) : (close s).2.session.client = none := by
  cases h : s.session.client with
  | none => rw [close_none h]; exact h
  | some n => rw [close_some h]

theorem connect_close (s : State) : connect s = connect (close s).2 := by
  have hclose : ∀ s, close s = (.ok (), (close s).2) := by
    intro s
    cases h : s.session.client with
    | none => rw [close_none h]
    | some n => rw [close_some h]
  unfold connect
  rw [bind_ok (hclose s), bind_ok (close_none (close_client s))]

theorem checkOptions_eq (options : Fields)
    : checkOptions options = if hasTextNames options = true then pure ()
      else throw (.fault .wrongKind) := rfl

theorem connect_misnamed {s : State} (h : s.session.client = none)
    (hnames : hasTextNames s.session.options = false)
    : connect s = (.error (.fault .wrongKind), s) := by
  unfold connect
  rw [bind_ok (close_none h), get_bind, checkOptions_eq, hnames]
  rfl

theorem connect_named {s : State} (h : s.session.client = none)
    (hnames : hasTextNames s.session.options = true)
    : connect s = (do
        check (← get).server.openFailure
        record (.ping s.clients)
        check (← get).server.pingFailure
        setSession fun session => { session with client := some s.clients }
        record (.select s.clients s.session.databaseName)
        check ((← get).server.databaseFailure s.session.databaseName)
        setSession fun session => { session with database := some session.databaseName }
    : Exchange Unit)
      (s.asked [s.opening]) := by
  unfold connect
  rw [bind_ok (close_none h), get_bind, checkOptions_eq, hnames]
  rfl

theorem check_none_bind {α : Type} (f : Unit → Exchange α) : (check none >>= f) = f () := rfl

theorem record_bind {α : Type} (call : ClientCall) (f : Unit → Exchange α) (s : State)
    : (record call >>= f) s = f () { s with log := s.log ++ [call] } := rfl

theorem setSession_bind {α : Type} (g : Session → Session) (f : Unit → Exchange α) (s : State)
    : (setSession g >>= f) s = f () { s with session := g s.session } := rfl

theorem State.asked_more (s : State) (calls : List ClientCall) (call : ClientCall)
    : { s.asked calls with log := (s.asked calls).log ++ [call] } = s.asked (calls ++ [call]) := by
  unfold asked
  rw [List.append_assoc]

theorem connect_opens {s : State} (h : s.session.client = none)
    : ∃ calls, Opens s calls (connect s).1 (connect s).2 := by
  cases hnames : hasTextNames s.session.options with
  | false =>
    rw [connect_misnamed h hnames]
    exact ⟨[], .misnamed hnames⟩
  | true =>
    rw [connect_named h hnames, get_bind]
    change ∃ calls, Opens s calls ((check s.server.openFailure >>= _) _).1
      ((check s.server.openFailure >>= _) _).2
    cases hopen : s.server.openFailure with
    | some f => exact ⟨_, .notBuilt hnames hopen⟩
    | none =>
      rw [check_none_bind, record_bind, s.asked_more, get_bind]
      change ∃ calls, Opens s calls ((check s.server.pingFailure >>= _) _).1
        ((check s.server.pingFailure >>= _) _).2
      cases hping : s.server.pingFailure with
      | some f => exact ⟨_, .unanswered hnames hopen hping⟩
      | none =>
        have hlog := List.append_assoc s.log [s.opening, .ping s.clients]
          [.select s.clients s.session.databaseName]
        rw [check_none_bind, setSession_bind, record_bind, get_bind]
        dsimp only [State.asked, List.cons_append, List.nil_append] at hlog ⊢
        rw [hlog]
        cases hselect : s.server.databaseFailure s.session.databaseName with
        | some f => exact ⟨_, .unselected hnames hopen hping hselect⟩
        | none => exact ⟨_, .connected hnames hopen hping hselect⟩

theorem Opens.client_of_ok {s s' : State} {calls : List ClientCall} (h : Opens s calls (.ok ()) s')
    : s'.session.client = some s.clients ∧ s'.session.database.isSome = true := by
  cases h with
  | connected => exact ⟨rfl, rfl⟩

theorem connect_ok_client {s t : State} (h : s.session.client = none)
    (hok : connect s = (.ok (), t))
    : t.session.client.isSome = true := by
  obtain ⟨calls, hopens⟩ := connect_opens h
  rw [hok] at hopens
  rw [hopens.client_of_ok.1]
  rfl

section

variable {α β : Type}

theorem tryCatch_state {x : Exchange α} {f : Error → Exchange α}
    (hf : ∀ err, ∃ err', f err = throw err') (s : State)
    : (tryCatch x f s).2 = (x s).2 := by
  rcases hxs : x s with ⟨r, t⟩
  cases r with
  | ok a => rw [tryCatch_ok hxs]
  | error err =>
    obtain ⟨err', hthrow⟩ := hf err
    rw [tryCatch_error hxs, hthrow]
    rfl

theorem Steady.tryCatch {x : Exchange α} {f : Error → Exchange α} (hx : Steady x)
    (hf : ∀ err, ∃ err', f err = throw err') : Steady (tryCatch x f) := by
  intro s hs
  rw [tryCatch_state hf]
  exact hx s hs

theorem Online.bind {x : Exchange α} {f : α → Exchange β} (hx : Online x) (hf : ∀ a, Steady (f a))
    : Online (x >>= f) := by
  refine ⟨steady_bind hx.1 hf, ?_⟩
  intro s hs
  rcases hx.2 s hs with ⟨e, t, hconnect, err, hxs⟩ | ⟨t, calls, hconnect, huses⟩
  . exact .inl ⟨e, t, hconnect, err, bind_error hxs⟩
  . right
    rcases hxs : x s with ⟨r, u⟩
    rw [hxs] at huses
    cases r with
    | error err =>
      rw [bind_error hxs]
      exact ⟨t, calls, hconnect, huses⟩
    | ok a =>
      have hclient : u.session.client.isSome = true := by
        rw [huses.client]
        exact connect_ok_client hs hconnect
      obtain ⟨more, huses'⟩ := hf a u hclient
      rw [bind_ok hxs]
      exact ⟨t, calls ++ more, hconnect, huses.trans huses'⟩

theorem Online.tryCatch {x : Exchange α} {f : Error → Exchange α} (hx : Online x)
    (hf : ∀ err, ∃ err', f err = throw err') : Online (tryCatch x f) := by
  refine ⟨hx.1.tryCatch hf, ?_⟩
  intro s hs
  rcases hx.2 s hs with ⟨e, t, hconnect, err, hxs⟩ | hused
  . obtain ⟨err', hthrow⟩ := hf err
    refine .inl ⟨e, t, hconnect, err', ?_⟩
    rw [tryCatch_error hxs, hthrow]
    rfl
  . right
    rw [tryCatch_state hf]
    exact hused

theorem Course.map {x : Exchange α} (g : α → β) (hx : Course x) : Course (do return g (← x)) := by
  cases hx with
  | inl hx =>
    obtain ⟨r, hr⟩ := hx
    left
    cases r with
    | ok a => exact ⟨.ok (g a), fun s => bind_ok (hr s)⟩
    | error err => exact ⟨.error err, fun s => bind_error (hr s)⟩
  | inr hx => exact .inr (hx.bind fun a => steady_pure (g a))

end

def choose (name : Value) : Exchange Value := do
  let s := (← get).session
  if name.isTruthy && !name.equals s.databaseName then
    record (.select (s.client.getD 0) name)
    check ((← get).server.databaseFailure name)
    setSession fun s => { s with database := some name, databaseName := name }
  return (← get).session.database.getD .null

theorem database_some {s : State} (h : s.session.client.isSome = true) (name : Value)
    : database name s = choose name s := by
  unfold database
  rw [get_bind, Option.isNone_eq_false_iff.mpr h]
  rfl

theorem database_none {s : State} (h : s.session.client = none) (name : Value)
    : database name s = (do connect; choose name) s := by
  unfold database
  rw [get_bind, h]
  rfl

theorem choose_uses (name : Value) {s : State} (h : s.session.client.isSome = true)
    : ∃ calls, Uses s calls (choose name s).2 := by
  obtain ⟨n, hn⟩ := Option.isSome_iff_exists.mp h
  have hkeeps : ∀ call ∈ [ClientCall.select n name], call.keepsClients = true := by
    intro call hcall
    rw [List.mem_singleton.mp hcall]
    rfl
  have houtcomes : s.server.outcomes [.select n name] =
      [(.select n name, s.server.databaseFailure name)] := rfl
  unfold choose
  rw [get_bind]
  dsimp only
  split
  . rw [hn, record_bind, get_bind]
    change ∃ calls, Uses s calls ((check (s.server.databaseFailure name) >>= _) _).2
    cases hselect : s.server.databaseFailure name with
    | some f =>
      exact ⟨[.select n name], .unselected ⟨rfl, rfl⟩ hkeeps rfl rfl rfl
        (by rw [houtcomes, hselect]; rfl)⟩
    | none =>
      rw [hselect] at houtcomes
      refine ⟨[.select n name], ⟨rfl, rfl⟩, hkeeps, rfl, rfl, ?_, ?_⟩
      . intro m hm
        rw [houtcomes] at hm
        rw [List.mem_singleton.mp hm]
        exact hn
      . rw [houtcomes]
        exact ⟨nofun, nofun⟩
  . exact ⟨[], .refl s⟩

theorem database_online (name : Value) : Online (database name) := by
  constructor
  . intro s hs
    rw [database_some hs]
    exact choose_uses name hs
  . intro s hs
    rw [database_none hs]
    rcases hconnect : connect s with ⟨r, t⟩
    cases r with
    | error e => exact .inl ⟨e, t, rfl, e, bind_error hconnect⟩
    | ok =>
      obtain ⟨calls, huses⟩ := choose_uses name (connect_ok_client hs hconnect)
      rw [bind_ok hconnect]
      exact .inr ⟨t, calls, rfl, huses⟩

theorem databaseFor_online (collection : Value) : Online (databaseFor collection) := by
  unfold databaseFor
  refine (database_online .null).bind fun db => steady_bind steady_get fun s => ?_
  have hname : Steady (do
      check ((← get).server.collectionFailure collection)
      return db) :=
    steady_bind steady_get fun _ => steady_bind (steady_check _) fun _ => steady_pure _
  split
  . exact steady_bind (steady_throw _) fun _ => hname
  . exact hname

theorem insert_online {collection : Value} {command : Command} {f : Error → Exchange Result}
    (hf : ∀ err, ∃ err', f err = throw err')
    : Online (tryCatch (do send (← databaseFor collection) collection command) f) :=
  ((databaseFor_online collection).bind fun db => steady_send db collection command).tryCatch hf

theorem createOne_course (now : Moment) (collection doc : Value)
    : Course (createOne now collection doc) := by
  unfold createOne
  refine course_bind_objectFields fun fs => .inr ((insert_online fun err => ?_).bind fun r => ?_)
  . split
    . exact ⟨_, rfl⟩
    . exact ⟨_, rfl⟩
  . split
    . exact steady_pure _
    . exact steady_throw _

theorem createMany_course (now : Moment) (collection docs : Value)
    : Course (createMany now collection docs) := by
  unfold createMany
  refine course_bind_liftFault fun given _ => ?_
  split
  . exact course_pure _
  . rcases payloads_cases given now with ⟨fss, _, hrun⟩ | hrun
    . rw [hrun, pure_bind]
      refine .inr ((insert_online fun err => ?_).bind fun r => ?_)
      . split
        . obtain ⟨err, he, _⟩ := @bulkError_throw Result collection ‹Value›
          exact ⟨err, he⟩
        . exact ⟨_, rfl⟩
      . split
        . exact steady_bind (steady_liftFault _) fun _ => steady_pure _
        . exact steady_throw _
    . rw [hrun]
      exact course_throw _

theorem find_course (collection query limit skip sort : Value)
    : Course (find collection query limit skip sort) := by
  unfold find
  refine course_bind_lift fun _ _ => course_bind_lift fun _ _ =>
    .inr ((databaseFor_online _).bind fun db => ?_)
  refine steady_bind (steady_liftFault _) fun prepared =>
    steady_bind (steady_send _ _ _) fun r => ?_
  refine steady_bind (steady_record (fun _ => rfl) rfl fun _ => rfl) fun _ => ?_
  refine steady_bind (steady_record (fun _ => rfl) rfl fun _ => rfl) fun _ =>
    steady_bind (steady_lift _) fun keys => ?_
  have hdocs : Steady (do
      let docs ← liftFault r.documents.items
      docs.mapM fun d => liftFault (publicDocument d)) :=
    steady_bind (steady_liftFault _) fun docs => steady_mapM (fun _ => steady_liftFault _) docs
  split
  . exact hdocs
  . exact hdocs
  . exact steady_bind (steady_record (fun _ => rfl) rfl fun _ => rfl) fun _ => hdocs

theorem upsertOne_course (now : Moment) (collection doc key : Value)
    : Course (upsertOne now collection doc key) := by
  unfold upsertOne
  refine course_bind_liftFault fun given _ => course_bind_lift fun resolved _ => ?_
  refine .inr ((databaseFor_online _).bind fun db => ?_)
  dsimp only
  split
  case' h_1 => refine steady_bind (steady_pure none) ?_
  case' h_2 => refine steady_bind (steady_bind (steady_send _ _ _) fun r => steady_pure (some r)) ?_
  all_goals
    intro byId
    split
    . exact steady_pure _
    . exact steady_bind (createOne_course now collection _).steady fun _ => steady_pure _
    . refine steady_bind (steady_send _ _ _) fun r => ?_
      split
      . exact steady_pure _
      . exact steady_pure _

theorem run_course (now : Moment) (c : Call) : Course (run now c) := by
  have hdatabase {collection : Value} {β : Type} {f : Value → Exchange β} (hf : ∀ db, Steady (f db))
      : Course (databaseFor collection >>= f) :=
    .inr ((databaseFor_online collection).bind hf)
  cases c with
  | createOne collection doc => exact (createOne_course now collection doc).map _
  | createMany collection docs => exact (createMany_course now collection docs).map _
  | upsertOne collection doc key => exact (upsertOne_course now collection doc key).map _
  | find collection query limit skip sort =>
    exact (find_course collection query limit skip sort).map _
  | findOne collection query sort =>
    refine hdatabase fun db => steady_bind (steady_liftFault _) fun query =>
      steady_bind (steady_lift _) fun keys => ?_
    exact steady_bind (steady_send _ _ _) fun r => steady_bind (steady_liftFault _) fun _ =>
      steady_pure _
  | findById collection id =>
    refine hdatabase fun db => steady_bind (steady_send _ _ _) fun r => ?_
    exact steady_bind (steady_liftFault _) fun _ => steady_pure _
  | count collection query =>
    refine hdatabase fun db => steady_bind (steady_liftFault _) fun query => ?_
    exact steady_bind (steady_send _ _ _) fun r => steady_pure _
  | updateOne collection doc =>
    refine course_bind_liftFault fun fs _ => ?_
    split
    . exact course_throw _
    . exact hdatabase fun db => steady_bind (steady_send _ _ _) fun r => steady_pure _
  | updateMany collection query patch =>
    refine hdatabase fun db => steady_bind (steady_liftFault _) fun prepared => ?_
    refine steady_bind (steady_objectFields patch) fun fs => ?_
    exact steady_bind (steady_send _ _ _) fun r => steady_pure _
  | deleteOne collection id =>
    exact hdatabase fun db => steady_bind (steady_send _ _ _) fun r => steady_pure _
  | deleteMany collection query =>
    refine hdatabase fun db => steady_bind (steady_liftFault _) fun query => ?_
    exact steady_bind (steady_send _ _ _) fun r => steady_pure _

end DocStore.Remote

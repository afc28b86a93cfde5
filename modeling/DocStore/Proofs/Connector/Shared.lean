import DocStore.Connector.Shared
import DocStore.Proofs.Work

/-!
This module contains what becomes of the connector that a process shares when its settings change. A
connector to a server is that of the settings in force when it is made. But there is one engine for
all of the process, which stays in the directory that the settings named when it was made, whatever
they say when the connector is made anew.
-/

namespace DocStore

def Settings.place? (s : Settings) : Option String :=
  s.storageDirectory.toOption.map fun d => String.ofList (Path.tidy d.toList)

def Settings.session (s : Settings) : Except Fault Remote.Session :=
  Remote.Session.ofSettings s.serverUrl s.databaseName s.serverOptions

namespace Shared

open Work

inductive Event where
  | configure (name : String) (v : Value)
  | obstruct (obstacle : String → Option Fault)
  | connector
  | storage
  | reset

/-- What is shared after an event, also if it fails. -/
def next (s : Shared) : Event → Shared
  | .configure name v => (configure name v s).2
  | .obstruct obstacle => { s with obstacle }
  | .connector => (connector s).2
  | .storage => (storage s).2
  | .reset => (reset s).2

def run (s : Shared) (events : List Event) : Shared := events.foldl next s

section

variable {s s' : Shared} {i : Nat}

theorem liftFault_ok_bind {α β : Type} (a : α) (f : α → Sharing β) (s : Shared)
    : (liftFault (.ok a) >>= f) s = f a s := rfl

theorem liftFault_error_bind {α β : Type} (kind : Fault) (f : α → Sharing β) (s : Shared)
    : (liftFault (.error kind : Except Fault α) >>= f) s = (.error (.fault kind), s) := rfl

theorem keep_bind {β : Type} (c : Connector) (f : Nat → Sharing β) (s : Shared)
    : (keep c >>= f) s = f s.made.length { s with made := s.made ++ [c] } := rfl

theorem configure_eq (name : String) (v : Value) (s : Shared)
    : ∃ settings, (configure name v s).2 = { s with settings } := by
  unfold configure
  rw [get_bind]
  cases s.settings.set name v with
  | ok settings => exact ⟨settings, rfl⟩
  | error kind => exact ⟨s.settings, rfl⟩

def IsBarred (s : Shared) (d : String) : Prop :=
  '\x00' ∈ d.toList ∨ (s.obstacle (String.ofList (Path.tidy d.toList))).isSome = true

theorem inDirectory_barred {d : String} (h : s.IsBarred d)
    : ∃ kind, Engine.inDirectory (.text d) s.obstacle = .error kind := by
  unfold Engine.inDirectory
  dsimp only
  split
  . exact ⟨_, rfl⟩
  next hnull =>
    rw [List.contains_iff_mem] at hnull
    obtain ⟨kind, hkind⟩ := Option.isSome_iff_exists.mp (h.resolve_left hnull)
    rw [hkind]
    exact ⟨kind, rfl⟩

theorem inDirectory_free {d : String} (h : ¬ s.IsBarred d)
    : Engine.inDirectory (.text d) s.obstacle =
      .ok (.onEmpty (String.ofList (Path.tidy d.toList))) := by
  unfold IsBarred at h
  rw [not_or, Option.not_isSome_iff_eq_none] at h
  unfold Engine.inDirectory
  dsimp only
  rw [if_neg (by rw [List.contains_iff_mem]; exact h.1), h.2]

def withEngine (s : Shared) (d : String) : Shared :=
  { s with
    made := s.made ++ [.embedded (.onEmpty (String.ofList (Path.tidy d.toList)))]
    engine := some s.made.length }

inductive Stores (s : Shared) : Except Error Nat → Shared → Prop where
  | kept {j} (h : s.engine = some j) : Stores s (.ok j) s
  | made {d} (h : s.engine = none) (place : s.settings.storageDirectory = .ok d)
      (free : ¬ s.IsBarred d) : Stores s (.ok s.made.length) (s.withEngine d)
  | refused {err} (h : s.engine = none)
      (unplaced : ∀ d, s.settings.storageDirectory = .ok d → s.IsBarred d) : Stores s (.error err) s

theorem storage_stores (s : Shared) : Stores s (storage s).1 (storage s).2 := by
  unfold storage
  rw [get_bind]
  cases hengine : s.engine with
  | some j => exact .kept hengine
  | none =>
    dsimp only
    rw [get_bind]
    cases hplace : s.settings.storageDirectory with
    | error kind =>
      rw [liftFault_error_bind]
      exact .refused hengine fun d hd => by rw [hplace] at hd; cases hd
    | ok d =>
      rw [liftFault_ok_bind, get_bind]
      by_cases hbarred : s.IsBarred d
      . obtain ⟨kind, hkind⟩ := inDirectory_barred hbarred
        rw [hkind, liftFault_error_bind]
        refine .refused hengine fun d' hd => ?_
        rw [hplace] at hd
        cases hd
        exact hbarred
      . rw [inDirectory_free hbarred, liftFault_ok_bind, keep_bind]
        exact .made hengine hplace hbarred

def withServer (s : Shared) (session : Remote.Session) : Shared :=
  { s with made := s.made ++ [.remote { session }], current := some s.made.length }

inductive Connects (s : Shared) : Except Error Nat → Shared → Prop where
  | server {session} (h : s.settings.useServer.isTruthy) (address : s.settings.serverUrl.isTruthy)
      (settings : s.settings.session = .ok session) :
      Connects s (.ok s.made.length) (s.withServer session)
  | noServer {err} (h : s.settings.useServer.isTruthy)
      (refused : s.settings.serverUrl.isTruthy → ∀ session, s.settings.session ≠ .ok session) :
      Connects s (.error err) s
  | engine {i s₁ d} (h : ¬ s.settings.useServer.isTruthy) (stores : Stores s (.ok i) s₁)
      (place : s.settings.storageDirectory = .ok d) :
      Connects s (.ok i) { s₁ with current := some i }
  | unplaced {i s₁ err} (h : ¬ s.settings.useServer.isTruthy) (stores : Stores s (.ok i) s₁)
      (unplaced : ∀ d, s.settings.storageDirectory ≠ .ok d) :
      Connects s (.error err) { s₁ with current := some i }
  | noEngine {err} (h : ¬ s.settings.useServer.isTruthy) (stores : Stores s (.error err) s) :
      Connects s (.error err) s

theorem connector_current (h : s.current = some i) : connector s = (.ok i, s) := by
  unfold connector
  rw [get_bind, h]
  rfl

theorem server_eq (s : Shared)
    : (∃ session, s.settings.serverUrl.isTruthy ∧ s.settings.session = .ok session
        ∧ server s = (.ok s.made.length, { s with made := s.made ++ [.remote { session }] }))
      ∨ (s.settings.serverUrl.isTruthy → ∀ session, s.settings.session ≠ .ok session)
        ∧ ∃ err, server s = (.error err, s) := by
  unfold server
  rw [get_bind]
  dsimp only
  cases haddress : s.settings.serverUrl.isTruthy with
  | false => exact .inr ⟨nofun, _, rfl⟩
  | true =>
    cases hsession : s.settings.session with
    | error kind =>
      refine .inr ⟨nofun, .fault kind, ?_⟩
      unfold Settings.session at hsession
      rw [hsession]
      rfl
    | ok session =>
      refine .inl ⟨session, rfl, rfl, ?_⟩
      unfold Settings.session at hsession
      rw [hsession]
      rfl

theorem connector_connects (h : s.current = none) : Connects s (connector s).1 (connector s).2 := by
  unfold connector
  rw [get_bind, h]
  dsimp only
  by_cases htruthy : s.settings.useServer.isTruthy
  . rw [if_pos htruthy]
    rcases server_eq s with ⟨session, haddress, hsession, hserver⟩ | ⟨hrefused, err, hserver⟩
    . rw [bind_ok hserver]
      exact .server htruthy haddress hsession
    . rw [bind_error hserver]
      exact .noServer htruthy hrefused
  . rw [if_neg htruthy]
    have hstores := storage_stores s
    rcases hstorage : storage s with ⟨r, s₁⟩
    rw [hstorage] at hstores
    cases r with
    | error err =>
      rw [bind_error hstorage]
      cases hstores with
      | refused h unplaced => exact .noEngine htruthy (.refused h unplaced)
    | ok i =>
      rw [bind_ok hstorage, modify_bind]
      cases hplace : s.settings.storageDirectory with
      | error kind =>
        rw [liftFault_error_bind]
        exact .unplaced htruthy hstores fun d hd => by rw [hplace] at hd; cases hd
      | ok d =>
        rw [liftFault_ok_bind]
        exact .engine htruthy hstores hplace

inductive Step (s : Shared) : Shared → Prop where
  | obstructs (obstacle : String → Option Fault) : Step s { s with obstacle }
  | settles (settings : Settings) (current : Option Nat) : Step s { s with settings, current }
  | makes (c : Connector) (current : Option Nat) : Step s { s with made := s.made ++ [c], current }
  | stores {d} (h : s.engine = none) (place : s.settings.storageDirectory = .ok d)
      (current : Option Nat) : Step s { s.withEngine d with current }
  | closes (i : Nat) (current : Option Nat) : Step s
      { s with made := s.made.modify i Connector.close, current }

theorem Stores.step {r : Except Error Nat} (h : Stores s r s') (current : Option Nat)
    : Step s { s' with current } := by
  cases h with
  | kept => exact .settles s.settings current
  | made h place => exact .stores h place current
  | refused => exact .settles s.settings current

theorem reset_eq (s : Shared)
    : reset s = (.ok (), match s.current with
      | none => s
      | some i => { s with made := s.made.modify i Connector.close, current := none }) := rfl

theorem next_step (s : Shared) (event : Event) : Step s (s.next event) := by
  cases event with
  | configure name v =>
    obtain ⟨settings, h⟩ := configure_eq name v s
    change Step s (configure name v s).2
    rw [h]
    exact .settles settings s.current
  | obstruct obstacle => exact .obstructs obstacle
  | storage => exact (storage_stores s).step (storage s).2.current
  | reset =>
    change Step s (reset s).2
    rw [reset_eq]
    cases s.current with
    | none => exact .settles s.settings s.current
    | some i => exact .closes i none
  | connector =>
    change Step s (connector s).2
    cases hcurrent : s.current with
    | some i =>
      rw [connector_current hcurrent]
      exact .settles s.settings s.current
    | none =>
      have hconnects := connector_connects hcurrent
      generalize (connector s).1 = r at hconnects
      generalize (connector s).2 = s' at hconnects
      cases hconnects with
      | server => exact .makes _ _
      | noServer => exact .settles s.settings s.current
      | engine _ stores => exact stores.step _
      | unplaced _ stores => exact stores.step _
      | noEngine => exact .settles s.settings s.current

theorem current_next (h : s.current = some i) {event : Event} (hevent : event ≠ .reset)
    : (s.next event).current = some i := by
  cases event with
  | configure name v =>
    obtain ⟨settings, hs⟩ := configure_eq name v s
    change (configure name v s).2.current = _
    rw [hs]
    exact h
  | obstruct obstacle => exact h
  | storage =>
    have hstores := storage_stores s
    change (storage s).2.current = _
    generalize (storage s).1 = r at hstores
    generalize (storage s).2 = s' at hstores
    cases hstores <;> exact h
  | reset => exact absurd rfl hevent
  | connector =>
    change (connector s).2.current = _
    rw [connector_current h]
    exact h

theorem current_run (h : s.current = some i) {events : List Event} (hevents : .reset ∉ events)
    : (s.run events).current = some i := by
  induction events generalizing s with
  | nil => exact h
  | cons event events ih =>
    rw [List.mem_cons, not_or] at hevents
    exact ih (current_next h (Ne.symm hevents.1)) hevents.2

theorem current_of_connector (h : connector s = (.ok i, s')) : s'.current = some i := by
  cases hcurrent : s.current with
  | some j =>
    rw [connector_current hcurrent] at h
    cases h
    exact hcurrent
  | none =>
    have hconnects := connector_connects hcurrent
    rw [h] at hconnects
    cases hconnects with
    | server => rfl
    | engine => rfl

end

def engineSettings? (s : Shared) : List Event → Option Settings
  | [] => none
  | event :: events =>
    if s.engine.isNone ∧ (s.next event).engine.isSome then some s.settings
    else (s.next event).engineSettings? events

def IsRooted (s : Shared) (old : Settings) : Prop :=
  ∃ j e, s.engine = some j ∧ s.made[j]? = some (.embedded e) ∧ old.place? = some e.disk.root

theorem IsRooted.step {s s' : Shared} {old : Settings} (h : s.IsRooted old) (hs : Step s s')
    : s'.IsRooted old := by
  obtain ⟨j, e, hengine, hmade, hroot⟩ := h
  have hlt := (List.getElem?_eq_some_iff.mp hmade).1
  cases hs with
  | obstructs => exact ⟨j, e, hengine, hmade, hroot⟩
  | settles => exact ⟨j, e, hengine, hmade, hroot⟩
  | makes c current =>
    refine ⟨j, e, hengine, ?_, hroot⟩
    dsimp only
    rw [List.getElem?_append_left hlt, hmade]
  | stores h =>
    rw [hengine] at h
    cases h
  | closes i current =>
    refine ⟨j, ?_⟩
    dsimp only
    rw [List.getElem?_modify, hmade]
    split
    . exact ⟨e.releaseAll, hengine, rfl, hroot⟩
    . exact ⟨e, hengine, rfl, hroot⟩

theorem isRooted_of_made {s s' : Shared} (h : s.engine = none) (h' : s'.engine.isSome)
    (hs : Step s s')
    : s'.IsRooted s.settings := by
  cases hs with
  | obstructs => rw [h] at h'; cases h'
  | settles => rw [h] at h'; cases h'
  | makes => rw [h] at h'; cases h'
  | closes => rw [h] at h'; cases h'
  | @stores d _ place current =>
    refine ⟨s.made.length, _, rfl, List.getElem?_concat_length, ?_⟩
    unfold Settings.place?
    rw [place]
    rfl

theorem IsRooted.run {s : Shared} {old : Settings} (h : s.IsRooted old) (events : List Event)
    : (s.run events).IsRooted old := by
  induction events generalizing s with
  | nil => exact h
  | cons event events ih => exact ih (h.step (s.next_step event))

theorem engineSettings?_run {s : Shared} (h : s.engine = none) (events : List Event)
    : match s.engineSettings? events with
      | none => (s.run events).engine = none
      | some old => (s.run events).IsRooted old := by
  induction events generalizing s with
  | nil => exact h
  | cons event events ih =>
    unfold engineSettings?
    cases hnext : (s.next event).engine with
    | none =>
      rw [if_neg (by simp)]
      exact ih hnext
    | some j =>
      have hmade : (s.next event).engine.isSome := by rw [hnext]; rfl
      rw [if_pos ⟨by rw [h]; rfl, rfl⟩]
      exact (isRooted_of_made h hmade (s.next_step event)).run events

inductive IsFor (s : Settings) : Connector → Prop where
  | remote {state : Remote.State} (h : s.useServer.isTruthy) (url : state.session.url = s.serverUrl)
      (database : state.session.databaseName = s.databaseName)
      (settings : s.session = .ok state.session) : IsFor s (.remote state)
  | embedded {e : Engine} (h : ¬ s.useServer.isTruthy) (place : s.place? = some e.disk.root) :
      IsFor s (.embedded e)

inductive CanConnect (s : Shared) : Prop where
  | server {session} (h : s.settings.useServer.isTruthy) (address : s.settings.serverUrl.isTruthy)
      (settings : s.settings.session = .ok session)
  | engine {d} (h : ¬ s.settings.useServer.isTruthy) (place : s.settings.storageDirectory = .ok d)
      (free : s.engine = none → ¬ s.IsBarred d)

theorem connector_ok_iff {s : Shared} (h : s.current = none)
    : (∃ i s', connector s = (.ok i, s')) ↔ s.CanConnect := by
  have hconnects := connector_connects h
  rcases hconnector : connector s with ⟨r, s'⟩
  rw [hconnector] at hconnects
  constructor
  . rintro ⟨i, s'', heq⟩
    cases heq
    cases hconnects with
    | server h address settings => exact .server h address settings
    | engine h stores place =>
      refine .engine h place fun hnone => ?_
      cases stores with
      | kept hkept =>
        rw [hnone] at hkept
        cases hkept
      | made _ place' free =>
        rw [place] at place'
        cases place'
        exact free
  . intro hcan
    cases hconnects with
    | server => exact ⟨_, _, rfl⟩
    | engine => exact ⟨_, _, rfl⟩
    | noServer h refused =>
      cases hcan with
      | server _ address settings => exact absurd settings (refused address _)
      | engine h' => exact absurd h h'
    | unplaced h _ unplaced =>
      cases hcan with
      | server h' => exact absurd h' h
      | engine _ place => exact absurd place (unplaced _)
    | noEngine h stores =>
      cases hcan with
      | server h' => exact absurd h' h
      | engine _ place free =>
        cases stores with
        | refused hnone unplaced => exact absurd (unplaced _ place) (free hnone)

theorem session_eq {s : Settings} {session : Remote.Session} (h : s.session = .ok session)
    : session.url = s.serverUrl ∧ session.databaseName = s.databaseName := by
  unfold Settings.session Remote.Session.ofSettings at h
  split at h
  . cases hoptions : Document.fieldsOf s.serverOptions with
    | error kind =>
      rw [hoptions] at h
      cases h
    | ok options =>
      rw [hoptions] at h
      cases h
      exact ⟨rfl, rfl⟩
  . cases h
    exact ⟨rfl, rfl⟩

theorem connector_isFor_iff {s s' : Shared} {i : Nat} {made : Option Settings}
    (hmade : match made with | none => s.engine = none | some old => s.IsRooted old)
    (h : s.current = none) (hconnector : connector s = (.ok i, s'))
    : ∃ c, s'.made[i]? = some c ∧ (IsFor s.settings c ↔ s.settings.useServer.isTruthy
        ∨ ∀ old, made = some old → old.place? = s.settings.place?) := by
  have hconnects := connector_connects h
  rw [hconnector] at hconnects
  cases hconnects with
  | @server session h address settings =>
    obtain ⟨hurl, hdatabase⟩ := session_eq settings
    refine ⟨.remote { session }, List.getElem?_concat_length, ?_⟩
    exact iff_of_true (.remote h hurl hdatabase settings) (.inl h)
  | @engine _ _ d h stores place =>
    have hplace : s.settings.place? = some (String.ofList (Path.tidy d.toList)) := by
      unfold Settings.place?
      rw [place]
      rfl
    cases stores with
    -- the engine is the old one, which stands where the old settings wanted it
    | kept hengine =>
      cases made with
      | none =>
        rw [show s.engine = none from hmade] at hengine
        cases hengine
      | some old =>
        obtain ⟨j, e, hengine', he, hroot⟩ := hmade
        rw [hengine] at hengine'
        cases hengine'
        refine ⟨.embedded e, he, ?_⟩
        constructor
        . intro hfor
          cases hfor with
          | embedded _ hcurrent =>
            refine .inr fun old' hold => ?_
            cases hold
            rw [hroot, hcurrent]
        . rintro (hserver | hsame)
          . exact absurd hserver h
          . exact .embedded h ((hsame old rfl).symm.trans hroot)
    | @made d' hengine place' =>
      rw [place] at place'
      cases place'
      refine ⟨_, List.getElem?_concat_length, ?_⟩
      refine iff_of_true (.embedded h hplace) (.inr fun old hold => ?_)
      rw [hold] at hmade
      obtain ⟨j, e, hengine', _⟩ := hmade
      rw [hengine] at hengine'
      cases hengine'

def changes (cs : List (String × Value)) : List Event := cs.map fun c => .configure c.1 c.2

theorem current_changes (s : Shared) (cs : List (String × Value))
    : (s.run (changes cs)).current = s.current := by
  induction cs generalizing s with
  | nil => rfl
  | cons c cs ih =>
    obtain ⟨settings, hs⟩ := configure_eq c.1 c.2 s
    refine (ih (s.next (.configure c.1 c.2))).trans ?_
    change (configure c.1 c.2 s).2.current = _
    rw [hs]

theorem current_reset (s : Shared) : (s.next .reset).current = none := by
  change (reset s).2.current = none
  rw [reset_eq]
  cases hcurrent : s.current with
  | none => exact hcurrent
  | some i => rfl

/--
However the settings change, whatever is asked for before and whichever directories can be made: a
connector that was given is given until the next reset. After a reset one can be had exactly if the
settings in force say where it is, and it is the connector that they ask for exactly if they ask for
a server or the engine of the process, if it was made before, was made when the settings named the
same directory.
-/
theorem connector_follows_settings (settings : Settings) (events : List Event)
    : let s := run { settings } events
      (∀ i s', connector s = (.ok i, s') → ∀ later, .reset ∉ later →
          connector (s'.run later) = (.ok i, s'.run later))
        ∧ (∀ cs, ((s.next .reset).run (changes cs)).current = none)
        ∧ (s.current = none → ((∃ i s', connector s = (.ok i, s')) ↔ s.CanConnect))
        ∧ (s.current = none → ∀ i s', connector s = (.ok i, s') →
            ∃ c, s'.made[i]? = some c ∧ (IsFor s.settings c ↔ s.settings.useServer.isTruthy
              ∨ ∀ old, engineSettings? { settings } events = some old →
                  old.place? = s.settings.place?)) := by
  intro s
  refine ⟨?_, fun cs => (current_changes _ cs).trans s.current_reset, connector_ok_iff, ?_⟩
  . intro i s' hconnector later hlater
    exact connector_current (current_run (current_of_connector hconnector) hlater)
  . intro hcurrent i s' hconnector
    exact connector_isFor_iff (engineSettings?_run rfl events) hcurrent hconnector

def movingEvents : List Event :=
  [.configure "DATA_DIR" (.text "/a"), .connector, .configure "DATA_DIR" (.text "/b"), .reset]

theorem connector_stays_behind
    : let s := run {} movingEvents
      s.current = none
        ∧ s.settings.place? = some "/b/storage"
        ∧ (connector s).1 = .ok 0
        ∧ ∃ e, (connector s).2.made[0]? = some (.embedded e) ∧ e.disk.root = "/a/storage"
          ∧ ¬ IsFor s.settings (.embedded e) := by
  refine ⟨rfl, by decide +kernel, rfl, _, rfl, by decide +kernel, ?_⟩
  intro hfor
  cases hfor with
  | embedded _ hplace => exact absurd hplace (by decide +kernel)

end Shared

end DocStore

/-
Daao.Gateway.OutboundChannels — the outbound channels of all connections,
and who may still find them in the registry (`internal/grpc/gateway.go`,
`Connect`; `internal/stream/registry.go`).

Here a register request may come at any point of a connection or not at
all, its satellite id (the canonical one, if the database knows it) may be
that of another connection, and so may the session ids. Connections then
overwrite and delete each other's entries. What is left is that an entry
for a channel is one its own connection still has to delete: `owed`.

`SendToSession` and `SendToSatellite` look the channel up under the lock
and send after it. In between the connection may end, but `Connect` never
closes its channel.
-/
import Daao.Gateway.Connections
import Daao.Lib.GoChan

namespace Daao.Gateway

open Daao.Lib Daao.Stream Option

namespace Connection

/-- What happens on a connection: a register request, `Connect` returning
without a satellite to unregister, or one of the other events (in which
the register request of `connect` is replaced). -/
inductive Incident where
  | registerRequest (satelliteID : String)
  | returns
  | event (e : Event)

def accepted : Connection := { new with phase := .receiving }

def connectAnyhow (conn : Connection) : Incident → Option (Connection × Effect)
  | .registerRequest satelliteID =>
    match conn.phase with
    | .receiving => some
      ({ conn with phase := .registering, satelliteID := some satelliteID }, .setStatus .active)
    | _ => none
  | .returns =>
    match conn.phase with
    | .cleaningUp [] =>
      if conn.satelliteID.getD "" = "" then some ({ conn with phase := .closed }, .none) else none
    | _ => none
  | .event .register => none
  | .event .cleanupSatellite =>
    if conn.satelliteID.getD "" = "" then none else conn.connect "" .cleanupSatellite
  | .event e => conn.connect "" e

/-- The sessions whose entries the connection is going to delete, unless
they terminate before. -/
def owed (conn : Connection) : List String :=
  match conn.phase with
  | .cleaningUp left => left
  | .opened => []
  | .unregistered => []
  | .closed => []
  | _ => conn.sessionIDs

def owedSatellite (conn : Connection) : Option String :=
  match conn.phase with
  | .opened => none
  | .unregistered => none
  | .closed => none
  | _ => conn.satelliteID

end Connection

structure Outgoing (Msg : Type) where
  registry : StreamRegistry Nat
  conns : Nat → Connection
  channels : Nat → Chan Msg
  /-- sends that have looked their channel up -/
  sending : List (Nat × Msg)

namespace Outgoing

def channelSize : Nat := 100

inductive Act (Msg : Type) where
  | incident (c : Nat) (e : Connection.Incident)
  /-- `Connect` itself: update notices and reconciliations -/
  | announce (c : Nat) (m : Msg)
  | sendToSession (sid : String) (m : Msg)
  | sendToSatellite (satelliteID : String) (m : Msg)
  /-- the `select` of a send -/
  | place (i : Nat)
  /-- the connection's sender goroutine takes a message -/
  | transmit (c : Nat)

variable {Msg : Type}

def start : Outgoing Msg :=
  { registry := .new, conns := fun _ => .accepted, channels := fun _ => .make, sending := [] }

def apply (registry : StreamRegistry Nat) (c : Nat) : Effect → StreamRegistry Nat
  | .registerStream sid => registry.registerStream sid c
  | .unregisterStream sid => registry.unregisterStream sid
  | .registerSatelliteStream id => registry.registerSatelliteStream id c
  | .unregisterSatelliteStream id => registry.unregisterSatelliteStream id
  | .setStatus _ => registry
  | .none => registry

def setChannel (g : Outgoing Msg) (c : Nat) (ch : Chan Msg) : Outgoing Msg :=
  { g with channels := Function.update g.channels c ch }

def beginSend (g : Outgoing Msg) (found : Option Nat) (m : Msg) : Outgoing Msg :=
  { g with sending := g.sending ++ (found.map fun c => (c, m)).toList }

/-- The select of a send; `none` is a panic. -/
def offer (g : Outgoing Msg) (c : Nat) (m : Msg) : Option (Outgoing Msg) :=
  match (g.channels c).trySend channelSize m with
  | .error _ => none
  | .ok ch => some (g.setChannel c ch)

def step (g : Outgoing Msg) : Act Msg → Option (Outgoing Msg)
  | .incident c e => ((g.conns c).connectAnyhow e).map fun res =>
    { g with registry := apply g.registry c res.2, conns := Function.update g.conns c res.1 }
  | .announce c m => g.offer c m
  | .sendToSession sid m => some (g.beginSend (g.registry.sessionStreams sid) m)
  | .sendToSatellite id m => some (g.beginSend (g.registry.satelliteStreams id) m)
  | .place i =>
    match g.sending[i]? with
    | none => none
    | some (c, m) => { g with sending := g.sending.eraseIdx i }.offer c m
  | .transmit c => (g.channels c).receive.map fun res => g.setChannel c res.2

/-- A connection receives at most one register request, with a non-empty
satellite id. -/
def RegistersOnce (g : Outgoing Msg) : Act Msg → Prop
  | .incident c (.registerRequest id) => id ≠ "" ∧ (g.conns c).satelliteID = none
  | _ => True

instance (g : Outgoing Msg) (a : Act Msg) : Decidable (g.RegistersOnce a) := by
  unfold RegistersOnce
  split <;> infer_instance

structure Inv (g : Outgoing Msg) : Prop where
  session : ∀ sid c, g.registry.sessionStreams sid = some c → sid ∈ (g.conns c).owed
  satellite : ∀ id c, g.registry.satelliteStreams id = some c → (g.conns c).owedSatellite = some id
  named : ∀ c, (g.conns c).satelliteID ≠ some ""
  opened : ∀ c, (g.channels c).closed = false

theorem inv_start : Inv (start : Outgoing Msg) := ⟨nofun, nofun, fun _ => nofun, fun _ => rfl⟩

variable {g g' : Outgoing Msg}

theorem exists_offer (h : g.Inv) (c : Nat) (m : Msg) :
    ∃ ch, g.offer c m = some (g.setChannel c ch) ∧ ch.closed = false := by
  refine ⟨(g.channels c).offer channelSize m, ?_, ?_⟩
  · rw [offer, Chan.trySend_of_open (h.opened c)]
  rw [Chan.offer_closed]
  exact h.opened c

theorem inv_setChannel (h : g.Inv) {c : Nat} {ch : Chan Msg} (hch : ch.closed = false) :
    (g.setChannel c ch).Inv := by
  refine { h with opened := fun c' => ?_ }
  by_cases hc : c' = c
  · simpa [setChannel, hc] using hch
  · simpa [setChannel, hc] using h.opened c'

/-- What a connection does to the registry, it does to its own debts. -/
structure Settles (conn conn' : Connection) (eff : Effect) : Prop where
  session : ∀ sid ∈ conn.owed, sid ∈ conn'.owed ∨ eff = .unregisterStream sid
  satellite : ∀ id, conn.owedSatellite = some id →
    conn'.owedSatellite = some id ∨ eff = .unregisterSatelliteStream id
  registered : ∀ sid, eff = .registerStream sid → sid ∈ conn'.owed
  registeredSatellite : ∀ id, eff = .registerSatelliteStream id → conn'.owedSatellite = some id
  named : conn'.satelliteID ≠ some ""

end Outgoing

open Outgoing Connection StreamRegistry

variable {conn : Connection}

theorem settles_handle (h : conn.phase = .receiving)
    (hn : conn.satelliteID ≠ some "") (m : Message) :
    Settles conn (conn.handle m).1 (conn.handle m).2 := by
  cases m <;> constructor <;>
    grind [handle, registerSession, markLive, markTerminating, owed, owedSatellite]

theorem settles_connectAnyhow {n' : Connection} {e : Incident} {eff : Effect}
    (hn : conn.satelliteID ≠ some "")
    (ho : ∀ id, e = .registerRequest id → id ≠ "" ∧ conn.satelliteID = none)
    (h : conn.connectAnyhow e = some (n', eff)) : Settles conn n' eff := by
  cases e with
  | registerRequest id => constructor <;> grind [connectAnyhow, owed, owedSatellite]
  | returns => constructor <;> grind [connectAnyhow, owed, owedSatellite]
  | event e =>
    cases e with
    | message m => grind [connectAnyhow, connect, settles_handle]
    | register | registerSatellite | unregister | disconnect | cleanupSession | cleanupSatellite
      | cleanupStatus =>
      constructor <;> grind [connectAnyhow, connect, owed, owedSatellite]

theorem connectAnyhow_of_closed (h : conn.phase = .closed) (e : Incident) :
    conn.connectAnyhow e = none := by
  rcases e with _ | _ | e
  · simp [connectAnyhow, h]
  · simp [connectAnyhow, h]
  · cases e <;> simp [connectAnyhow, connect, h]

namespace Outgoing

variable {Msg : Type} {g g' : Outgoing Msg}

variable {eff : Effect} {c : Nat}

theorem sessionStreams_apply {r : StreamRegistry Nat} {c' : Nat} {sid : String}
    (h : (apply r c eff).sessionStreams sid = some c') :
    c' = c ∧ eff = .registerStream sid ∨
      r.sessionStreams sid = some c' ∧ eff ≠ .unregisterStream sid := by
  cases eff <;> grind [apply, registerSatelliteStream, unregisterSatelliteStream,
    sessionStreams_registerStream, sessionStreams_unregisterStream]

theorem satelliteStreams_apply {r : StreamRegistry Nat} {c' : Nat} {id : String}
    (h : (apply r c eff).satelliteStreams id = some c') :
    c' = c ∧ eff = .registerSatelliteStream id ∨
      r.satelliteStreams id = some c' ∧ eff ≠ .unregisterSatelliteStream id := by
  cases eff <;> grind [apply, registerStream, unregisterStream,
    satelliteStreams_registerSatelliteStream, satelliteStreams_unregisterSatelliteStream]

theorem inv_incident (h : g.Inv) {n' : Connection} (hs : Settles (g.conns c) n' eff) :
    Inv { g with registry := apply g.registry c eff, conns := Function.update g.conns c n' } := by
  have ⟨hse, hsa, hr, hrs, hn⟩ := hs
  refine { h with session := fun sid c' hc => ?_, satellite := fun id c' hc => ?_, named := ?_ }
  · obtain ⟨rfl, rfl⟩ | ⟨hc, hne⟩ := sessionStreams_apply hc
    · grind
    · grind [h.session sid c' hc]
  · obtain ⟨rfl, rfl⟩ | ⟨hc, hne⟩ := satelliteStreams_apply hc
    · grind
    · grind [h.satellite id c' hc]
  · grind [h.named]

theorem inv_step {a : Act Msg} (h : g.Inv) (hon : g.RegistersOnce a) (hs : g.step a = some g') :
    g'.Inv := by
  cases a with
  | incident c e =>
    obtain ⟨⟨n', eff⟩, hr, rfl⟩ := map_eq_some_iff.mp hs
    refine inv_incident h (settles_connectAnyhow (h.named c) (fun id he => ?_) hr)
    subst he
    exact hon
  | announce c m =>
    obtain ⟨ch, ho, hch⟩ := exists_offer h c m
    exact some.inj (ho.symm.trans hs) ▸ inv_setChannel h hch
  | sendToSession s m => exact some.inj hs ▸ { h with }
  | sendToSatellite id m => exact some.inj hs ▸ { h with }
  | place i =>
    simp only [step] at hs
    split at hs
    · cases hs
    rename_i c m _
    have h' : Inv { g with sending := g.sending.eraseIdx i } := { h with }
    obtain ⟨ch, ho, hch⟩ := exists_offer h' c m
    exact some.inj (ho.symm.trans hs) ▸ inv_setChannel h' hch
  | transmit c =>
    obtain ⟨r, hr, rfl⟩ := map_eq_some_iff.mp hs
    refine inv_setChannel h ?_
    have := h.opened c
    grind [Chan.receive]

theorem closed_step {a : Act Msg} (hc : (g.conns c).phase = .closed)
    (hs : g.step a = some g') : (g'.conns c).phase = .closed := by
  cases a with
  | incident c' e =>
    obtain ⟨r, hr, rfl⟩ := map_eq_some_iff.mp hs
    -- nothing happens any more on a connection that has returned
    have hne : c ≠ c' := by
      rintro rfl
      rw [connectAnyhow_of_closed hc e] at hr
      cases hr
    simpa [hne] using hc
  | announce | sendToSession | sendToSatellite | place | transmit =>
    grind [step, offer, setChannel, beginSend, map_eq_some_iff]

variable {acts later : List (Act Msg)}

theorem inv_run (ho : Along step RegistersOnce start acts) (hr : run step start acts = some g) :
    g.Inv :=
  run_invariant_along (fun _ _ _ => inv_step) inv_start ho hr

/-- **A connection that has returned is not found any more.** Whatever
connections receive, each with at most one register request, from when
`Connect` has returned on no entry of the registry refers to its channel.
And every send that has looked a channel up gets past its `select`. -/
theorem unreferenced_of_closed {c : Nat} (hone : Along step RegistersOnce start (acts ++ later))
    (hrun : run step start acts = some g) (hclosed : (g.conns c).phase = .closed)
    (hlater : run step g later = some g') :
    (∀ sid, g'.registry.sessionStreams sid ≠ some c) ∧
      (∀ id, g'.registry.satelliteStreams id ≠ some c) ∧
      ∀ i < g'.sending.length, (g'.step (.place i)).isSome = true := by
  have hin : g'.Inv := inv_run hone (by rw [run_append, hrun, bind_some, hlater])
  have hp : (g'.conns c).phase = .closed :=
    run_invariant (fun _ _ _ hc => closed_step hc) hclosed hlater
  refine ⟨fun sid hs => ?_, fun id hid => ?_, fun i hi => ?_⟩
  · have := hin.session sid c hs
    simp [owed, hp] at this
  · have := hin.satellite id c hid
    simp [owedSatellite, hp] at this
  have h' : Inv { g' with sending := g'.sending.eraseIdx i } := { hin with }
  obtain ⟨ch, ho, -⟩ := exists_offer h' g'.sending[i].1 g'.sending[i].2
  simp [step, hi, ho]

/-- Two connections register as one satellite and hear of one session. The
second overwrites the entries and the first, returning, deletes them; a
send that found the first channel before is still placed. -/
def takenOver : List (Act Nat) :=
  [.incident 0 (.registerRequest "sat"), .incident 0 (.event .registerSatellite),
    .incident 0 (.event (.message (.terminalData "s"))), .sendToSession "s" 5,
    .incident 1 (.registerRequest "sat"), .incident 1 (.event .registerSatellite),
    .incident 1 (.event (.message (.terminalData "s"))), .incident 0 (.event .disconnect),
    .incident 0 (.event (.cleanupSession "s")), .incident 0 (.event .cleanupSatellite),
    .incident 0 (.event .cleanupStatus)]

theorem unreferenced_takenOver :
    ∃ g, run step start takenOver = some g ∧ (g.conns 0).phase = .closed ∧
      (∀ sid, g.registry.sessionStreams sid ≠ some 0) ∧
      (∀ id, g.registry.satelliteStreams id ≠ some 0) ∧
      ∀ i < g.sending.length, (g.step (.place i)).isSome = true :=
  ⟨_, rfl, rfl, unreferenced_of_closed
    (show Along step RegistersOnce start (takenOver ++ []) by decide) rfl rfl rfl⟩

/-- An empty satellite id is registered, but not unregistered. -/
example : (run step (start : Outgoing Nat) [.incident 0 (.registerRequest ""),
    .incident 0 (.event .registerSatellite), .incident 0 (.event .disconnect),
    .incident 0 .returns]).map (·.registry.satelliteStreams "") = some (some 0) := rfl

end Outgoing

end Daao.Gateway

/-
Daao.Gateway.ConnectionsTheorems — which connection of a satellite the
stream registry points to.

The newest registered connection should own the satellite's entry, the
entries of its sessions, and the status. Nothing in the registry protects
them: an older connection's cleanup deletes the entries by key and writes
`offline`, whoever made them. §1 is about one connection's own variables,
§2 about the shared state under another connection's access, and §3 puts
the two together into the ownership invariant.
-/
import Daao.Gateway.Connections

namespace Daao.Gateway

open Daao.Lib Daao.Stream

namespace Connection

/-! ## 1. One connection -/

def isReceiving (conn : Connection) : Bool :=
  match conn.phase with
  | .receiving | .terminating _ => true
  | _ => false

/-- The register request has at least updated the `satellites` row, and
the connection has not been lost. -/
def isActive (conn : Connection) : Bool :=
  match conn.phase with
  | .registering | .receiving | .terminating _ => true
  | _ => false

def isRegistered (conn : Connection) : Bool :=
  match conn.phase with
  | .opened | .registering => false
  | _ => conn.satelliteID.isSome

theorem isActive_of_isReceiving {conn : Connection} (h : conn.isReceiving = true) :
    conn.isActive = true := by
  unfold isReceiving at h
  unfold isActive
  split at h <;> simp_all

def ignores (conn : Connection) : Event → Bool
  | .message (.agentEvent sid) | .message (.ipcEvent sid) =>
    sid ≠ "" ∧ sid ∉ conn.sessionIDs
  | _ => false

/-- `sessionIDs` are the live sessions, and one more while its termination
is being handled. -/
def Tracks (satellite : String) (conn : Connection) : Prop :=
  match conn.phase with
  | .opened => conn.sessionIDs = [] ∧ conn.live = []
  | .registering => conn.satelliteID = some satellite ∧ conn.sessionIDs = [] ∧ conn.live = []
  | .receiving =>
    conn.satelliteID = some satellite ∧ ∀ sid, sid ∈ conn.live ↔ sid ∈ conn.sessionIDs
  | .terminating x =>
    conn.satelliteID = some satellite ∧ ∀ sid, sid ∈ conn.live ↔ sid ∈ conn.sessionIDs ∧ sid ≠ x
  | .cleaningUp _ | .unregistered => conn.satelliteID = some satellite
  | .closed => True

variable {satellite : String} {conn conn' : Connection} {e : Event} {eff : Effect}

/-- What holds of a message's outcome: the connection still tracks its
sessions and receives, and each session that is live afterwards was live
before or is registered by this very message. -/
structure Accounts (satellite : String) (conn : Connection) (res : Connection × Effect) : Prop where
  tracks : Tracks satellite res.1
  receiving : res.1.isReceiving = true
  effect : res.2 = .none ∨ res.2 = .setStatus .active ∨ ∃ sid, res.2 = .registerStream sid
  live : ∀ sid ∈ res.1.live, res.2 = .registerStream sid ∨ sid ∈ conn.live

section

variable {sessionIDs live : List String} (hlive : ∀ sid, sid ∈ live ↔ sid ∈ sessionIDs)

include hlive

theorem accounts_quiet {eff : Effect} (he : eff = .none ∨ eff = .setStatus .active) :
    Accounts satellite ⟨.receiving, some satellite, sessionIDs, live⟩
      (⟨.receiving, some satellite, sessionIDs, live⟩, eff) :=
  ⟨⟨rfl, hlive⟩, rfl, he.imp_right .inl, fun _ => .inr⟩

theorem accounts_event {sid : String} (hs : sid = "" ∨ sid ∈ sessionIDs) :
    Accounts satellite ⟨.receiving, some satellite, sessionIDs, live⟩
      (markLive ⟨.receiving, some satellite, sessionIDs, live⟩ sid, .none) := by
  unfold markLive
  split
  · exact accounts_quiet hlive (.inl rfl)
  refine ⟨⟨rfl, fun s' => ?_⟩, rfl, .inl rfl, fun s' h => .inr ?_⟩
  · grind
  · grind

theorem accounts_data (sid : String) :
    let conn : Connection := ⟨.receiving, some satellite, sessionIDs, live⟩
    Accounts satellite conn
      ((conn.registerSession sid).1.markLive sid, (conn.registerSession sid).2) := by
  simp only [registerSession]
  by_cases he : sid = ""
  · simpa [he] using accounts_event hlive (.inl he)
  by_cases hm : sid ∈ sessionIDs
  · simpa [he, hm] using accounts_event hlive (.inr hm)
  rw [if_neg he, if_neg hm, markLive, if_neg he]
  refine ⟨⟨rfl, fun sid' => by simp [hlive]⟩, rfl, .inr (.inr ⟨sid, rfl⟩), fun sid' h => ?_⟩
  exact (List.mem_cons.mp h).imp_left fun heq => by rw [heq]

theorem accounts_terminated (sid : String) :
    let conn : Connection := ⟨.receiving, some satellite, sessionIDs, live⟩
    Accounts satellite conn
      ((conn.registerSession sid).1.markTerminating sid, (conn.registerSession sid).2) := by
  simp only [registerSession, markTerminating]
  have hold : ∀ sid', sid' ∈ live.filter (· ≠ sid) → sid' ∈ live := fun _ => List.mem_of_mem_filter
  split
  · exact ⟨⟨rfl, by simp [hlive]⟩, rfl, .inl rfl, fun sid' h => .inr (hold sid' h)⟩
  split
  · exact ⟨⟨rfl, by simp [hlive]⟩, rfl, .inl rfl, fun sid' h => .inr (hold sid' h)⟩
  refine ⟨⟨rfl, fun sid' => ?_⟩, rfl, .inr (.inr ⟨sid, rfl⟩), fun sid' h => .inr (hold sid' h)⟩
  simp only [List.mem_filter, hlive, List.mem_cons, decide_eq_true_eq]
  tauto

theorem accounts_handle {m : Message}
    (hi : ignores ⟨.receiving, some satellite, sessionIDs, live⟩ (.message m) = false) :
    Accounts satellite ⟨.receiving, some satellite, sessionIDs, live⟩
      (handle ⟨.receiving, some satellite, sessionIDs, live⟩ m) := by
  cases m with
  | terminalData sid | bufferReplay sid => exact accounts_data hlive sid
  | sessionStateUpdate sid s =>
    simp only [handle]
    split
    · exact accounts_terminated hlive sid
    · exact accounts_data hlive sid
  | agentEvent sid | ipcEvent sid =>
    refine accounts_event hlive ?_
    simpa [ignores, or_iff_not_imp_left] using hi
  | heartbeatPing => exact accounts_quiet hlive (.inr rfl)
  | telemetryReport | contextFileUpdate => exact accounts_quiet hlive (.inl rfl)

end

/-- What holds of every event's outcome. `active`, `receiving` and `live`
say by which access a connection comes to be so, if it was not before;
`registered` and `unregistered` are about the order of register requests. -/
structure EventSpec (satellite : String) (conn conn' : Connection) (eff : Effect) : Prop where
  tracks : Tracks satellite conn'
  active : conn'.isActive = true →
    eff = .setStatus .active ∨ (conn.isActive = true ∧ eff ≠ .setStatus .offline)
  receiving : conn'.isReceiving = true →
    eff = .registerSatelliteStream satellite ∨
      (conn.isReceiving = true ∧ ∀ sat, eff ≠ .registerSatelliteStream sat
        ∧ eff ≠ .unregisterSatelliteStream sat)
  live : conn'.isReceiving = true → ∀ sid ∈ conn'.live,
    eff = .registerStream sid ∨
      (conn.isReceiving = true ∧ sid ∈ conn.live ∧ eff ≠ .unregisterStream sid)
  registered : conn.isRegistered = true → conn'.isRegistered = true
  unregistered : conn'.isRegistered = false → eff = .none ∨ eff = .setStatus .active

theorem satelliteID_of_isReceiving (ht : Tracks satellite conn)
    (h : conn.isReceiving = true) : conn.satelliteID = some satellite := by
  unfold isReceiving at h
  unfold Tracks at ht
  split at h <;> simp_all

theorem isRegistered_of_isReceiving (ht : Tracks satellite conn)
    (h : conn.isReceiving = true) : conn.isRegistered = true := by
  have hs := satelliteID_of_isReceiving ht h
  unfold isReceiving at h
  unfold isRegistered
  split at h <;> simp_all

theorem spec_message {r : Connection × Effect} (hp : conn.phase = .receiving)
    (h : Accounts satellite conn r) : EventSpec satellite conn r.1 r.2 := by
  have hr : conn.isReceiving = true := by simp [isReceiving, hp]
  have hre : r.1.isRegistered = true := isRegistered_of_isReceiving h.tracks h.receiving
  refine ⟨h.tracks, fun _ => ?_, fun _ => ?_, fun _ sid hs => ?_, fun _ => hre, ?_⟩
  · grind [h.effect, isActive_of_isReceiving]
  · grind [h.effect]
  · grind [h.live, h.effect]
  intro hn
  simp [hre] at hn

theorem spec_of_not_isActive (ht : Tracks satellite conn') (ha : conn'.isActive = false)
    (hre : conn.isRegistered = true → conn'.isRegistered = true)
    (hu : conn'.isRegistered = false → eff = .none) : EventSpec satellite conn conn' eff := by
  have hr : ¬ conn'.isReceiving = true := by
    intro h
    rw [isActive_of_isReceiving h] at ha
    cases ha
  exact ⟨ht, by simp [ha], fun h => absurd h hr, fun h => absurd h hr, hre, fun h => .inl (hu h)⟩

theorem connect_spec (ht : Tracks satellite conn) (hi : conn.ignores e = false)
    (h : conn.connect satellite e = some (conn', eff)) : EventSpec satellite conn conn' eff := by
  obtain ⟨p, t, sessionIDs, live⟩ := conn
  cases e <;> simp only [connect] at h
  case register =>
    split at h <;> cases h
    exact ⟨⟨rfl, ht⟩, fun _ => .inl rfl, nofun, nofun, nofun, fun _ => .inr rfl⟩
  case registerSatellite =>
    split at h <;> cases h
    obtain ⟨⟨⟩, rfl, rfl⟩ := ht
    exact ⟨⟨rfl, fun _ => .rfl⟩, fun _ => .inr ⟨rfl, nofun⟩, fun _ => .inl rfl, fun _ _ => nofun,
      nofun, nofun⟩
  case message m =>
    split at h
    · obtain ⟨⟨⟩, hlive⟩ := ht
      have hs := spec_message rfl (accounts_handle hlive hi)
      rw [Option.some.injEq] at h
      rwa [h] at hs
    · cases h
  case unregister =>
    split at h <;> cases h
    obtain ⟨⟨⟩, hlive⟩ := ht
    refine ⟨⟨rfl, fun s' => by simp [hlive]⟩, fun _ => .inr ⟨rfl, nofun⟩,
      fun _ => .inr ⟨rfl, fun _ => ⟨nofun, nofun⟩⟩, fun _ s' hsi' => ?_, fun _ => rfl, nofun⟩
    -- the session that is unregistered is not live
    have hne := ((hlive s').mp hsi').2
    exact .inr ⟨rfl, hsi', by simpa using symm hne⟩
  case disconnect =>
    split at h <;> cases h
    · exact spec_of_not_isActive trivial rfl nofun fun _ => rfl
    · exact spec_of_not_isActive ht.1 rfl (fun h => h) fun _ => rfl
  case cleanupSession sid =>
    split at h
    · split at h <;> cases h
      obtain ⟨⟩ := ht
      exact spec_of_not_isActive rfl rfl (fun h => h) nofun
    · cases h
  case cleanupSatellite =>
    split at h <;> cases h
    exact spec_of_not_isActive ht rfl (fun h => h) nofun
  case cleanupStatus =>
    split at h <;> cases h
    obtain ⟨⟩ := ht
    exact spec_of_not_isActive trivial rfl (fun h => h) nofun

end Connection

/-! ## 2. Another connection's access -/

/-- The access would take something from a newer connection: its status,
the satellite's entry, or the entry of one of its live sessions. -/
def Effect.disturbs (newer : Connection) : Effect → Bool
  | .none => false
  | .setStatus status => status = .offline ∧ newer.isActive
  | .registerStream sid | .unregisterStream sid => newer.isReceiving ∧ sid ∈ newer.live
  | .registerSatelliteStream _ | .unregisterSatelliteStream _ => newer.isReceiving

variable {n : Nat} {satellite : String} {g g' : State n} {a : Act n}

theorem access_undisturbed {w : Connection} {eff : Effect} (h : eff.disturbs w = false)
    (g : State n) (d : Fin n) :
    (w.isActive = true → g.status ≠ .offline → (g.access d eff).status ≠ .offline)
      ∧ (w.isReceiving = true →
          (g.access d eff).registry.satelliteStreams = g.registry.satelliteStreams
          ∧ ∀ sid ∈ w.live,
            (g.access d eff).registry.sessionStreams sid = g.registry.sessionStreams sid) := by
  cases eff with
  | none => exact ⟨fun _ h => h, fun _ => ⟨rfl, fun _ _ => rfl⟩⟩
  | setStatus status =>
    refine ⟨fun ha _ => ?_, fun _ => ⟨rfl, fun _ _ => rfl⟩⟩
    show status ≠ .offline
    simpa [Effect.disturbs, ha] using h
  | registerStream sid | unregisterStream sid =>
    refine ⟨fun _ h => h, fun hr => ⟨rfl, fun s' hs' => ?_⟩⟩
    have hne : s' ≠ sid := by rintro rfl; simp [Effect.disturbs, hr, hs'] at h
    simp [State.access, hne]
  | registerSatelliteStream t | unregisterSatelliteStream t =>
    exact ⟨fun _ h => h, fun hr => by simp [Effect.disturbs, hr] at h⟩

/-! ## 3. Ownership -/

/-- No connection opened later has processed a register request. -/
def Leads (g : State n) (c : Fin n) : Prop :=
  ∀ d, c < d → (g.conns d).isRegistered = false

/-- What the newest registered connection has as long as it is receiving:
the satellite's entry, the entries of its live sessions, and a status that
is not `offline`. -/
def NewestOwns (satellite : String) (g : State n) : Prop :=
  ∀ c, Leads g c → (g.conns c).isReceiving = true →
    g.registry.satelliteStreams satellite = some c
      ∧ (∀ sid ∈ (g.conns c).live, g.registry.sessionStreams sid = some c)
      ∧ g.status ≠ .offline

/-- No access disturbs a connection opened later, and no agent or IPC
event comes from a session that its connection has not registered. -/
def Undisturbed (satellite : String) (g : State n) (a : Act n) : Prop :=
  (g.conns a.conn).ignores a.event = false
    ∧ ∀ res ∈ (g.conns a.conn).connect satellite a.event,
        ∀ c, a.conn < c → res.2.disturbs (g.conns c) = false

instance decidableUndisturbed (satellite : String) (g : State n) (a : Act n) :
    Decidable (Undisturbed satellite g a) :=
  inferInstanceAs (Decidable (_ ∧ _))

/-- The invariant: the status is kept from the register request's first
update on, so it is stated for connections that are still registering. -/
structure Owns (satellite : String) (g : State n) : Prop where
  tracks : ∀ c, (g.conns c).Tracks satellite
  status : ∀ c, Leads g c → (g.conns c).isActive = true → g.status ≠ .offline
  owns : ∀ c, Leads g c → (g.conns c).isReceiving = true →
    g.registry.satelliteStreams satellite = some c
      ∧ ∀ sid ∈ (g.conns c).live, g.registry.sessionStreams sid = some c

theorem owns_start (satellite : String) (s : SatelliteStatus) :
    Owns satellite (State.start s : State n) := by
  exact ⟨fun _ => ⟨rfl, rfl⟩, fun _ _ => nofun, fun _ _ => nofun⟩

theorem owns_step_self {conn' : Connection} {eff : Effect} {c : Fin n} (h : Owns satellite g)
    (hs : (g.conns c).EventSpec satellite conn' eff) (hl : Leads g c) :
    (conn'.isActive = true → (g.access c eff).status ≠ .offline)
      ∧ (conn'.isReceiving = true → (g.access c eff).registry.satelliteStreams satellite = some c
          ∧ ∀ sid ∈ conn'.live, (g.access c eff).registry.sessionStreams sid = some c) := by
  refine ⟨fun ha => ?_, fun hr => ⟨?_, fun sid hsi => ?_⟩⟩
  · rcases hs.active ha with rfl | ⟨hold, hne⟩
    · exact SatelliteStatus.noConfusion
    have hst := h.status c hl hold
    cases eff with
    | setStatus status => exact fun heq => hne (congrArg Effect.setStatus heq)
    | _ => exact hst
  · rcases hs.receiving hr with rfl | ⟨hold, hne⟩
    · simp [State.access]
    have hsa := (h.owns c hl hold).1
    cases eff with
    | registerSatelliteStream s => exact absurd rfl (hne s).1
    | unregisterSatelliteStream s => exact absurd rfl (hne s).2
    | _ => exact hsa
  rcases hs.live hr sid hsi with rfl | ⟨hold, hlive, hne⟩
  · simp [State.access]
  have hsi' := (h.owns c hl hold).2 sid hlive
  cases eff with
  | registerStream sid₁ =>
    show (g.registry.registerStream sid₁ c).sessionStreams sid = some c
    rw [StreamRegistry.sessionStreams_registerStream]
    split
    · rfl
    · exact hsi'
  | unregisterStream sid₁ =>
    have hsn : sid ≠ sid₁ := by rintro rfl; exact hne rfl
    show (g.registry.unregisterStream sid₁).sessionStreams sid = some c
    rw [StreamRegistry.sessionStreams_unregisterStream, if_neg hsn]
    exact hsi'
  | _ => exact hsi'

theorem step_eq_some (h : step satellite g a = some g') :
    ∃ conn' eff, (g.conns a.conn).connect satellite a.event = some (conn', eff)
      ∧ g'.conns a.conn = conn' ∧ (∀ c, c ≠ a.conn → g'.conns c = g.conns c)
      ∧ g'.registry = (g.access a.conn eff).registry ∧
        g'.status = (g.access a.conn eff).status := by
  obtain ⟨⟨conn', eff⟩, hco, rfl⟩ := Option.map_eq_some_iff.mp h
  exact ⟨conn', eff, hco, Function.update_self .., fun c hc => Function.update_of_ne hc ..,
    rfl, rfl⟩

theorem owns_step (h : Owns satellite g) (hok : Undisturbed satellite g a)
    (hst : step satellite g a = some g') : Owns satellite g' := by
  obtain ⟨conn', eff, hco, hse, ho, hre, hsa⟩ := step_eq_some hst
  have hs := Connection.connect_spec (h.tracks a.conn) hok.1 hco
  -- a connection that leads afterwards has led before
  have hle : ∀ c, Leads g' c → Leads g c := by
    intro c hc d hd
    have haf := hc d hd
    by_cases hda : d = a.conn
    · grind [hs.registered]
    · rwa [ho d hda] at haf
  -- and no other connection's access disturbs it
  have hq : ∀ c, c ≠ a.conn → Leads g' c → eff.disturbs (g.conns c) = false := by
    intro c hc hl
    rcases Nat.lt_or_gt_of_ne (Fin.val_ne_of_ne hc) with hlt | hgt
    · have hu := hl a.conn hlt
      rw [hse] at hu
      rcases hs.unregistered hu with rfl | rfl <;> rfl
    · exact hok.2 _ hco c hgt
  refine ⟨fun c => ?_, fun c hl ha => ?_, fun c hl hr => ?_⟩
  · grind [hs.tracks, h.tracks]
  · rw [hsa]
    by_cases hc : c = a.conn
    · subst hc
      rw [hse] at ha
      exact (owns_step_self h hs (hle _ hl)).1 ha
    · grind [h.status, access_undisturbed]
  rw [hre]
  by_cases hc : c = a.conn
  · subst hc
    rw [hse] at hr ⊢
    exact (owns_step_self h hs (hle _ hl)).2 hr
  rw [ho c hc] at hr ⊢
  obtain ⟨hsat, hss⟩ := (access_undisturbed (hq c hc hl) g a.conn).2 hr
  obtain ⟨hsat₀, hss₀⟩ := h.owns c (hle c hl) hr
  exact ⟨(congrFun hsat satellite).trans hsat₀, fun sid hsi => (hss sid hsi).trans (hss₀ sid hsi)⟩

/-- **Ownership of the registry.** In every run in which no access of an
older connection disturbs a newer one, the newest registered connection
has the satellite's entry, its sessions' entries and a status that is not
`offline`, for as long as it is receiving. -/
theorem newestOwns_of_undisturbed (satellite : String) (status : SatelliteStatus)
    (acts : List (Act n)) {g : State n}
    (hok : Along (step satellite) (Undisturbed satellite) (State.start status) acts)
    (hrun : run (step satellite) (State.start status) acts = some g) : NewestOwns satellite g := by
  have h : Owns satellite g :=
    run_invariant_along (fun _ _ _ => owns_step) (owns_start satellite status) hok hrun
  intro c hl hr
  obtain ⟨hsa, hs⟩ := h.owns c hl hr
  exact ⟨hsa, hs, h.status c hl (Connection.isActive_of_isReceiving hr)⟩

def wholeLife (c : Fin n) : List (Act n) :=
  [⟨c, .register⟩, ⟨c, .registerSatellite⟩, ⟨c, .message (.terminalData "s")⟩, ⟨c, .disconnect⟩,
    ⟨c, .cleanupSession "s"⟩, ⟨c, .cleanupSatellite⟩, ⟨c, .cleanupStatus⟩]

theorem newestOwns_reconnect :
    ∃ g : State 2, run (step "sat") (State.start .pending)
        (wholeLife 0 ++ (wholeLife 1).take 3) = some g ∧ NewestOwns "sat" g := by
  exact ⟨_, rfl, newestOwns_of_undisturbed "sat" .pending (wholeLife 0 ++ (wholeLife 1).take 3)
    (by decide) rfl⟩

/-- The second connection registers while the first is still open; then
the first one's cleanup runs. -/
theorem newest_loses_registry :
    ∃ g : State 2, run (step "sat") (State.start .pending)
        ((wholeLife 0).take 3 ++ (wholeLife 1).take 3 ++ (wholeLife 0).drop 3) = some g
      ∧ ¬ NewestOwns "sat" g := by
  refine ⟨_, rfl, fun h => ?_⟩
  obtain ⟨hs, -, -⟩ := h 1 (fun d hd => by omega) rfl
  cases hs

end Daao.Gateway

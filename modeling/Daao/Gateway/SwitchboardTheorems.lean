/-
Daao.Gateway.SwitchboardTheorems — what keeps the sessions of one satellite
apart from the others.

Nothing in the gateway does. A satellite that names a session of another
one gets the terminal input for it, and writes its ring buffer, its state
and its run's events. What holds of every run is that a satellite gets at
a session only by naming it, and that the commands which are sent to the
satellite in the session's row reach no other.
-/
import Daao.Gateway.Switchboard

namespace Daao.Gateway

open Daao.Lib Daao.Database Daao.Sessions Daao.Stream List Option Function AgentRuns
open StreamRegistry

variable {Id Run : Type}

/-! ## 1. Connections -/

/-- What an access rests on: the session id was in a message, the satellite
id is one the connection was registered under. -/
def Access.Due (parse : String → Option Id) (heard registeredAs : List String) : Access Id → Prop
  | .registerSatelliteStream key => key ∈ registeredAs
  | .unregisterSatelliteStream _ => True
  | .registerStream sid => sid ∈ heard
  | .unregisterStream sid => sid ∈ heard
  | .writeBuffer sid _ => sid ∈ heard
  | .removeBuffer sid => sid ∈ heard
  | .getSession sid _ => sid ∈ heard
  | .updateState sid id _ => sid ∈ heard ∧ parse sid = some id
  | .findRun sid _ => sid ∈ heard

theorem Access.Due.mono {parse : String → Option Id} {heard heard' ra registeredAs' :
    List String} {a : Access Id} (h : a.Due parse heard ra) (hh : heard ⊆ heard')
    (hr : ra ⊆ registeredAs') : a.Due parse heard' registeredAs' := by
  cases a with
  | registerSatelliteStream k => exact hr h
  | unregisterSatelliteStream => trivial
  | updateState => exact ⟨hh h.1, h.2⟩
  | registerStream | unregisterStream | writeBuffer | removeBuffer | getSession | findRun =>
    exact hh h

namespace SatelliteConn

variable {conn : SatelliteConn Id Run} {sid : String}

@[simp] theorem heard_registerSession : (conn.registerSession sid).heard = conn.heard := by
  unfold registerSession
  split <;> rfl

@[simp] theorem registeredAs_registerSession :
    (conn.registerSession sid).registeredAs = conn.registeredAs := by
  unfold registerSession
  split <;> rfl

theorem records_handle (conn : SatelliteConn Id Run) (m : SatelliteMessage) :
    (conn.handle m).heard = conn.heard ∧ (conn.handle m).registeredAs = conn.registeredAs := by
  cases m with
  | terminalData sid d | bufferReplay sid d => simp [handle, storeData, plan]
  | sessionStateUpdate sid t =>
    simp only [handle, updateSession]
    split
    · simp
    · split <;> simp [plan]
  | agentEvent | other => exact ⟨rfl, rfl⟩

variable {parse : String → Option Id} {runs runs' : AgentRuns Run} [DecidableEq Run]

structure Sound (parse : String → Option Id) (runs : AgentRuns Run) (conn : SatelliteConn Id Run) :
    Prop where
  sessionIDs : conn.sessionIDs ⊆ conn.heard
  todo : ∀ a ∈ conn.todo, a.Due parse conn.heard conn.registeredAs
  cached : ∀ sid run, conn.sessionRunMap sid = some run →
    sid ∈ conn.heard ∧ runs.sessionOf run = some sid
  unstored : ∀ p ∈ conn.unstored, ∃ sid ∈ conn.heard, runs.sessionOf p.1 = some sid

theorem sound_new : (new : SatelliteConn Id Run).Sound parse runs where
  sessionIDs _ h := by cases h
  todo _ h := by cases h
  cached _ _ h := by cases h
  unstored _ h := by cases h

section

variable (h : conn.Sound parse runs)

include h

theorem Sound.of_runs (hr : ∀ r sid, runs.sessionOf r = some sid → runs'.sessionOf r = some sid) :
    conn.Sound parse runs' :=
  { h with
    cached := fun sid r hru => (h.cached sid r hru).imp_right (hr r sid)
    unstored := fun p hp => (h.unstored p hp).imp fun sid => .imp_right (hr p.1 sid) }

theorem Sound.plan {acc : List (Access Id)}
    (hd : ∀ a ∈ acc, a.Due parse conn.heard conn.registeredAs) :
    (conn.plan acc).Sound parse runs :=
  { h with todo := fun a ha => (mem_append.mp ha).elim (h.todo a) (hd a) }

section

variable (hsid : sid ∈ conn.heard)

include hsid

theorem Sound.registerSession : (conn.registerSession sid).Sound parse runs := by
  unfold SatelliteConn.registerSession
  split
  · exact h
  have ht : Sound parse runs { conn with sessionIDs := sid :: conn.sessionIDs } :=
    { h with sessionIDs := cons_subset.mpr ⟨hsid, h.sessionIDs⟩ }
  refine ht.plan fun a ha => ?_
  rw [mem_singleton.mp ha]
  exact hsid

theorem Sound.storeData (d : List Buffer.Byte) : (conn.storeData sid d).Sound parse runs := by
  refine (h.registerSession hsid).plan fun a ha => ?_
  split at ha
  · rw [mem_singleton.mp ha]
    simpa [Access.Due] using hsid
  · cases ha

theorem Sound.updateSession
    (t : ProtoState) : (conn.updateSession sid t).Sound parse runs := by
  have hsid' : sid ∈ (conn.registerSession sid).heard := by simpa using hsid
  have hre := h.registerSession hsid
  unfold SatelliteConn.updateSession
  split
  · exact hre
  have hr : Sound parse runs ((conn.registerSession sid).plan
      [.getSession sid (convertProtoToSessionState t)]) := by
    refine hre.plan fun a ha => ?_
    rw [mem_singleton.mp ha]
    exact hsid'
  split
  · -- the session is no longer tracked, and its entries are to be removed
    have hu : Sound parse runs { (conn.registerSession sid).plan
        [.getSession sid (convertProtoToSessionState t)] with
        sessionIDs := (conn.registerSession sid).sessionIDs.filter (· ≠ sid) } :=
      { hr with sessionIDs := fun x hx => hr.sessionIDs (mem_filter.mp hx).1 }
    refine hu.plan fun a ha => ?_
    simp only [mem_cons, not_mem_nil, or_false] at ha
    obtain rfl | rfl := ha <;> exact hsid'
  · exact hr

theorem Sound.countEvent (et : String) (p : List Buffer.Byte) :
    (conn.countEvent sid et p).Sound parse runs := by
  have hc : Sound parse runs { conn with
      agentSeq := update conn.agentSeq sid (conn.agentSeq sid + 1) } := { h with }
  refine hc.plan fun a ha => ?_
  rw [mem_singleton.mp ha]
  exact hsid

end

theorem Sound.receive (m : SatelliteMessage) : (conn.receive m).Sound parse runs := by
  -- the record is longer, which keeps everything that rests on it
  have hh : conn.heard ⊆ m.sid.toList ++ conn.heard := subset_append_right ..
  have hl : Sound parse runs { conn with heard := m.sid.toList ++ conn.heard } :=
    { sessionIDs := fun x hx => hh (h.sessionIDs hx)
      todo := fun a ha => (h.todo a ha).mono hh (.refl _)
      cached := fun sid r hr => (h.cached sid r hr).imp_left fun hsid => hh hsid
      unstored := fun p hp => (h.unstored p hp).imp fun sid => .imp_left fun hsid => hh hsid }
  cases m with
  | terminalData sid data | bufferReplay sid data =>
    exact hl.storeData (by simp [SatelliteMessage.sid]) data
  | sessionStateUpdate sid state => exact hl.updateSession (by simp [SatelliteMessage.sid]) state
  | agentEvent sid eventType payload =>
    exact hl.countEvent (by simp [SatelliteMessage.sid]) eventType payload
  | other => exact hl

theorem Sound.register (k : String) : (conn.register k).Sound parse runs := by
  have hk : conn.registeredAs ⊆ k :: conn.registeredAs := subset_cons_self ..
  have hn : Sound parse runs { conn with
      satelliteID := some k, registeredAs := k :: conn.registeredAs } :=
    { h with todo := fun a ha => (h.todo a ha).mono (.refl _) hk }
  refine hn.plan fun a ha => ?_
  rw [mem_singleton.mp ha]
  exact mem_cons_self

theorem Sound.disconnect {r : List String}
    (ho : r.Perm conn.sessionIDs) : (conn.disconnect r).Sound parse runs := by
  have hc : Sound parse runs { conn with closed := true } := { h with }
  refine hc.plan fun a ha => ?_
  obtain ha | ha := mem_append.mp ha
  · obtain ⟨sid, hsid, rfl⟩ := mem_map.mp ha
    exact h.sessionIDs (ho.subset hsid)
  obtain ⟨k, -, rfl⟩ := map_eq_some_iff.mp (mem_toList.mp ha)
  trivial

theorem Sound.foundRun (hsid : sid ∈ conn.heard) {r : Run}
    (hr : runs.sessionOf r = some sid) (e : SequencedEvent) :
    (conn.foundRun sid r e).Sound parse runs := by
  refine { h with cached := fun i' u' hr' => ?_, unstored := fun p hp => ?_ }
  · by_cases heq : i' = sid
    · subst heq
      simp only [foundRun, update_self, some.injEq] at hr'
      exact hr' ▸ ⟨hsid, hr⟩
    simp only [SatelliteConn.foundRun, update_of_ne heq] at hr'
    exact h.cached i' u' hr'
  obtain hp | hp := mem_append.mp hp
  · exact h.unstored p hp
  rw [mem_singleton.mp hp]
  exact ⟨sid, hsid, hr⟩

end

end SatelliteConn

namespace Switchboard

variable [DecidableEq Run] {parse : String → Option Id} {owner : Id → Option Id} {capacity : Int}
  {s s' : Switchboard Id Run}

/-! ## 2. Records grow -/

/-- The records only grow, and runs keep their sessions. -/
structure Grows (s s' : Switchboard Id Run) : Prop where
  heard : ∀ c, (s.conns c).heard ⊆ (s'.conns c).heard
  registeredAs : ∀ c, (s.conns c).registeredAs ⊆ (s'.conns c).registeredAs
  sessionOf : ∀ run sid, s.runs.sessionOf run = some sid → s'.runs.sessionOf run = some sid

variable {id : Id} {c now : Nat}

theorem Grows.owns (h : Grows s s') (ho : s.Owns parse owner c id) :
    s'.Owns parse owner c id := by
  intro t hs
  obtain ⟨k, hk, hp⟩ := ho t hs
  exact ⟨k, h.registeredAs c hk, hp⟩

variable {conn : SatelliteConn Id Run}

theorem grows_setConn (hh : (s.conns c).heard ⊆ conn.heard)
    (hk : (s.conns c).registeredAs ⊆ conn.registeredAs) : Grows s (s.setConn c conn) := by
  refine ⟨fun c' => ?_, fun c' => ?_, fun _ _ h => h⟩ <;>
    (by_cases hc : c' = c
     · subst hc
       simpa [setConn]
     · simp [setConn, update_of_ne hc])

/-! ## 3. The invariant -/

def Rightful (parse : String → Option Id) (owner : Id → Option Id) (s : Switchboard Id Run)
    (c : Nat) : Addressed Id → Prop
  | .input sid _ => sid ∈ (s.conns c).heard
  | .command id _ => s.Owns parse owner c id
  | .deployAgent _ => True

def Carries (s : Switchboard Id Run) (c : Nat) (m : Addressed Id) : Prop :=
  (c, m) ∈ s.sending ∨ m ∈ s.outbound c

structure Sound (parse : String → Option Id) (owner : Id → Option Id) (s : Switchboard Id Run) :
    Prop where
  conns : ∀ c, (s.conns c).Sound parse s.runs
  streams : ∀ sid c, s.registry.sessionStreams sid = some c → sid ∈ (s.conns c).heard
  satellites : ∀ key c, s.registry.satelliteStreams key = some c → key ∈ (s.conns c).registeredAs
  carried : ∀ c m, s.Carries c m → s.Rightful parse owner c m

open SatelliteConn

theorem sound_start : (start : Switchboard Id Run).Sound parse owner where
  conns _ := sound_new
  streams _ _ h := by cases h
  satellites _ _ h := by cases h
  carried _ _ h := by rcases h with h | h <;> cases h

variable {m : Addressed Id}

theorem Grows.rightful (h : Grows s s') (hm : s.Rightful parse owner c m) :
    s'.Rightful parse owner c m := by
  cases m with
  | input sid _ => exact h.heard c hm
  | command id _ => exact h.owns hm
  | deployAgent _ => trivial

theorem Sound.setConn (h : s.Sound parse owner)
    (hco : conn.Sound parse s.runs) (hh : (s.conns c).heard ⊆ conn.heard)
    (hk : (s.conns c).registeredAs ⊆ conn.registeredAs) :
    (s.setConn c conn).Sound parse owner := by
  have hg := grows_setConn hh hk
  refine ⟨fun c' => ?_, fun sid c' hc' => hg.heard c' (h.streams sid c' hc'),
    fun k c' hc' => hg.registeredAs c' (h.satellites k c' hc'),
    fun c' m hm => hg.rightful (h.carried c' m hm)⟩
  by_cases hc : c' = c
  · subst hc
    simpa [setConn] using hco
  · simpa [Switchboard.setConn, update_of_ne hc] using h.conns c'

theorem Sound.of_registry (h : s.Sound parse owner) {registry : StreamRegistry Nat}
    (hs : ∀ sid c, registry.sessionStreams sid = some c →
      s.registry.sessionStreams sid = some c ∨ sid ∈ (s.conns c).heard)
    (hsa : ∀ k c, registry.satelliteStreams k = some c →
      s.registry.satelliteStreams k = some c ∨ k ∈ (s.conns c).registeredAs) :
    { s with registry := registry }.Sound parse owner :=
  ⟨h.conns, fun sid c hc => (hs sid c hc).elim (h.streams sid c) id,
    fun k c hc => (hsa k c hc).elim (h.satellites k c) id, h.carried⟩

/-! ## 4. Accesses -/

/-- An access leaves the sends, the channels, the runs and the records as
they are. -/
structure Frame (s s' : Switchboard Id Run) : Prop where
  sending : s'.sending = s.sending := by rfl
  outbound : s'.outbound = s.outbound := by rfl
  runs : s'.runs = s.runs := by rfl
  heard : ∀ c, (s'.conns c).heard = (s.conns c).heard := by exact fun _ => rfl
  registeredAs : ∀ c, (s'.conns c).registeredAs = (s.conns c).registeredAs := by exact fun _ => rfl

omit [DecidableEq Run] in
theorem frame_setConn (hh : conn.heard = (s.conns c).heard)
    (hk : conn.registeredAs = (s.conns c).registeredAs) : Frame s (s.setConn c conn) := by
  refine { heard := fun c' => ?_, registeredAs := fun c' => ?_ } <;>
    (by_cases hc : c' = c
     · subst hc
       simpa [setConn]
     · simp [setConn, update_of_ne hc])

theorem Frame.grows (h : Frame s s') : Grows s s' :=
  ⟨fun c => by rw [h.heard c]; exact .refl _, fun c => by rw [h.registeredAs c]; exact .refl _,
    fun _ _ hr => by rw [h.runs]; exact hr⟩

omit [DecidableEq Run] in
theorem Frame.trans {s'' : Switchboard Id Run} (h : Frame s s') (h' : Frame s' s'') : Frame s s'' :=
  ⟨h'.sending.trans h.sending, h'.outbound.trans h.outbound, h'.runs.trans h.runs,
    fun c => (h'.heard c).trans (h.heard c), fun c => (h'.registeredAs c).trans (h.registeredAs c)⟩

theorem not_changes (hb : s'.buffers = s.buffers) (hr : s'.rows = s.rows)
    (hp : s'.published = s.published) (hs : s'.stored = s.stored) :
    ¬ s.Changes parse s' id := by
  simp [Changes, hb, hr, hp, hs]

omit [DecidableEq Run] in
theorem readSession_cases (parse : String → Option Id) (s : Switchboard Id Run) (c : Nat)
    (sid : String) (t : SessionState) (now : Nat) :
    s.readSession parse c sid t now = s ∨ ∃ id sta, parse sid = some id ∧
      s.readSession parse c sid t now = s.setConn c { s.conns c with
        todo := .updateState sid id sta :: (s.conns c).todo } := by
  unfold readSession
  split
  · exact .inl rfl
  · grind

variable {found : Option Run}

theorem lookUpRun_sessionOf (h : s.Sound parse owner) {sid : String}
    {r : Run} (hr : s.lookUpRun parse c sid found = some (some r)) :
    s.runs.sessionOf r = some sid := by
  unfold lookUpRun at hr
  split at hr
  · rename_i u' hc
    cases hr
    exact ((h.conns c).cached sid r hc).2
  split at hr
  · cases hr
  simp only [ite_none_right_eq_some, some.injEq] at hr
  obtain ⟨hl, rfl⟩ := hr
  obtain ⟨w, hro, hs, -⟩ := getAgentRun_of_isRunning (isRunning_of_isLatestRunning hl)
  simp [sessionOf, hro, hs]

theorem Sound.next (h : s.Sound parse owner) {a : Access Id} {r : List (Access Id)}
    (ht : (s.conns c).todo = a :: r) :
    (s.setConn c { s.conns c with todo := r }).Sound parse owner ∧
      a.Due parse (s.conns c).heard (s.conns c).registeredAs := by
  have hc := h.conns c
  have ha := hc.todo
  rw [ht, forall_mem_cons] at ha
  exact ⟨h.setConn { hc with todo := ha.2 } (.refl _) (.refl _), ha.1⟩

variable [DecidableEq Id]

/-- What an access changes, it changes of a session that the connection
was sent a message about. -/
structure Executed (parse : String → Option Id) (owner : Id → Option Id) (c : Nat)
    (s s' : Switchboard Id Run) : Prop where
  frame : Frame s s' := by exact {}
  sound : s'.Sound parse owner
  changed : ∀ id, s.Changes parse s' id → s.Named parse c id := by
    exact fun _ hchanges => absurd hchanges (not_changes rfl rfl rfl rfl)

omit [DecidableEq Id] in
theorem executed_buffer (h : s.Sound parse owner) {sid : String} (hsid : sid ∈ (s.conns c).heard)
    (b : Option Buffer.RingBuffer) :
    Executed parse owner c s { s with buffers := update s.buffers sid b } := by
  refine { sound := { h with }, changed := ?_ }
  rintro id (⟨i', hp, hne⟩ | hne | ⟨r, -, hne⟩)
  · by_cases heq : i' = sid
    · exact ⟨sid, hsid, heq ▸ hp⟩
    · simp [update_of_ne heq] at hne
  · exact absurd rfl hne
  · simp at hne

theorem executed (h : s.Sound parse owner) {a : Access Id}
    (hd : a.Due parse (s.conns c).heard (s.conns c).registeredAs)
    (hs : exec parse capacity s c now found a = some s') : Executed parse owner c s s' := by
  cases a with
  | registerSatelliteStream y =>
    cases hs
    refine { sound := h.of_registry (fun _ _ hc => .inl hc) fun k' c' hc' => ?_ }
    rw [satelliteStreams_registerSatelliteStream] at hc'
    split at hc'
    · rename_i heq
      cases hc'
      exact .inr (heq ▸ hd)
    · exact .inl hc'
  | unregisterSatelliteStream y =>
    cases hs
    refine { sound := h.of_registry (fun _ _ hc => .inl hc) fun k' c' hc' => ?_ }
    rw [satelliteStreams_unregisterSatelliteStream] at hc'
    split at hc'
    · cases hc'
    · exact .inl hc'
  | registerStream sid =>
    cases hs
    refine { sound := h.of_registry (fun i' c' hc' => ?_) fun _ _ hc => .inl hc }
    rw [sessionStreams_registerStream] at hc'
    split at hc'
    · rename_i heq
      cases hc'
      exact .inr (heq ▸ hd)
    · exact .inl hc'
  | unregisterStream sid =>
    cases hs
    refine { sound := h.of_registry (fun i' c' hc' => ?_) fun _ _ hc => .inl hc }
    rw [sessionStreams_unregisterStream] at hc'
    split at hc'
    · cases hc'
    · exact .inl hc'
  | removeBuffer sid =>
    cases hs
    exact executed_buffer h hd none
  | writeBuffer sid d =>
    obtain ⟨b, -, rfl⟩ := map_eq_some_iff.mp hs
    exact executed_buffer h hd b
  | getSession sid t =>
    cases hs
    obtain heq | ⟨id, sta, hp, heq⟩ := readSession_cases parse s c sid t now
    · rw [heq]
      exact { sound := h }
    rw [heq]
    have hco := h.conns c
    exact {
      frame := frame_setConn rfl rfl
      sound := h.setConn { hco with todo := forall_mem_cons.mpr ⟨⟨hd, hp⟩, hco.todo⟩ }
        (.refl _) (.refl _) }
  | updateState sid id' t =>
    simp only [exec] at hs
    split at hs <;> cases hs
    · exact { sound := h }
    rename_i w hr
    refine { sound := { h with }, changed := ?_ }
    rintro id (⟨i', -, hne⟩ | hne | ⟨run, -, hne⟩)
    · exact absurd rfl hne
    · -- the row that was written is the one that was read
      by_cases heq : id = id'
      · exact ⟨sid, hd.1, heq ▸ hd.2⟩
      · simp [SessionStore.updateState_stateOf hr, heq] at hne
    · simp at hne
  | findRun sid e =>
    obtain ⟨run, hru, rfl⟩ := map_eq_some_iff.mp hs
    cases run with
    | none => exact { sound := h }
    | some run =>
      have hso := lookUpRun_sessionOf h hru
      have hk := h.setConn ((h.conns c).foundRun hd hso e) (.refl _) (.refl _)
      have hf : Frame s (s.setConn c ((s.conns c).foundRun sid run e)) := frame_setConn rfl rfl
      refine { frame := { hf with }, sound := { hk with }, changed := ?_ }
      rintro id (⟨i', -, hne⟩ | hne | ⟨r', hse, hne⟩)
      · exact absurd rfl hne
      · exact absurd rfl hne
      by_cases heq : r' = run
      · rw [heq, hso] at hse
        exact ⟨sid, hd, hse⟩
      · simp [publish, setConn, update_of_ne heq] at hne

/-! ## 5. Steps -/

def Begins (parse : String → Option Id) (owner : Id → Option Id) (a : Act Id Run)
    (s : Switchboard Id Run) (c : Nat) (m : Addressed Id) : Prop :=
  (∃ sid x, a = .sendToSession sid x ∧ m = .input sid x ∧
    s.registry.sessionStreams sid = some c) ∨
  (∃ id kind key, a = .sendCommand id kind key ∧ m = .command id kind ∧ parse key = owner id ∧
    s.registry.satelliteStreams key = some c) ∨
  ∃ id key, a = .deployAgent id key ∧ m = .deployAgent id ∧
    s.registry.satelliteStreams key = some c

section

omit [DecidableEq Run] [DecidableEq Id]

theorem carries_beginSend {m' : Addressed Id} {cha : Option Nat}
    (h : (s.beginSend cha m').Carries c m) : s.Carries c m ∨ (m = m' ∧ cha = some c) := by
  obtain hs | hp := h
  · obtain hs | hn := mem_append.mp hs
    · exact .inl (.inl hs)
    · simp_all
  · exact .inl (.inr hp)

theorem exists_place (s : Switchboard Id Run) (c : Nat) (m : Addressed Id) :
    ∃ outbound, s.place c m = { s with outbound := outbound } := by
  unfold place
  split
  · exact ⟨_, rfl⟩
  · exact ⟨s.outbound, rfl⟩

theorem carries_place {c' i : Nat} {m' : Addressed Id} (hg : s.sending[i]? = some (c', m'))
    (h : (place { s with sending := s.sending.eraseIdx i } c' m').Carries c m) :
    s.Carries c m := by
  unfold place at h
  split at h
  · obtain hs | hp := h
    · exact .inl (mem_of_mem_eraseIdx hs)
    by_cases hc : c = c'
    · subst hc
      simp only [update_self, mem_append, mem_singleton] at hp
      obtain hp | rfl := hp
      · exact .inr hp
      · exact .inl (mem_of_getElem? hg)
    simp only [update_of_ne hc] at hp
    exact .inr hp
  · exact h.imp_left mem_of_mem_eraseIdx

theorem carries_transmit {c' : Nat} {x : Addressed Id} {r : List (Addressed Id)}
    (hq : s.outbound c' = x :: r)
    (h : Carries { s with outbound := update s.outbound c' r } c m) :
    s.Carries c m := by
  refine h.imp_right fun hp => ?_
  by_cases hc : c = c'
  · grind
  · simpa [update_of_ne hc] using hp

end

variable {a : Act Id Run}

/-- What a step keeps, and what it adds. -/
structure Stepped (parse : String → Option Id) (owner : Id → Option Id) (a : Act Id Run)
    (s s' : Switchboard Id Run) : Prop where
  sound : s'.Sound parse owner
  grows : Grows s s'
  heard : ∀ c, ∀ sid ∈ (s'.conns c).heard,
    sid ∈ (s.conns c).heard ∨ ∃ m, a = .message c m ∧ m.sid = some sid
  carried : ∀ c m, s'.Carries c m → s.Carries c m ∨ Begins parse owner a s c m
  changed : ∀ id, s.Changes parse s' id →
    a.isRequest = true ∨ ∃ c, a.conn = some c ∧ s.Named parse c id

/-- The act is not one of a connection: it leaves the connections and the
registry as they are, and changes sessions only for a user's request. -/
structure Elsewhere (parse : String → Option Id) (owner : Id → Option Id) (a : Act Id Run)
    (s s' : Switchboard Id Run) : Prop where
  conns : s'.conns = s.conns := by rfl
  registry : s'.registry = s.registry := by rfl
  sessionOf : ∀ run sid, s.runs.sessionOf run = some sid → s'.runs.sessionOf run = some sid := by
    exact fun _ _ h => h
  unchanged : a.isRequest = true ∨ ∀ id, ¬ s.Changes parse s' id := by
    exact .inr fun _ => not_changes rfl rfl rfl rfl
  carried : ∀ c m, s'.Carries c m → s.Carries c m ∨ Begins parse owner a s c m := by
    exact fun _ _ h => .inl h

section

variable (h : s.Sound parse owner)

include h

omit [DecidableEq Id] in
theorem stepped_elsewhere (he : Elsewhere parse owner a s s') : Stepped parse owner a s s' := by
  have hg : Grows s s' :=
    ⟨fun c => by rw [he.conns]; exact .refl _, fun c => by rw [he.conns]; exact .refl _,
      he.sessionOf⟩
  refine ⟨⟨fun c => ?_, fun sid c hc => ?_, fun k c hc => ?_, fun c m hm => ?_⟩, hg,
    fun c sid hsid => .inl (he.conns ▸ hsid), he.carried,
    fun id hch => he.unchanged.imp_right fun hn => absurd hch (hn id)⟩
  · rw [he.conns]
    exact (h.conns c).of_runs he.sessionOf
  · rw [he.registry] at hc
    exact hg.heard c (h.streams sid c hc)
  · rw [he.registry] at hc
    exact hg.registeredAs c (h.satellites k c hc)
  obtain hm | ⟨sid, x, -, rfl, hc⟩ | ⟨id, i, k, -, rfl, hk, hc⟩ | ⟨id, k, -, rfl, -⟩ :=
    he.carried c m hm
  · exact hg.rightful (h.carried c m hm)
  · exact hg.heard c (h.streams sid c hc)
  · -- the channel was found under the id of the session's satellite
    refine hg.owns fun t hs => ?_
    exact ⟨k, h.satellites k c hc, hk.trans hs⟩
  · trivial

omit [DecidableEq Id] in
theorem stepped_setConn (hco : conn.Sound parse s.runs)
    (hk : (s.conns c).registeredAs ⊆ conn.registeredAs)
    (hh : (s.conns c).heard ⊆ conn.heard) (hn : ∀ sid ∈ conn.heard,
      sid ∈ (s.conns c).heard ∨ ∃ m, a = .message c m ∧ m.sid = some sid) :
    Stepped parse owner a s (s.setConn c conn) := by
  refine ⟨h.setConn hco hh hk, grows_setConn hh hk, fun c' sid hsid => ?_,
    fun _ _ hm => .inl hm, fun _ hch => absurd hch (not_changes rfl rfl rfl rfl)⟩
  by_cases hc : c' = c
  · subst hc
    simp only [setConn, update_self] at hsid
    exact hn sid hsid
  simp only [setConn, update_of_ne hc] at hsid
  exact .inl hsid

/-- A step keeps what is known, and changes a session at a user's request
or by a connection that has heard of it. -/
theorem stepped (hs : step parse owner capacity s a = some s') : Stepped parse owner a s s' := by
  cases a with
  | createSession id now =>
    simp only [step, ite_none_right_eq_some, some.injEq] at hs
    obtain ⟨-, rfl⟩ := hs
    exact stepped_elsewhere h { unchanged := .inl rfl }
  | deleteSession | deleteBuffer =>
    cases hs
    exact stepped_elsewhere h { unchanged := .inl rfl }
  | transition id newState now =>
    simp only [step] at hs
    split at hs <;> cases hs <;> exact stepped_elsewhere h { unchanged := .inl rfl }
  | createRun run sid startedAt =>
    simp only [step, ite_none_right_eq_some, map_eq_some_iff] at hs
    obtain ⟨-, runs, hr, rfl⟩ := hs
    exact stepped_elsewhere h { sessionOf := fun _ _ => map_createAgentRun hr }
  | updateRun run status =>
    cases hs
    refine stepped_elsewhere h { sessionOf := fun run' sid hse => ?_ }
    rw [sessionOf_updateAgentRun]
    exact hse
  | sendToSession sid message =>
    cases hs
    refine stepped_elsewhere h { carried := fun c m hm => ?_ }
    exact (carries_beginSend hm).imp_right fun ⟨hm, hc⟩ => .inl ⟨sid, message, rfl, hm, hc⟩
  | sendCommand id kind key =>
    simp only [step, ite_none_right_eq_some, some.injEq] at hs
    obtain ⟨⟨-, hky⟩, rfl⟩ := hs
    refine stepped_elsewhere h { carried := fun c m hm => ?_ }
    exact (carries_beginSend hm).imp_right fun ⟨hm, hc⟩ =>
      .inr (.inl ⟨id, kind, key, rfl, hm, hky, hc⟩)
  | deployAgent id key =>
    simp only [step, ite_none_right_eq_some, some.injEq] at hs
    obtain ⟨-, rfl⟩ := hs
    refine stepped_elsewhere h { carried := fun c m hm => ?_ }
    exact (carries_beginSend hm).imp_right fun ⟨hm, hc⟩ => .inr (.inr ⟨id, key, rfl, hm, hc⟩)
  | place i =>
    simp only [step] at hs
    split at hs <;> cases hs
    rename_i c m hg
    have hca := fun c' m' => carries_place (c := c') (m := m') hg
    obtain ⟨outbound, heq⟩ := exists_place { s with sending := s.sending.eraseIdx i } c m
    rw [heq] at hca ⊢
    exact stepped_elsewhere h { carried := fun c' m' hm => .inl (hca c' m' hm) }
  | transmit c =>
    simp only [step] at hs
    split at hs <;> cases hs
    rename_i message rest hq
    exact stepped_elsewhere h { carried := fun _ _ hm => .inl (carries_transmit hq hm) }
  | register c key =>
    simp only [step, ite_none_right_eq_some, some.injEq] at hs
    obtain ⟨-, rfl⟩ := hs
    exact stepped_setConn h ((h.conns c).register key) (subset_cons_self ..) (.refl _) fun _ => .inl
  | message c m =>
    simp only [step, ite_none_right_eq_some, some.injEq] at hs
    obtain ⟨-, rfl⟩ := hs
    obtain ⟨hh, hke⟩ := records_handle
      { s.conns c with heard := m.sid.toList ++ (s.conns c).heard } m
    refine stepped_setConn h ((h.conns c).receive m) ?_ ?_ fun sid hsid => ?_
    · rw [receive, hke]
      exact .refl _
    · rw [receive, hh]
      exact subset_append_right ..
    · grind [receive]
  | disconnect c order =>
    simp only [step, ite_none_right_eq_some, some.injEq] at hs
    obtain ⟨⟨-, -, ho⟩, rfl⟩ := hs
    exact stepped_setConn h ((h.conns c).disconnect ho) (.refl _) (.refl _) fun _ => .inl
  | access c now found =>
    simp only [step] at hs
    split at hs
    · cases hs
    rename_i access rest ht
    obtain ⟨hn, hd⟩ := h.next ht
    have he := executed hn (by simpa [setConn] using hd) hs
    have hfi : Frame s (s.setConn c { s.conns c with todo := rest }) := frame_setConn rfl rfl
    have hf := hfi.trans he.frame
    refine ⟨he.sound, hf.grows, fun c' sid hsid => .inl (hf.heard c' ▸ hsid),
      fun c' m hm => .inl ?_, fun id hch => .inr ⟨c, rfl, ?_⟩⟩
    · rwa [Carries, hf.sending, hf.outbound] at hm
    obtain ⟨sid, hsid, hpa⟩ := he.changed id hch
    exact ⟨sid, by simpa [setConn] using hsid, hpa⟩
  | store c i =>
    simp only [step] at hs
    split at hs <;> cases hs
    rename_i run event hg
    have hco := h.conns c
    have hfe : SatelliteConn.Sound parse s.runs
        { s.conns c with unstored := (s.conns c).unstored.eraseIdx i } :=
      { hco with unstored := fun p hp => hco.unstored p (mem_of_mem_eraseIdx hp) }
    have hk := stepped_setConn (a := .store c i) h hfe (.refl _) (.refl _) fun _ => .inl
    refine ⟨{ hk.sound with }, { hk.grows with }, hk.heard, hk.carried, ?_⟩
    -- the event is stored for a run of the session in its message
    rintro id (⟨id', -, hne⟩ | hne | ⟨run', hse, hne⟩)
    · exact absurd rfl hne
    · exact absurd rfl hne
    refine .inr ⟨c, rfl, ?_⟩
    by_cases heq : run' = run
    · obtain ⟨sid, hsid, hru⟩ := hco.unstored _ (mem_of_getElem? hg)
      rw [heq, hru] at hse
      exact ⟨sid, hsid, hse⟩
    · simp [setConn, update_of_ne heq] at hne

end

/-! ## 6. Satellites that name their own sessions -/

/-- Each connection was sent messages about its satellite's sessions only,
and so were the agents it is to run. -/
structure Honest (parse : String → Option Id) (owner : Id → Option Id) (s : Switchboard Id Run) :
    Prop where
  sound : s.Sound parse owner
  heard : ∀ c, ∀ sid ∈ (s.conns c).heard, ∀ id ∈ parse sid, s.Owns parse owner c id
  deployed : ∀ c id, s.Carries c (.deployAgent id) → s.Owns parse owner c id

omit [DecidableEq Id] in
theorem honest_start : (start : Switchboard Id Run).Honest parse owner where
  sound := sound_start
  heard _ _ h := by cases h
  deployed _ _ h := by rcases h with h | h <;> cases h

theorem honest_step (h : s.Honest parse owner)
    (hok : s.OwnSessions parse owner a) (hs : step parse owner capacity s a = some s') :
    s'.Honest parse owner := by
  have hst := stepped h.sound hs
  have hg := hst.grows
  refine ⟨hst.sound, fun c sid hsid id hid => hg.owns ?_, fun c id hm => ?_⟩
  · obtain hsid | ⟨m, rfl, hm⟩ := hst.heard c sid hsid
    · exact h.heard c sid hsid id hid
    · exact hok sid hm id hid
  obtain hm | ⟨_, _, -, heq, -⟩ | ⟨_, _, _, -, heq, -⟩ | ⟨id', k, rfl, heq, hc⟩ :=
    hst.carried c _ hm
  · exact hg.owns (h.deployed c id hm)
  · cases heq
  · cases heq
  cases heq
  refine hg.owns fun t hsa => ?_
  exact ⟨k, h.sound.satellites k c hc, hok t hsa⟩

omit [DecidableEq Id] in
theorem Honest.owns_of_named (h : s.Honest parse owner) (hn : s.Named parse c id) :
    s.Owns parse owner c id := by
  obtain ⟨sid, hsid, hp⟩ := hn
  exact h.heard c sid hsid id hp

omit [DecidableEq Id] in
theorem Honest.outboundOwned (h : s.Honest parse owner) : s.OutboundOwned parse owner := by
  intro c m hm id hid
  cases m with
  | input sid x => exact h.heard c sid (h.sound.carried c _ (.inr hm)) id hid
  | command id' k =>
    cases hid
    exact h.sound.carried c _ (.inr hm)
  | deployAgent id' =>
    cases hid
    exact h.deployed c _ (.inr hm)

theorem Honest.changedBy (h : s.Honest parse owner) (a : Act Id Run) :
    ChangedBy parse (Owns parse owner) owner capacity s a := by
  intro s' hs id hch
  obtain hr | ⟨c, hc, hn⟩ := (stepped h.sound hs).changed id hch
  · exact .inl hr
  · exact .inr ⟨c, hc, h.owns_of_named hn⟩

/-! ## 7. Runs -/

/-- In every run, the commands to a session reach connections of its
satellite only, and a connection changes only sessions it was sent a
message about. If the messages name the satellites' own sessions, and
deploy requests the satellite of their session, then whatever is placed on
a channel is for a session of that satellite, and none but its messages
change the session. -/
theorem isolated (parse : String → Option Id) (owner : Id → Option Id) (capacity : Int)
    (acts : List (Act Id Run)) :
    (∀ s ∈ states (step parse owner capacity) (start : Switchboard Id Run) acts,
        s.CommandsOwned parse owner) ∧
      Along (step parse owner capacity) (ChangedBy parse (Named parse) owner capacity) start acts ∧
      (Along (step parse owner capacity) (OwnSessions parse owner) start acts →
        (∀ s ∈ states (step parse owner capacity) (start : Switchboard Id Run) acts,
          s.OutboundOwned parse owner) ∧
        Along (step parse owner capacity) (ChangedBy parse (Owns parse owner) owner capacity)
          start acts) := by
  have ha : ∀ s ∈ states (step parse owner capacity) (start : Switchboard Id Run) acts,
      s.Sound parse owner :=
    forall_states_of_invariant (fun _ _ _ h hs => (stepped h hs).sound) sound_start
  refine ⟨fun s hs c id kind hm => (ha s hs).carried c _ (.inr hm), ?_, fun ho => ⟨?_, ?_⟩⟩
  · have han : Along (step parse owner capacity) (fun _ _ => True)
        (start : Switchboard Id Run) acts := along_of_forall_mem fun _ _ => trivial
    exact along_of_invariant (fun s a s' h _ hs => (stepped h hs).sound)
      (fun s a h _ s' hs => (stepped h hs).changed) sound_start han
  · intro s hs
    exact (forall_states_of_along (fun _ _ _ => honest_step) honest_start ho s hs).outboundOwned
  · exact along_of_invariant (fun _ _ _ => honest_step) (fun s a h _ => h.changedBy a)
      honest_start ho

/-! ## 8. Two satellites -/

def parseDigit (text : String) : Option Nat :=
  if text = "1" then some 1 else if text = "2" then some 2 else if text = "7" then some 7 else none

def ownerOfSeven (id : Nat) : Option Nat := if id = 7 then some 1 else none

def ownSession : List (Act Nat Nat) :=
  [.createSession 7 0, .register 1 "1", .access 1 0 none, .message 1 (.terminalData "7" [33]),
   .access 1 0 none, .access 1 0 none, .sendToSession "7" (.terminalInput [97]), .place 0]

theorem isolated_ownSession :
    Along (step parseDigit ownerOfSeven 16) (OwnSessions parseDigit ownerOfSeven)
        (start : Switchboard Nat Nat) ownSession ∧
      (run (step parseDigit ownerOfSeven 16) start ownSession).map (fun s => s.outbound 1)
        = some [.input "7" (.terminalInput [97])] ∧
      ∀ s ∈ states (step parseDigit ownerOfSeven 16) (start : Switchboard Nat Nat) ownSession,
        s.OutboundOwned parseDigit ownerOfSeven :=
  ⟨by decide, by decide, ((isolated parseDigit ownerOfSeven 16 ownSession).2.2 (by decide)).1⟩

def intrusion : List (Act Nat Nat) :=
  [.createSession 7 0, .createRun 0 "7" 0, .register 1 "1", .access 1 0 none,
   .register 2 "2", .access 2 0 none, .message 2 (.terminalData "7" [33]), .access 2 0 none]

/-- It does, adds an event to the session's run and ends the session. Input
for the session is sent, and an agent is deployed to it on satellite 2. -/
def takeover : List (Act Nat Nat) :=
  intrusion ++
  [.access 2 0 none, .sendToSession "7" (.terminalInput [97]), .place 0,
   .message 2 (.agentEvent "7" "message_update" []), .access 2 0 (some 0), .store 2 0,
   .deployAgent 7 "2", .place 0,
   .message 2 (.sessionStateUpdate "7" .terminated), .access 2 0 none, .access 2 0 none]

/-- The second satellite gets what is for the first one's session, and
writes its ring buffer, its run and its state. -/
theorem takeover_of_session :
    (run (step parseDigit ownerOfSeven 16) start takeover).map (fun s =>
        ((s.conns 2).registeredAs, s.outbound 1, s.outbound 2))
      = some (["2"], [], [.input "7" (.terminalInput [97]), .deployAgent 7]) ∧
    (run (step parseDigit ownerOfSeven 16) start takeover).map (fun s =>
        ((s.buffers "7").isSome, stateOf s.rows 7, s.stored 0))
      = some (true, some .terminated,
          [{ eventType := "message_update", payload := [], sequence := 1 }]) ∧
    ¬ (∀ s ∈ states (step parseDigit ownerOfSeven 16) start takeover,
        s.OutboundOwned parseDigit ownerOfSeven) ∧
    ¬ Along (step parseDigit ownerOfSeven 16)
        (ChangedBy parseDigit (Owns parseDigit ownerOfSeven) ownerOfSeven 16) start takeover := by
  refine ⟨by decide, by decide, fun hal => ?_, fun ha => ?_⟩
  · obtain ⟨key, hk, hp⟩ := hal _ (mem_states_of_run rfl) 2 (.input "7" (.terminalInput [97]))
      mem_cons_self 7 (by decide) 1 (by decide)
    obtain rfl : key = "2" := mem_singleton.mp hk
    exact absurd hp (by decide)
  -- the buffer appears in the step after the intrusion
  have hf : Along (step parseDigit ownerOfSeven 16)
      (ChangedBy parseDigit (Owns parseDigit ownerOfSeven) ownerOfSeven 16) start
      (intrusion ++ [.access 2 0 none]) := by
    exact along_of_append ha
  obtain hr | ⟨c, hc, ho⟩ :=
    along_snoc hf rfl _ rfl 7 (.inl ⟨"7", by decide, fun hs => by cases hs⟩)
  · cases hr
  cases hc
  obtain ⟨key, hk, hp⟩ := ho 1 (by decide)
  obtain rfl : key = "2" := mem_singleton.mp hk
  exact absurd hp (by decide)

end Switchboard

end Daao.Gateway

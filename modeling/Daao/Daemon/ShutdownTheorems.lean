/-
Daao.Daemon.ShutdownTheorems — when `Stop` returns.

If nothing outside is in the way, each of the daemon's own steps lowers
`State.rank`, and short of the end there is one that can be taken
(`progress`): who waits for whom has no cycle. What is in the way stays
there: a signal handler that has taken an interrupt, a client that neither
sends anything nor closes its connection, and a process that does not take
its terminal's input, which `Stop` would kill only later.
-/
import Daao.Daemon.Shutdown
import Daao.Lib.Progress

namespace Daao.Daemon.Shutdown

open Daao.Lib List Option Session

variable {d d' : State}

/-! ## 1. Every step of the daemon's is a step towards the end -/

def Handler.rank (h : Handler) : Nat :=
  2 * h.input + match h.phase with
    | .returned => 0
    | .attached _ => 2
    | .register _ | .ptyWrite _ => 3
    | _ => 1

def Once.rank : Once → Nat
  | .fresh => 4
  | .stoppingDms => 3
  | .closingIpc => 2
  | .waiting => 1
  | .done => 0

def Forwarder.rank : Forwarder → Nat
  | .reading => 1
  | .fanout left => left.length + 2
  | .returned => 0

def Session.rank (sess : Session) : Nat :=
  sess.once.rank + sess.monitors + sess.ipc + sess.forwarder.rank + sess.waiter.toNat
    + sess.alive.toNat

def AgentForwarder.rank : AgentForwarder → Nat
  | .notStarted => 5
  | .ranging => 4
  | .stopping => 3
  | .waiting => 2
  | .cleanup => 1
  | .returned => 0

def Bridge.rank (b : Bridge) : Nat := b.forwarder.rank + b.alive.toNat

def Receive.rank : Receive → Nat
  | .absent => 0
  | .receiving => 1
  | .input _ | .closing _ | .prompting _ => 2
  | .waitOld _ _ => 3
  | .stopOld _ _ => 4

def Signal.rank : Signal → Nat
  | .returned => 0
  | _ => 1

def StopPhase.rank (sessions bridges : Nat) : StopPhase → Nat
  | .idle => sessions + 2 * bridges + 5
  | .control => sessions + 2 * bridges + 4
  | .sessions left => left.length + 2 * bridges + 3
  | .waiting _ left => 2 * left.length + 3
  | .bridges left => 2 * left.length + 2
  | .final => 1
  | .returned => 0

def State.rank (d : State) : Nat :=
  d.stop.rank d.sessions.length d.bridges.length + d.signal.rank + d.accepting.toNat
    + (d.handlers.map Handler.rank).sum + (d.sessions.map Session.rank).sum
    + (d.bridges.map Bridge.rank).sum + d.receive.rank + d.grpc.toNat + d.context.toNat

theorem rank_handlerStep {h h' : Handler} (hs : handlerStep d h = some h') :
    h'.rank < h.rank := by
  unfold handlerStep at hs
  split at hs <;> rename_i hp
  all_goals
    repeat' split at hs
    all_goals cases hs
    all_goals
      simp only [Handler.rank, hp]
      try omega

variable {sess sess' : Session}

theorem rank_sessionStep {a : SessionAct} (hs : sessionStep d sess a = some sess') :
    sess'.rank < sess.rank := by
  cases a <;> simp only [sessionStep] at hs
  case monitor | ipc => grind [rank]
  case exit | waiter => grind [rank]
  case forwarder =>
    split at hs <;> rename_i hf
    · grind [rank, Forwarder.rank]
    · cases hs
      have hle : (if d.cancelled = true then Forwarder.returned else .reading).rank ≤ 1 := by
        split <;> decide
      have heq : (Forwarder.fanout []).rank = 2 := rfl
      simp only [rank, hf, heq]
      omega
    · grind [rank, Forwarder.rank, length_cons]
    · cases hs
  case close => grind [rank, Once.rank]

variable {b b' : Bridge} {i s : Nat}

theorem rank_bridgeStep {a : BridgeAct} (hs : bridgeStep d i b a = some b') :
    b'.rank < b.rank := by
  cases a <;> simp only [bridgeStep] at hs
  case exit => grind [Bridge.rank]
  case forwarder done => grind [Bridge.rank, AgentForwarder.rank]

/-- A step of one part, which is looked up and then put back. -/
theorem of_bind_bind {α β γ : Type} {x : Option α} {f : α → Option β} {g : α → β → γ} {z : γ}
    (h : (x.bind fun a => (f a).bind fun b => some (g a b)) = some z) :
    ∃ a b, x = some a ∧ f a = some b ∧ g a b = z := by
  grind [bind_eq_some_iff]

theorem length_relist (sessions : List Session) (i : Nat) (phase : HandlerPhase) :
    (relist sessions i phase).length = sessions.length := by
  cases phase <;> simp [relist]

theorem sum_relist (sessions : List Session) (i : Nat) (phase : HandlerPhase) :
    ((relist sessions i phase).map rank).sum = (sessions.map rank).sum := by
  cases phase
  case register | detach =>
    refine sum_modify ?_ _ _
    exact fun _ => rfl
  all_goals rfl

theorem length_unregister (id : String) (r : List Bridge) :
    (unregister id r).length = r.length := by
  simp [unregister]

theorem sum_unregister (id : String) (r : List Bridge) :
    ((unregister id r).map Bridge.rank).sum = (r.map Bridge.rank).sum := by
  rw [unregister, List.map_map]
  congr 1
  refine map_congr_left fun b _ => ?_
  simp only [Function.comp]
  split <;> rfl

theorem closeStep_eq_some {next : State} (hs : closeStep d s next = some d') :
    (∃ sess, d.sessions[s]? = some sess ∧ sess.once = .fresh
        ∧ d' = { d with sessions := d.sessions.set s { sess with once := .stoppingDms } })
      ∨ d.onceOf s = .done ∧ d' = next := by
  unfold closeStep at hs
  split at hs
  · rename_i ho
    cases hs
    cases hse : d.sessions[s]? with
    | none =>
      rw [State.onceOf, hse] at ho
      cases ho
    | some sess =>
      rw [State.onceOf, hse] at ho
      refine .inl ⟨sess, rfl, ho, ?_⟩
      rw [modify_eq_set_getElem?, hse]
      rfl
  · grind
  · cases hs

theorem length_filter_range_le (p : Nat → Bool) (n : Nat) : ((range n).filter p).length ≤ n := by
  have hle := length_filter_le p (range n)
  rwa [length_range] at hle

theorem rank_enter (hs : d.sessions[s]? = some sess) (ho : sess.once = .fresh) :
    State.rank { d with sessions := d.sessions.set s { sess with once := .stoppingDms } }
      < d.rank := by
  have hlt : rank { sess with once := .stoppingDms } < sess.rank := by
    simp only [rank, ho, Once.rank]
    omega
  have hsu := sum_set_lt hs hlt
  simp only [State.rank, length_set]
  omega

theorem rank_modify {g : Bridge → Bridge} (hf : ∀ b, (g b).forwarder = b.forwarder)
    (ha : ∀ b, (g b).alive = b.alive) (r : List Bridge) (i : Nat) :
    ((r.modify i g).map Bridge.rank).sum = (r.map Bridge.rank).sum :=
  sum_modify (fun b => by rw [Bridge.rank, hf, ha, ← Bridge.rank]) _ _

theorem rank_receiveStep (hs : receiveStep d = some d') : d'.rank < d.rank := by
  unfold receiveStep at hs
  split at hs <;> rename_i hr
  case h_4 s =>
    rcases closeStep_eq_some hs with ⟨sess, hse, ho, rfl⟩ | ⟨-, rfl⟩
    · exact rank_enter hse ho
    have hsu := sum_modify (f := rank) (g := fun sess => { sess with registered := false })
      (fun _ => rfl) d.sessions s
    simp only [State.rank, length_modify, hsu, hr, Receive.rank]
    omega
  case h_7 new =>
    split at hs <;> cases hs
    have hle := sum_modify_le (f := Bridge.rank) (g := fun b => { b with
      forwarder := if b.forwarder = .notStarted then .ranging else b.forwarder })
      (fun b => by cases hb : b.forwarder <;> simp [Bridge.rank, hb, AgentForwarder.rank])
        d.bridges new
    simp only [State.rank, length_modify, hr, Receive.rank]
    omega
  all_goals
    try split at hs
    all_goals cases hs
    all_goals
      simp only [State.rank, State.abort, State.kill, length_modify, rank_modify,
        implies_true, hr, Receive.rank]
      omega

open StopPhase

theorem rank_stopStep (hs : stopStep d = some d') : d'.rank < d.rank := by
  have hss : d.registeredSessions.length ≤ d.sessions.length := length_filter_range_le _ _
  have hb : d.registeredBridges.length ≤ d.bridges.length := length_filter_range_le _ _
  unfold stopStep at hs
  split at hs <;> rename_i hst
  case h_4 s left =>
    rcases closeStep_eq_some hs with ⟨sess, hse, ho, rfl⟩ | ⟨-, rfl⟩
    · exact rank_enter hse ho
    simp only [State.rank, hst, StopPhase.rank, length_cons]
    omega
  all_goals
    try split at hs
    all_goals cases hs
    all_goals
      simp only [State.rank, State.abort, State.kill, rank_modify, implies_true, hst,
        StopPhase.rank, length_cons, length_nil]
      omega

variable {a : Act}

theorem rank_step (ha : a.own = true) (hs : step d a = some d') : d'.rank < d.rank := by
  cases a <;> simp only [step] at hs
  case env => cases ha
  case receive => exact rank_receiveStep hs
  case stop => exact rank_stopStep hs
  case acceptLoop | grpc | context => grind [State.rank]
  case signal => grind [State.rank, Signal.rank]
  case handler i =>
    obtain ⟨h, h', hh, hh', rfl⟩ := of_bind_bind hs
    have hlt := sum_set_lt hh (rank_handlerStep hh')
    simp only [State.rank, length_relist, sum_relist]
    omega
  case session s a =>
    obtain ⟨sess, sess', hse, hse', rfl⟩ := of_bind_bind hs
    have hlt := sum_set_lt hse (rank_sessionStep hse')
    simp only [State.rank, length_set]
    omega
  case bridge i a =>
    obtain ⟨b, b', hb, hb', rfl⟩ := of_bind_bind hs
    have hlt := sum_set_lt hb (rank_bridgeStep hb')
    simp only [State.rank]
    split <;> simp only [length_unregister, sum_unregister, length_set] <;> omega

/-! ## 2. What is not in the way does not get there -/

/-- A session after some steps of the daemon: a terminal that takes what is
written to it still does, a call of `Close` is not undone, and the session
stays registered until then. -/
structure Session.Later (sess sess' : Session) : Prop where
  writable : sess.writable = true → sess'.writable = true
  once : sess.once ≠ .fresh → sess'.once ≠ .fresh
  registered : sess'.once ≠ .fresh ∨ sess'.registered = sess.registered

theorem Session.Later.refl (sess : Session) : sess.Later sess := ⟨fun h => h, fun h => h, .inr rfl⟩

def Grown (before after : List Session) : Prop :=
  ∀ s : Nat, ∀ sess' ∈ after[s]?, ∃ sess ∈ before[s]?, sess.Later sess'

variable {sessions : List Session}

theorem grown_set (hs : sessions[s]? = some sess) (hl : sess.Later sess') :
    Grown sessions (sessions.set s sess') := by
  intro s₁ e₁ h
  rcases get_set_cases hs h with ⟨rfl, rfl⟩ | ⟨-, h⟩
  · exact ⟨sess, hs, hl⟩
  · exact ⟨e₁, h, .refl _⟩

theorem grown_modify {g : Session → Session} (hl : ∀ sess ∈ sessions[s]?, sess.Later (g sess)) :
    Grown sessions (sessions.modify s g) := by
  intro s₁ e₁ h
  rw [getElem?_modify] at h
  obtain ⟨sess, hs, rfl⟩ := map_eq_some_iff.mp h
  refine ⟨sess, hs, ?_⟩
  split
  · grind
  · exact .refl _

theorem grown_relist (sessions : List Session) (i : Nat) (phase : HandlerPhase) :
    Grown sessions (relist sessions i phase) := by
  cases phase
  case register | detach => exact grown_modify fun sess _ => ⟨id, id, .inr rfl⟩
  all_goals exact fun _ sess h => ⟨sess, h, .refl _⟩

theorem later_sessionStep {a : SessionAct} (hs : sessionStep d sess a = some sess') :
    sess.Later sess' := by
  cases a <;> simp only [sessionStep] at hs
  case waiter =>
    split at hs <;> cases hs
    exact ⟨fun _ => by simp [writable, ptyOpen], id, .inr rfl⟩
  case close =>
    split at hs <;> rename_i ho
    all_goals try split at hs
    all_goals cases hs
    all_goals
      refine ⟨fun h => ?_, fun _ => by simp, .inr rfl⟩
      simp_all [writable, ptyOpen, Once.killed]
  all_goals
    repeat' split at hs
    all_goals cases hs
    all_goals exact ⟨id, id, .inr rfl⟩

theorem handlerStep_frame {h h' : Handler} (hs : handlerStep d h = some h') :
    (h.conn = .closed → h'.conn = .closed) ∧ ∀ s ∈ h'.phase.session, s ∈ h.phase.session := by
  unfold handlerStep at hs
  split at hs <;> rename_i hp
  all_goals
    repeat' split at hs
    all_goals cases hs
    all_goals simp [HandlerPhase.session, hp]

theorem bridgeStep_frame {a : BridgeAct}
    (hs : bridgeStep d i b a = some b') (h : b.writable = true) : b'.writable = true := by
  cases a <;> simp only [bridgeStep] at hs
  all_goals
    repeat' split at hs
    all_goals cases hs
    all_goals first | exact h | simp [Bridge.writable]

theorem writable_abort (b : Bridge) (_ : b.writable = true) :
    Bridge.writable { b with aborted := true } = true := by
  simp [Bridge.writable]

section

variable (h : Unhindered d)

include h

theorem unhindered_sessions (hg : Grown d.sessions sessions) :
    Unhindered { d with sessions := sessions } := by
  refine { h with
    terminals := fun hd hhd s hs sess' hse' => ?_
    input := fun s hs sess' hse' => ?_ }
  · obtain ⟨sess, hse, hl⟩ := hg s sess' hse'
    exact hl.writable (h.terminals hd hhd s hs sess hse)
  obtain ⟨sess, hse, hl⟩ := hg s sess' hse'
  rcases h.input s hs sess hse with hw | ho | hc
  · exact .inl (hl.writable hw)
  · exact .inr (.inl (hl.once ho))
  rcases hl.registered with ho | hr
  · exact .inr (.inl ho)
  refine .inr (.inr ?_)
  simpa only [closes, hr] using hc

theorem unhindered_enter (hs : d.sessions[s]? = some sess) (ho : sess.once = .fresh) :
    Unhindered { d with sessions := d.sessions.set s { sess with once := .stoppingDms } } := by
  refine unhindered_sessions h (grown_set hs ⟨fun hw => ?_, fun _ => by simp, .inl (by simp)⟩)
  simpa [writable, ptyOpen, Once.killed, ho] using hw

theorem unhindered_receiveStep (hs : receiveStep d = some d') : Unhindered d' := by
  unfold receiveStep at hs
  split at hs
  · cases hs
  · split at hs <;> cases hs
    exact { h with input := by simp [Receive.terminal] }
  · split at hs <;> cases hs
    exact { h with input := by simp [Receive.terminal] }
  · rcases closeStep_eq_some hs with ⟨sess, hse, ho, rfl⟩ | ⟨hdo, rfl⟩
    · exact unhindered_enter h hse ho
    rename_i s _
    have hl : ∀ sess ∈ d.sessions[s]?, sess.Later { sess with registered := false } :=
      fun sess hse => ⟨id, id, .inl (by simp_all [State.onceOf])⟩
    have hg := unhindered_sessions h (grown_modify hl)
    exact { hg with input := by simp [Receive.terminal] }
  · split at hs <;> cases hs
    exact { h with
      input := by simp [Receive.terminal]
      agents := forall_mem_modify h.agents writable_abort }
  · cases hs
    refine { h with input := by simp [Receive.terminal], agents := ?_ }
    exact forall_mem_modify
      (forall_mem_modify (forall_mem_modify h.agents fun _ => id) fun _ => id) fun _ => id
  split at hs <;> cases hs
  exact { h with
    input := by simp [Receive.terminal]
    agents := forall_mem_modify h.agents fun _ => id }

theorem unhindered_stop (stop : StopPhase)
    (hc : ∀ s (sess : Session), d.sessions[s]? = some sess →
      d.stop.closes s sess = true → sess.once ≠ .fresh ∨ stop.closes s sess = true) :
    Unhindered { d with stop := stop } :=
  { h with
    input := fun s hs sess hse =>
      (h.input s hs sess hse).imp id fun hor => hor.elim .inl (hc s sess hse) }

theorem unhindered_stopStep (hs : stopStep d = some d') : Unhindered d' := by
  unfold stopStep at hs
  split at hs <;> rename_i hst
  case h_3 =>
    split at hs <;> cases hs
    refine unhindered_stop h _ fun s sess hse hc => .inr ?_
    have hlt := (List.getElem?_eq_some_iff.mp hse).1
    simp_all [closes, State.registeredSessions]
  case h_4 s left =>
    rcases closeStep_eq_some hs with ⟨sess, hse, ho, rfl⟩ | ⟨hdo, rfl⟩
    · exact unhindered_enter h hse ho
    refine unhindered_stop h _ fun s₁ sess hse hc => ?_
    have hm : s₁ = s ∨ s₁ ∈ left := by simpa [hst, closes] using hc
    rcases hm with rfl | hm
    · exact .inl (by simp_all [State.onceOf])
    · exact .inr (by simpa [closes] using hm)
  case h_6 b left =>
    split at hs <;> cases hs
    have hso := unhindered_stop h (.waiting b left) fun s sess _ hc => by
      simp [hst, closes] at hc
    exact { hso with agents := forall_mem_modify h.agents writable_abort }
  case h_7 b left =>
    cases hs
    have hso := unhindered_stop h (.bridges left) fun s sess _ hc => by
      simp [hst, closes] at hc
    exact { hso with agents := forall_mem_modify h.agents fun _ => id }
  all_goals
    try split at hs
    all_goals cases hs
    all_goals exact unhindered_stop h _ fun s sess _ hc => by simp [hst, closes] at hc

end

variable {hd : Handler}

theorem unhindered_handler (h : Unhindered d) {hd' : Handler}
    (hg : d.handlers[i]? = some hd) (hst : handlerStep d hd = some hd') :
    Unhindered { d with
      handlers := d.handlers.set i hd'
      sessions := relist d.sessions i hd.phase } := by
  have h := unhindered_sessions h (grown_relist d.sessions i hd.phase)
  have hm := mem_of_getElem? hg
  obtain ⟨hc, hse⟩ := handlerStep_frame hst
  exact { h with
    clients := forall_mem_set h.clients (hc (h.clients hd hm))
    terminals := forall_mem_set h.terminals fun s hs => h.terminals hd hm s (hse s hs) }

theorem unhindered_bridge (h : Unhindered d) {a : BridgeAct}
    (hb : d.bridges[i]? = some b) (hs : bridgeStep d i b a = some b') :
    Unhindered { d with
      bridges := if b'.forwarder = .returned then unregister b.id (d.bridges.set i b')
        else d.bridges.set i b' } := by
  have hse : ∀ b₁ ∈ d.bridges.set i b', b₁.writable = true :=
    forall_mem_set h.agents (bridgeStep_frame hs (h.agents b (mem_of_getElem? hb)))
  refine { h with agents := fun b₂ hb₂ => ?_ }
  split at hb₂
  · obtain ⟨b₁, hb₁, rfl⟩ := mem_map.mp hb₂
    split <;> exact hse b₁ hb₁
  · exact hse b₂ hb₂

theorem unhindered_step (h : Unhindered d) (ha : a.own = true) (hs : step d a = some d') :
    Unhindered d' := by
  cases a <;> simp only [step] at hs
  case env => cases ha
  case receive => exact unhindered_receiveStep h hs
  case stop => exact unhindered_stopStep h hs
  case acceptLoop | grpc | context =>
    split at hs <;> cases hs
    exact { h with }
  case signal =>
    repeat' split at hs
    all_goals cases hs
    all_goals exact { h with signal := by simp }
  case handler i =>
    obtain ⟨hd, hd', hhd, hhd', rfl⟩ := of_bind_bind hs
    exact unhindered_handler h hhd hhd'
  case session s a =>
    obtain ⟨sess, sess', hse, hse', rfl⟩ := of_bind_bind hs
    exact unhindered_sessions h (grown_set hse (later_sessionStep hse'))
  case bridge i a =>
    obtain ⟨b, b', hb, hb', rfl⟩ := of_bind_bind hs
    exact unhindered_bridge h hb hb'

/-! ## 3. Somebody can go on -/

def Moves (d : State) : Prop := ∃ a d', a.own = true ∧ step d a = some d'

theorem moves_of_isSome (ha : a.own = true) (h : (step d a).isSome = true) : Moves d := by
  obtain ⟨d', hd'⟩ := isSome_iff_exists.mp h
  exact ⟨a, d', ha, hd'⟩

theorem moves_session {a : SessionAct} (hs : d.sessions[s]? = some sess)
    (h : (sessionStep d sess a).isSome = true) : Moves d := by
  obtain ⟨sess', hs'⟩ := isSome_iff_exists.mp h
  exact moves_of_isSome (a := .session s a) rfl (by simp [step, hs, hs'])

section

variable (h : Unhindered d)

include h

theorem moves_fanout {left : List Nat} (hs : d.sessions[s]? = some sess)
    (hf : sess.forwarder = .fanout left) : Moves d := by
  refine moves_session (a := .forwarder) hs ?_
  cases left with
  | nil => simp [sessionStep, hf]
  | cons c left => grind [sessionStep, h.clients]

theorem moves_close
    (hs : d.sessions[s]? = some sess) (hfr : sess.once ≠ .fresh) (hdo : sess.once ≠ .done) :
    Moves d := by
  cases ho : sess.once with
  | fresh => exact absurd ho hfr
  | done => exact absurd ho hdo
  | stoppingDms =>
    rcases Nat.eq_zero_or_pos sess.monitors with hz | hp
    · exact moves_session (a := .close) hs (by simp [sessionStep, ho, hz])
    · exact moves_session (a := .monitor) hs (by simp [sessionStep, ho, hp])
  | closingIpc =>
    rcases Nat.eq_zero_or_pos sess.ipc with hz | hp
    · exact moves_session (a := .close) hs (by simp [sessionStep, ho, hz])
    · exact moves_session (a := .ipc) hs (by simp [sessionStep, ho, hp, Once.ipcClosed])
  | waiting =>
    -- the PTY is closed and the process is killed
    cases hf : sess.forwarder with
    | reading =>
      exact moves_session (a := .forwarder) hs (by simp [sessionStep, hf, ptyOpen, ho, Once.killed])
    | fanout left => exact moves_fanout h hs hf
    | returned =>
      cases hw : sess.waiter with
      | false =>
        exact moves_session (a := .close) hs (by simp [sessionStep, ho, hf, hw])
      | true =>
        cases ha : sess.alive with
        | false => exact moves_session (a := .waiter) hs (by simp [sessionStep, hw, ha])
        | true =>
          exact moves_session (a := .exit) hs (by simp [sessionStep, ho, Once.killed, ha])

theorem closeStep_or_moves (s : Nat) (next : State) :
    (closeStep d s next).isSome = true ∨ Moves d := by
  cases ho : d.onceOf s with
  | fresh | done => exact .inl (by simp [closeStep, ho])
  | stoppingDms | closingIpc | waiting => grind [State.onceOf, moves_close]

theorem writable_or_moves (hs : d.sessions[s]? = some sess) (hf : sess.once ≠ .fresh) :
    sess.writable = true ∨ Moves d := by
  grind [writable, ptyOpen, Once.killed, moves_close]

theorem bridges_writable (b : Nat) : (d.bridges[b]?).all Bridge.writable = true := by
  grind [h.agents]

theorem moves_receive (hca : d.stop ≠ .idle)
    (hcl : ∀ s sess, d.stop.closes s sess = false) (hre : d.receive ≠ .absent) :
    Moves d := by
  have hso : (receiveStep d).isSome = true ∨ Moves d := by
    cases hr : d.receive with
    | absent => exact absurd hr hre
    | receiving => exact .inl (by simp [receiveStep, hr, State.cancelled, hca])
    | input s =>
      cases hs : d.sessions[s]? with
      | none => exact .inl (by simp [receiveStep, hr, hs])
      | some sess =>
        have hw : sess.writable = true ∨ Moves d := by
          rcases h.input s (by simp [hr, Receive.terminal]) sess hs with hw | ho | hc
          · exact .inl hw
          · exact writable_or_moves h hs ho
          · simp [hcl] at hc
        exact hw.imp (fun hw => by simp [receiveStep, hr, hs, hw]) id
    | closing s =>
      exact (closeStep_or_moves h s _).imp (fun hc => by simpa [receiveStep, hr] using hc) id
    | stopOld old new =>
      exact .inl (by simp [receiveStep, hr, State.canAbort, bridges_writable h old])
    | waitOld old new => exact .inl (by simp [receiveStep, hr])
    | prompting new => exact .inl (by simp [receiveStep, hr, bridges_writable h new])
  rcases hso with hso | hm
  · exact moves_of_isSome (a := .receive) rfl hso
  · exact hm

theorem moves_handler (hhd : d.handlers[i]? = some hd)
    (hph : hd.phase ≠ .returned) : Moves d := by
  have hme := mem_of_getElem? hhd
  have hc := h.clients hd hme
  have hmo : (handlerStep d hd).isSome = true → Moves d := by
    intro hs
    obtain ⟨hd', hhd'⟩ := isSome_iff_exists.mp hs
    exact moves_of_isSome (a := .handler i) rfl (by simp [step, hhd, hhd'])
  have hfr : ∀ s : Nat, (d.sessions[s]?).all clientsFree = true ∨ Moves d := by
    grind [clientsFree, moves_fanout]
  cases hp : hd.phase with
  | returned => exact absurd hp hph
  | request | reply | hydrate s => exact hmo (by simp [handlerStep, hp, hc])
  | attached s =>
    refine hmo ?_
    simp only [handlerStep, hp, hc]
    split <;> simp
  | register s | detach s =>
    rcases hfr s with hf | hm
    · exact hmo (by simp [handlerStep, hp, hf])
    · exact hm
  | ptyWrite s =>
    have hw : (d.sessions[s]?).all writable = true := by
      cases hse : d.sessions[s]? with
      | none => rfl
      | some sess => exact h.terminals hd hme s (by simp [hp, HandlerPhase.session]) sess hse
    refine hmo ?_
    simp only [handlerStep, hp, hw, if_true]
    split <;> rfl

theorem moves_agent (hs : d.stop = .final)
    (hb : d.bridges[i]? = some b) (hst : b.forwarder ≠ .notStarted)
    (hre : b.forwarder ≠ .returned) (hr : d.receive = .absent) : Moves d := by
  have hm : ∀ a, (bridgeStep d i b a).isSome = true → Moves d := by
    intro a hso
    obtain ⟨b', hb'⟩ := isSome_iff_exists.mp hso
    exact moves_of_isSome (a := .bridge i a) rfl (by simp [step, hb, hb'])
  cases hf : b.forwarder with
  | notStarted => exact absurd hf hst
  | returned => exact absurd hf hre
  | ranging => exact hm (.forwarder true) (by simp [bridgeStep, hf, State.cancelled, hs])
  | stopping =>
    exact hm (.forwarder true) (by simp [bridgeStep, hf, State.canAbort, bridges_writable h i, hr])
  | waiting => exact hm (.forwarder true) (by simp [bridgeStep, hf])
  | cleanup =>
    exact hm (.forwarder true) (by simp [bridgeStep, hf, hr, Receive.holdsBridges])

theorem progress (hc : d.stop ≠ .idle) : d.stop = .returned ∨ Moves d := by
  have hsm : (stopStep d).isSome = true → Moves d := fun hso => moves_of_isSome (a := .stop) rfl hso
  cases hs : d.stop with
  | idle => exact absurd hs hc
  | returned => exact .inl rfl
  | control =>
    right
    cases ha : d.accepting with
    | true =>
      exact moves_of_isSome (a := .acceptLoop) rfl (by simp [step, ha, State.cancelled, hs])
    | false =>
      by_cases hal : d.handlers.all (fun h => h.phase = .returned) = true
      · exact hsm (by simp [stopStep, hs, ha, hal])
      simp only [List.all_eq_true, decide_eq_true_eq, not_forall] at hal
      obtain ⟨hd, hm, hp⟩ := hal
      obtain ⟨i, hi⟩ := mem_iff_getElem?.mp hm
      exact moves_handler h hi hp
  | sessions left =>
    right
    cases left with
    | cons s left => grind [stopStep, closeStep_or_moves]
    | nil =>
      cases hh : d.receive.holdsBridges with
      | false => exact hsm (by simp [stopStep, hs, hh])
      | true =>
        refine moves_receive h hc (fun s sess => by simp [hs, closes]) ?_
        rintro hab
        rw [hab] at hh
        cases hh
  | bridges left =>
    right
    cases left with
    | nil => exact hsm (by simp [stopStep, hs])
    | cons b left =>
      by_cases hpr : d.receive = .prompting b
      · grind [closes, moves_receive]
      refine hsm ?_
      simp [stopStep, hs, State.canAbort, bridges_writable h b, hpr]
  | waiting b left => exact .inr (hsm (by simp [stopStep, hs]))
  | final =>
    right
    have hca : d.cancelled = true := by simp [State.cancelled, hs]
    by_cases hco : d.context = true
    · exact moves_of_isSome (a := .context) rfl (by simp [step, hco, hca])
    by_cases hg : d.grpc = true
    · exact moves_of_isSome (a := .grpc) rfl (by simp [step, hg, hca])
    by_cases hr : d.receive = .absent
    swap
    · exact moves_receive h hc (fun s sess => by simp [hs, closes]) hr
    cases hsi : d.signal with
    | waiting => exact moves_of_isSome (a := .signal) rfl (by simp [step, hsi, hca])
    | stopping => exact absurd hsi h.signal
    | returned =>
      by_cases hal : d.bridges.all (fun b => b.forwarder = .notStarted || b.forwarder = .returned)
        = true
      · grind [stopStep, State.wgDone]
      simp only [List.all_eq_true, Bool.or_eq_true, decide_eq_true_eq, not_forall, not_or] at hal
      obtain ⟨b, hm, hst, hre⟩ := hal
      obtain ⟨i, hi⟩ := mem_iff_getElem?.mp hm
      exact moves_agent h hs hi hst hre hr

end

/-! ## 4. The end of `Stop` -/

/-- What the daemon's own steps leave alone, but for those of `Stop`. -/
structure OwnFrame (d : State) (a : Act) (d' : State) : Prop where
  stop : d'.stop = d.stop
  signal : d'.signal = d.signal ∨ d.signal = .waiting ∨ d.stop = .returned
  handlers : d'.handlers = d.handlers ∨ ∃ (i : Nat) (hd hd' : Handler), a = .handler i
    ∧ d.handlers[i]? = some hd ∧ handlerStep d hd = some hd' ∧ d'.handlers = d.handlers.set i hd'

theorem ownFrame_of_step (ha : a.own = true) (hst : a ≠ .stop) (hs : step d a = some d') :
    OwnFrame d a d' := by
  cases a <;> simp only [step] at hs
  case env => cases ha
  case stop => exact absurd rfl hst
  case acceptLoop | grpc | context =>
    split at hs <;> cases hs
    exact ⟨rfl, .inl rfl, .inl rfl⟩
  case signal =>
    split at hs <;> rename_i hsi
    · split at hs <;> cases hs
      exact ⟨rfl, .inr (.inl hsi), .inl rfl⟩
    · split at hs <;> cases hs
      rename_i hr
      exact ⟨rfl, .inr (.inr hr), .inl rfl⟩
    · cases hs
  case session | bridge =>
    obtain ⟨x, x', -, -, rfl⟩ := of_bind_bind hs
    exact ⟨rfl, .inl rfl, .inl rfl⟩
  case handler i =>
    obtain ⟨hd, hd', hhd, hhd', rfl⟩ := of_bind_bind hs
    exact ⟨rfl, .inl rfl, .inr ⟨i, hd, hd', rfl, hhd, hhd', rfl⟩⟩
  case receive =>
    unfold receiveStep at hs
    split at hs
    case h_4 =>
      rcases closeStep_eq_some hs with ⟨sess, -, -, rfl⟩ | ⟨-, rfl⟩ <;>
        exact ⟨rfl, .inl rfl, .inl rfl⟩
    all_goals try split at hs
    all_goals cases hs
    all_goals exact ⟨rfl, .inl rfl, .inl rfl⟩

/-- What a step of `Stop` leaves alone, and what it has waited for. -/
structure StopFrame (d d' : State) : Prop where
  called : d'.stop ≠ .idle
  signal : d'.signal = d.signal
  handlers : d'.handlers = d.handlers
  early : d.stop ≠ .idle ∧ (d.stop = .control → ∀ h ∈ d.handlers, h.phase = .returned)
  late : d'.stop = .returned → d.signal = .returned

theorem stopFrame_of_step (hs : stopStep d = some d') : StopFrame d d' := by
  unfold stopStep at hs
  split at hs <;> rename_i hst
  case h_3 =>
    split at hs <;> cases hs
    rename_i hc
    have ha : ∀ h ∈ d.handlers, h.phase = .returned := by simpa using hc.2
    exact ⟨by simp, rfl, rfl, ⟨by simp [hst], fun _ => ha⟩, by simp⟩
  case h_4 =>
    rcases closeStep_eq_some hs with ⟨sess, -, -, rfl⟩ | ⟨-, rfl⟩
    · exact ⟨by simp [hst], rfl, rfl, by simp [hst], by simp [hst]⟩
    · exact ⟨by simp, rfl, rfl, by simp [hst], by simp⟩
  case h_9 =>
    split at hs <;> cases hs
    have hsi : d.signal = .returned := by grind [State.wgDone]
    exact ⟨by simp, rfl, rfl, by simp [hst], fun _ => hsi⟩
  all_goals try split at hs
  all_goals cases hs
  all_goals exact ⟨by simp, rfl, rfl, by simp [hst], by simp⟩

theorem called_step (h : d.stop ≠ .idle) (ha : a.own = true) (hs : step d a = some d') :
    d'.stop ≠ .idle := by
  by_cases hst : a = .stop
  · subst hst
    exact (stopFrame_of_step hs).called
  rw [(ownFrame_of_step ha hst hs).stop]
  exact h

/-- Once `Stop` has been called and nothing outside is in its way, the
daemon's own steps lead to its end, whichever of them are taken. -/
theorem stop_returns (hcalled : d.stop ≠ .idle) (h : Unhindered d) :
    Inevitable step (fun a => a.own = true) (fun d => d.stop = .returned) d := by
  have hs : ∀ (d : State) (a : Act) (d' : State), d.stop ≠ .idle ∧ Unhindered d →
      a.own = true → step d a = some d' →
      (d'.stop ≠ .idle ∧ Unhindered d') ∧ d'.rank < d.rank :=
    fun d a d' hd ha hs =>
      ⟨⟨called_step hd.1 ha hs, unhindered_step hd.2 ha hs⟩, rank_step ha hs⟩
  exact inevitable_of_measure hs (fun d hd => progress hd.2 hd.1) ⟨hcalled, h⟩

def orderly : List Act :=
  [ .env .connected, .env (.startSession "a"), .env (.startSession "b"), .env (.deployAgent "c"),
    .receive, .env .connect, .env (.sendRequest 0 (some 0)), .env (.take 0), .handler 0,
    .env .callStop, .env (.hangUp 0) ]

def orderlyState : State :=
  { started with
    stop := .control, receive := .receiving
    handlers := [{ phase := .attached 0, conn := .closed, input := 0 }]
    sessions := [{ newSession "a" with localClients := [0] }, newSession "b"]
    bridges := [{ newBridge "c" with registered := true, forwarder := .ranging }] }

theorem unhindered_orderlyState : Unhindered orderlyState :=
  ⟨by decide, by decide, by decide, by decide, by decide⟩

theorem stop_returns_orderly :
    run step started orderly = some orderlyState
      ∧ Inevitable step (fun a => a.own = true) (fun d => d.stop = .returned) orderlyState :=
  ⟨by decide, stop_returns (by decide) unhindered_orderlyState⟩

/-! ## 5. What is in the way stays there -/

/-- What the environment leaves alone. -/
structure EnvFrame (d : State) (e : EnvAct) (d' : State) : Prop where
  stop : d'.stop = d.stop ∨ d.stop = .idle ∧ d'.stop = .control
  signal : d'.signal = d.signal ∨ d'.signal = .stopping
  handlers : d'.handlers = d.handlers ∨ (∃ hd, d'.handlers = d.handlers ++ [hd])
    ∨ ∃ (i : Nat) (hd hd' : Handler), e.client = some i ∧ d.handlers[i]? = some hd
      ∧ clientStep d hd e = some hd' ∧ d'.handlers = d.handlers.set i hd'

theorem beginStop_stop (d : State) :
    (beginStop d).stop = d.stop ∨ d.stop = .idle ∧ (beginStop d).stop = .control := by
  unfold beginStop
  split
  · grind
  · exact .inl rfl

theorem beginStop_frame (d : State) :
    (beginStop d).handlers = d.handlers ∧ (beginStop d).signal = d.signal := by
  unfold beginStop
  split <;> exact ⟨rfl, rfl⟩

theorem envFrame_of_step {e : EnvAct} (hs : envStep d e = some d') : EnvFrame d e d' := by
  cases e <;> simp only [envStep] at hs
  case callStop =>
    cases hs
    exact ⟨beginStop_stop d, .inl (beginStop_frame d).2, .inl (beginStop_frame d).1⟩
  case interrupt =>
    split at hs <;> cases hs
    exact ⟨beginStop_stop d, .inr rfl, .inl (beginStop_frame d).1⟩
  case connect =>
    split at hs <;> cases hs
    exact ⟨.inl rfl, .inl rfl, .inr (.inl ⟨_, rfl⟩)⟩
  case sendRequest | take | sendInput | halfClose | hangUp =>
    obtain ⟨hd, hd', hhd, hhd', rfl⟩ := of_bind_bind hs
    exact ⟨.inl rfl, .inl rfl, .inr (.inr ⟨_, hd, hd', rfl, hhd, hhd', rfl⟩)⟩
  case output | takeOutput | exit | takes | startMonitor | ipcConnect =>
    obtain ⟨sess, sess', -, -, rfl⟩ := of_bind_bind hs
    exact ⟨.inl rfl, .inl rfl, .inl rfl⟩
  case agentExit | agentTakes =>
    cases hs
    exact ⟨.inl rfl, .inl rfl, .inl rfl⟩
  case connected | lost =>
    split at hs <;> cases hs
    exact ⟨.inl rfl, .inl rfl, .inl rfl⟩
  case startSession | terminalInput | killSession | deployAgent =>
    split at hs
    · simp only [messageStep] at hs
      repeat' split at hs
      all_goals cases hs
      all_goals exact ⟨.inl rfl, .inl rfl, .inl rfl⟩
    · cases hs

def Interrupted (d : State) : Prop := d.signal = .stopping ∧ d.stop ≠ .returned

theorem interrupted_step (h : Interrupted d) (hst : step d a = some d') : Interrupted d' := by
  obtain ⟨hs, hso⟩ := h
  cases ho : a.own with
  | true =>
    by_cases ha : a = .stop
    · subst ha
      have hf := stopFrame_of_step hst
      refine ⟨hf.signal.trans hs, fun hr => ?_⟩
      rw [hf.late hr] at hs
      cases hs
    have hf := ownFrame_of_step ho ha hst
    refine ⟨?_, by rwa [hf.stop]⟩
    rcases hf.signal with hsa | hw | hr
    · exact hsa.trans hs
    · simp [hs] at hw
    · exact absurd hr hso
  | false =>
    cases a with
    | env e =>
      have hf := envFrame_of_step hst
      refine ⟨?_, ?_⟩
      · grind [hf.signal]
      · grind [hf.stop]
    | _ => cases ho

variable {acts : List Act}

theorem interrupted_run (h : Interrupted d) (hr : run step d acts = some d') :
    d'.stop ≠ .returned :=
  (run_invariant (fun _ _ _ hs hst => interrupted_step hs hst) h hr).2

/-- `Stop` has not got beyond the control server. -/
def StopPhase.early : StopPhase → Bool
  | .idle | .control => true
  | _ => false

theorem waiting_step (hge : d.handlers[i]? = some hd)
    (hr : hd.phase ≠ .returned) (hb : handlerStep d hd = none)
    (he : d.stop.early = true) (hst : step d a = some d') :
    d'.stop.early = true ∧ a ≠ .stop ∧ ∃ hd', d'.handlers[i]? = some hd'
      ∧ (hd' = hd ∨ ∃ e, a = .env e ∧ e.client = some i ∧ clientStep d hd e = some hd') := by
  cases ho : a.own with
  | true =>
    have ha : a ≠ .stop := by
      rintro rfl
      obtain ⟨hca, hc⟩ := (stopFrame_of_step hst).early
      cases hso : d.stop
      case idle => exact hca hso
      case control => exact hr (hc hso hd (mem_of_getElem? hge))
      all_goals
        rw [hso] at he
        cases he
    have hf := ownFrame_of_step ho ha hst
    refine ⟨by rwa [hf.stop], ha, hd, ?_, .inl rfl⟩
    rcases hf.handlers with hs | ⟨j, hj, hj', -, hg, hse, hset⟩
    · rw [hs, hge]
    · grind
  | false =>
    cases a with
    | env e =>
      have hf := envFrame_of_step hst
      have he' : d'.stop.early = true := by
        rcases hf.stop with hs | ⟨-, hc⟩
        · rwa [hs]
        rw [hc]
        rfl
      refine ⟨he', by simp, ?_⟩
      rcases hf.handlers with hs | ⟨n, hap⟩ | ⟨j, hj, hj', hcl, hg, hse, hset⟩
      · grind
      · grind
      · grind
    | _ => cases ho

def Handler.listens (h : Handler) : Bool :=
  h.conn = .live && h.input = 0 && match h.phase with
    | .request | .attached _ => true
    | _ => false

/-- A client has sent nothing that its handler could go on with. -/
def Silent (i : Nat) (d : State) : Prop :=
  d.stop.early = true ∧ ∃ hd, d.handlers[i]? = some hd ∧ hd.listens = true

def Act.notBy (i : Nat) : Act → Bool
  | .env e => e.client ≠ some i
  | _ => true

theorem silent_step (h : Silent i d) (ha : a.notBy i = true) (hs : step d a = some d') :
    Silent i d' := by
  obtain ⟨he, hd, hg, hl⟩ := h
  obtain ⟨hli, hi, hph⟩ : hd.conn = .live ∧ hd.input = 0 ∧ (match hd.phase with
      | .request | .attached _ => true
      | _ => false) = true := by
    simpa [Handler.listens, and_assoc] using hl
  have hre : hd.phase ≠ .returned := by
    intro hr
    simp [hr] at hph
  have hb : handlerStep d hd = none := by
    cases hp : hd.phase
    case request | attached => simp [handlerStep, hp, hli, hi]
    all_goals
      simp [hp] at hph
  obtain ⟨he', -, hd', hg', rfl | ⟨e, rfl, hc, -⟩⟩ := waiting_step hg hre hb he hs
  · exact ⟨he', hd', hg', hl⟩
  · simp [Act.notBy, hc] at ha

theorem StopPhase.ne_returned_of_early {t : StopPhase} (h : t.early = true) :
    t ≠ .returned := by
  rintro rfl
  cases h

theorem silent_run (h : Silent i d)
    (ha : ∀ a ∈ acts, a.notBy i = true) (hr : run step d acts = some d') :
    d'.stop ≠ .returned := by
  have hs := run_invariant_of_mem hr h ha fun _ _ _ => silent_step
  exact ne_returned_of_early hs.1

def Session.stuck (sess : Session) : Prop :=
  sess.takes = false ∧ sess.alive = true ∧ sess.waiter = true ∧ sess.once = .fresh

/-- A handler writes to the terminal of such a process. -/
structure Blocked (i s : Nat) (d : State) : Prop where
  early : d.stop.early = true
  handler : ∃ hd, d.handlers[i]? = some hd ∧ hd.phase = .ptyWrite s
  process : ∃ sess, d.sessions[s]? = some sess ∧ sess.stuck
  receive : d.receive = .absent

def Act.daemonOrClient : Act → Bool
  | .env e => e.client.isSome
  | _ => true

theorem phase_clientStep {hd' : Handler} {e : EnvAct} (hp : hd.phase = .ptyWrite s)
    (hs : clientStep d hd e = some hd') : hd'.phase = .ptyWrite s := by
  cases e <;> simp only [clientStep, hp] at hs
  all_goals
    repeat' split at hs
    all_goals cases hs
    all_goals first | exact hp | simp_all

theorem stuck_sessionStep {a : SessionAct} (h : sess.stuck)
    (hs : sessionStep d sess a = some sess') : sess'.stuck := by
  obtain ⟨ht, ha, hw, ho⟩ := h
  cases a <;> simp only [sessionStep, ha, hw, ho] at hs
  case forwarder =>
    repeat' split at hs
    all_goals cases hs
    all_goals exact ⟨ht, rfl, rfl, rfl⟩
  all_goals simp [Once.ipcClosed, Once.killed] at hs

theorem stuck_relist (i : Nat) (phase : HandlerPhase)
    (h : ∃ sess, sessions[s]? = some sess ∧ sess.stuck) :
    ∃ sess, (relist sessions i phase)[s]? = some sess ∧ sess.stuck := by
  obtain ⟨sess, hs, hst⟩ := h
  cases phase
  case register | detach =>
    simp only [relist, getElem?_modify, hs, Option.map_eq_map, map_some]
    refine ⟨_, rfl, ?_⟩
    split <;> exact hst
  all_goals exact ⟨sess, hs, hst⟩

theorem stuck_step (h : ∃ sess, d.sessions[s]? = some sess ∧ sess.stuck)
    (hr : d.receive = .absent) (ha : a.daemonOrClient = true) (hst : a ≠ .stop)
    (hs : step d a = some d') :
    (∃ sess, d'.sessions[s]? = some sess ∧ sess.stuck) ∧ d'.receive = .absent := by
  cases a <;> simp only [step] at hs
  case stop => exact absurd rfl hst
  case receive => simp [receiveStep, hr] at hs
  case acceptLoop | grpc | context => grind
  case signal => grind
  case handler i =>
    obtain ⟨hd, hd', -, -, rfl⟩ := of_bind_bind hs
    exact ⟨stuck_relist i hd.phase h, hr⟩
  case session j a =>
    obtain ⟨sess₁, sess₁', hse₁, hse₁', rfl⟩ := of_bind_bind hs
    refine ⟨?_, hr⟩
    by_cases hj : j = s
    · grind [some_inj, List.getElem?_eq_some_iff, stuck_sessionStep]
    · grind
  case bridge i a =>
    obtain ⟨b, b', -, -, rfl⟩ := of_bind_bind hs
    exact ⟨h, hr⟩
  case env e =>
    cases e <;> simp only [envStep] at hs
    case sendRequest | take | sendInput | halfClose | hangUp =>
      obtain ⟨hd, hd', -, -, rfl⟩ := of_bind_bind hs
      exact ⟨h, hr⟩
    all_goals cases ha

theorem blocked_step (h : Blocked i s d) (ha : a.daemonOrClient = true)
    (hs : step d a = some d') : Blocked i s d' := by
  obtain ⟨he, ⟨hd, hg, hp⟩, hpr, hr⟩ := h
  have hb : handlerStep d hd = none := by
    obtain ⟨sess, hse, ht, -, hw, ho⟩ := hpr
    simp [handlerStep, hp, hse, writable, ptyOpen, ht, hw, ho, Once.killed]
  obtain ⟨he', hne, hd', hg', hd'_eq⟩ := waiting_step hg (by simp [hp]) hb he hs
  have hp' : hd'.phase = .ptyWrite s := by
    rcases hd'_eq with rfl | ⟨e, -, -, hc⟩
    · exact hp
    · exact phase_clientStep hp hc
  obtain ⟨hpr', hr'⟩ := stuck_step hpr hr ha hne hs
  exact ⟨he', ⟨hd', hg', hp'⟩, hpr', hr'⟩

theorem blocked_run (h : Blocked i s d)
    (ha : ∀ a ∈ acts, a.daemonOrClient = true) (hr : run step d acts = some d') :
    d'.stop ≠ .returned := by
  have hb := run_invariant_of_mem hr h ha fun _ _ _ => blocked_step
  exact ne_returned_of_early hb.early

def attached : List Act :=
  [ .env .connected, .env (.startSession "a"), .env .connect, .env (.sendRequest 0 (some 0)),
    .env (.take 0), .handler 0, .env .callStop ]

def attachedState : State :=
  { started with
    stop := .control, receive := .receiving
    handlers := [{ phase := .attached 0, conn := .live, input := 0 }]
    sessions := [{ newSession "a" with localClients := [0] }] }

def unread : List Act :=
  attached ++ [ .env (.takes 0 false), .env (.sendInput 0), .handler 0, .env (.hangUp 0),
    .env .lost ]

def unreadState : State :=
  { started with
    stop := .control
    handlers := [{ phase := .ptyWrite 0, conn := .closed, input := 0 }]
    sessions := [{ newSession "a" with takes := false, localClients := [0] }] }

/-- `Stop` does not return after an interrupt; nor while an attached client
is silent; nor, although every client has hung up, while a process does not
take its input. -/
theorem stop_hangs :
    (∃ d, run step started [.env .interrupt] = some d
        ∧ ∀ acts d', run step d acts = some d' → d'.stop ≠ .returned)
      ∧ (run step started attached = some attachedState
        ∧ ∀ acts d', (∀ a ∈ acts, a.notBy 0 = true) → run step attachedState acts = some d' →
          d'.stop ≠ .returned)
      ∧ run step started unread = some unreadState
        ∧ ∀ acts d', (∀ a ∈ acts, a.daemonOrClient = true) → run step unreadState acts = some d' →
          d'.stop ≠ .returned := by
  refine ⟨⟨_, rfl, fun acts d' => interrupted_run ⟨rfl, by decide⟩⟩, ⟨by decide, fun acts d' => ?_⟩,
    by decide, fun acts d' => ?_⟩
  · exact silent_run ⟨rfl, _, rfl, rfl⟩
  exact blocked_run (i := 0) (s := 0) ⟨rfl, ⟨_, rfl, rfl⟩, ⟨_, rfl, rfl, rfl, rfl, rfl⟩, rfl⟩

end Daao.Daemon.Shutdown

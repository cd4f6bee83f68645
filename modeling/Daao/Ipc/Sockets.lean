/-
Daao.Ipc.Sockets — the sockets of a session's IPC server (`acceptLoop`,
`handleConn`, `removeConn` and `Close` of `pkg/ipc/server.go`).

Three kinds of goroutines take the steps: the accept loop, one serve loop
for each connection, and a call of `Close`. A connection is in `conns` from
`track` to `remove` and counted in `activeConns` from `count` to `uncount`,
so both are read off the phases. `connsMu` is not free while `Close` goes
over the connections. A serve loop ends when its client has hung up or when
it sees that the server is closed, and does not close the socket.
-/
import Daao.Lib.Trace

namespace Daao.Ipc.Sockets

open Daao.Lib List

def maxConnections : Nat := 1000

inductive Phase where
  | accepted
  /-- `canAccept` was true -/
  | allowed
  | tracked
  | serving
  /-- the serve loop has ended -/
  | ended
  | removed
  /-- it is not counted any more, or was turned away -/
  | gone
  deriving DecidableEq

structure Socket where
  phase : Phase
  isOpen : Bool
  deriving DecidableEq

inductive Loop where
  | top
  | listening
  | handling
  | returned
  deriving DecidableEq

inductive Closing where
  | notCalled
  | cancelled
  | listenerClosed
  /-- it holds `connsMu` and closes these connections -/
  | conns (left : List Nat)
  | waiting
  | returned
  deriving DecidableEq

structure Server where
  sockets : List Socket
  loop : Loop
  closing : Closing
  deriving DecidableEq

def started : Server := { sockets := [], loop := .top, closing := .notCalled }

/-- The accept loop handles it. -/
def Phase.inHand : Phase → Bool
  | .accepted | .allowed | .tracked => true
  | _ => false

def Phase.inConns : Phase → Bool
  | .tracked | .serving | .ended => true
  | _ => false

def Phase.counted : Phase → Bool
  | .serving | .ended | .removed => true
  | _ => false

def Server.activeConns (s : Server) : Nat := s.sockets.countP (·.phase.counted)

def Closing.locks : Closing → Bool
  | .conns _ => true
  | _ => false

inductive SocketAct where
  | canAccept
  | track
  | count
  | serveEnd
  | remove
  | uncount

def socketStep (s : Server) (c : Socket) : SocketAct → Option Socket
  | .canAccept =>
    if c.phase = .accepted then
      if s.activeConns < maxConnections then some { c with phase := .allowed }
      else some { phase := .gone, isOpen := false }
    else none
  | .track =>
    if c.phase = .allowed ∧ s.closing.locks = false then some { c with phase := .tracked } else none
  | .count => if c.phase = .tracked then some { c with phase := .serving } else none
  | .serveEnd => if c.phase = .serving then some { c with phase := .ended } else none
  | .remove =>
    if c.phase = .ended ∧ s.closing.locks = false then some { c with phase := .removed } else none
  | .uncount => if c.phase = .removed then some { c with phase := .gone } else none

def closeStep (s : Server) : Option Server :=
  match s.closing with
  | .notCalled => some { s with closing := .cancelled }
  | .cancelled => some { s with closing := .listenerClosed }
  | .listenerClosed =>
    let conns := (List.range s.sockets.length).filter fun i => (s.sockets[i]?).any (·.phase.inConns)
    some { s with closing := .conns conns }
  | .conns (i :: left) =>
    (s.sockets[i]?).map fun c =>
      { s with closing := .conns left, sockets := s.sockets.set i { c with isOpen := false } }
  | .conns [] => some { s with closing := .waiting }
  | .waiting =>
    if s.loop = .returned ∧ s.sockets.all (·.phase = .gone) then
      some { s with closing := .returned }
    else none
  | .returned => none

inductive Act where
  | check
  | accept
  | socket (i : Nat) (a : SocketAct)
  | close

def step (s : Server) : Act → Option Server
  | .check =>
    if s.loop = .top then
      some { s with loop := if s.closing = .notCalled then .listening else .returned }
    else none
  | .accept =>
    if s.loop = .listening then
      if s.closing = .notCalled ∨ s.closing = .cancelled then
        some { s with loop := .handling, sockets := s.sockets ++ [⟨.accepted, true⟩] }
      else some { s with loop := .top }
    else none
  | .socket i a => do
    let c ← s.sockets[i]?
    let c' ← socketStep s c a
    some { s with
      sockets := s.sockets.set i c'
      loop := if c.phase.inHand && !c'.phase.inHand then .top else s.loop }
  | .close => closeStep s

def Server.underWay (s : Server) : Nat := s.sockets.countP (·.phase ≠ .gone)

/-- A connection is accepted only while there is room for it, and a serve
loop ends only when `Close` has closed its socket. -/
def orderly (s : Server) : Act → Bool
  | .accept => s.closing = .notCalled ∨ s.closing = .cancelled → s.underWay < maxConnections
  | .socket i .serveEnd => (s.sockets[i]?).all (!·.isOpen)
  | _ => true

def Phase.over : Phase → Bool
  | .ended | .removed | .gone => true
  | _ => false

structure Bounded (s : Server) : Prop where
  count : s.sockets.countP Socket.isOpen ≤ maxConnections
  ended : ∀ c ∈ s.sockets, c.phase.over = true → c.isOpen = false
  returned : s.closing = .returned → ∀ c ∈ s.sockets, c.isOpen = false

/-- What holds in every run: before `Close` goes over the connections no
socket is closed but those that were turned away. -/
structure Inv (s : Server) : Prop where
  kept : s.closing = .notCalled ∨ s.closing = .cancelled →
    ∀ c ∈ s.sockets, c.phase ≠ .gone → c.isOpen = true
  returned : s.closing = .returned → ∀ c ∈ s.sockets, c.phase = .gone

variable {s s' : Server} {i : Nat} {c c' : Socket}

theorem socketStep_some {a : SocketAct} (hs : socketStep s c a = some c') :
    c.phase ≠ .gone ∧ (a = .canAccept ∧ c' = ⟨.gone, false⟩ ∨ c'.isOpen = c.isOpen ∧
      (c'.phase.over = true ↔ c.phase.over = true ∨ a = .serveEnd)) := by
  cases a <;> simp only [socketStep] at hs
  case canAccept => grind [Phase.over]
  all_goals
    split at hs <;> cases hs
    simp_all [Phase.over]

theorem Bounded.set (hb : Bounded s) (hc : s.sockets[i]? = some c)
    (hop : c'.isOpen = true → c.isOpen = true) (hov : c'.phase.over = true → c'.isOpen = false)
    {loop : Loop} {closing : Closing} (hre : closing ≠ .returned) :
    Bounded { sockets := s.sockets.set i c', loop := loop, closing := closing } := by
  obtain ⟨hlt, rfl⟩ := List.getElem?_eq_some_iff.mp hc
  refine ⟨?_, fun c₁ hc₁ => ?_, fun hr => absurd hr hre⟩
  · grind [hb.count]
  · grind [hb.ended]

theorem inv_step {a : Act} (h : Inv s) (hs : step s a = some s') :
    Inv s' ∧ (Bounded s → (orderly s a = true ↔ Bounded s')) := by
  cases a <;> simp only [step] at hs
  case check =>
    split at hs <;> cases hs
    exact ⟨{ h with }, fun hb => ⟨fun _ => { hb with }, fun _ => rfl⟩⟩
  case accept =>
    repeat' split at hs
    all_goals cases hs
    all_goals rename_i hco
    · refine ⟨⟨by grind [h.kept], fun hre => by simp_all⟩, fun hb => ?_⟩
      have hu : s.underWay = s.sockets.countP Socket.isOpen := by
        refine countP_congr fun c hc => ?_
        have hen := hb.ended c hc
        have hke := h.kept hco c hc
        grind [Phase.over]
      simp only [orderly, hco, hu, true_imp_iff, decide_eq_true_eq]
      refine ⟨fun hl => ⟨?_, by grind [Phase.over, hb.ended], by grind⟩, fun hb' => ?_⟩
      · simpa using Nat.succ_le_of_lt hl
      · exact Nat.lt_of_succ_le (by simpa using hb'.count)
    · exact ⟨{ h with }, fun hb => ⟨fun _ => { hb with }, fun _ => by simp [orderly, hco]⟩⟩
  case socket i a =>
    obtain ⟨c, hc, hs⟩ := Option.bind_eq_some_iff.mp hs
    obtain ⟨c', hc', hs⟩ := Option.bind_eq_some_iff.mp hs
    cases hs
    obtain ⟨hp, ho⟩ := socketStep_some hc'
    have hm := mem_of_getElem? hc
    have hre : s.closing ≠ .returned := fun hre => hp (h.returned hre c hm)
    refine ⟨⟨fun hk c₁ hc₁ => ?_, fun hr => absurd hr hre⟩, fun hb => ?_⟩
    · have hke := h.kept hk
      grind [mem_or_eq_of_mem_set]
    have hen := hb.ended c hm
    refine ⟨fun hor => hb.set hc (by grind) (fun hov => by grind [orderly]) hre, fun hb' => ?_⟩
    cases a
    case serveEnd =>
      have hen' := hb'.ended c' (mem_set (List.getElem?_eq_some_iff.mp hc).1 c')
      grind [orderly]
    all_goals rfl
  case close =>
    unfold closeStep at hs
    split at hs
    case h_4 =>
      obtain ⟨c, hc, rfl⟩ := Option.map_eq_some_iff.mp hs
      exact ⟨⟨by simp, by simp⟩, fun hb =>
        ⟨fun _ => hb.set hc (by simp) (by simp) (by simp), fun _ => rfl⟩⟩
    case h_6 =>
      split at hs <;> cases hs
      rename_i hd
      have hg : ∀ c ∈ s.sockets, c.phase = .gone := by simpa using hd.2
      refine ⟨⟨by simp, fun _ => hg⟩, fun hb => ⟨fun _ => ?_, fun _ => rfl⟩⟩
      exact { hb with returned := fun _ c hc => hb.ended c hc (by rw [hg c hc]; rfl) }
    all_goals cases hs
    all_goals
      exact ⟨⟨by simp_all [h.kept], by simp⟩, fun hb =>
        ⟨fun _ => { hb with returned := by simp }, fun _ => rfl⟩⟩

/-- **Sockets.** In a run no more than `MaxConnections` sockets are open, a
socket is closed when its serve loop has ended, and all are when `Close` has
returned, exactly under these conditions. -/
theorem sockets_bounded_iff {acts : List Act} (hrun : run step started acts = some s) :
    (∀ s' ∈ states step started acts, Bounded s') ↔
      Along step (fun s a => orderly s a = true) started acts := by
  have hst : Inv started := ⟨by simp [started], by simp [started]⟩
  have hb : Bounded started := ⟨by decide, by simp [started], by simp [started]⟩
  have hi : ∀ s' ∈ states step started acts, Inv s' :=
    forall_states_of_invariant (fun _ _ _ h hs => (inv_step h hs).1) hst
  rw [← forall_states_iff_along_of_run (fun s a s' (h : Inv s ∧ Bounded s) hs =>
    ((inv_step h.1 hs).2 h.2).trans (and_iff_right (inv_step h.1 hs).1).symm) ⟨hst, hb⟩ hrun]
  exact ⟨fun h s hs => ⟨hi s hs, h s hs⟩, fun h s hs => (h s hs).2⟩

def oneConnection : List Act :=
  [.check, .accept, .socket 0 .canAccept, .socket 0 .track, .socket 0 .count]

def closed : List Act :=
  [.socket 0 .serveEnd, .socket 0 .remove, .socket 0 .uncount, .check, .close]

theorem sockets_bounded_closed :
    let acts := oneConnection ++ [.close, .close, .close, .close, .close] ++ closed
    Along step (fun s a => orderly s a = true) started acts ∧
      ∀ s ∈ states step started acts, Bounded s :=
  ⟨by decide, (sockets_bounded_iff rfl).mpr (by decide)⟩

/-- The client hangs up, and the socket stays open even when `Close` has
returned. -/
theorem socket_leaks :
    run step started (oneConnection ++ [.socket 0 .serveEnd, .socket 0 .remove, .socket 0 .uncount,
        .close, .close, .close, .close, .check, .close])
      = some { sockets := [⟨.gone, true⟩], loop := .returned, closing := .returned } := by
  decide

end Daao.Ipc.Sockets

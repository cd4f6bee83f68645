/-
Daao.Transport.TerminalClient — two longer stories around the poll loop of
`Daao.Transport.TerminalStream`: how a client learns that its session has
ended, and what its terminal shows when the connection comes and goes.

`Watch` is one connection of `HandleTerminalStream`
(`internal/transport/websocket.go`), with the session's row. The handler
looks the session up when the client connects and at every tick of its
2 s ticker. It sends `terminated` if the look-up finds the state
TERMINATED, and, at a tick, also if the look-up fails. The gateway stores
the state and then removes the buffer from the pool
(`internal/grpc/gateway.go`); a handler that has the buffer keeps it.

`TermView` is one open terminal view of the Cockpit
(`cockpit/src/pages/TerminalView.tsx`, `WebSocketTransport.ts`). Its
transport reconnects by itself, and each message of terminal data is
written to the terminal emulator as it comes. A message that is on its way
when the connection is lost does not arrive.
-/
import Daao.Transport.TerminalStream
import Daao.Lib.Trace

namespace Daao.Transport

open Daao.Buffer

/-- The poll's own test would find nothing new. -/
def TerminalStream.CaughtUp (st : TerminalStream) : Prop :=
  st.attached = true ∧ ∃ rb ∈ st.buffer, rb.length = st.lastLen

instance (st : TerminalStream) : Decidable st.CaughtUp := inferInstanceAs (Decidable (_ ∧ _))

/-! ## 1. The end of the session -/

inductive WatchPhase where
  | connecting
  /-- before the buffer is fetched and its scrollback sent -/
  | attaching
  | polling
  | closed
  deriving DecidableEq

structure Watch where
  phase : WatchPhase
  /-- the handler's variables; until it has attached, the buffer is the
  pool's -/
  stream : TerminalStream
  /-- the handler's buffer is not the pool's any more -/
  orphaned : Bool
  written : List Byte
  /-- once the state TERMINATED is stored: what was written until then -/
  ended : Option (List Byte)

namespace Watch

def start : Watch :=
  { phase := .connecting, stream := { buffer := none, attached := false, lastLen := 0, sent := [] }
    orphaned := false, written := [], ended := none }

def output (s : Watch) : List Byte := s.ended.getD s.written

inductive Act where
  | write (data : List Byte)
  | terminate
  | removeBuffer
  | lookUp (failed : Bool)
  | attach
  | pollTick
  | stateTick (failed : Bool)

def step (capacity : Int) (s : Watch) : Act → Option Watch
  | .write data =>
    if s.orphaned then some { s with written := s.written ++ data }
    else
      (gatewayWrite capacity s.stream.buffer data).map fun buffer =>
        { s with stream := { s.stream with buffer := buffer }, written := s.written ++ data }
  | .terminate => some { s with ended := some s.output }
  | .removeBuffer =>
    if s.stream.attached then some { s with orphaned := true }
    else some { s with stream := { s.stream with buffer := none } }
  | .lookUp failed =>
    if s.phase = .connecting then
      some { s with phase := if failed || s.ended.isSome then .closed else .attaching }
    else none
  | .attach =>
    if s.phase = .attaching then
      (Transport.attach s.stream.buffer).map fun stream =>
        { s with stream := stream, phase := .polling }
    else none
  | .pollTick =>
    if s.phase = .polling then (tick s.stream).map fun stream => { s with stream := stream }
    else none
  | .stateTick failed =>
    if s.phase = .polling then
      some (if failed || s.ended.isSome then { s with phase := .closed } else s)
    else none

def sendsTerminated (s : Watch) : Act → Bool
  | .lookUp failed => s.phase = .connecting && !failed && s.ended.isSome
  | .stateTick failed => s.phase = .polling && (failed || s.ended.isSome)
  | _ => false

/-- The notice is sent only if the session is stored as terminated, and
after everything that was written until then. -/
def NoticeTrue (s : Watch) (a : Act) : Prop :=
  s.sendsTerminated a = true → s.ended.isSome = true ∧ s.output <+: s.stream.sent.flatten

instance (s : Watch) (a : Act) : Decidable (NoticeTrue s a) := inferInstanceAs (Decidable (_ → _))

/-- What an action must meet for the notice to be true:

* no more is written than the buffer holds;
* the buffer is removed after the termination is stored, and not while the
  handler has looked the session up and does not have its buffer yet;
* a client that connects to a terminated session has missed no output;
* the look-up of a tick does not fail before the termination is stored,
  and when a tick finds it, the last poll has sent all there is. -/
def Settled (capacity : Nat) (s : Watch) : Act → Prop
  | .write data => (s.written ++ data).length ≤ capacity
  | .removeBuffer => s.ended.isSome = true ∧
      (s.phase = .connecting ∨ s.phase = .closed ∨ s.stream.attached = true ∨ s.output = [])
  | .lookUp _ => s.phase = .connecting → s.ended.isSome = true → s.output = []
  | .stateTick failed => (failed = true → s.ended.isSome = true) ∧
      (s.ended.isSome = true → s.output = [] ∨ s.stream.CaughtUp)
  | _ => True

instance (capacity : Nat) (s : Watch) (a : Act) : Decidable (Settled capacity s a) := by
  cases a <;> dsimp only [Settled] <;> infer_instance

end Watch

/-! ## 2. Reconnects -/

structure TermView where
  /-- the server's side of the last connection, and the session's buffer -/
  stream : TerminalStream
  connected : Bool
  /-- how many of the connection's messages have arrived -/
  delivered : Nat
  /-- the bytes written to the terminal emulator -/
  screen : List Byte
  output : List Byte

namespace TermView

def start : TermView :=
  { stream := { buffer := none, attached := false, lastLen := 0, sent := [] }, connected := false
    delivered := 0, screen := [], output := [] }

inductive Act where
  | write (data : List Byte)
  | connect
  | disconnect
  | pollTick
  | deliver

def step (capacity : Int) (s : TermView) : Act → Option TermView
  | .write data =>
    (gatewayWrite capacity s.stream.buffer data).map fun buffer =>
      { s with stream := { s.stream with buffer := buffer }, output := s.output ++ data }
  | .connect =>
    if s.connected then none
    else
      (attach s.stream.buffer).map fun stream =>
        { s with stream := stream, connected := true, delivered := 0 }
  | .disconnect => if s.connected then some { s with connected := false } else none
  | .pollTick =>
    if s.connected then (tick s.stream).map fun stream => { s with stream := stream } else none
  | .deliver =>
    if s.connected then
      (s.stream.sent[s.delivered]?).map fun data =>
        { s with delivered := s.delivered + 1, screen := s.screen ++ data }
    else none

def Idle (s : TermView) : Prop :=
  s.connected = true ∧ s.delivered = s.stream.sent.length ∧
    (s.stream.buffer = none ∨ s.stream.CaughtUp)

/-- The terminal shows the output, in order, each byte once. -/
def Shows (s : TermView) : Prop := s.screen <+: s.output ∧ (s.Idle → s.screen = s.output)

def Fits (capacity : Nat) (s : TermView) : Act → Prop
  | .write data => (s.output ++ data).length ≤ capacity
  | _ => True

/-- A connection is made only while the terminal is empty. -/
def ConnectsBlank (s : TermView) : Act → Prop
  | .connect => s.screen = []
  | _ => True

instance (capacity : Nat) (s : TermView) (a : Act) : Decidable (Fits capacity s a) := by
  cases a <;> dsimp only [Fits] <;> infer_instance

instance (s : TermView) (a : Act) : Decidable (ConnectsBlank s a) := by
  cases a <;> dsimp only [ConnectsBlank] <;> infer_instance

end TermView

end Daao.Transport

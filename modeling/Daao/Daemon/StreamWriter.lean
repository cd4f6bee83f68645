/-
Daao.Daemon.StreamWriter — the daemon's three outbound channels and the
stream writers that drain them (`cmd/daao/daemon.go`: `sendToNexus`,
`sendToNexusPriority`, `sendToNexusAgent`, `streamWriter`, `runGrpcLoop`,
`connectToNexus`).

The channels are made once and outlive the connections. Each connection
starts a writer of its own on them, and nothing waits for a writer to
return: `runGrpcLoop` connects again as soon as the receive loop of the
old connection has closed `done`.

A writer takes a message and then sends it. Between the two, and between
any two steps of a writer, every other party may act. A `Send` fails when
the connection's stream has ended; the writer returns then, and the
message it had taken is in no channel any more. A `Send` that fails by
itself ends the stream, so it is the end of the stream followed by a
`Send`.

Connections are numbered in the order in which they are made, from 1. A
call that returns false puts nothing anywhere and is no act. Nothing here
says what a message is.
-/
import Daao.Lib.Trace
import Mathlib.Logic.Function.Basic

namespace Daao.Daemon

inductive Lane where
  | priority
  | agent
  /-- `sendCh`: terminal data and buffer replays -/
  | bulk
  deriving DecidableEq

def Lane.capacity : Lane → Nat
  | .priority => 64
  | .agent => 512
  | .bulk => 256

inductive Writer (M : Type) where
  | off
  /-- before the first `select` -/
  | top
  /-- in the second `select`: the first found no control message -/
  | waiting
  /-- in `stream.Send` with a message of this channel -/
  | sending (lane : Lane) (m : M)

namespace Writer

variable {M : Type}

def running : Writer M → Bool
  | .off => false
  | _ => true

/-- The channels the writer may receive from. The first `select` has only
the control messages. The second has all three, and Go picks any of them
that has a message, also when the context is cancelled. -/
def mayTake : Writer M → Lane → Bool
  | .top, lane => lane = .priority
  | .waiting, _ => true
  | _, _ => false

def held (lane : Lane) : Writer M → List M
  | .sending lane' m => if lane' = lane then [m] else []
  | _ => []

def hand : Writer M → List M
  | .sending _ m => [m]
  | _ => []

end Writer

structure Outbox (M : Type) where
  queue : Lane → List M
  conn : Nat
  /-- its stream has not ended -/
  alive : Bool
  /-- its receive loop has not returned: `done` is open, and `connCtx` is
  not cancelled -/
  receiving : Bool
  writers : Nat → Writer M
  /-- what was sent on a connection and not received by the other end -/
  wire : Nat → List M
  /-- three records: the messages for which the call that enqueues them
  returned true, those whose `Send` succeeded, and those whose `Send`
  failed -/
  accepted : Lane → List M
  sent : Lane → List M
  failed : Lane → List M
  /-- and one more: the writer of a dead connection took a message while
  another connection's writer was running -/
  strayed : Bool

inductive Outbox.Act (M : Type) where
  /-- `sendToNexus`, `sendToNexusPriority` or `sendToNexusAgent` returns
  true -/
  | accept (lane : Lane) (m : M)
  | connect
  | lose
  | close
  /-- the first `select` of writer `c` takes its default -/
  | pass (c : Nat)
  /-- writer `c` receives from a channel -/
  | take (c : Nat) (lane : Lane)
  | finish (c : Nat)
  /-- its second `select` finds the context cancelled -/
  | stop (c : Nat)
  | receive (c : Nat)

namespace Outbox

variable {M : Type}

def start : Outbox M :=
  { queue := fun _ => [], conn := 0, alive := false, receiving := false
    writers := fun _ => .off, wire := fun _ => []
    accepted := fun _ => [], sent := fun _ => [], failed := fun _ => [], strayed := false }

/-! ## 1. Steps -/

variable (s : Outbox M) (c : Nat)

def isAlive : Bool := c = s.conn && s.alive

def isCancelled : Bool := !(c = s.conn && s.receiving)

def setWriter (w : Writer M) : Outbox M :=
  { s with writers := Function.update s.writers c w }

def accept (lane : Lane) (m : M) : Option (Outbox M) :=
  if (s.queue lane).length < lane.capacity then some { s with
    queue := Function.update s.queue lane (s.queue lane ++ [m])
    accepted := Function.update s.accepted lane (s.accepted lane ++ [m]) }
  else none

/-- The new connection's writer starts. `runGrpcLoop` has waited for
`done`. -/
def connect : Option (Outbox M) :=
  if s.receiving then none
  else some ({ s with conn := s.conn + 1, alive := true, receiving := true }.setWriter
    (s.conn + 1) .top)

def close : Option (Outbox M) :=
  if s.receiving && !s.alive then some { s with receiving := false } else none

def pass : Option (Outbox M) :=
  match s.writers c, s.queue .priority with
  | .top, [] => some (s.setWriter c .waiting)
  | _, _ => none

/-- A message taken now by writer `c` would be one taken for a dead
connection beside the writer of another one. -/
def strays : Bool :=
  !s.isAlive c && (List.range (s.conn + 1)).any fun c' => c' ≠ c && (s.writers c').running

def take (lane : Lane) : Option (Outbox M) :=
  if (s.writers c).mayTake lane then
    match s.queue lane with
    | [] => none
    | m :: rest => some ({ s with
        queue := Function.update s.queue lane rest
        strayed := s.strayed || s.strays c }.setWriter c (.sending lane m))
  else none

def finish : Option (Outbox M) :=
  match s.writers c with
  | .sending lane m =>
    if s.isAlive c then some ({ s with
      sent := Function.update s.sent lane (s.sent lane ++ [m])
      wire := Function.update s.wire c (s.wire c ++ [m]) }.setWriter c .top)
    else some ({ s with
      failed := Function.update s.failed lane (s.failed lane ++ [m]) }.setWriter c .off)
  | _ => none

def stop : Option (Outbox M) :=
  match s.writers c with
  | .waiting => if s.isCancelled c then some (s.setWriter c .off) else none
  | _ => none

def receive : Option (M × Outbox M) :=
  match s.wire c with
  | [] => none
  | m :: rest => some (m, { s with wire := Function.update s.wire c rest })

def step : Act M → Option (Outbox M)
  | .accept lane m => s.accept lane m
  | .connect => s.connect
  | .lose => if s.alive then some { s with alive := false } else none
  | .close => s.close
  | .pass c => s.pass c
  | .take c lane => s.take c lane
  | .finish c => s.finish c
  | .stop c => s.stop c
  | .receive c => (s.receive c).map Prod.snd

/-- What will arrive on a connection if nothing but control messages is
taken from now on, in order. -/
def line : List M :=
  s.wire c ++ (s.writers c).hand ++ s.queue .priority

/-! ## 2. Delivery of the control messages -/

def held (lane : Lane) : List M :=
  (List.range (s.conn + 1)).flatMap fun c => (s.writers c).held lane

/-- No control message was taken without being sent; the accepted ones
are, in this order, those sent, those being sent and those waiting; and no
writer of a dead connection took a message beside another writer. -/
def Delivering : Prop :=
  s.failed .priority = [] ∧
    s.accepted .priority = s.sent .priority ++ s.held .priority ++ s.queue .priority ∧
    s.strayed = false

instance [DecidableEq M] (s : Outbox M) : Decidable s.Delivering := by
  unfold Delivering
  infer_instance

/-- When the delivery survives an act: a control message is handed over
only while every running writer has a live connection, a stream ends only
when no control message waits or is being sent, and a connection is made
only after the writers of the old ones have returned. -/
def Sheltered (s : Outbox M) : Act M → Prop
  | .accept .priority _ => ∀ c ≤ s.conn, (s.writers c).running = true → s.isAlive c = true
  | .lose => s.queue .priority = [] ∧ s.held .priority = []
  | .connect => ∀ c ≤ s.conn, (s.writers c).running = false
  | _ => True

instance [DecidableEq M] (s : Outbox M) (a : Act M) : Decidable (s.Sheltered a) := by
  cases a with
  | accept lane m => cases lane <;> dsimp only [Sheltered] <;> infer_instance
  | lose | connect | close | pass | take | finish | stop | receive =>
    dsimp only [Sheltered]
    infer_instance

end Outbox

end Daao.Daemon

/-
Daao.Daemon.Replay — one session's terminal output on its way from the
satellite to Nexus, across reconnects and restarts
(`cmd/daao/daemon.go`: `forwardPtyOutput`, `sendToNexus`, `streamWriter`,
`connectToNexus`, `replayActiveSessions`; `internal/grpc/gateway.go`: the
`TerminalData` and `BufferReplay` cases of `Connect`).

There are two ring buffers of one session, the satellite's and the one in
Nexus's pool. Output is written to the first, and sent. After every
reconnect the satellite sends a snapshot of its buffer, and Nexus appends
what it gets to its own, whether it still holds those bytes or not.

These run concurrently, and each access to something shared is one act:

* the output loop: write what was read to the ring, THEN enqueue it;
* the connection loop: connect, THEN take the snapshot, THEN enqueue it,
  then wait for the connection to end;
* the stream writer of the connection, which moves messages from `sendCh`
  to the wire, and loses them once the connection has broken;
* the gateway, which handles the messages of each connection in order,
  possibly those of an old connection after a new one was made.

`sendCh` outlives connections, and other messages take room in it.
-/
import Daao.Lib.Trace
import Daao.Lib.Uplink
import Daao.Transport.TerminalStream

namespace Daao.Daemon

open Daao.Lib Daao.Buffer Daao.Transport

/-- What the session's messages carry, and all other messages. -/
inductive SatelliteMessage where
  | terminalData (data : List Byte)
  | bufferReplay (data : List Byte)
  | other

def SatelliteMessage.data : SatelliteMessage → List Byte
  | .terminalData data => data
  | .bufferReplay data => data
  | .other => []

inductive GrpcLoop where
  | idle
  | connected
  /-- `replayActiveSessions` has taken the session's snapshot -/
  | replaying (snapshot : List Byte)
  /-- it has returned, and messages are received -/
  | receiving
  deriving DecidableEq

structure Replay where
  ring : RingBuffer
  pending : Option (List Byte)
  loop : GrpcLoop
  /-- `sendCh` and the connections -/
  uplink : Uplink SatelliteMessage
  nexus : Option RingBuffer
  output : List Byte

namespace Replay

def start (capacity : Int) : Replay :=
  { ring := newRingBuffer capacity, pending := none, loop := .idle, uplink := .start
    nexus := none, output := [] }

def sendChCapacity : Nat := 256

def sendToNexus (s : Replay) (m : SatelliteMessage) : Replay :=
  { s with uplink := s.uplink.send sendChCapacity m }

inductive Act where
  | read (data : List Byte)
  | forward
  | enqueueOther
  | connect
  /-- `replayActiveSessions` looks at the session's ring -/
  | takeSnapshot
  | enqueueReplay
  /-- the writer takes the next message from `sendCh` -/
  | transmit
  | stopWriter
  | lose
  /-- the receive loop notices, and the writer's context is cancelled -/
  | close
  | deliver (c : Nat)
  | discard (c : Nat)
  | restart

def step (capacity : Int) (s : Replay) : Act → Option Replay
  | .read data =>
    if s.pending = none ∧ data ≠ [] then
      (write s.ring data).map fun res =>
        { s with ring := res.1, pending := some data, output := s.output ++ data }
    else none
  | .forward =>
    match s.pending with
    | none => none
    | some data => some ({ s with pending := none }.sendToNexus (.terminalData data))
  | .enqueueOther => some (s.sendToNexus .other)
  | .connect =>
    if s.loop = .idle then some { s with loop := .connected, uplink := s.uplink.connect }
    else none
  | .takeSnapshot =>
    if s.loop = .connected then
      if s.ring.length > 0 then
        (snapshot s.ring).map fun data => { s with loop := .replaying data }
      else some { s with loop := .receiving }
    else none
  | .enqueueReplay =>
    match s.loop with
    | .replaying data => some ({ s with loop := .receiving }.sendToNexus (.bufferReplay data))
    | _ => none
  | .transmit => s.uplink.transmit.map fun uplink => { s with uplink := uplink }
  | .stopWriter => s.uplink.stopWriter.map fun uplink => { s with uplink := uplink }
  | .lose => some { s with uplink := s.uplink.lose }
  | .close =>
    if s.loop = .receiving then
      s.uplink.stopWriter.map fun uplink => { s with loop := .idle, uplink := uplink }
    else none
  | .deliver c =>
    (s.uplink.receive c).bind fun (m, uplink) =>
      (gatewayWrite capacity s.nexus m.data).map fun nexus =>
        { s with uplink := uplink, nexus := nexus }
  | .discard c => (s.uplink.discard c).map fun uplink => { s with uplink := uplink }
  | .restart => some { s with nexus := none, uplink := s.uplink.restart }

/-! ## What the replay is for -/

structure Quiescent (s : Replay) : Prop where
  receiving : s.loop = .receiving
  alive : s.uplink.alive = true
  sendCh : s.uplink.queue = []
  pending : s.pending = none
  wire : ∀ c ≤ s.uplink.conn, s.uplink.wire c = []

def contents : Option RingBuffer → Option (List Byte)
  | none => some []
  | some rb => snapshot rb

/-- If nothing is on its way, nothing was dropped and everything fits,
Nexus holds the bytes the satellite holds. -/
def InSync (cap : Nat) (s : Replay) : Prop :=
  s.Quiescent → s.uplink.dropped = false → s.output.length ≤ cap →
    contents s.nexus = snapshot s.ring

end Replay

end Daao.Daemon

/-
Daao.Gateway.SessionEnd — the end of a session, from the daemon's channels
to the gateway's cleanup, on one connection (`cmd/daao/daemon.go`:
`forwardPtyOutput`, `replayActiveSessions`, `streamWriter`;
`internal/grpc/gateway.go`, the terminal data, buffer replay and state
update cases of `Connect`).

On the daemon's side two goroutines send messages of the session. The
output loop reads from the terminal and puts what it read into the bulk
channel. The other one waits for the process to exit and puts a
TERMINATED update into the priority channel, without waiting for the
loop. The writer takes control messages first, so the update overtakes
what is left in the bulk channel.

On the gateway's side one loop handles the messages in the order in which
they were sent. Terminal data registers the session's stream if the
connection does not track the session, and makes a ring buffer if there is
none. A TERMINATED update removes both and ends the tracking.

The session is not started again here: TERMINATED is its last state.
-/
import Daao.Daemon.StreamWriter
import Daao.Sessions.StateUpdates
import Daao.Transport.TerminalStream

namespace Daao.Gateway

open Daao.Buffer Daao.Sessions Daao.Daemon Daao.Transport

/-- A message to the gateway, as far as it is about the session's stream. -/
inductive SessionMessage where
  | terminalData (data : List Byte)
  | bufferReplay (data : List Byte)
  | stateUpdate (state : ProtoState)
  /-- agent events, and what is about other sessions or none -/
  | other
  deriving DecidableEq

def SessionMessage.hasData : SessionMessage → Bool
  | .terminalData _ => true
  | .bufferReplay _ => true
  | _ => false

structure SessionEntry where
  tracked : Bool
  registered : Bool
  buffer : Option RingBuffer

namespace SessionEntry

/-- The closure `registerSession`, for a session id that is not empty. -/
def registerSession (e : SessionEntry) : SessionEntry :=
  if e.tracked then e else { e with tracked := true, registered := true }

/-- The handling of terminal data and of a buffer replay. -/
def storeData (capacity : Int) (e : SessionEntry) (data : List Byte) : Option SessionEntry :=
  (gatewayWrite capacity e.buffer data).map fun buffer =>
    { e.registerSession with buffer := buffer }

def handle (capacity : Int) (e : SessionEntry) : SessionMessage → Option SessionEntry
  | .terminalData data => e.storeData capacity data
  | .bufferReplay data => e.storeData capacity data
  | .stateUpdate state =>
    if state = .terminated then some { tracked := false, registered := false, buffer := none }
    else some e.registerSession
  | .other => some e

def Clean (e : SessionEntry) : Prop := e.buffer = none ∧ e.registered = false

instance (e : SessionEntry) : Decidable e.Clean := by
  unfold Clean
  infer_instance

end SessionEntry

structure SessionEnd where
  out : Outbox SessionMessage
  /-- what the output loop has read and not forwarded yet -/
  reading : Option (List Byte)
  /-- a TERMINATED update was put into the priority channel -/
  ended : Bool
  entry : SessionEntry
  handled : Bool

namespace SessionEnd

inductive Act where
  | read (data : List Byte)
  | forward
  /-- `replayActiveSessions` sends the content of the local ring buffer -/
  | replay (data : List Byte)
  | update (state : ProtoState)
  | terminate
  | enqueueOther (lane : Lane)
  /-- the connection's writer, and the end of the connection -/
  | pass
  | take (lane : Lane)
  | finish
  | stop
  | lose
  | close
  | handle

/-- A connection on which nothing has been sent yet. The gateway may have
an entry from an earlier one. -/
def start (entry : SessionEntry) : SessionEnd :=
  { out := { (Outbox.start : Outbox SessionMessage) with
      conn := 1, alive := true, receiving := true
      writers := Function.update (fun _ => .off) 1 .top }
    reading := none, ended := false, entry := entry, handled := false }

/-- Enqueue a message. The callers ignore the answer: a message that finds
the channel full is dropped. -/
def enqueue (s : SessionEnd) (lane : Lane) (m : SessionMessage) : SessionEnd :=
  { s with out := (s.out.accept lane m).getD s.out }

def moveOut (s : SessionEnd) (a : Outbox.Act SessionMessage) : Option SessionEnd :=
  (s.out.step a).map fun out => { s with out := out }

def step (capacity : Int) (s : SessionEnd) : Act → Option SessionEnd
  | .read data =>
    if s.reading = none ∧ data ≠ [] then some { s with reading := some data } else none
  | .forward => s.reading.map fun data =>
    { s.enqueue .bulk (.terminalData data) with reading := none }
  | .replay data => some (s.enqueue .bulk (.bufferReplay data))
  | .update state =>
    -- TERMINATED is the last state that is announced
    if s.ended = true ∨ state = .terminated then none
    else some (s.enqueue .priority (.stateUpdate state))
  | .terminate => (s.out.accept .priority (.stateUpdate .terminated)).map fun out =>
    { s with out := out, ended := true }
  | .enqueueOther lane => some (s.enqueue lane .other)
  | .pass => s.moveOut (.pass 1)
  | .take lane => s.moveOut (.take 1 lane)
  | .finish => s.moveOut (.finish 1)
  | .stop => s.moveOut (.stop 1)
  | .lose => s.moveOut .lose
  | .close => s.moveOut .close
  | .handle => (s.out.receive 1).bind fun (m, out) => (s.entry.handle capacity m).map fun entry =>
    { s with
      out := out, entry := entry
      handled := s.handled || m = .stateUpdate .terminated }

/-- Once the gateway has handled the TERMINATED update nothing is left of
the session. -/
def CleanedUp (s : SessionEnd) : Prop := s.handled = true → s.entry.Clean

instance (s : SessionEnd) : Decidable s.CleanedUp := by
  unfold CleanedUp
  infer_instance

/-- When the cleanup lasts: the TERMINATED update is put into its channel
only when the output loop holds nothing and the bulk channel has nothing
of the session, and nothing is read or replayed afterwards. -/
def Drained (s : SessionEnd) : Act → Prop
  | .terminate => s.reading = none ∧ ∀ m ∈ s.out.queue .bulk, m.hasData = false
  | .read _ => s.ended = false
  | .replay _ => s.ended = false
  | _ => True

instance (s : SessionEnd) (a : Act) : Decidable (s.Drained a) := by
  cases a <;> dsimp only [Drained] <;> infer_instance

end SessionEnd

end Daao.Gateway

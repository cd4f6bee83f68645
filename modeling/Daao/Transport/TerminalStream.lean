/-
Daao.Transport.TerminalStream — the output half of `HandleTerminalStream`
(`internal/transport/websocket.go`): one client that polls one session's
ring buffer, while the gateway writes terminal data into it.

Two parties act on the shared buffer. The gateway handles `TerminalData`
and `BufferReplay` messages with `GetOrCreateBuffer` and `Write`; the
handler takes a snapshot when the client attaches and another one at
every tick of its 20 ms ticker. Each of these runs under the buffer's
mutex, so an interleaving is a list of `Act`s.

`HasBuffer` may be false when the client attaches. The handler then looks
again at each tick, and the tick that finds the buffer sends nothing.
WebSocket sends succeed.
-/
import Daao.Buffer.Ring

namespace Daao.Transport

open Daao.Lib Daao.Buffer

/-- The session's buffer and the handler's local variables. The handler's
`rb` is a pointer to the buffer in the pool, so it is modelled by whether
it has been set. -/
structure TerminalStream where
  /-- the session's entry in the ring buffer pool -/
  buffer : Option RingBuffer
  /-- `rb != nil` -/
  attached : Bool
  lastLen : Int
  sent : List (List Byte)
  deriving DecidableEq

variable (capacity : Int)

/-- `GetOrCreateBuffer`. The pool passes 0, the default capacity. -/
def getOrCreateBuffer (buffer : Option RingBuffer) : RingBuffer :=
  buffer.getD (newRingBuffer capacity)

/-- The gateway's handling of terminal data: empty data is not written. -/
def gatewayWrite (buffer : Option RingBuffer) (data : List Byte) : Option (Option RingBuffer) :=
  if data.length > 0 then
    (write (getOrCreateBuffer capacity buffer) data).map fun res => some res.1
  else some buffer

/-- From the upgrade to the ticker loop: find the buffer and flush its
scrollback. -/
def attach (buffer : Option RingBuffer) : Option TerminalStream :=
  match buffer with
  | none => some { buffer := none, attached := false, lastLen := 0, sent := [] }
  | some rb => do
    let (snapshot, sLen) ← snapshotWithLen rb
    if sLen > 0 then
      some { buffer := some rb, attached := true, lastLen := sLen, sent := [snapshot] }
    else some { buffer := some rb, attached := true, lastLen := 0, sent := [] }

/-- The bytes a tick sends: the new ones when the buffer grew, the full
content when it shrank. -/
def toSend (lastLen : Int) (snapshot : List Byte) (sLen : Int) : Option (List Byte) :=
  if sLen > lastLen then goSlice snapshot lastLen snapshot.length else some snapshot

def tick (st : TerminalStream) : Option TerminalStream :=
  if st.attached then do
    let rb ← st.buffer
    let (snapshot, sLen) ← snapshotWithLen rb
    if sLen = st.lastLen then some st
    else do
      let out ← toSend st.lastLen snapshot sLen
      if out.length > 0 then some { st with lastLen := sLen, sent := st.sent ++ [out] }
      else some st
  else some { st with attached := st.buffer.isSome }

inductive Act where
  | write (data : List Byte)
  | tick

def step (st : TerminalStream) : Act → Option TerminalStream
  | .write data =>
    (gatewayWrite capacity st.buffer data).map fun buffer => { st with buffer := buffer }
  | .tick => tick st

def written (acts : List Act) : List Byte :=
  acts.flatMap fun a => match a with
    | .write data => data
    | .tick => []

def bufferAfter (chunks : List (List Byte)) : Option (Option RingBuffer) :=
  chunks.foldlM (gatewayWrite capacity) none

end Daao.Transport

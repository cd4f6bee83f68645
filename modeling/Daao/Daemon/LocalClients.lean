/-
Daao.Daemon.LocalClients — terminals that are attached to a session on its
own machine (`forwardPtyOutput`, `addLocalClient` and `removeLocalClient`
in `cmd/daao/daemon.go`; `handleConnection` and `handleAttachSession` in
`cmd/daao/control.go`).

Three parties take the steps:

* the forwarder reads a chunk from the PTY, writes it to the ring buffer,
  takes `localClientsMu` for reading, writes the chunk to one registered
  connection after the other, gives the lock back, and hands the chunk to
  Nexus, which does not block;
* a connection's handler takes a snapshot of the ring buffer, writes a
  header and the snapshot, registers, and bridges input until the client
  has closed its sending side or the PTY fails. Then it unregisters, and
  only after that the connection is closed. It registers and unregisters
  under `localClientsMu`, so not while the forwarder holds it;
* a client reads, stops reading, closes its sending side, or hangs up.

A connection's socket buffer has `cap` bytes. A write puts one byte after
the other into it and waits while it is full; it fails once the connection
is closed. `headerLen` is the length of the header.

`chunks`, `fanned`, `hydration`, `mark` and `sent` are not in the source.
They record what was written to the ring buffer, how many of these chunks
have been taken to the registered clients, what a client was hydrated with
and after how many chunks, and the bytes behind the header that were
written to it.
-/
import Daao.Buffer.Ring
import Daao.Lib.Trace

namespace Daao.Daemon.LocalClients

open Daao.Buffer

/-! ## 1. The parties -/

inductive Phase where
  | requested
  /-- the bytes of the header that are left -/
  | header (left : Nat)
  | hydrating (left : List Byte)
  | registering
  | attached
  | detaching
  | removed
  | closed
  deriving DecidableEq

structure Client where
  phase : Phase
  connected : Bool
  /-- the client has closed its sending side -/
  eof : Bool
  stopped : Bool
  /-- the bytes in the socket buffer -/
  buffered : Nat
  hydration : List Byte
  mark : Nat
  sent : List Byte

def newClient : Client :=
  { phase := .requested, connected := true, eof := false, stopped := false, buffered := 0
    hydration := [], mark := 0, sent := [] }

inductive Forwarder where
  | reading
  /-- it has a chunk for the ring buffer -/
  | writing (data : List Byte)
  /-- in `localClientsMu.RLock` -/
  | locking (data : List Byte)
  /-- it holds the lock; the writes that are left, the first one begun -/
  | fanout (data : List Byte) (queue : List (Nat × List Byte))
  /-- it has given the lock back -/
  | sending (data : List Byte)
  | stopped
  deriving DecidableEq

structure Session where
  ring : RingBuffer
  forwarder : Forwarder
  clients : List Client
  localClients : List Nat
  chunks : List (List Byte)
  fanned : Nat
  nexus : List (List Byte)

def sessionWith (ring : RingBuffer) : Session :=
  { ring := ring, forwarder := .reading, clients := [], localClients := []
    chunks := [], fanned := 0, nexus := [] }

def newSession : Session := sessionWith (newRingBuffer 0)

def Session.locked (s : Session) : Bool :=
  match s.forwarder with
  | .fanout _ _ => true
  | _ => false

/-! ## 2. The steps -/

inductive ForwarderAct where
  | ptyRead (data : List Byte)
  | ptyEnd
  | ringWrite
  | rLock
  | push
  | next
  | rUnlock
  | sendToNexus

inductive ClientAct where
  -- the handler
  | snapshot
  | writeHeader
  | hydrate
  | register
  /-- the loop ends: there is no more input, or the PTY cannot be written -/
  | leave (ptyError : Bool)
  | remove
  | close
  /-- a write of the header or of the snapshot fails -/
  | abort
  -- the client
  | read
  | stopReading
  | halfClose
  | hangUp

inductive Act where
  | forward (a : ForwarderAct)
  | connect
  | client (c : Nat) (a : ClientAct)

variable (cap headerLen : Nat)

def Client.put (cl : Client) (payload : List Byte) : Option Client :=
  if cl.connected ∧ cl.buffered < cap then
    some { cl with buffered := cl.buffered + 1, sent := cl.sent ++ payload }
  else none

def writeReturns (cl : Client) (left : List Byte) : Bool := left.isEmpty || !cl.connected

def forwarderStep (s : Session) : ForwarderAct → Option Session
  | .ptyRead data =>
    if s.forwarder = .reading ∧ data ≠ [] then some { s with forwarder := .writing data } else none
  | .ptyEnd => if s.forwarder = .reading then some { s with forwarder := .stopped } else none
  | .ringWrite =>
    match s.forwarder with
    | .writing data =>
      (write s.ring data).map fun result =>
        { s with ring := result.1, forwarder := .locking data, chunks := s.chunks ++ [data] }
    | _ => none
  | .rLock =>
    match s.forwarder with
    | .locking data =>
      some { s with
        forwarder := .fanout data (s.localClients.map fun c => (c, data)), fanned := s.fanned + 1 }
    | _ => none
  | .push =>
    match s.forwarder with
    | .fanout data ((c, b :: left) :: queue) => do
      let cl ← s.clients[c]?
      let cl' ← cl.put cap [b]
      some { s with forwarder := .fanout data ((c, left) :: queue), clients := s.clients.set c cl' }
    | _ => none
  | .next =>
    match s.forwarder with
    | .fanout data ((c, left) :: queue) => do
      let cl ← s.clients[c]?
      if writeReturns cl left then some { s with forwarder := .fanout data queue } else none
    | _ => none
  | .rUnlock =>
    match s.forwarder with
    | .fanout data [] => some { s with forwarder := .sending data }
    | _ => none
  | .sendToNexus =>
    match s.forwarder with
    | .sending data => some { s with forwarder := .reading, nexus := s.nexus ++ [data] }
    | _ => none

def clientStep (s : Session) (cl : Client) : ClientAct → Option Client
  | .snapshot =>
    if cl.phase = .requested then
      (snapshot s.ring).map fun hydration =>
        { cl with phase := .header headerLen, hydration := hydration, mark := s.chunks.length }
    else none
  | .writeHeader =>
    match cl.phase with
    | .header (left + 1) => (cl.put cap []).map fun cl => { cl with phase := .header left }
    | .header 0 => some { cl with phase := .hydrating cl.hydration }
    | _ => none
  | .hydrate =>
    match cl.phase with
    | .hydrating (b :: left) => (cl.put cap [b]).map fun cl => { cl with phase := .hydrating left }
    | .hydrating [] => some { cl with phase := .registering }
    | _ => none
  | .register =>
    if cl.phase = .registering ∧ s.locked = false then some { cl with phase := .attached } else none
  | .leave ptyError =>
    if cl.phase = .attached ∧ (ptyError ∨ cl.eof ∨ cl.connected = false) then
      some { cl with phase := .detaching }
    else none
  | .remove =>
    if cl.phase = .detaching ∧ s.locked = false then some { cl with phase := .removed } else none
  | .close =>
    if cl.phase = .removed then some { cl with phase := .closed, connected := false } else none
  | .abort =>
    match cl.phase with
    | .header _ | .hydrating _ =>
      if cl.connected then none else some { cl with phase := .closed }
    | _ => none
  | .read =>
    if cl.connected ∧ cl.stopped = false ∧ 0 < cl.buffered then
      some { cl with buffered := cl.buffered - 1 }
    else none
  | .stopReading => some { cl with stopped := true }
  | .halfClose => some { cl with eof := true }
  | .hangUp => some { cl with connected := false }

def members (localClients : List Nat) (c : Nat) : ClientAct → List Nat
  | .register => localClients ++ [c]
  | .remove => localClients.erase c
  | _ => localClients

def step (s : Session) : Act → Option Session
  | .forward a => forwarderStep cap s a
  | .connect => some { s with clients := s.clients ++ [newClient] }
  | .client c a => do
    let cl ← s.clients[c]?
    let cl' ← clientStep cap headerLen s cl a
    some { s with clients := s.clients.set c cl', localClients := members s.localClients c a }

/-! ## 3. What is wanted -/

def Session.pending (s : Session) (c : Nat) : List Byte :=
  match s.forwarder with
  | .fanout _ queue => (queue.lookup c).getD []
  | _ => []

/-- The chunks that are in the ring buffer and have not been taken to the
clients. -/
def Session.toCome (s : Session) : List (List Byte) := s.chunks.drop s.fanned

/-- What a client was sent, what it still gets in this round, and what is
to come, is the scrollback it was hydrated with and then everything that
was written to the ring buffer afterwards. -/
def Seamless (s : Session) (c : Nat) (cl : Client) : Prop :=
  cl.sent ++ s.pending c ++ s.toCome.flatten
    = cl.hydration ++ (s.chunks.drop cl.mark).flatten

def Session.Serves (s : Session) (c : Nat) (cl : Client) : Prop :=
  s.clients[c]? = some cl ∧ c ∈ s.localClients ∧ cl.connected = true

/-- The forwarder waits for room in a client's socket buffer, and the
client's handler for the lock that the forwarder holds. -/
structure MutualWait (s : Session) (c : Nat) : Prop where
  writes : ∃ data b left queue, s.forwarder = .fanout data ((c, b :: left) :: queue)
  client : ∃ cl, s.clients[c]? = some cl ∧ cl.phase = .detaching ∧ cl.connected = true
    ∧ cap ≤ cl.buffered ∧ cl.stopped = true

def Session.toRing (s : Session) : List (List Byte) :=
  match s.forwarder with
  | .writing data => [data]
  | _ => []

def Session.toNexus (s : Session) : List (List Byte) :=
  match s.forwarder with
  | .writing data | .locking data | .fanout data _ | .sending data => [data]
  | _ => []

def Session.toClient (s : Session) (c : Nat) : List Byte :=
  match s.forwarder with
  | .writing data | .locking data => data
  | .fanout _ queue => (queue.lookup c).getD []
  | _ => []

structure Delivered (s s' : Session) : Prop where
  idle : s'.toNexus = []
  ring : s'.chunks = s.chunks ++ s.toRing
  nexus : s'.nexus = s.nexus ++ s.toNexus
  clients : ∀ c cl, s.Serves c cl →
    ∃ cl', s'.clients[c]? = some cl' ∧ cl'.sent = cl.sent ++ s.toClient c

def Act.delivers : Act → Bool
  | .forward (.ptyRead _) | .forward .ptyEnd => false
  | .forward _ | .client _ .read => true
  | _ => false

end Daao.Daemon.LocalClients

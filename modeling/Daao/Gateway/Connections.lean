/-
Daao.Gateway.Connections — the connections of one satellite, and what they
do to the stream registry and to the satellite's status
(`internal/grpc/gateway.go`, `Connect`).

Each connection runs `Connect` on its own: a register request, then
session messages one after the other, then a failing `Recv` and the
deferred cleanup. What connections share is the registry and the
`satellites` row. `connect` is the local program: an event takes the
connection's own variables to new ones and makes at most one access to
the shared state, its `Effect`. Between any two events of a connection
every other connection may act.

Connections are numbered in the order in which they were opened. A
connection's channel in the registry is the connection's number.
-/
import Daao.Stream.Registry
import Daao.Sessions.StateUpdates

namespace Daao.Gateway

open Daao.Stream Daao.Sessions

inductive SatelliteStatus where
  | pending
  | active
  | offline
  deriving DecidableEq

inductive Phase where
  | opened
  /-- the register request has updated the `satellites` row -/
  | registering
  | receiving
  /-- in the handling of a TERMINATED update, after `registerSession` -/
  | terminating (sid : String)
  /-- in `unregisterAll`, with these sessions left -/
  | cleaningUp (left : List String)
  /-- the satellite stream is unregistered, the status not yet written -/
  | unregistered
  | closed

/-- The local variables of `Connect` that the cleanup reads. `live` is not
one of them: it lists the sessions from which the connection has processed
a message and no termination since. -/
structure Connection where
  phase : Phase
  /-- `none` is the empty string, before the register request -/
  satelliteID : Option String
  sessionIDs : List String
  live : List String

def Connection.new : Connection :=
  { phase := .opened, satelliteID := none, sessionIDs := [], live := [] }

inductive Message where
  | terminalData (sid : String)
  | bufferReplay (sid : String)
  | sessionStateUpdate (sid : String) (state : ProtoState)
  | agentEvent (sid : String)
  | ipcEvent (sid : String)
  | heartbeatPing
  | telemetryReport
  | contextFileUpdate

/-- What happens on a connection, cut at the accesses to shared state. -/
inductive Event where
  | register
  | registerSatellite
  | message (m : Message)
  /-- the `UnregisterStream` of a TERMINATED update -/
  | unregister
  | disconnect
  | cleanupSession (sid : String)
  | cleanupSatellite
  | cleanupStatus

/-- An access to the shared state, by the connection whose channel it is. -/
inductive Effect where
  | none
  | setStatus (status : SatelliteStatus)
  | registerStream (sid : String)
  | unregisterStream (sid : String)
  | registerSatelliteStream (satelliteID : String)
  | unregisterSatelliteStream (satelliteID : String)

namespace Connection

variable (conn : Connection)

def registerSession (sid : String) : Connection × Effect :=
  if sid = "" then (conn, .none)
  else if sid ∈ conn.sessionIDs then (conn, .none)
  else ({ conn with sessionIDs := sid :: conn.sessionIDs }, .registerStream sid)

def markLive (sid : String) : Connection :=
  if sid = "" then conn else { conn with live := sid :: conn.live }

def markTerminating (sid : String) : Connection :=
  { conn with phase := .terminating sid, live := conn.live.filter (· ≠ sid) }

/-- The handling of one message, up to the unregistration of a terminated
session. -/
def handle : Message → Connection × Effect
  | .terminalData sid => ((conn.registerSession sid).1.markLive sid, (conn.registerSession sid).2)
  | .bufferReplay sid => ((conn.registerSession sid).1.markLive sid, (conn.registerSession sid).2)
  | .sessionStateUpdate sid state =>
    if sid ≠ "" ∧ state = .terminated then
      ((conn.registerSession sid).1.markTerminating sid, (conn.registerSession sid).2)
    else ((conn.registerSession sid).1.markLive sid, (conn.registerSession sid).2)
  -- agent and IPC events do not register their session
  | .agentEvent sid => (conn.markLive sid, .none)
  | .ipcEvent sid => (conn.markLive sid, .none)
  | .heartbeatPing => (conn, if conn.satelliteID.isSome then .setStatus .active else .none)
  | .telemetryReport => (conn, .none)
  | .contextFileUpdate => (conn, .none)

/-- `Connect`, one event at a time. The register request comes first. -/
def connect (satellite : String) (conn : Connection) : Event → Option (Connection × Effect)
  | .register =>
    match conn.phase with
    | .opened =>
      some ({ conn with phase := .registering, satelliteID := some satellite }, .setStatus .active)
    | _ => none
  | .registerSatellite =>
    match conn.phase, conn.satelliteID with
    | .registering, some satelliteID =>
      some ({ conn with phase := .receiving }, .registerSatelliteStream satelliteID)
    | _, _ => none
  | .message m =>
    match conn.phase with
    | .receiving => some (conn.handle m)
    | _ => none
  | .unregister =>
    match conn.phase with
    | .terminating sid =>
      some ({ conn with phase := .receiving, sessionIDs := conn.sessionIDs.filter (· ≠ sid) },
        .unregisterStream sid)
    | _ => none
  | .disconnect =>
    match conn.phase with
    | .opened => some ({ conn with phase := .closed }, .none)
    | .receiving => some ({ conn with phase := .cleaningUp conn.sessionIDs }, .none)
    | _ => none
  | .cleanupSession sid =>
    match conn.phase with
    | .cleaningUp left =>
      if sid ∈ left then
        some ({ conn with phase := .cleaningUp (left.filter (· ≠ sid)) }, .unregisterStream sid)
      else none
    | _ => none
  | .cleanupSatellite =>
    match conn.phase, conn.satelliteID with
    | .cleaningUp [], some satelliteID =>
      some ({ conn with phase := .unregistered }, .unregisterSatelliteStream satelliteID)
    | _, _ => none
  | .cleanupStatus =>
    match conn.phase with
    | .unregistered => some ({ conn with phase := .closed }, .setStatus .offline)
    | _ => none

end Connection

structure State (n : Nat) where
  registry : StreamRegistry (Fin n)
  status : SatelliteStatus
  conns : Fin n → Connection

structure Act (n : Nat) where
  conn : Fin n
  event : Event

namespace State

variable {n : Nat}

def start (status : SatelliteStatus) : State n :=
  { registry := .new, status := status, conns := fun _ => .new }

def access (g : State n) (c : Fin n) : Effect → State n
  | .none => g
  | .setStatus status => { g with status := status }
  | .registerStream sid => { g with registry := g.registry.registerStream sid c }
  | .unregisterStream sid => { g with registry := g.registry.unregisterStream sid }
  | .registerSatelliteStream sat => { g with registry := g.registry.registerSatelliteStream sat c }
  | .unregisterSatelliteStream sat =>
    { g with registry := g.registry.unregisterSatelliteStream sat }

end State

def step {n : Nat} (satellite : String) (g : State n) (a : Act n) : Option (State n) :=
  ((g.conns a.conn).connect satellite a.event).map fun res =>
    { g.access a.conn res.2 with conns := Function.update g.conns a.conn res.1 }

end Daao.Gateway

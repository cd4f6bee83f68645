/-
Daao.Gateway.Reconciliation — a satellite's registration, the creation of
sessions, and the reconciliation list that tells the satellite which of
its sessions to keep.

Four parties share the database, the stream registry and the satellite's
channel:

* a gateway connection, which registers its channel, queries the ids of
  the sessions that are not terminated, and sends them
  (`internal/grpc/gateway.go`, the `RegisterRequest` case of `Connect`);
* any number of `HandleCreateSession` requests, each of which inserts a
  row, looks the satellite's channel up and sends a start command on it
  (`internal/api/handlers.go`, `internal/stream/registry.go`);
* the connection's sender, which moves messages from the channel to the
  wire;
* the satellite, which handles the messages of its current connection in
  order (`cmd/daao/daemon.go`).

Each access to something shared is one act, so the list a connection
sends may be older than the start commands sent before it. Connections
are numbered in the order in which the satellite opens them.
-/
import Daao.Daemon.Messages
import Daao.Lib.Table
import Daao.Lib.Trace
import Daao.Stream.Registry

namespace Daao.Gateway

open Daao.Lib Daao.Sessions Daao.Stream Daao.Daemon

/-! ## 1. The sessions table -/

structure SessionRow where
  id : String
  satelliteID : String
  session : Session

abbrev SessionTable := Table SessionRow.id

namespace SessionTable

variable (t : SessionTable)

/-- `CreateSession` of the store, for a session as `HandleCreateSession`
makes it. -/
def createSession (id satelliteID : String) (now : Nat) : Option SessionTable :=
  Table.insert t
    { id := id, satelliteID := satelliteID
      session := { state := .provisioning, lastActivityAt := now, startedAt := none
                   detachedAt := none, suspendedAt := none, terminatedAt := none } }

def transitionSession (id : String) (newState : SessionState) (now : Nat) :
    Except StoreError SessionTable :=
  match Table.find? t id with
  | none => .error .sessionNotFound
  | some row =>
    match Sessions.transitionSession row.session newState now with
    | .error e => .error e
    | .ok updated =>
      .ok (Table.modify t id (fun row => { row with session := updated }) fun _ => rfl)

/-- `SELECT id::text FROM sessions WHERE satellite_id::text = $1 AND state
NOT IN ('TERMINATED')`. -/
def activeIDs (satelliteID : String) : List String :=
  (t.rows.filter fun row => row.satelliteID = satelliteID ∧ row.session.state ≠ .terminated).map
    SessionRow.id

def IsActive (id : String) : Prop :=
  ∃ row, Table.find? t id = some row ∧ row.session.state ≠ .terminated

def IsOf (satelliteID id : String) : Prop :=
  ∃ row, Table.find? t id = some row ∧ row.satelliteID = satelliteID

end SessionTable

/-! ## 2. Connections and requests -/

inductive Registration where
  | idle
  | registered
  /-- the query has returned these ids -/
  | queried (activeIDs : List String)
  deriving DecidableEq

structure Outbound where
  registration : Registration
  outboundCh : List NexusMessage
  wire : List NexusMessage

namespace Outbound

def new : Outbound := { registration := .idle, outboundCh := [], wire := [] }

def capacity : Nat := 100

/-- A `select` with a `default`: the message is dropped if the channel is
full. -/
def send (conn : Outbound) (m : NexusMessage) : Outbound :=
  if conn.outboundCh.length < capacity then { conn with outboundCh := conn.outboundCh ++ [m] }
  else conn

end Outbound

inductive CreationPhase where
  | inserted
  /-- `SendToSatellite` has looked this channel up -/
  | lookedUp (ch : Nat)

structure Creation where
  sessionID : String
  satelliteID : String
  phase : CreationPhase

structure Reconciliation where
  table : SessionTable
  registry : StreamRegistry Nat
  conns : Nat → Outbound
  creations : List Creation
  /-- the connection the satellite has opened last and reads from -/
  stream : Nat
  sessions : Sessions

namespace Reconciliation

/-- The satellite starts without sessions and opens its first connection;
the table may have rows of earlier times. -/
def start (table : SessionTable) : Reconciliation :=
  { table := table, registry := .new, conns := fun _ => .new, creations := [], stream := 0
    sessions := fun _ => none }

inductive Act where
  | register (c : Nat)
  | query (c : Nat)
  | queryFailed (c : Nat)
  | sendReconciliation (c : Nat)
  /-- another message for the satellite, such as an update notice or a
  command -/
  | sendOther (c : Nat) (m : NexusMessage)
  | unregister (c : Nat)
  | insert (id satelliteID : String) (now : Nat)
  | lookUp (i : Nat)
  | dispatch (i : Nat)
  | transmit (c : Nat)
  | handle (created : Bool)
  /-- the daemon sets the state of a session (its process exits, the dead
  man's switch fires) -/
  | setState (sessionID : String) (state : SessionState)
  | reconnect
  | transition (id : String) (newState : SessionState) (now : Nat)

def setConn (s : Reconciliation) (c : Nat) (conn : Outbound) : Reconciliation :=
  { s with conns := Function.update s.conns c conn }

def isOther : NexusMessage → Bool
  | .startSessionCommand _ => false
  | .sessionReconciliation _ => false
  | _ => true

def step (satellite : String) (s : Reconciliation) : Act → Option Reconciliation
  | .register c =>
    if c ≤ s.stream ∧ (s.conns c).registration = .idle then
      some { s.setConn c { s.conns c with registration := .registered } with
        registry := s.registry.registerSatelliteStream satellite c }
    else none
  | .query c =>
    if (s.conns c).registration = .registered then
      some (s.setConn c { s.conns c with
        registration := .queried (s.table.activeIDs satellite) })
    else none
  | .queryFailed c =>
    if (s.conns c).registration = .registered then
      some (s.setConn c { s.conns c with registration := .idle })
    else none
  | .sendReconciliation c =>
    match (s.conns c).registration with
    | .queried activeIDs =>
      some (s.setConn c
        (({ s.conns c with registration := .idle } : Outbound).send
          (.sessionReconciliation activeIDs)))
    | _ => none
  | .sendOther c m =>
    if c ≤ s.stream ∧ isOther m then some (s.setConn c ((s.conns c).send m)) else none
  | .unregister c =>
    if c ≤ s.stream then
      some { s with registry := s.registry.unregisterSatelliteStream satellite }
    else none
  | .insert id satelliteID now =>
    (s.table.createSession id satelliteID now).map fun table =>
      { s with
        table := table
        creations := s.creations ++
          [{ sessionID := id, satelliteID := satelliteID, phase := .inserted }] }
  | .lookUp i =>
    match s.creations[i]? with
    | some { sessionID, satelliteID, phase := .inserted } =>
      match s.registry.satelliteStreams satelliteID with
      | none => some { s with creations := s.creations.eraseIdx i }
      | some ch => some { s with
          creations := s.creations.set i { sessionID, satelliteID, phase := .lookedUp ch } }
    | _ => none
  | .dispatch i =>
    match s.creations[i]? with
    | some { sessionID, phase := .lookedUp ch, .. } =>
      some { s.setConn ch ((s.conns ch).send (.startSessionCommand sessionID)) with
        creations := s.creations.eraseIdx i }
    | _ => none
  | .transmit c =>
    match (s.conns c).outboundCh with
    | m :: rest => some (s.setConn c { s.conns c with
        outboundCh := rest, wire := (s.conns c).wire ++ [m] })
    | [] => none
  | .handle created =>
    match (s.conns s.stream).wire with
    | m :: rest => some { s.setConn s.stream { s.conns s.stream with wire := rest } with
        sessions := handleNexusMessage s.sessions created m }
    | [] => none
  | .setState sessionID state => some { s with sessions := setState s.sessions sessionID state }
  | .reconnect => some { s with stream := s.stream + 1 }
  | .transition id newState now =>
    match s.table.transitionSession id newState now with
    | .error _ => some s
    | .ok table => some { s with table := table }

end Reconciliation

end Daao.Gateway

/-
Daao.Gateway.Switchboard — the connections of all satellites on what they
share: the stream registry, the ring buffer pool, the `sessions` table and
the runs' events (`internal/grpc/gateway.go`, `Connect`;
`internal/stream/registry.go`; the senders of `internal/api/handlers.go`,
`internal/api/agents.go` and `internal/transport/websocket.go`).

A message of a satellite names a session, and the handler uses that id for
everything: as the key of the registry and of the pool, for the row whose
state is changed, and for the run an event belongs to. No handler compares
it with the satellite the connection is registered as, so a satellite may
put any id into any message, and here it may.

Handling a message is a sequence of accesses to what is shared. They stand
in the connection's `todo` and are made one by one, with steps of other
parties in between; the events of runs are stored by goroutines, in any
order. `SendToSession` and `SendToSatellite` look a channel up and send on
it afterwards.

Connections are numbered, and a connection's channel is its number. `parse`
is `uuid.Parse`. `owner` is the `satellite_id` with which a session's row
is inserted: it is never changed, and ids are not used again. Left out are
the statuses the gateway writes to runs and satellites, and the event log.
-/
import Daao.Database.AgentRuns
import Daao.Sessions.StateUpdates
import Daao.Stream.Registry
import Daao.Transport.TerminalInput

namespace Daao.Gateway

open Daao.Buffer Daao.Database Daao.Sessions Daao.Stream Daao.Transport

/-! ## 1. Messages in both directions -/

inductive SatelliteMessage where
  | terminalData (sid : String) (data : List Byte)
  | bufferReplay (sid : String) (data : List Byte)
  | sessionStateUpdate (sid : String) (state : ProtoState)
  | agentEvent (sid : String) (eventType : String) (payload : List Byte)
  /-- heartbeats, telemetry, context files and IPC events touch none of
  what is modelled -/
  | other

def SatelliteMessage.sid : SatelliteMessage → Option String
  | .terminalData sid _ => some sid
  | .bufferReplay sid _ => some sid
  | .sessionStateUpdate sid _ => some sid
  | .agentEvent sid _ _ => some sid
  | .other => none

structure SequencedEvent where
  eventType : String
  payload : List Byte
  sequence : Nat
  deriving DecidableEq

inductive CommandKind where
  | startSession
  | suspend
  | resume
  | kill
  deriving DecidableEq

inductive Addressed (Id : Type) where
  /-- by `SendToSession`: terminal input and resize commands -/
  | input (sid : String) (m : ToSession)
  /-- by `SendToSatellite`, to the satellite in the session's row -/
  | command (id : Id) (kind : CommandKind)
  /-- by `SendToSatellite`, to the satellite in the deploy request -/
  | deployAgent (id : Id)
  deriving DecidableEq

def Addressed.session {Id : Type} (parse : String → Option Id) : Addressed Id → Option Id
  | .input sid _ => parse sid
  | .command id _ => some id
  | .deployAgent id => some id

/-! ## 2. A connection -/

inductive Access (Id : Type) where
  | registerSatelliteStream (key : String)
  | unregisterSatelliteStream (key : String)
  | registerStream (sid : String)
  | unregisterStream (sid : String)
  | writeBuffer (sid : String) (data : List Byte)
  | removeBuffer (sid : String)
  | getSession (sid : String) (target : SessionState)
  | updateState (sid : String) (id : Id) (target : SessionState)
  | findRun (sid : String) (event : SequencedEvent)

/-- The variables of `Connect`, and two records: the ids the connection was
registered under, and the session ids in the messages it received. -/
structure SatelliteConn (Id Run : Type) where
  closed : Bool
  satelliteID : Option String
  sessionIDs : List String
  sessionRunMap : String → Option Run
  agentSeq : String → Nat
  todo : List (Access Id)
  /-- events whose run was found and that are not stored yet -/
  unstored : List (Run × SequencedEvent)
  registeredAs : List String
  heard : List String

namespace SatelliteConn

variable {Id Run : Type}

def new : SatelliteConn Id Run :=
  { closed := false, satelliteID := none, sessionIDs := [], sessionRunMap := fun _ => none
    agentSeq := fun _ => 0, todo := [], unstored := [], registeredAs := [], heard := [] }

variable (conn : SatelliteConn Id Run)

def plan (accesses : List (Access Id)) : SatelliteConn Id Run :=
  { conn with todo := conn.todo ++ accesses }

def registerSession (sid : String) : SatelliteConn Id Run :=
  if sid = "" ∨ sid ∈ conn.sessionIDs then conn
  else { conn with sessionIDs := sid :: conn.sessionIDs }.plan [.registerStream sid]

def register (key : String) : SatelliteConn Id Run :=
  { conn with satelliteID := some key, registeredAs := key :: conn.registeredAs }.plan
    [.registerSatelliteStream key]

def storeData (sid : String) (data : List Byte) : SatelliteConn Id Run :=
  (conn.registerSession sid).plan
    (if sid ≠ "" ∧ data.length > 0 then [.writeBuffer sid data] else [])

/-- A session state update. `sessionIDs` is the connection's own, so the
deletion of a terminated session may be brought forward. -/
def updateSession (sid : String) (state : ProtoState) : SatelliteConn Id Run :=
  let conn := conn.registerSession sid
  if sid = "" then conn
  else
    let conn := conn.plan [.getSession sid (convertProtoToSessionState state)]
    if state = .terminated then
      { conn with sessionIDs := conn.sessionIDs.filter (· ≠ sid) }.plan
        [.removeBuffer sid, .unregisterStream sid]
    else conn

/-- An agent event: it is counted, whether or not it has a run. -/
def countEvent (sid eventType : String) (payload : List Byte) : SatelliteConn Id Run :=
  let sequence := conn.agentSeq sid + 1
  { conn with agentSeq := Function.update conn.agentSeq sid sequence }.plan
    [.findRun sid { eventType := eventType, payload := payload, sequence := sequence }]

def handle : SatelliteMessage → SatelliteConn Id Run
  | .terminalData sid data => conn.storeData sid data
  | .bufferReplay sid data => conn.storeData sid data
  | .sessionStateUpdate sid state => conn.updateSession sid state
  | .agentEvent sid eventType payload => conn.countEvent sid eventType payload
  | .other => conn

def receive (m : SatelliteMessage) : SatelliteConn Id Run :=
  { conn with heard := m.sid.toList ++ conn.heard }.handle m

/-- `Recv` returns an error: the deferred cleanup, which goes through
`sessionIDs` in some order. -/
def disconnect (order : List String) : SatelliteConn Id Run :=
  { conn with closed := true }.plan
    (order.map Access.unregisterStream ++
      (conn.satelliteID.map Access.unregisterSatelliteStream).toList)

/-- The run of an event is found: it is cached, and the event is to be
stored. -/
def foundRun (sid : String) (run : Run) (event : SequencedEvent) : SatelliteConn Id Run :=
  { conn with
    sessionRunMap := Function.update conn.sessionRunMap sid (some run)
    unstored := conn.unstored ++ [(run, event)] }

end SatelliteConn

/-! ## 3. All connections -/

structure Switchboard (Id Run : Type) where
  rows : SessionRows Id
  runs : AgentRuns Run
  registry : StreamRegistry Nat
  buffers : String → Option RingBuffer
  /-- the events of a run that were published to the hub, and those in the
  database -/
  published : Run → List SequencedEvent
  stored : Run → List SequencedEvent
  conns : Nat → SatelliteConn Id Run
  /-- sends that have looked their channel up -/
  sending : List (Nat × Addressed Id)
  outbound : Nat → List (Addressed Id)

namespace Switchboard

def channelSize : Nat := 100

inductive Act (Id Run : Type) where
  /-- requests of users -/
  | createSession (id : Id) (now : Nat)
  /-- `HandleDeleteSession`, which has read the row before, and then removes
  the ring buffer -/
  | deleteSession (id : Id)
  | deleteBuffer (sid : String)
  | transition (id : Id) (newState : SessionState) (now : Nat)
  | createRun (run : Run) (sid : String) (startedAt : Nat)
  /-- any change of a run's status, by whomever -/
  | updateRun (run : Run) (status : RunStatus)
  | register (c : Nat) (key : String)
  | message (c : Nat) (m : SatelliteMessage)
  /-- a connection makes its next access; `found` is the database's answer
  if it is asked for a run -/
  | access (c : Nat) (now : Nat) (found : Option Run)
  | store (c : Nat) (i : Nat)
  | disconnect (c : Nat) (order : List String)
  /-- `SendToSession` looks up the channel -/
  | sendToSession (sid : String) (m : ToSession)
  /-- `SendToSatellite` looks up the channel, for a command to a session -/
  | sendCommand (id : Id) (kind : CommandKind) (key : String)
  /-- and for a deploy request, which names a session and a satellite -/
  | deployAgent (id : Id) (key : String)
  /-- send `i` puts its message on the channel, or drops it -/
  | place (i : Nat)
  | transmit (c : Nat)

variable {Id Run : Type} [DecidableEq Id] [DecidableEq Run]

def Act.conn : Act Id Run → Option Nat
  | .access c _ _ => some c
  | .store c _ => some c
  | _ => none

def Act.isRequest : Act Id Run → Bool
  | .createSession _ _ => true
  | .deleteSession _ => true
  | .deleteBuffer _ => true
  | .transition _ _ _ => true
  | _ => false

def start : Switchboard Id Run :=
  { rows := fun _ => none, runs := .empty, registry := .new, buffers := fun _ => none
    published := fun _ => [], stored := fun _ => [], conns := fun _ => .new
    sending := [], outbound := fun _ => [] }

def setConn (s : Switchboard Id Run) (c : Nat) (conn : SatelliteConn Id Run) : Switchboard Id Run :=
  { s with conns := Function.update s.conns c conn }

variable (parse : String → Option Id)

/-- The row of the session is there. A run whose session was deleted has
no session any more. -/
def hasRow (s : Switchboard Id Run) (sid : String) : Bool :=
  ((parse sid).bind s.rows).isSome

/-- The run of an event: the cached one, else what the database answers;
`none` if it cannot answer `found`. -/
def lookUpRun (s : Switchboard Id Run) (c : Nat) (sid : String) (found : Option Run) :
    Option (Option Run) :=
  match (s.conns c).sessionRunMap sid with
  | some run => some (some run)
  | none =>
    if sid = "" ∨ s.hasRow parse sid = false then some none
    else if s.runs.IsLatestRunning sid found then some found else none

def publish (s : Switchboard Id Run) (c : Nat) (sid : String) (run : Run)
    (event : SequencedEvent) : Switchboard Id Run :=
  { s.setConn c ((s.conns c).foundRun sid run event) with
    published := Function.update s.published run (s.published run ++ [event]) }

def readSession (s : Switchboard Id Run) (c : Nat) (sid : String) (target : SessionState)
    (now : Nat) : Switchboard Id Run :=
  match parse sid with
  | none => s
  | some id => match SessionStore.getSession s.rows id with
    | .error _ => s
    | .ok existing => match transitionSession existing target now with
      | .error _ => s
      | .ok updated => s.setConn c { s.conns c with
          todo := .updateState sid id updated.state :: (s.conns c).todo }

def exec (capacity : Int) (s : Switchboard Id Run) (c : Nat) (now : Nat) (found : Option Run) :
    Access Id → Option (Switchboard Id Run)
  | .registerSatelliteStream key =>
    some { s with registry := s.registry.registerSatelliteStream key c }
  | .unregisterSatelliteStream key =>
    some { s with registry := s.registry.unregisterSatelliteStream key }
  | .registerStream sid => some { s with registry := s.registry.registerStream sid c }
  | .unregisterStream sid => some { s with registry := s.registry.unregisterStream sid }
  | .writeBuffer sid data => (gatewayWrite capacity (s.buffers sid) data).map fun buffer =>
    { s with buffers := Function.update s.buffers sid buffer }
  | .removeBuffer sid => some { s with buffers := Function.update s.buffers sid none }
  | .getSession sid target => some (s.readSession parse c sid target now)
  | .updateState _ id target =>
    match SessionStore.updateState s.rows id target now with
    | .error _ => some s
    | .ok rows => some { s with rows := rows }
  | .findRun sid event => (s.lookUpRun parse c sid found).map fun
    | none => s
    | some run => s.publish c sid run event

def beginSend (s : Switchboard Id Run) (channel : Option Nat) (m : Addressed Id) :
    Switchboard Id Run :=
  { s with sending := s.sending ++ (channel.map fun c => (c, m)).toList }

def place (s : Switchboard Id Run) (c : Nat) (m : Addressed Id) : Switchboard Id Run :=
  if (s.outbound c).length < channelSize then
    { s with outbound := Function.update s.outbound c (s.outbound c ++ [m]) }
  else s

def step (owner : Id → Option Id) (capacity : Int) (s : Switchboard Id Run) :
    Act Id Run → Option (Switchboard Id Run)
  | .createSession id now =>
    if (owner id).isSome ∧ s.rows id = none then some { s with
      rows := Function.update s.rows id (some
        { state := .provisioning, lastActivityAt := now, startedAt := none, detachedAt := none
          suspendedAt := none, terminatedAt := none }) }
    else none
  | .deleteSession id => some { s with rows := Function.update s.rows id none }
  | .deleteBuffer sid => some { s with buffers := Function.update s.buffers sid none }
  | .transition id newState now =>
    match SessionStore.transitionSession s.rows id newState now with
    | .error _ => some s
    | .ok (rows, _) => some { s with rows := rows }
  | .createRun run sid startedAt =>
    if s.hasRow parse sid then
      (s.runs.createAgentRun run sid startedAt).map fun runs => { s with runs := runs }
    else none
  | .updateRun run status => some { s with runs := s.runs.updateAgentRun run status }
  | .register c key =>
    if (s.conns c).closed = false ∧ (s.conns c).todo = [] then
      some (s.setConn c ((s.conns c).register key))
    else none
  | .message c m =>
    if (s.conns c).closed = false ∧ (s.conns c).todo = [] then
      some (s.setConn c ((s.conns c).receive m))
    else none
  | .access c now found =>
    match (s.conns c).todo with
    | [] => none
    | a :: rest =>
      exec parse capacity (s.setConn c { s.conns c with todo := rest }) c now found a
  | .store c i =>
    match (s.conns c).unstored[i]? with
    | none => none
    | some (run, event) => some { s.setConn c { s.conns c with
        unstored := (s.conns c).unstored.eraseIdx i } with
      stored := Function.update s.stored run (s.stored run ++ [event]) }
  | .disconnect c order =>
    if (s.conns c).closed = false ∧ (s.conns c).todo = [] ∧ order.Perm (s.conns c).sessionIDs then
      some (s.setConn c ((s.conns c).disconnect order))
    else none
  | .sendToSession sid m => some (s.beginSend (s.registry.sessionStreams sid) (.input sid m))
  | .sendCommand id kind key =>
    -- the key is the text of the satellite's id: in a start command as the
    -- request has it, else as it is printed
    if (owner id).isSome ∧ parse key = owner id then
      some (s.beginSend (s.registry.satelliteStreams key) (.command id kind))
    else none
  | .deployAgent id key =>
    if (s.rows id).isSome then
      some (s.beginSend (s.registry.satelliteStreams key) (.deployAgent id))
    else none
  | .place i =>
    match s.sending[i]? with
    | none => none
    | some (c, m) => some ({ s with sending := s.sending.eraseIdx i }.place c m)
  | .transmit c =>
    match s.outbound c with
    | [] => none
    | _ :: rest => some { s with outbound := Function.update s.outbound c rest }

/-! ## 4. Isolation -/

def IsOf (s : Switchboard Id Run) (c : Nat) (satellite : Id) : Prop :=
  ∃ key ∈ (s.conns c).registeredAs, parse key = some satellite

instance (s : Switchboard Id Run) (c : Nat) (satellite : Id) :
    Decidable (s.IsOf parse c satellite) := by
  unfold IsOf
  infer_instance

/-- If the session has an owner, the connection is one of it. -/
def Owns (owner : Id → Option Id) (s : Switchboard Id Run) (c : Nat) (id : Id) : Prop :=
  ∀ satellite ∈ owner id, s.IsOf parse c satellite

instance (owner : Id → Option Id) (s : Switchboard Id Run) (c : Nat) (id : Id) :
    Decidable (s.Owns parse owner c id) := by
  unfold Owns
  infer_instance

def OutboundOwned (owner : Id → Option Id) (s : Switchboard Id Run) : Prop :=
  ∀ c, ∀ m ∈ s.outbound c, ∀ id ∈ m.session parse, s.Owns parse owner c id

def CommandsOwned (owner : Id → Option Id) (s : Switchboard Id Run) : Prop :=
  ∀ c id kind, .command id kind ∈ s.outbound c → s.Owns parse owner c id

/-- From one state to the next, a ring buffer of the session changes (under
some spelling of its id), or its stored state, or the events of one of its
runs. -/
def Changes (s s' : Switchboard Id Run) (id : Id) : Prop :=
  (∃ sid, parse sid = some id ∧ s'.buffers sid ≠ s.buffers sid) ∨
    stateOf s'.rows id ≠ stateOf s.rows id ∨
    ∃ run, (s.runs.sessionOf run).bind parse = some id ∧
      (s'.published run ≠ s.published run ∨ s'.stored run ≠ s.stored run)

/-- What an act changes it changes for a user's request, or in the handling
of a message of a connection that `P` allows to. -/
def ChangedBy (P : Switchboard Id Run → Nat → Id → Prop) (owner : Id → Option Id) (capacity : Int)
    (s : Switchboard Id Run) (a : Act Id Run) : Prop :=
  ∀ s' ∈ step parse owner capacity s a, ∀ id, s.Changes parse s' id →
    a.isRequest = true ∨ ∃ c, a.conn = some c ∧ P s c id

def Named (s : Switchboard Id Run) (c : Nat) (id : Id) : Prop :=
  ∃ sid ∈ (s.conns c).heard, parse sid = some id

/-- A satellite's message names none but its own sessions, and a deploy
request names the satellite of its session. -/
def OwnSessions (owner : Id → Option Id) (s : Switchboard Id Run) : Act Id Run → Prop
  | .message c m => ∀ sid ∈ m.sid, ∀ id ∈ parse sid, s.Owns parse owner c id
  | .deployAgent id key => ∀ satellite ∈ owner id, parse key = some satellite
  | _ => True

instance (owner : Id → Option Id) (s : Switchboard Id Run) (a : Act Id Run) :
    Decidable (s.OwnSessions parse owner a) := by
  cases a <;> dsimp only [OwnSessions] <;> infer_instance

end Switchboard

end Daao.Gateway

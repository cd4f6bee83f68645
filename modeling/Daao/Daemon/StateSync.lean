/-
Daao.Daemon.StateSync — one session's state in Nexus's table and in the
satellite's daemon, and the messages that are to keep the two equal
(`internal/api/handlers.go`, `internal/grpc/gateway.go`,
`cmd/daao/daemon.go`, `pkg/lifecycle/dms.go`).

Four parties write the two states, and each act below is one step of one
of them:

* an API request changes the row and THEN sends the satellite a command.
  Attach and detach send none. Commands of concurrent requests may be sent
  in either order, and a command is lost if there is no stream, its
  channel is full, or nobody reads the stream any more;
* the daemon handles the commands of its connection in order, sets the
  session's state and reports it on its priority channel. After a
  reconnect it reports the state it has;
* the gateway handles the reports of a connection in order: it reads the
  row, validates against what it read, and writes
  (`Daao.Sessions.StateUpdates`);
* the session's Dead Man's Switch, if it has been started. Its callbacks
  set the daemon's state and report nothing.

The session has just been created when a run starts. Requests that are
refused do nothing. The messages of other sessions, heartbeats and
telemetry are `other`.
-/
import Daao.Daemon.Messages
import Daao.Lib.Uplink
import Daao.Sessions.StateUpdates

namespace Daao.Daemon

open Daao.Lib Daao.Sessions

/-! ## 1. The daemon's session -/

structure DeadManSwitch where
  started : Bool
  cancelled : Bool
  suspended : Bool
  resume : Bool

def newDeadManSwitch : DeadManSwitch :=
  { started := false, cancelled := false, suspended := false, resume := false }

namespace DeadManSwitch

variable (d : DeadManSwitch)

def start : DeadManSwitch := { d with started := true }

def stop : DeadManSwitch := { d with cancelled := true }

def recordActivity : DeadManSwitch :=
  if d.suspended then { d with resume := true } else d

def monitors : Bool := d.started && !d.cancelled

end DeadManSwitch

structure Entry where
  state : SessionState
  dms : DeadManSwitch
  exited : Bool

def newEntry : Entry := { state := .running, dms := newDeadManSwitch, exited := false }

def transitionSessionState (e : Entry) (newState : SessionState) : Entry :=
  let e := { e with state := newState }
  match newState with
  | .detached => { e with dms := e.dms.start }
  | .reAttaching => { e with dms := e.dms.stop }
  | .running => if e.dms.suspended then { e with dms := e.dms.recordActivity } else e
  | _ => e

/-- The callback `OnSuspend`, after the switch has seen that the session
is not running. -/
def onSuspend (e : Entry) : Option Entry :=
  if e.dms.monitors ∧ e.dms.suspended = false ∧ e.state ≠ .running then
    some { e with state := .suspended, dms := { e.dms with suspended := true } }
  else none

def onResume (e : Entry) : Option Entry :=
  if e.dms.monitors ∧ e.dms.resume ∧ e.dms.suspended then
    some { e with state := .running, dms := { e.dms with suspended := false, resume := false } }
  else none

def sessionStateToProto : SessionState → ProtoState
  | .running => .running
  | .suspended => .suspended
  | .detached => .detached
  | .reAttaching => .reAttaching
  | .terminated => .terminated
  | .provisioning => .starting
  | .other _ => .running

/-- What the session's messages to Nexus report, and all other messages
of the priority channel. -/
inductive Control where
  | stateUpdate (state : ProtoState)
  | other

/-- What a handler leaves: the session's entry, and the states it reports. -/
abbrev Handled := Option Entry × List ProtoState

namespace StateSync

variable (entry : Option Entry)

/-- `handleStartSessionCommand`; `created` says whether `CreateSession`
succeeds. -/
def handleStartSessionCommand (created : Bool) : Handled :=
  if created then (some newEntry, [.running]) else (entry, [.terminated])

def handleSuspendCommand : Handled :=
  match entry with
  | none => (none, [])
  | some e => (some { e with state := .suspended }, [.suspended])

def handleResumeCommand : Handled :=
  match entry with
  | none => (none, [])
  | some e => (some { e with state := .running, dms := e.dms.recordActivity }, [.running])

/-- `handleKillCommand`. `Close` kills the process and waits for the
goroutine that reports its exit, if that has not been reported before. -/
def handleKillCommand : Handled :=
  match entry with
  | none => (none, [])
  | some e => (none, if e.exited then [.terminated] else [.terminated, .terminated])

/-- `handleSessionReconciliation`, which reports nothing of its own. -/
def handleSessionReconciliation (name : String) (entry : Option Entry)
    (activeSessionIds : List String) : Handled :=
  match entry with
  | none => (none, [])
  | some e =>
    if e.state ≠ .terminated ∧ name ∉ activeSessionIds then
      (none, if e.exited then [] else [.terminated])
    else (some e, [])

/-- `handleNexusMessage`: the session is registered under `name`, and a
command that spells the id differently does not find it. -/
def handleNexusMessage (name : String) (entry : Option Entry) (created : Bool) :
    NexusMessage → Handled
  | .startSessionCommand sessionID =>
    if sessionID = name then handleStartSessionCommand entry created else (entry, [])
  | .suspendCommand sessionID =>
    if sessionID = name then handleSuspendCommand entry else (entry, [])
  | .resumeCommand sessionID =>
    if sessionID = name then handleResumeCommand entry else (entry, [])
  | .killCommand sessionID =>
    if sessionID = name then handleKillCommand entry else (entry, [])
  | .sessionReconciliation activeSessionIds =>
    handleSessionReconciliation name entry activeSessionIds
  | .other => (entry, [])

def replayActiveSessions : List ProtoState :=
  match entry with
  | none => []
  | some e => if e.state = .terminated then [] else [sessionStateToProto e.state]

end StateSync

/-! ## 2. The requests -/

inductive Request where
  | attach | detach | suspend | resume | kill

section

variable {Id : Type} [DecidableEq Id]

/-- `TransitionSession` and the command that follows if it succeeds. -/
def transitionThen (rows : SessionRows Id) (id : Id) (newState : SessionState) (now : Nat)
    (command : List NexusMessage) : SessionRows Id × List NexusMessage :=
  match SessionStore.transitionSession rows id newState now with
  | .error _ => (rows, [])
  | .ok (rows, _) => (rows, command)

/-- The handlers of the five requests. `sessionID` is the id as the
request's path spells it. -/
def handleRequest (rows : SessionRows Id) (id : Id) (sessionID : String) (now : Nat) :
    Request → SessionRows Id × List NexusMessage
  | .attach =>
    if stateOf rows id = some .running then (rows, [])
    else transitionThen rows id .running now []
  | .detach => transitionThen rows id .detached now []
  | .suspend => transitionThen rows id .suspended now [.suspendCommand sessionID]
  | .resume => transitionThen rows id .running now [.resumeCommand sessionID]
  | .kill => transitionThen rows id .terminated now [.killCommand sessionID]

end

/-! ## 3. Interleavings -/

inductive SyncLoop where
  | idle
  /-- the stream is made, and its writer is running -/
  | connected
  /-- the sessions were replayed, and messages are received -/
  | receiving
  deriving DecidableEq

structure StateSync (Id : Type) where
  /-- Nexus's table and the gateway's connections -/
  updates : Updates Id Nat
  pending : List NexusMessage
  commands : List NexusMessage
  entry : Option Entry
  loop : SyncLoop
  /-- the priority channel and the connections -/
  uplink : Uplink Control

namespace StateSync

variable {Id : Type}

def priorityCapacity : Nat := 64

/-- `sendToNexusPriority`, for each state reported. -/
def sendAll : Uplink Control → List ProtoState → Uplink Control
  | u, [] => u
  | u, state :: states => sendAll (u.send priorityCapacity (.stateUpdate state)) states

def report (s : StateSync Id) (states : List ProtoState) : StateSync Id :=
  { s with uplink := sendAll s.uplink states }

def newSession (now : Nat) : Session :=
  { state := .provisioning, lastActivityAt := now, startedAt := none
    detachedAt := none, suspendedAt := none, terminatedAt := none }

/-- `HandleCreateSession` has inserted the row, among whatever others, and
has to send its command. -/
def start [DecidableEq Id] (rows : SessionRows Id) (id : Id) (name : String) (now : Nat) :
    StateSync Id :=
  { updates := .start (Function.update rows id (some (newSession now)))
    pending := [.startSessionCommand name], commands := [], entry := none, loop := .idle
    uplink := .start }

inductive Act where
  | request (r : Request) (sessionID : String) (now : Nat)
  | send (i : Nat)
  | loseCommand (i : Nat)
  | deliver (created : Bool)
  | exit
  | activity
  | dmsSuspend
  | dmsResume
  | enqueueOther
  | connect
  | replay
  | transmit
  | stopWriter
  | lose
  | close
  /-- the gateway takes the next message of a connection, and reads the row -/
  | fetch (c : Nat)
  | validate (c : Nat) (now : Nat)
  | write (c : Nat) (now : Nat)
  /-- the gateway's handling of a report fails, or ends with the connection -/
  | drop (c : Nat)
  | discard (c : Nat)

def step [DecidableEq Id] (parseSessionID : String → Option Id) (id : Id) (name : String)
    (s : StateSync Id) : Act → Option (StateSync Id)
  | .request r sessionID now =>
    let res := handleRequest s.updates.rows id sessionID now r
    some { s with updates := { s.updates with rows := res.1 }, pending := s.pending ++ res.2 }
  | .send i =>
    match s.pending[i]? with
    | none => none
    | some command =>
      if s.loop = .idle then none
      else some { s with pending := s.pending.eraseIdx i, commands := s.commands ++ [command] }
  | .loseCommand i =>
    match s.pending[i]? with
    | none => none
    | some _ => some { s with pending := s.pending.eraseIdx i }
  | .deliver created =>
    if s.loop = .receiving then
      match s.commands with
      | [] => none
      | m :: rest =>
        let res := handleNexusMessage name s.entry created m
        some ({ s with commands := rest, entry := res.1 }.report res.2)
    else none
  | .exit =>
    match s.entry with
    | none => none
    | some e =>
      if e.exited then none
      else
        some ({ s with entry := some { transitionSessionState e .terminated with exited := true }
          }.report [.terminated])
  | .activity =>
    s.entry.map fun e => { s with entry := some { e with dms := e.dms.recordActivity } }
  | .dmsSuspend => (s.entry.bind onSuspend).map fun e => { s with entry := some e }
  | .dmsResume => (s.entry.bind onResume).map fun e => { s with entry := some e }
  | .enqueueOther => some { s with uplink := s.uplink.send priorityCapacity .other }
  | .connect =>
    if s.loop = .idle then some { s with loop := .connected, uplink := s.uplink.connect }
    else none
  | .replay =>
    if s.loop = .connected then
      some ({ s with loop := .receiving }.report (replayActiveSessions s.entry))
    else none
  | .transmit => s.uplink.transmit.map fun uplink => { s with uplink := uplink }
  | .stopWriter => s.uplink.stopWriter.map fun uplink => { s with uplink := uplink }
  | .lose => some { s with uplink := s.uplink.lose }
  | .close =>
    -- commands that were not received are lost with the connection
    if s.loop = .receiving then
      s.uplink.stopWriter.map fun uplink =>
        { s with loop := .idle, commands := [], uplink := uplink }
    else none
  | .fetch c =>
    (s.uplink.receive c).bind fun (m, uplink) =>
      match m with
      | .other =>
        if s.updates.handlers c = .receiving then some { s with uplink := uplink } else none
      | .stateUpdate state =>
        (Updates.step parseSessionID s.updates (.fetch c name state)).map fun updates =>
          { s with updates := updates, uplink := uplink }
  | .validate c now =>
    (Updates.step parseSessionID s.updates (.validate c now)).map fun updates =>
      { s with updates := updates }
  | .write c now =>
    (Updates.step parseSessionID s.updates (.write c now)).map fun updates =>
      { s with updates := updates }
  | .drop c => some { s with updates := s.updates.setHandler c .receiving }
  | .discard c => (s.uplink.discard c).map fun uplink => { s with uplink := uplink }

/-! ## 4. What the messages are for -/

/-- The state that the daemon holds for a session whose process runs. -/
def liveState : Option Entry → Option SessionState
  | none => none
  | some e => if e.exited then none else some e.state

/-- The satellite is connected, and no message is in flight in either
direction. -/
structure Quiet (s : StateSync Id) : Prop where
  receiving : s.loop = .receiving
  alive : s.uplink.alive = true
  pending : s.pending = []
  commands : s.commands = []
  queue : s.uplink.queue = []
  wire : ∀ c ≤ s.uplink.conn, s.uplink.wire c = []
  handlers : ∀ c ≤ s.uplink.conn, s.updates.handlers c = .receiving

def Agrees (id : Id) (s : StateSync Id) : Prop :=
  s.Quiet → ∀ state, liveState s.entry = some state → stateOf s.updates.rows id = some state

end StateSync

end Daao.Daemon

/-
Daao.Sessions.StateUpdates — the two writers of a session's state, side by
side: API requests that go through the store's `TransitionSession`, and
the gateway's handling of `SessionStateUpdate` messages
(`internal/grpc/gateway.go`, `Connect`).

An API transition is one step. A gateway connection handles one message
after the other, and each takes three steps: read the row, validate in
memory against the row that was read, write the state. Any steps of other
parties may come in between.
-/
import Daao.Sessions.Store
import Daao.Lib.Trace

namespace Daao.Sessions

open Daao.Lib

/-- The wire enumeration; `unrecognized` is a number without a name. -/
inductive ProtoState where
  | unspecified
  | starting
  | running
  | suspended
  | terminated
  | error
  | detached
  | reAttaching
  | unrecognized (number : Int)
  deriving DecidableEq

def ProtoState.toString : ProtoState → String
  | .unspecified => "SESSION_STATE_UNSPECIFIED"
  | .starting => "SESSION_STATE_STARTING"
  | .running => "SESSION_STATE_RUNNING"
  | .suspended => "SESSION_STATE_SUSPENDED"
  | .terminated => "SESSION_STATE_TERMINATED"
  | .error => "SESSION_STATE_ERROR"
  | .detached => "SESSION_STATE_DETACHED"
  | .reAttaching => "SESSION_STATE_RE_ATTACHING"
  | .unrecognized number => ToString.toString number

def convertProtoToSessionState : ProtoState → SessionState
  | .starting => .provisioning
  | .running => .running
  | .suspended => .suspended
  | .terminated => .terminated
  | .detached => .detached
  | .reAttaching => .reAttaching
  | protoState => .other protoState.toString

inductive Handler (Id : Type) where
  | receiving
  /-- `GetSession` returned the row `existing` -/
  | fetched (id : Id) (existing : Session) (target : SessionState)
  /-- `TransitionSession` accepted `target` for the row as it was read -/
  | validated (id : Id) (existing : Session) (target : SessionState)
  deriving DecidableEq

structure Updates (Id Conn : Type) where
  rows : SessionRows Id
  handlers : Conn → Handler Id

inductive Updates.Act (Id Conn : Type) where
  /-- an API request: `TransitionSession` of the store -/
  | transition (id : Id) (newState : SessionState) (now : Nat)
  /-- a connection receives an update and reads the row -/
  | fetch (c : Conn) (sessionID : String) (state : ProtoState)
  | validate (c : Conn) (now : Nat)
  | write (c : Conn) (now : Nat)

namespace Updates

variable {Id Conn : Type} [DecidableEq Id] [DecidableEq Conn]

def start (rows : SessionRows Id) : Updates Id Conn :=
  { rows := rows, handlers := fun _ => .receiving }

def setHandler (s : Updates Id Conn) (c : Conn) (h : Handler Id) : Updates Id Conn :=
  { s with handlers := Function.update s.handlers c h }

/-- The handler after the read: done with the message if the id is empty
or not a UUID, or if there is no such row. -/
def fetchRow (parseSessionID : String → Option Id) (rows : SessionRows Id) (sessionID : String)
    (state : ProtoState) : Handler Id :=
  if sessionID = "" then .receiving
  else match parseSessionID sessionID with
    | none => .receiving
    | some id => match SessionStore.getSession rows id with
      | .error _ => .receiving
      | .ok existing => .fetched id existing (convertProtoToSessionState state)

def step (parseSessionID : String → Option Id) (s : Updates Id Conn) :
    Act Id Conn → Option (Updates Id Conn)
  | .transition id newState now =>
    match SessionStore.transitionSession s.rows id newState now with
    | .error _ => some s
    | .ok (rows, _) => some { s with rows := rows }
  | .fetch c sessionID state =>
    match s.handlers c with
    | .receiving => some (s.setHandler c (fetchRow parseSessionID s.rows sessionID state))
    | _ => none
  | .validate c now =>
    match s.handlers c with
    | .fetched id existing target =>
      match transitionSession existing target now with
      | .error _ => some (s.setHandler c .receiving)
      | .ok _ => some (s.setHandler c (.validated id existing target))
    | _ => none
  | .write c now =>
    match s.handlers c with
    | .validated id _ target =>
      match SessionStore.updateState s.rows id target now with
      | .error _ => some (s.setHandler c .receiving)
      | .ok rows => some ({ s with rows := rows }.setHandler c .receiving)
    | _ => none

def persisted (parseSessionID : String → Option Id) (s : Updates Id Conn)
    (acts : List (Act Id Conn)) (id : Id) : List (Option SessionState) :=
  (states (step parseSessionID) s acts).map fun s => stateOf s.rows id

end Updates

end Daao.Sessions

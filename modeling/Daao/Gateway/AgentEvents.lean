/-
Daao.Gateway.AgentEvents — how the gateway's connections find the run of
an agent event, number the event, and write the run's status
(`internal/grpc/gateway.go`, the `AgentEvent` case and the TERMINATED part
of the `SessionStateUpdate` case of `Connect`).

A connection has two maps of its own, `sessionRunMap` and `agentSeq`, and
they start empty: a satellite that reconnects gets new ones. The database
and the goroutines that update it are shared.

An agent event is counted, its run is looked up (in the map, else in the
database, and then cached), and then it is handed on; an `agent_end`
starts a goroutine that updates the run. A TERMINATED update looks the
run up the same way, but neither caches it nor asks whether a cached run
is still running, and marks it failed.
-/
import Daao.Database.AgentRuns
import Daao.Lib.Trace

namespace Daao.Gateway

open Daao.Database

inductive EventKind where
  /-- any event but `agent_end` -/
  | progress
  /-- `agent_end`; the payload may have a non-empty `error` text -/
  | agentEnd (error : Bool)
  deriving DecidableEq

def EventKind.status : EventKind → Option RunStatus
  | .progress => none
  | .agentEnd error => some (if error then .failed else .completed)

inductive RunHandler (Run : Type) where
  | receiving
  | event (runID : Run) (kind : EventKind)
  /-- a TERMINATED update is about to mark this run failed -/
  | terminating (runID : Run)

structure RunConnection (Run : Type) where
  sessionRunMap : String → Option Run
  agentSeq : String → Nat
  handler : RunHandler Run

/-- An agent event that was handed to a run: who handled it, and the
sequence number it got and is persisted with. -/
structure Received (n : Nat) (Run : Type) where
  conn : Fin n
  runID : Run
  kind : EventKind
  sequence : Nat
  deriving DecidableEq

structure AgentEvents (n : Nat) (Run : Type) where
  runs : AgentRuns Run
  conns : Fin n → RunConnection Run
  updates : List (Run × RunStatus)
  /-- two records: the events in the order in which they were received, and
  the status writes that were decided on -/
  received : List (Received n Run)
  decided : List (Run × RunStatus)

namespace AgentEvents

variable {n : Nat} {Run : Type} [DecidableEq Run]

def start (runs : AgentRuns Run) : AgentEvents n Run :=
  { runs := runs
    conns := fun _ =>
      { sessionRunMap := fun _ => none, agentSeq := fun _ => 0, handler := .receiving }
    updates := [], received := [], decided := [] }

inductive Act (n : Nat) (Run : Type) where
  | createRun (id : Run) (sessionID : String) (startedAt : Nat)
  /-- an agent event is received and its run is looked up; `found` is the
  database's answer, if it is asked -/
  | agentEvent (c : Fin n) (sessionID : String) (kind : EventKind) (found : Option Run)
  /-- the event is handed on, and an `agent_end` starts its goroutine -/
  | handOn (c : Fin n)
  | update (i : Nat)
  | terminated (c : Fin n) (sessionID : String) (found : Option Run)
  | markFailed (c : Fin n)

def setConn (s : AgentEvents n Run) (c : Fin n) (conn : RunConnection Run) : AgentEvents n Run :=
  { s with conns := Function.update s.conns c conn }

/-- The look-up of an agent event; `none` if `found` is not an answer the
database can give. An empty session id is not looked up in the database. -/
def lookUpEvent (runs : AgentRuns Run) (conn : RunConnection Run) (sessionID : String)
    (found : Option Run) : Option (Option Run) :=
  match conn.sessionRunMap sessionID with
  | some runID => some (some runID)
  | none =>
    if sessionID = "" then some none
    else if runs.IsLatestRunning sessionID found then some found else none

def lookUpTerminated (runs : AgentRuns Run) (conn : RunConnection Run) (sessionID : String)
    (found : Option Run) : Option (Option Run) :=
  match conn.sessionRunMap sessionID with
  | some runID => some (some runID)
  | none => if runs.IsRunning sessionID found then some found else none

/-- The connection after the look-up of an event: the session's counter is
one higher, whether or not there is a run, and the run is cached. -/
def afterLookUp (conn : RunConnection Run) (sessionID : String) (kind : EventKind)
    (runID : Option Run) : RunConnection Run :=
  let agentSeq := Function.update conn.agentSeq sessionID (conn.agentSeq sessionID + 1)
  match runID with
  | none => { conn with agentSeq := agentSeq }
  | some runID =>
    { sessionRunMap := Function.update conn.sessionRunMap sessionID (some runID)
      agentSeq := agentSeq
      handler := .event runID kind }

def step (s : AgentEvents n Run) : Act n Run → Option (AgentEvents n Run)
  | .createRun id sessionID startedAt =>
    (s.runs.createAgentRun id sessionID startedAt).map fun runs => { s with runs := runs }
  | .agentEvent c sessionID kind found =>
    match (s.conns c).handler with
    | .receiving =>
      (lookUpEvent s.runs (s.conns c) sessionID found).map fun runID =>
        let s' := s.setConn c (afterLookUp (s.conns c) sessionID kind runID)
        match runID with
        | none => s'
        | some runID => { s' with
            received := s.received ++
              [{ conn := c, runID := runID, kind := kind
                 sequence := (s.conns c).agentSeq sessionID + 1 }]
            decided := s.decided ++ (kind.status.map fun status => (runID, status)).toList }
    | _ => none
  | .handOn c =>
    match (s.conns c).handler with
    | .event runID kind => some { s.setConn c { s.conns c with handler := .receiving } with
        updates := s.updates ++ (kind.status.map fun status => (runID, status)).toList }
    | _ => none
  | .update i =>
    match s.updates[i]? with
    | some (runID, status) => some { s with
        runs := s.runs.updateAgentRun runID status
        updates := s.updates.eraseIdx i }
    | none => none
  | .terminated c sessionID found =>
    match (s.conns c).handler with
    | .receiving =>
      if sessionID = "" then some s
      else
        (lookUpTerminated s.runs (s.conns c) sessionID found).map fun runID =>
          match runID with
          | none => s
          | some runID => { s.setConn c { s.conns c with handler := .terminating runID } with
              decided := s.decided ++ [(runID, .failed)] }
    | _ => none
  | .markFailed c =>
    match (s.conns c).handler with
    | .terminating runID => some { s.setConn c { s.conns c with handler := .receiving } with
        runs := s.runs.updateAgentRun runID .failed }
    | _ => none

end AgentEvents

end Daao.Gateway

/-
Daao.Api.RunStream — one agent run and one client that streams it.

The gateway (`internal/grpc/gateway.go`, the `AgentEvent` case) publishes
each event to the hub and then persists it: through the batch writer, or
by a goroutine that inserts it. On `agent_end` it closes the run's batch,
waits for that batch to be sent, and starts a goroutine that updates the
run and then closes the hub for it.

The client (`handleAgentRunStream` in `internal/api/agent_run_stream.go`)
reads the run, subscribes, replays the stored events, and then forwards
what arrives on its channel, unless the run it had read was finished.

Database operations succeed. Events of other runs and other clients touch
nothing modelled here.
-/
import Daao.AgentStream.Hub
import Daao.Database.AgentRuns
import Daao.Database.BatchWriter
import Mathlib.Data.List.Sort

namespace Daao.Api

open Daao.AgentStream Daao.Database

def isFinished (status : RunStatus) : Bool :=
  status == .completed || status == .failed || status == .timeout || status == .killed

abbrev RunEvent := PendingEvent Unit

def RunEvent.isBatchable (e : RunEvent) : Bool :=
  e.eventType == "message_update" || e.eventType == "tool_execution_start"
    || e.eventType == "tool_execution_end"

def RunEvent.isAgentEnd (e : RunEvent) : Bool := e.eventType == "agent_end"

inductive EventHandler where
  | receiving
  | published (e : RunEvent)
  /-- an `agent_end` is persisted; `batchWriter.Close` comes next -/
  | closing (e : RunEvent)
  /-- inside `Close`, which waits for batch `i` to be sent -/
  | flushing (e : RunEvent) (i : Nat)
  | spawning (e : RunEvent)

inductive EndStep where
  | updateRun (status : RunStatus)
  | closeHub

inductive Client where
  | idle
  | gotRun (status : RunStatus)
  | subscribed (status : RunStatus)
  | live
  | done

structure RunStream where
  status : RunStatus
  writer : BatchEventWriter Unit
  inserts : List RunEvent
  gateway : EventHandler
  ends : List EndStep
  hub : RunEventHub Unit Unit RunEvent
  client : Client
  written : List RunEvent
  /-- three records of the run: what was published, what had been published
  when the client subscribed, and whether the hub has been closed -/
  published : List RunEvent
  atSubscribe : List RunEvent
  hubClosed : Bool

/-- What the model is parametric in: the growth of slices, whether there is
a batch writer, and the gateway's test of an `agent_end` payload for an
error text. -/
structure Params where
  grow : Nat → Nat
  hasBatchWriter : Bool
  hasError : String → Bool

namespace RunStream

def start : RunStream :=
  { status := .running, writer := .new, inserts := [], gateway := .receiving, ends := []
    hub := .new, client := .idle, written := [], published := [], atSubscribe := []
    hubClosed := false }

inductive Act where
  | event (e : RunEvent)
  | persist
  | closeWriter
  | spawnEnd
  | insert (i : Nat)
  | endStep (i : Nat)
  | fire
  | timerFlush
  | queue (i : Nat)
  | send (i : Nat)
  | getRun
  | subscribe
  | history
  | receive

def afterSend (i : Nat) : EventHandler → EventHandler
  | .flushing e j =>
    if i = j then .spawning e else if i < j then .flushing e (j - 1) else .flushing e j
  | g => g

def afterClose (e : RunEvent) (before after : List (Batch Unit)) : EventHandler :=
  if before.length < after.length then .flushing e (after.length - 1) else .spawning e

def step (p : Params) (s : RunStream) : Act → Option RunStream
  | .event e =>
    match s.gateway with
    | .receiving => some { s with
        gateway := .published e, hub := s.hub.publish () e, published := s.published ++ [e] }
    | _ => none
  | .persist =>
    match s.gateway with
    | .published e =>
      let gateway := if e.isAgentEnd then .closing e else .receiving
      if e.isBatchable && p.hasBatchWriter then
        some { s with gateway := gateway, writer := s.writer.append p.grow e }
      else some { s with gateway := gateway, inserts := s.inserts ++ [e] }
    | _ => none
  | .closeWriter =>
    match s.gateway with
    | .closing e =>
      if p.hasBatchWriter then
        some { s with
          writer := s.writer.close ()
          gateway := afterClose e s.writer.batches (s.writer.close ()).batches }
      else some { s with gateway := .spawning e }
    | _ => none
  | .spawnEnd =>
    match s.gateway with
    | .spawning e => some { s with
        gateway := .receiving
        ends := s.ends ++ [.updateRun (if p.hasError e.payload then .failed else .completed)] }
    | _ => none
  | .insert i =>
    match s.inserts[i]? with
    | some e => some { s with
        inserts := s.inserts.eraseIdx i
        writer := { s.writer with agentRunEvents := s.writer.agentRunEvents ++ [e] } }
    | none => none
  | .endStep i =>
    match s.ends[i]? with
    | some (.updateRun status) => some { s with status := status, ends := s.ends.set i .closeHub }
    | some .closeHub => some { s with
        ends := s.ends.eraseIdx i, hub := s.hub.close (), hubClosed := true }
    | none => none
  | .fire => (s.writer.step p.grow (.fire ())).map fun writer => { s with writer := writer }
  | .timerFlush =>
    (s.writer.step p.grow (.timerFlush ())).map fun writer => { s with writer := writer }
  | .queue i => (s.writer.step p.grow (.queue i)).map fun writer => { s with writer := writer }
  | .send i =>
    (s.writer.step p.grow (.send i)).map fun writer =>
      { s with writer := writer, gateway := afterSend i s.gateway }
  | .getRun =>
    match s.client with
    | .idle => some { s with client := .gotRun s.status }
    | _ => none
  | .subscribe =>
    match s.client with
    | .gotRun status => some { s with
        client := .subscribed status
        hub := s.hub.subscribe () ()
        atSubscribe := s.published }
    | _ => none
  | .history =>
    match s.client with
    | .subscribed status =>
      let history := s.writer.agentRunEvents.insertionSort fun a b => a.sequence ≤ b.sequence
      let s := { s with written := s.written ++ history }
      -- a client that leaves runs its deferred `Unsubscribe`
      if isFinished status then some { s with client := .done, hub := s.hub.unsubscribe () () }
      else some { s with client := .live }
    | _ => none
  | .receive =>
    match s.client, (s.hub.subs ()).receive with
    | .live, some (some e, sub) => some { s with
        written := s.written ++ [e]
        hub := { s.hub with subs := Function.update s.hub.subs () sub } }
    | .live, some (none, _) => some { s with
        client := .done, hub := s.hub.unsubscribe () () }
    | _, _ => none

end RunStream

end Daao.Api

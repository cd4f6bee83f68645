/-
Daao.Database.BatchWriter — the batching writer of agent run events
(`internal/database/batch_writer.go`).

`Append` puts an event into its run's buffer and restarts the run's flush
timer. A timer that fires, `Flush` and `Close` take the buffered events
under the mutex and then build and send an insert batch outside it. These
are the atomic steps; building a batch reads the taken slice element by
element, with a step for each.

The buffer is reset with `events[:0]`, which keeps the backing array. So
slices are modelled over a heap of arrays (`Daao.Lib.GoHeap`): an `Append`
after a flush writes into the array the batch is being built from.
-/
import Daao.Lib.GoHeap
import Daao.Lib.Trace
import Mathlib.Logic.Function.Basic

namespace Daao.Database

open Daao.Lib

structure PendingEvent (Run : Type) where
  runID : Run
  eventType : String
  payload : String
  sequence : Int
  deriving DecidableEq

structure RunBuffer where
  events : Slice
  armed : Bool
  deriving DecidableEq

/-- A call of `executeBatch`: the taken slice, and what was queued from it. -/
structure Batch (Run : Type) where
  events : Slice
  queued : List (PendingEvent Run)
  deriving DecidableEq

/-- The writer, the goroutines it has started, and the table it inserts
into. `appended` records the calls of `Append`. -/
structure BatchEventWriter (Run : Type) where
  heap : Heap (PendingEvent Run)
  buffers : Run → Option RunBuffer
  /-- timer functions that have been started and have not flushed yet -/
  fired : List Run
  batches : List (Batch Run)
  agentRunEvents : List (PendingEvent Run)
  appended : List (PendingEvent Run)

namespace BatchEventWriter

variable {Run : Type} [DecidableEq Run] [Inhabited Run]

def new : BatchEventWriter Run :=
  { heap := [], buffers := fun _ => none, fired := [], batches := [], agentRunEvents := []
    appended := [] }

variable (w : BatchEventWriter Run)

def getOrCreate (runID : Run) : Heap (PendingEvent Run) × RunBuffer :=
  match w.buffers runID with
  | some buf => (w.heap, buf)
  | none => (w.heap.nil.1, { events := w.heap.nil.2, armed := false })

def zeroEvent : PendingEvent Run :=
  { runID := default, eventType := "", payload := "", sequence := 0 }

/-- `Append`; `grow` is the capacity the runtime gives to a full slice. -/
def append (grow : Nat → Nat) (w : BatchEventWriter Run) (e : PendingEvent Run) :
    BatchEventWriter Run :=
  let (heap, buf) := w.getOrCreate e.runID
  let (heap, events) := heap.append grow zeroEvent buf.events e
  { w with
    heap := heap
    buffers := Function.update w.buffers e.runID (some { events := events, armed := true })
    appended := w.appended ++ [e] }

def startBatch (events : Slice) : BatchEventWriter Run :=
  if events.len > 0 then { w with batches := w.batches ++ [{ events := events, queued := [] }] }
  else w

/-- `flushInternal`, and the start of the batch in `flush`. -/
def flush (runID : Run) : BatchEventWriter Run :=
  match w.buffers runID with
  | none => w
  | some buf =>
    if buf.events.len = 0 then w
    else
      { w with
        buffers := Function.update w.buffers runID
          (some { events := buf.events.reset, armed := false }) }.startBatch buf.events

/-- `takeEvents`, and the start of the batch in `Close`. -/
def close (w : BatchEventWriter Run) (runID : Run) : BatchEventWriter Run :=
  match w.buffers runID with
  | none => w
  | some buf =>
    { w with buffers := Function.update w.buffers runID none }.startBatch buf.events

inductive Act (Run : Type) where
  | append (e : PendingEvent Run)
  | fire (runID : Run)
  /-- a started timer function calls `flush` -/
  | timerFlush (runID : Run)
  | flush (runID : Run)
  | close (runID : Run)
  | queue (i : Nat)
  | send (i : Nat)

def step (grow : Nat → Nat) (w : BatchEventWriter Run) : Act Run → Option (BatchEventWriter Run)
  | .append e => some (w.append grow e)
  | .fire runID =>
    match w.buffers runID with
    | some buf =>
      if buf.armed then
        some { w with
          buffers := Function.update w.buffers runID (some { buf with armed := false })
          fired := runID :: w.fired }
      else none
    | none => none
  | .timerFlush runID =>
    if runID ∈ w.fired then some ({ w with fired := w.fired.erase runID }.flush runID) else none
  | .flush runID => some (w.flush runID)
  | .close runID => some (w.close runID)
  | .queue i =>
    match w.batches[i]? with
    | some b =>
      match w.heap.get? b.events b.queued.length with
      | some e => some { w with batches := w.batches.set i { b with queued := b.queued ++ [e] } }
      | none => none
    | none => none
  | .send i =>
    match w.batches[i]? with
    | some b =>
      if b.queued.length = b.events.len then
        some { w with
          batches := w.batches.eraseIdx i
          agentRunEvents := w.agentRunEvents ++ b.queued }
      else none
    | none => none

/-- All timers have fired and flushed, and all batches have been sent. -/
def Quiescent : Prop :=
  (∀ runID, ∀ buf ∈ w.buffers runID, buf.armed = false) ∧ w.fired = [] ∧ w.batches = []

end BatchEventWriter

end Daao.Database

/-
Daao.AgentStream.Hub — the in-memory hub that hands agent events to live
clients (`internal/agentstream/hub.go`).

A subscriber is a buffered channel and a closed flag. All methods hold the
hub's mutex, so each is one step. `publish` drops the event for a
subscriber whose buffer is full. A closed channel still yields what was
buffered before it was closed (`receive`), as Go channels do.

Runs, subscribers and events are arbitrary types; a subscriber is a name
for its channel.
-/
import Mathlib.Logic.Function.Basic

namespace Daao.AgentStream

def channelSize : Nat := 128

structure Subscriber (Ev : Type) where
  /-- the events buffered in the channel, oldest first -/
  ch : List Ev
  closed : Bool

structure RunEventHub (Run Sub Ev : Type) where
  clients : Run → List Sub
  subs : Sub → Subscriber Ev

namespace Subscriber

variable {Ev : Type}

def send (s : Subscriber Ev) (event : Ev) : Subscriber Ev :=
  if s.closed then s
  else if s.ch.length < channelSize then { s with ch := s.ch ++ [event] }
  else s

/-- A receive: an event, or `none` from a closed channel that is empty. An
open empty channel blocks. -/
def receive (s : Subscriber Ev) : Option (Option Ev × Subscriber Ev) :=
  match s.ch with
  | event :: rest => some (some event, { s with ch := rest })
  | [] => if s.closed then some (none, s) else none

theorem send_of_open {s : Subscriber Ev} (ho : s.closed = false)
    (hr : s.ch.length < channelSize) (e : Ev) :
    s.send e = { s with ch := s.ch ++ [e] } := by
  simp [send, ho, hr]

end Subscriber

namespace RunEventHub

variable {Run Sub Ev : Type} [DecidableEq Run] [DecidableEq Sub]

def new : RunEventHub Run Sub Ev :=
  { clients := fun _ => [], subs := fun _ => { ch := [], closed := false } }

variable (h : RunEventHub Run Sub Ev)

def subscribe (runID : Run) (sub : Sub) : RunEventHub Run Sub Ev :=
  { clients := Function.update h.clients runID (sub :: h.clients runID)
    subs := Function.update h.subs sub { ch := [], closed := false } }

def unsubscribe (runID : Run) (sub : Sub) : RunEventHub Run Sub Ev :=
  if sub ∈ h.clients runID then
    { clients := Function.update h.clients runID ((h.clients runID).erase sub)
      subs := Function.update h.subs sub { h.subs sub with closed := true } }
  else h

def publish (runID : Run) (event : Ev) : RunEventHub Run Sub Ev :=
  { h with subs := fun sub =>
      if sub ∈ h.clients runID then (h.subs sub).send event else h.subs sub }

def close (runID : Run) : RunEventHub Run Sub Ev :=
  { clients := Function.update h.clients runID []
    subs := fun sub =>
      if sub ∈ h.clients runID then { h.subs sub with closed := true } else h.subs sub }

end RunEventHub

end Daao.AgentStream

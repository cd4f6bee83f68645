/-
Daao.AgentStream.Channels — the hub of `internal/agentstream/hub.go` with
its entries, closed flags and channels kept apart.

`Daao.AgentStream.Hub` is the hub as its users see it: a run has a list of
subscribers and a subscriber's flag says whether its channel is closed.
Here the map has an entry or none for a run, the flag of a subscriber and
its channel are two things, and a send or a close that Go would refuse is a
`ChanFault`. All methods hold the hub's mutex, so each is one step; a
receive by the holder of a channel is another.
-/
import Daao.AgentStream.Hub
import Daao.Lib.GoChan

namespace Daao.AgentStream.Channels

open Daao.Lib

/-! ## The hub -/

structure Hub (Run Sub Ev : Type) where
  /-- `clients`: the set of a run, if the map has an entry for it -/
  clients : Run → Option (List Sub)
  closed : Sub → Bool
  ch : Sub → Chan Ev
  made : List Sub

inductive Act (Run Sub Ev : Type) where
  /-- `Subscribe(runID)`, which makes the subscriber -/
  | subscribe (runID : Run) (sub : Sub)
  | unsubscribe (runID : Run) (sub : Sub)
  | publish (runID : Run) (event : Ev)
  | close (runID : Run)
  | receive (sub : Sub)

variable {Run Sub Ev : Type} [DecidableEq Run] [DecidableEq Sub]

namespace Hub

def new : Hub Run Sub Ev :=
  { clients := fun _ => none, closed := fun _ => false, ch := fun _ => .make, made := [] }

variable (h : Hub Run Sub Ev) (runID : Run)

/-- What `range h.clients[runID]` goes over; a missing entry is an empty
map. -/
def members : List Sub := (h.clients runID).getD []

def subscribe (sub : Sub) : Hub Run Sub Ev :=
  { clients := Function.update h.clients runID (some (sub :: h.members runID))
    closed := Function.update h.closed sub false
    ch := Function.update h.ch sub .make
    made := sub :: h.made }

/-- What is left of a run's entry: `delete(h.clients, runID)` when the set
is empty. -/
def entry (clients : List Sub) : Option (List Sub) :=
  if clients.isEmpty then none else some clients

def unsubscribe (sub : Sub) : Except ChanFault (Hub Run Sub Ev) :=
  match h.clients runID with
  | none => .ok h
  | some clients =>
    if sub ∈ clients then
      match (h.ch sub).close with
      | .error e => .error e
      | .ok c => .ok { h with
          clients := Function.update h.clients runID (entry (clients.erase sub))
          closed := Function.update h.closed sub true
          ch := Function.update h.ch sub c }
    else .ok { h with clients := Function.update h.clients runID (entry clients) }

/-- The body of the loop of `Publish`. -/
def deliver (event : Ev) (sub : Sub) (c : Chan Ev) : Except ChanFault (Chan Ev) :=
  if h.closed sub then .ok c else c.trySend channelSize event

/-- Go goes over the set in any order; each subscriber comes once and has a
channel of its own, so the order does not show. -/
def publish (event : Ev) : Except ChanFault (Hub Run Sub Ev) :=
  match forEach (h.deliver event) (h.members runID) h.ch with
  | .error e => .error e
  | .ok ch => .ok { h with ch := ch }

def close : Except ChanFault (Hub Run Sub Ev) :=
  match forEach (fun _ c => c.close) (h.members runID) h.ch with
  | .error e => .error e
  | .ok ch => .ok { h with
      clients := Function.update h.clients runID none
      closed := fun sub => if sub ∈ h.members runID then true else h.closed sub
      ch := ch }

end Hub

/-- The calls that can be made: a subscriber is made once, and a receive
returns only from a channel that holds something or is closed. All others
can come at any time, with any run and any channel. -/
def Enabled (h : Hub Run Sub Ev) : Act Run Sub Ev → Bool
  | .subscribe _ sub => decide (sub ∉ h.made)
  | .receive sub => (h.ch sub).receive.isSome
  | _ => true

def apply (h : Hub Run Sub Ev) : Act Run Sub Ev → Except ChanFault (Hub Run Sub Ev)
  | .subscribe runID sub => .ok (h.subscribe runID sub)
  | .unsubscribe runID sub => h.unsubscribe runID sub
  | .publish runID event => h.publish runID event
  | .close runID => h.close runID
  | .receive sub => .ok { h with
      ch := Function.update h.ch sub { h.ch sub with buf := (h.ch sub).buf.tail } }

def step (h : Hub Run Sub Ev) (a : Act Run Sub Ev) : Option (Hub Run Sub Ev) :=
  if Enabled h a then (apply h a).toOption else none

def receivedIn (sub : Sub) (h : Hub Run Sub Ev) : Act Run Sub Ev → List Ev
  | .receive sub' => if sub' = sub then (h.ch sub).buf.head?.toList else []
  | _ => []

/-- The events that `sub` takes out of its channel along a run, in order. -/
def receivedBy (sub : Sub) : Hub Run Sub Ev → List (Act Run Sub Ev) → List Ev
  | _, [] => []
  | h, a :: as =>
    receivedIn sub h a ++
      match step h a with
      | some h' => receivedBy sub h' as
      | none => []

end Daao.AgentStream.Channels

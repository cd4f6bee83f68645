/-
Daao.Stream.Registry — the registry of outbound channels
(`internal/stream/registry.go`).

Two maps from ids to channels, one for sessions and one for satellites.
Registering overwrites and unregistering deletes: an entry does not know
who made it. Every method holds the mutex, so each is one step.

Channels are names of an arbitrary type. What is queued on them is kept
outside the registry: `SendToSession` and `SendToSatellite` look a channel
up here and send on it afterwards.
-/
import Mathlib.Logic.Function.Basic

namespace Daao.Stream

structure StreamRegistry (Ch : Type) where
  sessionStreams : String → Option Ch
  satelliteStreams : String → Option Ch

namespace StreamRegistry

variable {Ch : Type}

def new : StreamRegistry Ch :=
  { sessionStreams := fun _ => none, satelliteStreams := fun _ => none }

variable (r : StreamRegistry Ch)

def registerStream (sessionID : String) (ch : Ch) : StreamRegistry Ch :=
  { r with sessionStreams := Function.update r.sessionStreams sessionID (some ch) }

def unregisterStream (sessionID : String) : StreamRegistry Ch :=
  { r with sessionStreams := Function.update r.sessionStreams sessionID none }

def registerSatelliteStream (satelliteID : String) (ch : Ch) : StreamRegistry Ch :=
  { r with satelliteStreams := Function.update r.satelliteStreams satelliteID (some ch) }

def unregisterSatelliteStream (satelliteID : String) : StreamRegistry Ch :=
  { r with satelliteStreams := Function.update r.satelliteStreams satelliteID none }

@[simp] theorem sessionStreams_registerStream (s sid' : String) (ch : Ch) :
    (r.registerStream s ch).sessionStreams sid'
      = if sid' = s then some ch else r.sessionStreams sid' := by
  simp [registerStream, Function.update_apply]

@[simp] theorem sessionStreams_unregisterStream (s sid' : String) :
    (r.unregisterStream s).sessionStreams sid'
      = if sid' = s then none else r.sessionStreams sid' := by
  simp [unregisterStream, Function.update_apply]

@[simp] theorem satelliteStreams_registerSatelliteStream (s sat' : String) (ch : Ch) :
    (r.registerSatelliteStream s ch).satelliteStreams sat'
      = if sat' = s then some ch else r.satelliteStreams sat' := by
  simp [registerSatelliteStream, Function.update_apply]

@[simp] theorem satelliteStreams_unregisterSatelliteStream (s sat' : String) :
    (r.unregisterSatelliteStream s).satelliteStreams sat'
      = if sat' = s then none else r.satelliteStreams sat' := by
  simp [unregisterSatelliteStream, Function.update_apply]

end StreamRegistry

end Daao.Stream

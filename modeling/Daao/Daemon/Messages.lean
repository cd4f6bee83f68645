/-
Daao.Daemon.Messages — the satellite's handling of the messages it gets
from the gateway (`cmd/daao/daemon.go`), as far as it changes the daemon's
map of sessions.

`receiveMessages` is one loop, so the handlers run one after the other in
the order of reception. A session's entry is modelled by its state. The
messages that leave the map alone (terminal input, resize, updates,
context files, agents, which run outside the map) are `other`.
-/
import Daao.Sessions.Store

namespace Daao.Daemon

open Daao.Sessions

inductive NexusMessage where
  /-- the session id is that of a row, so it is not empty -/
  | startSessionCommand (sessionID : String)
  | suspendCommand (sessionID : String)
  | resumeCommand (sessionID : String)
  | killCommand (sessionID : String)
  | sessionReconciliation (activeSessionIds : List String)
  | other
  deriving DecidableEq

abbrev Sessions := String → Option SessionState

variable (sessions : Sessions) (sessionID : String)

/-- `handleStartSessionCommand`. `created` says whether `CreateSession`
succeeds: the session limit, the process and the IPC server may fail it. -/
def handleStartSessionCommand (created : Bool) : Sessions :=
  if created then Function.update sessions sessionID (some .running) else sessions

def setState (state : SessionState) : Sessions :=
  match sessions sessionID with
  | none => sessions
  | some _ => Function.update sessions sessionID (some state)

def handleSuspendCommand : Sessions :=
  setState sessions sessionID .suspended

def handleResumeCommand : Sessions :=
  setState sessions sessionID .running

def handleKillCommand : Sessions :=
  Function.update sessions sessionID none

/-- The sessions a reconciliation message prunes: those that are not
terminated locally and not in the list. -/
def isOrphan (activeSessionIds : List String) (sessionID : String) : Bool :=
  match sessions sessionID with
  | none => false
  | some state => state ≠ .terminated && sessionID ∉ activeSessionIds

def handleSessionReconciliation (activeSessionIds : List String) : Sessions :=
  fun sessionID =>
    if isOrphan sessions activeSessionIds sessionID then none else sessions sessionID

def handleNexusMessage (created : Bool) : NexusMessage → Sessions
  | .startSessionCommand sessionID => handleStartSessionCommand sessions sessionID created
  | .suspendCommand sessionID => handleSuspendCommand sessions sessionID
  | .resumeCommand sessionID => handleResumeCommand sessions sessionID
  | .killCommand sessionID => handleKillCommand sessions sessionID
  | .sessionReconciliation activeSessionIds =>
    handleSessionReconciliation sessions activeSessionIds
  | .other => sessions

theorem setState_isSome {sessions : Sessions} {sessionID s : String} {t : SessionState}
    (h : (setState sessions sessionID t s).isSome) : (sessions s).isSome := by
  cases hold : sessions sessionID with
  | none => simpa only [setState, hold] using h
  | some d =>
    simp only [setState, hold, Function.update_apply] at h
    split at h
    · rename_i hs
      rw [hs, hold]
      rfl
    · exact h

theorem isSome_handleNexusMessage {sessions : Sessions} {c : Bool} {m : NexusMessage}
    {sid : String} (h : (handleNexusMessage sessions c m sid).isSome) :
    (sessions sid).isSome ∨ m = .startSessionCommand sid := by
  cases m with
  | startSessionCommand sessionID =>
    simp only [handleNexusMessage, handleStartSessionCommand] at h
    split at h
    · grind [Function.update_apply]
    · exact .inl h
  | suspendCommand sessionID => exact .inl (setState_isSome h)
  | resumeCommand sessionID => exact .inl (setState_isSome h)
  | killCommand sessionID =>
    simp only [handleNexusMessage, handleKillCommand, Function.update_apply] at h
    split at h
    · cases h
    · exact .inl h
  | sessionReconciliation a =>
    simp only [handleNexusMessage, handleSessionReconciliation] at h
    split at h
    · cases h
    · exact .inl h
  | other => exact .inl h

end Daao.Daemon

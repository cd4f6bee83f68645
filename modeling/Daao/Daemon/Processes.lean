/-
Daao.Daemon.Processes — the processes the daemon starts, and its two
registries of them (`cmd/daao/daemon.go`).

A `StartSessionCommand` starts a process on a PTY and registers it in
`d.sessions`; a `DeployAgentCommand` starts a Pi process and registers its
bridge in `d.bridges`. Each process has a goroutine that waits for it:
that of a PTY process marks the session of its id TERMINATED, and that of
a Pi process removes the bridge of its id. Both go by the id, whatever is
registered under it by then.

The commands are handled one after the other. The exits, and the last
steps of the goroutines, may come at any time between them. A process that
is killed or stopped exits.

The state carries what holds by construction: a `Session` is registered
under its own id.
-/
import Daao.Daemon.Messages
import Daao.Lib.Table
import Daao.Lib.Trace

namespace Daao.Daemon

open Daao.Lib Daao.Sessions

inductive ProcessKind where
  | pty
  | pi

structure Process where
  session : String
  kind : ProcessKind
  running : Bool
  reaped : Bool

structure PtySession where
  id : String
  pid : Nat
  state : SessionState

structure Processes where
  /-- all processes ever started; a pid is a position -/
  procs : List Process
  sessions : Table PtySession.id
  bridges : String → Option Nat
  owned : ∀ sess ∈ sessions.rows, ∀ p, procs[sess.pid]? = some p → p.session = sess.id
  started : ∀ sess ∈ sessions.rows, sess.pid < procs.length

namespace Processes

/-! ## 1. What the handlers do to the registries and to processes -/

def start : Processes where
  procs := []
  sessions := { rows := [], primaryKey := List.nodup_nil }
  bridges := fun _ => none
  owned sess h := by cases h
  started sess h := by cases h

variable (s : Processes)

def setProcess (pid : Nat) (f : Process → Process)
    (hf : ∀ p, (f p).session = p.session) : Processes where
  procs := s.procs.modify pid f
  sessions := s.sessions
  bridges := s.bridges
  owned sess hsess p hp := by
    rw [List.getElem?_modify] at hp
    obtain ⟨p', hp', rfl⟩ := Option.map_eq_some_iff.mp hp
    have howned := s.owned sess hsess p' hp'
    split
    · rw [hf, howned]
    · exact howned
  started sess hsess := by
    rw [List.length_modify]
    exact s.started sess hsess

def halt (pid : Nat) : Processes :=
  s.setProcess pid (fun p => { p with running := false }) fun _ => rfl

def markReaped (pid : Nat) : Processes :=
  s.setProcess pid (fun p => { p with reaped := true }) fun _ => rfl

variable (sessionID : String)

/-- `d.sessions[sessionID].State = state`, if there is one. -/
def setState (state : SessionState) : Processes where
  procs := s.procs
  sessions := s.sessions.modify sessionID (fun sess => { sess with state := state }) fun _ => rfl
  bridges := s.bridges
  owned sess hsess p hp := by
    obtain ⟨sess', hsess', rfl⟩ := List.mem_map.mp hsess
    have howned := s.owned sess' hsess' p
    split at hp
    · exact (howned hp).trans (by split <;> rfl)
    · exact (howned hp).trans (by split <;> rfl)
  started sess hsess := by
    obtain ⟨sess', hsess', rfl⟩ := List.mem_map.mp hsess
    have hstarted := s.started sess' hsess'
    split <;> exact hstarted

def unregister : Processes where
  procs := s.procs
  sessions := s.sessions.restrict fun sess => sess.id ≠ sessionID
  bridges := s.bridges
  owned sess hsess := s.owned sess (List.mem_filter.mp hsess).1
  started sess hsess := s.started sess (List.mem_filter.mp hsess).1

def spawn (kind : ProcessKind) : Processes where
  procs := s.procs ++ [{ session := sessionID, kind := kind, running := true, reaped := false }]
  sessions := s.sessions
  bridges := s.bridges
  owned sess hsess p hp := by
    rw [List.getElem?_append_left (s.started sess hsess)] at hp
    exact s.owned sess hsess p hp
  started sess hsess := by
    rw [List.length_append]
    exact Nat.lt_add_right _ (s.started sess hsess)

/-- `Session.Close`: kill the process and wait for its goroutine, which
marks the session. -/
def close (sess : PtySession) : Processes :=
  ((s.halt sess.pid).markReaped sess.pid).setState sess.id .terminated

/-! ## 2. The handlers -/

/-- `handleStartSessionCommand`; `created` says whether `CreateSession`
succeeds. A session that is registered under the id is replaced. -/
def handleStartSessionCommand (created : Bool) : Processes :=
  if created then
    { s.spawn sessionID .pty with
      sessions := s.sessions.put
        { id := sessionID, pid := s.procs.length, state := .running }
      owned := by
        intro sess hsess p hp
        rcases List.mem_append.mp hsess with hsess | hsess
        · exact (s.spawn sessionID .pty).owned sess (List.mem_filter.mp hsess).1 p hp
        cases List.mem_singleton.mp hsess
        simp only [spawn, List.getElem?_concat_length, Option.some.injEq] at hp
        rw [← hp]
      started := by
        intro sess hsess
        rcases List.mem_append.mp hsess with hsess | hsess
        · exact (s.spawn sessionID .pty).started sess (List.mem_filter.mp hsess).1
        cases List.mem_singleton.mp hsess
        simp [spawn] }
  else s

/-- `handleDeployAgentCommand`; `started` says whether the runtime and the
bridge start. A bridge that is registered under the id is stopped. -/
def handleDeployAgentCommand (started : Bool) : Processes :=
  if started then
    let s' := match s.bridges sessionID with
      | none => s.spawn sessionID .pi
      | some old => (s.spawn sessionID .pi).halt old
    { s' with bridges := Function.update s'.bridges sessionID (some s.procs.length) }
  else s

def handleSuspendCommand : Processes :=
  s.setState sessionID .suspended

def handleResumeCommand : Processes :=
  s.setState sessionID .running

def handleKillCommand : Processes :=
  match s.sessions.find? sessionID with
  | none => s
  | some sess => (s.close sess).unregister sessionID

def orphans (activeSessionIds : List String) : List String :=
  (s.sessions.rows.filter fun sess =>
    sess.state ≠ .terminated ∧ sess.id ∉ activeSessionIds).map PtySession.id

/-- `handleSessionReconciliation`: each orphan is closed and deleted. -/
def handleSessionReconciliation (activeSessionIds : List String) : Processes :=
  (s.orphans activeSessionIds).foldl handleKillCommand s

/-! ## 3. Histories -/

inductive Act where
  | startSession (sessionID : String) (created : Bool)
  | deployAgent (sessionID : String) (started : Bool)
  | suspend (sessionID : String)
  | resume (sessionID : String)
  | kill (sessionID : String)
  | reconcile (activeSessionIds : List String)
  /-- a process exits, on its own, by its timeout, or stopped otherwise -/
  | exit (pid : Nat)
  | reap (pid : Nat)

def reap (pid : Nat) (p : Process) : Processes :=
  match p.kind with
  | .pty => (s.markReaped pid).setState p.session .terminated
  | .pi => { s.markReaped pid with bridges := Function.update s.bridges p.session none }

def step : Act → Option Processes
  | .startSession sessionID created => some (s.handleStartSessionCommand sessionID created)
  | .deployAgent sessionID started => some (s.handleDeployAgentCommand sessionID started)
  | .suspend sessionID => some (s.handleSuspendCommand sessionID)
  | .resume sessionID => some (s.handleResumeCommand sessionID)
  | .kill sessionID => some (s.handleKillCommand sessionID)
  | .reconcile activeSessionIds => some (s.handleSessionReconciliation activeSessionIds)
  | .exit pid => some (s.halt pid)
  | .reap pid =>
    match s.procs[pid]? with
    | none => none
    | some p => if p.running ∨ p.reaped then none else some (s.reap pid p)

/-! ## 4. What is left of a session -/

def Runs (pid : Nat) (sessionID : String) : Prop :=
  ∃ p, s.procs[pid]? = some p ∧ p.session = sessionID ∧ p.running = true

structure Cleared (sessionID : String) (s : Processes) : Prop where
  stopped : ∀ pid, ¬ s.Runs pid sessionID
  session : s.sessions.find? sessionID = none
  bridge : s.bridges sessionID = none

/-- A kill command for the session leaves nothing of it, and neither does
a reconciliation without it. -/
structure Clears (s : Processes) (sessionID : String) : Prop where
  kill : Cleared sessionID (s.handleKillCommand sessionID)
  reconcile : ∀ activeSessionIds, sessionID ∉ activeSessionIds →
    Cleared sessionID (s.handleSessionReconciliation activeSessionIds)

end Processes

end Daao.Daemon

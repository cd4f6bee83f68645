/-
Daao.Sessions.Lifecycle — all writers of a session row's state and of its
lifecycle times.

To the two writers of `Daao.Sessions.StateUpdates` this module adds

* creation: `HandleCreateSession` and `HandleDeployAgent` insert a row in
  state PROVISIONING and leave the four lifecycle times null;
* restart recovery: `recoverActiveSessions` (`cmd/nexus/main.go`) moves
  RUNNING and RE_ATTACHING rows to DETACHED in one statement, when the
  server starts;
* the end of a gateway connection, which may come between any two steps
  of its handling of an update.

Only the store's `TransitionSession` writes the times. `UpdateState` and
the recovery write the state and leave them alone.
-/
import Daao.Sessions.StateUpdates

namespace Daao.Sessions

/-! ## 1. The store's other functions -/

namespace SessionStore

variable {Id : Type} [DecidableEq Id]

/-- `CreateSession` for a new session, and the insert of
`HandleDeployAgent`. The id is the primary key. -/
def createSession (rows : SessionRows Id) (id : Id) (now : Nat) : Option (SessionRows Id) :=
  match rows id with
  | some _ => none
  | none => some (Function.update rows id (some
      { state := .provisioning, lastActivityAt := now, startedAt := none
        detachedAt := none, suspendedAt := none, terminatedAt := none }))

/-- `recoverActiveSessions`: `UPDATE sessions SET state = 'DETACHED' …
WHERE state IN ('RUNNING', 'RE_ATTACHING')`. -/
def recoverActiveSessions (rows : SessionRows Id) : SessionRows Id := fun id =>
  (rows id).map fun session =>
    if session.state = .running ∨ session.state = .reAttaching then
      { session with state := .detached }
    else session

/-- Whether `ListActiveSessions` returns the session: it selects the rows
`WHERE terminated_at IS NULL`. -/
def listsActive (rows : SessionRows Id) (id : Id) : Bool :=
  match rows id with
  | none => false
  | some session => session.terminatedAt.isNone

end SessionStore

/-! ## 2. Rows whose state and times agree -/

/-- The times are those of a session in the given state. -/
structure Session.TimesFit (session : Session) (state : SessionState) : Prop where
  terminated : state = .terminated ↔ session.terminatedAt.isSome = true
  detached : state = .detached → session.detachedAt.isSome = true
  suspended : state = .suspended → session.suspendedAt.isSome = true
  running : state = .running →
    session.startedAt.isSome = true ∧ session.detachedAt = none ∧ session.suspendedAt = none

def Session.Consistent (session : Session) : Prop := session.TimesFit session.state

/-- Every row is consistent, and `ListActiveSessions` returns the sessions
that are not terminated. -/
structure SessionRows.Consistent {Id : Type} (rows : SessionRows Id) : Prop where
  row : ∀ id session, rows id = some session → session.Consistent
  listed : ∀ id, SessionStore.listsActive rows id = true ↔
    ∃ session, rows id = some session ∧ session.state ≠ .terminated

/-! ## 3. Interleavings -/

namespace Lifecycle

variable {Id Conn : Type} [DecidableEq Id] [DecidableEq Conn]

inductive Act (Id Conn : Type) where
  | create (id : Id) (now : Nat)
  /-- a step of an API request or of a gateway connection -/
  | update (act : Updates.Act Id Conn)
  | recover
  /-- a connection ends, or fails to write -/
  | drop (c : Conn)

def start : Updates Id Conn := .start fun _ => none

def step (parseSessionID : String → Option Id) (s : Updates Id Conn) :
    Act Id Conn → Option (Updates Id Conn)
  | .create id now =>
    match SessionStore.createSession s.rows id now with
    | none => some s
    | some rows => some { s with rows := rows }
  | .update act => Updates.step parseSessionID s act
  | .recover => some { s with rows := SessionStore.recoverActiveSessions s.rows }
  | .drop c => some (s.setHandler c .receiving)

end Lifecycle

end Daao.Sessions

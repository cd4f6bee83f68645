/-
Daao.Api.SessionHandlers — the session endpoints of the HTTP API
(`internal/api/handlers.go`, `internal/api/pagination.go`, and the list
queries of `internal/session/store.go`).

A handler gets the user that the middleware put into the request's
context, if any, and the `sessions` table. It leaves a table, a response,
the commands it sends to satellites, and the events it logs.

The seven handlers differ in what they ask of the caller:

* the list is scoped to the caller's own sessions if the context has a
  user whose role is `viewer` AND whose id is a UUID; every other caller
  gets all sessions;
* suspend and kill refuse a viewer whose id is a UUID other than the
  session's `user_id`;
* get, attach, detach and resume do not look at the caller.

Queries succeed. UUIDs are an arbitrary linearly ordered type, because the
list is ordered by `(created_at, id)`.
-/
import Daao.Api.Identity
import Daao.Daemon.Messages
import Daao.Lib.Table
import Mathlib.Data.List.Sort
import Mathlib.Data.Prod.Lex

namespace Daao.Api

open Daao.Lib Daao.Sessions Daao.Daemon

/-! ## 1. The table and its queries -/

structure SessionRecord (Id : Type) where
  id : Id
  satelliteID : Id
  userID : Id
  name : String
  session : Session
  createdAt : Nat
  deriving DecidableEq

abbrev SessionRecords (Id : Type) := Table fun row : SessionRecord Id => row.id

section

variable {Id : Type} [LinearOrder Id]

def SessionRecord.key (row : SessionRecord Id) : ℕ ×ₗ Id := toLex (row.createdAt, row.id)

/-- `ORDER BY created_at DESC, id DESC`. -/
def newestFirst (a b : SessionRecord Id) : Prop := b.key ≤ a.key

instance decidableNewestFirst : DecidableRel (@newestFirst Id _) := fun a b =>
  inferInstanceAs (Decidable (b.key ≤ a.key))

/-- `SELECT … WHERE p ORDER BY created_at DESC, id DESC LIMIT limit`. -/
def selectPage (t : SessionRecords Id) (p : SessionRecord Id → Bool) (limit : Nat) :
    List (SessionRecord Id) :=
  ((t.rows.filter p).insertionSort newestFirst).take limit

/-- `(created_at, id) < (SELECT created_at, id FROM sessions WHERE id = $)`;
the comparison with a missing row is NULL. -/
def isAfter (t : SessionRecords Id) (cursor : Id) (row : SessionRecord Id) : Bool :=
  match t.find? cursor with
  | none => false
  | some c => row.key < c.key

def transitionRecord (t : SessionRecords Id) (id : Id) (newState : SessionState) (now : Nat) :
    Except StoreError (SessionRecords Id × SessionRecord Id) :=
  match t.find? id with
  | none => .error .sessionNotFound
  | some row =>
    match transitionSession row.session newState now with
    | .error e => .error e
    | .ok updated =>
      .ok (t.modify id (fun row => { row with session := updated }) fun _ => rfl,
        { row with session := updated })

/-! ## 2. Requests, responses -/

def defaultLimit : Nat := 50
def maxLimit : Nat := 200

structure PaginationParams where
  cursor : String
  limit : Nat

/-- `ParsePaginationParams`; `limit` is the number in the query string. -/
def parsePaginationParams (cursor : String) (limit : Option Int) : PaginationParams :=
  { cursor := cursor
    limit := match limit with
      | none => defaultLimit
      | some limit =>
        if limit > maxLimit then maxLimit
        else if limit > 0 then limit.toNat
        else defaultLimit }

inductive Body (Id : Type) where
  | error (message : String)
  | session (s : SessionRecord Id)
  | page (items : List (SessionRecord Id)) (count total : Nat) (nextCursor : Option Id)

structure Response (Id : Type) where
  status : Nat
  body : Body Id

def Response.sessions (r : Response Id) : List (SessionRecord Id) :=
  match r.body with
  | .error _ => []
  | .session s => [s]
  | .page items .. => items

inductive EventType where
  | clientAttach | clientDetach | dmsTriggered | dmsResumed | processExit

structure Outcome (Id : Type) where
  table : SessionRecords Id
  response : Response Id
  commands : List (Id × NexusMessage)
  events : List (Id × EventType)

def Outcome.fail (t : SessionRecords Id) (status : Nat) (message : String) : Outcome Id :=
  { table := t, response := { status := status, body := .error message }, commands := []
    events := [] }

/-! ## 3. The handlers -/

variable (parseUUID : String → Option Id)

def viewerID (user : Option AuthUser) : Option Id :=
  user.bind fun u => if u.role = "viewer" then parseUUID u.id else none

def pageOf (items : List (SessionRecord Id)) (limit total : Nat) : Response Id :=
  { status := 200
    body := .page items items.length total
      (if items.length ≥ limit then items.getLast?.map SessionRecord.id else none) }

variable (sessionStore : Bool)

def handleListSessions (user : Option AuthUser) (params : PaginationParams)
    (t : SessionRecords Id) : Outcome Id :=
  if !sessionStore then .fail t 500 "session store not configured"
  else
    match viewerID parseUUID user with
    | some userID =>
      let own (row : SessionRecord Id) : Bool := row.userID = userID
      let sessions :=
        if params.cursor ≠ "" then
          match parseUUID params.cursor with
          | none => []
          | some cursor => selectPage t (fun row => own row && isAfter t cursor row) params.limit
        else selectPage t own params.limit
      { table := t, response := pageOf sessions params.limit (t.rows.filter own).length
        commands := [], events := [] }
    | none =>
      if params.cursor ≠ "" then
        match parseUUID params.cursor with
        | none => .fail t 500 "failed to list sessions"
        | some cursor =>
          { table := t
            response := pageOf (selectPage t (isAfter t cursor) params.limit) params.limit
              t.rows.length
            commands := [], events := [] }
      else
        { table := t
          response := pageOf (selectPage t (fun _ => true) params.limit) params.limit
            t.rows.length
          commands := [], events := [] }

variable (sessionID : String)

def onSession (t : SessionRecords Id) (handler : Id → SessionRecord Id → Outcome Id) : Outcome Id :=
  if !sessionStore then .fail t 500 "session store not configured"
  else
    match parseUUID sessionID with
    | none => .fail t 400 "invalid session_id"
    | some id =>
      match t.find? id with
      | none => .fail t 404 "session not found"
      | some sess => handler id sess

def Outcome.done (t : SessionRecords Id) (sess : SessionRecord Id)
    (commands : List (Id × NexusMessage)) (event : EventType) : Outcome Id :=
  { table := t, response := { status := 200, body := .session sess }, commands := commands
    events := [(sess.id, event)] }

def transitionTo (newState : SessionState) (failure : String)
    (commands : List (Id × NexusMessage)) (event : EventType) (now : Nat) (t : SessionRecords Id)
    (id : Id) : Outcome Id :=
  match transitionRecord t id newState now with
  | .error _ => .fail t 500 failure
  | .ok (t', updatedSession) => .done t' updatedSession commands event

def isOthers (user : Option AuthUser) (sess : SessionRecord Id) : Bool :=
  match viewerID parseUUID user with
  | none => false
  | some userID => sess.userID ≠ userID

def handleGetSession (t : SessionRecords Id) : Outcome Id :=
  onSession parseUUID sessionStore sessionID t fun _ sess =>
    { table := t, response := { status := 200, body := .session sess }, commands := [],
      events := [] }

def handleAttachSession (now : Nat) (t : SessionRecords Id) : Outcome Id :=
  onSession parseUUID sessionStore sessionID t fun id sess =>
    -- a session that is running is attached without a transition
    if sess.session.state = .running then .done t sess [] .clientAttach
    else transitionTo .running "failed to attach session" [] .clientAttach now t id

def handleDetachSession (now : Nat) (t : SessionRecords Id) : Outcome Id :=
  onSession parseUUID sessionStore sessionID t fun id _ =>
    transitionTo .detached "failed to detach session" [] .clientDetach now t id

def handleSuspendSession (user : Option AuthUser) (sessionID : String)
    (now : Nat) (t : SessionRecords Id) : Outcome Id :=
  onSession parseUUID sessionStore sessionID t fun id sess =>
    if isOthers parseUUID user sess then .fail t 403 "you can only suspend your own sessions"
    else
      transitionTo .suspended "failed to suspend session"
        [(sess.satelliteID, .suspendCommand sessionID)] .dmsTriggered now t id

def handleResumeSession (now : Nat) (t : SessionRecords Id) : Outcome Id :=
  onSession parseUUID sessionStore sessionID t fun id sess =>
    transitionTo .running "failed to resume session"
      [(sess.satelliteID, .resumeCommand sessionID)] .dmsResumed now t id

def handleKillSession (user : Option AuthUser) (sessionID : String)
    (now : Nat) (t : SessionRecords Id) : Outcome Id :=
  onSession parseUUID sessionStore sessionID t fun id sess =>
    if isOthers parseUUID user sess then .fail t 403 "you can only kill your own sessions"
    else
      transitionTo .terminated "failed to kill session"
        [(sess.satelliteID, .killCommand sessionID)] .processExit now t id

inductive SessionAction where
  | get | attach | detach | suspend | resume | kill
  deriving DecidableEq

inductive SessionRequest where
  | list (cursor : String) (limit : Option Int)
  | onSession (action : SessionAction) (sessionID : String)

def serveSession (user : Option AuthUser) (now : Nat)
    (t : SessionRecords Id) : SessionRequest → Outcome Id
  | .list cursor limit =>
    handleListSessions parseUUID sessionStore user (parsePaginationParams cursor limit) t
  | .onSession .get sessionID => handleGetSession parseUUID sessionStore sessionID t
  | .onSession .attach sessionID => handleAttachSession parseUUID sessionStore sessionID now t
  | .onSession .detach sessionID => handleDetachSession parseUUID sessionStore sessionID now t
  | .onSession .suspend sessionID =>
    handleSuspendSession parseUUID sessionStore user sessionID now t
  | .onSession .resume sessionID => handleResumeSession parseUUID sessionStore sessionID now t
  | .onSession .kill sessionID => handleKillSession parseUUID sessionStore user sessionID now t

end

/-! ## 4. Isolation -/

variable {Id : Type} [LinearOrder Id]

/-- An authenticated caller whose account is a viewer. The look-up of the
account may have failed, and the id in the context may not be a UUID; if
it is one, it is the account's. -/
structure Viewer (parseUUID : String → Option Id) where
  account : Id
  user : Option AuthUser
  role : ∀ u ∈ user, u.role = "viewer"
  id : ∀ u ∈ user, ∀ userID ∈ parseUUID u.id, userID = account

def SameOwn (account : Id) (t t' : SessionRecords Id) : Prop :=
  ∀ row, row.userID = account → (row ∈ t.rows ↔ row ∈ t'.rows)

/-- The call does not return or change a session of another user, and its
response is the same whatever sessions other users have. -/
structure Isolated {parseUUID : String → Option Id} (v : Viewer parseUUID) (sessionStore : Bool)
    (now : Nat) (t : SessionRecords Id) (req : SessionRequest) : Prop where
  notReturned : ∀ row ∈ t.rows, row.userID ≠ v.account →
    ∀ s ∈ (serveSession parseUUID sessionStore v.user now t req).response.sessions, s.id ≠ row.id
  unchanged : ∀ row ∈ t.rows, row.userID ≠ v.account →
    (serveSession parseUUID sessionStore v.user now t req).table.find? row.id = some row
  independent : ∀ t', SameOwn v.account t t' →
    (serveSession parseUUID sessionStore v.user now t' req).response
      = (serveSession parseUUID sessionStore v.user now t req).response

end Daao.Api

/-
Daao.Api.UserHandlers — the endpoints that change user accounts
(`internal/api/user_handlers.go`, `internal/auth/rbac.go`).

Each handler is a row of checks of the request and of the caller, and then
one statement on the `users` table. The checks read nothing but the user
that the middleware has put into the context: the role in it is the one
stored when the request came in. So a handler is split here into the
statement that its checks admit and what that statement does, and between
the two other requests may write (`UserAdmin`).

* an invite draws a password and calls `CreateWithPassword`; an error whose
  text speaks of a duplicate is answered with 409;
* a role change looks at no one but the caller;
* a deletion refuses the caller's own account.

A body is a parsed document, or `none` if it is none. Queries do not fail
for other reasons than the data.
-/
import Daao.Api.Identity
import Daao.Lib.GoJson

namespace Daao.Api

open Daao.Lib Daao.Auth

/-! ## 1. Roles -/

def roleLevel (role : String) : Int :=
  if role = "viewer" then 0
  else if role = "admin" then 1
  else if role = "owner" then 2
  else -1

def hasPermission (userRole requiredRole : String) : Bool :=
  roleLevel requiredRole ≤ roleLevel userRole

def validRole (role : String) : Option Role :=
  [Role.owner, .admin, .viewer].find? fun r => r.toString = role

namespace UserHandlers

/-! ## 2. Requests and responses -/

structure InviteUserRequest where
  email : String
  role : String

def inviteFields : List (StructField InviteUserRequest) :=
  [.scalar "email" Json.asString fun r v => { r with email := v },
   .scalar "role" Json.asString fun r v => { r with role := v }]

structure ChangeRoleRequest where
  role : String

def changeRoleFields : List (StructField ChangeRoleRequest) :=
  [.scalar "role" Json.asString fun r v => { r with role := v }]

/-- `json.NewDecoder(r.Body).Decode(&req)`; `none` if it returns an error. -/
def decodeBody {σ : Type} (fields : List (StructField σ)) (zero : σ) (body : Option Json) :
    Option σ :=
  match body with
  | none => none
  | some doc =>
    let decoded := unmarshal fields zero doc
    if decoded.ok then some decoded.value else none

inductive Body (Id : Type) where
  | error (message : String)
  | ok
  | noContent
  | created (user : User Id) (temporaryPassword : String)

structure Response (Id : Type) where
  status : Nat
  body : Body Id

def Response.temporaryPassword {Id : Type} (r : Response Id) : Option String :=
  match r.body with
  | .created _ password => some password
  | _ => none

def jsonError {Id : Type} (status : Nat) (message : String) : Response Id :=
  { status := status, body := .error message }

/-! ## 3. The checks -/

inductive Write (Id : Type) where
  | createWithPassword (email name : String) (role : Role) (tempPassword passwordHash : String)
  | updateRole (id : Id) (role : Role)
  | delete (id : Id)

section

variable {Id : Type}

def requireOwner (user : Option AuthUser) : Except (Response Id) AuthUser :=
  match user with
  | none => .error (jsonError 401 "authentication required")
  | some user =>
    if hasPermission user.role "owner" then .ok user
    else .error (jsonError 403 "insufficient permissions")

def checkInvite (user : Option AuthUser) (body : Option Json) :
    Except (Response Id) (String × Role) :=
  match requireOwner user with
  | .error response => .error response
  | .ok _ =>
    match decodeBody inviteFields { email := "", role := "" } body with
    | none => .error (jsonError 400 "invalid request body")
    | some req =>
      if req.email = "" ∨ req.role = "" then .error (jsonError 400 "email and role are required")
      else
        match validRole req.role with
        | none => .error (jsonError 400 "invalid role")
        | some role => .ok (req.email, role)

def passwordChars : List Char :=
  "abcdefghijkmnpqrstuvwxyzABCDEFGHJKLMNPQRSTUVWXYZ23456789".toList

def generateTempPassword (length : Nat) (draws : Nat → Fin passwordChars.length) : String :=
  String.ofList ((List.range length).map fun i => passwordChars.get (draws i))

def localPart (email : String) : String := String.ofList (email.toList.takeWhile (· ≠ '@'))

def inviteWrite (bcrypt : Bcrypt) (user : Option AuthUser) (body : Option Json)
    (draws : Nat → Fin passwordChars.length) (salt : Nat) : Except (Response Id) (Write Id) :=
  match checkInvite user body with
  | .error response => .error response
  | .ok (email, role) =>
    let tempPassword := generateTempPassword 16 draws
    match hashPassword bcrypt tempPassword salt with
    | none => .error (jsonError 500 "failed to hash password")
    | some hashedPassword =>
      .ok (.createWithPassword email (localPart email) role tempPassword hashedPassword)

variable (parseUUID : String → Option Id)

/-- What `handleChangeRole` runs; `parts` is the path after
`/api/v1/users/`, split at the slashes. -/
def changeRoleWrite (user : Option AuthUser) (parts : List String) (body : Option Json) :
    Except (Response Id) (Write Id) :=
  match requireOwner user with
  | .error response => .error response
  | .ok _ =>
    match parts with
    | idStr :: _ :: _ =>
      match parseUUID idStr with
      | none => .error (jsonError 400 "invalid user ID")
      | some userID =>
        match decodeBody changeRoleFields { role := "" } body with
        | none => .error (jsonError 400 "invalid request body")
        | some req =>
          match validRole req.role with
          | none => .error (jsonError 400 "invalid role")
          | some role => .ok (.updateRole userID role)
    | _ => .error (jsonError 400 "invalid path")

def deleteWrite [DecidableEq Id] (user : Option AuthUser) (idStr : String) :
    Except (Response Id) (Write Id) :=
  match parseUUID idStr with
  | none => .error (jsonError 400 "invalid user ID")
  | some userID =>
    match requireOwner user with
    | .error response => .error response
    | .ok user =>
      if parseUUID user.id = some userID then .error (jsonError 400 "cannot delete self")
      else .ok (.delete userID)

/-! ## 4. The writes -/

def speaksOfDuplicate : UserError → Bool
  | .uniqueViolation => true
  | _ => false

variable [DecidableEq Id]

def inviteResponse (tempPassword : String) : Except UserError (User Id) → Response Id
  | .ok user => { status := 201, body := .created user tempPassword }
  | .error e =>
    if speaksOfDuplicate e then jsonError 409 "email already exists"
    else jsonError 500 "failed to create user"

/-- The statement and the rest of its handler: the table afterwards, and
the response. `newID` is the id that the database draws. -/
def Write.perform (w : Write Id) (t : Users Id) (newID : Id) (now : Nat) : Users Id × Response Id :=
  match w with
  | .createWithPassword email name role tempPassword passwordHash =>
    let (t', res) := Auth.createWithPassword t email name role passwordHash newID now
    (t', inviteResponse tempPassword res)
  | .updateRole id role =>
    if t.lacks id then (t, jsonError 404 "user not found")
    else (Auth.updateRole t id role now, { status := 200, body := .ok })
  | .delete id =>
    if t.lacks id then (t, jsonError 404 "user not found")
    else (t.deleteByID id, { status := 204, body := .noContent })

def handle (admitted : Except (Response Id) (Write Id)) (t : Users Id) (newID : Id) (now : Nat) :
    Users Id × Response Id :=
  match admitted with
  | .error response => (t, response)
  | .ok w => w.perform t newID now

def handleInviteUser (bcrypt : Bcrypt) (user : Option AuthUser) (body : Option Json)
    (draws : Nat → Fin passwordChars.length) (salt : Nat) (t : Users Id) (newID : Id) (now : Nat) :
    Users Id × Response Id :=
  handle (inviteWrite bcrypt user body draws salt) t newID now

def handleChangeRole (user : Option AuthUser) (parts : List String) (body : Option Json)
    (t : Users Id) (newID : Id) (now : Nat) : Users Id × Response Id :=
  handle (changeRoleWrite parseUUID user parts body) t newID now

def handleDeleteUser (user : Option AuthUser) (idStr : String) (t : Users Id) (newID : Id)
    (now : Nat) : Users Id × Response Id :=
  handle (deleteWrite parseUUID user idStr) t newID now

end

/-! ## 5. Interleaved requests -/

inductive Request where
  | invite (body : Option Json) (draws : Nat → Fin passwordChars.length) (salt : Nat)
  | changeRole (parts : List String) (body : Option Json)
  | deleteUser (idStr : String)

section

variable {Id : Type} [DecidableEq Id]

def Request.accept (bcrypt : Bcrypt) (parseUUID : String → Option Id) (user : Option AuthUser) :
    Request → Except (Response Id) (Write Id)
  | .invite body draws salt => inviteWrite bcrypt user body draws salt
  | .changeRole parts body => changeRoleWrite parseUUID user parts body
  | .deleteUser idStr => deleteWrite parseUUID user idStr

end

structure UserAdmin (Id : Type) where
  users : Users Id
  underway : List (Write Id)

inductive Act (Id : Type) where
  /-- a request with a valid token of `subject` comes in and is checked -/
  | begin (subject : String) (request : Request) (newID : Id) (now : Nat)
  | write (k : Nat) (newID : Id) (now : Nat)

structure Server (Id : Type) where
  bcrypt : Bcrypt
  parseUUID : String → Option Id
  uuidString : Id → String
  oidcIssuer : Bool

variable {Id : Type} [DecidableEq Id]

def UserAdmin.begin (server : Server Id) (s : UserAdmin Id) (subject : String) (request : Request)
    (newID : Id) (now : Nat) : UserAdmin Id :=
  let (users, res) := resolveUser server.parseUUID server.oidcIssuer s.users subject newID now
  match request.accept server.bcrypt server.parseUUID (contextUser server.uuidString res) with
  | .error _ => { s with users := users }
  | .ok w => { users := users, underway := s.underway ++ [w] }

def step (server : Server Id) (s : UserAdmin Id) : Act Id → Option (UserAdmin Id)
  | .begin subject request newID now => some (s.begin server subject request newID now)
  | .write k newID now =>
    (s.underway[k]?).map fun w =>
      { users := (w.perform s.users newID now).1, underway := s.underway.eraseIdx k }

end UserHandlers

end Daao.Api

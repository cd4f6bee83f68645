/-
Daao.Api.Identity — the user that the authentication middleware puts into a
request's context (`internal/api/middleware.go`, the last part of
`AuthMiddleware`).

A valid token has a subject. With an OIDC issuer the middleware upserts
the account of that subject, and it passes empty strings for the email,
the name and the avatar. Without one the subject is the account's id. A
failure of either is logged, and the request is handed on without a user.

A run here is a list of requests with valid tokens, in OIDC mode, and of
role changes. `served` lists what the handlers see.
-/
import Daao.Auth.UserStore
import Daao.Lib.Trace

namespace Daao.Api

open Daao.Lib Daao.Auth

structure AuthUser where
  id : String
  email : String
  name : String
  role : String
  avatarURL : String

section

variable {Id : Type} [DecidableEq Id]

def AuthUser.ofUser (uuidString : Id → String) (user : User Id) : AuthUser :=
  { id := uuidString user.id, email := user.email, name := user.name, role := user.role.toString
    avatarURL := user.avatarURL }

/-- The look-up of the token's account: the table afterwards, and
`user, err`. -/
def resolveUser (parseUUID : String → Option Id) (oidcIssuer : Bool) (t : Users Id)
    (subject : String) (newID : Id) (now : Nat) : Users Id × Except UserError (Option (User Id)) :=
  if oidcIssuer then
    let (t', res) := upsertFromOIDC t "oidc" subject "" "" "" newID now
    (t', res.map some)
  else
    match parseUUID subject with
    | none => (t, .ok none)
    | some userID => (t, (getByID t userID).map some)

/-- The user in the context: none if the look-up failed or found none. -/
def contextUser (uuidString : Id → String) (res : Except UserError (Option (User Id))) :
    Option AuthUser :=
  match res with
  | .error _ => none
  | .ok user => user.map (AuthUser.ofUser uuidString)

end

namespace Identity

variable {Id : Type} [DecidableEq Id]

inductive Act (Id : Type) where
  /-- a request with a valid token; `newID` is the id the database draws
  if it inserts a row -/
  | request (subject : String) (newID : Id) (now : Nat)
  | updateRole (id : Id) (role : Role) (now : Nat)

def Act.isRequest : Act Id → Bool
  | .request .. => true
  | .updateRole .. => false

def step (parseUUID : String → Option Id) (t : Users Id) : Act Id → Option (Users Id)
  | .request subject newID now => some (resolveUser parseUUID true t subject newID now).1
  | .updateRole id role now => some (updateRole t id role now)

structure Served (Id : Type) where
  subject : String
  user : Option AuthUser
  users : Users Id

def served (parseUUID : String → Option Id) (uuidString : Id → String) :
    Users Id → List (Act Id) → List (Served Id)
  | _, [] => []
  | t, .request subject newID now :: acts =>
    let (t', res) := resolveUser parseUUID true t subject newID now
    { subject := subject, user := contextUser uuidString res, users := t' }
      :: served parseUUID uuidString t' acts
  | t, .updateRole id role now :: acts =>
    served parseUUID uuidString (updateRole t id role now) acts

/-! ## What the middleware is for -/

/-- The handler sees the account of the token's subject, with the role
that is stored for it. -/
def Served.Belongs (uuidString : Id → String) (e : Served Id) : Prop :=
  ∃ user row, e.user = some user ∧ row ∈ e.users.rows ∧
    row.identity = some ("oidc", e.subject) ∧ user.id = uuidString row.id ∧
    user.role = row.role.toString

/-- The row is the same account, with the same role, and its email and
name have not been erased. -/
structure Keeps (row row' : UserRow Id) : Prop where
  id : row'.id = row.id
  identity : row'.identity = row.identity
  role : row'.role = row.role
  email : row.email ≠ "" → row'.email ≠ ""
  name : ∀ name ∈ row.name, name ≠ "" → ∃ name' ∈ row'.name, name' ≠ ""

/-- Resolving a subject keeps the accounts that are stored. -/
def KeepsAccounts (parseUUID : String → Option Id) (t : Users Id) : Act Id → Prop
  | .request subject newID now => ∀ row ∈ t.rows,
      ∃ row' ∈ (resolveUser parseUUID true t subject newID now).1.rows, Keeps row row'
  | .updateRole .. => True

/-- Each request of the run reaches its handler with the identity of its
own subject. -/
structure Identified (parseUUID : String → Option Id) (uuidString : Id → String) (t : Users Id)
    (acts : List (Act Id)) : Prop where
  belongs : ∀ e ∈ served parseUUID uuidString t acts, e.Belongs uuidString
  /-- one account for each subject, and one subject for each account -/
  accounts : ∀ e ∈ served parseUUID uuidString t acts,
    ∀ e' ∈ served parseUUID uuidString t acts,
      (e.user.map AuthUser.id = e'.user.map AuthUser.id ↔ e.subject = e'.subject)
  keeps : Along (step parseUUID) (KeepsAccounts parseUUID) t acts

end Identity

end Daao.Api

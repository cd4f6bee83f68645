/-
Daao.Auth.UserStore — the `users` table and the part of the user store that
resolves a token's subject to an account (`internal/auth/user_store.go`,
migrations 005, 022 and 035).

The table carries its constraints as fields: the primary key, the unique
email, and the unique index on `(provider, provider_id)`, in which NULLs
are distinct. A statement that would break one of them fails and changes
nothing.

`CreateWithPassword` is an `INSERT` that turns into an `UPDATE` of the row
that has the email.

A query's row is read by `scanUser`, which has eleven targets. Two things
make it fail: a result with another number of columns, and a NULL in a
column whose target is a plain string. The statement itself has taken
effect by then: an `INSERT … RETURNING` whose row cannot be scanned has
inserted the row.
-/
import Mathlib.Data.List.Nodup

namespace Daao.Auth

/-! ## 1. The table -/

/-- The `role` column; the table's CHECK allows these values. -/
inductive Role where
  | owner
  | admin
  | viewer
  deriving DecidableEq

def Role.toString : Role → String
  | .owner => "owner"
  | .admin => "admin"
  | .viewer => "viewer"

structure UserRow (Id : Type) where
  id : Id
  email : String
  name : Option String
  role : Role
  provider : Option String
  providerID : Option String
  avatarURL : Option String
  passwordHash : Option String
  lastLoginAt : Option Nat
  createdAt : Nat
  updatedAt : Nat

/-- The indexed pair `(provider, provider_id)`, if neither is NULL. -/
def UserRow.identity {Id : Type} (row : UserRow Id) : Option (String × String) :=
  row.provider.bind fun provider => row.providerID.map fun providerID => (provider, providerID)

structure Users (Id : Type) where
  rows : List (UserRow Id)
  primaryKey : (rows.map UserRow.id).Nodup
  uniqueEmail : (rows.map UserRow.email).Nodup
  uniqueIdentity : (rows.filterMap UserRow.identity).Nodup

namespace Users

variable {Id : Type}

def empty : Users Id :=
  { rows := [], primaryKey := List.nodup_nil, uniqueEmail := List.nodup_nil
    uniqueIdentity := List.nodup_nil }

variable [DecidableEq Id]

/-- The table with these rows; `none` if they violate a constraint. -/
def ofRows (rows : List (UserRow Id)) : Option (Users Id) :=
  if h : (rows.map UserRow.id).Nodup ∧ (rows.map UserRow.email).Nodup
      ∧ (rows.filterMap UserRow.identity).Nodup then
    some { rows := rows, primaryKey := h.1, uniqueEmail := h.2.1, uniqueIdentity := h.2.2 }
  else none

theorem rows_of_ofRows {rows : List (UserRow Id)} {t : Users Id} (h : ofRows rows = some t) :
    t.rows = rows := by
  unfold ofRows at h
  split at h
  · cases h
    rfl
  · cases h

def insert (t : Users Id) (row : UserRow Id) : Option (Users Id) := ofRows (t.rows ++ [row])

/-- `SELECT … WHERE provider = $1 AND provider_id = $2`. -/
def findIdentity (t : Users Id) (provider providerID : String) : Option (UserRow Id) :=
  t.rows.find? fun row => row.identity = some (provider, providerID)

/-- `UPDATE … WHERE provider = $4 AND provider_id = $5`. -/
def updateIdentity (t : Users Id) (provider providerID : String) (f : UserRow Id → UserRow Id) :
    Option (Users Id) :=
  ofRows (t.rows.map fun row => if row.identity = some (provider, providerID) then f row else row)

/-- `UPDATE … WHERE id = $2`. -/
def updateByID (t : Users Id) (id : Id) (f : UserRow Id → UserRow Id) : Option (Users Id) :=
  ofRows (t.rows.map fun row => if row.id = id then f row else row)

end Users

/-! ## 2. Scanning a row -/

inductive Column where
  | id | email | name | role | provider | providerID | avatarURL | passwordHash
  | lastLoginAt | createdAt | updatedAt

def userColumns : List Column :=
  [.id, .email, .name, .role, .provider, .providerID, .avatarURL, .passwordHash, .lastLoginAt,
    .createdAt, .updatedAt]

/-- The `RETURNING` list of the two statements of `UpsertFromOIDC`. -/
def upsertReturning : List Column :=
  [.id, .email, .name, .role, .provider, .providerID, .avatarURL, .lastLoginAt, .createdAt,
    .updatedAt]

def scanTargets : List Column :=
  [.id, .email, .name, .role, .provider, .providerID, .avatarURL, .passwordHash, .lastLoginAt,
    .createdAt, .updatedAt]

/-- `User`, as far as its callers read it. -/
structure User (Id : Type) where
  id : Id
  email : String
  name : String
  role : Role
  provider : String
  providerID : String
  avatarURL : String

inductive UserError where
  | userNotFound
  | duplicateEmail
  | uniqueViolation
  /-- the driver's errors of `Scan` -/
  | fieldCount (fields destinations : Nat)
  | nullString
  | dataException

section

variable {Id : Type}

/-- `scanUser` of a row selected as `columns`. -/
def scanUser (columns : List Column) (row : UserRow Id) : Except UserError (User Id) :=
  if columns.length ≠ scanTargets.length then
    .error (.fieldCount columns.length scanTargets.length)
  else
    match row.name, row.provider, row.providerID, row.avatarURL with
    | some name, some provider, some providerID, some avatarURL =>
      .ok { id := row.id, email := row.email, name := name, role := row.role
            provider := provider, providerID := providerID, avatarURL := avatarURL }
    | _, _, _, _ => .error .nullString

/-! ## 3. Look-ups and the upsert -/

variable (t : Users Id)

def getByProviderID (provider providerID : String) : Except UserError (User Id) :=
  match t.findIdentity provider providerID with
  | none => .error .userNotFound
  | some row => scanUser userColumns row

variable [DecidableEq Id]

def getByID (id : Id) : Except UserError (User Id) :=
  match t.rows.find? fun row => row.id = id with
  | none => .error .userNotFound
  | some row => scanUser userColumns row

def oidcRow (newID : Id) (provider providerID email name avatarURL : String) (now : Nat) :
    UserRow Id :=
  { id := newID, email := email, name := some name, role := .viewer, provider := some provider
    providerID := some providerID, avatarURL := some avatarURL, passwordHash := none
    lastLoginAt := some now, createdAt := now, updatedAt := now }

def UserRow.withProfile (email name avatarURL : String) (now : Nat) (row : UserRow Id) :
    UserRow Id :=
  { row with email := email, name := some name, avatarURL := some avatarURL
             lastLoginAt := some now, updatedAt := now }

/-- `UpsertFromOIDC`: the table afterwards, and the result. `newID` is the
id the database draws. -/
def upsertFromOIDC (provider providerID email name avatarURL : String) (newID : Id)
    (now : Nat) : Users Id × Except UserError (User Id) :=
  match getByProviderID t provider providerID with
  | .ok _ =>
    match t.updateIdentity provider providerID (UserRow.withProfile email name avatarURL now) with
    | none => (t, .error .uniqueViolation)
    | some t' =>
      match t'.findIdentity provider providerID with
      | none => (t', .error .userNotFound)
      | some row => (t', scanUser upsertReturning row)
  | .error .userNotFound =>
    match t.insert (oidcRow newID provider providerID email name avatarURL now) with
    | none => (t, .error .duplicateEmail)
    | some t' =>
      (t', scanUser upsertReturning (oidcRow newID provider providerID email name avatarURL now))
  | .error e => (t, .error e)

def updateRole (id : Id) (role : Role) (now : Nat) : Users Id :=
  (t.updateByID id fun row => { row with role := role, updatedAt := now }).getD t

/-- `DELETE FROM users WHERE id = $1`. The two foreign keys to the table
are `ON DELETE SET NULL`. -/
def Users.deleteByID (id : Id) : Users Id where
  rows := t.rows.filter fun row => row.id ≠ id
  primaryKey := t.primaryKey.sublist (List.filter_sublist.map _)
  uniqueEmail := t.uniqueEmail.sublist (List.filter_sublist.map _)
  uniqueIdentity := t.uniqueIdentity.sublist (List.filter_sublist.filterMap _)

/-- The rows that an `UPDATE` or `DELETE` by id affects are none. -/
def Users.lacks (id : Id) : Bool := t.rows.all fun row => row.id ≠ id

end

/-! ## 4. Accounts with a password -/

structure Bcrypt where
  /-- `GenerateFromPassword`, with the salt it draws -/
  generate : String → Nat → String
  compare : String → String → Bool
  compare_generate : ∀ password salt, compare (generate password salt) password = true
  generate_ne_empty : ∀ password salt, generate password salt ≠ ""

/-- `HashPassword`; bcrypt takes no more than 72 bytes. -/
def hashPassword (bcrypt : Bcrypt) (password : String) (salt : Nat) : Option String :=
  if password.utf8ByteSize < 8 then none
  else if 72 < password.utf8ByteSize then none
  else some (bcrypt.generate password salt)

/-- What an assignment to a `VARCHAR(n)` column stores. Spaces past the
length are cut off; anything else there is an error, and so is a NUL. -/
def varchar (n : Nat) (value : String) : Option String :=
  if Char.ofNat 0 ∈ value.toList then none
  else if value.length ≤ n then some value
  else if (value.toList.drop n).all (· = ' ') then some (String.ofList (value.toList.take n))
  else none

variable {Id : Type}

def getByEmail (t : Users Id) (email : String) : Except UserError (User Id × Option String) :=
  match t.rows.find? fun row => row.email = email with
  | none => .error .userNotFound
  | some row => (scanUser userColumns row).map fun user => (user, row.passwordHash)

/-- `VerifyPassword`: the user that logs in. -/
def verifyPassword (bcrypt : Bcrypt) (t : Users Id) (email password : String) : Option (User Id) :=
  match getByEmail t email with
  | .error _ => none
  | .ok (_, none) => none
  | .ok (user, some hash) =>
    if hash = "" then none else if bcrypt.compare hash password then some user else none

def localRow (newID : Id) (email name : String) (role : Role) (passwordHash : String) (now : Nat) :
    UserRow Id :=
  { id := newID, email := email, name := some name, role := role, provider := some "local"
    providerID := some email, avatarURL := some "", passwordHash := some passwordHash
    lastLoginAt := none, createdAt := now, updatedAt := now }

def UserRow.withPassword (email passwordHash : String) (now : Nat) (row : UserRow Id) :
    UserRow Id :=
  { row with passwordHash := some passwordHash, provider := some "local", providerID := some email
             updatedAt := now }

variable [DecidableEq Id]

/-- `UPDATE … WHERE email = $1`. -/
def Users.updateByEmail (t : Users Id) (email : String) (f : UserRow Id → UserRow Id) :
    Option (Users Id) :=
  ofRows (t.rows.map fun row => if row.email = email then f row else row)

/-- `CreateWithPassword`: the table afterwards, and the result. -/
def createWithPassword (t : Users Id) (email name : String) (role : Role) (passwordHash : String)
    (newID : Id) (now : Nat) : Users Id × Except UserError (User Id) :=
  match varchar 255 email, varchar 255 name with
  | some email, some name =>
    match t.rows.find? fun row => row.email = email with
    | none =>
      match t.insert (localRow newID email name role passwordHash now) with
      | none => (t, .error .uniqueViolation)
      | some t' => (t', scanUser userColumns (localRow newID email name role passwordHash now))
    | some row =>
      -- ON CONFLICT (email) DO UPDATE
      match t.updateByEmail email (UserRow.withPassword email passwordHash now) with
      | none => (t, .error .uniqueViolation)
      | some t' => (t', scanUser userColumns (row.withPassword email passwordHash now))
  | _, _ => (t, .error .dataException)

end Daao.Auth

/-
Daao.Api.LessIdentity — what a caller without an account may do, in a
server without an OIDC issuer (`internal/api/middleware.go`).

Two requests come without an account. One without credentials is taken for
the newest owner of the `users` table. One whose token is valid but whose
account is gone is handed on without a user. The session handlers restrict
viewers only, so they do not restrict it; the handlers of
`user_handlers.go` refuse it.

Requests whose credentials the middleware reads are meant here; of the
endpoints that are left out none asks for a role.
-/
import Daao.Api.SessionHandlers
import Daao.Api.UserHandlers

namespace Daao.Api.LessIdentity

open Daao.Auth Daao.Sessions UserHandlers
open UserHandlers (jsonError requireOwner)

/-! ## 1. The caller -/

section

variable {Id : Type}

/-- `UserStore.List`: `ORDER BY created_at DESC`. A row that cannot be
scanned fails the whole list. -/
def listUsers (t : Users Id) : Except UserError (List (User Id)) :=
  (t.rows.insertionSort fun a b => b.createdAt ≤ a.createdAt).mapM (scanUser userColumns)

def singleUser (t : Users Id) : Option (User Id) :=
  match listUsers t with
  | .error _ => none
  | .ok users => users.find? fun u => u.role = .owner

end

structure Nexus (Id : Type) where
  parseUUID : String → Option Id
  uuidString : Id → String
  parse_string : ∀ id, parseUUID (uuidString id) = some id
  bcrypt : Bcrypt
  sessionStore : Bool

structure World (Id : Type) where
  users : Users Id
  sessions : SessionRecords Id
  newID : Id
  now : Nat

inductive Credentials where
  | absent
  | bearer (subject : String)

section

variable {Id : Type} [LinearOrder Id] (n : Nexus Id) (w : World Id)

def requestUser : Credentials → Option AuthUser
  | .absent => (singleUser w.users).map (AuthUser.ofUser n.uuidString)
  | .bearer subject =>
    contextUser n.uuidString (resolveUser n.parseUUID false w.users subject w.newID w.now).2

/-! ## 2. Operations on sessions and users -/

/-- What `HandleDeleteSession` leaves; the text is the error or the
status in the response. -/
structure Deletion (Id : Type) where
  table : SessionRecords Id
  status : Nat
  text : String

def handleDeleteSession (user : Option AuthUser) (sessionID : String) (t : SessionRecords Id) :
    Deletion Id :=
  if !n.sessionStore then ⟨t, 503, "database not configured"⟩
  else
    match n.parseUUID sessionID with
    | none => ⟨t, 400, "invalid session ID format"⟩
    | some id =>
      match t.find? id with
      | none => ⟨t, 404, "session not found"⟩
      | some sess =>
        if isOthers n.parseUUID user sess then ⟨t, 403, "you can only delete your own sessions"⟩
        else if sess.session.state ≠ .terminated ∧ sess.session.state ≠ .provisioning then
          ⟨t, 409, "only terminated or provisioning sessions can be deleted"⟩
        else ⟨t.restrict fun row => row.id ≠ id, 200, "deleted"⟩

abbrev UserResponse (Id : Type) := UserHandlers.Response Id

/-- The checks of the caller that the user handlers make. -/
def requireRole (role : String) (user : Option AuthUser) : Except (UserResponse Id) AuthUser :=
  match user with
  | none => .error (jsonError 401 "authentication required")
  | some user =>
    if hasPermission user.role role then .ok user
    else .error (jsonError 403 "insufficient permissions")

def handleListUsers (user : Option AuthUser) (t : Users Id) :
    Except (UserResponse Id) (List (User Id)) :=
  match requireRole "admin" user with
  | .error response => .error response
  | .ok _ =>
    match listUsers t with
    | .error _ => .error (jsonError 500 "failed to list users")
    | .ok users => .ok users

def handleGetUser (user : Option AuthUser) (idStr : String) (t : Users Id) :
    Except (UserResponse Id) (List (User Id)) :=
  match n.parseUUID idStr with
  | none => .error (jsonError 400 "invalid user ID")
  | some userID =>
    match requireRole "admin" user with
    | .error response => .error response
    | .ok _ =>
      match getByID t userID with
      | .error .userNotFound => .error (jsonError 404 "user not found")
      | .error _ => .error (jsonError 500 "failed to get user")
      | .ok u => .ok [u]

inductive Operation where
  | session (req : SessionRequest)
  | deleteSession (sessionID : String)
  | user (req : UserHandlers.Request)
  | listUsers
  | getUser (idStr : String)

def readStatus (res : Except (UserResponse Id) (List (User Id))) : Nat :=
  match res with
  | .error response => response.status
  | .ok _ => 200

def Operation.status (user : Option AuthUser) : Operation → Nat
  | .session req =>
    (serveSession n.parseUUID n.sessionStore user w.now w.sessions req).response.status
  | .deleteSession sessionID => (handleDeleteSession n user sessionID w.sessions).status
  | .user req =>
    let admitted := Request.accept n.bcrypt n.parseUUID user req
    (UserHandlers.handle admitted w.users w.newID w.now).2.status
  | .listUsers => readStatus (handleListUsers user w.users)
  | .getUser idStr => readStatus (handleGetUser n user idStr w.users)

def isRefusal (status : Nat) : Bool := status = 401 || status = 403

def Refused (c : Credentials) (op : Operation) : Prop :=
  isRefusal (op.status n w (requestUser n w c)) = true

/-! ## 3. Less identity -/

def Lesser : Credentials → Prop
  | .absent => True
  | .bearer subject => ∃ id ∈ n.parseUUID subject, w.users.lacks id = true

def fallback : Credentials → Option (User Id)
  | .absent => singleUser w.users
  | .bearer _ => none

def OthersSession (account : Id) (sessionID : String) : Prop :=
  n.sessionStore = true ∧ ∃ id ∈ n.parseUUID sessionID, ∃ sess ∈ w.sessions.find? id,
    sess.userID ≠ account

def Operation.Withheld (account : Id) : Operation → Prop
  | .session (.list ..) => False
  | .session (.onSession action sessionID) =>
    (action = .suspend ∨ action = .kill) ∧ OthersSession n w account sessionID
  | .deleteSession sessionID => OthersSession n w account sessionID
  | .getUser idStr | .user (.deleteUser idStr) => (n.parseUUID idStr).isSome = true
  | .user _ | .listUsers => True

def Operation.onUsers : Operation → Bool
  | .session _ | .deleteSession _ => false
  | _ => true

/-! ## 4. Who is refused -/

variable {n w} {user : Option AuthUser} {account : Id} {sessionID : String}

theorem refuses_transitionTo (ns : SessionState) (f : String)
    (c : List (Id × Daemon.NexusMessage)) (e : EventType) (now : Nat)
    (t : SessionRecords Id) (id : Id) :
    isRefusal (transitionTo ns f c e now t id).response.status = false := by
  unfold transitionTo
  split <;> rfl

theorem refuses_ite_isOthers {sess : SessionRecord Id} {t : SessionRecords Id} {m : String}
    {o : Outcome Id} (ho : isRefusal o.response.status = false) :
    isRefusal (if isOthers n.parseUUID user sess then Outcome.fail t 403 m
      else o).response.status = isOthers n.parseUUID user sess := by
  cases isOthers n.parseUUID user sess
  · exact ho
  · rfl

/-- Before its own part, a session handler refuses nobody. -/
theorem refuses_onSession_iff {t : SessionRecords Id}
    {handler : Id → SessionRecord Id → Outcome Id} :
    isRefusal (onSession n.parseUUID n.sessionStore sessionID t handler).response.status = true ↔
      n.sessionStore = true ∧ ∃ id ∈ n.parseUUID sessionID, ∃ sess ∈ t.find? id,
        isRefusal (handler id sess).response.status = true := by
  have hfail (code : Nat) (m : String) : (Outcome.fail t code m).response.status = code := rfl
  unfold onSession
  cases n.sessionStore with
  | false => simp [hfail, isRefusal]
  | true =>
    cases n.parseUUID sessionID with
    | none => simp [hfail, isRefusal]
    | some id => cases hf : t.find? id <;> simp [hfail, isRefusal, hf]

def Refuses (n : Nexus Id) (w : World Id) (user : Option AuthUser) (sessionID : String) : Prop :=
  n.sessionStore = true ∧ ∃ id ∈ n.parseUUID sessionID, ∃ sess ∈ w.sessions.find? id,
    isOthers n.parseUUID user sess = true

open Operation

theorem refuses_session_iff {action : SessionAction} :
    isRefusal ((session (.onSession action sessionID)).status n w user) = true ↔
      (action = .suspend ∨ action = .kill) ∧ Refuses n w user sessionID := by
  have hh : ∃ handler, serveSession n.parseUUID n.sessionStore user w.now w.sessions
        (.onSession action sessionID) = onSession n.parseUUID n.sessionStore sessionID w.sessions
          handler ∧ ∀ id sess, isRefusal (handler id sess).response.status
            = (decide (action = .suspend ∨ action = .kill) && isOthers n.parseUUID user sess) := by
    cases action <;> refine ⟨_, rfl, fun id sess => ?_⟩
    case get => rfl
    case attach =>
      split
      · rfl
      · exact refuses_transitionTo ..
    case detach | resume => exact refuses_transitionTo ..
    case suspend | kill => exact refuses_ite_isOthers (refuses_transitionTo ..)
  obtain ⟨handler, hs, hr⟩ := hh
  simp only [status, hs, refuses_onSession_iff, hr, Bool.and_eq_true, decide_eq_true_eq, Refuses]
  constructor
  · rintro ⟨hst, id, hid, sess, hse, ha, ho⟩
    exact ⟨ha, hst, id, hid, sess, hse, ho⟩
  · rintro ⟨ha, hst, id, hid, sess, hse, ho⟩
    exact ⟨hst, id, hid, sess, hse, ha, ho⟩

theorem not_refuses_list (c : String) (i : Option Int) :
    isRefusal ((session (.list c i)).status n w user) = false := by
  simp only [status, serveSession, handleListSessions]
  repeat' split
  all_goals rfl

theorem refuses_deleteSession_iff :
    isRefusal ((deleteSession sessionID).status n w user) = true ↔
      Refuses n w user sessionID := by
  simp only [status, handleDeleteSession, Refuses]
  cases n.sessionStore with
  | false => simp [isRefusal]
  | true =>
    cases n.parseUUID sessionID with
    | none => simp [isRefusal]
    | some id =>
      cases hf : w.sessions.find? id with
      | none => simp [isRefusal, hf]
      | some sess =>
        cases ho : isOthers n.parseUUID user sess
        · simp only [hf, ho, Bool.not_true, Bool.false_eq_true, if_false]
          split <;> simp [isRefusal, hf, ho]
        · simp [isRefusal, hf, ho]

/-- The operations on sessions that a user is refused are those on the
sessions of others. -/
theorem refuses_onSessions_iff {op : Operation} (hop : op.onUsers = false)
    (hothers : ∀ sess, isOthers n.parseUUID user sess = true ↔ sess.userID ≠ account) :
    isRefusal (op.status n w user) = true ↔ op.Withheld n w account := by
  match op, hop with
  | .session (.list ..), _ => simp [not_refuses_list, Operation.Withheld]
  | .session (.onSession ..), _ =>
    simp only [refuses_session_iff, Operation.Withheld, Refuses, OthersSession, hothers]
  | .deleteSession _, _ =>
    simp only [refuses_deleteSession_iff, Operation.Withheld, Refuses, OthersSession, hothers]

theorem not_refuses_onSessions {op : Operation} (hop : op.onUsers = false)
    (hothers : ∀ sess : SessionRecord Id, isOthers n.parseUUID user sess = false) :
    isRefusal (op.status n w user) = false := by
  rw [Bool.eq_false_iff]
  match op, hop with
  | .session (.list ..), _ => simp [not_refuses_list]
  | .session (.onSession ..), _ => simp [refuses_session_iff, Refuses, hothers]
  | .deleteSession _, _ => simp [refuses_deleteSession_iff, Refuses, hothers]

theorem refuses_onUsers_iff {op : Operation} (hop : op.onUsers = true)
    (hc : ∀ r, r = "admin" ∨ r = "owner" →
      ∃ e : UserResponse Id, requireRole r user = .error e ∧
        isRefusal e.status = true) (account : Id) :
    isRefusal (op.status n w user) = true ↔ op.Withheld n w account := by
  obtain ⟨ar, ha, har⟩ := hc "admin" (.inl rfl)
  obtain ⟨ownerResponse, ho, hor⟩ := hc "owner" (.inr rfl)
  have ho' : requireOwner user = .error ownerResponse := ho
  have hb : isRefusal (jsonError 400 "invalid user ID" : UserResponse Id).status = false := rfl
  cases op with
  | session req => cases hop
  | deleteSession sessionID => cases hop
  | listUsers =>
    simp [status, handleListUsers, ha, readStatus, har, Operation.Withheld]
  | getUser idStr =>
    cases hid : n.parseUUID idStr <;>
      simp [status, handleGetUser, hid, ha, readStatus, har, Operation.Withheld, hb]
  | user req =>
    cases req with
    | invite b d s =>
      simp [status, Request.accept, inviteWrite, checkInvite, ho', UserHandlers.handle, hor,
        Operation.Withheld]
    | changeRole p b =>
      simp [status, Request.accept, changeRoleWrite, ho', UserHandlers.handle, hor,
        Operation.Withheld]
    | deleteUser idStr =>
      cases hid : n.parseUUID idStr <;>
        simp [status, Request.accept, deleteWrite, hid, ho', UserHandlers.handle, hor,
          Operation.Withheld, hb]

theorem not_refuses_perform (write : Write Id) (t : Users Id) (newID : Id) (now : Nat) :
    isRefusal (write.perform t newID now).2.status = false := by
  cases write with
  | createWithPassword email name role password hash =>
    simp only [Write.perform, inviteResponse]
    repeat' split
    all_goals rfl
  | updateRole id role =>
    simp only [Write.perform]
    split <;> rfl
  | delete id =>
    simp only [Write.perform]
    split <;> rfl

/-- An owner passes every check of the user handlers. -/
theorem not_refuses_owner {op : Operation} (hop : op.onUsers = true) {owner : AuthUser}
    (hrole : owner.role = "owner") : isRefusal (op.status n w (some owner)) = false := by
  have hr (role : String) (h : role = "admin" ∨ role = "owner") :
      requireRole role (some owner) = (.ok owner : Except (UserResponse Id) AuthUser) := by
    obtain rfl | rfl := h <;> simp [requireRole, hasPermission, roleLevel, hrole]
  have ho : requireOwner (some owner) = (.ok owner : Except (UserResponse Id) AuthUser) :=
    hr "owner" (.inr rfl)
  cases op with
  | session req => cases hop
  | deleteSession sessionID => cases hop
  | listUsers =>
    simp only [status, handleListUsers, hr "admin" (.inl rfl)]
    split <;> rfl
  | getUser idStr =>
    simp only [status, handleGetUser, hr "admin" (.inl rfl)]
    repeat' split
    all_goals rfl
  | user req =>
    simp only [status]
    cases ha : Request.accept n.bcrypt n.parseUUID (some owner) req with
    | ok write => exact not_refuses_perform ..
    | error response =>
      simp only [UserHandlers.handle]
      cases req with
      | invite b d s =>
        simp only [Request.accept, inviteWrite, checkInvite, ho] at ha
        grind [jsonError, isRefusal]
      | changeRole p b =>
        simp only [Request.accept, changeRoleWrite, ho] at ha
        grind [jsonError, isRefusal]
      | deleteUser idStr =>
        simp only [Request.accept, deleteWrite, ho] at ha
        grind [jsonError, isRefusal]

/-! ## 5. The comparison -/

/-- What a viewer is refused. -/
theorem refuses_viewer_iff {v : AuthUser} (hro : v.role = "viewer")
    (hid : n.parseUUID v.id = some account) (op : Operation) :
    isRefusal (op.status n w (some v)) = true ↔ op.Withheld n w account := by
  cases hop : op.onUsers with
  | true =>
    refine refuses_onUsers_iff hop (fun role hr => ?_) account
    refine ⟨jsonError 403 "insufficient permissions", ?_, rfl⟩
    obtain rfl | rfl := hr <;> simp [requireRole, hasPermission, roleLevel, hro]
  | false => exact refuses_onSessions_iff hop fun sess => by simp [isOthers, viewerID, hro, hid]

theorem requestUser_lesser {less : Credentials} (hl : Lesser n w less) :
    requestUser n w less = (fallback w less).map (AuthUser.ofUser n.uuidString) := by
  cases less with
  | absent => rfl
  | bearer s =>
    obtain ⟨id, hid, hla⟩ := hl
    have hg : (w.users.rows.find? fun r => r.id = id) = none := by
      simpa [Users.lacks] using hla
    simp [requestUser, resolveUser, Option.mem_def.mp hid, getByID, hg, contextUser, fallback,
      Except.map]

omit [LinearOrder Id] in
theorem owner_of_fallback {less : Credentials} {u : User Id} (h : fallback w less = some u) :
    (AuthUser.ofUser n.uuidString u).role = "owner" := by
  cases less with
  | bearer s => cases h
  | absent =>
    simp only [fallback, singleUser] at h
    split at h
    · cases h
    · have ho := List.find?_some h
      rw [decide_eq_true_eq] at ho
      simp [AuthUser.ofUser, ho, Role.toString]

/-- What a lesser request is refused: operations on users, when no owner is
injected. -/
theorem refuses_lesser_iff {less : Credentials} (hl : Lesser n w less) (op : Operation)
    (account : Id) :
    Refused n w less op ↔
      op.Withheld n w account ∧ op.onUsers = true ∧ fallback w less = none := by
  rw [Refused, requestUser_lesser hl]
  cases hop : op.onUsers with
  | false =>
    suffices hr : isRefusal (op.status n w ((fallback w less).map (AuthUser.ofUser n.uuidString)))
        = false by simp [hr]
    refine not_refuses_onSessions hop fun sess => ?_
    cases hf : fallback w less with
    | none => rfl
    | some u => simp [isOthers, viewerID, owner_of_fallback hf]
  | true =>
    cases hf : fallback w less with
    | none => simpa using refuses_onUsers_iff hop (fun role hr => ⟨_, rfl, rfl⟩) account
    | some u => simp [not_refuses_owner hop (owner_of_fallback hf)]

/-- **Less identity gives no more rights** exactly if the operation is not
one that viewers are refused, or if it is on users and no owner is
injected. -/
theorem noMoreRights_iff (n : Nexus Id) (w : World Id) (op : Operation) {subject : String}
    {viewer : AuthUser} (haccount : requestUser n w (.bearer subject) = some viewer)
    (hrole : viewer.role = "viewer") (hid : n.parseUUID viewer.id = some account)
    {less : Credentials} (hless : Lesser n w less) :
    (Refused n w (.bearer subject) op → Refused n w less op) ↔
      (op.Withheld n w account → op.onUsers = true ∧ fallback w less = none) := by
  rw [refuses_lesser_iff hless op account, Refused, haccount, refuses_viewer_iff hrole hid]
  exact ⟨fun h hw => (h hw).2, fun h hw => ⟨hw, h hw⟩⟩

end

/-! ## 6. An office

An owner with a running session, a viewer, and an account that was
deleted. -/

def ids : List (String × Fin 4) := [("u0", 0), ("u1", 1), ("u2", 2), ("s3", 3)]

def office : Nexus (Fin 4) :=
  { parseUUID := fun text => ids.lookup text
    uuidString := fun id => (ids.find? fun entry => entry.2 = id).elim "" Prod.fst
    parse_string := by decide
    bcrypt :=
      { generate := fun password _ => password ++ "#"
        compare := fun hash password => hash = password ++ "#"
        compare_generate := by simp, generate_ne_empty := by simp }
    sessionStore := true }

def atWork : World (Fin 4) :=
  { users :=
      { rows := [localRow 0 "owner" "owner" .owner "" 0, localRow 1 "viewer" "viewer" .viewer "" 0]
        primaryKey := by decide, uniqueEmail := by decide, uniqueIdentity := by decide }
    sessions :=
      { rows := [{ id := 3, satelliteID := 3, userID := 0, name := "build"
                   session := { state := .running, lastActivityAt := 0, startedAt := none
                                detachedAt := none, suspendedAt := none, terminatedAt := none }
                   createdAt := 0 }]
        primaryKey := by decide }
    newID := 2
    now := 1 }

/-- The viewer may neither list the users nor kill the owner's session. The
first is granted without credentials, the second to the deleted account. -/
theorem moreRights :
    let answer (c : Credentials) (op : Operation) : Nat :=
      op.status office atWork (requestUser office atWork c)
    answer (.bearer "u1") .listUsers = 403 ∧ answer .absent .listUsers = 200 ∧
    answer (.bearer "u1") (.session (.onSession .kill "s3")) = 403 ∧
    answer (.bearer "u2") (.session (.onSession .kill "s3")) = 200 := by
  decide +kernel

/-- The deleted account cannot list the users either. -/
theorem noMoreRights_listUsers :
    Refused office atWork (.bearer "u1") .listUsers ∧
      Refused office atWork (.bearer "u2") .listUsers := by
  have hv : Refused office atWork (.bearer "u1") .listUsers := by
    unfold Refused
    decide +kernel
  have hless : Lesser office atWork (.bearer "u2") := ⟨2, rfl, rfl⟩
  exact ⟨hv, (noMoreRights_iff office atWork .listUsers rfl rfl rfl hless).mpr
    (fun _ => ⟨rfl, rfl⟩) hv⟩

end Daao.Api.LessIdentity

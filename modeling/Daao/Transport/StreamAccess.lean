/-
Daao.Transport.StreamAccess — who may watch and drive a session over the
two WebSocket endpoints (`internal/transport/websocket.go`).

`authenticateWebSocket` validates the token of the first message and drops
its claims, so neither endpoint knows the caller: the list stream sends all
active sessions, and the terminal stream serves every session that it finds
and that is not terminated. The REST handlers compare the session's
`user_id` with a viewer's id (`Api.isOthers`).

A state is one caller's connection to each endpoint, next to the table and
the session's buffer, which others write. The terminal's reading goroutine
is started after the scrollback was sent, so a message that comes earlier
waits.
-/
import Daao.Api.SessionHandlers
import Daao.Transport.TerminalInput

namespace Daao.Transport.StreamAccess

open Daao.Lib Daao.Api Daao.Buffer

/-! ## 1. The first message -/

structure AuthMsg where
  type : String
  token : String
  deriving DecidableEq

def authFields : List (StructField AuthMsg) :=
  [.scalar "type" Json.asString fun r v => { r with type := v },
   .scalar "token" Json.asString fun r v => { r with token := v }]

inductive Reply where
  | authOk
  | authError (message : String)
  | close (code : Nat) (text : String)
  deriving DecidableEq

structure Settings (Id Claims : Type) where
  /-- `jwtValidator`, if there is one: the claims, or the error's text -/
  validate : Option (String → Except String Claims)
  oidcEnabled : Bool
  sessionStore : Bool
  parseUUID : String → Option Id
  capacity : Int

section

variable {Id Claims : Type} (set : Settings Id Claims) (msg : GoString)

def notAuth : Bool × Option GoString × List Reply :=
  if !set.oidcEnabled then (true, some msg, [])
  else (false, none,
    [.authError "authentication required", .close 4401 "authentication required"])

/-- `authenticateWebSocket`: whether it succeeded, the message that is left
to the caller, and the replies. `none` is a read that failed. -/
def authenticateWebSocket (msg : Option GoString) : Bool × Option GoString × List Reply :=
  match msg with
  | none =>
    if set.oidcEnabled then
      (false, none, [.authError "auth timeout", .close 4401 "authentication required"])
    else (true, none, [])
  | some msg =>
    match unmarshalText authFields { type := "", token := "" } msg with
    | none => notAuth set msg
    | some authMsg =>
      if authMsg.type = "auth" then
        match set.validate with
        | none => (true, none, [.authOk])
        | some validate =>
          match validate authMsg.token with
          | .error e => (false, none, [.authError e, .close 4401 "invalid token"])
          | .ok _ => (true, none, [.authOk])
      else notAuth set msg

/-- How both endpoints begin. -/
def authenticate : Bool × Option GoString × List Reply :=
  if set.oidcEnabled && set.validate.isNone then
    (false, none,
      [.authError "server configuration error", .close 4401 "authentication required"])
  else authenticateWebSocket set (some msg)

def IsAuth : Prop :=
  ∃ token, unmarshalText authFields { type := "", token := "" } msg = some ⟨"auth", token⟩ ∧
    ∀ validate ∈ set.validate, ∃ claims, validate token = .ok claims

/-! ## 2. The two connections -/

inductive Phase where
  | connecting
  | lookingUp
  | attaching
  | polling
  | closed
  deriving DecidableEq

structure Streams (Id : Type) where
  sessions : SessionRecords Id
  phase : Phase
  /-- the session's buffer, and what was sent of it -/
  stream : TerminalStream
  /-- what was placed on the session's stream -/
  placed : List ToSession
  /-- the list stream is authenticated -/
  listening : Bool
  /-- the lists that were sent on it -/
  updates : List (List (SessionRecord Id))

def opened (t : SessionRecords Id) (buffer : Option RingBuffer) : Streams Id :=
  { sessions := t, phase := .connecting
    stream := { buffer := buffer, attached := false, lastLen := 0, sent := [] }
    placed := [], listening := false, updates := [] }

inductive Act (Id : Type) where
  | store (t : SessionRecords Id)
  | output (data : List Byte)
  | message (msg : GoString)
  | lookUp
  | attach
  | pollTick
  | stateTick
  /-- a message of the caller on the list stream; after the first they are
  dropped -/
  | listMessage (msg : GoString)
  /-- `sendSessionUpdate` -/
  | update

/-- What `processTerminalMessage` places on the session's stream. -/
def place : List ToSession :=
  match processTerminalMessage msg with
  | .send m => [m]
  | _ => []

variable [LinearOrder Id]

/-- `GetSession`, by the id in the path: the session can be streamed. -/
def isLive (sessionID : String) (t : SessionRecords Id) : Bool :=
  ((set.parseUUID sessionID).bind t.find?).any fun sess => sess.session.state ≠ .terminated

def listActiveSessions (t : SessionRecords Id) : List (SessionRecord Id) :=
  (t.rows.filter fun row => row.session.terminatedAt.isNone).insertionSort
    fun a b => b.createdAt ≤ a.createdAt

def step (sessionID : String) (s : Streams Id) : Act Id → Option (Streams Id)
  | .store t => some { s with sessions := t }
  | .output data =>
    (gatewayWrite set.capacity s.stream.buffer data).map fun buffer =>
      { s with stream := { s.stream with buffer := buffer } }
  | .message msg =>
    match s.phase with
    | .connecting =>
      let (ok, first, _) := authenticate set msg
      if ok then
        some { s with phase := .lookingUp, placed := s.placed ++ first.toList.flatMap place }
      else some { s with phase := .closed }
    | .polling => some { s with placed := s.placed ++ place msg }
    | _ => none
  | .lookUp =>
    if s.phase = .lookingUp then
      -- without a store any id that can be parsed is streamed
      let found := if set.sessionStore then isLive set sessionID s.sessions
        else (set.parseUUID sessionID).isSome
      some { s with phase := if found then .attaching else .closed }
    else none
  | .attach =>
    if s.phase = .attaching then
      (Transport.attach s.stream.buffer).map fun stream =>
        { s with stream := stream, phase := .polling }
    else none
  | .pollTick =>
    if s.phase = .polling then (tick s.stream).map fun stream => { s with stream := stream }
    else none
  | .stateTick =>
    if s.phase = .polling then
      some (if set.sessionStore && !isLive set sessionID s.sessions then { s with phase := .closed }
        else s)
    else none
  | .listMessage msg =>
    some (if s.listening then s else { s with listening := (authenticate set msg).1 })
  | .update =>
    if s.listening then
      let sessions := if set.sessionStore then listActiveSessions s.sessions else []
      some { s with updates := s.updates ++ [sessions] }
    else none

/-! ## 3. Isolation -/

/-- Nothing of the session has reached the caller, and nothing of the caller
the session. -/
structure Isolated (sessionID : String) (s : Streams Id) : Prop where
  output : s.stream.sent = []
  input : s.placed = []
  listed : ∀ id ∈ set.parseUUID sessionID, ∀ l ∈ s.updates, ∀ row ∈ l, row.id ≠ id

/-- The caller authenticates, the session is terminated when it is looked
up, and it is not active when a list is sent. -/
def Ended (sessionID : String) (s : Streams Id) : Act Id → Prop
  | .message msg => s.phase = .connecting → IsAuth set msg
  | .lookUp => set.sessionStore = true ∧ isLive set sessionID s.sessions = false
  | .update => ∀ id ∈ set.parseUUID sessionID, ∀ row ∈ listActiveSessions s.sessions, row.id ≠ id
  | _ => True

variable {set} {sessionID : String} {s s' : Streams Id}

omit [LinearOrder Id] in
theorem authenticate_of_isAuth {msg : GoString} (h : IsAuth set msg) :
    (authenticate set msg).2.1 = none := by
  obtain ⟨t, hm, hv⟩ := h
  simp only [authenticate, authenticateWebSocket, hm, if_true]
  cases hva : set.validate with
  | none => split <;> rfl
  | some validate => grind

theorem isolated_step {a : Act Id}
    (hs : Isolated set sessionID s ∧ s.phase ≠ .attaching ∧ s.phase ≠ .polling)
    (hok : Ended set sessionID s a) (hst : step set sessionID s a = some s') :
    Isolated set sessionID s' ∧ s'.phase ≠ .attaching ∧ s'.phase ≠ .polling := by
  obtain ⟨⟨hse, hp, hli⟩, ha, hpo⟩ := hs
  cases a with
  | store t =>
    cases hst
    exact ⟨⟨hse, hp, hli⟩, ha, hpo⟩
  | output d =>
    obtain ⟨b, -, rfl⟩ := Option.map_eq_some_iff.mp hst
    exact ⟨⟨hse, hp, hli⟩, ha, hpo⟩
  | message msg =>
    cases hph : s.phase <;> simp only [step, hph] at hst <;> try cases hst
    · have hf := authenticate_of_isAuth (hok hph)
      split at hst <;> cases hst
      · exact ⟨⟨hse, by simp [hp, hf], hli⟩, by simp, by simp⟩
      · exact ⟨⟨hse, hp, hli⟩, by simp, by simp⟩
    · exact absurd hph hpo
  | lookUp =>
    obtain ⟨hso, hlv⟩ := hok
    simp only [step, hso, if_true, hlv, Bool.false_eq_true, if_false] at hst
    split at hst <;> cases hst
    exact ⟨⟨hse, hp, hli⟩, by simp, by simp⟩
  | attach => simp [step, ha] at hst
  | pollTick => simp [step, hpo] at hst
  | stateTick => simp [step, hpo] at hst
  | listMessage msg =>
    cases hst
    split <;> exact ⟨⟨hse, hp, hli⟩, ha, hpo⟩
  | update =>
    simp only [step] at hst
    split at hst <;> cases hst
    refine ⟨⟨hse, hp, fun id hid l hl r hr => ?_⟩, ha, hpo⟩
    obtain hold | hn := List.mem_append.mp hl
    · exact hli id hid l hold r hr
    rw [List.mem_singleton.mp hn] at hr
    split at hr
    · exact hok id hid r hr
    · cases hr

/-- **Isolation of sessions that have ended.** No caller, whatever its token
says, gets or drives a session that is terminated when the terminal stream
looks it up and not active when lists are sent. -/
theorem isolated_of_ended (set : Settings Id Claims) (sessionID : String) (t : SessionRecords Id)
    (buffer : Option RingBuffer) (acts : List (Act Id)) (s : Streams Id)
    (hok : Along (step set sessionID) (Ended set sessionID) (opened t buffer) acts)
    (hrun : run (step set sessionID) (opened t buffer) acts = some s) : Isolated set sessionID s :=
  (run_invariant_along (fun _ _ _ hs hok hst => isolated_step hs hok hst)
    ⟨⟨rfl, rfl, by simp [opened]⟩, by simp [opened], by simp [opened]⟩ hok hrun).1

end

/-! ## 4. A viewer and somebody else's session -/

def site : Settings (Fin 3) String :=
  { validate := some fun token => if token = "t1" then .ok "u1" else .error "invalid"
    oidcEnabled := true, sessionStore := true
    parseUUID := fun text => [("u0", 0), ("u1", 1), ("s2", 2)].lookup text
    capacity := 8 }

def sessionOf (state : Sessions.SessionState) (terminatedAt : Option Nat) : SessionRecord (Fin 3) :=
  { id := 2, satelliteID := 0, userID := 0, name := "build"
    session := { state := state, lastActivityAt := 0, startedAt := none, detachedAt := none
                 suspendedAt := none, terminatedAt := terminatedAt }
    createdAt := 0 }

def only (row : SessionRecord (Fin 3)) : SessionRecords (Fin 3) :=
  { rows := [row], primaryKey := List.nodup_singleton _ }

def authMessage : GoString := go "\x7b\"type\":\"auth\",\"token\":\"t1\"\x7d"

/-- The REST handlers refuse the session to the viewer. The streams list
it, send its output and take the viewer's keystroke. -/
theorem viewer_not_isolated :
    let row := sessionOf .running none
    let viewer : AuthUser :=
      { id := "u1", email := "", name := "", role := "viewer", avatarURL := "" }
    isOthers site.parseUUID (some viewer) row = true ∧
    (run (step site "s2") (opened (only row) none)
      [.listMessage authMessage, .update, .message authMessage, .output [104, 105], .lookUp,
        .attach, .message [3]]).map (fun s => (s.updates, s.stream.sent, s.placed))
      = some ([[row]], [[104, 105]], [.terminalInput [3]]) := by
  decide +kernel

theorem isolated_of_ended_terminated :
    let start := opened (only (sessionOf .terminated (some 0))) none
    ∃ s, run (step site "s2") start [.message authMessage, .lookUp] = some s ∧
      Isolated site "s2" s := by
  have ha : IsAuth site authMessage := by
    refine ⟨"t1", by decide +kernel, ?_⟩
    rintro val ⟨⟩
    exact ⟨"u1", rfl⟩
  have hf : step site "s2" (opened (only (sessionOf .terminated (some 0))) none)
      (.message authMessage) = some { opened (only (sessionOf .terminated (some 0))) none with
        phase := .lookingUp } := by
    have hau : authenticate site authMessage = (true, none, [.authOk]) := by
      decide +kernel
    simp [step, opened, hau]
  refine ⟨_, by rw [run_cons_of_step hf]; rfl, isolated_of_ended site "s2" _ none
    [.message authMessage, .lookUp] _ ⟨fun _ => ha, fun s hs => ?_⟩
    (by rw [run_cons_of_step hf]; rfl)⟩
  cases hs
  exact ⟨⟨rfl, rfl⟩, fun _ _ => trivial⟩

/-! ## 5. Before authentication -/

inductive Frame where
  | reply (r : Reply)
  | pong
  /-- a session list, terminal output, a notice or a ping -/
  | data (bytes : GoString)
  deriving DecidableEq

inductive Endpoint where
  | sessionStream
  | terminalStream
  deriving DecidableEq

structure Conn where
  /-- what the first read returned; `none` is an error or a timeout -/
  first : Option (Option GoString)
  closed : Bool
  sent : List Frame
  placed : List ToSession
  deriving DecidableEq

inductive ConnEvent where
  | read (msg : Option GoString)
  /-- the handler, past the authentication, sends something -/
  | send (bytes : GoString)
  | close (r : Reply)
  deriving DecidableEq

variable {Id Claims : Type} (set : Settings Id Claims)

/-- A connection that was just upgraded; without a validator it is closed
at once. -/
def Conn.upgraded : Conn :=
  if set.oidcEnabled && set.validate.isNone then
    { first := none, closed := true, placed := []
      sent := [.reply (.authError "server configuration error"),
        .reply (.close 4401 "authentication required")] }
  else { first := none, closed := false, sent := [], placed := [] }

/-- The session stream drops what it reads. -/
def Conn.process (endpoint : Endpoint) (c : Conn) (msg : GoString) : Conn :=
  match endpoint, processTerminalMessage msg with
  | .terminalStream, .send m => { c with placed := c.placed ++ [m] }
  | .terminalStream, .pong => { c with sent := c.sent ++ [.pong] }
  | _, _ => c

def connStep (endpoint : Endpoint) (c : Conn) (e : ConnEvent) : Option Conn :=
  if c.closed then none
  else
    match c.first, e with
    | none, .read msg =>
      let (ok, firstMsg, replies) := authenticateWebSocket set msg
      let c := { c with
        first := some msg, closed := !ok, sent := c.sent ++ replies.map .reply }
      some (firstMsg.toList.foldl (Conn.process endpoint) c)
    | none, _ => none
    | some _, .read (some msg) => some (c.process endpoint msg)
    | some _, .read none => some { c with closed := true }
    | some _, .send bytes => some { c with sent := c.sent ++ [.data bytes] }
    | some _, .close r => some { c with closed := true, sent := c.sent ++ [.reply r] }

/-- An auth message whose token the validator accepts. -/
def Accepted (msg : GoString) : Prop :=
  ∃ token validate claims, set.validate = some validate ∧ validate token = .ok claims
    ∧ unmarshalText authFields { type := "", token := "" } msg = some ⟨"auth", token⟩

/-- Nothing was sent but replies and close frames, and nothing was placed. -/
def Conn.Quiet (c : Conn) : Prop := (∀ f ∈ c.sent, ∃ r, f = .reply r) ∧ c.placed = []

variable {set}

theorem authenticateWebSocket_of_oidc (ho : set.oidcEnabled = true) (hs : set.validate ≠ none)
    (msg : Option GoString) :
    (authenticateWebSocket set msg).2.1 = none
      ∧ ((authenticateWebSocket set msg).1 = true → ∃ m, msg = some m ∧ Accepted set m) := by
  cases msg with
  | none => simp [authenticateWebSocket, ho]
  | some m =>
    cases hm : unmarshalText authFields { type := "", token := "" } m with
    | none => simp [authenticateWebSocket, hm, notAuth, ho]
    | some am =>
      obtain ⟨validate, hv⟩ := Option.ne_none_iff_exists'.mp hs
      obtain ⟨type, token⟩ := am
      by_cases ht : type = "auth"
      · subst ht
        cases hva : validate token with
        | error e => simp [authenticateWebSocket, hm, hv, hva]
        | ok c =>
          refine ⟨by simp [authenticateWebSocket, hm, hv, hva], fun _ => ?_⟩
          exact ⟨m, rfl, token, validate, c, hv, hva, hm⟩
      · simp [authenticateWebSocket, hm, ht, notAuth, ho]

/-- What a connection that is not authenticated comes to. -/
def Conn.Guarded (set : Settings Id Claims) (c : Conn) : Prop :=
  (∃ msg, c.first = some (some msg) ∧ Accepted set msg)
    ∨ c.Quiet ∧ (c.closed = false → c.first = none ∧ set.validate ≠ none)

theorem first_process (en : Endpoint) (c : Conn) (msg : GoString) :
    (c.process en msg).first = c.first := by
  unfold Conn.process
  split <;> rfl

theorem guarded_step (ho : set.oidcEnabled = true) {en : Endpoint} {c c' : Conn}
    {e : ConnEvent} (h : c.Guarded set) (hs : connStep set en c e = some c') :
    c'.Guarded set := by
  cases hc : c.closed with
  | true => simp [connStep, hc] at hs
  | false =>
    simp only [connStep, hc, Bool.false_eq_true, if_false] at hs
    obtain ⟨msg, hfi, hms⟩ | ⟨hq, hfr⟩ := h
    · refine .inl ⟨msg, ?_, hms⟩
      rw [hfi] at hs
      cases e with
      | read m => grind [first_process]
      | send _ | close _ =>
        cases hs
        rfl
    obtain ⟨hfi, hse⟩ := hfr hc
    rw [hfi] at hs
    cases e with
    | send _ | close _ => cases hs
    | read msg =>
      obtain ⟨hl, hok⟩ := authenticateWebSocket_of_oidc ho hse msg
      cases hs
      rw [hl]
      cases ha : (authenticateWebSocket set msg).1 with
      | true =>
        obtain ⟨m, rfl, hm⟩ := hok ha
        exact .inl ⟨m, rfl, hm⟩
      | false =>
        refine .inr ⟨⟨fun f hf => ?_, hq.2⟩, nofun⟩
        rcases List.mem_append.mp hf with hf | hf
        · exact hq.1 f hf
        · grind

/-- **Authentication comes first.** With OIDC nothing is sent but replies
and close frames, and nothing is placed on a session's stream, unless the
first message is an auth message that the validator accepts. -/
theorem quiet_unless_accepted (set : Settings Id Claims) (hoidc : set.oidcEnabled = true)
    (endpoint : Endpoint) (events : List ConnEvent) (c : Conn)
    (hrun : run (connStep set endpoint) (Conn.upgraded set) events = some c) :
    c.Quiet ∨ ∃ msg, c.first = some (some msg) ∧ Accepted set msg := by
  have hs : (Conn.upgraded set).Guarded set := by
    refine .inr ?_
    unfold Conn.upgraded
    cases hse : set.validate with
    | none => simp [hoidc, Conn.Quiet]
    | some validate => simp [Conn.Quiet]
  obtain ha | ⟨hq, -⟩ := run_invariant (fun _ _ _ h hst => guarded_step hoidc h hst) hs hrun
  · exact .inr ha
  · exact .inl hq

/-- A keystroke before the authentication. -/
theorem quiet_unless_accepted_keystroke :
    ∃ c, run (connStep site .terminalStream) (Conn.upgraded site) [.read (some [3])] = some c
      ∧ (c.Quiet ∨ ∃ msg, c.first = some (some msg) ∧ Accepted site msg) :=
  ⟨_, rfl, quiet_unless_accepted site rfl .terminalStream [.read (some [3])] _ rfl⟩

end Daao.Transport.StreamAccess

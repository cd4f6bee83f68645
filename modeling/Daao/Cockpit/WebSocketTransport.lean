/-
Daao.Cockpit.WebSocketTransport — the sockets and promises of a
`WebSocketTransport` (`src/transport/WebSocketTransport.ts` of the cockpit).

A handler of a socket runs to its end before the next one. The callbacks
that settle the promise of `connect` are given to the socket that `connect`
opens, and a socket that the timer opens has none. The URL is one that a
socket accepts. `send` changes nothing here.
-/
import Daao.Lib.Trace

namespace Daao.Cockpit.WebSocketTransport

open Daao.Lib List

inductive ReadyState where
  | connecting
  | opened
  | closing
  | closed
  deriving DecidableEq

inductive Outcome where
  | resolved
  | rejected
  deriving DecidableEq

inductive Event where
  | opened
  | authOk
  | authError
  /-- another message -/
  | data
  | error
  | closed
  deriving DecidableEq

structure Socket where
  state : ReadyState := .connecting
  ofConnect : Bool
  /-- `firstResolve` and `firstReject` are set -/
  callbacks : Bool := ofConnect
  /-- the calls of the promise's `resolve` and `reject` -/
  settled : List Outcome := []
  /-- the events of the socket so far -/
  heard : List Event := []
  deriving DecidableEq

structure Transport where
  sockets : List Socket := []
  ws : Option Nat := none
  reconnectTimer : Bool := false
  reconnectAttempts : Nat := 0
  authToken : Bool := false
  disposed : Bool := false
  /-- the promise was rejected or `close` called since the last `connect` -/
  stopped : Bool := false
  /-- how many sockets were opened in that time -/
  late : Nat := 0
  /-- how many sockets were opened since the last authentication -/
  unauthenticated : Nat := 0
  /-- there was an authentication since the last `connect`, if there was one -/
  authenticated : Bool := true
  deriving DecidableEq

def maxReconnectAttempts : Nat := 10

def openSocket (s : Transport) (first : Bool) : Transport :=
  if s.disposed then s
  else
    { s with
      sockets := s.sockets ++ [{ ofConnect := first }], ws := some s.sockets.length
      late := s.late + s.stopped.toNat, unauthenticated := s.unauthenticated + 1 }

def connect (s : Transport) (authToken : Bool) : Transport :=
  openSocket
    { s with
      authToken := authToken, disposed := false, reconnectAttempts := 0, stopped := false
      authenticated := false } true

def Socket.settle (c : Socket) (outcome : Outcome) : Socket :=
  if c.callbacks then { c with callbacks := false, settled := c.settled ++ [outcome] } else c

def Socket.close (c : Socket) : Socket :=
  if c.state = .connecting ∨ c.state = .opened then { c with state := .closing } else c

def onopen (s : Transport) (i : Nat) (c : Socket) : Transport :=
  { s with
    sockets := s.sockets.set i
      (if s.authToken then { c with state := .opened }
        else Socket.settle { c with state := .opened } .resolved)
    reconnectAttempts := 0 }

def onerror (s : Transport) (i : Nat) (c : Socket) : Transport :=
  { s with sockets := s.sockets.set i (c.settle .rejected), stopped := s.stopped || c.callbacks }

def onclose (s : Transport) (i : Nat) (c : Socket) : Transport :=
  if s.disposed = true ∨ maxReconnectAttempts ≤ s.reconnectAttempts then
    { s with sockets := s.sockets.set i { c with state := .closed } }
  else
    { s with
      sockets := s.sockets.set i { c with state := .closed }
      reconnectAttempts := s.reconnectAttempts + 1, reconnectTimer := true }

def handle (s : Transport) (i : Nat) (c : Socket) : Event → Option Transport
  | .opened => if c.state = .connecting then some (onopen s i c) else none
  | .authOk =>
    if c.state = .opened then
      some { s with
        sockets := s.sockets.set i (c.settle .resolved), unauthenticated := 0
        authenticated := true }
    else none
  | .authError =>
    if c.state = .opened then
      some { s with
        sockets := s.sockets.set i (c.settle .rejected).close, disposed := true
        stopped := s.stopped || c.callbacks }
    else none
  | .data => if c.state = .opened then some { s with sockets := s.sockets.set i c } else none
  | .error => if c.state ≠ .closed then some (onerror s i c) else none
  | .closed => if c.state ≠ .closed then some (onclose s i c) else none

def close (s : Transport) : Transport :=
  { s with
    sockets := (s.ws.elim s.sockets fun i => s.sockets.modify i Socket.close), ws := none
    disposed := true, reconnectTimer := false, stopped := true }

inductive Act where
  | connect (authToken : Bool)
  | close
  | timeout
  | socket (i : Nat) (event : Event)

def step (s : Transport) : Act → Option Transport
  | .connect authToken => some (connect s authToken)
  | .close => some (close s)
  | .timeout =>
    if s.reconnectTimer then some (openSocket { s with reconnectTimer := false } false) else none
  | .socket i event =>
    (s.sockets[i]?).bind fun c => handle s i { c with heard := c.heard ++ [event] } event

/-- The events at which the promise of `connect` is settled. -/
def settles (authToken : Bool) : Event → Bool
  | .opened => !authToken
  | .authOk | .authError | .error => true
  | .data | .closed => false

/-- `connect` is called only when every socket has closed and no timer is
set, and again only after an authentication; and the last attempt is not
needed. The socket of `connect` closes only after an event that settles the
promise. Unless `close` was called or the authentication refused, this event
was not an error, and a socket that was open closes only after it was
authenticated. -/
def orderly (s : Transport) : Act → Bool
  | .connect _ => !s.reconnectTimer && s.sockets.all (·.state = .closed) && s.authenticated
  | .timeout => s.reconnectAttempts < maxReconnectAttempts
  | .socket i .closed =>
    (s.sockets[i]?).all fun c =>
      (!c.ofConnect || c.heard.any (settles s.authToken)) &&
        (s.disposed || (!c.ofConnect || c.heard.find? (settles s.authToken) ≠ some .error) &&
          (c.state ≠ .opened || c.heard.contains .authOk))
  | _ => true

structure Sound (s : Transport) : Prop where
  once : ∀ c ∈ s.sockets, c.settled.length ≤ 1
  settled : ∀ c ∈ s.sockets, c.ofConnect = true → c.state = .closed → c.settled ≠ []
  late : s.late = 0
  one : ∀ (i j : Nat) (c d : Socket), s.sockets[i]? = some c → s.sockets[j]? = some d →
    c.state ≠ .closed → d.state ≠ .closed → i = j
  count : s.unauthenticated ≤ maxReconnectAttempts

structure Socket.Ok (c : Socket) : Prop where
  once : c.settled.length ≤ 1
  held : c.callbacks = true → c.settled = [] ∧ c.state ≠ .closed ∧ c.ofConnect = true
  settled : c.ofConnect = true → c.callbacks = true ∨ c.settled ≠ []

/-- What is known of a socket that has not closed. -/
structure Live (s : Transport) (c : Socket) : Prop where
  /-- an event that settles the promise has settled it -/
  heard : c.callbacks = true → ∀ e ∈ c.heard, settles s.authToken e = false
  closing : c.state = .closing → s.disposed = true
  /-- a stopped transport that may open sockets was stopped by an error -/
  stopped : s.stopped = true → s.disposed = false →
    c.ofConnect = true ∧ c.heard.find? (settles s.authToken) = some .error
  /-- the socket of `connect`, or one of its retries -/
  connecting : c.state = .connecting → c.ofConnect = false →
    s.authenticated = true ∧ s.unauthenticated ≤ s.reconnectAttempts
  /-- before the socket opens nothing but an error settles the promise -/
  early : c.state = .connecting → ∀ e ∈ c.heard, settles s.authToken e = true → e = .error
  authOk : .authOk ∈ c.heard → s.authenticated = true ∧ s.unauthenticated = 0

structure Inv (s : Transport) : Prop where
  sockets : ∀ c ∈ s.sockets, c.Ok
  last : ∀ (i : Nat) (c : Socket), s.sockets[i]? = some c → c.state ≠ .closed →
    i + 1 = s.sockets.length
  live : ∀ c ∈ s.sockets, c.state ≠ .closed → Live s c
  timer : s.reconnectTimer = true → (∀ c ∈ s.sockets, c.state = .closed) ∧
    s.disposed = false ∧ s.stopped = false ∧ s.authenticated = true ∧
    s.unauthenticated < s.reconnectAttempts
  fresh : s.authenticated = true → s.unauthenticated < maxReconnectAttempts
  count : s.unauthenticated ≤ maxReconnectAttempts
  late : s.late = 0

variable {s t : Transport} {i : Nat} {c c' : Socket}

theorem Inv.sound (h : Inv s) : Sound s where
  once c hc := (h.sockets c hc).once
  settled c hc hco hcl :=
    ((h.sockets c hc).settled hco).resolve_left fun hh =>
      ((h.sockets c hc).held hh).2.1 hcl
  late := h.late
  one i j c d hc hd ho ho' := Nat.succ_inj.mp ((h.last i c hc ho).trans (h.last j d hd ho').symm)
  count := h.count

theorem Socket.Ok.settle (h : c.Ok) (u : Outcome) : (c.settle u).Ok := by
  unfold Socket.settle
  split
  · rename_i hh
    refine ⟨by simp [(h.held hh).1], by simp, by simp⟩
  · exact h

theorem Socket.Ok.close (h : c.Ok) : c.close.Ok := by
  unfold Socket.close
  split
  · exact { h with held := fun hh => ⟨(h.held hh).1, by simp, (h.held hh).2.2⟩ }
  · exact h

@[simp] theorem settle_state (u : Outcome) : (c.settle u).state = c.state := by
  unfold Socket.settle
  split <;> rfl

@[simp] theorem settle_heard (u : Outcome) : (c.settle u).heard = c.heard := by
  unfold Socket.settle
  split <;> rfl

@[simp] theorem settle_ofConnect (u : Outcome) : (c.settle u).ofConnect = c.ofConnect := by
  unfold Socket.settle
  split <;> rfl

@[simp] theorem settle_callbacks (u : Outcome) : (c.settle u).callbacks = false := by
  unfold Socket.settle
  split <;> simp_all

/-- A handler leaves every other socket as it is, and they have closed. -/
theorem Inv.set (h : Inv s) (hc : s.sockets[i]? = some c) (ho : c.state ≠ .closed)
    (ht : t.sockets = s.sockets.set i c') (hok : c'.Ok) (hlive : c'.state ≠ .closed → Live t c')
    (hti : t.reconnectTimer = s.reconnectTimer ∨ c'.state = .closed ∧
      t.disposed = false ∧ t.stopped = false ∧ t.authenticated = true ∧
      t.unauthenticated < t.reconnectAttempts)
    (hfr : t.authenticated = true → t.unauthenticated < maxReconnectAttempts)
    (hco : t.unauthenticated ≤ maxReconnectAttempts) (hl : t.late = s.late) : Inv t := by
  have hm : ∀ d ∈ t.sockets, d = c' ∨ d ∈ s.sockets ∧ d.state = .closed := by
    intro d hd
    obtain ⟨j, hj⟩ := mem_iff_getElem?.mp (ht ▸ hd)
    by_cases hij : i = j
    · grind
    · grind [h.last]
  refine ⟨?_, ?_, ?_, ?_, hfr, hco, hl.trans h.late⟩
  · grind [h.sockets]
  · grind [h.last]
  · grind
  intro hse
  -- no timer was set while this socket had not closed
  have hof : s.reconnectTimer ≠ true := fun hold =>
    ho ((h.timer hold).1 c (mem_of_getElem? hc))
  obtain ⟨hcl, hr⟩ := hti.resolve_left fun hs => hof (hs ▸ hse)
  refine ⟨fun d hd => ?_, hr⟩
  rcases hm d hd with rfl | ⟨-, hcl'⟩
  · exact hcl
  · exact hcl'

/-- A new socket, when all others have closed: the first one of `connect`,
or one of a timer. -/
theorem Inv.openSocket (h : Inv s) (hcl : ∀ c ∈ s.sockets, c.state = .closed)
    (ht : s.reconnectTimer = false) (hs : s.stopped = false) {first : Bool}
    (hau : s.authenticated = !first) (hlt : s.unauthenticated < maxReconnectAttempts)
    (hr : first = false → s.unauthenticated < s.reconnectAttempts ∧
      s.unauthenticated + 1 < maxReconnectAttempts) : Inv (openSocket s first) := by
  unfold WebSocketTransport.openSocket
  split
  · exact h
  refine ⟨?_, ?_, ?_, by simp [ht], ?_, hlt, by simp [hs, h.late]⟩
  · intro c hc
    rcases mem_append.mp hc with hold | hnew
    · exact h.sockets c hold
    · rw [mem_singleton.mp hnew]
      constructor <;> simp
  · grind
  · intro c hc hne
    have hnew : c = { ofConnect := first } := by grind
    subst hnew
    constructor <;> simp_all [Nat.succ_le_iff]
  · intro ha
    exact (hr (by simpa [hau] using ha)).2

/-- What a handler does for a socket that hears one more event and does not
close. -/
structure Hears (s t : Transport) (c c' : Socket) (event : Event) : Prop where
  heard : c'.heard = c.heard ++ [event]
  ofConnect : c'.ofConnect = c.ofConnect
  authToken : t.authToken = s.authToken
  callbacks : c'.callbacks = true → c.callbacks = true ∧ settles s.authToken event = false
  closing : c'.state = .closing → t.disposed = true ∨ c.state = .closing ∧ t.disposed = s.disposed
  connecting : c'.state = .connecting → c.state = .connecting ∧
    t.reconnectAttempts = s.reconnectAttempts ∧ (settles s.authToken event = true → event = .error)
  stopped : t.stopped = true → t.disposed = false →
    s.stopped = true ∧ s.disposed = false ∨ event = .error ∧ c.callbacks = true
  counts : if event = .authOk then t.authenticated = true ∧ t.unauthenticated = 0
    else t.authenticated = s.authenticated ∧ t.unauthenticated = s.unauthenticated
  rest : t.reconnectTimer = s.reconnectTimer ∧ t.late = s.late

variable {event : Event}

theorem Live.hear (h : Live s c) (hok : c.Ok) (hh : Hears s t c c' event) : Live t c' := by
  have hcn := hh.connecting
  have hau := hh.counts
  refine ⟨fun hc e he => ?_, fun hs => ?_, fun hs hd => ?_, fun hs ho => ?_, fun hs e he hse => ?_,
    fun he => ?_⟩
  · rw [hh.heard, mem_append, mem_singleton] at he
    rw [hh.authToken]
    rcases he with he | rfl
    · exact h.heard (hh.callbacks hc).1 e he
    · exact (hh.callbacks hc).2
  · exact (hh.closing hs).elim id fun ⟨hs, hd⟩ => hd.trans (h.closing hs)
  · rw [hh.ofConnect, hh.heard, hh.authToken, find?_append]
    rcases hh.stopped hs hd with ⟨hs, hd⟩ | ⟨rfl, hc⟩
    · obtain ⟨ho, hf⟩ := h.stopped hs hd
      exact ⟨ho, by rw [hf, Option.some_or]⟩
    · have hn : c.heard.find? (settles s.authToken) = none :=
        find?_eq_none.mpr fun e he => by simp [h.heard hc e he]
      exact ⟨(hok.held hc).2.2, by simp [hn, settles]⟩
  · have hne : event ≠ .authOk := by
      rintro rfl
      cases (hcn hs).2.2 rfl
    rw [if_neg hne] at hau
    rw [hau.1, hau.2, (hcn hs).2.1]
    exact h.connecting (hcn hs).1 (hh.ofConnect ▸ ho)
  · rw [hh.heard, mem_append, mem_singleton] at he
    rw [hh.authToken] at hse
    rcases he with he | rfl
    · exact h.early (hcn hs).1 e he hse
    · exact (hcn hs).2.2 hse
  · rw [hh.heard, mem_append, mem_singleton] at he
    split at hau
    · exact hau
    · rename_i hne
      rw [hau.1, hau.2]
      exact h.authOk (he.resolve_right (Ne.symm hne))

theorem Inv.hear (h : Inv s) (event : Event) (hc : s.sockets[i]? = some c) (ho : c.state ≠ .closed)
    (ht : t.sockets = s.sockets.set i c') (hok : c'.Ok) (hh : Hears s t c c' event) : Inv t := by
  have hm := mem_of_getElem? hc
  have hfr : (t.authenticated = true → t.unauthenticated < maxReconnectAttempts) ∧
      t.unauthenticated ≤ maxReconnectAttempts := by
    have hau := hh.counts
    split at hau <;> rw [hau.1, hau.2]
    · decide
    · exact ⟨h.fresh, h.count⟩
  exact h.set hc ho ht hok (fun _ => (h.live c hm ho).hear (h.sockets c hm) hh) (.inl hh.rest.1)
    hfr.1 hfr.2 hh.rest.2

theorem Live.close (h : Live s c) :
    Live (WebSocketTransport.close s) c ∧ Live (WebSocketTransport.close s) c.close := by
  have hc : c.close.heard = c.heard ∧ c.close.callbacks = c.callbacks ∧
      c.close.ofConnect = c.ofConnect ∧ c.close.state ≠ .connecting := by
    unfold Socket.close
    split <;> simp_all
  constructor
  · exact { h with closing := fun _ => rfl, stopped := fun _ hd => by cases hd }
  · obtain ⟨hh, hcb, hof, hst⟩ := hc
    refine ⟨by rw [hh, hcb]; exact h.heard, fun _ => rfl, (fun _ hd => by cases hd), ?_, ?_, ?_⟩
    · exact fun hs => absurd hs hst
    · exact fun hs => absurd hs hst
    · rw [hh]
      exact h.authOk

theorem Inv.close (h : Inv s) : Inv (close s) := by
  -- every socket is an old one, or an old one that starts to close
  have hg : ∀ (j : Nat) (d : Socket), (WebSocketTransport.close s).sockets[j]? = some d →
      ∃ c, s.sockets[j]? = some c ∧ (d = c ∨ d = c.close) := by
    intro j d hd
    cases hws : s.ws <;> simp only [WebSocketTransport.close, hws, Option.elim] at hd
    · exact ⟨d, hd, .inl rfl⟩
    grind
  have hm : ∀ d ∈ (WebSocketTransport.close s).sockets, ∃ c ∈ s.sockets, d = c ∨ d = c.close := by
    intro d hd
    obtain ⟨j, hj⟩ := mem_iff_getElem?.mp hd
    obtain ⟨c, hc, hor⟩ := hg j d hj
    exact ⟨c, mem_of_getElem? hc, hor⟩
  have hopen {c d : Socket} (hor : d = c ∨ d = c.close) (ho : d.state ≠ .closed) :
      c.state ≠ .closed := by
    intro hcl
    rcases hor with rfl | rfl
    · exact ho hcl
    · simp [Socket.close, hcl] at ho
  refine ⟨?_, ?_, ?_, by simp [WebSocketTransport.close], h.fresh, h.count, h.late⟩
  · intro d hd
    obtain ⟨c, hc, rfl | rfl⟩ := hm d hd
    · exact h.sockets _ hc
    · exact (h.sockets _ hc).close
  · intro j d hj ho
    obtain ⟨c, hc, hor⟩ := hg j d hj
    have hl : (WebSocketTransport.close s).sockets.length = s.sockets.length := by
      cases hws : s.ws <;> simp [WebSocketTransport.close, hws]
    rw [hl]
    exact h.last j c hc (hopen hor ho)
  · intro d hd ho
    obtain ⟨c, hc, hor⟩ := hm d hd
    have hlive := (h.live c hc (hopen hor ho)).close
    rcases hor with rfl | rfl
    · exact hlive.1
    · exact hlive.2

theorem Inv.closed (h : Inv s) (hc : s.sockets[i]? = some c) (hst : c.state ≠ .closed)
    (ho : orderly s (.socket i .closed) = true) :
    Inv (onclose s i { c with heard := c.heard ++ [.closed] }) := by
  have hm := mem_of_getElem? hc
  have hl := h.live c hm hst
  obtain ⟨hse, hg⟩ : (c.ofConnect = false ∨ ∃ e ∈ c.heard, settles s.authToken e = true) ∧
      (s.disposed = true ∨
        (c.ofConnect = false ∨ c.heard.find? (settles s.authToken) ≠ some .error) ∧
          (c.state ≠ .opened ∨ .authOk ∈ c.heard)) := by
    simpa [orderly, hc] using ho
  -- a promise that is not settled has heard nothing that settles it
  have hcb : c.callbacks = false := by
    by_contra hcb
    rw [Bool.not_eq_false] at hcb
    rcases hse with hof | ⟨e, he, hse⟩
    · simp [((h.sockets c hm).held hcb).2.2] at hof
    · simp [hl.heard hcb e he] at hse
  have hok' : Socket.Ok { c with state := .closed, heard := c.heard ++ [.closed] } :=
    { h.sockets c hm with held := by simp [hcb] }
  simp only [onclose]
  split
  · exact h.set hc hst rfl hok' (by simp) (.inl rfl) h.fresh h.count rfl
  rename_i ha
  obtain ⟨hd, -⟩ := not_or.mp ha
  obtain ⟨hne, hau⟩ := hg.resolve_left hd
  have hso : s.stopped = false := by
    by_contra hso
    obtain ⟨hof, hf⟩ := hl.stopped (by simpa using hso) (by simpa using hd)
    rcases hne with hof' | hne
    · simp [hof] at hof'
    · exact hne hf
  refine h.set hc hst rfl hok' (by simp) (.inr ⟨rfl, by simpa using hd, hso, ?_⟩) h.fresh
    h.count rfl
  cases hc' : c.state with
  | connecting =>
    have hof : c.ofConnect = false := by
      by_contra hof
      obtain ⟨e, he, hse⟩ := hse.resolve_left hof
      obtain ⟨e', he'⟩ := Option.isSome_iff_exists.mp (find?_isSome.mpr ⟨e, he, hse⟩)
      have herr := hl.early hc' e' (mem_of_find?_eq_some he') (find?_some he')
      exact (hne.resolve_left hof) (herr ▸ he')
    obtain ⟨hau, hle⟩ := hl.connecting hc' hof
    exact ⟨hau, Nat.lt_succ_of_le hle⟩
  | opened =>
    obtain ⟨hau, hz⟩ := hl.authOk (hau.resolve_left (not_not.mpr hc'))
    exact ⟨hau, by simp [hz]⟩
  | closing => exact absurd (hl.closing hc') hd
  | closed => exact absurd hc' hst

theorem inv_step {a : Act} (h : Inv s) (ho : orderly s a = true) (hs : step s a = some t) :
    Inv t := by
  cases a <;> simp only [step] at hs
  case connect token =>
    cases hs
    simp only [orderly, Bool.and_eq_true, Bool.not_eq_true', all_eq_true, decide_eq_true_eq] at ho
    obtain ⟨⟨ht, hcl⟩, hau⟩ := ho
    have h' : Inv
        { s with
          authToken := token, disposed := false, reconnectAttempts := 0, stopped := false
          authenticated := false } :=
      ⟨h.sockets, h.last, fun c hc hne => absurd (hcl c hc) hne, by simp [ht], by simp, h.count,
        h.late⟩
    exact h'.openSocket hcl ht rfl rfl (h.fresh hau) (by simp)
  case close =>
    cases hs
    exact h.close
  case timeout =>
    split at hs <;> cases hs
    rename_i hset
    obtain ⟨hcl, -, hso, hau, hco⟩ := h.timer hset
    have hlt : s.reconnectAttempts < maxReconnectAttempts := of_decide_eq_true ho
    have h' : Inv { s with reconnectTimer := false } :=
      { h with timer := by simp, live := fun c hc hne => absurd (hcl c hc) hne }
    exact h'.openSocket hcl rfl hso hau (Nat.lt_trans hco hlt) fun _ =>
      ⟨hco, Nat.lt_of_le_of_lt hco hlt⟩
  case socket i event =>
    obtain ⟨c, hc, hs⟩ := Option.bind_eq_some_iff.mp hs
    have hok : Socket.Ok { c with heard := c.heard ++ [event] } :=
      { h.sockets c (mem_of_getElem? hc) with }
    cases event <;> simp only [handle] at hs <;> split at hs <;> cases hs <;> rename_i hst
    case opened =>
      have hok' : Socket.Ok { c with state := .opened, heard := c.heard ++ [.opened] } :=
        { hok with held := fun hh => ⟨(hok.held hh).1, by simp, (hok.held hh).2.2⟩ }
      refine h.hear .opened hc (by simp [hst]) rfl ?_ ?_
      · split
        · exact hok'
        · exact hok'.settle _
      · constructor <;> cases htok : s.authToken <;> simp_all [onopen, settles]
    case authOk =>
      refine h.hear .authOk hc (by simp [hst]) rfl (hok.settle _) ?_
      constructor <;> simp_all
    case authError =>
      refine h.hear .authError hc (by simp [hst]) rfl (hok.settle _).close ?_
      constructor <;> simp [Socket.close, hst]
    case data =>
      refine h.hear .data hc (by simp [hst]) rfl hok ?_
      constructor <;> simp_all [settles]
    case error =>
      refine h.hear .error hc hst rfl (hok.settle _) ?_
      constructor <;> simp_all [onerror]
    case closed => exact h.closed hc hst ho

/-- Under these conditions a promise is settled once at most and when its
socket has closed, no socket is opened when the transport is stopped, one
socket at most is not closed, and at most ten are opened without an
authentication. -/
theorem transport_sound (acts : List Act)
    (horderly : Along step (fun s a => orderly s a = true) {} acts) :
    ∀ s ∈ states step {} acts, Sound s := by
  have hst : Inv {} := by constructor <;> simp [maxReconnectAttempts]
  exact fun s hs => (forall_states_of_along (fun _ _ _ => inv_step) hst horderly s hs).sound

/-- A connection that breaks and is restored; and one that is refused. -/
theorem transport_sound_restored :
    let acts := [.connect true, .socket 0 .opened, .socket 0 .authOk, .socket 0 .error,
      .socket 0 .closed, .timeout, .socket 1 .opened, .socket 1 .authOk, .close,
      .socket 1 .closed, .connect true, .socket 2 .error, .close, .socket 2 .closed]
    Along step (fun s a => orderly s a = true) {} acts ∧ ∀ s ∈ states step {} acts, Sound s :=
  ⟨by decide, transport_sound _ (by decide)⟩

/-- The connection is refused: the promise is rejected and a second socket
is opened. The socket closes before the authentication: its promise is never
settled. `connect` is called twice: two sockets are not closed. All attempts
fail: eleven sockets are opened. -/
theorem transport_unsound :
    (run step {} [.connect true, .socket 0 .error, .socket 0 .closed, .timeout]).map
        Transport.late = some 1 ∧
      (run step {} [.connect true, .socket 0 .opened, .socket 0 .closed]).map
        Transport.sockets
          = some [{ state := .closed, ofConnect := true, heard := [.opened, .closed] }] ∧
      (run step {} [.connect true, .connect true]).map
        Transport.sockets = some [{ ofConnect := true }, { ofConnect := true }] ∧
      (run step {} (.connect true ::
          (List.range 10).flatMap fun i => [.socket i .closed, .timeout])).map
        Transport.unauthenticated = some 11 := by
  decide

end Daao.Cockpit.WebSocketTransport

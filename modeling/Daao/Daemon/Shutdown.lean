/-
Daao.Daemon.Shutdown — the goroutines of a daemon that is shut down:
`Stop`, `signalHandler`, `Session.Close`, `forwardPtyOutput`, the receive
loop with the commands that make it wait, and the goroutines of agents
(`cmd/daao/daemon.go`); the control server (`cmd/daao/control.go`); the
monitor loops of a Dead Man's Switch (`pkg/lifecycle/dms.go`), the server
of a session's socket (`pkg/ipc/server.go`) and `PiBridge.Stop`
(`internal/satellite/pi_bridge.go`), as far as somebody waits for them.

An act is one step of one goroutine up to the next place where it may have
to wait. It is not enabled while the goroutine waits. What a goroutine can
wait for is:

* a wait group: `cs.wg` (the accept loop and the connections' handlers),
  `sess.Wg` (the forwarder and the goroutine that waits for the process),
  `d.wg` (the context watcher, the connection loop, the receive loop, the
  signal handler and the agents' forwarders), and those of the switch and
  of the session's socket;
* a `sync.Once`: a second `Stop`, or a second `Close` of a session, waits
  for the first one;
* a lock that is held over a wait: `localClientsMu`, held while the
  forwarder writes to clients, `bridgesMu`, held while a new agent's
  predecessor is stopped, and an agent's own lock, held while a prompt is
  written. `sessionsMu` is held for short look-ups and updates only, and is
  part of the steps;
* a read or a write: from and to a client, a terminal, an agent. A read or
  write on what has been closed fails.

A process that is killed exits, and a time limit passes: these are the
daemon's own steps too. What clients, processes and Nexus do otherwise is an
`EnvAct`, and may never come.
-/
import Daao.Lib.Trace

namespace Daao.Daemon.Shutdown

/-! ## 1. The parties -/

/-- A control connection, as the client has left it. -/
inductive Conn where
  | live
  /-- the client has closed its sending side -/
  | halfClosed
  | closed
  deriving DecidableEq

inductive HandlerPhase where
  | request
  /-- it writes a response, and is done then -/
  | reply
  /-- it writes the header and the scrollback -/
  | hydrate (sess : Nat)
  | register (sess : Nat)
  | attached (sess : Nat)
  | ptyWrite (sess : Nat)
  | detach (sess : Nat)
  | returned
  deriving DecidableEq

structure Handler where
  phase : HandlerPhase
  conn : Conn
  /-- what the client has sent and the handler has not read -/
  input : Nat
  deriving DecidableEq

inductive Once where
  | fresh
  | stoppingDms
  | closingIpc
  /-- in `Wg.Wait`: the PTY is closed and the process is killed -/
  | waiting
  | done
  deriving DecidableEq

inductive Forwarder where
  | reading
  /-- it holds `localClientsMu`, and has these clients left -/
  | fanout (left : List Nat)
  | returned
  deriving DecidableEq

structure Session where
  id : String
  /-- it is in `d.sessions` -/
  registered : Bool
  once : Once
  /-- the monitor loops of its switch that have not returned -/
  monitors : Nat
  /-- the goroutines of its socket's server that have not returned -/
  ipc : Nat
  forwarder : Forwarder
  /-- the goroutine that waits for the process has not returned -/
  waiter : Bool
  alive : Bool
  /-- the process takes its terminal's input -/
  takes : Bool
  localClients : List Nat
  deriving DecidableEq

def Once.killed : Once → Bool
  | .waiting | .done => true
  | _ => false

def Once.ipcClosed : Once → Bool
  | .closingIpc | .waiting | .done => true
  | _ => false

/-- The PTY is closed by `Close`, and by the goroutine that waits for the
process before it returns. -/
def Session.ptyOpen (sess : Session) : Bool := sess.waiter && !sess.once.killed

def Session.writable (sess : Session) : Bool := sess.takes || !sess.ptyOpen

def Session.clientsFree (sess : Session) : Bool :=
  match sess.forwarder with
  | .fanout _ => false
  | _ => true

inductive AgentForwarder where
  | notStarted
  | ranging
  /-- in `PiBridge.Stop`, before the abort message -/
  | stopping
  /-- in `PiBridge.Stop`, after it -/
  | waiting
  | cleanup
  | returned
  deriving DecidableEq

structure Bridge where
  id : String
  /-- it is in `d.bridges` -/
  registered : Bool
  alive : Bool
  /-- the process takes its standard input -/
  takes : Bool
  /-- `stdin` is closed -/
  aborted : Bool
  killed : Bool
  forwarder : AgentForwarder
  deriving DecidableEq

def Bridge.writable (b : Bridge) : Bool := b.takes || !b.alive || b.aborted

inductive Receive where
  /-- there is no connection -/
  | absent
  | receiving
  /-- `handleTerminalInput`, in `Pty.Write` -/
  | input (sess : Nat)
  /-- `handleKillCommand` or `handleSessionReconciliation`, in `Close` -/
  | closing (sess : Nat)
  /-- `handleDeployAgentCommand`, in `old.Stop` before the abort message -/
  | stopOld (old new : Nat)
  /-- `handleDeployAgentCommand`, in `old.Stop` after it -/
  | waitOld (old new : Nat)
  /-- `handleDeployAgentCommand`, in `SendPrompt` -/
  | prompting (bridge : Nat)
  deriving DecidableEq

def Receive.holdsBridges : Receive → Bool
  | .stopOld _ _ | .waitOld _ _ => true
  | _ => false

inductive Signal where
  | waiting
  | stopping
  | returned
  deriving DecidableEq

inductive StopPhase where
  | idle
  | control
  /-- it closes these sessions -/
  | sessions (left : List Nat)
  /-- it stops these agents -/
  | bridges (left : List Nat)
  /-- in `PiBridge.Stop`, after the abort message -/
  | waiting (bridge : Nat) (left : List Nat)
  | final
  | returned
  deriving DecidableEq

structure State where
  stop : StopPhase
  signal : Signal
  /-- the accept loop of the control server has not returned -/
  accepting : Bool
  /-- a handler, a session and a bridge are positions -/
  handlers : List Handler
  sessions : List Session
  bridges : List Bridge
  receive : Receive
  grpc : Bool
  context : Bool
  deriving DecidableEq

def started : State :=
  { stop := .idle, signal := .waiting, accepting := true, handlers := [], sessions := []
    bridges := [], receive := .absent, grpc := true, context := true }

namespace State

/-- `d.ctx` is cancelled, and the control server's listener is closed. -/
def cancelled (d : State) : Bool := d.stop ≠ .idle

def onceOf (d : State) (s : Nat) : Once := (d.sessions[s]?).elim .done Session.once

/-- `PiBridge.Stop` gets the agent's lock, and its abort message is
written. -/
def canAbort (d : State) (b : Nat) : Bool :=
  (d.bridges[b]?).all Bridge.writable && d.receive ≠ .prompting b

def abort (d : State) (b : Nat) : State :=
  { d with bridges := d.bridges.modify b fun bridge => { bridge with aborted := true } }

def kill (d : State) (b : Nat) : State :=
  { d with bridges := d.bridges.modify b fun bridge => { bridge with killed := true } }

def registeredSessions (d : State) : List Nat :=
  (List.range d.sessions.length).filter fun s => (d.sessions[s]?).any Session.registered

def registeredBridges (d : State) : List Nat :=
  (List.range d.bridges.length).filter fun b => (d.bridges[b]?).any Bridge.registered

def wgDone (d : State) : Bool :=
  !d.context && !d.grpc && d.signal = .returned && d.receive = .absent
    && d.bridges.all fun b => b.forwarder = .notStarted || b.forwarder = .returned

end State

/-! ## 2. The daemon's own steps -/

inductive SessionAct where
  | monitor
  | ipc
  | forwarder
  /-- the process exits, having been killed -/
  | exit
  | waiter
  | close
  deriving DecidableEq

variable (d : State)

def sessionStep (sess : Session) : SessionAct → Option Session
  | .monitor =>
    if sess.once ≠ .fresh ∧ 0 < sess.monitors then
      some { sess with monitors := sess.monitors - 1 }
    else none
  | .ipc =>
    if sess.once.ipcClosed ∧ 0 < sess.ipc then some { sess with ipc := sess.ipc - 1 } else none
  | .forwarder =>
    match sess.forwarder with
    | .reading => if sess.ptyOpen then none else some { sess with forwarder := .returned }
    | .fanout [] =>
      some { sess with forwarder := if d.cancelled then .returned else .reading }
    | .fanout (c :: left) =>
      if (d.handlers[c]?).all fun h => h.conn = .closed then
        some { sess with forwarder := .fanout left }
      else none
    | .returned => none
  | .exit => if sess.once.killed ∧ sess.alive then some { sess with alive := false } else none
  | .waiter => if sess.waiter ∧ sess.alive = false then some { sess with waiter := false } else none
  | .close =>
    match sess.once with
    | .stoppingDms => if sess.monitors = 0 then some { sess with once := .closingIpc } else none
    | .closingIpc => if sess.ipc = 0 then some { sess with once := .waiting } else none
    | .waiting =>
      if sess.forwarder = .returned ∧ sess.waiter = false then some { sess with once := .done }
      else none
    | .fresh | .done => none

def handlerStep (h : Handler) : Option Handler :=
  match h.phase with
  | .request =>
    if h.conn = .live then none else some { h with phase := .returned, conn := .closed }
  | .reply | .hydrate _ => if h.conn = .closed then some { h with phase := .returned } else none
  | .register s =>
    if (d.sessions[s]?).all Session.clientsFree then some { h with phase := .attached s } else none
  | .attached s =>
    if 0 < h.input then some { h with phase := .ptyWrite s, input := h.input - 1 }
    else if h.conn = .live then none
    else some { h with phase := .detach s }
  | .ptyWrite s =>
    if (d.sessions[s]?).all Session.writable then
      -- the loop ends if the PTY is closed
      if (d.sessions[s]?).any Session.ptyOpen then some { h with phase := .attached s }
      else some { h with phase := .detach s }
    else none
  | .detach s =>
    if (d.sessions[s]?).all Session.clientsFree then
      some { h with phase := .returned, conn := .closed }
    else none
  | .returned => none

def relist (sessions : List Session) (i : Nat) : HandlerPhase → List Session
  | .register s =>
    sessions.modify s fun sess => { sess with localClients := sess.localClients ++ [i] }
  | .detach s =>
    sessions.modify s fun sess => { sess with localClients := sess.localClients.erase i }
  | _ => sessions

inductive BridgeAct where
  | exit
  /-- the forwarder goes on; `done` is the branch of its `select` -/
  | forwarder (done : Bool)
  deriving DecidableEq

/-- A step of an agent's process or of its forwarder, but for what it
does to other agents. -/
def bridgeStep (i : Nat) (b : Bridge) : BridgeAct → Option Bridge
  | .exit => if b.killed ∧ b.alive then some { b with alive := false } else none
  | .forwarder done =>
    match b.forwarder with
    | .ranging =>
      if done then if d.cancelled then some { b with forwarder := .stopping } else none
      else if b.alive then none else some { b with forwarder := .cleanup }
    | .stopping =>
      if d.canAbort i then some { b with forwarder := .waiting, aborted := true } else none
    | .waiting => some { b with forwarder := .cleanup, killed := true }
    | .cleanup => if d.receive.holdsBridges then none else some { b with forwarder := .returned }
    | .notStarted | .returned => none

/-- `delete(d.bridges, sessionID)`, which is made in the step that
returns. -/
def unregister (id : String) (bridges : List Bridge) : List Bridge :=
  bridges.map fun b => if b.id = id then { b with registered := false } else b

/-- A call of `Close` on a session: it enters, waits, or finds that the
session is closed. -/
def closeStep (s : Nat) (next : State) : Option State :=
  match d.onceOf s with
  | .fresh =>
    some { d with sessions := d.sessions.modify s fun sess => { sess with once := .stoppingDms } }
  | .done => some next
  | _ => none

def receiveStep : Option State :=
  match d.receive with
  | .absent => none
  | .receiving => if d.cancelled then some { d with receive := .absent } else none
  | .input s =>
    if (d.sessions[s]?).all Session.writable then some { d with receive := .receiving } else none
  | .closing s =>
    closeStep d s { d with
      receive := .receiving
      sessions := d.sessions.modify s fun sess => { sess with registered := false } }
  | .stopOld old new =>
    if d.canAbort old then some { d.abort old with receive := .waitOld old new } else none
  | .waitOld old new =>
    let d' := d.kill old
    some { d' with
      receive := .prompting new
      bridges := (d'.bridges.modify old fun b => { b with registered := false }).modify new
        fun b => { b with registered := true } }
  | .prompting new =>
    if (d.bridges[new]?).all Bridge.writable then
      some { d with
        receive := .receiving
        bridges := d.bridges.modify new fun b =>
          { b with forwarder := if b.forwarder = .notStarted then .ranging else b.forwarder } }
    else none

def stopStep : Option State :=
  match d.stop with
  | .idle | .returned => none
  | .control =>
    if d.accepting = false ∧ d.handlers.all fun h => h.phase = .returned then
      some { d with stop := .sessions d.registeredSessions }
    else none
  | .sessions (s :: left) => closeStep d s { d with stop := .sessions left }
  | .sessions [] =>
    if d.receive.holdsBridges then none
    else some { d with stop := .bridges d.registeredBridges }
  | .bridges (b :: left) =>
    if d.canAbort b then some { d.abort b with stop := .waiting b left } else none
  | .waiting b left => some { d.kill b with stop := .bridges left }
  | .bridges [] => some { d with stop := .final }
  | .final => if d.wgDone then some { d with stop := .returned } else none

/-! ## 3. The environment -/

inductive EnvAct where
  | callStop
  | interrupt
  -- a client
  | connect
  /-- a request to attach to a session, or another one -/
  | sendRequest (h : Nat) (attach : Option Nat)
  | take (h : Nat)
  | sendInput (h : Nat)
  | halfClose (h : Nat)
  | hangUp (h : Nat)
  -- a session's process, its terminal and its socket
  | output (s : Nat)
  | takeOutput (s : Nat)
  | exit (s : Nat)
  | takes (s : Nat) (takes : Bool)
  | startMonitor (s : Nat)
  | ipcConnect (s : Nat)
  -- an agent's process
  | agentExit (b : Nat)
  | agentTakes (b : Nat) (takes : Bool)
  -- Nexus
  | connected
  | lost
  | startSession (id : String)
  | terminalInput (s : Nat)
  | killSession (s : Nat)
  | deployAgent (id : String)
  deriving DecidableEq

def newSession (id : String) : Session :=
  { id := id, registered := true, once := .fresh, monitors := 0, ipc := 1, forwarder := .reading
    waiter := true, alive := true, takes := true, localClients := [] }

def newBridge (id : String) : Bridge :=
  { id := id, registered := false, alive := true, takes := true, aborted := false, killed := false
    forwarder := .notStarted }

def beginStop : State := if d.stop = .idle then { d with stop := .control } else d

def clientStep (h : Handler) : EnvAct → Option Handler
  | .sendRequest _ attach =>
    if h.phase = .request ∧ h.conn = .live then
      match attach with
      | none => some { h with phase := .reply }
      | some s =>
        if (d.sessions[s]?).any Session.registered then some { h with phase := .hydrate s }
        else some { h with phase := .reply }
    else none
  | .take _ =>
    if h.conn = .closed then none
    else match h.phase with
      | .reply => some { h with phase := .returned, conn := .closed }
      | .hydrate s => some { h with phase := .register s }
      | _ => none
  | .sendInput _ => if h.conn = .live then some { h with input := h.input + 1 } else none
  | .halfClose _ => if h.conn = .live then some { h with conn := .halfClosed } else none
  | .hangUp _ => some { h with conn := .closed }
  | _ => none

def processStep (sess : Session) : EnvAct → Option Session
  | .output _ =>
    if sess.forwarder = .reading ∧ sess.ptyOpen then
      some { sess with forwarder := .fanout sess.localClients }
    else none
  | .takeOutput _ =>
    match sess.forwarder with
    | .fanout (c :: left) =>
      if (d.handlers[c]?).any fun h => h.conn ≠ .closed then
        some { sess with forwarder := .fanout left }
      else none
    | _ => none
  | .exit _ => some { sess with alive := false }
  | .takes _ takes => some { sess with takes := takes }
  | .startMonitor _ => some { sess with monitors := sess.monitors + 1 }
  | .ipcConnect _ =>
    if sess.once.ipcClosed then none else some { sess with ipc := sess.ipc + 1 }
  | _ => none

def messageStep : EnvAct → Option State
  | .startSession id =>
    some { d with
      sessions := d.sessions.map (fun sess =>
        if sess.id = id then { sess with registered := false } else sess) ++ [newSession id] }
  | .terminalInput s =>
    if (d.sessions[s]?).any Session.registered then some { d with receive := .input s } else none
  | .killSession s =>
    if (d.sessions[s]?).any Session.registered then some { d with receive := .closing s } else none
  | .deployAgent id =>
    let new := d.bridges.length
    match d.bridges.findIdx? fun b => b.registered && b.id = id with
    | some old =>
      some { d with receive := .stopOld old new, bridges := d.bridges ++ [newBridge id] }
    | none =>
      some { d with
        receive := .prompting new
        bridges := d.bridges ++ [{ newBridge id with registered := true }] }
  | _ => none

def envStep : EnvAct → Option State
  | .callStop => some (beginStop d)
  | .interrupt =>
    if d.signal = .waiting then some { beginStop d with signal := .stopping } else none
  | .connect =>
    if d.accepting then
      some { d with handlers := d.handlers ++ [{ phase := .request, conn := .live, input := 0 }] }
    else none
  | e@(.sendRequest i _) | e@(.take i) | e@(.sendInput i) | e@(.halfClose i) | e@(.hangUp i) => do
    let h ← d.handlers[i]?
    let h' ← clientStep d h e
    some { d with handlers := d.handlers.set i h' }
  | e@(.output i) | e@(.takeOutput i) | e@(.exit i) | e@(.takes i _) | e@(.startMonitor i)
  | e@(.ipcConnect i) => do
    let sess ← d.sessions[i]?
    let sess' ← processStep d sess e
    some { d with sessions := d.sessions.set i sess' }
  | .agentExit i =>
    some { d with bridges := d.bridges.modify i fun b => { b with alive := false } }
  | .agentTakes i takes =>
    some { d with bridges := d.bridges.modify i fun b => { b with takes := takes } }
  | .connected =>
    if d.grpc ∧ d.receive = .absent then some { d with receive := .receiving } else none
  | .lost => if d.receive = .receiving then some { d with receive := .absent } else none
  | e@(.startSession _) | e@(.terminalInput _) | e@(.killSession _) | e@(.deployAgent _) =>
    if d.receive = .receiving then messageStep d e else none

/-! ## 4. The whole -/

inductive Act where
  | acceptLoop
  | handler (h : Nat)
  | session (s : Nat) (a : SessionAct)
  | bridge (b : Nat) (a : BridgeAct)
  | receive
  | grpc
  | context
  | signal
  | stop
  | env (e : EnvAct)
  deriving DecidableEq

def step (d : State) : Act → Option State
  | .acceptLoop => if d.accepting ∧ d.cancelled then some { d with accepting := false } else none
  | .handler i => do
    let h ← d.handlers[i]?
    let h' ← handlerStep d h
    some { d with handlers := d.handlers.set i h', sessions := relist d.sessions i h.phase }
  | .session s a => do
    let sess ← d.sessions[s]?
    let sess' ← sessionStep d sess a
    some { d with sessions := d.sessions.set s sess' }
  | .bridge i a => do
    let b ← d.bridges[i]?
    let b' ← bridgeStep d i b a
    let bridges := d.bridges.set i b'
    some { d with
      bridges := if b'.forwarder = .returned then unregister b.id bridges else bridges }
  | .receive => receiveStep d
  | .grpc => if d.grpc ∧ d.cancelled then some { d with grpc := false } else none
  | .context => if d.context ∧ d.cancelled then some { d with context := false } else none
  | .signal =>
    match d.signal with
    | .waiting => if d.cancelled then some { d with signal := .returned } else none
    -- whichever call of `Stop` runs, this one returns only when it is over
    | .stopping => if d.stop = .returned then some { d with signal := .returned } else none
    | .returned => none
  | .stop => stopStep d
  | .env e => envStep d e

/-- A step that does not need a client, a process or Nexus. -/
def Act.own : Act → Bool
  | .env _ => false
  | _ => true

def EnvAct.client : EnvAct → Option Nat
  | .sendRequest i _ | .take i | .sendInput i | .halfClose i | .hangUp i => some i
  | _ => none

/-! ## 5. What is in the way -/

def HandlerPhase.session : HandlerPhase → Option Nat
  | .register s | .attached s | .ptyWrite s | .detach s => some s
  | _ => none

def Receive.terminal : Receive → Option Nat
  | .input s => some s
  | _ => none

def StopPhase.closes (stop : StopPhase) (s : Nat) (sess : Session) : Bool :=
  match stop with
  | .control => sess.registered
  | .sessions left => left.contains s
  | _ => false

/-- Nothing outside is in `Stop`'s way: the signal handler has not taken an
interrupt; every client has closed its connection; the processes take what
a handler writes to their terminals, and what the receive loop writes if
`Stop` does not close the terminal; and the agents take their input. -/
structure Unhindered (d : State) : Prop where
  signal : d.signal ≠ .stopping
  clients : ∀ h ∈ d.handlers, h.conn = .closed
  terminals : ∀ h ∈ d.handlers, ∀ s ∈ h.phase.session, ∀ sess ∈ d.sessions[s]?,
    sess.writable = true
  input : ∀ s ∈ d.receive.terminal, ∀ sess ∈ d.sessions[s]?,
    sess.writable = true ∨ sess.once ≠ .fresh ∨ d.stop.closes s sess = true
  agents : ∀ b ∈ d.bridges, b.writable = true

end Daao.Daemon.Shutdown

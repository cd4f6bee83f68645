/-
Daao.Daemon.Reconnects — the loop that keeps the daemon connected
(`runGrpcLoop` and `connectToNexus` in `cmd/daao/daemon.go`).

An attempt that succeeds starts a goroutine, which runs the receive loop
and after it its deferred calls: first `connCancel`, then `close(done)`.
The loop waits for `done`, so what came before it is over when the loop
goes on. An attempt that fails starts nothing, and its `done` is dropped.

The durations are nanoseconds. A delay never exceeds twice the maximum, so
`int64` arithmetic is that of `Nat` here.
-/
import Daao.Lib.Progress
import Mathlib.Tactic.Ring

namespace Daao.Daemon.Reconnects

open Daao.Lib List Option

def reconnectBaseDelay : Nat := 1000000000

def reconnectMaxDelay : Nat := 30 * 1000000000

inductive Stage where
  | receiving
  | received
  | cancelled
  | finished
  deriving DecidableEq

/-- The goroutine of a connection, its context and its `done`. -/
structure Conn where
  stage : Stage
  contextCancelled : Bool
  doneCloses : Nat

def Conn.new : Conn := { stage := .receiving, contextCancelled := false, doneCloses := 0 }

def Conn.proceed (c : Conn) : Conn :=
  match c.stage with
  | .receiving => { c with stage := .received }
  | .received => { c with stage := .cancelled, contextCancelled := true }
  | .cancelled => { c with stage := .finished, doneCloses := c.doneCloses + 1 }
  | .finished => c

inductive Loop where
  | head
  | attempting
  /-- `connectToNexus` has returned nil -/
  | connected
  /-- in the `select` -/
  | waiting
  | pausing (failed : Bool)
  | returned

structure State where
  loop : Loop
  delay : Nat
  /-- `d.ctx` is done -/
  shutDown : Bool
  /-- the connections there were, the newest first -/
  conns : List Conn
  /-- the failed attempts since a connection was made, or since the start -/
  failures : Nat
  /-- the pauses there were, each with the failures at that time -/
  pauses : List (Nat × Nat)

def start : State :=
  { loop := .head, delay := reconnectBaseDelay, shutDown := false, conns := [], failures := 0
    pauses := [] }

inductive Act where
  /-- the loop goes on; `ok` is the outcome of an attempt -/
  | proceed (ok : Bool)
  /-- the `select` takes `<-d.ctx.Done()` -/
  | leave
  | goroutine (i : Nat)
  | shutDown

def backoff (delay : Nat) : Nat :=
  if delay * 2 > reconnectMaxDelay then reconnectMaxDelay else delay * 2

def proceed (s : State) (ok : Bool) : Option State :=
  match s.loop with
  | .head => some { s with loop := if s.shutDown then .returned else .attempting }
  | .attempting => some (if ok then
      { s with loop := .connected, conns := .new :: s.conns, failures := 0 }
    else { s with loop := .pausing true, failures := s.failures + 1 })
  | .connected => some { s with loop := .waiting, delay := reconnectBaseDelay }
  | .waiting =>
    match s.conns with
    | c :: _ => if 0 < c.doneCloses then some { s with loop := .pausing false } else none
    | [] => none
  | .pausing failed => some { s with
      loop := .head, pauses := (s.failures, s.delay) :: s.pauses
      delay := if failed then backoff s.delay else s.delay }
  | .returned => none

def step (s : State) : Act → Option State
  | .proceed ok => proceed s ok
  | .leave =>
    match s.loop with
    | .waiting => if s.shutDown then some { s with loop := .returned } else none
    | _ => none
  | .goroutine i => some { s with conns := s.conns.modify i Conn.proceed }
  | .shutDown => some { s with shutDown := true }

def Conn.Ok (c : Conn) : Prop :=
  match c.stage with
  | .receiving => c.doneCloses = 0
  | .received => c.doneCloses = 0
  | .cancelled => c.contextCancelled = true ∧ c.doneCloses = 0
  | .finished => c.contextCancelled = true ∧ c.doneCloses = 1

def delayAfter (failures : Nat) : Nat :=
  min reconnectMaxDelay (reconnectBaseDelay * 2 ^ (failures - 1))

/-- What the loop may count on where it is. -/
def Loop.Knows (s : State) : Loop → Prop
  | .head | .attempting => (∀ c ∈ s.conns, c.stage = .finished) ∧
      s.delay = delayAfter (s.failures + 1)
  | .connected => s.failures = 0
  | .waiting => s.failures = 0 ∧ s.delay = reconnectBaseDelay
  | .pausing failed => (∀ c ∈ s.conns, c.stage = .finished) ∧ s.delay = delayAfter s.failures ∧
      (if failed then 0 < s.failures else s.failures = 0)
  | .returned => True

structure Inv (s : State) : Prop where
  conns : ∀ c ∈ s.conns, c.Ok
  earlier : ∀ c ∈ s.conns.tail, c.stage = .finished
  loop : s.loop.Knows s
  pauses : ∀ p ∈ s.pauses, p.2 = delayAfter p.1

theorem Conn.Ok.proceed {c : Conn} (h : c.Ok) : c.proceed.Ok := by
  grind [Conn.Ok, Conn.proceed]

theorem backoff_delayAfter {n : Nat} (h : 0 < n) : backoff (delayAfter n) = delayAfter (n + 1) := by
  obtain ⟨m, rfl⟩ := Nat.exists_eq_add_one.mpr h
  simp only [backoff, delayAfter, Nat.add_sub_cancel, Nat.pow_succ]
  grind

theorem inv_start : Inv start where
  conns := nofun
  earlier := nofun
  loop := ⟨nofun, by decide⟩
  pauses := nofun

variable {s s' : State} {a : Act}

theorem inv_proceed (h : Inv s) {ok : Bool} (hs : proceed s ok = some s') : Inv s' := by
  obtain ⟨hc, he, hl, hp⟩ := h
  have hb : delayAfter 0 = reconnectBaseDelay ∧ delayAfter 1 = reconnectBaseDelay := by decide
  unfold proceed at hs
  split at hs
  · cases hs
    constructor <;> grind [Loop.Knows]
  · cases hs
    constructor <;> grind [Loop.Knows, Conn.new, Conn.Ok]
  · cases hs
    constructor <;> grind [Loop.Knows]
  · -- `done` of the newest connection is closed, so all goroutines have finished
    split at hs
    · constructor <;> grind [Loop.Knows, Conn.Ok]
    · cases hs
  · rename_i f hpa
    cases hs
    have hba := backoff_delayAfter (n := s.failures)
    constructor <;> grind [Loop.Knows]
  · cases hs

theorem inv_step (h : Inv s) (hs : step s a = some s') : Inv s' := by
  cases a with
  | proceed ok => exact inv_proceed h hs
  | leave =>
    simp only [step] at hs
    split at hs
    · obtain ⟨-, ⟨⟩⟩ := ite_none_right_eq_some.mp hs
      exact { h with loop := trivial }
    · cases hs
  | goroutine i =>
    cases hs
    have hf (c : Conn) (hc : c.stage = .finished) : c.proceed.stage = .finished := by
      grind [Conn.proceed]
    obtain ⟨hco, he, hlo, hp⟩ := h
    refine ⟨forall_mem_modify hco fun _ => Conn.Ok.proceed, ?_, ?_, hp⟩
    · rcases hli : s.conns with _ | ⟨c, r⟩
      · simp
      rw [hli, tail_cons] at he
      cases i with
      | zero => exact he
      | succ i => exact forall_mem_modify he hf
    have ha (h : ∀ c ∈ s.conns, c.stage = .finished) := forall_mem_modify (i := i) h hf
    cases hl : s.loop <;> grind [Loop.Knows]
  | shutDown => exact some.inj hs ▸ { h with }

/-- **The connection loop.** In every state of every run at most one receive
loop is running, no `done` has been closed twice, while an attempt is made
the contexts of all connections before it are cancelled, and the pause
after the `k`-th failed attempt in a row was the base delay times
`2^(k-1)`, up to the maximum. After a connection that was lost it was the
base delay. -/
theorem connection_loop {acts : List Act} (hrun : run step start acts = some s) :
    s.conns.countP (·.stage = .receiving) ≤ 1 ∧ (∀ c ∈ s.conns, c.doneCloses ≤ 1) ∧
      (s.loop = .attempting → ∀ c ∈ s.conns, c.contextCancelled = true) ∧
      ∀ p ∈ s.pauses, p.2 = min reconnectMaxDelay (reconnectBaseDelay * 2 ^ (p.1 - 1)) := by
  obtain ⟨hco, he, hl, hp⟩ := run_invariant (fun _ _ _ => inv_step) inv_start hrun
  refine ⟨?_, fun c hc => ?_, fun ha c hc => ?_, hp⟩
  · cases hli : s.conns with
    | nil => simp
    | cons c rest =>
      have hr : rest.countP (·.stage = .receiving) = 0 := by grind [countP_eq_zero]
      grind
  · grind [Conn.Ok, hco c hc]
  · grind [Conn.Ok, hco c hc, Loop.Knows]

/-- Two failures, a connection that is lost, and another attempt. -/
def lostConnection : List Act :=
  [.proceed true, .proceed false, .proceed true, .proceed true, .proceed false, .proceed true,
    .proceed true, .proceed true, .goroutine 0, .goroutine 0, .proceed true, .goroutine 0,
    .proceed true, .proceed true, .proceed true]

theorem connection_loop_lost : ∃ s, run step start lostConnection = some s ∧ s.loop = .attempting ∧
    s.pauses = [(0, 1000000000), (2, 2000000000), (1, 1000000000)] ∧
      s.conns.countP (·.stage = .receiving) ≤ 1 ∧ (∀ c ∈ s.conns, c.doneCloses ≤ 1) ∧
      (s.loop = .attempting → ∀ c ∈ s.conns, c.contextCancelled = true) ∧
      ∀ p ∈ s.pauses, p.2 = min reconnectMaxDelay (reconnectBaseDelay * 2 ^ (p.1 - 1)) :=
  ⟨_, rfl, rfl, rfl, @connection_loop _ lostConnection rfl⟩

end Daao.Daemon.Reconnects

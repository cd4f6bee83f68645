/-
Daao.Lib.Uplink — a bounded channel that one writer drains into a
connection, where connections break and are made anew.

Senders put messages into the channel, and a message that finds it full is
dropped. The writer of the current connection moves messages from the
channel to the connection's wire. Once the connection has broken the
writer loses what it takes, until it notices and stops. The channel
outlives the connections. Connections are numbered, and the receiver may
still find messages on the wire of an old one. `line` is what will arrive
on the current connection, in order.
-/
import Mathlib.Logic.Function.Basic
import Mathlib.Data.List.Basic

namespace Daao.Lib

open List

structure Uplink (M : Type) where
  queue : List M
  /-- a message was dropped because the channel was full -/
  dropped : Bool
  /-- the number of the last connection -/
  conn : Nat
  alive : Bool
  writer : Bool
  wire : Nat → List M

namespace Uplink

variable {M : Type}

/-! ## 1. Operations -/

def start : Uplink M :=
  { queue := [], dropped := false, conn := 0, alive := false, writer := false, wire := fun _ => [] }

def send (capacity : Nat) (u : Uplink M) (m : M) : Uplink M :=
  if u.queue.length < capacity then { u with queue := u.queue ++ [m] }
  else { u with dropped := true }

variable (u : Uplink M)

def setWire (c : Nat) (messages : List M) : Uplink M :=
  { u with wire := Function.update u.wire c messages }

def connect : Uplink M :=
  { u with conn := u.conn + 1, alive := true, writer := true }

def transmit : Option (Uplink M) :=
  match u.queue with
  | [] => none
  | m :: rest =>
    if u.writer then
      if u.alive then some ({ u with queue := rest }.setWire u.conn (u.wire u.conn ++ [m]))
      else some { u with queue := rest }
    else none

def lose : Uplink M := { u with alive := false }

def stopWriter : Option (Uplink M) :=
  if u.alive then none else some { u with writer := false }

def receive (c : Nat) : Option (M × Uplink M) :=
  match u.wire c with
  | [] => none
  | m :: rest => some (m, u.setWire c rest)

def discard (c : Nat) : Option (Uplink M) :=
  if c = u.conn ∧ u.alive = true then none else some (u.setWire c [])

def restart : Uplink M := { u with wire := fun _ => [], alive := false }

def reset : Uplink M := { u with queue := [], alive := false, writer := false }

/-! ## 2. What is under way -/

def line : List M := u.wire u.conn ++ u.queue

def Carries (m : M) : Prop := m ∈ u.queue ∨ ∃ c, m ∈ u.wire c

/-- Connections that were not made yet have nothing on their wires. -/
def Bounded : Prop := ∀ c, u.conn < c → u.wire c = []

theorem bounded_start : Bounded (start : Uplink M) := fun _ _ => rfl

theorem not_carries_start (m : M) : ¬ Carries start m := by
  intro h
  rcases h with h | ⟨_, h⟩ <;> cases h

/-! ## 3. Sending and connecting -/

section

variable (capacity : Nat) (u : Uplink M) (m : M)

@[simp] theorem send_conn : (u.send capacity m).conn = u.conn := by
  unfold send
  split <;> rfl

@[simp] theorem send_alive : (u.send capacity m).alive = u.alive := by
  unfold send
  split <;> rfl

@[simp] theorem send_wire : (u.send capacity m).wire = u.wire := by
  unfold send
  split <;> rfl

theorem bounded_send {u : Uplink M} (h : Bounded u) : Bounded (u.send capacity m) := by
  simpa [Bounded] using h

theorem line_send (h : (u.send capacity m).dropped = false) :
    u.dropped = false ∧ (u.send capacity m).line = u.line ++ [m] := by
  unfold send at h ⊢
  split
  · rename_i hr
    rw [if_pos hr] at h
    exact ⟨h, (append_assoc ..).symm⟩
  · grind

theorem line_send_of_lt (h : u.queue.length < capacity) :
    (u.send capacity m).line = u.line ++ [m] := by
  unfold send
  rw [if_pos h]
  exact (append_assoc ..).symm

theorem line_send_or : (u.send capacity m).line = u.line ++ [m] ∨
    (u.send capacity m).line = u.line := by
  by_cases h : u.queue.length < capacity
  · exact .inl (line_send_of_lt capacity u m h)
  · exact .inr (by rw [send, if_neg h]; rfl)

theorem carries_send {x : M} (h : (u.send capacity m).Carries x) : u.Carries x ∨ x = m := by
  unfold send at h
  split at h
  · rcases h with h | h
    · rcases mem_append.mp h with h | h
      · exact .inl (.inl h)
      · exact .inr (mem_singleton.mp h)
    · exact .inl (.inr h)
  · exact .inl h

end

theorem line_connect {u : Uplink M} (h : Bounded u) (hw : u.wire u.conn = []) :
    u.connect.line = u.line := by
  have hn : u.wire (u.conn + 1) = [] := h (u.conn + 1) (Nat.lt_succ_self _)
  simp [line, connect, hw, hn]

theorem bounded_connect {u : Uplink M} (h : Bounded u) : Bounded u.connect :=
  fun c hc => h c (Nat.lt_of_succ_lt hc)

/-! ## 4. Moving and losing -/

/-- An operation that adds no message, and loses none of a connection that
has not broken. -/
structure Moves (u u' : Uplink M) : Prop where
  conn : u'.conn = u.conn
  alive : u'.alive = true → u.alive = true
  dropped : u'.dropped = u.dropped
  line : u'.alive = true → u'.line = u.line
  others : ∀ c, c ≠ u.conn → u'.wire c = u.wire c ∨ u'.wire c = []
  carries : ∀ m, u'.Carries m → u.Carries m

section

variable {u u' : Uplink M}

theorem Moves.bounded (h : Moves u u') (hb : Bounded u) : Bounded u' := by
  intro c hc
  rw [h.conn] at hc
  rcases h.others c (Nat.ne_of_gt hc) with hw | hw
  · rw [hw]
    exact hb c hc
  · exact hw

theorem moves_transmit (h : u.transmit = some u') : Moves u u' := by
  unfold transmit at h
  split at h
  · cases h
  rename_i m r hq
  split at h
  · split at h
    · cases h
      refine ⟨rfl, id, rfl, fun _ => ?_, fun c hc => .inl ?_, fun x hx => ?_⟩
      · simp [line, setWire, hq]
      · simp [setWire, hc]
      rcases hx with hx | ⟨c, hx⟩
      · exact .inl (hq ▸ mem_cons_of_mem m hx)
      by_cases hc : c = u.conn
      · -- the wire of the current connection has one message more
        simp only [setWire, hc, Function.update_self, mem_append, mem_singleton] at hx
        rcases hx with hx | hx
        · exact .inr ⟨_, hx⟩
        · exact .inl (hq ▸ hx ▸ mem_cons_self)
      · exact .inr ⟨c, by simpa [setWire, hc] using hx⟩
    · rename_i hd
      cases h
      refine ⟨rfl, id, rfl, fun ha => absurd ha hd, fun c _ => .inl rfl, fun x hx => ?_⟩
      rcases hx with hx | hx
      · exact .inl (hq ▸ mem_cons_of_mem m hx)
      · exact .inr hx
  · cases h

theorem line_transmit (h : u.transmit = some u') (ha : u.alive = true) : u'.line = u.line := by
  refine (moves_transmit h).line ?_
  unfold transmit at h
  split at h
  · cases h
  split at h
  · cases h
    exact ha
  · cases h

theorem moves_lose : Moves u u.lose :=
  ⟨rfl, fun ha => (by cases ha), rfl, fun ha => (by cases ha), fun _ _ => .inl rfl, fun _ hx => hx⟩

theorem moves_stopWriter (h : u.stopWriter = some u') : Moves u u' := by
  unfold stopWriter at h
  split at h
  · cases h
  cases h
  exact ⟨rfl, id, rfl, fun _ => rfl, fun _ _ => .inl rfl, fun _ hx => hx⟩

theorem carries_setWire {c : Nat} {e : List M} (hs : ∀ m ∈ e, m ∈ u.wire c) {m : M}
    (h : (u.setWire c e).Carries m) : u.Carries m := by
  rcases h with h | ⟨c', h⟩
  · exact .inl h
  by_cases hc : c' = c
  · subst hc
    exact .inr ⟨c', hs m (by simpa [setWire] using h)⟩
  · exact .inr ⟨c', by simpa [setWire, hc] using h⟩

theorem moves_discard {c : Nat} (h : u.discard c = some u') : Moves u u' := by
  unfold discard at h
  split at h
  · cases h
  rename_i hn
  cases h
  refine ⟨rfl, id, rfl, fun ha => ?_, fun c' _ => ?_, fun x hx => carries_setWire (by simp) hx⟩
  · have hne : u.conn ≠ c := fun hc => hn ⟨hc.symm, ha⟩
    simp [line, setWire, hne]
  by_cases hc : c' = c
  · exact .inr (by simp [setWire, hc])
  · exact .inl (by simp [setWire, hc])

theorem line_discard {c : Nat} (h : u.discard c = some u') (hw : u.wire c = []) :
    u'.line = u.line := by
  unfold discard at h
  split at h
  · cases h
  cases h
  simp [line, setWire, ← hw]

theorem bounded_reset (h : Bounded u) : Bounded u.reset := h

theorem moves_restart : Moves u u.restart := by
  refine ⟨rfl, fun ha => (by cases ha), rfl, fun ha => (by cases ha), fun _ _ => .inr rfl,
    fun x hx => ?_⟩
  rcases hx with hx | ⟨_, hx⟩
  · exact .inl hx
  · cases hx

end

/-! ## 5. Receiving -/

structure Receives (c : Nat) (m : M) (u u' : Uplink M) : Prop where
  conn : u'.conn = u.conn
  alive : u'.alive = u.alive
  dropped : u'.dropped = u.dropped
  wire : u.wire c = m :: u'.wire c
  others : ∀ c', c' ≠ c → u'.wire c' = u.wire c'
  queue : u'.queue = u.queue
  carries : ∀ x, u'.Carries x → u.Carries x

variable {u u' : Uplink M} {c : Nat} {m : M}

theorem receives_of_receive (h : u.receive c = some (m, u')) : Receives c m u u' := by
  unfold receive at h
  split at h
  · cases h
  rename_i m' r hw
  cases h
  refine ⟨rfl, rfl, rfl, ?_, fun c' hc => ?_, rfl, fun x hx => carries_setWire ?_ hx⟩
  · simp [setWire, hw]
  · simp [setWire, hc]
  · grind

theorem Receives.carries_self (h : Receives c m u u') : u.Carries m :=
  .inr ⟨c, h.wire ▸ mem_cons_self⟩

theorem Receives.line_current (h : Receives u.conn m u u') : u.line = m :: u'.line := by
  simp only [line, h.wire, h.conn, h.queue, cons_append]

theorem Receives.line_other (h : Receives c m u u') (hc : c ≠ u.conn) : u'.line = u.line := by
  simp only [line, h.conn, h.queue, h.others u.conn (Ne.symm hc)]

theorem Receives.bounded (h : Receives c m u u') (hb : Bounded u) : Bounded u' := by
  intro c' hc
  rw [h.conn] at hc
  by_cases heq : c' = c
  · have hw := h.wire
    rw [← heq, hb c' hc] at hw
    cases hw
  rw [h.others c' heq]
  exact hb c' hc

end Uplink

end Daao.Lib

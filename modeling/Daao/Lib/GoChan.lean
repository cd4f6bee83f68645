/-
Daao.Lib.GoChan — Go's buffered channels, with the two panics that a
channel can raise.

A channel is the values buffered in it, oldest first, and whether it has
been closed. A send on a closed channel and a close of a closed channel
panic (`ChanFault`); a receive from a closed channel still yields what was
buffered. `trySend` is a send in a `select` with a `default` branch: it
never waits, and what finds no room is dropped.

`forEach` applies an operation to the channels of a list, one after the
other, and stops at the first panic. `forEach_ok` is its rule: over a list
without repetitions, on which the operation never panics, it is the
pointwise update.
-/
import Mathlib.Logic.Function.Basic
import Mathlib.Data.List.Nodup

namespace Daao.Lib

inductive ChanFault where
  | sendOnClosed
  | closeOfClosed

structure Chan (α : Type) where
  buf : List α
  closed : Bool

namespace Chan

variable {α : Type}

/-- `make(chan T, size)`; the size is an argument of the sends. -/
def make : Chan α := { buf := [], closed := false }

/-- `select { case ch <- x: default: }`. -/
def trySend (size : Nat) (c : Chan α) (x : α) : Except ChanFault (Chan α) :=
  if c.closed then .error .sendOnClosed
  else if c.buf.length < size then .ok { c with buf := c.buf ++ [x] }
  else .ok c

def close (c : Chan α) : Except ChanFault (Chan α) :=
  if c.closed then .error .closeOfClosed else .ok { c with closed := true }

/-- A receive: a value, or `none` from a closed channel that is empty. From
an open empty channel it waits. -/
def receive (c : Chan α) : Option (Option α × Chan α) :=
  match c.buf with
  | x :: rest => some (some x, { c with buf := rest })
  | [] => if c.closed then some (none, c) else none

/-- What `trySend` leaves in an open channel. -/
def offer (size : Nat) (c : Chan α) (x : α) : Chan α :=
  if c.buf.length < size then { c with buf := c.buf ++ [x] } else c

@[simp] theorem make_buf : (make : Chan α).buf = [] := rfl

@[simp] theorem make_closed : (make : Chan α).closed = false := rfl

theorem trySend_of_open {c : Chan α} (h : c.closed = false) (s : Nat) (x : α) :
    c.trySend s x = .ok (c.offer s x) := by
  unfold trySend offer
  by_cases hr : c.buf.length < s <;> simp [h, hr]

theorem close_of_open {c : Chan α} (h : c.closed = false) :
    c.close = .ok { c with closed := true } := by
  simp [close, h]

@[simp] theorem offer_closed (s : Nat) (c : Chan α) (x : α) :
    (c.offer s x).closed = c.closed := by
  unfold offer
  split <;> rfl

theorem offer_buf (s : Nat) (c : Chan α) (x : α) :
    (c.offer s x).buf = if c.buf.length < s then c.buf ++ [x] else c.buf := by
  unfold offer
  split <;> rfl

end Chan

/-! ## The channels of a set -/

variable {κ α : Type} [DecidableEq κ]

def forEach (f : κ → Chan α → Except ChanFault (Chan α)) :
    List κ → (κ → Chan α) → Except ChanFault (κ → Chan α)
  | [], m => .ok m
  | k :: ks, m =>
    match f k (m k) with
    | .error e => .error e
    | .ok c => forEach f ks (Function.update m k c)

theorem forEach_ok {f : κ → Chan α → Except ChanFault (Chan α)} {g : κ → Chan α → Chan α} :
    ∀ {ks : List κ} {m : κ → Chan α}, ks.Nodup → (∀ k ∈ ks, f k (m k) = .ok (g k (m k))) →
      forEach f ks m = .ok fun k => if k ∈ ks then g k (m k) else m k
  | [], m, _, _ => by simp [forEach]
  | k :: ks, m, hnd, hf => by
      obtain ⟨hk, hnd⟩ := List.nodup_cons.mp hnd
      have hr : ∀ j ∈ ks, Function.update m k (g k (m k)) j = m j := by grind
      have ih := forEach_ok (f := f) (g := g) (m := Function.update m k (g k (m k))) hnd
        fun j hj => by rw [hr j hj]; exact hf j (List.mem_cons_of_mem k hj)
      rw [forEach, hf k List.mem_cons_self]
      simp only [ih]
      congr 1
      funext j
      by_cases hjk : j = k
      · subst hjk
        simp [hk]
      · simp [hjk]

end Daao.Lib

/-
Daao.Lib.Ring — a fixed-capacity ring of cells, over any element type.

`CellRing α` is the part of a ring buffer that no operation may break: there
is at least one cell, the write position is a cell, at most all cells are
in use, and as long as the ring has not filled up it has not wrapped
either (`linear`). The operations are described by what they do to `view`,
which is what the ring holds, oldest element first.
-/
import Mathlib.Data.List.Rotate

namespace Daao.Lib

open List

/-- A ring of `cells.length` cells with a write position. -/
structure CellRing (α : Type) where
  cells : List α
  head : Nat
  len : Nat
  head_lt : head < cells.length
  len_le : len ≤ cells.length
  linear : len < cells.length → head = len

namespace CellRing

variable {α : Type} (r : CellRing α)

def cap : Nat := r.cells.length

theorem cap_pos : 0 < r.cap := Nat.zero_lt_of_lt r.head_lt

theorem head_lt_cap : r.head < r.cap := r.head_lt

theorem len_le_cap : r.len ≤ r.cap := r.len_le

/-- What the ring holds, oldest first. -/
def view : List α :=
  if r.len < r.cap then r.cells.take r.len else r.cells.rotate r.head

@[simp] theorem length_view : r.view.length = r.len := by
  unfold view cap
  have := r.len_le
  split
  · simp; omega
  · simp; omega

def empty (cells : List α) (h : 0 < cells.length) : CellRing α where
  cells := cells
  head := 0
  len := 0
  head_lt := h
  len_le := Nat.zero_le _
  linear := fun _ => rfl

@[simp] theorem view_empty (c : List α) (h : 0 < c.length) : (empty c h).view = [] := by
  simp [view, empty, cap, h]

/-- The ring that holds `content`, from cell 0 on. -/
def load (content rest : List α) (h : 0 < (content ++ rest).length) : CellRing α where
  cells := content ++ rest
  head := content.length % (content ++ rest).length
  len := content.length
  head_lt := Nat.mod_lt _ h
  len_le := by simp
  linear := Nat.mod_eq_of_lt

theorem view_load (content rest : List α) (h : 0 < (content ++ rest).length) :
    (load content rest h).view = content := by
  cases rest with
  | nil => simp [view, load, cap]
  | cons x rest => simp [view, load, cap]

theorem view_of_full {r : CellRing α} (h : r.len = r.cap) : r.view = r.cells.rotate r.head := by
  rw [view, if_neg (by omega)]

theorem take_succ_set (l : List α) {i : Nat} (hi : i < l.length) (x : α) :
    (l.set i x).take (i + 1) = l.take i ++ [x] := by
  rw [take_succ_eq_append_getElem (by simpa using hi), take_set_of_le (Nat.le_refl i)]
  simp

def push (x : α) (h : r.len < r.cap) : CellRing α where
  cells := r.cells.set r.head x
  head := (r.head + 1) % r.cap
  len := r.len + 1
  head_lt := by
    rw [List.length_set]
    exact Nat.mod_lt _ r.cap_pos
  len_le := by
    rw [List.length_set]
    exact h
  linear := by
    intro hlt
    rw [List.length_set] at hlt
    have hh := r.linear h
    rw [Nat.mod_eq_of_lt (by unfold cap; omega), hh]

theorem view_push (x : α) (h : r.len < r.cap) : (r.push x h).view = r.view ++ [x] := by
  have hh := r.linear h
  have hs := take_succ_set r.cells r.head_lt x
  have hold : r.view = r.cells.take r.head := by rw [view, if_pos h, hh]
  rw [hold, ← hs]
  by_cases hr : r.len + 1 < r.cap
  · rw [view, if_pos (by simpa [push, cap] using hr)]
    simp [push, hh]
  -- the last free cell was filled: the write position is back at cell 0
  have hc : r.head + 1 = r.cap := by omega
  rw [view, if_neg (by simpa [push, cap] using hr)]
  simp only [push, hc, Nat.mod_self, rotate_zero]
  rw [take_of_length_le (by simp [cap])]

def overwrite (x : α) (h : r.len = r.cap) : CellRing α where
  cells := r.cells.set r.head x
  head := (r.head + 1) % r.cap
  len := r.len
  head_lt := by
    rw [List.length_set]
    exact Nat.mod_lt _ r.cap_pos
  len_le := by
    rw [List.length_set]
    exact r.len_le
  linear := by
    intro hlt
    rw [List.length_set] at hlt
    unfold cap at h
    omega

theorem overwrite_full (x : α) (h : r.len = r.cap) :
    (r.overwrite x h).len = (r.overwrite x h).cap := by
  simpa [overwrite, cap] using h

theorem view_overwrite (x : α) (h : r.len = r.cap) :
    (r.overwrite x h).view = r.view.tail ++ [x] := by
  have hlt := r.head_lt
  have hs := take_succ_set r.cells hlt x
  rw [view_of_full (r.overwrite_full x h), view_of_full h]
  simp only [overwrite]
  have hm : (r.cells.set r.head x).rotate ((r.head + 1) % r.cap)
      = (r.cells.set r.head x).rotate (r.head + 1) := by
    have := rotate_mod (r.cells.set r.head x) (r.head + 1)
    rwa [length_set] at this
  have hd : r.cells.drop r.head = r.cells[r.head] :: r.cells.drop (r.head + 1) :=
    drop_eq_getElem_cons hlt
  rw [hm, rotate_eq_drop_append_take (by rw [length_set]; exact hlt),
    rotate_eq_drop_append_take hlt.le, hs, drop_set_of_lt (Nat.lt_succ_self _),
    hd, cons_append, tail_cons, append_assoc]

def seekBack (k : Nat) (h : r.len = r.cap) : CellRing α where
  cells := r.cells
  head := (r.head + (r.cap - k)) % r.cap
  len := r.len
  head_lt := Nat.mod_lt _ r.cap_pos
  len_le := r.len_le
  linear := by
    intro hlt
    unfold cap at h
    omega

theorem view_seekBack (k : Nat) (h : r.len = r.cap) :
    (r.seekBack k h).view = r.view.rotate (r.cap - k) := by
  grind [view_of_full, seekBack, cap, rotate_rotate, rotate_mod]

end CellRing

end Daao.Lib

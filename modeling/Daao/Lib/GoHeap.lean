/-
Daao.Lib.GoHeap — Go slices over shared backing arrays.

`Daao.Lib.GoSlice` treats a slice as the list of its elements, which is
right as long as nobody else holds a slice of the same array. Here arrays
live in a `Heap` and a `Slice` is a view of one of them: `append` writes
in place when the array has a cell left, and moves to a new array when it
has not. Two slices of one array see each other's writes.

`window h t i` is what a reader of `t` will still see when it has read
`i` elements. `window_append` is the frame rule: an append by somebody
else changes it only when it `overwrites` one of these cells.
-/
import Mathlib.Data.List.Basic

namespace Daao.Lib

open List

/-- Backing arrays by address. Arrays are never freed. -/
abbrev Heap (α : Type) := List (List α)

/-- A slice that starts at the first cell of its array. -/
structure Slice where
  arr : Nat
  len : Nat
  deriving DecidableEq

/-- `s[:0]`. -/
def Slice.reset (s : Slice) : Slice := { s with len := 0 }

namespace Heap

variable {α : Type}

def array (h : Heap α) (a : Nat) : List α := (h[a]?).getD []

def cap (h : Heap α) (s : Slice) : Nat := (h.array s.arr).length

def contents (h : Heap α) (s : Slice) : List α := (h.array s.arr).take s.len

def window (h : Heap α) (s : Slice) (i : Nat) : List α := (h.contents s).drop i

/-- `s[i]`; `none` is a panic. -/
def get? (h : Heap α) (s : Slice) (i : Nat) : Option α :=
  if i < s.len then (h.array s.arr)[i]? else none

/-- A nil slice: a slice of an array without cells. -/
def nil (h : Heap α) : Heap α × Slice := (h ++ [[]], { arr := h.length, len := 0 })

/-- `append(s, x)`. A full array is copied to a new one, with spare cells
that hold `zero`; `grow` is the runtime's choice of the new capacity. -/
def append (grow : Nat → Nat) (zero : α) (h : Heap α) (s : Slice) (x : α) : Heap α × Slice :=
  if s.len < h.cap s then
    (h.set s.arr ((h.array s.arr).set s.len x), { s with len := s.len + 1 })
  else
    (h ++ [h.contents s ++ x :: List.replicate (grow s.len - (s.len + 1)) zero],
      { arr := h.length, len := s.len + 1 })

structure Valid (h : Heap α) (s : Slice) : Prop where
  arr_lt : s.arr < h.length
  len_le : s.len ≤ h.cap s

/-- Appending to `s` writes a cell that a reader of `t` has not read. -/
def overwrites (h : Heap α) (s t : Slice) (i : Nat) : Prop :=
  s.len < h.cap s ∧ t.arr = s.arr ∧ i ≤ s.len ∧ s.len < t.len

instance (h : Heap α) (s t : Slice) (i : Nat) : Decidable (h.overwrites s t i) :=
  inferInstanceAs (Decidable (_ ∧ _))

variable {h : Heap α} {s t : Slice}

theorem valid_reset (hs : h.Valid s) : h.Valid s.reset := ⟨hs.arr_lt, Nat.zero_le _⟩

@[simp] theorem contents_reset (h : Heap α) (s : Slice) : h.contents s.reset = [] := rfl

theorem length_contents (hs : h.Valid s) : (h.contents s).length = s.len := by
  have := hs.len_le
  simp only [contents, length_take]
  simp only [cap] at this
  omega

theorem window_zero (h : Heap α) (s : Slice) : h.window s 0 = h.contents s := rfl

variable {i : Nat}

theorem window_eq_cons {x : α} (hx : h.get? s i = some x) :
    h.window s i = x :: h.window s (i + 1) := by
  unfold get? at hx
  split at hx
  · rename_i hi
    have ht : (h.contents s)[i]? = some x := by
      rw [contents, getElem?_take_of_lt hi, hx]
    obtain ⟨hlt, heq⟩ := List.getElem?_eq_some_iff.mp ht
    rw [window, drop_eq_getElem_cons hlt, heq]
    rfl
  · cases hx

theorem window_of_le (hi : s.len ≤ i) : h.window s i = [] := by
  rw [window, drop_eq_nil_of_le]
  simp only [contents, length_take]
  omega

/-! ## Nil slices -/

theorem array_snoc_of_lt {a : Nat} (ha : a < h.length) (l : List α) :
    array (h ++ [l]) a = h.array a := by
  simp [array, getElem?_append_left ha]

theorem array_snoc_self (h : Heap α) (l : List α) : array (h ++ [l]) h.length = l := by
  simp [array]

theorem valid_nil (h : Heap α) : Valid h.nil.1 h.nil.2 := ⟨by simp [nil], Nat.zero_le _⟩

theorem contents_nil (h : Heap α) : contents h.nil.1 h.nil.2 = [] := rfl

theorem window_snoc (ht : t.arr < h.length) (l : List α) (i : Nat) :
    window (h ++ [l]) t i = h.window t i := by
  simp only [window, contents, array_snoc_of_lt ht]

theorem valid_snoc (ht : h.Valid t) (l : List α) : Valid (h ++ [l]) t := by
  refine ⟨?_, ?_⟩
  · have := ht.arr_lt
    rw [length_append]
    omega
  rw [cap, array_snoc_of_lt ht.arr_lt]
  exact ht.len_le

/-! ## Append -/

variable {grow : Nat → Nat} {zero : α}

theorem array_set {a : Nat} (ha : a < h.length) (b : Nat) (l : List α) :
    array (h.set a l) b = if b = a then l else h.array b := by
  unfold array
  by_cases hab : b = a
  · subst hab
    simp [ha]
  · simp [hab, getElem?_set_ne (Ne.symm hab)]

theorem append_of_lt (hr : s.len < h.cap s) (x : α) :
    append grow zero h s x
      = (h.set s.arr ((h.array s.arr).set s.len x), { s with len := s.len + 1 }) := if_pos hr

theorem append_of_not_lt (hr : ¬ s.len < h.cap s) (x : α) :
    append grow zero h s x
      = (h ++ [h.contents s ++ x :: List.replicate (grow s.len - (s.len + 1)) zero],
          { arr := h.length, len := s.len + 1 }) := if_neg hr

theorem valid_append (hs : h.Valid s) (x : α) :
    Valid (append grow zero h s x).1 (append grow zero h s x).2 := by
  by_cases hr : s.len < h.cap s
  · rw [append_of_lt hr]
    refine ⟨by simpa using hs.arr_lt, ?_⟩
    rw [cap, array_set hs.arr_lt, if_pos rfl, length_set]
    exact hr
  rw [append_of_not_lt hr]
  refine ⟨by simp, ?_⟩
  rw [cap, array_snoc_self, length_append, length_contents hs, length_cons]
  exact Nat.add_le_add_left (Nat.le_add_left _ _) _

theorem contents_append (hs : h.Valid s) (x : α) :
    contents (append grow zero h s x).1 (append grow zero h s x).2 = h.contents s ++ [x] := by
  by_cases hr : s.len < h.cap s
  · rw [append_of_lt hr, contents, array_set hs.arr_lt, if_pos rfl,
      take_succ_eq_append_getElem (by simpa [cap] using hr),
      take_set_of_le (Nat.le_refl _)]
    simp [contents]
  have hl := length_contents hs
  rw [append_of_not_lt hr, contents, array_snoc_self]
  show (h.contents s ++ ([x] ++ _)).take (s.len + 1) = _
  rw [← append_assoc, take_append_of_le_length (by simp [hl]), take_of_length_le (by simp [hl])]

theorem valid_append_of_valid (hs : h.Valid s) (ht : h.Valid t) (x : α) :
    Valid (append grow zero h s x).1 t := by
  by_cases hr : s.len < h.cap s
  · rw [append_of_lt hr]
    refine ⟨by simpa using ht.arr_lt, ?_⟩
    rw [cap, array_set hs.arr_lt]
    split
    · rename_i ha
      rw [length_set, ← ha]
      exact ht.len_le
    · exact ht.len_le
  rw [append_of_not_lt hr]
  exact valid_snoc ht _

theorem drop_take_set {l : List α} {k m : Nat} (h : k < i ∨ m ≤ k) (x : α) :
    ((l.set k x).take m).drop i = (l.take m).drop i := by
  rcases h with hlt | hge
  · rw [take_set, drop_set_of_lt hlt]
  · rw [take_set_of_le hge]

/-- **Frame rule.** An append that does not overwrite what a reader has yet
to read leaves it as it is. -/
theorem window_append (hs : h.Valid s) (ht : t.arr < h.length) (hno : ¬ h.overwrites s t i)
    (x : α) : window (append grow zero h s x).1 t i = h.window t i := by
  by_cases hr : s.len < h.cap s
  · rw [append_of_lt hr]
    simp only [window, contents, array_set hs.arr_lt]
    split
    · rename_i ha
      rw [ha, drop_take_set]
      by_contra hin
      exact hno ⟨hr, ha, by omega, by omega⟩
    · rfl
  · rw [append_of_not_lt hr, window_snoc ht]

theorem arr_append (h : Heap α) (s : Slice) (x : α) :
    (append grow zero h s x).2.arr = s.arr ∨ (append grow zero h s x).2.arr = h.length := by
  grind [append_of_lt, append_of_not_lt]

end Heap

end Daao.Lib

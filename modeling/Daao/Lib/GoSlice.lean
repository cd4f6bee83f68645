/-
Daao.Lib.GoSlice — Go's integer `%`, indexing, slicing and `copy`, with
the run-time panic as `none`.

Indices are `Int`, as Go's are signed: a negative or too large index is
a panic, not a default value. `%` truncates towards zero and panics on a
zero divisor. Each operation carries the lemma that says what it is on
the arguments a correct program passes, so that a proof about a program
meets the panicking case once, here.
-/
import Mathlib.Data.List.Basic
import Mathlib.Tactic.NormNum

namespace Daao.Lib

variable {α : Type}

/-- `a % b`: truncated, and a panic when `b` is zero. -/
def goMod (a b : Int) : Option Int :=
  if b = 0 then none else some (a.tmod b)

variable (xs : List α)

/-- `xs[i]`. -/
def goIndex (i : Int) : Option α :=
  if 0 ≤ i then xs[i.toNat]? else none

/-- `xs[i] = x`. -/
def goSet (i : Int) (x : α) : Option (List α) :=
  if 0 ≤ i ∧ i < xs.length then some (xs.set i.toNat x) else none

/-- `xs[lo:hi]`, for a slice whose capacity is its length. -/
def goSlice (lo hi : Int) : Option (List α) :=
  if 0 ≤ lo ∧ lo ≤ hi ∧ hi ≤ xs.length then
    some ((xs.take hi.toNat).drop lo.toNat)
  else none

/-- `copy(dst, src)`: the shorter of the two lengths is copied. -/
def goCopy (dst src : List α) : List α :=
  src.take dst.length ++ dst.drop src.length

/-- `copy(dst[off:], src)`, seen as the new value of `dst`. -/
def goCopyAt (dst : List α) (off : Int) (src : List α) : Option (List α) :=
  if 0 ≤ off ∧ off ≤ dst.length then
    some (dst.take off.toNat ++ goCopy (dst.drop off.toNat) src)
  else none

def goMake (zero : α) (n : Int) : Option (List α) :=
  if 0 ≤ n then some (List.replicate n.toNat zero) else none

/-! ## On natural-number arguments -/

theorem goMod_natCast (a : Nat) {b : Nat} (hb : 0 < b) :
    goMod (a : Int) (b : Int) = some ((a % b : Nat) : Int) := by
  have hne : (b : Int) ≠ 0 := by omega
  rw [goMod, if_neg hne, Int.tmod_eq_emod_of_nonneg (Int.natCast_nonneg a), Int.natCast_emod]

theorem goMod_sub (a d : Nat) {b : Nat} (hb : 0 < b) (hd : d ≤ b) :
    goMod ((a : Int) - (d : Int) + (b : Int)) (b : Int)
      = some (((a + (b - d)) % b : Nat) : Int) := by
  have h : (a : Int) - (d : Int) + (b : Int) = ((a + (b - d) : Nat) : Int) := by omega
  rw [h, goMod_natCast _ hb]

theorem goIndex_natCast (i : Nat) : goIndex xs (i : Int) = xs[i]? := by
  simp [goIndex]

theorem goSet_natCast {i : Nat} (hi : i < xs.length) (x : α) :
    goSet xs (i : Int) x = some (xs.set i x) := by
  simp [goSet, hi]

theorem goSlice_natCast {lo hi : Nat} (hlo : lo ≤ hi) (hhi : hi ≤ xs.length) :
    goSlice xs (lo : Int) (hi : Int) = some ((xs.take hi).drop lo) := by
  simp [goSlice, hlo, hhi]

theorem goCopy_replicate (zero : α) (src : List α) :
    goCopy (List.replicate src.length zero) src = src := by
  simp [goCopy]

theorem goCopyAt_goCopy (zero : α) (a s b : List α) :
    goCopyAt (goCopy (List.replicate (a.length + b.length) zero) (a ++ s)) (a.length : Int) b
      = some (a ++ b) := by
  have hl : (goCopy (List.replicate (a.length + b.length) zero) (a ++ s)).length
      = a.length + b.length := by
    simp [goCopy]
    omega
  have hf : (goCopy (List.replicate (a.length + b.length) zero) (a ++ s)).take a.length
      = a := by
    rw [goCopy, List.take_append_of_le_length (by simp), List.take_take]
    simp
  generalize goCopy (List.replicate (a.length + b.length) zero) (a ++ s) = dst at hl hf
  simp [goCopyAt, goCopy, hf, hl]

end Daao.Lib

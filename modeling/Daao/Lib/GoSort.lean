/-
Daao.Lib.GoSort — `sort.Slice` of Go.

The caller gives the function `less`, and `sort.Slice` asks of it that it be
a strict weak ordering. It then leaves no element behind a greater one;
elements of which none is less than the other may come in any order, so the
algorithm is a parameter, with what the documentation says of it.
-/
import Mathlib.Data.List.Sort

namespace Daao.Lib

open List

variable {α : Type}

/-- A strict weak ordering: elements that are not less than each other are
as one. -/
structure StrictWeak (less : α → α → Bool) : Prop where
  asymm : ∀ a b, less a b = true → less b a = false
  trans : ∀ a b c, less b a = false → less c b = false → less c a = false

/-- An implementation of `sort.Slice`. -/
structure SortSlice (α : Type) where
  sort : (less : α → α → Bool) → List α → List α
  perm : ∀ less l, (sort less l).Perm l
  ordered : ∀ less, StrictWeak less → ∀ l, (sort less l).Pairwise fun a b => less b a = false

/-- A comparison of keys is a strict weak ordering. -/
theorem strictWeak_key {β : Type} [LinearOrder β] (key : α → β) :
    StrictWeak fun a b => decide (key b < key a) where
  asymm a b h := by simpa using (of_decide_eq_true h).le
  trans a b c h h' := by
    rw [decide_eq_false_iff_not, not_lt] at h h' ⊢
    exact h'.trans h

/-- Insertion sort, which Go uses for short slices. -/
def SortSlice.insertion : SortSlice α where
  sort less := insertionSort fun a b => less b a = false
  perm less l := perm_insertionSort _ l
  ordered less h l := by
    have : Std.Total fun a b => less b a = false := ⟨fun a b => by
      cases hab : less a b
      · exact .inr rfl
      · exact .inl (h.asymm a b hab)⟩
    have : IsTrans α fun a b => less b a = false := ⟨h.trans⟩
    exact pairwise_insertionSort _ l

end Daao.Lib

/-
Daao.Lib.Progress — what a system does by its own steps, and must do.

Some of a system's actions are its own; the others are its environment's,
and may never come. `Inevitable` says that its own actions alone lead to a
goal, whichever of them are taken: there is a bound on how many can be
taken, and short of the goal there always is one. `inevitable_of_measure`
is the rule: an invariant that the own actions keep, a measure that each of
them lowers, and an own action in every state short of the goal.

A system of many parties has a list of them, and its measure is a sum over
the list. `sum_set_lt` and `sum_modify_le` say how the sum changes with one
of the parties, `forall_mem_set` and `forall_mem_modify` what stays true of
all.
-/
import Mathlib.Algebra.BigOperators.Group.List.Basic
import Mathlib.Algebra.Ring.Nat
import Daao.Lib.Trace

namespace Daao.Lib

section

variable {σ α : Type}

/-- The goal is reached by the system's own actions, whichever are taken. -/
def Inevitable (step : σ → α → Option σ) (Own : α → Prop) (Goal : σ → Prop) (s : σ) : Prop :=
  ∃ bound, ∀ as s', (∀ a ∈ as, Own a) → run step s as = some s' →
    as.length ≤ bound ∧ (Goal s' ∨ ∃ a s'', Own a ∧ step s' a = some s'')

variable {step : σ → α → Option σ} {Own : α → Prop} {Goal Inv : σ → Prop} {measure : σ → Nat}

theorem length_add_measure_le
    (hst : ∀ s a s', Inv s → Own a → step s a = some s' → Inv s' ∧ measure s' < measure s) :
    ∀ {as : List α} {s s' : σ}, Inv s → (∀ a ∈ as, Own a) → run step s as = some s' →
      Inv s' ∧ as.length + measure s' ≤ measure s
  | [], s, s', hs, _, hru => by
    rw [run_nil, Option.some_inj] at hru
    subst hru
    exact ⟨hs, by simp⟩
  | a :: as, s, s', hs, ho, hru => by
    obtain ⟨s₁, hs₁, hr⟩ := run_cons_eq_some.mp hru
    obtain ⟨hi₁, hlt⟩ := hst s a s₁ hs (ho a List.mem_cons_self) hs₁
    obtain ⟨hi', hle⟩ := length_add_measure_le hst hi₁
      (fun a ha => ho a (List.mem_cons_of_mem _ ha)) hr
    refine ⟨hi', ?_⟩
    rw [List.length_cons]
    omega

theorem inevitable_of_measure
    (hst : ∀ s a s', Inv s → Own a → step s a = some s' → Inv s' ∧ measure s' < measure s)
    (hp : ∀ s, Inv s → Goal s ∨ ∃ a s', Own a ∧ step s a = some s') {s : σ} (hs : Inv s) :
    Inevitable step Own Goal s := by
  refine ⟨measure s, fun as s' ho hr => ?_⟩
  obtain ⟨hi', hle⟩ := length_add_measure_le hst hs ho hr
  exact ⟨by omega, hp s' hi'⟩

end

variable {β : Type} {f : β → Nat} {xs : List β} {i : Nat} {x y : β}

theorem sum_set_lt (h : xs[i]? = some x) (hlt : f y < f x) :
    ((xs.set i y).map f).sum < (xs.map f).sum := by
  induction xs generalizing i with
  | nil => cases h
  | cons x' xs ih =>
    cases i with
    | zero => grind
    | succ i => simpa using ih h

variable {g : β → β} {P : β → Prop}

theorem sum_modify_le (hle : ∀ x, f (g x) ≤ f x) (xs : List β) (i : Nat) :
    ((xs.modify i g).map f).sum ≤ (xs.map f).sum := by
  induction xs generalizing i with
  | nil => simp
  | cons x xs ih => grind

theorem sum_modify (h : ∀ x, f (g x) = f x) (xs : List β) (i : Nat) :
    ((xs.modify i g).map f).sum = (xs.map f).sum := by
  induction xs generalizing i with
  | nil => simp
  | cons x xs ih => cases i <;> simp [h, ih]

theorem get_set (h : xs[i]? = some x) (y : β) (j : Nat) :
    (xs.set i y)[j]? = if i = j then some y else xs[j]? := by
  rw [List.getElem?_set, if_pos (List.getElem?_eq_some_iff.mp h).1]

theorem get_set_cases (hx : xs[i]? = some x) {z : β} {j : Nat} (h : (xs.set i y)[j]? = some z) :
    j = i ∧ z = y ∨ j ≠ i ∧ xs[j]? = some z := by
  grind

theorem forall_mem_set (h : ∀ x ∈ xs, P x) (hy : P y) : ∀ x ∈ xs.set i y, P x := by
  grind

theorem forall_mem_modify (h : ∀ x ∈ xs, P x) (hg : ∀ x, P x → P (g x)) :
    ∀ x ∈ xs.modify i g, P x := by
  intro x hx
  obtain ⟨j, hj⟩ := List.mem_iff_getElem?.mp hx
  rw [List.getElem?_modify] at hj
  obtain ⟨x₀, hx₀, rfl⟩ := Option.map_eq_some_iff.mp hj
  have hold := h x₀ (List.mem_of_getElem? hx₀)
  split
  · exact hg x₀ hold
  · exact hold

end Daao.Lib

/-
Daao.Lib.Replica — a value that is kept in a store and as a copy, where
each side sends its changes to the other one.

The keeper of the copy notices that the copy has changed, reads it and
uploads what it has read. Uploads arrive in order and overwrite the stored
value. An update of the store is pushed, and overwrites the copy. Nothing
compares versions. A clock numbers the edits, and a value carries the
number of the edit that it is of.

`Step` has the moves that go well: nothing is lost on the way, an update is
made while nothing is under way, and what neither side reports (that the
copy is gone, that the store was overwritten without a push) happens while
something is under way that makes up for it. `Sound` is what these moves
keep. So the two sides are the same at rest (`Sound.stored_eq_copy`), and
what is stored is never of an edit before the last update (`Sound.kept`).
-/
import Mathlib.Data.List.Basic
import Mathlib.Logic.Relation

namespace Daao.Lib

open List

structure Replica (C : Type) where
  stored : Option C
  storedAt : Nat
  updatedAt : Nat
  copy : Option C
  copyAt : Nat
  /-- what was read from the copy and has not arrived at the store -/
  uploads : List (C × Nat)
  /-- the updates that have not arrived at the copy -/
  pushes : List (C × Nat)
  /-- the copy has changed since it was read -/
  dirty : Bool
  running : Bool
  clock : Nat

namespace Replica

variable {C : Type}

structure AtRest (r : Replica C) : Prop where
  dirty : r.dirty = false
  uploads : r.uploads = []
  pushes : r.pushes = []

instance [DecidableEq C] (r : Replica C) : Decidable r.AtRest :=
  decidable_of_iff (r.dirty = false ∧ r.uploads = [] ∧ r.pushes = [])
    ⟨fun ⟨hdirty, huploads, hpushes⟩ => ⟨hdirty, huploads, hpushes⟩,
      fun ⟨hdirty, huploads, hpushes⟩ => ⟨hdirty, huploads, hpushes⟩⟩

def latest (r : Replica C) : Option C := (r.uploads.getLast?.map Prod.fst).or r.stored

/-! ## 1. Moves -/

inductive Step (r : Replica C) : Replica C → Prop where
  | idle (t : Nat) (h : r.clock ≤ t) : Step r { r with clock := t }
  /-- the store is changed without a push -/
  | overwrite (c : Option C) (h : ¬ r.AtRest) :
      Step r { r with stored := c, storedAt := r.clock + 1, clock := r.clock + 1 }
  | update (c : C) (h : r.AtRest) :
      Step r
        { r with
          stored := some c, storedAt := r.clock + 1, updatedAt := r.clock + 1
          pushes := [(c, r.clock + 1)], clock := r.clock + 1 }
  | carry (pushes : List (C × Nat)) (h : pushes.Perm r.pushes) : Step r { r with pushes := pushes }
  | pushed (x : C × Nat) (pushes : List (C × Nat)) (h : r.pushes.Perm (x :: pushes))
      (hrunning : r.running = true) :
      Step r { r with pushes := pushes, copy := some x.1, copyAt := x.2, dirty := true }
  | edit (c : C) :
      Step r
        { r with
          copy := some c, copyAt := r.clock + 1, dirty := r.running, clock := r.clock + 1 }
  /-- a keeper that runs notices that the copy is gone -/
  | remove (h : r.running = true ∨ r.stored = none ∧ r.uploads = []) :
      Step r
        { r with copy := none, copyAt := r.clock + 1, dirty := r.running, clock := r.clock + 1 }
  | read (c : C) (dirty : Bool) (h : r.copy = some c) (hdirty : r.dirty = true) :
      Step r { r with uploads := r.uploads ++ [(c, r.copyAt)], dirty := dirty }
  /-- the keeper reads that the copy is gone, or finds nothing to read -/
  | readGone (values : List C) (dirty : Bool) (hdirty : r.dirty = true)
      (h : dirty = true ∨ r.pushes ≠ []) :
      Step r
        { r with uploads := r.uploads ++ values.map fun c => (c, r.copyAt), dirty := dirty }
  | receive (x : C × Nat) (uploads : List (C × Nat)) (h : r.uploads = x :: uploads) :
      Step r { r with uploads := uploads, stored := some x.1, storedAt := x.2 }
  /-- what the keeper has not sent is lost -/
  | stop (uploads : List (C × Nat)) (h : ∀ x ∈ uploads, x ∈ r.uploads)
      (hgone : r.copy = none → r.stored = none ∧ uploads = []) :
      Step r { r with uploads := uploads, dirty := false, running := false }
  /-- the keeper reads the copy when it starts -/
  | start (h : r.running = false) (hpushes : r.pushes = []) :
      Step r
        { r with
          uploads := r.uploads ++ (r.copy.map fun c => (c, r.copyAt)).toList, running := true }

/-! ## 2. What they keep -/

structure Sound (r : Replica C) : Prop where
  clock : r.updatedAt ≤ r.clock
  kept : r.updatedAt ≤ r.storedAt
  uploads : ∀ x ∈ r.uploads, r.updatedAt ≤ x.2
  pushes : ∀ x ∈ r.pushes, x.2 = r.updatedAt
  copied : r.dirty = true ∨ r.pushes = [] → r.updatedAt ≤ r.copyAt
  asleep : r.running = false → r.dirty = false
  agree : r.running = true → r.dirty = false → r.pushes = [] → r.latest = r.copy
  stopped : r.running = false → r.pushes = [] → r.copy = none → r.stored = none ∧ r.uploads = []

variable {r r' : Replica C}

theorem latest_of_ne_nil (h : r.uploads ≠ [])
    (hu : r'.uploads = r.uploads) : r'.latest = r.latest := by
  simp [latest, hu, getLast?_eq_some_getLast h]

theorem latest_receive {x : C × Nat} (h : r.uploads = x :: r'.uploads)
    (hs : r'.stored = some x.1) : r'.latest = r.latest := by
  rw [latest, latest, h, getLast?_cons, hs]
  cases r'.uploads.getLast? <;> rfl

section

variable {r : Replica C} (hr : r.Sound)

include hr

theorem Sound.awake (hd : r.dirty = true) : r.running ≠ false := by
  intro hs
  rw [hr.asleep hs] at hd
  cases hd

theorem Sound.change (c : Option C)
    (hg : c = none → r.running = true ∨ r.stored = none ∧ r.uploads = []) :
    ({ r with copy := c, copyAt := r.clock + 1, dirty := r.running, clock := r.clock + 1 } :
      Replica C).Sound := by
  have hn : r.updatedAt ≤ r.clock + 1 := Nat.le_succ_of_le hr.clock
  refine { hr with clock := hn, copied := fun _ => hn, asleep := id, agree := ?_, stopped := ?_ }
  · simp +contextual
  · grind

theorem Sound.upload (v : List C) (dirty : Bool) (hd : r.dirty = true)
    (hsy : dirty = false → r.pushes = [] →
      ({ r with uploads := r.uploads ++ v.map fun c => (c, r.copyAt) } : Replica C).latest
        = r.copy) :
    ({ r with uploads := r.uploads ++ v.map fun c => (c, r.copyAt), dirty := dirty } :
      Replica C).Sound := by
  have hc := hr.copied (.inl hd)
  refine { hr with
    uploads := fun x hx => ?_, copied := fun _ => hc, agree := fun _ => hsy
    asleep := fun hs => absurd hs (hr.awake hd)
    stopped := fun hs => absurd hs (hr.awake hd) }
  rcases mem_append.mp hx with hx | hx
  · exact hr.uploads x hx
  · grind

theorem Sound.step {r' : Replica C} (h : Step r r') : Sound r' := by
  have hnx : r.updatedAt ≤ r.clock + 1 := Nat.le_succ_of_le hr.clock
  cases h with
  | idle t ht => exact { hr with clock := Nat.le_trans hr.clock ht }
  | overwrite c hre =>
    refine { hr with clock := hnx, kept := hnx, agree := ?_, stopped := ?_ }
    · intro hru hd hp
      have hne : r.uploads ≠ [] := fun hu => hre ⟨hd, hu, hp⟩
      refine Eq.trans ?_ (hr.agree hru hd hp)
      exact latest_of_ne_nil hne rfl
    intro hs hp hc
    have hu := (hr.stopped hs hp hc).2
    exact absurd ⟨hr.asleep hs, hu, hp⟩ hre
  | update c hre =>
    constructor <;> simp [hre.uploads, hre.dirty]
  | carry pushes hpe =>
    have hni : pushes = [] → r.pushes = [] := fun hp => nil_perm.mp (hp ▸ hpe)
    exact { hr with
      pushes := fun x hx => hr.pushes x (hpe.subset hx)
      copied := fun h => hr.copied (h.imp_right hni)
      agree := fun hru hd hp => hr.agree hru hd (hni hp)
      stopped := fun hru hp => hr.stopped hru (hni hp) }
  | pushed x pushes hpe hru =>
    have hx : x.2 = r.updatedAt := hr.pushes x (hpe.symm.subset mem_cons_self)
    refine { hr with
      pushes := fun y hy => hr.pushes y (hpe.symm.subset (mem_cons_of_mem _ hy))
      copied := fun _ => Nat.le_of_eq hx.symm, asleep := ?_, agree := ?_, stopped := ?_ } <;>
      simp [hru]
  | edit c => exact hr.change (some c) fun hn => (by cases hn)
  | remove hg => exact hr.change none fun _ => hg
  | read c dirty hc hd =>
    refine hr.upload [c] dirty hd fun _ _ => ?_
    simp [latest, hc]
  | readGone v dirty hd ha => grind [hr.upload]
  | receive x uploads hu =>
    have hx : r.updatedAt ≤ x.2 := hr.uploads x (hu ▸ mem_cons_self)
    refine { hr with
      kept := hx, uploads := fun y hy => hr.uploads y (hu ▸ mem_cons_of_mem _ hy)
      agree := ?_, stopped := ?_ }
    · intro hru hd hp
      exact (latest_receive hu rfl).trans (hr.agree hru hd hp)
    intro hs hp hc
    have hn := (hr.stopped hs hp hc).2
    simp [hu] at hn
  | stop uploads hsu hg =>
    exact { hr with
      uploads := fun x hx => hr.uploads x (hsu x hx)
      copied := fun h => hr.copied (.inr (h.resolve_left (by simp)))
      asleep := fun _ => rfl, agree := by simp, stopped := fun _ _ => hg }
  | start hs hp =>
    have hco := hr.copied (.inr hp)
    refine { hr with
      uploads := fun x hx => ?_, copied := fun _ => hco, asleep := by simp
      agree := fun _ _ _ => ?_, stopped := by simp }
    · rcases mem_append.mp hx with hx | hx
      · exact hr.uploads x hx
      obtain ⟨c, -, rfl⟩ := Option.map_eq_some_iff.mp (Option.mem_toList.mp hx)
      exact hco
    cases hc : r.copy with
    | some c => simp [latest]
    | none => grind [latest, hr.stopped]

end

theorem Sound.steps (hr : Sound r) (h : Relation.ReflTransGen Step r r') :
    Sound r' := by
  induction h with
  | refl => exact hr
  | tail _ hs ih => exact ih.step hs

theorem Sound.stored_eq_copy (hr : Sound r) (hru : r.running = true)
    (hre : r.AtRest) : r.stored = r.copy := by
  have hs := hr.agree hru hre.dirty hre.pushes
  rw [latest, hre.uploads] at hs
  exact hs

end Replica

end Daao.Lib

/-
Daao.Lib.Trace — runs of a partial step function, and the rules by which
the components of this development are proved about whole runs.

A component is a state type `σ`, an action type `α` and a function
`step : σ → α → Option σ`; `none` means the action is not enabled. An
interleaving of several parties is a list of actions, so "for every
interleaving" is a quantifier over lists. `Along step Ok s as` is how a
condition on the steps of a run is stated. The rules are about what holds
at the end of a run (`run_…`), at each of its steps (`along_…`), in each of
its states (`forall_states_…`), and between one state and the next
(`isChain_states`).
-/
import Mathlib.Data.List.Basic

namespace Daao.Lib

open List Option

variable {σ α : Type}

def run (step : σ → α → Option σ) : σ → List α → Option σ
  | s, [] => some s
  | s, a :: as => (step s a).bind fun s' => run step s' as

@[simp] theorem run_nil (step : σ → α → Option σ) (s : σ) : run step s [] = some s := rfl

theorem run_cons (step : σ → α → Option σ) (s : σ) (a : α) (as : List α) :
    run step s (a :: as) = (step s a).bind fun s' => run step s' as := rfl

variable {step : σ → α → Option σ}

theorem run_cons_of_step {s s' : σ} {a : α} (h : step s a = some s') (as : List α) :
    run step s (a :: as) = run step s' as := by
  rw [run_cons, h, bind_some]

@[simp] theorem run_singleton (step : σ → α → Option σ) (s : σ) (a : α) :
    run step s [a] = step s a := by
  cases h : step s a <;> simp [run, h]

theorem run_cons_eq_some {s s'' : σ} {a : α} {as : List α} :
    run step s (a :: as) = some s'' ↔
      ∃ s', step s a = some s' ∧ run step s' as = some s'' := by
  exact bind_eq_some_iff

theorem run_append (step : σ → α → Option σ) (s : σ) (as bs : List α) :
    run step s (as ++ bs) = (run step s as).bind fun s' => run step s' bs := by
  induction as generalizing s with
  | nil => rfl
  | cons a as ih =>
    simp only [cons_append, run_cons, bind_assoc]
    congr 1
    funext s'
    exact ih s'

/-- Every action of the trace meets `Ok` in the state it is taken from. -/
def Along (step : σ → α → Option σ) (Ok : σ → α → Prop) : σ → List α → Prop
  | _, [] => True
  | s, a :: as => Ok s a ∧ ∀ s' ∈ step s a, Along step Ok s' as

instance decidableAlong (step : σ → α → Option σ) (Ok : σ → α → Prop)
    [∀ s a, Decidable (Ok s a)] : ∀ s as, Decidable (Along step Ok s as)
  | _, [] => isTrue trivial
  | s, a :: as =>
    haveI : ∀ s', Decidable (Along step Ok s' as) :=
      fun s' => decidableAlong step Ok s' as
    inferInstanceAs (Decidable (Ok s a ∧ ∀ s' ∈ step s a, Along step Ok s' as))

/-- The step function that keeps the states it has passed, the newest one
first: a condition on what came before is one on the steps of its runs. -/
def remember (step : σ → α → Option σ) (s : List σ × σ) (a : α) : Option (List σ × σ) :=
  (step s.2 a).map fun s' => (s.2 :: s.1, s')

theorem along_of_forall_mem {P : α → Prop} :
    ∀ {as : List α} {s : σ}, (∀ a ∈ as, P a) → Along step (fun _ a => P a) s as
  | [], _, _ => trivial
  | a :: _, _, h =>
      ⟨h a mem_cons_self, fun _ _ => along_of_forall_mem fun b hb => h b (mem_cons_of_mem a hb)⟩

variable {Ok : σ → α → Prop}

theorem along_and {Ok' : σ → α → Prop} :
    ∀ {as : List α} {s : σ}, Along step Ok s as → Along step Ok' s as →
      Along step (fun s a => Ok s a ∧ Ok' s a) s as
  | [], _, _, _ => trivial
  | _ :: _, _, h, h' => ⟨⟨h.1, h'.1⟩, fun s' hs' => along_and (h.2 s' hs') (h'.2 s' hs')⟩

theorem Along.imp {Ok' : σ → α → Prop} (h : ∀ s a, Ok s a → Ok' s a) :
    ∀ {as : List α} {s : σ}, Along step Ok s as → Along step Ok' s as
  | [], _, _ => trivial
  | a :: _, s, hok => ⟨h s a hok.1, fun s' hs' => (hok.2 s' hs').imp h⟩

theorem along_of_append :
    ∀ {as bs : List α} {s : σ}, Along step Ok s (as ++ bs) → Along step Ok s as
  | [], _, _, _ => trivial
  | _ :: _, _, _, h => ⟨h.1, fun s' hs' => along_of_append (h.2 s' hs')⟩

theorem along_snoc :
    ∀ {as : List α} {a : α} {s s' : σ}, Along step Ok s (as ++ [a]) →
      run step s as = some s' → Ok s' a
  | [], _, _, _, h, hr => by
      simp only [run_nil, some.injEq] at hr
      subst hr
      exact h.1
  | _ :: _, _, _, _, h, hr => by
      obtain ⟨s₁, hs, hre⟩ := run_cons_eq_some.mp hr
      exact along_snoc (h.2 s₁ hs) hre

variable {Inv : σ → Prop} {step : σ → α → Option σ} {Ok : σ → α → Prop}

/-- **Invariant rule.** What every step that meets `Ok` keeps holds at the
end of every run whose actions meet `Ok`. -/
theorem run_invariant_along (hst : ∀ s a s', Inv s → Ok s a → step s a = some s' → Inv s') :
    ∀ {as : List α} {s s' : σ}, Inv s → Along step Ok s as → run step s as = some s' → Inv s'
  | [], _, _, hs, _, hr => by
      simp only [run_nil, some.injEq] at hr
      exact hr ▸ hs
  | a :: _, s, _, hs, hok, hr => by
      obtain ⟨s₁, h₁, hre⟩ := run_cons_eq_some.mp hr
      exact run_invariant_along hst (hst s a s₁ hs hok.1 h₁) (hok.2 s₁ h₁) hre

theorem run_invariant_of_mem {P : α → Prop} {as : List α} {s s' : σ}
    (hr : run step s as = some s') (hs : Inv s) (has : ∀ a ∈ as, P a)
    (hst : ∀ s a s', Inv s → P a → step s a = some s' → Inv s') : Inv s' :=
  run_invariant_along hst hs (along_of_forall_mem has) hr

theorem along_of_invariant {P : σ → α → Prop}
    (hst : ∀ s a s', Inv s → Ok s a → step s a = some s' → Inv s')
    (hP : ∀ s a, Inv s → Ok s a → P s a) :
    ∀ {as : List α} {s : σ}, Inv s → Along step Ok s as → Along step P s as
  | [], _, _, _ => trivial
  | a :: _, s, hs, hok =>
      ⟨hP s a hs hok.1, fun s' hs' =>
        along_of_invariant hst hP (hst s a s' hs hok.1 hs') (hok.2 s' hs')⟩

/-- What every step keeps holds at the end of every run. -/
theorem run_invariant (hst : ∀ s a s', Inv s → step s a = some s' → Inv s') {as : List α}
    {s s' : σ} (hs : Inv s) (hr : run step s as = some s') : Inv s' :=
  run_invariant_along (fun s a s' hs (_ : True) h => hst s a s' hs h) hs
    (along_of_forall_mem fun _ _ => trivial) hr

def states (step : σ → α → Option σ) : σ → List α → List σ
  | s, [] => [s]
  | s, a :: as => s :: (match step s a with
    | none => []
    | some s' => states step s' as)

theorem along_of_forall_states {P : σ → Prop} :
    ∀ {as : List α} {s : σ}, (∀ s' ∈ states step s as, P s') → Along step (fun s _ => P s) s as
  | [], _, _ => trivial
  | a :: as, s, h => by
      refine ⟨h s (by simp [states]), fun s' hs' => along_of_forall_states fun s'' hs'' => ?_⟩
      rw [mem_def] at hs'
      exact h s'' (by simp [states, hs', hs''])

theorem mem_states_of_run :
    ∀ {as : List α} {s s' : σ}, run step s as = some s' → s' ∈ states step s as
  | [], s, s', h => by
      rw [run_nil, some.injEq] at h
      simp [states, h]
  | a :: as, s, s', h => by
      obtain ⟨s₁, hs, hr⟩ := run_cons_eq_some.mp h
      simp [states, hs, mem_states_of_run hr]

theorem forall_states_of_along (hst : ∀ s a s', Inv s → Ok s a → step s a = some s' → Inv s') :
    ∀ {as : List α} {s : σ}, Inv s → Along step Ok s as → ∀ s' ∈ states step s as, Inv s'
  | [], s, hs, _ => by simpa [states] using hs
  | a :: as, s, hs, hok => by
      cases h : step s a with
      | none => simpa [states, h] using hs
      | some s₁ =>
        simp only [states, h, mem_cons, forall_eq_or_imp]
        exact ⟨hs, forall_states_of_along hst (hst s a s₁ hs hok.1 h) (hok.2 s₁ h)⟩

theorem forall_states_of_invariant (hst : ∀ s a s', Inv s → step s a = some s' → Inv s')
    {as : List α} {s : σ} (hs : Inv s) : ∀ s' ∈ states step s as, Inv s' :=
  forall_states_of_along (fun s a s' hs (_ : True) h => hst s a s' hs h) hs
    (along_of_forall_mem fun _ _ => trivial)

/-- **Step-to-step rule.** A relation that every step meeting `Ok` puts
between the states before and after it links the states of the run. -/
theorem isChain_states {R : σ → σ → Prop}
    (hst : ∀ s a s', Inv s → Ok s a → step s a = some s' → Inv s' ∧ R s s') :
    ∀ {as : List α} {s : σ}, Inv s → Along step Ok s as → (states step s as).IsChain R
  | [], s, _, _ => .singleton s
  | a :: as, s, hs, hok => by
      cases h : step s a with
      | none => simp [states, h]
      | some s' =>
        obtain ⟨hs', hR⟩ := hst s a s' hs hok.1 h
        have hr := isChain_states hst hs' (hok.2 s' h)
        -- the tail starts in the state the step leads to
        cases as with
        | nil => simpa [states, h] using hR
        | cons b bs => grind [states]

/-- A condition on the states of a run may be said as one on its history. -/
theorem along_iff_along_remember {Inv : List σ → σ → Prop} {Ok' : List σ × σ → α → Prop}
    (hok : ∀ past s a, Inv past s → (Ok s a ↔ Ok' (past, s) a))
    (hst : ∀ past s a s', Inv past s → Ok s a → step s a = some s' → Inv (s :: past) s') :
    ∀ {as : List α} {past : List σ} {s : σ}, Inv past s →
      (Along step Ok s as ↔ Along (remember step) Ok' (past, s) as)
  | [], _, _, _ => Iff.rfl
  | a :: as, past, s, hs => by
      simp only [Along, remember, ← hok past s a hs]
      refine and_congr_right fun ha => ?_
      cases h : step s a with
      | none => simp
      | some s' =>
        simpa using along_iff_along_remember hok hst (hst past s a s' hs ha h)

/-- **Exact rule.** If a step keeps the invariant just when it meets `Ok`,
the invariant holds in all states of a run just when all its actions meet
`Ok`. -/
theorem forall_states_iff_along (hst : ∀ s a, Inv s → (Ok s a ↔ ∀ s' ∈ step s a, Inv s')) :
    ∀ {as : List α} {s : σ}, Inv s → ((∀ s' ∈ states step s as, Inv s') ↔ Along step Ok s as)
  | [], s, hs => by simp [states, Along, hs]
  | a :: as, s, hs => by
      rw [Along, hst s a hs]
      cases h : step s a with
      | none => simp [states, h, hs]
      | some s₁ =>
        simp only [states, h, mem_cons, forall_eq_or_imp, hs, true_and, mem_some_iff, forall_eq']
        constructor
        · intro ha
          -- the state the step leads to is the first of the rest
          have hs₁ : Inv s₁ := ha s₁ (by cases as <;> simp [states])
          exact ⟨hs₁, (forall_states_iff_along hst hs₁).mp ha⟩
        intro hok
        exact (forall_states_iff_along hst hok.1).mpr hok.2

theorem forall_states_iff_along_of_run
    (hst : ∀ s a s', Inv s → step s a = some s' → (Ok s a ↔ Inv s')) :
    ∀ {as : List α} {s s' : σ}, Inv s → run step s as = some s' →
      ((∀ s' ∈ states step s as, Inv s') ↔ Along step Ok s as)
  | [], s, _, hs, _ => by simp [states, Along, hs]
  | a :: as, s, _, hs, hr => by
      obtain ⟨s₁, h₁, hre⟩ := run_cons_eq_some.mp hr
      simp only [states, Along, h₁, mem_cons, forall_eq_or_imp, hs, true_and,
        mem_some_iff, forall_eq', hst s a s₁ hs h₁]
      constructor
      · intro ha
        have hs₁ : Inv s₁ := ha s₁ (by cases as <;> simp [states])
        exact ⟨hs₁, (forall_states_iff_along_of_run hst hs₁ hre).mp ha⟩
      intro hok
      exact (forall_states_iff_along_of_run hst hok.1 hre).mpr hok.2

end Daao.Lib

/-
Daao.Lifecycle.DeadManSwitch — the monitor loops of a session's Dead Man's
Switch (`pkg/lifecycle/dms.go`) and `TransitionSessionState`
(`cmd/daao/daemon.go`), which starts and stops them.

`Start` adds a loop, whatever is there already. `Stop` cancels the context
that `NewDeadManSwitch` made, and waits for every loop; there is no other
context. Each act below is one step of one goroutine:

* a call of `TransitionSessionState` holds `sessionsMu` to its end. A call
  that sets RE_ATTACHING waits in `Stop` for the loops, and one that sets
  RUNNING for the switch's own lock `mu`; the others end at once;
* a loop chooses a ready branch of its `select` and goes through the body.
  To look the session up it needs `sessionsMu`, and in `doSuspend` it holds
  `mu` while it waits for it. The state is read and written after the
  look-up, without a lock;
* `RecordActivity` from an attached client or an input.

The session is registered and its switch is set up when a run starts. How
long the session has been idle, and whether the process can be suspended
and resumed, is up to the act.
-/
import Daao.Lib.Trace
import Daao.Sessions.Store
import Mathlib.Data.List.Induction

namespace Daao.Lifecycle

open Daao.Lib Daao.Sessions List Option

/-! ## 1. The loops -/

inductive Purpose where
  /-- `GetSessionStateFunc` in `checkAndSuspend` -/
  | check
  /-- `GetSessionStateFunc` in `doSuspend`, which holds `mu` -/
  | suspend
  | onSuspend
  | onResume
  deriving DecidableEq

inductive LoopPhase where
  | selecting
  /-- it got a tick, and locks `mu` next -/
  | tick
  /-- it took a signal from `suspendCh`, and locks `mu` next -/
  | suspendSignal
  /-- it took a signal from `resumeCh`, and locks `mu` next -/
  | resumeSignal
  /-- it has set `suspended` and suspends the process -/
  | suspending
  /-- it has cleared `suspended` and resumes the process -/
  | resuming
  /-- it waits for `sessionsMu` -/
  | lookup (purpose : Purpose)
  /-- it has the session -/
  | found (purpose : Purpose)
  deriving DecidableEq

def LoopPhase.holdsMu : LoopPhase → Bool
  | .lookup .suspend | .found .suspend => true
  | _ => false

/-- The branches of the `select`, and the next step of a body. -/
inductive Choice where
  | done
  | suspend
  | resume
  | tick
  /-- `ok` is whether the session is idle, or the process obeys -/
  | next (ok : Bool)
  deriving DecidableEq

inductive Call where
  | stopping
  /-- in `IsSuspended` and `RecordActivity` -/
  | resuming
  deriving DecidableEq

structure Switch where
  state : SessionState
  cancelled : Bool
  suspended : Bool
  suspendCh : Bool
  resumeCh : Bool
  loops : List LoopPhase
  /-- the call that holds `sessionsMu` -/
  call : Option Call
  deriving DecidableEq

def newSwitch : Switch :=
  { state := .running, cancelled := false, suspended := false, suspendCh := false
    resumeCh := false, loops := [], call := none }

namespace Switch

def muFree (s : Switch) : Bool := s.loops.all fun p => !p.holdsMu

def recordActivity (s : Switch) : Switch := { s with resumeCh := s.resumeCh || s.suspended }

/-- One step of a loop: what it leaves, and where the loop is then; it has
returned if that is `none`. -/
def loopStep (s : Switch) : LoopPhase → Choice → Option (Switch × Option LoopPhase)
  | .selecting, .done => if s.cancelled then some (s, none) else none
  | .selecting, .suspend =>
    if s.suspendCh then some ({ s with suspendCh := false }, some .suspendSignal) else none
  | .selecting, .resume =>
    if s.resumeCh then some ({ s with resumeCh := false }, some .resumeSignal) else none
  | .selecting, .tick => some (s, some .tick)
  -- `checkAndSuspend`
  | .tick, .next _ =>
    if s.muFree then some (s, some (if s.suspended then .selecting else .lookup .check)) else none
  | .found .check, .next idle =>
    some ({ s with suspendCh := s.suspendCh || (s.state ≠ .running && idle) }, some .selecting)
  -- `doSuspend`
  | .suspendSignal, .next _ =>
    if s.muFree then some (s, some (if s.suspended then .selecting else .lookup .suspend))
    else none
  | .found .suspend, .next _ =>
    if s.state = .running then some (s, some .selecting)
    else some ({ s with suspended := true }, some .suspending)
  | .suspending, .next ok =>
    if ok then some (s, some (.lookup .onSuspend))
    else if s.muFree then some ({ s with suspended := false }, some .selecting)
    else none
  | .found .onSuspend, .next _ => some ({ s with state := .suspended }, some .selecting)
  -- `doResume`
  | .resumeSignal, .next _ =>
    if !s.muFree then none
    else if !s.suspended then some (s, some .selecting)
    else some ({ s with suspended := false }, some .resuming)
  | .resuming, .next ok => some (s, some (if ok then .lookup .onResume else .selecting))
  | .found .onResume, .next _ => some ({ s with state := .running }, some .selecting)
  | .lookup purpose, .next _ => if s.call = none then some (s, some (.found purpose)) else none
  | _, _ => none

def moved (loops : List LoopPhase) (i : Nat) : Option LoopPhase → List LoopPhase
  | none => loops.eraseIdx i
  | some p => loops.set i p

/-- `TransitionSessionState`, up to where it waits. -/
def transitionSessionState (s : Switch) (newState : SessionState) : Switch :=
  let s := { s with state := newState }
  match newState with
  | .detached => { s with loops := s.loops ++ [.selecting] }
  | .reAttaching => { s with cancelled := true, call := some .stopping }
  | .running => { s with call := some .resuming }
  | _ => s

def complete (s : Switch) : Option Switch :=
  match s.call with
  | some .stopping => if s.loops = [] then some { s with call := none } else none
  | some .resuming => if s.muFree then some { s.recordActivity with call := none } else none
  | none => none

end Switch

/-! ## 2. Runs -/

inductive Act where
  | call (newState : SessionState)
  | complete
  | loop (i : Nat) (choice : Choice)
  | recordActivity

def step (s : Switch) : Act → Option Switch
  | .call newState => if s.call = none then some (s.transitionSessionState newState) else none
  | .complete => s.complete
  | .loop i choice => do
    let p ← s.loops[i]?
    let (s', p') ← s.loopStep p choice
    some { s' with loops := Switch.moved s.loops i p' }
  | .recordActivity => if s.muFree then some s.recordActivity else none

def calls (acts : List Act) : List SessionState :=
  acts.filterMap fun
    | .call newState => some newState
    | _ => none

/-- What the switch is to be after the calls: one loop runs if the last
call set DETACHED, and none if it set RE_ATTACHING. -/
structure Armed (calls : List SessionState) (s : Switch) : Prop where
  detached : calls.getLast? = some .detached → s.loops.length = 1
  reAttaching : calls.getLast? = some .reAttaching → s.loops = []

/-! ## 3. What a step does -/

variable {choice : Choice} {s s' : Switch}

open Switch

theorem Switch.loopStep_frame {p : LoopPhase}
    {p' : Option LoopPhase} (h : s.loopStep p choice = some (s', p')) :
    s'.cancelled = s.cancelled ∧ s'.call = s.call ∧ (p' = none → s.cancelled = true) := by
  revert h
  fun_cases loopStep s p choice <;> intro h <;> cases h <;> simp_all

theorem step_call_eq_some {newState : SessionState} :
    step s (.call newState) = some s'
      ↔ s.call = none ∧ s' = s.transitionSessionState newState := by
  simp [step, eq_comm]

variable {i : Nat}

theorem step_loop_eq_some :
    step s (.loop i choice) = some s'
      ↔ ∃ p s₁ p', s.loops[i]? = some p ∧ s.loopStep p choice = some (s₁, p')
        ∧ s' = { s₁ with loops := moved s.loops i p' } := by
  simp only [step, bind_eq_bind, bind_eq_some_iff, some.injEq, Prod.exists]
  constructor
  · grind
  · grind

theorem complete_eq_some :
    s.complete = some s'
      ↔ (s.call = some .stopping ∧ s.loops = [] ∧ s' = { s with call := none })
        ∨ (s.call = some .resuming ∧ s.muFree = true
            ∧ s' = { s.recordActivity with call := none }) := by
  unfold complete
  cases hc : s.call with
  | none => simp
  | some call => grind

/-! ## 4. The loops of a run -/

structure Inv (calls : List SessionState) (s : Switch) : Prop where
  cancelled : s.cancelled = true ↔ .reAttaching ∈ calls
  /-- a loop returns only when the context is cancelled -/
  loops : s.cancelled = false → s.loops.length = calls.count .detached
  stopping : s.call = some .stopping → calls.getLast? = some .reAttaching
  resuming : s.call = some .resuming → calls.getLast? = some .running
  stopped : calls.getLast? = some .reAttaching → s.call = none → s.loops = []

theorem inv_newSwitch : Inv [] newSwitch := by
  constructor <;> simp [newSwitch]

variable {made : List SessionState}

theorem inv_call (hs : Inv made s) (hc : s.call = none) (newState : SessionState) :
    Inv (made ++ [newState]) (s.transitionSessionState newState) := by
  have hl := hs.loops
  have hca := hs.cancelled
  cases newState <;>
    (constructor <;> simp_all [transitionSessionState, count_append])

theorem inv_loop (hs : Inv made s) (h : step s (.loop i choice) = some s') : Inv made s' := by
  obtain ⟨p, s₁, p', hp, hst, rfl⟩ := step_loop_eq_some.mp h
  obtain ⟨hca, hc, hd⟩ := loopStep_frame hst
  refine ⟨by simpa only [hca] using hs.cancelled, fun hno => ?_,
    by simpa only [hc] using hs.stopping, by simpa only [hc] using hs.resuming,
    fun hl hn => ?_⟩
  · rw [hca] at hno
    cases p' with
    | none => rw [hd rfl] at hno; cases hno
    | some p' => simpa [moved] using hs.loops hno
  -- there is no loop that could take a step
  rw [hc] at hn
  rw [hs.stopped hl hn] at hp
  cases hp

theorem inv_complete (hs : Inv made s) (h : step s .complete = some s') : Inv made s' := by
  rcases complete_eq_some.mp h with ⟨-, hlo, rfl⟩ | ⟨hc, -, rfl⟩
  · exact ⟨hs.cancelled, hs.loops, nofun, nofun, fun _ _ => hlo⟩
  refine ⟨hs.cancelled, hs.loops, nofun, nofun, fun hl _ => ?_⟩
  rw [hs.resuming hc] at hl
  cases hl

variable {a : Act}

theorem inv_step (hs : Inv made s) (h : step s a = some s') : Inv (made ++ calls [a]) s' := by
  cases a with
  | call ns =>
    obtain ⟨hc, rfl⟩ := step_call_eq_some.mp h
    exact inv_call hs hc ns
  | complete => simpa [calls] using inv_complete hs h
  | loop i choice => simpa [calls] using inv_loop hs h
  | recordActivity =>
    simp only [step, ite_none_right_eq_some, some.injEq] at h
    obtain ⟨-, rfl⟩ := h
    simpa [calls] using
      (⟨hs.cancelled, hs.loops, hs.stopping, hs.resuming, hs.stopped⟩ : Inv made s.recordActivity)

theorem run_calls {P : List SessionState → Switch → Prop}
    (hst : ∀ {made s a s'}, P made s → step s a = some s' → P (made ++ calls [a]) s') :
    ∀ {acts : List Act} {made : List SessionState} {s s' : Switch}, P made s →
      run step s acts = some s' → P (made ++ calls acts) s'
  | [], _, _, _, hs, h => by
    cases h
    simpa [calls] using hs
  | a :: acts, made, s, s', hs, h => by
    obtain ⟨s₁, h₁, hr⟩ := run_cons_eq_some.mp h
    have hru := run_calls hst (hst hs h₁) hr
    rwa [append_assoc, calls, calls, ← filterMap_append, singleton_append] at hru

variable {acts : List Act}

theorem inv_run (h : run step newSwitch acts = some s) : Inv (calls acts) s := by
  simpa using run_calls inv_step inv_newSwitch h

/-! ## 5. A calm schedule -/

/-- No call waits, every loop is in its `select`, and the loops of a
cancelled context have returned. -/
structure Calm (s : Switch) : Prop where
  call : s.call = none
  selecting : ∀ p ∈ s.loops, p = .selecting
  cancelled : s.cancelled = true → s.loops = []

theorem muFree_of_selecting (h : ∀ p ∈ s.loops, p = .selecting) : s.muFree = true := by
  simp only [muFree, List.all_eq_true]
  intro p hp
  rw [h p hp]
  rfl

theorem run_done {loops : List LoopPhase} (h : ∀ p ∈ loops, p = .selecting)
    (hl : s.loops = loops) (hc : s.cancelled = true) :
    run step s (replicate loops.length (.loop 0 .done)) = some { s with loops := [] } := by
  induction loops generalizing s with
  | nil =>
    cases s
    cases hl
    rfl
  | cons p r ih =>
    obtain ⟨hp, hr⟩ := forall_mem_cons.mp h
    have hs : step s (.loop 0 .done) = some { s with loops := r } := by
      simp [step, hl, hp, loopStep, hc, moved]
    rw [length_cons, replicate_succ, run_cons, hs]
    exact ih hr rfl hc

theorem exists_calm_call (hs : Calm s) (newState : SessionState) :
    ∃ acts s', calls acts = [newState] ∧ run step s acts = some s' ∧ Calm s' := by
  have hc : step s (.call newState) = some (s.transitionSessionState newState) :=
    step_call_eq_some.mpr ⟨hs.call, rfl⟩
  cases newState
  case detached =>
    cases hca : s.cancelled with
    | false =>
      refine ⟨[.call .detached], s.transitionSessionState .detached, rfl,
        by rw [run_singleton, hc], hs.call, ?_, ?_⟩
      · simpa [transitionSessionState, or_imp, forall_and] using hs.selecting
      · simp [transitionSessionState, hca]
    | true =>
      -- the new loop finds the context cancelled
      have hl : (s.transitionSessionState .detached).loops = [.selecting] := by
        simp [transitionSessionState, hs.cancelled hca]
      refine ⟨[.call .detached, .loop 0 .done],
        { s.transitionSessionState .detached with loops := [] }, rfl, ?_, hs.call, by simp, by simp⟩
      rw [run_cons, hc]
      exact run_done (by simp) hl hca
  case reAttaching =>
    refine ⟨.call .reAttaching :: (replicate s.loops.length (.loop 0 .done) ++ [.complete]),
      { s with state := .reAttaching, cancelled := true, loops := [], call := none }, ?_, ?_,
      rfl, by simp, by simp⟩
    · simp [calls, filterMap_replicate_of_none]
    rw [run_cons, hc, bind_some, run_append,
      run_done hs.selecting (s := s.transitionSessionState .reAttaching) rfl rfl]
    rfl
  case running =>
    have hf : (s.transitionSessionState .running).muFree = true := muFree_of_selecting hs.selecting
    refine ⟨[.call .running, .complete],
      { (s.transitionSessionState .running).recordActivity with call := none }, rfl, ?_, rfl,
      hs.selecting, hs.cancelled⟩
    rw [run_cons, hc, bind_some, run_singleton]
    exact complete_eq_some.mpr (.inr ⟨rfl, hf, rfl⟩)
  -- the other states have nothing to do with the switch
  all_goals
    refine ⟨[.call _], s.transitionSessionState _, rfl, by rw [run_singleton]; exact hc, ?_⟩
    exact ⟨hs.call, hs.selecting, hs.cancelled⟩

theorem exists_calm (made : List SessionState) (hs : Calm s) :
    ∃ acts s', calls acts = made ∧ run step s acts = some s' ∧ Calm s' := by
  induction made generalizing s with
  | nil => exact ⟨[], s, rfl, rfl, hs⟩
  | cons ns r ih =>
    obtain ⟨acts, s₁, hm, hr, hs₁⟩ := exists_calm_call hs ns
    obtain ⟨c', s₂, hm', hr', hs₂⟩ := ih hs₁
    refine ⟨acts ++ c', s₂, ?_, ?_, hs₂⟩
    · rw [calls, filterMap_append]
      exact congrArg₂ _ hm hm'
    · rw [run_append, hr, bind_some, hr']

/-! ## 6. When the switch is armed -/

/-- **The loops after a sequence of calls.** In every run that makes the
calls, and in which they have ended, one loop runs after DETACHED and none
after RE_ATTACHING; this holds just if a last call that sets DETACHED is
the only one, and no call has set RE_ATTACHING. -/
theorem armed_iff (made : List SessionState) :
    (∀ acts s, calls acts = made → run step newSwitch acts = some s → s.call = none →
        Armed made s)
      ↔ (made.getLast? = some .detached → made.count .detached = 1 ∧ .reAttaching ∉ made) := by
  constructor
  · intro h hl
    obtain ⟨acts, s, hm, hr, hca⟩ := exists_calm made
      (⟨rfl, by simp [newSwitch], by simp [newSwitch]⟩ : Calm newSwitch)
    have hi : Inv made s := hm ▸ inv_run hr
    have ho : s.loops.length = 1 := (h acts s hm hr hca.call).detached hl
    cases hc : s.cancelled with
    | true => simp [hca.cancelled hc] at ho
    | false =>
      refine ⟨by rw [← hi.loops hc, ho], fun hme => ?_⟩
      rw [hi.cancelled.mpr hme] at hc
      cases hc
  · intro h acts s hm hr hcl
    have hi : Inv made s := hm ▸ inv_run hr
    refine ⟨fun hl => ?_, fun hl => hi.stopped hl hcl⟩
    obtain ⟨hco, hn⟩ := h hl
    have hc : s.cancelled = false := by
      rw [← Bool.not_eq_true, hi.cancelled]
      exact hn
    rw [hi.loops hc, hco]

/-- Detaching twice runs two loops; detaching again after a re-attach runs
none. -/
theorem switch_not_armed :
    (run step newSwitch [.call .detached, .call .detached]).map (fun s => (s.call, s.loops.length))
        = some (none, 2)
      ∧ (run step newSwitch [.call .detached, .call .reAttaching, .loop 0 .done, .complete,
            .call .detached, .loop 0 .done]).map (fun s => (s.call, s.loops.length))
          = some (none, 0) := by
  decide

/-! ## 7. Which calls can get stuck -/

/-- A loop there waits for `sessionsMu`, which the call holds. -/
def LoopWaits (s : Switch) (p : LoopPhase) : Prop := s.call ≠ none ∧ ∃ purpose, p = .lookup purpose

/-- The call waits for a loop there: in `Stop`, or for the `mu` it holds. -/
def CallWaits (s : Switch) (p : LoopPhase) : Prop :=
  s.call = some .stopping ∨ (s.call = some .resuming ∧ p.holdsMu = true)

def MutualWait (s : Switch) : Prop := ∃ p ∈ s.loops, LoopWaits s p ∧ CallWaits s p

/-- Before the first DETACHED there is no loop. -/
def Unwatched (made : List SessionState) (s : Switch) : Prop :=
  .detached ∉ made → s.loops = [] ∧ s.suspended = false

theorem unwatched_step (hs : Unwatched made s) (h : step s a = some s') :
    Unwatched (made ++ calls [a]) s' := by
  intro hn
  obtain ⟨hm, hc⟩ := not_or.mp (mem_append.not.mp hn)
  obtain ⟨hl, hsu⟩ := hs hm
  cases a with
  | call newState =>
    obtain ⟨-, rfl⟩ := step_call_eq_some.mp h
    cases newState <;> simp_all [transitionSessionState, calls]
  | complete =>
    rcases complete_eq_some.mp h with ⟨-, -, rfl⟩ | ⟨-, -, rfl⟩ <;> exact ⟨hl, hsu⟩
  | loop i choice =>
    obtain ⟨p, s₁, p', hp, -, -⟩ := step_loop_eq_some.mp h
    simp [hl] at hp
  | recordActivity =>
    simp only [step, ite_none_right_eq_some, some.injEq] at h
    obtain ⟨-, rfl⟩ := h
    exact ⟨hl, hsu⟩

theorem unwatched_run (h : run step newSwitch acts = some s) : Unwatched (calls acts) s := by
  have hn : Unwatched [] newSwitch := fun _ => ⟨rfl, rfl⟩
  simpa using run_calls unwatched_step hn h

def intoSuspend : List Act :=
  [.loop 0 .tick, .loop 0 (.next true), .loop 0 (.next true), .loop 0 (.next true),
    .loop 0 .suspend, .loop 0 (.next true)]

theorem run_intoSuspend (hc : s.call = none) (hl : s.loops = []) (hs : s.suspended = false) :
    run step s (.call .detached :: intoSuspend)
      = some { s with state := .detached, suspendCh := false, loops := [.lookup .suspend] } := by
  obtain ⟨state, c, suspended, suspendCh, rc, loops, call⟩ := s
  cases hc
  cases hl
  cases hs
  cases suspendCh <;> rfl

theorem run_other_calls {r : List SessionState}
    (hr : ∀ newState ∈ r, newState ≠ .reAttaching ∧ newState ≠ .running) :
    ∀ {s : Switch} {p : LoopPhase}, s.call = none → p ∈ s.loops →
      ∃ s', run step s (r.map .call) = some s' ∧ s'.call = none ∧ p ∈ s'.loops := by
  induction r with
  | nil => exact fun hc hp => ⟨_, rfl, hc, hp⟩
  | cons newState r ih =>
    intro s p hc hp
    obtain ⟨ho, hr⟩ := forall_mem_cons.mp hr
    have hst := step_call_eq_some.mpr ⟨hc, (rfl : s.transitionSessionState newState = _)⟩
    have hn : (s.transitionSessionState newState).call = none
        ∧ p ∈ (s.transitionSessionState newState).loops := by
      cases newState <;> simp_all [transitionSessionState]
    obtain ⟨s', hru, hs'⟩ := ih hr hn.1 hn.2
    exact ⟨s', by rw [map_cons, run_cons_of_step hst, hru], hs'⟩

theorem exists_inSuspend (b : List SessionState) {rest : List SessionState} (hb : .detached ∉ b)
    (hr : ∀ ns ∈ rest, ns ≠ .reAttaching ∧ ns ≠ .running) :
    ∃ acts s, calls acts = b ++ .detached :: rest ∧ run step newSwitch acts = some s
      ∧ s.call = none ∧ .lookup .suspend ∈ s.loops := by
  obtain ⟨acts, s₁, hm, hru, hc⟩ := exists_calm b
    (⟨rfl, by simp [newSwitch], by simp [newSwitch]⟩ : Calm newSwitch)
  obtain ⟨hl, hs⟩ := unwatched_run hru (hm ▸ hb)
  have hin := run_intoSuspend hc.call hl hs
  obtain ⟨s, hca, hcl, hp⟩ := run_other_calls hr
    (s := { s₁ with state := .detached, suspendCh := false, loops := [.lookup .suspend] })
    hc.call mem_cons_self
  refine ⟨acts ++ (.call .detached :: intoSuspend) ++ rest.map .call, s, ?_, ?_, hcl, hp⟩
  · have hi : calls (.call .detached :: intoSuspend) = [.detached] := rfl
    have ho : calls (rest.map .call) = rest := by simp [calls, filterMap_map]
    rw [calls] at hm hi ho ⊢
    rw [filterMap_append, filterMap_append, hm, hi, ho, append_assoc]
    rfl
  · rw [run_append, run_append, hru, bind_some, hin, bind_some, hca]

/-- **Which calls can get stuck.** In no run that makes these calls, or the
first of them, a call and a loop ever wait for each other; this holds just
if no call sets RE_ATTACHING or RUNNING after one has set DETACHED. -/
theorem never_mutualWait_iff (made : List SessionState) :
    (∀ acts s, calls acts <+: made → run step newSwitch acts = some s → ¬ MutualWait s)
      ↔ made.Pairwise fun earlier later =>
          earlier = .detached → later ≠ .reAttaching ∧ later ≠ .running := by
  constructor
  · -- by induction on the calls: a last call that comes too late can get stuck
    induction made using reverseRecOn with
    | nil => exact fun _ => .nil
    | append_singleton made last ih =>
      intro h
      have hm := ih fun acts s hpr => h acts s (hpr.trans (prefix_append _ _))
      refine pairwise_append.mpr ⟨hm, pairwise_singleton _ _, ?_⟩
      rintro _ hme later hl rfl
      obtain ⟨before, rest, rfl, hb⟩ := eq_append_cons_of_mem hme
      have hr : ∀ ns ∈ rest, ns ≠ .reAttaching ∧ ns ≠ .running :=
        fun ns hnw =>
          (pairwise_cons.mp (pairwise_append.mp hm).2.1).1 ns hnw rfl
      obtain ⟨acts, s, hc, hru, hca, hp⟩ := exists_inSuspend before hb hr
      by_contra hba
      have hs := step_call_eq_some.mpr ⟨hca, (rfl : s.transitionSessionState last = _)⟩
      refine h (acts ++ [.call last]) (s.transitionSessionState last) ?_ ?_ ?_
      · rw [← hc]
        simp [calls]
      · rw [run_append, hru, bind_some, run_singleton, hs]
      refine ⟨_, ?_, ⟨?_, .suspend, rfl⟩, ?_⟩ <;>
        cases last <;> simp_all [transitionSessionState, CallWaits, LoopPhase.holdsMu]
  · intro hm acts s hpr hru hw
    obtain ⟨p, hp, -, hca⟩ := hw
    have hi := inv_run hru
    have hd : .detached ∈ calls acts := by
      by_contra hno
      rw [(unwatched_run hru hno).1] at hp
      cases hp
    have hl : (calls acts).getLast? = some .reAttaching ∨ (calls acts).getLast? = some .running :=
      hca.imp hi.stopping fun h => hi.resuming h.1
    have hpa := hm.sublist hpr.sublist
    -- the last call is not the one that has set DETACHED
    have hn : ∀ last, (calls acts).getLast? = some last → last ≠ .detached →
        last ≠ .reAttaching ∧ last ≠ .running := by
      intro last hl hne
      obtain ⟨before, hc⟩ := getLast?_eq_some_iff.mp hl
      rw [hc] at hd hpa
      have hb : .detached ∈ before :=
        (mem_append.mp hd).resolve_right fun h => hne (mem_singleton.mp h).symm
      exact (pairwise_append.mp hpa).2.2 _ hb last mem_cons_self rfl
    rcases hl with hl | hl
    · exact (hn _ hl nofun).1 rfl
    · exact (hn _ hl nofun).2 rfl

/-- A tick, and then the re-attach, which waits for the loop while the loop
waits for `sessionsMu`; or a loop in `doSuspend` when the session is set to
RUNNING. -/
theorem mutualWait_reached :
    (∃ s, run step newSwitch [.call .detached, .loop 0 .tick, .loop 0 (.next false),
        .call .reAttaching] = some s ∧ MutualWait s)
      ∧ ∃ s, run step newSwitch (.call .detached :: intoSuspend ++ [.call .running]) = some s
        ∧ MutualWait s := by
  refine ⟨⟨_, rfl, .lookup .check, ?_, ⟨?_, _, rfl⟩, .inl rfl⟩,
    ⟨_, rfl, .lookup .suspend, ?_, ⟨?_, _, rfl⟩, .inr ⟨rfl, rfl⟩⟩⟩ <;> decide

end Daao.Lifecycle

/-
Daao.Lifecycle.Suspension — a session's state and its process, when Nexus
and the Dead Man's Switch both suspend and resume (`handleSuspendCommand`,
`handleResumeCommand` and `handleTerminalInput` in `cmd/daao/daemon.go`,
over the loop of `Daao.Lifecycle.DeadManSwitch`).

Only the switch suspends and resumes the process. A suspend command just
sets the state. A resume command sets the state and records activity; if
the switch has suspended the process that leaves a signal, and the loop
resumes the process when it takes it.

The receive loop handles one message after the other. A step of a handler
ends where another goroutine can come between: at its write of the state,
and at `RecordActivity`, which waits for `mu`. Calls of
`TransitionSessionState` are not part of these runs: one of them may have
started the loop before. The system calls succeed.
-/
import Daao.Lifecycle.DeadManSwitch

namespace Daao.Lifecycle.Suspension

open Daao.Lib Daao.Sessions List Option Switch

/-! ## 1. The session -/

inductive Command where
  | suspend
  | resume
  | input

inductive Handler where
  | setSuspended
  | setRunning
  | record
  | recordInput
  | report
  deriving DecidableEq

structure Session where
  switch : Switch
  process : Bool
  handler : Option Handler
  deriving DecidableEq

def start (watched : Bool) : Session :=
  { switch := if watched then newSwitch.transitionSessionState .detached else newSwitch
    process := false, handler := none }

def Command.begin : Command → Handler
  | .suspend => .setSuspended
  | .resume => .setRunning
  | .input => .recordInput

def handle (s : Session) : Handler → Option Session
  | .setSuspended => some { s with
      switch := { s.switch with state := .suspended }, handler := some .report }
  | .setRunning => some { s with
      switch := { s.switch with state := .running }, handler := some .record }
  | .record =>
    if s.switch.muFree then
      some { s with switch := s.switch.recordActivity, handler := some .report }
    else none
  | .recordInput =>
    if s.switch.muFree then some { s with switch := s.switch.recordActivity, handler := none }
    else none
  | .report => some { s with handler := none }

def processAfter (process : Bool) : LoopPhase → Bool
  | .suspending => true
  | .resuming => false
  | _ => process

inductive Act where
  | receive (c : Command)
  | handle
  | loop (i : Nat) (choice : Choice)
  | localInput

def step (s : Session) : Act → Option Session
  | .receive c => if s.handler = none then some { s with handler := some c.begin } else none
  | .handle => s.handler.bind (handle s)
  | .loop i choice => do
    let p ← s.switch.loops[i]?
    -- a system call succeeds
    if (p = .suspending ∨ p = .resuming) ∧ choice = .next false then none
    else
      let switch ← Lifecycle.step s.switch (.loop i choice)
      some { s with switch := switch, process := processAfter s.process p }
  | .localInput => (Lifecycle.step s.switch .recordActivity).map fun switch =>
    { s with switch := switch }

def AtRest (s : Session) : Prop := s.handler = none ∧ ∀ p ∈ s.switch.loops, p = .selecting

def Consistent (s : Session) : Prop := s.switch.state = .suspended ↔ s.process = true

/-- A suspend command sets the state of a session whose process is
suspended. -/
def SuspendsSuspended (s : Session) : Act → Prop
  | .handle => s.handler = some .setSuspended → s.process = true
  | _ => True

instance (s : Session) : ∀ a, Decidable (SuspendsSuspended s a)
  | .handle => inferInstanceAs (Decidable (s.handler = some .setSuspended → s.process = true))
  | .receive _ | .loop _ _ | .localInput => isTrue trivial

def ResumesRunning (s : Session) : Act → Prop
  | .handle => s.handler = some .setRunning → s.process = false
  | _ => True

/-! ## 2. What holds between the steps -/

def loopPhase (s : Session) : LoopPhase := s.switch.loops.headD .selecting

def OnTheWay (s : Session) : Prop :=
  s.handler = some .record ∨ s.switch.resumeCh = true ∨ loopPhase s = .resumeSignal
    ∨ loopPhase s = .resuming

/-- The switch's flag, and the process, while the session is looked up. -/
def FlagFor (suspended process : Bool) : Purpose → Prop
  | .check => suspended = process
  | .suspend | .onResume => suspended = false ∧ process = false
  | .onSuspend => suspended = true ∧ process = true

def FlagAt (suspended process : Bool) : LoopPhase → Prop
  | .suspending => suspended = true ∧ process = false
  | .resuming => suspended = false ∧ process = true
  | .lookup purpose | .found purpose => FlagFor suspended process purpose
  | .selecting | .tick | .suspendSignal | .resumeSignal => suspended = process

/-- Between the system call and the callback the state lags behind. -/
def Lags (s : Session) (purpose : Purpose) : Prop :=
  loopPhase s = .lookup purpose ∨ loopPhase s = .found purpose

/-- `strict` is whether resume commands keep to `ResumesRunning`. -/
structure Inv (strict : Bool) (s : Session) : Prop where
  loops : s.switch.loops.length ≤ 1
  call : s.switch.call = none
  cancelled : s.switch.cancelled = false
  flag : FlagAt s.switch.suspended s.process (loopPhase s)
  suspended : s.process = true → Lags s .onSuspend ∨ s.switch.state = .suspended
    ∨ (strict = false ∧ OnTheWay s)
  running : s.process = false → Lags s .onResume ∨ s.switch.state ≠ .suspended

theorem inv_start (strict watched : Bool) : Inv strict (start watched) := by
  cases watched <;> constructor <;>
    simp [start, newSwitch, transitionSessionState, loopPhase, FlagAt]

variable {strict : Bool} {s s' : Session}

theorem step_loop_cases {i : Nat} {c : Choice}
    (hs : Inv strict s) (h : step s (.loop i c) = some s') :
    ∃ p switch p', s.switch.loops = [p] ∧ s.switch.loopStep p c = some (switch, some p')
      ∧ ¬ ((p = .suspending ∨ p = .resuming) ∧ c = .next false)
      ∧ s' = { s with
        switch := { switch with loops := [p'] }
        process := processAfter s.process p } := by
  simp only [step, bind_eq_bind, bind_eq_some_iff] at h
  obtain ⟨p, hp, h⟩ := h
  split at h
  · cases h
  obtain ⟨w', hst, hs'⟩ := bind_eq_some_iff.mp h
  obtain ⟨q, switch, p', hq, hlo, rfl⟩ := step_loop_eq_some.mp hst
  have ho : s.switch.loops = [p] ∧ i = 0 := by
    have hle := hs.loops
    match hl : s.switch.loops, hle with
    | [], _ => simp [hl] at hp
    | [q], _ => grind
  cases p' with
  | none =>
    have hd := (loopStep_frame hlo).2.2 rfl
    simp [hs.cancelled] at hd
  | some p' => grind [moved]

theorem inv_loop {i : Nat} {c : Choice} (hs : Inv strict s)
    (h : step s (.loop i c) = some s') : Inv strict s' := by
  obtain ⟨p, switch, p', hl, hst, hcl, rfl⟩ := step_loop_cases hs h
  obtain ⟨hc, hca, -⟩ := loopStep_frame hst
  have hp : loopPhase s = p := by simp [loopPhase, hl]
  obtain ⟨-, hca₀, hc₀, hf, hsu, hr⟩ := hs
  simp only [Lags, OnTheWay, hp] at hf hsu hr
  refine ⟨by simp, by simpa [hca], by simpa [hc], ?_, ?_, ?_⟩ <;>
    simp [Lags, OnTheWay, loopPhase]
  all_goals
    revert hst
    fun_cases loopStep s.switch p c <;> intro hst <;> cases hst
  all_goals cases hpr : s.process <;> simp_all [FlagAt, FlagFor, processAfter]

theorem inv_recordActivity (hs : Inv strict s) (handler : Option Handler) :
    Inv strict { s with switch := s.switch.recordActivity, handler := handler } := by
  refine ⟨hs.loops, hs.call, hs.cancelled, hs.flag, fun hp => ?_, hs.running⟩
  rcases hs.suspended hp with hl | hst | ⟨hsr, -⟩
  · exact .inl hl
  · exact .inr (.inl hst)
  -- the flag is set, unless the loop is about to resume the process
  refine .inr (.inr ⟨hsr, ?_⟩)
  have hf := hs.flag
  change _ ∨ (s.switch.resumeCh || s.switch.suspended) = true ∨ loopPhase s = _ ∨ loopPhase s = _
  cases hph : loopPhase s with
  | lookup purpose | found purpose =>
    cases purpose <;> simp_all [FlagAt, FlagFor]
  | _ => simp_all [FlagAt]

theorem inv_handle {handler : Handler} (hs : Inv strict s)
    (hh : s.handler = some handler) (hsu : handler = .setSuspended → s.process = true)
    (hr : strict = true → handler = .setRunning → s.process = false)
    (h : handle s handler = some s') : Inv strict s' := by
  cases handler with
  | setSuspended =>
    cases h
    refine ⟨hs.loops, hs.call, hs.cancelled, hs.flag, fun _ => .inr (.inl rfl), fun hp => ?_⟩
    rw [hsu rfl] at hp
    cases hp
  | setRunning =>
    cases h
    refine ⟨hs.loops, hs.call, hs.cancelled, hs.flag, fun hp => .inr (.inr ⟨?_, .inl rfl⟩),
      fun _ => .inr nofun⟩
    cases strict with
    | false => rfl
    | true => grind
  | record | recordInput =>
    simp only [handle, ite_none_right_eq_some, some.injEq] at h
    obtain ⟨-, rfl⟩ := h
    exact inv_recordActivity hs _
  | report =>
    cases h
    refine ⟨hs.loops, hs.call, hs.cancelled, hs.flag, fun hp => ?_, hs.running⟩
    -- there is nothing to be recorded
    have hss := hs.suspended hp
    simpa [OnTheWay, hh, Lags, loopPhase] using hss

theorem inv_step {a : Act} (hs : Inv strict s)
    (hok : SuspendsSuspended s a ∧ (strict = true → ResumesRunning s a)) (h : step s a = some s') :
    Inv strict s' := by
  cases a with
  | receive c =>
    simp only [step, ite_none_right_eq_some, some.injEq] at h
    obtain ⟨hn, rfl⟩ := h
    refine ⟨hs.loops, hs.call, hs.cancelled, hs.flag, fun hp => ?_, hs.running⟩
    rcases hs.suspended hp with hl | hsa | ⟨hsr, hr | hw⟩
    · exact .inl hl
    · exact .inr (.inl hsa)
    · simp [hn] at hr
    · exact .inr (.inr ⟨hsr, .inr hw⟩)
  | handle =>
    obtain ⟨handler, hh, hst⟩ := bind_eq_some_iff.mp h
    refine inv_handle hs hh (fun hse => hok.1 ?_) (fun hsr hse => hok.2 hsr ?_) hst
    · rw [hh, hse]
    · rw [hh, hse]
  | loop i cho => exact inv_loop hs h
  | localInput =>
    obtain ⟨w, hst, rfl⟩ := map_eq_some_iff.mp h
    simp only [Lifecycle.step, ite_none_right_eq_some, some.injEq] at hst
    obtain ⟨-, rfl⟩ := hst
    exact inv_recordActivity hs s.handler

/-! ## 3. The state and the process -/

theorem Inv.consistent (hs : Inv strict s) (hr : AtRest s)
    (hsi : strict = false → s.switch.resumeCh = false) : Consistent s := by
  have hp : loopPhase s = .selecting := by
    unfold loopPhase
    cases hlo : s.switch.loops with
    | nil => rfl
    | cons p r => exact hr.2 p (by simp [hlo])
  constructor
  · intro hst
    by_contra hpr
    rcases hs.running (by simpa using hpr) with (hl | hl) | hne
    · simp [hp] at hl
    · simp [hp] at hl
    · exact hne hst
  intro hpr
  rcases hs.suspended hpr with (hl | hl) | hst | ⟨hsr, hw⟩
  · simp [hp] at hl
  · simp [hp] at hl
  · exact hst
  · simp [OnTheWay, hr.1, hsi hsr, hp] at hw

/-- **The state of a session tells whether its process is suspended.** If
every suspend command finds the process suspended, this holds whenever
nobody is in the middle of something and no resume signal is left; and if
every resume command finds it running, the signal does not matter. -/
theorem state_tells_process (watched : Bool) (acts : List Act) {s : Session}
    (hrun : run step (start watched) acts = some s)
    (hsuspend : Along step SuspendsSuspended (start watched) acts) (hrest : AtRest s) :
    (s.switch.resumeCh = false → Consistent s)
      ∧ (Along step ResumesRunning (start watched) acts → Consistent s) := by
  have hi : ∀ strict : Bool,
      Along step (fun s a => SuspendsSuspended s a ∧ (strict = true → ResumesRunning s a))
        (start watched) acts → Inv strict s :=
    fun strict hok =>
      run_invariant_along (fun _ _ _ => inv_step) (inv_start strict watched) hok hrun
  constructor
  · intro hs
    refine (hi false ?_).consistent hrest fun _ => hs
    exact hsuspend.imp fun _ _ h => ⟨h, nofun⟩
  intro hr
  refine (hi true ?_).consistent hrest nofun
  exact (along_and hsuspend hr).imp fun _ _ h => ⟨h.1, fun _ => h.2⟩

def switchSuspends : List Act :=
  [.loop 0 .tick, .loop 0 (.next true), .loop 0 (.next true), .loop 0 (.next true),
    .loop 0 .suspend, .loop 0 (.next true), .loop 0 (.next true), .loop 0 (.next true),
    .loop 0 (.next true), .loop 0 (.next true), .loop 0 (.next true)]

def switchResumes : List Act :=
  [.loop 0 .resume, .loop 0 (.next true), .loop 0 (.next true), .loop 0 (.next true),
    .loop 0 (.next true)]

theorem state_tells_process_resumed :
    ∃ s, run step (start true) (switchSuspends ++ [.receive .suspend, .handle, .handle,
        .receive .resume, .handle, .handle, .handle] ++ switchResumes) = some s
      ∧ AtRest s ∧ s.switch.resumeCh = false ∧ Consistent s := by
  refine ⟨_, rfl, ⟨rfl, by decide⟩, rfl,
    (state_tells_process true (switchSuspends ++ [.receive .suspend,
    .handle, .handle, .receive .resume, .handle, .handle, .handle] ++ switchResumes) rfl (by decide)
    ⟨rfl, by decide⟩).1 rfl⟩

/-- A suspend command that does not suspend the process; and a resume
command that leaves it suspended until the switch gets to it. -/
theorem state_misleads :
    (∃ s, run step (start true) [.receive .suspend, .handle, .handle] = some s
        ∧ AtRest s ∧ s.switch.resumeCh = false ∧ s.switch.state = .suspended ∧ s.process = false)
      ∧ ∃ s, run step (start true) (switchSuspends ++ [.receive .resume, .handle, .handle, .handle])
          = some s
        ∧ AtRest s ∧ s.switch.state = .running ∧ s.process = true := by
  refine ⟨⟨{ switch := { newSwitch with state := .suspended, loops := [.selecting] }
             process := false, handler := none }, ?_, ⟨rfl, by simp⟩, rfl, rfl, rfl⟩,
    ⟨{ switch := { newSwitch with suspended := true, resumeCh := true, loops := [.selecting] }
       process := true, handler := none }, ?_, ⟨rfl, by simp⟩, rfl, rfl⟩⟩ <;> decide

/-! ## 4. Activity and the process -/

inductive SysCall where
  | suspend
  | resume
  deriving DecidableEq

structure Watched where
  switch : Switch
  calls : List SysCall
  /-- a `RecordActivity` has returned since `suspended` was set last -/
  active : Bool
  deriving DecidableEq

def watched (state : SessionState) : Watched :=
  { switch := { newSwitch with state := state, loops := [.selecting] }, calls := [],
    active := false }

def callsAt : LoopPhase → List SysCall
  | .suspending => [.suspend]
  | .resuming => [.resume]
  | _ => []

inductive WatchAct where
  | loop (choice : Choice)
  | recordActivity
  /-- others set the session's state -/
  | setState (state : SessionState)
  deriving DecidableEq

def watchStep (w : Watched) : WatchAct → Option Watched
  | .loop choice => do
    let p ← w.switch.loops[0]?
    -- a system call succeeds
    if callsAt p ≠ [] ∧ choice = .next false then none
    else
      let switch ← Lifecycle.step w.switch (.loop 0 choice)
      some { switch := switch, calls := w.calls ++ callsAt p
             active := w.active && (w.switch.suspended || !switch.suspended) }
  | .recordActivity => (Lifecycle.step w.switch .recordActivity).map fun switch =>
      { w with switch := switch, active := true }
  | .setState state => some { w with switch := { w.switch with state := state } }

def rounds (n : Nat) : List SysCall := (List.replicate n [SysCall.suspend, .resume]).flatten

structure WatchInv (p : LoopPhase) (process : Bool) (w : Watched) : Prop where
  loops : w.switch.loops = [p]
  cancelled : w.switch.cancelled = false
  flag : FlagAt w.switch.suspended process p
  calls : ∃ n, w.calls = rounds n ++ if process then [.suspend] else []
  pending : w.switch.suspended = true → w.active = true →
    w.switch.resumeCh = true ∨ p = .resumeSignal

theorem watchInv_loop {w w' : Watched} {p : LoopPhase} {process : Bool} {c : Choice}
    (hw : WatchInv p process w) (h : watchStep w (.loop c) = some w') :
    ∃ p', WatchInv p' (processAfter process p) w' := by
  obtain ⟨hlo, hc, hf, ⟨n, hca⟩, hp⟩ := hw
  simp only [watchStep, hlo, getElem?_cons_zero, bind_eq_bind, bind_some] at h
  split at h
  · cases h
  obtain ⟨i', hs, h⟩ := bind_eq_some_iff.mp h
  cases h
  obtain ⟨q, switch, p', hq, hl, rfl⟩ := step_loop_eq_some.mp hs
  rw [hlo, getElem?_cons_zero, some_inj] at hq
  subst hq
  obtain ⟨hc', -, hd⟩ := loopStep_frame hl
  cases p' with
  | none => rw [hc] at hd; cases hd rfl
  | some p' =>
    refine ⟨p', by simp [hlo, moved], hc'.trans hc, ?_, ?_, ?_⟩
    · revert hl
      fun_cases loopStep w.switch p c <;> intro hl <;> cases hl
      all_goals cases process <;> simp_all [FlagAt, FlagFor, processAfter, callsAt]
    · cases p with
      | suspending =>
        obtain ⟨-, rfl⟩ := hf
        exact ⟨n, by simp [hca, callsAt, processAfter]⟩
      | resuming =>
        obtain ⟨-, rfl⟩ := hf
        exact ⟨n + 1, by simp [hca, callsAt, processAfter, rounds, replicate_succ']⟩
      | _ => exact ⟨n, (append_nil _).trans hca⟩
    -- the signal is not taken but to be acted upon, and setting the mark forgets the activity
    revert hl
    fun_cases loopStep w.switch p c <;> intro hl <;> cases hl
    all_goals simp_all [FlagAt, FlagFor, callsAt]

theorem watchInv_step {w w' : Watched} {a : WatchAct} (hw : ∃ p r, WatchInv p r w)
    (h : watchStep w a = some w') : ∃ p r, WatchInv p r w' := by
  obtain ⟨p, r, hw⟩ := hw
  cases a with
  | loop c =>
    obtain ⟨p', hw'⟩ := watchInv_loop hw h
    exact ⟨p', _, hw'⟩
  | recordActivity =>
    obtain ⟨i, hs, rfl⟩ := map_eq_some_iff.mp h
    simp only [Lifecycle.step, ite_none_right_eq_some, some.injEq] at hs
    obtain ⟨-, rfl⟩ := hs
    exact ⟨p, r, { hw with
      pending := fun hsu _ => .inl (by simpa [recordActivity] using .inr hsu) }⟩
  | setState t =>
    cases h
    exact ⟨p, r, { hw with }⟩

/-- **Activity is not lost.** The process is suspended and resumed in turn,
and activity since the switch was marked suspended has left a signal that
is in the channel or about to be acted upon. -/
theorem activity_resumes (state : SessionState) (acts : List WatchAct) (w : Watched)
    (hrun : run watchStep (watched state) acts = some w) :
    (∃ n, w.calls <+: rounds n)
      ∧ (w.switch.suspended = true → w.active = true →
        w.switch.resumeCh = true ∨ w.switch.loops = [.resumeSignal]) := by
  have hs : WatchInv .selecting false (watched state) := ⟨rfl, rfl, rfl, ⟨0, rfl⟩, nofun⟩
  obtain ⟨p, process, hw⟩ := run_invariant (fun _ _ _ => watchInv_step) ⟨_, _, hs⟩ hrun
  obtain ⟨n, hc⟩ := hw.calls
  refine ⟨⟨n + 1, ?_⟩, fun hsu ha => ?_⟩
  · rw [hc, rounds, rounds, replicate_succ', flatten_append, prefix_append_right_inj]
    cases process <;> simp
  rw [hw.loops, cons.injEq]
  simpa using hw.pending hsu ha

/-- Activity right after the process was suspended. -/
theorem activity_resumes_suspended :
    let w : Watched := { switch := { newSwitch with
        state := .detached, suspended := true, resumeCh := true, loops := [.lookup .onSuspend] }
                         calls := [.suspend], active := true }
    run watchStep (watched .detached) ([.loop .tick, .loop (.next true), .loop (.next true),
        .loop (.next true), .loop .suspend, .loop (.next true), .loop (.next true),
        .loop (.next true), .loop (.next true), .recordActivity]) = some w
      ∧ (w.switch.resumeCh = true ∨ w.switch.loops = [.resumeSignal]) := by
  refine (fun hr => ⟨hr, (activity_resumes .detached _ _ hr).2 rfl rfl⟩) ?_
  decide

end Daao.Lifecycle.Suspension

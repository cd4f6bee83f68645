/-
Daao.Lifecycle.IdleTimeout — when the Dead Man's Switch suspends and
resumes, with the clock and with system calls that fail (`checkAndSuspend`,
`doSuspend`, `doResume` and `RecordActivity` in `pkg/lifecycle/dms.go`,
`getDMSTTL` in `cmd/daao/daemon.go`).

The idle time is read in one turn of the loop, and the process is suspended
in another, which looks at the state again but not at the clock. `doResume`
clears the mark before its call, and does not set it again if that fails.
-/
import Daao.Lib.GoTime
import Daao.Lifecycle.Suspension

namespace Daao.Lifecycle.IdleTimeout

open Daao.Lib Daao.Sessions Suspension Switch Option GoTime

/-! ## 1. The switch with its clock -/

/-- `scanned` is what `Sscanf` reads of `DAAO_DMS_TTL`, in minutes. -/
def getDMSTTL : Option Int → Int
  | some ttl => if ttl > 0 then ttl else 60
  | none => 60

structure Timed where
  switch : Switch
  /-- the process is suspended -/
  process : Bool
  /-- in nanoseconds -/
  now : Int
  lastActivity : Int
  /-- what `checkAndSuspend` has found about the idle time -/
  idle : Bool
  deriving DecidableEq

def start (state : SessionState) : Timed :=
  { switch := { newSwitch with state := state, loops := [.selecting] }, process := false
    now := 0, lastActivity := 0, idle := false }

inductive Act where
  /-- `.next` carries whether a system call succeeds -/
  | loop (choice : Choice)
  | recordActivity
  | setState (state : SessionState)
  | wait (nanoseconds : Nat)
  deriving DecidableEq

/-- `time.Since`, which is at most the longest duration. -/
def Timed.idleTime (w : Timed) : Int := min (w.now - w.lastActivity) (2 ^ 63 - 1)

def step (ttl : Int) (w : Timed) : Act → Option Timed
  | .loop choice => do
    let p ← w.switch.loops[0]?
    if p = .found .check ∧ choice ≠ .next w.idle then none
    else
      let switch ← Lifecycle.step w.switch (.loop 0 choice)
      some { w with
        switch := switch
        -- a call that fails leaves the process as it was
        process := if choice = .next false then w.process else processAfter w.process p
        idle := if p = .tick then decide (minutesDuration ttl ≤ w.idleTime) else w.idle
        lastActivity := if p = .resumeSignal ∧ w.switch.suspended then w.now else w.lastActivity }
  | .recordActivity => (Lifecycle.step w.switch .recordActivity).map fun switch =>
      { w with switch := switch, lastActivity := w.now }
  | .setState state => some { w with switch := { w.switch with state := state } }
  | .wait nanoseconds => some { w with now := w.now + nanoseconds }

variable {ttl : Int} {w w' : Timed} {p : LoopPhase} {choice : Choice}

theorem step_loop_cases (hl : w.switch.loops = [p]) (hc : w.switch.cancelled = false)
    (h : step ttl w (.loop choice) = some w') :
    ∃ switch p', w.switch.loopStep p choice = some (switch, some p') ∧
      switch.cancelled = false ∧ (p = .found .check → choice = .next w.idle) ∧
      w' = { w with
        switch := { switch with loops := [p'] }
        process := if choice = .next false then w.process else processAfter w.process p
        idle := if p = .tick then decide (minutesDuration ttl ≤ w.idleTime) else w.idle
        lastActivity := if p = .resumeSignal ∧ w.switch.suspended then w.now
          else w.lastActivity } := by
  simp only [step, hl, List.getElem?_cons_zero, bind_eq_bind, bind_some] at h
  split at h
  · cases h
  rename_i hi
  obtain ⟨s', hs, h⟩ := bind_eq_some_iff.mp h
  cases h
  obtain ⟨q, switch, p', hq, hlo, rfl⟩ := step_loop_eq_some.mp hs
  rw [hl, List.getElem?_cons_zero, some_inj] at hq
  subst hq
  obtain ⟨hc', -, hd⟩ := loopStep_frame hlo
  cases p' with
  | none => rw [hc] at hd; cases hd rfl
  | some p' =>
    refine ⟨switch, p', hlo, hc'.trans hc, fun hp => by_contra fun hne => hi ⟨hp, hne⟩, ?_⟩
    simp [hl, moved]

theorem step_recordActivity_eq_some (h : step ttl w .recordActivity = some w') :
    w' = { w with switch := w.switch.recordActivity, lastActivity := w.now } := by
  obtain ⟨switch, hs, rfl⟩ := map_eq_some_iff.mp h
  simp only [Lifecycle.step, ite_none_right_eq_some, some.injEq] at hs
  rw [hs.2]

/-! ## 2. The mark and the process -/

/-- The action is not a call that fails to resume the process. -/
def resumeObeys (w : Timed) (a : Act) : Bool :=
  a ≠ .loop (.next false) || w.switch.loops ≠ [.resuming]

structure MarkInv (w : Timed) (p : LoopPhase) : Prop where
  loops : w.switch.loops = [p]
  cancelled : w.switch.cancelled = false
  flag : FlagAt w.switch.suspended w.process p

theorem markInv_step {a : Act} (hw : ∃ p, MarkInv w p) (hok : resumeObeys w a = true)
    (h : step ttl w a = some w') : ∃ p, MarkInv w' p := by
  obtain ⟨p, hl, hc, hf⟩ := hw
  cases a with
  | loop choice =>
    obtain ⟨switch, p', hlo, hc', -, rfl⟩ := step_loop_cases hl hc h
    refine ⟨p', rfl, hc', ?_⟩
    revert hlo
    fun_cases loopStep w.switch p choice <;> intro hlo <;> cases hlo
    all_goals cases hp : w.process <;> simp_all [FlagAt, FlagFor, processAfter, resumeObeys]
  | recordActivity =>
    rw [step_recordActivity_eq_some h]
    exact ⟨p, hl, hc, hf⟩
  | setState s | wait n =>
    cases h
    exact ⟨p, hl, hc, hf⟩

/-- If no call that resumes the process fails, the mark says between the
turns of the loop whether the process is suspended, and activity leads to
its being resumed. -/
theorem mark_tells_process (ttl : Int) (state : SessionState) (acts : List Act) (w : Timed)
    (hok : Along (step ttl) (fun w a => resumeObeys w a) (start state) acts)
    (hrun : run (step ttl) (start state) acts = some w) (hrest : w.switch.loops = [.selecting]) :
    w.switch.suspended = w.process ∧
      (w.process = true → ∃ w',
        run (step ttl) w [.recordActivity, .loop .resume, .loop (.next true),
        .loop (.next true)] = some w' ∧ w'.process = false) := by
  have hs : MarkInv (start state) .selecting := ⟨rfl, rfl, rfl⟩
  obtain ⟨p, hl, -, hf⟩ := run_invariant_along (fun _ _ _ => markInv_step) ⟨_, hs⟩ hok hrun
  cases hrest.symm.trans hl
  refine ⟨hf, fun hp => ?_⟩
  have hsu : w.switch.suspended = true := hf.trans hp
  simp [run, step, Lifecycle.step, muFree, hrest, recordActivity, loopStep,
    hsu, moved, LoopPhase.holdsMu, processAfter]

/-- The steps by which an idle session's process is suspended. -/
def suspends : List Act :=
  [.wait 60000000000, .loop .tick, .loop (.next true), .loop (.next true), .loop (.next true),
    .loop .suspend, .loop (.next true), .loop (.next true), .loop (.next true)]

/-- The process cannot be suspended at first. -/
theorem mark_tells_process_suspended :
    let w : Timed :=
      { switch := { newSwitch with state := .suspended, suspended := true, loops := [.selecting] }
        process := true, now := 60000000000, lastActivity := 0, idle := true }
    run (step 1) (start .detached) (suspends ++ [.loop (.next false)] ++ suspends.tail ++
        [.loop (.next true), .loop (.next true), .loop (.next true)]) = some w ∧
      w.switch.suspended = w.process := by
  refine (fun hr => ⟨hr, (mark_tells_process 1 .detached _ _ (by decide) hr rfl).1⟩) ?_
  decide

/-- It cannot be resumed. It stays suspended, without the mark, so that
activity leaves no signal. -/
theorem resume_fails :
    let acts := suspends ++ [.loop (.next true), .loop (.next true), .loop (.next true),
      .recordActivity, .loop .resume, .loop (.next true), .loop (.next false), .recordActivity]
    (run (step 1) (start .detached) acts).map
        (fun w => (w.switch.loops, w.process, w.switch.suspended, w.switch.resumeCh))
      = some ([.selecting], true, false, false) := by
  decide

/-! ## 3. The idle time -/

/-- The loop is on its way to suspend the process. -/
def Timed.deciding (w : Timed) : LoopPhase → Bool
  | .lookup .check | .found .check => w.idle || w.switch.suspendCh
  | .suspendSignal | .lookup .suspend | .found .suspend | .suspending => true
  | _ => w.switch.suspendCh

/-- No activity is recorded between the reading of the idle time and the
call, and the session does not become RUNNING right before the call. -/
def undisturbed (w : Timed) : Act → Bool
  | .recordActivity => w.switch.loops.all fun p => !w.deciding p
  | .setState state => w.switch.loops ≠ [.suspending] || state ≠ .running
  | _ => true

/-- Nothing resumes while a signal to suspend is there. -/
def Signalled (suspended suspendCh : Bool) : LoopPhase → Prop
  | .lookup .check | .found .check => suspended = false
  | .suspendSignal | .lookup .suspend | .found .suspend | .suspending | .lookup .onSuspend
  | .found .onSuspend => suspendCh = false
  | _ => suspendCh = true → suspended = false

structure IdleInv (ttl : Int) (w : Timed) (p : LoopPhase) : Prop where
  loops : w.switch.loops = [p]
  cancelled : w.switch.cancelled = false
  signalled : Signalled w.switch.suspended w.switch.suspendCh p
  idle : w.deciding p = true → ttl * 60000000000 ≤ w.now - w.lastActivity
  state : p = .suspending → w.switch.state ≠ .running

theorem idle_of_duration (hp : 0 < ttl) (hf : ttl * 60000000000 < 2 ^ 63)
    (h : minutesDuration ttl ≤ w.idleTime) : ttl * 60000000000 ≤ w.now - w.lastActivity := by
  have hd : minutesDuration ttl = ttl * 60000000000 := by
    simp only [minutesDuration, wrapInt64]
    omega
  rw [hd, Timed.idleTime] at h
  omega

theorem idleInv_step {a : Act} (hpo : 0 < ttl) (hf : ttl * 60000000000 < 2 ^ 63)
    (hw : ∃ p, IdleInv ttl w p) (hok : undisturbed w a = true) (h : step ttl w a = some w') :
    ∃ p, IdleInv ttl w' p := by
  obtain ⟨p, hl, hc, hs, hi, hst⟩ := hw
  cases a with
  | loop choice =>
    obtain ⟨switch, p', hlo, hc', hch, rfl⟩ := step_loop_cases hl hc h
    have hr := idle_of_duration (w := w) hpo hf
    refine ⟨p', rfl, hc', ?_, ?_, ?_⟩
    all_goals
      revert hlo
      fun_cases loopStep w.switch p choice <;> intro hlo <;> cases hlo
      all_goals cases hsu : w.switch.suspended
      -- the phase that follows depends on the outcome, or on what is looked up
      all_goals try cases ‹Purpose›
      all_goals try cases ‹Bool›
      all_goals simp_all [Signalled, Timed.deciding]
    all_goals exact fun hr' => hr'.elim hr hi
  | recordActivity =>
    rw [step_recordActivity_eq_some h]
    refine ⟨p, hl, hc, hs, fun hd => ?_, hst⟩
    have hq : w.deciding p = false := by simpa [undisturbed, hl] using hok
    cases hq.symm.trans hd
  | setState s =>
    cases h
    refine ⟨p, hl, hc, hs, hi, fun hp => ?_⟩
    simpa [undisturbed, hl, hp] using hok
  | wait n =>
    cases h
    refine ⟨p, hl, hc, hs, fun hd => ?_, hst⟩
    have hle := hi hd
    simp only
    omega

/-- If the duration does not wrap around and nothing comes between the
check and the call, the process of a session is suspended only while the
session is not RUNNING and has been idle for the configured time. -/
theorem suspends_only_idle (scanned : Option Int) (state : SessionState) (acts : List Act)
    (w : Timed)
    (hfit : getDMSTTL scanned * 60000000000 < 2 ^ 63)
    (hok : Along (step (getDMSTTL scanned)) (fun w a => undisturbed w a) (start state) acts)
    (hrun : run (step (getDMSTTL scanned)) (start state) acts = some w)
    (hcall : w.switch.loops = [.suspending]) :
    w.switch.state ≠ .running ∧ getDMSTTL scanned * 60000000000 ≤ w.now - w.lastActivity := by
  have hp : 0 < getDMSTTL scanned := by
    unfold getDMSTTL
    split
    · split <;> omega
    · decide
  have hs : IdleInv (getDMSTTL scanned) (start state) .selecting := by
    constructor <;> simp [start, newSwitch, Signalled, Timed.deciding]
  obtain ⟨p, hw⟩ := run_invariant_along (fun _ _ _ => idleInv_step hp hfit) ⟨_, hs⟩ hok hrun
  cases hcall.symm.trans hw.loops
  exact ⟨hw.state rfl, hw.idle rfl⟩

theorem suspends_only_idle_minute :
    let w : Timed :=
      { switch := { newSwitch with state := .detached, suspended := true, loops := [.suspending] }
        process := false, now := 60000000000, lastActivity := 0, idle := true }
    run (step 1) (start .detached) suspends = some w ∧ 60000000000 ≤ w.now - w.lastActivity := by
  refine (fun hr => ⟨hr, (suspends_only_idle (some 1) .detached suspends _ (by decide)
    (by decide) hr rfl).2⟩) ?_
  decide

/-- Activity comes after the check: the call is made when the session has
not been idle at all. With a TTL of 153722868 minutes the duration is
negative, and the call is made at once. -/
theorem suspends_active :
    (run (step 1) (start .detached) (suspends.take 5 ++ .recordActivity :: suspends.drop 5)).map
        (fun w => (w.switch.loops, w.now - w.lastActivity)) = some ([.suspending], 0) ∧
    (run (step (getDMSTTL (some 153722868))) (start .detached) suspends.tail).map
        (fun w => (w.switch.loops, w.now - w.lastActivity)) = some ([.suspending], 0) := by
  decide

end Daao.Lifecycle.IdleTimeout

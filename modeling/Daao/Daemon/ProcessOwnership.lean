/-
Daao.Daemon.ProcessOwnership — whether the daemon can still reach what it
has started, and when it reports an id TERMINATED (`cmd/daao/daemon.go`).

`Daao.Daemon.Processes` takes a command, and the last steps of a process's
goroutine, as one step each. Here both are split where another goroutine
can come between:

* a start or deploy command starts its process first, and registers it
  later (`register`); that is also when the process's goroutine is
  started. Commands are handled one after the other;
* the goroutine of a process that has exited marks the session of its id,
  or removes the bridge of its id (`reap`), and queues the TERMINATED
  update after that (`report`).

`updates` are the ids whose TERMINATED update an act queues: a command that
fails, a kill, and the goroutine of a process. The two acts of a command
are the handler of `Daao.Daemon.Processes` (`register_begin`).
-/
import Daao.Daemon.ProcessesTheorems

namespace Daao.Daemon.Ownership

open Daao.Lib Daao.Daemon.Processes List Option

/-! ## 1. The steps -/

structure State where
  daemon : Processes
  /-- the process of the command that is being handled, before it is
  registered -/
  handling : Option Nat
  /-- the processes whose goroutine has yet to queue its update -/
  reporting : List Nat

def start : State := { daemon := Processes.start, handling := none, reporting := [] }

inductive Act where
  /-- `ok` says whether the process starts -/
  | startSession (sessionID : String) (ok : Bool)
  | deployAgent (sessionID : String) (ok : Bool)
  | register
  | kill (sessionID : String)
  | exit (pid : Nat)
  | reap (pid : Nat)
  | report (pid : Nat)

def begin (s : State) (sessionID : String) (kind : ProcessKind) (ok : Bool) : Option State :=
  if s.handling ≠ none then none
  else if ok then
    some { s with
      daemon := s.daemon.spawn sessionID kind, handling := some s.daemon.procs.length }
  else some s

def registerSession (d : Processes) (pid : Nat) (p : Process) (h : d.procs[pid]? = some p) :
    Processes :=
  { d with
    sessions := d.sessions.put { id := p.session, pid := pid, state := .running }
    owned := by
      intro sess hsess q hq
      rcases List.mem_append.mp hsess with hsess | hsess
      · exact d.owned sess (List.mem_filter.mp hsess).1 q hq
      cases List.mem_singleton.mp hsess
      rw [h, Option.some_inj] at hq
      rw [hq]
    started := by
      intro sess hsess
      rcases List.mem_append.mp hsess with hsess | hsess
      · exact d.started sess (List.mem_filter.mp hsess).1
      cases List.mem_singleton.mp hsess
      exact (List.getElem?_eq_some_iff.mp h).1 }

/-- A bridge that is registered under the id is stopped and replaced. -/
def registerBridge (d : Processes) (pid : Nat) (p : Process) : Processes :=
  let d' := match d.bridges p.session with
    | none => d
    | some old => d.halt old
  { d' with bridges := Function.update d'.bridges p.session (some pid) }

def register (s : State) (pid : Nat) : Option State :=
  match h : s.daemon.procs[pid]? with
  | none => none
  | some p =>
    let daemon := match p.kind with
      | .pty => registerSession s.daemon pid p h
      | .pi => registerBridge s.daemon pid p
    some { s with daemon := daemon, handling := none }

/-- `handleKillCommand`: `Close` waits for the goroutine, its update
included. -/
def kill (s : State) (sessionID : String) : Option State :=
  if s.handling ≠ none then none
  else
    match s.daemon.sessions.find? sessionID with
    | none => some s
    | some sess =>
      some { s with
        daemon := s.daemon.handleKillCommand sessionID
        reporting := s.reporting.filter fun pid => pid ≠ sess.pid }

/-- The goroutine's cleanup; it is started with the registration. -/
def reap (s : State) (pid : Nat) : Option State :=
  match s.daemon.procs[pid]? with
  | none => none
  | some p =>
    if p.running ∨ p.reaped ∨ s.handling = some pid then none
    else some { s with daemon := s.daemon.reap pid p, reporting := s.reporting ++ [pid] }

def report (s : State) (pid : Nat) : Option State :=
  if pid ∈ s.reporting then
    some { s with reporting := s.reporting.filter fun other => other ≠ pid }
  else none

def step (s : State) : Act → Option State
  | .startSession sessionID ok => begin s sessionID .pty ok
  | .deployAgent sessionID ok => begin s sessionID .pi ok
  | .register => s.handling.bind (register s)
  | .kill sessionID => kill s sessionID
  | .exit pid => some { s with daemon := s.daemon.halt pid }
  | .reap pid => reap s pid
  | .report pid => report s pid

def sessionOf (s : State) (pid : Nat) : Option String :=
  (s.daemon.procs[pid]?).map Process.session

def updates (s : State) : Act → List String
  | .startSession sessionID ok | .deployAgent sessionID ok => if ok then [] else [sessionID]
  | .kill sessionID => if (s.daemon.sessions.find? sessionID).isSome then [sessionID] else []
  | .report pid => (sessionOf s pid).toList
  | _ => []

/-! ## 2. What is wanted -/

/-- A process is in one of the maps under its id, or its command is still
being handled. -/
def Reachable (s : State) (pid : Nat) (sessionID : String) : Prop :=
  (∃ sess, s.daemon.sessions.find? sessionID = some sess ∧ sess.pid = pid)
    ∨ s.daemon.bridges sessionID = some pid ∨ s.handling = some pid

def Owned (s : State) : Prop :=
  ∀ pid sessionID, s.daemon.Runs pid sessionID → Reachable s pid sessionID

/-- No process of an id runs when the id is reported TERMINATED. -/
def Truthful (s : State) (a : Act) : Prop :=
  ∀ s' ∈ step s a, ∀ sessionID ∈ updates s a, ∀ pid, ¬ s'.daemon.Runs pid sessionID

/-! ## 3. Two acts of a command -/

theorem register_begin (s : State) (hf : s.handling = none) (sessionID : String)
    (kind : ProcessKind) :
    ((begin s sessionID kind true).bind fun s' => step s' .register).map State.daemon
      = some (match kind with
        | .pty => s.daemon.handleStartSessionCommand sessionID true
        | .pi => s.daemon.handleDeployAgentCommand sessionID true) := by
  have hne : (s.daemon.spawn sessionID kind).procs[s.daemon.procs.length]?
      = some { session := sessionID, kind := kind, running := true, reaped := false } := by
    simp [spawn]
  simp only [step, begin, hf, ne_eq, not_true_eq_false, if_false, if_true, bind_some, register]
  split
  · rename_i hn
    simp [hn] at hne
  rename_i p hp
  rw [hp, some_inj] at hne
  subst hne
  cases kind <;> rfl

/-! ## 4. What spaced commands keep -/

/-- A command for an id comes when no process of the id runs, and one that
succeeds when their goroutines are done too; a kill that finds a session
comes when the id's bridge does not run. -/
def Spaced (s : State) : Act → Prop
  | .startSession sessionID ok | .deployAgent sessionID ok =>
    (∀ p ∈ s.daemon.procs, p.session = sessionID →
        p.running = false ∧ (ok = true → p.reaped = true))
      ∧ (ok = true → ∀ pid ∈ s.reporting, sessionOf s pid ≠ some sessionID)
  | .kill sessionID =>
    s.daemon.sessions.find? sessionID ≠ none →
      ∀ pid ∈ s.daemon.bridges sessionID, ∀ p ∈ s.daemon.procs[pid]?, p.running = false
  | _ => True

instance (s : State) (a : Act) : Decidable (Spaced s a) := by
  unfold Spaced
  split <;> infer_instance

def Done (s : State) (pid : Nat) (p : Process) : Prop :=
  p.reaped = true ∧ pid ∉ s.reporting

variable {pid : Nat} {p : Process} {s s' : State}

theorem not_done (h : p.reaped = false) :
    ¬ Done s pid p := fun hd => by
  have hr := hd.1
  simp [h] at hr

structure Inv (s : State) : Prop where
  owned : Owned s
  reaped : ∀ (pid : Nat) (p : Process), s.daemon.procs[pid]? = some p → p.reaped = true →
    p.running = false
  reporting : ∀ pid ∈ s.reporting, ∃ p, s.daemon.procs[pid]? = some p ∧ p.reaped = true
  handling : ∀ pid, s.handling = some pid →
    ∃ p, s.daemon.procs[pid]? = some p ∧ p.reaped = false
  /-- all processes of an id but one are done -/
  alone : ∀ (pid pid' : Nat) (p p' : Process), s.daemon.procs[pid]? = some p →
    s.daemon.procs[pid']? = some p' → p.session = p'.session → pid ≠ pid' →
    Done s pid p ∨ Done s pid' p'

theorem inv_start : Inv start := by
  constructor <;> simp [Owned, Runs, start, Processes.start]

theorem Inv.not_runs (hs : Inv s) {pid' : Nat}
    (hp : s.daemon.procs[pid]? = some p) (hd : ¬ Done s pid p) (hne : pid' ≠ pid) :
    ¬ s.daemon.Runs pid' p.session := by
  rintro ⟨p', hp', hse, hr⟩
  rcases hs.alone pid' pid p' p hp' hp hse hne with h | h
  · rw [hs.reaped pid' p' hp' h.1] at hr
    cases hr
  · exact hd h

/-- Every act but the start of a process changes one process at most. One
that still runs is as it was, and one that was reaped still is. -/
theorem Inv.modify (hs : Inv s) {t : Nat} {g : Process → Process}
    (hpr : s'.daemon.procs = s.daemon.procs.modify t g)
    (hg : ∀ p, s.daemon.procs[t]? = some p → (g p).session = p.session ∧
      (p.reaped = true → (g p).reaped = true) ∧
      ((g p).running = true → p.running = true ∧ (g p).reaped = p.reaped))
    (hre : ∀ pid ∈ s'.reporting, pid ∈ s.reporting ∨ pid = t ∧
      ∃ p, s.daemon.procs[t]? = some p ∧ p.reaped = false ∧ (g p).reaped = true)
    (hh : ∀ pid, s'.handling = some pid → s.handling = some pid ∧
      (t = pid → ∀ p, (g p).reaped = p.reaped)) (ho : Owned s') : Inv s' := by
  have hon : ∀ pid (p : Process), s.daemon.procs[pid]? = some p →
      (if t = pid then g p else p).session = p.session ∧
      (p.reaped = true → (if t = pid then g p else p).reaped = true) ∧
      ((if t = pid then g p else p).running = true →
        p.running = true ∧ (if t = pid then g p else p).reaped = p.reaped) := by grind
  have hd : ∀ pid (p : Process), s.daemon.procs[pid]? = some p → Done s pid p →
      Done s' pid (if t = pid then g p else p) := by
    refine fun pid p hp hd => ⟨(hon pid p hp).2.1 hd.1, fun hm => ?_⟩
    obtain hold | ⟨rfl, q, hq, hr, -⟩ := hre pid hm
    · exact hd.2 hold
    rw [← some_inj.mp (hp.symm.trans hq), hd.1] at hr
    cases hr
  refine ⟨ho, fun pid q hq hr => ?_, fun pid hpi => ?_, fun pid hpi => ?_,
    fun pid pid' q q' hq hq' hse hne => ?_⟩
  · grind [hs.reaped]
  · grind [hs.reporting]
  · grind [hs.handling]
  · grind [hs.alone]

theorem Inv.of_procs (hs : Inv s) (hp : s'.daemon.procs = s.daemon.procs)
    (hr : s'.reporting ⊆ s.reporting)
    (hh : ∀ pid, s'.handling = some pid → s.handling = some pid) (ho : Owned s') :
    Inv s' :=
  hs.modify (t := 0) (g := fun p => p) (hp.trans (modify_id ..).symm) (by simp)
    (fun _ h => .inl (hr h)) (fun pid h => ⟨hh pid h, fun _ _ => rfl⟩) ho

theorem Inv.of_halt (hs : Inv s) {old : Nat} (hp : s'.daemon.procs = (s.daemon.halt old).procs)
    (hr : s'.reporting = s.reporting)
    (hh : ∀ pid, s'.handling = some pid → s.handling = some pid) (ho : Owned s') :
    Inv s' :=
  hs.modify hp (by simp) (fun _ h => .inl (hr ▸ h)) (fun pid h => ⟨hh pid h, fun _ _ => rfl⟩) ho

/-! ## 5. The acts -/

variable {ok : Bool} {kind : ProcessKind} {sessionID : String}

theorem begin_eq_some (h : begin s sessionID kind ok = some s') :
    s.handling = none ∧ (ok = false ∧ s' = s
      ∨ ok = true ∧ s' = { s with
          daemon := s.daemon.spawn sessionID kind, handling := some s.daemon.procs.length }) := by
  unfold begin at h
  split at h
  · cases h
  · grind

theorem getElem?_spawn {d : Processes} (h : (d.spawn sessionID kind).procs[pid]? = some p) :
    d.procs[pid]? = some p
      ∨ pid = d.procs.length
        ∧ p = { session := sessionID, kind := kind, running := true, reaped := false } := by
  simp only [spawn, getElem?_append, getElem?_singleton] at h
  split at h
  · exact .inl h
  · grind

theorem inv_spawn (hs : Inv s) (hf : s.handling = none)
    (hpr : ∀ p ∈ s.daemon.procs, p.session = sessionID → p.reaped = true)
    (hrp : ∀ pid ∈ s.reporting, sessionOf s pid ≠ some sessionID) (kind : ProcessKind) :
    Inv { s with
      daemon := s.daemon.spawn sessionID kind, handling := some s.daemon.procs.length } := by
  have hold : ∀ (pid : Nat) (p : Process), s.daemon.procs[pid]? = some p →
      (s.daemon.spawn sessionID kind).procs[pid]? = some p := by
    intro pid p hp
    rw [spawn, getElem?_append_left (List.getElem?_eq_some_iff.mp hp).1, hp]
  -- a process of the id that was there is done
  have hd : ∀ pid (p : Process), s.daemon.procs[pid]? = some p →
      p.session = sessionID → Done s pid p := by
    intro pid p hp hse
    refine ⟨hpr p (mem_of_getElem? hp) hse, fun hm => hrp pid hm ?_⟩
    rw [sessionOf, hp, map_some, hse]
  refine ⟨?_, ?_, ?_, ?_, ?_⟩
  · intro pid sid hr
    rcases (runs_spawn s.daemon pid sessionID sid kind).mp hr with hr | ⟨rfl, -⟩
    · rcases hs.owned pid sid hr with h | h | h
      · exact .inl h
      · exact .inr (.inl h)
      · simp [hf] at h
    · exact .inr (.inr rfl)
  · intro pid p hp hre
    rcases getElem?_spawn hp with hp | ⟨-, rfl⟩
    · exact hs.reaped pid p hp hre
    · cases hre
  · grind [hs.reporting]
  · intro pid hpi
    cases hpi
    exact ⟨_, getElem?_concat_length, rfl⟩
  intro pid pid' p p' hp hp' hse hne
  rcases getElem?_spawn hp with hp | ⟨rfl, rfl⟩
  · rcases getElem?_spawn hp' with hp' | ⟨rfl, rfl⟩
    · exact hs.alone pid pid' p p' hp hp' hse hne
    · exact .inl (hd pid p hp hse)
  rcases getElem?_spawn hp' with hp' | ⟨rfl, rfl⟩
  · exact .inr (hd pid' p' hp' hse.symm)
  · exact absurd rfl hne

theorem owned_register (hs : Inv s)
    (hp : s.daemon.procs[pid]? = some p) (hd : ¬ Done s pid p) (hin : s.handling = some pid)
    (hr : ∀ pid' sid, s'.daemon.Runs pid' sid → s.daemon.Runs pid' sid)
    (hre : ∀ pid' sid, sid ≠ p.session → s.handling ≠ some pid' → Reachable s pid' sid →
      Reachable s' pid' sid) (hn : Reachable s' pid p.session) : Owned s' := by
  intro pid' sid h
  have hold := hr pid' sid h
  by_cases hpi : pid' = pid
  · subst hpi
    obtain ⟨q, hq, hse, -⟩ := hold
    rw [hp, some_inj] at hq
    rw [← hse, ← hq]
    exact hn
  have hsi : sid ≠ p.session := by
    rintro rfl
    exact hs.not_runs hp hd hpi hold
  refine hre pid' sid hsi ?_ (hs.owned pid' sid hold)
  rw [hin, Ne, some_inj]
  exact fun heq => hpi heq.symm

section

variable {d : Processes} {pid : Nat} {p : Process}

theorem sessions_registerBridge : (registerBridge d pid p).sessions = d.sessions := by
  unfold registerBridge
  cases d.bridges p.session <;> rfl

theorem bridges_registerBridge :
    (registerBridge d pid p).bridges = Function.update d.bridges p.session (some pid) := by
  unfold registerBridge
  cases d.bridges p.session <;> rfl

theorem runs_of_registerBridge {pid' : Nat} {sid : String}
    (h : (registerBridge d pid p).Runs pid' sid) : d.Runs pid' sid := by
  unfold registerBridge at h
  cases hold : d.bridges p.session with
  | none =>
    rw [hold] at h
    exact h
  | some old =>
    rw [hold] at h
    exact ((runs_halt d old pid' sid).mp h).1

theorem procs_reap : (d.reap pid p).procs = (d.markReaped pid).procs := by
  unfold Processes.reap
  cases p.kind <;> rfl

theorem runs_of_reap {pid' : Nat} {sid : String} (h : (d.reap pid p).Runs pid' sid) :
    d.Runs pid' sid := by
  rw [Runs, procs_reap] at h
  exact (runs_markReaped d pid pid' sid).mp h

end

theorem inv_register (hs : Inv s) (hin : s.handling = some pid) (h : register s pid = some s') :
    Inv s' := by
  obtain ⟨p, hp, hr⟩ := hs.handling pid hin
  have hd : ¬ Done s pid p := not_done hr
  unfold register at h
  split at h
  · cases h
  rename_i p' hp'
  obtain rfl : p' = p := some_inj.mp (hp'.symm.trans hp)
  cases h
  cases hk : p'.kind with
  | pty =>
    refine hs.of_procs rfl (fun _ h => h) (by simp) ?_
    refine owned_register hs hp hd hin (fun _ _ h => h) (fun pid' sid hsi hn => ?_)
      (.inl ⟨{ id := p'.session, pid := pid, state := .running }, ?_, rfl⟩)
    · rintro (⟨sess, hf, hpi⟩ | h | h)
      · refine .inl ⟨sess, ?_, hpi⟩
        simp only [registerSession, Table.find?_put, if_neg hsi, hf]
      · exact .inr (.inl h)
      · exact absurd h hn
    · simp [registerSession, Table.find?_put]
  | pi =>
    have ho : Owned { s with daemon := registerBridge s.daemon pid p', handling := none } := by
      refine owned_register hs hp hd hin (fun _ _ => runs_of_registerBridge)
        (fun pid' sid hsi hn => ?_) (.inr (.inl ?_))
      · rintro (h | h | h)
        · exact .inl (by simpa only [sessions_registerBridge] using h)
        · refine .inr (.inl ?_)
          simpa only [bridges_registerBridge, Function.update_of_ne hsi] using h
        · exact absurd h hn
      · simp only [bridges_registerBridge, Function.update_self]
    unfold registerBridge at ho ⊢
    cases hold : s.daemon.bridges p'.session with
    | none => grind [hs.of_procs]
    | some old =>
      rw [hold] at ho
      exact hs.of_halt rfl rfl (by simp) ho

theorem inv_exit (hs : Inv s) (pid : Nat) : Inv { s with daemon := s.daemon.halt pid } := by
  refine hs.of_halt rfl rfl (fun _ h => h) fun pid' sid hr => ?_
  exact hs.owned pid' sid ((runs_halt s.daemon pid pid' sid).mp hr).1

theorem reap_eq_some (h : reap s pid = some s') :
    ∃ p, s.daemon.procs[pid]? = some p ∧ p.running = false ∧ p.reaped = false
      ∧ s.handling ≠ some pid
      ∧ s' = { s with daemon := s.daemon.reap pid p, reporting := s.reporting ++ [pid] } := by
  unfold reap at h
  split at h
  · cases h
  · grind

theorem inv_reap (hs : Inv s) (h : reap s pid = some s') : Inv s' := by
  obtain ⟨p, hp, hr, hre, hn, rfl⟩ := reap_eq_some h
  have hd : ¬ Done s pid p := not_done hre
  refine hs.modify (procs_reap.trans rfl) (fun q hq => ?_) (fun pid' hpi' => ?_)
    (fun pid' hpi' => ⟨hpi', ?_⟩) fun pid' sid h => ?_
  · grind
  · grind
  · rintro rfl
    exact absurd hpi' hn
  have hold := runs_of_reap h
  have hsi : sid ≠ p.session := by
    rintro rfl
    refine hs.not_runs hp hd ?_ hold
    rintro rfl
    obtain ⟨q, hq, -, hq'⟩ := hold
    rw [hp, some_inj] at hq
    rw [← hq, hr] at hq'
    cases hq'
  rcases hs.owned pid' sid hold with ⟨sess, hf, hpi⟩ | h | h
  · refine .inl ⟨sess, ?_, hpi⟩
    unfold Processes.reap
    cases p.kind with
    | pty =>
      rw [find?_setState, if_neg hsi]
      exact hf
    | pi => exact hf
  · refine .inr (.inl ?_)
    unfold Processes.reap
    cases p.kind with
    | pty => exact h
    | pi => simpa [Function.update_of_ne hsi] using h
  · exact .inr (.inr h)

theorem report_eq_some :
    report s pid = some s' ↔ pid ∈ s.reporting
      ∧ { s with reporting := s.reporting.filter fun other => other ≠ pid } = s' := by
  simp [report]

theorem inv_report (hs : Inv s) (h : report s pid = some s') : Inv s' := by
  obtain ⟨-, rfl⟩ := report_eq_some.mp h
  exact hs.of_procs rfl (fun other ho => (mem_filter.mp ho).1) (fun _ h => h) hs.owned

theorem kill_eq_some (h : kill s sessionID = some s') :
    s.handling = none ∧ (s.daemon.sessions.find? sessionID = none ∧ s' = s
      ∨ ∃ sess, s.daemon.sessions.find? sessionID = some sess
        ∧ s' = { s with
            daemon := s.daemon.handleKillCommand sessionID
            reporting := s.reporting.filter fun pid => pid ≠ sess.pid }) := by
  unfold kill at h
  split at h
  · cases h
  · grind

theorem inv_kill (hs : Inv s) (h : kill s sessionID = some s') : Inv s' := by
  obtain ⟨hfr, ⟨-, rfl⟩ | ⟨sess, hse, rfl⟩⟩ := kill_eq_some h
  · exact hs
  have hp : (s.daemon.handleKillCommand sessionID).procs
      = s.daemon.procs.modify sess.pid fun p => { p with running := false, reaped := true } := by
    simp only [Processes.handleKillCommand, hse]
    exact modify_modify_eq ..
  refine hs.modify hp (by simp) (fun pid hpi => .inl (mem_filter.mp hpi).1)
    (by simp [hfr]) fun pid sid hr => ?_
  obtain ⟨hr, ho⟩ := (runs_handleKillCommand s.daemon sessionID pid sid).mp hr
  rcases hs.owned pid sid hr with ⟨sess', hf, hpi⟩ | h | h
  · refine .inl ⟨sess', ?_, hpi⟩
    rw [find?_handleKillCommand, if_neg, hf]
    rintro rfl
    exact ho sess' hf hpi.symm
  · exact .inr (.inl (by rw [bridges_handleKillCommand]; exact h))
  · exact .inr (.inr h)

theorem inv_begin (hs : Inv s) (hp : ∀ p ∈ s.daemon.procs, p.session = sessionID →
      p.running = false ∧ (ok = true → p.reaped = true))
    (hr : ok = true → ∀ pid ∈ s.reporting, sessionOf s pid ≠ some sessionID)
    (h : begin s sessionID kind ok = some s') : Inv s' := by
  obtain ⟨hf, ⟨-, rfl⟩ | ⟨hok, rfl⟩⟩ := begin_eq_some h
  · exact hs
  · grind [inv_spawn]

theorem inv_step {a : Act} (hs : Inv s) (hok : Spaced s a) (h : step s a = some s') : Inv s' := by
  cases a with
  | startSession | deployAgent => exact inv_begin hs hok.1 hok.2 h
  | register =>
    obtain ⟨pid, hin, hr⟩ := bind_eq_some_iff.mp h
    exact inv_register hs hin hr
  | kill sessionID => exact inv_kill hs h
  | exit pid =>
    cases h
    exact inv_exit hs pid
  | reap pid => exact inv_reap hs h
  | report pid => exact inv_report hs h

/-! ## 6. What is reported -/

theorem truthful_begin (hpr : ∀ p ∈ s.daemon.procs, p.session = sessionID →
      p.running = false ∧ (ok = true → p.reaped = true)) (h : begin s sessionID kind ok = some s') :
    ∀ sid ∈ (if ok then [] else [sessionID]), ∀ pid, ¬ s'.daemon.Runs pid sid := by
  obtain ⟨-, ⟨hok, rfl⟩ | ⟨hok, rfl⟩⟩ := begin_eq_some h
  · rintro sid hsi pid ⟨p, hp, hs, hr⟩
    obtain rfl : sid = sessionID := by simpa [hok] using hsi
    rw [(hpr p (mem_of_getElem? hp) hs).1] at hr
    cases hr
  · simp [hok]

theorem truthful_step {a : Act} (hs : Inv s) (hok : Spaced s a) : Truthful s a := by
  intro s' h
  cases a with
  | startSession | deployAgent => exact truthful_begin hok.1 h
  | kill sessionID =>
    obtain ⟨hf, ⟨hn, rfl⟩ | ⟨sess, hse, rfl⟩⟩ := kill_eq_some h
    · simp [updates, hn]
    intro sid hsi pid hru
    obtain rfl : sid = sessionID := by simpa [updates, hse] using hsi
    obtain ⟨hold, ho⟩ := (runs_handleKillCommand s.daemon sid pid sid).mp hru
    -- a process of the id that runs is the registered one or the bridge
    rcases hs.owned pid sid hold with ⟨sess', hfi, hpi⟩ | hb | hin
    · exact ho sess' hfi hpi.symm
    · obtain ⟨p, hp, -, hr⟩ := hold
      rw [hok (by rw [hse]; simp) pid hb p hp] at hr
      cases hr
    · simp [hf] at hin
  | report pid =>
    obtain ⟨hm, rfl⟩ := report_eq_some.mp h
    obtain ⟨p, hp, hre⟩ := hs.reporting pid hm
    intro sid hsi pid' hru
    obtain rfl : p.session = sid := by simpa [updates, sessionOf, hp, eq_comm] using hsi
    refine hs.not_runs hp (fun hd => hd.2 hm) ?_ hru
    rintro rfl
    obtain ⟨q, hq, -, hr⟩ := hru
    rw [hs.reaped pid' q hq (by rw [some_inj.mp (hq.symm.trans hp)]; exact hre)] at hr
    cases hr
  | register | exit | reap => simp [updates]

/-- **Owned processes.** In every history whose commands are spaced, every
process that runs is reachable in every state, and no id is reported
TERMINATED while a process of it runs. -/
theorem owned_along {acts : List Act} (h : Along step Spaced start acts) :
    (∀ s ∈ states step start acts, Owned s) ∧ Along step Truthful start acts :=
  ⟨fun s hs => (forall_states_of_along (fun _ _ _ => inv_step) inv_start h s hs).owned,
    along_of_invariant (fun _ _ _ => inv_step) (fun _ _ => truthful_step) inv_start h⟩

/-- An id is started again when the first process is done with, and killed. -/
theorem owned_restarted :
    let acts := [.startSession "s" true, .register, .exit 0, .reap 0, .report 0,
      .deployAgent "s" false, .startSession "s" true, .register, .kill "s"]
    Along step Spaced start acts
      ∧ (∀ s ∈ states step start acts, Owned s) ∧ Along step Truthful start acts :=
  ⟨by decide, owned_along (by decide)⟩

def startedTwice : List Act :=
  [.startSession "s" true, .register, .startSession "s" true, .register]

def deployedTwice : List Act :=
  [.deployAgent "s" true, .register, .deployAgent "s" true, .register, .reap 0]

/-- A second start leaves the first process running and unreachable. After
a second deployment, the first one's cleanup removes the new bridge and
reports the id TERMINATED, and the new process runs. -/
theorem replaced_processes :
    ¬ (∀ s ∈ states step start startedTwice, Owned s) ∧
      ¬ (∀ s ∈ states step start deployedTwice, Owned s) ∧
      ¬ Along step Truthful start (deployedTwice ++ [.report 0]) := by
  refine ⟨fun ho => ?_, fun ho => ?_, fun ht => ?_⟩
  · obtain ⟨_, ⟨⟩, ⟨⟩⟩ | ⟨⟨⟩⟩ | ⟨⟨⟩⟩ := ho _ (mem_states_of_run rfl) 0 "s" ⟨_, rfl, rfl, rfl⟩
  · obtain ⟨_, ⟨⟩, ⟨⟩⟩ | ⟨⟨⟩⟩ | ⟨⟨⟩⟩ := ho _ (mem_states_of_run rfl) 1 "s" ⟨_, rfl, rfl, rfl⟩
  · exact along_snoc ht rfl _ rfl "s" (by decide) 1 ⟨_, rfl, rfl, rfl⟩

end Daao.Daemon.Ownership

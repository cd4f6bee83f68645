/-
Daao.Daemon.SessionLimit — the limit on a satellite's sessions
(`CreateSession`, `handleKillCommand`, `handleSessionReconciliation`,
`Session.Close` and the goroutine of `forwardPtyOutput` that waits for the
process, in `cmd/daao/daemon.go`).

`CreateSession` looks at the size of the session map, spawns the process
and stores the session, as separate steps. The goroutine that waits for the
process closes the PTY and marks the session as terminated; only the
handlers of Nexus's messages close its IPC server and remove it from the
map. Sessions are numbered in the order in which they are asked for, and
`idOf` gives the id that was asked for. `refused` records the number of
running processes whenever a session was refused.
-/
import Daao.Lib.Trace
import Mathlib.Data.Finset.Card

namespace Daao.Daemon.SessionLimit

open Daao.Lib Finset

inductive Call where
  /-- `CreateSession`, after the check and after the spawn -/
  | checked (k : Nat)
  | spawned (k : Nat)
  /-- a handler that closes the session, and one that has closed it -/
  | closing (k : Nat)
  | closed (k : Nat)
  deriving DecidableEq

structure State where
  asked : Nat
  /-- the sessions in `d.sessions` -/
  held : Finset Nat
  running : Finset Nat
  /-- the goroutine that waits for the process is done -/
  cleanedUp : Finset Nat
  ipcOpen : Finset Nat
  calls : List Call
  refused : List Nat

def start : State :=
  { asked := 0, held := ∅, running := ∅, cleanedUp := ∅, ipcOpen := ∅, calls := [], refused := [] }

inductive Act where
  | create
  /-- a call goes on; `fails` if the process cannot be spawned, or is killed
  again since its IPC server cannot be started -/
  | call (i : Nat) (fails : Bool)
  /-- a kill command or a reconciliation -/
  | kill (k : Nat)
  | exit (k : Nat)
  | cleanup (k : Nat)

variable (maxSessions : Nat) (idOf : Nat → String)

/-- `delete(d.sessions, id)` -/
def delete (held : Finset Nat) (id : String) : Finset Nat := held.filter (idOf · ≠ id)

def callStep (d : State) : Call → Bool → State
  | .checked k, fails =>
    if fails then d
    else { d with
      running := insert k d.running, ipcOpen := insert k d.ipcOpen
      calls := d.calls ++ [.spawned k] }
  | .spawned k, _ => { d with held := insert k (delete idOf d.held (idOf k)) }
  | .closing k, _ =>
    { d with
      running := d.running.erase k, ipcOpen := d.ipcOpen.erase k
      cleanedUp := insert k d.cleanedUp, calls := d.calls ++ [.closed k] }
  | .closed k, _ => { d with held := delete idOf d.held (idOf k) }

def step (d : State) : Act → Option State
  | .create =>
    if 0 < maxSessions ∧ maxSessions ≤ d.held.card then
      some { d with asked := d.asked + 1, refused := d.refused ++ [d.running.card] }
    else some { d with asked := d.asked + 1, calls := d.calls ++ [.checked d.asked] }
  | .call i fails =>
    (d.calls[i]?).map fun call => callStep idOf { d with calls := d.calls.eraseIdx i } call fails
  | .kill k => if k ∈ d.held then some { d with calls := d.calls ++ [.closing k] } else none
  | .exit k => if k ∈ d.running then some { d with running := d.running.erase k } else none
  | .cleanup k =>
    if k ∈ d.running then none else some { d with cleanedUp := insert k d.cleanedUp }

/-- One message is handled after the other, the ids of the sessions in the
map are not asked for, and no process exits by itself. -/
def orderly (d : State) : Act → Bool
  | .create => d.calls = [] ∧ ∀ k ∈ d.held, idOf k ≠ idOf d.asked
  | .kill _ => d.calls = []
  | .exit _ => false
  | _ => true

structure Limited (d : State) : Prop where
  refused : ∀ n ∈ d.refused, maxSessions ≤ n
  running : d.running.card ≤ maxSessions
  cleanedUp : d.calls = [] → ∀ k ∈ d.cleanedUp, k ∉ d.running → k ∉ d.held ∧ k ∉ d.ipcOpen

/-- The running processes are those of the sessions in the map, but for
what the call under way has done. -/
def Agrees (d : State) : List Call → Prop
  | [] => d.running = d.held ∧ d.held.card ≤ maxSessions
  | [.checked k] => d.running = d.held ∧ d.held.card < maxSessions ∧ ∀ j ∈ d.held, idOf j ≠ idOf k
  | [.spawned k] =>
    d.running = insert k d.held ∧ d.held.card < maxSessions ∧ ∀ j ∈ d.held, idOf j ≠ idOf k
  | [.closing k] => d.running = d.held ∧ d.held.card ≤ maxSessions ∧ k ∈ d.held
  | [.closed k] => d.running = d.held.erase k ∧ d.held.card ≤ maxSessions ∧ k ∈ d.held
  | _ => False

structure Inv (d : State) : Prop where
  agrees : Agrees maxSessions idOf d d.calls
  ids : Set.InjOn idOf d.held
  ipc : d.ipcOpen ⊆ d.running
  refused : ∀ n ∈ d.refused, maxSessions ≤ n

variable {maxSessions idOf} {d d' : State} {k : Nat}

theorem Inv.limited (h : Inv maxSessions idOf d) : Limited maxSessions d := by
  obtain ⟨ha, -, hi, hr⟩ := h
  refine ⟨hr, ?_, fun hc k _ hk => ?_⟩
  · unfold Agrees at ha
    split at ha
    case h_1 => exact ha.1 ▸ ha.2
    case h_4 => exact ha.1 ▸ ha.2.1
    case h_2 => exact ha.1 ▸ ha.2.1.le
    case h_3 k _ => exact ha.1 ▸ (card_insert_le k d.held).trans ha.2.1
    case h_5 k _ => exact ha.1 ▸ card_erase_le.trans ha.2.1
    case h_6 => cases ha
  rw [hc] at ha
  exact ⟨ha.1 ▸ hk, fun ho => hk (hi ho)⟩

theorem delete_eq_erase (h : Set.InjOn idOf d.held) (hk : k ∈ d.held) :
    delete idOf d.held (idOf k) = d.held.erase k := by
  ext j
  simp only [delete, mem_filter, mem_erase]
  constructor
  · grind
  rintro ⟨hne, hj⟩
  exact ⟨hj, fun heq => hne (h hj hk heq)⟩

theorem inv_callStep {call : Call} (h : Inv maxSessions idOf { d with calls := [call] })
    (fails : Bool) :
    Inv maxSessions idOf (callStep idOf { d with calls := [] } call fails) := by
  obtain ⟨ha, hi, hip, hre⟩ := h
  cases call with
  | checked k =>
    obtain ⟨hr, hc, hne⟩ := ha
    cases fails with
    | true => exact ⟨⟨hr, hc.le⟩, hi, hip, hre⟩
    | false =>
      exact ⟨⟨congrArg (insert k) hr, hc, hne⟩, hi, insert_subset_insert k hip, hre⟩
  | spawned k =>
    obtain ⟨hr, hc, hne⟩ := ha
    have hk : k ∉ d.held := fun hk => hne k hk rfl
    simp only [callStep, delete, filter_true_of_mem hne]
    refine ⟨⟨hr, ?_⟩, ?_, hip, hre⟩
    · rw [card_insert_of_notMem hk]
      exact hc
    · grind [coe_insert, Set.injOn_insert]
  | closing k =>
    obtain ⟨hr, hc, hk⟩ := ha
    exact ⟨⟨congrArg (erase · k) hr, hc, hk⟩, hi, erase_subset_erase k hip, hre⟩
  | closed k =>
    obtain ⟨hr, hc, hk⟩ := ha
    simp only [callStep, delete_eq_erase hi hk]
    exact ⟨⟨hr, card_erase_le.trans hc⟩, hi.mono (by simp), hip, hre⟩

theorem Inv.calls_eq (h : Inv maxSessions idOf d) {i : Nat} {c : Call}
    (hc : d.calls[i]? = some c) : d.calls = [c] ∧ i = 0 := by
  have ha := h.agrees
  unfold Agrees at ha
  split at ha <;> simp_all <;> grind

theorem inv_step {a : Act} (hm : 0 < maxSessions) (h : Inv maxSessions idOf d)
    (ho : orderly idOf d a = true) (hs : step maxSessions idOf d a = some d') :
    Inv maxSessions idOf d' := by
  cases a <;> simp only [step] at hs
  case create =>
    obtain ⟨hc, hne⟩ := of_decide_eq_true ho
    have ha := h.agrees
    rw [hc] at ha
    split at hs <;> cases hs
    · rename_i hf
      refine { h with refused := fun n hn => ?_ }
      rcases List.mem_append.mp hn with hold | hnw
      · exact h.refused n hold
      rw [List.mem_singleton.mp hnw, ha.1]
      exact hf.2
    rename_i hr
    refine { h with agrees := ?_ }
    rw [hc]
    exact ⟨ha.1, by grind, hne⟩
  case call i fails =>
    obtain ⟨call, hca, rfl⟩ := Option.map_eq_some_iff.mp hs
    obtain ⟨hc, rfl⟩ := h.calls_eq hca
    rw [hc]
    exact inv_callStep (hc ▸ h) fails
  case kill k =>
    split at hs <;> cases hs
    rename_i hk
    have hc : d.calls = [] := of_decide_eq_true ho
    have ha := h.agrees
    rw [hc] at ha
    refine { h with agrees := ?_ }
    rw [hc]
    exact ⟨ha.1, ha.2, hk⟩
  case exit => cases ho
  case cleanup k =>
    split at hs <;> cases hs
    exact { h with }

/-- Under these conditions a session is refused only when there are as many
running processes as the limit allows, there are never more, and between
messages a session whose process is gone is gone too. -/
theorem sessions_limited (maxSessions : Nat) (hmax : 0 < maxSessions) (idOf : Nat → String)
    (acts : List Act)
    (horderly : Along (step maxSessions idOf) (fun d a => orderly idOf d a = true) start acts) :
    ∀ d ∈ states (step maxSessions idOf) start acts, Limited maxSessions d := by
  have hs : Inv maxSessions idOf start :=
    ⟨⟨rfl, Nat.zero_le _⟩, by simp [start], by simp [start], by simp [start]⟩
  intro d hd
  exact (forall_states_of_along (fun _ _ _ => inv_step hmax) hs horderly d hd).limited

def created : List Act := [.create, .call 0 false, .call 0 false]

def idOfTwo (k : Nat) : String := if k = 0 then "a" else "b"

theorem sessions_limited_kill :
    let acts := created ++ [.kill 0, .call 0 false, .call 0 false, .create]
    Along (step 1 idOfTwo) (fun d a => orderly idOfTwo d a = true) start acts ∧
      ∀ d ∈ states (step 1 idOfTwo) start acts, Limited 1 d :=
  ⟨by decide, sessions_limited 1 (by decide) idOfTwo _ (by decide)⟩

/-- A session whose process has exited stays in the map, its IPC server
stays open, and the next session is refused although no process runs; and
two calls at the same time exceed the limit. -/
theorem sessions_unlimited :
    ((run (step 1 idOfTwo) start (created ++ [.exit 0, .cleanup 0, .create])).map fun d =>
      (d.held, d.ipcOpen, d.refused)) = some ({0}, {0}, [0])
    ∧ ((run (step 1 idOfTwo) start [.create, .create, .call 0 false, .call 0 false]).map fun d =>
      d.running) = some {0, 1} := by
  decide

end Daao.Daemon.SessionLimit

/-
Daao.Gateway.EventSequenceTheorems — the sequence numbers of a run's
events.

They come from a counter of the connection, one for each session. A
connection finds a run under the run's own session only, so it never gives
two events of a run the same number; after a reconnect the counter starts
again at 1.
-/
import Daao.Gateway.AgentEventsTheorems
import Mathlib.Data.List.Sort

namespace Daao.Gateway.AgentEvents

open Daao.Lib Daao.Database List AgentRuns

variable {n : Nat} {Run : Type} [DecidableEq Run]

/-! ## 1. Order -/

variable (s : AgentEvents n Run)

def eventsOf (runID : Run) : List (Received n Run) :=
  s.received.filter fun e => e.runID = runID

/-- A result of `ListAgentRunEvents` (`ORDER BY sequence ASC`) when the
rows of the run are `stored`: rows with equal numbers come in any order. -/
def IsListing (stored listed : List (Received n Run)) : Prop :=
  listed.Perm stored ∧ listed.Pairwise fun e e' => e.sequence ≤ e'.sequence

/-- Each run's sequence numbers strictly increase in the order in which the
events were received, and a listing of them is in that order. -/
def InOrder : Prop :=
  ∀ runID, (s.eventsOf runID).Pairwise (fun e e' => e.sequence < e'.sequence)
    ∧ ∀ listed, IsListing (s.eventsOf runID) listed → listed = s.eventsOf runID

def handsTo : Act n Run → Option (Fin n × Run)
  | .agentEvent c sessionID _ found =>
    match lookUpEvent s.runs (s.conns c) sessionID found with
    | some (some runID) => some (c, runID)
    | _ => none
  | _ => none

/-- The connection that hands an event to a run has handled all earlier
events of that run. -/
def OneConnection (a : Act n Run) : Prop :=
  ∀ p ∈ s.handsTo a, ∀ e ∈ s.received, e.runID = p.2 → e.conn = p.1

instance decidableOneConnection (s : AgentEvents n Run) (a : Act n Run) :
    Decidable (OneConnection s a) :=
  inferInstanceAs (Decidable (∀ p ∈ s.handsTo a, ∀ e ∈ s.received, e.runID = p.2 → e.conn = p.1))

/-! ## 2. The invariant -/

structure SequenceInv (s : AgentEvents n Run) : Prop where
  /-- a run is cached under its own session -/
  cached : ∀ c sessionID runID, (s.conns c).sessionRunMap sessionID = some runID →
    s.runs.sessionOf runID = some sessionID
  /-- no event has a number its connection has not counted to -/
  counted : ∀ e ∈ s.received, ∃ sessionID, s.runs.sessionOf e.runID = some sessionID
    ∧ e.sequence ≤ (s.conns e.conn).agentSeq sessionID
  increasing : ∀ runID, (s.eventsOf runID).Pairwise fun e e' => e.sequence < e'.sequence

theorem sequenceInv_start (r : AgentRuns Run) :
    SequenceInv (start r : AgentEvents n Run) := by
  refine ⟨?_, ?_, fun _ => List.Pairwise.nil⟩
  · intro _ _ _ h
    cases h
  intro _ h
  cases h

variable {s s' : AgentEvents n Run}

theorem sequenceInv_congr (h : SequenceInv s)
    (hm : ∀ d, (s'.conns d).sessionRunMap = (s.conns d).sessionRunMap)
    (hse : ∀ d, (s'.conns d).agentSeq = (s.conns d).agentSeq)
    (hr : s'.received = s.received)
    (hs : ∀ r i, s.runs.sessionOf r = some i →
      s'.runs.sessionOf r = some i) : SequenceInv s' := by
  refine ⟨?_, ?_, ?_⟩
  · intro c i r hma
    rw [hm c] at hma
    exact hs _ _ (h.cached c i r hma)
  · grind [h.counted]
  intro r
  unfold eventsOf
  rw [hr]
  exact h.increasing r

variable {c : Fin n}

theorem sequenceInv_setHandler (h : SequenceInv s)
    {handler : RunHandler Run} (hco : s'.conns = (s.setConn c { s.conns c with handler }).conns)
    (hr : s'.received = s.received)
    (hs : ∀ r, s'.runs.sessionOf r = s.runs.sessionOf r) : SequenceInv s' := by
  have hc : ∀ d, (s'.conns d).sessionRunMap = (s.conns d).sessionRunMap
      ∧ (s'.conns d).agentSeq = (s.conns d).agentSeq := by
    intro d
    rw [hco, conns_setConn]
    split
    · grind
    · exact ⟨rfl, rfl⟩
  exact sequenceInv_congr h (fun d => (hc d).1) (fun d => (hc d).2) hr
    fun r _ hsi => (hs r).trans hsi

omit [DecidableEq Run] in
theorem agentSeq_afterLookUp_le (conn : RunConnection Run) (e sid : String)
    (k : EventKind) (runID : Option Run) :
    conn.agentSeq sid ≤ (afterLookUp conn e k runID).agentSeq sid := by
  have hs : (afterLookUp conn e k runID).agentSeq
      = Function.update conn.agentSeq e (conn.agentSeq e + 1) := by
    cases runID <;> rfl
  rw [hs, Function.update_apply]
  split
  · grind
  · exact le_refl _

theorem counted_afterLookUp (h : SequenceInv s) {ses : String} {k : EventKind} {runID : Option Run}
    (hc : s'.conns = (s.setConn c (afterLookUp (s.conns c) ses k runID)).conns)
    (hr : s'.runs = s.runs) {e : Received n Run} (he : e ∈ s.received) :
    ∃ sid, s'.runs.sessionOf e.runID = some sid ∧ e.sequence ≤ (s'.conns e.conn).agentSeq sid := by
  obtain ⟨sid, hs, hle⟩ := h.counted e he
  refine ⟨sid, by rw [hr]; exact hs, ?_⟩
  rw [hc, conns_setConn]
  split
  · grind [agentSeq_afterLookUp_le]
  · exact hle

theorem sequenceInv_agentEvent (h : SequenceInv s)
    {sessionID : String} {k : EventKind} {f : Option Run}
    (hok : OneConnection s (.agentEvent c sessionID k f))
    (hst : step s (.agentEvent c sessionID k f) = some s') : SequenceInv s' := by
  obtain ⟨-, ⟨-, rfl⟩ | ⟨runID, hl, rfl⟩⟩ := step_agentEvent hst
  · refine ⟨?_, fun e he => counted_afterLookUp h rfl rfl he, h.increasing⟩
    intro d i r hm
    rw [conns_setConn] at hm
    split at hm
    · exact h.cached c i r hm
    · exact h.cached d i r hm
  -- the run belongs to the session the event is counted under
  have hs : s.runs.sessionOf runID = some sessionID := by
    rcases lookUpEvent_some hl with hm | hr
    · exact h.cached c sessionID runID hm
    obtain ⟨w, hro, hsi, -⟩ := getAgentRun_of_isRunning hr
    simp [sessionOf, hro, hsi]
  have hsa : ∀ e ∈ s.received, e.runID = runID → e.conn = c :=
    hok (c, runID) (by simp [handsTo, hl])
  refine ⟨?_, ?_, ?_⟩
  · intro d i r hm
    simp only [conns_setConn] at hm
    split at hm
    · simp only [afterLookUp, Function.update_apply] at hm
      split at hm
      · rename_i hsi
        cases hm
        rw [hsi]
        exact hs
      · exact h.cached c i r hm
    · exact h.cached d i r hm
  · intro e he
    rcases mem_append.mp he with hold | hn
    · exact counted_afterLookUp h rfl rfl hold
    rw [mem_singleton] at hn
    subst hn
    exact ⟨sessionID, hs, by simp [conns_setConn, afterLookUp]⟩
  · intro r
    unfold eventsOf
    rw [filter_append, pairwise_append]
    refine ⟨h.increasing r, ?_, ?_⟩
    · exact (pairwise_singleton _ _).filter _
    intro e he e' he'
    simp only [mem_filter, mem_singleton, decide_eq_true_eq] at he he'
    obtain ⟨hme, hru⟩ := he
    obtain ⟨rfl, hru'⟩ := he'
    obtain ⟨i, hsi, hle⟩ := h.counted e hme
    -- one connection counts for the run, under one session
    rw [hru, ← hru', hs, Option.some.injEq] at hsi
    rw [← hsi, hsa e hme (hru.trans hru'.symm)] at hle
    exact Nat.lt_succ_of_le hle

theorem sequenceInv_step {a : Act n Run} (h : SequenceInv s)
    (hok : OneConnection s a) (hs : step s a = some s') : SequenceInv s' := by
  cases a with
  | createRun id d sa =>
    obtain ⟨u, hr, rfl⟩ := Option.map_eq_some_iff.mp hs
    exact sequenceInv_congr h (fun _ => rfl) (fun _ => rfl) rfl
      fun _ _ => map_createAgentRun hr
  | agentEvent c d k f => exact sequenceInv_agentEvent h hok hs
  | handOn c =>
    simp only [step] at hs
    split at hs <;> cases hs
    exact sequenceInv_setHandler h rfl rfl fun _ => rfl
  | update i =>
    simp only [step] at hs
    split at hs <;> cases hs
    exact sequenceInv_congr h (fun _ => rfl) (fun _ => rfl) rfl
      fun r _ hsi => (sessionOf_updateAgentRun _ _ r _).trans hsi
  | terminated c d f =>
    obtain ⟨-, rfl | ⟨r, -, -, rfl⟩⟩ := step_terminated hs
    · exact h
    · exact sequenceInv_setHandler h rfl rfl fun _ => rfl
  | markFailed c =>
    simp only [step] at hs
    split at hs <;> cases hs
    exact sequenceInv_setHandler h rfl rfl fun r => sessionOf_updateAgentRun _ _ r _

/-! ## 3. Runs -/

omit [DecidableEq Run] in
theorem listing_unique {stored i : List (Received n Run)}
    (h : stored.Pairwise fun e e' => e.sequence < e'.sequence) (hl : IsListing stored i) :
    i = stored := by
  have hn : (stored.map Received.sequence).Nodup := pairwise_map.mpr (h.imp ne_of_lt)
  refine List.Perm.eq_of_pairwise ?_ hl.2 (h.imp le_of_lt) hl.1
  intro e e' he he' hle hge
  exact inj_on_of_nodup_map hn (hl.1.mem_iff.mp he) he' (le_antisymm hle hge)

/-- **The sequence numbers of a run.** From any table, in every run in
which each agent run's events are handled by one connection, the numbers
of every run increase in the order of reception. -/
theorem inOrder_of_oneConnection (runs : AgentRuns Run) (acts : List (Act n Run))
    (s' : AgentEvents n Run) (hok : Along step OneConnection (start runs) acts)
    (hrun : run step (start runs) acts = some s') : InOrder s' := by
  have hi : SequenceInv s' := run_invariant_along
    (fun s a s' hs hok' hst => sequenceInv_step hs hok' hst) (sequenceInv_start runs) hok hrun
  exact fun rid => ⟨hi.increasing rid, fun _ hl => listing_unique (hi.increasing rid) hl⟩

theorem inOrder_two_runs :
    Along step OneConnection (start oneRun : AgentEvents 2 Nat)
      [.agentEvent 0 "s" .progress (some 0), .handOn 0, .createRun 1 "t" 1,
        .agentEvent 1 "t" .progress (some 1), .agentEvent 0 "s" (.agentEnd false) none] ∧
    ∃ s', run step (start oneRun : AgentEvents 2 Nat)
      [.agentEvent 0 "s" .progress (some 0), .handOn 0, .createRun 1 "t" 1,
        .agentEvent 1 "t" .progress (some 1), .agentEvent 0 "s" (.agentEnd false) none] = some s'
      ∧ s'.received.length = 3 ∧ InOrder s' := by
  exact ⟨by decide, _, rfl, rfl,
    inOrder_of_oneConnection oneRun [.agentEvent 0 "s" .progress (some 0),
    .handOn 0, .createRun 1 "t" 1, .agentEvent 1 "t" .progress (some 1),
    .agentEvent 0 "s" (.agentEnd false) none] _ (by decide) rfl⟩

/-- The satellite reconnects in the middle of a run: the new connection
counts from 1 again. -/
theorem sequence_restarts :
    ∃ s', run step (start oneRun : AgentEvents 2 Nat)
      [.agentEvent 0 "s" .progress (some 0), .handOn 0, .agentEvent 1 "s" .progress (some 0)]
        = some s' ∧ ¬ InOrder s' := by
  refine ⟨_, rfl, fun h => ?_⟩
  have hi := (h 0).1
  revert hi
  decide

end Daao.Gateway.AgentEvents

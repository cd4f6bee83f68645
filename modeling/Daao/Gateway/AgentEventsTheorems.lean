/-
Daao.Gateway.AgentEventsTheorems — the status a run ends up with.

Two parties write a run's status: the goroutine of an `agent_end`, and the
handling of a TERMINATED update. Neither asks what the status is, so the
later one wins. An ordinary run is completed first and failed afterwards,
by the TERMINATED update on the same connection, whose map still has it.
-/
import Daao.Gateway.AgentEvents
import Mathlib.Data.List.Chain

namespace Daao.Gateway.AgentEvents

open Daao.Lib Daao.Database List Option AgentRuns Function

variable {n : Nat} {Run : Type} {found : Option Run} {runID : Run} {conn : RunConnection Run}
  {sessionID : String} {s s' : AgentEvents n Run} {kind : EventKind} {c : Fin n}

/-! ## 1. Connections -/

theorem conns_setConn (s : AgentEvents n Run) (c d : Fin n) (conn : RunConnection Run) :
    (s.setConn c conn).conns d = if d = c then conn else s.conns d := by
  simp [setConn, update_apply]

theorem sessionRunMap_setConn (s : AgentEvents n Run) (c d : Fin n) (handler : RunHandler Run) :
    ((s.setConn c { s.conns c with handler := handler }).conns d).sessionRunMap
      = (s.conns d).sessionRunMap := by
  rw [conns_setConn]
  split
  · next hdc => rw [hdc]
  · rfl

theorem afterLookUp_map {i : String}
    {r : Run} (h : (afterLookUp conn sessionID kind (some runID)).sessionRunMap i = some r) :
    r = runID ∨ conn.sessionRunMap i = some r := by
  simp only [afterLookUp, update_apply] at h
  split at h
  · cases h
    exact .inl rfl
  · exact .inr h

def owes (w : Run × RunStatus) : RunHandler Run → Prop
  | .receiving => False
  | .event runID kind => runID = w.1 ∧ kind.status = some w.2
  | .terminating runID => runID = w.1 ∧ w.2 = .failed

def Pending (s : AgentEvents n Run) (w : Run × RunStatus) : Prop :=
  w ∈ s.updates ∨ ∃ c, owes w (s.conns c).handler

@[simp] theorem not_owes_receiving (w : Run × RunStatus) : ¬ owes w .receiving := fun h => h

theorem pending_iff (s : AgentEvents n Run) (c : Fin n) (w : Run × RunStatus) :
    Pending s w ↔ w ∈ s.updates ∨ owes w (s.conns c).handler ∨
      ∃ d, d ≠ c ∧ owes w (s.conns d).handler := by
  refine or_congr_right ⟨fun ⟨d, hd⟩ => ?_, ?_⟩
  · grind
  · grind

theorem pending_of_conns (hc : s'.conns = update s.conns c conn) (w : Run × RunStatus) :
    Pending s' w ↔ w ∈ s'.updates ∨ owes w conn.handler ∨
      ∃ d, d ≠ c ∧ owes w (s.conns d).handler := by
  rw [pending_iff s' c, hc, update_self]
  refine or_congr_right (or_congr_right (exists_congr fun d => and_congr_right fun hd => ?_))
  rw [update_of_ne hd]

variable [DecidableEq Run]

/-! ## 2. Look-ups -/

theorem lookUpEvent_some {r : AgentRuns Run}
    (h : lookUpEvent r conn sessionID found = some (some runID)) :
    conn.sessionRunMap sessionID = some runID ∨ r.IsRunning sessionID (some runID) := by
  grind [lookUpEvent, isRunning_of_isLatestRunning]

theorem lookUpTerminated_some {r : AgentRuns Run}
    (h : lookUpTerminated r conn sessionID found = some (some runID)) :
    conn.sessionRunMap sessionID = some runID ∨ r.IsRunning sessionID (some runID) := by
  grind [lookUpTerminated]

theorem step_agentEvent (h : step s (.agentEvent c sessionID kind found) = some s') :
    (s.conns c).handler = .receiving ∧
    ((lookUpEvent s.runs (s.conns c) sessionID found = some none
        ∧ s' = s.setConn c (afterLookUp (s.conns c) sessionID kind none)) ∨
      ∃ runID, lookUpEvent s.runs (s.conns c) sessionID found = some (some runID)
        ∧ s' = { s.setConn c (afterLookUp (s.conns c) sessionID kind (some runID)) with
            received := s.received ++
              [{ conn := c, runID := runID, kind := kind
                 sequence := (s.conns c).agentSeq sessionID + 1 }]
            decided := s.decided ++ (kind.status.map fun status => (runID, status)).toList }) := by
  simp only [step] at h
  split at h
  · grind [map_eq_some_iff]
  · cases h

theorem step_terminated (h : step s (.terminated c sessionID found) = some s') :
    (s.conns c).handler = .receiving ∧
    (s' = s ∨
      ∃ runID, sessionID ≠ "" ∧ lookUpTerminated s.runs (s.conns c) sessionID found
        = some (some runID)
        ∧ s' = { s.setConn c { s.conns c with handler := .terminating runID } with
            decided := s.decided ++ [(runID, .failed)] }) := by
  simp only [step] at h
  split at h
  · grind [map_eq_some_iff]
  · cases h

/-! ## 3. The status of a run -/

def decides (s : AgentEvents n Run) : Act n Run → Option (Run × RunStatus)
  | .agentEvent c sessionID kind found =>
    match lookUpEvent s.runs (s.conns c) sessionID found with
    | some (some runID) => kind.status.map fun status => (runID, status)
    | _ => none
  | .terminated c sessionID found =>
    match lookUpTerminated s.runs (s.conns c) sessionID found with
    | some (some runID) => if sessionID = "" then none else some (runID, .failed)
    | _ => none
  | _ => none

/-- The step's write is the same as the ones decided for that run before. -/
def Agrees (s : AgentEvents n Run) (a : Act n Run) : Prop :=
  ∀ w ∈ s.decides a, ∀ w' ∈ s.decided, w'.1 = w.1 → w'.2 = w.2

instance decidableAgrees (s : AgentEvents n Run) (a : Act n Run) : Decidable (Agrees s a) :=
  inferInstanceAs (Decidable (∀ w ∈ s.decides a, ∀ w' ∈ s.decided, w'.1 = w.1 → w'.2 = w.2))

/-- The run is running, or has the status of a write that was decided on. -/
def Resolved (s : AgentEvents n Run) (runID : Run) : Prop :=
  s.runs.statusOf runID = some .running
    ∨ ∃ status, (runID, status) ∈ s.decided ∧ s.runs.statusOf runID = some status

structure StatusInv (s : AgentEvents n Run) : Prop where
  agree : ∀ w ∈ s.decided, ∀ w' ∈ s.decided, w'.1 = w.1 → w'.2 = w.2
  pending : ∀ w, Pending s w → w ∈ s.decided
  /-- a decided write has been made, or the run is running and it will be -/
  decided : ∀ w ∈ s.decided, s.runs.statusOf w.1 = some w.2
    ∨ (s.runs.statusOf w.1 = some .running ∧ Pending s w)
  cached : ∀ c sessionID runID, (s.conns c).sessionRunMap sessionID = some runID →
    Resolved s runID
  received : ∀ e ∈ s.received, ∀ status ∈ e.kind.status, (e.runID, status) ∈ s.decided

theorem statusInv_start (r : AgentRuns Run) : StatusInv (start r : AgentEvents n Run) := by
  refine ⟨nofun, ?_, nofun, nofun, nofun⟩
  rintro w (h | ⟨c, h⟩) <;> cases h

theorem resolved_of_lookUp (h : StatusInv s)
    (hl : (s.conns c).sessionRunMap sessionID = some runID
      ∨ s.runs.IsRunning sessionID (some runID)) : Resolved s runID := by
  rcases hl with hm | hr
  · exact h.cached c sessionID runID hm
  obtain ⟨r, hro, -, hs⟩ := getAgentRun_of_isRunning hr
  exact .inl (by simp [statusOf, hro, hs])

theorem statusInv_decide (h : StatusInv s) {w : Option (Run × RunStatus)}
    {received : List (Received n Run)} {decided : List (Run × RunStatus)}
    (hf : (s.conns c).handler = .receiving) (hd : decided = s.decided ++ w.toList)
    (ho : ∀ w', owes w' conn.handler ↔ w' ∈ w) (hr : ∀ w' ∈ w, Resolved s w'.1)
    (ha : ∀ w' ∈ w, ∀ w'' ∈ s.decided, w''.1 = w'.1 → w''.2 = w'.2)
    (hma : ∀ sessionID runID, conn.sessionRunMap sessionID = some runID → Resolved s runID)
    (hre : ∀ e ∈ received, e ∈ s.received ∨ ∀ status ∈ e.kind.status, (e.runID, status) ∈ w) :
    StatusInv { s.setConn c conn with received := received, decided := decided } := by
  have hm : ∀ w', w' ∈ decided ↔ w' ∈ s.decided ∨ w' ∈ w := by simp_all
  have hpe : ∀ w',
      Pending { s.setConn c conn with received := received, decided := decided } w'
        ↔ Pending s w' ∨ w' ∈ w := by
    intro w'
    rw [pending_of_conns (s := s) rfl, pending_iff s c, hf, ho]
    simp only [setConn, not_owes_receiving, false_or]
    grind
  have hrs : ∀ runID, Resolved s runID →
      Resolved { s.setConn c conn with received := received, decided := decided } runID :=
    fun runID => .imp_right fun ⟨status, hst, heq⟩ => ⟨status, (hm _).mpr (.inl hst), heq⟩
  refine ⟨?_, ?_, ?_, ?_, ?_⟩
  · intro w₁ hw₁ w₂ hw₂ heq
    rcases (hm w₁).mp hw₁ with hold₁ | hn₁ <;> rcases (hm w₂).mp hw₂ with hold₂ | hn₂
    · exact h.agree w₁ hold₁ w₂ hold₂ heq
    · grind
    · exact ha w₁ hn₁ w₂ hold₂ heq
    · rw [mem_unique hn₁ hn₂]
  · grind [h.pending]
  · intro w' hw'
    rcases (hm w').mp hw' with hold | hn
    · exact (h.decided w' hold).imp_right fun ⟨hru, hp⟩ => ⟨hru, (hpe w').mpr (.inl hp)⟩
    rcases hr w' hn with hru | ⟨status, hst, heq⟩
    · exact .inr ⟨hru, (hpe w').mpr (.inr hn)⟩
    have hs : status = w'.2 := ha w' hn _ hst rfl
    exact .inl (hs ▸ heq)
  · grind [h.cached, conns_setConn]
  · grind [h.received]

/-- A status that is completed or failed is kept. -/
def Kept (s s' : AgentEvents n Run) : Prop :=
  ∀ runID status, status = .completed ∨ status = .failed →
    s.runs.statusOf runID = some status → s'.runs.statusOf runID = some status

instance isTrans_kept : IsTrans (AgentEvents n Run) Kept :=
  ⟨fun _ _ _ h₁ h₂ runID status hended h => h₂ runID status hended (h₁ runID status hended h)⟩

theorem statusInv_write (h : StatusInv s) {w : Run × RunStatus}
    (hw : w ∈ s.decided) (hr : s'.runs = s.runs.updateAgentRun w.1 w.2)
    (hde : s'.decided = s.decided) (hre : s'.received = s.received)
    (hm : ∀ d, (s'.conns d).sessionRunMap = (s.conns d).sessionRunMap)
    (hp : ∀ w', Pending s' w' → Pending s w')
    (hk : ∀ w', w' ≠ w → Pending s w' → Pending s' w') : StatusInv s' ∧ Kept s s' := by
  -- the run has a row, so the write changes its status
  have hwr : s'.runs.statusOf w.1 = some w.2 := by
    rw [hr, statusOf_updateAgentRun, if_pos rfl]
    rcases h.decided w hw with hst | ⟨hst, -⟩ <;> simp [hst]
  have ho : ∀ runID, runID ≠ w.1 → s'.runs.statusOf runID = s.runs.statusOf runID := by
    intro runID hne
    rw [hr, statusOf_updateAgentRun, if_neg hne]
  refine ⟨⟨hde ▸ h.agree, fun w' hw' => hde ▸ h.pending w' (hp w' hw'), ?_, ?_,
    hde ▸ hre ▸ h.received⟩, ?_⟩
  · intro w' hw'
    rw [hde] at hw'
    by_cases hrn : w'.1 = w.1
    · rw [hrn, hwr, h.agree w hw w' hw' hrn]
      exact .inl rfl
    · grind [h.decided]
  · intro d sessionID runID hd
    rw [hm d] at hd
    unfold Resolved
    rw [hde]
    by_cases hrn : runID = w.1
    · grind
    rw [ho runID hrn]
    exact h.cached d sessionID runID hd
  intro runID t he hst
  by_cases hrn : runID = w.1
  · -- the run's status is final, so the write is not the first one
    subst hrn
    rcases h.decided w hw with hma | ⟨hru, -⟩
    · rw [hwr, ← hma, hst]
    · grind
  · rw [ho runID hrn, hst]

theorem statusInv_agentEvent (h : StatusInv s) (hok : Agrees s (.agentEvent c sessionID kind found))
    (hst : step s (.agentEvent c sessionID kind found) = some s') :
    StatusInv s' ∧ Kept s s' := by
  obtain ⟨hf, ⟨-, rfl⟩ | ⟨runID, hl, rfl⟩⟩ := step_agentEvent hst <;>
    refine ⟨?_, fun _ _ _ h => h⟩
  · refine statusInv_decide h (w := none) hf (append_nil _).symm ?_ nofun nofun
      (h.cached c) fun _ => .inl
    simp [afterLookUp, hf, owes]
  have hre := resolved_of_lookUp h (lookUpEvent_some hl)
  have hd : s.decides (.agentEvent c sessionID kind found)
      = kind.status.map fun status => (runID, status) := by simp only [decides, hl]
  refine statusInv_decide h (w := kind.status.map fun status => (runID, status)) hf rfl ?_ ?_
    (by rw [← hd]; exact hok) ?_ fun e he => ?_
  · rintro ⟨r, status⟩
    simp [afterLookUp, owes, and_comm]
  · simp_all
  · intro i r hr
    rcases afterLookUp_map hr with rfl | hold
    · exact hre
    · exact h.cached c i r hold
  refine (mem_append.mp he).imp_right fun hn status hs => ?_
  rw [mem_singleton.mp hn] at hs ⊢
  exact map_eq_some_iff.mpr ⟨status, hs, rfl⟩

theorem statusInv_terminated (h : StatusInv s) (hok : Agrees s (.terminated c sessionID found))
    (hs : step s (.terminated c sessionID found) = some s') : StatusInv s' ∧ Kept s s' := by
  obtain ⟨hf, rfl | ⟨runID, hse, hl, rfl⟩⟩ := step_terminated hs <;>
    refine ⟨?_, fun _ _ _ h => h⟩
  · exact h
  have hd : s.decides (.terminated c sessionID found) = some (runID, .failed) := by
    simp only [decides, hl, if_neg hse]
  refine statusInv_decide h (w := some (runID, .failed)) hf rfl ?_ ?_
    (by rw [← hd]; exact hok) (h.cached c) fun _ => .inl
  · rintro ⟨r, t⟩
    simp [owes, eq_comm]
  rintro _ ⟨⟩
  exact resolved_of_lookUp h (lookUpTerminated_some hl)

theorem statusInv_handOn (h : StatusInv s) (hs : step s (.handOn c) = some s') :
    StatusInv s' ∧ Kept s s' := by
  simp only [step] at hs
  split at hs <;> cases hs
  rename_i runID kind hh
  -- what the connection owed is now owed by a goroutine
  have hpe : ∀ w, Pending { s.setConn c { s.conns c with handler := .receiving } with
      updates := s.updates ++ (kind.status.map fun status => (runID, status)).toList } w
      ↔ Pending s w := by
    rintro ⟨r, status⟩
    have hn : (r, status) ∈ (kind.status.map fun status => (runID, status)).toList
        ↔ owes (r, status) (s.conns c).handler := by simp [hh, owes, and_comm]
    rw [pending_of_conns (s := s) rfl, pending_iff s c, mem_append, hn]
    simp only [not_owes_receiving, false_or]
    grind
  refine ⟨{ h with
    pending := fun w hw => h.pending w ((hpe w).mp hw)
    decided := fun w hw =>
      (h.decided w hw).imp_right fun ⟨hst, hp⟩ => ⟨hst, (hpe w).mpr hp⟩
    cached := fun d i r hd => h.cached d i r ?_ }, fun _ _ _ h => h⟩
  rwa [← sessionRunMap_setConn s c d .receiving]

theorem statusInv_update (h : StatusInv s) {i : Nat} (hs : step s (.update i) = some s') :
    StatusInv s' ∧ Kept s s' := by
  simp only [step] at hs
  split at hs <;> cases hs
  rename_i runID t hi
  have hm : (runID, t) ∈ s.updates := mem_of_getElem? hi
  refine statusInv_write h (h.pending _ (.inl hm)) rfl rfl rfl (fun _ => rfl)
    (fun w => .imp_left mem_of_mem_eraseIdx) fun w hne => .imp_left fun hup => ?_
  -- another write is not the one at position `i`
  obtain ⟨j, hj⟩ := getElem?_of_mem hup
  refine mem_eraseIdx_iff_getElem?.mpr ⟨j, ?_, hj⟩
  rintro rfl
  exact hne (some.inj (hj.symm.trans hi))

theorem statusInv_markFailed (h : StatusInv s) (hs : step s (.markFailed c) = some s') :
    StatusInv s' ∧ Kept s s' := by
  simp only [step] at hs
  split at hs <;> cases hs
  rename_i runID hh
  have how : ∀ w, owes w (s.conns c).handler ↔ w = (runID, .failed) := by
    rintro ⟨r, t⟩
    simp [hh, owes, eq_comm]
  refine statusInv_write h (h.pending _ (.inr ⟨c, (how _).mpr rfl⟩)) rfl rfl rfl
    (sessionRunMap_setConn s c · .receiving) (fun w => ?_) fun w hne => ?_ <;>
    rw [pending_iff s c, pending_of_conns (s := s) rfl, how]
  · exact .imp_right fun ho => .inr (ho.resolve_left id)
  · exact .imp_right fun ho => .inr (ho.resolve_left hne)

variable {a : Act n Run}

theorem statusInv_step (h : StatusInv s) (hok : Agrees s a) (hs : step s a = some s') :
    StatusInv s' ∧ Kept s s' := by
  cases a with
  | createRun id sessionID sa =>
    obtain ⟨runs, hr, rfl⟩ := map_eq_some_iff.mp hs
    have hk : ∀ r st, s.runs.statusOf r = some st → runs.statusOf r = some st :=
      fun _ _ => map_createAgentRun hr
    refine ⟨{ h with decided := fun w hw => ?_, cached := fun d sid r hd => ?_ },
      fun r st _ => hk r st⟩
    · exact (h.decided w hw).imp (hk _ _) fun ⟨hst, hp⟩ => ⟨hk _ _ hst, hp⟩
    · exact (h.cached d sid r hd).imp (hk _ _) fun ⟨st, hst, heq⟩ => ⟨st, hst, hk _ _ heq⟩
  | agentEvent c sessionID kind found => exact statusInv_agentEvent h hok hs
  | handOn c => exact statusInv_handOn h hs
  | update i => exact statusInv_update h hs
  | terminated c sessionID found => exact statusInv_terminated h hok hs
  | markFailed c => exact statusInv_markFailed h hs

def Settled (s : AgentEvents n Run) : Prop :=
  s.updates = [] ∧ ∀ c, (s.conns c).handler = .receiving

/-- A status that is completed or failed never changes, and a run that got
an `agent_end` without an error is completed in the end. -/
def StatusKept (s : AgentEvents n Run) (acts : List (Act n Run)) : Prop :=
  (states step s acts).Pairwise Kept
    ∧ ∀ s', run step s acts = some s' → Settled s' →
        ∀ e ∈ s'.received, e.kind = .agentEnd false → s'.runs.statusOf e.runID = some .completed

/-- **The status of a run.** From any table, in every run in which the
writes decided for each agent run agree, ended runs keep their status and
every run with an error-free `agent_end` is completed in the end. -/
theorem kept_of_agrees (runs : AgentRuns Run) (acts : List (Act n Run))
    (hok : Along step Agrees (start runs) acts) : StatusKept (start runs) acts := by
  constructor
  · exact isChain_iff_pairwise.mp
      (isChain_states (fun _ _ _ => statusInv_step) (statusInv_start runs) hok)
  intro s' hr ⟨hu, hf⟩ e he hk
  have hi : StatusInv s' := run_invariant_along
    (fun _ _ _ hs hok' hse => (statusInv_step hs hok' hse).1) (statusInv_start runs) hok hr
  have hd := hi.received e he .completed (by simp [hk, EventKind.status])
  -- nothing is pending, so the write has been made
  rcases hi.decided _ hd with hst | ⟨-, hup | ⟨c, hc⟩⟩
  · exact hst
  · simp [hu] at hup
  rw [hf c] at hc
  exact hc.elim

def oneRun : AgentRuns Nat where
  rows := [{ id := 0, sessionID := "s", status := .running, startedAt := 0 }]
  primaryKey := by simp

/-- A run ends with an `agent_end` and its session ends in another
connection after the update: the second connection finds no running run. -/
theorem kept_agentEnd_then_terminated :
    Along step Agrees (start oneRun : AgentEvents 2 Nat)
      [.agentEvent 0 "s" (.agentEnd false) (some 0), .handOn 0, .update 0, .terminated 1 "s" none] ∧
    StatusKept (start oneRun : AgentEvents 2 Nat)
      [.agentEvent 0 "s" (.agentEnd false) (some 0), .handOn 0, .update 0,
        .terminated 1 "s" none] := by
  exact ⟨by decide, kept_of_agrees _ _ (by decide)⟩

/-- The same on one connection. Its map still has the run, so the run is
completed by its `agent_end` and then marked failed. -/
theorem completed_then_failed :
    ¬ StatusKept (start oneRun : AgentEvents 1 Nat)
      [.agentEvent 0 "s" (.agentEnd false) (some 0), .handOn 0, .update 0, .terminated 0 "s" none,
        .markFailed 0] := by
  intro h
  obtain ⟨hk, -⟩ := h
  have hc := (hk.imp fun h => h 0 .completed (.inl rfl)).map (fun s => s.runs.statusOf 0)
    (S := fun old new => old = some .completed → new = some .completed) (fun _ _ h => h)
  revert hc
  decide

end Daao.Gateway.AgentEvents

/-
Daao.Database.AgentRuns — the `agent_runs` table
(`internal/database/agent_runs.go`, migration 017), with the columns the
gateway and the run stream read and write.

`id` is the primary key. A query that returns one row of several is a
relation: `IsRunning` holds of every answer to "a running run of the
session", `IsLatestRunning` of every answer when the rows are ordered by
`started_at DESC`.
-/
import Daao.Lib.Table

namespace Daao.Database

open Daao.Lib Option

/-- The `status` column; the table's CHECK allows these values. -/
inductive RunStatus where
  | running
  | completed
  | failed
  | timeout
  | killed
  deriving DecidableEq

structure AgentRun (Run : Type) where
  id : Run
  /-- `session_id::text` -/
  sessionID : String
  status : RunStatus
  startedAt : Nat

abbrev AgentRuns (Run : Type) := Table (AgentRun.id : AgentRun Run → Run)

namespace AgentRuns

variable {Run : Type}

def running (t : AgentRuns Run) (sessionID : String) : List (AgentRun Run) :=
  t.rows.filter fun row => row.sessionID = sessionID ∧ row.status = .running

/-- An answer to `… AND status = 'running' LIMIT 1`. -/
def IsRunning (t : AgentRuns Run) (sessionID : String) : Option Run → Prop
  | none => t.running sessionID = []
  | some id => ∃ row ∈ t.running sessionID, row.id = id

/-- An answer to `… AND status = 'running' ORDER BY started_at DESC LIMIT 1`. -/
def IsLatestRunning (t : AgentRuns Run) (sessionID : String) : Option Run → Prop
  | none => t.running sessionID = []
  | some id => ∃ row ∈ t.running sessionID, row.id = id
      ∧ ∀ row' ∈ t.running sessionID, row'.startedAt ≤ row.startedAt

variable {t t' : AgentRuns Run} {sessionID : String}

theorem isRunning_of_isLatestRunning {id : Option Run} (h : t.IsLatestRunning sessionID id) :
    t.IsRunning sessionID id := by
  cases id with
  | none => exact h
  | some id =>
    obtain ⟨r, hr, hid, -⟩ := h
    exact ⟨r, hr, hid⟩

variable [DecidableEq Run]

def getAgentRun (t : AgentRuns Run) (id : Run) : Option (AgentRun Run) :=
  Table.find? t id

def statusOf (t : AgentRuns Run) (id : Run) : Option RunStatus :=
  (t.getAgentRun id).map AgentRun.status

def sessionOf (t : AgentRuns Run) (id : Run) : Option String :=
  (t.getAgentRun id).map AgentRun.sessionID

def createAgentRun (t : AgentRuns Run) (id : Run) (sessionID : String) (startedAt : Nat) :
    Option (AgentRuns Run) :=
  Table.insert t { id := id, sessionID := sessionID, status := .running, startedAt := startedAt }

/-- `UpdateAgentRun` with a status. The update has no condition but the id. -/
def updateAgentRun (t : AgentRuns Run) (id : Run) (status : RunStatus) : AgentRuns Run :=
  Table.modify t id (fun row => { row with status := status }) fun _ => rfl

instance decidableIsRunning (t : AgentRuns Run) (sessionID : String) :
    ∀ id, Decidable (t.IsRunning sessionID id)
  | none => inferInstanceAs (Decidable (_ = _))
  | some id => inferInstanceAs (Decidable (∃ row ∈ t.running sessionID, row.id = id))

instance decidableIsLatestRunning (t : AgentRuns Run) (sessionID : String) :
    ∀ id, Decidable (t.IsLatestRunning sessionID id)
  | none => inferInstanceAs (Decidable (_ = _))
  | some id => inferInstanceAs (Decidable (∃ row ∈ t.running sessionID, row.id = id
      ∧ ∀ row' ∈ t.running sessionID, row'.startedAt ≤ row.startedAt))

variable {id id' : Run}

theorem getAgentRun_of_isRunning (h : t.IsRunning sessionID (some id)) :
    ∃ r, t.getAgentRun id = some r ∧ r.sessionID = sessionID ∧ r.status = .running := by
  obtain ⟨r, hr, rfl⟩ := h
  obtain ⟨hm, hr⟩ := List.mem_filter.mp hr
  simp only [decide_eq_true_eq] at hr
  exact ⟨r, Table.find?_of_mem hm, hr⟩

theorem getAgentRun_updateAgentRun (t : AgentRuns Run) (id id' : Run) (status : RunStatus) :
    (t.updateAgentRun id status).getAgentRun id'
      = if id' = id then (t.getAgentRun id').map fun r => { r with status := status }
        else t.getAgentRun id' :=
  Table.find?_modify _ _ _ _ _

theorem sessionOf_updateAgentRun (t : AgentRuns Run) (id id' : Run) (s : RunStatus) :
    (t.updateAgentRun id s).sessionOf id' = t.sessionOf id' := by
  unfold sessionOf
  rw [getAgentRun_updateAgentRun]
  split
  · rw [map_map]
    rfl
  · rfl

theorem statusOf_updateAgentRun (t : AgentRuns Run) (id id' : Run) (s : RunStatus) :
    (t.updateAgentRun id s).statusOf id'
      = if id' = id then (t.statusOf id').map fun _ => s else t.statusOf id' := by
  unfold statusOf
  rw [getAgentRun_updateAgentRun]
  split
  · rw [map_map, map_map]
    rfl
  · rfl

variable {startedAt : Nat}

section

variable (h : t.createAgentRun id sessionID startedAt = some t')

include h

theorem getAgentRun_createAgentRun
    {row : AgentRun Run} (hr : t.getAgentRun id' = some row) : t'.getAgentRun id' = some row := by
  have hn : id' ≠ id := by
    rintro rfl
    rw [getAgentRun, (Table.insert_eq_some h).1] at hr
    cases hr
  rw [getAgentRun, Table.find?_insert h, if_neg hn]
  exact hr

theorem map_createAgentRun {V : Type} {f : AgentRun Run → V} {v : V}
    (hv : (t.getAgentRun id').map f = some v) : (t'.getAgentRun id').map f = some v := by
  obtain ⟨r, hr, hv⟩ := map_eq_some_iff.mp hv
  exact map_eq_some_iff.mpr ⟨r, getAgentRun_createAgentRun h hr, hv⟩

end

end AgentRuns

end Daao.Database

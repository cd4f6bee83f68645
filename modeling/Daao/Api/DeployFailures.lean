/-
Daao.Api.DeployFailures — what a deployment leaves behind when its command
does not get out.

`HandleDeployAgent` takes back nothing. Once it has inserted the session,
every later error leaves it PROVISIONING; once it has inserted the run, a
command that finds no stream, or no room, leaves the run running, and the
response is 201. `RunAgent` inserts no session, so the insert of its run
fails on the reference and nothing is left.
-/
import Daao.Api.AgentCreate

namespace Daao.Api

open Daao.Lib Daao.Sessions Daao.Database

section

variable {Id Ch : Type} [Uuid Id] [DecidableEq Id] (fails : Failures) (srv : AgentServer Id Ch)
  (s : Store Id) (d : Deployment Id)

/-- No run that was not there before is running, and every session that
was not there before is terminated. -/
structure NothingLeft (before after : Store Id) : Prop where
  runs : ∀ run ∈ after.runs.rows, run.id ∉ before.runs.rows.map AgentRunRecord.id →
    run.status ≠ .running
  sessions : ∀ row ∈ after.sessions.rows, row.id ∉ before.sessions.rows.map SessionRecord.id →
    row.session.state = .terminated

omit [Uuid Id] [DecidableEq Id] in
theorem nothingLeft_refl : NothingLeft s s :=
  { runs := fun _ hr hn => absurd (List.mem_map_of_mem hr) hn
    sessions := fun _ hro hn => absurd (List.mem_map_of_mem hro) hn }

section

omit [Uuid Id]

theorem rows_insertRun {s s' : Store Id} {r : AgentRunRecord Id} (h : s.insertRun r = some s') :
    r.id ∉ s.runs.rows.map AgentRunRecord.id ∧ s'.runs.rows = s.runs.rows ++ [r]
      ∧ s'.sessions = s.sessions := by
  unfold Store.insertRun at h
  split at h
  · split at h
    · split at h
      · cases h
      rename_i runs hr
      cases h
      obtain ⟨hf, hro⟩ := Table.insert_eq_some hr
      exact ⟨Table.find?_eq_none_iff.mp hf, hro, rfl⟩
    · cases h
  · cases h

theorem rows_insertSession {s s' : Store Id} {r : SessionRecord Id}
    (h : s.insertSession r = some s') :
    r.id ∉ s.sessions.rows.map SessionRecord.id ∧ s'.sessions.rows = s.sessions.rows ++ [r]
      ∧ s'.runs = s.runs := by
  unfold Store.insertSession at h
  split at h
  · cases h
  rename_i sessions hs
  cases h
  obtain ⟨hf, hr⟩ := Table.insert_eq_some hs
  exact ⟨Table.find?_eq_none_iff.mp hf, hr, rfl⟩

theorem not_nothingLeft_of_insertRun {b s s' : Store Id} {r : AgentRunRecord Id}
    (hb : s.runs = b.runs) (hs : r.status = .running)
    (h : s.insertRun r = some s') : ¬ NothingLeft b s' := by
  obtain ⟨hn, hr, -⟩ := rows_insertRun h
  intro hl
  refine hl.runs r (by rw [hr]; simp) ?_ hs
  rw [← hb]
  exact hn

theorem not_nothingLeft_of_insertSession {s s' : Store Id} {r : SessionRecord Id}
    (hs : r.session.state ≠ .terminated) (h : s.insertSession r = some s') :
    ¬ NothingLeft s s' := by
  obtain ⟨hn, hr, -⟩ := rows_insertSession h
  intro hl
  exact hs (hl.sessions r (by rw [hr]; simp) hn)

end

def Deployment.Delivered (srv : AgentServer Id Ch) : Prop :=
  (deployConfig d.agent d.req.config).isSome = true
    ∧ srv.sendToSatellite d.target.satelliteID = true

omit [DecidableEq Id] in
theorem store_sendDeployment (d : Deployment Id) (i r : Id) :
    (sendDeployment srv s d i r).store = s := by
  unfold sendDeployment
  split <;> rfl

omit [DecidableEq Id] in
theorem sent_sendDeployment_iff (d : Deployment Id) (i r : Id) :
    (sendDeployment srv s d i r).sent = none
      ↔ ¬ d.Delivered srv := by
  unfold sendDeployment Deployment.Delivered
  cases deployConfig d.agent d.req.config with
  | none => simp
  | some config => simp

def Settled (before : Store Id) (out : DeployOutcome Id) : Prop :=
  out.sent = none → NothingLeft before out.store

theorem settled_startRun_iff (srv : AgentServer Id Ch) {b s : Store Id}
    (hb : s.runs = b.runs) (d : Deployment Id) (runID sessionID : Id) :
    Settled b (d.startRun fails srv s runID sessionID)
      ↔ d.Delivered srv ∧ (d.insertRun fails srv s runID sessionID).isSome = true
        ∨ d.insertRun fails srv s runID sessionID = none ∧ NothingLeft b s := by
  unfold Settled Deployment.startRun
  cases hi : d.insertRun fails srv s runID sessionID with
  | none => simp [DeployOutcome.fail]
  | some s' =>
    have hl : ¬ NothingLeft b s' := not_nothingLeft_of_insertRun hb rfl (attempt_eq_some hi)
    simp only [store_sendDeployment, sent_sendDeployment_iff, Option.isSome_some, and_true,
      reduceCtorEq, false_and, or_false]
    exact ⟨fun h => by_contra fun hn => hl (h hn), absurd⟩

/-- When the handler leaves nothing, from its first insert on: with a
session of the request, the command is delivered if the run is inserted;
with one of its own, the run is inserted and the command delivered. -/
def Deployment.Clean (fails : Failures) (srv : AgentServer Id Ch)
    (s : Store Id) (newSessionID runID : Id) : Prop :=
  match d.req.session with
  | some text =>
    ∀ id, Uuid.parse text = some id → (d.insertRun fails srv s runID id).isSome = true →
      d.Delivered srv
  | none =>
    ∀ s', d.insertSession fails srv s newSessionID = some s' →
      (d.insertRun fails srv s' runID newSessionID).isSome = true ∧ d.Delivered srv

theorem settled_execute_iff (srv : AgentServer Id Ch) (s : Store Id)
    (d : Deployment Id) (newSessionID runID : Id) :
    Settled s (d.execute fails srv s newSessionID runID)
      ↔ d.Clean fails srv s newSessionID runID := by
  have hf : ∀ t m, Settled s (.fail s t m) := fun _ _ _ => nothingLeft_refl s
  unfold Deployment.execute Deployment.Clean
  cases d.req.session with
  | some text =>
    simp only
    cases (Uuid.parse text : Option Id) with
    | none => simp [hf]
    | some id =>
      simp only [settled_startRun_iff fails srv (rfl : s.runs = s.runs), Option.some.injEq,
        forall_eq', nothingLeft_refl, and_true]
      cases d.insertRun fails srv s runID id <;> simp
  | none =>
    cases hin : d.insertSession fails srv s newSessionID with
    | none => simp [hf]
    | some s' =>
      have hi := attempt_eq_some hin
      have hl : ¬ NothingLeft s s' :=
        not_nothingLeft_of_insertSession (by simp [newSession]) hi
      simp only [settled_startRun_iff fails srv (rows_insertSession hi).2.2, hl,
        and_false, or_false, Option.some.injEq, forall_eq']
      exact and_comm

/-- **What a deployment leaves behind.** For every server (the satellite's
stream absent, full or free), every database and every set of statements
that fail: a call of `HandleDeployAgent` leaves nothing without its command
just when it stops before its first insert or meets `Clean`, and a call of
`RunAgent` leaves nothing. -/
theorem settled_iff (fails : Failures) (srv : AgentServer Id Ch) (s : Store Id) :
    (∀ newSessionID runID agentID body,
        Settled s (handleDeployAgentWith fails srv s newSessionID runID agentID body)
          ↔ ∀ d, prepareDeployment fails srv s agentID body = .ok d →
              d.Clean fails srv s newSessionID runID)
      ∧ ∀ sessionID runID agentID satelliteID triggerSource,
          s.sessions.find? sessionID = none →
          (runAgentWith fails srv s sessionID runID agentID satelliteID triggerSource).sent = none →
          NothingLeft s
            (runAgentWith fails srv s sessionID runID agentID satelliteID triggerSource).store := by
  constructor
  · intro newSessionID runID agentID body
    unfold handleDeployAgentWith
    cases prepareDeployment fails srv s agentID body with
    | error e => simp [Settled, DeployOutcome.fail, nothingLeft_refl]
    | ok d => simp [settled_execute_iff]
  · grind [runAgentWith_of_fresh, nothingLeft_refl]

end

def offlineServer : AgentServer Nat Unit :=
  { connectedServer with
    registry := { sessionStreams := fun _ => none, satelliteStreams := fun _ => none } }

def busyServer : AgentServer Nat Unit := { connectedServer with hasRoom := fun _ => false }

theorem settled_scheduled :
    let s := storeWith (agentWith (.obj []) (.obj []))
    s.sessions.find? 8 = none ∧ (runAgentWith .none offlineServer s 8 5 1 1 "schedule").sent = none
      ∧ NothingLeft s (runAgentWith .none offlineServer s 8 5 1 1 "schedule").store :=
  ⟨rfl, rfl, (settled_iff .none offlineServer (storeWith (agentWith (.obj []) (.obj [])))).2
    8 5 1 1 "schedule" rfl rfl⟩

def deployLeft (out : DeployOutcome Nat) :
    Option Nat × Bool × List (Nat × RunStatus) × List (Nat × SessionState) :=
  (out.response.map Prod.fst, out.sent.isSome,
    out.store.runs.rows.map fun run => (run.id, run.status),
    out.store.sessions.rows.map fun row => (row.id, row.session.state))

/-- The satellite is not connected, or its channel is full: the response is
201, and the run and its session stay. The insert of the run fails: the
response is 500, and the session stays. -/
theorem deployment_left :
    let s := storeWith (agentWith (.obj []) (.obj []))
    let left := [(7, SessionState.running), (8, SessionState.provisioning)]
    deployLeft (handleDeployAgentWith .none offlineServer s 8 5 "1" (some (plainRequest 1)))
        = (some 201, false, [(5, .running)], left)
      ∧ deployLeft (handleDeployAgentWith .none busyServer s 8 5 "1" (some (plainRequest 1)))
        = (some 201, false, [(5, .running)], left)
      ∧ deployLeft (handleDeployAgentWith { Failures.none with createAgentRun := true }
          connectedServer s 8 5 "1" (some (plainRequest 1)))
        = (some 500, false, [], left) := by
  refine ⟨?_, ?_, ?_⟩ <;> decide

end Daao.Api

/-
Daao.Api.AgentRoutingTheorems — from the routing that the Cockpit saves to
the satellite that an agent is sent to.

The Cockpit saves the keys `mode`, `require_tags` and `prefer_tags`
(`cockpit/src/components/AgentRoutingConfig.tsx`). The handler decodes them
into `DispatchOptions`, whose fields have no tags. Keys are matched up to
case and underscores count, so `mode` is found and the tags are not.
-/
import Daao.Api.AgentsTheorems

namespace Daao.Api

open Daao.Lib Daao.Dispatch

/-! ## 1. What the Cockpit saves -/

inductive RoutingMode where
  | targeted
  | autoDispatch

def RoutingMode.text : RoutingMode → String
  | .targeted => "targeted"
  | .autoDispatch => "auto-dispatch"

structure RoutingConfig where
  mode : RoutingMode
  requireTags : Option (List String)
  preferTags : Option (List String)

def tagsEntry (key : String) : Option (List String) → List (String × Json)
  | none => []
  | some tags => [(key, .arr (tags.map .str))]

/-- `JSON.stringify(data.routing)`, with the keys in the order of `jsonb`. -/
def RoutingConfig.toJson (config : RoutingConfig) : Json :=
  .obj (("mode", .str config.mode.text)
    :: tagsEntry "prefer_tags" config.preferTags ++ tagsEntry "require_tags" config.requireTags)

variable (routing : Option RoutingConfig)

def savedRouting : Option Json :=
  routing.map RoutingConfig.toJson

def requiredTags : List String :=
  (routing.bind RoutingConfig.requireTags).getD []

def preferredTags : List String :=
  (routing.bind RoutingConfig.preferTags).getD []

/-! ## 2. What the handler decodes -/

theorem fieldOf_tags :
    fieldOf dispatchOptionsFields "prefer_tags" = none
      ∧ fieldOf dispatchOptionsFields "require_tags" = none :=
  ⟨rfl, rfl⟩

theorem parseRouting_saved (config : RoutingConfig) :
    parseRouting (some config.toJson)
      = some { DispatchOptions.zero with mode := config.mode.text } := by
  obtain ⟨mode, require, prefer⟩ := config
  have hm : fieldOf dispatchOptionsFields "mode" = some (.scalar "Mode" Json.asString
      fun o mode => { o with mode := mode }) := rfl
  cases require <;> cases prefer <;>
    simp [parseRouting, RoutingConfig.toJson, tagsEntry, unmarshal, decodeFields, acceptsFields,
      hm, fieldOf_tags.1, fieldOf_tags.2, StructField.scalar, Json.asString]

/-! ## 3. Where a deployment goes -/

section

variable {Id Ch : Type} [Uuid Id]

theorem autoDispatch_saved {v : AgentServer Id Ch} {s : Store Id} {a : AgentDefinition Id}
    {config : RoutingConfig} {t : Target Id} (hr : a.routing = some config.toJson)
    (h : autoDispatchWith v s .none a = .ok t) :
    config.mode = .autoDispatch
      ∧ ∃ r, dispatch v.best s.satellites v.hasStream v.now .zero = .ok r
        ∧ t.satelliteID = r.satelliteID ∧ t.score = r.score := by
  unfold autoDispatchWith at h
  rw [hr, parseRouting_saved] at h
  simp only at h
  split at h
  · cases h
  rename_i hm
  have ha : config.mode = .autoDispatch := by
    cases hc : config.mode with
    | targeted => exact absurd (by simp [hc, RoutingMode.text]) hm
    | autoDispatch => rfl
  refine ⟨ha, ?_⟩
  split at h
  · cases h
  split at h
  · cases h
  split at h
  · cases h
  rename_i r hre
  cases h
  exact ⟨r, hre, rfl, rfl⟩

/-- An outcome that sends to the target only, and reports its score. -/
structure Targets (target : Target Id) (out : DeployOutcome Id) : Prop where
  sent : ∀ satelliteID cmd, out.sent = some (satelliteID, cmd) → satelliteID = target.satelliteID
  response : ∀ status resp, out.response = some (status, .inr resp) →
    resp.satelliteID = target.satelliteID ∧ resp.dispatchScore = target.score

omit [Uuid Id] in
theorem targets_fail (a : Target Id) (s : Store Id) (t : Nat) (m : String) :
    Targets a (.fail s t m) where
  sent _ _ h := by cases h
  response _ _ h := by cases h

theorem targets_sendDeployment (srv : AgentServer Id Ch) (s : Store Id) (d : Deployment Id)
    (sessionID runID : Id) : Targets d.target (sendDeployment srv s d sessionID runID) := by
  unfold sendDeployment
  split
  · exact ⟨fun _ _ h => (by cases h), fun _ _ h => (by cases h)⟩
  refine { sent := fun satelliteID cmd h => ?_, response := fun status resp h => ?_ }
  · grind
  cases h
  exact ⟨rfl, rfl⟩

variable [DecidableEq Id]

theorem targets_execute (srv : AgentServer Id Ch) (s : Store Id) (d : Deployment Id)
    (newSessionID runID : Id) :
    Targets d.target (d.execute .none srv s newSessionID runID) := by
  unfold Deployment.execute Deployment.startRun
  grind [targets_fail, targets_sendDeployment]

theorem prepareDeployment_unaddressed {srv : AgentServer Id Ch} {s : Store Id}
    {agent : AgentDefinition Id} {req : DeployAgentRequest} {d : Deployment Id}
    (ha : s.agents.find? agent.id = some agent) (hr : req.satelliteID = "")
    (h : prepareDeployment .none srv s (Uuid.text agent.id) (some req) = .ok d) :
    autoDispatchWith srv s .none agent = .ok d.target := by
  simp only [prepareDeployment, Uuid.parse_text, ha, selectSatelliteWith, hr, if_true] at h
  grind

/-! ## 4. Which routings are followed -/

/-- A satellite that gets a command has the required tags and a stream, and
the score of a deployment is that of its satellite with the preferred
tags. -/
structure FollowsRouting (routing : Option RoutingConfig) (srv : AgentServer Id Ch) (s : Store Id)
    (out : DeployOutcome Id) : Prop where
  tags : ∀ satelliteID cmd, out.sent = some (satelliteID, cmd) →
    ∃ row, s.satellites.find? satelliteID = some row
      ∧ (∀ tag ∈ requiredTags routing, tag ∈ row.tags) ∧ srv.hasStream satelliteID = true
  score : ∀ status resp, out.response = some (status, .inr resp) →
    ∃ row, s.satellites.find? resp.satelliteID = some row
      ∧ resp.dispatchScore
        = scoreSatellite (candidateOf srv.hasStream row) (preferredTags routing)

theorem followsRouting_of_untagged {routing : Option RoutingConfig} {v : AgentServer Id Ch}
    {s : Store Id} {a : AgentDefinition Id} {e : DeployAgentRequest}
    (n r : Id) (hr : a.routing = savedRouting routing)
    (ha : s.agents.find? a.id = some a) (hreq : e.satelliteID = "")
    (hu : ∀ config ∈ routing, config.mode = .autoDispatch →
      requiredTags routing = [] ∧ preferredTags routing = []) :
    FollowsRouting routing v s
      (handleDeployAgent v s n r (Uuid.text a.id) (some e)) := by
  unfold handleDeployAgent handleDeployAgentWith
  cases hd : prepareDeployment .none v s (Uuid.text a.id) (some e) with
  | error e => exact ⟨fun _ _ h => (by cases h), fun _ _ h => (by cases h)⟩
  | ok d =>
  have ht := prepareDeployment_unaddressed ha hreq hd
  have hta := targets_execute v s d n r
  cases hc : routing with
  | none =>
    rw [hc] at hr
    simp [autoDispatchWith, show a.routing = none from hr, parseRouting] at ht
  | some config =>
    rw [hc] at hr
    obtain ⟨hm, res, hre, hid, hs⟩ := autoDispatch_saved hr ht
    obtain ⟨hrq, hp⟩ := hu config hc hm
    obtain ⟨c, row, he, hro, hb, -⟩ := dispatch_spec hre
    have hfi : s.satellites.find? d.target.satelliteID = some row := by
      rw [hid, hro]
      exact Table.find?_of_mem he.stored
    rw [← hc]
    constructor
    · grind [hta.sent, he.stream]
    intro t p hrs
    obtain ⟨hsa, hrp⟩ := hta.response t p hrs
    refine ⟨row, by rw [hsa]; exact hfi, ?_⟩
    rw [hrp, hs, hb, he.scored, hp]
    rfl

variable (config : RoutingConfig)

def routedAgent : AgentDefinition Id :=
  { id := Uuid.zero, name := "reviewer", version := "1.0.0", type := "specialist"
    category := "operations", provider := "local", model := "small", systemPrompt := ""
    toolsConfig := .obj [], guardrails := .obj [], routing := some config.toJson }

def idleSatellite (tags : List String) : Satellite Id :=
  { id := Uuid.zero, status := "active", tags := tags
    telemetry := some { cpuPercent := none, memoryPercent := none, diskPercent := none
                        createdAt := 0 } }

def oneSatellite (tags : List String) : Store Id :=
  { agents := { rows := [routedAgent config], primaryKey := List.nodup_singleton _ }
    satellites := { rows := [idleSatellite tags], primaryKey := List.nodup_singleton _ }
    sessions := { rows := [], primaryKey := List.nodup_nil }
    runs := { rows := [], primaryKey := List.nodup_nil }
    sessionRef := fun _ h => nomatch h }

def openServer (ch : Ch) : AgentServer Id Ch :=
  { dbPool := true, licensed := true, dispatcher := true
    registry := { sessionStreams := fun _ => none, satelliteStreams := fun _ => some ch }
    hasRoom := fun _ => true, best := .first, now := 0 }

def unaddressed : DeployAgentRequest :=
  { satelliteID := "", sessionID := none, config := .empty, secrets := .empty }

def idleTarget (ch : Ch) (tags : List String) : Target Id :=
  { satelliteID := Uuid.zero, dispatched := true
    score := scoreSatellite
      (candidateOf (openServer ch : AgentServer Id Ch).hasStream (idleSatellite tags)) [] }

omit [DecidableEq Id] in
theorem autoDispatch_oneSatellite (ch : Ch) {config : RoutingConfig}
    (hm : config.mode = .autoDispatch) (tags : List String) :
    autoDispatchWith (openServer ch : AgentServer Id Ch) (oneSatellite config tags) .none
      (routedAgent config) = .ok (idleTarget ch tags) := by
  have hr : parseRouting (routedAgent config : AgentDefinition Id).routing
      = some { DispatchOptions.zero with mode := "auto-dispatch" } := by
    rw [show (routedAgent config : AgentDefinition Id).routing = some config.toJson from rfl,
      parseRouting_saved, hm]
    rfl
  unfold autoDispatchWith
  rw [hr]
  rfl

theorem find?_oneSatellite (tags : List String) :
    (oneSatellite config tags : Store Id).agents.find? Uuid.zero = some (routedAgent config)
      ∧ (oneSatellite config tags : Store Id).satellites.find? Uuid.zero
        = some (idleSatellite tags) := by
  simp [Table.find?, oneSatellite, routedAgent, idleSatellite]

theorem handleDeployAgent_oneSatellite (ch : Ch) {config : RoutingConfig}
    (hm : config.mode = .autoDispatch) (t : List String) :
    ∃ c r,
      (handleDeployAgent (openServer ch : AgentServer Id Ch) (oneSatellite config t) Uuid.zero
          Uuid.zero (Uuid.text (Uuid.zero : Id)) (some unaddressed)).sent = some (Uuid.zero, c)
        ∧ (handleDeployAgent (openServer ch : AgentServer Id Ch) (oneSatellite config t)
          Uuid.zero Uuid.zero (Uuid.text (Uuid.zero : Id)) (some unaddressed)).response
          = some (201, .inr r)
        ∧ r.satelliteID = Uuid.zero
        ∧ r.dispatchScore = scoreSatellite
          (candidateOf (openServer ch : AgentServer Id Ch).hasStream (idleSatellite t)) [] := by
  obtain ⟨ha, hs⟩ := @find?_oneSatellite Id _ _ config t
  have hd := @autoDispatch_oneSatellite Id Ch _ ch config hm t
  obtain ⟨s', -, hde⟩ := @execute_of_fresh Id Ch _ _ (openServer ch) (oneSatellite config t)
    { agent := routedAgent config, req := unaddressed, target := idleTarget ch t }
    Uuid.zero Uuid.zero ha (by simp [idleTarget, hs]) rfl rfl rfl
  have hc : handleDeployAgent (openServer ch : AgentServer Id Ch) (oneSatellite config t)
      Uuid.zero Uuid.zero (Uuid.text (Uuid.zero : Id)) (some unaddressed)
      = sendDeployment (openServer ch) s'
          { agent := routedAgent config, req := unaddressed, target := idleTarget ch t }
          Uuid.zero Uuid.zero := by
    rw [← hde]
    simp only [handleDeployAgent, handleDeployAgentWith, prepareDeployment, Uuid.parse_text, ha,
      selectSatelliteWith, unaddressed, hd]
    simp [openServer, Failures.none, attempt, idleTarget, hs, idleSatellite]
  rw [hc]
  exact ⟨_, _, rfl, rfl, rfl, rfl⟩

/-- **Which saved routings are followed**, on every set of satellites: those
that do not dispatch, and those without tags. -/
theorem followsRouting_iff (ch : Ch) (routing : Option RoutingConfig) :
    (∀ (srv : AgentServer Id Ch) (s : Store Id) (agent : AgentDefinition Id)
        (newSessionID runID : Id) (req : DeployAgentRequest),
        agent.routing = savedRouting routing → s.agents.find? agent.id = some agent →
        req.satelliteID = "" →
        FollowsRouting routing srv s
          (handleDeployAgent srv s newSessionID runID (Uuid.text agent.id) (some req)))
      ↔ ∀ config ∈ routing, config.mode = .autoDispatch →
          requiredTags routing = [] ∧ preferredTags routing = [] := by
  constructor
  · intro h config hc hm
    cases hc
    have hf : ∀ tags, FollowsRouting (some config) (openServer ch) (oneSatellite config tags)
        (handleDeployAgent (openServer ch : AgentServer Id Ch) (oneSatellite config tags) Uuid.zero
          Uuid.zero (Uuid.text (Uuid.zero : Id)) (some unaddressed)) := fun tags =>
      h _ _ (routedAgent config) _ _ _ rfl (find?_oneSatellite config tags).1 rfl
    have hs : ∀ tags row, (oneSatellite config tags : Store Id).satellites.find? Uuid.zero
        = some row → row = idleSatellite tags := by
      intro tags row hro
      rw [(find?_oneSatellite config tags).2] at hro
      exact (Option.some.inj hro).symm
    constructor
    · -- a satellite without tags
      obtain ⟨cmd, -, hse, -⟩ := @handleDeployAgent_oneSatellite Id Ch _ _ ch config hm []
      obtain ⟨row, hro, hr, -⟩ := (hf []).tags _ _ hse
      rw [hs [] row hro] at hr
      rw [List.eq_nil_iff_forall_not_mem]
      exact fun tag ht => nomatch hr tag ht
    -- a satellite with the preferred tags
    obtain ⟨-, resp, -, hre, hid, hsc⟩ :=
      @handleDeployAgent_oneSatellite Id Ch _ _ ch config hm (preferredTags (some config))
    obtain ⟨row, hro, hp⟩ := (hf _).score _ _ hre
    rw [hid] at hro
    rw [hs _ row hro, hsc, scoreSatellite_eq_iff] at hp
    rw [List.eq_nil_iff_forall_not_mem]
    exact fun tag ht => hp tag ht ht
  · grind [followsRouting_of_untagged]

end

def gpuRouting : RoutingConfig :=
  { mode := .autoDispatch, requireTags := some ["gpu"], preferTags := some [] }

/-- An agent that requires a tag is sent to the satellite without tags. -/
theorem required_tag_ignored :
    (handleDeployAgent connectedServer
          (storeWith { agentWith (.obj []) (.obj []) with routing := some gpuRouting.toJson })
          8 5 "1" (some unaddressed)).sent.map Prod.fst = some 1
      ∧ ((storeWith { agentWith (.obj []) (.obj []) with
          routing := some gpuRouting.toJson }).satellites.find? 1).map Satellite.tags
            = some [] := by
  decide

end Daao.Api

/-
Daao.Api.AgentCreate — creating an agent (`HandleCreateAgent` in
`internal/api/agents.go`), and which stored agents can be deployed.

`tools_config` and `guardrails` of the request are raw documents. A
`guardrails` of `null` becomes a NULL, which the table refuses; a
`tools_config` of `null` is stored as it is. The deployment decodes it into
a map, and the decoder makes that map nil. The first entry that the
deployment writes into it is then a panic, and an agent that was created
has a provider and a model to write.
-/
import Daao.Api.AgentVersions
import Daao.Api.AgentsTheorems

namespace Daao.Api

open Daao.Lib Daao.Database

/-! ## 1. `HandleCreateAgent` -/

/-- `CreateAgentRequest`. A raw document is empty if its field is absent. -/
structure CreateAgentRequest where
  name : String
  displayName : String
  description : Option String
  version : String
  type : String
  category : String
  icon : Option String
  provider : String
  model : String
  systemPrompt : String
  toolsConfig : String
  guardrails : String
  schedule : Option String
  trigger : Option String
  outputConfig : Option String
  routing : Option String

namespace CreateAgentRequest

variable (req : CreateAgentRequest)

def required : List (String × String) :=
  [ ("name", req.name), ("display_name", req.displayName), ("type", req.type),
    ("category", req.category), ("provider", req.provider), ("model", req.model) ]

def validate : Option String :=
  match req.required.find? fun field => field.2 = "" with
  | some field => some (field.1 ++ " is required")
  | none =>
    if req.type ≠ "specialist" ∧ req.type ≠ "autonomous" then
      some "type must be 'specialist' or 'autonomous'"
    else none

def definition {Id : Type} [Uuid Id] : Database.AgentDefinition Id :=
  { id := Uuid.zero
    name := req.name
    displayName := req.displayName
    description := req.description
    version := if req.version = "" then "1.0.0" else req.version
    type := req.type
    category := req.category
    icon := req.icon
    provider := req.provider
    model := req.model
    systemPrompt := req.systemPrompt
    toolsConfig := if req.toolsConfig = "" then "{}" else req.toolsConfig
    guardrails :=
      if req.guardrails = "" ∨ req.guardrails = "null" then none else some req.guardrails
    schedule := req.schedule
    trigger := req.trigger
    outputConfig := req.outputConfig
    routing := req.routing
    isBuiltin := false
    isEnterprise := false
    createdAt := 0
    updatedAt := 0 }

end CreateAgentRequest

section

variable {Id Doc : Type} [DecidableEq Id] [Uuid Id] [Jsonb Doc]

/-- `HandleCreateAgent`; the body is `none` if it is not JSON of the right
shape. -/
def handleCreateAgent (dbPool : Bool) (t : AgentRows Id Doc) (newID : Id)
    (body : Option CreateAgentRequest) (now : Nat) : AgentRows Id Doc × AgentReply Id :=
  if !dbPool then (t, 503, .inl "database not configured")
  else
    match body with
    | none => (t, 400, .inl "invalid JSON request body")
    | some req =>
      match req.validate with
      | some message => (t, 400, .inl message)
      | none =>
        match createAgentDefinition t newID req.definition now with
        | .error .duplicate => (t, 409, .inl "agent with this name already exists")
        | .error .invalid => (t, 500, .inl "failed to create agent")
        | .ok (t', created) => (t', 201, .inr created)

/-- The agent that `HandleDeployAgent` reads from a row; `json` is what the
decoder sees of a stored document. -/
def deployedAgent (json : Doc → Json) (row : AgentRow Id Doc) : AgentDefinition Id :=
  { id := row.id
    name := row.definition.name
    version := row.definition.version
    type := row.definition.type
    category := row.definition.category
    provider := row.definition.provider
    model := row.definition.model
    systemPrompt := row.definition.systemPrompt
    toolsConfig := json row.definition.toolsConfig
    guardrails := json row.definition.guardrails
    routing := row.definition.routing.map json }

end

/-! ## 2. What is written into the configuration -/

section

variable {Id : Type}

/-- The deployment builds a configuration, and it has the agent's
provider, model and system prompt where they are not empty. -/
structure ConfigBuilt (agent : AgentDefinition Id) (request : Config) (config : Config) : Prop where
  built : deployConfig agent request = some config
  provider : agent.provider ≠ "" → config.get "provider" = some agent.provider
  model : agent.model ≠ "" → config.get "model" = some agent.model
  systemPrompt : agent.systemPrompt ≠ "" → config.get "system_prompt" = some agent.systemPrompt

variable (agent : AgentDefinition Id)

theorem lastEntry_agentEntries_identity {key : String} (hk : key ∈ identityKeys) :
    lastEntry key (agentEntries agent) = lastEntry key (identityEntries agent) := by
  have ho : ∀ key ∈ identityKeys, key ∉ guardrailKeys ∧ key ∉ toolKeys := by decide
  simp [agentEntries, (hasKeys_guardrailEntries agent.guardrails).lastEntry_eq_none (ho key hk).1,
    (hasKeys_toolEntries agent.toolsConfig).lastEntry_eq_none (ho key hk).2]

theorem configBuilt_of_deployConfig {agent : AgentDefinition Id} {re config : Config}
    (h : deployConfig agent re = some config) : ConfigBuilt agent re config := by
  have hg : ∀ k ∈ identityKeys, ∀ v, lastEntry k (identityEntries agent) = some v →
      config.get k = some v := by
    intro k hk v hl
    rw [get_deployConfig h, lastEntry_agentEntries_identity agent hk, hl, Option.some_or]
  exact
    { built := h
      provider := fun hne => hg _ (by decide) _ (by simp [identityEntries, hne])
      model := fun hne => hg _ (by decide) _ (by simp [identityEntries, hne])
      systemPrompt := fun hne => hg _ (by decide) _ (by simp [identityEntries, hne]) }

/-- **Which agents can be deployed.** For every agent and every request the
configuration is built, with the agent's own identity in it, unless
`tools_config` is the document `null` and the request or the agent has an
entry to write. -/
theorem configBuilt_iff (agent : AgentDefinition Id) (request : Config) :
    (∃ config, ConfigBuilt agent request config)
      ↔ agent.toolsConfig ≠ .null ∨ (request.rows = [] ∧ agentEntries agent = []) := by
  have hn := deployConfig_eq_none_iff agent request
  constructor
  · rintro ⟨config, hb⟩
    by_contra hno
    rw [not_or, not_not, not_and_or] at hno
    have hs := hb.built
    rw [hn.mpr hno] at hs
    cases hs
  intro h
  cases hd : deployConfig agent request with
  | none => grind
  | some config => exact ⟨config, configBuilt_of_deployConfig hd⟩

end

/-! ## 3. A created agent -/

def createRequest (toolsConfig : String) : CreateAgentRequest :=
  { name := "reviewer", displayName := "Reviewer", description := none, version := ""
    type := "specialist", category := "operations", icon := none, provider := "local"
    model := "small", systemPrompt := "", toolsConfig := toolsConfig, guardrails := "{}"
    schedule := none, trigger := none, outputConfig := none, routing := none }

def noAgents : AgentRows Nat DocText :=
  { rows := [], primaryKey := List.nodup_nil, uniqueName := List.nodup_nil, typeCheck := by simp }

def documentOf (doc : DocText) : Json := if doc.val = "null" then .null else .obj []

/-- The endpoint stores `null`, and the deployment of what it stored
panics on a request that is empty. -/
theorem created_null_panics :
    (handleCreateAgent true noAgents 7 (some (createRequest "null")) 0).2.1 = 201
      ∧ (handleCreateAgent true noAgents 7 (some (createRequest "null")) 0).1.rows.map
          (fun row => (row.id, (documentOf row.definition.toolsConfig).isNull,
            (deployConfig (deployedAgent documentOf row) .empty).isNone)) = [(7, true, true)] := by
  decide

end Daao.Api

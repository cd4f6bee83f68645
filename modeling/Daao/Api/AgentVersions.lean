/-
Daao.Api.AgentVersions — updates of an agent with a snapshot of what they
replace, and the rollback to a snapshot (`HandleUpdateAgent` in
`internal/api/agents.go`, `HandleRollbackAgent` in
`internal/api/agent_versions.go`).

`HandleUpdateAgent` marshals the struct `AgentDefinition` it has read, and
stores it under the agent's version before anything is checked. The error
of that insert is ignored, and a version is stored once, so a second
update of the same version stores nothing.

`HandleRollbackAgent` decodes a snapshot into a struct of its own. The
fields of `AgentDefinition` have no tags: a snapshot has the keys
`DisplayName`, `SystemPrompt`, `ToolsConfig` and `OutputConfig`. The
fields of the other struct have the tags `display_name`, `system_prompt`,
`tools_config` and `output_config`, and it has none for the routing.

A run here is a list of requests, one after the other. `replaced` is the
history of the definitions that were current and then got replaced.
-/
import Daao.Api.Agents
import Daao.Database.Agents

namespace Daao.Api

open Daao.Lib Daao.Database

/-! ## 1. The tables -/

structure AgentTables (Id Doc : Type) where
  agents : AgentRows Id Doc
  versions : AgentVersions Id

variable {Id Doc : Type} [DecidableEq Id]

def createAgentVersion (s : AgentTables Id Doc) (row : AgentVersion Id) :
    Option (AgentTables Id Doc) :=
  match s.agents.find? row.agentID with
  | none => none
  | some _ => (s.versions.insert row).map fun versions => { s with versions := versions }

/-! ## 2. Snapshots -/

def jsonPointer : Option String → Json
  | none => .null
  | some s => .str s

variable [Uuid Id] (timeText : Nat → String)

/-- `json.Marshal` of an `AgentDefinition`; a time is a string. -/
def marshalAgent (agent : Database.AgentDefinition Id) : List (String × Json) :=
  [ ("ID", .str (Uuid.text agent.id)),
    ("Name", .str agent.name),
    ("DisplayName", .str agent.displayName),
    ("Description", jsonPointer agent.description),
    ("Version", .str agent.version),
    ("Type", .str agent.type),
    ("Category", .str agent.category),
    ("Icon", jsonPointer agent.icon),
    ("Provider", .str agent.provider),
    ("Model", .str agent.model),
    ("SystemPrompt", .str agent.systemPrompt),
    ("ToolsConfig", .str agent.toolsConfig),
    ("Guardrails", jsonPointer agent.guardrails),
    ("Schedule", jsonPointer agent.schedule),
    ("Trigger", jsonPointer agent.trigger),
    ("OutputConfig", jsonPointer agent.outputConfig),
    ("Routing", jsonPointer agent.routing),
    ("IsBuiltin", .bool agent.isBuiltin),
    ("IsEnterprise", .bool agent.isEnterprise),
    ("CreatedAt", .str (timeText agent.createdAt)),
    ("UpdatedAt", .str (timeText agent.updatedAt)) ]

variable [Jsonb Doc]

def snapshotRow (row : AgentRow Id Doc) (now : Nat) : AgentVersion Id :=
  { agentID := row.id, version := row.definition.version
    snapshot := marshalAgent timeText (scanAgent row), createdAt := now }

structure SnapshotData where
  name : String
  displayName : String
  description : Option String
  version : String
  type : String
  category : String
  icon : Option String
  provider : String
  model : String
  systemPrompt : String
  toolsConfig : String
  guardrails : Option String
  schedule : Option String
  trigger : Option String
  outputConfig : Option String

def SnapshotData.zero : SnapshotData :=
  { name := "", displayName := "", description := none, version := "", type := "", category := ""
    icon := none, provider := "", model := "", systemPrompt := "", toolsConfig := ""
    guardrails := none, schedule := none, trigger := none, outputConfig := none }

def snapshotFields : List (StructField SnapshotData) :=
  [ .scalar "name" Json.asString fun d v => { d with name := v },
    .scalar "display_name" Json.asString fun d v => { d with displayName := v },
    .pointer "description" Json.asString fun d v => { d with description := v },
    .scalar "version" Json.asString fun d v => { d with version := v },
    .scalar "type" Json.asString fun d v => { d with type := v },
    .scalar "category" Json.asString fun d v => { d with category := v },
    .pointer "icon" Json.asString fun d v => { d with icon := v },
    .scalar "provider" Json.asString fun d v => { d with provider := v },
    .scalar "model" Json.asString fun d v => { d with model := v },
    .scalar "system_prompt" Json.asString fun d v => { d with systemPrompt := v },
    .scalar "tools_config" Json.asString fun d v => { d with toolsConfig := v },
    .pointer "guardrails" Json.asString fun d v => { d with guardrails := v },
    .pointer "schedule" Json.asString fun d v => { d with schedule := v },
    .pointer "trigger" Json.asString fun d v => { d with trigger := v },
    .pointer "output_config" Json.asString fun d v => { d with outputConfig := v } ]

/-! ## 3. `HandleUpdateAgent` -/

structure UpdateAgentRequest where
  name : Option String
  displayName : Option String
  description : Option String
  version : Option String
  type : Option String
  category : Option String
  icon : Option String
  provider : Option String
  model : Option String
  systemPrompt : Option String
  toolsConfig : Option String
  guardrails : Option String
  schedule : Option String
  trigger : Option String
  outputConfig : Option String
  routing : Option String

abbrev AgentReply (Id : Type) := Nat × (String ⊕ Database.AgentDefinition Id)

/-- What a request makes of an agent: a field that is absent is kept. -/
def UpdateAgentRequest.updates (req : UpdateAgentRequest) (existing : Database.AgentDefinition Id) :
    Database.AgentDefinition Id :=
  { existing with
    name := req.name.getD existing.name
    displayName := req.displayName.getD existing.displayName
    description := req.description.or existing.description
    version := req.version.getD existing.version
    type := req.type.getD existing.type
    category := req.category.getD existing.category
    icon := req.icon.or existing.icon
    provider := req.provider.getD existing.provider
    model := req.model.getD existing.model
    systemPrompt := req.systemPrompt.getD existing.systemPrompt
    toolsConfig := req.toolsConfig.getD existing.toolsConfig
    guardrails := req.guardrails.or existing.guardrails
    schedule := req.schedule.or existing.schedule
    trigger := req.trigger.or existing.trigger
    outputConfig := req.outputConfig.or existing.outputConfig
    routing := req.routing.or existing.routing }

def UpdateAgentRequest.validate (req : UpdateAgentRequest)
    (existing : Database.AgentDefinition Id) :
    Except (Nat × String) (Database.AgentDefinition Id) :=
  if req.name = some "" then .error (400, "name cannot be empty")
  else if req.type.any (fun type => type ∉ validTypes) then
    .error (400, "type must be 'specialist' or 'autonomous'")
  else .ok (req.updates existing)

/-- The end of both handlers: write the row and answer with it. A row that
is gone makes them dereference nil, which is a panic. -/
def writeAgent (s : AgentTables Id Doc) (id : Id) (updates : Database.AgentDefinition Id)
    (now : Nat) (failure : String) : AgentTables Id Doc × Option (AgentReply Id) :=
  match updateAgentDefinition s.agents id updates now with
  | none => (s, some (500, .inl failure))
  | some none => (s, none)
  | some (some (agents, updated)) => ({ s with agents := agents }, some (200, .inr updated))

/-- The snapshot that is taken first; its failure is ignored. -/
def snapshotAgent (s : AgentTables Id Doc) (id : Id) (now : Nat) : AgentTables Id Doc :=
  match s.agents.find? id with
  | none => s
  | some row => (createAgentVersion s (snapshotRow timeText row now)).getD s

/-- `HandleUpdateAgent`; the body is `none` if it is not JSON of the right
shape. -/
def handleUpdateAgent (dbPool : Bool) (s : AgentTables Id Doc) (agentID : String)
    (body : Option UpdateAgentRequest) (now : Nat) : AgentTables Id Doc × Option (AgentReply Id) :=
  if !dbPool then (s, some (503, .inl "database not configured"))
  else
    match Uuid.parse agentID with
    | none => (s, some (400, .inl "invalid agent_id"))
    | some (id : Id) =>
      let s := snapshotAgent timeText s id now
      match getAgentDefinition s.agents id with
      | none => (s, some (404, .inl "agent not found"))
      | some existing =>
        if existing.isBuiltin then (s, some (403, .inl "cannot update builtin agents"))
        else
          match body with
          | none => (s, some (400, .inl "invalid JSON request body"))
          | some req =>
            match req.validate existing with
            | .error (status, message) => (s, some (status, .inl message))
            | .ok updates => writeAgent s id updates now "failed to update agent"

/-! ## 4. `HandleRollbackAgent` -/

/-- The struct that a rollback writes: what has no field in the snapshot's
struct is the zero value. -/
def rollbackUpdates (existing : Database.AgentDefinition Id) (data : SnapshotData) :
    Database.AgentDefinition Id :=
  { existing with
    name := data.name
    displayName := data.displayName
    description := data.description
    version := data.version
    type := data.type
    category := data.category
    icon := data.icon
    provider := data.provider
    model := data.model
    systemPrompt := data.systemPrompt
    toolsConfig := data.toolsConfig
    guardrails := data.guardrails
    schedule := data.schedule
    trigger := data.trigger
    outputConfig := data.outputConfig
    routing := none }

/-- `HandleRollbackAgent`; the body is the version, `none` if it is not
JSON of the right shape. -/
def handleRollbackAgent (dbPool : Bool) (s : AgentTables Id Doc) (agentID : String)
    (body : Option String) (now : Nat) : AgentTables Id Doc × Option (AgentReply Id) :=
  if !dbPool then (s, some (503, .inl "database not configured"))
  else
    match Uuid.parse agentID with
    | none => (s, some (400, .inl "invalid agent_id"))
    | some (id : Id) =>
      match getAgentDefinition s.agents id with
      | none => (s, some (404, .inl "agent not found"))
      | some existing =>
        if existing.isBuiltin then (s, some (403, .inl "cannot rollback builtin agents"))
        else
          match body with
          | none => (s, some (400, .inl "invalid JSON request body"))
          | some version =>
            if version = "" then (s, some (400, .inl "version is required"))
            else
              match s.versions.find? (id, version) with
              | none => (s, some (404, .inl "version not found"))
              | some row =>
                let data := unmarshal snapshotFields .zero
                  (.obj (Jsonb.entries Doc row.snapshot))
                if !data.ok then (s, some (500, .inl "failed to parse version snapshot"))
                else writeAgent s id (rollbackUpdates existing data.value) now
                  "failed to rollback agent"

/-! ## 5. Runs -/

inductive VersionAct where
  | update (agentID : String) (body : Option UpdateAgentRequest) (now : Nat)
  | rollback (agentID : String) (version : Option String) (now : Nat)

structure VersionHistory (Id Doc : Type) where
  tables : AgentTables Id Doc
  replaced : List (Id × Definition Doc)

def VersionAct.apply (s : AgentTables Id Doc) : VersionAct → AgentTables Id Doc
  | .update agentID body now => (handleUpdateAgent timeText true s agentID body now).1
  | .rollback agentID version now => (handleRollbackAgent true s agentID version now).1

def replacedDefinitions [DecidableEq Doc] (s s' : AgentTables Id Doc) :
    List (Id × Definition Doc) :=
  (s.agents.rows.filter fun row =>
    (s'.agents.find? row.id).map AgentRow.definition ≠ some row.definition).map fun row =>
      (row.id, row.definition)

def stepVersions [DecidableEq Doc] (s : VersionHistory Id Doc) (a : VersionAct) :
    Option (VersionHistory Id Doc) :=
  let tables := a.apply timeText s.tables
  some { tables := tables, replaced := s.replaced ++ replacedDefinitions s.tables tables }

end Daao.Api

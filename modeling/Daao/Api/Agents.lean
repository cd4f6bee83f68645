/-
Daao.Api.Agents — the two ways to start an agent on a satellite: the
endpoint `HandleDeployAgent` (`internal/api/agents.go`) and `RunAgent`, the
scheduler's (`cmd/nexus/main.go`).

Both read the agent's row, create an `agent_runs` row and send the
satellite a command with the agent's configuration. They are written
separately and differ:

* `HandleDeployAgent` inserts a `sessions` row for the run. `RunAgent`
  draws an id and inserts no row, and the run's `session_id` references
  `sessions(id)`;
* `RunAgent` sends the decoded `tools_config` as the configuration.
  `HandleDeployAgent` writes the request's configuration over it, and then
  the agent's provider, model, system prompt, guardrails and tool lists.

The JSON columns are documents, not text: PostgreSQL stores `jsonb`, whose
text is never empty, and is `{}` for the empty object only. `tools_config`
and `guardrails` are `NOT NULL`. Of a session row the columns of
`SessionRecord` are modelled. A statement fails on a constraint, or on its
own (`Failures`), which it never does in `handleDeployAgent` and
`runAgent`. The stream registry is configured.
-/
import Daao.Api.SessionHandlers
import Daao.Database.AgentRuns
import Daao.Dispatch.Dispatcher
import Daao.Stream.Registry

namespace Daao.Api

open Daao.Lib Daao.Database Daao.Dispatch Daao.Stream

/-! ## 1. Agent definitions -/

structure AgentDefinition (Id : Type) where
  id : Id
  name : String
  version : String
  type : String
  category : String
  provider : String
  model : String
  systemPrompt : String
  toolsConfig : Json
  guardrails : Json
  routing : Option Json

@[ext]
structure GuardrailsJSON where
  hitl : Bool
  readOnly : Bool
  timeoutMinutes : Int
  /-- in seconds -/
  timeout : Int
  maxToolCalls : Int
  maxTurns : Int

def GuardrailsJSON.zero : GuardrailsJSON :=
  { hitl := false, readOnly := false, timeoutMinutes := 0, timeout := 0, maxToolCalls := 0
    maxTurns := 0 }

def guardrailsFields : List (StructField GuardrailsJSON) :=
  [ .scalar "hitl" Json.asBool fun g b => { g with hitl := b },
    .scalar "read_only" Json.asBool fun g b => { g with readOnly := b },
    .scalar "timeout_minutes" Json.asInt fun g n => { g with timeoutMinutes := n },
    .scalar "timeout" Json.asInt fun g n => { g with timeout := n },
    .scalar "max_tool_calls" Json.asInt fun g n => { g with maxToolCalls := n },
    .scalar "max_turns" Json.asInt fun g n => { g with maxTurns := n } ]

structure ToolsConfigJSON where
  allow : StringSlice
  deny : StringSlice

def toolsConfigFields : List (StructField ToolsConfigJSON) :=
  [ .strings "allow" (·.allow) fun tc tools => { tc with allow := tools },
    .strings "deny" (·.deny) fun tc tools => { tc with deny := tools } ]

/-! ## 2. The configuration -/

abbrev Config := GoMap String String

/-- The decoded `tools_config`, `none` if it is a nil map. Both functions
ignore the decoding error. -/
def rawConfig {Id : Type} (agent : AgentDefinition Id) : Option Config :=
  unmarshalStringMap agent.toolsConfig

def timeoutEntry (gr : GuardrailsJSON) : List (String × String) :=
  if gr.timeoutMinutes > 0 then [("guardrails.timeout_minutes", itoa gr.timeoutMinutes)]
  else if gr.timeout > 0 then
    let minutes := gr.timeout / 60
    [("guardrails.timeout_minutes", itoa (if minutes < 1 then 1 else minutes))]
  else []

def restrictionEntries (gr : GuardrailsJSON) : List (String × String) :=
  entryIf gr.readOnly "guardrails.read_only" "true"
    ++ timeoutEntry gr
    ++ entryIf (gr.maxToolCalls > 0) "guardrails.max_tool_calls" (itoa gr.maxToolCalls)
    ++ entryIf (gr.maxTurns > 0) "guardrails.max_turns" (itoa gr.maxTurns)
    ++ entryIf gr.hitl "guardrails.hitl" "true"

def guardrailEntries (guardrails : Json) : List (String × String) :=
  match guardrails with
  | .obj [] => []
  | guardrails =>
    let gr := unmarshal guardrailsFields .zero guardrails
    -- a field of another type is an error, and then nothing is written
    if gr.ok then restrictionEntries gr.value else []

def joinTools (tools : StringSlice) : String := String.intercalate "," tools.elems

def toolEntries (toolsConfig : Json) : List (String × String) :=
  let tc := unmarshal toolsConfigFields { allow := .nil, deny := .nil } toolsConfig
  if tc.ok then
    entryIf (!tc.value.allow.elems.isEmpty) "tools.allow" (joinTools tc.value.allow)
      ++ entryIf (!tc.value.deny.elems.isEmpty) "tools.deny" (joinTools tc.value.deny)
  else []

variable {Id : Type} (agent : AgentDefinition Id)

def identityEntries : List (String × String) :=
  entryIf (agent.provider ≠ "") "provider" agent.provider
    ++ entryIf (agent.model ≠ "") "model" agent.model
    ++ entryIf (agent.systemPrompt ≠ "") "system_prompt" agent.systemPrompt

def agentEntries : List (String × String) :=
  identityEntries agent ++ guardrailEntries agent.guardrails ++ toolEntries agent.toolsConfig

/-- The configuration `HandleDeployAgent` sends; `none` is the panic of a
write to a nil map. -/
def deployConfig (requestConfig : Config) : Option Config :=
  GoMap.writeAll (rawConfig agent) (requestConfig.rows ++ agentEntries agent)

def runConfig : Config := (rawConfig agent).getD .empty

/-! ## 3. The database -/

class Uuid (Id : Type) where
  parse : String → Option Id
  text : Id → String
  /-- 00000000-0000-0000-0000-000000000000 -/
  zero : Id
  parse_text : ∀ id, parse (text id) = some id
  text_ne : ∀ id, text id ≠ ""

structure AgentRunRecord (Id : Type) where
  id : Id
  agentID : Id
  satelliteID : Id
  sessionID : Option Id
  triggerSource : String
  status : RunStatus
  startedAt : Nat

/-- The tables, and the reference of runs to sessions that the database
enforces. -/
structure Store (Id : Type) where
  agents : Table fun row : AgentDefinition Id => row.id
  satellites : Satellites Id
  sessions : SessionRecords Id
  runs : Table fun row : AgentRunRecord Id => row.id
  sessionRef : ∀ run ∈ runs.rows, ∀ id ∈ run.sessionID, id ∈ sessions.rows.map SessionRecord.id

namespace Store

variable [DecidableEq Id]

def insertSession (s : Store Id) (row : SessionRecord Id) : Option (Store Id) :=
  match h : Table.insert s.sessions row with
  | none => none
  | some sessions =>
    some { s with
      sessions := sessions
      sessionRef := by
        intro run hrun id hid
        rw [(Table.insert_eq_some h).2, List.map_append]
        exact List.mem_append_left _ (s.sessionRef run hrun id hid) }

def insertRun (s : Store Id) (row : AgentRunRecord Id) : Option (Store Id) :=
  if href : ∀ id ∈ row.sessionID, id ∈ s.sessions.rows.map SessionRecord.id then
    if (s.agents.find? row.agentID).isSome ∧ (s.satellites.find? row.satelliteID).isSome then
      match h : Table.insert s.runs row with
      | none => none
      | some runs =>
        some { s with
          runs := runs
          sessionRef := by
            intro run hrun id hid
            rw [(Table.insert_eq_some h).2, List.mem_append, List.mem_singleton] at hrun
            rcases hrun with hrun | rfl
            · exact s.sessionRef run hrun id hid
            · exact href id hid }
    else none
  else none

def createAgentRun (s : Store Id) (runID agentID satelliteID : Id) (sessionID : Option Id)
    (triggerSource : String) (now : Nat) : Option (Store Id) :=
  s.insertRun
    { id := runID, agentID := agentID, satelliteID := satelliteID, sessionID := sessionID
      triggerSource := triggerSource, status := .running, startedAt := now }

end Store

/-! ## 4. Commands -/

structure AgentDefinitionProto where
  name : String
  version : String
  image : String
  config : Config
  capabilities : List String
  entrypoint : String

structure DeployAgentCommand where
  sessionID : String
  agentDefinition : AgentDefinitionProto
  secrets : Config

def agentDefProto (config : Config) : AgentDefinitionProto :=
  { name := agent.name, version := agent.version, image := agent.name, config := config
    capabilities := [agent.type, agent.category], entrypoint := agent.name }

/-- What the server is configured with, the streams that are registered,
and the time. -/
structure AgentServer (Id Ch : Type) where
  dbPool : Bool
  licensed : Bool
  dispatcher : Bool
  registry : StreamRegistry Ch
  hasRoom : Ch → Bool
  best : Best Id
  now : Nat

variable {Ch : Type} [Uuid Id] (srv : AgentServer Id Ch)

def AgentServer.hasStream (satelliteID : Id) : Bool :=
  (srv.registry.satelliteStreams (Uuid.text satelliteID)).isSome

/-- `SendToSatellite`: the message is dropped if the channel is full. -/
def AgentServer.sendToSatellite (satelliteID : Id) : Bool :=
  match srv.registry.satelliteStreams (Uuid.text satelliteID) with
  | none => false
  | some ch => srv.hasRoom ch

/-! ## 5. `HandleDeployAgent` -/

structure DeployAgentRequest where
  satelliteID : String
  sessionID : Option String
  config : Config
  secrets : Config

structure DeployAgentResponse (Id : Type) where
  runID : Id
  agentID : Id
  satelliteID : Id
  sessionID : String
  status : String
  dispatched : Bool
  dispatchScore : ℚ

/-- What a call leaves: the tables, the status and the body of the response
(`none` if the handler panicked), and the command that was sent. -/
structure DeployOutcome (Id : Type) where
  store : Store Id
  response : Option (Nat × (String ⊕ DeployAgentResponse Id))
  sent : Option (Id × DeployAgentCommand)

variable (s : Store Id)

def DeployOutcome.fail (status : Nat) (message : String) : DeployOutcome Id :=
  { store := s, response := some (status, .inl message), sent := none }

/-- Which statements fail on their own, and not on a constraint. Such a
statement changes nothing. -/
structure Failures where
  getAgentDefinition : Bool
  /-- the query for the dispatcher's candidates, with its error -/
  candidates : Option String
  satelliteStatus : Bool
  insertSession : Bool
  createAgentRun : Bool

def Failures.none : Failures :=
  { getAgentDefinition := false, candidates := Option.none, satelliteStatus := false
    insertSession := false, createAgentRun := false }

def attempt {α : Type} (fails : Bool) (result : Option α) : Option α :=
  if fails then none else result

variable (fails : Failures)

def dispatchWith (opts : DispatchOptions) : Except String (DispatchResult Id) :=
  match fails.candidates with
  | some e => .error ("failed to get candidates: " ++ e)
  | none => dispatch srv.best s.satellites srv.hasStream srv.now opts

def parseRouting (routing : Option Json) : Option DispatchOptions :=
  routing.bind fun routing =>
    let opts := unmarshal dispatchOptionsFields .zero routing
    if opts.ok then some opts.value else none

structure Target (Id : Type) where
  satelliteID : Id
  dispatched : Bool
  score : ℚ

def autoDispatchWith (agent : AgentDefinition Id) : Except (Nat × String) (Target Id) :=
  match parseRouting agent.routing with
  | none => .error (400, "satellite_id is required")
  | some routing =>
    if routing.mode ≠ "auto-dispatch" then .error (400, "satellite_id is required")
    else if !srv.licensed then .error (403, "agent routing requires enterprise license")
    else if !srv.dispatcher then .error (503, "dispatcher not configured")
    else
      match dispatchWith srv s fails
          { DispatchOptions.zero with
            requireTags := routing.requireTags, preferTags := routing.preferTags } with
      | .error e => .error (409, e)
      | .ok result =>
        .ok { satelliteID := result.satelliteID, dispatched := true, score := result.score }

def selectSatelliteWith (agent : AgentDefinition Id)
    (satelliteID : String) : Except (Nat × String) (Target Id) :=
  if satelliteID = "" then autoDispatchWith srv s fails agent
  else
    match Uuid.parse satelliteID with
    | none => .error (400, "invalid satellite_id")
    | some id => .ok { satelliteID := id, dispatched := false, score := 0 }

def newSession (agent : AgentDefinition Id) (satelliteID newSessionID : Id) : SessionRecord Id :=
  { id := newSessionID
    satelliteID := satelliteID
    userID := Uuid.zero
    name := "agent-" ++ agent.name ++ "-" ++ String.ofList ((Uuid.text newSessionID).toList.take 8)
    session :=
      { state := .provisioning, lastActivityAt := srv.now, startedAt := none, detachedAt := none
        suspendedAt := none, terminatedAt := none }
    createdAt := srv.now }

/-- What the handler has before its first insert. -/
structure Deployment (Id : Type) where
  agent : AgentDefinition Id
  req : DeployAgentRequest
  target : Target Id

def DeployAgentRequest.session (req : DeployAgentRequest) : Option String :=
  req.sessionID.filter fun text => text ≠ ""

variable (d : Deployment Id)

def sendDeployment (sessionID runID : Id) : DeployOutcome Id :=
  match deployConfig d.agent d.req.config with
  | none => { store := s, response := none, sent := none }
  | some config =>
    { store := s
      response := some (201, .inr
        { runID := runID, agentID := d.agent.id, satelliteID := d.target.satelliteID
          sessionID := Uuid.text sessionID, status := "running", dispatched := d.target.dispatched
          dispatchScore := d.target.score })
      sent :=
        if srv.sendToSatellite d.target.satelliteID then
          some (d.target.satelliteID,
            { sessionID := Uuid.text sessionID, agentDefinition := agentDefProto d.agent config
              secrets := d.req.secrets })
        else none }

variable [DecidableEq Id]

def prepareDeployment (fails : Failures) (srv : AgentServer Id Ch) (s : Store Id)
    (agentID : String) (body : Option DeployAgentRequest) : Except (Nat × String) (Deployment Id) :=
  if !srv.dbPool then .error (503, "database not configured")
  else
    match Uuid.parse agentID with
    | none => .error (400, "invalid agent_id")
    | some (id : Id) =>
      if fails.getAgentDefinition then .error (500, "failed to deploy agent")
      else
        match s.agents.find? id with
        | none => .error (404, "agent not found")
        | some agent =>
          match body with
          | none => .error (400, "invalid JSON request body")
          | some req =>
            match selectSatelliteWith srv s fails agent req.satelliteID with
            | .error e => .error e
            | .ok target =>
              -- an error of the query is answered like a missing row
              match attempt fails.satelliteStatus (s.satellites.find? target.satelliteID) with
              | none => .error (404, "satellite not found")
              | some satellite =>
                if satellite.status ≠ "active" then .error (409, "satellite is not active")
                else .ok { agent := agent, req := req, target := target }

namespace Deployment

def insertSession (fails : Failures) (srv : AgentServer Id Ch)
    (s : Store Id) (newSessionID : Id) : Option (Store Id) :=
  attempt fails.insertSession
    (s.insertSession (newSession srv d.agent d.target.satelliteID newSessionID))

def insertRun (fails : Failures) (srv : AgentServer Id Ch)
    (s : Store Id) (runID sessionID : Id) : Option (Store Id) :=
  attempt fails.createAgentRun
    (s.createAgentRun runID d.agent.id d.target.satelliteID (some sessionID) "manual" srv.now)

def startRun (fails : Failures) (srv : AgentServer Id Ch)
    (s : Store Id) (runID sessionID : Id) : DeployOutcome Id :=
  match d.insertRun fails srv s runID sessionID with
  -- a new session stays
  | none => .fail s 500 "failed to deploy agent"
  | some s' => sendDeployment srv s' d sessionID runID

def execute (fails : Failures) (srv : AgentServer Id Ch)
    (s : Store Id) (newSessionID runID : Id) : DeployOutcome Id :=
  match d.req.session with
  | some text =>
    match Uuid.parse text with
    | none => .fail s 400 "invalid session_id"
    | some id => d.startRun fails srv s runID id
  | none =>
    match d.insertSession fails srv s newSessionID with
    | none => .fail s 500 "failed to create session for agent deployment"
    | some s' => d.startRun fails srv s' runID newSessionID

end Deployment

/-- `HandleDeployAgent`. The request is `none` if its body is not JSON of
the right shape; the ids are those that are drawn. -/
def handleDeployAgentWith (fails : Failures) (srv : AgentServer Id Ch) (s : Store Id)
    (newSessionID runID : Id) (agentID : String) (body : Option DeployAgentRequest) :
    DeployOutcome Id :=
  match prepareDeployment fails srv s agentID body with
  | .error (status, message) => .fail s status message
  | .ok d => d.execute fails srv s newSessionID runID

def handleDeployAgent : Id → Id → String → Option DeployAgentRequest → DeployOutcome Id :=
  handleDeployAgentWith .none srv s

/-! ## 6. `RunAgent` -/

inductive RunError (Id : Type) where
  | databaseNotConfigured
  | getAgentDefinition
  | agentNotFound (agentID : Id)
  | createAgentRun
  | sendFailed (satelliteID : Id)
  deriving DecidableEq

structure RunOutcome (Id : Type) where
  store : Store Id
  err : Option (RunError Id)
  sent : Option (Id × DeployAgentCommand)

def runAgentWith (fails : Failures) (srv : AgentServer Id Ch) (s : Store Id)
    (sessionID runID agentID satelliteID : Id) (triggerSource : String) : RunOutcome Id :=
  if !srv.dbPool then { store := s, err := some .databaseNotConfigured, sent := none }
  else if fails.getAgentDefinition then
    { store := s, err := some .getAgentDefinition, sent := none }
  else
    match s.agents.find? agentID with
    | none => { store := s, err := some (.agentNotFound agentID), sent := none }
    | some agent =>
      match attempt fails.createAgentRun
          (s.createAgentRun runID agentID satelliteID (some sessionID) triggerSource srv.now) with
      | none => { store := s, err := some .createAgentRun, sent := none }
      | some s' =>
        if srv.sendToSatellite satelliteID then
          { store := s'
            err := none
            sent := some (satelliteID,
              { sessionID := Uuid.text sessionID
                agentDefinition := agentDefProto agent (runConfig agent), secrets := .empty }) }
        else { store := s', err := some (.sendFailed satelliteID), sent := none }

def runAgent : Id → Id → Id → Id → String → RunOutcome Id := runAgentWith .none srv s

end Daao.Api

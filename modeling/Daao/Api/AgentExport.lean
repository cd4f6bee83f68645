/-
Daao.Api.AgentExport — agents as YAML files
(`internal/api/agent_import_export.go`).

`convertAgentToYAML` writes an agent in a portable format, and
`convertYAMLToAgent` makes an agent of it. The YAML text between the two is
taken as lossless: what is imported has the values that were exported.

The format has the two tool lists, four of the guardrails, the output map,
the schedule and the trigger. Both functions go through decoded maps, whose
keys are exact, where the deployment decodes the same documents into
structs, whose field names match up to case. A JSON column is a document,
as in `Daao.Api.Agents`, and no object of a stored document has a key
twice.
-/
import Daao.Api.Agents
import Daao.Lib.GoFloat

namespace Daao.Api

open Daao.Lib

/-! ## 1. Agents and files -/

/-- `database.AgentDefinition`, with documents in place of their texts. -/
structure AgentDocs where
  name : String
  displayName : String
  description : Option String
  version : String
  type : String
  category : String
  icon : Option String
  provider : String
  model : String
  systemPrompt : String
  toolsConfig : Json
  guardrails : Option Json
  schedule : Option Json
  trigger : Option Json
  outputConfig : Option Json
  routing : Option Json
  isBuiltin : Bool
  isEnterprise : Bool

/-- The agent as `HandleDeployAgent` reads it, for which guardrails that
are nil are the same as `{}`. -/
def AgentDocs.deployed {Id : Type} (agent : AgentDocs) (id : Id) : AgentDefinition Id :=
  { id := id, name := agent.name, version := agent.version, type := agent.type
    category := agent.category, provider := agent.provider, model := agent.model
    systemPrompt := agent.systemPrompt, toolsConfig := agent.toolsConfig
    guardrails := agent.guardrails.getD (.obj []), routing := agent.routing }

structure AgentYAMLTools where
  allow : List String
  deny : List String

structure AgentYAMLGuardrails where
  hitl : Bool
  readOnly : Bool
  timeoutMinutes : Int
  maxToolCalls : Int

/-- A `schedule` or `trigger` of a file: a string, which is empty or the
text of a document, a map, or another value. -/
inductive YAMLSetting where
  | empty
  | text (doc : Json)
  | map (entries : List (String × Json))
  | other

structure AgentYAML where
  name : String
  displayName : String
  description : String
  version : String
  type : String
  category : String
  icon : String
  provider : String
  model : String
  systemPrompt : String
  tools : Option AgentYAMLTools
  guardrails : Option AgentYAMLGuardrails
  output : Option (GoMap String Json)
  schedule : Option YAMLSetting
  trigger : Option YAMLSetting

/-! ## 2. Export -/

/-- `sliceIfaceToStrings`: an element that is no string is empty. -/
def sliceIfaceToStrings (elems : List Json) : List String :=
  elems.map fun v => v.asString.getD ""

def stringsOf : Option Json → List String
  | some (.arr elems) => sliceIfaceToStrings elems
  | _ => []

def exportTools (toolsConfig : Json) : Option AgentYAMLTools :=
  match toolsConfig with
  | .obj [] => none
  | toolsConfig =>
    (unmarshalMap toolsConfig).bind fun m =>
      let tools : AgentYAMLTools :=
        { allow := stringsOf ((m.getD .empty).get "allow")
          deny := stringsOf ((m.getD .empty).get "deny") }
      if tools.allow ≠ [] ∨ tools.deny ≠ [] then some tools else none

def exportGuardrails (o : IntOverflow) (guardrails : Option Json) : Option AgentYAMLGuardrails :=
  match guardrails with
  | none => none
  | some (.obj []) => none
  | some guardrails =>
    (unmarshalMap guardrails).map fun m =>
      let boolOf := fun key => (((m.getD .empty).get key).bind Json.asBool).getD false
      let intOf := fun key => ((((m.getD .empty).get key).bind Json.asFloat).map o.toInt).getD 0
      { hitl := boolOf "hitl", readOnly := boolOf "read_only"
        timeoutMinutes := intOf "timeout_minutes", maxToolCalls := intOf "max_tool_calls" }

def exportOutput (outputConfig : Option Json) : Option (GoMap String Json) :=
  match outputConfig with
  | none => none
  | some (.obj []) => none
  | some outputConfig => (unmarshalMap outputConfig).join

def exportSetting (setting : Option Json) : Option YAMLSetting :=
  match setting with
  | none => none
  | some .null => none
  | some doc => some (.text doc)

def convertAgentToYAML (o : IntOverflow) (agent : AgentDocs) : AgentYAML :=
  { name := agent.name, displayName := agent.displayName
    description := agent.description.getD "", version := agent.version, type := agent.type
    category := agent.category, icon := agent.icon.getD "", provider := agent.provider
    model := agent.model, systemPrompt := agent.systemPrompt
    tools := exportTools agent.toolsConfig
    guardrails := exportGuardrails o agent.guardrails
    output := exportOutput agent.outputConfig
    schedule := exportSetting agent.schedule, trigger := exportSetting agent.trigger }

/-! ## 3. Import -/

def nonEmpty (s : String) : Option String := if s ≠ "" then some s else none

def importTools (tools : Option AgentYAMLTools) : Json :=
  match tools with
  | none => .obj []
  | some tools =>
    .obj (entryIf (tools.allow ≠ []) "allow" (.arr (tools.allow.map .str))
      ++ entryIf (tools.deny ≠ []) "deny" (.arr (tools.deny.map .str)))

def importGuardrails (guardrails : AgentYAMLGuardrails) : Json :=
  .obj
    [ ("hitl", .bool guardrails.hitl),
      ("read_only", .bool guardrails.readOnly),
      ("timeout_minutes", .int guardrails.timeoutMinutes),
      ("max_tool_calls", .int guardrails.maxToolCalls) ]

def importSetting : YAMLSetting → Option Json
  | .empty => none
  | .text doc => some doc
  | .map entries => some (.obj entries)
  | .other => none

def convertYAMLToAgent (yaml : AgentYAML) : AgentDocs :=
  { name := yaml.name, displayName := yaml.displayName, description := nonEmpty yaml.description
    version := yaml.version, type := yaml.type, category := yaml.category
    icon := nonEmpty yaml.icon, provider := yaml.provider, model := yaml.model
    systemPrompt := yaml.systemPrompt
    toolsConfig := importTools yaml.tools
    guardrails := yaml.guardrails.map importGuardrails
    schedule := yaml.schedule.bind importSetting
    trigger := yaml.trigger.bind importSetting
    outputConfig := yaml.output.map fun m => .obj (Json.reencodeEntries m.rows)
    routing := none, isBuiltin := false, isEnterprise := false }

end Daao.Api

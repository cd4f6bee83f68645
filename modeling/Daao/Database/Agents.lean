/-
Daao.Database.Agents — the `agent_definitions` table, its queries, and the
stored version snapshots (`internal/database/agents.go`,
`internal/database/agent_versions.go`, migrations 016, 025, 026 and 031).

The Go struct `AgentDefinition` has texts where the table has `jsonb`
columns. A statement that writes a text casts it, and fails on a text that
is no document; reading a column gives the text of the document. `Jsonb`
is what is used of PostgreSQL's type, whose documents are an arbitrary
type here.

The table carries its constraints as fields: the primary key, the unique
name, and the check on the type. A statement that would break one of them
fails and changes nothing. The other columns are `NOT NULL` by their type.
-/
import Daao.Lib.GoJson

namespace Daao.Database

open Daao.Lib

/-! ## 1. Documents -/

class Jsonb (Doc : Type) where
  input : String → Option Doc
  output : Doc → String
  input_output : ∀ doc, input (output doc) = some doc
  /-- the empty text is not JSON -/
  input_empty : input "" = none
  /-- the entries of a stored object, in the order they are read back -/
  entries : List (String × Json) → List (String × Json)
  entries_perm : ∀ es, (es.map Prod.fst).Nodup → (entries es).Perm es

section

variable {Doc : Type} [Jsonb Doc]

def castNullable : Option String → Option (Option Doc)
  | none => some none
  | some text => (Jsonb.input text).map some

theorem output_injective : Function.Injective (Jsonb.output : Doc → String) := by
  intro doc doc' h
  have hi : (some doc : Option Doc) = some doc' := by
    rw [← Jsonb.input_output doc, h, Jsonb.input_output]
  exact Option.some_inj.mp hi

end

/-! ## 2. Rows -/

structure Definition (Doc : Type) where
  name : String
  displayName : String
  description : Option String
  version : String
  type : String
  category : String
  icon : Option String
  provider : String
  model : String
  systemPrompt : String
  toolsConfig : Doc
  guardrails : Doc
  schedule : Option Doc
  trigger : Option Doc
  outputConfig : Option Doc
  routing : Option Doc
  deriving DecidableEq

structure AgentRow (Id Doc : Type) where
  id : Id
  definition : Definition Doc
  isBuiltin : Bool
  isEnterprise : Bool
  createdAt : Nat
  updatedAt : Nat

structure AgentDefinition (Id : Type) where
  id : Id
  name : String
  displayName : String
  description : Option String
  version : String
  type : String
  category : String
  icon : Option String
  provider : String
  model : String
  systemPrompt : String
  toolsConfig : String
  guardrails : Option String
  schedule : Option String
  trigger : Option String
  outputConfig : Option String
  routing : Option String
  isBuiltin : Bool
  isEnterprise : Bool
  createdAt : Nat
  updatedAt : Nat
  deriving DecidableEq

section

variable {Id Doc : Type} [Jsonb Doc]

def scanAgent (row : AgentRow Id Doc) : AgentDefinition Id :=
  { id := row.id
    name := row.definition.name
    displayName := row.definition.displayName
    description := row.definition.description
    version := row.definition.version
    type := row.definition.type
    category := row.definition.category
    icon := row.definition.icon
    provider := row.definition.provider
    model := row.definition.model
    systemPrompt := row.definition.systemPrompt
    toolsConfig := Jsonb.output row.definition.toolsConfig
    guardrails := some (Jsonb.output row.definition.guardrails)
    schedule := row.definition.schedule.map Jsonb.output
    trigger := row.definition.trigger.map Jsonb.output
    outputConfig := row.definition.outputConfig.map Jsonb.output
    routing := row.definition.routing.map Jsonb.output
    isBuiltin := row.isBuiltin
    isEnterprise := row.isEnterprise
    createdAt := row.createdAt
    updatedAt := row.updatedAt }

/-- The columns that a statement writes; `none` if a text is no document,
or `guardrails` would be NULL. -/
def columnsOf (agent : AgentDefinition Id) : Option (Definition Doc) := do
  let toolsConfig ← Jsonb.input agent.toolsConfig
  let guardrails ← agent.guardrails.bind Jsonb.input
  let schedule ← castNullable agent.schedule
  let trigger ← castNullable agent.trigger
  let outputConfig ← castNullable agent.outputConfig
  let routing ← castNullable agent.routing
  some
    { name := agent.name, displayName := agent.displayName, description := agent.description
      version := agent.version, type := agent.type, category := agent.category
      icon := agent.icon, provider := agent.provider, model := agent.model
      systemPrompt := agent.systemPrompt, toolsConfig := toolsConfig, guardrails := guardrails
      schedule := schedule, trigger := trigger, outputConfig := outputConfig, routing := routing }

theorem columnsOf_empty {a : AgentDefinition Id} (h : a.toolsConfig = "") :
    (columnsOf a : Option (Definition Doc)) = none := by
  simp [columnsOf, h, Jsonb.input_empty]

end

/-! ## 3. The table -/

def validTypes : List String := ["specialist", "autonomous"]

structure AgentRows (Id Doc : Type) extends Table (AgentRow.id : AgentRow Id Doc → Id) where
  uniqueName : (rows.map fun row => row.definition.name).Nodup
  typeCheck : ∀ row ∈ rows, row.definition.type ∈ validTypes

namespace AgentRows

variable {Id Doc : Type} [DecidableEq Id]

def ofRows (rows : List (AgentRow Id Doc)) : Option (AgentRows Id Doc) :=
  if h : (rows.map AgentRow.id).Nodup ∧ (rows.map fun row => row.definition.name).Nodup
      ∧ ∀ row ∈ rows, row.definition.type ∈ validTypes then
    some { rows := rows, primaryKey := h.1, uniqueName := h.2.1, typeCheck := h.2.2 }
  else none

def updateByID (t : AgentRows Id Doc) (id : Id) (f : AgentRow Id Doc → AgentRow Id Doc) :
    Option (AgentRows Id Doc) :=
  ofRows (t.rows.map fun row => if row.id = id then f row else row)

variable {t : AgentRows Id Doc}

theorem rows_of_ofRows {rows : List (AgentRow Id Doc)}
    (h : ofRows rows = some t) : t.rows = rows := by
  unfold ofRows at h
  split at h
  · cases h
    rfl
  · cases h

theorem find?_updateByID {t' : AgentRows Id Doc} {id : Id} {f : AgentRow Id Doc → AgentRow Id Doc}
    (hf : ∀ row, (f row).id = row.id) (h : t.updateByID id f = some t') (id' : Id) :
    t'.find? id' = if id' = id then (t.find? id').map f else t.find? id' :=
  Table.find?_updateKey hf (rows_of_ofRows h) id'

end AgentRows

/-! ## 4. Queries -/

section

variable {Id Doc : Type} [DecidableEq Id] [Jsonb Doc]

inductive InsertError where
  | duplicate
  | invalid

/-- `CreateAgentDefinition`: the table and the row, with the id that the
database draws. -/
def createAgentDefinition (t : AgentRows Id Doc) (newID : Id) (agent : AgentDefinition Id)
    (now : Nat) : Except InsertError (AgentRows Id Doc × AgentDefinition Id) :=
  match columnsOf agent with
  | none => .error .invalid
  | some columns =>
    let row : AgentRow Id Doc :=
      { id := newID, definition := columns, isBuiltin := agent.isBuiltin
        isEnterprise := agent.isEnterprise, createdAt := now, updatedAt := now }
    if columns.type ∉ validTypes then .error .invalid
    else
      match AgentRows.ofRows (t.rows ++ [row]) with
      | none => .error .duplicate
      | some t' => .ok (t', scanAgent row)

def getAgentDefinition (t : AgentRows Id Doc) (id : Id) : Option (AgentDefinition Id) :=
  (t.find? id).map scanAgent

/-- `UpdateAgentDefinition`: the table and the row as it is then. An error
is `none`, a missing row is `some none`. -/
def updateAgentDefinition (t : AgentRows Id Doc) (id : Id) (updates : AgentDefinition Id)
    (now : Nat) : Option (Option (AgentRows Id Doc × AgentDefinition Id)) :=
  match getAgentDefinition t id with
  | none => some none
  | some _ => do
    let definition ← columnsOf updates
    let t' ← t.updateByID id fun row =>
      { row with definition := definition, isBuiltin := updates.isBuiltin
                 isEnterprise := updates.isEnterprise, updatedAt := now }
    let updated ← getAgentDefinition t' id
    some (some (t', updated))

structure AgentFilter where
  type : Option String
  category : Option String
  isBuiltin : Option Bool
  isEnterprise : Option Bool

def AgentFilter.selects (filter : AgentFilter) (row : AgentRow Id Doc) : Bool :=
  filter.type.all (fun type => row.definition.type = type)
    && filter.category.all (fun category => row.definition.category = category)
    && filter.isBuiltin.all (fun isBuiltin => row.isBuiltin = isBuiltin)
    && filter.isEnterprise.all (fun isEnterprise => row.isEnterprise = isEnterprise)

/-- `ORDER BY display_name`: the database's collation, and its order among
equal names. -/
structure DisplayOrder (Id Doc : Type) where
  sort : List (AgentRow Id Doc) → List (AgentRow Id Doc)
  perm : ∀ rows, (sort rows).Perm rows

def listAgentDefinitions (order : DisplayOrder Id Doc) (t : AgentRows Id Doc)
    (filter : AgentFilter) : List (AgentDefinition Id) :=
  (order.sort (t.rows.filter filter.selects)).map scanAgent

omit [DecidableEq Id] in
theorem nodup_listAgentDefinitions (r : DisplayOrder Id Doc) (t : AgentRows Id Doc)
    (filter : AgentFilter) :
    ((listAgentDefinitions r t filter).map AgentDefinition.id).Nodup := by
  have hi : (listAgentDefinitions r t filter).map AgentDefinition.id
      = (r.sort (t.rows.filter filter.selects)).map AgentRow.id := by
    rw [listAgentDefinitions, List.map_map]
    rfl
  rw [hi, ((r.perm _).map AgentRow.id).nodup_iff]
  exact t.primaryKey.sublist (List.filter_sublist.map AgentRow.id)

end

/-! ## 5. Version snapshots -/

/-- A row of `agent_definition_versions`; the snapshot is an object. -/
structure AgentVersion (Id : Type) where
  agentID : Id
  version : String
  snapshot : List (String × Json)
  createdAt : Nat

/-- The table, with its `UNIQUE (agent_id, version)`. -/
abbrev AgentVersions (Id : Type) := Table fun row : AgentVersion Id => (row.agentID, row.version)

/-! ## 6. Documents as their texts -/

/-- Texts that are not empty, each read back as it was written. -/
abbrev DocText := { text : String // text ≠ "" }

instance docTextJsonb : Jsonb DocText where
  input text := if h : text ≠ "" then some ⟨text, h⟩ else none
  output doc := doc.val
  input_output doc := dif_pos doc.property
  input_empty := rfl
  entries es := es
  entries_perm _ _ := List.Perm.refl _

def emptyObject : DocText := ⟨"{}", by decide⟩

def plainAgent (id : Nat) (version systemPrompt : String) : AgentRow Nat DocText :=
  { id := id
    definition :=
      { name := "agent-" ++ Nat.repr id, displayName := "Agent", description := none
        version := version, type := "specialist", category := "operations", icon := none
        provider := "local", model := "small", systemPrompt := systemPrompt
        toolsConfig := emptyObject, guardrails := emptyObject, schedule := none, trigger := none
        outputConfig := none, routing := none }
    isBuiltin := false, isEnterprise := false, createdAt := 0, updatedAt := 0 }

def oneAgent (version systemPrompt : String) : AgentRows Nat DocText where
  rows := [plainAgent 1 version systemPrompt]
  primaryKey := List.nodup_singleton _
  uniqueName := List.nodup_singleton _
  typeCheck := by simp [plainAgent, validTypes]

def twoAgents : AgentRows Nat DocText where
  rows := [plainAgent 1 "1.0.0" "", plainAgent 2 "1.0.0" ""]
  primaryKey := by decide
  uniqueName := by decide
  typeCheck := by simp [plainAgent, validTypes]

end Daao.Database

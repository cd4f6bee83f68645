/-
Daao.Api.Pipelines — updates of a pipeline (`HandleUpdatePipeline` in
`internal/api/pipelines.go`, `internal/database/pipelines.go`,
migration 027).

The tables are those of one pipeline: its row, and its steps under their
order. A request is a sequence of statements without a transaction, and
any number of requests may be under way at once. `exec` runs the next
statement of a request. The statement may fail, for a reason of its own or
because of a constraint, and a failed statement changes nothing.

`committed` lists the requests whose `UPDATE` took effect, with the row
that it wrote. No statement reads it.
-/
import Daao.Api.Agents
import Daao.Database.Agents
import Daao.Database.ContextFiles

namespace Daao.Api

open Daao.Lib Daao.Database

/-! ## 1. The tables -/

structure PipelineRow (Id Doc : Type) where
  name : String
  description : Option String
  satelliteID : Id
  onFailure : String
  maxRetries : Int
  schedule : Option Doc
  isEnabled : Bool
  createdAt : Nat
  updatedAt : Nat

structure PipelineStep (Id Doc : Type) where
  stepOrder : Nat
  agentID : Id
  inputMode : String
  outputMode : String
  config : Doc

structure StoredPipeline (Id Doc : Type) where
  row : Option (PipelineRow Id Doc)
  steps : Table fun step : PipelineStep Id Doc => step.stepOrder

structure PipelineRefs (Id : Type) where
  agentExists : Id → Bool
  satelliteStatus : Id → Option String

def onFailureModes : List String := ["stop", "skip", "retry", "escalate"]
def inputModes : List String := ["none", "previous_output"]
def outputModes : List String := ["next", "report", "next_and_report"]

/-! ## 2. Requests -/

structure CreateStepInput (Id : Type) where
  agentID : Id
  inputMode : String
  outputMode : String
  config : String

structure CreatePipelineRequest (Id : Type) where
  name : String
  description : Option String
  satelliteID : Option Id
  onFailure : String
  maxRetries : Int
  steps : List (CreateStepInput Id)

inductive PipelineReply where
  | ok
  | error (status : Nat) (message : String)

section

variable {Id Doc : Type}

def CreatePipelineRequest.merge (req : CreatePipelineRequest Id) (existing : PipelineRow Id Doc) :
    PipelineRow Id Doc :=
  { existing with
    name := if req.name ≠ "" then req.name else existing.name
    description := req.description.or existing.description
    satelliteID := req.satelliteID.getD existing.satelliteID
    onFailure := if req.onFailure ≠ "" then req.onFailure else existing.onFailure
    maxRetries := if req.maxRetries > 0 then req.maxRetries else existing.maxRetries }

def CreateStepInput.row [Jsonb Doc] (order : Nat) (step : CreateStepInput Id) :
    Option (PipelineStep Id Doc) :=
  (Jsonb.input step.config).map fun config =>
    { stepOrder := order, agentID := step.agentID, inputMode := step.inputMode
      outputMode := step.outputMode, config := config }

def CreateStepInput.Accepted (Doc : Type) [Jsonb Doc] (refs : PipelineRefs Id)
    (step : CreateStepInput Id) : Prop :=
  step.inputMode ∈ inputModes ∧ step.outputMode ∈ outputModes ∧ refs.agentExists step.agentID ∧
    ((Jsonb.input step.config : Option Doc)).isSome

instance [Jsonb Doc] (refs : PipelineRefs Id) (step : CreateStepInput Id) :
    Decidable (step.Accepted Doc refs) :=
  inferInstanceAs (Decidable (_ ∧ _ ∧ _ ∧ _))

/-! ## 3. The statements that write -/

def updatePipeline (refs : PipelineRefs Id) (now : Nat) (row : PipelineRow Id Doc)
    (db : StoredPipeline Id Doc) : Option (StoredPipeline Id Doc) :=
  if db.row.isSome ∧ row.onFailure ∈ onFailureModes ∧ row.maxRetries ≤ maxInteger
      ∧ (refs.satelliteStatus row.satelliteID).isSome then
    some { db with row := some { row with updatedAt := now } }
  else none

def deletePipelineSteps (db : StoredPipeline Id Doc) : StoredPipeline Id Doc :=
  { db with steps := { rows := [], primaryKey := List.nodup_nil } }

def insertPipelineStep [Jsonb Doc] (refs : PipelineRefs Id) (order : Nat)
    (step : CreateStepInput Id)
    (db : StoredPipeline Id Doc) : Option (StoredPipeline Id Doc) :=
  if step.Accepted Doc refs then
    (step.row order).bind fun row => (db.steps.insert row).map fun steps =>
      { db with steps := steps }
  else none

end

/-! ## 4. `HandleUpdatePipeline` -/

/-- The statement that a request comes to next, with the row it has read;
or its answer. -/
inductive PipelinePhase (Id Doc : Type) where
  | getRow
  | getSteps (existing : PipelineRow Id Doc)
  | checkAgents (existing : PipelineRow Id Doc) (left : List (CreateStepInput Id))
  | checkSatellite (existing : PipelineRow Id Doc) (satelliteID : Id)
  | update (existing : PipelineRow Id Doc)
  | deleteSteps
  /-- the steps that are left to insert, from this order on -/
  | insertSteps (order : Nat) (left : List (CreateStepInput Id))
  | getUpdated
  | done (reply : PipelineReply)

/-- A request with a body that is JSON for the handler's struct, or not. -/
structure PipelineCall (Id Doc : Type) where
  body : Option (CreatePipelineRequest Id)
  phase : PipelinePhase Id Doc

structure PipelineCommit (Id Doc : Type) where
  call : Nat
  row : PipelineRow Id Doc
  req : CreatePipelineRequest Id

structure PipelineUpdates (Id Doc : Type) where
  db : StoredPipeline Id Doc
  calls : Nat → Option (PipelineCall Id Doc)
  committed : List (PipelineCommit Id Doc)

namespace PipelineUpdates

inductive Act (Id : Type) where
  | begin (call : Nat) (body : Option (CreatePipelineRequest Id))
  /-- the next statement of the request; it may fail by itself -/
  | exec (call : Nat) (fails : Bool) (now : Nat)

variable {Id Doc : Type} [Uuid Id] [Jsonb Doc]

def start (db : StoredPipeline Id Doc) : PipelineUpdates Id Doc :=
  { db := db, calls := fun _ => none, committed := [] }

def afterAgents (req : CreatePipelineRequest Id) (existing : PipelineRow Id Doc) :
    PipelinePhase Id Doc :=
  match req.satelliteID with
  | some satelliteID => .checkSatellite existing satelliteID
  | none => .update existing

def nextAgent (req : CreatePipelineRequest Id) (existing : PipelineRow Id Doc) :
    List (CreateStepInput Id) → PipelinePhase Id Doc
  | [] => afterAgents req existing
  | left => .checkAgents existing left

def afterGet (existing : PipelineRow Id Doc) :
    Option (CreatePipelineRequest Id) → PipelinePhase Id Doc
  | none => .done (.error 400 "invalid request body")
  | some req =>
    if 0 < req.steps.length ∧ req.steps.length < 2 then
      .done (.error 400 "pipeline must have at least 2 steps")
    else nextAgent req existing req.steps

def nextStep (order : Nat) : List (CreateStepInput Id) → PipelinePhase Id Doc
  | [] => .getUpdated
  | left => .insertSteps order left

variable (refs : PipelineRefs Id)

/-- The phase after a statement that reads, which leaves the tables. -/
def readPhase (fails : Bool) (db : StoredPipeline Id Doc)
    (body : Option (CreatePipelineRequest Id)) :
    PipelinePhase Id Doc → Option (PipelinePhase Id Doc)
  | .getRow =>
    if fails then some (.done (.error 500 "failed to get pipeline"))
    else
      match db.row with
      | none => some (.done (.error 404 "pipeline not found"))
      | some row => some (.getSteps row)
  | .getSteps existing =>
    if fails then some (.done (.error 500 "failed to get pipeline"))
    else some (afterGet existing body)
  | .checkAgents existing (agent :: left) =>
    if fails then some (.done (.error 500 "failed to validate agents"))
    else if refs.agentExists agent.agentID then
      body.map fun req => nextAgent req existing left
    else some (.done (.error 400 ("agent " ++ Uuid.text agent.agentID ++ " not found")))
  | .checkSatellite existing satelliteID =>
    if fails then some (.done (.error 500 "failed to validate satellite"))
    else
      match refs.satelliteStatus satelliteID with
      | none => some (.done (.error 500 "failed to validate satellite"))
      | some status =>
        if status = "active" then some (.update existing)
        else some (.done (.error 400 "satellite is not active"))
  | .getUpdated =>
    if fails then some (.done (.error 500 "failed to retrieve pipeline")) else some (.done .ok)
  | _ => none

def move (s : PipelineUpdates Id Doc) (call : Nat) (c : PipelineCall Id Doc)
    (db : StoredPipeline Id Doc) (phase : PipelinePhase Id Doc) : PipelineUpdates Id Doc :=
  { s with db := db, calls := Function.update s.calls call (some { c with phase := phase }) }

def commit (s : PipelineUpdates Id Doc) (entry : PipelineCommit Id Doc) : PipelineUpdates Id Doc :=
  { s with committed := s.committed ++ [entry] }

def exec (s : PipelineUpdates Id Doc) (call : Nat)
    (c : PipelineCall Id Doc) (fails : Bool) (now : Nat) : Option (PipelineUpdates Id Doc) :=
  match c.phase, c.body with
  | .update existing, some req =>
    match (if fails then none else updatePipeline refs now (req.merge existing) s.db) with
    | none => some (s.move call c s.db (.done (.error 500 "failed to update pipeline")))
    | some db =>
      some ((s.move call c db (if req.steps = [] then .getUpdated else .deleteSteps)).commit
        { call := call, row := { req.merge existing with updatedAt := now }, req := req })
  | .deleteSteps, some req =>
    if fails then some (s.move call c s.db (.done (.error 500 "failed to update pipeline steps")))
    else some (s.move call c (deletePipelineSteps s.db) (nextStep 1 req.steps))
  | .insertSteps order (step :: left), some _ =>
    match (if fails then none else insertPipelineStep refs order step s.db) with
    | none => some (s.move call c s.db (.done (.error 500 "failed to update pipeline steps")))
    | some db => some (s.move call c db (nextStep (order + 1) left))
  | phase, body => (readPhase refs fails s.db body phase).map (s.move call c s.db)

def step (s : PipelineUpdates Id Doc) :
    Act Id → Option (PipelineUpdates Id Doc)
  | .begin call body =>
    match s.calls call with
    | some _ => none
    | none => some (s.move call { body := body, phase := .getRow } s.db .getRow)
  | .exec call fails now => (s.calls call).bind fun c => exec refs s call c fails now

end PipelineUpdates

end Daao.Api

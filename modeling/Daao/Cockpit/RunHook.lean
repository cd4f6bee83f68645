/-
Daao.Cockpit.RunHook — the hook that shows an agent run
(`useAgentRunStream`, `applyAgentEvent` and `extractText` in
`cockpit/src/hooks/useAgents.ts`).

A component is rendered with a run id. When the id has changed, the effect
runs after the rendering: it closes the stream of the run before, sets the
state back, and opens a stream, which has its own set of seen sequence
numbers. `pendingToolCalls` is made once, when the component is mounted,
and is never emptied.

`applyAgentEvent` is the source's switch. It is `none` if it throws: the
component is taken down then (`crashed`). React calls each updater once and
in order, as it does in a production build when no rendering is given up.

A date is the text it was made of.
-/
import Daao.Lib.JsValue
import Daao.Lib.Trace

namespace Daao.Cockpit

open Daao.Lib Daao.Lib.Js

/-! ## 1. Events and the state -/

inductive EventType where
  | agentStart
  | messageUpdate
  | messageEnd
  | toolExecutionUpdate
  | toolExecutionStart
  | toolExecutionEnd
  | agentEnd
  | other (name : String)
  deriving DecidableEq

def EventType.ofString (s : String) : EventType :=
  if s = "agent_start" then .agentStart
  else if s = "message_update" then .messageUpdate
  else if s = "message_end" then .messageEnd
  else if s = "tool_execution_update" then .toolExecutionUpdate
  else if s = "tool_execution_start" then .toolExecutionStart
  else if s = "tool_execution_end" then .toolExecutionEnd
  else if s = "agent_end" then .agentEnd
  else .other s

structure AgentStreamEvent where
  id : String
  eventType : EventType
  payload : Json
  sequence : Int
  createdAt : String

structure ToolCall where
  id : Value
  name : Value
  arguments : Value
  startedAt : String
  result : Option String
  endedAt : Option String
  duration : Value

inductive LiveStatus where
  | running
  | completed
  | failed

structure TokenUsage where
  input : Json
  output : Json

structure LiveRunState where
  status : LiveStatus
  output : String
  streamingText : String
  toolCalls : List ToolCall
  tokenUsage : Option TokenUsage
  error : Option String
  result : Option String
  startedAt : Option String
  endedAt : Option String
  historyLoaded : Bool

def initialState : LiveRunState :=
  { status := .running, output := "", streamingText := "", toolCalls := [], tokenUsage := none
    error := none, result := none, startedAt := none, endedAt := none, historyLoaded := false }

/-! ## 2. `applyAgentEvent` -/

section

variable {ν : Type} (host : Host ν)

def extractParts : List Json → Option String
  | [] => some ""
  | c :: rest => do
    let type ← get (some c) "type"
    let text ← get (some c) "text"
    let tail ← extractParts rest
    if asString type = some "text" then
      some (textOf host (coalesce text (some (.str ""))) ++ tail)
    else some tail

def extractText (content : Value) : Option String :=
  match content with
  | some (.str s) => some s
  | some (.arr parts) => extractParts host parts
  | some (.obj entries) =>
    match asString (lastEntry "text" entries), asString (lastEntry "content" entries) with
    | some text, _ => some text
    | none, some text => some text
    | none, none => some (host.stringify (.obj entries))
  | _ => some ""

def coerce (v : Value) : Option String :=
  match v with
  | none | some .null => none
  | some (.str s) => some s
  | some v => some (host.stringify v)

variable [DecidableEq ν]

def has (pending : List (Key ν)) (id : Value) : Bool :=
  match key host id with
  | some k => k ∈ pending
  | none => false

/-- `pending.set(id, tc)`. The values of the map are never read. -/
def set (pending : List (Key ν)) (id : Value) : List (Key ν) :=
  match key host id with
  | some k => k :: pending
  | none => pending

def applyAgentEvent (state : LiveRunState) (event : AgentStreamEvent) (pending : List (Key ν)) :
    Option (LiveRunState × List (Key ν)) :=
  let p : Value := some event.payload
  match event.eventType with
  | .agentStart => some ({ state with startedAt := some event.createdAt }, pending)
  | .messageUpdate => do
    let msg ← get p "message"
    let delta ← get p "delta"
    if truthy host msg then
      let text ← extractText host (getOptional msg "content")
      some ({ state with streamingText := text }, pending)
    else some ({ state with streamingText := (asString delta).getD "" }, pending)
  | .messageEnd => do
    let msg ← get p "message"
    let usage := getOptional msg "usage"
    let newTokenUsage :=
      if truthy host usage then
        some { input := (asNumber (getOptional usage "input")).getD (.int 0)
               output := (asNumber (getOptional usage "output")).getD (.int 0) }
      else state.tokenUsage
    if asString (getOptional msg "role") = some "assistant" then
      let text ← extractText host (getOptional msg "content")
      if text ≠ "" then
        some ({ state with
          output := state.output ++ (if state.output ≠ "" then "\n\n" else "") ++ text
          streamingText := "", tokenUsage := newTokenUsage }, pending)
      else some ({ state with streamingText := "", tokenUsage := newTokenUsage }, pending)
    else some ({ state with streamingText := "", tokenUsage := newTokenUsage }, pending)
  | .toolExecutionUpdate => do
    let toolCallId ← get p "toolCallId"
    let toolName ← get p "toolName"
    let args ← get p "args"
    if truthy host toolCallId && !has host pending toolCallId then
      let tc : ToolCall :=
        { id := toolCallId, name := coalesce toolName (some (.str "unknown"))
          arguments := coalesce args (some (.obj [])), startedAt := event.createdAt
          result := none, endedAt := none, duration := none }
      some ({ state with toolCalls := state.toolCalls ++ [tc] }, set host pending toolCallId)
    else some (state, pending)
  | .toolExecutionStart => do
    let toolCallId := coalesce (← get p "toolCallId") (some (.str event.id))
    let name := coalesce (coalesce (← get p "toolName") (← get p "tool")) (some (.str "unknown"))
    let args := coalesce (coalesce (← get p "args") (← get p "arguments")) (some (.obj []))
    if !has host pending toolCallId then
      let tc : ToolCall :=
        { id := toolCallId, name := name, arguments := args, startedAt := event.createdAt
          result := none, endedAt := none, duration := none }
      some ({ state with toolCalls := state.toolCalls ++ [tc] }, set host pending toolCallId)
    else some (state, pending)
  | .toolExecutionEnd => do
    let toolCallId := coalesce (← get p "toolCallId") (some (.str event.id))
    let result := coerce host (← get p "result")
    let duration ← get p "duration_ms"
    let endCall (tc : ToolCall) : ToolCall :=
      if sameValue host tc.id toolCallId && tc.endedAt.isNone then
        { tc with result := result, endedAt := some event.createdAt, duration := duration }
      else tc
    some ({ state with toolCalls := state.toolCalls.map endCall }, pending)
  | .agentEnd => do
    let result ← get p "result"
    let error ← get p "error"
    some ({ state with
      status := if truthy host error then .failed else .completed
      result := coerce host result, error := coerce host error
      streamingText := "", endedAt := some event.createdAt }, pending)
  | .other _ => some (state, pending)

/-- The events applied one after the other, from the state that the effect
sets and an empty map. -/
def foldEvents (events : List AgentStreamEvent) : Option (LiveRunState × List (Key ν)) :=
  events.foldlM (fun s e => applyAgentEvent host s.1 e s.2) (initialState, [])

end

/-! ## 3. The hook -/

structure Hook (ν : Type) where
  shown : Option String
  subscribed : Option String
  state : Option LiveRunState
  connected : Bool
  error : Option String
  pendingToolCalls : List (Key ν)
  listening : Bool
  seenSeqs : List Int
  crashed : Bool

def mounted (ν : Type) : Hook ν :=
  { shown := none, subscribed := none, state := none, connected := false, error := none
    pendingToolCalls := [], listening := false, seenSeqs := [], crashed := false }

inductive Act where
  | render (runId : Option String)
  | effect
  -- what comes on the stream
  | connected
  | liveStart
  | event (e : AgentStreamEvent)
  | streamError

def isRun (runId : Option String) : Bool := runId.any fun runId => runId ≠ ""

variable {ν : Type} (host : Host ν)

/-- The effect for a run id, and before it the clean-up of the last one. -/
def Hook.runEffect (h : Hook ν) : Hook ν :=
  let h := if isRun h.subscribed then { h with listening := false, connected := false } else h
  if isRun h.shown then
    { h with
      subscribed := h.shown, state := some initialState, listening := true, seenSeqs := [] }
  else { h with subscribed := h.shown }

variable [DecidableEq ν]

/-- The updater that `handleEvent` passes to `setState`. -/
def Hook.update (h : Hook ν) (e : AgentStreamEvent) : Hook ν :=
  match h.state with
  | none => h
  | some state =>
    match applyAgentEvent host state e h.pendingToolCalls with
    | some (state, pending) => { h with state := some state, pendingToolCalls := pending }
    | none => { h with crashed := true, listening := false }

def Hook.handleEvent (h : Hook ν) (e : AgentStreamEvent) : Hook ν :=
  if 0 < e.sequence ∧ e.sequence ∈ h.seenSeqs then h
  else
    let h := if 0 < e.sequence then { h with seenSeqs := e.sequence :: h.seenSeqs } else h
    let h := h.update host e
    if e.eventType = .agentEnd then { h with listening := false, connected := false } else h

/-- A closed stream delivers nothing. A rendering waits for the effect of the
one before. -/
def step (h : Hook ν) : Act → Option (Hook ν)
  | .render runId =>
    if h.crashed = false ∧ h.shown = h.subscribed then some { h with shown := runId } else none
  | .effect =>
    if h.crashed = false ∧ h.shown ≠ h.subscribed then some h.runEffect else none
  | .connected => some (if h.listening then { h with connected := true } else h)
  | .liveStart =>
    some (if h.listening then
      { h with state := h.state.map fun state => { state with historyLoaded := true } } else h)
  | .event e => some (if h.listening then h.handleEvent host e else h)
  | .streamError =>
    some (if h.listening then { h with connected := false, error := some "Stream connection lost" }
      else h)

def Hook.display (h : Hook ν) : Option LiveRunState := if h.crashed then none else h.state

end Daao.Cockpit

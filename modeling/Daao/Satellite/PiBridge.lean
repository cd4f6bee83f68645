/-
Daao.Satellite.PiBridge — how a satellite launches the Pi process of an
agent (`internal/satellite/pi_bridge.go`).

`buildPiArgs` turns the configuration that came with the deploy command
into command-line arguments, one group of arguments after the other. The
environment comes from the host and the secrets alone. `start` arms the
timeout timer from the configuration: a `time.Duration` is an `int64` of
nanoseconds, so the product with the minute wraps.

What the configuration does not reach is left out: finding the Pi binary,
the working directory and the pipes. The host's answers are the fields of
`PiHost`.
-/
import Daao.Lib.GoMap
import Daao.Lib.GoTime

namespace Daao.Satellite

open Daao.Lib

abbrev Config := GoMap String String

def startsWith (s pre : String) : Bool := pre.toList.isPrefixOf s.toList

structure PiHost where
  expandSystemPrompt : String → String
  /-- the path of `daao-guardrails` in `ExtensionsDir()` -/
  guardrailsPath : String
  hasExtension : Bool
  environ : List String
  nodeBinDir : String
  contextDir : String
  allowedWriteDirs : List String
  listSeparator : String
  toUpper : String → String

/-! ## 1. Arguments -/

def hasGuardrailsConfig (config : Config) : Bool :=
  config.rows.any fun e => startsWith e.1 "guardrails."

def valueArgs (flag : String) (value : Option String) : List String :=
  if value.getD "" ≠ "" then [flag, value.getD ""] else []

def flagArgs (flag : String) (value : Option String) : List String :=
  if value = some "true" then [flag] else []

variable (host : PiHost)

def extensionArgs (config : Config) : List String :=
  if hasGuardrailsConfig config && host.hasExtension then ["--extension", host.guardrailsPath]
  else []

/-- The text is passed on as it is, if it is a positive number. -/
def maxToolCallsArgs (value : Option String) : List String :=
  match value with
  | none => []
  | some maxToolCalls =>
    if maxToolCalls = "" then []
    else
      match atoi maxToolCalls with
      | none => []
      | some calls => if calls > 0 then ["--max-tool-calls", maxToolCalls] else []

def systemPromptArgs (value : Option String) : List String :=
  match value with
  | none => []
  | some sysPrompt =>
    if sysPrompt = "" then [] else ["--system-prompt", host.expandSystemPrompt sysPrompt]

def buildPiArgs (config : Config) : List String :=
  ["--mode", "rpc", "--no-session", "--no-skills", "--no-prompt-templates"]
    ++ valueArgs "--provider" (config.get "provider")
    ++ valueArgs "--model" (config.get "model")
    ++ valueArgs "--tools" (config.get "tools.allow")
    ++ extensionArgs host config
    ++ flagArgs "--read-only" (config.get "guardrails.read_only")
    ++ maxToolCallsArgs (config.get "guardrails.max_tool_calls")
    ++ flagArgs "--guardrails" (config.get "guardrails.hitl")
    ++ systemPromptArgs host (config.get "system_prompt")

/-! ## 2. Environment -/

def prependPath (host : PiHost) : List String → List String
  | [] => []
  | e :: rest =>
    if startsWith e "PATH=" then
      ("PATH=" ++ host.nodeBinDir ++ host.listSeparator ++ String.ofList (e.toList.drop 5)) :: rest
    else e :: prependPath host rest

/-- The variable that a secret is also known by. -/
def secretAlias (secret : String × String) : Option String :=
  let upperKey := host.toUpper secret.1
  if ["ANTHROPIC", "OPENAI", "GOOGLE", "AZURE"].any (startsWith upperKey) then none
  else if upperKey = "API_KEY" ∨ upperKey = "ANTHROPIC_API_KEY" then
    some ("ANTHROPIC_API_KEY=" ++ secret.2)
  else if upperKey = "OPENAI_API_KEY" then some ("OPENAI_API_KEY=" ++ secret.2)
  else none

/-- The environment of the process. The secrets are read twice, each time
in an order of its own. -/
def launchEnv (first second : List (String × String)) : List String :=
  prependPath host host.environ
    ++ ["DAAO_CONTEXT_DIR=" ++ host.contextDir,
      "DAAO_ALLOWED_DIRS=" ++ String.intercalate host.listSeparator host.allowedWriteDirs]
    ++ first.map (fun secret => secret.1 ++ "=" ++ secret.2)
    ++ second.filterMap (secretAlias host)

def buildEnv (secrets : List (String × String)) : List String :=
  launchEnv host secrets secrets

/-! ## 3. Start -/

/-- The duration of the timeout timer; `none` if it is not armed. -/
def timeoutTimer (config : Config) : Option Int :=
  match config.get "guardrails.timeout_minutes" with
  | none => none
  | some timeoutMinutes =>
    match atoi timeoutMinutes with
    | none => none
    | some minutes => if minutes > 0 then some (GoTime.minutesDuration minutes) else none

structure PiLaunch where
  args : List String
  env : List String
  timeout : Option Int

def start (config : Config) (secrets : List (String × String)) : PiLaunch :=
  { args := buildPiArgs host config, env := buildEnv host secrets, timeout := timeoutTimer config }

end Daao.Satellite

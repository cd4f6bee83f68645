/-
Daao.Api.AgentConfigTheorems — which stored guardrails reach the deployed
configuration.

The request cannot weaken a restriction that is written, because the
guardrails are written after the request's configuration. But they are
written only if the whole object decodes without an error, so one field
of another type drops all of them; and a timeout of less than a minute is
rounded up to a minute.
-/
import Daao.Api.Agents

namespace Daao.Api

open Daao.Lib Option

/-! ## 1. What is stored -/

/-- The restrictions of a guardrails object. A field that is missing, or
has no value of its type, is off. -/
def storedGuardrails (entries : List (String × Json)) : GuardrailsJSON :=
  { hitl := (lastField Json.asBool "hitl" entries).getD false
    readOnly := (lastField Json.asBool "read_only" entries).getD false
    timeoutMinutes := (lastField Json.asInt "timeout_minutes" entries).getD 0
    timeout := (lastField Json.asInt "timeout" entries).getD 0
    maxToolCalls := (lastField Json.asInt "max_tool_calls" entries).getD 0
    maxTurns := (lastField Json.asInt "max_turns" entries).getD 0 }

def GuardrailsJSON.timeoutSeconds (gr : GuardrailsJSON) : Int :=
  if gr.timeoutMinutes > 0 then 60 * gr.timeoutMinutes else gr.timeout

def bound (config : Config) (key : String) : Option Int :=
  ((config.get key).bind atoi).filter fun n => 0 < n

structure Enforces (gr : GuardrailsJSON) (config : Config) : Prop where
  readOnly : gr.readOnly = true → config.get "guardrails.read_only" = some "true"
  hitl : gr.hitl = true → config.get "guardrails.hitl" = some "true"
  maxToolCalls : 0 < gr.maxToolCalls →
    ∃ n, bound config "guardrails.max_tool_calls" = some n ∧ n ≤ gr.maxToolCalls
  maxTurns : 0 < gr.maxTurns →
    ∃ n, bound config "guardrails.max_turns" = some n ∧ n ≤ gr.maxTurns
  timeout : 0 < gr.timeoutSeconds →
    ∃ n, bound config "guardrails.timeout_minutes" = some n ∧ 60 * n ≤ gr.timeoutSeconds

theorem names_guardrailsFields : (guardrailsFields.map fun f => foldName f.name).Nodup := by
  decide

theorem get_guardrails {α : Type} (g : GuardrailsJSON → α) (r : Json → Option α)
    (name : String) (hn : name ∈ guardrailsFields.map StructField.name)
    (hs : ∀ f ∈ guardrailsFields, ∀ s v,
      g (f.store s v) = if f.name = name then (r v).getD (g s) else g s)
    (e : List (String × Json)) :
    g (decodeFields guardrailsFields .zero e) = (lastField r name e).getD (g .zero) :=
  get_decodeFields names_guardrailsFields hn hs e _

open GuardrailsJSON

theorem decodeFields_guardrails (entries : List (String × Json)) :
    decodeFields guardrailsFields .zero entries = storedGuardrails entries := by
  refine GuardrailsJSON.ext (get_guardrails (·.hitl) Json.asBool "hitl" (by decide) ?_ entries)
    (get_guardrails (·.readOnly) Json.asBool "read_only" (by decide) ?_ entries)
    (get_guardrails (·.timeoutMinutes) Json.asInt "timeout_minutes" (by decide) ?_ entries)
    (get_guardrails (·.timeout) Json.asInt "timeout" (by decide) ?_ entries)
    (get_guardrails (·.maxToolCalls) Json.asInt "max_tool_calls" (by decide) ?_ entries)
    (get_guardrails (·.maxTurns) Json.asInt "max_turns" (by decide) ?_ entries)
  -- each of the six stores, for each of the six fields
  all_goals
    simp only [guardrailsFields, List.forall_mem_cons, store_scalar]
    refine ⟨?_, ?_, ?_, ?_, ?_, ?_, by simp⟩ <;> intro s v <;> cases v.asBool <;>
      cases v.asInt <;> rfl

theorem guardrailEntries_of_accepts {entries : List (String × Json)}
    (h : acceptsFields guardrailsFields entries = true) :
    guardrailEntries (.obj entries) = restrictionEntries (storedGuardrails entries) := by
  cases entries with
  | nil => rfl
  | cons e r =>
    simp [guardrailEntries, unmarshal, h, decodeFields_guardrails]

theorem guardrailEntries_of_rejects {entries : List (String × Json)}
    (h : acceptsFields guardrailsFields entries = false) :
    guardrailEntries (.obj entries) = [] := by
  cases entries with
  | nil => rfl
  | cons e r => simp [guardrailEntries, unmarshal, h]

/-! ## 2. What a key holds -/

def identityKeys : List String := ["provider", "model", "system_prompt"]

def guardrailKeys : List String :=
  ["guardrails.read_only", "guardrails.timeout_minutes", "guardrails.max_tool_calls",
    "guardrails.max_turns", "guardrails.hitl"]

def toolKeys : List String := ["tools.allow", "tools.deny"]

/-- The keys of some entries are among the given ones, in order. -/
def HasKeys (entries : List (String × String)) (keys : List String) : Prop :=
  (entries.map Prod.fst).Sublist keys

theorem hasKeys_entryIf (c : Bool) (k v : String) : HasKeys (entryIf c k v) [k] :=
  keys_entryIf_sublist c k v

theorem HasKeys.append {e en' : List (String × String)} {k y' : List String}
    (h : HasKeys e k) (h' : HasKeys en' y') :
    HasKeys (e ++ en') (k ++ y') := by
  unfold HasKeys
  rw [List.map_append]
  exact List.Sublist.append h h'

theorem hasKeys_nil (keys : List String) : HasKeys [] keys := List.nil_sublist keys

variable {key : String}

theorem HasKeys.lastEntry_eq_none {e : List (String × String)} {k : List String}
    (h : HasKeys e k) (hk : key ∉ k) : lastEntry key e = none :=
  Daao.Lib.lastEntry_eq_none fun hm => hk (h.subset hm)

variable {Id : Type} (agent : AgentDefinition Id)

theorem hasKeys_identityEntries : HasKeys (identityEntries agent) identityKeys :=
  ((hasKeys_entryIf _ _ _).append (hasKeys_entryIf _ _ _)).append (hasKeys_entryIf _ _ _)

def GuardrailsJSON.deployedMinutes (gr : GuardrailsJSON) : Int :=
  if gr.timeoutMinutes > 0 then gr.timeoutMinutes
  else if gr.timeout / 60 < 1 then 1 else gr.timeout / 60

theorem timeoutEntry_eq (gr : GuardrailsJSON) :
    timeoutEntry gr = entryIf (0 < gr.timeoutSeconds) "guardrails.timeout_minutes"
      (itoa gr.deployedMinutes) := by
  unfold timeoutEntry timeoutSeconds deployedMinutes
  by_cases hm : gr.timeoutMinutes > 0
  · have hp : 0 < 60 * gr.timeoutMinutes := by omega
    simp [hm, hp, entryIf]
  by_cases hs : gr.timeout > 0
  · simp [hm, hs, entryIf]
  · simp [hm, hs, entryIf]

theorem hasKeys_timeoutEntry (gr : GuardrailsJSON) :
    HasKeys (timeoutEntry gr) ["guardrails.timeout_minutes"] := by
  rw [timeoutEntry_eq]
  exact hasKeys_entryIf _ _ _

theorem hasKeys_restrictionEntries (gr : GuardrailsJSON) :
    HasKeys (restrictionEntries gr) guardrailKeys :=
  ((((hasKeys_entryIf _ _ _).append (hasKeys_timeoutEntry gr)).append
    (hasKeys_entryIf _ _ _)).append (hasKeys_entryIf _ _ _)).append (hasKeys_entryIf _ _ _)

theorem hasKeys_guardrailEntries (g : Json) :
    HasKeys (guardrailEntries g) guardrailKeys := by
  unfold guardrailEntries
  split
  · exact hasKeys_nil _
  simp only
  split
  · exact hasKeys_restrictionEntries _
  · exact hasKeys_nil _

theorem hasKeys_toolEntries (tc : Json) : HasKeys (toolEntries tc) toolKeys := by
  simp only [toolEntries]
  split
  · exact (hasKeys_entryIf _ _ _).append (hasKeys_entryIf _ _ _)
  · exact hasKeys_nil _

theorem nodup_agentEntries : ((agentEntries agent).map Prod.fst).Nodup := by
  have hk : HasKeys (agentEntries agent) (identityKeys ++ guardrailKeys ++ toolKeys) :=
    ((hasKeys_identityEntries agent).append (hasKeys_guardrailEntries _)).append
      (hasKeys_toolEntries _)
  exact List.Nodup.sublist hk (by decide)

theorem lastEntry_agentEntries (hk : key ∈ guardrailKeys) :
    lastEntry key (agentEntries agent) = lastEntry key (guardrailEntries agent.guardrails) := by
  have ho : ∀ key ∈ guardrailKeys, key ∉ identityKeys ∧ key ∉ toolKeys := by decide
  simp [agentEntries, (hasKeys_identityEntries agent).lastEntry_eq_none (ho key hk).1,
    (hasKeys_toolEntries agent.toolsConfig).lastEntry_eq_none (ho key hk).2]

def mergedConfig {Id : Type} (agent : AgentDefinition Id) (request : Config) : Config :=
  (runConfig agent).putAll request.rows

variable {config : Config}

theorem get_deployConfig {agent : AgentDefinition Id} {r : Config}
    (h : deployConfig agent r = some config) (key : String) :
    config.get key
      = (lastEntry key (agentEntries agent)).or ((mergedConfig agent r).get key) := by
  rw [GoMap.get_writeAll h, mergedConfig, GoMap.get_putAll, lastEntry_append, Option.or_assoc,
    runConfig]

theorem rawConfig_eq_none_iff : rawConfig agent = none ↔ agent.toolsConfig = .null := by
  unfold rawConfig
  cases agent.toolsConfig <;> simp [unmarshalStringMap]

theorem deployConfig_eq_none_iff (re : Config) :
    deployConfig agent re = none
      ↔ agent.toolsConfig = .null ∧ (re.rows ≠ [] ∨ agentEntries agent ≠ []) := by
  rw [deployConfig, GoMap.writeAll_eq_none_iff, rawConfig_eq_none_iff, Ne,
    List.append_eq_nil_iff, not_and_or]

theorem deployConfig_eq_runConfig_iff :
    (deployConfig agent .empty).map GoMap.get = some (runConfig agent).get
      ↔ ∀ e ∈ agentEntries agent, (runConfig agent).get e.1 = some e.2 := by
  have hn := nodup_agentEntries agent
  constructor
  · intro h e he
    obtain ⟨config, hc, hg⟩ := map_eq_some_iff.mp h
    rw [← hg, get_deployConfig hc, (lastEntry_eq_some_iff hn).mpr he, some_or]
  intro h
  cases hd : deployConfig agent .empty with
  | none =>
    -- a nil map holds no entry, and there is one
    obtain ⟨hni, hen⟩ := GoMap.writeAll_eq_none_iff.mp hd
    obtain ⟨e, he⟩ := List.exists_mem_of_ne_nil _ hen
    have hh := h e he
    rw [runConfig, hni] at hh
    cases hh
  | some config =>
    rw [map_some, some_inj]
    funext key
    have hg := get_deployConfig hd key
    cases hl : lastEntry key (agentEntries agent) with
    | none => rw [hg, hl, none_or]; rfl
    | some v => rw [hg, hl, some_or, h _ (mem_of_lastEntry hl)]

/-! ## 3. What is enforced -/

theorem bound_of_get {n : Int} (h : config.get key = some (itoa n)) (hp : 0 < n)
    (hn : InInt64 n) : bound config key = some n := by
  simp [bound, h, atoi_itoa hp hn, hp]

variable {gr : GuardrailsJSON}

theorem inInt64_deployedMinutes (hm : InInt64 gr.timeoutMinutes)
    (ht : InInt64 gr.timeout) : InInt64 gr.deployedMinutes := by
  unfold deployedMinutes InInt64 at *
  split
  · exact hm
  · split <;> omega

theorem deployedMinutes_pos (gr : GuardrailsJSON) : 0 < gr.deployedMinutes := by
  unfold deployedMinutes
  split
  · assumption
  · split <;> omega

theorem deployedMinutes_le_iff (hp : 0 < gr.timeoutSeconds) :
    60 * gr.deployedMinutes ≤ gr.timeoutSeconds
      ↔ 0 < gr.timeoutMinutes ∨ 60 ≤ gr.timeout := by
  unfold deployedMinutes timeoutSeconds at *
  split
  · rename_i hm
    exact ⟨fun _ => .inl hm, fun _ => le_refl _⟩
  rename_i hm
  rw [if_neg hm] at hp
  split <;> omega

/-- A timeout that is off, that is in minutes, or that is at least a
minute. -/
def GuardrailsJSON.WholeMinutes (gr : GuardrailsJSON) : Prop :=
  0 < gr.timeoutMinutes ∨ gr.timeout ≤ 0 ∨ 60 ≤ gr.timeout

theorem lastEntry_restrictionEntries (gr : GuardrailsJSON) :
    lastEntry "guardrails.read_only" (restrictionEntries gr)
        = (if gr.readOnly = true then some "true" else none)
      ∧ lastEntry "guardrails.hitl" (restrictionEntries gr)
        = (if gr.hitl = true then some "true" else none)
      ∧ lastEntry "guardrails.max_tool_calls" (restrictionEntries gr)
        = (if 0 < gr.maxToolCalls then some (itoa gr.maxToolCalls) else none)
      ∧ lastEntry "guardrails.max_turns" (restrictionEntries gr)
        = (if 0 < gr.maxTurns then some (itoa gr.maxTurns) else none)
      ∧ lastEntry "guardrails.timeout_minutes" (restrictionEntries gr)
        = (if 0 < gr.timeoutSeconds then some (itoa gr.deployedMinutes) else none) := by
  refine ⟨?_, ?_, ?_, ?_, ?_⟩ <;> simp [restrictionEntries, timeoutEntry_eq]

theorem enforces_iff_of_written (b : Config)
    (hm : InInt64 gr.timeoutMinutes) (hti : InInt64 gr.timeout)
    (hc : InInt64 gr.maxToolCalls) (htu : InInt64 gr.maxTurns) (hg : ∀ key ∈ guardrailKeys,
      config.get key = (lastEntry key (restrictionEntries gr)).or (b.get key)) :
    Enforces gr config ↔ gr.WholeMinutes := by
  obtain ⟨hr, hh, hce, hte, htm⟩ := lastEntry_restrictionEntries gr
  have ht : 0 < gr.timeoutSeconds →
      bound config "guardrails.timeout_minutes" = some gr.deployedMinutes := by
    intro hp
    refine bound_of_get ?_ (deployedMinutes_pos gr) (inInt64_deployedMinutes hm hti)
    rw [hg _ (by decide), htm, if_pos hp, some_or]
  constructor
  · intro he
    by_cases hp : 0 < gr.timeoutSeconds
    · obtain ⟨n, hn, hle⟩ := he.timeout hp
      rw [ht hp] at hn
      cases hn
      rcases (deployedMinutes_le_iff hp).mp hle with h | h
      · exact .inl h
      · exact .inr (.inr h)
    unfold timeoutSeconds at hp
    unfold GuardrailsJSON.WholeMinutes
    split at hp <;> omega
  · intro hw
    constructor
    case readOnly =>
      intro hon
      rw [hg _ (by decide), hr, if_pos hon, some_or]
    case hitl =>
      intro hon
      rw [hg _ (by decide), hh, if_pos hon, some_or]
    case maxToolCalls =>
      intro hp
      refine ⟨_, bound_of_get ?_ hp hc, le_refl _⟩
      rw [hg _ (by decide), hce, if_pos hp, some_or]
    case maxTurns =>
      intro hp
      refine ⟨_, bound_of_get ?_ hp htu, le_refl _⟩
      rw [hg _ (by decide), hte, if_pos hp, some_or]
    case timeout =>
      intro hp
      refine ⟨_, ht hp, ?_⟩
      rw [deployedMinutes_le_iff hp]
      unfold timeoutSeconds at hp
      unfold GuardrailsJSON.WholeMinutes at hw
      split at hp <;> omega

theorem enforces_congr {config' : Config}
    (h : ∀ key ∈ guardrailKeys, config.get key = config'.get key) :
    Enforces gr config ↔ Enforces gr config' := by
  have hm : ∀ {c c' : Config}, (∀ key ∈ guardrailKeys, c.get key = c'.get key) →
      Enforces gr c → Enforces gr c' := by
    intro c c' h he
    have hb : ∀ key ∈ guardrailKeys, bound c' key = bound c key := by
      intro key hk
      rw [bound, ← h key hk, bound]
    exact
      { readOnly := fun hon => by rw [← h _ (by decide), he.readOnly hon]
        hitl := fun hon => by rw [← h _ (by decide), he.hitl hon]
        maxToolCalls := fun hon => by rw [hb _ (by decide)]; exact he.maxToolCalls hon
        maxTurns := fun hon => by rw [hb _ (by decide)]; exact he.maxTurns hon
        timeout := fun hon => by rw [hb _ (by decide)]; exact he.timeout hon }
  exact ⟨hm h, hm fun key hk => (h key hk).symm⟩

def agentWith (guardrails toolsConfig : Json) : AgentDefinition Nat :=
  { id := 1, name := "reviewer", version := "1.0.0", type := "specialist"
    category := "operations", provider := "local", model := "small"
    systemPrompt := "Review the change.", toolsConfig := toolsConfig, guardrails := guardrails
    routing := none }

def threeRestrictions : List (String × Json) :=
  [("hitl", .null), ("timeout", .int 150), ("read_only", .bool true), ("max_tool_calls", .int 20)]

end Daao.Api

/-
Daao.Api.AgentExportTheorems — which agents come back from an export as
they were.

`named…` is what the export finds in a document: the values under exact
keys, with numbers as `float64`. `deployed…` is what the deployment finds
in it: the fields up to case, and nothing at all if one has another type.
`Portable` asks that the two agree, that deployment finds nothing that the
format has no place for, and that `tools_config` has no other entries.
-/
import Daao.Api.AgentConfigTheorems
import Daao.Api.AgentExport

namespace Daao.Api

open Daao.Lib Option StringSlice GuardrailsJSON Json GoMap

/-! ## 1. What agents have in common -/

section

variable {Id : Type}

def DeployAlike (a b : AgentDefinition Id) : Prop :=
  ∀ request, (deployConfig a request).map GoMap.get = (deployConfig b request).map GoMap.get

def oneKey (key value : String) : Config :=
  { rows := [(key, value)], primaryKey := List.nodup_singleton _ }

theorem deployConfig_of_raw {a : AgentDefinition Id} {m : Config}
    (hm : rawConfig a = some m) (r : Config) :
    (deployConfig a r).map get = some fun k =>
      (lastEntry k (agentEntries a)).or ((lastEntry k r.rows).or (m.get k)) := by
  rw [deployConfig, hm, writeAll, map_some, some_inj]
  funext k
  rw [get_putAll, lastEntry_append, Option.or_assoc]

theorem eq_of_forall_or_eq {o o' : Option String}
    (h : ∀ a, o.or (some a) = o'.or (some a)) : o = o' := by
  have hx := h "x"
  have hy := h "y"
  cases o with
  | none =>
    cases o' with
    | none => rfl
    | some v => exact absurd ((some.inj hx).trans (some.inj hy).symm) (by decide)
  | some v =>
    cases o' with
    | none => exact absurd ((some.inj hx).symm.trans (some.inj hy)) (by decide)
    | some v' => exact hx

theorem deployAlike_iff {a b : AgentDefinition Id} {m' : Config} (hb : rawConfig b = some m') :
    DeployAlike a b ↔ ∃ m, rawConfig a = some m ∧
      (∀ key, lastEntry key (agentEntries a) = lastEntry key (agentEntries b)) ∧
      ∀ key, lastEntry key (agentEntries a) = none → m.get key = m'.get key := by
  constructor
  · intro h
    have hra : ∃ m, rawConfig a = some m := by
      cases ha : rawConfig a with
      | some m => exact ⟨m, rfl⟩
      | none =>
        -- a nil map cannot be written, and the request has an entry
        have hn : deployConfig a (oneKey "" "") = none :=
          writeAll_eq_none_iff.mpr ⟨ha, List.cons_ne_nil _ _⟩
        have hc := h (oneKey "" "")
        rw [hn, deployConfig_of_raw hb] at hc
        cases hc
    obtain ⟨m, ha⟩ := hra
    have hg : ∀ (r : Config) (key : String),
        (lastEntry key (agentEntries a)).or ((lastEntry key r.rows).or (m.get key))
          = (lastEntry key (agentEntries b)).or ((lastEntry key r.rows).or (m'.get key)) := by
      intro r key
      have hc := h r
      rw [deployConfig_of_raw ha, deployConfig_of_raw hb, some_inj] at hc
      exact congrFun hc key
    have he : ∀ key, lastEntry key (agentEntries a) = lastEntry key (agentEntries b) := by
      intro key
      refine eq_of_forall_or_eq fun value => ?_
      simpa [oneKey, lastEntry] using hg (oneKey key value) key
    refine ⟨m, ha, he, ?_⟩
    intro key hk
    have hem := hg .empty key
    rw [← he key, hk] at hem
    exact hem
  · rintro ⟨m, ha, he, hr⟩ r
    rw [deployConfig_of_raw ha, deployConfig_of_raw hb, some_inj]
    funext key
    rw [← he key]
    cases hk : lastEntry key (agentEntries a) with
    | some v => rfl
    | none => rw [hr key hk]

theorem lastEntry_agentEntries_tools (agent : AgentDefinition Id) {key : String}
    (hk : key ∈ toolKeys) :
    lastEntry key (agentEntries agent) = lastEntry key (toolEntries agent.toolsConfig) := by
  have ho : ∀ key ∈ toolKeys, key ∉ identityKeys ∧ key ∉ guardrailKeys := by decide
  simp [agentEntries, (hasKeys_identityEntries agent).lastEntry_eq_none (ho key hk).1,
    (hasKeys_guardrailEntries agent.guardrails).lastEntry_eq_none (ho key hk).2]

theorem lastEntry_agentEntries_iff {a b : AgentDefinition Id}
    (hi : identityEntries a = identityEntries b) :
    (∀ key, lastEntry key (agentEntries a) = lastEntry key (agentEntries b)) ↔
      (∀ key, lastEntry key (guardrailEntries a.guardrails)
        = lastEntry key (guardrailEntries b.guardrails)) ∧
      ∀ key, lastEntry key (toolEntries a.toolsConfig)
        = lastEntry key (toolEntries b.toolsConfig) := by
  constructor
  · intro h
    constructor
    · intro key
      by_cases hk : key ∈ guardrailKeys
      · rw [← lastEntry_agentEntries a hk, h key, lastEntry_agentEntries b hk]
      rw [(hasKeys_guardrailEntries _).lastEntry_eq_none hk,
        (hasKeys_guardrailEntries _).lastEntry_eq_none hk]
    intro key
    by_cases hk : key ∈ toolKeys
    · rw [← lastEntry_agentEntries_tools a hk, h key, lastEntry_agentEntries_tools b hk]
    rw [(hasKeys_toolEntries _).lastEntry_eq_none hk, (hasKeys_toolEntries _).lastEntry_eq_none hk]
  · rintro ⟨hg, ht⟩ key
    simp [agentEntries, hi, hg key, ht key]

end

/-! ## 2. Guardrails -/

def deployedGuardrails (guardrails : Json) : GuardrailsJSON :=
  match guardrails with
  | .obj entries =>
    if acceptsFields guardrailsFields entries then storedGuardrails entries else .zero
  | _ => .zero

/-- The value under exactly this key; `none` if a number of the document is
out of range. -/
def namedValue (doc : Json) (key : String) : Option Json :=
  match doc with
  | .obj entries => if doc.inRange then lastEntry key entries else none
  | _ => none

def namedBool (doc : Json) (key : String) : Bool :=
  ((namedValue doc key).bind Json.asBool).getD false

variable (o : IntOverflow)

def namedInt (doc : Json) (key : String) : Int :=
  (((namedValue doc key).bind Json.asFloat).map o.toInt).getD 0

def namedGuardrails (guardrails : Json) : GuardrailsJSON :=
  { hitl := namedBool guardrails "hitl"
    readOnly := namedBool guardrails "read_only"
    timeoutMinutes := namedInt o guardrails "timeout_minutes"
    timeout := 0
    maxToolCalls := namedInt o guardrails "max_tool_calls"
    maxTurns := 0 }

def positive (n : Int) : Option Int := if 0 < n then some n else none

def GuardrailsJSON.minutes? (gr : GuardrailsJSON) : Option Int :=
  if 0 < gr.timeoutSeconds then some gr.deployedMinutes else none

theorem guardrailEntries_eq (guardrails : Json) :
    guardrailEntries guardrails = restrictionEntries (deployedGuardrails guardrails) := by
  cases guardrails with
  | obj e =>
    rw [deployedGuardrails]
    split
    · rename_i ha
      exact guardrailEntries_of_accepts ha
    rename_i ha
    exact guardrailEntries_of_rejects (by simpa using ha)
  | _ => rfl

theorem entry_eq_iff (m n : Int) :
    (if 0 < m then some (itoa m) else none) = (if 0 < n then some (itoa n) else none)
      ↔ positive m = positive n := by
  unfold positive
  by_cases hm : 0 < m <;> by_cases hn : 0 < n <;> simp [hm, hn, itoa_inj]

theorem flag_eq_iff (b b' : Bool) :
    (if b = true then some "true" else none) = (if b' = true then some "true" else none) ↔
      b = b' := by
  cases b <;> cases b' <;> simp

theorem minutes_eq_iff (gr gr' : GuardrailsJSON) :
    (if 0 < gr.timeoutSeconds then some (itoa gr.deployedMinutes) else none)
        = (if 0 < gr'.timeoutSeconds then some (itoa gr'.deployedMinutes) else none)
      ↔ gr.minutes? = gr'.minutes? := by
  unfold minutes?
  by_cases h : 0 < gr.timeoutSeconds <;> by_cases h' : 0 < gr'.timeoutSeconds <;>
    simp [h, h', itoa_inj (deployedMinutes_pos gr) (deployedMinutes_pos gr')]

theorem restrictionEntries_iff (gr gr' : GuardrailsJSON) :
    (∀ k, lastEntry k (restrictionEntries gr) = lastEntry k (restrictionEntries gr')) ↔
      gr.hitl = gr'.hitl ∧ gr.readOnly = gr'.readOnly ∧ gr.minutes? = gr'.minutes? ∧
        positive gr.maxToolCalls = positive gr'.maxToolCalls ∧
        positive gr.maxTurns = positive gr'.maxTurns := by
  obtain ⟨hr, hh, hc, ht, hm⟩ := lastEntry_restrictionEntries gr
  obtain ⟨hr', hh', hc', ht', hm'⟩ := lastEntry_restrictionEntries gr'
  rw [← flag_eq_iff, ← flag_eq_iff gr.readOnly, ← minutes_eq_iff, ← entry_eq_iff,
    ← entry_eq_iff gr.maxTurns, ← hh, ← hh', ← hr, ← hr', ← hm,
    ← hm', ← hc, ← hc', ← ht, ← ht']
  refine ⟨fun h => ⟨h _, h _, h _, h _, h _⟩, ?_⟩
  rintro ⟨hs, hsr, hsm, hsc, hst⟩ k
  by_cases hk : k ∈ guardrailKeys
  · simp only [guardrailKeys, List.mem_cons, List.not_mem_nil, or_false] at hk
    rcases hk with rfl | rfl | rfl | rfl | rfl <;> assumption
  rw [(hasKeys_restrictionEntries gr).lastEntry_eq_none hk,
    (hasKeys_restrictionEntries gr').lastEntry_eq_none hk]

theorem deployedGuardrails_import {g : AgentYAMLGuardrails} (hm : InInt64 g.timeoutMinutes)
    (hc : InInt64 g.maxToolCalls) :
    deployedGuardrails (importGuardrails g)
      = { hitl := g.hitl, readOnly := g.readOnly, timeoutMinutes := g.timeoutMinutes, timeout := 0
          maxToolCalls := g.maxToolCalls, maxTurns := 0 } := by
  have hi : ∀ {n : Int}, InInt64 n → (int n).asInt = some n := fun hn => if_pos hn
  have hb : ∀ b, (bool b).asBool = some b := fun _ => rfl
  have hf : ∀ name ∈ guardrailsFields.map StructField.name,
      ∀ name' ∈ guardrailsFields.map StructField.name,
        foldName name = foldName name' ↔ name = name' := by decide
  rw [importGuardrails, deployedGuardrails, if_pos]
  · -- each name is met by its own entry only
    simp [storedGuardrails, lastField, hi hm, hi hc, hb, hf, guardrailsFields, StructField.scalar]
  simp [acceptsFields, fieldOf, guardrailsFields, StructField.scalar, hi hm, hi hc, hb]

theorem namedValue_empty (k : String) : namedValue (.obj []) k = none := rfl

theorem unmarshalMap_spec (doc : Json) :
    (∃ m, unmarshalMap doc = some m ∧ ∀ k, (m.getD .empty).get k = namedValue doc k) ∨
      unmarshalMap doc = none ∧ ∀ k, namedValue doc k = none := by
  cases doc with
  | obj e => grind [unmarshalMap, namedValue, get_putAll_empty]
  | null => exact .inl ⟨none, rfl, fun _ => rfl⟩
  | _ =>
    refine .inr ⟨?_, fun _ => rfl⟩
    simp [unmarshalMap]

theorem inInt64_namedInt (doc : Json) (key : String) : InInt64 (namedInt o doc key) := by
  unfold namedInt
  cases (namedValue doc key).bind asFloat with
  | none => exact (by decide : InInt64 0)
  | some x => exact o.inInt64_toInt x

theorem exportGuardrails_spec (d : Json) :
    (exportGuardrails o (some d) = none ∧ ∀ k, namedValue d k = none) ∨
      exportGuardrails o (some d) = some
        { hitl := namedBool d "hitl", readOnly := namedBool d "read_only"
          timeoutMinutes := namedInt o d "timeout_minutes"
          maxToolCalls := namedInt o d "max_tool_calls" } := by
  unfold exportGuardrails
  split
  · rename_i h
    cases h
  · rename_i h
    cases h
    exact .inl ⟨rfl, namedValue_empty⟩
  rename_i h
  cases h
  rcases unmarshalMap_spec d with ⟨m, hm, hg⟩ | ⟨hm, hn⟩
  · refine .inr ?_
    simp only [hm, map_some, hg]
    rfl
  · grind

theorem guardrailEntries_imported (guardrails : Option Json) :
    guardrailEntries (((exportGuardrails o guardrails).map importGuardrails).getD (.obj []))
      = restrictionEntries (namedGuardrails o (guardrails.getD (.obj []))) := by
  have hz : ∀ doc, (∀ k, namedValue doc k = none) → namedGuardrails o doc = .zero := by
    intro doc hn
    simp [namedGuardrails, namedBool, namedInt, hn, zero]
  cases guardrails with
  | none =>
    rfl
  | some doc =>
    rcases exportGuardrails_spec o doc with ⟨he, hn⟩ | he
    · rw [he, getD_some, hz doc hn]
      rfl
    rw [he, map_some, getD_some, guardrailEntries_eq,
      deployedGuardrails_import (inInt64_namedInt o doc _) (inInt64_namedInt o doc _)]
    rfl

/-! ## 3. Tools -/

variable (toolsConfig : Json)

def deployedTools : ToolsConfigJSON :=
  let tc := unmarshal toolsConfigFields { allow := .nil, deny := .nil } toolsConfig
  if tc.ok then tc.value else { allow := .nil, deny := .nil }

def namedTools (key : String) : List String :=
  stringsOf (namedValue toolsConfig key)

def toolList (tools : List String) : Option String :=
  if tools = [] then none else some (String.intercalate "," tools)

theorem lastEntry_toolEntries (k : String) :
    lastEntry k (toolEntries toolsConfig)
      = if k = "tools.allow" then toolList (deployedTools toolsConfig).allow.elems
        else if k = "tools.deny" then toolList (deployedTools toolsConfig).deny.elems
        else none := by
  simp only [toolEntries, deployedTools]
  split
  · by_cases ha : k = "tools.allow"
    · simp [ha, toolList, joinTools]
    by_cases hd : k = "tools.deny"
    · simp [hd, toolList, joinTools]
    · simp [ha, hd]
  · simp [lastEntry, toolList, nil]

theorem decodeElems_str (tools : List String) :
    decodeElems [] (tools.map .str) = tools := by
  induction tools with
  | nil => rfl
  | cons t r ih => simp [decodeElems, asString, ih]

theorem deployedTools_import (t : AgentYAMLTools) :
    (deployedTools (importTools (some t))).allow.elems = t.allow ∧
      (deployedTools (importTools (some t))).deny.elems = t.deny := by
  obtain ⟨allow, deny⟩ := t
  -- a list that is empty has no entry
  cases allow <;> cases deny <;>
    simp [importTools, entryIf, deployedTools, unmarshal, decodeFields, acceptsFields, fieldOf,
      toolsConfigFields, StructField.strings, store, nil,
      accepts, decodeElems, asString, decodeElems_str]

theorem exportTools_spec :
    (exportTools toolsConfig = none ∧
      namedTools toolsConfig "allow" = [] ∧ namedTools toolsConfig "deny" = []) ∨
      exportTools toolsConfig = some
        { allow := namedTools toolsConfig "allow", deny := namedTools toolsConfig "deny" } := by
  unfold exportTools
  split
  · exact .inl ⟨rfl, rfl, rfl⟩
  · grind [namedTools, stringsOf, unmarshalMap_spec]

theorem deployedTools_imported :
    (deployedTools (importTools (exportTools toolsConfig))).allow.elems
        = namedTools toolsConfig "allow" ∧
      (deployedTools (importTools (exportTools toolsConfig))).deny.elems
        = namedTools toolsConfig "deny" := by
  rcases exportTools_spec toolsConfig with ⟨he, ha, hd⟩ | he
  · rw [he, ha, hd]
    exact ⟨rfl, rfl⟩
  rw [he]
  exact deployedTools_import _

theorem toolEntries_iff (toolsConfig tc' : Json) :
    (∀ k, lastEntry k (toolEntries toolsConfig) = lastEntry k (toolEntries tc')) ↔
      toolList (deployedTools toolsConfig).allow.elems = toolList (deployedTools tc').allow.elems ∧
        toolList (deployedTools toolsConfig).deny.elems
          = toolList (deployedTools tc').deny.elems := by
  simp only [lastEntry_toolEntries]
  constructor
  · intro h
    exact ⟨h "tools.allow", h "tools.deny"⟩
  · grind

def Kept (key : String) : Prop :=
  (key = "allow" ∨ key = "deny") ∧ namedTools toolsConfig key ≠ []

theorem get_unmarshalStringMap {e : List (String × Json)} {m : Config}
    (h : unmarshalStringMap (.obj e) = some m) (k : String) :
    m.get k = (lastEntry k e).map fun v => v.asString.getD "" := by
  cases h
  rw [get_putAll_empty]
  exact lastEntry_map (fun v : Json => v.asString.getD "") k e

theorem unmarshalStringMap_imported :
    ∃ m, unmarshalStringMap (importTools (exportTools toolsConfig)) = some m ∧
      ∀ key, (Kept toolsConfig key → m.get key = some "") ∧
        (¬ Kept toolsConfig key → m.get key = none) := by
  rcases exportTools_spec toolsConfig with ⟨he, ha, hd⟩ | he
  · refine ⟨.empty, by rw [he]; rfl, fun key => ⟨?_, fun _ => rfl⟩⟩
    rintro ⟨rfl | rfl, hne⟩
    · exact absurd ha hne
    · exact absurd hd hne
  refine ⟨_, by rw [he]; rfl, fun key => ?_⟩
  rw [get_unmarshalStringMap rfl, lastEntry_append, lastEntry_entryIf, lastEntry_entryIf]
  constructor
  · rintro ⟨rfl | rfl, hne⟩ <;> simp [hne, asString]
  · grind [Kept]

theorem lastEntry_of_kept {entries : List (String × Json)} {key : String}
    (h : Kept (.obj entries) key) :
    (lastEntry key entries).map (fun v => v.asString.getD "") = some "" := by
  have hs := h.2
  rw [namedTools, namedValue] at hs
  split at hs
  · cases hl : lastEntry key entries with
    | none => exact absurd (by rw [hl]; rfl) hs
    | some v =>
      cases v with
      | arr e => rfl
      | _ => exact absurd (by rw [hl]; rfl) hs
  · exact absurd rfl hs

theorem not_kept_of_ne_obj {toolsConfig : Json} (h : ∀ e, toolsConfig ≠ .obj e)
    (key : String) : ¬ Kept toolsConfig key := by
  rintro ⟨-, hne⟩
  cases toolsConfig with
  | obj e => exact h e rfl
  | _ => exact hne rfl

theorem rawConfig_iff {toolsConfig : Json} {m m' : Config} (w : List (String × String))
    (hm : unmarshalStringMap toolsConfig = some m)
    (hm' : ∀ key, (Kept toolsConfig key → m'.get key = some "") ∧
      (¬ Kept toolsConfig key → m'.get key = none)) :
    (∀ key, lastEntry key w = none → m.get key = m'.get key) ↔
      ∀ entries, toolsConfig = .obj entries → ∀ e ∈ entries,
        e.1 ∈ w.map Prod.fst ∨ Kept toolsConfig e.1 := by
  by_cases ho : ∃ entries, toolsConfig = .obj entries
  · obtain ⟨entries, rfl⟩ := ho
    have hg := get_unmarshalStringMap hm
    constructor
    · rintro h n' heq e he
      cases heq
      by_contra hl
      rw [not_or] at hl
      have hn := h e.1 (lastEntry_eq_none hl.1)
      rw [(hm' e.1).2 hl.2, hg, map_eq_none_iff, lastEntry_eq_none_iff] at hn
      exact hn (List.mem_map_of_mem he)
    · grind [lastEntry_of_kept, map_eq_none_iff, lastEntry_eq_none_iff]
  · have hne : ∀ entries, toolsConfig ≠ .obj entries := fun entries heq => ho ⟨entries, heq⟩
    have hem : m = .empty := by
      cases toolsConfig with
      | null => cases hm
      | obj entries => exact absurd rfl (hne entries)
      | _ => exact (some.inj hm).symm
    constructor
    · grind
    rintro - key -
    rw [hem, (hm' key).2 (not_kept_of_ne_obj hne key), get_empty]

/-! ## 4. The other settings -/

theorem keys_reencodeEntries (n : List (String × Json)) :
    (reencodeEntries n).map Prod.fst = n.map Prod.fst := by
  induction n with
  | nil => rfl
  | cons e r ih => simp [reencodeEntries, ih]

/-- An object that is not empty, and whose numbers are printed by
`json.Marshal` as they are. -/
def PortableOutput (doc : Json) : Prop :=
  ∃ entries, entries ≠ [] ∧ doc = .obj entries ∧ (entries.map Prod.fst).Nodup ∧
    doc.inRange = true ∧ doc.reencode = doc

theorem output_iff (outputConfig : Option Json) :
    ((exportOutput outputConfig).map fun m => obj (reencodeEntries m.rows)) = outputConfig
      ↔ ∀ doc, outputConfig = some doc → PortableOutput doc := by
  cases outputConfig with
  | none => simp [exportOutput]
  | some doc =>
    have hd : (∀ d', some doc = some d' → PortableOutput d') ↔ PortableOutput doc :=
      ⟨fun h => h doc rfl, fun h _ heq => some.inj heq ▸ h⟩
    rw [hd]
    match doc with
    | .obj [] => simp [exportOutput, PortableOutput]
    | .obj (e :: rest) =>
      cases hr : (obj (e :: rest)).inRange with
      | false => simp [exportOutput, unmarshalMap, PortableOutput, hr]
      | true =>
        have he : exportOutput (some (.obj (e :: rest)))
            = some (empty.putAll (e :: rest)) := by
          simp [exportOutput, unmarshalMap, hr]
        rw [he, map_some, some_inj, obj.injEq]
        constructor
        · intro h
          -- a map has no key twice, so neither has the document
          have hn : ((e :: rest).map Prod.fst).Nodup := by
            rw [← h, keys_reencodeEntries]
            exact (empty.putAll (e :: rest)).primaryKey
          rw [rows_putAll_empty hn] at h
          exact ⟨e :: rest, List.cons_ne_nil _ _, rfl, hn, hr, by rw [reencode, h]⟩
        rintro ⟨n, -, heq, hn, -, hs⟩
        cases heq
        rw [rows_putAll_empty hn]
        exact obj.inj hs
    | .null | .bool _ | .int _ | .real _ | .str _ | .arr _ =>
      simp [exportOutput, unmarshalMap, PortableOutput]

theorem setting_iff (setting : Option Json) :
    (exportSetting setting).bind importSetting = setting ↔ setting ≠ some .null := by
  cases setting with
  | none => simp [exportSetting]
  | some doc => cases doc <;> simp [exportSetting, importSetting]

/-! ## 5. The round trip -/

/-- The two agents deploy alike, and have the same routing, schedule,
trigger and output. -/
structure SameSettings {Id : Type} (id id' : Id) (agent imported : AgentDocs) : Prop where
  config : DeployAlike (agent.deployed id) (imported.deployed id')
  routing : imported.routing = agent.routing
  schedule : imported.schedule = agent.schedule
  trigger : imported.trigger = agent.trigger
  outputConfig : imported.outputConfig = agent.outputConfig

/-- The guardrails that deployment takes are those under their exact names,
without a timeout in seconds and a bound on turns. -/
structure PortableGuardrails (o : IntOverflow) (guardrails : Json) : Prop where
  hitl : (deployedGuardrails guardrails).hitl = namedBool guardrails "hitl"
  readOnly : (deployedGuardrails guardrails).readOnly = namedBool guardrails "read_only"
  timeout : (deployedGuardrails guardrails).minutes?
    = positive (namedInt o guardrails "timeout_minutes")
  maxToolCalls : positive (deployedGuardrails guardrails).maxToolCalls
    = positive (namedInt o guardrails "max_tool_calls")
  maxTurns : (deployedGuardrails guardrails).maxTurns ≤ 0

/-- The tool lists that deployment takes are those under their exact names,
and there is no other entry that deployment does not write over. -/
structure PortableTools (agent : AgentDocs) : Prop where
  notNull : agent.toolsConfig ≠ .null
  allow : toolList (deployedTools agent.toolsConfig).allow.elems
    = toolList (namedTools agent.toolsConfig "allow")
  deny : toolList (deployedTools agent.toolsConfig).deny.elems
    = toolList (namedTools agent.toolsConfig "deny")
  entries : ∀ entries, agent.toolsConfig = .obj entries → ∀ e ∈ entries,
    e.1 ∈ (agentEntries (agent.deployed ())).map Prod.fst ∨ Kept agent.toolsConfig e.1

structure Portable (o : IntOverflow) (agent : AgentDocs) : Prop where
  guardrails : PortableGuardrails o (agent.guardrails.getD (.obj []))
  tools : PortableTools agent
  routing : agent.routing = none
  schedule : agent.schedule ≠ some .null
  trigger : agent.trigger ≠ some .null
  outputConfig : ∀ doc, agent.outputConfig = some doc → PortableOutput doc

theorem positive_eq_none_iff {n : Int} : positive n = positive 0 ↔ n ≤ 0 := by
  unfold positive
  by_cases h : 0 < n
  · simp [h]
  simp [h]
  omega

theorem minutes?_named (guardrails : Json) :
    (namedGuardrails o guardrails).minutes?
      = positive (namedInt o guardrails "timeout_minutes") := by
  unfold minutes? timeoutSeconds deployedMinutes positive
  by_cases h : 0 < namedInt o guardrails "timeout_minutes" <;>
    simp [namedGuardrails, h]

theorem portableGuardrails_iff (g : Option Json) :
    (∀ k, lastEntry k (guardrailEntries (g.getD (.obj [])))
        = lastEntry k (guardrailEntries
          (((exportGuardrails o g).map importGuardrails).getD (.obj []))))
      ↔ PortableGuardrails o (g.getD (.obj [])) := by
  rw [guardrailEntries_imported, guardrailEntries_eq, restrictionEntries_iff, minutes?_named]
  constructor
  · rintro ⟨hh, hr, ht, hc, htu⟩
    exact ⟨hh, hr, ht, hc, positive_eq_none_iff.mp htu⟩
  intro h
  exact ⟨h.hitl, h.readOnly, h.timeout, h.maxToolCalls, positive_eq_none_iff.mpr h.maxTurns⟩

theorem deployAlike_imported_iff {Id : Type} (agent : AgentDocs) (id id' : Id) :
    DeployAlike (agent.deployed id) ((convertYAMLToAgent (convertAgentToYAML o agent)).deployed id')
      ↔ PortableGuardrails o (agent.guardrails.getD (.obj [])) ∧ PortableTools agent := by
  obtain ⟨m', hm', hge⟩ := unmarshalStringMap_imported agent.toolsConfig
  obtain ⟨ha, hd⟩ := deployedTools_imported agent.toolsConfig
  have hra : rawConfig ((convertYAMLToAgent (convertAgentToYAML o agent)).deployed id') = some m' :=
    hm'
  have hi : identityEntries (agent.deployed id)
      = identityEntries ((convertYAMLToAgent (convertAgentToYAML o agent)).deployed id') := rfl
  have ht := toolEntries_iff agent.toolsConfig (importTools (exportTools agent.toolsConfig))
  rw [ha, hd] at ht
  rw [deployAlike_iff hra]
  constructor
  · rintro ⟨m, hm, he, hr⟩
    obtain ⟨hg, hl⟩ := (lastEntry_agentEntries_iff hi).mp he
    obtain ⟨hs, hsd⟩ := ht.mp hl
    refine ⟨(portableGuardrails_iff o agent.guardrails).mp hg, ?_, hs, hsd,
      (rawConfig_iff _ hm hge).mp hr⟩
    intro hn
    rw [rawConfig, AgentDocs.deployed, hn] at hm
    cases hm
  rintro ⟨hg, hp⟩
  have hm : ∃ m, unmarshalStringMap agent.toolsConfig = some m := by
    cases hty : agent.toolsConfig with
    | null => exact absurd hty hp.notNull
    | _ => exact ⟨_, rfl⟩
  obtain ⟨m, hm⟩ := hm
  refine ⟨m, hm, (lastEntry_agentEntries_iff hi).mpr ⟨?_, ?_⟩, ?_⟩
  · exact (portableGuardrails_iff o agent.guardrails).mpr hg
  · exact ht.mpr ⟨hp.allow, hp.deny⟩
  · exact (rawConfig_iff _ hm hge).mpr hp.entries

/-- **Export and import of an agent.** The imported agent deploys like the
stored one for every request, and has its routing, schedule, trigger and
output, just when the stored one is portable. -/
theorem roundTrip_iff {Id : Type} (o : IntOverflow) (agent : AgentDocs) (id id' : Id) :
    SameSettings id id' agent (convertYAMLToAgent (convertAgentToYAML o agent))
      ↔ Portable o agent := by
  constructor
  · intro h
    obtain ⟨hg, ht⟩ := (deployAlike_imported_iff o agent id id').mp h.config
    exact
      { guardrails := hg
        tools := ht
        routing := h.routing.symm
        schedule := (setting_iff agent.schedule).mp h.schedule
        trigger := (setting_iff agent.trigger).mp h.trigger
        outputConfig := (output_iff agent.outputConfig).mp h.outputConfig }
  · intro h
    exact
      { config := (deployAlike_imported_iff o agent id id').mpr ⟨h.guardrails, h.tools⟩
        routing := h.routing.symm
        schedule := (setting_iff agent.schedule).mpr h.schedule
        trigger := (setting_iff agent.trigger).mpr h.trigger
        outputConfig := (output_iff agent.outputConfig).mpr h.outputConfig }

/-! ## 6. A seeded agent -/

def logAnalyzer (timeout : String × Json) : AgentDocs :=
  { name := "log-analyzer", displayName := "Log Analyzer", description := none
    version := "1.0.0", type := "specialist", category := "operations", icon := none
    provider := "minimax", model := "MiniMax-M2.5"
    systemPrompt := "You are a Log Analyzer agent for the DAAO platform."
    toolsConfig := .obj [("allow", .arr [.str "read", .str "ls", .str "grep"])]
    guardrails := some (.obj [timeout, ("read_only", .bool true), ("max_tool_calls", .int 50)])
    schedule := none, trigger := none, outputConfig := none, routing := none
    isBuiltin := true, isEnterprise := false }

def amd64 : IntOverflow where
  convert _ := -2 ^ 63
  inInt64 _ := by decide

/-- The timeout of the migration is in seconds, and is gone after a round
trip. -/
theorem seeded_timeout_lost :
    (deployConfig ((logAnalyzer ("timeout", .int 300)).deployed 1) .empty).map
        (fun config => config.get "guardrails.timeout_minutes") = some (some "5") ∧
      (deployConfig ((convertYAMLToAgent
          (convertAgentToYAML amd64 (logAnalyzer ("timeout", .int 300)))).deployed 2) .empty).map
        (fun config => config.get "guardrails.timeout_minutes") = some none ∧
      ¬ SameSettings 1 2 (logAnalyzer ("timeout", .int 300))
        (convertYAMLToAgent (convertAgentToYAML amd64 (logAnalyzer ("timeout", .int 300)))) := by
  refine ⟨by decide, by decide +kernel, ?_⟩
  intro h
  have hc := congrArg (Option.map fun get => get "guardrails.timeout_minutes") (h.config .empty)
  exact absurd hc (by decide +kernel)

end Daao.Api

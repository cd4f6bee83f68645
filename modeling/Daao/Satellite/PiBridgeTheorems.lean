/-
Daao.Satellite.PiBridgeTheorems — which restrictions of a configuration
change the launch.

Nothing reads `tools.deny` and `max_turns`; the latter shows only in the
`--extension` argument, if it is the only guardrail and the extension is
installed. `timeout_minutes` shows in the timer, unless the two differ by a
multiple of 2^53 minutes: the product with 60·10⁹ = 2^11·29296875
nanoseconds is taken modulo 2^64. The other four always show.
-/
import Daao.Api.AgentConfigTheorems
import Daao.Satellite.PiBridge
import Mathlib.RingTheory.Coprime.Lemmas

namespace Daao.Satellite

open Daao.Lib Daao.Api List GoTime

/-! ## 1. Restrictions -/

inductive Restriction where
  | toolsAllow
  | toolsDeny
  | readOnly
  | hitl
  | maxToolCalls
  | maxTurns
  | timeoutMinutes

def Restriction.key : Restriction → String
  | .toolsAllow => "tools.allow"
  | .toolsDeny => "tools.deny"
  | .readOnly => "guardrails.read_only"
  | .hitl => "guardrails.hitl"
  | .maxToolCalls => "guardrails.max_tool_calls"
  | .maxTurns => "guardrails.max_turns"
  | .timeoutMinutes => "guardrails.timeout_minutes"

/-- What a restriction says: the tools of a list, that something is on, or
a bound. -/
inductive EffectiveValue where
  | tools (list : String)
  | on
  | atMost (n : Int)
  deriving DecidableEq

/-- The effective value, `none` if the restriction is off. An empty list, a
flag that is not `true` and a number that is not positive are off. -/
def Restriction.effective (r : Restriction) (config : Config) : Option EffectiveValue :=
  match r with
  | .toolsAllow | .toolsDeny =>
    ((config.get r.key).filter fun list => list ≠ "").map .tools
  | .readOnly | .hitl => if config.get r.key = some "true" then some .on else none
  | .maxToolCalls | .maxTurns | .timeoutMinutes => (bound config r.key).map .atMost

/-- The configurations agree on everything but the restriction. -/
def AgreeBut (r : Restriction) (c c' : Config) : Prop := ∀ key, key ≠ r.key → c.get key = c'.get key

variable {c c' : Config} {r : Restriction}

theorem agreeBut_of_rows
    (h : (c.rows.filter fun e => e.1 ≠ r.key) = c'.rows.filter fun e => e.1 ≠ r.key) :
    AgreeBut r c c' := by
  intro key hk
  have hf : ∀ c : Config, Table.find? c key
      = (c.rows.filter fun e => e.1 ≠ r.key).find? fun e => e.1 = key := by
    intro c
    have hr := c.find?_restrict_ne r.key key
    rw [if_neg hk] at hr
    exact hr.symm
  rw [GoMap.get, GoMap.get, hf c, hf c', h]

/-! ## 2. The groups of arguments -/

theorem hasGuardrailsConfig_iff (c : Config) :
    hasGuardrailsConfig c = true
      ↔ ∃ k, startsWith k "guardrails." = true ∧ (c.get k).isSome = true := by
  simp only [hasGuardrailsConfig, any_eq_true, GoMap.get, Option.isSome_map,
    Table.isSome_find?_iff, mem_map]
  constructor
  · grind
  · grind

theorem hasGuardrailsConfig_congr (h : AgreeBut r c c')
    (hk : startsWith r.key "guardrails." = false) :
    hasGuardrailsConfig c = hasGuardrailsConfig c' := by
  have hne : ∀ key, startsWith key "guardrails." = true → key ≠ r.key := by grind
  rw [Bool.eq_iff_iff, hasGuardrailsConfig_iff, hasGuardrailsConfig_iff]
  exact exists_congr fun key => and_congr_right fun hg => by
    rw [h key (hne key hg)]

theorem hasGuardrailsConfig_of_get {k v : String}
    (hk : startsWith k "guardrails." = true) (h : c.get k = some v) :
    hasGuardrailsConfig c = true :=
  (hasGuardrailsConfig_iff c).mpr ⟨k, hk, by rw [h]; rfl⟩

/-- Whether there is any guardrail shows in the arguments. -/
def ExtensionShows (host : PiHost) (c c' : Config) : Prop :=
  host.hasExtension = true ∧ hasGuardrailsConfig c ≠ hasGuardrailsConfig c'

theorem extensionArgs_eq_iff (host : PiHost) (c c' : Config) :
    extensionArgs host c = extensionArgs host c' ↔ ¬ ExtensionShows host c c' := by
  grind [extensionArgs, ExtensionShows]

theorem length_extensionArgs (host : PiHost) (c : Config) :
    (extensionArgs host c).length
      = if hasGuardrailsConfig c = true ∧ host.hasExtension = true then 2 else 0 := by
  unfold extensionArgs
  cases hasGuardrailsConfig c <;> cases host.hasExtension <;> rfl

theorem length_flagArgs (f : String) (v : Option String) :
    (flagArgs f v).length = if v = some "true" then 1 else 0 := by
  unfold flagArgs
  split <;> rfl

theorem valueArgs_eq_iff (f : String) (v v' : Option String) :
    valueArgs f v = valueArgs f v'
      ↔ (v.filter fun s => s ≠ "") = v'.filter fun s => s ≠ "" := by
  cases v <;> cases v' <;> simp only [valueArgs, Option.filter] <;> grind

theorem bound_eq_some_iff {k : String} {n : Int} :
    bound c k = some n ↔ ∃ t, c.get k = some t ∧ atoi t = some n ∧ 0 < n := by
  simp only [bound, Option.filter_eq_some_iff, Option.bind_eq_some_iff, decide_eq_true_eq]
  constructor
  · grind
  · grind

theorem maxToolCallsArgs_of_bound {n : Int} (h : bound c "guardrails.max_tool_calls" = some n) :
    ∃ t, c.get "guardrails.max_tool_calls" = some t ∧ atoi t = some n
      ∧ maxToolCallsArgs (c.get "guardrails.max_tool_calls") = ["--max-tool-calls", t] := by
  obtain ⟨t, ht, ha, hp⟩ := bound_eq_some_iff.mp h
  have hne : t ≠ "" := by
    intro he
    rw [he] at ha
    cases ha
  exact ⟨t, ht, ha, by simp [maxToolCallsArgs, ht, hne, ha, hp]⟩

theorem maxToolCallsArgs_of_none (h : bound c "guardrails.max_tool_calls" = none) :
    maxToolCallsArgs (c.get "guardrails.max_tool_calls") = [] := by
  unfold maxToolCallsArgs
  cases ht : c.get "guardrails.max_tool_calls" with
  | none => rfl
  | some t => grind [bound_eq_some_iff, not_lt]

theorem timeoutTimer_eq (c : Config) :
    timeoutTimer c = (bound c "guardrails.timeout_minutes").map minutesDuration := by
  unfold timeoutTimer bound
  cases c.get "guardrails.timeout_minutes" with
  | none => rfl
  | some t => grind

theorem minutesDuration_eq_iff (n n' : Int) :
    minutesDuration n = minutesDuration n' ↔ (2 ^ 53 : Int) ∣ n - n' := by
  have hw : minutesDuration n = minutesDuration n'
      ↔ (2 ^ 64 : Int) ∣ (n * 60000000000 + 2 ^ 63) - (n' * 60000000000 + 2 ^ 63) := by
    rw [minutesDuration, minutesDuration, wrapInt64, wrapInt64, sub_left_inj,
      Int.emod_eq_emod_iff_emod_sub_eq_zero, Int.dvd_iff_emod_eq_zero]
  have hf : (n * 60000000000 + 2 ^ 63) - (n' * 60000000000 + 2 ^ 63)
      = 2 ^ 11 * ((n - n') * 29296875) := by ring
  have hc : IsCoprime (2 ^ 53 : Int) 29296875 := by
    decide
  rw [hw, hf, show (2 ^ 64 : Int) = 2 ^ 11 * 2 ^ 53 by norm_num, mul_dvd_mul_iff_left (by norm_num)]
  exact ⟨hc.dvd_of_dvd_mul_right, fun h => Dvd.dvd.mul_right h _⟩

/-! ## 3. What shows -/

/-- The timers differ, unless both are armed and their minutes differ by a
multiple of 2^53. -/
def TimerShows (c c' : Config) : Prop :=
  ¬ ∃ n n', bound c "guardrails.timeout_minutes" = some n
    ∧ bound c' "guardrails.timeout_minutes" = some n' ∧ (2 ^ 53 : Int) ∣ n - n'

/-- A difference in the effective value of the restriction shows in the
launch. -/
def Shows (host : PiHost) (c c' : Config) : Restriction → Prop
  | .toolsAllow | .readOnly | .hitl | .maxToolCalls => True
  | .toolsDeny => False
  | .maxTurns => ExtensionShows host c c'
  | .timeoutMinutes => ExtensionShows host c c' ∨ TimerShows c c'

theorem start_eq_iff (host : PiHost) (s : List (String × String)) (c c' : Config) :
    start host c s = start host c' s
      ↔ buildPiArgs host c = buildPiArgs host c' ∧ timeoutTimer c = timeoutTimer c' := by
  simp [start]

theorem timeoutTimer_congr (h : AgreeBut r c c') (hr : "guardrails.timeout_minutes" ≠ r.key) :
    timeoutTimer c = timeoutTimer c' := by
  rw [timeoutTimer, h _ hr, timeoutTimer]

section

variable {host : PiHost} {c c' : Config}

def restrictionArgs (host : PiHost) (config : Config) : List String :=
  valueArgs "--tools" (config.get "tools.allow")
    ++ (extensionArgs host config
    ++ (flagArgs "--read-only" (config.get "guardrails.read_only")
    ++ (maxToolCallsArgs (config.get "guardrails.max_tool_calls")
    ++ flagArgs "--guardrails" (config.get "guardrails.hitl"))))

variable {r : Restriction}

theorem args_eq_iff (h : AgreeBut r c c') :
    buildPiArgs host c = buildPiArgs host c' ↔
      restrictionArgs host c = restrictionArgs host c' := by
  have hk : ∀ key ∈ ["provider", "model", "system_prompt"], key ≠ r.key := by
    cases r <;> decide
  have hf : ∀ n, buildPiArgs host n
      = ["--mode", "rpc", "--no-session", "--no-skills", "--no-prompt-templates"]
        ++ (valueArgs "--provider" (n.get "provider")
        ++ (valueArgs "--model" (n.get "model")
        ++ (restrictionArgs host n
        ++ systemPromptArgs host (n.get "system_prompt")))) := by
    intro n
    simp [buildPiArgs, restrictionArgs]
  rw [hf, hf, h "provider" (hk _ (by decide)), h "model" (hk _ (by decide)),
    h "system_prompt" (hk _ (by decide))]
  simp

theorem length_restrictionArgs (host : PiHost) (n : Config) :
    (restrictionArgs host n).length
      = (valueArgs "--tools" (n.get "tools.allow")).length
        + (if hasGuardrailsConfig n = true ∧ host.hasExtension = true then 2 else 0)
        + (if n.get "guardrails.read_only" = some "true" then 1 else 0)
        + (maxToolCallsArgs (n.get "guardrails.max_tool_calls")).length
        + (if n.get "guardrails.hitl" = some "true" then 1 else 0) := by
  simp only [restrictionArgs, length_append, length_extensionArgs, length_flagArgs]
  omega

open Restriction

theorem args_toolsAllow (h : AgreeBut .toolsAllow c c')
    (hne : toolsAllow.effective c ≠ toolsAllow.effective c') :
    buildPiArgs host c ≠ buildPiArgs host c' := by
  have hg := hasGuardrailsConfig_congr h (by decide)
  rw [ne_eq, args_eq_iff h]
  intro heq
  rw [restrictionArgs, restrictionArgs, extensionArgs, extensionArgs, hg,
    h "guardrails.read_only" (by decide), h "guardrails.max_tool_calls" (by decide),
    h "guardrails.hitl" (by decide), append_cancel_right_eq, valueArgs_eq_iff] at heq
  exact hne (congrArg (Option.map EffectiveValue.tools) heq)

theorem args_toolsDeny (h : AgreeBut .toolsDeny c c') :
    buildPiArgs host c = buildPiArgs host c' := by
  have hg := hasGuardrailsConfig_congr h (by decide)
  rw [args_eq_iff h, restrictionArgs, restrictionArgs, extensionArgs, extensionArgs, hg,
    h "tools.allow" (by decide), h "guardrails.read_only" (by decide),
    h "guardrails.max_tool_calls" (by decide), h "guardrails.hitl" (by decide)]

theorem args_eq_iff_extension (h : AgreeBut r c c') (hr : r = .maxTurns ∨ r = .timeoutMinutes) :
    buildPiArgs host c = buildPiArgs host c' ↔ ¬ ExtensionShows host c c' := by
  have hk : ∀ key ∈ ["tools.allow", "guardrails.read_only", "guardrails.max_tool_calls",
      "guardrails.hitl"], key ≠ r.key := by
    rcases hr with rfl | rfl <;> decide
  rw [← extensionArgs_eq_iff, args_eq_iff h, restrictionArgs, restrictionArgs,
    h "tools.allow" (hk _ (by decide)), h "guardrails.read_only" (hk _ (by decide)),
    h "guardrails.max_tool_calls" (hk _ (by decide)), h "guardrails.hitl" (hk _ (by decide)),
    append_cancel_left_eq, append_cancel_right_eq]

theorem args_flag (h : AgreeBut r c c') (hr : r = .readOnly ∨ r = .hitl)
    (hne : r.effective c ≠ r.effective c') : buildPiArgs host c ≠ buildPiArgs host c' := by
  rw [ne_eq, args_eq_iff h]
  intro heq
  have hl := congrArg length heq
  rw [length_restrictionArgs, length_restrictionArgs] at hl
  rcases hr with rfl | rfl
  · rw [h "tools.allow" (by decide), h "guardrails.max_tool_calls" (by decide),
      h "guardrails.hitl" (by decide)] at hl
    simp only [effective, key] at hne
    grind
  rw [h "tools.allow" (by decide), h "guardrails.max_tool_calls" (by decide),
    h "guardrails.read_only" (by decide)] at hl
  simp only [effective, key] at hne
  grind

section

variable (h : AgreeBut .maxToolCalls c c')

include h

theorem args_maxToolCalls_of_none {n : Int} (hs : bound c "guardrails.max_tool_calls" = some n)
    (hn : bound c' "guardrails.max_tool_calls" = none) :
    buildPiArgs host c ≠ buildPiArgs host c' := by
  obtain ⟨t, ht, -, ha⟩ := maxToolCallsArgs_of_bound hs
  have hg : hasGuardrailsConfig c = true := hasGuardrailsConfig_of_get (by decide) ht
  rw [ne_eq, args_eq_iff h]
  intro heq
  have hl := congrArg length heq
  rw [length_restrictionArgs, length_restrictionArgs, h "tools.allow" (by decide),
    h "guardrails.read_only" (by decide), h "guardrails.hitl" (by decide), ha,
    maxToolCallsArgs_of_none hn, hg] at hl
  grind

theorem args_maxToolCalls_of_some {n n' : Int} (hb : bound c "guardrails.max_tool_calls" = some n)
    (hb' : bound c' "guardrails.max_tool_calls" = some n')
    (heq : buildPiArgs host c = buildPiArgs host c') : n = n' := by
  obtain ⟨t, ht, ha, har⟩ := maxToolCallsArgs_of_bound hb
  obtain ⟨text', ht', ha', har'⟩ := maxToolCallsArgs_of_bound hb'
  have hg : hasGuardrailsConfig c = hasGuardrailsConfig c' := by
    rw [hasGuardrailsConfig_of_get (by decide) ht, hasGuardrailsConfig_of_get (by decide) ht']
  rw [args_eq_iff h, restrictionArgs, restrictionArgs, extensionArgs, extensionArgs, hg,
    h "tools.allow" (by decide), h "guardrails.read_only" (by decide),
    h "guardrails.hitl" (by decide), har, har', append_cancel_left_eq,
    append_cancel_left_eq, append_cancel_left_eq, append_cancel_right_eq] at heq
  have hte : t = text' := by simpa using heq
  rw [hte, ha'] at ha
  exact (Option.some.inj ha).symm

theorem args_maxToolCalls (hne : maxToolCalls.effective c ≠ maxToolCalls.effective c') :
    buildPiArgs host c ≠ buildPiArgs host c' := by
  have hs : AgreeBut .maxToolCalls c' c := fun key hk => (h key hk).symm
  simp only [effective, key] at hne
  cases hb : bound c "guardrails.max_tool_calls" with
  | none =>
    cases hb' : bound c' "guardrails.max_tool_calls" with
    | none => exact absurd (by rw [hb, hb']) hne
    | some n' => exact (args_maxToolCalls_of_none hs hb' hb).symm
  | some n =>
    cases hb' : bound c' "guardrails.max_tool_calls" with
    | none => exact args_maxToolCalls_of_none h hb hb'
    | some n' => grind [args_maxToolCalls_of_some]

end

theorem timer_ne_iff (hne : timeoutMinutes.effective c ≠ timeoutMinutes.effective c') :
    timeoutTimer c ≠ timeoutTimer c' ↔ TimerShows c c' := by
  simp only [effective, key] at hne
  rw [timeoutTimer_eq, timeoutTimer_eq, TimerShows, not_iff_not]
  cases hb : bound c "guardrails.timeout_minutes" with
  | none => simp_all
  | some n =>
    cases hb' : bound c' "guardrails.timeout_minutes" with
    | none => simp
    | some n' => simp [minutesDuration_eq_iff]

end

/-- **Which restrictions show in the launch**, of two configurations that
agree on everything but one of them and differ in its effective value. -/
theorem start_ne_iff (host : PiHost) (secrets : List (String × String)) (r : Restriction)
    (c c' : Config) (hagree : AgreeBut r c c') (hne : r.effective c ≠ r.effective c') :
    start host c secrets ≠ start host c' secrets ↔ Shows host c c' r := by
  rw [ne_eq, start_eq_iff, not_and_or]
  cases r with
  | toolsAllow => exact iff_true_intro (.inl (args_toolsAllow hagree hne))
  | toolsDeny =>
    refine iff_false_intro (not_or.mpr ⟨not_not.mpr (args_toolsDeny hagree), not_not.mpr ?_⟩)
    exact timeoutTimer_congr hagree (by decide)
  | readOnly => exact iff_true_intro (.inl (args_flag hagree (.inl rfl) hne))
  | hitl => exact iff_true_intro (.inl (args_flag hagree (.inr rfl) hne))
  | maxToolCalls => exact iff_true_intro (.inl (args_maxToolCalls hagree hne))
  | maxTurns =>
    rw [args_eq_iff_extension hagree (.inl rfl), not_not,
      iff_true_intro (timeoutTimer_congr hagree (by decide))]
    simp [Shows]
  | timeoutMinutes =>
    rw [args_eq_iff_extension hagree (.inr rfl), not_not, ← ne_eq, timer_ne_iff hne]
    rfl

def plainHost : PiHost :=
  { expandSystemPrompt := id, guardrailsPath := "/opt/daao/extensions/daao-guardrails"
    hasExtension := true, environ := ["PATH=/usr/bin"], nodeBinDir := "/opt/daao/node/bin"
    contextDir := "/etc/daao/context", allowedWriteDirs := ["/etc/daao/context", "/tmp"]
    listSeparator := ":", toUpper := id }

/-- Two deployments, of which one is read-only. -/
theorem start_ne_readOnly :
    ∃ c c', deployConfig (agentWith (.obj [("read_only", .bool true)]) (.obj [])) .empty = some c
      ∧ deployConfig (agentWith (.obj []) (.obj [])) .empty = some c'
      ∧ start plainHost c [] ≠ start plainHost c' [] :=
  ⟨_, _, rfl, rfl, (start_ne_iff plainHost [] .readOnly _ _
    (agreeBut_of_rows (by decide)) (by decide)).mpr trivial⟩

/-- Two deployments of agents that deny different tools: on every host they
are launched the same way. -/
theorem denied_tools_ignored :
    ∃ c c',
      deployConfig (agentWith (.obj []) (.obj [("deny", .arr [.str "bash"])])) .empty = some c
      ∧ deployConfig (agentWith (.obj []) (.obj [("deny", .arr [.str "edit"])])) .empty = some c'
      ∧ AgreeBut .toolsDeny c c'
      ∧ Restriction.toolsDeny.effective c = some (.tools "bash")
      ∧ Restriction.toolsDeny.effective c' = some (.tools "edit")
      ∧ ∀ host secrets, start host c secrets = start host c' secrets := by
  have ha : ∀ {c c' : Config},
      deployConfig (agentWith (.obj []) (.obj [("deny", .arr [.str "bash"])])) .empty = some c →
      deployConfig (agentWith (.obj []) (.obj [("deny", .arr [.str "edit"])])) .empty = some c' →
      AgreeBut .toolsDeny c c' := by
    intro c c' hc hc'
    cases hc
    cases hc'
    exact agreeBut_of_rows (by decide)
  refine ⟨_, _, rfl, rfl, ha rfl rfl, by decide, by decide, ?_⟩
  intro host secrets
  rw [start_eq_iff]
  exact ⟨args_toolsDeny (ha rfl rfl), timeoutTimer_congr (ha rfl rfl) (by decide)⟩

end Daao.Satellite

/-
Daao.Satellite.PiArgs — the command line of Pi tells the settings
(`BuildPiArgs` in `internal/satellite/pi_bridge.go`).

The list is a sequence of groups of arguments. A group is empty, or it
starts with its flag and has a length of its own; the flags are distinct.
So the groups can be read off from the left, whatever the values are: a
value that looks like a flag stands where a value must stand.
-/
import Daao.Satellite.PiBridge

namespace Daao.Satellite

open Daao.Lib List

/-! ## 1. Groups of arguments -/

def IsGroup {α : Type} (spec : α × Nat) (group : List α) : Prop :=
  group = [] ∨ ∃ values, values.length = spec.2 ∧ group = spec.1 :: values

section

variable {α : Type} {specs : List (α × Nat)} {groups groups' : List (List α)}

theorem flag_mem_of_flatten (h : Forall₂ IsGroup specs groups) {f : α} {r : List α}
    (hf : groups.flatten = f :: r) : f ∈ specs.map Prod.fst := by
  induction h with
  | nil => cases hf
  | cons hg _ ih =>
    obtain rfl | ⟨v, -, rfl⟩ := hg
    · exact mem_cons_of_mem _ (ih hf)
    cases hf
    exact mem_cons_self

/-- Groups with distinct flags can be told apart in their concatenation. -/
theorem groups_eq_of_flatten (hn : (specs.map Prod.fst).Nodup)
    (h : Forall₂ IsGroup specs groups) (h' : Forall₂ IsGroup specs groups')
    (heq : groups.flatten = groups'.flatten) : groups = groups' := by
  induction h generalizing groups' with
  | nil =>
    cases h'
    rfl
  | cons hgr hg ih =>
    cases h' with | cons hgr' hg' =>
    obtain ⟨hf, hn⟩ := nodup_cons.mp hn
    simp only [flatten_cons] at heq
    obtain rfl | ⟨v, hl, rfl⟩ := hgr <;>
      obtain rfl | ⟨va', hl', rfl⟩ := hgr'
    · rw [ih hn hg' heq]
    · exact (hf (flag_mem_of_flatten hg heq)).elim
    · exact (hf (flag_mem_of_flatten hg' heq.symm)).elim
    obtain ⟨rfl, hr⟩ := append_inj (cons.inj heq).2 (hl.trans hl'.symm)
    rw [ih hn hg' hr]

end

/-! ## 2. Settings -/

/-- What of a configuration has an effect. A text that is absent or empty
is empty. -/
structure Settings where
  provider : String
  model : String
  toolsAllow : String
  /-- there is a guardrails key, and the extension is installed -/
  extension : Bool
  readOnly : Bool
  maxToolCalls : Option String
  hitl : Bool
  systemPrompt : Option String

def isPositive (text : String) : Bool :=
  match atoi text with
  | none => false
  | some n => n > 0

def settings (host : PiHost) (config : Config) : Settings where
  provider := (config.get "provider").getD ""
  model := (config.get "model").getD ""
  toolsAllow := (config.get "tools.allow").getD ""
  extension := hasGuardrailsConfig config && host.hasExtension
  readOnly := config.get "guardrails.read_only" = some "true"
  maxToolCalls := (config.get "guardrails.max_tool_calls").filter isPositive
  hitl := config.get "guardrails.hitl" = some "true"
  systemPrompt := ((config.get "system_prompt").filter (· ≠ "")).map host.expandSystemPrompt

def textGroup (flag text : String) : List String := if text = "" then [] else [flag, text]

def optionGroup (flag : String) (text : Option String) : List String :=
  text.elim [] fun text => [flag, text]

def switchGroup (on : Bool) (args : List String) : List String := if on then args else []

def argGroups (host : PiHost) (s : Settings) : List (List String) :=
  [textGroup "--provider" s.provider, textGroup "--model" s.model, textGroup "--tools" s.toolsAllow,
    switchGroup s.extension ["--extension", host.guardrailsPath],
    switchGroup s.readOnly ["--read-only"], optionGroup "--max-tool-calls" s.maxToolCalls,
    switchGroup s.hitl ["--guardrails"], optionGroup "--system-prompt" s.systemPrompt]

def argSpecs : List (String × Nat) :=
  [("--provider", 1), ("--model", 1), ("--tools", 1), ("--extension", 1), ("--read-only", 0),
    ("--max-tool-calls", 1), ("--guardrails", 0), ("--system-prompt", 1)]

theorem forall₂_argGroups (host : PiHost) (s : Settings) :
    Forall₂ IsGroup argSpecs (argGroups host s) := by
  have ht (flag text : String) : IsGroup (flag, 1) (textGroup flag text) := by
    by_cases h : text = "" <;> simp [IsGroup, textGroup, h]
  have ho (flag : String) (text : Option String) : IsGroup (flag, 1) (optionGroup flag text) := by
    cases text <;> simp [IsGroup, optionGroup]
  have hs (on : Bool) (flag : String) (rest : List String) :
      IsGroup (flag, rest.length) (switchGroup on (flag :: rest)) := by
    cases on <;> simp [IsGroup, switchGroup]
  simp only [argSpecs, argGroups, forall₂_cons, ht, ho, true_and]
  exact ⟨hs _ _ [_], hs _ _ [], hs _ _ [], .nil⟩

theorem argGroups_inj (host : PiHost) {s s' : Settings} (h : argGroups host s = argGroups host s') :
    s = s' := by
  have ht (flag t t' : String) : textGroup flag t = textGroup flag t' ↔ t = t' := by
    grind [textGroup]
  have ho (flag : String) (t t' : Option String) :
      optionGroup flag t = optionGroup flag t' ↔ t = t' := by
    cases t <;> cases t' <;> simp [optionGroup]
  have hs (on on' : Bool) (flag : String) (rest : List String) :
      switchGroup on (flag :: rest) = switchGroup on' (flag :: rest) ↔ on = on' := by
    cases on <;> cases on' <;> simp [switchGroup]
  cases s
  cases s'
  simp only [argGroups, cons.injEq, ht, ho, hs, and_true] at h
  rw [Settings.mk.injEq]
  exact h

theorem buildPiArgs_eq (host : PiHost) (c : Config) :
    buildPiArgs host c
      = ["--mode", "rpc", "--no-session", "--no-skills", "--no-prompt-templates"]
        ++ (argGroups host (settings host c)).flatten := by
  have hv (flag : String) (v : Option String) : valueArgs flag v = textGroup flag (v.getD "") := by
    grind [valueArgs, textGroup]
  have hf (flag : String) (v : Option String) :
      flagArgs flag v = switchGroup (v = some "true") [flag] := by
    simp [flagArgs, switchGroup]
  have hc (v : Option String) :
      maxToolCallsArgs v = optionGroup "--max-tool-calls" (v.filter isPositive) := by
    have he : isPositive "" = false := by decide
    cases v <;> grind [maxToolCallsArgs, optionGroup, isPositive, Option.filter]
  have hp (v : Option String) : systemPromptArgs host v
      = optionGroup "--system-prompt" ((v.filter (· ≠ "")).map host.expandSystemPrompt) := by
    cases v <;> grind [systemPromptArgs, optionGroup, Option.filter]
  simp only [buildPiArgs, argGroups, settings, hv, hf, hc, hp, flatten_cons,
    flatten_nil, append_nil, append_assoc]
  rfl

theorem settings_perm (host : PiHost) {c c' : Config} (h : c.rows.Perm c'.rows) :
    settings host c = settings host c' := by
  have hg (key : String) : c.get key = c'.get key := by
    refine congrArg (Option.map Prod.snd) (Option.ext fun r => ?_)
    have hm := h.mem_iff (a := r)
    constructor <;> intro hr <;> have hk := Table.key_of_find? hr <;>
      grind [Table.mem_of_find? hr, Table.find?_of_mem]
  have ha : hasGuardrailsConfig c = hasGuardrailsConfig c' := h.any_eq
  simp only [settings, hg, ha]

/-- **The arguments tell the settings, and nothing else.** Two
configurations give the same list exactly if they agree on the settings,
and the order in which the map is iterated does not show. -/
theorem buildPiArgs_eq_iff (host : PiHost) (c c' : Config) :
    (buildPiArgs host c = buildPiArgs host c' ↔ settings host c = settings host c') ∧
      (c.rows.Perm c'.rows → buildPiArgs host c = buildPiArgs host c') := by
  have hs : (argSpecs.map Prod.fst).Nodup := by decide
  have hi : buildPiArgs host c = buildPiArgs host c' ↔ settings host c = settings host c' := by
    rw [buildPiArgs_eq, buildPiArgs_eq, append_cancel_left_eq]
    constructor
    · intro h
      exact argGroups_inj host (groups_eq_of_flatten hs (forall₂_argGroups host _)
        (forall₂_argGroups host _) h)
    intro h
    rw [h]
  exact ⟨hi, fun hp => hi.mpr (settings_perm host hp)⟩

end Daao.Satellite

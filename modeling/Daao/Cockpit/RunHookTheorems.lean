/-
Daao.Cockpit.RunHookTheorems — what the state of a run is made of.

`applyAgentEvent` is split in two: what an event asks for, which depends on
the event only (`effect`), and what that does to the state
(`Effect.apply`). In the same way the hook is split into what decides which
events it takes (`Control`), and the effects of those (`follows_run`).

The state has parts, and a part is made by the events that touch it, so it
does not matter in which order the others come.
-/
import Daao.Cockpit.RunHook
import Daao.Api.RunStream
import Daao.Lib.JsonText

namespace Daao.Cockpit

open Daao.Lib Daao.Lib.Js List

/-! ## 1. What an event asks for -/

section

variable {ν : Type} (host : Host ν)

inductive Effect where
  | started (createdAt : String)
  | streaming (text : String)
  | message (text : Option String) (usage : Option TokenUsage)
  | toolStart (tc : ToolCall)
  | toolEnd (id : Value) (result : Option String) (endedAt : String) (duration : Value)
  | ended (status : LiveStatus) (result error : Option String) (endedAt : String)
  /-- `live_start` -/
  | loaded
  | nothing

def startedCall (event : AgentStreamEvent) (id name args : Value) : ToolCall :=
  { id := id, name := coalesce name (some (.str "unknown"))
    arguments := coalesce args (some (.obj [])), startedAt := event.createdAt
    result := none, endedAt := none, duration := none }

/-- What an event asks for; `none` if `applyAgentEvent` throws on it. -/
def effect (event : AgentStreamEvent) : Option Effect :=
  let p : Value := some event.payload
  match event.eventType with
  | .agentStart => some (.started event.createdAt)
  | .messageUpdate => do
    let msg ← get p "message"
    let delta ← get p "delta"
    if truthy host msg then
      (extractText host (getOptional msg "content")).map .streaming
    else some (.streaming ((asString delta).getD ""))
  | .messageEnd => do
    let msg ← get p "message"
    let usage := getOptional msg "usage"
    let tokenUsage : Option TokenUsage :=
      if truthy host usage then
        some { input := (asNumber (getOptional usage "input")).getD (.int 0)
               output := (asNumber (getOptional usage "output")).getD (.int 0) }
      else none
    if asString (getOptional msg "role") = some "assistant" then
      (extractText host (getOptional msg "content")).map fun text =>
        .message (if text ≠ "" then some text else none) tokenUsage
    else some (.message none tokenUsage)
  | .toolExecutionUpdate => do
    let toolCallId ← get p "toolCallId"
    let toolName ← get p "toolName"
    let args ← get p "args"
    if truthy host toolCallId then some (.toolStart (startedCall event toolCallId toolName args))
    else some .nothing
  | .toolExecutionStart => do
    let toolCallId ← get p "toolCallId"
    let toolName ← get p "toolName"
    let tool ← get p "tool"
    let args ← get p "args"
    let arguments ← get p "arguments"
    some (.toolStart (startedCall event (coalesce toolCallId (some (.str event.id)))
      (coalesce toolName tool) (coalesce args arguments)))
  | .toolExecutionEnd => do
    let toolCallId ← get p "toolCallId"
    let result ← get p "result"
    let duration ← get p "duration_ms"
    some (.toolEnd (coalesce toolCallId (some (.str event.id))) (coerce host result)
      event.createdAt duration)
  | .agentEnd => do
    let result ← get p "result"
    let error ← get p "error"
    some (.ended (if truthy host error then .failed else .completed) (coerce host result)
      (coerce host error) event.createdAt)
  | .other _ => some .nothing

theorem get_cases (v : Json) :
    (∀ n, get (some v) n = none)
      ∨ ∃ f : String → Value, ∀ n, get (some v) n = some (f n) := by
  cases v with
  | null => exact .inl fun _ => rfl
  | obj t => exact .inr ⟨fun n => lastEntry n t, fun _ => rfl⟩
  | _ => exact .inr ⟨fun _ => none, fun _ => rfl⟩

abbrev Run (ν : Type) := LiveRunState × List (Key ν)

variable [DecidableEq ν]

def endCall (id : Value) (result : Option String) (endedAt : String) (duration : Value)
    (tc : ToolCall) : ToolCall :=
  if sameValue host tc.id id && tc.endedAt.isNone then
    { tc with result := result, endedAt := some endedAt, duration := duration }
  else tc

def Effect.apply (r : Run ν) : Effect → Run ν
  | .started createdAt => ({ r.1 with startedAt := some createdAt }, r.2)
  | .streaming text => ({ r.1 with streamingText := text }, r.2)
  | .message text usage =>
    ({ r.1 with
      output := text.elim r.1.output fun text =>
        r.1.output ++ (if r.1.output ≠ "" then "\n\n" else "") ++ text
      streamingText := "", tokenUsage := usage.or r.1.tokenUsage }, r.2)
  | .toolStart tc =>
    if has host r.2 tc.id then r
    else ({ r.1 with toolCalls := r.1.toolCalls ++ [tc] }, set host r.2 tc.id)
  | .toolEnd id result endedAt duration =>
    ({ r.1 with toolCalls := r.1.toolCalls.map (endCall host id result endedAt duration) }, r.2)
  | .ended status result error endedAt =>
    ({ r.1 with
      status := status, result := result, error := error, streamingText := ""
      endedAt := some endedAt }, r.2)
  | .loaded => ({ r.1 with historyLoaded := true }, r.2)
  | .nothing => r

theorem applyAgentEvent_eq (run : LiveRunState) (event : AgentStreamEvent)
    (keys : List (Key ν)) :
    applyAgentEvent host run event keys
      = (effect host event).map (Effect.apply host (run, keys)) := by
  -- an event whose payload is null throws unless it does not look at it
  rcases get_cases event.payload with hn | ⟨f, hf⟩
  · cases ht : event.eventType <;> simp [applyAgentEvent, effect, ht, Effect.apply, hn]
  cases ht : event.eventType
  case agentStart | other a => simp [applyAgentEvent, effect, ht, Effect.apply]
  all_goals simp only [applyAgentEvent, effect, ht, hf, Option.bind_eq_bind, Option.bind_some]
  case messageUpdate =>
    split
    · cases extractText host (getOptional (f "message") "content") <;> rfl
    · rfl
  case messageEnd =>
    split
    · cases extractText host (getOptional (f "message") "content") with
      | none => rfl
      | some x => grind [Effect.apply]
    · grind [Effect.apply]
  case toolExecutionUpdate => grind [Effect.apply, startedCall]
  case toolExecutionStart => grind [Effect.apply, startedCall]
  all_goals rfl

end

/-! ## 2. The parts of a state -/

section

variable {ν : Type} (host : Host ν)

inductive Part where
  | output
  | streamingText
  | toolCalls
  | tokenUsage
  | outcome
  | startedAt
  deriving DecidableEq

def Effect.touches (q : Part) : Effect → Bool
  | .started _ => q = .startedAt
  | .streaming _ => q = .streamingText
  | .message text usage =>
    q = .streamingText || (q = .output && text.isSome) || (q = .tokenUsage && usage.isSome)
  | .toolStart _ | .toolEnd _ _ _ _ => q = .toolCalls
  | .ended _ _ _ _ => q = .outcome || q = .streamingText
  | .loaded | .nothing => false

def SamePart (q : Part) (s s' : LiveRunState) : Prop :=
  match q with
  | .output => s.output = s'.output
  | .streamingText => s.streamingText = s'.streamingText
  | .toolCalls => s.toolCalls = s'.toolCalls
  | .tokenUsage => s.tokenUsage = s'.tokenUsage
  | .outcome => s.status = s'.status ∧ s.result = s'.result ∧ s.error = s'.error
      ∧ s.endedAt = s'.endedAt
  | .startedAt => s.startedAt = s'.startedAt

def SameAt (q : Part) (r r' : Run ν) : Prop := SamePart q r.1 r'.1 ∧ (q = .toolCalls → r.2 = r'.2)

theorem SameAt.refl (q : Part) (r : Run ν) : SameAt q r r := by
  cases q <;> simp [SameAt, SamePart]

variable {q : Part}

theorem SameAt.trans {r₁ r₂ r₃ : Run ν} (h : SameAt q r₁ r₂) (h' : SameAt q r₂ r₃) :
    SameAt q r₁ r₃ := by
  cases q <;> simp_all [SameAt, SamePart]

variable {r r' : Run ν}

theorem SameAt.symm (h : SameAt q r r') : SameAt q r' r := by
  cases q <;> simp_all [SameAt, SamePart]

def Effect.startKey : Effect → Option (Key ν)
  | .toolStart tc => key host tc.id
  | _ => none

def startKeys (effs : List Effect) : List (Key ν) := effs.filterMap (Effect.startKey host)

variable {k : Key ν}

theorem mem_startKeys_cons {f : Effect} {effs : List Effect} :
    k ∈ startKeys host (f :: effs) ↔ f.startKey host = some k ∨ k ∈ startKeys host effs := by
  rw [startKeys, filterMap_cons]
  cases h : f.startKey host with
  | none => simp [startKeys]
  | some k' => simp [startKeys, eq_comm]

variable {p : List (Key ν)}

theorem mem_set {id : Value} : k ∈ set host p id ↔ k ∈ p ∨ key host id = some k := by
  unfold set
  split <;> rename_i hk
  · grind
  · simp [hk]

variable [DecidableEq ν]

theorem sameAt_apply (eff : Effect) (h : SameAt q r r') :
    SameAt q (eff.apply host r) (eff.apply host r') := by
  obtain ⟨s, p⟩ := r
  obtain ⟨s', p'⟩ := r'
  cases eff
  case toolStart tc =>
    simp only [Effect.apply]
    by_cases hq : q = .toolCalls
    · subst hq
      obtain rfl : p = p' := h.2 rfl
      split
      · exact h
      · exact ⟨congrArg (· ++ [tc]) h.1, fun _ => rfl⟩
    refine ⟨?_, fun hq' => absurd hq' hq⟩
    cases q
    case toolCalls => exact absurd rfl hq
    all_goals split <;> split <;> exact h.1
  all_goals cases q <;> simp_all [SameAt, SamePart, Effect.apply]

theorem sameAt_skip (r : Run ν) {eff : Effect} (h : eff.touches q = false) :
    SameAt q (eff.apply host r) r := by
  cases eff
  case toolStart tc =>
    simp only [Effect.apply]
    split
    · exact .refl q r
    · cases q <;> simp_all [SameAt, SamePart, Effect.touches]
  all_goals cases q <;> simp_all [SameAt, SamePart, Effect.apply, Effect.touches]

theorem sameAt_filter :
    ∀ (f : List Effect) {r r' : Run ν}, SameAt q r r' →
      SameAt q (f.foldl (Effect.apply host) r)
        ((f.filter (Effect.touches q)).foldl (Effect.apply host) r')
  | [], _, _, h => h
  | eff :: f, r, r', h => by
    rw [foldl_cons, filter_cons]
    split
    · exact sameAt_filter f (sameAt_apply host eff h)
    rename_i ht
    have hs := sameAt_skip host r (Bool.eq_false_iff.mpr ht)
    exact sameAt_filter f (hs.trans h)

theorem sameAt_of_filter_eq {effs f' : List Effect} (h : SameAt q r r')
    (hf : effs.filter (Effect.touches q) = f'.filter (Effect.touches q)) :
    SameAt q (effs.foldl (Effect.apply host) r) (f'.foldl (Effect.apply host) r') := by
  have hl := sameAt_filter host effs h
  rw [hf] at hl
  exact hl.trans (sameAt_filter host f' (.refl q r')).symm

theorem has_iff {id : Value} : has host p id = true ↔ ∃ k, key host id = some k ∧ k ∈ p := by
  unfold has
  split <;> rename_i hk <;> simp [hk]

theorem mem_pending_apply (eff : Effect) (r : Run ν) :
    k ∈ (eff.apply host r).2 ↔ k ∈ r.2 ∨ eff.startKey host = some k := by
  cases eff
  case toolStart tc =>
    simp only [Effect.apply, Effect.startKey]
    split
    · grind [has_iff, Option.some_inj]
    · exact mem_set host
  all_goals simp [Effect.apply, Effect.startKey]

theorem mem_pending_foldl :
    ∀ effs (r : Run ν),
      k ∈ (effs.foldl (Effect.apply host) r).2 ↔ k ∈ r.2 ∨ k ∈ startKeys host effs
  | [], r => by simp [startKeys]
  | eff :: effs, r => by
    rw [foldl_cons, mem_pending_foldl effs, mem_pending_apply, mem_startKeys_cons, or_assoc]

theorem apply_congr_pending (eff : Effect) (s : LiveRunState) {p' : List (Key ν)}
    (h : ∀ k, eff.startKey host = some k → (k ∈ p ↔ k ∈ p')) :
    (eff.apply host (s, p)).1 = (eff.apply host (s, p')).1 := by
  cases eff
  case toolStart tc =>
    have hh : has host p tc.id = has host p' tc.id := by
      rw [Bool.eq_iff_iff, has_iff, has_iff]
      exact exists_congr fun k => and_congr_right (h k)
    simp only [Effect.apply, hh]
    split <;> rfl
  all_goals rfl

theorem foldl_congr_pending :
    ∀ f {s : LiveRunState} {p p' : List (Key ν)},
      (∀ k ∈ startKeys host f, k ∈ p ↔ k ∈ p') →
      (f.foldl (Effect.apply host) (s, p)).1 = (f.foldl (Effect.apply host) (s, p')).1
  | [], _, _, _, _ => rfl
  | eff :: f, s, p, p', h => by
    have hh : ∀ k, eff.startKey host = some k → (k ∈ p ↔ k ∈ p') :=
      fun k hk => h k ((mem_startKeys_cons host).mpr (.inl hk))
    have ht : ∀ k ∈ startKeys host f,
        k ∈ (eff.apply host (s, p)).2 ↔ k ∈ (eff.apply host (s, p')).2 := by
      grind [mem_pending_apply, mem_startKeys_cons]
    have hf := foldl_congr_pending f (s := (eff.apply host (s, p)).1) ht
    rw [foldl_cons, foldl_cons]
    refine hf.trans ?_
    rw [apply_congr_pending host eff s hh]

end

/-! ## 3. What the hook takes -/

section

variable {ν : Type} (host : Host ν)

structure Control where
  listening : Bool
  seenSeqs : List Int
  crashed : Bool

def Control.takes (c : Control) : Act → Option AgentStreamEvent
  | .event e =>
    if c.listening = false ∨ (0 < e.sequence ∧ e.sequence ∈ c.seenSeqs) then none else some e
  | _ => none

/-- What happens on an act of the stream, and the effect it has on the
state. -/
def Control.next (c : Control) : Act → Control × List Effect
  | .event e =>
    if c.listening = false ∨ (0 < e.sequence ∧ e.sequence ∈ c.seenSeqs) then (c, [])
    else
      let seenSeqs := if 0 < e.sequence then e.sequence :: c.seenSeqs else c.seenSeqs
      match effect host e with
      | none => ({ listening := false, seenSeqs := seenSeqs, crashed := true }, [])
      | some eff =>
        ({ c with listening := e.eventType ≠ .agentEnd, seenSeqs := seenSeqs }, [eff])
  | .liveStart => (c, if c.listening then [.loaded] else [])
  | _ => (c, [])

def Control.updates (c : Control) : List Act → List Effect
  | [] => []
  | a :: acts => (c.next host a).2 ++ ((c.next host a).1).updates acts

def Control.after (c : Control) : List Act → Control
  | [] => c
  | a :: acts => ((c.next host a).1).after acts

def Control.taken (c : Control) : List Act → List AgentStreamEvent
  | [] => []
  | a :: acts => (c.takes a).toList ++ ((c.next host a).1).taken acts

def Control.opened : Control := { listening := true, seenSeqs := [], crashed := false }

variable {c : Control}

theorem next_of_takes_none {a : Act} (h : c.takes a = none) :
    (c.next host a).1 = c ∧ ((c.next host a).2 = [] ∨ (c.next host a).2 = [.loaded]) := by
  cases a
  case event e =>
    simp only [Control.takes] at h
    split at h <;> cases h
    rename_i hs
    rw [Control.next, if_pos hs]
    exact ⟨rfl, .inl rfl⟩
  case liveStart => cases hl : c.listening <;> simp [Control.next, hl]
  all_goals exact ⟨rfl, .inl rfl⟩

variable {e : AgentStreamEvent}

theorem next_skip (h : c.listening = false ∨ (0 < e.sequence ∧ e.sequence ∈ c.seenSeqs)) :
    c.next host (.event e) = (c, []) := by
  rw [Control.next, if_pos h]

theorem takes_event (hl : c.listening = true)
    (hs : ¬ (0 < e.sequence ∧ e.sequence ∈ c.seenSeqs)) : c.takes (.event e) = some e := by
  rw [Control.takes, if_neg]
  rw [hl, not_or]
  exact ⟨by simp, hs⟩

theorem next_of_takes {a : Act} (h : c.takes a = some e) :
    c.next host a
      = match effect host e with
        | none => ({ listening := false, crashed := true
                     seenSeqs := if 0 < e.sequence then e.sequence :: c.seenSeqs
                       else c.seenSeqs }, [])
        | some f => ({ c with
            listening := e.eventType ≠ .agentEnd
            seenSeqs := if 0 < e.sequence then e.sequence :: c.seenSeqs else c.seenSeqs },
              [f]) := by
  cases a <;> simp only [Control.takes] at h
  case event e' =>
    split at h <;> cases h
    rename_i ht
    rw [Control.next, if_neg ht]
  all_goals cases h

theorem next_closed (h : c.listening = false) (a : Act) : c.next host a = (c, []) := by
  cases a <;> simp [Control.next, h]

theorem closed_run (h : c.listening = false) :
    ∀ acts, c.after host acts = c ∧ c.taken host acts = []
  | [] => ⟨rfl, rfl⟩
  | a :: acts => by
    have ht : c.takes a = none := by cases a <;> simp [Control.takes, h]
    obtain ⟨ha, hta⟩ := closed_run h acts
    rw [Control.after, Control.taken, next_closed host h, ht]
    exact ⟨ha, hta⟩

theorem updates_filterMap {β : Type} {f : Effect → Option β} (hf : f .loaded = none) :
    ∀ acts (c : Control),
      (c.updates host acts).filterMap f = ((c.taken host acts).filterMap (effect host)).filterMap f
  | [], _ => rfl
  | a :: acts, c => by
    have hh : (c.next host a).2.filterMap f
        = ((c.takes a).toList.filterMap (effect host)).filterMap f := by
      cases ht : c.takes a with
      | none => rcases (next_of_takes_none host ht).2 with h | h <;> simp [h, hf]
      | some e => grind [next_of_takes]
    rw [Control.updates, Control.taken, filterMap_append, filterMap_append,
      filterMap_append, hh, updates_filterMap hf acts]

theorem crashed_after :
    ∀ acts (c : Control),
      (c.after host acts).crashed = true
        ↔ c.crashed = true ∨ ∃ e ∈ c.taken host acts, effect host e = none
  | [], c => by simp [Control.after, Control.taken]
  | a :: acts, c => by
    have hh : (c.next host a).1.crashed = true
        ↔ c.crashed = true ∨ ∃ e ∈ (c.takes a).toList, effect host e = none := by
      cases ht : c.takes a with
      | none => simp [(next_of_takes_none host ht).1]
      | some e => grind [next_of_takes]
    rw [Control.after, Control.taken, crashed_after acts, hh, or_assoc]
    simp only [mem_append, or_and_right, exists_or]

theorem seenSeqs_after {n : Int} :
    ∀ acts {c : Control}, n ∈ (c.after host acts).seenSeqs →
      n ∈ c.seenSeqs ∨ ∃ e ∈ c.taken host acts, e.sequence = n
  | [], _, h => .inl h
  | a :: acts, c, h => by
    have hh : n ∈ (c.next host a).1.seenSeqs →
        n ∈ c.seenSeqs ∨ ∃ e ∈ (c.takes a).toList, e.sequence = n := by
      cases ht : c.takes a with
      | none => simp [(next_of_takes_none host ht).1]
      | some e => grind [next_of_takes]
    rcases seenSeqs_after acts h with h | ⟨e, he, hs⟩
    · rcases hh h with h | ⟨e, he, hs⟩
      · exact .inl h
      · exact .inr ⟨e, mem_append_left _ he, hs⟩
    · exact .inr ⟨e, mem_append_right _ he, hs⟩

end

/-! ## 4. The hook and its control -/

section

variable {ν : Type} (host : Host ν)

def Hook.control (h : Hook ν) : Control :=
  { listening := h.listening, seenSeqs := h.seenSeqs, crashed := h.crashed }

def Act.stays (runId : Option String) : Act → Bool
  | .render runId' => runId' = runId
  | .effect => false
  | _ => true

def Hook.Ready (h : Hook ν) : Prop := h.listening = true → h.state.isSome

theorem mounted_ready : (mounted ν).Ready := by simp [Hook.Ready, mounted]

theorem runEffect_pendingToolCalls (h : Hook ν) :
    h.runEffect.pendingToolCalls = h.pendingToolCalls := by
  unfold Hook.runEffect
  dsimp only
  split <;> split <;> rfl

variable {h h' : Hook ν}

theorem runEffect_ready (hr : h.Ready) : h.runEffect.Ready := by
  unfold Hook.runEffect
  dsimp only
  split <;> split <;> simp_all [Hook.Ready]

theorem runEffect_opened (hr : isRun h.shown = true) (hc : h.crashed = false) :
    h.runEffect.control = .opened ∧ h.runEffect.state = some initialState
      ∧ h.runEffect.shown = h.shown := by
  cases hs : isRun h.subscribed <;>
    simp [Hook.runEffect, hs, hr, Hook.control, Control.opened, hc]

variable [DecidableEq ν]

/-- What the acts make of a hook whose state is `s`. -/
structure Follows (h : Hook ν) (s : LiveRunState) (c : Control) (effs : List Effect) (h' : Hook ν) :
    Prop where
  shown : h'.shown = h.shown
  control : h'.control = c
  state : h'.state = some ((effs.foldl (Effect.apply host) (s, h.pendingToolCalls)).1)
  pending : h'.pendingToolCalls = (effs.foldl (Effect.apply host) (s, h.pendingToolCalls)).2

variable {s : LiveRunState}

theorem update_eq (hs : h.state = some s) (e : AgentStreamEvent) :
    h.update host e
      = match effect host e with
        | none => { h with crashed := true, listening := false }
        | some f => { h with
            state := some (f.apply host (s, h.pendingToolCalls)).1
            pendingToolCalls := (f.apply host (s, h.pendingToolCalls)).2 } := by
  rw [Hook.update, hs]
  simp only [applyAgentEvent_eq]
  cases effect host e <;> rfl

theorem follows_event (hs : h.state = some s) (hl : h.listening = true) (e : AgentStreamEvent) :
    Follows host h s (h.control.next host (.event e)).1 (h.control.next host (.event e)).2
      (h.handleEvent host e) := by
  unfold Hook.handleEvent
  by_cases hse : 0 < e.sequence ∧ e.sequence ∈ h.seenSeqs
  · rw [if_pos hse, next_skip host (.inr hse)]
    exact ⟨rfl, rfl, hs, rfl⟩
  let marked : Hook ν :=
    { h with seenSeqs := if 0 < e.sequence then e.sequence :: h.seenSeqs else h.seenSeqs }
  have hm : (if 0 < e.sequence then { h with seenSeqs := e.sequence :: h.seenSeqs } else h)
      = marked := by
    simp only [marked]
    split <;> rfl
  have hu := update_eq host (h := marked) hs e
  rw [if_neg hse, next_of_takes host (takes_event (c := h.control) hl hse), hm]
  change Follows host h s _ _ (if e.eventType = .agentEnd then
    { marked.update host e with listening := false, connected := false } else marked.update host e)
  generalize marked.update host e = updated at hu ⊢
  cases he : effect host e <;> rw [he] at hu <;> subst hu <;>
    by_cases hen : e.eventType = .agentEnd
  · rw [if_pos hen]
    exact ⟨rfl, rfl, hs, rfl⟩
  · rw [if_neg hen]
    exact ⟨rfl, rfl, hs, rfl⟩
  · rw [if_pos hen]
    exact ⟨rfl, by simp [Hook.control, hen, marked], rfl, rfl⟩
  rw [if_neg hen]
  exact ⟨rfl, by simp [Hook.control, hen, hl, marked], rfl, rfl⟩

theorem follows_step {a : Act} (hs : h.state = some s)
    (ha : a.stays h.shown = true) (hst : step host h a = some h') :
    Follows host h s (h.control.next host a).1 (h.control.next host a).2 h' := by
  cases a <;> simp only [step] at hst
  case effect => cases ha
  case render runId =>
    split at hst <;> cases hst
    have hsa : runId = h.shown := by simpa [Act.stays] using ha
    exact ⟨hsa, rfl, hs, rfl⟩
  case connected | streamError =>
    cases hst
    split <;> exact ⟨rfl, rfl, hs, rfl⟩
  case liveStart =>
    cases hst
    cases hl : h.listening with
    | false =>
      have hn : h.control.next host .liveStart = (h.control, []) := by
        simp [Control.next, Hook.control, hl]
      rw [hn]
      exact ⟨rfl, rfl, hs, rfl⟩
    | true =>
      have hn : h.control.next host .liveStart = (h.control, [.loaded]) := by
        simp [Control.next, Hook.control, hl]
      rw [hn, if_pos rfl]
      exact ⟨rfl, by simp [Hook.control, hl], by rw [hs]; rfl, rfl⟩
  case event e =>
    cases hst
    cases hl : h.listening with
    | false =>
      rw [next_skip host (.inl hl), if_neg (by simp)]
      exact ⟨rfl, rfl, hs, rfl⟩
    | true =>
      exact follows_event host hs hl e

theorem follows_run {ri : Option String} :
    ∀ {acts : List Act} {h h' : Hook ν} {s : LiveRunState}, h.state = some s → h.shown = ri →
      (∀ a ∈ acts, a.stays ri = true) → run (step host) h acts = some h' →
      Follows host h s (h.control.after host acts) (h.control.updates host acts) h'
  | [], h, h', s, hs, _, _, hru => by
    cases hru
    exact ⟨rfl, rfl, hs, rfl⟩
  | a :: acts, h, h', s, hs, hsh, hac, hru => by
    obtain ⟨h₁, hst, hr⟩ := run_cons_eq_some.mp hru
    have ha : a.stays h.shown = true := by grind
    have hf := follows_step host hs ha hst
    have hr' := follows_run hf.state (hf.shown.trans hsh)
      (fun a ha => hac a (mem_cons_of_mem _ ha)) hr
    rw [hf.control] at hr'
    have hfo : ((h.control.updates host (a :: acts)).foldl (Effect.apply host)
          (s, h.pendingToolCalls))
        = (((h.control.next host a).1.updates host acts).foldl (Effect.apply host)
          (((h.control.next host a).2.foldl (Effect.apply host) (s, h.pendingToolCalls)).1,
            h₁.pendingToolCalls)) := by
      rw [Control.updates, foldl_append, hf.pending]
    refine ⟨hr'.shown.trans hf.shown, hr'.control, ?_, ?_⟩
    · rw [hfo]
      exact hr'.state
    rw [hfo]
    exact hr'.pending

theorem display_of_follows {c : Control} {f : List Effect} (hf : Follows host h s c f h') :
    h'.display = if c.crashed then none
      else some (f.foldl (Effect.apply host) (s, h.pendingToolCalls)).1 := by
  rw [Hook.display, hf.state, ← hf.control]
  rfl

def startedKeys (h : Hook ν) : List Act → List (Key ν)
  | [] => []
  | a :: acts =>
    startKeys host (h.control.next host a).2
      ++ (step host h a).elim [] fun h' => startedKeys h' acts

theorem mem_pending_step {a : Act} (hr : h.Ready) (hs : step host h a = some h') :
    h'.Ready ∧ ∀ k, k ∈ h'.pendingToolCalls
      ↔ k ∈ h.pendingToolCalls ∨ k ∈ startKeys host (h.control.next host a).2 := by
  cases a
  case render runId =>
    simp only [step] at hs
    split at hs <;> cases hs
    exact ⟨hr, by simp [startKeys, Control.next]⟩
  case effect => grind [step, startKeys, Control.next, runEffect_pendingToolCalls, runEffect_ready]
  -- what comes on the stream
  all_goals
    cases hst : h.state with
    | some s =>
      have hf := follows_step host hst rfl hs
      refine ⟨fun _ => by rw [hf.state]; rfl, fun k => ?_⟩
      rw [hf.pending, mem_pending_foldl]
    | none =>
      have hc : h.listening = false := by
        by_contra ho
        have hso := hr (by simpa using ho)
        rw [hst] at hso
        cases hso
      rw [next_closed host (c := h.control) hc]
      simp only [step, hc] at hs
      cases hs
      exact ⟨hr, by simp [startKeys]⟩

theorem mem_pending_run {k : Key ν} :
    ∀ {acts : List Act} {h h' : Hook ν}, h.Ready → run (step host) h acts = some h' →
      (k ∈ h'.pendingToolCalls ↔ k ∈ h.pendingToolCalls ∨ k ∈ startedKeys host h acts)
  | [], h, h', _, hru => by
    cases hru
    simp [startedKeys]
  | a :: acts, h, h', hr, hru => by
    obtain ⟨h₁, hs, hre⟩ := run_cons_eq_some.mp hru
    obtain ⟨hr₁, hp⟩ := mem_pending_step host hr hs
    rw [mem_pending_run hr₁ hre, hp, startedKeys, hs, mem_append, or_assoc]
    rfl

theorem follows_selected {b acts : List Act} {ri : Option String}
    (hri : isRun ri = true) (hb : run (step host) (mounted ν) b = some h)
    (ha : ∀ a ∈ acts, a.stays ri = true)
    (hru : run (step host) h (.render ri :: .effect :: acts) = some h') :
    ∃ opened, (∀ k, k ∈ opened.pendingToolCalls ↔ k ∈ startedKeys host (mounted ν) b)
      ∧ Follows host opened initialState (Control.opened.after host acts)
          (Control.opened.updates host acts) h' := by
  obtain ⟨h₁, hr, hre⟩ := run_cons_eq_some.mp hru
  obtain ⟨h₂, he, hre⟩ := run_cons_eq_some.mp hre
  simp only [step] at hr he
  split at hr <;> cases hr
  rename_i hca
  split at he <;> cases he
  obtain ⟨hc, hs, hsh⟩ := runEffect_opened (h := { h with shown := ri }) hri hca.1
  refine ⟨_, fun k => ?_, hc ▸ follows_run host hs hsh ha hre⟩
  rw [runEffect_pendingToolCalls, mem_pending_run host mounted_ready hb]
  simp [mounted]

end

/-! ## 5. What a run shows -/

section

variable {ν : Type} (host : Host ν) [DecidableEq ν]

def Shows (k : Key ν) (s : LiveRunState) : Prop := ∃ tc ∈ s.toolCalls, key host tc.id = some k

theorem endCall_id (id : Value) (res : Option String) (ea : String) (d : Value)
    (tc : ToolCall) : (endCall host id res ea d tc).id = tc.id := by
  unfold endCall
  split <;> rfl

theorem shows_apply {k : Key ν} (eff : Effect) (r : Run ν) :
    Shows host k (eff.apply host r).1
      ↔ Shows host k r.1 ∨ (k ∉ r.2 ∧ eff.startKey host = some k) := by
  cases eff
  case toolStart tc =>
    simp only [Effect.apply, Effect.startKey]
    split
    · rename_i hh
      obtain ⟨k', hk, hm⟩ := (has_iff host).mp hh
      have hn : ¬ (k ∉ r.2 ∧ key host tc.id = some k) := by grind
      rw [or_iff_left hn]
    rename_i hh
    have hne : key host tc.id = some k → k ∉ r.2 := fun hk hm => hh ((has_iff host).mpr ⟨k, hk, hm⟩)
    rw [and_iff_right_of_imp hne]
    simp [Shows, or_and_right, exists_or]
  case toolEnd id result endedAt duration =>
    simp [Effect.apply, Effect.startKey, Shows, endCall_id]
  all_goals simp [Effect.apply, Effect.startKey, Shows]

theorem shows_foldl {k : Key ν} :
    ∀ effs (r : Run ν),
      Shows host k (effs.foldl (Effect.apply host) r).1
        ↔ Shows host k r.1 ∨ (k ∉ r.2 ∧ k ∈ startKeys host effs)
  | [], r => by simp [startKeys]
  | eff :: effs, r => by
    rw [foldl_cons, shows_foldl effs, shows_apply, mem_pending_apply, mem_startKeys_cons]
    tauto

/-- What is displayed of a run, once its effect has run, is the same after
two histories exactly if the page is taken down, or each tool call that the
run starts had been started in both histories or in neither. -/
theorem display_eq_iff (before₁ before₂ acts : List Act) (runId : Option String)
    {h₁ h₂ h₁' h₂' : Hook ν} (hrunId : isRun runId = true)
    (hbefore₁ : run (step host) (mounted ν) before₁ = some h₁)
    (hbefore₂ : run (step host) (mounted ν) before₂ = some h₂)
    (hacts : ∀ a ∈ acts, a.stays runId = true)
    (hrun₁ : run (step host) h₁ (.render runId :: .effect :: acts) = some h₁')
    (hrun₂ : run (step host) h₂ (.render runId :: .effect :: acts) = some h₂') :
    h₁'.display = h₂'.display
      ↔ (Control.opened.after host acts).crashed = true
        ∨ ∀ k ∈ startKeys host (Control.opened.updates host acts),
            (k ∈ startedKeys host (mounted ν) before₁ ↔
              k ∈ startedKeys host (mounted ν) before₂) := by
  obtain ⟨o₁, hp₁, hf₁⟩ := follows_selected host hrunId hbefore₁ hacts hrun₁
  obtain ⟨o₂, hp₂, hf₂⟩ := follows_selected host hrunId hbefore₂ hacts hrun₂
  rw [display_of_follows host hf₁, display_of_follows host hf₂]
  cases (Control.opened.after host acts).crashed with
  | true => simp
  | false =>
    simp only [Bool.false_eq_true, if_false, false_or, Option.some_inj, ← hp₁, ← hp₂]
    constructor
    · -- a tool call that the run starts is shown if it was not pending
      intro hsa k hk
      have hs := shows_foldl host (k := k) (Control.opened.updates host acts)
      have h₁ := hs (initialState, o₁.pendingToolCalls)
      have h₂ := hs (initialState, o₂.pendingToolCalls)
      rw [hsa, h₂] at h₁
      simpa [Shows, initialState, hk, not_iff_not] using h₁.symm
    · exact foldl_congr_pending host _

def exactHost : Host Int :=
  { ofInt := id, ofReal := fun _ => 0, isZero := fun n => n = 0, stringify := fun _ => ""
    toText := fun _ => "" }

def startOf (toolCallId : String) : AgentStreamEvent :=
  { id := "e1", eventType := .toolExecutionStart, sequence := 1, createdAt := "10:00"
    payload := .obj [("toolCallId", .str toolCallId), ("toolName", .str "bash")] }

theorem display_eq_other_call :
    (∀ a ∈ [Act.liveStart, .event (startOf "call_2")], a.stays (some "B") = true)
    ∧ ∃ h₁ h₂ h₁' h₂' : Hook Int,
      run (step exactHost) (mounted Int) [.render (some "A"), .effect, .event (startOf "call_1")]
        = some h₁
      ∧ run (step exactHost) (mounted Int) [] = some h₂
      ∧ run (step exactHost) h₁
          [.render (some "B"), .effect, .liveStart, .event (startOf "call_2")] = some h₁'
      ∧ run (step exactHost) h₂
          [.render (some "B"), .effect, .liveStart, .event (startOf "call_2")] = some h₂'
      ∧ h₁'.display = h₂'.display := by
  refine ⟨by decide, _, _, _, _, rfl, rfl, rfl, rfl, ?_⟩
  refine (display_eq_iff exactHost [.render (some "A"), .effect, .event (startOf "call_1")] []
    [.liveStart, .event (startOf "call_2")] (some "B") rfl rfl rfl (by decide) rfl rfl).mpr
    (.inr ?_)
  decide

def shownCalls (acts : List Act) : Option (Option Nat) :=
  (run (step host) (mounted ν) acts).map fun h => h.display.map fun s => s.toolCalls.length

/-- Run `B` starts a tool call, and it is shown only if run `A` had not
started one with this id; run `A` itself loses it when it is shown again;
and until the effect of `B` has run, what there is to see is `A`'s. -/
theorem display_depends_on_history :
    let showB : List Act := [.render (some "B"), .effect]
    let showA : List Act := [.render (some "A"), .effect]
    let call : List Act := [.event (startOf "call_1")]
    shownCalls exactHost (showA ++ call ++ showB ++ call) = some (some 0)
    ∧ shownCalls exactHost (showA ++ showB ++ call) = some (some 1)
    ∧ shownCalls exactHost (showA ++ call ++ showB ++ showA ++ call) = some (some 0)
    ∧ shownCalls exactHost (showA ++ call ++ [.render (some "B")]) = some (some 1)
    ∧ shownCalls exactHost (showA ++ [.render (some "B")]) = some (some 0) := by
  decide

end

/-! ## 6. The order of the events -/

variable {ν : Type} (host : Host ν)

def Act.event? : Act → Option AgentStreamEvent
  | .event e => some e
  | _ => none

def eventsOf (acts : List Act) : List AgentStreamEvent := acts.filterMap Act.event?

def firsts (seen : List Int) : List AgentStreamEvent → List AgentStreamEvent
  | [] => []
  | e :: events =>
    if e.sequence ∈ seen then firsts seen events else e :: firsts (e.sequence :: seen) events

def inSequence (events : List AgentStreamEvent) : List AgentStreamEvent :=
  events.insertionSort fun e e' => e.sequence ≤ e'.sequence

def touching (q : Part) (e : AgentStreamEvent) : Bool := (effect host e).any (Effect.touches q)

def InOrder (q : Part) (events : List AgentStreamEvent) : Prop :=
  (events.filter (touching host q)).Pairwise fun e e' => e.sequence < e'.sequence

instance (q : Part) (events : List AgentStreamEvent) : Decidable (InOrder host q events) :=
  inferInstanceAs (Decidable (List.Pairwise _ _))

theorem firsts_not_seen :
    ∀ {seen : List Int} {events : List AgentStreamEvent} {e : AgentStreamEvent},
      e ∈ firsts seen events → e.sequence ∉ seen
  | _, [], e, h => by cases h
  | seen, e' :: events, e, h => by
    rw [firsts] at h
    split at h
    · exact firsts_not_seen h
    rename_i hn
    rcases mem_cons.mp h with rfl | h
    · exact hn
    · exact fun hm => firsts_not_seen h (mem_cons_of_mem _ hm)

variable {c : Control}

theorem next_take_seenSeqs {e : AgentStreamEvent} (hl : c.listening = true)
    (hp : 0 < e.sequence) (hn : e.sequence ∉ c.seenSeqs) :
    (c.next host (.event e)).1.seenSeqs = e.sequence :: c.seenSeqs := by
  rw [next_of_takes host (takes_event hl fun h => hn h.2)]
  cases effect host e <;> exact if_pos hp

variable {acts : List Act}

theorem taken_eq_firsts (hl : c.listening = true) (hp : ∀ n ∈ c.seenSeqs, 0 < n)
    (hr : ∀ e ∈ firsts c.seenSeqs (eventsOf acts), 0 < e.sequence
      ∧ e.sequence ∈ (c.after host acts).seenSeqs) :
    c.taken host acts = firsts c.seenSeqs (eventsOf acts) := by
  induction acts generalizing c with
  | nil => rfl
  | cons a acts ih =>
    cases a
    case event e =>
      have hev : eventsOf (.event e :: acts) = e :: eventsOf acts := rfl
      rw [hev, firsts] at hr ⊢
      rw [Control.after] at hr
      rw [Control.taken]
      by_cases hs : e.sequence ∈ c.seenSeqs
      · have hsk : c.listening = false ∨ (0 < e.sequence ∧ e.sequence ∈ c.seenSeqs) :=
          .inr ⟨hp _ hs, hs⟩
        rw [if_pos hs] at hr ⊢
        rw [Control.takes, if_pos hsk]
        rw [next_skip host hsk] at hr ⊢
        exact ih hl hp hr
      rw [if_neg hs] at hr ⊢
      have hpo := (hr e mem_cons_self).1
      have hse := next_take_seenSeqs host hl hpo hs
      have ht := takes_event hl fun h => hs h.2
      rw [← hse] at hr ⊢
      rw [ht, Option.toList_some, singleton_append, cons_inj_right]
      have hre := fun e' he' => hr e' (mem_cons_of_mem _ he')
      cases ho : (c.next host (.event e)).1.listening with
      | true => grind
      | false =>
        -- the event has closed the stream: what has not been seen is not received
        obtain ⟨ha, hta⟩ := closed_run host ho acts
        rw [hta, eq_comm, eq_nil_iff_forall_not_mem]
        intro e' he'
        exact firsts_not_seen he' (ha ▸ (hre e' he').2)
    all_goals exact ih hl hp hr

theorem eventType_of_touching_outcome {e : AgentStreamEvent} (h : touching host .outcome e = true) :
    e.eventType = .agentEnd := by
  by_contra hne
  rcases get_cases e.payload with hn | ⟨f, hf⟩
  · cases ht : e.eventType <;> simp_all [touching, effect, Effect.touches]
  cases ht : e.eventType <;> simp_all [touching, effect, Effect.touches]
  all_goals split at h <;> simp [Effect.touches, Option.any_map] at h

theorem inOrder_outcome : ∀ acts (c : Control), InOrder host .outcome (c.taken host acts)
  | [], _ => .nil
  | a :: acts, c => by
    have ih := inOrder_outcome acts (c.next host a).1
    rw [InOrder, Control.taken, filter_append]
    cases ht : c.takes a with
    | none => exact ih
    | some e =>
      rw [Option.toList_some, filter_singleton]
      cases hto : touching host .outcome e with
      | false => exact ih
      | true =>
        have hc : (c.next host a).1.listening = false := by
          grind [next_of_takes, eventType_of_touching_outcome]
        rw [(closed_run host hc acts).2]
        exact pairwise_singleton _ _

open AgentStreamEvent

theorem firsts_nodup :
    ∀ seen (events : List AgentStreamEvent), ((firsts seen events).map sequence).Nodup
  | _, [] => .nil
  | seen, e :: events => by
    rw [firsts]
    split
    · exact firsts_nodup seen events
    rw [map_cons, nodup_cons]
    refine ⟨fun hm => ?_, firsts_nodup _ events⟩
    obtain ⟨e', he', hs⟩ := mem_map.mp hm
    exact firsts_not_seen he' (hs ▸ mem_cons_self)

variable {events : List AgentStreamEvent}

theorem filter_inSequence {q : Part} {t : List AgentStreamEvent}
    (hd : (events.map sequence).Nodup) (hp : t.Perm events)
    (ho : InOrder host q t) :
    t.filter (touching host q) = (inSequence events).filter (touching host q) := by
  have hs := perm_insertionSort (fun e e' : AgentStreamEvent => e.sequence ≤ e'.sequence) events
  have hf := (hp.trans hs.symm).filter (touching host q)
  refine hf.eq_of_pairwise ?_ (ho.imp le_of_lt) ?_
  · intro e e' he he' hle hle'
    refine inj_on_of_nodup_map hd ?_ ?_ (le_antisymm hle hle')
    · grind
    · exact hs.mem_iff.mp (mem_of_mem_filter he')
  · exact (pairwise_insertionSort _ _).filter _

theorem filter_effects (q : Part) (events : List AgentStreamEvent) :
    (events.filterMap (effect host)).filter (Effect.touches q)
      = (events.filter (touching host q)).filterMap (effect host) := by
  rw [filter_filterMap, filterMap_filter]
  refine filterMap_congr fun e _ => ?_
  cases he : effect host e <;> simp [touching, he, Option.filter]

theorem taken_perm (hd : (events.map sequence).Nodup) (hp : ∀ e ∈ events, 0 < e.sequence)
    (hf : ∀ e ∈ firsts [] (eventsOf acts), e ∈ events)
    (hr : ∀ e ∈ events, e.sequence ∈ (Control.opened.after host acts).seenSeqs) :
    Control.opened.taken host acts = firsts [] (eventsOf acts)
      ∧ (Control.opened.taken host acts).Perm events := by
  have ht : Control.opened.taken host acts = firsts [] (eventsOf acts) :=
    taken_eq_firsts host rfl (by simp [Control.opened]) fun e he =>
      ⟨hp e (hf e he), hr e (hf e he)⟩
  refine ⟨ht, ?_⟩
  rw [ht]
  refine (perm_ext_iff_of_nodup (firsts_nodup _ _).of_map hd.of_map).mpr fun e => ?_
  refine ⟨hf e, fun he => ?_⟩
  rcases seenSeqs_after host acts (hr e he) with hn | ⟨e', he', hs⟩
  · simp [Control.opened] at hn
  · grind [inj_on_of_nodup_map]

variable [DecidableEq ν]

theorem foldlM_effects :
    ∀ {events : List AgentStreamEvent} (r : Run ν), (∀ e ∈ events, effect host e ≠ none) →
      events.foldlM (fun s e => applyAgentEvent host s.1 e s.2) r
        = some ((events.filterMap (effect host)).foldl (Effect.apply host) r)
  | [], _, _ => rfl
  | e :: events, r, h => by
    obtain ⟨f, hef⟩ := Option.ne_none_iff_exists'.mp (h e mem_cons_self)
    rw [foldlM_cons, applyAgentEvent_eq, hef, filterMap_cons, hef]
    exact foldlM_effects (f.apply host r) fun e he => h e (mem_cons_of_mem _ he)

theorem foldlM_throws :
    ∀ {events : List AgentStreamEvent} (r : Run ν), (∃ e ∈ events, effect host e = none) →
      events.foldlM (fun s e => applyAgentEvent host s.1 e s.2) r = none
  | [], _, h => by simp at h
  | e :: events, r, h => by
    rw [foldlM_cons, applyAgentEvent_eq]
    cases he : effect host e with
    | none => rfl
    | some f =>
      refine foldlM_throws (f.apply host r) ?_
      simpa [he] using h

theorem samePart_of_inOrder {q : Part} {s : LiveRunState} {p : List (Key ν)}
    (hd : (events.map sequence).Nodup)
    (hp : (c.taken host acts).Perm events) (ho : InOrder host q (c.taken host acts))
    (hf : ∀ k ∈ startKeys host (events.filterMap (effect host)), k ∉ p) :
    SamePart q ((c.updates host acts).foldl (Effect.apply host) (s, p)).1
      (((inSequence events).filterMap (effect host)).foldl (Effect.apply host) (s, [])).1 := by
  have hs : ∀ k ∈ startKeys host (c.updates host acts), k ∉ p := by
    intro k hk
    rw [startKeys, updates_filterMap host rfl] at hk
    exact hf k (((hp.filterMap _).filterMap _).mem_iff.mp hk)
  have hpe : ((c.updates host acts).foldl (Effect.apply host) (s, p)).1
      = ((c.updates host acts).foldl (Effect.apply host) (s, [])).1 :=
    foldl_congr_pending host _ fun k hk => iff_of_false (hs k hk) not_mem_nil
  have ht : (c.updates host acts).filter (Effect.touches q)
      = ((inSequence events).filterMap (effect host)).filter (Effect.touches q) := by
    have hu := updates_filterMap host (f := Option.guard (Effect.touches q)) rfl acts c
    rw [filterMap_eq_filter] at hu
    rw [hu, filter_effects, filter_effects, filter_inSequence host hd hp ho]
  rw [hpe]
  exact (sameAt_of_filter_eq host (.refl q _) ht).1

/-- What is displayed, once every event of the run has been received,
against the fold over the events in the order of their sequence numbers:
each part is the same if the events that touch it came in that order, and
the outcome is the same in any case. -/
theorem displayed_eq_fold (before acts : List Act) (runId : Option String)
    (events : List AgentStreamEvent) {h h' : Hook ν} (hrunId : isRun runId = true)
    (hbefore : run (step host) (mounted ν) before = some h)
    (hacts : ∀ a ∈ acts, a.stays runId = true)
    (hrun : run (step host) h (.render runId :: .effect :: acts) = some h')
    (hdistinct : (events.map AgentStreamEvent.sequence).Nodup)
    (hpositive : ∀ e ∈ events, 0 < e.sequence)
    (hforwarded : ∀ e ∈ firsts [] (eventsOf acts), e ∈ events)
    (hreceived : ∀ e ∈ events, e.sequence ∈ h'.seenSeqs)
    (hfresh : ∀ k ∈ startKeys host (events.filterMap (effect host)),
      k ∉ startedKeys host (mounted ν) before) :
    (h'.display = none ∧ foldEvents host (inSequence events) = none)
      ∨ ∃ s s' pending, h'.display = some s
        ∧ foldEvents host (inSequence events) = some (s', pending)
        ∧ ∀ q, q = .outcome ∨ InOrder host q (firsts [] (eventsOf acts)) → SamePart q s s' := by
  obtain ⟨opened, hpe, hf⟩ := follows_selected host hrunId hbefore hacts hrun
  have hs : h'.seenSeqs = (Control.opened.after host acts).seenSeqs :=
    congrArg Control.seenSeqs hf.control
  rw [hs] at hreceived
  obtain ⟨ht, hp⟩ := taken_perm host hdistinct hpositive hforwarded hreceived
  have hm : ∀ e, e ∈ inSequence events ↔ e ∈ Control.opened.taken host acts :=
    fun e => (mem_insertionSort _).trans hp.mem_iff.symm
  have hc : (Control.opened.after host acts).crashed = true
      ↔ ∃ e ∈ inSequence events, effect host e = none := by
    rw [crashed_after, or_iff_right (by simp [Control.opened])]
    simp only [hm]
  rw [display_of_follows host hf, foldEvents]
  cases hca : (Control.opened.after host acts).crashed with
  | true => exact .inl ⟨rfl, foldlM_throws host _ (hc.mp hca)⟩
  | false =>
    have hso : ∀ e ∈ inSequence events, effect host e ≠ none := by grind
    refine .inr ⟨_, _, _, rfl, foldlM_effects host _ hso, fun q hq => ?_⟩
    have ho : InOrder host q (Control.opened.taken host acts) := by grind [inOrder_outcome]
    refine samePart_of_inOrder host hdistinct hp ho fun k hk => ?_
    rw [hpe]
    exact hfresh k hk

def answer (text : String) (sequence : Int) : Api.RunEvent :=
  { runID := (), eventType := "message_end", sequence := sequence
    payload := "\x7b\"message\":\x7b\"role\":\"assistant\",\"content\":\"" ++ text ++ "\"\x7d\x7d" }

/-- An event of the gateway, as it comes on the stream; neither its id nor
its time is looked at here. -/
def onStream (e : Api.RunEvent) : Option AgentStreamEvent :=
  (JsonText.parse (go e.payload)).map fun payload =>
    { id := "", eventType := .ofString e.eventType, payload := payload, sequence := e.sequence
      createdAt := "" }

def endOf (sequence : Int) : AgentStreamEvent :=
  { id := "", eventType := .agentEnd, payload := .obj [("result", .str "done")]
    sequence := sequence, createdAt := "10:01" }

/-- A tool call that comes after the message that follows it, a copy of
which comes once more. -/
theorem displayed_eq_fold_late_call :
    let message : List AgentStreamEvent := (onStream (answer "a" 2)).toList
    let events := startOf "call_1" :: message ++ [endOf 3]
    let acts : List Act :=
      .connected :: message.map .event ++ [.liveStart, .event (startOf "call_1")]
        ++ message.map .event ++ [.event (endOf 3)]
    (∀ e ∈ events, 0 < e.sequence)
    ∧ ∃ h' s s' pen,
      run (step exactHost) (mounted Int) (.render (some "A") :: .effect :: acts) = some h'
      ∧ h'.display = some s ∧ foldEvents exactHost (inSequence events) = some (s', pen)
      ∧ s.output = s'.output ∧ s.toolCalls = s'.toolCalls ∧ s.status = s'.status := by
  intro message events acts
  have hp : ∀ e ∈ events, 0 < e.sequence := by decide
  have hfo : ∀ e ∈ firsts [] (eventsOf acts), e ∈ events := by
    have hfi : firsts [] (eventsOf acts) = message ++ [startOf "call_1", endOf 3] := rfl
    intro e he
    simp only [hfi, events, mem_append, mem_cons, cons_append] at he ⊢
    tauto
  have hf := displayed_eq_fold exactHost [] acts (some "A") events rfl rfl (by decide) rfl
    (by decide) hp hfo (by decide) (by decide)
  obtain ⟨hn, -⟩ | ⟨s, s', pen, hd, hf, hs⟩ := hf
  · cases hn
  exact ⟨hp, _, s, s', pen, rfl, hd, hf, hs .output (.inr (by decide)),
    hs .toolCalls (.inr (by decide)), (hs .outcome (.inl rfl)).1⟩

/-- Two messages end, and the second is stored before the first one is: the
history has the second only. It is displayed before the first. -/
theorem late_insert_reorders :
    (∀ p : Api.Params,
      (run (Api.RunStream.step p) .start [.getRun, .subscribe, .event (answer "a" 1), .persist,
        .event (answer "b" 2), .persist, .insert 1, .history, .receive, .receive]).map
          Api.RunStream.written
        = some [answer "b" 2, answer "a" 1, answer "b" 2])
    ∧ (∃ h, run (step exactHost) (mounted Int) ([.render (some "A"), .effect]
          ++ ([answer "b" 2, answer "a" 1, answer "b" 2].filterMap onStream).map .event) = some h
        ∧ h.seenSeqs = [1, 2] ∧ h.display.map LiveRunState.output = some "b\n\na")
    ∧ (foldEvents exactHost (inSequence ([answer "a" 1, answer "b" 2].filterMap onStream))).map
        (fun r => r.1.output) = some "a\n\nb" :=
  ⟨fun _ => rfl, ⟨_, rfl, rfl, rfl⟩, rfl⟩

end Daao.Cockpit

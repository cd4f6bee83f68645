/-
Daao.Cockpit.RunView — what can be relied on while the events of one run
come in (`useAgentRunStream` and `applyAgentEvent` in
`cockpit/src/hooks/useAgents.ts`).

An event with a sequence number that was seen is dropped, whatever it
holds. So the tool calls stand in the order of the first events that carried
their ids as long as one number always comes with one id
(`view_invariants`); `dropped_start_reorders` is a stream where it does not.
-/
import Daao.Cockpit.RunHookTheorems

namespace Daao.Cockpit

open Daao.Lib Daao.Lib.Js List Effect

variable {ν : Type} (host : Host ν)

/-! ## 1. The ids that events carry -/

/-- The id in a start or update event. -/
def carriedId (e : AgentStreamEvent) : Option Value :=
  match e.eventType with
  | .toolExecutionUpdate => get (some e.payload) "toolCallId"
  | .toolExecutionStart =>
    (get (some e.payload) "toolCallId").map fun id => coalesce id (some (.str e.id))
  | _ => none

def nonEmptyKey (id : Value) : Option (Key ν) := if truthy host id then key host id else none

def carriedKey (e : AgentStreamEvent) : Option (Key ν) := (carriedId e).bind (nonEmptyKey host)

def firstCarried [DecidableEq ν] (events : List AgentStreamEvent) (k : Key ν) : Nat :=
  events.findIdx fun e => carriedKey host e = some k

def listedIds (s : LiveRunState) : List Value := s.toolCalls.map ToolCall.id

def listedKeys (s : LiveRunState) : List (Key ν) := (listedIds s).filterMap (nonEmptyKey host)

/-- Events with one sequence number carry one id. -/
def OneIdBySequence (events : List AgentStreamEvent) : Prop :=
  ∀ e ∈ events, ∀ e' ∈ events, 0 < e.sequence → e.sequence = e'.sequence →
    carriedKey host e = carriedKey host e'

variable {host} {k : Key ν} {e : AgentStreamEvent} {events : List AgentStreamEvent}

theorem effect_of_carriedKey (h : carriedKey host e = some k) :
    ∃ tc, effect host e = some (.toolStart tc) ∧ nonEmptyKey host tc.id = some k := by
  obtain ⟨id, hid, hk⟩ := Option.bind_eq_some_iff.mp h
  rcases get_cases e.payload with hn | ⟨f, hf⟩
  · cases ht : e.eventType <;> simp [carriedId, ht, hn] at hid
  cases ht : e.eventType <;> simp [carriedId, ht, hf] at hid <;> subst hid
  case toolExecutionUpdate =>
    have htr : truthy host (f "toolCallId") = true := by grind [nonEmptyKey]
    exact ⟨startedCall e (f "toolCallId") (f "toolName") (f "args"),
      by simp [effect, ht, hf, htr], hk⟩
  case toolExecutionStart => exact ⟨_, by simp only [effect, ht, hf]; rfl, hk⟩

theorem carriedKey_of_effect {tc : ToolCall} (h : effect host e = some (.toolStart tc)) :
    carriedKey host e = nonEmptyKey host tc.id := by
  rcases get_cases e.payload with hn | ⟨f, hf⟩
  · cases ht : e.eventType <;> simp [effect, ht, hn] at h
  cases ht : e.eventType <;> simp [effect, ht, hf] at h
  case messageUpdate => split at h <;> simp at h
  case messageEnd => split at h <;> simp at h
  case toolExecutionUpdate =>
    split at h <;> cases h
    simp [carriedKey, carriedId, ht, hf, startedCall]
  case toolExecutionStart => simp [carriedKey, carriedId, ht, hf, ← h, startedCall]

theorem OneIdBySequence.of_append (h : OneIdBySequence host (events ++ [e])) :
    OneIdBySequence host events := fun e' he' e'' he'' =>
  h e' (mem_append_left _ he') e'' (mem_append_left _ he'')

variable [DecidableEq ν]

/-- What was carried before an event comes was carried first where it was. -/
theorem firstCarried_append (h : ∃ e' ∈ events, carriedKey host e' = some k) :
    firstCarried host (events ++ [e]) k = firstCarried host events k
      ∧ firstCarried host events k < events.length := by
  have hlt : firstCarried host events k < events.length :=
    findIdx_lt_length_of_exists (by simpa using h)
  rw [firstCarried, findIdx_append]
  exact ⟨if_pos hlt, hlt⟩

theorem firstCarried_new (hn : ∀ e' ∈ events, carriedKey host e' ≠ some k) :
    events.length ≤ firstCarried host (events ++ [e]) k := by
  rw [firstCarried, findIdx_append, findIdx_eq_length_of_false (by simpa using hn)]
  simp

/-! ## 2. One event -/

variable {c : Control} {s s' : LiveRunState} {p : List (Key ν)}

/-- What never changes: text that is written, and a call that has ended. -/
def Extends (s s' : LiveRunState) : Prop :=
  (∃ more, s'.output = s.output ++ more) ∧
    ∀ (i : Nat) tc, s.toolCalls[i]? = some tc → tc.endedAt.isSome → s'.toolCalls[i]? = some tc

theorem Extends.refl (s : LiveRunState) : Extends s s := ⟨⟨"", by simp⟩, fun _ _ h _ => h⟩

theorem extends_apply (host : Host ν) (eff : Effect) (s : LiveRunState) (p : List (Key ν)) :
    Extends s (eff.apply host (s, p)).1 := by
  cases eff
  case message text usage =>
    refine ⟨?_, fun _ _ h _ => h⟩
    cases text with
    | none => exact ⟨"", by simp [apply]⟩
    | some text => exact ⟨_, String.append_assoc⟩
  case toolStart tc =>
    simp only [apply]
    split
    · exact .refl s
    · exact ⟨⟨"", by simp⟩, by grind⟩
  case toolEnd id result endedAt duration =>
    refine ⟨⟨"", by simp [apply]⟩, fun i tc htc he => ?_⟩
    have hs : endCall host id result endedAt duration tc = tc := by
      rw [endCall, if_neg (by simp [Option.isSome_iff_ne_none.mp he])]
    simp [apply, htc, hs]
  all_goals exact .refl s

/-- An effect lists a call that is not pending, or leaves the ids. -/
theorem listedIds_apply (host : Host ν) (eff : Effect) (s : LiveRunState) (p : List (Key ν)) :
    listedIds (eff.apply host (s, p)).1 = listedIds s
      ∨ ∃ tc, eff = .toolStart tc ∧ has host p tc.id = false
        ∧ listedIds (eff.apply host (s, p)).1 = listedIds s ++ [tc.id] := by
  cases eff
  case toolStart tc =>
    simp only [apply]
    split
    · exact .inl rfl
    rename_i hh
    exact .inr ⟨tc, rfl, Bool.eq_false_iff.mpr hh, by simp [listedIds]⟩
  case toolEnd id result endedAt duration =>
    refine .inl ?_
    rw [listedIds, apply, map_map]
    exact map_congr_left fun tc _ => endCall_id host id result endedAt duration tc
  all_goals exact .inl rfl

variable (host)

/-- What holds after the events. -/
structure View (events : List AgentStreamEvent) (c : Control) (s : LiveRunState)
    (p : List (Key ν)) : Prop where
  seen : ∀ n ∈ c.seenSeqs, ∃ e ∈ events, e.sequence = n
  marked : c.listening = true → ∀ e ∈ events, 0 < e.sequence → e.sequence ∈ c.seenSeqs
  pending : ∀ k, k ∈ p ↔ Shows host k s
  distinct : (listedIds s).Pairwise (sameValue host · · = false)
  carried : ∀ k ∈ listedKeys host s, ∃ e ∈ events, carriedKey host e = some k
  listed : OneIdBySequence host events → c.listening = true →
    ∀ e ∈ events, ∀ k, carriedKey host e = some k → k ∈ p
  ordered : OneIdBySequence host events →
    (listedKeys host s).Pairwise (firstCarried host events · < firstCarried host events ·)

variable {host} (hview : View host events c s p)

include hview

theorem ordered_append (ho : OneIdBySequence host (events ++ [e])) :
    (listedKeys host s).Pairwise
      (firstCarried host (events ++ [e]) · < firstCarried host (events ++ [e]) ·) := by
  refine (hview.ordered ho.of_append).imp_of_mem fun hk hk' hlt => ?_
  rwa [(firstCarried_append (hview.carried _ hk)).1, (firstCarried_append (hview.carried _ hk')).1]

theorem view_skip (hs : c.listening = false ∨ (0 < e.sequence ∧ e.sequence ∈ c.seenSeqs)) :
    View host (events ++ [e]) c s p := by
  refine { hview with
    seen := by grind [hview.seen], marked := by grind [hview.marked]
    carried := by grind [hview.carried], listed := fun ho hl e' he' k hk => ?_
    ordered := ordered_append hview }
  rcases mem_append.mp he' with he' | he'
  · exact hview.listed ho.of_append hl e' he' k hk
  -- the event whose number it has carries the same id
  obtain rfl := mem_singleton.mp he'
  obtain ⟨hp, hse⟩ := hs.resolve_left (by simp [hl])
  obtain ⟨e, he, hsq⟩ := hview.seen _ hse
  have hsa := ho e' (by simp) e (by simp [he]) hp hsq.symm
  exact hview.listed ho.of_append hl e he k (hsa ▸ hk)

theorem distinct_apply (f : Effect) :
    (listedIds (f.apply host (s, p)).1).Pairwise (sameValue host · · = false) := by
  rcases listedIds_apply host f s p with hi | ⟨tc, he, hh, hi⟩ <;> rw [hi]
  · exact hview.distinct
  refine pairwise_append.mpr ⟨hview.distinct, pairwise_singleton .., fun id hid id' hid' => ?_⟩
  obtain ⟨tc', htc', rfl⟩ := mem_map.mp hid
  grind [sameValue, has, Shows, hview.pending]

theorem keys_apply {f : Effect} (hef : effect host e = some f) :
    (∀ k ∈ listedKeys host (f.apply host (s, p)).1,
        ∃ e' ∈ events ++ [e], carriedKey host e' = some k)
      ∧ (c.listening = true → OneIdBySequence host (events ++ [e]) →
        (listedKeys host (f.apply host (s, p)).1).Pairwise
          (firstCarried host (events ++ [e]) · < firstCarried host (events ++ [e]) ·)) := by
  have hc : ∀ k ∈ listedKeys host s, ∃ e' ∈ events ++ [e], carriedKey host e' = some k := by
    grind [hview.carried]
  rcases listedIds_apply host f s p with hi | ⟨tc, heff, hh, hi⟩ <;> rw [listedKeys, hi]
  · exact ⟨hc, fun _ => ordered_append hview⟩
  subst heff
  rw [filterMap_append]
  cases hke : nonEmptyKey host tc.id with
  | none =>
    rw [filterMap_cons_none hke, filterMap_nil, append_nil]
    exact ⟨hc, fun _ => ordered_append hview⟩
  | some k =>
    rw [filterMap_cons_some hke, filterMap_nil]
    have hne := (carriedKey_of_effect hef).trans hke
    refine ⟨by grind [listedKeys], fun hl ho => pairwise_append.mpr
      ⟨ordered_append hview ho, pairwise_singleton .., fun k' hk' k'' hk'' => ?_⟩⟩
    -- an event that carried the id before would have made it pending
    have hn : ∀ e' ∈ events, carriedKey host e' ≠ some k'' := by
      intro e' he' hk
      have := hview.listed ho.of_append hl e' he' k'' hk
      grind [has, nonEmptyKey]
    have hold := firstCarried_append (e := e) (hview.carried k' hk')
    have := firstCarried_new (e := e) hn
    omega

theorem view_next (e : AgentStreamEvent) :
    let n := c.next host (.event e)
    View host (events ++ [e]) n.1 (n.2.foldl (apply host) (s, p)).1
        (n.2.foldl (apply host) (s, p)).2
      ∧ Extends s (n.2.foldl (apply host) (s, p)).1 := by
  by_cases hs : c.listening = false ∨ (0 < e.sequence ∧ e.sequence ∈ c.seenSeqs)
  · rw [next_skip host hs]
    exact ⟨view_skip hview hs, .refl s⟩
  obtain ⟨hl, hse⟩ := not_or.mp hs
  rw [Bool.not_eq_false] at hl
  rw [next_of_takes host (takes_event hl hse)]
  cases hef : effect host e with
  | none =>
    refine ⟨{ hview with
      seen := by grind [hview.seen], marked := nofun, carried := by grind [hview.carried]
      listed := fun _ => nofun, ordered := ordered_append hview }, .refl s⟩
  | some eff =>
    refine ⟨⟨by grind [hview.seen], by grind [hview.marked], fun k => ?_, distinct_apply hview eff,
      (keys_apply hview hef).1, fun ho _ e' he' k hk => ?_, (keys_apply hview hef).2 hl⟩,
      extends_apply host eff s p⟩
    · have := hview.pending k
      grind [mem_pending_apply, shows_apply]
    -- the event itself starts the call it carries, or finds it pending
    refine (mem_pending_apply host eff (s, p)).mpr ?_
    rcases mem_append.mp he' with he' | he'
    · exact .inl (hview.listed ho.of_append hl e' he' k hk)
    obtain rfl := mem_singleton.mp he'
    obtain ⟨tc, heff, hke⟩ := effect_of_carriedKey hk
    grind [nonEmptyKey, startKey]

omit hview

/-! ## 3. The events of a run -/

variable (host) (runId : String)

/-- A component that is mounted with a run, when its effect has run. -/
def opened : Hook ν := Hook.runEffect { mounted ν with shown := some runId }

def deliver (h : Hook ν) (e : AgentStreamEvent) : Hook ν :=
  if h.listening then h.handleEvent host e else h

def viewAfter (events : List AgentStreamEvent) : Hook ν :=
  events.foldl (deliver host) (opened runId)

theorem run_viewAfter (events : List AgentStreamEvent) :
    run (step host) (mounted ν) (.render (some runId) :: .effect :: events.map .event)
      = some (viewAfter host runId events) := by
  have he : ∀ (events : List AgentStreamEvent) (h : Hook ν),
      run (step host) h (events.map .event) = some (events.foldl (deliver host) h) := by
    intro events
    induction events with
    | nil => exact fun h => rfl
    | cons e events ih => exact fun h => ih (deliver host h e)
  exact he events (opened runId)

variable {runId}

theorem view_deliver {h : Hook ν} (hs : h.state = some s)
    (hview : View host events h.control s h.pendingToolCalls) (e : AgentStreamEvent) :
    ∃ s', (deliver host h e).state = some s' ∧ Extends s s'
      ∧ View host (events ++ [e]) (deliver host h e).control s'
        (deliver host h e).pendingToolCalls := by
  obtain ⟨hview', he⟩ := view_next hview e
  cases hl : h.listening with
  | false =>
    rw [next_skip host (.inl hl)] at hview'
    simpa [deliver, hl] using ⟨s, hs, .refl s, hview'⟩
  | true =>
    obtain ⟨-, hc, hn, hp⟩ := follows_event host hs hl e
    simp only [deliver, hl, if_true, hc, hp]
    exact ⟨_, hn, he, hview'⟩

theorem view_viewAfter (hr : isRun (some runId) = true) (events : List AgentStreamEvent) :
    ∃ s, (viewAfter host runId events).state = some s
      ∧ View host events (viewAfter host runId events).control s
          (viewAfter host runId events).pendingToolCalls := by
  induction events using reverseRecOn with
  | nil =>
    obtain ⟨hc, hs, -⟩ := runEffect_opened (h := { mounted ν with shown := some runId }) hr rfl
    have hp : (opened runId : Hook ν).pendingToolCalls = [] := runEffect_pendingToolCalls _
    refine ⟨_, hs, ?_⟩
    simp only [viewAfter, foldl_nil, hp]
    rw [opened, hc]
    constructor <;> simp [Control.opened, Shows, listedKeys, listedIds, initialState]
  | append_singleton events e ih =>
    obtain ⟨s, hs, hview⟩ := ih
    obtain ⟨s', hs', -, hview'⟩ := view_deliver host hs hview e
    rw [viewAfter, foldl_append]
    exact ⟨s', hs', hview'⟩

/-- After any events of a run an event whose number was delivered changes
nothing, and the listed calls are different. They stand in the order of the
events that carried their ids first if a number comes with one id. Whatever
event is next, the output is only added to, and a call that has ended stays
as it is. -/
theorem view_invariants (host : Host ν) (runId : String) (events : List AgentStreamEvent)
    (hrunId : isRun (some runId) = true) :
    run (step host) (mounted ν) (.render (some runId) :: .effect :: events.map .event)
        = some (viewAfter host runId events)
      ∧ ∃ s, (viewAfter host runId events).state = some s
      ∧ (∀ e ∈ events, 0 < e.sequence →
          viewAfter host runId (events ++ [e]) = viewAfter host runId events)
      ∧ (listedIds s).Pairwise (sameValue host · · = false)
      ∧ (∀ k ∈ listedKeys host s, ∃ e ∈ events, carriedKey host e = some k)
      ∧ (OneIdBySequence host events →
          (listedKeys host s).Pairwise (firstCarried host events · < firstCarried host events ·))
      ∧ ∀ e, ∃ s', (viewAfter host runId (events ++ [e])).state = some s' ∧ Extends s s' := by
  obtain ⟨s, hs, hview⟩ := view_viewAfter host hrunId events
  have ha : ∀ e, viewAfter host runId (events ++ [e])
      = deliver host (viewAfter host runId events) e := fun e => foldl_append
  refine ⟨run_viewAfter host runId events, s, hs, fun e he hp => ?_, hview.distinct,
    hview.carried, hview.ordered, fun e => ?_⟩
  · rw [ha, deliver]
    split
    · rename_i hl
      exact if_pos ⟨hp, hview.marked hl e he hp⟩
    · rfl
  obtain ⟨s', hs', hex, -⟩ := view_deliver host hs hview e
  exact ⟨s', ha e ▸ hs', hex⟩

theorem view_invariants_two_calls :
    let events := [startOf "a", { startOf "b" with sequence := 2 }]
    isRun (some "run") = true ∧ OneIdBySequence exactHost events
      ∧ ∃ s, (viewAfter exactHost "run" events).state = some s
        ∧ (listedKeys exactHost s).Pairwise
            (firstCarried exactHost events · < firstCarried exactHost events ·) := by
  obtain ⟨-, s, hs, -, -, -, ho, -⟩ := view_invariants exactHost "run"
    [startOf "a", { startOf "b" with sequence := 2 }] rfl
  have hon : OneIdBySequence exactHost [startOf "a", { startOf "b" with sequence := 2 }] := by
    simp [OneIdBySequence, startOf]
  exact ⟨rfl, hon, s, hs, ho hon⟩

/-- The second event has the number of the first and is dropped, so its call
is listed when it comes again, after that of the third. -/
theorem dropped_start_reorders :
    let events := [startOf "a", startOf "b", { startOf "c" with sequence := 2 },
      { startOf "b" with sequence := 3 }]
    (viewAfter exactHost "run" events).state.map (listedKeys exactHost)
        = some [.string "a", .string "c", .string "b"]
      ∧ firstCarried exactHost events (.string "b") = 1
      ∧ firstCarried exactHost events (.string "c") = 2 := by
  decide

end Daao.Cockpit

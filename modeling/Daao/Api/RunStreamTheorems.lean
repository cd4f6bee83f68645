/-
Daao.Api.RunStreamTheorems — what a client of a run's event stream gets,
and whether its stream ends.

The client subscribes BEFORE it replays, so an event reaches it through
its channel or, if it was published earlier, through the replay. Two
things can go wrong. An event published before the subscription may still
be in the batch writer, or in a goroutine, when the client reads the
history; nobody sends it later. And the hub may be closed between the
client's reading of the run and its subscription; the channel is then
never closed. `Orderly` excludes the two, and events after `agent_end`.
-/
import Daao.Api.RunStream

namespace Daao.Api.RunStream

open Daao.Lib Daao.AgentStream Daao.Database List RunEventHub

def ended (s : RunStream) : Bool := s.published.any RunEvent.isAgentEnd

/-! ## 1. The gateway ends the run -/

def isEnding : EventHandler → Bool
  | .receiving => false
  | .published e => e.isAgentEnd
  | .closing _ | .flushing .. | .spawning _ => true

/-- Nothing of an `agent_end` before one is published, and from then on
one is on its way until the hub is closed. -/
structure GatewayInv (s : RunStream) : Prop where
  quiet : s.ended = false → isFinished s.status = false ∧ s.hubClosed = false ∧ s.ends = []
    ∧ isEnding s.gateway = false
  ending : s.ended = true → isEnding s.gateway = true ∨ s.ends ≠ [] ∨ s.hubClosed = true

theorem isEnding_afterSend (i : Nat) (g : EventHandler) :
    isEnding (afterSend i g) = isEnding g := by
  cases g with
  | flushing e j =>
    simp only [afterSend]
    split
    · rfl
    · split <;> rfl
  | _ => rfl

theorem isEnding_afterClose (e : RunEvent) (b f : List (Batch Unit)) :
    isEnding (afterClose e b f) = true := by
  unfold afterClose
  split <;> rfl

theorem gatewayInv_start : GatewayInv start := by
  refine ⟨fun _ => ⟨rfl, rfl, rfl, rfl⟩, ?_⟩
  intro h
  cases h

variable {p : Params} {s s' : RunStream}

theorem ended_publish (s : RunStream) (e : RunEvent) :
    (s.published ++ [e]).any RunEvent.isAgentEnd = (s.ended || e.isAgentEnd) := by
  simp [ended]

def readFinished : Client → Bool
  | .gotRun status => isFinished status
  | _ => false

/-- The conditions on a run. `agent_end` is the run's last event, and a
subscribed client's channel has room for what is published. The client
subscribes before the hub is closed, or has read a finished run. And when
it reads the history, the events published before it subscribed have been
stored. -/
def Orderly (s : RunStream) : Act → Prop
  | .event _ => s.ended = false ∧ (s.hub.subs ()).ch.length < channelSize
  | .subscribe => s.hubClosed = false ∨ readFinished s.client = true
  | .history => ∀ e ∈ s.atSubscribe, e ∈ s.writer.agentRunEvents
  | _ => True

instance decidableOrderly (s : RunStream) : ∀ a, Decidable (Orderly s a)
  | .event _ => inferInstanceAs (Decidable (_ ∧ _))
  | .subscribe => inferInstanceAs (Decidable (_ ∨ _))
  | .history => inferInstanceAs (Decidable (∀ e ∈ s.atSubscribe, e ∈ s.writer.agentRunEvents))
  | .persist | .closeWriter | .spawnEnd | .insert _ | .endStep _ | .fire | .timerFlush
  | .queue _ | .send _ | .getRun | .receive => isTrue trivial

def isStoring : Act → Bool
  | .persist | .closeWriter | .insert _ | .fire | .timerFlush | .queue _ | .send _ => true
  | _ => false

variable {a : Act}

theorem step_storing (ha : isStoring a = true) (hs : step p s a = some s') :
    ∃ gateway writer inserts,
      s' = { s with gateway := gateway, writer := writer, inserts := inserts }
        ∧ isEnding gateway = isEnding s.gateway := by
  cases a with
  | persist => grind [step, isEnding]
  | closeWriter =>
    simp only [step] at hs
    split at hs
    · rename_i e hg
      split at hs
      · cases hs
        exact ⟨_, _, _, rfl, by rw [hg, isEnding_afterClose]; rfl⟩
      cases hs
      exact ⟨_, _, _, rfl, by rw [hg]; rfl⟩
    · cases hs
  | insert i => grind [step]
  | fire | timerFlush | queue i =>
    obtain ⟨w, -, rfl⟩ := Option.map_eq_some_iff.mp hs
    exact ⟨_, _, _, rfl, rfl⟩
  | send i =>
    obtain ⟨w, -, rfl⟩ := Option.map_eq_some_iff.mp hs
    exact ⟨_, _, _, rfl, isEnding_afterSend i s.gateway⟩
  | _ => cases ha

theorem gatewayInv_step (h : GatewayInv s) (hok : Orderly s a)
    (hs : step p s a = some s') : GatewayInv s' := by
  by_cases hst : isStoring a = true
  · obtain ⟨gateway, w, n, rfl, hsa⟩ := step_storing hst hs
    constructor <;> simp only [hsa]
    · exact h.quiet
    · exact h.ending
  cases a with
  | event e =>
    simp only [step] at hs
    split at hs
    · cases hs
      obtain ⟨hsu, hh, hen, -⟩ := h.quiet hok.1
      have he : ended { s with
          gateway := .published e, hub := s.hub.publish () e, published := s.published ++ [e] }
          = e.isAgentEnd := by
        rw [ended, ended_publish, hok.1, Bool.false_or]
      refine ⟨?_, ?_⟩
      · intro hno
        exact ⟨hsu, hh, hen, he.symm.trans hno⟩
      intro hy
      exact .inl (he.symm.trans hy)
    · cases hs
  | spawnEnd =>
    simp only [step] at hs
    split at hs
    · rename_i e hg
      cases hs
      refine ⟨?_, fun _ => .inr (.inl (by simp))⟩
      intro hno
      have hc := (h.quiet hno).2.2.2
      rw [hg] at hc
      cases hc
    · cases hs
  | endStep i =>
    have hne : ∀ x, s.ends[i]? = some x → s.ended = true := by
      intro x hx
      by_contra hno
      rw [(h.quiet (by simpa using hno)).2.2.1] at hx
      cases hx
    simp only [step] at hs
    split at hs
    · rename_i t hi
      cases hs
      have hl : s.ends.length ≠ 0 := by grind
      refine ⟨fun hno => ?_, fun _ => .inr (.inl ?_)⟩
      · exact absurd ((hne _ hi).symm.trans hno) (by simp)
      · simp_all
    · rename_i hi
      cases hs
      refine ⟨fun hno => ?_, fun _ => .inr (.inr rfl)⟩
      exact absurd ((hne _ hi).symm.trans hno) (by simp)
    · cases hs
  | getRun | subscribe =>
    simp only [step] at hs
    split at hs
    · cases hs
      exact { h with }
    · cases hs
  | history =>
    simp only [step] at hs
    split at hs
    · split at hs <;> cases hs <;> exact { h with }
    · cases hs
  | receive =>
    simp only [step] at hs
    split at hs <;> cases hs <;> exact { h with }
  | _ => exact absurd rfl hst

/-! ## 2. The client -/

def Accounted (published seen pending : List RunEvent) : Prop :=
  ∀ e ∈ published, e ∈ seen ∨ e ∈ pending

/-- The client's channel is closed with the hub, and known to the hub
before that. -/
structure Attached (hub : RunEventHub Unit Unit RunEvent) (hubClosed : Bool) : Prop where
  closed : (hub.subs ()).closed = hubClosed
  known : hubClosed = false → () ∈ hub.clients ()

structure ClientInv (s : RunStream) : Prop where
  gotRun : ∀ status, s.client = .gotRun status → isFinished status = true → s.ended = true
  /-- a client that has read a finished run gets everything by the replay -/
  finished : ∀ status, s.client = .subscribed status → isFinished status = true →
    s.ended = true ∧ Accounted s.published s.atSubscribe []
  subscribed : ∀ status, s.client = .subscribed status → isFinished status = false →
    Attached s.hub s.hubClosed ∧ Accounted s.published s.atSubscribe (s.hub.subs ()).ch
  live : s.client = .live →
    Attached s.hub s.hubClosed ∧ Accounted s.published s.written (s.hub.subs ()).ch
  done : s.client = .done → s.ended = true ∧ Accounted s.published s.written []

theorem clientInv_start : ClientInv start := by
  constructor <;> simp [start]

variable {hub : RunEventHub Unit Unit RunEvent}

theorem subs_publish (h : Attached hub false)
    (hr : (hub.subs ()).ch.length < channelSize) (e : RunEvent) :
    (hub.publish () e).subs () = { hub.subs () with ch := (hub.subs ()).ch ++ [e] } := by
  simp only [publish, if_pos (h.known rfl)]
  exact Subscriber.send_of_open h.closed hr e

theorem attached_publish (h : Attached hub false)
    (hr : (hub.subs ()).ch.length < channelSize) {u n : List RunEvent}
    (ha : Accounted u n (hub.subs ()).ch) (e : RunEvent) :
    Attached (hub.publish () e) false
      ∧ Accounted (u ++ [e]) n ((hub.publish () e).subs ()).ch := by
  rw [subs_publish h hr]
  refine ⟨⟨?_, h.known⟩, ?_⟩
  · rw [subs_publish h hr]
    exact h.closed
  intro x hx
  rcases mem_append.mp hx with hold | hn
  · exact (ha x hold).imp_right (mem_append_left _)
  · exact .inr (mem_append_right _ hn)

theorem clientInv_event {e : RunEvent} (hg : GatewayInv s) (h : ClientInv s)
    (hok : Orderly s (.event e)) :
    ClientInv { s with
      gateway := .published e, hub := s.hub.publish () e, published := s.published ++ [e] } := by
  obtain ⟨he, hr⟩ := hok
  have ho : s.hubClosed = false := (hg.quiet he).2.1
  have hn : ¬ s.ended = true := by simp [he]
  refine ⟨?_, ?_, ?_, ?_, ?_⟩
  · exact fun t hc hf => absurd (h.gotRun t hc hf) hn
  · exact fun t hc hf => absurd (h.finished t hc hf).1 hn
  · grind [h.subscribed, attached_publish]
  · grind [h.live, attached_publish]
  · exact fun hc => absurd (h.done hc).1 hn

theorem attached_close {hubClosed : Bool}
    (h : Attached hub hubClosed) : Attached (hub.close ()) true := by
  refine ⟨?_, by simp⟩
  simp only [close]
  split
  · rfl
  · grind [h.closed, h.known]

theorem clientInv_closeHub (h : ClientInv s) (ends : List EndStep) :
    ClientInv { s with ends := ends, hub := s.hub.close (), hubClosed := true } := by
  have hch : ((s.hub.close ()).subs ()).ch = (s.hub.subs ()).ch := by
    simp only [close]
    split <;> rfl
  refine ⟨h.gotRun, h.finished, ?_, ?_, h.done⟩
  · grind [h.subscribed, attached_close]
  intro hc
  obtain ⟨ha, hac⟩ := h.live hc
  exact ⟨attached_close ha, hch.symm ▸ hac⟩

theorem clientInv_subscribe {t : RunStatus} (h : ClientInv s) (hc : s.client = .gotRun t)
    (hok : Orderly s .subscribe) :
    ClientInv { s with
      client := .subscribed t, hub := s.hub.subscribe () (), atSubscribe := s.published } := by
  refine ⟨by simp, ?_, ?_, by simp, by simp⟩
  · intro st' hc' hf
    cases hc'
    exact ⟨h.gotRun t hc hf, fun e he => .inl he⟩
  intro st' hc' hf
  cases hc'
  have ho : s.hubClosed = false := by
    rcases hok with ho | hr
    · exact ho
    rw [hc] at hr
    exact absurd (hf.symm.trans hr) (by simp)
  refine ⟨⟨?_, fun _ => ?_⟩, fun e he => .inl he⟩
  · rw [ho]
    simp [subscribe]
  · simp [subscribe]

theorem accounted_history {pending : List RunEvent}
    (ha : Accounted s.published s.atSubscribe pending) (hok : Orderly s .history) :
    Accounted s.published
      (s.written ++ s.writer.agentRunEvents.insertionSort fun a b => a.sequence ≤ b.sequence)
      pending := by
  intro e he
  refine (ha e he).imp_left fun hat => mem_append_right _ ?_
  exact (mem_insertionSort _).mpr (hok e hat)

theorem clientInv_history {t : RunStatus} (h : ClientInv s)
    (hc : s.client = .subscribed t) (hok : Orderly s .history) {s' : RunStream}
    (hs : step p s .history = some s') : ClientInv s' := by
  simp only [step, hc] at hs
  split at hs
  · rename_i hf
    cases hs
    obtain ⟨he, ha⟩ := h.finished t hc hf
    exact ⟨by simp, by simp, by simp, by simp, fun _ => ⟨he, accounted_history ha hok⟩⟩
  rename_i hf
  cases hs
  obtain ⟨hat, ha⟩ := h.subscribed t hc (by simpa using hf)
  exact ⟨by simp, by simp, by simp, fun _ => ⟨hat, accounted_history ha hok⟩, by simp⟩

theorem clientInv_receive (hg : GatewayInv s) (h : ClientInv s)
    (hs : step p s .receive = some s') : ClientInv s' := by
  simp only [step] at hs
  split at hs
  · rename_i e u hc hr
    cases hs
    obtain ⟨ha, hac⟩ := h.live hc
    unfold Subscriber.receive at hr
    split at hr
    · obtain ⟨rfl, rfl⟩ := hr
      refine ⟨by simp [hc], by simp [hc], by simp [hc], fun _ => ⟨⟨?_, ha.known⟩, ?_⟩, by simp [hc]⟩
      · simpa using ha.closed
      intro x hx
      rcases hac x hx with hse | hp
      · exact .inl (mem_append_left _ hse)
      · grind
    · split at hr <;> cases hr
  · rename_i u hc hr
    cases hs
    obtain ⟨ha, hac⟩ := h.live hc
    unfold Subscriber.receive at hr
    split at hr
    · cases hr
    rename_i hch
    split at hr
    · rename_i hcl
      have he : s.ended = true := by
        by_contra hno
        have ho := (hg.quiet (by simpa using hno)).2.1
        rw [ha.closed, ho] at hcl
        cases hcl
      rw [hch] at hac
      exact ⟨by simp, by simp, by simp, by simp, fun _ => ⟨he, hac⟩⟩
    · cases hr
  · cases hs

theorem clientInv_step (hg : GatewayInv s) (h : ClientInv s) (hok : Orderly s a)
    (hs : step p s a = some s') : ClientInv s' := by
  by_cases hst : isStoring a = true
  · obtain ⟨g, w, n, rfl, -⟩ := step_storing hst hs
    exact { h with }
  cases a with
  | event e => grind [step, clientInv_event]
  | spawnEnd =>
    simp only [step] at hs
    split at hs
    · cases hs
      exact { h with }
    · cases hs
  | endStep i =>
    simp only [step] at hs
    split at hs
    · cases hs
      exact { h with }
    · cases hs
      exact clientInv_closeHub h _
    · cases hs
  | getRun =>
    simp only [step] at hs
    split at hs
    · cases hs
      refine ⟨?_, by simp, by simp, by simp, by simp⟩
      -- a finished status was written by an `agent_end` goroutine
      intro t hc hf
      cases hc
      by_contra hno
      rw [(hg.quiet (by simpa [ended] using hno)).1] at hf
      cases hf
    · cases hs
  | subscribe => grind [step, clientInv_subscribe]
  | history => grind [step, clientInv_history]
  | receive => exact clientInv_receive hg h hs
  | _ => exact absurd rfl hst

/-! ## 3. Streams -/

/-- Nothing is left to do: the gateway waits for the next event, its
goroutines have ended, and the client has ended or is blocked. -/
def Settled (s : RunStream) : Prop :=
  s.gateway = .receiving ∧ s.inserts = [] ∧ s.ends = []
    ∧ (s.client = .idle ∨ s.client = .done
      ∨ (s.client = .live ∧ (s.hub.subs ()).receive = none))

/-- Every event was sent to the client, and the client's stream has ended
if the run has. -/
def Streamed (s : RunStream) : Prop :=
  (∀ e ∈ s.published, e ∈ s.written) ∧ (s.ended = true → s.client = .done)

/-- **Streams are complete and end.** In every orderly run, once nothing is
left to do, a client that has made its request has been sent every event,
and its stream has ended if the run has. -/
theorem streamed_of_orderly (p : Params) (acts : List Act) {s : RunStream}
    (hok : Along (step p) Orderly start acts) (hrun : run (step p) start acts = some s)
    (hsettled : Settled s) (hrequest : s.client ≠ .idle) : Streamed s := by
  obtain ⟨hg, hc⟩ := run_invariant_along (fun s _ _ (h : GatewayInv s ∧ ClientInv s) hok hs =>
    ⟨gatewayInv_step h.1 hok hs, clientInv_step h.1 h.2 hok hs⟩)
    ⟨gatewayInv_start, clientInv_start⟩ hok hrun
  obtain ⟨hga, -, hed, hci⟩ := hsettled
  rcases hci with hi | hd | ⟨hl, hb⟩
  · exact absurd hi hrequest
  · obtain ⟨-, ha⟩ := hc.done hd
    exact ⟨fun e he => (ha e he).resolve_right (by simp), fun _ => hd⟩
  -- a blocked client's channel is open and empty
  obtain ⟨hat, ha⟩ := hc.live hl
  have ho : (s.hub.subs ()).ch = [] ∧ (s.hub.subs ()).closed = false := by
    grind [Subscriber.receive]
  refine ⟨fun e he => (ha e he).resolve_right (by simp [ho.1]), fun hee => ?_⟩
  rcases hg.ending hee with hen | hne | hcl
  · rw [hga] at hen
    cases hen
  · exact absurd hed hne
  rw [← hat.closed, ho.2] at hcl
  cases hcl

def batching : Params :=
  { grow := fun cap => if cap = 0 then 1 else 2 * cap, hasBatchWriter := true
    hasError := fun _ => false }

def message : RunEvent :=
  { runID := (), eventType := "message_update", payload := "", sequence := 1 }

def agentEnd : RunEvent :=
  { runID := (), eventType := "agent_end", payload := "", sequence := 2 }

def handleEnd : List Act :=
  [.event agentEnd, .persist, .closeWriter, .queue 0, .send 0, .spawnEnd, .endStep 0, .endStep 0,
    .insert 0]

theorem streamed_from_start :
    ∃ s, run (step batching) start ([.getRun, .subscribe, .history, .event message, .persist]
        ++ handleEnd ++ [.receive, .receive, .receive]) = some s ∧ Streamed s := by
  refine ⟨_, rfl, streamed_of_orderly batching ([.getRun, .subscribe, .history, .event message,
    .persist] ++ handleEnd ++ [.receive, .receive, .receive]) (by decide) rfl ?_
      fun h => by cases h⟩
  exact ⟨rfl, rfl, rfl, .inr (.inl rfl)⟩

/-- Two ways to miss something. The client reads the running run, then the
run ends and the hub is closed, and only then it subscribes: its stream
never ends. Or it subscribes and replays while an event published before
is still in the batch writer: that event is never sent to it. -/
theorem not_streamed :
    (∃ s, run (step batching) start ([.event message, .persist, .getRun] ++ handleEnd
        ++ [.subscribe, .history]) = some s
      ∧ Settled s ∧ s.client ≠ .idle ∧ ¬ Streamed s) ∧
    (∃ s, run (step batching) start ([.event message, .persist, .getRun, .subscribe, .history]
        ++ handleEnd ++ [.receive, .receive]) = some s
      ∧ Settled s ∧ s.client ≠ .idle ∧ ¬ Streamed s) := by
  constructor
  · refine ⟨_, rfl, ⟨rfl, rfl, rfl, .inr (.inr ⟨rfl, rfl⟩)⟩, fun h => (by cases h), ?_⟩
    intro hs
    have hd := hs.2 rfl
    cases hd
  refine ⟨_, rfl, ⟨rfl, rfl, rfl, .inr (.inl rfl)⟩, fun h => (by cases h), ?_⟩
  intro hs
  have hm : message ∈ [agentEnd] := hs.1 message mem_cons_self
  revert hm
  decide

end Daao.Api.RunStream

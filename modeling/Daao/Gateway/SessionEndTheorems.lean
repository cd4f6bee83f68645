/-
Daao.Gateway.SessionEndTheorems — whether the gateway's cleanup of a
terminated session lasts.

The TERMINATED update overtakes the terminal data that is waiting in the
bulk channel. The gateway handles the data after the cleanup, as it would
handle a session's first data: it tracks the session, registers its stream
and makes a ring buffer, and nothing removes them before the connection
ends.
-/
import Daao.Daemon.StreamWriterTheorems
import Daao.Gateway.SessionEnd

namespace Daao.Gateway

open Daao.Lib Daao.Daemon List Option SessionMessage Outbox

abbrev SessionMessage.terminated : SessionMessage := .stateUpdate .terminated

/-- The message leaves a session that was cleaned up as it is. -/
def SessionMessage.Harmless (m : SessionMessage) : Prop := m = .terminated ∨ m = .other

namespace SessionEnd

variable {capacity : Int} {s s' : SessionEnd}

/-! ## 1. The invariant -/

structure Tidy (s : SessionEnd) : Prop where
  agent : ∀ m ∈ s.out.queue .agent, m = .other
  bulk : ∀ m ∈ s.out.queue .bulk, m.hasData = true ∨ m = .other
  /-- the end is announced by its sender first -/
  notEnded : s.ended = false → s.handled = false ∧ ∀ m ∈ s.out.line 1, m ≠ .terminated
  drained : s.ended = true → s.reading = none ∧ ∀ m ∈ s.out.queue .bulk, m.hasData = false
  /-- nothing behind a TERMINATED update brings data -/
  last : (s.out.line 1).Pairwise fun a b => a = .terminated → b.Harmless
  clean : s.handled = true → s.entry.Clean ∧ ∀ m ∈ s.out.line 1, m.Harmless

theorem tidy_start (e : SessionEntry) : (start e).Tidy where
  agent _ hm := by cases hm
  bulk _ hm := by cases hm
  notEnded _ := ⟨rfl, by intro m hm; cases hm⟩
  drained he := by cases he
  last := .nil
  clean hh := by cases hh

theorem Tidy.ended_of_handled (h : s.Tidy) (hh : s.handled = true) : s.ended = true := by
  by_contra hn
  have := (h.notEnded (by simpa using hn)).1
  simp [hh] at this

theorem Tidy.ended_of_mem (h : s.Tidy) (hm : terminated ∈ s.out.line 1) :
    s.ended = true := by
  by_contra hn
  exact (h.notEnded (by simpa using hn)).2 _ hm rfl

/-! ## 2. Enqueuing -/

structure Allowed (s : SessionEnd) (lane : Lane) (m : SessionMessage) : Prop where
  agent : lane = .agent → m = .other
  bulk : lane = .bulk → m.hasData = true ∨ m = .other
  notLast : m ≠ .terminated
  ended : s.ended = true → m = .other

variable {lane : Lane} {m : SessionMessage}

theorem line_accept {u t' : Outbox SessionMessage} (h : u.accept lane m = some t') :
    t'.queue = Function.update u.queue lane (u.queue lane ++ [m]) ∧
      t'.line 1 = u.line 1 ++ if lane = .priority then [m] else [] := by
  simp only [accept, ite_none_right_eq_some, some.injEq] at h
  obtain ⟨-, rfl⟩ := h
  refine ⟨rfl, ?_⟩
  by_cases hl : lane = .priority
  · subst hl
    simp [line]
  · grind [line, Function.update_of_ne]

theorem mem_update_append {q : Lane → List SessionMessage} {a' : Lane}
    {m' : SessionMessage} (h : m' ∈ Function.update q lane (q lane ++ [m]) a') :
    m' ∈ q a' ∨ (lane = a' ∧ m' = m) := by
  by_cases hl : a' = lane
  · subst hl
    simpa using h
  · grind

theorem tidy_enqueue (h : s.Tidy) (hm : s.Allowed lane m) :
    (s.enqueue lane m).Tidy := by
  unfold enqueue
  cases hac : s.out.accept lane m with
  | none => exact h
  | some out =>
    obtain ⟨hq, hli⟩ := line_accept hac
    have hn : ∀ m' ∈ out.line 1, m' ∈ s.out.line 1 ∨ m' = m := by grind
    simp only [getD_some]
    refine ⟨fun m' hm' => ?_, fun m' hm' => ?_, fun hno => ⟨(h.notEnded hno).1, fun m' hm' => ?_⟩,
      fun he => ⟨(h.drained he).1, fun m' hm' => ?_⟩, ?_,
      fun hh => ⟨(h.clean hh).1, fun m' hm' => ?_⟩⟩
    · simp only [hq] at hm'
      obtain hm' | ⟨hl, rfl⟩ := mem_update_append hm'
      · exact h.agent m' hm'
      · exact hm.agent hl
    · simp only [hq] at hm'
      obtain hm' | ⟨hl, rfl⟩ := mem_update_append hm'
      · exact h.bulk m' hm'
      · exact hm.bulk hl
    · obtain hm' | rfl := hn m' hm'
      · exact (h.notEnded hno).2 m' hm'
      · exact hm.notLast
    · simp only [hq] at hm'
      obtain hm' | ⟨-, rfl⟩ := mem_update_append hm'
      · exact (h.drained he).2 m' hm'
      rw [hm.ended he]
      rfl
    · -- what comes last may stand behind a TERMINATED update
      rw [hli]
      refine pairwise_append.mpr ⟨h.last, by split <;> simp, fun a ha b hb hla => ?_⟩
      subst hla
      have hb : b = m := by
        split at hb <;> simp_all
      exact .inr (hb ▸ hm.ended (h.ended_of_mem ha))
    obtain hm' | rfl := hn m' hm'
    · exact (h.clean hh).2 m' hm'
    · exact .inr (hm.ended (h.ended_of_handled hh))

theorem tidy_terminate (h : s.Tidy) (hok : s.Drained .terminate)
    (hs : s.step capacity .terminate = some s') : s'.Tidy := by
  simp only [step, map_eq_some_iff] at hs
  obtain ⟨out, ha, rfl⟩ := hs
  obtain ⟨hq, hl⟩ := line_accept ha
  have ho : ∀ lane, lane ≠ .priority → out.queue lane = s.out.queue lane := by simp_all
  refine ⟨fun m hm => ?_, fun m hm => ?_, fun hn => ?_, fun _ => ⟨hok.1, fun m hm => ?_⟩, ?_,
    fun hh => ⟨(h.clean hh).1, fun m hm => ?_⟩⟩
  · simp only [ho .agent (by decide)] at hm
    exact h.agent m hm
  · simp only [ho .bulk (by decide)] at hm
    exact h.bulk m hm
  · cases hn
  · simp only [ho .bulk (by decide)] at hm
    exact hok.2 m hm
  · rw [hl]
    refine pairwise_append.mpr ⟨h.last, pairwise_singleton .., fun a _ b hb _ => ?_⟩
    exact .inl (mem_singleton.mp hb)
  rw [hl] at hm
  obtain hm | hm := mem_append.mp hm
  · exact (h.clean hh).2 m hm
  · exact .inl (mem_singleton.mp hm)

/-! ## 3. The writer and the gateway -/

theorem Tidy.taken (h : s.Tidy) (hm : m ∈ s.out.queue lane)
    (hl : lane ≠ .priority) : m ≠ .terminated ∧ (s.ended = true → m = .other) := by
  cases lane with
  | priority => exact absurd rfl hl
  | agent => grind [h.agent]
  | bulk =>
    refine ⟨?_, fun he => ?_⟩
    · rintro rfl
      have := h.bulk _ hm
      simp [hasData] at this
    have hn := (h.drained he).2 m hm
    obtain hd | ho := h.bulk m hm
    · simp [hn] at hd
    · exact ho

theorem tidy_moveOut (h : s.Tidy) {a : Outbox.Act SessionMessage} (ha : Outbox.Move 1 a)
    (hs : s.moveOut a = some s') : s'.Tidy := by
  simp only [moveOut, map_eq_some_iff] at hs
  obtain ⟨out, hst, rfl⟩ := hs
  obtain ⟨hq, hl⟩ := line_of_move ha hst
  -- what is under way was under way before, or is a message that was taken
  have hn : ∀ m ∈ out.line 1, m ∈ s.out.line 1 ∨
      (m ≠ terminated ∧ (s.ended = true → m = .other)) := by
    intro m hm
    obtain hsu | ⟨lane, m', hm', hla, hold, hn⟩ := hl
    · exact .inl (hsu.subset hm)
    · grind [h.taken]
  refine ⟨fun m hm => h.agent m ((hq .agent).subset hm),
    fun m hm => h.bulk m ((hq .bulk).subset hm),
    fun hno => ⟨(h.notEnded hno).1, fun m hm => ?_⟩,
    fun he => ⟨(h.drained he).1, fun m hm => (h.drained he).2 m ((hq .bulk).subset hm)⟩, ?_,
    fun hh => ⟨(h.clean hh).1, fun m hm => ?_⟩⟩
  · obtain hm | ⟨hne, -⟩ := hn m hm
    · exact (h.notEnded hno).2 m hm
    · exact hne
  · obtain hsu | ⟨lane, m, hm, hla, hold, hn⟩ := hl
    · exact h.last.sublist hsu
    -- the message is let in between the wire and the priority channel
    obtain ⟨hne, ho⟩ := h.taken hm hla
    have hls := h.last
    have he := h.ended_of_mem
    rw [hold] at hls he
    rw [hn]
    obtain ⟨hw, hp, hbo⟩ := pairwise_append.mp hls
    refine pairwise_append.mpr
      ⟨hw, pairwise_cons.mpr ⟨fun b _ heq => absurd heq hne, hp⟩, fun a ha b hb heq => ?_⟩
    obtain rfl | hb := mem_cons.mp hb
    · subst heq
      exact .inr (ho (he (mem_append.mpr (.inl ha))))
    · exact hbo a ha b hb heq
  · obtain hm | ⟨-, ho⟩ := hn m hm
    · exact (h.clean hh).2 m hm
    · exact .inr (ho (h.ended_of_handled hh))

theorem clean_handle {e e' : SessionEntry} (hm : m.Harmless) (he : e.handle capacity m = some e')
    (hc : m = .terminated ∨ e.Clean) : e'.Clean := by
  obtain rfl | rfl := hm
  · simp only [SessionEntry.handle, if_true, some.injEq] at he
    subst he
    exact ⟨rfl, rfl⟩
  cases he
  exact hc.resolve_left (by simp)

theorem tidy_handle (h : s.Tidy) (hs : s.step capacity .handle = some s') : s'.Tidy := by
  simp only [step, bind_eq_some_iff, map_eq_some_iff] at hs
  obtain ⟨⟨m, out⟩, hr, e, hh, rfl⟩ := hs
  simp only [receive] at hr
  split at hr
  · cases hr
  rename_i m' r hw
  simp only [some.injEq, Prod.mk.injEq] at hr
  obtain ⟨rfl, rfl⟩ := hr
  -- the line loses its first message
  have hli : s.out.line 1
      = m' :: line { s.out with wire := Function.update s.out.wire 1 r } 1 := by
    simp [line, hw]
  have hl := h.last
  rw [hli, pairwise_cons] at hl
  refine ⟨h.agent, h.bulk, fun hn => ?_, h.drained, hl.2, fun hha => ?_⟩
  · grind [h.notEnded]
  by_cases ht : m' = .terminated
  · exact ⟨clean_handle (.inl ht) hh (.inl ht), fun m hm => hl.1 m hm ht⟩
  · grind [h.clean, clean_handle, mem_cons_self, mem_cons_of_mem]

/-! ## 4. Runs -/

theorem tidy_step (h : s.Tidy) {a : Act} (hok : s.Drained a)
    (hs : s.step capacity a = some s') : s'.Tidy := by
  cases a with
  | read d =>
    simp only [step, ite_none_right_eq_some, some.injEq] at hs
    obtain ⟨-, rfl⟩ := hs
    have hn : s.ended = false := hok
    exact ⟨h.agent, h.bulk, h.notEnded, fun he => by simp [hn] at he, h.last, h.clean⟩
  | forward =>
    simp only [step, map_eq_some_iff] at hs
    obtain ⟨d, hr, rfl⟩ := hs
    have hn : s.ended = true → False := by grind [h.drained]
    have ha : s.Allowed .bulk (.terminalData d) :=
      ⟨by simp, by simp [hasData], by simp, fun he => (hn he).elim⟩
    have hk := tidy_enqueue h ha
    exact ⟨hk.agent, hk.bulk, hk.notEnded, fun he => ⟨rfl, (hk.drained he).2⟩, hk.last, hk.clean⟩
  | replay d =>
    cases hs
    have hn : s.ended = false := hok
    exact tidy_enqueue h ⟨by simp, by simp [hasData], by simp, fun he => by simp [hn] at he⟩
  | update t =>
    simp only [step, ite_none_left_eq_some, some.injEq, not_or] at hs
    obtain ⟨⟨he, hst⟩, rfl⟩ := hs
    exact tidy_enqueue h ⟨by simp, by simp, by simp [hst], fun heq => absurd heq he⟩
  | terminate => exact tidy_terminate h hok hs
  | enqueueOther lane =>
    cases hs
    exact tidy_enqueue h ⟨fun _ => rfl, fun _ => .inr rfl, by simp, fun _ => rfl⟩
  | pass => exact tidy_moveOut h .pass hs
  | take lane => exact tidy_moveOut h (.take lane) hs
  | finish => exact tidy_moveOut h .finish hs
  | stop => exact tidy_moveOut h .stop hs
  | lose => exact tidy_moveOut h .lose hs
  | close => exact tidy_moveOut h .close hs
  | handle => exact tidy_handle h hs

def unknown : SessionEntry := { tracked := false, registered := false, buffer := none }

def orderlyEnd : List Act :=
  [.read [104, 105], .forward, .pass, .take .bulk, .finish, .terminate, .take .priority, .finish,
   .handle, .handle]

def overtakenOutput : List Act :=
  [.read [104, 105], .forward, .terminate, .take .priority, .finish, .handle,
   .pass, .take .bulk, .finish, .handle]

end SessionEnd

end Daao.Gateway

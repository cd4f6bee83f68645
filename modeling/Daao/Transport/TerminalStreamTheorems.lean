/-
Daao.Transport.TerminalStreamTheorems — which bytes a polling client gets.

The handler remembers only a LENGTH, and compares it with the length of
the buffer at each tick. That is a stream position for as long as the
buffer has not been filled (`Cursor`). Once `lastLen` is the capacity the
two lengths agree for ever, and no tick sends anything any more.
-/
import Daao.Transport.TerminalStream
import Daao.Buffer.RingTheorems

namespace Daao.Transport

open Daao.Lib Daao.Buffer List Option

/-! ## 1. The session's buffer -/

/-- The pool entry after the given bytes were written to the session. -/
def Holds (cap : Nat) (bytes : List Byte) : Option RingBuffer → Prop
  | none => bytes = []
  | some rb => ∃ r : CellRing Byte, rb = ofRing r ∧ r.cap = cap ∧ r.view = held cap (bytes.map some)

variable {cap : Nat}

theorem length_held_map (hc : 0 < cap) (bytes : List Byte) :
    (held cap (bytes.map some)).length = min cap bytes.length := by
  rw [length_held hc, sinceReset_map_some]

variable {bytes pre : List Byte}

theorem held_map_of_le (h : bytes.length ≤ cap) : held cap (bytes.map some) = bytes := by
  induction bytes using reverseRecOn with
  | nil => rfl
  | append_singleton bytes b ih =>
    have hl : bytes.length + 1 ≤ cap := by simpa using h
    rw [map_append, map_singleton, held_snoc_some, ih (by omega), keep, if_pos (by omega)]

theorem held_append (cap : Nat) (bytes d : List Byte) :
    held cap ((bytes ++ d).map some) = d.foldl (keep cap) (held cap (bytes.map some)) := by
  simp only [held, map_append, foldl_append, foldl_map]

variable {buffer : Option RingBuffer}

open CellRing

theorem holds_getOrCreateBuffer (hc : 0 < cap) (h : Holds cap bytes buffer) :
    ∃ r, getOrCreateBuffer (cap : Int) buffer = ofRing r ∧ r.cap = cap
      ∧ r.view = held cap (bytes.map some) := by
  cases buffer with
  | none =>
    refine ⟨_, newRingBuffer_eq hc, by simp [empty, CellRing.cap], ?_⟩
    rw [view_empty, show bytes = [] from h]
    rfl
  | some rb => exact h

theorem gatewayWrite_holds (hc : 0 < cap) (h : Holds cap bytes buffer) (d : List Byte) :
    ∃ b', gatewayWrite (cap : Int) buffer d = some b'
      ∧ Holds cap (bytes ++ d) b' ∧ (buffer.isSome → b'.isSome) := by
  unfold gatewayWrite
  by_cases hd : d.length > 0
  · obtain ⟨r, hr, hrc, hv⟩ := holds_getOrCreateBuffer hc h
    refine ⟨some (ofRing (d.foldl putByte r)), ?_, ⟨_, rfl, ?_, ?_⟩, fun _ => rfl⟩
    · rw [if_pos hd, hr, write, if_neg (by omega), foldlM_writeByte_ofRing]
      rfl
    · rw [cap_foldl_putByte, hrc]
    · rw [view_foldl_putByte, hrc, hv, held_append]
  · grind

theorem bufferAfter_holds (hc : 0 < cap) (c : List (List Byte)) :
    ∃ buffer, bufferAfter (cap : Int) c = some buffer ∧ Holds cap c.flatten buffer := by
  unfold bufferAfter
  induction c using reverseRecOn with
  | nil => exact ⟨none, rfl, rfl⟩
  | append_singleton c d ih =>
    obtain ⟨buffer, hr, hb⟩ := ih
    obtain ⟨b', hw, hb', -⟩ := gatewayWrite_holds hc hb d
    refine ⟨b', ?_, by simpa using hb'⟩
    simp [foldlM_append, hr, hw]

/-! ## 2. The length as a stream position -/

/-- The client attached after the bytes `pre`, and the bytes `since` have
been written since. -/
structure Cursor (cap : Nat) (pre since : List Byte) (st : TerminalStream) : Prop where
  buffer : Holds cap (pre ++ since) st.buffer
  attached : st.attached = true → st.buffer.isSome
  /-- the cursor counts the bytes sent -/
  lastLen : st.lastLen = (st.sent.flatten.length : Int)
  lastLen_le : st.sent.flatten.length ≤ min cap (pre ++ since).length
  /-- and is a position of the stream as long as the stream fits -/
  sent : (pre ++ since).length ≤ cap → st.sent.flatten <+: pre ++ since
  /-- with nothing written since the attach, the client has the snapshot -/
  idle : since = [] → st.sent.flatten = held cap (pre.map some)

theorem attach_cursor (hc : 0 < cap) (h : Holds cap pre buffer) :
    ∃ st, attach buffer = some st ∧ Cursor cap pre [] st
      ∧ st.sent.flatten = held cap (pre.map some) := by
  cases buffer with
  | none =>
    have hp : pre = [] := h
    subst hp
    exact ⟨_, rfl, ⟨rfl, by simp, rfl, by simp, by simp, fun _ => rfl⟩, rfl⟩
  | some rb =>
    obtain ⟨r, rfl, hr, hv⟩ := h
    have hl : r.len = min cap pre.length := by
      rw [← length_view, hv, length_held_map hc]
    have hs : ((if (r.len : Int) > 0 then [r.view] else []) : List (List Byte)).flatten
        = held cap (pre.map some) := by grind [length_eq_zero_iff, length_view]
    refine ⟨{ buffer := some (ofRing r), attached := true, lastLen := r.len
              sent := if (r.len : Int) > 0 then [r.view] else [] }, ?_, ?_, hs⟩
    · simp only [attach, snapshotWithLen_ofRing, bind_eq_bind, bind_some]
      split
      · rfl
      · rw [show (r.len : Int) = 0 by omega]
    have hl' : (held cap (pre.map some)).length = r.len := by rw [length_held_map hc, hl]
    refine ⟨⟨r, rfl, hr, by simpa using hv⟩, fun _ => rfl, ?_, ?_, ?_, fun _ => hs⟩
    · rw [hs, hl']
    · rw [hs, hl', hl]
      simp
    · grind [held_map_of_le, prefix_append]

variable {st : TerminalStream}

theorem write_cursor (hc : 0 < cap) {s : List Byte} (h : Cursor cap pre s st) (d : List Byte) :
    ∃ st', step (cap : Int) st (.write d) = some st' ∧ Cursor cap pre (s ++ d) st' := by
  obtain ⟨b', hw, hb, hs⟩ := gatewayWrite_holds hc h.buffer d
  rw [append_assoc] at hb
  have hl : (pre ++ s).length ≤ (pre ++ (s ++ d)).length := by simp
  refine ⟨{ st with buffer := b' }, by simp [step, hw], hb, ?_, h.lastLen, ?_, ?_, ?_⟩
  · exact fun ha => hs (h.attached ha)
  · exact h.lastLen_le.trans (by omega)
  · intro hle
    exact (h.sent (hl.trans hle)).trans ⟨d, by simp⟩
  intro hn
  exact h.idle (append_eq_nil_iff.mp hn).1

theorem tick_grown {r : CellRing Byte} (ha : st.attached = true)
    (hb : st.buffer = some (ofRing r)) (hl : st.lastLen = (st.sent.flatten.length : Int))
    (hlt : st.sent.flatten.length < r.len) :
    tick st = some { st with
      lastLen := r.len
      sent := st.sent ++ [r.view.drop st.sent.flatten.length] } := by
  have hs := goSlice_natCast r.view
    (show st.sent.flatten.length ≤ r.view.length by rw [length_view]; omega)
    (le_refl r.view.length)
  rw [take_length] at hs
  have ho : 0 < (r.view.drop st.sent.flatten.length).length := by simp_all
  simp only [tick, ha, if_true, hb, snapshotWithLen_ofRing, bind_eq_bind, bind_some, toSend, hl]
  rw [if_neg (by omega), if_pos (by omega), hs, bind_some, if_pos ho]

theorem tick_cursor (hc : 0 < cap) {since : List Byte} (h : Cursor cap pre since st) :
    ∃ st', step (cap : Int) st .tick = some st' ∧ Cursor cap pre since st'
      ∧ (st.buffer.isSome → st'.attached = true)
      ∧ (st.attached = true → st'.sent.flatten.length = min cap (pre ++ since).length) := by
  show ∃ st', tick st = some st' ∧ _
  cases ha : st.attached with
  | false =>
    refine ⟨{ st with attached := st.buffer.isSome }, by simp [tick, ha], ?_, id, by simp⟩
    exact ⟨h.buffer, id, h.lastLen, h.lastLen_le, h.sent, h.idle⟩
  | true =>
    obtain ⟨rb, hrb⟩ := isSome_iff_exists.mp (h.attached ha)
    have hb := h.buffer
    rw [hrb] at hb
    obtain ⟨r, rfl, hr, hv⟩ := hb
    have hl : r.len = min cap (pre ++ since).length := by
      rw [← length_view, hv, length_held_map hc]
    have hle := h.lastLen_le
    rcases eq_or_lt_of_le hle with heq | hlt
    · -- the lengths agree: nothing is sent
      refine ⟨st, ?_, h, fun _ => ha, fun _ => heq⟩
      simp [tick, ha, hrb, snapshotWithLen_ofRing, h.lastLen, heq, hl]
    have ht := tick_grown ha hrb h.lastLen (by omega)
    have hf : (st.sent ++ [r.view.drop st.sent.flatten.length]).flatten.length = r.len := by
      simp only [flatten_append, flatten_singleton, length_append, length_drop, length_view]
      omega
    refine ⟨_, ht, ?_, fun _ => ha, fun _ => hf.trans hl⟩
    refine ⟨?_, fun _ => by rw [hrb]; rfl, ?_, by rw [hf, hl], ?_, ?_⟩
    · rw [hrb]
      exact ⟨r, rfl, hr, hv⟩
    · rw [hf]
    · intro hfi
      obtain ⟨e, hre⟩ := h.sent hfi
      have hal : r.view = pre ++ since := by rw [hv, held_map_of_le hfi]
      rw [flatten_append, flatten_singleton, hal, ← hre, drop_left]
    -- nothing written since the attach: the cursor is not behind
    intro hn
    have hi := congrArg length (h.idle hn)
    rw [length_held_map hc] at hi
    rw [hn, append_nil] at hlt
    omega

theorem run_cursor (hc : 0 < cap) :
    ∀ a {s : List Byte} {st : TerminalStream}, Cursor cap pre s st →
      ∃ st', run (step (cap : Int)) st a = some st' ∧ Cursor cap pre (s ++ written a) st'
  | [], s, st, h => ⟨st, rfl, by simpa [written] using h⟩
  | .write d :: a, s, st, h => by
      obtain ⟨st₁, hs, h₁⟩ := write_cursor hc h d
      obtain ⟨st', hr, h'⟩ := run_cursor hc a h₁
      exact ⟨st', run_cons_eq_some.mpr ⟨st₁, hs, hr⟩, by simpa [written] using h'⟩
  | .tick :: a, s, st, h => by
      obtain ⟨st₁, hs, h₁, -⟩ := tick_cursor hc h
      obtain ⟨st', hr, h'⟩ := run_cursor hc a h₁
      exact ⟨st', run_cons_eq_some.mpr ⟨st₁, hs, hr⟩, by simpa [written] using h'⟩

/-! ## 3. Ticks with no write since the previous one -/

/-- The run ends in a tick, and nothing was written since the tick before,
or since the attach. -/
def Quiet (acts : List Act) : Prop :=
  acts = [.tick] ∨ ∃ before, acts = before ++ [.tick, .tick]

/-- No burst of writes between two ticks is longer than `cap`; `n` bytes
of the current one have been written. -/
def burstsFit (cap : Nat) : Nat → List Act → Bool
  | n, [] => n ≤ cap
  | n, .write data :: acts => burstsFit cap (n + data.length) acts
  | n, .tick :: acts => n ≤ cap && burstsFit cap 0 acts

/-- The client has the snapshot of its attach and, after it, exactly what
was written since. -/
def Delivers (cap : Nat) (pre : List (List Byte)) (acts : List Act) : Prop :=
  ∃ buffer st₀ st, bufferAfter (cap : Int) pre = some buffer ∧ attach buffer = some st₀
    ∧ run (step (cap : Int)) st₀ acts = some st
    ∧ st.sent.flatten = st₀.sent.flatten ++ written acts

theorem quiet_cursor (hc : 0 < cap) (h : Cursor cap pre [] st) {a : List Act} (hq : Quiet a) :
    ∃ st', run (step (cap : Int)) st a = some st' ∧ Cursor cap pre (written a) st'
      ∧ st'.sent.flatten.length = min cap (pre ++ written a).length := by
  rcases hq with rfl | ⟨before, rfl⟩
  · obtain ⟨st', hr, h'⟩ := run_cursor hc [.tick] h
    refine ⟨st', hr, h', ?_⟩
    rw [h'.idle rfl, length_held_map hc]
    simp [written]
  obtain ⟨st₁, hr, h₁⟩ := run_cursor hc before h
  obtain ⟨st₂, hs₂, h₂, ha, -⟩ := tick_cursor hc h₁
  obtain ⟨st₃, hs₃, h₃, -, hl⟩ := tick_cursor hc h₂
  have hw : written (before ++ [.tick, .tick]) = [] ++ written before := by simp [written]
  rw [hw]
  refine ⟨st₃, ?_, h₃, ?_⟩
  · rw [run_append, hr]
    simp [run_cons, hs₂, hs₃]
  cases hb : st₁.buffer with
  | some rb => exact hl (ha (by rw [hb]; rfl))
  | none =>
    -- no buffer yet means that nothing was ever written
    have hn : pre ++ ([] ++ written before) = [] := by
      have := h₁.buffer
      rwa [hb] at this
    have hle := h₃.lastLen_le
    rw [hn] at hle ⊢
    simpa using hle

/-- **What a polling client gets.** At a quiet tick the client has its
snapshot and everything since exactly when nothing was written since the
attach, or the buffer has never been over-filled. -/
theorem delivers_iff {cap : Nat} (hcap : 0 < cap) (pre : List (List Byte)) {acts : List Act}
    (hquiet : Quiet acts) :
    Delivers cap pre acts ↔
      written acts = [] ∨ pre.flatten.length + (written acts).length ≤ cap := by
  obtain ⟨buffer, hpr, hb⟩ := bufferAfter_holds hcap pre
  obtain ⟨st₀, ha, h₀, hs₀⟩ := attach_cursor hcap hb
  obtain ⟨st, hr, h, hl⟩ := quiet_cursor hcap h₀ hquiet
  have hd : Delivers cap pre acts ↔ st.sent.flatten = st₀.sent.flatten ++ written acts := by
    constructor
    · intro hd
      obtain ⟨buf', st₀', st', hpr', ha', hr', heq⟩ := hd
      cases hpr.symm.trans hpr'
      cases ha.symm.trans ha'
      cases hr.symm.trans hr'
      exact heq
    · exact fun heq => ⟨buffer, st₀, st, hpr, ha, hr, heq⟩
  rw [hd, hs₀]
  rw [length_append] at hl
  constructor
  · grind [length_append, length_held_map, Nat.eq_zero_or_pos, length_eq_zero_iff]
  intro hf
  rcases hf with hn | hfi
  · rw [h.idle hn, hn, append_nil]
  have hp := h.sent (by rw [length_append]; exact hfi)
  rw [held_map_of_le (by omega)]
  exact hp.eq_of_length (by rw [length_append, hl]; omega)

/-- Two bytes of scrollback and two more, in a buffer of four. -/
theorem delivers_two_and_two :
    0 < 4 ∧ Quiet [.write [0x63, 0x64], .tick, .tick]
      ∧ Delivers 4 [[0x61, 0x62]] [.write [0x63, 0x64], .tick, .tick] := by
  have hq : Quiet [.write [0x63, 0x64], .tick, .tick] := .inr ⟨[.write [0x63, 0x64]], rfl⟩
  exact ⟨by decide, hq, (delivers_iff (by decide) _ hq).mpr (.inr (by decide))⟩

/-- Capacity 4, `abcd` before the attach, then `e`: the client never gets
it, although the burst is one byte long. -/
theorem not_delivers_when_full :
    Quiet [.write [0x65], .tick, .tick] ∧ burstsFit 4 0 [.write [0x65], .tick, .tick] = true
      ∧ ¬ Delivers 4 [[0x61, 0x62, 0x63, 0x64]] [.write [0x65], .tick, .tick] := by
  refine ⟨.inr ⟨[.write [0x65]], rfl⟩, by decide, ?_⟩
  intro hd
  obtain ⟨buffer, st₀, st, hp, ha, hr, heq⟩ := hd
  cases hp
  cases ha
  cases hr
  revert heq
  decide

end Daao.Transport

/-
Daao.Transport.TerminalClientTheorems — when the notice of a session's end
is true, and when a terminal shows its session's output.

Both rest on the cursor of `Daao.Transport.TerminalStreamTheorems`. A tick
that is ahead of the poll, a failed look-up and a client that comes too
late are the ways to an untrue notice. Every connection begins with the
whole buffer, so the terminal shows the output once just as long as
nothing is shown before the last connection is made.
-/
import Daao.Transport.TerminalClient
import Daao.Transport.TerminalStreamTheorems

namespace Daao.Transport

open Daao.Lib Daao.Buffer List Option

theorem sent_eq_of_caughtUp {cap : Nat} {p since : List Byte} {st : TerminalStream}
    (h : Cursor cap p since st) (hf : (p ++ since).length ≤ cap) (hc : st.CaughtUp) :
    st.sent.flatten = p ++ since := by
  obtain ⟨-, rb, hrb, hle⟩ := hc
  have hb := h.buffer
  rw [hrb] at hb
  obtain ⟨r, rfl, -, hv⟩ := hb
  rw [held_map_of_le hf] at hv
  refine (h.sent hf).eq_of_length ?_
  have hl : (st.sent.flatten.length : Int) = (r.len : Int) := by
    rw [← h.lastLen, ← hle]
    rfl
  rw [← hv, CellRing.length_view]
  exact_mod_cast hl

/-! ## 1. The end of the session -/

namespace Watch

def Tracks (cap : Nat) (s : Watch) : Prop :=
  match s.phase with
  | .connecting => s.ended.isSome = true ∨ (s.orphaned = false ∧ s.stream.attached = false ∧
      Holds cap s.written s.stream.buffer)
  | .attaching => s.orphaned = false ∧ s.stream.attached = false ∧
      Holds cap s.written s.stream.buffer
  | .polling => ∃ pre since, Cursor cap pre since s.stream ∧ (pre ++ since).length ≤ cap ∧
      s.output <+: pre ++ since ∧ (s.orphaned = false → s.written = pre ++ since) ∧
      (s.orphaned = true → s.ended.isSome = true)
  | .closed => True

/-- The invariant. A session that ended without output needs none. -/
def Inv (cap : Nat) (s : Watch) : Prop :=
  s.output <+: s.written ∧ s.written.length ≤ cap ∧
    ((s.ended.isSome = true ∧ s.output = []) ∨ s.Tracks cap)

theorem start_inv (cap : Nat) : Inv cap start :=
  ⟨prefix_rfl, Nat.zero_le _, .inr (.inr ⟨rfl, rfl, rfl⟩)⟩

variable {s s' : Watch}

theorem getD_ended (he : s.ended.isSome = true) (w : List Byte) :
    s.ended.getD w = s.output := by
  obtain ⟨u, ho⟩ := isSome_iff_exists.mp he
  simp [output, ho]

theorem isPrefix_getD_ended (ho : s.output <+: s.written) (data : List Byte) :
    s.ended.getD (s.written ++ data) <+: s.written ++ data := by
  cases h : s.ended with
  | none => exact prefix_rfl
  | some u => grind [getD_ended]

variable {cap : Nat}

theorem tracks_write (hca : 0 < cap) (ho : s.orphaned = false) (hs : s.Tracks cap)
    {d : List Byte} (hf : (s.written ++ d).length ≤ cap) {buffer : Option RingBuffer}
    (hw : gatewayWrite (cap : Int) s.stream.buffer d = some buffer) :
    Tracks cap { s with stream := { s.stream with buffer := buffer }
                        written := s.written ++ d } := by
  have hh (h : Holds cap s.written s.stream.buffer) : Holds cap (s.written ++ d) buffer := by
    obtain ⟨b', hw', hb, -⟩ := gatewayWrite_holds hca h d
    cases hw.symm.trans hw'
    exact hb
  unfold Tracks at hs ⊢
  simp only
  split at hs
  · grind
  · grind
  · obtain ⟨p, i, hc, -, hou, hwr, -⟩ := hs
    have hwr := hwr ho
    obtain ⟨st', hst', hc'⟩ := write_cursor hca hc d
    have hst : st' = { s.stream with buffer := buffer } := by
      simpa [Transport.step, hw] using hst'.symm
    subst hst
    have ha : s.written ++ d = p ++ (i ++ d) := by
      rw [hwr, append_assoc]
    refine ⟨p, i ++ d, hc', ha ▸ hf, ?_, fun _ => ha, ?_⟩
    · rw [← ha]
      exact isPrefix_getD_ended (hwr ▸ hou) d
    intro h
    simp [ho] at h
  · trivial

theorem tracks_write_orphaned (ho : s.orphaned = true) (hs : s.Tracks cap)
    (d : List Byte) : Tracks cap { s with written := s.written ++ d } := by
  unfold Tracks at hs ⊢
  simp only
  split at hs
  · grind
  · rw [ho] at hs
    cases hs.1
  · obtain ⟨p, i, hc, hf, hou, -, he⟩ := hs
    refine ⟨p, i, hc, hf, ?_, fun h => ?_, he⟩
    · change s.ended.getD (s.written ++ d) <+: p ++ i
      rw [getD_ended (he ho)]
      exact hou
    · simp [ho] at h
  · trivial

theorem inv_write (hc : 0 < cap) (hs : Inv cap s) {d : List Byte}
    (hf : (s.written ++ d).length ≤ cap)
    (hst : step (cap : Int) s (.write d) = some s') : Inv cap s' := by
  obtain ⟨hou, -, ht⟩ := hs
  simp only [step] at hst
  split at hst
  · rename_i ho
    cases hst
    refine ⟨isPrefix_getD_ended hou d, hf, ?_⟩
    rcases ht with ⟨he, hn⟩ | ht
    · exact .inl ⟨he, (getD_ended he _).trans hn⟩
    · exact .inr (tracks_write_orphaned ho ht d)
  rename_i ho
  obtain ⟨b, hw, rfl⟩ := map_eq_some_iff.mp hst
  refine ⟨isPrefix_getD_ended hou d, hf, ?_⟩
  rcases ht with ⟨he, hn⟩ | ht
  · exact .inl ⟨he, (getD_ended he _).trans hn⟩
  · exact .inr (tracks_write hc (by simpa using ho) ht hf hw)

theorem inv_terminate (hs : Inv cap s) : Inv cap { s with ended := some s.output } := by
  obtain ⟨ho, hf, ht⟩ := hs
  refine ⟨ho, hf, ?_⟩
  rcases ht with ⟨-, hn⟩ | ht
  · exact .inl ⟨rfl, hn⟩
  right
  unfold Tracks at ht ⊢
  simp only
  split at ht
  · exact .inl rfl
  · exact ht
  · obtain ⟨p, i, hc, hca, hp, hw, -⟩ := ht
    exact ⟨p, i, hc, hca, hp, hw, fun _ => rfl⟩
  · trivial

theorem inv_removeBuffer (hs : Inv cap s)
    (hok : Settled cap s .removeBuffer) (hst : step (cap : Int) s .removeBuffer = some s') :
    Inv cap s' := by
  obtain ⟨ho, hf, ht⟩ := hs
  obtain ⟨he, hw⟩ := hok
  simp only [step] at hst
  split at hst
  · cases hst
    refine ⟨ho, hf, ht.imp id fun ht => ?_⟩
    unfold Tracks at ht ⊢
    simp only
    split at ht
    · exact .inl he
    · grind
    · obtain ⟨p, i, hc, hca, hpr, -, -⟩ := ht
      exact ⟨p, i, hc, hca, hpr, nofun, fun _ => he⟩
    · trivial
  · rename_i ha
    cases hst
    refine ⟨ho, hf, ?_⟩
    rcases hw with hp | hp | hat | hn
    · exact .inr (by simp [Tracks, hp, he])
    · exact .inr (by simp [Tracks, hp])
    · exact absurd hat ha
    · exact .inl ⟨he, hn⟩

theorem inv_step (hca : 0 < cap) {a : Act} (hs : Inv cap s)
    (hok : Settled cap s a) (hse : step (cap : Int) s a = some s') : Inv cap s' := by
  cases a with
  | write d => exact inv_write hca hs hok hse
  | terminate =>
    cases hse
    exact inv_terminate hs
  | removeBuffer => exact inv_removeBuffer hs hok hse
  | lookUp f =>
    obtain ⟨hou, hf, ht⟩ := hs
    simp only [step] at hse
    split at hse <;> cases hse
    refine ⟨hou, hf, ht.imp id fun ht => ?_⟩
    cases he : s.ended with
    | some u => simp [Tracks]
    | none => grind [Tracks]
  | attach =>
    obtain ⟨hou, hf, ht⟩ := hs
    simp only [step] at hse
    split at hse
    · rename_i hp
      obtain ⟨t, ha, rfl⟩ := map_eq_some_iff.mp hse
      refine ⟨hou, hf, ht.imp id fun ht => ?_⟩
      simp only [Tracks, hp] at ht
      obtain ⟨ho, -, hh⟩ := ht
      obtain ⟨st, hst, hc, -⟩ := attach_cursor hca hh
      cases ha.symm.trans hst
      rw [← append_nil s.written] at hou hf
      refine ⟨s.written, [], hc, hf, hou, fun _ => (append_nil _).symm, fun h => ?_⟩
      simp [ho] at h
    · cases hse
  | pollTick =>
    obtain ⟨hou, hf, ht⟩ := hs
    simp only [step] at hse
    split at hse
    · rename_i hp
      obtain ⟨t, hti, rfl⟩ := map_eq_some_iff.mp hse
      refine ⟨hou, hf, ht.imp id fun ht => ?_⟩
      simp only [Tracks, hp] at ht ⊢
      obtain ⟨p, i, hc, hr⟩ := ht
      obtain ⟨st, hst, hc', -⟩ := tick_cursor hca hc
      cases hti.symm.trans hst
      exact ⟨p, i, hc', hr⟩
    · cases hse
  | stateTick f =>
    obtain ⟨hou, hf, ht⟩ := hs
    simp only [step] at hse
    split at hse <;> cases hse
    split
    · exact ⟨hou, hf, .inr trivial⟩
    · exact ⟨hou, hf, ht⟩

theorem noticeTrue_of_inv {a : Act} (hs : Inv cap s) (hok : Settled cap s a) : NoticeTrue s a := by
  obtain ⟨-, -, ht⟩ := hs
  intro hse
  cases a with
  | lookUp f =>
    simp only [sendsTerminated, Bool.and_eq_true, decide_eq_true_eq] at hse
    refine ⟨hse.2, ?_⟩
    rw [hok hse.1.1 hse.2]
    exact nil_prefix
  | stateTick f =>
    simp only [sendsTerminated, Bool.and_eq_true, Bool.or_eq_true, decide_eq_true_eq] at hse
    obtain ⟨hf, hst⟩ := hok
    have he : s.ended.isSome = true := hse.2.elim hf id
    refine ⟨he, ?_⟩
    rcases hst he with hn | hc
    · rw [hn]
      exact nil_prefix
    · grind [Tracks, sent_eq_of_caughtUp]
  | _ => cases hse

/-- **Notices.** In every run whose steps all meet `Settled`, every notice
of the session's end is true. -/
theorem notices_true {cap : Nat} (hcap : 0 < cap) (acts : List Act)
    (hok : Along (step (cap : Int)) (Settled cap) start acts) :
    Along (step (cap : Int)) NoticeTrue start acts := by
  exact along_of_invariant (fun _ _ _ => inv_step hcap) (fun _ _ => noticeTrue_of_inv)
    (start_inv cap) hok

def quietEnd : List Act :=
  [.lookUp false, .attach, .write [0x61], .pollTick, .pollTick, .terminate, .removeBuffer,
   .stateTick false]

theorem notices_true_quietEnd :
    0 < 8 ∧ Along (step 8) (Settled 8) start quietEnd ∧ Along (step 8) NoticeTrue start quietEnd :=
  have hok : Along (step 8) (Settled 8) start quietEnd := by decide
  ⟨by decide, hok, notices_true (by decide) quietEnd hok⟩

/-- A look-up that fails while the session runs; and an end that is found
before the last byte has been polled. -/
theorem notices_untrue :
    ¬ Along (step 8) NoticeTrue start [.lookUp false, .attach, .stateTick true] ∧
      ¬ Along (step 8) NoticeTrue start
        [.lookUp false, .attach, .write [0x61], .pollTick, .pollTick, .write [0x62], .terminate,
         .stateTick false] := by
  decide

end Watch

/-! ## 2. Reconnects -/

namespace TermView

structure Inv (cap : Nat) (s : TermView) : Prop where
  buffer : Holds cap s.output s.stream.buffer
  fits : s.output.length ≤ cap
  shown : s.screen <+: s.output
  cursor : s.connected = true → ∃ pre since, Cursor cap pre since s.stream ∧
    s.output = pre ++ since ∧ s.delivered ≤ s.stream.sent.length ∧
    s.screen = (s.stream.sent.take s.delivered).flatten

theorem start_inv (cap : Nat) : Inv cap start := ⟨rfl, Nat.zero_le _, prefix_rfl, nofun⟩

variable {cap : Nat} {s s' : TermView}

theorem inv_write (hca : 0 < cap) (hs : Inv cap s)
    {d : List Byte} (hf : (s.output ++ d).length ≤ cap)
    (hse : step (cap : Int) s (.write d) = some s') : Inv cap s' := by
  obtain ⟨buffer, hw, rfl⟩ := map_eq_some_iff.mp hse
  obtain ⟨b', hw', hb, -⟩ := gatewayWrite_holds hca hs.buffer d
  cases hw.symm.trans hw'
  refine ⟨hb, hf, hs.shown.trans (prefix_append _ _), fun hco => ?_⟩
  obtain ⟨p, i, hc, ho, hd, hsc⟩ := hs.cursor hco
  obtain ⟨st', hst', hc'⟩ := write_cursor hca hc d
  have hst : st' = { s.stream with buffer := buffer } := by
    simpa [Transport.step, hw] using hst'.symm
  subst hst
  refine ⟨p, i ++ d, hc', ?_, hd, hsc⟩
  simp [ho]

theorem inv_connect (hca : 0 < cap) (hs : Inv cap s)
    (hbl : s.screen = []) (hse : step (cap : Int) s .connect = some s') : Inv cap s' := by
  simp only [step] at hse
  split at hse
  · cases hse
  obtain ⟨t, ha, rfl⟩ := map_eq_some_iff.mp hse
  obtain ⟨st, hst, hc, -⟩ := attach_cursor hca hs.buffer
  cases ha.symm.trans hst
  have hb := hc.buffer
  rw [append_nil] at hb
  refine ⟨hb, hs.fits, hs.shown, fun _ => ⟨s.output, [], hc, ?_, Nat.zero_le _, ?_⟩⟩
  · exact (append_nil _).symm
  · simpa using hbl

theorem sent_prefix_tick {st st' : TerminalStream} (h : tick st = some st') :
    st.sent <+: st'.sent := by
  unfold tick at h
  split at h
  · simp only [bind_eq_bind, bind_eq_some_iff] at h
    obtain ⟨rb, -, ⟨n, e⟩, -, h⟩ := h
    by_cases hs : e = st.lastLen
    · grind
    simp only [hs, if_false, bind_eq_some_iff] at h
    obtain ⟨u, -, h⟩ := h
    split at h
    · cases h
      exact prefix_append _ _
    cases h
    exact prefix_rfl
  · cases h
    exact prefix_rfl

theorem inv_pollTick (hca : 0 < cap) (hs : Inv cap s)
    (hse : step (cap : Int) s .pollTick = some s') : Inv cap s' := by
  simp only [step] at hse
  split at hse
  · rename_i hco
    obtain ⟨t, ht, rfl⟩ := map_eq_some_iff.mp hse
    obtain ⟨p, i, hc, ho, hd, hsc⟩ := hs.cursor hco
    obtain ⟨st, hst, hc', -⟩ := tick_cursor hca hc
    cases ht.symm.trans hst
    obtain ⟨m, hm⟩ := sent_prefix_tick ht
    refine ⟨ho ▸ hc'.buffer, hs.fits, hs.shown, fun _ => ?_⟩
    refine ⟨p, i, hc', ho, ?_, ?_⟩
    · grind
    · grind
  · cases hse

theorem inv_deliver (hs : Inv cap s) (hst : step (cap : Int) s .deliver = some s') :
    Inv cap s' := by
  simp only [step] at hst
  split at hst
  · rename_i hco
    obtain ⟨d, hd, rfl⟩ := map_eq_some_iff.mp hst
    obtain ⟨p, i, hc, ho, -, hsc⟩ := hs.cursor hco
    have hlt : s.delivered < s.stream.sent.length := (List.getElem?_eq_some_iff.mp hd).1
    have hsc' : s.screen ++ d = (s.stream.sent.take (s.delivered + 1)).flatten := by
      rw [take_add_one, hd, flatten_append, ← hsc]
      simp
    have hse : s.stream.sent.flatten <+: s.output := by
      rw [ho]
      exact hc.sent (ho ▸ hs.fits)
    refine ⟨hs.buffer, hs.fits, ?_, fun _ => ⟨p, i, hc, ho, hlt, hsc'⟩⟩
    · simp only [hsc']
      refine trans ?_ hse
      conv_rhs => rw [← take_append_drop (s.delivered + 1) s.stream.sent]
      rw [flatten_append]
      exact prefix_append _ _
  · cases hst

theorem inv_step (hc : 0 < cap) {a : Act} (hs : Inv cap s)
    (hf : Fits cap s a) (hb : ConnectsBlank s a) (hst : step (cap : Int) s a = some s') :
    Inv cap s' := by
  cases a with
  | write d => exact inv_write hc hs hf hst
  | connect => exact inv_connect hc hs hb hst
  | pollTick => exact inv_pollTick hc hs hst
  | deliver => exact inv_deliver hs hst
  | disconnect =>
    simp only [step] at hst
    split at hst <;> cases hst
    exact ⟨hs.buffer, hs.fits, hs.shown, nofun⟩

theorem shows_of_inv (hs : Inv cap s) : s.Shows := by
  refine ⟨hs.shown, fun hi => ?_⟩
  obtain ⟨hc, hd, hse⟩ := hi
  obtain ⟨p, i, hcu, ho, -, hsc⟩ := hs.cursor hc
  rcases hse with hn | hca
  · -- no buffer, so no output
    have he := hs.buffer
    rw [hn] at he
    have hni : s.output = [] := he
    have hsh := hs.shown
    rw [hni] at hsh
    rw [hni, prefix_nil.mp hsh]
  rw [hsc, hd, take_length, ho]
  exact sent_eq_of_caughtUp hcu (ho ▸ hs.fits) hca

/-- **The terminal.** If the output fits the buffer, the terminal shows it
in every state of a run whose connections are all made on a blank
terminal. -/
theorem shows_of_connectsBlank {cap : Nat} (hcap : 0 < cap) (acts : List Act)
    (hfits : Along (step (cap : Int)) (Fits cap) start acts)
    (hblank : Along (step (cap : Int)) ConnectsBlank start acts) :
    ∀ s ∈ states (step (cap : Int)) start acts, s.Shows := by
  intro s hs
  exact shows_of_inv (forall_states_of_along (fun _ _ _ hs hok => inv_step hcap hs hok.1 hok.2)
    (start_inv cap) (along_and hfits hblank) s hs)

def lostEarly : List Act :=
  [.connect, .write [0x61], .disconnect, .connect, .write [0x62], .deliver, .pollTick, .deliver]

theorem shows_lostEarly :
    0 < 8 ∧ Along (step 8) (Fits 8) start lostEarly ∧
      Along (step 8) ConnectsBlank start lostEarly ∧
      ∀ s ∈ states (step 8) start lostEarly, s.Shows :=
  have hf : Along (step 8) (Fits 8) start lostEarly := by decide
  have hb : Along (step 8) ConnectsBlank start lostEarly := by decide
  ⟨by decide, hf, hb, shows_of_connectsBlank (by decide) lostEarly hf hb⟩

/-- One reconnect: the terminal shows the output twice. -/
theorem reconnect_shows_twice :
    ∃ s ∈ run (step 8) start [.write [0x61, 0x62], .connect, .deliver, .disconnect, .connect,
      .deliver],
      s.screen = [0x61, 0x62, 0x61, 0x62] ∧ s.output = [0x61, 0x62] ∧ ¬ s.Shows := by
  refine ⟨_, rfl, rfl, rfl, fun h => ?_⟩
  have hl := h.1.length_le
  revert hl
  decide

end TermView

end Daao.Transport

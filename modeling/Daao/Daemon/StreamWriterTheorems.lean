/-
Daao.Daemon.StreamWriterTheorems — what becomes of the control messages
the daemon has accepted.

A message that is taken for a connection whose stream has ended is gone,
and the writer of such a connection keeps taking messages until it fails
to send one or happens to pick its cancelled context. `Orderly` is the
invariant: only the last connection has a writer, and if its stream has
ended there is no control message left for it to lose.
-/
import Daao.Daemon.StreamWriter

namespace Daao.Daemon.Outbox

open Daao.Lib Option Function

variable {M : Type} {s s' : Outbox M}

/-! ## 1. One writer -/

structure Orderly (s : Outbox M) : Prop where
  only : ∀ c, c ≠ s.conn → s.writers c = .off
  /-- a dead connection's writer has no control message to lose -/
  nothingToLose : s.alive = false → s.writers s.conn ≠ .off →
    s.queue .priority = [] ∧ (s.writers s.conn).held .priority = []
  noneFailed : s.failed .priority = []
  line : s.accepted .priority
    = s.sent .priority ++ (s.writers s.conn).held .priority ++ s.queue .priority
  notStrayed : s.strayed = false

theorem orderly_start : (start : Outbox M).Orderly where
  only _ _ := rfl
  nothingToLose _ hr := absurd rfl hr
  noneFailed := rfl
  line := rfl
  notStrayed := rfl

open Writer

section

variable (h : ∀ c, c ≠ s.conn → s.writers c = .off)

include h

theorem held_eq_of_only (lane : Lane) : s.held lane = (s.writers s.conn).held lane := by
  have he : (List.range s.conn).flatMap (fun c => (s.writers c).held lane) = [] := by
    rw [List.flatMap_eq_nil_iff]
    intro c hc
    rw [h c (Nat.ne_of_lt (List.mem_range.mp hc))]
    rfl
  simp [held, List.range_succ, he]

theorem strays_eq_false_of_only : s.strays s.conn = false := by
  have hn : (List.range (s.conn + 1)).any
      (fun c' => c' ≠ s.conn && (s.writers c').running) = false := by
    rw [List.any_eq_false]
    intro c' _
    by_cases hc' : c' = s.conn
    · simp [hc']
    · simp [h c' hc', running]
  rw [strays, hn, Bool.and_false]

theorem only_setWriter (w : Writer M) :
    ∀ c, c ≠ s.conn → (s.setWriter s.conn w).writers c = .off := by
  intro c hc
  simpa [setWriter, update_of_ne hc] using h c hc

end

section

variable (h : s.Orderly)

include h

variable {c : Nat}

theorem Orderly.eq_conn (hc : s.writers c ≠ .off) : c = s.conn := by
  by_contra hne
  exact hc (h.only c hne)

theorem Orderly.delivering : s.Delivering :=
  ⟨h.noneFailed, by rw [held_eq_of_only h.only, h.line], h.notStrayed⟩

/-! ## 2. Steps

The writer of the last connection is the only one that moves, so each
step is about that writer. -/

theorem Orderly.setWriter {w : Writer M} (hh : w.held .priority = (s.writers s.conn).held .priority)
    (ho : s.writers s.conn ≠ .off) : (s.setWriter s.conn w).Orderly where
  only := only_setWriter h.only w
  nothingToLose hd _ := by
    simpa [Outbox.setWriter, hh] using h.nothingToLose hd ho
  noneFailed := h.noneFailed
  line := by simpa [Outbox.setWriter, hh] using h.line
  notStrayed := h.notStrayed

theorem orderly_accept {lane : Lane} {m : M}
    (hok : s.Sheltered (.accept lane m)) (hs : s.accept lane m = some s') : s'.Orderly := by
  simp only [accept, ite_none_right_eq_some, some.injEq] at hs
  obtain ⟨-, rfl⟩ := hs
  by_cases hl : lane = .priority
  · subst hl
    refine ⟨h.only, fun hd ho => ?_, h.noneFailed, ?_, h.notStrayed⟩
    · -- every running writer has a live connection, and this one has not
      have ha := hok s.conn (Nat.le_refl s.conn)
        (by cases hw : s.writers s.conn <;> first | exact absurd hw ho | rfl)
      have hd : s.alive = false := hd
      simp [isAlive, hd] at ha
    · simp [h.line]
  have hne : Lane.priority ≠ lane := fun heq => hl heq.symm
  refine ⟨h.only, fun hd ho => ?_, h.noneFailed, ?_, h.notStrayed⟩
  · simpa [update_of_ne hne] using h.nothingToLose hd ho
  · simpa [update_of_ne hne] using h.line

theorem orderly_connect (hok : s.Sheltered .connect) (hs : s.connect = some s') : s'.Orderly := by
  have ho : s.writers s.conn = .off := by
    have hn := hok s.conn (Nat.le_refl s.conn)
    cases hw : s.writers s.conn <;> first | rfl | simp [hw, running] at hn
  simp only [connect, ite_none_left_eq_some, some.injEq] at hs
  obtain ⟨-, rfl⟩ := hs
  refine ⟨fun c hc => ?_, fun hd => absurd hd (by simp [setWriter]), h.noneFailed, ?_, h.notStrayed⟩
  · have hne : c ≠ s.conn + 1 := hc
    simp only [setWriter, update_of_ne hne]
    by_cases heq : c = s.conn
    · rw [heq, ho]
    · exact h.only c heq
  -- the old writer had returned, so nothing was being sent
  have hl := h.line
  rw [ho] at hl
  simpa [setWriter, Writer.held] using hl

theorem orderly_lose (hok : s.Sheltered .lose) :
    { s with alive := false }.Orderly where
  only := h.only
  nothingToLose _ _ := ⟨hok.1, by rw [← held_eq_of_only h.only]; exact hok.2⟩
  noneFailed := h.noneFailed
  line := h.line
  notStrayed := h.notStrayed

theorem orderly_pass (hs : s.pass c = some s') : s'.Orderly := by
  simp only [pass] at hs
  split at hs
  · rename_i ht _
    cases hs
    have ho : s.writers c ≠ .off := by simp [ht]
    obtain rfl := h.eq_conn ho
    exact h.setWriter (by rw [ht]; rfl) ho
  · cases hs

theorem orderly_take {a : Lane} (hs : s.take c a = some s') : s'.Orderly := by
  simp only [take, ite_none_right_eq_some] at hs
  obtain ⟨hm, hs⟩ := hs
  split at hs
  · cases hs
  rename_i m r hq
  cases hs
  have ho : s.writers c ≠ .off := by
    intro ho
    simp [ho, mayTake] at hm
  have hn : (s.writers c).held .priority = [] := by
    cases hw : s.writers c with
    | sending n' m' => simp [hw, mayTake] at hm
    | off | top | waiting => rfl
  obtain rfl := h.eq_conn ho
  refine ⟨only_setWriter h.only _, fun hd _ => ?_, h.noneFailed, ?_, ?_⟩
  · -- the queue of a dead connection's writer has no control message
    have he := (h.nothingToLose hd ho).1
    have hl : a ≠ .priority := by grind
    simp [setWriter, Writer.held, hl, update_of_ne hl.symm, he]
  · have hli := h.line
    rw [hn] at hli
    by_cases hl : a = .priority
    · subst hl
      simp [setWriter, Writer.held, hli, hq]
    · simp [setWriter, Writer.held, hl, update_of_ne (symm hl), hli]
  · simp [setWriter, h.notStrayed, strays_eq_false_of_only h.only]

theorem orderly_finish (hs : s.finish c = some s') : s'.Orderly := by
  simp only [finish] at hs
  split at hs
  · rename_i a m hse
    have ho : s.writers c ≠ .off := by simp [hse]
    obtain rfl := h.eq_conn ho
    have hli := h.line
    rw [hse] at hli
    by_cases ha : s.alive = true
    · simp only [isAlive, ha, decide_true, Bool.and_self, if_true, some.injEq] at hs
      subst hs
      refine ⟨only_setWriter h.only _, fun hd => ?_, h.noneFailed, ?_, h.notStrayed⟩
      · cases hd
      by_cases hl : a = .priority
      · subst hl
        simpa [setWriter, Writer.held] using hli
      simpa [setWriter, Writer.held, hl, update_of_ne (symm hl)] using hli
    · -- on a dead connection it was not a control message
      have hd : s.alive = false := by simpa using ha
      have hn := (h.nothingToLose hd ho).2
      have hl : a ≠ .priority := by
        rintro rfl
        simp [hse, Writer.held] at hn
      simp only [isAlive, hd, Bool.and_false, Bool.false_eq_true, if_false, some.injEq] at hs
      subst hs
      refine ⟨only_setWriter h.only _, fun _ ho => ?_, ?_, ?_, h.notStrayed⟩
      · simp [setWriter] at ho
      · simpa [setWriter, update_of_ne hl.symm] using h.noneFailed
      · simpa [setWriter, Writer.held, hl] using hli
  · cases hs

theorem orderly_stop (hs : s.stop c = some s') : s'.Orderly := by
  simp only [stop] at hs
  split at hs
  · rename_i hw
    simp only [ite_none_right_eq_some, some.injEq] at hs
    obtain ⟨-, rfl⟩ := hs
    have ho : s.writers c ≠ .off := by simp [hw]
    obtain rfl := h.eq_conn ho
    exact h.setWriter (by rw [hw]; rfl) ho
  · cases hs

theorem Orderly.of_wire (wire : Nat → List M) (receiving : Bool) :
    { s with wire := wire, receiving := receiving }.Orderly :=
  ⟨h.only, h.nothingToLose, h.noneFailed, h.line, h.notStrayed⟩

theorem orderly_step {a : Act M} (hok : s.Sheltered a) (hs : s.step a = some s') : s'.Orderly := by
  cases a with
  | accept n m => exact orderly_accept h hok hs
  | connect => exact orderly_connect h hok hs
  | lose =>
    simp only [step, ite_none_right_eq_some, some.injEq] at hs
    obtain ⟨-, rfl⟩ := hs
    exact orderly_lose h hok
  | close =>
    simp only [step, close, ite_none_right_eq_some, some.injEq] at hs
    obtain ⟨-, rfl⟩ := hs
    exact h.of_wire s.wire false
  | pass c => exact orderly_pass h hs
  | take c n => exact orderly_take h hs
  | finish c => exact orderly_finish h hs
  | stop c => exact orderly_stop h hs
  | receive c => grind [step, receive, h.of_wire]

end

/-! ## 3. Runs -/

/-- In every run whose acts are sheltered, no accepted control message is
lost or overtaken. -/
theorem delivering_of_sheltered (acts : List (Act M)) (hacts : Along step Sheltered start acts) :
    ∀ s ∈ states step (start : Outbox M) acts, s.Delivering := by
  intro s hs
  have ho := forall_states_of_along (fun _ _ _ h => orderly_step h) orderly_start hacts s hs
  exact ho.delivering

def quietReconnect : List (Act Nat) :=
  [.connect, .accept .priority 1, .take 1 .priority, .finish 1, .pass 1, .accept .bulk 7, .lose,
   .take 1 .bulk, .finish 1, .close, .connect, .accept .priority 2, .take 2 .priority, .finish 2]

theorem delivering_quietReconnect :
    Along step Sheltered (start : Outbox Nat) quietReconnect ∧
      (run step (start : Outbox Nat) quietReconnect).map (fun s => s.sent .priority) = some [1, 2] ∧
      ∀ s ∈ states step (start : Outbox Nat) quietReconnect, s.Delivering :=
  ⟨by decide, by decide, delivering_of_sheltered quietReconnect (by decide)⟩

def endsInSend : List (Act Nat) :=
  [.connect, .accept .priority 1, .take 1 .priority, .lose, .finish 1]

/-- The writer of the first connection, in its second `select` since before
that connection was lost, takes a message that the second connection's
writer would have sent, and the second connection sends the next one. -/
def oldWriterTakes : List (Act Nat) :=
  [.connect, .pass 1, .lose, .close, .connect, .accept .priority 1, .accept .priority 2,
   .take 1 .priority, .take 2 .priority, .finish 2, .finish 1]

/-- Accepted control messages are lost: at the end of a connection, and to
the writer of a dead connection while a live one is there. -/
theorem control_messages_lost :
    (run step (start : Outbox Nat) endsInSend).map
        (fun s => (s.accepted .priority, s.sent .priority, s.failed .priority))
      = some ([1], [], [1]) ∧ (run step (start : Outbox Nat) oldWriterTakes).map
        (fun s => (s.accepted .priority, s.sent .priority, s.failed .priority, s.alive, s.strayed))
      = some ([1, 2], [2], [1], true, true) ∧
    ¬ (∀ s ∈ states step (start : Outbox Nat) endsInSend, s.Delivering) ∧
    ¬ (∀ s ∈ states step (start : Outbox Nat) oldWriterTakes, s.Delivering) := by
  decide

/-! ## 4. What is under way on a connection -/

/-- What a step can do to the line of connection `c`: leave out some of it,
or put a message that is not from the priority channel behind what is on
the wire. -/
def LineMoves (c : Nat) (s s' : Outbox M) : Prop :=
  (s'.line c).Sublist (s.line c) ∨
    ∃ lane, ∃ m ∈ s.queue lane, lane ≠ .priority ∧ s.line c = s.wire c ++ s.queue .priority ∧
      s'.line c = s.wire c ++ m :: s.queue .priority

/-- The steps of the writer of connection `c`, and the end of the
connection. -/
inductive Move (c : Nat) : Act M → Prop where
  | pass : Move c (.pass c)
  | take (lane : Lane) : Move c (.take c lane)
  | finish : Move c (.finish c)
  | stop : Move c (.stop c)
  | lose : Move c .lose
  | close : Move c .close

variable {c : Nat}

theorem line_take {lane : Lane} (h : s.take c lane = some s') :
    (∀ a', (s'.queue a').Sublist (s.queue a')) ∧ LineMoves c s s' := by
  simp only [take, ite_none_right_eq_some] at h
  obtain ⟨hm, h⟩ := h
  split at h
  · cases h
  rename_i m r hq
  cases h
  have hh : (s.writers c).hand = [] := by
    cases hw : s.writers c with
    | sending a' m' => simp [hw, mayTake] at hm
    | off | top | waiting => rfl
  refine ⟨fun a' => ?_, ?_⟩
  · by_cases hl : a' = lane
    · subst hl
      simp [setWriter, hq]
    · simp [setWriter, update_of_ne hl]
  by_cases hl : lane = .priority
  · -- a control message only moves up
    subst hl
    exact .inl (by simp [line, setWriter, hq, hand])
  have hne : Lane.priority ≠ lane := fun heq => hl heq.symm
  refine .inr ⟨lane, m, by simp [hq], hl, by simp [line, hh], ?_⟩
  simp [line, setWriter, hand, update_of_ne hne]

theorem line_finish (h : s.finish c = some s') :
    s'.queue = s.queue ∧ (s'.line c).Sublist (s.line c) := by
  simp only [finish] at h
  split at h
  · rename_i a m hs
    split at h <;> simp only [some.injEq] at h <;> subst h <;>
      exact ⟨rfl, by simp [line, setWriter, hs, hand]⟩
  · cases h

theorem line_of_move {a : Act M} (ha : Move c a) (h : s.step a = some s') :
    (∀ n, (s'.queue n).Sublist (s.queue n)) ∧ LineMoves c s s' := by
  cases ha with
  | pass =>
    simp only [step, pass] at h
    split at h
    · rename_i ht _
      cases h
      exact ⟨fun _ => .refl _, .inl (by simp [line, setWriter, ht, hand])⟩
    · cases h
  | take n => exact line_take h
  | finish =>
    obtain ⟨hq, hl⟩ := line_finish h
    exact ⟨fun n => by rw [hq], .inl hl⟩
  | stop =>
    simp only [step, stop] at h
    split at h
    · rename_i hw
      simp only [ite_none_right_eq_some, some.injEq] at h
      obtain ⟨-, rfl⟩ := h
      exact ⟨fun _ => .refl _, .inl (by simp [line, setWriter, hw, hand])⟩
    · cases h
  | lose =>
    simp only [step, ite_none_right_eq_some, some.injEq] at h
    obtain ⟨-, rfl⟩ := h
    exact ⟨fun _ => .refl _, .inl (.refl _)⟩
  | close =>
    simp only [step, close, ite_none_right_eq_some, some.injEq] at h
    obtain ⟨-, rfl⟩ := h
    exact ⟨fun _ => .refl _, .inl (.refl _)⟩

end Daao.Daemon.Outbox

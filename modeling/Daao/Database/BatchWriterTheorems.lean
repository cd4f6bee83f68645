/-
Daao.Database.BatchWriterTheorems — what becomes of the events given to
`Append`.

An event is in the table, in a batch that is being built, or in its run's
buffer. `total` counts it over the three. After a flush the buffer is the
reset slice of the array the batch still points to, and if the batch has
not been built yet, the new event overwrites a taken one: it is inserted
twice and the other never. `NoOverwrite` excludes exactly these appends.
-/
import Daao.Database.BatchWriter
import Daao.Lib.Progress
import Mathlib.Data.List.Count

namespace Daao.Database.BatchEventWriter

open Daao.Lib List Option Function

variable {Run : Type}

/-! ## 1. Where an event is -/

def buffered (w : BatchEventWriter Run) (runID : Run) : List (PendingEvent Run) :=
  match w.buffers runID with
  | none => []
  | some buf => w.heap.contents buf.events

def inFlight (heap : Heap (PendingEvent Run)) (b : Batch Run) : List (PendingEvent Run) :=
  b.queued ++ heap.window b.events b.queued.length

variable {b : Batch Run} {e : PendingEvent Run}

open Heap

theorem inFlight_queue {heap : Heap (PendingEvent Run)}
    (h : heap.get? b.events b.queued.length = some e) :
    inFlight heap { b with queued := b.queued ++ [e] } = inFlight heap b := by
  unfold inFlight
  rw [window_eq_cons h]
  simp

/-- What `Append` finds or makes before it appends: a buffer that holds the
run's events, in a heap in which everybody else sees what they saw. -/
structure Prepared (w : BatchEventWriter Run) (runID : Run) (heap : Heap (PendingEvent Run))
    (events : Slice) : Prop where
  valid : heap.Valid events
  contents : heap.contents events = w.buffered runID
  stable : ∀ t, w.heap.Valid t → heap.Valid t ∧ ∀ i, heap.window t i = w.heap.window t i
  separate : ∀ r, r ≠ runID → ∀ buf ∈ w.buffers r, buf.events.arr ≠ events.arr
  noOverwrite : ∀ b ∈ w.batches, ¬ heap.overwrites events b.events b.queued.length

variable {w : BatchEventWriter Run} {runID : Run}

theorem Prepared.after {heap : Heap (PendingEvent Run)}
    {v : Slice} (hp : Prepared w runID heap v) (grow : Nat → Nat)
    (zero e : PendingEvent Run) {t : Slice} (ht : w.heap.Valid t) :
    (heap.append grow zero v e).1.Valid t
      ∧ ∀ i, ¬ heap.overwrites v t i →
          (heap.append grow zero v e).1.window t i = w.heap.window t i := by
  obtain ⟨hv, hw⟩ := hp.stable t ht
  refine ⟨valid_append_of_valid hp.valid hv e, fun i hno => ?_⟩
  rw [window_append hp.valid hv.arr_lt hno, hw]

variable [DecidableEq Run]

def total (w : BatchEventWriter Run) (e : PendingEvent Run) : Nat :=
  w.agentRunEvents.count e + (w.batches.map fun b => (inFlight w.heap b).count e).sum
    + (w.buffered e.runID).count e

structure Inv (w : BatchEventWriter Run) : Prop where
  bufferValid : ∀ runID, ∀ buf ∈ w.buffers runID, w.heap.Valid buf.events
  bufferRun : ∀ runID, ∀ e ∈ w.buffered runID, e.runID = runID
  /-- the buffers of different runs have different arrays -/
  separate : ∀ r r', ∀ buf ∈ w.buffers r, ∀ buf' ∈ w.buffers r',
    buf.events.arr = buf'.events.arr → r = r'
  batchValid : ∀ b ∈ w.batches, w.heap.Valid b.events
  conserved : ∀ e, w.appended.count e = w.total e

theorem inv_new : Inv (new : BatchEventWriter Run) := ⟨nofun, nofun, nofun, nofun, fun _ => rfl⟩

/-- The buffer of one run changes. What it has now is in no other run's
array. -/
theorem Inv.update {w' : BatchEventWriter Run} {b : Option RunBuffer} (h : Inv w)
    (hbu : w'.buffers = update w.buffers runID b)
    (hh : ∀ t, w.heap.Valid t → w'.heap.Valid t)
    (hb : ∀ u ∈ b, w'.heap.Valid u.events ∧
      ∀ r, r ≠ runID → ∀ f' ∈ w.buffers r, f'.events.arr ≠ u.events.arr)
    (hr : ∀ r, ∀ e ∈ w'.buffered r, e.runID = r)
    (hba : ∀ b ∈ w'.batches, w'.heap.Valid b.events)
    (hc : ∀ e, w'.appended.count e = w'.total e) : Inv w' := by
  have hca : ∀ r, ∀ x ∈ w'.buffers r, (r = runID ∧ x ∈ b) ∨ (r ≠ runID ∧ x ∈ w.buffers r) := by
    intro r x hx
    rw [hbu, update_apply] at hx
    split at hx
    · exact .inl ⟨‹_›, hx⟩
    · exact .inr ⟨‹_›, hx⟩
  refine ⟨fun r x hx => ?_, hr, fun r r' x hx x' hx' heq => ?_, hba, hc⟩
  · grind [h.bufferValid]
  · grind [h.separate]

/-- An append may not write a cell that a batch has yet to read. -/
def NoOverwrite (w : BatchEventWriter Run) : Act Run → Prop
  | .append e => ∀ buf ∈ w.buffers e.runID, ∀ b ∈ w.batches,
      ¬ w.heap.overwrites buf.events b.events b.queued.length
  | _ => True

instance decidableNoOverwrite (w : BatchEventWriter Run) : ∀ a, Decidable (NoOverwrite w a)
  | .append e => inferInstanceAs (Decidable (∀ buf ∈ w.buffers e.runID, ∀ b ∈ w.batches,
      ¬ w.heap.overwrites buf.events b.events b.queued.length))
  | .fire _ => isTrue trivial
  | .timerFlush _ => isTrue trivial
  | .flush _ => isTrue trivial
  | .close _ => isTrue trivial
  | .queue _ => isTrue trivial
  | .send _ => isTrue trivial

/-! ## 2. Append -/

theorem getOrCreate_prepared (h : Inv w) (hok : NoOverwrite w (.append e)) :
    Prepared w e.runID (w.getOrCreate e.runID).1 (w.getOrCreate e.runID).2.events := by
  unfold getOrCreate
  cases hb : w.buffers e.runID with
  | some f =>
    refine ⟨h.bufferValid _ _ hb, by simp [buffered, hb], fun t ht => ⟨ht, fun _ => rfl⟩, ?_, ?_⟩
    · intro r hr u' hb' heq
      exact hr (h.separate r e.runID u' hb' f hb heq)
    · exact hok f hb
  | none =>
    refine ⟨valid_nil _, by simp [buffered, hb, contents_nil], ?_, ?_, ?_⟩
    · exact fun t ht => ⟨valid_snoc ht _, window_snoc ht.arr_lt _⟩
    · intro r hr u' hb' heq
      have hlt := (h.bufferValid r u' hb').arr_lt
      exact absurd heq (ne_of_lt hlt)
    -- a nil slice has no cell to write to
    rintro b - ⟨hro, -⟩
    simp [cap, Heap.nil, array_snoc_self] at hro

variable [Inhabited Run] {grow : Nat → Nat}

theorem buffered_append (h : Inv w) (hok : NoOverwrite w (.append e)) (runID : Run) :
    (w.append grow e).buffered runID
      = if runID = e.runID then w.buffered runID ++ [e] else w.buffered runID := by
  have hp := getOrCreate_prepared h hok
  by_cases hr : runID = e.runID
  · subst hr
    have hb : (w.append grow e).buffered e.runID
        = ((w.getOrCreate e.runID).1.append grow zeroEvent
          (w.getOrCreate e.runID).2.events e).1.contents
          ((w.getOrCreate e.runID).1.append grow zeroEvent
            (w.getOrCreate e.runID).2.events e).2 := by
      simp [buffered, append]
    rw [if_pos rfl, hb, contents_append hp.valid, hp.contents]
  have hs : (w.append grow e).buffers runID = w.buffers runID := by simp [append, hr]
  rw [if_neg hr]
  unfold buffered
  rw [hs]
  cases hb : w.buffers runID with
  | none => rfl
  | some u =>
    have hno : ¬ (w.getOrCreate e.runID).1.overwrites (w.getOrCreate e.runID).2.events
        u.events 0 := fun ho => hp.separate runID hr u hb ho.2.1
    exact (hp.after grow zeroEvent e (h.bufferValid runID u hb)).2 0 hno

theorem inv_append (h : Inv w) (hok : NoOverwrite w (.append e)) : Inv (w.append grow e) := by
  have hp := getOrCreate_prepared h hok
  have ha : ∀ t, w.heap.Valid t → (w.append grow e).heap.Valid t :=
    fun t ht => (hp.after grow zeroEvent e ht).1
  refine h.update rfl ha ?_ ?_ (fun b hb => ha _ (h.batchValid b hb)) ?_
  · rintro _ ⟨⟩
    refine ⟨valid_append hp.valid e, fun r hr u hbu => ?_⟩
    -- the appended slice is in its old array or in a new one
    rcases arr_append (w.getOrCreate e.runID).1 (w.getOrCreate e.runID).2.events e with heq | heq
    · exact fun hs => hp.separate r hr u hbu (hs.trans heq)
    exact fun hs =>
      (hp.stable _ (h.bufferValid r u hbu)).1.arr_lt.ne (hs.trans heq)
  · grind [h.bufferRun, buffered_append, mem_singleton]
  intro x
  have hba : ((w.append grow e).batches.map fun b =>
      (inFlight (w.append grow e).heap b).count x)
      = w.batches.map fun b => (inFlight w.heap b).count x := by
    refine map_congr_left fun b hb => ?_
    unfold inFlight
    rw [show (w.append grow e).heap.window b.events b.queued.length
      = w.heap.window b.events b.queued.length from
        (hp.after grow zeroEvent e (h.batchValid b hb)).2 _ (hp.noOverwrite b hb)]
  have hc := h.conserved x
  show (w.appended ++ [e]).count x = _
  unfold total at hc ⊢
  rw [hba, buffered_append h hok, count_append, hc]
  show _ = w.agentRunEvents.count x + _ + _
  split
  · rw [count_append]
    omega
  · grind

omit [Inhabited Run]

/-! ## 3. Taking the events -/

theorem buffered_update (w : BatchEventWriter Run) (runID r : Run) (b : Option RunBuffer) :
    buffered { w with buffers := update w.buffers runID b } r
      = if r = runID then (match b with
          | none => []
          | some u => w.heap.contents u.events) else w.buffered r := by
  by_cases hr : r = runID
  · subst hr
    simp [buffered]
  · simp [buffered, hr]

theorem exists_startBatch (w : BatchEventWriter Run) (events : Slice) :
    ∃ batches, w.startBatch events = { w with batches := batches } ∧
      (∀ b ∈ batches, b ∈ w.batches ∨ b = { events := events, queued := [] }) ∧
      ∀ e, (batches.map fun b => (inFlight w.heap b).count e).sum
        = (w.batches.map fun b => (inFlight w.heap b).count e).sum
          + (w.heap.contents events).count e := by
  unfold startBatch
  split
  · exact ⟨_, rfl, by simp, by simp [inFlight, window_zero]⟩
  have hn : w.heap.contents events = [] := by
    rw [← window_zero]
    exact window_of_le (by omega)
  exact ⟨w.batches, rfl, fun _ => .inl, by simp [hn]⟩

theorem inv_take (h : Inv w) {u : RunBuffer} (hbf : w.buffers runID = some u) {b : Option RunBuffer}
    (hb : ∀ buf' ∈ b, buf'.events = u.events.reset) :
    Inv ({ w with buffers := update w.buffers runID b }.startBatch u.events) := by
  obtain ⟨batches, heq, hme, hs⟩ :=
    exists_startBatch { w with buffers := update w.buffers runID b } u.events
  rw [heq]
  have hv := h.bufferValid runID u hbf
  have hbu : ∀ r, buffered
      { w with buffers := update w.buffers runID b, batches := batches } r
        = if r = runID then [] else w.buffered r := by
    intro r
    refine (buffered_update w runID r b).trans ?_
    cases b with
    | none => rfl
    | some buf' => simp [hb buf' rfl]
  refine h.update rfl (fun _ h => h) (fun buf' hbf' => ?_) (fun r x hx => ?_) (fun x hx => ?_)
    fun e => ?_
  · -- the reset slice stays in the run's own array
    rw [hb buf' hbf']
    exact ⟨valid_reset hv, fun r hr x hx heq => hr (h.separate r runID x hx u hbf heq)⟩
  · grind [h.bufferRun]
  · grind [h.batchValid]
  have hc := h.conserved e
  have hm : (w.buffered e.runID).count e
    = (if e.runID = runID then [] else w.buffered e.runID).count e
      + (w.heap.contents u.events).count e := by
    split
    · rename_i hru
      simp [buffered, hru, hbf]
    rename_i hru
    have hn : e ∉ w.heap.contents u.events := fun hme =>
      hru (h.bufferRun runID e (by simpa [buffered, hbf] using hme))
    rw [count_eq_zero_of_not_mem hn, add_zero]
  have hs := hs e
  unfold total at hc ⊢
  rw [hbu]
  simp only at hs ⊢
  omega

theorem inv_flush (h : Inv w) (runID : Run) : Inv (w.flush runID) := by
  unfold flush
  cases hb : w.buffers runID with
  | none => exact h
  | some u =>
    by_cases hl : u.events.len = 0
    · simpa [hl] using h
    simp only [hl, if_false]
    exact inv_take h hb (by simp)

theorem inv_close (h : Inv w) (runID : Run) : Inv (w.close runID) := by
  grind [close, inv_take]

/-! ## 4. The other steps -/

theorem inv_fire (h : Inv w) {u : RunBuffer} (hbu : w.buffers runID = some u) (fired : List Run) :
    Inv { w with
      buffers := update w.buffers runID (some { u with armed := false })
      fired := fired } := by
  have hb : ∀ r, buffered { w with
      buffers := update w.buffers runID (some { u with armed := false })
      fired := fired } r = w.buffered r := by
    intro r
    refine (buffered_update w runID r _).trans ?_
    split
    · rename_i hr
      simp [buffered, hr, hbu]
    · rfl
  refine h.update rfl (fun _ h => h) ?_ (fun r x hx => ?_) h.batchValid fun e => ?_
  · rintro _ ⟨⟩
    exact ⟨h.bufferValid runID u hbu, fun r hr x hx heq => hr (h.separate r runID x hx u hbu heq)⟩
  · rw [hb] at hx
    exact h.bufferRun r x hx
  unfold total
  rw [hb]
  exact h.conserved e

theorem inv_queue (h : Inv w) {i : Nat} (hb : w.batches[i]? = some b)
    (he : w.heap.get? b.events b.queued.length = some e) :
    Inv { w with batches := w.batches.set i { b with queued := b.queued ++ [e] } } := by
  refine { h with batchValid := ?_, conserved := fun x => ?_ }
  · exact forall_mem_set h.batchValid (h.batchValid b (mem_of_getElem? hb))
  have hs : (w.batches.set i { b with queued := b.queued ++ [e] }).map
      (fun b => (inFlight w.heap b).count x)
        = w.batches.map fun b => (inFlight w.heap b).count x := by
    obtain ⟨hi, rfl⟩ := List.getElem?_eq_some_iff.mp hb
    rw [map_set, inFlight_queue he, ← getElem_map (fun b => (inFlight w.heap b).count x),
      set_getElem_self]
    simpa using hi
  have hc := h.conserved x
  unfold total at hc ⊢
  rw [hs]
  exact hc

theorem inv_send (h : Inv w) {i : Nat}
    (hb : w.batches[i]? = some b) (hl : b.queued.length = b.events.len) :
    Inv { w with
      batches := w.batches.eraseIdx i
      agentRunEvents := w.agentRunEvents ++ b.queued } := by
  refine { h with
    batchValid := fun x hx => h.batchValid x (mem_of_mem_eraseIdx hx), conserved := fun x => ?_ }
  -- a batch whose elements are all queued carries just these
  have ha : inFlight w.heap b = b.queued := by
    rw [inFlight, window_of_le (by omega), append_nil]
  obtain ⟨hi, hg⟩ := List.getElem?_eq_some_iff.mp hb
  have hp := (getElem_cons_eraseIdx_perm hi).map fun b => (inFlight w.heap b).count x
  have hs := hp.sum_eq
  rw [map_cons, sum_cons, hg, ha] at hs
  have hc := h.conserved x
  have hbu : buffered { w with
    batches := w.batches.eraseIdx i
    agentRunEvents := w.agentRunEvents ++ b.queued } x.runID = w.buffered x.runID := rfl
  unfold total at hc ⊢
  rw [hbu, count_append]
  simp only at hs hc ⊢
  omega

theorem inv_step [Inhabited Run] {grow : Nat → Nat} {w' : BatchEventWriter Run} {a : Act Run}
    (h : Inv w) (hok : NoOverwrite w a) (hs : step grow w a = some w') : Inv w' := by
  cases a with
  | append e =>
    cases hs
    exact inv_append h hok
  | fire runID => grind [step, inv_fire]
  | timerFlush runID =>
    simp only [step] at hs
    split at hs <;> cases hs
    exact inv_flush (w := { w with fired := w.fired.erase runID }) { h with } runID
  | flush runID =>
    cases hs
    exact inv_flush h runID
  | close runID =>
    cases hs
    exact inv_close h runID
  | queue i => grind [step, inv_queue]
  | send i => grind [step, inv_send]

/-! ## 5. Timers -/

def Timers (w : BatchEventWriter Run) : Prop :=
  ∀ runID, ∀ buf ∈ w.buffers runID, 0 < buf.events.len → buf.armed = true ∨ runID ∈ w.fired

theorem timers_take {b : Option RunBuffer}
    (h : ∀ r, r ≠ runID → ∀ u ∈ w.buffers r, 0 < u.events.len → u.armed = true ∨ r ∈ w.fired)
    (hb : ∀ u ∈ b, u.events.len = 0) (events : Slice) :
    Timers ({ w with buffers := update w.buffers runID b }.startBatch events) := by
  obtain ⟨a, heq, -⟩ := exists_startBatch { w with buffers := update w.buffers runID b } events
  rw [heq]
  intro r u hbu hl
  by_cases hr : r = runID
  · grind
  · grind

theorem timers_flush (h : ∀ r, r ≠ runID → ∀ u ∈ w.buffers r, 0 < u.events.len →
      u.armed = true ∨ r ∈ w.fired) : Timers (w.flush runID) := by
  have hre : (∀ u ∈ w.buffers runID, u.events.len = 0) → Timers w := by
    intro hz r u hb hl
    by_cases hr : r = runID
    · grind
    · exact h r hr u hb hl
  unfold flush
  cases hb : w.buffers runID with
  | none => exact hre (by simp [hb])
  | some u =>
    by_cases hl : u.events.len = 0
    · grind
    simp only [hl, if_false]
    exact timers_take h (by simp [Slice.reset]) _

theorem timers_step [Inhabited Run] {grow : Nat → Nat} {w' : BatchEventWriter Run} {a : Act Run}
    (h : Timers w) (hs : step grow w a = some w') : Timers w' := by
  cases a with
  | append e =>
    cases hs
    intro r u hb hl
    by_cases hr : r = e.runID
    · subst hr
      simp only [append, update_self, mem_def, some.injEq] at hb
      exact .inl (by rw [← hb])
    · exact h r u (by simpa [append, hr] using hb) hl
  | fire runID =>
    simp only [step] at hs
    repeat' split at hs
    all_goals cases hs
    intro r u hb hl
    by_cases hr : r = runID
    · exact .inr (by simp [hr])
    · exact (h r u (by simpa [hr] using hb) hl).imp_right (mem_cons_of_mem _)
  | timerFlush runID =>
    simp only [step] at hs
    split at hs <;> cases hs
    refine timers_flush fun r hr u hb hl => (h r u hb hl).imp_right fun hf => ?_
    exact (mem_erase_of_ne hr).mpr hf
  | flush runID =>
    cases hs
    exact timers_flush fun r _ => h r
  | close runID =>
    simp only [step, close] at hs
    split at hs <;> cases hs
    · exact h
    · exact timers_take (fun r _ => h r) (by simp) _
  | queue i | send i =>
    simp only [step] at hs
    repeat' split at hs
    all_goals cases hs
    exact h

/-! ## 6. Runs -/

theorem total_of_quiescent (h : Timers w) (hq : w.Quiescent) (e : PendingEvent Run) :
    w.total e = w.agentRunEvents.count e := by
  obtain ⟨ha, hf, hb⟩ := hq
  have hbu : w.buffered e.runID = [] := by
    unfold buffered
    cases hbf : w.buffers e.runID with
    | none => rfl
    | some u =>
      have hl : u.events.len = 0 := by
        by_contra hp
        rcases h e.runID u hbf (by omega) with ht | hin
        · grind
        · simp [hf] at hin
      show w.heap.contents u.events = []
      rw [← window_zero]
      exact window_of_le (by omega)
  simp [total, hb, hbu]

/-- **Every event once.** In every run in which no append overwrites a cell
that a batch has yet to read, once all timers have fired and all batches
have been sent, the table holds the appended events, each as often as it
was appended, with its own type, payload and sequence number. -/
theorem inserted_of_noOverwrite [Inhabited Run] (grow : Nat → Nat) (acts : List (Act Run))
    {w : BatchEventWriter Run} (hok : Along (step grow) NoOverwrite new acts)
    (hrun : run (step grow) new acts = some w) (hq : w.Quiescent) :
    w.agentRunEvents.Perm w.appended := by
  have hi : Inv w := run_invariant_along (fun _ _ _ => inv_step) inv_new hok hrun
  have ht : Timers w := run_invariant (fun _ _ _ => timers_step) (fun _ _ h => by cases h) hrun
  refine perm_iff_count.mpr fun e => ?_
  rw [hi.conserved e, total_of_quiescent ht hq]

def eventAt (sequence : Int) : PendingEvent Unit :=
  { runID := (), eventType := "message_update", payload := "\x7b\x7d", sequence := sequence }

def double (cap : Nat) : Nat := if cap = 0 then 1 else 2 * cap

/-- Each batch is built and sent before the next append. -/
theorem inserted_one_by_one :
    ∃ w : BatchEventWriter Unit, run (step double) new
        [.append (eventAt 1), .fire (), .timerFlush (), .queue 0, .send 0,
          .append (eventAt 2), .close (), .queue 0, .send 0] = some w
      ∧ w.agentRunEvents.Perm w.appended := by
  refine ⟨_, rfl, inserted_of_noOverwrite double [.append (eventAt 1), .fire (), .timerFlush (),
    .queue 0, .send 0, .append (eventAt 2), .close (), .queue 0, .send 0] (by decide) rfl ?_⟩
  exact ⟨fun _ _ hb => (by cases hb), rfl, rfl⟩

/-- The first event is taken, and the second one is appended before the
batch is built: the second is inserted twice, the first never. -/
theorem event_overwritten :
    ∃ w : BatchEventWriter Unit, run (step double) new
        [.append (eventAt 1), .fire (), .timerFlush (), .append (eventAt 2), .queue 0, .send 0,
          .close (), .queue 0, .send 0] = some w
      ∧ w.Quiescent ∧ ¬ w.agentRunEvents.Perm w.appended := by
  refine ⟨_, rfl, ⟨fun _ _ hb => (by cases hb), rfl, rfl⟩, ?_⟩
  change ¬ [eventAt 2, eventAt 2].Perm [eventAt 1, eventAt 2]
  decide

end Daao.Database.BatchEventWriter

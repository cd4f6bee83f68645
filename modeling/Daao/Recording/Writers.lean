/-
Daao.Recording.Writers — the pool of recording writers under concurrent
calls (`RecordingPool` of `internal/recording/recorder.go`).

`Daao.Recording.Pool` follows the recordings through requests and rows. Here
are the methods of the pool alone, called by anybody. Each critical section
is a step: `StopRecording` takes the writer out of the map and closes it
afterwards, `WriteIfRecording` looks the writer up and writes afterwards,
and `StopAll` keeps the pool's lock while it closes one writer after the
other. A file is opened by every `StartRecording`, and `ops` is what was
done to it.
-/
import Daao.Lib.GoMap
import Daao.Recording.Pool

namespace Daao.Recording.Writers

open Daao.Lib Daao.Buffer Option Function

inductive FileOp where
  /-- the line of an event with this data -/
  | write (data : List Byte)
  | close

structure RecordingWriter where
  sessionID : String
  totalBytes : Nat
  closed : Bool
  ops : List FileOp

/-- `ok` is whether `WriteString` succeeds. -/
def RecordingWriter.write (w : RecordingWriter) (data : List Byte) (ok : Bool) : RecordingWriter :=
  if data.length = 0 || w.closed || !ok then w
  else { w with ops := w.ops ++ [.write data], totalBytes := w.totalBytes + data.length }

def RecordingWriter.close (w : RecordingWriter) : RecordingWriter × Nat :=
  if w.closed then (w, 0)
  else ({ w with closed := true, ops := w.ops ++ [.close] }, w.totalBytes)

inductive Phase where
  | unused
  | registered
  /-- a `StopRecording` has taken it out of the map -/
  | taken
  /-- and has returned this size -/
  | stopped (size : Nat)
  /-- `StopAll` has closed it -/
  | shut
  deriving DecidableEq

structure Pool where
  map : GoMap String Nat
  writers : Nat → RecordingWriter
  phase : Nat → Phase
  writes : List (Nat × List Byte)
  /-- the writers that a running `StopAll` has still to close -/
  stopAll : Option (List Nat)

def RecordingWriter.new (sessionID : String) : RecordingWriter :=
  { sessionID := sessionID, totalBytes := 0, closed := false, ops := [] }

def start : Pool :=
  { map := .empty, writers := fun _ => .new "", phase := fun _ => .unused, writes := []
    stopAll := none }

inductive Act where
  | startRecording (sessionID : String) (w : Nat)
  | stopRecording (sessionID : String)
  | close (w : Nat)
  | lookUp (sessionID : String) (data : List Byte)
  | write (i : Nat) (ok : Bool)
  /-- `StopAll` begins, and goes over the map in this order -/
  | stopAll (order : List Nat)
  | closeNext

def Pool.set (s : Pool) (w : Nat) (writer : RecordingWriter) (phase : Phase) : Pool :=
  { s with writers := Function.update s.writers w writer, phase := Function.update s.phase w phase }

/-- `none` is a call that has to wait, or returns without effect. -/
def step (s : Pool) : Act → Option Pool
  | .startRecording sessionID w =>
    if s.stopAll = none ∧ s.map.get sessionID = none ∧ s.phase w = .unused then
      some { s.set w (.new sessionID) .registered with map := s.map.put (sessionID, w) }
    else none
  | .stopRecording sessionID =>
    if s.stopAll = none then
      (s.map.get sessionID).map fun w =>
        { s.set w (s.writers w) .taken with map := s.map.restrict fun e => e.1 ≠ sessionID }
    else none
  | .close w =>
    if s.phase w = .taken then
      some (s.set w (s.writers w).close.1 (.stopped (s.writers w).close.2))
    else none
  | .lookUp sessionID data =>
    if s.stopAll = none then
      (s.map.get sessionID).map fun w => { s with writes := s.writes ++ [(w, data)] }
    else none
  | .write i ok =>
    s.writes[i]?.map fun (w, data) =>
      { s.set w ((s.writers w).write data ok) (s.phase w) with writes := s.writes.eraseIdx i }
  | .stopAll order =>
    if s.stopAll = none ∧ order.Perm (s.map.rows.map Prod.snd) then
      some { s with stopAll := some order }
    else none
  | .closeNext =>
    match s.stopAll with
    | none => none
    | some [] => some { s with stopAll := none, map := .empty }
    | some (w :: rest) => some { s.set w (s.writers w).close.1 .shut with stopAll := some rest }

def bytes (ops : List FileOp) : Nat :=
  (ops.map fun op => match op with
    | .write data => data.length
    | .close => 0).sum

/-! ## The invariant -/

/-- The file is closed at most once, and after everything else. -/
structure RecordingWriter.Sound (w : RecordingWriter) : Prop where
  ops : ∃ lines : List (List Byte), w.ops = lines.map .write ++ if w.closed then [.close] else []
  size : w.totalBytes = bytes w.ops

theorem RecordingWriter.Sound.write {w : RecordingWriter} (h : w.Sound) (d : List Byte)
    (ok : Bool) : (w.write d ok).Sound ∧ (w.write d ok).closed = w.closed
      ∧ (w.write d ok).sessionID = w.sessionID ∧ (w.closed = true → w.write d ok = w) := by
  unfold RecordingWriter.write
  split
  · exact ⟨h, rfl, rfl, fun _ => rfl⟩
  rename_i ho
  have hc : w.closed = false := by simp at ho; exact ho.1.2
  obtain ⟨i, hl⟩ := h.ops
  refine ⟨⟨⟨i ++ [d], by simp [hl, hc]⟩, ?_⟩, rfl, rfl, by simp [hc]⟩
  simp [bytes, h.size]

theorem RecordingWriter.Sound.close {w : RecordingWriter} (h : w.Sound) :
    w.close.1.Sound ∧ w.close.1.closed = true ∧
      (w.closed = false → w.close.2 = bytes w.close.1.ops) := by
  unfold RecordingWriter.close
  split
  · exact ⟨h, by assumption, by simp_all⟩
  rename_i ho
  obtain ⟨i, hl⟩ := h.ops
  exact ⟨⟨⟨i, by simp [hl, ho]⟩, by simp [bytes, h.size]⟩, rfl, fun _ => by simp [bytes, h.size]⟩

structure Inv (s : Pool) : Prop where
  sound : ∀ w, (s.writers w).Sound
  mapped : s.stopAll = none → ∀ sessionID w, s.map.get sessionID = some w →
    s.phase w = .registered ∧ (s.writers w).sessionID = sessionID
  isOpen : ∀ w, s.phase w = .registered ∨ s.phase w = .taken → (s.writers w).closed = false
  registered : ∀ w, s.phase w = .registered → s.map.get (s.writers w).sessionID = some w
  left : ∀ order, s.stopAll = some order → order.Nodup ∧ ∀ w, w ∈ order ↔ s.phase w = .registered
  stopped : ∀ w size, s.phase w = .stopped size →
    (s.writers w).closed = true ∧ size = bytes (s.writers w).ops

/-- The writer of a `Cast`. -/
def ofCast (cast : Cast) : RecordingWriter :=
  { sessionID := cast.sessionID, totalBytes := cast.totalBytes, closed := cast.closed
    ops := cast.events.map (.write ·.data) ++ if cast.closed then [.close] else [] }

/-- `Cast.write` and `Cast.close` are what the writer does. -/
theorem ofCast_write_close (cast : Cast) {chunk : Chunk} (hd : chunk.data ≠ []) (now : Nat) :
    ofCast (cast.write chunk) = (ofCast cast).write chunk.data true ∧
      (ofCast (cast.close now).1, (cast.close now).2.2) = (ofCast cast).close := by
  cases hc : cast.closed <;>
    simp [ofCast, Cast.write, Cast.close, Cast.totalBytes, RecordingWriter.write,
      RecordingWriter.close, hc, hd]

variable {s s' : Pool}

theorem nodup_registered (h : Inv s) (ha : s.stopAll = none) :
    (s.map.rows.map Prod.snd).Nodup
      ∧ ∀ w, w ∈ s.map.rows.map Prod.snd ↔ s.phase w = .registered := by
  have hr : ∀ e ∈ s.map.rows,
      s.phase e.2 = .registered ∧ (s.writers e.2).sessionID = e.1 := fun e he =>
    h.mapped ha e.1 e.2 (by rw [GoMap.get, Table.find?_of_mem he, map_some])
  constructor
  · -- a writer knows its session, and that is a key
    have hk := s.map.primaryKey
    rw [← List.map_congr_left fun e he => (hr e he).2] at hk
    refine List.Nodup.of_map (fun w => (s.writers w).sessionID) ?_
    rwa [List.map_map]
  refine fun w => ⟨fun hw => ?_, fun hw => ?_⟩
  · grind
  obtain ⟨e, he, rfl⟩ := map_eq_some_iff.mp (h.registered w hw)
  exact List.mem_map_of_mem (Table.mem_of_find? he)

theorem inv_step {a : Act} (h : Inv s) (hs : step s a = some s') : Inv s' := by
  obtain ⟨hso, hm, ho, hr, hl, hst⟩ := h
  cases a with
  | startRecording d w =>
    simp only [step, ite_none_right_eq_some, some.injEq] at hs
    obtain ⟨⟨ha, hn, hu⟩, rfl⟩ := hs
    have hne : (RecordingWriter.new d).Sound := ⟨⟨[], rfl⟩, rfl⟩
    constructor <;> simp only [Pool.set, update_apply, GoMap.get_put] <;>
      grind [RecordingWriter.new]
  | stopRecording d =>
    simp only [step, ite_none_right_eq_some, map_eq_some_iff] at hs
    obtain ⟨ha, w, hw, rfl⟩ := hs
    constructor <;> simp only [Pool.set, update_apply, GoMap.get_restrict_ne] <;> grind
  | close w =>
    simp only [step, ite_none_right_eq_some, some.injEq] at hs
    obtain ⟨ht, rfl⟩ := hs
    have hc := (hso w).close
    constructor <;> simp [Pool.set] <;> grind
  | lookUp d t =>
    simp only [step, ite_none_right_eq_some, map_eq_some_iff] at hs
    obtain ⟨-, w, -, rfl⟩ := hs
    exact ⟨hso, hm, ho, hr, hl, hst⟩
  | write i ok =>
    obtain ⟨⟨w, t⟩, -, rfl⟩ := map_eq_some_iff.mp hs
    have hwr := (hso w).write t ok
    constructor <;> simp [Pool.set] <;> grind
  | stopAll ord =>
    simp only [step, ite_none_right_eq_some, some.injEq] at hs
    obtain ⟨⟨ha, hp⟩, rfl⟩ := hs
    obtain ⟨hno, hro⟩ := nodup_registered ⟨hso, hm, ho, hr, hl, hst⟩ ha
    refine ⟨hso, by simp, ho, hr, ?_, hst⟩
    rintro _ ⟨⟩
    exact ⟨hp.nodup_iff.mpr hno, fun w => hp.mem_iff.trans (hro w)⟩
  | closeNext =>
    simp only [step] at hs
    split at hs <;> cases hs
    · rename_i ha
      have hn := (hl [] ha).2
      refine ⟨hso, fun _ d w hw => ?_, ho, fun w hw => ?_, by simp, hst⟩
      · cases hw
      · simp [← hn] at hw
    rename_i w r ha
    have hc := (hso w).close
    constructor <;> simp [Pool.set] <;> grind

/-- **Recordings under concurrent calls.** A session has at most one writer in
the map; a file is closed at most once and not written to afterwards; a
write that begins after `StopRecording` has returned does not find the
writer; and the size that was returned is that of the data in the file. -/
theorem recordings_sound (acts : List Act) (s : Pool) (hrun : run step start acts = some s) :
    (∀ w w', s.phase w = .registered → s.phase w' = .registered →
        (s.writers w).sessionID = (s.writers w').sessionID → w = w')
    ∧ (∀ w, ∃ lines : List (List Byte), (s.writers w).ops = lines.map .write
        ∨ (s.writers w).ops = lines.map .write ++ [.close])
    ∧ (∀ sessionID data s', step s (.lookUp sessionID data) = some s' →
        ∃ w, s'.writes = s.writes ++ [(w, data)] ∧ ∀ size, s.phase w ≠ .stopped size)
    ∧ ∀ w size, s.phase w = .stopped size → size = bytes (s.writers w).ops := by
  have h : Inv s := by
    refine run_invariant (fun _ _ _ => inv_step) ?_ hrun
    refine ⟨fun _ => ⟨⟨[], rfl⟩, rfl⟩, fun _ sessionID w hw => ?_, ?_, ?_, ?_, ?_⟩
    · cases hw
    all_goals simp [start]
  refine ⟨fun w w' hw hw' heq => ?_, fun w => ?_, ?_, fun w size hp =>
    (h.stopped w size hp).2⟩
  · have hg := h.registered w hw
    rw [heq, h.registered w' hw', some.injEq] at hg
    exact hg.symm
  · obtain ⟨lines, hl⟩ := (h.sound w).ops
    cases hc : (s.writers w).closed <;> simp [hc] at hl
    · exact ⟨lines, .inl hl⟩
    · exact ⟨lines, .inr hl⟩
  intro sessionID data s' hs
  simp only [step, ite_none_right_eq_some, map_eq_some_iff] at hs
  obtain ⟨ha, w, hg, rfl⟩ := hs
  exact ⟨w, rfl, by simp [(h.mapped ha sessionID w hg).1]⟩

/-- The second write found the recording before it was stopped. -/
theorem recordings_sound_late_write :
    let acts : List Act := [.startRecording "s" 0, .lookUp "s" [104, 105], .lookUp "s" [33],
      .write 0 true, .stopRecording "s", .close 0, .write 0 true]
    ∃ s, run step start acts = some s ∧ s.phase 0 = .stopped 2 ∧ 2 = bytes (s.writers 0).ops := by
  intro acts
  exact ⟨_, rfl, rfl, (recordings_sound acts _ rfl).2.2.2 0 2 rfl⟩

end Daao.Recording.Writers

/-
Daao.Daemon.ReplayTheorems — when Nexus's copy of a session's output is the
satellite's own.

The invariant says that what Nexus has, followed by what is on its way, is
what the satellite has (`Linked`). Output keeps it, and so do all losses,
because it is only claimed of a connection that has not broken. A replay
keeps it only if it starts from nothing: the snapshot is the WHOLE buffer,
so it must find no byte of the session in Nexus and none on its way, and
no new output may overtake it (`Fresh`).
-/
import Daao.Daemon.Replay
import Daao.Transport.TerminalStreamTheorems

namespace Daao.Daemon.Replay

open Daao.Lib Daao.Buffer Daao.Transport List Option

/-! ## 1. Bytes on their way -/

def bytes (messages : List SatelliteMessage) : List Byte := messages.flatMap SatelliteMessage.data

@[simp] theorem bytes_nil : bytes [] = [] := rfl

@[simp] theorem bytes_cons (m : SatelliteMessage) (messages : List SatelliteMessage) :
    bytes (m :: messages) = m.data ++ bytes messages := flatMap_cons

@[simp] theorem bytes_append (as bs : List SatelliteMessage) :
    bytes (as ++ bs) = bytes as ++ bytes bs := flatMap_append

def GrpcLoop.snapshot : GrpcLoop → List Byte
  | .replaying snapshot => snapshot
  | _ => []

def inFlight (s : Replay) : List Byte :=
  bytes s.uplink.line ++ GrpcLoop.snapshot s.loop ++ s.pending.getD []

/-! ## 2. The invariant -/

def Synced (s : Replay) : Prop := s.uplink.alive = true ∧ s.loop ≠ .idle ∧ s.loop ≠ .connected

def Fits (cap : Nat) (s : Replay) : Prop := s.uplink.dropped = false ∧ s.output.length ≤ cap

/-- What Nexus got since its buffer was made, followed by what is on its
way, is the whole output. Older connections have nothing left. -/
def Linked (cap : Nat) (s : Replay) (got : List Byte) : Prop :=
  Synced s → Fits cap s →
    got ++ inFlight s = s.output ∧ ∀ c, c ≠ s.uplink.conn → bytes (s.uplink.wire c) = []

structure Inv (cap : Nat) (s : Replay) : Prop where
  ring : Holds cap s.output (some s.ring)
  bounded : s.uplink.Bounded
  nexus : ∃ got, Holds cap got s.nexus ∧ Linked cap s got

structure Clean (s : Replay) : Prop where
  nexus : contents s.nexus = some []
  pending : s.pending = none
  sendCh : bytes s.uplink.queue = []
  wire : ∀ c ≤ s.uplink.conn, bytes (s.uplink.wire c) = []

/-- A replay starts from nothing, and no output overtakes it. -/
def Fresh (s : Replay) : Act → Prop
  | .takeSnapshot => Clean s
  | .forward => GrpcLoop.snapshot s.loop = []
  | _ => True

variable {cap : Nat}

open Uplink

theorem inv_start (hc : 0 < cap) : Inv cap (start cap) where
  ring := holds_getOrCreateBuffer hc (show Holds cap [] none from rfl)
  bounded := bounded_start
  nexus := ⟨[], rfl, fun hs => absurd rfl hs.2.1⟩

variable {got : List Byte}

theorem contents_of_holds {buffer : Option RingBuffer}
    (h : Holds cap got buffer) (hle : got.length ≤ cap) : contents buffer = some got := by
  cases buffer with
  | none => rw [show got = [] from h, contents]
  | some rb =>
    obtain ⟨r, rfl, -, hv⟩ := h
    rw [contents, snapshot_ofRing, hv, held_map_of_le hle]

theorem eq_nil_of_contents (hc : 0 < cap)
    {buffer : Option RingBuffer} (h : Holds cap got buffer) (hn : contents buffer = some []) :
    got = [] := by
  cases buffer with
  | none => exact h
  | some rb =>
    obtain ⟨r, rfl, -, hv⟩ := h
    rw [contents, snapshot_ofRing, hv, some.injEq] at hn
    have hl := length_held_map hc got
    rw [hn, length_nil] at hl
    exact length_eq_zero_iff.mp (by omega)

theorem holds_write (hc : 0 < cap) {d : List Byte} {rb : RingBuffer}
    {r : RingBuffer × Int} (h : Holds cap got (some rb)) (hd : d ≠ [])
    (hw : write rb d = some r) : Holds cap (got ++ d) (some r.1) := by
  obtain ⟨b', hgw, hh, -⟩ := gatewayWrite_holds hc h d
  have hp : d.length > 0 := length_pos_iff.mpr hd
  rw [gatewayWrite, if_pos hp, getOrCreateBuffer, getD_some, hw, map_some, some.injEq] at hgw
  exact hgw ▸ hh

/-! ## 3. Steps -/

section

variable {cap : Nat} {s s' : Replay}

theorem inv_read (hc : 0 < cap) (h : Inv cap s) {d : List Byte}
    (hs : step cap s (.read d) = some s') : Inv cap s' := by
  simp only [step] at hs
  split at hs
  · rename_i hp
    obtain ⟨r, hw, rfl⟩ := map_eq_some_iff.mp hs
    obtain ⟨got, hg, hl⟩ := h.nexus
    refine ⟨holds_write hc h.ring hp.2 hw, h.bounded, got, hg, ?_⟩
    intro hsy hf
    have hle : s.output.length ≤ cap := by
      have := hf.2
      simp only [length_append] at this
      omega
    obtain ⟨heq, hold⟩ := hl hsy ⟨hf.1, hle⟩
    refine ⟨?_, hold⟩
    simp only [inFlight, hp.1, getD_none, append_nil, getD_some] at heq ⊢
    rw [← heq]
    simp
  · cases hs

theorem inv_sendToNexus (h : Inv cap s) {m : SatelliteMessage} {loop : GrpcLoop}
    {pending : Option (List Byte)}
    (hn : m.data ++ (GrpcLoop.snapshot loop ++ pending.getD [])
      = GrpcLoop.snapshot s.loop ++ s.pending.getD [])
    (hlo : Synced { s with loop := loop } → Synced s) :
    Inv cap ({ s with loop := loop, pending := pending }.sendToNexus m) := by
  obtain ⟨got, hg, hl⟩ := h.nexus
  refine ⟨h.ring, bounded_send _ _ h.bounded, got, hg, ?_⟩
  intro hs hf
  obtain ⟨hno, hli⟩ := line_send _ _ _ hf.1
  have hs' : Synced { s with loop := loop } := by simpa [Synced, sendToNexus] using hs
  obtain ⟨heq, hold⟩ := hl (hlo hs') ⟨hno, hf.2⟩
  refine ⟨?_, by simpa [sendToNexus] using hold⟩
  simp only [inFlight, sendToNexus, hli, bytes_append, bytes_cons, bytes_nil, append_nil,
    append_assoc] at heq ⊢
  rw [hn]
  exact heq

theorem inv_takeSnapshot (hca : 0 < cap) (h : Inv cap s) (hok : Clean s)
    (hs : step cap s .takeSnapshot = some s') : Inv cap s' := by
  obtain ⟨r, hr, -, hv⟩ := h.ring
  obtain ⟨got, hg, -⟩ := h.nexus
  have hn : got = [] := eq_nil_of_contents hca hg hok.nexus
  have hle : r.len = min cap s.output.length := by
    rw [← CellRing.length_view, hv, length_held_map hca]
  have hl : bytes s.uplink.line = [] := by
    rw [line, bytes_append, hok.wire s.uplink.conn le_rfl, hok.sendCh, append_nil]
  have hold : ∀ c, c ≠ s.uplink.conn → bytes (s.uplink.wire c) = [] := by
    intro c hc
    rcases lt_or_gt_of_ne hc with hlt | hgt
    · exact hok.wire c hlt.le
    · rw [h.bounded c hgt, bytes_nil]
  simp only [step] at hs
  split at hs
  · split at hs
    · obtain ⟨d, hsn, rfl⟩ := map_eq_some_iff.mp hs
      rw [hr, snapshot_ofRing, hv, some.injEq] at hsn
      refine ⟨h.ring, h.bounded, got, hg, fun _ hf => ⟨?_, hold⟩⟩
      simp only [hn, inFlight, hl, hok.pending, GrpcLoop.snapshot, getD_none,
        append_nil, nil_append, ← hsn]
      exact held_map_of_le hf.2
    cases hs
    have ho : s.output = [] := by grind [ofRing, length_eq_zero_iff]
    refine ⟨h.ring, h.bounded, got, hg, fun _ _ => ⟨?_, hold⟩⟩
    simp [hn, inFlight, hl, hok.pending, GrpcLoop.snapshot, ho]
  · cases hs

theorem inv_moves (h : Inv cap s) {uplink : Uplink SatelliteMessage}
    (hm : s.uplink.Moves uplink) : Inv cap { s with uplink := uplink } := by
  obtain ⟨got, hg, hl⟩ := h.nexus
  refine ⟨h.ring, hm.bounded h.bounded, got, hg, ?_⟩
  intro hs hf
  obtain ⟨heq, hold⟩ := hl ⟨hm.alive hs.1, hs.2⟩ ⟨hm.dropped ▸ hf.1, hf.2⟩
  refine ⟨?_, fun c hc => ?_⟩
  · simpa only [inFlight, hm.line hs.1] using heq
  · grind [hm.conn, hm.others, bytes_nil]

theorem inv_deliver (hca : 0 < cap) (h : Inv cap s) {c : Nat}
    (hst : step cap s (.deliver c) = some s') : Inv cap s' := by
  obtain ⟨⟨m, uplink⟩, hr, hre⟩ := bind_eq_some_iff.mp hst
  obtain ⟨nexus, hw, rfl⟩ := map_eq_some_iff.mp hre
  have hrc := receives_of_receive hr
  obtain ⟨got, hg, hl⟩ := h.nexus
  obtain ⟨b', hgw, hh, -⟩ := gatewayWrite_holds hca hg m.data
  rw [hw, some.injEq] at hgw
  refine ⟨h.ring, hrc.bounded h.bounded, got ++ m.data, hgw ▸ hh, ?_⟩
  intro hs hf
  obtain ⟨heq, hold⟩ := hl ⟨hrc.alive ▸ hs.1, hs.2⟩ ⟨hrc.dropped ▸ hf.1, hf.2⟩
  simp only [inFlight] at heq ⊢
  by_cases hc : c = s.uplink.conn
  · subst hc
    refine ⟨?_, fun c' hc' => ?_⟩
    · simpa only [hrc.line_current, bytes_cons, append_assoc] using heq
    · grind [hrc.conn, hrc.others]
  -- a message of an older connection has no bytes
  have hb := hold c hc
  rw [hrc.wire, bytes_cons, append_eq_nil_iff] at hb
  refine ⟨?_, fun c' hc' => ?_⟩
  · simpa [hrc.line_other hc, hb.1] using heq
  · grind [hrc.conn, hrc.others]

theorem inv_step (hc : 0 < cap) {a : Act} (h : Inv cap s) (hok : Fresh s a)
    (hst : step cap s a = some s') : Inv cap s' := by
  cases a with
  | read data => exact inv_read hc h hst
  | forward =>
    simp only [step] at hst
    split at hst
    · cases hst
    rename_i data hp
    cases hst
    have hsn : GrpcLoop.snapshot s.loop = [] := hok
    exact inv_sendToNexus h (by simp [hsn, hp, SatelliteMessage.data]) id
  | enqueueOther =>
    cases hst
    exact inv_sendToNexus h (by simp [SatelliteMessage.data]) id
  | connect =>
    simp only [step] at hst
    split at hst
    · cases hst
      obtain ⟨got, hg, -⟩ := h.nexus
      exact ⟨h.ring, bounded_connect h.bounded, got, hg, fun hsy => absurd rfl hsy.2.2⟩
    · cases hst
  | takeSnapshot => exact inv_takeSnapshot hc h hok hst
  | enqueueReplay =>
    simp only [step] at hst
    split at hst
    · rename_i data hl
      cases hst
      refine inv_sendToNexus h (by simp [hl, GrpcLoop.snapshot, SatelliteMessage.data]) ?_
      exact fun hs => ⟨hs.1, by simp [hl], by simp [hl]⟩
    · cases hst
  | transmit =>
    obtain ⟨u, ht, rfl⟩ := map_eq_some_iff.mp hst
    exact inv_moves h (moves_transmit ht)
  | stopWriter =>
    obtain ⟨u, hso, rfl⟩ := map_eq_some_iff.mp hst
    exact inv_moves h (moves_stopWriter hso)
  | lose =>
    cases hst
    exact inv_moves h moves_lose
  | close =>
    simp only [step] at hst
    split at hst
    · obtain ⟨u, hso, rfl⟩ := map_eq_some_iff.mp hst
      obtain ⟨got, hg, -⟩ := h.nexus
      exact ⟨h.ring, (moves_stopWriter hso).bounded h.bounded, got, hg,
        fun hsy => absurd rfl hsy.2.1⟩
    · cases hst
  | deliver c => exact inv_deliver hc h hst
  | discard c =>
    obtain ⟨u, hd, rfl⟩ := map_eq_some_iff.mp hst
    exact inv_moves h (moves_discard hd)
  | restart =>
    cases hst
    exact ⟨h.ring, moves_restart.bounded h.bounded, [], rfl, fun hsy => by cases hsy.1⟩

end

/-! ## 4. Runs -/

theorem inSync_of_inv {s : Replay} (h : Inv cap s) : InSync cap s := by
  intro hq hd hle
  obtain ⟨got, hg, hl⟩ := h.nexus
  have hs : Synced s := ⟨hq.alive, by simp [hq.receiving], by simp [hq.receiving]⟩
  obtain ⟨heq, -⟩ := hl hs ⟨hd, hle⟩
  have ha : got = s.output := by
    simpa [inFlight, line, hq.wire s.uplink.conn le_rfl, hq.sendCh, hq.pending, hq.receiving,
      GrpcLoop.snapshot] using heq
  rw [contents_of_holds hg (ha ▸ hle), ha]
  exact (contents_of_holds h.ring hle).symm

/-- **Replay.** In every run whose replays are fresh, whenever nothing is
on its way, Nexus holds the bytes the satellite holds. -/
theorem inSync_of_fresh {cap : Nat} (hcap : 0 < cap) (acts : List Act) {s : Replay}
    (hok : Along (step cap) Fresh (start cap) acts)
    (hrun : run (step cap) (start cap) acts = some s) : InSync cap s :=
  inSync_of_inv (run_invariant_along (fun _ _ _ h hok hs => inv_step hcap h hok hs)
    (inv_start hcap) hok hrun)

instance decidableClean (s : Replay) : Decidable (Clean s) :=
  decidable_of_iff (contents s.nexus = some [] ∧ s.pending = none ∧ bytes s.uplink.queue = [] ∧
      ∀ c ≤ s.uplink.conn, bytes (s.uplink.wire c) = [])
    ⟨fun ⟨hn, hp, hs, hw⟩ => ⟨hn, hp, hs, hw⟩, fun ⟨hn, hp, hs, hw⟩ => ⟨hn, hp, hs, hw⟩⟩

instance decidableFresh (s : Replay) (a : Act) : Decidable (Fresh s a) := by
  cases a <;> unfold Fresh <;> infer_instance

def oneByte : List Act :=
  [.connect, .takeSnapshot, .read [97], .forward, .transmit, .deliver 1]

def reconnect : List Act :=
  [.close, .connect, .takeSnapshot, .enqueueReplay, .transmit, .deliver 2]

theorem inSync_after_restart :
    ∃ s, run (step 4) (start 4) (oneByte ++ [.restart] ++ reconnect) = some s ∧ InSync 4 s :=
  ⟨_, rfl, inSync_of_fresh (by decide) (oneByte ++ [.restart] ++ reconnect) (by decide) rfl⟩

theorem run_reconnect (hc : 2 ≤ cap) :
    ∃ s, run (step cap) (start cap) (oneByte ++ [.lose] ++ reconnect) = some s ∧ Quiescent s ∧
      s.uplink.dropped = false ∧ s.output = [97] ∧ snapshot s.ring = some [97] ∧
      contents s.nexus = some [97, 97] := by
  have hp : 0 < cap := by omega
  obtain ⟨n, hw, ho, -⟩ := gatewayWrite_holds hp (show Holds cap [] none from rfl) [97]
  have hf := hw
  rw [gatewayWrite, if_pos (by simp), getOrCreateBuffer, getD_none] at hw
  obtain ⟨e, hre, rfl⟩ := map_eq_some_iff.mp hw
  obtain ⟨t, ha, ht, -⟩ := gatewayWrite_holds hp ho [97]
  have hs : snapshot e.1 = some [97] := contents_of_holds ho (by simp; omega)
  have hl : e.1.length > 0 := by
    obtain ⟨r, hr, -, hv⟩ := ho
    have hr1 : r.len = 1 := by
      rw [← CellRing.length_view, hv, held_map_of_le (by simp; omega)]
      rfl
    rw [hr]
    simp [ofRing, hr1]
  have he : ¬ (newRingBuffer (cap : Int)).length > 0 := by simp [newRingBuffer]
  refine ⟨{ ring := e.1, pending := none, loop := .receiving, nexus := t, output := [97]
            uplink := { queue := [], dropped := false, conn := 2, alive := true, writer := true
                        wire := fun _ => [] } }, ?_,
    ⟨rfl, rfl, rfl, rfl, fun _ _ => rfl⟩, rfl, rfl, hs,
    contents_of_holds ht (by simpa using hc)⟩
  simp [oneByte, reconnect, run_cons, start, step, sendToNexus, sendChCapacity, Uplink.start,
    connect, send, transmit, receive, lose, stopWriter,
    setWire, SatelliteMessage.data, he, hre, hf, ha, hs, hl]

/-- The bytes of a session are in Nexus twice after an ordinary reconnect. -/
theorem replay_duplicates :
    ∃ s, run (step DefaultCapacity) (start DefaultCapacity) (oneByte ++ [.lose] ++ reconnect)
        = some s ∧ Quiescent s ∧ s.uplink.dropped = false ∧ s.output = [97] ∧
      snapshot s.ring = some [97] ∧ contents s.nexus = some [97, 97] ∧
      ¬ InSync (5 * 1024 * 1024) s := by
  obtain ⟨s, hru, hq, hd, ho, hr, hn⟩ := @run_reconnect (5 * 1024 * 1024) (by norm_num)
  refine ⟨s, hru, hq, hd, ho, hr, hn, fun hs => ?_⟩
  have heq := hs hq hd (by simp [ho])
  rw [hr, hn] at heq
  simp at heq

end Daao.Daemon.Replay

/-
Daao.Buffer.BinarySnapshot — the serialised form of a ring buffer
(`BinarySnapshot` and `ReadFromBinary` of `pkg/buffer/ring.go`).

A restored buffer holds its bytes from cell 0 on, whatever cell they began
at before, and keeps an array that is longer than its capacity. So the two
buffers are compared by their views (`Same`). The header is not checked
when it is read, and the bound of `data[8:8+length]` is a `uint32`.
-/
import Daao.Buffer.RingTheorems

namespace Daao.Buffer

open Daao.Lib List Option CellRing

/-- `binary.LittleEndian.PutUint32` of `uint32(n)`. -/
def putUint32 (n : Int) : List Byte :=
  [0, 8, 16, 24].map fun i => UInt8.ofNat ((n % 2 ^ 32).toNat / 2 ^ i)

/-- `binary.LittleEndian.Uint32`, which panics on fewer than four bytes. -/
def uint32 : List Byte → Option Nat
  | b₀ :: b₁ :: b₂ :: b₃ :: _ =>
    some (b₀.toNat + b₁.toNat * 2 ^ 8 + b₂.toNat * 2 ^ 16 + b₃.toNat * 2 ^ 24)
  | _ => none

/-- Behind the header of eight bytes the slice is filled as in the other
snapshot methods. -/
def binarySnapshot (rb : RingBuffer) : Option (List Byte) := do
  let body ← if rb.length > 0 then copyOut rb else goMake 0 rb.length
  some (putUint32 rb.length ++ putUint32 rb.capacity ++ body)

def makeRoom (cells : List Byte) (capacity : Nat) : List Byte :=
  if cells.length < capacity then List.replicate capacity 0 else cells

/-- `copy(rb.data, data[8:8+length])`, if there is anything to copy. -/
def copyIn (cells data : List Byte) (length : Nat) : Option (List Byte) :=
  if length > 0 then (goSlice data 8 ((8 + length) % 2 ^ 32 : Nat)).map (goCopy cells)
  else some cells

/-- The buffer after `ReadFromBinary(data)`; false is `ErrInvalidSnapshot`. -/
def readFromBinary (rb : RingBuffer) (data : List Byte) : Option (RingBuffer × Bool) :=
  if data.length < 8 then some (rb, false)
  else do
    let length ← uint32 data
    let capacity ← uint32 (data.drop 4)
    if data.length < 8 + length then some (rb, false)
    else do
      let head ← goMod length capacity
      let cells ← copyIn (makeRoom rb.data capacity) data length
      some ({ data := cells, head := head, length := length, capacity := capacity }, true)

/-! ## 1. Writing and reading the header -/

theorem uint32_putUint32 {n : Nat} (h : n < 2 ^ 32) (e : List Byte) :
    uint32 (putUint32 n ++ e) = some n := by
  simp [putUint32, uint32]
  omega

theorem binarySnapshot_withSpare (r : CellRing Byte) (spare : List Byte) :
    binarySnapshot (withSpare (ofRing r) spare)
      = some (putUint32 r.len ++ putUint32 r.cap ++ r.view) := by
  unfold binarySnapshot
  by_cases h : r.len = 0
  · have hn : r.view = [] := length_eq_zero_iff.mp (by rw [length_view, h])
    simp [withSpare, ofRing, h, hn, goMake]
  have hp : (withSpare (ofRing r) spare).length > 0 := by simp [withSpare, ofRing]; omega
  rw [if_pos hp, copyOut_withSpare]
  rfl

theorem exists_uint32 {data : List Byte} (h : 8 ≤ data.length) :
    ∃ length capacity, uint32 data = some length ∧ uint32 (data.drop 4) = some capacity
      ∧ length < 2 ^ 32 := by
  rcases data with _ | ⟨a, _ | ⟨b, _ | ⟨c, _ | ⟨d, _ | ⟨e, _ | ⟨f, _ | ⟨g, _ | ⟨i, t⟩⟩⟩⟩⟩⟩⟩⟩
  all_goals simp at h
  have ha := a.toNat_lt
  have hb := b.toNat_lt
  have hc := c.toNat_lt
  have hd := d.toNat_lt
  exact ⟨_, _, rfl, rfl, by omega⟩

variable {data : List Byte} {length capacity : Nat}

/-- The header of `data` has these numbers, and the bytes it announces
are there. -/
structure Header (data : List Byte) (length capacity : Nat) : Prop where
  length_eq : uint32 data = some length
  capacity_eq : uint32 (data.drop 4) = some capacity
  length_lt : length < 2 ^ 32
  complete : 8 + length ≤ data.length

theorem readFromBinary_eq (h : Header data length capacity) (rb : RingBuffer) :
    readFromBinary rb data = (goMod length capacity).bind fun head =>
      (copyIn (makeRoom rb.data capacity) data length).bind fun c =>
        some ({ data := c, head := head, length := length, capacity := capacity }, true) := by
  have hle := h.complete
  simp only [readFromBinary, if_neg (show ¬ data.length < 8 by omega), h.length_eq, h.capacity_eq,
    bind_eq_bind, bind_some, if_neg (show ¬ data.length < 8 + length by omega)]

def Sane (length capacity : Nat) : Prop :=
  0 < capacity ∧ length ≤ capacity ∧ 8 + length < 2 ^ 32

theorem exists_restored (h : Header data length capacity) (hsa : Sane length capacity)
    (rb : RingBuffer) :
    ∃ r spare, readFromBinary rb data = some (withSpare (ofRing r) spare, true)
      ∧ r.cap = capacity ∧ r.view = (data.drop 8).take length := by
  obtain ⟨hp, hle, hlt⟩ := hsa
  have hd := h.complete
  have hr : capacity ≤ (makeRoom rb.data capacity).length := by
    unfold makeRoom
    split
    · simp
    · omega
  rw [readFromBinary_eq h, goMod_natCast _ hp]
  generalize makeRoom rb.data capacity = cells at hr ⊢
  have hb : ((data.drop 8).take length).length = length := by simp; omega
  have hre : copyIn cells data length = some (goCopy cells ((data.drop 8).take length)) := by
    unfold copyIn
    split
    · have hs := goSlice_natCast data (Nat.le_add_right 8 length) hd
      rw [drop_take, Nat.add_sub_cancel_left] at hs
      rw [Nat.mod_eq_of_lt hlt, show (8 : Int) = ((8 : Nat) : Int) from rfl, hs, map_some]
    · simp [goCopy, show length = 0 by omega]
  -- the ring's cells are the first `capacity` ones
  have hc : goCopy cells ((data.drop 8).take length)
      = ((data.drop 8).take length ++ (cells.drop length).take (capacity - length))
        ++ cells.drop capacity := by
    have hdr : cells.drop capacity = (cells.drop length).drop (capacity - length) := by
      rw [drop_drop, Nat.add_sub_of_le hle]
    rw [goCopy, hb, take_of_length_le (by omega), append_assoc, hdr, take_append_drop]
  have ha : ((data.drop 8).take length ++ (cells.drop length).take (capacity - length)).length
      = capacity := by
    simp
    omega
  refine ⟨load _ _ (by rw [ha]; exact hp), cells.drop capacity, ?_, ha, view_load _ _ _⟩
  simp [hre, hc, withSpare, ofRing, load, cap, ha, hb]

theorem header_of_readFromBinary (h : Header data length capacity) {rb rb' : RingBuffer} {ok : Bool}
    (hr : readFromBinary rb data = some (rb', ok)) :
    0 < capacity ∧ 8 + length < 2 ^ 32 ∧ ok = true ∧ rb'.length = length
      ∧ rb'.capacity = capacity := by
  have hl := h.length_lt
  rw [readFromBinary_eq h, bind_eq_some_iff] at hr
  obtain ⟨head, hm, hr⟩ := hr
  obtain ⟨c, hc, hr⟩ := bind_eq_some_iff.mp hr
  cases hr
  have hp : capacity ≠ 0 := by
    rintro rfl
    cases hm
  refine ⟨by omega, Nat.lt_of_not_le fun ho => ?_, rfl, rfl, rfl⟩
  -- the bound of the slice wraps around to less than 8
  have hn : goSlice data 8 ((8 + length) % 2 ^ 32 : Nat) = none := if_neg (by omega)
  rw [copyIn, if_pos (by omega), hn] at hc
  cases hc

/-! ## 2. Restoring a snapshot -/

/-- The two buffers answer every call that reads in the same way. -/
def Same (a b : RingBuffer) : Prop :=
  snapshot a = snapshot b ∧ snapshotWithLen a = snapshotWithLen b ∧ a.length = b.length
    ∧ a.capacity = b.capacity ∧ binarySnapshot a = binarySnapshot b

/-- Restoring the snapshot of `rb` into `other` succeeds, and the two are
the same after any further calls. -/
def Restores (rb other : RingBuffer) : Prop :=
  ∃ data other', binarySnapshot rb = some data ∧ readFromBinary other data = some (other', true)
    ∧ ∀ ops, ∃ a b, run apply rb ops = some a ∧ run apply other' ops = some b ∧ Same a b

variable {r r' : CellRing Byte} {spare : List Byte}

theorem same_of_view (hc : r'.cap = r.cap) (hv : r'.view = r.view) :
    Same (ofRing r) (withSpare (ofRing r') spare) := by
  have hl : r'.len = r.len := by rw [← r'.length_view, hv, r.length_view]
  have hb := binarySnapshot_withSpare r []
  rw [withSpare_nil] at hb
  refine ⟨?_, ?_, congrArg Nat.cast hl.symm, congrArg Nat.cast hc.symm, ?_⟩
  · rw [snapshot_ofRing, snapshot_eq_map, snapshotWithLen_withSpare, hv, map_some]
  · rw [snapshotWithLen_ofRing, snapshotWithLen_withSpare, hv, hl]
  · rw [hb, binarySnapshot_withSpare, hv, hl, hc]

theorem restores_ofRing_iff (hc : r.cap < 2 ^ 32) (t : RingBuffer) :
    Restores (ofRing r) t ↔ 8 + r.len < 2 ^ 32 := by
  have hle := r.len_le_cap
  have hbi := binarySnapshot_withSpare r []
  rw [withSpare_nil] at hbi
  have hh : Header (putUint32 r.len ++ putUint32 r.cap ++ r.view) r.len r.cap := by
    refine ⟨?_, ?_, by omega, by simp [putUint32]; omega⟩
    · rw [append_assoc, uint32_putUint32 (by omega)]
    · exact uint32_putUint32 hc _
  have hb : ((putUint32 r.len ++ putUint32 r.cap ++ r.view).drop 8).take r.len = r.view := by
    simp [putUint32]
  constructor
  · rintro ⟨data, ot', hd, hr, -⟩
    obtain rfl := some.inj (hbi.symm.trans hd)
    exact (header_of_readFromBinary hh hr).2.1
  intro hlt
  obtain ⟨r', spare, hr, hc', hv⟩ := exists_restored hh ⟨r.cap_pos, hle, hlt⟩ t
  rw [hb] at hv
  refine ⟨_, _, hbi, hr, fun p => ?_⟩
  refine ⟨_, _, run_apply_ofRing p r, run_apply_withSpare spare p r', ?_⟩
  apply same_of_view
  · rw [cap_foldl_applyRing, cap_foldl_applyRing, hc']
  · rw [view_foldl_applyRing, view_foldl_applyRing, hc', hv]

/-- **Restoring.** Whatever is in the other buffer, it cannot be told
from the first one afterwards, unless the snapshot is too long. -/
theorem restores_iff (capacity : UInt32) (ops : List Op) (other : RingBuffer) :
    ∃ rb, run apply (newRingBuffer (capacity.toNat : Int)) ops = some rb
      ∧ (Restores rb other ↔ 8 + rb.length < 2 ^ 32) := by
  obtain ⟨r, hr, -⟩ := exists_ofRing_newRingBuffer (capacity.toNat : Int)
  have hc : r.cap < 2 ^ 32 := by
    have heq : (newRingBuffer (capacity.toNat : Int)).capacity = r.cap := by rw [hr]; rfl
    have hlt := capacity.toNat_lt
    simp only [newRingBuffer, DefaultCapacity] at heq
    split at heq <;> omega
  refine ⟨_, by rw [hr]; exact run_apply_ofRing ops r, ?_⟩
  rw [restores_ofRing_iff (by rw [cap_foldl_applyRing]; exact hc)]
  exact Int.ofNat_lt.symm

/-- The capacity is 2^32 - 8 and the buffer is full. -/
theorem full_not_restored :
    ∃ rb, run apply (newRingBuffer ((2 ^ 32 - 8 : Nat) : Int))
        [.write (List.replicate (2 ^ 32 - 8) 0)] = some rb
      ∧ ¬ Restores rb (newRingBuffer 1) := by
  generalize hn : 2 ^ 32 - 8 = n
  obtain ⟨r, hru, hc, hv⟩ := run_new_eq (show 0 < n by omega) [.write (replicate n 0)]
  have hl : r.len = n := by
    have hw : (sinceReset (atoms [.write (replicate n 0)])).length = n := by
      rw [show atoms [.write (replicate n 0)] = (replicate n 0).map some by simp [atoms],
        sinceReset_map_some, length_replicate]
    rw [← r.length_view, hv, length_held (by omega), hw, Nat.min_self]
  refine ⟨_, hru, fun hr => ?_⟩
  have hlt := (restores_ofRing_iff (by omega) _).mp hr
  omega

/-! ## 3. Reading any bytes -/

/-- Reading `data` does not panic. If it fails nothing has changed, and if
it succeeds no later call panics and the length stays within the capacity. -/
def ReadsSafely (rb : RingBuffer) (data : List Byte) : Prop :=
  ∃ rb' ok, readFromBinary rb data = some (rb', ok) ∧ (ok = false → rb' = rb)
    ∧ (ok = true → ∀ ops, ∃ rb'', run apply rb' ops = some rb'' ∧ (snapshot rb'').isSome
      ∧ (snapshotWithLen rb'').isSome ∧ (binarySnapshot rb'').isSome
      ∧ rb''.length ≤ rb''.capacity)

/-- Reading is safe exactly where every header that is read is sane. -/
theorem readsSafely_iff (rb : RingBuffer) (data : List Byte) :
    ReadsSafely rb data ↔ ∀ length capacity, Header data length capacity →
      Sane length capacity := by
  constructor
  · rintro ⟨rb', ok, hr, -, hok⟩ length capacity h
    obtain ⟨hp, hlt, rfl, hl, hc⟩ := header_of_readFromBinary h hr
    obtain ⟨rb'', hru, -, -, -, hle⟩ := hok rfl []
    cases hru
    exact ⟨hp, by omega, hlt⟩
  intro hs
  by_cases h8 : data.length < 8
  · exact ⟨rb, false, if_pos h8, fun _ => rfl, nofun⟩
  obtain ⟨length, capacity, hl, hc, hlt⟩ := exists_uint32 (Nat.le_of_not_lt h8)
  by_cases hle : data.length < 8 + length
  · refine ⟨rb, false, ?_, fun _ => rfl, nofun⟩
    simp only [readFromBinary, if_neg h8, hl, hc, bind_eq_bind, bind_some, if_pos hle]
  have h : Header data length capacity := ⟨hl, hc, hlt, by omega⟩
  obtain ⟨r, spare, hr, -⟩ := exists_restored h (hs _ _ h) rb
  refine ⟨_, true, hr, nofun, fun _ ops => ⟨_, run_apply_withSpare spare ops r, ?_⟩⟩
  refine ⟨?_, ?_, ?_, Int.ofNat_le.mpr (len_le_cap _)⟩
  · rw [snapshot_eq_map, snapshotWithLen_withSpare]; rfl
  · rw [snapshotWithLen_withSpare]; rfl
  · rw [binarySnapshot_withSpare]; rfl

/-- A header of zeros is a division by zero. -/
theorem zeros_not_readsSafely : ¬ ReadsSafely (newRingBuffer 1) (List.replicate 8 0) := by
  rintro ⟨rb', ok, hr, -⟩
  have hp : readFromBinary (newRingBuffer 1) (replicate 8 0) = none := by decide
  rw [hp] at hr
  cases hr

end Daao.Buffer

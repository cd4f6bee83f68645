/-
Daao.Buffer.RingTheorems — what a ring buffer holds after any sequence of
`Write` and `Reset` calls.

§1 ties `RingBuffer` to the abstract ring of `Daao.Lib.Ring`: every call
on a buffer that stands for a ring succeeds and leaves one that stands
for the ring after the call. The only step with an argument in it is
`evictSearch_backOff`. From there on the physical array is gone.

`held` is what the buffer holds, `newest` what a scrollback of that
capacity ought to hold. They part company at the first eviction, because
`findEvictPosition` starts at the byte that was just written: after an
ordinary character it stops at once, `head` goes back onto that byte, and
the snapshot, which starts reading at `head`, shows the newest byte FIRST.
`EvictsInPlace` is the exact condition under which this cannot be seen.
-/
import Daao.Buffer.Ring
import Daao.Lib.Ring
import Daao.Lib.Trace

namespace Daao.Buffer

open Daao.Lib List Option

/-! ## 1. The buffer refines the abstract ring -/

def ofRing (r : CellRing Byte) : RingBuffer where
  data := r.cells
  head := r.head
  length := r.len
  capacity := r.cap

/-- An array may be longer than the capacity; no call uses what is beyond. -/
def withSpare (rb : RingBuffer) (spare : List Byte) : RingBuffer :=
  { rb with data := rb.data ++ spare }

@[simp] theorem withSpare_nil (rb : RingBuffer) : withSpare rb [] = rb := by
  simp [withSpare]

/-- How far `findEvictPosition` moves `head` back when the full buffer
reads `w`: one cell more than the run of non-boundary bytes right before
the newest byte, within the search limit. -/
def backOff (w : List Byte) : Nat :=
  min ((w.dropLast.reverse.takeWhile fun b => !boundaryByte b).length + 1) (min 32 w.length)

theorem goMod_pred (a : Nat) {b : Nat} (hb : 0 < b) :
    goMod ((a : Int) - 1 + (b : Int)) (b : Int) = some (((a + (b - 1)) % b : Nat) : Int) := by
  simpa using goMod_sub a 1 hb hb

variable {r : CellRing Byte} (spare : List Byte)

open CellRing

open Nat

theorem getElem?_prevPos (h : r.len = r.cap) {i : Nat} (hi : i + 1 < r.cap) :
    r.cells[(r.head + (r.cap - (i + 1)) + (r.cap - 1)) % r.cap]?
      = r.view.dropLast.reverse[i]? := by
  have hl : r.view.dropLast.length = r.cap - 1 := by simp [h]
  have hix : r.head + (r.cap - (i + 1)) + (r.cap - 1)
      = (r.cap - 1 - 1 - i + r.head) + r.cap := by omega
  rw [getElem?_reverse (by omega), hl, getElem?_dropLast, if_pos (by simp; omega),
    view_of_full h, getElem?_rotate (by show _ < r.cap; omega), hix,
    add_mod_right]
  rfl

theorem evictSearch_succ (h : r.len = r.cap) (n : Nat) {i : Nat} (hi : i < r.cap) :
    evictSearch (withSpare (ofRing r) spare) (((r.head + (r.cap - 1)) % r.cap : Nat) : Int)
        (n + 1) (i : Int)
      = ((r.cells[(r.head + (r.cap - (i + 1)) + (r.cap - 1)) % r.cap]?).map boundaryByte).bind
          fun ok => if ok then some (some (((r.head + (r.cap - (i + 1))) % r.cap : Nat) : Int))
            else evictSearch (withSpare (ofRing r) spare)
              (((r.head + (r.cap - 1)) % r.cap : Nat) : Int) n ((i + 1 : Nat) : Int) := by
  have hc := r.cap_pos
  have hp : ((r.head + (r.cap - 1)) % r.cap + (r.cap - i)) % r.cap
      = (r.head + (r.cap - (i + 1))) % r.cap := by
    rw [mod_add_mod, show r.head + (r.cap - 1) + (r.cap - i)
      = r.head + (r.cap - (i + 1)) + r.cap by omega, add_mod_right]
  have hne : (r.len : Int) ≠ 0 := by omega
  have hlt : (r.head + (r.cap - (i + 1)) + (r.cap - 1)) % r.cap < r.cells.length := mod_lt _ hc
  simp only [evictSearch, withSpare, ofRing, goMod_sub _ i hc hi.le, hp, bind_eq_bind,
    bind_some, goMod_pred _ hc, mod_add_mod, isANSIBoundary, if_neg hne,
    goIndex_natCast, getElem?_append_left hlt]
  rfl

theorem evictSearch_backOff (h : r.len = r.cap) {limit : Nat} (hl : limit ≤ r.cap) :
    ∀ n i, i + n = limit →
    ((evictSearch (withSpare (ofRing r) spare) (((r.head + (r.cap - 1)) % r.cap : Nat) : Int) n
      (i : Int)).bind fun f => match f with
        | some p => some p
        | none => goMod ((r.head : Int) - (limit : Int) + (r.cap : Int)) (r.cap : Int))
      = some (((r.head + (r.cap - min
          (((r.view.dropLast.reverse.drop i).takeWhile fun b => !boundaryByte b).length + i + 1)
          limit)) % r.cap : Nat) : Int)
  | 0, i, hin => by
      have hm : ∀ t, min (t + i + 1) limit = limit := by omega
      simp only [evictSearch, bind_some, hm]
      exact goMod_sub _ _ r.cap_pos hl
  | n + 1, i, hin => by
      have hi : i < r.cap := by omega
      have hlt : (r.head + (r.cap - (i + 1)) + (r.cap - 1)) % r.cap < r.cells.length :=
        mod_lt _ r.cap_pos
      have hle : r.view.dropLast.reverse.length = r.cap - 1 := by simp [h]
      rw [evictSearch_succ spare h n hi, getElem?_eq_getElem hlt]
      simp only [map_some, bind_some]
      by_cases hla : i + 1 < r.cap
      · -- an older byte than the newest one is tested
        have hc := getElem?_prevPos h hla
        rw [getElem?_eq_getElem hlt, getElem?_eq_getElem (by omega), some.injEq] at hc
        have hi' : i < r.view.dropLast.reverse.length := by omega
        rw [hc, drop_eq_getElem_cons hi', takeWhile_cons]
        cases hb : boundaryByte r.view.dropLast.reverse[i] with
        | true => grind
        | false =>
          simp only [Bool.not_false, if_true, length_cons, Bool.false_eq_true, if_false]
          have ha : ∀ t, t + (i + 1) + 1 = t + 1 + i + 1 := by omega
          rw [evictSearch_backOff h hl n (i + 1) (by omega), ha]
      · -- the search went once around: both outcomes leave `head` in place
        have hn : n = 0 := by omega
        have hca : i + 1 = limit := by omega
        have hd : r.view.dropLast.reverse.drop i = [] := drop_eq_nil_of_le (by omega)
        subst hn
        rw [hd]
        cases boundaryByte (r.cells[(r.head + (r.cap - (i + 1)) + (r.cap - 1)) % r.cap]) with
        | true => simp [hca]
        | false =>
          simp only [evictSearch, Bool.false_eq_true, if_false, bind_some, hca,
            takeWhile_nil, length_nil, zero_add, min_self]
          exact goMod_sub _ _ r.cap_pos hl

theorem findEvictPosition_withSpare (h : r.len = r.cap) :
    findEvictPosition (withSpare (ofRing r) spare)
      = some (((r.head + (r.cap - backOff r.view)) % r.cap : Nat) : Int) := by
  have hl : (withSpare (ofRing r) spare).searchLimit = ((min 32 r.cap : Nat) : Int) := by
    simp only [RingBuffer.searchLimit, withSpare, ofRing, h]
    split <;> omega
  have hlo := evictSearch_backOff spare h (min_le_right 32 r.cap) (min 32 r.cap) 0 (by omega)
  unfold findEvictPosition backOff
  rw [hl, Int.toNat_natCast, length_view, h]
  show (goMod ((r.head : Int) - 1 + (r.cap : Int)) (r.cap : Int)).bind _ = _
  rw [goMod_pred _ r.cap_pos, bind_some]
  exact hlo

def putByte (r : CellRing Byte) (b : Byte) : CellRing Byte :=
  if h : r.len < r.cap then r.push b h
  else
    have hfull : r.len = r.cap := Nat.le_antisymm r.len_le (Nat.le_of_not_lt h)
    (r.overwrite b hfull).seekBack (backOff (r.overwrite b hfull).view) (r.overwrite_full b hfull)

variable {rb : RingBuffer}

theorem writeByte_of_lt {b : Byte} {data : List Byte} {head : Int}
    (hs : goSet rb.data rb.head b = some data)
    (hm : goMod (rb.head + 1) rb.capacity = some head) (hlt : rb.length < rb.capacity) :
    writeByte rb b
      = some { data := data, head := head, length := rb.length + 1, capacity := rb.capacity } := by
  simp [writeByte, hs, hm, hlt]

theorem writeByte_of_full {b : Byte} {data : List Byte} {head : Int}
    (hs : goSet rb.data rb.head b = some data)
    (hm : goMod (rb.head + 1) rb.capacity = some head) (hlt : ¬ rb.length < rb.capacity) :
    writeByte rb b
      = (findEvictPosition { rb with data := data, head := head }).map
          fun p => { rb with data := data, head := p } := by
  simp [writeByte, hs, hm, hlt, map_eq_bind]

theorem writeByte_withSpare (r : CellRing Byte) (b : Byte) :
    writeByte (withSpare (ofRing r) spare) b = some (withSpare (ofRing (putByte r b)) spare) := by
  have hs : goSet (withSpare (ofRing r) spare).data (withSpare (ofRing r) spare).head b
      = some (r.cells.set r.head b ++ spare) := by
    have hlt : r.head < (r.cells ++ spare).length := by simpa using Nat.lt_add_right _ r.head_lt
    rw [← set_append_left _ _ r.head_lt]
    exact goSet_natCast (r.cells ++ spare) hlt b
  have hm : goMod ((withSpare (ofRing r) spare).head + 1) (withSpare (ofRing r) spare).capacity
      = some (((r.head + 1) % r.cap : Nat) : Int) := by
    simpa [withSpare, ofRing] using goMod_natCast (r.head + 1) r.cap_pos
  unfold putByte
  by_cases h : r.len < r.cap
  · have hlt : (ofRing r).length < (ofRing r).capacity := by simpa [ofRing] using h
    rw [writeByte_of_lt hs hm hlt, dif_pos h]
    simp [withSpare, ofRing, push, cap]
  have hf : r.len = r.cap := le_antisymm r.len_le (Nat.le_of_not_lt h)
  have hlt : ¬ (ofRing r).length < (ofRing r).capacity := by simpa [ofRing] using h
  have ho : { withSpare (ofRing r) spare with
      data := r.cells.set r.head b ++ spare
      head := (((r.head + 1) % r.cap : Nat) : Int) }
        = withSpare (ofRing (r.overwrite b hf)) spare := by
    simp [withSpare, ofRing, overwrite, cap]
  rw [writeByte_of_full hs hm hlt, ho,
    findEvictPosition_withSpare spare (r.overwrite_full b hf), dif_neg h]
  simp [withSpare, ofRing, seekBack, overwrite, cap]

def keep (cap : Nat) (v : List Byte) (b : Byte) : List Byte :=
  if v.length < cap then v ++ [b]
  else (v.tail ++ [b]).rotate (cap - backOff (v.tail ++ [b]))

@[simp] theorem cap_putByte (r : CellRing Byte) (b : Byte) : (putByte r b).cap = r.cap := by
  unfold putByte
  split <;> simp [push, overwrite, seekBack, cap]

theorem view_putByte (r : CellRing Byte) (b : Byte) : (putByte r b).view = keep r.cap r.view b := by
  unfold putByte keep
  rw [length_view]
  split
  · exact view_push _ _ _
  · grind [overwrite, cap, view_seekBack, view_overwrite]

theorem copyOut_contiguous {s : Int} {p : List Byte}
    (hs : goMod (rb.head - rb.length + rb.capacity) rb.capacity = some s)
    (hl : 0 ≤ rb.length) (hc : s + rb.length ≤ rb.capacity)
    (hp : goSlice rb.data s (s + rb.length) = some p) :
    copyOut rb = some (goCopy (replicate rb.length.toNat 0) p) := by
  simp [copyOut, hs, goMake, hl, hc, hp]

theorem copyOut_wrapped {s : Int} {d newer : List Byte}
    (hs : goMod (rb.head - rb.length + rb.capacity) rb.capacity = some s)
    (hl : 0 ≤ rb.length) (hc : ¬ s + rb.length ≤ rb.capacity)
    (holder : goSlice rb.data s rb.data.length = some d)
    (hn : goSlice rb.data 0 rb.head = some newer) :
    copyOut rb
      = goCopyAt (goCopy (replicate rb.length.toNat 0) d) (rb.capacity - s) newer := by
  simp [copyOut, hs, goMake, hl, hc, holder, hn]

theorem start_ofRing (r : CellRing Byte) :
    goMod ((ofRing r).head - (ofRing r).length + (ofRing r).capacity) (ofRing r).capacity
      = some ((if r.len < r.cap then 0 else r.head : Nat) : Int) := by
  have hm := goMod_sub r.head r.len r.cap_pos r.len_le
  have hp : (r.head + (r.cap - r.len)) % r.cap = if r.len < r.cap then 0 else r.head := by
    split
    · rename_i hr
      rw [r.linear hr, show r.len + (r.cap - r.len) = r.cap by omega, mod_self]
    · rw [show r.head + (r.cap - r.len) = r.head by omega, mod_eq_of_lt r.head_lt_cap]
  rw [hp] at hm
  exact hm

theorem copyOut_withSpare (r : CellRing Byte) :
    copyOut (withSpare (ofRing r) spare) = some r.view := by
  have hle := r.len_le_cap
  have hlt := r.head_lt
  have hs := start_ofRing r
  change goMod ((withSpare (ofRing r) spare).head - (withSpare (ofRing r) spare).length
    + (withSpare (ofRing r) spare).capacity) (withSpare (ofRing r) spare).capacity = _ at hs
  have hl : (0 : Int) ≤ (withSpare (ofRing r) spare).length := Int.natCast_nonneg _
  have hp : goSlice (withSpare (ofRing r) spare).data ((0 : Nat) : Int)
      (((0 : Nat) : Int) + (ofRing r).length) = some (r.cells.take r.len) := by
    have hsl := goSlice_natCast (r.cells ++ spare) (zero_le r.len)
      (by simpa using le_add_right_of_le r.len_le)
    simpa [withSpare, ofRing, take_append_of_le_length r.len_le] using hsl
  have ht : (r.cells.take r.len).length = r.len := by simpa using r.len_le
  have hc := goCopy_replicate (0 : Byte) (r.cells.take r.len)
  rw [ht] at hc
  by_cases hr : r.len < r.cap
  · rw [if_pos hr] at hs
    rw [copyOut_contiguous hs hl (by simpa [withSpare, ofRing] using hle) hp, view, if_pos hr]
    exact congrArg some hc
  rw [if_neg hr] at hs
  have hf : r.len = r.cap := le_antisymm hle (Nat.le_of_not_lt hr)
  rw [view_of_full hf, rotate_eq_drop_append_take hlt.le]
  by_cases hz : r.head = 0
  · rw [hz] at hs ⊢
    rw [copyOut_contiguous hs hl (by simp [withSpare, ofRing, hf]) hp]
    simpa [hf, cap, withSpare, ofRing] using hc
  -- the older part is copied first, the newer one over the spare cells behind it
  have hin : r.head ≤ (r.cells ++ spare).length := by simp; omega
  have holder := goSlice_natCast (r.cells ++ spare) hin (le_refl _)
  have hn := goSlice_natCast (r.cells ++ spare) (zero_le r.head) hin
  rw [take_length, drop_append_of_le_length hlt.le] at holder
  rw [take_append_of_le_length hlt.le, drop_zero] at hn
  rw [copyOut_wrapped hs hl (by simp [withSpare, ofRing, hf]; omega) holder hn]
  have hc := goCopyAt_goCopy (0 : Byte) (r.cells.drop r.head) spare (r.cells.take r.head)
  have hpa : (r.cells.drop r.head).length + (r.cells.take r.head).length
      = r.cells.length := by simp; omega
  have hfi : ((r.cells.drop r.head).length : Int) = (r.cap : Int) - (r.head : Int) := by
    simp [cap]; omega
  rw [hpa, hfi] at hc
  simpa [withSpare, ofRing, hf, cap] using hc

theorem snapshotWithLen_withSpare (r : CellRing Byte) :
    snapshotWithLen (withSpare (ofRing r) spare) = some (r.view, (r.len : Int)) := by
  unfold snapshotWithLen
  by_cases h : r.len = 0
  · have hn : r.view = [] := length_eq_zero_iff.mp (by rw [length_view, h])
    rw [if_pos (by simp [withSpare, ofRing, h]), hn, h]
    rfl
  rw [if_neg (by simpa [withSpare, ofRing] using h), copyOut_withSpare]
  rfl

theorem snapshotWithLen_ofRing (r : CellRing Byte) :
    snapshotWithLen (ofRing r) = some (r.view, (r.len : Int)) := by
  simpa using snapshotWithLen_withSpare [] r

theorem snapshot_eq_map (rb : RingBuffer) : snapshot rb = (snapshotWithLen rb).map (·.1) := by
  unfold snapshot snapshotWithLen
  split <;> simp [Function.comp_def]

theorem snapshot_ofRing (r : CellRing Byte) : snapshot (ofRing r) = some r.view := by
  rw [snapshot_eq_map, snapshotWithLen_ofRing, map_some]

theorem foldlM_writeByte_withSpare (p : List Byte) (r : CellRing Byte) :
    p.foldlM writeByte (withSpare (ofRing r) spare)
      = some (withSpare (ofRing (p.foldl putByte r)) spare) := by
  induction p generalizing r with
  | nil => rfl
  | cons b p ih =>
    rw [foldlM_cons, writeByte_withSpare]
    exact ih (putByte r b)

theorem foldlM_writeByte_ofRing (p : List Byte) (r : CellRing Byte) :
    p.foldlM writeByte (ofRing r) = some (ofRing (p.foldl putByte r)) := by
  simpa using foldlM_writeByte_withSpare [] p r

def applyRing (r : CellRing Byte) : Op → CellRing Byte
  | .write p => p.foldl putByte r
  | .reset => CellRing.empty r.cells r.cap_pos

theorem apply_withSpare (r : CellRing Byte) (op : Op) :
    apply (withSpare (ofRing r) spare) op = some (withSpare (ofRing (applyRing r op)) spare) := by
  cases op with
  | write p =>
    show (write (withSpare (ofRing r) spare) p).map (·.1) = _
    unfold write
    by_cases hp : p.length = 0
    · rw [if_pos hp, length_eq_zero_iff.mp hp]
      rfl
    rw [if_neg hp, foldlM_writeByte_withSpare]
    rfl
  | reset => rfl

theorem run_apply_withSpare (p : List Op) (r : CellRing Byte) :
    run apply (withSpare (ofRing r) spare) p
      = some (withSpare (ofRing (p.foldl applyRing r)) spare) := by
  induction p generalizing r with
  | nil => rfl
  | cons op p ih =>
    rw [run_cons, apply_withSpare]
    exact ih (applyRing r op)

theorem run_apply_ofRing (ops : List Op) (r : CellRing Byte) :
    run apply (ofRing r) ops = some (ofRing (ops.foldl applyRing r)) := by
  simpa using run_apply_withSpare [] ops r

variable {cap : Nat}

theorem newRingBuffer_eq (h : 0 < cap) :
    newRingBuffer (cap : Int)
      = ofRing (empty (replicate cap 0) (by simpa using h)) := by
  have hne : cap ≠ 0 := by omega
  simp [newRingBuffer, ofRing, empty, CellRing.cap, hne]

theorem exists_ofRing_newRingBuffer (ca : Int) :
    ∃ r, newRingBuffer ca = ofRing r ∧ r.view = [] := by
  by_cases h : ca ≤ 0
  · have hc : (DefaultCapacity.toNat : Int) = DefaultCapacity :=
      Int.toNat_of_nonneg (by decide)
    have hd : newRingBuffer ca = newRingBuffer DefaultCapacity := by
      unfold newRingBuffer
      rw [if_pos h, if_neg (by decide : ¬ DefaultCapacity ≤ 0)]
    rw [hd, ← hc]
    exact ⟨_, newRingBuffer_eq (by decide), view_empty _ _⟩
  obtain ⟨cap, rfl⟩ := Int.eq_ofNat_of_zero_le (by omega : 0 ≤ ca)
  exact ⟨_, newRingBuffer_eq (by omega), view_empty _ _⟩

theorem snapshot_newRingBuffer (ca : Int) : snapshot (newRingBuffer ca) = some [] := by
  obtain ⟨r, hr, hv⟩ := exists_ofRing_newRingBuffer ca
  rw [hr, snapshot_ofRing, hv]

theorem exists_write_ofRing (r : CellRing Byte) (p : List Byte) :
    ∃ n, write (ofRing r) p = some (ofRing (p.foldl putByte r), n) := by
  have ha := apply_withSpare [] r (.write p)
  rw [withSpare_nil, withSpare_nil] at ha
  obtain ⟨e, hw, hr⟩ := map_eq_some_iff.mp ha
  refine ⟨e.2, ?_⟩
  rw [hw, ← show e.1 = ofRing (p.foldl putByte r) from hr]

theorem exists_write_newRingBuffer (ca : Int) (b : Byte) :
    ∃ rb n, write (newRingBuffer ca) [b] = some (rb, n) ∧ snapshot rb = some [b] := by
  obtain ⟨r, hr, hv⟩ := exists_ofRing_newRingBuffer ca
  obtain ⟨n, hw⟩ := exists_write_ofRing r [b]
  refine ⟨_, n, by rw [hr]; exact hw, ?_⟩
  have hc : r.view.length < r.cap := by
    rw [hv]
    exact r.cap_pos
  rw [snapshot_ofRing, foldl_cons, foldl_nil, view_putByte, keep, if_pos hc, hv]
  rfl

/-! ## 2. The calls of a run, byte by byte -/

def atoms (ops : List Op) : List (Option Byte) :=
  ops.flatMap fun op => match op with
    | .write p => p.map some
    | .reset => [none]

def sinceReset (q : List (Option Byte)) : List Byte :=
  q.foldl (fun acc o => match o with | some b => acc ++ [b] | none => []) []

@[simp] theorem sinceReset_snoc_some (q : List (Option Byte)) (b : Byte) :
    sinceReset (q ++ [some b]) = sinceReset q ++ [b] := by
  simp [sinceReset]

@[simp] theorem sinceReset_snoc_none (q : List (Option Byte)) : sinceReset (q ++ [none]) = [] := by
  simp [sinceReset]

theorem sinceReset_map_some (p : List Byte) : sinceReset (p.map some) = p := by
  induction p using reverseRecOn with
  | nil => rfl
  | append_singleton p b ih => simp [ih]

/-- What a buffer of capacity `cap` holds after the given bytes and resets. -/
def held (cap : Nat) (q : List (Option Byte)) : List Byte :=
  q.foldl (fun v o => match o with | some b => keep cap v b | none => []) []

@[simp] theorem held_snoc_some (cap : Nat) (q : List (Option Byte)) (b : Byte) :
    held cap (q ++ [some b]) = keep cap (held cap q) b := by
  simp [held]

@[simp] theorem held_snoc_none (cap : Nat) (q : List (Option Byte)) :
    held cap (q ++ [none]) = [] := by
  simp [held]

theorem cap_foldl_putByte (p : List Byte) (r : CellRing Byte) :
    (p.foldl putByte r).cap = r.cap := by
  induction p generalizing r with
  | nil => rfl
  | cons b p ih => rw [foldl_cons, ih, cap_putByte]

theorem cap_applyRing (r : CellRing Byte) (op : Op) : (applyRing r op).cap = r.cap := by
  cases op with
  | write p => exact cap_foldl_putByte p r
  | reset => rfl

theorem cap_foldl_applyRing (p : List Op) (r : CellRing Byte) :
    (p.foldl applyRing r).cap = r.cap := by
  induction p generalizing r with
  | nil => rfl
  | cons op p ih => rw [foldl_cons, ih, cap_applyRing]

theorem view_foldl_putByte (p : List Byte) (r : CellRing Byte) :
    (p.foldl putByte r).view = p.foldl (keep r.cap) r.view := by
  induction p generalizing r with
  | nil => rfl
  | cons b p ih => rw [foldl_cons, ih, cap_putByte, view_putByte, foldl_cons]

theorem view_foldl_applyRing (s : List Op) (r : CellRing Byte) :
    (s.foldl applyRing r).view
      = (atoms s).foldl
          (fun v o => match o with | some b => keep r.cap v b | none => []) r.view := by
  induction s generalizing r with
  | nil => rfl
  | cons op s ih =>
    rw [foldl_cons, ih, cap_applyRing]
    cases op with
    | write p =>
      simp only [atoms, applyRing, flatMap_cons, foldl_append, view_foldl_putByte, foldl_map]
    | reset =>
      have hn : (applyRing r .reset).view = [] := view_empty _ r.cap_pos
      simp [hn, atoms]

theorem run_new_eq (h : 0 < cap) (p : List Op) :
    ∃ r, run apply (newRingBuffer (cap : Int)) p = some (ofRing r)
      ∧ r.cap = cap ∧ r.view = held cap (atoms p) := by
  refine ⟨p.foldl applyRing (empty (replicate cap 0) (by simpa using h)), ?_, ?_, ?_⟩
  · rw [newRingBuffer_eq h, run_apply_ofRing]
  · rw [cap_foldl_applyRing]
    simp [empty, CellRing.cap]
  rw [view_foldl_applyRing, view_empty]
  simp only [empty, CellRing.cap, length_replicate]
  rfl

/-! ## 3. When the held bytes are the newest ones -/

/-- The newest `cap` bytes since the last `Reset`, or all of them. -/
def newest (cap : Nat) (q : List (Option Byte)) : List Byte :=
  (sinceReset q).drop ((sinceReset q).length - cap)

theorem length_newest (cap : Nat) (q : List (Option Byte)) :
    (newest cap q).length = min cap (sinceReset q).length := by
  simp only [newest, length_drop]
  omega

variable {q : List (Option Byte)}

theorem newest_eq_of_le (h : (sinceReset q).length ≤ cap) : newest cap q = sinceReset q := by
  rw [newest, Nat.sub_eq_zero_of_le h, drop_zero]

theorem newest_snoc_full (hc : 0 < cap) (h : cap ≤ (sinceReset q).length) (b : Byte) :
    newest cap (q ++ [some b]) = (newest cap q).tail ++ [b] := by
  simp only [newest, sinceReset_snoc_some, length_append, length_singleton]
  rw [tail_drop, drop_append_of_le_length (by omega)]
  congr 2
  omega

theorem newest_snoc_room (h : (sinceReset q).length < cap) (b : Byte) :
    newest cap (q ++ [some b]) = newest cap q ++ [b] := by
  rw [newest_eq_of_le (by simp; omega), newest_eq_of_le h.le, sinceReset_snoc_some]

theorem length_keep (hc : 0 < cap) {v : List Byte} (hv : v.length ≤ cap) (b : Byte) :
    (keep cap v b).length = min cap (v.length + 1) := by
  unfold keep
  split
  · simp; omega
  · simp; omega

theorem length_held (hc : 0 < cap) (q : List (Option Byte)) :
    (held cap q).length = min cap (sinceReset q).length := by
  induction q using reverseRecOn with
  | nil => simp [held, sinceReset]
  | append_singleton q o ih =>
    cases o with
    | none => simp
    | some b =>
      rw [held_snoc_some, length_keep hc (by omega), ih, sinceReset_snoc_some]
      simp
      omega

theorem suffix_newest_iff (hc : 0 < cap) (q : List (Option Byte)) :
    held cap q <:+ sinceReset q ↔ held cap q = newest cap q := by
  constructor
  · intro h
    rw [suffix_iff_eq_drop] at h
    rw [h, newest, length_held hc]
    congr 1
    omega
  intro h
  rw [h]
  exact drop_suffix _ _

/-- Whenever more than `cap` bytes have been written since a `Reset`, the
newest `cap` of them read the same after their last `backOff` bytes are
moved to the front: the step back of the write position shows nowhere. -/
def EvictsInPlace (cap : Nat) (q : List (Option Byte)) : Prop :=
  ∀ pre, pre <+: q → cap < (sinceReset pre).length →
    (newest cap pre).rotate (cap - backOff (newest cap pre)) = newest cap pre

theorem keep_newest_iff (hc : 0 < cap) (q : List (Option Byte)) (b : Byte) :
    keep cap (newest cap q) b = newest cap (q ++ [some b]) ↔
      (cap < (sinceReset (q ++ [some b])).length →
        (newest cap (q ++ [some b])).rotate (cap - backOff (newest cap (q ++ [some b])))
          = newest cap (q ++ [some b])) := by
  have hl := length_newest cap q
  have hs : (sinceReset (q ++ [some b])).length = (sinceReset q).length + 1 := by simp
  unfold keep
  by_cases h : (sinceReset q).length < cap
  · rw [if_pos (by omega), newest_snoc_room h]
    exact ⟨fun _ hlt => absurd hlt (by omega), fun _ => rfl⟩
  rw [if_neg (by omega), ← newest_snoc_full hc (by omega)]
  exact ⟨fun heq _ => heq, fun hi => hi (by omega)⟩

theorem held_eq_newest_iff (hc : 0 < cap) (q : List (Option Byte)) :
    (∀ p, p <+: q → held cap p = newest cap p) ↔ EvictsInPlace cap q := by
  constructor
  · intro ha p hp hlt
    rcases eq_nil_or_concat p with rfl | ⟨e', o, rfl⟩
    · simp [sinceReset] at hlt
    cases o with
    | none => simp at hlt
    | some b => grind [held_snoc_some, prefix_append, keep_newest_iff]
  intro hev p
  -- one byte or reset at a time, from the empty stream on
  induction p using reverseRecOn with
  | nil => intro _; simp [held, newest, sinceReset]
  | append_singleton p o ih =>
    intro hp
    have hih := ih ((prefix_append _ _).trans hp)
    cases o with
    | none => simp [newest]
    | some b =>
      rw [held_snoc_some, hih]
      exact (keep_newest_iff hc p b).mpr (hev _ hp)

/-! ## 4. Snapshots of a run -/

/-- What a reader of the buffer relies on: the calls do not panic, both
snapshot methods return a suffix of the bytes written since the last
`Reset`, and all of them while they fit. -/
def Faithful (cap : Nat) (ops : List Op) : Prop :=
  ∃ rb out n, run apply (newRingBuffer (cap : Int)) ops = some rb
    ∧ snapshot rb = some out ∧ snapshotWithLen rb = some (out, n)
    ∧ out <:+ sinceReset (atoms ops)
    ∧ ((sinceReset (atoms ops)).length ≤ cap → out = sinceReset (atoms ops))

theorem faithful_iff (hc : 0 < cap) (p : List Op) :
    Faithful cap p ↔ held cap (atoms p) = newest cap (atoms p) := by
  obtain ⟨r, hr, -, hv⟩ := run_new_eq hc p
  rw [← suffix_newest_iff hc]
  constructor
  · intro hf
    obtain ⟨rb, u, n, hrb, hs, -, hsu, -⟩ := hf
    rw [hr, some.injEq] at hrb
    rw [← hrb, snapshot_ofRing, some.injEq, hv] at hs
    rwa [hs]
  intro hsu
  refine ⟨ofRing r, r.view, r.len, hr, snapshot_ofRing r, snapshotWithLen_ofRing r, ?_, ?_⟩
  · rwa [hv]
  intro hle
  rw [hv, (suffix_newest_iff hc _).mp hsu, newest_eq_of_le hle]

theorem atoms_prefix {p ops : List Op} (h : p <+: ops) : atoms p <+: atoms ops := by
  obtain ⟨e, rfl⟩ := h
  exact ⟨atoms e, by simp [atoms]⟩

def singles (q : List (Option Byte)) : List Op :=
  q.map fun o => match o with
    | some b => .write [b]
    | none => .reset

theorem atoms_singles (q : List (Option Byte)) : atoms (singles q) = q := by
  induction q with
  | nil => rfl
  | cons o q ih =>
    cases o with
    | none => simpa [atoms, singles] using ih
    | some b => simpa [atoms, singles] using ih

/-- **Snapshots and eviction.** However the bytes are split into `Write`
calls, every snapshot along the way is faithful exactly when every
eviction is in place. -/
theorem snapshot_faithful_iff {cap : Nat} (hcap : 0 < cap) (ops : List Op) :
    (∀ ops', atoms ops' = atoms ops → ∀ pre, pre <+: ops' → Faithful cap pre) ↔
      EvictsInPlace cap (atoms ops) := by
  rw [← held_eq_newest_iff hcap]
  constructor
  · intro ha q hq
    have hp : singles q <+: singles (atoms ops) := hq.map _
    have hf := ha (singles (atoms ops)) (atoms_singles _) _ hp
    rwa [faithful_iff hcap, atoms_singles] at hf
  · grind [faithful_iff, atoms_prefix]

/-- Continuation bytes only, and a ring no longer than the search limit:
the search goes all the way round, and eviction is in place. -/
theorem snapshot_faithful_continuation :
    0 < 2 ∧ ∀ ops', atoms ops' = atoms [.write [0x80, 0x81], .write [0x82]] →
      ∀ pre, pre <+: ops' → Faithful 2 pre := by
  refine ⟨by decide, (snapshot_faithful_iff (by decide) _).mpr ?_⟩
  have ha : ∀ pre ∈ (atoms [.write [0x80, 0x81], .write [0x82]]).inits,
      2 < (sinceReset pre).length →
        (newest 2 pre).rotate (2 - backOff (newest 2 pre)) = newest 2 pre := by decide
  exact fun pre hp => ha pre ((mem_inits _ _).mpr hp)

/-- Capacity 4, `abcd` and then `e`: the snapshot is `ebcd`. -/
theorem snapshot_not_faithful : ¬ Faithful 4 [.write [0x61, 0x62, 0x63, 0x64], .write [0x65]] := by
  intro hf
  obtain ⟨rb, out, n, hr, hs, -, hsu, -⟩ := hf
  cases hr
  cases hs
  revert hsu
  decide

theorem held_eq_foldl (cap : Nat) (q : List (Option Byte)) :
    held cap q = (sinceReset q).foldl (keep cap) [] := by
  induction q using reverseRecOn with
  | nil => rfl
  | append_singleton q o ih => cases o <;> simp [ih]

/-- **The calls of a run.** No call panics, and what a snapshot returns is
a function of the bytes written since the last `Reset` alone. -/
theorem snapshot_of_sinceReset (n : Nat) :
    ∃ contents : List Byte → List Byte, ∀ ops, ∃ rb,
      run apply (newRingBuffer ((n + 1 : Nat) : Int)) ops = some rb
      ∧ rb.capacity = (n + 1 : Nat) ∧ 0 ≤ rb.head ∧ rb.head < rb.capacity
      ∧ rb.length = (min (n + 1) (sinceReset (atoms ops)).length : Nat)
      ∧ snapshot rb = some (contents (sinceReset (atoms ops))) := by
  refine ⟨fun byt => byt.foldl (keep (n + 1)) [], fun ops => ?_⟩
  obtain ⟨r, hr, hc, hv⟩ := run_new_eq n.succ_pos ops
  have hl : r.len = min (n + 1) (sinceReset (atoms ops)).length := by
    rw [← r.length_view, hv, length_held n.succ_pos]
  refine ⟨ofRing r, hr, congrArg Nat.cast hc, Int.natCast_nonneg _,
    Int.ofNat_lt.mpr r.head_lt_cap, congrArg Nat.cast hl, ?_⟩
  rw [snapshot_ofRing, hv, held_eq_foldl]

end Daao.Buffer

/-
Daao.Buffer.SnapshotStart — with which byte of the stream a snapshot
begins.

The stream is made of units: printable characters, UTF-8 characters of
several bytes, and CSI sequences. Until the buffer is full a snapshot
begins with the first byte. The byte that makes it overflow moves `head` to
a cell behind a boundary byte, and from then on every byte is written to
that same cell (`pinned_after`): the snapshot begins with the byte that was
written last, wherever in its unit that is.
-/
import Daao.Buffer.RingTheorems

namespace Daao.Buffer

open Daao.Lib List

/-! ## 1. The units of a stream -/

inductive IsUnit : List Byte → Prop where
  | ascii {b : Byte} (h : 0x20 ≤ b ∧ b ≤ 0x7E) : IsUnit [b]
  | utf8 (c : Char) (h : 0x80 ≤ c.toNat) : IsUnit (String.utf8EncodeChar c)
  | csi {intro params middle : List Byte} {final : Byte}
    (hintro : intro = [0x1B, 0x5B] ∨ intro = [0x9B])
    (hparams : ∀ b ∈ params, 0x30 ≤ b ∧ b ≤ 0x3F) (hmiddle : ∀ b ∈ middle, 0x20 ≤ b ∧ b ≤ 0x2F)
    (hfinal : 0x40 ≤ final ∧ final ≤ 0x7E)
    (hlen : (intro ++ params ++ middle ++ [final]).length ≤ 32) :
    IsUnit (intro ++ params ++ middle ++ [final])

def UnitStart (units : List (List Byte)) (i : Nat) : Prop :=
  ∃ before u after, units = before ++ u :: after ∧ i = before.flatten.length

theorem boundaryByte_of_lt {b : Byte} (h : b < 0x80) : boundaryByte b = true := by
  unfold boundaryByte
  grind

theorem boundaryByte_lead {v : Nat} (h : 0xC0 ≤ v) (hlt : v < 0x100) :
    boundaryByte (UInt8.ofNat v) = true := by
  have hge : (0xC0 : Byte) ≤ UInt8.ofNat v := by grind [UInt8.le_iff_toNat_le, UInt8.toNat_ofNat']
  unfold boundaryByte
  grind

theorem IsUnit.spec {u : List Byte} (h : IsUnit u) :
    u.length ≤ 32 ∧ ∃ b e, u = b :: e ∧ boundaryByte b = true := by
  cases h with
  | @ascii b h =>
    exact ⟨by simp, b, [], rfl, boundaryByte_of_lt (UInt8.lt_of_le_of_lt h.2 (by decide))⟩
  | utf8 c h =>
    have hv : ¬ c.val.toNat ≤ 127 := Nat.not_le_of_lt h
    have hs := c.utf8Size_le_four
    refine ⟨by rw [String.length_utf8EncodeChar]; omega, ?_⟩
    simp only [String.utf8EncodeChar, hv, if_false]
    split
    · exact ⟨_, _, rfl, boundaryByte_lead (by omega) (by omega)⟩
    split
    · exact ⟨_, _, rfl, boundaryByte_lead (by omega) (by omega)⟩
    · exact ⟨_, _, rfl, boundaryByte_lead (by omega) (by omega)⟩
  | csi hi hp hm hf hl =>
    refine ⟨hl, ?_⟩
    obtain rfl | rfl := hi
    · exact ⟨0x1B, _, rfl, by decide⟩
    · exact ⟨0x9B, _, rfl, by decide⟩

variable {units : List (List Byte)} {i : Nat}

theorem UnitStart.boundary (hu : ∀ u ∈ units, IsUnit u) (h : UnitStart units i) :
    ∃ b, units.flatten[i]? = some b ∧ boundaryByte b = true := by
  obtain ⟨f, u, a, rfl, rfl⟩ := h
  obtain ⟨-, b, e, rfl, hb⟩ := (hu u (by simp)).spec
  exact ⟨b, by simp, hb⟩

theorem exists_unitStart (hun : ∀ u ∈ units, IsUnit u) (hi : i + 32 ≤ units.flatten.length) :
    ∃ j, i ≤ j ∧ j < i + 32 ∧ UnitStart units j := by
  induction units generalizing i with
  | nil => simp at hi
  | cons u units ih =>
    have hl := (hun u mem_cons_self).spec.1
    rw [flatten_cons, length_append] at hi
    rcases eq_zero_or_pos i with rfl | hp
    · exact ⟨0, le_refl 0, by omega, [], u, units, rfl, rfl⟩
    by_cases hu : i ≤ u.length
    · -- the next unit begins within the 32 bytes
      cases units with
      | nil => simp at hi; omega
      | cons v units => exact ⟨u.length, hu, by omega, [u], v, units, rfl, by simp⟩
    obtain ⟨j, hj, hj', e, v, a, hun', rfl⟩ :=
      ih (fun w hw => hun w (mem_cons_of_mem u hw)) (i := i - u.length) (by omega)
    exact ⟨u.length + e.flatten.length, by omega, by omega, u :: e, v, a,
      by rw [hun', cons_append], by simp⟩

/-! ## 2. Where the bytes are written -/

theorem exists_last {α : Type} {q : α → Bool} {l : List α} (h : ∃ a ∈ l, q a = true) :
    ∃ l₁ c l₂, l = l₁ ++ c :: l₂ ∧ q c = true ∧ ∀ x ∈ l₂, q x = false := by
  induction l with
  | nil => simp at h
  | cons y l ih =>
    by_cases hl : ∃ a ∈ l, q a = true
    · grind
    · exact ⟨[], y, l, rfl, by simpa [hl] using h, by simpa using hl⟩

variable {r : CellRing Byte} {b c : Byte} {l₁ l₂ : List Byte}

theorem backOff_run (hc : boundaryByte c = true) (hn : ∀ x ∈ l₂, boundaryByte x = false)
    (hl : l₂.length < 32) : backOff (l₁ ++ c :: l₂ ++ [b]) = l₂.length + 1 := by
  have hr : ((l₁ ++ c :: l₂).reverse.takeWhile fun b => !boundaryByte b) = l₂.reverse := by
    simp_all
  rw [backOff, dropLast_concat, hr]
  simp only [length_reverse, length_append, length_cons, length_nil]
  omega

theorem putByte_run (hf : r.len = r.cap) {x : Byte} (hv : r.view = x :: (l₁ ++ c :: l₂))
    (hc : boundaryByte c = true) (hn : ∀ x ∈ l₂, boundaryByte x = false) (hl : l₂.length < 32) :
    (putByte r b).len = r.cap ∧ (putByte r b).head = (r.head + (r.cap - l₂.length)) % r.cap ∧
      (putByte r b).view = l₂ ++ [b] ++ (l₁ ++ [c]) := by
  have hca : r.cap = l₁.length + 2 + l₂.length := by
    rw [← hf, ← r.length_view, hv]
    simp only [length_cons, length_append]
    omega
  have ho : (r.overwrite b hf).cap = r.cap := by simp [CellRing.overwrite, CellRing.cap]
  have hb : backOff (r.view.tail ++ [b]) = l₂.length + 1 := by
    rw [hv]
    exact backOff_run hc hn hl
  refine ⟨?_, ?_, ?_⟩
  · rw [putByte, dif_neg (by omega)]
    exact hf
  · rw [putByte, dif_neg (by omega)]
    simp only [CellRing.seekBack, CellRing.view_overwrite, ho, hb]
    show ((r.head + 1) % r.cap + (r.cap - (l₂.length + 1))) % r.cap = _
    rw [Nat.mod_add_mod]
    congr 1
    omega
  rw [view_putByte, keep, if_neg (by simp [hf]), hb, hv, tail_cons,
    show l₁ ++ c :: l₂ ++ [b] = (l₁ ++ [c]) ++ (l₂ ++ [b]) by simp,
    show r.cap - (l₂.length + 1) = (l₁ ++ [c]).length by simp; omega,
    rotate_append_length_eq]

/-- The buffer is full, and the byte before its first one is a boundary. -/
structure Pinned (cell : Nat) (r : CellRing Byte) : Prop where
  full : r.len = r.cap
  head : r.head = cell
  view : ∃ x l c, r.view = x :: (l ++ [c]) ∧ boundaryByte c = true

/-- **Step lemma.** A byte is written to the first cell, which stays the
first. -/
theorem Pinned.putByte {e : Nat} (h : Pinned e r) (b : Byte) : Pinned e (putByte r b) := by
  obtain ⟨hf, rfl, x, l, c, hv, hc⟩ := h
  obtain ⟨hl, hh, hv'⟩ := putByte_run (b := b) hf hv hc (by simp) (by decide)
  refine ⟨by rw [hl, cap_putByte], ?_, b, l, c, hv', hc⟩
  rw [hh, length_nil, Nat.sub_zero, Nat.add_mod_right, Nat.mod_eq_of_lt r.head_lt_cap]

def Fresh (r : CellRing Byte) : Prop := newRingBuffer (r.cap : Int) = ofRing r

variable {bytes : List Byte} {cap : Nat}

theorem Fresh.filled (h : Fresh r) (hle : bytes.length ≤ r.cap) :
    (bytes.foldl putByte r).len = bytes.length ∧
      (bytes.foldl putByte r).head = bytes.length % r.cap ∧
      (bytes.foldl putByte r).view = bytes := by
  induction bytes using reverseRecOn with
  | nil =>
    have hl : r.len = 0 := by
      have heq := congrArg RingBuffer.length h
      simpa [newRingBuffer, ofRing] using heq.symm
    have hh := r.linear (by rw [hl]; exact r.cap_pos)
    refine ⟨hl, by rw [foldl_nil, hh, hl]; rfl, ?_⟩
    exact length_eq_zero_iff.mp (by rw [foldl_nil, r.length_view, hl])
  | append_singleton bytes b ih =>
    rw [length_append, length_singleton] at hle
    obtain ⟨hl, hh, hv⟩ := ih (by omega)
    have hc := cap_foldl_putByte bytes r
    have hr : (bytes.foldl putByte r).len < (bytes.foldl putByte r).cap := by omega
    rw [foldl_concat, length_append, length_singleton]
    refine ⟨?_, ?_, ?_⟩
    · rw [putByte, dif_pos hr, ← hl]
      rfl
    · rw [putByte, dif_pos hr, ← Nat.mod_add_mod, ← hh, ← hc]
      rfl
    · rw [view_putByte, keep, if_pos (by simpa using hr), hv]

/-- **Run lemma.** From the first overflow on all bytes are written to one
cell. -/
theorem pinned_after (h : Fresh r) (hca : 64 ≤ r.cap) (hu : ∀ u ∈ units, IsUnit u)
    (hs : bytes <+: units.flatten) (hlt : r.cap < bytes.length) :
    ∃ e, ∀ m, r.cap < m → m ≤ bytes.length →
      Pinned e ((bytes.take m).foldl putByte r) := by
  obtain ⟨p, hp⟩ : ∃ p, p = bytes.take r.cap := ⟨_, rfl⟩
  have hln : p.length = r.cap := by rw [hp, length_take_of_le hlt.le]
  -- the last boundary byte among the 32 before the overflow
  have hw : ∃ c ∈ p.drop (r.cap - 32), boundaryByte c = true := by
    obtain ⟨j, hj, hj', hst⟩ :=
      exists_unitStart hu (i := r.cap - 32) (by have := hs.length_le; omega)
    obtain ⟨c, hc, hb⟩ := hst.boundary hu
    obtain ⟨more, hmo⟩ := hs
    rw [← hmo, getElem?_append_left (by omega)] at hc
    refine ⟨c, mem_of_getElem? (i := j - (r.cap - 32)) ?_, hb⟩
    rw [getElem?_drop, Nat.add_sub_cancel' hj, hp, getElem?_take_of_lt (by omega), hc]
  obtain ⟨l₁, c, l₂, hd, hc, hn⟩ := exists_last hw
  have hl₂ : l₂.length < 32 := by grind [length_drop, length_append, length_cons]
  obtain ⟨x, l₀, hx⟩ := exists_cons_of_length_pos (l := p.take (r.cap - 32))
    (by simp; omega)
  obtain ⟨hf, -, hv⟩ := h.filled hln.le
  have hsp : (p.foldl putByte r).view = x :: (l₀ ++ l₁ ++ c :: l₂) := by
    rw [hv, ← take_append_drop (r.cap - 32) p, hx, hd]
    simp
  obtain ⟨hln', -, hv'⟩ := putByte_run (b := bytes[r.cap])
    (by rw [hf, hln, cap_foldl_putByte]) hsp hc hn hl₂
  refine ⟨(putByte (p.foldl putByte r) bytes[r.cap]).head, fun m hm => ?_⟩
  induction m, hm using Nat.le_induction with
  | base =>
    intro _
    rw [← take_append_getElem hlt, ← hp, foldl_concat]
    refine ⟨by rw [hln', cap_putByte], rfl, ?_⟩
    rw [hv']
    cases l₂ with
    | nil => exact ⟨_, l₀ ++ l₁, c, rfl, hc⟩
    | cons y l₂ => exact ⟨y, l₂ ++ [bytes[r.cap]] ++ (l₀ ++ l₁), c, by simp, hc⟩
  | succ m hm ih =>
    intro hle
    rw [← take_append_getElem (show m < bytes.length by omega), foldl_concat]
    exact (ih (by omega)).putByte _

/-! ## 3. The first byte of a snapshot -/

def cellOf (cap : Nat) (bytes : List Byte) (i : Nat) : Option Int :=
  ((bytes.take i).foldlM writeByte (newRingBuffer (cap : Int))).map RingBuffer.head

def startCell (rb : RingBuffer) : Option Int :=
  goMod (rb.head - rb.length + rb.capacity) rb.capacity

/-- After these calls of `Write` a snapshot begins with byte `i` of the
stream: it is the last one that was written to the first cell. -/
def BeginsAt (cap : Nat) (calls : List (List Byte)) (i : Nat) : Prop :=
  ∃ rb, run apply (newRingBuffer (cap : Int)) (calls.map .write) = some rb ∧
    i < calls.flatten.length ∧ cellOf cap calls.flatten i = startCell rb ∧
    ∀ j, i < j → j < calls.flatten.length → cellOf cap calls.flatten j ≠ startCell rb

theorem foldl_applyRing_write (calls : List (List Byte)) (r : CellRing Byte) :
    (calls.map Op.write).foldl applyRing r = calls.flatten.foldl putByte r := by
  induction calls generalizing r with
  | nil => rfl
  | cons p calls ih =>
    rw [map_cons, foldl_cons, ih, flatten_cons, foldl_append]
    rfl

variable {calls : List (List Byte)}

theorem Fresh.beginsAt_iff (h : Fresh r) {first : Nat}
    (hf : first = (let last := calls.flatten.foldl putByte r
      if last.len < last.cap then 0 else last.head)) :
    BeginsAt r.cap calls i ↔ i < calls.flatten.length ∧
      ((calls.flatten.take i).foldl putByte r).head = first ∧
      ∀ j, i < j → j < calls.flatten.length →
        ((calls.flatten.take j).foldl putByte r).head ≠ first := by
  have hr : run apply (newRingBuffer (r.cap : Int)) (calls.map .write)
      = some (ofRing (calls.flatten.foldl putByte r)) := by
    rw [h, run_apply_ofRing, foldl_applyRing_write]
  have hc : ∀ j, cellOf r.cap calls.flatten j
      = some (((calls.flatten.take j).foldl putByte r).head : Int) := by
    intro j
    rw [cellOf, h, foldlM_writeByte_ofRing]
    rfl
  have hs : startCell (ofRing (calls.flatten.foldl putByte r)) = some (first : Int) := by
    rw [hf]
    exact start_ofRing _
  simp [BeginsAt, hr, Option.some.injEq, hc, hs]

theorem Fresh.beginsAt_of_le (h : Fresh r) (hle : calls.flatten.length ≤ r.cap)
    (hi : BeginsAt r.cap calls i) : i = 0 := by
  have hf : 0 = (let last := calls.flatten.foldl putByte r
      if last.len < last.cap then 0 else last.head) := by
    obtain ⟨hl, hh, -⟩ := h.filled hle
    simp only [hl, hh, cap_foldl_putByte]
    split
    · rfl
    · rw [show calls.flatten.length = r.cap by omega, Nat.mod_self]
  obtain ⟨hlt, hc, -⟩ := (h.beginsAt_iff hf).mp hi
  have hl : (calls.flatten.take i).length = i := length_take_of_le hlt.le
  rwa [(h.filled (by omega)).2.1, hl, Nat.mod_eq_of_lt (by omega)] at hc

theorem Fresh.beginsAt_of_gt (h : Fresh r) (hc : 64 ≤ r.cap) (hu : ∀ u ∈ units, IsUnit u)
    (hs : calls.flatten <+: units.flatten) (hlt : r.cap + 1 < calls.flatten.length) :
    BeginsAt r.cap calls i ↔ i = calls.flatten.length - 1 := by
  obtain ⟨e, hp⟩ := pinned_after h hc hu hs (by omega)
  have he := hp _ (by omega) (le_refl _)
  rw [take_length] at he
  have hf : e = (let last := calls.flatten.foldl putByte r
      if last.len < last.cap then 0 else last.head) := by simp [he.full, he.head]
  rw [h.beginsAt_iff hf]
  have hl := (hp (calls.flatten.length - 1) (by omega) (by omega)).head
  constructor
  · grind
  · grind

theorem exists_fresh (hc : 64 ≤ cap) : ∃ r, Fresh r ∧ r.cap = cap := by
  have hc' : (CellRing.empty (replicate cap (0 : Byte)) (by simp; omega)).cap = cap := by
    simp [CellRing.empty, CellRing.cap]
  refine ⟨_, ?_, hc'⟩
  rw [Fresh, hc']
  exact newRingBuffer_eq (by omega)

end Daao.Buffer

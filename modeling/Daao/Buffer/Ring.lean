/-
Daao.Buffer.Ring — the terminal scrollback buffer of `pkg/buffer/ring.go`.

`RingBuffer` has the source's four fields. Indices are `Int` and every
access that Go checks at run time is checked here: `none` is a panic.
The mutex makes each method one atomic step, so a method is a function
from the buffer before to the buffer after.

`Write` is the loop to read carefully. Once the buffer is full, each byte
overwrites the cell at `head`, moves `head` on by one, and then calls
`findEvictPosition`, which looks BACKWARDS from the byte just written for
a position that does not cut an escape or UTF-8 sequence, and moves
`head` there.
-/
import Daao.Lib.GoSlice

namespace Daao.Buffer

open Daao.Lib

abbrev Byte := UInt8

def DefaultCapacity : Int := 5 * 1024 * 1024

structure RingBuffer where
  data : List Byte
  head : Int
  length : Int
  capacity : Int
  deriving DecidableEq

/-- `NewRingBuffer`; a capacity of zero or less means the default. -/
def newRingBuffer (capacity : Int) : RingBuffer :=
  let capacity := if capacity ≤ 0 then DefaultCapacity else capacity
  { data := List.replicate capacity.toNat 0, head := 0, length := 0, capacity := capacity }

/-- The byte test of `isANSIBoundary`: false exactly on the UTF-8
continuation bytes, 0x9B (the one-byte CSI) excepted. -/
def boundaryByte (b : Byte) : Bool :=
  if b < 0x20 then true
  else if b == 0x1B || b == 0x9B then true
  else if b ≥ 0x80 && b ≤ 0xBF then false
  else if b ≥ 0xC0 then true
  else true

def isANSIBoundary (data : List Byte) (pos _capacity length : Int) : Option Bool :=
  if length = 0 then some true
  else (goIndex data pos).map boundaryByte

/-- The search loop of `findEvictPosition`: `n` iterations are left and
`i` is the loop counter. The inner `none` means no boundary was found. -/
def evictSearch (rb : RingBuffer) (searchStart : Int) : Nat → Int → Option (Option Int)
  | 0, _ => some none
  | n + 1, i => do
    let pos ← goMod (searchStart - i + rb.capacity) rb.capacity
    let prevPos ← goMod (pos - 1 + rb.capacity) rb.capacity
    if ← isANSIBoundary rb.data prevPos rb.capacity rb.length then some (some pos)
    else evictSearch rb searchStart n (i + 1)

variable (rb : RingBuffer)

/-- `searchLimit`: 32, or the data length when that is smaller. -/
def RingBuffer.searchLimit : Int :=
  if 32 > rb.length then rb.length else 32

def findEvictPosition : Option Int := do
  let searchStart ← goMod (rb.head - 1 + rb.capacity) rb.capacity
  match ← evictSearch rb searchStart rb.searchLimit.toNat 0 with
  | some pos => some pos
  | none => goMod (rb.head - rb.searchLimit + rb.capacity) rb.capacity

def writeByte (b : Byte) : Option RingBuffer := do
  let data ← goSet rb.data rb.head b
  let head ← goMod (rb.head + 1) rb.capacity
  let rb := { rb with data := data, head := head }
  if rb.length < rb.capacity then some { rb with length := rb.length + 1 }
  else do
    let evictPos ← findEvictPosition rb
    some { rb with head := evictPos }

def write (p : List Byte) : Option (RingBuffer × Int) :=
  if p.length = 0 then some (rb, 0)
  else (p.foldlM writeByte rb).map fun rb' => (rb', p.length)

/-- The copy both snapshot methods make: one slice when the data is
contiguous, two when it wraps around. -/
def copyOut : Option (List Byte) := do
  let start ← goMod (rb.head - rb.length + rb.capacity) rb.capacity
  let result ← goMake 0 rb.length
  if start + rb.length ≤ rb.capacity then
    let part ← goSlice rb.data start (start + rb.length)
    some (goCopy result part)
  else
    let firstPart := rb.capacity - start
    let older ← goSlice rb.data start rb.data.length
    let newer ← goSlice rb.data 0 rb.head
    goCopyAt (goCopy result older) firstPart newer

def snapshot : Option (List Byte) :=
  if rb.length = 0 then some [] else copyOut rb

def snapshotWithLen : Option (List Byte × Int) :=
  if rb.length = 0 then some ([], 0)
  else (copyOut rb).map fun result => (result, rb.length)

def reset (rb : RingBuffer) : RingBuffer :=
  { rb with head := 0, length := 0 }

inductive Op where
  | write (p : List Byte)
  | reset

def apply : Op → Option RingBuffer
  | .write p => (write rb p).map (·.1)
  | .reset => some (reset rb)

end Daao.Buffer

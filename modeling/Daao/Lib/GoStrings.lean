/-
Daao.Lib.GoStrings — Go strings and the functions of the `strings` and
`net/url` packages that the HTTP code calls.

A Go string is a list of bytes. `go` turns the ASCII text of a string
literal into one. `pathUnescape` fails on a `%` that is not followed by
two hexadecimal digits; a raw slash is neither, so decoding keeps it
(`slash_mem_of_pathUnescape`).
-/
import Mathlib.Data.List.Basic

namespace Daao.Lib

open List

abbrev GoString := List UInt8

/-- An ASCII text as a Go string. -/
def go (text : String) : GoString := text.toList.map Char.toUInt8

def slash : UInt8 := '/'.toUInt8

def newline : UInt8 := '\n'.toUInt8

def hasPrefix (s pre : GoString) : Bool := pre.isPrefixOf s

def hasSuffix (s suf : GoString) : Bool := suf.isSuffixOf s

def trimPrefix (s pre : GoString) : GoString :=
  if hasPrefix s pre then s.drop pre.length else s

def trimSuffix (s suf : GoString) : GoString :=
  if hasSuffix s suf then s.take (s.length - suf.length) else s

/-- `strings.TrimRight` with a cutset of one character. -/
def trimRight (s : GoString) (c : UInt8) : GoString := (s.reverse.dropWhile (· == c)).reverse

def containsString (s sub : GoString) : Bool := s.tails.any (hasPrefix · sub)

/-- The byte sequences that fold to a lower-case ASCII letter: the letter,
its capital, and the two letters outside ASCII that do, U+212A (KELVIN
SIGN) and U+017F (LATIN SMALL LETTER LONG S). -/
def foldings (c : UInt8) : List GoString :=
  [[c], [c - 32]] ++
    (if c = 'k'.toUInt8 then [[0xE2, 0x84, 0xAA]] else []) ++
    (if c = 's'.toUInt8 then [[0xC5, 0xBF]] else [])

/-- `strings.EqualFold` with a text of lower-case ASCII letters. -/
def equalFold : GoString → GoString → Bool
  | s, [] => s.isEmpty
  | s, c :: text => (foldings c).any fun f => hasPrefix s f && equalFold (s.drop f.length) text

/-- `unhex`, where `ishex` holds. -/
def hexValue (b : UInt8) : Option UInt8 :=
  if '0'.toUInt8 ≤ b ∧ b ≤ '9'.toUInt8 then some (b - '0'.toUInt8)
  else if 'a'.toUInt8 ≤ b ∧ b ≤ 'f'.toUInt8 then some (b - 'a'.toUInt8 + 10)
  else if 'A'.toUInt8 ≤ b ∧ b ≤ 'F'.toUInt8 then some (b - 'A'.toUInt8 + 10)
  else none

def pathUnescape : GoString → Option GoString
  | [] => some []
  | b :: rest =>
    if b = '%'.toUInt8 then
      match rest with
      | hi :: lo :: rest => do
        let hi ← hexValue hi
        let lo ← hexValue lo
        (pathUnescape rest).map fun s => (hi * 16 + lo) :: s
      | _ => none
    else (pathUnescape rest).map fun s => b :: s

theorem pathUnescape_cons {b : UInt8} (h : b ≠ '%'.toUInt8) (rest : GoString) :
    pathUnescape (b :: rest) = (pathUnescape rest).map fun s => b :: s := by
  cases rest with
  | nil => simp [pathUnescape, h]
  | cons _ rest => cases rest <;> simp [pathUnescape, h]

theorem slash_mem_of_pathUnescape {s s' : GoString} (h : pathUnescape s = some s')
    (hm : slash ∈ s) : slash ∈ s' := by
  fun_induction pathUnescape s generalizing s' with
  | case1 => cases hm
  | case2 hi lo r ih =>
    -- an escape: the slash is not one of its three bytes
    simp only [Option.bind_eq_bind, Option.bind_eq_some_iff, Option.map_eq_some_iff] at h
    obtain ⟨x, hhi, y, hlo, d, hr, rfl⟩ := h
    have hs : hexValue slash = none := by decide
    rcases mem_cons.mp hm with heq | hm
    · exact absurd heq (by decide)
    rcases mem_cons.mp hm with rfl | hm
    · simp [hs] at hhi
    rcases mem_cons.mp hm with rfl | hm
    · simp [hs] at hlo
    exact mem_cons_of_mem _ (ih hr hm)
  | case3 => cases h
  | case4 b r hb ih => grind [Option.map_eq_some_iff, mem_cons_self, mem_cons_of_mem]

theorem not_mem_of_mem_splitOn {s l : GoString} {b : UInt8} (h : l ∈ s.splitOn b) : b ∉ l := by
  induction s generalizing l with
  | nil => simp_all
  | cons x s ih =>
    obtain ⟨first, m, hs⟩ := exists_cons_of_ne_nil (splitOn_ne_nil b s)
    rw [splitOn_cons_eq_if_modifyHead, hs] at h
    rw [hs] at ih
    split at h
    · grind
    rename_i hx
    rcases mem_cons.mp h with rfl | h
    · grind
    · exact ih (mem_cons_of_mem _ h)

end Daao.Lib

/-
Daao.Satellite.Frontmatter — the frontmatter of a context file
(`extractFrontmatter` in `internal/satellite/context_parser.go`).

The document is read by a `bufio.Scanner`, which splits it into lines and
stops at a line that does not fit its buffer of 64 KiB. The loop does not
look at the scanner's error, so a document with such a line before the
second delimiter counts as one without frontmatter. `trimSpace` is
`strings.TrimSpace`.
-/
import Daao.Lib.GoStrings
import Mathlib.Data.List.TakeWhile

namespace Daao.Satellite

open Daao.Lib List

/-! ## 1. The loop and what it is for -/

/-- A line without its carriage return. -/
def dropCR (line : GoString) : GoString :=
  if line.getLast? = some '\r'.toUInt8 then line.dropLast else line

/-- The lines of a document; there is none behind a newline at its end. -/
def rawLines (content : GoString) : List GoString :=
  let pieces := content.splitOn newline
  if pieces.getLast? = some [] then pieces.dropLast else pieces

def documentLines (content : GoString) : List GoString := (rawLines content).map dropCR

/-- What the scanner yields: a line and its newline have to fit. -/
def scannedLines (content : GoString) : List GoString :=
  ((rawLines content).takeWhile fun line => line.length < 64 * 1024).map dropCR

section

variable (trimSpace : GoString → GoString)

def isDelimiter (line : GoString) : Bool := trimSpace line = go "---"

def extractLoop : Bool → List GoString → List GoString → Option GoString
  | _, _, [] => none
  | inFrontmatter, lines, line :: rest =>
    if isDelimiter trimSpace line then
      if !inFrontmatter then extractLoop true lines rest
      else some ([newline].intercalate lines)
    else extractLoop inFrontmatter (if inFrontmatter then lines ++ [line] else lines) rest

def extractFrontmatter (content : GoString) : Option GoString :=
  extractLoop trimSpace false [] (scannedLines content)

/-- The lines between the first two delimiters. -/
def frontmatter (lines : List GoString) : Option GoString :=
  let rest := (lines.dropWhile fun line => !isDelimiter trimSpace line).tail
  if rest.any (isDelimiter trimSpace) then
    some ([newline].intercalate (rest.takeWhile fun line => !isDelimiter trimSpace line))
  else none

/-! ## 2. The two agree on the lines that are read -/

variable {trimSpace}

theorem extractLoop_true (found rest : List GoString) :
    extractLoop trimSpace true found rest
      = if rest.any (isDelimiter trimSpace) then some ([newline].intercalate
          (found ++ rest.takeWhile fun line => !isDelimiter trimSpace line))
        else none := by
  induction rest generalizing found with
  | nil => rfl
  | cons line rest ih =>
    by_cases hl : isDelimiter trimSpace line <;> simp [extractLoop, hl, ih]

theorem extractLoop_false (lines : List GoString) :
    extractLoop trimSpace false [] lines = frontmatter trimSpace lines := by
  induction lines with
  | nil => rfl
  | cons i lines ih =>
    by_cases hl : isDelimiter trimSpace i
    · simp [extractLoop, hl, extractLoop_true, frontmatter]
    · simpa [extractLoop, hl, frontmatter] using ih

theorem frontmatter_eq_none_iff (i : List GoString) :
    frontmatter trimSpace i = none ↔ i.countP (isDelimiter trimSpace) < 2 := by
  induction i with
  | nil => simp [frontmatter]
  | cons n i ih =>
    by_cases hl : isDelimiter trimSpace n
    · have ho : i.countP (isDelimiter trimSpace) + 1 < 2 ↔
          i.countP (isDelimiter trimSpace) = 0 := by omega
      simp [frontmatter, hl, ho, countP_eq_zero]
    · simpa [frontmatter, hl] using ih

theorem frontmatter_append {lines : List GoString} (m : List GoString)
    (h : 2 ≤ lines.countP (isDelimiter trimSpace)) :
    frontmatter trimSpace (lines ++ m) = frontmatter trimSpace lines := by
  induction lines with
  | nil => simp at h
  | cons line lines ih =>
    by_cases hl : isDelimiter trimSpace line
    · -- the second delimiter is among the lines, so nothing is taken from the others
      have ha : lines.any (isDelimiter trimSpace) = true := by simp_all
      have ht : (lines ++ m).takeWhile (fun line => !isDelimiter trimSpace line)
          = lines.takeWhile fun line => !isDelimiter trimSpace line := by
        rw [takeWhile_append, if_neg]
        intro hle
        obtain ⟨d, hm, hd⟩ := any_eq_true.mp ha
        rw [← IsPrefix.eq_of_length ( takeWhile_prefix _) hle] at hm
        simpa [hd] using mem_takeWhile_imp hm
      simp [frontmatter, hl, ha, ht]
    · have h' : 2 ≤ lines.countP (isDelimiter trimSpace) := by simpa [countP_cons, hl] using h
      simpa [frontmatter, hl] using ih h'

/-- The frontmatter is the text between the first two delimiters, and it
is missed exactly when the document has two and the second one comes after
a line that does not fit the scanner's buffer. -/
theorem extractFrontmatter_right_iff (trimSpace : GoString → GoString) (content : GoString) :
    (frontmatter trimSpace (documentLines content) = none ↔
      (documentLines content).countP (isDelimiter trimSpace) < 2) ∧
    (extractFrontmatter trimSpace content = frontmatter trimSpace (documentLines content) ↔
      (documentLines content).countP (isDelimiter trimSpace) < 2 ∨
        2 ≤ (scannedLines content).countP (isDelimiter trimSpace)) := by
  refine ⟨frontmatter_eq_none_iff _, ?_⟩
  obtain ⟨more, hm⟩ : ∃ more, documentLines content = scannedLines content ++ more := by
    refine ⟨((rawLines content).dropWhile fun line => line.length < 64 * 1024).map dropCR, ?_⟩
    rw [scannedLines, ← map_append, takeWhile_append_dropWhile, documentLines]
  rw [extractFrontmatter, extractLoop_false]
  constructor
  · intro heq
    by_contra hno
    rw [not_or, Nat.not_lt, Nat.not_le] at hno
    have hn := (frontmatter_eq_none_iff _).mpr hno.2
    rw [heq, frontmatter_eq_none_iff] at hn
    omega
  · grind [frontmatter_eq_none_iff, frontmatter_append]

end

/-- A line of 64 KiB between two delimiters. -/
def longLine : GoString := replicate (64 * 1024) 'a'.toUInt8

def longDocument : GoString :=
  go "---" ++ newline :: (longLine ++ newline :: (go "---" ++ [newline]))

theorem extractFrontmatter_longLine :
    frontmatter id (documentLines longDocument) = some longLine ∧
      extractFrontmatter id longDocument = none := by
  have hn : newline ∉ longLine := fun h =>
    absurd (mem_replicate.mp h).2 (by decide)
  have hr : rawLines longDocument = [go "---", longLine, go "---"] := by
    have hp : longDocument.splitOn newline = [go "---", longLine, go "---", []] := by
      rw [longDocument, splitOn_append_cons_self_of_not_mem (by decide),
        splitOn_append_cons_self_of_not_mem hn]
      rfl
    simp [rawLines, hp]
  have hl : longLine.length = 65536 := length_replicate
  have hcr : dropCR longLine = longLine := by
    refine if_neg fun h => ?_
    exact absurd (mem_replicate.mp (mem_of_getLast? h)).2 (by decide)
  have hd : dropCR (go "---") = go "---" ∧ isDelimiter id (go "---") = true := by decide
  have hli : isDelimiter id longLine = false := by
    refine decide_eq_false fun h => ?_
    have hle := congrArg length h
    simp [hl, go] at hle
  constructor
  · simp [documentLines, hr, hcr, hd, hli, frontmatter]
  · simp [extractFrontmatter, scannedLines, hr, hl, extractLoop, go]

end Daao.Satellite

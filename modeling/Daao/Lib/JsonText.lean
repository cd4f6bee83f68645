/-
Daao.Lib.JsonText — JSON texts: how Go's `encoding/json` reads one.

The reader is Go's scanner. It takes one byte at a time, with a state
(`Mode`) and a stack of the objects and arrays that are open (`Frame`);
`step` has one branch for each of Go's state functions. The stack also
holds what has been read of each of them, so that the value is there when
the text ends. Nesting is limited to 10000. Bytes that are no UTF-8 are
allowed in strings and read as U+FFFD, as is half a surrogate pair.
-/
import Daao.Lib.GoJson
import Daao.Lib.GoStrings
import Daao.Lib.Trace
import Mathlib.Data.Nat.Digits.Lemmas
import Mathlib.Tactic.IntervalCases

namespace Daao.Lib.JsonText

open Daao.Lib List Option UInt8 Nat List

/-! ## 1. Strings -/

/-- What stands between the quotes of a string, piece by piece. -/
inductive StringUnit where
  | byte (b : UInt8)
  | escape (c : Char)
  /-- `\uXXXX` -/
  | utf16 (unit : Nat)

def runeError : Char := Char.ofNat 0xFFFD

def continuation (lo hi : UInt8) (b : Option UInt8) : Option Nat :=
  b.bind fun b => if lo ≤ b ∧ b ≤ hi then some (b.toNat % 64) else none

/-- `utf8.DecodeRune`: the rune at the front, and how many bytes after the
first it takes. -/
def decodeRune (b : UInt8) (rest : List UInt8) : Char × Nat :=
  if b < 0x80 then (Char.ofNat b.toNat, 0)
  else if 0xC2 ≤ b ∧ b ≤ 0xDF then
    (do
      let x ← continuation 0x80 0xBF rest[0]?
      some (Char.ofNat (b.toNat % 32 * 64 + x), 1)).getD (runeError, 0)
  else if 0xE0 ≤ b ∧ b ≤ 0xEF then
    (do
      let x ← continuation (if b = 0xE0 then 0xA0 else 0x80) (if b = 0xED then 0x9F else 0xBF)
        rest[0]?
      let y ← continuation 0x80 0xBF rest[1]?
      some (Char.ofNat ((b.toNat % 16 * 64 + x) * 64 + y), 2)).getD (runeError, 0)
  else if 0xF0 ≤ b ∧ b ≤ 0xF4 then
    (do
      let x ← continuation (if b = 0xF0 then 0x90 else 0x80) (if b = 0xF4 then 0x8F else 0xBF)
        rest[0]?
      let y ← continuation 0x80 0xBF rest[1]?
      let z ← continuation 0x80 0xBF rest[2]?
      some (Char.ofNat (((b.toNat % 8 * 64 + x) * 64 + y) * 64 + z), 3)).getD (runeError, 0)
  else (runeError, 0)

def rawBytes : List StringUnit → List UInt8
  | .byte b :: rest => b :: rawBytes rest
  | _ => []

/-- The rune at a unit, and how many of the following units belong to it. -/
def decodeUnit (unit : StringUnit) (rest : List StringUnit) : Char × Nat :=
  match unit with
  | .byte b => decodeRune b (rawBytes rest)
  | .escape c => (c, 0)
  | .utf16 hi =>
    if 0xD800 ≤ hi ∧ hi ≤ 0xDBFF then
      match rest with
      | .utf16 lo :: _ =>
        if 0xDC00 ≤ lo ∧ lo ≤ 0xDFFF then
          (Char.ofNat (0x10000 + (hi - 0xD800) * 1024 + (lo - 0xDC00)), 1)
        else (runeError, 0)
      | _ => (runeError, 0)
    else if 0xDC00 ≤ hi ∧ hi ≤ 0xDFFF then (runeError, 0)
    else (Char.ofNat hi, 0)

/-- The runes of a string; the first argument counts units that belong to
the last rune. -/
def decodeUnits : Nat → List StringUnit → List Char
  | _, [] => []
  | skip + 1, _ :: rest => decodeUnits skip rest
  | 0, unit :: rest => (decodeUnit unit rest).1 :: decodeUnits (decodeUnit unit rest).2 rest

def unquote (units : List StringUnit) : String := String.ofList (decodeUnits 0 units)

def escapeOf (c : UInt8) : Option Char :=
  if c = 'b'.toUInt8 then some (Char.ofNat 8)
  else if c = 'f'.toUInt8 then some (Char.ofNat 12)
  else if c = 'n'.toUInt8 then some '\n'
  else if c = 'r'.toUInt8 then some '\r'
  else if c = 't'.toUInt8 then some '\t'
  else if c = '\\'.toUInt8 then some '\\'
  else if c = '/'.toUInt8 then some '/'
  else if c = '"'.toUInt8 then some '"'
  else none

/-! ## 2. The scanner -/

inductive Frame where
  | arr (elems : List Json)
  /-- an object before its next key, or after a value -/
  | key (entries : List (String × Json))
  /-- an object whose last key has no value yet -/
  | named (entries : List (String × Json)) (key : String)

inductive NumberPart where
  | neg | zero | int | dot | frac | e | eSign | exp

inductive Mode where
  | beginValue
  | beginValueOrEmpty
  | beginString
  | beginStringOrEmpty
  | endValue
  | endTop (v : Json)
  | inString (units : List StringUnit)
  | inStringEsc (units : List StringUnit)
  /-- in `\uXXXX`, with what the digits so far come to -/
  | inStringEscU (units : List StringUnit) (digits value : Nat)
  | literal (rest : List UInt8) (v : Json)
  | number (part : NumberPart) (text : List UInt8)

structure Scanner where
  stack : List Frame
  mode : Mode

def isSpace (c : UInt8) : Bool :=
  c = ' '.toUInt8 || c = '\t'.toUInt8 || c = '\r'.toUInt8 || c = '\n'.toUInt8

def isDigit (c : UInt8) : Bool := '0'.toUInt8 ≤ c && c ≤ '9'.toUInt8

def maxNestingDepth : Nat := 10000

/-- `pushParseState`. -/
def push (frame : Frame) (mode : Mode) (stack : List Frame) : Option Scanner :=
  if stack.length + 1 ≤ maxNestingDepth then some { stack := frame :: stack, mode := mode }
  else none

def deliver (v : Json) : List Frame → Option Scanner
  | [] => some { stack := [], mode := .endTop v }
  | .arr elems :: stack => some { stack := .arr (elems ++ [v]) :: stack, mode := .endValue }
  | .named entries k :: stack =>
    some { stack := .key (entries ++ [(k, v)]) :: stack, mode := .endValue }
  | .key _ :: _ => none

def closeString (units : List StringUnit) : List Frame → Option Scanner
  | .key entries :: stack =>
    some { stack := .named entries (unquote units) :: stack, mode := .endValue }
  | stack => deliver (.str (unquote units)) stack

/-- `stateEndValue` and `stateEndTop`. -/
def stepEnd (s : Scanner) (c : UInt8) : Option Scanner :=
  if isSpace c then some s
  else
    match s.stack with
    | [] => none
    | .named _ _ :: _ => if c = ':'.toUInt8 then some { s with mode := .beginValue } else none
    | .key entries :: stack =>
      if c = ','.toUInt8 then some { s with mode := .beginString }
      else if c = '}'.toUInt8 then deliver (.obj entries) stack
      else none
    | .arr elems :: stack =>
      if c = ','.toUInt8 then some { s with mode := .beginValue }
      else if c = ']'.toUInt8 then deliver (.arr elems) stack
      else none

/-- `stateBeginValue`. -/
def stepBegin (stack : List Frame) (c : UInt8) : Option Scanner :=
  if isSpace c then some { stack := stack, mode := .beginValue }
  else if c = '{'.toUInt8 then push (.key []) .beginStringOrEmpty stack
  else if c = '['.toUInt8 then push (.arr []) .beginValueOrEmpty stack
  else if c = '"'.toUInt8 then some { stack := stack, mode := .inString [] }
  else if c = '-'.toUInt8 then some { stack := stack, mode := .number .neg [c] }
  else if c = '0'.toUInt8 then some { stack := stack, mode := .number .zero [c] }
  else if isDigit c then some { stack := stack, mode := .number .int [c] }
  else if c = 't'.toUInt8 then some { stack := stack, mode := .literal (go "rue") (.bool true) }
  else if c = 'f'.toUInt8 then some { stack := stack, mode := .literal (go "alse") (.bool false) }
  else if c = 'n'.toUInt8 then some { stack := stack, mode := .literal (go "ull") .null }
  else none

/-- `stateBeginString`. -/
def stepBeginString (stack : List Frame) (c : UInt8) : Option Scanner :=
  if isSpace c then some { stack := stack, mode := .beginString }
  else if c = '"'.toUInt8 then some { stack := stack, mode := .inString [] }
  else none

def natValue (digits : List UInt8) : Nat :=
  digits.foldl (fun n c => n * 10 + (c.toNat - 48)) 0

def intValue (text : List UInt8) : Int :=
  match text with
  | [] => 0
  | c :: digits => if c = '-'.toUInt8 then -(natValue digits : Int) else natValue (c :: digits)

/-- The states in a number. A byte that is not part of it ends it and is
then read by `stateEndValue`. -/
def stepNumber (stack : List Frame) (part : NumberPart) (text : List UInt8) (c : UInt8) :
    Option Scanner :=
  let more (part : NumberPart) : Option Scanner :=
    some { stack := stack, mode := .number part (text ++ [c]) }
  let finish (v : Json) : Option Scanner := (deliver v stack).bind fun s => stepEnd s c
  let real : Json := .real (String.ofList (text.map fun b => Char.ofNat b.toNat))
  match part with
  | .neg => if c = '0'.toUInt8 then more .zero else if isDigit c then more .int else none
  | .zero =>
    if c = '.'.toUInt8 then more .dot
    else if c = 'e'.toUInt8 || c = 'E'.toUInt8 then more .e
    else finish (.int (intValue text))
  | .int =>
    if isDigit c then more .int
    else if c = '.'.toUInt8 then more .dot
    else if c = 'e'.toUInt8 || c = 'E'.toUInt8 then more .e
    else finish (.int (intValue text))
  | .dot => if isDigit c then more .frac else none
  | .frac =>
    if isDigit c then more .frac
    else if c = 'e'.toUInt8 || c = 'E'.toUInt8 then more .e
    else finish real
  | .e =>
    if c = '+'.toUInt8 || c = '-'.toUInt8 then more .eSign
    else if isDigit c then more .exp
    else none
  | .eSign => if isDigit c then more .exp else none
  | .exp => if isDigit c then more .exp else finish real

/-- `stateInString`. -/
def stepString (stack : List Frame) (units : List StringUnit) (c : UInt8) : Option Scanner :=
  if c = '"'.toUInt8 then closeString units stack
  else if c = '\\'.toUInt8 then some { stack := stack, mode := .inStringEsc units }
  else if c < 0x20 then none
  else some { stack := stack, mode := .inString (units ++ [.byte c]) }

def step (s : Scanner) (c : UInt8) : Option Scanner :=
  match s.mode with
  | .beginValue => stepBegin s.stack c
  | .beginValueOrEmpty =>
    if isSpace c then some s
    else if c = ']'.toUInt8 then stepEnd s c
    else stepBegin s.stack c
  | .beginString => stepBeginString s.stack c
  | .beginStringOrEmpty =>
    if isSpace c then some s
    else if c = '}'.toUInt8 then stepEnd s c
    else stepBeginString s.stack c
  | .endValue => stepEnd s c
  | .endTop _ => stepEnd s c
  | .inString units => stepString s.stack units c
  | .inStringEsc units =>
    if c = 'u'.toUInt8 then some { s with mode := .inStringEscU units 0 0 }
    else (escapeOf c).map fun e => { s with mode := .inString (units ++ [.escape e]) }
  | .inStringEscU units digits value =>
    (hexValue c).map fun d =>
      if digits = 3 then { s with mode := .inString (units ++ [.utf16 (value * 16 + d.toNat)]) }
      else { s with mode := .inStringEscU units (digits + 1) (value * 16 + d.toNat) }
  | .literal rest v =>
    match rest with
    | [] => none
    | [b] => if c = b then deliver v s.stack else none
    | b :: rest => if c = b then some { s with mode := .literal rest v } else none
  | .number part text => stepNumber s.stack part text c

def Scanner.value (s : Scanner) : Option Json :=
  match s.mode with
  | .endTop v => some v
  | _ => none

/-- The scanner's `eof`: a number may still be open, and a space ends it. -/
def Scanner.eof (s : Scanner) : Option Json :=
  s.value.or ((step s ' '.toUInt8).bind Scanner.value)

def parse (text : GoString) : Option Json :=
  (run step { stack := [], mode := .beginValue } text).bind Scanner.eof

/-! ## 3. Writing and reading back a number -/

def decimal (n : Nat) : GoString :=
  if n = 0 then ['0'.toUInt8]
  else (Nat.digits 10 n).reverse.map fun d => UInt8.ofNat (48 + d)

theorem natValue_append (ds : List UInt8) (d : UInt8) :
    natValue (ds ++ [d]) = natValue ds * 10 + (d.toNat - 48) := by
  simp [natValue]

theorem isDigit_ofNat : ∀ d < 10, isDigit (ofNat (48 + d)) = true := by decide

theorem natValue_reverse {ds : List Nat} (h : ∀ d ∈ ds, d < 10) :
    natValue (ds.reverse.map fun d => ofNat (48 + d)) = ofDigits 10 ds := by
  induction ds with
  | nil => rfl
  | cons d ds ih =>
    have hd := h d mem_cons_self
    rw [reverse_cons, map_append, map_singleton, natValue_append,
      ih fun e he => h e (mem_cons_of_mem _ he), ofDigits_cons, toNat_ofNat',
      mod_eq_of_lt (by omega)]
    omega

theorem natValue_decimal {n : Nat} (hn : n ≠ 0) : natValue (decimal n) = n := by
  rw [decimal, if_neg hn, natValue_reverse fun d hd => digits_lt_base (by decide) hd,
    ofDigits_digits]

theorem exists_decimal_eq {n : Nat} (hn : n ≠ 0) :
    ∃ d ds, decimal n = ofNat (48 + d) :: ds ∧ d ≠ 0 ∧ d < 10 ∧ ∀ b ∈ ds, isDigit b = true := by
  have hne : digits 10 n ≠ [] := digits_ne_nil_iff_ne_zero.mpr hn
  have hlt : ∀ d ∈ digits 10 n, d < 10 := fun d hd => digits_lt_base (by decide) hd
  have hs := dropLast_append_getLast hne
  refine ⟨(digits 10 n).getLast hne, (digits 10 n).dropLast.reverse.map fun d => ofNat (48 + d), ?_,
    getLast_digit_ne_zero 10 hn, hlt _ (getLast_mem hne), ?_⟩
  · rw [decimal, if_neg hn]
    conv_lhs => rw [← hs]
    rw [reverse_append, reverse_singleton, singleton_append, map_cons]
  · grind [isDigit_ofNat, dropLast_subset]

theorem run_digits (stack : List Frame) :
    ∀ ds t, (∀ b ∈ ds, isDigit b = true) →
      run step { stack := stack, mode := .number .int t } ds
        = some { stack := stack, mode := .number .int (t ++ ds) }
  | [], t, _ => by simp
  | b :: ds, t, h => by
      have hs : step { stack := stack, mode := .number .int t } b
          = some { stack := stack, mode := .number .int (t ++ [b]) } := by
        simp [step, stepNumber, h b mem_cons_self]
      rw [run_cons, hs, bind_some, run_digits stack ds _ fun e he => h e (mem_cons_of_mem _ he)]
      simp

/-- **Round trip** of a number, up to the byte after it. -/
theorem run_decimal {n : Nat} (hn : n ≠ 0) (stack : List Frame) {c : UInt8}
    (hc : c = ','.toUInt8 ∨ c = '}'.toUInt8) :
    run step { stack := stack, mode := .beginValue } (decimal n ++ [c])
      = (deliver (.int n) stack).bind fun s => stepEnd s c := by
  obtain ⟨d, ds, hde, hd0, hd, hds⟩ := exists_decimal_eq hn
  have hb : step { stack := stack, mode := .beginValue } (ofNat (48 + d))
      = some { stack := stack, mode := .number .int [ofNat (48 + d)] } := by
    interval_cases d <;> first | contradiction | rfl
  have he (text : List UInt8) : run step { stack := stack, mode := .number .int text } [c]
      = (deliver (.int (intValue text)) stack).bind fun s => stepEnd s c := by
    rw [run_singleton]
    rcases hc with rfl | rfl <;> rfl
  have hi : intValue ([ofNat (48 + d)] ++ ds) = n := by
    have hm : ofNat (48 + d) ≠ '-'.toUInt8 := by
      interval_cases d <;> decide
    rw [singleton_append, intValue, if_neg hm, ← hde, natValue_decimal hn]
  rw [hde, cons_append, run_cons, hb, bind_some, run_append, run_digits stack ds _ hds, bind_some,
    he, hi]

end Daao.Lib.JsonText

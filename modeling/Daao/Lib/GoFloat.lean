/-
Daao.Lib.GoFloat — the numbers of a JSON document as Go's `float64`.

A number that `encoding/json` decodes into an `interface{}` is the closest
`float64`, and `Unmarshal` fails if the number is out of range. A `float64`
is here the rational number that it is. `json.Marshal` prints the shortest
decimal that reads back as the same `float64`, and a `jsonb` column keeps
the decimal without an exponent. So a document that is decoded and encoded
again may have other numbers.

The conversion of a `float64` to an `int` drops the fraction. What it gives
for a number that no `int` holds depends on the machine, so this is a
parameter.
-/
import Daao.Lib.GoJson
import Mathlib.Data.Int.Log
import Mathlib.Data.Rat.Floor

namespace Daao.Lib

/-! ## 1. Rounding -/

/-- The closest integer, and of two the even one. -/
def roundHalfEven (q : ℚ) : ℤ :=
  if q - ⌊q⌋ < 1 / 2 then ⌊q⌋
  else if 1 / 2 < q - ⌊q⌋ then ⌊q⌋ + 1
  else if ⌊q⌋ % 2 = 0 then ⌊q⌋ else ⌊q⌋ + 1

def lastBit (q : ℚ) : ℤ := max (Int.log 2 |q| - 52) (-1074)

/-- The closest `float64`; `none` if the number is out of range. -/
def float64 (q : ℚ) : Option ℚ :=
  let x : ℚ := roundHalfEven (q / 2 ^ lastBit q) * (2 : ℚ) ^ lastBit q
  if |x| < 2 ^ 1024 then some x else none

/-! ## 2. Literals -/

def digitsNat (digits : List Char) : ℕ := Nat.ofDigitChars 10 digits 0

/-- The exponent that a literal ends with, after its `e`. -/
def literalExponent : List Char → ℤ
  | _ :: '-' :: digits => -digitsNat digits
  | _ :: '+' :: digits => digitsNat digits
  | _ :: digits => digitsNat digits
  | [] => 0

def unsignedValue (literal : List Char) : ℚ :=
  let whole := literal.span Char.isDigit
  let frac := match whole.2 with
    | '.' :: rest => rest.span Char.isDigit
    | rest => ([], rest)
  digitsNat (whole.1 ++ frac.1) * 10 ^ (literalExponent frac.2 - frac.1.length)

def literalValue (literal : String) : ℚ :=
  match literal.toList with
  | '-' :: rest => -unsignedValue rest
  | rest => unsignedValue rest

def Json.asFloat : Json → Option ℚ
  | .int n => float64 n
  | .real literal => float64 (literalValue literal)
  | _ => none

/-- The decimals with one more than `p` digits next to a positive number
that read back as the number, the closest one first. -/
def decimalsAround (x : ℚ) (p : ℕ) : List (ℤ × ℤ) :=
  let e := Int.log 10 x - p
  let n := ⌊x / 10 ^ e⌋
  let pair := if x / 10 ^ e - n ≤ 1 / 2 then [(n, e), (n + 1, e)] else [(n + 1, e), (n, e)]
  pair.filter fun d => float64 (d.1 * 10 ^ d.2) = some x

/-- The shortest one; 17 digits are enough for any `float64`. -/
def shortest (x : ℚ) : ℤ × ℤ :=
  match (List.range 17).findSome? fun p => (decimalsAround x p).head? with
  -- a number just below a power of ten
  | some (10, e) => (1, e + 1)
  | some d => d
  | none => (0, 0)

def decimalText (n k : ℕ) : String :=
  let digits := (Nat.toDigits 10 n).leftpad (k + 1) '0'
  String.ofList (digits.take (digits.length - k)) ++ "."
    ++ String.ofList (digits.drop (digits.length - k))

/-- What `json.Marshal` prints, as `jsonb` keeps it. -/
def marshalFloat (x : ℚ) : Json :=
  let d := shortest |x|
  if x = 0 then .int 0
  else if 0 ≤ d.2 then .int (x.num.sign * (d.1 * 10 ^ d.2.toNat))
  else .real ((if x < 0 then "-" else "") ++ decimalText d.1.toNat (-d.2).toNat)

/-! ## 3. Documents -/

namespace Json

mutual

def inRange : Json → Bool
  | .int n => (float64 n).isSome
  | .real literal => (float64 (literalValue literal)).isSome
  | .arr elems => elemsInRange elems
  | .obj entries => entriesInRange entries
  | _ => true

def elemsInRange : List Json → Bool
  | [] => true
  | v :: rest => inRange v && elemsInRange rest

def entriesInRange : List (String × Json) → Bool
  | [] => true
  | (_, v) :: rest => inRange v && entriesInRange rest

end

mutual

/-- The document after it is decoded into an `interface{}` and encoded. -/
def reencode : Json → Json
  | .int n => ((float64 n).map marshalFloat).getD .null
  | .real literal => ((float64 (literalValue literal)).map marshalFloat).getD .null
  | .arr elems => .arr (reencodeElems elems)
  | .obj entries => .obj (reencodeEntries entries)
  | v => v

def reencodeElems : List Json → List Json
  | [] => []
  | v :: rest => reencode v :: reencodeElems rest

def reencodeEntries : List (String × Json) → List (String × Json)
  | [] => []
  | (key, v) :: rest => (key, reencode v) :: reencodeEntries rest

end

end Json

/-- `json.Unmarshal` into a `map[string]interface{}`: an error, a nil map, or
a map. Its values stay documents, whose numbers stand for their
`float64`s. -/
def unmarshalMap (v : Json) : Option (Option (GoMap String Json)) :=
  if v.inRange then
    match v with
    | .null => some none
    | .obj entries => some (some (GoMap.empty.putAll entries))
    | _ => none
  else none

def truncate (x : ℚ) : ℤ := if 0 ≤ x then ⌊x⌋ else ⌈x⌉

/-- `int(v)` of a `float64` that no `int` holds. -/
structure IntOverflow where
  convert : ℚ → ℤ
  inInt64 : ∀ x, InInt64 (convert x)

/-- `int(v)`. -/
def IntOverflow.toInt (o : IntOverflow) (x : ℚ) : ℤ :=
  if InInt64 (truncate x) then truncate x else o.convert x

theorem IntOverflow.inInt64_toInt (o : IntOverflow) (x : ℚ) : InInt64 (o.toInt x) := by
  unfold toInt
  split
  · assumption
  · exact o.inInt64 x

end Daao.Lib

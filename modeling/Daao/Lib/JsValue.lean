/-
Daao.Lib.JsValue — the values that `JSON.parse` gives, and what JavaScript
does with them.

A value is a `Json`, or `undefined`, which is `none`. Reading a property of
`null` or `undefined` throws; reading one that an object lacks, or any of
another value, gives `undefined`. The properties that strings, arrays and
the like have of themselves are left out.

Two primitive values are the same (`===`, and as keys of a `Map`) if their
`Key`s are; an array or an object is the same as no other value, since
every parse makes a new one, and has no `Key`. Numbers are those of the
`Host`, which also has the two ways to make a text of a value that
JavaScript has: `JSON.stringify` and `String`.
-/
import Daao.Lib.GoJson

namespace Daao.Lib.Js

/-- What is left open: numbers, and the texts of values. -/
structure Host (ν : Type) where
  ofInt : Int → ν
  ofReal : String → ν
  isZero : ν → Bool
  stringify : Json → String
  toText : Json → String

abbrev Value := Option Json

def isNullish : Value → Bool
  | none | some .null => true
  | _ => false

/-- `v.name`; `none` if it throws. -/
def get (v : Value) (name : String) : Option Value :=
  match v with
  | none | some .null => none
  | some (.obj entries) => some (lastEntry name entries)
  | some _ => some none

/-- `v?.name`. -/
def getOptional (v : Value) (name : String) : Value := (get v name).getD none

/-- `v ?? w`. -/
def coalesce (v w : Value) : Value := if isNullish v then w else v

def asString : Value → Option String
  | some (.str s) => some s
  | _ => none

def asNumber : Value → Option Json
  | some (.int n) => some (.int n)
  | some (.real literal) => some (.real literal)
  | _ => none

/-- What a primitive value is compared by. -/
inductive Key (ν : Type) where
  | undefined
  | null
  | bool (b : Bool)
  | number (n : ν)
  | string (s : String)
  deriving DecidableEq

variable {ν : Type} (host : Host ν)

def textOf : Value → String
  | none | some .null => ""
  | some (.str s) => s
  | some v => host.toText v

def truthy : Value → Bool
  | none | some .null => false
  | some (.bool b) => b
  | some (.int n) => !host.isZero (host.ofInt n)
  | some (.real literal) => !host.isZero (host.ofReal literal)
  | some (.str s) => s ≠ ""
  | some (.arr _) | some (.obj _) => true

def key : Value → Option (Key ν)
  | none => some .undefined
  | some .null => some .null
  | some (.bool b) => some (.bool b)
  | some (.int n) => some (.number (host.ofInt n))
  | some (.real literal) => some (.number (host.ofReal literal))
  | some (.str s) => some (.string s)
  | some (.arr _) | some (.obj _) => none

/-- `v === w`, of two values from different places. -/
def sameValue [DecidableEq ν] (v w : Value) : Bool :=
  match key host v, key host w with
  | some k, some k' => k = k'
  | _, _ => false

end Daao.Lib.Js

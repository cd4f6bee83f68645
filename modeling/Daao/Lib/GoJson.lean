/-
Daao.Lib.GoJson — JSON documents, and how Go's `encoding/json` decodes them
into structs and maps.

The decoder goes through the entries of an object in order, finds the field
of each key, and stores the value there; a key finds the field of its exact
name, or else the first one whose name is the same up to case, and
underscores count. A value of another type is skipped and makes `Unmarshal`
return an error, but the decoding goes on (`UnmarshalTypeError` is saved,
not thrown). So the two are separate here, `decodeFields` for what is in
the struct and `acceptsFields` for whether there was no error.

Documents are parsed: a number is an integer literal or another one, and
an object is the list of its entries. Go's limit on nesting is left out.
-/
import Daao.Lib.GoMap

namespace Daao.Lib

open List Option

/-! ## 1. Documents -/

inductive Json where
  | null
  | bool (b : Bool)
  | int (n : Int)
  | real (literal : String)
  | str (s : String)
  | arr (elems : List Json)
  | obj (entries : List (String × Json))

namespace Json

def isNull : Json → Bool
  | .null => true
  | _ => false

def asBool : Json → Option Bool
  | .bool b => some b
  | _ => none

/-- An integer literal that fits an `int`. -/
def asInt : Json → Option Int
  | .int n => if InInt64 n then some n else none
  | _ => none

def asString : Json → Option String
  | .str s => some s
  | _ => none

theorem inInt64_of_asInt {v : Json} {n : Int} (h : v.asInt = some n) : InInt64 n := by
  cases v with
  | int m => grind [asInt]
  | _ => cases h

end Json

/-! ## 2. Slices of strings

Decoding an array into a slice reuses the array behind it. An element that
is `null` or of another type leaves what is at its index there, also past
the slice's length. -/

structure StringSlice where
  elems : List String
  /-- what the array holds after the elements -/
  spare : List String

namespace StringSlice

def nil : StringSlice := { elems := [], spare := [] }

def decodeElems (memory : List String) : List Json → List String
  | [] => []
  | v :: rest => v.asString.getD (memory.headD "") :: decodeElems memory.tail rest

def store (s : StringSlice) : Json → StringSlice
  | .null => nil
  | .arr [] => nil
  | .arr elems =>
    { elems := decodeElems (s.elems ++ s.spare) elems
      spare := (s.elems ++ s.spare).drop elems.length }
  | _ => s

def accepts : Json → Bool
  | .null => true
  | .arr elems => elems.all fun v => v.isNull || v.asString.isSome
  | _ => false

end StringSlice

/-! ## 3. Structs -/

/-- `foldRune` on the runes that fold to ASCII: the lower-case letters,
U+017F and U+212A. Names of fields are ASCII, so how the others fold does
not matter. -/
def foldRune (c : Char) : Char :=
  if c = Char.ofNat 0x17F then 'S' else if c = Char.ofNat 0x212A then 'K' else c.toUpper

variable (name : String)

def foldName : List Char := name.toList.map foldRune

structure StructField (σ : Type) where
  name : String
  /-- a value of the field's type, or `null` -/
  accepts : Json → Bool
  store : σ → Json → σ

/-- A field of one value; `null` and other types leave it as it is. -/
def StructField.scalar {σ α : Type} (read : Json → Option α) (set : σ → α → σ) : StructField σ where
  name := name
  accepts v := v.isNull || (read v).isSome
  store s v := match read v with
    | some a => set s a
    | none => s

/-- A field of a pointer to one value; `null` makes it nil. -/
def StructField.pointer {σ α : Type} (read : Json → Option α)
    (set : σ → Option α → σ) : StructField σ where
  name := name
  accepts v := v.isNull || (read v).isSome
  store s v :=
    match v, read v with
    | .null, _ => set s none
    | _, some a => set s (some a)
    | _, none => s

/-- A field of type `[]string`. -/
def StructField.strings {σ : Type} (get : σ → StringSlice)
    (set : σ → StringSlice → σ) : StructField σ where
  name := name
  accepts := StringSlice.accepts
  store s v := set s ((get s).store v)

variable {σ α : Type} (fields : List (StructField σ))

def fieldOf (key : String) : Option (StructField σ) :=
  (fields.find? fun f => f.name = key).or (fields.find? fun f => foldName f.name = foldName key)

def decodeFields (fields : List (StructField σ)) : σ → List (String × Json) → σ
  | s, [] => s
  | s, e :: rest =>
    match fieldOf fields e.1 with
    | none => decodeFields fields s rest
    | some f => decodeFields fields (f.store s e.2) rest

/-- No entry has a value of another type than its field. -/
def acceptsFields (entries : List (String × Json)) : Bool :=
  entries.all fun e =>
    match fieldOf fields e.1 with
    | none => true
    | some f => f.accepts e.2

structure Unmarshalled (σ : Type) where
  value : σ
  ok : Bool

def unmarshal (zero : σ) : Json → Unmarshalled σ
  | .null => { value := zero, ok := true }
  | .obj entries =>
    { value := decodeFields fields zero entries, ok := acceptsFields fields entries }
  | _ => { value := zero, ok := false }

/-- What `json.Unmarshal` leaves in an empty `map[string]string`. `null`
makes the map nil, and an entry that is not a string is the empty string. -/
def unmarshalStringMap : Json → Option (GoMap String String)
  | .null => none
  | .obj entries =>
    some (GoMap.empty.putAll (entries.map fun e => (e.1, e.2.asString.getD "")))
  | _ => some GoMap.empty

theorem fieldOf_eq_some_iff {fields : List (StructField σ)}
    (hn : (fields.map fun f => foldName f.name).Nodup) {key : String} {f : StructField σ} :
    fieldOf fields key = some f ↔ f ∈ fields ∧ foldName f.name = foldName key := by
  have hu : ∀ g ∈ fields, foldName g.name = foldName key →
      f ∈ fields ∧ foldName f.name = foldName key → g = f := by grind [inj_on_of_nodup_map]
  rw [fieldOf]
  cases he : fields.find? fun f => f.name = key with
  | some g => grind
  | none =>
    rw [none_or]
    constructor
    · grind
    intro hf
    cases hfo : fields.find? fun f => foldName f.name = foldName key with
    | none => exact absurd hf.2 (by simpa using List.find?_eq_none.mp hfo f hf.1)
    | some g => grind

theorem store_scalar (read : Json → Option α) (e : σ → α → σ) (s : σ) (v : Json) :
    (StructField.scalar name read e).store s v = (read v).elim s (e s) := by
  simp only [StructField.scalar]
  cases read v <;> rfl

/-- The last value of a type that an object has for a name. -/
def lastField (read : Json → Option α) (name : String) : List (String × Json) → Option α
  | [] => none
  | e :: rest =>
    (lastField read name rest).or (if foldName e.1 = foldName name then read e.2 else none)

/-- **What a field of one value holds** after the decoding: the last value
of its type under its name, and without one what it held before. -/
theorem get_decodeFields {fields : List (StructField σ)}
    (hn : (fields.map fun f => foldName f.name).Nodup) {t : σ → α} {r : Json → Option α}
    {name : String} (hna : name ∈ fields.map StructField.name)
    (hs : ∀ f ∈ fields, ∀ s v, t (f.store s v) = if f.name = name then (r v).getD (t s) else t s)
    (n : List (String × Json)) (s : σ) :
    t (decodeFields fields s n) = (lastField r name n).getD (t s) := by
  induction n generalizing s with
  | nil => rfl
  | cons e rest ih =>
    rw [decodeFields, lastField, getD_or]
    cases hfi : fieldOf fields e.1 with
    | none =>
      -- the key names no field, so not this one
      have hne : foldName e.1 ≠ foldName name := by
        intro heq
        obtain ⟨f, hf, rfl⟩ := List.mem_map.mp hna
        rw [(fieldOf_eq_some_iff hn).mpr ⟨hf, heq.symm⟩] at hfi
        cases hfi
      simpa [hne] using ih s
    | some f =>
      obtain ⟨hf, hk⟩ := (fieldOf_eq_some_iff hn).mp hfi
      rw [ih, hs f hf]
      by_cases ht : f.name = name
      · grind
      have hne : foldName e.1 ≠ foldName name := by
        intro heq
        obtain ⟨g, hg, rfl⟩ := List.mem_map.mp hna
        exact ht (congrArg StructField.name (inj_on_of_nodup_map hn hf hg (hk.trans heq)))
      rw [if_neg ht, if_neg hne, getD_none]

theorem lastField_eq_none {r : Json → Option α} {name : String} {n : List (String × Json)}
    (h : ∀ e ∈ n, foldName e.1 ≠ foldName name) : lastField r name n = none := by
  induction n with
  | nil => rfl
  | cons e s ih =>
    rw [lastField, if_neg (h e mem_cons_self), or_none]
    exact ih fun e' he' => h e' (mem_cons_of_mem _ he')

theorem inInt64_lastField {name : String} {t : List (String × Json)} :
    InInt64 ((lastField Json.asInt name t).getD 0) := by
  have hz : InInt64 0 := by decide
  induction t with
  | nil => exact hz
  | cons e rest ih =>
    rw [lastField]
    cases hr : lastField Json.asInt name rest with
    | some n =>
      rw [hr] at ih
      exact ih
    | none =>
      split
      · cases hv : e.2.asInt with
        | none => exact hz
        | some n => exact Json.inInt64_of_asInt hv
      · exact hz

end Daao.Lib

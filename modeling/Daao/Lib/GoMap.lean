/-
Daao.Lib.GoMap — Go maps, and the decimal numbers of `strconv`.

A map is a table of entries whose key is their first component. `putAll`
writes a list of entries in order, so a key holds its last entry of the
list, or what it held before (`get_putAll`). A nil map is `none`: it reads
as the empty map, and `writeAll` has no result when it would be written.

`itoa` and `atoi` are `strconv.Itoa` and `strconv.Atoi` for a 64-bit
`int`; the second reads back what the first writes (`atoi_itoa`).
-/
import Daao.Lib.Table
import Mathlib.Data.Nat.Digits.Defs

namespace Daao.Lib

open List Option Table Prod

/-! ## 1. Entries -/

section

variable {K V : Type}

def entryIf (c : Bool) (k : K) (v : V) : List (K × V) := if c then [(k, v)] else []

theorem keys_entryIf_sublist (c : Bool) (k : K) (v : V) :
    ((entryIf c k v).map fst).Sublist [k] := by
  cases c <;> simp [entryIf]

variable [DecidableEq K]

def lastEntry (k : K) : List (K × V) → Option V
  | [] => none
  | e :: rest => (lastEntry k rest).or (if k = e.1 then some e.2 else none)

@[simp] theorem lastEntry_append (k : K) (entries t' : List (K × V)) :
    lastEntry k (entries ++ t') = (lastEntry k t').or (lastEntry k entries) := by
  induction entries with
  | nil => simp [lastEntry]
  | cons e r ih => simp [lastEntry, ih, Option.or_assoc]

@[simp] theorem lastEntry_entryIf (k k' : K) (c : Bool) (v : V) :
    lastEntry k (entryIf c k' v) = if c = true ∧ k = k' then some v else none := by
  cases c <;> simp [entryIf, lastEntry]

variable {k : K} {entries : List (K × V)}

theorem lastEntry_eq_none (h : k ∉ entries.map fst) : lastEntry k entries = none := by
  induction entries with
  | nil => rfl
  | cons e r ih =>
    rw [map_cons, mem_cons, not_or] at h
    simp [lastEntry, ih h.2, h.1]

theorem lastEntry_eq_none_iff : lastEntry k entries = none ↔ k ∉ entries.map fst := by
  refine ⟨?_, lastEntry_eq_none⟩
  induction entries with
  | nil => simp
  | cons e r ih =>
    intro h
    rw [lastEntry, or_eq_none_iff] at h
    rw [map_cons, mem_cons, not_or]
    refine ⟨?_, ih h.1⟩
    intro hk
    simp [hk] at h

theorem lastEntry_map {W : Type} (f : V → W) (k : K) (entries : List (K × V)) :
    lastEntry k (entries.map fun e => (e.1, f e.2)) = (lastEntry k entries).map f := by
  induction entries with
  | nil => rfl
  | cons e r ih =>
    rw [map_cons, lastEntry, lastEntry, ih, map_or]
    split <;> rfl

variable {v : V}

theorem mem_of_lastEntry (h : lastEntry k entries = some v) : (k, v) ∈ entries := by
  induction entries with
  | nil => cases h
  | cons e r ih => grind [lastEntry, or_eq_some_iff]

theorem lastEntry_eq_some_iff (hk : (entries.map fst).Nodup) :
    lastEntry k entries = some v ↔ (k, v) ∈ entries := by
  refine ⟨mem_of_lastEntry, ?_⟩
  induction entries with
  | nil =>
    intro h
    cases h
  | cons e r ih =>
    intro h
    rw [map_cons, nodup_cons] at hk
    rcases mem_cons.mp h with rfl | hr
    · simp [lastEntry, lastEntry_eq_none hk.1]
    · simp [lastEntry, ih hk.2 hr]

theorem lastEntry_of_forall (hk : k ∈ entries.map fst) (hva : ∀ v', (k, v') ∈ entries → v' = v) :
    lastEntry k entries = some v := by
  obtain ⟨v', hv'⟩ := ne_none_iff_exists'.mp (mt lastEntry_eq_none_iff.mp (not_not.mpr hk))
  rw [hv', hva v' (mem_of_lastEntry hv')]

theorem lastEntry_perm {entries' : List (K × V)} (hp : entries.Perm entries')
    (hk : (entries.map fst).Nodup) (k : K) :
    lastEntry k entries = lastEntry k entries' := by
  have hk' : (entries'.map fst).Nodup := (hp.map fst).nodup_iff.mp hk
  refine Option.ext fun v => ?_
  rw [lastEntry_eq_some_iff hk, lastEntry_eq_some_iff hk', hp.mem_iff]

end

/-! ## 2. Maps -/

abbrev GoMap (K V : Type) := Table (Prod.fst : K × V → K)

namespace GoMap

variable {K V : Type}

def empty : GoMap K V := { rows := [], primaryKey := List.nodup_nil }

variable [DecidableEq K]

def get (m : GoMap K V) (k : K) : Option V := (Table.find? m k).map Prod.snd

def putAll (m : GoMap K V) (entries : List (K × V)) : GoMap K V := entries.foldl Table.put m

/-- Write entries to a map that may be nil. The write to a nil map panics;
without one it reads as the empty map. -/
def writeAll : Option (GoMap K V) → List (K × V) → Option (GoMap K V)
  | some m, entries => some (m.putAll entries)
  | none, [] => some empty
  | none, _ :: _ => none

theorem get_put (m : GoMap K V) (e : K × V) (k : K) :
    get (put m e) k = if k = e.1 then some e.2 else m.get k := by
  rw [get, find?_put]
  split <;> rfl

theorem get_restrict_ne (m : GoMap K V) (k k' : K) :
    get (m.restrict fun e => e.1 ≠ k) k' = if k' = k then none else m.get k' := by
  rw [get, find?_restrict_ne]
  split <;> rfl

theorem mem_keys_put (m : GoMap K V) (e : K × V) (k : K) :
    k ∈ (put m e).rows.map fst ↔ k = e.1 ∨ k ∈ m.rows.map fst := by
  rw [← isSome_find?_iff, ← isSome_find?_iff, find?_put]
  split <;> simp [*]

theorem filter_rows (m : GoMap K V) (k : K) :
    m.rows.filter (fun e => e.1 = k) = ((m.get k).map fun v => (k, v)).toList := by
  cases hg : find? m k with
  | none =>
    have hn : ∀ e ∈ m.rows, e.1 ≠ k := fun e he => by
      simpa using List.find?_eq_none.mp hg e he
    simpa [get, hg] using hn
  | some e =>
    have hke := key_of_find? hg
    have hm := mem_of_find? hg
    have hp : (m.rows.filter fun e' => e'.1 = k).Perm [e] := by
      refine (perm_ext_iff_of_nodup (m.nodup_rows.filter _) (nodup_singleton e)).mpr ?_
      intro e'
      simp only [mem_filter, decide_eq_true_eq, mem_singleton]
      constructor
      · rintro ⟨he', hk⟩
        have hf := find?_of_mem he'
        rw [hk, hg] at hf
        exact (some.inj hf).symm
      rintro rfl
      exact ⟨hm, hke⟩
    rw [perm_singleton.mp hp, get, hg, ← hke]
    rfl

theorem get_putAll (m : GoMap K V) (entries : List (K × V)) (k : K) :
    (m.putAll entries).get k = (lastEntry k entries).or (m.get k) := by
  induction entries generalizing m with
  | nil => rfl
  | cons e r ih =>
    calc (m.putAll (e :: r)).get k = (lastEntry k r).or (get (put m e) k) := ih (put m e)
      _ = (lastEntry k (e :: r)).or (m.get k) := by
        rw [get_put, lastEntry, Option.or_assoc]
        split <;> simp

@[simp] theorem get_empty (k : K) : (empty : GoMap K V).get k = none := rfl

theorem get_putAll_empty (entries : List (K × V)) (k : K) :
    (empty.putAll entries).get k = lastEntry k entries := by
  rw [get_putAll, get_empty, or_none]

theorem rows_putAll (m : GoMap K V) (entries : List (K × V))
    (h : ((m.rows ++ entries).map fst).Nodup) :
    (m.putAll entries).rows = m.rows ++ entries := by
  induction entries generalizing m with
  | nil => exact (append_nil _).symm
  | cons e r ih =>
    have hp : (put m e).rows = m.rows ++ [e] := by grind [put, filter_eq_self]
    have hr := ih (put m e) (by simpa [hp] using h)
    rw [hp, append_assoc] at hr
    exact hr

variable {entries : List (K × V)}

theorem rows_putAll_empty (h : (entries.map fst).Nodup) : (empty.putAll entries).rows = entries :=
  rows_putAll empty entries h

/-- **What a key holds after the writes**: its last entry, or what it held
before. -/
theorem get_writeAll {m : Option (GoMap K V)} {m' : GoMap K V}
    (h : writeAll m entries = some m') (k : K) :
    m'.get k = (lastEntry k entries).or ((m.getD empty).get k) := by
  cases m with
  | some m =>
    cases h
    exact get_putAll m entries k
  | none =>
    cases entries with
    | nil =>
      cases h
      rfl
    | cons e r => cases h

theorem writeAll_eq_none_iff {m : Option (GoMap K V)} :
    writeAll m entries = none ↔ m = none ∧ entries ≠ [] := by
  cases m with
  | some m => simp [writeAll]
  | none => cases entries <;> simp [writeAll]

end GoMap

/-! ## 3. Decimal numbers -/

def InInt64 (n : Int) : Prop := -2 ^ 63 ≤ n ∧ n < 2 ^ 63

instance decidableInInt64 (n : Int) : Decidable (InInt64 n) :=
  inferInstanceAs (Decidable (_ ∧ _))

def itoa (n : Int) : String :=
  if n < 0 then "-" ++ Nat.repr n.natAbs else Nat.repr n.natAbs

def digitsValue (digits : List Char) : Option Nat :=
  if digits ≠ [] ∧ digits.all Char.isDigit then some (Nat.ofDigitChars 10 digits 0) else none

/-- `strconv.Atoi`; `none` is an error. -/
def atoi (s : String) : Option Int :=
  let value : Option Int := match s.toList with
    | [] => none
    | c :: rest =>
      if c = '-' then (digitsValue rest).map fun n => -(n : Int)
      else if c = '+' then (digitsValue rest).map fun n => (n : Int)
      else (digitsValue (c :: rest)).map fun n => (n : Int)
  value.filter fun n => InInt64 n

theorem digitsValue_toDigits (n : Nat) : digitsValue (Nat.toDigits 10 n) = some n := by
  have hd : (Nat.toDigits 10 n).all Char.isDigit = true := by
    rw [List.all_eq_true]
    intro c hc
    exact Nat.isDigit_of_mem_toDigits (by decide) (by decide) hc
  rw [digitsValue, if_pos ⟨Nat.toDigits_ne_nil, hd⟩, Nat.ofDigitChars_ten_toDigits]

variable {n : Int}

theorem toList_itoa (hp : 0 < n) : (itoa n).toList = Nat.toDigits 10 n.natAbs := by
  rw [itoa, if_neg (by omega), Nat.repr_eq_ofList_toDigits, String.toList_ofList]

theorem itoa_inj {m : Int} (hm : 0 < m) (hn : 0 < n) : itoa m = itoa n ↔ m = n := by
  grind [toList_itoa, digitsValue_toDigits, some.injEq]

theorem atoi_itoa (hpo : 0 < n) (hn : InInt64 n) : atoi (itoa n) = some n := by
  have hl := toList_itoa hpo
  have hd := digitsValue_toDigits n.natAbs
  have ha : (n.natAbs : Int) = n := by omega
  unfold atoi
  rw [hl]
  cases hca : Nat.toDigits 10 n.natAbs with
  | nil => exact absurd hca Nat.toDigits_ne_nil
  | cons c r =>
    have hc : c.isDigit = true :=
      Nat.isDigit_of_mem_toDigits (by decide) (by decide) (hca ▸ mem_cons_self)
    have hm : c ≠ '-' := fun heq => absurd (heq ▸ hc) (by decide)
    have hp : c ≠ '+' := fun heq => absurd (heq ▸ hc) (by decide)
    rw [hca] at hd
    simp [hm, hp, hd, ha, hn]

end Daao.Lib

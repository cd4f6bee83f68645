/-
Daao.Lib.Table — a database table with a primary key.

The rows are a list, as a query returns them, and the structure carries
the key constraint. `insert` fails on a key that is there, `put` takes the
place of the row that is there, `modify` and `modifyWhere` take a function
that keeps the key, and `restrict` drops rows, so all stay within the
type. What is proved is what a look-up by key finds afterwards, and which
tables a selection cannot tell apart.
-/
import Mathlib.Data.List.Nodup

namespace Daao.Lib

open List

variable {Row Key : Type}

theorem map_column_ite {β : Type} (column : Row → β) (p : Row → Prop) [DecidablePred p]
    (f : Row → Row) (hc : ∀ row, column (f row) = column row) (r : List Row) :
    (r.map fun row => if p row then f row else row).map column = r.map column := by
  grind [List.map_map, map_congr_left]

structure Table (key : Row → Key) where
  rows : List Row
  primaryKey : (rows.map key).Nodup

namespace Table

variable {key : Row → Key}

def empty : Table key := { rows := [], primaryKey := List.nodup_nil }

variable [DecidableEq Key]

def find? (t : Table key) (k : Key) : Option Row :=
  t.rows.find? fun row => key row = k

def insert (t : Table key) (row : Row) : Option (Table key) :=
  if h : key row ∉ t.rows.map key then
    some { rows := t.rows ++ [row]
           primaryKey := by
             rw [List.map_append, List.nodup_append_comm]
             exact List.nodup_cons.mpr ⟨h, t.primaryKey⟩ }
  else none

def modify (t : Table key) (k : Key) (f : Row → Row) (hf : ∀ row, key (f row) = key row) :
    Table key where
  rows := t.rows.map fun row => if key row = k then f row else row
  primaryKey := by
    rw [map_column_ite key (fun row => key row = k) f hf]
    exact t.primaryKey

def modifyWhere (t : Table key) (p : Row → Bool) (f : Row → Row)
    (hf : ∀ row, key (f row) = key row) : Table key where
  rows := t.rows.map fun row => if p row = true then f row else row
  primaryKey := by
    rw [map_column_ite key (fun row => p row = true) f hf]
    exact t.primaryKey

def restrict (t : Table key) (p : Row → Bool) : Table key where
  rows := t.rows.filter p
  primaryKey := t.primaryKey.sublist (List.filter_sublist.map key)

def put (t : Table key) (row : Row) : Table key where
  rows := t.rows.filter (fun other => key other ≠ key row) ++ [row]
  primaryKey := by
    rw [List.map_append, List.nodup_append_comm, List.map_singleton, List.singleton_append]
    refine List.nodup_cons.mpr ⟨?_, t.primaryKey.sublist (List.filter_sublist.map key)⟩
    simp [List.mem_map, List.mem_filter]

variable {k : Key} {row : Row} {t t' : Table key}

theorem key_of_find? (h : t.find? k = some row) : key row = k := by
  simpa using find?_some h

theorem mem_of_find? (h : t.find? k = some row) : row ∈ t.rows := mem_of_find?_eq_some h

theorem find?_of_mem (h : row ∈ t.rows) : t.find? (key row) = some row := by
  have hk := t.primaryKey
  unfold find?
  revert h hk
  induction t.rows with
  | nil =>
    intro h
    cases h
  | cons first r ih => grind

theorem find?_eq_none (h : k ∉ t.rows.map key) : t.find? k = none := by
  rw [find?, List.find?_eq_none]
  intro row hr
  simp only [decide_eq_true_eq]
  exact fun heq => h (heq ▸ List.mem_map_of_mem hr)

theorem isSome_find?_iff : (t.find? k).isSome = true ↔ k ∈ t.rows.map key := by
  constructor
  · intro h
    obtain ⟨row, hr⟩ := Option.isSome_iff_exists.mp h
    exact List.mem_map.mpr ⟨row, mem_of_find? hr, key_of_find? hr⟩
  intro h
  obtain ⟨row, hr, rfl⟩ := List.mem_map.mp h
  rw [find?_of_mem hr]
  rfl

theorem find?_eq_none_iff : t.find? k = none ↔ k ∉ t.rows.map key := by
  rw [← isSome_find?_iff, Option.not_isSome_iff_eq_none]

theorem exists_insert (row : Row) (h : t.find? (key row) = none) :
    ∃ t', t.insert row = some t' := by
  unfold insert
  rw [dif_pos (find?_eq_none_iff.mp h)]
  exact ⟨_, rfl⟩

theorem insert_eq_some (h : t.insert row = some t') :
    t.find? (key row) = none ∧ t'.rows = t.rows ++ [row] := by
  unfold insert at h
  split at h
  · rename_i hn
    cases h
    exact ⟨find?_eq_none hn, rfl⟩
  · cases h

theorem find?_eq_some_iff : t.find? k = some row ↔ row ∈ t.rows ∧ key row = k := by
  constructor
  · intro h
    exact ⟨mem_of_find? h, key_of_find? h⟩
  · rintro ⟨h, rfl⟩
    exact find?_of_mem h

section

omit [DecidableEq Key]

theorem eq_of_key_eq {other : Row} (hr : row ∈ t.rows) (ho : other ∈ t.rows)
    (hk : key row = key other) : row = other :=
  inj_on_of_nodup_map t.primaryKey hr ho hk

theorem nodup_rows (t : Table key) : t.rows.Nodup := List.Nodup.of_map key t.primaryKey

theorem perm_filter {p : Row → Bool} (h : ∀ row, p row = true → (row ∈ t.rows ↔ row ∈ t'.rows)) :
    (t.rows.filter p).Perm (t'.rows.filter p) := by
  refine (perm_ext_iff_of_nodup (t.nodup_rows.filter p) (t'.nodup_rows.filter p)).mpr ?_
  intro row
  simp only [mem_filter]
  exact and_congr_left (h row)

end

theorem find?_insert (h : t.insert row = some t') (k : Key) :
    t'.find? k = if k = key row then some row else t.find? k := by
  obtain ⟨hn, hr⟩ := insert_eq_some h
  unfold find? at hn ⊢
  rw [hr, find?_append]
  split
  · grind
  rename_i hk
  simp [Ne.symm hk]

/-- What a look-up finds after an `UPDATE` that keeps the key. -/
theorem find?_update {p : Row → Prop} [DecidablePred p] {f : Row → Row}
    (hf : ∀ row, key (f row) = key row)
    (h : t'.rows = t.rows.map fun row => if p row then f row else row) (k : Key) :
    t'.find? k = (t.find? k).map fun row => if p row then f row else row := by
  rw [find?, h, find?, find?_map]
  congr 2
  funext row
  simp only [Function.comp]
  split
  · rw [hf]
  · rfl

theorem find?_modifyWhere (t : Table key) (p : Row → Bool) (f : Row → Row)
    (hf : ∀ row, key (f row) = key row) (k : Key) :
    (t.modifyWhere p f hf).find? k
      = (t.find? k).map fun row => if p row = true then f row else row :=
  find?_update hf rfl k

theorem find?_updateKey {f : Row → Row} (hf : ∀ row, key (f row) = key row)
    (h : t'.rows = t.rows.map fun row => if key row = k then f row else row) (k' : Key) :
    t'.find? k' = if k' = k then (t.find? k').map f else t.find? k' := by
  rw [find?_update hf h]
  cases hr : t.find? k' with
  | none => simp
  | some row =>
    rw [Option.map_some, key_of_find? hr]
    split <;> rfl

theorem find?_modify (t : Table key) (k k' : Key) (f : Row → Row)
    (hf : ∀ row, key (f row) = key row) :
    (t.modify k f hf).find? k' = if k' = k then (t.find? k').map f else t.find? k' :=
  find?_updateKey hf rfl k'

theorem find?_restrict_ne (t : Table key) (k k' : Key) :
    (t.restrict fun row => key row ≠ k).find? k' = if k' = k then none else t.find? k' := by
  simp only [find?, restrict, find?_filter]
  split
  · grind
  · grind

theorem find?_put (t : Table key) (row : Row) (k : Key) :
    (t.put row).find? k = if k = key row then some row else t.find? k := by
  have hr := t.find?_restrict_ne (key row) k
  simp only [find?, restrict] at hr
  simp only [find?, put, find?_append, hr]
  split
  · rename_i hk
    simp [hk]
  rename_i hk
  simp [Ne.symm hk]

end Table

end Daao.Lib

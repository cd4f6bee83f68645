/-
Daao.Database.ContextFiles — the context files of the satellites and their
history (`internal/database/context.go`, the upsert of
`internal/grpc/gateway.go`, migrations 018 and 021).

The tables carry their constraints: the primary key, the unique pair of
satellite and path, and the two foreign keys. A statement that would break
one of them fails, as does one that would take a version beyond the type
`INTEGER`; a failed statement is `none` here. The times of the rows are
left out.
-/
import Daao.Lib.Table

namespace Daao.Database

open Daao.Lib List

/-! ## 1. The tables -/

structure ContextFile (Id : Type) where
  id : Id
  satelliteID : Id
  filePath : String
  content : String
  version : Nat
  lastModifiedBy : String
  deriving DecidableEq

structure ContextFileHistory (Id : Type) where
  contextFileID : Id
  version : Nat
  content : String
  modifiedBy : String
  deriving DecidableEq

def maxInteger : Nat := 2147483647

section

variable {Id : Type}

def ContextFile.place (file : ContextFile Id) : Id × String := (file.satelliteID, file.filePath)

def ContextFile.edit (content lastModifiedBy : String) (file : ContextFile Id) : ContextFile Id :=
  { file with content := content, version := file.version + 1, lastModifiedBy := lastModifiedBy }

def ContextFile.toHistory (file : ContextFile Id) : ContextFileHistory Id :=
  { contextFileID := file.id, version := file.version, content := file.content
    modifiedBy := file.lastModifiedBy }

end

structure ContextFiles (Id : Type) where
  satellites : List Id
  files : Table fun file : ContextFile Id => file.id
  history : List (ContextFileHistory Id)
  placeUnique : (files.rows.map ContextFile.place).Nodup
  satelliteExists : ∀ file ∈ files.rows, file.satelliteID ∈ satellites
  fileExists : ∀ entry ∈ history, entry.contextFileID ∈ files.rows.map ContextFile.id

namespace ContextFiles

variable {Id : Type} [DecidableEq Id]

def empty (satellites : List Id) : ContextFiles Id where
  satellites := satellites
  files := { rows := [], primaryKey := List.nodup_nil }
  history := []
  placeUnique := List.nodup_nil
  satelliteExists := by
    intro file h
    cases h
  fileExists := by
    intro entry h
    cases h

/-! ## 2. The statements -/

def insertFile (db : ContextFiles Id) (file : ContextFile Id) : Option (ContextFiles Id) :=
  if h : file.id ∉ db.files.rows.map ContextFile.id ∧
      file.place ∉ db.files.rows.map ContextFile.place ∧ file.satelliteID ∈ db.satellites then
    some
      { db with
        files :=
          { rows := db.files.rows ++ [file]
            primaryKey := by
              rw [List.map_append, List.nodup_append_comm]
              exact List.nodup_cons.mpr ⟨h.1, db.files.primaryKey⟩ }
        placeUnique := by
          rw [List.map_append, List.nodup_append_comm]
          exact List.nodup_cons.mpr ⟨h.2.1, db.placeUnique⟩
        satelliteExists := by
          intro other hother
          rcases List.mem_append.mp hother with hother | hother
          · exact db.satelliteExists other hother
          rw [List.mem_singleton.mp hother]
          exact h.2.2
        fileExists := by
          intro entry hentry
          rw [List.map_append]
          exact List.mem_append_left _ (db.fileExists entry hentry) }
  else none

/-- `UPDATE satellite_context_files SET … WHERE id = id`, where the version
has a successor. -/
def updateFile (db : ContextFiles Id) (id : Id) (content lastModifiedBy : String) :
    ContextFiles Id :=
  { db with
    files := db.files.modify id (ContextFile.edit content lastModifiedBy) fun _ => rfl
    placeUnique := by
      have hplaces := map_column_ite ContextFile.place (fun file => file.id = id)
        (ContextFile.edit content lastModifiedBy) (fun _ => rfl) db.files.rows
      exact hplaces ▸ db.placeUnique
    satelliteExists := by
      intro file hfile
      obtain ⟨old, hold, rfl⟩ := List.mem_map.mp hfile
      have hsatellite := db.satelliteExists old hold
      split <;> exact hsatellite
    fileExists := by
      intro entry hentry
      have hids := map_column_ite ContextFile.id (fun file => file.id = id)
        (ContextFile.edit content lastModifiedBy) (fun _ => rfl) db.files.rows
      exact hids ▸ db.fileExists entry hentry }

/-- `INSERT INTO context_file_history … SELECT … WHERE id = id`. -/
def insertHistory (db : ContextFiles Id) (id : Id) : ContextFiles Id :=
  match h : db.files.find? id with
  | none => db
  | some file =>
    { db with
      history := db.history ++ [file.toHistory]
      fileExists := by
        intro entry hentry
        rcases List.mem_append.mp hentry with hentry | hentry
        · exact db.fileExists entry hentry
        rw [List.mem_singleton.mp hentry]
        exact List.mem_map_of_mem (Table.mem_of_find? h) }

/-- `DELETE FROM satellite_context_files WHERE id = id`, and the history
with it. -/
def deleteContextFile (db : ContextFiles Id) (id : Id) : ContextFiles Id :=
  { db with
    files := db.files.restrict fun file => file.id ≠ id
    history := db.history.filter fun entry => entry.contextFileID ≠ id
    placeUnique := db.placeUnique.sublist (List.filter_sublist.map _)
    satelliteExists := fun file hfile => db.satelliteExists file (List.mem_of_mem_filter hfile)
    fileExists := by
      intro entry hentry
      obtain ⟨hmem, hne⟩ := List.mem_filter.mp hentry
      obtain ⟨file, hfile, hid⟩ := List.mem_map.mp (db.fileExists entry hmem)
      refine List.mem_map.mpr ⟨file, List.mem_filter.mpr ⟨hfile, ?_⟩, hid⟩
      simpa [hid] using hne }

def findPlace? (db : ContextFiles Id) (satelliteID : Id) (filePath : String) :
    Option (ContextFile Id) :=
  db.files.rows.find? fun file => file.place = (satelliteID, filePath)

/-- `CreateContextFile`; the id is the one that the database makes. -/
def createContextFile (db : ContextFiles Id) (newID satelliteID : Id)
    (filePath content lastModifiedBy : String) : Option (ContextFiles Id) :=
  db.insertFile { id := newID, satelliteID := satelliteID, filePath := filePath
                  content := content, version := 1, lastModifiedBy := lastModifiedBy }

/-- The last statement of `UpdateContextFile`. It returns the row, so it is
an error if there is none. -/
def updateContextFile (db : ContextFiles Id) (id : Id) (content lastModifiedBy : String) :
    Option (ContextFiles Id) :=
  match db.files.find? id with
  | none => none
  | some file =>
    if file.version < maxInteger then some (db.updateFile id content lastModifiedBy) else none

/-- The gateway's statement for a file that a satellite sends: insert it,
`ON CONFLICT (satellite_id, file_path) DO UPDATE`. -/
def upsertContextFile (db : ContextFiles Id) (newID satelliteID : Id)
    (filePath content lastModifiedBy : String) : Option (ContextFiles Id) :=
  match db.findPlace? satelliteID filePath with
  | none => db.createContextFile newID satelliteID filePath content lastModifiedBy
  | some file =>
    if file.version < maxInteger then some (db.updateFile file.id content lastModifiedBy) else none

/-! ## 3. What they do -/

variable {file other : ContextFile Id} {db db' : ContextFiles Id}

open ContextFile

theorem insertFile_eq_some (h : db.insertFile file = some db') :
    file.id ∉ db.files.rows.map ContextFile.id ∧ file.place ∉ db.files.rows.map place ∧
      db'.files.rows = db.files.rows ++ [file] ∧ db'.history = db.history := by
  unfold insertFile at h
  split at h
  · grind
  · cases h

variable {id satelliteID : Id}

theorem insertHistory_of_find (h : db.files.find? id = some file) :
    (db.insertHistory id).files = db.files ∧
      (db.insertHistory id).history = db.history ++ [file.toHistory] := by
  unfold insertHistory
  split
  · rename_i hn
    simp [h] at hn
  · grind

theorem insertHistory_of_none (h : db.files.find? id = none) : db.insertHistory id = db := by
  unfold insertHistory
  split
  · rfl
  rename_i other ho
  simp [h] at ho

variable {content filePath lastModifiedBy : String}

theorem mem_updateFile :
    file ∈ (db.updateFile id content lastModifiedBy).files.rows ↔
      (file ∈ db.files.rows ∧ file.id ≠ id) ∨
        ∃ d ∈ db.files.rows, d.id = id ∧ file = d.edit content lastModifiedBy := by
  simp only [updateFile, Table.modify, mem_map]
  constructor
  · grind
  · grind

theorem mem_of_findPlace? (h : db.findPlace? satelliteID filePath = some file) :
    file ∈ db.files.rows ∧ file.place = (satelliteID, filePath) :=
  ⟨mem_of_find?_eq_some h, by simpa using find?_some h⟩

theorem findPlace?_of_mem (h : file ∈ db.files.rows) :
    db.findPlace? file.satelliteID file.filePath = some file := by
  cases hf : db.findPlace? file.satelliteID file.filePath with
  | none =>
    have hn := find?_eq_none.mp hf file h
    simp [place] at hn
  | some other =>
    obtain ⟨ho, hp⟩ := mem_of_findPlace? hf
    rw [inj_on_of_nodup_map db.placeUnique h ho hp.symm]

/-! ## 4. What a satellite's files hold -/

def contentAt (db : ContextFiles Id) (satelliteID : Id) (filePath : String) : Option String :=
  (db.findPlace? satelliteID filePath).map ContextFile.content

theorem contentAt_eq_some_iff :
    db.contentAt satelliteID filePath = some content ↔
      ∃ file ∈ db.files.rows, file.place = (satelliteID, filePath) ∧ file.content = content := by
  rw [contentAt, Option.map_eq_some_iff]
  constructor
  · rintro ⟨file, hf, hc⟩
    obtain ⟨hm, hp⟩ := mem_of_findPlace? hf
    exact ⟨file, hm, hp, hc⟩
  rintro ⟨file, hm, hp, hc⟩
  refine ⟨file, ?_, hc⟩
  rw [← findPlace?_of_mem hm, (Prod.mk.inj hp).1, (Prod.mk.inj hp).2]

omit [DecidableEq Id] in
theorem eq_of_place_eq (hf : file ∈ db.files.rows) (ho : other ∈ db.files.rows)
    (hp : file.place = other.place) : file = other :=
  inj_on_of_nodup_map db.placeUnique hf ho hp

theorem contentAt_of_mem_iff {place : Id × String}
    {n : Option (ContextFile Id)} (hn : ∀ file ∈ n, file.place = place)
    (hm : ∀ file, file ∈ db'.files.rows ↔ (file ∈ db.files.rows ∧ file.place ≠ place) ∨ file ∈ n)
    (satelliteID : Id) (filePath : String) :
    db'.contentAt satelliteID filePath
      = if place = (satelliteID, filePath) then n.map ContextFile.content
        else db.contentAt satelliteID filePath := by
  refine Option.ext fun content => ?_
  rw [contentAt_eq_some_iff]
  simp only [hm]
  split
  · rename_i hp
    rw [Option.map_eq_some_iff]
    constructor
    · rintro ⟨file, ⟨-, hne⟩ | hf, hs, hc⟩
      · exact absurd (hs.trans hp.symm) hne
      · exact ⟨file, hf, hc⟩
    · grind
  rw [contentAt_eq_some_iff]
  constructor
  · grind
  · grind

omit [DecidableEq Id] in
theorem id_ne_iff_place_ne (hf : file ∈ db.files.rows) (ho : other ∈ db.files.rows) :
    other.id ≠ file.id ↔ other.place ≠ file.place := by
  grind [Table.eq_of_key_eq, eq_of_place_eq]

theorem contentAt_insertFile
    (h : db.insertFile file = some db') (satelliteID : Id) (filePath : String) :
    db'.contentAt satelliteID filePath
      = if file.place = (satelliteID, filePath) then some file.content
        else db.contentAt satelliteID filePath := by
  obtain ⟨-, hn, hr, -⟩ := insertFile_eq_some h
  have hp : ∀ other ∈ db.files.rows, other.place ≠ file.place :=
    fun other ho hs => hn (mem_map.mpr ⟨other, ho, hs⟩)
  have hse : ∀ other ∈ some file, other.place = file.place := by
    rintro _ ⟨⟩
    rfl
  refine contentAt_of_mem_iff hse (fun other => ?_) satelliteID filePath
  rw [hr, mem_append, mem_singleton, Option.mem_some_iff, eq_comm (a := file)]
  exact or_congr_left ⟨fun ho => ⟨ho, hp other ho⟩, And.left⟩

theorem contentAt_updateFile
    (hf : file ∈ db.files.rows) (content lastModifiedBy : String) (satelliteID : Id)
    (filePath : String) :
    (db.updateFile file.id content lastModifiedBy).contentAt satelliteID filePath
      = if file.place = (satelliteID, filePath) then some content
        else db.contentAt satelliteID filePath := by
  have hs : ∀ other ∈ some (file.edit content lastModifiedBy), other.place = file.place := by
    rintro _ ⟨⟩
    rfl
  refine contentAt_of_mem_iff hs (fun other => ?_) satelliteID filePath
  rw [mem_updateFile, Option.mem_some_iff]
  refine or_congr (and_congr_right (id_ne_iff_place_ne hf)) ?_
  constructor
  · rintro ⟨d, hold, hid, rfl⟩
    rw [Table.eq_of_key_eq hold hf hid]
  · grind

theorem contentAt_deleteContextFile (hf : db.files.find? id = some file) (filePath : String) :
    (db.deleteContextFile id).contentAt file.satelliteID filePath
      = if filePath = file.filePath then none
        else db.contentAt file.satelliteID filePath := by
  have hfi := Table.mem_of_find? hf
  have hp : file.place = (file.satelliteID, filePath) ↔ filePath = file.filePath := by
    simp [place, eq_comm]
  have hs : ∀ other ∈ (none : Option (ContextFile Id)), other.place = file.place := by
    intro other ho
    cases ho
  rw [← Table.key_of_find? hf, ← if_congr hp rfl rfl]
  refine contentAt_of_mem_iff hs (fun other => ?_) file.satelliteID filePath
  simp only [deleteContextFile, Table.restrict, mem_filter, decide_eq_true_eq,
    Option.not_mem_none, or_false]
  exact and_congr_right (id_ne_iff_place_ne hfi)

theorem contentAt_createContextFile {n : Id}
    (h : db.createContextFile n satelliteID filePath content lastModifiedBy = some db')
    (filePath' : String) :
    db'.contentAt satelliteID filePath'
      = if filePath' = filePath then some content else db.contentAt satelliteID filePath' := by
  rw [contentAt_insertFile h]
  simp [place, eq_comm]

theorem contentAt_updateContextFile (hf : db.files.find? id = some file)
    (h : db.updateContextFile id content lastModifiedBy = some db') (filePath : String) :
    db'.contentAt file.satelliteID filePath
      = if filePath = file.filePath then some content
        else db.contentAt file.satelliteID filePath := by
  simp only [updateContextFile, hf] at h
  split at h
  · cases h
    rw [← Table.key_of_find? hf, contentAt_updateFile (Table.mem_of_find? hf)]
    simp [place, eq_comm]
  · cases h

theorem contentAt_upsertContextFile {n : Id}
    (h : db.upsertContextFile n satelliteID filePath content lastModifiedBy = some db')
    (filePath' : String) :
    db'.contentAt satelliteID filePath'
      = if filePath' = filePath then some content else db.contentAt satelliteID filePath' := by
  unfold upsertContextFile at h
  split at h
  · exact contentAt_createContextFile h filePath'
  rename_i file hf
  obtain ⟨hfi, hp⟩ := mem_of_findPlace? hf
  split at h
  · cases h
    rw [contentAt_updateFile hfi, hp]
    simp [eq_comm]
  · cases h

end ContextFiles

end Daao.Database

/-
Daao.Database.ContextHistory — the history of the context files under
concurrent writers.

`UpdateContextFile` reads the version, copies the row to the history and
then updates it, in three statements; any number of calls may be under way
at once. A satellite's upload updates a row in one statement and copies
nothing. Any statement of a call may fail, and ends the call.

What a copy says is always right, since it is taken in one statement. A
version is missing from the history if it was left without a copy.
-/
import Daao.Database.ContextFiles
import Daao.Lib.Trace

namespace Daao.Database

open Daao.Lib List ContextFiles

/-! ## 1. The writers -/

/-- The statement that a call of `UpdateContextFile` comes to next. -/
inductive UpdatePhase where
  | insertHistory
  | update

structure UpdateCall (Id : Type) where
  phase : UpdatePhase
  id : Id
  content : String
  lastModifiedBy : String

structure ContextWriters (Id : Type) where
  db : ContextFiles Id
  /-- the calls under way, each under a number of its own -/
  calls : Nat → Option (UpdateCall Id)
  /-- every row that has been in the table; no statement reads it -/
  past : List (ContextFile Id)

namespace ContextWriters

inductive Act (Id : Type) where
  | create (newID satelliteID : Id) (filePath content lastModifiedBy : String)
  | upload (newID satelliteID : Id) (filePath content lastModifiedBy : String)
  | begin (call : Nat) (id : Id) (content lastModifiedBy : String)
  | insertHistory (call : Nat)
  | update (call : Nat)
  | fail (call : Nat)

section

variable {Id : Type} [DecidableEq Id]

def start (satellites : List Id) : ContextWriters Id :=
  { db := .empty satellites, calls := fun _ => none, past := [] }

/-- The state after a statement, which leaves the tables if it fails. -/
def commit (s : ContextWriters Id) (db : Option (ContextFiles Id)) : ContextWriters Id :=
  { s with db := db.getD s.db, past := s.past ++ (db.getD s.db).files.rows }

def setCall (s : ContextWriters Id) (call : Nat) (c : Option (UpdateCall Id)) : ContextWriters Id :=
  { s with calls := Function.update s.calls call c }

def step (s : ContextWriters Id) : Act Id → Option (ContextWriters Id)
  | .create newID satelliteID filePath content lastModifiedBy =>
    some (s.commit (s.db.createContextFile newID satelliteID filePath content lastModifiedBy))
  | .upload newID satelliteID filePath content lastModifiedBy =>
    some (s.commit (s.db.upsertContextFile newID satelliteID filePath content lastModifiedBy))
  | .begin call id content lastModifiedBy =>
    match s.calls call, s.db.files.find? id with
    | some _, _ => none
    | none, none => some (s.commit none)
    | none, some _ =>
      some ((s.commit none).setCall call (some ⟨.insertHistory, id, content, lastModifiedBy⟩))
  | .insertHistory call =>
    match s.calls call with
    | some ⟨.insertHistory, id, content, lastModifiedBy⟩ =>
      some ((s.commit (some (s.db.insertHistory id))).setCall call
        (some ⟨.update, id, content, lastModifiedBy⟩))
    | _ => none
  | .update call =>
    match s.calls call with
    | some ⟨.update, id, content, lastModifiedBy⟩ =>
      some ((s.commit (s.db.updateContextFile id content lastModifiedBy)).setCall call none)
    | _ => none
  | .fail call =>
    match s.calls call with
    | some _ => some ((s.commit none).setCall call none)
    | none => none

def Raises (s : ContextWriters Id) : Act Id → ContextFile Id → Prop
  | .upload _ satelliteID filePath _ _, file =>
    file.place = (satelliteID, filePath) ∧ file.version < maxInteger
  | .update call, file =>
    (∃ c, s.calls call = some c ∧ c.phase = .update ∧ c.id = file.id) ∧ file.version < maxInteger
  | _, _ => False

/-- What a statement does to the tables: it may insert a file, copy one, or
raise its version. -/
structure Effect (s : ContextWriters Id) (a : Act Id) (db : ContextFiles Id) : Prop where
  rows : ∀ file ∈ db.files.rows, file ∈ s.db.files.rows ∨
    (file.version = 1 ∧ file.id ∉ s.db.files.rows.map ContextFile.id) ∨
    ∃ old ∈ s.db.files.rows, Raises s a old ∧ ∃ content lastModifiedBy,
      file = old.edit content lastModifiedBy := by exact fun _ => .inl
  kept : ∀ file ∈ s.db.files.rows, file ∈ db.files.rows ∨ (Raises s a file ∧
    ∃ content lastModifiedBy, file.edit content lastModifiedBy ∈ db.files.rows) := by
      exact fun _ => .inl
  history : s.db.history ⊆ db.history := by exact Subset.refl _
  entries : ∀ entry ∈ db.history, entry ∈ s.db.history ∨
    ∃ file ∈ s.db.files.rows, entry = file.toHistory := by exact fun _ => .inl

variable {s s' : ContextWriters Id} {content lastModifiedBy : String} {a : Act Id}
  {file : ContextFile Id} {c : UpdateCall Id}

theorem effect_createContextFile {n satelliteID : Id} {filePath : String} :
    Effect s a
      ((s.db.createContextFile n satelliteID filePath content lastModifiedBy).getD s.db) := by
  rw [createContextFile]
  cases hi : s.db.insertFile ⟨n, satelliteID, filePath, content, 1, lastModifiedBy⟩ with
  | none => exact {}
  | some db =>
    obtain ⟨hid, -, hr, hh⟩ := insertFile_eq_some hi
    refine ⟨fun file hf => ?_, fun file hf => .inl ?_, ?_, ?_⟩
    · grind
    · exact hr ▸ mem_append_left _ hf
    · exact hh ▸ Subset.refl _
    · exact hh ▸ fun _ => .inl

theorem effect_updateFile (hf : file ∈ s.db.files.rows) (h : Raises s a file) :
    Effect s a (s.db.updateFile file.id content lastModifiedBy) := by
  refine { rows := fun r hr => ?_, kept := fun r hr => ?_ }
  · grind [mem_updateFile, Table.eq_of_key_eq]
  · grind [Table.eq_of_key_eq, mem_updateFile]

theorem effect_insertHistory (id : Id) : Effect s a (s.db.insertHistory id) := by
  cases hf : s.db.files.find? id with
  | none =>
    rw [insertHistory_of_none hf]
    exact {}
  | some file =>
    obtain ⟨hfi, hh⟩ := insertHistory_of_find hf
    refine ⟨hfi ▸ fun _ => .inl, hfi ▸ fun _ => .inl, ?_, fun e he => ?_⟩
    · exact hh ▸ subset_append_left ..
    refine (mem_append.mp (hh ▸ he)).imp_right fun he => ?_
    exact ⟨file, Table.mem_of_find? hf, mem_singleton.mp he⟩

theorem effect_of_step (h : step s a = some s') :
    Effect s a s'.db ∧ s'.past = s.past ++ s'.db.files.rows := by
  cases a with
  | create n i fp content lastModifiedBy =>
    cases h
    exact ⟨effect_createContextFile, rfl⟩
  | upload n i fp content lastModifiedBy =>
    cases h
    refine ⟨?_, rfl⟩
    simp only [commit, upsertContextFile]
    split
    · exact effect_createContextFile
    rename_i file hp
    obtain ⟨hfi, hfp⟩ := mem_of_findPlace? hp
    split
    · exact effect_updateFile hfi ⟨hfp, ‹_›⟩
    · exact {}
  | begin call id content lastModifiedBy =>
    simp only [step] at h
    split at h <;> cases h <;> exact ⟨{}, rfl⟩
  | insertHistory call =>
    simp only [step] at h
    split at h <;> cases h
    exact ⟨effect_insertHistory _, rfl⟩
  | update call =>
    simp only [step] at h
    split at h <;> cases h
    rename_i id content lastModifiedBy hc
    refine ⟨?_, rfl⟩
    simp only [commit, setCall, updateContextFile]
    split
    · exact {}
    rename_i file hf
    obtain rfl : file.id = id := Table.key_of_find? hf
    split
    · exact effect_updateFile (Table.mem_of_find? hf) ⟨⟨_, hc, rfl, rfl⟩, ‹_›⟩
    · exact {}
  | fail call =>
    simp only [step] at h
    split at h <;> cases h
    exact ⟨{}, rfl⟩

theorem step_of_raises (hfi : file ∈ s.db.files.rows) (h : Raises s a file) :
    ∃ s' content lastModifiedBy, step s a = some s' ∧
      s'.db = s.db.updateFile file.id content lastModifiedBy := by
  cases a with
  | upload n i fp content lastModifiedBy =>
    obtain ⟨hp, hlt⟩ := h
    have hf := findPlace?_of_mem hfi
    simp only [ContextFile.place, Prod.mk.injEq] at hp
    rw [hp.1, hp.2] at hf
    refine ⟨_, content, lastModifiedBy, rfl, ?_⟩
    simp [commit, upsertContextFile, hf, hlt]
  | update call =>
    obtain ⟨⟨⟨p, id, content, lastModifiedBy⟩, hc, hph, hid⟩, hlt⟩ := h
    subst hph hid
    have hf : s.db.files.find? file.id = some file := Table.find?_of_mem hfi
    simp only [step, hc]
    refine ⟨_, content, lastModifiedBy, rfl, ?_⟩
    simp [commit, setCall, updateContextFile, hf, hlt]
  | create | begin | insertHistory | fail => exact h.elim

/-! ## 2. What is recorded is right -/

def Recorded (db : ContextFiles Id) (id : Id) (version : Nat) (content : String) : Prop :=
  (∃ entry ∈ db.history, entry.contextFileID = id ∧ entry.version = version ∧
      entry.content = content) ∨
    ∃ file ∈ db.files.rows, file.id = id ∧ file.version = version ∧ file.content = content

def WasCurrent (s : ContextWriters Id) (id : Id) (version : Nat) (content : String) : Prop :=
  ∃ file ∈ s.past, file.id = id ∧ file.version = version ∧ file.content = content

/-- What the tables say about the past is right, as far as it goes. -/
structure Sound (s : ContextWriters Id) : Prop where
  rows : ∀ file ∈ s.db.files.rows, file ∈ s.past
  bound : ∀ old ∈ s.past, 1 ≤ old.version ∧
    ∃ file ∈ s.db.files.rows, file.id = old.id ∧ old.version ≤ file.version
  unique : ∀ old ∈ s.past, ∀ other ∈ s.past, old.id = other.id → old.version = other.version →
    old.content = other.content
  entries : ∀ entry ∈ s.db.history, WasCurrent s entry.contextFileID entry.version entry.content

omit [DecidableEq Id] in
theorem sound_start (t : List Id) : Sound (start t) := by
  constructor <;> simp [start, empty]

omit [DecidableEq Id] in
theorem Sound.version_le (hs : Sound s) {d : ContextFile Id} (hf : file ∈ s.db.files.rows)
    (hold : d ∈ s.past) (hid : d.id = file.id) : d.version ≤ file.version := by
  obtain ⟨-, r, hro, hr, hle⟩ := hs.bound d hold
  rw [Table.eq_of_key_eq hro hf (hr.trans hid)] at hle
  exact hle

theorem sound_step (hs : Sound s) (h : step s a = some s') : Sound s' := by
  obtain ⟨he, hp⟩ := effect_of_step h
  have hm : s.past ⊆ s'.past := hp ▸ subset_append_left ..
  have hr : s'.db.files.rows ⊆ s'.past := hp ▸ subset_append_right ..
  -- a row of the past is from before, or it is one of the new rows
  have hc : ∀ d ∈ s'.past, d ∈ s.past ∨ d ∈ s'.db.files.rows ∧ 1 ≤ d.version ∧
      ∀ t ∈ s.past, t.id = d.id → t.version < d.version := by
    intro d hold
    rw [hp] at hold
    obtain hold | hold := mem_append.mp hold
    · exact .inl hold
    obtain hsa | ⟨hv, hid⟩ | ⟨file, hf, -, _, _, rfl⟩ := he.rows d hold
    · exact .inl (hs.rows d hsa)
    · -- the id is of no row, so of none in the past either
      refine .inr ⟨hold, Nat.le_of_eq hv.symm, fun t ho hoi => absurd ?_ hid⟩
      obtain ⟨-, r, hro, hri, -⟩ := hs.bound t ho
      exact mem_map.mpr ⟨r, hro, hri.trans hoi⟩
    exact .inr ⟨hold, Nat.le_add_left 1 _, fun t ho hid =>
      Nat.lt_succ_of_le (hs.version_le hf ho hid)⟩
  refine ⟨hr, ?_, ?_, ?_⟩
  · intro d hold
    obtain hold | ⟨hold, hpo, -⟩ := hc d hold
    · obtain ⟨hpo, file, hf, hid, hle⟩ := hs.bound d hold
      refine ⟨hpo, ?_⟩
      obtain hk | ⟨-, _, _, hk⟩ := he.kept file hf
      · exact ⟨file, hk, hid, hle⟩
      · exact ⟨_, hk, hid, Nat.le_succ_of_le hle⟩
    · grind
  · grind [hs.unique, Table.eq_of_key_eq]
  intro e hen
  obtain hen | ⟨file, hf, rfl⟩ := he.entries e hen
  · exact (hs.entries e hen).imp fun d => .imp_left fun hold => hm hold
  · exact ⟨file, hm (hs.rows file hf), rfl, rfl, rfl⟩

/-! ## 3. What is missing -/

/-- The file has one recorded content for each version up to its own, the
one that was current. -/
structure Complete (s : ContextWriters Id) (file : ContextFile Id) : Prop where
  range : ∀ version content, Recorded s.db file.id version content →
    1 ≤ version ∧ version ≤ file.version
  one : ∀ version, 1 ≤ version → version ≤ file.version →
    ∃ content, ∀ c, Recorded s.db file.id version c ↔ c = content
  current : ∀ version content, Recorded s.db file.id version content →
    ∀ c, WasCurrent s file.id version c ↔ c = content

def Covered (s : ContextWriters Id) : Prop :=
  ∀ file ∈ s.db.files.rows, ∀ version, 1 ≤ version → version < file.version →
    ∃ entry ∈ s.db.history, entry.contextFileID = file.id ∧ entry.version = version

section

omit [DecidableEq Id]

theorem Sound.wasCurrent (hs : Sound s) {id : Id} {v : Nat}
    (h : Recorded s.db id v content) : WasCurrent s id v content := by
  rcases h with ⟨e, he, rfl, rfl, rfl⟩ | ⟨file, hf, hfi⟩
  · exact hs.entries e he
  · exact ⟨file, hs.rows file hf, hfi⟩

theorem Sound.wasCurrent_unique (hs : Sound s) {id : Id} {v : Nat}
    {content' : String} (h : WasCurrent s id v content)
    (h' : WasCurrent s id v content') : content = content' := by
  obtain ⟨d, hold, hid, hv, rfl⟩ := h
  obtain ⟨t, ho, hid', hv', rfl⟩ := h'
  exact hs.unique d hold t ho (hid.trans hid'.symm) (hv.trans hv'.symm)

theorem Sound.complete_iff (hs : Sound s) :
    (∀ file ∈ s.db.files.rows, Complete s file) ↔ Covered s := by
  constructor
  · intro hcm file hf v hp hlt
    obtain ⟨content, hco⟩ := (hcm file hf).one v hp (Nat.le_of_lt hlt)
    rcases (hco content).mpr rfl with ⟨e, he, hid, hve, -⟩ | ⟨r, hro, hid, hv, -⟩
    · exact ⟨e, he, hid, hve⟩
    rw [Table.eq_of_key_eq hro hf hid] at hv
    omega
  intro hcv file hf
  refine ⟨?_, ?_, ?_⟩
  · intro v content hr
    obtain ⟨d, hold, hid, rfl, -⟩ := hs.wasCurrent hr
    exact ⟨(hs.bound d hold).1, hs.version_le hf hold hid⟩
  · intro v hp hle
    have hr : ∃ content, Recorded s.db file.id v content := by
      rcases Nat.lt_or_eq_of_le hle with hlt | heq
      · obtain ⟨e, he, hid, hve⟩ := hcv file hf v hp hlt
        exact ⟨e.content, .inl ⟨e, he, hid, hve, rfl⟩⟩
      · exact ⟨file.content, .inr ⟨file, hf, rfl, heq.symm, rfl⟩⟩
    obtain ⟨content, hco⟩ := hr
    refine ⟨content, fun c => ⟨fun hc => ?_, fun hc => hc ▸ hco⟩⟩
    exact hs.wasCurrent_unique (hs.wasCurrent hc) (hs.wasCurrent hco)
  · intro v content hr c
    have hcu := hs.wasCurrent hr
    exact ⟨fun hc => hs.wasCurrent_unique hc hcu, fun hc => hc ▸ hcu⟩

end

/-- A statement that gives a file its next version finds a copy of the one
it ends. -/
def Copied (s : ContextWriters Id) (a : Act Id) : Prop :=
  ∀ file ∈ s.db.files.rows, Raises s a file →
    ∃ entry ∈ s.db.history, entry.contextFileID = file.id ∧ entry.version = file.version

theorem covered_step_iff (a : Act Id) (hs : Sound s ∧ Covered s) :
    Copied s a ↔ ∀ s' ∈ step s a, Sound s' ∧ Covered s' := by
  constructor
  · intro hco s' h
    refine ⟨sound_step hs.1 h, ?_⟩
    obtain ⟨he, -⟩ := effect_of_step h
    intro r hro version hp hlt
    suffices hold : ∃ e ∈ s.db.history, e.contextFileID = r.id ∧ e.version = version from
      hold.imp fun e => .imp_left fun hen => he.history hen
    obtain hro | ⟨hv, -⟩ | ⟨d, hold, hr, _, _, rfl⟩ := he.rows r hro
    · exact hs.2 r hro version hp hlt
    · omega
    -- the version that ends now, or one before it
    obtain hlt | rfl := Nat.lt_or_eq_of_le (Nat.le_of_lt_succ hlt)
    · exact hs.2 d hold version hp hlt
    · exact hco d hold hr
  · intro hn file hf hr
    obtain ⟨s', content, lastModifiedBy, hst, hdb⟩ := step_of_raises hf hr
    have hc := (hn s' hst).2
    unfold Covered at hc
    rw [hdb] at hc
    have hed : file.edit content lastModifiedBy
        ∈ (s.db.updateFile file.id content lastModifiedBy).files.rows :=
      mem_updateFile.mpr (.inr ⟨file, hf, rfl, rfl⟩)
    have hp := (hs.1.bound file (hs.1.rows file hf)).1
    exact hc _ hed file.version hp (Nat.lt_succ_self _)

/-- **History.** In all states of a run the recorded contents of all files
are complete, just when each statement of the run that gives a file its
next version finds a copy of the one it ends. -/
theorem history_complete_iff (satellites : List Id) (acts : List (Act Id)) :
    (∀ s ∈ states step (start satellites) acts, ∀ file ∈ s.db.files.rows, Complete s file) ↔
      Along step Copied (start satellites) acts := by
  have hc : Covered (start satellites) := by
    intro file hf
    cases hf
  have hso : ∀ s ∈ states step (start satellites) acts, Sound s :=
    forall_states_of_invariant (fun _ _ _ => sound_step) (sound_start satellites)
  rw [← forall_states_iff_along (fun s a => covered_step_iff a) ⟨sound_start satellites, hc⟩]
  refine forall₂_congr fun s hs => ?_
  rw [(hso s hs).complete_iff]
  exact (and_iff_right (hso s hs)).symm

end

def editedOnDisk : List (Act Nat) :=
  [.create 1 0 "notes.md" "a" "cockpit", .upload 2 0 "notes.md" "b" "satellite"]

/-- The first content is recorded nowhere. -/
theorem first_content_lost :
    ¬ ∀ s ∈ states step (start [0]) editedOnDisk, ∀ file ∈ s.db.files.rows, Complete s file := by
  intro hc
  obtain ⟨s, hru, hh, hr⟩ : ∃ s, run step (start [0]) editedOnDisk = some s ∧
      s.db.history = [] ∧ s.db.files.rows = [⟨1, 0, "notes.md", "b", 2, "satellite"⟩] :=
    ⟨_, rfl, by decide, by decide⟩
  have hf := hc s (mem_states_of_run hru) _ (hr ▸ mem_singleton_self _)
  obtain ⟨content, hco⟩ := hf.one 1 (by decide) (by decide)
  have hre := (hco content).mpr rfl
  simp [Recorded, hh, hr] at hre

end ContextWriters

end Daao.Database

/-
Daao.Daemon.SelfUpdate — the swap of the satellite's binary
(`updateCommand` and `rollbackCommand` in `cmd/daao/update.go`).

Four paths matter: the executable, its backup `.bak`, the file `.new` that
a rollback sets the executable aside to, and the downloaded temporary file.
Each operation on them may fail by itself (`fault`), and a rename fails
too if there is no file to rename. The texts of errors are given without
the wrapped error. Permission bits are left out.
-/
import Mathlib.Logic.Function.Basic

namespace Daao.Daemon.SelfUpdate

inductive Path where
  | currentExe
  | bakPath
  | newPath
  | tmpPath
  deriving DecidableEq

inductive Op where
  | removeBak
  | backup
  | install
  | restore
  | removeTmp
  | removeNew
  | setAside
  | rollback
  | undo
  | keep
  deriving DecidableEq

variable {Binary : Type}

abbrev Files (Binary : Type) := Path → Option Binary

def rename (fails : Bool) (src dst : Path) (files : Files Binary) : Option (Files Binary) :=
  match fails, files src with
  | false, some binary =>
    some (Function.update (Function.update files src none) dst (some binary))
  | _, _ => none

def remove (fails : Bool) (path : Path) (files : Files Binary) : Files Binary :=
  if fails then files else Function.update files path none

/-- What the command finds out before it touches a file; `none` is a step
that fails. -/
structure Release (Binary : Type) where
  latestVersion : Option String
  /-- the binary and its size -/
  download : Option (Binary × Nat)
  executable : Bool

variable (fault : Op → Bool)

/-- The rename-swap of `updateCommand`. -/
def swap (files : Files Binary) : Files Binary × Option String :=
  let files := remove (fault .removeBak) .bakPath files
  match rename (fault .backup) .currentExe .bakPath files with
  | none => (files, some "failed to create backup of current binary")
  | some files =>
    match rename (fault .install) .tmpPath .currentExe files with
    | none => ((rename (fault .restore) .bakPath .currentExe files).getD files,
        some "failed to install new binary (rolled back)")
    | some files => (files, none)

/-- `updateCommand` after the download. -/
def install (size : Nat) (executable : Bool) (files : Files Binary) :
    Files Binary × Option String :=
  if size < 1024 * 1024 then (files, some "downloaded file too small")
  else if executable then swap fault files
  else (files, some "cannot determine executable path")

def updateCommand (version : String) (force : Bool) (release : Release Binary)
    (files : Files Binary) : Files Binary × Option String :=
  match release.latestVersion with
  | none => (files, some "failed to check for updates")
  | some latestVersion =>
    if latestVersion = version ∧ force = false then (files, none)
    else match release.download with
      | none => (files, some "download failed")
      | some (binary, size) =>
        let result := install fault size release.executable
          (Function.update files .tmpPath (some binary))
        (remove (fault .removeTmp) .tmpPath result.1, result.2)

def rollbackCommand (executable : Bool) (files : Files Binary) : Files Binary × Option String :=
  if executable = false then (files, some "cannot determine executable path")
  else if files .bakPath = none then (files, some "no backup found")
  else
    let files := remove (fault .removeNew) .newPath files
    match rename (fault .setAside) .currentExe .newPath files with
    | none => (files, some "failed to move current binary")
    | some files =>
      match rename (fault .rollback) .bakPath .currentExe files with
      | none => ((rename (fault .undo) .newPath .currentExe files).getD files,
          some "failed to restore backup")
      | some files => ((rename (fault .keep) .newPath .bakPath files).getD files, none)

/-- There is a binary, and after an error it is the old one and the earlier
backup is there. -/
def Recovers (before : Files Binary) (result : Files Binary × Option String) : Prop :=
  (result.1 .currentExe).isSome ∧
    (result.2 ≠ none → result.1 .currentExe = before .currentExe ∧
      ∀ backup ∈ before .bakPath, result.1 .bakPath = some backup)

/-- Nothing fails after the backup is gone that would need it. -/
def SwapSafe (files : Files Binary) : Prop :=
  fault .backup = false ∧ fault .install = false ∨
  fault .backup = true ∧ (fault .removeBak = true ∨ files .bakPath = none) ∨
  fault .backup = false ∧ fault .restore = false ∧ files .bakPath = none

/-- The update comes to its renames. -/
def ComesToSwap (version : String) (force : Bool) (release : Release Binary) : Prop :=
  (∃ latest, release.latestVersion = some latest ∧ ¬ (latest = version ∧ force = false)) ∧
    (∃ binary size, release.download = some (binary, size) ∧ 1024 * 1024 ≤ size) ∧
    release.executable = true

variable {fault} {files : Files Binary} {old : Binary}

theorem swap_recovers_iff (hold : files .currentExe = some old) {n : Binary}
    (hn : files .tmpPath = some n) :
    Recovers files (swap fault files) ↔ SwapSafe fault files := by
  cases hr : fault .removeBak <;> cases hb : fault .backup <;>
    cases hi : fault .install <;> cases hre : fault .restore <;>
    cases hba : files .bakPath <;>
    simp [Recovers, SwapSafe, swap, rename, remove, hr, hb, hi, hre, hold, hn, hba]

theorem recovers_unchanged (hold : files .currentExe = some old) (e : Option String) :
    Recovers files (files, e) := by
  simp [Recovers, hold]

variable (version : String) (force : Bool) (release : Release Binary) (executable : Bool)

section

variable (hold : files .currentExe = some old)

include hold

theorem install_recovers_iff {n : Binary} (hn : files .tmpPath = some n) (size : Nat) :
    Recovers files (install fault size executable files) ↔
      (1024 * 1024 ≤ size ∧ executable = true → SwapSafe fault files) := by
  unfold install
  split
  · exact iff_of_true (recovers_unchanged hold _) fun h => by omega
  · cases executable with
    | false => exact iff_of_true (recovers_unchanged hold _) fun h => by simp at h
    | true =>
      have hsize : 1024 * 1024 ≤ size := by omega
      simpa [hsize] using swap_recovers_iff hold hn

/-- Whatever the command does before the renames leaves the files alone. -/
theorem updateCommand_recovers_iff :
    Recovers files (updateCommand fault version force release files) ↔
      (ComesToSwap version force release → SwapSafe fault files) := by
  unfold updateCommand ComesToSwap
  cases hl : release.latestVersion with
  | none => exact iff_of_true (recovers_unchanged hold _) fun h => by simp at h
  | some latest =>
    by_cases hv : latest = version ∧ force = false
    · simpa [hv] using recovers_unchanged hold none
    cases hd : release.download with
    | none => simpa [hv] using recovers_unchanged hold (some "download failed")
    | some download =>
      obtain ⟨binary, size⟩ := download
      -- the temporary file does not matter
      have hold' : Function.update files .tmpPath (some binary) .currentExe = some old := by
        simpa using hold
      have hi : _ ↔ (_ → SwapSafe fault _) := install_recovers_iff release.executable hold'
        (Function.update_self ..) size
      have hs : SwapSafe fault (Function.update files .tmpPath (some binary))
          ↔ SwapSafe fault files := by
        simp [SwapSafe]
      rw [hs] at hi
      rw [and_iff_right ⟨latest, rfl, hv⟩]
      simp only [if_neg hv]
      cases hr : fault .removeTmp <;> simpa [Recovers, remove] using hi

theorem rollbackCommand_recovers_iff :
    Recovers files (rollbackCommand fault executable files) ↔
      (executable = true → files .bakPath ≠ none → fault .setAside = false →
        fault .rollback = false ∨ fault .undo = false) := by
  unfold rollbackCommand
  cases executable with
  | false => simpa using recovers_unchanged hold (some "cannot determine executable path")
  | true =>
    cases hba : files .bakPath with
    | none => simpa using recovers_unchanged hold (some "no backup found")
    | some backup =>
      cases fault .removeNew <;> cases fault .setAside <;> cases fault .rollback <;>
        cases fault .undo <;> cases fault .keep <;>
        simp [Recovers, rename, remove, hold, hba]

end

variable {executable} in
theorem rollbackCommand_ok (hold : files .currentExe = some old)
    (h : (rollbackCommand fault executable files).2 = none) :
    ∃ b, files .bakPath = some b ∧ (rollbackCommand fault executable files).1 .currentExe = some b ∧
      ∀ k ∈ (rollbackCommand fault executable files).1 .bakPath, k = old := by
  cases executable with
  | false => cases h
  | true =>
    cases hba : files .bakPath with
    | none => simp [rollbackCommand, hba] at h
    | some b =>
      refine ⟨b, rfl, ?_⟩
      revert h
      cases hn : fault .removeNew <;> cases ha : fault .setAside <;>
        cases hb : fault .rollback <;> cases hk : fault .keep <;>
        simp [rollbackCommand, rename, remove, hn, ha, hb, hk, hold, hba]

/-- **Recovery.** When the two commands leave a binary to go on with, and
after an error the old one with its backup; and two rollbacks that succeed
cancel each other, whatever else fails in them. -/
theorem commands_recover_iff (hold : files .currentExe = some old) :
    (Recovers files (updateCommand fault version force release files) ↔
      (ComesToSwap version force release → SwapSafe fault files)) ∧
    (Recovers files (rollbackCommand fault executable files) ↔
      (executable = true → files .bakPath ≠ none → fault .setAside = false →
        fault .rollback = false ∨ fault .undo = false)) ∧
    ∀ fault' executable', (rollbackCommand fault executable files).2 = none →
      (rollbackCommand fault' executable' (rollbackCommand fault executable files).1).2 = none →
      (rollbackCommand fault' executable' (rollbackCommand fault executable files).1).1 .currentExe
        = files .currentExe := by
  refine ⟨updateCommand_recovers_iff version force release hold,
    rollbackCommand_recovers_iff executable hold, fun fault' executable' hf hs => ?_⟩
  obtain ⟨bac, -, he, hk⟩ := rollbackCommand_ok hold hf
  obtain ⟨kept, hk', he', -⟩ := rollbackCommand_ok he hs
  rw [he', hold, hk kept hk']

def installed (backup : Option Nat) : Files Nat
  | .currentExe => some 1
  | .bakPath => backup
  | _ => none

def versionTwo : Release Nat :=
  { latestVersion := some "2", download := some (2, 2000000), executable := true }

theorem commands_recover_noBackup :
    ComesToSwap "1" false versionTwo ∧ Recovers (installed none)
      (updateCommand (· = .install) "1" false versionTwo (installed none)) :=
  ⟨⟨⟨_, rfl, by decide⟩, ⟨_, _, rfl, by decide⟩, rfl⟩,
    (commands_recover_iff "1" false versionTwo true rfl).1.mpr
      fun _ => .inr (.inr ⟨rfl, rfl, rfl⟩)⟩

/-- A failed backup costs the earlier one; and when the new binary cannot be
installed and the old one not be put back, there is none. -/
theorem commands_lose :
    (updateCommand (· = .backup) "1" false versionTwo (installed (some 0))).2 ≠ none ∧
    (updateCommand (· = .backup) "1" false versionTwo (installed (some 0))).1 .bakPath = none ∧
    (updateCommand (fun op => op = .install ∨ op = .restore) "1" false versionTwo
      (installed none)).1 .currentExe = none ∧
    (rollbackCommand (fun op => op = .rollback ∨ op = .undo) true
      (installed (some 0))).1 .currentExe = none := by
  decide

end Daao.Daemon.SelfUpdate

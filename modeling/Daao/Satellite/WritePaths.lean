/-
Daao.Satellite.WritePaths — the two checks of a path that is to be written
on a satellite: `ValidateWritePath` (`internal/satellite/pi_bridge.go`),
for what agents write, and `handleContextFilePush` (`cmd/daao/daemon.go`),
for files that Nexus pushes. Both are lexical: symbolic links are not
followed. The texts of errors are left out.
-/
import Daao.Lib.GoPath

namespace Daao.Satellite

open Daao.Lib GoPath

/-- `ValidateWritePath`: it returns nil. -/
def validateWritePath (workingDir : GoString) (allowedWriteDirs : List GoString)
    (targetPath : GoString) : Bool :=
  let cleaned := abs workingDir (clean targetPath)
  allowedWriteDirs.any fun dir =>
    let allowedAbs := abs workingDir (clean dir)
    hasPrefix cleaned (allowedAbs ++ [slash]) || cleaned = allowedAbs

/-- A path is accepted just when it is, component by component, in one of
the directories. -/
theorem validateWritePath_iff (workingDir : GoString) (dirs : List GoString) (targetPath : GoString)
    (hwd : isAbs workingDir = true) (hdirs : ∀ dir ∈ dirs, abs workingDir (clean dir) ≠ [slash]) :
    validateWritePath workingDir dirs targetPath = true ↔
      ∃ dir ∈ dirs, components (abs workingDir (clean dir))
        <+: components (abs workingDir (clean targetPath)) := by
  obtain ⟨ks, hks, ht⟩ := abs_clean hwd targetPath
  rw [validateWritePath, List.any_eq_true]
  refine exists_congr fun dir => and_congr_right fun hd => ?_
  obtain ⟨ds, hds, ha⟩ := abs_clean hwd dir
  have hne : ds ≠ [] := by
    rintro rfl
    exact hdirs dir hd ha
  rw [ha, ht, components_render hds, components_render hks, ← under_iff hds hks hne,
    Bool.or_eq_true, decide_eq_true_eq]

theorem validateWritePath_dots :
    validateWritePath (go "/root") [go "/etc/daao/context", go "/tmp/"]
      (go "/tmp/../etc//daao/./context/x") = true :=
  (validateWritePath_iff (go "/root") [go "/etc/daao/context", go "/tmp/"]
    (go "/tmp/../etc//daao/./context/x") (by decide) (by decide)).mpr
    ⟨go "/etc/daao/context", by decide, by decide⟩

/-- `handleContextFilePush` of a file with this path, up to the write: the
path that it writes to, if it does. -/
def handleContextFilePush (mkdirFails : Bool) (dir : GoString) :
    Option GoString → Option GoString
  | none => none
  | some filePath =>
    if mkdirFails then none
    else if base filePath ≠ filePath ∨ base filePath = go "." ∨ base filePath = go ".." then none
    else some (join dir (base filePath))

/-- The write, if there is one, is to the directory itself or to a name in
it. -/
theorem handleContextFilePush_contained (mkdirFails : Bool) (dir : GoString)
    (file : Option GoString) (habs : isAbs dir = true) (hclean : clean dir = dir) :
    handleContextFilePush mkdirFails dir file = none ∨
      handleContextFilePush mkdirFails dir file = some dir ∨
      ∃ name, name ≠ [] ∧ name ≠ go "." ∧ name ≠ go ".." ∧ slash ∉ name ∧
        handleContextFilePush mkdirFails dir file = some (render (components dir ++ [name])) := by
  fun_cases handleContextFilePush mkdirFails dir file with
  | case1 | case2 | case3 => exact .inl rfl
  | case4 fp _ hc =>
    obtain ⟨hb, hdo, hd⟩ : base fp = fp ∧ fp ≠ go "." ∧ fp ≠ go ".." := by
      simp only [not_or, not_not] at hc
      obtain ⟨hb, hdo, hd⟩ := hc
      rw [hb] at hdo hd
      exact ⟨hb, hdo, hd⟩
    rw [hb]
    rcases join_of_base habs hclean hb hdo hd with ⟨-, hj⟩ | ⟨hne, hs, hj⟩
    · exact .inr (.inl (congrArg some hj))
    · grind

theorem handleContextFilePush_contained_notes :
    handleContextFilePush false (go "/etc/daao") (some (go "notes.md")) ≠ none ∧
    (handleContextFilePush false (go "/etc/daao") (some (go "notes.md")) = none ∨
      handleContextFilePush false (go "/etc/daao") (some (go "notes.md")) = some (go "/etc/daao") ∨
      ∃ name, name ≠ [] ∧ name ≠ go "." ∧ name ≠ go ".." ∧ slash ∉ name ∧
        handleContextFilePush false (go "/etc/daao") (some (go "notes.md"))
          = some (render (components (go "/etc/daao") ++ [name]))) :=
  ⟨by decide, handleContextFilePush_contained false (go "/etc/daao") (some (go "notes.md"))
    (by decide) (by decide)⟩

example : handleContextFilePush false (go "/etc/daao") (some (go "/")) = some (go "/etc/daao") := by
  decide

end Daao.Satellite

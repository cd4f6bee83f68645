/-
Daao.Satellite.ExtractZip — where the archive of the Pi runtime is
unpacked (`extractZip` in `internal/satellite/bootstrap.go`).

`Join` cleans the path of an entry, so the comparison of texts says whether
its components begin with those of the destination and go on. `MkdirAll`
creates what is missing from the last ancestor that exists on; the
destination exists, so nothing at it or above it is touched. There are no
symbolic links: a path is its components.
-/
import Daao.Lib.GoPath

namespace Daao.Satellite

open Daao.Lib GoPath List

abbrev Path := List GoString

/-- An entry of the archive, and what the system answers while it is
extracted. -/
structure ZipEntry where
  name : GoString
  isDir : Bool
  cancelled : Bool
  mkdirFails : Path → Bool
  openFails : Bool
  /-- the entry's data cannot be read or written -/
  copyFails : Bool

structure Disk where
  dirs : List Path
  /-- the directories created -/
  made : List Path
  /-- the files opened for writing -/
  opened : List Path

inductive ExtractError where
  | cancelled
  | zipSlip (name : GoString)
  | mkdir
  | openFile
  | copy

/-- `MkdirAll`, of a path whose components are reversed. -/
def mkdirAllUp (fails : Path → Bool) (disk : Disk) : Path → Disk × Bool
  | [] => (disk, true)
  | k :: up =>
    let path := (k :: up).reverse
    if path ∈ disk.dirs then (disk, true)
    else
      match mkdirAllUp fails disk up with
      | (disk, false) => (disk, false)
      | (disk, true) =>
        if fails path then (disk, false)
        else ({ disk with dirs := path :: disk.dirs, made := path :: disk.made }, true)

def mkdirAll (fails : Path → Bool) (disk : Disk) (path : GoString) : Disk × Bool :=
  mkdirAllUp fails disk (components path).reverse

variable (dest : GoString)

def extractEntry (disk : Disk) (f : ZipEntry) : Disk × Option ExtractError :=
  let fpath := join dest f.name
  if f.cancelled then (disk, some .cancelled)
  else if hasPrefix (clean fpath) (clean dest ++ [slash]) = false then
    (disk, some (.zipSlip f.name))
  else if f.isDir then ((mkdirAll f.mkdirFails disk fpath).1, none)
  else
    match mkdirAll f.mkdirFails disk (dir fpath) with
    | (disk, false) => (disk, some .mkdir)
    | (disk, true) =>
      if f.openFails then (disk, some .openFile)
      else ({ disk with opened := components fpath :: disk.opened },
        if f.copyFails then some .copy else none)

def extractZip (disk : Disk) : List ZipEntry → Disk × Option ExtractError
  | [] => (disk, none)
  | f :: rest =>
    match extractEntry dest disk f with
    | (disk, some e) => (disk, some e)
    | (disk, none) => extractZip disk rest

def Inside (ds ks : Path) : Prop := ds <+: ks ∧ ks ≠ ds

structure Contained (ds : Path) (disk : Disk) : Prop where
  exists_dest : ds ∈ disk.dirs
  made : ∀ ks ∈ disk.made, Inside ds ks
  opened : ∀ ks ∈ disk.opened, Inside ds ks

theorem contained_mkdirAllUp {ds : Path} {f : Path → Bool} {d : Disk} (h : Contained ds d)
    (up : Path) (hup : ds <+: up.reverse) : Contained ds (mkdirAllUp f d up).1 := by
  induction up with
  | nil => exact h
  | cons k up ih =>
    rw [mkdirAllUp]
    split
    · exact h
    rename_i hm
    -- the path is missing, so it is not the destination
    have hne : (k :: up).reverse ≠ ds := fun heq => hm (heq ▸ h.exists_dest)
    rw [reverse_cons] at hup hne hm ⊢
    obtain heq | hp := prefix_concat_iff.mp hup
    · exact (hne heq.symm).elim
    have ih := ih hp
    grind [Contained, Inside]

variable {dest}

section

variable (habs : isAbs dest = true) (hroot : cleaned dest ≠ [])

include habs

/-- The path of an entry, by its components. -/
theorem join_eq_render (n : GoString) :
    ∃ ks, Proper ks ∧ NoDots ks ∧ join dest n = render ks := by
  have hne : dest ≠ [] := by
    rintro rfl
    cases habs
  have habs' : isAbs (dest ++ slash :: n) = true := by
    cases dest with
    | nil => cases hne rfl
    | cons b r => exact habs
  exact ⟨_, proper_cleaned _, noDots_cleaned habs', by rw [join, if_pos hne, clean, if_pos habs']⟩

include hroot

theorem hasPrefix_iff_inside (n : GoString) :
    hasPrefix (clean (join dest n)) (clean dest ++ [slash]) = true
      ↔ Inside (cleaned dest) (components (join dest n)) := by
  obtain ⟨ks, hks, hd, heq⟩ := join_eq_render habs n
  have hu := under_iff (proper_cleaned dest) hks hroot
  rw [heq, clean_render hks hd, components_render hks, clean, if_pos habs, Inside, ← hu]
  constructor
  · intro hp
    refine ⟨.inl hp, ?_⟩
    rintro rfl
    have hl := ( isPrefixOf_iff_prefix.mp hp).length_le
    rw [length_append, length_singleton] at hl
    omega
  rintro ⟨hp | heq, hne⟩
  · exact hp
  rw [← components_render hks, heq, components_render (proper_cleaned dest)] at hne
  cases hne rfl

omit hroot in
theorem prefix_components_dir {n : GoString}
    (h : Inside (cleaned dest) (components (join dest n))) :
    cleaned dest <+: components (dir (join dest n)) := by
  obtain ⟨ks, hks, hd, heq⟩ := join_eq_render habs n
  rw [heq, components_render hks] at h
  rw [heq]
  rcases eq_nil_or_concat' ks with rfl | ⟨i, k, rfl⟩
  · cases h.2 (prefix_nil.mp h.1).symm
  rw [dir_render hks hd, components_render fun k hk => hks k (mem_append_left _ hk)]
  exact (prefix_concat_iff.mp h.1).resolve_left (Ne.symm h.2)

theorem contained_extractEntry {d : Disk} (h : Contained (cleaned dest) d) (f : ZipEntry) :
    Contained (cleaned dest) (extractEntry dest d f).1 := by
  have hm {path : GoString} (hp : cleaned dest <+: components path) :
      Contained (cleaned dest) (mkdirAll f.mkdirFails d path).1 :=
    contained_mkdirAllUp h _ (by rwa [reverse_reverse])
  have hc := hasPrefix_iff_inside habs hroot f.name
  have hd := fun h => hm (prefix_components_dir habs (hc.mp h))
  fun_cases extractEntry dest d f
  · exact h
  · exact h
  · grind [Inside]
  · grind
  · grind
  · grind [Contained]

theorem contained_extractZip {d : Disk} (h : Contained (cleaned dest) d)
    (e : List ZipEntry) : Contained (cleaned dest) (extractZip dest d e).1 := by
  induction e generalizing d with
  | nil => exact h
  | cons f r ih =>
    have hf := contained_extractEntry habs hroot h f
    grind [extractZip]

theorem extractZip_not_zipSlip {e : List ZipEntry}
    (hi : ∀ f ∈ e, Inside (cleaned dest) (components (join dest f.name))) (d : Disk)
    (name : GoString) : (extractZip dest d e).2 ≠ some (.zipSlip name) := by
  induction e generalizing d with
  | nil => simp [extractZip]
  | cons f r ih =>
    have hc := (hasPrefix_iff_inside habs hroot f.name).mpr (hi f mem_cons_self)
    have hf : (extractEntry dest d f).2 ≠ some (.zipSlip name) := by grind [extractEntry]
    grind [extractZip]

/-- **No entry leaves the destination.** Whatever the archive, all that is
created or opened for writing is strictly inside the destination, and an
archive whose names all lead strictly inside it is not rejected for them. -/
theorem extractZip_contained {disk : Disk} (hdest : cleaned dest ∈ disk.dirs)
    (hmade : disk.made = []) (hopened : disk.opened = []) (entries : List ZipEntry) :
    (∀ ks ∈ (extractZip dest disk entries).1.made ++ (extractZip dest disk entries).1.opened,
      Inside (cleaned dest) ks) ∧
      ((∀ f ∈ entries, Inside (cleaned dest) (components (join dest f.name))) →
        ∀ name, (extractZip dest disk entries).2 ≠ some (.zipSlip name)) := by
  obtain ⟨-, hmade, hopened⟩ := contained_extractZip habs hroot
    ⟨hdest, by simp [hmade], by simp [hopened]⟩ entries
  exact ⟨fun ks hks => (mem_append.mp hks).elim (hmade ks) (hopened ks),
    fun hi => extractZip_not_zipSlip habs hroot hi disk⟩

end

def zipEntry (name : String) : ZipEntry :=
  { name := go name, isDir := false, cancelled := false, mkdirFails := fun _ => false
    openFails := false, copyFails := false }

/-- A file, and then a name that leads out. -/
theorem extractZip_contained_dots :
    (extractZip (go "/opt/pi") ⟨[[go "opt", go "pi"]], [], []⟩
        [zipEntry "bin//pi", zipEntry "../../etc/x"]).1.opened
          = [[go "opt", go "pi", go "bin", go "pi"]] ∧
      ∀ ks ∈ (extractZip (go "/opt/pi") ⟨[[go "opt", go "pi"]], [], []⟩
          [zipEntry "bin//pi", zipEntry "../../etc/x"]).1.made ++
        (extractZip (go "/opt/pi") ⟨[[go "opt", go "pi"]], [], []⟩
          [zipEntry "bin//pi", zipEntry "../../etc/x"]).1.opened,
        Inside (cleaned (go "/opt/pi")) ks :=
  ⟨by decide, (extractZip_contained (by decide) (by decide) (by decide) rfl rfl _).1⟩

end Daao.Satellite

/-
Daao.Api.ContextDiff — the diffs of a context file's history
(`computeDiff` and `handleGetContextFileHistory` of
`internal/api/context.go`, `ListContextFileHistory` of
`internal/database/context.go`).

A diff is one marked line for each line of the old and the new text, so
the lines of one mark give that text back (`unmark_diffLines`) and the
diff of two different texts determines both (`computeDiff_determines`).

The history is listed with the newest version first, and the handler
compares each entry with the one listed after it, which is the version
before; the oldest version is compared with the current content.
-/
import Daao.Database.ContextFiles
import Daao.Lib.GoStrings
import Mathlib.Data.List.Sort

namespace Daao.Api

open Daao.Lib Daao.Database List

/-! ## 1. The diff -/

/-- The loop of `computeDiff`: the two cursors are what is left of the two
texts. -/
def diffLines : List GoString → List GoString → List GoString
  | [], new => new.map (go "+ " ++ ·)
  | o :: old, [] => (go "- " ++ o) :: diffLines old []
  | o :: old, n :: new =>
    if o = n then (go "  " ++ o) :: diffLines old new
    else (go "- " ++ o) :: (go "+ " ++ n) :: diffLines old new

def computeDiff (old new : GoString) : GoString :=
  if old = new then []
  else [newline].intercalate (diffLines (old.splitOn newline) (new.splitOn newline))

/-- The lines that start with the mark or with two spaces, without their
first two bytes. -/
def unmark (mark : String) (lines : List GoString) : List GoString :=
  (lines.filter fun l => hasPrefix l (go mark) || hasPrefix l (go "  ")).map (·.drop 2)

/-! ## 2. The diff determines the texts -/

theorem unmark_diffLines (old new : List GoString) :
    unmark "-" (diffLines old new) = old ∧ unmark "+" (diffLines old new) = new := by
  have hgo : go "- " = [45, 32] ∧ go "+ " = [43, 32] ∧ go "  " = [32, 32] ∧ go "-" = [45] ∧
      go "+" = [43] := by decide
  fun_induction diffLines old new <;> simp_all [unmark, hasPrefix]
  case case1 new =>
    -- all that is left is new
    induction new <;> simp_all

theorem newline_not_mem_diffLines {old new : List GoString} (hold : ∀ l ∈ old, newline ∉ l)
    (hn : ∀ l ∈ new, newline ∉ l) : ∀ l ∈ diffLines old new, newline ∉ l := by
  have hm : newline ∉ go "- " ∧ newline ∉ go "+ " ∧ newline ∉ go "  " := by decide
  fun_induction diffLines old new <;> simp_all

theorem splitOn_computeDiff {old new : GoString} (h : old ≠ new) :
    (computeDiff old new).splitOn newline
      = diffLines (old.splitOn newline) (new.splitOn newline) := by
  rw [computeDiff, if_neg h]
  refine splitOn_intercalate newline ?_ ?_
  · exact newline_not_mem_diffLines (fun _ => not_mem_of_mem_splitOn)
      (fun _ => not_mem_of_mem_splitOn)
  intro hn
  have hold := (unmark_diffLines (old.splitOn newline) (new.splitOn newline)).1
  rw [hn] at hold
  exact splitOn_ne_nil newline old hold.symm

theorem unmark_computeDiff {old new : GoString} (h : old ≠ new) :
    unmark "-" ((computeDiff old new).splitOn newline) = old.splitOn newline ∧
      unmark "+" ((computeDiff old new).splitOn newline) = new.splitOn newline := by
  rw [splitOn_computeDiff h]
  exact unmark_diffLines _ _

theorem splitOn_inj {s s' : GoString} (h : s.splitOn newline = s'.splitOn newline) : s = s' := by
  have hs : [newline].intercalate (s.splitOn newline) = s := intercalate_splitOn newline
  rw [← hs, h, intercalate_splitOn]

/-- A diff of different texts has the lines of both, and determines them. -/
theorem computeDiff_determines :
    (∀ old new : GoString, old ≠ new →
      unmark "-" ((computeDiff old new).splitOn newline) = old.splitOn newline ∧
        unmark "+" ((computeDiff old new).splitOn newline) = new.splitOn newline) ∧
    ∀ old new old' new' : GoString, old ≠ new → old' ≠ new' →
      computeDiff old new = computeDiff old' new' → old = old' ∧ new = new' := by
  refine ⟨fun _ _ => unmark_computeDiff, fun old new old' new' hne hne' heq => ?_⟩
  obtain ⟨hold, hn⟩ := unmark_computeDiff hne
  obtain ⟨hold', hn'⟩ := unmark_computeDiff hne'
  rw [heq] at hold hn
  exact ⟨splitOn_inj (hold.symm.trans hold'), splitOn_inj (hn.symm.trans hn')⟩

theorem computeDiff_right_inj {old new new' : GoString}
    (h : computeDiff old new = computeDiff old new') : new = new' := by
  -- the diff of a text with itself is empty, and no other is
  have he {s : GoString} (hni : computeDiff old s = []) : old = s := by
    by_contra hne
    have hold := (unmark_computeDiff hne).1
    rw [hni] at hold
    exact splitOn_ne_nil newline old hold.symm
  by_cases hne : old = new
  · rw [← hne, ← he (h.symm.trans (if_pos hne))]
  have hne' : old ≠ new' := fun heq => hne (he (h.trans (if_pos heq)))
  have hn := (unmark_computeDiff hne).2
  rw [h] at hn
  exact splitOn_inj (hn.symm.trans (unmark_computeDiff hne').2)

/-! ## 3. The history of a file -/

structure ContextUpdate (Id : Type) where
  time : Int
  id : Id
  content : String
  lastModifiedBy : String

/-- The tables, with the `modified_at` of the rows of the history. -/
structure DatedContextFiles (Id : Type) where
  db : ContextFiles Id
  modifiedAt : List Int
  dated : modifiedAt.length = db.history.length

def contentBytes (content : String) : GoString := content.toList.flatMap String.utf8EncodeChar

namespace DatedContextFiles

variable {Id : Type} [DecidableEq Id]

theorem history_updateContextFile (db : ContextFiles Id) (id : Id) (c by_ : String) :
    ((db.updateContextFile id c by_).getD db).history = db.history := by
  unfold ContextFiles.updateContextFile
  split
  · rfl
  · split <;> rfl

/-- A call of `UpdateContextFile`, made while no other is under way. -/
def update (s : DatedContextFiles Id) (u : ContextUpdate Id) : DatedContextFiles Id :=
  match h : s.db.files.find? u.id with
  | none => s
  | some _ =>
    let copied := s.db.insertHistory u.id
    { db := (copied.updateContextFile u.id u.content u.lastModifiedBy).getD copied
      modifiedAt := s.modifiedAt ++ [u.time]
      dated := by
        rw [history_updateContextFile, (ContextFiles.insertHistory_of_find h).2]
        simp [s.dated] }

/-- The rows of a file's history with their times, in the order in which
they were inserted. -/
def versions (s : DatedContextFiles Id) (id : Id) : List (Int × ContextFileHistory Id) :=
  (s.modifiedAt.zip s.db.history).filter fun row => row.2.contextFileID = id

/-- `ORDER BY modified_at DESC`. -/
def listContextFileHistory (s : DatedContextFiles Id) (id : Id) : List (ContextFileHistory Id) :=
  ((s.versions id).insertionSort fun a b => b.1 ≤ a.1).map Prod.snd

/-- What each entry of a list is compared with: the content of the entry
after it, the last one with the current content. -/
def nextContents (history : List (ContextFileHistory Id)) (current : String) : List GoString :=
  (history.map fun entry => contentBytes entry.content).tail ++ [contentBytes current]

def showDiff (entry : ContextFileHistory Id) (next : GoString) : ContextFileHistory Id × GoString :=
  (entry, computeDiff (contentBytes entry.content) next)

def handleGetContextFileHistory (s : DatedContextFiles Id) (satelliteID id : Id) :
    Option (List (ContextFileHistory Id × GoString)) :=
  match s.db.files.find? id with
  | none => none
  | some file =>
    if file.satelliteID ≠ satelliteID then none
    else
      let history := s.listContextFileHistory id
      some (history.zipWith showDiff (nextContents history file.content))

/-! ## 4. What the handler shows -/

theorem orderedInsert_last {β : Type} {a : Int × β} {r : List (Int × β)}
    (h : ∀ b ∈ r, a.1 < b.1) : r.orderedInsert (fun a b => b.1 ≤ a.1) a = r ++ [a] := by
  induction r with
  | nil => rfl
  | cons b r ih => grind

theorem insertionSort_dated {β : Type} {r : List (Int × β)} (h : r.Pairwise fun a b => a.1 < b.1) :
    r.insertionSort (fun a b => b.1 ≤ a.1) = r.reverse := by
  induction h with
  | nil => rfl
  | cons hf _ ih =>
    rw [insertionSort_cons, ih, reverse_cons]
    exact orderedInsert_last fun b hb => hf b (mem_reverse.mp hb)

theorem modifiedAt_run (p : List (ContextUpdate Id)) (s : DatedContextFiles Id) :
    (p.foldl update s).modifiedAt.Sublist
      (s.modifiedAt ++ p.map ContextUpdate.time) := by
  induction p generalizing s with
  | nil => simp
  | cons u p ih =>
    refine (ih (s.update u)).trans ?_
    have hs : (s.update u).modifiedAt.Sublist (s.modifiedAt ++ [u.time]) := by grind [update]
    simpa using hs.append (List.Sublist.refl (p.map ContextUpdate.time))

variable {s : DatedContextFiles Id} {id : Id}

theorem listContextFileHistory_eq (h : s.modifiedAt.Pairwise (· < ·)) :
    s.listContextFileHistory id = ((s.versions id).map Prod.snd).reverse := by
  have hr : (s.modifiedAt.zip s.db.history).Pairwise fun a b => a.1 < b.1 := by
    rw [← map_fst_zip s.dated.le] at h
    exact pairwise_map.mp h
  rw [listContextFileHistory, versions, insertionSort_dated (hr.filter _), map_reverse]

omit [DecidableEq Id] in
theorem zipWith_showDiff_inj {history : List (ContextFileHistory Id)} {next next' : List GoString}
    (hl : history.length = next.length) (hl' : history.length = next'.length)
    (h : history.zipWith showDiff next = history.zipWith showDiff next') : next = next' := by
  induction history generalizing next next' with
  | nil => rw [eq_nil_of_length_eq_zero hl.symm, eq_nil_of_length_eq_zero hl'.symm]
  | cons e history ih =>
    obtain ⟨n, next, rfl⟩ := exists_cons_of_length_eq_add_one hl.symm
    obtain ⟨n', next', rfl⟩ := exists_cons_of_length_eq_add_one hl'.symm
    simp only [zipWith_cons_cons, cons.injEq, length_cons, Nat.add_right_cancel_iff,
      showDiff, Prod.mk.injEq, true_and] at h hl hl'
    rw [computeDiff_right_inj h.1, ih hl hl' h.2]

omit [DecidableEq Id] in
theorem length_nextContents {e : List (ContextFileHistory Id)} (h : e ≠ [])
    (c : String) : (nextContents e c).length = e.length := by
  simpa [nextContents] using Nat.succ_pred_eq_of_pos (length_pos_of_ne_nil h)

/-- The contents of a file one after the other, the current one last. -/
def contents (s : DatedContextFiles Id) (file : ContextFile Id) : List GoString :=
  ((s.versions file.id).map fun row => contentBytes row.2.content) ++ [contentBytes file.content]

/-- There are at most two contents, or two that alternate, the second one
being the last one too. -/
def Alternates (contents : List GoString) : Prop :=
  contents.length ≤ 2 ∨ (∀ i < contents.length - 2, contents[i + 2]? = contents[i]?) ∧
    contents.getLast? = contents[1]?

theorem drop_two_eq_iff (texts : List GoString) :
    texts.drop 2 = texts.take (texts.length - 2) ↔
      ∀ i < texts.length - 2, texts[i + 2]? = texts[i]? := by
  constructor
  · intro h i hi
    rw [Nat.add_comm, ← getElem?_drop, h, getElem?_take_of_lt hi]
  · intro h
    refine ext_getElem? fun i => ?_
    rw [getElem?_drop, Nat.add_comm]
    by_cases hi : i < texts.length - 2
    · rw [h i hi, getElem?_take_of_lt hi]
    · rw [getElem?_eq_none (by omega), getElem?_eq_none (by rw [length_take]; omega)]

/-- What each text is compared with is the same either way. -/
theorem alternates_iff {texts : List GoString} (hne : texts ≠ []) (current : GoString) :
    texts.reverse.tail ++ [current] = (texts.tail ++ [current]).reverse ↔
      Alternates (texts ++ [current]) := by
  rw [← reverse_inj, reverse_reverse, reverse_append, tail_reverse, reverse_reverse,
    reverse_singleton, singleton_append]
  match texts, hne with
  | [first], _ => simp [Alternates]
  | first :: second :: rest, _ =>
    have hlast : (first :: second :: rest ++ [current]).getLast?
        = (first :: second :: rest ++ [current])[1]? ↔ current = second := by
      rw [getLast?_concat]
      simp
    have hdrop : (first :: second :: rest).dropLast = rest ++ [current] ↔
        (first :: second :: rest ++ [current]).drop 2
          = (first :: second :: rest ++ [current]).take
            ((first :: second :: rest ++ [current]).length - 2) := by
      rw [take_append_of_le_length (by simp), dropLast_eq_take]
      simp [eq_comm]
    rw [Alternates, or_iff_right (by simp), hlast, ← drop_two_eq_iff, ← hdrop]
    simp [and_comm]

/-- **History.** After updates at increasing times the handler shows for each
version its diff to the next one if and only if the file had at most one
earlier version, or its contents alternate between two. -/
theorem handleGetContextFileHistory_iff (start : DatedContextFiles Id)
    (updates : List (ContextUpdate Id)) (id : Id) (file : ContextFile Id)
    (hstart : start.modifiedAt = []) (htimes : updates.Pairwise fun u v => u.time < v.time)
    (hfile : (updates.foldl update start).db.files.find? id = some file) :
    let s := updates.foldl update start
    let entries := (s.versions id).map Prod.snd
    s.handleGetContextFileHistory file.satelliteID id
        = some (entries.zipWith showDiff (nextContents entries file.content)).reverse ↔
      Alternates (s.contents file) := by
  intro s entries
  have hid : file.id = id := Table.key_of_find? hfile
  have hs : s.modifiedAt.Pairwise (· < ·) := by grind [modifiedAt_run]
  have hsh : s.handleGetContextFileHistory file.satelliteID id
      = some (entries.reverse.zipWith showDiff (nextContents entries.reverse file.content)) := by
    simp only [handleGetContextFileHistory, s, hfile]
    rw [listContextFileHistory_eq hs, if_neg (not_not_intro rfl)]
  have hc : s.contents file
      = entries.map (fun entry => contentBytes entry.content) ++ [contentBytes file.content] := by
    simp [contents, entries, hid]
  rw [hsh, hc, Option.some_inj]
  by_cases hn : entries = []
  · simp [hn, nextContents, Alternates]
  have hl := length_nextContents hn file.content
  have hl' := length_nextContents (reverse_ne_nil_iff.mpr hn) file.content
  rw [reverse_zipWith hl.symm, ← alternates_iff (by simpa using hn)]
  constructor
  · intro h
    have hnext := zipWith_showDiff_inj (by simpa using hl'.symm) (by simpa using hl.symm) h
    simpa [nextContents] using hnext
  · intro h
    congr 1
    simpa [nextContents] using h

/-- One file, with the content `a`. -/
def oneFile : DatedContextFiles Nat :=
  { db := ((ContextFiles.empty [0]).createContextFile 1 0 "f" "a" "u").getD (.empty [0])
    modifiedAt := []
    dated := by decide }

/-- The contents were `a`, `b`, `a` and `b`. -/
theorem handleGetContextFileHistory_alternating :
    ([⟨5, 1, "b", "u"⟩, ⟨6, 1, "a", "u"⟩, ⟨7, 1, "b", "u"⟩].foldl update
        oneFile).handleGetContextFileHistory 0 1
      = some [(⟨1, 3, "a", "u"⟩, go "- a\n+ b"), (⟨1, 2, "b", "u"⟩, go "- b\n+ a"),
        (⟨1, 1, "a", "u"⟩, go "- a\n+ b")] :=
  ((handleGetContextFileHistory_iff oneFile
    [⟨5, 1, "b", "u"⟩, ⟨6, 1, "a", "u"⟩, ⟨7, 1, "b", "u"⟩] 1 ⟨1, 0, "f", "b", 4, "u"⟩ rfl
    (by decide) (by decide)).mpr (.inr ⟨by decide, by decide⟩)).trans (by decide)

/-- The contents were `a`, `b` and `c`. The version with `b` is shown as a
change to `a`, and the one with `a` as a change to `c`. -/
theorem handleGetContextFileHistory_twoUpdates :
    ([⟨5, 1, "b", "u"⟩, ⟨6, 1, "c", "u"⟩].foldl update oneFile).handleGetContextFileHistory 0 1
      = some [(⟨1, 2, "b", "u"⟩, go "- b\n+ a"), (⟨1, 1, "a", "u"⟩, go "- a\n+ c")] ∧
    computeDiff (go "b") (go "c") = go "- b\n+ c" ∧
      computeDiff (go "a") (go "b") = go "- a\n+ b" := by
  decide

end DatedContextFiles

end Daao.Api

/-
Daao.Daemon.ContextSyncTheorems — when the stored context files and those
on the disk are the same.

`view` is what the state says about one path, as a `Replica`. `Steady`
leaves out the actions that break it: what only one side learns of, what
is lost on the way, and an update of a file while it is under way. A
steady step is, for every path, some moves of the replica (`Moves`), so
what `Replica.Sound` says holds in every state of a run (`Inv.step`).
-/
import Daao.Daemon.ContextSync
import Daao.Lib.Replica
import Mathlib.Data.List.Perm.Basic

namespace Daao.Daemon

open Daao.Lib Daao.Database Relation List Option GoMap

/-! ## 1. One path -/

def filesOf (path : String) (files : List ContextFileSync) : List (String × Nat) :=
  (files.filter fun file => file.filePath = path).map fun file => (file.content, file.edit)

@[simp] theorem filesOf_nil (path : String) : filesOf path [] = [] := rfl

@[simp] theorem filesOf_append (path : String) (files files' : List ContextFileSync) :
    filesOf path (files ++ files') = filesOf path files ++ filesOf path files' := by
  simp [filesOf]

theorem filesOf_cons (path : String) (file : ContextFileSync) (files : List ContextFileSync) :
    filesOf path (file :: files)
      = (if file.filePath = path then [(file.content, file.edit)] else [])
        ++ filesOf path files := by
  by_cases h : file.filePath = path <;> simp [filesOf, h]

namespace ContextWatcher

def line (w : ContextWatcher) : List ContextFileSync :=
  w.initial ++ w.events ++ w.flushes.filterMap Flush.read

def Waiting (w : ContextWatcher) (path : String) : Prop :=
  path ∈ w.fsEvents.map Prod.fst ∨ path ∈ w.pending.rows.map Prod.fst

instance (w : ContextWatcher) (path : String) : Decidable (w.Waiting path) :=
  inferInstanceAs (Decidable (_ ∨ _))

def changed (w : ContextWatcher) (path : String) : Bool :=
  decide (w.Waiting path) || w.flushes.any fun flush => path ∈ flush.left.map Prod.fst

end ContextWatcher

namespace ContextSync

variable {Id : Type} [DecidableEq Id]

def stored (cfg : SatelliteConfig Id) (s : ContextSync Id) (path : String) : Option String :=
  s.db.contentAt cfg.satelliteID path

def onDisk (s : ContextSync Id) (path : String) : Option String :=
  if isMDFile path then s.disk.get path else none

def line (s : ContextSync Id) : List ContextFileSync :=
  s.up.line ++ (s.watcher.map ContextWatcher.line).getD []

def view (cfg : SatelliteConfig Id) (s : ContextSync Id) (path : String) : Replica String :=
  { stored := s.stored cfg path
    storedAt := s.storedAt path
    updatedAt := s.updatedAt path
    copy := s.onDisk path
    copyAt := if isMDFile path then s.diskAt path else 0
    uploads := filesOf path s.line
    pushes := filesOf path (s.handlers ++ s.down)
    dirty := s.watcher.any fun w => w.changed path
    running := s.watcher.isSome
    clock := s.clock }

/-! ## 2. Steady steps -/

/-- The action is none of those after which the two sides may stay
different. -/
def Steady (cfg : SatelliteConfig Id) (s : ContextSync Id) : Act Id → Prop
  -- what is not pushed is made up for by what is under way
  | .create _ filePath _ => ¬ (s.view cfg filePath).AtRest
  | .delete id =>
    ∀ file ∈ s.db.files.find? id, file.satelliteID = cfg.satelliteID →
      ¬ (s.view cfg file.filePath).AtRest
  -- a file is updated while nothing of it is under way, and pushed
  | .update id _ =>
    ∀ file ∈ s.db.files.find? id, file.satelliteID = cfg.satelliteID →
      (s.view cfg file.filePath).AtRest
  | .push _ room => s.registered = some s.up.conn ∧ room = true
  | .receivePush ok =>
    ok = true ∧ ∀ file ∈ s.down.head?, isFileName file.filePath = true ∧
      isMDFile file.filePath = true
  -- a deletion on the disk is seen by the watcher, and followed by a change before it is read
  | .remove path =>
    isMDFile path = true → s.watcher.isSome = true ∨ s.stored cfg path = none ∧
      filesOf path s.line = []
  | .read _ path =>
    ∀ w ∈ s.watcher, w.flushes.length ≤ 1 ∧
      ((∀ flush ∈ w.flushes, lastEntry path flush.left = some false) ∧ (s.disk.get path).isSome ∨
        w.Waiting path ∨ filesOf path (s.handlers ++ s.down) ≠ [])
  -- flushes do not overlap, and the channels have room
  | .emit _ => ∀ w ∈ s.watcher, w.flushes.length ≤ 1 ∧ w.events.length < ContextWatcher.capacity
  | .sendInitial room => s.up.queue.length < min room sendChCapacity
  | .drain room => s.up.queue.length < min room sendChCapacity
  -- nothing is lost with a connection
  | .transmit => s.up.alive = true
  | .discard conn => s.up.wire conn = []
  | .connect => s.up.wire s.up.conn = [] ∧ s.down = []
  | .receiveUpload conn newID ok =>
    conn = s.up.conn ∧ ok = true ∧ ∀ file ∈ (s.up.wire conn).head?,
      (s.db.upsertContextFile newID cfg.satelliteID file.filePath file.content
        cfg.modifiedBy).isSome
  -- the daemon is stopped with every file on the disk that is stored or will be
  | .stopDaemon =>
    (∀ file ∈ s.db.files.rows, file.satelliteID = cfg.satelliteID →
      s.onDisk file.filePath ≠ none) ∧
    ∀ file ∈ s.up.wire s.up.conn, s.onDisk file.filePath ≠ none
  | .startDaemon _ => s.handlers = [] ∧ s.down = []
  | .edit _ _ => True
  | .notice => True
  | .fire => True
  | .lose => True
  | .stopWriter => True
  | .register _ => True
  | .unregister => True

instance (cfg : SatelliteConfig Id) (s : ContextSync Id) (a : Act Id) :
    Decidable (s.Steady cfg a) := by
  cases a <;> dsimp only [Steady] <;> infer_instance

end ContextSync

/-! ## 3. The watcher -/

namespace ContextWatcher

variable {w w' : ContextWatcher}

theorem changed_iff {path : String} :
    w.changed path = true ↔
      w.Waiting path ∨ ∃ f ∈ w.flushes, path ∈ f.left.map Prod.fst := by
  simp [changed]

theorem exists_left_tidy (fl : List Flush) (path : String) :
    (∃ f ∈ tidy fl, path ∈ f.left.map Prod.fst) ↔
      ∃ f ∈ fl, path ∈ f.left.map Prod.fst := by
  constructor
  · rintro ⟨f, hf, hp⟩
    exact ⟨f, (mem_filter.mp hf).1, hp⟩
  rintro ⟨f, hf, hp⟩
  have hl : f.left ≠ [] := fun hn => by
    simp [hn] at hp
  exact ⟨f, mem_filter.mpr ⟨hf, by simp [hl]⟩, hp⟩

theorem filterMap_tidy (f : List Flush) :
    (tidy f).filterMap Flush.read = f.filterMap Flush.read := by
  induction f with
  | nil => rfl
  | cons fl r ih => grind [tidy]

structure Keeps (w w' : ContextWatcher) : Prop where
  line : w'.line = w.line
  changed : ∀ path, w'.changed path = w.changed path

theorem keeps_notice (h : w.notice = some w') : Keeps w w' := by
  unfold notice at h
  split at h
  · cases h
  rename_i e r he
  cases h
  refine ⟨rfl, fun path => Bool.eq_iff_iff.mpr ?_⟩
  rw [changed_iff, changed_iff]
  simp only [Waiting, he, mem_keys_put, map_cons, mem_cons]
  grind

theorem keeps_fire (w : ContextWatcher) : Keeps w w.fire := by
  refine ⟨?_, fun path => Bool.eq_iff_iff.mpr ?_⟩
  · simp [line, fire, filterMap_tidy]
  rw [changed_iff, changed_iff]
  simp only [Waiting, fire, exists_left_tidy, empty, map_nil, not_mem_nil, mem_append,
    mem_singleton, or_and_right, exists_or, exists_eq_left]
  grind

variable {i : Nat}

theorem eq_singleton_of_getElem? {α : Type} {l : List α} {a : α} (h : l[i]? = some a)
    (hl : l.length ≤ 1) : l = [a] ∧ i = 0 := by
  match l, i with
  | [], _ => cases h
  | [_], 0 => exact ⟨congrArg (· :: []) (some.inj h), rfl⟩
  | [_], _ + 1 => cases h
  | _ :: _ :: _, _ => simp at hl

theorem keeps_emit (h : w.emit i = some w')
    (hl : w.flushes.length ≤ 1) (hr : w.events.length < capacity) : Keeps w w' := by
  unfold emit at h
  split at h
  · rename_i left file hfl
    cases h
    obtain ⟨hf, rfl⟩ := eq_singleton_of_getElem? hfl hl
    refine ⟨?_, fun path => Bool.eq_iff_iff.mpr ?_⟩
    · simp [line, filterMap_tidy, hf, hr]
    rw [changed_iff, changed_iff]
    refine or_congr_right ?_
    simp only [exists_left_tidy, hf]
    simp
  · cases h

/-- A flush comes to `path`, and makes `file` of it. -/
structure Reads (w w' : ContextWatcher) (path : String) (deleted : Bool)
    (file : Option ContextFileSync) : Prop where
  entry : ∃ flush ∈ w.flushes, lastEntry path flush.left = some deleted
  changed : w.changed path = true
  line : w'.line = w.line ++ file.toList
  again : w'.changed path = decide (w.Waiting path)
  others : ∀ path', path' ≠ path → w'.changed path' = w.changed path'

theorem reads_of_read {disk : GoMap String String} {diskAt : String → Nat} {path : String}
    (h : w.read disk diskAt i path = some w') (hle : w.flushes.length ≤ 1) :
    ∃ deleted, Reads w w' path deleted (readFile disk diskAt path deleted) := by
  unfold read at h
  split at h
  · rename_i left hfl
    obtain ⟨hf, rfl⟩ := eq_singleton_of_getElem? hfl hle
    obtain ⟨deleted, hl, rfl⟩ := map_eq_some_iff.mp h
    have hm : path ∈ left.map Prod.fst := by grind [lastEntry_eq_none_iff]
    refine ⟨deleted, ⟨⟨left, none⟩, by simp [hf], hl⟩, ?_, ?_, ?_, ?_⟩
    · exact changed_iff.mpr (.inr ⟨⟨left, none⟩, by simp [hf], hm⟩)
    · cases readFile disk diskAt path deleted <;> simp [line, filterMap_tidy, hf]
    · refine Bool.eq_iff_iff.mpr ?_
      rw [changed_iff, decide_eq_true_eq]
      simp only [exists_left_tidy, hf]
      simp [Waiting]
    intro p' hp
    refine Bool.eq_iff_iff.mpr ?_
    rw [changed_iff, changed_iff]
    refine or_congr_right ?_
    simp only [exists_left_tidy, hf]
    simp [hp]
  · cases h

theorem filesOf_readFile (disk : GoMap String String) (da : String → Nat) (path : String)
    (deleted : Bool) (p' : String) :
    filesOf p' (readFile disk da path deleted).toList
      = if p' = path then
          ((readFile disk da path deleted).toList.map ContextFileSync.content).map
            fun content => (content, da path)
        else [] := by
  unfold readFile
  by_cases hp : path = p'
  · cases deleted <;> cases disk.get path <;> simp [filesOf_cons, hp]
  · cases deleted <;> cases disk.get path <;> simp [filesOf_cons, hp, Ne.symm hp]

theorem line_touch (w : ContextWatcher) (path : String) (d : Bool) :
    (w.touch path d).line = w.line := by
  unfold touch
  split <;> rfl

theorem changed_touch (w : ContextWatcher) (path : String) (d : Bool) (p' : String) :
    (w.touch path d).changed p'
      = (w.changed p' || (decide (p' = path) && isMDFile path)) := by
  unfold touch
  split
  · rename_i hmd
    refine Bool.eq_iff_iff.mpr ?_
    rw [changed_iff, Bool.or_eq_true, changed_iff]
    simp only [Waiting, map_append, mem_append, map_cons, map_nil,
      mem_singleton, hmd, Bool.and_true, decide_eq_true_eq]
    grind
  rename_i hmd
  simp [hmd]

end ContextWatcher

/-! ## 4. Steps as moves

One lemma for each kind of action: what it does to the view of a path. -/

namespace ContextSync

variable {Id : Type} [DecidableEq Id] {cfg : SatelliteConfig Id} {s s' : ContextSync Id}

theorem filesOf_perm {files f' : List ContextFileSync} (h : files.Perm f') (path : String) :
    (filesOf path files).Perm (filesOf path f') :=
  (h.filter _).map _

/-- The views are the replica's moves apart. -/
def Moves (cfg : SatelliteConfig Id) (s s' : ContextSync Id) (path : String) : Prop :=
  ReflTransGen Replica.Step (s.view cfg path) (s'.view cfg path)

variable {content path : String}

theorem moves_of_eq (h : s'.view cfg path = s.view cfg path) : s.Moves cfg s' path := by
  rw [Moves, h]

theorem moves_of_step {r : Replica String} (hs : (s.view cfg path).Step r)
    (h : s'.view cfg path = r) : s.Moves cfg s' path := by
  rw [Moves, h]
  exact .single hs

variable {w w' : ContextWatcher}

def Named (watcher : Option ContextWatcher) : Prop :=
  ∀ w ∈ watcher, ∀ path, w.changed path = true → isMDFile path = true

theorem named_of_changed (h : Named (some w))
    (hc : ∀ path, w'.changed path = true → w.changed path = true) : Named (some w') := by
  rintro _ ⟨⟩ path hp
  exact h w rfl path (hc path hp)

open ContextWatcher

theorem named_touch {a : Option ContextWatcher} (h : Named a) (path : String)
    (d : Bool) : Named (a.map fun w => w.touch path d) := by
  intro w' hw' p' hp
  obtain ⟨w, hw, rfl⟩ := map_eq_some_iff.mp hw'
  rw [changed_touch, Bool.or_eq_true, Bool.and_eq_true, decide_eq_true_eq] at hp
  rcases hp with hp | ⟨rfl, hmd⟩
  · exact h w hw p' hp
  · exact hmd

structure Inv (cfg : SatelliteConfig Id) (s : ContextSync Id) : Prop where
  bounded : s.up.Bounded
  named : Named s.watcher
  sound : ∀ path, (s.view cfg path).Sound

theorem Inv.next (hinv : s.Inv cfg) (hb : s'.up.Bounded) (hn : Named s'.watcher)
    (hm : ∀ path, s.Moves cfg s' path) : s'.Inv cfg :=
  ⟨hb, hn, fun path => (hinv.sound path).steps (hm path)⟩

theorem Inv.frame (hinv : s.Inv cfg) (hf : s'.up = s.up ∧ s'.watcher = s.watcher)
    (hm : ∀ path, s.Moves cfg s' path) : s'.Inv cfg :=
  hinv.next (hf.1 ▸ hinv.bounded) (hf.2 ▸ hinv.named) hm

section

variable (hinv : s.Inv cfg) {newID id : Id}

include hinv

theorem Inv.store {db : ContextFiles Id} {c : Option String}
    (hdb : ∀ p', db.contentAt cfg.satelliteID p'
      = if p' = path then c else s.db.contentAt cfg.satelliteID p')
    (hr : ¬ (s.view cfg path).AtRest) : (s.store db path).Inv cfg := by
  refine hinv.frame ⟨rfl, rfl⟩ fun p' => ?_
  by_cases hp : p' = path
  · subst hp
    refine moves_of_step (.overwrite c hr) ?_
    simp [view, store, stored, onDisk, line, hdb]
  refine moves_of_step (.idle (s.clock + 1) (Nat.le_succ _)) ?_
  simp [view, ContextSync.store, stored, onDisk, line, hdb, hp]

theorem Inv.create {fp : String} (hr : ¬ (s.view cfg fp).AtRest) :
    (s.handleCreateContextFile cfg newID fp content).Inv cfg := by
  unfold handleCreateContextFile
  split
  · exact hinv
  split
  · exact hinv
  rename_i db hdb
  exact hinv.store (ContextFiles.contentAt_createContextFile hdb) hr

theorem Inv.delete (hr : ∀ file ∈ s.db.files.find? id, file.satelliteID = cfg.satelliteID →
      ¬ (s.view cfg file.filePath).AtRest) : (s.handleDeleteContextFile cfg id).Inv cfg := by
  unfold handleDeleteContextFile
  split
  · exact hinv
  rename_i file hf
  split
  · rename_i hs
    have hdb := ContextFiles.contentAt_deleteContextFile hf
    rw [hs] at hdb
    exact hinv.store hdb (hr file hf hs)
  · exact hinv

theorem Inv.update (hr : ∀ file ∈ s.db.files.find? id, file.satelliteID = cfg.satelliteID →
      (s.view cfg file.filePath).AtRest) : (s.handleUpdateContextFile cfg id content).Inv cfg := by
  unfold handleUpdateContextFile
  split
  · exact hinv
  rename_i file hf
  split
  · rename_i hs
    split
    · exact hinv
    rename_i db hu
    have hdb := ContextFiles.contentAt_updateContextFile hf hu
    rw [hs] at hdb
    refine hinv.frame ⟨rfl, rfl⟩ fun path => ?_
    by_cases hp : path = file.filePath
    · have hat := hr file hf hs
      rw [← hp] at hat
      have hpu : filesOf path (s.handlers ++ s.down) = [] := hat.pushes
      rw [filesOf_append, append_eq_nil_iff] at hpu
      refine moves_of_step (.update content hat) ?_
      simp [view, ContextSync.store, stored, onDisk, line, hdb, hp.symm, filesOf_cons, hpu]
    refine moves_of_step (.idle (s.clock + 1) (Nat.le_succ _)) ?_
    simp [view, ContextSync.store, stored, onDisk, line, hdb, hp, Ne.symm hp, filesOf_cons]
  · exact hinv

end

variable {i : Nat}

theorem moves_push {r : Bool} (h : s.push i r = some s')
    (hr : s.registered = some s.up.conn ∧ r = true) (path : String) :
    s.Moves cfg s' path := by
  obtain ⟨file, hf, rfl⟩ := map_eq_some_iff.mp h
  obtain ⟨hi, rfl⟩ := List.getElem?_eq_some_iff.mp hf
  have hp : (s.handlers.eraseIdx i ++ (s.down ++ [s.handlers[i]])).Perm
      (s.handlers ++ s.down) := by
    rw [← append_assoc]
    exact (perm_append_singleton ..).trans ((getElem_cons_eraseIdx_perm hi).append_right s.down)
  refine moves_of_step (.carry _ (filesOf_perm hp path)) ?_
  simp [view, stored, onDisk, line, hr]

/-! ### The disk -/

def changeDisk (s : ContextSync Id) (disk : GoMap String String) (diskAt : String → Nat)
    (clock : Nat) (path : String) (deleted : Bool) : ContextSync Id :=
  { s with
    disk := disk, diskAt := diskAt, clock := clock
    watcher := s.watcher.map fun w => w.touch path deleted }

variable (cfg s) in
theorem view_changeDisk (disk : GoMap String String) (da : String → Nat) (clock : Nat)
    (path : String) (d : Bool) (p' : String) :
    (s.changeDisk disk da clock path d).view cfg p'
      = { s.view cfg p' with
          copy := if isMDFile p' then disk.get p' else none
          copyAt := if isMDFile p' then da p' else 0
          dirty := (s.view cfg p').dirty
            || (s.watcher.isSome && (decide (p' = path) && isMDFile path))
          clock := clock } := by
  cases hw : s.watcher <;>
    simp [view, changeDisk, stored, onDisk, line, hw, line_touch, changed_touch]

variable {disk : GoMap String String}

variable (cfg) in
theorem view_changeDisk_of_ne {diskAt : String → Nat} (clock : Nat) (d : Bool)
    {p' : String} (hd : p' ≠ path → disk.get p' = s.disk.get p')
    (hda : p' ≠ path → diskAt p' = s.diskAt p')
    (hp : ¬ (p' = path ∧ isMDFile p' = true)) :
    (s.changeDisk disk diskAt clock path d).view cfg p'
      = { s.view cfg p' with clock := clock } := by
  rw [view_changeDisk]
  by_cases hmd : isMDFile p' = true
  · grind [view, onDisk]
  have hs : (decide (p' = path) && isMDFile path) = false := by
    by_cases h : p' = path
    · simpa [h] using hmd
    · simp [h]
  simp [view, onDisk, hmd, hs]

theorem moves_edit (path content path' : String) :
    s.Moves cfg { s.writeFile path content (s.clock + 1) with clock := s.clock + 1 } path' := by
  change s.Moves cfg (s.changeDisk (Table.put s.disk (path, content))
    (Function.update s.diskAt path (s.clock + 1)) (s.clock + 1) path false) path'
  by_cases hp : path' = path ∧ isMDFile path' = true
  · obtain ⟨rfl, hmd⟩ := hp
    refine moves_of_step (.edit content) ?_
    rw [view_changeDisk]
    cases hw : s.watcher <;> simp [view, get_put, hmd, hw]
  refine moves_of_step (.idle (s.clock + 1) (Nat.le_succ _))
    (view_changeDisk_of_ne cfg (s.clock + 1) false ?_ ?_ hp)
  · intro hne
    exact (get_put ..).trans (if_neg hne)
  · grind

theorem moves_remove (hs : isMDFile path = true →
      s.watcher.isSome = true ∨ s.stored cfg path = none ∧ filesOf path s.line = [])
    (path' : String) :
    s.Moves cfg
      { s with
        disk := s.disk.restrict fun file => file.1 ≠ path
        diskAt := Function.update s.diskAt path (s.clock + 1)
        watcher := s.watcher.map fun w => w.touch path true
        clock := s.clock + 1 } path' := by
  by_cases hp : path' = path ∧ isMDFile path' = true
  · obtain ⟨rfl, hmd⟩ := hp
    refine moves_of_step (.remove (hs hmd)) ?_
    refine (view_changeDisk cfg s _ _ _ path' true path').trans ?_
    rw [get_restrict_ne]
    cases hw : s.watcher <;> simp [view, hmd, hw]
  refine moves_of_step (.idle (s.clock + 1) (Nat.le_succ _))
    (view_changeDisk_of_ne cfg (s.clock + 1) true ?_ ?_ hp)
  · intro hne
    exact (get_restrict_ne ..).trans (if_neg hne)
  · grind

variable {file : ContextFileSync}

theorem Inv.receivePush (hinv : s.Inv cfg) {r : List ContextFileSync} (hd : s.down = file :: r)
    (hr : s.watcher.isSome = true) (hn : isFileName file.filePath = true)
    (hmd : isMDFile file.filePath = true) :
    ({ s with down := r }.handleContextFilePush file true).Inv cfg := by
  rw [handleContextFilePush, hn, Bool.and_self, if_pos rfl]
  refine hinv.next hinv.bounded (named_touch hinv.named file.filePath false) fun path => ?_
  by_cases hp : path = file.filePath
  · have hpu : (filesOf path (s.handlers ++ s.down)).Perm
        ((file.content, file.edit) :: filesOf path (s.handlers ++ r)) := by
      rw [hd]
      refine (filesOf_perm perm_middle path).trans ?_
      rw [filesOf_cons, if_pos hp.symm]
      exact List.Perm.refl _
    refine moves_of_step (.pushed _ _ hpu hr) ?_
    refine (view_changeDisk cfg { s with down := r } _ _ _ file.filePath false path).trans ?_
    simp [view, stored, line, get_put, hmd, hp, hr]
  · refine moves_of_eq ?_
    refine (view_changeDisk_of_ne cfg s.clock false ?_ ?_ (fun h => hp h.1)).trans ?_
    · exact fun _ => (get_put ..).trans (if_neg hp)
    · grind
    · simp [view, stored, onDisk, line, hd, filesOf_cons, Ne.symm hp]

/-! ### The way up -/

theorem view_carry (up : Uplink ContextFileSync) {watcher : Option ContextWatcher}
    (hl : filesOf path { s with up := up, watcher := watcher }.line
      = filesOf path s.line)
    (hc : (watcher.any fun w => w.changed path) = s.watcher.any fun w => w.changed path)
    (hr : watcher.isSome = s.watcher.isSome) :
    { s with up := up, watcher := watcher }.view cfg path
      = s.view cfg path := by
  simp only [view, hl, hc, hr, stored, onDisk]

open Uplink

section

variable (hinv : s.Inv cfg)

include hinv

theorem Inv.keeps (hw : s.watcher = some w) (h : ContextWatcher.Keeps w w') :
    { s with watcher := some w' }.Inv cfg := by
  have hn : Named (some w) := hw ▸ hinv.named
  refine hinv.next hinv.bounded (named_of_changed hn fun path hp => h.changed path ▸ hp)
    fun path => moves_of_eq (view_carry s.up ?_ ?_ ?_)
  · simp [line, hw, h.line]
  · simp [hw, h.changed]
  · simp [hw]

theorem Inv.read (hw : s.watcher = some w) (h : w.read s.disk s.diskAt i path = some w')
    (hl : w.flushes.length ≤ 1)
    (hg : (∀ flush ∈ w.flushes, lastEntry path flush.left = some false) ∧
        (s.disk.get path).isSome ∨ w.Waiting path ∨ filesOf path (s.handlers ++ s.down) ≠ []) :
    { s with watcher := some w' }.Inv cfg := by
  have hn : Named (some w) := hw ▸ hinv.named
  obtain ⟨d, hr⟩ := reads_of_read h hl
  refine hinv.next hinv.bounded (named_of_changed hn fun path' hp => ?_) fun path' => ?_
  · grind [hr.changed, hr.others]
  by_cases hp : path' = path
  · subst hp
    have hmd := hn w rfl path' hr.changed
    have hd : (s.view cfg path').dirty = true := by simp [view, hw, hr.changed]
    rcases hg with ⟨hwr, ht⟩ | ha
    · -- the file is there and the flush sends it
      obtain ⟨content, hc⟩ := isSome_iff_exists.mp ht
      obtain ⟨flush, hf, he⟩ := hr.entry
      rw [hwr flush hf] at he
      cases he
      have hco : (s.view cfg path').copy = some content := by simp [view, onDisk, hmd, hc]
      refine moves_of_step (.read content (decide (w.Waiting path')) hco hd) ?_
      simp [view, stored, onDisk, line, hw, hr.line, hr.again, readFile, hc, filesOf_cons, hmd]
    have ha : decide (w.Waiting path') = true ∨ (s.view cfg path').pushes ≠ [] :=
      ha.imp_left decide_eq_true
    refine moves_of_step (.readGone
      ((readFile s.disk s.diskAt path' d).toList.map ContextFileSync.content)
      (decide (w.Waiting path')) hd ha) ?_
    simp [view, stored, onDisk, line, hw, hr.line, hr.again, filesOf_readFile, hmd]
  · refine moves_of_eq (view_carry s.up ?_ ?_ ?_)
    · simp [line, hw, hr.line, filesOf_readFile, hp]
    · simp [hw, hr.others path' hp]
    · simp [hw]

theorem Inv.sendContextUpdate {r : Nat} (hw : s.watcher = some w)
    (hl : w.line = file :: w'.line) (hc : ∀ path, w'.changed path = w.changed path)
    (hr : s.up.queue.length < min r sendChCapacity) :
    (s.sendContextUpdate w' file r).Inv cfg := by
  have hn : Named (some w) := hw ▸ hinv.named
  refine hinv.next (bounded_send _ _ hinv.bounded) (named_of_changed hn fun path hp => hc path ▸ hp)
    fun path => moves_of_eq (view_carry _ ?_ ?_ ?_)
  · simp [line, hw, hl, line_send_of_lt _ _ _ hr]
  · simp [hw, hc]
  · simp [hw]

theorem Inv.up {up : Uplink ContextFileSync} (hb : up.Bounded)
    (hl : up.line = s.up.line) : { s with up := up }.Inv cfg := by
  refine hinv.next hb hinv.named fun path => moves_of_eq (view_carry up ?_ rfl rfl)
  simp only [line, hl]

theorem Inv.receiveUpload {newID : Id} {up : Uplink ContextFileSync}
    (hr : Uplink.Receives s.up.conn file s.up up)
    (hu : (s.db.upsertContextFile newID cfg.satelliteID file.filePath file.content
      cfg.modifiedBy).isSome) :
    ({ s with up := up }.handleUpload cfg newID file true).Inv cfg := by
  obtain ⟨db, hdb⟩ := isSome_iff_exists.mp hu
  have hc := ContextFiles.contentAt_upsertContextFile hdb
  have hl := hr.line_current
  simp only [handleUpload, if_pos, hdb]
  refine hinv.next (hr.bounded hinv.bounded) hinv.named fun path => ?_
  by_cases hp : path = file.filePath
  · have hup : (s.view cfg path).uploads
        = (file.content, file.edit)
          :: filesOf path { s with up := up }.line := by
      simp [view, line, hl, filesOf_cons, hp]
    refine moves_of_step (.receive _ _ hup) ?_
    simp [view, stored, onDisk, line, hc, hp]
  refine moves_of_eq ?_
  simp [view, stored, onDisk, line, hc, hp, hl, filesOf_cons, Ne.symm hp]

end

/-! ### Starting and stopping -/

theorem moves_stopDaemon (hs : ∀ file ∈ s.db.files.rows, file.satelliteID = cfg.satelliteID →
      s.onDisk file.filePath ≠ none)
    (hw : ∀ file ∈ s.up.wire s.up.conn, s.onDisk file.filePath ≠ none) (path : String) :
    s.Moves cfg { s with watcher := none, up := s.up.reset } path := by
  refine moves_of_step (.stop (filesOf path (s.up.wire s.up.conn)) ?_ ?_) ?_
  · intro x hx
    simp [view, line, Uplink.line, hx]
  · intro hg
    constructor
    · refine eq_none_iff_forall_ne_some.mpr fun content hc => ?_
      obtain ⟨file, hf, hp, -⟩ := ContextFiles.contentAt_eq_some_iff.mp hc
      obtain ⟨hsa, rfl⟩ := Prod.mk.inj hp
      exact hs file hf hsa hg
    simp only [filesOf, map_eq_nil_iff, filter_eq_nil_iff, decide_eq_true_eq]
    rintro file hf rfl
    exact hw file hf hg
  · simp [view, stored, onDisk, line, Uplink.line, reset]

theorem get_seedStandardFiles {sf : List (String × String)} (h : disk.get path = some content) :
    (seedStandardFiles sf disk).get path = some content := by
  induction sf generalizing disk with
  | nil => exact h
  | cons file r ih =>
    refine ih ?_
    by_cases hn : disk.get file.1 = none
    · have hne : path ≠ file.1 := fun heq => by
        rw [heq, hn] at h
        cases h
      simp only [hn, if_true, get_put, if_neg hne, h]
    · simp only [if_neg hn, h]

variable {files : List (String × String)}

theorem filesOf_initial
    (h : files.Perm (disk.rows.filter fun file => isMDFile file.1)) (da : String → Nat)
    (path : String) :
    filesOf path (files.map fun file => ⟨file.1, file.2, da file.1⟩)
      = ((if isMDFile path then disk.get path else none).map
          fun content => (content, da path)).toList := by
  have hf : filesOf path (files.map fun file => ⟨file.1, file.2, da file.1⟩)
      = (files.filter fun file => file.1 = path).map fun file => (file.2, da file.1) := by
    rw [filesOf, List.filter_map, List.map_map]
    rfl
  have hr : ((disk.rows.filter fun file => isMDFile file.1).filter fun file => file.1 = path)
      = ((if isMDFile path then disk.get path else none).map fun content =>
        (path, content)).toList := by
    rw [filter_comm, filter_rows]
    cases hmd : isMDFile path <;> cases disk.get path <;> simp [hmd]
  have hp := h.filter fun file => decide (file.1 = path)
  rw [hr] at hp
  rw [hf]
  -- there is at most one, so the order does not matter
  cases hc : (if isMDFile path then disk.get path else none) with
  | none =>
    rw [hc] at hp
    rw [perm_nil.mp hp]
    rfl
  | some content => simp_all

def seed (cfg : SatelliteConfig Id) (s : ContextSync Id) : ContextSync Id :=
  let disk := seedStandardFiles cfg.standardFiles s.disk
  { s with
    disk := disk, clock := s.clock + 1
    diskAt := fun path =>
      if s.disk.get path = none ∧ disk.get path ≠ none then s.clock + 1 else s.diskAt path }

omit [DecidableEq Id] in
theorem startDaemon_eq_some (h : s.startDaemon cfg files = some s') :
    s.watcher = none ∧ files.Perm ((s.seed cfg).disk.rows.filter fun file => isMDFile file.1) ∧
      s' = { s.seed cfg with
        watcher := some
          { fsEvents := [], pending := .empty, flushes := [], events := []
            initial := files.map fun file => ⟨file.1, file.2, (s.seed cfg).diskAt file.1⟩ } } := by
  simp only [startDaemon, ite_none_right_eq_some, some.injEq] at h
  obtain ⟨⟨hs, hp⟩, rfl⟩ := h
  exact ⟨isNone_iff_eq_none.mp hs, hp, rfl⟩

theorem moves_seed (hw : s.watcher = none) (path : String) :
    s.Moves cfg (s.seed cfg) path := by
  have hi : (s.seed cfg).view cfg path = { s.view cfg path with clock := s.clock + 1 } →
      s.Moves cfg (s.seed cfg) path := moves_of_step (.idle (s.clock + 1) (Nat.le_succ _))
  by_cases hmd : isMDFile path = true
  · cases hg : s.disk.get path with
    | some content =>
      refine hi ?_
      simp [view, seed, stored, onDisk, line, hmd, hg, get_seedStandardFiles hg]
    | none =>
      cases hs : (seedStandardFiles cfg.standardFiles s.disk).get path with
      | none =>
        refine hi ?_
        simp [view, seed, stored, onDisk, line, hmd, hg, hs]
      | some content =>
        refine moves_of_step (.edit content) ?_
        simp [view, seed, stored, onDisk, line, hmd, hg, hs, hw]
  · refine hi ?_
    simp [view, seed, stored, onDisk, line, hmd]

theorem moves_startDaemon
    (h : s.startDaemon cfg files = some s') (hh : s.handlers = []) (hd : s.down = [])
    (path : String) : s.Moves cfg s' path := by
  obtain ⟨hw, hp, rfl⟩ := startDaemon_eq_some h
  refine trans (moves_seed hw path) (moves_of_step (.start ?_ ?_) ?_)
  · simp [view, seed, hw]
  · simp [view, seed, hh, hd]
  have hwa : (s.seed cfg).watcher = none := hw
  have hi := filesOf_initial hp (s.seed cfg).diskAt path
  cases hmd : isMDFile path <;>
    simp [view, stored, line, hwa, ContextWatcher.line, hi, hmd, onDisk,
      changed, ContextWatcher.Waiting, empty]

/-! ## 5. Runs -/

theorem inv_start (cfg : SatelliteConfig Id) (a : List Id) (disk : GoMap String String) :
    (start a disk).Inv cfg := by
  refine ⟨bounded_start, fun _ h => (by cases h), fun path => ?_⟩
  refine ⟨le_refl 0, le_refl 0, ?_, ?_, fun _ => Nat.zero_le _, fun _ => rfl, ?_,
    fun _ _ _ => ⟨rfl, rfl⟩⟩
  · intro x hx
    cases hx
  · intro x hx
    cases hx
  intro hr
  cases hr

/-- Every steady act keeps the invariant. -/
theorem Inv.step {a : Act Id} (hinv : s.Inv cfg) (hok : s.Steady cfg a)
    (hs : s.step cfg a = some s') : s'.Inv cfg := by
  cases a with
  | create newID fp content =>
    cases hs
    exact hinv.create hok
  | update id content =>
    cases hs
    exact hinv.update hok
  | delete id =>
    cases hs
    exact hinv.delete hok
  | push i r =>
    have hm : ∀ path, s.Moves cfg s' path := moves_push hs hok
    obtain ⟨file, hf, rfl⟩ := map_eq_some_iff.mp hs
    exact hinv.frame ⟨rfl, rfl⟩ hm
  | edit path content =>
    obtain ⟨-, ⟨⟩⟩ := ite_none_right_eq_some.mp hs
    exact hinv.next hinv.bounded (named_touch hinv.named path false) (moves_edit path content)
  | remove path =>
    obtain ⟨_, -, rfl⟩ := map_eq_some_iff.mp hs
    exact hinv.next hinv.bounded (named_touch hinv.named path true) (moves_remove hok)
  | startDaemon files =>
    have hm := moves_startDaemon hs hok.1 hok.2
    obtain ⟨-, -, rfl⟩ := startDaemon_eq_some hs
    refine hinv.next hinv.bounded ?_ hm
    rintro _ ⟨⟩ path hp
    cases hp
  | stopDaemon =>
    obtain ⟨_, -, rfl⟩ := map_eq_some_iff.mp hs
    exact hinv.next (bounded_reset hinv.bounded) (fun _ h => by cases h)
      (moves_stopDaemon hok.1 hok.2)
  | notice =>
    obtain ⟨w, hwa, h⟩ := bind_eq_some_iff.mp hs
    obtain ⟨w', hw', rfl⟩ := map_eq_some_iff.mp h
    exact hinv.keeps hwa (keeps_notice hw')
  | fire =>
    obtain ⟨w, hwa, rfl⟩ := map_eq_some_iff.mp hs
    exact hinv.keeps hwa w.keeps_fire
  | read i path =>
    obtain ⟨w, hwa, h⟩ := bind_eq_some_iff.mp hs
    obtain ⟨w', hw', rfl⟩ := map_eq_some_iff.mp h
    obtain ⟨hl, hg⟩ := hok w hwa
    exact hinv.read hwa hw' hl hg
  | emit i =>
    obtain ⟨w, hwa, h⟩ := bind_eq_some_iff.mp hs
    obtain ⟨w', hw', rfl⟩ := map_eq_some_iff.mp h
    obtain ⟨hl, hro⟩ := hok w hwa
    exact hinv.keeps hwa (keeps_emit hw' hl hro)
  | sendInitial r =>
    obtain ⟨w, hwa, h⟩ := bind_eq_some_iff.mp hs
    split at h
    · cases h
    rename_i file e hi
    cases h
    refine hinv.sendContextUpdate hwa ?_ (fun _ => rfl) hok
    simp [ContextWatcher.line, hi]
  | drain r =>
    obtain ⟨w, hwa, h⟩ := bind_eq_some_iff.mp hs
    split at h
    · rename_i file e hi he
      cases h
      refine hinv.sendContextUpdate hwa ?_ (fun _ => rfl) hok
      simp [ContextWatcher.line, hi, he]
    · cases h
  | connect =>
    obtain ⟨w, hwa, rfl⟩ := map_eq_some_iff.mp hs
    rw [← hok.2]
    exact hinv.up (bounded_connect hinv.bounded) (line_connect hinv.bounded hok.1)
  | transmit =>
    obtain ⟨up, hup, rfl⟩ := map_eq_some_iff.mp hs
    exact hinv.up ((moves_transmit hup).bounded hinv.bounded) (line_transmit hup hok)
  | lose =>
    cases hs
    exact hinv.up hinv.bounded rfl
  | stopWriter =>
    obtain ⟨up, hup, rfl⟩ := map_eq_some_iff.mp hs
    obtain ⟨-, ⟨⟩⟩ := ite_none_left_eq_some.mp hup
    exact hinv.up hinv.bounded rfl
  | discard c =>
    obtain ⟨up, hup, rfl⟩ := map_eq_some_iff.mp hs
    exact hinv.up ((moves_discard hup).bounded hinv.bounded) (line_discard hup hok)
  | register c =>
    obtain ⟨-, ⟨⟩⟩ := ite_none_right_eq_some.mp hs
    exact hinv.frame ⟨rfl, rfl⟩ fun _ => moves_of_eq rfl
  | unregister =>
    cases hs
    exact hinv.frame ⟨rfl, rfl⟩ fun _ => moves_of_eq rfl
  | receivePush ok =>
    obtain ⟨rfl, hf⟩ := hok
    simp only [ContextSync.step] at hs
    split at hs
    · grind [hinv.receivePush]
    · cases hs
  | receiveUpload c newID ok =>
    obtain ⟨rfl, rfl, hu⟩ := hok
    obtain ⟨⟨file, up⟩, hre, rfl⟩ := map_eq_some_iff.mp hs
    have hr := receives_of_receive hre
    exact hinv.receiveUpload hr (hu file (by rw [hr.wire]; rfl))

/-- The satellite is connected, and no update, push or event is pending. -/
structure Quiet (s : ContextSync Id) : Prop where
  connected : s.up.alive = true
  watcher : ∃ w ∈ s.watcher, w.fsEvents = [] ∧ w.pending.rows = [] ∧ w.flushes = [] ∧
    w.events = [] ∧ w.initial = []
  handlers : s.handlers = []
  down : s.down = []
  queue : s.up.queue = []
  wires : ∀ conn, s.up.wire conn = []

theorem Quiet.atRest (h : s.Quiet) (cfg : SatelliteConfig Id) (path : String) :
    (s.view cfg path).running = true ∧ (s.view cfg path).AtRest := by
  obtain ⟨w, hw, he, hp, hf, hc, hi⟩ := h.watcher
  have hwa : s.watcher = some w := hw
  refine ⟨by simp [view, hwa], ?_, ?_, ?_⟩
  · simp [view, hwa, changed, ContextWatcher.Waiting, he, hp,
      hf]
  · simp [view, line, Uplink.line, hwa, ContextWatcher.line, h.queue, h.wires, hf,
      hc, hi]
  · simp [view, h.handlers, h.down]

/-- **Steady runs.** When nothing is pending the stored files are those on
the disk, and no stored file is of an edit before its last update. -/
theorem synced (cfg : SatelliteConfig Id) (satellites : List Id) (disk : GoMap String String)
    (acts : List (Act Id)) (hok : Along (step cfg) (Steady cfg) (start satellites disk) acts)
    (hrun : run (step cfg) (start satellites disk) acts = some s) :
    (s.Quiet → ∀ path, s.stored cfg path = s.onDisk path) ∧
      ∀ path, s.updatedAt path ≤ s.storedAt path := by
  have hinv := run_invariant_along (fun _ _ _ => Inv.step) (inv_start cfg satellites disk) hok hrun
  refine ⟨fun hq path => ?_, fun path => (hinv.sound path).kept⟩
  obtain ⟨hr, hre⟩ := hq.atRest cfg path
  exact (hinv.sound path).stored_eq_copy hr hre

def oneSatellite : SatelliteConfig Nat :=
  { satelliteID := 1, modifiedBy := "local:1", standardFiles := [] }

def uploaded : List (Act Nat) :=
  [.edit "notes.md" "old", .startDaemon [("notes.md", "old")], .connect, .register 1,
    .sendInitial 256, .transmit, .receiveUpload 1 7 true]

def updated : List (Act Nat) :=
  [.update 7 "new", .push 0 true, .receivePush true, .notice, .fire, .read 0 "notes.md", .emit 0,
    .drain 256, .transmit, .receiveUpload 1 8 true]

def updatedAway : List (Act Nat) :=
  [.lose, .stopWriter, .unregister, .update 7 "new", .push 0 true, .connect, .register 2]

def restarted : List (Act Nat) :=
  [.stopDaemon, .startDaemon [("notes.md", "old")], .connect, .register 3, .sendInitial 256,
    .transmit, .receiveUpload 3 8 true]

theorem synced_updated :
    ∃ s, run (step oneSatellite) (start [1] .empty) (uploaded ++ updated) = some s ∧ s.Quiet ∧
      s.stored oneSatellite "notes.md" = some "new" ∧
      ∀ path, s.stored oneSatellite path = s.onDisk path := by
  refine ⟨_, rfl, ?_⟩
  refine (fun hq => ⟨hq, rfl, (synced oneSatellite [1] .empty (uploaded ++ updated) (by decide)
    rfl).1 hq⟩) ?_
  refine ⟨rfl, ⟨_, rfl, rfl, rfl, rfl, rfl, rfl⟩, rfl, rfl, rfl, fun conn => ?_⟩
  match conn with
  | 0 => rfl
  | 1 => rfl
  | _ + 2 => rfl

/-- **Lost updates.** An update while the satellite is away is not pushed
when it is back, and its next start overwrites it with what was there
before. -/
theorem update_away_lost :
    (∃ s, run (step oneSatellite) (start [1] .empty) (uploaded ++ updatedAway) = some s ∧
      s.Quiet ∧ s.stored oneSatellite "notes.md" = some "new" ∧
      s.onDisk "notes.md" = some "old") ∧
    ∃ s, run (step oneSatellite) (start [1] .empty) (uploaded ++ updatedAway ++ restarted)
      = some s ∧
      s.Quiet ∧ s.stored oneSatellite "notes.md" = some "old" ∧
      s.storedAt "notes.md" < s.updatedAt "notes.md" := by
  refine ⟨⟨_, rfl, ⟨rfl, ⟨_, rfl, rfl, rfl, rfl, rfl, rfl⟩, rfl, rfl, rfl, fun conn => ?_⟩,
    rfl, rfl⟩,
    ⟨_, rfl, ⟨rfl, ⟨_, rfl, rfl, rfl, rfl, rfl, rfl⟩, rfl, rfl, rfl, fun conn => ?_⟩, rfl,
      by decide⟩⟩
  · match conn with
    | 0 => rfl
    | 1 => rfl
    | _ + 2 => rfl
  match conn with
  | 0 => rfl
  | 1 => rfl
  | 2 => rfl
  | 3 => rfl
  | _ + 4 => rfl

end ContextSync

end Daao.Daemon

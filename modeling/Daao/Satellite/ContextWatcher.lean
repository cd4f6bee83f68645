/-
Daao.Satellite.ContextWatcher — the events that the watcher of the context
directory emits (`loop` in `internal/satellite/context_watcher.go`).

Every operation on a file is reported, and the loop notes the file in
`pending` and sets the timer anew. When the timer fires a flush starts on a
goroutine of its own: it takes the whole map, then reads one file after the
other and emits what it has read. A map is the list of its writes; the last
one of a key counts. The channel of events never fills.
-/
import Daao.Lib.GoMap
import Daao.Lib.Trace

namespace Daao.Satellite.ContextWatcher

open Daao.Lib List

/-- A flush that has taken the map: the files it has not come to, with
whether they were deleted, and what it has read and not sent. A content
that is `none` is a deletion. -/
structure Flush (Name Content : Type) where
  left : List (Name × Bool)
  read : Option (Name × Option Content)

structure Watcher (Name Content : Type) where
  disk : Name → Option Content
  changed : List Name
  fsEvents : List (Name × Bool)
  pending : List (Name × Bool)
  timer : Bool
  /-- the flushes that have not taken the map -/
  started : Nat
  flushes : List (Flush Name Content)
  emitted : List (Name × Option Content)

variable {Name Content : Type} [DecidableEq Name]

def start (disk : Name → Option Content) : Watcher Name Content :=
  { disk := disk, changed := [], fsEvents := [], pending := [], timer := false, started := 0
    flushes := [], emitted := [] }

inductive Act (Name Content : Type) where
  /-- a file is created or written -/
  | write (name : Name) (content : Content)
  | remove (name : Name)
  | rename (old new : Name)
  | notice
  | timeout
  | take
  | read (i : Nat) (name : Name)
  | emit (i : Nat)
  | finish (i : Nat)

/-- The file system reports a change. -/
def Watcher.touch (s : Watcher Name Content) (name : Name) (content : Option Content) :
    Watcher Name Content :=
  { s with
    disk := Function.update s.disk name content, changed := name :: s.changed
    fsEvents := s.fsEvents ++ [(name, content.isNone)] }

variable (isMDFile : Name → Bool)

def step (s : Watcher Name Content) : Act Name Content → Option (Watcher Name Content)
  | .write name content => some (s.touch name (some content))
  | .remove name => (s.disk name).map fun _ => s.touch name none
  | .rename old new =>
    (s.disk old).map fun content =>
      if old = new then s else (s.touch old none).touch new (some content)
  | .notice =>
    match s.fsEvents with
    | [] => none
    | event :: rest =>
      if isMDFile event.1 then
        some { s with fsEvents := rest, pending := s.pending ++ [event], timer := true }
      else some { s with fsEvents := rest }
  | .timeout => if s.timer then some { s with timer := false, started := s.started + 1 } else none
  | .take =>
    if 0 < s.started then
      some { s with
        started := s.started - 1, pending := [], flushes := s.flushes ++ [⟨s.pending, none⟩] }
    else none
  | .read i name =>
    match s.flushes[i]? with
    | some ⟨left, none⟩ =>
      (lastEntry name left).map fun deleted =>
        let read := if deleted then some (name, none) else (s.disk name).map fun c => (name, some c)
        { s with flushes := s.flushes.set i ⟨left.filter (·.1 ≠ name), read⟩ }
    | _ => none
  | .emit i =>
    match s.flushes[i]? with
    | some ⟨left, some event⟩ =>
      some { s with flushes := s.flushes.set i ⟨left, none⟩, emitted := s.emitted ++ [event] }
    | _ => none
  | .finish i =>
    match s.flushes[i]? with
    | some ⟨[], none⟩ => some { s with flushes := s.flushes.eraseIdx i }
    | _ => none

/-- No flush takes the map while another one is at work. -/
def apart (s : Watcher Name Content) : Act Name Content → Bool
  | .take => s.flushes.isEmpty
  | _ => true

/-- Nothing is outstanding. -/
structure Quiet (s : Watcher Name Content) : Prop where
  fsEvents : s.fsEvents = []
  timer : s.timer = false
  started : s.started = 0
  flushes : s.flushes = []

/-- What is noted of the files and not yet read, oldest first. -/
def Watcher.line (s : Watcher Name Content) : List (Name × Bool) :=
  s.flushes.flatMap Flush.left ++ (s.pending ++ s.fsEvents)

def Watcher.sent (s : Watcher Name Content) : List (Name × Option Content) :=
  s.emitted ++ s.flushes.filterMap Flush.read

/-- What is noted last of a file is whether it exists; of one that is not
noted the last event carries the content. -/
def Fresh (s : Watcher Name Content) (name : Name) : Prop :=
  match lastEntry name s.line with
  | some deleted => deleted = (s.disk name).isNone
  | none => name ∈ s.changed → lastEntry name s.sent = some (s.disk name)

structure Inv (s : Watcher Name Content) : Prop where
  one : s.flushes.length ≤ 1
  armed : s.pending = [] ∨ s.timer = true ∨ 0 < s.started
  fresh : ∀ name, isMDFile name = true → Fresh s name

variable {isMDFile} {s s' : Watcher Name Content} {i : Nat} {f : Flush Name Content}

theorem Inv.only (h : Inv isMDFile s) (hf : s.flushes[i]? = some f) : s.flushes = [f] ∧ i = 0 := by
  have ho := h.one
  match hfl : s.flushes, i with
  | [_], 0 => simp_all
  | [], _ | [_], _ + 1 => simp [hfl] at hf
  | _ :: _ :: _, _ => simp [hfl] at ho

open Watcher

theorem Inv.touch (h : Inv isMDFile s) (a : Name) (c : Option Content) :
    Inv isMDFile (s.touch a c) := by
  refine { h with fresh := fun n' hmd => ?_ }
  have hf := h.fresh n' hmd
  by_cases hn : n' = a
  · subst hn
    simp [Fresh, line, Watcher.touch, lastEntry]
  · simpa [Fresh, line, sent, Watcher.touch, lastEntry, hn] using hf

theorem lastEntry_filter_ne {V : Type} {a n' : Name} (entries : List (Name × V)) :
    lastEntry n' (entries.filter (·.1 ≠ a))
      = if n' = a then none else lastEntry n' entries := by
  induction entries with
  | nil => simp [lastEntry]
  | cons e r ih => grind [lastEntry]

theorem inv_step {a : Act Name Content} (h : Inv isMDFile s) (ha : apart s a = true)
    (hs : step isMDFile s a = some s') : Inv isMDFile s' := by
  cases a <;> simp only [step] at hs
  case write name c =>
    cases hs
    exact h.touch name (some c)
  case remove name =>
    obtain ⟨-, -, rfl⟩ := Option.map_eq_some_iff.mp hs
    exact h.touch name none
  case rename old new =>
    obtain ⟨c, -, rfl⟩ := Option.map_eq_some_iff.mp hs
    split
    · exact h
    · exact (h.touch old none).touch new (some c)
  case notice =>
    split at hs
    · cases hs
    rename_i e r he
    split at hs <;> cases hs
    · refine ⟨h.one, .inr (.inl rfl), fun name hmd => ?_⟩
      simpa [Fresh, line, sent, he] using h.fresh name hmd
    rename_i hno
    refine { h with fresh := fun name hmd => ?_ }
    have hne : name ≠ e.1 := fun heq => hno (heq ▸ hmd)
    simpa [Fresh, line, sent, he, lastEntry, hne] using h.fresh name hmd
  case timeout =>
    split at hs <;> cases hs
    exact { h with armed := .inr (.inr (Nat.succ_pos _)) }
  case take =>
    split at hs <;> cases hs
    have hn : s.flushes = [] := isEmpty_iff.mp ha
    refine ⟨by simp [hn], .inl rfl, fun name hmd => ?_⟩
    simpa [Fresh, line, sent, hn] using h.fresh name hmd
  case read i name =>
    split at hs
    case h_2 => cases hs
    rename_i left hf
    obtain ⟨deleted, hde, rfl⟩ := Option.map_eq_some_iff.mp hs
    obtain ⟨ho, rfl⟩ := h.only hf
    refine ⟨by simp [ho], h.armed, fun name' hmd => ?_⟩
    have hfr := h.fresh name' hmd
    simp only [Fresh, line, sent, ho, flatMap_cons, flatMap_nil, filterMap_cons,
      filterMap_nil, append_nil, set_cons_zero, lastEntry_append, lastEntry_filter_ne] at hfr ⊢
    by_cases hna : name' = name
    · subst hna
      -- what is noted since is what counts, and else what is noted here is still so
      cases hl : (lastEntry name' s.fsEvents).or (lastEntry name' s.pending) with
      | some t => simpa [hl] using hfr
      | none =>
        simp only [hl, hde, Option.none_or] at hfr
        cases hd : s.disk name' <;> simp [hfr, hd, lastEntry]
    · cases deleted <;> cases hd : s.disk name <;> simpa [hna, lastEntry] using hfr
  case emit i | finish i =>
    split at hs <;> cases hs
    rename_i hf
    obtain ⟨ho, rfl⟩ := h.only hf
    refine ⟨by simp [ho], h.armed, fun name hmd => ?_⟩
    simpa [Fresh, line, sent, ho] using h.fresh name hmd

variable (isMDFile) in
/-- If no flush takes the map while another is at work, then once nothing is
outstanding the last event of a file that changed carries its content, or
is a deletion if it is gone. -/
theorem last_event_final (disk : Name → Option Content) (acts : List (Act Name Content))
    (hapart : Along (step isMDFile) (fun s a => apart s a = true) (start disk) acts)
    (hrun : run (step isMDFile) (start disk) acts = some s) (hquiet : Quiet s) (name : Name)
    (hchanged : name ∈ s.changed) (hmd : isMDFile name = true) :
    lastEntry name s.emitted = some (s.disk name) := by
  have hs : Inv isMDFile (start disk) :=
    ⟨by simp [start], .inl rfl, fun name _ => by simp [Fresh, line, start, lastEntry]⟩
  have h := run_invariant_along (fun _ _ _ => inv_step) hs hapart hrun
  have hp : s.pending = [] := by
    have ha := h.armed
    simpa [hquiet.timer, hquiet.started] using ha
  have hf := h.fresh name hmd
  simp only [Fresh, line, sent, hquiet.flushes, hquiet.fsEvents, hp] at hf
  simpa [lastEntry, hchanged] using hf

def renamed : List (Act Bool Nat) :=
  [.write true 1, .notice, .timeout, .rename true false, .notice, .notice, .take, .read 0 true,
    .emit 0, .read 0 false, .emit 0, .finish 0, .timeout, .take, .finish 0]

theorem last_event_final_renamed :
    ∃ s, run (step fun _ => true) (start fun _ => none) renamed = some s ∧
      ∀ name, lastEntry name s.emitted = some (s.disk name) :=
  ⟨_, rfl, fun name => last_event_final (fun _ => true) (fun _ => none) renamed (by decide) rfl
    ⟨rfl, rfl, rfl, rfl⟩ name (by cases name <;> decide) rfl⟩

/-- A file of which 1 is read and 2 written before 1 is emitted: the second
flush emits 2, and the first one 1 after it. -/
theorem last_event_stale :
    ∃ s, run (step fun _ => true) (start fun _ : Unit => none)
        [.write () 1, .notice, .timeout, .take, .read 0 (), .write () 2, .notice, .timeout, .take,
          .read 1 (), .emit 1, .finish 1, .emit 0, .finish 0] = some s ∧
      Quiet s ∧ s.disk () = some 2 ∧ lastEntry () s.emitted = some (some 1) :=
  ⟨_, rfl, ⟨rfl, rfl, rfl, rfl⟩, rfl, rfl⟩

end Daao.Satellite.ContextWatcher

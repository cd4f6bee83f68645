/-
Daao.Recording.PoolTheorems — when the pool, the files and the rows of the
recordings agree.

They do not agree by themselves. A recording that is started under another
spelling of the session id is a second one, and gets no data. A stop request
closes every open row of the session: also that of a recording which was
started after the stop, and those a restart has left. A row that is
inserted after its recording was stopped stays open.

If it is done with care, each session has a `Stage`, and a request moves one
session on (`Tracks.moves`).
-/
import Daao.Recording.Pool

namespace Daao.Recording

open Daao.Lib Option Function

variable {n m : Nat} {Id Rec : Type}

/-! ## 1. Rows and files -/

open Table

theorem RecordingRows.find?_stop [DecidableEq Id] [DecidableEq Rec] (t : RecordingRows Id Rec)
    (id : Id) (durationMs sizeBytes now : Nat) (recordingID : Rec) :
    find? (t.stop id durationMs sizeBytes now) recordingID
      = (find? t recordingID).map fun row =>
        if row.sessionID = some id ∧ row.stoppedAt = none then row.stop durationMs sizeBytes now
        else row := by
  rw [stop, find?_modifyWhere]
  simp

namespace Cast

@[simp] theorem sessionID_write (cast : Cast) (chunk : Chunk) :
    (cast.write chunk).sessionID = cast.sessionID := by
  unfold write
  split <;> rfl

@[simp] theorem closed_write (cast : Cast) (chunk : Chunk) :
    (cast.write chunk).closed = cast.closed := by
  unfold write
  split <;> rfl

variable {cast : Cast}

theorem write_of_closed (h : cast.closed = true) (chunk : Chunk) : cast.write chunk = cast := by
  simp [write, h]

theorem events_write_of_open (h : cast.closed = false) (chunk : Chunk) :
    (cast.write chunk).events = cast.events ++ [chunk] := by
  simp [write, h]

theorem events_subset_write (cast : Cast) (chunk : Chunk) :
    cast.events ⊆ (cast.write chunk).events := by
  unfold write
  split
  · exact List.Subset.refl _
  · exact List.subset_append_left ..

theorem close_of_open (h : cast.closed = false) (w : Nat) :
    cast.close w = ({ cast with closed := true }, w - cast.startTime, cast.totalBytes) := by
  simp [close, h]

end Cast

/-! ## 2. The life of a recording -/

/-- How far a session's recording has got, and which request is to go on
with it. -/
inductive Stage (n : Nat) (Rec : Type) where
  | absent
  | inserting (r : Fin n) (recordingID : Rec)
  | recording (recordingID : Rec)
  | closing (r : Fin n) (recordingID : Rec)
  | updating (r : Fin n) (recordingID : Rec) (sizeBytes : Nat)

namespace Stage

def recordingID : Stage n Rec → Option Rec
  | .absent => none
  | .inserting _ rec | .recording rec | .closing _ rec | .updating _ rec _ => some rec

def pooled : Stage n Rec → Option Rec
  | .inserting _ rec | .recording rec => some rec
  | _ => none

def stops : Stage n Rec → Option Rec
  | .closing _ rec | .updating _ rec _ => some rec
  | _ => none

def owner : Stage n Rec → Option (Fin n)
  | .inserting r _ | .closing r _ | .updating r _ _ => some r
  | _ => none

def HasFile (key : String) (cast : Cast) : Stage n Rec → Prop
  | .absent => True
  | .inserting _ _ | .recording _ => cast.sessionID = key ∧ cast.closed = false
  | .closing _ _ => cast.closed = false
  | .updating _ _ sizeBytes => cast.closed = true ∧ cast.totalBytes = sizeBytes

def HasRow (id : Id) : Option (RecordingRow Id Rec) → Stage n Rec → Prop
  | row, .inserting _ _ => row = none
  | row, _ => ∃ r ∈ row, r.sessionID = some id ∧ r.stoppedAt = none

theorem recordingID_of_pooled {st : Stage n Rec} {rec : Rec} (h : st.pooled = some rec) :
    st.recordingID = some rec := by
  cases st <;> first | exact h | cases h

theorem recordingID_of_stops {st : Stage n Rec} {rec : Rec} (h : st.stops = some rec) :
    st.recordingID = some rec := by
  cases st <;> first | exact h | cases h

end Stage

namespace Request

/-- What a request has in hand. -/
def stage (r : Fin n) : Request Id Rec → Option (Id × Stage n Rec)
  | .inserting rec id => some (id, .inserting r rec)
  | .closing rec id => some (id, .closing r rec)
  | .updating rec id _ sizeBytes => some (id, .updating r rec sizeBytes)
  | _ => none

variable {q : Request Id Rec} {r : Fin n} {id : Id} {st : Stage n Rec}

theorem owner_of_stage (h : q.stage r = some (id, st)) : st.owner = some r := by
  cases q <;> cases h <;> rfl

theorem stopping_of_stage {rec : Rec} (h : q.stage r = some (id, st)) (hst : st.stops = some rec) :
    q.stopping = some (rec, id) := by
  cases q <;> cases h <;> cases hst <;> rfl

end Request

namespace Recorder

variable {parse : String → Option Id} {text : Id → String} {s s' : Recorder n m Id Rec}
  {r : Fin n} {q : Request Id Rec} {rec : Rec} {id : Id}

@[simp] theorem requests_setRequest (s : Recorder n m Id Rec) (r r' : Fin n) (q : Request Id Rec) :
    (s.setRequest r q).requests r' = if r' = r then q else s.requests r' := by
  simp [setRequest, update_apply]

@[simp] theorem taps_setTap (s : Recorder n m Id Rec) (c c' : Fin m) (t : Tap Rec) :
    (s.setTap c t).taps c' = if c' = c then t else s.taps c' := by
  simp [setTap, update_apply]

variable [DecidableEq Rec]

/-- The pool, the requests, the files and the rows are where the stages of
the sessions' recordings put them. -/
structure Tracks (text : Id → String) (s : Recorder n m Id Rec) (stage : Id → Stage n Rec) :
    Prop where
  pool : ∀ id, s.writers (text id) = (stage id).pooled
  keys : ∀ key, s.writers key ≠ none → ∃ id, key = text id
  request : ∀ r id st, (s.requests r).stage r = some (id, st) → stage id = st
  owner : ∀ id r, (stage id).owner = some r → (s.requests r).stage r = some (id, stage id)
  session : ∀ id id' rec, (stage id).recordingID = some rec → (stage id').recordingID = some rec →
    id = id'
  file : ∀ id rec, (stage id).recordingID = some rec →
    ∃ cast, s.casts rec = some cast ∧ (stage id).HasFile (text id) cast
  row : ∀ id rec, (stage id).recordingID = some rec →
    (stage id).HasRow id (Table.find? s.rows rec)
  opened : ∀ rec row, Table.find? s.rows rec = some row → row.stoppedAt = none →
    ∃ id, (stage id).recordingID = some rec
  files : ∀ rec, (Table.find? s.rows rec).isSome → (s.casts rec).isSome
  entries : ∀ rec ∈ s.entries, (Table.find? s.rows rec).isSome

theorem tracks_absent (hw : ∀ key, s.writers key = none)
    (hr : ∀ r, s.requests r = .idle) (hro : ∀ row ∈ s.rows.rows, row.stoppedAt ≠ none)
    (hf : ∀ rec, (find? s.rows rec).isSome → (s.casts rec).isSome)
    (he : s.entries = []) : s.Tracks text fun _ => .absent where
  pool _ := hw _
  keys key h := absurd (hw key) h
  request r _ _ h := by
    rw [hr] at h
    cases h
  owner _ _ h := by cases h
  session _ _ _ h := by cases h
  file _ _ h := by cases h
  row _ _ h := by cases h
  opened _ row hrw hn := absurd hn (hro row (mem_of_find? hrw))
  files := hf
  entries := by simp [he]

variable {stage : Id → Stage n Rec}

/-- A step that leaves every recording at its stage. -/
theorem Tracks.congr (h : s.Tracks text stage) (hw : s'.writers = s.writers)
    (hr : s'.rows = s.rows) (hre : ∀ r, (s'.requests r).stage r = (s.requests r).stage r)
    (hca : ∀ rec cast, s.casts rec = some cast → ∃ a', s'.casts rec = some a' ∧
      ∀ (st : Stage n Rec) key, st.HasFile key cast → st.HasFile key a')
    (he : ∀ rec ∈ s'.entries, (find? s.rows rec).isSome) : s'.Tracks text stage where
  pool := by simpa only [hw] using h.pool
  keys := by simpa only [hw] using h.keys
  request := by simpa only [hre] using h.request
  owner := by simpa only [hre] using h.owner
  session := h.session
  file id rec hrc := by
    obtain ⟨cast, hc, hf⟩ := h.file id rec hrc
    obtain ⟨a', hc', hk⟩ := hca rec cast hc
    exact ⟨a', hc', hk _ _ hf⟩
  row := by simpa only [hr] using h.row
  opened := by simpa only [hr] using h.opened
  files rec hro := by
    rw [hr] at hro
    obtain ⟨cast, hc⟩ := isSome_iff_exists.mp (h.files rec hro)
    obtain ⟨a', hc', -⟩ := hca rec cast hc
    exact isSome_iff_exists.mpr ⟨a', hc'⟩
  entries := by simpa only [hr] using he

theorem Tracks.setRequest (h : s.Tracks text stage) (hq : q.stage r = (s.requests r).stage r) :
    (s.setRequest r q).Tracks text stage := by
  refine h.congr rfl rfl (fun r' => ?_) (fun _ cast hc => ⟨cast, hc, fun _ _ => id⟩) h.entries
  rw [requests_setRequest]
  split
  · rename_i heq
    rw [heq, hq]
  · rfl

/-- A request that moves the recording of one session on, and touches
nothing else. -/
structure Moves (text : Id → String) (s s' : Recorder n m Id Rec) (r : Fin n) (q : Request Id Rec)
    (id : Id) (rec : Rec) (st st' : Stage n Rec) : Prop where
  before : (s.requests r).stage r = st.owner.map fun _ => (id, st)
  after : q.stage r = st'.owner.map fun _ => (id, st') := by rfl
  requests : s'.requests = Function.update s.requests r q
  same : ∀ rec' ∈ st.recordingID, rec' = rec := by simp [Stage.recordingID]
  pool : s'.writers (text id) = st'.pooled
  writers : ∀ key, key ≠ text id → s'.writers key = s.writers key := by intros; rfl
  file : ∃ cast, s'.casts rec = some cast ∧ st'.HasFile (text id) cast
  casts : ∀ rec', rec' ≠ rec → s'.casts rec' = s.casts rec' := by intros; rfl
  row : st'.recordingID = some rec ∧ st'.HasRow id (Table.find? s'.rows rec) ∨
    st' = .absent ∧ ∀ row ∈ Table.find? s'.rows rec, row.stoppedAt ≠ none
  rows : ∀ rec', rec' ≠ rec → Table.find? s'.rows rec' = Table.find? s.rows rec' := by intros; rfl
  entries : s'.entries = s.entries := by rfl
  found : (Table.find? s.rows rec).isSome → (Table.find? s'.rows rec).isSome := by exact fun h => h

/-- A request brings its session from one stage to another. -/
theorem Tracks.moves {st : Stage n Rec} (st' : Stage n Rec) [DecidableEq Id]
    (htext : ∀ id, parse (text id) = some id) (h : s.Tracks text stage) (hst : stage id = st)
    (ho : ∀ id', id' ≠ id → (stage id').recordingID ≠ some rec)
    (hm : Moves text s s' r q id rec st st') :
    s'.Tracks text (update stage id st') := by
  subst hst
  have hre : ∀ r', r' ≠ r → s'.requests r' = s.requests r' := fun r' hne => by
    rw [hm.requests, update_of_ne hne]
  have haf : (s'.requests r).stage r = st'.owner.map fun _ => (id, st') := by
    rw [hm.requests, update_self, hm.after]
  -- a stage has no owner but the request
  have hmi : ∀ {q' : Request Id Rec} {st : Stage n Rec} {r' : Fin n},
      (q'.stage r = st.owner.map fun _ => (id, st)) → st.owner = some r' → r' = r := by
    intro q' st r' hq' hr'
    rw [hr', map_some] at hq'
    exact some.inj (hr'.symm.trans (Request.owner_of_stage hq'))
  have hc : ∀ id' rec', (update stage id st' id').recordingID = some rec' →
      (id' = id ∧ rec' = rec) ∨ (id' ≠ id ∧ rec' ≠ rec ∧ (stage id').recordingID = some rec') := by
    intro id' rec' hrc
    by_cases hid : id' = id
    · rw [hid, update_self] at hrc
      refine .inl ⟨hid, ?_⟩
      obtain ⟨hs, -⟩ | ⟨ha, -⟩ := hm.row
      · exact some.inj (hrc.symm.trans hs)
      rw [ha] at hrc
      cases hrc
    · grind
  constructor
  case pool => grind [hm.pool, hm.writers, h.pool]
  case keys => grind [hm.writers, h.keys]
  case request =>
    intro r' id' st hr'
    by_cases hr : r' = r
    · simp_all
    rw [hre r' hr] at hr'
    have hst := h.request r' id' st hr'
    have hid : id' ≠ id := by
      rintro rfl
      exact hr (hmi hm.before (hst ▸ Request.owner_of_stage hr'))
    rw [update_of_ne hid, hst]
  case owner => grind [h.owner, hm.before, update_of_ne, map_eq_some_iff]
  case session => grind [h.session]
  case file => grind [hm.file, hm.casts, h.file]
  case row =>
    intro id' rec' hrc
    obtain ⟨rfl, rfl⟩ | ⟨hid, hne, hold⟩ := hc id' rec' hrc
    · rw [update_self] at hrc ⊢
      obtain ⟨-, hro⟩ | ⟨ha, -⟩ := hm.row
      · exact hro
      rw [ha] at hrc
      cases hrc
    rw [update_of_ne hid, hm.rows rec' hne]
    exact h.row id' rec' hold
  case opened =>
    intro rec' row hro hn
    by_cases heq : rec' = rec
    · subst heq
      refine ⟨id, ?_⟩
      rw [update_self]
      exact (hm.row.resolve_right fun ha => ha.2 row hro hn).1
    rw [hm.rows rec' heq] at hro
    obtain ⟨id', hold⟩ := h.opened rec' row hro hn
    have hid : id' ≠ id := by
      rintro rfl
      exact heq (hm.same rec' hold)
    exact ⟨id', by rwa [update_of_ne hid]⟩
  case files =>
    intro rec' hro
    by_cases heq : rec' = rec
    · obtain ⟨cast, hca, -⟩ := hm.file
      rw [heq, hca]
      rfl
    rw [hm.rows rec' heq] at hro
    rw [hm.casts rec' heq]
    exact h.files rec' hro
  case entries =>
    intro rec' he
    rw [hm.entries] at he
    by_cases heq : rec' = rec
    · subst heq
      exact hm.found (h.entries rec' he)
    rw [hm.rows rec' heq]
    exact h.entries rec' he

/-! ## 3. What the stages say -/

open Stage

section

variable (h : s.Tracks text stage)

include h

theorem Tracks.others (hid : (stage id).recordingID = some rec) (id' : Id) (hne : id' ≠ id) :
    (stage id').recordingID ≠ some rec :=
  fun hid' => hne (h.session id' id rec hid' hid)

theorem Tracks.stops_of_stopping (hr : (s.requests r).stopping = some (rec, id)) :
    (stage id).stops = some rec := by
  cases hq : s.requests r <;> rw [hq] at hr <;> cases hr <;>
    rw [h.request r id _ (by rw [hq]; rfl)] <;> rfl

theorem Tracks.stopping_of_stops (hid : (stage id).stops = some rec) :
    ∃ r, (s.requests r).stopping = some (rec, id) := by
  obtain ⟨r, hr⟩ : ∃ r, (stage id).owner = some r := by
    cases hst : stage id <;> rw [hst] at hid <;> cases hid <;> exact ⟨_, rfl⟩
  exact ⟨r, Request.stopping_of_stage (h.owner id r hr) hid⟩

theorem Tracks.inserts_of_inserting (hst : stage id = .inserting r rec) :
    (s.requests r).inserts = some (rec, id) := by
  have ho := h.owner id r (by rw [hst]; rfl)
  rw [hst] at ho
  cases hq : s.requests r <;> rw [hq] at ho <;> cases ho
  rfl

/-- The row of a recording that is under way is open, and no request is
about to insert it. -/
theorem Tracks.row_of_recording {row : RecordingRow Id Rec}
    (hid : (stage id).recordingID = some rec)
    (hr : find? s.rows rec = some row) :
    row.sessionID = some id ∧ row.stoppedAt = none ∧
      ((stage id).pooled = some rec ∨ (stage id).stops = some rec) := by
  have hv := h.row id rec hid
  cases hst : stage id <;> simp_all [Stage.HasRow, recordingID, pooled, stops]

variable [DecidableEq Id] (htext : ∀ id, parse (text id) = some id)

include htext

theorem Tracks.isActiveFor_iff :
    s.isActiveFor parse rec id = true ↔ (stage id).pooled = some rec := by
  unfold isActiveFor
  constructor
  · grind [h.keys, h.pool]
  intro hp
  obtain ⟨cast, hc, hf⟩ := h.file id rec (recordingID_of_pooled hp)
  have hk : cast.sessionID = text id := by
    cases hst : stage id <;> rw [hst] at hp hf <;> first | exact hf.1 | cases hp
  simp [hc, hk, h.pool, hp, htext]

theorem Tracks.isActive_iff {w : RecordingRow Id Rec} (hro : find? s.rows rec = some w) :
    w.stoppedAt = none ↔ s.IsActive parse rec := by
  constructor
  · intro hn
    obtain ⟨id, hid⟩ := h.opened rec w hro hn
    obtain ⟨-, -, hp | hs⟩ := h.row_of_recording hid hro
    · exact .inl ⟨id, (h.isActiveFor_iff htext).mpr hp⟩
    obtain ⟨r, hr⟩ := h.stopping_of_stops hs
    exact .inr ⟨r, id, hr⟩
  rintro (⟨id, ha⟩ | ⟨r, id, hr⟩)
  · have hp := (h.isActiveFor_iff htext).mp ha
    exact (h.row_of_recording (recordingID_of_pooled hp) hro).2.1
  have hs := h.stops_of_stopping hr
  exact (h.row_of_recording (recordingID_of_stops hs) hro).2.1

end

/-! ## 4. The data -/

/-- The data is in the hands of a connection that will write it to the
recording. -/
def IsComing (s : Recorder n m Id Rec) (rec : Rec) (chunk : Chunk) : Prop :=
  ∃ key, s.writers key = some rec ∧
    ∃ c, s.taps c = .tapping key chunk ∨ s.taps c = .writing rec chunk

def Owed (s : Recorder n m Id Rec) : Prop :=
  ∀ rec, ∀ chunk ∈ s.owed rec, chunk ∈ s.recorded rec ∨ s.IsComing rec chunk

section Data

variable {c : Fin m} {chunk : Chunk}

omit [DecidableEq Rec] in
theorem recorded_subset (hcs : ∀ cast, s.casts rec = some cast →
      ∃ a', s'.casts rec = some a' ∧ cast.events ⊆ a'.events) :
    s.recorded rec ⊆ s'.recorded rec := by
  intro chunk hc
  simp only [recorded] at hc ⊢
  cases hca : s.casts rec with
  | none => simp [hca] at hc
  | some cast => grind

/-- The step of a request. A recording may leave the pool when no
connection has data for it. -/
theorem Owed.congr [DecidableEq Id] (parse : String → Option Id) (h : s.Owed)
    (ho : s'.owed = s.owed)
    (ht : s'.taps = s.taps)
    (hca : ∀ rec cast, s.casts rec = some cast →
      ∃ a', s'.casts rec = some a' ∧ cast.events ⊆ a'.events)
    (hw : ∀ k rec, s.writers k = some rec →
      s'.writers k = some rec ∨ ∀ c, s.isTapped parse k (s.taps c) = false) : s'.Owed := by
  intro rec chunk hch
  rw [ho] at hch
  refine (h rec chunk hch).imp (fun hold => recorded_subset (hca rec) hold) ?_
  rintro ⟨k, hk, c, hc⟩
  refine ⟨k, (hw k rec hk).resolve_right fun hq => ?_, c, by rwa [ht]⟩
  have hta := hq c
  obtain hc | hc := hc <;> rw [hc] at hta <;> simp [isTapped, hk] at hta

theorem owed_receive [DecidableEq Id] (htext : ∀ id, parse (text id) = some id)
    (h : s.Tracks text stage) (ho : s.Owed) {i : String} (ht : s.taps c = .receiving)
    (hs : ∀ id ∈ parse i, (s.writers (text id)).isSome → i = text id) :
    { s.setTap c (.tapping i chunk) with
      received := s.received + 1
      owed := fun rec =>
        if (parse i).any (s.isActiveFor parse rec) then s.owed rec ++ [chunk]
        else s.owed rec }.Owed := by
  intro rec chunk' hch
  -- what was coming still is: the connection had nothing before
  have hk : chunk' ∈ s.owed rec → chunk' ∈ s.recorded rec ∨
      (s.setTap c (.tapping i chunk)).IsComing rec chunk' := by
    intro hold
    refine (ho rec chunk' hold).imp_right fun ⟨k, hke, c', hc'⟩ => ⟨k, hke, c', ?_⟩
    have hne : c' ≠ c := by grind
    rwa [taps_setTap, if_neg hne]
  simp only at hch
  split at hch
  · rename_i ha
    obtain hold | hn := List.mem_append.mp hch
    · exact hk hold
    rw [List.mem_singleton] at hn
    subst hn
    obtain ⟨id, hpa, ha⟩ := (any_eq_true ..).mp ha
    have hp := (h.pool id).trans ((h.isActiveFor_iff htext).mp ha)
    have hke := hs id hpa (by rw [hp]; rfl)
    exact .inr ⟨i, hke ▸ hp, c, .inl (by simp)⟩
  · exact hk hch

omit [DecidableEq Rec] in
theorem owed_lookUp (h : s.Owed) {i : String} (ht : s.taps c = .tapping i chunk) :
    (s.setTap c (match s.writers i with
      | none => .receiving
      | some rec => .writing rec chunk)).Owed := by
  intro rec u' hch
  refine (h rec u' hch).imp_right fun ⟨k, hk, c', hc'⟩ => ⟨k, hk, c', ?_⟩
  by_cases heq : c' = c
  · -- the connection finds the recording the data is for
    subst heq
    rw [ht] at hc'
    obtain hc' | hc' := hc'
    · cases hc'
      exact .inr (by simp [hk])
    · cases hc'
  · rwa [taps_setTap, if_neg heq]

variable (rec) in
theorem write_cases {e' : Rec} {cast : Cast} (chunk : Chunk) (hc : s.casts e' = some cast) :
    ∃ a', update s.casts rec ((s.casts rec).map fun cast => cast.write chunk) e'
      = some a' ∧ (a' = cast ∨ a' = cast.write chunk) := by
  by_cases heq : e' = rec
  · grind
  · grind

theorem owed_write (h : s.Tracks text stage) (ho : s.Owed) (ht : s.taps c = .writing rec chunk) :
    ({ s.setTap c .receiving with
      casts := update s.casts rec ((s.casts rec).map fun cast => cast.write chunk) } :
        Recorder n m Id Rec).Owed := by
  intro e' u' hch
  obtain hr | ⟨k, hk, c', hc'⟩ := ho e' u' hch
  · refine .inl (recorded_subset (fun cast hca => ?_) hr)
    obtain ⟨a', hca', rfl | rfl⟩ := write_cases rec chunk hca
    · grind
    · exact ⟨_, hca', cast.events_subset_write chunk⟩
  by_cases heq : c' = c
  · -- the data that was coming is written to the open file
    subst heq
    rw [ht] at hc'
    obtain hc' | hc' := hc'
    · cases hc'
    cases hc'
    obtain ⟨id, rfl⟩ := h.keys k (hk ▸ some_ne_none rec)
    have hp := (h.pool id).symm.trans hk
    obtain ⟨cast, hca, hf⟩ := h.file id rec (recordingID_of_pooled hp)
    have hop : cast.closed = false := by
      cases hst : stage id <;> rw [hst] at hp hf <;> first | exact hf.2 | cases hp
    exact .inl (by simp [recorded, hca, Cast.events_write_of_open hop])
  · have hs : (s.setTap c .receiving).taps c' = s.taps c' := by rw [taps_setTap, if_neg heq]
    rw [← hs] at hc'
    exact .inr ⟨k, hk, c', hc'⟩

theorem tracks_write (h : s.Tracks text stage) (c : Fin m) (chunk : Chunk) :
    ({ s.setTap c .receiving with
      casts := update s.casts rec ((s.casts rec).map fun cast => cast.write chunk) } :
        Recorder n m Id Rec).Tracks text stage := by
  refine h.congr rfl rfl (fun _ => rfl) (fun e' cast hc => ?_) h.entries
  obtain ⟨a', hc', rfl | rfl⟩ := write_cases rec chunk hc
  · exact ⟨a', hc', fun _ _ => id⟩
  refine ⟨_, hc', fun st k hf => ?_⟩
  cases st
  case updating => rwa [Cast.write_of_closed hf.1]
  all_goals simp_all [Stage.HasFile]

end Data

/-! ## 5. Restarts -/

structure Sound (text : Id → String) (s : Recorder n m Id Rec) : Prop where
  tracks : ∃ stage, s.Tracks text stage
  owed : s.Owed

theorem Tracks.writers_eq_none (h : s.Tracks text stage)
    (hr : ∀ row ∈ s.rows.rows, row.stoppedAt ≠ none)
    (hi : ∀ r, (s.requests r).inserts = none) (k : String) : s.writers k = none := by
  by_contra hs
  obtain ⟨id, rfl⟩ := h.keys k hs
  rw [h.pool] at hs
  cases hst : stage id <;> rw [hst] at hs <;> try exact hs rfl
  · cases (hi _).symm.trans (h.inserts_of_inserting hst)
  obtain ⟨row, hro, -, hn⟩ := hst ▸ h.row id _ (by rw [hst]; rfl)
  exact hr row (mem_of_find? hro) hn

theorem sound_restart (h : s.Sound text) (hr : ∀ w ∈ s.rows.rows, w.stoppedAt ≠ none)
    (hi : ∀ r, (s.requests r).inserts = none) :
    ({ s with
      writers := fun _ => none, requests := fun _ => .idle, taps := fun _ => .receiving
      entries := [] } : Recorder n m Id Rec).Sound text := by
  obtain ⟨⟨stage, ht⟩, ho⟩ := h
  have hl : ∀ rec, ∀ chunk ∈ s.owed rec, chunk ∈ s.recorded rec := by
    intro rec chunk hc
    refine (ho rec chunk hc).resolve_right ?_
    rintro ⟨k, hk, -⟩
    rw [ht.writers_eq_none hr hi] at hk
    cases hk
  exact ⟨⟨fun _ => .absent, tracks_absent (fun _ => rfl) (fun _ => rfl) hr ht.files rfl⟩,
    fun rec chunk hc => .inl (hl rec chunk hc)⟩

theorem insert_of_isSome (w : RecordingRow Id Rec) (ok : Bool)
    (hro : (Table.find? s.rows w.id).isSome) : s.insert w ok = s := by
  have hn : Table.insert s.rows w = none := by
    by_contra hs
    obtain ⟨rows, hr⟩ := ne_none_iff_exists'.mp hs
    rw [(insert_eq_some hr).1] at hro
    cases hro
  unfold insert
  split
  · rw [hn]
    rfl
  · rfl

/-! ## 6. The requests -/

variable [DecidableEq Id]

theorem Sound.agrees (htext : ∀ id, parse (text id) = some id) (h : s.Sound text) :
    s.Agrees parse := by
  obtain ⟨⟨stage, ht⟩, ho⟩ := h
  refine ⟨fun id rec e' ha ha' => ?_, fun rec chunk hch => ?_,
    fun _ _ hr => ht.isActive_iff htext hr⟩
  · grind [ht.isActiveFor_iff]
  refine (ho rec chunk hch).imp_right ?_
  rintro ⟨k, -, c, hc | hc⟩ <;> exact ⟨c, by rw [hc]; rfl⟩

/-- The row of the recording that a request stops is its session's only
open one. -/
theorem Tracks.find?_stop (h : s.Tracks text stage) (hid : (stage id).stops = some rec)
    (durationMs sizeBytes now : Nat) :
    (∃ row, find? s.rows rec = some row ∧
      find? (s.rows.stop id durationMs sizeBytes now) rec
        = some (row.stop durationMs sizeBytes now)) ∧
    ∀ other, other ≠ rec →
      find? (s.rows.stop id durationMs sizeBytes now) other = find? s.rows other := by
  have hre := recordingID_of_stops hid
  obtain ⟨row, hr, hs, hn⟩ :
      ∃ row ∈ find? s.rows rec, row.sessionID = some id ∧ row.stoppedAt = none := by
    have hr := h.row id rec hre
    cases hst : stage id <;> rw [hst] at hid hr <;> first | exact hr | cases hid
  refine ⟨⟨row, hr, ?_⟩, fun other hne => ?_⟩
  · rw [RecordingRows.find?_stop, mem_def.mp hr]
    simp [hn, hs]
  rw [RecordingRows.find?_stop]
  cases ho : find? s.rows other with
  | none => rfl
  | some w' =>
    rw [map_some, if_neg]
    rintro ⟨hs', hn'⟩
    obtain ⟨id', hid'⟩ := h.opened other w' ho hn'
    rw [(h.row_of_recording hid' ho).1, some.injEq] at hs'
    subst hs'
    exact hne (some.inj (hid'.symm.trans hre))

section

variable (htext : ∀ id, parse (text id) = some id)

include htext

section

variable (h : s.Sound text)

include h

theorem sound_startRecording {w : Nat} (hok : s.Careful parse text (.startRecording r rec w))
    (hs : step parse s (.startRecording r rec w) = some s') : s'.Sound text := by
  obtain ⟨⟨stage, ht⟩, ho⟩ := h
  simp only [step] at hs
  split at hs
  · rename_i i id hr
    simp only [ite_none_right_eq_some, some.injEq] at hs
    obtain ⟨hnw, rfl⟩ := hs
    obtain ⟨hk, hso⟩ := hok (i, id) (by rw [hr]; rfl)
    dsimp only at hk hso
    subst hk
    unfold startRecording
    split
    · -- another request has started one
      exact ⟨⟨stage, ht.setRequest (by rw [hr]; rfl)⟩, ho⟩
    rename_i hf
    have ha : stage id = .absent := by
      have hp := (ht.pool id).symm.trans hf
      cases hst : stage id <;> rw [hst] at hp <;> try cases hp
      all_goals
        obtain ⟨r', hr'⟩ := ht.stopping_of_stops (show (stage id).stops = _ by rw [hst]; rfl)
        exact absurd rfl (hso r' _ hr')
    have hn : find? s.rows rec = none := by
      by_contra hro
      have hfi := ht.files rec (isSome_iff_ne_none.mpr hro)
      simp [hnw] at hfi
    refine ⟨⟨_, ht.moves (.inserting r rec) htext ha (fun id' _ hre => ?_)
      { before := by rw [hr]; rfl
        requests := rfl
        pool := update_self ..
        writers := fun k hne => update_of_ne hne ..
        file := ⟨_, update_self .., rfl, rfl⟩
        casts := fun e' hne => update_of_ne hne ..
        row := .inl ⟨rfl, hn⟩ }⟩, ho.congr parse rfl rfl (fun e' cast hca => ?_)
          fun k e' hk => .inl ?_⟩
    · grind [ht.file]
    · grind
    · grind
  · cases hs

theorem sound_insertRow {w : Nat}
    (hs : step parse s (.insertRow r true w) = some s') : s'.Sound text := by
  obtain ⟨⟨stage, ht⟩, ho⟩ := h
  simp only [step] at hs
  split at hs
  · rename_i rec id hr
    cases hs
    have hst := ht.request r id _ (by rw [hr]; rfl)
    have hre : (stage id).recordingID = some rec := by rw [hst]; rfl
    have hn : find? s.rows rec = none := by
      have hrw := ht.row id rec hre
      rwa [hst] at hrw
    obtain ⟨cast, hc, hfi⟩ := ht.file id rec hre
    obtain ⟨rows, hro⟩ := exists_insert (startRow rec id w) hn
    have hs' : s.insert (startRow rec id w) true = { s with rows := rows } := by
      simp [insert, hro]
    have hf : ∀ rec', find? rows rec' = if rec' = rec then some (startRow rec id w)
        else find? s.rows rec' := find?_insert hro
    rw [hs']
    exact ⟨⟨_, ht.moves (.recording rec) htext hst (ht.others hre)
      { before := by rw [hr]; rfl
        requests := rfl
        pool := (ht.pool id).trans (by rw [hst]; rfl)
        file := ⟨cast, hc, by rwa [hst] at hfi⟩
        row := .inl ⟨rfl, startRow rec id w, (hf rec).trans (if_pos rfl), rfl, rfl⟩
        rows := fun rec' hne => (hf rec').trans (if_neg hne)
        found := fun _ => isSome_iff_exists.mpr ⟨_, (hf rec).trans (if_pos rfl)⟩ }⟩, ho⟩
  · cases hs

theorem sound_stopRecording {i : String} (hok : s.Careful parse text (.stopRecording r i))
    (hs : step parse s (.stopRecording r i) = some s') : s'.Sound text := by
  obtain ⟨⟨stage, ht⟩, ho⟩ := h
  simp only [step] at hs
  split at hs
  · rename_i id rec hr hpa hp
    cases hs
    obtain ⟨hi, hta⟩ := hok
    obtain ⟨id', rfl⟩ := ht.keys i (hp ▸ some_ne_none rec)
    obtain rfl : id' = id := some.inj ((htext id').symm.trans hpa)
    have hst : stage id' = .recording rec := by
      rw [ht.pool] at hp
      cases hst : stage id' <;> rw [hst] at hp <;> cases hp
      · exact absurd hpa (hi _ _ (ht.inserts_of_inserting hst))
      · rfl
    have hre : (stage id').recordingID = some rec := by rw [hst]; rfl
    obtain ⟨cast, hc, hf⟩ := ht.file id' rec hre
    have hro := ht.row id' rec hre
    rw [hst] at hf hro
    refine ⟨⟨_, ht.moves (.closing r rec) htext hst (ht.others hre)
      { before := by rw [hr]; rfl
        requests := rfl
        pool := update_self ..
        writers := fun k hne => update_of_ne hne ..
        file := ⟨cast, hc, hf.2⟩
        row := .inl ⟨rfl, hro⟩ }⟩, ho.congr parse rfl rfl
          (fun _ cast hc => ⟨cast, hc, List.Subset.refl _⟩) fun k e' hk => ?_⟩
    by_cases heq : k = text id'
    · exact .inr (heq ▸ hta)
    · grind
  · cases hs

theorem sound_close {w : Nat} (hs : step parse s (.close r w) = some s') :
    s'.Sound text := by
  obtain ⟨⟨stage, ht⟩, how⟩ := h
  simp only [step] at hs
  split at hs
  · rename_i rec id hr
    obtain ⟨cast, hc, rfl⟩ := map_eq_some_iff.mp hs
    have hst := ht.request r id _ (by rw [hr]; rfl)
    have hre : (stage id).recordingID = some rec := by rw [hst]; rfl
    obtain ⟨a', hc', ho⟩ := ht.file id rec hre
    have hro := ht.row id rec hre
    rw [hst] at ho hro
    obtain rfl : a' = cast := some.inj (hc'.symm.trans hc)
    rw [Cast.close_of_open ho]
    refine ⟨⟨_, ht.moves (.updating r rec a'.totalBytes) htext hst (ht.others hre)
      { before := by rw [hr]; rfl
        requests := rfl
        pool := (ht.pool id).trans (by rw [hst]; rfl)
        file := ⟨_, update_self .., rfl, rfl⟩
        casts := fun e' hne => update_of_ne hne ..
        row := .inl ⟨rfl, hro⟩ }⟩, how.congr parse rfl rfl (fun e' t₁ hc₁ => ?_)
          fun _ _ hk => .inl hk⟩
    by_cases heq : e' = rec
    · grind
    · grind
  · cases hs

theorem sound_updateRow {now : Nat}
    (hs : step parse s (.updateRow r true now) = some s') : s'.Sound text := by
  obtain ⟨⟨stage, ht⟩, ho⟩ := h
  simp only [step] at hs
  split at hs
  · rename_i rec id durationMs sizeBytes hr
    cases hs
    have hst := ht.request r id _ (by rw [hr]; rfl)
    have hre : (stage id).recordingID = some rec := by rw [hst]; rfl
    obtain ⟨cast, hc, -⟩ := ht.file id rec hre
    obtain ⟨⟨row, -, hso⟩, hot⟩ :=
      ht.find?_stop (show (stage id).stops = _ by rw [hst]; rfl) durationMs sizeBytes now
    exact ⟨⟨_, ht.moves .absent htext hst (ht.others hre)
      { before := by rw [hr]; rfl
        requests := rfl
        pool := (ht.pool id).trans (by rw [hst]; rfl)
        file := ⟨cast, hc, trivial⟩
        row := .inr ⟨rfl, by simp [hso, RecordingRow.stop]⟩
        rows := hot
        found := fun _ => by simp [hso] }⟩, ho⟩
  · cases hs

end

end

/-! ## 7. Runs -/

theorem sound_step (htext : ∀ id, parse (text id) = some id) (h : s.Sound text) {a : Act n m Rec}
    (hok : s.Careful parse text a) (hs : step parse s a = some s') : s'.Sound text := by
  obtain ⟨⟨stage, ht⟩, ho⟩ := id h
  cases a with
  | checkStart r i =>
    simp only [step] at hs
    split at hs
    · rename_i id hr hp
      simp only [ite_none_right_eq_some, some.injEq] at hs
      obtain ⟨-, rfl⟩ := hs
      exact ⟨⟨stage, ht.setRequest (by rw [hr]; rfl)⟩, ho⟩
    · cases hs
  | startRecording r rec w => exact sound_startRecording htext h hok hs
  | insertRow r ok w =>
    subst hok
    exact sound_insertRow htext h hs
  | stopRecording r i => exact sound_stopRecording htext h hok hs
  | close r w => exact sound_close htext h hs
  | updateRow r ok w =>
    subst hok
    exact sound_updateRow htext h hs
  | receive c i d =>
    simp only [step] at hs
    split at hs
    · rename_i hta
      simp only [ite_none_right_eq_some, some.injEq] at hs
      obtain ⟨-, rfl⟩ := hs
      exact ⟨⟨stage, { ht with }⟩, owed_receive htext ht ho hta hok⟩
    · cases hs
  | lookUp c =>
    simp only [step] at hs
    split at hs
    · rename_i i chunk hta
      cases hs
      exact ⟨⟨stage, { ht with }⟩, owed_lookUp ho hta⟩
    · cases hs
  | write c ok =>
    subst hok
    simp only [step] at hs
    split at hs
    · rename_i rec chunk hta
      cases hs
      exact ⟨⟨stage, tracks_write ht c chunk⟩, owed_write ht ho hta⟩
    · cases hs
  | terminate i =>
    cases hs
    exact h
  | restart =>
    cases hs
    exact sound_restart h hok.1 hok.2
  | readDir f =>
    simp only [step, ite_none_right_eq_some, some.injEq] at hs
    obtain ⟨-, rfl⟩ := hs
    exact ⟨⟨stage, { ht with entries := hok }⟩, ho⟩
  | reconcile ok size startedAt =>
    simp only [step] at hs
    split at hs
    · cases hs
    rename_i rec e he
    cases hs
    have hro := ht.entries
    rw [he, List.forall_mem_cons] at hro
    rw [insert_of_isSome (orphanRow rec size startedAt) ok hro.1]
    exact ⟨⟨stage, { ht with entries := hro.2 }⟩, ho⟩

theorem stopsOwnRow (h : s.Sound text) {a : Act n m Rec} (hok : s.Careful parse text a) :
    s.StopsOwnRow parse a := by
  cases a with
  | updateRow r ok now =>
    subst hok
    intro rec id durationMs sizeBytes hr s' hs'
    simp only [step, hr, mem_def, some.injEq, if_true] at hs'
    subst hs'
    obtain ⟨⟨stage, ht⟩, -⟩ := h
    have hst := ht.request r id _ (by rw [hr]; rfl)
    obtain ⟨cast, hc, hf⟩ := ht.file id rec (by rw [hst]; rfl)
    rw [hst] at hf
    obtain ⟨hro, ho⟩ :=
      ht.find?_stop (show (stage id).stops = _ by rw [hst]; rfl) durationMs sizeBytes now
    exact ⟨hro, ⟨cast, hc, hf.2⟩, ho⟩
  | checkStart | startRecording | insertRow | stopRecording | close | receive | lookUp | write
  | terminate | restart | readDir | reconcile => trivial

/-- In every run whose acts are careful, the pool, the files and the rows
agree, and each stop request stops its own row. -/
theorem recordings_agree (parse : String → Option Id) (text : Id → String)
    (htext : ∀ id, parse (text id) = some id) (acts : List (Act n m Rec))
    (hacts : Along (step parse) (Careful parse text) (start : Recorder n m Id Rec) acts) :
    (∀ s ∈ states (step parse) (start : Recorder n m Id Rec) acts, s.Agrees parse) ∧
      Along (step parse) (StopsOwnRow parse) (start : Recorder n m Id Rec) acts := by
  have hst : (start : Recorder n m Id Rec).Sound text :=
    ⟨⟨_, tracks_absent (fun _ => rfl) (fun _ => rfl) (fun _ h => by cases h)
      (fun _ h => by cases h) rfl⟩, fun _ _ h => by cases h⟩
  refine ⟨fun s hs => (forall_states_of_along (fun _ _ _ h => sound_step htext h) hst hacts s
    hs).agrees htext, ?_⟩
  exact along_of_invariant (fun _ _ _ h => sound_step htext h)
    (fun s a h hok => stopsOwnRow h hok) hst hacts

/-! ## 8. One session with two spellings -/

def lower : String := "6ba7b810-9dad-11d1-80b4-00c04fd430c8"

def upper : String := "6BA7B810-9DAD-11D1-80B4-00C04FD430C8"

def parseUuid (sessionID : String) : Option Unit :=
  if sessionID = lower ∨ sessionID = upper then some () else none

def printUuid (_ : Unit) : String := lower

def oneRecording : List (Act 1 1 Nat) :=
  [.checkStart 0 lower, .startRecording 0 1 10, .insertRow 0 true 10, .receive 0 lower [104, 105],
   .lookUp 0, .write 0 true, .stopRecording 0 lower, .close 0 15, .updateRow 0 true 15,
   .restart, .readDir [1], .reconcile true 90 10]

theorem recordings_agree_oneRecording :
    Along (step parseUuid) (Careful parseUuid printUuid)
        (start : Recorder 1 1 Unit Nat) oneRecording ∧
      (run (step parseUuid) (start : Recorder 1 1 Unit Nat) oneRecording).map
          (fun s => s.rows.rows)
        = some [{ id := 1, sessionID := some (), sizeBytes := 2, durationMs := 5, startedAt := 10
                  stoppedAt := some 15 }] ∧
      ((∀ s ∈ states (step parseUuid) (start : Recorder 1 1 Unit Nat) oneRecording,
          s.Agrees parseUuid) ∧
        Along (step parseUuid) (StopsOwnRow parseUuid)
          (start : Recorder 1 1 Unit Nat) oneRecording) :=
  ⟨by decide, by decide,
    recordings_agree parseUuid printUuid (fun () => by decide) oneRecording (by decide)⟩

def spelledApart : List (Act 1 1 Nat) :=
  [.checkStart 0 lower, .startRecording 0 1 10, .insertRow 0 true 10,
   .checkStart 0 upper, .startRecording 0 2 11, .insertRow 0 true 11,
   .receive 0 lower [104], .lookUp 0, .write 0 true]

def leftOpen : List (Act 1 1 Nat) :=
  [.checkStart 0 lower, .startRecording 0 1 10, .insertRow 0 true 10, .restart,
   .checkStart 0 lower, .startRecording 0 2 20, .insertRow 0 true 20,
   .stopRecording 0 lower, .close 0 21]

/-- Two recordings of a session are active, and one of them has no data. A
row is open without a recording, and the next stop request writes its
duration and size into it. -/
theorem recordings_disagree :
    (run (step parseUuid) (start : Recorder 1 1 Unit Nat) spelledApart).map (fun s =>
        (s.writers lower, s.writers upper, s.owed 2, s.recorded 2))
      = some (some 1, some 2, [{ number := 0, data := [104] }], []) ∧
    (run (step parseUuid) (start : Recorder 1 1 Unit Nat)
        (leftOpen ++ [.updateRow 0 true 21])).map (fun s => s.rows.rows)
      = some [{ id := 1, sessionID := some (), sizeBytes := 0, durationMs := 1, startedAt := 10
                stoppedAt := some 21 },
              { id := 2, sessionID := some (), sizeBytes := 0, durationMs := 1, startedAt := 20
                stoppedAt := some 21 }] ∧
    ¬ (∀ s ∈ states (step parseUuid) (start : Recorder 1 1 Unit Nat) spelledApart,
        s.Agrees parseUuid) ∧
    ¬ Along (step parseUuid) (StopsOwnRow parseUuid) (start : Recorder 1 1 Unit Nat)
        (leftOpen ++ [.updateRow 0 true 21]) := by
  refine ⟨by decide, by decide, fun hal => ?_, fun ha => ?_⟩
  · have hon := (hal _ (mem_states_of_run rfl)).atMostOne () 1 2
    exact absurd (hon rfl rfl) (by decide)
  -- the row of the first recording is not the stop request's
  obtain ⟨-, -, ho⟩ := along_snoc ha rfl 2 () 1 0 rfl _ rfl
  cases ho 1 (by decide)

end Recorder

end Daao.Recording

/-
Daao.Recording.Pool — session recordings: the pool of writers, the `.cast`
files, and the rows of `session_recordings`
(`internal/recording/recorder.go`; `HandleStartRecording` and
`HandleStopRecording` of `internal/api/recording_handlers.go`; the
recording tap of `internal/grpc/gateway.go`).

Three parties touch a recording, each in several steps:

* a start request asks the pool whether the session is being recorded,
  then starts a recording, then inserts its row;
* a stop request takes the recording out of the pool, closes it, and then
  updates the rows of the session that have no stop time;
* a gateway connection that has received terminal data looks a recording
  up in the pool, and then writes to it.

The pool's keys are texts: the requests use the session id as it stands in
the URL, the gateway as it stands in the satellite's message. The rows are
keyed by what `uuid.Parse` (`parse`) makes of it.

After a restart the pool is empty. Nothing stops the recordings there were,
and `ReconcileRecordings` inserts a row without session and stop time for
each file that has none, while requests are already served.

There are `n` requests and `m` connections at a time, and any of them may
be followed by another. A statement that fails (`ok` is false) is logged
and has no other consequence. The titles and dimensions of recordings and
the answers to the requests are left out.
-/
import Daao.Buffer.Ring
import Daao.Lib.Table
import Daao.Lib.Trace

namespace Daao.Recording

open Daao.Lib Daao.Buffer

/-! ## 1. Files and rows -/

/-- The terminal data of one message. The number tells messages with the
same data apart. -/
structure Chunk where
  number : Nat
  data : List Byte
  deriving DecidableEq

/-- A `.cast` file and its `RecordingWriter`. -/
structure Cast where
  sessionID : String
  startTime : Nat
  events : List Chunk
  closed : Bool

namespace Cast

def totalBytes (cast : Cast) : Nat := (cast.events.map fun chunk => chunk.data.length).sum

def write (cast : Cast) (chunk : Chunk) : Cast :=
  if cast.closed then cast else { cast with events := cast.events ++ [chunk] }

def close (cast : Cast) (now : Nat) : Cast × Nat × Nat :=
  if cast.closed then (cast, 0, 0)
  else ({ cast with closed := true }, now - cast.startTime, cast.totalBytes)

end Cast

structure RecordingRow (Id Rec : Type) where
  id : Rec
  sessionID : Option Id
  sizeBytes : Nat
  durationMs : Nat
  startedAt : Nat
  stoppedAt : Option Nat
  deriving DecidableEq

abbrev RecordingRows (Id Rec : Type) := Table (RecordingRow.id : RecordingRow Id Rec → Rec)

def startRow {Id Rec : Type} (recordingID : Rec) (id : Id) (now : Nat) : RecordingRow Id Rec :=
  { id := recordingID, sessionID := some id, sizeBytes := 0, durationMs := 0
    startedAt := now, stoppedAt := none }

def orphanRow {Id Rec : Type} (recordingID : Rec) (size startedAt : Nat) : RecordingRow Id Rec :=
  { id := recordingID, sessionID := none, sizeBytes := size, durationMs := 0
    startedAt := startedAt, stoppedAt := none }

namespace RecordingRow

variable {Id Rec : Type}

def stop (row : RecordingRow Id Rec) (durationMs sizeBytes now : Nat) : RecordingRow Id Rec :=
  { row with stoppedAt := some now, durationMs := durationMs, sizeBytes := sizeBytes }

@[simp] theorem id_stop (r : RecordingRow Id Rec) (dm sb w : Nat) :
    (r.stop dm sb w).id = r.id := rfl

end RecordingRow

section

variable {Id Rec : Type} [DecidableEq Id]

/-- `UPDATE session_recordings SET stopped_at = NOW(), … WHERE session_id =
$3 AND stopped_at IS NULL`. -/
def RecordingRows.stop (t : RecordingRows Id Rec) (id : Id) (durationMs sizeBytes now : Nat) :
    RecordingRows Id Rec :=
  Table.modifyWhere t (fun row => row.sessionID = some id ∧ row.stoppedAt = none)
    (fun row => row.stop durationMs sizeBytes now) fun row => row.id_stop durationMs sizeBytes now

end

/-! ## 2. The parties -/

inductive Request (Id Rec : Type) where
  | idle
  /-- a start request that found the session not being recorded -/
  | starting (sessionID : String) (id : Id)
  /-- its recording is started, the row not inserted yet -/
  | inserting (recordingID : Rec) (id : Id)
  /-- a stop request that has taken the recording out of the pool -/
  | closing (recordingID : Rec) (id : Id)
  /-- and has closed it -/
  | updating (recordingID : Rec) (id : Id) (durationMs sizeBytes : Nat)
  deriving DecidableEq

namespace Request

variable {Id Rec : Type}

def starts : Request Id Rec → Option (String × Id)
  | .starting sessionID id => some (sessionID, id)
  | _ => none

def inserts : Request Id Rec → Option (Rec × Id)
  | .inserting recordingID id => some (recordingID, id)
  | _ => none

def stopping : Request Id Rec → Option (Rec × Id)
  | .closing recordingID id => some (recordingID, id)
  | .updating recordingID id _ _ => some (recordingID, id)
  | _ => none

end Request

inductive Tap (Rec : Type) where
  | receiving
  | tapping (sessionID : String) (chunk : Chunk)
  /-- `WriteIfRecording` has found the recording -/
  | writing (recordingID : Rec) (chunk : Chunk)

def Tap.chunk {Rec : Type} : Tap Rec → Option Chunk
  | .receiving => none
  | .tapping _ chunk => some chunk
  | .writing _ chunk => some chunk

structure Recorder (n m : Nat) (Id Rec : Type) where
  writers : String → Option Rec
  casts : Rec → Option Cast
  rows : RecordingRows Id Rec
  requests : Fin n → Request Id Rec
  taps : Fin m → Tap Rec
  /-- the directory entries `ReconcileRecordings` has left -/
  entries : List Rec
  /-- two records: the number of messages received, and the terminal data of
  a recording's session that was received while it was active -/
  received : Nat
  owed : Rec → List Chunk

namespace Recorder

inductive Act (n m : Nat) (Rec : Type) where
  | checkStart (r : Fin n) (sessionID : String)
  | startRecording (r : Fin n) (recordingID : Rec) (now : Nat)
  | insertRow (r : Fin n) (ok : Bool) (now : Nat)
  /-- a stop request takes the recording out of the pool -/
  | stopRecording (r : Fin n) (sessionID : String)
  | close (r : Fin n) (now : Nat)
  | updateRow (r : Fin n) (ok : Bool) (now : Nat)
  | receive (c : Fin m) (sessionID : String) (data : List Byte)
  | lookUp (c : Fin m)
  | write (c : Fin m) (ok : Bool)
  /-- a connection handles a TERMINATED update -/
  | terminate (sessionID : String)
  | restart
  /-- `ReconcileRecordings` lists the directory; some files may be unreadable -/
  | readDir (files : List Rec)
  /-- and inserts a row for the next file, if it has none -/
  | reconcile (ok : Bool) (size startedAt : Nat)

variable {n m : Nat} {Id Rec : Type}

def start : Recorder n m Id Rec :=
  { writers := fun _ => none, casts := fun _ => none, rows := .empty, requests := fun _ => .idle
    taps := fun _ => .receiving, entries := [], received := 0, owed := fun _ => [] }

def setRequest (s : Recorder n m Id Rec) (r : Fin n) (q : Request Id Rec) : Recorder n m Id Rec :=
  { s with requests := Function.update s.requests r q }

def setTap (s : Recorder n m Id Rec) (c : Fin m) (tap : Tap Rec) : Recorder n m Id Rec :=
  { s with taps := Function.update s.taps c tap }

variable [DecidableEq Id] [DecidableEq Rec]

def isActiveFor (parse : String → Option Id) (s : Recorder n m Id Rec) (recordingID : Rec)
    (id : Id) : Bool :=
  match s.casts recordingID with
  | none => false
  | some cast => s.writers cast.sessionID = some recordingID && parse cast.sessionID = some id

def startRecording (s : Recorder n m Id Rec) (r : Fin n) (sessionID : String) (id : Id)
    (recordingID : Rec) (now : Nat) : Recorder n m Id Rec :=
  match s.writers sessionID with
  | some _ => s.setRequest r .idle
  | none => { s.setRequest r (.inserting recordingID id) with
      writers := Function.update s.writers sessionID (some recordingID)
      casts := Function.update s.casts recordingID (some
        { sessionID := sessionID, startTime := now, events := [], closed := false }) }

def insert (s : Recorder n m Id Rec) (row : RecordingRow Id Rec) (ok : Bool) :
    Recorder n m Id Rec :=
  if ok then { s with rows := (Table.insert s.rows row).getD s.rows } else s

def step (parse : String → Option Id) (s : Recorder n m Id Rec) :
    Act n m Rec → Option (Recorder n m Id Rec)
  | .checkStart r sessionID =>
    match s.requests r, parse sessionID with
    | .idle, some id =>
      if s.writers sessionID = none then some (s.setRequest r (.starting sessionID id)) else none
    | _, _ => none
  | .startRecording r recordingID now =>
    match s.requests r with
    | .starting sessionID id =>
      -- the id is a new one
      if s.casts recordingID = none then
        some (s.startRecording r sessionID id recordingID now)
      else none
    | _ => none
  | .insertRow r ok now =>
    match s.requests r with
    | .inserting recordingID id =>
      some ((s.insert (startRow recordingID id now) ok).setRequest r .idle)
    | _ => none
  | .stopRecording r sessionID =>
    match s.requests r, parse sessionID, s.writers sessionID with
    | .idle, some id, some recordingID =>
      some { s.setRequest r (.closing recordingID id) with
        writers := Function.update s.writers sessionID none }
    | _, _, _ => none
  | .close r now =>
    match s.requests r with
    | .closing recordingID id =>
      (s.casts recordingID).map fun cast =>
        { s.setRequest r (.updating recordingID id (cast.close now).2.1 (cast.close now).2.2) with
          casts := Function.update s.casts recordingID (some (cast.close now).1) }
    | _ => none
  | .updateRow r ok now =>
    match s.requests r with
    | .updating _ id durationMs sizeBytes =>
      some { s.setRequest r .idle with
        rows := if ok then s.rows.stop id durationMs sizeBytes now else s.rows }
    | _ => none
  | .receive c sessionID data =>
    match s.taps c with
    | .receiving =>
      if sessionID ≠ "" ∧ data ≠ [] then
        let chunk : Chunk := { number := s.received, data := data }
        some { s.setTap c (.tapping sessionID chunk) with
          received := s.received + 1
          owed := fun recordingID =>
            if (parse sessionID).any (s.isActiveFor parse recordingID) then
              s.owed recordingID ++ [chunk]
            else s.owed recordingID }
      else none
    | _ => none
  | .lookUp c =>
    match s.taps c with
    | .tapping sessionID chunk =>
      some (s.setTap c (match s.writers sessionID with
        | none => .receiving
        | some recordingID => .writing recordingID chunk))
    | _ => none
  | .write c ok =>
    match s.taps c with
    | .writing recordingID chunk =>
      some { s.setTap c .receiving with
        casts := if ok then
          Function.update s.casts recordingID
            ((s.casts recordingID).map fun cast => cast.write chunk)
          else s.casts }
    | _ => none
  -- the handling of a TERMINATED update does not look at the recordings
  | .terminate _ => some s
  | .restart => some { s with
      writers := fun _ => none, requests := fun _ => .idle, taps := fun _ => .receiving
      entries := [] }
  | .readDir files =>
    if ∀ recordingID ∈ files, (s.casts recordingID).isSome then some { s with entries := files }
    else none
  | .reconcile ok size startedAt =>
    match s.entries with
    | [] => none
    | recordingID :: rest =>
      -- ON CONFLICT (id) DO NOTHING
      some { s.insert (orphanRow recordingID size startedAt) ok with entries := rest }

/-! ## 3. Agreement -/

variable (parse : String → Option Id)

/-- The recording is in the pool, or a stop request has taken it and not
updated its row yet. -/
def IsActive (s : Recorder n m Id Rec) (recordingID : Rec) : Prop :=
  (∃ id, s.isActiveFor parse recordingID id = true) ∨
    ∃ r id, (s.requests r).stopping = some (recordingID, id)

def recorded (s : Recorder n m Id Rec) (recordingID : Rec) : List Chunk :=
  ((s.casts recordingID).map Cast.events).getD []

structure Agrees (s : Recorder n m Id Rec) : Prop where
  /-- a session has at most one active recording -/
  atMostOne : ∀ id recordingID recordingID', s.isActiveFor parse recordingID id = true →
    s.isActiveFor parse recordingID' id = true → recordingID = recordingID'
  /-- what was received for an active recording is in it, or a connection is
  about to write it -/
  complete : ∀ recordingID, ∀ chunk ∈ s.owed recordingID,
    chunk ∈ s.recorded recordingID ∨ ∃ c, (s.taps c).chunk = some chunk
  /-- a row has no stop time exactly while its recording is active -/
  openRows : ∀ recordingID row, Table.find? s.rows recordingID = some row →
    (row.stoppedAt = none ↔ s.IsActive parse recordingID)

/-- A stop request that updates the table stops the row of its recording,
with the size of the file, and no other row. -/
def StopsOwnRow (s : Recorder n m Id Rec) : Act n m Rec → Prop
  | .updateRow r ok now =>
    ∀ recordingID id durationMs sizeBytes,
      s.requests r = .updating recordingID id durationMs sizeBytes →
      ∀ s' ∈ step parse s (.updateRow r ok now),
        (∃ row, Table.find? s.rows recordingID = some row ∧
          Table.find? s'.rows recordingID = some (row.stop durationMs sizeBytes now)) ∧
        (∃ cast, s.casts recordingID = some cast ∧ cast.totalBytes = sizeBytes) ∧
        ∀ other, other ≠ recordingID → Table.find? s'.rows other = Table.find? s.rows other
  | _ => True

def isTapped (s : Recorder n m Id Rec) (sessionID : String) : Tap Rec → Bool
  | .receiving => false
  | .tapping sessionID' _ => parse sessionID' = parse sessionID
  | .writing recordingID _ => s.writers sessionID = some recordingID

/-- When the three stay in agreement; `text` prints a session's id. A
recording is started under the printed id and only after the session's
stop requests have updated its rows. It is stopped only after its row is
inserted, and when no connection is handling data of the session. Data of a
session that is being recorded comes with the printed id. A restart finds
all rows stopped and every file with a row, and a listing of the directory
finds no file without a row. No statement and no write fails. -/
def Careful (text : Id → String) (s : Recorder n m Id Rec) : Act n m Rec → Prop
  | .startRecording r _ _ =>
    ∀ q ∈ (s.requests r).starts,
      q.1 = text q.2 ∧ ∀ r', ∀ p ∈ (s.requests r').stopping, p.2 ≠ q.2
  | .insertRow _ ok _ => ok = true
  | .stopRecording _ sessionID =>
    (∀ r, ∀ p ∈ (s.requests r).inserts, parse sessionID ≠ some p.2) ∧
      ∀ c, s.isTapped parse sessionID (s.taps c) = false
  | .updateRow _ ok _ => ok = true
  | .receive _ sessionID _ =>
    ∀ id ∈ parse sessionID, (s.writers (text id)).isSome → sessionID = text id
  | .write _ ok => ok = true
  | .restart =>
    (∀ row ∈ s.rows.rows, row.stoppedAt ≠ none) ∧ ∀ r, (s.requests r).inserts = none
  | .readDir files => ∀ recordingID ∈ files, (Table.find? s.rows recordingID).isSome
  | _ => True

instance (text : Id → String) (s : Recorder n m Id Rec) (a : Act n m Rec) :
    Decidable (s.Careful parse text a) := by
  cases a <;> dsimp only [Careful] <;> infer_instance

end Recorder

end Daao.Recording

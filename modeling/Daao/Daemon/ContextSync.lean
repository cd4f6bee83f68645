/-
Daao.Daemon.ContextSync — the context files of one satellite, which the
server keeps in its database and the satellite on its disk
(`internal/api/context.go`, the upload handler of
`internal/grpc/gateway.go`, `internal/satellite/context_watcher.go`,
`cmd/daao/daemon.go`).

The two sides send each other whole files, without a version:

* an update in the Cockpit is stored and then pushed; a creation or a
  deletion is only stored;
* the watcher of the satellite collects the events of the file system and
  reads the files when its timer fires. What it has read goes through a
  channel to the daemon, from there to the connection, and is stored. When
  the daemon starts it sends every file that there is.

Any of the two may act at any time, connections break and are made anew,
and the daemon stops and starts. The timer may fire at any time, and while
an earlier flush is still going on. Of the channels to and from the
connection the files are modelled; other messages take room, so how much
there is left is part of an action.

The edits are numbered by a clock. The numbers go with the contents and
tell which edit a content is of; no step depends on them.
-/
import Daao.Database.ContextFiles
import Daao.Lib.GoMap
import Daao.Lib.Trace
import Daao.Lib.Uplink

namespace Daao.Daemon

open Daao.Lib Daao.Database

/-! ## 1. Files -/

def isMDFile (name : String) : Bool :=
  ".md".toList.isSuffixOf (name.toList.map Char.toLower)

/-- The path is a name within the directory: `filepath.Base` leaves it, and
it is neither `.` nor `..`. The path `/` passes the check of the daemon,
which then fails to write it. -/
def isFileName (path : String) : Bool :=
  path ≠ "" && !path.toList.contains '/' && path ≠ "." && path ≠ ".."

/-- `ContextFileSync`: a file on its way, with the edit that it is of. -/
structure ContextFileSync where
  filePath : String
  content : String
  edit : Nat

def cockpitAttribution : String := "user@cockpit"

structure SatelliteConfig (Id : Type) where
  satelliteID : Id
  modifiedBy : String
  standardFiles : List (String × String)

def seedStandardFiles (standardFiles : List (String × String)) (disk : GoMap String String) :
    GoMap String String :=
  standardFiles.foldl (fun disk file =>
    if disk.get file.1 = none then Table.put disk file else disk) disk

/-! ## 2. The watcher -/

/-- A flush under way: the files that it has not come to, with whether they
were deleted, and what it has read and not sent. -/
structure Flush where
  left : List (String × Bool)
  read : Option ContextFileSync

structure ContextWatcher where
  /-- what the file system has reported and the loop has not read -/
  fsEvents : List (String × Bool)
  pending : GoMap String Bool
  flushes : List Flush
  events : List ContextFileSync
  /-- the files found at the start that are left to send -/
  initial : List ContextFileSync

namespace ContextWatcher

def capacity : Nat := 32

variable (w : ContextWatcher)

def touch (path : String) (deleted : Bool) : ContextWatcher :=
  if isMDFile path then { w with fsEvents := w.fsEvents ++ [(path, deleted)] } else w

def notice : Option ContextWatcher :=
  match w.fsEvents with
  | [] => none
  | event :: rest => some { w with fsEvents := rest, pending := Table.put w.pending event }

def tidy (flushes : List Flush) : List Flush :=
  flushes.filter fun flush => flush.left ≠ [] ∨ flush.read ≠ none

def fire : ContextWatcher :=
  { w with
    pending := .empty
    flushes := tidy (w.flushes ++ [{ left := w.pending.rows, read := none }]) }

def readFile (disk : GoMap String String) (diskAt : String → Nat) (path : String) (deleted : Bool) :
    Option ContextFileSync :=
  if deleted then some { filePath := path, content := "", edit := diskAt path }
  else (disk.get path).map fun content =>
    { filePath := path, content := content, edit := diskAt path }

def read (w : ContextWatcher) (disk : GoMap String String) (diskAt : String → Nat) (i : Nat)
    (path : String) : Option ContextWatcher :=
  match w.flushes[i]? with
  | some { left := left, read := none } =>
    (lastEntry path left).map fun deleted =>
      { w with
        flushes := tidy (w.flushes.set i
          { left := left.filter fun entry => entry.1 ≠ path
            read := readFile disk diskAt path deleted }) }
  | _ => none

def emit (i : Nat) : Option ContextWatcher :=
  match w.flushes[i]? with
  | some { left := left, read := some file } =>
    some
      { w with
        events := if w.events.length < capacity then w.events ++ [file] else w.events
        flushes := tidy (w.flushes.set i { left := left, read := none }) }
  | _ => none

end ContextWatcher

/-! ## 3. Both sides -/

/-- The room that other messages leave in the daemon's channel is at most
its capacity. -/
def sendChCapacity : Nat := 256

structure ContextSync (Id : Type) where
  db : ContextFiles Id
  /-- updates that are stored and not pushed yet -/
  handlers : List ContextFileSync
  /-- the connection whose channel is in the registry -/
  registered : Option Nat
  down : List ContextFileSync
  up : Uplink ContextFileSync
  disk : GoMap String String
  /-- `none` while the daemon does not run -/
  watcher : Option ContextWatcher
  clock : Nat
  /-- the edits that the stored files and those on the disk are of -/
  storedAt : String → Nat
  diskAt : String → Nat
  /-- the last update of a file in the Cockpit -/
  updatedAt : String → Nat

namespace ContextSync

inductive Act (Id : Type) where
  | create (newID : Id) (filePath content : String)
  | update (id : Id) (content : String)
  | delete (id : Id)
  | push (i : Nat) (room : Bool)
  | edit (path content : String)
  | remove (path : String)
  /-- the files are read in some order -/
  | startDaemon (files : List (String × String))
  | stopDaemon
  | notice
  | fire
  | read (i : Nat) (path : String)
  | emit (i : Nat)
  | sendInitial (room : Nat)
  | drain (room : Nat)
  | connect
  | transmit
  | lose
  | stopWriter
  | discard (conn : Nat)
  | register (conn : Nat)
  | unregister
  | receivePush (ok : Bool)
  | receiveUpload (conn : Nat) (newID : Id) (ok : Bool)

variable {Id : Type} [DecidableEq Id]

def start (satellites : List Id) (disk : GoMap String String) : ContextSync Id :=
  { db := .empty satellites, handlers := [], registered := none, down := [], up := .start
    disk := disk, watcher := none, clock := 0, storedAt := fun _ => 0, diskAt := fun _ => 0
    updatedAt := fun _ => 0 }

variable (s : ContextSync Id)

def store (db : ContextFiles Id) (filePath : String) : ContextSync Id :=
  { s with
    db := db, clock := s.clock + 1
    storedAt := Function.update s.storedAt filePath (s.clock + 1) }

def writeFile (path content : String) (edit : Nat) : ContextSync Id :=
  { s with
    disk := Table.put s.disk (path, content)
    diskAt := Function.update s.diskAt path edit
    watcher := s.watcher.map fun w => w.touch path false }

variable (cfg : SatelliteConfig Id)

def handleCreateContextFile (s : ContextSync Id) (newID : Id)
    (filePath content : String) : ContextSync Id :=
  if filePath = "" then s
  else
    match s.db.createContextFile newID cfg.satelliteID filePath content cockpitAttribution with
    | none => s
    | some db => s.store db filePath

/-- `handleUpdateContextFile` up to the push. -/
def handleUpdateContextFile (s : ContextSync Id) (id : Id) (content : String) : ContextSync Id :=
  match s.db.files.find? id with
  | none => s
  | some file =>
    if file.satelliteID = cfg.satelliteID then
      match s.db.updateContextFile id content cockpitAttribution with
      | none => s
      | some db =>
        { s.store db file.filePath with
          handlers := s.handlers ++ [⟨file.filePath, content, s.clock + 1⟩]
          updatedAt := Function.update s.updatedAt file.filePath (s.clock + 1) }
    else s

def handleDeleteContextFile (s : ContextSync Id) (id : Id) : ContextSync Id :=
  match s.db.files.find? id with
  | none => s
  | some file =>
    if file.satelliteID = cfg.satelliteID then s.store (s.db.deleteContextFile id) file.filePath
    else s

def push (i : Nat) (room : Bool) : Option (ContextSync Id) :=
  (s.handlers[i]?).map fun file =>
    { s with
      handlers := s.handlers.eraseIdx i
      down := if s.registered = some s.up.conn ∧ room then s.down ++ [file] else s.down }

/-- The daemon starts: `SeedStandardFiles`, and `runContextWatcher` up to
its first send. -/
def startDaemon (s : ContextSync Id) (files : List (String × String)) : Option (ContextSync Id) :=
  let disk := seedStandardFiles cfg.standardFiles s.disk
  let diskAt := fun path =>
    if s.disk.get path = none ∧ disk.get path ≠ none then s.clock + 1 else s.diskAt path
  if s.watcher.isNone ∧ files.Perm (disk.rows.filter fun file => isMDFile file.1) then
    some
      { s with
        disk := disk, diskAt := diskAt, clock := s.clock + 1
        watcher := some
          { fsEvents := [], pending := .empty, flushes := [], events := []
            initial := files.map fun file => ⟨file.1, file.2, diskAt file.1⟩ } }
  else none

/-- `sendContextUpdate` for the next file found at the start, or for the
next event. -/
def sendContextUpdate (w : ContextWatcher) (file : ContextFileSync) (room : Nat) : ContextSync Id :=
  { s with up := s.up.send (min room sendChCapacity) file, watcher := some w }

def handleContextFilePush (file : ContextFileSync) (ok : Bool) : ContextSync Id :=
  if isFileName file.filePath && ok then s.writeFile file.filePath file.content file.edit else s

def handleUpload (s : ContextSync Id) (newID : Id)
    (file : ContextFileSync) (ok : Bool) : ContextSync Id :=
  match (if ok then s.db.upsertContextFile newID cfg.satelliteID file.filePath file.content
      cfg.modifiedBy else none) with
  | none => s
  | some db => { s with db := db, storedAt := Function.update s.storedAt file.filePath file.edit }

def step (s : ContextSync Id) : Act Id → Option (ContextSync Id)
  | .create newID filePath content => some (s.handleCreateContextFile cfg newID filePath content)
  | .update id content => some (s.handleUpdateContextFile cfg id content)
  | .delete id => some (s.handleDeleteContextFile cfg id)
  | .push i room => s.push i room
  | .edit path content =>
    if isFileName path then
      some { s.writeFile path content (s.clock + 1) with clock := s.clock + 1 }
    else none
  | .remove path =>
    (s.disk.get path).map fun _ =>
      { s with
        disk := s.disk.restrict fun file => file.1 ≠ path
        diskAt := Function.update s.diskAt path (s.clock + 1)
        watcher := s.watcher.map fun w => w.touch path true
        clock := s.clock + 1 }
  | .startDaemon files => s.startDaemon cfg files
  | .stopDaemon => s.watcher.map fun _ => { s with watcher := none, up := s.up.reset }
  | .notice => s.watcher.bind fun w => w.notice.map fun w => { s with watcher := some w }
  | .fire => s.watcher.map fun w => { s with watcher := some w.fire }
  | .read i path =>
    s.watcher.bind fun w =>
      (w.read s.disk s.diskAt i path).map fun w => { s with watcher := some w }
  | .emit i => s.watcher.bind fun w => (w.emit i).map fun w => { s with watcher := some w }
  | .sendInitial room =>
    s.watcher.bind fun w =>
      match w.initial with
      | [] => none
      | file :: rest => some (s.sendContextUpdate { w with initial := rest } file room)
  | .drain room =>
    s.watcher.bind fun w =>
      match w.initial, w.events with
      | [], file :: rest => some (s.sendContextUpdate { w with events := rest } file room)
      | _, _ => none
  | .connect => s.watcher.map fun _ => { s with up := s.up.connect, down := [] }
  | .transmit => s.up.transmit.map fun up => { s with up := up }
  | .lose => some { s with up := s.up.lose }
  | .stopWriter => s.up.stopWriter.map fun up => { s with up := up }
  | .discard conn => (s.up.discard conn).map fun up => { s with up := up }
  | .register conn => if conn ≤ s.up.conn then some { s with registered := some conn } else none
  | .unregister => some { s with registered := none }
  | .receivePush ok =>
    match s.watcher, s.down with
    | some _, file :: rest =>
      if s.up.writer then some ({ s with down := rest }.handleContextFilePush file ok) else none
    | _, _ => none
  | .receiveUpload conn newID ok =>
    (s.up.receive conn).map fun received =>
      { s with up := received.2 }.handleUpload cfg newID received.1 ok

end ContextSync

end Daao.Daemon

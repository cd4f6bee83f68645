/-
Daao.Transport.TerminalInput — the input half of `HandleTerminalStream`
(`internal/transport/websocket.go`) and of the Cockpit's WebSocket
transport (`cockpit/src/transport/WebSocketTransport.ts`).

The Cockpit sends keystrokes and pasted text as they are, and its control
objects as JSON, all as frames of one kind. `processTerminalMessage` drops
the kind of the frame and tries the bytes as JSON: a document whose `type`
is `ping` is answered with a pong, one that is a resize with positive
`cols` and `rows` becomes a `ResizeCommand`, and everything else becomes
`TerminalInput`.

The handler's session store and stream registry are set, as `cmd/nexus`
sets them. Section 3 is one connection with its two goroutines. Both
write to the same WebSocket, and a write there has a beginning and an end.
-/
import Daao.Lib.JsonText
import Daao.Transport.TerminalStream

namespace Daao.Transport

open Daao.Lib

/-! ## 1. One message -/

/-- `json.Unmarshal` of a message; `none` if it returns an error. -/
def unmarshalText {σ : Type} (fields : List (StructField σ)) (zero : σ) (msg : GoString) :
    Option σ :=
  match JsonText.parse msg with
  | none => none
  | some doc =>
    let decoded := unmarshal fields zero doc
    if decoded.ok then some decoded.value else none

structure PingCheck where
  type : String

def pingFields : List (StructField PingCheck) :=
  [.scalar "type" Json.asString fun r v => { r with type := v }]

/-- An integer literal that fits an `int32`. -/
def asInt32 : Json → Option Int
  | .int n => if -2147483648 ≤ n ∧ n ≤ 2147483647 then some n else none
  | _ => none

structure Ctrl where
  type : String
  cols : Int
  rows : Int

def ctrlFields : List (StructField Ctrl) :=
  [.scalar "type" Json.asString fun r v => { r with type := v },
   .scalar "cols" asInt32 fun r v => { r with cols := v },
   .scalar "rows" asInt32 fun r v => { r with rows := v }]

variable (msg : GoString)

def isPing : Bool :=
  (unmarshalText pingFields { type := "" } msg).any fun check => check.type = "ping"

def resizeOf : Option (Int × Int) :=
  (unmarshalText ctrlFields { type := "", cols := 0, rows := 0 } msg).bind fun ctrl =>
    if ctrl.type = "resize" ∧ ctrl.cols > 0 ∧ ctrl.rows > 0 then some (ctrl.cols, ctrl.rows)
    else none

inductive ToSession where
  | terminalInput (data : GoString)
  | resizeCommand (width height : Int)
  deriving DecidableEq

inductive Handled where
  | nothing
  | pong
  | send (m : ToSession)

def processTerminalMessage : Handled :=
  if msg.length = 0 then .nothing
  else if isPing msg then .pong
  else
    match resizeOf msg with
    | some (cols, rows) => .send (.resizeCommand cols rows)
    | none => .send (.terminalInput msg)

/-! ## 2. What the Cockpit sends -/

/-- A size of the terminal emulator. It is positive, and `ResizeCommand`
has 32 bits for it. -/
structure TermSize where
  cols : Nat
  rows : Nat
  cols_pos : 0 < cols
  rows_pos : 0 < rows
  cols_le : cols ≤ 2147483647
  rows_le : rows ≤ 2147483647

inductive ClientMessage where
  /-- `send`: a keystroke or a paste -/
  | text (data : String)
  | ping
  | resize (size : TermSize)

def utf8 (s : String) : GoString := s.toList.flatMap String.utf8EncodeChar

def TermSize.toJson (size : TermSize) : Json :=
  .obj [("type", .str "resize"), ("cols", .int size.cols), ("rows", .int size.rows)]

/-- `JSON.stringify` of a control message. -/
def ClientMessage.frame : ClientMessage → GoString
  | .text data => utf8 data
  | .ping => go "\x7b\"type\":\"ping\"\x7d"
  | .resize size =>
    go "\x7b\"type\":\"resize\",\"cols\":" ++ (JsonText.decimal size.cols ++ [','.toUInt8])
      ++ (go "\"rows\":" ++ (JsonText.decimal size.rows ++ ['}'.toUInt8]))

variable (msgs : List ClientMessage)

def toSession : List ToSession :=
  msgs.filterMap fun m =>
    match processTerminalMessage m.frame with
    | .send out => some out
    | _ => none

def inputData (out : List ToSession) : GoString :=
  out.flatMap fun m => match m with
    | .terminalInput data => data
    | .resizeCommand .. => []

def resizes (out : List ToSession) : List (Int × Int) :=
  out.filterMap fun m => match m with
    | .terminalInput _ => none
    | .resizeCommand width height => some (width, height)

def typed : GoString :=
  msgs.flatMap fun m => match m with
    | .text data => utf8 data
    | _ => []

def resizeControls : List (Int × Int) :=
  msgs.filterMap fun m => match m with
    | .resize size => some (size.cols, size.rows)
    | _ => none

/-- The terminal gets what was typed, and is resized by the controls. -/
def Transparent : Prop :=
  inputData (toSession msgs) = typed msgs ∧ resizes (toSession msgs) = resizeControls msgs

/-- The handler takes the bytes for a control message. -/
def isControl : Bool := isPing msg || (resizeOf msg).isSome

/-! ## 3. Two goroutines on one connection -/

inductive Reader where
  | reading
  /-- in `WriteJSON` of a pong -/
  | writing
  | done
  deriving DecidableEq

inductive Loop where
  | waiting
  /-- in `WriteMessage`; on success the handler goes on with `next` -/
  | writing (next : TerminalStream)
  | notifying
  | done
  deriving DecidableEq

structure TerminalConn where
  stream : TerminalStream
  reader : Reader
  loop : Loop

namespace TerminalConn

def start (stream : TerminalStream) : TerminalConn :=
  { stream := stream, reader := .reading, loop := .waiting }

/-- A write of the other goroutine has begun and not ended. -/
def readerWrites (s : TerminalConn) : Bool := s.reader = .writing

def loopWrites (s : TerminalConn) : Bool :=
  match s.loop with
  | .writing _ => true
  | .notifying => true
  | _ => false

def Overlap (s : TerminalConn) : Prop := s.readerWrites = true ∧ s.loopWrites = true

instance (s : TerminalConn) : Decidable s.Overlap :=
  inferInstanceAs (Decidable (_ ∧ _))

inductive Act where
  /-- the reader gets a message and handles it, up to a write -/
  | receive (msg : GoString)
  | readError
  | pongEnd
  | pollTick
  /-- the poll's write ends; an error ends the loop -/
  | pollEnd (ok : Bool)
  /-- the look-up finds the session terminated, or fails -/
  | stateTick (ended : Bool)
  | notifyEnd
  | inputDone
  | gatewayWrite (data : List Buffer.Byte)

def step (capacity : Int) (s : TerminalConn) : Act → Option TerminalConn
  | .receive msg =>
    if s.reader = .reading then
      match processTerminalMessage msg with
      | .pong => some { s with reader := .writing }
      | _ => some s
    else none
  | .readError => if s.reader = .reading then some { s with reader := .done } else none
  | .pongEnd => if s.reader = .writing then some { s with reader := .reading } else none
  | .pollTick =>
    if s.loop = .waiting then
      (tick s.stream).map fun next =>
        if next.sent.length > s.stream.sent.length then { s with loop := .writing next }
        else { s with stream := next }
    else none
  | .pollEnd ok =>
    match s.loop with
    | .writing next =>
      if ok then some { s with stream := { next with buffer := s.stream.buffer }, loop := .waiting }
      else some { s with loop := .done }
    | _ => none
  | .stateTick ended =>
    if s.loop = .waiting then some (if ended then { s with loop := .notifying } else s) else none
  | .notifyEnd => if s.loop = .notifying then some { s with loop := .done } else none
  | .inputDone =>
    if s.loop = .waiting ∧ s.reader = .done then some { s with loop := .done } else none
  | .gatewayWrite data =>
    (Transport.gatewayWrite capacity s.stream.buffer data).map fun buffer =>
      { s with stream := { s.stream with buffer := buffer } }

def received (acts : List Act) : List GoString :=
  acts.filterMap fun a => match a with
    | .receive msg => some msg
    | _ => none

end TerminalConn

end Daao.Transport

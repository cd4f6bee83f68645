/-
Daao.Ipc.ServeConn — one connection of a session's socket
(`pkg/ipc/server.go`: `serveConn` and `handleMessage`).

The loop decodes one message after another with one `json.Decoder`. The
decoder's own errors, of the syntax and of reading, stay with it: every
later call returns them. A value of the wrong type is an error of that call
only. Two errors end the loop, `io.EOF` and `io.ErrUnexpectedEOF`; to any
other the loop answers with a parse error and decodes again.

`Reads` cuts a stream into its complete values and what is left. The
server's context is not cancelled.
-/
import Daao.Lib.GoFloat
import Daao.Lib.JsonText

namespace Daao.Ipc

open Daao.Lib Daao.Lib.JsonText List Function

/-! ## 1. The decoder -/

inductive Found where
  | value (v : Json) (rest : GoString)
  | malformed
  /-- the bytes are used up -/
  | pending (s : Scanner)

/-- `readValue`. An object or array ends with its bracket; a string or a
literal with the byte after it, and a number with a byte that is not part
of it. -/
def readValue : Scanner → GoString → Found
  | s, [] => .pending s
  | s, c :: rest =>
    match s.value with
    | some v => .value v (c :: rest)
    | none =>
      match JsonText.step s c with
      | none =>
        match s.eof with
        | some v => .value v (c :: rest)
        | none => .malformed
      | some s' =>
        match s'.value with
        | some v =>
          if isSpace c || c = '}'.toUInt8 || c = ']'.toUInt8 then .value v rest
          else readValue s' rest
        | none => readValue s' rest

def fresh : Scanner := { stack := [], mode := .beginValue }

inductive Ending where
  | eof
  | connError
  | silence
  deriving DecidableEq

inductive DecodeError where
  | eof
  | syntaxError
  | readError (ending : Ending)
  | wrongType
  deriving DecidableEq

structure Decoder where
  rest : GoString
  err : Option DecodeError

/-- `JSONRPCMessage`, as far as the server reads it. -/
structure Message where
  jsonrpc : String
  method : String
  id : Json

structure RpcError where
  code : Int
  message : String

/-- A field of type `any`: the numbers of its value are decoded into
`float64`. -/
def anyField {σ : Type} (name : String) (store : σ → Json → σ) : StructField σ :=
  { name := name, accepts := Json.inRange, store := store }

def rpcErrorFields : List (StructField RpcError) :=
  [.scalar "code" Json.asInt fun r v => { r with code := v },
   .scalar "message" Json.asString fun r v => { r with message := v },
   anyField "data" fun r _ => r]

/-- `params` and `result` are kept raw: any value does. -/
def messageFields : List (StructField Message) :=
  [.scalar "jsonrpc" Json.asString fun r v => { r with jsonrpc := v },
   .scalar "method" Json.asString fun r v => { r with method := v },
   anyField "id" fun r v => { r with id := v },
   { name := "error"
     accepts := fun v => (unmarshal rpcErrorFields { code := 0, message := "" } v).ok
     store := fun r _ => r }]

def message (v : Json) : Option Message :=
  let decoded := unmarshal messageFields { jsonrpc := "", method := "", id := .null } v
  if decoded.ok then some decoded.value else none

def decodeAs (v : Json) (d : Decoder) : Except DecodeError Message × Decoder :=
  match message v with
  | some m => (.ok m, d)
  | none => (.error .wrongType, d)

def decode (ending : Ending) (d : Decoder) : Except DecodeError Message × Decoder :=
  match d.err with
  | some e => (.error e, d)
  | none =>
    let fail (e : DecodeError) : Except DecodeError Message × Decoder :=
      (.error e, { d with err := some e })
    match readValue fresh d.rest with
    | .value v rest => decodeAs v { d with rest := rest }
    | .malformed => fail .syntaxError
    | .pending s =>
      if ending = .eof then
        match s.eof with
        | some v => decodeAs v { d with rest := [] }
        | none => fail .eof
      else fail (.readError ending)

/-! ## 2. The loop -/

structure Response where
  id : Json
  result : Option Json
  error : Option (Int × String)

structure Config where
  /-- `OnMessage`: a response, if it gives one, or an error's text -/
  onMessage : Option (Message → Except String (Option Json))
  /-- `err.Error()` -/
  errorText : DecodeError → String

variable (cfg : Config)

def newErrorResponse (id : Json) (code : Int) (message : String) : Response :=
  { id := id, result := none, error := some (code, message) }

def handleMessage (m : Message) : List Response :=
  if m.method = "" then [newErrorResponse m.id (-32600) "Method not found"]
  else
    [{ id := m.id, result := some (.obj [("method", .str m.method), ("status", .str "ok")])
       error := none }]

def respond (m : Message) : List Response :=
  match cfg.onMessage with
  | none => handleMessage m
  | some onMessage =>
    match onMessage m with
    | .error text => [newErrorResponse m.id (-32603) text]
    | .ok resp => resp.toList.map fun result => { id := m.id, result := some result, error := none }

def parseError (e : DecodeError) : Response := newErrorResponse .null (-32700) (cfg.errorText e)

structure Conn where
  dec : Decoder
  sent : List Response
  returned : Bool

def turn (ending : Ending) (c : Conn) : Conn :=
  if c.returned then c
  else
    match decode ending c.dec with
    | (.ok m, dec) => { c with dec := dec, sent := c.sent ++ respond cfg m }
    | (.error .eof, dec) => { c with dec := dec, returned := true }
    | (.error e, dec) => { c with dec := dec, sent := c.sent ++ [parseError cfg e] }

def accepted (bytes : GoString) : Conn :=
  { dec := { rest := bytes, err := none }, sent := [], returned := false }

/-- `serveConn` after a number of turns. -/
def serveConn (ending : Ending) (bytes : GoString) (turns : Nat) : Conn :=
  (turn cfg ending)^[turns] (accepted bytes)

def Response.isParseError (r : Response) : Bool := r.error.any fun e => e.1 = -32700

/-! ## 3. Streams -/

inductive Reads : GoString → List Json → GoString → Prop where
  | rest {bytes : GoString} (h : ∀ v rest, readValue fresh bytes ≠ .value v rest) :
      Reads bytes [] bytes
  | value {bytes rest left : GoString} {v : Json} {vs : List Json}
      (h : readValue fresh bytes = .value v rest) : Reads rest vs left → Reads bytes (v :: vs) left

theorem left_not_value {bytes left : GoString} {vs : List Json} (h : Reads bytes vs left) :
    ∀ v rest, readValue fresh left ≠ .value v rest := by
  induction h with
  | rest h => exact h
  | value _ _ ih => exact ih

theorem length_readValue {s : Scanner} {b r : GoString} {v : Json}
    (h : readValue s b = .value v r) : r.length ≤ b.length := by
  induction b generalizing s with
  | nil => cases h
  | cons c b ih => grind [length_cons, readValue]

theorem length_readValue_fresh {bytes r : GoString} {v : Json}
    (h : readValue fresh bytes = .value v r) : r.length < bytes.length := by
  have hv : fresh.value = none := rfl
  have he : fresh.eof = none := rfl
  cases bytes with
  | nil => cases h
  | cons c bytes =>
    have hle (s : Scanner) (hs : readValue s bytes = .value v r) := length_readValue hs
    grind [readValue]

theorem exists_reads (b : GoString) : ∃ vs left, Reads b vs left := by
  induction hn : b.length using Nat.strong_induction_on generalizing b with
  | _ n ih =>
    by_cases h : ∃ v rest, readValue fresh b = .value v rest
    · obtain ⟨v, rest, h⟩ := h
      obtain ⟨vs, left, hr⟩ := ih _ (hn ▸ length_readValue_fresh h) rest rfl
      exact ⟨v :: vs, left, .value h hr⟩
    · exact ⟨[], b, .rest fun v rest hv => h ⟨v, rest, hv⟩⟩

variable {cfg} {ending : Ending} {c : Conn}

def reply (cfg : Config) (v : Json) : List Response :=
  match message v with
  | some m => respond cfg m
  | none => [parseError cfg .wrongType]

theorem length_reply (v : Json) : (reply cfg v).length ≤ 1 := by
  unfold reply respond handleMessage
  repeat' split
  all_goals simp

theorem turn_decodeAs {v : Json} {dec : Decoder} (hr : c.returned = false)
    (h : decode ending c.dec = decodeAs v dec) :
    turn cfg ending c = { c with dec := dec, sent := c.sent ++ reply cfg v } := by
  simp only [turn, hr, Bool.false_eq_true, if_false, h, decodeAs, reply]
  cases message v <;> rfl

theorem serveConn_succ (b : GoString) (turns : Nat) :
    serveConn cfg ending b (turns + 1) = turn cfg ending (serveConn cfg ending b turns) :=
  iterate_succ_apply' ..

theorem serveConn_of_returned {b : GoString} {t t' : Nat} (h : t ≤ t')
    (hr : (serveConn cfg ending b t).returned = true) :
    serveConn cfg ending b t' = serveConn cfg ending b t := by
  induction h with
  | refl => rfl
  | @step t' _ ih => rw [serveConn_succ, ih, turn, if_pos hr]

theorem turns_reads {b left : GoString} {vs : List Json} (h : Reads b vs left)
    (hc : c.returned = false) (hde : c.dec = { rest := b, err := none }) :
    (turn cfg ending)^[vs.length] c =
      { c with
        dec := { rest := left, err := none }
        sent := c.sent ++ vs.flatMap (reply cfg) } := by
  induction h generalizing c with
  | rest h => simp [← hde]
  | @value b rest left v vs h _ ih =>
    have hd : decode ending c.dec = decodeAs v { rest := rest, err := none } := by
      simp only [decode, hde, h]
    rw [length_cons, iterate_succ_apply, turn_decodeAs hc hd,
      ih (c := { c with dec := ⟨rest, none⟩, sent := c.sent ++ reply cfg v }) hc rfl]
    simp

theorem serveConn_reads {b left : GoString} {vs : List Json} (h : Reads b vs left) :
    serveConn cfg ending b vs.length =
      { dec := { rest := left, err := none }, sent := vs.flatMap (reply cfg), returned := false } :=
  turns_reads h rfl rfl

theorem parseErrors_reply (v : Json) :
    ((reply cfg v).filter Response.isParseError).length = if (message v).isNone then 1 else 0 := by
  cases hm : message v with
  | none => simp [reply, hm, parseError, newErrorResponse, Response.isParseError]
  | some m =>
    have hr : ∀ r ∈ respond cfg m, r.isParseError = false := by
      unfold respond handleMessage
      repeat' split
      all_goals simp [newErrorResponse, Response.isParseError]
    rw [reply, hm, filter_eq_nil_iff.mpr (by simpa using hr)]
    rfl

theorem parseErrors_flatMap (vs : List Json) :
    ((vs.flatMap (reply cfg)).filter Response.isParseError).length
      = (vs.filter fun v => (message v).isNone).length := by
  induction vs with
  | nil => rfl
  | cons v vs ih =>
    rw [flatMap_cons, filter_append, length_append, parseErrors_reply, ih, filter_cons]
    split <;> simp [add_comm]

/-- What the loop leaves of a stream that ends with an end of file and has no
malformed byte. -/
theorem serveConn_eof (cfg : Config) {b left : GoString} {vs : List Json} {s : Scanner}
    (hr : Reads b vs left) (hend : readValue fresh left = .pending s) :
    ∃ turns, (serveConn cfg .eof b turns).returned = true ∧
      (serveConn cfg .eof b turns).sent = (vs ++ s.eof.toList).flatMap (reply cfg) := by
  cases heo : s.eof with
  | none =>
    refine ⟨vs.length + 1, ?_⟩
    rw [serveConn_succ, serveConn_reads hr]
    simp [turn, decode, hend, heo]
  | some v =>
    -- the end of the file ends a value: one more turn
    have hl : serveConn cfg .eof b (vs.length + 1) =
        { dec := { rest := [], err := none }, sent := vs.flatMap (reply cfg) ++ reply cfg v
          returned := false } := by
      rw [serveConn_succ, serveConn_reads hr]
      exact turn_decodeAs rfl (by simp [decode, hend, heo])
    refine ⟨vs.length + 2, ?_⟩
    rw [serveConn_succ, hl]
    simp [turn, decode, readValue, show fresh.eof = none from rfl]

theorem turns_err {e : DecodeError} (he : e ≠ .eof) (hc : c.returned = false)
    (herr : c.dec.err = some e) (t : Nat) :
    (turn cfg ending)^[t] c
      = { c with sent := c.sent ++ replicate t (parseError cfg e) } := by
  induction t with
  | zero => simp
  | succ t ih =>
    rw [iterate_succ_apply', ih, replicate_succ', ← append_assoc]
    cases e with
    | eof => exact absurd rfl he
    | _ => simp [turn, decode, hc, herr]

/-- An error that stays with the decoder keeps the loop busy. -/
theorem not_returned_of_err {b left : GoString} {vs : List Json} {e : DecodeError}
    (hr : Reads b vs left) (he : e ≠ .eof)
    (hd : decode ending ⟨left, none⟩ = (.error e, ⟨left, some e⟩)) (turns : Nat) :
    (serveConn cfg ending b turns).returned = false := by
  have hn : serveConn cfg ending b (vs.length + 1) =
      { dec := { rest := left, err := some e }
        sent := vs.flatMap (reply cfg) ++ [parseError cfg e], returned := false } := by
    rw [serveConn_succ, serveConn_reads hr]
    cases e with
    | eof => exact absurd rfl he
    | _ => simp [turn, hd]
  have hlate : (serveConn cfg ending b (turns + (vs.length + 1))).returned = false := by
    rw [serveConn, iterate_add_apply, ← serveConn, hn, turns_err he rfl rfl]
  by_contra hret
  rw [Bool.not_eq_false] at hret
  rw [serveConn_of_returned (Nat.le_add_right ..) hret, hret] at hlate
  cases hlate

theorem sent_mono {b : GoString} {t t' : Nat} (h : t ≤ t') :
    (serveConn cfg ending b t).sent <+: (serveConn cfg ending b t').sent := by
  induction h with
  | refl => exact prefix_rfl
  | @step t' _ ih =>
    refine ih.trans ?_
    rw [serveConn_succ, turn]
    repeat' split
    all_goals simp

/-- The loop returns, answers each complete value, once at most, and sends
one parse error at most. -/
structure Served (cfg : Config) (ending : Ending) (bytes : GoString) (vs : List Json) : Prop where
  returns : ∃ turns, (serveConn cfg ending bytes turns).returned = true ∧
    vs.flatMap (reply cfg) <+: (serveConn cfg ending bytes turns).sent
  once : ∀ v, (reply cfg v).length ≤ 1
  parseErrors : ∀ turns,
    ((serveConn cfg ending bytes turns).sent.filter Response.isParseError).length ≤ 1

end Daao.Ipc

/-
Daao.Transport.TerminalInputTheorems — text that looks like a control
message is taken for one, and a ping makes two goroutines write at once.

The terminal gets what was typed just when no typed text passes the test
for a ping or a resize. A text that does is swallowed whole, and nothing
can make up for it, because no message ever adds more input than was
typed. The reader writes for pings only, so without one there is a single
writer; with one, the answer to it and the notice of the session's end can
be under way at the same time.
-/
import Daao.Transport.TerminalInput

namespace Daao.Transport

open Daao.Lib List Option ClientMessage

/-! ## 1. The frames of control messages -/

variable (size : TermSize)

theorem parse_resize : JsonText.parse (resize size).frame = some size.toJson := by
  have hcols : size.cols ≠ 0 := by have := size.cols_pos; omega
  have hrows : size.rows ≠ 0 := by have := size.rows_pos; omega
  have hbegin : run JsonText.step { stack := [], mode := .beginValue }
      (go "\x7b\"type\":\"resize\",\"cols\":")
      = some { stack := [.named [("type", .str "resize")] "cols"], mode := .beginValue } := rfl
  have hbetween (entries : List (String × Json)) :
      run JsonText.step { stack := [.key entries], mode := .beginString } (go "\"rows\":")
        = some { stack := [.named entries "rows"], mode := .beginValue } := rfl
  rw [JsonText.parse, frame, run_append, run_append, hbegin, Option.bind_some,
    JsonText.run_decimal hcols _ (.inl rfl)]
  change (run JsonText.step { stack := [.key _], mode := .beginString } _).bind _ = _
  rw [run_append, hbetween, Option.bind_some, JsonText.run_decimal hrows _ (.inr rfl)]
  rfl

theorem isPing_ping : isPing ping.frame = true := by
  unfold isPing unmarshalText
  decide

theorem unmarshal_ping_resize :
    unmarshal pingFields { type := "" } size.toJson
      = { value := { type := "resize" }, ok := true } := by
  have ht : fieldOf pingFields "type" = pingFields[0]? :=
    (fieldOf_eq_some_iff (by decide)).mpr ⟨mem_cons_self, rfl⟩
  have hc : fieldOf pingFields "cols" = none := isNone_iff_eq_none.mp (by decide)
  have hr : fieldOf pingFields "rows" = none := isNone_iff_eq_none.mp (by decide)
  simp only [unmarshal, TermSize.toJson, decodeFields, acceptsFields, all_cons, all_nil, ht, hc, hr]
  rfl

theorem isPing_resize : isPing (resize size).frame = false := by
  unfold isPing unmarshalText
  rw [parse_resize]
  simp [unmarshal_ping_resize]

theorem asInt32_natCast {n : Nat} (hn : n ≤ 2147483647) : asInt32 (.int n) = some (n : Int) := by
  simp only [asInt32]
  rw [if_pos (by omega)]

theorem unmarshal_ctrl_resize :
    unmarshal ctrlFields { type := "", cols := 0, rows := 0 } size.toJson
      = { value := { type := "resize", cols := size.cols, rows := size.rows }, ok := true } := by
  have hn : (ctrlFields.map fun f => foldName f.name).Nodup := by decide
  have ht : fieldOf ctrlFields "type" = ctrlFields[0]? :=
    (fieldOf_eq_some_iff hn).mpr ⟨mem_cons_self, rfl⟩
  have hc : fieldOf ctrlFields "cols" = ctrlFields[1]? :=
    (fieldOf_eq_some_iff hn).mpr ⟨mem_cons_of_mem _ mem_cons_self, rfl⟩
  have hr : fieldOf ctrlFields "rows" = ctrlFields[2]? :=
    (fieldOf_eq_some_iff hn).mpr ⟨mem_cons_of_mem _ (mem_cons_of_mem _ mem_cons_self), rfl⟩
  simp only [unmarshal, TermSize.toJson, decodeFields, acceptsFields, all_cons, all_nil, ht, hc, hr]
  simp only [ctrlFields, getElem?_cons_zero, getElem?_cons_succ, StructField.scalar,
    Json.asString, asInt32_natCast size.cols_le, asInt32_natCast size.rows_le, isSome_some,
    Bool.or_true, Bool.and_true]

theorem resizeOf_resize :
    resizeOf (resize size).frame = some ((size.cols : Int), (size.rows : Int)) := by
  have hc := size.cols_pos
  have hr := size.rows_pos
  unfold resizeOf unmarshalText
  rw [parse_resize]
  simp only [unmarshal_ctrl_resize, if_true, bind_some]
  rw [if_pos ⟨trivial, by omega, by omega⟩]

/-! ## 2. What the terminal gets -/

theorem isControl_nil : isControl [] = false := by decide

variable {msg : GoString}

theorem processTerminalMessage_of_not_control (hm : msg ≠ [])
    (h : isControl msg = false) : processTerminalMessage msg = .send (.terminalInput msg) := by
  rw [isControl, Bool.or_eq_false_iff, isSome_eq_false_iff, isNone_iff_eq_none] at h
  rw [processTerminalMessage, if_neg (by simpa using hm), h.1, h.2]
  rfl

theorem processTerminalMessage_of_control (h : isControl msg = true)
    (d : GoString) : processTerminalMessage msg ≠ .send (.terminalInput d) := by
  rw [isControl, Bool.or_eq_true] at h
  unfold processTerminalMessage
  split
  · exact nofun
  · grind

theorem processTerminalMessage_eq_pong_iff :
    processTerminalMessage msg = .pong ↔ isPing msg = true := by
  unfold processTerminalMessage
  split
  · rename_i he
    rw [length_eq_zero_iff.mp he]
    exact iff_of_false nofun (by decide)
  · grind

theorem handled_ping : processTerminalMessage ping.frame = .pong :=
  processTerminalMessage_eq_pong_iff.mpr isPing_ping

def forwarded (m : ClientMessage) : GoString := inputData (toSession [m])

theorem inputData_toSession (s : List ClientMessage) :
    inputData (toSession s) = s.flatMap forwarded := by
  induction s with
  | nil => rfl
  | cons m s ih =>
    rw [flatMap_cons, ← ih, forwarded, inputData, inputData, inputData, ← flatMap_append,
      toSession, toSession, toSession, ← filterMap_append, singleton_append]

theorem forwarded_ping : forwarded .ping = [] := by
  simp [forwarded, toSession, handled_ping, inputData]

theorem length_ne_zero_of_isControl (h : isControl msg = true) :
    msg.length ≠ 0 := by
  intro hz
  rw [length_eq_zero_iff.mp hz, isControl_nil] at h
  cases h

theorem handled_resize :
    processTerminalMessage (resize size).frame
      = .send (.resizeCommand size.cols size.rows) := by
  have hc : isControl (resize size).frame = true := by
    simp [isControl, resizeOf_resize]
  rw [processTerminalMessage, if_neg (length_ne_zero_of_isControl hc), isPing_resize,
    resizeOf_resize]
  rfl

theorem forwarded_resize : forwarded (.resize size) = [] := by
  simp [forwarded, toSession, handled_resize, inputData]

theorem forwarded_text_of_control {data : String} (h : isControl (utf8 data) = true) :
    forwarded (.text data) = [] := by
  have hn := processTerminalMessage_of_control h
  simp only [forwarded, toSession, filterMap_cons, filterMap_nil, frame]
  cases hh : processTerminalMessage (utf8 data) with
  | nothing => rfl
  | pong => rfl
  | send out =>
    cases out with
    | terminalInput s => exact absurd hh (hn s)
    | resizeCommand w he => rfl

theorem forwarded_text_of_not_control {data : String} (h : isControl (utf8 data) = false) :
    forwarded (.text data) = utf8 data := by
  by_cases he : utf8 data = []
  · simp [forwarded, toSession, frame, he, processTerminalMessage, inputData]
  simp [forwarded, toSession, frame, processTerminalMessage_of_not_control he h, inputData]

def typedBy : ClientMessage → GoString
  | .text data => utf8 data
  | _ => []

theorem typed_eq (s : List ClientMessage) : typed s = s.flatMap typedBy := by
  refine flatMap_congr fun m _ => ?_
  cases m <;> rfl

theorem length_forwarded_le (m : ClientMessage) : (forwarded m).length ≤ (typedBy m).length := by
  cases m with
  | ping => simp [forwarded_ping]
  | resize size => simp [forwarded_resize]
  | text data =>
    cases h : isControl (utf8 data) with
    | true => simp [forwarded_text_of_control h]
    | false => simp [forwarded_text_of_not_control h, typedBy]

theorem length_forwarded_eq {s : List ClientMessage}
    (h : (s.flatMap forwarded).length = (s.flatMap typedBy).length) :
    ∀ m ∈ s, (forwarded m).length = (typedBy m).length := by
  have hle : ∀ s : List ClientMessage,
      (s.flatMap forwarded).length ≤ (s.flatMap typedBy).length := by
    intro s
    induction s with
    | nil => exact le_refl _
    | cons m s ih =>
      simp only [flatMap_cons, length_append]
      exact add_le_add (length_forwarded_le m) ih
  induction s with
  | nil => exact fun m hm => absurd hm not_mem_nil
  | cons m s ih => grind [length_append, length_forwarded_le]

theorem resizes_toSession {msgs : List ClientMessage}
    (h : ∀ data, .text data ∈ msgs → isControl (utf8 data) = false) :
    resizes (toSession msgs) = resizeControls msgs := by
  unfold resizes toSession resizeControls
  rw [filterMap_filterMap]
  refine filterMap_congr fun m hm => ?_
  cases m with
  | ping => simp [handled_ping]
  | resize size => simp [handled_resize]
  | text data =>
    by_cases he : utf8 data = []
    · simp [frame, he, processTerminalMessage]
    · simp [frame, processTerminalMessage_of_not_control he (h data hm)]

/-- **Transparency.** For every sequence of texts and controls, the
terminal gets the texts and the resizes just when none of the texts is a
document that the handler takes for a control. -/
theorem transparent_iff (msgs : List ClientMessage) :
    Transparent msgs ↔ ∀ data, .text data ∈ msgs → isControl (utf8 data) = false := by
  constructor
  · intro h data hd
    cases hc : isControl (utf8 data) with
    | false => rfl
    | true =>
      -- this text is swallowed, so the whole is too short
      have hl := congrArg List.length h.1
      rw [inputData_toSession, typed_eq] at hl
      have ht := length_forwarded_eq hl (.text data) hd
      rw [forwarded_text_of_control hc] at ht
      exact absurd ht.symm (length_ne_zero_of_isControl hc)
  · intro h
    refine ⟨?_, resizes_toSession h⟩
    rw [inputData_toSession, typed_eq]
    refine flatMap_congr fun m hm => ?_
    cases m with
    | ping => exact forwarded_ping
    | resize size => exact forwarded_resize size
    | text data => exact forwarded_text_of_not_control (h data hm)

def pastedPing : String := "\x7b \"Type\": \"ping\", \"n\": [1] \x7d"

/-- It never arrives. -/
theorem paste_swallowed : ¬ Transparent [.text "echo ", .text pastedPing] ∧
    toSession [.text "echo ", .text pastedPing] = [.terminalInput (utf8 "echo ")] := by
  unfold Transparent
  decide

/-! ## 3. Two writers -/

namespace TerminalConn

theorem reader_ne_writing_step {c : Int} {s s' : TerminalConn} {a : Act}
    (hs : s.reader ≠ .writing) (ha : ∀ msg, a = .receive msg → isPing msg = false)
    (hst : step c s a = some s') : s'.reader ≠ .writing := by
  cases a <;> simp only [step] at hst
  case receive msg =>
    have hp : processTerminalMessage msg ≠ .pong := by
      rw [Ne, processTerminalMessage_eq_pong_iff, ha msg rfl]
      exact Bool.false_ne_true
    simp only at hst
    split at hst <;> cases hst
    exact hs
  case readError | pongEnd => grind
  case pollTick => grind [map_eq_some_iff]
  case pollEnd ok => grind
  case stateTick ended => grind
  case notifyEnd | inputDone => grind
  case gatewayWrite data =>
    obtain ⟨b, -, rfl⟩ := map_eq_some_iff.mp hst
    exact hs

theorem mem_received {msg : GoString} {acts : List Act} :
    msg ∈ received acts ↔ .receive msg ∈ acts := by
  simp only [received, mem_filterMap]
  constructor
  · grind
  · exact fun h => ⟨_, h, rfl⟩

def exchange (msg : GoString) : List Act :=
  if isPing msg then [.receive msg, .pongEnd] else [.receive msg]

theorem received_append (a acts' : List Act) :
    received (a ++ acts') = received a ++ received acts' :=
  filterMap_append

theorem received_exchanges (msgs : List GoString) : received (msgs.flatMap exchange) = msgs := by
  induction msgs with
  | nil => rfl
  | cons msg msgs ih =>
    have ho : received (exchange msg) = [msg] := by
      unfold exchange
      split <;> rfl
    rw [flatMap_cons, received_append, ho, ih, singleton_append]

theorem step_receive (c : Int) (s : TerminalStream) (msg : GoString) :
    step c (start s) (.receive msg)
      = some { start s with reader := if isPing msg then .writing else .reading } := by
  simp only [step, start, if_true]
  cases hp : isPing msg with
  | true =>
    rw [processTerminalMessage_eq_pong_iff.mpr hp]
    rfl
  | false =>
    have hpo : processTerminalMessage msg ≠ .pong := by
      rw [Ne, processTerminalMessage_eq_pong_iff, hp]
      exact Bool.false_ne_true
    split
    · grind
    · rfl

theorem run_exchanges (c : Int) (s : TerminalStream) (m : List GoString) :
    run (step c) (start s) (m.flatMap exchange) = some (start s) := by
  induction m with
  | nil => rfl
  | cons msg m ih =>
    have ho : run (step c) (start s) (exchange msg) = some (start s) := by
      unfold exchange
      cases hp : isPing msg with
      | true =>
        rw [if_pos rfl, run_cons, step_receive, hp]
        rfl
      | false =>
        rw [if_neg Bool.false_ne_true, run_singleton, step_receive, hp]
        rfl
    rw [flatMap_cons, run_append, ho, bind_some, ih]

/-- **One writer.** Whatever the ticks and the terminal data, no state in
which the reader has handled messages of `msgs` has two writes in progress
just when none of them is a ping. -/
theorem overlap_iff (capacity : Int) (stream : TerminalStream) (msgs : List GoString) :
    (∀ acts s, run (step capacity) (start stream) acts = some s → received acts <+: msgs →
        ¬ s.Overlap)
      ↔ ∀ msg ∈ msgs, isPing msg = false := by
  constructor
  · intro he msg hm
    cases hp : isPing msg with
    | false => rfl
    | true =>
      -- handle what comes before it, then begin the pong and the notice
      obtain ⟨bef, aft, rfl⟩ := append_of_mem hm
      exfalso
      refine he (bef.flatMap exchange ++ [.receive msg, .stateTick true])
        { start stream with reader := .writing, loop := .notifying } ?_ ?_ ⟨rfl, rfl⟩
      · rw [run_append, run_exchanges, bind_some, run_cons, step_receive, hp]
        rfl
      rw [received_append, received_exchanges]
      exact ⟨aft, by simp [received]⟩
  · intro hn acts s hru hr ho
    have hok : Along (step capacity) (fun _ a => ∀ msg, a = .receive msg → isPing msg = false)
        (start stream) acts := by
      refine along_of_forall_mem fun a ha msg hm => ?_
      subst hm
      exact hn msg (hr.subset (mem_received.mpr ha))
    have hre := run_invariant_along (fun _ _ _ => reader_ne_writing_step)
      (show (start stream).reader ≠ .writing from nofun) hok hru
    exact hre (by simpa [readerWrites] using ho.1)

def freshStream : TerminalStream := { buffer := none, attached := false, lastLen := 0, sent := [] }

/-- The Cockpit's ping, and output that arrives while it is answered. -/
theorem pong_and_data_overlap :
    ∃ s ∈ run (step 8) (start freshStream)
        [.receive ClientMessage.ping.frame, .gatewayWrite [0x61], .pollTick, .pollTick],
      s.Overlap := by
  decide

end TerminalConn

end Daao.Transport

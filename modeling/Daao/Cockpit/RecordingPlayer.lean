/-
Daao.Cockpit.RecordingPlayer — playback of a recording
(`src/pages/RecordingPlayer.tsx` of the cockpit), once it is loaded.

The position is kept twice, as the component's state `currentIndex` and in
`currentIndexRef`. Every function that moves it sets both. A commit makes
the state that was set last the current one, and an effect copies it into
the ref some time later (`copies`); another effect starts and stops the
playback (`plays`). At most one timer is pending, and when it fires does
not matter here, so the events' offsets are left out and of the speed only
that it was changed is kept.
-/
import Daao.Lib.Trace

namespace Daao.Cockpit.RecordingPlayer

open Daao.Lib List

structure AsciicastEvent where
  type : String
  data : String

structure Player where
  currentIndex : Nat
  isPlaying : Bool
  currentIndexRef : Nat
  /-- what was written to the terminal since it was reset -/
  written : List String
  timer : Bool
  /-- the updates of the state that have not been committed -/
  setCurrentIndex : Option Nat
  setIsPlaying : Option Bool
  setSpeed : Bool
  copies : List Nat
  plays : List Bool

def start : Player :=
  { currentIndex := 0, isPlaying := false, currentIndexRef := 0, written := [], timer := false
    setCurrentIndex := none, setIsPlaying := none, setSpeed := false, copies := [], plays := [] }

variable (events : List AsciicastEvent)

/-- The data of the output events with an index below this one. -/
def outputs (index : Nat) : List String :=
  ((events.take index).filter (·.type = "o")).map AsciicastEvent.data

def moveTo (s : Player) (index : Nat) (written : List String) : Player :=
  { s with setCurrentIndex := some index, currentIndexRef := index, written := written }

def scheduleNext (s : Player) : Player :=
  match events[s.currentIndexRef]? with
  | none => { s with setIsPlaying := some false }
  | some event =>
    let written := if event.type = "o" then s.written ++ [event.data] else s.written
    let s := moveTo s (s.currentIndexRef + 1) written
    if s.currentIndexRef < events.length then { s with timer := true }
    else { s with setIsPlaying := some false }

def handlePlay (s : Player) : Player :=
  { (if events.length ≤ s.currentIndex then moveTo s 0 [] else s) with setIsPlaying := some true }

def handlePause (s : Player) : Player := { s with setIsPlaying := some false, timer := false }

def handleRestart (s : Player) : Player := moveTo (handlePause s) 0 []

/-- `replayUpTo` resets the terminal and writes the events again. -/
def handleSeek (s : Player) (targetIndex : Nat) : Player :=
  moveTo (handlePause s) targetIndex (outputs events targetIndex)

def commit (s : Player) : Player :=
  let index := s.setCurrentIndex.getD s.currentIndex
  let playing := s.setIsPlaying.getD s.isPlaying
  { s with
    currentIndex := index, isPlaying := playing
    setCurrentIndex := none, setIsPlaying := none, setSpeed := false
    copies := if index = s.currentIndex then s.copies else s.copies ++ [index]
    plays := if playing = s.isPlaying ∧ s.setSpeed = false then s.plays else s.plays ++ [playing] }

inductive Act where
  | play
  | pause
  | restart
  | seek (targetIndex : Nat)
  | changeSpeed
  | commit
  | copyEffect
  | playEffect
  | timeout

def step (s : Player) : Act → Option Player
  | .play => some (handlePlay events s)
  | .pause => some (handlePause s)
  | .restart => some (handleRestart s)
  | .seek targetIndex => some (handleSeek events s targetIndex)
  | .changeSpeed => some { s with setSpeed := true }
  | .commit => some (commit s)
  | .copyEffect =>
    match s.copies with
    | [] => none
    | index :: copies => some { s with currentIndexRef := index, copies := copies }
  | .playEffect =>
    match s.plays with
    | [] => none
    | playing :: plays =>
      -- the timer is cleared when the effect before this one is cleaned up
      let s := { s with plays := plays, timer := false }
      some (if playing then scheduleNext events s else s)
  | .timeout => if s.timer then some (scheduleNext events { s with timer := false }) else none

/-- The position is not moved while an effect that copies it is
outstanding. -/
def prompt (s : Player) : Act → Bool
  | .pause | .changeSpeed | .commit | .copyEffect => true
  | _ => s.copies.isEmpty

structure Inv (s : Player) : Prop where
  written : s.written = outputs events s.currentIndexRef
  set : ∀ index ∈ s.setCurrentIndex, index = s.currentIndexRef
  copies : ∀ index ∈ s.copies, index = s.currentIndexRef

variable {events}

theorem Inv.moveTo {s : Player} (hc : s.copies.isEmpty = true) {i : Nat} {w : List String}
    (hw : w = outputs events i) : Inv events (moveTo s i w) :=
  ⟨hw, by simp [RecordingPlayer.moveTo],
    by simp [RecordingPlayer.moveTo, isEmpty_iff.mp hc]⟩

theorem outputs_succ {index : Nat} {e : AsciicastEvent} (h : events[index]? = some e) :
    outputs events (index + 1)
      = if e.type = "o" then outputs events index ++ [e.data]
        else outputs events index := by
  rw [outputs, take_add_one, h]
  split <;> simp_all [outputs]

theorem Inv.scheduleNext {s : Player} (h : Inv events s) (hc : s.copies.isEmpty = true) :
    Inv events (scheduleNext events s) := by
  fun_cases RecordingPlayer.scheduleNext events s with
  | case1 => exact { h with }
  | case2 e he | case3 e he =>
    have hw := outputs_succ he
    rw [← h.written] at hw
    exact { Inv.moveTo hc hw.symm with }

theorem Inv.commit {s : Player} (h : Inv events s) : Inv events (commit s) := by
  refine ⟨h.written, by simp [RecordingPlayer.commit], fun index hi => ?_⟩
  simp only [RecordingPlayer.commit] at hi
  split at hi
  · exact h.copies index hi
  rename_i hne
  rcases mem_append.mp hi with hold | hn
  · exact h.copies index hold
  cases hs : s.setCurrentIndex with
  | none => simp [hs] at hne
  | some n =>
    simp only [hs, Option.getD_some, mem_singleton] at hn
    exact hn ▸ h.set n (by simp [hs])

theorem inv_step {s s' : Player} {a : Act} (h : Inv events s) (hp : prompt s a = true)
    (hs : step events s a = some s') : Inv events s' := by
  cases a <;> simp only [step] at hs
  case play =>
    cases hs
    unfold handlePlay
    split
    · exact { Inv.moveTo hp rfl with }
    · exact { h with }
  case pause | changeSpeed =>
    cases hs
    exact { h with }
  case restart =>
    cases hs
    exact Inv.moveTo (s := handlePause s) hp rfl
  case seek targetIndex =>
    cases hs
    exact Inv.moveTo (s := handlePause s) hp rfl
  case commit =>
    cases hs
    exact h.commit
  case copyEffect =>
    split at hs <;> cases hs
    rename_i i copies hc
    obtain rfl : i = s.currentIndexRef := h.copies i (by simp [hc])
    exact { h with copies := fun i hi => h.copies i (by simp [hc, hi]) }
  case playEffect =>
    split at hs <;> cases hs
    split
    · exact Inv.scheduleNext { h with } hp
    · exact { h with }
  case timeout =>
    split at hs <;> cases hs
    exact Inv.scheduleNext { h with } hp

theorem inv_start : Inv events start := ⟨by simp [start, outputs], by simp [start], by simp [start]⟩

/-- If the position is not moved before the effect of the last commit has
copied it, the terminal shows what lies before the position, after every
step. -/
theorem written_eq_outputs (events : List AsciicastEvent) (acts : List Act)
    (hprompt : Along (step events) (fun s a => prompt s a = true) start acts) :
    ∀ s ∈ states (step events) start acts, s.written = outputs events s.currentIndexRef := by
  intro s hs
  have hi := forall_states_of_along (fun _ _ _ => inv_step) inv_start hprompt s hs
  exact hi.written

def threeEvents : List AsciicastEvent := [⟨"o", "a"⟩, ⟨"o", "b"⟩, ⟨"o", "c"⟩]

theorem written_eq_outputs_seek :
    let acts :=
      [.play, .commit, .playEffect, .commit, .copyEffect, .timeout, .commit, .copyEffect, .seek 1]
    Along (step threeEvents) (fun s a => prompt s a = true) start acts ∧
      ∀ s ∈ states (step threeEvents) start acts,
        s.written = outputs threeEvents s.currentIndexRef :=
  ⟨by decide, written_eq_outputs threeEvents _ (by decide)⟩

/-- The timer fires before the effect of the commit before it. The effect
sets the position back, and the second event is shown again. -/
theorem event_shown_twice :
    (run (step threeEvents) start
        [.play, .commit, .playEffect, .commit, .timeout, .copyEffect, .timeout]).map
      (fun s => (s.written, s.currentIndexRef)) = some (["a", "b", "b"], 2)
    ∧ outputs threeEvents 2 = ["a", "b"] := by
  decide

end Daao.Cockpit.RecordingPlayer

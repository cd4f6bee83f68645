/-
Daao.Daemon.StateSyncTheorems — when Nexus and the daemon agree on a
session's state.

The two transition tables differ, so not every report is accepted. What
makes the two agree is that the LAST report on its way carries the
daemon's state and will be accepted, or finds its state stored already
(`Arrives`). Every command that is still to be delivered will bring such a
report, so nothing need hold while there is one (`Linked`). `Core` says
which combinations of row, entry, commands and reports occur.
-/
import Daao.Daemon.StateSync
import Daao.Sessions.StateUpdatesTheorems
import Mathlib.Data.List.Perm.Basic

namespace Daao.Daemon.StateSync

open Daao.Lib Daao.Sessions List Option Uplink SessionStore

/-! ## 1. The last report -/

section

variable {Id : Type}

def reports (messages : List Control) : List SessionState :=
  messages.filterMap fun
    | .stateUpdate state => some (convertProtoToSessionState state)
    | .other => none

@[simp] theorem reports_nil : reports [] = [] := rfl

@[simp] theorem reports_cons_stateUpdate (state : ProtoState) (messages : List Control) :
    reports (.stateUpdate state :: messages)
      = convertProtoToSessionState state :: reports messages := rfl

@[simp] theorem reports_cons_other (messages : List Control) :
    reports (.other :: messages) = reports messages := rfl

@[simp] theorem reports_append (as bs : List Control) :
    reports (as ++ bs) = reports as ++ reports bs := filterMap_append

/-- The row will hold `state` when the gateway has handled its current
report and those in the queue. -/
def Arrives (row : Option SessionState) (handler : Handler Id) (queue : List SessionState)
    (state : SessionState) : Prop :=
  match queue.getLast? with
  | some last => last = state
  | none =>
    match handler with
    | .receiving => row = some state
    | .fetched _ existing target =>
      target = state ∧ (isTransitionValid existing.state state = true ∨ row = some state)
    | .validated _ _ target => target = state

variable {row : Option SessionState} {handler : Handler Id} {queue : List SessionState}
  {state target : SessionState} {id : Id} {existing : Session}

theorem arrives_snoc : Arrives row handler (queue ++ [state]) state := by
  simp [Arrives]

theorem arrives_fetch (h : Arrives row (.receiving : Handler Id) (target :: queue) state)
    (hr : isTransitionValid existing.state state = true ∨ row = some state) :
    Arrives row (.fetched id existing target) queue state := by
  cases queue with
  | nil => exact ⟨h, hr⟩
  | cons x queue =>
    exact h

/-- What the queue holds decides, unless it is empty. -/
theorem Arrives.imp {r' : Option SessionState} {handler' : Handler Id}
    (h : Arrives row handler queue state)
    (hi : Arrives row handler [] state → Arrives r' handler' [] state) :
    Arrives r' handler' queue state := by
  cases hl : queue.getLast? with
  | some a =>
    simp only [Arrives, hl] at h ⊢
    exact h
  | none =>
    cases getLast?_eq_none_iff.mp hl
    exact hi h

theorem arrives_store (h : Arrives row handler queue state) :
    Arrives (some state) handler queue state := by
  refine h.imp fun hi => ?_
  cases handler with
  | receiving => rfl
  | fetched id existing target => exact ⟨hi.1, .inr rfl⟩
  | validated id existing target => exact hi

end

/-! ## 2. The daemon's session -/

variable {entry : Option Entry}

theorem liveState_eq_some {state : SessionState} :
    liveState entry = some state ↔ ∃ e, entry = some e ∧ e.exited = false ∧ e.state = state := by
  cases entry with
  | none => simp [liveState]
  | some e => cases he : e.exited <;> simp [liveState, he]

theorem liveState_eq_none : liveState entry = none ↔ ∀ e, entry = some e → e.exited = true := by
  cases entry with
  | none => simp [liveState]
  | some e => cases he : e.exited <;> simp [liveState, he]

theorem handleNexusMessage_sessions (name : String) (entry : Option Entry) (created : Bool)
    (m : NexusMessage) :
    ((handleNexusMessage name entry created m).1).map Entry.state
      = Daemon.handleNexusMessage (Function.update (fun _ => none) name (entry.map Entry.state))
          created m name := by
  cases m with
  | startSessionCommand i | suspendCommand i | resumeCommand i
  | killCommand i =>
    by_cases hid : i = name
    · subst hid
      cases created <;> cases entry <;>
        simp [handleNexusMessage, handleStartSessionCommand, handleSuspendCommand,
          handleResumeCommand, handleKillCommand, Daemon.handleNexusMessage,
          Daemon.handleStartSessionCommand, Daemon.handleSuspendCommand,
          Daemon.handleResumeCommand, Daemon.handleKillCommand, setState, newEntry]
    cases created <;>
      simp [handleNexusMessage, hid, Ne.symm hid, Daemon.handleNexusMessage,
        Daemon.handleStartSessionCommand, Daemon.handleSuspendCommand,
        Daemon.handleResumeCommand, Daemon.handleKillCommand, setState]
  | sessionReconciliation a =>
    cases entry with
    | none =>
      simp [handleNexusMessage, handleSessionReconciliation, Daemon.handleNexusMessage,
        Daemon.handleSessionReconciliation, isOrphan]
    | some e =>
      by_cases hp : e.state ≠ .terminated ∧ name ∉ a <;>
        simp [handleNexusMessage, handleSessionReconciliation, Daemon.handleNexusMessage,
          Daemon.handleSessionReconciliation, isOrphan, hp]
  | other => simp [handleNexusMessage, Daemon.handleNexusMessage]

/-- What a message does to the session and what is reported of it. -/
inductive Handles (name : String) (entry : Option Entry) : NexusMessage → Handled → Prop
  | started : Handles name entry (.startSessionCommand name) (some newEntry, [.running])
  | failed : Handles name entry (.startSessionCommand name) (entry, [.terminated])
  | suspended {e : Entry} (held : entry = some e) : Handles name entry (.suspendCommand name)
      (some { e with state := .suspended }, [.suspended])
  | resumed {e : Entry} (held : entry = some e) : Handles name entry (.resumeCommand name)
      (some { e with state := .running, dms := e.dms.recordActivity }, [.running])
  | ended {m : NexusMessage} {states : List ProtoState}
      (asked : m = .killCommand name ∨ ∃ ids, m = .sessionReconciliation ids)
      (reported : ∀ p ∈ states, p = .terminated) : Handles name entry m (none, states)
  | unchanged {m : NexusMessage} (start : m ≠ .startSessionCommand name)
      (unknown : m = .suspendCommand name ∨ m = .resumeCommand name ∨ m = .killCommand name →
        entry = none) : Handles name entry m (entry, [])

theorem handles (name : String) (entry : Option Entry) (created : Bool) (m : NexusMessage) :
    Handles name entry m (handleNexusMessage name entry created m) := by
  cases m <;> simp only [handleNexusMessage]
  case sessionReconciliation ids =>
    cases entry with
    | none => exact .unchanged (by simp) fun _ => rfl
    | some e =>
      simp only [handleSessionReconciliation]
      split
      · refine .ended (.inr ⟨ids, rfl⟩) ?_
        split <;> simp
      · exact .unchanged (by simp) (by simp)
  case other => exact .unchanged (by simp) (by simp)
  -- the commands, for this session or another one
  all_goals
    split <;> rename_i hid
    swap
    · exact .unchanged (by simp [hid]) (by simp [hid])
    subst hid
  case startSessionCommand =>
    cases created
    · exact .failed
    · exact .started
  all_goals
    cases entry
    case none => exact .unchanged (by simp) fun _ => rfl
  case suspendCommand => exact .suspended rfl
  case resumeCommand => exact .resumed rfl
  case killCommand =>
    refine .ended (.inl rfl) ?_
    split <;> simp

/-! ### The switch

`TransitionSessionState` starts the switch when it is asked for DETACHED,
and its only caller asks for TERMINATED. -/

theorem unarmed_handle {name : String} {m : NexusMessage} {handled : Handled}
    (hh : Handles name entry m handled) (h : ∀ e, entry = some e → e.dms = newDeadManSwitch) :
    ∀ e, handled.1 = some e → e.dms = newDeadManSwitch := by
  intro e he
  cases hh
  case failed | unchanged => exact h e he
  case suspended e' held =>
    cases he
    exact h e' held
  case resumed held =>
    cases he
    simp only [h _ held]
    rfl
  all_goals
    cases he
  rfl

def Unarmed {Id : Type} (s : StateSync Id) : Prop :=
  ∀ e, s.entry = some e → e.dms = newDeadManSwitch

variable {e : Entry}

theorem recordActivity_of_unarmed (h : e.dms = newDeadManSwitch) :
    { e with dms := e.dms.recordActivity } = e := by
  cases e
  cases h
  rfl

theorem onSuspend_of_unarmed (h : e.dms = newDeadManSwitch) : onSuspend e = none := by
  simp [onSuspend, h, newDeadManSwitch, DeadManSwitch.monitors]

theorem onResume_of_unarmed (h : e.dms = newDeadManSwitch) : onResume e = none := by
  simp [onResume, h, newDeadManSwitch, DeadManSwitch.monitors]

section

variable {Id : Type} [DecidableEq Id] {parse : String → Option Id} {id : Id} {name : String}
  {s s' : StateSync Id}

theorem dmsSuspend_of_unarmed (h : Unarmed s) : step parse id name s .dmsSuspend = none := by
  cases he : s.entry with
  | none => simp [step, he]
  | some e => simp [step, he, onSuspend_of_unarmed (h e he)]

theorem dmsResume_of_unarmed (h : Unarmed s) : step parse id name s .dmsResume = none := by
  cases he : s.entry with
  | none => simp [step, he]
  | some e => simp [step, he, onResume_of_unarmed (h e he)]

theorem activity_of_unarmed (h : Unarmed s) (hs : step parse id name s .activity = some s') :
    s' = s := by
  obtain ⟨e, he, rfl⟩ := map_eq_some_iff.mp hs
  rw [recordActivity_of_unarmed (h e he), ← he]

theorem unarmed_step (h : Unarmed s) {a : Act} (hs : step parse id name s a = some s') :
    Unarmed s' := by
  cases a with
  | deliver cre =>
    simp only [step] at hs
    split at hs
    · split at hs
      · cases hs
      cases hs
      exact unarmed_handle (handles ..) h
    · cases hs
  | exit =>
    simp only [step] at hs
    split at hs
    · cases hs
    rename_i e hen
    split at hs
    · cases hs
    cases hs
    intro e' he'
    cases he'
    exact h e hen
  | activity => exact activity_of_unarmed h hs ▸ h
  | dmsSuspend =>
    rw [dmsSuspend_of_unarmed h] at hs
    cases hs
  | dmsResume =>
    rw [dmsResume_of_unarmed h] at hs
    cases hs
  -- the others leave the entry as it is
  | request r d now | enqueueOther | lose | drop c =>
    cases hs
    exact h
  | send i | loseCommand i | connect | replay =>
    simp only [step] at hs
    repeat' split at hs
    all_goals cases hs
    all_goals exact h
  | transmit | stopWriter | discard c | validate c now | write c now =>
    obtain ⟨_, -, rfl⟩ := map_eq_some_iff.mp hs
    exact h
  | close =>
    simp only [step] at hs
    split at hs
    · obtain ⟨_, -, rfl⟩ := map_eq_some_iff.mp hs
      exact h
    · cases hs
  | fetch c =>
    obtain ⟨⟨m, _⟩, -, hr⟩ := bind_eq_some_iff.mp hs
    cases m with
    | other =>
      simp only at hr
      split at hr <;> cases hr
      exact h
    | stateUpdate p =>
      obtain ⟨_, -, rfl⟩ := map_eq_some_iff.mp hr
      exact h

/-- **The switch never fires.** Whatever the parties do, no run has a step
in which it suspends or resumes the session. -/
theorem dms_never_fires (rows : SessionRows Id) (now : Nat) {a : List Act}
    (hr : run (step parse id name) (start rows id name now) a = some s) :
    step parse id name s .dmsSuspend = none ∧ step parse id name s .dmsResume = none := by
  have hs : Unarmed (start rows id name now) := fun e he => by cases he
  have h : Unarmed s := run_invariant (fun _ _ _ h hst => unarmed_step h hst) hs hr
  exact ⟨dmsSuspend_of_unarmed h, dmsResume_of_unarmed h⟩

end

/-! ## 3. Rows, entries, commands and reports that occur together -/

structure Core (name : String) (row : Option SessionState) (entry : Option Entry)
    (commands : List NexusMessage) (Carried : SessionState → Prop) : Prop where
  stored : row = some .provisioning ∨ row = some .running ∨ row = some .suspended ∨
    row = some .terminated
  held : ∀ e, entry = some e →
    e.state = .running ∨ e.state = .suspended ∨ e.state = .terminated ∧ e.exited = true
  carried : ∀ state, Carried state → state = .running ∨ state = .suspended ∨ state = .terminated
  named : ∀ m ∈ commands, m = .startSessionCommand name ∨ m = .suspendCommand name ∨
    m = .resumeCommand name ∨ m = .killCommand name
  /-- the session is started once -/
  once : commands.count (.startSessionCommand name) ≤ 1
  unstarted : .startSessionCommand name ∈ commands → liveState entry = none
  provisioning : row = some .provisioning →
    (∀ m ∈ commands, m = .startSessionCommand name) ∧
      (∀ e, entry = some e → e.state ≠ .suspended) ∧ ¬ Carried .suspended
  exits : Carried .terminated → .startSessionCommand name ∉ commands ∧ liveState entry = none
  terminated : row = some .terminated → .killCommand name ∈ commands ∨
    .startSessionCommand name ∉ commands ∧ liveState entry = none

section

variable {name : String} {row : Option SessionState} {entry : Option Entry}
  {commands commands' : List NexusMessage} {Carried Carried' : SessionState → Prop}

theorem Core.mono (h : Core name row entry commands Carried) (hsu : ∀ m ∈ commands', m ∈ commands)
    (hco : commands'.count (.startSessionCommand name) ≤ commands.count (.startSessionCommand name))
    (hki : .killCommand name ∈ commands → .killCommand name ∈ commands' ∨
      .startSessionCommand name ∉ commands' ∧ liveState entry = none)
    (hc : ∀ state, Carried' state → Carried state) :
    Core name row entry commands' Carried' where
  stored := h.stored
  held := h.held
  carried state hs := h.carried state (hc state hs)
  named m hm := h.named m (hsu m hm)
  once := hco.trans h.once
  unstarted hm := h.unstarted (hsu _ hm)
  provisioning hr := by
    obtain ⟨ha, he, hn⟩ := h.provisioning hr
    exact ⟨fun m hm => ha m (hsu m hm), he, fun hs => hn (hc _ hs)⟩
  exits hs := by
    obtain ⟨hst, hl⟩ := h.exits (hc _ hs)
    exact ⟨fun hm => hst (hsu _ hm), hl⟩
  terminated hr := by
    rcases h.terminated hr with hk | ⟨hst, hl⟩
    · exact hki hk
    · grind

theorem Core.perm (h : Core name row entry commands Carried) (hp : commands.Perm commands') :
    Core name row entry commands' Carried :=
  h.mono (fun _ hm => hp.mem_iff.mpr hm) (hp.count_eq _).ge
    (fun hk => .inl (hp.mem_iff.mp hk)) fun _ hs => hs

variable {state : SessionState}

section

variable (h : Core name row entry commands Carried)

include h

theorem Core.write (hs : state = .running ∨ Carried state) :
    Core name (some state) entry commands Carried := by
  refine { h with stored := ?_, provisioning := fun hr => ?_, terminated := fun hr => ?_ }
  · grind [h.carried]
  · grind [h.carried]
  · grind [h.exits]

/-- One more report is on its way. -/
theorem Core.carry (hs : state = .running ∨ state = .suspended ∨ state = .terminated)
    (hp : row = some .provisioning → state ≠ .suspended)
    (he : state = .terminated → .startSessionCommand name ∉ commands ∧ liveState entry = none)
    (hc : ∀ x, Carried' x → Carried x ∨ x = state) :
    Core name row entry commands Carried' := by
  refine { h with carried := fun x hx => ?_, provisioning := fun hr => ?_, exits := fun hx => ?_ }
  · grind [h.carried]
  · grind [h.provisioning]
  · grind [h.exits]

/-- Another entry: it does not run, unless the session is started. -/
theorem Core.withEntry {n' : Option Entry}
    (hh : ∀ e, n' = some e →
      e.state = .running ∨ e.state = .suspended ∨ e.state = .terminated ∧ e.exited = true)
    (hp : row = some .provisioning → ∀ e, n' = some e → e.state ≠ .suspended)
    (hl : liveState entry = none → liveState n' = none ∨
      .startSessionCommand name ∉ commands ∧ ¬ Carried .terminated ∧
        (row = some .terminated → .killCommand name ∈ commands)) :
    Core name row n' commands Carried := by
  refine { h with
    held := hh, unstarted := fun hm => ?_, exits := fun hs => ?_, terminated := fun hr => ?_
    provisioning := fun hr => ?_ }
  · exact (hl (h.unstarted hm)).resolve_right fun hn => hn.1 hm
  · grind [h.provisioning]
  · grind [h.exits]
  · grind [h.terminated]

end

def Commands (name : String) (state : SessionState) (m : NexusMessage) : Prop :=
  state = .suspended ∧ m = .suspendCommand name ∨ state = .running ∧ m = .resumeCommand name ∨
    state = .terminated ∧ m = .killCommand name

variable {m : NexusMessage}

theorem Core.request (h : Core name row entry commands Carried) (hm : Commands name state m) :
    Core name (some state) entry (m :: commands) Carried := by
  have hne : m ≠ .startSessionCommand name := by
    rcases hm with ⟨-, rfl⟩ | ⟨-, rfl⟩ | ⟨-, rfl⟩ <;> simp
  have hst : .startSessionCommand name ∈ m :: commands → .startSessionCommand name ∈ commands := by
    grind
  constructor
  case stored => rcases hm with ⟨rfl, -⟩ | ⟨rfl, -⟩ | ⟨rfl, -⟩ <;> simp
  case held => exact h.held
  case carried => exact h.carried
  case named =>
    intro x hx
    rcases mem_cons.mp hx with rfl | hx
    · rcases hm with ⟨-, rfl⟩ | ⟨-, rfl⟩ | ⟨-, rfl⟩ <;> simp
    · exact h.named x hx
  case once =>
    rw [count_cons_of_ne hne]
    exact h.once
  case unstarted => exact fun hx => h.unstarted (hst hx)
  case provisioning =>
    intro hr
    cases hr
    rcases hm with ⟨hs, -⟩ | ⟨hs, -⟩ | ⟨hs, -⟩ <;> cases hs
  case exits => grind [h.exits]
  case terminated =>
    intro hr
    cases hr
    rcases hm with ⟨hs, -⟩ | ⟨hs, -⟩ | ⟨-, rfl⟩
    · cases hs
    · cases hs
    · exact .inl mem_cons_self

/-! ### Delivery -/

theorem Core.start_not_mem
    (h : Core name row entry (.startSessionCommand name :: commands) Carried) :
    .startSessionCommand name ∉ commands := by
  have ho := h.once
  rw [count_cons_self] at ho
  exact count_eq_zero.mp (by omega)

theorem Core.tail (h : Core name row entry (m :: commands) Carried)
    (hk : m = .killCommand name → .startSessionCommand name ∉ commands ∧ liveState entry = none) :
    Core name row entry commands Carried := by
  grind [h.mono]

theorem Core.create (h : Core name row entry (.startSessionCommand name :: commands) Carried)
    (hc : ∀ state, Carried' state → Carried state ∨ state = .running) :
    Core name row (some newEntry) commands Carried' := by
  have hk : row = some .terminated → .killCommand name ∈ commands := by grind [h.terminated]
  refine carry (withEntry (h.tail fun hm => by cases hm) (fun e he => ?_) (fun _ e he => ?_)
    fun _ => .inr ⟨h.start_not_mem, fun hs => (h.exits hs).1 mem_cons_self, hk⟩)
    (.inl rfl) (fun _ => by simp) (fun hs => by cases hs) hc
  · cases he
    exact .inl rfl
  cases he
  simp [newEntry]

theorem Core.terminate (h : Core name row entry commands Carried) {n' : Option Entry}
    (hh : ∀ e, n' = some e → e.state = .terminated ∨ entry = some e)
    (hl : liveState n' = none) (hst : .startSessionCommand name ∉ commands')
    (hsu : ∀ m ∈ commands', m ∈ commands)
    (hc : ∀ state, Carried' state → Carried state ∨ state = .terminated) :
    Core name row n' commands' Carried' := by
  refine carry (mono (h.withEntry (fun e he => ?_) (fun hr e he => ?_)
    fun _ => .inl hl) hsu ((count_eq_zero.mpr hst).trans_le (Nat.zero_le _))
    (fun _ => .inr ⟨hst, hl⟩) fun _ hs => hs)
    (.inr (.inr rfl)) (fun _ => by simp) (fun _ => ⟨hst, hl⟩) hc
  · grind [h.held, liveState_eq_none]
  rcases hh e he with hs | he'
  · simp [hs]
  · exact (h.provisioning hr).2.1 e he'

theorem Core.setState {e e' : Entry} (h : Core name row (some e) (m :: commands) Carried)
    (hm : e'.state = .suspended ∧ m = .suspendCommand name ∨
      e'.state = .running ∧ m = .resumeCommand name) (hex : e'.exited = e.exited)
    (hc : ∀ x, Carried' x → Carried x ∨ x = e'.state) :
    Core name row (some e') commands Carried' := by
  have hno : row ≠ some .provisioning := by
    intro hr
    have hsa := (h.provisioning hr).1 m mem_cons_self
    rcases hm with ⟨-, rfl⟩ | ⟨-, rfl⟩ <;> cases hsa
  have hst : e'.state = .running ∨ e'.state = .suspended := by grind
  refine carry (withEntry (h.tail fun hk => ?_) (fun e₁ he => ?_)
    (fun hr => absurd hr hno) fun hn => .inl (liveState_eq_none.mpr fun e₁ he => ?_))
    (hst.imp_right .inl) (fun hr => absurd hr hno) (fun hs => ?_) hc
  · grind
  · cases he
    exact hst.imp_right .inl
  · cases he
    exact hex.trans (liveState_eq_none.mp hn e rfl)
  · grind

theorem Core.liveState (h : Core name row entry commands Carried)
    (hl : liveState entry = some state) : state = .running ∨ state = .suspended := by
  grind [h.held, liveState_eq_some]

theorem Core.accepts (h : Core name row entry [] Carried) {d : SessionState}
    (hl : StateSync.liveState entry = some state) (hro : row = some d) :
    isTransitionValid d state = true ∨ row = some state := by
  have hst := h.liveState hl
  rcases h.stored with hs | hs | hs | hs <;> rw [hs] at hro <;> cases hro
  · -- a row that is PROVISIONING belongs to a session that was not suspended
    obtain ⟨e, he, -, rfl⟩ := liveState_eq_some.mp hl
    rcases hst with hr | hr
    · exact .inl (by rw [hr]; rfl)
    · exact absurd hr ((h.provisioning hs).2.1 e he)
  · rcases hst with rfl | rfl
    · exact .inr hs
    · exact .inl rfl
  · rcases hst with rfl | rfl
    · exact .inl rfl
    · exact .inr hs
  rcases h.terminated hs with hk | ⟨-, hn⟩
  · cases hk
  · simp [hl] at hn

/-! ### The handlers -/

theorem Core.handle {handled : Handled} (h : Core name row entry (m :: commands) Carried)
    (hh : Handles name entry m handled)
    (hk : m = .killCommand name → .startSessionCommand name ∉ commands)
    (hc : ∀ x, Carried' x → Carried x ∨ x ∈ handled.2.map convertProtoToSessionState) :
    Core name row handled.1 commands Carried' := by
  have hsu : ∀ x ∈ commands, x ∈ m :: commands := fun x hx => mem_cons_of_mem _ hx
  have ho : ∀ {p}, handled.2 = [p] → ∀ x, Carried' x → Carried x ∨
      x = convertProtoToSessionState p := by
    intro p hp
    simpa [hp] using hc
  cases hh
  case started => exact h.create (ho rfl)
  case failed =>
    exact h.terminate (fun e he => .inr he) (h.unstarted mem_cons_self) h.start_not_mem hsu (ho rfl)
  case suspended held =>
    subst held
    exact h.setState (.inl ⟨rfl, rfl⟩) rfl (ho rfl)
  case resumed held =>
    subst held
    exact h.setState (.inr ⟨rfl, rfl⟩) rfl (ho rfl)
  case ended states hr ha =>
    have hm : m = .killCommand name := by
      rcases h.named m mem_cons_self with hm | hm | hm | hm <;> simp_all
    refine h.terminate (fun e he => by cases he) rfl (hk hm) hsu fun x hx => ?_
    refine (hc x hx).imp_right fun hx => ?_
    obtain ⟨p, hp, rfl⟩ := mem_map.mp hx
    rw [hr p hp]
    rfl
  case unchanged hs hn =>
    refine mono (h.tail fun hm => ⟨hk hm, by rw [hn (.inr (.inr hm))]; rfl⟩) (fun _ hm => hm) le_rfl
      .inl fun x hx => ?_
    simpa using hc x hx

theorem Core.handle_live {handled : Handled} (h : Core name row entry (m :: commands) Carried)
    (hh : Handles name entry m handled)
    (hl : StateSync.liveState handled.1 = some state) :
    ∃ p, handled.2 = [p] ∧ convertProtoToSessionState p = state := by
  obtain ⟨e, he, hex, rfl⟩ := liveState_eq_some.mp hl
  cases hh
  case failed =>
    -- the session did not run before, and was not created
    have := liveState_eq_none.mp (h.unstarted mem_cons_self) e he
    simp [hex] at this
  case unchanged hs hn =>
    rw [hn ((h.named m mem_cons_self).resolve_left hs)] at he
    cases he
  case ended => cases he
  all_goals
    cases he
    exact ⟨_, rfl, rfl⟩

end

/-! ## 4. The invariant -/

section

variable {Id : Type}

def inFlight (s : StateSync Id) : List NexusMessage := s.pending ++ s.commands

def target : Handler Id → Option SessionState
  | .receiving => none
  | .fetched _ _ target => some target
  | .validated _ _ target => some target

def Concerns (id : Id) : Handler Id → Prop
  | .receiving => True
  | .fetched id' _ _ => id' = id
  | .validated id' _ _ => id' = id

def Carried (s : StateSync Id) (state : SessionState) : Prop :=
  (∃ p, s.uplink.Carries (.stateUpdate p) ∧ convertProtoToSessionState p = state) ∨
    ∃ c, target (s.updates.handlers c) = some state

def Synced (s : StateSync Id) : Prop := s.loop = .receiving ∧ s.uplink.alive = true

def Alone (s : StateSync Id) : Prop :=
  ∀ c, c ≠ s.uplink.conn →
    reports (s.uplink.wire c) = [] ∧ s.updates.handlers c = .receiving

/-- What Nexus stores will be what the daemon holds. -/
def Linked (id : Id) (s : StateSync Id) : Prop :=
  ∀ state, liveState s.entry = some state → inFlight s ≠ [] ∨
    Arrives (stateOf s.updates.rows id) (s.updates.handlers s.uplink.conn)
      (reports s.uplink.line) state

structure Inv (id : Id) (name : String) (s : StateSync Id) : Prop where
  core : Core name (stateOf s.updates.rows id) s.entry (inFlight s) (Carried s)
  concerns : ∀ c, Concerns id (s.updates.handlers c)
  bounded : s.uplink.Bounded
  later : ∀ c, s.uplink.conn < c → s.updates.handlers c = .receiving
  alone : Synced s → Alone s
  linked : Synced s → Linked id s

/-! ### Reporting -/

@[simp] theorem sendAll_frame (u : Uplink Control) (t : List ProtoState) :
    (sendAll u t).conn = u.conn ∧ (sendAll u t).alive = u.alive
      ∧ (sendAll u t).wire = u.wire := by
  induction t generalizing u with
  | nil => exact ⟨rfl, rfl, rfl⟩
  | cons state t ih => simp [sendAll, ih]

theorem carries_sendAll {u : Uplink Control} {states : List ProtoState} {p : ProtoState}
    (h : (sendAll u states).Carries (.stateUpdate p)) :
    u.Carries (.stateUpdate p) ∨ p ∈ states := by
  induction states generalizing u with
  | nil => exact .inl h
  | cons state states ih =>
    rcases ih h with h | h
    · grind [carries_send]
    · exact .inr (mem_cons_of_mem _ h)

variable {id : Id} {name : String} {s s' : StateSync Id}

theorem inv_report (h : Inv id name s) {entry : Option Entry} {commands : List NexusMessage}
    {loop : SyncLoop} {t : List ProtoState} (hc : ∀ Carried' : SessionState → Prop,
      (∀ x, Carried' x → Carried s x ∨ x ∈ t.map convertProtoToSessionState) →
      Core name (stateOf s.updates.rows id) entry (s.pending ++ commands) Carried')
    (ha : loop = .receiving → s.uplink.alive = true → Alone s)
    (hl : ∀ state, liveState entry = some state → s.uplink.queue.length < priorityCapacity ∧
        ∃ p, t = [p] ∧ convertProtoToSessionState p = state) :
    Inv id name ({ s with entry := entry, commands := commands, loop := loop }.report t) where
  core := by
    refine hc _ fun x hx => ?_
    rcases hx with ⟨p, hp, rfl⟩ | hx
    · rcases carries_sendAll hp with hp | hp
      · exact .inl (.inl ⟨p, hp, rfl⟩)
      · exact .inr (mem_map_of_mem hp)
    · exact .inl (.inr hx)
  concerns := h.concerns
  bounded := by simpa [Uplink.Bounded, report] using h.bounded
  later := by simpa [report] using h.later
  alone hs := by
    obtain ⟨hlo, hal⟩ := hs
    simpa [Alone, report] using ha hlo (by simpa [report] using hal)
  linked _ state hli := by
    obtain ⟨hr, p, rfl, hp⟩ := hl state hli
    refine .inr ?_
    have hln : reports (report { s with entry := entry, commands := commands, loop := loop }
        [p]).uplink.line = reports s.uplink.line ++ [state] := by
      simp only [report, sendAll, line_send_of_lt _ _ _ hr, reports_append,
        reports_cons_stateUpdate, reports_nil, hp]
    rw [hln]
    exact arrives_snoc

variable {uplink : Uplink Control}

theorem inv_uplink (h : Inv id name s) (hco : uplink.conn = s.uplink.conn)
    (ha : uplink.alive = true → s.uplink.alive = true) (hb : uplink.Bounded)
    (hca : ∀ p, uplink.Carries (.stateUpdate p) → s.uplink.Carries (.stateUpdate p))
    (hw : ∀ c, c ≠ s.uplink.conn → reports (s.uplink.wire c) = [] → reports (uplink.wire c) = [])
    (hli : uplink.alive = true → reports uplink.line = reports s.uplink.line) :
    Inv id name { s with uplink := uplink } where
  core := by
    refine h.core.mono (fun _ hm => hm) le_rfl .inl fun state hs => ?_
    rcases hs with ⟨p, hp, hst⟩ | hs
    · exact .inl ⟨p, hca p hp, hst⟩
    · exact .inr hs
  concerns := h.concerns
  bounded := hb
  later c hc := h.later c (hco ▸ hc)
  alone hs c hc := by
    have hne : c ≠ s.uplink.conn := hco ▸ hc
    obtain ⟨hr, hh⟩ := h.alone ⟨hs.1, ha hs.2⟩ c hne
    exact ⟨hw c hne hr, hh⟩
  linked hs state hlv := by
    have hl := h.linked ⟨hs.1, ha hs.2⟩ state hlv
    simpa only [inFlight, hco, hli hs.2] using hl

theorem inv_moves (h : Inv id name s) (hm : s.uplink.Moves uplink) :
    Inv id name { s with uplink := uplink } := by
  refine inv_uplink h hm.conn hm.alive (hm.bounded h.bounded)
    (fun p => hm.carries _) (fun c hc hr => ?_) fun ha => by rw [hm.line ha]
  rcases hm.others c hc with hw | hw
  · rwa [hw]
  · rw [hw, reports_nil]

theorem inv_enqueueOther (h : Inv id name s) (capacity : Nat) :
    Inv id name { s with uplink := s.uplink.send capacity .other } := by
  refine inv_uplink h (send_conn ..) (by simp) (bounded_send _ _ h.bounded)
    (fun p hp => ?_) (by simp) fun _ => ?_
  · rcases carries_send _ _ _ hp with hp | hp
    · exact hp
    · cases hp
  · rcases line_send_or capacity s.uplink .other with hl | hl <;> simp [hl]

variable {c now : Nat}

theorem inv_receiveOther (h : Inv id name s) (hre : s.uplink.Receives c .other uplink) :
    Inv id name { s with uplink := uplink } := by
  have hs : ∀ c', reports (uplink.wire c') = reports (s.uplink.wire c') := by
    grind [hre.wire, hre.others, reports_cons_other]
  refine inv_uplink h hre.conn (fun ha => hre.alive ▸ ha) (hre.bounded h.bounded)
    (fun p => hre.carries _) (fun c' _ hr => by rw [hs, hr]) fun _ => ?_
  rw [line, line, reports_append, reports_append, hs, hre.conn, hre.queue]

theorem inv_connect (h : Inv id name s) :
    Inv id name { s with loop := .connected, uplink := s.uplink.connect } where
  core := h.core
  concerns := h.concerns
  bounded := bounded_connect h.bounded
  later c hc := h.later c (Nat.lt_of_succ_lt hc)
  alone hs := by cases hs.1
  linked hs := by cases hs.1

theorem inv_close (h : Inv id name s) (hok : .killCommand name ∉ s.commands)
    (hmv : s.uplink.Moves uplink) :
    Inv id name { s with loop := .idle, commands := [], uplink := uplink } := by
  have hmo := inv_moves h hmv
  have hsu : (s.pending ++ []).Sublist (inFlight s) := (nil_sublist _).append_left _
  refine ⟨?_, h.concerns, hmo.bounded, hmo.later, fun hs => (by cases hs.1),
    fun hs => (by cases hs.1)⟩
  refine hmo.core.mono (fun _ hm => hsu.subset hm) (hsu.count_le _) (fun hk => .inl ?_)
    fun _ hs => hs
  rcases mem_append.mp hk with hk | hk
  · exact mem_append_left _ hk
  · exact absurd hk hok

variable {rows : SessionRows Id}

open Updates

theorem inv_handler (h : Inv id name s) {handler : Handler Id}
    (hr : stateOf rows id = stateOf s.updates.rows id ∨
      ∃ state, stateOf rows id = some state ∧ Carried s state)
    (hco : uplink.conn = s.uplink.conn) (ha : uplink.alive = s.uplink.alive)
    (hw : ∀ c', c' ≠ c → uplink.wire c' = s.uplink.wire c')
    (hbo : uplink.Bounded) (hle : c ≤ s.uplink.conn)
    (hca : ∀ m, uplink.Carries m → s.uplink.Carries m)
    (ht : ∀ state, target handler = some state → Carried s state)
    (hcn : Concerns id handler) (hcu : Synced s → c = s.uplink.conn)
    (hli : Synced s → ∀ state, liveState s.entry = some state → inFlight s = [] →
      Arrives (stateOf s.updates.rows id) (s.updates.handlers s.uplink.conn)
        (reports s.uplink.line) state →
      Arrives (stateOf rows id) handler (reports uplink.line) state) :
    Inv id name { s with updates := { s.updates with rows := rows }.setHandler c handler
                         uplink := uplink } where
  core := by
    have hcr : Core name (stateOf rows id) s.entry (inFlight s) (Carried s) := by
      grind [h.core, h.core.write]
    refine hcr.mono (fun _ hm => hm) le_rfl .inl fun state hs => ?_
    rcases hs with ⟨p, hp, hst⟩ | ⟨c', hs⟩
    · exact .inl ⟨p, hca _ hp, hst⟩
    by_cases hc : c' = c
    · exact ht state (by simpa [setHandler, hc] using hs)
    · exact .inr ⟨c', by simpa [setHandler, hc] using hs⟩
  concerns c' := by
    by_cases hc : c' = c
    · simpa [setHandler, hc] using hcn
    · simpa [setHandler, hc] using h.concerns c'
  bounded := hbo
  later c' hc' := by
    rw [hco] at hc'
    have hc : c' ≠ c := by omega
    simpa [setHandler, hc] using h.later c' hc'
  alone hs c' hc' := by
    rw [hco] at hc'
    have hsy : Synced s := ⟨hs.1, ha ▸ hs.2⟩
    have hc : c' ≠ c := fun heq => hc' (heq.trans (hcu hsy))
    simpa [setHandler, hc, hw c' hc] using h.alone hsy c' hc'
  linked hs state hl := by
    have hsy : Synced s := ⟨hs.1, ha ▸ hs.2⟩
    by_cases hb : inFlight s = []
    · rcases h.linked hsy state hl with hne | har
      · exact absurd hb hne
      refine .inr ?_
      simpa [setHandler, hco, hcu hsy] using hli hsy state hl hb har
    · exact .inl hb

/-- A handler goes on. -/
theorem inv_advance (h : Inv id name s) {handler : Handler Id}
    (hr : stateOf rows id = stateOf s.updates.rows id ∨
      ∃ state, stateOf rows id = some state ∧ Carried s state)
    (hh : s.updates.handlers c ≠ .receiving)
    (ht : ∀ state, target handler = some state → Carried s state)
    (hco : Concerns id handler)
    (hl : Synced s → c = s.uplink.conn → ∀ state,
      Arrives (stateOf s.updates.rows id) (s.updates.handlers c) (reports s.uplink.line) state →
      Arrives (stateOf rows id) handler (reports s.uplink.line) state) :
    Inv id name { s with updates := { s.updates with rows := rows }.setHandler c handler } := by
  have hle : c ≤ s.uplink.conn := by
    by_contra hlt
    exact hh (h.later c (by omega))
  have hc : Synced s → c = s.uplink.conn := by
    intro hs
    by_contra hne
    exact hh (h.alone hs c hne).2
  refine inv_handler h hr rfl rfl (fun _ _ => rfl) h.bounded hle (fun _ hm => hm) ht hco
    hc fun hs state _ _ ha => hl hs (hc hs) state ?_
  rwa [hc hs]

theorem inv_commands (h : Inv id name s) {pending commands : List NexusMessage}
    (hsu : ∀ m ∈ pending ++ commands, m ∈ inFlight s)
    (hc : (pending ++ commands).count (.startSessionCommand name)
      ≤ (inFlight s).count (.startSessionCommand name))
    (hki : .killCommand name ∈ inFlight s → .killCommand name ∈ pending ++ commands)
    (hl : Synced s → pending ++ commands ≠ []) :
    Inv id name { s with pending := pending, commands := commands } :=
  { h with
    core := h.core.mono hsu hc (fun hk => .inl (hki hk)) fun _ hs => hs
    linked := fun hs _ _ => .inl (hl hs) }

variable {state : SessionState}

theorem inv_command (h : Inv id name s)
    {m : NexusMessage} (hm : Commands name state m) (hs : stateOf rows id = some state) :
    Inv id name { s with
      updates := { s.updates with rows := rows }
      pending := s.pending ++ [m] } := by
  refine { h with core := ?_, linked := fun _ _ _ => .inl (by simp [inFlight]) }
  have hp : (m :: inFlight s).Perm (s.pending ++ [m] ++ s.commands) := by
    rw [inFlight, append_assoc, singleton_append]
    exact perm_middle.symm
  simp only [hs]
  exact (h.core.request hm).perm hp

theorem inv_attach (h : Inv id name s)
    (hst : stateOf rows id = some .running) (hli : liveState s.entry ≠ some .suspended) :
    Inv id name { s with updates := { s.updates with rows := rows } } := by
  refine { h with core := ?_, linked := fun hs state hl => (h.linked hs state hl).imp_right ?_ }
  · simp only [hst]
    exact h.core.write (.inl rfl)
  obtain rfl : state = .running := (h.core.liveState hl).resolve_right fun hr => hli (hr ▸ hl)
  simp only [hst]
  exact arrives_store

theorem exists_row (h : Inv id name s) : ∃ existing, s.updates.rows id = some existing := by
  cases hr : s.updates.rows id with
  | some existing => exact ⟨existing, rfl⟩
  | none =>
    have hs := h.core.stored
    simp [stateOf, hr] at hs

theorem isValid_of_carried (h : Inv id name s) (hs : Carried s state) : state.isValid = true := by
  rcases h.core.carried state hs with rfl | rfl | rfl <;> rfl

theorem agrees_of_inv (h : Inv id name s) : Agrees id s := by
  intro hq state hl
  have hi : inFlight s = [] := by simp [inFlight, hq.pending, hq.commands]
  rcases h.linked ⟨hq.receiving, hq.alive⟩ state hl with hb | ha
  · exact absurd hi hb
  simpa [Arrives, line, hq.wire s.uplink.conn le_rfl, hq.queue,
    hq.handlers s.uplink.conn le_rfl] using ha

/-! ## 5. Steps -/

/-- Attach is not asked for while the daemon holds the session suspended,
and detach not at all, unless the transition is invalid. The other requests
spell the id as the daemon does. A command is lost only while the daemon
has still to replay, and a kill command is neither lost nor overtakes the
start. A report finds room. When the daemon replays, and when the gateway
gives up a report, no report is missed. -/
def Orderly [DecidableEq Id] (id : Id) (name : String) (s : StateSync Id) : Act → Prop
  | .request .attach _ _ =>
    (stateOf s.updates.rows id).any (isTransitionValid · .running) = false ∨
      liveState s.entry ≠ some .suspended
  | .request .detach _ _ => (stateOf s.updates.rows id).any (isTransitionValid · .detached) = false
  | .request _ sessionID _ => sessionID = name
  | .loseCommand i => ¬ Synced s ∧ s.pending[i]? ≠ some (.killCommand name)
  | .deliver _ =>
    s.uplink.queue.length < priorityCapacity ∧
      (s.commands.head? = some (.killCommand name) → .startSessionCommand name ∉ inFlight s)
  | .replay =>
    s.uplink.queue.length < priorityCapacity ∧
      ∀ c < s.uplink.conn, reports (s.uplink.wire c) = [] ∧ s.updates.handlers c = .receiving
  | .close => .killCommand name ∉ s.commands
  | .drop c => ¬ (Synced s ∧ c = s.uplink.conn)
  | _ => True

variable [DecidableEq Id]

theorem transitionThen_cases (rows : SessionRows Id) (id : Id) (newState : SessionState) (now : Nat)
    (com : List NexusMessage) :
    transitionThen rows id newState now com = (rows, []) ∨
      ∃ r', transitionThen rows id newState now com = (r', com) ∧
        stateOf r' id = some newState ∧
        (stateOf rows id).any (isTransitionValid · newState) = true := by
  grind [transitionThen, transitionSession_stateOf]

theorem inv_transitionThen (h : Inv id name s) {m : NexusMessage} (hm : Commands name state m) :
    Inv id name { s with
      updates := { s.updates with rows := (transitionThen s.updates.rows id state now [m]).1 }
      pending := s.pending ++ (transitionThen s.updates.rows id state now [m]).2 } := by
  rcases transitionThen_cases s.updates.rows id state now [m] with hr | ⟨rows, hr, hs, -⟩
  · simpa [hr] using h
  rw [hr]
  exact inv_command h hm hs

variable {parse : String → Option Id}

section

variable (h : Inv id name s)

include h

theorem inv_request {r : Request} {i : String} (hok : Orderly id name s (.request r i now))
    (hse : step parse id name s (.request r i now) = some s') : Inv id name s' := by
  -- a transition that fails changes nothing
  have hf : Inv id name
      { s with
        updates := { s.updates with rows := s.updates.rows }
        pending := s.pending ++ [] } := by
    simpa using h
  cases hse
  cases r with
  | attach =>
    simp only [Orderly, handleRequest] at hok ⊢
    split
    · exact hf
    rename_i hn
    rcases transitionThen_cases s.updates.rows id .running now [] with hr | ⟨rows, hr, hst, hv⟩
    · rw [hr]
      exact hf
    · grind [inv_attach]
  | detach =>
    simp only [Orderly, handleRequest] at hok ⊢
    rcases transitionThen_cases s.updates.rows id .detached now [] with hr | ⟨_, -, -, hv⟩
    · rw [hr]
      exact hf
    · simp [hok] at hv
  | suspend =>
    obtain rfl : i = name := hok
    exact inv_transitionThen h (.inl ⟨rfl, rfl⟩)
  | resume =>
    obtain rfl : i = name := hok
    exact inv_transitionThen h (.inr (.inl ⟨rfl, rfl⟩))
  | kill =>
    obtain rfl : i = name := hok
    exact inv_transitionThen h (.inr (.inr ⟨rfl, rfl⟩))

theorem inv_sendCommand {i : Nat}
    (hs : step parse id name s (.send i) = some s') : Inv id name s' := by
  simp only [step] at hs
  split at hs
  · cases hs
  rename_i m hm
  split at hs
  · cases hs
  cases hs
  obtain ⟨hi, rfl⟩ := List.getElem?_eq_some_iff.mp hm
  have hp : (s.pending.eraseIdx i ++ (s.commands ++ [s.pending[i]])).Perm (inFlight s) := by
    rw [← append_assoc]
    refine (perm_append_singleton _ _).trans ?_
    exact (getElem_cons_eraseIdx_perm hi).append_right s.commands
  refine inv_commands h (fun x hx => hp.mem_iff.mp hx) (hp.count_eq _).le
    hp.mem_iff.mpr fun _ => by simp

theorem inv_loseCommand {i : Nat} (hok : Orderly id name s (.loseCommand i))
    (hst : step parse id name s (.loseCommand i) = some s') : Inv id name s' := by
  simp only [step] at hst
  split at hst
  · cases hst
  rename_i m hm
  cases hst
  have hsu : (s.pending.eraseIdx i ++ s.commands).Sublist (inFlight s) :=
    (eraseIdx_sublist ..).append_right _
  refine inv_commands h (fun x hx => hsu.subset hx) (hsu.count_le _) (fun hk => ?_)
    fun hs => absurd hs hok.1
  obtain ⟨hi, rfl⟩ := List.getElem?_eq_some_iff.mp hm
  rcases mem_append.mp hk with hk | hk
  · rcases mem_cons.mp ((getElem_cons_eraseIdx_perm hi).mem_iff.mpr hk) with hk | hk
    · exact absurd (hm.trans (congrArg some hk.symm)) hok.2
    · exact mem_append_left _ hk
  · exact mem_append_right _ hk

theorem inv_deliver {created : Bool} (hok : Orderly id name s (.deliver created))
    (hst : step parse id name s (.deliver created) = some s') : Inv id name s' := by
  simp only [step] at hst
  split at hst
  · split at hst
    · cases hst
    rename_i m rest hc
    cases hst
    have hp : (inFlight s).Perm (m :: (s.pending ++ rest)) := by
      rw [inFlight, hc]
      exact perm_middle
    have hco := h.core.perm hp
    have hk : m = .killCommand name → .startSessionCommand name ∉ s.pending ++ rest := by
      intro hm hsa
      refine hok.2 (by rw [hc, hm]; rfl) (hp.mem_iff.mpr ?_)
      exact mem_cons_of_mem _ hsa
    exact inv_report h (fun _ hca => hco.handle (handles ..) hk hca) (fun hs ha => h.alone ⟨hs, ha⟩)
      fun state hl => ⟨hok.1, hco.handle_live (handles ..) hl⟩
  · cases hst

theorem inv_exit (hst : step parse id name s .exit = some s') : Inv id name s' := by
  simp only [step] at hst
  split at hst
  · cases hst
  rename_i e hen
  split at hst
  · cases hst
  rename_i hex
  cases hst
  have hl : liveState s.entry = some e.state := by simp [liveState, hen, hex]
  have hsa : .startSessionCommand name ∉ inFlight s := by
    intro hm
    rw [h.core.unstarted hm] at hl
    cases hl
  refine inv_report h (fun _ hc => h.core.terminate ?_ rfl hsa (fun _ hm => hm) ?_)
    (fun hs ha => h.alone ⟨hs, ha⟩) ?_
  · intro e' he'
    cases he'
    exact .inl rfl
  · exact fun x hx => by simpa [convertProtoToSessionState] using hc x hx
  intro state hs
  cases hs

end

theorem convert_sessionStateToProto (h : state = .running ∨ state = .suspended) :
    convertProtoToSessionState (sessionStateToProto state) = state := by
  rcases h with rfl | rfl <;> rfl

section

variable (h : Inv id name s)

include h

theorem inv_replay (hok : Orderly id name s .replay)
    (hse : step parse id name s .replay = some s') : Inv id name s' := by
  simp only [step] at hse
  split at hse
  · cases hse
    refine inv_report h (fun _ hca => ?_) ?_ ?_
    · -- the state of a session that has not ended is reported
      by_cases ha : ∃ e, s.entry = some e ∧ (e.state = .running ∨ e.state = .suspended)
      · obtain ⟨e, he, hst⟩ := ha
        have hne : e.state ≠ .terminated := by rcases hst with hs | hs <;> simp [hs]
        refine h.core.carry (hst.imp_right .inl)
          (fun hr => (h.core.provisioning hr).2.1 e he) (absurd · hne) ?_
        simpa [he, replayActiveSessions, hne, convert_sessionStateToProto hst] using hca
      refine h.core.mono (fun _ hm => hm) le_rfl .inl fun x hx => (hca x hx).resolve_right ?_
      cases he : s.entry with
      | none => simp [replayActiveSessions]
      | some e => grind [replayActiveSessions, h.core.held]
    · intro _ _ c hc
      rcases lt_or_gt_of_ne hc with hlt | hgt
      · exact hok.2 c hlt
      · exact ⟨by rw [h.bounded c hgt, reports_nil], h.later c hgt⟩
    · intro state hl
      have hst := h.core.liveState hl
      obtain ⟨e, he, -, rfl⟩ := liveState_eq_some.mp hl
      refine ⟨hok.1, _, ?_, convert_sessionStateToProto hst⟩
      have hne : e.state ≠ .terminated := by rcases hst with hs | hs <;> simp [hs]
      simp [he, replayActiveSessions, hne]
  · cases hse

/-! ### The gateway -/

theorem inv_fetch (hp : parse name = some id)
    (hn : name ≠ "") (hst : step parse id name s (.fetch c) = some s') : Inv id name s' := by
  obtain ⟨⟨m, uplink⟩, hr, hre⟩ := bind_eq_some_iff.mp hst
  have hrc := receives_of_receive hr
  cases m with
  | other => grind [inv_receiveOther]
  | stateUpdate p =>
    obtain ⟨updates, hf, rfl⟩ := map_eq_some_iff.mp hre
    simp only [Updates.step] at hf
    split at hf
    · rename_i hh
      obtain ⟨existing, he⟩ := exists_row h
      have hfe : fetchRow parse s.updates.rows name p
          = .fetched id existing (convertProtoToSessionState p) := by
        simp [fetchRow, hn, hp, getSession, he]
      rw [hfe, some.injEq] at hf
      subst hf
      have hc : Synced s → c = s.uplink.conn := by
        intro hs
        by_contra hne
        have hrp := (h.alone hs c hne).1
        simp [hrc.wire] at hrp
      refine inv_handler h (.inl rfl) hrc.conn hrc.alive hrc.others (hrc.bounded h.bounded) ?_
        hrc.carries ?_ rfl hc ?_
      · -- later connections have nothing on their wires
        by_contra hlt
        have hw := hrc.wire
        rw [h.bounded c (by omega)] at hw
        cases hw
      · intro state hsa
        cases hsa
        exact .inl ⟨p, hrc.carries_self, rfl⟩
      intro hs state hl hi ha
      obtain rfl := hc hs
      rw [hh, hrc.line_current, reports_cons_stateUpdate] at ha
      have hco := h.core
      rw [hi] at hco
      exact arrives_fetch ha (hco.accepts hl (by simp [stateOf, he]))
    · cases hf

theorem inv_validate
    (hst : step parse id name s (.validate c now) = some s') : Inv id name s' := by
  obtain ⟨u, hv, rfl⟩ := map_eq_some_iff.mp hst
  simp only [Updates.step] at hv
  split at hv
  · rename_i id' existing state hh
    have hc : Carried s state := .inr ⟨c, by rw [hh]; rfl⟩
    have hco := h.concerns c
    rw [hh] at hco
    split at hv <;> cases hv
    · rename_i e he
      refine inv_advance h (.inl rfl) (by simp [hh]) (fun _ hs => by cases hs) trivial
        fun _ _ sta' ha => ?_
      rw [hh] at ha
      have hi := transitionSession_error he (isValid_of_carried h hc)
      exact ha.imp fun h => h.2.resolve_left (by simp [← h.1, hi])
    refine inv_advance h (.inl rfl) (by simp [hh]) (fun x hx => ?_) hco fun _ _ sta' ha => ?_
    · cases hx
      exact hc
    rw [hh] at ha
    exact ha.imp And.left
  · cases hv

theorem inv_write (hse : step parse id name s (.write c now) = some s') : Inv id name s' := by
  obtain ⟨u, hw, rfl⟩ := map_eq_some_iff.mp hse
  simp only [Updates.step] at hw
  split at hw
  · rename_i id' existing state hh
    have hc : Carried s state := .inr ⟨c, by rw [hh]; rfl⟩
    obtain rfl : id' = id := by
      have hco := h.concerns c
      rwa [hh] at hco
    obtain ⟨row, hro⟩ := exists_row h
    split at hw
    · rename_i e he
      simp [updateState, hro] at he
    rename_i rows hr
    cases hw
    have hst : stateOf rows id' = some state := by
      simpa using updateState_stateOf hr id'
    refine inv_advance h (.inr ⟨state, hst, hc⟩) (by simp [hh])
      (fun _ hs => by cases hs) trivial fun _ _ state' ha => ?_
    rw [hh] at ha
    rw [hst]
    exact ha.imp (congrArg some)
  · cases hw

theorem inv_drop (hok : ¬ (Synced s ∧ c = s.uplink.conn)) :
    Inv id name { s with updates := s.updates.setHandler c .receiving } := by
  by_cases hh : s.updates.handlers c = .receiving
  · have hsa : s.updates.setHandler c .receiving = s.updates := by
      rw [← hh, setHandler, Function.update_eq_self]
    rw [hsa]
    exact h
  exact inv_advance h (.inl rfl) hh (fun _ hs => by cases hs) trivial
    fun hs hc => absurd ⟨hs, hc⟩ hok

/-! ## 6. Runs -/

theorem inv_step (hu : Unarmed s)
    (hp : parse name = some id) (hn : name ≠ "") {a : Act} (hok : Orderly id name s a)
    (hs : step parse id name s a = some s') : Inv id name s' := by
  cases a with
  | request r d now => exact inv_request h hok hs
  | send i => exact inv_sendCommand h hs
  | loseCommand i => exact inv_loseCommand h hok hs
  | deliver cre => exact inv_deliver h hok hs
  | exit => exact inv_exit h hs
  | activity => exact activity_of_unarmed hu hs ▸ h
  | dmsSuspend =>
    rw [dmsSuspend_of_unarmed hu] at hs
    cases hs
  | dmsResume =>
    rw [dmsResume_of_unarmed hu] at hs
    cases hs
  | enqueueOther =>
    cases hs
    exact inv_enqueueOther h _
  | connect => grind [step, inv_connect]
  | replay => exact inv_replay h hok hs
  | transmit =>
    obtain ⟨uplink, ht, rfl⟩ := map_eq_some_iff.mp hs
    exact inv_moves h (moves_transmit ht)
  | stopWriter =>
    obtain ⟨uplink, hst, rfl⟩ := map_eq_some_iff.mp hs
    exact inv_moves h (moves_stopWriter hst)
  | lose =>
    cases hs
    exact inv_moves h moves_lose
  | close =>
    simp only [step] at hs
    split at hs
    · obtain ⟨uplink, hst, rfl⟩ := map_eq_some_iff.mp hs
      exact inv_close h hok (moves_stopWriter hst)
    · cases hs
  | fetch c => exact inv_fetch h hp hn hs
  | validate c now => exact inv_validate h hs
  | write c now => exact inv_write h hs
  | drop c =>
    cases hs
    exact inv_drop h hok
  | discard c =>
    obtain ⟨uplink, hd, rfl⟩ := map_eq_some_iff.mp hs
    exact inv_moves h (moves_discard hd)

end

theorem inv_start (rows : SessionRows Id) (now : Nat) : Inv id name (start rows id name now) := by
  have hr : stateOf (start rows id name now).updates.rows id = some .provisioning := by
    simp [start, stateOf, Updates.start, newSession]
  have hc : ∀ state, ¬ Carried (start rows id name now) state := by
    intro state hs
    rcases hs with ⟨p, hp, -⟩ | ⟨c, hs⟩
    · exact not_carries_start _ hp
    · cases hs
  refine ⟨?_, fun _ => trivial, bounded_start, fun _ _ => rfl, fun hs => (by cases hs.1),
    fun hs => (by cases hs.1)⟩
  rw [hr]
  constructor
  case stored => exact .inl rfl
  case held => exact fun e he => by cases he
  case carried => exact fun state hs => absurd hs (hc state)
  case named => simp [inFlight, start]
  case once => simp [inFlight, start]
  case unstarted => exact fun _ => rfl
  case provisioning => exact fun _ => ⟨by simp [inFlight, start], fun e he => (by cases he), hc _⟩
  case exits => exact fun hs => absurd hs (hc _)
  case terminated => exact fun hs => by cases hs

/-- **Agreement.** In every run whose acts are orderly, whenever the
satellite is connected and no message is in flight, Nexus stores the state
that the daemon holds. -/
theorem agrees_of_orderly {parse : String → Option Id} (hparse : parse name = some id)
    (hname : name ≠ "") (rows : SessionRows Id) (now : Nat) (acts : List Act)
    (hok : Along (step parse id name) (Orderly id name) (start rows id name now) acts)
    (hrun : run (step parse id name) (start rows id name now) acts = some s) : Agrees id s := by
  have hst : Inv id name (start rows id name now) ∧ Unarmed (start rows id name now) :=
    ⟨inv_start rows now, fun e he => by cases he⟩
  exact agrees_of_inv (run_invariant_along (fun s _ _ (h : Inv id name s ∧ Unarmed s) hok hs =>
    ⟨inv_step h.1 h.2 hparse hname hok hs, unarmed_step h.2 hs⟩) hst hok hrun).1

instance decidableSynced (s : StateSync Id) : Decidable (Synced s) :=
  inferInstanceAs (Decidable (_ ∧ _))

instance decidableOrderly (id : Id) (name : String) (s : StateSync Id) (a : Act) :
    Decidable (Orderly id name s a) := by
  cases a with
  | request r sessionID now => cases r <;> unfold Orderly <;> infer_instance
  | _ => unfold Orderly; infer_instance

end

def started : List Act :=
  [.connect, .replay, .send 0, .deliver true, .transmit, .fetch 1, .validate 1 1, .write 1 2]

def suspended : List Act :=
  [.request .suspend "s" 3, .send 0, .deliver true, .transmit, .fetch 1, .validate 1 4]

theorem agrees_suspended :
    ∃ s, run (step (fun _ => some ()) () "s") (start (fun _ => none) () "s" 0)
        (started ++ suspended) = some s ∧ Agrees () s := by
  have hok : Along (step (fun _ => some ()) () "s") (Orderly () "s")
      (start (fun _ => none) () "s" 0) (started ++ suspended) := by decide
  exact ⟨_, rfl, agrees_of_orderly rfl (by decide) (fun _ => none) 0 (started ++ suspended) hok rfl⟩

/-- A detach changes the row and sends the daemon nothing. -/
theorem detached_running :
    ∃ s, run (step (fun _ => some ()) () "s") (start (fun _ => none) () "s" 0)
        (started ++ [.request .detach "s" 3]) = some s ∧ Quiet s ∧
      liveState s.entry = some .running ∧ stateOf s.updates.rows () = some .detached ∧
      ¬ Agrees () s := by
  have hq : ∀ s ∈ run (step (fun _ => some ()) () "s") (start (fun _ => none) () "s" 0)
      (started ++ [.request .detach "s" 3]), Quiet s := by
    intro s hs
    cases hs
    exact ⟨rfl, rfl, rfl, rfl, rfl, by decide, by decide⟩
  refine ⟨_, rfl, hq _ rfl, rfl, rfl, fun ha => ?_⟩
  have hr := ha (hq _ rfl) .running rfl
  cases hr

end Daao.Daemon.StateSync

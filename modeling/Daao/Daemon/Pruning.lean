/-
Daao.Daemon.Pruning — a reconciliation message while processes exit and
terminals attach (`handleSessionReconciliation`, `forwardPtyOutput` and
`Session.Close` in `cmd/daao/daemon.go`).

The handler lists the orphans under the lock, in the order in which the map
is iterated. For each it then looks the session up, closes it without the
lock, and deletes the entry. In between, goroutines that wait for a process
mark its session TERMINATED, which does not bring it off the list. Waiting
for these goroutines in `Close` is left out, so the handler may go on at any
time. No other message is handled meanwhile, so nobody else adds sessions,
removes or closes them.
-/
import Daao.Lib.Table
import Daao.Lib.Trace
import Daao.Sessions.Store

namespace Daao.Daemon.Pruning

open Daao.Lib Daao.Sessions List Option

structure Session where
  id : String
  state : SessionState
  localClients : Nat
  /-- how often the body of `CloseOnce.Do` has run -/
  closes : Nat
  closeOnce : closes ≤ 1

def Session.close (sess : Session) : Session :=
  if h : sess.closes = 0 then { sess with closes := sess.closes + 1, closeOnce := by omega }
    else sess

theorem Session.closes_close (s : Session) : s.close.closes = 1 := by
  grind [close, s.closeOnce]

theorem Session.id_close (s : Session) : s.close.id = s.id := by
  grind [close]

inductive Handler where
  | called
  /-- at the head of the loop; with no orphans left it returns -/
  | looping (orphans : List String)
  | closing (sid : String) (rest : List String)
  | deleting (sid : String) (rest : List String)

structure State where
  sessions : Table Session.id
  handler : Handler
  /-- the sessions the handler removed, as they were then -/
  removed : List Session

inductive Act where
  | snapshot (order : List String)
  | proceed
  | exit (sid : String)
  | attach (sid : String)
  | detach (sid : String)

variable (activeSessionIds : List String)

def orphans (sessions : Table Session.id) : List String :=
  (sessions.rows.filter fun sess =>
    sess.state ≠ .terminated ∧ sess.id ∉ activeSessionIds).map Session.id

def State.modify (d : State) (sid : String) (f : Session → Session)
    (hf : ∀ sess, (f sess).id = sess.id) : State :=
  { d with sessions := d.sessions.modify sid f hf }

def step (d : State) : Act → Option State
  | .snapshot order =>
    match d.handler with
    | .called =>
      if order.Perm (orphans activeSessionIds d.sessions) then
        some { d with handler := .looping order }
      else none
    | _ => none
  | .proceed =>
    match d.handler with
    | .looping (sid :: rest) =>
      match d.sessions.find? sid with
      | some _ => some { d with handler := .closing sid rest }
      | none => some { d with handler := .deleting sid rest }
    | .closing sid rest => some { d with
        sessions := d.sessions.modify sid Session.close Session.id_close
        handler := .deleting sid rest }
    | .deleting sid rest => some
      { sessions := d.sessions.restrict (·.id ≠ sid), handler := .looping rest
        removed := d.removed ++ (d.sessions.find? sid).toList }
    | _ => none
  -- `TransitionSessionState`
  | .exit sid => some (d.modify sid (fun sess => { sess with state := .terminated }) fun _ => rfl)
  | .attach sid =>
    some (d.modify sid
      (fun sess => { sess with localClients := sess.localClients + 1 }) fun _ => rfl)
  | .detach sid =>
    some (d.modify sid
      (fun sess => { sess with localClients := sess.localClients - 1 }) fun _ => rfl)

/-- `none` if the session is not held. -/
def closesOf (sessions : Table Session.id) (sid : String) : Option Nat :=
  (sessions.find? sid).map Session.closes

def Handler.pending : Handler → List String
  | .called => []
  | .looping orphans => orphans
  | .closing sid rest => sid :: rest
  | .deleting sid rest => sid :: rest

/-- The handler works off the orphans `order` of the sessions `inspected`. -/
structure Inv (inspected : Table Session.id) (order : List String) (d : State) : Prop where
  nodup : d.handler.pending.Nodup
  subset : d.handler.pending ⊆ order
  kept : ∀ sid, sid ∉ order → closesOf d.sessions sid = closesOf inspected sid
  held : ∀ sid ∈ d.handler.pending, (closesOf d.sessions sid).isSome = true
  gone : ∀ sid ∈ order, sid ∉ d.handler.pending →
    closesOf d.sessions sid = none ∧ ∃ sess ∈ d.removed, sess.id = sid
  closed : ∀ sid rest, d.handler = .deleting sid rest → closesOf d.sessions sid = some 1
  removed : ∀ sess ∈ d.removed, sess.closes = 1 ∧ sess.id ∈ order

variable {activeSessionIds} {sessions inspected : Table Session.id} {d d' : State}
  {order : List String}

theorem closesOf_modify (sessions : Table Session.id) (i : String) {f : Session → Session}
    (hf : ∀ s, (f s).id = s.id)
    (n : Nat → Nat) (hn : ∀ s, (f s).closes = n s.closes) (sid' : String) :
    closesOf (sessions.modify i f hf) sid'
      = if sid' = i then (closesOf sessions sid').map n else closesOf sessions sid' := by
  rw [closesOf, closesOf, Table.find?_modify]
  cases sessions.find? sid' <;> grind

theorem closesOf_restrict (sessions : Table Session.id) (s sid' : String) :
    closesOf (sessions.restrict (·.id ≠ s)) sid'
      = if sid' = s then none else closesOf sessions sid' := by
  rw [closesOf, closesOf, Table.find?_restrict_ne]
  split <;> rfl

theorem step_quiet {a : Act} (ha : a ≠ .proceed) (hs : step activeSessionIds d a = some d') :
    (∀ sid, closesOf d'.sessions sid = closesOf d.sessions sid) ∧ d'.removed = d.removed ∧
      (d'.handler = d.handler ∨ d.handler = .called) := by
  cases a with
  | snapshot order => grind [step]
  | proceed => cases ha rfl
  | exit sid | attach sid | detach sid =>
    cases hs
    refine ⟨fun s' => ?_, rfl, .inl rfl⟩
    rw [State.modify, closesOf_modify _ sid _ id (by intro; rfl)]
    simp

theorem inv_quiet (h : Inv inspected order d) (hc : d.handler ≠ .called) {a : Act}
    (ha : a ≠ .proceed) (hs : step activeSessionIds d a = some d') : Inv inspected order d' := by
  obtain ⟨hcl, hr, hh⟩ := step_quiet ha hs
  have hh := hh.resolve_right hc
  obtain ⟨h₁, h₂, h₃, h₄, h₅, h₆, h₇⟩ := h
  constructor <;> simpa only [hcl, hh, hr]

open Handler

theorem inv_proceed (h : Inv inspected order d) (hs : step activeSessionIds d .proceed = some d') :
    Inv inspected order d' := by
  obtain ⟨hno, hsu, hk, hh, hg, hc, hr⟩ := h
  simp only [step] at hs
  split at hs
  · rename_i s r hl
    have hsi := hh s (by simp [hl, pending])
    split at hs
    · constructor <;> grind [pending]
    · grind [closesOf]
  · rename_i s r hcl
    obtain ⟨n, hn⟩ := isSome_iff_exists.mp (hh s (by simp [hcl, pending]))
    have hco := closesOf_modify d.sessions s Session.id_close (fun _ => 1) Session.closes_close
    constructor <;> grind [pending]
  · rename_i s r hd
    cases hs
    obtain ⟨e, hse, ho⟩ := map_eq_some_iff.mp (hc s r hd)
    have hid := Table.key_of_find? hse
    have hco := closesOf_restrict d.sessions s
    constructor <;> grind [pending]
  · cases hs

theorem mem_orphans {i : String} :
    i ∈ orphans activeSessionIds sessions ↔
      ∃ s, sessions.find? i = some s ∧ s.state ≠ .terminated ∧ i ∉ activeSessionIds := by
  simp only [orphans, List.mem_map, mem_filter, decide_eq_true_eq]
  constructor
  · rintro ⟨s, ⟨hm, hs, hid⟩, rfl⟩
    exact ⟨s, Table.find?_of_mem hm, hs, hid⟩
  rintro ⟨s, hf, hs, hid⟩
  have hk := Table.key_of_find? hf
  exact ⟨s, ⟨Table.mem_of_find? hf, hs, hk ▸ hid⟩, hk⟩

theorem inv_snapshot (hr : d.removed = [])
    (hs : step activeSessionIds d (.snapshot order) = some d') :
    Inv d.sessions order d' ∧ ∀ s, s ∈ order ↔ s ∈ orphans activeSessionIds d.sessions := by
  simp only [step] at hs
  split at hs
  · obtain ⟨hp, ⟨⟩⟩ := ite_none_right_eq_some.mp hs
    refine ⟨⟨?_, .refl _, fun _ _ => rfl, fun s hsi => ?_, fun s h h' => (h' h).elim, nofun, ?_⟩,
      fun s => hp.mem_iff⟩
    · exact hp.nodup_iff.mpr ((filter_sublist.map Session.id).nodup d.sessions.primaryKey)
    · obtain ⟨e, hf, -⟩ := mem_orphans.mp (hp.mem_iff.mp hsi)
      simp [closesOf, hf]
    · simp [hr]
  · cases hs

/-- Until the handler takes its snapshot. -/
def Untouched (d₀ d : State) : Prop :=
  d.handler = .called →
    (∀ sid, closesOf d.sessions sid = closesOf d₀.sessions sid) ∧ d.removed = d₀.removed

theorem untouched_step {d₀ : State} {a : Act} (h : Untouched d₀ d)
    (hs : step activeSessionIds d a = some d') : Untouched d₀ d' := by
  intro hc
  cases a with
  | proceed => grind [step]
  | snapshot | exit | attach | detach =>
    obtain ⟨hcl, hr, hh⟩ := step_quiet (by simp) hs
    have := h (hh.elim (·.symm.trans hc) id)
    grind

theorem inv_step {a : Act} (h : Inv inspected order d ∧ d.handler ≠ .called)
    (hs : step activeSessionIds d a = some d') : Inv inspected order d' ∧ d'.handler ≠ .called := by
  by_cases ha : a = .proceed
  · subst ha
    exact ⟨inv_proceed h.1 hs, by grind [step]⟩
  have hh := (step_quiet ha hs).2.2.resolve_right h.2
  exact ⟨inv_quiet h.1 h.2 ha hs, hh ▸ h.2⟩

/-- **What a reconciliation leaves.** Whatever exits and attaches happen
before the snapshot and after it, the daemon is left with the sessions it
held that are in the list or were TERMINATED at the snapshot. The others
were each closed once before they were removed, and those in the list were
not closed. -/
theorem reconciliation_exact {d₀ d₁ d₂ d₃ : State} {before after : List Act}
    (hremoved : d₀.removed = []) (hbefore : run (step activeSessionIds) d₀ before = some d₁)
    (hsnapshot : step activeSessionIds d₁ (.snapshot order) = some d₂)
    (hafter : run (step activeSessionIds) d₂ after = some d₃)
    (hreturned : d₃.handler = .looping []) :
    (∀ sid, (d₃.sessions.find? sid).isSome = true ↔ (d₀.sessions.find? sid).isSome = true ∧
      (sid ∈ activeSessionIds ∨ ∃ sess, d₁.sessions.find? sid = some sess ∧
        sess.state = .terminated)) ∧
    (∀ sid, (d₀.sessions.find? sid).isSome = true → d₃.sessions.find? sid = none →
      ∃ sess ∈ d₃.removed, sess.id = sid) ∧
    (∀ sess ∈ d₃.removed, sess.closes = 1 ∧ sess.id ∉ activeSessionIds) ∧
    ∀ sid ∈ activeSessionIds, closesOf d₃.sessions sid = closesOf d₀.sessions sid := by
  have hc₁ : d₁.handler = .called := by grind [step]
  obtain ⟨hcl, hremoved₁⟩ := run_invariant (fun _ _ _ => untouched_step)
    (show Untouched d₀ d₀ from fun _ => ⟨fun _ => rfl, rfl⟩) hbefore hc₁
  obtain ⟨hin, ho⟩ := inv_snapshot (hremoved₁.trans hremoved) hsnapshot
  have hin₃ := (run_invariant (fun _ _ _ => inv_step) ⟨hin, by grind [step]⟩ hafter).1
  have hm sid : sid ∈ order ↔ _ := (ho sid).trans mem_orphans
  obtain ⟨-, -, hk, -, hg, -, hremoved₃⟩ := hin₃
  simp only [hreturned, pending, not_mem_nil, not_false_eq_true, true_imp_iff] at hg
  have hi (sessions : Table Session.id) (sid : String) :
      (sessions.find? sid).isSome = (closesOf sessions sid).isSome := by simp [closesOf]
  have hs sid (hsi : sid ∉ order) := (hk sid hsi).trans (hcl sid)
  refine ⟨fun sid => ?_, fun sid h₀ h₃ => ?_, fun sess hse => ?_, fun sid hsi => ?_⟩
  · cases hf : d₁.sessions.find? sid <;> grind
  · grind
  · grind
  · exact hs sid fun hsi' => ((hm sid).mp hsi').choose_spec.2.2 hsi

def twoSessions : State where
  sessions := { rows := [⟨"a", .running, 0, 0, by omega⟩, ⟨"b", .running, 0, 0, by omega⟩]
                primaryKey := by decide }
  handler := .called
  removed := []

theorem reconciliation_exact_exit : ∃ d₁ d₂ d₃,
    run (step ["a"]) twoSessions [.attach "b"] = some d₁ ∧
      step ["a"] d₁ (.snapshot ["b"]) = some d₂ ∧
      run (step ["a"]) d₂ [.exit "b", .proceed, .proceed, .exit "a", .proceed] = some d₃ ∧
      d₃.handler = .looping [] ∧ d₃.removed.map Session.id = ["b"] ∧
      ∀ sess ∈ d₃.removed, sess.closes = 1 ∧ sess.id ∉ ["a"] :=
  ⟨_, _, _, rfl, rfl, rfl, rfl, rfl, (@reconciliation_exact ["a"] ["b"] twoSessions _ _ _
    [.attach "b"] [.exit "b", .proceed, .proceed, .exit "a", .proceed] rfl rfl rfl rfl rfl).2.2.1⟩

end Daao.Daemon.Pruning

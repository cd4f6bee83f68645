/-
Daao.Sessions.LifecycleTheorems — when the state of a session row and its
lifecycle times agree.

Creation and the store's `TransitionSession` keep them in agreement.
`UpdateState` and the restart recovery write the state alone, so they keep
it just when the row already has the times of the state they write. Which
times a row has can be told from the states it has been in (`Told`), so the
condition is one on these (`MayWrite`). A satellite's report that a session
has ended leaves the row TERMINATED without `terminated_at`, and
`ListActiveSessions` goes on to return it.
-/
import Daao.Sessions.Lifecycle

namespace Daao.Sessions

open Daao.Lib

/-! ## 1. Rows -/

variable {session : Session}

theorem consistent_setState {state : SessionState} {n : Nat} :
    ({ session with state := state, lastActivityAt := n } : Session).Consistent ↔
      session.TimesFit state :=
  ⟨fun h => ⟨h.terminated, h.detached, h.suspended, h.running⟩,
    fun h => ⟨h.terminated, h.detached, h.suspended, h.running⟩⟩

theorem terminatedAt_of_consistent (h : session.Consistent)
    (hs : session.state ≠ .terminated) : session.terminatedAt = none := by
  cases hat : session.terminatedAt with
  | none => rfl
  | some t => exact absurd (h.terminated.mpr (by rw [hat]; rfl)) hs

theorem consistent_transition {s' : Session} {newState : SessionState} {n : Nat}
    (h : session.Consistent) (hok : transitionSession session newState n = .ok s') :
    s'.Consistent := by
  obtain ⟨hv, -⟩ := transitionSession_ok hok
  have hl : session.terminatedAt = none := by
    grind [terminatedAt_of_consistent, not_isTransitionValid_terminated]
  unfold transitionSession at hok
  split at hok
  · cases hok
  rename_i hs
  split at hok
  · cases hok
  cases hok
  cases newState with
  | other a => simp [SessionState.isValid, allSessionStates] at hs
  | running =>
    refine ⟨by simp [Session.stamp, hl], by simp, by simp, fun _ => ⟨?_, rfl, rfl⟩⟩
    cases session.startedAt <;> simp [Session.stamp]
  | _ => constructor <;> simp [Session.stamp, hl]

/-! ## 2. Tables -/

section

variable {Id : Type}

variable {rows : SessionRows Id}

open SessionStore

theorem consistent_of_rows (h : ∀ id session, rows id = some session → session.Consistent) :
    SessionRows.Consistent rows := by
  refine ⟨h, fun id => ?_⟩
  cases hr : rows id with
  | none => simp [listsActive, hr]
  | some session =>
    have ht := (h id session hr).terminated
    cases hat : session.terminatedAt <;> simp_all [listsActive]

theorem consistent_empty : SessionRows.Consistent (fun _ : Id => none) :=
  consistent_of_rows fun _ _ h => by cases h

theorem consistent_recoverActiveSessions (h : SessionRows.Consistent rows) :
    SessionRows.Consistent (recoverActiveSessions rows) ↔
      ∀ id session, rows id = some session →
        session.state = .running ∨ session.state = .reAttaching → session.TimesFit .detached := by
  constructor
  · intro hre id session hr hs
    have hr' : recoverActiveSessions rows id
        = some { session with state := .detached } := by
      simp [recoverActiveSessions, hr, hs]
    exact consistent_setState.mp (hre.row id _ hr')
  intro hf
  refine consistent_of_rows fun id s' hr' => ?_
  obtain ⟨session, hr, rfl⟩ := Option.map_eq_some_iff.mp hr'
  split
  · rename_i hs
    exact consistent_setState.mpr (hf id session hr hs)
  · exact h.row id session hr

theorem consistent_update [DecidableEq Id] (h : SessionRows.Consistent rows) (id : Id)
    (session : Session) :
    SessionRows.Consistent (Function.update rows id (some session)) ↔ session.Consistent := by
  constructor
  · intro hu
    exact hu.row id session (by simp)
  · grind [h.row, consistent_of_rows]

end

/-! ## 3. Runs -/

namespace Lifecycle

variable {Id Conn : Type} [DecidableEq Id] [DecidableEq Conn]

/-- The two writers that leave the times alone find the times that go
with the state they write. -/
def Fits (s : Updates Id Conn) : Act Id Conn → Prop
  | .update (.write c _) => ∀ id existing target session,
      s.handlers c = .validated id existing target → s.rows id = some session →
        session.TimesFit target
  | .recover => ∀ id session, s.rows id = some session →
      session.state = .running ∨ session.state = .reAttaching → session.TimesFit .detached
  | _ => True

/-- What a step writes. -/
inductive Effect (s : Updates Id Conn) : Act Id Conn → SessionRows Id → Prop where
  | unchanged {a : Act Id Conn} : Effect s a s.rows
  | create {id : Id} {now : Nat} (absent : s.rows id = none) :
      Effect s (.create id now) (Function.update s.rows id (some
        ⟨.provisioning, now, none, none, none, none⟩))
  | transition {id : Id} {newState : SessionState} {now : Nat} {old new : Session}
      (row : s.rows id = some old) (ok : transitionSession old newState now = .ok new) :
      Effect s (.update (.transition id newState now)) (Function.update s.rows id (some new))
  | write {c : Conn} {id : Id} {existing old : Session} {target : SessionState} {now : Nat}
      (handler : s.handlers c = .validated id existing target) (row : s.rows id = some old) :
      Effect s (.update (.write c now)) (Function.update s.rows id
        (some { old with state := target, lastActivityAt := now }))
  | recover : Effect s .recover (SessionStore.recoverActiveSessions s.rows)

theorem effect_of_step {p : String → Option Id} {s s' : Updates Id Conn} {a : Act Id Conn}
    (h : step p s a = some s') : Effect s a s'.rows := by
  cases a with
  | create id now =>
    simp only [step, SessionStore.createSession] at h
    cases hr : s.rows id with
    | none =>
      rw [hr] at h
      cases h
      exact .create hr
    | some session =>
      rw [hr] at h
      cases h
      exact .unchanged
  | recover =>
    cases h
    exact .recover
  | drop c =>
    cases h
    exact .unchanged
  | update act =>
    cases act with
    | transition id newState now =>
      simp only [step, Updates.step] at h
      split at h <;> rename_i hok <;> cases h
      · exact .unchanged
      obtain ⟨old, hr, hok, hrows⟩ := SessionStore.transitionSession_eq_ok hok
      simp only [hrows]
      exact .transition hr hok
    | fetch c i t =>
      simp only [step, Updates.step] at h
      split at h <;> cases h
      exact .unchanged
    | validate c now =>
      simp only [step, Updates.step] at h
      split at h
      · split at h <;> cases h <;> exact .unchanged
      · cases h
    | write c now =>
      simp only [step, Updates.step, SessionStore.updateState] at h
      split at h
      · rename_i id existing target hh
        cases hr : s.rows id <;> simp only [hr, Option.some.injEq] at h <;> subst h
        · exact .unchanged
        · exact .write hh hr
      · cases h

theorem fits_iff {p : String → Option Id} (s : Updates Id Conn) (a : Act Id Conn)
    (h : SessionRows.Consistent s.rows) :
    Fits s a ↔ ∀ s' ∈ step p s a, SessionRows.Consistent s'.rows := by
  constructor
  · intro hf s' hs'
    have he := effect_of_step hs'
    generalize s'.rows = rows at he ⊢
    cases he with
    | unchanged => exact h
    | create absent =>
      refine (consistent_update h ..).mpr ?_
      constructor <;> simp
    | transition row ok =>
      exact (consistent_update h ..).mpr (consistent_transition (h.row _ _ row) ok)
    | write handler row =>
      exact (consistent_update h ..).mpr (consistent_setState.mpr (hf _ _ _ _ handler row))
    | recover => exact (consistent_recoverActiveSessions h).mpr hf
  · intro hc
    cases a with
    | recover => exact (consistent_recoverActiveSessions h).mp (hc _ rfl)
    | update act =>
      cases act with
      | write c n =>
        intro id existing target session hh hr
        have hrows := hc _ (by simp [step, Updates.step, hh, SessionStore.updateState, hr]; rfl)
        exact consistent_setState.mp ((consistent_update h id _).mp hrows)
      | _ => trivial
    | _ => trivial

/-! ## 4. What the states tell -/

/-- The states of a row since it was last RUNNING. -/
def sinceRunning (past : List SessionState) : List SessionState :=
  past.takeWhile (· ≠ .running)

theorem sinceRunning_cons (state : SessionState) (past : List SessionState) :
    sinceRunning (state :: past)
      = if state = .running then [] else state :: sinceRunning past := by
  by_cases hr : state = .running <;> simp [sinceRunning, hr]

/-- Whether a writer that leaves the times alone may write the state over a
row. `past` are the states of the row, the newest one first. -/
def MayWrite (past : List SessionState) : SessionState → Prop
  | .terminated => past.head? = some .terminated
  | .running => past.head? ≠ some .terminated ∧ .running ∈ past ∧
      .detached ∉ sinceRunning past ∧ .suspended ∉ sinceRunning past
  | .detached => past.head? ≠ some .terminated ∧ .detached ∈ sinceRunning past
  | .suspended => past.head? ≠ some .terminated ∧ .suspended ∈ sinceRunning past
  | _ => past.head? ≠ some .terminated

/-- The row's times are those that its states tell. -/
structure Told (past : List SessionState) (session : Session) : Prop where
  current : past.head? = some session.state
  started : session.startedAt.isSome = true ↔ .running ∈ past
  detached : session.detachedAt.isSome = true ↔ .detached ∈ sinceRunning past
  suspended : session.suspendedAt.isSome = true ↔ .suspended ∈ sinceRunning past

/-- A writer sets no other times than those of the state it writes. -/
structure Leaves (old new : Session) : Prop where
  started : new.state ≠ .running → new.startedAt.isSome = old.startedAt.isSome
  detached : new.state ≠ .running → new.state ≠ .detached →
    new.detachedAt.isSome = old.detachedAt.isSome
  suspended : new.state ≠ .running → new.state ≠ .suspended →
    new.suspendedAt.isSome = old.suspendedAt.isSome

section

variable {past : List SessionState} {old new : Session}

theorem Told.timesFit_iff (h : Told past old) (hc : old.Consistent) (target : SessionState) :
    old.TimesFit target ↔ MayWrite past target := by
  have ht : old.terminatedAt.isSome = true ↔ past.head? = some .terminated := by
    rw [h.current, Option.some_inj]
    exact hc.terminated.symm
  have hd : old.detachedAt = none ↔ .detached ∉ sinceRunning past := by
    rw [← h.detached, Option.not_isSome_iff_eq_none]
  have hs : old.suspendedAt = none ↔ .suspended ∉ sinceRunning past := by
    rw [← h.suspended, Option.not_isSome_iff_eq_none]
  constructor
  · rintro ⟨h₁, h₂, h₃, h₄⟩
    cases target <;> simp_all [MayWrite, h.started, h.detached, h.suspended]
  · intro hm
    cases target <;> constructor <;> simp_all [MayWrite, h.started, h.detached, h.suspended]

/-- A row that is written and stays consistent has the times its states
tell. -/
theorem Told.next (h : Told past old) (hl : Leaves old new) (hc : new.Consistent) :
    Told (new.state :: past) new := by
  by_cases hr : new.state = .running
  · obtain ⟨hst, hd, hs⟩ := hc.running hr
    constructor <;> simp [sinceRunning_cons, hr, hst, hd, hs]
  · have hne : SessionState.running ≠ new.state := Ne.symm hr
    refine ⟨rfl, ?_, ?_, ?_⟩
    · rw [hl.started hr, h.started]
      simp [hne]
    · by_cases hd : new.state = .detached
      · simp [sinceRunning_cons, hd, hc.detached hd]
      · rw [hl.detached hr hd, h.detached]
        simp [sinceRunning_cons, hr, Ne.symm hd]
    · by_cases hs : new.state = .suspended
      · simp [sinceRunning_cons, hs, hc.suspended hs]
      · rw [hl.suspended hr hs, h.suspended]
        simp [sinceRunning_cons, hr, Ne.symm hs]

theorem leaves_refl (session : Session) : Leaves session session :=
  ⟨fun _ => rfl, fun _ _ => rfl, fun _ _ => rfl⟩

theorem leaves_setState (session : Session) (state : SessionState) (now : Nat) :
    Leaves session { session with state := state, lastActivityAt := now } :=
  ⟨fun _ => rfl, fun _ _ => rfl, fun _ _ => rfl⟩

theorem leaves_transition {newState : SessionState} {now : Nat}
    (h : transitionSession old newState now = .ok new) : Leaves old new := by
  unfold transitionSession at h
  split at h
  · cases h
  split at h
  · cases h
  cases h
  cases newState <;> constructor <;> simp [Session.stamp]

end

/-- The rows of a table before and after a write. -/
def RowStep (row row' : Option Session) : Prop :=
  match row, row' with
  | none, none => True
  | some old, some new => Leaves old new
  | none, some new => new.state = .provisioning ∧ new.startedAt = none ∧
      new.detachedAt = none ∧ new.suspendedAt = none
  | some _, none => False

theorem rowStep_refl (row : Option Session) : RowStep row row := by
  cases row with
  | none => trivial
  | some session => exact leaves_refl session

theorem rowStep_update {rows : SessionRows Id} {id : Id} {new : Session}
    (h : RowStep (rows id) (some new)) (id' : Id) :
    RowStep (rows id') (Function.update rows id (some new) id') := by
  by_cases hid : id' = id
  · subst hid
    rwa [Function.update_self]
  · rw [Function.update_of_ne hid]
    exact rowStep_refl _

theorem rowStep_step {p : String → Option Id} {s s' : Updates Id Conn} {a : Act Id Conn}
    (h : step p s a = some s') (id : Id) : RowStep (s.rows id) (s'.rows id) := by
  have he := effect_of_step h
  generalize s'.rows = rows at he ⊢
  cases he with
  | unchanged => exact rowStep_refl _
  | create absent => exact rowStep_update (by rw [absent]; exact ⟨rfl, rfl, rfl, rfl⟩) id
  | transition row ok => exact rowStep_update (by rw [row]; exact leaves_transition ok) id
  | write handler row => exact rowStep_update (by rw [row]; exact leaves_setState ..) id
  | recover =>
    simp only [SessionStore.recoverActiveSessions]
    cases s.rows id with
    | none => trivial
    | some session =>
      simp only [Option.map_some]
      split
      · exact leaves_setState session .detached session.lastActivityAt
      · exact leaves_refl session

/-! ## 5. Runs and their history -/

/-- The states of a session's row in the tables. -/
def path (tables : List (Updates Id Conn)) (id : Id) : List SessionState :=
  tables.filterMap fun s => stateOf s.rows id

/-- The two writers that leave the times alone write states that may be
written. -/
def Permitted : List (Updates Id Conn) × Updates Id Conn → Act Id Conn → Prop
  | (past, s), .update (.write c _) => ∀ id existing target,
      s.handlers c = .validated id existing target → s.rows id ≠ none →
        MayWrite (path (s :: past) id) target
  | (past, s), .recover => ∀ id,
      stateOf s.rows id = some .running ∨ stateOf s.rows id = some .reAttaching →
        MayWrite (path (s :: past) id) .detached
  | _, _ => True

/-- The rows are consistent and have the times their states tell. -/
structure HistoryInv (past : List (Updates Id Conn)) (s : Updates Id Conn) : Prop where
  rows : SessionRows.Consistent s.rows
  told : ∀ id session, s.rows id = some session → Told (path (s :: past) id) session
  absent : ∀ id, s.rows id = none → path (s :: past) id = []

variable {past : List (Updates Id Conn)} {s s' : Updates Id Conn} {a : Act Id Conn}

omit [DecidableEq Id] [DecidableEq Conn] in
theorem fits_iff_permitted (h : HistoryInv past s) (a : Act Id Conn) :
    Fits s a ↔ Permitted (past, s) a := by
  cases a with
  | create id now => exact Iff.rfl
  | drop c => exact Iff.rfl
  | recover =>
    have hfit (id : Id) (session : Session) (hr : s.rows id = some session) :=
      (h.told id session hr).timesFit_iff (h.rows.row id session hr) .detached
    constructor
    · intro hf id hs
      cases hr : s.rows id with
      | none => simp [stateOf, hr] at hs
      | some session =>
        exact (hfit id session hr).mp (hf id session hr (by simpa [stateOf, hr] using hs))
    · intro hp id session hr hs
      exact (hfit id session hr).mpr (hp id (by simpa [stateOf, hr] using hs))
  | update act =>
    cases act with
    | write c now =>
      have hfit (id : Id) (session : Session) (hr : s.rows id = some session) :=
        (h.told id session hr).timesFit_iff (h.rows.row id session hr)
      constructor
      · intro hf id existing target hc hne
        obtain ⟨session, hr⟩ := Option.ne_none_iff_exists'.mp hne
        exact (hfit id session hr target).mp (hf id existing target session hc hr)
      · intro hp id existing target session hc hr
        exact (hfit id session hr target).mpr (hp id existing target hc (by simp [hr]))
    | _ => exact Iff.rfl

theorem historyInv_step {p : String → Option Id} (h : HistoryInv past s) (hf : Fits s a)
    (hs : step p s a = some s') : HistoryInv (s :: past) s' := by
  have hrows : SessionRows.Consistent s'.rows := (fits_iff s a h.rows).mp hf s' hs
  have hpath (id : Id) (new : Session) (hr : s'.rows id = some new) :
      path (s' :: s :: past) id = new.state :: path (s :: past) id := by
    simp [path, stateOf, hr]
  refine ⟨hrows, fun id new hr => ?_, fun id hr => ?_⟩
  · have hst := rowStep_step hs id
    rw [hpath id new hr]
    rw [hr] at hst
    cases hold : s.rows id with
    | some old =>
      rw [hold] at hst
      exact (h.told id old hold).next hst (hrows.row id new hr)
    | none =>
      rw [hold] at hst
      obtain ⟨hp, h₁, h₂, h₃⟩ := hst
      rw [h.absent id hold, hp]
      constructor <;> simp [hp, h₁, h₂, h₃, sinceRunning]
  · have hst := rowStep_step hs id
    rw [hr] at hst
    cases hold : s.rows id with
    | some old =>
      rw [hold] at hst
      exact hst.elim
    | none =>
      have ha := h.absent id hold
      simpa [path, stateOf, hr] using ha

/-- In every state of the run the rows are consistent, and the sessions
that are not terminated are listed as active. -/
def KeepsTimes (parse : String → Option Id) (acts : List (Act Id Conn)) : Prop :=
  ∀ s ∈ states (step parse) (start : Updates Id Conn) acts, SessionRows.Consistent s.rows

/-- **States and times.** A run from an empty table keeps states and times
in agreement just when every `UpdateState` and every recovery of the run
writes a state that may be written over the states the row has been in:
TERMINATED only over TERMINATED, and nothing else over it; DETACHED and
SUSPENDED only if the row has been so since it was last RUNNING; RUNNING only
if it has been RUNNING and neither of the two since. -/
theorem keepsTimes_iff_permitted (parse : String → Option Id) (acts : List (Act Id Conn)) :
    KeepsTimes parse acts ↔ Along (remember (step parse)) Permitted ([], start) acts := by
  have hs : SessionRows.Consistent (start : Updates Id Conn).rows := consistent_empty
  have hi : HistoryInv [] (start : Updates Id Conn) :=
    ⟨hs, (fun _ _ h => by cases h), fun _ _ => rfl⟩
  exact (forall_states_iff_along fits_iff hs).trans (along_iff_along_remember
    (fun _ _ a h => fits_iff_permitted h a) (fun _ _ _ _ h hf h' => historyInv_step h hf h') hi)

def exitReported : List (Act Unit Unit) :=
  [ .create () 1, .update (.transition () .running 2),
    .update (.fetch () "s" .terminated), .update (.validate () 3), .update (.write () 3) ]

/-- The row ends as TERMINATED without a time of termination, and is
listed as active. -/
theorem exit_leaves_active : ¬ KeepsTimes (fun _ => some ()) exitReported := by
  intro h
  have hl : some ⟨.terminated, 3, some 2, none, none, none⟩
      ∈ (states (step fun _ => some ()) start exitReported).map (fun s => s.rows ()) := by
    decide
  obtain ⟨s, hs, hr⟩ := List.mem_map.mp hl
  have hat := ((h s hs).row () _ hr).terminated.mp rfl
  cases hat

end Lifecycle

end Daao.Sessions

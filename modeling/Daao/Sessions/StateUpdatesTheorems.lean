/-
Daao.Sessions.StateUpdatesTheorems — which values the `state` column of a
session takes one after the other.

A connection that has validated a target holds a row from which the table
allows it (`Pending`). A gateway write is validated against the row as it
was READ; if the row has changed since, the write may leave a state the
table does not allow to leave, TERMINATED included. This is the only way.
-/
import Daao.Sessions.StateUpdates
import Mathlib.Data.List.Chain

namespace Daao.Sessions.Updates

open Daao.Lib

variable {Id Conn : Type}

/-! ## 1. What one step does to the column -/

/-- Two consecutive values of the column: the same, or an allowed pair. -/
def Follows (old new : Option SessionState) : Prop :=
  old = new ∨ ∃ a b, old = some a ∧ new = some b ∧ isTransitionValid a b = true

/-- Every validated target was allowed from the row that was read. -/
def Pending (s : Updates Id Conn) : Prop :=
  ∀ c id existing target, s.handlers c = .validated id existing target →
    isTransitionValid existing.state target = true

def writing : Handler Id → Option (Id × Session)
  | .validated id existing _ => some (id, existing)
  | _ => none

/-- A gateway write finds the row in the state it was read in. -/
def Unchanged (s : Updates Id Conn) : Act Id Conn → Prop
  | .write c _ => ∀ w ∈ writing (s.handlers c), stateOf s.rows w.1 = some w.2.state
  | _ => True

instance decidableUnchanged (s : Updates Id Conn) : ∀ a, Decidable (Unchanged s a)
  | .write c _ =>
    inferInstanceAs (Decidable (∀ w ∈ writing (s.handlers c), stateOf s.rows w.1 = some w.2.state))
  | .transition .. => isTrue trivial
  | .fetch .. => isTrue trivial
  | .validate .. => isTrue trivial

theorem pending_start (r : SessionRows Id) : Pending (start r : Updates Id Conn) := by
  intro c id e t h
  cases h

variable [DecidableEq Conn]

@[simp] theorem rows_setHandler (s : Updates Id Conn) (c : Conn) (handler : Handler Id) :
    (s.setHandler c handler).rows = s.rows := rfl

theorem pending_setHandler {s : Updates Id Conn} (h : Pending s) {c : Conn} {handler : Handler Id}
    (hn : ∀ id e t, handler = .validated id e t → isTransitionValid e.state t = true) :
    Pending (s.setHandler c handler) := by
  intro c' id e t hc'
  by_cases hc : c' = c
  · subst hc
    exact hn id e t (by simpa [setHandler] using hc')
  · exact h c' id e t (by simpa [setHandler, hc] using hc')

variable [DecidableEq Id]

theorem step_pending {p : String → Option Id} {s s' : Updates Id Conn} {a : Act Id Conn}
    (h : Pending s) (hs : step p s a = some s') : Pending s' := by
  cases a <;> simp only [step] at hs
  case transition id newState now =>
    split at hs <;> cases hs <;> exact h
  case fetch c sessionID state => grind [fetchRow, pending_setHandler]
  case validate c now =>
    split at hs
    · split at hs
      · cases hs
        exact pending_setHandler h (by simp)
      rename_i hok
      cases hs
      refine pending_setHandler h fun id e t heq => ?_
      cases heq
      exact (transitionSession_ok hok).1
    · cases hs
  case write c now =>
    split at hs
    · split at hs
      · cases hs
        exact pending_setHandler h (by simp)
      cases hs
      exact pending_setHandler (s := { s with rows := _ }) h (by simp)
    · cases hs

theorem step_follows {p : String → Option Id} {s s' : Updates Id Conn} {a : Act Id Conn}
    (h : Pending s) (hok : Unchanged s a) (hs : step p s a = some s') (id : Id) :
    Follows (stateOf s.rows id) (stateOf s'.rows id) := by
  cases a <;> simp only [step] at hs
  case transition id₁ newState now =>
    split at hs
    · cases hs
      exact .inl rfl
    rename_i hr
    cases hs
    obtain ⟨d, hold, hv, hn⟩ := SessionStore.transitionSession_stateOf hr
    by_cases hid : id = id₁
    · subst hid
      exact .inr ⟨d, newState, hold, by simpa using hn id, hv⟩
    · exact .inl (by simp [hn id, hid])
  case fetch c sessionID state =>
    split at hs <;> cases hs
    exact .inl rfl
  case validate c now =>
    split at hs
    · split at hs <;> cases hs <;> exact .inl rfl
    · cases hs
  case write c now =>
    split at hs
    · rename_i id₁ e t hc
      have hre := hok (id₁, e) (by rw [hc]; rfl)
      split at hs
      · cases hs
        exact .inl rfl
      rename_i hr
      cases hs
      have hn := SessionStore.updateState_stateOf hr
      by_cases hid : id = id₁
      · subst hid
        exact .inr ⟨_, t, hre, by simpa using hn id, h c _ _ _ hc⟩
      · exact .inl (by simp [hn id, hid])
    · cases hs

/-! ## 2. Runs -/

/-- The column follows the table: consecutive values are equal or an
allowed pair, and nothing but TERMINATED comes after TERMINATED. -/
def KeepsTable (parse : String → Option Id) (s : Updates Id Conn) (acts : List (Act Id Conn)) :
    Prop :=
  ∀ id, (persisted parse s acts id).IsChain Follows
    ∧ (persisted parse s acts id).Pairwise fun old new =>
        old = some .terminated → new = some .terminated

theorem follows_terminated {d n : Option SessionState} (h : Follows d n)
    (hold : d = some .terminated) : n = some .terminated := by
  rcases h with rfl | ⟨a, b, rfl, -, hv⟩
  · exact hold
  cases hold
  simp [not_isTransitionValid_terminated] at hv

theorem pairwise_of_follows {l : List (Option SessionState)} (h : l.IsChain Follows) :
    l.Pairwise fun d n => d = some .terminated → n = some .terminated := by
  have : IsTrans (Option SessionState) fun d n => d = some .terminated → n = some .terminated :=
    ⟨fun _ _ _ hab hbc ha => hbc (hab ha)⟩
  exact List.isChain_iff_pairwise.mp (h.imp fun _ _ => follows_terminated)

/-- **The state column under interleaving.** From any table, in every run
in which each gateway write finds the row in the state it was read in,
every session's column follows the table and TERMINATED is final. -/
theorem keepsTable_of_unchanged (parse : String → Option Id) (rows : SessionRows Id)
    (acts : List (Act Id Conn)) (hok : Along (step parse) Unchanged (start rows) acts) :
    KeepsTable parse (start rows) acts := by
  intro id
  have hc : (persisted parse (start rows : Updates Id Conn) acts id).IsChain Follows := by
    refine (List.isChain_map _).mpr (isChain_states ?_ (pending_start rows) hok)
    exact fun s a s' hs hok' hst => ⟨step_pending hs hst, step_follows hs hok' hst id⟩
  exact ⟨hc, pairwise_of_follows hc⟩

def oneRow (state : SessionState) : SessionRows Unit := fun _ =>
  some { state := state, lastActivityAt := 0, startedAt := some 0, detachedAt := none
         suspendedAt := none, terminatedAt := none }

/-- A session is suspended by its satellite and then killed through the API. -/
theorem keepsTable_suspend_kill :
    Along (step fun _ => some ()) Unchanged (start (oneRow .running) : Updates Unit Unit)
      [.fetch () "s" .suspended, .validate () 1, .write () 2, .transition () .terminated 3] ∧
    KeepsTable (fun _ => some ()) (start (oneRow .running) : Updates Unit Unit)
      [.fetch () "s" .suspended, .validate () 1, .write () 2, .transition () .terminated 3] := by
  exact ⟨by decide, keepsTable_of_unchanged _ _ _ (by decide)⟩

/-- The satellite reports SUSPENDED and the gateway validates it; the API
kills the session; the gateway's write brings it back. -/
theorem terminated_overwritten :
    ¬ KeepsTable (fun _ => some ()) (start (oneRow .running) : Updates Unit Unit)
      [.fetch () "s" .suspended, .validate () 1, .transition () .terminated 2, .write () 3] := by
  intro h
  have hf := (h ()).2
  revert hf
  decide

end Daao.Sessions.Updates

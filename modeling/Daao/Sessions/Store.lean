/-
Daao.Sessions.Store — the session state machine and the two ways the
session store writes a row's state (`internal/session/store.go`).

`transitionSession` is the in-memory function both callers validate with.
`SessionStore.transitionSession` reads the row `FOR UPDATE`, validates and
writes in one transaction, so it is one function of the table.
`SessionStore.updateState` writes the state it is given and validates
nothing; its caller does that beforehand.

A row is modelled with the columns these functions read or write.
Sessions are keyed by an arbitrary type, and times are natural numbers.
-/
import Mathlib.Logic.Function.Basic

namespace Daao.Sessions

/-- `SessionState`. The six states of `AllSessionStates`, and any other
string: the gateway passes unknown protocol states on by their name. -/
inductive SessionState where
  | provisioning
  | running
  | detached
  | reAttaching
  | suspended
  | terminated
  | other (name : String)
  deriving DecidableEq

def SessionState.toString : SessionState → String
  | .provisioning => "PROVISIONING"
  | .running => "RUNNING"
  | .detached => "DETACHED"
  | .reAttaching => "RE_ATTACHING"
  | .suspended => "SUSPENDED"
  | .terminated => "TERMINATED"
  | .other name => name

def allSessionStates : List SessionState :=
  [.provisioning, .running, .detached, .reAttaching, .suspended, .terminated]

def SessionState.isValid (s : SessionState) : Bool :=
  allSessionStates.any (· == s)

/-- `ValidTransitions`; `none` is a state without an entry. -/
def validTransitions : SessionState → Option (List SessionState)
  | .provisioning => some [.running, .terminated]
  | .running => some [.detached, .suspended, .terminated]
  | .detached => some [.running, .reAttaching, .terminated]
  | .reAttaching => some [.running, .detached, .terminated]
  | .suspended => some [.running, .terminated]
  | .terminated => some []
  | .other _ => none

def isTransitionValid (old new : SessionState) : Bool :=
  match validTransitions old with
  | none => false
  | some validTargets => validTargets.any (· == new)

theorem not_isTransitionValid_terminated (n : SessionState) :
    isTransitionValid .terminated n = false := rfl

structure Session where
  state : SessionState
  lastActivityAt : Nat
  startedAt : Option Nat
  detachedAt : Option Nat
  suspendedAt : Option Nat
  terminatedAt : Option Nat
  deriving DecidableEq

inductive StoreError where
  | invalidState (state : SessionState)
  | invalidTransition (old new : SessionState)
  | sessionNotFound

def StoreError.message : StoreError → String
  | .invalidState state => "invalid session state: " ++ state.toString
  | .invalidTransition old new =>
    "invalid state transition from " ++ old.toString ++ " to " ++ new.toString
  | .sessionNotFound => "session not found"

/-- The state-specific timestamps of `TransitionSession`. -/
def Session.stamp (session : Session) (now : Nat) : SessionState → Session
  | .running => { session with
      startedAt := session.startedAt.orElse fun _ => some now
      detachedAt := none
      suspendedAt := none }
  | .detached => { session with detachedAt := some now }
  | .suspended => { session with suspendedAt := some now }
  | .terminated => { session with terminatedAt := some now }
  | _ => session

def transitionSession (session : Session) (newState : SessionState) (now : Nat) :
    Except StoreError Session :=
  if !newState.isValid then .error (.invalidState newState)
  else if !isTransitionValid session.state newState then
    .error (.invalidTransition session.state newState)
  else
    .ok (({ session with state := newState, lastActivityAt := now } : Session).stamp now newState)

@[simp] theorem stamp_state (s : Session) (n : Nat) (newState : SessionState) :
    (s.stamp n newState).state = s.state := by
  cases newState <;> rfl

theorem transitionSession_ok {s se' : Session} {newState : SessionState} {n : Nat}
    (h : transitionSession s newState n = .ok se') :
    isTransitionValid s.state newState = true ∧ se'.state = newState := by
  unfold transitionSession at h
  split at h
  · cases h
  split at h
  · cases h
  rename_i hv
  cases h
  exact ⟨by simpa using hv, by simp⟩

theorem transitionSession_error {s : Session} {ns : SessionState} {n : Nat}
    {e : StoreError} (h : transitionSession s ns n = .error e)
    (hv : ns.isValid = true) : isTransitionValid s.state ns = false := by
  grind [transitionSession]

abbrev SessionRows (Id : Type) := Id → Option Session

namespace SessionStore

variable {Id : Type} [DecidableEq Id]

def getSession (rows : SessionRows Id) (id : Id) : Except StoreError Session :=
  match rows id with
  | none => .error .sessionNotFound
  | some session => .ok session

def updateState (rows : SessionRows Id) (id : Id) (state : SessionState) (now : Nat) :
    Except StoreError (SessionRows Id) :=
  match rows id with
  | none => .error .sessionNotFound
  | some session =>
    .ok (Function.update rows id (some { session with state := state, lastActivityAt := now }))

/-- `TransitionSession`: select for update, validate, write back. -/
def transitionSession (rows : SessionRows Id) (id : Id) (newState : SessionState) (now : Nat) :
    Except StoreError (SessionRows Id × Session) :=
  match rows id with
  | none => .error .sessionNotFound
  | some session =>
    match Sessions.transitionSession session newState now with
    | .error e => .error e
    | .ok updated => .ok (Function.update rows id (some updated), updated)

end SessionStore

def stateOf {Id : Type} (rows : SessionRows Id) (id : Id) : Option SessionState :=
  (rows id).map Session.state

namespace SessionStore

variable {Id : Type} [DecidableEq Id]

theorem transitionSession_eq_ok {rows r' : SessionRows Id} {id : Id} {newState : SessionState}
    {now : Nat} {u : Session} (h : transitionSession rows id newState now = .ok (r', u)) :
    ∃ session, rows id = some session ∧ Sessions.transitionSession session newState now = .ok u ∧
      r' = Function.update rows id (some u) := by
  unfold transitionSession at h
  split at h
  · cases h
  rename_i session hr
  split at h
  · cases h
  rename_i hok
  cases h
  exact ⟨session, hr, hok, rfl⟩

theorem transitionSession_stateOf {rows r' : SessionRows Id} {id : Id} {newState : SessionState}
    {now : Nat} {u : Session}
    (h : transitionSession rows id newState now = .ok (r', u)) :
    ∃ d, stateOf rows id = some d ∧ isTransitionValid d newState = true
      ∧ ∀ id', stateOf r' id' = if id' = id then some newState else stateOf rows id' := by
  obtain ⟨session, hr, hok, rfl⟩ := transitionSession_eq_ok h
  obtain ⟨hv, hs⟩ := transitionSession_ok hok
  refine ⟨session.state, by simp [stateOf, hr], hv, ?_⟩
  intro id'
  by_cases hid : id' = id <;> simp [stateOf, hid, hs]

theorem updateState_stateOf {rows r' : SessionRows Id} {id : Id} {s : SessionState}
    {n : Nat} (h : updateState rows id s n = .ok r') (id' : Id) :
    stateOf r' id' = if id' = id then some s else stateOf rows id' := by
  unfold updateState at h
  cases hr : rows id with
  | none => simp [hr] at h
  | some e =>
    simp only [hr, Except.ok.injEq] at h
    subst h
    by_cases hid : id' = id <;> simp [stateOf, hid]

end SessionStore

end Daao.Sessions

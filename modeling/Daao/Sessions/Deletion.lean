/-
Daao.Sessions.Deletion — requests that delete a session
(`HandleDeleteSession` in `internal/api/handlers.go`, `DeleteSession` in
`internal/session/store.go`) beside the two writers of its state.

A request reads the row, checks the state that it has read, and deletes
the row, whatever its state is by then. `deleted` records that state.
-/
import Daao.Sessions.StateUpdatesTheorems

namespace Daao.Sessions.Deletion

open Daao.Lib SessionStore

variable {Id Conn Req : Type} [DecidableEq Id] [DecidableEq Conn] [DecidableEq Req]

inductive Request (Id : Type) where
  | fetched (id : Id) (sess : Session)
  | allowed (id : Id)
  deriving DecidableEq

structure Nexus (Id Conn Req : Type) where
  updates : Updates Id Conn
  requests : Req → Option (Request Id)
  deleted : List SessionState

inductive Act (Id Conn Req : Type) where
  /-- a step of an API request or of a gateway connection -/
  | update (act : Updates.Act Id Conn)
  | read (r : Req) (id : Id)
  /-- a viewer is turned away from somebody else's session -/
  | check (r : Req) (forbidden : Bool)
  | delete (r : Req)

def start (rows : SessionRows Id) : Nexus Id Conn Req :=
  { updates := .start rows, requests := fun _ => none, deleted := [] }

def deletable (state : SessionState) : Bool := state = .terminated ∨ state = .provisioning

def Nexus.set (s : Nexus Id Conn Req) (r : Req) (request : Option (Request Id)) :
    Nexus Id Conn Req :=
  { s with requests := Function.update s.requests r request }

def step (parseSessionID : String → Option Id) (s : Nexus Id Conn Req) :
    Act Id Conn Req → Option (Nexus Id Conn Req)
  | .update act =>
    (Updates.step parseSessionID s.updates act).map fun updates => { s with updates := updates }
  | .read r id =>
    if s.requests r = none then
      match SessionStore.getSession s.updates.rows id with
      | .error _ => some s
      | .ok sess => some (s.set r (some (.fetched id sess)))
    else none
  | .check r forbidden =>
    match s.requests r with
    | some (.fetched id sess) =>
      if forbidden = false ∧ deletable sess.state then some (s.set r (some (.allowed id)))
      else some (s.set r none)
    | _ => none
  | .delete r =>
    match s.requests r with
    | some (.allowed id) =>
      some { s.set r none with
        updates := { s.updates with rows := Function.update s.updates.rows id none }
        deleted := s.deleted ++ (stateOf s.updates.rows id).toList }
    | _ => none

def active (state : SessionState) : Bool :=
  state = .running ∨ state = .detached ∨ state = .reAttaching ∨ state = .suspended

/-- The handler of a gateway connection has read the row in a state from
which it may move it. -/
def Handler.disturbs (id : Id) : Handler Id → Prop
  | .receiving => False
  | .fetched id' existing _ => id' = id ∧ existing.state ≠ .terminated
  | .validated id' _ _ => id' = id

/-- A row that is read for deletion is not PROVISIONING, and if it is
TERMINATED no gateway connection is about to write it. -/
def Settled (s : Nexus Id Conn Req) : Act Id Conn Req → Prop
  | .read _ id => stateOf s.updates.rows id ≠ some .provisioning ∧
      (stateOf s.updates.rows id = some .terminated →
        ∀ c, ¬ Handler.disturbs id (s.updates.handlers c))
  | _ => True

/-- The row is gone or will stay terminated. -/
structure Over (u : Updates Id Conn) (id : Id) : Prop where
  row : ∀ state ∈ stateOf u.rows id, state = .terminated
  handlers : ∀ c, ¬ Handler.disturbs id (u.handlers c)

variable {parse : String → Option Id} {u u' : Updates Id Conn} {id : Id}

omit [DecidableEq Id] in
theorem Over.setHandler (h : Over u id) {c : Conn} {handler : Handler Id}
    (hn : ¬ Handler.disturbs id handler) : Over (u.setHandler c handler) id := by
  refine ⟨h.row, fun c' => ?_⟩
  by_cases hc : c' = c
  · simpa [Updates.setHandler, hc] using hn
  · simpa [Updates.setHandler, hc] using h.handlers c'

omit [DecidableEq Id] [DecidableEq Conn] in
theorem not_disturbs_fetchRow (h : Over u id) (i : String) (t : ProtoState) :
    ¬ Handler.disturbs id (Updates.fetchRow parse u.rows i t) := by
  unfold Updates.fetchRow getSession
  split
  · exact not_false
  split
  · exact not_false
  rename_i id' _
  cases hr : u.rows id' with
  | none => exact not_false
  | some e =>
    rintro ⟨rfl, hne⟩
    exact hne (h.row _ (by simp [stateOf, hr]))

theorem over_step {act : Updates.Act Id Conn} (h : Over u id)
    (hs : Updates.step parse u act = some u') : Over u' id := by
  cases act <;> simp only [Updates.step] at hs
  case transition id' newState now =>
    split at hs <;> cases hs
    · exact h
    rename_i ht
    obtain ⟨old, hold, hv, hr⟩ := transitionSession_stateOf ht
    refine ⟨fun t hst => ?_, h.handlers⟩
    rw [hr] at hst
    split at hst
    · rename_i hid
      rw [h.row old (hid ▸ hold), not_isTransitionValid_terminated] at hv
      cases hv
    · exact h.row t hst
  case fetch c sessionID t =>
    split at hs <;> cases hs
    exact h.setHandler (not_disturbs_fetchRow h sessionID t)
  case validate c now =>
    split at hs
    · rename_i id' e a hc
      split at hs <;> cases hs
      · exact h.setHandler not_false
      rename_i hok
      refine h.setHandler ?_
      rintro rfl
      have hf := h.handlers c
      simp only [hc, Handler.disturbs, true_and, not_not] at hf
      have hv := (transitionSession_ok hok).1
      rw [hf, not_isTransitionValid_terminated] at hv
      cases hv
    · cases hs
  case write c now =>
    split at hs
    · rename_i id' e a hc
      have hne : id' ≠ id := fun heq => h.handlers c (by rw [hc]; exact heq)
      split at hs <;> cases hs
      · exact h.setHandler not_false
      rename_i rows hr
      have hst := updateState_stateOf hr id
      rw [if_neg hne.symm] at hst
      have ho : Over { u with rows := rows } id := ⟨hst ▸ h.row, h.handlers⟩
      exact ho.setHandler not_false
    · cases hs

omit [DecidableEq Conn] in
theorem Over.delete (h : Over u id) (id' : Id) :
    Over { u with rows := Function.update u.rows id' none } id := by
  refine { h with row := fun t hs => ?_ }
  simp only [stateOf, Function.update_apply] at hs
  split at hs
  · cases hs
  · exact h.row t hs

/-- The session that a request has found to be deletable. -/
def Request.session : Request Id → Option Id
  | .fetched id sess => if deletable sess.state then some id else none
  | .allowed id => some id

structure Inv (s : Nexus Id Conn Req) : Prop where
  requests : ∀ r request, s.requests r = some request → ∀ id ∈ request.session, Over s.updates id
  deleted : ∀ state ∈ s.deleted, active state = false

variable {s s' : Nexus Id Conn Req}

omit [DecidableEq Id] [DecidableEq Conn] in
theorem Inv.set (h : Inv s) {r : Req} {e : Option (Request Id)}
    (hn : ∀ q ∈ e, ∀ id ∈ q.session, Over s.updates id) : Inv (s.set r e) := by
  refine ⟨fun r' q hq => ?_, h.deleted⟩
  simp only [Nexus.set, Function.update_apply] at hq
  split at hq
  · exact hn q hq
  · exact h.requests r' q hq

theorem inv_step {a : Act Id Conn Req} (h : Inv s) (hse : Settled s a)
    (hs : step parse s a = some s') : Inv s' := by
  cases a <;> simp only [step] at hs
  case update act =>
    obtain ⟨u', hu', rfl⟩ := Option.map_eq_some_iff.mp hs
    exact { h with requests := fun r q hq id hid => over_step (h.requests r q hq id hid) hu' }
  case read r id =>
    split at hs
    · split at hs <;> cases hs
      · exact h
      rename_i e hg
      refine h.set ?_
      rintro _ ⟨⟩ id' hid'
      simp only [Request.session] at hid'
      split at hid' <;> cases hid'
      have hro : stateOf s.updates.rows id = some e.state := by
        grind [stateOf, getSession]
      have ht : e.state = .terminated := by
        have hne := hse.1
        simp_all [deletable]
      refine ⟨fun state hst => ?_, hse.2 (ht ▸ hro)⟩
      rw [hro, ht] at hst
      exact (Option.mem_some_iff.mp hst).symm
    · cases hs
  case check r forbidden => grind [Request.session, h.set, h.requests]
  case delete r =>
    split at hs
    · rename_i id hr
      cases hs
      have ho := h.requests r _ hr id rfl
      have hset : Inv (s.set r none) := h.set (by simp)
      refine ⟨fun r' q hq id' hid' => ?_, fun state hst => ?_⟩
      · exact (hset.requests r' q hq id' hid').delete id
      rcases List.mem_append.mp hst with hold | hn
      · exact h.deleted state hold
      rw [ho.row state (Option.mem_toList.mp hn)]
      rfl
    · cases hs

/-- If the rows that are read for deletion are settled, none is active when
it is deleted. -/
theorem deleted_inactive (parse : String → Option Id) (rows : SessionRows Id)
    (acts : List (Act Id Conn Req)) (s : Nexus Id Conn Req)
    (hsettled : Along (step parse) Settled (start rows) acts)
    (hrun : run (step parse) (start rows) acts = some s) :
    ∀ state ∈ s.deleted, active state = false := by
  have hs : Inv (start rows : Nexus Id Conn Req) := ⟨by simp [start], by simp [start]⟩
  exact (run_invariant_along (fun _ _ _ => inv_step) hs hsettled hrun).deleted

def rowIn (state : SessionState) : SessionRows Unit := fun _ =>
  some { state := state, lastActivityAt := 0, startedAt := none, detachedAt := none
         suspendedAt := none, terminatedAt := none }

def plainDeletion : List (Act Unit Unit Unit) := [.read () (), .check () false, .delete ()]

theorem deleted_inactive_terminated :
    ∃ s, run (step fun _ => some ()) (start (rowIn .terminated)) plainDeletion = some s
      ∧ ∀ state ∈ s.deleted, active state = false :=
  ⟨_, rfl, deleted_inactive (fun _ => some ()) (rowIn .terminated) plainDeletion _
    ⟨⟨by decide, fun _ _ => not_false⟩, fun _ h => by
      cases h
      exact ⟨trivial, fun _ h => by
        cases h
        exact ⟨trivial, fun _ _ => trivial⟩⟩⟩ rfl⟩

/-- The session starts between the check and the deletion. -/
theorem running_deleted :
    (run (step fun _ => some ()) (start (rowIn .provisioning) : Nexus Unit Unit Unit)
      [.read () (), .check () false, .update (.transition () .running 1), .delete ()]).map
      Nexus.deleted = some [.running] := by
  decide

end Daao.Sessions.Deletion

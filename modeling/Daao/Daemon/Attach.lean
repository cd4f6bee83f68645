/-
Daao.Daemon.Attach — which session a local terminal is attached to
(`handleAttachSession` in `cmd/daao/control.go`, up to its first reply).

A request that is not the id of a session may be the beginning of one. The
loop over the session map takes the first id that fits, in the order in
which `range` yields them (`order`), and slices every id before it. The PTY
of a session in the map is never nil.
-/
import Daao.Lib.GoStrings

namespace Daao.Daemon.Attach

open Daao.Lib List

inductive Outcome where
  | panics
  | error (text : GoString)
  | attached (id : GoString)
  deriving DecidableEq

def notFound (sessionID : GoString) : Outcome :=
  .error (go "session " ++ sessionID ++ go " not found")

/-- The loop over the map. -/
def partialMatch (sessionID : GoString) : List GoString → Outcome
  | [] => notFound sessionID
  | id :: order =>
    if 4 ≤ sessionID.length then
      -- `id[:len(params.SessionID)]`
      if id.length < sessionID.length then .panics
      else if id.take sessionID.length = sessionID then .attached id
      else partialMatch sessionID order
    else partialMatch sessionID order

/-- `none` is a request whose parameters cannot be parsed. -/
def handleAttachSession (order : List GoString) : Option GoString → Outcome
  | none => .error (go "invalid attach params")
  | some sessionID =>
    if order.contains sessionID then .attached sessionID else partialMatch sessionID order

/-- The session with that id, or the only one whose id begins with it. -/
def wanted (ids : List GoString) (sessionID : GoString) : Outcome :=
  if ids.contains sessionID then .attached sessionID
  else if 4 ≤ sessionID.length then
    match ids.filter (hasPrefix · sessionID) with
    | [id] => .attached id
    | _ => notFound sessionID
  else notFound sessionID

variable {sessionID : GoString} {ids order : List GoString}

theorem take_eq_iff (id : GoString) :
    id.take sessionID.length = sessionID ↔ hasPrefix id sessionID = true := by
  rw [hasPrefix, isPrefixOf_iff_prefix, prefix_iff_eq_take, eq_comm]

theorem partialMatch_short (h : sessionID.length < 4) (order : List GoString) :
    partialMatch sessionID order = notFound sessionID := by
  induction order with
  | nil => rfl
  | cons id order ih => rw [partialMatch, if_neg (by omega), ih]

theorem partialMatch_long (h : 4 ≤ sessionID.length)
    (hl : ∀ id ∈ order, sessionID.length ≤ id.length) :
    partialMatch sessionID order
      = ((order.filter (hasPrefix · sessionID)).head?).elim (notFound sessionID) .attached := by
  induction order with
  | nil => rfl
  | cons id order ih =>
    have hle := hl id mem_cons_self
    rw [partialMatch, if_pos h, if_neg (by omega)]
    by_cases hf : hasPrefix id sessionID = true
    · simp [take_eq_iff, hf]
    rw [if_neg (by rwa [take_eq_iff]), ih fun id hid => hl id (mem_cons_of_mem _ hid)]
    simp [hf]

theorem wanted_ne_panics : wanted ids sessionID ≠ .panics := by
  unfold wanted notFound
  split
  · simp
  split
  · split <;> simp
  · simp

/-- The handler is right in every order of the map just when the request is
an id or too short, or no id is shorter than it and at most one begins with
it. -/
theorem handleAttachSession_right_iff (ids : List GoString) (sessionID : GoString) :
    (∀ order, order.Perm ids → handleAttachSession order (some sessionID) = wanted ids sessionID) ↔
      sessionID ∈ ids ∨ sessionID.length < 4 ∨
        (∀ id ∈ ids, sessionID.length ≤ id.length) ∧
          (ids.filter (hasPrefix · sessionID)).length ≤ 1 := by
  by_cases hme : sessionID ∈ ids
  · refine iff_of_true (fun order hp => ?_) (.inl hme)
    simp [handleAttachSession, wanted, hme, hp.mem_iff]
  have hlo : ∀ order, order.Perm ids →
      handleAttachSession order (some sessionID) = partialMatch sessionID order := by
    intro order hp
    simp [handleAttachSession, hp.mem_iff, hme]
  by_cases hs : sessionID.length < 4
  · refine iff_of_true (fun order hp => ?_) (.inr (.inl hs))
    rw [hlo order hp, partialMatch_short hs, wanted, if_neg (by simpa using hme), if_neg (by omega)]
  have hfo : 4 ≤ sessionID.length := by omega
  have hw : wanted ids sessionID = match ids.filter (hasPrefix · sessionID) with
      | [id] => .attached id
      | _ => notFound sessionID := by
    rw [wanted, if_neg (by simpa using hme), if_pos hfo]
  simp only [hme, hs, false_or]
  constructor
  · intro hr
    -- an id may come first
    have hfi : ∀ id ∈ ids,
        partialMatch sessionID (id :: ids.erase id) = wanted ids sessionID := by grind
    have hl : ∀ id ∈ ids, sessionID.length ≤ id.length := by
      intro id hid
      by_contra hlt
      have hpa := hfi id hid
      rw [partialMatch, if_pos hfo, if_pos (by omega)] at hpa
      exact wanted_ne_panics hpa.symm
    refine ⟨hl, ?_⟩
    by_contra hm
    obtain ⟨id, id', rest, hf⟩ : ∃ id id' rest,
        ids.filter (hasPrefix · sessionID) = id :: id' :: rest := by
      match hf : ids.filter (hasPrefix · sessionID), hm with
      | id :: id' :: rest, _ => exact ⟨id, id', rest, rfl⟩
      | [], hm | [_], hm => simp at hm
    obtain ⟨hid, hft⟩ := mem_filter.mp (hf ▸ mem_cons_self : id ∈ _)
    have ha := hfi id hid
    rw [partialMatch, if_pos hfo, if_neg (by have := hl id hid; omega),
      if_pos ((take_eq_iff id).mpr hft), hw, hf] at ha
    cases ha
  · rintro ⟨hl, ho⟩ order hp
    have hl' : ∀ id ∈ order, sessionID.length ≤ id.length := fun id hid => hl id (hp.mem_iff.mp hid)
    have hsa := hp.filter (hasPrefix · sessionID)
    rw [hlo order hp, partialMatch_long hfo hl', hw]
    match hf : ids.filter (hasPrefix · sessionID), ho with
    | [], _ => simp [perm_nil.mp (hf ▸ hsa)]
    | [id], _ => simp [perm_singleton.mp (hf ▸ hsa)]
    | _ :: _ :: _, ho => simp at ho

/-- A request that is longer than an id makes the handler panic, and of two
ids that begin with it the map's order chooses one. -/
theorem handleAttachSession_wrong :
    handleAttachSession [go "abcd"] (some (go "abcde")) = .panics ∧
    wanted [go "abcd"] (go "abcde") = notFound (go "abcde") ∧
    handleAttachSession [go "abcd1", go "abcd2"] (some (go "abcd")) = .attached (go "abcd1") ∧
    handleAttachSession [go "abcd2", go "abcd1"] (some (go "abcd")) = .attached (go "abcd2") := by
  decide

end Daao.Daemon.Attach

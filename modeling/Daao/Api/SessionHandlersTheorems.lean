/-
Daao.Api.SessionHandlersTheorems — which calls of a viewer keep to the
viewer's own sessions.

A call on one session is isolated just when its id is not a UUID or is
that of an own session: for every other id the response tells whether such
a session exists, and four of the six endpoints return it. A viewer whose
account could not be resolved gets the list of everybody; with an OIDC
issuer that is every viewer.
-/
import Daao.Api.SessionHandlers
import Daao.Api.IdentityTheorems

namespace Daao.Api

open Daao.Lib Daao.Sessions Daao.Daemon List Table

variable {Id : Type} [LinearOrder Id]

/-! ## 1. Pages -/

instance totalNewestFirst : Std.Total (@newestFirst Id _) :=
  ⟨fun a b => le_total b.key a.key⟩

instance transNewestFirst : IsTrans (SessionRecord Id) newestFirst :=
  ⟨fun _ _ _ hab hbc => le_trans hbc hab⟩

variable {p : SessionRecord Id → Bool} {t t' : SessionRecords Id}

theorem selectPage_congr {p' : SessionRecord Id → Bool} (limit : Nat)
    (h : (t.rows.filter p).Perm (t'.rows.filter p')) :
    selectPage t p limit = selectPage t' p' limit := by
  have hs : (t.rows.filter p).insertionSort newestFirst
      = (t'.rows.filter p').insertionSort newestFirst := by
    have hp := ((perm_insertionSort newestFirst (t.rows.filter p)).trans h).trans
      (perm_insertionSort newestFirst (t'.rows.filter p')).symm
    refine hp.eq_of_pairwise ?_ (pairwise_insertionSort _ _) (pairwise_insertionSort _ _)
    -- rows with the same key have the same id
    intro a b ha hb hab hba
    have hk : a.key = b.key := le_antisymm hba hab
    have hid : a.id = b.id := congrArg (fun k => (ofLex k).2) hk
    have ham : a ∈ t.rows := mem_of_mem_filter ((perm_insertionSort newestFirst _).mem_iff.mp ha)
    have hbm : b ∈ t.rows := mem_of_mem_filter
      (h.mem_iff.mpr ((perm_insertionSort newestFirst _).mem_iff.mp hb))
    have hf := find?_of_mem ham
    rw [hid, find?_of_mem hbm, Option.some.injEq] at hf
    exact hf.symm
  rw [selectPage, selectPage, hs]

variable {row sess : SessionRecord Id}

theorem mem_selectPage {i : Nat} (h : row ∈ selectPage t p i) : row ∈ t.rows ∧ p row = true :=
  mem_filter.mp ((perm_insertionSort newestFirst _).mem_iff.mp (mem_of_mem_take h))

theorem selectPage_eq_nil {i : Nat} (hl : 0 < i) :
    selectPage t p i = [] ↔ t.rows.filter p = [] := by
  rw [selectPage, take_eq_nil_iff, ← length_eq_zero_iff,
    (perm_insertionSort newestFirst (t.rows.filter p)).length_eq, length_eq_zero_iff]
  exact or_iff_right (Nat.pos_iff_ne_zero.mp hl)

theorem limit_pos (cursor : String) (limit : Option Int) :
    0 < (parsePaginationParams cursor limit).limit := by
  unfold parsePaginationParams
  cases limit with
  | none => exact Nat.succ_pos _
  | some limit =>
    simp only
    split
    · exact Nat.succ_pos _
    split
    · omega
    · exact Nat.succ_pos _

/-! ## 2. Tables that agree on an account -/

theorem sameOwn_restrict (account : Id) (t : SessionRecords Id) :
    SameOwn account t (t.restrict fun row => row.userID = account) := by
  intro row hr
  simp [restrict, hr]

theorem sameOwn_insert {account : Id} {t'' : SessionRecords Id}
    (h : SameOwn account t t') (hi : t'.insert row = some t'') (hr : row.userID ≠ account) :
    SameOwn account t t'' := by
  intro own ho
  rw [h own ho, (insert_eq_some hi).2, mem_append, mem_singleton]
  refine ⟨.inl, fun hm => hm.resolve_right fun heq => hr (heq ▸ ho)⟩

variable {id : Id}

theorem find?_of_sameOwn {account : Id}
    (h : SameOwn account t t') (hf : t.find? id = some row) (ho : row.userID = account) :
    t'.find? id = some row := by
  have hm := (h row ho).mp (mem_of_find? hf)
  have hid : row.id = id := key_of_find? hf
  exact hid ▸ find?_of_mem hm

/-! ## 3. Calls on one session -/

/-- What a handler of one session can do: it never answers 404, it returns
no other session, it changes no other row, and its response depends on
the row alone. -/
structure RowLocal (f : SessionRecords Id → Outcome Id) (id : Id) (sess : SessionRecord Id) :
    Prop where
  status : ∀ t, t.find? id = some sess → (f t).response.status ≠ 404
  returned : ∀ t, t.find? id = some sess → ∀ s ∈ (f t).response.sessions, s.id = id
  others : ∀ t, t.find? id = some sess → ∀ id' ≠ id, (f t).table.find? id' = t.find? id'
  response : ∀ t t', t.find? id = some sess → t'.find? id = some sess →
    (f t).response = (f t').response

theorem RowLocal.congr {f g : SessionRecords Id → Outcome Id}
    (hg : RowLocal g id sess) (h : ∀ t, t.find? id = some sess → f t = g t) :
    RowLocal f id sess where
  status t hf := h t hf ▸ hg.status t hf
  returned t hf := h t hf ▸ hg.returned t hf
  others t hf := h t hf ▸ hg.others t hf
  response t t' hf hf' := by
    rw [h t hf, h t' hf']
    exact hg.response t t' hf hf'

theorem rowLocal_fail {status : Nat} {message : String} (hst : status ≠ 404) :
    RowLocal (fun t => .fail t status message) id sess where
  status _ _ := hst
  returned t _ s hs := by cases hs
  others _ _ _ _ := rfl
  response _ _ _ _ := rfl

theorem rowLocal_done {e' : SessionRecord Id} {c : List (Id × NexusMessage)} {eve : EventType}
    {next : SessionRecords Id → SessionRecords Id} (hid : e'.id = id)
    (hn : ∀ t, ∀ id' ≠ id, (next t).find? id' = t.find? id') :
    RowLocal (fun t => .done (next t) e' c eve) id sess where
  status _ _ := by simp [Outcome.done]
  returned t _ s hs := by
    rw [mem_singleton.mp hs]
    exact hid
  others t _ := hn t
  response _ _ _ _ := rfl

theorem rowLocal_transitionTo {newState : SessionState}
    {f : String} {c : List (Id × NexusMessage)} {eve : EventType} {now : Nat}
    (hid : sess.id = id) :
    RowLocal (fun t => transitionTo newState f c eve now t id) id sess := by
  cases hok : transitionSession sess.session newState now with
  | error e =>
    have hfa : RowLocal (fun t => .fail t 500 f) id sess := rowLocal_fail (by decide)
    refine hfa.congr fun t hf => ?_
    simp only [transitionTo, transitionRecord, hf, hok]
  | ok u =>
    have hd : RowLocal (fun t => .done (t.modify id (fun row => { row with session := u })
        fun _ => rfl) { sess with session := u } c eve) id sess :=
      rowLocal_done hid fun t id' hne => (find?_modify t id id' _ _).trans (if_neg hne)
    refine hd.congr fun t hf => ?_
    simp only [transitionTo, transitionRecord, hf, hok]

/-- Each endpoint looks its session up, and does no more than `RowLocal`
says with the row it finds. -/
theorem exists_rowLocal_handler (parseUUID : String → Option Id) (user : Option AuthUser)
    (now : Nat) (sessionID : String) (action : SessionAction) :
    ∃ handler : SessionRecords Id → Id → SessionRecord Id → Outcome Id,
      (∀ store t, serveSession parseUUID store user now t (.onSession action sessionID)
        = onSession parseUUID store sessionID t (handler t)) ∧
      ∀ id sess, sess.id = id → RowLocal (handler · id sess) id sess := by
  cases action with
  | get =>
    refine ⟨_, fun store t => rfl, fun id sess hid => ?_⟩
    refine ⟨fun _ _ => by simp, fun t _ s hs => ?_, fun _ _ _ _ => rfl, fun _ _ _ _ => rfl⟩
    rw [mem_singleton.mp hs]
    exact hid
  | attach =>
    refine ⟨_, fun store t => rfl, fun id sess hid => ?_⟩
    split
    · exact rowLocal_done hid fun _ _ _ => rfl
    · exact rowLocal_transitionTo hid
  | detach | resume => exact ⟨_, fun store t => rfl, fun id sess hid => rowLocal_transitionTo hid⟩
  | suspend | kill =>
    refine ⟨_, fun store t => rfl, fun id sess hid => ?_⟩
    split
    · exact rowLocal_fail (by decide)
    · exact rowLocal_transitionTo hid

def Owns (account : Id) (t : SessionRecords Id) (id : Id) : Prop :=
  ∃ row, t.find? id = some row ∧ row.userID = account

def someRecord (id userID : Id) (createdAt : Nat) : SessionRecord Id :=
  { id := id, satelliteID := id, userID := userID, name := "", createdAt := createdAt
    session := { state := .provisioning, lastActivityAt := 0, startedAt := none
                 detachedAt := none, suspendedAt := none, terminatedAt := none } }

section

variable {parseUUID : String → Option Id} (v : Viewer parseUUID) {now : Nat} {t : SessionRecords Id}
  {account id : Id} {user : Option AuthUser} {cursor sessionID : String}

theorem status_onSession_iff (hparse : parseUUID sessionID = some id) (action : SessionAction) :
    (serveSession parseUUID true user now t (.onSession action sessionID)).response.status = 404
      ↔ t.find? id = none := by
  obtain ⟨handler, hserve, hl⟩ := exists_rowLocal_handler parseUUID user now sessionID action
  rw [hserve]
  cases hf : t.find? id with
  | none => simp [onSession, hparse, hf, Outcome.fail]
  | some sess => simpa [onSession, hparse, hf] using (hl id sess (key_of_find? hf)).status t hf

theorem isolated_of_fail {ss : Bool} {r : SessionRequest} {a : Nat} {m : String}
    (h : ∀ t, serveSession parseUUID ss v.user now t r = .fail t a m) :
    Isolated v ss now t r where
  notReturned row _ _ s hs := by
    rw [h] at hs
    cases hs
  unchanged row hr _ := by
    rw [h]
    exact find?_of_mem hr
  independent t' _ := by
    rw [h, h]
    rfl

theorem exists_sameOwn_find? [Nontrivial Id] (h : ¬ Owns v.account t id) :
    ∃ t', SameOwn v.account t t' ∧ (t'.find? id = none ↔ ¬ t.find? id = none) := by
  cases hfi : t.find? id with
  | none =>
    obtain ⟨other, ho⟩ := exists_ne v.account
    have hfr : (someRecord id other 0).id ∉ t.rows.map SessionRecord.id := by
      intro hm
      obtain ⟨row, hr, hid⟩ := mem_map.mp hm
      have hf := find?_of_mem hr
      rw [hid, show (someRecord id other 0).id = id from rfl, hfi] at hf
      cases hf
    obtain ⟨t', ht'⟩ := exists_insert _ (find?_eq_none hfr)
    refine ⟨t', sameOwn_insert (fun _ _ => Iff.rfl) ht' ho, ?_⟩
    rw [find?_insert ht']
    simp [someRecord]
  | some row =>
    refine ⟨t.restrict fun row => row.userID = v.account, sameOwn_restrict _ _, ?_⟩
    simp only [reduceCtorEq, not_false_eq_true, iff_true]
    refine find?_eq_none fun hm => ?_
    obtain ⟨w, how, hid⟩ := mem_map.mp hm
    obtain ⟨how, ha⟩ := mem_filter.mp how
    exact h ⟨w, hid ▸ find?_of_mem how, by simpa using ha⟩

/-- **One session.** A call is isolated just when its id is no UUID or is
that of an own session. -/
theorem isolated_onSession_iff [Nontrivial Id] (action : SessionAction) (sessionID : String) :
    Isolated v true now t (.onSession action sessionID) ↔
      ∀ id ∈ parseUUID sessionID, Owns v.account t id := by
  constructor
  · intro h id hparse
    by_contra hn
    obtain ⟨t', hs, hd⟩ := exists_sameOwn_find? v hn
    have hst := congrArg Response.status (h.independent t' hs)
    rw [← status_onSession_iff hparse action, ← status_onSession_iff hparse action, hst] at hd
    exact iff_not_self hd
  intro ho
  obtain ⟨handler, hserve, hl⟩ := exists_rowLocal_handler parseUUID v.user now sessionID action
  cases hparse : parseUUID sessionID with
  | none =>
    refine isolated_of_fail (a := 400) (m := "invalid session_id") v fun t => ?_
    rw [hserve]
    simp [onSession, hparse]
  | some id =>
    obtain ⟨sess, hf, ha⟩ := ho id hparse
    have hl := hl id sess (key_of_find? hf)
    have hfound : ∀ t, t.find? id = some sess →
        serveSession parseUUID true v.user now t (.onSession action sessionID)
          = handler t id sess := by
      intro t hf
      rw [hserve]
      simp [onSession, hparse, hf]
    -- a session of another user has another id
    have hne : ∀ row ∈ t.rows, row.userID ≠ v.account → row.id ≠ id := by
      intro row hr hfo hid
      have hfu := find?_of_mem hr
      rw [hid, hf, Option.some.injEq] at hfu
      exact hfo (hfu ▸ ha)
    constructor
    · grind [hl.returned]
    · intro row hr hfo
      rw [hfound t hf, hl.others t hf row.id (hne row hr hfo)]
      exact find?_of_mem hr
    intro t' hs
    have hf' := find?_of_sameOwn hs hf ha
    rw [hfound t hf, hfound t' hf']
    exact hl.response t' t hf' hf

/-! ## 4. Lists -/

def isOwn (account : Id) (row : SessionRecord Id) : Bool := row.userID = account

omit [LinearOrder Id] in
theorem viewerID_viewer : viewerID parseUUID v.user = some v.account ∨
    viewerID parseUUID v.user = none := by
  cases hu : v.user with
  | none => exact .inr rfl
  | some u =>
    have hr := v.role u hu
    cases hid : parseUUID u.id with
    | none => exact .inr (by simp [viewerID, hr, hid])
    | some userID => exact .inl (by simp [viewerID, hr, hid, v.id u hu userID hid])

def ownPage (parseUUID : String → Option Id) (account : Id) (t : SessionRecords Id)
    (params : PaginationParams) : List (SessionRecord Id) :=
  if params.cursor ≠ "" then
    match parseUUID params.cursor with
    | none => []
    | some cursor =>
      selectPage t (fun row => isOwn account row && isAfter t cursor row) params.limit
  else selectPage t (isOwn account) params.limit

theorem serveSession_list_of_resolved
    (hu : viewerID parseUUID user = some account) (cursor : String) (limit : Option Int) :
    serveSession parseUUID true user now t (.list cursor limit)
      = { table := t
          response := pageOf (ownPage parseUUID account t (parsePaginationParams cursor limit))
            (parsePaginationParams cursor limit).limit (t.rows.filter (isOwn account)).length
          commands := [], events := [] } := by
  simp only [serveSession, handleListSessions, hu, Bool.not_true, Bool.false_eq_true, if_false]
  rfl

theorem ownPage_of_cursor (hne : cursor ≠ "")
    (hparse : parseUUID cursor = some id) (limit : Option Int) :
    ownPage parseUUID account t (parsePaginationParams cursor limit)
      = selectPage t (fun row => isOwn account row && isAfter t id row)
          (parsePaginationParams cursor limit).limit := by
  have hc : (parsePaginationParams cursor limit).cursor = cursor := rfl
  simp [ownPage, hc, hne, hparse]

theorem mem_ownPage {a : PaginationParams} {row : SessionRecord Id}
    (h : row ∈ ownPage parseUUID account t a) : row ∈ t.rows ∧ row.userID = account := by
  unfold ownPage at h
  split at h
  · split at h
    · cases h
    obtain ⟨hm, hp⟩ := mem_selectPage h
    simp only [isOwn, Bool.and_eq_true, decide_eq_true_eq] at hp
    exact ⟨hm, hp.1⟩
  · grind [isOwn, mem_selectPage]

/-- The cursor does not matter, is an own session, or there is nothing to
list. -/
def CursorOwn (parseUUID : String → Option Id) (account : Id) (t : SessionRecords Id)
    (cursor : String) : Prop :=
  cursor = "" ∨ ∀ id ∈ parseUUID cursor, Owns account t id ∨ ∀ row ∈ t.rows, row.userID ≠ account

theorem ownPage_congr {t' : SessionRecords Id} {params : PaginationParams}
    (hcu : CursorOwn parseUUID account t params.cursor) (hs : SameOwn account t t') :
    ownPage parseUUID account t' params = ownPage parseUUID account t params := by
  have ho : ∀ {p : SessionRecord Id → Bool} (row : SessionRecord Id),
      (isOwn account row && p row) = true → (row ∈ t'.rows ↔ row ∈ t.rows) := by
    intro p row hr
    simp only [isOwn, Bool.and_eq_true, decide_eq_true_eq] at hr
    exact (hs row hr.1).symm
  unfold ownPage
  split
  · rename_i hne
    cases hparse : parseUUID params.cursor with
    | none => rfl
    | some cursor =>
      rcases hcu.resolve_left hne cursor hparse with ⟨c, hf, hc⟩ | hn
      · -- both tables have the cursor's row, so they compare with the same key
        have ha : isAfter t' cursor = isAfter t cursor := by
          funext row
          rw [isAfter, isAfter, hf, find?_of_sameOwn hs hf hc]
        simp only [ha]
        exact selectPage_congr _ (perm_filter ho)
      -- neither table has an own session
      have hni : ∀ {t₁ : SessionRecords Id} (p : SessionRecord Id → Bool),
          (∀ row ∈ t₁.rows, row.userID ≠ account) →
            t₁.rows.filter (fun row => isOwn account row && p row) = [] := by
        intro t₁ p hfo
        rw [filter_eq_nil_iff]
        intro row hr
        simp [isOwn, hfo row hr]
      have hn' : ∀ row ∈ t'.rows, row.userID ≠ account := fun row hr hac =>
        hn row ((hs row hac).mpr hr) hac
      refine selectPage_congr _ ?_
      rw [hni _ hn, hni _ hn']
  · refine selectPage_congr _ (perm_filter fun row hr => ?_)
    exact ho (p := fun _ => true) row (by simpa using hr)

theorem isolated_list_of_cursorOwn (hu : viewerID parseUUID v.user = some v.account)
    {i : Option Int} (hc : CursorOwn parseUUID v.account t cursor) :
    Isolated v true now t (.list cursor i) where
  notReturned row hr hfo s hs hid := by
    rw [serveSession_list_of_resolved hu] at hs
    obtain ⟨hm, ha⟩ := mem_ownPage hs
    have hf := find?_of_mem hm
    rw [hid, find?_of_mem hr, Option.some.injEq] at hf
    exact hfo (hf ▸ ha)
  unchanged row hr _ := by
    rw [serveSession_list_of_resolved hu]
    exact find?_of_mem hr
  independent t' hsa := by
    have hco : (t'.rows.filter (isOwn v.account)).length
        = (t.rows.filter (isOwn v.account)).length := by
      refine (perm_filter fun row hr => ?_).length_eq
      exact (hsa row (by simpa [isOwn] using hr)).symm
    rw [serveSession_list_of_resolved hu, serveSession_list_of_resolved hu, hco,
      ownPage_congr hc hsa]

theorem cursorOwn_of_isolated [Nontrivial Id]
    (hu : viewerID parseUUID v.user = some v.account) {limit : Option Int}
    (h : Isolated v true now t (.list cursor limit)) : CursorOwn parseUUID v.account t cursor := by
  by_contra hn
  unfold CursorOwn at hn
  push Not at hn
  obtain ⟨hne, id, hparse, how, row, hro, ha⟩ := hn
  obtain ⟨oth, ho⟩ := exists_ne v.account
  have hm : id ∉ (t.restrict fun row => row.userID = v.account).rows.map
      SessionRecord.id := by
    intro hme
    obtain ⟨r, hr, hid⟩ := mem_map.mp hme
    obtain ⟨hr, hra⟩ := mem_filter.mp hr
    exact how ⟨r, hid ▸ find?_of_mem hr, by simpa using hra⟩
  -- one table has the own sessions alone, the other a newer session of
  -- somebody else under the cursor's id
  obtain ⟨t₂, ht₂⟩ := exists_insert (someRecord id oth (row.createdAt + 1)) (find?_eq_none hm)
  have hs₁ := sameOwn_restrict v.account t
  have hs₂ := sameOwn_insert hs₁ ht₂ ho
  have hre := (h.independent _ hs₂).trans (h.independent _ hs₁).symm
  rw [serveSession_list_of_resolved hu, serveSession_list_of_resolved hu] at hre
  simp only [pageOf, Response.mk.injEq, Body.page.injEq, true_and] at hre
  have hi := hre.1
  have he : ownPage parseUUID v.account (t.restrict fun row => row.userID = v.account)
      (parsePaginationParams cursor limit) = [] := by
    rw [ownPage_of_cursor hne hparse, selectPage_eq_nil (limit_pos cursor limit), filter_eq_nil_iff]
    simp [isAfter, find?_eq_none hm]
  have hf : ownPage parseUUID v.account t₂ (parsePaginationParams cursor limit) ≠ [] := by
    rw [ne_eq, ownPage_of_cursor hne hparse, selectPage_eq_nil (limit_pos cursor limit),
      filter_eq_nil_iff]
    intro hal
    refine hal row ((hs₂ row ha).mp hro) ?_
    have hfi : t₂.find? id = some (someRecord id oth (row.createdAt + 1)) := by
      rw [find?_insert ht₂]
      exact if_pos rfl
    simp only [isOwn, ha, decide_true, isAfter, hfi, Bool.true_and, decide_eq_true_eq]
    exact Prod.Lex.toLex_lt_toLex.mpr (.inl (Nat.lt_succ_self _))
  exact hf (hi.trans he)

theorem isolated_list_of_unresolved [Nontrivial Id]
    (hu : viewerID parseUUID v.user = none) (hf : ∃ id, id ∉ t.rows.map SessionRecord.id)
    (cursor : String) (limit : Option Int) :
    Isolated v true now t (.list cursor limit) ↔ cursor ≠ "" ∧ parseUUID cursor = none := by
  have hc : (parsePaginationParams cursor limit).cursor = cursor := rfl
  constructor
  · intro h
    by_contra hn
    -- the response has the number of all sessions
    have hp : ∀ t, ∃ i,
        (serveSession parseUUID true v.user now t (.list cursor limit)).response
          = pageOf i (parsePaginationParams cursor limit).limit t.rows.length := by
      intro t
      simp only [serveSession, handleListSessions, hu, hc, Bool.not_true, Bool.false_eq_true,
        if_false]
      split
      · rename_i hne
        cases hparse : parseUUID cursor with
        | none => exact absurd ⟨hne, hparse⟩ hn
        | some c => exact ⟨_, rfl⟩
      · exact ⟨_, rfl⟩
    obtain ⟨id, hid⟩ := hf
    obtain ⟨oth, ho⟩ := exists_ne v.account
    obtain ⟨t', ht'⟩ := exists_insert (someRecord id oth 0) (find?_eq_none hid)
    have hr := h.independent t' (sameOwn_insert (fun _ _ => Iff.rfl) ht' ho)
    obtain ⟨i, hi⟩ := hp t
    obtain ⟨it', hi'⟩ := hp t'
    rw [hi, hi', (insert_eq_some ht').2] at hr
    simp [pageOf] at hr
  · intro ⟨hne, hparse⟩
    have hfa : ∀ t, serveSession parseUUID true v.user now t (.list cursor limit)
        = .fail t 500 "failed to list sessions" := by
      simp [serveSession, handleListSessions, hu, hc, hne, hparse]
    exact isolated_of_fail v hfa

/-! ## 5. All endpoints -/

def Viewer.Scoped (t : SessionRecords Id) : SessionRequest → Prop
  | .list cursor _ =>
    (viewerID parseUUID v.user = some v.account ∧ CursorOwn parseUUID v.account t cursor)
      ∨ (viewerID parseUUID v.user = none ∧ cursor ≠ "" ∧ parseUUID cursor = none)
  | .onSession _ sessionID => ∀ id ∈ parseUUID sessionID, Owns v.account t id

/-- **Isolation of viewers.** A viewer's call is isolated just when there
is no store or the call is scoped. Some id is free in the table. -/
theorem isolated_iff_scoped [Nontrivial Id] (sessionStore : Bool) (now : Nat)
    (t : SessionRecords Id) (hfree : ∃ id, id ∉ t.rows.map SessionRecord.id)
    (req : SessionRequest) :
    Isolated v sessionStore now t req ↔ sessionStore = false ∨ v.Scoped t req := by
  cases sessionStore with
  | false =>
    have hf : ∀ t, serveSession parseUUID false v.user now t req
        = .fail t 500 "session store not configured" := by
      intro t
      cases req with
      | list cursor lim => simp [serveSession, handleListSessions]
      | onSession act sessionID =>
        obtain ⟨handler, hserve, -⟩ := exists_rowLocal_handler parseUUID v.user now sessionID act
        rw [hserve]
        simp [onSession]
    exact ⟨fun _ => .inl rfl, fun _ => isolated_of_fail v hf⟩
  | true =>
    simp only [Bool.true_eq_false, false_or]
    cases req with
    | onSession act sessionID => exact isolated_onSession_iff v act sessionID
    | list cursor lim =>
      rcases viewerID_viewer v with hu | hu
      · simp only [Viewer.Scoped, hu, true_and, reduceCtorEq, false_and, or_false]
        exact ⟨cursorOwn_of_isolated v hu, isolated_list_of_cursorOwn v hu⟩
      simp only [Viewer.Scoped, hu, true_and, reduceCtorEq, false_and, false_or]
      exact isolated_list_of_unresolved v hu hfree cursor lim

theorem not_isolated_of_oidc [Nontrivial Id] (us : Id → String) (u : Auth.Users Id)
    (s : String) (n : Id) (la : Nat) (hu : v.user
      = contextUser us (resolveUser parseUUID true u s n la).2)
    (hf : ∃ id, id ∉ t.rows.map SessionRecord.id) (i : Option Int) :
    ¬ Isolated v true now t (.list "" i) := by
  have hun : viewerID parseUUID v.user = none := by
    rw [hu, contextUser_oidc]
    rfl
  rw [isolated_list_of_unresolved v hun hf]
  exact fun h => h.1 rfl

end

/-! ## 6. Two users -/

def twoUsersUUID (s : String) : Option Nat :=
  if s = "1" then some 1 else if s = "7" then some 7 else if s = "8" then some 8 else none

def twoUsersTable : SessionRecords Nat where
  rows := [ ⟨7, 0, 1, "own", ⟨.running, 2, some 2, none, none, none⟩, 1⟩,
            ⟨8, 0, 2, "others", ⟨.running, 2, some 2, none, none, none⟩, 1⟩ ]
  primaryKey := by decide

def viewerOne : Viewer twoUsersUUID where
  account := 1
  user := some { id := "1", email := "", name := "", role := "viewer", avatarURL := "" }
  role := by simp
  id := by simp [twoUsersUUID]

theorem isolated_suspend_own :
    (∃ id, id ∉ twoUsersTable.rows.map SessionRecord.id) ∧
      Isolated viewerOne true 3 twoUsersTable (.onSession .suspend "7") := by
  have hf : ∃ id, id ∉ twoUsersTable.rows.map SessionRecord.id := ⟨0, by decide⟩
  refine ⟨hf, (isolated_iff_scoped viewerOne true 3 twoUsersTable hf _).mpr (.inr ?_)⟩
  intro id hid
  rw [Option.mem_def, show twoUsersUUID "7" = some 7 by decide, Option.some.injEq] at hid
  exact hid ▸ ⟨_, rfl, rfl⟩

/-- The viewer detaches the other user's session, and gets it back. -/
theorem detach_others : ¬ Isolated viewerOne true 3 twoUsersTable (.onSession .detach "8") := by
  intro h
  have hr : (⟨8, 0, 2, "others", ⟨.running, 2, some 2, none, none, none⟩, 1⟩ : SessionRecord Nat)
      ∈ twoUsersTable.rows := by decide
  have hu := h.unchanged _ hr (by decide)
  revert hu
  decide

end Daao.Api

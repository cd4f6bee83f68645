/-
Daao.Api.SessionWalk — a client's walk over the session list, while others
create and delete sessions (`HandleListSessions` in
`internal/api/handlers.go`, `ListActiveSessionsAfter` in
`internal/session/store.go`).

The client asks for the first page, and then for the page of each next
cursor until there is none. A cursor is the id of the last session of the
page before, and its `(created_at, id)` is looked up in the table as it is
when the next page is asked for. A deleted cursor compares as NULL with
every row: the page is empty, and the walk ends.
-/
import Daao.Api.AgentsTheorems
import Daao.Api.SessionHandlersTheorems

namespace Daao.Api

open Daao.Lib List

/-! ## 1. The walk -/

inductive WalkPhase (Id : Type) where
  | first
  | next (cursor : Id)
  | done
  deriving DecidableEq

structure SessionWalk (Id : Type) where
  table : SessionRecords Id
  phase : WalkPhase Id
  returned : List (SessionRecord Id)

namespace SessionWalk

inductive Act (Id : Type) where
  | create (row : SessionRecord Id)
  | delete (id : Id)
  | request
  deriving DecidableEq

section

variable {Id : Type} [LinearOrder Id] [Uuid Id] (t : SessionRecords Id)

def start : SessionWalk Id := { table := t, phase := .first, returned := [] }

def receive (s : SessionWalk Id) (response : Response Id) : SessionWalk Id :=
  match response.body with
  | .page items _ _ nextCursor =>
    { s with
      phase := match nextCursor with
        | none => .done
        | some cursor => .next cursor
      returned := s.returned ++ items }
  | _ => { s with phase := .done }

def WalkPhase.cursorParam : WalkPhase Id → String
  | .next cursor => Uuid.text cursor
  | _ => ""

def step (user : Option AuthUser) (limit : Option Int) (s : SessionWalk Id) :
    Act Id → Option (SessionWalk Id)
  | .create row =>
    match s.table.insert row with
    | none => some s
    | some t => some { s with table := t }
  | .delete id => some { s with table := s.table.restrict fun row => row.id ≠ id }
  | .request =>
    if s.phase = .done then none
    else
      some (s.receive (handleListSessions Uuid.parse true user
        (parsePaginationParams (WalkPhase.cursorParam s.phase) limit) s.table).response)

def Lists (user : Option AuthUser) (row : SessionRecord Id) : Prop :=
  ∀ userID, viewerID Uuid.parse user = some userID → row.userID = userID

instance decidableLists (user : Option AuthUser) (row : SessionRecord Id) :
    Decidable (Lists user row) :=
  match h : viewerID Uuid.parse user with
  | none => isTrue fun userID huser => by rw [h] at huser; cases huser
  | some userID =>
    decidable_of_iff (row.userID = userID) (by simp [Lists, h])

/-! ## 2. Pages -/

omit [Uuid Id] in
theorem pairwise_sorted (p : SessionRecord Id → Bool) :
    ((t.rows.filter p).insertionSort newestFirst).Pairwise fun a b => b.key < a.key := by
  have hi : (((t.rows.filter p).insertionSort newestFirst).map SessionRecord.id).Nodup :=
    (((perm_insertionSort newestFirst (t.rows.filter p)).map _).nodup_iff).mpr
      (t.primaryKey.sublist (filter_sublist.map _))
  have hne := pairwise_map.mp hi
  refine ((pairwise_insertionSort newestFirst (t.rows.filter p)).and hne).imp ?_
  rintro a b ⟨hle, hid⟩
  exact lt_of_le_of_ne hle fun heq => hid (congrArg (fun k => (ofLex k).2) heq).symm

omit [Uuid Id] in
theorem pairwise_selectPage (p : SessionRecord Id → Bool) (limit : Nat) :
    (selectPage t p limit).Pairwise fun a b => b.key < a.key :=
  (pairwise_sorted t p).sublist (take_sublist _ _)

variable {row : SessionRecord Id}

omit [Uuid Id] in
theorem selectPage_covers {t : SessionRecords Id} {p : SessionRecord Id → Bool} {limit : Nat}
    (hr : row ∈ t.rows) (hp : p row = true) :
    row ∈ selectPage t p limit ∨
      limit ≤ (selectPage t p limit).length ∧ ∀ oth ∈ selectPage t p limit, row.key < oth.key := by
  have hs : row ∈ (t.rows.filter p).insertionSort newestFirst :=
    (perm_insertionSort newestFirst _).mem_iff.mpr (mem_filter.mpr ⟨hr, hp⟩)
  have hpa := pairwise_sorted t p
  rw [selectPage]
  rw [← take_append_drop limit ((t.rows.filter p).insertionSort newestFirst)] at hs hpa
  rcases mem_append.mp hs with ht | hd
  · exact .inl ht
  · grind [length_pos_of_mem, length_drop, length_take]

def selects (user : Option AuthUser) (t : SessionRecords Id) (phase : WalkPhase Id)
    (row : SessionRecord Id) : Bool :=
  decide (Lists user row) &&
    match phase with
    | .next cursor => isAfter t cursor row
    | _ => true

def page (user : Option AuthUser) (limit : Option Int) (s : SessionWalk Id) :
    List (SessionRecord Id) :=
  selectPage s.table (selects user s.table s.phase) (parsePaginationParams "" limit).limit

variable {user : Option AuthUser}

theorem selects_of_none
    (hu : viewerID (Uuid.parse : String → Option Id) user = none) (t : SessionRecords Id)
    (phase : WalkPhase Id) :
    selects user t phase = match phase with
      | .next c => isAfter t c
      | _ => fun _ => true := by
  funext row
  have hl : Lists user row := by
    intro u h
    simp [hu] at h
  cases phase <;> simp [selects, hl]

theorem selects_of_some {userID : Id} (hu : viewerID Uuid.parse user = some userID)
    (t : SessionRecords Id) (p : WalkPhase Id) :
    selects user t p = match p with
      | .next c => fun row => decide (row.userID = userID) && isAfter t c row
      | _ => fun row => decide (row.userID = userID) := by
  grind [Lists, selects]

theorem response_eq (user : Option AuthUser) (limit : Option Int) (s : SessionWalk Id) :
    ∃ total, (handleListSessions Uuid.parse true user
        (parsePaginationParams (WalkPhase.cursorParam s.phase) limit) s.table).response
      = pageOf (page user limit s) (parsePaginationParams "" limit).limit total := by
  have hc : ∀ cursor, (parsePaginationParams cursor limit).cursor = cursor := fun _ => rfl
  unfold handleListSessions page
  cases hu : viewerID (Uuid.parse : String → Option Id) user
  case' none => rw [selects_of_none hu]
  case' some => rw [selects_of_some hu]
  all_goals
    cases s.phase with
    | next cursor =>
      simp only [WalkPhase.cursorParam, hc, ne_eq, Uuid.text_ne, Uuid.parse_text]
      exact ⟨_, rfl⟩
    | first | done => exact ⟨_, rfl⟩

variable {limit : Option Int} {s s' : SessionWalk Id}

theorem step_request (h : step user limit s .request = some s') :
    s.phase ≠ .done ∧ s'.table = s.table ∧ s'.returned = s.returned ++ page user limit s
      ∧ ((∃ last, (page user limit s).getLast? = some last ∧ s'.phase = .next last.id)
        ∨ (page user limit s).length < (parsePaginationParams "" limit).limit ∧
          s'.phase = .done) := by
  have hpo := limit_pos "" limit
  simp only [step] at h
  split at h
  · cases h
  rename_i hp
  obtain ⟨tot, hr⟩ := response_eq user limit s
  rw [hr] at h
  cases h
  refine ⟨hp, rfl, rfl, ?_⟩
  by_cases hf : (page user limit s).length ≥ (parsePaginationParams "" limit).limit
  · grind [receive, pageOf]
  · exact .inr ⟨by omega, by simp [receive, pageOf, hf]⟩

variable {a : Act Id}

theorem step_other (hne : a ≠ .request) (h : step user limit s a = some s') :
    s'.phase = s.phase ∧ s'.returned = s.returned := by
  cases a with
  | create row => grind [step]
  | delete id =>
    cases h
    exact ⟨rfl, rfl⟩
  | request => exact absurd rfl hne

/-! ## 3. Order -/

/-- When a page is asked for, the last session that was returned is still
there. -/
def CursorThere (s : SessionWalk Id) (a : Act Id) : Prop :=
  a = .request → ∀ last, s.returned.getLast? = some last → last ∈ s.table.rows

instance decidableCursorThere (s : SessionWalk Id) (a : Act Id) : Decidable (CursorThere s a) :=
  match h : s.returned.getLast? with
  | none => isTrue fun _ last hlast => by rw [h] at hlast; cases hlast
  | some last =>
    decidable_of_iff (a = .request → last ∈ s.table.rows) (by simp [CursorThere, h])

/-- The walk's order, and what its phase says about what was returned. -/
structure Ordered (s : SessionWalk Id) : Prop where
  sorted : s.returned.Pairwise fun a b => b.key < a.key
  first : s.phase = .first → s.returned = []
  next : ∀ cursor, s.phase = .next cursor →
    ∃ last, s.returned.getLast? = some last ∧ last.id = cursor

omit [Uuid Id] in
theorem ordered_start : Ordered (start t) where
  sorted := List.Pairwise.nil
  first := fun _ => rfl
  next := by
    intro c h
    cases h

omit [Uuid Id] in
theorem Ordered.last_le (hs : Ordered s) {last : SessionRecord Id}
    (hl : s.returned.getLast? = some last) (hr : row ∈ s.returned) : last.key ≤ row.key := by
  obtain ⟨b, hb⟩ := getLast?_eq_some_iff.mp hl
  have hso := hs.sorted
  rw [hb] at hso hr
  rcases mem_append.mp hr with hr | hr
  · exact ((pairwise_append.mp hso).2.2 row hr last (by simp)).le
  · rw [mem_singleton.mp hr]

theorem selects_iff (hs : Ordered s)
    (ht : CursorThere s .request) (hp : s.phase ≠ .done) (row : SessionRecord Id) :
    selects user s.table s.phase row = true ↔
      Lists user row ∧ ∀ oth ∈ s.returned, row.key < oth.key := by
  cases h : s.phase with
  | done => exact absurd h hp
  | first => simp [selects, hs.first h]
  | next c =>
    obtain ⟨last, hl, rfl⟩ := hs.next c h
    have hf : s.table.find? last.id = some last := Table.find?_of_mem (ht rfl last hl)
    simp only [selects, isAfter, hf, Bool.and_eq_true, decide_eq_true_eq]
    refine and_congr_right fun _ => ?_
    constructor
    · intro hlt oth ho
      exact hlt.trans_le (hs.last_le hl ho)
    · grind

theorem ordered_step (hs : Ordered s) (ht : CursorThere s a)
    (h : step user limit s a = some s') : Ordered s' := by
  by_cases ha : a = .request
  · subst ha
    obtain ⟨hp, -, hr, hn⟩ := step_request h
    have haf : ∀ oth ∈ s.returned, ∀ row ∈ page user limit s, row.key < oth.key := by
      intro oth ho row hro
      have hse := (mem_selectPage hro).2
      exact ((selects_iff hs ht hp row).mp hse).2 oth ho
    constructor
    · rw [hr]
      exact pairwise_append.mpr ⟨hs.sorted, pairwise_selectPage _ _ _, haf⟩
    · grind
    · grind
  · obtain ⟨hp, hr⟩ := step_other ha h
    exact ⟨hr ▸ hs.sorted, by rw [hp, hr]; exact hs.first,
      by rw [hp, hr]; exact hs.next⟩

/-! ## 4. Completeness -/

/-- The walk has returned `row` if it has come to where it stands, and
nothing else under its id. -/
structure Covers (row : SessionRecord Id) (s : SessionWalk Id) : Prop where
  passed : ∀ last, s.returned.getLast? = some last → last.key ≤ row.key → row ∈ s.returned
  finished : s.phase = .done → row ∈ s.returned
  unique : ∀ other ∈ s.returned, other.id = row.id → other = row

omit [Uuid Id] in
theorem covers_start (row : SessionRecord Id) (t : SessionRecords Id) : Covers row (start t) where
  passed := by
    intro last h
    cases h
  finished := by
    intro h
    cases h
  unique := by
    intro oth h
    cases h

theorem page_covers (limit : Option Int) (hs : Ordered s) (hc : Covers row s)
    (hli : Lists user row) (hr : row ∈ s.table.rows) (ht : CursorThere s .request)
    (hp : s.phase ≠ .done) :
    row ∈ s.returned ++ page user limit s ∨
      (parsePaginationParams "" limit).limit ≤ (page user limit s).length ∧
        ∀ oth ∈ page user limit s, row.key < oth.key := by
  by_cases ha : ∀ oth ∈ s.returned, row.key < oth.key
  · have hse := (selects_iff hs ht hp row).mpr ⟨hli, ha⟩
    have hco : row ∈ page user limit s ∨ _ := selectPage_covers hr hse
    rcases hco with hm | hf
    · exact .inl (mem_append_right _ hm)
    · exact .inr hf
  push Not at ha
  obtain ⟨oth, ho, hle⟩ := ha
  left
  refine mem_append_left _ ?_
  cases hl : s.returned.getLast? with
  | none => grind
  | some last => exact hc.passed last hl ((hs.last_le hl ho).trans hle)

theorem covers_step (hs : Ordered s) (hc : Covers row s)
    (hl : Lists user row) (hro : row ∈ s.table.rows) (ht : CursorThere s a)
    (h : step user limit s a = some s') : Covers row s' := by
  by_cases ha : a = .request
  · subst ha
    obtain ⟨hp, -, hr, hn⟩ := step_request h
    have hco := page_covers limit hs hc hl hro ht hp
    constructor
    · intro last hla hle
      rw [hr] at hla ⊢
      rcases hco with hm | ⟨hfu, hb⟩
      · exact hm
      -- the page is not empty, so its last session is the last of all
      cases hpa : (page user limit s).getLast? with
      | none => grind
      | some last' => grind
    · grind
    intro oth ho hid
    rw [hr] at ho
    rcases mem_append.mp ho with ho | ho
    · exact hc.unique oth ho hid
    have hf := Table.find?_of_mem (mem_selectPage ho).1
    rw [hid, Table.find?_of_mem hro] at hf
    exact (Option.some.inj hf).symm
  · obtain ⟨hp, hr⟩ := step_other ha h
    exact ⟨by rw [hr]; exact hc.passed, by rw [hp, hr]; exact hc.finished,
      by rw [hr]; exact hc.unique⟩

omit [Uuid Id] in
theorem Ordered.filter_eq (hs : Ordered s) (hc : Covers row s) (hm : row ∈ s.returned) :
    s.returned.filter (fun oth => oth.id = row.id) = [row] := by
  have hn : s.returned.Nodup := by
    refine hs.sorted.imp fun {a b} hlt heq => ?_
    exact absurd (heq ▸ hlt) (lt_irrefl _)
  have hf : s.returned.filter (fun oth => oth.id = row.id)
      = s.returned.filter (fun oth => oth = row) := by
    refine filter_congr fun oth ho => ?_
    exact decide_eq_decide.mpr ⟨hc.unique oth ho, fun heq => heq ▸ rfl⟩
  rw [hf, List.filter_eq, count_eq_one_of_mem hn hm]
  rfl

/-- **Walk.** In every run in which the cursor is there when its page is
asked for, the sessions come in decreasing order of `(created_at, id)`, and
a walk that is done has returned once each listed session that was there
all the time. -/
theorem walk_complete {user : Option AuthUser} {limit : Option Int} {t : SessionRecords Id}
    {acts : List (Act Id)} {s : SessionWalk Id}
    (hthere : Along (step user limit) CursorThere (start t) acts)
    (hrun : run (step user limit) (start t) acts = some s) :
    s.returned.Pairwise (fun a b => b.key < a.key) ∧
      (s.phase = .done → ∀ row, Lists user row →
        (∀ s' ∈ states (step user limit) (start t) acts, row ∈ s'.table.rows) →
        s.returned.filter (fun other => other.id = row.id) = [row]) := by
  have ho : Ordered s :=
    run_invariant_along (fun _ _ _ hs hok h => ordered_step hs hok h) (ordered_start t) hthere hrun
  refine ⟨ho.sorted, ?_⟩
  intro hd row hl hr
  have hk : ∀ s₀ a s₁, Ordered s₀ ∧ Covers row s₀ →
      CursorThere s₀ a ∧ row ∈ s₀.table.rows → step user limit s₀ a = some s₁ →
      Ordered s₁ ∧ Covers row s₁ := by grind [ordered_step, covers_step]
  have hc := (run_invariant_along hk ⟨ordered_start t, covers_start row t⟩
    (along_and hthere (along_of_forall_states hr)) hrun).2
  exact ho.filter_eq hc (hc.finished hd)

end

/-! ## 5. A deleted cursor -/

def twoSessions : SessionRecords Nat where
  rows := [someRecord 1 0 10, someRecord 2 0 20]
  primaryKey := by decide

def twoSessionsActs : List (Act Nat) :=
  [.request, .create (someRecord 3 0 30), .request, .delete 2, .request]

theorem walk_complete_twoSessions :
    ∃ s, run (step none (some 1)) (start twoSessions) twoSessionsActs = some s ∧
      s.phase = .done ∧ s.returned.filter (fun other => other.id = 1) = [someRecord 1 0 10] := by
  have ht : Along (step none (some 1)) CursorThere (start twoSessions) twoSessionsActs := by
    decide
  refine ⟨_, rfl, by decide, ?_⟩
  exact (walk_complete ht rfl).2 (by decide) (someRecord 1 0 10) (by decide) (by decide)

/-- The session of the first page is deleted before the second is asked
for, and the walk ends without the session that was always there. -/
theorem cursor_deleted :
    ∃ s, run (step none (some 1)) (start twoSessions) [.request, .delete 2, .request] = some s ∧
      s.phase = .done ∧ Lists none (someRecord 1 0 10 : SessionRecord Nat) ∧
      (∀ s' ∈ states (step none (some 1)) (start twoSessions) [.request, .delete 2, .request],
        someRecord 1 0 10 ∈ s'.table.rows) ∧
      someRecord 1 0 10 ∉ s.returned := by
  refine ⟨_, rfl, ?_⟩
  decide

end SessionWalk

end Daao.Api

/-
Daao.Api.PipelinesTheorems — when an update of a pipeline is atomic.

`wanted` is what the tables would hold if each committed request had taken
effect at once: the row that it wrote, and its steps if it has any. The
invariant compares the tables with it, in three situations: no request is
between its `UPDATE` and its last `INSERT`; one is, and the old steps are
still there; or one is, and some of its steps are inserted.

A request that fails after its `UPDATE`, or that meets another in this
part, breaks it.
-/
import Daao.Api.AgentsTheorems
import Daao.Api.Pipelines

namespace Daao.Api

open Daao.Lib Daao.Database List Option PipelinePhase Function

namespace PipelinePhase

variable {Id Doc : Type}

def isPast : PipelinePhase Id Doc → Bool
  | .deleteSteps => true
  | .insertSteps _ _ => true
  | .getUpdated => true
  | .done .ok => true
  | _ => false

def isReplacing : PipelinePhase Id Doc → Bool
  | .deleteSteps => true
  | .insertSteps _ _ => true
  | _ => false

def isWrite : PipelinePhase Id Doc → Bool
  | .update _ => true
  | phase => phase.isReplacing

def isChecked : PipelinePhase Id Doc → Bool
  | .getRow => false
  | .getSteps _ => false
  | .done _ => false
  | _ => true

def nextStep? : PipelinePhase Id Doc → Option (CreateStepInput Id)
  | .insertSteps _ left => left.head?
  | _ => none

def existing? : PipelinePhase Id Doc → Option (PipelineRow Id Doc)
  | .getSteps existing => some existing
  | .checkAgents existing _ => some existing
  | .checkSatellite existing _ => some existing
  | .update existing => some existing
  | _ => none

end PipelinePhase

namespace PipelineUpdates

section

variable {Id Doc : Type} [Jsonb Doc]

/-! ## 1. What the requests ask for -/

def askedFrom (order : Nat) : List (CreateStepInput Id) → List (Option (PipelineStep Id Doc))
  | [] => []
  | step :: left => step.row order :: askedFrom (order + 1) left

abbrev Contents (Id Doc : Type) := Option (PipelineRow Id Doc) × List (Option (PipelineStep Id Doc))

def contents (db : StoredPipeline Id Doc) : Contents Id Doc := (db.row, db.steps.rows.map some)

def apply (v : Contents Id Doc) (entry : PipelineCommit Id Doc) : Contents Id Doc :=
  (some entry.row, if entry.req.steps = [] then v.2 else askedFrom 1 entry.req.steps)

def wanted (db₀ : StoredPipeline Id Doc) (s : PipelineUpdates Id Doc) : Contents Id Doc :=
  s.committed.foldl apply (contents db₀)

def AtRest (s : PipelineUpdates Id Doc) : Prop :=
  ∀ call c, s.calls call = some c → c.phase.isReplacing = false

def reply (s : PipelineUpdates Id Doc) (call : Nat) : Option PipelineReply :=
  (s.calls call).bind fun c =>
    match c.phase with
    | .done reply => some reply
    | _ => none

def Act.call : Act Id → Nat
  | .begin call _ => call
  | .exec call _ _ => call

theorem wanted_steps (v : Contents Id Doc) (m : List (PipelineCommit Id Doc)) :
    (m.foldl apply v).2 = v.2 ∨
      ∃ e ∈ m, (m.foldl apply v).2 = askedFrom 1 e.req.steps := by
  induction m generalizing v with
  | nil => exact .inl rfl
  | cons e r ih =>
    rcases ih (apply v e) with hs | ⟨t, ho, hst⟩
    · rw [foldl_cons, hs]
      by_cases he : e.req.steps = []
      · exact .inl (by simp [apply, he])
      · exact .inr ⟨e, mem_cons_self, by simp [apply, he]⟩
    · grind

/-! ## 2. The invariant -/

def Replaced (db : StoredPipeline Id Doc) (v : Contents Id Doc) (c : PipelineCall Id Doc) : Prop :=
  match c.phase with
  | .deleteSteps => ∃ req, c.body = some req ∧ v.2 = askedFrom 1 req.steps
  | .insertSteps order left =>
    db.steps.rows.map some ++ askedFrom order left = v.2 ∧
      ∀ row ∈ db.steps.rows, row.stepOrder < order
  | _ => True

/-- What holds of a request in this state of the tables. A row that was
read before any request committed is the first one. -/
structure CallInv (db₀ : StoredPipeline Id Doc) (s : PipelineUpdates Id Doc)
    (c : PipelineCall Id Doc) : Prop where
  replaced : Replaced s.db (wanted db₀ s) c
  body : c.phase.isChecked = true → c.body.isSome
  read : ∀ existing, c.phase.existing? = some existing → s.committed = [] →
    db₀.row = some existing

structure Inv (db₀ : StoredPipeline Id Doc) (s : PipelineUpdates Id Doc) : Prop where
  row : s.db.row = (wanted db₀ s).1
  atRest : AtRest s → s.db.steps.rows.map some = (wanted db₀ s).2
  calls : ∀ call c, s.calls call = some c → CallInv db₀ s c
  alone : ∀ call c other c', s.calls call = some c → s.calls other = some c' →
    c.phase.isReplacing = true → c'.phase.isReplacing = true → other = call
  past : ∀ call, call ∈ s.committed.map PipelineCommit.call ↔
    ∃ c, s.calls call = some c ∧ c.phase.isPast = true
  commits : ∀ entry ∈ s.committed, ∃ c, s.calls entry.call = some c ∧ c.body = some entry.req
  first : ∀ entry rest, s.committed = entry :: rest → ∃ row now, db₀.row = some row ∧
    entry.row = { entry.req.merge row with updatedAt := now }
  nodup : (s.committed.map PipelineCommit.call).Nodup

theorem inv_start (db₀ : StoredPipeline Id Doc) : Inv db₀ (start db₀) := by
  constructor <;> simp [start, wanted, contents]

variable {db db₀ : StoredPipeline Id Doc} {s s' : PipelineUpdates Id Doc} {call : Nat}
  {c c' : PipelineCall Id Doc} {phase : PipelinePhase Id Doc}

theorem replaced_of_not {v : Contents Id Doc} (h : c.phase.isReplacing = false) :
    Replaced db v c := by
  obtain ⟨b, phase⟩ := c
  cases phase <;> trivial

omit [Jsonb Doc] in
theorem calls_cases (hc : s'.calls = update s.calls call (some c')) {t : Nat}
    (h : s'.calls t = some c) :
    (t = call ∧ c = c') ∨ (t ≠ call ∧ s.calls t = some c) := by
  rw [hc, update_apply] at h
  split at h
  · exact .inl ⟨‹_›, (some.inj h).symm⟩
  · exact .inr ⟨‹_›, h⟩

/-- One request moves on, and may commit. If it changes the tables, or is
about to, no other one replaces the steps. -/
theorem Inv.moves (hs : Inv db₀ s) (w : Option (PipelineCommit Id Doc))
    (hca : s'.calls = update s.calls call (some c'))
    (hco : s'.committed = s.committed ++ w.toList)
    (hse : ∀ c, s.calls call = some c → c.body = c'.body)
    (hnw : ∀ n ∈ w, n.call = call ∧ c'.body = some n.req ∧
      call ∉ s.committed.map PipelineCommit.call ∧ (s.committed = [] → ∃ row now,
        db₀.row = some row ∧ n.row = { n.req.merge row with updatedAt := now }))
    (hp : call ∈ s'.committed.map PipelineCommit.call ↔ c'.phase.isPast = true)
    (hcl : CallInv db₀ s' c')
    (ho : (s'.db = s.db ∧ w = none ∧ c'.phase.isReplacing = false) ∨
      ∀ t c, t ≠ call → s.calls t = some c → c.phase.isReplacing = false)
    (hro : s'.db.row = (wanted db₀ s').1)
    (hre : AtRest s' → s'.db.steps.rows.map some = (wanted db₀ s').2) : Inv db₀ s' := by
  have hm : s'.calls call = some c' := by rw [hca, update_self]
  constructor
  case row => exact hro
  case atRest => exact hre
  case calls =>
    intro t c h
    obtain ⟨-, rfl⟩ | ⟨hne, h⟩ := calls_cases hca h
    · exact hcl
    have hold := hs.calls t c h
    refine ⟨?_, hold.body, fun e he hn => hold.read e he (by simp_all)⟩
    obtain ⟨hdb, rfl, -⟩ | ho := ho
    · simpa [wanted, hco, hdb] using hold.replaced
    · exact replaced_of_not (ho t c hne h)
  case alone =>
    intro a₁ c₁ a₂ c₂ h₁ h₂ hr₁ hr₂
    obtain ⟨rfl, rfl⟩ | ⟨hne₁, h₁⟩ := calls_cases hca h₁ <;>
      obtain ⟨rfl, rfl⟩ | ⟨hne₂, h₂⟩ := calls_cases hca h₂
    · rfl
    · grind
    · grind
    · exact hs.alone a₁ c₁ a₂ c₂ h₁ h₂ hr₁ hr₂
  case past =>
    intro t
    by_cases heq : t = call
    · simp [heq, hp, hm]
    have hno : t ∉ w.toList.map PipelineCommit.call := by
      simp only [List.mem_map, mem_toList, not_exists, not_and]
      rintro n hen rfl
      exact heq (hnw n hen).1
    rw [hco, map_append, mem_append, or_iff_left hno, hs.past, hca, update_of_ne heq]
  case commits =>
    intro n hen
    rw [hco, mem_append, mem_toList] at hen
    obtain hen | hen := hen
    · obtain ⟨c, hc, hb⟩ := hs.commits n hen
      by_cases heq : n.call = call
      · grind
      · simp_all
    · grind
  case first =>
    intro n rest h
    rw [hco] at h
    cases hold : s.committed with
    | nil => grind
    | cons en' r' =>
      rw [hold] at h
      cases h
      exact hs.first n r' hold
  case nodup => grind [hs.nodup]

/-! ## 3. Statements that leave the tables -/

/-- What a statement that leaves the tables does to the phase. -/
structure Reads (db : StoredPipeline Id Doc) (body : Option (CreatePipelineRequest Id))
    (phase phase' : PipelinePhase Id Doc) : Prop where
  past : phase'.isPast = phase.isPast
  replacing : phase.isReplacing = false
  replacing' : phase'.isReplacing = false
  checked : phase'.isChecked = true → body.isSome
  existing : ∀ e, phase'.existing? = some e → phase.existing? = some e ∨ db.row = some e

section

omit [Jsonb Doc]

theorem nextAgent_spec (r : CreatePipelineRequest Id) (existing : PipelineRow Id Doc)
    (left : List (CreateStepInput Id)) :
    (nextAgent r existing left).isPast = false ∧ (nextAgent r existing left).isReplacing = false ∧
      (nextAgent r existing left).existing? = some existing := by
  cases left with
  | cons g left => exact ⟨rfl, rfl, rfl⟩
  | nil =>
    simp only [nextAgent, afterAgents]
    cases r.satelliteID <;> exact ⟨rfl, rfl, rfl⟩

theorem reads_error {b : Option (CreatePipelineRequest Id)} {t : Nat} {m : String}
    (hp : phase.isPast = false) (hr : phase.isReplacing = false) :
    Reads db b phase (.done (.error t m)) where
  past := hp.symm
  replacing := hr
  replacing' := rfl
  checked := by simp [isChecked]
  existing := by simp [existing?]

theorem reads_nextAgent {r : CreatePipelineRequest Id} {existing : PipelineRow Id Doc}
    (hp : phase.isPast = false) (hr : phase.isReplacing = false)
    (hex : phase.existing? = some existing) (left : List (CreateStepInput Id)) :
    Reads db (some r) phase (nextAgent r existing left) := by
  obtain ⟨hp', hr', hex'⟩ := nextAgent_spec r existing left
  refine ⟨hp'.trans hp.symm, hr, hr', fun _ => rfl, ?_⟩
  intro e he
  rw [hex', ← hex] at he
  exact .inl he

theorem updatePipeline_eq_some {n : Nat} {row : PipelineRow Id Doc}
    {db' : StoredPipeline Id Doc} (h : updatePipeline refs n row db = some db') :
    db' = { db with row := some { row with updatedAt := n } } := by
  unfold updatePipeline at h
  split at h
  · exact (some.inj h).symm
  · cases h

end

variable {refs : PipelineRefs Id}

theorem exists_insertPipelineStep {r : Nat} {t : CreateStepInput Id}
    (ha : t.Accepted Doc refs) (hb : ∀ row ∈ db.steps.rows, row.stepOrder < r) :
    ∃ row steps, t.row r = some row ∧ steps.rows = db.steps.rows ++ [row] ∧
      insertPipelineStep refs r t db = some { db with steps := steps } := by
  obtain ⟨n, hc⟩ := isSome_iff_exists.mp ha.2.2.2
  have hr : t.row r = some (⟨r, t.agentID, t.inputMode, t.outputMode, n⟩ :
      PipelineStep Id Doc) := by
    rw [CreateStepInput.row, hc]
    rfl
  have hn : db.steps.find? r = none := by grind [Table.find?_eq_none]
  obtain ⟨steps, hs⟩ := Table.exists_insert
    (⟨r, t.agentID, t.inputMode, t.outputMode, n⟩ : PipelineStep Id Doc) hn
  refine ⟨_, steps, hr, (Table.insert_eq_some hs).2, ?_⟩
  rw [insertPipelineStep, if_pos ha, hr, bind_some, hs, map_some]

/-! ## 4. The invariant is kept -/

theorem inv_reads (hs : Inv db₀ s) (hc : s.calls call = some c)
    (hr : Reads s.db c.body c.phase phase) : Inv db₀ (s.move call c s.db phase) := by
  have hse : ∀ c₀, s.calls call = some c₀ → c₀ = c := by simp [hc]
  refine hs.moves none rfl (append_nil _).symm (fun c₀ h => hse c₀ h ▸ rfl) nofun ?_
    ⟨replaced_of_not hr.replacing', hr.checked, fun e he hn => ?_⟩
    (.inl ⟨rfl, rfl, hr.replacing'⟩) hs.row fun hre => hs.atRest fun t c₀ h => ?_
  · exact (hs.past call).trans (by simp [hc, hr.past])
  · obtain hold | hro := hr.existing e he
    · exact (hs.calls call c hc).read e hold hn
    have hf := hs.row
    rw [wanted, show s.committed = [] from hn] at hf
    exact hf.symm.trans hro
  by_cases heq : t = call
  · rw [hse c₀ (heq ▸ h)]
    exact hr.replacing
  · exact hre t c₀ ((update_of_ne heq ..).trans h)

theorem inv_replace (hs : Inv db₀ s) (hc : s.calls call = some c)
    (hre : c.phase.isReplacing = true) (hro : db.row = s.db.row)
    (hp : phase.isPast = true) (he : phase.existing? = none) (hb : c.body.isSome)
    (hrs : phase.isReplacing = false → db.steps.rows.map some = (wanted db₀ s).2)
    (hrp : Replaced db (wanted db₀ s) { c with phase := phase }) :
    Inv db₀ (s.move call c db phase) := by
  refine hs.moves none rfl (append_nil _).symm (by simp [hc]) nofun ?_
    ⟨hrp, fun _ => hb, by simp [he]⟩ (.inr fun other c' hne hc' => ?_)
    (hro.trans hs.row) fun ha => hrs (ha call _ (update_self ..))
  · have hw : c.phase.isPast = true := by
      revert hre
      cases c.phase <;> simp [isReplacing, isPast]
    exact (hs.past call).trans (by simp [hc, hw, hp])
  -- no other request replaces the steps
  by_contra hr
  exact hne (hs.alone call c other c' hc hc' hre (by simpa using hr))

theorem inv_update {e : PipelineRow Id Doc} {req : CreatePipelineRequest Id} {n : Nat}
    (hs : Inv db₀ s) (hc : s.calls call = some { body := some req, phase := .update e })
    (hf : AtRest s) :
    Inv db₀ ((s.move call { body := some req, phase := .update e }
      { s.db with row := some { req.merge e with updatedAt := n } }
      (if req.steps = [] then .getUpdated else .deleteSteps)).commit
      { call := call, row := { req.merge e with updatedAt := n }, req := req }) := by
  have hre := (hs.calls call _ hc).read e rfl
  have hne : call ∉ s.committed.map PipelineCommit.call := by
    simp [hs.past, hc, isPast]
  refine hs.moves (some { call := call, row := { req.merge e with updatedAt := n }, req := req })
    rfl rfl (by simp [hc]) ?_ ?_ ⟨?_, fun _ => rfl, by simp [commit]⟩
    (.inr fun t c' _ => hf t c') ?_ fun hr => ?_
  · grind
  · split <;> simp [commit, isPast]
  · by_cases he : req.steps = []
    · exact replaced_of_not (by simp [he, isReplacing])
    · simp [Replaced, he, wanted, commit, apply]
  · simp [wanted, commit, move, apply]
  have hn := hr call _ (update_self ..)
  by_cases he : req.steps = []
  · have hst := hs.atRest hf
    simpa [wanted, commit, move, apply, he] using hst
  · simp [he, isReplacing] at hn

variable [Uuid Id]

/-- After its `UPDATE` no statement of the request fails, and while a
request replaces the steps no other one writes. -/
def Undisturbed (refs : PipelineRefs Id) (s : PipelineUpdates Id Doc) : Act Id → Prop
  | .begin _ _ => True
  | .exec call fails _ =>
    ∀ c, s.calls call = some c →
      (c.phase.isPast = true → fails = false ∧
        ∀ order step left, c.phase = .insertSteps order (step :: left) → step.Accepted Doc refs) ∧
      (c.phase.isWrite = true →
        ∀ other c', s.calls other = some c' → c'.phase.isReplacing = true → other = call)

omit [Jsonb Doc] in
theorem reads_readPhase {f : Bool}
    {body : Option (CreatePipelineRequest Id)} {phase' : PipelinePhase Id Doc}
    (h : readPhase refs f db body phase = some phase')
    (hb : phase.isChecked = true → body.isSome) (hf : phase.isPast = true → f = false) :
    Reads db body phase phase' := by
  cases phase with
  | getRow =>
    simp only [readPhase] at h
    repeat' split at h
    all_goals cases h
    · exact reads_error rfl rfl
    · exact reads_error rfl rfl
    rename_i w hr
    exact ⟨rfl, rfl, rfl, by simp [isChecked], fun e he => .inr (hr.trans he)⟩
  | getSteps existing =>
    cases body with
    | none =>
      simp only [readPhase, afterGet] at h
      split at h <;> cases h <;> exact reads_error rfl rfl
    | some r =>
      simp only [readPhase, afterGet] at h
      repeat' split at h
      all_goals cases h
      · exact reads_error rfl rfl
      · exact reads_error rfl rfl
      · exact reads_nextAgent rfl rfl rfl r.steps
  | checkAgents existing left =>
    cases left with
    | nil => cases h
    | cons g left =>
      simp only [readPhase] at h
      repeat' split at h
      · cases h
        exact reads_error rfl rfl
      · obtain ⟨r, rfl, rfl⟩ := map_eq_some_iff.mp h
        exact reads_nextAgent rfl rfl rfl left
      cases h
      exact reads_error rfl rfl
  | checkSatellite existing i =>
    simp only [readPhase] at h
    repeat' split at h
    all_goals cases h
    case h_2.isTrue.refl => exact ⟨rfl, rfl, rfl, fun _ => hb rfl, fun e he => .inl he⟩
    all_goals exact reads_error rfl rfl
  | getUpdated =>
    simp only [readPhase, hf rfl] at h
    cases h
    exact ⟨rfl, rfl, rfl, by simp [isChecked], by simp [existing?]⟩
  | update | deleteSteps | insertSteps | done => cases h

variable {a : Act Id}

theorem inv_step (hs : Inv db₀ s) (hok : Undisturbed refs s a) (h : step refs s a = some s') :
    Inv db₀ s' := by
  cases a with
  | begin call body =>
    simp only [step] at h
    split at h <;> cases h
    rename_i hn
    refine hs.moves none rfl (append_nil _).symm (by simp [hn]) (by simp) ?_
      ⟨trivial, (fun h => by cases h), (fun _ h => by cases h)⟩
      (.inl ⟨rfl, rfl, rfl⟩) hs.row fun hre => hs.atRest fun other c h => ?_
    · exact (hs.past call).trans (by simp [hn, isPast])
    refine hre other c ((update_of_ne ?_ ..).trans h)
    rintro rfl
    simp [hn] at h
  | exec call f n =>
    obtain ⟨⟨body, phase⟩, hca, h⟩ := bind_eq_some_iff.mp h
    obtain ⟨hf, ha⟩ := hok _ hca
    have hc := hs.calls call _ hca
    simp only [exec] at h
    split at h
    · rename_i e r
      split at h <;> cases h
      · exact inv_reads hs hca (reads_error rfl rfl)
      rename_i db hu
      have hdb : db = { s.db with row := some { r.merge e with updatedAt := n } } := by
        grind [updatePipeline_eq_some]
      rw [hdb]
      refine inv_update hs hca fun other c' ho => ?_
      -- a request that replaces steps would be this one, which does not
      by_contra hr
      rw [Bool.not_eq_false] at hr
      rw [ha rfl other c' ho hr, hca] at ho
      cases ho
      cases hr
    · rename_i r
      obtain ⟨_, ⟨⟩, hw⟩ := hc.replaced
      simp only [(hf rfl).1, Bool.false_eq_true, if_false, some.injEq] at h
      subst h
      cases hst : r.steps with
      | nil =>
        refine inv_replace hs hca rfl rfl rfl rfl rfl (fun _ => ?_) (replaced_of_not rfl)
        rw [hw, hst]
        rfl
      | cons step left =>
        refine inv_replace hs hca rfl rfl rfl rfl rfl (fun h => by cases h) ?_
        simp [Replaced, nextStep, deletePipelineSteps, hw, hst]
    · rename_i order step left r
      obtain ⟨hno, hac⟩ := hf rfl
      obtain ⟨hw, hb⟩ := hc.replaced
      obtain ⟨row, steps, hro, hst, hi⟩ := exists_insertPipelineStep (hac order step left rfl) hb
      simp only [hno, Bool.false_eq_true, if_false, hi, some.injEq] at h
      subst h
      rw [askedFrom, hro] at hw
      have hor : row.stepOrder = order := by
        obtain ⟨con, -, rfl⟩ := map_eq_some_iff.mp hro
        rfl
      cases left with
      | nil =>
        refine inv_replace hs hca rfl rfl rfl rfl rfl (fun _ => ?_) (replaced_of_not rfl)
        rw [← hw, hst]
        simp [askedFrom]
      | cons next left =>
        refine inv_replace hs hca rfl rfl rfl rfl rfl (fun h => by cases h) ?_
        simp only [Replaced, nextStep, hst]
        refine ⟨by rw [← hw]; simp, ?_⟩
        intro other ho
        rcases mem_append.mp ho with ho | ho
        · grind
        · grind
    · grind [hc.body, map_eq_some_iff, inv_reads, reads_readPhase]

/-! ## 5. Runs -/

omit [Uuid Id] in
theorem Inv.committed_of_reply (hs : Inv db₀ s) {r : PipelineReply} (h : s.reply call = some r) :
    (∃ c, s.calls call = some c ∧ c.phase = .done r) ∧
      (call ∈ s.committed.map PipelineCommit.call ↔ r = .ok) := by
  obtain ⟨c, hc, hp⟩ := bind_eq_some_iff.mp h
  split at hp
  · grind [hs.past, isPast]
  · cases hp

theorem calls_step (h : step refs s a = some s') {other : Nat} (hne : other ≠ a.call) :
    s'.calls other = s.calls other := by
  cases a with
  | begin call b =>
    simp only [step] at h
    split at h <;> cases h
    exact update_of_ne hne ..
  | exec call f n =>
    obtain ⟨c, hc, h⟩ := bind_eq_some_iff.mp h
    unfold exec at h
    split at h
    case h_4 =>
      obtain ⟨phase, -, rfl⟩ := map_eq_some_iff.mp h
      exact update_of_ne hne ..
    all_goals split at h <;> cases h <;> exact update_of_ne hne ..

def Among (ids : List Nat) (s : PipelineUpdates Id Doc) : Prop :=
  ∀ other, other ∉ ids → s.calls other = none

omit [Uuid Id] [Jsonb Doc] in
theorem among_start (i : List Nat) (db₀ : StoredPipeline Id Doc) : Among i (start db₀) :=
  fun _ _ => rfl

theorem among_step {i : List Nat} (hs : Among i s) (ha : a.call ∈ i)
    (h : step refs s a = some s') : Among i s' := by
  intro t ho
  rw [calls_step h (by rintro rfl; exact ho ha)]
  exact hs t ho

theorem among_run {i : List Nat} {t : List (Act Id)} (hi : ∀ a ∈ t, a.call ∈ i)
    (hr : run (step refs) (start db₀) t = some s) : Among i s := by
  exact run_invariant_of_mem hr (among_start i db₀) hi fun _ _ _ => among_step

/-- What one request by itself leaves: nothing if it fails, and the row and
the steps that it asks for if it succeeds. -/
def AllOrNothing (db₀ : StoredPipeline Id Doc) (s : PipelineUpdates Id Doc) (call : Nat) : Prop :=
  (∀ status message, s.reply call = some (.error status message) → contents s.db = contents db₀) ∧
    (s.reply call = some .ok → ∃ c req row now, s.calls call = some c ∧ c.body = some req ∧
      db₀.row = some row ∧
      contents s.db = apply (contents db₀)
        { call := call, row := { req.merge row with updatedAt := now }, req := req })

omit [Uuid Id] in
theorem Inv.allOrNothing (hs : Inv db₀ s) (hon : ∀ t, t ≠ call → s.calls t = none) :
    AllOrNothing db₀ s call := by
  have hcn : ∀ r, s.reply call = some r → contents s.db = wanted db₀ s := by
    intro r hr
    obtain ⟨⟨c, hc, hd⟩, -⟩ := hs.committed_of_reply hr
    refine Prod.ext hs.row (hs.atRest ?_)
    intro t c' ho
    by_cases heq : t = call
    · rw [heq, hc] at ho
      cases ho
      rw [hd]
      rfl
    · grind
  -- only this request can have committed
  have hcm : ∀ entry ∈ s.committed, entry.call = call := by grind [hs.commits]
  constructor
  · intro sta m hr
    have hn : s.committed = [] := by
      refine eq_nil_iff_forall_not_mem.mpr fun entry he => ?_
      have hm := mem_map_of_mem (f := PipelineCommit.call) he
      rw [hcm entry he] at hm
      cases (hs.committed_of_reply hr).2.mp hm
    rw [hcn _ hr, wanted, hn]
    rfl
  intro hr
  have hm := (hs.committed_of_reply hr).2.mpr rfl
  match hco : s.committed with
  | [] =>
    simp [hco] at hm
  | [entry] =>
    have he : entry ∈ s.committed := by simp [hco]
    obtain ⟨c, hc, hb⟩ := hs.commits entry he
    obtain ⟨row, n, hro, hw⟩ := hs.first entry [] hco
    rw [hcm entry he] at hc
    refine ⟨c, entry.req, row, n, hc, hb, hro, ?_⟩
    rw [hcn _ hr, wanted, hco, foldl_cons, foldl_nil, apply, hw]
    rfl
  | entry :: ent' :: e => grind [hs.nodup]

/-- **Update of a pipeline.** In every run in which no statement of a
request fails after its `UPDATE`, and no other request writes between it
and the last `INSERT`:

* a request by itself leaves the pipeline and its steps if it fails, and
  makes them what it asks for if it succeeds;
* when no request is in the middle of its writes, the pipeline and its
  steps are as if the requests that did not fail had been served one after
  the other, so the steps are those there were or those of one request. -/
theorem update_atomic {refs : PipelineRefs Id} {db₀ : StoredPipeline Id Doc} {acts : List (Act Id)}
    {s : PipelineUpdates Id Doc} (hok : Along (step refs) (Undisturbed refs) (start db₀) acts)
    (hrun : run (step refs) (start db₀) acts = some s) :
    (∀ call, (∀ a ∈ acts, a.call = call) → AllOrNothing db₀ s call) ∧
      (∀ call r, s.reply call = some r →
        (call ∈ s.committed.map PipelineCommit.call ↔ r = .ok)) ∧
      (AtRest s → contents s.db = s.committed.foldl apply (contents db₀) ∧
        (s.db.steps.rows.map some = db₀.steps.rows.map some ∨
          ∃ call c req, s.calls call = some c ∧ c.body = some req ∧
            s.db.steps.rows.map some = askedFrom 1 req.steps)) := by
  have hs : Inv db₀ s := run_invariant_along (fun _ _ _ => inv_step) (inv_start db₀) hok hrun
  refine ⟨?_, fun call r hr => (hs.committed_of_reply hr).2, ?_⟩
  · intro call ho
    have ha : Among [call] s := among_run (by simpa using ho) hrun
    exact hs.allOrNothing fun oth hne => ha oth (by simpa using hne)
  intro hre
  refine ⟨Prod.ext hs.row (hs.atRest hre), ?_⟩
  rw [hs.atRest hre]
  rcases wanted_steps (contents db₀) s.committed with hsa | ⟨ent, he, hst⟩
  · exact .inl hsa
  obtain ⟨c, hc, hb⟩ := hs.commits ent he
  exact .inr ⟨ent.call, c, ent.req, hc, hb, hst⟩

end

/-! ## 6. Runs of one pipeline -/

def someRefs : PipelineRefs Nat where
  agentExists id := 1 ≤ id && id ≤ 9
  satelliteStatus id := if id = 1 then some "active" else none

def somePipeline : StoredPipeline Nat DocText where
  row := some
    { name := "nightly", description := none, satelliteID := 1, onFailure := "stop"
      maxRetries := 0, schedule := none, isEnabled := true, createdAt := 1, updatedAt := 1 }
  steps :=
    { rows := [⟨1, 8, "none", "next", emptyObject⟩,
      ⟨2, 9, "previous_output", "report", emptyObject⟩]
      primaryKey := by decide }

def twoSteps (first second : Nat) (config : String) : CreatePipelineRequest Nat :=
  { name := "", description := none, satelliteID := none, onFailure := "", maxRetries := 0
    steps := [⟨first, "none", "next", config⟩, ⟨second, "previous_output", "report", config⟩] }

/-- The same as `Undisturbed`, where the requests are among these. -/
def UndisturbedAmong (ids : List Nat) (s : PipelineUpdates Nat DocText) : Act Nat → Prop
  | .begin call _ => call ∈ ids
  | .exec call fails _ =>
    call ∈ ids ∧ ∀ c ∈ s.calls call,
      (c.phase.isPast = true → fails = false ∧
        ∀ step ∈ c.phase.nextStep?, step.Accepted DocText someRefs) ∧
      (c.phase.isWrite = true →
        ∀ other ∈ ids, ∀ c' ∈ s.calls other, c'.phase.isReplacing = true → other = call)

instance (ids : List Nat) (s : PipelineUpdates Nat DocText) :
    ∀ a, Decidable (UndisturbedAmong ids s a)
  | .begin call _ => inferInstanceAs (Decidable (call ∈ ids))
  | .exec _ _ _ => inferInstanceAs (Decidable (_ ∧ ∀ c ∈ _, _ ∧ _))

theorem undisturbed_of_among {i : List Nat} {s : PipelineUpdates Nat DocText} {a : Act Nat}
    (hs : Among i s) (h : UndisturbedAmong i s a) : Undisturbed someRefs s a := by
  cases a with
  | begin call b => trivial
  | exec call f n =>
    intro c hca
    obtain ⟨hp, ha⟩ := h.2 c hca
    refine ⟨fun hc => ⟨(hp hc).1, ?_⟩, ?_⟩
    · intro r t left hph
      exact (hp hc).2 t (by rw [hph]; rfl)
    intro hw other c' ho
    by_cases hm : other ∈ i
    · exact ha hw other hm c' ho
    rw [hs other hm] at ho
    cases ho

theorem along_undisturbed {i : List Nat} {db₀ : StoredPipeline Nat DocText}
    {acts : List (Act Nat)} (h : Along (step someRefs) (UndisturbedAmong i) (start db₀) acts) :
    Along (step someRefs) (Undisturbed someRefs) (start db₀) acts := by
  refine along_of_invariant (fun s a s' hs ha hst => ?_) (fun _ _ => undisturbed_of_among)
    (among_start i db₀) h
  refine among_step hs ?_ hst
  cases a with
  | begin call b => exact ha
  | exec call f n => exact ha.1

def statements (call n : Nat) : List (Act Nat) := List.replicate n (.exec call false 5)

def replacedActs : List (Act Nat) :=
  [.begin 1 (some (twoSteps 3 4 "{}")), .begin 2 none] ++ statements 1 6 ++ statements 2 2
    ++ statements 1 3

theorem update_atomic_replaced :
    ∃ s, run (step someRefs) (start somePipeline) replacedActs = some s ∧
      s.reply 1 = some .ok ∧ s.reply 2 = some (.error 400 "invalid request body") ∧
      (contents s.db).2 = askedFrom 1 (twoSteps 3 4 "{}").steps := by
  have hok : Along (step someRefs) (Undisturbed someRefs) (start somePipeline) replacedActs := by
    have ha : Along (step someRefs) (UndisturbedAmong [1, 2])
      (start somePipeline) replacedActs := by
      decide
    exact along_undisturbed ha
  have hr : ∀ s, run (step someRefs) (start somePipeline) replacedActs = some s → AtRest s := by
    intro s h call c hc
    have ha : Among [1, 2] s := among_run (by decide) h
    have hm : call ∈ [1, 2] := by
      by_contra hm
      rw [ha call hm] at hc
      cases hc
    cases h
    have hb : call = 1 ∨ call = 2 := by simpa using hm
    rcases hb with rfl | rfl <;> cases hc <;> rfl
  refine ⟨_, rfl, rfl, rfl, ?_⟩
  exact (congrArg Prod.snd ((update_atomic hok rfl).2.2 (hr _ rfl)).1).trans rfl

/-- Two requests reach their `DELETE`. The second deletes between the two
`INSERT`s of the first, and its own second `INSERT` meets the step that the
first has inserted since. -/
def mixedActs : List (Act Nat) :=
  [.begin 1 (some (twoSteps 3 4 "{}")), .begin 2 (some (twoSteps 5 6 "{}"))]
    ++ statements 1 5 ++ statements 2 5 ++ statements 1 2 ++ statements 2 1 ++ statements 1 2
    ++ statements 2 2

/-- A request whose steps have no config: its `UPDATE` and `DELETE` take
effect, its `INSERT` does not, and it fails without the steps that there
were. Of two requests at once each leaves one step, and the first is
answered with success. -/
theorem steps_lost_steps_mixed :
    (∃ s, run (step someRefs) (start somePipeline)
        (.begin 1 (some (twoSteps 3 4 "")) :: statements 1 7) = some s ∧
      s.reply 1 = some (.error 500 "failed to update pipeline steps") ∧
      s.db.steps.rows = [] ∧ ¬ AllOrNothing somePipeline s 1) ∧
    ∃ s, run (step someRefs) (start somePipeline) mixedActs = some s ∧
      s.reply 1 = some .ok ∧
      s.reply 2 = some (.error 500 "failed to update pipeline steps") ∧
      s.db.steps.rows.map (fun step => (step.stepOrder, step.agentID)) = [(2, 4), (1, 5)] := by
  refine ⟨⟨_, rfl, rfl, rfl, ?_⟩, _, rfl, rfl, rfl, rfl⟩
  intro h
  have hs := congrArg Prod.snd (h.1 500 "failed to update pipeline steps" rfl)
  cases hs

end PipelineUpdates

end Daao.Api

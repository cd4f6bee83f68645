/-
Daao.Dispatch.Dispatcher — the choice of a satellite for an agent
(`internal/dispatch/dispatcher.go`).

`dispatch` takes the active satellites with their latest telemetry, drops
those without a stream, with telemetry older than a minute or without one
of the required tags, scores the others and takes one with the best score.
`sort.Slice` is not stable, so which of several best candidates comes
first is not determined: `Best` is any function that picks one, as the first
of the sorted candidates is (`firstSorted`).

Percentages and scores are rational numbers. What is proved of the choice
(`dispatch_spec`) holds of every candidate, so rounding does not matter
for it. Times are integers, in nanoseconds.
-/
import Daao.Lib.GoJson
import Daao.Lib.GoSort
import Mathlib.Data.List.MinMax
import Mathlib.Data.Rat.Defs
import Mathlib.Algebra.Order.Ring.Rat

namespace Daao.Dispatch

open Daao.Lib List

/-! ## 1. Options and satellites -/

structure DispatchOptions where
  mode : String
  requireTags : StringSlice
  preferTags : StringSlice
  requireGPU : Bool

def DispatchOptions.zero : DispatchOptions :=
  { mode := "", requireTags := .nil, preferTags := .nil, requireGPU := false }

/-- The fields have no tags, so their names are Go's. -/
def dispatchOptionsFields : List (StructField DispatchOptions) :=
  [ .scalar "Mode" Json.asString fun o mode => { o with mode := mode },
    .strings "RequireTags" (·.requireTags) fun o tags => { o with requireTags := tags },
    .strings "PreferTags" (·.preferTags) fun o tags => { o with preferTags := tags },
    .scalar "RequireGPU" Json.asBool fun o gpu => { o with requireGPU := gpu } ]

structure Telemetry where
  cpuPercent : Option ℚ
  memoryPercent : Option ℚ
  diskPercent : Option ℚ
  createdAt : Int

structure Satellite (Id : Type) where
  id : Id
  status : String
  tags : List String
  telemetry : Option Telemetry

abbrev Satellites (Id : Type) := Table fun row : Satellite Id => row.id

structure SatelliteCandidate (Id : Type) where
  satelliteID : Id
  tags : List String
  cpuPercent : ℚ
  memPercent : ℚ
  diskPercent : ℚ
  /-- `none` is the zero time -/
  telemetryAt : Option Int
  hasStream : Bool
  score : ℚ
  matchedTags : List String

/-! ## 2. Filter and score -/

def hasAllRequiredTags (candidateTags requiredTags : List String) : Bool :=
  if requiredTags.isEmpty then true else requiredTags.all fun required => required ∈ candidateTags

def computeMatchedTags (candidateTags preferTags : List String) : List String :=
  if preferTags.isEmpty then [] else preferTags.filter fun preferred => preferred ∈ candidateTags

def countMatchedTags (candidateTags preferTags : List String) : Nat :=
  if preferTags.isEmpty then 0 else preferTags.countP fun preferred => preferred ∈ candidateTags

variable {Id : Type}

def scoreSatellite (candidate : SatelliteCandidate Id) (preferTags : List String) : ℚ :=
  let cpuScore := 1 - candidate.cpuPercent / 100
  let memScore := 1 - candidate.memPercent / 100
  let diskScore := 1 - candidate.diskPercent / 100
  let baseScore := 1 / 2 * cpuScore + 3 / 10 * memScore + 1 / 5 * diskScore
  baseScore + countMatchedTags candidate.tags preferTags * (1 / 20)

def maxTelemetryAge : Int := 60 * 10 ^ 9

variable (c : SatelliteCandidate Id)

def filterCandidate (opts : DispatchOptions) (now : Int) : Bool :=
  if !c.hasStream then false
  else
    match c.telemetryAt with
    -- the zero time is longer ago than any bound
    | none => false
    | some telemetryAt =>
      if now - telemetryAt > maxTelemetryAge then false
      else hasAllRequiredTags c.tags opts.requireTags.elems

def candidateOf (hasStream : Id → Bool) (row : Satellite Id) : SatelliteCandidate Id :=
  let percent (read : Telemetry → Option ℚ) : ℚ := (row.telemetry.bind read).getD 0
  { satelliteID := row.id
    tags := row.tags
    cpuPercent := percent Telemetry.cpuPercent
    memPercent := percent Telemetry.memoryPercent
    diskPercent := percent Telemetry.diskPercent
    telemetryAt := row.telemetry.map Telemetry.createdAt
    hasStream := hasStream row.id
    score := 0
    matchedTags := [] }

def withScore (opts : DispatchOptions) (c : SatelliteCandidate Id) : SatelliteCandidate Id :=
  { c with
    score := scoreSatellite c opts.preferTags.elems
    matchedTags := computeMatchedTags c.tags opts.preferTags.elems }

def candidates (satellites : Satellites Id) (hasStream : Id → Bool) (now : Int)
    (opts : DispatchOptions) : List (SatelliteCandidate Id) :=
  (((satellites.rows.filter fun row => row.status = "active").map (candidateOf hasStream)).filter
    fun c => filterCandidate c opts now).map (withScore opts)

/-! ## 3. The choice -/

structure DispatchResult (Id : Type) where
  satelliteID : Id
  score : ℚ
  matchedTags : List String
  dispatched : Bool

/-- The first of the candidates sorted by descending score. -/
structure Best (Id : Type) where
  pick : List (SatelliteCandidate Id) → Option (SatelliteCandidate Id)
  isSome : ∀ l, l ≠ [] → (pick l).isSome
  mem : ∀ l c, pick l = some c → c ∈ l
  maximal : ∀ l c, pick l = some c → ∀ c' ∈ l, c'.score ≤ c.score

def Best.first : Best Id where
  pick := List.argmax SatelliteCandidate.score
  isSome l h := by
    rw [Option.isSome_iff_ne_none]
    exact fun hnone => h (List.argmax_eq_none.mp hnone)
  mem _ _ h := List.argmax_mem h
  maximal _ _ h _ hmem := List.le_of_mem_argmax hmem h

def errNoSatelliteAvailable : String := "no satellite matches dispatch requirements"

def dispatch (best : Best Id) (satellites : Satellites Id) (hasStream : Id → Bool) (now : Int)
    (opts : DispatchOptions) : Except String (DispatchResult Id) :=
  match best.pick (candidates satellites hasStream now opts) with
  | none => .error errNoSatelliteAvailable
  | some c =>
    .ok { satelliteID := c.satelliteID, score := c.score, matchedTags := c.matchedTags
          dispatched := true }

/-- The `less` that both functions give to `sort.Slice`. -/
def higherScore (a b : SatelliteCandidate Id) : Bool := a.score > b.score

theorem pairwise_sort (sorting : SortSlice (SatelliteCandidate Id))
    (l : List (SatelliteCandidate Id)) :
    (sorting.sort higherScore l).Pairwise fun a b => b.score ≤ a.score := by
  refine (sorting.ordered higherScore (strictWeak_key SatelliteCandidate.score) l).imp ?_
  intro a b h
  simpa [higherScore] using h

/-- `candidates[0]` after the sort. -/
def firstSorted (sorting : SortSlice (SatelliteCandidate Id)) : Best Id where
  pick l := (sorting.sort higherScore l).head?
  isSome l h := by
    rw [List.isSome_head?]
    exact fun hnil => h ((hnil ▸ sorting.perm higherScore l).nil_eq).symm
  mem l c h := (sorting.perm higherScore l).mem_iff.mp (List.mem_of_head? h)
  maximal l c h c' hc' := by
    have hsorted := pairwise_sort sorting l
    have hmem := (sorting.perm higherScore l).mem_iff.mpr hc'
    cases hl : sorting.sort higherScore l with
    | nil => simp [hl] at h
    | cons a rest =>
      rw [hl] at h hsorted hmem
      cases h
      rcases List.mem_cons.mp hmem with rfl | hrest
      · exact le_rfl
      · exact List.rel_of_pairwise_cons hsorted hrest

def preview (sorting : SortSlice (SatelliteCandidate Id)) (satellites : Satellites Id)
    (hasStream : Id → Bool) (now : Int) (opts : DispatchOptions) : List (DispatchResult Id) :=
  (sorting.sort higherScore (candidates satellites hasStream now opts)).map fun c =>
    { satelliteID := c.satelliteID, score := c.score, matchedTags := c.matchedTags
      dispatched := false }

/-! ## 4. What is chosen -/

theorem hasAllRequiredTags_iff (candidateTags requiredTags : List String) :
    hasAllRequiredTags candidateTags requiredTags = true
      ↔ ∀ r ∈ requiredTags, r ∈ candidateTags := by
  cases requiredTags <;> simp [hasAllRequiredTags]

theorem scoreSatellite_eq_iff (pt : List String) :
    scoreSatellite c [] = scoreSatellite c pt
      ↔ ∀ p ∈ pt, p ∉ c.tags := by
  have hc : countMatchedTags c.tags pt = 0
      ↔ ∀ p ∈ pt, p ∉ c.tags := by
    grind [countMatchedTags, countP_eq_zero]
  rw [← hc]
  have hn : countMatchedTags c.tags [] = 0 := rfl
  simp only [scoreSatellite, hn, Nat.cast_zero, zero_mul, add_zero, left_eq_add]
  simp

theorem filterCandidate_iff (opts : DispatchOptions) (now : Int) :
    filterCandidate c opts now = true
      ↔ c.hasStream = true ∧ (∃ at', c.telemetryAt = some at' ∧ now - at' ≤ maxTelemetryAge)
        ∧ ∀ r ∈ opts.requireTags.elems, r ∈ c.tags := by
  grind [filterCandidate, hasAllRequiredTags_iff]

structure Eligible (satellites : Satellites Id) (hasStream : Id → Bool) (now : Int)
    (opts : DispatchOptions) (c : SatelliteCandidate Id) (row : Satellite Id) : Prop where
  stored : row ∈ satellites.rows
  id : c.satelliteID = row.id
  active : row.status = "active"
  stream : hasStream row.id = true
  recent : ∃ t, row.telemetry = some t ∧ now - t.createdAt ≤ maxTelemetryAge
  required : ∀ tag ∈ opts.requireTags.elems, tag ∈ row.tags
  scored : c.score = scoreSatellite (candidateOf hasStream row) opts.preferTags.elems

variable {opts : DispatchOptions} {hasStream : Id → Bool} {now : Int} {satellites : Satellites Id}

theorem mem_candidates_iff {c : SatelliteCandidate Id} :
    c ∈ candidates satellites hasStream now opts
      ↔ ∃ row, c = withScore opts (candidateOf hasStream row)
        ∧ Eligible satellites hasStream now opts c row := by
  unfold candidates
  simp only [mem_map, mem_filter, filterCandidate_iff]
  constructor
  · intro h
    obtain ⟨c', ⟨⟨row, ⟨hro, ha⟩, rfl⟩, hs, ⟨at', hat, hr⟩, hre⟩, rfl⟩ := h
    obtain ⟨t, ht, rfl⟩ := Option.map_eq_some_iff.mp hat
    exact ⟨row, rfl,
      { stored := hro, id := rfl, active := by simpa using ha, stream := hs
        recent := ⟨t, ht, hr⟩, required := hre, scored := rfl }⟩
  intro h
  obtain ⟨row, rfl, hro⟩ := h
  obtain ⟨t, ht, hr⟩ := hro.recent
  exact ⟨_, ⟨⟨row, ⟨hro.stored, by simpa using hro.active⟩, rfl⟩, hro.stream,
    ⟨t.createdAt, by simp [candidateOf, ht], hr⟩, hro.required⟩, rfl⟩

/-- **The dispatcher keeps to its options**: the satellite it chooses is
eligible, and no eligible one has a better score. -/
theorem dispatch_spec {b : Best Id} {e : DispatchResult Id}
    (h : dispatch b satellites hasStream now opts = .ok e) :
    ∃ c r, Eligible satellites hasStream now opts c r ∧ e.satelliteID = r.id ∧ e.score = c.score
      ∧ ∀ c' ∈ candidates satellites hasStream now opts, c'.score ≤ e.score := by
  unfold dispatch at h
  cases hp : b.pick (candidates satellites hasStream now opts) with
  | none =>
    simp [hp] at h
  | some c =>
    rw [hp] at h
    cases h
    obtain ⟨r, -, hr⟩ := mem_candidates_iff.mp (b.mem _ _ hp)
    exact ⟨c, r, hr, hr.id, rfl, b.maximal _ _ hp⟩

theorem dispatch_error {b : Best Id} {e : String}
    (h : dispatch b satellites hasStream now opts = .error e) :
    e = errNoSatelliteAvailable ∧ candidates satellites hasStream now opts = [] := by
  unfold dispatch at h
  cases hp : b.pick (candidates satellites hasStream now opts) with
  | none =>
    rw [hp] at h
    cases h
    refine ⟨rfl, ?_⟩
    by_contra hne
    simpa [hp] using b.isSome _ hne
  | some c =>
    simp [hp] at h

def resultOf (hasStream : Id → Bool) (opts : DispatchOptions) (dispatched : Bool)
    (row : Satellite Id) : DispatchResult Id :=
  { satelliteID := row.id
    score := scoreSatellite (candidateOf hasStream row) opts.preferTags.elems
    matchedTags := computeMatchedTags row.tags opts.preferTags.elems
    dispatched := dispatched }

theorem countMatchedTags_eq (ct preferTags : List String) :
    countMatchedTags ct preferTags
      = (computeMatchedTags ct preferTags).length := by
  cases preferTags with
  | nil => rfl
  | cons _ _ => exact countP_eq_length_filter

theorem nodup_candidates :
    ((candidates satellites hasStream now opts).map (·.satelliteID)).Nodup := by
  have ha := satellites.primaryKey.sublist
    ((filter_sublist (p := fun r => r.status = "active")).map _)
  rw [candidates, map_map]
  refine List.Nodup.sublist (filter_sublist.map _) ?_
  rwa [map_map]

/-- **Dispatch and preview.** A dispatch fails exactly if no satellite is
eligible, and else finds a best one; a preview lists the eligible ones. -/
theorem preview_spec (sorting : SortSlice (SatelliteCandidate Id)) (satellites : Satellites Id)
    (hasStream : Id → Bool) (now : Int) (opts : DispatchOptions) :
    let eligible row := ∃ c, Eligible satellites hasStream now opts c row
    let previewed := preview sorting satellites hasStream now opts
    (match dispatch (firstSorted sorting) satellites hasStream now opts with
      | .error _ => ∀ row, ¬ eligible row
      | .ok result => ∃ row, eligible row ∧ result = resultOf hasStream opts true row
        ∧ ∀ row', eligible row' → (resultOf hasStream opts true row').score ≤ result.score)
    ∧ (∀ result, result ∈ previewed ↔
        ∃ row, eligible row ∧ result = resultOf hasStream opts false row)
    ∧ (previewed.map (·.satelliteID)).Nodup
    ∧ previewed.Pairwise (fun a b => b.score ≤ a.score)
    ∧ ∀ dis row, let result := resultOf hasStream opts dis row
      let per (read : Telemetry → Option ℚ) : ℚ := (row.telemetry.bind read).getD 0
      result.score = 1 / 2 * (1 - per Telemetry.cpuPercent / 100)
        + 3 / 10 * (1 - per Telemetry.memoryPercent / 100)
        + 1 / 5 * (1 - per Telemetry.diskPercent / 100)
        + result.matchedTags.length * (1 / 20) := by
  intro eligible previewed
  have hm : ∀ row, eligible row →
      withScore opts (candidateOf hasStream row) ∈ candidates satellites hasStream now opts := by
    rintro row ⟨c, hr⟩
    exact mem_candidates_iff.mpr ⟨row, rfl, { hr with id := rfl, scored := rfl }⟩
  refine ⟨?_, ?_, ?_, ?_, ?_⟩
  · cases hd : dispatch (firstSorted sorting) satellites hasStream now opts with
    | error e =>
      intro row hr
      have hn := hm row hr
      rw [(dispatch_error hd).2] at hn
      cases hn
    | ok result =>
      unfold dispatch at hd
      split at hd
      · cases hd
      rename_i c hp
      cases hd
      obtain ⟨row, rfl, hr⟩ := mem_candidates_iff.mp ((firstSorted sorting).mem _ _ hp)
      refine ⟨row, ⟨_, hr⟩, rfl, fun row' hr' => ?_⟩
      exact (firstSorted sorting).maximal _ _ hp _ (hm row' hr')
  · intro result
    simp only [previewed, preview, mem_map, (sorting.perm _ _).mem_iff]
    constructor
    · rintro ⟨c, hc, rfl⟩
      obtain ⟨row, rfl, hr⟩ := mem_candidates_iff.mp hc
      exact ⟨row, ⟨_, hr⟩, rfl⟩
    rintro ⟨row, hr, rfl⟩
    exact ⟨_, hm row hr, rfl⟩
  · have hpe := sorting.perm higherScore (candidates satellites hasStream now opts)
    simp only [previewed, preview, map_map]
    exact (hpe.map (·.satelliteID)).nodup_iff.mpr nodup_candidates
  · exact pairwise_map.mpr (pairwise_sort sorting _)
  · intro dis row result per
    simp only [result, resultOf, scoreSatellite, countMatchedTags_eq]
    rfl

/-- A busy satellite and an idle one. -/
def busyAndIdle : Satellites Nat :=
  { rows := [⟨1, "active", [], some ⟨some 80, some 50, none, 0⟩⟩,
      ⟨2, "active", [], some ⟨some 10, some 50, none, 0⟩⟩]
    primaryKey := by decide }

theorem preview_spec_idle :
    let previewed := preview .insertion busyAndIdle (fun _ => true) 0 .zero
    previewed.map (·.satelliteID) = [2, 1] ∧ previewed.Pairwise (fun a b => b.score ≤ a.score) :=
  ⟨by decide +kernel, (preview_spec .insertion busyAndIdle (fun _ => true) 0 .zero).2.2.2.1⟩

end Daao.Dispatch

/-
Daao.Gateway.Registration — which row of `satellites` a register request is
for (`internal/grpc/gateway.go`, `Connect`).

The handler tries three statements one after the other: it updates the row
with the sender's id, name or fingerprint; else it gives the sender the
pending row that was created last; else it inserts a row. A statement that
violates a constraint fails and changes nothing, and the next one is
tried. The id that the statement returns is the one under which the
connection's channel is registered.

The constraints are those of migrations 001, 006, 009 and 010, and the
table carries them.
-/
import Daao.Api.AgentsTheorems
import Daao.Gateway.Connections
import Mathlib.Data.List.Dedup
import Mathlib.Data.List.Pairwise

namespace Daao.Gateway

open Daao.Api Daao.Lib Daao.Stream List Option

/-! ## 1. The table -/

structure SatelliteRow (Id : Type) where
  id : Id
  name : String
  ownerID : Id
  fingerprint : Option String
  status : SatelliteStatus
  version : String
  os : String
  arch : String
  availableAgents : List String
  tags : List String
  createdAt : Nat
  updatedAt : Nat

structure SatelliteRows (Id : Type) extends Table (SatelliteRow.id : SatelliteRow Id → Id) where
  uniqueName : (rows.map SatelliteRow.name).Nodup
  /-- among the rows that have one -/
  uniqueFingerprint : (rows.filterMap SatelliteRow.fingerprint).Nodup

namespace SatelliteRows

variable {Id : Type} [DecidableEq Id]

/-- The table with these rows; `none` if they violate a constraint. -/
def ofRows (rows : List (SatelliteRow Id)) : Option (SatelliteRows Id) :=
  if h : (rows.map SatelliteRow.id).Nodup ∧ (rows.map SatelliteRow.name).Nodup
      ∧ (rows.filterMap SatelliteRow.fingerprint).Nodup then
    some { rows := rows, primaryKey := h.1, uniqueName := h.2.1, uniqueFingerprint := h.2.2 }
  else none

def updateWhere (t : SatelliteRows Id) (p : SatelliteRow Id → Bool)
    (f : SatelliteRow Id → SatelliteRow Id) : Option (SatelliteRows Id) :=
  ofRows (t.rows.map fun row => if p row = true then f row else row)

/-- `SELECT id FROM satellites WHERE status = 'pending' ORDER BY created_at
DESC LIMIT 1`; among rows of the same time the table's order decides. -/
def latestPending (t : SatelliteRows Id) : Option (SatelliteRow Id) :=
  (t.rows.filter fun row => row.status = .pending).argmax SatelliteRow.createdAt

variable {t : SatelliteRows Id}

theorem rows_of_ofRows {rows : List (SatelliteRow Id)} (h : ofRows rows = some t) :
    t.rows = rows := by
  unfold ofRows at h
  split at h
  · cases h
    rfl
  · cases h

variable {row : SatelliteRow Id}

theorem find?_updateWhere {t' : SatelliteRows Id} {p : SatelliteRow Id → Bool}
    {f : SatelliteRow Id → SatelliteRow Id} (hf : ∀ row, (f row).id = row.id)
    (h : t.updateWhere p f = some t') (id : Id) :
    t'.find? id = (t.find? id).map fun row => if p row = true then f row else row := by
  exact Table.find?_update hf (rows_of_ofRows h) id

theorem find?_updateWhere_of_not {t' : SatelliteRows Id} {p : SatelliteRow Id → Bool}
    {f : SatelliteRow Id → SatelliteRow Id} (hf : ∀ row, (f row).id = row.id)
    (h : t.updateWhere p f = some t') {id : Id} (hp : ∀ row ∈ t.rows, row.id = id → p row = false) :
    t'.find? id = t.find? id := by
  rw [find?_updateWhere hf h]
  cases hr : t.find? id with
  | none => rfl
  | some row =>
    obtain ⟨hm, hid⟩ := Table.find?_eq_some_iff.mp hr
    simp [hp row hm hid]

omit [DecidableEq Id] in
theorem eq_of_fingerprint_eq {other : SatelliteRow Id} {fp : String}
    (hr : row ∈ t.rows) (ho : other ∈ t.rows) (h : row.fingerprint = some fp)
    (h' : other.fingerprint = some fp) : row = other := by
  have hp := pairwise_filterMap.mp t.uniqueFingerprint
  by_contra hne
  have : Std.Symm fun a b : SatelliteRow Id =>
      ∀ x, a.fingerprint = some x → ∀ y, b.fingerprint = some y → x ≠ y :=
    ⟨fun a b hab x hx y hy => (hab y hy x hx).symm⟩
  exact hp.forall hr ho hne fp h fp h' rfl

theorem exists_updateWhere (t : SatelliteRows Id) (p : SatelliteRow Id → Bool)
    (f : SatelliteRow Id → SatelliteRow Id) (hid : ∀ row, (f row).id = row.id)
    (hn : ∀ row, (f row).name = row.name) (hfp : ∀ row ∈ t.rows, ∀ oth ∈ t.rows, row ≠ oth →
      ∀ x, (if p row = true then f row else row).fingerprint = some x →
      ∀ y, (if p oth = true then f oth else oth).fingerprint = some y → x ≠ y) :
    ∃ t', t.updateWhere p f = some t' := by
  have hi := map_column_ite SatelliteRow.id (fun row => p row = true) f hid t.rows
  have hna := map_column_ite SatelliteRow.name (fun row => p row = true) f hn t.rows
  have hd : t.rows.Pairwise (· ≠ ·) := List.Nodup.of_map _ t.primaryKey
  have hf : ((t.rows.map fun row => if p row = true then f row else row).filterMap
      SatelliteRow.fingerprint).Nodup := by grind [hd.imp_of_mem]
  unfold updateWhere ofRows
  rw [dif_pos ⟨hi ▸ t.primaryKey, hna ▸ t.uniqueName, hf⟩]
  exact ⟨_, rfl⟩

end SatelliteRows

/-! ## 2. The register request -/

structure RegisterRequest where
  satelliteID : String
  fingerprint : String
  version : String
  os : String
  arch : String
  availableAgents : List String

/-- The value of a `VARCHAR(n)` column: a longer text is an error, unless
all that is too much are blanks. -/
def varchar (n : Nat) (text : String) : Option String :=
  if (text.toList.drop n).all (· = ' ') then some (String.ofList (text.toList.take n)) else none

structure Reported where
  version : String
  os : String
  arch : String
  availableAgents : List String

/-- The request's values in the columns of migration 010. -/
def RegisterRequest.reported (req : RegisterRequest) : Option Reported := do
  let version ← varchar 50 req.version
  let os ← varchar 20 req.os
  let arch ← varchar 20 req.arch
  some { version := version, os := os, arch := arch, availableAgents := req.availableAgents }

/-- The text has the length of a UUID and a hyphen where it has one. -/
def looksLikeUUID (rawID : String) : Bool :=
  let bytes := rawID.toUTF8.data.toList
  bytes.length = 36 && bytes[8]? = some '-'.toUInt8

def satName (req : RegisterRequest) : String :=
  if looksLikeUUID req.satelliteID then "satellite-" ++ req.os else req.satelliteID

def autoTags (req : RegisterRequest) : List String :=
  (if req.os ≠ "" then ["os:" ++ req.os] else []) ++
    (if req.arch ≠ "" then ["arch:" ++ req.arch] else [])

namespace SatelliteRow

variable {Id : Type}

def refresh (reported : Reported) (now : Nat) (row : SatelliteRow Id) : SatelliteRow Id :=
  { row with
    status := .active, version := reported.version, os := reported.os, arch := reported.arch
    availableAgents := reported.availableAgents, updatedAt := now }

def activate (reported : Reported) (fingerprint : String) (now : Nat) (row : SatelliteRow Id) :
    SatelliteRow Id :=
  { row.refresh reported now with fingerprint := some fingerprint }

/-- The database gives the distinct tags in an order of its own. -/
def addTags (tags : List String) (row : SatelliteRow Id) : SatelliteRow Id :=
  { row with tags := (row.tags ++ tags).dedup }

def setOffline (now : Nat) (row : SatelliteRow Id) : SatelliteRow Id :=
  { row with status := .offline, updatedAt := now }

variable [Uuid Id]

/-- `id::text = text OR name = text OR fingerprint = fingerprint`. -/
def isNamed (text fingerprint : String) (row : SatelliteRow Id) : Bool :=
  Uuid.text row.id = text || row.name = text || row.fingerprint = some fingerprint

end SatelliteRow

structure Directory (Id Ch : Type) where
  satellites : SatelliteRows Id
  registry : StreamRegistry Ch

section

variable {Id Ch : Type} [DecidableEq Id] [Uuid Id]

def updateNamed (t : SatelliteRows Id) (req : RegisterRequest) (now : Nat) :
    Option (SatelliteRows Id × Id) := do
  let reported ← req.reported
  let row ← t.rows.find? (SatelliteRow.isNamed req.satelliteID req.fingerprint)
  let t' ← t.updateWhere (SatelliteRow.isNamed req.satelliteID req.fingerprint)
    (SatelliteRow.activate reported req.fingerprint now)
  some (t', row.id)

def adoptPending (t : SatelliteRows Id) (req : RegisterRequest) (now : Nat) :
    Option (SatelliteRows Id × Id) := do
  let reported ← req.reported
  let row ← t.latestPending
  let t' ← t.updateWhere (fun other => other.id = row.id)
    (SatelliteRow.activate reported req.fingerprint now)
  some (t', row.id)

/-- The second fallback: `INSERT … ON CONFLICT (fingerprint) DO UPDATE`.
`newID` is the id that the database makes. -/
def autoRegister (t : SatelliteRows Id) (req : RegisterRequest) (newID : Id) (now : Nat) :
    Option (SatelliteRows Id × Id) := do
  let reported ← req.reported
  let name ← varchar 255 (satName req)
  match t.rows.find? fun row => row.fingerprint = some req.fingerprint with
  | some row =>
    let t' ← t.updateWhere (fun other => other.id = row.id) (SatelliteRow.refresh reported now)
    some (t', row.id)
  | none =>
    let t' ← SatelliteRows.ofRows (t.rows ++
      [ { id := newID, name := name, ownerID := Uuid.zero, fingerprint := some req.fingerprint
          status := .active, version := reported.version, os := reported.os
          arch := reported.arch, availableAgents := reported.availableAgents, tags := []
          createdAt := now, updatedAt := now } ])
    some (t', newID)

def resolve (t : SatelliteRows Id) (req : RegisterRequest) (newID : Id) (now : Nat) :
    Option (SatelliteRows Id × Id) :=
  ((updateNamed t req now).or (adoptPending t req now)).or (autoRegister t req newID now)

def populateTags (t : SatelliteRows Id) (req : RegisterRequest) (id : Id) : SatelliteRows Id :=
  if autoTags req = [] then t
  else (t.updateWhere (fun row => row.id = id) (SatelliteRow.addTags (autoTags req))).getD t

def handleRegister (g : Directory Id Ch) (req : RegisterRequest) (ch : Ch) (newID : Id)
    (now : Nat) :
    Directory Id Ch × String :=
  match resolve g.satellites req newID now with
  | some (t, id) =>
    ({ satellites := populateTags t req id
       registry := g.registry.registerSatelliteStream (Uuid.text id) ch }, Uuid.text id)
  | none =>
    ({ g with registry := g.registry.registerSatelliteStream req.satelliteID ch }, req.satelliteID)

def handleDisconnect (g : Directory Id Ch) (satelliteID : String) (now : Nat) : Directory Id Ch :=
  if satelliteID = "" then g
  else
    { satellites :=
        (g.satellites.updateWhere (SatelliteRow.isNamed satelliteID satelliteID)
          (SatelliteRow.setOffline now)).getD g.satellites
      registry := g.registry.unregisterSatelliteStream satelliteID }

/-! ## 3. The row of a request -/

/-- A change of one row: the others are as they were, and it is there. -/
structure ChangesOnly (t t' : SatelliteRows Id) (id : Id) : Prop where
  others : ∀ other, other ≠ id → t'.find? other = t.find? other
  present : (t'.find? id).isSome

variable {row : SatelliteRow Id} {t t' : SatelliteRows Id}

open SatelliteRows

omit [Uuid Id] in
theorem changesOnly_updateWhere {p : SatelliteRow Id → Bool}
    {f : SatelliteRow Id → SatelliteRow Id} (hf : ∀ row, (f row).id = row.id) (hr : row ∈ t.rows)
    (hp : ∀ oth ∈ t.rows, p oth = true → oth.id = row.id) (h : t.updateWhere p f = some t') :
    ChangesOnly t t' row.id := by
  constructor
  · grind [find?_updateWhere_of_not]
  rw [find?_updateWhere hf h, Table.find?_eq_some_iff.mpr ⟨hr, rfl⟩]
  rfl

variable {now : Nat}

open SatelliteRow

omit [Uuid Id] in
theorem eq_of_activated {p : SatelliteRow Id → Bool} {e : Reported} {fingerprint : String}
    (h : t.updateWhere p (activate e fingerprint now) = some t')
    {oth : SatelliteRow Id} (hrw : row ∈ t.rows) (hp : p row = true) (ho : oth ∈ t.rows)
    (hp' : p oth = true ∨ oth.fingerprint = some fingerprint) : oth = row := by
  have hro := rows_of_ofRows h
  have hm : ∀ r ∈ t.rows, (if p r = true then
      activate e fingerprint now r else r) ∈ t'.rows := by
    intro r hr
    rw [hro]
    exact mem_map_of_mem hr
  have hfp : (if p oth = true then activate e fingerprint now oth
      else oth).fingerprint = some fingerprint := by
    split
    · rfl
    · grind
  have heq := eq_of_fingerprint_eq (hm oth ho) (hm row hrw) hfp (by simp [hp, activate])
  -- the change keeps the ids
  have hid : oth.id = row.id := by
    have hi := congrArg SatelliteRow.id heq
    split at hi <;> exact hi
  exact Table.eq_of_key_eq ho hrw hid

variable {id : Id} {req : RegisterRequest}

theorem updateNamed_spec (h : updateNamed t req now = some (t', id)) :
    ChangesOnly t t' id ∧ ∃ row ∈ t.rows, row.id = id ∧
      row.isNamed req.satelliteID req.fingerprint = true := by
  simp only [updateNamed, bind_eq_bind, bind_eq_some_iff, some.injEq, Prod.mk.injEq] at h
  obtain ⟨e, -, row, hf, t₁, hu, rfl, rfl⟩ := h
  have hr := mem_of_find?_eq_some hf
  have hn := find?_some hf
  refine ⟨changesOnly_updateWhere (by intro r; rfl) hr ?_ hu, row, hr, rfl, hn⟩
  intro oth ho hp
  rw [eq_of_activated hu hr hn ho (.inl hp)]

theorem exists_updateNamed {reported : Reported} (hr : req.reported = some reported) (now : Nat)
    (h : ∃! row, row ∈ t.rows ∧ row.isNamed req.satelliteID req.fingerprint = true) :
    ∃ r, updateNamed t req now = some r := by
  obtain ⟨row, ⟨hro, hn⟩, hun⟩ := h
  -- a row that is not selected has another fingerprint
  have ho : ∀ oth : SatelliteRow Id, oth.isNamed req.satelliteID req.fingerprint ≠ true →
      oth.fingerprint ≠ some req.fingerprint := by
    intro oth hno hfp
    exact hno (by simp [isNamed, hfp])
  have hu : ∃ t', t.updateWhere (isNamed req.satelliteID req.fingerprint)
      (activate reported req.fingerprint now) = some t' := by
    refine t.exists_updateWhere _ _ (by intro r; rfl) (by intro r; rfl) ?_
    rintro a ha b hb hne x hx y hy rfl
    split at hx <;> split at hy
    · grind
    · rename_i hpa hpb
      cases hx
      exact ho b hpb hy
    · rename_i hpa hpb
      cases hy
      exact ho a hpa hx
    · exact hne (eq_of_fingerprint_eq ha hb hx hy)
  obtain ⟨t', ht'⟩ := hu
  obtain ⟨first, hf⟩ : ∃ first,
      t.rows.find? (isNamed req.satelliteID req.fingerprint) = some first :=
    isSome_iff_exists.mp (find?_isSome.mpr ⟨row, hro, hn⟩)
  exact ⟨(t', first.id), by simp [updateNamed, hr, hf, ht']⟩

/-- The pending row that was created last, for a request that no row or
several rows match and whose fingerprint no row has. -/
def Adopts (t : SatelliteRows Id) (req : RegisterRequest) (row : SatelliteRow Id) : Prop :=
  t.latestPending = some row ∧
    (∀ other ∈ t.rows, other.fingerprint ≠ some req.fingerprint) ∧
    ¬ ∃! other, other ∈ t.rows ∧ other.isNamed req.satelliteID req.fingerprint = true

omit [DecidableEq Id] [Uuid Id] in
theorem mem_of_latestPending (h : t.latestPending = some row) : row ∈ t.rows :=
  mem_of_mem_filter (argmax_mem h)

theorem adoptPending_spec
    (h : adoptPending t req now = some (t', id)) (hf : updateNamed t req now = none) :
    ChangesOnly t t' id ∧ ∃ row ∈ t.rows, row.id = id ∧
      (row.isNamed req.satelliteID req.fingerprint = true ∨ Adopts t req row) := by
  simp only [adoptPending, bind_eq_bind, bind_eq_some_iff, some.injEq, Prod.mk.injEq] at h
  obtain ⟨e, hre, row, hpe, t₁, hu, rfl, rfl⟩ := h
  have hro := mem_of_latestPending hpe
  have hc : ChangesOnly t t₁ row.id :=
    changesOnly_updateWhere (by intro r; rfl) hro (by intro oth _ hp; simpa using hp) hu
  refine ⟨hc, row, hro, rfl, ?_⟩
  by_cases hn : row.isNamed req.satelliteID req.fingerprint = true
  · exact .inl hn
  refine .inr ⟨hpe, ?_, ?_⟩
  · grind [isNamed, eq_of_activated]
  intro ho
  obtain ⟨r, hr⟩ := exists_updateNamed hre now ho
  simp [hf] at hr

theorem autoRegister_spec {n : Id} (h : autoRegister t req n now = some (t', id)) :
    ChangesOnly t t' id ∧ ∀ row ∈ t.rows, row.id = id →
      row.isNamed req.satelliteID req.fingerprint = true := by
  simp only [autoRegister, bind_eq_bind, bind_eq_some_iff] at h
  obtain ⟨e, -, a, -, h⟩ := h
  split at h
  · rename_i row hf
    simp only [bind_eq_some_iff, some.injEq, Prod.mk.injEq] at h
    obtain ⟨t₁, hu, rfl, rfl⟩ := h
    have hro := mem_of_find?_eq_some hf
    have hfp : row.fingerprint = some req.fingerprint := by simpa using find?_some hf
    refine ⟨changesOnly_updateWhere (by intro r; rfl) hro
      (by intro oth _ hp; simpa using hp) hu, ?_⟩
    intro oth ho hid
    rw [Table.eq_of_key_eq ho hro hid]
    simp [isNamed, hfp]
  · simp only [bind_eq_some_iff, some.injEq, Prod.mk.injEq] at h
    obtain ⟨t₁, hi, rfl, rfl⟩ := h
    have hr := rows_of_ofRows hi
    have hn : n ∉ t.rows.map SatelliteRow.id := by
      have hids := t₁.primaryKey
      rw [hr, map_append, nodup_append_comm] at hids
      exact (nodup_cons.mp hids).1
    refine ⟨⟨?_, ?_⟩, ?_⟩
    · intro oth hne
      rw [Table.find?, hr, find?_append, Table.find?]
      simp [hne.symm]
    · exact isSome_iff_exists.mpr
        ⟨_, Table.find?_eq_some_iff.mpr ⟨hr ▸ mem_append_right _ (mem_singleton_self _), rfl⟩⟩
    · grind

theorem resolve_spec {n : Id} (h : resolve t req n now = some (t', id)) :
    ChangesOnly t t' id ∧ ∀ row, t.find? id = some row →
      row.isNamed req.satelliteID req.fingerprint = true ∨ Adopts t req row := by
  -- the row of the id is the one that the statement selected
  have hfi : ∀ {row w' : SatelliteRow Id}, row ∈ t.rows → row.id = id →
      t.find? id = some w' → w' = row := by
    intro row w' hr hid hr'
    rw [Table.find?_eq_some_iff.mpr ⟨hr, hid⟩] at hr'
    exact (some.inj hr').symm
  unfold resolve at h
  cases hf : updateNamed t req now with
  | some r =>
    rw [hf, some_or, some_or, some.injEq] at h
    rw [h] at hf
    obtain ⟨hc, row, hr, hid, hn⟩ := updateNamed_spec hf
    exact ⟨hc, fun w' hr' => .inl (hfi hr hid hr' ▸ hn)⟩
  | none =>
    cases hs : adoptPending t req now with
    | some r => grind [adoptPending_spec]
    | none => grind [autoRegister_spec, Table.find?_eq_some_iff]

omit [Uuid Id] in
theorem changesOnly_populateTags (h : ChangesOnly t t' id) :
    ChangesOnly t (populateTags t' req id) id := by
  unfold populateTags
  split
  · exact h
  cases hu : t'.updateWhere (fun row => row.id = id) (addTags (autoTags req)) with
  | none => exact h
  | some t₁ =>
    obtain ⟨row, hr⟩ := isSome_iff_exists.mp h.present
    obtain ⟨hm, rfl⟩ := Table.find?_eq_some_iff.mp hr
    have hc : ChangesOnly t' t₁ row.id :=
      changesOnly_updateWhere (by intro r; rfl) hm (by intro oth _ hp; simpa using hp) hu
    exact ⟨fun oth hne => (hc.others oth hne).trans (h.others oth hne), hc.present⟩

theorem find?_handleDisconnect {g : Directory Id Ch} {satelliteID : String}
    (hn : ∀ row ∈ g.satellites.rows, Uuid.text row.id ≠ satelliteID →
      row.name ≠ satelliteID ∧ row.fingerprint ≠ some satelliteID)
    (hid : Uuid.text id ≠ satelliteID) :
    (handleDisconnect g satelliteID now).satellites.find? id = g.satellites.find? id := by
  unfold handleDisconnect
  split
  · rfl
  cases hu : g.satellites.updateWhere (isNamed satelliteID satelliteID) (setOffline now) with
  | none => rfl
  | some t =>
    refine find?_updateWhere_of_not (by intro r; rfl) hu ?_
    rintro row hr rfl
    obtain ⟨hna, hfp⟩ := hn row hr hid
    simp [isNamed, hid, hna, hfp]

/-- What a register request may do: `target` is the row it is for. -/
structure RegisterFrame (g : Directory Id Ch) (req : RegisterRequest) (ch : Ch)
    (after : Directory Id Ch × String) (target : Option Id) : Prop where
  satelliteID : after.2 = (target.map Uuid.text).getD req.satelliteID
  registered : after.1.registry = g.registry.registerSatelliteStream after.2 ch
  present : ∀ id ∈ target, (after.1.satellites.find? id).isSome
  others : ∀ id, id ∉ target → after.1.satellites.find? id = g.satellites.find? id
  whose : ∀ id ∈ target, ∀ row, g.satellites.find? id = some row →
    row.isNamed req.satelliteID req.fingerprint = true ∨ Adopts g.satellites req row
  /-- the cleanup, from whatever the tables have become -/
  cleanup : ∀ (g' : Directory Id Ch) (now : Nat),
    (∀ row ∈ g'.satellites.rows, Uuid.text row.id ≠ after.2 →
      row.name ≠ after.2 ∧ row.fingerprint ≠ some after.2) →
    ∀ id, Uuid.text id ≠ after.2 →
      (handleDisconnect g' after.2 now).satellites.find? id = g'.satellites.find? id

/-- **Register request.** It changes at most one row, under whose id the
connection is registered, and an existing row only if it has the sender's
id, name or fingerprint, or is the pending row that was created last. -/
theorem register_frame (g : Directory Id Ch) (req : RegisterRequest) (ch : Ch) (newID : Id)
    (now : Nat) : ∃ target, RegisterFrame g req ch (handleRegister g req ch newID now) target := by
  unfold handleRegister
  cases hr : resolve g.satellites req newID now with
  | none =>
    refine ⟨none, rfl, rfl, by simp, fun _ _ => rfl, by simp, ?_⟩
    exact fun g' lat hn id hid => find?_handleDisconnect hn hid
  | some r =>
    obtain ⟨t, id⟩ := r
    obtain ⟨hc, hw⟩ := resolve_spec hr
    have ht : ChangesOnly g.satellites (populateTags t req id) id := changesOnly_populateTags hc
    refine ⟨some id, rfl, rfl, ?_, ?_, ?_, ?_⟩
    · rintro oth ⟨⟩
      exact ht.present
    · intro oth hne
      exact ht.others oth fun heq => hne (heq ▸ rfl)
    · rintro oth ⟨⟩
      exact hw
    · exact fun g' lat hn oth hid => find?_handleDisconnect hn hid

end

/-! ## 4. Rows of other machines -/

def twoMachines : SatelliteRows Nat where
  rows :=
    [ { id := 1, name := "web", ownerID := 0, fingerprint := some "first", status := .active
        version := "", os := "", arch := "", availableAgents := [], tags := [], createdAt := 10
        updatedAt := 10 },
      { id := 2, name := "db", ownerID := 0, fingerprint := none, status := .pending
        version := "", os := "", arch := "", availableAgents := [], tags := [], createdAt := 20
        updatedAt := 20 } ]
  primaryKey := by decide
  uniqueName := by decide
  uniqueFingerprint := by decide

def requestOf (hostname : String) : RegisterRequest :=
  { satelliteID := hostname, fingerprint := "second", version := "", os := "", arch := ""
    availableAgents := [] }

/-- A machine with the name of a registered one takes over its row, and one
that matches no row takes the pending one. -/
theorem rows_taken_over :
    let after (hostname : String) :=
      (handleRegister ⟨twoMachines, StreamRegistry.new⟩ (requestOf hostname) () 3 30).1.satellites
    ((after "web").find? 1).map SatelliteRow.fingerprint = some (some "second") ∧
      ((after "mail").find? 2).map SatelliteRow.fingerprint = some (some "second") := by
  decide

end Daao.Gateway

/-
Daao.Api.AgentVersionsTheorems — what a rollback restores, and which
definitions are still recorded after updates.

A snapshot has no key that is `tools_config` up to case, so the decoded
struct has the empty text for it, and the database refuses that text: a
rollback to a stored snapshot changes nothing. An update stores what it
replaces unless its version was stored before (`recorded_iff`).
-/
import Daao.Api.AgentVersions
import Daao.Api.AgentsTheorems

namespace Daao.Api

open Daao.Lib Daao.Database List Option VersionAct AgentRows

/-! ## 1. Decoding a snapshot -/

section

variable {Id : Type} [Uuid Id] (timeText : Nat → String) (agent : Database.AgentDefinition Id)

theorem keys_marshalAgent :
    (marshalAgent timeText agent).map Prod.fst
      = ["ID", "Name", "DisplayName", "Description", "Version", "Type", "Category", "Icon",
          "Provider", "Model", "SystemPrompt", "ToolsConfig", "Guardrails", "Schedule", "Trigger",
          "OutputConfig", "Routing", "IsBuiltin", "IsEnterprise", "CreatedAt", "UpdatedAt"] := rfl

theorem nodup_keys_marshalAgent : ((marshalAgent timeText agent).map Prod.fst).Nodup := by
  rw [keys_marshalAgent]
  decide

theorem foldName_ne_toolsConfig {agent : Database.AgentDefinition Id} {e : String × Json}
    (h : e ∈ marshalAgent timeText agent) : foldName e.1 ≠ foldName "tools_config" := by
  have hk : e.1 ∈ (marshalAgent timeText agent).map Prod.fst := mem_map_of_mem h
  have ha : ∀ k ∈ (marshalAgent timeText agent).map Prod.fst,
      foldName k ≠ foldName "tools_config" := by
    rw [keys_marshalAgent]
    decide
  exact ha e.1 hk

theorem names_snapshotFields : (snapshotFields.map fun f => foldName f.name).Nodup := by
  decide

theorem toolsConfig_store (f : StructField SnapshotData) (hf : f ∈ snapshotFields)
    (d : SnapshotData) (v : Json) :
    (f.store d v).toolsConfig
      = if f.name = "tools_config" then v.asString.getD d.toolsConfig else d.toolsConfig := by
  simp only [snapshotFields, mem_cons, not_mem_nil, or_false] at hf
  rcases hf with rfl | rfl | rfl | rfl | rfl | rfl | rfl | rfl | rfl | rfl | rfl | rfl | rfl | rfl |
    rfl <;> cases v <;> rfl

theorem toolsConfig_snapshot {Doc : Type} [Jsonb Doc] :
    (decodeFields snapshotFields .zero
      (Jsonb.entries Doc (marshalAgent timeText agent))).toolsConfig = "" := by
  have hp : (Jsonb.entries Doc (marshalAgent timeText agent)).Perm (marshalAgent timeText agent) :=
    Jsonb.entries_perm _ (nodup_keys_marshalAgent timeText agent)
  have hn : lastField Json.asString "tools_config"
      (Jsonb.entries Doc (marshalAgent timeText agent)) = none :=
    lastField_eq_none fun e he => foldName_ne_toolsConfig timeText (hp.mem_iff.mp he)
  rw [get_decodeFields names_snapshotFields (by decide) toolsConfig_store, hn]
  rfl

end

/-! ## 2. Rollbacks -/

section

variable {Id Doc : Type} [DecidableEq Id] [Uuid Id] [Jsonb Doc] (timeText : Nat → String)
  {s : AgentTables Id Doc} {id : Id}

omit [Uuid Id] in
theorem writeAgent_empty {u : Database.AgentDefinition Id}
    {n : Nat} {f : String} (h : u.toolsConfig = "") :
    (writeAgent s id u n f).1 = s := by
  rw [writeAgent, updateAgentDefinition]
  cases getAgentDefinition s.agents id with
  | none => rfl
  | some e => simp [columnsOf_empty h]

variable {agentID : String}

/-- **A rollback to a snapshot changes nothing.** -/
theorem rollback_unchanged {b : Option String}
    (hv : ∀ id v r, Uuid.parse agentID = some id → b = some v →
      s.versions.find? (id, v) = some r →
        ∃ agent : Database.AgentDefinition Id, r.snapshot = marshalAgent timeText agent)
    (dp : Bool) (n : Nat) : (handleRollbackAgent dp s agentID b n).1 = s := by
  unfold handleRollbackAgent
  split
  · rfl
  split
  · rfl
  rename_i id hid
  split
  · rfl
  split
  · rfl
  split
  · rfl
  rename_i v
  split
  · rfl
  split
  · rfl
  rename_i r hr
  obtain ⟨agent, hs⟩ := hv id v r hid rfl hr
  simp only
  split
  · rfl
  refine writeAgent_empty ?_
  simp only [rollbackUpdates, unmarshal, hs]
  exact toolsConfig_snapshot timeText agent

/-- The agent has the columns that an update may change as the old row has
them, and nothing else has changed. -/
structure Restores (id : Id) (old : AgentRow Id Doc) (s s' : AgentTables Id Doc) : Prop where
  definition : (s'.agents.find? id).map AgentRow.definition = some old.definition
  otherColumns : (s'.agents.find? id).map
    (fun row => (row.isBuiltin, row.isEnterprise, row.createdAt))
    = (s.agents.find? id).map fun row => (row.isBuiltin, row.isEnterprise, row.createdAt)
  otherAgents : ∀ id', id' ≠ id → s'.agents.find? id' = s.agents.find? id'
  versions : s'.versions.rows = s.versions.rows

/-- **What a rollback restores.** For every agent that is not built in and
every stored snapshot of it, a rollback restores the definition of the
snapshot just when it is the agent's current definition. -/
theorem rollback_restores_iff {s : AgentTables Id Doc} {row old : AgentRow Id Doc} {taken : Nat}
    (hrow : s.agents.find? old.id = some row)
    (hsnapshot : s.versions.find? (old.id, old.definition.version)
      = some (snapshotRow timeText old taken)) (now : Nat) :
    Restores old.id old s
        (handleRollbackAgent true s (Uuid.text old.id) (some old.definition.version) now).1 ↔
      row.definition = old.definition := by
  have hu : (handleRollbackAgent true s (Uuid.text old.id) (some old.definition.version)
      now).1 = s := by
    refine rollback_unchanged timeText (fun id version row' hid hv hrow' => ?_) true now
    rw [Uuid.parse_text, some_inj] at hid
    rw [some_inj] at hv
    subst hid hv
    rw [hsnapshot, some_inj] at hrow'
    exact ⟨scanAgent old, hrow' ▸ rfl⟩
  rw [hu]
  constructor
  · intro h
    simpa [hrow] using h.definition
  intro h
  exact ⟨by simp [hrow, h], rfl, fun _ _ => rfl, rfl⟩

/-! ## 3. What a snapshot records -/

theorem jsonPointer_injective : Function.Injective jsonPointer := by
  intro a b h
  cases a <;> cases b <;> simp_all [jsonPointer]

omit [DecidableEq Id] in
theorem definition_of_snapshot {r w' : AgentRow Id Doc}
    (h : marshalAgent timeText (scanAgent r) = marshalAgent timeText (scanAgent w')) :
    r.definition = w'.definition := by
  have hma : Function.Injective (Option.map (Jsonb.output : Doc → String)) :=
    map_injective output_injective
  simp only [marshalAgent, scanAgent, cons.injEq, Prod.mk.injEq, Json.str.injEq, true_and,
    jsonPointer_injective.eq_iff, some_inj, output_injective.eq_iff, hma.eq_iff] at h
  rcases r with ⟨_, ⟨_, _, _, _, _, _, _, _, _, _, _, _, _, _, _, _⟩, _, _, _, _⟩
  simp_all only

def AgentVersionOf (v : AgentVersion Id) (d : Definition Doc) : Prop :=
  ∃ row : AgentRow Id Doc, row.definition = d ∧ v.snapshot = marshalAgent timeText (scanAgent row)

def Recorded (s : AgentTables Id Doc) (id : Id) (d : Definition Doc) : Prop :=
  ∃ v ∈ s.versions.rows, v.agentID = id ∧ AgentVersionOf timeText v d

/-- Each stored version was taken of a definition with that version. -/
def Snapshots (s : AgentTables Id Doc) : Prop :=
  ∀ v ∈ s.versions.rows, ∃ row : AgentRow Id Doc, ∃ now, v = snapshotRow timeText row now

variable {d : Definition Doc}

theorem recorded_iff_of_find? (hs : Snapshots timeText s) {v : AgentVersion Id}
    (hv : s.versions.find? (id, d.version) = some v) :
    Recorded timeText s id d ↔ AgentVersionOf timeText v d := by
  constructor
  · rintro ⟨w, hw, rfl, r, rfl, hsn⟩
    obtain ⟨old, n, rfl⟩ := hs w hw
    have hd : old.definition = r.definition := definition_of_snapshot timeText hsn
    have hf := Table.find?_of_mem hw
    simp only [snapshotRow] at hv hf
    rw [← hd, hf, some_inj] at hv
    exact ⟨r, rfl, hv ▸ hsn⟩
  intro hof
  have hk := Table.key_of_find? hv
  exact ⟨v, Table.mem_of_find? hv, congrArg Prod.fst hk, hof⟩

omit [DecidableEq Id] in
theorem Recorded.mono {s' : AgentTables Id Doc}
    (h : Recorded timeText s id d) (hs : s.versions.rows ⊆ s'.versions.rows) :
    Recorded timeText s' id d := by
  obtain ⟨v, hv, hr⟩ := h
  exact ⟨v, hs hv, hr⟩

/-! ## 4. Updates -/

omit [Uuid Id] in
theorem versions_writeAgent (s : AgentTables Id Doc) (id : Id)
    (u : Database.AgentDefinition Id) (n : Nat) (f : String) :
    (writeAgent s id u n f).1.versions = s.versions := by
  unfold writeAgent
  split <;> rfl

omit [Uuid Id] in
theorem find?_writeAgent_ne (s : AgentTables Id Doc) {id' : Id} (hne : id' ≠ id)
    (updates : Database.AgentDefinition Id) (now : Nat) (failure : String) :
    (writeAgent s id updates now failure).1.agents.find? id' = s.agents.find? id' := by
  unfold writeAgent
  split
  · rfl
  · rfl
  rename_i agents u hu
  unfold updateAgentDefinition at hu
  split at hu
  · cases hu
  simp only [bind_eq_bind, bind_eq_some_iff, some.injEq, Prod.mk.injEq] at hu
  obtain ⟨e, -, a', ha, p', -, rfl, -⟩ := hu
  rw [find?_updateByID (by intro row; rfl) ha id', if_neg hne]

structure Snapshotted (id : Id) (now : Nat) (s s' : AgentTables Id Doc) : Prop where
  agents : s'.agents = s.agents
  /-- a version that is stored stays the only one -/
  stored : ∀ row v, s.agents.find? id = some row →
    s.versions.find? (id, row.definition.version) = some v → s'.versions.rows = s.versions.rows
  fresh : ∀ row, s.agents.find? id = some row →
    s.versions.find? (id, row.definition.version) = none →
      s'.versions.rows = s.versions.rows ++ [snapshotRow timeText row now]
  missing : s.agents.find? id = none → s' = s

theorem snapshotted_snapshotAgent (s : AgentTables Id Doc) (id : Id) (now : Nat) :
    Snapshotted timeText id now s (snapshotAgent timeText s id now) := by
  cases hro : s.agents.find? id with
  | none =>
    have hs : snapshotAgent timeText s id now = s := by simp [snapshotAgent, hro]
    rw [hs]
    exact ⟨rfl, fun _ _ _ _ => rfl, fun row h => by simp [hro] at h, fun _ => rfl⟩
  | some row =>
    have hid : row.id = id := Table.key_of_find? hro
    subst hid
    have hk : (row.id, row.definition.version)
        = ((snapshotRow timeText row now).agentID, (snapshotRow timeText row now).version) := rfl
    have heq : snapshotAgent timeText s row.id now
        = ((s.versions.insert (snapshotRow timeText row now)).map fun versions =>
            { s with versions := versions }).getD s := by grind [snapshotAgent, createAgentVersion]
    rw [heq]
    cases hi : s.versions.insert (snapshotRow timeText row now) with
    | none =>
      refine ⟨rfl, fun _ _ _ _ => rfl, fun r' hro' hn => ?_, fun h => by simp [hro] at h⟩
      rw [hro, some_inj] at hro'
      subst hro'
      obtain ⟨versions, hve⟩ := Table.exists_insert (snapshotRow timeText row now) hn
      simp [hi] at hve
    | some versions =>
      obtain ⟨hn, hr⟩ := Table.insert_eq_some hi
      refine ⟨rfl, fun r' v hro' hv => ?_, fun r' hro' _ => ?_, fun h => by simp [hro] at h⟩
      · grind
      · grind

theorem handleUpdateAgent_spec
    (hid : Uuid.parse agentID = some id) (b : Option UpdateAgentRequest) (n : Nat) :
    (handleUpdateAgent timeText true s agentID b n).1.versions
        = (snapshotAgent timeText s id n).versions
      ∧ ∀ id', id' ≠ id →
        (handleUpdateAgent timeText true s agentID b n).1.agents.find? id'
          = s.agents.find? id' := by
  have ha := (snapshotted_snapshotAgent timeText s id n).agents
  rw [← ha]
  simp only [handleUpdateAgent, hid, Bool.not_true, Bool.false_eq_true, if_false]
  split
  · exact ⟨rfl, fun _ _ => rfl⟩
  split
  · exact ⟨rfl, fun _ _ => rfl⟩
  split
  · exact ⟨rfl, fun _ _ => rfl⟩
  split
  · exact ⟨rfl, fun _ _ => rfl⟩
  · exact ⟨versions_writeAgent _ _ _ _ _, fun id' hne => find?_writeAgent_ne _ hne _ _ _⟩

theorem versions_subset (s : AgentTables Id Doc) (id : Id) (n : Nat) :
    s.versions.rows ⊆ (snapshotAgent timeText s id n).versions.rows := by
  have hs := snapshotted_snapshotAgent timeText s id n
  cases hr : s.agents.find? id with
  | none => rw [hs.missing hr]; exact List.Subset.refl _
  | some row =>
    cases hv : s.versions.find? (id, row.definition.version) with
    | none => rw [hs.fresh row hr hv]; exact subset_append_left _ _
    | some v => rw [hs.stored row v hr hv]; exact List.Subset.refl _

theorem apply_rollback (hs : Snapshots timeText s) (agentID : String)
    (v : Option String) (n : Nat) :
    (rollback agentID v n).apply timeText s = s := by
  refine rollback_unchanged timeText (fun id v r _ _ hr => ?_) true n
  obtain ⟨old, t, rfl⟩ := hs r (Table.mem_of_find? hr)
  exact ⟨scanAgent old, rfl⟩

theorem apply_update_of_invalid (hid : (Uuid.parse agentID : Option Id) = none)
    (s : AgentTables Id Doc) (b : Option UpdateAgentRequest) (n : Nat) :
    (update agentID b n).apply timeText s = s := by
  simp [apply, handleUpdateAgent, hid]

theorem snapshots_apply (hs : Snapshots timeText s) (a : VersionAct) :
    Snapshots timeText (a.apply timeText s) := by
  cases a with
  | rollback agentID version now =>
    rw [apply_rollback timeText hs]
    exact hs
  | update agentID body now =>
    cases hid : (Uuid.parse agentID : Option Id) with
    | none =>
      rw [apply_update_of_invalid timeText hid]
      exact hs
    | some id =>
      intro v hv
      rw [apply, (handleUpdateAgent_spec timeText hid body now).1] at hv
      have hsn := snapshotted_snapshotAgent timeText s id now
      cases hr : s.agents.find? id with
      | none =>
        rw [hsn.missing hr] at hv
        exact hs v hv
      | some row =>
        cases hst : s.versions.find? (id, row.definition.version) with
        | some w =>
          rw [hsn.stored row w hr hst] at hv
          exact hs v hv
        | none =>
          rw [hsn.fresh row hr hst, mem_append, mem_singleton] at hv
          rcases hv with hv | rfl
          · exact hs v hv
          · exact ⟨row, now, rfl⟩

/-! ## 5. Runs -/

variable [DecidableEq Doc]

omit [Uuid Id] [Jsonb Doc] in
theorem mem_replacedDefinitions {s' : AgentTables Id Doc} :
    (id, d) ∈ replacedDefinitions s s' ↔
      ∃ r, s.agents.find? id = some r ∧ r.definition = d
        ∧ (s'.agents.find? id).map AgentRow.definition ≠ some d := by
  simp only [replacedDefinitions, List.mem_map, mem_filter, decide_eq_true_eq, Prod.mk.injEq]
  constructor
  · grind [Table.find?_of_mem]
  · grind [Table.key_of_find?, Table.mem_of_find?]

/-- The version of the agent's current definition is not stored for another
definition, or the request leaves the definition as it is. -/
def VersionFree (s : VersionHistory Id Doc) : VersionAct → Prop
  | .update agentID body now => ∀ id row v, Uuid.parse agentID = some id →
      s.tables.agents.find? id = some row →
      s.tables.versions.find? (id, row.definition.version) = some v →
        AgentVersionOf timeText v row.definition
          ∨ (((VersionAct.update agentID body now).apply timeText s.tables).agents.find? id).map
              AgentRow.definition = some row.definition
  | .rollback .. => True

def AllRecorded (s : VersionHistory Id Doc) : Prop :=
  ∀ id d, (id, d) ∈ s.replaced → Recorded timeText s.tables id d

theorem recorded_update_iff {s : VersionHistory Id Doc} (hs : Snapshots timeText s.tables)
    (agentID : String) (b : Option UpdateAgentRequest) (n : Nat) :
    VersionFree timeText s (.update agentID b n) ↔
      ∀ id d, (id, d) ∈ replacedDefinitions s.tables
          ((update agentID b n).apply timeText s.tables) →
        Recorded timeText ((update agentID b n).apply timeText s.tables) id d := by
  have hs' := snapshots_apply timeText hs (.update agentID b n)
  cases hid : (Uuid.parse agentID : Option Id) with
  | none =>
    rw [apply_update_of_invalid timeText hid]
    refine ⟨fun _ id d hr => ?_, fun _ id row v h => by rw [hid] at h; cases h⟩
    obtain ⟨row, hrw, rfl, hne⟩ := mem_replacedDefinitions.mp hr
    exact absurd (by rw [hrw]; rfl) hne
  | some id =>
    obtain ⟨hv, ho⟩ := handleUpdateAgent_spec timeText (s := s.tables) hid b n
    have hsn := snapshotted_snapshotAgent timeText s.tables id n
    constructor
    · intro hf id' d hr
      obtain ⟨row, hrw, rfl, hne⟩ := mem_replacedDefinitions.mp hr
      -- no other agent is changed
      have hid' : id' = id := by
        by_contra hot
        exact hne (by rw [apply, ho id' hot, hrw]; rfl)
      subst hid'
      cases hst : s.tables.versions.find? (id', row.definition.version) with
      | none =>
        have hid : row.id = id' := Table.key_of_find? hrw
        refine ⟨snapshotRow timeText row n, ?_, hid, row, rfl, rfl⟩
        rw [apply, hv, hsn.fresh row hrw hst]
        exact mem_append_right _ (mem_singleton_self _)
      | some v =>
        rcases hf id' row v hid hrw hst with hof | hsa
        · have hrc := (recorded_iff_of_find? timeText hs hst).mpr hof
          refine hrc.mono timeText ?_
          rw [apply, hv]
          exact versions_subset timeText s.tables id' n
        · exact absurd hsa hne
    · intro hre id' row v hid' hrw hst
      rw [hid, some_inj] at hid'
      subst hid'
      rw [or_iff_not_imp_right]
      intro hne
      have hrc := hre id row.definition (mem_replacedDefinitions.mpr ⟨row, hrw, rfl, hne⟩)
      have hst' : ((update agentID b n).apply timeText s.tables).versions.find?
          (id, row.definition.version) = some v := by
        have hro : ((update agentID b n).apply timeText s.tables).versions.rows
            = s.tables.versions.rows := by
          rw [apply, hv, hsn.stored row v hrw hst]
        rw [Table.find?, hro]
        exact hst
      exact (recorded_iff_of_find? timeText hs' hst').mp hrc

theorem allRecorded_step_iff {s : VersionHistory Id Doc} (hs : Snapshots timeText s.tables)
    (ha : AllRecorded timeText s) (a : VersionAct) :
    VersionFree timeText s a ↔
      ∀ s' ∈ stepVersions timeText s a, Snapshots timeText s'.tables ∧ AllRecorded timeText s' := by
  have hs' := snapshots_apply timeText hs a
  simp only [stepVersions, mem_some_iff, forall_eq', hs', true_and, AllRecorded, mem_append]
  cases a with
  | rollback agentID v now =>
    rw [apply_rollback timeText hs]
    refine ⟨fun _ id d h => ?_, fun _ => trivial⟩
    rcases h with h | h
    · exact ha id d h
    · grind [mem_replacedDefinitions]
  | update agentID body now =>
    rw [recorded_update_iff timeText hs agentID body now]
    have hsu : s.tables.versions.rows
        ⊆ ((update agentID body now).apply timeText s.tables).versions.rows := by
      cases hid : (Uuid.parse agentID : Option Id) with
      | none => rw [apply_update_of_invalid timeText hid]; exact List.Subset.refl _
      | some id =>
        rw [apply, (handleUpdateAgent_spec timeText hid body now).1]
        exact versions_subset timeText s.tables id now
    constructor
    · rintro hn id d (h | h)
      · exact (ha id d h).mono timeText hsu
      · exact hn id d h
    · grind

def noVersions (agents : AgentRows Id Doc) : VersionHistory Id Doc :=
  { tables := { agents := agents, versions := Table.empty }, replaced := [] }

/-- **Replaced definitions.** After every request of a run all definitions
that were replaced are recorded, just when each update of the run that
changes an agent finds no snapshot of another definition under the agent's
version. -/
theorem recorded_iff (agents : AgentRows Id Doc) (acts : List VersionAct) :
    (∀ s ∈ states (stepVersions timeText) (noVersions agents) acts, AllRecorded timeText s) ↔
      Along (stepVersions timeText) (VersionFree timeText) (noVersions agents) acts := by
  have hsn : ∀ s ∈ states (stepVersions timeText) (noVersions agents) acts,
      Snapshots timeText s.tables := by
    refine forall_states_of_invariant (fun s a s' hs hst => ?_) (fun v hv => by cases hv)
    cases hst
    exact snapshots_apply timeText hs a
  have hsa : Snapshots timeText (noVersions agents).tables
      ∧ AllRecorded timeText (noVersions agents) :=
    ⟨fun v hv => (by cases hv), fun id d h => (by cases h)⟩
  rw [← forall_states_iff_along (fun s a (hs : Snapshots timeText s.tables ∧
    AllRecorded timeText s) => allRecorded_step_iff timeText hs.1 hs.2 a) hsa]
  exact ⟨fun h s hs => ⟨hsn s hs, h s hs⟩, fun h s hs => (h s hs).2⟩

end

def snapshotTaken : AgentTables Nat DocText :=
  { agents := oneAgent "1.0.0" "a"
    versions :=
      { rows := [snapshotRow Nat.repr (plainAgent 1 "1.0.0" "a") 1]
        primaryKey := List.nodup_singleton _ } }

theorem rollback_restores_current :
    Restores 1 (plainAgent 1 "1.0.0" "a") snapshotTaken
      (handleRollbackAgent true snapshotTaken (Uuid.text 1) (some "1.0.0") 2).1 := by
  have hr : snapshotTaken.agents.find? (plainAgent 1 "1.0.0" "a").id
      = some (plainAgent 1 "1.0.0" "a") := rfl
  have hs : snapshotTaken.versions.find? (1, "1.0.0")
      = some (snapshotRow Nat.repr (plainAgent 1 "1.0.0" "a") 1) := rfl
  exact (rollback_restores_iff Nat.repr hr hs 2).mpr rfl

def promptRequest (systemPrompt : String) : UpdateAgentRequest :=
  { name := none, displayName := none, description := none, version := none, type := none
    category := none, icon := none, provider := none, model := none
    systemPrompt := some systemPrompt, toolsConfig := none, guardrails := none, schedule := none
    trigger := none, outputConfig := none, routing := none }

def promptUpdated : AgentTables Nat DocText :=
  (handleUpdateAgent Nat.repr true (noVersions (oneAgent "1.0.0" "a")).tables "1"
    (some (promptRequest "b")) 1).1

/-- A rollback to the version before an update is answered with 500, and
the agent keeps the updated system prompt. -/
theorem rollback_fails :
    ((promptUpdated.versions.find? (1, "1.0.0")).bind fun v =>
        (lastEntry "SystemPrompt" v.snapshot).bind Json.asString) = some "a"
      ∧ (handleRollbackAgent true promptUpdated "1" (some "1.0.0") 2).2
          = some (500, .inl "failed to rollback agent")
      ∧ ¬ Restores 1 (plainAgent 1 "1.0.0" "a") promptUpdated
          (handleRollbackAgent true promptUpdated "1" (some "1.0.0") 2).1 := by
  have hp : ((handleRollbackAgent true promptUpdated "1" (some "1.0.0") 2).1.agents.find? 1).map
      (fun row => row.definition.systemPrompt) = some "b" := by
    decide
  refine ⟨by decide, by decide, fun h => ?_⟩
  obtain ⟨row, hr, hd⟩ := map_eq_some_iff.mp h.definition
  rw [hr, map_some, hd] at hp
  exact absurd hp (by decide)

def twoPrompts : List VersionAct :=
  [ .update "1" (some (promptRequest "b")) 1, .update "1" (some (promptRequest "c")) 2 ]

/-- The definition between the two updates is replaced and not recorded. -/
theorem second_prompt_lost :
    ¬ ∀ s ∈ states (stepVersions Nat.repr) (noVersions (oneAgent "1.0.0" "a")) twoPrompts,
      AllRecorded Nat.repr s := by
  intro h
  have hl : (["a", "b"], [some "a"])
      ∈ (states (stepVersions Nat.repr) (noVersions (oneAgent "1.0.0" "a")) twoPrompts).map
        (fun s => (s.replaced.map fun p => p.2.systemPrompt, s.tables.versions.rows.map fun v =>
          (lastEntry "SystemPrompt" v.snapshot).bind Json.asString)) := by
    decide
  obtain ⟨s, hs, heq⟩ := List.mem_map.mp hl
  rw [Prod.mk.injEq] at heq
  obtain ⟨⟨id, d⟩, hr, hb⟩ := List.mem_map.mp (heq.1 ▸ (by decide : "b" ∈ ["a", "b"]))
  obtain ⟨v, hv, -, row, rfl, hsn⟩ := h s hs id d hr
  -- the only stored prompt is the first one
  have hst := List.mem_map_of_mem
    (f := fun v : AgentVersion Nat => (lastEntry "SystemPrompt" v.snapshot).bind Json.asString) hv
  have hp : (lastEntry "SystemPrompt" (marshalAgent Nat.repr (scanAgent row))).bind Json.asString
      = some row.definition.systemPrompt := by
    simp [marshalAgent, scanAgent, lastEntry, Json.asString]
  rw [heq.2, hsn, hp, mem_singleton, some_inj] at hst
  rw [hst] at hb
  exact absurd hb (by decide)

end Daao.Api

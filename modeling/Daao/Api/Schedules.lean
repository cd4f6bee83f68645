/-
Daao.Api.Schedules — schedules and triggers of agents
(`internal/api/schedules.go`).

A handler writes the configuration to `agent_definitions` and then tells
the scheduler. The scheduler of the enterprise edition is not part of the
repository; it is taken as one map from agents to schedules and one from
agents to triggers. `load` is what a restart can read back from the table.
It tells the documents of the two kinds apart by their keys.

All four handlers write the column `schedule`, though migration 026 has a
column for triggers.
-/
import Daao.Api.AgentsTheorems
import Daao.Database.Agents

namespace Daao.Api

open Daao.Lib Daao.Database Function

/-! ## 1. Configurations and their documents -/

/-- `forge.TriggerCondition`; the threshold as the number is written. -/
structure TriggerCondition where
  metric : String
  threshold : String
  operator : String

structure ScheduleConfig (Id : Type) where
  agentID : Id
  cronExpr : String
  satelliteID : Id
  maxRetries : Int

/-- `forge.TriggerConfig`; the cooldown in nanoseconds. -/
structure TriggerConfig (Id : Type) where
  agentID : Id
  condition : TriggerCondition
  satelliteID : Id
  cooldown : Int
  maxRetries : Int

structure Schedule (Id : Type) where
  cronExpr : String
  satelliteID : Id

structure Trigger (Id : Type) where
  condition : TriggerCondition
  satelliteID : Id
  cooldown : Int

structure Scheduler (Id : Type) where
  schedules : Id → Option (Schedule Id)
  triggers : Id → Option (Trigger Id)

def jsonKey (key : String) : Json → Option Json
  | .obj entries => lastEntry key entries
  | _ => none

section

variable {Id : Type} [Uuid Id] (c : ScheduleConfig Id)

def ScheduleConfig.marshal : Json :=
  .obj
    [ ("agent_id", .str (Uuid.text c.agentID)),
      ("cron_expr", .str c.cronExpr),
      ("satellite_id", .str (Uuid.text c.satelliteID)),
      ("max_retries", .int c.maxRetries) ]

def TriggerCondition.marshal (c : TriggerCondition) : Json :=
  .obj [("metric", .str c.metric), ("threshold", .real c.threshold), ("operator", .str c.operator)]

def TriggerConfig.marshal (c : TriggerConfig Id) : Json :=
  .obj
    [ ("agent_id", .str (Uuid.text c.agentID)),
      ("condition", c.condition.marshal),
      ("satellite_id", .str (Uuid.text c.satelliteID)),
      ("cooldown", .int c.cooldown),
      ("max_retries", .int c.maxRetries) ]

def Schedule.read (doc : Json) : Option (Schedule Id) := do
  let cronExpr ← (← jsonKey "cron_expr" doc).asString
  let satelliteID ← Uuid.parse (← (← jsonKey "satellite_id" doc).asString)
  some { cronExpr := cronExpr, satelliteID := satelliteID }

def TriggerCondition.read (doc : Json) : Option TriggerCondition := do
  let metric ← (← jsonKey "metric" doc).asString
  let .real threshold ← jsonKey "threshold" doc | none
  let operator ← (← jsonKey "operator" doc).asString
  some { metric := metric, threshold := threshold, operator := operator }

def Trigger.read (doc : Json) : Option (Trigger Id) := do
  let condition ← TriggerCondition.read (← jsonKey "condition" doc)
  let satelliteID ← Uuid.parse (← (← jsonKey "satellite_id" doc).asString)
  let .int cooldown ← jsonKey "cooldown" doc | none
  some { condition := condition, satelliteID := satelliteID, cooldown := cooldown }

def ScheduleConfig.schedule : Schedule Id :=
  { cronExpr := c.cronExpr, satelliteID := c.satelliteID }

def TriggerConfig.toTrigger (c : TriggerConfig Id) : Trigger Id :=
  { condition := c.condition, satelliteID := c.satelliteID, cooldown := c.cooldown }

@[simp] theorem read_schedule : Schedule.read c.marshal = some c.schedule := by
  simp [Schedule.read, ScheduleConfig.marshal, jsonKey, lastEntry, Json.asString, Uuid.parse_text,
    ScheduleConfig.schedule]

@[simp] theorem read_trigger (c : TriggerConfig Id) :
    Trigger.read c.marshal = some c.toTrigger := by
  simp [Trigger.read, TriggerCondition.read, TriggerConfig.marshal, TriggerCondition.marshal,
    jsonKey, lastEntry, Json.asString, Uuid.parse_text, TriggerConfig.toTrigger]

@[simp] theorem read_schedule_of_trigger (c : TriggerConfig Id) :
    (Schedule.read c.marshal : Option (Schedule Id)) = none := by
  simp [Schedule.read, TriggerConfig.marshal, jsonKey, lastEntry]

@[simp] theorem read_trigger_of_schedule :
    (Trigger.read c.marshal : Option (Trigger Id)) = none := by
  simp [Trigger.read, ScheduleConfig.marshal, jsonKey, lastEntry]

end

/-! ## 2. The handlers -/

structure SetScheduleRequest (Id : Type) where
  cronExpr : String
  satelliteID : Id
  maxRetries : Int

structure SetTriggerRequest (Id : Type) where
  condition : TriggerCondition
  satelliteID : Id
  cooldown : Int
  maxRetries : Int

/-- A request; the id is the path's, and a body that is no JSON for the
handler's struct is `none`. -/
inductive ScheduleRequest (Id : Type) where
  | setSchedule (id : String) (body : Option (SetScheduleRequest Id))
  | deleteSchedule (id : String)
  | setTrigger (id : String) (body : Option (SetTriggerRequest Id))
  | deleteTrigger (id : String)

inductive ScheduleReply (Id : Type) where
  | ok (agentID : Id)
  | error (status : Nat) (message : String)

structure ScheduleHost where
  enterprise : Bool
  /-- `cron.ParseStandard`: an error, or the run that follows a time, if there is one -/
  parseStandard : String → Except String (Nat → Option Nat)
  /-- the readings of the clock for the check and for the row, in nanoseconds -/
  now : Nat
  later : Nat
  execFails : Bool
  registerFails : Bool

structure ScheduleState (Id : Type) where
  agents : AgentRows Id Json
  scheduler : Scheduler Id

def minute : Nat := 60 * 1000000000

def validateCronExpression (host : ScheduleHost) (cronExpr : String) : Except String Unit :=
  match host.parseStandard cronExpr with
  | .error e => .error ("invalid cron expression: " ++ e)
  | .ok next =>
    match next host.now with
    | none => .error "cron expression produces no valid run times"
    | some run =>
      if (run : Int) - host.later < minute then
        .error "cron expression fires more than once per minute (minimum interval is 1 minute)"
      else .ok ()

def orDefault {α : Type} [DecidableEq α] (zero default value : α) : α :=
  if value = zero then default else value

def validOperators : List String := ["gt", "lt", "eq", "gte", "lte"]

section

variable {Id : Type} [DecidableEq Id]

def AgentRow.withSchedule (doc : Option Json) (now : Nat) (row : AgentRow Id Json) :
    AgentRow Id Json :=
  { row with definition := { row.definition with schedule := doc }, updatedAt := now }

variable (t : AgentRows Id Json)

/-- `UPDATE agent_definitions SET schedule = doc, updated_at = NOW() WHERE
id = id`. -/
def setScheduleColumn (id : Id) (doc : Option Json) (now : Nat) : AgentRows Id Json :=
  (t.updateByID id (AgentRow.withSchedule doc now)).getD t

namespace Scheduler

variable (sch : Scheduler Id)

def registerSchedule (agentID : Id) (schedule : Schedule Id) : Scheduler Id :=
  { sch with schedules := Function.update sch.schedules agentID (some schedule) }

def registerTrigger (agentID : Id) (trigger : Trigger Id) : Scheduler Id :=
  { sch with triggers := Function.update sch.triggers agentID (some trigger) }

def removeSchedule (agentID : Id) : Scheduler Id :=
  { sch with schedules := Function.update sch.schedules agentID none }

def removeTrigger (agentID : Id) : Scheduler Id :=
  { sch with triggers := Function.update sch.triggers agentID none }

end Scheduler

variable [Uuid Id]

def withAgent (host : ScheduleHost) (id : String) (s : ScheduleState Id)
    (handle : Id → ScheduleReply Id × ScheduleState Id) : ScheduleReply Id × ScheduleState Id :=
  if !host.enterprise then (.error 403 "scheduled sessions requires an enterprise license", s)
  else if id = "" then (.error 400 "agent_id is required", s)
  else
    match Uuid.parse id with
    | none => (.error 400 "invalid agent_id", s)
    | some agentID => handle agentID

/-- The statement, and the call of the scheduler that follows it. A removal
has no failure: it is from a map, and an error would only be logged. -/
def persistThen (host : ScheduleHost) (s : ScheduleState Id) (agentID : Id) (doc : Option Json)
    (persistFailure : String) (registerFailure : Option String)
    (register : Scheduler Id → Scheduler Id) : ScheduleReply Id × ScheduleState Id :=
  if host.execFails then (.error 500 persistFailure, s)
  else
    let agents := setScheduleColumn s.agents agentID doc host.later
    match host.registerFails, registerFailure with
    | true, some message => (.error 500 message, { s with agents := agents })
    | _, _ => (.ok agentID, { agents := agents, scheduler := register s.scheduler })

def handleSetSchedule (host : ScheduleHost) (id : String) (body : Option (SetScheduleRequest Id))
    (s : ScheduleState Id) : ScheduleReply Id × ScheduleState Id :=
  withAgent host id s fun agentID =>
    match body with
    | none => (.error 400 "invalid request body", s)
    | some req =>
      match validateCronExpression host req.cronExpr with
      | .error e => (.error 400 ("invalid cron expression: " ++ e), s)
      | .ok () =>
        let maxRetries := orDefault 0 3 req.maxRetries
        let config : ScheduleConfig Id :=
          { agentID := agentID, cronExpr := req.cronExpr, satelliteID := req.satelliteID
            maxRetries := maxRetries }
        persistThen host s agentID (some config.marshal) "failed to persist schedule"
          (some "failed to register schedule")
          fun sch => sch.registerSchedule agentID ⟨req.cronExpr, req.satelliteID⟩

def handleDeleteSchedule (host : ScheduleHost) (id : String) (s : ScheduleState Id) :
    ScheduleReply Id × ScheduleState Id :=
  withAgent host id s fun agentID =>
    persistThen host s agentID none "failed to remove schedule" none
      fun sch => sch.removeSchedule agentID

def handleSetTrigger (host : ScheduleHost) (id : String) (body : Option (SetTriggerRequest Id))
    (s : ScheduleState Id) : ScheduleReply Id × ScheduleState Id :=
  withAgent host id s fun agentID =>
    match body with
    | none => (.error 400 "invalid request body", s)
    | some req =>
      if req.condition.metric = "" then (.error 400 "condition.metric is required", s)
      else
        let operator := orDefault "" "gt" req.condition.operator
        if operator ∉ validOperators then
          (.error 400 "condition.operator must be one of: gt, lt, eq, gte, lte", s)
        else
          let condition := { req.condition with operator := operator }
          let maxRetries := orDefault 0 3 req.maxRetries
          let cooldown := orDefault 0 (minute * 5 : Int) req.cooldown
          let config : TriggerConfig Id :=
            { agentID := agentID, condition := condition, satelliteID := req.satelliteID
              cooldown := cooldown, maxRetries := maxRetries }
          persistThen host s agentID (some config.marshal) "failed to persist trigger"
            (some "failed to register trigger")
            fun sch => sch.registerTrigger agentID ⟨condition, req.satelliteID, cooldown⟩

def handleDeleteTrigger (host : ScheduleHost) (id : String) (s : ScheduleState Id) :
    ScheduleReply Id × ScheduleState Id :=
  withAgent host id s fun agentID =>
    persistThen host s agentID none "failed to remove trigger" none
      fun sch => sch.removeTrigger agentID

def serveSchedule (host : ScheduleHost) (s : ScheduleState Id) :
    ScheduleRequest Id → ScheduleReply Id × ScheduleState Id
  | .setSchedule id body => handleSetSchedule host id body s
  | .deleteSchedule id => handleDeleteSchedule host id s
  | .setTrigger id body => handleSetTrigger host id body s
  | .deleteTrigger id => handleDeleteTrigger host id s

/-! ## 3. What can be read back -/

def load (agents : AgentRows Id Json) : Scheduler Id where
  schedules agentID := (agents.find? agentID).bind fun row =>
    row.definition.schedule.bind Schedule.read
  triggers agentID := (agents.find? agentID).bind fun row =>
    row.definition.schedule.bind Trigger.read

omit [Uuid Id] in
theorem exists_updateByID (id : Id) (d : Option Json) (n : Nat) :
    ∃ t', t.updateByID id (AgentRow.withSchedule d n) = some t' := by
  have ht : ∀ r ∈ t.rows.map fun r =>
      if r.id = id then AgentRow.withSchedule d n r else r,
      r.definition.type ∈ validTypes := by
    intro r hr
    obtain ⟨old, hold, rfl⟩ := List.mem_map.mp hr
    have hty := t.typeCheck old hold
    split <;> exact hty
  have hi := map_column_ite AgentRow.id (fun r => r.id = id)
    (AgentRow.withSchedule d n) (fun _ => rfl) t.rows
  have hn := map_column_ite (fun r => r.definition.name) (fun r => r.id = id)
    (AgentRow.withSchedule d n) (fun _ => rfl) t.rows
  unfold AgentRows.updateByID AgentRows.ofRows
  rw [dif_pos ⟨hi ▸ t.primaryKey, hn ▸ t.uniqueName, ht⟩]
  exact ⟨_, rfl⟩

omit [Uuid Id] in
theorem find?_setScheduleColumn (id : Id) (doc : Option Json) (now : Nat) (id' : Id) :
    (setScheduleColumn t id doc now).find? id' =
      if id' = id then (t.find? id').map (AgentRow.withSchedule doc now) else t.find? id' := by
  obtain ⟨t', ht'⟩ := exists_updateByID t id doc now
  rw [setScheduleColumn, ht', Option.getD_some]
  exact AgentRows.find?_updateByID (by intro r; rfl) ht' id'

theorem load_setScheduleColumn (id : Id) (d : Option Json) (n : Nat) :
    load (setScheduleColumn t id d n) =
      { schedules := update (load t).schedules id
          (if (t.find? id).isSome then d.bind Schedule.read else none)
        triggers := update (load t).triggers id
          (if (t.find? id).isSome then d.bind Trigger.read else none) } := by
  unfold load
  congr 1 <;>
  · funext id'
    simp only [find?_setScheduleColumn, update_apply]
    split
    · rename_i h
      subst h
      cases t.find? id' <;> simp [AgentRow.withSchedule]
    · rfl

/-! ## 4. Successful requests -/

def ScheduleRequest.pathID : ScheduleRequest Id → String
  | .setSchedule id _ => id
  | .deleteSchedule id => id
  | .setTrigger id _ => id
  | .deleteTrigger id => id

inductive Done (s : ScheduleState Id) (now : Nat) (agentID : Id) :
    ScheduleRequest Id → ScheduleState Id → Prop where
  | setSchedule (id : String) (body : Option (SetScheduleRequest Id)) (config : ScheduleConfig Id) :
    Done s now agentID (.setSchedule id body)
      { agents := setScheduleColumn s.agents agentID (some config.marshal) now
        scheduler := s.scheduler.registerSchedule agentID config.schedule }
  | deleteSchedule (id : String) : Done s now agentID (.deleteSchedule id)
      { agents := setScheduleColumn s.agents agentID none now
        scheduler := s.scheduler.removeSchedule agentID }
  | setTrigger (id : String) (body : Option (SetTriggerRequest Id)) (config : TriggerConfig Id) :
    Done s now agentID (.setTrigger id body)
      { agents := setScheduleColumn s.agents agentID (some config.marshal) now
        scheduler := s.scheduler.registerTrigger agentID config.toTrigger }
  | deleteTrigger (id : String) : Done s now agentID (.deleteTrigger id)
      { agents := setScheduleColumn s.agents agentID none now
        scheduler := s.scheduler.removeTrigger agentID }

variable {agentID : Id} {host : ScheduleHost} {s s' : ScheduleState Id}

omit [DecidableEq Id] in
theorem withAgent_ok {id : String} {handle : Id → ScheduleReply Id × ScheduleState Id}
    (h : withAgent host id s handle = (.ok agentID, s')) :
    ∃ g, Uuid.parse id = some g ∧ handle g = (.ok agentID, s') := by
  unfold withAgent at h
  split at h
  · cases h
  · grind

omit [Uuid Id] in
theorem persistThen_ok {agent : Id}
    {doc : Option Json} {persistFailure : String} {registerFailure : Option String}
    {register : Scheduler Id → Scheduler Id}
    (h : persistThen host s agent doc persistFailure registerFailure register = (.ok agentID, s')) :
    agent = agentID ∧ s' = { agents := setScheduleColumn s.agents agent doc host.later
                             scheduler := register s.scheduler } := by
  unfold persistThen at h
  split at h
  · cases h
  · grind

theorem done_of_ok {req : ScheduleRequest Id} (h : serveSchedule host s req = (.ok agentID, s')) :
    Uuid.parse req.pathID = some agentID ∧ Done s host.later agentID req s' := by
  cases req with
  | setSchedule id body =>
    obtain ⟨agent, hp, h⟩ := withAgent_ok h
    split at h
    · cases h
    split at h
    · cases h
    obtain ⟨rfl, rfl⟩ := persistThen_ok h
    exact ⟨hp, .setSchedule id _ _⟩
  | deleteSchedule id =>
    obtain ⟨agent, hp, h⟩ := withAgent_ok h
    obtain ⟨rfl, rfl⟩ := persistThen_ok h
    exact ⟨hp, .deleteSchedule id⟩
  | setTrigger id body =>
    obtain ⟨agent, hp, h⟩ := withAgent_ok h
    split at h
    · cases h
    simp only at h
    split at h
    · cases h
    split at h
    · cases h
    obtain ⟨rfl, rfl⟩ := persistThen_ok h
    exact ⟨hp, .setTrigger id _ ⟨_, _, _, _, _⟩⟩
  | deleteTrigger id =>
    obtain ⟨agent, hp, h⟩ := withAgent_ok h
    obtain ⟨rfl, rfl⟩ := persistThen_ok h
    exact ⟨hp, .deleteTrigger id⟩

/-! ## 5. Sequences of requests -/

def stepSchedules (s : ScheduleState Id) (a : ScheduleHost × ScheduleRequest Id) :
    Option (ScheduleState Id) :=
  match serveSchedule a.1 s a.2 with
  | (.ok _, s') => some s'
  | (.error _ _, _) => none

/-- The scheduler has what a restart would give it. -/
def Restored (s : ScheduleState Id) : Prop := load s.agents = s.scheduler

def restart (agents : AgentRows Id Json) : ScheduleState Id :=
  { agents := agents, scheduler := load agents }

/-- The deletion of one kind leaves the other, in the table and in the
scheduler. -/
def KeepsOther (s : ScheduleState Id) (a : ScheduleHost × ScheduleRequest Id) : Prop :=
  ∀ s' ∈ stepSchedules s a,
    match a.2 with
    | .deleteSchedule _ =>
      (load s'.agents).triggers = (load s.agents).triggers ∧
        s'.scheduler.triggers = s.scheduler.triggers
    | .deleteTrigger _ =>
      (load s'.agents).schedules = (load s.agents).schedules ∧
        s'.scheduler.schedules = s.scheduler.schedules
    | _ => True

/-- The request is for an agent that has nothing of the other kind, and if
it sets something, the agent has a row. -/
def OneKind (s : ScheduleState Id) (a : ScheduleHost × ScheduleRequest Id) : Prop :=
  ∀ agentID ∈ (Uuid.parse a.2.pathID : Option Id),
    match a.2 with
    | .setSchedule .. => (s.agents.find? agentID).isSome ∧ s.scheduler.triggers agentID = none
    | .deleteSchedule _ => s.scheduler.triggers agentID = none
    | .setTrigger .. => (s.agents.find? agentID).isSome ∧ s.scheduler.schedules agentID = none
    | .deleteTrigger _ => s.scheduler.schedules agentID = none

variable {a : ScheduleHost × ScheduleRequest Id}

theorem stepSchedules_eq_some (h : stepSchedules s a = some s') :
    ∃ agentID, Uuid.parse a.2.pathID = some agentID ∧ Done s a.1.later agentID a.2 s' := by
  unfold stepSchedules at h
  split at h
  · rename_i agentID s₁ hs
    cases h
    exact ⟨agentID, done_of_ok hs⟩
  · cases h

omit [Uuid Id] in
theorem update_ite_eq_iff {β : Type} (f : Id → Option β) (id : Id) (c : Bool) (v : β) :
    update f id (if c = true then some v else none) = update f id (some v) ↔
      c = true := by
  rw [(update_injective f id).eq_iff]
  cases c <;> simp

theorem restored_step_iff (hs : Restored s) (h : stepSchedules s a = some s') :
    OneKind s a ↔ Restored s' := by
  obtain ⟨host, r⟩ := a
  obtain ⟨agentID, hp, hd⟩ := stepSchedules_eq_some h
  have hl : load s.agents = s.scheduler := hs
  unfold OneKind Restored
  simp only [hp, Option.mem_some_iff, forall_eq']
  cases hd <;> rw [load_setScheduleColumn, hl]
  case setSchedule id body config =>
    simp [Scheduler.registerSchedule, update_ite_eq_iff, eq_comm (a := none)]
  case deleteSchedule id =>
    simp [Scheduler.removeSchedule, eq_comm (a := none)]
  case setTrigger id body config =>
    simp [Scheduler.registerTrigger, update_ite_eq_iff, eq_comm (a := none), and_comm]
  case deleteTrigger id =>
    simp [Scheduler.removeTrigger, eq_comm (a := none)]

theorem keepsOther_of_restored (hs : Restored s) (hn : ∀ s' ∈ stepSchedules s a, Restored s') :
    KeepsOther s a := by
  intro s' h
  obtain ⟨host, r⟩ := a
  have hs' : load s'.agents = s'.scheduler := hn s' h
  obtain ⟨agentID, -, hd⟩ := stepSchedules_eq_some h
  have hl : load s.agents = s.scheduler := hs
  rw [hl, hs']
  cases hd with
  | setSchedule => trivial
  | deleteSchedule => exact ⟨rfl, rfl⟩
  | setTrigger => trivial
  | deleteTrigger => exact ⟨rfl, rfl⟩

/-- **Schedules and triggers.** Throughout a sequence of successful
requests after a restart, what is registered is what a restart reads back,
and a deletion leaves the other kind, just when each request is for an
agent with nothing of the other kind, and sets something only for an agent
that has a row. -/
theorem restored_iff {agents : AgentRows Id Json} {acts : List (ScheduleHost × ScheduleRequest Id)}
    {s : ScheduleState Id} (hrun : run stepSchedules (restart agents) acts = some s) :
    ((∀ s' ∈ states stepSchedules (restart agents) acts, Restored s') ∧
        Along stepSchedules KeepsOther (restart agents) acts) ↔
      Along stepSchedules OneKind (restart agents) acts := by
  have hi := forall_states_iff_along_of_run
    (fun s a s' hs h => restored_step_iff (a := a) hs h)
      (show Restored (restart agents) from rfl) hrun
  rw [← hi]
  refine ⟨And.left, fun hal => ⟨hal, ?_⟩⟩
  have hk : ∀ (s : ScheduleState Id) a, Restored s → OneKind s a → KeepsOther s a := by
    intro s a hs ha
    exact keepsOther_of_restored hs fun s' h => (restored_step_iff hs h).mp ha
  exact along_of_invariant (fun s a s' hs ha h => (restored_step_iff hs h).mp ha) hk
    (show Restored (restart agents) from rfl) (hi.mp hal)

end

/-! ## 6. A schedule and a trigger -/

def hourly : ScheduleHost where
  enterprise := true
  parseStandard := fun _ => .ok fun now => some (now + 60 * minute)
  now := 0
  later := 0
  execFails := false
  registerFails := false

def unscheduledAgent : AgentRows Nat Json where
  rows :=
    [ { id := 1
        definition :=
          { name := "agent", displayName := "Agent", description := none, version := "1.0.0"
            type := "specialist", category := "operations", icon := none, provider := "local"
            model := "small", systemPrompt := "", toolsConfig := .obj [], guardrails := .obj []
            schedule := none, trigger := none, outputConfig := none, routing := none }
        isBuiltin := false, isEnterprise := false, createdAt := 0, updatedAt := 0 } ]
  primaryKey := List.nodup_singleton _
  uniqueName := List.nodup_singleton _
  typeCheck := by simp [validTypes]

def setHourly : ScheduleHost × ScheduleRequest Nat :=
  (hourly, .setSchedule "1" (some { cronExpr := "0 * * * *", satelliteID := 7, maxRetries := 0 }))

def setHighLoad : ScheduleHost × ScheduleRequest Nat :=
  (hourly, .setTrigger "1" (some
    { condition := { metric := "cpu", threshold := "90", operator := "" }, satelliteID := 7
      cooldown := 0, maxRetries := 0 }))

/-- The schedule is deleted before the trigger is set. -/
theorem restored_one_by_one :
    ∃ s, run stepSchedules (restart unscheduledAgent)
        [setHourly, (hourly, .deleteSchedule "1"), setHighLoad] = some s ∧ Restored s := by
  have ho : Along stepSchedules OneKind (restart unscheduledAgent)
      [setHourly, (hourly, .deleteSchedule "1"), setHighLoad] := by
    refine ⟨?_, fun s₁ h₁ => ?_⟩
    · rintro agentID ⟨⟩
      exact ⟨rfl, rfl⟩
    cases h₁
    refine ⟨?_, fun s₂ h₂ => ?_⟩
    · rintro agentID ⟨⟩
      rfl
    cases h₂
    refine ⟨?_, fun _ _ => trivial⟩
    rintro agentID ⟨⟩
    exact ⟨rfl, rfl⟩
  obtain ⟨s, hr⟩ : ∃ s, run stepSchedules (restart unscheduledAgent)
      [setHourly, (hourly, .deleteSchedule "1"), setHighLoad] = some s := ⟨_, rfl⟩
  exact ⟨s, hr, ((restored_iff hr).mpr ho).1 s (mem_states_of_run hr)⟩

/-- A trigger that is set after a schedule takes its place in the table, so
nothing that reads the table can tell whether the schedule is
registered. -/
theorem schedule_unreadable :
    ¬ ∃ read : AgentRows Nat Json → Scheduler Nat, ∀ acts s,
      run stepSchedules (restart unscheduledAgent) acts = some s → read s.agents = s.scheduler := by
  rintro ⟨read, hr⟩
  obtain ⟨s, s', hru, hru', ha, hs, hs'⟩ : ∃ s s',
      run stepSchedules (restart unscheduledAgent) [setHourly, setHighLoad] = some s ∧
        run stepSchedules (restart unscheduledAgent) [setHighLoad] = some s' ∧
        s.agents = s'.agents ∧ s.scheduler.schedules 1 = some ⟨"0 * * * *", 7⟩ ∧
        s'.scheduler.schedules 1 = none :=
    ⟨_, _, rfl, rfl, rfl, rfl, rfl⟩
  have hr' := hr _ _ hru
  rw [ha, hr _ _ hru'] at hr'
  rw [← hr', hs'] at hs
  cases hs

/-! ## 7. The check of an expression -/

section

variable (host : ScheduleHost) (next : Nat → Option Nat)

/-- There is a firing time, and two that follow each other are at least a
minute apart. -/
def Spaced : Prop :=
  (∃ t run, next t = some run) ∧
    ∀ t run run', next t = some run → next run = some run' → run + minute ≤ run'

/-- The next firing time is at least a minute after the call. -/
def FiresLater : Prop := ∃ run, next host.now = some run ∧ host.later + minute ≤ run

variable {next} {cronExpr : String}

theorem validateCronExpression_ok_iff (hp : host.parseStandard cronExpr = .ok next) :
    validateCronExpression host cronExpr = .ok () ↔ FiresLater host next := by
  grind [validateCronExpression, FiresLater]

/-- The answer depends on the call: an expression is accepted if the next
firing time is at least a minute away. So one that is to be accepted is
rejected in the last minute before it fires. One that never fires, and one
that always fires within a minute, are rejected as they are to be. -/
theorem validateCronExpression_right (cronExpr : String) (next : Nat → Option Nat)
    (hparse : host.parseStandard cronExpr = .ok next) (hclock : host.now ≤ host.later) :
    (validateCronExpression host cronExpr = .ok () ↔ FiresLater host next) ∧
    (Spaced next →
      ((validateCronExpression host cronExpr = .ok () ↔ Spaced next) ↔ FiresLater host next)) ∧
    ((∀ t, next t = none) ∨ (∀ t, ∃ run, next t = some run ∧ run < t + minute) →
      validateCronExpression host cronExpr ≠ .ok () ∧ ¬ Spaced next) := by
  have hi := validateCronExpression_ok_iff host hparse
  refine ⟨hi, fun hs => by simp [hi, hs], ?_⟩
  rw [Ne, hi]
  rintro (hn | hd)
  · constructor
    · rintro ⟨run, hr, -⟩
      cases (hn _).symm.trans hr
    rintro ⟨⟨t, run, hr⟩, -⟩
    cases (hn t).symm.trans hr
  constructor
  · rintro ⟨run, hr, hle⟩
    obtain ⟨run', hr', hlt⟩ := hd host.now
    cases hr.symm.trans hr'
    omega
  rintro ⟨-, hg⟩
  obtain ⟨run, hr, -⟩ := hd 0
  obtain ⟨run', hr', hlt⟩ := hd run
  exact absurd (hg 0 run run' hr hr') (by omega)

end

/-- On the hour. -/
def onTheHour (t : Nat) : Option Nat := some ((t / (60 * minute) + 1) * (60 * minute))

def hostAt (now : Nat) : ScheduleHost :=
  { hourly with parseStandard := fun _ => .ok onTheHour, now := now, later := now }

theorem spaced_onTheHour : Spaced onTheHour := by
  refine ⟨⟨0, _, rfl⟩, ?_⟩
  rintro t _ _ ⟨⟩ ⟨⟩
  simp only [minute]
  omega

theorem validateCronExpression_right_early :
    validateCronExpression (hostAt 0) "0 * * * *" = .ok () ↔ Spaced onTheHour :=
  ((validateCronExpression_right (hostAt 0) "0 * * * *" onTheHour rfl (Nat.le_refl _)).2.1
    spaced_onTheHour).mpr ⟨_, rfl, by decide⟩

/-- The same expression, half a minute before the hour. -/
theorem validateCronExpression_late :
    Spaced onTheHour ∧ validateCronExpression (hostAt 0) "0 * * * *" = .ok () ∧
      validateCronExpression (hostAt (59 * minute + minute / 2)) "0 * * * *" =
        .error "cron expression fires more than once per minute (minimum interval is 1 minute)" :=
  ⟨spaced_onTheHour, rfl, rfl⟩

end Daao.Api

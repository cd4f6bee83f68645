/-
Daao.Api.AgentList — the paginated list of agents (`HandleListAgents` in
`internal/api/agents.go`).

The handler selects all agents that match the filter and cuts the page out
of them. The first page ends at index `limit`. A later page starts after
the cursor's index `i` and ends at index `i + limit`, so it has at most
`limit - 1` agents, and `len(page) >= limit` is false for it: no second
page has a next cursor. A walk over the pages thus ends after at most two
of them, with the first `2 * limit - 1` agents.
-/
import Daao.Api.AgentsTheorems
import Daao.Database.Agents
import Daao.Lib.GoSlice

namespace Daao.Api

open Daao.Lib Daao.Database List Option Uuid

/-! ## 1. The handler -/

structure AgentListQuery where
  type : String
  category : String
  isBuiltin : String
  isEnterprise : String
  cursor : String
  limit : Option Int

def AgentListQuery.filter (query : AgentListQuery) : AgentFilter :=
  { type := if query.type ≠ "" then some query.type else none
    category := if query.category ≠ "" then some query.category else none
    isBuiltin := if query.isBuiltin ≠ "" then some (query.isBuiltin = "true") else none
    isEnterprise := if query.isEnterprise ≠ "" then some (query.isEnterprise = "true") else none }

structure AgentPage (Id : Type) where
  items : List (Database.AgentDefinition Id)
  count : Nat
  total : Nat
  nextCursor : Option String

section

variable {Id Doc : Type} [Jsonb Doc] [Uuid Id]

/-- `paginatedAgents`; `none` is the panic of a slice out of bounds. -/
def paginateAgents (agents : List (Database.AgentDefinition Id)) (params : PaginationParams) :
    Option (List (Database.AgentDefinition Id)) :=
  if params.cursor ≠ "" then
    match agents.findIdx? fun agent => Uuid.text agent.id = params.cursor with
    | some cursorIdx =>
      goSlice agents ((cursorIdx + 1 : Nat) : Int)
        ((min (cursorIdx + params.limit) agents.length : Nat) : Int)
    | none => some []
  else goSlice agents ((0 : Nat) : Int) ((min params.limit agents.length : Nat) : Int)

def agentPage (agents paginatedAgents : List (Database.AgentDefinition Id)) (limit : Nat) :
    AgentPage Id :=
  { items := paginatedAgents
    count := paginatedAgents.length
    total := agents.length
    nextCursor :=
      if paginatedAgents.length ≥ limit then
        paginatedAgents.getLast?.map fun agent => Uuid.text agent.id
      else none }

def handleListAgents (order : DisplayOrder Id Doc) (dbPool : Bool) (t : AgentRows Id Doc)
    (query : AgentListQuery) : Option (Nat × (String ⊕ AgentPage Id)) :=
  if !dbPool then some (503, .inl "database not configured")
  else
    let params := parsePaginationParams query.cursor query.limit
    let agents := listAgentDefinitions order t query.filter
    (paginateAgents agents params).map fun paginatedAgents =>
      (200, .inr (agentPage agents paginatedAgents params.limit))

/-! ## 2. The walk over the pages -/

/-- The agents that a client gets that asks for the page of each next
cursor; `none` if there are still pages after `fuel` of them, or a request
fails. -/
def walkAgents (order : DisplayOrder Id Doc) (dbPool : Bool) (t : AgentRows Id Doc)
    (query : AgentListQuery) : Nat → String → Option (List (Database.AgentDefinition Id))
  | 0, _ => none
  | fuel + 1, cursor =>
    match handleListAgents order dbPool t { query with cursor := cursor } with
    | some (_, .inr page) =>
      match page.nextCursor with
      | none => some page.items
      | some next => (walkAgents order dbPool t query fuel next).map (page.items ++ ·)
    | _ => none

end

/-! ## 3. What a walk returns -/

section

variable {Id : Type} [Uuid Id]

theorem text_injective : Function.Injective (text : Id → String) := by
  intro id id' h
  have hp : (some id : Option Id) = some id' := by
    rw [← parse_text id, h, parse_text]
  exact some_inj.mp hp

theorem paginateAgents_first (a : List (Database.AgentDefinition Id)) (limit : Nat) :
    paginateAgents a { cursor := "", limit := limit } = some (a.take limit) := by
  have hs := goSlice_natCast a (Nat.zero_le (min limit a.length)) (min_le_right _ _)
  rw [paginateAgents, if_neg (by simp), hs, drop_zero]
  simp

theorem findIdx?_text {agents : List (Database.AgentDefinition Id)}
    (hids : (agents.map Database.AgentDefinition.id).Nodup) {i : Nat} (hi : i < agents.length) :
    agents.findIdx? (fun a => text a.id = text agents[i].id) = some i := by
  rw [findIdx?_eq_some_iff_getElem]
  refine ⟨hi, by simp, fun j hj => ?_⟩
  have hne : agents[j].id ≠ agents[i].id := by
    intro heq
    have hs := inj_on_of_nodup_map hids (getElem_mem _) (getElem_mem _) heq
    have hij := (List.Nodup.of_map _ hids).getElem_inj_iff.mp hs
    omega
  simpa using fun heq => hne (text_injective heq)

theorem paginateAgents_next {a : List (Database.AgentDefinition Id)}
    (hids : (a.map Database.AgentDefinition.id).Nodup) {i limit : Nat} (hl : 1 ≤ limit)
    (hi : i < a.length) :
    paginateAgents a { cursor := text a[i].id, limit := limit }
      = some ((a.take (i + limit)).drop (i + 1)) := by
  have hs := goSlice_natCast a (show i + 1 ≤ min (i + limit) a.length by omega)
    (min_le_right _ _)
  rw [paginateAgents, if_pos (text_ne _), findIdx?_text hids hi]
  simp only [hs]
  congr 2
  rw [take_eq_take_iff]
  omega

theorem nextCursor_agentPage (a p : List (Database.AgentDefinition Id)) {i : Nat} (hl : 1 ≤ i) :
    (agentPage a p i).nextCursor
      = if h : i ≤ p.length then some (text p[p.length - 1].id) else none := by
  rw [agentPage]
  by_cases h : i ≤ p.length
  · grind
  · rw [dif_neg h, if_neg h]

end

section

variable {Id Doc : Type} [Jsonb Doc] [Uuid Id] (order : DisplayOrder Id Doc)
  (t : AgentRows Id Doc) (query : AgentListQuery)

theorem limit_of_pos {c : String} {limit : Int} (h : 1 ≤ limit) :
    (parsePaginationParams c (some limit)).limit = (min limit 200).toNat := by
  have hm : (maxLimit : Int) = 200 := rfl
  simp only [parsePaginationParams]
  by_cases ho : limit > maxLimit
  · rw [if_pos ho]
    omega
  · grind

theorem walkAgents_succ {a page : List (Database.AgentDefinition Id)}
    (ha : listAgentDefinitions order t query.filter = a) {limit : Nat} {cursor : String}
    (hl : (parsePaginationParams cursor query.limit).limit = limit) (hpo : 1 ≤ limit)
    (hp : paginateAgents a { cursor := cursor, limit := limit } = some page) (f : Nat) :
    walkAgents order true t query (f + 1) cursor
      = if h : limit ≤ page.length then
          (walkAgents order true t query f (text page[page.length - 1].id)).map (page ++ ·)
        else some page := by
  have hpa : parsePaginationParams cursor query.limit = { cursor := cursor, limit := limit } := by
    rw [← hl]
    rfl
  have hf : { query with cursor := cursor }.filter = query.filter := rfl
  rw [walkAgents, handleListAgents, hf, ha]
  simp only [Bool.not_true, Bool.false_eq_true, if_false, hpa, hp, map_some,
    nextCursor_agentPage _ page hpo]
  by_cases h : limit ≤ page.length
  · simp [h, agentPage]
  · simp [h, agentPage]

theorem walk_eq_take {limit : Nat} (hl : ∀ c, (parsePaginationParams c query.limit).limit = limit)
    (hpo : 1 ≤ limit) (f : Nat) :
    walkAgents order true t query (f + 2) ""
      = some ((listAgentDefinitions order t query.filter).take (2 * limit - 1)) := by
  generalize ha : listAgentDefinitions order t query.filter = agents
  have hi : (agents.map Database.AgentDefinition.id).Nodup := by
    rw [← ha]
    exact nodup_listAgentDefinitions order t query.filter
  rw [walkAgents_succ order t query ha (hl "") hpo (paginateAgents_first agents limit)]
  by_cases hf : limit ≤ agents.length
  · -- the cursor is the agent at index `limit - 1`, and the page after it is short
    have hla : (agents.take limit)[(agents.take limit).length - 1]? = some agents[limit - 1] := by
      grind
    have hn := paginateAgents_next hi hpo (show limit - 1 < agents.length by omega)
    have hs : ¬ limit ≤ ((agents.take (limit - 1 + limit)).drop (limit - 1 + 1)).length := by
      grind
    have hp : agents.take limit ++ (agents.take (limit - 1 + limit)).drop (limit - 1 + 1)
        = agents.take (2 * limit - 1) := by grind
    rw [dif_pos (by rw [length_take]; omega)]
    rw [some_inj.mp ((getElem?_eq_getElem _).symm.trans hla),
      walkAgents_succ order t query ha (hl _) hpo hn, dif_neg hs,
      map_some, hp]
  · rw [dif_neg (by rw [length_take]; omega), take_of_length_le (by omega),
      take_of_length_le (by omega)]

theorem walkAgents_eq_take {limit : Nat}
    (hl : ∀ c, (parsePaginationParams c query.limit).limit = limit)
    (hp : 1 ≤ limit) {fuel : Nat} {r : List (Database.AgentDefinition Id)}
    (hw : walkAgents order true t query fuel "" = some r) :
    r = (listAgentDefinitions order t query.filter).take (2 * limit - 1) := by
  match fuel, hw with
  | 1, hw =>
    rw [walkAgents_succ order t query rfl (hl "") hp (paginateAgents_first _ limit)] at hw
    split at hw
    · cases hw
    · grind [length_take, take_of_length_le]
  | fuel + 2, hw => grind [walk_eq_take, some_inj]

/-- **The walk over the agents.** With a limit of at least 1, a client that
follows the cursors gets the whole list just when the list has less than
two pages. -/
theorem walk_complete_iff {limit : Int} (hquery : query.limit = some limit) (hlimit : 1 ≤ limit) :
    (∃ fuel, walkAgents order true t query fuel ""
        = some (listAgentDefinitions order t query.filter)) ↔
      ((listAgentDefinitions order t query.filter).length : Int) ≤ 2 * min limit 200 - 1 := by
  have he : ∀ cur, (parsePaginationParams cur query.limit).limit = (min limit 200).toNat := by
    intro cur
    rw [hquery, limit_of_pos hlimit]
  have hp : 1 ≤ (min limit 200).toNat := by omega
  constructor
  · rintro ⟨fuel, hw⟩
    have ha := congrArg List.length (walkAgents_eq_take order t query he hp hw)
    rw [length_take] at ha
    omega
  intro hl
  refine ⟨2, ?_⟩
  rw [walk_eq_take order t query he hp 0, take_of_length_le (by omega)]

end

def storedOrder : DisplayOrder Nat DocText where
  sort rows := rows
  perm _ := List.Perm.refl _

def onePerPage : AgentListQuery :=
  { type := "", category := "", isBuiltin := "", isEnterprise := "", cursor := "", limit := some 1 }

theorem walk_complete_twoAgents :
    ∃ fuel, walkAgents storedOrder true twoAgents { onePerPage with limit := some 2 } fuel ""
      = some (listAgentDefinitions storedOrder twoAgents onePerPage.filter) :=
  (walk_complete_iff storedOrder twoAgents { onePerPage with limit := some 2 } rfl
    (by decide)).mpr (by decide)

/-- The second of two agents is on no page: the page after the first has no
agent and no next cursor. -/
theorem second_agent_missing :
    (walkAgents storedOrder true twoAgents onePerPage 2 "").map
      (List.map Database.AgentDefinition.id)
        = some [1]
      ∧ (listAgentDefinitions storedOrder twoAgents onePerPage.filter).map
          Database.AgentDefinition.id = [1, 2]
      ∧ ¬ ∃ fuel, walkAgents storedOrder true twoAgents onePerPage fuel ""
          = some (listAgentDefinitions storedOrder twoAgents onePerPage.filter) := by
  refine ⟨by decide, by decide, ?_⟩
  rintro ⟨fuel, hw⟩
  have hl : ∀ cur, (parsePaginationParams cur onePerPage.limit).limit = 1 := fun _ => rfl
  have hr := walkAgents_eq_take storedOrder twoAgents onePerPage hl le_rfl hw
  exact absurd (congrArg List.length hr) (by decide)

end Daao.Api

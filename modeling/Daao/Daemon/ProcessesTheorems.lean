/-
Daao.Daemon.ProcessesTheorems — what a kill command and a reconciliation
leave of a session.

Both look at `d.sessions` alone, and stop the one process that is
registered there. That is everything just if no bridge is registered for
the id, and every process of the id that runs is the registered one. A
reconciliation also passes over a session that is TERMINATED locally.
-/
import Daao.Daemon.Processes

namespace Daao.Daemon.Processes

open Daao.Lib Daao.Sessions List Table Function

/-! ## 1. Which processes run -/

section

variable (s : Processes) (pid pid' : Nat) (sessionID sid : String)

theorem runs_setProcess (f : Process → Process) (hf : ∀ p, (f p).session = p.session) :
    (s.setProcess pid f hf).Runs pid' sid ↔
      ∃ p, s.procs[pid']? = some p ∧ p.session = sid ∧
        (if pid = pid' then f p else p).running = true := by
  simp only [Runs, setProcess, getElem?_modify, Option.map_eq_map, Option.map_eq_some_iff]
  constructor
  · grind
  · grind

theorem runs_halt : (s.halt pid).Runs pid' sid ↔ s.Runs pid' sid ∧ pid' ≠ pid := by
  rw [halt, runs_setProcess]
  constructor
  · intro h
    obtain ⟨p, hp, hs, hr⟩ := h
    by_cases heq : pid = pid'
    · grind
    rw [if_neg heq] at hr
    exact ⟨⟨p, hp, hs, hr⟩, symm heq⟩
  intro h
  obtain ⟨⟨p, hp, hs, hr⟩, hne⟩ := h
  exact ⟨p, hp, hs, by rw [if_neg (symm hne)]; exact hr⟩

theorem runs_markReaped : (s.markReaped pid).Runs pid' sid ↔ s.Runs pid' sid := by
  grind [markReaped, runs_setProcess, Runs]

theorem runs_setState (t : SessionState) :
    (s.setState sessionID t).Runs pid sid ↔ s.Runs pid sid := Iff.rfl

theorem runs_close (e : PtySession) :
    (s.close e).Runs pid sid ↔ s.Runs pid sid ∧ pid ≠ e.pid := by
  rw [close, runs_setState, runs_markReaped, runs_halt]

theorem runs_spawn (k : ProcessKind) :
    (s.spawn sessionID k).Runs pid sid ↔
      s.Runs pid sid ∨ pid = s.procs.length ∧ sid = sessionID := by
  simp only [Runs, spawn]
  rcases Nat.lt_trichotomy pid s.procs.length with hlt | heq | hgt
  · grind
  · subst heq
    rw [getElem?_concat_length, getElem?_eq_none (Nat.le_refl _)]
    constructor
    · grind
    · grind
  · grind

end

/-! ## 2. The two handlers -/

section

variable {s : Processes} {sessionID : String}

theorem find?_handleKillCommand (s : Processes) (sessionID k : String) :
    (s.handleKillCommand sessionID).sessions.find? k
      = if k = sessionID then none else s.sessions.find? k := by
  unfold handleKillCommand
  cases hf : s.sessions.find? sessionID with
  | none => grind
  | some e =>
    have hid : e.id = sessionID := key_of_find? hf
    have hr := find?_restrict_ne (s.close e).sessions sessionID k
    simp only [unregister]
    rw [hr]
    split
    · rfl
    rename_i hk
    simp only [close, setState, find?_modify, hid, if_neg hk]
    rfl

theorem bridges_handleKillCommand (s : Processes) (sessionID : String) :
    (s.handleKillCommand sessionID).bridges = s.bridges := by
  unfold handleKillCommand
  split <;> rfl

theorem runs_handleKillCommand (s : Processes) (sessionID : String) (pid : Nat) (sid : String) :
    (s.handleKillCommand sessionID).Runs pid sid ↔
      s.Runs pid sid ∧ ∀ e, s.sessions.find? sessionID = some e → pid ≠ e.pid := by
  unfold handleKillCommand
  cases hf : s.sessions.find? sessionID with
  | none => simp
  | some e =>
    have hr : ((s.close e).unregister sessionID).Runs pid sid ↔ (s.close e).Runs pid sid := Iff.rfl
    rw [hr, runs_close]
    simp

theorem find?_foldl_kill (i : List String) (s : Processes) (k : String) :
    (i.foldl handleKillCommand s).sessions.find? k
      = if k ∈ i then none else s.sessions.find? k := by
  induction i generalizing s with
  | nil => simp
  | cons sid i ih =>
    rw [foldl_cons, ih, find?_handleKillCommand]
    by_cases hk : k = sid
    · simp [hk]
    · simp [hk]

theorem bridges_foldl_kill (i : List String) (s : Processes) :
    (i.foldl handleKillCommand s).bridges = s.bridges := by
  induction i generalizing s with
  | nil => rfl
  | cons sid i ih => rw [foldl_cons, ih, bridges_handleKillCommand]

theorem runs_foldl_kill (i : List String) (s : Processes) (pid : Nat) (k : String) :
    (i.foldl handleKillCommand s).Runs pid k ↔
      s.Runs pid k ∧ ∀ sid ∈ i, ∀ e, s.sessions.find? sid = some e → pid ≠ e.pid := by
  induction i generalizing s with
  | nil => simp
  | cons sid i ih =>
    rw [foldl_cons, ih, runs_handleKillCommand, and_assoc]
    refine and_congr_right fun _ => ?_
    rw [forall_mem_cons]
    refine and_congr_right fun hf => ?_
    -- the first orphan is gone when the others are looked up
    refine forall₂_congr fun d' _ => ?_
    rw [find?_handleKillCommand]
    by_cases hs : d' = sid
    · subst hs
      simpa using hf
    · simp [hs]

theorem mem_orphans {ids : List String} :
    sessionID ∈ s.orphans ids ↔
      ∃ e, s.sessions.find? sessionID = some e ∧ e.state ≠ .terminated ∧
        sessionID ∉ ids := by
  simp only [orphans, mem_map, mem_filter, decide_eq_true_eq]
  constructor
  · grind [find?_of_mem]
  · grind [key_of_find?, mem_of_find?]

theorem find?_setState (s : Processes) (sid : String) (state : SessionState) (k : String) :
    (s.setState sid state).sessions.find? k
      = if k = sid then (s.sessions.find? k).map (fun e => { e with state := state })
        else s.sessions.find? k :=
  s.sessions.find?_modify sid k (fun e => { e with state := state }) fun _ => rfl

def states (s : Processes) : Daemon.Sessions := fun sid =>
  (s.sessions.find? sid).map PtySession.state

theorem states_setState (s : Processes) (sid : String) (state : SessionState) :
    (s.setState sid state).states = Daemon.setState s.states sid state := by
  funext k
  simp only [states, find?_setState, Daemon.setState]
  cases hf : s.sessions.find? sid with
  | none => by_cases hk : k = sid <;> simp [hk, hf, states]
  | some e => by_cases hk : k = sid <;> simp [hk, hf, states]

theorem states_step {m : NexusMessage} {a : Act} {created : Bool}
    (h : m = .startSessionCommand sessionID ∧ a = .startSession sessionID created ∨
      m = .suspendCommand sessionID ∧ a = .suspend sessionID ∨
      m = .resumeCommand sessionID ∧ a = .resume sessionID ∨
      m = .killCommand sessionID ∧ a = .kill sessionID ∨
      ∃ i, m = .sessionReconciliation i ∧ a = .reconcile i) :
    (step s a).map states = some (handleNexusMessage s.states created m) := by
  rcases h with ⟨rfl, rfl⟩ | ⟨rfl, rfl⟩ | ⟨rfl, rfl⟩ | ⟨rfl, rfl⟩ | ⟨i, rfl, rfl⟩
  · cases created with
    | false => rfl
    | true =>
      refine congrArg some (funext fun k => ?_)
      simp only [states, handleStartSessionCommand, if_true, find?_put, handleNexusMessage,
        Daemon.handleStartSessionCommand, update_apply]
      split <;> rfl
  · exact congrArg some (states_setState s sessionID .suspended)
  · exact congrArg some (states_setState s sessionID .running)
  · refine congrArg some (funext fun k => ?_)
    simp only [states, find?_handleKillCommand, handleNexusMessage, Daemon.handleKillCommand,
      update_apply]
    split <;> rfl
  refine congrArg some (funext fun k => ?_)
  have ho : k ∈ s.orphans i ↔ isOrphan s.states i k = true := by
    rw [mem_orphans]
    cases hf : s.sessions.find? k <;> simp [isOrphan, states, hf]
  simp only [states, handleSessionReconciliation, find?_foldl_kill, handleNexusMessage,
    Daemon.handleSessionReconciliation, ho]
  split <;> rfl

/-! ## 3. When nothing is left -/

/-- Every process of the session that runs is the one that is registered. -/
def Registered (s : Processes) (sessionID : String) : Prop :=
  ∀ pid, s.Runs pid sessionID → ∃ sess, s.sessions.find? sessionID = some sess ∧ sess.pid = pid

theorem kill_clears_iff :
    Cleared sessionID (s.handleKillCommand sessionID) ↔
      s.bridges sessionID = none ∧ Registered s sessionID := by
  constructor
  · intro h
    refine ⟨?_, fun pid hr => ?_⟩
    · rw [← bridges_handleKillCommand s sessionID]
      exact h.bridge
    by_contra hn
    refine h.stopped pid ((runs_handleKillCommand s sessionID pid sessionID).mpr ⟨hr, ?_⟩)
    exact fun e hf hp => hn ⟨e, hf, hp.symm⟩
  intro h
  obtain ⟨hb, hre⟩ := h
  refine ⟨fun pid hr => ?_, ?_, ?_⟩
  · obtain ⟨hr, ho⟩ := (runs_handleKillCommand s sessionID pid sessionID).mp hr
    obtain ⟨e, hf, hp⟩ := hre pid hr
    exact ho e hf hp.symm
  · rw [find?_handleKillCommand, if_pos rfl]
  rw [bridges_handleKillCommand]
  exact hb

theorem reconcile_clears_iff {ids : List String} (hi : sessionID ∉ ids) :
    Cleared sessionID (s.handleSessionReconciliation ids) ↔
      s.bridges sessionID = none ∧ Registered s sessionID ∧
        ∀ e, s.sessions.find? sessionID = some e → e.state ≠ .terminated := by
  unfold handleSessionReconciliation
  constructor
  · intro h
    refine ⟨?_, fun pid hr => ?_, fun e hf hs => ?_⟩
    · rw [← bridges_foldl_kill (s.orphans ids) s]
      exact h.bridge
    · by_contra hn
      refine h.stopped pid ((runs_foldl_kill (s.orphans ids) s pid sessionID).mpr ⟨hr, ?_⟩)
      intro sid _ e hf hpi
      -- a process that another session registers is not of this one
      obtain ⟨p, hp, hse, -⟩ := hr
      have ho := s.owned e (mem_of_find? hf) p (hpi ▸ hp)
      have hsi : sid = sessionID := (key_of_find? hf).symm.trans (ho.symm.trans hse)
      exact hn ⟨e, hsi ▸ hf, hpi.symm⟩
    have hk := h.session
    have hn : sessionID ∉ s.orphans ids := by grind [mem_orphans]
    rw [find?_foldl_kill, if_neg hn, hf] at hk
    cases hk
  · intro h
    obtain ⟨hb, hre, hs⟩ := h
    refine ⟨fun pid hr => ?_, ?_, ?_⟩
    · obtain ⟨hr, hot⟩ := (runs_foldl_kill (s.orphans ids) s pid sessionID).mp hr
      obtain ⟨e, hf, hpi⟩ := hre pid hr
      have hor : sessionID ∈ s.orphans ids := mem_orphans.mpr ⟨e, hf, hs e hf, hi⟩
      exact hot sessionID hor e hf hpi.symm
    · rw [find?_foldl_kill]
      split
      · rfl
      rename_i hn
      cases hf : s.sessions.find? sessionID with
      | none => rfl
      | some e => exact absurd (mem_orphans.mpr ⟨e, hf, hs e hf, hi⟩) hn
    rw [bridges_foldl_kill]
    exact hb

/-- **Clearing.** In every state of the daemon, a kill command for an id
and a reconciliation without it leave nothing of it exactly if no bridge
is registered for the id, every process of the id that runs is the one in
`d.sessions`, and the session there is not TERMINATED. -/
theorem clears_iff (s : Processes) (sessionID : String) :
    Clears s sessionID ↔
      s.bridges sessionID = none ∧ Registered s sessionID ∧
        ∀ sess, s.sessions.find? sessionID = some sess → sess.state ≠ .terminated := by
  constructor
  · intro h
    exact (reconcile_clears_iff (not_mem_nil)).mp (h.reconcile [] (not_mem_nil))
  intro h
  exact ⟨kill_clears_iff.mpr ⟨h.1, h.2.1⟩, fun ids hi => (reconcile_clears_iff hi).mpr h⟩

/-- An agent that was deployed runs on and stays registered. -/
theorem agent_survives :
    ∃ s, run step start [.deployAgent "s" true] = some s ∧
      (s.handleKillCommand "s").Runs 0 "s" ∧ (s.handleKillCommand "s").bridges "s" = some 0 ∧
      (s.handleSessionReconciliation []).Runs 0 "s" ∧ ¬ Clears s "s" := by
  refine ⟨start.handleDeployAgentCommand "s" true, rfl, ⟨_, rfl, rfl, rfl⟩, rfl, ⟨_, rfl, rfl, rfl⟩,
    fun h => ?_⟩
  have hb := h.kill.bridge
  cases hb

end

end Daao.Daemon.Processes

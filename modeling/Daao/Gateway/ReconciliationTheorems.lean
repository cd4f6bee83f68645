/-
Daao.Gateway.ReconciliationTheorems — which sessions a reconciliation
message removes.

The list is a snapshot. Everything that is on its way to the satellite
before it must be in it (`Covered`). The list is right when the query runs,
because a row is inserted before its start command is sent. It stays
right unless a start command for a newer session gets in front of it,
between the query and the sending of the list.
-/
import Daao.Gateway.Reconciliation
import Daao.Lib.Progress

namespace Daao.Gateway

open Daao.Lib Daao.Sessions Daao.Stream Daao.Daemon List Outbound Option

/-! ## 1. The table -/

namespace SessionTable

variable {t t' : SessionTable} {id satelliteID : String} {now : Nat}

theorem mem_activeIDs (ha : t.IsActive id) (hof : t.IsOf satelliteID id) :
    id ∈ t.activeIDs satelliteID := by
  obtain ⟨r, hr, hs⟩ := ha
  obtain ⟨w', hr', hsa⟩ := hof
  cases hr.symm.trans hr'
  refine mem_map.mpr ⟨r, mem_filter.mpr ⟨Table.mem_of_find? hr, ?_⟩, Table.key_of_find? hr⟩
  simp [hsa, hs]

theorem createSession_spec (h : t.createSession id satelliteID now = some t') :
    t'.IsOf satelliteID id ∧
      ∀ a i, t.IsOf a i → t'.IsOf a i ∧ (t'.IsActive i → t.IsActive i) := by
  have hf := Table.find?_insert h
  refine ⟨⟨_, (hf id).trans (if_pos rfl), rfl⟩, ?_⟩
  rintro a i ⟨r, hr, hsa⟩
  have hne : i ≠ id := by
    rintro rfl
    cases hr.symm.trans (Table.insert_eq_some h).1
  have hs := (hf i).trans (if_neg hne)
  exact ⟨⟨r, hs.trans hr, hsa⟩, Exists.imp fun _ => And.imp_left hs.symm.trans⟩

theorem transitionSession_spec {ns : SessionState}
    (h : t.transitionSession id ns now = .ok t') (a i : String) (hof : t.IsOf a i) :
    t'.IsOf a i ∧ (t'.IsActive i → t.IsActive i) := by
  obtain ⟨w', hr', hs⟩ := hof
  unfold transitionSession at h
  repeat' split at h
  all_goals cases h
  rename_i r hr _ u hu
  have hf := Table.find?_modify t id i (fun r => { r with session := u }) fun _ => rfl
  by_cases hsi : i = id
  · subst hsi
    rw [if_pos rfl, hr', map_some] at hf
    refine ⟨⟨_, hf, hs⟩, fun _ => ⟨r, hr, fun ht => ?_⟩⟩
    have hv := (transitionSession_ok hu).1
    rw [ht, not_isTransitionValid_terminated] at hv
    cases hv
  rw [if_neg hsi] at hf
  exact ⟨⟨w', hf.trans hr', hs⟩, Exists.imp fun _ => And.imp_left hf.symm.trans⟩

end SessionTable

/-! ## 2. Messages on their way -/

namespace Outbound

variable (conn : Outbound)

def held : Option (List String) :=
  match conn.registration with
  | .queried activeIDs => some activeIDs
  | _ => none

def unsent : List NexusMessage :=
  (conn.held.map .sessionReconciliation).toList

def pending : List NexusMessage :=
  conn.wire ++ conn.outboundCh ++ conn.unsent

end Outbound

namespace Reconciliation

/-- Each list among the messages has every active session that the
satellite may have when it handles it: those that are `present` now and
those that a message before the list starts. -/
def Covered (active : String → Prop) : (String → Prop) → List NexusMessage → Prop
  | _, [] => True
  | present, m :: ms =>
    (∀ ids, m = .sessionReconciliation ids → ∀ sid, present sid → active sid → sid ∈ ids)
      ∧ Covered active (fun sid => present sid ∨ m = .startSessionCommand sid) ms

theorem Covered.mono {a ac' : String → Prop} {ms ms' : List NexusMessage}
    (hsu : ms' <+ ms) : ∀ {pr p' : String → Prop}, Covered a pr ms → (∀ i, p' i → pr i) →
      (∀ i, p' i ∨ .startSessionCommand i ∈ ms' → ac' i → a i) →
      Covered ac' p' ms' := by
  induction hsu with
  | slnil =>
    intro _ _ _ _ _
    trivial
  | cons m _ ih =>
    intro _ _ h hp ha
    exact ih h.2 (fun i hs => .inl (hp i hs)) ha
  | cons_cons m _ ih =>
    intro pr p' h hp ha
    constructor
    · intro d hi i hs hac
      exact h.1 d hi i (hp i hs) (ha i (.inl hs) hac)
    refine ih h.2 (fun i => Or.imp_left (hp i)) fun i hs => ha i ?_
    grind

theorem covered_append {a : String → Prop} (ms ms' : List NexusMessage) :
    ∀ p : String → Prop, Covered a p (ms ++ ms') ↔
      Covered a p ms
        ∧ Covered a (fun i => p i ∨ .startSessionCommand i ∈ ms) ms' := by
  induction ms with
  | nil =>
    simp [Covered]
  | cons m ms ih =>
    intro p
    have hp : (fun i => (p i ∨ m = .startSessionCommand i) ∨ .startSessionCommand i ∈ ms)
        = fun i => p i ∨ .startSessionCommand i ∈ m :: ms := by grind
    rw [cons_append, Covered, Covered, ih, hp, and_assoc]

/-! ## 3. The invariant -/

/-- `active` is the table's; `present` is what the satellite has. -/
def Safe (s : Reconciliation) : Prop :=
  Covered s.table.IsActive (fun sid => (s.sessions sid).isSome) (s.conns s.stream).pending

structure Inv (satellite : String) (s : Reconciliation) : Prop where
  /-- connections the satellite has not opened are unused -/
  unopened : ∀ c, s.stream < c → s.conns c = .new
  /-- the registry has channels of the satellite's connections -/
  streams : ∀ satelliteID c, s.registry.satelliteStreams satelliteID = some c →
    satelliteID = satellite ∧ c ≤ s.stream
  /-- a row comes before its start command -/
  created : ∀ cr ∈ s.creations, s.table.IsOf cr.satelliteID cr.sessionID
  lookedUp : ∀ cr ∈ s.creations, ∀ ch, cr.phase = .lookedUp ch →
    cr.satelliteID = satellite ∧ ch ≤ s.stream
  started : ∀ c sid, .startSessionCommand sid ∈ (s.conns c).pending → s.table.IsOf satellite sid
  running : ∀ sid, (s.sessions sid).isSome → s.table.IsOf satellite sid
  safe : Safe s

variable {satellite : String}

theorem inv_start (a : SessionTable) : Inv satellite (start a) := by
  refine ⟨fun _ _ => rfl, ?_, ?_, ?_, ?_, ?_, trivial⟩ <;>
    simp [start, StreamRegistry.new, new, pending, unsent, held]

variable {c : Nat} {s s' : Reconciliation} {conn : Outbound}

theorem setConn_conns (d : Nat) : (s.setConn c conn).conns d = if d = c then conn else s.conns d :=
  Function.update_apply ..

section

variable (h : Inv satellite s)

include h

theorem Inv.opened (hc : s.conns c ≠ .new) : c ≤ s.stream := by
  by_contra hlt
  exact hc (h.unopened c (Nat.lt_of_not_le hlt))

theorem inv_setConn (hc : c ≤ s.stream)
    (hs : ∀ i, .startSessionCommand i ∈ conn.pending → s.table.IsOf satellite i)
    (hsa : c = s.stream → Covered s.table.IsActive (fun i => (s.sessions i).isSome) conn.pending) :
    Inv satellite (s.setConn c conn) := by
  refine { h with unopened := fun d hd => ?_, started := fun d i hsi => ?_, safe := ?_ }
  · rw [setConn_conns, if_neg (ne_of_gt (lt_of_le_of_lt hc hd))]
    exact h.unopened d hd
  · rw [setConn_conns] at hsi
    split at hsi
    · exact hs i hsi
    · exact h.started d i hsi
  unfold Safe
  rw [setConn_conns]
  split
  · rename_i heq
    exact hsa heq.symm
  · exact h.safe

theorem inv_setConn_sublist (hc : c ≤ s.stream) (hsu : conn.pending <+ (s.conns c).pending) :
    Inv satellite (s.setConn c conn) := by
  refine inv_setConn h hc (fun i hs => h.started c i (hsu.subset hs)) ?_
  rintro rfl
  exact h.safe.mono hsu (fun _ hs => hs) fun _ _ ha => ha

theorem inv_send {m : NexusMessage} (hc : c ≤ s.stream) (hl : ∀ d, m ≠ .sessionReconciliation d)
    (hs : ∀ i, m = .startSessionCommand i → s.table.IsOf satellite i
      ∧ ((s.conns c).outboundCh.length < capacity → ∀ d ∈ (s.conns c).held, i ∈ d)) :
    Inv satellite (s.setConn c ((s.conns c).send m)) := by
  unfold send
  split
  case isFalse => exact inv_setConn_sublist h hc (.refl _)
  case isTrue hr =>
    have hp : { s.conns c with outboundCh := (s.conns c).outboundCh ++ [m] }.pending
        = (s.conns c).wire ++ (s.conns c).outboundCh ++ m :: (s.conns c).unsent := by
      simp [pending, unsent, held]
    refine inv_setConn h hc ?_ ?_
    · intro i hsi
      rw [hp, mem_append, mem_cons] at hsi
      rcases hsi with hold | rfl | hold
      · exact h.started c i (mem_append_left _ hold)
      · exact (hs i rfl).1
      · exact h.started c i (mem_append_right _ hold)
    rintro rfl
    obtain ⟨hse, hu⟩ := (covered_append _ _ _).mp h.safe
    rw [hp, covered_append]
    refine ⟨hse, fun d hi => absurd hi (hl d), ?_⟩
    -- what is left is the list not yet sent, and `m` is in front of it
    unfold unsent at hu ⊢
    cases hh : (s.conns s.stream).held with
    | none => trivial
    | some d =>
      rw [hh] at hu
      refine ⟨?_, trivial⟩
      rintro _ ⟨⟩ i (hsi | hsi) ha
      · exact hu.1 d rfl i hsi ha
      · exact (hs i hsi).2 hr d hh

theorem inv_table {table : SessionTable} {creations : List Creation}
    (hs : ∀ a i, s.table.IsOf a i → table.IsOf a i ∧ (table.IsActive i → s.table.IsActive i))
    (hc : ∀ cr ∈ creations, cr ∈ s.creations
      ∨ table.IsOf cr.satelliteID cr.sessionID ∧ cr.phase = .inserted) :
    Inv satellite { s with table := table, creations := creations } := by
  have hst := fun c i hsi => (hs _ _ (h.started c i hsi)).1
  have hr := fun i hsi => (hs _ _ (h.running i hsi)).1
  refine { h with
    created := fun cr hcr => ?_, lookedUp := fun cr hcr ch hch => ?_, safe := ?_
    started := hst, running := hr }
  · grind [h.created]
  · rcases hc cr hcr with hold | ⟨-, hp⟩
    · exact h.lookedUp cr hold ch hch
    · simp [hp] at hch
  refine h.safe.mono (.refl _) (fun _ hsi => hsi) ?_
  rintro i (hsi | hsi)
  · exact (hs _ _ (h.running i hsi)).2
  · exact (hs _ _ (h.started _ i hsi)).2

theorem inv_sessions {sessions : Sessions} (hs : ∀ i, (sessions i).isSome → (s.sessions i).isSome) :
    Inv satellite { s with sessions := sessions } :=
  { h with
    running := fun i hsi => h.running i (hs i hsi)
    safe := h.safe.mono (.refl _) hs fun _ _ ha => ha }

end

/-! ## 4. Steps -/

/-- The start command a step sends, and on which connection. -/
def dispatches (s : Reconciliation) : Act → Option (Nat × String)
  | .dispatch i =>
    match s.creations[i]? with
    | some { sessionID, phase := .lookedUp ch, .. } => some (ch, sessionID)
    | _ => none
  | _ => none

/-- A start command that is sent while its connection holds a list is for
a session of the list. -/
def Orderly (s : Reconciliation) (a : Act) : Prop :=
  ∀ cmd ∈ s.dispatches a, (s.conns cmd.1).outboundCh.length < Outbound.capacity →
    ∀ ids ∈ (s.conns cmd.1).held, cmd.2 ∈ ids

instance decidableOrderly (s : Reconciliation) (a : Act) : Decidable (Orderly s a) :=
  inferInstanceAs (Decidable (∀ cmd ∈ s.dispatches a,
    (s.conns cmd.1).outboundCh.length < Outbound.capacity →
      ∀ ids ∈ (s.conns cmd.1).held, cmd.2 ∈ ids))

/-- A reconciliation message that the satellite handles prunes no session
that is active in the database. -/
def KeepsActive (s : Reconciliation) : Act → Prop
  | .handle _ => ∀ ids rest, (s.conns s.stream).wire = .sessionReconciliation ids :: rest →
      ∀ sid, isOrphan s.sessions ids sid = true → ¬ s.table.IsActive sid
  | _ => True

section

variable (h : Inv satellite s)

include h

theorem inv_query (hst : step satellite s (.query c) = some s') : Inv satellite s' := by
  obtain ⟨hr, ⟨⟩⟩ := ite_none_right_eq_some.mp hst
  have hc : c ≤ s.stream := h.opened fun hn => by rw [hn] at hr; cases hr
  have hp : (s.conns c).pending = (s.conns c).wire ++ (s.conns c).outboundCh := by
    simp [pending, unsent, held, hr]
  refine inv_setConn h hc ?_ ?_
  · intro i hsi
    refine h.started c i ?_
    simpa [pending, unsent, held] using hsi
  rintro rfl
  have hs := h.safe
  unfold Safe at hs
  rw [hp] at hs
  refine (covered_append _ _ _).mpr ⟨hs, ?_, trivial⟩
  rintro _ ⟨⟩ i hsi ha
  refine SessionTable.mem_activeIDs ha ?_
  rcases hsi with hsi | hsi
  · exact h.running i hsi
  · exact h.started _ i (hp ▸ hsi)

theorem inv_eraseIdx (i : Nat) : Inv satellite { s with creations := s.creations.eraseIdx i } :=
  { h with
    created := fun cr hcr => h.created cr (mem_of_mem_eraseIdx hcr)
    lookedUp := fun cr hcr => h.lookedUp cr (mem_of_mem_eraseIdx hcr) }

theorem inv_lookUp {i : Nat}
    (hs : step satellite s (.lookUp i) = some s') : Inv satellite s' := by
  simp only [step] at hs
  repeat' split at hs
  all_goals cases hs
  case h_1.refl => exact inv_eraseIdx h i
  rename_i hi _ ch hch
  have hr := h.created _ (mem_of_getElem? hi)
  refine { h with created := ?_, lookedUp := ?_ }
  · exact forall_mem_set h.created hr
  refine forall_mem_set h.lookedUp ?_
  rintro _ ⟨⟩
  exact h.streams _ ch hch

theorem inv_dispatch {i : Nat}
    (hok : Orderly s (.dispatch i)) (hs : step satellite s (.dispatch i) = some s') :
    Inv satellite s' := by
  simp only [step] at hs
  split at hs <;> cases hs
  rename_i e satelliteID ch hi
  have hm := mem_of_getElem? hi
  obtain ⟨hsa, hch⟩ := h.lookedUp _ hm ch rfl
  have hse : Inv satellite (s.setConn ch ((s.conns ch).send (.startSessionCommand e))) := by
    refine inv_send h hch (fun _ => by simp) ?_
    rintro d ⟨⟩
    exact ⟨hsa ▸ h.created _ hm, hok (ch, e) (by simp [dispatches, hi])⟩
  exact inv_eraseIdx hse i

theorem inv_handle {e : Bool}
    (hs : step satellite s (.handle e) = some s') : Inv satellite s' := by
  simp only [step] at hs
  split at hs <;> cases hs
  rename_i m r hw
  have hp : (s.conns s.stream).pending
      = m :: { s.conns s.stream with wire := r }.pending := by
    simp [pending, hw, unsent, held]
  have hr := inv_setConn_sublist h le_rfl (hp ▸ sublist_cons_self m _)
  refine { hr with running := ?_, safe := ?_ }
  · intro i hsi
    rcases isSome_handleNexusMessage hsi with hold | rfl
    · exact h.running i hold
    · exact h.started s.stream i (by rw [hp]; exact mem_cons_self)
  have hsa := h.safe
  unfold Safe at hsa ⊢
  rw [hp] at hsa
  rw [setConn_conns, if_pos (show (s.setConn _ _).stream = s.stream from rfl)]
  exact hsa.2.mono (.refl _) (fun _ => isSome_handleNexusMessage) fun _ _ ha => ha

theorem inv_step {a : Act} (hok : Orderly s a)
    (hs : step satellite s a = some s') : Inv satellite s' := by
  cases a with
  | register c =>
    obtain ⟨⟨hc, hr⟩, ⟨⟩⟩ := ite_none_right_eq_some.mp hs
    have hco : Inv satellite (s.setConn c { s.conns c with registration := .registered }) :=
      inv_setConn_sublist h hc (by simp [pending, unsent, held, hr])
    refine { hco with streams := fun satelliteID d hd => ?_ }
    rw [StreamRegistry.satelliteStreams_registerSatelliteStream] at hd
    split at hd
    · rename_i hsa
      cases hd
      exact ⟨hsa, hc⟩
    · exact h.streams satelliteID d hd
  | query c => exact inv_query h hs
  | queryFailed c =>
    obtain ⟨hr, ⟨⟩⟩ := ite_none_right_eq_some.mp hs
    have hc : c ≤ s.stream := h.opened fun hn => by rw [hn] at hr; cases hr
    exact inv_setConn_sublist h hc (by simp [pending, unsent, held, hr])
  | sendReconciliation c =>
    simp only [step] at hs
    split at hs <;> cases hs
    rename_i ids hr
    have hc : c ≤ s.stream := h.opened fun hn => by rw [hn] at hr; cases hr
    -- the list is in its place in the queue, or it is dropped
    refine inv_setConn_sublist h hc ?_
    unfold send
    split <;> simp [pending, unsent, held, hr]
  | sendOther c m =>
    obtain ⟨⟨hc, ho⟩, ⟨⟩⟩ := ite_none_right_eq_some.mp hs
    refine inv_send h hc ?_ ?_
    · rintro ids rfl
      cases ho
    rintro sid rfl
    cases ho
  | unregister c =>
    obtain ⟨-, ⟨⟩⟩ := ite_none_right_eq_some.mp hs
    refine { h with streams := fun satelliteID d hd => ?_ }
    rw [StreamRegistry.satelliteStreams_unregisterSatelliteStream] at hd
    split at hd
    · cases hd
    · exact h.streams satelliteID d hd
  | insert id satelliteID now =>
    obtain ⟨b, ht, rfl⟩ := map_eq_some_iff.mp hs
    obtain ⟨hro, hsp⟩ := SessionTable.createSession_spec ht
    refine inv_table h hsp fun cr hcr => ?_
    rcases mem_append.mp hcr with hold | hn
    · exact .inl hold
    · grind
  | lookUp i => exact inv_lookUp h hs
  | dispatch i => exact inv_dispatch h hok hs
  | transmit c =>
    simp only [step] at hs
    split at hs <;> cases hs
    rename_i m r hch
    have hc : c ≤ s.stream := h.opened fun hn => by rw [hn] at hch; cases hch
    exact inv_setConn_sublist h hc (by simp [pending, unsent, held, hch])
  | handle e => exact inv_handle h hs
  | setState ses sta =>
    cases hs
    exact inv_sessions h fun _ => setState_isSome
  | reconnect =>
    cases hs
    refine { h with unopened := ?_, streams := ?_, lookedUp := ?_, safe := ?_ }
    · exact fun c hc => h.unopened c (Nat.lt_of_succ_lt hc)
    · exact fun satelliteID c hc => (h.streams satelliteID c hc).imp_right Nat.le_succ_of_le
    · exact fun cr hcr ch hch => (h.lookedUp cr hcr ch hch).imp_right Nat.le_succ_of_le
    -- the new connection has nothing on its way
    unfold Safe
    rw [h.unopened _ (Nat.lt_succ_self _)]
    trivial
  | transition id ns now =>
    simp only [step] at hs
    split at hs <;> cases hs
    · exact h
    rename_i b ht
    exact inv_table h (SessionTable.transitionSession_spec ht) fun _ => .inl

theorem keepsActive_of_inv (a : Act) : KeepsActive s a := by
  cases a with
  | handle e =>
    intro d r hw i ho ha
    have hs := h.safe
    unfold Safe pending at hs
    rw [hw] at hs
    unfold isOrphan at ho
    split at ho
    · cases ho
    rename_i sta hst
    simp only [ne_eq, decide_not, Bool.and_eq_true, Bool.not_eq_eq_eq_not, Bool.not_true,
      decide_eq_false_iff_not] at ho
    have hp : (s.sessions i).isSome := by rw [hst]; rfl
    exact ho.2 (hs.1 d rfl i hp ha)
  | _ => trivial

end

/-! ## 5. Runs -/

/-- **Reconciliation.** From any table, in every run in which no start
command gets in front of a list that does not have its session, the
satellite never prunes a session that is active in the database. -/
theorem keepsActive_of_orderly (satellite : String) (table : SessionTable) (acts : List Act)
    (hok : Along (step satellite) Orderly (start table) acts) :
    Along (step satellite) KeepsActive (start table) acts :=
  along_of_invariant (fun _ _ _ hs hok' hst => inv_step hs hok' hst)
    (fun _ a hs _ => keepsActive_of_inv hs a) (inv_start table) hok

def emptyTable : SessionTable := { rows := [], primaryKey := List.nodup_nil }

/-- One session is started before the query. Another is inserted after it,
and its start command comes behind the list. -/
theorem keepsActive_two_sessions :
    Along (step "sat") Orderly (start emptyTable)
      [.insert "s" "sat" 0, .register 0, .lookUp 0, .dispatch 0, .query 0, .insert "t" "sat" 1,
        .lookUp 0, .sendReconciliation 0, .dispatch 0, .transmit 0, .transmit 0, .transmit 0,
        .handle true, .handle true, .handle true] ∧
    Along (step "sat") KeepsActive (start emptyTable)
      [.insert "s" "sat" 0, .register 0, .lookUp 0, .dispatch 0, .query 0, .insert "t" "sat" 1,
        .lookUp 0, .sendReconciliation 0, .dispatch 0, .transmit 0, .transmit 0, .transmit 0,
        .handle true, .handle true, .handle true] := by
  exact ⟨by decide, keepsActive_of_orderly _ _ _ (by decide)⟩

/-- The query runs, then a session is created and its start command sent,
and then the list is sent: the satellite starts the session and prunes it. -/
theorem new_session_pruned :
    ¬ Along (step "sat") KeepsActive (start emptyTable)
      ([.register 0, .query 0, .insert "s" "sat" 0, .lookUp 0, .dispatch 0, .sendReconciliation 0,
        .transmit 0, .transmit 0, .handle true] ++ [.handle true]) := by
  intro h
  exact along_snoc h rfl [] [] rfl "s" rfl ⟨_, rfl, by decide⟩

end Reconciliation

end Daao.Gateway

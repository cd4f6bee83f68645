/-
Daao.Daemon.LocalClientsTheorems — what attached clients get of a session's
output, and whether they can hold it up.

`Wf` is what every step keeps: who is registered, whom the forwarder is
writing to, and how much of a snapshot a handler has written.
-/
import Daao.Buffer.RingTheorems
import Daao.Daemon.LocalClients
import Daao.Lib.Progress
import Mathlib.Data.List.Flatten

namespace Daao.Daemon.LocalClients

open Daao.Lib Daao.Buffer List Option Session

/-! ## 1. What every step keeps -/

def Phase.registered : Phase → Bool
  | .attached | .detaching => true
  | _ => false

def Hydrated (cl : Client) : Prop :=
  match cl.phase with
  | .requested | .header _ => cl.sent = []
  | .hydrating left => cl.sent ++ left = cl.hydration
  | .registering => cl.sent = cl.hydration
  | _ => True

theorem hydrated_of_registered {cl : Client} (h : cl.phase.registered = true) : Hydrated cl := by
  unfold Hydrated
  cases hp : cl.phase <;> simp_all [Phase.registered]

def Fanned (s : Session) : Prop :=
  match s.forwarder with
  | .locking data => ∃ before, s.chunks = before ++ [data] ∧ s.fanned = before.length
  | _ => s.fanned = s.chunks.length

structure Wf (cap : Nat) (s : Session) : Prop where
  ring : ∃ r : CellRing Byte, s.ring = ofRing r
  known : ∀ c ∈ s.localClients, ∃ cl, s.clients[c]? = some cl ∧ cl.phase.registered = true
  registered : ∀ (c : Nat) (cl : Client), s.clients[c]? = some cl → cl.phase.registered = true →
    c ∈ s.localClients
  nodup : s.localClients.Nodup
  queue : ∀ data queue, s.forwarder = .fanout data queue →
    (queue.map Prod.fst).Sublist s.localClients
  fanned : Fanned s
  nonempty : (∀ data ∈ s.chunks, data ≠ []) ∧ ∀ data, s.forwarder = .writing data → data ≠ []
  marks : ∀ cl ∈ s.clients, cl.mark ≤ s.chunks.length
  hydrated : ∀ cl ∈ s.clients, Hydrated cl
  buffered : ∀ cl ∈ s.clients, cl.buffered ≤ cap

theorem wf_newSession (cap : Nat) : Wf cap newSession := by
  obtain ⟨r, hr, -⟩ := exists_ofRing_newRingBuffer 0
  refine ⟨⟨r, hr⟩, ?_, ?_, ?_, ?_, ?_, ?_, ?_, ?_, ?_⟩ <;>
    simp [newSession, sessionWith, Fanned]

section

variable {cap headerLen : Nat} {s s' : Session} {cl cl' : Client}

theorem put_eq_some {p : List Byte} (h : cl.put cap p = some cl') :
    cl.connected = true ∧ cl.buffered < cap
      ∧ cl' = { cl with buffered := cl.buffered + 1, sent := cl.sent ++ p } := by
  simp only [Client.put, ite_none_right_eq_some, some.injEq] at h
  obtain ⟨⟨hc, hr⟩, rfl⟩ := h
  exact ⟨hc, hr, rfl⟩

inductive ClientMove (cap headerLen : Nat) (s : Session) (cl : Client) : ClientAct → Client → Prop
  | snapshot {hydration : List Byte} (phase : cl.phase = .requested)
      (taken : snapshot s.ring = some hydration) :
      ClientMove cap headerLen s cl .snapshot
        { cl with phase := .header headerLen, hydration := hydration, mark := s.chunks.length }
  | writeHeader {left : Nat} (phase : cl.phase = .header (left + 1)) (room : cl.buffered < cap)
      (connected : cl.connected = true) :
      ClientMove cap headerLen s cl .writeHeader
        { cl with phase := .header left, buffered := cl.buffered + 1, sent := cl.sent ++ [] }
  | headerDone (phase : cl.phase = .header 0) :
      ClientMove cap headerLen s cl .writeHeader { cl with phase := .hydrating cl.hydration }
  | hydrate {b : Byte} {left : List Byte} (phase : cl.phase = .hydrating (b :: left))
      (room : cl.buffered < cap) (connected : cl.connected = true) :
      ClientMove cap headerLen s cl .hydrate
        { cl with phase := .hydrating left, buffered := cl.buffered + 1, sent := cl.sent ++ [b] }
  | hydrated (phase : cl.phase = .hydrating []) :
      ClientMove cap headerLen s cl .hydrate { cl with phase := .registering }
  | register (phase : cl.phase = .registering) (free : s.locked = false) :
      ClientMove cap headerLen s cl .register { cl with phase := .attached }
  | leave {ptyError : Bool} (phase : cl.phase = .attached) :
      ClientMove cap headerLen s cl (.leave ptyError) { cl with phase := .detaching }
  | remove (phase : cl.phase = .detaching) (free : s.locked = false) :
      ClientMove cap headerLen s cl .remove { cl with phase := .removed }
  | close (phase : cl.phase = .removed) :
      ClientMove cap headerLen s cl .close { cl with phase := .closed, connected := false }
  | abort (phase : (∃ left, cl.phase = .header left) ∨ ∃ left, cl.phase = .hydrating left) :
      ClientMove cap headerLen s cl .abort { cl with phase := .closed }
  | read (reads : cl.stopped = false) :
      ClientMove cap headerLen s cl .read { cl with buffered := cl.buffered - 1 }
  | stopReading : ClientMove cap headerLen s cl .stopReading { cl with stopped := true }
  | halfClose : ClientMove cap headerLen s cl .halfClose { cl with eof := true }
  | hangUp : ClientMove cap headerLen s cl .hangUp { cl with connected := false }

variable {a : ClientAct}

theorem clientMove_of_step (h : clientStep cap headerLen s cl a = some cl') :
    ClientMove cap headerLen s cl a cl' := by
  cases a <;> simp only [clientStep] at h
  case snapshot =>
    split at h
    · rename_i hp
      obtain ⟨hydration, ht, rfl⟩ := map_eq_some_iff.mp h
      exact .snapshot hp ht
    · cases h
  case writeHeader =>
    split at h
    · rename_i left hp
      obtain ⟨cl₁, hpu, rfl⟩ := map_eq_some_iff.mp h
      obtain ⟨hco, hr, rfl⟩ := put_eq_some hpu
      exact .writeHeader hp hr hco
    · rename_i hp
      cases h
      exact .headerDone hp
    · cases h
  case hydrate =>
    split at h
    · rename_i b left hp
      obtain ⟨cl₁, hpu, rfl⟩ := map_eq_some_iff.mp h
      obtain ⟨hco, hr, rfl⟩ := put_eq_some hpu
      exact .hydrate hp hr hco
    · rename_i hp
      cases h
      exact .hydrated hp
    · cases h
  case abort =>
    split at h
    · rename_i left hp
      split at h <;> cases h
      exact .abort (.inl ⟨left, hp⟩)
    · rename_i left hp
      split at h <;> cases h
      exact .abort (.inr ⟨left, hp⟩)
    · cases h
  case stopReading | halfClose | hangUp =>
    cases h
    constructor
  -- the acts with one guard
  all_goals
    split at h <;> cases h
    rename_i hc
  case register => exact .register hc.1 hc.2
  case leave => exact .leave hc.1
  case remove => exact .remove hc.1 hc.2
  case close => exact .close hc
  case read => exact .read hc.2.1

section

variable (h : ClientMove cap headerLen s cl a cl')

include h

theorem clientMove_frame :
    (cl.connected = false → cl'.connected = false)
      ∧ (cl.phase.registered = true → cl'.mark = cl.mark ∧ cl'.hydration = cl.hydration
          ∧ cl'.sent = cl.sent) := by
  cases h <;> simp_all [Phase.registered]

theorem clientMove_registered :
    match a with
    | .register => cl.phase.registered = false ∧ cl'.phase.registered = true ∧ s.locked = false
    | .remove => cl.phase.registered = true ∧ cl'.phase.registered = false ∧ s.locked = false
    | _ => cl'.phase.registered = cl.phase.registered := by
  cases h
  case abort phase => rcases phase with ⟨left, hp⟩ | ⟨left, hp⟩ <;>
    simp [hp, Phase.registered]
  all_goals simp_all [Phase.registered]

theorem hydrated_clientMove (hcl : Hydrated cl) : Hydrated cl' := by
  cases h <;> simp_all [Hydrated]

theorem mark_clientMove (hcl : cl.mark ≤ s.chunks.length) : cl'.mark ≤ s.chunks.length := by
  cases h <;> simp_all

theorem buffered_clientMove (hcl : cl.buffered ≤ cap) : cl'.buffered ≤ cap := by
  cases h <;> simp only <;> omega

end

variable {c : Nat}

theorem step_client_eq_some (h : step cap headerLen s (.client c a) = some s') :
    ∃ cl cl', s.clients[c]? = some cl ∧ ClientMove cap headerLen s cl a cl'
      ∧ s' = { s with
        clients := s.clients.set c cl'
        localClients := members s.localClients c a } := by
  simp only [step, bind_eq_bind, bind_eq_some_iff, some.injEq] at h
  obtain ⟨cl, hcl, cl', hs, rfl⟩ := h
  exact ⟨cl, cl', hcl, clientMove_of_step hs, rfl⟩

inductive ForwarderMove (cap : Nat) (s : Session) : ForwarderAct → Session → Prop
  | ptyRead {data : List Byte} (phase : s.forwarder = .reading) (nonempty : data ≠ []) :
      ForwarderMove cap s (.ptyRead data) { s with forwarder := .writing data }
  | ptyEnd (phase : s.forwarder = .reading) :
      ForwarderMove cap s .ptyEnd { s with forwarder := .stopped }
  | ringWrite {data : List Byte} {ring : RingBuffer} {n : Int}
      (phase : s.forwarder = .writing data) (written : write s.ring data = some (ring, n)) :
      ForwarderMove cap s .ringWrite
        { s with ring := ring, forwarder := .locking data, chunks := s.chunks ++ [data] }
  | rLock {data : List Byte} (phase : s.forwarder = .locking data) :
      ForwarderMove cap s .rLock
        { s with
          forwarder := .fanout data (s.localClients.map fun c => (c, data))
          fanned := s.fanned + 1 }
  | push {data : List Byte} {c : Nat} {b : Byte} {left : List Byte} {queue : List (Nat × List Byte)}
      {cl : Client} (phase : s.forwarder = .fanout data ((c, b :: left) :: queue))
      (client : s.clients[c]? = some cl) (connected : cl.connected = true)
      (room : cl.buffered < cap) :
      ForwarderMove cap s .push
        { s with
          forwarder := .fanout data ((c, left) :: queue)
          clients := s.clients.set c
            { cl with buffered := cl.buffered + 1, sent := cl.sent ++ [b] } }
  | next {data : List Byte} {c : Nat} {left : List Byte} {queue : List (Nat × List Byte)}
      {cl : Client} (phase : s.forwarder = .fanout data ((c, left) :: queue))
      (client : s.clients[c]? = some cl) (returns : left = [] ∨ cl.connected = false) :
      ForwarderMove cap s .next { s with forwarder := .fanout data queue }
  | rUnlock {data : List Byte} (phase : s.forwarder = .fanout data []) :
      ForwarderMove cap s .rUnlock { s with forwarder := .sending data }
  | sendToNexus {data : List Byte} (phase : s.forwarder = .sending data) :
      ForwarderMove cap s .sendToNexus
        { s with forwarder := .reading, nexus := s.nexus ++ [data] }

theorem forwarderMove_of_step {a : ForwarderAct} (h : forwarderStep cap s a = some s') :
    ForwarderMove cap s a s' := by
  cases a <;> simp only [forwarderStep] at h
  case ptyRead data =>
    split at h <;> cases h
    rename_i hc
    exact .ptyRead hc.1 hc.2
  case ringWrite =>
    split at h
    · rename_i data hp
      obtain ⟨⟨ring, n⟩, hw, rfl⟩ := map_eq_some_iff.mp h
      exact .ringWrite hp hw
    · cases h
  case push =>
    split at h
    · rename_i data c b left queue hp
      simp only [bind_eq_bind, bind_eq_some_iff, some.injEq] at h
      obtain ⟨cl, hcl, cl', hpu, rfl⟩ := h
      obtain ⟨hco, hr, rfl⟩ := put_eq_some hpu
      exact .push hp hcl hco hr
    · cases h
  case next =>
    split at h
    · rename_i data c left queue hp
      simp only [bind_eq_bind, bind_eq_some_iff, ite_none_right_eq_some, some.injEq] at h
      obtain ⟨cl, hcl, hre, rfl⟩ := h
      exact .next hp hcl (by simpa [writeReturns] using hre)
    · cases h
  all_goals
    split at h <;> cases h
    rename_i hp
  · exact .ptyEnd hp
  · exact .rLock hp
  · exact .rUnlock hp
  · exact .sendToNexus hp

theorem Wf.members_set (hs : Wf cap s) (hcl : s.clients[c]? = some cl)
    (cl' : Client) {ms : List Nat} (hc : c ∈ ms ↔ cl'.phase.registered = true)
    (ho : ∀ c', c' ≠ c → (c' ∈ ms ↔ c' ∈ s.localClients)) :
    (∀ c' ∈ ms, ∃ cl₁, (s.clients.set c cl')[c']? = some cl₁ ∧ cl₁.phase.registered = true)
      ∧ ∀ (c' : Nat) (cl₁ : Client), (s.clients.set c cl')[c']? = some cl₁ →
          cl₁.phase.registered = true → c' ∈ ms := by
  constructor
  · grind [hs.known]
  · grind [hs.registered]

theorem Wf.mem_iff (hs : Wf cap s) (hcl : s.clients[c]? = some cl) :
    c ∈ s.localClients ↔ cl.phase.registered = true := by
  constructor
  · grind [hs.known]
  · exact hs.registered c cl hcl

theorem wf_forward {a : ForwarderAct} (hs : Wf cap s) (h : forwarderStep cap s a = some s') :
    Wf cap s' := by
  have hf := hs.fanned
  cases forwarderMove_of_step h
  case ptyRead data phase nonempty =>
    rw [Fanned, phase] at hf
    exact { hs with
      queue := by simp
      fanned := hf
      nonempty := ⟨hs.nonempty.1, by simpa using nonempty⟩ }
  case ptyEnd phase | rUnlock phase | sendToNexus phase =>
    rw [Fanned, phase] at hf
    exact { hs with queue := by simp, fanned := hf, nonempty := ⟨hs.nonempty.1, by simp⟩ }
  case ringWrite data ring n phase written =>
    rw [Fanned, phase] at hf
    obtain ⟨r, hr⟩ := hs.ring
    obtain ⟨n', hw⟩ := exists_write_ofRing r data
    rw [hr, hw, some_inj] at written
    obtain ⟨rfl, -⟩ := Prod.mk.inj written
    refine { hs with
      ring := ⟨_, rfl⟩
      queue := by simp
      fanned := ⟨s.chunks, rfl, hf⟩
      nonempty := ⟨?_, by simp⟩
      marks := fun cl hcl => ?_ }
    · grind [mem_singleton, hs.nonempty]
    have := hs.marks cl hcl
    simp only [length_append, length_singleton]
    omega
  case rLock data phase =>
    rw [Fanned, phase] at hf
    obtain ⟨e, hc, hl⟩ := hf
    refine { hs with queue := ?_, fanned := ?_, nonempty := ⟨hs.nonempty.1, by simp⟩ }
    · intro d' queue hq
      cases hq
      simp [Function.comp_def]
    · simp [Fanned, hc, hl]
  case push data c b left queue cl phase client connected room =>
    rw [Fanned, phase] at hf
    have hm := hs.mem_iff client
    obtain ⟨hk, hre⟩ := hs.members_set client
      { cl with buffered := cl.buffered + 1, sent := cl.sent ++ [b] } hm fun _ _ => Iff.rfl
    have hq := hs.queue data _ phase
    have hin : cl.phase.registered = true := hm.mp (hq.subset (by simp))
    exact { hs with
      known := hk
      registered := hre
      queue := fun d' q' h => by cases h; exact hq
      fanned := hf
      nonempty := ⟨hs.nonempty.1, by simp⟩
      marks := forall_mem_set hs.marks (hs.marks cl (mem_of_getElem? client))
      hydrated := forall_mem_set hs.hydrated (hydrated_of_registered hin)
      buffered := forall_mem_set hs.buffered (Nat.succ_le_of_lt room) }
  case next data c left queue cl phase client returns =>
    rw [Fanned, phase] at hf
    have hq := hs.queue data _ phase
    refine { hs with
      queue := fun d' q' h => ?_, fanned := hf, nonempty := ⟨hs.nonempty.1, by simp⟩ }
    cases h
    exact (sublist_cons_self _ _).trans hq

variable {queue : List (Nat × List Byte)} {data : List Byte}

theorem queue_of_locked (h : ClientMove cap headerLen s cl a cl')
    (hq : s.forwarder = .fanout data queue) (c : Nat) :
    members s.localClients c a = s.localClients := by
  have hl : s.locked = true := by simp [locked, hq]
  have hr := clientMove_registered h
  cases a <;> simp_all [members]

theorem wf_client (hs : Wf cap s) (h : step cap headerLen s (.client c a) = some s') :
    Wf cap s' := by
  obtain ⟨cl, cl', hcl, hm, rfl⟩ := step_client_eq_some h
  have hmm := hs.mem_iff hcl
  have hr := clientMove_registered hm
  have hin : cl ∈ s.clients := mem_of_getElem? hcl
  have hme : (c ∈ members s.localClients c a ↔ cl'.phase.registered = true)
      ∧ (∀ c', c' ≠ c → (c' ∈ members s.localClients c a ↔ c' ∈ s.localClients))
      ∧ (members s.localClients c a).Nodup := by
    cases a
    case register => grind [members, mem_singleton, hs.nodup]
    case remove => grind [members, hs.nodup.not_mem_erase, hs.nodup.erase]
    all_goals
      exact ⟨by simp only [members]; rw [hmm, hr], fun _ _ => Iff.rfl, hs.nodup⟩
  obtain ⟨hk, hre⟩ := hs.members_set hcl cl' hme.1 hme.2.1
  refine { hs with
    known := hk
    registered := hre
    nodup := hme.2.2
    queue := fun data queue hq => ?_
    fanned := hs.fanned
    marks := forall_mem_set (P := fun cl : Client => cl.mark ≤ s.chunks.length) hs.marks
      (mark_clientMove hm (hs.marks cl hin))
    hydrated := forall_mem_set hs.hydrated (hydrated_clientMove hm (hs.hydrated cl hin))
    buffered := forall_mem_set hs.buffered (buffered_clientMove hm (hs.buffered cl hin)) }
  rw [queue_of_locked hm hq]
  exact hs.queue data queue hq

theorem wf_connect (hs : Wf cap s) : Wf cap { s with clients := s.clients ++ [newClient] } := by
  have hg : ∀ (c : Nat) (cl : Client), (s.clients ++ [newClient])[c]? = some cl →
      s.clients[c]? = some cl ∨ cl = newClient := by grind
  have ha : ∀ {P : Client → Prop}, (∀ cl ∈ s.clients, P cl) → P newClient →
      ∀ cl ∈ s.clients ++ [newClient], P cl := by grind
  refine { hs with
    known := fun c hm => ?_
    registered := fun c cl h hr => ?_
    fanned := hs.fanned
    marks := ha hs.marks (Nat.zero_le _)
    hydrated := ha hs.hydrated rfl
    buffered := ha hs.buffered (Nat.zero_le _) }
  · grind [hs.known]
  rcases hg c cl h with hcl | rfl
  · exact hs.registered c cl hcl hr
  · cases hr

theorem wf_step {a : Act} (hs : Wf cap s) (h : step cap headerLen s a = some s') : Wf cap s' := by
  cases a with
  | forward a => exact wf_forward hs h
  | connect =>
    cases h
    exact wf_connect hs
  | client c a => exact wf_client hs h

/-! ## 2. The seam between snapshot and live output -/

/-- A connection is registered only when as many chunks have been taken to
the clients as were in the ring buffer when its snapshot was made. -/
def HandsOver (s : Session) : Act → Prop
  | .client c .register => ∀ cl ∈ s.clients[c]?, cl.phase = .registering → s.locked = false →
      cl.connected = true → s.fanned = cl.mark
  | _ => True

def AllSeamless (s : Session) : Prop := ∀ c cl, s.Serves c cl → Seamless s c cl

theorem drop_flatten_inj {u : List (List Byte)} (hne : ∀ data ∈ u, data ≠ []) {i j : Nat}
    (hi : i ≤ u.length) (hj : j ≤ u.length)
    (h : (u.drop i).flatten = (u.drop j).flatten) : i = j := by
  -- with every chunk that is dropped, less is left
  have hlt : ∀ {i j : Nat}, i < j → j ≤ u.length →
      (u.drop j).flatten.length < (u.drop i).flatten.length := by
    intro i j hij hj
    have hi : i < u.length := by omega
    have hp := length_pos_of_ne_nil (hne _ (getElem_mem hi))
    have hle := (drop_sublist_drop_left u (by omega : i + 1 ≤ j)).flatten.length_le
    rw [drop_eq_getElem_cons hi, flatten_cons, length_append]
    omega
  rcases Nat.lt_trichotomy i j with hij | hij | hij
  · grind
  · exact hij
  · grind

theorem pending_of_unlocked (h : s.locked = false) (c : Nat) : s.pending c = [] := by
  unfold pending
  unfold locked at h
  split
  · grind
  · rfl

theorem lookup_eq_none (h : c ∉ queue.map Prod.fst) : queue.lookup c = none := by
  grind

/-- The client that is written to comes once. -/
theorem Wf.lookup_rest (hs : Wf cap s) {left : List Byte}
    (h : s.forwarder = .fanout data ((c, left) :: queue)) : queue.lookup c = none :=
  lookup_eq_none (nodup_cons.mp (hs.nodup.sublist (hs.queue _ _ h))).1

theorem lookup_map_of_mem {i : List Nat} (h : c ∈ i) :
    (i.map fun c => (c, data)).lookup c = some data := by
  induction i with
  | nil => cases h
  | cons c' r ih => grind

theorem seamless_forward {a : ForwarderAct} (hs : Wf cap s) (ha : AllSeamless s)
    (h : forwarderStep cap s a = some s') : AllSeamless s' := by
  have hf := hs.fanned
  cases forwarderMove_of_step h
  case ptyRead phase _ | ptyEnd phase | rUnlock phase | sendToNexus phase =>
    intro c cl hsr
    have hse := ha c cl hsr
    simpa [Seamless, pending, toCome, phase] using hse
  case ringWrite data ring n phase written =>
    intro c cl hsr
    have hse := ha c cl hsr
    have hm : cl.mark ≤ s.chunks.length := hs.marks cl (mem_of_getElem? hsr.1)
    rw [Fanned, phase] at hf
    simp only [Seamless, pending, toCome, phase, append_nil] at hse ⊢
    rw [drop_append_of_le_length hm, drop_append_of_le_length (Nat.le_of_eq hf),
      flatten_append, flatten_append, ← append_assoc, hse, append_assoc]
  case rLock data phase =>
    intro c cl hsr
    have hse := ha c cl hsr
    rw [Fanned, phase] at hf
    obtain ⟨e, hch, hl⟩ := hf
    have hlo : ((s.localClients.map fun c => (c, data)).lookup c).getD [] = data := by
      rw [lookup_map_of_mem hsr.2.1]
      rfl
    simp only [Seamless, pending, toCome, phase] at hse ⊢
    rw [hlo]
    simpa [hch, hl] using hse
  case push data c b left queue cl phase client connected room =>
    rintro c' cl' ⟨hg, hme, hco⟩
    rcases get_set_cases client hg with ⟨rfl, rfl⟩ | ⟨hc, hg⟩
    · have hse := ha c' cl ⟨client, hme, connected⟩
      simp only [Seamless, pending, toCome, phase, lookup_cons_self, getD_some] at hse ⊢
      simpa using hse
    have hse := ha c' cl' ⟨hg, hme, hco⟩
    have hne : (c' == c) = false := by simpa using hc
    simpa [Seamless, pending, toCome, phase, lookup_cons, hne] using hse
  case next data c left queue cl phase client r =>
    rintro c' cl' ⟨hg, hme, hco⟩
    have hse := ha c' cl' ⟨hg, hme, hco⟩
    by_cases hc : c' = c
    · subst hc
      rw [client, some_inj] at hg
      subst hg
      rcases r with rfl | hcl
      · simpa [Seamless, pending, toCome, phase, hs.lookup_rest phase] using hse
      · simp [hcl] at hco
    have hne : (c' == c) = false := by simpa using hc
    simpa [Seamless, pending, toCome, phase, lookup_cons, hne] using hse

theorem seamless_register_iff (hs : Wf cap s)
    (hcl : s.clients[c]? = some cl) (hp : cl.phase = .registering)
    (hf : s.locked = false) (ms : List Nat) :
    Seamless { s with
      clients := s.clients.set c { cl with phase := .attached }
      localClients := ms }
        c { cl with phase := .attached } ↔ s.fanned = cl.mark := by
  have hse : cl.sent = cl.hydration := by
    have := hs.hydrated cl (mem_of_getElem? hcl)
    rwa [Hydrated, hp] at this
  have hm : cl.mark ≤ s.chunks.length := hs.marks cl (mem_of_getElem? hcl)
  have hfa : s.fanned ≤ s.chunks.length := by grind [Fanned, hs.fanned]
  have hpe : pending
      { s with clients := s.clients.set c { cl with phase := .attached }, localClients := ms } c
        = [] := pending_of_unlocked hf c
  unfold Seamless
  rw [hpe]
  simp only [toCome, hse, append_nil, append_cancel_left_eq]
  exact ⟨drop_flatten_inj hs.nonempty.1 hfa hm, fun h => by rw [h]⟩

theorem serves_client (hcl : s.clients[c]? = some cl) (hm : ClientMove cap headerLen s cl a cl')
    {c' : Nat} {cl₁ : Client}
    (h : Session.Serves { s with
      clients := s.clients.set c cl', localClients := members s.localClients c a } c' cl₁) :
    s.Serves c' cl₁
      ∨ c' = c ∧ cl₁ = cl' ∧ cl.connected = true ∧ (c ∈ s.localClients ∨ a = .register) := by
  obtain ⟨hg, hme, hco⟩ := h
  have hold : c' ∈ s.localClients ∨ c' = c ∧ a = .register := by
    revert hme
    cases a <;> simp only [members]
    case register => simp
    case remove => exact fun hme => .inl (mem_of_mem_erase hme)
    all_goals exact .inl
  rcases get_set_cases hcl hg with ⟨rfl, rfl⟩ | ⟨hc, hg⟩
  · grind [clientMove_frame]
  · exact .inl ⟨hg, hold.resolve_right fun h => hc h.1, hco⟩

theorem seamless_client_iff (hs : Wf cap s) (ha : AllSeamless s)
    (h : step cap headerLen s (.client c a) = some s') :
    HandsOver s (.client c a) ↔ AllSeamless s' := by
  obtain ⟨cl, cl', hcl, hm, rfl⟩ := step_client_eq_some h
  constructor
  · intro hok c' cl₁ hse
    rcases serves_client hcl hm hse with hse | ⟨rfl, rfl, hc, hme | rfl⟩
    · exact ha c' cl₁ hse
    · obtain ⟨hma, hh, hsn⟩ := (clientMove_frame hm).2 ((hs.mem_iff hcl).mp hme)
      have hsa := ha c' cl ⟨hcl, hme, hc⟩
      unfold Seamless at hsa ⊢
      rw [hma, hh, hsn]
      exact hsa
    cases hm
    case register phase free =>
      exact (seamless_register_iff hs hcl phase free _).mpr (hok cl hcl phase free hc)
  · intro ha'
    cases hm
    case register phase free =>
      intro cl₁ hcl₁ _ _ hc
      obtain rfl : cl₁ = cl := some_inj.mp (hcl₁.symm.trans hcl)
      refine (seamless_register_iff hs hcl phase free (members s.localClients c .register)).mp
        (ha' c _ ⟨by rw [get_set hcl, if_pos rfl], ?_, hc⟩)
      simp [members]
    all_goals trivial

theorem seamless_connect (hs : Wf cap s) (ha : AllSeamless s) :
    AllSeamless { s with clients := s.clients ++ [newClient] } := by
  rintro c cl ⟨hg, hm, hc⟩
  obtain ⟨cl₁, hcl₁, -⟩ := hs.known c hm
  rw [getElem?_append_left (List.getElem?_eq_some_iff.mp hcl₁).1] at hg
  exact ha c cl ⟨hg, hm, hc⟩

theorem seamless_step_iff {a : Act} (hs : Wf cap s ∧ AllSeamless s) :
    HandsOver s a ↔ ∀ s' ∈ step cap headerLen s a, Wf cap s' ∧ AllSeamless s' := by
  constructor
  · intro hok s' h
    refine ⟨wf_step hs.1 h, ?_⟩
    cases a with
    | forward a => exact seamless_forward hs.1 hs.2 h
    | connect =>
      cases h
      exact seamless_connect hs.1 hs.2
    | client c a => exact (seamless_client_iff hs.1 hs.2 h).mp hok
  intro h
  cases a with
  | forward a => trivial
  | connect => trivial
  | client c a =>
    cases hst : step cap headerLen s (.client c a) with
    | some s' => exact (seamless_client_iff hs.1 hs.2 hst).mpr (h s' hst).2
    | none =>
      cases a <;> try trivial
      intro cl hcl hp hf _
      rw [mem_def] at hcl
      simp [step, hcl, clientStep, hp, hf] at hst

end

/-- **The hand-over.** In every run, in every state, each connected client
gets the scrollback it was hydrated with and then all later output, with
nothing missing and nothing repeated, just if each registration comes when
the chunks taken to the clients are those of its snapshot. -/
theorem seamless_iff (cap headerLen : Nat) (acts : List Act) :
    (∀ s ∈ states (step cap headerLen) newSession acts, AllSeamless s)
      ↔ Along (step cap headerLen) HandsOver newSession acts := by
  have hn : AllSeamless newSession := by
    rintro c cl ⟨hg, -, -⟩
    cases hg
  have hwf : ∀ s ∈ states (step cap headerLen) newSession acts, Wf cap s :=
    forall_states_of_invariant (fun _ _ _ => wf_step) (wf_newSession cap)
  rw [← forall_states_iff_along (fun s a => seamless_step_iff) ⟨wf_newSession cap, hn⟩]
  exact ⟨fun h s hs => ⟨hwf s hs, h s hs⟩, fun h s hs => (h s hs).2⟩

/-- A byte that is written to the ring buffer after the snapshot and taken
to the clients before the registration is missing. -/
def missingByte : List Act :=
  [ .connect, .client 0 .snapshot, .client 0 .writeHeader, .client 0 .hydrate,
    .forward (.ptyRead [7]), .forward .ringWrite, .forward .rLock, .forward .rUnlock,
    .forward .sendToNexus, .client 0 .register ]

/-- A byte that is in the snapshot and taken to the clients after the
registration is repeated. -/
def repeatedByte : List Act :=
  [ .connect, .forward (.ptyRead [7]), .forward .ringWrite, .client 0 .snapshot,
    .client 0 .writeHeader, .client 0 .hydrate, .client 0 .hydrate, .client 0 .register,
    .forward .rLock, .forward .push ]

def received (s : Session) : List (List Byte) × List (List Byte × Nat × List Byte) :=
  (s.chunks, s.clients.map fun cl => (cl.hydration, cl.mark, cl.sent))

variable {n : Int} {ring ring₀ : RingBuffer}

-- The ring buffer is large, and not computed with.
theorem run_missingByte (he : snapshot ring₀ = some []) (hw : write ring₀ [7] = some (ring, n)) :
    run (step 8 0) (sessionWith ring₀) missingByte
      = some { ring := ring, forwarder := .reading
               clients := [{ newClient with phase := .attached }], localClients := [0]
               chunks := [[7]], fanned := 1, nexus := [[7]] } := by
  simp [missingByte, run, step, clientStep, forwarderStep, sessionWith, newClient, members,
    locked, he, hw]

theorem run_repeatedByte (hw : write ring₀ [7] = some (ring, n)) (hs : snapshot ring = some [7]) :
    run (step 8 0) (sessionWith ring₀) repeatedByte
      = some { ring := ring, forwarder := .fanout [7] [(0, [])]
               clients := [{ newClient with
                 phase := .attached, buffered := 2, hydration := [7], mark := 1, sent := [7, 7] }]
               localClients := [0], chunks := [[7]], fanned := 1, nexus := [] } := by
  simp [repeatedByte, run, step, clientStep, forwarderStep, sessionWith, newClient, members,
    locked, Client.put, hs, hw]

/-- The one byte of a session's output is missing, or is there twice. -/
theorem handover_fails :
    (∃ s, run (step 8 0) newSession missingByte = some s ∧ s.forwarder = .reading
        ∧ received s = ([[7]], [([], 0, [])]) ∧ ¬ AllSeamless s)
      ∧ ∃ s, run (step 8 0) newSession repeatedByte = some s
        ∧ s.forwarder = .fanout [7] [(0, [])]
        ∧ received s = ([[7]], [([7], 1, [7, 7])]) ∧ ¬ AllSeamless s := by
  obtain ⟨ring, n, hw, hsn⟩ := exists_write_newRingBuffer 0 7
  have he := snapshot_newRingBuffer 0
  constructor
  · refine ⟨_, run_missingByte he hw, rfl, rfl, fun h => ?_⟩
    have hs := h 0 _ ⟨rfl, mem_singleton_self 0, rfl⟩
    simp [Seamless, pending, toCome, newClient] at hs
  refine ⟨_, run_repeatedByte hw hsn, rfl, rfl, fun h => ?_⟩
  have hs := h 0 _ ⟨rfl, mem_singleton_self 0, rfl⟩
  simp [Seamless, pending, toCome] at hs

/-! ## 3. Clients that stop reading -/

def Client.Takes (cap : Nat) (cl : Client) (bytes : List Byte) : Prop :=
  cl.stopped = false ∨ cl.buffered + bytes.length ≤ cap

/-- Every connected client that is registered reads, or has room for what
it still gets of the chunk in hand. -/
def Roomy (cap : Nat) (s : Session) : Prop :=
  ∀ c cl, s.Serves c cl → cl.Takes cap (s.toClient c)

section

variable {cap headerLen : Nat} {s s' : Session}

theorem roomy_of_toClient (hs : Wf cap s) (hr : Roomy cap s)
    (hc : s'.clients = s.clients) (hl : s'.localClients = s.localClients)
    (hb : ∀ c ∈ s.localClients, s'.toClient c = s.toClient c ∨ s'.toClient c = []) :
    Roomy cap s' := by
  rintro c cl ⟨hg, hm, hco⟩
  rw [hc] at hg
  rw [hl] at hm
  rcases hb c hm with hsa | hd
  · rw [hsa]
    exact hr c cl ⟨hg, hm, hco⟩
  rw [hd]
  exact .inr (hs.buffered cl (mem_of_getElem? hg))

variable {queue : List (Nat × List Byte)} {data : List Byte} {c : Nat}

theorem toClient_head {left : List Byte} (h : s.forwarder = .fanout data ((c, left) :: queue)) :
    s.toClient c = left := by
  simp [toClient, h]

theorem toClient_tail {c' : Nat} {left : List Byte}
    (h : s.forwarder = .fanout data ((c, left) :: queue)) (hc : c' ≠ c) :
    s.toClient c' = (queue.lookup c').getD [] := by
  have hne : (c' == c) = false := by simpa using hc
  simp [toClient, h, lookup_cons, hne]

theorem roomy_forward {a : ForwarderAct} (hs : Wf cap s) (hr : Roomy cap s)
    (ha : (Act.forward a).delivers = true) (h : forwarderStep cap s a = some s') :
    Roomy cap s' := by
  cases forwarderMove_of_step h
  case ptyRead | ptyEnd => cases ha
  case ringWrite data ring n phase written =>
    exact roomy_of_toClient hs hr rfl rfl fun c _ => .inl (by simp [toClient, phase])
  case rLock data phase =>
    refine roomy_of_toClient hs hr rfl rfl fun c hm => .inl ?_
    simp [toClient, phase, lookup_map_of_mem hm]
  case push data c b left queue cl phase i connected room =>
    rintro c' cl' ⟨hg, hm, hco⟩
    rcases get_set_cases i hg with ⟨rfl, rfl⟩ | ⟨hc, hg⟩
    · have ht := hr c' cl ⟨i, hm, connected⟩
      rw [toClient_head phase] at ht
      rw [toClient_head (rfl : _ = Forwarder.fanout data ((c', left) :: queue))]
      refine ht.imp id fun hf => ?_
      rw [length_cons] at hf
      show cl.buffered + 1 + left.length ≤ cap
      omega
    have ht := hr c' cl' ⟨hg, hm, hco⟩
    rw [toClient_tail phase hc] at ht
    rw [toClient_tail (rfl : _ = Forwarder.fanout data ((c, left) :: queue)) hc]
    exact ht
  case next data c left queue cl phase i returns =>
    refine roomy_of_toClient hs hr rfl rfl fun c' _ => ?_
    by_cases hc : c' = c
    · subst hc
      exact .inr (by simp [toClient, hs.lookup_rest phase])
    · exact .inl (by rw [toClient_tail phase hc]; rfl)
  case rUnlock | sendToNexus => exact roomy_of_toClient hs hr rfl rfl fun c _ => .inr rfl

theorem roomy_read (hr : Roomy cap s) (h : step cap headerLen s (.client c .read) = some s') :
    Roomy cap s' := by
  obtain ⟨cl, cl', hcl, hm, rfl⟩ := step_client_eq_some h
  intro c' cl₁ hs
  rcases serves_client hcl hm hs with hs | ⟨rfl, rfl, hc, hme | hre⟩
  · exact hr c' cl₁ hs
  · cases hm
    refine (hr c' cl ⟨hcl, hme, hc⟩).imp id fun hf => ?_
    exact (Nat.add_le_add_right (Nat.sub_le cl.buffered 1) _).trans hf
  · cases hre

variable {a : Act}

theorem roomy_step (hs : Wf cap s ∧ Roomy cap s) (ha : a.delivers = true)
    (h : step cap headerLen s a = some s') : Wf cap s' ∧ Roomy cap s' := by
  refine ⟨wf_step hs.1 h, ?_⟩
  cases a with
  | forward a => exact roomy_forward hs.1 hs.2 ha h
  | connect => cases ha
  | client c a =>
    cases a
    case read => exact roomy_read hs.2 h
    all_goals cases ha

theorem not_mutualWait (hs : Wf cap s) (hr : Roomy cap s) (c : Nat) : ¬ MutualWait cap s c := by
  rintro ⟨⟨data, b, left, queue, hf⟩, cl, hcl, hp, hc, hfu, hst⟩
  have hm : c ∈ s.localClients := hs.registered c cl hcl (by rw [hp]; rfl)
  rcases hr c cl ⟨hcl, hm, hc⟩ with hre | hfi
  · simp [hst] at hre
  rw [toClient_head hf, length_cons] at hfi
  omega

/-! ## 4. Delivery -/

variable (cap headerLen) in
def Reaches (s s' : Session) : Prop :=
  ∃ acts : List Act, (∀ a ∈ acts, a.delivers = true) ∧ run (step cap headerLen) s acts = some s'

theorem Reaches.refl (s : Session) : Reaches cap headerLen s s := ⟨[], by simp, rfl⟩

variable {s₁ : Session}

theorem Reaches.trans {s₂ s₃ : Session} (h : Reaches cap headerLen s₁ s₂)
    (h' : Reaches cap headerLen s₂ s₃) : Reaches cap headerLen s₁ s₃ := by
  obtain ⟨acts, hac, hr⟩ := h
  obtain ⟨t', hac', hr'⟩ := h'
  refine ⟨acts ++ t', fun a ha => ?_, by rw [run_append, hr, bind_some, hr']⟩
  rcases mem_append.mp ha with ha | ha
  · exact hac a ha
  · exact hac' a ha

theorem reaches_step (ha : a.delivers = true) (h : step cap headerLen s a = some s') :
    Reaches cap headerLen s s' :=
  ⟨[a], by simpa using ha, by rw [run_singleton, h]⟩

theorem Reaches.keeps (h : Reaches cap headerLen s s') (hs : Wf cap s ∧ Roomy cap s) :
    Wf cap s' ∧ Roomy cap s' := by
  obtain ⟨t, ha, hr⟩ := h
  have hk := run_invariant_of_mem hr hs ha fun _ _ _ => roomy_step
  exact hk

/-- The clients got these bytes, and nothing else has changed but the
forwarder. -/
structure Served (s s' : Session) (bytes : Nat → List Byte) : Prop where
  chunks : s'.chunks = s.chunks
  nexus : s'.nexus = s.nexus
  localClients : s'.localClients = s.localClients
  clients : ∀ (c : Nat) (cl : Client), s.clients[c]? = some cl →
    ∃ cl', s'.clients[c]? = some cl' ∧ cl'.connected = cl.connected
      ∧ (cl.connected = true → cl'.sent = cl.sent ++ bytes c)

theorem Served.trans {s₂ s₃ : Session} {f g bytes : Nat → List Byte} (h : Served s₁ s₂ f)
    (h' : Served s₂ s₃ g) (hb : ∀ c, f c ++ g c = bytes c) : Served s₁ s₃ bytes := by
  refine ⟨h'.chunks.trans h.chunks, h'.nexus.trans h.nexus, h'.localClients.trans h.localClients,
    fun c cl hcl => ?_⟩
  obtain ⟨cl₂, hcl₂, hc₂, hs₂⟩ := h.clients c cl hcl
  obtain ⟨cl₃, hcl₃, hc₃, hs₃⟩ := h'.clients c cl₂ hcl₂
  refine ⟨cl₃, hcl₃, hc₃.trans hc₂, fun hc => ?_⟩
  rw [hs₃ (hc₂.trans hc), hs₂ hc, append_assoc, hb]

theorem served_forwarder (s : Session) (forwarder : Forwarder) :
    Served s { s with forwarder := forwarder } fun _ => [] :=
  ⟨rfl, rfl, rfl, fun _ cl hcl => ⟨cl, hcl, rfl, fun _ => by simp⟩⟩

variable {cl : Client}

theorem served_set (hcl : s.clients[c]? = some cl) (cl' : Client)
    (hco : cl'.connected = cl.connected) {b : List Byte}
    (hs : cl'.sent = cl.sent ++ b) (forwarder : Forwarder) :
    Served s { s with forwarder := forwarder, clients := s.clients.set c cl' }
      fun c' => if c' = c then b else [] := by
  refine ⟨rfl, rfl, rfl, fun c' cl₁ hcl₁ => ?_⟩
  simp only [get_set hcl]
  by_cases hc : c = c'
  · grind
  · grind

section

variable {data : List Byte} {c : Nat} {queue : List (Nat × List Byte)} {left : List Byte}
  (headerLen) in
theorem push_of_room {b : Byte}
    (hf : s.forwarder = .fanout data ((c, b :: left) :: queue)) {cl : Client}
    (hcl : s.clients[c]? = some cl) (hc : cl.connected = true) (hr : cl.buffered < cap) :
    ∃ s', Reaches cap headerLen s s' ∧ s'.forwarder = .fanout data ((c, left) :: queue)
      ∧ Served s s' fun c' => if c' = c then [b] else [] := by
  refine ⟨_, reaches_step (a := .forward .push) rfl ?_, rfl,
    served_set hcl { cl with buffered := cl.buffered + 1, sent := cl.sent ++ [b] } rfl rfl _⟩
  simp [step, forwarderStep, hf, hcl, Client.put, hc, hr]

variable (headerLen) in
theorem push_byte (hca : 0 < cap) (hs : Wf cap s) (hro : Roomy cap s) {b : Byte}
    (hf : s.forwarder = .fanout data ((c, b :: left) :: queue)) {cl : Client}
    (hcl : s.clients[c]? = some cl) (hc : cl.connected = true) :
    ∃ s', Reaches cap headerLen s s' ∧ s'.forwarder = .fanout data ((c, left) :: queue)
      ∧ Served s s' fun c' => if c' = c then [b] else [] := by
  by_cases hr : cl.buffered < cap
  · exact push_of_room headerLen hf hcl hc hr
  have hm : c ∈ s.localClients := (hs.queue _ _ hf).subset (by simp)
  have hre : cl.stopped = false := by
    refine (hro c cl ⟨hcl, hm, hc⟩).resolve_right fun hfi => ?_
    rw [toClient_head hf, length_cons] at hfi
    omega
  -- the client reads a byte first
  let cl₁ : Client := { cl with buffered := cl.buffered - 1 }
  let s₁ : Session := { s with clients := s.clients.set c cl₁ }
  have hra₁ : step cap headerLen s (.client c .read) = some s₁ := by
    have hp : 0 < cl.buffered := by omega
    simp [step, hcl, clientStep, hc, hre, hp, members, s₁, cl₁]
  have hcl₁ : s₁.clients[c]? = some cl₁ := by
    simp only [s₁, get_set hcl, if_true]
  have hr₁ : cl₁.buffered < cap := by
    have hle := hs.buffered cl (mem_of_getElem? hcl)
    simp only [cl₁]
    omega
  obtain ⟨s₂, hrc, hf₂, hse⟩ := push_of_room (s := s₁) headerLen hf hcl₁ hc hr₁
  have hse₁ : Served s s₁ fun c' => if c' = c then [] else [] :=
    served_set hcl cl₁ rfl (append_nil _).symm s.forwarder
  exact ⟨s₂, (reaches_step rfl hra₁).trans hrc, hf₂,
    hse₁.trans hse fun c' => by rw [ite_self, nil_append]⟩

variable (headerLen) in
theorem finish_write (hca : 0 < cap) :
    ∀ {s : Session}, Wf cap s → Roomy cap s → s.forwarder = .fanout data ((c, left) :: queue) →
      ∃ s', Reaches cap headerLen s s' ∧ s'.forwarder = .fanout data queue
        ∧ Served s s' fun c' => if c' = c then left else [] := by
  induction left with
  | nil =>
    intro s hs hr hf
    obtain ⟨cl, hcl, -⟩ := hs.known c ((hs.queue _ _ hf).subset (by simp))
    refine ⟨{ s with forwarder := .fanout data queue }, reaches_step (a := .forward .next) rfl ?_,
      rfl, ?_⟩
    · simp [step, forwarderStep, hf, hcl, writeReturns]
    · simpa using served_forwarder s (.fanout data queue)
  | cons b left ih =>
    intro s hs hr hf
    obtain ⟨cl, hcl, -⟩ := hs.known c ((hs.queue _ _ hf).subset (by simp))
    cases hc : cl.connected with
    | false =>
      -- the write fails
      refine ⟨{ s with forwarder := .fanout data queue }, reaches_step (a := .forward .next) rfl ?_,
        rfl, rfl, rfl, rfl, fun c' cl' hcl' => ⟨cl', hcl', rfl, fun ho => ?_⟩⟩
      · simp [step, forwarderStep, hf, hcl, writeReturns, hc]
      · grind
    | true =>
      obtain ⟨s₁, hre₁, hf₁, hse₁⟩ := push_byte headerLen hca hs hr hf hcl hc
      obtain ⟨hs₁, hr₁⟩ := hre₁.keeps ⟨hs, hr⟩
      obtain ⟨s₂, hre₂, hf₂, hse₂⟩ := ih hs₁ hr₁ hf₁
      refine ⟨s₂, hre₁.trans hre₂, hf₂, hse₁.trans hse₂ fun c' => ?_⟩
      split <;> rfl

variable (headerLen) in
theorem finish_fanout (hca : 0 < cap) :
    ∀ {queue : List (Nat × List Byte)} {s : Session}, Wf cap s → Roomy cap s →
      s.forwarder = .fanout data queue →
      ∃ s', Reaches cap headerLen s s' ∧ s'.forwarder = .fanout data []
        ∧ Served s s' fun c => (queue.lookup c).getD []
  | [], s, _, _, hf =>
    ⟨s, .refl s, hf, served_forwarder s s.forwarder⟩
  | (c, left) :: queue, s, hs, hr, hf => by
    obtain ⟨s₁, hre₁, hf₁, hse₁⟩ := finish_write headerLen hca hs hr hf
    obtain ⟨hs₁, hr₁⟩ := hre₁.keeps ⟨hs, hr⟩
    obtain ⟨s₂, hre₂, hf₂, hse₂⟩ := finish_fanout hca hs₁ hr₁ hf₁
    refine ⟨s₂, hre₁.trans hre₂, hf₂, hse₁.trans hse₂ fun c' => ?_⟩
    by_cases hc : c' = c
    · subst hc
      simp [hs.lookup_rest hf]
    · grind

end

theorem delivered_idle (h : s.toNexus = []) (hr : s.toRing = [])
    (hc : ∀ c, s.toClient c = []) : Delivered s s :=
  ⟨h, by rw [hr, append_nil], by rw [h, append_nil],
    fun c cl hs => ⟨cl, hs.1, by rw [hc, append_nil]⟩⟩

theorem Delivered.of_step (h : Delivered s₁ s') (hr : s₁.chunks ++ s₁.toRing = s.chunks ++ s.toRing)
    (hn : s₁.nexus ++ s₁.toNexus = s.nexus ++ s.toNexus) (hc : s₁.clients = s.clients)
    (hl : s₁.localClients = s.localClients)
    (hb : ∀ c ∈ s.localClients, s₁.toClient c = s.toClient c) : Delivered s s' := by
  refine ⟨h.idle, h.ring.trans hr, h.nexus.trans hn, ?_⟩
  rintro c cl ⟨hg, hm, hco⟩
  rw [← hb c hm]
  exact h.clients c cl ⟨by rw [hc, hg], by rwa [hl], hco⟩

variable (cap headerLen) in
theorem deliver_sending (h : s.forwarder = .sending data) :
    ∃ s', Reaches cap headerLen s s' ∧ Delivered s s' := by
  let s₁ : Session := { s with forwarder := .reading, nexus := s.nexus ++ [data] }
  have hs : step cap headerLen s (.forward .sendToNexus) = some s₁ := by
    simp [step, forwarderStep, h, s₁]
  have hi : Delivered s₁ s₁ := delivered_idle rfl rfl fun _ => rfl
  exact ⟨s₁, reaches_step rfl hs, hi.of_step (by simp [s₁, toRing, h])
    (by simp [s₁, toNexus, h]) rfl rfl fun c _ => by simp [s₁, toClient, h]⟩

variable (headerLen) in
theorem deliver_fanout (hca : 0 < cap) (hs : Wf cap s) (hro : Roomy cap s)
    (h : s.forwarder = .fanout data queue) : ∃ s', Reaches cap headerLen s s' ∧ Delivered s s' := by
  obtain ⟨s₁, hr, hf, hse⟩ := finish_fanout headerLen hca hs hro h
  let s₂ : Session := { s₁ with forwarder := .sending data }
  have hst : step cap headerLen s₁ (.forward .rUnlock) = some s₂ := by
    simp [step, forwarderStep, hf, s₂]
  obtain ⟨s', hr', hd⟩ := deliver_sending cap headerLen (s := s₂) rfl
  refine ⟨s', (hr.trans (reaches_step rfl hst)).trans hr', hd.idle, ?_, ?_, ?_⟩
  · rw [hd.ring, toRing, toRing, h]
    exact congrArg (· ++ _) hse.chunks
  · rw [hd.nexus, toNexus, toNexus, h]
    exact congrArg (· ++ _) hse.nexus
  rintro c cl ⟨hg, hm, hc⟩
  obtain ⟨cl₁, hcl₁, hc₁, hsn₁⟩ := hse.clients c cl hg
  obtain ⟨cl', hcl', hsn'⟩ := hd.clients c cl₁ ⟨hcl₁, hse.localClients ▸ hm, hc₁.trans hc⟩
  refine ⟨cl', hcl', ?_⟩
  rw [hsn', hsn₁ hc]
  simp [toClient, s₂, h]

variable (headerLen) in
theorem deliver_locking (hc : 0 < cap) (hs : Wf cap s) (hr : Roomy cap s)
    (h : s.forwarder = .locking data) : ∃ s', Reaches cap headerLen s s' ∧ Delivered s s' := by
  obtain ⟨s₁, hst⟩ : ∃ s₁, step cap headerLen s (.forward .rLock) = some s₁ := by
    simp [step, forwarderStep, h]
  obtain ⟨hs₁, hr₁⟩ := roomy_step ⟨hs, hr⟩ rfl hst
  have hs₁_eq : s₁ = { s with
      forwarder := .fanout data (s.localClients.map fun c => (c, data))
      fanned := s.fanned + 1 } := by
    simpa [step, forwarderStep, h] using hst.symm
  obtain ⟨s', hre, hd⟩ := deliver_fanout headerLen hc hs₁ hr₁ (by rw [hs₁_eq])
  subst hs₁_eq
  refine ⟨s', (reaches_step rfl hst).trans hre, hd.of_step ?_ ?_ rfl rfl fun c hm => ?_⟩
  · simp [toRing, h]
  · simp [toNexus, h]
  · simp [toClient, h, lookup_map_of_mem hm]

variable (headerLen) in
theorem deliver_writing (hc : 0 < cap) (hs : Wf cap s) (hr : Roomy cap s)
    (h : s.forwarder = .writing data) : ∃ s', Reaches cap headerLen s s' ∧ Delivered s s' := by
  obtain ⟨r, hri⟩ := hs.ring
  obtain ⟨n, hw⟩ := exists_write_ofRing r data
  rw [← hri] at hw
  have hst : step cap headerLen s (.forward .ringWrite)
      = some { s with
          ring := ofRing (data.foldl putByte r), forwarder := .locking data
          chunks := s.chunks ++ [data] } := by
    simp [step, forwarderStep, h, hw]
  obtain ⟨hs₁, hr₁⟩ := roomy_step ⟨hs, hr⟩ rfl hst
  obtain ⟨s', hre, hd⟩ := deliver_locking headerLen hc hs₁ hr₁ rfl
  refine ⟨s', (reaches_step rfl hst).trans hre, hd.of_step ?_ ?_ rfl rfl fun c _ => ?_⟩
  · simp [toRing, h]
  · simp [toNexus, h]
  · simp [toClient, h]

variable (headerLen) in
theorem deliver (hc : 0 < cap) (hs : Wf cap s) (hr : Roomy cap s) :
    ∃ s', Reaches cap headerLen s s' ∧ Delivered s s' := by
  cases h : s.forwarder with
  | writing data => exact deliver_writing headerLen hc hs hr h
  | locking data => exact deliver_locking headerLen hc hs hr h
  | fanout data queue => exact deliver_fanout headerLen hc hs hr h
  | sending data => exact deliver_sending cap headerLen h
  | reading | stopped =>
    exact ⟨s, .refl s, delivered_idle (by simp [toNexus, h]) (by simp [toRing, h])
      fun c => by simp [toClient, h]⟩

def Piles (c : Nat) (cl : Client) (s : Session) : Prop :=
  ∃ cl', s.clients[c]? = some cl' ∧ cl'.stopped = true
    ∧ cl'.buffered + cl.sent.length = cl.buffered + cl'.sent.length

theorem piles_set {c' : Nat} {cl₁ cl₁' : Client} (hcl₁ : s.clients[c']? = some cl₁)
    (hc : s'.clients = s.clients.set c' cl₁') (h : Piles c cl s)
    (hk : cl₁.stopped = true → cl₁'.stopped = true
      ∧ cl₁'.buffered + cl₁.sent.length = cl₁.buffered + cl₁'.sent.length) : Piles c cl s' := by
  grind [Piles, get_set]

theorem piles_step (h : Piles c cl s) (ha : a.delivers = true)
    (hs : step cap headerLen s a = some s') : Piles c cl s' := by
  cases a with
  | forward a =>
    cases forwarderMove_of_step hs
    case push data c' b left queue cl₁ phase client connected room =>
      grind [piles_set, length_append, length_singleton]
    all_goals exact h
  | connect => cases ha
  | client c' a =>
    cases a
    case read =>
      obtain ⟨cl₁, cl₁', hcl₁, hm, rfl⟩ := step_client_eq_some hs
      refine piles_set hcl₁ rfl h fun hst => ?_
      cases hm with
      | read hr =>
        simp [hst] at hr
    all_goals cases ha

theorem roomy_of_delivered (hs : Wf cap s) (hr : Reaches cap headerLen s s')
    (h : Delivered s s') : Roomy cap s := by
  intro c cl hse
  cases hst : cl.stopped with
  | false => exact .inl hst
  | true =>
    obtain ⟨t, ha, hru⟩ := hr
    have hp : Piles c cl s := ⟨cl, hse.1, hst, rfl⟩
    obtain ⟨cl', hcl', -, hg⟩ := run_invariant_of_mem hru hp ha fun _ _ _ => piles_step
    obtain ⟨cl₁, hcl₁, hsn⟩ := h.clients c cl hse
    obtain rfl : cl₁ = cl' := some_inj.mp (hcl₁.symm.trans hcl')
    have hs' : Wf cap s' := run_invariant (fun _ _ _ hs h => wf_step hs h) hs hru
    have hle := hs'.buffered cl₁ (mem_of_getElem? hcl')
    rw [hsn, length_append] at hg
    exact .inr (by omega)

end

/-- In every state of every run, what the forwarder has in hand can reach
the ring buffer, the registered clients and Nexus exactly if each of the
clients reads or has room for its part; and then the forwarder and a
detaching handler do not wait for each other. -/
theorem delivered_iff_roomy {cap : Nat} (hcap : 0 < cap) (headerLen : Nat) (acts : List Act) :
    ∀ s ∈ states (step cap headerLen) newSession acts,
      ((∃ s', Reaches cap headerLen s s' ∧ Delivered s s') ↔ Roomy cap s)
        ∧ (Roomy cap s → ∀ c, ¬ MutualWait cap s c) := by
  intro s hm
  have hs : Wf cap s :=
    forall_states_of_invariant (fun _ _ _ hs h => wf_step hs h) (wf_newSession cap) s hm
  refine ⟨⟨?_, deliver headerLen hcap hs⟩, not_mutualWait hs⟩
  rintro ⟨s', hr, hd⟩
  exact roomy_of_delivered hs hr hd

def attached : List Act :=
  [ .connect, .client 0 .snapshot, .client 0 .writeHeader, .client 0 .hydrate, .client 0 .register,
    .connect, .client 1 .snapshot, .client 1 .writeHeader, .client 1 .hydrate, .client 1 .register,
    .forward (.ptyRead [1, 2]) ]

def attachedSession (ring : RingBuffer) : Session :=
  { ring := ring, forwarder := .writing [1, 2]
    clients := [{ newClient with phase := .attached }, { newClient with phase := .attached }]
    localClients := [0, 1], chunks := [], fanned := 0, nexus := [] }

theorem run_attached (he : snapshot ring₀ = some []) :
    run (step 1 0) (sessionWith ring₀) attached = some (attachedSession ring₀) := by
  simp [attached, attachedSession, run, step, clientStep, forwarderStep, sessionWith, newClient,
    members, locked, he]

theorem delivered_attached :
    0 < 1 ∧ Roomy 1 (attachedSession (newRingBuffer 0))
      ∧ ∃ s', Reaches 1 0 (attachedSession (newRingBuffer 0)) s'
        ∧ Delivered (attachedSession (newRingBuffer 0)) s' := by
  have hru := run_attached (snapshot_newRingBuffer 0)
  have hr : Roomy 1 (attachedSession (newRingBuffer 0)) := by
    rintro c cl ⟨hg, hm, -⟩
    have hm' : c = 0 ∨ c = 1 := by simpa [attachedSession] using hm
    rcases hm' with rfl | rfl <;> cases hg <;> exact .inl rfl
  have hi := delivered_iff_roomy Nat.one_pos 0 attached _ (mem_states_of_run hru)
  exact ⟨Nat.one_pos, hr, hi.1.mpr hr⟩

/-! ## 5. Waiting for each other -/

/-- The forwarder and a client's handler still wait for each other, and
the output has got no further. -/
structure Standstill (cap : Nat) (c : Nat) (s s' : Session) : Prop where
  waits : MutualWait cap s' c
  forwarder : s'.forwarder = s.forwarder
  chunks : s'.chunks = s.chunks
  nexus : s'.nexus = s.nexus

theorem Standstill.trans {cap c : Nat} {s₁ s₂ s₃ : Session} (h : Standstill cap c s₁ s₂)
    (h' : Standstill cap c s₂ s₃) : Standstill cap c s₁ s₃ :=
  ⟨h'.waits, h'.forwarder.trans h.forwarder, h'.chunks.trans h.chunks, h'.nexus.trans h.nexus⟩

section

variable {cap headerLen : Nat} {s s' : Session} {c : Nat}

theorem standstill_step {a : Act} (h : MutualWait cap s c) (ha : a ≠ .client c .hangUp)
    (hs : step cap headerLen s a = some s') : Standstill cap c s s' := by
  obtain ⟨⟨data, b, left, queue, hf⟩, cl, hcl, hp, hco, hfu, hst⟩ := h
  cases a with
  | forward a =>
    cases forwarderMove_of_step hs
    case push data' c' b' left' queue' cl' phase client connected room => grind
    case next data' c' left' queue' cl' phase client returns => grind
    case ptyRead phase _ | ringWrite phase _ | ptyEnd phase | rLock phase | sendToNexus phase
        | rUnlock phase =>
      simp [hf] at phase
  | connect =>
    cases hs
    refine ⟨⟨⟨data, b, left, queue, hf⟩, cl, ?_, hp, hco, hfu, hst⟩,
      rfl, rfl, rfl⟩
    rw [getElem?_append_left (List.getElem?_eq_some_iff.mp hcl).1, hcl]
  | client c' a =>
    obtain ⟨cl₁, cl₁', hcl₁, hm, rfl⟩ := step_client_eq_some hs
    refine ⟨⟨⟨data, b, left, queue, hf⟩, ?_⟩, rfl, rfl, rfl⟩
    simp only [get_set hcl₁]
    by_cases hc : c' = c
    · subst hc
      obtain rfl : cl₁ = cl := some_inj.mp (hcl₁.symm.trans hcl)
      refine ⟨cl₁', by rw [if_pos rfl], ?_⟩
      cases hm
      case stopReading => exact ⟨hp, hco, hfu, rfl⟩
      case halfClose => exact ⟨hp, hco, hfu, hst⟩
      case hangUp => exact absurd rfl ha
      case remove phase free =>
        -- the forwarder holds the lock
        rw [locked, hf] at free
        cases free
      case read reads =>
        simp [hst] at reads
      all_goals simp [hp] at *
    · grind

theorem standstill_run {t : List Act} (h : MutualWait cap s c)
    (hac : ∀ a ∈ t, a ≠ .client c .hangUp) (hr : run (step cap headerLen) s t = some s') :
    Standstill cap c s s' := by
  have hn : Standstill cap c s s := ⟨h, rfl, rfl, rfl⟩
  exact run_invariant_of_mem hr hn hac fun _ _ _ hs ha hst =>
    hs.trans (standstill_step hs.waits ha hst)

end

def stalled : List Act :=
  attached ++ [ .forward .ringWrite, .forward .rLock, .forward .push,
    .client 0 .stopReading, .client 0 .halfClose, .client 0 (.leave false) ]

theorem run_stalled (he : snapshot ring₀ = some []) (hw : write ring₀ [1, 2] = some (ring, n)) :
    run (step 1 0) (sessionWith ring₀) stalled
      = some { ring := ring, forwarder := .fanout [1, 2] [(0, [2]), (1, [1, 2])]
               clients := [{ newClient with
                   phase := .detaching, eof := true, stopped := true, buffered := 1, sent := [1] },
                 { newClient with phase := .attached }]
               localClients := [0, 1], chunks := [[1, 2]], fanned := 1, nexus := [] } := by
  rw [stalled, run_append, run_attached he]
  simp [attachedSession, run, step, clientStep, forwarderStep, newClient, members, Client.put, hw]

/-- The forwarder and the handler wait for each other until the client
hangs up: the other client and Nexus do not get the output. -/
theorem output_stuck :
    ∃ s, run (step 1 0) newSession stalled = some s
      ∧ s.forwarder = .fanout [1, 2] [(0, [2]), (1, [1, 2])] ∧ s.nexus = []
      ∧ ∀ acts s', (∀ a ∈ acts, a ≠ .client 0 .hangUp) → run (step 1 0) s acts = some s' →
        Standstill 1 0 s s' := by
  obtain ⟨r, hr, -⟩ := exists_ofRing_newRingBuffer 0
  obtain ⟨n, hw⟩ := exists_write_ofRing r [1, 2]
  rw [← hr] at hw
  refine ⟨_, run_stalled (snapshot_newRingBuffer 0) hw, rfl, rfl, fun acts s' ha hru => ?_⟩
  refine standstill_run ⟨⟨_, _, _, _, rfl⟩, _, rfl, rfl, rfl, ?_, rfl⟩ ha hru
  exact Nat.le_refl 1

end Daao.Daemon.LocalClients

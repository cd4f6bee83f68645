/-
Daao.AgentStream.ChannelsTheorems — what the subscribers of the hub receive.

`Ledger` is computed from the calls alone: who is subscribed to which run,
which events a subscriber is owed, and how many of them it has taken. Every
call keeps the hub in agreement with it, and without a panic.
-/
import Daao.AgentStream.Channels
import Daao.Lib.Trace

namespace Daao.AgentStream.Channels

open Daao.Lib List Function Hub

/-! ## What the subscribers are owed -/

/-- The history of the calls, as far as the subscribers are concerned. -/
structure Ledger (Run Sub Ev : Type) where
  /-- the run a subscriber is subscribed to, from `Subscribe` to its removal -/
  runOf : Sub → Option Run
  /-- the events published to its run in that time that found room -/
  owed : Sub → List Ev
  /-- how many of them it has received -/
  taken : Sub → Nat

variable {Run Sub Ev : Type}

namespace Ledger

def new : Ledger Run Sub Ev :=
  { runOf := fun _ => none, owed := fun _ => [], taken := fun _ => 0 }

def waiting (l : Ledger Run Sub Ev) (sub : Sub) : List Ev := (l.owed sub).drop (l.taken sub)

variable [DecidableEq Run] [DecidableEq Sub]

def record (l : Ledger Run Sub Ev) : Act Run Sub Ev → Ledger Run Sub Ev
  | .subscribe runID sub => { l with runOf := Function.update l.runOf sub (some runID) }
  | .unsubscribe runID sub =>
    if l.runOf sub = some runID then { l with runOf := Function.update l.runOf sub none } else l
  | .publish runID event => { l with
      owed := fun sub =>
        if l.runOf sub = some runID ∧ (l.waiting sub).length < channelSize then
          l.owed sub ++ [event]
        else l.owed sub }
  | .close runID => { l with
      runOf := fun sub => if l.runOf sub = some runID then none else l.runOf sub }
  | .receive sub =>
    if (l.waiting sub).isEmpty then l
    else { l with taken := Function.update l.taken sub (l.taken sub + 1) }

def ofActs (as : List (Act Run Sub Ev)) : Ledger Run Sub Ev := as.foldl record new

end Ledger

/-- A subscriber's flag and channel are as its history says. -/
structure Kept (made : Prop) (run : Option Run) (owed : List Ev) (taken : Nat) (flag : Bool)
    (c : Chan Ev) : Prop where
  /-- the channel is closed from the removal of the subscriber on -/
  closed_iff : c.closed = true ↔ made ∧ run = none
  flag_eq : flag = c.closed
  unmade : ¬ made → run = none ∧ owed = []
  buf : c.buf = owed.drop taken
  taken_le : taken ≤ owed.length

structure Agrees (h : Hub Run Sub Ev) (l : Ledger Run Sub Ev) : Prop where
  mem_members : ∀ runID sub, sub ∈ h.members runID ↔ l.runOf sub = some runID
  nodup : ∀ runID, (h.members runID).Nodup
  /-- no entry for a run without subscribers -/
  entry : ∀ runID, h.clients runID ≠ some []
  kept : ∀ sub, Kept (sub ∈ h.made) (l.runOf sub) (l.owed sub) (l.taken sub) (h.closed sub)
    (h.ch sub)

/-! ## What each call does to a hub that agrees -/

variable {h h' : Hub Run Sub Ev} {l : Ledger Run Sub Ev}

theorem agrees_new : Agrees (new : Hub Run Sub Ev) Ledger.new where
  mem_members := by simp [members, new, Ledger.new]
  nodup := by simp [members, new]
  entry := by simp [new]
  kept sub := by
    constructor <;> simp [new, Ledger.new]

variable {runID : Run} {sub : Sub}

theorem Agrees.open_of_mem (hA : Agrees h l) (hm : sub ∈ h.members runID) :
    (h.ch sub).closed = false := by
  rw [hA.mem_members] at hm
  rw [Bool.eq_false_iff]
  intro hc
  simp [((hA.kept sub).closed_iff.mp hc).2] at hm

theorem Agrees.mem_made (hA : Agrees h l) (hr : l.runOf sub = some runID) : sub ∈ h.made := by
  refine Classical.byContradiction fun hm => ?_
  simp [((hA.kept sub).unmade hm).1] at hr

theorem members_of_some {clients : List Sub} (hc : h.clients runID = some clients) :
    h.members runID = clients := by
  simp [members, hc]

@[simp] theorem getD_entry (clients : List Sub) : (entry clients).getD [] = clients := by
  cases clients <;> rfl

theorem entry_ne (clients : List Sub) : entry clients ≠ some [] := by
  cases clients <;> simp [entry]

theorem hub_ext {v w : RunEventHub Run Sub Ev} (hc : ∀ r, v.clients r = w.clients r)
    (hs : ∀ s, v.subs s = w.subs s) : v = w := by
  obtain ⟨vc, vs⟩ := v
  obtain ⟨wc, ws⟩ := w
  rw [show vc = wc from funext hc, show vs = ws from funext hs]

variable [DecidableEq Sub]

/-- The hub after an event was offered to all of a run's subscribers. -/
def offered (h : Hub Run Sub Ev) (runID : Run) (event : Ev) : Hub Run Sub Ev :=
  { h with
    ch := fun sub =>
      if sub ∈ h.members runID then (h.ch sub).offer channelSize event else h.ch sub }

theorem publish_eq (hA : Agrees h l) (runID : Run) (event : Ev) :
    h.publish runID event = .ok (offered h runID event) := by
  have ha : ∀ sub ∈ h.members runID,
      h.deliver event sub (h.ch sub) = .ok ((h.ch sub).offer channelSize event) := by
    intro sub hm
    have ho := hA.open_of_mem hm
    simp [deliver, (hA.kept sub).flag_eq, ho, Chan.trySend_of_open ho]
  rw [publish, forEach_ok (g := fun _ c => c.offer channelSize event) (hA.nodup runID) ha]
  rfl

variable [DecidableEq Run]

def without (h : Hub Run Sub Ev) (runID : Run) (sub : Sub) : Hub Run Sub Ev :=
  { h with
    clients := Function.update h.clients runID (Hub.entry ((h.members runID).erase sub))
    closed := Function.update h.closed sub true
    ch := Function.update h.ch sub { h.ch sub with closed := true } }

theorem unsubscribe_eq (hA : Agrees h l) (runID : Run) (sub : Sub) :
    h.unsubscribe runID sub =
      .ok (if sub ∈ h.members runID then without h runID sub else h) := by
  cases hc : h.clients runID with
  | none => simp [unsubscribe, hc, members]
  | some clients =>
    have hm := members_of_some hc
    by_cases hme : sub ∈ clients
    · have ho := hA.open_of_mem (hm ▸ hme : sub ∈ h.members runID)
      simp [unsubscribe, hc, hme, Chan.close_of_open ho, hm, without]
    -- the set is not empty, so the entry is put back as it was
    have hne : entry clients = some clients := by
      cases clients with
      | nil => exact absurd hc (hA.entry runID)
      | cons c cs => rfl
    have hs : update h.clients runID (some clients) = h.clients := by
      rw [← hc, update_eq_self]
    simp [unsubscribe, hc, hme, hm, hne, hs]

def withoutRun (h : Hub Run Sub Ev) (runID : Run) : Hub Run Sub Ev :=
  { h with
    clients := Function.update h.clients runID none
    closed := fun sub => if sub ∈ h.members runID then true else h.closed sub
    ch := fun sub =>
      if sub ∈ h.members runID then { h.ch sub with closed := true } else h.ch sub }

theorem close_eq (hA : Agrees h l) (runID : Run) : h.close runID = .ok (withoutRun h runID) := by
  have ha : ∀ sub ∈ h.members runID, (h.ch sub).close = .ok { h.ch sub with closed := true } :=
    fun sub hm => Chan.close_of_open (hA.open_of_mem hm)
  rw [close, forEach_ok (f := fun _ c => c.close)
    (g := fun _ c => { c with closed := true }) (hA.nodup runID) ha]
  rfl

/-! ## Each call keeps the hub in agreement -/

section

variable (hA : Agrees h l)

include hA

omit [DecidableEq Sub] in
/-- The entry of one run changes. -/
theorem Agrees.update {l' : Ledger Run Sub Ev} {e : Option (List Sub)}
    (hc : h'.clients = update h.clients runID e) (he : e ≠ some [])
    (hn : (e.getD []).Nodup) (hme : ∀ s, s ∈ e.getD [] ↔ l'.runOf s = some runID)
    (ho : ∀ r, r ≠ runID → ∀ s, l.runOf s = some r ↔ l'.runOf s = some r)
    (hk : ∀ s, Kept (s ∈ h'.made) (l'.runOf s) (l'.owed s) (l'.taken s) (h'.closed s)
      (h'.ch s)) : Agrees h' l' := by
  have hm : ∀ r, h'.members r = if r = runID then e.getD [] else h.members r := by
    intro r
    rw [members, hc, update_apply]
    split <;> rfl
  refine ⟨fun r s => ?_, fun r => ?_, fun r => ?_, hk⟩
  · grind [hA.mem_members]
  · rw [hm]
    split
    · exact hn
    · exact hA.nodup r
  rw [hc, update_apply]
  split
  · exact he
  · exact hA.entry r

theorem agrees_subscribe (hn : sub ∉ h.made) :
    Agrees (h.subscribe runID sub) (l.record (.subscribe runID sub)) := by
  obtain ⟨hru, ho⟩ := (hA.kept sub).unmade hn
  have hou : sub ∉ h.members runID := by simp [hA.mem_members, hru]
  refine hA.update rfl (by simp) (nodup_cons.mpr ⟨hou, hA.nodup runID⟩) (fun s => ?_)
    (fun r hr s => ?_) fun s => ?_ <;> by_cases hs : s = sub
  · simp [Ledger.record, hs]
  · simp [Ledger.record, hs, hA.mem_members]
  · simp [Ledger.record, hs, hru, symm hr]
  · simp [Ledger.record, hs]
  · subst hs
    refine ⟨?_, ?_, ?_, ?_, (hA.kept s).taken_le⟩ <;> simp [subscribe, Ledger.record, ho]
  · simpa [subscribe, Ledger.record, hs] using hA.kept s

theorem agrees_unsubscribe (hme : sub ∈ h.members runID) :
    Agrees (without h runID sub) (l.record (.unsubscribe runID sub)) := by
  have hru : l.runOf sub = some runID := (hA.mem_members runID sub).mp hme
  refine hA.update rfl (entry_ne _) (by simpa using (hA.nodup runID).erase sub) (fun s => ?_)
    (fun r hr s => ?_) fun s => ?_ <;> by_cases hs : s = sub
  · simp [Ledger.record, hs, hru, (hA.nodup runID).not_mem_erase]
  · simp [Ledger.record, hs, hru, mem_erase_of_ne hs, hA.mem_members]
  · simp [Ledger.record, hs, hru, symm hr]
  · simp [Ledger.record, hs, hru]
  · subst hs
    have hm := hA.mem_made hru
    refine ⟨?_, ?_, absurd hm, ?_, ?_⟩
    · simp [without, Ledger.record, hru, hm]
    · simp [without]
    · simpa [without, Ledger.record, hru] using (hA.kept s).buf
    · simpa [Ledger.record, hru] using (hA.kept s).taken_le
  · simpa [without, Ledger.record, hs, hru] using hA.kept s

theorem agrees_publish (runID : Run) (e : Ev) :
    Agrees (offered h runID e) (l.record (.publish runID e)) := by
  refine ⟨hA.mem_members, hA.nodup, hA.entry, fun s => ?_⟩
  have hs := hA.kept s
  by_cases hme : s ∈ h.members runID
  · have hr := (hA.mem_members runID s).mp hme
    simp only [offered, hme, if_true, Ledger.record, hr, true_and, Ledger.waiting, ← hs.buf,
      Chan.offer]
    rw [hr] at hs
    split
    · refine ⟨hs.closed_iff, hs.flag_eq, fun hm => ?_, ?_, ?_⟩
      · cases (hs.unmade hm).1
      · rw [drop_append_of_le_length hs.taken_le, hs.buf]
      rw [length_append]
      exact Nat.le_add_right_of_le hs.taken_le
    · exact hs
  · grind [offered, Ledger.record, hA.mem_members]

theorem agrees_close (runID : Run) :
    Agrees (withoutRun h runID) (l.record (.close runID)) := by
  refine hA.update rfl (by simp) nodup_nil (fun s => ?_) (fun r hr s => ?_) fun s => ?_
  · simp only [Ledger.record]
    split <;> simp_all
  · simp only [Ledger.record]
    split <;> simp_all [symm hr]
  have hs := hA.kept s
  by_cases hru : l.runOf s = some runID
  · have hme := (hA.mem_members runID s).mpr hru
    have hma := hA.mem_made hru
    refine ⟨?_, ?_, absurd hma, ?_, hs.taken_le⟩
    · simp [withoutRun, Ledger.record, hme, hru, hma]
    · simp [withoutRun, hme]
    · simpa [withoutRun, Ledger.record, hme] using hs.buf
  have hme : s ∉ h.members runID := fun hm => hru ((hA.mem_members runID s).mp hm)
  simpa [withoutRun, Ledger.record, hme, hru] using hs

end

def tookFrom (h : Hub Run Sub Ev) (sub : Sub) : Hub Run Sub Ev :=
  { h with ch := Function.update h.ch sub { h.ch sub with buf := (h.ch sub).buf.tail } }

theorem agrees_receive (hA : Agrees h l) (sub : Sub) :
    Agrees (tookFrom h sub) (l.record (.receive sub)) := by
  by_cases hw : l.waiting sub = []
  · -- nothing is taken
    have hsa : tookFrom h sub = h := by
      have hb : (h.ch sub).buf.tail = (h.ch sub).buf := by
        rw [(hA.kept sub).buf, show (l.owed sub).drop (l.taken sub) = [] from hw, tail_nil]
      rw [tookFrom, hb, update_eq_self]
    simpa [Ledger.record, hw, hsa] using hA
  simp only [Ledger.record, List.isEmpty_iff, hw, if_false]
  refine ⟨hA.mem_members, hA.nodup, hA.entry, fun s => ?_⟩
  have hs := hA.kept s
  by_cases heq : s = sub
  · subst heq
    simp only [Ledger.waiting, drop_eq_nil_iff] at hw
    simp only [tookFrom, update_self]
    refine ⟨hs.closed_iff, hs.flag_eq, hs.unmade, ?_, by omega⟩
    rw [hs.buf, tail_drop]
  · simpa [tookFrom, heq] using hs

variable {a : Act Run Sub Ev}

/-- **Step lemma.** No call panics, and the hub goes on as the ledger
says. -/
theorem agrees_apply (hA : Agrees h l) (hen : Enabled h a) :
    ∃ h', apply h a = .ok h' ∧ Agrees h' (l.record a) := by
  cases a with
  | subscribe runID sub => exact ⟨_, rfl, agrees_subscribe hA (of_decide_eq_true hen)⟩
  | unsubscribe runID sub =>
    refine ⟨_, unsubscribe_eq hA runID sub, ?_⟩
    split
    · next hm => exact agrees_unsubscribe hA hm
    next hm =>
    rw [hA.mem_members] at hm
    simpa [Ledger.record, hm] using hA
  | publish runID e => exact ⟨_, publish_eq hA runID e, agrees_publish hA runID e⟩
  | close runID => exact ⟨_, close_eq hA runID, agrees_close hA runID⟩
  | receive sub => exact ⟨_, rfl, agrees_receive hA sub⟩

theorem agrees_step (hA : Agrees h l) (hs : step h a = some h') : Agrees h' (l.record a) := by
  unfold step at hs
  split at hs
  · next hen =>
    obtain ⟨h₁, ha, hA₁⟩ := agrees_apply hA hen
    rw [ha] at hs
    cases hs
    exact hA₁
  · cases hs

variable {as : List (Act Run Sub Ev)}

/-- **Run lemma.** After any calls the hub is in agreement with their
ledger. -/
theorem agrees_run (hA : Agrees h l) (hr : run step h as = some h') :
    Agrees h' (as.foldl Ledger.record l) := by
  induction as generalizing h l with
  | nil =>
    cases hr
    exact hA
  | cons a as ih => grind [run_cons_eq_some, agrees_step]

/-! ## What is received -/

theorem take_record (hA : Agrees h l) (sub : Sub) (a : Act Run Sub Ev) :
    ((l.record a).owed sub).take ((l.record a).taken sub) =
      (l.owed sub).take (l.taken sub) ++ receivedIn sub h a := by
  cases a with
  | subscribe | close => simp [Ledger.record, receivedIn]
  | unsubscribe runID s =>
    simp only [Ledger.record, receivedIn, append_nil]
    split <;> rfl
  | publish runID e =>
    have ht := (hA.kept sub).taken_le
    simp only [Ledger.record, receivedIn, append_nil]
    split
    · exact take_append_of_le_length ht
    · rfl
  | receive s =>
    by_cases hs : s = sub
    · subst hs
      have hn : (h.ch s).buf.head? = (l.owed s)[l.taken s]? := by
        rw [(hA.kept s).buf, head?_drop]
      simp only [Ledger.record, receivedIn, if_true, hn]
      split
      · next he =>
        simp only [Ledger.waiting, List.isEmpty_iff, drop_eq_nil_iff] at he
        simp [he]
      · simp [take_add_one]
    · have ho : update l.taken s (l.taken s + 1) sub = l.taken sub :=
        update_of_ne (symm hs) _ _
      simp only [Ledger.record, receivedIn, hs, if_false, append_nil]
      split
      · rfl
      · simp only [ho]

theorem take_run (hA : Agrees h l) (hru : run step h as = some h') (sub : Sub) :
    ((as.foldl Ledger.record l).owed sub).take ((as.foldl Ledger.record l).taken sub) =
      (l.owed sub).take (l.taken sub) ++ receivedBy sub h as := by
  induction as generalizing h l with
  | nil => simp [receivedBy]
  | cons a as ih =>
    obtain ⟨h₁, hs, hr⟩ := run_cons_eq_some.mp hru
    rw [foldl_cons, ih (agrees_step hA hs) hr, take_record hA]
    simp [receivedBy, hs]

theorem mem_owed_record {v : Ev} (hm : v ∈ (l.record a).owed sub) :
    v ∈ l.owed sub ∨ ∃ runID, a = .publish runID v ∧ l.runOf sub = some runID := by
  cases a with
  | subscribe | close => exact .inl hm
  | unsubscribe | receive =>
    simp only [Ledger.record] at hm
    split at hm <;> exact .inl hm
  | publish runID e => grind [Ledger.record]

theorem published_of_mem_owed {e : Ev} (hm : e ∈ (as.foldl Ledger.record l).owed sub) :
    e ∈ l.owed sub ∨ ∃ p s runID, as = p ++ .publish runID e :: s ∧
      (p.foldl Ledger.record l).runOf sub = some runID := by
  induction as generalizing l with
  | nil => exact .inl hm
  | cons a as ih =>
    obtain he | ⟨p, s, runID, has, hr⟩ := ih hm
    · obtain hold | ⟨runID, rfl, hr⟩ := mem_owed_record he
      · exact .inl hold
      · exact .inr ⟨[], as, runID, rfl, hr⟩
    · grind

/-- **The hub serves its subscribers.** After any calls: none that can come
next panics; what a subscriber has received, followed by what waits in its
channel, is what was published to its run while it was subscribed and found
room; the sets hold exactly the subscribed; a channel is closed once its
subscriber was removed; and no run without subscribers has an entry. -/
theorem subscribers_served (as : List (Act Run Sub Ev)) (h : Hub Run Sub Ev)
    (hrun : run step Hub.new as = some h) :
    (∀ a, Enabled h a → ∃ h', apply h a = .ok h') ∧
    (∀ sub, receivedBy sub Hub.new as ++ (h.ch sub).buf = (Ledger.ofActs as).owed sub) ∧
    (∀ sub, ∀ event ∈ (Ledger.ofActs as).owed sub,
      ∃ pre post runID, as = pre ++ .publish runID event :: post ∧
        (Ledger.ofActs pre).runOf sub = some runID) ∧
    (∀ runID sub, sub ∈ h.members runID ↔ (Ledger.ofActs as).runOf sub = some runID) ∧
    (∀ sub, (h.ch sub).closed = true ↔ sub ∈ h.made ∧ (Ledger.ofActs as).runOf sub = none) ∧
    (∀ runID, h.clients runID ≠ some []) := by
  have hA : Agrees h (Ledger.ofActs as) := agrees_run agrees_new hrun
  refine ⟨?_, ?_, ?_, hA.mem_members, fun sub => (hA.kept sub).closed_iff, hA.entry⟩
  · intro a hen
    obtain ⟨h', ha, -⟩ := agrees_apply hA hen
    exact ⟨h', ha⟩
  · intro sub
    have ht := take_run agrees_new hrun sub
    calc receivedBy sub new as ++ (h.ch sub).buf
        = ((Ledger.ofActs as).owed sub).take ((Ledger.ofActs as).taken sub) ++ (h.ch sub).buf := by
          rw [Ledger.ofActs, ht]
          rfl
      _ = (Ledger.ofActs as).owed sub := by
          rw [(hA.kept sub).buf, take_append_drop]
  intro sub event hm
  exact (published_of_mem_owed hm).resolve_left not_mem_nil

/-- Two subscribers of one run and one of another; the first leaves twice,
the second time with the other's run. -/
theorem subscribers_served_two_runs : let as : List (Act Nat Nat Nat) :=
      [.subscribe 0 0, .subscribe 0 1, .subscribe 1 2, .publish 0 10, .publish 1 20, .receive 0,
        .unsubscribe 0 0, .unsubscribe 1 0, .publish 0 11, .close 1]
    ∃ h, run step new as = some h ∧
      receivedBy 1 new as ++ (h.ch 1).buf = (Ledger.ofActs as).owed 1 ∧
      (Ledger.ofActs as).owed 0 = [10] ∧ (Ledger.ofActs as).owed 1 = [10, 11] ∧
      (Ledger.ofActs as).owed 2 = [20] ∧ h.clients 1 = none :=
  ⟨_, rfl, (subscribers_served _ _ rfl).2.1 1, rfl, rfl, rfl, rfl⟩

/-! ## The hub as its users see it -/

/-- The hub with a run's entry read as a list and a channel's state as the
flag. -/
def view (h : Hub Run Sub Ev) : RunEventHub Run Sub Ev :=
  { clients := h.members
    subs := fun sub => { ch := (h.ch sub).buf, closed := h.closed sub } }

def callOn (v : RunEventHub Run Sub Ev) : Act Run Sub Ev → RunEventHub Run Sub Ev
  | .subscribe runID sub => v.subscribe runID sub
  | .unsubscribe runID sub => v.unsubscribe runID sub
  | .publish runID event => v.publish runID event
  | .close runID => v.close runID
  | .receive sub =>
    match (v.subs sub).receive with
    | some (_, s) => { v with subs := Function.update v.subs sub s }
    | none => v

theorem view_subscribe (h : Hub Run Sub Ev) (runID : Run) (sub : Sub) :
    view (h.subscribe runID sub) = (view h).subscribe runID sub := by
  apply hub_ext
  · intro r
    by_cases hr : r = runID <;>
      simp [view, members, subscribe, RunEventHub.subscribe, hr]
  intro s
  by_cases hs : s = sub <;> simp [view, subscribe, RunEventHub.subscribe, hs]

theorem view_without (h : Hub Run Sub Ev) (hm : sub ∈ h.members runID) :
    view (without h runID sub) = (view h).unsubscribe runID sub := by
  have hv : sub ∈ (view h).clients runID := hm
  rw [RunEventHub.unsubscribe, if_pos hv]
  apply hub_ext
  · intro r
    by_cases hr : r = runID <;> simp [view, members, without, hr]
  intro s
  by_cases hs : s = sub <;> simp [view, without, hs]

omit [DecidableEq Run] in
theorem view_offered (hA : Agrees h l) (runID : Run) (event : Ev) :
    view (offered h runID event) = (view h).publish runID event := by
  apply hub_ext
  · intro r
    rfl
  intro s
  by_cases hm : s ∈ h.members runID
  · have ho : h.closed s = false := by rw [(hA.kept s).flag_eq, hA.open_of_mem hm]
    simp only [view, offered, RunEventHub.publish, hm, if_true, Subscriber.send, ho, Chan.offer_buf]
    split <;> rfl
  · simp [view, offered, RunEventHub.publish, hm]

theorem view_withoutRun (h : Hub Run Sub Ev) (runID : Run) :
    view (withoutRun h runID) = (view h).close runID := by
  apply hub_ext
  · intro r
    by_cases hr : r = runID <;> simp [view, members, withoutRun, RunEventHub.close, hr]
  intro s
  by_cases hm : s ∈ h.members runID <;> simp [view, withoutRun, RunEventHub.close, hm]

theorem view_tookFrom (h : Hub Run Sub Ev) (sub : Sub) :
    view (tookFrom h sub) = callOn (view h) (.receive sub) := by
  apply hub_ext
  · intro r
    simp only [callOn]
    split <;> rfl
  intro s
  cases hb : (h.ch sub).buf with
  | nil =>
    -- nothing is taken, from an open channel or a closed one
    cases hf : h.closed sub <;> by_cases hs : s = sub <;>
      simp [view, tookFrom, callOn, Subscriber.receive, hb, hf, hs]
  | cons v e =>
    by_cases hs : s = sub <;> simp [view, tookFrom, callOn, Subscriber.receive, hb, hs]

/-- **Refinement.** Every call does to the hub its users see what it does to
the hub of the source. -/
theorem view_step (hA : Agrees h l) (hs : step h a = some h') : view h' = callOn (view h) a := by
  unfold step at hs
  split at hs
  case isFalse => cases hs
  cases a with
  | subscribe runID sub =>
    cases hs
    exact view_subscribe h runID sub
  | unsubscribe runID sub =>
    rw [apply, unsubscribe_eq hA] at hs
    cases hs
    split
    · next hm => exact view_without h hm
    next hm =>
    have hv : sub ∉ (view h).clients runID := hm
    rw [callOn, RunEventHub.unsubscribe, if_neg hv]
  | publish runID e =>
    rw [apply, publish_eq hA] at hs
    cases hs
    exact view_offered hA runID e
  | close runID =>
    rw [apply, close_eq hA] at hs
    cases hs
    exact view_withoutRun h runID
  | receive sub =>
    cases hs
    exact view_tookFrom h sub

theorem view_run (hA : Agrees h l) (hru : run step h as = some h') :
    view h' = as.foldl callOn (view h) := by
  induction as generalizing h l with
  | nil =>
    cases hru
    rfl
  | cons a as ih =>
    obtain ⟨h₁, hs, hr⟩ := run_cons_eq_some.mp hru
    rw [foldl_cons, ih (agrees_step hA hs) hr, view_step hA hs]

end Daao.AgentStream.Channels

/-
Daao.Notification.SSEHub — the hub that hands notifications to the open SSE
streams of a user (`internal/notification/sse.go`).

`clients` maps a user to a set of channels. The set is a map of its own,
and a map in Go is a reference: a `Broadcast` reads the reference under the
lock and goes over the set after it has released it. So it sees the
removals made meanwhile; and a set that was emptied is dropped, the next
`Subscribe` making a new one, which an earlier `Broadcast` does not see.

`Subscribe` and `Unsubscribe` hold the lock to their end and are one step
each. A `Broadcast` is the read of the set, and then for each channel two
steps: the loop takes the channel from the set, and it sends. Nothing holds
the two together. `Unsubscribe` closes the channel it is given whether or
not it is in the set.
-/
import Daao.Lib.GoChan
import Daao.Lib.Trace

namespace Daao.Notification

open Daao.Lib List Function

def channelSize : Nat := 64

structure Broadcast (Ch Note : Type) where
  note : Note
  /-- the set it goes over; none for a user without clients -/
  clients : Option Nat
  /-- what was in the set when it was read -/
  before : List Ch
  visited : List Ch
  /-- the channel of the current iteration, before the send -/
  taken : Option Ch

structure SSEHub (User Ch Note : Type) where
  clients : User → Option Nat
  sets : Nat → List Ch
  nextSet : Nat
  ch : Ch → Chan Note
  made : List Ch
  broadcasts : List (Broadcast Ch Note)

inductive Act (User Ch Note : Type) where
  | subscribe (userID : User) (ch : Ch)
  | unsubscribe (userID : User) (ch : Ch)
  /-- `Broadcast(userID, n)`, up to its loop -/
  | broadcast (userID : User) (n : Note)
  /-- the loop of the `i`-th `Broadcast` takes a channel -/
  | take (i : Nat) (ch : Ch)
  | send (i : Nat)
  | done (i : Nat)
  | receive (ch : Ch)

section Model

variable {User Ch Note : Type} [DecidableEq User] [DecidableEq Ch]

namespace SSEHub

def new : SSEHub User Ch Note :=
  { clients := fun _ => none, sets := fun _ => [], nextSet := 0, ch := fun _ => .make, made := []
    broadcasts := [] }

variable (h : SSEHub User Ch Note)

def subscribe (userID : User) (ch : Ch) : SSEHub User Ch Note :=
  let h := { h with ch := Function.update h.ch ch .make, made := ch :: h.made }
  match h.clients userID with
  | some m => { h with sets := Function.update h.sets m (ch :: h.sets m) }
  | none => { h with
      clients := Function.update h.clients userID (some h.nextSet)
      sets := Function.update h.sets h.nextSet [ch]
      nextSet := h.nextSet + 1 }

def unsubscribe (userID : User) (ch : Ch) : Except ChanFault (SSEHub User Ch Note) :=
  match h.clients userID with
  | none => .ok h
  | some m =>
    match (h.ch ch).close with
    | .error e => .error e
    | .ok c => .ok { h with
        clients := if ((h.sets m).erase ch).isEmpty then Function.update h.clients userID none
          else h.clients
        sets := Function.update h.sets m ((h.sets m).erase ch)
        ch := Function.update h.ch ch c }

def setOf (b : Broadcast Ch Note) : List Ch :=
  (b.clients.map h.sets).getD []

def broadcast (userID : User) (n : Note) : SSEHub User Ch Note :=
  let clients := h.clients userID
  { h with broadcasts := h.broadcasts ++
      [⟨n, clients, (clients.map h.sets).getD [], [], none⟩] }

end SSEHub

variable (h : SSEHub User Ch Note)

/-- What can come next. The loop of a `Broadcast` produces each channel at
most once and none that is no longer in the set; it ends when it has
produced what was in the set from the beginning and still is. Channels added
meanwhile may be produced or skipped. -/
def Enabled : Act User Ch Note → Bool
  | .subscribe _ ch => decide (ch ∉ h.made)
  | .unsubscribe _ ch => decide (ch ∈ h.made)
  | .broadcast _ _ => true
  | .take i ch =>
    match h.broadcasts[i]? with
    | some b => b.taken.isNone && decide (ch ∈ h.setOf b) && decide (ch ∉ b.visited)
    | none => false
  | .send i =>
    match h.broadcasts[i]? with
    | some b => b.taken.isSome
    | none => false
  | .done i =>
    match h.broadcasts[i]? with
    | some b => b.taken.isNone && decide (∀ ch ∈ b.before, ch ∈ h.setOf b → ch ∈ b.visited)
    | none => false
  | .receive ch => (h.ch ch).receive.isSome

def apply : Act User Ch Note → Except ChanFault (SSEHub User Ch Note)
  | .subscribe userID ch => .ok (h.subscribe userID ch)
  | .unsubscribe userID ch => h.unsubscribe userID ch
  | .broadcast userID n => .ok (h.broadcast userID n)
  | .take i ch => .ok { h with
      broadcasts := h.broadcasts.modify i fun b =>
        { b with visited := ch :: b.visited, taken := some ch } }
  | .send i =>
    match h.broadcasts[i]? with
    | some ⟨n, _, _, _, some ch⟩ =>
      match (h.ch ch).trySend channelSize n with
      | .error e => .error e
      | .ok c => .ok { h with
          ch := Function.update h.ch ch c
          broadcasts := h.broadcasts.modify i fun b => { b with taken := none } }
    | _ => .ok h
  | .done i => .ok { h with broadcasts := h.broadcasts.eraseIdx i }
  | .receive ch => .ok { h with
      ch := Function.update h.ch ch { h.ch ch with buf := (h.ch ch).buf.tail } }

def step (a : Act User Ch Note) : Option (SSEHub User Ch Note) :=
  if Enabled h a then (apply h a).toOption else none

def NoPanic (a : Act User Ch Note) : Prop :=
  Enabled h a → ∃ h', apply h a = .ok h'

/-- An `Unsubscribe` finds its channel in the set of its user, and no
`Broadcast` has taken that channel and not yet sent on it. -/
def Orderly (h : SSEHub User Ch Note) : Act User Ch Note → Prop
  | .unsubscribe userID ch =>
    (∀ m ∈ h.clients userID, ch ∈ h.sets m) ∧ ∀ b ∈ h.broadcasts, b.taken ≠ some ch
  | _ => True

instance (h : SSEHub User Ch Note) : (a : Act User Ch Note) → Decidable (Orderly h a)
  | .unsubscribe userID ch => inferInstanceAs (Decidable
      ((∀ m ∈ h.clients userID, ch ∈ h.sets m) ∧ ∀ b ∈ h.broadcasts, b.taken ≠ some ch))
  | .subscribe _ _ | .broadcast _ _ | .take _ _ | .send _ | .done _ | .receive _ => isTrue trivial

end Model

/-! ## The channels that can still be sent on are open -/

open SSEHub

section Safety

variable {User Ch Note : Type} {h h' : SSEHub User Ch Note} {ch : Ch} {i : Nat}

structure Inv (h : SSEHub User Ch Note) : Prop where
  nodup : ∀ m, (h.sets m).Nodup
  /-- a channel is in one set at most -/
  inOne : ∀ m m' ch, ch ∈ h.sets m → ch ∈ h.sets m' → m = m'
  members : ∀ m, ∀ ch ∈ h.sets m, ch ∈ h.made ∧ (h.ch ch).closed = false
  taken : ∀ b ∈ h.broadcasts, ∀ ch ∈ b.taken, ch ∈ h.made ∧ (h.ch ch).closed = false

theorem inv_new : Inv (new : SSEHub User Ch Note) where
  nodup := by simp [new]
  inOne := by simp [new]
  members := by simp [new]
  taken := by simp [new]

theorem inv_frame (hI : Inv h) (hs : h'.sets = h.sets) (hma : h'.made = h.made)
    (hc : ∀ ch, (h'.ch ch).closed = (h.ch ch).closed)
    (ht : ∀ b' ∈ h'.broadcasts, ∀ ch ∈ b'.taken,
      (∃ b ∈ h.broadcasts, ch ∈ b.taken) ∨ ∃ m, ch ∈ h.sets m) : Inv h' where
  nodup := by rw [hs]; exact hI.nodup
  inOne := by rw [hs]; exact hI.inOne
  members := by
    intro m ch
    rw [hs, hma, hc]
    exact hI.members m ch
  taken := by
    intro b' hb' ch hch
    rw [hma, hc]
    obtain ⟨b, hb, hch⟩ | ⟨m, hm⟩ := ht b' hb' ch hch
    · exact hI.taken b hb ch hch
    · exact hI.members m ch hm

theorem mem_modify {bs : List (Broadcast Ch Note)}
    {f : Broadcast Ch Note → Broadcast Ch Note} {b' : Broadcast Ch Note}
    (hb' : b' ∈ bs.modify i f) : b' ∈ bs ∨ ∃ b, bs[i]? = some b ∧ b' = f b := by
  grind [mem_iff_getElem]

variable [DecidableEq Ch]

theorem inv_add (hI : Inv h) {m : Nat} {r : List Ch} (hn : ch ∉ h.made)
    (hr : r.Sublist (h.sets m)) (hs : h'.sets = update h.sets m (ch :: r))
    (hch : h'.ch = update h.ch ch .make) (hm : h'.made = ch :: h.made)
    (hb : h'.broadcasts = h.broadcasts) : Inv h' := by
  have ho : ∀ j, ch ∉ h.sets j := fun j hj => hn (hI.members j ch hj).1
  have hold : ∀ c, c ∈ h.made → c ∈ h'.made ∧ (h'.ch c).closed = (h.ch c).closed := by
    intro c hc
    have hne : c ≠ ch := fun heq => hn (heq ▸ hc)
    rw [hm, hch, update_of_ne hne]
    exact ⟨mem_cons_of_mem ch hc, rfl⟩
  -- besides the new channel only the set's earlier members are in it
  have hme : ∀ j c, c ∈ h'.sets j → c ∈ h.sets j ∨ (c = ch ∧ j = m) := by
    intro j c hc
    rw [hs, update_apply] at hc
    split at hc
    · grind
    · exact .inl hc
  constructor
  case nodup =>
    intro j
    rw [hs, update_apply]
    split
    · grind [hI.nodup]
    · exact hI.nodup j
  case inOne => grind [hI.inOne]
  case members =>
    intro j c hc
    obtain hj | ⟨rfl, -⟩ := hme j c hc
    · grind [hI.members]
    · simp [hm, hch]
  case taken => grind [hI.taken]

theorem closed_update {c : Chan Note} (hc : c.closed = (h.ch ch).closed) (ch' : Ch) :
    (update h.ch ch c ch').closed = (h.ch ch').closed := by
  by_cases heq : ch' = ch <;> simp [heq, hc]

theorem inv_take (hI : Inv h) (hen : Enabled h (.take i ch)) :
    Inv { h with
      broadcasts := h.broadcasts.modify i fun b =>
        { b with visited := ch :: b.visited, taken := some ch } } := by
  refine inv_frame hI rfl rfl (fun _ => rfl) ?_
  intro b' hb' c hc
  obtain hold | ⟨b, hb, rfl⟩ := mem_modify hb'
  · exact .inl ⟨b', hold, hc⟩
  -- what the loop takes is in its set
  cases hc
  simp only [Enabled, hb, Bool.and_eq_true, decide_eq_true_eq] at hen
  have hin := hen.1.2
  unfold SSEHub.setOf at hin
  cases hm : b.clients with
  | none => simp [hm] at hin
  | some m => exact .inr ⟨m, by simpa [hm] using hin⟩

variable [DecidableEq User]

theorem inv_subscribe (hI : Inv h) {userID : User} (hn : ch ∉ h.made) :
    Inv (h.subscribe userID ch) := by
  cases hc : h.clients userID with
  | some m =>
    exact inv_add (m := m) hI hn (List.Sublist.refl _) (by simp [subscribe, hc])
      (by simp [subscribe, hc]) (by simp [subscribe, hc])
      (by simp [subscribe, hc])
  | none =>
    exact inv_add (m := h.nextSet) hI hn (nil_sublist _) (by simp [subscribe, hc])
      (by simp [subscribe, hc]) (by simp [subscribe, hc])
      (by simp [subscribe, hc])

theorem inv_unsubscribe (hI : Inv h) {userID : User} (hok : Orderly h (.unsubscribe userID ch)) :
    ∃ h', h.unsubscribe userID ch = .ok h' ∧ Inv h' := by
  obtain ⟨hin, hf⟩ := hok
  cases hc : h.clients userID with
  | none => exact ⟨h, by simp [unsubscribe, hc], hI⟩
  | some m =>
    have hm : ch ∈ h.sets m := hin m hc
    have ho := (hI.members m ch hm).2
    refine ⟨_, by simp only [unsubscribe, hc, Chan.close_of_open ho]; rfl, ?_⟩
    have hl : ∀ j c, c ∈ update h.sets m ((h.sets m).erase ch) j →
        c ∈ h.sets j ∧ c ≠ ch := by
      intro j c hcj
      rw [update_apply] at hcj
      split at hcj
      · next hj =>
        obtain ⟨hne, hcm⟩ := (hI.nodup m).mem_erase_iff.mp hcj
        exact ⟨hj ▸ hcm, hne⟩
      · grind [hI.inOne]
    constructor
    case nodup => grind [hI.nodup]
    case inOne => exact fun j j' c hj hj' => hI.inOne j j' c (hl j c hj).1 (hl j' c hj').1
    case members => grind [hI.members]
    case taken =>
      intro b hb c hc
      have hne : c ≠ ch := by
        rintro rfl
        exact hf b hb hc
      simpa [hne] using hI.taken b hb c hc

theorem inv_send (hI : Inv h) (hen : Enabled h (.send i)) :
    ∃ h', apply h (.send i) = .ok h' ∧ Inv h' := by
  simp only [Enabled] at hen
  split at hen
  case h_2 => cases hen
  case h_1 b hb =>
    obtain ⟨ch, ht⟩ := Option.isSome_iff_exists.mp hen
    obtain ⟨n, m, e, v, taken⟩ := b
    subst ht
    have ho := (hI.taken _ (mem_of_getElem? hb) ch rfl).2
    refine ⟨_, by simp only [apply, hb, Chan.trySend_of_open ho]; rfl, ?_⟩
    refine inv_frame hI rfl rfl (closed_update (by simp)) ?_
    intro b' hb' c hc
    obtain hold | ⟨b, -, rfl⟩ := mem_modify hb'
    · exact .inl ⟨b', hold, hc⟩
    · cases hc

/-- **Step lemma.** An orderly step does not panic, and every channel that
can still be sent on stays open. -/
theorem inv_apply (hI : Inv h) {a : Act User Ch Note} (hen : Enabled h a) (hok : Orderly h a) :
    ∃ h', apply h a = .ok h' ∧ Inv h' := by
  cases a with
  | subscribe u ch => exact ⟨_, rfl, inv_subscribe hI (of_decide_eq_true hen)⟩
  | unsubscribe u ch => exact inv_unsubscribe hI hok
  | broadcast u n =>
    refine ⟨_, rfl, inv_frame hI rfl rfl (fun _ => rfl) ?_⟩
    intro b' hb' ch hch
    obtain hold | hn := mem_append.mp hb'
    · exact .inl ⟨b', hold, hch⟩
    · grind
  | take i ch => exact ⟨_, rfl, inv_take hI hen⟩
  | send i => exact inv_send hI hen
  | done i =>
    refine ⟨_, rfl, inv_frame hI rfl rfl (fun _ => rfl) ?_⟩
    intro b' hb' ch hch
    exact .inl ⟨b', mem_of_mem_eraseIdx hb', hch⟩
  | receive ch =>
    exact ⟨_, rfl, inv_frame hI rfl rfl (closed_update rfl) fun b hb c hc => .inl ⟨b, hb, hc⟩⟩

theorem inv_step {a : Act User Ch Note} (hI : Inv h) (hok : Orderly h a)
    (hs : step h a = some h') : Inv h' := by
  unfold step at hs
  split at hs
  · next hen =>
    obtain ⟨h₁, ha, hI₁⟩ := inv_apply hI hen hok
    rw [ha] at hs
    cases hs
    exact hI₁
  · cases hs

/-- **Channels are safe in orderly runs.** In every interleaving in which
each `Unsubscribe` finds its channel in the set of its user, and comes when
no `Broadcast` stands between taking that channel and sending on it, no
send meets a closed channel and no channel is closed twice. -/
theorem channels_safe (as : List (Act User Ch Note)) (hok : Along step Orderly SSEHub.new as) :
    Along step NoPanic SSEHub.new as := by
  refine along_of_invariant (fun _ _ _ => inv_step) ?_ inv_new hok
  intro h a hI hok hen
  obtain ⟨h', ha, -⟩ := inv_apply hI hen hok
  exact ⟨h', ha⟩

end Safety

/-- Two clients of a user, a notification to both, and a client that leaves
after the send to it and before the send to the other. -/
theorem channels_safe_leaving : let as : List (Act Nat Nat Nat) :=
      [.subscribe 0 0, .subscribe 0 1, .broadcast 0 7, .take 0 0, .send 0, .unsubscribe 0 0,
        .take 0 1, .send 0, .done 0, .receive 1, .unsubscribe 0 1]
    Along step Orderly new as ∧ Along step NoPanic new as ∧
      (run step new as).isSome = true := by
  intro as
  have hok : Along step Orderly new as := by decide
  exact ⟨hok, channels_safe as hok, rfl⟩

/-- **What happens otherwise.** A client that leaves once, with its own
user, between the step that takes its channel and the send: the send panics.
And a client that leaves twice while the user has another: the second close
panics. -/
theorem channels_unsafe :
    (∃ h : SSEHub Nat Nat Nat,
      run step SSEHub.new [.subscribe 0 0, .broadcast 0 7, .take 0 0, .unsubscribe 0 0] = some h ∧
        Enabled h (.send 0) = true ∧ apply h (.send 0) = .error .sendOnClosed) ∧
    (∃ h : SSEHub Nat Nat Nat,
      run step SSEHub.new [.subscribe 0 0, .subscribe 0 1, .unsubscribe 0 0] = some h ∧
        Enabled h (.unsubscribe 0 0) = true ∧
        apply h (.unsubscribe 0 0) = .error .closeOfClosed) :=
  ⟨⟨_, rfl, rfl, rfl⟩, ⟨_, rfl, rfl, rfl⟩⟩

end Daao.Notification

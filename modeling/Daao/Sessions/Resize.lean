/-
Daao.Sessions.Resize — the terminal dimensions that the clients of a
session agree on (`internal/session/resize.go`).

`CalculateBoundingBox` starts from zero, and takes zero for "no client
yet". A client with a dimension of zero is forgotten when another one
follows, so the result depends on the order in which Go goes over the map.

`HandleResize`, `HandleClientAttach` and `HandleClientDetach` change the
clients, compute the box and push it, in three steps; calls run at the same
time. A box that was computed before another call's change may be pushed
after that call's box. There is a pusher, and a push that fails counts.
-/
import Daao.Lib.Trace
import Mathlib.Data.List.Perm.Basic

namespace Daao.Sessions

open Daao.Lib List

structure BoundingBox where
  cols : Int
  rows : Int
  deriving DecidableEq

namespace Resize

/-! ## 1. The bounding box -/

def shrink (least dim : Int) : Int := if least = 0 ∨ dim < least then dim else least

/-- The clients' dimensions come in the order of the iteration. -/
def calculateBoundingBox (order : List BoundingBox) : BoundingBox :=
  if order = [] then { cols := 80, rows := 24 }
  else
    { cols := (order.map BoundingBox.cols).foldl shrink 0
      rows := (order.map BoundingBox.rows).foldl shrink 0 }

/-- The order in which the dimensions come does not matter: none is zero, or
one is negative, or all are zero. -/
def Unambiguous (dims : List Int) : Prop :=
  0 ∉ dims ∨ (∃ dim ∈ dims, dim < 0) ∨ ∀ dim ∈ dims, dim = 0

def Clear (clients : List BoundingBox) : Prop :=
  Unambiguous (clients.map BoundingBox.cols) ∧ Unambiguous (clients.map BoundingBox.rows)

/-- The box is the minimum in each component. -/
def IsLeast (clients : List BoundingBox) (box : BoundingBox) : Prop :=
  (clients.map BoundingBox.cols).min? = some box.cols ∧
    (clients.map BoundingBox.rows).min? = some box.rows

theorem foldl_shrink {d : List Int} (hd : 0 ∉ d) {least : Int}
    (h : least ≠ 0) : d.foldl shrink least = d.foldl min least := by
  induction d generalizing least with
  | nil => rfl
  | cons i d ih => grind [shrink]

theorem foldl_shrink_le {dims : List Int} {least : Int}
    (hneg : least < 0 ∨ ∃ dim ∈ dims, dim < 0) :
    dims.foldl shrink least ≤ least ∧ ∀ dim ∈ dims, dims.foldl shrink least ≤ dim := by
  induction dims generalizing least with
  | nil => simp
  | cons dim dims ih =>
    have hneg' : shrink least dim < 0 ∨ ∃ dim ∈ dims, dim < 0 := by grind [shrink]
    obtain ⟨hle, hall⟩ := ih hneg'
    rw [foldl_cons]
    constructor
    · grind [shrink]
    · intro d hd
      rcases mem_cons.mp hd with rfl | hd
      · grind [shrink]
      · exact hall d hd

theorem foldl_shrink_mem (dims : List Int) (least : Int) :
    dims.foldl shrink least = least ∨ dims.foldl shrink least ∈ dims := by
  induction dims generalizing least with
  | nil => exact .inl rfl
  | cons dim dims ih => grind [shrink]

theorem foldl_shrink_zero_mem {dims : List Int} (hne : dims ≠ []) :
    dims.foldl shrink 0 ∈ dims := by
  cases dims with
  | nil => exact absurd rfl hne
  | cons dim dims =>
    have hf : shrink 0 dim = dim := if_pos (.inl rfl)
    rw [foldl_cons, hf, mem_cons]
    exact foldl_shrink_mem dims dim

theorem min?_eq_shrink {dims : List Int} (h : Unambiguous dims) (hne : dims ≠ []) :
    dims.min? = some (dims.foldl shrink 0) := by
  obtain h | h | h := h
  · cases dims with
    | nil => exact absurd rfl hne
    | cons dim dims =>
      rw [mem_cons, not_or] at h
      have hf : shrink 0 dim = dim := if_pos (.inl rfl)
      rw [min?_cons', foldl_cons, hf, foldl_shrink h.2 (Ne.symm h.1)]
  · rw [min?_eq_some_iff]
    exact ⟨foldl_shrink_zero_mem hne, (foldl_shrink_le (.inr h)).2⟩
  · rw [min?_eq_some_iff]
    have hm := foldl_shrink_zero_mem hne
    exact ⟨hm, fun dim hd => by simp [h _ hm, h dim hd]⟩

/-- If the dimensions are ambiguous, the zeros are forgotten when they come
first. -/
theorem zerosFirst_ne {dims zeros others : List Int} (h : ¬ Unambiguous dims)
    (hp : (zeros ++ others).Perm dims) (hz : ∀ dim ∈ zeros, dim = 0) (ho : 0 ∉ others) :
    dims.min? ≠ some ((zeros ++ others).foldl shrink 0) := by
  simp only [Unambiguous, not_or, not_not, not_exists, not_and, Int.not_lt, not_forall] at h
  obtain ⟨hzero, hpos, dim, hd, hne⟩ := h
  have hmin : dims.min? = some 0 := min?_eq_some_iff.mpr ⟨hzero, hpos⟩
  have hfold : zeros.foldl shrink 0 = 0 := by
    rcases foldl_shrink_mem zeros 0 with h | h
    · exact h
    · exact hz _ h
  have hothers : others ≠ [] := by
    rintro rfl
    exact hne (hz dim (by simpa using hp.mem_iff.mpr hd))
  rw [hmin, foldl_append, hfold, Ne, Option.some_inj]
  intro h
  exact ho (h ▸ foldl_shrink_zero_mem hothers)

open BoundingBox

/-- If the box is the least one in every order, the dimensions are
unambiguous: they are looked at with the zeros first. -/
theorem unambiguous_of_least {clients : List BoundingBox} (dim : BoundingBox → Int)
    (h : ∀ order : List BoundingBox, order.Perm clients →
      (clients.map dim).min? = some ((order.map dim).foldl shrink 0)) :
    Unambiguous (clients.map dim) := by
  by_contra hamb
  let isZero : BoundingBox → Bool := fun c => dim c = 0
  have hp := filter_append_perm isZero clients
  have hf := h _ hp
  rw [map_append] at hf
  refine zerosFirst_ne hamb ?_ ?_ (by simp [isZero]) hf
  · rw [← map_append]
    exact hp.map dim
  · rintro d hd
    obtain ⟨c, hc, rfl⟩ := mem_map.mp hd
    simpa [isZero] using (mem_filter.mp hc).2

theorem calculateBoundingBox_of_ne {order : List BoundingBox} (hne : order ≠ []) :
    calculateBoundingBox order = { cols := (order.map cols).foldl shrink 0
                                   rows := (order.map rows).foldl shrink 0 } :=
  if_neg hne

theorem Unambiguous.perm {dims dims' : List Int} (h : Unambiguous dims) (hp : dims.Perm dims') :
    Unambiguous dims' := by
  simpa only [Unambiguous, hp.mem_iff] using h

theorem min?_perm {dims dims' : List Int} (hp : dims.Perm dims') : dims.min? = dims'.min? := by
  cases h : dims'.min? with
  | none =>
    rw [min?_eq_none_iff] at h ⊢
    exact (h ▸ hp).eq_nil
  | some least => simpa [min?_eq_some_iff, hp.mem_iff] using h

theorem isLeast_calculateBoundingBox {clients order : List BoundingBox} (h : Clear clients)
    (hne : clients ≠ []) (hp : order.Perm clients) :
    IsLeast clients (calculateBoundingBox order) := by
  have hne' : order ≠ [] := fun he => hne (by simpa [he] using hp.symm)
  rw [calculateBoundingBox_of_ne hne']
  constructor
  · rw [← min?_perm (hp.map cols)]
    exact min?_eq_shrink (h.1.perm (hp.symm.map cols)) (by simpa using hne')
  · rw [← min?_perm (hp.map rows)]
    exact min?_eq_shrink (h.2.perm (hp.symm.map rows)) (by simpa using hne')

theorem isLeast_iff_clear {clients : List BoundingBox} (hne : clients ≠ []) :
    (∀ order, order.Perm clients → IsLeast clients (calculateBoundingBox order)) ↔
      Clear clients := by
  constructor
  · intro h
    have hbox (order : List BoundingBox) (hp : order.Perm clients) :
        IsLeast clients { cols := (order.map cols).foldl shrink 0
                          rows := (order.map rows).foldl shrink 0 } := by
      have hne' : order ≠ [] := fun he => hne (by simpa [he] using hp.symm)
      rw [← calculateBoundingBox_of_ne hne']
      exact h order hp
    exact ⟨unambiguous_of_least cols fun order hp => (hbox order hp).1,
      unambiguous_of_least rows fun order hp => (hbox order hp).2⟩
  · exact fun h order hp => isLeast_calculateBoundingBox h hne hp

theorem calculateBoundingBox_perm {clients order order' : List BoundingBox} (h : Clear clients)
    (hp : order.Perm clients) (hp' : order'.Perm clients) :
    calculateBoundingBox order = calculateBoundingBox order' := by
  by_cases hne : clients = []
  · subst hne
    rw [hp.eq_nil, hp'.eq_nil]
  · have hl := isLeast_calculateBoundingBox h hne hp
    have hl' := isLeast_calculateBoundingBox h hne hp'
    have hc := hl.1.symm.trans hl'.1
    have hr := hl.2.symm.trans hl'.2
    cases hb : calculateBoundingBox order
    cases hb' : calculateBoundingBox order'
    simp_all

/-! ## 2. Calls at the same time -/

variable {Id : Type} [DecidableEq Id]

inductive Change (Id : Type) where
  | resize (clientID : Id) (dimensions : BoundingBox)
  | attach (clientID : Id) (dimensions : BoundingBox)
  | detach (clientID : Id)

def Change.apply (clients : List (Id × BoundingBox)) : Change Id → List (Id × BoundingBox)
  | .resize clientID dimensions =>
    clients.map fun c => if c.1 = clientID then (clientID, dimensions) else c
  | .attach clientID dimensions =>
    clients.filter (fun c => c.1 ≠ clientID) ++ [(clientID, dimensions)]
  | .detach clientID => clients.filter fun c => c.1 ≠ clientID

inductive Phase where
  | updated
  | computed (box : BoundingBox)
  deriving DecidableEq

structure Manager (Id : Type) where
  clients : List (Id × BoundingBox)
  /-- the calls under way, each under a number of its own -/
  calls : Nat → Option Phase
  pushed : Option BoundingBox

def start : Manager Id := { clients := [], calls := fun _ => none, pushed := none }

inductive Act (Id : Type) where
  | update (call : Nat) (change : Change Id)
  | compute (call : Nat) (order : List BoundingBox)
  | push (call : Nat)

def step (s : Manager Id) : Act Id → Option (Manager Id)
  | .update call change =>
    if s.calls call = none then
      some { s with clients := change.apply s.clients
                    calls := Function.update s.calls call (some .updated) }
    else none
  | .compute call order =>
    if s.calls call = some .updated ∧ order.Perm (s.clients.map Prod.snd) then
      some { s with calls := Function.update s.calls call
                      (some (.computed (calculateBoundingBox order))) }
    else none
  | .push call =>
    match s.calls call with
    | some (.computed box) =>
      some { s with calls := Function.update s.calls call none, pushed := some box }
    | _ => none

/-- No call changes the clients between another one's computation and its
push. -/
def Serial (s : Manager Id) : Act Id → Prop
  | .update _ _ => ∀ call box, s.calls call ≠ some (.computed box)
  | _ => True

/-- The box is one of the clients, in some order. -/
def IsBox (s : Manager Id) (box : BoundingBox) : Prop :=
  ∃ order, order.Perm (s.clients.map Prod.snd) ∧ box = calculateBoundingBox order

structure Inv (s : Manager Id) : Prop where
  computed : ∀ call box, s.calls call = some (.computed box) → IsBox s box
  pushed : s = start ∨ (∃ call, s.calls call ≠ none) ∨ ∃ box, s.pushed = some box ∧ IsBox s box

theorem update_cases {c : Nat → Option Phase} {call a' : Nat} {pha : Option Phase}
    {p : Phase} (h : Function.update c call pha a' = some p) :
    pha = some p ∨ c a' = some p := by
  rw [Function.update_apply] at h
  split at h
  · exact .inl h
  · exact .inr h

theorem inv_step {s s' : Manager Id} {a : Act Id} (hs : Inv s) (hok : Serial s a)
    (h : step s a = some s') : Inv s' := by
  cases a with
  | update call change =>
    simp only [step, Option.ite_none_right_eq_some, Option.some.injEq] at h
    obtain ⟨-, rfl⟩ := h
    refine ⟨fun c' b hc => ?_, .inr (.inl ⟨call, by simp⟩)⟩
    rcases update_cases hc with hn | hold
    · cases hn
    · exact absurd hold (hok c' b)
  | compute call r =>
    simp only [step, Option.ite_none_right_eq_some, Option.some.injEq] at h
    obtain ⟨⟨-, ho⟩, rfl⟩ := h
    refine ⟨fun c' b hc => ?_, .inr (.inl ⟨call, by simp⟩)⟩
    rcases update_cases hc with hn | hold
    · cases hn
      exact ⟨r, ho, rfl⟩
    · exact hs.computed c' b hold
  | push call =>
    simp only [step] at h
    split at h
    · rename_i b hb
      cases h
      refine ⟨fun c' x' hc => ?_, .inr (.inr ⟨b, rfl, hs.computed call b hb⟩)⟩
      rcases update_cases hc with hn | hold
      · cases hn
      · exact hs.computed c' x' hold
    · cases h

/-- **Resizing.** The box is the minimum in each component, in whatever order
the clients come, exactly if their dimensions are unambiguous. And if they
are, and no call changes the clients between another one's computation and
its push, the last box that was pushed is that of the clients once all calls
have returned. -/
theorem resize_converges :
    (∀ clients, clients ≠ [] →
      ((∀ order, order.Perm clients → IsLeast clients (calculateBoundingBox order)) ↔
        Clear clients)) ∧
    ∀ (acts : List (Act Id)) (s : Manager Id), Along step Serial start acts →
      run step start acts = some s → (∀ call, s.calls call = none) →
      Clear (s.clients.map Prod.snd) →
      s = start ∨ ∀ order, order.Perm (s.clients.map Prod.snd) →
        s.pushed = some (calculateBoundingBox order) := by
  refine ⟨fun clients => isLeast_iff_clear, fun acts s hok hr hd hz => ?_⟩
  have hst : Inv (start : Manager Id) := ⟨fun _ _ h => (nomatch h), .inl rfl⟩
  have hs := run_invariant_along (fun _ _ _ => inv_step) hst hok hr
  rcases hs.pushed with hst | ⟨call, hca⟩ | ⟨box, hp, order', ho', rfl⟩
  · exact .inl hst
  · exact absurd (hd call) hca
  refine .inr fun order ho => ?_
  rw [hp, calculateBoundingBox_perm hz ho' ho]

def attached : List (Act Nat) :=
  [.update 0 (.attach 1 ⟨80, 24⟩), .compute 0 [⟨80, 24⟩], .push 0,
    .update 1 (.attach 2 ⟨40, 30⟩), .compute 1 [⟨80, 24⟩, ⟨40, 30⟩], .push 1]

/-- Two clients attach, one after the other. -/
theorem resize_converges_attached :
    ∃ s, run step start attached = some s ∧ Clear (s.clients.map Prod.snd) ∧
      s.pushed = some ⟨40, 24⟩ := by
  have hok : Along step Serial start attached := by
    simp [attached, Along, Serial, step, start, Function.update_apply]
  obtain ⟨s, hs⟩ : ∃ s, run step start attached = some s := ⟨_, rfl⟩
  have hclear : Clear (s.clients.map Prod.snd) := by
    cases hs
    exact ⟨.inl (by decide), .inl (by decide)⟩
  have hcalls : ∀ call, s.calls call = none := by
    cases hs
    simp [Function.update_apply, start]
  refine ⟨s, hs, hclear, ?_⟩
  rcases resize_converges.2 attached s hok hs hcalls hclear with h | h
  · cases hs
    exact absurd (congrArg Manager.pushed h) (by decide)
  · rw [h [⟨80, 24⟩, ⟨40, 30⟩] (by cases hs; exact .refl _)]
    decide

/-- A client without columns counts in one order and not in the other; and
the box of the first call is pushed after that of the second. -/
theorem resize_diverges :
    (calculateBoundingBox [⟨0, 24⟩, ⟨80, 24⟩]).cols = 80 ∧
    (calculateBoundingBox [⟨80, 24⟩, ⟨0, 24⟩]).cols = 0 ∧
    (run step (start : Manager Nat) [.update 0 (.attach 1 ⟨80, 24⟩), .compute 0 [⟨80, 24⟩],
        .update 1 (.attach 2 ⟨40, 10⟩), .compute 1 [⟨80, 24⟩, ⟨40, 10⟩], .push 1, .push 0]).map
      (fun s => (s.clients, s.pushed, s.calls 0, s.calls 1))
      = some ([(1, ⟨80, 24⟩), (2, ⟨40, 10⟩)], some ⟨80, 24⟩, none, none) := by
  decide

end Resize

end Daao.Sessions

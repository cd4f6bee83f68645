/-
Daao.Notification.Pages — a walk over the pages of a user's notifications
(`ListByUser` in `internal/notification/store.go`,
`HandleListNotifications` in `internal/api/notification_handlers.go`).

The cursor is the time of the last notification of a page, as text, and
the next page has the notifications before that time. So a notification
with the same time that did not fit on the page is on no page; `tie_lost`
is a table with one. The walk always ends, and it returns all notifications
just if no page ends between two of one time (`notifications_complete_iff`).

Times are counted in microseconds, as the database keeps them, and the
server's zone is UTC.
-/
import Daao.Lib.GoMap
import Daao.Lib.GoTime
import Mathlib.Data.List.Sort

namespace Daao.Notification

open Daao.Lib List

structure NotificationRow (Id : Type) where
  id : Id
  userID : Id
  createdAt : GoTime.Time
  deriving DecidableEq

structure NotificationPage (Id : Type) where
  notifications : List (NotificationRow Id)
  nextCursor : String

variable {Id : Type}

def NotificationRow.micros (n : NotificationRow Id) : Int := n.createdAt.micros

abbrev older : NotificationRow Id → NotificationRow Id → Prop :=
  Order.Preimage NotificationRow.micros (· < ·)

abbrev newestFirst : NotificationRow Id → NotificationRow Id → Prop :=
  Order.Preimage NotificationRow.micros (· ≥ ·)

section

variable [DecidableEq Id] (rows : List (NotificationRow Id)) (userID : Id)

/-- The user's notifications as `ORDER BY created_at DESC` has them; equal
times come in the order of the table. -/
def ordered : List (NotificationRow Id) :=
  (rows.insertionSort newestFirst).filter (·.userID = userID)

/-- What the two queries of `ListByUser` select, before the `LIMIT`. -/
def remaining (cursor : Option Int) : List (NotificationRow Id) :=
  match cursor with
  | some t => (ordered rows userID).filter (·.createdAt.micros < t)
  | none => ordered rows userID

def listByUser (limit : Int) (cursor : Option Int) : List (NotificationRow Id) :=
  (remaining rows userID cursor).take (if limit ≤ 0 ∨ limit > 100 then 50 else limit).toNat

def cursorOf (cursorParam : String) : Option Int :=
  if cursorParam ≠ "" then GoTime.parse cursorParam else none

def handleListNotifications (limitParam cursorParam : String) : NotificationPage Id :=
  let limit := match atoi limitParam with
    | some parsed => if parsed > 0 ∧ parsed ≤ 100 then parsed else 50
    | none => 50
  let notifications := listByUser rows userID limit (cursorOf cursorParam)
  { notifications := notifications
    nextCursor :=
      if notifications.length = limit then
        (notifications.getLast?.map fun n => GoTime.format n.createdAt).getD ""
      else "" }

/-- What a client gets that asks for the page of each next cursor; `none`
if there are still pages after `fuel` of them. -/
def walk (limitParam : String) : Nat → String → Option (List (NotificationRow Id))
  | 0, _ => none
  | fuel + 1, cursorParam =>
    let page := handleListNotifications rows userID limitParam cursorParam
    if page.nextCursor = "" then some page.notifications
    else (walk limitParam fuel page.nextCursor).map (page.notifications ++ ·)

end

/-- After a full page comes an older notification. -/
def NoTieAtPageEnd (limit : Nat) (ns : List (NotificationRow Id)) : Prop :=
  ∀ i < ns.length, limit ∣ i + 1 → ∀ last ∈ ns[i]?, ∀ next ∈ ns[i + 1]?, older next last

instance (limit : Nat) (ns : List (NotificationRow Id)) : Decidable (NoTieAtPageEnd limit ns) := by
  unfold NoTieAtPageEnd
  infer_instance

/-! ## 1. The end of a page -/

section

variable {page rest : List (NotificationRow Id)} {last : NotificationRow Id}

/-- What is older than the last notification of a page comes after it. -/
theorem filter_older (hs : (page ++ last :: rest).Pairwise newestFirst) :
    (page ++ last :: rest).filter (older · last) = rest.filter (older · last) := by
  obtain ⟨-, -, hse⟩ := pairwise_append.mp hs
  have hno : page.filter (older · last) = [] :=
    filter_eq_nil_iff.mpr fun n hn h =>
      not_lt_of_ge (hse n hn last mem_cons_self) (of_decide_eq_true h)
  rw [filter_append, hno, nil_append, filter_cons_of_neg (by simp [older])]

/-- And it is all that comes after it just if the next one is older. -/
theorem length_filter_older_iff (hr : rest.Pairwise newestFirst) :
    (rest.filter (older · last)).length = rest.length ↔ ∀ next ∈ rest.head?, older next last := by
  rw [length_filter_eq_length_iff]
  cases rest with
  | nil => simp
  | cons next rest =>
    have hle := (pairwise_cons.mp hr).1
    simp only [decide_eq_true_eq, forall_mem_cons, head?_cons, Option.mem_def, Option.some.injEq,
      forall_eq', and_iff_left_iff_imp]
    exact fun hlt n hn => lt_of_le_of_lt (hle n hn) hlt

theorem noTieAtPageEnd_page {limit : Nat} (hl : page.length + 1 = limit) :
    NoTieAtPageEnd limit (page ++ last :: rest) ↔
      (∀ next ∈ rest.head?, older next last) ∧ NoTieAtPageEnd limit rest := by
  subst hl
  have hat (i : Nat) : (page ++ last :: rest)[page.length + 1 + i]? = rest[i]? := by
    rw [getElem?_append_right (by omega), show page.length + 1 + i - page.length = i + 1 by omega,
      getElem?_cons_succ]
  constructor
  · intro h
    refine ⟨?_, fun i hi hdvd n hn => ?_⟩
    · rw [head?_eq_getElem?, ← hat 0]
      exact h page.length (by simp) (dvd_refl _) last (by simp)
    · have := h (page.length + 1 + i) (by simp; omega)
        (by rw [add_assoc]; exact Nat.dvd_add_self_left.mpr hdvd) n (by rw [hat]; exact hn)
      rwa [add_assoc, hat] at this
  · rintro ⟨hlast, hrest⟩ i hi hdvd n hn
    rcases Nat.lt_trichotomy i page.length with hlt | rfl | hgt
    · exact absurd (Nat.le_of_dvd (by omega) hdvd) (by omega)
    · obtain rfl : last = n := by simpa using hn
      rwa [head?_eq_getElem?, ← hat 0] at hlast
    · obtain ⟨j, rfl⟩ : ∃ j, i = page.length + 1 + j := ⟨i - (page.length + 1), by omega⟩
      rw [hat] at hn
      rw [add_assoc] at hdvd
      have := hrest j (by simp at hi; omega) (Nat.dvd_add_self_left.mp hdvd) n hn
      rwa [add_assoc (page.length + 1), hat]

theorem exists_page {limit : Nat} (hpos : 0 < limit) {ns : List (NotificationRow Id)}
    (h : limit ≤ ns.length) :
    ∃ page last rest, ns = page ++ last :: rest ∧ page.length + 1 = limit := by
  have hlt : limit - 1 < ns.length := by omega
  refine ⟨ns.take (limit - 1), ns[limit - 1], ns.drop (limit - 1 + 1), ?_, ?_⟩
  · rw [← drop_eq_getElem_cons hlt, take_append_drop]
  · rw [length_take]
    omega

end

/-! ## 2. The walk -/

section

variable [DecidableEq Id] (rows : List (NotificationRow Id)) (userID : Id)

theorem pairwise_ordered : (ordered rows userID).Pairwise newestFirst :=
  (pairwise_insertionSort newestFirst rows).sublist filter_sublist

theorem perm_ordered : (ordered rows userID).Perm (rows.filter (·.userID = userID)) :=
  (perm_insertionSort newestFirst rows).filter _

theorem pairwise_remaining (cursor : Option Int) :
    (remaining rows userID cursor).Pairwise newestFirst := by
  unfold remaining
  split
  · exact (pairwise_ordered rows userID).sublist filter_sublist
  · exact pairwise_ordered rows userID

variable {rows userID}

/-- What the next cursor leaves. -/
theorem remaining_next {cursor : Option Int} {page rest : List (NotificationRow Id)}
    {last : NotificationRow Id} (hp : remaining rows userID cursor = page ++ last :: rest) :
    remaining rows userID (cursorOf (GoTime.format last.createdAt))
      = rest.filter (older · last) := by
  have hs := pairwise_remaining rows userID cursor
  have hlast : last ∈ remaining rows userID cursor := by simp [hp]
  rw [hp] at hs
  rw [← filter_older hs, ← hp, cursorOf, if_pos (GoTime.format_ne_empty _), GoTime.parse_format]
  cases cursor with
  | none => rfl
  | some t =>
    simp only [remaining, mem_filter, decide_eq_true_eq] at hlast ⊢
    rw [filter_filter]
    refine filter_congr fun n _ => ?_
    grind [Order.Preimage, NotificationRow.micros]

variable {limit : Nat} (hpos : 0 < limit) (hmax : limit ≤ 100)

include hpos hmax

theorem handleListNotifications_eq (cursorParam : String) :
    handleListNotifications rows userID (itoa limit) cursorParam =
      let page := (remaining rows userID (cursorOf cursorParam)).take limit
      { notifications := page
        nextCursor := if page.length = limit then
          (page.getLast?.map fun n => GoTime.format n.createdAt).getD "" else "" } := by
  have ha : atoi (itoa limit) = some (limit : Int) :=
    atoi_itoa (by omega) (by constructor <;> omega)
  have hr : (limit : Int) > 0 ∧ (limit : Int) ≤ 100 := by omega
  have hk : ¬ ((limit : Int) ≤ 0 ∨ (limit : Int) > 100) := by omega
  simp only [handleListNotifications, ha, listByUser, if_pos hr, if_neg hk,
    Int.toNat_natCast, Nat.cast_inj]

/-- A full page, and the walk from the time of its last notification. -/
theorem walk_full {cursorParam : String} {page rest : List (NotificationRow Id)}
    {last : NotificationRow Id} (f : Nat) (hl : page.length + 1 = limit)
    (h : remaining rows userID (cursorOf cursorParam) = page ++ last :: rest) :
    walk rows userID (itoa limit) (f + 1) cursorParam
      = (walk rows userID (itoa limit) f (GoTime.format last.createdAt)).map
        (page ++ [last] ++ ·) := by
  have ht : (page ++ last :: rest).take limit = page ++ [last] := by
    rw [← singleton_append, ← append_assoc, take_append_of_le_length (by simp; omega)]
    exact take_of_length_le (by simp; omega)
  have hlen : (page ++ [last]).length = limit := by simpa using hl
  rw [walk, handleListNotifications_eq hpos hmax, h, ht]
  simp only [hlen, if_true, getLast?_concat, Option.map_some, Option.getD_some,
    if_neg (GoTime.format_ne_empty _)]

/-- The induction is on the notifications that remain: each full page
leaves fewer. -/
theorem walk_remaining {f : Nat} {cursorParam : String}
    (hf : (remaining rows userID (cursorOf cursorParam)).length < f) :
    ∃ ns, walk rows userID (itoa limit) f cursorParam = some ns ∧
      ns.Sublist (remaining rows userID (cursorOf cursorParam)) ∧
      (ns.length = (remaining rows userID (cursorOf cursorParam)).length ↔
        NoTieAtPageEnd limit (remaining rows userID (cursorOf cursorParam))) := by
  induction f generalizing cursorParam with
  | zero => omega
  | succ f ih =>
    have hs := pairwise_remaining rows userID (cursorOf cursorParam)
    rcases Nat.lt_or_ge (remaining rows userID (cursorOf cursorParam)).length limit with hlt | hge
    · have hne : (remaining rows userID (cursorOf cursorParam)).length ≠ limit := by omega
      refine ⟨_, ?_, .refl _, iff_of_true rfl fun i hi hdvd => ?_⟩
      · rw [walk, handleListNotifications_eq hpos hmax, take_of_length_le hlt.le]
        simp [hne]
      · exact absurd (Nat.le_of_dvd (by omega) hdvd) (by omega)
    obtain ⟨page, last, rest, hp, hl⟩ := exists_page hpos hge
    rw [walk_full hpos hmax f hl hp, hp, noTieAtPageEnd_page hl]
    rw [hp] at hs hf
    have hrest := (pairwise_cons.mp (pairwise_append.mp hs).2.1).2
    have hfilter : (rest.filter (older · last)).Sublist rest := filter_sublist
    have hle := hfilter.length_le
    have hfewer : (remaining rows userID (cursorOf (GoTime.format last.createdAt))).length < f := by
      rw [remaining_next hp]
      simp at hf
      omega
    obtain ⟨ns, hw, hsub, hiff⟩ := ih hfewer
    rw [remaining_next hp] at hsub hiff
    refine ⟨_, by rw [hw, Option.map_some], ?_, ?_⟩
    · rw [append_assoc]
      exact .append_left (.cons_cons _ (hsub.trans hfilter)) _
    -- nothing is lost between the two pages, and nothing after them
    have hle' := hsub.length_le
    rw [← length_filter_older_iff hrest]
    constructor
    · intro hlen
      have heq := hfilter.eq_of_length (by simp at hlen; omega)
      exact ⟨congrArg length heq, heq ▸ hiff.mp (by simp at hlen; omega)⟩
    · rintro ⟨hkept, htell⟩
      have heq := hfilter.eq_of_length hkept
      have := hiff.mpr (by rwa [heq])
      simp
      omega

end

/-- **Walk.** A user's walk over the pages ends, after no more pages than
there are rows, and one, with notifications newest first. They are all of
the user's, each once, just if after every full page comes an older one. -/
theorem notifications_complete_iff [DecidableEq Id] (rows : List (NotificationRow Id)) (userID : Id)
    {limit : Nat} (hpos : 0 < limit) (hmax : limit ≤ 100) :
    ∃ ns, walk rows userID (itoa limit) (rows.length + 1) "" = some ns ∧
      ns.Pairwise newestFirst ∧
      (ns.Perm (rows.filter (·.userID = userID)) ↔
        NoTieAtPageEnd limit (ordered rows userID)) := by
  have hperm := perm_ordered rows userID
  have hle : (ordered rows userID).length ≤ rows.length := by
    rw [hperm.length_eq]
    exact length_filter_le ..
  obtain ⟨ns, hw, hsub, hiff⟩ := walk_remaining hpos hmax (f := rows.length + 1)
    (show (remaining rows userID (cursorOf "")).length < _ from Nat.lt_succ_of_le hle)
  refine ⟨ns, hw, (pairwise_ordered rows userID).sublist hsub, Iff.trans ?_ hiff⟩
  constructor
  · intro h
    exact h.length_eq.trans hperm.length_eq.symm
  · intro hlen
    rw [hsub.eq_of_length hlen]
    exact hperm

def ten : GoTime.Time := ⟨10, by decide, by decide⟩

def later : GoTime.Time := ⟨1700000000000000, by decide, by decide⟩

/-- Two notifications of one time, on one page, and another user's. -/
def oneTime : List (NotificationRow Nat) :=
  [⟨1, 0, ten⟩, ⟨2, 0, later⟩, ⟨3, 0, later⟩, ⟨4, 5, ten⟩]

theorem notifications_complete_oneTime : ∃ ns, walk oneTime 0 (itoa (2 : Nat)) 5 "" = some ns ∧
    ns.Perm (oneTime.filter (·.userID = 0)) := by
  obtain ⟨ns, hw, -, hiff⟩ := notifications_complete_iff oneTime 0 (show 0 < 2 by decide)
    (by decide)
  exact ⟨ns, hw, hiff.mpr (by decide)⟩

/-- Of two notifications of one time, a page of one loses the other. -/
theorem tie_lost :
    walk [⟨1, 0, ten⟩, ⟨2, 0, ten⟩] 0 "1" 3 "" = some [(⟨1, 0, ten⟩ : NotificationRow Nat)] := by
  decide +kernel

end Daao.Notification

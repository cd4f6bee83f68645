/-
Daao.Auth.RateLimit — the rate limiter of `internal/auth/ratelimit.go`.

A bucket is not filled drop by drop: a call that finds its last refill a
refill period ago fills it up. So the refills of one bucket are at least a
period apart, and what can be admitted between two of them is the bucket's
size. `Inv` counts the admitted calls against that.
-/
import Mathlib.Data.List.Induction
import Mathlib.Logic.Function.Basic

namespace Daao.Auth

open List

/-! ## 1. The limiter -/

/-- Times and periods are in nanoseconds. -/
structure TokenBucket where
  tokens : Nat
  maxTokens : Nat
  refillRate : Nat
  lastRefill : Int

inductive CallerKind where
  | satellite
  | user
  deriving DecidableEq

def CallerKind.maxTokens : CallerKind → Nat
  | satellite => 100
  | user => 50

def refillPeriod : Nat := 1000000000

/-- A call of `AllowSatellite` or `AllowUser`, with its two readings of the
clock; the first one is used for a new bucket only. -/
structure AllowCall (Id : Type) where
  kind : CallerKind
  id : Id
  created : Int
  now : Int

def TokenBucket.refill (b : TokenBucket) (now : Int) : TokenBucket :=
  if now - b.lastRefill ≥ b.refillRate then { b with tokens := b.maxTokens, lastRefill := now }
  else b

def TokenBucket.allow (b : TokenBucket) (now : Int) : TokenBucket × Bool :=
  let b := b.refill now
  if b.tokens > 0 then ({ b with tokens := b.tokens - 1 }, true) else (b, false)

variable {Id : Type}

def AllowCall.serve (c : AllowCall Id) (bucket : Option TokenBucket) : TokenBucket × Bool :=
  (bucket.getD
    { tokens := c.kind.maxTokens, maxTokens := c.kind.maxTokens, refillRate := refillPeriod
      lastRefill := c.created }).allow c.now

abbrev RateLimiter (Id : Type) := CallerKind × Id → Option TokenBucket

variable (calls : List (AllowCall Id))

def Timed : Prop :=
  (calls.flatMap fun c => [c.created, c.now]).Pairwise (· ≤ ·)

theorem Timed.of_snoc {calls : List (AllowCall Id)} {c : AllowCall Id} (h : Timed (calls ++ [c])) :
    Timed calls ∧ (∀ c' ∈ calls, c'.now ≤ c.now) ∧ c.created ≤ c.now := by
  rw [Timed, flatMap_append, pairwise_append] at h
  refine ⟨h.1, fun c' hc' => h.2.2 _ (mem_flatMap.mpr ⟨c', hc', by simp⟩) _ (by simp), ?_⟩
  simpa using h.2.1

variable [DecidableEq Id]

def RateLimiter.allow (r : RateLimiter Id) (c : AllowCall Id) : RateLimiter Id × Bool :=
  (Function.update r (c.kind, c.id) (some (c.serve (r (c.kind, c.id))).1),
    (c.serve (r (c.kind, c.id))).2)

def RateLimiter.allowSatellite (r : RateLimiter Id) (satelliteID : Id) (created now : Int) :
    RateLimiter Id × Bool := r.allow ⟨.satellite, satelliteID, created, now⟩

def RateLimiter.allowUser (r : RateLimiter Id) (userID : Id) (created now : Int) :
    RateLimiter Id × Bool := r.allow ⟨.user, userID, created, now⟩

def handle (s : RateLimiter Id × List (AllowCall Id)) (c : AllowCall Id) :
    RateLimiter Id × List (AllowCall Id) :=
  ((RateLimiter.allow s.1 c).1, if (RateLimiter.allow s.1 c).2 then s.2 ++ [c] else s.2)

def history : RateLimiter Id × List (AllowCall Id) :=
  calls.foldl handle (fun _ => none, [])

def answer (earlier : List (AllowCall Id)) (c : AllowCall Id) : Bool :=
  (RateLimiter.allow (history earlier).1 c).2

/-! ## 2. One caller's bucket -/

variable (key : CallerKind × Id)

def AllowCall.isOf (c : AllowCall Id) : Bool := (c.kind, c.id) = key

theorem history_snoc (c : AllowCall Id) : history (calls ++ [c]) = handle (history calls) c := by
  simp [history]

open RateLimiter

open AllowCall

theorem history_filter (calls : List (AllowCall Id)) :
    (history (calls.filter (isOf key))).1 key = (history calls).1 key := by
  induction calls using reverseRecOn with
  | nil => rfl
  | append_singleton calls c ih =>
    rw [filter_append, history_snoc]
    by_cases hk : (c.kind, c.id) = key
    · subst hk
      simp [isOf, history_snoc, handle, allow] at ih ⊢
      rw [ih]
    · simp [isOf, hk, ih, handle, allow, Function.update_of_ne (symm hk)]

def admitted (calls : List (AllowCall Id)) : List Int :=
  ((history calls).2.filter (AllowCall.isOf key)).map (·.now)

/-- `times` are those of the calls a bucket of size `M` has admitted. -/
structure Inv (M : Nat) (b : TokenBucket) (times : List Int) : Prop where
  size : b.maxTokens = M
  rate : b.refillRate = refillPeriod
  before : ∀ t ∈ times, t < b.lastRefill + refillPeriod
  /-- from `a` on, with the last refill at most `n` periods later -/
  spent_le : ∀ (a : Int) (n : Nat), b.lastRefill ≤ a + n * refillPeriod →
    times.countP (a ≤ ·) + b.tokens ≤ n * M + M
  le_spent : M ≤ times.countP (b.lastRefill ≤ ·) + b.tokens
  window : ∀ (a : Int) (n : Nat),
    times.countP (fun t => a ≤ t ∧ t ≤ a + n * refillPeriod) ≤ n * M + M

variable {M : Nat} {b : TokenBucket} {times : List Int} {now : Int}

theorem Inv.refill (h : Inv M b times) (hle : b.lastRefill ≤ now) :
    Inv M (b.refill now) times ∧ (b.refill now).lastRefill ≤ now
      ∧ now < (b.refill now).lastRefill + refillPeriod := by
  have hr := h.rate
  unfold TokenBucket.refill
  split
  · -- what was admitted is a period ago
    have hn : ∀ a, now ≤ a → times.countP (a ≤ ·) = 0 := by
      intro a ha
      rw [countP_eq_zero]
      intro t ht hat
      have := h.before t ht
      simp at hat
      omega
    refine ⟨{ h with before := ?_, spent_le := ?_, le_spent := ?_ }, Int.le_refl _,
      Int.lt_add_of_pos_right now (by decide)⟩
    · intro t ht
      have := h.before t ht
      simp only
      omega
    · intro a n hl
      simp only [h.size] at hl ⊢
      cases n with
      | zero => grind
      | succ n =>
        push_cast at hl
        rw [Int.add_mul, Int.one_mul] at hl
        have := h.spent_le a n (by omega)
        rw [Nat.succ_mul]
        omega
    · simp only [h.size]
      omega
  · exact ⟨h, hle, by omega⟩

theorem Inv.allow (h : Inv M b times) (hle : b.lastRefill ≤ now) :
    Inv M (b.allow now).1 (if (b.allow now).2 then times ++ [now] else times)
      ∧ (b.allow now).1.lastRefill ≤ now
      ∧ ((b.allow now).2 = false → M ≤ times.countP fun t => now - refillPeriod < t) := by
  obtain ⟨hi, hl, hn⟩ := h.refill hle
  unfold TokenBucket.allow
  generalize b.refill now = b at hi hl hn
  by_cases hto : b.tokens > 0
  · simp only [if_pos hto, ↓reduceIte]
    refine ⟨{ hi with before := ?_, spent_le := ?_, le_spent := ?_, window := ?_ }, hl, nofun⟩
    · intro t ht
      rcases mem_append.mp ht with ht | ht
      · exact hi.before t ht
      rw [mem_singleton.mp ht]
      exact hn
    · intro a n hle'
      have := hi.spent_le a n hle'
      rw [countP_append, countP_singleton]
      split <;> simp only <;> omega
    · grind [hi.le_spent]
    intro a n
    rw [countP_append, countP_singleton]
    split
    · rename_i hin
      simp only [decide_eq_true_eq] at hin
      have hs := hi.spent_le a n (by omega)
      have hm : times.countP (fun t => a ≤ t ∧ t ≤ a + n * refillPeriod)
          ≤ times.countP (a ≤ ·) := countP_mono_left (by simp +contextual)
      omega
    · exact hi.window a n
  · simp only [if_neg hto, Bool.false_eq_true, ↓reduceIte]
    refine ⟨hi, hl, fun _ => ?_⟩
    have hs := hi.le_spent
    have hm : times.countP (b.lastRefill ≤ ·)
        ≤ times.countP fun t => now - refillPeriod < t := by
      refine countP_mono_left fun t _ ht => ?_
      simp only [decide_eq_true_eq] at ht ⊢
      omega
    omega

/-! ## 3. Any calls -/

def Bounded (calls : List (AllowCall Id)) : Prop :=
  match (history calls).1 key with
  | none => admitted key calls = []
  | some b => Inv key.1.maxTokens b (admitted key calls)
      ∧ ∀ t, (∀ c ∈ calls, c.now ≤ t) → b.lastRefill ≤ t

theorem Bounded.bucket {calls : List (AllowCall Id)} {c : AllowCall Id}
    (h : Bounded (c.kind, c.id) calls) (ht : Timed (calls ++ [c])) :
    ∃ b, c.serve ((history calls).1 (c.kind, c.id)) = b.allow c.now
      ∧ Inv c.kind.maxTokens b (admitted (c.kind, c.id) calls) ∧ b.lastRefill ≤ c.now := by
  obtain ⟨-, hbe, hno⟩ := ht.of_snoc
  unfold Bounded at h
  split at h
  · rename_i hn
    refine ⟨_, rfl, ?_, ?_⟩
    · rw [hn, h]
      constructor <;> simp
    rw [hn]
    exact hno
  rename_i b hb
  rw [hb]
  exact ⟨b, rfl, h.1, h.2 _ hbe⟩

theorem bounded {calls : List (AllowCall Id)} (h : Timed calls) : Bounded key calls := by
  induction calls using reverseRecOn with
  | nil => rfl
  | append_singleton calls c ih =>
    have hold := ih h.of_snoc.1
    by_cases hk : (c.kind, c.id) = key
    · subst hk
      obtain ⟨b, hs, hi, hle⟩ := hold.bucket h
      obtain ⟨hi', hle', -⟩ := hi.allow hle
      have ha : admitted (c.kind, c.id) (calls ++ [c])
          = if (b.allow c.now).2 then admitted (c.kind, c.id) calls ++ [c.now]
            else admitted (c.kind, c.id) calls := by
        simp only [admitted, history_snoc, handle, allow, hs]
        split <;> simp [isOf]
      rw [Bounded, history_snoc, ha]
      simp only [handle, allow, Function.update_self, hs]
      exact ⟨hi', fun t ht => Int.le_trans hle' (ht c (by simp))⟩
    · have ha : admitted key (calls ++ [c]) = admitted key calls := by
        simp only [admitted, history_snoc, handle]
        split <;> simp [isOf, hk]
      unfold Bounded at hold ⊢
      rw [history_snoc, ha]
      simp only [handle, allow, Function.update_of_ne (symm hk)]
      cases hb : (history calls).1 key with
      | none => rw [hb] at hold; exact hold
      | some b => simp_all

/-- **The limits.** `c` is a call after `calls`. -/
theorem rate_limited (c : AllowCall Id) (h : Timed (calls ++ [c])) :
    (∀ (key : CallerKind × Id) (a : Int) (L : Nat),
      (admitted key calls).countP (fun t => a ≤ t ∧ t ≤ a + L)
        ≤ key.1.maxTokens * (1 + (L + refillPeriod - 1) / refillPeriod))
    ∧ (answer calls c = false → c.kind.maxTokens ≤ (admitted (c.kind, c.id) calls).countP
        fun t => c.now - refillPeriod < t)
    ∧ answer calls c = answer (calls.filter (AllowCall.isOf (c.kind, c.id))) c := by
  have hti := h.of_snoc.1
  refine ⟨?_, ?_, ?_⟩
  · intro key a L
    have hb : (admitted key calls).countP (fun t => a ≤ t ∧ t ≤ a
        + ((L + refillPeriod - 1) / refillPeriod : Nat) * refillPeriod)
          ≤ (L + refillPeriod - 1) / refillPeriod * key.1.maxTokens + key.1.maxTokens := by
      have hk := bounded key hti
      unfold Bounded at hk
      split at hk
      · simp [hk]
      · exact hk.1.window a _
    rw [Nat.mul_add, Nat.mul_one, Nat.add_comm, Nat.mul_comm]
    refine Nat.le_trans (countP_mono_left fun t _ ht => ?_) hb
    have hc : L ≤ (L + refillPeriod - 1) / refillPeriod * refillPeriod := by
      simp only [refillPeriod]
      omega
    simp only [decide_eq_true_eq] at ht ⊢
    omega
  · intro hr
    obtain ⟨b, hs, hi, hle⟩ := (bounded (c.kind, c.id) hti).bucket h
    exact (hi.allow hle).2.2 (by rw [← hs]; exact hr)
  · simp only [answer, allow, history_filter]

def fifty : List (AllowCall Nat) := replicate 50 ⟨.user, 7, 0, 0⟩

/-- A user's 51st call, right after the others. -/
theorem rate_limited_refused : (RateLimiter.allowUser (history fifty).1 7 1 1).2 = false ∧
    50 ≤ (admitted (.user, 7) fifty).countP fun t => 1 - (refillPeriod : Int) < t := by
  have hr : answer fifty ⟨.user, 7, 1, 1⟩ = false := by decide +kernel
  exact ⟨hr, (rate_limited fifty ⟨.user, 7, 1, 1⟩ (by simp [Timed, fifty])).2.1 hr⟩

end Daao.Auth

/-
Daao.License.Manager — license keys and what they entitle to
(`internal/license/license.go`, `internal/license/features.go`).

A key is three base64url parts with dots between them: a header, the claims
and a signature of both. `LoadKey` verifies and decodes it, and `Validate`
looks at the clock, twice. What is asked of the manager later is answered
from the claims that are held, and the clock is not looked at again: a key
that expires while it is held goes on to count.

Base64, Ed25519, JSON and the formatting of times are the `Host`'s, whatever
they do; its errors are texts. Of the claims, `customer` is not read.
-/
import Daao.Lib.GoStrings
import Mathlib.Data.List.Induction

namespace Daao.License

open Daao.Lib List

/-! ## 1. Keys -/

structure Claims where
  subject : String
  tier : String
  maxUsers : Int
  maxSatellites : Int
  features : List String
  issuedAt : Int
  expiresAt : Int

structure Host where
  /-- `base64.StdEncoding.DecodeString` -/
  stdDecode : GoString → Except String GoString
  /-- `base64.URLEncoding.DecodeString` -/
  urlDecode : GoString → Except String GoString
  verify : GoString → GoString → GoString → Bool
  /-- the algorithm that the header's JSON names -/
  unmarshalHeader : GoString → Except String String
  unmarshalClaims : GoString → Except String Claims
  /-- the verb `%q` -/
  quote : String → String
  rfc3339 : Int → String

variable (host : Host)

def Claims.validate (c : Claims) (now later : Int) : Option String :=
  if c.subject = "" then some "license: missing subject"
  else if c.tier = "" then some "license: missing tier"
  else if 0 < c.expiresAt ∧ c.expiresAt < now then
    some ("license: expired at " ++ host.rfc3339 c.expiresAt)
  else if 0 < c.issuedAt ∧ later + 300 < c.issuedAt then some "license: issued in the future"
  else none

def Claims.hasFeature (c : Claims) (feature : String) : Bool := c.features.any (· == feature)

def base64URLDecode (s : GoString) : Except String GoString :=
  match s.length % 4 with
  | 2 => host.urlDecode (s ++ go "==")
  | 3 => host.urlDecode (s ++ go "=")
  | _ => host.urlDecode s

def wrap {α : Type} (text : String) (result : Except String α) : Except String α :=
  result.mapError (text ++ ·)

def parseAndVerify (publicKey : Option GoString) (token : GoString) : Except String Claims :=
  match token.splitOn '.'.toUInt8 with
  | [header, payload, signature] =>
    match publicKey with
    | none => .error "license: no public key configured"
    | some key => do
      let signature ← wrap "license: invalid signature encoding: " (base64URLDecode host signature)
      if host.verify key (header ++ go "." ++ payload) signature = false then
        .error "license: invalid signature"
      else
        let headerBytes ← wrap "license: invalid header encoding: " (base64URLDecode host header)
        let alg ← wrap "license: invalid header JSON: " (host.unmarshalHeader headerBytes)
        if alg ≠ "EdDSA" then
          .error ("license: unsupported algorithm " ++ host.quote alg ++ ", expected EdDSA")
        else
          let payloadBytes ← wrap "license: invalid payload encoding: "
            (base64URLDecode host payload)
          wrap "license: invalid payload JSON: " (host.unmarshalClaims payloadBytes)
  | _ => .error "license: invalid token format"

/-! ## 2. The manager -/

structure Manager where
  claims : Option Claims
  publicKey : Option GoString

def newManager (publicKeyBase64 : GoString) : Except String Manager :=
  if publicKeyBase64 = [] then .ok { claims := none, publicKey := none }
  else do
    let key ← wrap "license: invalid public key encoding: " (host.stdDecode publicKeyBase64)
    if key.length ≠ 32 then
      .error ("license: invalid public key size: got " ++ toString key.length ++ ", want 32")
    else .ok { claims := none, publicKey := some key }

/-- A call of `LoadKey`, with what its two looks at the clock show. -/
structure Load where
  licenseKey : GoString
  now : Int
  later : Int

/-- The manager afterwards, and the error. -/
def Manager.loadKey (m : Manager) (l : Load) : Manager × Option String :=
  if l.licenseKey = [] then ({ m with claims := none }, none)
  else
    match parseAndVerify host m.publicKey l.licenseKey with
    | .error e => (m, some e)
    | .ok claims =>
      match claims.validate host l.now l.later with
      | some e => (m, some e)
      | none => ({ m with claims := some claims }, none)

section

variable (m : Manager)

def Manager.tier : String := m.claims.elim "community" Claims.tier

def Manager.isEnterprise : Bool := m.tier = "enterprise"

def Manager.maxUsers : Int :=
  match m.claims with
  | none => 3
  | some c => if c.maxUsers = 0 then 3 else c.maxUsers

def Manager.maxSatellites : Int :=
  match m.claims with
  | none => 5
  | some c => if c.maxSatellites = 0 then 5 else c.maxSatellites

def Manager.hasFeature (feature : String) : Bool := m.claims.elim false (·.hasFeature feature)

def Manager.maxRecordings : Int :=
  match m.claims with
  | none => 50
  | some c => if c.hasFeature "advanced_recordings" then 0 else 50

def Manager.telemetryRetentionHours : Int :=
  match m.claims with
  | none => 1
  | some c => if c.hasFeature "advanced_telemetry" then 720 else 1

end

structure Report where
  tier : String
  isEnterprise : Bool
  maxUsers : Int
  maxSatellites : Int
  hasFeature : String → Bool
  maxRecordings : Int
  telemetryRetentionHours : Int

def Manager.report (m : Manager) : Report :=
  { tier := m.tier, isEnterprise := m.isEnterprise, maxUsers := m.maxUsers
    maxSatellites := m.maxSatellites, hasFeature := m.hasFeature
    maxRecordings := m.maxRecordings, telemetryRetentionHours := m.telemetryRetentionHours }

def Manager.loadAll (m : Manager) (loads : List Load) : Manager :=
  loads.foldl (fun m l => (m.loadKey host l).1) m

/-! ## 3. What is wanted -/

/-- The claims of a key that is loaded. -/
def accepted (publicKey : Option GoString) (l : Load) : Option Claims :=
  match parseAndVerify host publicKey l.licenseKey with
  | .error _ => none
  | .ok claims => if claims.validate host l.now l.later = none then some claims else none

/-- The claims of the keys that were loaded since the last empty one, the
last key first. -/
def since (publicKey : Option GoString) (loads : List Load) : List Claims :=
  (loads.reverse.takeWhile fun l => l.licenseKey ≠ []).filterMap (accepted host publicKey)

def Claims.expired (c : Claims) (t : Int) : Bool := 0 < c.expiresAt ∧ c.expiresAt < t

def entitled (publicKey : Option GoString) (loads : List Load) (t : Int) : Option Claims :=
  (since host publicKey loads).find? fun c => !c.expired t

/-! ## 4. What the manager holds -/

variable {m : Manager}

theorem loadKey_fst (l : Load) : (m.loadKey host l).1 = { m with
    claims := if l.licenseKey = [] then none else (accepted host m.publicKey l).or m.claims } := by
  unfold Manager.loadKey accepted
  split
  · rfl
  cases parseAndVerify host m.publicKey l.licenseKey with
  | error e => rfl
  | ok claims => cases hv : claims.validate host l.now l.later <;> simp [hv]

theorem loadKey_failed {l : Load} {e : String} (h : (m.loadKey host l).2 = some e) :
    (m.loadKey host l).1 = m := by
  revert h
  fun_cases Manager.loadKey <;> simp_all

theorem loadAll_eq (hm : m.claims = none) (a : List Load) :
    m.loadAll host a = { m with claims := (since host m.publicKey a).head? } := by
  induction a using reverseRecOn with
  | nil => rw [since, reverse_nil, takeWhile_nil, filterMap_nil, head?_nil, ← hm]; rfl
  | append_singleton a l ih =>
    have hl : m.loadAll host (a ++ [l]) = ((m.loadAll host a).loadKey host l).1 := by
      rw [Manager.loadAll, foldl_append]
      rfl
    rw [hl, loadKey_fst, ih]
    by_cases he : l.licenseKey = []
    · simp [since, he]
    · cases ha : accepted host m.publicKey l <;> simp [since, he, ha]

/-- A call that fails changes nothing, and as long as the key that is held
has not expired, the manager reports what the keys entitle to. -/
theorem report_entitled :
    (∀ (m : Manager) (l : Load) (e : String), (m.loadKey host l).2 = some e →
      (m.loadKey host l).1 = m) ∧
    ∀ (publicKeyBase64 : GoString) (m : Manager) (loads : List Load) (t : Int),
      newManager host publicKeyBase64 = .ok m →
      (∀ c, (m.loadAll host loads).claims = some c → c.expired t = false) →
      (m.loadAll host loads).report
        = { m with claims := entitled host m.publicKey loads t }.report := by
  refine ⟨fun m l e h => loadKey_failed host h, fun encoded m loads t hn hv => ?_⟩
  have hm : m.claims = none := by
    unfold newManager at hn
    split at hn
    · cases hn
      rfl
    cases hk : host.stdDecode encoded <;> simp only [hk, wrap] at hn
    · cases hn
    change (if _ then _ else _) = _ at hn
    split at hn <;> cases hn
    rfl
  rw [loadAll_eq host hm] at hv ⊢
  unfold entitled
  cases hs : since host m.publicKey loads with
  | nil => rfl
  | cons c rest => simp [hv c (by rw [hs]; rfl)]

def lax : Host :=
  { stdDecode := .ok, urlDecode := .ok, verify := fun _ _ _ => true
    unmarshalHeader := fun _ => .ok "EdDSA", quote := id, rfc3339 := fun _ => ""
    unmarshalClaims := fun _ => .ok
      { subject := "c1", tier := "enterprise", maxUsers := 9, maxSatellites := 9
        features := ["ha"], issuedAt := 0, expiresAt := 10 } }

def keyless : Manager := { claims := none, publicKey := some (replicate 32 0) }

/-- One key, which expires at 10, is loaded at 5. -/
def oneKey : List Load := [{ licenseKey := go "..", now := 5, later := 5 }]

theorem report_entitled_unexpired :
    (keyless.loadAll lax oneKey).report
      = { keyless with claims := entitled lax keyless.publicKey oneKey 9 }.report := by
  refine (report_entitled lax).2 (replicate 32 0) keyless oneKey 9 rfl fun c hc => ?_
  cases hc
  rfl

/-- At 11 the key still counts. -/
theorem report_expired :
    newManager lax (replicate 32 0) = .ok keyless ∧
      (keyless.loadAll lax oneKey).tier = "enterprise" ∧
      (keyless.loadAll lax oneKey).hasFeature "ha" = true ∧
      (keyless.loadAll lax oneKey).maxUsers = 9 ∧
      (entitled lax keyless.publicKey oneKey 11).isNone = true :=
  ⟨rfl, by decide, by decide, by decide, by decide⟩

end Daao.License

/-
Daao.Transport.CheckOrigin — which origins may open a WebSocket
(`internal/transport/cors/check.go`).

If no origins are configured, the host of the `Origin` header and the
`Host` header are compared up to their first colon. For a name or an IPv4
address this drops the port. A bracketed IPv6 address is cut after its
first group, so that two addresses with the same first group pass for one
host (`other_address_accepted`).

`trimSpace` is `strings.TrimSpace`. Hosts are compared as texts.
-/
import Daao.Lib.GoStrings
import Mathlib.Data.List.Infix

namespace Daao.Transport

open Daao.Lib List

def colon : UInt8 := ':'.toUInt8

def openBracket : UInt8 := '['.toUInt8

/-- `strings.SplitN(s, sep, 2)` -/
def splitN2 (sep : GoString) : GoString → List GoString
  | [] => [[]]
  | b :: s =>
    if hasPrefix (b :: s) sep then [[], (b :: s).drop sep.length]
    else match splitN2 sep s with
      | before :: rest => (b :: before) :: rest
      | [] => []

/-- `strings.Split(s, ":")[0]` -/
def beforeColon (s : GoString) : GoString := (s.splitOn colon).headD []

structure OriginEnv where
  allowedOrigins : GoString
  corsOrigins : GoString

/-- The configured origins: `DAAO_ALLOWED_ORIGINS`, or `DAAO_CORS_ORIGINS`. -/
def OriginEnv.configured (env : OriginEnv) : GoString :=
  if env.allowedOrigins = [] then env.corsOrigins else env.allowedOrigins

variable (trimSpace : GoString → GoString) (env : OriginEnv)

def checkOrigin (origin host : GoString) : Bool :=
  if origin = [] then true
  else if env.configured ≠ [] then
    (env.configured.splitOn ','.toUInt8).any fun allowed => trimSpace allowed = origin
  else if containsString origin (go "://") then
    match splitN2 (go "://") origin with
    | [_, rest] => beforeColon rest = beforeColon host
    | _ => false
  else false

/-! ## Hosts -/

/-- The hosts of the two headers. An IPv6 address is cut at its first
colon; it has one. -/
inductive Host where
  /-- a name or an IPv4 address -/
  | name (text : GoString) (hcolon : colon ∉ text) (hbracket : openBracket ∉ text)
  | ipv6 (first rest : GoString) (hcolon : colon ∉ first)

def Host.text : Host → GoString
  | .name text _ _ => text
  | .ipv6 first rest _ => openBracket :: first ++ colon :: rest ++ [']'.toUInt8]

structure HostPort where
  host : Host
  port : Option GoString

def HostPort.text (h : HostPort) : GoString := h.host.text ++ h.port.elim [] (colon :: ·)

def originText (scheme : GoString) (h : HostPort) : GoString := scheme ++ go "://" ++ h.text

/-- What the comparison looks at. -/
def Host.compared : Host → GoString
  | .name text _ _ => text
  | .ipv6 first _ _ => openBracket :: first

theorem splitOn_of_not_mem {s : GoString} (h : colon ∉ s) : s.splitOn colon = [s] := by
  have hs : ([colon].intercalate [s]).splitOn colon = [s] :=
    splitOn_intercalate colon (by simpa using h) (by simp)
  rwa [intercalate_singleton] at hs

theorem beforeColon_append {s : GoString} (h : colon ∉ s) (r : GoString) :
    beforeColon (s ++ colon :: r) = s := by
  rw [beforeColon, splitOn_append_cons_self, splitOn_of_not_mem h]
  rfl

theorem beforeColon_text (h : HostPort) : beforeColon h.text = h.host.compared := by
  obtain ⟨host | ⟨first, r, hc⟩, port⟩ := h
  · cases port with
    | none => simp [HostPort.text, Host.text, Host.compared, beforeColon, splitOn_of_not_mem, *]
    | some port => exact beforeColon_append ‹_› port
  have ho : colon ∉ openBracket :: first := by
    rw [mem_cons, not_or]
    exact ⟨by decide, hc⟩
  simp only [HostPort.text, Host.text, Host.compared, append_assoc, cons_append]
  exact beforeColon_append ho _

theorem splitN2_scheme {s : GoString} (h : colon ∉ s) (r : GoString) :
    splitN2 (go "://") (s ++ go "://" ++ r) = [s, r] := by
  induction s with
  | nil => rfl
  | cons b s ih =>
    rw [mem_cons, not_or] at h
    have hf : hasPrefix (b :: (s ++ go "://" ++ r)) (go "://") = false := by
      have hne : colon ≠ b := h.1
      change (colon == b && _) = false
      simp [hne]
    simp only [cons_append, splitN2, hf, ih h.2]
    simp

theorem containsString_append (s u r : GoString) :
    containsString (s ++ u ++ r) u = true := by
  rw [containsString, any_eq_true]
  exact ⟨u ++ r, (mem_tails _ _).mpr ⟨s, by simp⟩,  isPrefixOf_iff_prefix.mpr ⟨r, rfl⟩⟩

/-- Both are IPv6 addresses, they differ, and they have the same first
group. -/
def Host.Confusable : Host → Host → Prop
  | .ipv6 first rest _, .ipv6 first' rest' _ => first = first' ∧ rest ≠ rest'
  | _, _ => False

theorem Host.compared_eq_of_text_eq {h h' : Host} (heq : h.text = h'.text) :
    h.compared = h'.compared := by
  have hc (h : Host) : beforeColon h.text = h.compared := by
    simpa [HostPort.text] using beforeColon_text ⟨h, none⟩
  rw [← hc, ← hc, heq]

/-- Comparing up to the first colon is comparing the hosts, unless they are
confusable. -/
theorem Host.compared_eq_iff (h h' : Host) :
    (h.compared = h'.compared ↔ h.text = h'.text) ↔ ¬ h.Confusable h' := by
  constructor
  · intro hiff hco
    cases h <;> cases h' <;> simp_all [compared, text, Confusable]
  · intro hco
    refine ⟨fun heq => ?_, compared_eq_of_text_eq⟩
    cases h <;> cases h' <;> grind [compared, text, Confusable]

/-- **Origins.** Without a configuration, accepting an origin exactly if its
host is that of the request is right for all hosts but two IPv6 addresses
with the same first group, and wrong for these. With a configuration exactly
the listed origins are accepted, and the requests without an origin. -/
theorem checkOrigin_iff :
    (env.configured = [] → ∀ (scheme : GoString) (origin host : HostPort), colon ∉ scheme →
      ((checkOrigin trimSpace env (originText scheme origin) host.text = true
          ↔ origin.host.text = host.host.text)
        ↔ ¬ origin.host.Confusable host.host)) ∧
    (env.configured ≠ [] → ∀ origin host : GoString,
      checkOrigin trimSpace env origin host = true ↔
        origin = [] ∨ origin ∈ (env.configured.splitOn ','.toUInt8).map trimSpace) := by
  refine ⟨fun hn scheme origin host hs => ?_, fun hso origin host => ?_⟩
  · have hne : originText scheme origin ≠ [] := by
      simp [originText, go]
    rw [checkOrigin, if_neg hne, if_neg (not_not.mpr hn), originText,
      if_pos (containsString_append scheme (go "://") origin.text), splitN2_scheme hs]
    simp only [beforeColon_text, decide_eq_true_eq]
    exact Host.compared_eq_iff origin.host host.host
  · by_cases ho : origin = [] <;> simp [checkOrigin, ho, hso]

/-- The port of a name is ignored, and a listed origin is accepted. -/
theorem checkOrigin_iff_port :
    let origin : HostPort := ⟨.name (go "nexus") (by decide) (by decide), some (go "8081")⟩
    let host : HostPort := ⟨.name (go "nexus") (by decide) (by decide), none⟩
    (checkOrigin id ⟨[], []⟩ (originText (go "http") origin) host.text = true ↔
        origin.host.text = host.host.text) ∧
      checkOrigin id ⟨go "http://a,http://b", []⟩ (go "http://b") (go "c") = true :=
  ⟨((checkOrigin_iff id ⟨[], []⟩).1 rfl (go "http") ⟨.name (go "nexus") (by decide) (by decide),
      some (go "8081")⟩ ⟨.name (go "nexus") (by decide) (by decide), none⟩ (by decide)).mpr id,
    ((checkOrigin_iff id ⟨go "http://a,http://b", []⟩).2 (by decide) _ _).mpr (.inr (by decide))⟩

/-- No origins are configured, and a page on one address opens a WebSocket
on another. -/
theorem other_address_accepted :
    checkOrigin id ⟨[], []⟩ (go "http://[2001:db8::1]:8081") (go "[2001:db8::2]") = true ∧
      originText (go "http") ⟨.ipv6 (go "2001") (go "db8::1") (by decide), some (go "8081")⟩
        = go "http://[2001:db8::1]:8081" ∧
      HostPort.text ⟨.ipv6 (go "2001") (go "db8::2") (by decide), none⟩ = go "[2001:db8::2]" := by
  decide

end Daao.Transport

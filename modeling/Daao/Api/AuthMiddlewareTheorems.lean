/-
Daao.Api.AuthMiddlewareTheorems — which requests reach a handler without
credentials.

The middleware exempts by path and by header, the multiplexer routes by
method and path, and they do not look at the same things. The login path
has spellings that decode to it and are routed to `handleAPI`
(`/api/v1/auth%2Flogin`). And nothing ties `Upgrade: websocket` to the two
handlers that speak WebSocket, so any request that has it reaches any
handler.
-/
import Daao.Api.AuthMiddleware

namespace Daao.Api

open Daao.Lib List ServeMux

variable {Cert : Type}

/-! ## 1. Where the exempt paths lead -/

def allRoutes : List (ServeMux.Route Handler) :=
  coreRoutes ++ databaseRoutes ++ scheduleRoutes ++ pipelineRoutes

variable {opts : Options}

theorem mem_allRoutes {r : ServeMux.Route Handler} (h : r ∈ routes opts) : r ∈ allRoutes := by
  grind [routes, allRoutes]

theorem allRoutes_spec : ∀ rt ∈ allRoutes,
    (ServeMux.Matches rt.pattern.segments [go "health"] → rt.handler = .health)
      ∧ (ServeMux.Matches rt.pattern.segments [go "metrics"] → rt.handler = .metrics)
      ∧ ¬ ServeMux.Matches rt.pattern.segments []
      ∧ (rt.pattern.method ≠ none → ¬ ServeMux.Matches rt.pattern.segments loginSegments) := by
  decide +kernel

variable {e : Endpoint} {r : Request Cert}

theorem route_of_single {n : GoString} {h : Handler} (hp : r.url.path = slash :: n)
    (hne : n ≠ []) (hn : slash ∉ n)
    (ho : ∀ rt ∈ allRoutes, ServeMux.Matches rt.pattern.segments [n] → rt.handler = h)
    (hr : route opts r = some e) : e = h.serve opts r.method r.url.path := by
  obtain ⟨handler, hf, rfl⟩ := Option.map_eq_some_iff.mp hr
  obtain ⟨rt, hme, rfl, hm⟩ := findHandler_sound hf
  have hd := r.url.decodes
  rw [hp] at hd
  rcases pathSegments_of_single hd hne hn with hs | hs
  · rw [hs] at hm
    rw [ho rt (mem_allRoutes hme) hm]
  · grind [allRoutes_spec, mem_allRoutes]

theorem route_login (hd : opts.database = true)
    (hs : pathSegments r.url.escapedPath = loginSegments)
    (hr : route opts r = some e) : e = .handler .login := by
  obtain ⟨handler, hf, rfl⟩ := Option.map_eq_some_iff.mp hr
  obtain ⟨rt, hm, rfl⟩ := findHandler_eq_some hf
  rw [hs, matchMethodAndPath_eq fun rt hrt => (allRoutes_spec rt (mem_allRoutes hrt)).2.2.2] at hm
  have hl : ∀ s c, (matchPath
      (methodNode (routes ⟨true, s, c⟩) none) loginSegments).map ServeMux.Route.handler
        = some .login := by
    decide +kernel
  obtain ⟨database, s, c⟩ := opts
  cases hd
  have hh := hl s c
  rw [hm] at hh
  rw [Option.some.inj hh]
  rfl

/-! ## 2. What passes the middleware -/

theorem token_mem_tokens (h : ¬ (r.authHeader = [] ∨ r.authHeader.length < 8)) :
    r.authHeader.drop 7 ∈ r.tokens := by
  rw [not_or, Nat.not_lt] at h
  obtain ⟨hne, hl⟩ := h
  have hs : r.authHeader = r.sentHeader := by
    unfold Request.authHeader at hne ⊢
    split
    · grind
    · rfl
  refine mem_filter.mpr ⟨?_, ?_⟩
  · rw [hs] at hne ⊢
    unfold Request.sentHeader at hne ⊢
    split
    · rename_i he
      rw [if_pos he] at hne
      cases hc : r.authCookie with
      | none => grind
      | some value =>
        have hd : (go "Bearer " ++ value).drop 7 = value := drop_left' (by decide)
        simp [hd]
    · exact mem_cons_self
  · simpa using Nat.lt_of_succ_le hl

variable {srv : Server Cert}

theorem authMiddleware_ok (ho : srv.oidcIssuer = true) (h : authMiddleware srv r = .ok ()) :
    r.url.path ∈ exemptPaths ∨ r.isUpgrade = true ∨ Carries srv r := by
  unfold authMiddleware at h
  split at h
  · rename_i hp
    exact .inl hp
  split at h
  · grind
  refine .inr (.inr ?_)
  split at h
  · rename_i c s hc
    split at h
    · cases h
    rename_i hv
    exact .inl ⟨c, by rw [hc]; exact mem_cons_self, by simpa using hv⟩
  split at h
  · cases h
  rename_i hh
  simp only at h
  split at h
  · cases h
  rename_i hv
  exact .inr ⟨_, token_mem_tokens hh, by simpa using hv⟩

theorem serve_of_exempt (h : r.url.path ∈ exemptPaths ∨ r.isUpgrade = true) :
    serve srv r = route srv.opts r := by
  grind [serve, authMiddleware]

theorem exempt_of_path (hp : r.url.path ∈ exemptPaths) (hr : route srv.opts r = some e) :
    e.isExempt = true ∨ r.aliasesLogin srv := by
  simp only [exemptPaths, mem_cons, not_mem_nil, or_false] at hp
  rcases hp with hp | hp | hp
  · rw [route_of_single (h := .health) hp (by decide) (by decide)
      (fun rt hrt => (allRoutes_spec rt hrt).1) hr]
    exact .inl rfl
  · rw [route_of_single (h := .metrics) hp (by decide) (by decide)
      (fun rt hrt => (allRoutes_spec rt hrt).2.1) hr]
    exact .inl rfl
  by_cases hl : srv.opts.database = true ∧ pathSegments r.url.escapedPath = loginSegments
  · rw [route_login hl.1 hl.2 hr]
    exact .inl rfl
  · exact .inr ⟨hp, hl⟩

/-- **Authentication.** With an OIDC issuer, a request is guarded exactly
if it is neither a WebSocket upgrade nor another spelling of the login
path, or has accepted credentials, or is routed to exempt endpoints only. -/
theorem guarded_iff (srv : Server Cert) (r : Request Cert) (hoidc : srv.oidcIssuer = true) :
    Guarded srv r ↔ (r.isUpgrade = true ∨ r.aliasesLogin srv →
      Carries srv r ∨ ∀ e ∈ route srv.opts r, e.isExempt = true) := by
  constructor
  · intro hg hga
    have hs : serve srv r = route srv.opts r := by
      refine serve_of_exempt ?_
      rcases hga with hu | ⟨hp, -⟩
      · exact .inr hu
      · exact .inl (by rw [hp]; decide)
    by_cases hc : Carries srv r
    · exact .inl hc
    refine .inr fun e he => ?_
    by_contra hex
    exact hc (hg e (hs.trans he) (by simpa using hex))
  · intro hga e hs hex
    unfold serve at hs
    split at hs
    · grind [authMiddleware_ok, exempt_of_path]
    · cases hs

def exampleServer : Server Unit where
  opts := { database := true, scheduledSessions := true, sessionChaining := true }
  oidcIssuer := true
  validateCert := fun _ => false
  validateToken := fun token => token = go "good"
  allowSatellite := fun _ => true
  allowUser := fun _ => true

def getSessions (upgrade authorization : GoString) : Request Unit where
  method := "GET"
  url := { escapedPath := go "/api/v1/sessions", path := go "/api/v1/sessions"
           decodes := by decide +kernel }
  upgrade := upgrade
  authorization := authorization
  authCookie := none
  peerCertificates := []

/-- A request without the header is guarded; with the token it lists the
sessions. -/
theorem guarded_getSessions :
    serve exampleServer (getSessions [] (go "Bearer good")) = some (.api .listSessions [])
      ∧ Guarded exampleServer (getSessions [] (go "Bearer good")) := by
  constructor
  · decide +kernel
  · exact (guarded_iff exampleServer _ rfl).mpr fun h => absurd h (by decide +kernel)

/-- With the header and no credentials the sessions are listed too. -/
theorem listSessions_unguarded :
    exampleServer.oidcIssuer = true
      ∧ serve exampleServer (getSessions (go "websocket") []) = some (.api .listSessions [])
      ∧ ¬ Guarded exampleServer (getSessions (go "websocket") []) := by
  have hs : serve exampleServer (getSessions (go "websocket") [])
      = some (.api .listSessions []) := by
    decide +kernel
  refine ⟨rfl, hs, fun hg => ?_⟩
  have hc := hg _ hs rfl
  revert hc
  decide +kernel

end Daao.Api

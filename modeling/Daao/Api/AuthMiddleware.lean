/-
Daao.Api.AuthMiddleware — the authentication middleware in front of the
multiplexer (`internal/api/middleware.go`).

A request passes without credentials if its decoded path is one of three,
or if it has an `Upgrade: websocket` header: the handler is then expected
to authenticate by its first message. Otherwise the client certificate is
validated if there is one, and the bearer token of the `Authorization`
header, or of the cookie, if there is none.

The two validators and the rate limiter are parameters. Which user the
middleware puts into the request's context is left out: it decides no
request.
-/
import Daao.Api.Routing

namespace Daao.Api

open Daao.Lib

structure Server (Cert : Type) where
  opts : Options
  /-- `OIDC_ISSUER_URL` is set -/
  oidcIssuer : Bool
  /-- `certValidator.Validate` returns no error -/
  validateCert : Cert → Bool
  /-- `jwtValidator.Validate` returns no error -/
  validateToken : GoString → Bool
  allowSatellite : Cert → Bool
  /-- `AllowUser` for the user of a valid token -/
  allowUser : GoString → Bool

inductive Rejection where
  | invalidCertificate
  | rateLimitExceeded
  | authenticationRequired
  | invalidToken

def Rejection.status : Rejection → Nat
  | .rateLimitExceeded => 429
  | _ => 401

def Rejection.body : Rejection → String
  | .invalidCertificate => "\x7b\"error\":\"invalid satellite certificate\"\x7d"
  | .rateLimitExceeded => "\x7b\"error\":\"rate limit exceeded\"\x7d"
  | .authenticationRequired => "\x7b\"error\":\"authentication required\"\x7d"
  | .invalidToken => "\x7b\"error\":\"invalid token\"\x7d"

variable {Cert : Type}

def exemptPaths : List GoString := [go "/health", go "/metrics", go "/api/v1/auth/login"]

variable (r : Request Cert)

/-- `strings.EqualFold(r.Header.Get("Upgrade"), "websocket")`. -/
def Request.isUpgrade : Bool := equalFold r.upgrade (go "websocket")

/-- The `Authorization` header, or one made from the cookie. -/
def Request.sentHeader : GoString :=
  if r.authorization = [] then
    match r.authCookie with
    | some value => go "Bearer " ++ value
    | none => []
  else r.authorization

/-- A token that the frontend sent as `null` or `undefined` counts as none. -/
def Request.authHeader : GoString :=
  if r.sentHeader = go "Bearer null" ∨ r.sentHeader = go "Bearer undefined" then []
  else r.sentHeader

variable (srv : Server Cert)

/-- `AuthMiddleware`: `.ok` hands the request on. -/
def authMiddleware (r : Request Cert) : Except Rejection Unit :=
  if r.url.path ∈ exemptPaths then .ok ()
  else if r.isUpgrade then .ok ()
  else
    match r.peerCertificates with
    | clientCert :: _ =>
      if !srv.validateCert clientCert then .error .invalidCertificate
      else if !srv.allowSatellite clientCert then .error .rateLimitExceeded
      else .ok ()
    | [] =>
      if r.authHeader = [] ∨ r.authHeader.length < 8 then
        -- without OIDC the server is in single-user mode
        if srv.oidcIssuer then .error .authenticationRequired else .ok ()
      else
        let token := r.authHeader.drop 7
        if !srv.validateToken token then .error .invalidToken
        else if !srv.allowUser token then .error .rateLimitExceeded
        else .ok ()

def serve (r : Request Cert) : Option Endpoint :=
  match authMiddleware srv r with
  | .ok () => route srv.opts r
  | .error _ => none

/-- The handlers that take requests without credentials, and those that
authenticate by the first message on a WebSocket. -/
def Endpoint.isExempt : Endpoint → Bool
  | .handler .health | .handler .metrics | .handler .login => true
  | .handler .sessionStream | .terminalStream _ => true
  | _ => false

/-- The bearer tokens of a request: what the header has after `Bearer `,
and the cookie, unless they are empty. -/
def Request.tokens : List GoString :=
  (r.authorization.drop 7 :: r.authCookie.toList).filter (· ≠ [])

def Carries (r : Request Cert) : Prop :=
  (∃ cert ∈ r.peerCertificates, srv.validateCert cert = true)
    ∨ ∃ token ∈ r.tokens, srv.validateToken token = true

/-- If the request reaches an endpoint that is not exempt, it has accepted
credentials. -/
def Guarded (r : Request Cert) : Prop :=
  ∀ e, serve srv r = some e → e.isExempt = false → Carries srv r

def loginSegments : List GoString := [go "api", go "v1", go "auth", go "login"]

/-- The path decodes to the login path, but it is spelled otherwise or the
login handler is not registered. -/
def Request.aliasesLogin (r : Request Cert) : Prop :=
  r.url.path = go "/api/v1/auth/login" ∧
    ¬ (srv.opts.database = true ∧ ServeMux.pathSegments r.url.escapedPath = loginSegments)

instance decidableCarries (srv : Server Cert) (r : Request Cert) : Decidable (Carries srv r) :=
  inferInstanceAs (Decidable (_ ∨ _))

instance decidableAliasesLogin (srv : Server Cert) (r : Request Cert) :
    Decidable (r.aliasesLogin srv) :=
  inferInstanceAs (Decidable (_ ∧ ¬ (_ ∧ _)))

end Daao.Api

/-
Daao.Api.Routing — which handler an HTTP request is for
(`cmd/nexus/main.go`: `startHTTPServer`, `handleAPI`,
`handleSessionsSubpath`, `handleSatellitesSubpath`, and the
`Register…Routes` functions of `internal/api`).

Routing has two levels. The multiplexer picks a registered handler by the
request's method and ESCAPED path; three of these handlers then pick by
method and DECODED path. `handleAPI` is a `switch` of over forty cases,
which is a table here, read from the top; its default answers with the
name and version of the service.

Handlers that depend on the database or on a licence are registered when
`Options` says so.
-/
import Daao.Lib.ServeMux

namespace Daao.Api

open Daao.Lib

structure Url where
  escapedPath : GoString
  path : GoString
  decodes : pathUnescape escapedPath = some path

structure Request (Cert : Type) where
  method : String
  url : Url
  /-- `Header.Get("Upgrade")`; empty if there is none -/
  upgrade : GoString
  authorization : GoString
  authCookie : Option GoString
  peerCertificates : List Cert

structure Options where
  /-- there is a database pool -/
  database : Bool
  scheduledSessions : Bool
  sessionChaining : Bool

/-! ## 1. handleAPI -/

inductive ApiHandler where
  | listSessions | createSession | getSession | attachSession | detachSession | suspendSession
  | resumeSession | killSession | sessionPreview | renameSession | deleteSession
  | listSatellites | createSatellite | renameSatellite | updateSatelliteTags | deleteSatellite
  | getConfig | satelliteHeartbeat | getTelemetryHistory | getTelemetry
  | listRecordings | startRecording | stopRecording | toggleSessionRecording | streamRecording
  | listAllRecordings | getRecording | getRecordingConfig | setRecordingConfig
  | listNotifications | unreadCount | markAllRead | getPreferences | updatePreferences | markRead
  | licenseInfo | listProposals | proposalCount | approveProposal | denyProposal | getProposal
  | serviceInfo
  deriving DecidableEq

/-- The four shapes of path conditions in the `switch`. -/
inductive PathCase where
  | exactly (path : String)
  /-- `HasPrefix(p, pre) && !Contains(TrimPrefix(p, pre), "/")` -/
  | item (pre : String)
  /-- `HasPrefix(p, pre) && HasSuffix(p, suf)` -/
  | action (pre suf : String)
  /-- `HasPrefix(p, pre)` -/
  | under (pre : String)

def PathCase.id? (p : GoString) : PathCase → Option GoString
  | .exactly path => if p = go path then some [] else none
  | .item pre =>
    if hasPrefix p (go pre) && !containsString (trimPrefix p (go pre)) (go "/") then
      some (trimPrefix p (go pre))
    else none
  | .action pre suf =>
    if hasPrefix p (go pre) && hasSuffix p (go suf) then
      some (trimSuffix (trimPrefix p (go pre)) (go suf))
    else none
  | .under pre => if hasPrefix p (go pre) then some (trimPrefix p (go pre)) else none

structure ApiCase where
  path : PathCase
  method : String
  handler : ApiHandler

def sessionsPath : String := "/api/v1/sessions/"
def satellitesPath : String := "/api/v1/satellites/"
def recordingsPath : String := "/api/v1/recordings/"
def proposalsPath : String := "/api/v1/proposals/"

def apiCases : List ApiCase :=
  [ ⟨.exactly "/api/v1/sessions", "GET", .listSessions⟩,
    ⟨.exactly "/api/v1/sessions", "POST", .createSession⟩,
    ⟨.item sessionsPath, "GET", .getSession⟩,
    ⟨.action sessionsPath "/attach", "POST", .attachSession⟩,
    ⟨.action sessionsPath "/detach", "POST", .detachSession⟩,
    ⟨.action sessionsPath "/suspend", "POST", .suspendSession⟩,
    ⟨.action sessionsPath "/resume", "POST", .resumeSession⟩,
    ⟨.action sessionsPath "/kill", "POST", .killSession⟩,
    ⟨.action sessionsPath "/preview", "GET", .sessionPreview⟩,
    ⟨.action sessionsPath "/name", "PATCH", .renameSession⟩,
    ⟨.item sessionsPath, "DELETE", .deleteSession⟩,
    ⟨.exactly "/api/v1/satellites", "GET", .listSatellites⟩,
    ⟨.exactly "/api/v1/satellites", "POST", .createSatellite⟩,
    ⟨.action satellitesPath "/name", "PATCH", .renameSatellite⟩,
    ⟨.action satellitesPath "/tags", "PATCH", .updateSatelliteTags⟩,
    ⟨.under satellitesPath, "DELETE", .deleteSatellite⟩,
    ⟨.exactly "/api/v1/config", "GET", .getConfig⟩,
    ⟨.exactly "/api/v1/satellites/heartbeat", "POST", .satelliteHeartbeat⟩,
    ⟨.action satellitesPath "/telemetry/history", "GET", .getTelemetryHistory⟩,
    ⟨.action satellitesPath "/telemetry", "GET", .getTelemetry⟩,
    ⟨.action sessionsPath "/recordings", "GET", .listRecordings⟩,
    ⟨.action sessionsPath "/recording/start", "POST", .startRecording⟩,
    ⟨.action sessionsPath "/recording/stop", "POST", .stopRecording⟩,
    ⟨.action sessionsPath "/recording", "PATCH", .toggleSessionRecording⟩,
    ⟨.action recordingsPath "/stream", "GET", .streamRecording⟩,
    ⟨.exactly "/api/v1/recordings", "GET", .listAllRecordings⟩,
    ⟨.item recordingsPath, "GET", .getRecording⟩,
    ⟨.exactly "/api/v1/config/recording", "GET", .getRecordingConfig⟩,
    ⟨.exactly "/api/v1/config/recording", "PUT", .setRecordingConfig⟩,
    ⟨.exactly "/api/v1/notifications", "GET", .listNotifications⟩,
    ⟨.exactly "/api/v1/notifications/unread-count", "GET", .unreadCount⟩,
    ⟨.exactly "/api/v1/notifications/read-all", "POST", .markAllRead⟩,
    ⟨.exactly "/api/v1/notifications/preferences", "GET", .getPreferences⟩,
    ⟨.exactly "/api/v1/notifications/preferences", "PUT", .updatePreferences⟩,
    ⟨.action "/api/v1/notifications/" "/read", "PATCH", .markRead⟩,
    ⟨.exactly "/api/v1/license", "GET", .licenseInfo⟩,
    ⟨.exactly "/api/v1/proposals", "GET", .listProposals⟩,
    ⟨.exactly "/api/v1/proposals/count", "GET", .proposalCount⟩,
    ⟨.action proposalsPath "/approve", "POST", .approveProposal⟩,
    ⟨.action proposalsPath "/deny", "POST", .denyProposal⟩,
    ⟨.item proposalsPath, "GET", .getProposal⟩ ]

def apiPath (path : GoString) : GoString :=
  if trimRight path slash = [] then go "/" else trimRight path slash

/-- `handleAPI`: the handler it calls, and the id it passes on. -/
def handleAPI (method : String) (path : GoString) : ApiHandler × GoString :=
  (apiCases.findSome? fun c =>
    if c.method = method then (c.path.id? (apiPath path)).map fun id => (c.handler, id)
    else none).getD (.serviceInfo, [])

/-! ## 2. The multiplexer's table -/

inductive Handler where
  | health | metrics | sessionStream | certHash | notificationStream | agentRunRoutes
  | setAuthCookie | sessionsSubpath | api | satellitesSubpath
  | agentsAPI | dispatchPreview | secretsAPI | providerConfig
  | users | inviteUser | usersSubpath | login | changePassword | auditAPI
  | setSchedule | deleteSchedule | setTrigger | deleteTrigger | listSchedules | listTriggers
  | createPipeline | listPipelines | getPipeline | updatePipeline | deletePipeline | runPipeline
  | listPipelineRuns | getPipelineRun | setPipelineSchedule | deletePipelineSchedule
  deriving DecidableEq

def coreRoutes : List (ServeMux.Route Handler) :=
  [ ServeMux.register none "/health" .health,
    ServeMux.register none "/metrics" .metrics,
    ServeMux.register none "/api/v1/sessions/stream" .sessionStream,
    ServeMux.register none "/api/v1/transport/cert-hash" .certHash,
    ServeMux.register none "/api/v1/notifications/stream" .notificationStream,
    ServeMux.register none "/api/v1/runs/" .agentRunRoutes,
    ServeMux.register none "/api/v1/auth/cookie" .setAuthCookie,
    ServeMux.register none "/api/v1/sessions/" .sessionsSubpath,
    ServeMux.register none "/api/v1/sessions" .api,
    ServeMux.register none "/api/v1/satellites" .api,
    ServeMux.register none "/api/v1/satellites/" .satellitesSubpath,
    ServeMux.register none "/api/v1/" .api ]

/-- The routes of the agent, secret, provider, user, auth and audit
handlers. -/
def databaseRoutes : List (ServeMux.Route Handler) :=
  [ ServeMux.register none "/api/v1/agents" .agentsAPI,
    ServeMux.register none "/api/v1/agents/" .agentsAPI,
    ServeMux.register none "/api/v1/dispatch/preview" .dispatchPreview,
    ServeMux.register none "/api/v1/secrets" .secretsAPI,
    ServeMux.register none "/api/v1/config/providers" .providerConfig,
    ServeMux.register none "/api/v1/users" .users,
    ServeMux.register none "/api/v1/users/invite" .inviteUser,
    ServeMux.register none "/api/v1/users/" .usersSubpath,
    ServeMux.register none "/api/v1/auth/login" .login,
    ServeMux.register none "/api/v1/auth/change-password" .changePassword,
    ServeMux.register none "/api/v1/audit-log" .auditAPI,
    ServeMux.register none "/api/v1/audit-log/" .auditAPI ]

def scheduleRoutes : List (ServeMux.Route Handler) :=
  [ ServeMux.register "PUT" "/api/v1/agents/{id}/schedule" .setSchedule,
    ServeMux.register "DELETE" "/api/v1/agents/{id}/schedule" .deleteSchedule,
    ServeMux.register "PUT" "/api/v1/agents/{id}/trigger" .setTrigger,
    ServeMux.register "DELETE" "/api/v1/agents/{id}/trigger" .deleteTrigger,
    ServeMux.register "GET" "/api/v1/schedules" .listSchedules,
    ServeMux.register "GET" "/api/v1/triggers" .listTriggers ]

def pipelineRoutes : List (ServeMux.Route Handler) :=
  [ ServeMux.register "POST" "/api/v1/pipelines" .createPipeline,
    ServeMux.register "GET" "/api/v1/pipelines" .listPipelines,
    ServeMux.register "GET" "/api/v1/pipelines/{id}" .getPipeline,
    ServeMux.register "PUT" "/api/v1/pipelines/{id}" .updatePipeline,
    ServeMux.register "DELETE" "/api/v1/pipelines/{id}" .deletePipeline,
    ServeMux.register "POST" "/api/v1/pipelines/{id}/run" .runPipeline,
    ServeMux.register "GET" "/api/v1/pipelines/{id}/runs" .listPipelineRuns,
    ServeMux.register "GET" "/api/v1/pipeline-runs/{run_id}" .getPipelineRun,
    ServeMux.register "PUT" "/api/v1/pipelines/{id}/schedule" .setPipelineSchedule,
    ServeMux.register "DELETE" "/api/v1/pipelines/{id}/schedule" .deletePipelineSchedule ]

variable (opts : Options)

def routes : List (ServeMux.Route Handler) :=
  coreRoutes
    ++ (if opts.database then databaseRoutes else [])
    ++ (if opts.database && opts.scheduledSessions then scheduleRoutes else [])
    ++ (if opts.database && opts.sessionChaining then pipelineRoutes else [])

/-! ## 3. Endpoints -/

inductive Endpoint where
  | handler (h : Handler)
  | terminalStream (sessionID : GoString)
  | contextAPI
  | api (h : ApiHandler) (id : GoString)
  deriving DecidableEq

def Endpoint.ofApi (res : ApiHandler × GoString) : Endpoint := .api res.1 res.2

def handleSessionsSubpath (method : String) (path : GoString) : Endpoint :=
  if hasPrefix path (go sessionsPath) && hasSuffix path (go "/stream") && method = "GET" then
    .terminalStream (trimSuffix (trimPrefix path (go sessionsPath)) (go "/stream"))
  else if hasPrefix path (go sessionsPath) && hasSuffix path (go "/name") && method = "PATCH" then
    .api .renameSession (trimSuffix (trimPrefix path (go sessionsPath)) (go "/name"))
  else .ofApi (handleAPI method path)

/-- Paths with `/context` go to the context handler, which needs the
database. -/
def handleSatellitesSubpath (method : String) (path : GoString) : Endpoint :=
  if opts.database && containsString path (go "/context") then .contextAPI
  else .ofApi (handleAPI method path)

def Handler.serve (method : String) (path : GoString) : Handler → Endpoint
  | .api => .ofApi (handleAPI method path)
  | .sessionsSubpath => handleSessionsSubpath method path
  | .satellitesSubpath => handleSatellitesSubpath opts method path
  | h => .handler h

/-- The endpoint of a request; `none` if the multiplexer answers itself. -/
def route {Cert : Type} (r : Request Cert) : Option Endpoint :=
  (ServeMux.findHandler (routes opts) r.method r.url.escapedPath).map
    (Handler.serve opts r.method r.url.path)

end Daao.Api

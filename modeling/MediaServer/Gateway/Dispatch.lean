import MediaServer.Cluster.Types

/-!
# Gateway dispatch

A gateway routes each new signalling session to a media node: it reports the
route's begin, asks the selector for a node, forwards the request there, and
reports success or the error that ended the route. Requests that continue a
session are relayed to the node named in the session's connection id, with no
reports.

The spec gives the route as a state machine (section 4.5); the reports a
connect handler sends are a run of that machine.

## Implementation notes

The selector, the geo lookup, the node addresses, the RPC client and the
connector channel are outside the source; `Ctx` holds what they answer in one
call. The protobuf request types are reduced to the fields the handlers read.
-/

namespace MediaServer.Gateway.Dispatch

open Cluster

/-- `atm0s_sdn::NodeId`. -/
abbrev NodeId := UInt32

/-- `ServiceKind`, with the kind the dispatcher asks for. -/
inductive ServiceKind where
  | webrtc
  deriving DecidableEq, Repr

/-- `route_error::ErrorType`, with the errors the dispatcher reports. -/
inductive ErrorType where
  | poolEmpty
  | timeout
  deriving DecidableEq, Repr

/-- `peer_event::Event`, with the route events. -/
inductive RouteEvent where
  | routeBegin (remoteIp : String)
  | routeSuccess (afterMs : UInt32) (destNode : NodeId)
  | routeError (afterMs : UInt32) (destNode : Option NodeId) (error : ErrorType)
  deriving DecidableEq, Repr

/-- `ConnectorControl::Request(ts, ConnectorRequest::Peer(PeerEvent { app,
session_id, event }))`; the handlers always set the event. -/
structure Report where
  ts : UInt64
  app : String
  sessionId : UInt64
  event : RouteEvent
  deriving DecidableEq, Repr

/-- The values `now_ms()` returns in one connect call, in the order it is
called: `started_at`, the begin report's time, the end of routing, and the end
report's time. -/
structure Clock where
  startedAt : UInt64
  beginAt : UInt64
  finishedAt : UInt64
  endAt : UInt64

/-- What the callees of one handler call answer. -/
structure Ctx (Location Addr Res : Type) where
  /-- Whether `connector_agent_tx` is open. -/
  connectorOpen : Bool
  /-- `ip.parse().ok().and_then(|ip| ctx.ip2location.get_location(&ip))`. -/
  locate : String → Option Location
  /-- `ctx.selector.select(kind, location)`. -/
  select : ServiceKind → Option Location → Option NodeId
  /-- `node_vnet_addr(node, GATEWAY_RPC_PORT)`. -/
  nodeAddr : NodeId → Addr
  /-- The client's call for the request at a node's address; `None` when it times out. -/
  forward : Addr → Option Res

/-- The fields of `WhipConnectRequest`, `WhepConnectRequest` and
`WebrtcConnectRequest` that the dispatcher reads; `app` is already converted. -/
structure ConnectRequest where
  sessionId : UInt64
  ip : String
  app : Option (AppContext String)

/-- The fields of `RtpEngineCreateOfferRequest` and
`RtpEngineCreateAnswerRequest` that the dispatcher reads. -/
structure RtpEngineRequest where
  sessionId : UInt64
  app : Option (AppContext String)

variable {Location Addr Res : Type}

/-- Sends one report; `.expect("Should send")` fails on a closed channel. -/
def feedback (ctx : Ctx Location Addr Res) (ts : UInt64) (app : String) (sessionId : UInt64)
    (event : RouteEvent) : Except String (List Report) :=
  if ctx.connectorOpen then .ok [⟨ts, app, sessionId, event⟩] else .error "Should send"

/-- `feedback_route_begin`. -/
def feedbackRouteBegin (ctx : Ctx Location Addr Res) (ts : UInt64) (app : String)
    (sessionId : UInt64) (remoteIp : String) : Except String (List Report) :=
  feedback ctx ts app sessionId (.routeBegin remoteIp)

/-- `feedback_route_success`; `after_ms as u32` truncates. -/
def feedbackRouteSuccess (ctx : Ctx Location Addr Res) (ts : UInt64) (app : String)
    (sessionId afterMs : UInt64) (node : NodeId) : Except String (List Report) :=
  feedback ctx ts app sessionId (.routeSuccess afterMs.toUInt32 node)

/-- `feedback_route_error`. -/
def feedbackRouteError (ctx : Ctx Location Addr Res) (ts : UInt64) (app : String)
    (sessionId afterMs : UInt64) (node : Option NodeId) (error : ErrorType) :
    Except String (List Report) :=
  feedback ctx ts app sessionId (.routeError afterMs.toUInt32 node error)

/-- The body the five connect handlers share: the reports sent, in order, and
the response. `now_ms() - started_at` wraps as in a release build. -/
def routeConnect (ctx : Ctx Location Addr Res) (clock : Clock) (app : AppContext String)
    (sessionId : UInt64) (remoteIp : String) (location : Option Location) :
    Except String (List Report × Option Res) := do
  let began ← feedbackRouteBegin ctx clock.beginAt app.app sessionId remoteIp
  let afterMs := clock.finishedAt - clock.startedAt
  match ctx.select .webrtc location with
  | some node =>
      match ctx.forward (ctx.nodeAddr node) with
      | some res =>
          return (began ++ (← feedbackRouteSuccess ctx clock.endAt app.app sessionId afterMs node), some res)
      | none =>
          return (began ++
            (← feedbackRouteError ctx clock.endAt app.app sessionId afterMs (some node) .timeout), none)
  | none =>
      return (began ++ (← feedbackRouteError ctx clock.endAt app.app sessionId afterMs none .poolEmpty), none)

/-- `IpAddr::V4(Ipv4Addr::LOCALHOST).to_string()`. -/
def loopback : String := "127.0.0.1"

/-- `whip_connect`; `rootApp` is `AppContext::root_app()`. -/
def whipConnect (rootApp : AppContext String) (ctx : Ctx Location Addr Res) (clock : Clock)
    (req : ConnectRequest) : Except String (List Report × Option Res) :=
  routeConnect ctx clock (req.app.getD rootApp) req.sessionId req.ip (ctx.locate req.ip)

/-- `whep_connect`. -/
def whepConnect (rootApp : AppContext String) (ctx : Ctx Location Addr Res) (clock : Clock)
    (req : ConnectRequest) : Except String (List Report × Option Res) :=
  routeConnect ctx clock (req.app.getD rootApp) req.sessionId req.ip (ctx.locate req.ip)

/-- `webrtc_connect`. -/
def webrtcConnect (rootApp : AppContext String) (ctx : Ctx Location Addr Res) (clock : Clock)
    (req : ConnectRequest) : Except String (List Report × Option Res) :=
  routeConnect ctx clock (req.app.getD rootApp) req.sessionId req.ip (ctx.locate req.ip)

/-- `rtp_engine_create_offer`: the client's IP is taken as loopback and the
node is chosen without a location. -/
def rtpEngineCreateOffer (rootApp : AppContext String) (ctx : Ctx Location Addr Res) (clock : Clock)
    (req : RtpEngineRequest) : Except String (List Report × Option Res) :=
  routeConnect ctx clock (req.app.getD rootApp) req.sessionId loopback none

/-- `rtp_engine_create_answer`. -/
def rtpEngineCreateAnswer (rootApp : AppContext String) (ctx : Ctx Location Addr Res) (clock : Clock)
    (req : RtpEngineRequest) : Except String (List Report × Option Res) :=
  routeConnect ctx clock (req.app.getD rootApp) req.sessionId loopback none

/-- The body the relay handlers share: `parseConn` is `conn.parse::<ClusterConnId>().ok()`
followed by `get_down_part()`, the owning node and the session. -/
def relayToOwner (parseConn : String → Option (NodeId × UInt64)) (ctx : Ctx Location Addr Res)
    (conn : String) : Option Res := do
  let (dest, _session) ← parseConn conn
  ctx.forward (ctx.nodeAddr dest)

/-- `whip_remote_ice`. -/
def whipRemoteIce (parseConn : String → Option (NodeId × UInt64)) (ctx : Ctx Location Addr Res)
    (conn : String) : Option Res := relayToOwner parseConn ctx conn

/-- `whip_close`. -/
def whipClose (parseConn : String → Option (NodeId × UInt64)) (ctx : Ctx Location Addr Res)
    (conn : String) : Option Res := relayToOwner parseConn ctx conn

/-- `whep_remote_ice`. -/
def whepRemoteIce (parseConn : String → Option (NodeId × UInt64)) (ctx : Ctx Location Addr Res)
    (conn : String) : Option Res := relayToOwner parseConn ctx conn

/-- `whep_close`. -/
def whepClose (parseConn : String → Option (NodeId × UInt64)) (ctx : Ctx Location Addr Res)
    (conn : String) : Option Res := relayToOwner parseConn ctx conn

/-- `webrtc_remote_ice`. -/
def webrtcRemoteIce (parseConn : String → Option (NodeId × UInt64)) (ctx : Ctx Location Addr Res)
    (conn : String) : Option Res := relayToOwner parseConn ctx conn

/-- `webrtc_restart_ice`. -/
def webrtcRestartIce (parseConn : String → Option (NodeId × UInt64)) (ctx : Ctx Location Addr Res)
    (conn : String) : Option Res := relayToOwner parseConn ctx conn

/-- `rtp_engine_set_answer`. -/
def rtpEngineSetAnswer (parseConn : String → Option (NodeId × UInt64)) (ctx : Ctx Location Addr Res)
    (conn : String) : Option Res := relayToOwner parseConn ctx conn

/-- `rtp_engine_delete`. -/
def rtpEngineDelete (parseConn : String → Option (NodeId × UInt64)) (ctx : Ctx Location Addr Res)
    (conn : String) : Option Res := relayToOwner parseConn ctx conn

/-! ### The spec's route state machine -/

/-- The states of one session route. -/
inductive RouteState where
  | init
  | selecting
  | routing (node : NodeId)
  | success (node : NodeId)
  | failed (error : ErrorType)
  deriving DecidableEq, Repr

/-- A route has ended. -/
def RouteState.Terminal : RouteState → Prop
  | .success _ | .failed _ => True
  | _ => False

/-- The spec's transitions, each with the report it sends, if any, under its
guards: what the selector offers (`select=None`, or a node) and whether the
node answers the forwarded request (`rpc=ok` or `rpc=timeout`). -/
inductive RouteStep (offered : Option NodeId) (answers : NodeId → Bool) :
    RouteState → Option RouteEvent → RouteState → Prop
  | begin (remoteIp : String) : RouteStep offered answers .init (some (.routeBegin remoteIp)) .selecting
  | poolEmpty (afterMs : UInt32) (hnone : offered = none) :
      RouteStep offered answers .selecting (some (.routeError afterMs none .poolEmpty)) (.failed .poolEmpty)
  | select (node : NodeId) (hsome : offered = some node) :
      RouteStep offered answers .selecting none (.routing node)
  | success (afterMs : UInt32) (node : NodeId) (hok : answers node = true) :
      RouteStep offered answers (.routing node) (some (.routeSuccess afterMs node)) (.success node)
  | timeout (afterMs : UInt32) (node : NodeId) (htimeout : answers node = false) :
      RouteStep offered answers (.routing node) (some (.routeError afterMs (some node) .timeout))
        (.failed .timeout)

/-- A run of the machine and the reports it sends. -/
inductive RouteRun (offered : Option NodeId) (answers : NodeId → Bool) :
    RouteState → List RouteEvent → RouteState → Prop
  | done (s : RouteState) : RouteRun offered answers s [] s
  | step {s s' t : RouteState} {event : Option RouteEvent} {events : List RouteEvent} :
      RouteStep offered answers s event s' → RouteRun offered answers s' events t →
        RouteRun offered answers s (event.toList ++ events) t

/-! ### The handlers refine the route machine -/

/-- A channel that is open, a selector that always offers node 7, and a node
that always answers. -/
def answeringCtx : Ctx Unit Unit Unit :=
  ⟨true, fun _ => none, fun _ _ => some 7, fun _ => (), fun _ => some ()⟩

section Refinement

variable (ctx : Ctx Location Addr Res) (clock : Clock) (app : AppContext String) (sessionId : UInt64)
  (remoteIp : String) (location : Option Location)

/-- On a closed connector channel the handler fails at the begin report, before
choosing a node. -/
theorem routeConnect_of_closed (hclosed : ctx.connectorOpen = false) :
    routeConnect ctx clock app sessionId remoteIp location = .error "Should send" := by
  simp [routeConnect, feedbackRouteBegin, feedback, hclosed]
  rfl

/-- With the connector open, a connect handler sends the begin report with the
request's address and then one report that ends the route: a run of the
spec's machine to an end state, under the node the selector offers and
whether that node answers. It answers exactly when the route succeeded, with
the chosen node's answer, and every report carries the request's app and
session. -/
theorem routeConnect_refines (hopen : ctx.connectorOpen = true) :
    ∃ reports res t, routeConnect ctx clock app sessionId remoteIp location = .ok (reports, res) ∧
      RouteRun (ctx.select .webrtc location) (fun node => (ctx.forward (ctx.nodeAddr node)).isSome)
        .init (reports.map Report.event) t ∧ t.Terminal ∧
      (res.isSome ↔ ∃ node, t = .success node) ∧
      (∀ node, t = .success node → res = ctx.forward (ctx.nodeAddr node)) ∧
      (reports.map Report.event).head? = some (.routeBegin remoteIp) ∧
      ∀ r ∈ reports, r.app = app.app ∧ r.sessionId = sessionId := by
  simp only [routeConnect, feedbackRouteBegin, feedbackRouteSuccess, feedbackRouteError, feedback, hopen,
    if_true]
  rcases ctx.select .webrtc location with _ | node
  · exact ⟨_, none, .failed .poolEmpty, rfl, .step (.begin _) (.step (.poolEmpty _ rfl) (.done _)),
      trivial, by simp, by simp, rfl, by simp⟩
  · dsimp only
    rcases hfwd : ctx.forward (ctx.nodeAddr node) with _ | res
    · exact ⟨_, none, .failed .timeout, rfl, .step (.begin _) (.step (.select node rfl)
        (.step (.timeout _ node (by simp [hfwd])) (.done _))), trivial, by simp, by simp, rfl, by simp⟩
    · exact ⟨_, some res, .success node, rfl, .step (.begin _) (.step (.select node rfl)
        (.step (.success _ node (by simp [hfwd])) (.done _))), trivial, by simp,
        fun _ h => by cases h; exact hfwd.symm, rfl, by simp⟩

theorem routeConnect_refines_answering :
    answeringCtx.connectorOpen = true ∧
    ∃ reports res t,
      routeConnect answeringCtx ⟨0, 1, 5, 6⟩ ⟨"app1"⟩ 9 "10.0.0.1" none = .ok (reports, res) ∧
      RouteRun (answeringCtx.select .webrtc none)
        (fun node => (answeringCtx.forward (answeringCtx.nodeAddr node)).isSome)
        .init (reports.map Report.event) t ∧ t.Terminal ∧
      (res.isSome ↔ ∃ node, t = .success node) ∧
      (∀ node, t = .success node → res = answeringCtx.forward (answeringCtx.nodeAddr node)) ∧
      (reports.map Report.event).head? = some (.routeBegin "10.0.0.1") ∧
      ∀ r ∈ reports, r.app = "app1" ∧ r.sessionId = 9 :=
  ⟨rfl, routeConnect_refines answeringCtx ⟨0, 1, 5, 6⟩ ⟨"app1"⟩ 9 "10.0.0.1" none rfl⟩

end Refinement

/-- The rtp-engine handlers route as a connect from the loopback address whose
location is unknown, whatever the client's address: the `TODO get ip` of the
source. -/
theorem rtpEngine_routes_as_loopback_connect (rootApp : AppContext String)
    (ctx : Ctx Location Addr Res) (clock : Clock) (req : RtpEngineRequest) :
    rtpEngineCreateOffer rootApp ctx clock req =
        whipConnect rootApp { ctx with locate := fun _ => none } clock ⟨req.sessionId, loopback, req.app⟩ ∧
      rtpEngineCreateAnswer rootApp ctx clock req = rtpEngineCreateOffer rootApp ctx clock req :=
  ⟨rfl, rfl⟩

/-- A relay answers exactly when the connection id parses and the node owning
it answers. -/
theorem relayToOwner_eq_some (parseConn : String → Option (NodeId × UInt64))
    (ctx : Ctx Location Addr Res) (conn : String) (res : Res) :
    relayToOwner parseConn ctx conn = some res ↔
      ∃ dest session, parseConn conn = some (dest, session) ∧ ctx.forward (ctx.nodeAddr dest) = some res := by
  simp only [relayToOwner, Option.bind_eq_bind, Option.bind_eq_some, Prod.exists]

end MediaServer.Gateway.Dispatch

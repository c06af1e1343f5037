import MediaServer.Cluster.Types
import MediaServer.Runtime.TaskGroup
import MediaServer.Transport.SharedPort

/-!
# The WebRTC worker

`MediaWorkerWebrtc` owns the endpoint tasks of its sessions in a task group.
A session's handle `WebrtcSession(index)` is the slot of its task: `spawn`
returns it, and every output of the task is tagged with it. Cluster events
and signalling requests come back addressed to a handle and are delivered to
whatever task is in that slot.

## Implementation notes

The endpoint, its transport and the payload types it exchanges are outside
the source. An endpoint task is opaque: it keeps its session id and config and
the events it was given, in order, and, known only to the model, a serial
number saying which spawn made it and the app and variant that spawn was
given. `spawn` takes what `TransportWebrtc::new`
returns and the slot `add_task` takes as arguments.
-/

namespace MediaServer.Transport

open Collections Cluster Runtime

/-- The types the worker stores and forwards without reading them. -/
structure Payloads where
  /-- `SocketAddr`. -/
  Addr : Type
  /-- An ICE ufrag. -/
  Ufrag : Type
  /-- `AppId`. -/
  AppId : Type
  /-- `ClusterEndpointEvent`. -/
  ClusterEvent : Type
  /-- `ClusterEndpointControl`. -/
  ClusterControl : Type
  /-- `BackendOutgoing`. -/
  NetOut : Type
  /-- The app, session id, time and event of a peer event. -/
  PeerEvent : Type
  /-- The session id, time and event of a record event. -/
  RecordEvent : Type
  /-- A signalling request id. -/
  ReqId : Type
  /-- The RPC variant an answer echoes. -/
  Variant : Type
  /-- The ICE candidate of `RemoteIce`. -/
  Candidate : Type
  /-- What only `TransportWebrtc::new` reads of a variant: user agent, request,
  extra data, and the remote address and offer of the spawn. -/
  VariantArgs : Type
  /-- `RpcError`. -/
  RpcError : Type

variable {T : Payloads}

/-- `WebrtcSession`, the handle of the task in a slot. -/
structure WebrtcSession where
  index : Nat
  deriving DecidableEq, Repr

/-- `WebrtcError`, the variant the worker answers with. -/
inductive WebrtcError where
  | rpcEndpointNotFound
  deriving DecidableEq, Repr

/-- `BackendIncoming`; a failed bind's error is only logged. -/
inductive BackendIncoming (Addr : Type) where
  | udpListenResult (bind : Addr) (result : Option (Addr × Nat))
  | udpPacket (slot : Nat) (fromAddr : Addr) (data : List UInt8)

/-- `ExtIn`, the signalling requests. -/
inductive ExtIn (T : Payloads) where
  | remoteIce (reqId : T.ReqId) (variant : T.Variant) (candidate : T.Candidate)
  | restartIce (reqId : T.ReqId) (app : AppContext T.AppId) (variant : T.Variant)
      (args : T.VariantArgs) (record : Bool)
  | disconnect (reqId : T.ReqId) (variant : T.Variant)

/-- `ExtOut`, the answers. -/
inductive ExtOut (T : Payloads) where
  | remoteIce (reqId : T.ReqId) (variant : T.Variant) (result : Except T.RpcError Unit)
  | restartIce (reqId : T.ReqId) (variant : T.Variant) (result : Except T.RpcError (Bool × String))
  | disconnect (reqId : T.ReqId) (variant : T.Variant) (result : Except T.RpcError Unit)

/-- `EndpointInput<ExtIn>`. -/
inductive EndpointInput (T : Payloads) where
  | net (net : BackendIncoming T.Addr)
  | cluster (event : T.ClusterEvent)
  | ext (ext : ExtIn T)

/-- `EndpointOutput<ExtOut>`. -/
inductive EndpointOutput (T : Payloads) where
  | net (net : T.NetOut)
  | cluster (room : ClusterRoomHash) (control : T.ClusterControl)
  | peerEvent (event : T.PeerEvent)
  | recordEvent (event : T.RecordEvent)
  | onResourceEmpty
  | ext (ext : ExtOut T)
  | continue

/-- `GroupInput`. -/
inductive GroupInput (T : Payloads) where
  | net (net : BackendIncoming T.Addr)
  | cluster (owner : WebrtcSession) (event : T.ClusterEvent)
  | ext (owner : WebrtcSession) (ext : ExtIn T)

/-- `GroupOutput`. -/
inductive GroupOutput (T : Payloads) where
  | net (net : T.NetOut)
  | cluster (owner : WebrtcSession) (room : ClusterRoomHash) (control : T.ClusterControl)
  | peerEvent (owner : WebrtcSession) (event : T.PeerEvent)
  | recordEvent (owner : WebrtcSession) (event : T.RecordEvent)
  | ext (owner : WebrtcSession) (ext : ExtOut T)
  | onResourceEmpty
  | continue

/-- `VariantParams`, with the record flag that the endpoint config reads. -/
inductive VariantParams (T : Payloads) where
  | whip (args : T.VariantArgs) (record : Bool)
  | whep (args : T.VariantArgs)
  | webrtc (args : T.VariantArgs) (record : Bool)

/-- `EndpointCfg`. -/
structure EndpointCfg (T : Payloads) where
  app : AppContext T.AppId
  maxIngressBitrate : UInt64
  maxEgressBitrate : UInt64
  record : Bool

/-- What an endpoint task is given: an input, a tick or the shutdown. -/
inductive TaskEvent (T : Payloads) where
  | input (input : EndpointInput T)
  | tick
  | shutdown

/-- `Endpoint<TransportWebrtc<ES>, ExtIn, ExtOut>` as the worker sees it. -/
structure EndpointTask (T : Payloads) where
  /-- Not in the code: the number of the spawn that made this endpoint. -/
  serial : Nat
  /-- Not in the code: the app the spawn was given. -/
  app : AppContext T.AppId
  /-- Not in the code: the variant the spawn was given. -/
  variant : VariantParams T
  sessionId : UInt64
  cfg : EndpointCfg T
  events : List (TaskEvent T)

/-- The endpoint takes one more event. -/
def EndpointTask.take (endpoint : EndpointTask T) (event : TaskEvent T) : EndpointTask T :=
  { endpoint with events := endpoint.events ++ [event] }

@[simp] theorem EndpointTask.take_serial (endpoint : EndpointTask T) (event : TaskEvent T) :
    (endpoint.take event).serial = endpoint.serial := rfl

@[simp] theorem EndpointTask.take_cfg (endpoint : EndpointTask T) (event : TaskEvent T) :
    (endpoint.take event).cfg = endpoint.cfg := rfl

/-- Whether an event is the shutdown. -/
def TaskEvent.isShutdown : TaskEvent T → Bool
  | .shutdown => true
  | _ => false

/-- How many shutdown events the endpoint has taken. -/
def EndpointTask.shutdowns (endpoint : EndpointTask T) : Nat :=
  endpoint.events.countP TaskEvent.isShutdown

@[simp] theorem EndpointTask.take_shutdowns (endpoint : EndpointTask T) (event : TaskEvent T) :
    (endpoint.take event).shutdowns = endpoint.shutdowns + event.isShutdown.toNat := by
  simp only [shutdowns, take, List.countP_append, List.countP_singleton]
  cases event.isShutdown <;> rfl

/-- What the callees of the spawn in `RestartIce` return: the session id of
`gen_cluster_session_id()`, the ufrag and answer SDP of `TransportWebrtc::new`,
and the slot `add_task` takes. -/
structure SpawnResults (T : Payloads) where
  sessionId : UInt64
  transport : Except T.RpcError (T.Ufrag × String)
  index : Nat

/-- `MediaWorkerWebrtc<ES>`, without the fields only `TransportWebrtc::new` reads. -/
structure MediaWorkerWebrtc (T : Payloads) where
  iceLite : Bool
  sharedPort : SharedUdpPort T.Ufrag T.Addr
  endpoints : TaskGroup (EndpointTask T)
  addrs : List (T.Addr × Nat)
  queue : List (GroupOutput T)
  /-- `shutdown: bool`. -/
  isShutdown : Bool
  /-- Not in the code: how many endpoints were spawned. -/
  spawned : Nat

namespace MediaWorkerWebrtc

/-- `MediaWorkerWebrtc::new`; `udpListen addr` is `BackendOutgoing::UdpListen { addr, reuse: false }`. -/
def new (udpListen : T.Addr → T.NetOut) (addrs : List T.Addr) (iceLite : Bool) :
    MediaWorkerWebrtc T :=
  ⟨iceLite, .default, .empty, [], addrs.map fun addr => .net (udpListen addr), false, 0⟩

/-- The `EndpointCfg` that `spawn` builds for a variant. -/
def endpointCfg (app : AppContext T.AppId) : VariantParams T → EndpointCfg T
  | .whip _ record => ⟨app, 2500000, 2500000, record⟩
  | .whep _ => ⟨app, 2500000, 2500000, false⟩
  | .webrtc _ record => ⟨app, 2500000, 2500000, record⟩

@[simp] theorem endpointCfg_maxIngressBitrate (app : AppContext T.AppId) (variant : VariantParams T) :
    (endpointCfg app variant).maxIngressBitrate = 2500000 := by
  cases variant <;> rfl

@[simp] theorem endpointCfg_maxEgressBitrate (app : AppContext T.AppId) (variant : VariantParams T) :
    (endpointCfg app variant).maxEgressBitrate = 2500000 := by
  cases variant <;> rfl

variable [DecidableEq T.Ufrag] [DecidableEq T.Addr]

/-- `spawn`: on a transport, the endpoint goes to slot `index` and its ufrag is registered. -/
def spawn (w : MediaWorkerWebrtc T) (app : AppContext T.AppId) (sessionId : UInt64)
    (variant : VariantParams T) (transport : Except T.RpcError (T.Ufrag × String)) (index : Nat) :
    MediaWorkerWebrtc T × Except T.RpcError (Bool × String × Nat) :=
  match transport with
  | .error e => (w, .error e)
  | .ok (ufrag, sdp) =>
      ({ w with
        endpoints := w.endpoints.addAt index ⟨w.spawned, app, variant, sessionId, endpointCfg app variant, []⟩
        sharedPort := w.sharedPort.addUfrag ufrag index
        spawned := w.spawned + 1 },
        .ok (w.iceLite, sdp, index))

/-- `process_output`: outputs are tagged with the task's slot; an empty task is removed. -/
def processOutput (w : MediaWorkerWebrtc T) (index : Nat) :
    EndpointOutput T → MediaWorkerWebrtc T × GroupOutput T
  | .net net => (w, .net net)
  | .cluster room control => (w, .cluster ⟨index⟩ room control)
  | .peerEvent event => (w, .peerEvent ⟨index⟩ event)
  | .recordEvent event => (w, .recordEvent ⟨index⟩ event)
  | .onResourceEmpty =>
      ({ w with endpoints := w.endpoints.removeTask index, sharedPort := w.sharedPort.removeTask index },
        .continue)
  | .ext ext => (w, .ext ⟨index⟩ ext)
  | .continue => (w, .continue)

/-- `on_tick`. -/
def onTick (w : MediaWorkerWebrtc T) : MediaWorkerWebrtc T :=
  { w with endpoints := w.endpoints.map (·.take .tick) }

/-- The input the task in slot `index` gets. -/
def deliver (w : MediaWorkerWebrtc T) (index : Nat) (input : EndpointInput T) : MediaWorkerWebrtc T :=
  { w with endpoints := w.endpoints.onEvent index (·.take (.input input)) }

/-- `on_event` for a signalling request to a free slot. -/
def onExtMissing (new2 : WebrtcError → T.RpcError) (restart : SpawnResults T) (w : MediaWorkerWebrtc T)
    (owner : WebrtcSession) : ExtIn T → MediaWorkerWebrtc T
  | .remoteIce reqId variant _ =>
      { w with queue := w.queue ++ [.ext owner (.remoteIce reqId variant (.error (new2 .rpcEndpointNotFound)))] }
  | .restartIce reqId app variant args record =>
      match w.spawn app restart.sessionId (.webrtc args record) restart.transport restart.index with
      | (w', .ok (iceLite, sdp, index)) =>
          { w' with queue := w'.queue ++ [.ext ⟨index⟩ (.restartIce reqId variant (.ok (iceLite, sdp)))] }
      | (w', .error _) =>
          { w' with
            queue := w'.queue ++ [.ext owner (.restartIce reqId variant (.error (new2 .rpcEndpointNotFound)))] }
  | .disconnect reqId variant =>
      { w with queue := w.queue ++ [.ext owner (.disconnect reqId variant (.error (new2 .rpcEndpointNotFound)))] }

/-- `on_event`. A packet goes to the task the demux names; a cluster event to
the slot of its handle; a signalling request to the slot of its handle if it
is occupied. -/
def onEvent (stunUfrag : List UInt8 → Option T.Ufrag) (new2 : WebrtcError → T.RpcError)
    (restart : SpawnResults T) (w : MediaWorkerWebrtc T) : GroupInput T → MediaWorkerWebrtc T
  | .net (.udpListenResult _ result) =>
      match result with
      | some (addr, slot) => { w with addrs := w.addrs ++ [(addr, slot)] }
      | none => w
  | .net (.udpPacket slot fromAddr data) =>
      match w.sharedPort.mapRemote stunUfrag fromAddr data with
      | (port, some index) => { w with sharedPort := port }.deliver index (.net (.udpPacket slot fromAddr data))
      | (port, none) => { w with sharedPort := port }
  | .cluster owner event => w.deliver owner.index (.cluster event)
  | .ext owner ext =>
      if w.endpoints.hasTask owner.index then w.deliver owner.index (.ext ext)
      else w.onExtMissing new2 restart owner ext

/-- `shutdown`. -/
def shutdown (w : MediaWorkerWebrtc T) : MediaWorkerWebrtc T :=
  if w.isShutdown then w else { w with isShutdown := true, endpoints := w.endpoints.map (·.take .shutdown) }

/-- `TaskSwitcherChild::is_empty`. -/
def isEmpty (w : MediaWorkerWebrtc T) : Bool := w.isShutdown && w.queue.isEmpty && w.endpoints.isEmpty

/-- `TaskSwitcherChild::empty_event`. -/
def emptyEvent (_ : MediaWorkerWebrtc T) : GroupOutput T := .onResourceEmpty

/-- What the task group's `pop_output` may return: an output of a live task,
or the group's own events. -/
def ValidPop (w : MediaWorkerWebrtc T) : Option (TaskGroupOutput (EndpointOutput T)) → Prop
  | some (.taskOutput index _) => (w.endpoints.get? index).isSome
  | _ => True

/-- `TaskSwitcherChild::pop_output`, given what the task group's `pop_output`
returns when the queue is empty. -/
def popOutput (w : MediaWorkerWebrtc T) (popped : Option (TaskGroupOutput (EndpointOutput T))) :
    MediaWorkerWebrtc T × Option (GroupOutput T) :=
  match w.queue with
  | out :: rest => ({ w with queue := rest }, some out)
  | [] =>
      match popped with
      | none => (w, none)
      | some .onResourceEmpty => (w, some .continue)
      | some (.taskOutput index out) =>
          let (w', out') := w.processOutput index out
          (w', some out')

end MediaWorkerWebrtc

end MediaServer.Transport

/-!
# Identifiers and events of the cluster

The newtypes of `media_server_core::cluster`, and the part of the overlay's
pub/sub vocabulary that the channel publisher speaks. Variants that no
modelled function builds or reads are left out.
-/

namespace MediaServer.Cluster

/-- `ClusterRoomHash(u64)`. -/
structure ClusterRoomHash where
  hash : UInt64
  deriving DecidableEq, Repr

/-- `pubsub::ChannelId(u64)` of the overlay. -/
structure ChannelId where
  id : UInt64
  deriving DecidableEq, Repr

/-- `PeerId`, a string newtype of the protocol crate. -/
structure PeerId where
  name : String
  deriving DecidableEq, Repr

/-- `TrackName`, a string newtype of the protocol crate. -/
structure TrackName where
  name : String
  deriving DecidableEq, Repr

/-- `AppContext { app }`; the app id's type is outside the source. -/
structure AppContext (AppId : Type) where
  app : AppId
  deriving DecidableEq, Repr

/-- `RoomId`, a string newtype of the protocol crate. -/
structure RoomId where
  name : String
  deriving DecidableEq, Repr

/-- `RemoteTrackId`, a track handle scoped to one endpoint. -/
structure RemoteTrackId where
  id : UInt16
  deriving DecidableEq, Repr

/-- `ClusterRemoteTrackEvent`. -/
inductive ClusterRemoteTrackEvent where
  | requestKeyFrame
  | limitBitrate (min max : UInt64)
  deriving DecidableEq, Repr

/-- `ClusterEndpointEvent`, with the variant the publisher emits. -/
inductive ClusterEndpointEvent where
  | remoteTrack (track : RemoteTrackId) (event : ClusterRemoteTrackEvent)
  deriving DecidableEq, Repr

/-- `pubsub::ChannelControl`, with the variants the publisher sends. -/
inductive ChannelControl where
  | pubStart
  | pubStop
  | pubData (data : List UInt8)
  deriving DecidableEq, Repr

/-- `pubsub::Control(ChannelId, ChannelControl)`. -/
structure Control where
  channel : ChannelId
  control : ChannelControl
  deriving DecidableEq, Repr

/-- `pubsub::Feedback`, with the fields that `FeedbackKind::try_from` reads. -/
structure Feedback where
  kind : UInt8
  min : UInt64
  max : UInt64
  deriving DecidableEq, Repr

end MediaServer.Cluster

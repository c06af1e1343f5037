import MediaServer.Collections.IndexMap
import MediaServer.Cluster.Types
import MediaServer.Publisher.Model
import MediaServer.Publisher.Run
import MediaServer.Publisher.Channels
import MediaServer.Publisher.Republish
import MediaServer.Publisher.Balanced
import MediaServer.Runtime.TaskGroup
import MediaServer.Cluster.MediaCluster
import MediaServer.Cluster.RoomsByHash
import MediaServer.Cluster.AfterShutdown
import MediaServer.Cluster.RoomHash
import MediaServer.Transport.SharedPort
import MediaServer.Transport.Worker
import MediaServer.Transport.Sessions
import MediaServer.Transport.Endpoints
import MediaServer.Transport.PeerCache
import MediaServer.Gateway.Dispatch
import MediaServer.Http.ContentType

import BcosGateway.Lib.BigEndian
import BcosGateway.Lib.Slice
import BcosGateway.Lib.Framing
import BcosGateway.Lib.Table
import BcosGateway.Lib.Index
import BcosGateway.Lib.Transition
import BcosGateway.Lib.Places
import BcosGateway.Lib.StableQueue
import BcosGateway.P2PMessage.RoundTrip
import BcosGateway.P2PMessage.WholeFrames
import BcosGateway.Session.ReadLoop
import BcosGateway.Session.Callbacks
import BcosGateway.NodeManager.Announcements
import BcosGateway.NodeManager.NodeListJson
import BcosGateway.Service.SafeDispatch
import BcosGateway.Service.Routes
import BcosGateway.Service.Sends
import BcosGateway.Gateway.Retry
import BcosGateway.Service.NodeListSync
import BcosGateway.Service.Dispatch
import BcosGateway.Session.Outgoing
import BcosGateway.Session.Stranding
import BcosGateway.Session.Writes
import BcosGateway.Amop.Message
import BcosGateway.Amop.RetrySender
import BcosGateway.Gateway.Delivery
import BcosGateway.Gateway.Broadcast
import BcosGateway.Gateway.ExactlyOnce
import BcosGateway.Gateway.Correlation
import BcosGateway.Amop.Dispatch
import BcosGateway.Amop.TopicSync
import BcosGateway.Amop.Forgetting
import BcosGateway.Session.ReadEnds
import BcosGateway.Amop.ClientConnections
import BcosGateway.NodeManager.StatusSeq
import BcosGateway.NodeManager.TwoRecords
import BcosGateway.Service.StaticNodes
import BcosGateway.Amop.Unicast
import BcosGateway.Amop.TopicBroadcast
import BcosGateway.Amop.PendingSyncs
import BcosGateway.Host.NodeInfo
import BcosGateway.P2PMessage.ReadBounds
import BcosGateway.Config.HostAndPort
import BcosGateway.Lib.Split
import BcosGateway.Config.HostGrammar
import BcosGateway.NodeManager.GroupNodes
import BcosGateway.Host.Connecting
import BcosGateway.Service.NodeListRounds
import BcosGateway.Amop.TopicRounds
import BcosGateway.Service.Heard
import BcosGateway.Gateway.Peers
import BcosGateway.Gateway.EndToEnd
import BcosGateway.Gateway.Traffic
import BcosGateway.Host.VerifyCallback
import BcosGateway.P2PMessage.Canonical
import BcosGateway.Service.Endings
import BcosGateway.Service.CrossedDials
import BcosGateway.Config.Load
import BcosGateway.Service.NodeListMesh
import BcosGateway.Service.MeshSettles
import BcosGateway.Gateway.InSync
import BcosGateway.Amop.TopicMesh
import BcosGateway.NodeManager.Notifications
import BcosGateway.Lib.UnderWay
import BcosGateway.Amop.TopicsInSync

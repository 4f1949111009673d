import BcosGateway.Common
import BcosGateway.Lib.Index

namespace BcosGateway

abbrev NodeIDsMap := Table StdString (KeySet StdString)

/-- `φ` names the front services. A proxy is what `unreachable` asks for active endpoints. -/
structure FrontServiceInfo (φ : Type) where
  frontService : φ
  frontServicePrx : Bool := false
  deriving DecidableEq, Repr

structure GatewayNodeManager (φ : Type) where
  p2pNodeID : P2pID := []
  statusSeq : UInt32 := 1
  peerGatewayNodes : Index StdString StdString P2pID := ∅
  p2pID2Seq : Table P2pID UInt32 := ∅
  frontServiceInfos : Table StdString (Table StdString (FrontServiceInfo φ)) := ∅
  nodeIDInfo : Table P2pID NodeIDsMap := ∅

namespace GatewayNodeManager

variable {φ : Type} (manager : GatewayNodeManager φ)

def increaseSeq : GatewayNodeManager φ := { manager with statusSeq := manager.statusSeq + 1 }

def group (groupID : StdString) : Table StdString (FrontServiceInfo φ) :=
  (manager.frontServiceInfos.lookup groupID).getD ∅

def insertFrontService (groupID nodeID : StdString) (info : FrontServiceInfo φ) :
    GatewayNodeManager φ :=
  { manager with
    frontServiceInfos := manager.frontServiceInfos.insert groupID
      ((manager.group groupID).insert nodeID info) }

/-- `nodeID` is the hex string of the node's key, here and below. -/
def registerFrontService (groupID nodeID : StdString) (frontService : φ) :
    Bool × GatewayNodeManager φ :=
  let isExist := match manager.frontServiceInfos.lookup groupID with
    | none => false
    | some nodes => (nodes.lookup nodeID).isSome
  if !isExist then (true, (manager.insertFrontService groupID nodeID { frontService }).increaseSeq)
  else (false, manager)

def unregisterFrontService (groupID nodeID : StdString) : Bool × GatewayNodeManager φ :=
  match manager.frontServiceInfos.lookup groupID with
  | none => (false, manager)
  | some nodes =>
    if (nodes.lookup nodeID).isSome then
      let nodes := nodes.erase nodeID
      let manager := manager.increaseSeq
      if Table.isEmpty nodes then
        (true, { manager with frontServiceInfos := manager.frontServiceInfos.erase groupID })
      else (true, { manager with frontServiceInfos := manager.frontServiceInfos.insert groupID nodes })
    else (false, manager)

def queryLocalNodes (groupID nodeID : StdString) : Option (FrontServiceInfo φ) :=
  (manager.group groupID).lookup nodeID

def queryFrontServiceInterfaceByGroupIDAndNodeID (groupID nodeID : StdString) : Option φ :=
  ((manager.group groupID).lookup nodeID).map FrontServiceInfo.frontService

def queryFrontServiceInterfaceByGroupID [DecidableEq φ] (groupID : StdString) : List φ :=
  ((manager.group groupID).values.map FrontServiceInfo.frontService).dedup

def onReceiveStatusSeq (p2pID : P2pID) (statusSeq : UInt32) : Bool :=
  match manager.p2pID2Seq.lookup p2pID with
  | none => true
  | some seq => statusSeq != seq

def updateNodeIDInfo (p2pNodeID : P2pID) (nodeIDList : NodeIDsMap) : GatewayNodeManager φ :=
  { manager with nodeIDInfo := manager.nodeIDInfo.insert p2pNodeID nodeIDList }

def removeNodeIDInfo (p2pNodeID : P2pID) : GatewayNodeManager φ :=
  { manager with nodeIDInfo := manager.nodeIDInfo.erase p2pNodeID }

def removeNodeIDsByP2PID (p2pID : P2pID) : GatewayNodeManager φ :=
  { manager with peerGatewayNodes := manager.peerGatewayNodes.remove p2pID }.removeNodeIDInfo p2pID

/-- The notification of the front services, which follows here and in `onRemoveNodeIDs`, only
    reads the tables. -/
def updateNodeIDs (p2pID : P2pID) (seq : UInt32) (nodeIDsMap : NodeIDsMap) : GatewayNodeManager φ :=
  let manager := manager.removeNodeIDsByP2PID p2pID
  let manager := { manager with
    peerGatewayNodes := manager.peerGatewayNodes.addAll p2pID nodeIDsMap
    p2pID2Seq := manager.p2pID2Seq.insert p2pID seq }
  manager.updateNodeIDInfo p2pID nodeIDsMap

def onRemoveNodeIDs (p2pID : P2pID) : GatewayNodeManager φ :=
  let manager := manager.removeNodeIDsByP2PID p2pID
  { manager with p2pID2Seq := manager.p2pID2Seq.erase p2pID }

def queryP2pIDs (groupID nodeID : StdString) (p2pIDs : KeySet P2pID) : Bool × KeySet P2pID :=
  match manager.peerGatewayNodes.lookup groupID with
  | none => (false, p2pIDs)
  | some nodes =>
    match nodes.lookup nodeID with
    | none => (false, p2pIDs)
    | some peers => (true, peers ∪ p2pIDs)

def queryP2pIDsByGroupID (groupID : StdString) (p2pIDs : KeySet P2pID) : Bool × KeySet P2pID :=
  match manager.peerGatewayNodes.lookup groupID with
  | none => (false, p2pIDs)
  | some nodes => (true, nodes.values.foldl (fun p2pIDs peers => peers ∪ p2pIDs) p2pIDs)

end GatewayNodeManager

end BcosGateway

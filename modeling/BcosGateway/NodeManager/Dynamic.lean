import BcosGateway.NodeManager.Basic

/-! The updates of `DynamicGatewayNodeManager`, split where other threads may read in between. -/

namespace BcosGateway

structure NodeInfo (φ : Type) where
  nodeID : StdString
  serviceName : StdString
  frontService : φ
  deriving DecidableEq, Repr

/-- The rest of an `updateFrontServiceInfo`, which holds the upgradable lock until it ends: the
    groups and nodes that the sweep has not visited and whether it has erased something, or the
    nodes of the group info that have not been looked at. -/
inductive Update (φ : Type) where
  | sweep (groups : List (StdString × List StdString)) (updated : Bool)
  | groupInfo (groupID : StdString) (nodeInfos : List (NodeInfo φ))
  deriving DecidableEq, Repr

namespace GatewayNodeManager

variable {φ : Type} (manager : GatewayNodeManager φ)

def beginSweep : Update φ :=
  .sweep (manager.frontServiceInfos.entries.map fun group => (group.1, group.2.keys)) false

def eraseFrontService (groupID nodeID : StdString) : GatewayNodeManager φ :=
  { manager with
    frontServiceInfos :=
      manager.frontServiceInfos.insert groupID ((manager.group groupID).erase nodeID) }

def unreachable (frontServiceInfo : FrontServiceInfo φ) (noEndpoints : Bool) : Bool :=
  frontServiceInfo.frontServicePrx && noEndpoints

def updateFrontServiceInfo (noEndpoints : Bool) :
    Update φ → GatewayNodeManager φ × Option (Update φ)
  | .sweep [] updated => (if updated then manager.increaseSeq else manager, none)
  | .sweep ((groupID, []) :: groups) updated =>
    if Table.isEmpty (manager.group groupID) then
      ({ manager with frontServiceInfos := manager.frontServiceInfos.erase groupID },
        some (.sweep groups true))
    else (manager, some (.sweep groups updated))
  | .sweep ((groupID, nodeID :: nodeIDs) :: groups) updated =>
    match manager.queryLocalNodes groupID nodeID with
    | none => (manager, some (.sweep ((groupID, nodeIDs) :: groups) updated))
    | some frontService =>
      if unreachable frontService noEndpoints then
        (manager.eraseFrontService groupID nodeID, some (.sweep ((groupID, nodeIDs) :: groups) true))
      else (manager, some (.sweep ((groupID, nodeIDs) :: groups) updated))
  | .groupInfo _ [] => (manager, none)
  | .groupInfo groupID (nodeInfo :: nodeInfos) =>
    if (manager.queryLocalNodes groupID nodeInfo.nodeID).isSome then
      (manager, some (.groupInfo groupID nodeInfos))
    else if nodeInfo.serviceName.isEmpty then (manager, some (.groupInfo groupID nodeInfos))
    else
      ((manager.insertFrontService groupID nodeInfo.nodeID
          { frontService := nodeInfo.frontService, frontServicePrx := true }).increaseSeq,
        some (.groupInfo groupID nodeInfos))

end GatewayNodeManager

end BcosGateway

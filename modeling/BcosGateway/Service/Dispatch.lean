import BcosGateway.NodeManager.NodeListJson
import BcosGateway.P2PMessage.Decode

/-! What `Service::onMessage` does with a message that was handed over without an error. -/

namespace BcosGateway

structure Environment (Key : Type) where
  fw : CroppingFramework
  json : JsonCpp
  keyFactory : KeyFactory Key
  commonError : CommonError

def hexDigit (value : UInt8) : UInt8 := if value < 10 then 48 + value else 87 + value

def Environment.reading (document : Json) : Environment Bytes where
  fw := .standard
  json := .reading document
  keyFactory :=
    { createKey := id
      encode := id
      hex := fun key => key.flatMap fun byte => [hexDigit (byte / 16), hexDigit (byte % 16)] }
  commonError := ⟨0, 1501, 1502, 1503⟩

/-- The calls that leave the gateway. `onReceiveMessage` carries the request that its callback
    answers, if it has one. -/
inductive Action (φ Key : Type) where
  | handler (message : P2PMessage)
  | sendMessageBySession (packetType : UInt16) (payload : Bytes)
  | sendRespMessageBySession (payload : Bytes) (request : P2PMessage)
  | onReceiveMessage (frontService : φ) (groupID : StdString) (srcNodeID : Key) (payload : Bytes)
    (request : Option P2PMessage)
  deriving DecidableEq

def dereference (nodeID : Option Bytes) : Except Fault Bytes :=
  match nodeID with
  | none => .error .nullPointer
  | some nodeID => .ok nodeID

def dstNodeIDAt (dstNodeIDs : List (Option Bytes)) (i : Nat) : Except Fault (Option Bytes) :=
  match dstNodeIDs[i]? with
  | none => .error .outOfBounds
  | some nodeID => .ok nodeID

namespace Gateway

variable {φ Key : Type} (env : Environment Key) (manager : GatewayNodeManager φ)

def onReceiveP2PMessage (groupID : StdString) (srcNodeID dstNodeID : Key) (payload : Bytes)
    (request : P2PMessage) : List (Action φ Key) :=
  match manager.queryFrontServiceInterfaceByGroupIDAndNodeID groupID
    (env.keyFactory.hex dstNodeID) with
  | none =>
    let code := env.commonError.notFoundFrontServiceDispatchMsg
    [.sendRespMessageBySession (asciiString (toString code)) request]
  | some frontService => [.onReceiveMessage frontService groupID srcNodeID payload (some request)]

def onReceiveBroadcastMessage [DecidableEq φ] (groupID : StdString) (srcNodeID : Key)
    (payload : Bytes) : List (Action φ Key) :=
  (manager.queryFrontServiceInterfaceByGroupID groupID).map fun frontService =>
    .onReceiveMessage frontService groupID srcNodeID payload none

end Gateway

namespace Service

variable {φ Key : Type} [DecidableEq φ] (env : Environment Key) (msgHandlers : KeySet UInt16)
  (manager : GatewayNodeManager φ) (p2pID : P2pID) (message : P2PMessage)

/-- The handlers are registered under the 16 bits of the type. The reads of the `switch` are not
    checked: four bytes of a heartbeat's payload, and the first destination. -/
def dispatch : Except Fault (GatewayNodeManager φ × List (Action φ Key)) := do
  let types := env.fw.messageType
  if message.packetType ∈ msgHandlers then
    return (manager, [.handler message])
  else if message.packetType = types.handshake then
    return (manager, [])
  else if message.packetType = types.heartbeat then
    let statusSeq ← readNumber message.payload 0 4
    let statusSeqChanged := manager.onReceiveStatusSeq p2pID (UInt32.ofNat statusSeq)
    if statusSeqChanged then
      return (manager, [.sendMessageBySession types.requestNodeIDs []])
    return (manager, [])
  else if message.packetType = types.requestNodeIDs then
    let json := manager.onRequestNodeIDs env.json
    if !json.isEmpty then
      return (manager, [.sendMessageBySession types.responseNodeIDs json])
    return (manager, [])
  else if message.packetType = types.responseNodeIDs then
    return (manager.onReceiveNodeIDs env.json p2pID message.payload, [])
  else if message.packetType = types.peerToPeerMessage then
    let srcNodeID := env.keyFactory.createKey (← dereference message.options.srcNodeID)
    let dstNodeID := env.keyFactory.createKey
      (← dereference (← dstNodeIDAt message.options.dstNodeIDs 0))
    return (manager, Gateway.onReceiveP2PMessage env manager message.options.groupID srcNodeID
      dstNodeID message.payload message)
  else if message.packetType = types.broadcastMessage then
    let srcNodeID := env.keyFactory.createKey (← dereference message.options.srcNodeID)
    return (manager, Gateway.onReceiveBroadcastMessage manager message.options.groupID srcNodeID
      message.payload)
  else
    -- unrecognized message type
    return (manager, [])

section Branches

variable {msgHandlers manager p2pID message} (unhandled : message.packetType ∉ msgHandlers)

include unhandled

theorem dispatch_heartbeat (type : message.packetType = env.fw.messageType.heartbeat) :
    dispatch env msgHandlers manager p2pID message = (do
      let statusSeq ← readNumber message.payload 0 4
      if manager.onReceiveStatusSeq p2pID (UInt32.ofNat statusSeq) then
        return (manager, [.sendMessageBySession env.fw.messageType.requestNodeIDs []])
      return (manager, [])) := by
  have distinct := env.fw.messageType.distinct
  have handshake : message.packetType ≠ env.fw.messageType.handshake := by grind
  unfold dispatch
  simp only [unhandled, handshake, if_pos type, if_false]

theorem dispatch_requestNodeIDs (type : message.packetType = env.fw.messageType.requestNodeIDs) :
    dispatch env msgHandlers manager p2pID message =
      .ok (manager, if (manager.onRequestNodeIDs env.json).isEmpty then []
        else [.sendMessageBySession env.fw.messageType.responseNodeIDs
          (manager.onRequestNodeIDs env.json)]) := by
  have distinct := env.fw.messageType.distinct
  have handshake : message.packetType ≠ env.fw.messageType.handshake := by grind
  have heartbeat : message.packetType ≠ env.fw.messageType.heartbeat := by grind
  unfold dispatch
  simp only [unhandled, handshake, heartbeat, if_pos type, if_false]
  cases (manager.onRequestNodeIDs env.json).isEmpty <;> rfl

theorem dispatch_responseNodeIDs (type : message.packetType = env.fw.messageType.responseNodeIDs) :
    dispatch env msgHandlers manager p2pID message =
      .ok (manager.onReceiveNodeIDs env.json p2pID message.payload, []) := by
  have distinct := env.fw.messageType.distinct
  have handshake : message.packetType ≠ env.fw.messageType.handshake := by grind
  have heartbeat : message.packetType ≠ env.fw.messageType.heartbeat := by grind
  have requestNodeIDs : message.packetType ≠ env.fw.messageType.requestNodeIDs := by grind
  unfold dispatch
  simp only [unhandled, handshake, heartbeat, requestNodeIDs, if_pos type, if_false]
  rfl

theorem dispatch_peerToPeerMessage
    (type : message.packetType = env.fw.messageType.peerToPeerMessage) :
    dispatch env msgHandlers manager p2pID message = (do
      let srcNodeID ← dereference message.options.srcNodeID
      let dstNodeID ← dereference (← dstNodeIDAt message.options.dstNodeIDs 0)
      return (manager, Gateway.onReceiveP2PMessage env manager message.options.groupID
        (env.keyFactory.createKey srcNodeID) (env.keyFactory.createKey dstNodeID)
        message.payload message)) := by
  have distinct := env.fw.messageType.distinct
  have handshake : message.packetType ≠ env.fw.messageType.handshake := by grind
  have heartbeat : message.packetType ≠ env.fw.messageType.heartbeat := by grind
  have requestNodeIDs : message.packetType ≠ env.fw.messageType.requestNodeIDs := by grind
  have responseNodeIDs : message.packetType ≠ env.fw.messageType.responseNodeIDs := by grind
  unfold dispatch
  simp only [unhandled, handshake, heartbeat, requestNodeIDs, responseNodeIDs, if_pos type,
    if_false]

theorem dispatch_broadcastMessage
    (type : message.packetType = env.fw.messageType.broadcastMessage) :
    dispatch env msgHandlers manager p2pID message = (do
      let srcNodeID ← dereference message.options.srcNodeID
      return (manager, Gateway.onReceiveBroadcastMessage manager message.options.groupID
        (env.keyFactory.createKey srcNodeID) message.payload)) := by
  have distinct := env.fw.messageType.distinct
  simp only [List.nodup_cons, List.mem_cons, not_or] at distinct
  have handshake : message.packetType ≠ env.fw.messageType.handshake := by grind
  have heartbeat : message.packetType ≠ env.fw.messageType.heartbeat := by grind
  have requestNodeIDs : message.packetType ≠ env.fw.messageType.requestNodeIDs := by grind
  have responseNodeIDs : message.packetType ≠ env.fw.messageType.responseNodeIDs := by grind
  have peerToPeerMessage : message.packetType ≠ env.fw.messageType.peerToPeerMessage := by grind
  unfold dispatch
  simp only [unhandled, handshake, heartbeat, requestNodeIDs, responseNodeIDs, peerToPeerMessage,
    if_pos type, if_false]

end Branches

/-- Only a node list changes the node manager. A session gets messages of the node list exchange,
    the list itself as an answer only. -/
theorem dispatch_cases {msgHandlers manager p2pID message}
    {after : GatewayNodeManager φ} {actions : List (Action φ Key)}
    (ran : dispatch env msgHandlers manager p2pID message = .ok (after, actions)) :
    (after = manager ∧ ∀ packetType payload,
      Action.sendMessageBySession packetType payload ∈ actions →
        packetType = env.fw.messageType.requestNodeIDs ∨
          (packetType = env.fw.messageType.responseNodeIDs ∧
            payload = manager.onRequestNodeIDs env.json)) ∨
      (message.packetType ∉ msgHandlers ∧
        message.packetType = env.fw.messageType.responseNodeIDs ∧
        after = manager.onReceiveNodeIDs env.json p2pID message.payload ∧ actions = []) := by
  by_cases unhandled : message.packetType ∈ msgHandlers
  · unfold dispatch at ran
    rw [if_pos unhandled] at ran
    cases ran
    exact .inl ⟨rfl, fun _ _ sent => (by cases List.mem_singleton.mp sent)⟩
  by_cases response : message.packetType = env.fw.messageType.responseNodeIDs
  · rw [dispatch_responseNodeIDs env unhandled response] at ran
    cases ran
    exact .inr ⟨unhandled, response, rfl, rfl⟩
  left
  unfold dispatch at ran
  simp only [unhandled, response, if_false] at ran
  -- a handshake
  split at ran
  · cases ran
    exact ⟨rfl, fun _ _ sent => (by cases sent)⟩
  -- a heartbeat
  split at ran
  · obtain ⟨statusSeq, _, rest⟩ := bind_eq_ok.mp ran
    split at rest
    · cases rest
      refine ⟨rfl, fun _ _ sent => ?_⟩
      cases List.mem_singleton.mp sent
      exact .inl rfl
    · cases rest
      exact ⟨rfl, fun _ _ sent => (by cases sent)⟩
  -- a request for the node list
  split at ran
  · split at ran
    · cases ran
      refine ⟨rfl, fun _ _ sent => ?_⟩
      cases List.mem_singleton.mp sent
      exact .inr ⟨rfl, rfl⟩
    · cases ran
      exact ⟨rfl, fun _ _ sent => (by cases sent)⟩
  -- a message between nodes
  split at ran
  · obtain ⟨srcNodeID, _, rest⟩ := bind_eq_ok.mp ran
    obtain ⟨first, _, rest⟩ := bind_eq_ok.mp rest
    obtain ⟨dstNodeID, _, rest⟩ := bind_eq_ok.mp rest
    cases rest
    refine ⟨rfl, fun _ _ sent => ?_⟩
    unfold Gateway.onReceiveP2PMessage at sent
    split at sent <;> cases List.mem_singleton.mp sent
  -- a broadcast
  split at ran
  · obtain ⟨srcNodeID, _, rest⟩ := bind_eq_ok.mp ran
    cases rest
    refine ⟨rfl, fun _ _ sent => ?_⟩
    obtain ⟨frontService, _, other⟩ := List.mem_map.mp sent
    cases other
  · cases ran
    exact ⟨rfl, fun _ _ sent => (by cases sent)⟩

end Service

end BcosGateway

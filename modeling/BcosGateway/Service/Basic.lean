import BcosGateway.Session.Basic
import BcosGateway.Service.Dispatch

/-! The service: its sessions by peer, and everything that reads or changes them. -/

namespace BcosGateway

structure NodeIPEndpoint where
  address : String
  port : UInt16
  deriving DecidableEq, Repr

structure P2PSession where
  p2pID : P2pID
  endpoint : NodeIPEndpoint
  session : Session Nat
  run : Bool := false
  /-- The pointers to it in callbacks of the gateway and in tasks of the message handlers. -/
  pinned : Nat := 0

/-- A `P2PSession` is named by its place in `p2pSessions`, which keeps the ended ones. -/
structure Service (φ : Type) where
  nodeID : P2pID := []
  run : Bool := true
  sessions : Table P2pID Nat := ∅
  p2pSessions : List P2PSession := []
  staticNodes : Table NodeIPEndpoint P2pID := ∅
  msgHandlers : KeySet UInt16 := ∅
  seq : UInt32 := 1
  manager : GatewayNodeManager φ := {}
  /-- The calls of `onDisconnect` that have not taken `x_sessions` yet. -/
  disconnecting : List (NetworkException × Nat) := []
  failures : List Nat := []

namespace P2PSession

def stop (p2pSession : P2PSession) (reason : DisconnectReason) : P2PSession :=
  if p2pSession.run then
    let p2pSession := { p2pSession with run := false }
    if p2pSession.session.isActived then
      { p2pSession with session := p2pSession.session.drop reason }
    else p2pSession
  else p2pSession

/-- Whether something other than `m_sessions` keeps the object: every callback that is held or
    queued captures it. -/
def captured (p2pSession : P2PSession) : Bool :=
  p2pSession.pinned != 0 || !Table.isEmpty p2pSession.session.seq2Callback ||
    p2pSession.session.pool.any fun task => task.holds.isSome

end P2PSession

namespace Service

variable {φ Key : Type} (env : Environment Key) (service : Service φ)

def modifyP2PSession (object : Nat) (update : P2PSession → P2PSession) : Service φ :=
  { service with p2pSessions := service.p2pSessions.modify object update }

def modifySession (object : Nat) (update : Session Nat → Session Nat) : Service φ :=
  service.modifyP2PSession object fun p2pSession =>
    { p2pSession with session := update p2pSession.session }

def stopP2PSession (reason : DisconnectReason) (service : Service φ) (object : Nat) : Service φ :=
  service.modifyP2PSession object fun p2pSession => p2pSession.stop reason

def actived (object : Nat) : Bool :=
  match service.p2pSessions[object]? with
  | none => false
  | some p2pSession => p2pSession.run

def connected (nodeID : P2pID) : Bool :=
  match service.sessions.lookup nodeID with
  | none => false
  | some object => service.actived object

def alive (object : Nat) : Bool :=
  service.sessions.values.contains object ||
    service.disconnecting.any (fun pending => pending.2 == object) ||
    match service.p2pSessions[object]? with
    | none => false
    | some p2pSession => p2pSession.captured

def newSeq : UInt32 × Service φ := (service.seq + 1, { service with seq := service.seq + 1 })

def newP2PMessage (packetType : UInt16) (payload : Bytes) : P2PMessage × Service φ :=
  let (seq, service) := service.newSeq
  ({ packetType, seq, payload }, service)

def numbered (message : P2PMessage) : P2PMessage × Service φ :=
  if message.seq = 0 then
    let (seq, service) := service.newSeq
    ({ message with seq }, service)
  else (message, service)

def sendMessageBySession (packetType : UInt16) (payload : Bytes) (object : Nat) : Service φ :=
  let (p2pMessage, service) := service.newP2PMessage packetType payload
  service.modifySession object fun session => session.asyncSendMessage env.fw p2pMessage {} none

def sendRespMessageBySession (payload : Bytes) (request : P2PMessage) (object : Nat) : Service φ :=
  let respMessage := { ({ seq := request.seq } : P2PMessage).setRespPacket with payload }
  service.modifySession object fun session => session.asyncSendMessage env.fw respMessage {} none

/-- `P2PSession::heartBeat`, without the timer that calls it again. -/
def heartBeat (object : Nat) : Service φ :=
  if service.run then
    let message : P2PMessage :=
      { packetType := env.fw.messageType.heartbeat
        payload := BigEndian.encode 4 service.manager.statusSeq.toNat }
    service.modifySession object fun session =>
      if session.isActived then session.asyncSendMessage env.fw message {} none else session
  else service

def startP2PSession (object : Nat) : Service φ :=
  if service.actived object then service
  else
    (service.modifyP2PSession object fun p2pSession =>
      { p2pSession with run := true, session := p2pSession.session.start }).heartBeat env object

def updateStaticNodes (endpoint : NodeIPEndpoint) (nodeID : P2pID) : Service φ :=
  { service with staticNodes := service.staticNodes.replace endpoint nodeID }

/-- A session that is refused was never started, so that `disconnect` does nothing to it. -/
def onConnect (e : NetworkException) (p2pID : P2pID) (endpoint : NodeIPEndpoint)
    (session : Session Nat) : Service φ :=
  if e.errorCode ≠ 0 then service
  else if service.connected p2pID then service.updateStaticNodes endpoint p2pID
  else if p2pID = service.nodeID then service.updateStaticNodes endpoint service.nodeID
  else
    let object := service.p2pSessions.length
    let p2pSession := { p2pID, endpoint, session := { session with messageHandler := true } }
    let service := { service with p2pSessions := service.p2pSessions ++ [p2pSession] }
    let service := (service.startP2PSession env object).updateStaticNodes endpoint p2pID
    { service with sessions := service.sessions.insert p2pID object }

/-- `onDisconnect` up to its lock. The factory registers one handler, which forgets the nodes of
    the peer. -/
def onDisconnect (e : NetworkException) (object : Nat) : Service φ :=
  match service.p2pSessions[object]? with
  | none => service
  | some p2pSession =>
    { service with
      manager := service.manager.onRemoveNodeIDs p2pSession.p2pID
      disconnecting := service.disconnecting ++ [(e, object)] }

def clearStaticNode (p2pID : P2pID) : Service φ :=
  match service.staticNodes.entries.find? fun entry => entry.2 = p2pID with
  | none => service
  | some entry => service.updateStaticNodes entry.1 []

/-- The rest of `onDisconnect`, under `x_sessions`. -/
def eraseSession (e : NetworkException) (object : Nat) : Service φ :=
  match service.p2pSessions[object]? with
  | none => service
  | some p2pSession =>
    if service.sessions.lookup p2pSession.p2pID = some object then
      let service := { service with sessions := service.sessions.erase p2pSession.p2pID }
      if e.errorCode = P2PExceptionType.duplicateSession then service
      else service.clearStaticNode p2pSession.p2pID
    else service

def setNetwork (network : Bool) : Service φ :=
  { service with
    p2pSessions := service.p2pSessions.map fun p2pSession =>
      { p2pSession with session := { p2pSession.session with haveNetwork := network } } }

/-- The heartbeat that `start` begins with is not a part of it. -/
def start : Service φ :=
  if service.run then service else { service with run := true }.setNetwork true

/-- The host is stopped first, so no session that is then stopped is active. -/
def stop : Service φ :=
  if service.run then
    let service := { service with run := false }.setNetwork false
    let service := service.sessions.values.foldl (stopP2PSession .clientQuit) service
    { service with sessions := ∅ }
  else service

/-- What the dispatch of a message does to its own session. Handlers and front services that will
    answer keep a pointer to it. -/
def perform (object : Nat) (service : Service φ) : Action φ Key → Service φ
  | .handler _ | .onReceiveMessage _ _ _ _ (some _) =>
    service.modifyP2PSession object fun p2pSession =>
      { p2pSession with pinned := p2pSession.pinned + 1 }
  | .onReceiveMessage _ _ _ _ none => service
  | .sendMessageBySession packetType payload =>
    service.sendMessageBySession env packetType payload object
  | .sendRespMessageBySession payload request =>
    service.sendRespMessageBySession env payload request object

/-- The gateway outlives the service. Only a notification without a message has an error code, or
    one whose message could not be decoded. -/
def onMessage [DecidableEq φ] (object : Nat) (e : NetworkException) (message : Option P2PMessage) :
    Except Fault (Service φ × List (Action φ Key)) :=
  if !service.alive object then .ok (service, [])
  else if e.errorCode ≠ 0 then
    .ok ((service.stopP2PSession .userReason object).onDisconnect e object, [])
  else
    match service.p2pSessions[object]?, message with
    | some p2pSession, some message => do
      let (manager, actions) ←
        dispatch env service.msgHandlers service.manager p2pSession.p2pID message
      return (actions.foldl (perform env object) { service with manager }, actions)
    | _, _ => .error .nullPointer

inductive Fate where
  | invoked (errorCode : Int)
  | enqueued
  | handed (object : Nat)
  deriving DecidableEq, Repr

/-- `thrown` is the state in which an exception leaves the session, if it throws one. -/
def asyncSendMessageByNodeID (nodeID : P2pID) (message : P2PMessage) (options : Options)
    (callback : Option Nat) (thrown : Option (Session Nat)) : Service φ × List Fate :=
  if nodeID = service.nodeID then (service, [])
  else
    match service.sessions.lookup nodeID with
    | none => (service, [])
    | some object =>
      if service.actived object then
        let (message, service) := service.numbered message
        let fates := callback.toList.map fun _ => .handed object
        match thrown with
        | none =>
          (service.modifySession object fun session =>
            session.asyncSendMessage env.fw message options callback, fates)
        | some thrown =>
          let service := service.modifySession object fun _ => thrown
          ({ service with failures := service.failures ++ callback.toList },
            fates ++ callback.toList.map fun _ => .enqueued)
      else (service, [])

/-- `later` is what the service has become when the check is over. The callback is wrapped in one
    that is never empty. -/
def asyncSendMessageByP2PNodeID (later : Service φ) (type : UInt16) (dstNodeID : P2pID)
    (payload : Bytes) (options : Options) (callback : Nat) (thrown : Option (Session Nat)) :
    Service φ × List Fate :=
  if !service.connected dstNodeID then (later, [.invoked (-1)])
  else
    let (p2pMessage, later) := later.newP2PMessage type payload
    later.asyncSendMessageByNodeID env dstNodeID p2pMessage options (some callback) thrown

def asyncSendMessageByP2PNodeIDs (type : UInt16) (nodeIDs : List P2pID) (payload : Bytes)
    (options : Options) (callback : P2pID → Nat) : Service φ :=
  nodeIDs.foldl (fun service nodeID => (service.asyncSendMessageByP2PNodeID env service type nodeID
    payload options (callback nodeID) none).1) service

end Service

end BcosGateway

import BcosGateway.Service.Basic
import BcosGateway.Lib.Transition

/-! Runs of a service with the sessions and the thread pool under it. -/

namespace BcosGateway

namespace Service

inductive Event (φ : Type) where
  | start
  | stop
  | onConnect (e : NetworkException) (p2pID : P2pID) (endpoint : NodeIPEndpoint)
    (session : Session Nat)
  | heartBeat (object : Nat)
  | asyncSendMessageByNodeID (nodeID : P2pID) (message : P2PMessage) (options : Options)
    (callback : Option Nat) (thrown : Option (Session Nat))
  | retain (object : Nat)
  | release (object : Nat)
  | sendRespMessageBySession (object : Nat) (payload : Bytes) (request : P2PMessage)
  | session (object : Nat) (event : SessionEvent)
  | execute (object task : Nat)
  | onDisconnect (pending : Nat)
  | registerFrontService (groupID nodeID : StdString) (frontService : φ)
  | unregisterFrontService (groupID nodeID : StdString)

variable {φ Key : Type} [DecidableEq φ] (env : Environment Key) (service : Service φ)

def dequeue (object task : Nat) : Service φ :=
  service.modifySession object fun session => { session with pool := session.pool.eraseIdx task }

def execute (object : Nat) : Task Nat → Option (Service φ)
  | .failure _ _ => some service
  | .response callback _ message =>
    some (service.modifySession object fun session =>
      session.enqueue (.finish callback message.seq))
  | .timeout callback seq =>
    some (service.modifySession object fun session => session.enqueue (.finish callback seq))
  | .finish _ seq => some (service.modifySession object fun session => session.removeSeqCallback seq)
  | .handler e message =>
    match service.onMessage env object e message with
    | .error _ => none
    | .ok (service, _) => some service

/-- The tasks run in any order. `retain` and `release` are the copies that other code makes of
    the pointers of `m_sessions`. -/
def step (service : Service φ) : Event φ → Option (Service φ)
  | .start => some service.start
  | .stop => some service.stop
  | .onConnect e p2pID endpoint session => some (service.onConnect env e p2pID endpoint session)
  | .heartBeat object => if service.alive object then some (service.heartBeat env object) else none
  | .asyncSendMessageByNodeID nodeID message options callback thrown =>
    some (service.asyncSendMessageByNodeID env nodeID message options callback thrown).1
  | .retain object =>
    if service.sessions.values.contains object then
      some (service.modifyP2PSession object fun p2pSession =>
        { p2pSession with pinned := p2pSession.pinned + 1 })
    else none
  | .release object =>
    some (service.modifyP2PSession object fun p2pSession =>
      { p2pSession with pinned := p2pSession.pinned - 1 })
  | .sendRespMessageBySession object payload request =>
    if service.alive object then some (service.sendRespMessageBySession env payload request object)
    else none
  | .session object event => some (service.modifySession object fun session => session.take event)
  | .execute object task =>
    match service.p2pSessions[object]? with
    | none => none
    | some p2pSession =>
      match p2pSession.session.pool[task]? with
      | none => none
      | some started => (service.dequeue object task).execute env object started
  | .onDisconnect pending =>
    match service.disconnecting[pending]? with
    | none => none
    | some (e, object) =>
      some ({ service with disconnecting := service.disconnecting.eraseIdx pending }.eraseSession
        e object)
  | .registerFrontService groupID nodeID frontService =>
    some { service with
      manager := (service.manager.registerFrontService groupID nodeID frontService).2 }
  | .unregisterFrontService groupID nodeID =>
    some { service with manager := (service.manager.unregisterFrontService groupID nodeID).2 }

end Service

end BcosGateway

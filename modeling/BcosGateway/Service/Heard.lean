import BcosGateway.Service.Effects
import BcosGateway.NodeManager.GroupNodes

/-! What the sessions of a peer tell the routing table, over whole runs. -/

namespace BcosGateway

namespace GatewayNodeManager

def Operation.announced : Operation → Option (UInt32 × NodeIDsMap)
  | .updateNodeIDs _ seq nodeIDsMap => some (seq, nodeIDsMap)
  | .onRemoveNodeIDs _ => none

def lastAnnounced (operations : List Operation) : Announcements := fun p2pID =>
  (operations.reverse.find? fun operation => operation.p2pID = p2pID).bind Operation.announced

theorem announce_self (announced : Announcements) (operation : Operation) (p2pID : P2pID) :
    announce announced operation p2pID =
      if operation.p2pID = p2pID then operation.announced else announced p2pID := by
  rw [announce_apply]
  by_cases same : operation.p2pID = p2pID
  · rw [if_pos same, if_pos same.symm]
    cases operation with
    | updateNodeIDs => rfl
    | onRemoveNodeIDs => rfl
  · rw [if_neg same, if_neg (Ne.symm same)]

theorem foldl_announce (operations : List Operation) :
    operations.foldl announce (fun _ => none) = lastAnnounced operations := by
  induction operations using List.reverseRecOn with
  | nil => rfl
  | append_singleton operations operation ih =>
    funext p2pID
    have split : lastAnnounced (operations ++ [operation]) p2pID =
        if operation.p2pID = p2pID then operation.announced else lastAnnounced operations p2pID := by
      unfold lastAnnounced
      rw [List.reverse_append, List.reverse_singleton, List.singleton_append, List.find?_cons]
      by_cases same : operation.p2pID = p2pID
      · simp [same]
      · simp [same]
    rw [List.foldl_append, List.foldl_cons, List.foldl_nil, announce_self, ih, split]

variable {φ : Type} (manager : GatewayNodeManager φ)

theorem registerFrontService_nodeIDInfo (groupID nodeID : StdString) (frontService : φ) :
    (manager.registerFrontService groupID nodeID frontService).2.p2pNodeID = manager.p2pNodeID ∧
      (manager.registerFrontService groupID nodeID frontService).2.nodeIDInfo =
        manager.nodeIDInfo := by
  unfold registerFrontService
  simp only
  split
  · split <;> exact ⟨rfl, rfl⟩
  · split <;> exact ⟨rfl, rfl⟩

theorem unregisterFrontService_nodeIDInfo (groupID nodeID : StdString) :
    (manager.unregisterFrontService groupID nodeID).2.p2pNodeID = manager.p2pNodeID ∧
      (manager.unregisterFrontService groupID nodeID).2.nodeIDInfo = manager.nodeIDInfo := by
  unfold unregisterFrontService
  split
  · exact ⟨rfl, rfl⟩
  split
  · simp only
    split <;> exact ⟨rfl, rfl⟩
  · exact ⟨rfl, rfl⟩

end GatewayNodeManager

namespace Service

open GatewayNodeManager (Operation)

variable {φ Key : Type} {service after : Service φ}

structure Records (service : Service φ) (manager : GatewayNodeManager φ) : Prop where
  p2pNodeID : service.manager.p2pNodeID = manager.p2pNodeID
  peerGatewayNodes : service.manager.peerGatewayNodes = manager.peerGatewayNodes
  p2pID2Seq : service.manager.p2pID2Seq = manager.p2pID2Seq
  nodeIDInfo : service.manager.nodeIDInfo = manager.nodeIDInfo

theorem Records.of_manager {manager : GatewayNodeManager φ} (same : service.manager = manager) :
    service.Records manager :=
  ⟨congrArg _ same, congrArg _ same, congrArg _ same, congrArg _ same⟩

section Managers

variable (env : Environment Key) (service : Service φ) (object : Nat)

theorem heartBeat_manager : (service.heartBeat env object).manager = service.manager := by
  unfold heartBeat
  split <;> rfl

theorem performAll_manager (actions : List (Action φ Key)) :
    (actions.foldl (perform env object) service).manager = service.manager := by
  induction actions generalizing service with
  | nil => rfl
  | cons action actions ih =>
    have first : (perform env object service action).manager = service.manager := by
      cases action with
      | handler message => rfl
      | sendMessageBySession packetType payload => rfl
      | sendRespMessageBySession payload request => rfl
      | onReceiveMessage frontService groupID srcNodeID payload request => cases request <;> rfl
    exact (ih _).trans first

theorem asyncSendMessageByNodeID_manager (nodeID : P2pID) (message : P2PMessage)
    (options : Options) (callback : Option Nat) (thrown : Option (Session Nat)) :
    (service.asyncSendMessageByNodeID env nodeID message options callback thrown).1.manager =
      service.manager := by
  have numbered : (service.numbered message).2.manager = service.manager := by
    unfold Service.numbered
    split <;> rfl
  unfold asyncSendMessageByNodeID
  split
  · rfl
  split
  · rfl
  split
  · cases thrown with
    | none => exact numbered
    | some thrown => exact numbered
  · rfl

end Managers

theorem eraseSession_manager (service : Service φ) (e : NetworkException) (object : Nat) :
    (service.eraseSession e object).manager = service.manager := by
  unfold eraseSession
  split
  · rfl
  split
  · simp only
    split
    · rfl
    · unfold clearStaticNode
      split <;> rfl
  · rfl

section Heard

variable (env : Environment Key)

def told (msgHandlers : KeySet UInt16) (p2pID : P2pID) (message : P2PMessage) : Option Operation :=
  if message.packetType ∉ msgHandlers ∧
      message.packetType = env.fw.messageType.responseNodeIDs then
    (GatewayNodeManager.parseReceivedJson env.json message.payload).map fun received =>
      .updateNodeIDs p2pID received.1 received.2
  else none

def heard (service : Service φ) (object : Nat) (p2pID : P2pID) (e : NetworkException)
    (message : Option P2PMessage) : Option Operation :=
  if !service.alive object then none
  else if e.errorCode ≠ 0 then some (.onRemoveNodeIDs p2pID)
  else message.bind (told env service.msgHandlers p2pID)

def announcement (service : Service φ) : Event φ → Option Operation
  | .execute object task =>
    match service.p2pSessions[object]? with
    | none => none
    | some p2pSession =>
      match p2pSession.session.pool[task]? with
      | some (.handler e message) =>
        (service.dequeue object task).heard env object p2pSession.p2pID e message
      | _ => none
  | _ => none

def announcements [DecidableEq φ] : Service φ → List (Event φ) → List Operation
  | _, [] => []
  | service, event :: events =>
    (service.announcement env event).toList ++
      match step env service event with
      | none => []
      | some next => announcements next events

def tell (manager : GatewayNodeManager φ) (operation : Option Operation) : GatewayNodeManager φ :=
  operation.elim manager manager.apply

variable [DecidableEq φ] {env}

theorem dispatch_told {msgHandlers : KeySet UInt16} {manager next : GatewayNodeManager φ}
    {p2pID : P2pID} {message : P2PMessage} {actions : List (Action φ Key)}
    (ran : dispatch env msgHandlers manager p2pID message = .ok (next, actions)) :
    next = tell manager (told env msgHandlers p2pID message) := by
  unfold told
  by_cases lists : message.packetType ∉ msgHandlers ∧
      message.packetType = env.fw.messageType.responseNodeIDs
  · rw [if_pos lists]
    rw [dispatch_responseNodeIDs env lists.1 lists.2] at ran
    cases ran
    unfold GatewayNodeManager.onReceiveNodeIDs
    cases GatewayNodeManager.parseReceivedJson env.json message.payload with
    | none => rfl
    | some received => rfl
  · rw [if_neg lists]
    rcases dispatch_cases env ran with ⟨same, _⟩ | ⟨unhandled, response, _⟩
    · exact same
    · exact absurd ⟨unhandled, response⟩ lists

theorem onMessage_manager {object : Nat} {p2pSession : P2PSession}
    (present : service.p2pSessions[object]? = some p2pSession) {e : NetworkException}
    {message : Option P2PMessage} {actions : List (Action φ Key)}
    (ran : service.onMessage env object e message = .ok (after, actions)) :
    after.manager = tell service.manager (service.heard env object p2pSession.p2pID e message) := by
  unfold heard
  unfold Service.onMessage at ran
  by_cases ended : !service.alive object
  · rw [if_pos ended] at ran ⊢
    cases ran
    rfl
  rw [if_neg ended] at ran ⊢
  by_cases failed : e.errorCode ≠ 0
  · rw [if_pos failed] at ran ⊢
    cases ran
    have found : (service.stopP2PSession .userReason object).entry object =
        some (p2pSession.p2pID, false) := by
      have named : service.entry object = some (p2pSession.p2pID, p2pSession.run) := by
        unfold entry
        rw [present]
        rfl
      rw [entry_stopP2PSession, if_pos rfl, named]
      rfl
    rw [onDisconnect_present e found]
    rfl
  rw [if_neg failed] at ran ⊢
  rw [present] at ran
  cases message with
  | none => cases ran
  | some message =>
    obtain ⟨⟨manager, performed⟩, dispatched, rest⟩ := bind_eq_ok.mp ran
    cases rest
    exact (performAll_manager env { service with manager } object actions).trans
      (dispatch_told dispatched)

theorem execute_manager {object task : Nat}
    (taken : step env service (.execute object task) = some after) :
    after.manager = tell service.manager (service.announcement env (.execute object task)) := by
  simp only [step] at taken
  split at taken
  · cases taken
  rename_i p2pSession held
  split at taken
  · cases taken
  rename_i started found
  simp only [announcement, held, found]
  cases started with
  | failure callback e =>
    cases taken
    rfl
  | response callback e message =>
    cases taken
    rfl
  | timeout callback seq =>
    cases taken
    rfl
  | finish callback seq =>
    cases taken
    rfl
  | handler e message =>
    simp only [Service.execute] at taken
    split at taken
    · cases taken
    rename_i handled
    cases taken
    exact onMessage_manager (dequeue_present held) handled

/-- What tells the table something does nothing else to the manager. -/
theorem step_manager {event : Event φ} {operation : Operation}
    (announced : service.announcement env event = some operation)
    (taken : step env service event = some after) :
    after.manager = service.manager.apply operation := by
  cases event with
  | execute object task =>
    have told := execute_manager taken
    rw [announced] at told
    exact told
  | _ => cases announced

/-- A step does to the records of the peers what it tells the table, and nothing else. -/
theorem step_told {event : Event φ} (taken : step env service event = some after) :
    after.Records (tell service.manager (service.announcement env event)) := by
  cases event with
  | start =>
    cases taken
    exact .of_manager (start_manager service)
  | stop =>
    cases taken
    exact .of_manager (stop_manager service)
  | onConnect e p2pID endpoint session =>
    cases taken
    exact .of_manager (onConnect_manager env service e p2pID endpoint session)
  | heartBeat object =>
    simp only [step] at taken
    split at taken
    · cases taken
      exact .of_manager (heartBeat_manager env service object)
    · cases taken
  | asyncSendMessageByNodeID nodeID message options callback thrown =>
    cases taken
    exact .of_manager
      (asyncSendMessageByNodeID_manager env service nodeID message options callback thrown)
  | retain object =>
    simp only [step] at taken
    split at taken
    · cases taken
      exact .of_manager rfl
    · cases taken
  | release object =>
    cases taken
    exact .of_manager rfl
  | sendRespMessageBySession object payload request =>
    simp only [step] at taken
    split at taken
    · cases taken
      exact .of_manager rfl
    · cases taken
  | session object event =>
    cases taken
    exact .of_manager rfl
  | execute object task => exact .of_manager (execute_manager taken)
  | onDisconnect pending =>
    simp only [step] at taken
    split at taken
    · cases taken
    · cases taken
      exact .of_manager (eraseSession_manager _ _ _)
  | registerFrontService groupID nodeID frontService =>
    cases taken
    obtain ⟨peers, seqs⟩ := service.manager.registerFrontService_peers groupID nodeID frontService
    obtain ⟨own, info⟩ :=
      service.manager.registerFrontService_nodeIDInfo groupID nodeID frontService
    exact ⟨own, peers, seqs, info⟩
  | unregisterFrontService groupID nodeID =>
    cases taken
    obtain ⟨peers, seqs⟩ := service.manager.unregisterFrontService_peers groupID nodeID
    obtain ⟨own, info⟩ := service.manager.unregisterFrontService_nodeIDInfo groupID nodeID
    exact ⟨own, peers, seqs, info⟩

def Follows (manager : GatewayNodeManager φ) (operations : List Operation) : Prop :=
  manager.Represents (operations.foldl GatewayNodeManager.announce fun _ => none)

omit [DecidableEq φ] in
theorem Follows.advance {manager next : GatewayNodeManager φ} {operations : List Operation}
    (follows : Follows manager operations) (operation : Option Operation)
    (peers : next.peerGatewayNodes = (tell manager operation).peerGatewayNodes)
    (seqs : next.p2pID2Seq = (tell manager operation).p2pID2Seq) :
    Follows next (operations ++ operation.toList) := by
  unfold Follows
  cases operation with
  | none =>
    rw [Option.toList_none, List.append_nil]
    exact follows.congr ⟨peers, seqs⟩
  | some operation =>
    rw [Option.toList_some, List.foldl_append]
    exact (follows.apply operation).congr ⟨peers, seqs⟩

theorem Follows.run {operations : List Operation} (follows : Follows service.manager operations)
    {events : List (Event φ)} {last : Service φ}
    (ran : Transition.run (step env) service events = some last) :
    Follows last.manager (operations ++ announcements env service events) := by
  induction events generalizing service operations with
  | nil =>
    cases ran
    unfold announcements
    rw [List.append_nil]
    exact follows
  | cons event events ih =>
    obtain ⟨next, taken, rest⟩ := (Transition.run_cons (step env)).mp ran
    unfold announcements
    rw [taken, ← List.append_assoc]
    have told := step_told taken
    have advanced := follows.advance (service.announcement env event) told.peerGatewayNodes
      told.p2pID2Seq
    exact ih advanced rest

omit [DecidableEq φ] in
theorem Follows.routesExactly {manager : GatewayNodeManager φ} {operations : List Operation}
    (follows : Follows manager operations) :
    manager.RoutesExactly (GatewayNodeManager.lastAnnounced operations) := by
  rw [← GatewayNodeManager.foldl_announce]
  exact GatewayNodeManager.Represents.routesExactly follows

structure Unknowing (service : Service φ) : Prop where
  peerGatewayNodes : service.manager.peerGatewayNodes = ∅
  p2pID2Seq : service.manager.p2pID2Seq = ∅
  nodeIDInfo : service.manager.nodeIDInfo = ∅

omit [DecidableEq φ] in
theorem Unknowing.follows (unknowing : service.Unknowing) : Follows service.manager [] :=
  GatewayNodeManager.represents_empty unknowing.peerGatewayNodes unknowing.p2pID2Seq fun _ => rfl

/-- Whatever a service does, the routes of a peer are those of the last node list that a session
    with the peer has read, unless a session with it has failed since. What the other peers send
    does not matter. -/
theorem routes_heard (env : Environment Key) (fresh : Service φ) (events : List (Event φ))
    {last : Service φ} (unknowing : fresh.Unknowing)
    (ran : Transition.run (step env) fresh events = some last) :
    last.manager.RoutesExactly
      (GatewayNodeManager.lastAnnounced (announcements env fresh events)) := by
  have follows := unknowing.follows.run ran
  rw [List.nil_append] at follows
  exact follows.routesExactly

end Heard

def oneNodeList : Json :=
  GatewayNodeManager.nodeListDocument 2
    ((∅ : NodeIDsMap).insert [103] ((∅ : KeySet StdString).insert [49] ()))

/-- Two peers send their lists, and the session with the first one fails. -/
def twoPeers : List (Event Nat) :=
  let listed : P2PMessage :=
    { packetType := 4, seq := 5, payload := (JsonCpp.reading oneNodeList).write oneNodeList }
  [.onConnect Session.success [112] { address := "127.0.0.1", port := 30300 } {},
    .onConnect Session.success [113] { address := "127.0.0.1", port := 30301 } {},
    .session 0 (.onMessage Session.success listed), .execute 0 0,
    .session 1 (.onMessage Session.success listed), .execute 1 0,
    .session 0 (.drop .tcpError), .execute 0 0]

theorem twoPeers_heard :
    ∃ last, Transition.run (step (Environment.reading oneNodeList)) ({} : Service Nat) twoPeers =
        some last ∧
      last.manager.RoutesExactly (GatewayNodeManager.lastAnnounced
        (announcements (Environment.reading oneNodeList) {} twoPeers)) ∧
      (last.manager.queryP2pIDs [103] [49] ∅).2.keys = [[113]] :=
  ⟨_, rfl, routes_heard (Environment.reading oneNodeList) {} twoPeers ⟨rfl, rfl, rfl⟩ rfl, rfl⟩

end Service

end BcosGateway

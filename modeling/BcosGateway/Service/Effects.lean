import BcosGateway.Service.Run
import BcosGateway.NodeManager.Announcements

/-! What a step does to the sessions of a service and to the routes of its peers. -/

namespace BcosGateway

namespace GatewayNodeManager

variable {φ : Type} {manager : GatewayNodeManager φ}

def Forgotten (manager : GatewayNodeManager φ) (p2pID : P2pID) : Prop :=
  (∀ groupID nodeID, ¬ manager.peerGatewayNodes.Holds groupID nodeID p2pID) ∧
    manager.p2pID2Seq.lookup p2pID = none

theorem forgotten_onRemoveNodeIDs (removed p2pID : P2pID) (others : p2pID ≠ removed →
    manager.Forgotten p2pID) : (manager.onRemoveNodeIDs removed).Forgotten p2pID := by
  have left : manager.onRemoveNodeIDs removed = manager.apply (.onRemoveNodeIDs removed) := rfl
  rw [left]
  constructor
  · intro groupID nodeID held
    rw [holds_apply] at held
    split at held
    · exact held
    · exact (others ‹_›).1 groupID nodeID held
  · rw [lookup_apply]
    split
    · rfl
    · exact (others ‹_›).2

theorem forgotten_onReceiveNodeIDs (json : JsonCpp) {p2pID other : P2pID} (text : StdString)
    (apart : other ≠ p2pID) (forgotten : manager.Forgotten other) :
    (manager.onReceiveNodeIDs json p2pID text).Forgotten other := by
  unfold onReceiveNodeIDs
  cases parseReceivedJson json text with
  | none => exact forgotten
  | some received =>
    have left : manager.updateNodeIDs p2pID received.1 received.2 =
      manager.apply (.updateNodeIDs p2pID received.1 received.2) := rfl
    simp only [left]
    constructor
    · intro groupID nodeID held
      rw [holds_apply, if_neg (by exact apart)] at held
      exact forgotten.1 groupID nodeID held
    · rw [lookup_apply, if_neg (by exact apart)]
      exact forgotten.2

end GatewayNodeManager

namespace Service

variable {φ Key : Type} {service after : Service φ}

def entry (service : Service φ) (object : Nat) : Option (P2pID × Bool) :=
  service.p2pSessions[object]?.map fun p2pSession => (p2pSession.p2pID, p2pSession.run)

theorem actived_iff {object : Nat} :
    service.actived object ↔ ∃ p2pID, service.entry object = some (p2pID, true) := by
  unfold actived entry
  cases service.p2pSessions[object]? with
  | none => simp
  | some p2pSession => simp

theorem connected_iff {p2pID : P2pID} :
    service.connected p2pID ↔
      ∃ object, service.sessions.lookup p2pID = some object ∧ service.actived object := by
  unfold connected
  cases service.sessions.lookup p2pID with
  | none => simp
  | some object => simp

theorem entry_modifyP2PSession (object other : Nat) {update : P2PSession → P2PSession}
    (change : P2pID × Bool → P2pID × Bool)
    (follows : ∀ p2pSession, ((update p2pSession).p2pID, (update p2pSession).run) =
      change (p2pSession.p2pID, p2pSession.run)) :
    (service.modifyP2PSession object update).entry other =
      if object = other then (service.entry other).map change else service.entry other := by
  unfold entry modifyP2PSession
  simp only [List.getElem?_modify]
  by_cases same : object = other
  · rw [if_pos same]
    cases service.p2pSessions[other]? with
    | none => rfl
    | some p2pSession =>
      simp only [same, if_true, Option.map_some]
      exact congrArg some (follows p2pSession)
  · rw [if_neg same]
    cases service.p2pSessions[other]? with
    | none => rfl
    | some p2pSession => simp [same]

structure Quiet (service after : Service φ) : Prop where
  sessions : after.sessions = service.sessions
  entry : ∀ object, after.entry object = service.entry object
  disconnecting : after.disconnecting = service.disconnecting
  peerGatewayNodes : after.manager.peerGatewayNodes = service.manager.peerGatewayNodes
  p2pID2Seq : after.manager.p2pID2Seq = service.manager.p2pID2Seq

theorem Quiet.refl (service : Service φ) : Quiet service service :=
  ⟨rfl, fun _ => rfl, rfl, rfl, rfl⟩

theorem Quiet.trans {middle : Service φ} (first : Quiet service middle)
    (second : Quiet middle after) : Quiet service after :=
  ⟨second.sessions.trans first.sessions,
    fun object => (second.entry object).trans (first.entry object),
    second.disconnecting.trans first.disconnecting,
    second.peerGatewayNodes.trans first.peerGatewayNodes, second.p2pID2Seq.trans first.p2pID2Seq⟩

theorem Quiet.connected (quiet : Quiet service after) {p2pID : P2pID} :
    after.connected p2pID ↔ service.connected p2pID := by
  rw [connected_iff, connected_iff]
  simp only [actived_iff, quiet.sessions, quiet.entry]

theorem Quiet.forgotten (quiet : Quiet service after) {p2pID : P2pID} :
    after.manager.Forgotten p2pID ↔ service.manager.Forgotten p2pID := by
  unfold GatewayNodeManager.Forgotten
  rw [quiet.peerGatewayNodes, quiet.p2pID2Seq]

theorem quiet_modifyP2PSession (service : Service φ) (object : Nat)
    (update : P2PSession → P2PSession)
    (follows : ∀ p2pSession, ((update p2pSession).p2pID, (update p2pSession).run) =
      (p2pSession.p2pID, p2pSession.run)) :
    Quiet service (service.modifyP2PSession object update) := by
  refine ⟨rfl, fun other => ?_, rfl, rfl, rfl⟩
  rw [entry_modifyP2PSession object other id follows]
  simp

theorem quiet_modifySession (service : Service φ) (object : Nat) (update : Session Nat → Session Nat) :
    Quiet service (service.modifySession object update) :=
  quiet_modifyP2PSession service object _ fun _ => rfl

theorem quiet_setNetwork (service : Service φ) (network : Bool) :
    Quiet service (service.setNetwork network) := by
  refine ⟨rfl, fun object => ?_, rfl, rfl, rfl⟩
  unfold entry setNetwork
  rw [List.getElem?_map, Option.map_map]
  rfl

theorem quiet_pinned (service : Service φ) (object : Nat) (count : Nat → Nat) :
    Quiet service (service.modifyP2PSession object fun p2pSession =>
      { p2pSession with pinned := count p2pSession.pinned }) :=
  quiet_modifyP2PSession service object _ fun _ => rfl

theorem quiet_manager (service : Service φ) {manager : GatewayNodeManager φ}
    (peers : manager.peerGatewayNodes = service.manager.peerGatewayNodes)
    (seqs : manager.p2pID2Seq = service.manager.p2pID2Seq) :
    Quiet service { service with manager } :=
  ⟨rfl, fun _ => rfl, rfl, peers, seqs⟩

theorem quiet_updateStaticNodes (service : Service φ) (endpoint : NodeIPEndpoint) (nodeID : P2pID) :
    Quiet service (service.updateStaticNodes endpoint nodeID) :=
  ⟨rfl, fun _ => rfl, rfl, rfl, rfl⟩

theorem quiet_clearStaticNode (service : Service φ) (p2pID : P2pID) :
    Quiet service (service.clearStaticNode p2pID) := by
  unfold clearStaticNode
  split
  · exact .refl service
  · exact quiet_updateStaticNodes service _ []

section Steps

variable (env : Environment Key) (service : Service φ) (object : Nat)

theorem quiet_newSeq : Quiet service service.newSeq.2 := ⟨rfl, fun _ => rfl, rfl, rfl, rfl⟩

theorem quiet_sendMessageBySession (packetType : UInt16) (payload : Bytes) :
    Quiet service (service.sendMessageBySession env packetType payload object) := by
  unfold sendMessageBySession
  exact (quiet_newSeq service).trans (quiet_modifySession _ object _)

theorem quiet_sendRespMessageBySession (payload : Bytes) (request : P2PMessage) :
    Quiet service (service.sendRespMessageBySession env payload request object) := by
  unfold sendRespMessageBySession
  exact quiet_modifySession service object _

theorem quiet_heartBeat : Quiet service (service.heartBeat env object) := by
  unfold heartBeat
  split
  · exact quiet_modifySession service object _
  · exact .refl service

theorem quiet_perform (action : Action φ Key) : Quiet service (perform env object service action) := by
  cases action with
  | handler message => exact quiet_pinned service object (· + 1)
  | sendMessageBySession packetType payload => exact quiet_sendMessageBySession env service object _ _
  | sendRespMessageBySession payload request =>
    exact quiet_sendRespMessageBySession env service object _ _
  | onReceiveMessage frontService groupID srcNodeID payload request =>
    cases request with
    | none => exact .refl service
    | some request => exact quiet_pinned service object (· + 1)

theorem quiet_performAll (actions : List (Action φ Key)) :
    Quiet service (actions.foldl (perform env object) service) := by
  induction actions generalizing service with
  | nil => exact .refl service
  | cons action actions ih => exact (quiet_perform env service object action).trans (ih _)

theorem quiet_asyncSendMessageByNodeID (nodeID : P2pID) (message : P2PMessage) (options : Options)
    (callback : Option Nat) (thrown : Option (Session Nat)) :
    Quiet service (service.asyncSendMessageByNodeID env nodeID message options callback thrown).1 := by
  unfold asyncSendMessageByNodeID
  split
  · exact .refl service
  split
  · exact .refl service
  split
  · rename_i held _ _
    have numbered : Quiet service (service.numbered message).2 := by
      unfold Service.numbered
      split
      · exact quiet_newSeq service
      · exact .refl service
    generalize service.numbered message = pair at numbered ⊢
    obtain ⟨message, numberedService⟩ := pair
    cases thrown with
    | none =>
      exact numbered.trans (quiet_modifySession numberedService held fun session =>
        session.asyncSendMessage env.fw message options callback)
    | some thrown =>
      have left := quiet_modifySession numberedService held fun _ => thrown
      exact numbered.trans ⟨left.sessions, left.entry, left.disconnecting, left.peerGatewayNodes,
        left.p2pID2Seq⟩
  · exact .refl service

end Steps

theorem entry_append (service : Service φ) (p2pSession : P2PSession) (other : Nat) :
    { service with p2pSessions := service.p2pSessions ++ [p2pSession] }.entry other =
      if service.p2pSessions.length = other then some (p2pSession.p2pID, p2pSession.run)
      else service.entry other := by
  unfold entry
  by_cases same : service.p2pSessions.length = other
  · rw [if_pos same, ← same]
    simp
  · rw [if_neg same]
    rcases Nat.lt_or_gt_of_ne same with above | below
    · have long : (service.p2pSessions ++ [p2pSession]).length ≤ other := by
        rw [List.length_append]
        exact above
      rw [List.getElem?_eq_none long, List.getElem?_eq_none (Nat.le_of_lt above)]
    · simp [List.getElem?_append_left below]

theorem entry_startP2PSession (env : Environment Key) {object : Nat} {p2pID : P2pID}
    (idle : service.entry object = some (p2pID, false)) (other : Nat) :
    (service.startP2PSession env object).entry other =
      if object = other then some (p2pID, true) else service.entry other := by
  have stopped : ¬ service.actived object = true := by
    rw [actived_iff, idle]
    rintro ⟨_, runs⟩
    cases runs
  unfold startP2PSession
  rw [if_neg stopped, (quiet_heartBeat env _ object).entry,
    entry_modifyP2PSession object other (fun held => (held.1, true)) fun _ => rfl]
  by_cases same : object = other
  · rw [if_pos same, if_pos same, ← same, idle]
    rfl
  · rw [if_neg same, if_neg same]

theorem startP2PSession_unchanged (env : Environment Key) (service : Service φ) (object : Nat) :
    (service.startP2PSession env object).sessions = service.sessions ∧
      (service.startP2PSession env object).disconnecting = service.disconnecting ∧
      (service.startP2PSession env object).manager = service.manager := by
  unfold startP2PSession
  split
  · exact ⟨rfl, rfl, rfl⟩
  · unfold heartBeat
    split <;> exact ⟨rfl, rfl, rfl⟩

theorem entry_stopP2PSession (service : Service φ) (reason : DisconnectReason) (object other : Nat) :
    (service.stopP2PSession reason object).entry other =
      if object = other then (service.entry other).map fun held => (held.1, false)
      else service.entry other := by
  apply entry_modifyP2PSession object other fun held => (held.1, false)
  intro p2pSession
  unfold P2PSession.stop
  split
  · simp only
    split <;> rfl
  · rename_i idle
    rw [Bool.eq_false_iff.mpr idle]

theorem stopAll_unchanged (reason : DisconnectReason) (objects : List Nat) (service : Service φ) :
    (objects.foldl (stopP2PSession reason) service).disconnecting = service.disconnecting ∧
      (objects.foldl (stopP2PSession reason) service).manager = service.manager := by
  induction objects generalizing service with
  | nil => exact ⟨rfl, rfl⟩
  | cons stopped objects ih => exact ih (service.stopP2PSession reason stopped)

theorem onDisconnect_present (e : NetworkException) {object : Nat} {p2pID : P2pID} {run : Bool}
    (present : service.entry object = some (p2pID, run)) :
    service.onDisconnect e object =
      { service with
        manager := service.manager.onRemoveNodeIDs p2pID
        disconnecting := service.disconnecting ++ [(e, object)] } := by
  unfold entry at present
  unfold onDisconnect
  cases held : service.p2pSessions[object]? with
  | none =>
    rw [held] at present
    cases present
  | some p2pSession =>
    rw [held] at present
    cases present
    rfl

structure Still (service after : Service φ) : Prop where
  nodeID : after.nodeID = service.nodeID
  sessions : after.sessions = service.sessions
  entry : ∀ object, after.entry object = service.entry object
  disconnecting : after.disconnecting = service.disconnecting

structure Connects (service after : Service φ) (p2pID : P2pID) (object : Nat) : Prop where
  nodeID : after.nodeID = service.nodeID
  absent : ¬ service.connected p2pID
  foreign : p2pID ≠ service.nodeID
  fresh : service.entry object = none
  sessions : after.sessions = service.sessions.insert p2pID object
  entry : ∀ other, after.entry other =
    if object = other then some (p2pID, true) else service.entry other
  disconnecting : after.disconnecting = service.disconnecting

structure Stops (service after : Service φ) : Prop where
  nodeID : after.nodeID = service.nodeID
  sessions : after.sessions = ∅
  entry : ∀ object, after.entry object =
    if object ∈ service.sessions.values then (service.entry object).map fun held => (held.1, false)
    else service.entry object
  disconnecting : after.disconnecting = service.disconnecting

structure Disconnects (service after : Service φ) (object : Nat) : Prop where
  nodeID : after.nodeID = service.nodeID
  sessions : after.sessions = service.sessions
  entry : ∃ p2pID run, service.entry object = some (p2pID, run) ∧
    ∀ other, after.entry other = if object = other then some (p2pID, false) else service.entry other
  disconnecting : ∃ e, after.disconnecting = service.disconnecting ++ [(e, object)]

structure Erases (service after : Service φ) (object : Nat) : Prop where
  nodeID : after.nodeID = service.nodeID
  sessions : ∀ p2pID, after.sessions.lookup p2pID = service.sessions.lookup p2pID ∨
    (after.sessions.lookup p2pID = none ∧ service.sessions.lookup p2pID = some object)
  entry : ∀ other, after.entry other = service.entry other
  disconnecting : ∀ pending ∈ after.disconnecting, pending ∈ service.disconnecting
  queued : ∃ e, (e, object) ∈ service.disconnecting

theorem Quiet.still (quiet : Quiet service after) (nodeID : after.nodeID = service.nodeID) :
    Still service after :=
  ⟨nodeID, quiet.sessions, quiet.entry, quiet.disconnecting⟩

theorem Still.trans {middle : Service φ} (first : Still service middle) (second : Still middle after) :
    Still service after :=
  ⟨second.nodeID.trans first.nodeID, second.sessions.trans first.sessions,
    fun object => (second.entry object).trans (first.entry object),
    second.disconnecting.trans first.disconnecting⟩

theorem Still.disconnects {middle : Service φ} {object : Nat} (still : Still service middle)
    (disconnects : Disconnects middle after object) : Disconnects service after object := by
  obtain ⟨p2pID, run, named, entry⟩ := disconnects.entry
  obtain ⟨e, disconnecting⟩ := disconnects.disconnecting
  refine ⟨disconnects.nodeID.trans still.nodeID, disconnects.sessions.trans still.sessions,
    ⟨p2pID, run, (still.entry object).symm.trans named, fun other => ?_⟩, e, ?_⟩
  · rw [entry, still.entry]
  · rw [disconnecting, still.disconnecting]

/-- The object is new, so that every other one is as it was. -/
theorem Connects.kept {p2pID : P2pID} {object other : Nat} {held : P2pID × Bool}
    (connects : Connects service after p2pID object) (found : service.entry other = some held) :
    after.entry other = some held := by
  rw [connects.entry, if_neg, found]
  rintro rfl
  rw [connects.fresh] at found
  cases found

theorem Stops.ended {object : Nat} {p2pID : P2pID} (stops : Stops service after)
    (ended : service.entry object = some (p2pID, false)) :
    after.entry object = some (p2pID, false) := by
  rw [stops.entry, ended]
  split
  · rfl
  · rfl

theorem Disconnects.entry_of {p2pID : P2pID} {object : Nat} {run : Bool}
    (disconnects : Disconnects service after object)
    (present : service.entry object = some (p2pID, run)) (other : Nat) :
    after.entry other = if object = other then some (p2pID, false) else service.entry other := by
  obtain ⟨_, _, named, entry⟩ := disconnects.entry
  rw [present] at named
  cases named
  exact entry other

theorem Disconnects.ended {p2pID : P2pID} {object : Nat} {run : Bool}
    (disconnects : Disconnects service after object)
    (present : service.entry object = some (p2pID, run))
    (before : ∀ pending ∈ service.disconnecting,
      ∃ other, service.entry pending.2 = some (other, false)) :
    ∀ pending ∈ after.disconnecting, ∃ other, after.entry pending.2 = some (other, false) := by
  obtain ⟨e, disconnecting⟩ := disconnects.disconnecting
  intro pending member
  rw [disconnecting] at member
  rw [disconnects.entry_of present]
  split
  · exact ⟨p2pID, rfl⟩
  · rename_i apart
    rcases List.mem_append.mp member with old | new
    · exact before pending old
    · cases List.mem_singleton.mp new
      exact absurd rfl apart

section Steady

def Steady {α : Type} (read : Service φ → α) : Prop :=
  ∀ (service : Service φ) run p2pSessions seq manager disconnecting failures,
    read { service with run, p2pSessions, seq, manager, disconnecting, failures } = read service

theorem steady_nodeID : Steady fun service : Service φ => service.nodeID := fun _ _ _ _ _ _ _ => rfl

theorem steady_msgHandlers : Steady fun service : Service φ => service.msgHandlers :=
  fun _ _ _ _ _ _ _ => rfl

variable {α : Type} {read : Service φ → α} (steady : Steady read) (env : Environment Key)
  (service : Service φ) (object : Nat)

include steady

theorem modifyP2PSession_reads (update : P2PSession → P2PSession) :
    read (service.modifyP2PSession object update) = read service :=
  steady service service.run _ service.seq service.manager service.disconnecting service.failures

theorem setNetwork_reads (network : Bool) : read (service.setNetwork network) = read service :=
  steady service service.run _ service.seq service.manager service.disconnecting service.failures

theorem start_reads : read service.start = read service := by
  unfold Service.start
  split
  · rfl
  · exact (setNetwork_reads steady { service with run := true } true).trans
      (steady service true service.p2pSessions service.seq service.manager service.disconnecting
        service.failures)

theorem newSeq_reads : read service.newSeq.2 = read service :=
  steady service service.run service.p2pSessions _ service.manager service.disconnecting
    service.failures

theorem heartBeat_reads : read (service.heartBeat env object) = read service := by
  unfold heartBeat
  split
  · exact modifyP2PSession_reads steady service object _
  · rfl

theorem startP2PSession_reads : read (service.startP2PSession env object) = read service := by
  unfold startP2PSession
  split
  · rfl
  · exact (heartBeat_reads steady env _ object).trans (modifyP2PSession_reads steady service object _)

theorem sendMessageBySession_reads (packetType : UInt16) (payload : Bytes) :
    read (service.sendMessageBySession env packetType payload object) = read service :=
  (modifyP2PSession_reads steady service.newSeq.2 object _).trans (newSeq_reads steady service)

theorem perform_reads (action : Action φ Key) :
    read (perform env object service action) = read service := by
  cases action with
  | handler message => exact modifyP2PSession_reads steady service object _
  | sendMessageBySession packetType payload =>
    exact sendMessageBySession_reads steady env service object packetType payload
  | sendRespMessageBySession payload request => exact modifyP2PSession_reads steady service object _
  | onReceiveMessage frontService groupID srcNodeID payload request =>
    cases request with
    | none => rfl
    | some request => exact modifyP2PSession_reads steady service object _

theorem performAll_reads (actions : List (Action φ Key)) :
    read (actions.foldl (perform env object) service) = read service := by
  induction actions generalizing service with
  | nil => rfl
  | cons action actions ih =>
    exact (ih (perform env object service action)).trans
      (perform_reads steady env service object action)

theorem asyncSendMessageByNodeID_reads (nodeID : P2pID) (message : P2PMessage) (options : Options)
    (callback : Option Nat) (thrown : Option (Session Nat)) :
    read (service.asyncSendMessageByNodeID env nodeID message options callback thrown).1 =
      read service := by
  have numbered : read (service.numbered message).2 = read service := by
    unfold Service.numbered
    split
    · exact newSeq_reads steady service
    · rfl
  unfold asyncSendMessageByNodeID
  split
  · rfl
  split
  · rfl
  split
  · rename_i held _ _
    have sent := modifyP2PSession_reads steady (service.numbered message).2 held
    cases thrown with
    | none => exact (sent _).trans numbered
    | some thrown =>
      refine Eq.trans ?_ ((sent fun p2pSession => { p2pSession with session := thrown }).trans numbered)
      exact steady _ _ _ _ _ _ _
  · rfl

theorem stopAll_reads (reason : DisconnectReason) (objects : List Nat) :
    read (objects.foldl (stopP2PSession reason) service) = read service := by
  induction objects generalizing service with
  | nil => rfl
  | cons stopped objects ih =>
    exact (ih (service.stopP2PSession reason stopped)).trans
      (modifyP2PSession_reads steady service stopped _)

end Steady

theorem clearStaticNode_nodeID (service : Service φ) (p2pID : P2pID) :
    (service.clearStaticNode p2pID).nodeID = service.nodeID := by
  unfold clearStaticNode
  split
  · rfl
  · rfl

section Effects

variable (env : Environment Key)

theorem onConnect_effect (service : Service φ) (e : NetworkException) (p2pID : P2pID)
    (endpoint : NodeIPEndpoint) (session : Session Nat) :
    Still service (service.onConnect env e p2pID endpoint session) ∨
      Connects service (service.onConnect env e p2pID endpoint session) p2pID
        service.p2pSessions.length := by
  unfold Service.onConnect
  split
  · exact .inl ((Quiet.refl service).still rfl)
  split
  · exact .inl ((quiet_updateStaticNodes service endpoint p2pID).still rfl)
  split
  · exact .inl ((quiet_updateStaticNodes service endpoint service.nodeID).still rfl)
  rename_i absent foreign
  right
  have idle := (entry_append service
    { p2pID, endpoint, session := { session with messageHandler := true } }
    service.p2pSessions.length).trans (if_pos rfl)
  obtain ⟨sessions, disconnecting, _⟩ := startP2PSession_unchanged env
    { service with p2pSessions := service.p2pSessions ++
      [{ p2pID, endpoint, session := { session with messageHandler := true } }] }
    service.p2pSessions.length
  refine ⟨startP2PSession_reads steady_nodeID env _ _, absent, foreign, ?_,
    congrArg (AList.insert p2pID service.p2pSessions.length) sessions, fun other => ?_,
    disconnecting⟩
  · unfold entry
    rw [List.getElem?_eq_none (Nat.le_refl _)]
    rfl
  · refine (entry_startP2PSession env idle other).trans ?_
    rw [entry_append]
    by_cases same : service.p2pSessions.length = other
    · rw [if_pos same, if_pos same]
    · rw [if_neg same, if_neg same, if_neg same]

theorem entry_stopAll (reason : DisconnectReason) (objects : List Nat) (service : Service φ)
    (object : Nat) :
    (objects.foldl (stopP2PSession reason) service).entry object =
      if object ∈ objects then (service.entry object).map fun held => (held.1, false)
      else service.entry object := by
  induction objects generalizing service with
  | nil => rfl
  | cons stopped objects ih =>
    rw [List.foldl_cons, ih, entry_stopP2PSession]
    by_cases same : stopped = object
    · rw [if_pos same, if_pos (List.mem_cons.mpr (.inl same.symm)), Option.map_map]
      split
      · rfl
      · rfl
    · have member : object ∈ stopped :: objects ↔ object ∈ objects := by
        simp [Ne.symm same]
      rw [if_neg same]
      simp only [member]

theorem quiet_start (service : Service φ) : Quiet service service.start := by
  unfold Service.start
  split
  · exact .refl service
  · have idle : Quiet service { service with run := true } := ⟨rfl, fun _ => rfl, rfl, rfl, rfl⟩
    exact idle.trans (quiet_setNetwork _ true)

theorem stop_effect (service : Service φ) :
    Still service service.stop ∨ Stops service service.stop := by
  unfold Service.stop
  split
  · have cut := quiet_setNetwork { service with run := false } false
    obtain ⟨disconnecting, _⟩ := stopAll_unchanged .clientQuit service.sessions.values
      ({ service with run := false }.setNetwork false)
    right
    refine ⟨?_, rfl, fun object => ?_, disconnecting⟩
    · exact (stopAll_reads steady_nodeID _ _ _).trans
        (setNetwork_reads steady_nodeID { service with run := false } false)
    · refine (entry_stopAll .clientQuit _ _ object).trans ?_
      rw [cut.entry]
      rfl
  · exact .inl ((Quiet.refl service).still rfl)

theorem eraseSession_sessions (e : NetworkException) (object : Nat) (p2pID : P2pID) :
    (service.eraseSession e object).sessions.lookup p2pID = service.sessions.lookup p2pID ∨
      ((service.eraseSession e object).sessions.lookup p2pID = none ∧
        service.sessions.lookup p2pID = some object) := by
  unfold eraseSession
  split
  · exact .inl rfl
  split
  · rename_i p2pSession _ held
    have erased : ∀ kept : Service φ, kept.sessions = service.sessions.erase p2pSession.p2pID →
        kept.sessions.lookup p2pID = service.sessions.lookup p2pID ∨
          (kept.sessions.lookup p2pID = none ∧ service.sessions.lookup p2pID = some object) := by
      intro kept sessions
      rw [sessions, Table.lookup_erase_if]
      split
      · rename_i same
        rw [same]
        exact .inr ⟨rfl, held⟩
      · exact .inl rfl
    simp only
    split
    · exact erased _ rfl
    · exact erased _ (quiet_clearStaticNode _ _).sessions
  · exact .inl rfl

theorem eraseSession_kept (service : Service φ) (e : NetworkException) (object : Nat) :
    (service.eraseSession e object).nodeID = service.nodeID ∧
      (service.eraseSession e object).disconnecting = service.disconnecting ∧
      ∀ other, (service.eraseSession e object).entry other = service.entry other := by
  unfold eraseSession
  split
  · exact ⟨rfl, rfl, fun _ => rfl⟩
  split
  · rename_i p2pSession _ _
    simp only
    split
    · exact ⟨rfl, rfl, fun _ => rfl⟩
    · have quiet := quiet_clearStaticNode
        { service with sessions := service.sessions.erase p2pSession.p2pID } p2pSession.p2pID
      exact ⟨clearStaticNode_nodeID _ _, quiet.disconnecting, quiet.entry⟩
  · exact ⟨rfl, rfl, fun _ => rfl⟩

theorem disconnected (service : Service φ) (e : NetworkException) {object : Nat} {p2pID : P2pID}
    {run : Bool} (present : service.entry object = some (p2pID, run)) :
    Disconnects service ((service.stopP2PSession .userReason object).onDisconnect e object)
      object := by
  have stopped := entry_stopP2PSession service .userReason object
  have found : (service.stopP2PSession .userReason object).entry object = some (p2pID, false) := by
    rw [stopped, if_pos rfl, present]
    rfl
  rw [onDisconnect_present e found]
  refine ⟨rfl, rfl, ⟨p2pID, run, present, fun other => (stopped other).trans ?_⟩, e, rfl⟩
  by_cases same : object = other
  · rw [if_pos same, if_pos same, ← same, present]
    rfl
  · rw [if_neg same, if_neg same]

theorem onConnect_manager (service : Service φ) (e : NetworkException) (p2pID : P2pID)
    (endpoint : NodeIPEndpoint) (session : Session Nat) :
    (service.onConnect env e p2pID endpoint session).manager = service.manager := by
  unfold Service.onConnect
  split
  · rfl
  split
  · rfl
  split
  · rfl
  exact (startP2PSession_unchanged env _ _).2.2

theorem stop_manager (service : Service φ) : service.stop.manager = service.manager := by
  unfold Service.stop
  split
  · exact (stopAll_unchanged .clientQuit service.sessions.values
      ({ service with run := false }.setNetwork false)).2
  · rfl

theorem start_manager (service : Service φ) : service.start.manager = service.manager := by
  unfold Service.start
  split
  · rfl
  · rfl

end Effects

def Keeps (service after : Service φ) : Prop :=
  ∀ p2pID, service.manager.Forgotten p2pID → after.manager.Forgotten p2pID

theorem Keeps.of_manager (same : after.manager = service.manager) : Keeps service after :=
  fun p2pID forgotten => by rw [same]; exact forgotten

theorem Quiet.keeps (quiet : Quiet service after) : Keeps service after :=
  fun _ => quiet.forgotten.mpr

theorem eraseSession_keeps (service : Service φ) (e : NetworkException) (object : Nat) :
    Keeps service (service.eraseSession e object) := by
  unfold eraseSession
  split
  · exact fun _ => id
  split
  · rename_i p2pSession _ _
    simp only
    split
    · exact fun _ => id
    · exact (quiet_clearStaticNode
        { service with sessions := service.sessions.erase p2pSession.p2pID } p2pSession.p2pID).keeps
  · exact fun _ => id

section Messages

variable [DecidableEq φ] (env : Environment Key)

def announces (service : Service φ) : Task Nat → Bool
  | .handler e (some message) =>
    e.errorCode = 0 && message.packetType ∉ service.msgHandlers &&
      message.packetType = env.fw.messageType.responseNodeIDs &&
      (GatewayNodeManager.parseReceivedJson env.json message.payload).isSome
  | _ => false

inductive Handled (service after : Service φ) (object : Nat) (p2pID : P2pID) (task : Task Nat) : Prop
  | still (still : Still service after) (keeps : Keeps service after)
  | receives (announced : announces env service task) (alive : service.alive object)
    (still : Still service after)
    (others : ∀ other, other ≠ p2pID → service.manager.Forgotten other →
      after.manager.Forgotten other)
  | disconnects (disconnects : Disconnects service after object)
    (removed : ∀ other, (other ≠ p2pID → service.manager.Forgotten other) →
      after.manager.Forgotten other)

theorem onMessage_handled {object : Nat} {p2pSession : P2PSession}
    (present : service.p2pSessions[object]? = some p2pSession) {e : NetworkException}
    {message : Option P2PMessage} {actions : List (Action φ Key)}
    (ran : service.onMessage env object e message = .ok (after, actions)) :
    Handled env service after object p2pSession.p2pID (.handler e message) := by
  have named : service.entry object = some (p2pSession.p2pID, p2pSession.run) := by
    unfold entry
    rw [present]
    rfl
  unfold Service.onMessage at ran
  split at ran
  · cases ran
    exact .still ((Quiet.refl service).still rfl) (Quiet.refl service).keeps
  rename_i alive
  split at ran
  · obtain ⟨rfl, _⟩ := Prod.mk.inj (Except.ok.inj ran)
    have found : (service.stopP2PSession .userReason object).entry object =
        some (p2pSession.p2pID, false) := by
      rw [entry_stopP2PSession, if_pos rfl, named]
      rfl
    refine .disconnects (disconnected service e named) fun other forgotten => ?_
    rw [onDisconnect_present e found]
    exact GatewayNodeManager.forgotten_onRemoveNodeIDs p2pSession.p2pID other forgotten
  rename_i succeeded
  rw [present] at ran
  cases message with
  | none => cases ran
  | some message =>
    obtain ⟨⟨manager, actions⟩, dispatched, rest⟩ := bind_eq_ok.mp ran
    cases rest
    have quiet := quiet_performAll env { service with manager } object actions
    have performed := quiet.still
      (performAll_reads steady_nodeID env { service with manager } object actions)
    have still : Still service (actions.foldl (perform env object) { service with manager }) :=
      ⟨performed.nodeID, performed.sessions, performed.entry, performed.disconnecting⟩
    rcases dispatch_cases env dispatched with ⟨rfl, _⟩ | ⟨unhandled, response, rfl, _⟩
    · exact .still still quiet.keeps
    cases parsed : GatewayNodeManager.parseReceivedJson env.json message.payload with
    | none =>
      have unread : service.manager.onReceiveNodeIDs env.json p2pSession.p2pID message.payload =
          service.manager := by
        unfold GatewayNodeManager.onReceiveNodeIDs
        rw [parsed]
      rw [unread] at still quiet ⊢
      exact .still still quiet.keeps
    | some received =>
      refine .receives ?_ (by simpa using alive) still fun other apart forgotten => quiet.keeps other
        (GatewayNodeManager.forgotten_onReceiveNodeIDs env.json message.payload apart forgotten)
      simp only [announces, Bool.and_eq_true, decide_eq_true_eq, parsed]
      exact ⟨⟨⟨Decidable.not_not.mp succeeded, unhandled⟩, response⟩, rfl⟩

theorem execute_handled {object : Nat} {p2pSession : P2PSession}
    (present : service.p2pSessions[object]? = some p2pSession) {task : Task Nat}
    (ran : service.execute env object task = some after) :
    Handled env service after object p2pSession.p2pID task := by
  have kept (update : Session Nat → Session Nat) :
      Handled env service (service.modifySession object update) object p2pSession.p2pID task :=
    .still ((quiet_modifySession service object update).still rfl)
      (quiet_modifySession service object update).keeps
  cases task with
  | failure callback e =>
    cases ran
    exact .still ((Quiet.refl service).still rfl) (Quiet.refl service).keeps
  | response callback e message =>
    cases ran
    exact kept _
  | timeout callback seq =>
    cases ran
    exact kept _
  | finish callback seq =>
    cases ran
    exact kept _
  | handler e message =>
    simp only [Service.execute] at ran
    cases handled : service.onMessage env object e message with
    | error fault =>
      rw [handled] at ran
      cases ran
    | ok result =>
      rw [handled] at ran
      cases ran
      exact onMessage_handled env present handled

inductive Outcome (service after : Service φ) : Event φ → Prop
  | still (event : Event φ) (still : Still service after) (keeps : Keeps service after) :
    Outcome service after event
  | connects (e : NetworkException) (p2pID : P2pID) (endpoint : NodeIPEndpoint)
    (session : Session Nat) (connects : Connects service after p2pID service.p2pSessions.length)
    (keeps : Keeps service after) : Outcome service after (.onConnect e p2pID endpoint session)
  | stops (run : service.run) (stops : Stops service after) (keeps : Keeps service after) :
    Outcome service after .stop
  | executes (object task : Nat) (p2pSession : P2PSession) (started : Task Nat)
    (present : service.p2pSessions[object]? = some p2pSession)
    (found : p2pSession.session.pool[task]? = some started)
    (handled : Handled env (service.dequeue object task) after object p2pSession.p2pID started) :
    Outcome service after (.execute object task)
  | erases (pending : Nat) (e : NetworkException) (object : Nat)
    (found : service.disconnecting[pending]? = some (e, object))
    (erases : Erases service after object) (keeps : Keeps service after) :
    Outcome service after (.onDisconnect pending)

omit [DecidableEq φ] in
theorem Quiet.outcome (quiet : Quiet service after) (nodeID : after.nodeID = service.nodeID)
    (event : Event φ) : Outcome env service after event :=
  .still event (quiet.still nodeID) quiet.keeps

omit [DecidableEq φ] in
theorem dequeue_present {object task : Nat} {p2pSession : P2PSession}
    (present : service.p2pSessions[object]? = some p2pSession) :
    (service.dequeue object task).p2pSessions[object]? = some { p2pSession with
      session := { p2pSession.session with pool := p2pSession.session.pool.eraseIdx task } } := by
  simp [dequeue, modifySession, modifyP2PSession, present]

omit [DecidableEq φ] in
theorem dequeued (service : Service φ) (object task : Nat) :
    Quiet service (service.dequeue object task) :=
  quiet_modifySession service object _

theorem step_outcome {event : Event φ} (taken : step env service event = some after) :
    Outcome env service after event := by
  cases event with
  | start =>
    cases taken
    exact (quiet_start service).outcome env (start_reads steady_nodeID service) _
  | stop =>
    cases taken
    by_cases run : service.run
    · rcases stop_effect service with still | stops
      · exact .still _ still (.of_manager (stop_manager service))
      · exact .stops run stops (.of_manager (stop_manager service))
    · unfold Service.stop
      rw [if_neg run]
      exact (Quiet.refl service).outcome env rfl .stop
  | onConnect e p2pID endpoint session =>
    cases taken
    have keeps := Keeps.of_manager (onConnect_manager env service e p2pID endpoint session)
    rcases onConnect_effect env service e p2pID endpoint session with still | connects
    · exact .still _ still keeps
    · exact .connects e p2pID endpoint session connects keeps
  | heartBeat object =>
    simp only [step] at taken
    split at taken
    · cases taken
      exact (quiet_heartBeat env service object).outcome env
        (heartBeat_reads steady_nodeID env service object) _
    · cases taken
  | asyncSendMessageByNodeID nodeID message options callback thrown =>
    cases taken
    exact (quiet_asyncSendMessageByNodeID env service nodeID message options callback
      thrown).outcome env
        (asyncSendMessageByNodeID_reads steady_nodeID env service nodeID message options callback
          thrown) _
  | retain object =>
    simp only [step] at taken
    split at taken
    · cases taken
      exact (quiet_pinned service object (· + 1)).outcome env rfl _
    · cases taken
  | release object =>
    cases taken
    exact (quiet_pinned service object (· - 1)).outcome env rfl _
  | sendRespMessageBySession object payload request =>
    simp only [step] at taken
    split at taken
    · cases taken
      exact (quiet_sendRespMessageBySession env service object payload request).outcome env rfl _
    · cases taken
  | session object event =>
    cases taken
    exact (quiet_modifySession service object _).outcome env rfl _
  | execute object task =>
    simp only [step] at taken
    cases held : service.p2pSessions[object]? with
    | none =>
      rw [held] at taken
      cases taken
    | some p2pSession =>
      rw [held] at taken
      simp only at taken
      cases found : p2pSession.session.pool[task]? with
      | none =>
        rw [found] at taken
        cases taken
      | some started =>
        rw [found] at taken
        exact .executes object task p2pSession started held found
          (execute_handled env (dequeue_present held) taken)
  | onDisconnect pending =>
    simp only [step] at taken
    cases found : service.disconnecting[pending]? with
    | none =>
      rw [found] at taken
      cases taken
    | some waiting =>
      obtain ⟨e, object⟩ := waiting
      rw [found] at taken
      cases taken
      obtain ⟨nodeID, disconnecting, entry⟩ := eraseSession_kept
        { service with disconnecting := service.disconnecting.eraseIdx pending } e object
      refine .erases pending e object found ⟨nodeID, eraseSession_sessions e object, entry,
        fun other member => ?_, e, List.mem_of_getElem? found⟩ ?_
      · rw [disconnecting] at member
        exact List.eraseIdx_subset member
      · exact eraseSession_keeps
          { service with disconnecting := service.disconnecting.eraseIdx pending } e object
  | registerFrontService groupID nodeID frontService =>
    cases taken
    obtain ⟨peers, seqs⟩ := service.manager.registerFrontService_peers groupID nodeID frontService
    exact (quiet_manager service peers seqs).outcome env rfl _
  | unregisterFrontService groupID nodeID =>
    cases taken
    obtain ⟨peers, seqs⟩ := service.manager.unregisterFrontService_peers groupID nodeID
    exact (quiet_manager service peers seqs).outcome env rfl _

end Messages

end Service

end BcosGateway

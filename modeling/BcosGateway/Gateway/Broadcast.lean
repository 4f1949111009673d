import BcosGateway.Service.SafeDispatch
import BcosGateway.Service.Sessions
import BcosGateway.Session.Outgoing
import BcosGateway.Gateway.Delivery

/-! A message from a node to its group: what the sender writes to each peer, and what a gateway
    that reads it does. -/

namespace BcosGateway

namespace Gateway

variable {φ Key : Type} (env : Environment Key)

def newBroadcastMessage (seq : UInt32) (groupID : StdString) (srcNodeID : Key) (payload : Bytes) :
    P2PMessage where
  packetType := env.fw.messageType.broadcastMessage
  seq := seq
  options := { groupID, srcNodeID := some (env.keyFactory.encode srcNodeID) }
  payload := payload

def asyncBroadcastMessageToLocalNodes (manager : GatewayNodeManager φ) (groupID : StdString)
    (srcNodeID : Key) (payload : Bytes) : Bool × List (Action φ Key) :=
  let frontServiceInfos := manager.group groupID
  if frontServiceInfos.entries.length = 0 then (false, [])
  else
    (true, frontServiceInfos.values.map fun info =>
      .onReceiveMessage info.frontService groupID srcNodeID payload none)

/-- The sends share the message, which keeps the number that the first of them may give it. -/
def sendToEach (service : Service φ) (p2pMessage : P2PMessage) : List P2pID → Service φ
  | [] => service
  | p2pID :: p2pIDs =>
    let sent := (service.asyncSendMessageByNodeID env p2pID p2pMessage {} none none).1
    let p2pMessage :=
      if p2pID ≠ service.nodeID ∧ service.connected p2pID then (service.numbered p2pMessage).1
      else p2pMessage
    sendToEach sent p2pMessage p2pIDs

def asyncSendBroadcastMessage (service : Service φ) (groupID : StdString) (srcNodeID : Key)
    (payload : Bytes) : Service φ × List (Action φ Key) :=
  let (_, actions) := asyncBroadcastMessageToLocalNodes service.manager groupID srcNodeID payload
  match service.manager.queryP2pIDsByGroupID groupID ∅ with
  | (false, _) => (service, actions)
  | (true, p2pIDs) =>
    let (seq, service) := service.newSeq
    (sendToEach env service (newBroadcastMessage env seq groupID srcNodeID payload) p2pIDs.keys,
      actions)

end Gateway

namespace Service

variable {φ Key : Type} (env : Environment Key)

def sessionOf (service : Service φ) (p2pID : P2pID) : Option (Session Nat) :=
  (service.sessions.lookup p2pID).bind fun object =>
    service.p2pSessions[object]?.map P2PSession.session

def outgoingTo (service : Service φ) (p2pID : P2pID) : List Bytes :=
  ((service.sessionOf p2pID).map Session.outgoing).getD []

def receive [DecidableEq φ] (service : Service φ) (peer : P2pID) (frame : Bytes) :
    List (Action φ Key) :=
  match service.sessions.lookup peer, P2PMessage.decode env.fw {} frame with
  | some object, .ok (result, message) =>
    if result > 0 then
      match service.onMessage env object Session.success (some message) with
      | .ok (_, actions) => actions
      | .error _ => []
    else []
  | _, _ => []

end Service

section Sender

namespace Service

variable {φ Key : Type} (env : Environment Key) (service : Service φ)

def Named : Prop := ∀ p2pID object, service.sessions.lookup p2pID = some object →
  ∃ run, service.entry object = some (p2pID, run)

structure Linked (p2pID : P2pID) : Prop where
  foreign : p2pID ≠ service.nodeID
  connected : service.connected p2pID
  active : ∃ session, service.sessionOf p2pID = some session ∧ session.isActived

variable {service}

theorem sessionOf_modifySession (named : service.Named) {p2pID : P2pID} {object : Nat}
    (found : service.sessions.lookup p2pID = some object) (update : Session Nat → Session Nat)
    (other : P2pID) :
    (service.modifySession object update).sessionOf other =
      if other = p2pID then (service.sessionOf other).map update else service.sessionOf other := by
  unfold sessionOf modifySession modifyP2PSession
  simp only
  cases held : service.sessions.lookup other with
  | none => simp
  | some place =>
    simp only [Option.bind_some, List.getElem?_modify]
    by_cases same : other = p2pID
    · rw [if_pos same]
      rw [same, found] at held
      cases held
      simp only [if_true, Option.map_eq_map, Option.map_map]
      rfl
    · have apart : object ≠ place := by
        rintro rfl
        obtain ⟨_, first⟩ := named p2pID object found
        obtain ⟨_, second⟩ := named other object held
        rw [first] at second
        cases second
        exact same rfl
      simp [same, apart]

theorem alive_of_stored {p2pID : P2pID} {object : Nat}
    (found : service.sessions.lookup p2pID = some object) : service.alive object := by
  have stored : object ∈ service.sessions.values := Table.mem_values.mpr ⟨p2pID, found⟩
  simp [alive, stored]

theorem sessionOf_pinned (service : Service φ) (object : Nat) (count : Nat → Nat) (p2pID : P2pID) :
    (service.modifyP2PSession object fun p2pSession =>
      { p2pSession with pinned := count p2pSession.pinned }).sessionOf p2pID =
        service.sessionOf p2pID := by
  unfold sessionOf modifyP2PSession
  congr 1
  funext place
  simp only [List.getElem?_modify]
  split
  · rw [Option.map_eq_map, Option.map_map]
    rfl
  · rw [Option.map_eq_map, Option.map_id']

theorem Quiet.named {after : Service φ} (quiet : Quiet service after) (named : service.Named) :
    after.Named := by
  intro p2pID object found
  rw [quiet.sessions] at found
  rw [quiet.entry]
  exact named p2pID object found

theorem numbered_sessionOf (message : P2PMessage) (p2pID : P2pID) :
    (service.numbered message).2.sessionOf p2pID = service.sessionOf p2pID := by
  unfold numbered
  split
  · rfl
  · rfl

theorem numbered_quiet (service : Service φ) (message : P2PMessage) :
    Quiet service (service.numbered message).2 := by
  unfold numbered
  split
  · exact quiet_newSeq service
  · exact .refl service

theorem numbered_message (message : P2PMessage) :
    ∃ seq, (service.numbered message).1 = { message with seq } := by
  unfold numbered
  split
  · exact ⟨_, rfl⟩
  · exact ⟨message.seq, rfl⟩

section Linked

variable (named : service.Named) {p2pID : P2pID} (linked : service.Linked p2pID)
  (message : P2PMessage) (options : Options) (callback : Option Nat)

include named linked

/-- A send to a peer that is linked changes its session and no other. -/
theorem sessionOf_asyncSendMessageByNodeID (other : P2pID) :
    (service.asyncSendMessageByNodeID env p2pID message options callback none).1.sessionOf other =
      if other = p2pID then (service.sessionOf other).map fun session =>
        session.asyncSendMessage env.fw (service.numbered message).1 options callback
      else service.sessionOf other := by
  obtain ⟨object, found, runs⟩ := connected_iff.mp linked.connected
  have quiet := numbered_quiet service message
  unfold asyncSendMessageByNodeID
  rw [if_neg linked.foreign, found]
  simp only [runs, if_true]
  rw [sessionOf_modifySession (quiet.named named) (quiet.sessions ▸ found)]
  simp only [numbered_sessionOf]

theorem Linked.sent {other : P2pID} (also : service.Linked other) :
    (service.asyncSendMessageByNodeID env p2pID message options callback none).1.Linked other := by
  obtain ⟨session, held, active⟩ := also.active
  refine ⟨?_, ?_, ?_⟩
  · have kept :=
      asyncSendMessageByNodeID_reads steady_nodeID env service p2pID message options callback none
    exact fun same => also.foreign (same.trans kept)
  · exact (quiet_asyncSendMessageByNodeID env service p2pID message options callback
      none).connected.mpr also.connected
  · rw [sessionOf_asyncSendMessageByNodeID env named linked, held]
    split
    · exact ⟨_, rfl, Session.asyncSendMessage_isActived env.fw _ options active callback⟩
    · exact ⟨session, rfl, active⟩

theorem outgoingTo_asyncSendMessageByNodeID (other : P2pID) :
    (service.asyncSendMessageByNodeID env p2pID message options callback none).1.outgoingTo other =
      if other = p2pID then
        service.outgoingTo other ++ [((service.numbered message).1.encode env.fw).2]
      else service.outgoingTo other := by
  unfold outgoingTo
  rw [sessionOf_asyncSendMessageByNodeID env named linked]
  split
  · rename_i same
    obtain ⟨session, held, active⟩ := linked.active
    rw [same, held]
    exact session.asyncSendMessage_outgoing env.fw active _ options callback
  · rfl

end Linked

theorem sessionOf_asyncSendMessageByNodeID_other (named : service.Named) {p2pID other : P2pID}
    (apart : other ≠ p2pID) (message : P2PMessage) (options : Options) (callback : Option Nat) :
    (service.asyncSendMessageByNodeID env p2pID message options callback none).1.sessionOf other =
      service.sessionOf other := by
  have quiet := numbered_quiet service message
  unfold asyncSendMessageByNodeID
  split
  · rfl
  split
  · rfl
  rename_i object found
  split
  · rw [sessionOf_modifySession (quiet.named named) (quiet.sessions ▸ found), if_neg apart,
      numbered_sessionOf]
  · rfl

theorem Linked.newSeq {p2pID : P2pID} (linked : service.Linked p2pID) :
    service.newSeq.2.Linked p2pID :=
  ⟨linked.foreign, linked.connected, linked.active⟩

theorem asyncSendMessageByP2PNodeID_linked {p2pID : P2pID} (linked : service.Linked p2pID)
    (type : UInt16) (payload : Bytes) (options : Options) (callback : Nat) :
    (service.asyncSendMessageByP2PNodeID env service type p2pID payload options callback none).1 =
      (service.newSeq.2.asyncSendMessageByNodeID env p2pID
        { packetType := type, seq := service.newSeq.1, payload } options (some callback) none).1 := by
  have connected : service.connected p2pID = true := linked.connected
  unfold asyncSendMessageByP2PNodeID
  rw [connected]
  rfl

/-- What is sent to the first node of a list and then to the rest, under one number or another. -/
theorem sent_cons {nodeID : P2pID} {nodeIDs : List P2pID} (absent : nodeID ∉ nodeIDs) (other : P2pID)
    (frames : List Bytes) (frame : UInt32 → Bytes) (first rest : UInt32) :
    ∃ seq, (if other = nodeID then frames ++ [frame first] else frames) ++
        (if other ∈ nodeIDs then [frame rest] else []) =
      frames ++ if other ∈ nodeID :: nodeIDs then [frame seq] else [] := by
  by_cases same : other = nodeID
  · refine ⟨first, ?_⟩
    rw [if_pos same, if_neg (same ▸ absent), if_pos (List.mem_cons.mpr (.inl same)),
      List.append_nil]
  · refine ⟨rest, ?_⟩
    rw [if_neg same]
    simp only [List.mem_cons, same, false_or]

/-- Every node of the list gets a message of its own, and no other node gets anything. -/
theorem outgoingTo_asyncSendMessageByP2PNodeIDs (type : UInt16) {nodeIDs : List P2pID}
    (payload : Bytes) (options : Options) (callback : P2pID → Nat) (named : service.Named)
    (distinct : nodeIDs.Nodup) (linked : ∀ nodeID ∈ nodeIDs, service.Linked nodeID)
    (other : P2pID) :
    ∃ seq, (service.asyncSendMessageByP2PNodeIDs env type nodeIDs payload options
        callback).outgoingTo other =
      service.outgoingTo other ++ if other ∈ nodeIDs then
        [(({ packetType := type, seq, payload } : P2PMessage).encode env.fw).2] else [] := by
  induction nodeIDs generalizing service with
  | nil => exact ⟨0, (List.append_nil _).symm⟩
  | cons nodeID nodeIDs ih =>
    obtain ⟨absent, apart⟩ := List.nodup_cons.mp distinct
    have first := linked nodeID List.mem_cons_self
    have counted : service.newSeq.2.Named := (quiet_newSeq service).named named
    let message : P2PMessage := { packetType := type, seq := service.newSeq.1, payload }
    have quiet := quiet_asyncSendMessageByNodeID env service.newSeq.2 nodeID message options
      (some (callback nodeID)) none
    obtain ⟨numbered, renumbered⟩ := service.newSeq.2.numbered_message message
    have pushed := outgoingTo_asyncSendMessageByNodeID env counted first.newSeq message options
      (some (callback nodeID)) other
    obtain ⟨seq, rest⟩ := ih (quiet.named counted) apart fun peer member =>
      Linked.sent env counted first.newSeq message options (some (callback nodeID))
        (linked peer (List.mem_cons_of_mem _ member)).newSeq
    have unchanged : service.newSeq.2.outgoingTo other = service.outgoingTo other := rfl
    unfold asyncSendMessageByP2PNodeIDs at rest ⊢
    rw [List.foldl_cons, asyncSendMessageByP2PNodeID_linked env first, rest, pushed, renumbered,
      unchanged]
    exact sent_cons absent other (service.outgoingTo other)
      (fun seq => (({ packetType := type, seq, payload } : P2PMessage).encode env.fw).2) numbered seq

end Service

namespace Gateway

variable {φ Key : Type} (env : Environment Key)

/-- Every peer of the list gets the message once, under one number or another, and no other peer
    gets anything. -/
theorem outgoingTo_sendToEach {service : Service φ} (p2pMessage : P2PMessage) {p2pIDs : List P2pID}
    (named : service.Named) (distinct : p2pIDs.Nodup)
    (linked : ∀ p2pID ∈ p2pIDs, service.Linked p2pID) (other : P2pID) :
    ∃ seq, (sendToEach env service p2pMessage p2pIDs).outgoingTo other =
      service.outgoingTo other ++
        if other ∈ p2pIDs then [({ p2pMessage with seq }.encode env.fw).2] else [] := by
  induction p2pIDs generalizing service p2pMessage with
  | nil => exact ⟨0, (List.append_nil _).symm⟩
  | cons p2pID p2pIDs ih =>
    obtain ⟨absent, apart⟩ := List.nodup_cons.mp distinct
    have first := linked p2pID List.mem_cons_self
    obtain ⟨numbered, renumbered⟩ := service.numbered_message p2pMessage
    have shared : (if p2pID ≠ service.nodeID ∧ service.connected p2pID then
        (service.numbered p2pMessage).1 else p2pMessage) = { p2pMessage with seq := numbered } := by
      rw [if_pos ⟨first.foreign, first.connected⟩, renumbered]
    have quiet := Service.quiet_asyncSendMessageByNodeID env service p2pID p2pMessage {} none none
    obtain ⟨seq, rest⟩ := ih { p2pMessage with seq := numbered } (quiet.named named) apart
      (fun peer member => Service.Linked.sent env named first p2pMessage {} none
        (linked peer (List.mem_cons_of_mem _ member)))
    have pushed := Service.outgoingTo_asyncSendMessageByNodeID env named first p2pMessage {} none
      other
    unfold sendToEach
    simp only [shared]
    rw [rest, pushed, renumbered]
    exact Service.sent_cons absent other (service.outgoingTo other)
      (fun seq => ({ p2pMessage with seq }.encode env.fw).2) numbered seq

end Gateway

end Sender

/-- A frame that a session with a peer reads whole is dispatched as a message of this peer. -/
theorem Service.receive_decoded {φ Key : Type} [DecidableEq φ] (env : Environment Key)
    {service : Service φ} (named : service.Named) {peer : P2pID} {object : Nat}
    (found : service.sessions.lookup peer = some object) {frame : Bytes} {result : Int}
    {message : P2PMessage} (decoded : P2PMessage.decode env.fw {} frame = .ok (result, message))
    (positive : result > 0) {manager : GatewayNodeManager φ} {actions : List (Action φ Key)}
    (dispatched : dispatch env service.msgHandlers service.manager peer message =
      .ok (manager, actions)) :
    service.receive env peer frame = actions := by
  obtain ⟨run, entry⟩ := named peer object found
  obtain ⟨p2pSession, present, same⟩ := Option.map_eq_some_iff.mp entry
  unfold receive
  rw [found, decoded]
  simp only
  rw [if_pos positive]
  rw [onMessage_alive env present (alive_of_stored found), (Prod.mk.inj same).1, dispatched]
  rfl

section Receiver

variable {φ Key : Type} [DecidableEq φ] {env : Environment Key} (groupID : StdString)
  (srcNodeID : Key) (payload : Bytes)

namespace Gateway

structure Carried (env : Environment Key) (groupID : StdString) (srcNodeID : Key) : Prop where
  group : groupID.length ≤ 65535
  src : 1 ≤ (env.keyFactory.encode srcNodeID).length ∧
    (env.keyFactory.encode srcNodeID).length ≤ 65535

theorem hasOptions_newBroadcastMessage (seq : UInt32) :
    (newBroadcastMessage env seq groupID srcNodeID payload).hasOptions env.fw = true := by
  simp [P2PMessage.hasOptions, newBroadcastMessage]

theorem encodable_newBroadcastMessage (seq : UInt32) :
    (newBroadcastMessage env seq groupID srcNodeID payload).Encodable env.fw ↔
      Carried env groupID srcNodeID := by
  constructor
  · intro valid
    obtain ⟨group, src, _, _⟩ := valid (hasOptions_newBroadcastMessage groupID srcNodeID payload seq)
    obtain ⟨_, least, most⟩ := P2PMessageOptions.validNodeID_some src
    exact ⟨group, least, most⟩
  · rintro ⟨group, src⟩ _
    exact ⟨group, validNodeID_of_length src, Nat.zero_le _, rfl⟩

theorem uniform_newBroadcastMessage (seq : UInt32) :
    (newBroadcastMessage env seq groupID srcNodeID payload).Uniform env.fw :=
  fun _ _ none => absurd none List.not_mem_nil

theorem frameLength_newBroadcastMessage (seq : UInt32) :
    (newBroadcastMessage env seq groupID srcNodeID payload).frameLength env.fw =
      19 + groupID.length + (env.keyFactory.encode srcNodeID).length + payload.length := by
  have block : (newBroadcastMessage env seq groupID srcNodeID payload).optionsBytes env.fw =
      (newBroadcastMessage env seq groupID srcNodeID payload).options.bytes :=
    if_pos (hasOptions_newBroadcastMessage groupID srcNodeID payload seq)
  have uniform : (newBroadcastMessage env seq groupID srcNodeID payload).options.UniformNodeIDs :=
    uniform_newBroadcastMessage groupID srcNodeID payload seq
      (hasOptions_newBroadcastMessage groupID srcNodeID payload seq)
  rw [P2PMessage.frameLength, block, P2PMessageOptions.bytes_length uniform]
  simp only [newBroadcastMessage, P2PMessageOptions.src, Option.getD_some, List.length_nil]
  omega

theorem dispatch_newBroadcastMessage (keys : ∀ key, env.keyFactory.createKey
    (env.keyFactory.encode key) = key) {msgHandlers : KeySet UInt16}
    (unhandled : env.fw.messageType.broadcastMessage ∉ msgHandlers)
    (manager : GatewayNodeManager φ) (p2pID : P2pID) (seq : UInt32) :
    Service.dispatch env msgHandlers manager p2pID
        ((newBroadcastMessage env seq groupID srcNodeID payload).received env.fw) =
      .ok (manager, onReceiveBroadcastMessage manager groupID srcNodeID payload) := by
  have options : ((newBroadcastMessage env seq groupID srcNodeID payload).received env.fw).options =
      (newBroadcastMessage env seq groupID srcNodeID payload).options :=
    if_pos (hasOptions_newBroadcastMessage groupID srcNodeID payload seq)
  have type : ((newBroadcastMessage env seq groupID srcNodeID payload).received env.fw).packetType =
      env.fw.messageType.broadcastMessage := rfl
  rw [Service.dispatch_broadcastMessage env (type ▸ unhandled) type, options]
  show Except.ok (manager, onReceiveBroadcastMessage manager groupID
    (env.keyFactory.createKey (env.keyFactory.encode srcNodeID)) payload) = _
  rw [keys]

variable (keys : ∀ key, env.keyFactory.createKey (env.keyFactory.encode key) = key)
  {service : Service φ} {peer : P2pID} {object : Nat}
  (found : service.sessions.lookup peer = some object)

include keys found

theorem receive_newBroadcastMessage (named : service.Named)
    (unhandled : env.fw.messageType.broadcastMessage ∉ service.msgHandlers)
    (carried : Carried env groupID srcNodeID)
    (sized : 19 + groupID.length + (env.keyFactory.encode srcNodeID).length + payload.length <
      2 ^ 32) (seq : UInt32) :
    service.receive env peer
        ((newBroadcastMessage env seq groupID srcNodeID payload).encode env.fw).2 =
      onReceiveBroadcastMessage service.manager groupID srcNodeID payload := by
  have valid := (encodable_newBroadcastMessage groupID srcNodeID payload seq).mpr carried
  have length : (newBroadcastMessage env seq groupID srcNodeID payload).frameLength env.fw = _ :=
    frameLength_newBroadcastMessage groupID srcNodeID payload seq
  have decoded := P2PMessage.decode_encode env.fw valid (length.trans_lt sized)
    (uniform_newBroadcastMessage groupID srcNodeID payload seq) []
  have total : ((newBroadcastMessage env seq groupID srcNodeID payload).encode env.fw).2.length =
      19 + groupID.length + (env.keyFactory.encode srcNodeID).length + payload.length := by
    rw [P2PMessage.encode_encodable _ _ valid, P2PMessage.frame_length, length]
  rw [List.append_nil] at decoded
  exact Service.receive_decoded env named found decoded (by omega)
    (dispatch_newBroadcastMessage groupID srcNodeID payload keys unhandled service.manager peer seq)

omit keys in
theorem receive_refused (refused : ¬ Carried env groupID srcNodeID) (seq : UInt32) :
    service.receive env peer
        ((newBroadcastMessage env seq groupID srcNodeID payload).encode env.fw).2 = [] := by
  have invalid : ¬ (newBroadcastMessage env seq groupID srcNodeID payload).Encodable env.fw :=
    fun valid => refused ((encodable_newBroadcastMessage groupID srcNodeID payload seq).mp valid)
  obtain ⟨malformed, decoded⟩ := P2PMessage.decode_encodeHeader env.fw
    (newBroadcastMessage env seq groupID srcNodeID payload)
    (hasOptions_newBroadcastMessage groupID srcNodeID payload seq)
  unfold Service.receive
  rw [P2PMessage.encode_refused _ _ invalid, found, decoded]
  simp only
  rw [if_neg (by decide)]

end Gateway

end Receiver

end BcosGateway

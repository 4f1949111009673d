import BcosGateway.Amop.Unicast
import BcosGateway.Gateway.ExactlyOnce

/-! A message to all clients of a topic, and how often each of them gets it. -/

namespace BcosGateway

structure TopicGateway (φ : Type) where
  service : Service φ
  clients : TopicClients

structure BroadcastNotice where
  client : StdString
  topic : StdString
  data : Bytes
  deriving DecidableEq, Repr

namespace AMOPImpl

variable {φ Key : Type} (env : Environment Key)

/-- `callback` is what wraps the null callback of the send to each node. -/
def asyncSendBroadbastMessageByTopic (gateway : TopicGateway φ) (callback : P2pID → Nat)
    (topic : StdString) (data : Bytes) : TopicGateway φ :=
  let nodeIDs := gateway.clients.topics.queryNodeIDsByTopic gateway.service.connected topic
  if nodeIDs.isEmpty then gateway
  else
    { gateway with
      service := gateway.service.asyncSendMessageByP2PNodeIDs env
        env.fw.messageType.amopMessageType nodeIDs
        (buildAndEncodeMessage AMOPMessage.Kind.amopBroadcast data) {} callback }

variable (stringToProxy : StdString → Bool) (buildRequest : Bytes → StdString)

def pushToClient (topic : StdString) (data : Bytes)
    (state : TopicClients × List BroadcastNotice) (client : StdString) :
    TopicClients × List BroadcastNotice :=
  let (clientService, clients) := state.1.createAndGetServiceByClient (stringToProxy client) client
  if clientService then (clients, state.2 ++ [⟨client, topic, data⟩]) else (clients, state.2)

def onReceiveAMOPBroadcastMessage (clients : TopicClients) (message : AMOPMessage) :
    TopicClients × List BroadcastNotice :=
  let topic := buildRequest message.data
  (clients.topics.queryClientsByTopic topic).foldl (pushToClient stringToProxy topic message.data)
    (clients, [])

end AMOPImpl

namespace TopicGateway

variable {φ Key : Type} [DecidableEq φ] (env : Environment Key)
  (lexicalCast : StdString → Option UInt32) (stringToProxy : StdString → Bool)
  (buildRequest : Bytes → StdString) (gateway : TopicGateway φ)

def notices : AMOPAction → List BroadcastNotice
  | .onReceiveAMOPBroadcastMessage _ message =>
    (AMOPImpl.onReceiveAMOPBroadcastMessage stringToProxy buildRequest gateway.clients message).2
  | .asyncSendMessageByP2PNodeID _ _ | .onReceiveAMOPMessage _ _ => []

def notified (peer : P2pID) (frame : Bytes) : List BroadcastNotice :=
  (gateway.service.receive env peer frame).flatMap fun
    | .handler message =>
      (AMOPImpl.dispatcherAMOPMessage (env.amop lexicalCast) gateway.clients.topics peer
        message).2.flatMap (notices stringToProxy buildRequest gateway)
    | _ => []

end TopicGateway

def TopicClients.Served (stringToProxy : StdString → Bool) (clients : TopicClients)
    (client : StdString) : Prop :=
  client ∈ clients.clientInfo ∨ stringToProxy client

instance (stringToProxy : StdString → Bool) (clients : TopicClients) (client : StdString) :
    Decidable (clients.Served stringToProxy client) := inferInstanceAs (Decidable (_ ∨ _))

section Receiver

namespace AMOPImpl

variable (stringToProxy : StdString → Bool) (buildRequest : Bytes → StdString)
  (clients : TopicClients)

theorem createAndGetServiceByClient_served (client : StdString) :
    ((clients.createAndGetServiceByClient (stringToProxy client) client).1 = true ↔
      clients.Served stringToProxy client) ∧
    ∀ other, (clients.createAndGetServiceByClient (stringToProxy client) client).2.Served
        stringToProxy other ↔ clients.Served stringToProxy other := by
  unfold TopicClients.createAndGetServiceByClient TopicClients.Served
  by_cases has : client ∈ clients.clientInfo
  · rw [if_pos has]
    exact ⟨iff_of_true rfl (.inl has), fun _ => Iff.rfl⟩
  rw [if_neg has]
  by_cases made : stringToProxy client = true
  · rw [if_pos made]
    refine ⟨iff_of_true rfl (.inr made), fun other => ?_⟩
    simp only [AList.mem_insert]
    constructor
    · rintro ((rfl | has) | makes)
      · exact .inr made
      · exact .inl has
      · exact .inr makes
    · rintro (has | makes)
      · exact .inl (.inr has)
      · exact .inr makes
  · rw [if_neg made]
    exact ⟨iff_of_false Bool.false_ne_true (not_or.mpr ⟨has, made⟩), fun _ => Iff.rfl⟩

/-- Every client of the list that has a service is notified, whatever services are made on the
    way. -/
theorem foldl_pushToClient (topic : StdString) (data : Bytes) (subscribed : List StdString)
    (notices : List BroadcastNotice) :
    (subscribed.foldl (pushToClient stringToProxy topic data) (clients, notices)).2 =
      notices ++ (subscribed.filter fun client => clients.Served stringToProxy client).map
        fun client => ⟨client, topic, data⟩ := by
  induction subscribed generalizing clients notices with
  | nil => exact (List.append_nil _).symm
  | cons client subscribed ih =>
    obtain ⟨made, others⟩ := createAndGetServiceByClient_served stringToProxy clients client
    have rest : (subscribed.filter fun other =>
        (clients.createAndGetServiceByClient (stringToProxy client) client).2.Served stringToProxy
          other) = subscribed.filter fun other => clients.Served stringToProxy other := by
      simp only [others]
    rw [List.foldl_cons, pushToClient]
    simp only
    by_cases served : clients.Served stringToProxy client
    · rw [if_pos (made.mpr served), ih, rest, List.filter_cons, if_pos (decide_eq_true served),
        List.map_cons, List.append_assoc]
      rfl
    · rw [if_neg (mt made.mp served), ih, rest, List.filter_cons,
        if_neg (mt of_decide_eq_true served)]

theorem onReceiveAMOPBroadcastMessage_notices (message : AMOPMessage) :
    (onReceiveAMOPBroadcastMessage stringToProxy buildRequest clients message).2 =
      ((clients.topics.queryClientsByTopic (buildRequest message.data)).filter
          fun client => clients.Served stringToProxy client).map
        fun client => ⟨client, buildRequest message.data, message.data⟩ :=
  foldl_pushToClient stringToProxy clients (buildRequest message.data) message.data _ []

end AMOPImpl

namespace AMOPImpl

variable (env : AMOPEnvironment) (topicManager : TopicManager) (nodeID : P2pID) (data : Bytes)

def broadcastMessage (seq : UInt32) : P2PMessage where
  packetType := env.fw.messageType.amopMessageType
  seq := seq
  payload := buildAndEncodeMessage AMOPMessage.Kind.amopBroadcast data

theorem dispatcher_broadcastMessage (seq : UInt32) :
    dispatcherAMOPMessage env topicManager nodeID
        ((broadcastMessage env data seq).received env.fw) =
      (topicManager, [.onReceiveAMOPBroadcastMessage nodeID
        { type := AMOPMessage.Kind.amopBroadcast, data }]) := by
  have type : ((broadcastMessage env data seq).received env.fw).packetType =
      env.fw.messageType.amopMessageType := rfl
  have payload : ((broadcastMessage env data seq).received env.fw).payload =
      buildAndEncodeMessage AMOPMessage.Kind.amopBroadcast data := rfl
  rw [dispatcher_clientMessage type payload (by decide), if_neg (by decide), if_pos rfl]

end AMOPImpl

variable {φ Key : Type} [DecidableEq φ] (env : Environment Key)
  (lexicalCast : StdString → Option UInt32) (stringToProxy : StdString → Bool)
  (buildRequest : Bytes → StdString) {gateway : TopicGateway φ}

/-- A broadcast notifies the clients of its topic that have a service. -/
theorem TopicGateway.notified_broadcastMessage (named : gateway.service.Named) {peer : P2pID}
    {object : Nat} (found : gateway.service.sessions.lookup peer = some object)
    (handler : env.fw.messageType.amopMessageType ∈ gateway.service.msgHandlers) {data : Bytes}
    (sized : 18 + data.length < 2 ^ 32) (seq : UInt32) :
    gateway.notified env lexicalCast stringToProxy buildRequest peer
        ((AMOPImpl.broadcastMessage (env.amop lexicalCast) data seq).encode env.fw).2 =
      ((gateway.clients.topics.queryClientsByTopic (buildRequest data)).filter
          fun client => gateway.clients.Served stringToProxy client).map
        fun client => ⟨client, buildRequest data, data⟩ := by
  let message := AMOPImpl.broadcastMessage (env.amop lexicalCast) data seq
  have payload : 14 + message.payload.length < 2 ^ 32 := by
    show 14 + (AMOPMessage.encode { type := AMOPMessage.Kind.amopBroadcast, data }).length < 2 ^ 32
    simp only [AMOPMessage.encode_length]
    omega
  have plain : message.hasOptions (env.amop lexicalCast).fw.toFramework = false :=
    AMOPImpl.hasOptions_amop rfl
  have decoded := P2PMessage.decode_encode_plain env.fw plain payload []
  have positive : ((message.encode env.fw).2.length : Int) > 0 := by
    have least := message.headerLength_le_encode env.fw
    omega
  have dispatched : Service.dispatch env gateway.service.msgHandlers gateway.service.manager peer
      (message.received env.fw) =
        .ok (gateway.service.manager, [.handler (message.received env.fw)]) := by
    unfold Service.dispatch
    rw [if_pos (show (message.received env.fw).packetType ∈ _ from handler)]
    rfl
  have handled : AMOPImpl.dispatcherAMOPMessage (env.amop lexicalCast) gateway.clients.topics peer
      (message.received env.fw) = (gateway.clients.topics, [.onReceiveAMOPBroadcastMessage peer
        { type := AMOPMessage.Kind.amopBroadcast, data }]) :=
    AMOPImpl.dispatcher_broadcastMessage (env.amop lexicalCast) gateway.clients.topics peer data seq
  rw [List.append_nil] at decoded
  unfold notified
  rw [Service.receive_decoded env named found decoded positive dispatched]
  simp only [List.flatMap_cons, List.flatMap_nil, List.append_nil]
  rw [handled]
  simp only [List.flatMap_cons, List.flatMap_nil, List.append_nil]
  exact AMOPImpl.onReceiveAMOPBroadcastMessage_notices stringToProxy buildRequest gateway.clients _

end Receiver

abbrev TopicNetwork (φ : Type) := Table P2pID (TopicGateway φ)

def TopicGateway.Subscribes {φ : Type} (gateway : TopicGateway φ) (topic client : StdString) : Prop :=
  ∃ items, gateway.clients.topics.client2TopicItems.lookup client = some items ∧ topic ∈ items

instance {φ : Type} (gateway : TopicGateway φ) (topic client : StdString) :
    Decidable (gateway.Subscribes topic client) :=
  decidable_of_iff _ (gateway.clients.topics.mem_queryClientsByTopic topic client)

namespace TopicNetwork

variable {φ Key : Type} (env : Environment Key) (network : TopicNetwork φ)

structure Meshed : Prop where
  named : ∀ p2pID gateway, network.lookup p2pID = some gateway → gateway.service.Named
  linked : ∀ p2pID gateway, network.lookup p2pID = some gateway → ∀ peer ∈ network,
    peer ≠ p2pID → gateway.service.Linked peer
  handler : ∀ p2pID gateway, network.lookup p2pID = some gateway →
    env.fw.messageType.amopMessageType ∈ gateway.service.msgHandlers

def InSync : Prop := ∀ p2pID gateway, network.lookup p2pID = some gateway → ∀ peer topic,
  (∃ items, gateway.clients.topics.nodeID2TopicItems.lookup peer = some items ∧ topic ∈ items) ↔
    peer ≠ p2pID ∧ ∃ other, network.lookup peer = some other ∧
      topic ∈ other.clients.topics.topicItems

variable [DecidableEq φ] (lexicalCast : StdString → Option UInt32)
  (stringToProxy : StdString → Bool) (buildRequest : Bytes → StdString) (callback : P2pID → Nat)
  (origin : P2pID) (topic : StdString) (data : Bytes)

def broadcast : List (P2pID × BroadcastNotice) :=
  match network.lookup origin with
  | none => []
  | some gateway =>
    let sender := AMOPImpl.asyncSendBroadbastMessageByTopic env gateway callback topic data
    network.entries.flatMap fun receiver =>
      ((sender.service.outgoingTo receiver.1).drop
          (gateway.service.outgoingTo receiver.1).length).flatMap fun frame =>
        (receiver.2.notified env lexicalCast stringToProxy buildRequest origin frame).map
          (Prod.mk receiver.1)

def received (client : StdString) : Nat :=
  (network.broadcast env lexicalCast stringToProxy buildRequest callback origin topic data).countP
    fun notice => notice.2 = ⟨client, topic, data⟩

section Received

variable {network origin}

omit [DecidableEq φ] in
theorem mem_queryNodeIDs {env : Environment Key} (meshed : network.Meshed env) (inSync : network.InSync)
    {sender : TopicGateway φ} (sends : network.lookup origin = some sender) (p2pID : P2pID) :
    p2pID ∈ sender.clients.topics.queryNodeIDsByTopic sender.service.connected topic ↔
      p2pID ≠ origin ∧ ∃ other, network.lookup p2pID = some other ∧
        topic ∈ other.clients.topics.topicItems := by
  rw [TopicManager.mem_queryNodeIDsByTopic, inSync origin sender sends p2pID topic]
  refine and_iff_right_of_imp fun ⟨other, gateway, found, _⟩ => ?_
  exact (meshed.linked origin sender sends p2pID
    (AList.lookup_isSome.mp (by rw [found]; rfl)) other).connected

omit [DecidableEq φ] in
theorem outgoingTo_asyncSendBroadbastMessageByTopic {gateway : TopicGateway φ}
    (named : gateway.service.Named)
    (linked : ∀ nodeID ∈ gateway.clients.topics.queryNodeIDsByTopic gateway.service.connected topic,
      gateway.service.Linked nodeID) (other : P2pID) :
    ∃ seq, (AMOPImpl.asyncSendBroadbastMessageByTopic env gateway callback topic
        data).service.outgoingTo other =
      gateway.service.outgoingTo other ++
        if other ∈ gateway.clients.topics.queryNodeIDsByTopic gateway.service.connected topic then
          [((AMOPImpl.broadcastMessage (env.amop lexicalCast) data seq).encode env.fw).2]
        else [] := by
  unfold AMOPImpl.asyncSendBroadbastMessageByTopic
  simp only
  split
  · rename_i empty
    refine ⟨0, ?_⟩
    rw [List.isEmpty_iff.mp empty, if_neg List.not_mem_nil, List.append_nil]
  · exact Service.outgoingTo_asyncSendMessageByP2PNodeIDs env env.fw.messageType.amopMessageType
      (AMOPImpl.buildAndEncodeMessage AMOPMessage.Kind.amopBroadcast data) {} callback named
      (gateway.clients.topics.queryNodeIDsByTopic_nodup _ topic) linked other

theorem countP_notices {subscribed : List StdString} (distinct : subscribed.Nodup) (p2pID : P2pID)
    (client : StdString) :
    ((subscribed.map fun client => (⟨client, topic, data⟩ : BroadcastNotice)).map
        (Prod.mk p2pID)).countP (fun notice => notice.2 = ⟨client, topic, data⟩) =
      if client ∈ subscribed then 1 else 0 := by
  have same : (fun notice : P2pID × BroadcastNotice => decide (notice.2 = ⟨client, topic, data⟩)) ∘
      Prod.mk p2pID ∘ (fun client => (⟨client, topic, data⟩ : BroadcastNotice)) =
        fun other => other == client := by
    funext other
    simp only [Function.comp_apply, BroadcastNotice.mk.injEq, and_true, beq_eq_decide]
  rw [List.map_map, List.countP_map, same]
  exact distinct.count

/-- What is counted for a client at a gateway: one notice, if it is a peer of the sender where the
    client subscribes. -/
theorem countP_notified (sized : 18 + data.length < 2 ^ 32) (encodes : buildRequest data = topic)
    (meshed : network.Meshed env) (inSync : network.InSync) {sender receiver : TopicGateway φ}
    (sends : network.lookup origin = some sender) {p2pID : P2pID}
    (found : network.lookup p2pID = some receiver) (client : StdString) :
    ((((AMOPImpl.asyncSendBroadbastMessageByTopic env sender callback topic
          data).service.outgoingTo p2pID).drop (sender.service.outgoingTo p2pID).length).flatMap
        fun frame => (receiver.notified env lexicalCast stringToProxy buildRequest origin
          frame).map (Prod.mk p2pID)).countP (fun notice => notice.2 = ⟨client, topic, data⟩) =
      if p2pID ≠ origin ∧ receiver.Subscribes topic client ∧
        receiver.clients.Served stringToProxy client then 1 else 0 := by
  have queried (nodeID : P2pID) := mem_queryNodeIDs topic meshed inSync sends nodeID
  have present {nodeID : P2pID} {gateway : TopicGateway φ}
      (stored : network.lookup nodeID = some gateway) : nodeID ∈ network :=
    AList.lookup_isSome.mp (by rw [stored]; rfl)
  obtain ⟨seq, pushed⟩ := outgoingTo_asyncSendBroadbastMessageByTopic env lexicalCast callback topic
    data (meshed.named origin sender sends) (fun nodeID asked => by
      obtain ⟨other, gateway, stored, _⟩ := (queried nodeID).mp asked
      exact meshed.linked origin sender sends nodeID (present stored) other) p2pID
  rw [pushed, List.drop_left]
  by_cases asked : p2pID ∈
      sender.clients.topics.queryNodeIDsByTopic sender.service.connected topic
  · obtain ⟨other, _⟩ := (queried p2pID).mp asked
    obtain ⟨object, held, _⟩ := Service.connected_iff.mp
      (meshed.linked p2pID receiver found origin (present sends) (Ne.symm other)).connected
    rw [if_pos asked, List.flatMap_singleton,
      TopicGateway.notified_broadcastMessage env lexicalCast stringToProxy buildRequest
        (meshed.named p2pID receiver found) held (meshed.handler p2pID receiver found) sized seq,
      encodes, countP_notices topic data
        ((receiver.clients.topics.queryClientsByTopic_nodup topic).filter _)]
    refine if_congr ?_ rfl rfl
    rw [List.mem_filter, TopicManager.mem_queryClientsByTopic, decide_eq_true_eq,
      and_iff_right other]
    rfl
  · rw [if_neg asked, if_neg]
    · rfl
    · rintro ⟨other, ⟨items, subscribes, member⟩, _⟩
      exact asked ((queried p2pID).mpr ⟨other, receiver, found,
        (receiver.clients.topics.mem_topicItems topic).mpr ⟨client, items, subscribes, member⟩⟩)

def Reaches (network : TopicNetwork φ) (stringToProxy : StdString → Bool) (origin : P2pID)
    (topic client : StdString) (p2pID : P2pID) : Prop :=
  p2pID ≠ origin ∧ ∃ gateway, network.lookup p2pID = some gateway ∧
    gateway.Subscribes topic client ∧ gateway.clients.Served stringToProxy client

theorem received_eq (sized : 18 + data.length < 2 ^ 32) (encodes : buildRequest data = topic)
    (meshed : network.Meshed env) (inSync : network.InSync) (present : origin ∈ network)
    (client : StdString) :
    network.received env lexicalCast stringToProxy buildRequest callback origin topic data client =
      network.entries.countP fun receiver => receiver.1 ≠ origin ∧
        receiver.2.Subscribes topic client ∧ receiver.2.clients.Served stringToProxy client := by
  obtain ⟨sender, sends⟩ := Option.isSome_iff_exists.mp (AList.lookup_isSome.mpr present)
  unfold received broadcast
  rw [sends]
  apply countP_flatMap_of_each
  rintro ⟨p2pID, receiver⟩ member
  refine (countP_notified env lexicalCast stringToProxy buildRequest callback topic data sized encodes
    meshed inSync sends (AList.mem_lookup_iff.mpr member) client).trans ?_
  simp only [decide_eq_true_eq]

/-- A client receives the broadcast as often as there are peers of the sender where it subscribes. -/
theorem received_eq_one_iff (sized : 18 + data.length < 2 ^ 32)
    (encodes : buildRequest data = topic) (meshed : network.Meshed env) (inSync : network.InSync)
    (present : origin ∈ network) (client : StdString) :
    network.received env lexicalCast stringToProxy buildRequest callback origin topic data client = 1 ↔
      ∃! p2pID, network.Reaches stringToProxy origin topic client p2pID := by
  rw [received_eq env lexicalCast stringToProxy buildRequest callback topic data sized encodes meshed
    inSync present]
  have counted := Table.countP_eq_one_iff network fun p2pID gateway => decide (p2pID ≠ origin ∧
    gateway.Subscribes topic client ∧ gateway.clients.Served stringToProxy client)
  refine counted.trans ⟨?_, ?_⟩
  · rintro ⟨p2pID, gateway, found, reached, unique⟩
    obtain ⟨other, subscribes⟩ := of_decide_eq_true reached
    refine ⟨p2pID, ⟨other, gateway, found, subscribes⟩, ?_⟩
    rintro another ⟨apart, also, lookup, reaches⟩
    exact unique another also lookup (decide_eq_true ⟨apart, reaches⟩)
  · rintro ⟨p2pID, ⟨other, gateway, found, subscribes⟩, unique⟩
    refine ⟨p2pID, gateway, found, decide_eq_true ⟨other, subscribes⟩, ?_⟩
    intro another also lookup reached
    obtain ⟨apart, reaches⟩ := of_decide_eq_true reached
    exact unique another ⟨apart, also, lookup, reaches⟩

def EverySubscriberOnce (network : TopicNetwork φ) (origin : P2pID) : Prop :=
  ∀ client,
    ((∃ p2pID gateway, network.lookup p2pID = some gateway ∧ gateway.Subscribes topic client) →
      network.received env lexicalCast stringToProxy buildRequest callback origin topic data
        client = 1) ∧
    ((∀ p2pID gateway, network.lookup p2pID = some gateway → ¬ gateway.Subscribes topic client) →
      network.received env lexicalCast stringToProxy buildRequest callback origin topic data
        client = 0)

/-- A broadcast about a topic is received once by all of its clients if and only if each of them
    subscribes it at one peer of the sender, wherever else it does. -/
theorem everySubscriberOnce_iff (sized : 18 + data.length < 2 ^ 32)
    (encodes : buildRequest data = topic) (meshed : network.Meshed env) (inSync : network.InSync)
    (present : origin ∈ network) :
    EverySubscriberOnce env lexicalCast stringToProxy buildRequest callback topic data network
        origin ↔
      ∀ client,
        (∃ p2pID gateway, network.lookup p2pID = some gateway ∧
          gateway.Subscribes topic client) →
          ∃! p2pID, network.Reaches stringToProxy origin topic client p2pID := by
  refine forall_congr' fun client => ?_
  rw [received_eq_one_iff env lexicalCast stringToProxy buildRequest callback topic data sized encodes
    meshed inSync present]
  refine and_iff_left_of_imp fun _ none => ?_
  rw [received_eq env lexicalCast stringToProxy buildRequest callback topic data sized encodes meshed
    inSync present]
  refine List.countP_eq_zero.mpr fun receiver member reached => ?_
  obtain ⟨_, subscribes, _⟩ := of_decide_eq_true reached
  exact none receiver.1 receiver.2 (AList.mem_lookup_iff.mpr member) subscribes

end Received

section Pair

def topicGateway (p2pID peer : P2pID) (client : StdString) (own peers : TopicItems) :
    TopicGateway Nat where
  service :=
    { Network.gateway p2pID peer 0 [48] [49] with
      msgHandlers := (∅ : KeySet UInt16).insert
        (Environment.reading .null).fw.messageType.amopMessageType () }
  clients :=
    { ({} : TopicClients).subTopic true client own with
      topics := (({} : TopicClients).subTopic true client own).topics.updateSeqAndTopicsByNodeID
        peer 2 peers }

def topicPair (first second : TopicItems) : TopicNetwork Nat :=
  ((∅ : TopicNetwork Nat).insert [97] (topicGateway [97] [98] [99] first second)).insert [98]
    (topicGateway [98] [97] [100] second first)

variable (first second : TopicItems)

theorem topicGateway_subscribes (p2pID peer : P2pID) (client : StdString) (own peers : TopicItems)
    (topic other : StdString) :
    (topicGateway p2pID peer client own peers).Subscribes topic other ↔
      other = client ∧ topic ∈ own := by
  have lookup : (topicGateway p2pID peer client own
      peers).clients.topics.client2TopicItems.lookup other = if other = client then some own else
        none := Table.lookup_insert_if client other own ∅
  unfold TopicGateway.Subscribes
  rw [lookup]
  by_cases same : other = client
  · simp [same]
  · simp [same]

theorem topicGateway_topicItems (p2pID peer : P2pID) (client : StdString) (own peers : TopicItems)
    (topic : StdString) :
    topic ∈ (topicGateway p2pID peer client own peers).clients.topics.topicItems ↔ topic ∈ own := by
  rw [TopicManager.mem_topicItems]
  have subscribed := topicGateway_subscribes p2pID peer client own peers topic
  exact (exists_congr subscribed).trans ⟨fun ⟨_, _, member⟩ => member, fun member => ⟨client, rfl,
    member⟩⟩

theorem topicPair_lookup (p2pID : P2pID) (gateway : TopicGateway Nat) :
    (topicPair first second).lookup p2pID = some gateway ↔
      (p2pID = [98] ∧ gateway = topicGateway [98] [97] [100] second first) ∨
        (p2pID = [97] ∧ gateway = topicGateway [97] [98] [99] first second) := by
  rw [topicPair, Table.lookup_insert_if, Table.lookup_insert_if]
  by_cases isSecond : p2pID = [98]
  · simp [isSecond, eq_comm]
  · by_cases isFirst : p2pID = [97]
    · simp [isFirst, eq_comm]
    · simp [isSecond, isFirst]

theorem topicGateway_linked {p2pID peer : P2pID} (apart : peer ≠ p2pID) (client : StdString)
    (own peers : TopicItems) : (topicGateway p2pID peer client own peers).service.Linked peer := by
  have linked := Network.gateway_linked apart 0 [48] [49]
  exact ⟨linked.foreign, linked.connected, linked.active⟩

theorem topicPair_meshed : (topicPair first second).Meshed (Environment.reading .null) := by
  constructor
  · intro p2pID gateway found
    rcases (topicPair_lookup first second p2pID gateway).mp found with ⟨rfl, rfl⟩ | ⟨rfl, rfl⟩
    · exact Network.gateway_named [98] [97] 0 [48] [49]
    · exact Network.gateway_named [97] [98] 0 [48] [49]
  · intro p2pID gateway found peer member other
    obtain ⟨there, held⟩ := Option.isSome_iff_exists.mp (AList.lookup_isSome.mpr member)
    have peers := (topicPair_lookup first second peer there).mp held
    rcases (topicPair_lookup first second p2pID gateway).mp found with ⟨rfl, rfl⟩ | ⟨rfl, rfl⟩
    · obtain ⟨rfl, _⟩ := peers.resolve_left fun same => other same.1
      exact topicGateway_linked (show ([97] : P2pID) ≠ [98] by decide) [100] second first
    · obtain ⟨rfl, _⟩ := peers.resolve_right fun same => other same.1
      exact topicGateway_linked (show ([98] : P2pID) ≠ [97] by decide) [99] first second
  · intro p2pID gateway found
    rcases (topicPair_lookup first second p2pID gateway).mp found with ⟨rfl, rfl⟩ | ⟨rfl, rfl⟩
    · exact (AList.mem_insert _).mpr (.inl rfl)
    · exact (AList.mem_insert _).mpr (.inl rfl)

theorem topicPair_inSync : (topicPair first second).InSync := by
  intro p2pID gateway found peer topic
  have known (own other : P2pID) (client : StdString) (items peers : TopicItems) :
      (∃ stored, (topicGateway own other client items
        peers).clients.topics.nodeID2TopicItems.lookup peer = some stored ∧ topic ∈ stored) ↔
        peer = other ∧ topic ∈ peers := by
    have lookup : (topicGateway own other client items
        peers).clients.topics.nodeID2TopicItems.lookup peer = if peer = other then some peers else
          none := Table.lookup_insert_if other peer peers ∅
    rw [lookup]
    by_cases same : peer = other
    · simp [same]
    · simp [same]
  have others (topicItems : TopicGateway Nat → Prop) :
      (∃ other, (topicPair first second).lookup peer = some other ∧ topicItems other) ↔
        (peer = [98] ∧ topicItems (topicGateway [98] [97] [100] second first)) ∨
          (peer = [97] ∧ topicItems (topicGateway [97] [98] [99] first second)) := by
    simp only [topicPair_lookup]
    grind
  rw [others]
  simp only [topicGateway_topicItems]
  rcases (topicPair_lookup first second p2pID gateway).mp found with ⟨rfl, rfl⟩ | ⟨rfl, rfl⟩
  · rw [known]
    grind
  · rw [known]
    grind

end Pair

theorem ownSubscriber_misses :
    ¬ ∀ network : TopicNetwork Nat, network.Meshed (Environment.reading .null) → network.InSync →
      ∀ origin ∈ network, EverySubscriberOnce (Environment.reading .null) decimal (fun _ => true)
        (fun _ => [116]) (fun _ => 0) [116] [1] network origin := by
  intro once
  have received := (once (topicPair {[116]} {[116]}) (topicPair_meshed _ _) (topicPair_inSync _ _)
    [97] (by decide) [99]).1 ⟨[97], topicGateway [97] [98] [99] {[116]} {[116]}, rfl,
      (topicGateway_subscribes _ _ _ _ _ _ _).mpr ⟨rfl, by decide⟩⟩
  exact absurd received (by decide)

theorem peerSubscriber_once :
    EverySubscriberOnce (Environment.reading .null) decimal (fun _ => true) (fun _ => [116])
      (fun _ => 0) [116] [1] (topicPair ∅ {[116]}) [97] := by
  refine (everySubscriberOnce_iff (Environment.reading .null) decimal (fun _ => true)
    (fun _ => [116]) (fun _ => 0) [116] [1] (by decide) rfl (topicPair_meshed _ _)
    (topicPair_inSync _ _) (by decide)).mpr ?_
  rintro client ⟨p2pID, gateway, found, subscribes⟩
  rcases (topicPair_lookup _ _ p2pID gateway).mp found with ⟨rfl, rfl⟩ | ⟨rfl, rfl⟩
  · refine ⟨[98], ⟨by decide, _, found, subscribes, .inr rfl⟩, ?_⟩
    rintro other ⟨apart, _, held, _⟩
    rcases (topicPair_lookup _ _ other _).mp held with ⟨rfl, _⟩ | ⟨rfl, _⟩
    · rfl
    · exact absurd rfl apart
  · obtain ⟨_, member⟩ := (topicGateway_subscribes _ _ _ _ _ _ _).mp subscribes
    exact absurd member (by decide)

end TopicNetwork

end BcosGateway

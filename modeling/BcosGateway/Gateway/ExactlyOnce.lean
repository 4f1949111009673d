import BcosGateway.Gateway.Broadcast
import BcosGateway.NodeManager.Announcements
import Mathlib.Data.List.Dedup

/-! A broadcast among connected gateways, and how often each node of the group receives it. -/

namespace BcosGateway

theorem countP_flatMap_of_each {α β : Type*} {l : List α} {f : α → List β} {counted : β → Bool}
    {holds : α → Bool} (each : ∀ a ∈ l, (f a).countP counted = if holds a then 1 else 0) :
    (l.flatMap f).countP counted = l.countP holds := by
  induction l with
  | nil => rfl
  | cons a l ih =>
    rw [List.flatMap_cons, List.countP_append, each a List.mem_cons_self,
      ih fun b member => each b (List.mem_cons_of_mem _ member), List.countP_cons, Nat.add_comm]

abbrev Network (φ : Type) := Table P2pID (Service φ)

namespace Gateway

variable {φ Key : Type} (env : Environment Key) {service : Service φ} (groupID : StdString)
  (srcNodeID : Key) (payload : Bytes)

theorem outgoingTo_asyncSendBroadcastMessage (named : service.Named)
    (linked : ∀ p2pID ∈ (service.manager.queryP2pIDsByGroupID groupID ∅).2, service.Linked p2pID)
    (other : P2pID) :
    ∃ seq, (asyncSendBroadcastMessage env service groupID srcNodeID payload).1.outgoingTo other =
      service.outgoingTo other ++
        if other ∈ (service.manager.queryP2pIDsByGroupID groupID ∅).2 then
          [((newBroadcastMessage env seq groupID srcNodeID payload).encode env.fw).2]
        else [] := by
  unfold asyncSendBroadcastMessage GatewayNodeManager.queryP2pIDsByGroupID at *
  cases outer : service.manager.peerGatewayNodes.lookup groupID with
  | none => exact ⟨0, (List.append_nil _).symm⟩
  | some nodes =>
    rw [outer] at linked
    simp only at linked ⊢
    obtain ⟨seq, pushed⟩ := outgoingTo_sendToEach env
      (newBroadcastMessage env service.newSeq.1 groupID srcNodeID payload)
      ((Service.quiet_newSeq service).named named) (AList.keys_nodup _)
      (fun p2pID member => by
        obtain ⟨foreign, connected, active⟩ := linked p2pID (AList.mem_keys.mpr member)
        exact ⟨foreign, connected, active⟩) other
    refine ⟨seq, pushed.trans ?_⟩
    simp only [AList.mem_keys]
    rfl

theorem actions_asyncSendBroadcastMessage :
    (asyncSendBroadcastMessage env service groupID srcNodeID payload).2 =
      (service.manager.group groupID).values.map fun info =>
        .onReceiveMessage info.frontService groupID srcNodeID payload none := by
  have actions : (asyncSendBroadcastMessage env service groupID srcNodeID payload).2 =
      (asyncBroadcastMessageToLocalNodes service.manager groupID srcNodeID payload).2 := by
    unfold asyncSendBroadcastMessage
    simp only
    split
    · rfl
    · rfl
  rw [actions]
  unfold asyncBroadcastMessageToLocalNodes
  simp only
  split
  · rename_i empty
    rw [Table.values, List.length_eq_zero_iff.mp empty]
    rfl
  · rfl

end Gateway

namespace Network

variable {φ Key : Type} (env : Environment Key) (network : Network φ)

def host (groupID nodeID : StdString) (p2pID : P2pID) : Option φ :=
  (network.lookup p2pID).bind fun service =>
    service.manager.queryFrontServiceInterfaceByGroupIDAndNodeID groupID nodeID

theorem host_eq {network : Network φ} {groupID nodeID : StdString} {p2pID : P2pID}
    {service : Service φ} (found : network.lookup p2pID = some service) :
    network.host groupID nodeID p2pID =
      ((service.manager.group groupID).lookup nodeID).map FrontServiceInfo.frontService := by
  rw [host, found]
  rfl

/-- Every two gateways have a session. A gateway registers a message handler for AMOP only. -/
structure Meshed : Prop where
  nodeID : ∀ p2pID service, network.lookup p2pID = some service → service.nodeID = p2pID
  named : ∀ p2pID service, network.lookup p2pID = some service → service.Named
  linked : ∀ p2pID service, network.lookup p2pID = some service → ∀ peer ∈ network,
    peer ≠ p2pID → service.Linked peer
  handlers : ∀ p2pID service, network.lookup p2pID = some service → ∀ type ∈ service.msgHandlers,
    type = env.fw.messageType.amopMessageType

def InSync : Prop := ∀ p2pID service, network.lookup p2pID = some service →
  ∀ groupID nodeID peer, service.manager.peerGatewayNodes.Holds groupID nodeID peer ↔
    peer ≠ p2pID ∧ (network.host groupID nodeID peer).isSome

variable [DecidableEq φ]

def broadcast (origin : P2pID) (groupID : StdString) (srcNodeID : Key) (payload : Bytes) :
    List (P2pID × Action φ Key) :=
  match network.lookup origin with
  | none => []
  | some service =>
    let (sender, actions) :=
      Gateway.asyncSendBroadcastMessage env service groupID srcNodeID payload
    actions.map (Prod.mk origin) ++ network.entries.flatMap fun gateway =>
      ((sender.outgoingTo gateway.1).drop (service.outgoingTo gateway.1).length).flatMap fun frame =>
        (gateway.2.receive env origin frame).map (Prod.mk gateway.1)

section Received

variable [DecidableEq Key] (groupID : StdString) (srcNodeID : Key) (payload : Bytes)

def reaches (nodeID : StdString) (delivery : P2pID × Action φ Key) : Bool :=
  match network.host groupID nodeID delivery.1 with
  | none => false
  | some frontService =>
    delivery.2 = .onReceiveMessage frontService groupID srcNodeID payload none

def received (origin : P2pID) (nodeID : StdString) : Nat :=
  (network.broadcast env origin groupID srcNodeID payload).countP
    (network.reaches groupID srcNodeID payload nodeID)

variable {network groupID srcNodeID payload} {origin p2pID : P2pID} {nodeID : StdString}
  {service : Service φ}

theorem countP_reaches (fronts : List φ) :
    (fronts.map fun frontService => (p2pID, (.onReceiveMessage frontService groupID srcNodeID
        payload none : Action φ Key))).countP (network.reaches groupID srcNodeID payload nodeID) =
      match network.host groupID nodeID p2pID with
      | none => 0
      | some frontService => fronts.count frontService := by
  rw [List.countP_map]
  unfold reaches
  cases hosted : network.host groupID nodeID p2pID with
  | none => simp [Function.comp_def, hosted]
  | some frontService =>
    show _ = List.count frontService fronts
    rw [List.count_eq_countP]
    apply List.countP_congr
    intro other _
    simp [hosted]

/-- The nodes at the sender get the message once for each node that shares their front service. -/
theorem countP_local :
    ((Gateway.asyncSendBroadcastMessage env service groupID srcNodeID payload).2.map
        (Prod.mk origin)).countP (network.reaches groupID srcNodeID payload nodeID) =
      match network.host groupID nodeID origin with
      | none => 0
      | some frontService => (service.manager.group groupID).entries.countP fun entry =>
          entry.2.frontService = frontService := by
  rw [Gateway.actions_asyncSendBroadcastMessage, Table.values]
  simp only [List.map_map]
  have fronts : (service.manager.group groupID).entries.map
      (Prod.mk origin ∘ (fun info => (.onReceiveMessage info.frontService groupID srcNodeID payload
        none : Action φ Key)) ∘ Sigma.snd) =
      ((service.manager.group groupID).entries.map fun entry => entry.2.frontService).map
        fun frontService => (origin, .onReceiveMessage frontService groupID srcNodeID payload none) := by
    rw [List.map_map]
    rfl
  rw [fronts, countP_reaches]
  cases network.host groupID nodeID origin with
  | none => rfl
  | some frontService =>
    simp only [List.count_eq_countP, List.countP_map, Function.comp_def]
    congr 1

/-- A gateway that receives the message calls the front service of a node once. -/
theorem countP_receive (keys : ∀ key, env.keyFactory.createKey (env.keyFactory.encode key) = key)
    (sized : 19 + groupID.length + (env.keyFactory.encode srcNodeID).length + payload.length <
      2 ^ 32) (carried : Gateway.Carried env groupID srcNodeID) (meshed : network.Meshed env)
    {receiver : Service φ} (found : network.lookup p2pID = some receiver) {object : Nat}
    (held : receiver.sessions.lookup origin = some object) (seq : UInt32) :
    ((receiver.receive env origin
          ((Gateway.newBroadcastMessage env seq groupID srcNodeID payload).encode env.fw).2).map
        (Prod.mk p2pID)).countP (network.reaches groupID srcNodeID payload nodeID) =
      if (network.host groupID nodeID p2pID).isSome then 1 else 0 := by
  have unhandled : env.fw.messageType.broadcastMessage ∉ receiver.msgHandlers := by
    intro handled
    have distinct := env.fw.messageType.distinct
    have same := meshed.handlers p2pID receiver found _ handled
    simp [same] at distinct
  rw [Gateway.receive_newBroadcastMessage groupID srcNodeID payload keys held
    (meshed.named p2pID receiver found) unhandled carried sized]
  unfold Gateway.onReceiveBroadcastMessage
  rw [List.map_map]
  refine (countP_reaches _).trans ?_
  rw [host_eq found]
  unfold GatewayNodeManager.queryFrontServiceInterfaceByGroupID
  cases registered : (receiver.manager.group groupID).lookup nodeID with
  | none => rfl
  | some info =>
    have stored : info.frontService ∈
        (receiver.manager.group groupID).values.map FrontServiceInfo.frontService :=
      List.mem_map_of_mem (Table.mem_values.mpr ⟨nodeID, registered⟩)
    simp only [Option.map_some, Option.isSome_some, if_true]
    exact List.count_eq_one_of_mem (List.nodup_dedup _) (List.mem_dedup.mpr stored)

/-- What `reaches` counts at a gateway other than the sender: one call for a node that is there,
    if the message can be carried. -/
theorem countP_remote (keys : ∀ key, env.keyFactory.createKey (env.keyFactory.encode key) = key)
    (sized : 19 + groupID.length + (env.keyFactory.encode srcNodeID).length + payload.length <
      2 ^ 32) [Decidable (Gateway.Carried env groupID srcNodeID)] (meshed : network.Meshed env)
    (inSync : network.InSync) {sender receiver : Service φ}
    (sends : network.lookup origin = some sender) (found : network.lookup p2pID = some receiver) :
    (((((Gateway.asyncSendBroadcastMessage env sender groupID srcNodeID payload).1.outgoingTo
          p2pID).drop (sender.outgoingTo p2pID).length).flatMap fun frame =>
        (receiver.receive env origin frame).map (Prod.mk p2pID)).countP
      (network.reaches groupID srcNodeID payload nodeID)) =
      if p2pID ≠ origin ∧ (network.host groupID nodeID p2pID).isSome ∧
        Gateway.Carried env groupID srcNodeID then 1 else 0 := by
  have queried (peer : P2pID) : peer ∈ (sender.manager.queryP2pIDsByGroupID groupID ∅).2 ↔
      ∃ nodeID, peer ≠ origin ∧ (network.host groupID nodeID peer).isSome := by
    rw [GatewayNodeManager.mem_queryP2pIDsByGroupID]
    exact exists_congr fun nodeID => inSync origin sender sends groupID nodeID peer
  have present {peer : P2pID} {nodeID : StdString} (hosted : (network.host groupID nodeID peer).isSome) :
      peer ∈ network := by
    obtain ⟨frontService, hosted⟩ := Option.isSome_iff_exists.mp hosted
    obtain ⟨service, lookup, _⟩ := Option.bind_eq_some_iff.mp hosted
    exact AList.lookup_isSome.mp (by rw [lookup]; rfl)
  obtain ⟨seq, pushed⟩ := Gateway.outgoingTo_asyncSendBroadcastMessage env groupID srcNodeID payload
    (meshed.named origin sender sends) (fun peer member => by
      obtain ⟨nodeID, other, hosted⟩ := (queried peer).mp member
      exact meshed.linked origin sender sends peer (present hosted) other) p2pID
  rw [pushed, List.drop_left]
  by_cases asked : p2pID ∈ (sender.manager.queryP2pIDsByGroupID groupID ∅).2
  · obtain ⟨_, other, _⟩ := (queried p2pID).mp asked
    have back := meshed.linked p2pID receiver found origin
      (AList.lookup_isSome.mp (by rw [sends]; rfl)) (Ne.symm other)
    obtain ⟨object, held, _⟩ := Service.connected_iff.mp back.connected
    rw [if_pos asked, List.flatMap_singleton]
    by_cases carried : Gateway.Carried env groupID srcNodeID
    · rw [countP_receive env keys sized carried meshed found held]
      simp only [ne_eq, other, not_false_eq_true, carried, and_true, true_and]
    · rw [Gateway.receive_refused groupID srcNodeID payload held carried]
      simp [carried]
  · have elsewhere : ¬ (p2pID ≠ origin ∧ (network.host groupID nodeID p2pID).isSome ∧
        Gateway.Carried env groupID srcNodeID) := fun ⟨other, hosted, _⟩ =>
      asked ((queried p2pID).mpr ⟨nodeID, other, hosted⟩)
    rw [if_neg asked, if_neg elsewhere]
    rfl

def ReachedOnce (env : Environment Key) (network : Network φ) (groupID : StdString)
    (srcNodeID : Key) (origin : P2pID) (nodeID : StdString) : Prop :=
  ∃ p2pID frontService, network.host groupID nodeID p2pID = some frontService ∧
    (p2pID = origin ∨ Gateway.Carried env groupID srcNodeID) ∧
    (∀ other, (network.host groupID nodeID other).isSome →
      (other = origin ∨ Gateway.Carried env groupID srcNodeID) → other = p2pID) ∧
    (p2pID = origin → ∀ sharer, network.host groupID sharer origin = some frontService →
      sharer = nodeID)

theorem received_eq (keys : ∀ key, env.keyFactory.createKey (env.keyFactory.encode key) = key)
    (sized : 19 + groupID.length + (env.keyFactory.encode srcNodeID).length + payload.length <
      2 ^ 32) [Decidable (Gateway.Carried env groupID srcNodeID)] (meshed : network.Meshed env)
    (inSync : network.InSync) {sender : Service φ} (sends : network.lookup origin = some sender) :
    network.received env groupID srcNodeID payload origin nodeID =
      (match network.host groupID nodeID origin with
      | none => 0
      | some frontService => (sender.manager.group groupID).entries.countP fun entry =>
          entry.2.frontService = frontService) +
      network.entries.countP fun gateway => gateway.1 ≠ origin ∧
        (network.host groupID nodeID gateway.1).isSome ∧ Gateway.Carried env groupID srcNodeID := by
  unfold received broadcast
  rw [sends]
  simp only
  rw [List.countP_append, countP_local]
  congr 1
  apply countP_flatMap_of_each
  rintro ⟨p2pID, receiver⟩ member
  rw [countP_remote env keys sized meshed inSync sends (AList.mem_lookup_iff.mpr member)]
  simp only [decide_eq_true_eq]

omit [DecidableEq φ] [DecidableEq Key] in
theorem host_some {frontService : φ}
    (hosted : network.host groupID nodeID p2pID = some frontService) :
    ∃ service info, network.lookup p2pID = some service ∧
      (service.manager.group groupID).lookup nodeID = some info ∧
      info.frontService = frontService := by
  obtain ⟨service, found, queried⟩ := Option.bind_eq_some_iff.mp hosted
  obtain ⟨info, registered, same⟩ := Option.map_eq_some_iff.mp queried
  exact ⟨service, info, found, registered, same⟩

omit [DecidableEq Key] in
/-- The local calls for a node are one if and only if it shares its front service with no other. -/
theorem countP_front_eq_one_iff (found : network.lookup p2pID = some service) {frontService : φ}
    (hosted : network.host groupID nodeID p2pID = some frontService) :
    (service.manager.group groupID).entries.countP
        (fun entry => entry.2.frontService = frontService) = 1 ↔
      ∀ sharer, network.host groupID sharer p2pID = some frontService → sharer = nodeID := by
  have counted := Table.countP_eq_one_iff (service.manager.group groupID)
    fun _ info => decide (info.frontService = frontService)
  obtain ⟨_, own, here, registered, same⟩ := host_some hosted
  rw [found] at here
  cases here
  refine counted.trans ⟨?_, ?_⟩
  · rintro ⟨key, value, _, _, unique⟩ sharer shares
    obtain ⟨_, info, here, lookup, shared⟩ := host_some shares
    rw [found] at here
    cases here
    rw [unique sharer info lookup (decide_eq_true shared),
      unique nodeID own registered (decide_eq_true same)]
  · intro unshared
    refine ⟨nodeID, own, registered, decide_eq_true same, fun other info lookup shares => ?_⟩
    apply unshared
    rw [host_eq found, lookup]
    exact congrArg some (of_decide_eq_true shares)

omit [DecidableEq φ] [DecidableEq Key] in
/-- A node that is not at the sender is reached once if one gateway has it. -/
theorem remote_once_iff [Decidable (Gateway.Carried env groupID srcNodeID)]
    (hosted : network.host groupID nodeID origin = none) :
    (network.entries.countP fun gateway => gateway.1 ≠ origin ∧
        (network.host groupID nodeID gateway.1).isSome ∧ Gateway.Carried env groupID srcNodeID) = 1 ↔
      ReachedOnce env network groupID srcNodeID origin nodeID := by
  have remote := Table.countP_eq_one_iff network fun p2pID _ =>
    decide (p2pID ≠ origin ∧ (network.host groupID nodeID p2pID).isSome ∧
      Gateway.Carried env groupID srcNodeID)
  have elsewhere {p2pID : P2pID} (there : (network.host groupID nodeID p2pID).isSome) :
      p2pID ≠ origin := by
    rintro rfl
    rw [hosted] at there
    cases there
  refine remote.trans ⟨?_, ?_⟩
  · rintro ⟨p2pID, _, _, reached, unique⟩
    obtain ⟨other, there, carried⟩ := of_decide_eq_true reached
    obtain ⟨frontService, there⟩ := Option.isSome_iff_exists.mp there
    refine ⟨p2pID, frontService, there, .inr carried, fun another also _ => ?_, fun same =>
      absurd same other⟩
    obtain ⟨_, held⟩ := Option.isSome_iff_exists.mp also
    obtain ⟨service, _, found, _⟩ := host_some held
    exact unique another service found (decide_eq_true ⟨elsewhere also, also, carried⟩)
  · rintro ⟨p2pID, frontService, there, carried, unique, _⟩
    have present : (network.host groupID nodeID p2pID).isSome := by
      rw [there]
      rfl
    obtain ⟨service, _, found, _⟩ := host_some there
    have carried := carried.resolve_left (elsewhere present)
    refine ⟨p2pID, service, found, decide_eq_true ⟨elsewhere present, present, carried⟩, ?_⟩
    intro another _ _ reached
    obtain ⟨_, also, _⟩ := of_decide_eq_true reached
    exact unique another also (.inr carried)

omit [DecidableEq Key] in
/-- A node at the sender is reached once if it is the only one of its front service and no other
    gateway has it. -/
theorem local_once_iff [Decidable (Gateway.Carried env groupID srcNodeID)] {sender : Service φ}
    (sends : network.lookup origin = some sender) {frontService : φ}
    (hosted : network.host groupID nodeID origin = some frontService) :
    ((sender.manager.group groupID).entries.countP fun entry =>
          entry.2.frontService = frontService) +
        (network.entries.countP fun gateway => gateway.1 ≠ origin ∧
          (network.host groupID nodeID gateway.1).isSome ∧
          Gateway.Carried env groupID srcNodeID) = 1 ↔
      ReachedOnce env network groupID srcNodeID origin nodeID := by
  have local_once := countP_front_eq_one_iff sends hosted
  have once : 0 < (sender.manager.group groupID).entries.countP
      (fun entry => entry.2.frontService = frontService) := by
    obtain ⟨_, info, here, registered, same⟩ := host_some hosted
    rw [sends] at here
    cases here
    exact List.countP_pos_iff.mpr
      ⟨_, AList.mem_lookup_iff.mp registered, decide_eq_true same⟩
  constructor
  · intro total
    have split : ∀ here there : Nat, 0 < here → here + there = 1 → here = 1 ∧ there = 0 := by
      omega
    obtain ⟨one, zero⟩ := split _ _ once total
    have nowhere := List.countP_eq_zero.mp zero
    refine ⟨origin, frontService, hosted, .inl rfl, fun other also reach => ?_, fun _ =>
      local_once.mp one⟩
    by_contra apart
    obtain ⟨_, held⟩ := Option.isSome_iff_exists.mp also
    obtain ⟨service, _, found, _⟩ := host_some held
    exact nowhere _ (AList.mem_lookup_iff.mp found)
      (decide_eq_true ⟨apart, also, reach.resolve_left apart⟩)
  · rintro ⟨p2pID, other, there, _, unique, unshared⟩
    obtain rfl := unique origin (by rw [hosted]; rfl) (.inl rfl)
    rw [hosted] at there
    cases there
    have nowhere : network.entries.countP (fun gateway => gateway.1 ≠ origin ∧
        (network.host groupID nodeID gateway.1).isSome ∧
        Gateway.Carried env groupID srcNodeID) = 0 := by
      apply List.countP_eq_zero.mpr
      intro gateway _ reached
      obtain ⟨apart, also, carried⟩ := of_decide_eq_true reached
      exact apart (unique gateway.1 also (.inr carried))
    rw [nowhere]
    exact local_once.mpr (unshared rfl)

/-- A node receives a broadcast once exactly if it is reached at one gateway, once. -/
theorem received_once_iff (keys : ∀ key, env.keyFactory.createKey (env.keyFactory.encode key) = key)
    (sized : 19 + groupID.length + (env.keyFactory.encode srcNodeID).length + payload.length <
      2 ^ 32) (meshed : network.Meshed env) (inSync : network.InSync) (present : origin ∈ network) :
    network.received env groupID srcNodeID payload origin nodeID = 1 ↔
      ReachedOnce env network groupID srcNodeID origin nodeID := by
  classical
  obtain ⟨sender, sends⟩ := Option.isSome_iff_exists.mp (AList.lookup_isSome.mpr present)
  rw [received_eq env keys sized meshed inSync sends]
  cases hosted : network.host groupID nodeID origin with
  | none =>
    simp only [Nat.zero_add]
    exact remote_once_iff env hosted
  | some frontService => exact local_once_iff env sends hosted

variable (network groupID srcNodeID payload origin)

def ExactlyOnce : Prop := ∀ nodeID, nodeID ≠ env.keyFactory.hex srcNodeID →
  (∃ p2pID, (network.host groupID nodeID p2pID).isSome) →
    network.received env groupID srcNodeID payload origin nodeID = 1

/-- A broadcast is received once by all if and only if no node has two gateways that it gets to. -/
theorem broadcast_exactlyOnce_iff
    (keys : ∀ key, env.keyFactory.createKey (env.keyFactory.encode key) = key)
    (sized : 19 + groupID.length + (env.keyFactory.encode srcNodeID).length + payload.length <
      2 ^ 32) (meshed : network.Meshed env) (inSync : network.InSync) (present : origin ∈ network) :
    network.ExactlyOnce env groupID srcNodeID payload origin ↔
      ∀ nodeID, nodeID ≠ env.keyFactory.hex srcNodeID →
        (∃ p2pID, (network.host groupID nodeID p2pID).isSome) →
          ReachedOnce env network groupID srcNodeID origin nodeID :=
  forall_congr' fun _ => imp_congr_right fun _ => imp_congr_right fun _ =>
    received_once_iff env keys sized meshed inSync present

end Received

section Pair

def gateway (p2pID peer : P2pID) (frontService : Nat) (nodeID peerNodeID : StdString) : Service Nat where
  nodeID := p2pID
  sessions := (∅ : Table P2pID Nat).insert peer 0
  p2pSessions :=
    [{ p2pID := peer
       endpoint := { address := "127.0.0.1", port := 30300 }
       session := { actived := true }
       run := true }]
  manager :=
    { p2pNodeID := p2pID
      peerGatewayNodes := (∅ : Index StdString StdString P2pID).add [103] peerNodeID peer
      frontServiceInfos := (∅ : Table StdString (Table StdString (FrontServiceInfo Nat))).insert [103]
        ((∅ : Table StdString (FrontServiceInfo Nat)).insert nodeID { frontService }) }

def pair (first second : StdString) : Network Nat :=
  ((∅ : Network Nat).insert [97] (gateway [97] [98] 0 first second)).insert [98]
    (gateway [98] [97] 1 second first)

variable (first second : StdString)

theorem pair_lookup (p2pID : P2pID) :
    (pair first second).lookup p2pID =
      if p2pID = [98] then some (gateway [98] [97] 1 second first)
      else if p2pID = [97] then some (gateway [97] [98] 0 first second) else none := by
  rw [pair, Table.lookup_insert_if, Table.lookup_insert_if]
  rfl

theorem gateway_host (p2pID peer : P2pID) (frontService : Nat) (own other groupID nodeID : StdString) :
    (gateway p2pID peer frontService own
        other).manager.queryFrontServiceInterfaceByGroupIDAndNodeID groupID nodeID =
      if groupID = [103] ∧ nodeID = own then some frontService else none := by
  have nodes : (gateway p2pID peer frontService own other).manager.group groupID =
      if groupID = [103] then (∅ : Table StdString (FrontServiceInfo Nat)).insert own { frontService }
      else ∅ := by
    unfold GatewayNodeManager.group gateway
    rw [Table.lookup_insert_if]
    split
    · rfl
    · rfl
  unfold GatewayNodeManager.queryFrontServiceInterfaceByGroupIDAndNodeID
  rw [nodes]
  by_cases group : groupID = [103]
  · rw [if_pos group, Table.lookup_insert_if]
    by_cases node : nodeID = own
    · simp [group, node]
    · simp [node]
  · simp [group]

theorem pair_host (groupID nodeID : StdString) (p2pID : P2pID) :
    (pair first second).host groupID nodeID p2pID =
      if p2pID = [98] ∧ groupID = [103] ∧ nodeID = second then some 1
      else if p2pID = [97] ∧ groupID = [103] ∧ nodeID = first then some 0 else none := by
  rw [host, pair_lookup]
  by_cases isSecond : p2pID = [98]
  · simp [isSecond, gateway_host]
  · by_cases isFirst : p2pID = [97]
    · simp [isFirst, gateway_host]
    · simp [isSecond, isFirst]

theorem gateway_named (p2pID peer : P2pID) (frontService : Nat) (own other : StdString) :
    (gateway p2pID peer frontService own other).Named := by
  intro stored object found
  have held : ((∅ : Table P2pID Nat).insert peer 0).lookup stored = some object := found
  rw [Table.lookup_insert_if] at held
  split at held
  · cases held
    rename_i same
    exact ⟨true, by rw [same]; rfl⟩
  · cases held

theorem gateway_linked {p2pID peer : P2pID} (apart : peer ≠ p2pID) (frontService : Nat)
    (own other : StdString) : (gateway p2pID peer frontService own other).Linked peer := by
  have held : (gateway p2pID peer frontService own other).sessions.lookup peer = some 0 :=
    AList.lookup_insert _
  refine ⟨apart, ?_, { actived := true }, ?_, rfl⟩
  · rw [Service.connected, held]
    rfl
  · rw [Service.sessionOf, held]
    rfl

theorem pair_meshed : (pair first second).Meshed (Environment.reading .null) := by
  have cases {p2pID : P2pID} {service : Service Nat}
      (found : (pair first second).lookup p2pID = some service) :
      (p2pID = [98] ∧ service = gateway [98] [97] 1 second first) ∨
        (p2pID = [97] ∧ service = gateway [97] [98] 0 first second) := by
    rw [pair_lookup] at found
    split_ifs at found with b a
    · cases found
      exact .inl ⟨b, rfl⟩
    · cases found
      exact .inr ⟨a, rfl⟩
  constructor
  · intro p2pID service found
    rcases cases found with ⟨rfl, rfl⟩ | ⟨rfl, rfl⟩
    · rfl
    · rfl
  · intro p2pID service found
    rcases cases found with ⟨rfl, rfl⟩ | ⟨rfl, rfl⟩
    · exact gateway_named _ _ _ _ _
    · exact gateway_named _ _ _ _ _
  · intro p2pID service found peer member other
    obtain ⟨_, there⟩ := Option.isSome_iff_exists.mp (AList.lookup_isSome.mpr member)
    rcases cases found with ⟨rfl, rfl⟩ | ⟨rfl, rfl⟩
    · obtain ⟨rfl, _⟩ := (cases there).resolve_left fun same => other same.1
      exact gateway_linked (by decide) _ _ _
    · obtain ⟨rfl, _⟩ := (cases there).resolve_right fun same => other same.1
      exact gateway_linked (by decide) _ _ _
  · intro p2pID service found type handled
    rcases cases found with ⟨rfl, rfl⟩ | ⟨rfl, rfl⟩
    · cases handled
    · cases handled

theorem pair_inSync : (pair first second).InSync := by
  intro p2pID service found groupID nodeID peer
  have holds (own other : P2pID) (frontService : Nat) (node peerNode : StdString) :
      (gateway own other frontService node peerNode).manager.peerGatewayNodes.Holds groupID nodeID
        peer ↔ groupID = [103] ∧ nodeID = peerNode ∧ peer = other :=
    Index.holds_add.trans (or_iff_left (Index.holds_empty groupID nodeID peer))
  rw [pair_host]
  rw [pair_lookup] at found
  split_ifs at found with isSecond isFirst
  · cases found
    rw [holds, isSecond]
    by_cases same : peer = [97]
    · simp [same]
    · simp only [same, and_false, false_and, if_false]
      grind
  · cases found
    rw [holds, isFirst]
    by_cases same : peer = [98]
    · simp [same]
    · simp only [same, and_false, false_and, if_false]
      grind

end Pair

theorem twoGateways_receivesTwice :
    ¬ ∀ network : Network Nat, network.Meshed (Environment.reading .null) → network.InSync →
      ∀ origin ∈ network, network.ExactlyOnce (Environment.reading .null) [103] [0] [7] origin := by
  intro once
  have received := once (pair [48, 49] [48, 49]) (pair_meshed _ _) (pair_inSync _ _) [97]
    (by decide) [48, 49] (by decide) ⟨[98], rfl⟩
  exact absurd received (by decide)

theorem oneGatewayEach_exactlyOnce :
    (pair [48, 49] [48, 50]).ExactlyOnce (Environment.reading .null) [103] [0] [7] [97] := by
  refine (broadcast_exactlyOnce_iff (Environment.reading .null) (pair [48, 49] [48, 50]) [103] [0] [7]
    [97] (fun _ => rfl) (by decide) (pair_meshed _ _) (pair_inSync _ _) (by decide)).mpr ?_
  rintro nodeID _ ⟨p2pID, there⟩
  have carried : Gateway.Carried (Environment.reading .null) [103] ([0] : Bytes) :=
    ⟨by decide, by decide⟩
  rw [pair_host] at there
  split_ifs at there with isSecond isFirst
  · obtain ⟨rfl, _, rfl⟩ := isSecond
    refine ⟨[98], 1, by decide, .inr carried, fun other also _ => ?_,
      fun same => absurd same (by decide)⟩
    rw [pair_host] at also
    simpa using also
  · obtain ⟨rfl, _, rfl⟩ := isFirst
    refine ⟨[97], 0, by decide, .inl rfl, fun other also _ => ?_, fun _ sharer shares => ?_⟩
    · rw [pair_host] at also
      simpa using also
    · rw [pair_host] at shares
      simpa using shares
  · cases there

end Network

end BcosGateway

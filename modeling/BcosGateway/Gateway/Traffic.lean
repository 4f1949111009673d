import BcosGateway.Amop.Unicast
import BcosGateway.Gateway.Delivery
import BcosGateway.Lib.Places
import BcosGateway.Lib.Transition

/-! The messages that lead to further messages, in a network of gateways. -/

namespace BcosGateway

/-- Gateways with what is on the wire between them, from the first named to the second, what front
    services and clients will answer, and the messages that are sent until one gateway takes them. -/
structure Traffic (φ : Type) where
  managers : P2pID → GatewayNodeManager φ
  topicManagers : P2pID → TopicManager
  flying : List (P2pID × P2pID × P2PMessage) := []
  owed : List (P2pID × P2pID × P2PMessage) := []
  topicsOwed : List (P2pID × P2pID × P2PMessage) := []
  retries : List (P2pID × Retry) := []
  senders : List (P2pID × Bytes × RetrySender) := []

namespace Traffic

/-- `change` stands for everything that a gateway does by itself. The first four events come from
    outside the network, and so do the last two: the callback of an attempt is called that was called
    before, because a timeout or a lost session crosses a response. -/
inductive Event (φ : Type) where
  | change (p2pID : P2pID) (manager : GatewayNodeManager φ) (topicManager : TopicManager)
  | send (sender receiver : P2pID) (message : P2PMessage)
  | asyncSendMessageByNodeID (sender : P2pID) (p2pIDs : List P2pID) (p2pMessage : P2PMessage)
    (shuffled : List P2pID)
  | asyncSendMessageByTopic (sender : P2pID) (nodeIDs : List P2pID) (buffer : Bytes)
    (shuffled : List P2pID)
  | dispatch (flight : Nat)
  | respond (flight : Nat)
  | callback (call : Nat) (text : Bytes)
  | notified (call : Nat) (error : Option Error) (responseData : Option Bytes)
  | notFound (call : Nat)
  | onResponse (retry : Nat) (answer : Answer)
  | onTopicResponse (sender : Nat) (nodeID : P2pID) (response : AMOPResponse)
    (shuffled : List P2pID)
  | onResponseAgain (retry : Nat) (answer : Answer)
  | onTopicResponseAgain (sender : Nat) (nodeID : P2pID) (response : AMOPResponse)
    (shuffled : List P2pID)

def Event.led {φ : Type} : Event φ → Bool
  | .change .. | .send .. | .asyncSendMessageByNodeID .. | .asyncSendMessageByTopic ..
  | .onResponseAgain .. | .onTopicResponseAgain .. => false
  | .dispatch .. | .respond .. | .callback .. | .notified .. | .notFound .. | .onResponse ..
  | .onTopicResponse .. => true

def Event.allowance {φ : Type} : Event φ → Nat
  | .send .. => 3
  | .asyncSendMessageByNodeID _ p2pIDs _ _ => 4 * p2pIDs.length
  | .asyncSendMessageByTopic _ nodeIDs _ _ => 4 * nodeIDs.length
  | _ => 0

section Step

variable {φ Key : Type} [DecidableEq φ] (env : Environment Key)
  (codeCast : StdString → Option Int) (seqCast : StdString → Option UInt32)
  (requests : AMOPRequests)

def amopMessage (buffer : Bytes) : P2PMessage :=
  { packetType := env.fw.messageType.amopMessageType, payload := buffer }

def performTopic (me sender : P2pID) (request : P2PMessage) (traffic : Traffic φ) :
    AMOPAction → Traffic φ
  | .asyncSendMessageByP2PNodeID nodeID buffer =>
    { traffic with flying := traffic.flying ++ [(me, nodeID, amopMessage env buffer)] }
  | .onReceiveAMOPMessage .. =>
    { traffic with topicsOwed := traffic.topicsOwed ++ [(me, sender, request)] }
  | .onReceiveAMOPBroadcastMessage .. => traffic

/-- The one handler that is registered is that of AMOP. -/
def perform (me sender : P2pID) (traffic : Traffic φ) : Action φ Key → Traffic φ
  | .handler message =>
    let (topicManager, actions) := AMOPImpl.dispatcherAMOPMessage (env.amop seqCast)
      (traffic.topicManagers me) sender message
    actions.foldl (performTopic env me sender message)
      { traffic with topicManagers := Function.update traffic.topicManagers me topicManager }
  | .sendMessageBySession packetType payload =>
    { traffic with flying := traffic.flying ++ [(me, sender, { packetType, payload })] }
  | .sendRespMessageBySession payload request =>
    { traffic with flying := traffic.flying ++ [(me, sender, Service.response payload request)] }
  | .onReceiveMessage _ _ _ _ request =>
    { traffic with owed := traffic.owed ++ request.toList.map fun request => (me, sender, request) }

def handlers : KeySet UInt16 := (∅ : KeySet UInt16).insert env.fw.messageType.amopMessageType ()

def attempts (me : P2pID) (message : P2PMessage) (before after : List P2pID) :
    List (P2pID × P2pID × P2PMessage) :=
  (after.drop before.length).map fun p2pID => (me, p2pID, message)

def answerTopic (traffic : Traffic φ) (call : Nat) (answer : Option Bytes × Int16) :
    Option (Traffic φ) :=
  match traffic.topicsOwed[call]? with
  | none => none
  | some (me, sender, request) =>
    match AMOPImpl.sendResponse request answer.1 answer.2 with
    | .error _ => none
    | .ok response =>
      some { traffic with
        topicsOwed := traffic.topicsOwed.eraseIdx call
        flying := traffic.flying ++ [(me, sender, response)] }

/-- A response that a session has a callback for is not dispatched. Its callback runs as a step of
    its own. -/
def step (traffic : Traffic φ) : Event φ → Option (Traffic φ)
  | .change p2pID manager topicManager =>
    some { traffic with
      managers := Function.update traffic.managers p2pID manager
      topicManagers := Function.update traffic.topicManagers p2pID topicManager }
  | .send sender receiver message =>
    some { traffic with flying := traffic.flying ++ [(sender, receiver, message)] }
  | .asyncSendMessageByNodeID sender p2pIDs p2pMessage shuffled =>
    if shuffled.Perm p2pIDs then
      let retry := ({ p2pIDs, p2pMessage } : Retry).trySendMessage env shuffled
      some { traffic with
        retries := traffic.retries ++ [(sender, retry)]
        flying := traffic.flying ++ attempts sender p2pMessage [] retry.sent }
    else none
  | .asyncSendMessageByTopic sender nodeIDs buffer shuffled =>
    if shuffled.Perm nodeIDs then
      let retry := ({ nodeIDs } : RetrySender).sendMessage requests.commonError shuffled
      some { traffic with
        senders := traffic.senders ++ [(sender, buffer, retry)]
        flying := traffic.flying ++ attempts sender (amopMessage env buffer) [] retry.sent }
    else none
  | .dispatch flight =>
    match traffic.flying[flight]? with
    | none => none
    | some (sender, me, message) =>
      match Service.dispatch env (handlers env) (traffic.managers me) sender message with
      | .error _ => none
      | .ok (manager, actions) =>
        some (actions.foldl (perform env seqCast me sender)
          { traffic with
            flying := traffic.flying.eraseIdx flight
            managers := Function.update traffic.managers me manager })
  | .respond flight =>
    match traffic.flying[flight]? with
    | none => none
    | some (_, _, message) =>
      if message.isRespPacket then some { traffic with flying := traffic.flying.eraseIdx flight }
      else none
  | .callback call text =>
    match traffic.owed[call]? with
    | none => none
    | some (me, sender, request) =>
      some { traffic with
        owed := traffic.owed.eraseIdx call
        flying := traffic.flying ++ [(me, sender, Service.response text request)] }
  | .notified call error responseData =>
    traffic.answerTopic call (AMOPImpl.onNotified (env.amop seqCast) requests error responseData)
  | .notFound call =>
    traffic.answerTopic call (AMOPImpl.notFoundClient (env.amop seqCast) requests)
  | .onResponse place answer =>
    match traffic.retries[place]? with
    | none => none
    | some (sender, retry) =>
      match Retry.step env codeCast retry answer with
      | none => none
      | some next =>
        some { traffic with
          retries := traffic.retries.set place (sender, next)
          flying := traffic.flying ++ attempts sender retry.p2pMessage retry.sent next.sent }
  | .onTopicResponse place nodeID response shuffled =>
    match traffic.senders[place]? with
    | none => none
    | some (sender, buffer, retry) =>
      if nodeID ∈ retry.pending ∧ shuffled.Perm retry.nodeIDs then
        match retry.onResponse env.fw requests.commonError nodeID response shuffled with
        | .error _ => none
        | .ok next =>
          some { traffic with
            senders := traffic.senders.set place (sender, buffer, next)
            flying := traffic.flying ++
              attempts sender (amopMessage env buffer) retry.sent next.sent }
      else none
  | .onResponseAgain place answer =>
    match traffic.retries[place]? with
    | none => none
    | some (sender, retry) =>
      match Retry.again env codeCast retry answer with
      | none => none
      | some next =>
        some { traffic with
          retries := traffic.retries.set place (sender, next)
          flying := traffic.flying ++ attempts sender retry.p2pMessage retry.sent next.sent }
  | .onTopicResponseAgain place nodeID response shuffled =>
    match traffic.senders[place]? with
    | none => none
    | some (sender, buffer, retry) =>
      if nodeID ∈ retry.sent ∧ shuffled.Perm retry.nodeIDs then
        -- a later attempt with the same node may be pending, and stays so
        let waiting := { retry with pending := nodeID :: retry.pending }
        match waiting.onResponse env.fw requests.commonError nodeID response shuffled with
        | .error _ => none
        | .ok next =>
          some { traffic with
            senders := traffic.senders.set place (sender, buffer, next)
            flying := traffic.flying ++
              attempts sender (amopMessage env buffer) retry.sent next.sent }
      else none

def topicWeight (amopMsgType : UInt16) : Nat :=
  if amopMsgType = AMOPMessage.Kind.topicSeq ∨ amopMsgType = AMOPMessage.Kind.amopRequest then 3
  else if amopMsgType = AMOPMessage.Kind.requestTopic then 2
  else 1

def weight (message : P2PMessage) : Nat :=
  let types := env.fw.messageType
  if message.packetType = types.amopMessageType then
    topicWeight (AMOPMessage.buildMessage env.fw message.payload).type
  else if message.packetType = types.heartbeat ∨ message.packetType = types.peerToPeerMessage then 3
  else if message.packetType = types.requestNodeIDs then 2
  else 1

/-- The potential of a network. An attempt that is left to a retry may lead to three events and to
    its callback. -/
def potential (traffic : Traffic φ) : Nat :=
  (traffic.flying.map fun flight => weight env flight.2.2).sum + 2 * traffic.owed.length +
    2 * traffic.topicsOwed.length +
    (traffic.retries.map fun held => 4 * held.2.p2pIDs.length + held.2.pending.length).sum +
    (traffic.senders.map fun held => 4 * held.2.2.nodeIDs.length + held.2.2.pending.length).sum

end Step

section Potential

variable {φ Key : Type} {env : Environment Key} {codeCast : StdString → Option Int}
  {seqCast : StdString → Option UInt32} {requests : AMOPRequests} {traffic : Traffic φ}

theorem topicWeight_bounds (amopMsgType : UInt16) :
    1 ≤ topicWeight amopMsgType ∧ topicWeight amopMsgType ≤ 3 := by
  unfold topicWeight
  split
  · exact ⟨by decide, by decide⟩
  · split <;> exact ⟨by decide, by decide⟩

theorem weight_bounds (env : Environment Key) (message : P2PMessage) :
    1 ≤ weight env message ∧ weight env message ≤ 3 := by
  unfold weight
  simp only
  split
  · exact topicWeight_bounds _
  · split
    · exact ⟨by decide, by decide⟩
    · split <;> exact ⟨by decide, by decide⟩

theorem weight_of_type {message : P2PMessage}
    (type : message.packetType = env.fw.messageType.amopMessageType) :
    weight env message = topicWeight (AMOPMessage.buildMessage env.fw message.payload).type := by
  unfold weight
  exact if_pos type

theorem types_apart :
    env.fw.messageType.heartbeat ≠ env.fw.messageType.amopMessageType ∧
      env.fw.messageType.peerToPeerMessage ≠ env.fw.messageType.amopMessageType ∧
      env.fw.messageType.requestNodeIDs ≠ env.fw.messageType.amopMessageType ∧
      env.fw.messageType.requestNodeIDs ≠ env.fw.messageType.heartbeat ∧
      env.fw.messageType.requestNodeIDs ≠ env.fw.messageType.peerToPeerMessage := by
  have distinct := env.fw.messageType.distinct
  grind

theorem weight_of_answered {message : P2PMessage}
    (type : message.packetType = env.fw.messageType.heartbeat ∨
      message.packetType = env.fw.messageType.peerToPeerMessage) : weight env message = 3 := by
  have amop : message.packetType ≠ env.fw.messageType.amopMessageType := by
    rcases type with type | type
    · rw [type]
      exact types_apart.1
    · rw [type]
      exact types_apart.2.1
  unfold weight
  simp only
  rw [if_neg amop, if_pos type]

theorem weight_of_requestNodeIDs {message : P2PMessage}
    (type : message.packetType = env.fw.messageType.requestNodeIDs) : weight env message = 2 := by
  obtain ⟨_, _, amop, heartbeat, peerToPeerMessage⟩ := @types_apart Key env
  rw [← type] at amop heartbeat peerToPeerMessage
  unfold weight
  simp only
  rw [if_neg amop, if_neg (not_or.mpr ⟨heartbeat, peerToPeerMessage⟩), if_pos type]

theorem weight_amopMessage (type : UInt16) (data : Bytes) :
    weight env (amopMessage env (AMOPImpl.buildAndEncodeMessage type data)) = topicWeight type := by
  have built := AMOPImpl.buildMessage_buildAndEncodeMessage (env.amop fun _ => none) type data
  rw [weight_of_type rfl]
  exact congrArg (fun message : AMOPMessage => topicWeight message.type) built

structure Plain (env : Environment Key) (packetType : UInt16) : Prop where
  amopMessageType : packetType ≠ env.fw.messageType.amopMessageType
  heartbeat : packetType ≠ env.fw.messageType.heartbeat
  peerToPeerMessage : packetType ≠ env.fw.messageType.peerToPeerMessage
  requestNodeIDs : packetType ≠ env.fw.messageType.requestNodeIDs

theorem plain_responseNodeIDs : Plain env env.fw.messageType.responseNodeIDs := by
  have distinct := env.fw.messageType.distinct
  simp only [List.nodup_cons, List.mem_cons, List.not_mem_nil, or_false, not_or] at distinct
  obtain ⟨⟨_, _, heartbeat, _⟩, _, ⟨requestNodeIDs, _⟩, ⟨peerToPeerMessage, _, amop⟩, _⟩ := distinct
  exact ⟨amop, Ne.symm heartbeat, peerToPeerMessage, Ne.symm requestNodeIDs⟩

theorem Plain.weight {message : P2PMessage} (plain : Plain env message.packetType) :
    weight env message = 1 := by
  unfold Traffic.weight
  simp only
  rw [if_neg plain.amopMessageType, if_neg (not_or.mpr ⟨plain.heartbeat, plain.peerToPeerMessage⟩),
    if_neg plain.requestNodeIDs]

def topicLoad (env : Environment Key) : AMOPAction → Nat
  | .asyncSendMessageByP2PNodeID _ buffer => weight env (amopMessage env buffer)
  | .onReceiveAMOPMessage .. => 2
  | .onReceiveAMOPBroadcastMessage .. => 0

theorem topicLoad_send (nodeID : P2pID) (type : UInt16) (data : Bytes) :
    topicLoad env (.asyncSendMessageByP2PNodeID nodeID
      (AMOPImpl.buildAndEncodeMessage type data)) = topicWeight type :=
  weight_amopMessage type data

theorem dispatcher_load (topicManager : TopicManager) (nodeID : P2pID) (message : P2PMessage) :
    ((AMOPImpl.dispatcherAMOPMessage (env.amop seqCast) topicManager nodeID message).2.map
      (topicLoad env)).sum + 1 ≤ weight env message := by
  unfold AMOPImpl.dispatcherAMOPMessage
  by_cases type : message.packetType = env.fw.messageType.amopMessageType
  · rw [if_neg (by exact not_not.mpr type), weight_of_type type]
    show _ ≤ topicWeight (AMOPMessage.buildMessage (env.amop seqCast).fw message.payload).type
    generalize AMOPMessage.buildMessage (env.amop seqCast).fw message.payload = amopMessage
    simp only
    split
    · rename_i topicSeq
      rw [topicSeq]
      unfold AMOPImpl.onReceiveTopicSeqMessage
      split
      · exact (topicWeight_bounds _).1
      split
      · exact (topicWeight_bounds _).1
      · rw [List.map_singleton, topicLoad_send]
        decide
    split
    · rename_i requestTopic
      rw [requestTopic]
      unfold AMOPImpl.onReceiveRequestTopicMessage
      rw [List.map_singleton, topicLoad_send]
      decide
    split
    · exact (topicWeight_bounds _).1
    split
    · rename_i amopRequest
      rw [amopRequest]
      exact Nat.le_refl 3
    split
    · exact (topicWeight_bounds _).1
    · exact (topicWeight_bounds _).1
  · rw [if_pos (by exact type)]
    exact (weight_bounds env message).1

def load (env : Environment Key) : Action φ Key → Nat
  | .handler message => weight env message - 1
  | .sendMessageBySession packetType payload => weight env { packetType, payload }
  | .sendRespMessageBySession .. => 1
  | .onReceiveMessage _ _ _ _ (some _) => 2
  | .onReceiveMessage _ _ _ _ none => 0

theorem dispatch_load [DecidableEq φ] {manager after : GatewayNodeManager φ} {p2pID : P2pID}
    {message : P2PMessage} {actions : List (Action φ Key)}
    (ran : Service.dispatch env (handlers env) manager p2pID message = .ok (after, actions)) :
    (actions.map (load env)).sum + 1 ≤ weight env message := by
  have least := (weight_bounds env message).1
  by_cases handled : message.packetType ∈ handlers env
  · unfold Service.dispatch at ran
    simp only [if_pos handled] at ran
    cases ran
    show weight env message - 1 + 0 + 1 ≤ weight env message
    omega
  have amop : message.packetType ≠ env.fw.messageType.amopMessageType := by
    rintro same
    exact handled ((AList.mem_insert _).mpr (.inl same))
  unfold Service.dispatch at ran
  simp only [if_neg handled] at ran
  split at ran
  · cases ran
    exact least
  split at ran
  · rename_i heartbeat
    obtain ⟨statusSeq, _, rest⟩ := bind_eq_ok.mp ran
    rw [weight_of_answered (.inl heartbeat)]
    split at rest
    · cases rest
      show weight env { packetType := env.fw.messageType.requestNodeIDs } + 0 + 1 ≤ 3
      rw [weight_of_requestNodeIDs rfl]
    · cases rest
      exact Nat.le_add_left 1 2
  split at ran
  · rename_i requestNodeIDs
    rw [weight_of_requestNodeIDs requestNodeIDs]
    split at ran
    · cases ran
      show weight env { packetType := env.fw.messageType.responseNodeIDs, payload := _ } + 0 + 1 ≤ 2
      rw [Plain.weight plain_responseNodeIDs]
    · cases ran
      exact Nat.le_add_left 1 1
  split at ran
  · cases ran
    exact least
  split at ran
  · rename_i peerToPeerMessage
    obtain ⟨_, _, ran⟩ := bind_eq_ok.mp ran
    obtain ⟨_, _, ran⟩ := bind_eq_ok.mp ran
    obtain ⟨_, _, rest⟩ := bind_eq_ok.mp ran
    cases rest
    rw [weight_of_answered (.inr peerToPeerMessage)]
    unfold Gateway.onReceiveP2PMessage
    split
    · exact Nat.le_succ 2
    · exact Nat.le_refl 3
  split at ran
  · obtain ⟨_, _, rest⟩ := bind_eq_ok.mp ran
    cases rest
    have silent : ∀ (frontServices : List φ) groupID srcNodeID payload,
        ((frontServices.map fun frontService => (Action.onReceiveMessage frontService groupID
          srcNodeID payload none : Action φ Key)).map (load env)).sum = 0 := by
      intro frontServices groupID srcNodeID payload
      rw [List.map_map, List.sum_eq_zero]
      intro load member
      obtain ⟨_, _, rfl⟩ := List.mem_map.mp member
      rfl
    unfold Gateway.onReceiveBroadcastMessage
    rw [silent]
    exact least
  · cases ran
    exact least

theorem performTopic_potential (me sender : P2pID) (request : P2PMessage)
    (actions : List AMOPAction) :
    potential env (actions.foldl (performTopic env me sender request) traffic) =
      potential env traffic + (actions.map (topicLoad env)).sum := by
  induction actions generalizing traffic with
  | nil => rfl
  | cons action actions ih =>
    have first : potential env (performTopic env me sender request traffic action) =
        potential env traffic + topicLoad env action := by
      cases action with
      | asyncSendMessageByP2PNodeID nodeID buffer =>
        unfold potential performTopic topicLoad
        simp only [List.map_append, List.map_singleton, List.sum_append, List.sum_singleton]
        omega
      | onReceiveAMOPMessage =>
        unfold potential performTopic topicLoad
        simp only [List.length_append, List.length_singleton]
        omega
      | onReceiveAMOPBroadcastMessage => rfl
    rw [List.foldl_cons, ih, first, List.map_cons, List.sum_cons, Nat.add_assoc]

theorem perform_potential (zero : Plain env 0) (me sender : P2pID) (actions : List (Action φ Key)) :
    potential env (actions.foldl (perform env seqCast me sender) traffic) ≤
      potential env traffic + (actions.map (load env)).sum := by
  induction actions generalizing traffic with
  | nil => exact Nat.le_refl _
  | cons action actions ih =>
    have first : potential env (perform env seqCast me sender traffic action) ≤
        potential env traffic + load env action := by
      cases action with
      | handler message =>
        have led : ((AMOPImpl.dispatcherAMOPMessage (env.amop seqCast) (traffic.topicManagers me)
            sender message).2.map (topicLoad env)).sum + 1 ≤ weight env message :=
          dispatcher_load (traffic.topicManagers me) sender message
        unfold perform load
        simp only
        rw [performTopic_potential]
        show potential env traffic + _ ≤ _
        omega
      | sendMessageBySession packetType payload =>
        unfold potential perform load
        simp only [List.map_append, List.map_singleton, List.sum_append, List.sum_singleton]
        omega
      | sendRespMessageBySession payload request =>
        have light : weight env (Service.response payload request) = 1 := Plain.weight zero
        unfold potential perform load
        simp only [List.map_append, List.map_singleton, List.sum_append, List.sum_singleton, light]
        omega
      | onReceiveMessage frontService groupID srcNodeID payload request =>
        cases request with
        | none =>
          unfold perform load
          simp only [Option.toList_none, List.map_nil, List.append_nil]
          exact Nat.le_refl _
        | some request =>
          unfold potential perform load
          simp only [Option.toList_some, List.map_singleton, List.length_append,
            List.length_singleton]
          omega
    rw [List.foldl_cons, List.map_cons, List.sum_cons, ← Nat.add_assoc]
    exact Nat.le_trans ih (Nat.add_le_add_right first _)

theorem attempts_weight (me : P2pID) (message : P2PMessage) (before after : List P2pID) :
    ((attempts me message before after).map fun flight => weight env flight.2.2).sum ≤
      3 * (after.length - before.length) := by
  have each := (weight_bounds env message).2
  unfold attempts
  rw [List.map_map, ← List.length_drop]
  generalize after.drop before.length = fresh
  induction fresh with
  | nil => exact Nat.le_refl 0
  | cons p2pID fresh ih =>
    rw [List.map_cons, List.sum_cons, List.length_cons]
    have : weight env message ≤ 3 := each
    show weight env message + _ ≤ _
    omega

theorem trySendMessage_potential (retry : Retry) {shuffled : List P2pID}
    (order : shuffled.Perm retry.p2pIDs) :
    4 * (retry.trySendMessage env shuffled).p2pIDs.length +
        (retry.trySendMessage env shuffled).pending.length +
        3 * ((retry.trySendMessage env shuffled).sent.length - retry.sent.length) ≤
      4 * retry.p2pIDs.length + retry.pending.length := by
  unfold Retry.trySendMessage
  split
  · simp
  · cases shuffled with
    | nil =>
      rename_i some
      have none : retry.p2pIDs = [] := List.nil_perm.mp order
      rw [none] at some
      exact absurd rfl some
    | cons p2pID p2pIDs =>
      have length := order.length_eq
      rw [List.length_cons] at length
      simp only [Retry.randomChooseP2pID, List.length_append, List.length_singleton]
      omega

theorem sendMessage_potential (commonError : AMOPError) (sender : RetrySender)
    (shuffled : List P2pID) :
    4 * (sender.sendMessage commonError shuffled).nodeIDs.length +
        (sender.sendMessage commonError shuffled).pending.length +
        3 * ((sender.sendMessage commonError shuffled).sent.length - sender.sent.length) ≤
      4 * sender.nodeIDs.length + sender.pending.length := by
  unfold RetrySender.sendMessage
  split
  · simp
  · rename_i some
    cases shuffled with
    | nil => simp
    | cons nodeID nodeIDs =>
      have left : 0 < sender.nodeIDs.length :=
        List.length_pos_iff.mpr fun none => some (List.isEmpty_iff.mpr none)
      simp only [List.length_append, List.length_singleton, List.length_tail]
      omega

theorem invoked_potential {retry next : Retry} {answer : Answer}
    (invoked : Retry.Invoked env codeCast retry answer next) :
    4 * next.p2pIDs.length + next.pending.length + 3 * (next.sent.length - retry.sent.length) ≤
      4 * retry.p2pIDs.length + (retry.pending.erase answer.p2pID).length := by
  have order := invoked.1.length_eq
  rcases Retry.Invoked.cases env codeCast invoked with
    ⟨report, rfl, _⟩ | ⟨p2pID, p2pIDs, shuffled, rfl⟩
  · simp only [Nat.sub_self]
    omega
  · rw [shuffled, List.length_cons] at order
    simp only [List.length_append, List.length_singleton]
    omega

theorem retry_potential {retry next : Retry} {answer : Answer}
    (taken : Retry.step env codeCast retry answer = some next) :
    4 * next.p2pIDs.length + next.pending.length + 3 * (next.sent.length - retry.sent.length) + 1 ≤
      4 * retry.p2pIDs.length + retry.pending.length := by
  have pending := ((Retry.step_iff env codeCast).mp taken).1
  have answered := List.length_erase_of_mem pending
  have waited := List.length_pos_of_mem pending
  have tried := invoked_potential (Retry.step_invoked env codeCast taken)
  omega

theorem again_potential {retry next : Retry} {answer : Answer}
    (taken : Retry.again env codeCast retry answer = some next) :
    4 * next.p2pIDs.length + next.pending.length + 3 * (next.sent.length - retry.sent.length) ≤
      4 * retry.p2pIDs.length + retry.pending.length := by
  obtain ⟨idle, invoked⟩ := Retry.again_invoked env codeCast taken
  have tried := invoked_potential invoked
  rw [List.erase_of_not_mem idle] at tried
  exact tried

theorem onResponse_potential {fw : Framework} {commonError : AMOPError} {sender next : RetrySender}
    {nodeID : P2pID} {response : AMOPResponse} {shuffled : List P2pID}
    (pending : nodeID ∈ sender.pending)
    (ran : sender.onResponse fw commonError nodeID response shuffled = .ok next) :
    4 * next.nodeIDs.length + next.pending.length +
        3 * (next.sent.length - sender.sent.length) + 1 ≤
      4 * sender.nodeIDs.length + sender.pending.length := by
  have answered := List.length_erase_of_mem pending
  have waited := List.length_pos_of_mem pending
  unfold RetrySender.onResponse at ran
  simp only at ran
  split at ran
  · cases ran
    have tried := sendMessage_potential commonError
      { sender with
        pending := sender.pending.erase nodeID
        failed := sender.failed ++ [nodeID] } shuffled
    simp only at tried
    omega
  split at ran
  · cases ran
  · cases ran
    simp only [Nat.sub_self]
    omega

end Potential

section Runs

variable {φ Key : Type} [DecidableEq φ] {env : Environment Key} {codeCast : StdString → Option Int}
  {seqCast : StdString → Option UInt32} {requests : AMOPRequests} {traffic next : Traffic φ}

omit [DecidableEq φ] in
theorem answerTopic_potential {call : Nat} {answer : Option Bytes × Int16}
    (light : ∀ payload, answer.1 = some payload → ∀ seq,
      weight env (AMOPImpl.responseP2PMsg seq payload answer.2) = 1)
    (taken : traffic.answerTopic call answer = some next) :
    1 + potential env next ≤ potential env traffic := by
  unfold answerTopic at taken
  split at taken
  · cases taken
  rename_i me sender request found
  obtain ⟨payload, type⟩ := answer
  cases payload with
  | none => cases taken
  | some payload =>
    cases taken
    have size := (Places.perm_eraseIdx found).length_eq
    rw [List.length_cons] at size
    unfold potential
    simp only [List.map_append, List.map_singleton, List.sum_append, List.sum_singleton]
    rw [light payload rfl request.seq]
    omega

structure Quiet (env : Environment Key) (requests : AMOPRequests) : Prop where
  plain : Plain env 0
  ws : Plain env requests.wsMessageType

omit [DecidableEq φ] in
theorem weight_errorResponse (seq : UInt32) (status : UInt16) (data : Bytes) :
    weight env (AMOPImpl.responseP2PMsg seq
      (AMOPMessage.encode { type := AMOPMessage.Kind.amopResponse, status, data })
      env.fw.messageType.amopMessageType.toInt16) = 1 := by
  have type : env.fw.messageType.amopMessageType.toInt16.toUInt16 =
      env.fw.messageType.amopMessageType := UInt16.toUInt16_toInt16 _
  rw [weight_of_type type]
  show topicWeight (AMOPMessage.buildMessage env.fw (AMOPMessage.encode _)).type = 1
  rw [AMOPMessage.buildMessage_encode]
  rfl

omit [DecidableEq φ] in
theorem weight_onNotified (quiet : Quiet env requests) (error : Option Error)
    (responseData : Option Bytes) (payload : Bytes)
    (sent : (AMOPImpl.onNotified (env.amop seqCast) requests error responseData).1 = some payload)
    (seq : UInt32) :
    weight env (AMOPImpl.responseP2PMsg seq payload
      (AMOPImpl.onNotified (env.amop seqCast) requests error responseData).2) = 1 := by
  have ws (payload : Bytes) : weight env (AMOPImpl.responseP2PMsg seq payload
      requests.wsMessageType.toInt16) = 1 := by
    have type : requests.wsMessageType.toInt16.toUInt16 = requests.wsMessageType :=
      UInt16.toUInt16_toInt16 _
    apply Plain.weight
    show Plain env requests.wsMessageType.toInt16.toUInt16
    rw [type]
    exact quiet.ws
  unfold AMOPImpl.onNotified at sent ⊢
  cases error with
  | none => exact ws payload
  | some error =>
    simp only at sent ⊢
    split at sent
    · rename_i succeeded
      rw [if_pos succeeded]
      exact ws payload
    · rename_i failed
      rw [if_neg failed]
      cases sent
      exact weight_errorResponse seq _ _

/-- A step that something led to takes one from the potential at least, and one from outside adds
    no more than its allowance. -/
theorem step_potential (quiet : Quiet env requests) {event : Event φ}
    (taken : step env codeCast seqCast requests traffic event = some next) :
    (if event.led then 1 else 0) + potential env next ≤ potential env traffic + event.allowance := by
  cases event with
  | change p2pID manager topicManager =>
    cases taken
    exact Nat.le_of_eq (Nat.zero_add _)
  | send sender receiver message =>
    cases taken
    have light := (weight_bounds env message).2
    unfold potential Event.led Event.allowance
    simp only [List.map_append, List.map_singleton, List.sum_append, List.sum_singleton]
    simp only [Bool.false_eq_true, if_false]
    omega
  | asyncSendMessageByNodeID sender p2pIDs p2pMessage shuffled =>
    simp only [step] at taken
    split at taken
    · rename_i order
      cases taken
      have tried := @trySendMessage_potential Key env { p2pIDs, p2pMessage } shuffled order
      generalize ({ p2pIDs, p2pMessage } : Retry).trySendMessage env shuffled = retry at tried ⊢
      have flown := @attempts_weight Key env sender p2pMessage [] retry.sent
      simp only [List.length_nil] at tried flown
      unfold potential Event.led Event.allowance
      simp only [List.map_append, List.map_singleton, List.sum_append, List.sum_singleton,
        Bool.false_eq_true, if_false]
      omega
    · cases taken
  | asyncSendMessageByTopic sender nodeIDs buffer shuffled =>
    simp only [step] at taken
    split at taken
    · cases taken
      have tried := sendMessage_potential requests.commonError { nodeIDs } shuffled
      generalize ({ nodeIDs } : RetrySender).sendMessage requests.commonError shuffled = retry
        at tried ⊢
      have flown := @attempts_weight Key env sender (amopMessage env buffer) [] retry.sent
      simp only [List.length_nil] at tried flown
      unfold potential Event.led Event.allowance
      simp only [List.map_append, List.map_singleton, List.sum_append, List.sum_singleton,
        Bool.false_eq_true, if_false]
      omega
    · cases taken
  | dispatch flight =>
    simp only [step] at taken
    split at taken
    · cases taken
    rename_i sender me message found
    split at taken
    · cases taken
    rename_i manager actions ran
    cases taken
    have led := dispatch_load ran
    have landed := Places.sum_eraseIdx found fun flight => weight env flight.2.2
    simp only at landed
    refine Nat.le_trans (Nat.add_le_add_left
      (perform_potential quiet.plain me sender actions) _) ?_
    unfold potential Event.led Event.allowance
    simp only [if_true]
    omega
  | respond flight =>
    simp only [step] at taken
    split at taken
    · cases taken
    rename_i sender me message found
    split at taken
    · cases taken
      have least := (weight_bounds env message).1
      have landed := Places.sum_eraseIdx found fun flight => weight env flight.2.2
      simp only at landed
      unfold potential Event.led Event.allowance
      simp only [if_true]
      omega
    · cases taken
  | callback call text =>
    simp only [step] at taken
    split at taken
    · cases taken
    rename_i me sender request found
    cases taken
    have light : weight env (Service.response text request) = 1 := Plain.weight quiet.plain
    have size := (Places.perm_eraseIdx found).length_eq
    rw [List.length_cons] at size
    unfold potential Event.led Event.allowance
    simp only [List.map_append, List.map_singleton, List.sum_append, List.sum_singleton, light,
      if_true]
    omega
  | notified call error responseData =>
    exact answerTopic_potential (weight_onNotified quiet error responseData) taken
  | notFound call =>
    have light (payload : Bytes)
        (sent : (AMOPImpl.notFoundClient (env.amop seqCast) requests).1 = some payload)
        (seq : UInt32) : weight env (AMOPImpl.responseP2PMsg seq payload
          (AMOPImpl.notFoundClient (env.amop seqCast) requests).2) = 1 := by
      cases sent
      exact weight_errorResponse seq _ _
    exact answerTopic_potential light taken
  | onResponse place answer =>
    simp only [step] at taken
    split at taken
    · cases taken
    rename_i sender retry found
    split at taken
    · cases taken
    rename_i after stepped
    cases taken
    have tried := retry_potential stepped
    have flown := @attempts_weight Key env sender retry.p2pMessage retry.sent after.sent
    have held := Places.sum_set found (sender, after) fun held =>
      4 * held.2.p2pIDs.length + held.2.pending.length
    unfold potential Event.led Event.allowance
    simp only [List.map_append, List.sum_append, if_true]
    simp only at held
    omega
  | onTopicResponse place nodeID response shuffled =>
    simp only [step] at taken
    split at taken
    · cases taken
    rename_i sender buffer retry found
    split at taken
    · rename_i pending
      split at taken
      · cases taken
      rename_i after ran
      cases taken
      have tried := onResponse_potential pending.1 ran
      have flown := @attempts_weight Key env sender (amopMessage env buffer) retry.sent after.sent
      have held := Places.sum_set found (sender, buffer, after) fun held =>
        4 * held.2.2.nodeIDs.length + held.2.2.pending.length
      unfold potential Event.led Event.allowance
      simp only [List.map_append, List.sum_append, if_true]
      simp only at held
      omega
    · cases taken
  | onResponseAgain place answer =>
    simp only [step] at taken
    split at taken
    · cases taken
    rename_i sender retry found
    split at taken
    · cases taken
    rename_i after called
    cases taken
    have tried := again_potential called
    have flown := @attempts_weight Key env sender retry.p2pMessage retry.sent after.sent
    have held := Places.sum_set found (sender, after) fun held =>
      4 * held.2.p2pIDs.length + held.2.pending.length
    unfold potential Event.led Event.allowance
    simp only [List.map_append, List.sum_append, Bool.false_eq_true, if_false]
    simp only at held
    omega
  | onTopicResponseAgain place nodeID response shuffled =>
    simp only [step] at taken
    split at taken
    · cases taken
    rename_i sender buffer retry found
    split at taken
    · split at taken
      · cases taken
      rename_i after ran
      cases taken
      have tried := onResponse_potential List.mem_cons_self ran
      have flown := @attempts_weight Key env sender (amopMessage env buffer) retry.sent after.sent
      have held := Places.sum_set found (sender, buffer, after) fun held =>
        4 * held.2.2.nodeIDs.length + held.2.2.pending.length
      unfold potential Event.led Event.allowance
      simp only [List.map_append, List.sum_append, Bool.false_eq_true, if_false]
      simp only [List.length_cons] at held tried
      omega
    · cases taken

/-- In a network of any number of gateways, over every interleaving, the events that messages lead
    to are no more than what came from outside is allowed, so that the network falls quiet when
    nothing comes from outside. A callback that is called again is allowed nothing. -/
theorem network_falls_quiet (env : Environment Key) (codeCast : StdString → Option Int)
    (seqCast : StdString → Option UInt32) (requests : AMOPRequests) (quiet : Quiet env requests)
    (start : Traffic φ) (events : List (Event φ)) {last : Traffic φ}
    (ran : Transition.run (step env codeCast seqCast requests) start events = some last) :
    events.countP Event.led + potential env last ≤
      potential env start + (events.map Event.allowance).sum :=
  Transition.countP_le_potential _ (fun _ _ _ taken => step_potential quiet taken) ran

end Runs

def otherRequests : AMOPRequests where
  commonError := ⟨0, 1510, 1511, 1512⟩
  wsMessageType := 8
  buildRequest := fun _ => []

def idleNetwork : Traffic Nat where
  managers := fun _ => {}
  topicManagers := fun _ => {}

/-- A heartbeat, the request for the nodes and the list. Then a message whose first gateway answers
    after the time for it is over. -/
def lateAnswer : List (Event Nat) :=
  [.send [98] [97] { packetType := 1, payload := BigEndian.encode 4 2 }, .dispatch 0, .dispatch 0,
    .dispatch 0,
    .asyncSendMessageByNodeID [97] [[98], [99]] { packetType := 5, seq := 7 } [[98], [99]],
    .onResponse 0 ⟨[98], Session.dropException .tcpError, none, [[99]],
      fun success => absurd success (by decide)⟩,
    .onResponseAgain 0 ⟨[98], {}, some { seq := 7, payload := asciiString "0" }, [],
      fun _ => rfl⟩]

theorem lateAnswer_falls_quiet :
    ∃ last, Transition.run (step (Environment.reading .null) Retry.digits (fun _ => none)
        otherRequests) idleNetwork lateAnswer = some last ∧ last.flying.length = 2 ∧
      lateAnswer.countP Event.led + potential (Environment.reading .null) last ≤
        potential (Environment.reading .null) idleNetwork + (lateAnswer.map Event.allowance).sum :=
  ⟨_, rfl, rfl, network_falls_quiet (Environment.reading .null) Retry.digits (fun _ => none)
    otherRequests ⟨⟨by decide, by decide, by decide, by decide⟩,
      ⟨by decide, by decide, by decide, by decide⟩⟩ idleNetwork lateAnswer rfl⟩

end Traffic

end BcosGateway

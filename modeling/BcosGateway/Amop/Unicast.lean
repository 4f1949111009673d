import BcosGateway.Amop.ClientConnections
import BcosGateway.Amop.Dispatch
import BcosGateway.Amop.RetrySender
import BcosGateway.P2PMessage.Codec
import BcosGateway.Session.Effects

/-! A request about a topic, which one client answers, of the own gateway or of a peer. -/

namespace BcosGateway

/-- The code outside the repository that requests about topics meet. `buildRequest` gives the topic
    of a request. -/
structure AMOPRequests where
  commonError : AMOPError
  wsMessageType : UInt16
  buildRequest : Bytes → StdString

/-- The clients of a gateway as the services know them: whether `stringToProxy` returns, and with what
    a client's service calls the callback of `asyncNotifyAMOPMessage`. -/
structure ClientServices where
  randomChoose : List StdString → StdString
  stringToProxy : StdString → Bool
  asyncNotifyAMOPMessage : StdString → StdString → Bytes → Option Error × Option Bytes

inductive TopicSending where
  | answered (response : Except Fault AMOPResponse)
  | asked (sender : RetrySender) (buffer : Bytes)

namespace AMOPImpl

variable (env : AMOPEnvironment) (requests : AMOPRequests) (services : ClientServices)

/-- The callback of `asyncNotifyAMOPMessage`, up to the arguments of the response callback. -/
def onNotified (error : Option Error) (responseData : Option Bytes) : Option Bytes × Int16 :=
  match error with
  | none => (responseData, requests.wsMessageType.toInt16)
  | some error =>
    if error.errorCode = requests.commonError.success then
      (responseData, requests.wsMessageType.toInt16)
    else
      (some (AMOPMessage.encode {
          type := AMOPMessage.Kind.amopResponse
          status := UInt16.ofInt error.errorCode
          data := error.errorMessage }),
        env.fw.messageType.amopMessageType.toInt16)

def notFoundClient : Option Bytes × Int16 :=
  (some (AMOPMessage.encode {
      type := AMOPMessage.Kind.amopResponse
      status := UInt16.ofInt requests.commonError.notFoundClientByTopicDispatchMsg
      data := asciiString "NotFoundClientByTopicDispatchMsg" }),
    env.fw.messageType.amopMessageType.toInt16)

/-- The second overload of `onReceiveAMOPMessage`, with the arguments of the response callback. -/
def onReceiveAMOPMessageOfTopic (clients : TopicClients) (topic : StdString) (data : Bytes) :
    TopicClients × (Option Bytes × Int16) :=
  let subscribed := clients.topics.queryClientsByTopic topic
  if subscribed.isEmpty then (clients, notFoundClient env requests)
  else
    let choosedClient := services.randomChoose subscribed
    let (clientService, clients) := clients.createAndGetServiceByClient
      (services.stringToProxy choosedClient) choosedClient
    if clientService then
      let (error, responseData) := services.asyncNotifyAMOPMessage choosedClient topic data
      (clients, onNotified env requests error responseData)
    else (clients, notFoundClient env requests)

def onReceiveAMOPMessage (clients : TopicClients) (message : AMOPMessage) :
    TopicClients × (Option Bytes × Int16) :=
  onReceiveAMOPMessageOfTopic env requests services clients (requests.buildRequest message.data)
    message.data

def onRecvAMOPResponse (type : Int16) (responseData : Option Bytes) : Except Fault AMOPResponse :=
  match responseData with
  | none => .error .nullPointer
  | some responseData =>
    let error := if type.toInt = env.fw.messageType.amopMessageType.toNat then
      some (RetrySender.responseError env.fw responseData) else none
    .ok ⟨error, type, some responseData⟩

def trySendTopicMessageToLocalClient (clients : TopicClients) (topic : StdString) (data : Bytes) :
    Option (TopicClients × Except Fault AMOPResponse) :=
  if (clients.topics.queryClientsByTopic topic).isEmpty then none
  else
    let (clients, response, type) :=
      onReceiveAMOPMessageOfTopic env requests services clients topic data
    some (clients, onRecvAMOPResponse env type response)

def notFoundPeer (topic : StdString) : AMOPResponse :=
  ⟨some ⟨requests.commonError.notFoundPeerByTopicSendMsg,
    asciiString "there has no node subscribe this topic, topic: " ++ topic⟩, 0, none⟩

/-- `shuffled` is what the first `randomChoose` makes of the nodes. -/
def asyncSendMessageByTopic (connected : P2pID → Bool) (clients : TopicClients) (topic : StdString)
    (data : Bytes) (shuffled : List P2pID) : TopicClients × TopicSending :=
  let nodeIDs := clients.topics.queryNodeIDsByTopic connected topic
  if nodeIDs.isEmpty then
    match trySendTopicMessageToLocalClient env requests services clients topic data with
    | some (clients, response) => (clients, .answered response)
    | none => (clients, .answered (.ok (notFoundPeer requests topic)))
  else
    (clients, .asked (({ nodeIDs } : RetrySender).sendMessage requests.commonError shuffled)
      (buildAndEncodeMessage AMOPMessage.Kind.amopRequest data))

def responseP2PMsg (seq : UInt32) (payload : Bytes) (type : Int16) : P2PMessage :=
  { ({ seq } : P2PMessage).setRespPacket with payload, packetType := type.toUInt16 }

/-- The response that `dispatcherAMOPMessage` sends to the gateway which asked. -/
def sendResponse (message : P2PMessage) (responseData : Option Bytes) (type : Int16) :
    Except Fault P2PMessage :=
  match responseData with
  | none => .error .nullPointer
  | some payload => .ok (responseP2PMsg message.seq payload type)

end AMOPImpl

/-- The callback that `Service::asyncSendMessageByP2PNodeID` wraps around the caller's. -/
def Service.onP2PResponse (e : NetworkException) (message : Option P2PMessage) :
    Except Fault AMOPResponse :=
  let packetType := match message with
    | some message => message.packetType.toInt16
    | none => 0
  if e.errorCode ≠ 0 then
    .ok ⟨some ⟨e.errorCode, asciiString e.msg⟩, packetType, message.map P2PMessage.payload⟩
  else
    match message with
    | none => .error .nullPointer
    | some message => .ok ⟨none, packetType, some message.payload⟩

inductive ClientOutcome where
  | notFound
  | succeeded (responseData : Bytes)
  | failed (code : Int) (message : StdString)

namespace ClientOutcome

variable (env : AMOPEnvironment) (requests : AMOPRequests)

structure Of (services : ClientServices) (clients : TopicClients) (topic : StdString) (data : Bytes)
    (outcome : ClientOutcome) : Prop where
  subscribed : clients.topics.queryClientsByTopic topic ≠ []
  service : (clients.createAndGetServiceByClient
      (services.stringToProxy (services.randomChoose (clients.topics.queryClientsByTopic topic)))
      (services.randomChoose (clients.topics.queryClientsByTopic topic))).1 = true ↔
    outcome ≠ .notFound
  response : match outcome,
      services.asyncNotifyAMOPMessage
        (services.randomChoose (clients.topics.queryClientsByTopic topic)) topic data with
    | .notFound, _ => True
    | .succeeded responseData, (error, response) => response = some responseData ∧
      ∀ e, error = some e → e.errorCode = requests.commonError.success
    | .failed code message, (error, _) => error = some ⟨code, message⟩ ∧
      code ≠ requests.commonError.success

def answer : ClientOutcome → Bytes × Int16
  | .notFound =>
    (AMOPMessage.encode {
        type := AMOPMessage.Kind.amopResponse
        status := UInt16.ofInt requests.commonError.notFoundClientByTopicDispatchMsg
        data := asciiString "NotFoundClientByTopicDispatchMsg" },
      env.fw.messageType.amopMessageType.toInt16)
  | .succeeded responseData => (responseData, requests.wsMessageType.toInt16)
  | .failed code message =>
    (AMOPMessage.encode {
        type := AMOPMessage.Kind.amopResponse
        status := UInt16.ofInt code
        data := message },
      env.fw.messageType.amopMessageType.toInt16)

def called (outcome : ClientOutcome) : AMOPResponse :=
  ⟨if (outcome.answer env requests).2.toInt = env.fw.messageType.amopMessageType.toNat then
      some (RetrySender.responseError env.fw (outcome.answer env requests).1) else none,
    (outcome.answer env requests).2, some (outcome.answer env requests).1⟩

end ClientOutcome

namespace AMOPImpl

variable {env : AMOPEnvironment} {requests : AMOPRequests} {services : ClientServices}
  {clients : TopicClients} {topic : StdString} {data : Bytes} {outcome : ClientOutcome}

theorem onReceiveAMOPMessageOfTopic_answer (of : outcome.Of requests services clients topic data) :
    (onReceiveAMOPMessageOfTopic env requests services clients topic data).2 =
      (some (outcome.answer env requests).1, (outcome.answer env requests).2) := by
  obtain ⟨subscribed, service, response⟩ := of
  have some_client : (clients.topics.queryClientsByTopic topic).isEmpty = false := by
    simpa using subscribed
  unfold onReceiveAMOPMessageOfTopic
  simp only [some_client, Bool.false_eq_true, if_false]
  cases outcome with
  | notFound =>
    rw [if_neg (mt service.mp (not_not.mpr rfl))]
    rfl
  | succeeded responseData =>
    rw [if_pos (service.mpr (by simp))]
    obtain ⟨given, succeeds⟩ := response
    unfold onNotified
    cases error : (services.asyncNotifyAMOPMessage
        (services.randomChoose (clients.topics.queryClientsByTopic topic)) topic data).1 with
    | none => exact Prod.ext given rfl
    | some e =>
      simp only [succeeds e error, if_true]
      exact Prod.ext given rfl
  | failed code message =>
    rw [if_pos (service.mpr (by simp))]
    obtain ⟨error, fails⟩ := response
    unfold onNotified
    simp only [error, fails, if_false]
    rfl

theorem onRecvAMOPResponse_answer :
    onRecvAMOPResponse env (outcome.answer env requests).2 (some (outcome.answer env requests).1) =
      .ok (outcome.called env requests) := rfl

/-- The response function of a request that a client of the own gateway answers. -/
theorem asyncSendMessageByTopic_local {connected : P2pID → Bool}
    (alone : clients.topics.queryNodeIDsByTopic connected topic = [])
    (of : outcome.Of requests services clients topic data) (shuffled : List P2pID) :
    (asyncSendMessageByTopic env requests services connected clients topic data shuffled).2 =
      .answered (.ok (outcome.called env requests)) := by
  have some_client : (clients.topics.queryClientsByTopic topic).isEmpty = false := by
    simpa using of.subscribed
  unfold asyncSendMessageByTopic trySendTopicMessageToLocalClient
  simp only [alone, List.isEmpty_nil, if_true, some_client, Bool.false_eq_true, if_false,
    onReceiveAMOPMessageOfTopic_answer of, onRecvAMOPResponse_answer]

variable (env data)

def request (seq : UInt32) : P2PMessage where
  packetType := env.fw.messageType.amopMessageType
  seq := seq
  payload := buildAndEncodeMessage AMOPMessage.Kind.amopRequest data

def arrived (seq : UInt32) : P2PMessage := (request env data seq).received env.fw

variable (requests services topic)

/-- How a request gets to a client of the peer `clients`, and the answer back to the response
    function. `nodeID` is the gateway that asks. -/
structure Remotely (clients : TopicClients) (nodeID : P2pID) (response : AMOPResponse) : Prop where
  asked : ∀ services connected (own : TopicClients) shuffled,
    own.topics.queryNodeIDsByTopic connected topic ≠ [] →
      (asyncSendMessageByTopic env requests services connected own topic data shuffled).2 =
        .asked (({ nodeIDs := own.topics.queryNodeIDsByTopic connected topic } :
            RetrySender).sendMessage requests.commonError shuffled)
          (request env data 0).payload
  requested : ∀ seq suffix,
    P2PMessage.decode env.fw {} (((request env data seq).encode env.fw).2 ++ suffix) =
      .ok ((((request env data seq).encode env.fw).2.length : Int), arrived env data seq)
  dispatched : ∀ seq, dispatcherAMOPMessage env clients.topics nodeID (arrived env data seq) =
    (clients.topics, [.onReceiveAMOPMessage nodeID { type := AMOPMessage.Kind.amopRequest, data }])
  answered : ∀ seq, ∃ reply,
    sendResponse (arrived env data seq)
        (onReceiveAMOPMessage env requests services clients
          { type := AMOPMessage.Kind.amopRequest, data }).2.1
        (onReceiveAMOPMessage env requests services clients
          { type := AMOPMessage.Kind.amopRequest, data }).2.2 = .ok reply ∧
      (∀ suffix, P2PMessage.decode env.fw {} ((reply.encode env.fw).2 ++ suffix) =
        .ok (((reply.encode env.fw).2.length : Int), reply.received env.fw)) ∧
      (∀ (session : Session Nat) callback, session.isActived → seq ∉ session.seq2Callback →
        ((session.asyncSendMessage env.fw (request env data seq) {} (some callback)).onMessage
          Session.success (reply.received env.fw)).pool =
            session.pool ++ [.response callback Session.success (reply.received env.fw)]) ∧
      ∃ p2pResponse,
        Service.onP2PResponse Session.success (some (reply.received env.fw)) = .ok p2pResponse ∧
        ∀ (sender : RetrySender) choosedNodeID shuffled,
          sender.onResponse env.fw requests.commonError choosedNodeID p2pResponse shuffled =
            .ok { sender with
              pending := sender.pending.erase choosedNodeID
              responses := sender.responses ++ [response] }

variable {env requests services topic data}

theorem hasOptions_amop {message : P2PMessage}
    (type : message.packetType = env.fw.messageType.amopMessageType) :
    message.hasOptions env.fw = false := by
  have distinct := env.fw.messageType.distinct
  have apart : env.fw.messageType.amopMessageType ≠ env.fw.messageType.peerToPeerMessage ∧
      env.fw.messageType.amopMessageType ≠ env.fw.messageType.broadcastMessage := by
    simp only [List.nodup_cons, List.mem_cons] at distinct
    grind
  simp [P2PMessage.hasOptions, type, apart.1, apart.2]

theorem hasOptions_answer (plain : requests.wsMessageType ≠ env.fw.messageType.peerToPeerMessage ∧
      requests.wsMessageType ≠ env.fw.messageType.broadcastMessage)
    {message : P2PMessage} (type : message.packetType = (outcome.answer env requests).2.toUInt16) :
    message.hasOptions env.fw = false := by
  cases outcome with
  | notFound => exact hasOptions_amop (type.trans (UInt16.toUInt16_toInt16 _))
  | succeeded responseData =>
    have ws := type.trans (UInt16.toUInt16_toInt16 requests.wsMessageType)
    simp [P2PMessage.hasOptions, ws, plain.1, plain.2]
  | failed code message => exact hasOptions_amop (type.trans (UInt16.toUInt16_toInt16 _))

theorem dispatcher_arrived (nodeID : P2pID) (seq : UInt32) :
    dispatcherAMOPMessage env clients.topics nodeID (arrived env data seq) =
      (clients.topics,
        [.onReceiveAMOPMessage nodeID { type := AMOPMessage.Kind.amopRequest, data }]) := by
  have type : (arrived env data seq).packetType = env.fw.messageType.amopMessageType := rfl
  have payload : (arrived env data seq).payload =
      buildAndEncodeMessage AMOPMessage.Kind.amopRequest data := rfl
  rw [dispatcher_clientMessage type payload (by decide), if_pos rfl]

end AMOPImpl

/-- A response claims the callback that its request has registered. -/
theorem Session.response_claims {κ : Type} (fw : Framework) {session : Session κ}
    (active : session.isActived) (message reply : P2PMessage)
    (fresh : message.seq ∉ session.seq2Callback) (seq : reply.seq = message.seq)
    (response : reply.isRespPacket = true) (options : Options) (callback : κ)
    (e : NetworkException) :
    ((session.asyncSendMessage fw message options (some callback)).onMessage e reply).pool =
      session.pool ++ [.response callback e reply] := by
  obtain ⟨timers, timeoutHandler, writeQueue, writing, written, sent⟩ :=
    asyncSendMessage_active fw message options active callback
  obtain ⟨actived, network, _⟩ := session.isActived_iff.mp active
  have found : (session.asyncSendMessage fw message options (some callback)).getCallbackBySeq
      reply.seq = some { callback, timeoutHandler } := by
    unfold getCallbackBySeq
    rw [sent, seq, Table.lookup_add, if_pos rfl, AList.lookup_eq_none.mpr fresh]
    rfl
  rcases onMessage_cases (session.asyncSendMessage fw message options (some callback)) e reply with
    ⟨_, callbackPtr, responds, handled⟩ | ⟨_, _, none, _⟩
  · have same := responds.2.2.2.symm.trans found
    cases same
    rw [handled, sent]
  · refine absurd ⟨?_, ?_, response, found⟩ (none _)
    · rw [sent]
      exact actived
    · rw [sent]
      exact network

namespace AMOPImpl

variable {env : AMOPEnvironment} {requests : AMOPRequests} {services : ClientServices}
  {clients : TopicClients} {topic : StdString} {data : Bytes} {outcome : ClientOutcome}

/-- The response function of a request that a client of a peer answers. -/
theorem called_remotely (nodeID : P2pID)
    (plain : requests.wsMessageType ≠ env.fw.messageType.peerToPeerMessage ∧
      requests.wsMessageType ≠ env.fw.messageType.broadcastMessage)
    (encodes : requests.buildRequest data = topic)
    (of : outcome.Of requests services clients topic data)
    (requestFits : 18 + data.length < 2 ^ 32)
    (responseFits : 14 + (outcome.answer env requests).1.length < 2 ^ 32) :
    Remotely env requests services topic data clients nodeID (outcome.called env requests) := by
  have received :
      (onReceiveAMOPMessageOfTopic env requests services clients topic data).2 =
        (some (outcome.answer env requests).1, (outcome.answer env requests).2) :=
    onReceiveAMOPMessageOfTopic_answer of
  rw [← encodes] at received
  constructor
  · intro services connected own shuffled others
    have some_peer : (own.topics.queryNodeIDsByTopic connected topic).isEmpty = false := by
      simpa using others
    unfold asyncSendMessageByTopic
    simp only [some_peer, Bool.false_eq_true, if_false]
    rfl
  · intro seq suffix
    apply P2PMessage.decode_encode_plain env.fw (hasOptions_amop rfl)
    show 14 + (AMOPMessage.encode { type := AMOPMessage.Kind.amopRequest, data }).length < 2 ^ 32
    simp only [AMOPMessage.encode_length]
    omega
  · exact dispatcher_arrived nodeID
  · intro seq
    refine ⟨responseP2PMsg seq (outcome.answer env requests).1 (outcome.answer env requests).2,
      ?_, ?_, ?_, ?_⟩
    · unfold onReceiveAMOPMessage
      rw [received]
      rfl
    · exact P2PMessage.decode_encode_plain env.fw (hasOptions_answer plain rfl) responseFits
    · intro session callback active fresh
      have flagged : (responseP2PMsg seq (outcome.answer env requests).1
          (outcome.answer env requests).2).isRespPacket = true := by
        show ((0 ||| MessageExtFieldFlag.response) &&& MessageExtFieldFlag.response != 0) = true
        decide
      exact Session.response_claims env.fw active (request env data seq)
        ((responseP2PMsg seq (outcome.answer env requests).1
          (outcome.answer env requests).2).received env.fw) fresh rfl flagged {} callback
            Session.success
    · exact ⟨_, rfl, fun sender choosedNodeID shuffled => rfl⟩

/-- The response function is called with the same arguments, wherever the client is. -/
theorem unicast_anywhere (env : AMOPEnvironment) (requests : AMOPRequests)
    (plain : requests.wsMessageType ≠ env.fw.messageType.peerToPeerMessage ∧
      requests.wsMessageType ≠ env.fw.messageType.broadcastMessage)
    (topic : StdString) (data : Bytes) (encodes : requests.buildRequest data = topic)
    (outcome : ClientOutcome) (ownServices peerServices : ClientServices)
    (own peer : TopicClients) (connected : P2pID → Bool) (shuffled : List P2pID) (nodeID : P2pID)
    (alone : own.topics.queryNodeIDsByTopic connected topic = [])
    (here : outcome.Of requests ownServices own topic data)
    (there : outcome.Of requests peerServices peer topic data)
    (requestFits : 18 + data.length < 2 ^ 32)
    (responseFits : 14 + (outcome.answer env requests).1.length < 2 ^ 32) :
    ∃ response,
      (asyncSendMessageByTopic env requests ownServices connected own topic data shuffled).2 =
        .answered (.ok response) ∧
      Remotely env requests peerServices topic data peer nodeID response :=
  ⟨outcome.called env requests, asyncSendMessageByTopic_local alone here shuffled,
    called_remotely nodeID plain encodes there requestFits responseFits⟩

section Errors

/-- The error that a requester should see when the service of the client fails with `code`. -/
def reported (code : Int) (message : StdString) : Error :=
  if code = -7 ∨ code = -8 then
    ⟨-1, asciiString "Access to the remote RPC service timed out, please make sure it is online"⟩
  else ⟨code, message⟩

theorem toNat_status (code : Int) : ((UInt16.ofInt code).toNat : Int) = code % 65536 := by
  have bounds : 0 ≤ code % 2 ^ 16 ∧ code % 2 ^ 16 < 65536 := by omega
  unfold UInt16.ofInt
  rw [UInt16.toNat_ofNat']
  omega

theorem status_eq_iff (code other : Int) :
    UInt16.ofInt code = UInt16.ofInt other ↔ code % 65536 = other % 65536 := by
  rw [← toNat_status, ← toNat_status, Int.natCast_inj, UInt16.toNat_inj]

/-- The code survives as the status of a message if and only if it is one, and not one that stands
    for a timeout. -/
theorem responseError_reported_iff (fw : CroppingFramework) (type : UInt16) (code : Int)
    (message : StdString) :
    RetrySender.responseError fw
        (AMOPMessage.encode { type, status := UInt16.ofInt code, data := message }) =
      reported code message ↔ 0 ≤ code ∧ code ≤ 65535 ∧ code ≠ 65528 ∧ code ≠ 65529 := by
  have minusOne : ((UInt16.ofInt (-1)).toNat : Int) = 65535 := by decide
  have status := toNat_status code
  unfold RetrySender.responseError reported
  simp only [AMOPMessage.buildMessage_encode, status_eq_iff, minusOne, status]
  split
  · rename_i timeout
    refine iff_of_false (fun same => ?_) (by omega)
    split at same
    · exact absurd (congrArg Error.errorCode same) (by decide)
    · have code := congrArg Error.errorCode same
      simp only at code
      omega
  · rename_i other
    rw [if_neg (by omega), Error.mk.injEq]
    constructor
    · rintro ⟨same, _⟩
      omega
    · rintro ⟨low, high, _, _⟩
      exact ⟨by omega, rfl⟩

variable {env : AMOPEnvironment} {requests : AMOPRequests}

theorem called_failed (int16 : env.fw.messageType.amopMessageType.toNat < 2 ^ 15) (code : Int)
    (message : StdString) :
    ((ClientOutcome.failed code message).called env requests).error =
      some (RetrySender.responseError env.fw (AMOPMessage.encode {
        type := AMOPMessage.Kind.amopResponse
        status := UInt16.ofInt code
        data := message })) := by
  have below : 2 * env.fw.messageType.amopMessageType.toBitVec.toNat < 2 ^ 16 := by
    have same : env.fw.messageType.amopMessageType.toBitVec.toNat =
      env.fw.messageType.amopMessageType.toNat := rfl
    omega
  apply if_pos
  show env.fw.messageType.amopMessageType.toBitVec.toInt = _
  exact BitVec.toInt_eq_toNat_of_lt below

/-- An error gets to the requester as it is, from a client of the own gateway as from one of a peer,
    if and only if its code is a status that does not stand for a timeout. -/
theorem error_reported_iff (env : AMOPEnvironment) (requests : AMOPRequests)
    (plain : requests.wsMessageType ≠ env.fw.messageType.peerToPeerMessage ∧
      requests.wsMessageType ≠ env.fw.messageType.broadcastMessage)
    (int16 : env.fw.messageType.amopMessageType.toNat < 2 ^ 15)
    (topic : StdString) (data : Bytes) (encodes : requests.buildRequest data = topic)
    (code : Int) (message : StdString) (ownServices peerServices : ClientServices)
    (own peer : TopicClients) (connected : P2pID → Bool) (shuffled : List P2pID) (nodeID : P2pID)
    (alone : own.topics.queryNodeIDsByTopic connected topic = [])
    (here : (ClientOutcome.failed code message).Of requests ownServices own topic data)
    (there : (ClientOutcome.failed code message).Of requests peerServices peer topic data)
    (requestFits : 18 + data.length < 2 ^ 32) (responseFits : 18 + message.length < 2 ^ 32) :
    ∃ response,
      (asyncSendMessageByTopic env requests ownServices connected own topic data shuffled).2 =
        .answered (.ok response) ∧
      Remotely env requests peerServices topic data peer nodeID response ∧
      (response.error = some (reported code message) ↔
        0 ≤ code ∧ code ≤ 65535 ∧ code ≠ 65528 ∧ code ≠ 65529) := by
  refine ⟨(ClientOutcome.failed code message).called env requests,
    asyncSendMessageByTopic_local alone here shuffled,
    called_remotely nodeID plain encodes there requestFits ?_, ?_⟩
  · simp only [ClientOutcome.answer, AMOPMessage.encode_length]
    omega
  · rw [called_failed int16, Option.some.injEq]
    exact responseError_reported_iff env.fw AMOPMessage.Kind.amopResponse code message

end Errors

section OneClient

def subscribing : TopicClients := ({} : TopicClients).subTopic true [99] {[116]}

def standardRequests : AMOPRequests := ⟨RetrySender.standardError, 8, fun _ => [116]⟩

def responding (error : Option Error) (responseData : Option Bytes) : ClientServices :=
  ⟨fun subscribed => subscribed.headD [], fun _ => true, fun _ _ _ => (error, responseData)⟩

theorem succeeded_of (responseData : Bytes) :
    (ClientOutcome.succeeded responseData).Of standardRequests (responding none (some responseData))
      subscribing [116] [1] :=
  ⟨by decide, iff_of_true rfl (by simp), rfl, fun _ none => (by cases none)⟩

theorem failed_of (code : Int) (message : StdString) (fails : code ≠ 0) :
    (ClientOutcome.failed code message).Of standardRequests (responding (some ⟨code, message⟩) none)
      subscribing [116] [1] :=
  ⟨by decide, iff_of_true rfl (by simp), rfl, fails⟩

theorem oneByte_anywhere :
    ∃ response,
      (asyncSendMessageByTopic (.reading .null) standardRequests (responding none (some [7]))
        (fun _ => false) subscribing [116] [1] []).2 = .answered (.ok response) ∧
      Remotely (.reading .null) standardRequests (responding none (some [7])) [116] [1] subscribing
        [97] response :=
  unicast_anywhere (.reading .null) standardRequests (by decide) [116] [1] rfl (.succeeded [7])
    (responding none (some [7])) (responding none (some [7])) subscribing subscribing
    (fun _ => false) [] [97] rfl (succeeded_of [7]) (succeeded_of [7]) (by decide) (by decide)

theorem smallCode_reported :
    ∃ response,
      (asyncSendMessageByTopic (.reading .null) standardRequests
        (responding (some ⟨5, [120]⟩) none) (fun _ => false) subscribing [116] [1] []).2 =
          .answered (.ok response) ∧
      Remotely (.reading .null) standardRequests (responding (some ⟨5, [120]⟩) none) [116] [1]
        subscribing [97] response ∧
      (response.error = some (reported 5 [120]) ↔
        0 ≤ (5 : Int) ∧ (5 : Int) ≤ 65535 ∧ (5 : Int) ≠ 65528 ∧ (5 : Int) ≠ 65529) :=
  error_reported_iff (.reading .null) standardRequests (by decide) (by decide) [116] [1] rfl 5 [120]
    (responding (some ⟨5, [120]⟩) none) (responding (some ⟨5, [120]⟩) none) subscribing subscribing
    (fun _ => false) [] [97] rfl (failed_of 5 [120] (by decide)) (failed_of 5 [120] (by decide))
    (by decide) (by decide)

/-- A negative code is seen as a large one, and the code of a timeout is not the one meant. -/
theorem negativeCode_changes :
    (∃ response,
      (asyncSendMessageByTopic (.reading .null) standardRequests
        (responding (some ⟨-5, [120]⟩) none) (fun _ => false) subscribing [116] [1] []).2 =
          .answered (.ok response) ∧
      response.error = some ⟨65531, [120]⟩ ∧ response.error ≠ some (reported (-5) [120])) ∧
    (∃ response,
      (asyncSendMessageByTopic (.reading .null) standardRequests
        (responding (some ⟨-7, [120]⟩) none) (fun _ => false) subscribing [116] [1] []).2 =
          .answered (.ok response) ∧
      response.error.map Error.errorCode = some 65535 ∧
      response.error ≠ some (reported (-7) [120])) :=
  ⟨⟨_, rfl, rfl, by decide⟩, ⟨_, rfl, rfl, by decide⟩⟩

end OneClient

end AMOPImpl

end BcosGateway

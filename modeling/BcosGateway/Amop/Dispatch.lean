import BcosGateway.Amop.Message
import BcosGateway.Amop.TopicManager
import BcosGateway.Service.Dispatch

/-! What a gateway does with a message about topics. -/

namespace BcosGateway

/-- The code outside the repository that the handlers call. `lexicalCast` is
    `boost::lexical_cast<uint32_t>`. -/
structure AMOPEnvironment where
  fw : CroppingFramework
  json : JsonCpp
  lexicalCast : StdString → Option UInt32

def decimal (text : StdString) : Option UInt32 :=
  if text ≠ [] ∧ text.all (fun char => 48 ≤ char ∧ char ≤ 57) then
    let number := text.foldl (fun number char => 10 * number + (char.toNat - 48)) 0
    if number < 2 ^ 32 then some (UInt32.ofNat number) else none
  else none

def AMOPEnvironment.reading (document : Json) : AMOPEnvironment where
  fw := .standard
  json := .reading document
  lexicalCast := decimal

def Environment.amop {Key : Type} (env : Environment Key)
    (lexicalCast : StdString → Option UInt32) : AMOPEnvironment :=
  ⟨env.fw, env.json, lexicalCast⟩

inductive AMOPAction where
  | asyncSendMessageByP2PNodeID (nodeID : P2pID) (buffer : Bytes)
  | onReceiveAMOPMessage (nodeID : P2pID) (message : AMOPMessage)
  | onReceiveAMOPBroadcastMessage (nodeID : P2pID) (message : AMOPMessage)
  deriving DecidableEq, Repr

namespace AMOPImpl

variable (env : AMOPEnvironment) (topicManager : TopicManager) (nodeID : P2pID)

def buildAndEncodeMessage (type : UInt16) (data : Bytes) : Bytes :=
  AMOPMessage.encode { type, data }

def topicSeqText (topicSeq : UInt32) : StdString := asciiString (toString topicSeq.toNat)

def broadcastTopicSeq : Bytes :=
  buildAndEncodeMessage AMOPMessage.Kind.topicSeq (topicSeqText topicManager.topicSeq)

def onReceiveTopicSeqMessage (message : AMOPMessage) : List AMOPAction :=
  match env.lexicalCast message.data with
  | none => []
  | some topicSeq =>
    if !topicManager.checkTopicSeq nodeID topicSeq then []
    else [.asyncSendMessageByP2PNodeID nodeID
      (buildAndEncodeMessage AMOPMessage.Kind.requestTopic [])]

def onReceiveResponseTopicMessage (message : AMOPMessage) : TopicManager :=
  match TopicManager.parseTopicItemsJson env.json message.data with
  | none => topicManager
  | some (topicSeq, topicItems) =>
    topicManager.updateSeqAndTopicsByNodeID nodeID topicSeq topicItems

def onReceiveRequestTopicMessage : List AMOPAction :=
  [.asyncSendMessageByP2PNodeID nodeID (buildAndEncodeMessage AMOPMessage.Kind.responseTopic
    (topicManager.queryTopicsSubByClient env.json))]

def dispatcherAMOPMessage (message : P2PMessage) : TopicManager × List AMOPAction :=
  if message.packetType ≠ env.fw.messageType.amopMessageType then (topicManager, [])
  else
    let amopMessage := AMOPMessage.buildMessage env.fw message.payload
    let amopMsgType := amopMessage.type
    if amopMsgType = AMOPMessage.Kind.topicSeq then
      (topicManager, onReceiveTopicSeqMessage env topicManager nodeID amopMessage)
    else if amopMsgType = AMOPMessage.Kind.requestTopic then
      (topicManager, onReceiveRequestTopicMessage env topicManager nodeID)
    else if amopMsgType = AMOPMessage.Kind.responseTopic then
      (onReceiveResponseTopicMessage env topicManager nodeID amopMessage, [])
    else if amopMsgType = AMOPMessage.Kind.amopRequest then
      (topicManager, [.onReceiveAMOPMessage nodeID amopMessage])
    else if amopMsgType = AMOPMessage.Kind.amopBroadcast then
      (topicManager, [.onReceiveAMOPBroadcastMessage nodeID amopMessage])
    else
      -- unknown AMOP message type
      (topicManager, [])

def Answers (message : P2PMessage) : Prop :=
  message.packetType = env.fw.messageType.amopMessageType ∧
    (AMOPMessage.buildMessage env.fw message.payload).type = AMOPMessage.Kind.responseTopic

def answer (message : P2PMessage) : Option (UInt32 × TopicItems) :=
  TopicManager.parseTopicItemsJson env.json (AMOPMessage.buildMessage env.fw message.payload).data

theorem buildMessage_buildAndEncodeMessage (type : UInt16) (data : Bytes) :
    AMOPMessage.buildMessage env.fw (buildAndEncodeMessage type data) = { type, data } :=
  AMOPMessage.buildMessage_encode env.fw { type, data }

variable {env topicManager nodeID}

theorem dispatcher_answers {message : P2PMessage} (answers : Answers env message) :
    dispatcherAMOPMessage env topicManager nodeID message =
      (match answer env message with
        | none => topicManager
        | some (topicSeq, topicItems) =>
          topicManager.updateSeqAndTopicsByNodeID nodeID topicSeq topicItems, []) := by
  obtain ⟨packetType, type⟩ := answers
  have topicSeq : AMOPMessage.Kind.responseTopic ≠ AMOPMessage.Kind.topicSeq := by decide
  have requestTopic : AMOPMessage.Kind.responseTopic ≠ AMOPMessage.Kind.requestTopic := by decide
  unfold dispatcherAMOPMessage
  rw [if_neg (not_not.mpr packetType)]
  simp only [type, topicSeq, requestTopic, if_false, if_true]
  rfl

/-- A message that answers no request changes nothing, and what it sends is a request or the topics
    of the clients. -/
theorem dispatcher_others {message : P2PMessage} (others : ¬ Answers env message) :
    (dispatcherAMOPMessage env topicManager nodeID message).1 = topicManager ∧
      ∀ receiver buffer, AMOPAction.asyncSendMessageByP2PNodeID receiver buffer ∈
          (dispatcherAMOPMessage env topicManager nodeID message).2 →
        receiver = nodeID ∧ (buffer = buildAndEncodeMessage AMOPMessage.Kind.requestTopic [] ∨
          buffer = buildAndEncodeMessage AMOPMessage.Kind.responseTopic
            (topicManager.queryTopicsSubByClient env.json)) := by
  unfold dispatcherAMOPMessage
  split
  · exact ⟨rfl, fun _ _ none => (by cases none)⟩
  rename_i packetType
  simp only
  split
  · refine ⟨rfl, fun receiver buffer sends => ?_⟩
    unfold onReceiveTopicSeqMessage at sends
    split at sends
    · cases sends
    split at sends
    · cases sends
    · cases List.mem_singleton.mp sends
      exact ⟨rfl, .inl rfl⟩
  split
  · refine ⟨rfl, fun receiver buffer sends => ?_⟩
    cases List.mem_singleton.mp sends
    exact ⟨rfl, .inr rfl⟩
  split
  · rename_i type
    exact absurd ⟨not_not.mp packetType, type⟩ others
  split
  · refine ⟨rfl, fun receiver buffer sends => ?_⟩
    cases List.mem_singleton.mp sends
  split
  · refine ⟨rfl, fun receiver buffer sends => ?_⟩
    cases List.mem_singleton.mp sends
  · exact ⟨rfl, fun _ _ none => (by cases none)⟩

/-- A message for the clients changes no topics, and goes to the handler of its type. -/
theorem dispatcher_clientMessage {message : P2PMessage} {type : UInt16} {data : Bytes}
    (packetType : message.packetType = env.fw.messageType.amopMessageType)
    (payload : message.payload = buildAndEncodeMessage type data)
    (apart : type ≠ AMOPMessage.Kind.topicSeq ∧ type ≠ AMOPMessage.Kind.requestTopic ∧
      type ≠ AMOPMessage.Kind.responseTopic) :
    dispatcherAMOPMessage env topicManager nodeID message =
      (topicManager,
        if type = AMOPMessage.Kind.amopRequest then [.onReceiveAMOPMessage nodeID { type, data }]
        else if type = AMOPMessage.Kind.amopBroadcast then
          [.onReceiveAMOPBroadcastMessage nodeID { type, data }]
        else []) := by
  unfold dispatcherAMOPMessage
  rw [if_neg (not_not.mpr packetType), payload, buildMessage_buildAndEncodeMessage]
  simp only [apart, if_false]
  split
  · rfl
  split
  · rfl
  · rfl

theorem dispatcher_clients (message : P2PMessage) :
    (dispatcherAMOPMessage env topicManager nodeID message).1.topicSeq = topicManager.topicSeq ∧
      (dispatcherAMOPMessage env topicManager nodeID message).1.client2TopicItems =
        topicManager.client2TopicItems := by
  by_cases answers : Answers env message
  · rw [dispatcher_answers answers]
    cases answer env message with
    | none => exact ⟨rfl, rfl⟩
    | some topics => exact ⟨rfl, rfl⟩
  · rw [(dispatcher_others answers).1]
    exact ⟨rfl, rfl⟩

/-- A condition on what is stored stays true when the topics of an answer meet it. -/
theorem dispatcher_stores {condition : P2pID → UInt32 → TopicItems → Prop}
    (stores : topicManager.Stores condition) {message : P2PMessage}
    (met : Answers env message → ∀ seq items, answer env message = some (seq, items) →
      condition nodeID seq items) :
    (dispatcherAMOPMessage env topicManager nodeID message).1.Stores condition := by
  by_cases answers : Answers env message
  · rw [dispatcher_answers answers]
    cases carried : answer env message with
    | none => exact stores
    | some topics => exact stores.update (met answers topics.1 topics.2 carried)
  · rw [(dispatcher_others answers).1]
    exact stores

end AMOPImpl

end BcosGateway

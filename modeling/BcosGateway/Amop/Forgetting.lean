import BcosGateway.Amop.TopicSync
import BcosGateway.Service.Run

/-! The topics of a peer against the disconnects of its sessions, over whole runs. -/

namespace BcosGateway

namespace TopicSync

section Round

variable (env : AMOPEnvironment) (aID pID : P2pID) (a p : TopicManager)

def round : TopicManager :=
  let (a, requests) := AMOPImpl.dispatcherAMOPMessage env a pID
    (amopMessage env (AMOPImpl.broadcastTopicSeq p))
  let answers := (requests.filterMap (sentTo env pID)).flatMap fun request =>
    (AMOPImpl.dispatcherAMOPMessage env p aID request).2.filterMap (sentTo env aID)
  answers.foldl (fun a answer => (AMOPImpl.dispatcherAMOPMessage env a pID answer).1) a

structure Reads : Prop where
  topicSeq : env.lexicalCast (AMOPImpl.topicSeqText p.topicSeq) = some p.topicSeq
  topics : env.json.parse (p.queryTopicsSubByClient env.json) =
    some (TopicManager.topicDocument p.topicSeq p.topicItems)

variable {env p}

theorem dispatcher_broadcast (reads : Reads env p) :
    AMOPImpl.dispatcherAMOPMessage env a pID (amopMessage env (AMOPImpl.broadcastTopicSeq p)) =
      (a, if a.checkTopicSeq pID p.topicSeq then [.asyncSendMessageByP2PNodeID pID
        (AMOPImpl.buildAndEncodeMessage AMOPMessage.Kind.requestTopic [])] else []) := by
  have type (buffer : Bytes) : (amopMessage env buffer).packetType =
      env.fw.messageType.amopMessageType := rfl
  unfold AMOPImpl.dispatcherAMOPMessage
  rw [if_neg (not_not.mpr (type _))]
  simp only [amopMessage, AMOPImpl.broadcastTopicSeq, AMOPImpl.buildMessage_buildAndEncodeMessage,
    if_true, AMOPImpl.onReceiveTopicSeqMessage, reads.topicSeq]
  cases a.checkTopicSeq pID p.topicSeq with
  | false => rfl
  | true => rfl

theorem dispatcher_request :
    (AMOPImpl.dispatcherAMOPMessage env p aID (amopMessage env
      (AMOPImpl.buildAndEncodeMessage AMOPMessage.Kind.requestTopic []))).2 =
        AMOPImpl.onReceiveRequestTopicMessage env p aID := by
  have other : AMOPMessage.Kind.requestTopic ≠ AMOPMessage.Kind.topicSeq := by decide
  have type (buffer : Bytes) : (amopMessage env buffer).packetType =
      env.fw.messageType.amopMessageType := rfl
  unfold AMOPImpl.dispatcherAMOPMessage
  rw [if_neg (not_not.mpr (type _))]
  simp only [amopMessage, AMOPImpl.buildMessage_buildAndEncodeMessage, other, if_false, if_true]

theorem round_eq (reads : Reads env p) :
    round env aID pID a p = if a.checkTopicSeq pID p.topicSeq then
      a.updateSeqAndTopicsByNodeID pID p.topicSeq p.topicItems else a := by
  unfold round
  rw [dispatcher_broadcast pID a reads]
  cases a.checkTopicSeq pID p.topicSeq with
  | false => rfl
  | true =>
    have answers : AMOPImpl.Answers env (amopMessage env (AMOPImpl.buildAndEncodeMessage
        AMOPMessage.Kind.responseTopic (p.queryTopicsSubByClient env.json))) := by
      unfold AMOPImpl.Answers amopMessage
      rw [AMOPImpl.buildMessage_buildAndEncodeMessage]
      exact ⟨rfl, rfl⟩
    simp only [if_true, List.filterMap_cons, List.filterMap_nil, sentTo, List.flatMap_cons,
      List.flatMap_nil, dispatcher_request, AMOPImpl.onReceiveRequestTopicMessage, List.append_nil,
      List.foldl_cons, List.foldl_nil, AMOPImpl.dispatcher_answers answers, answer_amopMessage]
    unfold TopicManager.queryTopicsSubByClient
    rw [TopicManager.parseTopicItemsJson_document reads.topics]

end Round

end TopicSync

/-- A gateway as the factory wires it, with the tasks of the pool for messages about topics, which
    has one thread. `heard` names the peers of which an answer was read, and `owed` the sessions of
    which the disconnect was handled and since when no later session of the peer has answered. -/
structure AMOPGateway (φ : Type) where
  service : Service φ := {}
  topicManager : TopicManager := {}
  pool : List (Nat × P2PMessage) := []
  heard : List P2pID := []
  owed : List (P2pID × Nat) := []

namespace AMOPGateway

inductive Event (φ : Type) where
  | service (event : Service.Event φ)
  | perform (operation : TopicManager.Operation)
  | dispatch (callback : Nat) (thrown : Option (Session Nat))

variable {φ Key : Type} [DecidableEq φ] (env : Environment Key)
  (lexicalCast : StdString → Option UInt32)

def amop : AMOPEnvironment := { fw := env.fw, json := env.json, lexicalCast }

def onAMOPMessage (service : Service φ) : Service.Event φ → List (Nat × P2PMessage)
  | .execute object task =>
    match service.p2pSessions[object]?.bind fun p2pSession => p2pSession.session.pool[task]? with
    | some (.handler e message) =>
      match (service.dequeue object task).onMessage env object e message with
      | .error _ => []
      | .ok (_, actions) => actions.filterMap fun action => match action with
        | .handler message => some (object, message)
        | _ => none
    | _ => []
  | _ => []

def disconnected (service : Service φ) : Service.Event φ → List (P2pID × Nat)
  | .onDisconnect pending =>
    match service.disconnecting[pending]? with
    | none => []
    | some (_, object) =>
      (service.p2pSessions[object]?.map fun p2pSession => (p2pSession.p2pID, object)).toList
  | _ => []

def send (callback : Nat) (thrown : Option (Session Nat)) (service : Service φ) :
    AMOPAction → Service φ
  | .asyncSendMessageByP2PNodeID nodeID buffer =>
    (service.asyncSendMessageByP2PNodeID env service env.fw.messageType.amopMessageType nodeID
      buffer {} callback thrown).1
  | .onReceiveAMOPMessage .. | .onReceiveAMOPBroadcastMessage .. => service

def front (gateway : AMOPGateway φ) : Option (P2pID × Nat × P2PMessage) :=
  match gateway.pool with
  | [] => none
  | (object, message) :: _ =>
    gateway.service.p2pSessions[object]?.map fun p2pSession => (p2pSession.p2pID, object, message)

instance (message : P2PMessage) : Decidable (AMOPImpl.Answers (amop env lexicalCast) message) :=
  inferInstanceAs (Decidable (_ ∧ _))

def Readable (message : P2PMessage) : Prop :=
  AMOPImpl.Answers (amop env lexicalCast) message ∧
    (AMOPImpl.answer (amop env lexicalCast) message).isSome

instance (message : P2PMessage) : Decidable (Readable env lexicalCast message) :=
  inferInstanceAs (Decidable (_ ∧ _))

def hear (heard : List P2pID) (p2pID : P2pID) (message : P2PMessage) : List P2pID :=
  if Readable env lexicalCast message then p2pID :: heard else heard

def pay (owed : List (P2pID × Nat)) (p2pID : P2pID) (object : Nat) (message : P2PMessage) :
    List (P2pID × Nat) :=
  if AMOPImpl.Answers (amop env lexicalCast) message then
    owed.filter fun due => ¬ (due.1 = p2pID ∧ due.2 < object)
  else owed

def step (gateway : AMOPGateway φ) : Event φ → Option (AMOPGateway φ)
  | .service event =>
    (gateway.service.step env event).map fun service =>
      { gateway with
        service
        pool := gateway.pool ++ onAMOPMessage env gateway.service event
        owed := gateway.owed ++ disconnected gateway.service event }
  | .perform operation =>
    some { gateway with topicManager := gateway.topicManager.perform env.json operation }
  | .dispatch callback thrown =>
    gateway.front.map fun (p2pID, object, message) =>
      let (topicManager, actions) := AMOPImpl.dispatcherAMOPMessage (amop env lexicalCast)
        gateway.topicManager p2pID message
      { service := actions.foldl (send env callback thrown) gateway.service
        topicManager
        pool := gateway.pool.tail
        heard := hear env lexicalCast gateway.heard p2pID message
        owed := pay env lexicalCast gateway.owed p2pID object message }

/-- No disconnect of a peer is handled that was heard, and no answer is read of a session that has
    been disconnected. -/
def Unheard (gateway : AMOPGateway φ) : Event φ → Prop
  | .service event => ∀ due ∈ disconnected gateway.service event, due.1 ∉ gateway.heard
  | .perform _ => True
  | .dispatch _ _ => ∀ task ∈ gateway.front, Readable env lexicalCast task.2.2 →
    ∀ due ∈ gateway.owed, due.1 = task.1 → due.2 < task.2.1

instance (gateway : AMOPGateway φ) :
    ∀ event, Decidable (Unheard env lexicalCast gateway event)
  | .service _ => inferInstanceAs (Decidable (∀ _ ∈ _, _))
  | .perform _ => inferInstanceAs (Decidable True)
  | .dispatch _ _ => inferInstanceAs (Decidable (∀ _ ∈ _, _ → ∀ _ ∈ _, _ → _))

/-- Every number of a peer that is owed counts as changed, so that the first round of its next
    session brings its topics. -/
structure Forgets (gateway : AMOPGateway φ) : Prop where
  changed : ∀ due ∈ gateway.owed, ∀ topicSeq,
    gateway.topicManager.checkTopicSeq due.1 topicSeq = true
  synced : ∀ due ∈ gateway.owed, ∀ p, TopicSync.Reads (amop env lexicalCast) p →
    (TopicSync.round (amop env lexicalCast) gateway.service.nodeID due.1 gateway.topicManager
      p).stored due.1 = (some p.topicSeq, some p.topicItems)

structure Initial (gateway : AMOPGateway φ) : Prop where
  nodeID2TopicSeq : gateway.topicManager.nodeID2TopicSeq = ∅
  heard : gateway.heard = []
  owed : gateway.owed = []

variable {env lexicalCast} {gateway next : AMOPGateway φ}

omit [DecidableEq φ] in
theorem checkTopicSeq_iff {topicManager : TopicManager} {p2pID : P2pID} :
    (∀ topicSeq, topicManager.checkTopicSeq p2pID topicSeq = true) ↔
      topicManager.nodeID2TopicSeq.lookup p2pID = none := by
  unfold TopicManager.checkTopicSeq
  cases topicManager.nodeID2TopicSeq.lookup p2pID with
  | none => simp
  | some seq =>
    simp only [bne_iff_ne, reduceCtorEq, iff_false]
    exact fun every => every seq rfl

omit [DecidableEq φ] in
theorem forgets_iff : gateway.Forgets env lexicalCast ↔
    ∀ due ∈ gateway.owed, gateway.topicManager.nodeID2TopicSeq.lookup due.1 = none := by
  constructor
  · intro forgets due member
    exact checkTopicSeq_iff.mp (forgets.changed due member)
  · intro forgotten
    refine ⟨fun due member => checkTopicSeq_iff.mpr (forgotten due member), ?_⟩
    intro due member p reads
    rw [TopicSync.round_eq _ _ _ reads, if_pos (checkTopicSeq_iff.mpr (forgotten due member) _),
      TopicManager.stored_updateSeqAndTopicsByNodeID, if_pos rfl]

def Remembers (gateway : AMOPGateway φ) : Prop :=
  ∀ p2pID, p2pID ∈ gateway.heard ↔
    (gateway.topicManager.nodeID2TopicSeq.lookup p2pID).isSome

theorem dispatcher_lookup (topicManager : TopicManager) (p2pID other : P2pID)
    (message : P2PMessage) :
    ((AMOPImpl.dispatcherAMOPMessage (amop env lexicalCast) topicManager p2pID
      message).1.nodeID2TopicSeq.lookup other).isSome ↔
        (other = p2pID ∧ Readable env lexicalCast message) ∨
          (topicManager.nodeID2TopicSeq.lookup other).isSome := by
  by_cases answers : AMOPImpl.Answers (amop env lexicalCast) message
  · rw [AMOPImpl.dispatcher_answers answers]
    unfold Readable
    cases AMOPImpl.answer (amop env lexicalCast) message with
    | none => simp
    | some topics =>
      simp only [TopicManager.updateSeqAndTopicsByNodeID, Table.lookup_insert_if]
      by_cases same : other = p2pID
      · simp [same, answers]
      · simp [same]
  · rw [(AMOPImpl.dispatcher_others answers).1]
    exact (or_iff_right fun readable => answers readable.2.1).symm

theorem Remembers.step (remembers : gateway.Remembers) {event : Event φ}
    (taken : step env lexicalCast gateway event = some next) : next.Remembers := by
  cases event with
  | service event =>
    obtain ⟨service, _, rfl⟩ := Option.map_eq_some_iff.mp taken
    exact remembers
  | perform operation =>
    cases taken
    intro p2pID
    have kept := congrFun (TopicManager.perform_counts env.json gateway.topicManager operation).1 p2pID
    rw [remembers p2pID, (Prod.mk.inj kept).1]
  | dispatch callback thrown =>
    obtain ⟨⟨p2pID, object, message⟩, _, rfl⟩ := Option.map_eq_some_iff.mp taken
    intro other
    simp only [dispatcher_lookup, hear]
    rw [← remembers other]
    by_cases readable : Readable env lexicalCast message
    · simp [readable]
    · simp [readable]

/-- A step keeps the promise if and only if it meets the condition. -/
theorem forgets_step (remembers : gateway.Remembers) (forgets : gateway.Forgets env lexicalCast)
    {event : Event φ} (taken : AMOPGateway.step env lexicalCast gateway event = some next) :
    next.Forgets env lexicalCast ↔ Unheard env lexicalCast gateway event := by
  have forgotten := forgets_iff.mp forgets
  have stored (p2pID : P2pID) : p2pID ∉ gateway.heard ↔
      gateway.topicManager.nodeID2TopicSeq.lookup p2pID = none := by
    rw [remembers p2pID, Option.not_isSome_iff_eq_none]
  rw [forgets_iff]
  cases event with
  | service event =>
    obtain ⟨service, _, rfl⟩ := Option.map_eq_some_iff.mp taken
    simp only [Unheard, stored]
    constructor
    · intro kept due new
      exact kept due (List.mem_append_right _ new)
    · intro unheard due member
      rcases List.mem_append.mp member with old | new
      · exact forgotten due old
      · exact unheard due new
  | perform operation =>
    cases taken
    refine iff_of_true (fun due member => ?_) trivial
    have kept := congrFun (TopicManager.perform_counts env.json gateway.topicManager operation).1 due.1
    exact (Prod.mk.inj kept).1.trans (forgotten due member)
  | dispatch callback thrown =>
    obtain ⟨⟨p2pID, object, message⟩, first, rfl⟩ := Option.map_eq_some_iff.mp taken
    have lookup (other : P2pID) := @dispatcher_lookup _ env lexicalCast gateway.topicManager p2pID
      other message
    simp only [Unheard, first, Option.mem_some_iff, forall_eq', ← Option.not_isSome_iff_eq_none,
      lookup]
    constructor
    · intro kept readable due member same
      by_contra earlier
      have owes : due ∈ pay env lexicalCast gateway.owed p2pID object message := by
        unfold pay
        rw [if_pos readable.1]
        exact List.mem_filter.mpr ⟨member, by simp [earlier]⟩
      exact kept due owes (.inl ⟨same, readable⟩)
    · intro unheard due owes
      have member : due ∈ gateway.owed := by
        unfold pay at owes
        split at owes
        · exact List.mem_of_mem_filter owes
        · exact owes
      rintro (⟨same, readable⟩ | old)
      · have earlier := unheard readable due member same
        unfold pay at owes
        rw [if_pos readable.1] at owes
        have later := (List.mem_filter.mp owes).2
        simp [same, earlier] at later
      · rw [forgotten due member] at old
        cases old

omit [DecidableEq φ] in
theorem Initial.forgets (initial : gateway.Initial) : gateway.Forgets env lexicalCast := by
  apply forgets_iff.mpr
  intro due member
  rw [initial.owed] at member
  cases member

omit [DecidableEq φ] in
theorem Initial.remembers (initial : gateway.Initial) : gateway.Remembers := by
  intro p2pID
  rw [initial.heard, initial.nodeID2TopicSeq, AList.lookup_empty]
  simp

/-- A gateway forgets the topics of every peer whose disconnect it has handled, if and only if no
    peer that was heard disconnects and no session that was disconnected is heard. -/
theorem forgets_everywhere_iff (env : Environment Key) (lexicalCast : StdString → Option UInt32)
    (fresh : AMOPGateway φ) (events : List (Event φ)) {last : AMOPGateway φ}
    (initial : fresh.Initial)
    (ran : Transition.run (step env lexicalCast) fresh events = some last) :
    (∀ moment, Transition.Passes (step env lexicalCast) fresh events moment →
      moment.Forgets env lexicalCast) ↔
        Transition.Meets (step env lexicalCast) (Unheard env lexicalCast) fresh events :=
  Transition.passes_iff_meets (fun _ _ _ remembers taken => remembers.step taken)
    (fun _ _ _ remembers forgets taken => forgets_step remembers forgets taken) initial.remembers
    initial.forgets ran

def wired : AMOPGateway Nat := { service := { msgHandlers := (∅ : KeySet UInt16).insert 7 () } }

def peer : TopicManager := ({} : TopicManager).subTopic [99] {[120]}

def restartedPeer : TopicManager := ({} : TopicManager).subTopic [99] {[121]}

def peerEnvironment : Environment Bytes :=
  .reading (TopicManager.topicDocument peer.topicSeq peer.topicItems)

def connect : Event Nat :=
  .service (.onConnect Session.success [112] { address := "127.0.0.1", port := 30300 } {})

def arrive (object callback : Nat) (buffer : Bytes) : List (Event Nat) :=
  [.service (.session object (.onMessage Session.success
      (TopicSync.amopMessage (amop peerEnvironment decimal) buffer))),
    .service (.execute object 0), .dispatch callback none]

/-- The peer tells its topics, restarts with other topics, and reaches the same number. -/
def restart : List (Event Nat) :=
  connect :: arrive 0 0 (AMOPImpl.broadcastTopicSeq peer) ++
    arrive 0 1 (AMOPImpl.buildAndEncodeMessage AMOPMessage.Kind.responseTopic
      (peer.queryTopicsSubByClient peerEnvironment.json)) ++
    [.service (.session 0 (.drop .tcpError)), .service (.execute 0 1), .service (.onDisconnect 0),
      connect] ++ arrive 1 2 (AMOPImpl.broadcastTopicSeq restartedPeer)

theorem restart_remembers :
    ∃ last, Transition.run (step peerEnvironment decimal) wired restart = some last ∧
      ¬ last.Forgets peerEnvironment decimal ∧
      (TopicSync.round (amop peerEnvironment decimal) [] [112] last.topicManager
        restartedPeer).stored [112] = (some 2, some {[120]}) ∧
      restartedPeer.topicSeq = 2 ∧ restartedPeer.topicItems = {[121]} := by
  obtain ⟨last, ran, owed, unchanged, kept⟩ : ∃ last,
      Transition.run (step peerEnvironment decimal) wired restart = some last ∧
        last.owed = [([112], 0)] ∧ last.topicManager.checkTopicSeq [112] 2 = false ∧
        (TopicSync.round (amop peerEnvironment decimal) [] [112] last.topicManager
          restartedPeer).stored [112] = (some 2, some {[120]}) := ⟨_, rfl, rfl, rfl, rfl⟩
  refine ⟨last, ran, fun forgets => ?_, kept, rfl, rfl⟩
  have changed := forgets.changed ([112], 0) (by rw [owed]; exact List.mem_singleton_self _) 2
  rw [unchanged] at changed
  cases changed

def unanswered : List (Event Nat) :=
  connect :: arrive 0 0 (AMOPImpl.broadcastTopicSeq peer) ++
    [.service (.session 0 (.drop .tcpError)), .service (.execute 0 1), .service (.onDisconnect 0),
      connect] ++
    arrive 1 1 (AMOPImpl.buildAndEncodeMessage AMOPMessage.Kind.responseTopic
      (peer.queryTopicsSubByClient peerEnvironment.json))

theorem unanswered_forgets :
    ∃ last, Transition.run (step peerEnvironment decimal) wired unanswered = some last ∧
      ∀ moment, Transition.Passes (step peerEnvironment decimal) wired unanswered moment →
        moment.Forgets peerEnvironment decimal := by
  obtain ⟨last, ran⟩ : ∃ last,
      Transition.run (step peerEnvironment decimal) wired unanswered = some last := ⟨_, rfl⟩
  exact ⟨last, ran, (forgets_everywhere_iff peerEnvironment decimal wired unanswered
    ⟨rfl, rfl, rfl⟩ ran).mpr (by decide)⟩

end AMOPGateway

end BcosGateway

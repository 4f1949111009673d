import BcosGateway.Amop.TopicRounds
import BcosGateway.Lib.UnderWay
import BcosGateway.Service.NodeListSync
import Mathlib.Logic.Function.Basic

/-! Any number of gateways that tell each other the topics of their clients. Once everything that a
broadcast of a topic number leads to has been read, in whatever order, the receiver has the topics of
the sender. -/

namespace BcosGateway

namespace AMOPImpl

variable {env : AMOPEnvironment} {topicManager : TopicManager} {nodeID : P2pID}

def OfKind (env : AMOPEnvironment) (type : UInt16) (message : P2PMessage) : Prop :=
  message.packetType = env.fw.messageType.amopMessageType ∧
    (AMOPMessage.buildMessage env.fw message.payload).type = type

theorem dispatcher_topicSeq {message : P2PMessage}
    (kind : OfKind env AMOPMessage.Kind.topicSeq message) :
    dispatcherAMOPMessage env topicManager nodeID message =
      (topicManager, onReceiveTopicSeqMessage env topicManager nodeID
        (AMOPMessage.buildMessage env.fw message.payload)) := by
  unfold dispatcherAMOPMessage
  rw [if_neg (not_not.mpr kind.1)]
  simp only [kind.2, if_true]

theorem dispatcher_requestTopic {message : P2PMessage}
    (kind : OfKind env AMOPMessage.Kind.requestTopic message) :
    dispatcherAMOPMessage env topicManager nodeID message =
      (topicManager, onReceiveRequestTopicMessage env topicManager nodeID) := by
  have other : AMOPMessage.Kind.requestTopic ≠ AMOPMessage.Kind.topicSeq := by decide
  unfold dispatcherAMOPMessage
  rw [if_neg (not_not.mpr kind.1)]
  simp only [kind.2, other, if_false, if_true]

/-- Of what is stored a message changes at most what its sender has told. -/
theorem lookup_dispatcher (message : P2PMessage) {other : P2pID}
    (unanswered : other = nodeID → ∀ seq items, Answers env message →
      answer env message = some (seq, items) → topicManager.nodeID2TopicSeq.lookup other = some seq) :
    (dispatcherAMOPMessage env topicManager nodeID message).1.nodeID2TopicSeq.lookup other =
      topicManager.nodeID2TopicSeq.lookup other := by
  by_cases answers : Answers env message
  · rw [dispatcher_answers answers]
    cases carried : answer env message with
    | none => rfl
    | some topics =>
      simp only [TopicManager.updateSeqAndTopicsByNodeID]
      rw [Table.lookup_insert_if]
      split
      · rename_i same
        exact (unanswered same topics.1 topics.2 answers carried).symm
      · rfl
  · rw [(dispatcher_others answers).1]

end AMOPImpl

/-- Gateways with the topics of their clients, and everything that was sent, with its sender and its
    receiver. It may arrive at any time and more than once. `changes` counts the calls of
    `incTopicSeq` of each. -/
structure TopicMesh where
  managers : P2pID → TopicManager
  wire : List (P2pID × P2pID × P2PMessage) := []
  changes : P2pID → Nat := fun _ => 0

namespace TopicMesh

variable (env : AMOPEnvironment)

inductive Event where
  | perform (p2pID : P2pID) (operation : TopicManager.Operation)
  | notifyNodeIDs (p2pID : P2pID) (nodeIDs : List P2pID)
  | broadcastTopicSeq (sender : P2pID) (receivers : List P2pID)
  /-- What the gateways have to send each other beside this exchange. -/
  | send (sender receiver : P2pID) (message : P2PMessage)
  | receive (flight : Nat)

def setManager (mesh : TopicMesh) (p2pID : P2pID) (manager : TopicManager) : TopicMesh :=
  { mesh with managers := Function.update mesh.managers p2pID manager }

def put (mesh : TopicMesh) (sender : P2pID) (messages : List (P2pID × P2PMessage)) : TopicMesh :=
  { mesh with wire := mesh.wire ++ messages.map (Prod.mk sender) }

def sent : AMOPAction → Option (P2pID × P2PMessage)
  | .asyncSendMessageByP2PNodeID nodeID buffer => some (nodeID, TopicSync.amopMessage env buffer)
  | .onReceiveAMOPMessage .. | .onReceiveAMOPBroadcastMessage .. => none

def step (mesh : TopicMesh) : Event → Option TopicMesh
  | .perform p2pID operation =>
    let manager := (mesh.managers p2pID).perform env.json operation
    some { mesh.setManager p2pID manager with
      changes := Function.update mesh.changes p2pID
        (if manager.topicSeq = (mesh.managers p2pID).topicSeq then mesh.changes p2pID
        else mesh.changes p2pID + 1) }
  | .notifyNodeIDs p2pID nodeIDs =>
    some (mesh.setManager p2pID ((mesh.managers p2pID).notifyNodeIDs nodeIDs))
  | .broadcastTopicSeq sender receivers =>
    some (mesh.put sender (receivers.map fun receiver => (receiver,
      TopicSync.amopMessage env (AMOPImpl.broadcastTopicSeq (mesh.managers sender)))))
  | .send sender receiver message => some (mesh.put sender [(receiver, message)])
  | .receive flight =>
    match mesh.wire[flight]? with
    | none => none
    | some (sender, me, message) =>
      let (manager, actions) :=
        AMOPImpl.dispatcherAMOPMessage env (mesh.managers me) sender message
      some ((mesh.setManager me manager).put me (actions.filterMap (sent env)))

/-- `lexical_cast` and jsoncpp read back what is written now, and nothing else is sent as a topic
    number or as topics. -/
def Proper (mesh : TopicMesh) : Event → Prop
  | .broadcastTopicSeq sender _ =>
    env.lexicalCast (AMOPImpl.topicSeqText (mesh.managers sender).topicSeq) =
      some (mesh.managers sender).topicSeq
  | .receive flight => ∀ sender me message, mesh.wire[flight]? = some (sender, me, message) →
    env.json.parse ((mesh.managers me).queryTopicsSubByClient env.json) =
      some (TopicManager.topicDocument (mesh.managers me).topicSeq (mesh.managers me).topicItems)
  | .send _ _ message => ¬ AMOPImpl.OfKind env AMOPMessage.Kind.topicSeq message ∧
    ¬ AMOPImpl.Answers env message
  | _ => True

structure Initial (mesh : TopicMesh) : Prop where
  stored : ∀ p2pID peer, (mesh.managers p2pID).stored peer = (none, none)
  topicSeq : ∀ p2pID, (mesh.managers p2pID).topicSeq = 1
  wire : mesh.wire = []
  changes : ∀ p2pID, mesh.changes p2pID = 0

abbrev topicSeqAfter : Nat → UInt32 := NodeListSync.statusSeqAfter

def store (mesh : TopicMesh) (p2pID : P2pID) : Versioned.Store TopicItems where
  content := (mesh.managers p2pID).topicItems
  changes := mesh.changes p2pID
  settled := True

structure Sound (mesh : TopicMesh) : Prop where
  counted : ∀ p2pID, (mesh.managers p2pID).topicSeq = topicSeqAfter (mesh.changes p2pID)
  answers : ∀ flight ∈ mesh.wire, AMOPImpl.Answers env flight.2.2 → ∀ seq items,
    AMOPImpl.answer env flight.2.2 = some (seq, items) →
      (mesh.store flight.1).Dated topicSeqAfter seq items
  stores : ∀ p2pID, (mesh.managers p2pID).Stores fun peer seq items =>
    (mesh.store peer).Dated topicSeqAfter seq items

structure UpToDate (manager : TopicManager) (message : P2PMessage) : Prop where
  topicSeq : AMOPImpl.OfKind env AMOPMessage.Kind.topicSeq message →
    env.lexicalCast (AMOPMessage.buildMessage env.fw message.payload).data = some manager.topicSeq
  answer : AMOPImpl.Answers env message →
    AMOPImpl.answer env message = some (manager.topicSeq, manager.topicItems)

variable {env} {mesh next : TopicMesh} {a b : P2pID}

section Steps

structure Counts (mesh next : TopicMesh) (p2pID : P2pID) : Prop where
  monotone : mesh.changes p2pID ≤ next.changes p2pID
  counts : (next.changes p2pID = mesh.changes p2pID + 1 ∧
      (next.managers p2pID).topicSeq = (mesh.managers p2pID).topicSeq + 1) ∨
    (next.changes p2pID = mesh.changes p2pID ∧
      (next.managers p2pID).topicSeq = (mesh.managers p2pID).topicSeq ∧
      (next.managers p2pID).client2TopicItems = (mesh.managers p2pID).client2TopicItems)

theorem Counts.same (p2pID : P2pID) (changes : next.changes = mesh.changes)
    (topicSeq : (next.managers p2pID).topicSeq = (mesh.managers p2pID).topicSeq)
    (clients : (next.managers p2pID).client2TopicItems =
      (mesh.managers p2pID).client2TopicItems) : Counts mesh next p2pID :=
  ⟨Nat.le_of_eq (congrFun changes p2pID).symm,
    .inr ⟨congrFun changes p2pID, topicSeq, clients⟩⟩

/-- A property of the managers that a change of one of them keeps. -/
theorem setManager_all {holds : P2pID → TopicManager → Prop} {me : P2pID} {manager : TopicManager}
    (mine : holds me manager) (others : ∀ p2pID, p2pID ≠ me → holds p2pID (mesh.managers p2pID))
    (p2pID : P2pID) : holds p2pID ((mesh.setManager me manager).managers p2pID) := by
  unfold setManager
  by_cases here : p2pID = me
  · subst here
    simp only [Function.update_self]
    exact mine
  · simp only [Function.update_of_ne here]
    exact others p2pID here

theorem step_counts {event : Event} (taken : step env mesh event = some next) (p2pID : P2pID) :
    Counts mesh next p2pID := by
  cases event with
  | perform me operation =>
    cases taken
    by_cases here : p2pID = me
    · subst here
      rcases (TopicManager.perform_counts env.json (mesh.managers p2pID) operation).2 with
        counted | unchanged
      · have apart : ((mesh.managers p2pID).perform env.json operation).topicSeq ≠
            (mesh.managers p2pID).topicSeq := counted ▸ seq_succ_ne _
        refine ⟨?_, .inl ⟨?_, ?_⟩⟩
        · simp only [Function.update_self, if_neg apart]
          exact Nat.le_succ _
        · simp only [Function.update_self, if_neg apart]
        · simp only [setManager, Function.update_self, counted]
      · refine ⟨?_, .inr ?_⟩
        · simp only [unchanged, Function.update_self, if_true]
          exact Nat.le_refl _
        · simp only [setManager, unchanged, Function.update_self, if_true]
          exact ⟨trivial, trivial, trivial⟩
    · refine ⟨?_, .inr ?_⟩
      · simp only [Function.update_of_ne here]
        exact Nat.le_refl _
      · simp only [setManager, Function.update_of_ne here]
        exact ⟨trivial, trivial, trivial⟩
  | notifyNodeIDs me nodeIDs =>
    cases taken
    have own := (mesh.managers me).notifyNodeIDs_clients nodeIDs
    have kept := @setManager_all mesh (fun p2pID manager =>
      manager.topicSeq = (mesh.managers p2pID).topicSeq ∧
        manager.client2TopicItems = (mesh.managers p2pID).client2TopicItems) me _ own
      (fun _ _ => ⟨rfl, rfl⟩) p2pID
    exact .same p2pID rfl kept.1 kept.2
  | broadcastTopicSeq sender receivers =>
    cases taken
    exact .same p2pID rfl rfl rfl
  | send sender receiver message =>
    cases taken
    exact .same p2pID rfl rfl rfl
  | receive flight =>
    simp only [step] at taken
    split at taken
    · cases taken
    rename_i sender me message arrives
    cases taken
    have own : _ ∧ _ := @AMOPImpl.dispatcher_clients env (mesh.managers me) sender message
    have kept := @setManager_all mesh (fun p2pID manager =>
      manager.topicSeq = (mesh.managers p2pID).topicSeq ∧
        manager.client2TopicItems = (mesh.managers p2pID).client2TopicItems) me _ own
      (fun _ _ => ⟨rfl, rfl⟩) p2pID
    exact .same p2pID rfl kept.1 kept.2

theorem amopMessage_kind (env : AMOPEnvironment) (type kind : UInt16) (data : Bytes) :
    AMOPImpl.OfKind env kind
      (TopicSync.amopMessage env (AMOPImpl.buildAndEncodeMessage type data)) ↔ type = kind := by
  unfold AMOPImpl.OfKind TopicSync.amopMessage
  rw [AMOPImpl.buildMessage_buildAndEncodeMessage]
  exact and_iff_right rfl

/-- The wire only grows, by messages that carry what their senders have. -/
theorem step_wire {event : Event} (proper : Proper env mesh event)
    (taken : step env mesh event = some next) :
    ∃ more, next.wire = mesh.wire ++ more ∧
      ∀ flight ∈ more, UpToDate env (mesh.managers flight.1) flight.2.2 := by
  cases event with
  | perform me operation =>
    cases taken
    exact ⟨[], (List.append_nil _).symm, fun _ none => (by cases none)⟩
  | notifyNodeIDs me nodeIDs =>
    cases taken
    exact ⟨[], (List.append_nil _).symm, fun _ none => (by cases none)⟩
  | broadcastTopicSeq sender receivers =>
    cases taken
    refine ⟨_, rfl, fun flight member => ?_⟩
    obtain ⟨_, listed, rfl⟩ := List.mem_map.mp member
    obtain ⟨receiver, _, rfl⟩ := List.mem_map.mp listed
    refine ⟨fun _ => ?_, fun answers => ?_⟩
    · simp only [TopicSync.amopMessage, AMOPImpl.broadcastTopicSeq,
        AMOPImpl.buildMessage_buildAndEncodeMessage]
      exact proper
    · exact absurd ((amopMessage_kind env _ _ _).mp answers) (by decide)
  | send sender receiver message =>
    cases taken
    refine ⟨_, rfl, fun flight member => ?_⟩
    obtain rfl := List.mem_singleton.mp member
    exact ⟨fun kind => absurd kind proper.1, fun answers => absurd answers proper.2⟩
  | receive flight =>
    simp only [step] at taken
    split at taken
    · cases taken
    rename_i sender me message arrives
    cases taken
    refine ⟨_, rfl, fun flight member => ?_⟩
    obtain ⟨_, sends, rfl⟩ := List.mem_map.mp member
    obtain ⟨action, performed, wired⟩ := List.mem_filterMap.mp sends
    cases action with
    | asyncSendMessageByP2PNodeID nodeID buffer =>
      cases wired
      by_cases answers : AMOPImpl.Answers env message
      · rw [AMOPImpl.dispatcher_answers answers] at performed
        cases performed
      rcases ((AMOPImpl.dispatcher_others answers).2 nodeID buffer performed).2 with rfl | rfl
      · exact ⟨fun kind => absurd ((amopMessage_kind env _ _ _).mp kind) (by decide),
          fun kind => absurd ((amopMessage_kind env _ _ _).mp kind) (by decide)⟩
      · refine ⟨fun kind => absurd ((amopMessage_kind env _ _ _).mp kind) (by decide),
          fun _ => ?_⟩
        rw [TopicSync.answer_amopMessage]
        exact TopicManager.parseTopicItemsJson_document (proper sender me message arrives)
    | onReceiveAMOPMessage => cases wired
    | onReceiveAMOPBroadcastMessage => cases wired

theorem store_step {p2pID : P2pID} (counts : Counts mesh next p2pID) :
    (mesh.store p2pID).Step (next.store p2pID) := by
  rcases counts.counts with ⟨counted, _⟩ | ⟨same, _, clients⟩
  · exact .inl counted
  · exact .inr ⟨same, fun _ => ⟨trivial, TopicSync.topicItems_congr clients⟩⟩

/-- What holds of everything that is stored, if it holds of every answer on the wire. -/
theorem stores_step {condition : P2pID → P2pID → UInt32 → TopicItems → Prop}
    (stores : ∀ p2pID, (mesh.managers p2pID).Stores (condition p2pID))
    (met : ∀ sender me message, (sender, me, message) ∈ mesh.wire → AMOPImpl.Answers env message →
      ∀ seq items, AMOPImpl.answer env message = some (seq, items) → condition me sender seq items)
    {event : Event} (taken : step env mesh event = some next) (p2pID : P2pID) :
    (next.managers p2pID).Stores (condition p2pID) := by
  have keeps (me : P2pID) {manager : TopicManager} (mine : manager.Stores (condition me)) :
      ((mesh.setManager me manager).managers p2pID).Stores (condition p2pID) :=
    @setManager_all mesh (fun p2pID manager => manager.Stores (condition p2pID)) me manager mine
      (fun p2pID _ => stores p2pID) p2pID
  cases event with
  | perform me operation =>
    cases taken
    exact keeps me ((stores me).perform env.json operation)
  | notifyNodeIDs me nodeIDs =>
    cases taken
    exact keeps me ((stores me).notifyNodeIDs nodeIDs)
  | broadcastTopicSeq sender receivers =>
    cases taken
    exact stores p2pID
  | send sender receiver message =>
    cases taken
    exact stores p2pID
  | receive flight =>
    simp only [step] at taken
    split at taken
    · cases taken
    rename_i sender me message arrives
    cases taken
    exact keeps me (AMOPImpl.dispatcher_stores (stores me)
      (met sender me message (List.mem_of_getElem? arrives)))

theorem Sound.step (sound : mesh.Sound env) {event : Event} (proper : Proper env mesh event)
    (taken : TopicMesh.step env mesh event = some next) : next.Sound env := by
  have advances (p2pID : P2pID) : (mesh.store p2pID).Step (next.store p2pID) :=
    store_step (step_counts taken p2pID)
  obtain ⟨more, wired, news⟩ := step_wire proper taken
  refine ⟨fun p2pID => ?_, fun flight member answers seq items carried => ?_, fun p2pID => ?_⟩
  · rcases (step_counts taken p2pID).counts with ⟨counted, seq⟩ | ⟨same, seq, _⟩
    · rw [counted, seq, sound.counted]
      exact (NodeListSync.statusSeqAfter_succ _).symm
    · rw [same, seq, sound.counted]
  · rw [wired] at member
    rcases List.mem_append.mp member with old | new
    · exact (sound.answers flight old answers seq items carried).step (advances flight.1)
    · have current := ((news flight new).answer answers).symm.trans carried
      cases current
      rw [sound.counted]
      exact ((mesh.store flight.1).dated_content topicSeqAfter).step (advances flight.1)
  · exact (stores_step sound.stores (fun sender me message member answers seq items carried =>
      sound.answers _ member answers seq items carried) taken p2pID).weaken
        fun peer seq items dated => dated.step (advances peer)

theorem Initial.sound (initial : mesh.Initial) : mesh.Sound env := by
  refine ⟨fun p2pID => ?_, fun flight member => ?_, fun p2pID peer => .inl (initial.stored p2pID peer)⟩
  · rw [initial.topicSeq, initial.changes]
    rfl
  · rw [initial.wire] at member
    cases member

end Steps

section Settles

def Stored (mesh : TopicMesh) (a b : P2pID) : Prop :=
  (mesh.managers a).nodeID2TopicSeq.lookup b = some (mesh.managers b).topicSeq

def HasTopics (mesh : TopicMesh) (a b : P2pID) : Prop :=
  ∃ items, (mesh.managers a).nodeID2TopicItems.lookup b = some items ∧
    ∀ topic, topic ∈ items ↔ (mesh.managers b).Subscribed topic

def Event.reads : Event → Option Nat
  | .receive flight => some flight
  | _ => none

def Recent (oldest : Nat) (a b : P2pID) (mesh : TopicMesh) : Event → Prop
  | .receive flight => ∀ message, mesh.wire[flight]? = some (b, a, message) → oldest ≤ flight
  | .notifyNodeIDs p2pID nodeIDs => p2pID = a → b ∈ nodeIDs
  | _ => True

abbrev Hearing (env : AMOPEnvironment) (start : TopicMesh) (a b : P2pID) (mesh : TopicMesh)
    (event : Event) : Prop :=
  Proper env mesh event ∧ Recent start.wire.length a b mesh event

/-- What a broadcast of B leads to: itself, the request of A and the answer. -/
def Awaited (env : AMOPEnvironment) (a b : P2pID) (flight : P2pID × P2pID × P2PMessage) : Prop :=
  (flight.1 = b ∧ flight.2.1 = a ∧
    (AMOPImpl.OfKind env AMOPMessage.Kind.topicSeq flight.2.2 ∨
      AMOPImpl.Answers env flight.2.2)) ∨
  (flight.1 = a ∧ flight.2.1 = b ∧ AMOPImpl.OfKind env AMOPMessage.Kind.requestTopic flight.2.2)

structure Hears (env : AMOPEnvironment) (start : TopicMesh) (a b : P2pID) (mesh : TopicMesh) :
    Prop where
  sound : mesh.Sound env
  counted : start.changes b ≤ mesh.changes b
  upToDate : mesh.changes b = start.changes b → ∀ place message, start.wire.length ≤ place →
    mesh.wire[place]? = some (b, a, message) → UpToDate env (mesh.managers b) message

variable {start : TopicMesh}

theorem UpToDate.congr {before after : TopicManager} {message : P2PMessage}
    (upToDate : UpToDate env before message) (topicSeq : after.topicSeq = before.topicSeq)
    (clients : after.client2TopicItems = before.client2TopicItems) :
    UpToDate env after message := by
  have items := TopicSync.topicItems_congr clients
  refine ⟨fun kind => ?_, fun answers => ?_⟩
  · rw [topicSeq]
    exact upToDate.topicSeq kind
  · rw [topicSeq, items]
    exact upToDate.answer answers

/-- B has its number and its topics as long as it counts no change. -/
theorem Counts.still (counts : Counts mesh next b) (same : next.changes b = mesh.changes b) :
    (next.managers b).topicSeq = (mesh.managers b).topicSeq ∧
      (next.managers b).client2TopicItems = (mesh.managers b).client2TopicItems := by
  rcases counts.counts with ⟨counted, _⟩ | ⟨_, kept⟩
  · omega
  · exact kept

theorem hears_start (sound : start.Sound env) : Hears env start a b start := by
  refine ⟨sound, Nat.le_refl _, fun _ place message since found => ?_⟩
  exact absurd (List.getElem?_eq_some_iff.mp found).1 (Nat.not_lt.mpr since)

theorem Hears.step (hears : Hears env start a b mesh) {event : Event}
    (proper : Proper env mesh event) (taken : TopicMesh.step env mesh event = some next) :
    Hears env start a b next := by
  have counts := step_counts taken b
  obtain ⟨more, wired, news⟩ := step_wire proper taken
  refine ⟨hears.sound.step proper taken, hears.counted.trans counts.monotone,
    fun same place message since found => ?_⟩
  have before := hears.counted
  have after := counts.monotone
  have still : next.changes b = mesh.changes b := by omega
  obtain ⟨topicSeq, clients⟩ := counts.still still
  have upToDate : UpToDate env (mesh.managers b) message := by
    by_cases old : place < mesh.wire.length
    · rw [wired, List.getElem?_append_left old] at found
      exact hears.upToDate (still.symm.trans same) place message since found
    · rw [wired, List.getElem?_append_right (Nat.not_lt.mp old)] at found
      exact news _ (List.mem_of_getElem? found)
  exact upToDate.congr topicSeq clients

/-- A message at a place of the wire changes its receiver, and is answered. -/
theorem step_receive {place : Nat} {sender me : P2pID} {message : P2PMessage}
    {manager : TopicManager} {actions : List AMOPAction}
    (found : mesh.wire[place]? = some (sender, me, message))
    (ran : AMOPImpl.dispatcherAMOPMessage env (mesh.managers me) sender message =
      (manager, actions)) :
    step env mesh (.receive place) =
      some ((mesh.setManager me manager).put me (actions.filterMap (sent env))) := by
  simp only [step, found, ran]

/-- What A has stored for B stays, unless A reads something else of B. -/
theorem lookup_step {event : Event} (hearing : Hearing env start a b mesh event)
    (unread : ∀ place message, event = .receive place →
      mesh.wire[place]? = some (b, a, message) → ∀ seq items, AMOPImpl.Answers env message →
        AMOPImpl.answer env message = some (seq, items) →
          (mesh.managers a).nodeID2TopicSeq.lookup b = some seq)
    (taken : step env mesh event = some next) :
    (next.managers a).nodeID2TopicSeq.lookup b = (mesh.managers a).nodeID2TopicSeq.lookup b := by
  have changes (me : P2pID) {manager : TopicManager}
      (mine : me = a → manager.nodeID2TopicSeq.lookup b =
        (mesh.managers a).nodeID2TopicSeq.lookup b) :
      ((mesh.setManager me manager).managers a).nodeID2TopicSeq.lookup b =
        (mesh.managers a).nodeID2TopicSeq.lookup b :=
    @setManager_all mesh (fun p2pID manager => p2pID = a → manager.nodeID2TopicSeq.lookup b =
      (mesh.managers a).nodeID2TopicSeq.lookup b) me manager mine
      (fun p2pID _ same => by rw [same]) a rfl
  cases event with
  | perform me operation =>
    cases taken
    apply changes me
    rintro rfl
    have stored := (TopicManager.perform_counts env.json (mesh.managers me) operation).1
    exact (Prod.mk.inj (congrFun stored b)).1
  | notifyNodeIDs me nodeIDs =>
    cases taken
    apply changes me
    rintro rfl
    have stored := (mesh.managers me).stored_notifyNodeIDs nodeIDs b
    rw [if_neg fun offline => offline.2 (hearing.2 rfl)] at stored
    exact (Prod.mk.inj stored).1
  | broadcastTopicSeq sender receivers =>
    cases taken
    rfl
  | send sender receiver message =>
    cases taken
    rfl
  | receive place =>
    simp only [step] at taken
    split at taken
    · cases taken
    rename_i sender me message found
    cases taken
    apply changes me
    rintro rfl
    apply AMOPImpl.lookup_dispatcher
    rintro rfl seq items answers carried
    exact unread place message rfl found seq items answers carried

theorem Stored.step (stored : mesh.Stored a b) (hears : Hears env start a b mesh) {event : Event}
    (hearing : Hearing env start a b mesh event)
    (taken : TopicMesh.step env mesh event = some next)
    (same : next.changes b = start.changes b) : next.Stored a b := by
  have counts := step_counts taken b
  have before := hears.counted
  have after := counts.monotone
  have still : mesh.changes b = start.changes b := by omega
  unfold Stored
  rw [(counts.still (by omega)).1]
  refine (lookup_step hearing (fun place message receives found seq items answers carried => ?_)
    taken).trans stored
  subst receives
  have current := (hears.upToDate still place message (hearing.2 message found) found).answer answers
  cases current.symm.trans carried
  exact stored

/-- A message that is awaited brings the number of B, or leads to the next one. -/
theorem reads_awaited (hears : Hears env start a b mesh) {place : Nat}
    (hearing : Hearing env start a b mesh (.receive place))
    (taken : step env mesh (.receive place) = some next) (same : next.changes b = start.changes b)
    {flight : P2pID × P2pID × P2PMessage} (found : mesh.wire[place]? = some flight)
    (awaited : Awaited env a b flight) :
    next.Stored a b ∨ UnderWay.Sent wire (Awaited env a b) mesh next := by
  obtain ⟨sender, me, message⟩ := flight
  have counts := step_counts taken b
  have before := hears.counted
  have after := counts.monotone
  have still : mesh.changes b = start.changes b := by omega
  have number := (counts.still (by omega)).1
  rcases awaited with ⟨rfl, rfl, topicSeq | answers⟩ | ⟨rfl, rfl, request⟩
  · have current := (hears.upToDate still place message (hearing.2 message found) found).topicSeq
      topicSeq
    have ran := @AMOPImpl.dispatcher_topicSeq env (mesh.managers me) sender message topicSeq
    unfold AMOPImpl.onReceiveTopicSeqMessage at ran
    rw [current] at ran
    cases changed : (mesh.managers me).checkTopicSeq sender (mesh.managers sender).topicSeq with
    | false =>
      simp only [changed, Bool.not_false, if_true] at ran
      left
      unfold Stored
      rw [number]
      rw [step_receive found ran] at taken
      cases taken
      obtain ⟨seq, lookup, same⟩ := TopicManager.checkTopicSeq_false changed
      rw [← same]
      simp only [put, setManager, Function.update_self]
      exact lookup
    | true =>
      simp only [changed, Bool.not_true, Bool.false_eq_true, if_false] at ran
      rw [step_receive found ran] at taken
      cases taken
      exact .inr ⟨_, _, Nat.le_refl _, List.getElem?_concat_length,
        .inr ⟨rfl, rfl, (amopMessage_kind env _ _ _).mpr rfl⟩⟩
  · have current := (hears.upToDate still place message (hearing.2 message found) found).answer
      answers
    have ran := @AMOPImpl.dispatcher_answers env (mesh.managers me) sender message answers
    rw [current] at ran
    left
    unfold Stored
    rw [number]
    rw [step_receive found ran] at taken
    cases taken
    simp only [put, setManager, Function.update_self, TopicManager.updateSeqAndTopicsByNodeID]
    exact AList.lookup_insert _
  · have ran := @AMOPImpl.dispatcher_requestTopic env (mesh.managers me) sender message request
    rw [step_receive found ran] at taken
    cases taken
    exact .inr ⟨_, _, Nat.le_refl _, List.getElem?_concat_length,
      .inl ⟨rfl, rfl, .inr (TopicSync.answers_topics _)⟩⟩

theorem receive_within {event : Event} (taken : step env mesh event = some next) (place : Nat)
    (reads : event.reads = some place) : place < mesh.wire.length := by
  cases event with
  | receive flight =>
    cases reads
    simp only [step] at taken
    split at taken
    · cases taken
    · rename_i found
      exact (List.getElem?_eq_some_iff.mp found).1
  | perform => cases reads
  | notifyNodeIDs => cases reads
  | broadcastTopicSeq => cases reads
  | send => cases reads

theorem leads (env : AMOPEnvironment) (start : TopicMesh) (a b : P2pID) :
    UnderWay.Leads (step env) wire Event.reads (Hears env start a b) (Hearing env start a b)
      (Awaited env a b) (fun mesh => mesh.changes b = start.changes b → mesh.Stored a b) where
  keeps _ _ _ hears hearing taken := hears.step hearing.1 taken
  within _ _ _ taken := receive_within taken
  grows _ _ _ _ hearing taken := by
    obtain ⟨more, wired, _⟩ := step_wire hearing.1 taken
    exact ⟨more, wired⟩
  reached mesh event next hears hearing taken stored same := by
    have before := hears.counted
    have after := (step_counts taken b).monotone
    exact (stored (by omega)).step hears hearing taken same
  leads mesh event next hears hearing taken place flight reads found awaited := by
    cases event with
    | receive read =>
      cases reads
      by_cases same : next.changes b = start.changes b
      · exact (reads_awaited hears hearing taken same found awaited).imp_left fun stored _ => stored
      · exact .inl fun this => absurd this same
    | perform => cases reads
    | notifyNodeIDs => cases reads
    | broadcastTopicSeq => cases reads
    | send => cases reads

/-- What is stored under the number of B are the topics of B. -/
theorem Sound.hasTopics (sound : mesh.Sound env) (few : mesh.changes b < 2 ^ 32)
    (stored : mesh.Stored a b) : mesh.HasTopics a b ∧
      (mesh.managers a).checkTopicSeq b (mesh.managers b).topicSeq = false := by
  have unchanged : (mesh.managers a).checkTopicSeq b (mesh.managers b).topicSeq = false := by
    unfold TopicManager.checkTopicSeq
    rw [stored]
    exact bne_self_eq_false _
  refine ⟨?_, unchanged⟩
  rcases sound.stores a b with nothing | ⟨seq, items, found, dated⟩
  · cases stored.symm.trans (Prod.mk.inj nothing).1
  · cases stored.symm.trans (Prod.mk.inj found).1
    have current := dated.current
      (fun change bound same => NodeListSync.statusSeqAfter_inj bound few same)
      (sound.counted b) trivial
    refine ⟨items, (Prod.mk.inj found).2, fun topic => ?_⟩
    rw [current]
    exact (mesh.managers b).mem_topicItems topic

structure Handled (env : AMOPEnvironment) (oldest : Nat) (a b : P2pID) (events : List Event)
    (last : TopicMesh) : Prop where
  broadcast : ∃ receivers, .broadcastTopicSeq b receivers ∈ events ∧ a ∈ receivers
  read : ∀ place flight, oldest ≤ place → last.wire[place]? = some flight →
    Awaited env a b flight → .receive place ∈ events

theorem broadcast_sent {receivers : List P2pID} (receives : a ∈ receivers)
    (taken : step env mesh (.broadcastTopicSeq b receivers) = some next) :
    UnderWay.Sent wire (Awaited env a b) mesh next := by
  cases taken
  obtain ⟨place, here⟩ := List.mem_iff_getElem?.mp receives
  refine ⟨mesh.wire.length + place, (b, a, TopicSync.amopMessage env
    (AMOPImpl.broadcastTopicSeq (mesh.managers b))), Nat.le_add_right _ _, ?_,
    .inl ⟨rfl, rfl, .inl ((amopMessage_kind env _ _ _).mpr rfl)⟩⟩
  simp only [put, List.getElem?_append_right (Nat.le_add_right _ _), Nat.add_sub_cancel_left,
    List.getElem?_map, here, Option.map_some]

theorem Handled.stored {events : List Event} {last : TopicMesh} (sound : start.Sound env)
    (recent : Transition.Meets (step env) (Hearing env start a b) start events)
    (ran : Transition.run (step env) start events = some last)
    (handled : Handled env start.wire.length a b events last)
    (unchanged : last.changes b = start.changes b) : last.Stored a b := by
  obtain ⟨receivers, broadcast, receives⟩ := handled.broadcast
  exact (leads env start a b).reaches (hears_start sound) recent ran broadcast
    (fun _ _ taken => broadcast_sent receives taken)
    (fun place flight since found awaited =>
      ⟨_, handled.read place flight since found awaited, rfl⟩) unchanged

/-- Whatever the gateways of a network do while A takes B for online and reads nothing older of it:
    once what the broadcasts of B lead to at A has been read, in whatever order and however often,
    and B has counted no change, A has the topics of B and does not ask again. Under the same
    conditions it keeps them. -/
theorem settled_topics (env : AMOPEnvironment) (fresh : TopicMesh) (before events : List Event)
    {last : TopicMesh} (initial : fresh.Initial)
    (proper : Transition.Meets (step env) (Proper env) fresh before)
    (reached : Transition.run (step env) fresh before = some start)
    (recent : Transition.Meets (step env) (Hearing env start a b) start events)
    (ran : Transition.run (step env) start events = some last)
    (handled : Handled env start.wire.length a b events last)
    (unchanged : last.changes b = start.changes b) (few : last.changes b < 2 ^ 32) :
    (last.HasTopics a b ∧
      (last.managers a).checkTopicSeq b (last.managers b).topicSeq = false) ∧
    ∀ more later, Transition.Meets (step env) (Hearing env start a b) last more →
      Transition.run (step env) last more = some later → later.changes b = last.changes b →
        later.HasTopics a b ∧
          (later.managers a).checkTopicSeq b (later.managers b).topicSeq = false := by
  have sound : start.Sound env := Transition.invariant_of_meets (step env)
    (fun _ _ _ held met taken => Sound.step held met taken) initial.sound proper reached
  have keeps : ∀ mesh event next, Hears env start a b mesh → Hearing env start a b mesh event →
      step env mesh event = some next → Hears env start a b next :=
    fun _ _ _ hears hearing taken => hears.step hearing.1 taken
  have hears : Hears env start a b last :=
    Transition.invariant_of_meets (step env) keeps (hears_start sound) recent ran
  have stored := handled.stored sound recent ran unchanged
  refine ⟨hears.sound.hasTopics few stored, fun more later meets rest same => ?_⟩
  have hearsLater : Hears env start a b later :=
    Transition.invariant_of_meets (step env) keeps hears meets rest
  have kept := (leads env start a b).run hears meets rest (fun _ => stored) (same.trans unchanged)
  exact hearsLater.sound.hasTopics (same ▸ few) kept

end Settles

def strangers : TopicMesh where
  managers _ := {}

def topics : AMOPEnvironment :=
  { AMOPEnvironment.reading .null with
    json := .readingAny [TopicManager.topicDocument 1 ∅, TopicManager.topicDocument 2 {[116]}] }

def subscribed : TopicMesh :=
  { strangers.setManager [98] (({} : TopicManager).subTopic [99] {[116]}) with
    changes := Function.update (fun _ => 0) [98] 1 }

def readsAll : List Event :=
  [.broadcastTopicSeq [98] [[97]], .receive 0, .receive 1, .receive 2]

theorem oneTopic_settled :
    ∃ last, Transition.run (step topics) subscribed readsAll = some last ∧
      last.HasTopics [97] [98] := by
  have initial : strangers.Initial := ⟨fun _ _ => rfl, fun _ => rfl, rfl, fun _ => rfl⟩
  have reached : Transition.run (step topics) strangers
      [.perform [98] (.subTopic [99] {[116]})] = some subscribed := rfl
  obtain ⟨last, ran⟩ : ∃ last, Transition.run (step topics) subscribed readsAll = some last :=
    ⟨_, rfl⟩
  have recent : Transition.Meets (step topics) (Hearing topics subscribed [97] [98]) subscribed
      readsAll :=
    ⟨⟨rfl, trivial⟩, ⟨fun _ _ _ found => by cases found; rfl, fun _ _ => Nat.zero_le _⟩,
      ⟨fun _ _ _ found => by cases found; rfl, fun _ _ => Nat.zero_le _⟩,
      ⟨fun _ _ _ found => by cases found; rfl, fun _ _ => Nat.zero_le _⟩, trivial⟩
  have handled : Handled topics subscribed.wire.length [97] [98] readsAll last := by
    refine ⟨⟨_, List.mem_cons_self, List.mem_cons_self⟩, fun place flight _ found _ => ?_⟩
    have size : last.wire.length = 3 := by
      cases ran
      rfl
    have inside := (List.getElem?_eq_some_iff.mp found).1
    have places : place = 0 ∨ place = 1 ∨ place = 2 := by omega
    rcases places with rfl | rfl | rfl <;> simp [readsAll]
  have settled := settled_topics topics strangers [.perform [98] (.subTopic [99] {[116]})] readsAll
    initial ⟨trivial, trivial⟩ reached recent ran handled
    (by
      cases ran
      rfl)
    (by
      cases ran
      decide)
  exact ⟨last, ran, settled.1.1⟩

end TopicMesh

end BcosGateway

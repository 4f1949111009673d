import BcosGateway.Amop.Dispatch
import BcosGateway.Lib.Transition
import BcosGateway.Lib.Versioned

/-! Two gateways that tell each other the topics of their clients over a network that delays, loses,
repeats and reorders messages. -/

namespace BcosGateway

/-- The topics of gateways A and P, and everything that the one has sent to the other, which may
    arrive at any time and more than once. -/
structure TopicSync where
  a : TopicManager := {}
  p : TopicManager := {}
  toA : List P2PMessage := []
  toP : List P2PMessage := []

namespace TopicSync

variable (env : AMOPEnvironment) (aID pID : P2pID)

inductive Event where
  | performAtA (operation : TopicManager.Operation)
  | performAtP (operation : TopicManager.Operation)
  | notifyNodeIDsAtA (nodeIDs : List P2pID)
  | notifyNodeIDsAtP (nodeIDs : List P2pID)
  | broadcastAtA
  | broadcastAtP
  | receiveAtA (message : Nat)
  | receiveAtP (message : Nat)
  | receiveOtherAtA (nodeID : P2pID) (message : P2PMessage)
  | receiveOtherAtP (nodeID : P2pID) (message : P2PMessage)

def Event.ofClientAtP : Event → Bool
  | .performAtP _ => true
  | _ => false

def amopMessage (buffer : Bytes) : P2PMessage :=
  { packetType := env.fw.messageType.amopMessageType, payload := buffer }

def sentTo (receiver : P2pID) : AMOPAction → Option P2PMessage
  | .asyncSendMessageByP2PNodeID nodeID buffer =>
    if nodeID = receiver then some (amopMessage env buffer) else none
  | .onReceiveAMOPMessage .. | .onReceiveAMOPBroadcastMessage .. => none

def step (world : TopicSync) : Event → Option TopicSync
  | .performAtA operation => some { world with a := world.a.perform env.json operation }
  | .performAtP operation => some { world with p := world.p.perform env.json operation }
  | .notifyNodeIDsAtA nodeIDs => some { world with a := world.a.notifyNodeIDs nodeIDs }
  | .notifyNodeIDsAtP nodeIDs => some { world with p := world.p.notifyNodeIDs nodeIDs }
  | .broadcastAtA =>
    some { world with toP := world.toP ++ [amopMessage env (AMOPImpl.broadcastTopicSeq world.a)] }
  | .broadcastAtP =>
    some { world with toA := world.toA ++ [amopMessage env (AMOPImpl.broadcastTopicSeq world.p)] }
  | .receiveAtA message =>
    match world.toA[message]? with
    | none => none
    | some message =>
      let (a, actions) := AMOPImpl.dispatcherAMOPMessage env world.a pID message
      some { world with a, toP := world.toP ++ actions.filterMap (sentTo env pID) }
  | .receiveAtP message =>
    match world.toP[message]? with
    | none => none
    | some message =>
      let (p, actions) := AMOPImpl.dispatcherAMOPMessage env world.p aID message
      some { world with p, toA := world.toA ++ actions.filterMap (sentTo env aID) }
  | .receiveOtherAtA nodeID message =>
    if nodeID = pID then none
    else some { world with a := (AMOPImpl.dispatcherAMOPMessage env world.a nodeID message).1 }
  | .receiveOtherAtP nodeID message =>
    if nodeID = aID then none
    else some { world with p := (AMOPImpl.dispatcherAMOPMessage env world.p nodeID message).1 }

def Faithful (world : TopicSync) : Event → Prop
  | .receiveAtP _ =>
    env.json.parse (world.p.queryTopicsSubByClient env.json) =
      some (TopicManager.topicDocument world.p.topicSeq world.p.topicItems)
  | _ => True

structure Initial (world : TopicSync) : Prop where
  stores : world.a.Stores fun nodeID _ _ => nodeID ≠ pID
  toA : world.toA = []
  toP : world.toP = []

def Had (fresh : TopicSync) (events : List Event) (seq : UInt32) (items : TopicItems) : Prop :=
  ∃ moment, Transition.Passes (step env aID pID) fresh events moment ∧
    seq = moment.p.topicSeq ∧ items = moment.p.topicItems

structure Sound (fresh : TopicSync) (past : List Event) (world : TopicSync) : Prop where
  ran : Transition.run (step env aID pID) fresh past = some world
  answers : ∀ message ∈ world.toA, AMOPImpl.Answers env message →
    ∀ seq items, AMOPImpl.answer env message = some (seq, items) →
      Had env aID pID fresh past seq items
  stores : world.a.Stores fun nodeID seq items =>
    nodeID = pID → Had env aID pID fresh past seq items

variable {env aID pID} {fresh world next : TopicSync} {past : List Event}

theorem Had.append {seq : UInt32} {items : TopicItems} (had : Had env aID pID fresh past seq items)
    (event : Event) : Had env aID pID fresh (past ++ [event]) seq items := by
  obtain ⟨moment, passes, same⟩ := had
  exact ⟨moment, passes.append [event], same⟩

theorem Initial.sound (initial : fresh.Initial pID) : Sound env aID pID fresh [] fresh := by
  refine ⟨rfl, ?_, ?_⟩
  · intro message member
    rw [initial.toA] at member
    cases member
  · exact initial.stores.weaken fun nodeID seq items other same => absurd same other

theorem not_answers_amopMessage {type : UInt16} (data : Bytes)
    (other : type ≠ AMOPMessage.Kind.responseTopic) :
    ¬ AMOPImpl.Answers env (amopMessage env (AMOPImpl.buildAndEncodeMessage type data)) := by
  rintro ⟨_, answers⟩
  unfold amopMessage at answers
  rw [AMOPImpl.buildMessage_buildAndEncodeMessage] at answers
  exact other answers

theorem answer_amopMessage {json : StdString} :
    AMOPImpl.answer env (amopMessage env
      (AMOPImpl.buildAndEncodeMessage AMOPMessage.Kind.responseTopic json)) =
        TopicManager.parseTopicItemsJson env.json json := by
  unfold AMOPImpl.answer amopMessage
  rw [AMOPImpl.buildMessage_buildAndEncodeMessage]

/-- A step that sends to A only what P has now. -/
theorem Sound.advance (sound : Sound env aID pID fresh past world) {event : Event}
    (taken : step env aID pID world event = some next)
    (answers : ∀ message ∈ next.toA, message ∉ world.toA → AMOPImpl.Answers env message →
      AMOPImpl.answer env message = some (world.p.topicSeq, world.p.topicItems))
    (stores : next.a.Stores fun nodeID seq items =>
      nodeID = pID → Had env aID pID fresh past seq items) :
    Sound env aID pID fresh (past ++ [event]) next := by
  refine ⟨Transition.run_concat _ sound.ran taken, ?_, ?_⟩
  · intro message member kind seq items carried
    by_cases old : message ∈ world.toA
    · exact (sound.answers message old kind seq items carried).append event
    · rw [answers message member old kind] at carried
      cases carried
      have had : Had env aID pID fresh past world.p.topicSeq world.p.topicItems :=
        ⟨world, .of_run sound.ran, rfl, rfl⟩
      exact had.append event
  · exact stores.weaken fun nodeID seq items had same => (had same).append event

theorem Sound.silent (sound : Sound env aID pID fresh past world) {event : Event}
    (taken : step env aID pID world event = some next) (toA : next.toA = world.toA)
    (stores : next.a.Stores fun nodeID seq items =>
      nodeID = pID → Had env aID pID fresh past seq items) :
    Sound env aID pID fresh (past ++ [event]) next := by
  apply sound.advance taken _ stores
  intro message member new
  rw [toA] at member
  exact absurd member new

theorem Sound.receiveAtA (sound : Sound env aID pID fresh past world) {message : P2PMessage}
    (arrives : message ∈ world.toA) :
    (AMOPImpl.dispatcherAMOPMessage env world.a pID message).1.Stores fun nodeID seq items =>
      nodeID = pID → Had env aID pID fresh past seq items := by
  apply AMOPImpl.dispatcher_stores sound.stores
  intro kind seq items carried _
  exact sound.answers message arrives kind seq items carried

/-- The answers that P sends carry what it has now. -/
theorem answer_sentTo {topicManager : TopicManager} {message received : P2PMessage}
    (faithful : env.json.parse (topicManager.queryTopicsSubByClient env.json) =
      some (TopicManager.topicDocument topicManager.topicSeq topicManager.topicItems))
    (sent : message ∈ (AMOPImpl.dispatcherAMOPMessage env topicManager aID received).2.filterMap
      (sentTo env aID))
    (kind : AMOPImpl.Answers env message) :
    AMOPImpl.answer env message = some (topicManager.topicSeq, topicManager.topicItems) := by
  obtain ⟨action, performed, wired⟩ := List.mem_filterMap.mp sent
  by_cases answers : AMOPImpl.Answers env received
  · rw [AMOPImpl.dispatcher_answers answers] at performed
    cases performed
  cases action with
  | asyncSendMessageByP2PNodeID nodeID buffer =>
    obtain ⟨rfl, either⟩ := (AMOPImpl.dispatcher_others answers).2 nodeID buffer performed
    simp only [sentTo, if_true] at wired
    cases wired
    rcases either with rfl | rfl
    · exact absurd kind (not_answers_amopMessage _ (by decide))
    · rw [answer_amopMessage]
      exact TopicManager.parseTopicItemsJson_document faithful
  | onReceiveAMOPMessage nodeID message => cases wired
  | onReceiveAMOPBroadcastMessage nodeID message => cases wired

theorem Sound.step (sound : Sound env aID pID fresh past world) {event : Event}
    (faithful : Faithful env world event) (taken : step env aID pID world event = some next) :
    Sound env aID pID fresh (past ++ [event]) next := by
  cases event with
  | performAtA operation =>
    apply sound.silent taken <;> cases taken
    · rfl
    · exact sound.stores.perform env.json operation
  | performAtP operation =>
    apply sound.silent taken <;> cases taken
    · rfl
    · exact sound.stores
  | notifyNodeIDsAtA nodeIDs =>
    apply sound.silent taken <;> cases taken
    · rfl
    · exact sound.stores.notifyNodeIDs nodeIDs
  | notifyNodeIDsAtP nodeIDs =>
    apply sound.silent taken <;> cases taken
    · rfl
    · exact sound.stores
  | broadcastAtA =>
    apply sound.silent taken <;> cases taken
    · rfl
    · exact sound.stores
  | broadcastAtP =>
    apply sound.advance taken <;> cases taken
    · intro message member new kind
      rcases List.mem_append.mp member with old | sent
      · exact absurd old new
      · rw [List.mem_singleton.mp sent] at kind
        exact absurd kind (not_answers_amopMessage _ (by decide))
    · exact sound.stores
  | receiveAtA index =>
    have stepped := taken
    simp only [TopicSync.step] at taken
    split at taken
    · cases taken
    rename_i message arrives
    apply sound.silent stepped <;> cases taken
    · rfl
    · exact sound.receiveAtA (List.mem_of_getElem? arrives)
  | receiveAtP index =>
    have stepped := taken
    simp only [TopicSync.step] at taken
    split at taken
    · cases taken
    rename_i message arrives
    apply sound.advance stepped <;> cases taken
    · intro message member new kind
      rcases List.mem_append.mp member with old | sent
      · exact absurd old new
      · exact answer_sentTo faithful sent kind
    · exact sound.stores
  | receiveOtherAtA nodeID message =>
    have stepped := taken
    simp only [TopicSync.step] at taken
    split at taken
    · cases taken
    rename_i other
    apply sound.silent stepped <;> cases taken
    · rfl
    · exact AMOPImpl.dispatcher_stores sound.stores fun _ _ _ _ same => absurd same other
  | receiveOtherAtP nodeID message =>
    have stepped := taken
    simp only [TopicSync.step] at taken
    split at taken
    · cases taken
    apply sound.silent stepped <;> cases taken
    · rfl
    · exact sound.stores

/-! Nothing but an operation of a client changes the topics of P, and it counts. -/

theorem step_stamps (env : AMOPEnvironment) (aID pID : P2pID) :
    Versioned.Stamps (step env aID pID) Event.ofClientAtP (· + 1)
      (fun world : TopicSync => world.p.topicSeq) fun world => world.p.client2TopicItems := by
  intro world event next taken
  cases event with
  | performAtP operation =>
    cases taken
    rcases (TopicManager.perform_counts env.json world.p operation).2 with counted | unchanged
    · exact .inl ⟨rfl, counted⟩
    · simp only [unchanged]
      exact .inr ⟨trivial, trivial⟩
  | notifyNodeIDsAtP nodeIDs =>
    cases taken
    exact .inr (world.p.notifyNodeIDs_clients nodeIDs)
  | performAtA operation =>
    cases taken
    exact .inr ⟨rfl, rfl⟩
  | notifyNodeIDsAtA nodeIDs =>
    cases taken
    exact .inr ⟨rfl, rfl⟩
  | broadcastAtA =>
    cases taken
    exact .inr ⟨rfl, rfl⟩
  | broadcastAtP =>
    cases taken
    exact .inr ⟨rfl, rfl⟩
  | receiveAtA index =>
    simp only [step] at taken
    split at taken <;> cases taken
    exact .inr ⟨rfl, rfl⟩
  | receiveAtP index =>
    simp only [step] at taken
    split at taken <;> cases taken
    exact .inr (AMOPImpl.dispatcher_clients _)
  | receiveOtherAtA nodeID message =>
    simp only [step] at taken
    split at taken <;> cases taken
    exact .inr ⟨rfl, rfl⟩
  | receiveOtherAtP nodeID message =>
    simp only [step] at taken
    split at taken <;> cases taken
    exact .inr (AMOPImpl.dispatcher_clients message)

theorem tick_apart {changes : Nat} (few : changes < 2 ^ 32) {topicSeq : UInt32}
    (round : (fun seq : UInt32 => seq + 1)^[changes] topicSeq = topicSeq) : changes = 0 := by
  have ticked (count : Nat) (start : UInt32) :
      (fun seq : UInt32 => seq + 1)^[count] start = start + UInt32.ofNat count := by
    induction count generalizing start with
    | zero => simp
    | succ count ih =>
      rw [Function.iterate_succ_apply, ih, Nat.add_comm, UInt32.ofNat_add]
      exact UInt32.add_assoc start 1 _
  rw [ticked] at round
  have none : UInt32.ofNat changes = 0 := by
    rw [← UInt32.add_right_inj topicSeq, round, UInt32.add_zero]
  have value := congrArg UInt32.toNat none
  rw [UInt32.toNat_ofNat'] at value
  change changes % 2 ^ 32 = 0 at value
  omega

theorem Sound.had (sound : Sound env aID pID fresh past world) {seq : UInt32} {items : TopicItems}
    (seqFound : world.a.nodeID2TopicSeq.lookup pID = some seq)
    (itemsFound : world.a.nodeID2TopicItems.lookup pID = some items) :
    Had env aID pID fresh past seq items := by
  rcases sound.stores pID with nothing | ⟨_, _, found, had⟩
  · cases seqFound.symm.trans (Prod.mk.inj nothing).1
  · cases seqFound.symm.trans (Prod.mk.inj found).1
    cases itemsFound.symm.trans (Prod.mk.inj found).2
    exact had rfl

/-- What A has stored of P is what P had at one moment, and it is what P has now when its number
    is. -/
theorem topics_consistent (env : AMOPEnvironment) (aID pID : P2pID) (fresh : TopicSync)
    (events : List Event) {last : TopicSync} (initial : fresh.Initial pID)
    (faithful : Transition.Meets (step env aID pID) (Faithful env) fresh events)
    (ran : Transition.run (step env aID pID) fresh events = some last)
    (few : events.countP Event.ofClientAtP < 2 ^ 32) :
    (∀ nodeID, nodeID ∈ last.a.nodeID2TopicSeq ↔ nodeID ∈ last.a.nodeID2TopicItems) ∧
      (∀ seq items, last.a.nodeID2TopicSeq.lookup pID = some seq →
        last.a.nodeID2TopicItems.lookup pID = some items →
        ∃ moment, Transition.Passes (step env aID pID) fresh events moment ∧
          seq = moment.p.topicSeq ∧ ∀ topic, topic ∈ items ↔ moment.p.Subscribed topic) ∧
      (last.a.checkTopicSeq pID last.p.topicSeq = false →
        ∃ items, last.a.nodeID2TopicItems.lookup pID = some items ∧
          ∀ topic, topic ∈ items ↔ last.p.Subscribed topic) := by
  have sound : Sound env aID pID fresh events last :=
    @Transition.invariant_of_meets_of_history _ _ (step env aID pID) _ _ _ (Faithful env)
      (Sound env aID pID fresh) (fun _ _ _ _ sound met taken => sound.step met taken) []
      initial.sound faithful ran
  refine ⟨fun nodeID => ?_, ?_, ?_⟩
  · rw [← AList.lookup_isSome, ← AList.lookup_isSome]
    exact sound.stores.isSome nodeID
  · intro seq items seqFound itemsFound
    obtain ⟨moment, passes, rfl, rfl⟩ := sound.had seqFound itemsFound
    exact ⟨moment, passes, rfl, moment.p.mem_topicItems⟩
  · intro unchanged
    obtain ⟨seq, seqFound, current⟩ := TopicManager.checkTopicSeq_false unchanged
    obtain ⟨items, itemsFound⟩ := Option.isSome_iff_exists.mp
      ((sound.stores.isSome pID).mp (Option.isSome_of_eq_some seqFound))
    obtain ⟨moment, passes, rfl, rfl⟩ := sound.had seqFound itemsFound
    obtain ⟨after, some_, rest⟩ := passes.rest ran
    have few' : after.countP Event.ofClientAtP < 2 ^ 32 :=
      Nat.lt_of_le_of_lt (some_.countP_le) few
    have same := (step_stamps env aID pID).content_eq rest
      (fun changes bound => tick_apart (Nat.lt_of_le_of_lt bound few')) current.symm
    refine ⟨_, itemsFound, fun topic => ?_⟩
    rw [moment.p.mem_topicItems]
    unfold TopicManager.Subscribed
    rw [same]

def oneTopicEnvironment : AMOPEnvironment :=
  .reading (TopicManager.topicDocument 2 {[116]})

def firstTopic : List Event :=
  [.broadcastAtP, .performAtP (.subTopic [99] {[116]}), .broadcastAtP, .receiveAtA 1, .receiveAtP 0,
    .receiveAtA 2, .receiveAtA 0, .notifyNodeIDsAtA [[112]], .receiveAtA 2]

theorem firstTopic_consistent :
    ∃ last, Transition.run (step oneTopicEnvironment [97] [112]) {} firstTopic = some last ∧
      last.a.checkTopicSeq [112] last.p.topicSeq = false ∧
      (last.a.checkTopicSeq [112] last.p.topicSeq = false →
        ∃ items, last.a.nodeID2TopicItems.lookup [112] = some items ∧
          ∀ topic, topic ∈ items ↔ last.p.Subscribed topic) := by
  have initial : Initial [112] {} := ⟨fun _ => .inl rfl, rfl, rfl⟩
  have faithful : Transition.Meets (step oneTopicEnvironment [97] [112])
      (Faithful oneTopicEnvironment) {} firstTopic :=
    ⟨trivial, trivial, trivial, trivial, rfl, trivial, trivial, trivial, trivial, trivial⟩
  exact ⟨_, rfl, rfl, (topics_consistent oneTopicEnvironment [97] [112] {} firstTopic initial
    faithful rfl (by decide)).2.2⟩

end TopicSync

end BcosGateway

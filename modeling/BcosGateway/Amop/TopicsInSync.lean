import BcosGateway.Amop.TopicBroadcast
import BcosGateway.Amop.TopicMesh
import BcosGateway.Gateway.Traffic

/-! A round of the topic exchange brings a network to the state that a broadcast about a topic relies
on. -/

namespace BcosGateway.TopicMesh

variable {env : AMOPEnvironment} {mesh next last start : TopicMesh} {members : List P2pID}

def Event.Among (members : List P2pID) : Event → Prop
  | .broadcastTopicSeq sender receivers =>
    ∀ receiver ∈ receivers, sender ≠ receiver ∧ sender ∈ members ∧ receiver ∈ members
  | .send sender receiver _ => sender ≠ receiver ∧ sender ∈ members ∧ receiver ∈ members
  | _ => True

structure Known (members : List P2pID) (mesh : TopicMesh) : Prop where
  wire : ∀ flight ∈ mesh.wire,
    flight.1 ≠ flight.2.1 ∧ flight.1 ∈ members ∧ flight.2.1 ∈ members
  stores : ∀ p2pID, (mesh.managers p2pID).Stores fun peer _ _ => peer ≠ p2pID ∧ peer ∈ members

theorem Initial.known (initial : mesh.Initial) : mesh.Known members := by
  refine ⟨fun flight member => ?_, fun p2pID peer => .inl (initial.stored p2pID peer)⟩
  rw [initial.wire] at member
  cases member

/-- What is sent for a message goes back to its sender. -/
theorem sent_back {topicManager : TopicManager} {sender : P2pID} {message : P2PMessage}
    {response : P2pID × P2PMessage}
    (sends : response ∈ (AMOPImpl.dispatcherAMOPMessage env topicManager sender message).2.filterMap
      (sent env)) : response.1 = sender := by
  obtain ⟨action, performed, wired⟩ := List.mem_filterMap.mp sends
  cases action with
  | asyncSendMessageByP2PNodeID nodeID buffer =>
    cases wired
    by_cases answers : AMOPImpl.Answers env message
    · rw [AMOPImpl.dispatcher_answers answers] at performed
      cases performed
    · exact ((AMOPImpl.dispatcher_others answers).2 nodeID buffer performed).1
  | onReceiveAMOPMessage => cases wired
  | onReceiveAMOPBroadcastMessage => cases wired

theorem Known.step (known : mesh.Known members) {event : Event} (among : event.Among members)
    (taken : TopicMesh.step env mesh event = some next) : next.Known members := by
  refine ⟨?_, stores_step known.stores (fun sender me message member _ _ _ _ => ?_) taken⟩
  · cases event with
    | perform me operation =>
      cases taken
      exact known.wire
    | notifyNodeIDs me nodeIDs =>
      cases taken
      exact known.wire
    | broadcastTopicSeq sender receivers =>
      cases taken
      intro flight member
      rcases List.mem_append.mp member with old | new
      · exact known.wire flight old
      · obtain ⟨_, listed, rfl⟩ := List.mem_map.mp new
        obtain ⟨receiver, receives, rfl⟩ := List.mem_map.mp listed
        exact among receiver receives
    | send sender receiver message =>
      cases taken
      intro flight member
      rcases List.mem_append.mp member with old | new
      · exact known.wire flight old
      · rw [List.mem_singleton.mp new]
        exact among
    | receive place =>
      simp only [TopicMesh.step] at taken
      split at taken
      · cases taken
      rename_i sender me message found
      cases taken
      obtain ⟨apart, sends, receives⟩ := known.wire _ (List.mem_of_getElem? found)
      intro flight member
      rcases List.mem_append.mp member with old | new
      · exact known.wire flight old
      · obtain ⟨response, responds, rfl⟩ := List.mem_map.mp new
        rw [sent_back responds]
        exact ⟨Ne.symm apart, receives, sends⟩
  · obtain ⟨apart, sends, _⟩ := known.wire _ member
    exact ⟨apart, sends⟩

theorem Known.run {events : List Event} (known : start.Known members)
    (among : ∀ event ∈ events, event.Among members)
    (ran : Transition.run (TopicMesh.step env) start events = some last) : last.Known members := by
  induction events generalizing start with
  | nil =>
    cases ran
    exact known
  | cons event events ih =>
    obtain ⟨next, taken, rest⟩ := (Transition.run_cons _).mp ran
    exact ih (known.step (among event List.mem_cons_self) taken)
      (fun later member => among later (List.mem_cons_of_mem _ member)) rest

def Event.Since (oldest : Nat) (members : List P2pID) : Event → Prop
  | .receive place => oldest ≤ place
  | .notifyNodeIDs _ nodeIDs => ∀ p2pID ∈ members, p2pID ∈ nodeIDs
  | _ => True

abbrev Later (env : AMOPEnvironment) (members : List P2pID) (oldest : Nat) (mesh : TopicMesh)
    (event : Event) : Prop :=
  Proper env mesh event ∧ event.Since oldest members

theorem Later.hearing {a b : P2pID} {event : Event} (inB : b ∈ members)
    (later : Later env members start.wire.length mesh event) : Hearing env start a b mesh event := by
  refine ⟨later.1, ?_⟩
  cases event with
  | receive place => exact fun _ _ => later.2
  | notifyNodeIDs p2pID nodeIDs => exact fun _ => later.2 b inB
  | perform => trivial
  | broadcastTopicSeq => trivial
  | send => trivial

structure Round (env : AMOPEnvironment) (members : List P2pID) (start : TopicMesh)
    (events : List Event) (last : TopicMesh) : Prop where
  later : Transition.Meets (step env) (Later env members start.wire.length) start events
  among : ∀ event ∈ events, event.Among members
  ran : Transition.run (step env) start events = some last
  broadcast : ∀ a ∈ members, ∀ b ∈ members, a ≠ b →
    ∃ receivers, .broadcastTopicSeq b receivers ∈ events ∧ a ∈ receivers
  read : ∀ place, start.wire.length ≤ place → place < last.wire.length → .receive place ∈ events
  unchanged : ∀ p2pID ∈ members, last.changes p2pID = start.changes p2pID
  few : ∀ p2pID ∈ members, last.changes p2pID < 2 ^ 32

theorem Round.hasTopics {events : List Event} (sound : start.Sound env)
    (round : Round env members start events last) {a b : P2pID} (inA : a ∈ members)
    (inB : b ∈ members) (apart : a ≠ b) : last.HasTopics a b := by
  have recent : Transition.Meets (step env) (Hearing env start a b) start events :=
    round.later.weaken _ fun _ _ => Later.hearing inB
  have handled : Handled env start.wire.length a b events last :=
    ⟨round.broadcast a inA b inB apart, fun place _ since found _ =>
      round.read place since (List.getElem?_eq_some_iff.mp found).1⟩
  have soundLast : last.Sound env := Transition.invariant_of_meets (step env)
    (fun _ _ _ held met taken => Sound.step held met.1 taken) sound round.later round.ran
  have stored := handled.stored sound recent round.ran (round.unchanged b inB)
  exact (soundLast.hasTopics (round.few b inB) stored).1

section Exists

structure Still (start mesh : TopicMesh) : Prop where
  topicSeq : ∀ p2pID, (mesh.managers p2pID).topicSeq = (start.managers p2pID).topicSeq
  clients : ∀ p2pID,
    (mesh.managers p2pID).client2TopicItems = (start.managers p2pID).client2TopicItems
  changes : mesh.changes = start.changes

theorem Still.reads (still : Still start mesh) {p2pID : P2pID}
    (reads : TopicSync.Reads env (start.managers p2pID)) :
    TopicSync.Reads env (mesh.managers p2pID) := by
  have items := TopicSync.topicItems_congr (still.clients p2pID)
  refine ⟨?_, ?_⟩
  · rw [still.topicSeq]
    exact reads.topicSeq
  · have topics := reads.topics
    unfold TopicManager.queryTopicsSubByClient at topics ⊢
    rw [still.topicSeq, items]
    exact topics

theorem Still.receive (still : Still start mesh) {me sender : P2pID} {message : P2PMessage}
    {messages : List (P2pID × P2PMessage)} :
    Still start ((mesh.setManager me (AMOPImpl.dispatcherAMOPMessage env (mesh.managers me) sender
      message).1).put me messages) := by
  have own : _ ∧ _ := @AMOPImpl.dispatcher_clients env (mesh.managers me) sender message
  have kept := @setManager_all mesh (fun p2pID manager =>
    manager.topicSeq = (start.managers p2pID).topicSeq ∧
      manager.client2TopicItems = (start.managers p2pID).client2TopicItems) me _
    ⟨own.1.trans (still.topicSeq me), own.2.trans (still.clients me)⟩
    (fun p2pID _ => ⟨still.topicSeq p2pID, still.clients p2pID⟩)
  exact ⟨fun p2pID => (kept p2pID).1, fun p2pID => (kept p2pID).2, still.changes⟩

theorem broadcasts_run (reads : ∀ p2pID, TopicSync.Reads env (start.managers p2pID))
    (still : Still start mesh) (senders : List P2pID) (receivers : P2pID → List P2pID)
    (oldest : Nat) :
    let events := senders.map fun sender => Event.broadcastTopicSeq sender (receivers sender)
    ∃ after, Transition.run (step env) mesh events = some after ∧ Still start after ∧
      Transition.Meets (step env) (Later env members oldest) mesh events := by
  induction senders generalizing mesh with
  | nil => exact ⟨mesh, rfl, still, trivial⟩
  | cons sender senders ih =>
    let next := mesh.put sender ((receivers sender).map fun receiver => (receiver,
      TopicSync.amopMessage env (AMOPImpl.broadcastTopicSeq (mesh.managers sender))))
    have taken : step env mesh (.broadcastTopicSeq sender (receivers sender)) = some next := rfl
    have kept : Still start next := ⟨still.topicSeq, still.clients, still.changes⟩
    obtain ⟨after, ran, ends, meets⟩ := ih kept
    exact ⟨after, (Transition.run_cons _).mpr ⟨next, taken, ran⟩, ends,
      .cons _ ⟨(still.reads (reads sender)).topicSeq, trivial⟩ taken meets⟩

variable {Key : Type} {environment : Environment Key} {lexicalCast : StdString → Option UInt32}

/-- What a dispatch sends weighs less than what it reads. -/
theorem sent_weight (topicManager : TopicManager) (sender : P2pID) (message : P2PMessage) :
    (((AMOPImpl.dispatcherAMOPMessage (environment.amop lexicalCast) topicManager sender
      message).2.filterMap (sent (environment.amop lexicalCast))).map fun response =>
        Traffic.weight environment response.2).sum < Traffic.weight environment message := by
  have each : ∀ action response, sent (environment.amop lexicalCast) action = some response →
      Traffic.weight environment response.2 ≤ Traffic.topicLoad environment action := by
    intro action response sends
    cases action with
    | asyncSendMessageByP2PNodeID nodeID buffer =>
      cases sends
      exact Nat.le_refl _
    | onReceiveAMOPMessage => cases sends
    | onReceiveAMOPBroadcastMessage => cases sends
  exact Nat.lt_of_le_of_lt (Places.sum_filterMap_le each _)
    (Traffic.dispatcher_load topicManager sender message)

/-- A round can be made at any time. -/
theorem round_exists
    (reads : ∀ p2pID, TopicSync.Reads (environment.amop lexicalCast) (start.managers p2pID))
    (few : ∀ p2pID ∈ members, start.changes p2pID < 2 ^ 32) :
    ∃ events last, Round (environment.amop lexicalCast) members start events last := by
  let peers (sender : P2pID) : List P2pID := members.filter fun peer => sender ≠ peer
  let broadcasts : List Event :=
    members.map fun sender => Event.broadcastTopicSeq sender (peers sender)
  obtain ⟨middle, sends, still, meets⟩ :=
    broadcasts_run reads ⟨fun _ => rfl, fun _ => rfl, rfl⟩ members peers start.wire.length
  have possible : ∀ mesh place flight, Still start mesh → start.wire.length ≤ place →
      mesh.wire[place]? = some flight → ∃ next more,
        Later (environment.amop lexicalCast) members start.wire.length mesh (.receive place) ∧
          step (environment.amop lexicalCast) mesh (.receive place) = some next ∧
          Still start next ∧ next.wire = mesh.wire ++ more ∧
          (more.map fun flight => Traffic.weight environment flight.2.2).sum <
            Traffic.weight environment flight.2.2 := by
    rintro mesh place ⟨sender, me, message⟩ still since found
    refine ⟨_, _, ⟨fun _ _ _ this => ?_, since⟩, step_receive found rfl, still.receive, rfl, ?_⟩
    · cases found.symm.trans this
      exact (still.reads (reads me)).topics
    · rw [List.map_map]
      exact sent_weight _ _ _
  obtain ⟨receives, last, read, ran, ends, only, all⟩ :=
    UnderWay.drains possible still (Nat.le_refl _)
  refine ⟨broadcasts ++ receives, last, meets.append _ sends read, fun event member => ?_,
    (Transition.run_append _).mpr ⟨middle, sends, ran⟩, fun a inA b inB apart => ?_,
    fun place since before => List.mem_append_right _ (all place since before),
    fun p2pID _ => congrFun ends.changes p2pID, fun p2pID member => ?_⟩
  · rcases List.mem_append.mp member with sending | receiving
    · obtain ⟨sender, sends, rfl⟩ := List.mem_map.mp sending
      intro receiver receives
      obtain ⟨receives, apart⟩ := List.mem_filter.mp receives
      exact ⟨of_decide_eq_true apart, sends, receives⟩
    · obtain ⟨place, rfl⟩ := only event receiving
      trivial
  · exact ⟨peers b, List.mem_append_left _ (List.mem_map.mpr ⟨b, inB, rfl⟩),
      List.mem_filter.mpr ⟨inA, decide_eq_true (Ne.symm apart)⟩⟩
  · rw [ends.changes]
    exact few p2pID member

end Exists

section Network

variable {φ Key : Type} {network : TopicNetwork φ}

structure Runs (members : List P2pID) (mesh : TopicMesh) (network : TopicNetwork φ) : Prop where
  members : ∀ p2pID, p2pID ∈ network ↔ p2pID ∈ members
  topics : ∀ p2pID gateway, network.lookup p2pID = some gateway →
    gateway.clients.topics = mesh.managers p2pID

theorem Round.inSync {events : List Event} (sound : start.Sound env) (known : start.Known members)
    (round : Round env members start events last) (runs : Runs members last network) :
    network.InSync := by
  intro p2pID gateway found peer topic
  have member : p2pID ∈ members := (runs.members p2pID).mp (AList.lookup_isSome.mp (found ▸ rfl))
  rw [runs.topics p2pID gateway found]
  constructor
  · rintro ⟨items, lookup, listed⟩
    rcases (known.run round.among round.ran).stores p2pID peer with
      nothing | ⟨_, _, _, apart, peerMember⟩
    · cases lookup.symm.trans (Prod.mk.inj nothing).2
    obtain ⟨other, there⟩ := Option.isSome_iff_exists.mp
      (AList.lookup_isSome.mpr ((runs.members peer).mpr peerMember))
    obtain ⟨stored, has, topics⟩ := round.hasTopics sound member peerMember (Ne.symm apart)
    cases lookup.symm.trans has
    refine ⟨apart, other, there, ?_⟩
    rw [runs.topics peer other there, TopicManager.mem_topicItems]
    exact (topics topic).mp listed
  · rintro ⟨apart, other, there, subscribed⟩
    have peerMember : peer ∈ members :=
      (runs.members peer).mp (AList.lookup_isSome.mp (there ▸ rfl))
    obtain ⟨items, has, topics⟩ := round.hasTopics sound member peerMember (Ne.symm apart)
    rw [runs.topics peer other there, TopicManager.mem_topicItems] at subscribed
    exact ⟨items, has, (topics topic).mpr subscribed⟩

/-- Whatever the gateways of a network have done, they can exchange their topics, and after a round of
    broadcasts of their numbers that are read to the end, in whatever order, each knows the topics of
    the others, and a broadcast about a topic is received once by a client if and only if there is
    one peer of the sender that it subscribes the topic at. -/
theorem round_topics [DecidableEq φ] (env : Environment Key)
    (lexicalCast : StdString → Option UInt32) (members : List P2pID) (fresh : TopicMesh)
    (before : List Event) (initial : fresh.Initial)
    (proper : Transition.Meets (step (env.amop lexicalCast)) (Proper (env.amop lexicalCast)) fresh
      before)
    (among : ∀ event ∈ before, event.Among members)
    (reached : Transition.run (step (env.amop lexicalCast)) fresh before = some start) :
    ((∀ p2pID, TopicSync.Reads (env.amop lexicalCast) (start.managers p2pID)) →
      (∀ p2pID ∈ members, start.changes p2pID < 2 ^ 32) →
        ∃ events last, Round (env.amop lexicalCast) members start events last) ∧
    ∀ events last (network : TopicNetwork φ),
      Round (env.amop lexicalCast) members start events last → Runs members last network →
        network.InSync ∧
          (network.Meshed env → ∀ stringToProxy buildRequest callback topic data,
            18 + data.length < 2 ^ 32 → buildRequest data = topic →
              ∀ origin ∈ network, ∀ client,
                network.received env lexicalCast stringToProxy buildRequest callback origin topic
                  data client = 1 ↔
                    ∃! p2pID, network.Reaches stringToProxy origin topic client p2pID) := by
  have sound : start.Sound (env.amop lexicalCast) :=
    Transition.invariant_of_meets (step (env.amop lexicalCast))
      (fun _ _ _ held met taken => Sound.step held met taken) initial.sound proper reached
  have known : start.Known members := initial.known.run among reached
  refine ⟨round_exists, fun events last network round runs => ?_⟩
  have inSync := round.inSync sound known runs
  exact ⟨inSync, fun meshed stringToProxy buildRequest callback topic data sized encodes origin
    present client => TopicNetwork.received_eq_one_iff env lexicalCast stringToProxy buildRequest
      callback topic data sized encodes meshed inSync present client⟩

def reader : Environment Bytes := { Environment.reading .null with json := topics.json }

def linkedTopics (mesh : TopicMesh) : TopicNetwork Nat :=
  let gateway (p2pID peer : P2pID) : TopicGateway Nat :=
    { TopicNetwork.topicGateway p2pID peer [99] ∅ ∅ with
      clients := { (TopicNetwork.topicGateway p2pID peer [99] ∅ ∅).clients with
        topics := mesh.managers p2pID } }
  ((∅ : TopicNetwork Nat).insert [97] (gateway [97] [98])).insert [98] (gateway [98] [97])

theorem linkedTopics_cases {mesh : TopicMesh} {p2pID : P2pID} {gateway : TopicGateway Nat}
    (found : (linkedTopics mesh).lookup p2pID = some gateway) :
    ∃ peer, (p2pID = [97] ∧ peer = [98] ∨ p2pID = [98] ∧ peer = [97]) ∧
      gateway.service = (TopicNetwork.topicGateway p2pID peer [99] ∅ ∅).service ∧
      gateway.clients.topics = mesh.managers p2pID := by
  unfold linkedTopics at found
  rw [Table.lookup_insert_if, Table.lookup_insert_if] at found
  split_ifs at found with second first
  · cases found
    rw [second]
    exact ⟨[97], .inr ⟨rfl, rfl⟩, rfl, rfl⟩
  · cases found
    rw [first]
    exact ⟨[98], .inl ⟨rfl, rfl⟩, rfl, rfl⟩
  · cases found

theorem mem_linkedTopics (mesh : TopicMesh) (p2pID : P2pID) :
    p2pID ∈ linkedTopics mesh ↔ p2pID ∈ ([[97], [98]] : List P2pID) := by
  unfold linkedTopics
  rw [AList.mem_insert, AList.mem_insert]
  simp only [List.mem_cons, List.not_mem_nil, or_false]
  constructor
  · rintro (second | first | none)
    · exact .inr second
    · exact .inl first
    · exact absurd none (AList.notMem_empty p2pID)
  · rintro (first | second)
    · exact .inr (.inl first)
    · exact .inl second

theorem linkedTopics_meshed (mesh : TopicMesh) : (linkedTopics mesh).Meshed reader := by
  constructor
  · intro p2pID gateway found
    obtain ⟨peer, _, service, _⟩ := linkedTopics_cases found
    rw [service]
    exact Network.gateway_named p2pID peer 0 [48] [49]
  · intro p2pID gateway found peer member other
    obtain ⟨known, ends, service, _⟩ := linkedTopics_cases found
    have same : peer = known := by
      rcases List.mem_cons.mp ((mem_linkedTopics mesh peer).mp member) with first | second
      · rcases ends with ⟨rfl, rfl⟩ | ⟨rfl, rfl⟩
        · exact absurd first other
        · exact first
      · have second := List.mem_singleton.mp second
        rcases ends with ⟨rfl, rfl⟩ | ⟨rfl, rfl⟩
        · exact second
        · exact absurd second other
    rw [service, ← same]
    exact TopicNetwork.topicGateway_linked other [99] ∅ ∅
  · intro p2pID gateway found
    obtain ⟨peer, _, service, _⟩ := linkedTopics_cases found
    rw [service]
    exact (AList.mem_insert _).mpr (.inl rfl)

theorem subscribed_reads (p2pID : P2pID) : TopicSync.Reads topics (subscribed.managers p2pID) := by
  by_cases here : p2pID = [98]
  · rw [here]
    exact ⟨by decide, rfl⟩
  · have kept : subscribed.managers p2pID = {} := Function.update_of_ne here _ _
    rw [kept]
    exact ⟨by decide, rfl⟩

theorem subscribed_broadcasts :
    ∃ events last, Round topics [[97], [98]] subscribed events last ∧ (linkedTopics last).InSync ∧
      ((linkedTopics last).received reader decimal (fun _ => true) (fun _ => [116]) (fun _ => 0) [97]
          [116] [1] [99] = 1 ↔
        ∃! p2pID, (linkedTopics last).Reaches (fun _ => true) [97] [116] [99] p2pID) := by
  have initial : strangers.Initial := ⟨fun _ _ => rfl, fun _ => rfl, rfl, fun _ => rfl⟩
  have subscribes : step topics strangers (.perform [98] (.subTopic [99] {[116]})) =
      some subscribed := rfl
  have rounds := @round_topics subscribed Nat Bytes _ reader decimal [[97], [98]] strangers
    [.perform [98] (.subTopic [99] {[116]})] initial (.cons _ trivial subscribes trivial)
    (fun event member => List.mem_singleton.mp member ▸ trivial)
    ((Transition.run_cons _).mpr ⟨_, subscribes, rfl⟩)
  obtain ⟨events, last, round⟩ := rounds.1 subscribed_reads (by decide)
  obtain ⟨inSync, broadcasts⟩ :=
    rounds.2 events last (linkedTopics last) round ⟨mem_linkedTopics last, fun p2pID gateway found =>
      (linkedTopics_cases found).choose_spec.2.2⟩
  exact ⟨events, last, round, inSync, broadcasts (linkedTopics_meshed last) (fun _ => true)
    (fun _ => [116]) (fun _ => 0) [116] [1] (by decide) rfl [97]
    ((mem_linkedTopics last [97]).mpr List.mem_cons_self) [99]⟩

end Network

end BcosGateway.TopicMesh

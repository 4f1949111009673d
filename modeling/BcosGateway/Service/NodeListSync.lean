import BcosGateway.Service.Dispatch
import BcosGateway.NodeManager.Announcements
import BcosGateway.NodeManager.Dynamic
import BcosGateway.Lib.Transition
import BcosGateway.Lib.Versioned

/-! Two gateways that exchange status numbers and node lists over a network that delays, repeats
and reorders messages. -/

namespace BcosGateway

/-- Gateway A, gateway B with the update that holds its lock, and everything that was sent, which
    may arrive at any time and more than once. `changes` counts the calls of `increaseSeq` of B. -/
structure NodeListSync (φ : Type) where
  a : GatewayNodeManager φ
  b : GatewayNodeManager φ
  update : Option (Update φ) := none
  toA : List P2PMessage := []
  toB : List P2PMessage := []
  changes : Nat := 0

namespace NodeListSync

variable {φ Key : Type} (env : Environment Key)

inductive Event (φ : Type) where
  | registerFrontService (groupID nodeID : StdString) (frontService : φ)
  | unregisterFrontService (groupID nodeID : StdString)
  | beginSweep
  | beginGroupInfo (groupID : StdString) (nodeInfos : List (NodeInfo φ))
  | updateFrontServiceInfo (noEndpoints : Bool)
  | heartBeat
  | receiveAtA (message : Nat)
  | receiveAtB (message : Nat)
  | onDisconnect

def sent : Action φ Key → Option P2PMessage
  | .sendMessageBySession packetType payload => some { packetType, payload }
  | .handler _ | .sendRespMessageBySession .. | .onReceiveMessage .. => none

def msgHandlers : KeySet UInt16 := (∅ : KeySet UInt16).insert env.fw.messageType.amopMessageType ()

def setB (world : NodeListSync φ) (b : GatewayNodeManager φ) (update : Option (Update φ)) :
    NodeListSync φ :=
  { world with
    b
    update
    changes := if b.statusSeq = world.b.statusSeq then world.changes else world.changes + 1 }

/-- The exclusive operations of B wait for an update to end, its readers do not. -/
def step [DecidableEq φ] (world : NodeListSync φ) : Event φ → Option (NodeListSync φ)
  | .registerFrontService groupID nodeID frontService =>
    if world.update.isSome then none
    else some (world.setB (world.b.registerFrontService groupID nodeID frontService).2 none)
  | .unregisterFrontService groupID nodeID =>
    if world.update.isSome then none
    else some (world.setB (world.b.unregisterFrontService groupID nodeID).2 none)
  | .beginSweep =>
    if world.update.isSome then none else some (world.setB world.b (some world.b.beginSweep))
  | .beginGroupInfo groupID nodeInfos =>
    if world.update.isSome then none
    else some (world.setB world.b (some (.groupInfo groupID nodeInfos)))
  | .updateFrontServiceInfo noEndpoints =>
    match world.update with
    | none => none
    | some update =>
      let (b, update) := world.b.updateFrontServiceInfo noEndpoints update
      some (world.setB b update)
  | .heartBeat =>
    some { world with
      toA := world.toA ++
        [{ packetType := env.fw.messageType.heartbeat
           payload := BigEndian.encode 4 world.b.statusSeq.toNat }] }
  | .receiveAtA message =>
    match world.toA[message]? with
    | none => none
    | some message =>
      match Service.dispatch env (msgHandlers env) world.a world.b.p2pNodeID message with
      | .error _ => none
      | .ok (a, actions) => some { world with a, toB := world.toB ++ actions.filterMap sent }
  | .receiveAtB message =>
    match world.toB[message]? with
    | none => none
    | some message =>
      match Service.dispatch env (msgHandlers env) world.b world.a.p2pNodeID message with
      | .error _ => none
      | .ok (b, actions) => some { world with b, toA := world.toA ++ actions.filterMap sent }
  | .onDisconnect => some { world with a := world.a.onRemoveNodeIDs world.b.p2pNodeID }

def Faithful (world : NodeListSync φ) : Event φ → Prop
  | .receiveAtB _ =>
    env.json.parse (world.b.onRequestNodeIDs env.json) =
      some (GatewayNodeManager.nodeListDocument world.b.statusSeq world.b.localGroup2NodeIDs)
  | _ => True

structure Initial (world : NodeListSync φ) : Prop where
  p2pID2Seq : world.a.p2pID2Seq.lookup world.b.p2pNodeID = none
  statusSeq : world.b.statusSeq = 1
  update : world.update = none
  toA : world.toA = []
  toB : world.toB = []
  changes : world.changes = 0

def uncounted : Option (Update φ) → Bool
  | some (.sweep _ updated) => updated
  | some (.groupInfo ..) | none => false

def statusSeqAfter (changes : Nat) : UInt32 := UInt32.ofNat (1 + changes)

theorem statusSeqAfter_succ (changes : Nat) :
    statusSeqAfter (changes + 1) = statusSeqAfter changes + 1 := by
  unfold statusSeqAfter
  rw [← Nat.add_assoc, UInt32.ofNat_add]
  rfl

theorem statusSeqAfter_inj {change changes : Nat} (bound : change ≤ changes)
    (few : changes < 2 ^ 32) (same : statusSeqAfter change = statusSeqAfter changes) :
    change = changes := by
  have values := congrArg UInt32.toNat same
  unfold statusSeqAfter at values
  rw [UInt32.toNat_ofNat', UInt32.toNat_ofNat'] at values
  omega

structure Counts (b after : GatewayNodeManager φ) (update next : Option (Update φ)) : Prop where
  p2pNodeID : after.p2pNodeID = b.p2pNodeID
  counts : after.statusSeq = b.statusSeq + 1 ∨
    (after.statusSeq = b.statusSeq ∧ (uncounted next = false → uncounted update = false ∧
      after.frontServiceInfos = b.frontServiceInfos))

section Operations

variable (b : GatewayNodeManager φ)

theorem registerFrontService_counts (groupID nodeID : StdString) (frontService : φ) :
    Counts b (b.registerFrontService groupID nodeID frontService).2 none none := by
  unfold GatewayNodeManager.registerFrontService
  cases b.frontServiceInfos.lookup groupID with
  | none => exact ⟨rfl, .inl rfl⟩
  | some nodes =>
    simp only
    split
    · exact ⟨rfl, .inl rfl⟩
    · exact ⟨rfl, .inr ⟨rfl, fun _ => ⟨rfl, rfl⟩⟩⟩

theorem unregisterFrontService_counts (groupID nodeID : StdString) :
    Counts b (b.unregisterFrontService groupID nodeID).2 none none := by
  unfold GatewayNodeManager.unregisterFrontService
  split
  · exact ⟨rfl, .inr ⟨rfl, fun _ => ⟨rfl, rfl⟩⟩⟩
  split
  · simp only
    split <;> exact ⟨rfl, .inl rfl⟩
  · exact ⟨rfl, .inr ⟨rfl, fun _ => ⟨rfl, rfl⟩⟩⟩

theorem updateFrontServiceInfo_counts (noEndpoints : Bool) (update : Update φ) :
    Counts b (b.updateFrontServiceInfo noEndpoints update).1 (some update)
      (b.updateFrontServiceInfo noEndpoints update).2 := by
  cases update with
  | sweep groups updated =>
    rcases groups with _ | ⟨⟨groupID, nodeIDs⟩, groups⟩
    · cases updated with
      | true => exact ⟨rfl, .inl rfl⟩
      | false => exact ⟨rfl, .inr ⟨rfl, fun _ => ⟨rfl, rfl⟩⟩⟩
    rcases nodeIDs with _ | ⟨nodeID, nodeIDs⟩
    · simp only [GatewayNodeManager.updateFrontServiceInfo]
      split
      · exact ⟨rfl, .inr ⟨rfl, fun settled => (by cases settled)⟩⟩
      · exact ⟨rfl, .inr ⟨rfl, fun settled => ⟨settled, rfl⟩⟩⟩
    · simp only [GatewayNodeManager.updateFrontServiceInfo]
      split
      · exact ⟨rfl, .inr ⟨rfl, fun settled => ⟨settled, rfl⟩⟩⟩
      split
      · exact ⟨rfl, .inr ⟨rfl, fun settled => (by cases settled)⟩⟩
      · exact ⟨rfl, .inr ⟨rfl, fun settled => ⟨settled, rfl⟩⟩⟩
  | groupInfo groupID nodeInfos =>
    cases nodeInfos with
    | nil => exact ⟨rfl, .inr ⟨rfl, fun _ => ⟨rfl, rfl⟩⟩⟩
    | cons nodeInfo nodeInfos =>
      simp only [GatewayNodeManager.updateFrontServiceInfo]
      split
      · exact ⟨rfl, .inr ⟨rfl, fun _ => ⟨rfl, rfl⟩⟩⟩
      split
      · exact ⟨rfl, .inr ⟨rfl, fun _ => ⟨rfl, rfl⟩⟩⟩
      · exact ⟨rfl, .inl rfl⟩

end Operations

def store (world : NodeListSync φ) : Versioned.Store (StdString → StdString → Prop) where
  content := world.b.Registered
  changes := world.changes
  settled := uncounted world.update = false

structure Sound (world : NodeListSync φ) : Prop where
  counted : world.b.statusSeq = statusSeqAfter world.changes
  lists : ∀ message ∈ world.toA, message.packetType = env.fw.messageType.responseNodeIDs →
    ∃ mark received,
      GatewayNodeManager.parseReceivedJson env.json message.payload = some (mark, received) ∧
        world.store.Dated statusSeqAfter mark (Index.Lists received)
  stored : ∀ mark, world.a.p2pID2Seq.lookup world.b.p2pNodeID = some mark →
    world.store.Dated statusSeqAfter mark fun groupID nodeID =>
      world.a.peerGatewayNodes.Holds groupID nodeID world.b.p2pNodeID

variable {env} {world next : NodeListSync φ}

theorem Sound.setB (sound : world.Sound env) {b : GatewayNodeManager φ} {update : Option (Update φ)}
    (counts : Counts world.b b world.update update) : (world.setB b update).Sound env := by
  -- the two cases differ in the number, also where it wraps
  have increased : world.b.statusSeq + 1 ≠ world.b.statusSeq := by
    intro same
    simp at same
  have step : world.store.Step (world.setB b update).store := by
    rcases counts.counts with counted | ⟨uncounted, kept⟩
    · left
      unfold store NodeListSync.setB
      simp only [counted, increased, if_false]
    · right
      unfold store NodeListSync.setB
      simp only [uncounted, if_true, true_and]
      intro settled
      obtain ⟨before, infos⟩ := kept settled
      refine ⟨before, ?_⟩
      funext groupID nodeID
      unfold GatewayNodeManager.Registered GatewayNodeManager.group
      rw [infos]
  refine ⟨?_, ?_, ?_⟩
  · unfold NodeListSync.setB
    rcases counts.counts with counted | ⟨uncounted, _⟩
    · simp only [counted, increased, if_false]
      rw [statusSeqAfter_succ, sound.counted]
    · simp only [uncounted, if_true]
      exact sound.counted
  · intro message member type
    obtain ⟨mark, received, parsed, dated⟩ := sound.lists message member type
    exact ⟨mark, received, parsed, dated.step step⟩
  · intro mark found
    have owner : (world.setB b update).b.p2pNodeID = world.b.p2pNodeID := counts.p2pNodeID
    rw [owner] at found ⊢
    exact (sound.stored mark found).step step

theorem Sound.setB_idle (sound : world.Sound env) (idle : ¬ world.update.isSome = true)
    {b : GatewayNodeManager φ} {update : Option (Update φ)} (counts : Counts world.b b none update) :
    (world.setB b update).Sound env := by
  apply sound.setB
  rw [Option.not_isSome_iff_eq_none.mp idle]
  exact counts

theorem responseNodeIDs_ne_heartbeat :
    env.fw.messageType.heartbeat ≠ env.fw.messageType.responseNodeIDs ∧
      env.fw.messageType.requestNodeIDs ≠ env.fw.messageType.responseNodeIDs := by
  have distinct := env.fw.messageType.distinct
  grind

theorem Sound.heartBeat (sound : world.Sound env) :
    ({ world with
      toA := world.toA ++
        [{ packetType := env.fw.messageType.heartbeat
           payload := BigEndian.encode 4 world.b.statusSeq.toNat }] } : NodeListSync φ).Sound env := by
  refine ⟨sound.counted, fun message member type => ?_, sound.stored⟩
  rcases List.mem_append.mp member with old | new
  · exact sound.lists message old type
  · rw [List.mem_singleton.mp new] at type
    exact absurd type responseNodeIDs_ne_heartbeat.1

theorem Sound.receiveAtA (sound : world.Sound env) [DecidableEq φ] {message : P2PMessage}
    (sent : message ∈ world.toA) {a : GatewayNodeManager φ} {actions : List (Action φ Key)}
    (ran : Service.dispatch env (msgHandlers env) world.a world.b.p2pNodeID message =
      .ok (a, actions)) (toB : List P2PMessage) : { world with a, toB }.Sound env := by
  rcases Service.dispatch_cases env ran with ⟨rfl, _⟩ | ⟨_, type, rfl, _⟩
  · exact ⟨sound.counted, sound.lists, sound.stored⟩
  -- the list replaces what A has of B, and is stored with its own number
  obtain ⟨mark, received, parsed, dated⟩ := sound.lists message sent type
  have updated : world.a.onReceiveNodeIDs env.json world.b.p2pNodeID message.payload =
      world.a.updateNodeIDs world.b.p2pNodeID mark received := by
    unfold GatewayNodeManager.onReceiveNodeIDs
    rw [parsed]
  refine ⟨sound.counted, sound.lists, fun stored found => ?_⟩
  simp only [updated] at found ⊢
  rw [GatewayNodeManager.lookup_updateNodeIDs] at found
  cases found
  have copy : (fun groupID nodeID => (world.a.updateNodeIDs world.b.p2pNodeID mark
      received).peerGatewayNodes.Holds groupID nodeID world.b.p2pNodeID) =
        Index.Lists received := by
    funext groupID nodeID
    exact propext (GatewayNodeManager.holds_updateNodeIDs _ _ _ _ _ _)
  rw [copy]
  exact dated

theorem Sound.receiveAtB (sound : world.Sound env) [DecidableEq φ]
    (faithful : env.json.parse (world.b.onRequestNodeIDs env.json) =
      some (GatewayNodeManager.nodeListDocument world.b.statusSeq world.b.localGroup2NodeIDs))
    {message : P2PMessage} {b : GatewayNodeManager φ} {actions : List (Action φ Key)}
    (ran : Service.dispatch env (msgHandlers env) world.b world.a.p2pNodeID message =
      .ok (b, actions)) :
    { world with b, toA := world.toA ++ actions.filterMap sent }.Sound env := by
  have own : b.p2pNodeID = world.b.p2pNodeID ∧ b.statusSeq = world.b.statusSeq ∧
      b.frontServiceInfos = world.b.frontServiceInfos := by
    rcases Service.dispatch_cases env ran with ⟨rfl, _⟩ | ⟨_, _, rfl, _⟩
    · exact ⟨rfl, rfl, rfl⟩
    · exact world.b.onReceiveNodeIDs_own env.json world.a.p2pNodeID message.payload
  have sends : ∀ packetType payload, Action.sendMessageBySession packetType payload ∈ actions →
      packetType = env.fw.messageType.requestNodeIDs ∨
        (packetType = env.fw.messageType.responseNodeIDs ∧
          payload = world.b.onRequestNodeIDs env.json) := by
    rcases Service.dispatch_cases env ran with ⟨_, sends⟩ | ⟨_, _, _, rfl⟩
    · exact sends
    · exact fun _ _ none => (by cases none)
  obtain ⟨p2pNodeID, statusSeq, infos⟩ := own
  have registered : b.Registered = world.b.Registered := by
    funext groupID nodeID
    unfold GatewayNodeManager.Registered GatewayNodeManager.group
    rw [infos]
  have same : (⟨b.Registered, world.changes, uncounted world.update = false⟩ :
      Versioned.Store (StdString → StdString → Prop)) = world.store := by
    rw [registered]
    rfl
  refine ⟨statusSeq.trans sound.counted, fun response member type => ?_, ?_⟩
  · unfold store
    rw [same]
    rcases List.mem_append.mp member with old | new
    · exact sound.lists response old type
    obtain ⟨action, performed, wired⟩ := List.mem_filterMap.mp new
    cases action with
    | sendMessageBySession packetType payload =>
      cases wired
      rcases sends packetType payload performed with request | ⟨_, rfl⟩
      · exact absurd (request.symm.trans type) responseNodeIDs_ne_heartbeat.2
      · obtain ⟨received, parsed, lists⟩ :=
          GatewayNodeManager.parseReceivedJson_document faithful
        refine ⟨_, received, parsed, ?_⟩
        have copy : Index.Lists received = world.store.content := by
          funext groupID nodeID
          rw [lists, GatewayNodeManager.lists_localGroup2NodeIDs]
          rfl
        rw [sound.counted, copy]
        exact world.store.dated_content statusSeqAfter
    | handler => cases wired
    | sendRespMessageBySession => cases wired
    | onReceiveMessage => cases wired
  · unfold store
    rw [same, p2pNodeID]
    exact sound.stored

theorem Sound.onDisconnect (sound : world.Sound env) :
    { world with a := world.a.onRemoveNodeIDs world.b.p2pNodeID }.Sound env := by
  -- a forgotten peer has no number that could be compared
  refine ⟨sound.counted, sound.lists, fun mark found => ?_⟩
  rw [GatewayNodeManager.lookup_onRemoveNodeIDs] at found
  cases found

theorem Sound.step [DecidableEq φ] (sound : world.Sound env) {event : Event φ}
    (faithful : Faithful env world event)
    (taken : NodeListSync.step env world event = some next) : next.Sound env := by
  cases event with
  | registerFrontService groupID nodeID frontService =>
    simp only [NodeListSync.step] at taken
    split at taken
    · cases taken
    · cases taken
      exact sound.setB_idle ‹_› (registerFrontService_counts world.b groupID nodeID frontService)
  | unregisterFrontService groupID nodeID =>
    simp only [NodeListSync.step] at taken
    split at taken
    · cases taken
    · cases taken
      exact sound.setB_idle ‹_› (unregisterFrontService_counts world.b groupID nodeID)
  | beginSweep =>
    simp only [NodeListSync.step] at taken
    split at taken
    · cases taken
    · cases taken
      exact sound.setB_idle ‹_› ⟨rfl, .inr ⟨rfl, fun _ => ⟨rfl, rfl⟩⟩⟩
  | beginGroupInfo groupID nodeInfos =>
    simp only [NodeListSync.step] at taken
    split at taken
    · cases taken
    · cases taken
      exact sound.setB_idle ‹_› ⟨rfl, .inr ⟨rfl, fun _ => ⟨rfl, rfl⟩⟩⟩
  | updateFrontServiceInfo noEndpoints =>
    simp only [NodeListSync.step] at taken
    cases holding : world.update with
    | none =>
      rw [holding] at taken
      cases taken
    | some update =>
      rw [holding] at taken
      cases taken
      apply sound.setB
      rw [holding]
      exact updateFrontServiceInfo_counts world.b noEndpoints update
  | heartBeat =>
    cases taken
    exact sound.heartBeat
  | receiveAtA index =>
    simp only [NodeListSync.step] at taken
    split at taken
    · cases taken
    rename_i message arrives
    split at taken
    · cases taken
    rename_i a actions ran
    cases taken
    exact sound.receiveAtA (List.mem_of_getElem? arrives) ran _
  | receiveAtB index =>
    simp only [NodeListSync.step] at taken
    split at taken
    · cases taken
    rename_i message arrives
    split at taken
    · cases taken
    rename_i b actions ran
    cases taken
    exact sound.receiveAtB faithful ran
  | onDisconnect =>
    cases taken
    exact sound.onDisconnect

theorem Initial.sound (initial : world.Initial) : world.Sound env := by
  refine ⟨?_, ?_, ?_⟩
  · rw [initial.statusSeq, initial.changes]
    rfl
  · intro message member
    rw [initial.toA] at member
    cases member
  · intro mark found
    rw [initial.p2pID2Seq] at found
    cases found

/-- When the status number of B is the one that A has stored, A has the nodes of B. -/
theorem nodes_of_statusSeq [DecidableEq φ] (env : Environment Key) (fresh : NodeListSync φ)
    (events : List (Event φ)) {last : NodeListSync φ} (initial : fresh.Initial)
    (faithful : Transition.Meets (step env) (Faithful env) fresh events)
    (ran : Transition.run (step env) fresh events = some last) (few : last.changes < 2 ^ 32)
    (idle : last.update = none)
    (unchanged : last.a.onReceiveStatusSeq last.b.p2pNodeID last.b.statusSeq = false) :
    ∀ groupID nodeID, last.a.peerGatewayNodes.Holds groupID nodeID last.b.p2pNodeID ↔
      last.b.Registered groupID nodeID := by
  have sound : last.Sound env :=
    Transition.invariant_of_meets (step env)
      (fun _ _ _ sound faithful taken => sound.step faithful taken) initial.sound faithful ran
  unfold GatewayNodeManager.onReceiveStatusSeq at unchanged
  cases stored : last.a.p2pID2Seq.lookup last.b.p2pNodeID with
  | none =>
    rw [stored] at unchanged
    cases unchanged
  | some mark =>
    rw [stored] at unchanged
    have current : mark = statusSeqAfter last.changes := by
      rw [← sound.counted]
      exact (bne_eq_false_iff_eq.mp unchanged).symm
    have copy := (sound.stored mark stored).current
      (fun _ bound same => statusSeqAfter_inj bound few same) current (by rw [store, idle]; rfl)
    intro groupID nodeID
    exact iff_of_eq (congrFun (congrFun copy groupID) nodeID)

def strangers : NodeListSync Nat := { a := { p2pNodeID := [97] }, b := { p2pNodeID := [98] } }

def oneNode : GatewayNodeManager Nat := (strangers.b.registerFrontService [103] [49] 0).2

def oneNodeEnvironment : Environment Bytes :=
  .reading (GatewayNodeManager.nodeListDocument oneNode.statusSeq oneNode.localGroup2NodeIDs)

def firstContact : List (Event Nat) :=
  [.registerFrontService [103] [49] 0, .heartBeat, .receiveAtA 0, .receiveAtB 0, .beginSweep,
    .updateFrontServiceInfo true, .receiveAtA 1, .updateFrontServiceInfo true,
    .updateFrontServiceInfo true]

theorem firstContact_nodes :
    ∃ last, Transition.run (step oneNodeEnvironment) strangers firstContact = some last ∧
      last.a.onReceiveStatusSeq [98] 2 = false ∧
      ∀ groupID nodeID, last.a.peerGatewayNodes.Holds groupID nodeID [98] ↔
        last.b.Registered groupID nodeID :=
  ⟨_, rfl, rfl, nodes_of_statusSeq oneNodeEnvironment strangers firstContact
    ⟨rfl, rfl, rfl, rfl, rfl, rfl⟩
    ⟨trivial, trivial, trivial, rfl, trivial, trivial, trivial, trivial, trivial, trivial⟩ rfl
    (by decide) rfl rfl⟩

end NodeListSync

end BcosGateway

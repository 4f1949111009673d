import BcosGateway.NodeManager.GroupNodes
import BcosGateway.Service.NodeListRounds
import Mathlib.Logic.Function.Basic

/-! Any number of gateways that exchange status numbers and node lists, each pair as in
`NodeListSync`. -/

namespace BcosGateway

/-- What a gateway does to its own nodes. An update is split where readers may come in between. -/
inductive LocalOperation (φ : Type) where
  | registerFrontService (groupID nodeID : StdString) (frontService : φ)
  | unregisterFrontService (groupID nodeID : StdString)
  | beginSweep
  | beginGroupInfo (groupID : StdString) (nodeInfos : List (NodeInfo φ))
  | updateFrontServiceInfo (noEndpoints : Bool)

namespace GatewayNodeManager

variable {φ : Type} (manager : GatewayNodeManager φ)

/-- The exclusive operations wait for an update to end. -/
def operate : Option (Update φ) → LocalOperation φ →
    Option (GatewayNodeManager φ × Option (Update φ))
  | none, .registerFrontService groupID nodeID frontService =>
    some ((manager.registerFrontService groupID nodeID frontService).2, none)
  | none, .unregisterFrontService groupID nodeID =>
    some ((manager.unregisterFrontService groupID nodeID).2, none)
  | none, .beginSweep => some (manager, some manager.beginSweep)
  | none, .beginGroupInfo groupID nodeInfos => some (manager, some (.groupInfo groupID nodeInfos))
  | none, .updateFrontServiceInfo _ => none
  | some update, .updateFrontServiceInfo noEndpoints =>
    some (manager.updateFrontServiceInfo noEndpoints update)
  | some _, _ => none

structure Operates (before after : GatewayNodeManager φ) (update next : Option (Update φ)) : Prop where
  counts : NodeListSync.Counts before after update next
  peerGatewayNodes : after.peerGatewayNodes = before.peerGatewayNodes
  p2pID2Seq : after.p2pID2Seq = before.p2pID2Seq

theorem operate_operates {update next : Option (Update φ)} {operation : LocalOperation φ}
    {after : GatewayNodeManager φ} (ran : manager.operate update operation = some (after, next)) :
    Operates manager after update next := by
  cases update with
  | none =>
    cases operation with
    | registerFrontService groupID nodeID frontService =>
      cases ran
      have peers := manager.registerFrontService_peers groupID nodeID frontService
      exact ⟨NodeListSync.registerFrontService_counts manager groupID nodeID frontService,
        peers.1, peers.2⟩
    | unregisterFrontService groupID nodeID =>
      cases ran
      have peers := manager.unregisterFrontService_peers groupID nodeID
      exact ⟨NodeListSync.unregisterFrontService_counts manager groupID nodeID, peers.1, peers.2⟩
    | beginSweep =>
      cases ran
      exact ⟨⟨rfl, .inr ⟨rfl, fun _ => ⟨rfl, rfl⟩⟩⟩, rfl, rfl⟩
    | beginGroupInfo groupID nodeInfos =>
      cases ran
      exact ⟨⟨rfl, .inr ⟨rfl, fun _ => ⟨rfl, rfl⟩⟩⟩, rfl, rfl⟩
    | updateFrontServiceInfo noEndpoints => cases ran
  | some update =>
    cases operation with
    | updateFrontServiceInfo noEndpoints =>
      have operated : manager.updateFrontServiceInfo noEndpoints update = (after, next) :=
        Option.some.inj ran
      have counts := NodeListSync.updateFrontServiceInfo_counts manager noEndpoints update
      have peers := @updateFrontServiceInfo_peers _ manager noEndpoints update
      rw [operated] at counts peers
      exact ⟨counts, peers.1, peers.2⟩
    | registerFrontService => cases ran
    | unregisterFrontService => cases ran
    | beginSweep => cases ran
    | beginGroupInfo => cases ran

end GatewayNodeManager

namespace NodeListSync

variable {φ Key : Type} {env : Environment Key}

def SameOwn (before after : GatewayNodeManager φ) : Prop :=
  after.p2pNodeID = before.p2pNodeID ∧ after.statusSeq = before.statusSeq ∧
    after.frontServiceInfos = before.frontServiceInfos

def SameView (before after : GatewayNodeManager φ) (peer : P2pID) : Prop :=
  after.p2pID2Seq.lookup peer = before.p2pID2Seq.lookup peer ∧
    ∀ groupID nodeID, after.peerGatewayNodes.Holds groupID nodeID peer ↔
      before.peerGatewayNodes.Holds groupID nodeID peer

theorem SameOwn.of_eq {before after : GatewayNodeManager φ} (same : after = before) :
    SameOwn before after := by
  rw [same]
  exact ⟨rfl, rfl, rfl⟩

theorem SameView.of_eq {before after : GatewayNodeManager φ} (same : after = before)
    (peer : P2pID) : SameView before after peer := by
  rw [same]
  exact ⟨rfl, fun _ _ => Iff.rfl⟩

/-- The invariant is about B and what A has of it, and about no message but the lists. -/
theorem Sound.congr {world next : NodeListSync φ} (sound : world.Sound env)
    (own : SameOwn world.b next.b) (view : SameView world.a next.a world.b.p2pNodeID)
    (update : next.update = world.update) (changes : next.changes = world.changes)
    (lists : ∀ message ∈ next.toA, message.packetType = env.fw.messageType.responseNodeIDs →
      message ∈ world.toA) : next.Sound env := by
  obtain ⟨p2pNodeID, statusSeq, infos⟩ := own
  obtain ⟨lookup, holds⟩ := view
  have registered : next.b.Registered = world.b.Registered := by
    funext groupID nodeID
    unfold GatewayNodeManager.Registered GatewayNodeManager.group
    rw [infos]
  have same : next.store = world.store := by
    unfold store
    rw [registered, changes, update]
  refine ⟨?_, fun message member type => ?_, fun mark found => ?_⟩
  · rw [statusSeq, changes]
    exact sound.counted
  · rw [same]
    exact sound.lists message (lists message member type) type
  · rw [p2pNodeID, lookup] at found
    have copy : (fun groupID nodeID =>
        next.a.peerGatewayNodes.Holds groupID nodeID next.b.p2pNodeID) =
          fun groupID nodeID =>
            world.a.peerGatewayNodes.Holds groupID nodeID world.b.p2pNodeID := by
      funext groupID nodeID
      rw [p2pNodeID]
      exact propext (holds groupID nodeID)
    rw [same, copy]
    exact sound.stored mark found

/-- A message changes what its receiver has of the sender, and nothing else. -/
theorem dispatch_apart [DecidableEq φ] {manager after : GatewayNodeManager φ} {sender : P2pID}
    {message : P2PMessage} {actions : List (Action φ Key)}
    (ran : Service.dispatch env (msgHandlers env) manager sender message = .ok (after, actions)) :
    SameOwn manager after ∧ ∀ peer, peer ≠ sender → SameView manager after peer := by
  rcases Service.dispatch_cases env ran with ⟨same, _⟩ | ⟨_, _, rfl, _⟩
  · exact ⟨.of_eq same, fun peer _ => .of_eq same peer⟩
  refine ⟨manager.onReceiveNodeIDs_own env.json sender message.payload, fun peer apart => ?_⟩
  unfold GatewayNodeManager.onReceiveNodeIDs
  cases GatewayNodeManager.parseReceivedJson env.json message.payload with
  | none => exact .of_eq rfl peer
  | some received =>
    refine ⟨(manager.lookup_apply (.updateNodeIDs sender received.1 received.2) peer).trans
      (if_neg apart), fun groupID nodeID => ?_⟩
    exact (manager.holds_apply (.updateNodeIDs sender received.1 received.2)).trans
      (iff_of_eq (if_neg apart))

end NodeListSync

/-- Gateways, each with the update that holds its lock, and everything that was sent, with its sender
    and its receiver. It may arrive at any time and more than once. `changes` counts the calls of
    `increaseSeq` of each. -/
structure Mesh (φ : Type) where
  gateways : P2pID → GatewayNodeManager φ
  updates : P2pID → Option (Update φ) := fun _ => none
  wire : List (P2pID × P2pID × P2PMessage) := []
  changes : P2pID → Nat := fun _ => 0

namespace Mesh

variable {φ Key : Type} (env : Environment Key)

inductive Event (φ : Type) where
  | operate (p2pID : P2pID) (operation : LocalOperation φ)
  | heartBeat (sender receiver : P2pID)
  /-- What the gateways have to send each other beside this exchange. -/
  | send (sender receiver : P2pID) (message : P2PMessage)
  | receive (flight : Nat)
  | onDisconnect (p2pID peer : P2pID)

def setGateway (mesh : Mesh φ) (p2pID : P2pID) (manager : GatewayNodeManager φ)
    (update : Option (Update φ)) : Mesh φ :=
  { mesh with
    gateways := Function.update mesh.gateways p2pID manager
    updates := Function.update mesh.updates p2pID update
    changes := Function.update mesh.changes p2pID
      (if manager.statusSeq = (mesh.gateways p2pID).statusSeq then mesh.changes p2pID
      else mesh.changes p2pID + 1) }

def beat (statusSeq : UInt32) : P2PMessage where
  packetType := env.fw.messageType.heartbeat
  payload := BigEndian.encode 4 statusSeq.toNat

def put (mesh : Mesh φ) (sender receiver : P2pID) (messages : List P2PMessage) : Mesh φ :=
  { mesh with wire := mesh.wire ++ messages.map fun message => (sender, receiver, message) }

def step [DecidableEq φ] (mesh : Mesh φ) : Event φ → Option (Mesh φ)
  | .operate p2pID operation =>
    ((mesh.gateways p2pID).operate (mesh.updates p2pID) operation).map fun operated =>
      mesh.setGateway p2pID operated.1 operated.2
  | .heartBeat sender receiver =>
    some (mesh.put sender receiver [beat env (mesh.gateways sender).statusSeq])
  | .send sender receiver message => some (mesh.put sender receiver [message])
  | .receive flight =>
    match mesh.wire[flight]? with
    | none => none
    | some (sender, me, message) =>
      match Service.dispatch env (NodeListSync.msgHandlers env) (mesh.gateways me) sender message with
      | .error _ => none
      | .ok (manager, actions) =>
        some (({ mesh with gateways := Function.update mesh.gateways me manager } : Mesh φ).put me
          sender (actions.filterMap NodeListSync.sent))
  | .onDisconnect p2pID peer =>
    some { mesh with
      gateways := Function.update mesh.gateways p2pID ((mesh.gateways p2pID).onRemoveNodeIDs peer) }

/-- jsoncpp reads back the node list that the receiver writes now, and nothing else is sent as a
    heartbeat or a node list. -/
def Proper (mesh : Mesh φ) : Event φ → Prop
  | .receive flight => ∀ sender me message, mesh.wire[flight]? = some (sender, me, message) →
    NodeListSync.Readable env.json (mesh.gateways me)
  | .send _ _ message => message.packetType ≠ env.fw.messageType.heartbeat ∧
    message.packetType ≠ env.fw.messageType.responseNodeIDs
  | _ => True

structure Initial (mesh : Mesh φ) : Prop where
  named : ∀ p2pID, (mesh.gateways p2pID).p2pNodeID = p2pID
  p2pID2Seq : ∀ p2pID peer, (mesh.gateways p2pID).p2pID2Seq.lookup peer = none
  peerGatewayNodes : ∀ p2pID groupID nodeID peer,
    ¬ (mesh.gateways p2pID).peerGatewayNodes.Holds groupID nodeID peer
  statusSeq : ∀ p2pID, (mesh.gateways p2pID).statusSeq = 1
  updates : ∀ p2pID, mesh.updates p2pID = none
  wire : mesh.wire = []
  changes : ∀ p2pID, mesh.changes p2pID = 0

def between (mesh : Mesh φ) (sender receiver : P2pID) : List P2PMessage :=
  mesh.wire.filterMap fun flight =>
    if flight.1 = sender ∧ flight.2.1 = receiver then some flight.2.2 else none

def pair (mesh : Mesh φ) (a b : P2pID) : NodeListSync φ where
  a := mesh.gateways a
  b := mesh.gateways b
  update := mesh.updates b
  toA := mesh.between b a
  toB := mesh.between a b
  changes := mesh.changes b

structure Sound (mesh : Mesh φ) : Prop where
  named : ∀ p2pID, (mesh.gateways p2pID).p2pNodeID = p2pID
  paired : ∀ a b, a ≠ b → (mesh.pair a b).Sound env

section Steps

variable {env} {mesh next : Mesh φ} {a b : P2pID}

theorem mem_between {sender receiver : P2pID} {message : P2PMessage} :
    message ∈ mesh.between sender receiver ↔ (sender, receiver, message) ∈ mesh.wire := by
  unfold between
  rw [List.mem_filterMap]
  constructor
  · rintro ⟨⟨source, target, sent⟩, member, kept⟩
    by_cases ends : source = sender ∧ target = receiver
    · rw [if_pos ends] at kept
      cases kept
      obtain ⟨rfl, rfl⟩ := ends
      exact member
    · rw [if_neg ends] at kept
      cases kept
  · intro member
    exact ⟨_, member, if_pos ⟨rfl, rfl⟩⟩

theorem between_put (mesh : Mesh φ) (sender receiver source target : P2pID)
    (messages : List P2PMessage) :
    (mesh.put sender receiver messages).between source target =
      mesh.between source target ++
        if sender = source ∧ receiver = target then messages else [] := by
  unfold between put
  rw [List.filterMap_append, List.filterMap_map]
  congr 1
  by_cases ends : sender = source ∧ receiver = target
  · rw [if_pos ends]
    have all : ((fun flight : P2pID × P2pID × P2PMessage =>
        if flight.1 = source ∧ flight.2.1 = target then some flight.2.2 else none) ∘
          fun message => (sender, receiver, message)) = some := by
      funext message
      exact if_pos ends
    rw [all, List.filterMap_some]
  · rw [if_neg ends]
    apply List.filterMap_eq_nil_iff.mpr
    intro message _
    exact if_neg ends

variable [DecidableEq φ]

inductive Moves (env : Environment Key) (mesh : Mesh φ) : Event φ → Mesh φ → Prop
  | operates (p2pID : P2pID) (operation : LocalOperation φ) (manager : GatewayNodeManager φ)
      (update : Option (Update φ))
      (operates : (mesh.gateways p2pID).Operates manager (mesh.updates p2pID) update) :
      Moves env mesh (.operate p2pID operation) (mesh.setGateway p2pID manager update)
  | heartBeat (sender receiver : P2pID) :
      Moves env mesh (.heartBeat sender receiver)
        (mesh.put sender receiver [beat env (mesh.gateways sender).statusSeq])
  | sends (sender receiver : P2pID) (message : P2PMessage) :
      Moves env mesh (.send sender receiver message) (mesh.put sender receiver [message])
  | receives (flight : Nat) (sender me : P2pID) (message : P2PMessage)
      (manager : GatewayNodeManager φ) (actions : List (Action φ Key))
      (arrives : mesh.wire[flight]? = some (sender, me, message))
      (ran : Service.dispatch env (NodeListSync.msgHandlers env) (mesh.gateways me) sender message =
        .ok (manager, actions)) :
      Moves env mesh (.receive flight)
        (({ mesh with gateways := Function.update mesh.gateways me manager } : Mesh φ).put me sender
          (actions.filterMap NodeListSync.sent))
  | onDisconnect (p2pID peer : P2pID) :
      Moves env mesh (.onDisconnect p2pID peer) { mesh with
        gateways :=
          Function.update mesh.gateways p2pID ((mesh.gateways p2pID).onRemoveNodeIDs peer) }

theorem step_moves {event : Event φ} (taken : step env mesh event = some next) :
    Moves env mesh event next := by
  cases event with
  | operate p2pID operation =>
    obtain ⟨⟨manager, update⟩, operated, rfl⟩ := Option.map_eq_some_iff.mp taken
    exact .operates p2pID operation manager update
      (GatewayNodeManager.operate_operates _ operated)
  | heartBeat sender receiver =>
    cases taken
    exact .heartBeat sender receiver
  | send sender receiver message =>
    cases taken
    exact .sends sender receiver message
  | receive flight =>
    simp only [step] at taken
    split at taken
    · cases taken
    rename_i sender me message arrives
    split at taken
    · cases taken
    rename_i manager actions ran
    cases taken
    exact .receives flight sender me message manager actions arrives ran
  | onDisconnect p2pID peer =>
    cases taken
    exact .onDisconnect p2pID peer

section Update

variable {me : P2pID} {manager : GatewayNodeManager φ}

omit [DecidableEq φ]

theorem sameOwn_update (same : NodeListSync.SameOwn (mesh.gateways me) manager) (p2pID : P2pID) :
    NodeListSync.SameOwn (mesh.gateways p2pID)
      (Function.update mesh.gateways me manager p2pID) := by
  by_cases here : p2pID = me
  · subst here
    rw [Function.update_self]
    exact same
  · rw [Function.update_of_ne here]
    exact .of_eq rfl

theorem sameView_update {peer : P2pID}
    (same : NodeListSync.SameView (mesh.gateways me) manager peer) (p2pID : P2pID) :
    NodeListSync.SameView (mesh.gateways p2pID)
      (Function.update mesh.gateways me manager p2pID) peer := by
  by_cases here : p2pID = me
  · subst here
    rw [Function.update_self]
    exact same
  · rw [Function.update_of_ne here]
    exact .of_eq rfl peer

theorem named_update (sound : mesh.Sound env)
    (own : manager.p2pNodeID = (mesh.gateways me).p2pNodeID) (p2pID : P2pID) :
    (Function.update mesh.gateways me manager p2pID).p2pNodeID = p2pID := by
  by_cases here : p2pID = me
  · subst here
    rw [Function.update_self]
    exact own.trans (sound.named p2pID)
  · rw [Function.update_of_ne here]
    exact sound.named p2pID

/-- What a gateway has of a peer stays, unless the change is its own and about this peer. -/
theorem sameView_apart {about : P2pID}
    (others : ∀ peer, peer ≠ about → NodeListSync.SameView (mesh.gateways me) manager peer)
    (apart : ¬ (me = a ∧ about = b)) :
    NodeListSync.SameView (mesh.gateways a) (Function.update mesh.gateways me manager a) b := by
  by_cases same : b = about
  · have elsewhere : a ≠ me := fun here => apart ⟨here.symm, same.symm⟩
    exact .of_eq (Function.update_of_ne elsewhere _ _) b
  · exact sameView_update (others b same) a

end Update

omit [DecidableEq φ] in
theorem Sound.operates (sound : mesh.Sound env) {p2pID : P2pID} {manager : GatewayNodeManager φ}
    {update : Option (Update φ)}
    (operates : (mesh.gateways p2pID).Operates manager (mesh.updates p2pID) update) :
    (mesh.setGateway p2pID manager update).Sound env := by
  refine ⟨named_update sound operates.counts.p2pNodeID, fun a b apart => ?_⟩
  have before := sound.paired a b apart
  by_cases owner : b = p2pID
  · -- the operation of B in the pair
    subst owner
    have counted : (mesh.setGateway b manager update).pair a b =
        (mesh.pair a b).setB manager update := by
      unfold pair setGateway NodeListSync.setB between
      simp only [Function.update_self, Function.update_of_ne apart]
    rw [counted]
    exact before.setB operates.counts
  · have view : NodeListSync.SameView (mesh.gateways p2pID) manager
        (mesh.gateways b).p2pNodeID := by
      unfold NodeListSync.SameView
      rw [operates.p2pID2Seq, operates.peerGatewayNodes]
      exact ⟨rfl, fun _ _ => Iff.rfl⟩
    exact before.congr (.of_eq (Function.update_of_ne owner _ _)) (sameView_update view a)
      (Function.update_of_ne owner _ _) (Function.update_of_ne owner _ _)
      (fun _ member _ => member)

omit [DecidableEq φ] in
/-- A message that is no node list is of no account before it is read. -/
theorem Sound.put (sound : mesh.Sound env) (sender receiver : P2pID) {messages : List P2PMessage}
    (others : ∀ message ∈ messages,
      message.packetType ≠ env.fw.messageType.responseNodeIDs) :
    (mesh.put sender receiver messages).Sound env := by
  refine ⟨sound.named, fun a b apart => ?_⟩
  refine (sound.paired a b apart).congr (.of_eq rfl) (.of_eq rfl _) rfl rfl
    (fun message member type => ?_)
  have listed : message ∈ (mesh.put sender receiver messages).between b a := member
  rw [between_put] at listed
  rcases List.mem_append.mp listed with old | new
  · exact old
  · split at new
    · exact absurd type (others message new)
    · cases new

theorem Sound.receives (sound : mesh.Sound env) {flight : Nat} {sender me : P2pID}
    {message : P2PMessage} (readable : NodeListSync.Readable env.json (mesh.gateways me))
    {manager : GatewayNodeManager φ} {actions : List (Action φ Key)}
    (arrives : mesh.wire[flight]? = some (sender, me, message))
    (ran : Service.dispatch env (NodeListSync.msgHandlers env) (mesh.gateways me) sender message =
      .ok (manager, actions)) :
    (({ mesh with gateways := Function.update mesh.gateways me manager } : Mesh φ).put me sender
      (actions.filterMap NodeListSync.sent)).Sound env := by
  obtain ⟨own, others⟩ := NodeListSync.dispatch_apart ran
  refine ⟨named_update sound own.1, fun a b apart => ?_⟩
  have before := sound.paired a b apart
  have toA (response : P2PMessage) (member : response ∈ (({ mesh with
      gateways := Function.update mesh.gateways me manager } : Mesh φ).put me sender
        (actions.filterMap NodeListSync.sent)).between b a) :
      response ∈ mesh.between b a ++
        if me = b ∧ sender = a then actions.filterMap NodeListSync.sent else [] := by
    rw [between_put] at member
    exact member
  by_cases reads : me = a ∧ sender = b
  · -- A reads what B has sent
    obtain ⟨rfl, rfl⟩ := reads
    have sent : message ∈ (mesh.pair me sender).toA :=
      mem_between.mpr (List.mem_of_getElem? arrives)
    have dispatched : Service.dispatch env (NodeListSync.msgHandlers env) (mesh.pair me sender).a
        (mesh.pair me sender).b.p2pNodeID message = .ok (manager, actions) := by
      unfold pair
      rw [sound.named sender]
      exact ran
    have mine : Function.update mesh.gateways me manager me = manager := Function.update_self _ _ _
    refine (before.receiveAtA sent dispatched []).congr
      (.of_eq (Function.update_of_ne (Ne.symm apart) _ _)) (.of_eq mine _) rfl rfl
      (fun response member _ => ?_)
    have listed := toA response member
    rw [if_neg (fun ends => apart ends.1), List.append_nil] at listed
    exact listed
  by_cases answers : me = b ∧ sender = a
  · -- B reads what A has sent, and may answer
    obtain ⟨rfl, rfl⟩ := answers
    have dispatched : Service.dispatch env (NodeListSync.msgHandlers env) (mesh.pair sender me).b
        (mesh.pair sender me).a.p2pNodeID message = .ok (manager, actions) := by
      unfold pair
      rw [sound.named sender]
      exact ran
    have mine : Function.update mesh.gateways me manager me = manager := Function.update_self _ _ _
    refine (before.receiveAtB readable.read dispatched).congr (.of_eq mine)
      (.of_eq (Function.update_of_ne apart _ _) _) rfl rfl (fun response member _ => ?_)
    have listed := toA response member
    rw [if_pos ⟨rfl, rfl⟩] at listed
    exact listed
  -- neither reads what the other one has sent
  have view := sameView_apart others reads
  rw [← sound.named b] at view
  refine before.congr (sameOwn_update own b) view rfl rfl (fun response member _ => ?_)
  have listed := toA response member
  rw [if_neg answers, List.append_nil] at listed
  exact listed

omit [DecidableEq φ] in
theorem sameView_onRemoveNodeIDs (manager : GatewayNodeManager φ) {peer other : P2pID}
    (apart : other ≠ peer) :
    NodeListSync.SameView manager (manager.onRemoveNodeIDs peer) other :=
  ⟨(manager.lookup_apply (.onRemoveNodeIDs peer) other).trans (if_neg apart),
    fun _ _ => (manager.holds_apply (.onRemoveNodeIDs peer)).trans (iff_of_eq (if_neg apart))⟩

omit [DecidableEq φ] in
theorem Sound.onDisconnect (sound : mesh.Sound env) (p2pID peer : P2pID) :
    ({ mesh with gateways :=
        Function.update mesh.gateways p2pID ((mesh.gateways p2pID).onRemoveNodeIDs peer) } :
      Mesh φ).Sound env := by
  refine ⟨named_update sound rfl, fun a b apart => ?_⟩
  have before := sound.paired a b apart
  have kept : NodeListSync.SameOwn (mesh.gateways p2pID)
      ((mesh.gateways p2pID).onRemoveNodeIDs peer) := ⟨rfl, rfl, rfl⟩
  have own := sameOwn_update kept b
  by_cases forgets : p2pID = a ∧ peer = b
  · obtain ⟨rfl, rfl⟩ := forgets
    have mine : Function.update mesh.gateways p2pID
        ((mesh.gateways p2pID).onRemoveNodeIDs peer) p2pID =
          (mesh.gateways p2pID).onRemoveNodeIDs peer := Function.update_self _ _ _
    have forgotten := before.onDisconnect
    unfold pair at forgotten
    rw [sound.named peer] at forgotten
    exact forgotten.congr own (.of_eq mine _) rfl rfl (fun _ member _ => member)
  · have view := sameView_apart (fun _ => sameView_onRemoveNodeIDs (mesh.gateways p2pID)) forgets
    rw [← sound.named b] at view
    exact before.congr own view rfl rfl (fun _ member _ => member)

theorem Sound.step (sound : mesh.Sound env) {event : Event φ} (proper : Proper env mesh event)
    (taken : Mesh.step env mesh event = some next) : next.Sound env := by
  cases step_moves taken with
  | operates p2pID operation manager update operates => exact sound.operates operates
  | heartBeat sender receiver =>
    apply sound.put
    intro message member
    rw [List.mem_singleton.mp member]
    exact NodeListSync.responseNodeIDs_ne_heartbeat.1
  | sends sender receiver message =>
    apply sound.put
    intro other member
    rw [List.mem_singleton.mp member]
    exact proper.2
  | receives flight sender me message manager actions arrives ran =>
    exact sound.receives (proper sender me message arrives) arrives ran
  | onDisconnect p2pID peer => exact sound.onDisconnect p2pID peer

omit [DecidableEq φ] in
theorem Initial.sound (initial : mesh.Initial) : mesh.Sound env := by
  refine ⟨initial.named, fun a b _ => NodeListSync.Initial.sound ?_⟩
  have silent : ∀ sender receiver, mesh.between sender receiver = [] := by
    intro sender receiver
    unfold between
    rw [initial.wire]
    rfl
  exact ⟨initial.p2pID2Seq a _, initial.statusSeq b, initial.updates b, silent b a, silent a b,
    initial.changes b⟩

end Steps

end Mesh

end BcosGateway

import BcosGateway.Gateway.ExactlyOnce
import BcosGateway.Gateway.Traffic
import BcosGateway.Service.MeshSettles

/-! A round of the node-list exchange brings a network to the state that a broadcast relies on. -/

namespace BcosGateway.Mesh

variable {φ Key : Type} {env : Environment Key} {mesh middle last : Mesh φ}
  {members : List P2pID}

def Event.Among (members : List P2pID) : Event φ → Prop
  | .heartBeat sender receiver | .send sender receiver _ =>
    sender ≠ receiver ∧ sender ∈ members ∧ receiver ∈ members
  | _ => True

structure Known (members : List P2pID) (mesh : Mesh φ) : Prop where
  wire : ∀ flight ∈ mesh.wire,
    flight.1 ≠ flight.2.1 ∧ flight.1 ∈ members ∧ flight.2.1 ∈ members
  holds : ∀ p2pID groupID nodeID peer,
    (mesh.gateways p2pID).peerGatewayNodes.Holds groupID nodeID peer →
      peer ≠ p2pID ∧ peer ∈ members

theorem Initial.known (initial : mesh.Initial) : mesh.Known members := by
  refine ⟨fun flight member => ?_, fun p2pID groupID nodeID peer holds => ?_⟩
  · rw [initial.wire] at member
    cases member
  · exact absurd holds (initial.peerGatewayNodes p2pID groupID nodeID peer)

theorem Known.put (known : mesh.Known members) {sender receiver : P2pID}
    (messages : List P2PMessage)
    (among : sender ≠ receiver ∧ sender ∈ members ∧ receiver ∈ members) :
    (mesh.put sender receiver messages).Known members := by
  refine ⟨fun flight member => ?_, known.holds⟩
  rcases List.mem_append.mp member with old | new
  · exact known.wire flight old
  · obtain ⟨message, _, rfl⟩ := List.mem_map.mp new
    exact among

theorem Known.update (known : mesh.Known members) {me : P2pID} {manager : GatewayNodeManager φ}
    (held : ∀ groupID nodeID peer, manager.peerGatewayNodes.Holds groupID nodeID peer →
      peer ≠ me ∧ peer ∈ members) :
    ({ mesh with gateways := Function.update mesh.gateways me manager } : Mesh φ).Known members := by
  refine ⟨known.wire, fun p2pID groupID nodeID peer holds => ?_⟩
  by_cases here : p2pID = me
  · subst here
    simp only [Function.update_self] at holds
    exact held groupID nodeID peer holds
  · simp only [Function.update_of_ne here] at holds
    exact known.holds p2pID groupID nodeID peer holds

theorem Known.step [DecidableEq φ] (known : mesh.Known members) {event : Event φ}
    (among : event.Among members) (taken : Mesh.step env mesh event = some last) :
    last.Known members := by
  cases step_moves taken with
  | operates p2pID operation manager update operates =>
    have held : ∀ groupID nodeID peer, manager.peerGatewayNodes.Holds groupID nodeID peer →
        peer ≠ p2pID ∧ peer ∈ members := by
      intro groupID nodeID peer holds
      rw [operates.peerGatewayNodes] at holds
      exact known.holds p2pID groupID nodeID peer holds
    exact ⟨known.wire, (known.update held).holds⟩
  | heartBeat sender receiver => exact known.put _ among
  | sends sender receiver message => exact known.put _ among
  | receives place sender me message manager actions arrives ran =>
    obtain ⟨apart, from_, to_⟩ := known.wire _ (List.mem_of_getElem? arrives)
    apply Known.put _ _ ⟨Ne.symm apart, to_, from_⟩
    apply known.update
    intro groupID nodeID peer holds
    by_cases same : peer = sender
    · rw [same]
      exact ⟨apart, from_⟩
    · exact known.holds me groupID nodeID peer
        ((((NodeListSync.dispatch_apart ran).2 peer same).2 groupID nodeID).mp holds)
  | onDisconnect p2pID peer =>
    apply known.update
    intro groupID nodeID other holds
    by_cases same : other = peer
    · have forgotten : ¬ ((mesh.gateways p2pID).onRemoveNodeIDs peer).peerGatewayNodes.Holds
          groupID nodeID other := fun held =>
        (((mesh.gateways p2pID).holds_apply (.onRemoveNodeIDs peer)).trans
          (iff_of_eq (if_pos same))).mp held
      exact absurd holds forgotten
    · exact known.holds p2pID groupID nodeID other
        (((sameView_onRemoveNodeIDs (mesh.gateways p2pID) same).2 groupID nodeID).mp holds)

section Exists

variable [DecidableEq φ] {start : Mesh φ}

def Event.Since (oldest : Nat) : Event φ → Prop
  | .receive place => oldest ≤ place
  | .onDisconnect .. => False
  | _ => True

abbrev Later (env : Environment Key) (oldest : Nat) (mesh : Mesh φ) (event : Event φ) : Prop :=
  Proper env mesh event ∧ event.Since oldest

omit [DecidableEq φ] in
theorem Later.hearing {a b : P2pID} {event : Event φ}
    (later : Later env start.wire.length mesh event) : Hearing env start a b mesh event := by
  refine ⟨later.1, ?_⟩
  cases event with
  | receive place => exact fun _ _ => later.2
  | onDisconnect => exact later.2.elim
  | operate => trivial
  | heartBeat => trivial
  | send => trivial

omit [DecidableEq φ] in
theorem readable_congr {json : JsonCpp} {before after : GatewayNodeManager φ}
    (statusSeq : after.statusSeq = before.statusSeq)
    (infos : after.frontServiceInfos = before.frontServiceInfos)
    (readable : NodeListSync.Readable json before) : NodeListSync.Readable json after := by
  have nodes : after.localGroup2NodeIDs = before.localGroup2NodeIDs := by
    unfold GatewayNodeManager.localGroup2NodeIDs
    rw [infos]
  have written : after.onRequestNodeIDs json = before.onRequestNodeIDs json := by
    unfold GatewayNodeManager.onRequestNodeIDs
    rw [statusSeq, nodes]
  refine ⟨?_, ?_⟩
  · rw [written]
    exact readable.written
  · rw [written, statusSeq, nodes]
    exact readable.read

def Exchanged (env : Environment Key) (message : P2PMessage) : Prop :=
  (∃ statusSeq, message = beat env statusSeq) ∨
    message.packetType = env.fw.messageType.requestNodeIDs ∨
    message.packetType = env.fw.messageType.responseNodeIDs

structure Still (env : Environment Key) (start mesh : Mesh φ) : Prop where
  own : ∀ p2pID, NodeListSync.SameOwn (start.gateways p2pID) (mesh.gateways p2pID)
  updates : mesh.updates = start.updates
  changes : mesh.changes = start.changes
  wire : ∀ place flight, start.wire.length ≤ place → mesh.wire[place]? = some flight →
    Exchanged env flight.2.2

omit [DecidableEq φ] in
theorem Still.put (still : Still env start mesh) {sender receiver : P2pID}
    {messages : List P2PMessage} (exchanged : ∀ message ∈ messages, Exchanged env message) :
    Still env start (mesh.put sender receiver messages) := by
  refine ⟨still.own, still.updates, still.changes, fun place flight since found => ?_⟩
  by_cases old : place < mesh.wire.length
  · unfold Mesh.put at found
    rw [List.getElem?_append_left old] at found
    exact still.wire place flight since found
  · unfold Mesh.put at found
    rw [List.getElem?_append_right (Nat.not_lt.mp old)] at found
    obtain ⟨message, sends, rfl⟩ := List.mem_map.mp (List.mem_of_getElem? found)
    exact exchanged message sends

/-- A message of an exchange can be dispatched, and what is sent for it belongs to the exchange. -/
theorem Exchanged.dispatched {message : P2PMessage} (exchanged : Exchanged env message)
    (manager : GatewayNodeManager φ) (sender : P2pID) :
    ∃ after actions, Service.dispatch env (NodeListSync.msgHandlers env) manager sender message =
        .ok (after, actions) ∧
      ∀ response ∈ actions.filterMap NodeListSync.sent, Exchanged env response := by
  rcases exchanged with ⟨statusSeq, rfl⟩ | request | list
  · refine ⟨_, _, NodeListSync.dispatch_beat env manager sender statusSeq, fun response sends => ?_⟩
    split at sends
    · exact .inr (.inl (by rw [List.mem_singleton.mp sends]))
    · cases sends
  · refine ⟨_, _, Service.dispatch_requestNodeIDs env
      (NodeListSync.unhandled_of_ne_amop (request ▸ NodeListSync.amop_distinct.2.1)) request,
      fun response sends => ?_⟩
    split at sends
    · cases sends
    · exact .inr (.inr (by rw [List.mem_singleton.mp sends]))
  · exact ⟨_, _, Service.dispatch_responseNodeIDs env
      (NodeListSync.unhandled_of_ne_amop (list ▸ NodeListSync.amop_distinct.2.2)) list,
      fun response none => (by cases none)⟩

/-- What a dispatch sends weighs less than what it reads. -/
theorem sent_weight {manager after : GatewayNodeManager φ} {sender : P2pID} {message : P2PMessage}
    {actions : List (Action φ Key)}
    (ran : Service.dispatch env (NodeListSync.msgHandlers env) manager sender message =
      .ok (after, actions)) :
    ((actions.filterMap NodeListSync.sent).map (Traffic.weight env)).sum <
      Traffic.weight env message := by
  have each : ∀ (action : Action φ Key) response, NodeListSync.sent action = some response →
      Traffic.weight env response ≤ Traffic.load env action := by
    intro action response sends
    cases action with
    | sendMessageBySession packetType payload =>
      cases sends
      exact Nat.le_refl _
    | handler => cases sends
    | sendRespMessageBySession => cases sends
    | onReceiveMessage => cases sends
  exact Nat.lt_of_le_of_lt (Places.sum_filterMap_le each actions) (Traffic.dispatch_load ran)

/-- Where no message was sent yet, heartbeats can be sent. -/
theorem beats_run (still : Still env start mesh) (oldest : Nat) (pairs : List (P2pID × P2pID)) :
    let events : List (Event φ) := pairs.map fun ends => .heartBeat ends.2 ends.1
    ∃ after, Transition.run (step env) mesh events = some after ∧ Still env start after ∧
      Transition.Meets (step env) (Later env oldest) mesh events := by
  induction pairs generalizing mesh with
  | nil => exact ⟨mesh, rfl, still, trivial⟩
  | cons ends pairs ih =>
    let next := mesh.put ends.2 ends.1 [beat env (mesh.gateways ends.2).statusSeq]
    have taken : step env mesh (.heartBeat ends.2 ends.1) = some next := rfl
    have kept : Still env start next := still.put fun message member =>
      .inl ⟨_, List.mem_singleton.mp member⟩
    obtain ⟨after, ran, ends, meets⟩ := ih kept
    exact ⟨after, (Transition.run_cons _).mpr ⟨next, taken, ran⟩, ends,
      .cons _ ⟨trivial, trivial⟩ taken meets⟩

theorem step_receive {place : Nat} {sender me : P2pID} {message : P2PMessage}
    {manager : GatewayNodeManager φ} {actions : List (Action φ Key)}
    (arrives : mesh.wire[place]? = some (sender, me, message))
    (ran : Service.dispatch env (NodeListSync.msgHandlers env) (mesh.gateways me) sender message =
      .ok (manager, actions)) :
    step env mesh (.receive place) =
      some (({ mesh with gateways := Function.update mesh.gateways me manager } : Mesh φ).put me
        sender (actions.filterMap NodeListSync.sent)) := by
  simp only [step, arrives, ran]

theorem Still.receive (still : Still env start mesh) {place : Nat} {sender me : P2pID}
    {message : P2PMessage} (since : start.wire.length ≤ place)
    (arrives : mesh.wire[place]? = some (sender, me, message)) :
    ∃ next more, step env mesh (.receive place) = some next ∧ Still env start next ∧
      next.wire = mesh.wire ++ more ∧
      (more.map fun flight => Traffic.weight env flight.2.2).sum < Traffic.weight env message := by
  obtain ⟨manager, actions, ran, exchanged⟩ :=
    (still.wire place _ since arrives).dispatched (mesh.gateways me) sender
  have own := (NodeListSync.dispatch_apart ran).1
  have kept : Still env start ({ mesh with
      gateways := Function.update mesh.gateways me manager } : Mesh φ) := by
    refine ⟨fun p2pID => ?_, still.updates, still.changes, still.wire⟩
    have before := still.own p2pID
    have after := sameOwn_update own p2pID
    exact ⟨after.1.trans before.1, after.2.1.trans before.2.1, after.2.2.trans before.2.2⟩
  refine ⟨_, _, step_receive arrives ran, kept.put exchanged, rfl, ?_⟩
  rw [List.map_map]
  exact sent_weight ran

end Exists

section Rounds

variable [DecidableEq φ] {events : List (Event φ)}

structure Round (env : Environment Key) (members : List P2pID) (start : Mesh φ)
    (events : List (Event φ)) (last : Mesh φ) : Prop where
  later : Transition.Meets (step env) (Later env start.wire.length) start events
  among : ∀ event ∈ events, event.Among members
  ran : Transition.run (step env) start events = some last
  beaten : ∀ a ∈ members, ∀ b ∈ members, a ≠ b → .heartBeat b a ∈ events
  read : ∀ place, start.wire.length ≤ place → place < last.wire.length → .receive place ∈ events
  unchanged : ∀ p2pID ∈ members, last.changes p2pID = start.changes p2pID
  few : ∀ p2pID ∈ members, last.changes p2pID < 2 ^ 32
  idle : ∀ p2pID ∈ members, last.updates p2pID = none

structure Runs (members : List P2pID) (mesh : Mesh φ) (network : Network φ) : Prop where
  members : ∀ p2pID, p2pID ∈ network ↔ p2pID ∈ members
  managers : ∀ p2pID service, network.lookup p2pID = some service →
    service.manager = mesh.gateways p2pID

def pairs (members : List P2pID) : List (P2pID × P2pID) :=
  (members.product members).filter fun ends => ends.1 ≠ ends.2

theorem mem_pairs {a b : P2pID} :
    (a, b) ∈ pairs members ↔ (a ∈ members ∧ b ∈ members) ∧ a ≠ b := by
  unfold pairs
  rw [List.mem_filter, List.pair_mem_product, decide_eq_true_iff]

/-- A round can be made wherever no gateway is in the middle of an update. -/
theorem round_exists {start : Mesh φ}
    (readable : ∀ p2pID, NodeListSync.Readable env.json (start.gateways p2pID))
    (few : ∀ p2pID ∈ members, start.changes p2pID < 2 ^ 32)
    (idle : ∀ p2pID ∈ members, start.updates p2pID = none) :
    ∃ events last, Round env members start events last := by
  let beats : List (Event φ) := (pairs members).map fun ends => .heartBeat ends.2 ends.1
  have nothing : Still env start start := by
    refine ⟨fun _ => .of_eq rfl, rfl, rfl, fun place flight since found => ?_⟩
    exact absurd (List.getElem?_eq_some_iff.mp found).1 (Nat.not_lt.mpr since)
  obtain ⟨middle, sends, still, meets⟩ := beats_run nothing start.wire.length (pairs members)
  have possible : ∀ mesh place flight, Still env start mesh → start.wire.length ≤ place →
      mesh.wire[place]? = some flight → ∃ next more,
        Later env start.wire.length mesh (.receive place) ∧
          step env mesh (.receive place) = some next ∧ Still env start next ∧
          next.wire = mesh.wire ++ more ∧
          (more.map fun flight => Traffic.weight env flight.2.2).sum <
            Traffic.weight env flight.2.2 := by
    rintro mesh place ⟨sender, me, message⟩ still since arrives
    obtain ⟨next, more, taken, after, grown, less⟩ := still.receive since arrives
    refine ⟨next, more, ⟨fun _ _ _ found => ?_, since⟩, taken, after, grown, less⟩
    cases arrives.symm.trans found
    exact readable_congr (still.own me).2.1 (still.own me).2.2 (readable me)
  obtain ⟨receives, last, read, ran, ends, only, all⟩ :=
    UnderWay.drains possible still (Nat.le_refl _)
  refine ⟨beats ++ receives, last, meets.append _ sends read, fun event member => ?_,
    (Transition.run_append _).mpr ⟨middle, sends, ran⟩, fun a inA b inB apart => ?_,
    fun place since before => List.mem_append_right _ (all place since before),
    fun p2pID _ => congrFun ends.changes p2pID, ?_, ?_⟩
  · rcases List.mem_append.mp member with beating | receiving
    · obtain ⟨⟨receiver, sender⟩, listed, rfl⟩ := List.mem_map.mp beating
      obtain ⟨⟨receives, sends⟩, apart⟩ := mem_pairs.mp listed
      exact ⟨Ne.symm apart, sends, receives⟩
    · obtain ⟨place, rfl⟩ := only event receiving
      trivial
  · exact List.mem_append_left _
      (List.mem_map.mpr ⟨(a, b), mem_pairs.mpr ⟨⟨inA, inB⟩, apart⟩, rfl⟩)
  · rw [ends.changes]
    exact few
  · rw [ends.updates]
    exact idle

theorem Round.agrees {start : Mesh φ} (sound : start.Sound env)
    (round : Round env members start events last) {a b : P2pID} (inA : a ∈ members)
    (inB : b ∈ members) (apart : a ≠ b) : last.Agrees a b := by
  have recent : Transition.Meets (step env) (Hearing env start a b) start events :=
    round.later.weaken _ fun _ _ => Later.hearing
  have soundLast : last.Sound env := Transition.invariant_of_meets (step env)
    (fun _ _ _ held met taken => Sound.step held met.1 taken) sound round.later round.ran
  have handled : Handled env start.wire.length a b events last :=
    ⟨round.beaten a inA b inB apart, fun place _ since found _ =>
      round.read place since (List.getElem?_eq_some_iff.mp found).1⟩
  have stored := handled.stored sound recent round.ran (round.unchanged b inB)
  exact soundLast.agrees apart (round.few b inB) (round.idle b inB) stored

theorem Known.run {start : Mesh φ} (known : start.Known members)
    (among : ∀ event ∈ events, event.Among members)
    (ran : Transition.run (Mesh.step env) start events = some last) : last.Known members := by
  induction events generalizing start with
  | nil =>
    cases ran
    exact known
  | cons event events ih =>
    obtain ⟨next, taken, rest⟩ := (Transition.run_cons _).mp ran
    exact ih (known.step (among event List.mem_cons_self) taken)
      (fun later member => among later (List.mem_cons_of_mem _ member)) rest

omit [DecidableEq φ] in
theorem Runs.host_isSome {network : Network φ} (runs : Runs members mesh network) {peer : P2pID}
    {groupID nodeID : StdString} :
    (network.host groupID nodeID peer).isSome ↔
      peer ∈ members ∧ (mesh.gateways peer).Registered groupID nodeID := by
  have registered : ∀ manager : GatewayNodeManager φ,
      ((manager.group groupID).lookup nodeID).isSome ↔ manager.Registered groupID nodeID :=
    fun manager => AList.lookup_isSome
  cases found : network.lookup peer with
  | none =>
    have absent : peer ∉ members := fun member =>
      absurd ((runs.members peer).mpr member) (AList.lookup_eq_none.mp found)
    unfold Network.host
    rw [found]
    exact ⟨fun none => (by cases none), fun there => absurd there.1 absent⟩
  | some service =>
    have member : peer ∈ members :=
      (runs.members peer).mp (AList.lookup_isSome.mp (found ▸ rfl))
    rw [Network.host_eq found, Option.isSome_map, registered, runs.managers peer service found]
    exact (and_iff_right member).symm

theorem Round.inSync {start : Mesh φ} (sound : start.Sound env) (known : start.Known members)
    (round : Round env members start events last) {network : Network φ}
    (runs : Runs members last network) : network.InSync := by
  intro p2pID service found groupID nodeID peer
  have member : p2pID ∈ members := (runs.members p2pID).mp (AList.lookup_isSome.mp (found ▸ rfl))
  rw [runs.managers p2pID service found, runs.host_isSome]
  constructor
  · intro holds
    obtain ⟨apart, peerMember⟩ := (known.run round.among round.ran).holds p2pID groupID nodeID peer holds
    have agrees := round.agrees sound member peerMember (Ne.symm apart)
    exact ⟨apart, peerMember, (agrees groupID nodeID).mp holds⟩
  · rintro ⟨apart, peerMember, registered⟩
    have agrees := round.agrees sound member peerMember (Ne.symm apart)
    exact (agrees groupID nodeID).mpr registered

end Rounds

/-- Whatever the gateways of a network have done, they can exchange their node lists when none is in
    the middle of an update, and after a round of heartbeats that are read to the end, in whatever
    order, each knows the nodes of the others, and a broadcast is received once by a node if and only
    if it has one gateway and does not share its front service at the sender. -/
theorem round_broadcasts [DecidableEq φ] [DecidableEq Key] (env : Environment Key)
    (members : List P2pID) (fresh : Mesh φ) (before : List (Event φ)) {start : Mesh φ}
    (initial : fresh.Initial) (proper : Transition.Meets (step env) (Proper env) fresh before)
    (among : ∀ event ∈ before, event.Among members)
    (reached : Transition.run (step env) fresh before = some start) :
    ((∀ p2pID, NodeListSync.Readable env.json (start.gateways p2pID)) →
      (∀ p2pID ∈ members, start.changes p2pID < 2 ^ 32) →
      (∀ p2pID ∈ members, start.updates p2pID = none) →
      ∃ events last, Round env members start events last) ∧
    ∀ events last network, Round env members start events last → Runs members last network →
      network.InSync ∧
        ((∀ key, env.keyFactory.createKey (env.keyFactory.encode key) = key) →
          network.Meshed env → ∀ groupID srcNodeID payload,
            19 + groupID.length + (env.keyFactory.encode srcNodeID).length + payload.length <
              2 ^ 32 →
            ∀ origin ∈ network, ∀ nodeID,
              network.received env groupID srcNodeID payload origin nodeID = 1 ↔
                Network.ReachedOnce env network groupID srcNodeID origin nodeID) := by
  have sound : start.Sound env := Transition.invariant_of_meets (step env)
    (fun _ _ _ held met taken => Sound.step held met taken) initial.sound proper reached
  have known : start.Known members := initial.known.run among reached
  refine ⟨fun readable few idle => round_exists readable few idle,
    fun events last network round runs => ?_⟩
  have inSync := round.inSync sound known runs
  exact ⟨inSync, fun keys meshed groupID srcNodeID payload sized origin present nodeID =>
    Network.received_once_iff env keys sized meshed inSync present⟩

def linked (mesh : Mesh Nat) : Network Nat :=
  ((∅ : Network Nat).insert [97]
    { Network.gateway [97] [98] 0 [] [] with manager := mesh.gateways [97] }).insert [98]
      { Network.gateway [98] [97] 1 [] [] with manager := mesh.gateways [98] }

theorem linked_cases {mesh : Mesh Nat} {p2pID : P2pID} {service : Service Nat}
    (found : (linked mesh).lookup p2pID = some service) :
    ∃ peer front, peer ≠ p2pID ∧ (p2pID = [97] ∧ peer = [98] ∨ p2pID = [98] ∧ peer = [97]) ∧
      service = { Network.gateway p2pID peer front [] [] with manager := mesh.gateways p2pID } := by
  unfold linked at found
  rw [Table.lookup_insert_if, Table.lookup_insert_if] at found
  split_ifs at found with second first
  · cases found
    rw [second]
    exact ⟨[97], 1, by decide, .inr ⟨rfl, rfl⟩, rfl⟩
  · cases found
    rw [first]
    exact ⟨[98], 0, by decide, .inl ⟨rfl, rfl⟩, rfl⟩
  · cases found

theorem mem_linked (mesh : Mesh Nat) (p2pID : P2pID) :
    p2pID ∈ linked mesh ↔ p2pID ∈ ([[97], [98]] : List P2pID) := by
  unfold linked
  rw [AList.mem_insert, AList.mem_insert]
  simp only [List.mem_cons, List.not_mem_nil, or_false]
  constructor
  · rintro (second | first | none)
    · exact .inr second
    · exact .inl first
    · exact absurd none (AList.notMem_empty p2pID)
  · rintro (first | second)
    · exact .inr (.inl first)
    · exact .inl second

theorem linked_meshed (mesh : Mesh Nat) : (linked mesh).Meshed lists := by
  constructor
  · intro p2pID service found
    obtain ⟨peer, front, _, _, rfl⟩ := linked_cases found
    rfl
  · intro p2pID service found
    obtain ⟨peer, front, _, _, rfl⟩ := linked_cases found
    exact Network.gateway_named p2pID peer front [] []
  · intro p2pID service found peer member other
    obtain ⟨known, front, apart, ends, rfl⟩ := linked_cases found
    have same : peer = known := by
      rcases List.mem_cons.mp ((mem_linked mesh peer).mp member) with first | second
      · rcases ends with ⟨rfl, rfl⟩ | ⟨rfl, rfl⟩
        · exact absurd first other
        · exact first
      · have second := List.mem_singleton.mp second
        rcases ends with ⟨rfl, rfl⟩ | ⟨rfl, rfl⟩
        · exact second
        · exact absurd second other
    rw [same]
    have session := Network.gateway_linked apart front [] []
    exact ⟨session.foreign, session.connected, session.active⟩
  · intro p2pID service found type handled
    obtain ⟨peer, front, _, _, rfl⟩ := linked_cases found
    cases handled

theorem served_broadcasts :
    ∃ events last, Round lists [[97], [98]] served events last ∧ (linked last).InSync ∧
      ((linked last).received lists [103] [0] [7] [97] [49] = 1 ↔
        Network.ReachedOnce lists (linked last) [103] [0] [97] [49]) := by
  have initial : strangers.Initial :=
    ⟨fun _ => rfl, fun _ _ => rfl, fun _ _ _ _ holds => (by cases holds), fun _ => rfl,
      fun _ => rfl, rfl, fun _ => rfl⟩
  have registers : step lists strangers (.operate [98] (.registerFrontService [103] [49] 0)) =
      some served := rfl
  have rounds := round_broadcasts lists [[97], [98]] strangers
    [.operate [98] (.registerFrontService [103] [49] 0)] initial
    (.cons _ trivial registers trivial)
    (fun event member => List.mem_singleton.mp member ▸ trivial)
    ((Transition.run_cons _).mpr ⟨_, registers, rfl⟩)
  have readable : ∀ p2pID, NodeListSync.Readable lists.json (served.gateways p2pID) := by
    intro p2pID
    by_cases here : p2pID = [98]
    · rw [here]
      exact ⟨by decide, rfl⟩
    · have kept : served.gateways p2pID = strangers.gateways p2pID :=
        Function.update_of_ne here _ _
      rw [kept]
      have other : NodeListSync.Readable lists.json (strangers.gateways []) := ⟨by decide, rfl⟩
      have same : (strangers.gateways p2pID).statusSeq = (strangers.gateways []).statusSeq := rfl
      exact readable_congr same rfl other
  obtain ⟨events, last, round⟩ := rounds.1 readable (by decide) (by decide)
  obtain ⟨inSync, broadcasts⟩ :=
    rounds.2 events last (linked last) round ⟨mem_linked last, fun p2pID service found => by
      obtain ⟨peer, front, _, _, rfl⟩ := linked_cases found
      rfl⟩
  exact ⟨events, last, round, inSync, broadcasts (fun _ => rfl) (linked_meshed last) [103] [0] [7]
    (by decide) [97] ((mem_linked last [97]).mpr List.mem_cons_self) [49]⟩

end BcosGateway.Mesh

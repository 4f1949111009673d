import BcosGateway.Lib.UnderWay
import BcosGateway.Service.NodeListMesh

/-! Once everything that a heartbeat leads to has been read, in whatever order, the receiver has the
nodes of the sender. -/

namespace BcosGateway.Mesh

variable {φ Key : Type} (env : Environment Key)

def Stored (mesh : Mesh φ) (a b : P2pID) : Prop :=
  (mesh.gateways a).p2pID2Seq.lookup b = some (mesh.gateways b).statusSeq

def Agrees (mesh : Mesh φ) (a b : P2pID) : Prop :=
  ∀ groupID nodeID, (mesh.gateways a).peerGatewayNodes.Holds groupID nodeID b ↔
    (mesh.gateways b).Registered groupID nodeID

def Recent (oldest : Nat) (a b : P2pID) (mesh : Mesh φ) : Event φ → Prop
  | .receive flight => ∀ message, mesh.wire[flight]? = some (b, a, message) → oldest ≤ flight
  | .onDisconnect p2pID peer => ¬ (p2pID = a ∧ peer = b)
  | _ => True

/-- What a heartbeat of B leads to: itself, the request of A and the list. -/
def Awaited (a b : P2pID) (flight : P2pID × P2pID × P2PMessage) : Prop :=
  (flight.1 = b ∧ flight.2.1 = a ∧
    (flight.2.2.packetType = env.fw.messageType.heartbeat ∨
      flight.2.2.packetType = env.fw.messageType.responseNodeIDs)) ∨
  (flight.1 = a ∧ flight.2.1 = b ∧ flight.2.2.packetType = env.fw.messageType.requestNodeIDs)

def UpToDate (statusSeq : UInt32) (message : P2PMessage) : Prop :=
  (message.packetType = env.fw.messageType.heartbeat → message = beat env statusSeq) ∧
  (message.packetType = env.fw.messageType.responseNodeIDs → ∃ received,
    GatewayNodeManager.parseReceivedJson env.json message.payload = some (statusSeq, received))

structure Hears (start : Mesh φ) (a b : P2pID) (mesh : Mesh φ) : Prop where
  sound : mesh.Sound env
  counted : start.changes b ≤ mesh.changes b
  upToDate : mesh.changes b = start.changes b → ∀ place message, start.wire.length ≤ place →
    mesh.wire[place]? = some (b, a, message) → UpToDate env (mesh.gateways b).statusSeq message

def Event.reads : Event φ → Option Nat
  | .receive place => some place
  | _ => none

variable {env} [DecidableEq φ] {start mesh next : Mesh φ} {a b : P2pID}

section Effects

omit [DecidableEq φ] in
theorem setGateway_changes {p2pID : P2pID} {manager : GatewayNodeManager φ}
    {update : Option (Update φ)} (b : P2pID) :
    mesh.changes b ≤ (mesh.setGateway p2pID manager update).changes b ∧
      ((mesh.setGateway p2pID manager update).changes b = mesh.changes b →
        ((mesh.setGateway p2pID manager update).gateways b).statusSeq =
          (mesh.gateways b).statusSeq) := by
  unfold setGateway
  by_cases here : b = p2pID
  · subst here
    simp only [Function.update_self]
    split
    · rename_i same
      exact ⟨Nat.le_refl _, fun _ => same⟩
    · exact ⟨Nat.le_succ _, fun counted => by omega⟩
  · simp [Function.update_of_ne here]

/-- A gateway whose number changes has counted it. -/
theorem step_changes {event : Event φ} (taken : step env mesh event = some next) (b : P2pID) :
    mesh.changes b ≤ next.changes b ∧ (next.changes b = mesh.changes b →
      (next.gateways b).statusSeq = (mesh.gateways b).statusSeq) := by
  cases step_moves taken with
  | operates p2pID operation manager update operates => exact setGateway_changes b
  | heartBeat sender receiver => exact ⟨Nat.le_refl _, fun _ => rfl⟩
  | sends sender receiver message => exact ⟨Nat.le_refl _, fun _ => rfl⟩
  | receives flight sender me message manager actions arrives ran =>
    have own := (NodeListSync.dispatch_apart ran).1
    exact ⟨Nat.le_refl _, fun _ => (sameOwn_update own b).2.1⟩
  | onDisconnect p2pID peer =>
    have kept : NodeListSync.SameOwn (mesh.gateways p2pID)
        ((mesh.gateways p2pID).onRemoveNodeIDs peer) := ⟨rfl, rfl, rfl⟩
    exact ⟨Nat.le_refl _, fun _ => (sameOwn_update kept b).2.1⟩

/-- The messages that a dispatch sends are requests and the list of the gateway. -/
theorem sent_upToDate (sound : mesh.Sound env) {me sender : P2pID} {message response : P2PMessage}
    (readable : NodeListSync.Readable env.json (mesh.gateways me))
    {manager : GatewayNodeManager φ} {actions : List (Action φ Key)}
    (ran : Service.dispatch env (NodeListSync.msgHandlers env) (mesh.gateways me) sender message =
      .ok (manager, actions))
    (sent : response ∈ actions.filterMap NodeListSync.sent) :
    UpToDate env (mesh.gateways me).statusSeq response := by
  refine ⟨fun type => ?_, fun type => ?_⟩
  · -- no heartbeat is among them
    have distinct := env.fw.messageType.distinct
    obtain ⟨action, performed, wired⟩ := List.mem_filterMap.mp sent
    rcases Service.dispatch_cases env ran with ⟨_, sends⟩ | ⟨_, _, _, none⟩
    · cases action with
      | sendMessageBySession packetType payload =>
        cases wired
        rcases sends packetType payload performed with request | ⟨list, _⟩
        · have apart : env.fw.messageType.requestNodeIDs ≠ env.fw.messageType.heartbeat := by grind
          exact absurd (request.symm.trans type) apart
        · exact absurd (type.symm.trans list) NodeListSync.responseNodeIDs_ne_heartbeat.1
      | handler => cases wired
      | sendRespMessageBySession => cases wired
      | onReceiveMessage => cases wired
    · rw [none] at performed
      cases performed
  · have dispatched : Service.dispatch env (NodeListSync.msgHandlers env) (mesh.pair sender me).b
        (mesh.pair sender me).a.p2pNodeID message = .ok (manager, actions) := by
      unfold pair
      rw [sound.named sender]
      exact ran
    exact NodeListSync.sent_list readable.read dispatched sent type

/-- The wire only grows, by messages that carry the numbers of their senders. -/
theorem step_wire (sound : mesh.Sound env) {event : Event φ} (proper : Proper env mesh event)
    (taken : step env mesh event = some next) :
    ∃ more, next.wire = mesh.wire ++ more ∧ ∀ flight ∈ more,
      UpToDate env (mesh.gateways flight.1).statusSeq flight.2.2 := by
  cases step_moves taken with
  | operates p2pID operation manager update operates =>
    exact ⟨[], (List.append_nil _).symm, fun _ none => (by cases none)⟩
  | heartBeat sender receiver =>
    refine ⟨_, rfl, fun flight member => ?_⟩
    rw [List.mem_singleton.mp member]
    exact ⟨fun _ => rfl,
      fun type => absurd type NodeListSync.responseNodeIDs_ne_heartbeat.1⟩
  | sends sender receiver message =>
    refine ⟨_, rfl, fun flight member => ?_⟩
    rw [List.mem_singleton.mp member]
    exact ⟨fun type => absurd type proper.1, fun type => absurd type proper.2⟩
  | receives place sender me message manager actions arrives ran =>
    refine ⟨_, rfl, fun flight member => ?_⟩
    obtain ⟨response, sent, rfl⟩ := List.mem_map.mp member
    exact sent_upToDate sound (proper sender me message arrives) ran sent
  | onDisconnect p2pID peer =>
    exact ⟨[], (List.append_nil _).symm, fun _ none => (by cases none)⟩

end Effects

section Reads

/-- What A has stored stays the number of B, as long as what it reads of B carries that number. -/
theorem Stored.step (stored : mesh.Stored a b) {oldest : Nat}
    (upToDate : ∀ place message, oldest ≤ place → mesh.wire[place]? = some (b, a, message) →
      UpToDate env (mesh.gateways b).statusSeq message)
    {event : Event φ} (recent : Recent oldest a b mesh event)
    (taken : Mesh.step env mesh event = some next) (same : next.changes b = mesh.changes b) :
    next.Stored a b := by
  have number := (step_changes taken b).2 same
  unfold Stored at stored ⊢
  rw [number]
  cases step_moves taken with
  | operates p2pID operation manager update operates =>
    have view : NodeListSync.SameView (mesh.gateways p2pID) manager b := by
      unfold NodeListSync.SameView
      rw [operates.p2pID2Seq, operates.peerGatewayNodes]
      exact ⟨rfl, fun _ _ => Iff.rfl⟩
    exact (sameView_update view a).1.trans stored
  | heartBeat sender receiver => exact stored
  | sends sender receiver message => exact stored
  | receives place sender me message manager actions arrives ran =>
    obtain ⟨own, others⟩ := NodeListSync.dispatch_apart ran
    by_cases reads : me = a ∧ sender = b
    · obtain ⟨rfl, rfl⟩ := reads
      have mine : Function.update mesh.gateways me manager me = manager :=
        Function.update_self _ _ _
      show (Function.update mesh.gateways me manager me).p2pID2Seq.lookup sender = _
      rw [mine]
      rcases Service.dispatch_cases env ran with ⟨rfl, _⟩ | ⟨_, type, rfl, _⟩
      · exact stored
      · obtain ⟨received, parsed⟩ := (upToDate place message (recent message arrives) arrives).2 type
        unfold GatewayNodeManager.onReceiveNodeIDs
        rw [parsed]
        exact GatewayNodeManager.lookup_updateNodeIDs _ _ _ _
    · exact (sameView_apart others reads).1.trans stored
  | onDisconnect p2pID peer =>
    exact (sameView_apart (fun _ => sameView_onRemoveNodeIDs (mesh.gateways p2pID)) recent).1.trans
      stored

/-- A message that is awaited brings the number of B, or leads to the next one. -/
theorem reads_awaited {sender me : P2pID} {message : P2PMessage}
    (awaited : Awaited env a b (sender, me, message))
    (upToDate : sender = b → me = a → UpToDate env (mesh.gateways b).statusSeq message)
    (readable : NodeListSync.Readable env.json (mesh.gateways me))
    {manager : GatewayNodeManager φ} {actions : List (Action φ Key)}
    (ran : Service.dispatch env (NodeListSync.msgHandlers env) (mesh.gateways me) sender message =
      .ok (manager, actions)) :
    (me = a ∧ manager.p2pID2Seq.lookup b = some (mesh.gateways b).statusSeq) ∨
      ∃ response, actions.filterMap NodeListSync.sent = [response] ∧
        Awaited env a b (me, sender, response) := by
  rcases awaited with ⟨rfl, rfl, heartbeat | list⟩ | ⟨rfl, rfl, request⟩
  · -- A has the number, or asks for the nodes
    rw [(upToDate rfl rfl).1 heartbeat] at ran
    have read := NodeListSync.dispatch_beat env (mesh.gateways me) sender
      (mesh.gateways sender).statusSeq
    cases changed : (mesh.gateways me).onReceiveStatusSeq sender
        (mesh.gateways sender).statusSeq with
    | false =>
      rw [changed] at read
      cases read.symm.trans ran
      exact .inl ⟨rfl, NodeListSync.stored_of_unchanged changed⟩
    | true =>
      rw [changed] at read
      cases read.symm.trans ran
      exact .inr ⟨_, rfl, .inr ⟨rfl, rfl, rfl⟩⟩
  · obtain ⟨received, parsed⟩ := (upToDate rfl rfl).2 list
    rw [Service.dispatch_responseNodeIDs env
      (NodeListSync.unhandled_of_ne_amop (list ▸ NodeListSync.amop_distinct.2.2)) list] at ran
    cases ran
    left
    refine ⟨rfl, ?_⟩
    unfold GatewayNodeManager.onReceiveNodeIDs
    rw [parsed]
    exact GatewayNodeManager.lookup_updateNodeIDs _ _ _ _
  · -- B answers with its list
    rw [Service.dispatch_requestNodeIDs env
      (NodeListSync.unhandled_of_ne_amop (request ▸ NodeListSync.amop_distinct.2.1)) request,
      if_neg (mt List.isEmpty_iff.mp readable.written)] at ran
    cases ran
    exact .inr ⟨_, rfl, .inl ⟨rfl, rfl, .inr rfl⟩⟩

end Reads

section Rounds

abbrev Hearing (env : Environment Key) (start : Mesh φ) (a b : P2pID) (mesh : Mesh φ)
    (event : Event φ) : Prop :=
  Proper env mesh event ∧ Recent start.wire.length a b mesh event

omit [DecidableEq φ] in
theorem hears_start (sound : start.Sound env) : Hears env start a b start := by
  refine ⟨sound, Nat.le_refl _, fun _ place message since arrives => ?_⟩
  exact absurd (List.getElem?_eq_some_iff.mp arrives).1 (Nat.not_lt.mpr since)

theorem Hears.step (hears : Hears env start a b mesh) {event : Event φ}
    (proper : Proper env mesh event) (taken : Mesh.step env mesh event = some next) :
    Hears env start a b next := by
  obtain ⟨monotone, number⟩ := step_changes taken b
  obtain ⟨more, wired, news⟩ := step_wire hears.sound proper taken
  refine ⟨hears.sound.step proper taken, hears.counted.trans monotone,
    fun same place message since arrives => ?_⟩
  have before := hears.counted
  have still : next.changes b = mesh.changes b := by omega
  rw [number still]
  by_cases old : place < mesh.wire.length
  · rw [wired, List.getElem?_append_left old] at arrives
    exact hears.upToDate (still.symm.trans same) place message since arrives
  · rw [wired, List.getElem?_append_right (Nat.not_lt.mp old)] at arrives
    exact news _ (List.mem_of_getElem? arrives)

theorem receive_within {event : Event φ} (taken : step env mesh event = some next) (place : Nat)
    (reads : event.reads = some place) : place < mesh.wire.length := by
  cases event with
  | receive flight =>
    cases reads
    simp only [step] at taken
    split at taken
    · cases taken
    · rename_i arrives
      exact (List.getElem?_eq_some_iff.mp arrives).1
  | operate => cases reads
  | heartBeat => cases reads
  | send => cases reads
  | onDisconnect => cases reads

/-- The number of B reaches A by the messages that are awaited. -/
theorem leads (env : Environment Key) (start : Mesh φ) (a b : P2pID) :
    UnderWay.Leads (step env) wire Event.reads (Hears env start a b) (Hearing env start a b)
      (Awaited env a b) (fun mesh => mesh.changes b = start.changes b → mesh.Stored a b) where
  keeps _ _ _ hears hearing taken := hears.step hearing.1 taken
  within _ _ _ taken := receive_within taken
  grows _ _ _ hears hearing taken := by
    obtain ⟨more, wired, _⟩ := step_wire hears.sound hearing.1 taken
    exact ⟨more, wired⟩
  reached mesh event next hears hearing taken stored same := by
    have before := hears.counted
    have after := (step_changes taken b).1
    have still : mesh.changes b = start.changes b := by omega
    exact (stored still).step (hears.upToDate still) hearing.2 taken (same.trans still.symm)
  leads mesh event next hears hearing taken place flight reads arrives awaited := by
    have before := hears.counted
    obtain ⟨after, number⟩ := step_changes taken b
    by_cases same : next.changes b = start.changes b
    swap
    · exact .inl fun this => absurd this same
    have still : mesh.changes b = start.changes b := by omega
    have kept := number (same.trans still.symm)
    cases step_moves taken with
    | receives read sender me message manager actions found ran =>
      cases reads
      cases found.symm.trans arrives
      have carried : sender = b → me = a → UpToDate env (mesh.gateways b).statusSeq message := by
        rintro rfl rfl
        exact hears.upToDate still place message (hearing.2 message found) found
      rcases reads_awaited awaited carried (hearing.1 sender me message found) ran with
        ⟨rfl, lookup⟩ | ⟨response, sent, follows⟩
      · left
        intro _
        have mine : Function.update mesh.gateways me manager me = manager :=
          Function.update_self _ _ _
        unfold Stored
        rw [kept]
        show (Function.update mesh.gateways me manager me).p2pID2Seq.lookup b = _
        rw [mine]
        exact lookup
      · refine .inr ⟨mesh.wire.length, (me, sender, response), Nat.le_refl _, ?_, follows⟩
        unfold put
        rw [sent]
        exact List.getElem?_concat_length
    | operates => cases reads
    | heartBeat => cases reads
    | sends => cases reads
    | onDisconnect => cases reads

omit [DecidableEq φ] in
theorem Sound.agrees (sound : mesh.Sound env) (apart : a ≠ b) (few : mesh.changes b < 2 ^ 32)
    (idle : mesh.updates b = none) (stored : mesh.Stored a b) : mesh.Agrees a b := by
  have settled : NodeListSync.uncounted (mesh.pair a b).update = false := by
    unfold pair
    rw [idle]
    rfl
  have agrees : (mesh.pair a b).Agrees := by
    apply (sound.paired a b apart).agrees few settled
    unfold pair
    rw [sound.named b]
    exact stored
  unfold NodeListSync.Agrees pair at agrees
  rw [sound.named b] at agrees
  exact agrees

structure Handled (env : Environment Key) (oldest : Nat) (a b : P2pID) (events : List (Event φ))
    (last : Mesh φ) : Prop where
  beaten : .heartBeat b a ∈ events
  read : ∀ place flight, oldest ≤ place → last.wire[place]? = some flight →
    Awaited env a b flight → .receive place ∈ events

theorem Handled.stored {events : List (Event φ)} {last : Mesh φ} (sound : start.Sound env)
    (recent : Transition.Meets (step env) (Hearing env start a b) start events)
    (ran : Transition.run (step env) start events = some last)
    (handled : Handled env start.wire.length a b events last)
    (unchanged : last.changes b = start.changes b) : last.Stored a b := by
  have beats : ∀ mesh next : Mesh φ, step env mesh (.heartBeat b a) = some next →
      UnderWay.Sent wire (Awaited env a b) mesh next := by
    intro mesh next taken
    cases taken
    exact ⟨mesh.wire.length, _, Nat.le_refl _, List.getElem?_concat_length,
      .inl ⟨rfl, rfl, .inl rfl⟩⟩
  exact (leads env start a b).reaches (hears_start sound) recent ran handled.beaten beats
    (fun place flight since found awaited =>
      ⟨_, handled.read place flight since found awaited, rfl⟩) unchanged

variable (env)

/-- Whatever the gateways of a network do while A keeps its session with B and reads nothing older of
    it: once what the heartbeats of B lead to has been read, in whatever order and however often, B
    has counted no change and is in the middle of no update, A has the nodes of B and does not ask
    again. Under the same conditions it keeps them. -/
theorem settled_agrees (fresh : Mesh φ) (before events : List (Event φ)) {last : Mesh φ}
    (initial : fresh.Initial) (proper : Transition.Meets (step env) (Proper env) fresh before)
    (reached : Transition.run (step env) fresh before = some start) (apart : a ≠ b)
    (recent : Transition.Meets (step env) (Hearing env start a b) start events)
    (ran : Transition.run (step env) start events = some last)
    (handled : Handled env start.wire.length a b events last)
    (unchanged : last.changes b = start.changes b) (few : last.changes b < 2 ^ 32)
    (idle : last.updates b = none) :
    last.Agrees a b ∧
      (last.gateways a).onReceiveStatusSeq b (last.gateways b).statusSeq = false ∧
      ∀ more later, Transition.Meets (step env) (Hearing env start a b) last more →
        Transition.run (step env) last more = some later → later.changes b = last.changes b →
          later.updates b = none → later.Agrees a b ∧
            (later.gateways a).onReceiveStatusSeq b (later.gateways b).statusSeq = false := by
  have sound : start.Sound env := Transition.invariant_of_meets (step env)
    (fun _ _ _ held met taken => Sound.step held met taken) initial.sound proper reached
  have keeps : ∀ mesh event next, Hears env start a b mesh → Hearing env start a b mesh event →
      step env mesh event = some next → Hears env start a b next :=
    fun _ _ _ hears hearing taken => hears.step hearing.1 taken
  have hears : Hears env start a b last :=
    Transition.invariant_of_meets (step env) keeps (hears_start sound) recent ran
  have stored : last.Stored a b := handled.stored sound recent ran unchanged
  refine ⟨hears.sound.agrees apart few idle stored, NodeListSync.unchanged_of_stored stored,
    fun more later meets rest same settled => ?_⟩
  have hearsLater : Hears env start a b later :=
    Transition.invariant_of_meets (step env) keeps hears meets rest
  have kept : later.Stored a b :=
    (leads env start a b).run hears meets rest (fun _ => stored) (same.trans unchanged)
  exact ⟨hearsLater.sound.agrees apart (same ▸ few) settled kept,
    NodeListSync.unchanged_of_stored kept⟩

end Rounds

def strangers : Mesh Nat where
  gateways p2pID := { p2pNodeID := p2pID }

def lists : Environment Bytes :=
  { Environment.reading .null with
    json := .readingAny [GatewayNodeManager.nodeListDocument 1 ∅,
      GatewayNodeManager.nodeListDocument NodeListSync.oneNode.statusSeq
        NodeListSync.oneNode.localGroup2NodeIDs] }

def served : Mesh Nat := strangers.setGateway [98] NodeListSync.oneNode none

def readsAll : List (Event Nat) := [.heartBeat [98] [97], .receive 0, .receive 1, .receive 2]

theorem served_agrees :
    ∃ events last, Transition.run (step lists) served events = some last ∧
      last.Agrees [97] [98] := by
  have initial : strangers.Initial :=
    ⟨fun _ => rfl, fun _ _ => rfl, fun _ _ _ _ holds => (by cases holds), fun _ => rfl,
      fun _ => rfl, rfl, fun _ => rfl⟩
  have registers : step lists strangers (.operate [98] (.registerFrontService [103] [49] 0)) =
      some served := rfl
  have readableA : NodeListSync.Readable lists.json (served.gateways [97]) := ⟨by decide, rfl⟩
  have readableB : NodeListSync.Readable lists.json (served.gateways [98]) := ⟨by decide, rfl⟩
  obtain ⟨last, ran⟩ : ∃ last, Transition.run (step lists) served readsAll = some last := ⟨_, rfl⟩
  have recent : Transition.Meets (step lists) (Hearing lists served [97] [98]) served readsAll :=
    ⟨⟨trivial, trivial⟩,
      ⟨fun _ _ _ found => by cases found; exact readableA, fun _ _ => Nat.zero_le _⟩,
      ⟨fun _ _ _ found => by cases found; exact readableB, fun _ _ => Nat.zero_le _⟩,
      ⟨fun _ _ _ found => by cases found; exact readableA, fun _ _ => Nat.zero_le _⟩, trivial⟩
  have handled : Handled lists served.wire.length [97] [98] readsAll last := by
    refine ⟨List.mem_cons_self, fun place flight _ found _ => ?_⟩
    have size : last.wire.length = 3 := by
      cases ran
      rfl
    have inside := (List.getElem?_eq_some_iff.mp found).1
    have places : place = 0 ∨ place = 1 ∨ place = 2 := by omega
    rcases places with rfl | rfl | rfl <;> simp [readsAll]
  have agrees := settled_agrees lists strangers
    [.operate [98] (.registerFrontService [103] [49] 0)] readsAll initial
    (.cons _ trivial registers trivial) ((Transition.run_cons _).mpr ⟨_, registers, rfl⟩)
    (by decide) recent ran handled
    (by
      cases ran
      rfl)
    (by
      cases ran
      decide)
    (by
      cases ran
      rfl)
  exact ⟨readsAll, last, ran, agrees.1⟩

end BcosGateway.Mesh

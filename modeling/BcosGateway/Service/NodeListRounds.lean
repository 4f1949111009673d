import BcosGateway.Service.NodeListSync
import BcosGateway.P2PMessage.DecodeWire

/-! A heartbeat with the messages that it leads to. After it A has the nodes of B, and keeps them
while it hears nothing older. -/

namespace BcosGateway.NodeListSync

variable {φ Key : Type} {world next : NodeListSync φ}

def beat (world : NodeListSync φ) : List (Event φ) :=
  [.heartBeat, .receiveAtA world.toA.length] ++
    if world.a.onReceiveStatusSeq world.b.p2pNodeID world.b.statusSeq then
      [.receiveAtB world.toB.length, .receiveAtA (world.toA.length + 1)]
    else []

def Agrees (world : NodeListSync φ) : Prop :=
  ∀ groupID nodeID, world.a.peerGatewayNodes.Holds groupID nodeID world.b.p2pNodeID ↔
    world.b.Registered groupID nodeID

def Recent (oldest : Nat) (_ : NodeListSync φ) : Event φ → Prop
  | .receiveAtA message => oldest ≤ message
  | .onDisconnect => False
  | _ => True

structure Readable (json : JsonCpp) (manager : GatewayNodeManager φ) : Prop where
  written : manager.onRequestNodeIDs json ≠ []
  read : json.parse (manager.onRequestNodeIDs json) =
    some (GatewayNodeManager.nodeListDocument manager.statusSeq manager.localGroup2NodeIDs)

variable {env : Environment Key}

theorem Sound.agrees (sound : world.Sound env) (few : world.changes < 2 ^ 32)
    (settled : uncounted world.update = false)
    (stored : world.a.p2pID2Seq.lookup world.b.p2pNodeID = some world.b.statusSeq) :
    world.Agrees := by
  have copy := (sound.stored world.b.statusSeq stored).current
    (fun _ bound same => statusSeqAfter_inj bound few same) sound.counted settled
  intro groupID nodeID
  exact iff_of_eq (congrFun (congrFun copy groupID) nodeID)

theorem unhandled_of_ne_amop {type : UInt16} (other : type ≠ env.fw.messageType.amopMessageType) :
    type ∉ msgHandlers env := by
  unfold msgHandlers
  rw [AList.mem_insert]
  rintro (same | none)
  · exact other same
  · exact AList.notMem_empty type none

theorem amop_distinct :
    env.fw.messageType.heartbeat ≠ env.fw.messageType.amopMessageType ∧
      env.fw.messageType.requestNodeIDs ≠ env.fw.messageType.amopMessageType ∧
      env.fw.messageType.responseNodeIDs ≠ env.fw.messageType.amopMessageType := by
  have distinct := env.fw.messageType.distinct
  grind

section Dispatch

variable (env) [DecidableEq φ] (manager : GatewayNodeManager φ) (p2pID : P2pID)

theorem dispatch_beat (statusSeq : UInt32) :
    Service.dispatch env (msgHandlers env) manager p2pID
        { packetType := env.fw.messageType.heartbeat
          payload := BigEndian.encode 4 statusSeq.toNat } =
      .ok (manager, if manager.onReceiveStatusSeq p2pID statusSeq then
        [.sendMessageBySession env.fw.messageType.requestNodeIDs []] else []) := by
  have bound : statusSeq.toNat < 256 ^ 4 := statusSeq.toNat_lt
  have read : readNumber (BigEndian.encode 4 statusSeq.toNat) 0 4 = .ok statusSeq.toNat := by
    rw [readNumber_fits (by rw [BigEndian.encode_length])]
    unfold Wire.field
    rw [← List.append_nil (BigEndian.encode 4 statusSeq.toNat),
      Slice.slice_front (BigEndian.encode_length 4 _), BigEndian.number_encode bound]
  rw [Service.dispatch_heartbeat env (unhandled_of_ne_amop amop_distinct.1) rfl, read]
  simp only [bind, Except.bind, UInt32.ofNat_toNat]
  split <;> rfl

theorem dispatch_request (written : manager.onRequestNodeIDs env.json ≠ []) :
    Service.dispatch env (msgHandlers env) manager p2pID
        { packetType := env.fw.messageType.requestNodeIDs, payload := [] } =
      .ok (manager, [.sendMessageBySession env.fw.messageType.responseNodeIDs
        (manager.onRequestNodeIDs env.json)]) := by
  rw [Service.dispatch_requestNodeIDs env (unhandled_of_ne_amop amop_distinct.2.1) rfl,
    if_neg (mt List.isEmpty_iff.mp written)]

theorem dispatch_list {payload : Bytes} {statusSeq : UInt32} {nodeIDsMap : NodeIDsMap}
    (parsed : GatewayNodeManager.parseReceivedJson env.json payload = some (statusSeq, nodeIDsMap)) :
    Service.dispatch env (msgHandlers env) manager p2pID
        { packetType := env.fw.messageType.responseNodeIDs, payload } =
      .ok (manager.updateNodeIDs p2pID statusSeq nodeIDsMap, []) := by
  rw [Service.dispatch_responseNodeIDs env (unhandled_of_ne_amop amop_distinct.2.2) rfl]
  unfold GatewayNodeManager.onReceiveNodeIDs
  rw [parsed]

end Dispatch

section Steps

variable [DecidableEq φ]

inductive Moves (env : Environment Key) (world : NodeListSync φ) : Event φ → NodeListSync φ → Prop
  | operates (event : Event φ) (b : GatewayNodeManager φ) (update : Option (Update φ))
      (counts : Counts world.b b world.update update) : Moves env world event (world.setB b update)
  | heartBeat : Moves env world .heartBeat { world with
      toA := world.toA ++
        [{ packetType := env.fw.messageType.heartbeat
           payload := BigEndian.encode 4 world.b.statusSeq.toNat }] }
  | receivesAtA (index : Nat) (message : P2PMessage) (a : GatewayNodeManager φ)
      (actions : List (Action φ Key)) (arrives : world.toA[index]? = some message)
      (ran : Service.dispatch env (msgHandlers env) world.a world.b.p2pNodeID message =
        .ok (a, actions)) :
      Moves env world (.receiveAtA index)
        { world with a, toB := world.toB ++ actions.filterMap sent }
  | receivesAtB (index : Nat) (message : P2PMessage) (b : GatewayNodeManager φ)
      (actions : List (Action φ Key)) (arrives : world.toB[index]? = some message)
      (ran : Service.dispatch env (msgHandlers env) world.b world.a.p2pNodeID message =
        .ok (b, actions)) :
      Moves env world (.receiveAtB index)
        { world with b, toA := world.toA ++ actions.filterMap sent }
  | onDisconnect : Moves env world .onDisconnect
      { world with a := world.a.onRemoveNodeIDs world.b.p2pNodeID }

theorem step_moves {event : Event φ} (taken : step env world event = some next) :
    Moves env world event next := by
  cases event with
  | registerFrontService groupID nodeID frontService =>
    simp only [step] at taken
    split at taken
    · cases taken
    · rename_i idle
      cases taken
      refine .operates _ _ _ ?_
      rw [Option.not_isSome_iff_eq_none.mp idle]
      exact registerFrontService_counts world.b groupID nodeID frontService
  | unregisterFrontService groupID nodeID =>
    simp only [step] at taken
    split at taken
    · cases taken
    · rename_i idle
      cases taken
      refine .operates _ _ _ ?_
      rw [Option.not_isSome_iff_eq_none.mp idle]
      exact unregisterFrontService_counts world.b groupID nodeID
  | beginSweep =>
    simp only [step] at taken
    split at taken
    · cases taken
    · rename_i idle
      cases taken
      refine .operates _ _ _ ?_
      rw [Option.not_isSome_iff_eq_none.mp idle]
      exact ⟨rfl, .inr ⟨rfl, fun _ => ⟨rfl, rfl⟩⟩⟩
  | beginGroupInfo groupID nodeInfos =>
    simp only [step] at taken
    split at taken
    · cases taken
    · rename_i idle
      cases taken
      refine .operates _ _ _ ?_
      rw [Option.not_isSome_iff_eq_none.mp idle]
      exact ⟨rfl, .inr ⟨rfl, fun _ => ⟨rfl, rfl⟩⟩⟩
  | updateFrontServiceInfo noEndpoints =>
    simp only [step] at taken
    cases holding : world.update with
    | none =>
      rw [holding] at taken
      cases taken
    | some update =>
      rw [holding] at taken
      cases taken
      refine .operates _ _ _ ?_
      rw [holding]
      exact updateFrontServiceInfo_counts world.b noEndpoints update
  | heartBeat =>
    cases taken
    exact .heartBeat
  | receiveAtA index =>
    simp only [step] at taken
    split at taken
    · cases taken
    rename_i message arrives
    split at taken
    · cases taken
    rename_i a actions ran
    cases taken
    exact .receivesAtA index message a actions arrives ran
  | receiveAtB index =>
    simp only [step] at taken
    split at taken
    · cases taken
    rename_i message arrives
    split at taken
    · cases taken
    rename_i b actions ran
    cases taken
    exact .receivesAtB index message b actions arrives ran
  | onDisconnect =>
    cases taken
    exact .onDisconnect

/-- The invariant of what follows a heartbeat. Until B counts a further change, every list that
    was sent since the `oldest` message and the one that A has stored carry the number of B. -/
structure Fresh (env : Environment Key) (oldest changes : Nat) (world : NodeListSync φ) : Prop where
  counted : changes ≤ world.changes
  lists : world.changes = changes → ∀ message ∈ world.toA.drop oldest,
    message.packetType = env.fw.messageType.responseNodeIDs → ∃ received,
      GatewayNodeManager.parseReceivedJson env.json message.payload =
        some (world.b.statusSeq, received)
  stored : world.changes = changes →
    world.a.p2pID2Seq.lookup world.b.p2pNodeID = some world.b.statusSeq

variable {oldest changes : Nat}

omit [DecidableEq φ] in
theorem Fresh.operates (fresh : Fresh env oldest changes world) {b : GatewayNodeManager φ}
    {update : Option (Update φ)} (counts : Counts world.b b world.update update) :
    Fresh env oldest changes (world.setB b update) := by
  unfold NodeListSync.setB
  by_cases same : b.statusSeq = world.b.statusSeq
  · simp only [same, if_true]
    refine ⟨fresh.counted, ?_, fun current => ?_⟩
    · simp only [same]
      exact fresh.lists
    · show world.a.p2pID2Seq.lookup b.p2pNodeID = some b.statusSeq
      rw [counts.p2pNodeID, same]
      exact fresh.stored current
  · simp only [same, if_false]
    -- B has counted a change
    have past : world.changes + 1 ≠ changes := by
      have counted := fresh.counted
      omega
    exact ⟨Nat.le_succ_of_le fresh.counted, fun current => absurd current past,
      fun current => absurd current past⟩

theorem Fresh.receivesAtA (fresh : Fresh env oldest changes world) {index : Nat}
    (recent : oldest ≤ index) {message : P2PMessage} (arrives : world.toA[index]? = some message)
    {a : GatewayNodeManager φ} {actions : List (Action φ Key)}
    (ran : Service.dispatch env (msgHandlers env) world.a world.b.p2pNodeID message =
      .ok (a, actions)) (toB : List P2PMessage) :
    Fresh env oldest changes { world with a, toB } := by
  rcases Service.dispatch_cases env ran with ⟨rfl, _⟩ | ⟨_, type, rfl, _⟩
  · exact ⟨fresh.counted, fresh.lists, fresh.stored⟩
  refine ⟨fresh.counted, fresh.lists, fun current => ?_⟩
  have sent : message ∈ world.toA.drop oldest := by
    have place : (world.toA.drop oldest)[index - oldest]? = some message := by
      rw [List.getElem?_drop, Nat.add_sub_cancel' recent]
      exact arrives
    exact List.mem_of_getElem? place
  obtain ⟨received, parsed⟩ := fresh.lists current message sent type
  simp only [GatewayNodeManager.onReceiveNodeIDs, parsed]
  exact GatewayNodeManager.lookup_updateNodeIDs world.a _ _ _

/-- The lists that B sends carry its number. -/
theorem sent_list (faithful : env.json.parse (world.b.onRequestNodeIDs env.json) =
      some (GatewayNodeManager.nodeListDocument world.b.statusSeq world.b.localGroup2NodeIDs))
    {received message : P2PMessage} {b : GatewayNodeManager φ} {actions : List (Action φ Key)}
    (ran : Service.dispatch env (msgHandlers env) world.b world.a.p2pNodeID received =
      .ok (b, actions))
    (member : message ∈ actions.filterMap sent)
    (type : message.packetType = env.fw.messageType.responseNodeIDs) :
    ∃ nodeIDsMap, GatewayNodeManager.parseReceivedJson env.json message.payload =
      some (world.b.statusSeq, nodeIDsMap) := by
  obtain ⟨action, performed, wired⟩ := List.mem_filterMap.mp member
  rcases Service.dispatch_cases env ran with ⟨_, sends⟩ | ⟨_, _, _, rfl⟩
  · cases action with
    | sendMessageBySession packetType payload =>
      cases wired
      rcases sends packetType payload performed with request | ⟨_, rfl⟩
      · exact absurd (request.symm.trans type) responseNodeIDs_ne_heartbeat.2
      · obtain ⟨nodeIDsMap, parsed, _⟩ := GatewayNodeManager.parseReceivedJson_document faithful
        exact ⟨nodeIDsMap, parsed⟩
    | handler => cases wired
    | sendRespMessageBySession => cases wired
    | onReceiveMessage => cases wired
  · cases performed

theorem Fresh.step (fresh : Fresh env oldest changes world) {event : Event φ}
    (faithful : Faithful env world event) (recent : Recent oldest world event)
    (taken : NodeListSync.step env world event = some next) :
    Fresh env oldest changes next := by
  cases step_moves taken with
  | operates _ b update counts => exact fresh.operates counts
  | heartBeat =>
    refine ⟨fresh.counted, fun current message member type => ?_, fresh.stored⟩
    rw [List.drop_append] at member
    rcases List.mem_append.mp member with old | new
    · exact fresh.lists current message old type
    · rw [List.mem_singleton.mp (List.mem_of_mem_drop new)] at type
      exact absurd type responseNodeIDs_ne_heartbeat.1
  | receivesAtA index message a actions arrives ran => exact fresh.receivesAtA recent arrives ran _
  | receivesAtB index message b actions arrives ran =>
    have own : b.p2pNodeID = world.b.p2pNodeID ∧ b.statusSeq = world.b.statusSeq := by
      rcases Service.dispatch_cases env ran with ⟨rfl, _⟩ | ⟨_, _, rfl, _⟩
      · exact ⟨rfl, rfl⟩
      · have kept := world.b.onReceiveNodeIDs_own env.json world.a.p2pNodeID message.payload
        exact ⟨kept.1, kept.2.1⟩
    obtain ⟨p2pNodeID, statusSeq⟩ := own
    refine ⟨fresh.counted, fun current response member type => ?_, fun current => ?_⟩
    · simp only [statusSeq]
      rw [List.drop_append] at member
      rcases List.mem_append.mp member with old | new
      · exact fresh.lists current response old type
      · exact sent_list faithful ran (List.mem_of_mem_drop new) type
    · show world.a.p2pID2Seq.lookup b.p2pNodeID = some b.statusSeq
      rw [p2pNodeID, statusSeq]
      exact fresh.stored current
  | onDisconnect => exact recent.elim

omit [DecidableEq φ] in
theorem unchanged_of_stored {manager : GatewayNodeManager φ} {p2pID : P2pID} {statusSeq : UInt32}
    (stored : manager.p2pID2Seq.lookup p2pID = some statusSeq) :
    manager.onReceiveStatusSeq p2pID statusSeq = false := by
  unfold GatewayNodeManager.onReceiveStatusSeq
  rw [stored]
  exact bne_self_eq_false statusSeq

omit [DecidableEq φ] in
theorem stored_of_unchanged {manager : GatewayNodeManager φ} {p2pID : P2pID} {statusSeq : UInt32}
    (unchanged : manager.onReceiveStatusSeq p2pID statusSeq = false) :
    manager.p2pID2Seq.lookup p2pID = some statusSeq := by
  unfold GatewayNodeManager.onReceiveStatusSeq at unchanged
  cases stored : manager.p2pID2Seq.lookup p2pID with
  | none =>
    rw [stored] at unchanged
    cases unchanged
  | some mark =>
    rw [stored] at unchanged
    rw [bne_eq_false_iff_eq.mp unchanged]

theorem step_receiveAtA {index : Nat} {message : P2PMessage} {a : GatewayNodeManager φ}
    {actions : List (Action φ Key)} (arrives : world.toA[index]? = some message)
    (ran : Service.dispatch env (msgHandlers env) world.a world.b.p2pNodeID message =
      .ok (a, actions)) :
    step env world (.receiveAtA index) =
      some { world with a, toB := world.toB ++ actions.filterMap sent } := by
  simp only [step, arrives, ran]

theorem step_receiveAtB {index : Nat} {message : P2PMessage} {b : GatewayNodeManager φ}
    {actions : List (Action φ Key)} (arrives : world.toB[index]? = some message)
    (ran : Service.dispatch env (msgHandlers env) world.b world.a.p2pNodeID message =
      .ok (b, actions)) :
    step env world (.receiveAtB index) =
      some { world with b, toA := world.toA ++ actions.filterMap sent } := by
  simp only [step, arrives, ran]

/-- A heartbeat is answered to the end whatever else is on the wire. -/
theorem beat_fresh (sound : world.Sound env) (readable : Readable env.json world.b) :
    ∃ after, Transition.run (step env) world (beat world) = some after ∧ after.Sound env ∧
      Fresh env world.toA.length world.changes after ∧ after.b = world.b ∧
      after.update = world.update ∧ after.changes = world.changes := by
  let heartbeat : P2PMessage :=
    { packetType := env.fw.messageType.heartbeat
      payload := BigEndian.encode 4 world.b.statusSeq.toNat }
  let sentBeat : NodeListSync φ := { world with toA := world.toA ++ [heartbeat] }
  have first : step env world .heartBeat = some sentBeat := rfl
  have arrives : sentBeat.toA[world.toA.length]? = some heartbeat := List.getElem?_concat_length
  have read := dispatch_beat env world.a world.b.p2pNodeID world.b.statusSeq
  have soundBeat : sentBeat.Sound env := sound.heartBeat
  unfold beat
  cases changed : world.a.onReceiveStatusSeq world.b.p2pNodeID world.b.statusSeq with
  | false =>
    -- A has the number already
    rw [changed] at read
    have second : step env sentBeat (.receiveAtA world.toA.length) =
        some { sentBeat with toB := world.toB ++ [] } := step_receiveAtA arrives read
    refine ⟨_, (Transition.run_cons _).mpr ⟨_, first, (Transition.run_cons _).mpr
      ⟨_, second, rfl⟩⟩, soundBeat.receiveAtA (List.mem_of_getElem? arrives) read _,
      ⟨Nat.le_refl _, fun _ message member type => ?_, fun _ => stored_of_unchanged changed⟩,
      rfl, rfl, rfl⟩
    rw [List.drop_left] at member
    rw [List.mem_singleton.mp member] at type
    exact absurd type responseNodeIDs_ne_heartbeat.1
  | true =>
    rw [changed] at read
    let request : P2PMessage := { packetType := env.fw.messageType.requestNodeIDs, payload := [] }
    let response : P2PMessage :=
      { packetType := env.fw.messageType.responseNodeIDs
        payload := world.b.onRequestNodeIDs env.json }
    let asked : NodeListSync φ := { sentBeat with toB := world.toB ++ [request] }
    let answered : NodeListSync φ := { asked with toA := sentBeat.toA ++ [response] }
    obtain ⟨received, parsed, _⟩ :=
      GatewayNodeManager.parseReceivedJson_document readable.read
    let heard : NodeListSync φ :=
      { answered with
        a := world.a.updateNodeIDs world.b.p2pNodeID world.b.statusSeq received
        toB := asked.toB ++ [] }
    have second : step env sentBeat (.receiveAtA world.toA.length) = some asked :=
      step_receiveAtA arrives read
    have wanted : asked.toB[world.toB.length]? = some request := List.getElem?_concat_length
    have reply : Service.dispatch env (msgHandlers env) asked.b asked.a.p2pNodeID request =
        .ok (world.b, [.sendMessageBySession env.fw.messageType.responseNodeIDs
          (world.b.onRequestNodeIDs env.json)]) :=
      dispatch_request env world.b world.a.p2pNodeID readable.written
    have third : step env asked (.receiveAtB world.toB.length) = some answered :=
      step_receiveAtB wanted reply
    have last : answered.toA[world.toA.length + 1]? = some response := by
      have size : (world.toA ++ [heartbeat]).length = world.toA.length + 1 := by simp
      rw [← size]
      exact List.getElem?_concat_length
    have list := dispatch_list env world.a world.b.p2pNodeID parsed
    have fourth : step env answered (.receiveAtA (world.toA.length + 1)) = some heard :=
      step_receiveAtA last list
    have soundAsked : asked.Sound env :=
      soundBeat.receiveAtA (List.mem_of_getElem? arrives) read _
    have soundAnswered : answered.Sound env := soundAsked.receiveAtB readable.read reply
    refine ⟨heard, (Transition.run_cons _).mpr ⟨_, first, (Transition.run_cons _).mpr ⟨_, second,
      (Transition.run_cons _).mpr ⟨_, third, (Transition.run_cons _).mpr ⟨_, fourth, rfl⟩⟩⟩⟩,
      soundAnswered.receiveAtA (List.mem_of_getElem? last) list _,
      ⟨Nat.le_refl _, fun _ message member type => ?_, fun _ => ?_⟩, rfl, rfl, rfl⟩
    · have appended : heard.toA = world.toA ++ [heartbeat, response] := List.append_assoc _ _ _
      rw [appended, List.drop_left] at member
      rcases List.mem_cons.mp member with same | later
      · rw [same] at type
        exact absurd type responseNodeIDs_ne_heartbeat.1
      · rw [List.mem_singleton.mp later]
        exact ⟨received, parsed⟩
    · exact GatewayNodeManager.lookup_updateNodeIDs world.a _ _ _

/-- From every state of a run in which B is not in the middle of an update, a heartbeat and what it
    leads to give A the nodes of B. Wherever B is in the middle of none later, A still has them and
    does not ask again, if B has counted no change and A hears nothing that was sent before that
    heartbeat. -/
theorem beat_agrees (env : Environment Key) (start : NodeListSync φ) (events : List (Event φ))
    {last : NodeListSync φ} (initial : start.Initial)
    (faithful : Transition.Meets (step env) (Faithful env) start events)
    (ran : Transition.run (step env) start events = some last) (few : last.changes < 2 ^ 32)
    (idle : last.update = none) (readable : Readable env.json last.b) :
    ∃ after, Transition.run (step env) last (beat last) = some after ∧ after.b = last.b ∧
      after.Agrees ∧
      ∀ more later, Transition.Meets (step env)
          (fun world event => Faithful env world event ∧ Recent last.toA.length world event)
          after more →
        Transition.run (step env) after more = some later → later.changes = last.changes →
          later.update = none → later.Agrees ∧
            later.a.onReceiveStatusSeq later.b.p2pNodeID later.b.statusSeq = false := by
  have sound : last.Sound env :=
    Transition.invariant_of_meets (step env)
      (fun _ _ _ sound faithful taken => sound.step faithful taken) initial.sound faithful ran
  obtain ⟨after, beaten, soundAfter, fresh, b, update, changes⟩ := beat_fresh sound readable
  refine ⟨after, beaten, b, ?_, fun more later meets ranMore same idleLater => ?_⟩
  · exact soundAfter.agrees (changes ▸ few) (by rw [update, idle]; rfl) (fresh.stored changes)
  · have held : later.Sound env ∧ Fresh env last.toA.length last.changes later :=
      @Transition.invariant_of_meets _ _ (step env) _ _ _ _
        (fun world => world.Sound env ∧ Fresh env last.toA.length last.changes world)
        (fun _ _ _ held met taken => ⟨held.1.step met.1 taken, held.2.step met.1 met.2 taken⟩)
        ⟨soundAfter, fresh⟩ meets ranMore
    obtain ⟨soundLater, freshLater⟩ := held
    have stored := freshLater.stored same
    exact ⟨soundLater.agrees (same ▸ few) (by rw [idleLater]; rfl) stored,
      unchanged_of_stored stored⟩

/-- A registration of B after the first contact is heard of in one round. -/
theorem oneNode_agrees :
    ∃ last after, Transition.run (step oneNodeEnvironment) strangers
        [.registerFrontService [103] [49] 0, .heartBeat, .receiveAtA 0, .onDisconnect] = some last ∧
      Transition.run (step oneNodeEnvironment) last (beat last) = some after ∧ after.Agrees := by
  obtain ⟨after, ran, _, agrees, _⟩ := beat_agrees oneNodeEnvironment strangers
    [.registerFrontService [103] [49] 0, .heartBeat, .receiveAtA 0, .onDisconnect]
    ⟨rfl, rfl, rfl, rfl, rfl, rfl⟩ ⟨trivial, trivial, trivial, trivial, trivial⟩ rfl
    (by decide) rfl ⟨by decide, rfl⟩
  exact ⟨_, after, rfl, ran, agrees⟩

end Steps

end BcosGateway.NodeListSync

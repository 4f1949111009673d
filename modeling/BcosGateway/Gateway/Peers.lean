import BcosGateway.Service.Heard
import BcosGateway.Service.Sessions
import BcosGateway.NodeManager.TwoRecords

/-! What a gateway reports of its peers, while node lists are recorded. -/

namespace BcosGateway

/-- A `P2PInfo` with the nodes of its gateway, without the names of the certificate. -/
structure GatewayInfo where
  p2pID : P2pID
  nodeIPEndpoint : NodeIPEndpoint
  nodeIDInfo : NodeIDsMap := ∅

namespace GatewayNodeManager

variable {φ : Type} (manager : GatewayNodeManager φ)

def getLocalNodeIDInfo : NodeIDsMap :=
  manager.frontServiceInfos.filterMap fun _ infos => some (infos.filterMap fun _ _ => some ())

def nodeIDInfoOf (p2pNodeID : P2pID) : NodeIDsMap :=
  if p2pNodeID = manager.p2pNodeID then manager.getLocalNodeIDInfo
  else (manager.nodeIDInfo.lookup p2pNodeID).getD ∅

theorem lists_getLocalNodeIDInfo (groupID nodeID : StdString) :
    Index.Lists manager.getLocalNodeIDInfo groupID nodeID ↔ manager.Registered groupID nodeID := by
  unfold Index.Lists Registered group getLocalNodeIDInfo
  rw [Table.lookup_filterMap]
  cases manager.frontServiceInfos.lookup groupID with
  | none => exact Iff.rfl
  | some infos =>
    show nodeID ∈ (infos.filterMap fun _ _ => some () : KeySet StdString) ↔ nodeID ∈ infos
    rw [← AList.lookup_isSome, ← AList.lookup_isSome, Table.lookup_filterMap]
    cases infos.lookup nodeID <;> rfl

end GatewayNodeManager

namespace Service

variable {φ : Type} (service : Service φ)

def p2pInfo (object : Nat) : Option GatewayInfo :=
  service.p2pSessions[object]?.map fun p2pSession =>
    { p2pID := p2pSession.p2pID, nodeIPEndpoint := p2pSession.endpoint }

def sessionInfos : List GatewayInfo := service.sessions.values.filterMap service.p2pInfo

def localP2pInfo (listen : NodeIPEndpoint) : GatewayInfo :=
  { p2pID := service.nodeID, nodeIPEndpoint := listen }

end Service

namespace Gateway

variable {φ Key : Type}

def asyncGetPeers (service : Service φ) (listen : NodeIPEndpoint) :
    GatewayInfo × List GatewayInfo :=
  ({ service.localP2pInfo listen with nodeIDInfo := service.manager.getLocalNodeIDInfo },
    service.sessionInfos.map fun info =>
      { info with nodeIDInfo := service.manager.nodeIDInfoOf info.p2pID })

end Gateway

namespace Service

variable {φ Key : Type} {service : Service φ}

theorem step_p2pNodeID [DecidableEq φ] {env : Environment Key} {after : Service φ} {event : Event φ}
    (taken : step env service event = some after) :
    after.manager.p2pNodeID = service.manager.p2pNodeID := by
  rw [(step_told taken).p2pNodeID]
  cases service.announcement env event with
  | none => rfl
  | some operation => cases operation <;> rfl

theorem p2pInfo_entry {object : Nat} {p2pID : P2pID} {run : Bool}
    (named : service.entry object = some (p2pID, run)) :
    ∃ info, service.p2pInfo object = some info ∧ info.p2pID = p2pID := by
  unfold entry at named
  unfold p2pInfo
  obtain ⟨p2pSession, held, same⟩ := Option.map_eq_some_iff.mp named
  rw [held]
  exact ⟨_, rfl, (Prod.mk.inj same).1⟩

/-- The sessions that are reported are those of the table, under its keys. -/
theorem sessionInfos_p2pIDs (oneRunning : service.OneRunning) :
    service.sessionInfos.map GatewayInfo.p2pID = service.sessions.keys := by
  have each : ∀ entry ∈ service.sessions.entries,
      ∃ info, service.p2pInfo entry.2 = some info ∧ info.p2pID = entry.1 := by
    intro entry member
    have found : service.sessions.lookup entry.1 = some entry.2 :=
      AList.mem_lookup_iff.mpr member
    obtain ⟨⟨run, named⟩, _⟩ := oneRunning.keyed entry.1 entry.2 found
    exact p2pInfo_entry named
  unfold sessionInfos Table.values AList.keys
  generalize service.sessions.entries = entries at each
  induction entries with
  | nil => rfl
  | cons entry entries ih =>
    obtain ⟨info, found, named⟩ := each entry List.mem_cons_self
    have rest := ih fun other member => each other (List.mem_cons_of_mem _ member)
    rw [List.map_cons, List.filterMap_cons, found]
    simp only [List.map_cons, List.keys_cons]
    rw [named, rest]

end Service

/-- A service with the calls of `updateNodeIDs` that are between their two sections, each with the
    session whose task makes it. -/
structure ServiceCalls (φ : Type) where
  service : Service φ
  inProgress : List (Nat × P2pID × NodeIDsMap) := []

namespace ServiceCalls

open GatewayNodeManager (Operation)

variable {φ Key : Type}

inductive Event (φ : Type) where
  | service (event : Service.Event φ)
  | updateNodeIDInfo (call : Nat)

def pin (object : Nat) (count : Nat → Nat) (service : Service φ) : Service φ :=
  service.modifyP2PSession object fun p2pSession =>
    { p2pSession with pinned := count p2pSession.pinned }

/-- What a step of the service leaves that tells the table this. A task that records a node list
    stops in front of its second section and has a pointer to its session until it ends. -/
def divide (calls : ServiceCalls φ) (after : Service φ) :
    Service.Event φ → Option Operation → ServiceCalls φ
  | .execute object _, some (.updateNodeIDs p2pID seq nodeIDsMap) =>
    { service := pin object (· + 1) { after with
        manager := calls.service.manager.beginUpdateNodeIDs p2pID seq nodeIDsMap }
      inProgress := calls.inProgress ++ [(object, p2pID, nodeIDsMap)] }
  | _, _ => { calls with service := after }

def sectionOf : Operation → NodeCalls.Section
  | .updateNodeIDs p2pID seq nodeIDsMap => .updateNodeIDs p2pID seq nodeIDsMap
  | .onRemoveNodeIDs p2pID => .onRemoveNodeIDs p2pID

section Steps

variable [DecidableEq φ] (env : Environment Key)

def step (calls : ServiceCalls φ) : Event φ → Option (ServiceCalls φ)
  | .service event =>
    (Service.step env calls.service event).map fun after =>
      calls.divide after event (calls.service.announcement env event)
  | .updateNodeIDInfo call =>
    calls.inProgress[call]?.map fun (object, p2pID, nodeIDsMap) =>
      { service := pin object (· - 1) { calls.service with
          manager := calls.service.manager.updateNodeIDInfo p2pID nodeIDsMap }
        inProgress := calls.inProgress.eraseIdx call }

omit [DecidableEq φ] in
def announcement (calls : ServiceCalls φ) : Event φ → Option Operation
  | .service event => calls.service.announcement env event
  | .updateNodeIDInfo _ => none

def announcements : ServiceCalls φ → List (Event φ) → List Operation
  | _, [] => []
  | calls, event :: events =>
    (calls.announcement env event).toList ++
      match step env calls event with
      | none => []
      | some next => announcements next events

omit [DecidableEq φ] in
def entered (calls : ServiceCalls φ) : Event φ → Option NodeCalls.Section
  | .service event => (calls.service.announcement env event).map sectionOf
  | .updateNodeIDInfo call => some (.updateNodeIDInfo call)

end Steps

def nodeCalls (calls : ServiceCalls φ) : NodeCalls φ where
  manager :=
    { peerGatewayNodes := calls.service.manager.peerGatewayNodes
      p2pID2Seq := calls.service.manager.p2pID2Seq
      nodeIDInfo := calls.service.manager.nodeIDInfo }
  inProgress := calls.inProgress.map Prod.snd

def FindsItsOwn (env : Environment Key) (calls : ServiceCalls φ) (event : Event φ) : Prop :=
  ∀ sect ∈ calls.entered env event, calls.nodeCalls.FindsItsOwn sect

theorem finds_service {env : Environment Key} (calls : ServiceCalls φ) (event : Service.Event φ) :
    calls.FindsItsOwn env (.service event) := by
  intro sect entered
  obtain ⟨operation, _, rfl⟩ := Option.map_eq_some_iff.mp entered
  cases operation <;> trivial

theorem finds_own {env : Environment Key} {calls : ServiceCalls φ} {call : Nat} {p2pID : P2pID}
    {nodeIDsMap : NodeIDsMap} (found : calls.nodeCalls.inProgress[call]? = some (p2pID, nodeIDsMap))
    (names : calls.service.manager.Names p2pID nodeIDsMap)
    (known : p2pID ∈ calls.service.manager.p2pID2Seq) :
    calls.FindsItsOwn env (.updateNodeIDInfo call) := by
  intro sect entered
  cases entered
  intro other nodes same
  cases found.symm.trans same
  exact .inr ⟨names, known⟩

section Runs

variable [DecidableEq φ] {env : Environment Key} {calls next : ServiceCalls φ} {event : Event φ}

omit [DecidableEq φ] in
theorem pin_pin (object : Nat) (service : Service φ) :
    pin object (· - 1) (pin object (· + 1) service) = service := by
  unfold pin Service.modifyP2PSession
  rw [List.modify_modify_eq]
  exact congrArg (fun p2pSessions => { service with p2pSessions })
    (List.modify_id object service.p2pSessions)

/-- What a step of the service comes to: only a task that records a node list is divided. -/
theorem step_cases {event : Service.Event φ} (taken : step env calls (.service event) = some next) :
    ∃ after, Service.step env calls.service event = some after ∧
      ((next = { calls with service := after } ∧ ∀ p2pID seq nodeIDsMap,
          calls.service.announcement env event ≠ some (.updateNodeIDs p2pID seq nodeIDsMap)) ∨
        ∃ object p2pID seq nodeIDsMap,
          calls.service.announcement env event = some (.updateNodeIDs p2pID seq nodeIDsMap) ∧
            next = {
              service := pin object (· + 1) { after with
                manager := calls.service.manager.beginUpdateNodeIDs p2pID seq nodeIDsMap }
              inProgress := calls.inProgress ++ [(object, p2pID, nodeIDsMap)] }) := by
  obtain ⟨after, stepped, rfl⟩ := Option.map_eq_some_iff.mp taken
  refine ⟨after, stepped, ?_⟩
  cases event with
  | execute object task =>
    cases announced : calls.service.announcement env (.execute object task) with
    | none => exact .inl ⟨rfl, fun _ _ _ => nofun⟩
    | some operation =>
      cases operation with
      | onRemoveNodeIDs p2pID => exact .inl ⟨rfl, fun _ _ _ => nofun⟩
      | updateNodeIDs p2pID seq nodeIDsMap => exact .inr ⟨object, p2pID, seq, nodeIDsMap, rfl, rfl⟩
  | _ => exact .inl ⟨rfl, fun _ _ _ => nofun⟩

/-- Sections that nothing separates make the update that the service makes. -/
theorem step_undivided {event : Service.Event φ} {after : Service φ}
    (taken : Service.step env calls.service event = some after) {p2pID : P2pID} {seq : UInt32}
    {nodeIDsMap : NodeIDsMap}
    (announced : calls.service.announcement env event = some (.updateNodeIDs p2pID seq nodeIDsMap)) :
    Transition.run (step env) calls
        [.service event, .updateNodeIDInfo calls.inProgress.length] =
      some { calls with service := after } := by
  have manager : after.manager = calls.service.manager.updateNodeIDs p2pID seq nodeIDsMap :=
    Service.step_manager announced taken
  obtain ⟨next, first⟩ : ∃ next, step env calls (.service event) = some next :=
    ⟨_, Option.map_eq_some_iff.mpr ⟨after, taken, rfl⟩⟩
  refine (Transition.run_cons (step env)).mpr ⟨next, first, ?_⟩
  refine (Transition.run_cons (step env)).mpr ⟨_, ?_, rfl⟩
  obtain ⟨other, same, ⟨_, apart⟩ | ⟨object, _, _, _, told, rfl⟩⟩ := step_cases first
  · exact absurd announced (apart p2pID seq nodeIDsMap)
  · cases same.symm.trans taken
    cases told.symm.trans announced
    simp only [step, List.getElem?_concat_length, Option.map_some,
      List.eraseIdx_append_of_length_le, Nat.le_refl, Nat.sub_self, List.eraseIdx_zero,
      List.tail_cons, List.append_nil]
    have recorded : { after with
        manager := (calls.service.manager.beginUpdateNodeIDs p2pID seq nodeIDsMap).updateNodeIDInfo
          p2pID nodeIDsMap } = after := by
      rw [← GatewayNodeManager.updateNodeIDs_eq, ← manager]
    refine congrArg (fun service => some { calls with service }) ?_
    exact (pin_pin object { after with
      manager := (calls.service.manager.beginUpdateNodeIDs p2pID seq nodeIDsMap).updateNodeIDInfo
        p2pID nodeIDsMap }).trans recorded

theorem step_simulates (taken : step env calls event = some next) :
    match calls.entered env event with
    | none => next.nodeCalls = calls.nodeCalls
    | some sect => calls.nodeCalls.step sect = some next.nodeCalls := by
  cases event with
  | updateNodeIDInfo call =>
    obtain ⟨⟨object, p2pID, nodeIDsMap⟩, found, rfl⟩ := Option.map_eq_some_iff.mp taken
    have begun : calls.nodeCalls.inProgress[call]? = some (p2pID, nodeIDsMap) := by
      simp only [nodeCalls, List.getElem?_map, found, Option.map_some]
    refine Option.map_eq_some_iff.mpr ⟨(p2pID, nodeIDsMap), begun, ?_⟩
    simp only [nodeCalls, List.eraseIdx_map]
    rfl
  | service event =>
    obtain ⟨after, stepped, divided⟩ := step_cases taken
    have told := Service.step_told stepped
    simp only [entered]
    rcases divided with ⟨rfl, apart⟩ | ⟨object, p2pID, seq, nodeIDsMap, announced, rfl⟩
    · cases announced : calls.service.announcement env event with
      | none =>
        rw [announced] at told
        simp only [Option.map_none, nodeCalls, told.peerGatewayNodes, told.p2pID2Seq,
          told.nodeIDInfo]
        rfl
      | some operation =>
        rw [announced] at told
        cases operation with
        | updateNodeIDs p2pID seq nodeIDsMap => exact absurd announced (apart p2pID seq nodeIDsMap)
        | onRemoveNodeIDs p2pID =>
          simp only [Option.map_some, nodeCalls, told.peerGatewayNodes, told.p2pID2Seq,
            told.nodeIDInfo]
          rfl
    · rw [announced]
      simp only [Option.map_some, nodeCalls, List.map_append, List.map_singleton]
      rfl

theorem Settled.step (settled : calls.nodeCalls.Settled) (finds : calls.FindsItsOwn env event)
    (taken : step env calls event = some next) : next.nodeCalls.Settled := by
  have simulates := step_simulates taken
  unfold FindsItsOwn at finds
  cases entered : calls.entered env event with
  | none =>
    rw [entered] at simulates
    rw [simulates]
    exact settled
  | some sect =>
    rw [entered] at simulates finds
    exact (settled.step_iff simulates).mpr (finds sect rfl)

omit [DecidableEq φ] in
theorem still_pin (service : Service φ) (manager : GatewayNodeManager φ) (object : Nat)
    (count : Nat → Nat) : Service.Still service (pin object count { service with manager }) := by
  have quiet := Service.quiet_pinned { service with manager } object count
  exact ⟨rfl, rfl, quiet.entry, rfl⟩

theorem step_stored (stored : calls.service.Stored) (taken : step env calls event = some next) :
    next.service.Stored := by
  cases event with
  | updateNodeIDInfo call =>
    obtain ⟨⟨object, p2pID, nodeIDsMap⟩, _, rfl⟩ := Option.map_eq_some_iff.mp taken
    exact stored.still (still_pin calls.service _ object (· - 1))
  | service event =>
    obtain ⟨after, stepped, divided⟩ := step_cases taken
    have storedAfter := stored.step env stepped
    rcases divided with ⟨rfl, _⟩ | ⟨object, _, _, _, _, rfl⟩
    · exact storedAfter
    · exact storedAfter.still (still_pin after _ _ _)

theorem step_own (own : calls.service.manager.p2pNodeID = calls.service.nodeID)
    (taken : step env calls event = some next) :
    next.service.manager.p2pNodeID = next.service.nodeID := by
  cases event with
  | updateNodeIDInfo call =>
    obtain ⟨_, _, rfl⟩ := Option.map_eq_some_iff.mp taken
    exact own
  | service event =>
    obtain ⟨after, stepped, divided⟩ := step_cases taken
    have named : after.nodeID = calls.service.nodeID := Service.step_nodeID env stepped
    rcases divided with ⟨rfl, _⟩ | ⟨object, _, _, _, _, rfl⟩
    · exact (Service.step_p2pNodeID stepped).trans (own.trans named.symm)
    · exact own.trans named.symm

theorem step_follows {operations : List Operation}
    (follows : Service.Follows calls.service.manager operations)
    (taken : step env calls event = some next) :
    Service.Follows next.service.manager
      (operations ++ (calls.announcement env event).toList) := by
  cases event with
  | updateNodeIDInfo call =>
    obtain ⟨_, _, rfl⟩ := Option.map_eq_some_iff.mp taken
    exact follows.advance none rfl rfl
  | service event =>
    obtain ⟨after, stepped, divided⟩ := step_cases taken
    simp only [announcement]
    rcases divided with ⟨rfl, _⟩ | ⟨object, p2pID, seq, nodeIDsMap, announced, rfl⟩
    · have told := Service.step_told stepped
      exact follows.advance _ told.peerGatewayNodes told.p2pID2Seq
    · rw [announced]
      exact follows.advance (some (.updateNodeIDs p2pID seq nodeIDsMap)) rfl rfl

theorem run_follows {operations : List Operation}
    (follows : Service.Follows calls.service.manager operations) {events : List (Event φ)}
    {last : ServiceCalls φ} (ran : Transition.run (step env) calls events = some last) :
    Service.Follows last.service.manager (operations ++ announcements env calls events) := by
  induction events generalizing calls operations with
  | nil =>
    cases ran
    unfold announcements
    rw [List.append_nil]
    exact follows
  | cons event events ih =>
    obtain ⟨next, taken, rest⟩ := (Transition.run_cons (step env)).mp ran
    unfold announcements
    rw [taken, ← List.append_assoc]
    exact ih (step_follows follows taken) rest

end Runs

end ServiceCalls

structure Service.Introduced {φ : Type} (service : Service φ) (ours : GatewayInfo)
    (peers : List GatewayInfo) : Prop where
  own : ours.p2pID = service.nodeID ∧ ∀ groupID nodeID,
    Index.Lists ours.nodeIDInfo groupID nodeID ↔ service.manager.Registered groupID nodeID
  once : (peers.map GatewayInfo.p2pID).Nodup
  stored : ∀ p2pID, p2pID ∈ peers.map GatewayInfo.p2pID ↔ p2pID ∈ service.sessions
  foreign : service.nodeID ∉ peers.map GatewayInfo.p2pID

structure ServiceCalls.Reported {φ : Type} (calls : ServiceCalls φ)
    (operations : List GatewayNodeManager.Operation) (peers : List GatewayInfo) : Prop where
  routed : ∀ info ∈ peers, ¬ NodeCalls.Busy calls.nodeCalls.inProgress info.p2pID → ∀ groupID nodeID,
    Index.Lists info.nodeIDInfo groupID nodeID ↔
      info.p2pID ∈ (calls.service.manager.queryP2pIDs groupID nodeID ∅).2
  announced : ∀ info ∈ peers, ¬ NodeCalls.Busy calls.nodeCalls.inProgress info.p2pID → ∀ groupID nodeID,
    Index.Lists info.nodeIDInfo groupID nodeID ↔
      (GatewayNodeManager.lastAnnounced operations).Lists info.p2pID groupID nodeID

namespace Gateway

variable {φ Key : Type} {service : Service φ} (listen : NodeIPEndpoint)

theorem asyncGetPeers_p2pIDs (oneRunning : service.OneRunning) :
    (asyncGetPeers service listen).2.map GatewayInfo.p2pID = service.sessions.keys := by
  unfold asyncGetPeers
  rw [List.map_map]
  exact Service.sessionInfos_p2pIDs oneRunning

theorem asyncGetPeers_introduced (oneRunning : service.OneRunning) :
    service.Introduced (asyncGetPeers service listen).1 (asyncGetPeers service listen).2 := by
  refine ⟨⟨rfl, service.manager.lists_getLocalNodeIDInfo⟩, ?_, fun p2pID => ?_, ?_⟩
  · rw [asyncGetPeers_p2pIDs listen oneRunning]
    exact service.sessions.keys_nodup
  · rw [asyncGetPeers_p2pIDs listen oneRunning]
    exact AList.mem_keys
  · rw [asyncGetPeers_p2pIDs listen oneRunning]
    intro key
    have member := AList.mem_keys.mp key
    obtain ⟨object, found⟩ := Option.isSome_iff_exists.mp (AList.lookup_isSome.mpr member)
    exact (oneRunning.keyed _ object found).2 rfl

/-- A peer's entry is read from the second record, which holds what the first one does. -/
theorem lists_asyncGetPeers {calls : ServiceCalls φ} (settled : calls.nodeCalls.Settled)
    (own : calls.service.manager.p2pNodeID = calls.service.nodeID)
    (introduced : calls.service.Introduced (asyncGetPeers calls.service listen).1
      (asyncGetPeers calls.service listen).2) :
    ∀ info ∈ (asyncGetPeers calls.service listen).2,
      ¬ NodeCalls.Busy calls.nodeCalls.inProgress info.p2pID → ∀ groupID nodeID,
        Index.Lists info.nodeIDInfo groupID nodeID ↔
          calls.service.manager.peerGatewayNodes.Holds groupID nodeID info.p2pID := by
  intro info member idle groupID nodeID
  have foreign : info.p2pID ≠ calls.service.manager.p2pNodeID := by
    rw [own]
    intro same
    exact introduced.foreign (same ▸ List.mem_map_of_mem member)
  obtain ⟨stored, _, rfl⟩ := List.mem_map.mp member
  have agrees := settled stored.p2pID idle
  show Index.Lists (calls.service.manager.nodeIDInfoOf stored.p2pID) groupID nodeID ↔ _
  unfold GatewayNodeManager.nodeIDInfoOf
  rw [if_neg foreign]
  exact (agrees.nodes groupID nodeID).symm

variable [DecidableEq φ]

/-- In every state that a service reaches, the report names the peers that it has a session with,
    each one once. The nodes of a peer whose updates have ended are those that messages are routed
    to it for, and those that it announced last, if no update undoes another one. -/
theorem asyncGetPeers_reported (env : Environment Key) (fresh : Service φ)
    (events : List (ServiceCalls.Event φ)) {last : ServiceCalls φ} (initial : fresh.Fresh)
    (unknowing : fresh.Unknowing) (own : fresh.manager.p2pNodeID = fresh.nodeID)
    (ran : Transition.run (ServiceCalls.step env) { service := fresh } events = some last) :
    last.service.Introduced (asyncGetPeers last.service listen).1
        (asyncGetPeers last.service listen).2 ∧
      (Transition.Meets (ServiceCalls.step env) (ServiceCalls.FindsItsOwn env)
          { service := fresh } events →
        last.Reported (ServiceCalls.announcements env { service := fresh } events)
          (asyncGetPeers last.service listen).2) := by
  have stored : last.service.Stored :=
    @Transition.invariant _ _ (ServiceCalls.step env) _ _ _ (fun calls => calls.service.Stored)
      (fun _ _ _ stored taken => ServiceCalls.step_stored stored taken) initial.stored ran
  have same : last.service.manager.p2pNodeID = last.service.nodeID :=
    @Transition.invariant _ _ (ServiceCalls.step env) _ _ _
      (fun calls => calls.service.manager.p2pNodeID = calls.service.nodeID)
      (fun _ _ _ own taken => ServiceCalls.step_own own taken) own ran
  have introduced := asyncGetPeers_introduced listen stored.oneRunning
  refine ⟨introduced, fun finds => ?_⟩
  have initially : ({ service := fresh } : ServiceCalls φ).nodeCalls.Settled :=
    NodeCalls.Initial.settled ⟨unknowing.peerGatewayNodes, unknowing.p2pID2Seq,
      unknowing.nodeIDInfo, rfl⟩
  have settled : last.nodeCalls.Settled :=
    @Transition.invariant_of_meets _ _ (ServiceCalls.step env) _ _ _ _
      (fun calls => calls.nodeCalls.Settled)
      (fun _ _ _ settled finds taken => ServiceCalls.Settled.step settled finds taken)
      initially finds ran
  have follows := ServiceCalls.run_follows unknowing.follows ran
  rw [List.nil_append] at follows
  have listed := lists_asyncGetPeers listen settled same introduced
  have held := follows.holds
  rw [GatewayNodeManager.foldl_announce] at held
  constructor
  · intro info member idle groupID nodeID
    rw [listed info member idle, held, (follows.routesExactly.queryP2pIDs groupID nodeID).2]
  · intro info member idle groupID nodeID
    rw [listed info member idle, held]

/-- Two peers send their nodes. The second list arrives while the first one is recorded, and the
    session with the first peer fails while the second one is. -/
def twoPeersDivided : List (ServiceCalls.Event Nat) :=
  let listed : P2PMessage :=
    { packetType := 4, seq := 5,
      payload := (JsonCpp.reading Service.oneNodeList).write Service.oneNodeList }
  [.service (.onConnect Session.success [112] { address := "127.0.0.1", port := 30300 } {}),
    .service (.onConnect Session.success [113] { address := "127.0.0.1", port := 30301 } {}),
    .service (.session 0 (.onMessage Session.success listed)), .service (.execute 0 0),
    .service (.session 1 (.onMessage Session.success listed)), .updateNodeIDInfo 0,
    .service (.execute 1 0), .service (.session 0 (.drop .tcpError)), .updateNodeIDInfo 0,
    .service (.execute 0 0)]

theorem twoPeersDivided_finds :
    Transition.Meets (ServiceCalls.step (Environment.reading Service.oneNodeList))
      (ServiceCalls.FindsItsOwn (Environment.reading Service.oneNodeList))
      { service := { nodeID := [97], manager := { p2pNodeID := [97] } } } twoPeersDivided := by
  have service := @ServiceCalls.finds_service Nat _ (Environment.reading Service.oneNodeList)
  refine ⟨service _ _, service _ _, service _ _, service _ _, service _ _,
    ServiceCalls.finds_own rfl ?_ ?_, service _ _, service _ _, ServiceCalls.finds_own rfl ?_ ?_,
    service _ _, trivial⟩
  · exact GatewayNodeManager.names_beginUpdateNodeIDs _ _ 2 _
  · decide
  · exact GatewayNodeManager.names_beginUpdateNodeIDs _ _ 2 _
  · decide

theorem twoPeersDivided_reported :
    ∃ last, Transition.run (ServiceCalls.step (Environment.reading Service.oneNodeList))
        { service := { nodeID := [97], manager := { p2pNodeID := [97] } } } twoPeersDivided =
          some last ∧
      last.Reported (ServiceCalls.announcements (Environment.reading Service.oneNodeList)
          { service := { nodeID := [97], manager := { p2pNodeID := [97] } } } twoPeersDivided)
        (asyncGetPeers last.service ⟨"0.0.0.0", 30300⟩).2 ∧
      (asyncGetPeers last.service ⟨"0.0.0.0", 30300⟩).2.map GatewayInfo.p2pID = [[113], [112]] :=
  ⟨_, rfl, (asyncGetPeers_reported ⟨"0.0.0.0", 30300⟩ (Environment.reading Service.oneNodeList)
    { nodeID := [97], manager := { p2pNodeID := [97] } } twoPeersDivided ⟨rfl, rfl, rfl⟩
    ⟨rfl, rfl, rfl⟩ rfl rfl).2 twoPeersDivided_finds, rfl⟩

end Gateway

end BcosGateway

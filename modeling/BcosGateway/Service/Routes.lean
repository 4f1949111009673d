import BcosGateway.Service.Effects

/-! The routes of a peer against its sessions, over whole runs. -/

namespace BcosGateway

namespace Service

variable {φ Key : Type} {service after : Service φ}

structure Sound (service : Service φ) : Prop where
  named : ∀ p2pID object, service.sessions.lookup p2pID = some object →
    ∃ run, service.entry object = some (p2pID, run)
  routed : ∀ p2pID, service.manager.Forgotten p2pID ∨ service.connected p2pID
  ended : ∀ pending ∈ service.disconnecting,
    ∃ p2pID, service.entry pending.2 = some (p2pID, false)

theorem connected_entry {p2pID : P2pID} (sound : service.Sound) :
    service.connected p2pID ↔
      ∃ object, service.sessions.lookup p2pID = some object ∧
        service.entry object = some (p2pID, true) := by
  rw [connected_iff]
  constructor
  · rintro ⟨object, found, runs⟩
    obtain ⟨run, named⟩ := sound.named p2pID object found
    obtain ⟨other, runs⟩ := actived_iff.mp runs
    rw [named] at runs
    cases runs
    exact ⟨object, found, named⟩
  · rintro ⟨object, found, runs⟩
    exact ⟨object, found, actived_iff.mpr ⟨p2pID, runs⟩⟩

theorem Still.connected (still : Still service after) (sound : service.Sound) {p2pID : P2pID}
    (connected : service.connected p2pID) : after.connected p2pID := by
  obtain ⟨object, found, runs⟩ := (connected_entry sound).mp connected
  rw [← still.sessions] at found
  rw [← still.entry] at runs
  exact connected_iff.mpr ⟨object, found, actived_iff.mpr ⟨p2pID, runs⟩⟩

/-- While the sessions are as they were, only a peer with a running session may get routes. -/
theorem Sound.still (sound : service.Sound) (still : Still service after)
    (routed : ∀ p2pID, service.manager.Forgotten p2pID →
      after.manager.Forgotten p2pID ∨ service.connected p2pID) : after.Sound := by
  refine ⟨?_, ?_, ?_⟩
  · intro p2pID object found
    rw [still.sessions] at found
    rw [still.entry]
    exact sound.named p2pID object found
  · intro p2pID
    rcases sound.routed p2pID with forgotten | connected
    · exact (routed p2pID forgotten).imp_right (still.connected sound)
    · exact .inr (still.connected sound connected)
  · intro pending member
    rw [still.disconnecting] at member
    rw [still.entry]
    exact sound.ended pending member

theorem Sound.connects (sound : service.Sound) {p2pID : P2pID} {object : Nat}
    (connects : Connects service after p2pID object) (keeps : Keeps service after) :
    after.Sound := by
  have inserted (other : P2pID) := congrArg (AList.lookup other) connects.sessions
  simp only [Table.lookup_insert_if] at inserted
  refine ⟨?_, ?_, ?_⟩
  · intro other found lookup
    rw [inserted] at lookup
    split at lookup
    · cases lookup
      exact ⟨true, by rw [connects.entry, if_pos rfl, ‹other = p2pID›]⟩
    · obtain ⟨run, named⟩ := sound.named other found lookup
      exact ⟨run, connects.kept named⟩
  · intro other
    apply (sound.routed other).imp (keeps other)
    intro connected
    by_cases same : other = p2pID
    · exact connected_iff.mpr ⟨object, by rw [inserted, if_pos same],
        actived_iff.mpr ⟨p2pID, by rw [connects.entry, if_pos rfl]⟩⟩
    · obtain ⟨held, found, runs⟩ := (connected_entry sound).mp connected
      exact connected_iff.mpr ⟨held, by rw [inserted, if_neg same, found],
        actived_iff.mpr ⟨other, connects.kept runs⟩⟩
  · intro pending member
    rw [connects.disconnecting] at member
    obtain ⟨other, stopped⟩ := sound.ended pending member
    exact ⟨other, connects.kept stopped⟩

theorem Sound.stops (sound : service.Sound) (stops : Stops service after)
    (unrouted : ∀ p2pID, after.manager.Forgotten p2pID) : after.Sound := by
  refine ⟨?_, fun p2pID => .inl (unrouted p2pID), ?_⟩
  · intro p2pID object found
    rw [stops.sessions] at found
    cases found
  · intro pending member
    rw [stops.disconnecting] at member
    obtain ⟨p2pID, ended⟩ := sound.ended pending member
    exact ⟨p2pID, stops.ended ended⟩

theorem Sound.disconnects (sound : service.Sound) {p2pID : P2pID} {object : Nat} {run : Bool}
    (disconnects : Disconnects service after object)
    (present : service.entry object = some (p2pID, run))
    (removed : ∀ other, (other ≠ p2pID → service.manager.Forgotten other) →
      after.manager.Forgotten other) : after.Sound := by
  have entry := disconnects.entry_of present
  refine ⟨?_, ?_, disconnects.ended present sound.ended⟩
  · intro other found lookup
    rw [disconnects.sessions] at lookup
    obtain ⟨ran, named⟩ := sound.named other found lookup
    rw [entry]
    split
    · rename_i same
      rw [same, named] at present
      cases present
      exact ⟨false, rfl⟩
    · exact ⟨ran, named⟩
  · intro other
    by_cases same : other = p2pID
    · exact .inl (removed other fun apart => absurd same apart)
    rcases sound.routed other with forgotten | connected
    · exact .inl (removed other fun _ => forgotten)
    · obtain ⟨held, found, runs⟩ := (connected_entry sound).mp connected
      right
      refine connected_iff.mpr ⟨held, by rw [disconnects.sessions, found],
        actived_iff.mpr ⟨other, ?_⟩⟩
      rw [entry, if_neg, runs]
      rintro rfl
      rw [present] at runs
      cases runs
      exact same rfl

theorem Sound.erases (sound : service.Sound) {object : Nat} (erases : Erases service after object)
    (keeps : Keeps service after) : after.Sound := by
  obtain ⟨e, queued⟩ := erases.queued
  obtain ⟨ended, stopped⟩ := sound.ended (e, object) queued
  refine ⟨?_, ?_, ?_⟩
  · intro other found lookup
    rw [erases.entry]
    rcases erases.sessions other with same | ⟨gone, _⟩
    · exact sound.named other found (same ▸ lookup)
    · rw [gone] at lookup
      cases lookup
  · intro other
    apply (sound.routed other).imp (keeps other)
    intro connected
    obtain ⟨found, lookup, runs⟩ := (connected_entry sound).mp connected
    have left : after.sessions.lookup other = some found := by
      rcases erases.sessions other with same | ⟨_, held⟩
      · exact same.trans lookup
      · -- the object that runs for a peer is not the one that is erased
        rw [lookup] at held
        cases held
        rw [stopped] at runs
        cases runs
    exact connected_iff.mpr ⟨found, left, actived_iff.mpr ⟨other, by rw [erases.entry, runs]⟩⟩
  · intro pending member
    rw [erases.entry]
    exact sound.ended pending (erases.disconnecting pending member)

section Messages

variable [DecidableEq φ] (env : Environment Key)

def Orderly (service : Service φ) : Event φ → Prop
  | .execute object task =>
    ∀ p2pSession ∈ service.p2pSessions[object]?, ∀ started ∈ p2pSession.session.pool[task]?,
      announces env service started → (service.dequeue object task).alive object →
        service.connected p2pSession.p2pID
  | .stop =>
    service.run → Table.isEmpty service.manager.peerGatewayNodes ∧
      Table.isEmpty service.manager.p2pID2Seq
  | _ => True

instance (service : Service φ) : ∀ event, Decidable (Orderly env service event)
  | .execute _ _ => inferInstanceAs (Decidable (∀ _ ∈ _, ∀ _ ∈ _, _ → _ → _))
  | .stop => inferInstanceAs (Decidable (_ → _ ∧ _))
  | .start | .onConnect .. | .heartBeat _ | .asyncSendMessageByNodeID .. | .retain _ | .release _
  | .sendRespMessageBySession .. | .session .. | .onDisconnect _ | .registerFrontService ..
  | .unregisterFrontService .. => inferInstanceAs (Decidable True)

omit [DecidableEq φ] in
theorem Sound.handled (sound : service.Sound) {object : Nat} {p2pSession : P2PSession}
    {task : Task Nat} (present : service.p2pSessions[object]? = some p2pSession)
    (orderly : announces env service task → service.alive object →
      service.connected p2pSession.p2pID)
    (handled : Handled env service after object p2pSession.p2pID task) : after.Sound := by
  cases handled with
  | still still keeps => exact sound.still still fun p2pID forgotten => .inl (keeps p2pID forgotten)
  | receives announced alive still others =>
    apply sound.still still
    intro other forgotten
    by_cases same : other = p2pSession.p2pID
    · rw [same]
      exact .inr (orderly announced alive)
    · exact .inl (others other same forgotten)
  | disconnects disconnects removed =>
    have named : service.entry object = some (p2pSession.p2pID, p2pSession.run) := by
      unfold entry
      rw [present]
      rfl
    exact sound.disconnects disconnects named removed

theorem Sound.step (sound : service.Sound) {event : Event φ} (orderly : Orderly env service event)
    (taken : Service.step env service event = some after) : after.Sound := by
  cases step_outcome env taken with
  | still event still keeps =>
    exact sound.still still fun p2pID forgotten => .inl (keeps p2pID forgotten)
  | connects e p2pID endpoint session connects keeps => exact sound.connects connects keeps
  | stops run stops keeps =>
    apply sound.stops stops
    intro p2pID
    apply keeps
    obtain ⟨peers, seqs⟩ := orderly run
    refine ⟨fun groupID nodeID held => ?_, Table.isEmpty_iff.mp seqs p2pID⟩
    obtain ⟨nodes, _, found, _⟩ := Index.holds_iff.mp held
    rw [Table.isEmpty_iff.mp peers groupID] at found
    cases found
  | executes object task p2pSession started present found handled =>
    have quiet := dequeued service object task
    have left : (service.dequeue object task).Sound :=
      sound.still (quiet.still rfl) fun p2pID forgotten => .inl (quiet.keeps p2pID forgotten)
    exact left.handled env (dequeue_present present) (fun announced alive =>
      (quiet.still rfl).connected sound (orderly p2pSession present started found announced alive))
      handled
  | erases pending e object found erases keeps => exact sound.erases erases keeps

end Messages

structure Initial (service : Service φ) : Prop where
  sessions : service.sessions = ∅
  disconnecting : service.disconnecting = []
  peerGatewayNodes : service.manager.peerGatewayNodes = ∅
  p2pID2Seq : service.manager.p2pID2Seq = ∅

def Settled (service : Service φ) (p2pID : P2pID) : Prop :=
  ∀ object p2pSession, service.p2pSessions[object]? = some p2pSession →
    p2pSession.p2pID = p2pID →
      p2pSession.session.pool = [] ∧ ∀ pending ∈ service.disconnecting, pending.2 ≠ object

def NoRouteSurvives (service : Service φ) : Prop :=
  ∀ p2pID, service.sessions.lookup p2pID = none → service.Settled p2pID →
    service.manager.Forgotten p2pID

theorem Initial.sound (initial : service.Initial) : service.Sound := by
  refine ⟨?_, ?_, ?_⟩
  · intro p2pID object found
    rw [initial.sessions] at found
    cases found
  · intro p2pID
    left
    unfold GatewayNodeManager.Forgotten
    rw [initial.peerGatewayNodes, initial.p2pID2Seq]
    exact ⟨fun groupID nodeID => Index.holds_empty groupID nodeID p2pID, rfl⟩
  · intro pending member
    rw [initial.disconnecting] at member
    cases member

/-- In an orderly run only peers with a running session have routes, so none survives. -/
theorem noRouteSurvives [DecidableEq φ] (env : Environment Key) (fresh : Service φ)
    (events : List (Event φ)) {last : Service φ} (initial : fresh.Initial)
    (orderly : Transition.Meets (step env) (Orderly env) fresh events)
    (ran : Transition.run (step env) fresh events = some last) : last.NoRouteSurvives := by
  have sound : last.Sound :=
    Transition.invariant_of_meets (step env)
      (fun _ _ _ sound orderly taken => sound.step env orderly taken) initial.sound orderly ran
  intro p2pID absent _
  refine (sound.routed p2pID).resolve_right fun connected => ?_
  obtain ⟨object, found, _⟩ := connected_iff.mp connected
  rw [absent] at found
  cases found

def nodeList : Json :=
  GatewayNodeManager.nodeListDocument 2
    ((∅ : NodeIDsMap).insert [103] ((∅ : KeySet StdString).insert [49] ()))

def responseNodeIDs : P2PMessage :=
  { packetType := 4, seq := 5, payload := (JsonCpp.reading nodeList).write nodeList }

/-- The notification of the drop overtakes a node list, and the callback of a request keeps the
    object until the node list is handled. -/
def lateNodeList : List (Event Nat) :=
  [.onConnect Session.success [112] { address := "127.0.0.1", port := 30300 } {},
    .asyncSendMessageByNodeID [112] { packetType := 7 } {} (some 0) none,
    .session 0 (.onMessage Session.success responseNodeIDs), .session 0 (.drop .tcpError),
    .execute 0 2, .onDisconnect 0, .execute 0 0, .execute 0 0]

theorem lateNodeList_survives :
    ¬ ∀ events last,
      Transition.run (step (Environment.reading nodeList)) ({} : Service Nat) events = some last →
        last.NoRouteSurvives := by
  intro forgets
  obtain ⟨last, ran, absent, pools, settled, kept⟩ : ∃ last,
      Transition.run (step (Environment.reading nodeList)) ({} : Service Nat) lateNodeList =
          some last ∧
        last.sessions.lookup [112] = none ∧
        last.p2pSessions.map (fun p2pSession => p2pSession.session.pool) = [[]] ∧
        last.disconnecting = [] ∧ last.manager.p2pID2Seq.lookup [112] = some 2 :=
    ⟨_, rfl, rfl, rfl, rfl, rfl⟩
  have forgotten := forgets lateNodeList last ran [112] absent (by
    intro object p2pSession found _
    have member : p2pSession.session.pool ∈
        last.p2pSessions.map fun p2pSession => p2pSession.session.pool :=
      List.mem_map_of_mem (List.mem_of_getElem? found)
    rw [pools] at member
    rw [settled]
    exact ⟨List.mem_singleton.mp member, fun _ none => absurd none List.not_mem_nil⟩)
  rw [forgotten.2] at kept
  cases kept

def promptNodeList : List (Event Nat) :=
  [.onConnect Session.success [112] { address := "127.0.0.1", port := 30300 } {},
    .asyncSendMessageByNodeID [112] { packetType := 7 } {} (some 0) none,
    .session 0 (.onMessage Session.success responseNodeIDs), .session 0 (.drop .tcpError),
    .execute 0 0, .execute 0 0, .execute 0 0, .onDisconnect 0]

theorem promptNodeList_noRouteSurvives :
    ∃ last, Transition.run (step (Environment.reading nodeList)) ({} : Service Nat) promptNodeList =
        some last ∧ last.NoRouteSurvives :=
  ⟨_, rfl, noRouteSurvives (Environment.reading nodeList) {} promptNodeList ⟨rfl, rfl, rfl, rfl⟩
    (by decide) rfl⟩

end Service

end BcosGateway

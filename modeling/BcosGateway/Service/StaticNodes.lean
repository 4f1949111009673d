import BcosGateway.Service.Sessions

/-! The labels of the static nodes, which tell `heartBeat` where it need not connect. -/

namespace BcosGateway.Service

variable {φ Key : Type}

section Labels

variable (service : Service φ)

def heartBeatConnects : List NodeIPEndpoint :=
  if !service.run then []
  else service.staticNodes.entries.filterMap fun it =>
    if it.2 = service.nodeID then none
    else if !it.2.isEmpty && service.connected it.2 then none
    else some it.1

def Labelled (endpoint : NodeIPEndpoint) (p2pID : P2pID) : Prop :=
  service.staticNodes.lookup endpoint = some p2pID

def LiveLabels : Prop :=
  ∀ endpoint p2pID, service.Labelled endpoint p2pID →
    p2pID = [] ∨ p2pID = service.nodeID ∨ p2pID ∈ service.sessions

/-- What an event that ends sessions has to find: `stop` no label of a peer, and the end of a
    disconnect one label of the peer at most, and none if the session was a duplicate. -/
def LeavesNoLabel : Event φ → Prop
  | .stop => service.run = true → ∀ endpoint p2pID, service.Labelled endpoint p2pID →
    p2pID = [] ∨ p2pID = service.nodeID
  | .onDisconnect pending => ∀ e object p2pID, service.disconnecting[pending]? = some (e, object) →
    service.sessions.lookup p2pID = some object → p2pID ≠ [] →
      ∀ first second, service.Labelled first p2pID → service.Labelled second p2pID →
        first = second ∧ e.errorCode ≠ P2PExceptionType.duplicateSession
  | _ => True

variable {service} {after : Service φ}

theorem mem_heartBeatConnects (endpoint : NodeIPEndpoint) :
    endpoint ∈ service.heartBeatConnects ↔ service.run = true ∧ ∃ p2pID,
      service.Labelled endpoint p2pID ∧ p2pID ≠ service.nodeID ∧
        ¬ (p2pID ≠ [] ∧ service.connected p2pID = true) := by
  unfold heartBeatConnects Labelled
  cases service.run with
  | false => simp
  | true =>
    simp only [Bool.not_true, Bool.false_eq_true, if_false, List.mem_filterMap, true_and]
    constructor
    · rintro ⟨⟨found, p2pID⟩, member, kept⟩
      split at kept
      · cases kept
      rename_i foreign
      split at kept
      · cases kept
      rename_i unconnected
      cases kept
      refine ⟨p2pID, AList.mem_lookup_iff.mpr member, foreign, ?_⟩
      simpa using unconnected
    · rintro ⟨p2pID, labelled, foreign, unconnected⟩
      refine ⟨⟨endpoint, p2pID⟩, AList.mem_lookup_iff.mp labelled, ?_⟩
      rw [if_neg foreign, if_neg]
      simpa using unconnected

theorem labelled_updateStaticNodes (service : Service φ) (endpoint other : NodeIPEndpoint)
    (p2pID label : P2pID) :
    (service.updateStaticNodes endpoint p2pID).Labelled other label ↔
      if other = endpoint then label = p2pID ∧ other ∈ service.staticNodes
      else service.Labelled other label := by
  unfold Labelled updateStaticNodes
  rw [Table.lookup_replace_if]
  split
  · rename_i same
    rw [same, ← AList.lookup_isSome]
    cases service.staticNodes.lookup endpoint with
    | none => simp
    | some before => simp [eq_comm]
  · rfl

theorem LiveLabels.updateStaticNodes (live : service.LiveLabels) (endpoint : NodeIPEndpoint)
    {p2pID : P2pID} (known : p2pID = service.nodeID ∨ p2pID ∈ service.sessions) :
    (service.updateStaticNodes endpoint p2pID).LiveLabels := by
  intro other label labelled
  rw [labelled_updateStaticNodes] at labelled
  split at labelled
  · rw [labelled.1]
    exact .inr known
  · exact live other label labelled

theorem LiveLabels.insert (live : service.LiveLabels) (endpoint : NodeIPEndpoint) (p2pID : P2pID)
    (object : Nat) :
    ({ service.updateStaticNodes endpoint p2pID with
      sessions := service.sessions.insert p2pID object } : Service φ).LiveLabels := by
  intro other label labelled
  replace labelled := (labelled_updateStaticNodes service endpoint other p2pID label).mp labelled
  split at labelled
  · exact .inr (.inr ((AList.mem_insert _).mpr (.inl labelled.1)))
  · rcases live other label labelled with empty | own | member
    · exact .inl empty
    · exact .inr (.inl own)
    · exact .inr (.inr ((AList.mem_insert _).mpr (.inr member)))

/-- `clearStaticNode` clears one label of the peer if there is one. -/
theorem clearStaticNode_spec (service : Service φ) (p2pID : P2pID) :
    (service.clearStaticNode p2pID = service ∧ ∀ endpoint, ¬ service.Labelled endpoint p2pID) ∨
      ∃ cleared, service.Labelled cleared p2pID ∧
        service.clearStaticNode p2pID = service.updateStaticNodes cleared [] := by
  unfold clearStaticNode
  cases found : service.staticNodes.entries.find? fun entry => entry.2 = p2pID with
  | none =>
    refine .inl ⟨rfl, fun endpoint labelled => ?_⟩
    have absent := List.find?_eq_none.mp found ⟨endpoint, p2pID⟩ (AList.mem_lookup_iff.mp labelled)
    exact absent (decide_eq_true rfl)
  | some entry =>
    obtain ⟨cleared, label⟩ := entry
    have same : label = p2pID := by simpa using List.find?_some found
    refine .inr ⟨cleared, ?_, rfl⟩
    rw [← same]
    exact AList.mem_lookup_iff.mpr (List.mem_of_find?_eq_some found)

/-- Without the session of a peer the labels are live if none of them is the peer. -/
theorem LiveLabels.erase_iff (live : service.LiveLabels) (after : Service φ) {p2pID : P2pID}
    (foreign : p2pID ≠ service.nodeID) (nodeID : after.nodeID = service.nodeID)
    (sessions : after.sessions = service.sessions.erase p2pID)
    (cleared : ∀ endpoint label, after.Labelled endpoint label →
      label = [] ∨ service.Labelled endpoint label) :
    after.LiveLabels ↔ (p2pID ≠ [] → ∀ endpoint, ¬ after.Labelled endpoint p2pID) := by
  unfold LiveLabels
  rw [nodeID, sessions]
  constructor
  · intro left nonempty endpoint labelled
    rcases left endpoint p2pID labelled with empty | own | member
    · exact nonempty empty
    · exact foreign own
    · exact (AList.mem_erase.mp member).1 rfl
  · intro none endpoint label labelled
    rcases cleared endpoint label labelled with empty | before
    · exact .inl empty
    rcases live endpoint label before with empty | own | member
    · exact .inl empty
    · exact .inr (.inl own)
    by_cases empty : label = []
    · exact .inl empty
    · refine .inr (.inr (AList.mem_erase.mpr ⟨?_, member⟩))
      rintro rfl
      exact none empty endpoint labelled

/-- Clearing one label of a peer clears them all if there is no other. -/
theorem clearStaticNode_unlabels_iff (service : Service φ) {p2pID : P2pID} (nonempty : p2pID ≠ []) :
    (∀ endpoint, ¬ (service.clearStaticNode p2pID).Labelled endpoint p2pID) ↔
      ∀ first second, service.Labelled first p2pID → service.Labelled second p2pID →
        first = second := by
  rcases clearStaticNode_spec service p2pID with ⟨same, none⟩ | ⟨cleared, was, clears⟩
  · rw [same]
    exact iff_of_true none fun first _ labelled _ => absurd labelled (none first)
  rw [clears]
  simp only [labelled_updateStaticNodes]
  constructor
  · intro none first second labelledFirst labelledSecond
    have only (endpoint : NodeIPEndpoint) (labelled : service.Labelled endpoint p2pID) :
        endpoint = cleared := by
      by_contra apart
      have left := none endpoint
      rw [if_neg apart] at left
      exact left labelled
    exact (only first labelledFirst).trans (only second labelledSecond).symm
  · intro single endpoint
    split
    · exact fun now => nonempty now.1
    · rename_i apart
      exact fun labelled => apart (single endpoint cleared labelled was)

theorem clearStaticNode_labelled {p2pID label : P2pID} {endpoint : NodeIPEndpoint}
    (labelled : (service.clearStaticNode p2pID).Labelled endpoint label) :
    label = [] ∨ service.Labelled endpoint label := by
  rcases clearStaticNode_spec service p2pID with ⟨same, _⟩ | ⟨cleared, _, clears⟩
  · rw [same] at labelled
    exact .inr labelled
  · rw [clears, labelled_updateStaticNodes] at labelled
    split at labelled
    · exact .inl labelled.1
    · exact .inr labelled

theorem LiveLabels.eraseSession_iff (live : service.LiveLabels) {e : NetworkException} {object : Nat}
    {p2pSession : P2PSession} (present : service.p2pSessions[object]? = some p2pSession)
    (foreign : p2pSession.p2pID ≠ service.nodeID)
    (held : service.sessions.lookup p2pSession.p2pID = some object) :
    (service.eraseSession e object).LiveLabels ↔ (p2pSession.p2pID ≠ [] → ∀ first second,
      service.Labelled first p2pSession.p2pID → service.Labelled second p2pSession.p2pID →
        first = second ∧ e.errorCode ≠ P2PExceptionType.duplicateSession) := by
  simp only [eraseSession, present, held, if_true]
  generalize removed : { service with sessions := service.sessions.erase p2pSession.p2pID } = erased
  have sessions : erased.sessions = service.sessions.erase p2pSession.p2pID := by rw [← removed]
  have nodeID : erased.nodeID = service.nodeID := by rw [← removed]
  have labels (endpoint : NodeIPEndpoint) (label : P2pID) :
      erased.Labelled endpoint label ↔ service.Labelled endpoint label := by rw [← removed]; rfl
  split
  · rename_i duplicate
    refine (live.erase_iff erased foreign nodeID sessions fun endpoint label labelled =>
      .inr ((labels endpoint label).mp labelled)).trans (forall_congr' fun nonempty => ?_)
    simp only [labels]
    constructor
    · exact fun none first _ labelled _ => absurd labelled (none first)
    · exact fun none endpoint labelled => (none endpoint endpoint labelled labelled).2 duplicate
  · rename_i ended
    have quiet := quiet_clearStaticNode erased p2pSession.p2pID
    refine (live.erase_iff (erased.clearStaticNode p2pSession.p2pID) foreign
      ((clearStaticNode_nodeID erased _).trans nodeID) (quiet.sessions.trans sessions)
      fun endpoint label labelled => ?_).trans (forall_congr' fun nonempty => ?_)
    · rw [← labels]
      exact clearStaticNode_labelled labelled
    · rw [clearStaticNode_unlabels_iff erased nonempty]
      simp only [labels, ne_eq, ended, not_false_eq_true, and_true]

end Labels

section Steps

variable [DecidableEq φ] {service after : Service φ} (env : Environment Key)

section Reads

variable {α : Type} {read : Service φ → α} (steady : Steady read)

include steady

theorem onMessage_reads {object : Nat} {e : NetworkException} {message : Option P2PMessage}
    {actions : List (Action φ Key)}
    (ran : service.onMessage env object e message = .ok (after, actions)) :
    read after = read service := by
  unfold Service.onMessage at ran
  split at ran
  · cases ran
    rfl
  split at ran
  · cases ran
    have stopped := modifyP2PSession_reads steady service object fun p2pSession =>
      p2pSession.stop .userReason
    unfold Service.onDisconnect
    split
    · exact stopped
    · exact (steady _ _ _ _ _ _ _).trans stopped
  split at ran
  · obtain ⟨⟨manager, actions⟩, _, rest⟩ := bind_eq_ok.mp ran
    cases rest
    exact (performAll_reads steady env { service with manager } object actions).trans
      (steady service service.run service.p2pSessions service.seq manager service.disconnecting
        service.failures)
  · cases ran

theorem execute_reads {object : Nat} {task : Task Nat}
    (ran : service.execute env object task = some after) : read after = read service := by
  cases task with
  | failure callback e =>
    cases ran
    rfl
  | response callback e message =>
    cases ran
    exact modifyP2PSession_reads steady service object _
  | timeout callback seq =>
    cases ran
    exact modifyP2PSession_reads steady service object _
  | finish callback seq =>
    cases ran
    exact modifyP2PSession_reads steady service object _
  | handler e message =>
    simp only [Service.execute] at ran
    split at ran
    · cases ran
    · rename_i handled
      cases ran
      exact onMessage_reads env steady handled

/-- What is steady changes with a connect, a disconnect or a stop only. -/
theorem step_reads {event : Event φ} (taken : step env service event = some after) :
    (∃ e p2pID endpoint session, event = .onConnect e p2pID endpoint session) ∨ event = .stop ∨
      (∃ pending, event = .onDisconnect pending) ∨ read after = read service := by
  have reads (same : read after = read service) :
      (∃ e p2pID endpoint session, event = .onConnect e p2pID endpoint session) ∨ event = .stop ∨
        (∃ pending, event = .onDisconnect pending) ∨ read after = read service :=
    .inr (.inr (.inr same))
  cases event with
  | start =>
    cases taken
    exact reads (start_reads steady service)
  | stop => exact .inr (.inl rfl)
  | onConnect e p2pID endpoint session => exact .inl ⟨e, p2pID, endpoint, session, rfl⟩
  | onDisconnect pending => exact .inr (.inr (.inl ⟨pending, rfl⟩))
  | heartBeat object =>
    simp only [step] at taken
    split at taken
    · cases taken
      exact reads (heartBeat_reads steady env service object)
    · cases taken
  | asyncSendMessageByNodeID nodeID message options callback thrown =>
    cases taken
    exact reads (asyncSendMessageByNodeID_reads steady env service nodeID message options callback
      thrown)
  | retain object =>
    simp only [step] at taken
    split at taken
    · cases taken
      exact reads (modifyP2PSession_reads steady service object _)
    · cases taken
  | release object =>
    cases taken
    exact reads (modifyP2PSession_reads steady service object _)
  | sendRespMessageBySession object payload request =>
    simp only [step] at taken
    split at taken
    · cases taken
      exact reads (modifyP2PSession_reads steady service object _)
    · cases taken
  | session object event =>
    cases taken
    exact reads (modifyP2PSession_reads steady service object _)
  | execute object task =>
    simp only [step] at taken
    split at taken
    · cases taken
    split at taken
    · cases taken
    · have dequeued := modifyP2PSession_reads steady service object fun p2pSession =>
        { p2pSession with
          session := { p2pSession.session with pool := p2pSession.session.pool.eraseIdx task } }
      exact reads ((execute_reads env steady taken).trans dequeued)
  | registerFrontService groupID nodeID frontService =>
    cases taken
    exact reads (steady service service.run service.p2pSessions service.seq _ service.disconnecting
      service.failures)
  | unregisterFrontService groupID nodeID =>
    cases taken
    exact reads (steady service service.run service.p2pSessions service.seq _ service.disconnecting
      service.failures)

end Reads

def labelling (service : Service φ) : P2pID × Table P2pID Nat × Table NodeIPEndpoint P2pID :=
  (service.nodeID, service.sessions, service.staticNodes)

omit [DecidableEq φ] in
theorem steady_labelling : Steady (labelling (φ := φ)) := fun _ _ _ _ _ _ _ => rfl

omit [DecidableEq φ] in
theorem LiveLabels.congr (live : service.LiveLabels) (same : labelling after = labelling service) :
    after.LiveLabels := by
  obtain ⟨nodeID, rest⟩ := Prod.mk.inj same
  obtain ⟨sessions, staticNodes⟩ := Prod.mk.inj rest
  intro endpoint p2pID labelled
  unfold Labelled at labelled
  rw [staticNodes] at labelled
  rw [nodeID, sessions]
  exact live endpoint p2pID labelled

omit [DecidableEq φ] in
theorem LiveLabels.onConnect (live : service.LiveLabels) (e : NetworkException) (p2pID : P2pID)
    (endpoint : NodeIPEndpoint) (session : Session Nat) :
    (service.onConnect env e p2pID endpoint session).LiveLabels := by
  unfold Service.onConnect
  split
  · exact live
  split
  · rename_i duplicate
    obtain ⟨object, found, _⟩ := connected_iff.mp duplicate
    exact live.updateStaticNodes endpoint
      (.inr (AList.lookup_isSome.mp (Option.isSome_iff_exists.mpr ⟨object, found⟩)))
  split
  · exact live.updateStaticNodes endpoint (.inl rfl)
  have pushed : ({ service with p2pSessions := service.p2pSessions ++
      [{ p2pID, endpoint, session := { session with messageHandler := true } }] } :
      Service φ).LiveLabels := live
  have started := pushed.congr
    (startP2PSession_reads steady_labelling env _ service.p2pSessions.length)
  exact started.insert endpoint p2pID service.p2pSessions.length

omit [DecidableEq φ] in
theorem LiveLabels.stop_iff (live : service.LiveLabels) :
    service.stop.LiveLabels ↔ service.LeavesNoLabel .stop := by
  unfold Service.stop LeavesNoLabel
  split
  · rename_i runs
    have stopped (cut : Service φ) :=
      stopAll_reads steady_labelling cut .clientQuit cut.sessions.values
    obtain ⟨nodeID, rest⟩ := Prod.mk.inj ((stopped _).trans
      (setNetwork_reads steady_labelling { service with run := false } false))
    obtain ⟨_, staticNodes⟩ := Prod.mk.inj rest
    unfold LiveLabels Labelled
    simp only [runs, true_implies]
    rw [staticNodes, nodeID]
    refine forall_congr' fun endpoint => forall_congr' fun p2pID => forall_congr' fun _ => ?_
    exact or_congr_right (or_iff_left (AList.notMem_empty p2pID))
  · rename_i stopped
    exact iff_of_true live fun runs => absurd runs stopped

omit [DecidableEq φ] in
theorem LiveLabels.onDisconnect_iff (live : service.LiveLabels) (stored : service.Stored)
    {pending : Nat} {e : NetworkException} {object : Nat}
    (found : service.disconnecting[pending]? = some (e, object)) :
    (({ service with disconnecting := service.disconnecting.eraseIdx pending } :
      Service φ).eraseSession e object).LiveLabels ↔
        service.LeavesNoLabel (.onDisconnect pending : Event φ) := by
  obtain ⟨p2pID, ended⟩ := stored.ended (e, object) (List.mem_of_getElem? found)
  obtain ⟨p2pSession, present, entry⟩ := Option.map_eq_some_iff.mp ended
  obtain ⟨rfl, _⟩ := Prod.mk.inj entry
  -- the only event that waits under this number, and the only peer of its session
  have only (e' : NetworkException) (object' : Nat) (p2pID : P2pID)
      (found' : service.disconnecting[pending]? = some (e', object'))
      (held' : service.sessions.lookup p2pID = some object') :
      e' = e ∧ object' = object ∧ p2pID = p2pSession.p2pID := by
    rw [found] at found'
    cases found'
    obtain ⟨run, named⟩ := (stored.named p2pID object held').1
    rw [ended] at named
    cases named
    exact ⟨rfl, rfl, rfl⟩
  by_cases held : service.sessions.lookup p2pSession.p2pID = some object
  · have foreign := (stored.named p2pSession.p2pID object held).2
    have pendingLive : ({ service with
      disconnecting := service.disconnecting.eraseIdx pending } : Service φ).LiveLabels := live
    refine (pendingLive.eraseSession_iff present foreign held).trans ⟨?_, fun single => ?_⟩
    · intro single e' object' p2pID found' held'
      obtain ⟨rfl, rfl, rfl⟩ := only e' object' p2pID found' held'
      exact single
    · exact single e object p2pSession.p2pID found held
  · have kept : ({ service with disconnecting := service.disconnecting.eraseIdx pending } :
        Service φ).eraseSession e object =
          { service with disconnecting := service.disconnecting.eraseIdx pending } := by
      simp only [eraseSession, present, held, if_false]
    rw [kept]
    refine iff_of_true live fun e' object' p2pID found' held' => ?_
    obtain ⟨rfl, rfl, rfl⟩ := only e' object' p2pID found' held'
    exact absurd held' held

theorem step_live_iff (stored : service.Stored) (live : service.LiveLabels) {event : Event φ}
    (taken : step env service event = some after) :
    after.LiveLabels ↔ service.LeavesNoLabel event := by
  cases event with
  | stop =>
    cases taken
    exact live.stop_iff
  | onConnect e p2pID endpoint session =>
    cases taken
    exact iff_of_true (live.onConnect env e p2pID endpoint session) trivial
  | onDisconnect pending =>
    simp only [step] at taken
    cases found : service.disconnecting[pending]? with
    | none =>
      rw [found] at taken
      cases taken
    | some waiting =>
      rw [found] at taken
      cases taken
      exact live.onDisconnect_iff stored found
  | _ =>
    rcases step_reads env steady_labelling taken with ⟨_, _, _, _, other⟩ | other | ⟨_, other⟩ | same
    · cases other
    · cases other
    · cases other
    · exact iff_of_true (live.congr same) trivial

/-- In every run, the labels are live all the way if and only if no session that ends leaves a
    label behind. An endpoint with the label of a peer that had no session is then tried again by
    every later heartbeat that finds the label. -/
theorem labels_live_iff (fresh : Service φ) (events : List (Event φ)) {last : Service φ}
    (initial : fresh.Fresh)
    (unlabelled : ∀ endpoint p2pID, fresh.Labelled endpoint p2pID → p2pID = [])
    (ran : Transition.run (step env) fresh events = some last) :
    ((∀ service, Transition.Passes (step env) fresh events service → service.LiveLabels) ↔
      Transition.Meets (step env) LeavesNoLabel fresh events) ∧
    (Transition.Meets (step env) LeavesNoLabel fresh events →
      ∀ earlier, Transition.Passes (step env) fresh events earlier →
        ∀ endpoint p2pID, earlier.Labelled endpoint p2pID → p2pID ≠ earlier.nodeID →
          p2pID ∉ earlier.sessions →
            ∀ more later, Transition.run (step env) earlier more = some later →
              later.run = true → later.Labelled endpoint p2pID → p2pID ≠ later.nodeID →
                endpoint ∈ later.heartBeatConnects) := by
  have live : fresh.LiveLabels := fun endpoint p2pID labelled =>
    .inl (unlabelled endpoint p2pID labelled)
  have always := Transition.passes_iff_meets
    (fun _ _ _ stored taken => Stored.step env stored taken)
    (fun _ _ _ stored live taken => step_live_iff env stored live taken) initial.stored live ran
  refine ⟨always, fun meets earlier passes endpoint p2pID was foreign absent => ?_⟩
  intro more later _ runs labelled own
  rw [mem_heartBeatConnects]
  refine ⟨runs, p2pID, labelled, own, fun skipped => ?_⟩
  rcases always.mpr meets earlier passes endpoint p2pID was with empty | self | member
  · exact skipped.1 empty
  · exact foreign self
  · exact absent member

end Steps

section TwoEndpoints

def firstEndpoint : NodeIPEndpoint := { address := "127.0.0.1", port := 30300 }
def secondEndpoint : NodeIPEndpoint := { address := "127.0.0.1", port := 30301 }

def dialling : Service Nat :=
  { staticNodes := (∅ : Table NodeIPEndpoint P2pID).insert secondEndpoint [] |>.insert firstEndpoint [] }

/-- Both endpoints lead to the peer, the session ends, and its disconnect is handled. -/
def reachedTwice : List (Event Nat) :=
  [.onConnect Session.success [112] firstEndpoint {}, .onConnect Session.success [112] secondEndpoint {},
    .session 0 (.drop .tcpError), .execute 0 0, .onDisconnect 0]

def reachedOnce : List (Event Nat) := [.onConnect Session.success [112] firstEndpoint {}]

theorem reachedOnce_live :
    ∃ service, Transition.run (step (Environment.reading .null)) dialling reachedOnce =
        some service ∧
      service.Labelled firstEndpoint [112] ∧ service.LiveLabels := by
  refine ⟨_, rfl, rfl, ?_⟩
  have unlabelled : ∀ endpoint p2pID, dialling.Labelled endpoint p2pID → p2pID = [] := by
    intro endpoint p2pID labelled
    unfold Labelled dialling at labelled
    rw [Table.lookup_insert_if, Table.lookup_insert_if] at labelled
    split at labelled
    · exact (Option.some.inj labelled).symm
    split at labelled
    · exact (Option.some.inj labelled).symm
    · cases labelled
  exact (labels_live_iff (Environment.reading .null) dialling reachedOnce ⟨rfl, rfl, rfl⟩ unlabelled
    rfl).1.mpr ⟨trivial, trivial⟩ _ (.of_run rfl)

/-- The second endpoint keeps the label, and is not tried when the peer is back on the first. -/
theorem reachedTwice_stale :
    ∃ left later,
      Transition.run (step (Environment.reading .null)) dialling reachedTwice = some left ∧
      left.Labelled secondEndpoint [112] ∧ [112] ≠ left.nodeID ∧ [112] ∉ left.sessions ∧
      step (Environment.reading .null) left (.onConnect Session.success [112] firstEndpoint {}) =
        some later ∧
      later.run = true ∧ secondEndpoint ∉ later.heartBeatConnects :=
  ⟨_, _, rfl, rfl, by decide, by decide, rfl, rfl, by decide⟩

end TwoEndpoints

end BcosGateway.Service

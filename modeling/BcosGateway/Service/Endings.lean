import BcosGateway.Service.Sessions
import BcosGateway.Session.Effects
import BcosGateway.Lib.Places

/-! Under a network that is up, a session is open until it is dropped, and its end is told. -/

namespace BcosGateway

namespace Session

variable {session after : Session Nat}

structure Goes (session after : Session Nat) : Prop where
  network : after.haveNetwork = session.haveNetwork
  handler : after.messageHandler = session.messageHandler
  state : (after.actived = session.actived ∧ after.connected = session.connected) ∨
    (after.actived = false ∧ after.connected = false ∧
      (session.messageHandler = true → ∃ reason, .handler (dropException reason) none ∈ after.pool))
  pool : ∀ task ∈ session.pool, task ∈ after.pool

theorem Goes.on (network : after.haveNetwork = session.haveNetwork)
    (handler : after.messageHandler = session.messageHandler)
    (actived : after.actived = session.actived) (connected : after.connected = session.connected)
    (tasks : List (Task Nat)) (pool : after.pool = session.pool ++ tasks) : Goes session after := by
  refine ⟨network, handler, .inl ⟨actived, connected⟩, ?_⟩
  intro task member
  rw [pool]
  exact List.mem_append_left tasks member

theorem Goes.refl (session : Session Nat) : Goes session session :=
  ⟨rfl, rfl, .inl ⟨rfl, rfl⟩, fun _ => id⟩

theorem goes_drop (session : Session Nat) (reason : DisconnectReason) :
    Goes session (session.drop reason) := by
  cases actived : session.actived with
  | false =>
    rw [drop_inactived reason actived]
    exact Goes.refl session
  | true =>
    obtain ⟨timers, dropped⟩ := drop_actived reason actived
    rw [dropped]
    refine ⟨rfl, rfl, .inr ⟨rfl, rfl, ?_⟩, fun task => List.mem_append_left _⟩
    intro handler
    refine ⟨reason, List.mem_append_right _ (List.mem_append_right _ ?_)⟩
    rw [notification, if_pos handler]
    exact List.mem_singleton_self _

theorem goes_write (session : Session Nat) : Goes session session.write := by
  cases active : session.isActived with
  | true =>
    obtain ⟨writeQueue, writing, written, same⟩ := write_active active
    rw [same]
    exact Goes.on rfl rfl rfl rfl [] (List.append_nil _).symm
  | false =>
    unfold write
    rw [active]
    exact Goes.refl session

theorem goes_asyncSendMessage (fw : Framework) (session : Session Nat) (message : P2PMessage)
    (options : Options) (callback : Option Nat) :
    Goes session (session.asyncSendMessage fw message options callback) := by
  cases active : session.isActived with
  | false =>
    rw [asyncSendMessage_inactive fw message options active]
    exact Goes.on rfl rfl rfl rfl _ rfl
  | true =>
    cases callback with
    | none =>
      obtain ⟨writeQueue, writing, written, same⟩ :=
        asyncSendMessage_silent fw message options active
      rw [same]
      exact Goes.on rfl rfl rfl rfl [] (List.append_nil _).symm
    | some callback =>
      obtain ⟨timers, handler, writeQueue, writing, written, same⟩ :=
        asyncSendMessage_active fw message options active callback
      rw [same]
      exact Goes.on rfl rfl rfl rfl [] (List.append_nil _).symm

theorem goes_onMessage (session : Session Nat) (e : NetworkException) (message : P2PMessage) :
    Goes session (session.onMessage e message) := by
  rcases session.onMessage_cases e message with ⟨_, _, _, same⟩ | ⟨_, _, _, same⟩
  · rw [same]
    exact Goes.on rfl rfl rfl rfl _ rfl
  · rw [same]
    exact Goes.on rfl rfl rfl rfl _ rfl

theorem goes_onTimeout (session : Session Nat) (error : Bool) (seq : UInt32) :
    Goes session (session.onTimeout error seq) := by
  rcases session.onTimeout_cases error seq with ⟨_, _, _, same⟩ | ⟨_, same⟩
  · rw [same]
    exact Goes.on rfl rfl rfl rfl _ rfl
  · rw [same]
    exact Goes.refl session

theorem goes_onWrite (session : Session Nat) (ec : Bool) : Goes session (session.onWrite ec) := by
  unfold onWrite
  split
  · exact Goes.refl session
  · split
    · exact goes_drop session .tcpError
    · split
      · have written := goes_write { session with writing := false }
        exact ⟨written.network, written.handler, written.state, written.pool⟩
      · exact goes_write session

theorem goes_onIdle (session : Session Nat) (aborted : Bool) :
    Goes session (session.onIdle aborted) := by
  unfold onIdle
  split
  · exact Goes.refl session
  · split
    · exact goes_drop session .idleWaitTimeout
    · exact Goes.refl session

end Session

def SessionEvent.Networked : SessionEvent → Prop
  | .haveNetwork _ | .connected _ => False
  | _ => True

theorem Session.goes_take (session : Session Nat) {event : SessionEvent}
    (networked : event.Networked) : Goes session (session.take event) := by
  cases event with
  | onMessage e message => exact goes_onMessage session e message
  | onTimeout error seq => exact goes_onTimeout session error seq
  | onIdle aborted => exact goes_onIdle session aborted
  | onWrite ec => exact goes_onWrite session ec
  | drop reason => exact goes_drop session reason
  | haveNetwork network => exact networked.elim
  | connected socket => exact networked.elim

/-- The invariant of one session. Between its end and the handling of the end, the notification is
    queued. -/
structure P2PSession.Attended (p2pSession : P2PSession) : Prop where
  network : p2pSession.session.haveNetwork = true
  handler : p2pSession.session.messageHandler = true
  socket : p2pSession.session.connected = p2pSession.session.actived
  stopped : p2pSession.run = false → p2pSession.session.actived = false
  notified : p2pSession.run = true → p2pSession.session.actived = false →
    ∃ reason, .handler (Session.dropException reason) none ∈ p2pSession.session.pool

namespace P2PSession

variable {p2pSession : P2PSession}

theorem Attended.goes (attended : p2pSession.Attended) {session : Session Nat}
    (goes : Session.Goes p2pSession.session session) :
    ({ p2pSession with session } : P2PSession).Attended := by
  have network := goes.network.trans attended.network
  have handler := goes.handler.trans attended.handler
  rcases goes.state with ⟨actived, connected⟩ | ⟨actived, connected, notified⟩
  · refine ⟨network, handler, ?_, ?_, ?_⟩
    · exact connected.trans (attended.socket.trans actived.symm)
    · intro stopped
      exact actived.trans (attended.stopped stopped)
    · intro runs ended
      obtain ⟨reason, member⟩ := attended.notified runs (actived.symm.trans ended)
      exact ⟨reason, goes.pool _ member⟩
  · exact ⟨network, handler, connected.trans actived.symm, fun _ => actived,
      fun _ _ => notified attended.handler⟩

theorem Attended.isActived (attended : p2pSession.Attended) :
    p2pSession.session.isActived = p2pSession.session.actived := by
  unfold Session.isActived
  rw [attended.network, attended.socket, Bool.and_true, Bool.and_self]

theorem stop_attended (network : p2pSession.session.haveNetwork = true)
    (handler : p2pSession.session.messageHandler = true)
    (socket : p2pSession.session.connected = p2pSession.session.actived)
    (stopped : p2pSession.run = false → p2pSession.session.actived = false)
    (reason : DisconnectReason) : (p2pSession.stop reason).Attended := by
  have active : p2pSession.session.isActived = p2pSession.session.actived := by
    unfold Session.isActived
    rw [network, socket, Bool.and_true, Bool.and_self]
  unfold stop
  cases runs : p2pSession.run with
  | false =>
    have ended := stopped runs
    exact ⟨network, handler, socket, fun _ => ended, fun running => by cases runs.symm.trans running⟩
  | true =>
    simp only [↓reduceIte, active]
    cases actived : p2pSession.session.actived with
    | false => exact ⟨network, handler, socket, fun _ => actived, nofun⟩
    | true =>
      obtain ⟨timers, dropped⟩ := Session.drop_actived reason actived
      simp only [↓reduceIte, dropped]
      exact ⟨network, handler, rfl, fun _ => rfl, nofun⟩

theorem start_attended (actived : p2pSession.session.actived = false)
    (network : p2pSession.session.haveNetwork = true)
    (connected : p2pSession.session.connected = true)
    (handler : p2pSession.session.messageHandler = true) :
    ({ p2pSession with run := true, session := p2pSession.session.start } : P2PSession).Attended := by
  have started : p2pSession.session.start =
      { p2pSession.session with actived := true, reading := true } := by
    unfold Session.start Session.doRead
    simp [actived, network, connected]
  rw [started]
  exact ⟨network, handler, connected, nofun, nofun⟩

end P2PSession

namespace Service

variable {φ Key : Type} {service after : Service φ}

def Attended (service : Service φ) : Prop :=
  ∀ (object : Nat) (p2pSession : P2PSession), service.p2pSessions[object]? = some p2pSession →
    p2pSession.Attended

/-- An event under a host that keeps running: a session that connects is new, and no encoder
    throws. -/
def Networked : Event φ → Prop
  | .stop => False
  | .onConnect _ _ _ session =>
    session.actived = false ∧ session.haveNetwork = true ∧ session.connected = true
  | .asyncSendMessageByNodeID _ _ _ _ thrown => thrown = none
  | .session _ event => event.Networked
  | _ => True

theorem modifyP2PSession_attended (object : Nat) {update : P2PSession → P2PSession}
    (others : ∀ other (p2pSession : P2PSession), other ≠ object →
      service.p2pSessions[other]? = some p2pSession → p2pSession.Attended)
    (own : ∀ p2pSession, service.p2pSessions[object]? = some p2pSession →
      (update p2pSession).Attended) :
    (service.modifyP2PSession object update).Attended := by
  intro other p2pSession present
  have modified : (service.p2pSessions.modify object update)[other]? = some p2pSession := present
  rw [List.getElem?_modify] at modified
  by_cases same : object = other
  · subst same
    obtain ⟨before, held, rfl⟩ := Option.map_eq_some_iff.mp modified
    rw [if_pos rfl]
    exact own before held
  · obtain ⟨before, held, rfl⟩ := Option.map_eq_some_iff.mp modified
    rw [if_neg same]
    exact others other before (Ne.symm same) held

theorem Attended.modifyP2PSession (attended : service.Attended) (object : Nat)
    {update : P2PSession → P2PSession}
    (keeps : ∀ p2pSession : P2PSession, p2pSession.Attended → (update p2pSession).Attended) :
    (service.modifyP2PSession object update).Attended :=
  modifyP2PSession_attended object (fun other p2pSession _ => attended other p2pSession)
    fun p2pSession present => keeps p2pSession (attended object p2pSession present)

theorem Attended.modifySession (attended : service.Attended) (object : Nat)
    {update : Session Nat → Session Nat}
    (goes : ∀ session, Session.Goes session (update session)) :
    (service.modifySession object update).Attended :=
  attended.modifyP2PSession object fun _ kept => kept.goes (goes _)

theorem Attended.start (attended : service.Attended) : service.start.Attended := by
  unfold Service.start
  split
  · exact attended
  · intro object p2pSession present
    have found : (service.p2pSessions.map _)[object]? = some p2pSession := present
    rw [List.getElem?_map] at found
    obtain ⟨before, held, rfl⟩ := Option.map_eq_some_iff.mp found
    have kept := attended object before held
    exact ⟨rfl, kept.handler, kept.socket, kept.stopped, kept.notified⟩

section Steps

variable (env : Environment Key)

theorem Attended.heartBeat (attended : service.Attended) (object : Nat) :
    (service.heartBeat env object).Attended := by
  unfold Service.heartBeat
  split
  · apply attended.modifySession
    intro session
    split
    · exact Session.goes_asyncSendMessage env.fw session _ _ none
    · exact Session.Goes.refl session
  · exact attended

theorem Attended.perform (attended : service.Attended) (object : Nat) (action : Action φ Key) :
    (perform env object service action).Attended := by
  have pinned : (service.modifyP2PSession object fun p2pSession =>
      { p2pSession with pinned := p2pSession.pinned + 1 }).Attended :=
    attended.modifyP2PSession object fun _ kept =>
      ⟨kept.network, kept.handler, kept.socket, kept.stopped, kept.notified⟩
  cases action with
  | handler message => exact pinned
  | onReceiveMessage frontService groupID srcNodeID payload callback =>
    cases callback with
    | none => exact attended
    | some request => exact pinned
  | sendMessageBySession packetType payload =>
    have drawn : service.newSeq.2.Attended := attended
    exact drawn.modifySession object fun session =>
      Session.goes_asyncSendMessage env.fw session _ _ none
  | sendRespMessageBySession payload request =>
    exact attended.modifySession object fun session =>
      Session.goes_asyncSendMessage env.fw session _ _ none

theorem Attended.performAll (attended : service.Attended) (object : Nat)
    (actions : List (Action φ Key)) :
    (actions.foldl (Service.perform env object) service).Attended := by
  induction actions generalizing service with
  | nil => exact attended
  | cons action actions ih => exact ih (attended.perform env object action)

theorem startP2PSession_attended (attended : service.Attended) {p2pSession : P2PSession}
    (idle : p2pSession.run = false) (actived : p2pSession.session.actived = false)
    (network : p2pSession.session.haveNetwork = true)
    (connected : p2pSession.session.connected = true)
    (handler : p2pSession.session.messageHandler = true) :
    ({ service with p2pSessions := service.p2pSessions ++ [p2pSession] }.startP2PSession
      env service.p2pSessions.length).Attended := by
  have last : (service.p2pSessions ++ [p2pSession])[service.p2pSessions.length]? =
      some p2pSession := List.getElem?_concat_length
  unfold Service.startP2PSession
  split
  · rename_i runs
    unfold Service.actived at runs
    simp only [last, idle] at runs
    cases runs
  · apply Attended.heartBeat
    apply modifyP2PSession_attended
    · intro other held apart present
      rcases Nat.lt_or_gt_of_ne apart with before | beyond
      · have earlier : (service.p2pSessions ++ [p2pSession])[other]? = some held := present
        rw [List.getElem?_append_left before] at earlier
        exact attended other held earlier
      · have missing : (service.p2pSessions ++ [p2pSession])[other]? = none := by
          apply List.getElem?_eq_none
          rw [List.length_append, List.length_singleton]
          omega
        cases missing.symm.trans present
    · intro held present
      cases last.symm.trans present
      exact P2PSession.start_attended actived network connected handler

theorem Attended.onConnect (attended : service.Attended) (e : NetworkException) (p2pID : P2pID)
    (endpoint : NodeIPEndpoint) {session : Session Nat}
    (networked : Networked (φ := φ) (.onConnect e p2pID endpoint session)) :
    (service.onConnect env e p2pID endpoint session).Attended := by
  obtain ⟨actived, network, connected⟩ := networked
  unfold Service.onConnect
  split
  · exact attended
  split
  · exact attended
  split
  · exact attended
  simp only
  exact startP2PSession_attended env attended rfl actived network connected rfl

theorem Attended.eraseSession (attended : service.Attended) (e : NetworkException)
    (object : Nat) : (service.eraseSession e object).Attended := by
  unfold Service.eraseSession
  split
  · exact attended
  split
  · simp only
    split
    · exact attended
    · unfold clearStaticNode
      split
      · exact attended
      · exact attended
  · exact attended

theorem Attended.onDisconnect (attended : service.Attended) (e : NetworkException)
    (object : Nat) : (service.onDisconnect e object).Attended := by
  unfold Service.onDisconnect
  split
  · exact attended
  · exact attended

theorem Attended.asyncSendMessageByNodeID (attended : service.Attended) (nodeID : P2pID)
    (message : P2PMessage) (options : Options) (callback : Option Nat) :
    (service.asyncSendMessageByNodeID env nodeID message options callback none).1.Attended := by
  unfold Service.asyncSendMessageByNodeID
  split
  · exact attended
  split
  · exact attended
  split
  · simp only
    have numbered : (service.numbered message).2.Attended := by
      unfold Service.numbered
      split
      · exact attended
      · exact attended
    exact numbered.modifySession _ fun session =>
      Session.goes_asyncSendMessage env.fw session _ options callback
  · exact attended

/-- A task that does not tell of the end of a session leaves the notification of one queued. -/
theorem Attended.dequeue (attended : service.Attended) (object task : Nat)
    (harmless : ∀ (p2pSession : P2PSession) (started : Task Nat),
      service.p2pSessions[object]? = some p2pSession →
      p2pSession.session.pool[task]? = some started → p2pSession.run = true →
      ∀ reason, started ≠ .handler (Session.dropException reason) none) :
    (service.dequeue object task).Attended := by
  apply modifyP2PSession_attended
  · intro other p2pSession _ present
    exact attended other p2pSession present
  · intro p2pSession present
    have kept := attended object p2pSession present
    refine ⟨kept.network, kept.handler, kept.socket, kept.stopped, ?_⟩
    intro runs ended
    obtain ⟨reason, member⟩ := kept.notified runs ended
    refine ⟨reason, ?_⟩
    change _ ∈ p2pSession.session.pool.eraseIdx task
    cases found : p2pSession.session.pool[task]? with
    | none =>
      rw [List.eraseIdx_of_length_le (List.getElem?_eq_none_iff.mp found)]
      exact member
    | some started =>
      rcases Places.mem_eraseIdx_or found member with here | left
      · exact absurd here.symm (harmless p2pSession started present found runs reason)
      · exact left

omit env in
/-- A session that runs is in the table, so its own tasks find it. -/
theorem alive_of_runs (stored : service.Stored) {object : Nat} {p2pSession : P2PSession}
    (present : service.p2pSessions[object]? = some p2pSession) (runs : p2pSession.run = true) :
    service.alive object = true := by
  have entry : service.entry object = some (p2pSession.p2pID, true) := by
    unfold Service.entry
    rw [present, Option.map_some, runs]
  have held := stored.running p2pSession.p2pID object entry
  have listed : object ∈ service.sessions.values := Table.mem_values.mpr ⟨_, held⟩
  unfold Service.alive
  rw [List.contains_iff_mem.mpr listed]
  rfl

variable [DecidableEq φ]

theorem Attended.onMessage (attended : service.Attended) (stored : service.Stored)
    {object task : Nat} {p2pSession : P2PSession}
    (present : service.p2pSessions[object]? = some p2pSession) {e : NetworkException}
    {message : Option P2PMessage} {actions : List (Action φ Key)}
    (found : p2pSession.session.pool[task]? = some (.handler e message))
    (ran : (service.dequeue object task).onMessage env object e message = .ok (after, actions)) :
    after.Attended := by
  have kept := attended object p2pSession present
  have waiting : (service.dequeue object task).p2pSessions[object]? = some { p2pSession with
      session := { p2pSession.session with pool := p2pSession.session.pool.eraseIdx task } } :=
    dequeue_present present
  have waits : (service.dequeue object task).Stored :=
    stored.still ((dequeued service object task).still rfl)
  -- the rest of the pool, where this task was not the notification of an end
  have dequeued (apart : p2pSession.run = true →
      ∀ reason, (.handler e message : Task Nat) ≠
        .handler (Session.dropException reason) none) :
      (service.dequeue object task).Attended := by
    apply attended.dequeue
    intro held started presents finds runs
    cases present.symm.trans presents
    cases found.symm.trans finds
    exact apart runs
  unfold Service.onMessage at ran
  split at ran
  · rename_i dead
    cases ran
    apply dequeued
    intro runs
    have alive := alive_of_runs waits waiting runs
    rw [alive] at dead
    cases dead
  split at ran
  · obtain ⟨rfl, _⟩ := Prod.mk.inj (Except.ok.inj ran)
    apply Attended.onDisconnect
    apply modifyP2PSession_attended
    · intro other held apart presents
      have unchanged : (service.dequeue object task).p2pSessions[other]? =
          service.p2pSessions[other]? := by
        change (service.p2pSessions.modify object _)[other]? = _
        rw [List.getElem?_modify_ne _ _ (Ne.symm apart)]
      exact attended other held (unchanged ▸ presents)
    · intro held presents
      cases waiting.symm.trans presents
      apply P2PSession.stop_attended
      · exact kept.network
      · exact kept.handler
      · exact kept.socket
      · exact kept.stopped
  rename_i succeeded
  rw [waiting] at ran
  cases message with
  | none => cases ran
  | some message =>
    obtain ⟨⟨manager, actions⟩, _, rest⟩ := bind_eq_ok.mp ran
    cases rest
    have untouched := dequeued fun _ reason same => by cases same
    have managed : ({ service.dequeue object task with manager } : Service φ).Attended := untouched
    exact managed.performAll env object actions

theorem Attended.execute (attended : service.Attended) (stored : service.Stored)
    {object task : Nat} {p2pSession : P2PSession} {started : Task Nat}
    (present : service.p2pSessions[object]? = some p2pSession)
    (found : p2pSession.session.pool[task]? = some started)
    (ran : (service.dequeue object task).execute env object started = some after) :
    after.Attended := by
  have dequeued (apart : ∀ reason, started ≠ .handler (Session.dropException reason) none) :
      (service.dequeue object task).Attended := by
    apply attended.dequeue
    intro held other presents finds _
    cases present.symm.trans presents
    cases found.symm.trans finds
    exact apart
  cases started with
  | failure callback e =>
    cases ran
    exact dequeued fun _ => nofun
  | response callback e message =>
    cases ran
    exact (dequeued fun _ => nofun).modifySession object fun _ => .on rfl rfl rfl rfl _ rfl
  | timeout callback seq =>
    cases ran
    exact (dequeued fun _ => nofun).modifySession object fun _ => .on rfl rfl rfl rfl _ rfl
  | finish callback seq =>
    cases ran
    exact (dequeued fun _ => nofun).modifySession object fun session =>
      .on rfl rfl rfl rfl [] (List.append_nil _).symm
  | handler e message =>
    simp only [Service.execute] at ran
    cases handled : (service.dequeue object task).onMessage env object e message with
    | error fault =>
      rw [handled] at ran
      cases ran
    | ok result =>
      rw [handled] at ran
      cases ran
      exact attended.onMessage env stored present found handled

theorem Attended.step (attended : service.Attended) (stored : service.Stored) {event : Event φ}
    (networked : Networked event) (taken : Service.step env service event = some after) :
    after.Attended := by
  have pinned (object : Nat) (count : Nat → Nat) :
      (service.modifyP2PSession object fun p2pSession =>
        { p2pSession with pinned := count p2pSession.pinned }).Attended :=
    attended.modifyP2PSession object fun _ kept =>
      ⟨kept.network, kept.handler, kept.socket, kept.stopped, kept.notified⟩
  cases event with
  | start =>
    cases taken
    exact attended.start
  | stop => exact networked.elim
  | onConnect e p2pID endpoint session =>
    cases taken
    exact attended.onConnect env e p2pID endpoint networked
  | heartBeat object =>
    simp only [Service.step] at taken
    split at taken
    · cases taken
      exact attended.heartBeat env object
    · cases taken
  | asyncSendMessageByNodeID nodeID message options callback thrown =>
    cases taken
    cases networked
    exact attended.asyncSendMessageByNodeID env nodeID message options callback
  | retain object =>
    simp only [Service.step] at taken
    split at taken
    · cases taken
      exact pinned object (· + 1)
    · cases taken
  | release object =>
    cases taken
    exact pinned object (· - 1)
  | sendRespMessageBySession object payload request =>
    simp only [Service.step] at taken
    split at taken
    · cases taken
      exact attended.modifySession object fun session =>
        Session.goes_asyncSendMessage env.fw session _ _ none
    · cases taken
  | session object event =>
    cases taken
    exact attended.modifySession object fun session => session.goes_take networked
  | execute object task =>
    simp only [Service.step] at taken
    split at taken
    · cases taken
    · rename_i p2pSession present
      split at taken
      · cases taken
      · rename_i started found
        exact attended.execute env stored present found taken
  | onDisconnect pending =>
    simp only [Service.step] at taken
    split at taken
    · cases taken
    · rename_i e object found
      cases taken
      have waiting : ({ service with
        disconnecting := service.disconnecting.eraseIdx pending } : Service φ).Attended := attended
      exact waiting.eraseSession e object
  | registerFrontService groupID nodeID frontService =>
    cases taken
    exact attended
  | unregisterFrontService groupID nodeID =>
    cases taken
    exact attended

def Queued (service : Service φ) : Prop :=
  ∀ p2pID object, service.sessions.lookup p2pID = some object →
    service.entry object = some (p2pID, false) → ∃ e, (e, object) ∈ service.disconnecting

omit [DecidableEq φ] in
theorem Queued.still (queued : service.Queued) (still : Still service after) : after.Queued := by
  intro p2pID object held stopped
  rw [still.sessions] at held
  rw [still.entry] at stopped
  rw [still.disconnecting]
  exact queued p2pID object held stopped

omit [DecidableEq φ] in
theorem Queued.connects (queued : service.Queued) {p2pID : P2pID} {object : Nat}
    (connects : Connects service after p2pID object) : after.Queued := by
  intro other found held stopped
  rw [connects.entry] at stopped
  rw [connects.sessions, Table.lookup_insert_if] at held
  rw [connects.disconnecting]
  split at stopped
  · cases stopped
  · rename_i apart
    split at held
    · exact absurd (Option.some.inj held) apart
    · exact queued other found held stopped

omit [DecidableEq φ] in
theorem Queued.disconnects (queued : service.Queued) {object : Nat}
    (disconnects : Disconnects service after object) : after.Queued := by
  obtain ⟨e, waiting⟩ := disconnects.disconnecting
  obtain ⟨p2pID, run, _, entry⟩ := disconnects.entry
  intro other found held stopped
  rw [disconnects.sessions] at held
  rw [entry] at stopped
  rw [waiting]
  split at stopped
  · rename_i same
    subst same
    exact ⟨e, List.mem_append_right _ (List.mem_singleton_self _)⟩
  · obtain ⟨earlier, member⟩ := queued other found held stopped
    exact ⟨earlier, List.mem_append_left _ member⟩

omit [DecidableEq φ] in
theorem eraseSession_erased (service : Service φ) (e : NetworkException) {object : Nat}
    {p2pID : P2pID} {run : Bool} (named : service.entry object = some (p2pID, run))
    (held : service.sessions.lookup p2pID = some object) :
    (service.eraseSession e object).sessions.lookup p2pID = none := by
  obtain ⟨p2pSession, present, same⟩ := Option.map_eq_some_iff.mp named
  cases same
  have erased : (service.sessions.erase p2pSession.p2pID).lookup p2pSession.p2pID = none :=
    AList.lookup_erase _ _
  unfold Service.eraseSession
  rw [present]
  simp only [held, ↓reduceIte]
  split
  · exact erased
  · rw [(quiet_clearStaticNode _ _).sessions]
    exact erased

theorem Queued.step (queued : service.Queued) {event : Event φ}
    (taken : Service.step env service event = some after) : after.Queued := by
  cases step_outcome env taken with
  | still event still keeps => exact queued.still still
  | connects e p2pID endpoint session connects keeps => exact queued.connects connects
  | stops run stops keeps =>
    intro p2pID object held
    rw [stops.sessions] at held
    cases held
  | executes object task p2pSession started present found handled =>
    have waiting := queued.still ((dequeued service object task).still rfl)
    cases handled with
    | still still keeps => exact waiting.still still
    | receives announced alive still others => exact waiting.still still
    | disconnects disconnects removed => exact waiting.disconnects disconnects
  | erases pending e object found erases keeps =>
    simp only [Service.step, found] at taken
    cases taken
    intro p2pID other held stopped
    let left : Service φ := { service with
      disconnecting := service.disconnecting.eraseIdx pending }
    have table : left.sessions = service.sessions := rfl
    rcases @eraseSession_sessions φ left e object p2pID with same | ⟨gone, _⟩
    · rw [same, table] at held
      have named : service.entry other = some (p2pID, false) := (erases.entry other).symm.trans stopped
      obtain ⟨earlier, member⟩ := queued p2pID other held named
      rw [(eraseSession_kept _ e object).2.1]
      rcases Places.mem_eraseIdx_or found member with here | left
      · cases here
        have erased := eraseSession_erased left e named held
        rw [same, table, held] at erased
        cases erased
      · exact ⟨earlier, left⟩
    · cases gone.symm.trans held

end Steps

end Service

end BcosGateway

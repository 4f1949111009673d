import BcosGateway.Amop.TopicBroadcast
import BcosGateway.Lib.Transition
import BcosGateway.Service.Run

/-! Two gateways that tell each other the topics of their clients over one session, and what their
sessions wait for. -/

namespace BcosGateway

def P2PMessage.OfTopics (fw : Framework) (message : P2PMessage) : Prop :=
  message.packetType = fw.messageType.amopMessageType ∧ message.isRespPacket = false

namespace Session

variable (fw : CroppingFramework)

structure Calm (session : Session Nat) : Prop where
  active : session.isActived
  frames : ∀ frame ∈ session.outgoing, ∃ message : P2PMessage, message.OfTopics fw ∧
    frame = (message.encode fw).2
  tasks : ∀ task ∈ session.pool, ∃ message : P2PMessage,
    message.packetType = fw.messageType.amopMessageType ∧ task = .handler success (some message)

variable {fw} {session : Session Nat}

theorem Calm.asyncSendMessage (calm : session.Calm fw) {message : P2PMessage}
    (ofTopics : message.OfTopics fw) (options : Options) (callback : Option Nat) :
    (session.asyncSendMessage fw message options callback).Calm fw := by
  refine ⟨asyncSendMessage_isActived _ message options calm.active callback, ?_, ?_⟩
  · intro frame member
    rw [asyncSendMessage_outgoing _ session calm.active] at member
    rcases List.mem_append.mp member with old | new
    · exact calm.frames frame old
    · exact ⟨message, ofTopics, List.mem_singleton.mp new⟩
  · intro task member
    apply calm.tasks
    cases callback with
    | none =>
      obtain ⟨_, _, _, sent⟩ := asyncSendMessage_silent fw.toFramework message options calm.active
      rwa [sent] at member
    | some callback =>
      obtain ⟨_, _, _, _, _, sent⟩ :=
        asyncSendMessage_active fw.toFramework message options calm.active callback
      rwa [sent] at member

theorem onWrite_active (active : session.isActived) :
    ∃ writeQueue writing written,
      session.onWrite false = { session with writeQueue, writing, written } := by
  unfold onWrite
  rw [if_neg (by simp [active]), if_neg Bool.false_ne_true]
  simp only
  split
  · have still : ({ session with writing := false } : Session Nat).isActived := active
    obtain ⟨_, _, _, wrote⟩ := write_active still
    exact ⟨_, _, _, wrote⟩
  · exact write_active active

theorem Calm.onWrite (calm : session.Calm fw) : (session.onWrite false).Calm fw := by
  obtain ⟨_, _, _, wrote⟩ := onWrite_active calm.active
  refine ⟨?_, ?_, ?_⟩
  · rw [wrote]
    exact calm.active
  · rw [onWrite_outgoing]
    exact calm.frames
  · rw [wrote]
    exact calm.tasks

/-- A message that is no response goes to the message handler and claims no callback. -/
theorem onMessage_ofTopics {message : P2PMessage} (ofTopics : message.OfTopics fw) :
    ∃ tasks, (∀ task ∈ tasks, task = .handler success (some message)) ∧
      session.onMessage success message =
        { session with
          pool := session.pool ++ tasks
          handed := session.handed ++ [(success, message)] } := by
  rcases session.onMessage_cases success message with ⟨_, _, responds, _⟩ | ⟨tasks, all, _, handled⟩
  · have response := responds.2.2.1
    rw [ofTopics.2] at response
    cases response
  · exact ⟨tasks, all, handled⟩

theorem Calm.onMessage (calm : session.Calm fw) {message : P2PMessage}
    (ofTopics : message.OfTopics fw) : (session.onMessage success message).Calm fw := by
  obtain ⟨tasks, all, handled⟩ := @onMessage_ofTopics fw session message ofTopics
  rw [handled]
  refine ⟨calm.active, calm.frames, ?_⟩
  intro task member
  rcases List.mem_append.mp member with old | new
  · exact calm.tasks task old
  · exact ⟨message, ofTopics.1, all task new⟩

theorem Calm.dequeue (calm : session.Calm fw) (task : Nat) :
    ({ session with pool := session.pool.eraseIdx task } : Session Nat).Calm fw :=
  ⟨calm.active, calm.frames, fun other member => calm.tasks other (List.mem_of_mem_eraseIdx member)⟩

end Session

namespace Service

variable {φ Key : Type}

def seq2CallbackOf (service : Service φ) (p2pID : P2pID) : Table UInt32 (ResponseCallback Nat) :=
  ((service.sessionOf p2pID).map Session.seq2Callback).getD ∅

def poolOf (service : Service φ) (p2pID : P2pID) : List (Task Nat) :=
  ((service.sessionOf p2pID).map Session.pool).getD []

def writtenTo (service : Service φ) (p2pID : P2pID) : List Bytes :=
  ((service.sessionOf p2pID).map Session.written).getD []

def asyncBroadcastMessageToP2PNodes (env : Environment Key) (service : Service φ) (type : UInt16)
    (payload : Bytes) : Service φ :=
  let (p2pMessage, service) := service.newP2PMessage type payload
  Gateway.sendToEach env service p2pMessage service.sessions.keys

variable (env : Environment Key) (peer : P2pID)

structure Live (service : Service φ) : Prop where
  named : service.Named
  handler : env.fw.messageType.amopMessageType ∈ service.msgHandlers
  linked : service.Linked peer
  calm : ∀ session, service.sessionOf peer = some session → session.Calm env.fw

structure Calms (service after : Service φ) : Prop where
  live : after.Live env peer
  same : after.seq2CallbackOf peer = service.seq2CallbackOf peer

variable {env peer} {service middle after : Service φ}

theorem Live.refl (live : service.Live env peer) : Calms env peer service service := ⟨live, rfl⟩

theorem Calms.trans (first : Calms env peer service middle) (second : Calms env peer middle after) :
    Calms env peer service after := ⟨second.live, second.same.trans first.same⟩

theorem Live.changed (live : service.Live env peer) (quiet : Quiet service after)
    (nodeID : after.nodeID = service.nodeID) (handlers : after.msgHandlers = service.msgHandlers)
    (calm : ∀ session, service.sessionOf peer = some session → session.Calm env.fw →
      ∃ later, after.sessionOf peer = some later ∧ later.Calm env.fw) : after.Live env peer := by
  obtain ⟨session, held, _⟩ := live.linked.active
  obtain ⟨later, heldLater, calmLater⟩ := calm session held (live.calm session held)
  refine ⟨quiet.named live.named, handlers ▸ live.handler, ⟨nodeID ▸ live.linked.foreign,
    quiet.connected.mpr live.linked.connected, later, heldLater, calmLater.active⟩, ?_⟩
  intro other same
  rw [heldLater] at same
  cases same
  exact calmLater

/-- A change that does not concern the session with the peer. -/
theorem Live.apart (live : service.Live env peer) (quiet : Quiet service after)
    (nodeID : after.nodeID = service.nodeID) (handlers : after.msgHandlers = service.msgHandlers)
    (session : after.sessionOf peer = service.sessionOf peer) : Calms env peer service after :=
  ⟨live.changed quiet nodeID handlers fun held found calm => ⟨held, session.trans found, calm⟩,
    by rw [seq2CallbackOf, session, seq2CallbackOf]⟩

theorem Live.modifySession (live : service.Live env peer) {object : Nat}
    (found : service.sessions.lookup peer = some object) {update : Session Nat → Session Nat}
    (calm : ∀ session : Session Nat, session.Calm env.fw → (update session).Calm env.fw)
    (same : ∀ session : Session Nat, session.Calm env.fw →
      (update session).seq2Callback = session.seq2Callback) :
    Calms env peer service (service.modifySession object update) := by
  have updated := sessionOf_modifySession live.named found update peer
  rw [if_pos rfl] at updated
  obtain ⟨session, held, _⟩ := live.linked.active
  rw [held] at updated
  constructor
  · exact live.changed (quiet_modifySession service object update) rfl rfl fun session' found calm' =>
      ⟨update session, updated, calm session (live.calm session held)⟩
  · rw [seq2CallbackOf, updated, seq2CallbackOf, held]
    exact same session (live.calm session held)

section Sends

variable (live : service.Live env peer) {message : P2PMessage}
  (ofTopics : message.OfTopics env.fw.toFramework)

include ofTopics in
theorem ofTopics_numbered (service : Service φ) :
    (service.numbered message).1.OfTopics env.fw.toFramework := by
  obtain ⟨seq, renumbered⟩ := service.numbered_message message
  rw [renumbered]
  exact ofTopics

include live

/-- A callback leaves an entry. -/
theorem Live.registers (message : P2PMessage) (options : Options) (callback : Nat) :
    (service.asyncSendMessageByNodeID env peer message options (some callback)
      none).1.seq2CallbackOf peer ≠ ∅ := by
  obtain ⟨session, held, active⟩ := live.linked.active
  obtain ⟨_, _, _, _, _, sent⟩ := Session.asyncSendMessage_active env.fw.toFramework
    (service.numbered message).1 options active callback
  unfold seq2CallbackOf
  rw [sessionOf_asyncSendMessageByNodeID env live.named live.linked, if_pos rfl, held]
  intro empty
  have entry := congrArg (AList.lookup (service.numbered message).1.seq)
    ((congrArg Session.seq2Callback sent).symm.trans empty)
  rw [Table.lookup_add, if_pos rfl] at entry
  cases entry

include ofTopics

theorem Live.asyncSendMessageByNodeID (nodeID : P2pID) (options : Options)
    (callback : Option Nat) :
    (service.asyncSendMessageByNodeID env nodeID message options callback none).1.Live env peer := by
  refine live.changed (quiet_asyncSendMessageByNodeID env service nodeID message options callback none)
    (asyncSendMessageByNodeID_reads steady_nodeID env service nodeID message options callback none)
    (asyncSendMessageByNodeID_reads steady_msgHandlers env service nodeID message options callback
      none) ?_
  intro session held calm
  by_cases same : nodeID = peer
  · subst same
    have sent := sessionOf_asyncSendMessageByNodeID env live.named live.linked message options callback
      nodeID
    rw [if_pos rfl, held] at sent
    exact ⟨_, sent, calm.asyncSendMessage (ofTopics_numbered ofTopics service) options callback⟩
  · rw [sessionOf_asyncSendMessageByNodeID_other env live.named (Ne.symm same)]
    exact ⟨session, held, calm⟩

/-- Without a callback a send registers nothing. -/
theorem Live.silent (nodeID : P2pID) (options : Options) :
    Calms env peer service
      (service.asyncSendMessageByNodeID env nodeID message options none none).1 := by
  refine ⟨live.asyncSendMessageByNodeID ofTopics nodeID options none, ?_⟩
  unfold seq2CallbackOf
  by_cases same : nodeID = peer
  · subst same
    obtain ⟨session, held, active⟩ := live.linked.active
    rw [sessionOf_asyncSendMessageByNodeID env live.named live.linked, if_pos rfl, held]
    obtain ⟨_, _, _, sent⟩ := Session.asyncSendMessage_silent env.fw.toFramework
      (service.numbered message).1 options active
    show (session.asyncSendMessage env.fw.toFramework (service.numbered message).1 options
      none).seq2Callback = session.seq2Callback
    rw [sent]
  · rw [sessionOf_asyncSendMessageByNodeID_other env live.named (Ne.symm same)]

end Sends

theorem Live.newSeq (live : service.Live env peer) : Calms env peer service service.newSeq.2 :=
  live.apart (quiet_newSeq service) rfl rfl rfl

theorem ofTopics_newP2PMessage (service : Service φ) (payload : Bytes) :
    (service.newP2PMessage env.fw.messageType.amopMessageType payload).1.OfTopics
      env.fw.toFramework := by
  refine ⟨rfl, ?_⟩
  show ((0 &&& MessageExtFieldFlag.response) != 0) = false
  decide

/-- A broadcast waits for nothing. -/
theorem Live.asyncBroadcastMessageToP2PNodes (live : service.Live env peer) (payload : Bytes) :
    Calms env peer service (service.asyncBroadcastMessageToP2PNodes env
      env.fw.messageType.amopMessageType payload) := by
  have each (p2pIDs : List P2pID) : ∀ (service : Service φ) (message : P2PMessage),
      service.Live env peer → message.OfTopics env.fw.toFramework →
        Calms env peer service (Gateway.sendToEach env service message p2pIDs) := by
    induction p2pIDs with
    | nil => exact fun service _ live _ => live.refl
    | cons p2pID p2pIDs ih =>
      intro service message live ofTopics
      have sent := live.silent ofTopics p2pID {}
      unfold Gateway.sendToEach
      refine sent.trans (ih _ _ sent.live ?_)
      split
      · exact ofTopics_numbered ofTopics service
      · exact ofTopics
  exact live.newSeq.trans (each service.newSeq.2.sessions.keys service.newSeq.2 _ live.newSeq.live
    (ofTopics_newP2PMessage service payload))

theorem Live.asyncSendMessageByP2PNodeID (live : service.Live env peer) (payload : Bytes)
    (options : Options) (callback : Nat) :
    (service.asyncSendMessageByP2PNodeID env service env.fw.messageType.amopMessageType peer payload
        options callback none).1.Live env peer ∧
      (service.asyncSendMessageByP2PNodeID env service env.fw.messageType.amopMessageType peer payload
        options callback none).1.seq2CallbackOf peer ≠ ∅ := by
  rw [asyncSendMessageByP2PNodeID_linked env live.linked]
  have ofTopics : (service.newP2PMessage env.fw.messageType.amopMessageType payload).1.OfTopics
      env.fw.toFramework := ofTopics_newP2PMessage service payload
  exact ⟨live.newSeq.live.asyncSendMessageByNodeID ofTopics peer options (some callback),
    live.newSeq.live.registers _ options callback⟩

theorem Live.onMessage [DecidableEq φ] (live : service.Live env peer) {object : Nat}
    (found : service.sessions.lookup peer = some object) {message : P2PMessage}
    (type : message.packetType = env.fw.messageType.amopMessageType)
    {actions : List (Action φ Key)}
    (handled : service.onMessage env object Session.success (some message) = .ok (after, actions)) :
    Calms env peer service after ∧ actions = [.handler message] := by
  obtain ⟨run, entry⟩ := live.named peer object found
  obtain ⟨p2pSession, present, _⟩ := Option.map_eq_some_iff.mp entry
  have dispatched : dispatch env service.msgHandlers service.manager p2pSession.p2pID message =
      .ok (service.manager, [.handler message]) := by
    unfold dispatch
    rw [if_pos (type ▸ live.handler)]
    rfl
  rw [onMessage_alive env present (alive_of_stored found), dispatched] at handled
  cases handled
  refine ⟨live.apart (quiet_pinned service object (· + 1)) rfl rfl ?_, rfl⟩
  exact sessionOf_pinned service object (· + 1) peer

end Service

namespace AMOPImpl

variable (env : AMOPEnvironment) (topicManager : TopicManager) (nodeID : P2pID)

def replies (message : P2PMessage) : Bool :=
  let amopMessage := AMOPMessage.buildMessage env.fw message.payload
  if amopMessage.type = AMOPMessage.Kind.topicSeq then
    (env.lexicalCast amopMessage.data).any (topicManager.checkTopicSeq nodeID)
  else amopMessage.type = AMOPMessage.Kind.requestTopic

variable {env topicManager nodeID} {message : P2PMessage}

theorem onReceiveTopicSeqMessage_eq (amopMessage : AMOPMessage) :
    onReceiveTopicSeqMessage env topicManager nodeID amopMessage =
      if (env.lexicalCast amopMessage.data).any (topicManager.checkTopicSeq nodeID) then
        [.asyncSendMessageByP2PNodeID nodeID
          (buildAndEncodeMessage AMOPMessage.Kind.requestTopic [])]
      else [] := by
  unfold onReceiveTopicSeqMessage
  cases env.lexicalCast amopMessage.data with
  | none => rfl
  | some topicSeq =>
    cases changed : topicManager.checkTopicSeq nodeID topicSeq with
    | false => simp [changed]
    | true => simp [changed]

theorem dispatcher_replying (type : message.packetType = env.fw.messageType.amopMessageType)
    (replying : replies env topicManager nodeID message) :
    ∃ buffer, (dispatcherAMOPMessage env topicManager nodeID message).2 =
      [.asyncSendMessageByP2PNodeID nodeID buffer] := by
  unfold dispatcherAMOPMessage
  rw [if_neg (not_not.mpr type)]
  unfold replies at replying
  simp only at replying ⊢
  split
  · rename_i topicSeq
    rw [if_pos topicSeq] at replying
    rw [onReceiveTopicSeqMessage_eq, if_pos replying]
    exact ⟨_, rfl⟩
  · rename_i other
    rw [if_neg other] at replying
    rw [if_pos (of_decide_eq_true replying)]
    exact ⟨_, rfl⟩

theorem dispatcher_silent (replying : replies env topicManager nodeID message = false) :
    ∀ action ∈ (dispatcherAMOPMessage env topicManager nodeID message).2, ∀ receiver buffer,
      action ≠ .asyncSendMessageByP2PNodeID receiver buffer := by
  unfold replies at replying
  unfold dispatcherAMOPMessage
  simp only at replying ⊢
  split
  · exact fun _ none => absurd none List.not_mem_nil
  split
  · rename_i topicSeq
    rw [if_pos topicSeq] at replying
    rw [onReceiveTopicSeqMessage_eq, if_neg (by simp [replying])]
    exact fun _ none => absurd none List.not_mem_nil
  rename_i other
  rw [if_neg other] at replying
  rw [if_neg (of_decide_eq_false replying)]
  split
  · exact fun _ none => absurd none List.not_mem_nil
  split
  · rintro _ member receiver buffer rfl
    cases List.mem_singleton.mp member
  split
  · rintro _ member receiver buffer rfl
    cases List.mem_singleton.mp member
  · exact fun _ none => absurd none List.not_mem_nil

end AMOPImpl

/-- A gateway with its AMOP, which has a pool of one thread. -/
structure SyncGateway (φ : Type) where
  service : Service φ
  topics : TopicManager := {}
  /-- How many frames of the peer have been read. -/
  delivered : Nat := 0
  amopPool : List P2PMessage := []

namespace SyncGateway

inductive Event where
  | newSeq
  | perform (operation : TopicManager.Operation)
  | notifyNodeIDs (nodeIDs : List P2pID)
  | broadcastTopicSeq
  | onWrite
  | deliver
  | execute (task : Nat)
  | dispatch

variable {φ Key : Type} [DecidableEq φ] (env : Environment Key)
  (lexicalCast : StdString → Option UInt32) (peer : P2pID) (gateway : SyncGateway φ)

def onAMOPMessage : Action φ Key → Option P2PMessage
  | .handler message => some message
  | .onReceiveMessage .. | .sendMessageBySession .. | .sendRespMessageBySession .. => none

def execute (object : Nat) (gateway : SyncGateway φ) : Task Nat → Option (SyncGateway φ)
  | .handler e message =>
    match gateway.service.onMessage env object e message with
    | .error _ => none
    | .ok (service, actions) =>
      some { gateway with
        service
        amopPool := gateway.amopPool ++ actions.filterMap onAMOPMessage }
  | task => (gateway.service.execute env object task).map fun service => { gateway with service }

def send (callback : Nat) (service : Service φ) : AMOPAction → Service φ
  | .asyncSendMessageByP2PNodeID nodeID buffer =>
    (service.asyncSendMessageByP2PNodeID env service env.fw.messageType.amopMessageType nodeID buffer
      {} callback none).1
  | .onReceiveAMOPMessage _ _ | .onReceiveAMOPBroadcastMessage _ _ => service

/-- A task of the AMOP pool. A callback is named by the type of the message whose handler makes
    it. -/
def dispatch (message : P2PMessage) : SyncGateway φ :=
  let (topics, actions) :=
    AMOPImpl.dispatcherAMOPMessage (env.amop lexicalCast) gateway.topics peer message
  let callback := (AMOPMessage.buildMessage env.fw message.payload).type.toNat
  { gateway with topics, service := actions.foldl (send env callback) gateway.service }

/-- `received` are the frames that the peer has written, which arrive in order. The session stays
    alive: a frame that is not read whole would end it. Other sends may take a seq at any time. -/
def step (received : List Bytes) (gateway : SyncGateway φ) : Event → Option (SyncGateway φ)
  | .newSeq => some { gateway with service := gateway.service.newSeq.2 }
  | .perform operation => some { gateway with topics := gateway.topics.perform env.json operation }
  | .notifyNodeIDs nodeIDs => some { gateway with topics := gateway.topics.notifyNodeIDs nodeIDs }
  | .broadcastTopicSeq =>
    some { gateway with
      service := gateway.service.asyncBroadcastMessageToP2PNodes env
        env.fw.messageType.amopMessageType (AMOPImpl.broadcastTopicSeq gateway.topics) }
  | .onWrite =>
    match gateway.service.sessions.lookup peer with
    | none => none
    | some object =>
      some { gateway with
        service := gateway.service.modifySession object fun session => session.onWrite false }
  | .deliver =>
    match received[gateway.delivered]?, gateway.service.sessions.lookup peer with
    | some frame, some object =>
      match P2PMessage.decode env.fw {} frame with
      | .error _ => none
      | .ok (result, message) =>
        if result = frame.length then
          some { gateway with
            delivered := gateway.delivered + 1
            service := gateway.service.modifySession object fun session =>
              session.onMessage Session.success message }
        else none
    | _, _ => none
  | .execute task =>
    match gateway.service.sessions.lookup peer with
    | none => none
    | some object =>
      match gateway.service.p2pSessions[object]? with
      | none => none
      | some p2pSession =>
        match p2pSession.session.pool[task]? with
        | none => none
        | some started =>
          { gateway with service := gateway.service.dequeue object task }.execute env object started
  | .dispatch =>
    match gateway.amopPool with
    | [] => none
    | message :: amopPool => some ({ gateway with amopPool }.dispatch env lexicalCast peer message)

def replies : Event → Bool
  | .dispatch =>
    match gateway.amopPool with
    | [] => false
    | message :: _ => AMOPImpl.replies (env.amop lexicalCast) gateway.topics peer message
  | _ => false

structure Sound : Prop where
  live : gateway.service.Live env peer
  queued : ∀ message ∈ gateway.amopPool, message.packetType = env.fw.messageType.amopMessageType

variable {env lexicalCast peer gateway} {next : SyncGateway φ}

omit [DecidableEq φ] in
/-- A step that sends nothing with a callback. -/
theorem Sound.calms {event : Event} (silent : gateway.replies env lexicalCast peer event = false)
    (calms : Service.Calms env peer gateway.service next.service)
    (queued : ∀ message ∈ next.amopPool, message.packetType = env.fw.messageType.amopMessageType) :
    next.Sound env peer ∧ (next.service.seq2CallbackOf peer = ∅ ↔
      gateway.service.seq2CallbackOf peer = ∅ ∧
        gateway.replies env lexicalCast peer event = false) := by
  refine ⟨⟨calms.live, queued⟩, ?_⟩
  rw [calms.same]
  exact (and_iff_left silent).symm

theorem ofTopics_decoded {message decoded : P2PMessage} (ofTopics : message.OfTopics env.fw.toFramework)
    {result : Int}
    (read : P2PMessage.decode env.fw {} (message.encode env.fw).2 = .ok (result, decoded)) :
    decoded.OfTopics env.fw.toFramework := by
  obtain ⟨_, ext, packetType⟩ := P2PMessage.decode_encode_header env.fw read
  refine ⟨packetType.trans ofTopics.1, ?_⟩
  rw [P2PMessage.isRespPacket, ext]
  exact ofTopics.2

theorem Sound.deliver (sound : gateway.Sound env peer) {received : List Bytes}
    (frames : ∀ frame ∈ received, ∃ message : P2PMessage, message.OfTopics env.fw.toFramework ∧
      frame = (message.encode env.fw).2)
    (taken : gateway.step env lexicalCast peer received .deliver = some next) :
    next.Sound env peer ∧ (next.service.seq2CallbackOf peer = ∅ ↔
      gateway.service.seq2CallbackOf peer = ∅ ∧
        gateway.replies env lexicalCast peer .deliver = false) := by
  simp only [step] at taken
  split at taken
  · rename_i frame object arrives found
    obtain ⟨message, ofTopics, rfl⟩ := frames frame (List.mem_of_getElem? arrives)
    split at taken
    · cases taken
    rename_i result decoded read
    split at taken
    · cases taken
      have plain := ofTopics_decoded ofTopics read
      refine Sound.calms rfl
        (sound.live.modifySession found (fun session calm => calm.onMessage plain) ?_) sound.queued
      intro session _
      obtain ⟨_, _, handled⟩ := @Session.onMessage_ofTopics env.fw session decoded plain
      rw [handled]
    · cases taken
  · cases taken

theorem Sound.execute (sound : gateway.Sound env peer) {received : List Bytes} {task : Nat}
    (taken : gateway.step env lexicalCast peer received (.execute task) = some next) :
    next.Sound env peer ∧ (next.service.seq2CallbackOf peer = ∅ ↔
      gateway.service.seq2CallbackOf peer = ∅ ∧
        gateway.replies env lexicalCast peer (.execute task) = false) := by
  simp only [step] at taken
  split at taken
  · cases taken
  rename_i object found
  split at taken
  · cases taken
  rename_i p2pSession present
  split at taken
  · cases taken
  rename_i started queued
  have held : gateway.service.sessionOf peer = some p2pSession.session := by
    rw [Service.sessionOf, found, Option.bind_some, present]
    rfl
  obtain ⟨message, type, rfl⟩ := (sound.live.calm p2pSession.session held).tasks started
    (List.mem_of_getElem? queued)
  have dequeued : Service.Calms env peer gateway.service (gateway.service.dequeue object task) :=
    sound.live.modifySession found (fun session calm => calm.dequeue task) fun _ _ => rfl
  unfold SyncGateway.execute at taken
  simp only at taken
  split at taken
  · cases taken
  rename_i after actions handled
  cases taken
  obtain ⟨calms, rfl⟩ := dequeued.live.onMessage found type handled
  refine Sound.calms rfl (dequeued.trans calms) fun other member => ?_
  rcases List.mem_append.mp member with old | new
  · exact sound.queued other old
  · rw [List.mem_singleton.mp new]
    exact type

omit [DecidableEq φ] in
theorem foldl_send_silent {actions : List AMOPAction} (callback : Nat) (service : Service φ)
    (silent : ∀ action ∈ actions, ∀ receiver buffer,
      action ≠ .asyncSendMessageByP2PNodeID receiver buffer) :
    actions.foldl (send env callback) service = service := by
  induction actions with
  | nil => rfl
  | cons action actions ih =>
    rw [List.foldl_cons]
    cases action with
    | asyncSendMessageByP2PNodeID receiver buffer =>
      exact absurd rfl (silent _ List.mem_cons_self receiver buffer)
    | onReceiveAMOPMessage nodeID message =>
      exact ih fun action member => silent action (List.mem_cons_of_mem _ member)
    | onReceiveAMOPBroadcastMessage nodeID message =>
      exact ih fun action member => silent action (List.mem_cons_of_mem _ member)

omit [DecidableEq φ] in
theorem dispatch_silent {message : P2PMessage}
    (silent : AMOPImpl.replies (env.amop lexicalCast) gateway.topics peer message = false) :
    (gateway.dispatch env lexicalCast peer message).service = gateway.service :=
  foldl_send_silent (AMOPMessage.buildMessage env.fw message.payload).type.toNat gateway.service
    (AMOPImpl.dispatcher_silent silent)

omit [DecidableEq φ] in
theorem dispatch_replying (live : gateway.service.Live env peer) {message : P2PMessage}
    (type : message.packetType = env.fw.messageType.amopMessageType)
    (replying : AMOPImpl.replies (env.amop lexicalCast) gateway.topics peer message = true) :
    (gateway.dispatch env lexicalCast peer message).service.Live env peer ∧
      (gateway.dispatch env lexicalCast peer message).service.seq2CallbackOf peer ≠ ∅ := by
  obtain ⟨buffer, sends⟩ := AMOPImpl.dispatcher_replying type replying
  have sent : (gateway.dispatch env lexicalCast peer message).service =
      (gateway.service.asyncSendMessageByP2PNodeID env gateway.service
        env.fw.messageType.amopMessageType peer buffer {}
        (AMOPMessage.buildMessage env.fw message.payload).type.toNat none).1 := by
    unfold SyncGateway.dispatch
    simp only [sends]
    rfl
  rw [sent]
  exact live.asyncSendMessageByP2PNodeID buffer {} _

/-- The task leaves an entry if and only if it sends a message. -/
theorem Sound.dispatch (sound : gateway.Sound env peer) {received : List Bytes}
    (taken : gateway.step env lexicalCast peer received .dispatch = some next) :
    next.Sound env peer ∧ (next.service.seq2CallbackOf peer = ∅ ↔
      gateway.service.seq2CallbackOf peer = ∅ ∧
        gateway.replies env lexicalCast peer .dispatch = false) := by
  simp only [step] at taken
  split at taken
  · cases taken
  rename_i message amopPool pooled
  cases taken
  have asked : gateway.replies env lexicalCast peer .dispatch =
      AMOPImpl.replies (env.amop lexicalCast) gateway.topics peer message := by
    simp only [SyncGateway.replies, pooled]
  have type := sound.queued message (pooled ▸ List.mem_cons_self)
  have queued : ∀ other ∈ amopPool, other.packetType = env.fw.messageType.amopMessageType :=
    fun other member => sound.queued other (pooled ▸ List.mem_cons_of_mem _ member)
  cases replying : AMOPImpl.replies (env.amop lexicalCast) gateway.topics peer message with
  | false =>
    have unsent := @dispatch_silent φ Key env lexicalCast peer { gateway with amopPool } message
      replying
    exact Sound.calms (asked.trans replying) (unsent.symm ▸ sound.live.refl) queued
  | true =>
    have live : ({ gateway with amopPool } : SyncGateway φ).service.Live env peer := sound.live
    obtain ⟨lives, registers⟩ := dispatch_replying live type replying
    refine ⟨⟨lives, queued⟩, iff_of_false registers fun both => ?_⟩
    rw [asked, replying] at both
    exact Bool.false_ne_true both.2.symm

/-- A step leaves the session waiting for nothing if and only if it has been so and the step sends
    no message with a callback. -/
theorem Sound.step (sound : gateway.Sound env peer) {received : List Bytes}
    (frames : ∀ frame ∈ received, ∃ message : P2PMessage, message.OfTopics env.fw.toFramework ∧
      frame = (message.encode env.fw).2)
    {event : Event} (taken : gateway.step env lexicalCast peer received event = some next) :
    next.Sound env peer ∧ (next.service.seq2CallbackOf peer = ∅ ↔
      gateway.service.seq2CallbackOf peer = ∅ ∧
        gateway.replies env lexicalCast peer event = false) := by
  cases event with
  | newSeq =>
    cases taken
    exact Sound.calms rfl sound.live.newSeq sound.queued
  | perform operation =>
    cases taken
    exact Sound.calms rfl sound.live.refl sound.queued
  | notifyNodeIDs nodeIDs =>
    cases taken
    exact Sound.calms rfl sound.live.refl sound.queued
  | broadcastTopicSeq =>
    cases taken
    exact Sound.calms rfl (sound.live.asyncBroadcastMessageToP2PNodes _) sound.queued
  | onWrite =>
    simp only [SyncGateway.step] at taken
    split at taken
    · cases taken
    rename_i object found
    cases taken
    refine Sound.calms rfl (sound.live.modifySession found (fun _ calm => calm.onWrite) ?_) sound.queued
    intro session calm
    obtain ⟨_, _, _, wrote⟩ := Session.onWrite_active calm.active
    rw [wrote]
  | deliver => exact sound.deliver frames taken
  | execute task => exact sound.execute taken
  | dispatch => exact sound.dispatch taken

end SyncGateway

structure SyncLink (φ : Type) where
  near : SyncGateway φ
  far : SyncGateway φ

namespace SyncLink

inductive Event where
  | near (event : SyncGateway.Event)
  | far (event : SyncGateway.Event)

variable {φ Key : Type} [DecidableEq φ] (env : Environment Key)
  (lexicalCast : StdString → Option UInt32) (nearID farID : P2pID)

def step (link : SyncLink φ) : Event → Option (SyncLink φ)
  | .near event =>
    (link.near.step env lexicalCast farID (link.far.service.writtenTo nearID) event).map fun near =>
      { link with near }
  | .far event =>
    (link.far.step env lexicalCast nearID (link.near.service.writtenTo farID) event).map fun far =>
      { link with far }

def replies (link : SyncLink φ) : Event → Bool
  | .near event => link.near.replies env lexicalCast farID event
  | .far event => link.far.replies env lexicalCast nearID event

structure Quiet (link : SyncLink φ) : Prop where
  toNear : link.near.delivered = (link.far.service.outgoingTo nearID).length
  toFar : link.far.delivered = (link.near.service.outgoingTo farID).length
  nearTasks : link.near.service.poolOf farID = []
  farTasks : link.far.service.poolOf nearID = []
  nearPool : link.near.amopPool = []
  farPool : link.far.amopPool = []

instance (link : SyncLink φ) : Decidable (link.Quiet nearID farID) :=
  decidable_of_iff
    (link.near.delivered = (link.far.service.outgoingTo nearID).length ∧
      link.far.delivered = (link.near.service.outgoingTo farID).length ∧
      link.near.service.poolOf farID = [] ∧ link.far.service.poolOf nearID = [] ∧
      link.near.amopPool = [] ∧ link.far.amopPool = [])
    ⟨fun ⟨toNear, toFar, nearTasks, farTasks, nearPool, farPool⟩ =>
      ⟨toNear, toFar, nearTasks, farTasks, nearPool, farPool⟩,
    fun quiet => ⟨quiet.toNear, quiet.toFar, quiet.nearTasks, quiet.farTasks, quiet.nearPool,
      quiet.farPool⟩⟩

def NothingPending (link : SyncLink φ) : Prop :=
  link.near.service.seq2CallbackOf farID = ∅ ∧ link.far.service.seq2CallbackOf nearID = ∅

instance (link : SyncLink φ) : Decidable (link.NothingPending nearID farID) :=
  decidable_of_iff
    ((link.near.service.seq2CallbackOf farID).entries =
        (∅ : Table UInt32 (ResponseCallback Nat)).entries ∧
      (link.far.service.seq2CallbackOf nearID).entries =
        (∅ : Table UInt32 (ResponseCallback Nat)).entries)
    (and_congr AList.ext_iff.symm AList.ext_iff.symm)

end SyncLink

structure SyncGateway.Initial {φ Key : Type} (env : Environment Key) (peer : P2pID)
    (gateway : SyncGateway φ) : Prop where
  named : gateway.service.Named
  handler : env.fw.messageType.amopMessageType ∈ gateway.service.msgHandlers
  linked : gateway.service.Linked peer
  started : ∀ session, gateway.service.sessionOf peer = some session →
    session.seq2Callback = ∅ ∧ session.pool = [] ∧ session.outgoing = []
  delivered : gateway.delivered = 0
  amopPool : gateway.amopPool = []

namespace SyncLink

variable {φ Key : Type} [DecidableEq φ] {env : Environment Key}
  {lexicalCast : StdString → Option UInt32} {nearID farID : P2pID} {link next : SyncLink φ}

omit [DecidableEq φ] in
theorem initial_sound {peer : P2pID} {gateway : SyncGateway φ} (initial : gateway.Initial env peer) :
    gateway.Sound env peer ∧ gateway.service.seq2CallbackOf peer = ∅ := by
  obtain ⟨session, held, active⟩ := initial.linked.active
  obtain ⟨seq2Callback, pool, outgoing⟩ := initial.started session held
  refine ⟨⟨⟨initial.named, initial.handler, initial.linked, ?_⟩, ?_⟩, ?_⟩
  · intro other same
    rw [held] at same
    cases same
    refine ⟨active, ?_, ?_⟩
    · rw [outgoing]
      exact fun _ none => absurd none List.not_mem_nil
    · rw [pool]
      exact fun _ none => absurd none List.not_mem_nil
  · rw [initial.amopPool]
    exact fun _ none => absurd none List.not_mem_nil
  · rw [Service.seq2CallbackOf, held]
    exact seq2Callback

omit [DecidableEq φ] in
theorem written_ofTopics {service : Service φ} {peer : P2pID} (live : service.Live env peer) :
    ∀ frame ∈ service.writtenTo peer, ∃ message : P2PMessage,
      message.OfTopics env.fw.toFramework ∧ frame = (message.encode env.fw).2 := by
  obtain ⟨session, held, _⟩ := live.linked.active
  intro frame member
  rw [Service.writtenTo, held] at member
  exact (live.calm session held).frames frame (List.mem_append_left _ member)

structure Sound (env : Environment Key) (nearID farID : P2pID) (link : SyncLink φ) : Prop where
  near : link.near.Sound env farID
  far : link.far.Sound env nearID

theorem Sound.step (sound : link.Sound env nearID farID) {event : Event}
    (taken : link.step env lexicalCast nearID farID event = some next) :
    next.Sound env nearID farID ∧ (next.NothingPending nearID farID ↔
      link.NothingPending nearID farID ∧
        link.replies env lexicalCast nearID farID event = false) := by
  cases event with
  | near event =>
    obtain ⟨near, stepped, rfl⟩ := Option.map_eq_some_iff.mp taken
    obtain ⟨kept, pending⟩ := sound.near.step (written_ofTopics sound.far.live) stepped
    refine ⟨⟨kept, sound.far⟩, ?_⟩
    unfold NothingPending
    rw [pending, and_right_comm]
    rfl
  | far event =>
    obtain ⟨far, stepped, rfl⟩ := Option.map_eq_some_iff.mp taken
    obtain ⟨kept, pending⟩ := sound.far.step (written_ofTopics sound.near.live) stepped
    refine ⟨⟨sound.near, kept⟩, ?_⟩
    unfold NothingPending
    rw [pending, ← and_assoc]
    rfl

variable (env lexicalCast nearID farID)

/-- In every state that a run reaches, quiet or not, nothing is pending if and only if no task of the
    run has sent a request for topics or an answer to one. -/
theorem nothingPending_iff (link : SyncLink φ) (events : List Event) {last : SyncLink φ}
    (near : link.near.Initial env farID) (far : link.far.Initial env nearID)
    (ran : Transition.run (step env lexicalCast nearID farID) link events = some last) :
    last.NothingPending nearID farID ↔
      Transition.Meets (step env lexicalCast nearID farID)
        (fun link event => link.replies env lexicalCast nearID farID event = false) link events := by
  obtain ⟨nearSound, nearNothing⟩ := initial_sound near
  obtain ⟨farSound, farNothing⟩ := initial_sound far
  have kept := Transition.last_iff_meets
    (fun _ _ _ (sound : Sound env nearID farID _) taken => (sound.step taken).1)
    (fun _ _ _ sound taken => (sound.step taken).2) ⟨nearSound, farSound⟩ ran
  exact kept.trans (and_iff_right ⟨nearNothing, farNothing⟩)

section Rounds

def syncGateway (p2pID peer : P2pID) (client : StdString) : SyncGateway Nat where
  service := (TopicNetwork.topicGateway p2pID peer client {[116]} {[116]}).service
  topics := (TopicNetwork.topicGateway p2pID peer client {[116]} {[116]}).clients.topics

theorem syncGateway_initial {p2pID peer : P2pID} (apart : peer ≠ p2pID) (client : StdString) :
    (syncGateway p2pID peer client).Initial (Environment.reading .null) peer := by
  refine ⟨Network.gateway_named p2pID peer 0 [48] [49], (AList.mem_insert _).mpr (.inl rfl),
    TopicNetwork.topicGateway_linked apart client {[116]} {[116]}, ?_, rfl, rfl⟩
  intro session held
  have stored : (syncGateway p2pID peer client).service.sessions.lookup peer = some 0 :=
    AList.lookup_insert _
  rw [Service.sessionOf, stored] at held
  cases held
  exact ⟨rfl, rfl, rfl⟩

def synced : SyncLink Nat := ⟨syncGateway [97] [98] [99], syncGateway [98] [97] [100]⟩

/-- The near gateway has a new topic, the far one asks for its topics and gets them. -/
def round (topic : StdString) : List Event :=
  [.near (.perform (.subTopic [99] {topic})), .near .broadcastTopicSeq, .near .onWrite,
    .far .deliver, .far (.execute 0), .far .dispatch, .far .onWrite,
    .near .deliver, .near (.execute 0), .near .dispatch, .near .onWrite,
    .far .deliver, .far (.execute 0), .far .dispatch]

def reached (events : List Event) : Option (SyncLink Nat) :=
  Transition.run (step (Environment.reading .null) decimal [97] [98]) synced events

def pending (link : SyncLink Nat) : Nat × Nat :=
  ((link.near.service.seq2CallbackOf [98]).entries.length,
    (link.far.service.seq2CallbackOf [97]).entries.length)

end Rounds

/-- A round leaves an entry on both sides, and another round another one. -/
theorem rounds_leave :
    (¬ ∀ (link : SyncLink Nat) events last, link.near.Initial (Environment.reading .null) [98] →
      link.far.Initial (Environment.reading .null) [97] →
      Transition.run (step (Environment.reading .null) decimal [97] [98]) link events = some last →
      last.Quiet [97] [98] → last.NothingPending [97] [98]) ∧
    (reached (round [117])).map pending = some (1, 1) ∧
    (reached (round [117] ++ round [118])).map pending = some (2, 2) := by
  refine ⟨fun nothing => ?_, by decide +kernel, by decide +kernel⟩
  have leaves : (reached (round [117])).any (fun last =>
      decide (last.Quiet [97] [98] ∧ ¬ last.NothingPending [97] [98])) = true := by decide +kernel
  obtain ⟨last, ran, holds⟩ := (Option.any_eq_true _ _).mp leaves
  obtain ⟨quiet, pending⟩ := of_decide_eq_true holds
  exact pending (nothing synced (round [117]) last (syncGateway_initial (by decide) [99])
    (syncGateway_initial (by decide) [100]) ran quiet)

def unchanged : List Event :=
  [.near .broadcastTopicSeq, .far .deliver, .far (.execute 0), .far .dispatch]

theorem unchanged_nothingPending :
    ∃ last, reached unchanged = some last ∧ last.Quiet [97] [98] ∧
      last.NothingPending [97] [98] := by
  have settles : (reached unchanged).any (fun last => decide (last.Quiet [97] [98])) = true := by
    decide +kernel
  obtain ⟨last, ran, holds⟩ := (Option.any_eq_true _ _).mp settles
  exact ⟨last, ran, of_decide_eq_true holds,
    (nothingPending_iff (Environment.reading .null) decimal [97] [98] synced unchanged
      (syncGateway_initial (by decide) [99]) (syncGateway_initial (by decide) [100]) ran).mpr
        (by decide +kernel)⟩

end SyncLink

end BcosGateway

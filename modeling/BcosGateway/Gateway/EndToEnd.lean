import BcosGateway.Gateway.Delivery
import BcosGateway.Lib.Places
import Mathlib.Logic.Function.Basic

/-! A message between nodes with all the gateways that it is sent to. -/

namespace BcosGateway

/-- What is outside the sender is named by the gateway that it is at. The last six fields record
    what has happened. -/
structure Journey (φ Key : Type) where
  retry : Retry
  gateways : P2pID → GatewayNodeManager φ
  connected : P2pID → Bool
  requests : List (P2pID × Bytes) := []
  /-- The front services that have the message and have not called back. -/
  asked : List (P2pID × φ × P2PMessage) := []
  responses : List (P2pID × Bytes) := []
  received : List (P2pID × Action φ Key) := []
  /-- The texts that were sent back, for a front service or for the gateway itself. -/
  replies : List (P2pID × Option φ × Bytes) := []
  answers : List Answer := []
  unsent : List P2pID := []

namespace Journey

inductive Event (φ : Type) where
  | change (p2pID : P2pID) (manager : GatewayNodeManager φ)
  | connect (p2pID : P2pID) (up : Bool)
  | deliver (request : Nat)
  | callback (asked : Nat) (errorCode : Int)
  | respond (response : Nat) (shuffled : List P2pID)
  | fail (p2pID : P2pID) (e : NetworkException) (shuffled : List P2pID)
  | respondAgain (response : Nat) (shuffled : List P2pID)
  | failAgain (p2pID : P2pID) (e : NetworkException) (shuffled : List P2pID)

variable {φ Key : Type} (env : Environment Key) (lexicalCast : StdString → Option Int)

def read (frame : Bytes) : Option P2PMessage :=
  match P2PMessage.decode env.fw {} frame with
  | .ok (result, message) => if result > 0 then some message else none
  | .error _ => none

def launch (journey : Journey φ Key) (retry : Retry) : Journey φ Key :=
  let attempts := retry.sent.drop journey.retry.sent.length
  { journey with
    retry
    requests := journey.requests ++ (attempts.filter journey.connected).map fun p2pID =>
      (p2pID, (retry.p2pMessage.encode env.fw).2)
    unsent := journey.unsent ++ attempts.filter fun p2pID => !journey.connected p2pID }

def start (gateways : P2pID → GatewayNodeManager φ) (connected : P2pID → Bool) (retry : Retry) :
    Journey φ Key :=
  launch env { retry := { retry with sent := [] }, gateways, connected } retry

def sendResp (p2pID : P2pID) (who : Option φ) (text : Bytes) (request : P2PMessage)
    (journey : Journey φ Key) : Journey φ Key :=
  { journey with
    responses := journey.responses ++
      [(p2pID, ((Service.response text request).encode env.fw).2)]
    replies := journey.replies ++ [(p2pID, who, text)] }

def perform (p2pID : P2pID) (journey : Journey φ Key) : Action φ Key → Journey φ Key
  | .onReceiveMessage frontService groupID srcNodeID payload request =>
    { journey with
      received := journey.received ++
        [(p2pID, .onReceiveMessage frontService groupID srcNodeID payload request)]
      asked := journey.asked ++ request.toList.map fun request => (p2pID, frontService, request) }
  | .sendRespMessageBySession payload request => journey.sendResp env p2pID none payload request
  | .handler _ | .sendMessageBySession _ _ => journey

def resume (journey : Journey φ Key) (answer : Answer) (retry : Retry) : Journey φ Key :=
  { journey with answers := journey.answers ++ [answer] }.launch env retry

def responded (p2pID : P2pID) (message : P2PMessage) (shuffled : List P2pID) : Answer :=
  { p2pID, e := Session.success, message := some message, shuffled, answered := fun _ => rfl }

def failed (p2pID : P2pID) {e : NetworkException} (code : e.errorCode ≠ P2PExceptionType.success)
    (shuffled : List P2pID) : Answer :=
  { p2pID, e, message := none, shuffled, answered := fun succeeded => absurd succeeded code }

variable [DecidableEq φ] (msgHandlers : KeySet UInt16) (sender : P2pID)

/-- The gateways change their front services at any time. A session drops a response to an attempt
    whose callback was called before, unless the two calls cross. -/
def step (journey : Journey φ Key) : Event φ → Option (Journey φ Key)
  | .change p2pID manager =>
    some { journey with gateways := Function.update journey.gateways p2pID manager }
  | .connect p2pID up =>
    some { journey with connected := Function.update journey.connected p2pID up }
  | .deliver request =>
    match journey.requests[request]? with
    | none => none
    | some (p2pID, frame) =>
      match read env frame with
      | none => none
      | some message =>
        match Service.dispatch env msgHandlers (journey.gateways p2pID) sender message with
        | .error _ => none
        | .ok (manager, actions) =>
          some (actions.foldl (perform env p2pID)
            { journey with
              requests := journey.requests.eraseIdx request
              gateways := Function.update journey.gateways p2pID manager })
  | .callback asked errorCode =>
    match journey.asked[asked]? with
    | none => none
    | some (p2pID, frontService, request) =>
      if Gateway.IntCode errorCode then
        some ({ journey with asked := journey.asked.eraseIdx asked }.sendResp env p2pID
          (some frontService) (Service.errorCodeText errorCode) request)
      else none
  | .respond response shuffled =>
    match journey.responses[response]? with
    | none => none
    | some (p2pID, frame) =>
      match read env frame with
      | none => none
      | some message =>
        let journey := { journey with responses := journey.responses.eraseIdx response }
        if p2pID ∈ journey.retry.pending then
          let answer := responded p2pID message shuffled
          (Retry.step env lexicalCast journey.retry answer).map (journey.resume env answer)
        else some journey
  | .fail p2pID e shuffled =>
    if code : e.errorCode ≠ P2PExceptionType.success then
      let answer := failed p2pID code shuffled
      (Retry.step env lexicalCast journey.retry answer).map (journey.resume env answer)
    else none
  | .respondAgain response shuffled =>
    match journey.responses[response]? with
    | none => none
    | some (p2pID, frame) =>
      match read env frame with
      | none => none
      | some message =>
        let journey := { journey with responses := journey.responses.eraseIdx response }
        let answer := responded p2pID message shuffled
        (Retry.again env lexicalCast journey.retry answer).map (journey.resume env answer)
  | .failAgain p2pID e shuffled =>
    if code : e.errorCode ≠ P2PExceptionType.success then
      let answer := failed p2pID code shuffled
      (Retry.again env lexicalCast journey.retry answer).map (journey.resume env answer)
    else none

end Journey

structure Letter (Key : Type) where
  seq : UInt32
  groupID : StdString
  srcNodeID : Key
  dstNodeID : Key
  payload : Bytes

namespace Letter

variable {φ Key : Type} (env : Environment Key) (letter : Letter Key)

def message : P2PMessage :=
  Gateway.newP2PMessage env letter.seq letter.groupID letter.srcNodeID letter.dstNodeID
    letter.payload

def arrived : P2PMessage :=
  Gateway.arrived env letter.seq letter.groupID letter.srcNodeID letter.dstNodeID letter.payload

def Fits : Prop := Gateway.Fits env letter.groupID letter.srcNodeID letter.dstNodeID letter.payload

def call (frontService : φ) : Action φ Key :=
  .onReceiveMessage frontService letter.groupID letter.srcNodeID letter.payload
    (some (letter.arrived env))

def addressee (manager : GatewayNodeManager φ) : Option φ :=
  manager.queryFrontServiceInterfaceByGroupIDAndNodeID letter.groupID
    (env.keyFactory.hex letter.dstNodeID)

end Letter

namespace Journey

variable {φ Key : Type} {env : Environment Key} {letter : Letter Key}

theorem read_encode {message received : P2PMessage}
    (decoded : P2PMessage.decode env.fw {} (message.encode env.fw).2 =
      .ok (((message.encode env.fw).2.length : Int), received)) :
    read env (message.encode env.fw).2 = some received := by
  have long := P2PMessage.headerLength_le_encode env.fw message
  have positive : ((message.encode env.fw).2.length : Int) > 0 := by omega
  unfold read
  rw [decoded]
  exact if_pos positive

theorem read_request (fits : letter.Fits env) :
    read env ((letter.message env).encode env.fw).2 = some (letter.arrived env) := by
  have decoded := P2PMessage.decode_encode env.fw (Gateway.Fits.encodable fits letter.seq)
    (Gateway.Fits.sized fits letter.seq) (Gateway.Fits.uniform fits letter.seq) []
  rw [List.append_nil] at decoded
  exact read_encode decoded

theorem read_response (plain : ({} : P2PMessage).hasOptions env.fw = false) {code : Int}
    (int : Gateway.IntCode code) (request : P2PMessage) :
    read env ((Service.response (Service.errorCodeText code) request).encode env.fw).2 =
      some ((Service.response (Service.errorCodeText code) request).received env.fw) := by
  have decoded := Gateway.response_encode plain int request []
  rw [List.append_nil] at decoded
  exact read_encode decoded

/-- An attempt goes to a gateway that had none before it. -/
theorem retry_invoked {lexicalCast : StdString → Option Int} {retry next : Retry} {answer : Answer}
    (invoked : Retry.Invoked env lexicalCast retry answer next) :
    next.p2pMessage = retry.p2pMessage ∧ ∃ attempts, next.sent = retry.sent ++ attempts ∧
      next.pending = retry.pending.erase answer.p2pID ++ attempts := by
  rcases Retry.Invoked.cases env lexicalCast invoked with
    ⟨report, rfl, _⟩ | ⟨p2pID, p2pIDs, _, rfl⟩
  · exact ⟨rfl, [], (List.append_nil _).symm, (List.append_nil _).symm⟩
  · exact ⟨rfl, [p2pID], rfl, rfl⟩

section Invariant

variable [DecidableEq φ] (env) (lexicalCast : StdString → Option Int)
  (msgHandlers : KeySet UInt16) (sender : P2pID) (letter) (candidates : KeySet P2pID)
  (start : Journey φ Key)

inductive Replied (journey : Journey φ Key) (p2pID : P2pID) (code : Int) : Prop
  | called (frontService : φ) (received : (p2pID, letter.call env frontService) ∈ journey.received)
    (sent : (p2pID, some frontService, Service.errorCodeText code) ∈ journey.replies) :
    Replied journey p2pID code
  | unknown (notFound : code = env.commonError.notFoundFrontServiceDispatchMsg)
    (sent : (p2pID, none, Service.errorCodeText code) ∈ journey.replies) :
    Replied journey p2pID code

def Called (events : List (Event φ)) (p2pID : P2pID) (action : Action φ Key) : Prop :=
  ∃ frontService moment,
    Transition.Passes (step env lexicalCast msgHandlers sender) start events moment ∧
      letter.addressee env (moment.gateways p2pID) = some frontService ∧
      action = letter.call env frontService

def UnderWay (journey : Journey φ Key) (p2pID : P2pID) : Prop :=
  p2pID ∈ journey.requests.map Prod.fst ∨ p2pID ∈ journey.asked.map Prod.fst ∨
    p2pID ∈ journey.responses.map Prod.fst

/-- The invariant. Each attempt is in one place, and what is there is what the letter says. -/
structure Sound (events : List (Event φ)) (journey : Journey φ Key) : Prop where
  retry : Retry.Loose env lexicalCast candidates journey.answers journey.retry
  message : journey.retry.p2pMessage = letter.message env
  once : (journey.requests.map Prod.fst ++ journey.received.map Prod.fst).Nodup
  sent : ∀ p2pID ∈ journey.requests.map Prod.fst ++ journey.received.map Prod.fst,
    p2pID ∈ journey.retry.sent
  frames : ∀ p2pID frame, (p2pID, frame) ∈ journey.requests →
    frame = ((letter.message env).encode env.fw).2
  called : ∀ p2pID action, (p2pID, action) ∈ journey.received →
    Called env letter lexicalCast msgHandlers sender start events p2pID action
  asked : ∀ p2pID frontService request, (p2pID, frontService, request) ∈ journey.asked →
    request = letter.arrived env ∧ (p2pID, letter.call env frontService) ∈ journey.received
  responses : ∀ p2pID frame, (p2pID, frame) ∈ journey.responses → ∃ code,
    Gateway.IntCode code ∧ Replied env letter journey p2pID code ∧
      frame = ((Service.response (Service.errorCodeText code) (letter.arrived env)).encode env.fw).2
  answered : ∀ answer ∈ journey.answers, answer.e.errorCode = P2PExceptionType.success →
    ∃ code message, Replied env letter journey answer.p2pID code ∧
      answer.message = some message ∧ lexicalCast message.payload = some code

def Waiting (journey : Journey φ Key) : Prop :=
  ∀ p2pID ∈ journey.retry.pending, p2pID ∈ journey.unsent ∨ journey.UnderWay p2pID

variable {env letter lexicalCast msgHandlers sender candidates start}
  {events : List (Event φ)} {journey : Journey φ Key}

theorem Called.append {p2pID : P2pID} {action : Action φ Key}
    (called : Called env letter lexicalCast msgHandlers sender start events p2pID action)
    (event : Event φ) :
    Called env letter lexicalCast msgHandlers sender start (events ++ [event]) p2pID action := by
  obtain ⟨frontService, moment, passes, found, rfl⟩ := called
  exact ⟨frontService, moment, passes.append [event], found, rfl⟩

omit [DecidableEq φ] in
theorem Replied.mono {p2pID : P2pID} {code : Int} {after : Journey φ Key}
    (replied : Replied env letter journey p2pID code)
    (received : ∀ call ∈ journey.received, call ∈ after.received)
    (replies : ∀ reply ∈ journey.replies, reply ∈ after.replies) :
    Replied env letter after p2pID code := by
  cases replied with
  | called frontService call sent => exact .called frontService (received _ call) (replies _ sent)
  | unknown notFound sent => exact .unknown notFound (replies _ sent)

omit [DecidableEq φ] in
theorem launched (env : Environment Key) (journey : Journey φ Key) {attempts : List P2pID}
    {retry : Retry} (sent : retry.sent = journey.retry.sent ++ attempts) (answer : Answer) :
    (journey.resume env answer retry).requests = journey.requests ++
        (attempts.filter journey.connected).map (fun p2pID =>
          (p2pID, (retry.p2pMessage.encode env.fw).2)) ∧
      (journey.resume env answer retry).requests.map Prod.fst =
        journey.requests.map Prod.fst ++ attempts.filter journey.connected ∧
      (journey.resume env answer retry).unsent =
        journey.unsent ++ attempts.filter fun p2pID => !journey.connected p2pID := by
  have fresh : retry.sent.drop journey.retry.sent.length = attempts := by
    rw [sent, List.drop_left]
  unfold resume launch
  simp only [fresh, List.map_append, List.map_map]
  exact ⟨trivial, congrArg _ (List.map_id _), trivial⟩

/-- What a callback starts goes where the letter has not been. -/
theorem Sound.resume (sound : Sound env letter lexicalCast msgHandlers sender candidates start
      events journey) {answer : Answer} {retry : Retry}
    (replied : answer.e.errorCode = P2PExceptionType.success → ∃ code message,
      Replied env letter journey answer.p2pID code ∧ answer.message = some message ∧
        lexicalCast message.payload = some code)
    (invoked : Retry.Invoked env lexicalCast journey.retry answer retry) :
    Sound env letter lexicalCast msgHandlers sender candidates start events
      (journey.resume env answer retry) := by
  have reached := sound.retry.invoked env lexicalCast invoked
  obtain ⟨message, attempts, sent, _⟩ := retry_invoked invoked
  obtain ⟨requests, tokens, _⟩ := launched env journey sent answer
  have distinct := reached.sent_nodup
  rw [sent] at distinct
  obtain ⟨_, attemptsOnce, apart⟩ := List.nodup_append.mp distinct
  refine ⟨reached, message.trans sound.message, ?_, ?_, ?_, sound.called, sound.asked,
    fun p2pID frame member => ?_, fun other member succeeded => ?_⟩
  · rw [tokens, List.append_assoc]
    refine (List.Perm.append_left _ List.perm_append_comm).nodup_iff.mp ?_
    rw [← List.append_assoc]
    refine List.nodup_append.mpr ⟨sound.once, attemptsOnce.filter _, fun old before new attempt => ?_⟩
    exact apart old (sound.sent old before) new (List.mem_of_mem_filter attempt)
  · intro p2pID member
    rw [tokens, List.append_assoc] at member
    show p2pID ∈ retry.sent
    rw [sent]
    rcases List.mem_append.mp member with old | rest
    · exact List.mem_append_left _ (sound.sent p2pID (List.mem_append_left _ old))
    rcases List.mem_append.mp rest with new | old
    · exact List.mem_append_right _ (List.mem_of_mem_filter new)
    · exact List.mem_append_left _ (sound.sent p2pID (List.mem_append_right _ old))
  · intro p2pID frame member
    rw [requests] at member
    rcases List.mem_append.mp member with old | new
    · exact sound.frames p2pID frame old
    · obtain ⟨attempt, _, same⟩ := List.mem_map.mp new
      cases same
      rw [message, sound.message]
  · obtain ⟨code, int, said, framed⟩ := sound.responses p2pID frame member
    exact ⟨code, int, said.mono (fun _ => id) fun _ => id, framed⟩
  · rcases List.mem_append.mp member with old | new
    · obtain ⟨code, received, said, rest⟩ := sound.answered other old succeeded
      exact ⟨code, received, said.mono (fun _ => id) fun _ => id, rest⟩
    · cases List.mem_singleton.mp new
      obtain ⟨code, received, said, rest⟩ := replied succeeded
      exact ⟨code, received, said.mono (fun _ => id) fun _ => id, rest⟩

/-- A callback ends its own attempt, and what it starts is under way. -/
theorem Sound.resume_waiting (sound : Sound env letter lexicalCast msgHandlers sender candidates
      start events journey) {answer : Answer} {retry : Retry}
    (invoked : Retry.Invoked env lexicalCast journey.retry answer retry)
    (others : ∀ p2pID ∈ journey.retry.pending, p2pID ≠ answer.p2pID →
      p2pID ∈ journey.unsent ∨ journey.UnderWay p2pID) :
    (journey.resume env answer retry).Waiting := by
  obtain ⟨_, attempts, sent, pending⟩ := retry_invoked invoked
  obtain ⟨_, tokens, unsent⟩ := launched env journey sent answer
  have distinct : journey.retry.pending.Nodup :=
    sound.retry.waits.nodup sound.retry.sent_nodup
  intro p2pID waits
  have waits : p2pID ∈ retry.pending := waits
  rw [pending] at waits
  unfold UnderWay
  rw [unsent, tokens]
  rcases List.mem_append.mp waits with old | new
  · obtain ⟨apart, before⟩ := (distinct.mem_erase_iff).mp old
    rcases others p2pID before apart with lost | request | rest
    · exact .inl (List.mem_append_left _ lost)
    · exact .inr (.inl (List.mem_append_left _ request))
    · exact .inr (.inr rest)
  · cases linked : journey.connected p2pID with
    | true => exact .inr (.inl (List.mem_append_right _ (List.mem_filter.mpr ⟨new, linked⟩)))
    | false =>
      have lost : (!journey.connected p2pID) = true := by
        rw [linked]
        rfl
      exact .inl (List.mem_append_right _ (List.mem_filter.mpr ⟨new, lost⟩))

theorem Sound.append (sound : Sound env letter lexicalCast msgHandlers sender candidates start
      events journey) (event : Event φ) :
    Sound env letter lexicalCast msgHandlers sender candidates start (events ++ [event]) journey :=
  { sound with called := fun p2pID action member =>
      (sound.called p2pID action member).append event }

structure Fewer (journey after : Journey φ Key) : Prop where
  retry : after.retry = journey.retry
  answers : after.answers = journey.answers
  received : after.received = journey.received
  replies : after.replies = journey.replies
  requests : after.requests.Sublist journey.requests
  asked : ∀ waiting ∈ after.asked, waiting ∈ journey.asked
  responses : ∀ response ∈ after.responses, response ∈ journey.responses

theorem Sound.fewer (sound : Sound env letter lexicalCast msgHandlers sender candidates start
      events journey) {after : Journey φ Key} (fewer : Fewer journey after) :
    Sound env letter lexicalCast msgHandlers sender candidates start events after := by
  have said {p2pID : P2pID} {code : Int} (replied : Replied env letter journey p2pID code) :
      Replied env letter after p2pID code := by
    apply replied.mono
    · intro call member
      rw [fewer.received]
      exact member
    · intro reply member
      rw [fewer.replies]
      exact member
  have tokens : (after.requests.map Prod.fst ++ after.received.map Prod.fst).Sublist
      (journey.requests.map Prod.fst ++ journey.received.map Prod.fst) := by
    rw [fewer.received]
    exact (fewer.requests.map Prod.fst).append_right _
  constructor
  · rw [fewer.retry, fewer.answers]
    exact sound.retry
  · rw [fewer.retry]
    exact sound.message
  · exact tokens.nodup sound.once
  · intro p2pID member
    rw [fewer.retry]
    exact sound.sent p2pID (tokens.subset member)
  · exact fun p2pID frame member => sound.frames p2pID frame (fewer.requests.subset member)
  · rw [fewer.received]
    exact sound.called
  · rw [fewer.received]
    exact fun p2pID frontService request member =>
      sound.asked p2pID frontService request (fewer.asked _ member)
  · intro p2pID frame member
    obtain ⟨code, int, replied, framed⟩ := sound.responses p2pID frame (fewer.responses _ member)
    exact ⟨code, int, said replied, framed⟩
  · rw [fewer.answers]
    intro answer member succeeded
    obtain ⟨code, message, replied, rest⟩ := sound.answered answer member succeeded
    exact ⟨code, message, said replied, rest⟩

theorem Sound.sendResp (sound : Sound env letter lexicalCast msgHandlers sender candidates start
      events journey) {p2pID : P2pID} {who : Option φ} {code : Int} (int : Gateway.IntCode code)
    (replied : Replied env letter (journey.sendResp env p2pID who (Service.errorCodeText code)
      (letter.arrived env)) p2pID code) :
    Sound env letter lexicalCast msgHandlers sender candidates start events
      (journey.sendResp env p2pID who (Service.errorCodeText code) (letter.arrived env)) := by
  have said {other : P2pID} {code' : Int} (before : Replied env letter journey other code') :
      Replied env letter (journey.sendResp env p2pID who (Service.errorCodeText code)
        (letter.arrived env)) other code' :=
    before.mono (fun _ => id) fun _ => List.mem_append_left _
  refine ⟨sound.retry, sound.message, sound.once, sound.sent, sound.frames, sound.called,
    sound.asked, fun other frame member => ?_, fun answer member succeeded => ?_⟩
  · rcases List.mem_append.mp member with old | new
    · obtain ⟨code, int, before, framed⟩ := sound.responses other frame old
      exact ⟨code, int, said before, framed⟩
    · cases List.mem_singleton.mp new
      exact ⟨code, int, replied, rfl⟩
  · obtain ⟨code, message, before, rest⟩ := sound.answered answer member succeeded
    exact ⟨code, message, said before, rest⟩

/-- The letter is handed to a front service of a gateway that has not had it yet. -/
theorem Sound.receive (sound : Sound env letter lexicalCast msgHandlers sender candidates start
      events journey) {p2pID : P2pID} {frontService : φ} (attempted : p2pID ∈ journey.retry.sent)
    (fresh : p2pID ∉ journey.requests.map Prod.fst ++ journey.received.map Prod.fst)
    (called : Called env letter lexicalCast msgHandlers sender start events p2pID
      (letter.call env frontService)) :
    Sound env letter lexicalCast msgHandlers sender candidates start events
      (journey.perform env p2pID (letter.call env frontService)) := by
  have said {other : P2pID} {code : Int} (before : Replied env letter journey other code) :
      Replied env letter (journey.perform env p2pID (letter.call env frontService)) other code :=
    before.mono (fun _ => List.mem_append_left _) fun _ => id
  have tokens : (journey.perform env p2pID (letter.call env frontService)).requests.map Prod.fst ++
      (journey.perform env p2pID (letter.call env frontService)).received.map Prod.fst =
        journey.requests.map Prod.fst ++ journey.received.map Prod.fst ++ [p2pID] := by
    unfold Letter.call perform
    rw [List.map_append, List.append_assoc]
    rfl
  refine ⟨sound.retry, sound.message, ?_, ?_, sound.frames, fun other action member => ?_,
    fun other asked request member => ?_, fun other frame member => ?_,
    fun answer member succeeded => ?_⟩
  · rw [tokens]
    refine List.nodup_append.mpr ⟨sound.once, List.nodup_singleton _, fun old before new same => ?_⟩
    rintro rfl
    rw [List.mem_singleton.mp same] at before
    exact fresh before
  · rw [tokens]
    intro other member
    rcases List.mem_append.mp member with old | new
    · exact sound.sent other old
    · rw [List.mem_singleton.mp new]
      exact attempted
  · rcases List.mem_append.mp member with old | new
    · exact sound.called other action old
    · cases List.mem_singleton.mp new
      exact called
  · rcases List.mem_append.mp member with old | new
    · obtain ⟨same, before⟩ := sound.asked other asked request old
      exact ⟨same, List.mem_append_left _ before⟩
    · cases List.mem_singleton.mp new
      exact ⟨rfl, List.mem_append_right _ (List.mem_singleton_self _)⟩
  · obtain ⟨code, int, before, framed⟩ := sound.responses other frame member
    exact ⟨code, int, said before, framed⟩
  · obtain ⟨code, message, before, rest⟩ := sound.answered answer member succeeded
    exact ⟨code, message, said before, rest⟩

omit [DecidableEq φ] in
theorem Waiting.kept (waiting : journey.Waiting) {after : Journey φ Key}
    (retry : after.retry = journey.retry) (unsent : after.unsent = journey.unsent)
    (underWay : ∀ p2pID ∈ journey.retry.pending, journey.UnderWay p2pID → after.UnderWay p2pID) :
    after.Waiting := by
  intro p2pID pending
  rw [retry] at pending
  rw [unsent]
  exact (waiting p2pID pending).imp_right (underWay p2pID pending)

omit [DecidableEq φ] in
theorem mem_tokens {α : Type} {tokens : List (P2pID × α)} {place : Nat} {p2pID other : P2pID}
    {token : α} (found : tokens[place]? = some (p2pID, token))
    (member : other ∈ tokens.map Prod.fst) :
    other = p2pID ∨ other ∈ (tokens.eraseIdx place).map Prod.fst := by
  obtain ⟨held, inside, rfl⟩ := List.mem_map.mp member
  rcases Places.mem_eraseIdx_or found inside with same | rest
  · exact .inl (congrArg Prod.fst same)
  · exact .inr (List.mem_map_of_mem rest)

/-- A gateway that the letter has reached calls the addressee, or answers that it has none. -/
theorem Sound.deliver (sound : Sound env letter lexicalCast msgHandlers sender candidates start
      events journey) (waiting : journey.Waiting)
    (int : Gateway.IntCode env.commonError.notFoundFrontServiceDispatchMsg)
    {request : Nat} {p2pID : P2pID} {frame : Bytes}
    (found : journey.requests[request]? = some (p2pID, frame)) (manager : GatewayNodeManager φ)
    (called : ∀ frontService,
      letter.addressee env (journey.gateways p2pID) = some frontService →
        Called env letter lexicalCast msgHandlers sender start events p2pID
          (letter.call env frontService)) {next : Journey φ Key}
    (taken : (Gateway.onReceiveP2PMessage env (journey.gateways p2pID) letter.groupID
        letter.srcNodeID letter.dstNodeID letter.payload (letter.arrived env)).foldl
          (perform env p2pID)
            { journey with
              requests := journey.requests.eraseIdx request
              gateways := Function.update journey.gateways p2pID manager } = next) :
    Sound env letter lexicalCast msgHandlers sender candidates start events next ∧
      next.Waiting := by
  have left : Sound env letter lexicalCast msgHandlers sender candidates start events
      { journey with
        requests := journey.requests.eraseIdx request
        gateways := Function.update journey.gateways p2pID manager } :=
    sound.fewer ⟨rfl, rfl, rfl, rfl, List.eraseIdx_sublist _ _, fun _ => id, fun _ => id⟩
  unfold Gateway.onReceiveP2PMessage at taken
  cases addressed : letter.addressee env (journey.gateways p2pID) with
  | none =>
    have query := addressed
    unfold Letter.addressee at query
    rw [query] at taken
    subst taken
    refine ⟨left.sendResp int (.unknown rfl ?_), waiting.kept rfl rfl fun other _ => ?_⟩
    · exact List.mem_append_right _ (List.mem_singleton_self _)
    · rintro (sent | asked | responses)
      · rcases mem_tokens found sent with rfl | rest
        · exact .inr (.inr (List.mem_map_of_mem
            (List.mem_append_right _ (List.mem_singleton_self _))))
        · exact .inl rest
      · exact .inr (.inl asked)
      · refine .inr (.inr ?_)
        obtain ⟨response, member, rfl⟩ := List.mem_map.mp responses
        exact List.mem_map_of_mem (List.mem_append_left _ member)
  | some frontService =>
    have query := addressed
    unfold Letter.addressee at query
    rw [query] at taken
    subst taken
    have member : p2pID ∈ journey.requests.map Prod.fst :=
      List.mem_map_of_mem (List.mem_of_getElem? found)
    have fresh : p2pID ∉ (journey.requests.eraseIdx request).map Prod.fst ++
        journey.received.map Prod.fst := by
      have moved := ((Places.perm_eraseIdx found).map Prod.fst).append_right
        (journey.received.map Prod.fst)
      exact (List.nodup_cons.mp (moved.nodup_iff.mpr sound.once)).1
    refine ⟨left.receive (sound.sent p2pID (List.mem_append_left _ member)) fresh
      (called frontService addressed), waiting.kept rfl rfl fun other _ => ?_⟩
    rintro (sent | asked | responses)
    · rcases mem_tokens found sent with rfl | rest
      · exact .inr (.inl (List.mem_map_of_mem
          (List.mem_append_right _ (List.mem_singleton_self _))))
      · exact .inl rest
    · refine .inr (.inl ?_)
      obtain ⟨front, member, rfl⟩ := List.mem_map.mp asked
      exact List.mem_map_of_mem (List.mem_append_left _ member)
    · exact .inr (.inr responses)

/-- What a run of the letter relies on: its frame, the codes of the answers, and a number that no
    other handler was registered for. -/
structure Carried (env : Environment Key) (letter : Letter Key)
    (lexicalCast : StdString → Option Int) (msgHandlers : KeySet UInt16) : Prop where
  fits : letter.Fits env
  keys : ∀ key, env.keyFactory.createKey (env.keyFactory.encode key) = key
  plain : ({} : P2PMessage).hasOptions env.fw = false
  casts : ∀ code, Gateway.IntCode code → lexicalCast (Service.errorCodeText code) = some code
  unhandled : env.fw.messageType.peerToPeerMessage ∉ msgHandlers
  notFound : Gateway.IntCode env.commonError.notFoundFrontServiceDispatchMsg ∧
    env.commonError.notFoundFrontServiceDispatchMsg ≠ env.commonError.success

/-- A response that reaches the callback of its attempt. -/
theorem Sound.respond (carried : Carried env letter lexicalCast msgHandlers)
    (sound : Sound env letter lexicalCast msgHandlers sender candidates start events journey)
    (waiting : journey.Waiting) {response : Nat} {p2pID : P2pID} {frame : Bytes}
    (found : journey.responses[response]? = some (p2pID, frame)) {code : Int}
    (int : Gateway.IntCode code) (replied : Replied env letter journey p2pID code)
    {shuffled : List P2pID} {retry : Retry}
    (invoked : Retry.Invoked env lexicalCast journey.retry (responded p2pID
      ((Service.response (Service.errorCodeText code) (letter.arrived env)).received env.fw)
      shuffled) retry) {next : Journey φ Key}
    (resumed : { journey with responses := journey.responses.eraseIdx response }.resume env
      (responded p2pID
        ((Service.response (Service.errorCodeText code) (letter.arrived env)).received env.fw)
        shuffled) retry = next) :
    Sound env letter lexicalCast msgHandlers sender candidates start events next ∧
      next.Waiting := by
  subst resumed
  have left : Sound env letter lexicalCast msgHandlers sender candidates start events
      { journey with responses := journey.responses.eraseIdx response } :=
    sound.fewer ⟨rfl, rfl, rfl, rfl, .refl _, fun _ => id, fun _ => List.mem_of_mem_eraseIdx⟩
  have said : Replied env letter
      { journey with responses := journey.responses.eraseIdx response } p2pID code :=
    replied.mono (fun _ => id) fun _ => id
  refine ⟨left.resume (fun _ => ⟨code, _, said, rfl, carried.casts code int⟩) invoked,
    left.resume_waiting invoked fun other pending apart => ?_⟩
  rcases waiting other pending with unsent | request | asked | responses
  · exact .inl unsent
  · exact .inr (.inl request)
  · exact .inr (.inr (.inl asked))
  · rcases mem_tokens found responses with same | rest
    · exact absurd same apart
    · exact .inr (.inr (.inr rest))

theorem Sound.fail (sound : Sound env letter lexicalCast msgHandlers sender candidates start events
      journey) (waiting : journey.Waiting) {p2pID : P2pID} {e : NetworkException}
    (code : e.errorCode ≠ P2PExceptionType.success) {shuffled : List P2pID} {retry : Retry}
    (invoked : Retry.Invoked env lexicalCast journey.retry (failed p2pID code shuffled) retry) :
    Sound env letter lexicalCast msgHandlers sender candidates start events
        (journey.resume env (failed p2pID code shuffled) retry) ∧
      (journey.resume env (failed p2pID code shuffled) retry).Waiting :=
  ⟨sound.resume (fun succeeded => absurd succeeded code) invoked,
    sound.resume_waiting invoked fun other pending _ => waiting other pending⟩

theorem Sound.step (carried : Carried env letter lexicalCast msgHandlers)
    (sound : Sound env letter lexicalCast msgHandlers sender candidates start events journey)
    (waiting : journey.Waiting)
    (ran : Transition.run (step env lexicalCast msgHandlers sender) start events = some journey)
    {event : Event φ} {next : Journey φ Key}
    (taken : Journey.step env lexicalCast msgHandlers sender journey event = some next) :
    Sound env letter lexicalCast msgHandlers sender candidates start (events ++ [event]) next ∧
      next.Waiting := by
  cases event with
  | change p2pID manager =>
    cases taken
    exact ⟨(sound.append _).fewer ⟨rfl, rfl, rfl, rfl, .refl _, fun _ => id, fun _ => id⟩,
      waiting⟩
  | connect p2pID up =>
    cases taken
    exact ⟨(sound.append _).fewer ⟨rfl, rfl, rfl, rfl, .refl _, fun _ => id, fun _ => id⟩,
      waiting⟩
  | deliver request =>
    simp only [Journey.step] at taken
    split at taken
    · cases taken
    rename_i p2pID frame found
    rw [sound.frames p2pID frame (List.mem_of_getElem? found), read_request carried.fits] at taken
    simp only at taken
    have dispatched : Service.dispatch env msgHandlers (journey.gateways p2pID) sender
        (letter.arrived env) = .ok (journey.gateways p2pID, Gateway.onReceiveP2PMessage env
          (journey.gateways p2pID) letter.groupID letter.srcNodeID letter.dstNodeID letter.payload
          (letter.arrived env)) :=
      Gateway.dispatch_arrived carried.keys carried.unhandled (journey.gateways p2pID) sender
        letter.seq
    rw [dispatched] at taken
    refine (sound.append _).deliver waiting carried.notFound.1 found (journey.gateways p2pID)
      (fun frontService addressed => ?_) (Option.some.inj taken)
    exact ⟨frontService, journey, (Transition.Passes.of_run ran).append _, addressed, rfl⟩
  | callback asked errorCode =>
    simp only [Journey.step] at taken
    split at taken
    · cases taken
    rename_i p2pID frontService request found
    split at taken
    · rename_i int
      cases taken
      obtain ⟨rfl, received⟩ := sound.asked p2pID frontService request (List.mem_of_getElem? found)
      have left : Sound env letter lexicalCast msgHandlers sender candidates start
          (events ++ [.callback asked errorCode])
          { journey with asked := journey.asked.eraseIdx asked } :=
        (sound.append _).fewer ⟨rfl, rfl, rfl, rfl, .refl _,
          fun _ => List.mem_of_mem_eraseIdx, fun _ => id⟩
      refine ⟨left.sendResp int (.called frontService received
        (List.mem_append_right _ (List.mem_singleton_self _))),
        waiting.kept rfl rfl fun other _ => ?_⟩
      rintro (sent | called | responses)
      · exact .inl sent
      · rcases mem_tokens found called with rfl | rest
        · exact .inr (.inr (List.mem_map_of_mem
            (List.mem_append_right _ (List.mem_singleton_self _))))
        · exact .inr (.inl rest)
      · refine .inr (.inr ?_)
        obtain ⟨response, member, rfl⟩ := List.mem_map.mp responses
        exact List.mem_map_of_mem (List.mem_append_left _ member)
    · cases taken
  | respond response shuffled =>
    simp only [Journey.step] at taken
    split at taken
    · cases taken
    rename_i p2pID frame found
    obtain ⟨code, int, replied, rfl⟩ := sound.responses p2pID frame (List.mem_of_getElem? found)
    rw [read_response carried.plain int] at taken
    simp only at taken
    split at taken
    · obtain ⟨retry, stepped, resumed⟩ := Option.map_eq_some_iff.mp taken
      exact (sound.append _).respond carried waiting found int replied
        (Retry.step_invoked env lexicalCast stepped) resumed
    · rename_i idle
      cases taken
      refine ⟨(sound.append _).fewer ⟨rfl, rfl, rfl, rfl, .refl _, fun _ => id,
        fun _ => List.mem_of_mem_eraseIdx⟩, waiting.kept rfl rfl fun other pending => ?_⟩
      rintro (sent | asked | responses)
      · exact .inl sent
      · exact .inr (.inl asked)
      · rcases mem_tokens found responses with rfl | rest
        · exact absurd pending idle
        · exact .inr (.inr rest)
  | respondAgain response shuffled =>
    simp only [Journey.step] at taken
    split at taken
    · cases taken
    rename_i p2pID frame found
    obtain ⟨code, int, replied, rfl⟩ := sound.responses p2pID frame (List.mem_of_getElem? found)
    rw [read_response carried.plain int] at taken
    obtain ⟨retry, stepped, resumed⟩ := Option.map_eq_some_iff.mp taken
    exact (sound.append _).respond carried waiting found int replied
      (Retry.again_invoked env lexicalCast stepped).2 resumed
  | fail p2pID e shuffled =>
    simp only [Journey.step] at taken
    split at taken
    · rename_i code
      obtain ⟨retry, stepped, rfl⟩ := Option.map_eq_some_iff.mp taken
      exact (sound.append _).fail waiting code (Retry.step_invoked env lexicalCast stepped)
    · cases taken
  | failAgain p2pID e shuffled =>
    simp only [Journey.step] at taken
    split at taken
    · rename_i code
      obtain ⟨retry, stepped, rfl⟩ := Option.map_eq_some_iff.mp taken
      exact (sound.append _).fail waiting code (Retry.again_invoked env lexicalCast stepped).2
    · cases taken

end Invariant

end Journey

end BcosGateway

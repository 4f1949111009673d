import BcosGateway.Gateway.Retry
import BcosGateway.P2PMessage.Codec
import BcosGateway.Session.Outgoing
import BcosGateway.Service.Basic
import Std.Data.String.ToInt

/-! A message from a node to a node of another gateway, and the answer to it. -/

namespace BcosGateway

namespace Service

def response (payload : Bytes) (request : P2PMessage) : P2PMessage :=
  { ({ seq := request.seq } : P2PMessage).setRespPacket with payload }

theorem sendRespMessageBySession_response {φ Key : Type} (env : Environment Key)
    (service : Service φ) (payload : Bytes) (request : P2PMessage) (object : Nat) :
    service.sendRespMessageBySession env payload request object =
      service.modifySession object fun session =>
        session.asyncSendMessage env.fw (response payload request) {} none := rfl

def errorCodeText (code : Int) : Bytes := asciiString (toString code)

section Answer

variable {φ Key : Type} (env : Environment Key) (service : Service φ)

/-- The callback that `onMessage` gives to the gateway with a message between nodes. `error` is the
    code of the error, if there is one. -/
def errorRespFunc (request : P2PMessage) (object : Nat) (error : Option Int) : Service φ :=
  service.sendRespMessageBySession env (errorCodeText (error.getD env.commonError.success)) request
    object

def sessionAt (object : Nat) : Option (Session Nat) :=
  service.p2pSessions[object]?.map P2PSession.session

def Queues (service after : Service φ) (object : Nat) (frames : List Bytes) : Prop :=
  ∀ session, service.sessionAt object = some session →
    ∃ last, after.sessionAt object = some last ∧
      last.outgoing = session.outgoing ++ if session.isActived then frames else []

variable {env service}

theorem sessionAt_modifySession {object : Nat} {session : Session Nat}
    (found : service.sessionAt object = some session) (update : Session Nat → Session Nat) :
    (service.modifySession object update).sessionAt object = some (update session) := by
  obtain ⟨p2pSession, held, rfl⟩ := Option.map_eq_some_iff.mp found
  simp only [sessionAt, modifySession, modifyP2PSession, List.getElem?_modify, held]
  rfl

theorem sendRespMessageBySession_queues (payload : Bytes) (request : P2PMessage) (object : Nat) :
    Queues service (service.sendRespMessageBySession env payload request object) object
      [((response payload request).encode env.fw).2] := by
  intro session found
  rw [sendRespMessageBySession_response]
  refine ⟨_, sessionAt_modifySession found _, ?_⟩
  cases active : session.isActived with
  | false =>
    rw [session.asyncSendMessage_outgoing_inactive env.fw active]
    exact (List.append_nil _).symm
  | true => exact session.asyncSendMessage_outgoing env.fw active _ _ _

theorem queues_pinned (object : Nat) (count : Nat → Nat) :
    Queues service (service.modifyP2PSession object fun p2pSession =>
      { p2pSession with pinned := count p2pSession.pinned }) object [] := by
  intro session found
  obtain ⟨p2pSession, held, rfl⟩ := Option.map_eq_some_iff.mp found
  refine ⟨p2pSession.session, ?_, by simp⟩
  simp only [sessionAt, modifyP2PSession, List.getElem?_modify, held]
  rfl

end Answer

end Service

namespace Gateway

variable {φ Key : Type} (env : Environment Key)

section Request

variable {env} {groupID : StdString} {srcNodeID dstNodeID : Key} {payload : Bytes}

structure Fits (env : Environment Key) (groupID : StdString) (srcNodeID dstNodeID : Key)
    (payload : Bytes) : Prop where
  group : groupID.length ≤ 65535
  src : 1 ≤ (env.keyFactory.encode srcNodeID).length ∧
    (env.keyFactory.encode srcNodeID).length ≤ 65535
  dst : (env.keyFactory.encode dstNodeID).length = (env.keyFactory.encode srcNodeID).length
  room : 19 + groupID.length + 2 * (env.keyFactory.encode srcNodeID).length + payload.length <
    2 ^ 32

theorem validNodeID_of_length {nodeID : Bytes}
    (length : 1 ≤ nodeID.length ∧ nodeID.length ≤ 65535) :
    P2PMessageOptions.validNodeID (some nodeID) = true := by
  have nonempty : nodeID ≠ [] := List.length_pos_iff.mp length.1
  simp [P2PMessageOptions.validNodeID, P2PMessageOptions.maxNodeIDLength, nonempty, length.2]

theorem hasOptions_newP2PMessage (seq : UInt32) :
    (newP2PMessage env seq groupID srcNodeID dstNodeID payload).hasOptions env.fw = true := by
  simp [P2PMessage.hasOptions, newP2PMessage]

theorem Fits.encodable (fits : Fits env groupID srcNodeID dstNodeID payload) (seq : UInt32) :
    (newP2PMessage env seq groupID srcNodeID dstNodeID payload).Encodable env.fw := by
  intro _
  have dst := validNodeID_of_length (fits.dst ▸ fits.src)
  refine ⟨fits.group, validNodeID_of_length fits.src, ?_, ?_⟩
  · show 1 ≤ P2PMessageOptions.maxDstNodeIDCount
    decide
  · simp [newP2PMessage, dst]

theorem Fits.uniform (fits : Fits env groupID srcNodeID dstNodeID payload) (seq : UInt32) :
    (newP2PMessage env seq groupID srcNodeID dstNodeID payload).Uniform env.fw := by
  intro _ nodeID member
  rw [List.mem_singleton.mp member]
  exact fits.dst

theorem Fits.sized (fits : Fits env groupID srcNodeID dstNodeID payload) (seq : UInt32) :
    (newP2PMessage env seq groupID srcNodeID dstNodeID payload).frameLength env.fw < 2 ^ 32 := by
  have room := fits.room
  have block : (newP2PMessage env seq groupID srcNodeID dstNodeID payload).optionsBytes env.fw =
      (newP2PMessage env seq groupID srcNodeID dstNodeID payload).options.bytes :=
    if_pos (hasOptions_newP2PMessage seq)
  have size := P2PMessageOptions.bytes_length (fits.uniform seq (hasOptions_newP2PMessage seq))
  simp only [P2PMessageOptions.src, newP2PMessage, Option.getD_some, List.length_singleton] at size
  rw [P2PMessage.frameLength, block]
  simp only [newP2PMessage]
  omega

def arrived (env : Environment Key) (seq : UInt32) (groupID : StdString) (srcNodeID dstNodeID : Key)
    (payload : Bytes) : P2PMessage :=
  (newP2PMessage env seq groupID srcNodeID dstNodeID payload).received env.fw

theorem dispatch_arrived [DecidableEq φ] (keys : ∀ key, env.keyFactory.createKey
    (env.keyFactory.encode key) = key) {msgHandlers : KeySet UInt16}
    (unhandled : env.fw.messageType.peerToPeerMessage ∉ msgHandlers)
    (manager : GatewayNodeManager φ) (p2pID : P2pID) (seq : UInt32) :
    Service.dispatch env msgHandlers manager p2pID
        (arrived env seq groupID srcNodeID dstNodeID payload) =
      .ok (manager, onReceiveP2PMessage env manager groupID srcNodeID dstNodeID payload
        (arrived env seq groupID srcNodeID dstNodeID payload)) := by
  have options : (arrived env seq groupID srcNodeID dstNodeID payload).options =
      (newP2PMessage env seq groupID srcNodeID dstNodeID payload).options :=
    if_pos (hasOptions_newP2PMessage seq)
  have type : (arrived env seq groupID srcNodeID dstNodeID payload).packetType =
      env.fw.messageType.peerToPeerMessage := rfl
  rw [Service.dispatch_peerToPeerMessage env (type ▸ unhandled) type, options]
  show Except.ok (manager, onReceiveP2PMessage env manager groupID
    (env.keyFactory.createKey (env.keyFactory.encode srcNodeID))
    (env.keyFactory.createKey (env.keyFactory.encode dstNodeID)) payload _) = _
  rw [keys, keys]

end Request

section Response

def IntCode (code : Int) : Prop := -2 ^ 31 ≤ code ∧ code < 2 ^ 31

instance (code : Int) : Decidable (IntCode code) := inferInstanceAs (Decidable (_ ∧ _))

theorem toString_toList (code : Int) : ∃ sign, (sign = [] ∨ sign = ['-']) ∧
    (toString code).toList = sign ++ Nat.toDigits 10 code.natAbs := by
  cases code with
  | ofNat n =>
    refine ⟨[], .inl rfl, ?_⟩
    show (Int.repr (Int.ofNat n)).toList = _
    simp [Int.repr, Nat.repr_eq_ofList_toDigits]
  | negSucc n =>
    refine ⟨['-'], .inr rfl, ?_⟩
    show (Int.repr (Int.negSucc n)).toList = _
    simp [Int.repr, Nat.repr_eq_ofList_toDigits]

theorem errorCodeText_length {code : Int} (int : IntCode code) :
    (Service.errorCodeText code).length ≤ 11 := by
  obtain ⟨sign, short, text⟩ := toString_toList code
  have digits : (Nat.toDigits 10 code.natAbs).length ≤ 10 := by
    apply (Nat.length_toDigits_le_iff (by omega) (by omega)).mpr
    obtain ⟨low, high⟩ := int
    omega
  rw [Service.errorCodeText, asciiString, List.length_map, text, List.length_append]
  rcases short with rfl | rfl
  · simpa using by omega
  · simpa using by omega

variable {env} (plain : ({} : P2PMessage).hasOptions env.fw = false)

include plain

theorem response_encode {code : Int} (int : IntCode code) (request : P2PMessage) (suffix : Bytes) :
    P2PMessage.decode env.fw {}
        (((Service.response (Service.errorCodeText code) request).encode env.fw).2 ++ suffix) =
      .ok ((((Service.response (Service.errorCodeText code) request).encode env.fw).2.length : Int),
        (Service.response (Service.errorCodeText code) request).received env.fw) := by
  have bare : (Service.response (Service.errorCodeText code) request).hasOptions env.fw = false :=
    plain
  have length := errorCodeText_length int
  apply P2PMessage.decode_encode_plain env.fw bare
  show 14 + (Service.errorCodeText code).length < 2 ^ 32
  omega

end Response

def answer (env : Environment Key) (seq : UInt32) (groupID : StdString) (srcNodeID dstNodeID : Key)
    (payload : Bytes) (code : Int) : Bytes :=
  ((Service.response (Service.errorCodeText code)
    (arrived env seq groupID srcNodeID dstNodeID payload)).encode env.fw).2

/-- Where a message ends up, and what its sender gets to know about it. `service` is that of the
    receiver, `object` the session the frame came from. -/
structure Delivery (φ : Type) [DecidableEq φ] (env : Environment Key)
    (lexicalCast : StdString → Option Int) (seq : UInt32) (groupID : StdString)
    (srcNodeID dstNodeID : Key) (payload : Bytes) : Prop where
  encoded : ((newP2PMessage env seq groupID srcNodeID dstNodeID payload).encode env.fw).1 = true
  decoded : ∀ suffix, P2PMessage.decode env.fw {}
      (((newP2PMessage env seq groupID srcNodeID dstNodeID payload).encode env.fw).2 ++ suffix) =
    .ok ((((newP2PMessage env seq groupID srcNodeID dstNodeID payload).encode env.fw).2.length : Int),
      arrived env seq groupID srcNodeID dstNodeID payload)
  dispatched : ∀ (service : Service φ) (object : Nat),
    env.fw.messageType.peerToPeerMessage ∉ service.msgHandlers → service.alive object →
      service.p2pSessions[object]?.isSome → ∃ after,
        service.onMessage env object Session.success
            (some (arrived env seq groupID srcNodeID dstNodeID payload)) =
          .ok (after, match service.manager.queryFrontServiceInterfaceByGroupIDAndNodeID groupID
              (env.keyFactory.hex dstNodeID) with
            | some frontService => [.onReceiveMessage frontService groupID srcNodeID payload
                (some (arrived env seq groupID srcNodeID dstNodeID payload))]
            | none => [.sendRespMessageBySession
                (Service.errorCodeText env.commonError.notFoundFrontServiceDispatchMsg)
                (arrived env seq groupID srcNodeID dstNodeID payload)]) ∧
        Service.Queues service after object
          (match service.manager.queryFrontServiceInterfaceByGroupIDAndNodeID groupID
              (env.keyFactory.hex dstNodeID) with
            | some _ => []
            | none => [answer env seq groupID srcNodeID dstNodeID payload
                env.commonError.notFoundFrontServiceDispatchMsg])
  called : ∀ (service : Service φ) (object : Nat) (error : Option Int),
    Service.Queues service
      (service.errorRespFunc env (arrived env seq groupID srcNodeID dstNodeID payload) object error)
      object [answer env seq groupID srcNodeID dstNodeID payload
        (error.getD env.commonError.success)]
  answered : ∀ code, IntCode code → ∀ suffix, ∃ size response,
    P2PMessage.decode env.fw {}
        (answer env seq groupID srcNodeID dstNodeID payload code ++ suffix) =
      .ok (size, response) ∧ response.seq = seq ∧ response.isRespPacket = true ∧
      lexicalCast response.payload = some code ∧
      ∀ (retry : Retry) (shuffled : List P2pID),
        retry.onResponse env lexicalCast Session.success (some response) shuffled =
          .ok (if code ≠ env.commonError.success then retry.trySendMessage env shuffled
            else { retry with responses := retry.responses ++ [none] })

theorem onMessage_arrived [DecidableEq φ] {env : Environment Key} (keys : ∀ key,
    env.keyFactory.createKey (env.keyFactory.encode key) = key) (seq : UInt32) (groupID : StdString)
    (srcNodeID dstNodeID : Key) (payload : Bytes) {service : Service φ} {object : Nat}
    (unhandled : env.fw.messageType.peerToPeerMessage ∉ service.msgHandlers)
    (alive : service.alive object) (present : service.p2pSessions[object]?.isSome) :
    service.onMessage env object Session.success
        (some (arrived env seq groupID srcNodeID dstNodeID payload)) =
      .ok ((onReceiveP2PMessage env service.manager groupID srcNodeID dstNodeID payload
          (arrived env seq groupID srcNodeID dstNodeID payload)).foldl
            (Service.perform env object) service,
        onReceiveP2PMessage env service.manager groupID srcNodeID dstNodeID payload
          (arrived env seq groupID srcNodeID dstNodeID payload)) := by
  obtain ⟨p2pSession, found⟩ := Option.isSome_iff_exists.mp present
  unfold Service.onMessage
  rw [if_neg (by simp [alive]), if_neg (by decide), found]
  simp only [dispatch_arrived keys unhandled]
  rfl

theorem onResponse_code {env : Environment Key} {lexicalCast : StdString → Option Int}
    {response : P2PMessage} {code : Int} (cast : lexicalCast response.payload = some code)
    (retry : Retry) (shuffled : List P2pID) :
    retry.onResponse env lexicalCast Session.success (some response) shuffled =
      .ok (if code ≠ env.commonError.success then retry.trySendMessage env shuffled
        else { retry with responses := retry.responses ++ [none] }) := by
  unfold Retry.onResponse
  rw [if_neg (by decide)]
  simp only [cast]
  split
  · rfl
  · rfl

def decimal (text : StdString) : Option Int :=
  (String.ofList (text.map fun byte => Char.ofNat byte.toNat)).toInt?.filter
    fun code => decide (IntCode code)

theorem decimal_errorCodeText (code : Int) (int : IntCode code) :
    decimal (Service.errorCodeText code) = some code := by
  obtain ⟨sign, short, text⟩ := toString_toList code
  have ascii : ∀ char ∈ (toString code).toList, char.toNat < 256 := by
    rw [text]
    intro char member
    rcases List.mem_append.mp member with signed | digit
    · rcases short with rfl | rfl
      · cases signed
      · rw [List.mem_singleton.mp signed]
        decide
    · have isDigit := Nat.isDigit_of_mem_toDigits (by omega) (by omega) digit
      exact Nat.lt_of_le_of_lt (Char.isDigit_iff_toNat.mp isDigit).2 (by decide)
  have back : (Service.errorCodeText code).map (fun byte => Char.ofNat byte.toNat) =
      (toString code).toList := by
    rw [Service.errorCodeText, asciiString, List.map_map]
    refine (List.map_congr_left ?_).trans (List.map_id _)
    intro char member
    have bound := ascii char member
    simp only [Function.comp_apply, UInt8.toNat_ofNat']
    rw [Nat.mod_eq_of_lt bound, Char.ofNat_toNat]
    rfl
  rw [decimal, back, String.ofList_toList, Int.toString_eq_repr, Int.toInt?_repr,
    Option.filter_some, decide_eq_true int]
  rfl

/-- A message that fits a frame reaches the front service of its destination and no other, and the
    sender reads the very code that the receiver answers. -/
theorem p2pMessage_delivered (φ : Type) [DecidableEq φ] (env : Environment Key)
    (lexicalCast : StdString → Option Int)
    (keys : ∀ key, env.keyFactory.createKey (env.keyFactory.encode key) = key)
    (plain : ({} : P2PMessage).hasOptions env.fw = false)
    (casts : ∀ code, IntCode code → lexicalCast (Service.errorCodeText code) = some code)
    (seq : UInt32) (groupID : StdString) (srcNodeID dstNodeID : Key) (payload : Bytes)
    (fits : Fits env groupID srcNodeID dstNodeID payload) :
    Delivery φ env lexicalCast seq groupID srcNodeID dstNodeID payload := by
  have valid := fits.encodable seq
  refine ⟨(P2PMessage.encode_true_iff _ _).mpr valid,
    P2PMessage.decode_encode env.fw valid (fits.sized seq) (fits.uniform seq), ?_, ?_, ?_⟩
  · intro service object unhandled alive present
    have dispatched :=
      onMessage_arrived keys seq groupID srcNodeID dstNodeID payload unhandled alive present
    unfold onReceiveP2PMessage at dispatched
    cases queried : service.manager.queryFrontServiceInterfaceByGroupIDAndNodeID groupID
      (env.keyFactory.hex dstNodeID) with
    | none =>
      rw [queried] at dispatched
      exact ⟨_, dispatched, Service.sendRespMessageBySession_queues _ _ object⟩
    | some frontService =>
      rw [queried] at dispatched
      exact ⟨_, dispatched, Service.queues_pinned object (· + 1)⟩
  · intro service object error
    exact Service.sendRespMessageBySession_queues _ _ object
  · intro code int suffix
    have cast : lexicalCast ((Service.response (Service.errorCodeText code)
        (arrived env seq groupID srcNodeID dstNodeID payload)).received env.fw).payload = some code :=
      casts code int
    have flagged : ((0 ||| MessageExtFieldFlag.response) &&& MessageExtFieldFlag.response != 0) =
        true := by decide
    exact ⟨_, _, response_encode plain int _ suffix, rfl, flagged, cast, onResponse_code cast⟩

theorem oneByte_delivered :
    Delivery Nat (Environment.reading .null) decimal 2 [103] [0] [1] [7] :=
  p2pMessage_delivered Nat (Environment.reading .null) decimal (fun _ => rfl) (by decide)
    decimal_errorCodeText 2 [103] [0] [1] [7]
    ⟨by decide, by decide, by decide, by decide⟩

end Gateway

end BcosGateway

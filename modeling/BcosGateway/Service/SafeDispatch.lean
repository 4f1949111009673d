import BcosGateway.Service.Basic
import BcosGateway.P2PMessage.DecodeWire

/-! What the dispatch reads of a message, against what the decoder lets through. -/

namespace BcosGateway.Service

variable {φ Key : Type} [DecidableEq φ] (env : Environment Key) (msgHandlers : KeySet UInt16)

def Unreadable (message : P2PMessage) : Prop :=
  message.packetType ∉ msgHandlers ∧
    ((message.packetType = env.fw.messageType.heartbeat ∧ message.payload.length < 4) ∨
      (message.packetType = env.fw.messageType.peerToPeerMessage ∧
        message.options.dstNodeIDs = []))

def UnreadableFrame (bytes : Bytes) : Prop :=
  Wire.packetType bytes ∉ msgHandlers ∧
    ((Wire.packetType bytes = env.fw.messageType.heartbeat ∧ Wire.payloadSize env.fw bytes < 4) ∨
      (Wire.packetType bytes = env.fw.messageType.peerToPeerMessage ∧
        Wire.dstNodeCount (Wire.block bytes) = 0))

instance (bytes : Bytes) : Decidable (UnreadableFrame env msgHandlers bytes) :=
  inferInstanceAs (Decidable (_ ∧ _))

structure DispatchedSafely (service : Service φ) (object : Nat) (message : P2PMessage) : Prop where
  safe : ∃ after, service.onMessage env object Session.success (some message) = .ok after
  rejected : Unreadable env service.msgHandlers message →
    service.onMessage env object Session.success (some message) = .ok (service, [])

theorem readNumber_ok_iff (buffer : Bytes) (offset width : Nat) :
    (∃ number, readNumber buffer offset width = .ok number) ↔ offset + width ≤ buffer.length := by
  unfold readNumber readBytes
  by_cases fits : offset + width ≤ buffer.length
  · simp [Bind.bind, Except.bind, Pure.pure, Except.pure, fits]
  · simp [Bind.bind, Except.bind, fits]

theorem dispatch_ok_iff (manager : GatewayNodeManager φ) (p2pID : P2pID) {message : P2PMessage}
    {srcNodeID : Bytes} (src : message.options.srcNodeID = some srcNodeID)
    (dsts : none ∉ message.options.dstNodeIDs) :
    (∃ after, dispatch env msgHandlers manager p2pID message = .ok after) ↔
      ¬ Unreadable env msgHandlers message := by
  have distinct := env.fw.messageType.distinct
  by_cases handled : message.packetType ∈ msgHandlers
  · unfold dispatch
    simp [handled, Unreadable, Pure.pure, Except.pure]
  by_cases heartbeat : message.packetType = env.fw.messageType.heartbeat
  · have request : message.packetType ≠ env.fw.messageType.peerToPeerMessage := by grind
    rw [dispatch_heartbeat env handled heartbeat]
    have unreadable : Unreadable env msgHandlers message ↔ ¬ 0 + 4 ≤ message.payload.length := by
      unfold Unreadable
      grind
    rw [unreadable, not_not, ← readNumber_ok_iff]
    constructor
    · rintro ⟨after, ran⟩
      obtain ⟨statusSeq, read, _⟩ := bind_eq_ok.mp ran
      exact ⟨statusSeq, read⟩
    · rintro ⟨statusSeq, read⟩
      cases changed : manager.onReceiveStatusSeq p2pID (UInt32.ofNat statusSeq)
      · exact ⟨_, bind_eq_ok.mpr ⟨statusSeq, read, by rw [changed]; rfl⟩⟩
      · exact ⟨_, bind_eq_ok.mpr ⟨statusSeq, read, by rw [changed]; rfl⟩⟩
  by_cases request : message.packetType = env.fw.messageType.peerToPeerMessage
  · rw [dispatch_peerToPeerMessage env handled request, src]
    have unreadable : Unreadable env msgHandlers message ↔ message.options.dstNodeIDs = [] := by
      unfold Unreadable
      grind
    rw [unreadable]
    cases found : message.options.dstNodeIDs with
    | nil => simp [dereference, dstNodeIDAt, Bind.bind, Except.bind]
    | cons dstNodeID dstNodeIDs =>
      cases dstNodeID with
      | none => exact absurd (found ▸ List.mem_cons_self) dsts
      | some dstNodeID =>
        simp [dereference, dstNodeIDAt, Bind.bind, Except.bind, Pure.pure, Except.pure]
  · have readable : ¬ Unreadable env msgHandlers message := by
      simp [Unreadable, heartbeat, request]
    refine iff_of_true ?_ readable
    unfold dispatch
    simp only [handled, heartbeat, request, src, if_false]
    split
    · exact ⟨_, rfl⟩
    split
    · cases (manager.onRequestNodeIDs env.json).isEmpty <;> exact ⟨_, rfl⟩
    split
    · exact ⟨_, rfl⟩
    split <;> exact ⟨_, rfl⟩

theorem onMessage_alive {service : Service φ} {object : Nat} {p2pSession : P2PSession}
    (present : service.p2pSessions[object]? = some p2pSession) (alive : service.alive object)
    (message : P2PMessage) :
    service.onMessage env object Session.success (some message) = (do
      let (manager, actions) ←
        dispatch env service.msgHandlers service.manager p2pSession.p2pID message
      return (actions.foldl (perform env object) { service with manager }, actions)) := by
  unfold onMessage
  rw [alive, present]
  rfl

theorem unreadable_ofWire (bytes : Bytes) (received : Wire.length bytes ≤ bytes.length) :
    Unreadable env msgHandlers (P2PMessage.ofWire env.fw bytes) ↔
      UnreadableFrame env msgHandlers bytes := by
  unfold Unreadable UnreadableFrame
  rw [P2PMessage.ofWire_payload_length env.fw bytes received]
  have type : (P2PMessage.ofWire env.fw bytes).packetType = Wire.packetType bytes := rfl
  rw [type]
  by_cases request : Wire.packetType bytes = env.fw.messageType.peerToPeerMessage
  · have carries : Wire.hasOptions env.fw bytes = true := by
      have header : (Wire.header bytes).packetType = Wire.packetType bytes := rfl
      simp [Wire.hasOptions, P2PMessage.hasOptions, header, request]
    have dsts : (P2PMessage.ofWire env.fw bytes).options.dstNodeIDs =
        (Wire.dstNodeIDs (Wire.block bytes)).map some := by
      unfold P2PMessage.ofWire
      rw [if_pos carries]
      rfl
    rw [dsts, List.map_eq_nil_iff, Wire.dstNodeIDs, List.map_eq_nil_iff, List.range_eq_nil]
  · simp only [request, false_and]

/-- What the decoder accepts is dispatched safely unless it is a heartbeat or a request that has
    not what their branches read: the decoder asks for neither. -/
theorem dispatchedSafely_iff {service : Service φ} {object : Nat} {p2pSession : P2PSession}
    (present : service.p2pSessions[object]? = some p2pSession)
    {bytes : Bytes} {result : Int} {message : P2PMessage}
    (decoded : P2PMessage.decode env.fw {} bytes = .ok (result, message)) (positive : 0 < result) :
    DispatchedSafely env service object message ↔
      ¬ (service.alive object ∧ UnreadableFrame env service.msgHandlers bytes) := by
  obtain ⟨_, rfl, _, received, _⟩ := P2PMessage.decode_positive env.fw bytes decoded positive
  rw [← unreadable_ofWire env service.msgHandlers bytes received]
  cases alive : service.alive object with
  | false =>
    have skipped : service.onMessage env object Session.success
        (some (P2PMessage.ofWire env.fw bytes)) = .ok (service, []) := by
      unfold onMessage
      rw [alive]
      rfl
    exact iff_of_true ⟨⟨_, skipped⟩, fun _ => skipped⟩ fun lacking => (by cases lacking.1)
  | true =>
    obtain ⟨srcNodeID, src⟩ : ∃ srcNodeID,
        (P2PMessage.ofWire env.fw bytes).options.srcNodeID = some srcNodeID := by
      unfold P2PMessage.ofWire
      split <;> exact ⟨_, rfl⟩
    have dsts : none ∉ (P2PMessage.ofWire env.fw bytes).options.dstNodeIDs := by
      unfold P2PMessage.ofWire
      split
      · intro member
        obtain ⟨_, _, absurd⟩ := List.mem_map.mp member
        cases absurd
      · exact List.not_mem_nil
    have dispatched :=
      dispatch_ok_iff env service.msgHandlers service.manager p2pSession.p2pID src dsts
    have ran := onMessage_alive env present alive (P2PMessage.ofWire env.fw bytes)
    constructor
    · intro safely lacking
      obtain ⟨after, done⟩ := safely.safe
      rw [ran] at done
      obtain ⟨outcome, first, _⟩ := bind_eq_ok.mp done
      exact dispatched.mp ⟨outcome, first⟩ lacking.2
    · intro readable
      have fine : ¬ Unreadable env service.msgHandlers (P2PMessage.ofWire env.fw bytes) :=
        fun lacking => readable ⟨rfl, lacking⟩
      obtain ⟨outcome, first⟩ := dispatched.mpr fine
      exact ⟨⟨_, by rw [ran, first]; rfl⟩, fun lacking => absurd lacking fine⟩

def onePeer : Service Nat :=
  ({} : Service Nat).onConnect (Environment.reading .null) Session.success [112]
    { address := "127.0.0.1", port := 30300 } {}

def emptyHeartbeat : Bytes := [0, 0, 0, 14, 0, 0, 0, 1, 0, 0, 0, 0, 0, 0]

/-- The four bytes of a heartbeat are read although its payload is empty. -/
theorem emptyHeartbeat_not_dispatchedSafely :
    ¬ ∀ bytes result message,
      P2PMessage.decode (Environment.reading .null).fw {} bytes = .ok (result, message) →
        0 < result → DispatchedSafely (Environment.reading .null) onePeer 0 message := by
  intro safely
  obtain ⟨message, decoded, faults⟩ : ∃ message,
      P2PMessage.decode (Environment.reading .null).fw {} emptyHeartbeat = .ok (14, message) ∧
        onePeer.onMessage (Environment.reading .null) 0 Session.success (some message) =
          .error .outOfBounds := ⟨_, rfl, rfl⟩
  obtain ⟨after, done⟩ := (safely emptyHeartbeat 14 message decoded (by decide)).safe
  rw [faults] at done
  cases done

def heartbeatFrame : Bytes := [0, 0, 0, 18, 0, 0, 0, 1, 0, 0, 0, 0, 0, 0, 0, 0, 0, 1]

theorem heartbeatFrame_dispatchedSafely :
    DispatchedSafely (Environment.reading .null) onePeer 0
      { length := 18, packetType := 1, payload := [0, 0, 0, 1] } := by
  have decoded : P2PMessage.decode (Environment.reading .null).fw {} heartbeatFrame =
      .ok (18, { length := 18, packetType := 1, payload := [0, 0, 0, 1] }) := rfl
  exact (dispatchedSafely_iff (Environment.reading .null) rfl decoded (by decide)).mpr
    (by decide)

end BcosGateway.Service

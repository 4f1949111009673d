import BcosGateway.Session.Basic
import BcosGateway.Lib.Framing
import BcosGateway.P2PMessage.Codec
import Mathlib.Tactic.FinCases

namespace BcosGateway

open Framing

namespace P2PMessage

section Outcome

variable (fw : Framework)

def outcome (bytes : Bytes) : Outcome P2PMessage :=
  match decode fw {} bytes with
  | .error _ => .invalid
  | .ok (result, message) =>
    if result > 0 then .complete result.toNat message
    else if result = 0 then .incomplete
    else .invalid

def encoding (message : P2PMessage) : Bytes := (message.encode fw).2

structure Sendable (message : P2PMessage) : Prop where
  encoded : (message.encode fw).1 = true
  uniform : message.Uniform fw
  sized : (message.encoding fw).length < 2 ^ 32

end Outcome

variable (fw : CroppingFramework)

theorem outcome_incomplete {bytes : Bytes} {message : P2PMessage}
    (run : decode fw {} bytes = .ok (MessageDecodeStatus.messageIncomplete, message)) :
    outcome fw bytes = .incomplete := by
  rw [outcome, run]
  rfl

theorem outcome_incomplete_decode {bytes : Bytes} (waits : outcome fw bytes = .incomplete) :
    ∃ message, decode fw {} bytes = .ok (0, message) := by
  unfold outcome at waits
  split at waits
  · cases waits
  · rename_i result message run
    split_ifs at waits with positive zero
    subst zero
    exact ⟨message, run⟩

theorem outcome_complete_decode {bytes : Bytes} {size : Nat} {message : P2PMessage}
    (decoded : outcome fw bytes = .complete size message) :
    decode fw {} bytes = .ok ((size : Int), message) ∧ 0 < size ∧ size ≤ bytes.length := by
  unfold outcome at decoded
  split at decoded
  · cases decoded
  · rename_i result message run
    split_ifs at decoded with positive zero
    cases decoded
    obtain ⟨exact_, _, _, received, _⟩ := decode_positive fw bytes run positive
    refine ⟨?_, by omega, by omega⟩
    rw [run, Int.toNat_of_nonneg (by omega)]

theorem Sendable.frame {message : P2PMessage} (sendable : message.Sendable fw) :
    message.Encodable fw ∧ message.encoding fw = message.frame fw ∧
      message.frameLength fw < 2 ^ 32 := by
  have valid := (encode_true_iff fw message).mp sendable.encoded
  have same : message.encoding fw = message.frame fw := by
    rw [encoding, encode_encodable fw message valid]
  have sized := sendable.sized
  rw [same, frame_length] at sized
  exact ⟨valid, same, sized⟩

theorem outcome_partly {message : P2PMessage} (sized : message.frameLength fw < 2 ^ 32)
    {front : Bytes} (start : front <+: message.frame fw)
    (short : front.length < message.frameLength fw) : outcome fw front = .incomplete := by
  by_cases header : front.length < 14
  · exact outcome_incomplete fw (decode_short fw front header)
  · rw [Nat.not_lt] at header
    have length : Wire.length front = message.frameLength fw := by
      have whole := length_frame fw message sized []
      rw [List.append_nil] at whole
      obtain ⟨rest, split⟩ := start
      rw [← whole, ← split, Wire.length, Wire.length, Wire.field, Wire.field,
        Slice.slice_append_left (by omega)]
    exact outcome_incomplete fw (decode_incomplete fw front header (by omega))

theorem frameCode : FrameCode (outcome fw) (encoding fw) (received fw) (Sendable fw) where
  whole message suffix sendable := by
    obtain ⟨valid, same, sized⟩ := sendable.frame fw
    have positive : ((message.frameLength fw : Nat) : Int) > 0 := by
      unfold frameLength
      omega
    rw [same, outcome, decode_frame fw valid sized sendable.uniform suffix, frame_length]
    simp only [positive, if_true, Int.toNat_natCast]
  partly message front sendable start short := by
    obtain ⟨_, same, sized⟩ := sendable.frame fw
    rw [same] at start short
    rw [frame_length] at short
    exact outcome_partly fw sized start short
  nothing := outcome_incomplete fw (decode_short fw [] (by decide))

end P2PMessage

namespace Session

variable {κ : Type} (fw : CroppingFramework)

def handAll (session : Session κ) (messages : List P2PMessage) : Session κ :=
  messages.foldl (fun session message => session.onMessage success message) session

theorem onMessage_frame (session : Session κ) (e : NetworkException) (message : P2PMessage)
    (data : Bytes) :
    ({ session with data } : Session κ).onMessage e message =
        { session.onMessage e message with data } ∧
      (session.onMessage e message).isActived = session.isActived ∧
      (session.onMessage e message).handed = session.handed ++ [(e, message)] := by
  unfold onMessage getCallbackBySeq
  simp only
  split
  · split
    · exact ⟨rfl, rfl, rfl⟩
    · split <;> exact ⟨rfl, rfl, rfl⟩
  · exact ⟨rfl, rfl, rfl⟩

theorem handAll_cons (session : Session κ) (message : P2PMessage) (messages : List P2PMessage) :
    session.handAll (message :: messages) = (session.onMessage success message).handAll messages := rfl

theorem handAll_frame (session : Session κ) (messages : List P2PMessage) (data : Bytes) :
    ({ session with data } : Session κ).handAll messages =
        { session.handAll messages with data } ∧
      (session.handAll messages).isActived = session.isActived ∧
      (session.handAll messages).handed =
        session.handed ++ messages.map fun message => (success, message) := by
  induction messages generalizing session with
  | nil => exact ⟨rfl, rfl, (List.append_nil _).symm⟩
  | cons message messages ih =>
    obtain ⟨first, active, handed⟩ := onMessage_frame session success message data
    obtain ⟨others, actives, all⟩ := ih (session.onMessage success message)
    rw [handAll_cons, handAll_cons]
    refine ⟨?_, ?_, ?_⟩
    · rw [first, others]
    · rw [actives, active]
    · rw [all, handed, List.append_assoc]
      rfl

/-- The loop hands over what drains from the buffer and schedules the next read. -/
theorem readLoop_drains {session : Session κ} {messages : List P2PMessage} {rest : Bytes}
    (drained : Drains (P2PMessage.outcome fw) session.data messages rest)
    (waits : P2PMessage.outcome fw rest = .incomplete) :
    readLoop fw session = .ok { session.handAll messages with data := rest }.doRead := by
  generalize start : session.data = buffer at drained
  -- on the messages that drain; handing one over leaves the buffer as it is
  induction drained generalizing session with
  | rest ended =>
    subst start
    obtain ⟨message, run⟩ := P2PMessage.outcome_incomplete_decode fw waits
    rw [readLoop, run]
    rfl
  | @message buffer size message messages rest decoded drained ih =>
    subst start
    obtain ⟨run, positive, inside⟩ := P2PMessage.outcome_complete_decode fw decoded
    obtain ⟨others, _, _⟩ :=
      handAll_frame (session.onMessage success message) messages (session.data.drop size)
    have data := onMessage_data session success message
    have later : readLoop fw { session.onMessage success message with
        data := (session.onMessage success message).data.drop size } = _ := ih waits (by rw [data])
    rw [readLoop, run]
    simp only [Int.toNat_natCast, data, gt_iff_lt]
    rw [dif_pos (by omega), dif_pos inside]
    rw [data] at later
    rw [later, others]
    rfl

theorem doRead_active {session : Session κ} (active : session.isActived) :
    session.doRead = { session with reading := true } := by
  simp only [isActived, Bool.and_eq_true] at active
  obtain ⟨⟨actived, network⟩, socket⟩ := active
  unfold doRead
  rw [actived, network, socket]
  rfl

theorem onRead_cut {messages done : List P2PMessage} {received rest chunk : Bytes}
    (sendable : ∀ message ∈ messages, message.Sendable fw)
    (cut : Cut (P2PMessage.encoding fw) messages done received rest)
    (start : received ++ chunk <+: stream (P2PMessage.encoding fw) messages)
    {session : Session κ} (active : session.isActived) (left : session.data = rest) :
    ∃ after more rest', onRead fw session false chunk = .ok after ∧
      Cut (P2PMessage.encoding fw) messages (done ++ more) (received ++ chunk) rest' ∧
      after.handed = session.handed ++ more.map (fun message => (success, message.received fw)) ∧
      after.data = rest' ∧ after.reading ∧ after.isActived := by
  have code := P2PMessage.frameCode fw
  obtain ⟨more, rest', next, drained⟩ := code.drains_chunk sendable cut start
  let filled : Session κ := { session with reading := false, data := session.data ++ chunk }
  have drains : Drains (P2PMessage.outcome fw) filled.data
      (more.map (P2PMessage.received fw)) rest' := by
    subst left
    exact drained
  obtain ⟨_, actives, handed⟩ := handAll_frame filled (more.map (P2PMessage.received fw)) rest'
  have run := readLoop_drains fw drains (code.rest_incomplete sendable next)
  have connected : ({ filled.handAll (more.map (P2PMessage.received fw)) with
      data := rest' } : Session κ).isActived := actives.trans active
  rw [doRead_active connected] at run
  refine ⟨_, more, rest', run, next, ?_, rfl, rfl, actives.trans active⟩
  rw [List.map_map] at handed
  exact handed

def onReads (fw : Framework) (session : Session κ) (chunks : List Bytes) : Except Fault (Session κ) :=
  chunks.foldlM (fun session chunk => onRead fw session false chunk) session

theorem onReads_cut {messages done : List P2PMessage} {received rest : Bytes} (chunks : List Bytes)
    (sendable : ∀ message ∈ messages, message.Sendable fw)
    (cut : Cut (P2PMessage.encoding fw) messages done received rest)
    (start : received ++ chunks.flatten <+: stream (P2PMessage.encoding fw) messages)
    {session : Session κ} (active : session.isActived) (left : session.data = rest) :
    ∃ after more rest', onReads fw session chunks = .ok after ∧
      Cut (P2PMessage.encoding fw) messages (done ++ more) (received ++ chunks.flatten) rest' ∧
      after.handed = session.handed ++ more.map (fun message => (success, message.received fw)) ∧
      after.data = rest' ∧ (chunks ≠ [] → after.reading) ∧ after.isActived := by
  -- on the chunks; `rest` is what the session holds of a frame that is not complete
  induction chunks generalizing session done received rest with
  | nil =>
    refine ⟨session, [], rest, rfl, ?_, by simp, left, by simp, active⟩
    simpa using cut
  | cons chunk chunks ih =>
    rw [List.flatten_cons, ← List.append_assoc] at start
    have first : received ++ chunk <+: stream (P2PMessage.encoding fw) messages :=
      (List.prefix_append _ _).trans start
    obtain ⟨middle, more, rest1, run, cut1, handed1, data1, reading1, active1⟩ :=
      onRead_cut fw sendable cut first active left
    obtain ⟨after, others, rest2, runs, cut2, handed2, data2, reading2, active2⟩ :=
      ih cut1 start active1 data1
    refine ⟨after, more ++ others, rest2, ?_, ?_, ?_, data2, ?_, active2⟩
    · rw [onReads, List.foldlM_cons, run]
      exact runs
    · rw [List.flatten_cons, ← List.append_assoc, ← List.append_assoc]
      exact cut2
    · rw [handed2, handed1, List.map_append, List.append_assoc]
    · intro _
      cases chunks with
      | nil =>
        cases runs
        exact reading1
      | cons _ _ => exact reading2 (by simp)

/-- However the stream is cut into chunks, the session is handed each message once its encoding
    is complete, keeps the remainder and goes on reading. -/
theorem onReads_stream (messages : List P2PMessage) (chunks : List Bytes) (session : Session κ)
    (sendable : ∀ message ∈ messages, message.Sendable fw)
    (start : chunks.flatten <+: stream (P2PMessage.encoding fw) messages)
    (active : session.isActived) (empty : session.data = []) :
    ∃ after done rest, onReads fw session chunks = .ok after ∧
      Cut (P2PMessage.encoding fw) messages done chunks.flatten rest ∧
      after.handed = session.handed ++ done.map (fun message => (success, message.received fw)) ∧
      after.data = rest ∧ (chunks ≠ [] → after.reading) := by
  have nonempty : ∀ message ∈ messages, message.encoding fw ≠ [] := by
    intro message member none
    obtain ⟨_, same, _⟩ := (sendable message member).frame fw
    have size := congrArg List.length same
    rw [none, P2PMessage.frame_length, P2PMessage.frameLength, List.length_nil] at size
    omega
  obtain ⟨after, done, rest, run, cut, handed, data, reading, _⟩ :=
    onReads_cut fw chunks sendable (Cut.start nonempty) start active empty
  exact ⟨after, done, rest, run, cut, handed, data, reading⟩

def heartbeats : List P2PMessage :=
  [{ packetType := 1, seq := 1, payload := [0, 0, 0, 1] },
    { packetType := 1, seq := 2, payload := [0, 0, 0, 2] }]

def heartbeatChunks : List Bytes :=
  [[0, 0, 0, 18, 0, 0, 0, 1, 0, 0], [0, 1, 0, 0, 0, 0, 0, 1, 0, 0, 0]]

theorem onReads_heartbeats :
    ∃ after done rest, onReads CroppingFramework.standard ({ actived := true } : Session Nat)
        heartbeatChunks = .ok after ∧
      Cut (P2PMessage.encoding CroppingFramework.standard) heartbeats done
        heartbeatChunks.flatten rest ∧
      after.handed = done.map (fun message =>
        (success, message.received CroppingFramework.standard)) ∧
      after.data = rest ∧ (heartbeatChunks ≠ [] → after.reading) :=
  onReads_stream CroppingFramework.standard heartbeats heartbeatChunks { actived := true }
    (by
      intro message member
      fin_cases member <;> exact ⟨by decide, by decide, by decide⟩)
    (by decide) rfl rfl

end Session

end BcosGateway

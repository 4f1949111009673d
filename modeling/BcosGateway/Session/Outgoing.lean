import BcosGateway.Session.Effects
import BcosGateway.P2PMessage.Codec
import BcosGateway.Lib.Transition

/-! What a session has queued for writing, and which encodings it comes from. -/

namespace BcosGateway

namespace Session

section Outgoing

variable {κ : Type} (fw : Framework) (session : Session κ)

def outgoing : List Bytes := session.written ++ session.writeQueue

theorem write_outgoing : session.write.outgoing = session.outgoing := by
  cases active : session.isActived with
  | false => simp [write, active]
  | true =>
    obtain ⟨_, network, socket⟩ := session.isActived_iff.mp active
    unfold write
    rw [if_neg (by simp [active])]
    split
    · rfl
    · cases queue : session.writeQueue with
      | nil => simp [outgoing, queue]
      | cons buffer writeQueue => simp [outgoing, queue, network, socket]

theorem send_outgoing (active : session.isActived) (msg : Bytes) :
    (session.send msg).outgoing = session.outgoing ++ [msg] := by
  obtain ⟨_, _, socket⟩ := session.isActived_iff.mp active
  unfold send
  rw [if_neg (by simp [active]), if_neg (by simp [socket]), write_outgoing]
  exact (List.append_assoc _ _ _).symm

theorem drop_outgoing (reason : DisconnectReason) :
    (session.drop reason).outgoing = session.outgoing := by
  cases actived : session.actived with
  | false => rw [drop_inactived reason actived]
  | true =>
    obtain ⟨_, dropped⟩ := drop_actived reason actived
    rw [dropped]
    rfl

theorem onWrite_outgoing (ec : Bool) : (session.onWrite ec).outgoing = session.outgoing := by
  unfold onWrite
  split
  · rfl
  · split
    · exact session.drop_outgoing _
    · rw [write_outgoing]
      split
      · rfl
      · rfl

theorem onMessage_outgoing (e : NetworkException) (message : P2PMessage) :
    (session.onMessage e message).outgoing = session.outgoing := by
  rcases session.onMessage_cases e message with ⟨_, _, _, handed⟩ | ⟨_, _, _, handed⟩
  · rw [handed]
    rfl
  · rw [handed]
    rfl

theorem onTimeout_outgoing (error : Bool) (seq : UInt32) :
    (session.onTimeout error seq).outgoing = session.outgoing := by
  rcases session.onTimeout_cases error seq with ⟨_, _, _, fired⟩ | ⟨_, fired⟩
  · rw [fired]
    rfl
  · rw [fired]

theorem onIdle_outgoing (aborted : Bool) : (session.onIdle aborted).outgoing = session.outgoing := by
  unfold onIdle
  split
  · rfl
  · split
    · exact session.drop_outgoing _
    · rfl

theorem doRead_outgoing : session.doRead.outgoing = session.outgoing := by
  unfold doRead
  split
  · split
    · rfl
    · exact session.drop_outgoing _
  · rfl

theorem start_outgoing : session.start.outgoing = session.outgoing := by
  unfold start
  split
  · split
    · exact doRead_outgoing _
    · rfl
  · rfl

theorem readLoop_outgoing {session last : Session κ} (read : readLoop fw session = .ok last) :
    last.outgoing = session.outgoing := by
  induction session using readLoop.induct fw with
  | case1 session fault faulted =>
    rw [readLoop, faulted] at read
    cases read
  | case2 session result message decoded positive handed fits ih =>
    rw [readLoop, decoded] at read
    simp only [positive, dif_pos] at read
    rw [dif_pos fits] at read
    exact (ih read).trans (session.onMessage_outgoing success message)
  | case3 session result message decoded positive handed short =>
    rw [readLoop, decoded] at read
    simp only [positive, dif_pos] at read
    rw [dif_neg short] at read
    cases read
  | case4 session message decoded positive =>
    rw [readLoop, decoded] at read
    cases read
    exact session.doRead_outgoing
  | case5 session result message decoded positive other =>
    rw [readLoop, decoded] at read
    simp only [dif_neg positive, if_neg other] at read
    cases read
    exact session.onMessage_outgoing protocolError message

theorem onRead_outgoing {session last : Session κ} {ec : Bool} {received : Bytes}
    (read : session.onRead fw ec received = .ok last) : last.outgoing = session.outgoing := by
  unfold onRead at read
  simp only at read
  split at read
  · cases read
    exact drop_outgoing _ _
  · exact (readLoop_outgoing fw read).trans rfl

theorem asyncSendMessage_outgoing_inactive (inactive : session.isActived = false)
    (message : P2PMessage) (options : Options) (callback : Option κ) :
    (session.asyncSendMessage fw message options callback).outgoing = session.outgoing := by
  rw [asyncSendMessage_inactive fw message options inactive]
  rfl

theorem asyncSendMessage_outgoing (active : session.isActived) (message : P2PMessage)
    (options : Options) (callback : Option κ) :
    (session.asyncSendMessage fw message options callback).outgoing =
      session.outgoing ++ [(message.encode fw).2] := by
  unfold asyncSendMessage
  rw [if_neg (by simp [active])]
  cases callback with
  | none => exact session.send_outgoing active _
  | some callback =>
    obtain ⟨_, _, registered⟩ := session.register_eq message.seq options callback
    have still : (session.register message.seq options callback).isActived := by
      rw [registered]
      exact active
    simp only
    rw [send_outgoing _ still, registered]
    rfl

end Outgoing

section Run

variable (fw : Framework)

inductive Call where
  | start
  | asyncSendMessage (message : P2PMessage) (options : Options) (callback : Option Nat)
  | onRead (ec : Bool) (received : Bytes)
  | execute (task : Nat)
  | event (event : SessionEvent)

def execute (session : Session Nat) (task : Nat) : Option (Session Nat) :=
  match session.pool[task]? with
  | none => none
  | some started =>
    let session := { session with pool := session.pool.eraseIdx task }
    match started with
    | .failure .. | .handler .. => some session
    | .response callback _ message => some (session.enqueue (.finish callback message.seq))
    | .timeout callback seq => some (session.enqueue (.finish callback seq))
    | .finish _ seq => some (session.removeSeqCallback seq)

def call (session : Session Nat) : Call → Option (Session Nat)
  | .start => some session.start
  | .asyncSendMessage message options callback =>
    some (session.asyncSendMessage fw message options callback)
  | .onRead ec received => (session.onRead fw ec received).toOption
  | .execute task => session.execute task
  | .event event => some (session.take event)

def Encoded (buffer : Bytes) : Prop := ∃ message : P2PMessage, message.encode fw = (true, buffer)

def Encodes (session : Session Nat) : Call → Prop
  | .asyncSendMessage message _ _ => session.isActived → (message.encode fw).1 = true
  | _ => True

instance (session : Session Nat) : ∀ call, Decidable (session.Encodes fw call)
  | .asyncSendMessage .. => inferInstanceAs (Decidable (_ → _))
  | .start | .onRead .. | .execute _ | .event _ => inferInstanceAs (Decidable True)

def Refuses (session : Session Nat) (message : P2PMessage) (options : Options)
    (callback : Option Nat) : Prop :=
  (message.encode fw).1 = false →
    (session.asyncSendMessage fw message options callback).outgoing = session.outgoing ∧
    (session.asyncSendMessage fw message options callback).writeQueue = session.writeQueue ∧
    (session.asyncSendMessage fw message options callback).seq2Callback = session.seq2Callback ∧
    ∀ held ∈ callback, ∃ e,
      .failure held e ∈ (session.asyncSendMessage fw message options callback).pool

theorem encoded_iff (message : P2PMessage) :
    Encoded fw (message.encode fw).2 ↔ (message.encode fw).1 = true := by
  constructor
  · rintro ⟨other, encoded⟩
    by_contra failed
    have refused : ¬ message.Encodable fw := fun valid =>
      failed ((message.encode_true_iff fw).mpr valid)
    have valid : other.Encodable fw := (other.encode_true_iff fw).mp (by rw [encoded])
    rw [message.encode_refused fw refused, other.encode_encodable fw valid] at encoded
    have same : other.frame fw = message.encodeHeader 0 := congrArg Prod.snd encoded
    -- a whole frame of 14 bytes says so in its first four
    have size : other.frameLength fw = 14 := by
      rw [← P2PMessage.frame_length, same, P2PMessage.encodeHeader_length]
    rw [P2PMessage.frame, size] at same
    simp only [P2PMessage.encodeHeader, List.append_assoc] at same
    have lengths := (List.append_inj same (by simp)).1
    exact absurd lengths (by decide)
  · intro whole
    exact ⟨message, Prod.ext whole rfl⟩

def pushed (session : Session Nat) : Call → List Bytes
  | .asyncSendMessage message _ _ => if session.isActived then [(message.encode fw).2] else []
  | _ => []

theorem take_outgoing (session : Session Nat) (event : SessionEvent) :
    (session.take event).outgoing = session.outgoing := by
  cases event with
  | onMessage e message => exact session.onMessage_outgoing e message
  | onTimeout error seq => exact session.onTimeout_outgoing error seq
  | onIdle aborted => exact session.onIdle_outgoing aborted
  | onWrite ec => exact session.onWrite_outgoing ec
  | drop reason => exact session.drop_outgoing reason
  | haveNetwork network => rfl
  | connected socket => rfl

theorem call_outgoing {session next : Session Nat} {call : Call}
    (called : session.call fw call = some next) :
    next.outgoing = session.outgoing ++ session.pushed fw call := by
  cases call with
  | start =>
    cases called
    exact session.start_outgoing.trans (List.append_nil _).symm
  | asyncSendMessage message options callback =>
    cases called
    unfold pushed
    cases active : session.isActived with
    | false =>
      rw [asyncSendMessage_outgoing_inactive fw session active]
      simp
    | true => exact session.asyncSendMessage_outgoing fw active message options callback
  | onRead ec received =>
    simp only [Session.call] at called
    cases read : session.onRead fw ec received with
    | error fault =>
      rw [read] at called
      cases called
    | ok last =>
      rw [read] at called
      cases called
      exact (onRead_outgoing fw read).trans (List.append_nil _).symm
  | execute task =>
    show next.outgoing = session.outgoing ++ []
    rw [List.append_nil]
    simp only [Session.call, execute] at called
    split at called
    · cases called
    · split at called
      all_goals
        cases called
        rfl
  | event event =>
    cases called
    exact (take_outgoing session event).trans (List.append_nil _).symm

theorem pushed_encoded_iff (session : Session Nat) (call : Call) :
    (∀ buffer ∈ session.pushed fw call, Encoded fw buffer) ↔ session.Encodes fw call := by
  cases call with
  | asyncSendMessage message options callback =>
    unfold pushed Encodes
    cases active : session.isActived with
    | false => simp
    | true => simp [encoded_iff]
  | start => simp [pushed, Encodes]
  | onRead ec received => simp [pushed, Encodes]
  | execute task => simp [pushed, Encodes]
  | event event => simp [pushed, Encodes]

theorem outgoing_encoded_iff {calls : List Call} {session last : Session Nat}
    (ran : Transition.run (call fw) session calls = some last) :
    (∀ buffer ∈ last.outgoing, Encoded fw buffer) ↔
      (∀ buffer ∈ session.outgoing, Encoded fw buffer) ∧
        Transition.Meets (call fw) (Encodes fw) session calls := by
  induction calls generalizing session with
  | nil =>
    cases ran
    simp [Transition.Meets]
  | cons event calls ih =>
    obtain ⟨next, called, rest⟩ := (Transition.run_cons (call fw)).mp ran
    have grown := call_outgoing fw called
    have step : (∀ buffer ∈ next.outgoing, Encoded fw buffer) ↔
        (∀ buffer ∈ session.outgoing, Encoded fw buffer) ∧ session.Encodes fw event := by
      rw [grown, List.forall_mem_append, pushed_encoded_iff]
    rw [ih rest, step, Transition.Meets, called, and_assoc]

theorem refuses_iff {session : Session Nat} (active : session.isActived) (message : P2PMessage)
    (options : Options) (callback : Option Nat) :
    session.Refuses fw message options callback ↔ (message.encode fw).1 = true := by
  constructor
  · intro refuses
    by_contra failed
    have kept := (refuses (Bool.eq_false_iff.mpr failed)).1
    rw [asyncSendMessage_outgoing fw session active] at kept
    cases List.append_right_eq_self.mp kept
  · intro whole failed
    rw [whole] at failed
    cases failed

/-- No active session refuses a message, so that the queue holds nothing but encodings exactly
    when none was given a message that cannot be encoded. -/
theorem asyncSendMessage_contract_iff :
    (∀ (session : Session Nat) (message : P2PMessage) (options : Options) (callback : Option Nat),
      session.isActived →
        (session.Refuses fw message options callback ↔ (message.encode fw).1 = true)) ∧
    ∀ (session last : Session Nat) (calls : List Call), session.outgoing = [] →
      Transition.run (call fw) session calls = some last →
        ((∀ buffer ∈ last.outgoing, Encoded fw buffer) ↔
          Transition.Meets (call fw) (Encodes fw) session calls) := by
  constructor
  · intro session message options callback active
    exact refuses_iff fw active message options callback
  · intro session last calls idle ran
    rw [outgoing_encoded_iff fw ran, idle]
    simp

def encodable : P2PMessage :=
  { packetType := 5, seq := 1,
    options := { groupID := [103], srcNodeID := some [1], dstNodeIDs := [some [2]] } }

def opened : Session Nat := { actived := true }

def encodableSent : List Call := [.asyncSendMessage encodable {} (some 0), .event (.onWrite false)]

theorem encodable_contract :
    opened.Refuses CroppingFramework.standard encodable {} (some 0) ∧
      ∃ last, Transition.run (call CroppingFramework.standard) opened encodableSent = some last ∧
        ∀ buffer ∈ last.outgoing, Encoded CroppingFramework.standard buffer :=
  ⟨((asyncSendMessage_contract_iff CroppingFramework.standard).1 opened encodable {} (some 0)
      (by decide)).mpr (by decide), _, rfl,
    ((asyncSendMessage_contract_iff CroppingFramework.standard).2 opened _ encodableSent rfl
      rfl).mpr (by decide)⟩

def unencodable : P2PMessage :=
  { packetType := 5, seq := 1, options := { groupID := [103], dstNodeIDs := [some [2]] } }

theorem unencodable_reaches_wire :
    opened.isActived ∧ (unencodable.encode CroppingFramework.standard).1 = false ∧
      ¬ opened.Refuses CroppingFramework.standard unencodable {} (some 0) ∧
      (opened.asyncSendMessage CroppingFramework.standard unencodable {} (some 0)).written =
        [[0, 0, 0, 0, 0, 0, 0, 5, 0, 0, 0, 1, 0, 0]] := by
  have failed : (unencodable.encode CroppingFramework.standard).1 = false := by decide
  refine ⟨by decide, failed, ?_, by decide⟩
  rw [refuses_iff CroppingFramework.standard (by decide), failed]
  exact Bool.false_ne_true

end Run

end Session

end BcosGateway

import BcosGateway.Amop.Message
import BcosGateway.Gateway.Retry
import BcosGateway.Lib.Places

/-! A message to one of the nodes that subscribe a topic, sent to one node after the other until one
has answered. -/

namespace BcosGateway

structure AMOPError where
  success : Int
  amopSendMsgFailed : Int
  notFoundPeerByTopicSendMsg : Int
  notFoundClientByTopicDispatchMsg : Int

structure AMOPResponse where
  error : Option Error
  type : Int16
  responseData : Option Bytes
  deriving DecidableEq, Repr

/-- The `RetrySender` of `asyncSendMessageByTopic`, with the nodes it has sent to, those of them
    that have not answered, those that have failed, and the calls of the caller's callback. -/
structure RetrySender where
  nodeIDs : List P2pID
  sent : List P2pID := []
  pending : List P2pID := []
  failed : List P2pID := []
  responses : List AMOPResponse := []
  deriving DecidableEq, Repr

namespace RetrySender

variable (fw : Framework) (commonError : AMOPError)

def unableToSend : AMOPResponse :=
  ⟨some ⟨commonError.amopSendMsgFailed, asciiString "unable to send message to peer by topic"⟩, 0,
    none⟩

def sendMessage (sender : RetrySender) (shuffled : List P2pID) : RetrySender :=
  if sender.nodeIDs.isEmpty then
    { sender with responses := sender.responses ++ [unableToSend commonError] }
  else
    match shuffled with
    | [] => sender
    | choosedNodeID :: _ =>
      { sender with
        nodeIDs := sender.nodeIDs.tail
        sent := sender.sent ++ [choosedNodeID]
        pending := sender.pending ++ [choosedNodeID] }

/-- The error that an AMOP message in the response stands for. The code is a `uint16_t`. -/
def responseError (responseData : Bytes) : Error :=
  let amopMsg := AMOPMessage.buildMessage fw responseData
  -- tars error
  if amopMsg.status = UInt16.ofInt (-8) ∨ amopMsg.status = UInt16.ofInt (-7) then
    ⟨(UInt16.ofInt (-1)).toNat, asciiString
      "Access to the remote RPC service timed out, please make sure it is online"⟩
  else ⟨amopMsg.status.toNat, amopMsg.data⟩

def failure (response : AMOPResponse) : Bool :=
  match response.error with
  | none => false
  | some error => error.errorCode ≠ commonError.success

def failing : AMOPResponse := ⟨some ⟨commonError.success + 1, []⟩, 0, none⟩

def onResponse (sender : RetrySender) (nodeID : P2pID) (response : AMOPResponse)
    (shuffled : List P2pID) : Except Fault RetrySender :=
  let sender := { sender with pending := sender.pending.erase nodeID }
  if failure commonError response then
    .ok ({ sender with failed := sender.failed ++ [nodeID] }.sendMessage commonError shuffled)
  else
    match response.responseData with
    | none => .error .nullPointer
    | some responseData =>
      let error := if response.type.toInt = fw.messageType.amopMessageType.toNat then
        some (responseError fw responseData) else none
      .ok { sender with
        responses := sender.responses ++ [⟨error, response.type, some responseData⟩] }

abbrev Shuffles := Nat → List P2pID

def Shuffles.Of (shuffles : Shuffles) (nodeIDs : List P2pID) : Prop :=
  ∀ attempt, (shuffles attempt).Perm (nodeIDs.drop attempt)

/-- The random choice at each attempt falls on the node that is erased. -/
def Shuffles.ErasesChosen (shuffles : Shuffles) (nodeIDs : List P2pID) : Prop :=
  ∀ attempt < nodeIDs.length, (shuffles attempt).head? = nodeIDs[attempt]?

variable (shuffles : Shuffles)

def start (nodeIDs : List P2pID) : RetrySender :=
  ({ nodeIDs } : RetrySender).sendMessage commonError (shuffles 0)

def step (sender : RetrySender) (answer : P2pID × AMOPResponse) : Option RetrySender :=
  if answer.1 ∈ sender.pending then
    (sender.onResponse fw commonError answer.1 answer.2 (shuffles sender.sent.length)).toOption
  else none

structure Exhaustive (nodeIDs : List P2pID) (sender : RetrySender) : Prop where
  distinct : sender.sent.Nodup
  exhausted : unableToSend commonError ∈ sender.responses →
    ∀ nodeID ∈ nodeIDs, nodeID ∈ sender.failed
  once : sender.responses.length + sender.pending.length = 1
  bounded : sender.sent.length ≤ nodeIDs.length

inductive Phase (nodeIDs : List P2pID) (sender : RetrySender) : Prop
  | waiting (nodeID : P2pID) (pending : sender.pending = [nodeID])
      (responses : sender.responses = []) (sent : sender.sent = sender.failed ++ [nodeID])
  | answered (response : AMOPResponse) (pending : sender.pending = [])
      (responses : sender.responses = [response])
      (gaveUp : response = unableToSend commonError →
        sender.sent.length = nodeIDs.length ∧ sender.failed = sender.sent)

structure Tracked (nodeIDs : List P2pID) (sender : RetrySender) : Prop where
  left : sender.nodeIDs = nodeIDs.drop sender.sent.length
  bounded : sender.sent.length ≤ nodeIDs.length
  chosen : ∀ attempt < sender.sent.length, sender.sent[attempt]? = (shuffles attempt).head?
  phase : Phase commonError nodeIDs sender

section Tracked

variable {fw : Framework} {commonError} {shuffles} {nodeIDs : List P2pID}
  {sender next : RetrySender}

theorem sent_eq_take (tracked : Tracked commonError shuffles nodeIDs sender)
    (first : shuffles.ErasesChosen nodeIDs) :
    sender.sent = nodeIDs.take sender.sent.length := by
  apply List.ext_getElem?
  intro attempt
  by_cases before : attempt < sender.sent.length
  · have bound : attempt < nodeIDs.length := Nat.lt_of_lt_of_le before tracked.bounded
    rw [tracked.chosen attempt before, first attempt bound, List.getElem?_take_of_lt before]
  · rw [List.getElem?_eq_none (by omega), List.getElem?_eq_none (by rw [List.length_take]; omega)]

theorem exhaustive_of_first (distinct : nodeIDs.Nodup)
    (tracked : Tracked commonError shuffles nodeIDs sender)
    (first : shuffles.ErasesChosen nodeIDs) :
    Exhaustive commonError nodeIDs sender := by
  have sent := sent_eq_take tracked first
  refine ⟨?_, ?_, ?_, tracked.bounded⟩
  · rw [sent]
    exact (List.take_sublist _ _).nodup distinct
  · intro reported nodeID member
    cases tracked.phase with
    | waiting other pending responses =>
      rw [responses] at reported
      cases reported
    | answered response pending responses gaveUp =>
      rw [responses] at reported
      obtain ⟨all, failed⟩ := gaveUp (List.mem_singleton.mp reported).symm
      rw [failed, sent, all, List.take_length]
      exact member
  · cases tracked.phase with
    | waiting other pending responses => rw [pending, responses]; rfl
    | answered response pending responses => rw [pending, responses]; rfl

section Step

variable (of : shuffles.Of nodeIDs)

include of

theorem sendMessage_tracked (left : sender.nodeIDs = nodeIDs.drop sender.sent.length)
    (bounded : sender.sent.length ≤ nodeIDs.length)
    (chosen : ∀ attempt < sender.sent.length, sender.sent[attempt]? = (shuffles attempt).head?)
    (pending : sender.pending = []) (responses : sender.responses = [])
    (failed : sender.failed = sender.sent) :
    Tracked commonError shuffles nodeIDs
      (sender.sendMessage commonError (shuffles sender.sent.length)) := by
  have perm := of sender.sent.length
  unfold sendMessage
  cases remaining : nodeIDs.drop sender.sent.length with
  | nil =>
    have all : sender.sent.length = nodeIDs.length :=
      Nat.le_antisymm bounded (List.drop_eq_nil_iff.mp remaining)
    rw [if_pos (by simp [left, remaining])]
    refine ⟨left, bounded, chosen, .answered (unableToSend commonError) pending ?_ fun _ => ?_⟩
    · simp only [responses, List.nil_append]
    · exact ⟨all, failed⟩
  | cons first rest =>
    rw [remaining] at perm
    rw [if_neg (by simp [left, remaining])]
    cases shuffled : shuffles sender.sent.length with
    | nil =>
      rw [shuffled] at perm
      cases perm.length_eq
    | cons choosedNodeID others =>
      have fits : sender.sent.length < nodeIDs.length := by
        by_contra past
        rw [List.drop_eq_nil_of_le (by omega)] at remaining
        cases remaining
      refine ⟨?_, ?_, ?_, .waiting choosedNodeID ?_ responses ?_⟩
      · simp only [left, List.length_append, List.length_singleton, List.tail_drop]
      · simp only [List.length_append, List.length_singleton]
        omega
      · intro attempt before
        simp only [List.length_append, List.length_singleton] at before
        by_cases last : attempt = sender.sent.length
        · subst last
          simp only [List.getElem?_concat_length, shuffled, List.head?_cons]
        · simp only
          rw [List.getElem?_append_left (by omega)]
          exact chosen attempt (by omega)
      · simp only [pending, List.nil_append]
      · simp only [failed]

theorem start_tracked :
    Tracked commonError shuffles nodeIDs (start commonError shuffles nodeIDs) :=
  sendMessage_tracked of rfl (Nat.zero_le _) (fun _ before => absurd before (Nat.not_lt_zero _)) rfl
    rfl rfl

theorem step_tracked {answer : P2pID × AMOPResponse}
    (tracked : Tracked commonError shuffles nodeIDs sender)
    (taken : step fw commonError shuffles sender answer = some next) :
    Tracked commonError shuffles nodeIDs next := by
  obtain ⟨left, bounded, chosen, phase⟩ := tracked
  unfold step at taken
  cases phase with
  | answered response pending =>
    rw [if_neg (by simp [pending])] at taken
    cases taken
  | waiting nodeID pending responses sent =>
    split at taken
    · rename_i enabled
      have this : answer.1 = nodeID := by simpa [pending] using enabled
      have none : sender.pending.erase answer.1 = [] := by simp [pending, this]
      unfold onResponse at taken
      simp only [none] at taken
      split at taken
      · cases taken
        exact sendMessage_tracked of left bounded chosen rfl responses (by rw [this]; exact sent.symm)
      · split at taken
        · cases taken
        · cases taken
          refine ⟨left, bounded, chosen, .answered _ rfl (by simp only [responses]; rfl) ?_⟩
          intro gaveUp
          -- an answer carries data, the report of the failure does not
          cases congrArg AMOPResponse.responseData gaveUp
    · cases taken

theorem run_tracked {answers : List (P2pID × AMOPResponse)}
    (ran : Transition.run (step fw commonError shuffles) (start commonError shuffles nodeIDs)
      answers = some next) : Tracked commonError shuffles nodeIDs next :=
  Transition.invariant (step fw commonError shuffles)
    (fun _ _ _ tracked taken => step_tracked of tracked taken) (start_tracked of) ran

end Step

theorem sendMessage_sends (of : shuffles.Of nodeIDs)
    (left : sender.nodeIDs = nodeIDs.drop sender.sent.length)
    (more : sender.sent.length < nodeIDs.length) :
    ∃ choosedNodeID, sender.sendMessage commonError (shuffles sender.sent.length) =
      { sender with
        nodeIDs := sender.nodeIDs.tail
        sent := sender.sent ++ [choosedNodeID]
        pending := sender.pending ++ [choosedNodeID] } := by
  have perm := of sender.sent.length
  have some_left : nodeIDs.drop sender.sent.length ≠ [] := by
    rw [ne_eq, List.drop_eq_nil_iff]
    omega
  unfold sendMessage
  rw [if_neg (by simpa [left] using more)]
  cases shuffled : shuffles sender.sent.length with
  | nil =>
    rw [shuffled] at perm
    exact absurd perm.nil_eq.symm some_left
  | cons choosedNodeID others => exact ⟨choosedNodeID, rfl⟩

theorem step_failing (fw : Framework) (commonError : AMOPError) (shuffles : Shuffles)
    {nodeID : P2pID} (pending : sender.pending = [nodeID]) :
    step fw commonError shuffles sender (nodeID, failing commonError) =
      some ({ sender with
        pending := []
        failed := sender.failed ++ [nodeID] }.sendMessage commonError
          (shuffles sender.sent.length)) := by
  have fails : failure commonError (failing commonError) = true := by simp [failure, failing]
  unfold step onResponse
  rw [if_pos (by simp [pending]), fails]
  simp [pending, Except.toOption]

/-- When every attempt fails, every attempt is made. -/
theorem all_fail (fw : Framework) (of : shuffles.Of nodeIDs) {attempt : Nat}
    (before : attempt < nodeIDs.length) :
    ∃ answers last,
      Transition.run (step fw commonError shuffles) (start commonError shuffles nodeIDs) answers =
          some last ∧ last.sent.length = attempt + 1 ∧ last.responses = [] := by
  induction attempt with
  | zero =>
    obtain ⟨_, sent⟩ := @sendMessage_sends commonError shuffles nodeIDs { nodeIDs } of rfl before
    refine ⟨[], _, rfl, ?_, ?_⟩
    · exact (congrArg (fun sender => sender.sent.length) sent).trans rfl
    · exact (congrArg responses sent).trans rfl
  | succ attempt ih =>
    obtain ⟨answers, middle, ran, sent, silent⟩ := ih (by omega)
    have tracked := run_tracked of ran
    cases tracked.phase with
    | answered response pending responses =>
      rw [silent] at responses
      cases responses
    | waiting nodeID pending responses =>
      obtain ⟨_, sends⟩ := @sendMessage_sends commonError shuffles nodeIDs
        { middle with pending := [], failed := middle.failed ++ [nodeID] } of tracked.left (by
          simp only [sent]
          omega)
      have taken := step_failing fw commonError shuffles pending
      simp only at sends
      rw [sends] at taken
      refine ⟨_, _, Transition.run_concat _ ran taken, ?_, silent⟩
      simp only [List.length_append, List.length_singleton, sent]

theorem erasesChosen_of_exhaustive (fw : Framework) (of : shuffles.Of nodeIDs)
    (exhaustive : ∀ answers last,
      Transition.run (step fw commonError shuffles) (start commonError shuffles nodeIDs) answers =
        some last → Exhaustive commonError nodeIDs last) : shuffles.ErasesChosen nodeIDs := by
  intro attempt before
  obtain ⟨answers, last, ran, sent, _⟩ :=
    @all_fail commonError shuffles nodeIDs fw of (nodeIDs.length - 1) (by omega)
  have tracked := run_tracked of ran
  have size : last.sent.length = nodeIDs.length := by omega
  have all : last.sent = nodeIDs := by
    apply Places.choices_eq size (exhaustive answers last ran).distinct
    intro place choice found
    have inside := (List.getElem?_eq_some_iff.mp found).1
    rw [tracked.chosen place inside] at found
    exact (of place).mem_iff.mp (List.mem_of_mem_head? found)
  rw [← tracked.chosen attempt (by omega), all]

end Tracked

/-- A sender tries every node, whatever the outcomes, if and only if the node that it chooses is each
    time the one that it erases. -/
theorem exhaustive_iff (fw : Framework) (commonError : AMOPError) (nodeIDs : List P2pID)
    (shuffles : Shuffles) (distinct : nodeIDs.Nodup) (of : shuffles.Of nodeIDs) :
    (∀ answers last,
      Transition.run (step fw commonError shuffles) (start commonError shuffles nodeIDs) answers =
        some last → Exhaustive commonError nodeIDs last) ↔ shuffles.ErasesChosen nodeIDs := by
  constructor
  · exact erasesChosen_of_exhaustive fw of
  · intro first answers last ran
    exact exhaustive_of_first distinct (run_tracked of ran) first

def standardError : AMOPError := ⟨0, 1, 2, 3⟩

def unshuffled : Shuffles := fun attempt => [[97], [98]].drop attempt

def secondAnswers : List (P2pID × AMOPResponse) :=
  [([97], failing standardError), ([98], ⟨none, 0, some [1]⟩)]

theorem unshuffled_exhaustive :
    ∃ last, Transition.run (step CroppingFramework.standard standardError unshuffled)
        (start standardError unshuffled [[97], [98]]) secondAnswers = some last ∧
      Exhaustive standardError [[97], [98]] last :=
  ⟨_, rfl, (exhaustive_iff CroppingFramework.standard standardError [[97], [98]] unshuffled
    (by decide) fun _ => List.Perm.refl _).mpr (fun _ _ => List.head?_drop) secondAnswers _ rfl⟩

/-- The second of two nodes is chosen first, and again when it has failed. -/
def secondTwice : Shuffles
  | 0 => [[98], [97]]
  | 1 => [[98]]
  | _ => []

theorem secondTwice_gives_up :
    secondTwice.Of [[97], [98]] ∧
      ¬ ∀ answers last,
        Transition.run (step CroppingFramework.standard standardError secondTwice)
          (start standardError secondTwice [[97], [98]]) answers = some last →
            Exhaustive standardError [[97], [98]] last := by
  constructor
  · intro attempt
    match attempt with
    | 0 => exact List.Perm.swap _ _ _
    | 1 => exact List.Perm.refl _
    | attempt + 2 => simp [secondTwice]
  · intro exhaustive
    obtain ⟨last, ran, reported, untried⟩ : ∃ last,
        Transition.run (step CroppingFramework.standard standardError secondTwice)
          (start standardError secondTwice [[97], [98]])
          [([98], failing standardError), ([98], failing standardError)] = some last ∧
          unableToSend standardError ∈ last.responses ∧ [97] ∉ last.failed :=
      ⟨_, rfl, by decide, by decide⟩
    exact untried ((exhaustive _ last ran).exhausted reported [97] (by decide))

end RetrySender

end BcosGateway

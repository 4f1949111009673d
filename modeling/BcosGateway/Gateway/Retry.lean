import BcosGateway.Service.Dispatch
import BcosGateway.Lib.Transition
import Mathlib.Data.List.Perm.Basic

/-! A message between nodes, sent to one gateway after the other until one has delivered it. -/

namespace BcosGateway

structure Error where
  errorCode : Int
  errorMessage : StdString
  deriving DecidableEq, Repr

/-- The `Retry` of `asyncSendMessageByNodeID`, with the gateways it has sent to, those of them that
    have not answered, and the arguments of the calls of the response function. -/
structure Retry where
  p2pIDs : List P2pID
  p2pMessage : P2PMessage
  sent : List P2pID := []
  pending : List P2pID := []
  responses : List (Option Error) := []
  deriving DecidableEq, Repr

/-- One call of an attempt's callback, and the order in which the gateways left are shuffled if it
    tries again. A callback that gets no error gets a message. -/
structure Answer where
  p2pID : P2pID
  e : NetworkException
  message : Option P2PMessage
  shuffled : List P2pID
  answered : e.errorCode = P2PExceptionType.success → message.isSome

namespace Retry

variable {Key : Type} (env : Environment Key) (lexicalCast : StdString → Option Int)

def unableToSend : Error :=
  ⟨env.commonError.gatewaySendMsgFailed, asciiString "unable to send the message"⟩

def randomChooseP2pID (retry : Retry) (shuffled : List P2pID) : P2pID × Retry :=
  match shuffled with
  | [] => ([], retry)
  | p2pId :: p2pIDs => (p2pId, { retry with p2pIDs })

def trySendMessage (retry : Retry) (shuffled : List P2pID) : Retry :=
  if retry.p2pIDs.isEmpty then
    { retry with responses := retry.responses ++ [some (unableToSend env)] }
  else
    let (p2pID, retry) := retry.randomChooseP2pID shuffled
    { retry with sent := retry.sent ++ [p2pID], pending := retry.pending ++ [p2pID] }

/-- The callback of an attempt. What the cast throws is caught and the message is sent again. -/
def onResponse (retry : Retry) (e : NetworkException) (message : Option P2PMessage)
    (shuffled : List P2pID) : Except Fault Retry :=
  if e.errorCode ≠ P2PExceptionType.success then .ok (retry.trySendMessage env shuffled)
  else
    match message with
    | none => .error .nullPointer
    | some message =>
      match lexicalCast message.payload with
      | none => .ok (retry.trySendMessage env shuffled)
      | some respCode =>
        if respCode ≠ env.commonError.success then .ok (retry.trySendMessage env shuffled)
        else .ok { retry with responses := retry.responses ++ [none] }

def step (retry : Retry) (answer : Answer) : Option Retry :=
  if answer.p2pID ∈ retry.pending ∧ answer.shuffled.Perm retry.p2pIDs then
    match onResponse env lexicalCast { retry with pending := retry.pending.erase answer.p2pID }
      answer.e answer.message answer.shuffled with
    | .error _ => none
    | .ok retry => some retry
  else none

/-- A callback that has been called already, by a timeout or a response that crosses the first. -/
def again (retry : Retry) (answer : Answer) : Option Retry :=
  if answer.p2pID ∈ retry.sent ∧ answer.p2pID ∉ retry.pending ∧
      answer.shuffled.Perm retry.p2pIDs then
    match onResponse env lexicalCast retry answer.e answer.message answer.shuffled with
    | .error _ => none
    | .ok retry => some retry
  else none

end Retry

namespace Gateway

variable {φ Key : Type} (env : Environment Key) (manager : GatewayNodeManager φ)

def newP2PMessage (seq : UInt32) (groupID : StdString) (srcNodeID dstNodeID : Key)
    (payload : Bytes) : P2PMessage where
  packetType := env.fw.messageType.peerToPeerMessage
  seq := seq
  options :=
    { groupID
      srcNodeID := some (env.keyFactory.encode srcNodeID)
      dstNodeIDs := [some (env.keyFactory.encode dstNodeID)] }
  payload := payload

inductive Sending (φ : Type) where
  | onReceiveMessage (frontService : φ)
  | respFunc (error : Error)
  | retry (retry : Retry)

def trySendLocalMessage (groupID : StdString) (dstNodeID : Key) : Option (Sending φ) :=
  (manager.queryLocalNodes groupID (env.keyFactory.hex dstNodeID)).map fun frontServiceInfo =>
    .onReceiveMessage frontServiceInfo.frontService

def asyncSendMessageByNodeID (seq : UInt32) (groupID : StdString) (srcNodeID dstNodeID : Key)
    (payload : Bytes) (shuffled : List P2pID) : Sending φ :=
  match manager.queryP2pIDs groupID (env.keyFactory.hex dstNodeID) ∅ with
  | (false, _) =>
    (trySendLocalMessage env manager groupID dstNodeID).getD
      (.respFunc ⟨env.commonError.notFoundFrontServiceSendMsg,
        asciiString "could not find a gateway to send this message, groupID:" ++ groupID ++
          asciiString " ,dstNodeID:" ++ env.keyFactory.hex dstNodeID⟩)
  | (true, p2pIDs) =>
    let p2pMessage := newP2PMessage env seq groupID srcNodeID dstNodeID payload
    .retry (({ p2pIDs := p2pIDs.keys, p2pMessage } : Retry).trySendMessage env shuffled)

end Gateway

namespace Retry

variable {Key : Type} (env : Environment Key) (lexicalCast : StdString → Option Int)

def Succeeds (answer : Answer) : Prop :=
  answer.e.errorCode = P2PExceptionType.success ∧
    ∃ message ∈ answer.message, lexicalCast message.payload = some env.commonError.success

theorem onResponse_eq (retry : Retry) (answer : Answer) [Decidable (Succeeds env lexicalCast answer)] :
    onResponse env lexicalCast retry answer.e answer.message answer.shuffled =
      .ok (if Succeeds env lexicalCast answer then
        { retry with responses := retry.responses ++ [none] }
      else retry.trySendMessage env answer.shuffled) := by
  obtain ⟨p2pID, e, message, shuffled, answered⟩ := answer
  unfold onResponse Succeeds
  by_cases failed : e.errorCode = P2PExceptionType.success
  · obtain ⟨message, rfl⟩ := Option.isSome_iff_exists.mp (answered failed)
    cases cast : lexicalCast message.payload with
    | none => simp [failed, cast]
    | some respCode =>
      by_cases code : respCode = env.commonError.success <;> simp [failed, cast, code]
  · simp [failed]

theorem step_iff {retry next : Retry} {answer : Answer} :
    step env lexicalCast retry answer = some next ↔
      answer.p2pID ∈ retry.pending ∧ answer.shuffled.Perm retry.p2pIDs ∧
        ((Succeeds env lexicalCast answer ∧ next =
            { retry with
              pending := retry.pending.erase answer.p2pID
              responses := retry.responses ++ [none] }) ∨
          (¬ Succeeds env lexicalCast answer ∧ next =
            { retry with pending := retry.pending.erase answer.p2pID }.trySendMessage env
              answer.shuffled)) := by
  classical
  unfold step
  rw [onResponse_eq]
  by_cases enabled : answer.p2pID ∈ retry.pending ∧ answer.shuffled.Perm retry.p2pIDs
  · rw [if_pos enabled]
    by_cases succeeds : Succeeds env lexicalCast answer <;>
      simp [enabled, succeeds, eq_comm]
  · rw [if_neg enabled]
    constructor
    · intro taken
      cases taken
    · rintro ⟨pending, shuffled, _⟩
      exact absurd ⟨pending, shuffled⟩ enabled

def Invoked (retry : Retry) (answer : Answer) (next : Retry) : Prop :=
  answer.shuffled.Perm retry.p2pIDs ∧
    ((Succeeds env lexicalCast answer ∧ next =
        { retry with
          pending := retry.pending.erase answer.p2pID
          responses := retry.responses ++ [none] }) ∨
      (¬ Succeeds env lexicalCast answer ∧ next =
        { retry with pending := retry.pending.erase answer.p2pID }.trySendMessage env
          answer.shuffled))

theorem step_invoked {retry next : Retry} {answer : Answer}
    (taken : step env lexicalCast retry answer = some next) :
    Invoked env lexicalCast retry answer next :=
  ((step_iff env lexicalCast).mp taken).2

theorem again_invoked {retry next : Retry} {answer : Answer}
    (taken : again env lexicalCast retry answer = some next) :
    answer.p2pID ∉ retry.pending ∧ Invoked env lexicalCast retry answer next := by
  classical
  unfold again at taken
  rw [onResponse_eq] at taken
  split at taken
  · rename_i enabled
    obtain ⟨_, idle, order⟩ := enabled
    unfold Invoked
    rw [List.erase_of_not_mem idle]
    refine ⟨idle, order, ?_⟩
    cases taken
    by_cases succeeds : Succeeds env lexicalCast answer
    · rw [if_pos succeeds]
      exact .inl ⟨succeeds, rfl⟩
    · rw [if_neg succeeds]
      exact .inr ⟨succeeds, rfl⟩
  · cases taken

section Runs

variable (candidates : KeySet P2pID)

structure Reports (answers : List Answer) (retry : Retry) : Prop where
  sentOnce : retry.sent.Nodup ∧ ∀ p2pID ∈ retry.sent, p2pID ∈ candidates
  bounded : answers.length ≤ candidates.keys.length
  waiting : retry.responses = [] → ∃ p2pID, retry.pending = [p2pID] ∧
    ∀ answer, answer.p2pID = p2pID → answer.shuffled.Perm retry.p2pIDs →
      (step env lexicalCast retry answer).isSome
  responded : retry.responses ≠ [] → retry.pending = [] ∧ retry.responses.length = 1
  success : none ∈ retry.responses ↔ ∃ answer ∈ answers, Succeeds env lexicalCast answer
  stops : none ∈ retry.responses → retry.sent = answers.map Answer.p2pID ∧
    ∃ earlier answer, answers = earlier ++ [answer] ∧ Succeeds env lexicalCast answer ∧
      ∀ other ∈ earlier, ¬ Succeeds env lexicalCast other
  failure : ∀ error, some error ∈ retry.responses →
    error.errorCode = env.commonError.gatewaySendMsgFailed ∧
      (∀ p2pID ∈ candidates, ∃ answer ∈ answers, answer.p2pID = p2pID) ∧
      ∀ answer ∈ answers, ¬ Succeeds env lexicalCast answer

inductive Phase (answers : List Answer) (retry : Retry) : Prop where
  | waiting (p2pID : P2pID) (pending : retry.pending = [p2pID])
    (sent : retry.sent = answers.map Answer.p2pID ++ [p2pID]) (responses : retry.responses = [])
    (failed : ∀ answer ∈ answers, ¬ Succeeds env lexicalCast answer)
  | delivered (earlier : List Answer) (last : Answer) (all : answers = earlier ++ [last])
    (pending : retry.pending = []) (sent : retry.sent = answers.map Answer.p2pID)
    (responses : retry.responses = [none]) (succeeds : Succeeds env lexicalCast last)
    (failed : ∀ answer ∈ earlier, ¬ Succeeds env lexicalCast answer)
  | exhausted (pending : retry.pending = []) (sent : retry.sent = answers.map Answer.p2pID)
    (responses : retry.responses = [some (unableToSend env)]) (none_left : retry.p2pIDs = [])
    (failed : ∀ answer ∈ answers, ¬ Succeeds env lexicalCast answer)

structure Sound (answers : List Answer) (retry : Retry) : Prop where
  split : (retry.sent ++ retry.p2pIDs).Perm candidates.keys
  phase : Phase env lexicalCast answers retry

structure Loose (answers : List Answer) (retry : Retry) : Prop where
  split : (retry.sent ++ retry.p2pIDs).Perm candidates.keys
  waits : retry.pending.Sublist retry.sent
  waiting : retry.responses = [] → retry.pending ≠ []
  succeeded : none ∈ retry.responses → ∃ answer ∈ answers, Succeeds env lexicalCast answer

variable {candidates} {answers : List Answer} {retry : Retry}

theorem trySendMessage_sound (retry : Retry) {shuffled : List P2pID} (pending : retry.pending = [])
    (sent : retry.sent = answers.map Answer.p2pID) (responses : retry.responses = [])
    (failed : ∀ answer ∈ answers, ¬ Succeeds env lexicalCast answer)
    (split : (retry.sent ++ retry.p2pIDs).Perm candidates.keys)
    (order : shuffled.Perm retry.p2pIDs) :
    Sound env lexicalCast candidates answers (retry.trySendMessage env shuffled) := by
  unfold trySendMessage
  cases left : retry.p2pIDs with
  | nil =>
    rw [left] at split
    exact ⟨split, .exhausted pending sent (by rw [responses]; rfl) rfl failed⟩
  | cons head tail =>
    cases shuffled with
    | nil =>
      rw [left] at order
      exact absurd order.length_eq (by simp)
    | cons p2pID p2pIDs =>
      refine ⟨?_, .waiting p2pID ?_ ?_ responses failed⟩
      · have moved : (retry.sent ++ [p2pID] ++ p2pIDs).Perm (retry.sent ++ retry.p2pIDs) := by
          rw [List.append_assoc, List.singleton_append]
          exact order.append_left retry.sent
        exact moved.trans split
      · exact congrArg (· ++ [p2pID]) pending
      · exact congrArg (· ++ [p2pID]) sent

theorem step_isSome {answer : Answer} (pending : answer.p2pID ∈ retry.pending)
    (order : answer.shuffled.Perm retry.p2pIDs) :
    (step env lexicalCast retry answer).isSome = true := by
  classical
  rw [Option.isSome_iff_exists]
  by_cases succeeds : Succeeds env lexicalCast answer
  · exact ⟨_, (step_iff env lexicalCast).mpr ⟨pending, order, .inl ⟨succeeds, rfl⟩⟩⟩
  · exact ⟨_, (step_iff env lexicalCast).mpr ⟨pending, order, .inr ⟨succeeds, rfl⟩⟩⟩

theorem step_sound {answer : Answer} {next : Retry}
    (sound : Sound env lexicalCast candidates answers retry)
    (taken : step env lexicalCast retry answer = some next) :
    Sound env lexicalCast candidates (answers ++ [answer]) next := by
  obtain ⟨pending, order, outcome⟩ := (step_iff env lexicalCast).mp taken
  cases sound.phase with
  -- only a waiting run has an attempt that can be answered
  | waiting p2pID waiting sent responses failed =>
    rw [waiting] at pending outcome
    have same : answer.p2pID = p2pID := List.mem_singleton.mp pending
    have sentAll : retry.sent = (answers ++ [answer]).map Answer.p2pID := by
      rw [sent, List.map_append, List.map_singleton, same]
    have none_pending : [p2pID].erase answer.p2pID = [] := by
      rw [same, List.erase_cons_head]
    rw [none_pending] at outcome
    rcases outcome with ⟨succeeds, rfl⟩ | ⟨fails, rfl⟩
    · exact ⟨sound.split, .delivered answers answer rfl rfl sentAll (by rw [responses]; rfl)
        succeeds failed⟩
    · refine trySendMessage_sound env lexicalCast { retry with pending := [] } rfl sentAll responses
        (fun other member => ?_) sound.split order
      rcases List.mem_append.mp member with old | new
      · exact failed other old
      · rw [List.mem_singleton.mp new]
        exact fails
  | delivered earlier last all none_pending =>
    rw [none_pending] at pending
    cases pending
  | exhausted none_pending =>
    rw [none_pending] at pending
    cases pending

theorem Loose.sent_nodup (loose : Loose env lexicalCast candidates answers retry) :
    retry.sent.Nodup :=
  (List.nodup_append.mp (loose.split.nodup_iff.mpr candidates.keys_nodup)).1

theorem trySendMessage_cases (retry : Retry) {shuffled : List P2pID}
    (order : shuffled.Perm retry.p2pIDs) :
    (retry.p2pIDs = [] ∧ retry.trySendMessage env shuffled =
        { retry with responses := retry.responses ++ [some (unableToSend env)] }) ∨
      ∃ p2pID p2pIDs, shuffled = p2pID :: p2pIDs ∧ retry.trySendMessage env shuffled =
        { retry with
          p2pIDs, sent := retry.sent ++ [p2pID], pending := retry.pending ++ [p2pID] } := by
  unfold trySendMessage
  cases left : retry.p2pIDs with
  | nil => exact .inl ⟨rfl, rfl⟩
  | cons head tail =>
    cases shuffled with
    | nil =>
      rw [left] at order
      exact absurd order.length_eq (by simp)
    | cons p2pID p2pIDs => exact .inr ⟨p2pID, p2pIDs, rfl, rfl⟩

/-- A call reports, or it makes an attempt with a gateway that had none before. -/
theorem Invoked.cases {answer : Answer} {next : Retry}
    (invoked : Invoked env lexicalCast retry answer next) :
    (∃ report, next =
        { retry with
          pending := retry.pending.erase answer.p2pID
          responses := retry.responses ++ [report] } ∧
        (report = none → Succeeds env lexicalCast answer)) ∨
      ∃ p2pID p2pIDs, answer.shuffled = p2pID :: p2pIDs ∧ next =
        { retry with
          p2pIDs, sent := retry.sent ++ [p2pID]
          pending := retry.pending.erase answer.p2pID ++ [p2pID] } := by
  obtain ⟨order, ⟨succeeds, rfl⟩ | ⟨_, rfl⟩⟩ := invoked
  · exact .inl ⟨none, rfl, fun _ => succeeds⟩
  · rcases trySendMessage_cases env { retry with pending := retry.pending.erase answer.p2pID }
      order with ⟨_, same⟩ | ⟨p2pID, p2pIDs, shuffled, same⟩
    · exact .inl ⟨_, same, nofun⟩
    · exact .inr ⟨p2pID, p2pIDs, shuffled, same⟩

theorem Loose.invoked (loose : Loose env lexicalCast candidates answers retry) {answer : Answer}
    {next : Retry} (invoked : Invoked env lexicalCast retry answer next) :
    Loose env lexicalCast candidates (answers ++ [answer]) next := by
  have left : (retry.pending.erase answer.p2pID).Sublist retry.sent :=
    List.erase_sublist.trans loose.waits
  have before : none ∈ retry.responses →
      ∃ other ∈ answers ++ [answer], Succeeds env lexicalCast other := fun reported =>
    let ⟨other, member, succeeds⟩ := loose.succeeded reported
    ⟨other, List.mem_append_left _ member, succeeds⟩
  rcases Invoked.cases env lexicalCast invoked with
    ⟨report, rfl, succeeds⟩ | ⟨p2pID, p2pIDs, shuffled, rfl⟩
  · refine ⟨loose.split, left, fun empty => ?_, fun reported => ?_⟩
    · cases List.append_eq_nil_iff.mp empty |>.2
    · rcases List.mem_append.mp reported with old | new
      · exact before old
      · exact ⟨answer, List.mem_append_right _ (List.mem_singleton_self _),
          succeeds (List.mem_singleton.mp new).symm⟩
  · have order := shuffled ▸ invoked.1
    refine ⟨?_, left.append (.refl _), fun _ => ?_, before⟩
    · have moved : (retry.sent ++ [p2pID] ++ p2pIDs).Perm (retry.sent ++ retry.p2pIDs) := by
        rw [List.append_assoc, List.singleton_append]
        exact order.append_left retry.sent
      exact moved.trans loose.split
    · exact List.append_ne_nil_of_right_ne_nil _ (List.cons_ne_nil _ _)

theorem Sound.loose (sound : Sound env lexicalCast candidates answers retry) :
    Loose env lexicalCast candidates answers retry := by
  cases sound.phase with
  | waiting p2pID pending sent responses failed =>
    refine ⟨sound.split, ?_, fun _ => ?_, ?_⟩
    · rw [pending, sent]
      exact List.sublist_append_right _ _
    · rw [pending]
      exact List.cons_ne_nil _ _
    · rw [responses]
      exact fun reported => absurd reported List.not_mem_nil
  | delivered earlier last all pending sent responses succeeds failed =>
    refine ⟨sound.split, ?_, ?_, fun _ => ?_⟩
    · rw [pending]
      exact List.nil_sublist _
    · rw [responses]
      exact fun empty => absurd empty (List.cons_ne_nil _ _)
    · rw [all]
      exact ⟨last, List.mem_append_right _ (List.mem_singleton_self _), succeeds⟩
  | exhausted pending sent responses none_left failed =>
    refine ⟨sound.split, ?_, ?_, ?_⟩
    · rw [pending]
      exact List.nil_sublist _
    · rw [responses]
      exact fun empty => absurd empty (List.cons_ne_nil _ _)
    · rw [responses]
      exact fun reported => by cases List.mem_singleton.mp reported

theorem Sound.reports (sound : Sound env lexicalCast candidates answers retry) :
    Reports env lexicalCast candidates answers retry := by
  have distinct : (retry.sent ++ retry.p2pIDs).Nodup :=
    sound.split.nodup_iff.mpr candidates.keys_nodup
  have total := sound.split.length_eq
  rw [List.length_append] at total
  have known : ∀ p2pID ∈ retry.sent, p2pID ∈ candidates := fun p2pID member =>
    AList.mem_keys.mpr (sound.split.mem_iff.mp (List.mem_append_left _ member))
  have sentOnce := And.intro (List.nodup_append.mp distinct).1 known
  cases sound.phase with
  | waiting p2pID pending sent responses failed =>
    have length := congrArg List.length sent
    rw [List.length_append, List.length_map] at length
    refine ⟨sentOnce, by omega, fun _ => ⟨p2pID, pending, ?_⟩, ?_, ?_, ?_, ?_⟩
    · intro answer same order
      have waits : answer.p2pID ∈ retry.pending := by
        rw [pending, same]
        exact List.mem_singleton_self p2pID
      exact step_isSome env lexicalCast waits order
    · exact fun some => absurd responses some
    · rw [responses]
      exact ⟨fun none => (by cases none), fun ⟨answer, member, succeeds⟩ =>
        absurd succeeds (failed answer member)⟩
    · rw [responses]
      exact fun none => (by cases none)
    · rw [responses]
      exact fun error none => (by cases none)
  | delivered earlier last all pending sent responses succeeds failed =>
    have length := congrArg List.length sent
    rw [List.length_map] at length
    refine ⟨sentOnce, by omega, ?_, fun _ => ⟨pending, by rw [responses]; rfl⟩, ?_, fun _ =>
      ⟨sent, earlier, last, all, succeeds, failed⟩, ?_⟩
    · rw [responses]
      exact fun none => (by cases none)
    · rw [responses, all]
      exact iff_of_true (List.mem_singleton_self _)
        ⟨last, List.mem_append_right _ (List.mem_singleton_self _), succeeds⟩
    · rw [responses]
      exact fun error some => (by cases List.mem_singleton.mp some)
  | exhausted pending sent responses none_left failed =>
    have length := congrArg List.length sent
    rw [List.length_map] at length
    refine ⟨sentOnce, by omega, ?_, fun _ => ⟨pending, by rw [responses]; rfl⟩, ?_, ?_, ?_⟩
    · rw [responses]
      exact fun none => (by cases none)
    · rw [responses]
      exact ⟨fun none => (by cases List.mem_singleton.mp none), fun ⟨answer, member, succeeds⟩ =>
        absurd succeeds (failed answer member)⟩
    · rw [responses]
      exact fun none => (by cases List.mem_singleton.mp none)
    · rw [responses]
      intro error some
      cases List.mem_singleton.mp some
      refine ⟨rfl, fun p2pID candidate => ?_, failed⟩
      have tried := sound.split.mem_iff.mpr (AList.mem_keys.mp candidate)
      rw [none_left, List.append_nil, sent] at tried
      obtain ⟨answer, member, same⟩ := List.mem_map.mp tried
      exact ⟨answer, member, same⟩

/-- However the gateways are shuffled and whatever they answer, a message that other gateways can
    take is reported once, as delivered or as refused by all of them. -/
theorem asyncSendMessageByNodeID_reports {φ : Type} (manager : GatewayNodeManager φ) (seq : UInt32)
    (groupID : StdString) (srcNodeID dstNodeID : Key) (payload : Bytes) {p2pIDs : KeySet P2pID}
    (found : manager.queryP2pIDs groupID (env.keyFactory.hex dstNodeID) ∅ = (true, p2pIDs))
    {shuffled : List P2pID} (order : shuffled.Perm p2pIDs.keys) :
    ∃ start, Gateway.asyncSendMessageByNodeID env manager seq groupID srcNodeID dstNodeID payload
        shuffled = .retry start ∧
      ∀ answers last, Transition.run (step env lexicalCast) start answers = some last →
        Reports env lexicalCast p2pIDs answers last := by
  refine ⟨_, by unfold Gateway.asyncSendMessageByNodeID; rw [found], fun answers last ran => ?_⟩
  have start := trySendMessage_sound env lexicalCast
    { p2pIDs := p2pIDs.keys
      p2pMessage := Gateway.newP2PMessage env seq groupID srcNodeID dstNodeID payload }
    rfl rfl rfl (fun _ none => absurd none List.not_mem_nil) (.refl _) order
  have sound := Transition.invariant_of_history (step env lexicalCast)
    (fun _ _ _ _ sound taken => step_sound env lexicalCast sound taken) start ran
  exact sound.reports

def digits (text : StdString) : Option Int :=
  if text ≠ [] ∧ text.all (fun digit => 48 ≤ digit ∧ digit ≤ 57) then
    some (text.foldl (fun value digit => 10 * value + (digit.toNat - 48)) 0)
  else none

def twoGateways : GatewayNodeManager Nat :=
  let nodes := (∅ : NodeIDsMap).insert [103] ((∅ : KeySet StdString).insert [48, 49] ())
  (({} : GatewayNodeManager Nat).updateNodeIDs [112] 2 nodes).updateNodeIDs [113] 2 nodes

def oneRefuses : List Answer :=
  [⟨[113], {}, some { payload := asciiString "1503" }, [[112]], fun _ => rfl⟩,
    ⟨[112], {}, some { payload := asciiString "0" }, [], fun _ => rfl⟩]

theorem oneRefuses_reports :
    ∃ start last, Gateway.asyncSendMessageByNodeID (Environment.reading .null) twoGateways 2 [103]
        [0] [1] [] [[113], [112]] = .retry start ∧
      Transition.run (step (Environment.reading .null) digits) start oneRefuses = some last ∧
      Reports (Environment.reading .null) digits
        (twoGateways.queryP2pIDs [103] [48, 49] ∅).2 oneRefuses last := by
  obtain ⟨start, sent, all⟩ := asyncSendMessageByNodeID_reports (Environment.reading .null) digits
    twoGateways 2 [103] [0] [1] [] rfl
    (show [[113], [112]].Perm (twoGateways.queryP2pIDs [103] [48, 49] ∅).2.keys by decide)
  cases sent
  exact ⟨_, _, rfl, rfl, all oneRefuses _ rfl⟩

end Runs

end Retry

end BcosGateway

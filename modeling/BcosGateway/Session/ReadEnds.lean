import BcosGateway.Session.Effects
import BcosGateway.Session.ReadLoop

/-! How the read handler ends, whatever was received: what its loop erases, and whether a session
that reads no further is torn down. -/

namespace BcosGateway

open Framing

namespace Session

variable {κ : Type} (fw : CroppingFramework)

inductive Erases : Session κ → List Bytes → Session κ → Prop
  | nothing (session : Session κ) : Erases session [] session
  | erase {session last : Session κ} {result : Nat} {message : P2PMessage} {erased : List Bytes}
      (decoded : P2PMessage.decode fw {} session.data = .ok ((result : Int), message))
      (positive : 1 ≤ result) (inside : result ≤ session.data.length)
      (rest : Erases { session.onMessage success message with data := session.data.drop result }
        erased last) :
      Erases session (session.data.take result :: erased) last

inductive Ends (last : Session κ) : Session κ → Prop
  | reads {message : P2PMessage} (decoded : P2PMessage.decode fw {} last.data = .ok (0, message)) :
      Ends last last.doRead
  | refuses {result : Int} {message : P2PMessage} (negative : result < 0)
      (decoded : P2PMessage.decode fw {} last.data = .ok (result, message)) :
      Ends last (last.onMessage protocolError message)

variable {fw} {session last after : Session κ} {erased : List Bytes}

theorem Erases.conserves (erases : Erases fw session erased last) :
    erased.flatten ++ last.data = session.data := by
  induction erases with
  | nothing session => rfl
  | erase decoded positive inside rest ih =>
    rw [List.flatten_cons, List.append_assoc, ih]
    exact List.take_append_drop _ _

theorem Erases.bounded (erases : Erases fw session erased last) :
    ∀ piece ∈ erased, 1 ≤ piece.length := by
  induction erases with
  | nothing session => exact fun _ none => absurd none List.not_mem_nil
  | @erase session last result message erased decoded positive inside rest ih =>
    intro piece member
    rcases List.mem_cons.mp member with rfl | later
    · rw [List.length_take]
      omega
    · exact ih piece later

structure Hands (session last : Session κ) : Prop where
  reading : last.reading = session.reading
  actived : last.actived = session.actived
  haveNetwork : last.haveNetwork = session.haveNetwork
  connected : last.connected = session.connected
  messageHandler : last.messageHandler = session.messageHandler
  seq2Callback : last.seq2Callback = session.seq2Callback
  pool : ∃ tasks, last.pool = session.pool ++ tasks ∧
    ∀ e message, Task.handler e message ∈ tasks → e = success

theorem Erases.hands (erases : Erases fw session erased last) : Hands session last := by
  induction erases with
  | nothing session =>
    have pool : session.pool = session.pool ++ [] := (List.append_nil _).symm
    exact ⟨rfl, rfl, rfl, rfl, rfl, rfl, [], pool, fun _ _ none => absurd none List.not_mem_nil⟩
  | @erase session last result message erased decoded positive inside rest ih =>
    obtain ⟨reading, actived, network, socket, handler, callbacks, tasks, pool, fine⟩ := ih
    rcases session.onMessage_cases success message with
      ⟨timers, callbackPtr, _, handed⟩ | ⟨queued, only, _, handed⟩
    · rw [handed] at reading actived network socket handler callbacks pool
      refine ⟨reading, actived, network, socket, handler, callbacks, _,
        pool.trans (List.append_assoc ..), fun e message member => ?_⟩
      rcases List.mem_append.mp member with here | later
      · cases List.mem_singleton.mp here
      · exact fine e message later
    · rw [handed] at reading actived network socket handler callbacks pool
      refine ⟨reading, actived, network, socket, handler, callbacks, _,
        pool.trans (List.append_assoc ..), fun e message member => ?_⟩
      rcases List.mem_append.mp member with here | later
      · cases only _ here
        rfl
      · exact fine e message later

theorem doRead_cases (session : Session κ) :
    (session.actived = true ∧ session.haveNetwork = true ∧ session.connected = true ∧
      session.doRead = { session with reading := true }) ∨
    (session.actived = true ∧ session.haveNetwork = true ∧ session.connected = false ∧
      session.doRead = session.drop .tcpError) ∨
    ((session.actived = false ∨ session.haveNetwork = false) ∧ session.doRead = session) := by
  unfold doRead
  cases actived : session.actived with
  | false => exact .inr (.inr ⟨.inl rfl, rfl⟩)
  | true =>
    cases network : session.haveNetwork with
    | false => exact .inr (.inr ⟨.inr rfl, rfl⟩)
    | true =>
      cases socket : session.connected with
      | false => exact .inr (.inl ⟨rfl, rfl, rfl, rfl⟩)
      | true => exact .inl ⟨rfl, rfl, rfl, rfl⟩

theorem Ends.data (ends : Ends fw last after) : after.data = last.data := by
  cases ends with
  | reads decoded =>
    rcases last.doRead_cases with ⟨_, _, _, read⟩ | ⟨actived, _, _, dropped⟩ | ⟨_, stayed⟩
    · rw [read]
    · obtain ⟨_, drop⟩ := drop_actived .tcpError actived
      rw [dropped, drop]
    · rw [stayed]
  | refuses negative decoded => exact onMessage_data last protocolError _

theorem readLoop_erases (fw : CroppingFramework) (session : Session κ) :
    ∃ erased last after, Erases fw session erased last ∧ Ends fw last after ∧
      readLoop fw session = .ok after := by
  -- on the length of the buffer, which every iteration but the last shortens
  induction size : session.data.length using Nat.strong_induction_on generalizing session with
  | h length ih =>
    rcases P2PMessage.decode_cases fw session.data with
      ⟨message, waits, _⟩ | ⟨message, refused, _⟩ | ⟨whole, _, inside, _⟩
    · refine ⟨[], session, _, .nothing session, .reads waits, ?_⟩
      rw [readLoop, waits]
      rfl
    · refine ⟨[], session, _, .nothing session, .refuses (by decide) refused, ?_⟩
      rw [readLoop, refused]
      rfl
    · by_cases zero : Wire.length session.data = 0
      · rw [zero] at whole
        refine ⟨[], session, _, .nothing session, .reads whole, ?_⟩
        rw [readLoop, whole]
        rfl
      · have data := onMessage_data session success (P2PMessage.ofWire fw session.data)
        obtain ⟨erased, last, after, erases, ends, ran⟩ := ih
          (session.data.drop (Wire.length session.data)).length
          (by rw [List.length_drop]; omega)
          { session.onMessage success (P2PMessage.ofWire fw session.data) with
            data := session.data.drop (Wire.length session.data) } rfl
        refine ⟨_, last, after, .erase whole (by omega) inside erases, ends, ?_⟩
        rw [readLoop, whole]
        simp only [Int.toNat_natCast, data, gt_iff_lt]
        rw [dif_pos (by omega), dif_pos inside]
        exact ran

/-- An active session schedules the next read, or it reports the error. -/
theorem Ends.scheduled (ends : Ends fw last after) (active : last.isActived) :
    after.reading ∨ ∃ message, after = last.onMessage protocolError message := by
  cases ends with
  | reads decoded =>
    rw [doRead_active active]
    exact .inl rfl
  | refuses negative decoded => exact .inr ⟨_, rfl⟩

/-- The loop ends, whatever the bytes are. What it erases and what it leaves are what it found. -/
theorem onRead_conserves (fw : CroppingFramework) (session : Session κ) (chunk : Bytes) :
    ∃ erased last after,
      Erases fw { session with reading := false, data := session.data ++ chunk } erased last ∧
      Ends fw last after ∧ onRead fw session false chunk = .ok after ∧
      (∀ piece ∈ erased, 1 ≤ piece.length) ∧
      erased.flatten ++ after.data = session.data ++ chunk ∧
      (session.isActived → after.reading ∨
        ∃ message, after = last.onMessage protocolError message) := by
  obtain ⟨erased, last, after, erases, ends, ran⟩ :=
    readLoop_erases fw { session with reading := false, data := session.data ++ chunk }
  refine ⟨erased, last, after, erases, ends, ran, erases.bounded, ?_, fun active => ?_⟩
  · rw [ends.data]
    exact erases.conserves
  · have hands := erases.hands
    apply ends.scheduled
    rw [isActived_iff] at active ⊢
    rw [hands.actived, hands.haveNetwork, hands.connected]
    exact active

def Tended (session after : Session κ) : Prop :=
  after.reading = true ∨ after.actived = false ∨ ∃ e message, e.errorCode ≠ 0 ∧
    Task.handler e message ∈ after.pool.drop session.pool.length

/-- A malformed frame that comes up in the bytes does not look like the response to a request that
    is pending, and there is a message handler to report it to. -/
def Reports (fw : CroppingFramework) (session : Session κ) (bytes : Bytes) : Prop :=
  ∀ messages rest, Drains (P2PMessage.outcome fw) bytes messages rest →
    ∀ result message, P2PMessage.decode fw {} rest = .ok (result, message) → result < 0 →
      session.messageHandler = true ∧ ∀ callbackPtr, ¬ session.Responds message callbackPtr

theorem Erases.drains (erases : Erases fw session erased last) (ends : Ends fw last after) :
    ∃ messages, Drains (P2PMessage.outcome fw) session.data messages last.data := by
  induction erases with
  | nothing session =>
    refine ⟨[], .rest fun size message complete => ?_⟩
    obtain ⟨run, positive, _⟩ := P2PMessage.outcome_complete_decode fw complete
    cases ends with
    | reads decoded =>
      rw [decoded] at run
      obtain ⟨same, _⟩ := Prod.mk.inj (Except.ok.inj run)
      omega
    | refuses negative decoded =>
      rw [decoded] at run
      obtain ⟨same, _⟩ := Prod.mk.inj (Except.ok.inj run)
      omega
  | @erase session last result message erased decoded positive inside rest ih =>
    obtain ⟨messages, drained⟩ := ih ends
    refine ⟨message :: messages, .message ?_ drained⟩
    unfold P2PMessage.outcome
    rw [decoded]
    simp only
    rw [if_pos (by omega), Int.toNat_natCast]

theorem onMessage_unanswered (actived : session.actived = true)
    (network : session.haveNetwork = true) (e : NetworkException) {message : P2PMessage}
    (none : ∀ callbackPtr, ¬ session.Responds message callbackPtr) :
    session.onMessage e message =
      { session with
        pool := session.pool ++ session.notification e (some message)
        handed := session.handed ++ [(e, message)] } := by
  unfold onMessage getCallbackBySeq
  simp only
  rw [if_pos (by simp [actived, network])]
  split
  · rename_i callbackPtr found response
    exact absurd ⟨actived, network, response, found⟩ (none callbackPtr)
  · unfold notification
    cases session.messageHandler with
    | false => simp
    | true => rfl

theorem Hands.responds (hands : Hands session last) (message : P2PMessage)
    (callbackPtr : ResponseCallback κ) :
    last.Responds message callbackPtr ↔ session.Responds message callbackPtr := by
  unfold Responds
  rw [hands.actived, hands.haveNetwork, hands.seq2Callback]

/-- A session that has stopped reading is left as it is when no task that it gets reports an
    error. -/
theorem Hands.not_tended (hands : Hands session last) (actived : session.actived = true)
    (still : session.reading = false) {more : List (Task κ)}
    (silent : ∀ e message, Task.handler e message ∉ more)
    (pool : after.pool = last.pool ++ more) (reading : after.reading = last.reading)
    (lives : after.actived = last.actived) : ¬ Tended session after := by
  obtain ⟨tasks, queued, fine⟩ := hands.pool
  rintro (reads | dropped | ⟨e, message, failed, member⟩)
  · rw [reading, hands.reading, still] at reads
    cases reads
  · rw [lives, hands.actived, actived] at dropped
    cases dropped
  · rw [pool, queued, List.append_assoc, List.drop_left] at member
    rcases List.mem_append.mp member with early | late
    · rw [fine e message early] at failed
      exact failed rfl
    · exact silent e message late

theorem Hands.doRead_tended (hands : Hands session last) (actived : session.actived = true)
    (network : session.haveNetwork = true) : Tended session last.doRead := by
  have live : last.actived = true := hands.actived.trans actived
  have online : last.haveNetwork = true := hands.haveNetwork.trans network
  rcases last.doRead_cases with ⟨_, _, _, read⟩ | ⟨_, _, _, dropped⟩ | ⟨dead, _⟩
  · rw [read]
    exact .inl rfl
  · obtain ⟨_, drop⟩ := drop_actived .tcpError live
    rw [dropped, drop]
    exact .inr (.inl rfl)
  · simp [live, online] at dead

/-- The error about a malformed frame gets to the message handler, if there is one, unless the frame
    is taken for a response. -/
theorem Hands.protocolError_tended_iff (hands : Hands session last)
    (actived : session.actived = true) (network : session.haveNetwork = true)
    (still : session.reading = false) (message : P2PMessage) :
    Tended session (last.onMessage protocolError message) ↔
      session.messageHandler = true ∧ ∀ callbackPtr, ¬ session.Responds message callbackPtr := by
  rcases last.onMessage_cases protocolError message with
    ⟨timers, callbackPtr, responds, handed⟩ | ⟨_, _, unanswered, _⟩
  · apply iff_of_false
    · apply hands.not_tended actived still (fun e message member => ?_) (by rw [handed])
        (by rw [handed]) (by rw [handed])
      cases List.mem_singleton.mp member
    · intro told
      exact told.2 callbackPtr ((hands.responds message callbackPtr).mp responds)
  · have handed := onMessage_unanswered (hands.actived.trans actived)
      (hands.haveNetwork.trans network) protocolError unanswered
    cases handler : last.messageHandler with
    | false =>
      apply iff_of_false
      · apply hands.not_tended actived still (fun e message member => ?_) (by rw [handed])
          (by rw [handed]) (by rw [handed])
        unfold notification at member
        rw [handler] at member
        cases member
      · intro told
        have handled := told.1
        rw [← hands.messageHandler, handler] at handled
        cases handled
    | true =>
      apply iff_of_true
      · refine .inr (.inr ⟨protocolError, some message, by decide, ?_⟩)
        obtain ⟨tasks, queued, _⟩ := hands.pool
        rw [handed]
        simp only [queued, notification, handler, if_true]
        rw [List.append_assoc, List.drop_left]
        exact List.mem_append_right _ (List.mem_singleton_self _)
      · refine ⟨hands.messageHandler.symm.trans handler, fun callbackPtr responds => ?_⟩
        exact unanswered callbackPtr ((hands.responds message callbackPtr).mpr responds)

theorem Ends.tended (ends : Ends fw last after) (hands : Hands session last)
    (actived : session.actived = true) (network : session.haveNetwork = true)
    (still : session.reading = false) :
    Tended session after ↔ ∀ result message,
      P2PMessage.decode fw {} last.data = .ok (result, message) → result < 0 →
        session.messageHandler = true ∧ ∀ callbackPtr, ¬ session.Responds message callbackPtr := by
  cases ends with
  | reads decoded =>
    apply iff_of_true (hands.doRead_tended actived network)
    intro result message refused negative
    rw [decoded] at refused
    obtain ⟨rfl, _⟩ := Prod.mk.inj (Except.ok.inj refused)
    exact absurd negative (lt_irrefl 0)
  | @refuses result message negative decoded =>
    rw [hands.protocolError_tended_iff actived network still]
    constructor
    · intro told result' message' refused _
      rw [decoded] at refused
      obtain ⟨rfl, rfl⟩ := Prod.mk.inj (Except.ok.inj refused)
      exact told
    · exact fun told => told result message decoded negative

/-- An active session that stops reading is dropped or reported, if and only if the malformed frame
    that it stops at is not taken for a response. -/
theorem tended_iff (fw : CroppingFramework) (session : Session κ) (ec : Bool) (chunk : Bytes)
    (actived : session.actived = true) (network : session.haveNetwork = true) :
    ∃ after, onRead fw session ec chunk = .ok after ∧
      (Tended session after ↔ ec = true ∨ Reports fw session (session.data ++ chunk)) := by
  cases ec with
  | true =>
    obtain ⟨timers, dropped⟩ := @drop_actived _ { session with reading := false } .tcpError actived
    refine ⟨_, rfl, iff_of_true ?_ (.inl rfl)⟩
    rw [dropped]
    exact .inr (.inl rfl)
  | false =>
    obtain ⟨erased, last, after, erases, ends, ran⟩ :=
      readLoop_erases fw { session with reading := false, data := session.data ++ chunk }
    obtain ⟨messages, drained⟩ := erases.drains ends
    refine ⟨after, ran, (ends.tended erases.hands actived network rfl).trans ?_⟩
    rw [or_iff_right Bool.false_ne_true]
    constructor
    · intro told others left drains result message refused negative
      obtain ⟨_, rfl⟩ := drained.unique drains
      exact told result message refused negative
    · exact fun reports => reports messages last.data drained

/-- The header of a message between nodes, flagged as a response to request 1, without options. -/
def bareResponse : Bytes := [0, 0, 0, 14, 0, 0, 0, 5, 0, 0, 0, 1, 0, 1]

def waiting : Session Nat :=
  { actived := true, seq2Callback := (∅ : Table UInt32 (ResponseCallback Nat)).insert 1 ⟨0, none⟩ }

theorem bareResponse_tended_iff :
    ∃ after, onRead CroppingFramework.standard waiting false bareResponse = .ok after ∧
      (Tended waiting after ↔ false = true ∨
        Reports CroppingFramework.standard waiting (waiting.data ++ bareResponse)) :=
  tended_iff CroppingFramework.standard waiting false bareResponse rfl rfl

/-- The session neither reads on nor ends. -/
theorem bareResponse_not_tended :
    ∃ after, onRead CroppingFramework.standard waiting false bareResponse = .ok after ∧
      after.isActived = true ∧ ¬ Tended waiting after := by
  have run : P2PMessage.decode CroppingFramework.standard {} bareResponse =
      .ok (-1, { length := 14, packetType := 5, seq := 1, ext := 1 }) := by rfl
  refine ⟨({ waiting with data := bareResponse } : Session Nat).onMessage protocolError
    { length := 14, packetType := 5, seq := 1, ext := 1 }, ?_, rfl, ?_⟩
  · unfold onRead readLoop
    simp only [waiting, List.nil_append, run]
    rfl
  · rintro (reads | dropped | ⟨e, message, failed, queued⟩)
    · cases reads
    · cases dropped
    · cases List.mem_singleton.mp queued

end Session

end BcosGateway

import BcosGateway.Session.Outgoing
import BcosGateway.Gateway.Delivery
import BcosGateway.Lib.Places
import BcosGateway.Lib.Transition

/-! Two endpoints of one session: which response reaches which callback. -/

namespace BcosGateway

/-- The request that a frame carries, or that it answers, by its number at the endpoint that made
    the request. -/
inductive Origin where
  | request (number : Nat)
  | response (number : Nat)
  deriving DecidableEq, Repr

structure Frame where
  origin : Origin
  buffer : Bytes
  deriving DecidableEq, Repr

/-- A callback has the number of its request. `drawn` are the results of `newSeq` that no request
    on this session has, and `invoked` are the arguments of all calls of callbacks. -/
structure Endpoint where
  session : Session Nat
  seq : UInt32 := 1
  draws : Nat := 0
  drawn : List UInt32 := []
  requests : List P2PMessage := []
  sent : List Frame := []
  handled : List P2PMessage := []
  invoked : List (Nat × NetworkException × Option P2PMessage) := []

def networkTimeout : NetworkException := ⟨P2PExceptionType.networkTimeout, "NetworkTimeout"⟩

namespace Endpoint

inductive Event where
  | newSeq
  | asyncSendMessage (place : Nat) (message : P2PMessage) (options : Options) (callback : Bool)
  | deliver (place : Nat)
  | execute (task : Nat)
  | sendRespMessage (place frame : Nat) (payload : Bytes)
  | session (event : SessionEvent)
  deriving DecidableEq, Repr

variable (fw : CroppingFramework)

def Reads (buffer : Bytes) (message : P2PMessage) : Prop :=
  ∃ result ≥ 1, P2PMessage.decode fw {} buffer = .ok (result, message)

def reads (buffer : Bytes) (message : P2PMessage) : Bool :=
  match P2PMessage.decode fw {} buffer with
  | .ok (result, decoded) => result ≥ 1 && decoded = message
  | .error _ => false

theorem reads_iff (buffer : Bytes) (message : P2PMessage) :
    reads fw buffer message ↔ Reads fw buffer message := by
  unfold reads Reads
  cases P2PMessage.decode fw {} buffer with
  | error fault => simp
  | ok outcome => simp [Prod.ext_iff]

variable (endpoint : Endpoint)

def pushed (origin : Origin) (message : P2PMessage) : List Frame :=
  if endpoint.session.isActived then
    endpoint.sent ++ [⟨origin, (message.encode fw).2⟩]
  else endpoint.sent

def onFrame (frame : Frame) : Option Endpoint :=
  match P2PMessage.decode fw {} frame.buffer with
  | .error _ => none
  | .ok (result, message) =>
    if result > 0 then
      some { endpoint with session := endpoint.session.onMessage Session.success message }
    else if result = 0 then some endpoint
    else some { endpoint with session := endpoint.session.onMessage Session.protocolError message }

def execute (endpoint : Endpoint) : Task Nat → Endpoint
  | .failure callback e => { endpoint with invoked := endpoint.invoked ++ [(callback, e, none)] }
  | .response callback e message =>
    { endpoint with
      session := endpoint.session.enqueue (.finish callback message.seq)
      invoked := endpoint.invoked ++ [(callback, e, some message)] }
  | .timeout callback seq =>
    { endpoint with
      session := endpoint.session.enqueue (.finish callback seq)
      invoked := endpoint.invoked ++ [(callback, networkTimeout, none)] }
  | .finish _ seq => { endpoint with session := endpoint.session.removeSeqCallback seq }
  | .handler e (some message) =>
    if e.errorCode = P2PExceptionType.success then
      { endpoint with handled := endpoint.handled ++ [message] }
    else endpoint
  | .handler _ none => endpoint

/-- `received` are the frames of the other endpoint, which arrive in any order, any number of
    times. A seq is drawn by any thread, and used on this session once at most; there are fewer
    than 2^32 draws. A request that the handler got is answered at any later time: the frame that
    brought it is one that reads as it. -/
def step (received : List Frame) (endpoint : Endpoint) : Event → Option Endpoint
  | .newSeq =>
    if endpoint.draws + 1 < 2 ^ 32 then
      some { endpoint with
        seq := endpoint.seq + 1
        draws := endpoint.draws + 1
        drawn := endpoint.drawn ++ [endpoint.seq + 1] }
    else none
  | .asyncSendMessage place message options callback =>
    match endpoint.drawn[place]? with
    | none => none
    | some seq =>
      if message.isRespPacket then none
      else
        let number := endpoint.requests.length
        let message := { message with seq }
        let callback := if callback then some number else none
        some { endpoint with
          session := endpoint.session.asyncSendMessage fw message options callback
          drawn := endpoint.drawn.eraseIdx place
          requests := endpoint.requests ++ [message]
          sent := endpoint.pushed fw (.request number) message }
  | .deliver place =>
    match received[place]? with
    | none => none
    | some frame => endpoint.onFrame fw frame
  | .execute task =>
    match endpoint.session.pool[task]? with
    | none => none
    | some started =>
      let session := { endpoint.session with pool := endpoint.session.pool.eraseIdx task }
      some ({ endpoint with session }.execute started)
  | .sendRespMessage place frame payload =>
    match endpoint.handled[place]?, received[frame]? with
    | some message, some ⟨.request number, buffer⟩ =>
      if reads fw buffer message then
        let respMessage := Service.response payload message
        some { endpoint with
          session := endpoint.session.asyncSendMessage fw respMessage {} none
          sent := endpoint.pushed fw (.response number) respMessage }
      else none
    | _, _ => none
  | .session (.onMessage _ _) => none
  | .session event => some { endpoint with session := endpoint.session.take event }

structure Initial (endpoint : Endpoint) : Prop where
  seq2Callback : endpoint.session.seq2Callback = ∅
  pool : endpoint.session.pool = []
  outgoing : endpoint.session.outgoing = []
  seq : endpoint.seq = 1
  draws : endpoint.draws = 0
  drawn : endpoint.drawn = []
  requests : endpoint.requests = []
  sent : endpoint.sent = []
  invoked : endpoint.invoked = []

end Endpoint

structure Link where
  near : Endpoint
  far : Endpoint

namespace Session

structure Idles (session after : Session Nat) : Prop where
  pool : ∀ task ∈ after.pool, task ∈ session.pool ∨
    (∃ callback reason, task = .failure callback (dropException reason)) ∨
    (∃ callback seq, task = .timeout callback seq) ∨ ∃ e, task = .handler e none
  seq2Callback : ∀ seq callbackPtr, after.seq2Callback.lookup seq = some callbackPtr →
    session.seq2Callback.lookup seq = some callbackPtr

variable {session after : Session Nat}

theorem Idles.of_same (pool : after.pool = session.pool)
    (seq2Callback : after.seq2Callback = session.seq2Callback) : Idles session after := by
  constructor
  · intro task member
    rw [pool] at member
    exact .inl member
  · intro seq callbackPtr found
    rwa [seq2Callback] at found

variable (session)

theorem idles_drop (reason : DisconnectReason) : Idles session (session.drop reason) := by
  cases actived : session.actived with
  | false =>
    rw [drop_inactived reason actived]
    exact .of_same rfl rfl
  | true =>
    obtain ⟨_, dropped⟩ := drop_actived reason actived
    rw [dropped]
    constructor
    · intro task member
      rcases List.mem_append.mp member with old | new
      · exact .inl old
      rcases List.mem_append.mp new with failed | notified
      · obtain ⟨it, _, rfl⟩ := List.mem_map.mp failed
        exact .inr (.inl ⟨_, _, rfl⟩)
      · exact .inr (.inr (.inr ⟨_, notification_eq notified⟩))
    · intro seq callbackPtr found
      cases found

theorem idles_write : Idles session session.write := by
  cases active : session.isActived with
  | false =>
    unfold write
    rw [if_pos (by simp [active])]
    exact .of_same rfl rfl
  | true =>
    obtain ⟨_, _, _, written⟩ := write_active active
    rw [written]
    exact .of_same rfl rfl

theorem idles_take (event : SessionEvent) (other : ∀ e message, event ≠ .onMessage e message) :
    Idles session (session.take event) := by
  cases event with
  | onMessage e message => exact absurd rfl (other e message)
  | onTimeout error seq =>
    show Idles session (session.onTimeout error seq)
    rcases session.onTimeout_cases error seq with ⟨callbackPtr, _, _, fired⟩ | ⟨_, fired⟩
    · rw [fired]
      constructor
      · intro task member
        rcases List.mem_append.mp member with old | new
        · exact .inl old
        · exact .inr (.inr (.inl ⟨_, _, List.mem_singleton.mp new⟩))
      · exact fun _ _ found => found
    · rw [fired]
      exact .of_same rfl rfl
  | onIdle aborted =>
    show Idles session (session.onIdle aborted)
    unfold onIdle
    split
    · exact .of_same rfl rfl
    · split
      · exact session.idles_drop _
      · exact .of_same rfl rfl
  | onWrite ec =>
    show Idles session (session.onWrite ec)
    unfold onWrite
    split
    · exact .of_same rfl rfl
    split
    · exact session.idles_drop _
    · simp only
      split
      · obtain ⟨pool, seq2Callback⟩ := idles_write { session with writing := false }
        exact ⟨pool, seq2Callback⟩
      · exact session.idles_write
  | drop reason => exact session.idles_drop reason
  | haveNetwork network => exact .of_same rfl rfl
  | connected socket => exact .of_same rfl rfl

section Send

variable {session} {fw : Framework} {message : P2PMessage} {options : Options}
  {callback : Option Nat}

theorem asyncSendMessage_pool {task : Task Nat}
    (queued : task ∈ (session.asyncSendMessage fw message options callback).pool) :
    task ∈ session.pool ∨ ∃ failed, task = .failure failed ⟨-1, "Session inactived"⟩ := by
  cases active : session.isActived with
  | false =>
    rw [asyncSendMessage_inactive _ _ _ active] at queued
    rcases List.mem_append.mp queued with old | new
    · exact .inl old
    · obtain ⟨failed, _, same⟩ := List.mem_map.mp new
      exact .inr ⟨failed, same.symm⟩
  | true =>
    cases callback with
    | none =>
      obtain ⟨_, _, _, sent⟩ := asyncSendMessage_silent fw message options active
      rw [sent] at queued
      exact .inl queued
    | some callback =>
      obtain ⟨_, _, _, _, _, sent⟩ := asyncSendMessage_active fw message options active callback
      rw [sent] at queued
      exact .inl queued

/-- An entry after a send was there before, or it is that of the message. -/
theorem asyncSendMessage_entry {seq : UInt32} {callbackPtr : ResponseCallback Nat}
    (found : (session.asyncSendMessage fw message options callback).seq2Callback.lookup seq =
      some callbackPtr) :
    session.seq2Callback.lookup seq = some callbackPtr ∨
      (seq = message.seq ∧ callback = some callbackPtr.callback) := by
  cases active : session.isActived with
  | false =>
    rw [asyncSendMessage_inactive _ _ _ active] at found
    exact .inl found
  | true =>
    cases callback with
    | none =>
      obtain ⟨_, _, _, sent⟩ := asyncSendMessage_silent fw message options active
      rw [sent] at found
      exact .inl found
    | some callback =>
      obtain ⟨_, _, _, _, _, sent⟩ := asyncSendMessage_active fw message options active callback
      rw [sent] at found
      simp only [Table.lookup_add] at found
      split at found
      · rename_i same
        cases present : session.seq2Callback.lookup message.seq with
        | none =>
          rw [present] at found
          cases found
          exact .inr ⟨same, rfl⟩
        | some older =>
          rw [present] at found
          cases found
          exact .inl (same ▸ present)
      · exact .inl found

end Send

theorem dropException_fails (reason : DisconnectReason) :
    (dropException reason).errorCode ≠ P2PExceptionType.success := by
  unfold dropException
  split
  · decide
  · decide

end Session

structure Drawn (seq : UInt32) (draws : Nat) (seqs : List UInt32) : Prop where
  next : seq = UInt32.ofNat (1 + draws)
  few : draws < 2 ^ 32
  below : ∀ other ∈ seqs, ∃ place < draws, other = UInt32.ofNat (2 + place)
  distinct : seqs.Nodup

theorem Drawn.perm {seq : UInt32} {draws : Nat} {seqs others : List UInt32}
    (drawn : Drawn seq draws seqs) (same : others.Perm seqs) : Drawn seq draws others :=
  ⟨drawn.next, drawn.few, fun other member => drawn.below other (same.mem_iff.mp member),
    same.nodup_iff.mpr drawn.distinct⟩

theorem Drawn.newSeq {seq : UInt32} {draws : Nat} {seqs : List UInt32}
    (drawn : Drawn seq draws seqs) (few : draws + 1 < 2 ^ 32) :
    Drawn (seq + 1) (draws + 1) (seqs ++ [seq + 1]) := by
  have next : seq + 1 = UInt32.ofNat (2 + draws) := by
    rw [drawn.next]
    apply UInt32.toNat_inj.mp
    simp only [UInt32.toNat_add, UInt32.toNat_ofNat', UInt32.reduceToNat]
    omega
  have fresh : seq + 1 ∉ seqs := by
    intro member
    obtain ⟨place, before, same⟩ := drawn.below _ member
    rw [next] at same
    have values := congrArg UInt32.toNat same
    simp only [UInt32.toNat_ofNat'] at values
    omega
  refine ⟨?_, few, fun other member => ?_, ?_⟩
  · rw [next]
    congr 1
    omega
  · rcases List.mem_append.mp member with old | new
    · obtain ⟨place, before, same⟩ := drawn.below other old
      exact ⟨place, by omega, same⟩
    · rw [List.mem_singleton.mp new]
      exact ⟨draws, by omega, next⟩
  · apply List.nodup_append.mpr
    refine ⟨drawn.distinct, List.nodup_singleton _, fun old member new last => ?_⟩
    rw [List.mem_singleton.mp last]
    rintro rfl
    exact fresh member

namespace Endpoint

variable (fw : CroppingFramework)

def Answers (requester : Endpoint) (number : Nat) (buffer : Bytes) : Prop :=
  ∃ request arrived payload, requester.requests[number]? = some request ∧
    ⟨.request number, (request.encode fw).2⟩ ∈ requester.sent ∧
    Reads fw (request.encode fw).2 arrived ∧
    buffer = ((Service.response payload arrived).encode fw).2

def Answered (peer : Endpoint) (number : Nat) (message : P2PMessage) : Prop :=
  ∃ buffer, ⟨.response number, buffer⟩ ∈ peer.sent ∧ Reads fw buffer message

def Due (peer : Endpoint) : Task Nat → Prop
  | .failure _ e => e.errorCode ≠ P2PExceptionType.success
  | .response callback e message =>
    e.errorCode = P2PExceptionType.success → Answered fw peer callback message
  | .timeout .. | .finish .. | .handler .. => True

/-- The invariant of one endpoint. Entries and frames have the seqs of the requests that they
    belong to, and no two requests share one. -/
structure Sound (own peer : Endpoint) : Prop where
  seqs : Drawn own.seq own.draws (own.requests.map P2PMessage.seq ++ own.drawn)
  held : ∀ seq callbackPtr, own.session.seq2Callback.lookup seq = some callbackPtr →
    ∃ request, own.requests[callbackPtr.callback]? = some request ∧ request.seq = seq
  requests : ∀ number buffer, ⟨.request number, buffer⟩ ∈ own.sent →
    ∃ request, own.requests[number]? = some request ∧ request.isRespPacket = false ∧
      buffer = (request.encode fw).2
  responses : ∀ number buffer, ⟨.response number, buffer⟩ ∈ own.sent → Answers fw peer number buffer
  pool : ∀ task ∈ own.session.pool, Due fw peer task
  invoked : ∀ callback e message, (callback, e, message) ∈ own.invoked →
    e.errorCode = P2PExceptionType.success →
      ∃ response, message = some response ∧ Answered fw peer callback response

structure Grows (before after : Endpoint) : Prop where
  requests : ∀ (number : Nat) (request : P2PMessage), before.requests[number]? = some request →
    after.requests[number]? = some request
  sent : ∀ frame ∈ before.sent, frame ∈ after.sent

variable {fw} {own peer after : Endpoint}

theorem Answers.grows (grows : Grows peer after) {number : Nat} {buffer : Bytes}
    (answers : Answers fw peer number buffer) : Answers fw after number buffer := by
  obtain ⟨request, arrived, payload, requested, sent, reads, same⟩ := answers
  exact ⟨request, arrived, payload, grows.requests number request requested, grows.sent _ sent,
    reads, same⟩

theorem Answered.grows (grows : Grows peer after) {number : Nat} {message : P2PMessage}
    (answered : Answered fw peer number message) : Answered fw after number message := by
  obtain ⟨buffer, sent, reads⟩ := answered
  exact ⟨buffer, grows.sent _ sent, reads⟩

theorem Due.grows (grows : Grows peer after) {task : Task Nat} (due : Due fw peer task) :
    Due fw after task := by
  cases task with
  | failure callback e => exact due
  | response callback e message => exact fun success => (due success).grows grows
  | timeout callback seq => trivial
  | finish callback seq => trivial
  | handler e message => trivial

theorem Sound.grows (sound : Sound fw own peer) (grows : Grows peer after) : Sound fw own after := by
  refine ⟨sound.seqs, sound.held, sound.requests, ?_, ?_, ?_⟩
  · intro number buffer member
    exact (sound.responses number buffer member).grows grows
  · intro task member
    exact (sound.pool task member).grows grows
  · intro callback e message member success
    obtain ⟨response, same, answered⟩ := sound.invoked callback e message member success
    exact ⟨response, same, answered.grows grows⟩

section Deliver

variable (sound : Sound fw own peer) (back : Sound fw peer own) {origin : Origin} {buffer : Bytes}
  (member : ⟨origin, buffer⟩ ∈ peer.sent) {result : Int} {message : P2PMessage}
  (decoded : P2PMessage.decode fw {} buffer = .ok (result, message))

include back member decoded

/-- A request never looks like a response. -/
theorem Sound.request_frame {number : Nat} (request : origin = .request number) :
    message.isRespPacket = false := by
  subst request
  obtain ⟨request, _, plain, rfl⟩ := back.requests number buffer member
  have header := P2PMessage.decode_encode_header fw decoded
  rw [P2PMessage.isRespPacket, header.2.1]
  exact plain

include sound

/-- The callback that a frame finds is that of the request which the frame answers. -/
theorem Sound.responds {callbackPtr : ResponseCallback Nat}
    (responds : own.session.Responds message callbackPtr) :
    origin = .response callbackPtr.callback := by
  obtain ⟨_, _, flagged, found⟩ := responds
  cases origin with
  | request number =>
    rw [back.request_frame member decoded rfl] at flagged
    cases flagged
  | response number =>
    obtain ⟨request, arrived, payload, requested, _, ⟨_, _, read⟩, rfl⟩ :=
      back.responses number buffer member
    have copied := (P2PMessage.decode_encode_header fw decoded).1
    have carried := (P2PMessage.decode_encode_header fw read).1
    obtain ⟨holder, held, same⟩ := sound.held message.seq callbackPtr found
    have seqs : (own.requests.map P2PMessage.seq)[number]? =
        (own.requests.map P2PMessage.seq)[callbackPtr.callback]? := by
      rw [List.getElem?_map, List.getElem?_map, requested, held]
      exact congrArg some (carried.symm.trans (copied.symm.trans same.symm))
    have inside : number < (own.requests.map P2PMessage.seq).length := by
      rw [List.length_map]
      exact (List.getElem?_eq_some_iff.mp requested).1
    rw [(List.getElem?_inj inside (List.nodup_append.mp sound.seqs.distinct).1).mp seqs]

theorem Sound.onMessage (e : NetworkException)
    (whole : e.errorCode = P2PExceptionType.success → result ≥ 1) :
    Sound fw { own with session := own.session.onMessage e message } peer := by
  rcases own.session.onMessage_cases e message with
    ⟨_, callbackPtr, responds, handed⟩ | ⟨tasks, handlers, _, handed⟩
  · have answers := sound.responds back member decoded responds
    rw [handed]
    refine ⟨sound.seqs, sound.held, sound.requests, sound.responses, ?_, sound.invoked⟩
    intro task queued
    rcases List.mem_append.mp queued with old | new
    · exact sound.pool task old
    · rw [List.mem_singleton.mp new]
      intro success
      exact ⟨buffer, answers ▸ member, result, whole success, decoded⟩
  · rw [handed]
    refine ⟨sound.seqs, sound.held, sound.requests, sound.responses, ?_, sound.invoked⟩
    intro task queued
    rcases List.mem_append.mp queued with old | new
    · exact sound.pool task old
    · rw [handlers task new]
      trivial

end Deliver

theorem Sound.idles (sound : Sound fw own peer) {session : Session Nat}
    (idles : Session.Idles own.session session) : Sound fw { own with session } peer := by
  refine ⟨sound.seqs, fun seq callbackPtr found => ?_, sound.requests, sound.responses, ?_,
    sound.invoked⟩
  · exact sound.held seq callbackPtr (idles.seq2Callback seq callbackPtr found)
  · intro task queued
    rcases idles.pool task queued with old | ⟨_, reason, rfl⟩ | ⟨_, _, rfl⟩ | ⟨_, rfl⟩
    · exact sound.pool task old
    · exact Session.dropException_fails reason
    · trivial
    · trivial

theorem Sound.execute (sound : Sound fw own peer) {place : Nat} {started : Task Nat}
    (found : own.session.pool[place]? = some started) :
    Sound fw ({ own with session := { own.session with
      pool := own.session.pool.eraseIdx place } }.execute started) peer := by
  have due := sound.pool started (List.mem_of_getElem? found)
  have left : Sound fw { own with session := { own.session with
      pool := own.session.pool.eraseIdx place } } peer :=
    ⟨sound.seqs, sound.held, sound.requests, sound.responses,
      fun task queued => sound.pool task (List.eraseIdx_subset queued), sound.invoked⟩
  have pooled {task : Task Nat} (fine : Due fw peer task) :
      ∀ queued ∈ own.session.pool.eraseIdx place ++ [task], Due fw peer queued := by
    intro queued member
    rcases List.mem_append.mp member with old | new
    · exact left.pool queued old
    · rw [List.mem_singleton.mp new]
      exact fine
  have called {call : Nat × NetworkException × Option P2PMessage}
      (fine : call.2.1.errorCode = P2PExceptionType.success →
        ∃ response, call.2.2 = some response ∧ Answered fw peer call.1 response) :
      ∀ callback e message, (callback, e, message) ∈ own.invoked ++ [call] →
        e.errorCode = P2PExceptionType.success →
          ∃ response, message = some response ∧ Answered fw peer callback response := by
    intro callback e message member success
    rcases List.mem_append.mp member with old | new
    · exact sound.invoked callback e message old success
    · cases List.mem_singleton.mp new
      exact fine success
  cases started with
  | failure callback e =>
    exact ⟨left.seqs, left.held, left.requests, left.responses, left.pool,
      called fun success => absurd success due⟩
  | response callback e message =>
    exact ⟨left.seqs, left.held, left.requests, left.responses, pooled trivial,
      called fun success => ⟨message, rfl, due success⟩⟩
  | timeout callback seq =>
    exact ⟨left.seqs, left.held, left.requests, left.responses, pooled trivial,
      called fun success => absurd success
        (show networkTimeout.errorCode ≠ P2PExceptionType.success by decide)⟩
  | finish callback seq =>
    refine ⟨left.seqs, fun other callbackPtr held => ?_, left.requests, left.responses, left.pool,
      left.invoked⟩
    have erased : (own.session.seq2Callback.erase seq).lookup other = some callbackPtr := held
    rw [Table.lookup_erase_if] at erased
    split at erased
    · cases erased
    · exact sound.held other callbackPtr erased
  | handler e message =>
    cases message with
    | none => exact left
    | some message =>
      unfold Endpoint.execute
      simp only
      split
      · exact ⟨left.seqs, left.held, left.requests, left.responses, left.pool, left.invoked⟩
      · exact left

theorem mem_pushed {origin : Origin} {message : P2PMessage} {frame : Frame}
    (member : frame ∈ own.pushed fw origin message) :
    frame ∈ own.sent ∨ frame = ⟨origin, (message.encode fw).2⟩ := by
  unfold pushed at member
  split at member
  · exact (List.mem_append.mp member).imp_right List.mem_singleton.mp
  · exact .inl member

theorem Sound.sends_pool (sound : Sound fw own peer) {message : P2PMessage} {options : Options}
    {callback : Option Nat} {task : Task Nat}
    (queued : task ∈ (own.session.asyncSendMessage fw message options callback).pool) :
    Due fw peer task := by
  rcases Session.asyncSendMessage_pool queued with old | ⟨_, rfl⟩
  · exact sound.pool task old
  · show (-1 : Int) ≠ P2PExceptionType.success
    decide

/-- A request is registered under its own seq, which no earlier one has. -/
theorem Sound.asyncSendMessage (sound : Sound fw own peer) {place : Nat} {seq : UInt32}
    (drawn : own.drawn[place]? = some seq) {message : P2PMessage}
    (plain : message.isRespPacket = false) (options : Options) (callback : Bool) :
    Sound fw { own with
      session := own.session.asyncSendMessage fw { message with seq } options
        (if callback then some own.requests.length else none)
      drawn := own.drawn.eraseIdx place
      requests := own.requests ++ [{ message with seq }]
      sent := own.pushed fw (.request own.requests.length) { message with seq } } peer := by
  have last : (own.requests ++ [{ message with seq }])[own.requests.length]? =
      some { message with seq } := by simp
  have kept {number : Nat} {request : P2PMessage} (found : own.requests[number]? = some request) :
      (own.requests ++ [{ message with seq }])[number]? = some request := by
    rw [List.getElem?_append_left (List.getElem?_eq_some_iff.mp found).1, found]
  have moved : ((own.requests ++ [{ message with seq }]).map P2PMessage.seq ++
      own.drawn.eraseIdx place).Perm (own.requests.map P2PMessage.seq ++ own.drawn) := by
    rw [List.map_append, List.append_assoc]
    exact (Places.perm_eraseIdx drawn).append_left _
  refine ⟨sound.seqs.perm moved, ?_, ?_, ?_, ?_, sound.invoked⟩
  · intro other callbackPtr found
    rcases Session.asyncSendMessage_entry found with old | ⟨same, registered⟩
    · obtain ⟨request, requested, same⟩ := sound.held other callbackPtr old
      exact ⟨request, kept requested, same⟩
    · cases callback with
      | false => cases registered
      | true =>
        rw [← Option.some.inj registered]
        exact ⟨_, last, same.symm⟩
  · intro number buffer member
    rcases mem_pushed member with old | new
    · obtain ⟨request, requested, rest⟩ := sound.requests number buffer old
      exact ⟨request, kept requested, rest⟩
    · cases new
      exact ⟨_, last, plain, rfl⟩
  · intro number buffer member
    rcases mem_pushed member with old | new
    · exact sound.responses number buffer old
    · cases new
  · exact fun task queued => sound.sends_pool queued

theorem Sound.sendRespMessage (sound : Sound fw own peer) (back : Sound fw peer own) {number : Nat}
    {buffer : Bytes} (member : ⟨.request number, buffer⟩ ∈ peer.sent) {message : P2PMessage}
    (arrived : Reads fw buffer message) (payload : Bytes) :
    Sound fw { own with
      session := own.session.asyncSendMessage fw (Service.response payload message) {} none
      sent := own.pushed fw (.response number) (Service.response payload message) } peer := by
  obtain ⟨request, requested, plain, rfl⟩ := back.requests number buffer member
  refine ⟨sound.seqs, ?_, ?_, ?_, ?_, sound.invoked⟩
  · intro other callbackPtr found
    rcases Session.asyncSendMessage_entry found with old | ⟨_, registered⟩
    · exact sound.held other callbackPtr old
    · cases registered
  · intro other written sent
    rcases mem_pushed sent with old | new
    · exact sound.requests other written old
    · cases new
  · intro other written sent
    rcases mem_pushed sent with old | new
    · exact sound.responses other written old
    · cases new
      exact ⟨request, message, payload, requested, member, arrived, rfl⟩
  · exact fun task queued => sound.sends_pool queued

theorem step_session {received : List Frame} {event : SessionEvent}
    (taken : Endpoint.step fw received own (.session event) = some after) :
    (∀ e message, event ≠ .onMessage e message) ∧
      after = { own with session := own.session.take event } := by
  cases event with
  | onMessage e message => cases taken
  | onTimeout error seq =>
    cases taken
    exact ⟨nofun, rfl⟩
  | onIdle aborted =>
    cases taken
    exact ⟨nofun, rfl⟩
  | onWrite ec =>
    cases taken
    exact ⟨nofun, rfl⟩
  | drop reason =>
    cases taken
    exact ⟨nofun, rfl⟩
  | haveNetwork network =>
    cases taken
    exact ⟨nofun, rfl⟩
  | connected socket =>
    cases taken
    exact ⟨nofun, rfl⟩

inductive Moves (fw : CroppingFramework) (received : List Frame) (own : Endpoint) :
    Endpoint → Prop
  | newSeq (few : own.draws + 1 < 2 ^ 32) :
      Moves fw received own { own with
        seq := own.seq + 1
        draws := own.draws + 1
        drawn := own.drawn ++ [own.seq + 1] }
  | asyncSendMessage {place : Nat} {seq : UInt32} (drawn : own.drawn[place]? = some seq)
      {message : P2PMessage} (plain : message.isRespPacket = false) (options : Options)
      (callback : Bool) :
      Moves fw received own { own with
        session := own.session.asyncSendMessage fw { message with seq } options
          (if callback then some own.requests.length else none)
        drawn := own.drawn.eraseIdx place
        requests := own.requests ++ [{ message with seq }]
        sent := own.pushed fw (.request own.requests.length) { message with seq } }
  | unread : Moves fw received own own
  | onMessage {origin : Origin} {buffer : Bytes} (member : ⟨origin, buffer⟩ ∈ received)
      {result : Int} {message : P2PMessage}
      (decoded : P2PMessage.decode fw {} buffer = .ok (result, message)) (e : NetworkException)
      (whole : e.errorCode = P2PExceptionType.success → result ≥ 1) :
      Moves fw received own { own with session := own.session.onMessage e message }
  | execute {place : Nat} {started : Task Nat} (found : own.session.pool[place]? = some started) :
      Moves fw received own ({ own with session := { own.session with
        pool := own.session.pool.eraseIdx place } }.execute started)
  | sendRespMessage {number : Nat} {buffer : Bytes} (member : ⟨.request number, buffer⟩ ∈ received)
      {message : P2PMessage} (arrived : Reads fw buffer message) (payload : Bytes) :
      Moves fw received own { own with
        session := own.session.asyncSendMessage fw (Service.response payload message) {} none
        sent := own.pushed fw (.response number) (Service.response payload message) }
  | session (event : SessionEvent) (other : ∀ e message, event ≠ .onMessage e message) :
      Moves fw received own { own with session := own.session.take event }

theorem onFrame_moves {received : List Frame} {frame : Frame} (member : frame ∈ received)
    (taken : own.onFrame fw frame = some after) : Moves fw received own after := by
  unfold onFrame at taken
  split at taken
  · cases taken
  rename_i result message decoded
  split at taken
  · rename_i whole
    cases taken
    exact .onMessage member decoded Session.success fun _ => whole
  split at taken
  · cases taken
    exact .unread
  · cases taken
    exact .onMessage member decoded Session.protocolError fun success =>
      absurd success (by decide)

theorem step_moves {received : List Frame} {event : Event}
    (taken : Endpoint.step fw received own event = some after) : Moves fw received own after := by
  cases event with
  | newSeq =>
    simp only [Endpoint.step] at taken
    split at taken
    · rename_i few
      cases taken
      exact .newSeq few
    · cases taken
  | asyncSendMessage place message options callback =>
    simp only [Endpoint.step] at taken
    split at taken
    · cases taken
    rename_i drawn
    split at taken
    · cases taken
    · rename_i plain
      cases taken
      exact .asyncSendMessage drawn (Bool.eq_false_iff.mpr plain) options callback
  | deliver place =>
    simp only [Endpoint.step] at taken
    split at taken
    · cases taken
    · rename_i found
      exact onFrame_moves (List.mem_of_getElem? found) taken
  | execute task =>
    simp only [Endpoint.step] at taken
    split at taken
    · cases taken
    · rename_i found
      cases taken
      exact .execute found
  | sendRespMessage place frame payload =>
    simp only [Endpoint.step] at taken
    split at taken
    · rename_i message number buffer _ brought
      split at taken
      · rename_i arrived
        cases taken
        exact .sendRespMessage (List.mem_of_getElem? brought)
          ((reads_iff fw buffer message).mp arrived) payload
      · cases taken
    · cases taken
  | session event =>
    obtain ⟨other, rfl⟩ := step_session taken
    exact .session event other

theorem Sound.step (sound : Sound fw own peer) (back : Sound fw peer own)
    (moves : Moves fw peer.sent own after) : Sound fw after peer := by
  cases moves with
  | newSeq few =>
    have drawn := sound.seqs.newSeq few
    rw [List.append_assoc] at drawn
    exact ⟨drawn, sound.held, sound.requests, sound.responses, sound.pool, sound.invoked⟩
  | asyncSendMessage drawn plain options callback =>
    exact sound.asyncSendMessage drawn plain options callback
  | unread => exact sound
  | onMessage member decoded e whole => exact sound.onMessage back member decoded e whole
  | execute found => exact sound.execute found
  | sendRespMessage member arrived payload =>
    exact sound.sendRespMessage back member arrived payload
  | session event other => exact sound.idles (own.session.idles_take event other)

end Endpoint

namespace Endpoint

variable {fw : CroppingFramework} {received : List Frame} {own after : Endpoint}

theorem execute_kept (endpoint : Endpoint) (started : Task Nat) :
    (endpoint.execute started).requests = endpoint.requests ∧
      (endpoint.execute started).sent = endpoint.sent ∧
      (endpoint.execute started).session.outgoing = endpoint.session.outgoing := by
  cases started with
  | failure callback e => exact ⟨rfl, rfl, rfl⟩
  | response callback e message => exact ⟨rfl, rfl, rfl⟩
  | timeout callback seq => exact ⟨rfl, rfl, rfl⟩
  | finish callback seq => exact ⟨rfl, rfl, rfl⟩
  | handler e message =>
    cases message with
    | none => exact ⟨rfl, rfl, rfl⟩
    | some message =>
      unfold execute
      simp only
      split
      · exact ⟨rfl, rfl, rfl⟩
      · exact ⟨rfl, rfl, rfl⟩

theorem pushed_outgoing (sent : own.sent.map Frame.buffer = own.session.outgoing) (origin : Origin)
    (message : P2PMessage) (options : Options) (callback : Option Nat) :
    (own.pushed fw origin message).map Frame.buffer =
      (own.session.asyncSendMessage fw message options callback).outgoing := by
  unfold pushed
  cases active : own.session.isActived with
  | false =>
    rw [Session.asyncSendMessage_outgoing_inactive fw own.session active]
    exact sent
  | true =>
    rw [own.session.asyncSendMessage_outgoing fw active]
    simp [sent]

theorem sent_pushed {origin : Origin} {message : P2PMessage} {frame : Frame}
    (sent : frame ∈ own.sent) : frame ∈ own.pushed fw origin message := by
  unfold pushed
  split
  · exact List.mem_append_left _ sent
  · exact sent

theorem Grows.of_same (requests : after.requests = own.requests) (sent : after.sent = own.sent) :
    Grows own after := by
  constructor
  · intro number request found
    rw [requests, found]
  · intro frame member
    rw [sent]
    exact member

/-- The frames are what the session has queued for writing, and they only become more. -/
theorem Moves.grows (sent : own.sent.map Frame.buffer = own.session.outgoing)
    (moves : Moves fw received own after) :
    Grows own after ∧ after.sent.map Frame.buffer = after.session.outgoing := by
  cases moves with
  | newSeq few => exact ⟨.of_same rfl rfl, sent⟩
  | asyncSendMessage drawn plain options callback =>
    constructor
    · constructor
      · intro number request found
        exact (List.getElem?_append_left (List.getElem?_eq_some_iff.mp found).1).trans found
      · exact fun frame member => sent_pushed member
    · exact pushed_outgoing sent _ _ options _
  | unread => exact ⟨.of_same rfl rfl, sent⟩
  | onMessage member decoded e whole =>
    exact ⟨.of_same rfl rfl, sent.trans (Session.onMessage_outgoing _ _ _).symm⟩
  | @execute place started found =>
    obtain ⟨requests, frames, outgoing⟩ := execute_kept { own with
      session := { own.session with pool := own.session.pool.eraseIdx place } } started
    constructor
    · exact .of_same requests frames
    · rw [outgoing, frames]
      exact sent
  | sendRespMessage member arrived payload =>
    constructor
    · exact ⟨fun _ _ found => found, fun frame member => sent_pushed member⟩
    · exact pushed_outgoing sent _ _ {} none
  | session event other =>
    exact ⟨.of_same rfl rfl, sent.trans (Session.take_outgoing _ event).symm⟩

end Endpoint

namespace Link

inductive Event where
  | near (event : Endpoint.Event)
  | far (event : Endpoint.Event)
  deriving DecidableEq, Repr

def step (fw : CroppingFramework) (link : Link) : Event → Option Link
  | .near event => (link.near.step fw link.far.sent event).map fun near => { link with near }
  | .far event => (link.far.step fw link.near.sent event).map fun far => { link with far }

end Link

namespace Endpoint

structure Correlated (fw : CroppingFramework) (own peer : Endpoint) : Prop where
  succeeded : ∀ callback e message, (callback, e, message) ∈ own.invoked →
    e.errorCode = P2PExceptionType.success →
      ∃ response buffer, message = some response ∧ Reads fw buffer response ∧
        ⟨.response callback, buffer⟩ ∈ peer.sent ∧ Answers fw own callback buffer
  handled : ∀ number buffer, ⟨.request number, buffer⟩ ∈ peer.sent →
    ∀ result message, P2PMessage.decode fw {} buffer = .ok (result, message) →
      ∀ e, own.session.actived → own.session.haveNetwork → own.session.messageHandler →
        own.session.onMessage e message =
          { own.session with
            pool := own.session.pool ++ [.handler e (some message)]
            handed := own.session.handed ++ [(e, message)] }

variable {fw : CroppingFramework} {own peer : Endpoint}

theorem Sound.correlated (sound : Sound fw own peer) (back : Sound fw peer own) :
    Correlated fw own peer := by
  constructor
  · intro callback e message member success
    obtain ⟨response, same, buffer, sent, reads⟩ := sound.invoked callback e message member success
    exact ⟨response, buffer, same, reads, sent, back.responses callback buffer sent⟩
  · intro number buffer sent result message decoded e actived network handler
    have plain := back.request_frame sent decoded rfl
    unfold Session.onMessage
    simp only
    rw [if_pos (by simp [actived, network])]
    split
    · rename_i flagged
      rw [plain] at flagged
      cases flagged
    · rw [if_pos handler]
      rfl

end Endpoint

namespace Link

variable {fw : CroppingFramework} {link next : Link}

structure Sound (fw : CroppingFramework) (link : Link) : Prop where
  near : Endpoint.Sound fw link.near link.far
  far : Endpoint.Sound fw link.far link.near
  nearSent : link.near.sent.map Frame.buffer = link.near.session.outgoing
  farSent : link.far.sent.map Frame.buffer = link.far.session.outgoing

theorem Sound.step (sound : Sound fw link) {event : Event}
    (taken : Link.step fw link event = some next) : Sound fw next := by
  cases event with
  | near event =>
    obtain ⟨near, moved, rfl⟩ := Option.map_eq_some_iff.mp taken
    have moves := Endpoint.step_moves moved
    obtain ⟨grows, sent⟩ := moves.grows sound.nearSent
    exact ⟨sound.near.step sound.far moves, sound.far.grows grows, sent, sound.farSent⟩
  | far event =>
    obtain ⟨far, moved, rfl⟩ := Option.map_eq_some_iff.mp taken
    have moves := Endpoint.step_moves moved
    obtain ⟨grows, sent⟩ := moves.grows sound.farSent
    exact ⟨sound.near.grows grows, sound.far.step sound.near moves, sound.nearSent, sent⟩

end Link

theorem Endpoint.Initial.sound {fw : CroppingFramework} {own peer : Endpoint}
    (initial : own.Initial) : Endpoint.Sound fw own peer := by
  obtain ⟨seq2Callback, pool, _, seq, draws, drawn, requests, sent, invoked⟩ := initial
  refine ⟨⟨by rw [seq, draws]; rfl, by rw [draws]; decide, ?_, ?_⟩, ?_, ?_, ?_, ?_, ?_⟩
  · rw [requests, drawn]
    exact fun _ none => absurd none List.not_mem_nil
  · rw [requests, drawn]
    exact List.nodup_nil
  · rw [seq2Callback]
    exact fun _ _ found => (by cases found)
  · rw [sent]
    exact fun _ _ none => absurd none List.not_mem_nil
  · rw [sent]
    exact fun _ _ none => absurd none List.not_mem_nil
  · rw [pool]
    exact fun _ none => absurd none List.not_mem_nil
  · rw [invoked]
    exact fun _ _ _ none => absurd none List.not_mem_nil

namespace Link

structure Initial (link : Link) : Prop where
  near : link.near.Initial
  far : link.far.Initial

/-- Whatever the order of frames, tasks and timeouts, a callback that succeeds gets a response to
    its own request, and a request goes to the message handler. -/
theorem responses_correlate (fw : CroppingFramework) (link : Link) (events : List Event)
    {last : Link} (initial : link.Initial)
    (ran : Transition.run (step fw) link events = some last) :
    Endpoint.Correlated fw last.near last.far ∧ Endpoint.Correlated fw last.far last.near := by
  have start : Sound fw link :=
    ⟨initial.near.sound, initial.far.sound, by rw [initial.near.sent, initial.near.outgoing]; rfl,
      by rw [initial.far.sent, initial.far.outgoing]; rfl⟩
  have sound := Transition.invariant (step fw) (fun _ _ _ sound taken => sound.step taken) start ran
  exact ⟨sound.near.correlated sound.far, sound.far.correlated sound.near⟩

def opened : Endpoint := { session := { actived := true } }

/-- Both ends have a request of the same seq. The far one answers while its own is pending. -/
def crossed : List Event :=
  [.near .newSeq, .far .newSeq, .near (.asyncSendMessage 0 {} {} true),
    .far (.asyncSendMessage 0 {} {} true), .far (.deliver 0), .far (.execute 0),
    .far (.sendRespMessage 0 0 [48]), .near (.deliver 1), .near (.execute 0)]

theorem crossed_correlate :
    ∃ last, Transition.run (step CroppingFramework.standard) ⟨opened, opened⟩ crossed = some last ∧
      last.near.invoked.map (fun call => (call.1, call.2.1)) = [(0, Session.success)] ∧
      last.far.invoked = [] ∧ Endpoint.Correlated CroppingFramework.standard last.near last.far ∧
      Endpoint.Correlated CroppingFramework.standard last.far last.near := by
  obtain ⟨last, ran, near, far⟩ : ∃ last, Transition.run (step CroppingFramework.standard)
      ⟨opened, opened⟩ crossed = some last ∧
        last.near.invoked.map (fun call => (call.1, call.2.1)) = [(0, Session.success)] ∧
        last.far.invoked = [] := ⟨_, rfl, rfl, rfl⟩
  have opened_initial : opened.Initial := ⟨rfl, rfl, rfl, rfl, rfl, rfl, rfl, rfl, rfl⟩
  exact ⟨last, ran, near, far,
    responses_correlate CroppingFramework.standard ⟨opened, opened⟩ crossed
      ⟨opened_initial, opened_initial⟩ ran⟩

end Link

end BcosGateway

import BcosGateway.P2PMessage.Decode
import BcosGateway.Lib.Table

namespace BcosGateway

/-- An entry of `m_seq2Callback`. Only `asyncSendMessage` makes one, and never for an empty
    function. -/
structure ResponseCallback (κ : Type) where
  callback : κ
  timeoutHandler : Option Nat := none
  deriving DecidableEq, Repr

inductive TimerState where
  | armed | expired | cancelled | handled
  deriving DecidableEq, Repr

structure Timer where
  seq : UInt32
  state : TimerState := .armed
  deriving DecidableEq, Repr

/-- A timer that has expired calls its handler without an error even if it is cancelled later. -/
def Timer.cancel (timer : Timer) : Timer :=
  if timer.state = .armed then { timer with state := .cancelled } else timer

/-- What a session queues in the thread pool. `finish` is what is left of `response` and
    `timeout` once their callback has returned. -/
inductive Task (κ : Type) where
  | failure (callback : κ) (e : NetworkException)
  | response (callback : κ) (e : NetworkException) (message : P2PMessage)
  | timeout (callback : κ) (seq : UInt32)
  | finish (callback : κ) (seq : UInt32)
  | handler (e : NetworkException) (message : Option P2PMessage)
  deriving DecidableEq, Repr

def Task.holds {κ : Type} : Task κ → Option κ
  | .failure callback _ | .response callback _ _ | .timeout callback _ | .finish callback _ =>
    some callback
  | .handler .. => none

/-- A session with callbacks named by `κ`. `m_server` and `m_socket` are never null. -/
structure Session (κ : Type) where
  actived : Bool := false
  /-- `m_server->haveNetwork()` -/
  haveNetwork : Bool := true
  /-- `m_socket->isConnected()` -/
  connected : Bool := true
  data : Bytes := []
  seq2Callback : Table UInt32 (ResponseCallback κ) := ∅
  messageHandler : Bool := true
  /-- The stable priority queue compares all elements as equal and is first in, first out. -/
  writeQueue : List Bytes := []
  writing : Bool := false
  timers : List Timer := []
  pool : List (Task κ) := []
  reading : Bool := false
  written : List Bytes := []
  /-- The arguments of all calls of `onMessage` so far. -/
  handed : List (NetworkException × P2PMessage) := []

namespace Session

variable {κ : Type}

def isActived (session : Session κ) : Bool :=
  session.actived && session.haveNetwork && session.connected

def enqueue (session : Session κ) (task : Task κ) : Session κ :=
  { session with pool := session.pool ++ [task] }

def newTimer (session : Session κ) (seq : UInt32) : Session κ :=
  { session with timers := session.timers ++ [{ seq }] }

def cancelTimer (session : Session κ) (timeoutHandler : Option Nat) : Session κ :=
  { session with
    timers := match timeoutHandler with
      | none => session.timers
      | some timer => session.timers.modify timer Timer.cancel }

def addSeqCallback (session : Session κ) (seq : UInt32) (callback : ResponseCallback κ) : Session κ :=
  { session with seq2Callback := session.seq2Callback.add seq callback }

def removeSeqCallback (session : Session κ) (seq : UInt32) : Session κ :=
  { session with seq2Callback := session.seq2Callback.erase seq }

def clearSeqCallback (session : Session κ) : Session κ :=
  { session with seq2Callback := ∅ }

def getCallbackBySeq (session : Session κ) (seq : UInt32) : Option (ResponseCallback κ) :=
  session.seq2Callback.lookup seq

def dropException (reason : DisconnectReason) : NetworkException :=
  if reason = .duplicatePeer then ⟨P2PExceptionType.duplicateSession, "DuplicateSession"⟩
  else ⟨P2PExceptionType.disconnect, "Disconnect"⟩

def dropCallback (e : NetworkException) (session : Session κ) (it : ResponseCallback κ) : Session κ :=
  (session.cancelTimer it.timeoutHandler).enqueue (.failure it.callback e)

def drop (session : Session κ) (reason : DisconnectReason) : Session κ :=
  if !session.actived then session
  else
    let e := dropException reason
    let session := { session with actived := false }
    let session := session.seq2Callback.values.foldl (dropCallback e) session
    let session := session.clearSeqCallback
    let session := if session.messageHandler then session.enqueue (.handler e none) else session
    -- `socket->close()`
    if session.connected then { session with connected := false } else session

def write (session : Session κ) : Session κ :=
  if !session.isActived then session
  else if session.writing then session
  else
    let session := { session with writing := true }
    match session.writeQueue with
    | [] => { session with writing := false }
    | buffer :: writeQueue =>
      let session := { session with writeQueue }
      if session.haveNetwork then
        if session.connected then { session with written := session.written ++ [buffer] }
        else session.drop .tcpError
      else session.drop .tcpError

def send (session : Session κ) (msg : Bytes) : Session κ :=
  if !session.isActived then session
  else if !session.connected then session
  else { session with writeQueue := session.writeQueue ++ [msg] }.write

def onWrite (session : Session κ) (ec : Bool) : Session κ :=
  if !session.isActived then session
  else if ec then session.drop .tcpError
  else
    let session := if session.writing then { session with writing := false } else session
    session.write

def register (session : Session κ) (seq : UInt32) (options : Options) (callback : κ) : Session κ :=
  if options.timeout > 0 then
    (session.newTimer seq).addSeqCallback seq
      { callback, timeoutHandler := some session.timers.length }
  else session.addSeqCallback seq { callback }

/-- The result of `encode` is not looked at. -/
def asyncSendMessage (fw : Framework) (session : Session κ) (message : P2PMessage)
    (options : Options) (callback : Option κ) : Session κ :=
  if !session.isActived then
    match callback with
    | some callback => session.enqueue (.failure callback ⟨-1, "Session inactived"⟩)
    | none => session
  else
    let session := match callback with
      | some callback => session.register message.seq options callback
      | none => session
    session.send (message.encode fw).2

def onMessage (session : Session κ) (e : NetworkException) (message : P2PMessage) : Session κ :=
  let session := { session with handed := session.handed ++ [(e, message)] }
  if session.actived && session.haveNetwork then
    match session.getCallbackBySeq message.seq, message.isRespPacket with
    | some callbackPtr, true =>
      (session.cancelTimer callbackPtr.timeoutHandler).enqueue
        (.response callbackPtr.callback e message)
    | _, _ => if session.messageHandler then session.enqueue (.handler e (some message)) else session
  else session

def onTimeout (session : Session κ) (error : Bool) (seq : UInt32) : Session κ :=
  if error then session
  else
    match session.getCallbackBySeq seq with
    | none => session
    | some callbackPtr => session.enqueue (.timeout callbackPtr.callback seq)

def onIdle (session : Session κ) (aborted : Bool) : Session κ :=
  if !session.actived then session
  else if !aborted then session.drop .idleWaitTimeout
  else session

def doRead (session : Session κ) : Session κ :=
  if session.actived && session.haveNetwork then
    if session.connected then { session with reading := true } else session.drop .tcpError
  else session

def start (session : Session κ) : Session κ :=
  if !session.actived then
    if session.haveNetwork then { session with actived := true }.doRead else session
  else session

theorem onMessage_data (session : Session κ) (e : NetworkException) (message : P2PMessage) :
    (session.onMessage e message).data = session.data := by
  unfold onMessage
  simp only
  split
  · split
    · rfl
    · split <;> rfl
  · rfl

def success : NetworkException := ⟨P2PExceptionType.success, "Success"⟩
def protocolError : NetworkException := ⟨P2PExceptionType.protocolError, "ProtocolError"⟩

/-- The loop of the read handler. Each message is decoded into a fresh one; an `erase` past the
    end of `m_data` would be undefined. -/
def readLoop (fw : Framework) (session : Session κ) : Except Fault (Session κ) :=
  match P2PMessage.decode fw {} session.data with
  | .error fault => .error fault
  | .ok (result, message) =>
    if _positive : result > 0 then
      let session' := session.onMessage success message
      if _fits : result.toNat ≤ session'.data.length then
        readLoop fw { session' with data := session'.data.drop result.toNat }
      else .error .outOfBounds
    else if result = 0 then .ok session.doRead
    else .ok (session.onMessage protocolError message)
  termination_by session.data.length
  decreasing_by
    have same := onMessage_data session success message
    rw [same] at _fits
    simp only [same, List.length_drop]
    omega

def onRead (fw : Framework) (session : Session κ) (ec : Bool) (received : Bytes) :
    Except Fault (Session κ) :=
  let session := { session with reading := false }
  if ec then .ok (session.drop .tcpError)
  else readLoop fw { session with data := session.data ++ received }

end Session

inductive SessionEvent where
  | onMessage (e : NetworkException) (message : P2PMessage)
  | onTimeout (error : Bool) (seq : UInt32)
  | onIdle (aborted : Bool)
  | onWrite (ec : Bool)
  | drop (reason : DisconnectReason)
  | haveNetwork (network : Bool)
  | connected (socket : Bool)
  deriving DecidableEq, Repr

def Session.take (session : Session Nat) : SessionEvent → Session Nat
  | .onMessage e message => session.onMessage e message
  | .onTimeout error seq => session.onTimeout error seq
  | .onIdle aborted => session.onIdle aborted
  | .onWrite ec => session.onWrite ec
  | .drop reason => session.drop reason
  | .haveNetwork network => { session with haveNetwork := network }
  | .connected socket => { session with connected := socket }

end BcosGateway

import BcosGateway.Session.Basic

/-! What each method of a session does to the callbacks it holds and to the thread pool. -/

namespace BcosGateway.Session

variable {κ : Type} (session : Session κ)

def notification (e : NetworkException) (message : Option P2PMessage) : List (Task κ) :=
  if session.messageHandler then [.handler e message] else []

theorem notification_eq {session : Session κ} {e : NetworkException} {message : Option P2PMessage}
    {task : Task κ} (member : task ∈ session.notification e message) : task = .handler e message := by
  unfold notification at member
  split at member
  · exact List.mem_singleton.mp member
  · cases member

theorem foldl_dropCallback (e : NetworkException) (callbacks : List (ResponseCallback κ)) :
    ∃ timers, callbacks.foldl (dropCallback e) session =
      { session with
        timers
        pool := session.pool ++ callbacks.map fun it => .failure it.callback e } := by
  induction callbacks generalizing session with
  | nil => exact ⟨session.timers, by simp⟩
  | cons it callbacks ih =>
    obtain ⟨timers, folded⟩ := ih (dropCallback e session it)
    refine ⟨timers, ?_⟩
    rw [List.foldl_cons, folded]
    simp only [dropCallback, enqueue, cancelTimer, List.map_cons, List.append_assoc,
      List.singleton_append]

def dropTasks (reason : DisconnectReason) : List (Task κ) :=
  session.seq2Callback.values.map (fun it => .failure it.callback (dropException reason)) ++
    session.notification (dropException reason) none

theorem drop_inactived {session : Session κ} (reason : DisconnectReason)
    (inactived : session.actived = false) : session.drop reason = session := by
  unfold drop
  rw [inactived]
  rfl

theorem drop_actived {session : Session κ} (reason : DisconnectReason)
    (actived : session.actived = true) :
    ∃ timers, session.drop reason =
      { session with
        actived := false
        connected := false
        timers
        seq2Callback := ∅
        pool := session.pool ++ session.dropTasks reason } := by
  obtain ⟨timers, folded⟩ := foldl_dropCallback { session with actived := false }
    (dropException reason) session.seq2Callback.values
  refine ⟨timers, ?_⟩
  unfold drop
  simp only [actived, Bool.not_true, Bool.false_eq_true, if_false, folded, clearSeqCallback,
    dropTasks, notification, enqueue]
  cases handler : session.messageHandler <;> cases socket : session.connected <;> simp

theorem isActived_iff :
    session.isActived ↔ session.actived ∧ session.haveNetwork ∧ session.connected := by
  simp only [isActived, Bool.and_eq_true, and_assoc]

/-- On an active session `write` only moves buffers: the checks before its `drop` cannot fail. -/
theorem write_active {session : Session κ} (active : session.isActived) :
    ∃ writeQueue writing written,
      session.write = { session with writeQueue, writing, written } := by
  obtain ⟨actived, network, socket⟩ := session.isActived_iff.mp active
  unfold write
  rw [if_neg (by simp [active])]
  split
  · exact ⟨_, _, _, rfl⟩
  · cases session.writeQueue with
    | nil => exact ⟨_, _, _, rfl⟩
    | cons buffer writeQueue =>
      simp only [network, socket, if_true]
      exact ⟨_, _, _, rfl⟩

theorem send_active {session : Session κ} (active : session.isActived) (msg : Bytes) :
    ∃ writeQueue writing written,
      session.send msg = { session with writeQueue, writing, written } := by
  obtain ⟨actived, network, socket⟩ := session.isActived_iff.mp active
  have pushed : ({ session with writeQueue := session.writeQueue ++ [msg] } : Session κ).isActived :=
    active
  unfold send
  rw [if_neg (by simp [active]), if_neg (by simp [socket])]
  exact write_active pushed

theorem register_eq (seq : UInt32) (options : Options) (callback : κ) :
    ∃ timers timeoutHandler, session.register seq options callback =
      { session with
        timers
        seq2Callback := session.seq2Callback.add seq { callback, timeoutHandler } } := by
  unfold register
  split
  · exact ⟨_, _, rfl⟩
  · exact ⟨_, _, rfl⟩

section Send

variable (fw : Framework) {session} (message : P2PMessage) (options : Options)

theorem asyncSendMessage_inactive (inactive : session.isActived = false) (callback : Option κ) :
    session.asyncSendMessage fw message options callback =
      { session with
        pool := session.pool ++
          callback.toList.map fun callback => .failure callback ⟨-1, "Session inactived"⟩ } := by
  unfold asyncSendMessage
  rw [if_pos (by simp [inactive])]
  cases callback with
  | none => simp
  | some callback => rfl

theorem asyncSendMessage_silent (active : session.isActived) :
    ∃ writeQueue writing written, session.asyncSendMessage fw message options none =
      { session with writeQueue, writing, written } := by
  unfold asyncSendMessage
  rw [if_neg (by simp [active])]
  exact send_active active _

theorem asyncSendMessage_active (active : session.isActived) (callback : κ) :
    ∃ timers timeoutHandler writeQueue writing written,
      session.asyncSendMessage fw message options (some callback) =
        { session with
          timers
          seq2Callback := session.seq2Callback.add message.seq { callback, timeoutHandler }
          writeQueue
          writing
          written } := by
  obtain ⟨timers, timeoutHandler, registered⟩ := session.register_eq message.seq options callback
  have still : (session.register message.seq options callback).isActived := by
    rw [registered]
    exact active
  obtain ⟨writeQueue, writing, written, sent⟩ := send_active still (message.encode fw).2
  refine ⟨timers, timeoutHandler, writeQueue, writing, written, ?_⟩
  unfold asyncSendMessage
  rw [if_neg (by simp [active])]
  simp only
  rw [sent, registered]

theorem asyncSendMessage_isActived (active : session.isActived) (callback : Option κ) :
    (session.asyncSendMessage fw message options callback).isActived := by
  cases callback with
  | none =>
    obtain ⟨_, _, _, sent⟩ := asyncSendMessage_silent fw message options active
    rw [sent]
    exact active
  | some callback =>
    obtain ⟨_, _, _, _, _, sent⟩ := asyncSendMessage_active fw message options active callback
    rw [sent]
    exact active

end Send

def Responds (message : P2PMessage) (callbackPtr : ResponseCallback κ) : Prop :=
  session.actived ∧ session.haveNetwork ∧ message.isRespPacket ∧
    session.seq2Callback.lookup message.seq = some callbackPtr

/-- A frame queues the callback of the request it responds to; any other frame goes to the
    message handler or nowhere. -/
theorem onMessage_cases (e : NetworkException) (message : P2PMessage) :
    (∃ timers callbackPtr, session.Responds message callbackPtr ∧
      session.onMessage e message =
        { session with
          timers
          pool := session.pool ++ [.response callbackPtr.callback e message]
          handed := session.handed ++ [(e, message)] }) ∨
    (∃ tasks, (∀ task ∈ tasks, task = .handler e (some message)) ∧
      (∀ callbackPtr, ¬ session.Responds message callbackPtr) ∧
      session.onMessage e message =
        { session with
          pool := session.pool ++ tasks
          handed := session.handed ++ [(e, message)] }) := by
  unfold onMessage getCallbackBySeq
  simp only
  by_cases live : (session.actived && session.haveNetwork) = true
  · obtain ⟨actived, network⟩ := Bool.and_eq_true _ _ ▸ live
    rw [if_pos live]
    split
    · rename_i callbackPtr found response
      exact .inl ⟨_, callbackPtr, ⟨actived, network, response, found⟩, rfl⟩
    · rename_i other
      refine .inr ⟨session.notification e (some message), fun task => notification_eq, ?_, ?_⟩
      · rintro callbackPtr ⟨_, _, response, found⟩
        exact other callbackPtr found response
      · unfold notification
        split <;> simp [enqueue]
  · rw [if_neg live]
    refine .inr ⟨[], by simp, ?_, by simp⟩
    rintro callbackPtr ⟨actived, network, _⟩
    exact live (by rw [actived, network]; rfl)

theorem onTimeout_cases (error : Bool) (seq : UInt32) :
    (∃ callbackPtr, error = false ∧ session.seq2Callback.lookup seq = some callbackPtr ∧
      session.onTimeout error seq =
        { session with pool := session.pool ++ [.timeout callbackPtr.callback seq] }) ∨
    ((error = true ∨ session.seq2Callback.lookup seq = none) ∧
      session.onTimeout error seq = session) := by
  unfold onTimeout getCallbackBySeq
  cases error with
  | true => exact .inr ⟨.inl rfl, rfl⟩
  | false =>
    cases found : session.seq2Callback.lookup seq with
    | none => exact .inr ⟨.inr rfl, rfl⟩
    | some callbackPtr => exact .inl ⟨callbackPtr, rfl, rfl, rfl⟩

end BcosGateway.Session

import BcosGateway.Session.Callbacks

/-! `asyncSendMessage` and `drop` cut where other threads may run between two of their steps. -/

namespace BcosGateway

namespace Session

variable {κ : Type} (session : Session κ)

def deactivate : Session κ := { session with actived := false }

/-- The part of `drop` under `x_seq2Callback`. -/
def sweep (e : NetworkException) : Session κ :=
  let session := session.seq2Callback.values.foldl (dropCallback e) session
  let session := session.clearSeqCallback
  if session.messageHandler then session.enqueue (.handler e none) else session

def close : Session κ := if session.connected then { session with connected := false } else session

def arm (seq : UInt32) (options : Options) : Session κ × Option Nat :=
  if options.timeout > 0 then (session.newTimer seq, some session.timers.length) else (session, none)

theorem drop_eq (reason : DisconnectReason) (actived : session.actived) :
    session.drop reason = (session.deactivate.sweep (dropException reason)).close := by
  simp only [drop, actived, Bool.not_true, Bool.false_eq_true, if_false]
  rfl

theorem register_arm (seq : UInt32) (options : Options) (callback : κ) :
    session.register seq options callback =
      (session.arm seq options).1.addSeqCallback seq
        { callback, timeoutHandler := (session.arm seq options).2 } := by
  unfold register arm
  split
  · rfl
  · rfl

theorem arm_eq (seq : UInt32) (options : Options) : ∃ timers timeoutHandler,
    session.arm seq options = ({ session with timers }, timeoutHandler) ∧
      ∀ timer ∈ timers, timer ∈ session.timers ∨ (timer.seq = seq ∧ options.timeout > 0) := by
  unfold arm
  split
  · rename_i waits
    refine ⟨_, _, rfl, ?_⟩
    intro timer member
    rcases List.mem_append.mp member with old | new
    · exact .inl old
    · rw [List.mem_singleton.mp new]
      exact .inr ⟨rfl, waits⟩
  · exact ⟨_, _, rfl, fun timer member => .inl member⟩

theorem sweep_eq (e : NetworkException) : ∃ timers, session.sweep e =
    { session with
      timers
      seq2Callback := ∅
      pool := session.pool ++ (session.seq2Callback.values.map (fun it => .failure it.callback e) ++
        session.notification e none) } := by
  obtain ⟨timers, folded⟩ := foldl_dropCallback session e session.seq2Callback.values
  refine ⟨timers, ?_⟩
  simp only [sweep, folded, clearSeqCallback, notification, enqueue]
  cases session.messageHandler <;> simp

theorem send_eq (msg : Bytes) : ∃ writeQueue writing written,
    session.send msg = { session with writeQueue, writing, written } := by
  cases active : session.isActived with
  | false => exact ⟨session.writeQueue, session.writing, session.written, by simp [send, active]⟩
  | true => exact send_active active msg

end Session

inductive Sending where
  | checked (message : P2PMessage) (options : Options) (callback : Option Nat)
  | armed (message : P2PMessage) (callback : Nat) (timeoutHandler : Option Nat)
  | registered (message : P2PMessage)

def Sending.pending : Sending → Option Nat
  | .checked _ _ callback => callback
  | .armed _ callback _ => some callback
  | .registered _ => none

def Sending.registers : Sending → Bool
  | .armed .. => true
  | .checked .. | .registered _ => false

inductive Dropping where
  | checked (reason : DisconnectReason)
  | deactivated (reason : DisconnectReason)
  | swept
  deriving DecidableEq, Repr

def Dropping.sweeps : Dropping → Bool
  | .checked _ | .deactivated _ => true
  | .swept => false

/-- A session with the calls that are in progress. A callback is named by its place among the
    requests, which are the calls that passed one. -/
structure SplitRun where
  session : Session Nat
  sending : List Sending := []
  dropping : List Dropping := []
  requests : List (UInt32 × Options) := []
  invoked : List Nat := []

namespace SplitRun

inductive Event where
  | asyncSendMessage (message : P2PMessage) (options : Options) (callback : Bool)
  | continueSend (thread : Nat)
  | drop (reason : DisconnectReason)
  | continueDrop (thread : Nat)
  | other (event : SessionRun.Event)

def request (world : SplitRun) (seq : UInt32) (options : Options) : SplitRun :=
  { world with requests := world.requests ++ [(seq, options)] }

def check (world : SplitRun) (message : P2PMessage) (options : Options) (callback : Option Nat) :
    SplitRun :=
  if !world.session.isActived then
    match callback with
    | some callback => { world with
        session := world.session.enqueue (.failure callback ⟨-1, "Session inactived"⟩) }
    | none => world
  else { world with sending := world.sending ++ [.checked message options callback] }

def continueSend (fw : Framework) (world : SplitRun) (thread : Nat) : Sending → SplitRun
  | .checked message _ none =>
    { world with sending := world.sending.set thread (.registered message) }
  | .checked message options (some callback) =>
    let (session, timeoutHandler) := world.session.arm message.seq options
    { world with session, sending := world.sending.set thread (.armed message callback timeoutHandler) }
  | .armed message callback timeoutHandler =>
    { world with
      session := world.session.addSeqCallback message.seq { callback, timeoutHandler }
      sending := world.sending.set thread (.registered message) }
  | .registered message =>
    { world with
      session := world.session.send (message.encode fw).2
      sending := world.sending.eraseIdx thread }

def continueDrop (world : SplitRun) (thread : Nat) : Dropping → SplitRun
  | .checked reason =>
    { world with
      session := world.session.deactivate
      dropping := world.dropping.set thread (.deactivated reason) }
  | .deactivated reason =>
    { world with
      session := world.session.sweep (Session.dropException reason)
      dropping := world.dropping.set thread .swept }
  | .swept =>
    { world with session := world.session.close, dropping := world.dropping.eraseIdx thread }

/-- Message arrival, timers and the pool take the steps that they take in a run of whole calls. -/
def other (fw : Framework) (world : SplitRun) (event : SessionRun.Event) : Option SplitRun :=
  match SessionRun.step fw { session := world.session, invoked := world.invoked } event with
  | none => none
  | some run => some { world with session := run.session, invoked := run.invoked }

def step (fw : Framework) (world : SplitRun) : Event → Option SplitRun
  | .asyncSendMessage message options false => some (world.check message options none)
  | .asyncSendMessage message options true =>
    some ((world.request message.seq options).check message options (some world.requests.length))
  | .continueSend thread =>
    match world.sending[thread]? with
    | none => none
    | some sending => some (world.continueSend fw thread sending)
  | .drop reason =>
    if world.session.actived then
      some { world with dropping := world.dropping ++ [.checked reason] }
    else some world
  | .continueDrop thread =>
    match world.dropping[thread]? with
    | none => none
    | some dropping => some (world.continueDrop thread dropping)
  | .other (.asyncSendMessage ..) | .other (.drop _) => none
  | .other event => world.other fw event

/-- With nothing in between, the steps of a call are the whole call. -/
theorem asyncSendMessage_alone (fw : Framework) (world : SplitRun) (alone : world.sending = [])
    (active : world.session.isActived) (message : P2PMessage) (options : Options) :
    Transition.run (step fw) world [.asyncSendMessage message options true, .continueSend 0,
        .continueSend 0, .continueSend 0] =
      some { world.request message.seq options with
        session := world.session.asyncSendMessage fw message options
          (some world.requests.length) } := by
  have checked : (world.request message.seq options).check message options
      (some world.requests.length) = { world.request message.seq options with
        sending := [.checked message options (some world.requests.length)] } := by
    unfold check
    rw [if_neg (by simpa [request] using active)]
    simp [request, alone]
  simp only [Transition.run, step, checked, Option.bind_some, List.getElem?_cons_zero, continueSend,
    List.set_cons_zero, List.eraseIdx_cons_zero, Session.asyncSendMessage]
  rw [if_neg (by simp [active]), Session.register_arm, ← alone]
  rfl

theorem drop_alone (fw : Framework) (world : SplitRun) (alone : world.dropping = [])
    (actived : world.session.actived) (reason : DisconnectReason) :
    Transition.run (step fw) world
        [.drop reason, .continueDrop 0, .continueDrop 0, .continueDrop 0] =
      some { world with session := world.session.drop reason } := by
  simp only [Transition.run, step, actived, if_true, alone, List.nil_append, Option.bind_some,
    List.getElem?_cons_zero, continueDrop, List.set_cons_zero, List.eraseIdx_cons_zero,
    Session.drop_eq _ reason actived]

def Idle (world : SplitRun) : Prop := world.sending = [] ∧ world.dropping = []

instance (world : SplitRun) : Decidable world.Idle := inferInstanceAs (Decidable (_ ∧ _))

def Guarded (world : SplitRun) : Prop :=
  world.session.actived ∨ ∃ dropping ∈ world.dropping, dropping.sweeps

instance (world : SplitRun) : Decidable world.Guarded := inferInstanceAs (Decidable (_ ∨ _))

def RegistersGuarded (world : SplitRun) : Event → Prop
  | .continueSend thread =>
    ∀ sending ∈ world.sending[thread]?, sending.registers → world.Guarded
  | _ => True

instance (world : SplitRun) : ∀ event, Decidable (world.RegistersGuarded event)
  | .continueSend _ => inferInstanceAs (Decidable (∀ _ ∈ _, _))
  | .asyncSendMessage .. | .drop _ | .continueDrop _ | .other _ => inferInstanceAs (Decidable True)

section Effects

variable {κ : Type} (session : Session κ)

def seqs (session : Session κ) : List UInt32 := session.timers.map (·.seq)

theorem set_seqs {timers : List Timer} {timer : Nat} {seq : UInt32} {before : TimerState}
    (after : TimerState) (found : timers[timer]? = some ⟨seq, before⟩) :
    (timers.set timer ⟨seq, after⟩).map (·.seq) = timers.map (·.seq) := by
  obtain ⟨inside, value⟩ := List.getElem?_eq_some_iff.mp found
  rw [List.map_set]
  have kept := @List.set_getElem_self _ (timers.map (·.seq)) timer (by simpa using inside)
  rw [List.getElem_map, value] at kept
  exact kept

theorem cancelTimer_seqs (timeoutHandler : Option Nat) :
    seqs (session.cancelTimer timeoutHandler) = seqs session := by
  unfold seqs Session.cancelTimer
  cases timeoutHandler with
  | none => rfl
  | some timer =>
    apply List.ext_getElem?
    intro i
    rw [List.getElem?_map, List.getElem?_map, List.getElem?_modify]
    cases session.timers[i]? with
    | none => rfl
    | some other =>
      by_cases this : timer = i
      · by_cases armed : other.state = .armed
        · simp [this, Timer.cancel, armed]
        · simp [this, Timer.cancel, armed]
      · simp [this]

theorem sweep_seqs (e : NetworkException) : seqs (session.sweep e) = seqs session := by
  have folded (callbacks : List (ResponseCallback κ)) :
      seqs (callbacks.foldl (Session.dropCallback e) session) = seqs session := by
    induction callbacks generalizing session with
    | nil => rfl
    | cons it callbacks ih => exact (ih _).trans (cancelTimer_seqs session it.timeoutHandler)
  rw [← folded session.seq2Callback.values]
  unfold Session.sweep
  simp only
  split
  · rfl
  · rfl

theorem onMessage_seqs (e : NetworkException) (message : P2PMessage) :
    seqs (session.onMessage e message) = seqs session := by
  unfold Session.onMessage
  simp only
  split
  · split
    · exact cancelTimer_seqs _ _
    · split
      · rfl
      · rfl
  · rfl

end Effects

def Answers (world : SplitRun) : Task Nat → Prop
  | .response callback _ message =>
    ∃ callbackPtr, world.session.seq2Callback.lookup message.seq = some callbackPtr ∧
      callbackPtr.callback = callback
  | .timeout callback seq =>
    seq ∈ seqs world.session ∧
      ∃ callbackPtr, world.session.seq2Callback.lookup seq = some callbackPtr ∧
        callbackPtr.callback = callback
  | .handler .. => True
  | .failure .. | .finish .. => False

structure Beside (world next : SplitRun) : Prop where
  sending : next.sending = world.sending
  dropping : next.dropping = world.dropping
  requests : next.requests = world.requests
  actived : next.session.actived = world.session.actived
  seqs : seqs next.session = seqs world.session

def Adds (world next : SplitRun) : Prop :=
  ∃ tasks, (∀ task ∈ tasks, world.Answers task) ∧
    next.session.seq2Callback = world.session.seq2Callback ∧
    next.session.pool = world.session.pool ++ tasks ∧ next.invoked = world.invoked

def taskErases (callbacks : Table UInt32 (ResponseCallback Nat)) :
    Task Nat → Table UInt32 (ResponseCallback Nat)
  | .finish _ seq => callbacks.erase seq
  | _ => callbacks

def taskFinishes : Task Nat → List (Task Nat)
  | .response callback _ message => [.finish callback message.seq]
  | .timeout callback seq => [.finish callback seq]
  | _ => []

def Executes (world next : SplitRun) : Prop :=
  ∃ i started, world.session.pool[i]? = some started ∧
    next.session.seq2Callback = taskErases world.session.seq2Callback started ∧
    next.session.pool = world.session.pool.eraseIdx i ++ taskFinishes started ∧
    next.invoked = world.invoked ++ started.invokes.toList

theorem lookup_taskErases {callbacks : Table UInt32 (ResponseCallback Nat)} {started : Task Nat}
    {seq : UInt32} {callbackPtr : ResponseCallback Nat}
    (held : (taskErases callbacks started).lookup seq = some callbackPtr) :
    callbacks.lookup seq = some callbackPtr := by
  cases started with
  | finish callback erased =>
    simp only [taskErases] at held
    rw [Table.lookup_erase_if] at held
    split at held
    · cases held
    · exact held
  | failure => exact held
  | response => exact held
  | timeout => exact held
  | handler => exact held

theorem lookup_taskErases_or {callbacks : Table UInt32 (ResponseCallback Nat)} {seq : UInt32}
    {callbackPtr : ResponseCallback Nat} (held : callbacks.lookup seq = some callbackPtr)
    (started : Task Nat) :
    (taskErases callbacks started).lookup seq = some callbackPtr ∨
      ∃ callback, started = .finish callback seq := by
  cases started with
  | finish callback erased =>
    simp only [taskErases]
    rw [Table.lookup_erase_if]
    split
    · rename_i same
      exact .inr ⟨callback, same ▸ rfl⟩
    · exact .inl held
  | failure => exact .inl held
  | response => exact .inl held
  | timeout => exact .inl held
  | handler => exact .inl held

theorem mem_taskFinishes {started task : Task Nat} (member : task ∈ taskFinishes started) :
    (∃ callback e message, started = .response callback e message ∧
        task = .finish callback message.seq) ∨
      ∃ callback seq, started = .timeout callback seq ∧ task = .finish callback seq := by
  cases started with
  | response callback e message =>
    exact .inl ⟨callback, e, message, rfl, List.mem_singleton.mp member⟩
  | timeout callback seq => exact .inr ⟨callback, seq, rfl, List.mem_singleton.mp member⟩
  | failure => cases member
  | finish => cases member
  | handler => cases member

theorem adds_none (world : SplitRun) {session : Session Nat}
    (callbacks : session.seq2Callback = world.session.seq2Callback)
    (pool : session.pool = world.session.pool) : world.Adds { world with session } :=
  ⟨[], by simp, callbacks, by simp [pool], rfl⟩

section Other

variable {fw : Framework} {world next : SplitRun}

theorem onMessage_cases {e : NetworkException} {message : P2PMessage}
    (taken : step fw world (.other (.onMessage e message)) = some next) :
    world.Beside next ∧ world.Adds next := by
  cases taken
  have same := onMessage_seqs world.session e message
  rcases world.session.onMessage_cases e message with
    ⟨timers, callbackPtr, ⟨_, _, _, held⟩, handed⟩ | ⟨tasks, handlers, _, handed⟩
  · rw [handed] at same ⊢
    refine ⟨⟨rfl, rfl, rfl, rfl, same⟩, _, ?_, rfl, rfl, rfl⟩
    intro task member
    rw [List.mem_singleton.mp member]
    exact ⟨callbackPtr, held, rfl⟩
  · rw [handed]
    refine ⟨⟨rfl, rfl, rfl, rfl, rfl⟩, tasks, ?_, rfl, rfl, rfl⟩
    intro task member
    rw [handlers task member]
    trivial

theorem expire_cases {timer : Nat}
    (taken : step fw world (.other (.expire timer)) = some next) :
    world.Beside next ∧ world.Adds next := by
  simp only [step, other, SessionRun.step] at taken
  split at taken
  · cases taken
  · rename_i run stepped
    cases taken
    split at stepped
    · rename_i seq found
      cases stepped
      exact ⟨⟨rfl, rfl, rfl, rfl, set_seqs _ found⟩, adds_none world rfl rfl⟩
    · cases stepped

theorem onTimeout_cases {timer : Nat}
    (taken : step fw world (.other (.onTimeout timer)) = some next) :
    world.Beside next ∧ world.Adds next := by
  simp only [step, other, SessionRun.step] at taken
  split at taken
  · cases taken
  · rename_i run stepped
    cases taken
    split at stepped
    · rename_i seq found
      simp only [SessionRun.setTimer] at stepped
      cases stepped
      have listed : seq ∈ seqs world.session :=
        List.mem_map_of_mem (List.mem_of_getElem? found)
      have handled := set_seqs .handled found
      rcases Session.onTimeout_cases { world.session with
          timers := world.session.timers.set timer ⟨seq, .handled⟩ } false seq with
        ⟨callbackPtr, _, held, fired⟩ | ⟨_, fired⟩
      · rw [fired]
        refine ⟨⟨rfl, rfl, rfl, rfl, handled⟩, _, ?_, rfl, rfl, rfl⟩
        intro task member
        rw [List.mem_singleton.mp member]
        exact ⟨listed, callbackPtr, held, rfl⟩
      · rw [fired]
        exact ⟨⟨rfl, rfl, rfl, rfl, handled⟩, adds_none world rfl rfl⟩
    · rename_i seq found
      cases stepped
      exact ⟨⟨rfl, rfl, rfl, rfl, set_seqs _ found⟩, adds_none world rfl rfl⟩
    · cases stepped

theorem execute_cases {task : Nat}
    (taken : step fw world (.other (.execute task)) = some next) :
    world.Beside next ∧ world.Executes next := by
  simp only [step, other, SessionRun.step] at taken
  split at taken
  · cases taken
  · rename_i run stepped
    cases taken
    split at stepped
    · cases stepped
    · rename_i started present
      cases stepped
      refine ⟨?_, task, started, present, ?_⟩
      · cases started with
        | failure => exact ⟨rfl, rfl, rfl, rfl, rfl⟩
        | response => exact ⟨rfl, rfl, rfl, rfl, rfl⟩
        | timeout => exact ⟨rfl, rfl, rfl, rfl, rfl⟩
        | finish => exact ⟨rfl, rfl, rfl, rfl, rfl⟩
        | handler => exact ⟨rfl, rfl, rfl, rfl, rfl⟩
      · cases started with
        | failure => exact ⟨rfl, (List.append_nil _).symm, rfl⟩
        | response => exact ⟨rfl, rfl, rfl⟩
        | timeout => exact ⟨rfl, rfl, rfl⟩
        | finish => exact ⟨rfl, (List.append_nil _).symm, (List.append_nil _).symm⟩
        | handler => exact ⟨rfl, (List.append_nil _).symm, (List.append_nil _).symm⟩

theorem other_cases {event : SessionRun.Event}
    (taken : step fw world (.other event) = some next) :
    world.Beside next ∧ (world.Adds next ∨ world.Executes next) := by
  cases event with
  | asyncSendMessage message options callback => cases taken
  | drop reason => cases taken
  | onMessage e message => exact (onMessage_cases taken).imp_right .inl
  | expire timer => exact (expire_cases taken).imp_right .inl
  | onTimeout timer => exact (onTimeout_cases taken).imp_right .inl
  | execute task => exact (execute_cases taken).imp_right .inr
  | haveNetwork network =>
    cases taken
    exact ⟨⟨rfl, rfl, rfl, rfl, rfl⟩, .inl (adds_none world rfl rfl)⟩
  | connected socket =>
    cases taken
    exact ⟨⟨rfl, rfl, rfl, rfl, rfl⟩, .inl (adds_none world rfl rfl)⟩

end Other

theorem other_empty {fw : Framework} {world next : SplitRun} {event : SessionRun.Event}
    (taken : step fw world (.other event) = some next)
    (empty : world.session.seq2Callback = ∅) : next.session.seq2Callback = ∅ := by
  obtain ⟨_, ⟨_, _, same, _⟩ | ⟨_, started, _, left, _⟩⟩ := other_cases taken
  · rw [same, empty]
  · rw [left, empty]
    cases started with
    | finish callback seq => rfl
    | failure => rfl
    | response => rfl
    | timeout => rfl
    | handler => rfl

end SplitRun

end BcosGateway

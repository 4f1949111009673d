import BcosGateway.Session.SplitCalls
import BcosGateway.Lib.Places

/-! When a session that was dropped still holds callbacks. -/

namespace BcosGateway.SplitRun

def Swept (world : SplitRun) : Prop := world.Guarded ∨ world.session.seq2Callback = ∅

section Swept

variable {fw : Framework} {world next : SplitRun}

theorem check_swept {message : P2PMessage} {options : Options} {callback : Option Nat}
    (swept : world.Swept) : (world.check message options callback).Swept := by
  unfold check
  split
  · cases callback with
    | none => exact swept
    | some callback => exact swept
  · exact swept

theorem continueSend_swept {thread : Nat} {sending : Sending} (swept : world.Swept)
    (guarded : sending.registers → world.Guarded) :
    (world.continueSend fw thread sending).Swept := by
  cases sending with
  | checked message options callback =>
    cases callback with
    | none => exact swept
    | some callback =>
      obtain ⟨_, _, armed, _⟩ := world.session.arm_eq message.seq options
      simp only [continueSend, armed]
      exact swept
  | armed message callback timeoutHandler => exact .inl (guarded rfl)
  | registered message =>
    obtain ⟨_, _, _, sent⟩ := world.session.send_eq (message.encode fw).2
    simp only [continueSend, sent]
    exact swept

theorem continueDrop_swept {thread : Nat} {dropping : Dropping}
    (found : world.dropping[thread]? = some dropping) (swept : world.Swept) :
    (world.continueDrop thread dropping).Swept := by
  obtain ⟨inside, here⟩ := List.getElem?_eq_some_iff.mp found
  cases dropping with
  | checked reason =>
    exact .inl (.inr ⟨.deactivated reason, List.mem_set inside _, rfl⟩)
  | deactivated reason =>
    obtain ⟨_, swept⟩ := world.session.sweep_eq (Session.dropException reason)
    simp only [continueDrop, swept]
    exact .inr rfl
  | swept =>
    simp only [continueDrop, Session.close]
    rcases swept with (actived | ⟨dropping, member, sweeps⟩) | empty
    · split
      · exact .inl (.inl actived)
      · exact .inl (.inl actived)
    · refine .inl (.inr ⟨dropping, ?_, sweeps⟩)
      obtain ⟨i, bound, rfl⟩ := List.mem_iff_getElem.mp member
      -- the call that ends is not the one that is still to sweep
      have apart : i ≠ thread := by
        rintro rfl
        rw [here] at sweeps
        cases sweeps
      exact List.mem_eraseIdx_iff_getElem.mpr ⟨i, bound, apart, rfl⟩
    · split
      · exact .inr empty
      · exact .inr empty

theorem step_swept {event : Event} (swept : world.Swept) (registers : world.RegistersGuarded event)
    (taken : step fw world event = some next) : next.Swept := by
  cases event with
  | asyncSendMessage message options callback =>
    cases callback with
    | false =>
      cases taken
      exact check_swept swept
    | true =>
      cases taken
      have requesting : (world.request message.seq options).Swept := swept
      exact check_swept requesting
  | continueSend thread =>
    simp only [step] at taken
    split at taken
    · cases taken
    · rename_i sending found
      cases taken
      exact continueSend_swept swept (registers sending found)
  | drop reason =>
    simp only [step] at taken
    split at taken
    · rename_i actived
      cases taken
      exact .inl (.inl actived)
    · cases taken
      exact swept
  | continueDrop thread =>
    simp only [step] at taken
    split at taken
    · cases taken
    · rename_i dropping found
      cases taken
      exact continueDrop_swept found swept
  | other event =>
    have beside := (other_cases taken).1
    rcases swept with guarded | empty
    · unfold Guarded at guarded
      rw [← beside.actived, ← beside.dropping] at guarded
      exact .inl guarded
    · exact .inr (other_empty taken empty)

end Swept

def requested (world : SplitRun) (callback : Nat) (seq : UInt32) : Prop :=
  ∃ options, world.requests[callback]? = some (seq, options)

def SendingFrom (world : SplitRun) : Sending → Prop
  | .checked message options (some callback) =>
    world.requests[callback]? = some (message.seq, options)
  | .armed message callback _ => world.requested callback message.seq
  | .checked _ _ none | .registered _ => True

def TaskFrom (world : SplitRun) : Task Nat → Prop
  | .response callback _ message => world.requested callback message.seq
  | .timeout callback seq =>
    ∃ options : Options, world.requests[callback]? = some (seq, options) ∧ 0 < options.timeout
  | .finish callback seq => world.requested callback seq ∧ callback ∈ world.invoked
  | .failure .. | .handler .. => True

def Placed (world : SplitRun) (callback : Nat) : Prop :=
  (∃ sending ∈ world.sending, sending.pending = some callback) ∨
    (∃ seq callbackPtr, world.session.seq2Callback.lookup seq = some callbackPtr ∧
      callbackPtr.callback = callback) ∨
    callback ∈ world.invoked ++ SessionRun.queued world.session.pool

structure Accounted (world : SplitRun) : Prop where
  mapped : ∀ seq callbackPtr, world.session.seq2Callback.lookup seq = some callbackPtr →
    world.requested callbackPtr.callback seq
  sending : ∀ sending ∈ world.sending, world.SendingFrom sending
  timers : ∀ seq ∈ seqs world.session, ∃ (callback : Nat) (options : Options),
    world.requests[callback]? = some (seq, options) ∧ 0 < options.timeout
  pool : ∀ task ∈ world.session.pool, world.TaskFrom task
  placed : ∀ callback < world.requests.length, world.Placed callback

section Accounted

variable {fw : Framework} {world next : SplitRun}

theorem requested_request {callback : Nat} {found : UInt32 × Options} (seq : UInt32)
    (options : Options) (at_ : world.requests[callback]? = some found) :
    (world.request seq options).requests[callback]? = some found :=
  (List.getElem?_append_left (List.getElem?_eq_some_iff.mp at_).1).trans at_

theorem SendingFrom.request {sending : Sending} (seq : UInt32) (options : Options)
    (source : world.SendingFrom sending) : (world.request seq options).SendingFrom sending := by
  cases sending with
  | checked message _ callback =>
    cases callback with
    | none => trivial
    | some callback => exact requested_request seq options source
  | armed =>
    obtain ⟨own, found⟩ := source
    exact ⟨own, requested_request seq options found⟩
  | registered => trivial

theorem TaskFrom.request {task : Task Nat} (seq : UInt32) (options : Options)
    (source : world.TaskFrom task) : (world.request seq options).TaskFrom task := by
  cases task with
  | failure => trivial
  | response =>
    obtain ⟨own, found⟩ := source
    exact ⟨own, requested_request seq options found⟩
  | timeout =>
    obtain ⟨own, found, waits⟩ := source
    exact ⟨own, requested_request seq options found, waits⟩
  | finish =>
    obtain ⟨⟨own, found⟩, invoked⟩ := source
    exact ⟨⟨own, requested_request seq options found⟩, invoked⟩
  | handler => trivial

theorem Placed.mono {callback : Nat}
    (sending : ∀ sending ∈ world.sending, sending.pending = some callback →
      next.Placed callback)
    (mapped : ∀ seq callbackPtr, world.session.seq2Callback.lookup seq = some callbackPtr →
      callbackPtr.callback = callback → next.Placed callback)
    (answered : ∀ answer ∈ world.invoked ++ SessionRun.queued world.session.pool,
      answer ∈ next.invoked ++ SessionRun.queued next.session.pool)
    (placed : world.Placed callback) : next.Placed callback := by
  rcases placed with ⟨thread, member, pending⟩ | ⟨seq, callbackPtr, held, same⟩ | done
  · exact sending thread member pending
  · exact mapped seq callbackPtr held same
  · exact .inr (.inr (answered callback done))

theorem answered_append {tasks : List (Task Nat)} {answer : Nat} {pool : List (Task Nat)}
    {invoked : List Nat} (member : answer ∈ invoked ++ SessionRun.queued pool) :
    answer ∈ invoked ++ SessionRun.queued (pool ++ tasks) := by
  rw [SessionRun.queued_append, ← List.append_assoc]
  exact List.mem_append_left _ member

theorem requested_unique (unique : (world.requests.map Prod.fst).Nodup) {left right : Nat}
    {seq : UInt32} (first : world.requested left seq) (second : world.requested right seq) :
    left = right := by
  obtain ⟨_, first⟩ := first
  obtain ⟨_, second⟩ := second
  obtain ⟨inside, _⟩ := List.getElem?_eq_some_iff.mp first
  apply (List.getElem?_inj (by simpa using inside) unique).mp
  rw [List.getElem?_map, List.getElem?_map, first, second]
  rfl

theorem Accounted.check_none (accounted : world.Accounted) (message : P2PMessage)
    (options : Options) : (world.check message options none).Accounted := by
  unfold check
  split
  · exact accounted
  · refine ⟨accounted.mapped, ?_, accounted.timers, accounted.pool, ?_⟩
    · intro sending member
      rcases List.mem_append.mp member with old | new
      · exact accounted.sending sending old
      · rw [List.mem_singleton.mp new]
        trivial
    · intro callback called
      apply (accounted.placed callback called).mono
      · intro sending member pending
        exact .inl ⟨sending, List.mem_append_left _ member, pending⟩
      · intro seq callbackPtr held same
        exact .inr (.inl ⟨seq, callbackPtr, held, same⟩)
      · exact fun _ => id

theorem Accounted.mapped_request (accounted : world.Accounted) (seq : UInt32) (options : Options) :
    ∀ other callbackPtr, world.session.seq2Callback.lookup other = some callbackPtr →
      (world.request seq options).requested callbackPtr.callback other := by
  intro other callbackPtr held
  obtain ⟨waits, found⟩ := accounted.mapped other callbackPtr held
  exact ⟨waits, requested_request seq options found⟩

theorem Accounted.timers_request (accounted : world.Accounted) (seq : UInt32) (options : Options) :
    ∀ other ∈ seqs world.session, ∃ (callback : Nat) (waits : Options),
      (world.request seq options).requests[callback]? = some (other, waits) ∧
        0 < waits.timeout := by
  intro other listed
  obtain ⟨callback, waits, found, positive⟩ := accounted.timers other listed
  exact ⟨callback, waits, requested_request seq options found, positive⟩

theorem Accounted.check_request (accounted : world.Accounted) (message : P2PMessage)
    (options : Options) :
    ((world.request message.seq options).check message options
      (some world.requests.length)).Accounted := by
  have own : (world.request message.seq options).requests[world.requests.length]? =
      some (message.seq, options) := List.getElem?_concat_length
  have mapped := accounted.mapped_request message.seq options
  have timers := accounted.timers_request message.seq options
  have older : ∀ callback < (world.request message.seq options).requests.length,
      callback = world.requests.length ∨ callback < world.requests.length := by
    intro callback called
    have bound : callback < world.requests.length + 1 := by
      simpa only [request, List.length_append, List.length_singleton] using called
    omega
  unfold check
  split
  · refine ⟨mapped, fun sending member => (accounted.sending sending member).request _ _, timers,
      ?_, ?_⟩
    · intro task member
      rcases List.mem_append.mp member with old | new
      · exact (accounted.pool task old).request _ _
      · rw [List.mem_singleton.mp new]
        trivial
    · intro callback called
      rcases older callback called with rfl | before
      · refine .inr (.inr (List.mem_append_right _ ?_))
        exact List.mem_filterMap.mpr ⟨_, List.mem_append_right _ (List.mem_singleton_self _), rfl⟩
      · apply (accounted.placed callback before).mono
        · exact fun sending member pending => .inl ⟨sending, member, pending⟩
        · exact fun seq callbackPtr held same => .inr (.inl ⟨seq, callbackPtr, held, same⟩)
        · exact fun _ => answered_append
  · refine ⟨mapped, ?_, timers, fun task member => (accounted.pool task member).request _ _, ?_⟩
    · intro sending member
      rcases List.mem_append.mp member with old | new
      · exact (accounted.sending sending old).request _ _
      · rw [List.mem_singleton.mp new]
        exact own
    · intro callback called
      rcases older callback called with rfl | before
      · exact .inl ⟨_, List.mem_append_right _ (List.mem_singleton_self _), rfl⟩
      · apply (accounted.placed callback before).mono
        · exact fun sending member pending =>
            .inl ⟨sending, List.mem_append_left _ member, pending⟩
        · exact fun seq callbackPtr held same => .inr (.inl ⟨seq, callbackPtr, held, same⟩)
        · exact fun _ => id

/-- A call goes on without touching what is registered or queued. -/
theorem Accounted.continue_silent (accounted : world.Accounted) {thread : Nat} {before : Sending}
    (found : world.sending[thread]? = some before) {threads : List Sending}
    {session : Session Nat} (mapped : session.seq2Callback = world.session.seq2Callback)
    (pool : session.pool = world.session.pool)
    (source : ∀ sending ∈ threads, sending ∈ world.sending ∨ world.SendingFrom sending)
    (kept : ∀ sending ∈ world.sending, sending = before ∨ sending ∈ threads)
    (moved : ∀ callback, before.pending = some callback →
      ∃ sending ∈ threads, sending.pending = some callback)
    (timers : ∀ seq ∈ seqs session, seq ∈ seqs world.session ∨
      ∃ (callback : Nat) (options : Options), world.requests[callback]? = some (seq, options) ∧
        0 < options.timeout) :
    Accounted { world with session, sending := threads } := by
  refine ⟨?_, ?_, ?_, ?_, ?_⟩
  · simp only [mapped]
    exact accounted.mapped
  · intro sending member
    rcases source sending member with old | new
    · exact accounted.sending sending old
    · exact new
  · intro seq listed
    rcases timers seq listed with old | new
    · exact accounted.timers seq old
    · exact new
  · simp only [pool]
    exact accounted.pool
  · intro callback called
    apply (accounted.placed callback called).mono
    · intro sending member pending
      rcases kept sending member with rfl | still
      · exact .inl (moved callback pending)
      · exact .inl ⟨sending, still, pending⟩
    · intro seq callbackPtr held same
      refine .inr (.inl ⟨seq, callbackPtr, ?_, same⟩)
      simp only [mapped]
      exact held
    · intro answer member
      simp only [pool]
      exact member

theorem lookup_kept {seq other : UInt32} {callbackPtr added : ResponseCallback Nat}
    (held : world.session.seq2Callback.lookup other = some callbackPtr) :
    (world.session.seq2Callback.add seq added).lookup other = some callbackPtr := by
  rw [Table.lookup_add]
  by_cases same : other = seq
  · subst same
    rw [if_pos rfl, held, Option.getD_some]
  · rw [if_neg same, held]

theorem Accounted.register (accounted : world.Accounted)
    (unique : (world.requests.map Prod.fst).Nodup) {thread : Nat} {message : P2PMessage}
    {callback : Nat} {timeoutHandler : Option Nat}
    (found : world.sending[thread]? = some (.armed message callback timeoutHandler)) :
    (world.continueSend fw thread (.armed message callback timeoutHandler)).Accounted := by
  have own : world.requested callback message.seq :=
    accounted.sending _ (List.mem_of_getElem? found)
  refine ⟨?_, ?_, accounted.timers, accounted.pool, ?_⟩
  · intro seq callbackPtr held
    simp only [continueSend, Session.addSeqCallback] at held
    rw [Table.lookup_add] at held
    by_cases same : seq = message.seq
    · subst same
      rw [if_pos rfl] at held
      cases present : world.session.seq2Callback.lookup message.seq with
      | none =>
        rw [present, Option.getD_none] at held
        cases held
        exact own
      | some earlier =>
        rw [present, Option.getD_some] at held
        cases held
        exact accounted.mapped _ _ present
    · rw [if_neg same] at held
      exact accounted.mapped _ _ held
  · intro sending member
    rcases List.mem_or_eq_of_mem_set member with old | rfl
    · exact accounted.sending sending old
    · trivial
  · intro other called
    apply (accounted.placed other called).mono
    · intro sending member pending
      rcases Places.mem_set_or found (.registered message) member with rfl | still
      · cases pending
        -- an entry that is already there is of this very request
        cases present : world.session.seq2Callback.lookup message.seq with
        | none =>
          refine .inr (.inl ⟨message.seq, { callback, timeoutHandler }, ?_, rfl⟩)
          simp only [continueSend, Session.addSeqCallback]
          rw [Table.lookup_add, if_pos rfl, present, Option.getD_none]
        | some earlier =>
          refine .inr (.inl ⟨message.seq, earlier, lookup_kept present, ?_⟩)
          exact requested_unique unique (accounted.mapped _ _ present) own
      · exact .inl ⟨sending, still, pending⟩
    · intro seq callbackPtr held same
      exact .inr (.inl ⟨seq, callbackPtr, lookup_kept held, same⟩)
    · exact fun _ => id

theorem Accounted.continueSend (accounted : world.Accounted)
    (unique : (world.requests.map Prod.fst).Nodup) {thread : Nat} {sending : Sending}
    (found : world.sending[thread]? = some sending) :
    (world.continueSend fw thread sending).Accounted := by
  have source := accounted.sending sending (List.mem_of_getElem? found)
  cases sending with
  | checked message options callback =>
    cases callback with
    | none =>
      apply accounted.continue_silent found rfl rfl
      · intro other member
        rcases List.mem_or_eq_of_mem_set member with old | rfl
        · exact .inl old
        · exact .inr trivial
      · exact fun other member => Places.mem_set_or found _ member
      · intro callback pending
        cases pending
      · exact fun seq listed => .inl listed
    | some callback =>
      obtain ⟨timers, timeoutHandler, armed, listed⟩ := world.session.arm_eq message.seq options
      simp only [SplitRun.continueSend, armed]
      obtain ⟨inside, _⟩ := List.getElem?_eq_some_iff.mp found
      refine accounted.continue_silent found ?_ ?_ ?_ ?_ ?_ ?_
      · rfl
      · rfl
      · intro other member
        rcases List.mem_or_eq_of_mem_set member with old | rfl
        · exact .inl old
        · exact .inr ⟨options, source⟩
      · exact fun other member => Places.mem_set_or found _ member
      · intro other pending
        exact ⟨_, List.mem_set inside _, pending⟩
      · intro seq member
        obtain ⟨timer, here, rfl⟩ := List.mem_map.mp member
        rcases listed timer here with old | ⟨same, waits⟩
        · exact .inl (List.mem_map_of_mem old)
        · rw [same]
          exact .inr ⟨callback, options, source, waits⟩
  | armed message callback timeoutHandler => exact accounted.register unique found
  | registered message =>
    obtain ⟨_, _, _, sent⟩ := world.session.send_eq (message.encode fw).2
    simp only [SplitRun.continueSend, sent]
    refine accounted.continue_silent found ?_ ?_ ?_ ?_ ?_ ?_
    · rfl
    · rfl
    · exact fun other member => .inl (List.mem_of_mem_eraseIdx member)
    · exact fun other member => Places.mem_eraseIdx_or found member
    · intro callback pending
      cases pending
    · exact fun seq listed => .inl listed

theorem Accounted.continueDrop (accounted : world.Accounted) (thread : Nat) (dropping : Dropping) :
    (world.continueDrop thread dropping).Accounted := by
  cases dropping with
  | checked reason =>
    exact ⟨accounted.mapped, accounted.sending, accounted.timers, accounted.pool, accounted.placed⟩
  | deactivated reason =>
    have same := sweep_seqs world.session (Session.dropException reason)
    obtain ⟨timers, swept⟩ := world.session.sweep_eq (Session.dropException reason)
    rw [swept] at same
    simp only [SplitRun.continueDrop, swept]
    refine ⟨fun seq callbackPtr held => (by cases held), accounted.sending, ?_, ?_, ?_⟩
    · rw [same]
      exact accounted.timers
    · intro task member
      rcases List.mem_append.mp member with old | new
      · exact accounted.pool task old
      · rcases List.mem_append.mp new with failed | notified
        · obtain ⟨it, _, rfl⟩ := List.mem_map.mp failed
          trivial
        · rw [Session.notification_eq notified]
          trivial
    · intro callback called
      apply (accounted.placed callback called).mono
      · exact fun sending member pending => .inl ⟨sending, member, pending⟩
      · intro seq callbackPtr held same
        refine .inr (.inr (List.mem_append_right _ (List.mem_filterMap.mpr ?_)))
        refine ⟨.failure callback (Session.dropException reason), ?_, rfl⟩
        apply List.mem_append_right _ (List.mem_append_left _ (List.mem_map.mpr ?_))
        exact ⟨callbackPtr, Table.mem_values.mpr ⟨seq, held⟩, by rw [same]⟩
      · exact fun _ => answered_append
  | swept =>
    simp only [SplitRun.continueDrop, Session.close]
    split
    · exact ⟨accounted.mapped, accounted.sending, accounted.timers, accounted.pool, accounted.placed⟩
    · exact ⟨accounted.mapped, accounted.sending, accounted.timers, accounted.pool, accounted.placed⟩

theorem Accounted.beside (accounted : world.Accounted) (beside : world.Beside next)
    (mapped : ∀ seq callbackPtr, next.session.seq2Callback.lookup seq = some callbackPtr →
      world.session.seq2Callback.lookup seq = some callbackPtr)
    (pool : ∀ task ∈ next.session.pool, next.TaskFrom task)
    (erased : ∀ seq callbackPtr, world.session.seq2Callback.lookup seq = some callbackPtr →
      next.session.seq2Callback.lookup seq = some callbackPtr ∨ callbackPtr.callback ∈ next.invoked)
    (answered : ∀ answer ∈ world.invoked ++ SessionRun.queued world.session.pool,
      answer ∈ next.invoked ++ SessionRun.queued next.session.pool) : next.Accounted := by
  have same : next.requests = world.requests := beside.requests
  refine ⟨?_, ?_, ?_, pool, ?_⟩
  · intro seq callbackPtr held
    obtain ⟨options, found⟩ := accounted.mapped seq callbackPtr (mapped seq callbackPtr held)
    exact ⟨options, same ▸ found⟩
  · intro sending member
    have source := accounted.sending sending (beside.sending ▸ member)
    cases sending with
    | checked message options callback =>
      cases callback with
      | none => trivial
      | some callback =>
        show next.requests[callback]? = _
        rw [same]
        exact source
    | armed message callback timeoutHandler =>
      obtain ⟨options, found⟩ := source
      exact ⟨options, same ▸ found⟩
    | registered message => trivial
  · rw [beside.seqs, same]
    exact accounted.timers
  · intro callback called
    rw [same] at called
    apply (accounted.placed callback called).mono
    · intro sending member pending
      rw [← beside.sending] at member
      exact .inl ⟨sending, member, pending⟩
    · intro seq callbackPtr held this
      rcases erased seq callbackPtr held with still | done
      · exact .inr (.inl ⟨seq, callbackPtr, still, this⟩)
      · rw [this] at done
        exact .inr (.inr (List.mem_append_left _ done))
    · exact answered

theorem TaskFrom.beside {task : Task Nat} (requests : next.requests = world.requests)
    (invoked : ∀ callback ∈ world.invoked, callback ∈ next.invoked)
    (source : world.TaskFrom task) : next.TaskFrom task := by
  cases task with
  | failure => trivial
  | response =>
    obtain ⟨own, found⟩ := source
    exact ⟨own, requests ▸ found⟩
  | timeout =>
    obtain ⟨own, found, waits⟩ := source
    exact ⟨own, requests ▸ found, waits⟩
  | finish =>
    obtain ⟨⟨own, found⟩, done⟩ := source
    exact ⟨⟨own, requests ▸ found⟩, invoked _ done⟩
  | handler => trivial

/-- The task that follows a callback is of the same request. -/
theorem TaskFrom.finishes {started task : Task Nat} (source : world.TaskFrom started)
    (requests : next.requests = world.requests)
    (invoked : next.invoked = world.invoked ++ started.invokes.toList)
    (member : task ∈ taskFinishes started) : next.TaskFrom task := by
  rcases mem_taskFinishes member with ⟨callback, e, message, rfl, rfl⟩ | ⟨callback, seq, rfl, rfl⟩
  · obtain ⟨options, found⟩ := source
    refine ⟨⟨options, requests ▸ found⟩, ?_⟩
    rw [invoked]
    exact List.mem_append_right _ (List.mem_singleton_self _)
  · obtain ⟨options, found, _⟩ := source
    refine ⟨⟨options, requests ▸ found⟩, ?_⟩
    rw [invoked]
    exact List.mem_append_right _ (List.mem_singleton_self _)

theorem Accounted.answers (accounted : world.Accounted)
    (unique : (world.requests.map Prod.fst).Nodup) {task : Task Nat} (answers : world.Answers task) :
    world.TaskFrom task := by
  cases task with
  | failure => trivial
  | response callback e message =>
    obtain ⟨callbackPtr, held, rfl⟩ := answers
    exact accounted.mapped _ _ held
  | timeout callback seq =>
    obtain ⟨listed, callbackPtr, held, rfl⟩ := answers
    -- the timer and the entry are of the same request
    obtain ⟨waiting, options, found, waits⟩ := accounted.timers seq listed
    have same := requested_unique unique ⟨options, found⟩ (accounted.mapped _ _ held)
    exact ⟨options, same ▸ found, waits⟩
  | finish => exact answers.elim
  | handler => trivial

theorem Accounted.other (accounted : world.Accounted)
    (unique : (world.requests.map Prod.fst).Nodup) {event : SessionRun.Event}
    (taken : step fw world (.other event) = some next) : next.Accounted := by
  obtain ⟨beside, ⟨tasks, answers, mapped, pool, invoked⟩ |
    ⟨i, started, present, mapped, pool, invoked⟩⟩ := other_cases taken
  · apply accounted.beside beside
    · rw [mapped]
      exact fun _ _ => id
    · intro task member
      rw [pool] at member
      apply TaskFrom.beside beside.requests (by rw [invoked]; exact fun _ => id)
      rcases List.mem_append.mp member with old | new
      · exact accounted.pool task old
      · exact accounted.answers unique (answers task new)
    · rw [mapped]
      exact fun _ _ => .inl
    · rw [invoked, pool]
      exact fun _ => answered_append
  · have source := accounted.pool started (List.mem_of_getElem? present)
    have grown : ∀ callback ∈ world.invoked, callback ∈ next.invoked := by
      rw [invoked]
      exact fun _ => List.mem_append_left _
    apply accounted.beside beside
    · rw [mapped]
      exact fun _ _ => lookup_taskErases
    · intro task member
      rw [pool] at member
      rcases List.mem_append.mp member with old | new
      · exact (accounted.pool task (List.mem_of_mem_eraseIdx old)).beside beside.requests grown
      · exact source.finishes beside.requests invoked new
    · intro seq callbackPtr held
      rw [mapped]
      rcases lookup_taskErases_or held started with kept | ⟨callback, rfl⟩
      · exact .inl kept
      · -- the erased entry is of the request whose callback has returned
        have returned := requested_unique unique source.1 (accounted.mapped _ _ held)
        exact .inr (returned ▸ grown _ source.2)
    · intro answer member
      rw [invoked, pool]
      exact answered_append ((SessionRun.counted_perm present).mem_iff.mpr member)

theorem step_requests {event : Event} (taken : step fw world event = some next) :
    world.requests.Sublist next.requests := by
  cases event with
  | asyncSendMessage message options callback =>
    have checked (world : SplitRun) (callback : Option Nat) :
        (world.check message options callback).requests = world.requests := by
      unfold check
      split
      · cases callback with
        | none => rfl
        | some callback => rfl
      · rfl
    cases callback with
    | false =>
      cases taken
      rw [checked]
    | true =>
      cases taken
      rw [checked]
      exact List.sublist_append_left _ _
  | continueSend thread =>
    simp only [step] at taken
    split at taken
    · cases taken
    · rename_i sending found
      cases taken
      cases sending with
      | checked message options callback =>
        cases callback with
        | none => exact List.Sublist.refl _
        | some callback => exact List.Sublist.refl _
      | armed => exact List.Sublist.refl _
      | registered => exact List.Sublist.refl _
  | drop reason =>
    simp only [step] at taken
    split at taken
    · cases taken
      exact List.Sublist.refl _
    · cases taken
      exact List.Sublist.refl _
  | continueDrop thread =>
    simp only [step] at taken
    split at taken
    · cases taken
    · rename_i dropping found
      cases taken
      cases dropping with
      | checked reason => exact List.Sublist.refl _
      | deactivated reason => exact List.Sublist.refl _
      | swept => exact List.Sublist.refl _
  | other event =>
    rw [(other_cases taken).1.requests]

theorem step_accounted {event : Event} (accounted : world.Accounted)
    (unique : (world.requests.map Prod.fst).Nodup) (taken : step fw world event = some next) :
    next.Accounted := by
  cases event with
  | asyncSendMessage message options callback =>
    cases callback with
    | false =>
      cases taken
      exact accounted.check_none message options
    | true =>
      cases taken
      exact accounted.check_request message options
  | continueSend thread =>
    simp only [step] at taken
    split at taken
    · cases taken
    · rename_i sending found
      cases taken
      exact accounted.continueSend unique found
  | drop reason =>
    simp only [step] at taken
    split at taken
    · cases taken
      exact ⟨accounted.mapped, accounted.sending, accounted.timers, accounted.pool, accounted.placed⟩
    · cases taken
      exact accounted
  | continueDrop thread =>
    simp only [step] at taken
    split at taken
    · cases taken
    · cases taken
      exact accounted.continueDrop thread _
  | other event => exact accounted.other unique taken

end Accounted

structure Initial (world : SplitRun) : Prop where
  actived : world.session.actived = true
  seq2Callback : world.session.seq2Callback = ∅
  timers : world.session.timers = []
  pool : world.session.pool = []
  idle : world.Idle
  requests : world.requests = []

theorem Initial.accounted {world : SplitRun} (initial : world.Initial) : world.Accounted := by
  obtain ⟨_, empty, timers, pool, ⟨sending, _⟩, requests⟩ := initial
  refine ⟨?_, ?_, ?_, ?_, ?_⟩
  · rw [empty]
    exact fun _ _ held => (by cases held)
  · simp [sending]
  · simp [seqs, timers]
  · simp [pool]
  · simp [requests]

structure Settled (world : SplitRun) : Prop where
  empty : world.Idle → world.session.actived = false → world.session.seq2Callback = ∅
  answered : (world.requests.map Prod.fst).Nodup → world.Idle → world.session.actived = false →
    ∀ callback < world.requests.length,
      callback ∈ world.invoked ++ SessionRun.queued world.session.pool
  timeouts : (world.requests.map Prod.fst).Nodup → ∀ callback seq,
    .timeout callback seq ∈ world.session.pool →
      ∃ options : Options, world.requests[callback]? = some (seq, options) ∧ 0 < options.timeout

theorem registered_before_sweep_settles (fw : Framework) (start last : SplitRun)
    (events : List Event) (initial : start.Initial)
    (guarded : Transition.Meets (step fw) RegistersGuarded start events)
    (ran : Transition.run (step fw) start events = some last) : last.Settled := by
  have swept : last.Swept :=
    Transition.invariant_of_meets (step fw)
      (fun _ _ _ swept registers taken => step_swept swept registers taken)
      (.inr initial.seq2Callback) guarded ran
  have accounted : (last.requests.map Prod.fst).Nodup → last.Accounted := by
    have keeps : ∀ (world : SplitRun) (event : Event) (next : SplitRun),
        ((world.requests.map Prod.fst).Nodup → world.Accounted) → step fw world event = some next →
          (next.requests.map Prod.fst).Nodup → next.Accounted := by
      intro world event next accounted taken unique
      have before := ((step_requests taken).map Prod.fst).nodup unique
      exact step_accounted (accounted before) before taken
    exact Transition.invariant (step fw) keeps (fun _ => initial.accounted) ran
  have empty : last.Idle → last.session.actived = false → last.session.seq2Callback = ∅ := by
    rintro ⟨_, dropping⟩ dropped
    rcases swept with (actived | ⟨_, member, _⟩) | empty
    · rw [dropped] at actived
      cases actived
    · rw [dropping] at member
      cases member
    · exact empty
  refine ⟨empty, ?_, ?_⟩
  · intro unique idle dropped callback called
    rcases (accounted unique).placed callback called with
      ⟨_, member, _⟩ | ⟨seq, callbackPtr, held, _⟩ | answered
    · rw [idle.1] at member
      cases member
    · rw [empty idle dropped] at held
      cases held
    · exact answered
  · intro unique callback seq queued
    exact (accounted unique).pool _ queued

def opened : SplitRun := { session := { actived := true } }

/-- The session is dropped between the check and the registration. -/
def lateRegistration : List Event :=
  [.asyncSendMessage SessionRun.request {} true, .drop .tcpError, .continueDrop 0, .continueDrop 0,
    .continueDrop 0, .continueSend 0, .continueSend 0, .continueSend 0]

theorem lateRegistration_strands :
    ¬ ∀ events last, Transition.run (step CroppingFramework.standard) opened events = some last →
      last.Idle → last.session.actived = false → last.session.seq2Callback = ∅ := by
  intro settles
  obtain ⟨last, ran, idle, dropped, held⟩ : ∃ last,
      Transition.run (step CroppingFramework.standard) opened lateRegistration = some last ∧
        last.Idle ∧ last.session.actived = false ∧
          last.session.seq2Callback.lookup 1 = some { callback := 0 } :=
    ⟨_, rfl, ⟨rfl, rfl⟩, rfl, rfl⟩
  rw [settles _ last ran idle dropped] at held
  cases held

def earlyRegistration : List Event :=
  [.asyncSendMessage SessionRun.request {} true, .drop .tcpError, .continueDrop 0, .continueSend 0,
    .continueSend 0, .continueDrop 0, .continueDrop 0, .continueSend 0]

theorem earlyRegistration_settles :
    ∃ last, Transition.run (step CroppingFramework.standard) opened earlyRegistration = some last ∧
      last.Settled :=
  ⟨_, rfl, registered_before_sweep_settles CroppingFramework.standard opened _ earlyRegistration
    ⟨rfl, rfl, rfl, rfl, ⟨rfl, rfl⟩, rfl⟩ (by decide) rfl⟩

end BcosGateway.SplitRun

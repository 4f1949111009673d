import BcosGateway.Session.Effects
import BcosGateway.Lib.Transition
import Mathlib.Data.List.Perm.Basic

/-! The callbacks passed to `asyncSendMessage` over whole runs of a session. -/

namespace BcosGateway

namespace Task

variable {κ : Type}

def invokes : Task κ → Option κ
  | .failure callback _ | .response callback _ _ | .timeout callback _ => some callback
  | .finish .. | .handler .. => none

def erases : Task κ → Option (κ × UInt32)
  | .response callback _ message => some (callback, message.seq)
  | .timeout callback seq | .finish callback seq => some (callback, seq)
  | .failure .. | .handler .. => none

end Task

/-- A session with the seqs of the messages sent so far and the callbacks invoked so far. A
    callback is named by the number of the call that it was passed to. -/
structure SessionRun where
  session : Session Nat
  calls : List UInt32 := []
  invoked : List Nat := []

namespace SessionRun

inductive Event where
  | asyncSendMessage (message : P2PMessage) (options : Options) (callback : Bool)
  | onMessage (e : NetworkException) (message : P2PMessage)
  | expire (timer : Nat)
  | onTimeout (timer : Nat)
  | drop (reason : DisconnectReason)
  | execute (task : Nat)
  | haveNetwork (network : Bool)
  | connected (socket : Bool)
  deriving DecidableEq, Repr

def enqueue (world : SessionRun) (task : Task Nat) : SessionRun :=
  { world with session := world.session.enqueue task }

def setTimer (world : SessionRun) (timer : Nat) (value : Timer) : SessionRun :=
  { world with session := { world.session with timers := world.session.timers.set timer value } }

def execute (world : SessionRun) : Task Nat → SessionRun
  | .failure callback _ => { world with invoked := world.invoked ++ [callback] }
  | .response callback _ message =>
    { world with invoked := world.invoked ++ [callback] }.enqueue (.finish callback message.seq)
  | .timeout callback seq =>
    { world with invoked := world.invoked ++ [callback] }.enqueue (.finish callback seq)
  | .finish _ seq => { world with session := world.session.removeSeqCallback seq }
  | .handler .. => world

/-- No seq is sent twice; timers expire when they are armed and call `onTimeout` afterwards,
    with an error if they were cancelled before. -/
def step (fw : Framework) (world : SessionRun) : Event → Option SessionRun
  | .asyncSendMessage message options callback =>
    if message.seq ∈ world.calls then none
    else
      let callback := if callback then some world.calls.length else none
      some { world with
        session := world.session.asyncSendMessage fw message options callback
        calls := world.calls ++ [message.seq] }
  | .onMessage e message => some { world with session := world.session.onMessage e message }
  | .expire timer =>
    match world.session.timers[timer]? with
    | some ⟨seq, .armed⟩ => some (world.setTimer timer ⟨seq, .expired⟩)
    | _ => none
  | .onTimeout timer =>
    match world.session.timers[timer]? with
    | some ⟨seq, .expired⟩ =>
      let world := world.setTimer timer ⟨seq, .handled⟩
      some { world with session := world.session.onTimeout false seq }
    | some ⟨seq, .cancelled⟩ =>
      let world := world.setTimer timer ⟨seq, .handled⟩
      some { world with session := world.session.onTimeout true seq }
    | _ => none
  | .drop reason => some { world with session := world.session.drop reason }
  | .execute task =>
    match world.session.pool[task]? with
    | none => none
    | some started =>
      let session := { world.session with pool := world.session.pool.eraseIdx task }
      some ({ world with session }.execute started)
  | .haveNetwork network =>
    some { world with session := { world.session with haveNetwork := network } }
  | .connected socket =>
    some { world with session := { world.session with connected := socket } }

structure Initial (world : SessionRun) : Prop where
  seq2Callback : world.session.seq2Callback = ∅
  pool : world.session.pool = []
  calls : world.calls = []
  invoked : world.invoked = []

def Unclaimed (world : SessionRun) (callbackPtr : ResponseCallback Nat) : Prop :=
  ∀ task ∈ world.session.pool, task.holds ≠ some callbackPtr.callback

instance (world : SessionRun) (callbackPtr : ResponseCallback Nat) :
    Decidable (world.Unclaimed callbackPtr) := inferInstanceAs (Decidable (∀ _ ∈ _, _))

def Timely (world : SessionRun) : Event → Prop
  | .onMessage _ message =>
    world.session.actived → world.session.haveNetwork → message.isRespPacket →
      ∀ callbackPtr ∈ world.session.seq2Callback.lookup message.seq, world.Unclaimed callbackPtr
  | .onTimeout timer =>
    ∀ expired ∈ world.session.timers[timer]?, expired.state = .expired →
      ∀ callbackPtr ∈ world.session.seq2Callback.lookup expired.seq, world.Unclaimed callbackPtr
  | .drop _ =>
    world.session.actived →
      ∀ callbackPtr ∈ world.session.seq2Callback.values, world.Unclaimed callbackPtr
  | _ => True

instance (world : SessionRun) : ∀ event, Decidable (world.Timely event)
  | .onMessage .. => inferInstanceAs (Decidable (_ → _))
  | .onTimeout .. => inferInstanceAs (Decidable (∀ _ ∈ _, _))
  | .drop _ => inferInstanceAs (Decidable (_ → _))
  | .asyncSendMessage .. | .expire _ | .execute _ | .haveNetwork _ | .connected _ =>
    inferInstanceAs (Decidable True)

def queued (pool : List (Task Nat)) : List Nat := pool.filterMap Task.invokes

/-- The invariant. A callback counts once among those invoked and those queued to be, and one
    that counts keeps its entry only while the task that will erase it is there. -/
structure Ledger (seq2Callback : Table UInt32 (ResponseCallback Nat)) (pool : List (Task Nat))
    (calls : List UInt32) (invoked : List Nat) : Prop where
  mapped : ∀ seq callbackPtr, seq2Callback.lookup seq = some callbackPtr →
    calls[callbackPtr.callback]? = some seq
  known : ∀ callback ∈ invoked ++ queued pool, callback < calls.length
  once : (invoked ++ queued pool).Nodup
  claimed : ∀ seq callbackPtr, seq2Callback.lookup seq = some callbackPtr →
    callbackPtr.callback ∈ invoked ++ queued pool →
      ∃ task ∈ pool, task.erases = some (callbackPtr.callback, seq)

section Ledger

variable {seq2Callback : Table UInt32 (ResponseCallback Nat)} {pool : List (Task Nat)}
  {calls : List UInt32} {invoked : List Nat} (ledger : Ledger seq2Callback pool calls invoked)

theorem queued_append (pool tasks : List (Task Nat)) :
    queued (pool ++ tasks) = queued pool ++ queued tasks := List.filterMap_append

include ledger

theorem Ledger.fresh {seq : UInt32} {callbackPtr : ResponseCallback Nat}
    (held : seq2Callback.lookup seq = some callbackPtr)
    (unclaimed : ∀ task ∈ pool, task.holds ≠ some callbackPtr.callback) :
    callbackPtr.callback ∉ invoked ++ queued pool := by
  intro counted
  -- the task that will erase the entry was queued for the callback
  obtain ⟨task, member, erases⟩ := ledger.claimed seq callbackPtr held counted
  apply unclaimed task member
  cases task with
  | failure => cases erases
  | response => cases erases; rfl
  | timeout => cases erases; rfl
  | finish => cases erases; rfl
  | handler => cases erases

theorem Ledger.held_unique {seq other : UInt32} {callbackPtr otherPtr : ResponseCallback Nat}
    (held : seq2Callback.lookup seq = some callbackPtr)
    (otherHeld : seq2Callback.lookup other = some otherPtr)
    (same : callbackPtr.callback = otherPtr.callback) : seq = other := by
  have first := ledger.mapped seq callbackPtr held
  have second := ledger.mapped other otherPtr otherHeld
  rw [same, second] at first
  cases first
  rfl

theorem Ledger.append {tasks : List (Task Nat)} (idle : queued tasks = []) :
    Ledger seq2Callback (pool ++ tasks) calls invoked := by
  refine ⟨ledger.mapped, ?_, ?_, ?_⟩
  · rw [queued_append, idle, List.append_nil]
    exact ledger.known
  · rw [queued_append, idle, List.append_nil]
    exact ledger.once
  · rw [queued_append, idle, List.append_nil]
    intro seq callbackPtr held counted
    obtain ⟨task, member, erases⟩ := ledger.claimed seq callbackPtr held counted
    exact ⟨task, List.mem_append_left _ member, erases⟩

theorem Ledger.call (seq : UInt32) : Ledger seq2Callback pool (calls ++ [seq]) invoked := by
  refine ⟨?_, ?_, ledger.once, ledger.claimed⟩
  · intro other callbackPtr held
    have found := ledger.mapped other callbackPtr held
    rw [List.getElem?_append_left (List.getElem?_eq_some_iff.mp found).1, found]
  · intro callback counted
    rw [List.length_append]
    exact Nat.lt_add_right _ (ledger.known callback counted)

theorem Ledger.queue {task : Task Nat} {callback : Nat} (invokes : task.invokes = some callback)
    (called : callback < calls.length) (absent : callback ∉ invoked ++ queued pool)
    (erases : ∀ seq callbackPtr, seq2Callback.lookup seq = some callbackPtr →
      callbackPtr.callback = callback → task.erases = some (callback, seq)) :
    Ledger seq2Callback (pool ++ [task]) calls invoked := by
  have more : queued (pool ++ [task]) = queued pool ++ [callback] := by
    rw [queued_append, queued, queued, List.filterMap_cons_some invokes, List.filterMap_nil]
  refine ⟨ledger.mapped, ?_, ?_, ?_⟩
  · rw [more, ← List.append_assoc]
    intro other counted
    rcases List.mem_append.mp counted with old | new
    · exact ledger.known other old
    · rw [List.mem_singleton.mp new]
      exact called
  · rw [more, ← List.append_assoc]
    apply List.nodup_append.mpr
    refine ⟨ledger.once, List.nodup_singleton _, ?_⟩
    intro other counted last new
    rw [List.mem_singleton.mp new]
    exact fun same => absent (same ▸ counted)
  · rw [more, ← List.append_assoc]
    intro seq callbackPtr held counted
    rcases List.mem_append.mp counted with old | new
    · obtain ⟨eraser, member, erased⟩ := ledger.claimed seq callbackPtr held old
      exact ⟨eraser, List.mem_append_left _ member, erased⟩
    · have same := List.mem_singleton.mp new
      rw [same]
      exact ⟨task, by simp, erases seq callbackPtr held same⟩

theorem Ledger.fail (seq : UInt32) (e : NetworkException) :
    Ledger seq2Callback (pool ++ [.failure calls.length e]) (calls ++ [seq]) invoked := by
  have absent : calls.length ∉ invoked ++ queued pool := fun counted =>
    absurd (ledger.known _ counted) (Nat.lt_irrefl _)
  apply (ledger.call seq).queue rfl (by simp) absent
  intro other callbackPtr held same
  have inside := (List.getElem?_eq_some_iff.mp (ledger.mapped other callbackPtr held)).1
  rw [same] at inside
  exact absurd inside (Nat.lt_irrefl _)

theorem Ledger.hold {seq : UInt32} (unused : seq ∉ calls) (timeoutHandler : Option Nat) :
    Ledger (seq2Callback.add seq { callback := calls.length, timeoutHandler }) pool
      (calls ++ [seq]) invoked := by
  have called := ledger.call seq
  -- an entry under this seq would be that of an earlier call
  have absent : seq2Callback.lookup seq = none := by
    cases held : seq2Callback.lookup seq with
    | none => rfl
    | some callbackPtr =>
      exact absurd (List.mem_of_getElem? (ledger.mapped seq callbackPtr held)) unused
  refine ⟨?_, called.known, ledger.once, ?_⟩
  · intro other callbackPtr held
    rw [Table.lookup_add, absent] at held
    by_cases same : other = seq
    · rw [if_pos same] at held
      cases held
      simp [same]
    · rw [if_neg same] at held
      exact called.mapped other callbackPtr held
  · intro other callbackPtr held counted
    rw [Table.lookup_add, absent] at held
    by_cases same : other = seq
    · rw [if_pos same] at held
      cases held
      exact absurd (ledger.known _ counted) (Nat.lt_irrefl _)
    · rw [if_neg same] at held
      exact ledger.claimed other callbackPtr held counted

theorem Ledger.claim {seq : UInt32} {callbackPtr : ResponseCallback Nat} {task : Task Nat}
    (held : seq2Callback.lookup seq = some callbackPtr)
    (unclaimed : ∀ task ∈ pool, task.holds ≠ some callbackPtr.callback)
    (invokes : task.invokes = some callbackPtr.callback)
    (erases : task.erases = some (callbackPtr.callback, seq)) :
    Ledger seq2Callback (pool ++ [task]) calls invoked := by
  have called := (List.getElem?_eq_some_iff.mp (ledger.mapped seq callbackPtr held)).1
  apply ledger.queue invokes called (ledger.fresh held unclaimed)
  intro other otherPtr otherHeld same
  rw [ledger.held_unique otherHeld held same]
  exact erases

omit ledger in
theorem queued_failures (callbacks : List (ResponseCallback Nat)) (e : NetworkException) :
    queued (callbacks.map fun it => .failure it.callback e) = callbacks.map (·.callback) := by
  have invokes : Task.invokes ∘ (fun it : ResponseCallback Nat => Task.failure it.callback e) =
      some ∘ (·.callback) := rfl
  rw [queued, List.filterMap_map, invokes, List.filterMap_eq_map]

theorem Ledger.values_nodup : (seq2Callback.values.map (·.callback)).Nodup := by
  unfold Table.values
  rw [List.map_map]
  have apart : seq2Callback.entries.Pairwise fun left right => left.1 ≠ right.1 :=
    List.nodupKeys_iff_pairwise.mp seq2Callback.nodupKeys
  refine List.Pairwise.map _ (fun _ _ distinct => distinct) ?_
  refine List.Pairwise.imp_of_mem ?_ apart
  intro left right first second distinct same
  exact distinct (ledger.held_unique (AList.mem_lookup_iff.mpr first)
    (AList.mem_lookup_iff.mpr second) same)

theorem Ledger.release (e : NetworkException)
    (unclaimed : ∀ callbackPtr ∈ seq2Callback.values, ∀ task ∈ pool,
      task.holds ≠ some callbackPtr.callback) :
    Ledger ∅ (pool ++ seq2Callback.values.map fun it => .failure it.callback e) calls invoked := by
  refine ⟨fun _ _ held => (by cases held), ?_, ?_, fun _ _ held => (by cases held)⟩
  · rw [queued_append, queued_failures, ← List.append_assoc]
    intro callback counted
    rcases List.mem_append.mp counted with old | new
    · exact ledger.known callback old
    · obtain ⟨callbackPtr, member, rfl⟩ := List.mem_map.mp new
      obtain ⟨seq, held⟩ := Table.mem_values.mp member
      exact (List.getElem?_eq_some_iff.mp (ledger.mapped seq callbackPtr held)).1
  · rw [queued_append, queued_failures, ← List.append_assoc]
    refine List.nodup_append.mpr ⟨ledger.once, ledger.values_nodup, ?_⟩
    rintro callback counted _ new rfl
    obtain ⟨callbackPtr, member, rfl⟩ := List.mem_map.mp new
    obtain ⟨seq, held⟩ := Table.mem_values.mp member
    exact ledger.fresh held (unclaimed callbackPtr member) counted

omit ledger in
theorem started_perm {task : Task Nat} {i : Nat} (present : pool[i]? = some task) :
    (task :: pool.eraseIdx i).Perm pool := by
  obtain ⟨inside, found⟩ := List.getElem?_eq_some_iff.mp present
  rw [← found]
  exact List.getElem_cons_eraseIdx_perm inside

omit ledger in
theorem counted_perm {task : Task Nat} {i : Nat} (present : pool[i]? = some task) :
    ((invoked ++ task.invokes.toList) ++ queued (pool.eraseIdx i)).Perm (invoked ++ queued pool) := by
  have moved : (task.invokes.toList ++ queued (pool.eraseIdx i)).Perm (queued pool) := by
    have mapped := (started_perm present).filterMap Task.invokes
    cases start : task.invokes with
    | none =>
      rw [List.filterMap_cons_none start] at mapped
      exact mapped
    | some callback =>
      rw [List.filterMap_cons_some start] at mapped
      exact mapped
  rw [List.append_assoc]
  exact moved.append_left invoked

theorem Ledger.start {task : Task Nat} {i : Nat} (present : pool[i]? = some task)
    {rest : List (Task Nat)} (idle : queued rest = [])
    {left : Table UInt32 (ResponseCallback Nat)}
    (kept : ∀ seq callbackPtr, left.lookup seq = some callbackPtr →
      seq2Callback.lookup seq = some callbackPtr ∧
        (task.erases = some (callbackPtr.callback, seq) →
          ∃ later ∈ rest, later.erases = some (callbackPtr.callback, seq))) :
    Ledger left (pool.eraseIdx i ++ rest) calls (invoked ++ task.invokes.toList) := by
  -- the callback moves from queued to invoked
  have moved : ((invoked ++ task.invokes.toList) ++ queued (pool.eraseIdx i)).Perm
      (invoked ++ queued pool) := counted_perm present
  have same : queued (pool.eraseIdx i ++ rest) = queued (pool.eraseIdx i) := by
    rw [queued_append, idle, List.append_nil]
  refine ⟨fun seq callbackPtr held => ledger.mapped seq callbackPtr (kept seq callbackPtr held).1,
    ?_, ?_, ?_⟩
  · rw [same]
    intro callback counted
    exact ledger.known callback (moved.mem_iff.mp counted)
  · rw [same]
    exact moved.nodup_iff.mpr ledger.once
  · rw [same]
    intro seq callbackPtr held counted
    obtain ⟨before, replaced⟩ := kept seq callbackPtr held
    obtain ⟨eraser, member, erases⟩ :=
      ledger.claimed seq callbackPtr before (moved.mem_iff.mp counted)
    rcases List.mem_cons.mp ((started_perm present).mem_iff.mpr member) with this | other
    · obtain ⟨later, still, erased⟩ := replaced (this ▸ erases)
      exact ⟨later, List.mem_append_right _ still, erased⟩
    · exact ⟨eraser, List.mem_append_left _ other, erases⟩

theorem Ledger.finish {task : Task Nat} {i : Nat} (present : pool[i]? = some task)
    {left : Table UInt32 (ResponseCallback Nat)} {after : List Nat}
    (counts : after = invoked ++ task.invokes.toList)
    (kept : ∀ seq callbackPtr, left.lookup seq = some callbackPtr →
      seq2Callback.lookup seq = some callbackPtr ∧ task.erases ≠ some (callbackPtr.callback, seq)) :
    Ledger left (pool.eraseIdx i) calls after := by
  subst counts
  have started : Ledger left (pool.eraseIdx i ++ []) calls (invoked ++ task.invokes.toList) :=
    ledger.start present rfl fun seq callbackPtr held =>
      ⟨(kept seq callbackPtr held).1, fun erases => absurd erases (kept seq callbackPtr held).2⟩
  rw [List.append_nil] at started
  exact started

end Ledger

def Sound (world : SessionRun) : Prop :=
  Ledger world.session.seq2Callback world.session.pool world.calls world.invoked

variable (fw : Framework)

theorem Initial.sound {world : SessionRun} (initial : world.Initial) : world.Sound := by
  obtain ⟨map, pool, calls, invoked⟩ := initial
  unfold Sound
  rw [map, pool, calls, invoked]
  exact ⟨fun _ _ held => (by cases held), by simp [queued], by simp [queued],
    fun _ _ held => (by cases held)⟩

section Step

variable {world : SessionRun} (sound : world.Sound)

include sound

theorem asyncSendMessage_sound (message : P2PMessage) (options : Options) (callback : Bool)
    (unused : message.seq ∉ world.calls) :
    Sound { world with
      session := world.session.asyncSendMessage fw message options
        (if callback then some world.calls.length else none)
      calls := world.calls ++ [message.seq] } := by
  unfold Sound at *
  cases active : world.session.isActived with
  | false =>
    rw [Session.asyncSendMessage_inactive fw message options active]
    cases callback with
    | false =>
      simp only [Bool.false_eq_true, if_false, Option.toList_none, List.map_nil, List.append_nil]
      exact sound.call message.seq
    | true => exact sound.fail message.seq _
  | true =>
    cases callback with
    | false =>
      obtain ⟨_, _, _, sent⟩ := Session.asyncSendMessage_silent fw message options active
      simp only [Bool.false_eq_true, if_false, sent]
      exact sound.call message.seq
    | true =>
      obtain ⟨_, timeoutHandler, _, _, _, sent⟩ :=
        Session.asyncSendMessage_active fw message options active world.calls.length
      simp only [if_true, sent]
      exact sound.hold unused timeoutHandler

theorem onMessage_sound (e : NetworkException) (message : P2PMessage)
    (timely : world.Timely (.onMessage e message)) :
    Sound { world with session := world.session.onMessage e message } := by
  unfold Sound at *
  rcases world.session.onMessage_cases e message with
    ⟨timers, callbackPtr, ⟨actived, network, response, held⟩, handed⟩ | ⟨tasks, handlers, _, handed⟩
  · rw [handed]
    exact sound.claim held (timely actived network response callbackPtr held) rfl rfl
  · rw [handed]
    refine sound.append (List.filterMap_eq_nil_iff.mpr ?_)
    intro task member
    rw [handlers task member]
    rfl

theorem onTimeout_sound {timers : List Timer} (error : Bool) (seq : UInt32)
    (timely : error = false → ∀ callbackPtr ∈ world.session.seq2Callback.lookup seq,
      world.Unclaimed callbackPtr) :
    Sound { world with session := ({ world.session with timers }).onTimeout error seq } := by
  unfold Sound at *
  rcases Session.onTimeout_cases { world.session with timers } error seq with
    ⟨callbackPtr, running, held, fired⟩ | ⟨_, fired⟩
  · rw [fired]
    exact sound.claim held (timely running callbackPtr held) rfl rfl
  · rw [fired]
    exact sound

theorem drop_sound (reason : DisconnectReason) (timely : world.Timely (.drop reason)) :
    Sound { world with session := world.session.drop reason } := by
  unfold Sound at *
  cases actived : world.session.actived with
  | false =>
    rw [Session.drop_inactived reason actived]
    exact sound
  | true =>
    obtain ⟨timers, dropped⟩ := Session.drop_actived reason actived
    rw [dropped, Session.dropTasks, ← List.append_assoc]
    refine Ledger.append (sound.release _ (timely actived)) (List.filterMap_eq_nil_iff.mpr ?_)
    intro task member
    rw [Session.notification_eq member]
    rfl

theorem execute_sound {i : Nat} {task : Task Nat} (present : world.session.pool[i]? = some task) :
    Sound ({ world with session := { world.session with
      pool := world.session.pool.eraseIdx i } }.execute task) := by
  unfold Sound at *
  cases task with
  | failure callback e =>
    exact sound.finish present rfl fun seq callbackPtr held =>
      ⟨held, fun erases => (by cases erases)⟩
  | response callback e message =>
    exact sound.start present rfl fun seq callbackPtr held =>
      ⟨held, fun erases => ⟨.finish callback message.seq, by simp, erases⟩⟩
  | timeout callback seq =>
    exact sound.start present rfl fun other callbackPtr held =>
      ⟨held, fun erases => ⟨.finish callback seq, by simp, erases⟩⟩
  | finish callback seq =>
    apply sound.finish present (List.append_nil _).symm
    intro other callbackPtr held
    have erased := (Table.lookup_erase_if seq other world.session.seq2Callback).symm.trans held
    by_cases same : other = seq
    · rw [if_pos same] at erased
      cases erased
    · rw [if_neg same] at erased
      refine ⟨erased, fun erases => ?_⟩
      cases erases
      exact same rfl
  | handler e message =>
    exact sound.finish present (List.append_nil _).symm fun seq callbackPtr held =>
      ⟨held, fun erases => (by cases erases)⟩

theorem step_sound {event : Event} {next : SessionRun} (timely : world.Timely event)
    (taken : step fw world event = some next) : next.Sound := by
  cases event with
  | asyncSendMessage message options callback =>
    simp only [step] at taken
    split at taken
    · cases taken
    · cases taken
      exact asyncSendMessage_sound fw sound message options callback ‹_›
  | onMessage e message =>
    cases taken
    exact onMessage_sound sound e message timely
  | expire timer =>
    simp only [step] at taken
    split at taken
    · cases taken
      exact sound
    · cases taken
  | onTimeout timer =>
    simp only [step] at taken
    split at taken
    · rename_i seq found
      cases taken
      exact onTimeout_sound sound false seq fun _ => timely ⟨seq, .expired⟩ found rfl
    · rename_i seq found
      cases taken
      -- the handler of a cancelled timer looks nothing up
      exact onTimeout_sound sound true seq fun running => (by cases running)
    · cases taken
  | drop reason =>
    cases taken
    exact drop_sound sound reason timely
  | execute task =>
    simp only [step] at taken
    split at taken
    · cases taken
    · rename_i started present
      cases taken
      exact execute_sound sound present
  | haveNetwork network =>
    cases taken
    exact sound
  | connected socket =>
    cases taken
    exact sound

end Step

/-- In a run whose steps find only unclaimed callbacks, no callback is invoked twice. -/
theorem invoked_once (start last : SessionRun) (events : List Event) (initial : start.Initial)
    (timely : Transition.Meets (step fw) Timely start events)
    (ran : Transition.run (step fw) start events = some last) :
    ∀ callback, last.invoked.count callback ≤ 1 := by
  have sound : last.Sound :=
    Transition.invariant_of_meets (step fw)
      (fun _ _ _ sound timely taken => step_sound fw sound timely taken) initial.sound timely ran
  have distinct : last.invoked.Nodup := (List.nodup_append.mp sound.once).1
  exact List.nodup_iff_count_le_one.mp distinct

def request : P2PMessage := { packetType := 7, seq := 1 }
def response : P2PMessage := request.setRespPacket
def fresh : SessionRun := { session := { actived := true } }

/-- The response frame arrives twice before its first task runs. -/
def repeatedResponse : List Event :=
  [.asyncSendMessage request {} true, .onMessage Session.success response,
    .onMessage Session.success response, .execute 0, .execute 0]

theorem repeatedResponse_invokes_twice :
    ¬ ∀ events last, Transition.run (step CroppingFramework.standard) fresh events = some last →
      ∀ callback, last.invoked.count callback ≤ 1 := by
  intro once
  obtain ⟨last, ran, twice⟩ : ∃ last,
      Transition.run (step CroppingFramework.standard) fresh repeatedResponse = some last ∧
        last.invoked = [0, 0] := ⟨_, rfl, rfl⟩
  have count := once _ last ran 0
  rw [twice] at count
  exact absurd count (by decide)

def singleResponse : List Event :=
  [.asyncSendMessage request { timeout := 1000 } true, .onMessage Session.success response,
    .execute 0, .execute 0, .drop .clientQuit, .execute 0]

theorem singleResponse_invoked_once :
    ∃ last, Transition.run (step CroppingFramework.standard) fresh singleResponse = some last ∧
      last.invoked.count 0 ≤ 1 :=
  ⟨_, rfl, invoked_once CroppingFramework.standard fresh _ singleResponse ⟨rfl, rfl, rfl, rfl⟩
    (by decide) rfl 0⟩

end SessionRun

end BcosGateway

import BcosGateway.Session.Effects
import BcosGateway.Lib.Places
import BcosGateway.Lib.StableQueue
import BcosGateway.Lib.Transition

/-! `send`, `write` and `onWrite` cut at `x_writeQueue` and where `m_writing` is reset without it. -/

namespace BcosGateway

namespace Session

variable {κ : Type} (session : Session κ)

def queueCompare (_ _ : Bytes) : Bool := false

/-- The part of `write` under `x_writeQueue`. -/
def writeLocked : Session κ :=
  if session.writing then session
  else
    let session := { session with writing := true }
    match StableQueue.pop queueCompare session.writeQueue with
    | none => { session with writing := false }
    | some (buffer, writeQueue) =>
      let session := { session with writeQueue }
      if session.haveNetwork then
        if session.connected then { session with written := session.written ++ [buffer] }
        else session.drop .tcpError
      else session.drop .tcpError

def resetWriting : Session κ :=
  if session.writing then { session with writing := false } else session

theorem write_eq : session.write = if session.isActived then session.writeLocked else session := by
  unfold write writeLocked
  cases session.isActived with
  | false => rfl
  | true =>
    cases queue : session.writeQueue with
    | nil => rfl
    | cons buffer writeQueue =>
      have first := StableQueue.pop_cons queueCompare buffer writeQueue fun _ _ => rfl
      simp only [first]
      rfl

end Session

inductive WritePoint where
  | push (msg : Bytes)
  | write
  | lock
  | reset
  deriving DecidableEq, Repr

/-- A session with the threads that are about to write, what `send` has pushed so far, and how many
    of the writes that were handed to `asyncWrite` have completed. -/
structure WriteRun where
  session : Session Nat
  threads : List WritePoint := []
  pushed : List Bytes := []
  completed : Nat := 0

namespace WriteRun

inductive Event where
  | send (msg : Bytes)
  | write
  | onWrite (ec : Bool)
  | resume (thread : Nat)
  | drop (reason : DisconnectReason)
  | stopNetwork
  | closeSocket
  deriving DecidableEq, Repr

def spawn (world : WriteRun) (point : WritePoint) : WriteRun :=
  { world with threads := world.threads ++ [point] }

def finish (world : WriteRun) (thread : Nat) : WriteRun :=
  { world with threads := world.threads.eraseIdx thread }

def advance (world : WriteRun) (thread : Nat) (point : WritePoint) : WriteRun :=
  { world with threads := world.threads.set thread point }

def outstanding (world : WriteRun) : Nat := world.session.written.length - world.completed

def resume (world : WriteRun) (thread : Nat) : WritePoint → WriteRun
  | .push msg =>
    { world with
      session := { world.session with writeQueue := world.session.writeQueue ++ [msg] }
      pushed := world.pushed ++ [msg] }.advance thread .write
  | .write => if world.session.isActived then world.advance thread .lock else world.finish thread
  | .lock => { world with session := world.session.writeLocked }.finish thread
  | .reset => { world with session := world.session.resetWriting }.advance thread .write

/-- The steps run up to the next lock or to the reset. A network that has stopped or a socket that
    was closed stays so. -/
def step (world : WriteRun) : Event → Option WriteRun
  | .send msg => if world.session.isActived then some (world.spawn (.push msg)) else some world
  | .write => some (world.spawn .write)
  | .onWrite ec =>
    if world.completed < world.session.written.length then
      let world := { world with completed := world.completed + 1 }
      if !world.session.isActived then some world
      else if ec then some { world with session := world.session.drop .tcpError }
      else some (world.spawn .reset)
    else none
  | .resume thread =>
    match world.threads[thread]? with
    | none => none
    | some point => some (world.resume thread point)
  | .drop reason => some { world with session := world.session.drop reason }
  | .stopNetwork => some { world with session := { world.session with haveNetwork := false } }
  | .closeSocket => some { world with session := { world.session with connected := false } }

theorem write_alone {world : WriteRun} (alone : world.threads = [.write])
    (active : world.session.isActived) :
    Transition.run step world [.resume 0, .resume 0] =
      some { world with session := world.session.write, threads := [] } := by
  simp only [Transition.run, step, alone, List.getElem?_cons_zero, resume, active, if_true, advance,
    List.set_cons_zero, Option.bind_some, finish, List.eraseIdx_cons_zero, Session.write_eq]

/-- With nothing in between, the steps of a call are the whole call. -/
theorem send_alone {world : WriteRun} (alone : world.threads = [])
    (active : world.session.isActived) (msg : Bytes) :
    Transition.run step world [.send msg, .resume 0, .resume 0, .resume 0] =
      some { world with session := world.session.send msg, pushed := world.pushed ++ [msg] } := by
  have socket : world.session.connected = true := (world.session.isActived_iff.mp active).2.2
  let pushing : WriteRun := { world with
    session := { world.session with writeQueue := world.session.writeQueue ++ [msg] }
    threads := [.write]
    pushed := world.pushed ++ [msg] }
  have entered : Transition.run step world [.send msg, .resume 0, .resume 0, .resume 0] =
      Transition.run step pushing [.resume 0, .resume 0] := by
    simp only [Transition.run, step, active, if_true, spawn, alone, List.nil_append,
      Option.bind_some, List.getElem?_cons_zero, resume, advance, List.set_cons_zero, pushing]
  have pushed : pushing.session.isActived := active
  rw [entered, write_alone rfl pushed]
  simp only [pushing, Session.send, active, socket, Bool.not_true, Bool.false_eq_true, if_false,
    ← alone]

theorem onWrite_alone {world : WriteRun} (alone : world.threads = [])
    (active : world.session.isActived) (outstanding : world.completed < world.session.written.length) :
    Transition.run step world [.onWrite false, .resume 0, .resume 0, .resume 0] =
      some { world with
        session := world.session.onWrite false
        completed := world.completed + 1 } := by
  let resetting : WriteRun := { world with
    session := world.session.resetWriting
    threads := [.write]
    completed := world.completed + 1 }
  have entered : Transition.run step world [.onWrite false, .resume 0, .resume 0, .resume 0] =
      Transition.run step resetting [.resume 0, .resume 0] := by
    simp only [Transition.run, step, outstanding, if_true, active, Bool.not_true, Bool.false_eq_true,
      if_false, spawn, alone, List.nil_append, Option.bind_some, List.getElem?_cons_zero, resume,
      advance, List.set_cons_zero, resetting]
  have reset : resetting.session.isActived := by
    simp only [resetting, Session.resetWriting]
    split
    · exact active
    · exact active
  rw [entered, write_alone rfl reset]
  simp only [resetting, Session.onWrite, active, Bool.not_true, Bool.false_eq_true, if_false,
    Session.resetWriting, ← alone]

section Effects

variable {κ : Type} (session : Session κ)

theorem drop_writes (reason : DisconnectReason) :
    (session.drop reason).isActived = false ∧
      (session.drop reason).writeQueue = session.writeQueue ∧
      (session.drop reason).writing = session.writing ∧
      (session.drop reason).written = session.written := by
  cases actived : session.actived with
  | false =>
    rw [Session.drop_inactived reason actived]
    exact ⟨by simp [Session.isActived, actived], rfl, rfl, rfl⟩
  | true =>
    obtain ⟨_, dropped⟩ := Session.drop_actived reason actived
    rw [dropped]
    exact ⟨rfl, rfl, rfl, rfl⟩

theorem writeLocked_cases :
    ((session.writing = true ∨ session.writeQueue = []) ∧ session.writeLocked = session) ∨
      ∃ buffer writeQueue, session.writing = false ∧ session.writeQueue = buffer :: writeQueue ∧
        (session.writeLocked = { session with
            writing := true, writeQueue, written := session.written ++ [buffer] } ∨
          session.writeLocked.isActived = false ∧ session.writeLocked.writing = true ∧
            session.writeLocked.written = session.written) := by
  unfold Session.writeLocked
  cases busy : session.writing with
  | true => exact .inl ⟨.inl rfl, if_pos rfl⟩
  | false =>
    rw [if_neg (by simp)]
    cases queue : session.writeQueue with
    | nil =>
      refine .inl ⟨.inr rfl, ?_⟩
      cases session
      cases busy
      cases queue
      rfl
    | cons buffer writeQueue =>
      have first := StableQueue.pop_cons Session.queueCompare buffer writeQueue fun _ _ => rfl
      refine .inr ⟨buffer, writeQueue, rfl, rfl, ?_⟩
      simp only [first]
      split
      · split
        · exact .inl rfl
        · obtain ⟨inactive, _, writing, written⟩ :=
            drop_writes { session with writing := true, writeQueue } .tcpError
          exact .inr ⟨inactive, writing, written⟩
      · obtain ⟨inactive, _, writing, written⟩ :=
          drop_writes { session with writing := true, writeQueue } .tcpError
        exact .inr ⟨inactive, writing, written⟩

end Effects

def holders (world : WriteRun) : Nat := world.outstanding + world.threads.count .reset

structure Serial (world : WriteRun) : Prop where
  completed : world.completed ≤ world.session.written.length
  one : world.holders ≤ 1
  held : world.holders = 1 → world.session.writing = true
  holding : world.session.isActived → world.session.writing = true → world.holders = 1
  waiting : world.session.isActived → world.session.writeQueue ≠ [] →
    world.session.writing = true ∨ ∃ point ∈ world.threads, point ≠ .reset
  content : world.session.isActived →
    world.session.written ++ world.session.writeQueue = world.pushed

section Serial

variable {world next : WriteRun} (serial : world.Serial)

include serial

theorem Serial.inactive {session : Session Nat} (inactive : session.isActived = false)
    (written : session.written = world.session.written)
    (writing : session.writing = world.session.writing) :
    Serial { world with session } := by
  have held : holders { world with session } = world.holders := by
    simp only [holders, outstanding, written]
  refine ⟨?_, by rw [held]; exact serial.one, ?_, ?_, ?_, ?_⟩
  · simp only [written]
    exact serial.completed
  · rw [held, writing]
    exact serial.held
  · simp [inactive]
  · simp [inactive]
  · simp [inactive]

theorem Serial.spawn {point : WritePoint} (ahead : point ≠ .reset) : (world.spawn point).Serial := by
  have held : (world.spawn point).holders = world.holders := by
    simp [holders, WriteRun.spawn, outstanding, List.count_append, ahead]
  refine ⟨serial.completed, by rw [held]; exact serial.one, by rw [held]; exact serial.held,
    by rw [held]; exact serial.holding, ?_, serial.content⟩
  intro _ _
  exact .inr ⟨point, List.mem_append_right _ (List.mem_singleton_self _), ahead⟩

/-- A thread that holds nothing goes on or ends. -/
theorem Serial.move {thread : Nat} {before : WritePoint} {threads : List WritePoint}
    (found : world.threads[thread]? = some before) (ahead : before ≠ .reset)
    (moved : (∃ after, after ≠ .reset ∧ threads = world.threads.set thread after) ∨
      world.session.isActived = false ∧ threads = world.threads.eraseIdx thread) :
    Serial { world with threads } := by
  have kept : threads.count .reset = world.threads.count .reset := by
    rw [Places.count_eraseIdx .reset found, if_neg ahead]
    rcases moved with ⟨after, other, rfl⟩ | ⟨_, rfl⟩
    · rw [Places.count_set .reset found, if_neg other]
    · rfl
  have held : holders { world with threads } = world.holders := by
    simp only [holders, outstanding, kept]
  refine ⟨serial.completed, by rw [held]; exact serial.one, by rw [held]; exact serial.held,
    by rw [held]; exact serial.holding, ?_, serial.content⟩
  intro active _
  rcases moved with ⟨after, other, rfl⟩ | ⟨inactive, _⟩
  · obtain ⟨inside, _⟩ := List.getElem?_eq_some_iff.mp found
    exact .inr ⟨after, List.mem_set inside after, other⟩
  · rw [inactive] at active
    cases active

theorem Serial.push (msg : Bytes) (thread : Nat)
    (found : world.threads[thread]? = some (.push msg)) :
    (world.resume thread (.push msg)).Serial := by
  have moved : Serial { world with threads := world.threads.set thread .write } :=
    serial.move found (by simp) (.inl ⟨.write, by simp, rfl⟩)
  obtain ⟨inside, _⟩ := List.getElem?_eq_some_iff.mp found
  refine ⟨moved.completed, moved.one, moved.held, moved.holding, ?_, ?_⟩
  · intro _ _
    exact .inr ⟨.write, List.mem_set inside _, by simp⟩
  · intro active
    show world.session.written ++ (world.session.writeQueue ++ [msg]) = world.pushed ++ [msg]
    rw [← serial.content active, List.append_assoc]

theorem Serial.lock (thread : Nat) (found : world.threads[thread]? = some .lock) :
    (world.resume thread .lock).Serial := by
  have kept : (world.threads.eraseIdx thread).count .reset = world.threads.count .reset := by
    rw [Places.count_eraseIdx .reset found, if_neg (by simp)]
    rfl
  have same : holders (world.finish thread) = world.holders := by
    simp only [holders, outstanding, finish, kept]
  simp only [resume]
  rcases writeLocked_cases world.session with
    ⟨idle, locked⟩ | ⟨buffer, writeQueue, free, queue, locked | ⟨inactive, writing, written⟩⟩
  · rw [locked]
    refine ⟨serial.completed, by rw [same]; exact serial.one, by rw [same]; exact serial.held,
      by rw [same]; exact serial.holding, ?_, serial.content⟩
    intro _ pending
    rcases idle with writing | empty
    · exact .inl writing
    · exact absurd empty pending
  · rw [locked]
    -- nothing held the flag, so this write is the only one
    have none : world.holders ≠ 1 := fun one => by
      rw [serial.held one] at free
      cases free
    have completed := serial.completed
    have one := serial.one
    have count : holders (finish { world with session := { world.session with
        writing := true, writeQueue, written := world.session.written ++ [buffer] } } thread) = 1 := by
      simp only [holders, outstanding, finish, kept, List.length_append, List.length_singleton] at *
      omega
    refine ⟨?_, by rw [count], fun _ => rfl, fun _ _ => count, fun _ _ => .inl rfl, ?_⟩
    · show world.completed ≤ (world.session.written ++ [buffer]).length
      rw [List.length_append]
      omega
    · intro active
      show world.session.written ++ [buffer] ++ writeQueue = world.pushed
      rw [← serial.content active, queue, List.append_assoc]
      rfl
  · have held : holders (finish { world with session := world.session.writeLocked } thread) =
        world.holders := by
      simp only [holders, outstanding, finish, kept, written]
    refine ⟨?_, by rw [held]; exact serial.one, fun _ => writing, ?_, ?_, ?_⟩
    · show world.completed ≤ world.session.writeLocked.written.length
      rw [written]
      exact serial.completed
    · intro active
      exact absurd active (by simp [finish, inactive])
    · intro active
      exact absurd active (by simp [finish, inactive])
    · intro active
      exact absurd active (by simp [finish, inactive])

theorem Serial.reset (thread : Nat) (found : world.threads[thread]? = some .reset) :
    (world.resume thread .reset).Serial := by
  obtain ⟨inside, _⟩ := List.getElem?_eq_some_iff.mp found
  have counted := Places.count_eraseIdx .reset found
  have kept := Places.count_set .reset found .write
  have one := serial.one
  have reset : world.session.resetWriting = { world.session with writing := false } := by
    unfold Session.resetWriting
    split
    · rfl
    · rename_i free
      cases session : world.session
      rw [session] at free
      simp only [Bool.not_eq_true] at free
      subst free
      rfl
  simp only [resume, reset]
  have none : holders (advance { world with session := { world.session with writing := false } }
      thread .write) = 0 := by
    simp only [holders, outstanding, advance] at *
    simp only [reduceCtorEq, if_false, if_true] at kept counted
    omega
  refine ⟨serial.completed, by rw [none]; exact Nat.zero_le 1, ?_, ?_, ?_, serial.content⟩
  · intro held
    rw [none] at held
    cases held
  · intro _ writing
    cases writing
  · intro _ _
    exact .inr ⟨.write, List.mem_set inside _, by simp⟩

theorem Serial.onWrite {ec : Bool} (taken : step world (.onWrite ec) = some next) : next.Serial := by
  simp only [step] at taken
  split at taken
  · rename_i outstanding
    have one := serial.one
    have fewer : holders { world with completed := world.completed + 1 } + 1 = world.holders := by
      simp only [holders, WriteRun.outstanding]
      omega
    have writing := serial.held (by omega)
    have ended (session : Session Nat) (inactive : session.isActived = false)
        (written : session.written = world.session.written) :
        Serial { world with session, completed := world.completed + 1 } := by
      have held : holders { world with session, completed := world.completed + 1 } = 0 := by
        simp only [holders, WriteRun.outstanding, written] at *
        omega
      refine ⟨by simp only [written]; exact outstanding, by rw [held]; exact Nat.zero_le 1, ?_, ?_,
        ?_, ?_⟩
      · intro holds
        rw [held] at holds
        cases holds
      · simp [inactive]
      · simp [inactive]
      · simp [inactive]
    cases active : world.session.isActived with
    | false =>
      simp only [active, Bool.not_false, if_true] at taken
      cases taken
      exact ended world.session active rfl
    | true =>
      simp only [active, Bool.not_true, Bool.false_eq_true, if_false] at taken
      split at taken
      · cases taken
        obtain ⟨inactive, _, _, written⟩ := drop_writes world.session .tcpError
        exact ended _ inactive written
      · cases taken
        -- the thread that will reset the flag takes the place of the write
        have held : holders (WriteRun.spawn { world with completed := world.completed + 1 } .reset) =
            world.holders := by
          simp only [holders, WriteRun.outstanding, WriteRun.spawn, List.count_append,
            List.count_singleton_self] at *
          omega
        refine ⟨outstanding, by rw [held]; exact one, fun _ => writing, ?_, fun _ _ => .inl writing,
          serial.content⟩
        rw [held]
        exact serial.holding
  · cases taken

theorem Serial.step {event : Event} (taken : step world event = some next) : next.Serial := by
  cases event with
  | send msg =>
    simp only [WriteRun.step] at taken
    split at taken
    · cases taken
      exact serial.spawn (by simp)
    · cases taken
      exact serial
  | write =>
    cases taken
    exact serial.spawn (by simp)
  | onWrite ec => exact serial.onWrite taken
  | resume thread =>
    simp only [WriteRun.step] at taken
    split at taken
    · cases taken
    · rename_i point found
      cases taken
      cases point with
      | push msg => exact serial.push msg thread found
      | write =>
        simp only [resume]
        split
        · exact serial.move found (by simp) (.inl ⟨.lock, by simp, rfl⟩)
        · rename_i inactive
          exact serial.move found (by simp) (.inr ⟨by simpa using inactive, rfl⟩)
      | lock => exact serial.lock thread found
      | reset => exact serial.reset thread found
  | drop reason =>
    cases taken
    obtain ⟨inactive, _, writing, written⟩ := drop_writes world.session reason
    exact serial.inactive inactive written writing
  | stopNetwork =>
    cases taken
    exact serial.inactive (by simp [Session.isActived]) rfl rfl
  | closeSocket =>
    cases taken
    exact serial.inactive (by simp [Session.isActived]) rfl rfl

end Serial

structure Initial (world : WriteRun) : Prop where
  writeQueue : world.session.writeQueue = []
  writing : world.session.writing = false
  written : world.session.written = []
  threads : world.threads = []
  pushed : world.pushed = []
  completed : world.completed = 0

theorem Initial.serial {world : WriteRun} (initial : world.Initial) : world.Serial := by
  obtain ⟨queue, writing, written, threads, pushed, completed⟩ := initial
  have held : world.holders = 0 := by simp [holders, outstanding, written, threads]
  refine ⟨by simp [completed], by omega, by omega, ?_, ?_, ?_⟩
  · simp [writing]
  · simp [queue]
  · simp [queue, written, pushed]

structure InOrder (world : WriteRun) : Prop where
  serial : world.outstanding ≤ 1
  handed : world.session.isActived → world.session.written <+: world.pushed
  lossless : world.session.isActived →
    world.session.written ++ world.session.writeQueue = world.pushed
  stalled : world.session.isActived → world.session.writeQueue ≠ [] →
    0 < world.outstanding ∨ ∃ point, point ∈ world.threads

theorem writes_in_order (start last : WriteRun) (events : List Event) (initial : start.Initial)
    (ran : Transition.run step start events = some last) : last.InOrder := by
  have serial : last.Serial :=
    Transition.invariant step (fun _ _ _ serial taken => serial.step taken) initial.serial ran
  have one := serial.one
  refine ⟨by unfold holders at one; omega, ?_, serial.content, ?_⟩
  · intro active
    exact ⟨_, serial.content active⟩
  · intro active pending
    rcases serial.waiting active pending with writing | ⟨point, member, _⟩
    · have holder := serial.holding active writing
      by_cases threads : 0 < last.threads.count .reset
      · exact .inr ⟨.reset, List.count_pos_iff.mp threads⟩
      · unfold holders at holder
        exact .inl (by omega)
    · exact .inr ⟨point, member⟩

def opened : WriteRun := { session := { actived := true } }

/-- Two senders race, and the second write starts from the completion of the first. -/
def racing : List Event :=
  [.send [1], .send [2], .resume 0, .resume 1, .resume 1, .resume 0, .resume 1, .resume 0,
    .onWrite false, .resume 0, .resume 0, .resume 0]

theorem racing_in_order :
    ∃ last, Transition.run step opened racing = some last ∧ last.InOrder ∧
      last.session.written = [[1], [2]] :=
  ⟨_, rfl, writes_in_order opened _ racing ⟨rfl, rfl, rfl, rfl, rfl, rfl⟩ rfl, rfl⟩

end WriteRun

end BcosGateway

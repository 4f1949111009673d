import BcosGateway.Service.Effects

/-! The sessions of a service against all that it has ever created. -/

namespace BcosGateway.Service

variable {φ Key : Type} {service after : Service φ}

def handles (service : Service φ) : Event φ → Option Nat
  | .execute object _ => some object
  | .onDisconnect pending => service.disconnecting[pending]?.map Prod.snd
  | _ => none

inductive Effect (service after : Service φ) : Option Nat → Prop where
  | still (handled : Option Nat) (still : Still service after) : Effect service after handled
  | connects (p2pID : P2pID) (object : Nat) (connects : Connects service after p2pID object) :
    Effect service after none
  | stops (stops : Stops service after) : Effect service after none
  | disconnects (object : Nat) (disconnects : Disconnects service after object) :
    Effect service after (some object)
  | erases (object : Nat) (erases : Erases service after object) :
    Effect service after (some object)

structure Stored (service : Service φ) : Prop where
  named : ∀ p2pID object, service.sessions.lookup p2pID = some object →
    (∃ run, service.entry object = some (p2pID, run)) ∧ p2pID ≠ service.nodeID
  running : ∀ p2pID object, service.entry object = some (p2pID, true) →
    service.sessions.lookup p2pID = some object
  ended : ∀ pending ∈ service.disconnecting,
    ∃ p2pID, service.entry pending.2 = some (p2pID, false)

theorem Stored.still (stored : service.Stored) (still : Still service after) : after.Stored := by
  refine ⟨?_, ?_, ?_⟩
  · intro p2pID object found
    rw [still.sessions] at found
    rw [still.entry, still.nodeID]
    exact stored.named p2pID object found
  · intro p2pID object runs
    rw [still.entry] at runs
    rw [still.sessions]
    exact stored.running p2pID object runs
  · intro pending member
    rw [still.disconnecting] at member
    rw [still.entry]
    exact stored.ended pending member

theorem Stored.connects (stored : service.Stored) {p2pID : P2pID} {object : Nat}
    (connects : Connects service after p2pID object) : after.Stored := by
  have inserted (other : P2pID) := congrArg (AList.lookup other) connects.sessions
  simp only [Table.lookup_insert_if] at inserted
  refine ⟨?_, ?_, ?_⟩
  · intro other found lookup
    rw [inserted] at lookup
    rw [connects.nodeID]
    split at lookup
    · cases lookup
      rename_i same
      rw [connects.entry, if_pos rfl, same]
      exact ⟨⟨true, rfl⟩, connects.foreign⟩
    · obtain ⟨⟨run, named⟩, foreign⟩ := stored.named other found lookup
      exact ⟨⟨run, connects.kept named⟩, foreign⟩
  · intro other found runs
    rw [inserted]
    rw [connects.entry] at runs
    split at runs
    · cases runs
      rename_i same
      rw [if_pos rfl, same]
    · -- a peer that already has a running session is not connected again
      have lookup := stored.running other found runs
      rw [if_neg, lookup]
      rintro rfl
      exact connects.absent (connected_iff.mpr ⟨found, lookup, actived_iff.mpr ⟨_, runs⟩⟩)
  · intro pending member
    rw [connects.disconnecting] at member
    obtain ⟨other, ended⟩ := stored.ended pending member
    exact ⟨other, connects.kept ended⟩

theorem Stored.stops (stored : service.Stored) (stops : Stops service after) : after.Stored := by
  refine ⟨?_, ?_, ?_⟩
  · intro p2pID object found
    rw [stops.sessions] at found
    cases found
  · intro p2pID object runs
    rw [stops.entry] at runs
    split at runs
    · obtain ⟨held, _, same⟩ := Option.map_eq_some_iff.mp runs
      cases same
    · rename_i unstored
      exact absurd (Table.mem_values.mpr ⟨p2pID, stored.running p2pID object runs⟩) unstored
  · intro pending member
    rw [stops.disconnecting] at member
    obtain ⟨p2pID, ended⟩ := stored.ended pending member
    exact ⟨p2pID, stops.ended ended⟩

theorem Stored.disconnects (stored : service.Stored) {object : Nat}
    (disconnects : Disconnects service after object) : after.Stored := by
  obtain ⟨p2pID, run, present, entry⟩ := disconnects.entry
  refine ⟨?_, ?_, disconnects.ended present stored.ended⟩
  · intro other found lookup
    rw [disconnects.sessions] at lookup
    rw [entry, disconnects.nodeID]
    obtain ⟨⟨run, named⟩, foreign⟩ := stored.named other found lookup
    split
    · rename_i same
      rw [← same, present] at named
      cases named
      exact ⟨⟨false, rfl⟩, foreign⟩
    · exact ⟨⟨run, named⟩, foreign⟩
  · intro other found runs
    rw [disconnects.sessions]
    rw [entry] at runs
    split at runs
    · cases runs
    · exact stored.running other found runs

theorem Stored.erases (stored : service.Stored) {object : Nat} (erases : Erases service after object) :
    after.Stored := by
  obtain ⟨e, queued⟩ := erases.queued
  obtain ⟨ended, stopped⟩ := stored.ended (e, object) queued
  refine ⟨?_, ?_, ?_⟩
  · intro other found lookup
    rw [erases.entry, erases.nodeID]
    rcases erases.sessions other with same | ⟨gone, _⟩
    · exact stored.named other found (same ▸ lookup)
    · rw [gone] at lookup
      cases lookup
  · intro other found runs
    rw [erases.entry] at runs
    have lookup := stored.running other found runs
    rcases erases.sessions other with same | ⟨_, held⟩
    · exact same.trans lookup
    · -- the session that is erased has been stopped before
      rw [lookup] at held
      cases held
      rw [stopped] at runs
      cases runs
  · intro pending member
    rw [erases.entry]
    exact stored.ended pending (erases.disconnecting pending member)

structure Fresh (service : Service φ) : Prop where
  sessions : service.sessions = ∅
  p2pSessions : service.p2pSessions = []
  disconnecting : service.disconnecting = []

theorem Fresh.stored (fresh : service.Fresh) : service.Stored := by
  refine ⟨?_, ?_, ?_⟩
  · intro p2pID object found
    rw [fresh.sessions] at found
    cases found
  · intro p2pID object runs
    unfold entry at runs
    rw [fresh.p2pSessions] at runs
    cases runs
  · intro pending member
    rw [fresh.disconnecting] at member
    cases member

structure OneRunning (service : Service φ) : Prop where
  keyed : ∀ p2pID object, service.sessions.lookup p2pID = some object →
    (∃ run, service.entry object = some (p2pID, run)) ∧ p2pID ≠ service.nodeID
  stored : ∀ p2pID object, service.entry object = some (p2pID, true) →
    service.sessions.lookup p2pID = some object
  single : ∀ p2pID first second, service.entry first = some (p2pID, true) →
    service.entry second = some (p2pID, true) → first = second

theorem Stored.oneRunning (stored : service.Stored) : service.OneRunning := by
  refine ⟨stored.named, stored.running, fun p2pID first second runs runsToo => ?_⟩
  have held := stored.running p2pID first runs
  rw [stored.running p2pID second runsToo] at held
  exact (Option.some.inj held).symm

section Runs

variable [DecidableEq φ] (env : Environment Key)

theorem step_effect {event : Event φ} (taken : step env service event = some after) :
    Effect service after (handles service event) := by
  cases step_outcome env taken with
  | still event still keeps => exact .still _ still
  | connects e p2pID endpoint session connects keeps => exact .connects p2pID _ connects
  | stops run stops keeps => exact .stops stops
  | executes object task p2pSession started present found handled =>
    have dequeued : Still service (service.dequeue object task) :=
      (dequeued service object task).still rfl
    cases handled with
    | still still keeps => exact .still _ (dequeued.trans still)
    | receives announced alive still others => exact .still _ (dequeued.trans still)
    | disconnects disconnects removed => exact .disconnects object (dequeued.disconnects disconnects)
  | erases pending e object found erases keeps =>
    have handled : handles service (.onDisconnect pending : Event φ) = some object :=
      congrArg (Option.map Prod.snd) found
    rw [handled]
    exact .erases object erases

theorem step_nodeID {event : Event φ} (taken : Service.step env service event = some after) :
    after.nodeID = service.nodeID := by
  have effect := step_effect env taken
  generalize handles service event = handled at effect
  cases effect with
  | still _ still => exact still.nodeID
  | connects _ _ connects => exact connects.nodeID
  | stops stops => exact stops.nodeID
  | disconnects _ disconnects => exact disconnects.nodeID
  | erases _ erases => exact erases.nodeID

theorem Stored.step (stored : service.Stored) {event : Event φ}
    (taken : Service.step env service event = some after) : after.Stored := by
  have effect := step_effect env taken
  generalize handles service event = handled at effect
  cases effect with
  | still _ still => exact stored.still still
  | connects p2pID object connects => exact stored.connects connects
  | stops stops => exact stored.stops stops
  | disconnects object disconnects => exact stored.disconnects disconnects
  | erases object erases => exact stored.erases erases

theorem handles_others {event : Event φ} {older newer : Nat}
    (taken : Service.step env service event = some after)
    (handled : handles service event = some older) (other : newer ≠ older) :
    after.entry newer = service.entry newer ∧
      ∀ p2pID, service.sessions.lookup p2pID = some newer →
        after.sessions.lookup p2pID = some newer := by
  have effect := step_effect env taken
  rw [handled] at effect
  cases effect with
  | still _ still =>
    exact ⟨still.entry newer, fun p2pID held => by rw [still.sessions, held]⟩
  | disconnects _ disconnects =>
    obtain ⟨p2pID, run, _, entry⟩ := disconnects.entry
    refine ⟨?_, fun p2pID held => by rw [disconnects.sessions, held]⟩
    rw [entry, if_neg (Ne.symm other)]
  | erases _ erases =>
    refine ⟨erases.entry newer, fun p2pID held => ?_⟩
    rcases erases.sessions p2pID with same | ⟨_, removed⟩
    · exact same.trans held
    · rw [held] at removed
      cases removed
      exact absurd rfl other

/-- In every run one session runs for a peer, and what is done to a session that ends touches no
    other. -/
theorem oneRunning_reachable (fresh : Service φ) (events : List (Event φ)) {last : Service φ}
    (initial : fresh.Fresh) (ran : Transition.run (step env) fresh events = some last) :
    last.OneRunning ∧ ∀ event next older newer, step env last event = some next →
      handles last event = some older → newer ≠ older →
        next.entry newer = last.entry newer ∧
          ∀ p2pID, last.sessions.lookup p2pID = some newer →
            next.sessions.lookup p2pID = some newer := by
  have stored : last.Stored := Transition.invariant (step env)
    (fun _ _ _ stored taken => stored.step env taken) initial.stored ran
  exact ⟨stored.oneRunning, fun _ _ _ _ taken handled other =>
    handles_others env taken handled other⟩

end Runs

/-- A duplicate is refused, the first session ends, the peer connects again, and only then is the
    disconnect of the first session handled. -/
def redialled : List (Event Nat) :=
  [.onConnect Session.success [112] { address := "127.0.0.1", port := 30300 } {},
    .onConnect Session.success [112] { address := "127.0.0.1", port := 30301 } {},
    .session 0 (.drop .tcpError), .execute 0 0,
    .onConnect Session.success [112] { address := "127.0.0.1", port := 30301 } {}]

theorem redialled_oneRunning :
    ∃ last next, Transition.run (step (Environment.reading .null)) ({} : Service Nat) redialled =
        some last ∧
      last.OneRunning ∧
      step (Environment.reading .null) last (.onDisconnect 0) = some next ∧
      next.entry 1 = some ([112], true) ∧ next.sessions.lookup [112] = some 1 := by
  obtain ⟨last, ran, entry, held, handled⟩ : ∃ last,
      Transition.run (step (Environment.reading .null)) ({} : Service Nat) redialled = some last ∧
        last.entry 1 = some ([112], true) ∧ last.sessions.lookup [112] = some 1 ∧
        handles last (.onDisconnect 0) = some 0 := ⟨_, rfl, rfl, rfl, rfl⟩
  obtain ⟨one, untouched⟩ := oneRunning_reachable (Environment.reading .null) {} redialled
    ⟨rfl, rfl, rfl⟩ ran
  obtain ⟨next, taken⟩ :
      ∃ next, step (Environment.reading .null) last (.onDisconnect 0) = some next := by
    cases ran
    exact ⟨_, rfl⟩
  obtain ⟨same, kept⟩ := untouched _ next 0 1 taken handled (by decide)
  exact ⟨last, next, ran, one, taken, same.trans entry, kept [112] held⟩

end BcosGateway.Service

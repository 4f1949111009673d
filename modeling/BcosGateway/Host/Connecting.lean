import BcosGateway.Lib.Transition
import BcosGateway.Service.Basic

/-! The connection attempts of a host, and the set that is to keep it from making two at a time to
one endpoint. -/

namespace BcosGateway.Host

inductive Stage where
  | resolving | connecting | handshaking | ended
  deriving DecidableEq, Repr

/-- `expired` is a timer whose handler is queued: a cancel comes too late for it. -/
inductive ConnectTimer where
  | armed | expired | finished
  deriving DecidableEq, Repr

/-- A call of `asyncConnect` from its `newSocket` on: what its callbacks hold. `isConnected` tells
    whether the socket is open. -/
structure Attempt where
  nodeIPEndpoint : NodeIPEndpoint
  stage : Stage := .resolving
  isConnected : Bool := false
  connectTimer : ConnectTimer := .armed
  deriving DecidableEq, Repr

structure Connecting where
  pendingConns : KeySet NodeIPEndpoint := ∅
  /-- The endpoints of the calls that have passed the test and done nothing further. -/
  passed : List NodeIPEndpoint := []
  attempts : List Attempt := []

def erasePendingConns (endpoint : NodeIPEndpoint) (pendingConns : KeySet NodeIPEndpoint) :
    KeySet NodeIPEndpoint :=
  if endpoint ∈ pendingConns then pendingConns.erase endpoint else pendingConns

def insertPendingConns (endpoint : NodeIPEndpoint) (pendingConns : KeySet NodeIPEndpoint) :
    KeySet NodeIPEndpoint :=
  if endpoint ∈ pendingConns then pendingConns else pendingConns.insert endpoint ()

namespace Connecting

variable (state : Connecting)

/-- The start of `asyncConnect`; `run` is what it reads of `m_run`. -/
def asyncConnect (run : Bool) (endpoint : NodeIPEndpoint) : Connecting :=
  if !run then state
  else if endpoint ∈ state.pendingConns then state
  else { state with passed := state.passed ++ [endpoint] }

def begin (place : Nat) : Option Connecting :=
  match state.passed[place]? with
  | none => none
  | some nodeIPEndpoint => some { state with
      passed := state.passed.eraseIdx place
      attempts := state.attempts ++ [{ nodeIPEndpoint }] }

end Connecting

/-! The callbacks of an attempt. Each returns the attempt and `m_pendingConns`, or `none` where it
is not due. -/

namespace Attempt

variable (attempt : Attempt) (pendingConns : KeySet NodeIPEndpoint)

/-- The handler of `async_resolve`. It starts the TCP connect, which opens the socket if it can;
    when the name is not found it calls nobody. -/
def onResolve (found opened : Bool) : Option (Attempt × KeySet NodeIPEndpoint) :=
  if attempt.stage = .resolving then
    if found then
      some ({ attempt with stage := .connecting, isConnected := opened }, pendingConns)
    else some ({ attempt with stage := .ended }, pendingConns)
  else none

/-- The handler of `async_connect`. The connect may have succeeded before the timer closed the
    socket. -/
def onConnect (ec : Bool) : Option (Attempt × KeySet NodeIPEndpoint) :=
  if attempt.stage = .connecting then
    if ec then some ({ attempt with stage := .ended, isConnected := false }, pendingConns)
    else
      some ({ attempt with stage := .handshaking },
        insertPendingConns attempt.nodeIPEndpoint pendingConns)
  else none

def handshakeClient (error noKey : Bool) : Option (Attempt × KeySet NodeIPEndpoint) :=
  if attempt.stage = .handshaking then
    let connectTimer :=
      if attempt.connectTimer = .armed then .finished else attempt.connectTimer
    some ({ attempt with
        stage := .ended
        connectTimer
        isConnected := attempt.isConnected && !error && !noKey },
      erasePendingConns attempt.nodeIPEndpoint pendingConns)
  else none

def expire : Option (Attempt × KeySet NodeIPEndpoint) :=
  if attempt.connectTimer = .armed then
    some ({ attempt with connectTimer := .expired }, pendingConns)
  else none

def onTimer : Option (Attempt × KeySet NodeIPEndpoint) :=
  if attempt.connectTimer = .expired then
    if attempt.isConnected then
      some ({ attempt with connectTimer := .finished, isConnected := false },
        erasePendingConns attempt.nodeIPEndpoint pendingConns)
    else some ({ attempt with connectTimer := .finished }, pendingConns)
  else none

def closeSocket : Option (Attempt × KeySet NodeIPEndpoint) :=
  if attempt.stage = .ended then some ({ attempt with isConnected := false }, pendingConns)
  else none

end Attempt

inductive Callback where
  | onResolve (found opened : Bool)
  | onConnect (ec : Bool)
  | handshakeClient (error noKey : Bool)
  | expire
  | onTimer
  | closeSocket
  deriving DecidableEq, Repr

def Callback.call (attempt : Attempt) (pendingConns : KeySet NodeIPEndpoint) :
    Callback → Option (Attempt × KeySet NodeIPEndpoint)
  | .onResolve found opened => attempt.onResolve pendingConns found opened
  | .onConnect ec => attempt.onConnect pendingConns ec
  | .handshakeClient error noKey => attempt.handshakeClient pendingConns error noKey
  | .expire => attempt.expire pendingConns
  | .onTimer => attempt.onTimer pendingConns
  | .closeSocket => attempt.closeSocket pendingConns

inductive ConnectEvent where
  | asyncConnect (run : Bool) (endpoint : NodeIPEndpoint)
  | begin (place : Nat)
  | callback (place : Nat) (callback : Callback)
  deriving DecidableEq, Repr

namespace Connecting

def callback (state : Connecting) (place : Nat) (callback : Callback) : Option Connecting :=
  match state.attempts[place]? with
  | none => none
  | some attempt =>
    match callback.call attempt state.pendingConns with
    | none => none
    | some (attempt, pendingConns) =>
      some { state with pendingConns, attempts := state.attempts.set place attempt }

def step (state : Connecting) : ConnectEvent → Option Connecting
  | .asyncConnect run endpoint => some (state.asyncConnect run endpoint)
  | .begin place => state.begin place
  | .callback place callback => state.callback place callback

end Connecting

def Attempt.InProgress (attempt : Attempt) : Prop :=
  attempt.stage = .connecting ∨ attempt.stage = .handshaking

instance (attempt : Attempt) : Decidable attempt.InProgress :=
  inferInstanceAs (Decidable (_ ∨ _))

theorem not_inProgress {attempt : Attempt}
    (idle : attempt.stage = .resolving ∨ attempt.stage = .ended) : ¬ attempt.InProgress := by
  unfold Attempt.InProgress
  rcases idle with stage | stage
  · simp [stage]
  · simp [stage]

namespace Connecting

variable (state : Connecting)

def Has (holds : Attempt → Prop) (endpoint : NodeIPEndpoint) : Prop :=
  ∃ attempt ∈ state.attempts, attempt.nodeIPEndpoint = endpoint ∧ holds attempt

def Alone : Prop :=
  ∀ (first second : Nat) (left right : Attempt), state.attempts[first]? = some left →
    state.attempts[second]? = some right → left.InProgress → right.InProgress →
    left.nodeIPEndpoint = right.nodeIPEndpoint → first = second

def MarksInProgress : Prop :=
  ∀ endpoint, endpoint ∈ state.pendingConns ↔ state.Has Attempt.InProgress endpoint

def MarksHandshaking : Prop :=
  ∀ endpoint, endpoint ∈ state.pendingConns ↔ state.Has (·.stage = .handshaking) endpoint

def NoneStarts : ConnectEvent → Prop
  | .callback _ (.onResolve true _) => False
  | _ => True

/-- A TCP connect starts when no attempt to its endpoint is in progress, and a timer does not find
    its socket open while an attempt to its endpoint is in its handshake. -/
def Apart : ConnectEvent → Prop
  | .callback place (.onResolve true _) => ∀ attempt, state.attempts[place]? = some attempt →
      ¬ state.Has Attempt.InProgress attempt.nodeIPEndpoint
  | .callback place .onTimer => ∀ attempt, state.attempts[place]? = some attempt →
      attempt.isConnected = true → ¬ state.Has (·.stage = .handshaking) attempt.nodeIPEndpoint
  | _ => True

theorem mem_insertPendingConns {endpoint other : NodeIPEndpoint}
    {pendingConns : KeySet NodeIPEndpoint} :
    other ∈ insertPendingConns endpoint pendingConns ↔ other = endpoint ∨ other ∈ pendingConns := by
  unfold insertPendingConns
  split
  · rename_i present
    exact ⟨.inr, fun member => member.elim (fun same => same ▸ present) id⟩
  · exact AList.mem_insert pendingConns

theorem mem_erasePendingConns {endpoint other : NodeIPEndpoint}
    {pendingConns : KeySet NodeIPEndpoint} :
    other ∈ erasePendingConns endpoint pendingConns ↔ other ≠ endpoint ∧ other ∈ pendingConns := by
  unfold erasePendingConns
  split
  · exact AList.mem_erase
  · rename_i absent
    exact ⟨fun member => ⟨fun same => absent (same ▸ member), member⟩, And.right⟩

/-! The attempts to an endpoint other than the one at a place. -/

def Others (place : Nat) (holds : Attempt → Prop) (endpoint : NodeIPEndpoint) : Prop :=
  ∃ (other : Nat) (attempt : Attempt), other ≠ place ∧ state.attempts[other]? = some attempt ∧
    attempt.nodeIPEndpoint = endpoint ∧ holds attempt

def changed (place : Nat) (after : Attempt) (pendingConns : KeySet NodeIPEndpoint) : Connecting :=
  { state with pendingConns, attempts := state.attempts.set place after }

section Place

variable {state} {place : Nat} {attempt : Attempt}
  (found : state.attempts[place]? = some attempt)

include found

theorem has_iff (holds : Attempt → Prop) (endpoint : NodeIPEndpoint) :
    state.Has holds endpoint ↔
      (attempt.nodeIPEndpoint = endpoint ∧ holds attempt) ∨ state.Others place holds endpoint := by
  constructor
  · rintro ⟨other, member, same, held⟩
    obtain ⟨index, stored⟩ := List.mem_iff_getElem?.mp member
    by_cases here : index = place
    · subst here
      rw [found] at stored
      cases stored
      exact .inl ⟨same, held⟩
    · exact .inr ⟨index, other, here, stored, same, held⟩
  · rintro (⟨same, held⟩ | ⟨index, other, _, stored, same, held⟩)
    · exact ⟨attempt, List.mem_of_getElem? found, same, held⟩
    · exact ⟨other, List.mem_of_getElem? stored, same, held⟩

variable (after : Attempt) (pendingConns : KeySet NodeIPEndpoint)

theorem attempts_changed (other : Nat) :
    (state.changed place after pendingConns).attempts[other]? =
      if other = place then some after else state.attempts[other]? := by
  obtain ⟨inside, _⟩ := List.getElem?_eq_some_iff.mp found
  rw [changed, List.getElem?_set]
  by_cases same : place = other
  · rw [if_pos same, if_pos same.symm, if_pos inside]
  · rw [if_neg same, if_neg fun eq => same eq.symm]

theorem others_changed (holds : Attempt → Prop) (endpoint : NodeIPEndpoint) :
    (state.changed place after pendingConns).Others place holds endpoint ↔
      state.Others place holds endpoint := by
  unfold Others
  simp only [attempts_changed found]
  constructor
  · rintro ⟨other, attempt, apart, stored, rest⟩
    rw [if_neg apart] at stored
    exact ⟨other, attempt, apart, stored, rest⟩
  · rintro ⟨other, attempt, apart, stored, rest⟩
    exact ⟨other, attempt, apart, (if_neg apart).trans stored, rest⟩

theorem has_changed (holds : Attempt → Prop) (endpoint : NodeIPEndpoint) :
    (state.changed place after pendingConns).Has holds endpoint ↔
      (after.nodeIPEndpoint = endpoint ∧ holds after) ∨ state.Others place holds endpoint := by
  have here : (state.changed place after pendingConns).attempts[place]? = some after :=
    (attempts_changed found after pendingConns place).trans (if_pos rfl)
  rw [has_iff here, others_changed found]

omit found in
/-- No other attempt to the endpoint is in progress. -/
theorem Alone.others (alone : state.Alone) (found : state.attempts[place]? = some attempt)
    (progress : attempt.InProgress) :
    ¬ state.Others place Attempt.InProgress attempt.nodeIPEndpoint := by
  rintro ⟨other, rival, apart, stored, same, rivalling⟩
  exact apart (alone other place rival attempt stored found rivalling progress same)

theorem alone_changed_iff (alone : state.Alone)
    (same : after.nodeIPEndpoint = attempt.nodeIPEndpoint) :
    (state.changed place after pendingConns).Alone ↔
      (after.InProgress → ¬ state.Others place Attempt.InProgress attempt.nodeIPEndpoint) := by
  have lookup := attempts_changed found after pendingConns
  constructor
  · intro changed progress others
    have here : (state.changed place after pendingConns).attempts[place]? = some after :=
      (lookup place).trans (if_pos rfl)
    have others' := (others_changed found after pendingConns _ _).mpr others
    exact changed.others here progress (same ▸ others')
  · intro none first second left right stored stored' progress progress' equal
    rw [lookup] at stored stored'
    by_cases here : first = place
    · by_cases there : second = place
      · exact here.trans there.symm
      · rw [if_pos here] at stored
        rw [if_neg there] at stored'
        cases stored
        exact absurd ⟨second, right, there, stored', equal.symm.trans same, progress'⟩ (none progress)
    · rw [if_neg here] at stored
      by_cases there : second = place
      · rw [if_pos there] at stored'
        cases stored'
        exact absurd ⟨first, left, here, stored, equal.trans same, progress⟩ (none progress')
      · rw [if_neg there] at stored'
        exact alone first second left right stored stored' progress progress' equal

end Place

end Connecting

inductive Effect (attempt : Attempt) (pendingConns : KeySet NodeIPEndpoint) :
    Callback → Attempt → KeySet NodeIPEndpoint → Prop where
  | quiet {callback : Callback} {after : Attempt}
      (starts : ∀ opened, callback ≠ .onResolve true opened)
      (timer : callback = .onTimer → attempt.isConnected = false)
      (handshake : after.stage = .handshaking ↔ attempt.stage = .handshaking)
      (progress : after.InProgress → attempt.InProgress) :
      Effect attempt pendingConns callback after pendingConns
  | starts {opened : Bool} {after : Attempt} (before : attempt.stage = .resolving)
      (stage : after.stage = .connecting) :
      Effect attempt pendingConns (.onResolve true opened) after pendingConns
  | connects {after : Attempt} (before : attempt.stage = .connecting)
      (stage : after.stage = .handshaking) :
      Effect attempt pendingConns (.onConnect false) after
        (insertPendingConns attempt.nodeIPEndpoint pendingConns)
  | ends {error noKey : Bool} {after : Attempt} (before : attempt.stage = .handshaking)
      (stage : after.stage = .ended) :
      Effect attempt pendingConns (.handshakeClient error noKey) after
        (erasePendingConns attempt.nodeIPEndpoint pendingConns)
  | timesOut {after : Attempt} (isConnected : attempt.isConnected = true)
      (stage : after.stage = attempt.stage) :
      Effect attempt pendingConns .onTimer after
        (erasePendingConns attempt.nodeIPEndpoint pendingConns)

section Effects

variable {attempt after : Attempt} {pendingConns left : KeySet NodeIPEndpoint}

theorem onResolve_effect {found opened : Bool}
    (called : attempt.onResolve pendingConns found opened = some (after, left)) :
    after.nodeIPEndpoint = attempt.nodeIPEndpoint ∧
      Effect attempt pendingConns (.onResolve found opened) after left := by
  unfold Attempt.onResolve at called
  split at called
  · rename_i resolving
    cases found with
    | true =>
      cases called
      exact ⟨rfl, .starts resolving rfl⟩
    | false =>
      cases called
      have ended : ¬ ({ attempt with stage := .ended } : Attempt).InProgress :=
        not_inProgress (.inr rfl)
      refine ⟨rfl, .quiet nofun nofun ?_ fun progress => absurd progress ended⟩
      rw [resolving]
      exact ⟨nofun, nofun⟩
  · cases called

theorem onConnect_effect {ec : Bool}
    (called : attempt.onConnect pendingConns ec = some (after, left)) :
    after.nodeIPEndpoint = attempt.nodeIPEndpoint ∧
      Effect attempt pendingConns (.onConnect ec) after left := by
  unfold Attempt.onConnect at called
  split at called
  · rename_i connecting
    cases ec with
    | true =>
      cases called
      refine ⟨rfl, .quiet nofun nofun ?_ fun _ => .inl connecting⟩
      rw [connecting]
      exact ⟨nofun, nofun⟩
    | false =>
      cases called
      exact ⟨rfl, .connects connecting rfl⟩
  · cases called

theorem handshakeClient_effect {error noKey : Bool}
    (called : attempt.handshakeClient pendingConns error noKey = some (after, left)) :
    after.nodeIPEndpoint = attempt.nodeIPEndpoint ∧
      Effect attempt pendingConns (.handshakeClient error noKey) after left := by
  unfold Attempt.handshakeClient at called
  split at called
  · rename_i handshaking
    cases called
    exact ⟨rfl, .ends handshaking rfl⟩
  · cases called

theorem expire_effect (called : attempt.expire pendingConns = some (after, left)) :
    after.nodeIPEndpoint = attempt.nodeIPEndpoint ∧
      Effect attempt pendingConns .expire after left := by
  unfold Attempt.expire at called
  split at called
  · cases called
    exact ⟨rfl, .quiet nofun nofun Iff.rfl id⟩
  · cases called

theorem onTimer_effect (called : attempt.onTimer pendingConns = some (after, left)) :
    after.nodeIPEndpoint = attempt.nodeIPEndpoint ∧
      Effect attempt pendingConns .onTimer after left := by
  unfold Attempt.onTimer at called
  split at called
  · split at called
    · rename_i open_
      cases called
      exact ⟨rfl, .timesOut open_ rfl⟩
    · rename_i closed
      cases called
      exact ⟨rfl, .quiet nofun (fun _ => Bool.eq_false_iff.mpr closed) Iff.rfl id⟩
  · cases called

theorem closeSocket_effect (called : attempt.closeSocket pendingConns = some (after, left)) :
    after.nodeIPEndpoint = attempt.nodeIPEndpoint ∧
      Effect attempt pendingConns .closeSocket after left := by
  unfold Attempt.closeSocket at called
  split at called
  · cases called
    exact ⟨rfl, .quiet nofun nofun Iff.rfl id⟩
  · cases called

theorem call_effect {callback : Callback}
    (called : callback.call attempt pendingConns = some (after, left)) :
    after.nodeIPEndpoint = attempt.nodeIPEndpoint ∧
      Effect attempt pendingConns callback after left := by
  cases callback with
  | onResolve found opened => exact onResolve_effect called
  | onConnect ec => exact onConnect_effect called
  | handshakeClient error noKey => exact handshakeClient_effect called
  | expire => exact expire_effect called
  | onTimer => exact onTimer_effect called
  | closeSocket => exact closeSocket_effect called

end Effects

namespace Connecting

theorem callback_changed {state next : Connecting} {place : Nat} {callback : Callback}
    (taken : state.callback place callback = some next) :
    ∃ attempt after left, state.attempts[place]? = some attempt ∧
      after.nodeIPEndpoint = attempt.nodeIPEndpoint ∧
      Effect attempt state.pendingConns callback after left ∧
      next = state.changed place after left := by
  unfold Connecting.callback at taken
  split at taken
  · cases taken
  · rename_i attempt found
    split at taken
    · cases taken
    · rename_i after left called
      cases taken
      obtain ⟨same, effect⟩ := call_effect called
      exact ⟨attempt, after, left, found, same, effect, rfl⟩

section Sound

variable {state next : Connecting}

theorem marks_changed_iff {place : Nat} {attempt after : Attempt}
    {left : KeySet NodeIPEndpoint} (found : state.attempts[place]? = some attempt)
    (same : after.nodeIPEndpoint = attempt.nodeIPEndpoint) :
    (state.changed place after left).MarksHandshaking ↔
      ∀ endpoint, endpoint ∈ left ↔
        (attempt.nodeIPEndpoint = endpoint ∧ after.stage = .handshaking) ∨
          state.Others place (·.stage = .handshaking) endpoint := by
  unfold MarksHandshaking
  simp only [has_changed found, same]
  rfl

theorem apart_of_quiet {place : Nat} {attempt : Attempt} {callback : Callback}
    (found : state.attempts[place]? = some attempt)
    (starts : ∀ opened, callback ≠ .onResolve true opened)
    (timer : callback = .onTimer → attempt.isConnected = false) :
    state.Apart (.callback place callback) := by
  unfold Apart
  split
  · rename_i event
    cases event
    exact absurd rfl (starts _)
  · rename_i event
    cases event
    intro other stored isConnected
    rw [found] at stored
    cases stored
    rw [timer rfl] at isConnected
    cases isConnected
  · trivial

theorem MarksHandshaking.mem_iff (marks : state.MarksHandshaking) {place : Nat}
    {attempt : Attempt} (found : state.attempts[place]? = some attempt) (endpoint : NodeIPEndpoint) :
    endpoint ∈ state.pendingConns ↔
      (attempt.nodeIPEndpoint = endpoint ∧ attempt.stage = .handshaking) ∨
        state.Others place (·.stage = .handshaking) endpoint :=
  (marks endpoint).trans (has_iff found _ endpoint)

/-- The mark of an endpoint whose attempt is in progress is that attempt's own. -/
theorem Alone.unmarked (alone : state.Alone) {place : Nat} {attempt : Attempt}
    (found : state.attempts[place]? = some attempt) (progress : attempt.InProgress) :
    ¬ state.Others place (·.stage = .handshaking) attempt.nodeIPEndpoint := by
  rintro ⟨other, rival, elsewhere, stored, equal, stage⟩
  exact alone.others found progress ⟨other, rival, elsewhere, stored, equal, .inr stage⟩

/-- Whether a callback keeps the attempts to an endpoint apart and marks the ones that are in their
    handshakes. -/
theorem callback_iff {place : Nat} {callback : Callback} (alone : state.Alone)
    (marks : state.MarksHandshaking) (taken : state.callback place callback = some next) :
    next.Alone ∧ next.MarksHandshaking ↔ state.Apart (.callback place callback) := by
  obtain ⟨attempt, after, left, found, same, effect, rfl⟩ := callback_changed taken
  rw [alone_changed_iff found after left alone same, marks_changed_iff found same]
  have marked := marks.mem_iff found
  have apart (progress : attempt.InProgress) := alone.others found progress
  cases effect with
  | quiet starts timer handshake progress =>
    refine iff_of_true ⟨fun progressing => apart (progress progressing), fun endpoint => ?_⟩
      (apart_of_quiet found starts timer)
    rw [handshake]
    exact marked endpoint
  | starts before stage =>
    have idle : ¬ attempt.InProgress := not_inProgress (.inl before)
    have has := has_iff found Attempt.InProgress attempt.nodeIPEndpoint
    constructor
    · rintro ⟨none, _⟩ other stored held
      rw [found] at stored
      cases stored
      exact (has.mp held).elim (fun own => idle own.2) (none (.inl stage))
    · intro none
      refine ⟨fun _ others => none attempt found (has.mpr (.inr others)), fun endpoint => ?_⟩
      rw [marked, before, stage]
      simp
  | connects before stage =>
    refine iff_of_true ⟨fun _ => apart (.inl before), fun endpoint => ?_⟩ trivial
    rw [mem_insertPendingConns, marked, before, stage]
    simp [eq_comm]
  | ends before stage =>
    have rested : ¬ after.InProgress := not_inProgress (.inr stage)
    refine iff_of_true ⟨fun progress => absurd progress rested, fun endpoint => ?_⟩ trivial
    rw [mem_erasePendingConns, marked, before, stage]
    by_cases here : attempt.nodeIPEndpoint = endpoint
    · subst here
      simp [alone.unmarked found (.inr before)]
    · simp [here, Ne.symm here]
  | timesOut isConnected stage =>
    have has := has_iff found (·.stage = .handshaking) attempt.nodeIPEndpoint
    constructor
    · rintro ⟨_, marks⟩ other stored _ held
      rw [found] at stored
      cases stored
      have erased := (marks attempt.nodeIPEndpoint).mpr (by rw [stage]; exact has.mp held)
      exact (mem_erasePendingConns.mp erased).1 rfl
    · intro none
      have unheld := none attempt found isConnected
      refine ⟨fun progress => apart ?_, fun endpoint => ?_⟩
      · rwa [Attempt.InProgress, stage] at progress
      · rw [mem_erasePendingConns, marked, stage]
        by_cases here : endpoint = attempt.nodeIPEndpoint
        · subst here
          exact iff_of_false (fun erased => erased.1 rfl) fun held => unheld (has.mpr held)
        · exact and_iff_right here

theorem begin_sound {place : Nat} (alone : state.Alone) (marks : state.MarksHandshaking)
    (taken : state.begin place = some next) : next.Alone ∧ next.MarksHandshaking := by
  unfold begin at taken
  split at taken
  · cases taken
  · rename_i endpoint _
    cases taken
    have idle : ¬ ({ nodeIPEndpoint := endpoint } : Attempt).InProgress := not_inProgress (.inl rfl)
    have older {other : Nat} {attempt : Attempt}
        (stored : (state.attempts ++ [{ nodeIPEndpoint := endpoint }])[other]? = some attempt)
        (progress : attempt.InProgress) : state.attempts[other]? = some attempt := by
      rw [List.getElem?_append] at stored
      split at stored
      · exact stored
      · obtain rfl := List.mem_singleton.mp (List.mem_of_getElem? stored)
        exact absurd progress idle
    constructor
    · intro first second left right stored stored' progress progress'
      exact alone first second left right (older stored progress) (older stored' progress') progress
        progress'
    · intro other
      refine (marks other).trans ?_
      constructor
      · rintro ⟨attempt, member, rest⟩
        exact ⟨attempt, List.mem_append_left _ member, rest⟩
      · rintro ⟨attempt, member, same, stage⟩
        rcases List.mem_append.mp member with member | fresh
        · exact ⟨attempt, member, same, stage⟩
        · obtain rfl := List.mem_singleton.mp fresh
          cases stage

theorem step_iff {event : ConnectEvent} (alone : state.Alone) (marks : state.MarksHandshaking)
    (taken : state.step event = some next) :
    next.Alone ∧ next.MarksHandshaking ↔ state.Apart event := by
  cases event with
  | asyncConnect run endpoint =>
    simp only [step, asyncConnect, Option.some.injEq] at taken
    subst taken
    refine iff_of_true ?_ trivial
    split
    · exact ⟨alone, marks⟩
    · split
      · exact ⟨alone, marks⟩
      · exact ⟨alone, marks⟩
  | begin place => exact iff_of_true (begin_sound alone marks taken) trivial
  | callback place callback => exact callback_iff alone marks taken

end Sound

def Idle (state : Connecting) : Prop :=
  (∀ endpoint, endpoint ∉ state.pendingConns) ∧ ∀ attempt ∈ state.attempts, ¬ attempt.InProgress

section Idle

variable {state next : Connecting}

theorem Idle.marks (idle : state.Idle) : state.Alone ∧ state.MarksInProgress := by
  constructor
  · intro first second left right stored _ progress
    exact absurd progress (idle.2 left (List.mem_of_getElem? stored))
  · intro endpoint
    refine iff_of_false (idle.1 endpoint) ?_
    rintro ⟨attempt, member, _, progress⟩
    exact idle.2 attempt member progress

/-- The first TCP connect that starts finds no mark, and sets none. -/
theorem Idle.callback {place : Nat} {callback : Callback} (idle : state.Idle)
    (taken : state.callback place callback = some next) :
    next.Idle ∧ NoneStarts (.callback place callback) ∨
      ¬ next.MarksInProgress ∧ ¬ NoneStarts (.callback place callback) := by
  obtain ⟨attempt, after, left, found, same, effect, rfl⟩ := callback_changed taken
  have resting := idle.2 attempt (List.mem_of_getElem? found)
  have kept (unmarked : ∀ endpoint, endpoint ∉ left) (rest : ¬ after.InProgress) :
      (state.changed place after left).Idle := by
    refine ⟨unmarked, fun other member => ?_⟩
    rcases List.mem_or_eq_of_mem_set member with old | rfl
    · exact idle.2 other old
    · exact rest
  cases effect with
  | quiet starts timer handshake progress =>
    refine .inl ⟨kept idle.1 fun rest => resting (progress rest), ?_⟩
    unfold NoneStarts
    split
    · rename_i event
      cases event
      exact starts _ rfl
    · trivial
  | starts before stage =>
    refine .inr ⟨fun marks => idle.1 attempt.nodeIPEndpoint ?_, id⟩
    exact (marks attempt.nodeIPEndpoint).mpr
      ((has_changed found after state.pendingConns _ _).mpr (.inl ⟨same, .inl stage⟩))
  | connects before stage => exact absurd (.inl before) resting
  | ends before stage => exact absurd (.inr before) resting
  | timesOut isConnected stage =>
    refine .inl ⟨kept (fun endpoint marked => ?_) fun progress => resting ?_, trivial⟩
    · exact idle.1 endpoint (mem_erasePendingConns.mp marked).2
    · rwa [Attempt.InProgress, stage] at progress

theorem Idle.step {event : ConnectEvent} (idle : state.Idle)
    (taken : state.step event = some next) :
    next.Idle ∧ NoneStarts event ∨ ¬ next.MarksInProgress ∧ ¬ NoneStarts event := by
  cases event with
  | asyncConnect run endpoint =>
    simp only [Connecting.step, asyncConnect, Option.some.injEq] at taken
    subst taken
    refine .inl ⟨?_, trivial⟩
    split
    · exact idle
    · split
      · exact idle
      · exact idle
  | begin place =>
    simp only [Connecting.step, begin] at taken
    split at taken
    · cases taken
    · cases taken
      refine .inl ⟨⟨idle.1, fun attempt member => ?_⟩, trivial⟩
      rcases List.mem_append.mp member with old | fresh
      · exact idle.2 attempt old
      · obtain rfl := List.mem_singleton.mp fresh
        exact not_inProgress (.inl rfl)
  | callback place callback => exact idle.callback taken

end Idle

/-- The set has the endpoints with an attempt in progress only in runs that start no TCP connect.
    With an attempt counted from the success of its TCP connect on, it has them as long as a TCP
    connect only starts when no attempt to its endpoint is in progress and a timer that closes its
    socket does not meet a handshake. -/
theorem pendingConns_iff (events : List ConnectEvent) (last : Connecting)
    (ran : Transition.run step {} events = some last) :
    ((∀ state, Transition.Passes step {} events state → state.Alone ∧ state.MarksInProgress) ↔
      Transition.Meets step (fun _ => NoneStarts) {} events) ∧
    ((∀ state, Transition.Passes step {} events state → state.Alone ∧ state.MarksHandshaking) ↔
      Transition.Meets step Apart {} events) := by
  have idle : ({} : Connecting).Idle := ⟨AList.notMem_empty, nofun⟩
  have still : ({} : Connecting).Alone ∧ ({} : Connecting).MarksHandshaking := by
    refine ⟨idle.marks.1, fun endpoint => iff_of_false (AList.notMem_empty endpoint) ?_⟩
    rintro ⟨attempt, member, _⟩
    cases member
  have nothing (state : Connecting) (event : ConnectEvent) (next : Connecting) :
      True → state.step event = some next → True := fun _ _ => trivial
  constructor
  · have idles : (∀ state, Transition.Passes step {} events state → state.Idle) ↔
        Transition.Meets step (fun _ => NoneStarts) {} events :=
      Transition.passes_iff_meets nothing
        (fun state event next _ idle taken => by
          rcases idle.step taken with ⟨rest, none⟩ | ⟨unlike, starts⟩
          · exact iff_of_true rest none
          · exact iff_of_false (fun rest => unlike rest.marks.2) starts)
        trivial idle ran
    rw [← idles]
    constructor
    · intro always state passes
      refine passes.strengthen idle (fun state event next idle taken marks => ?_) always
      rcases idle.step taken with ⟨rest, _⟩ | ⟨unlike, _⟩
      · exact rest
      · exact absurd marks.2 unlike
    · exact fun always state passes => (always state passes).marks
  · exact Transition.passes_iff_meets nothing
      (fun state event next _ sound taken => step_iff sound.1 sound.2 taken) trivial still ran

def oneConnect : List ConnectEvent :=
  [.asyncConnect true ⟨"a", 30300⟩, .begin 0, .callback 0 (.onResolve true true),
    .callback 0 (.onConnect false), .callback 0 (.handshakeClient false false)]

theorem oneConnect_marked :
    ∃ last, Transition.run step {} oneConnect = some last ∧ last.Alone ∧ last.MarksHandshaking := by
  have meets : Transition.Meets step Apart {} oneConnect := by
    refine ⟨trivial, trivial, ?_, trivial, trivial, trivial⟩
    rintro _ _ ⟨other, member, _, progress⟩
    obtain rfl := List.mem_singleton.mp member
    exact not_inProgress (.inl rfl) progress
  exact ⟨_, rfl, (pendingConns_iff oneConnect _ rfl).2.mpr meets _ (Transition.Passes.of_run rfl)⟩

/-- Two calls for one endpoint, the second before the TCP connect of the first has succeeded. -/
def twoConnects : List ConnectEvent :=
  [.asyncConnect true ⟨"a", 30300⟩, .begin 0, .callback 0 (.onResolve true true),
    .asyncConnect true ⟨"a", 30300⟩, .begin 0, .callback 1 (.onResolve true true)]

/-- The two run side by side, and the end of the first takes away the mark of the second. -/
theorem twoConnects_together :
    ∃ state later, Transition.run step {} twoConnects = some state ∧
      Transition.run step state [.callback 0 (.onConnect false), .callback 1 (.onConnect false),
        .callback 0 (.handshakeClient false false)] = some later ∧
      ¬ state.Alone ∧ ¬ state.MarksInProgress ∧
      ⟨"a", 30300⟩ ∉ later.pendingConns ∧ later.Has Attempt.InProgress ⟨"a", 30300⟩ := by
  refine ⟨_, _, rfl, rfl, fun alone => ?_, fun marks => ?_, by decide, ?_⟩
  · exact absurd (alone 0 1 _ _ rfl rfl (.inl rfl) (.inl rfl) rfl) (by decide)
  · exact absurd ((marks ⟨"a", 30300⟩).mpr ⟨_, List.mem_cons_self, rfl, .inl rfl⟩) (by decide)
  · exact ⟨_, List.mem_cons_of_mem _ List.mem_cons_self, rfl, .inr rfl⟩

end Connecting

end BcosGateway.Host

import BcosGateway.Service.Endings
import Mathlib.Logic.Function.Basic

/-! Two gateways that dial each other, and the connections between them. -/

namespace BcosGateway

inductive Side where
  | left | right
  deriving DecidableEq, Repr

def Side.other : Side → Side
  | .left => .right
  | .right => .left

/-- What one gateway has made of a connection. A refused session is destroyed with its socket. -/
inductive ConnectionEnd where
  | handshaking
  | refused
  | held (object : Nat)
  deriving DecidableEq, Repr

structure CrossedDials (φ : Type) where
  service : Side → Service φ
  connections : List (Side → ConnectionEnd) := []

namespace CrossedDials

variable {φ Key : Type}

def peer (dials : CrossedDials φ) (side : Side) : P2pID := (dials.service side.other).nodeID

inductive Event (φ : Type) where
  /-- A connection is made between the two hosts, whoever has dialled. -/
  | dial
  | onConnect (side : Side) (connection : Nat) (endpoint : NodeIPEndpoint)
  | service (side : Side) (event : Service.Event φ)

section Steps

variable [DecidableEq φ] (env : Environment Key)

omit [DecidableEq φ] in
/-- The end of a handshake at one side. The socket is in the state that `startPeerSession` finds. -/
def onConnect (dials : CrossedDials φ) (side : Side) (connection : Nat)
    (endpoint : NodeIPEndpoint) : Option (CrossedDials φ) :=
  match dials.connections[connection]? with
  | none => none
  | some ends =>
    if ends side = .handshaking then
      let object := (dials.service side).p2pSessions.length
      let service :=
        (dials.service side).onConnect env Session.success (dials.peer side) endpoint {}
      let made := if (service.entry object).isSome then .held object else .refused
      some
        { service := Function.update dials.service side service
          connections := dials.connections.set connection (Function.update ends side made) }
    else none

def step (dials : CrossedDials φ) : Event φ → Option (CrossedDials φ)
  | .dial => some { dials with connections := dials.connections ++ [fun _ => .handshaking] }
  | .onConnect side connection endpoint => dials.onConnect env side connection endpoint
  | .service side event =>
    (Service.step env (dials.service side) event).map fun service =>
      { dials with service := Function.update dials.service side service }

end Steps

def Proper (dials : CrossedDials φ) : Event φ → Prop
  | .service side event => Service.Networked event ∧
    ∀ e p2pID endpoint session, event = .onConnect e p2pID endpoint session →
      p2pID ≠ dials.peer side
  | _ => True

def Open (dials : CrossedDials φ) (side : Side) : ConnectionEnd → Prop
  | .handshaking => True
  | .refused => False
  | .held object => ∃ p2pSession, (dials.service side).p2pSessions[object]? = some p2pSession ∧
    p2pSession.session.connected = true

instance (dials : CrossedDials φ) (side : Side) : ∀ made, Decidable (dials.Open side made)
  | .handshaking => isTrue trivial
  | .refused => isFalse id
  | .held object =>
    decidable_of_iff (((dials.service side).p2pSessions[object]?.any fun p2pSession =>
      p2pSession.session.connected) = true) (Option.any_eq_true _ _)

structure Settled (dials : CrossedDials φ) : Prop where
  handled : ∀ ends ∈ dials.connections, ∀ side, ends side ≠ .handshaking
  idle : ∀ side, ∀ p2pSession ∈ (dials.service side).p2pSessions, p2pSession.session.pool = []
  swept : ∀ side, (dials.service side).disconnecting = []
  heard : ∀ ends ∈ dials.connections, ∀ side,
    dials.Open side (ends side) → dials.Open side.other (ends side.other)

def Agree (dials : CrossedDials φ) : Prop :=
  (∀ side, (dials.service side).sessions.lookup (dials.peer side) = none ∧
    ∀ ends ∈ dials.connections, ¬ dials.Open side (ends side)) ∨
  ∃ connection ends, dials.connections[connection]? = some ends ∧
    (∀ side, ∃ object, ends side = .held object ∧
      (dials.service side).sessions.lookup (dials.peer side) = some object ∧
      (dials.service side).actived object = true) ∧
    ∀ (other : Nat) (beside : Side → ConnectionEnd), dials.connections[other]? = some beside →
      other ≠ connection → ∀ side, ¬ dials.Open side (beside side)

def ends (dials : CrossedDials φ) (side : Side) : List ConnectionEnd :=
  dials.connections.map fun ends => ends side

/-- The invariant of one side. The sessions with the other gateway are the ends of the connections,
    one each. -/
structure Holds (service : Service φ) (peer : P2pID) (ends : List ConnectionEnd) : Prop where
  stored : service.Stored
  attended : service.Attended
  queued : service.Queued
  named : ∀ object, .held object ∈ ends → ∃ run, service.entry object = some (peer, run)
  held : ∀ object run, service.entry object = some (peer, run) → .held object ∈ ends
  distinct : ∀ (object first second : Nat), ends[first]? = some (.held object) →
    ends[second]? = some (.held object) → first = second

def Linked (dials : CrossedDials φ) : Prop :=
  ∀ side, Holds (dials.service side) (dials.peer side) (dials.ends side)

section Settling

variable {dials : CrossedDials φ} (linked : dials.Linked) (settled : dials.Settled)

include linked settled

theorem Settled.open_of_stored {side : Side} {object : Nat}
    (held : (dials.service side).sessions.lookup (dials.peer side) = some object) :
    ∃ ends ∈ dials.connections, ends side = .held object ∧ dials.Open side (ends side) := by
  obtain ⟨⟨run, named⟩, _⟩ := (linked side).stored.named _ object held
  obtain ⟨ends, member, ours⟩ := List.mem_map.mp ((linked side).held object run named)
  refine ⟨ends, member, ours, ?_⟩
  obtain ⟨p2pSession, present, same⟩ := Option.map_eq_some_iff.mp named
  have attended := (linked side).attended object p2pSession present
  have runs : run = true := by
    cases run with
    | true => rfl
    | false =>
      obtain ⟨e, waits⟩ := (linked side).queued _ object held named
      rw [settled.swept side] at waits
      cases waits
  have running : p2pSession.run = true := (Prod.mk.inj same).2.trans runs
  have actived : p2pSession.session.actived = true := by
    cases ended : p2pSession.session.actived with
    | true => rfl
    | false =>
      obtain ⟨reason, queued⟩ := attended.notified running ended
      rw [settled.idle side p2pSession (List.mem_of_getElem? present)] at queued
      cases queued
  rw [ours]
  exact ⟨p2pSession, present, attended.socket.trans actived⟩

theorem Settled.stored_of_open {side : Side} {ends : Side → ConnectionEnd}
    (member : ends ∈ dials.connections) (opened : dials.Open side (ends side)) :
    ∃ object, ends side = .held object ∧
      (dials.service side).sessions.lookup (dials.peer side) = some object ∧
      (dials.service side).actived object = true := by
  cases made : ends side with
  | handshaking => exact absurd made (settled.handled ends member side)
  | refused =>
    rw [made] at opened
    exact opened.elim
  | held object =>
    rw [made] at opened
    obtain ⟨p2pSession, present, connected⟩ := opened
    have attended := (linked side).attended object p2pSession present
    have actived := attended.socket.symm.trans connected
    have runs : p2pSession.run = true := by
      cases run : p2pSession.run with
      | true => rfl
      | false => cases (attended.stopped run).symm.trans actived
    obtain ⟨run, named⟩ := (linked side).named object (made ▸ List.mem_map_of_mem member)
    have running : (dials.service side).entry object = some (dials.peer side, true) := by
      unfold Service.entry at named ⊢
      rw [present, Option.map_some] at named ⊢
      rw [← (Prod.mk.inj (Option.some.inj named)).1, runs]
    exact ⟨object, rfl, (linked side).stored.running _ object running,
      Service.actived_iff.mpr ⟨_, running⟩⟩

theorem Settled.agree : dials.Agree := by
  by_cases live : ∃ ends ∈ dials.connections, ∃ side, dials.Open side (ends side)
  · obtain ⟨ends, member, side, opened⟩ := live
    have both : ∀ either, dials.Open either (ends either) := by
      have across := settled.heard ends member side opened
      intro either
      cases side <;> cases either <;> assumption
    have stored either := settled.stored_of_open linked member (both either)
    obtain ⟨connection, found⟩ := List.getElem?_of_mem member
    refine .inr ⟨connection, ends, found, stored, ?_⟩
    intro other beside present apart either alsoOpen
    have inside := List.mem_of_getElem? present
    obtain ⟨object, ours, held, _⟩ := stored either
    obtain ⟨second, theirs, alsoHeld, _⟩ := settled.stored_of_open linked inside alsoOpen
    cases held.symm.trans alsoHeld
    have here : (dials.ends either)[connection]? = some (.held object) := by
      rw [CrossedDials.ends, List.getElem?_map, found, Option.map_some, ours]
    have there : (dials.ends either)[other]? = some (.held object) := by
      rw [CrossedDials.ends, List.getElem?_map, present, Option.map_some, theirs]
    exact apart ((linked either).distinct object other connection there here)
  · refine .inl fun side => ⟨?_, fun ends member opened => live ⟨ends, member, side, opened⟩⟩
    cases held : (dials.service side).sessions.lookup (dials.peer side) with
    | none => rfl
    | some object =>
      obtain ⟨ends, member, _, opened⟩ := settled.open_of_stored linked held
      exact absurd ⟨ends, member, side, opened⟩ live

end Settling

section Runs

variable [DecidableEq φ] (env : Environment Key)

/-- An object keeps its peer, and a new one is made by a connect. -/
theorem entry_step {service after : Service φ} {event : Service.Event φ}
    (taken : Service.step env service event = some after) (object : Nat) :
    (after.entry object).map Prod.fst = (service.entry object).map Prod.fst ∨
      ∃ e p2pID endpoint session, event = .onConnect e p2pID endpoint session ∧
        service.entry object = none ∧ (after.entry object).map Prod.fst = some p2pID := by
  have ends {held : Option (P2pID × Bool)} :
      (held.map fun held => (held.1, false)).map Prod.fst = held.map Prod.fst := by
    cases held with
    | none => rfl
    | some held => rfl
  cases Service.step_outcome env taken with
  | still event still keeps =>
    left
    rw [still.entry]
  | connects e p2pID endpoint session connects keeps =>
    rw [connects.entry]
    split
    · rename_i same
      subst same
      exact .inr ⟨e, p2pID, endpoint, session, rfl, connects.fresh, rfl⟩
    · exact .inl rfl
  | stops run stops keeps =>
    left
    rw [stops.entry]
    split
    · exact ends
    · rfl
  | executes other task p2pSession started present found handled =>
    left
    have waiting := (Service.dequeued service other task).entry object
    cases handled with
    | still still keeps => rw [still.entry, waiting]
    | receives announced alive still others => rw [still.entry, waiting]
    | disconnects disconnects removed =>
      obtain ⟨p2pID, run, named, entry⟩ := disconnects.entry
      rw [entry, ← waiting]
      split
      · rename_i same
        subst same
        rw [named]
        rfl
      · rfl
  | erases pending e other found erases keeps =>
    left
    rw [erases.entry]

/-- The objects of a peer are those that there were, unless the peer has connected. -/
theorem entry_step_iff {service after : Service φ} {event : Service.Event φ} {peer : P2pID}
    (foreign : ∀ e p2pID endpoint session, event = .onConnect e p2pID endpoint session →
      p2pID ≠ peer)
    (taken : Service.step env service event = some after) (object : Nat) :
    (∃ run, after.entry object = some (peer, run)) ↔
      ∃ run, service.entry object = some (peer, run) := by
  have first {held : Option (P2pID × Bool)} :
      (∃ run, held = some (peer, run)) ↔ held.map Prod.fst = some peer := by
    rw [Option.map_eq_some_iff, Prod.exists]
    constructor
    · rintro ⟨run, rfl⟩
      exact ⟨peer, run, rfl, rfl⟩
    · rintro ⟨_, run, same, rfl⟩
      exact ⟨run, same⟩
  rw [first, first]
  rcases entry_step env taken object with same | ⟨e, p2pID, endpoint, session, connects, new, made⟩
  · rw [same]
  · have apart := foreign e p2pID endpoint session connects
    rw [made, new]
    constructor
    · intro same
      exact absurd (Option.some.inj same) apart
    · nofun

theorem Holds.step {service after : Service φ} {peer : P2pID} {ends : List ConnectionEnd}
    (holds : Holds service peer ends) {event : Service.Event φ}
    (networked : Service.Networked event)
    (foreign : ∀ e p2pID endpoint session, event = .onConnect e p2pID endpoint session →
      p2pID ≠ peer)
    (taken : Service.step env service event = some after) : Holds after peer ends := by
  have same := entry_step_iff env foreign taken
  refine ⟨holds.stored.step env taken, holds.attended.step env holds.stored networked taken,
    holds.queued.step env taken, ?_, ?_, holds.distinct⟩
  · intro object member
    exact (same object).mpr (holds.named object member)
  · intro object run entry
    obtain ⟨before, entry⟩ := (same object).mp ⟨run, entry⟩
    exact holds.held object before entry

omit [DecidableEq φ] in
theorem Holds.dial {service : Service φ} {peer : P2pID} {ends : List ConnectionEnd}
    (holds : Holds service peer ends) : Holds service peer (ends ++ [.handshaking]) := by
  have made {object : Nat} : .held object ∈ ends ++ [.handshaking] ↔ .held object ∈ ends := by
    simp
  have place {object place : Nat} (found : (ends ++ [.handshaking])[place]? = some (.held object)) :
      ends[place]? = some (.held object) := by
    rw [List.getElem?_append] at found
    split at found
    · exact found
    · cases List.mem_singleton.mp (List.mem_of_getElem? found)
  refine ⟨holds.stored, holds.attended, holds.queued, ?_, ?_, ?_⟩
  · intro object member
    exact holds.named object (made.mp member)
  · intro object run entry
    exact made.mpr (holds.held object run entry)
  · intro object first second here there
    exact holds.distinct object first second (place here) (place there)

/-- An end gets a session that no other end has, or none. -/
theorem distinct_set {ends : List ConnectionEnd} {connection : Nat} {made : ConnectionEnd}
    (distinct : ∀ (object first second : Nat), ends[first]? = some (.held object) →
      ends[second]? = some (.held object) → first = second)
    (fresh : ∀ object, made = .held object → .held object ∉ ends) (object first second : Nat)
    (here : (ends.set connection made)[first]? = some (.held object))
    (there : (ends.set connection made)[second]? = some (.held object)) : first = second := by
  have cases {place : Nat} (found : (ends.set connection made)[place]? = some (.held object)) :
      (place = connection ∧ made = .held object) ∨
        (place ≠ connection ∧ ends[place]? = some (.held object)) := by
    rw [List.getElem?_set] at found
    split at found
    · rename_i same
      split at found
      · exact .inl ⟨same.symm, Option.some.inj found⟩
      · cases found
    · rename_i apart
      exact .inr ⟨Ne.symm apart, found⟩
  rcases cases here with ⟨rfl, ours⟩ | ⟨_, ours⟩
  · rcases cases there with ⟨rfl, _⟩ | ⟨_, theirs⟩
    · rfl
    · exact absurd (List.mem_of_getElem? theirs) (fresh object ours)
  · rcases cases there with ⟨rfl, theirs⟩ | ⟨_, theirs⟩
    · exact absurd (List.mem_of_getElem? ours) (fresh object theirs)
    · exact distinct object first second ours theirs

theorem Holds.onConnect {service : Service φ} {peer : P2pID} {ends : List ConnectionEnd}
    (holds : Holds service peer ends) {connection : Nat} (endpoint : NodeIPEndpoint)
    (found : ends[connection]? = some .handshaking) :
    let after := service.onConnect env Session.success peer endpoint {}
    let object := service.p2pSessions.length
    Holds after peer
      (ends.set connection (if (after.entry object).isSome then .held object else .refused)) := by
  intro after object
  have taken : Service.step env service (.onConnect Session.success peer endpoint {}) =
      some after := rfl
  have stored := holds.stored.step env taken
  have attended := holds.attended.step env holds.stored
    (show Service.Networked (.onConnect Session.success peer endpoint {}) from ⟨rfl, rfl, rfl⟩) taken
  have queued := holds.queued.step env taken
  have beyond : service.entry object = none := by
    unfold Service.entry
    rw [List.getElem?_eq_none (Nat.le_refl _)]
    rfl
  have inside : connection < ends.length := (List.getElem?_eq_some_iff.mp found).1
  -- an end that holds a session is not the one that is set
  have others {held : Nat} {made : ConnectionEnd} (member : .held held ∈ ends) :
      .held held ∈ ends.set connection made := by
    rcases Places.mem_set_or found made member with same | member
    · cases same
    · exact member
  rcases Service.onConnect_effect env service Session.success peer endpoint {} with still | connects
  · have none : after.entry object = none := (still.entry object).trans beyond
    have made : (if (after.entry object).isSome then .held object else .refused) =
        ConnectionEnd.refused := by
      rw [none]
      rfl
    rw [made]
    refine ⟨stored, attended, queued, ?_, ?_, distinct_set holds.distinct fun _ => nofun⟩
    · intro held member
      rw [still.entry]
      rcases List.mem_or_eq_of_mem_set member with member | same
      · exact holds.named held member
      · cases same
    · intro held run entry
      rw [still.entry] at entry
      exact others (holds.held held run entry)
  · have entry : after.entry object = some (peer, true) := by
      rw [connects.entry, if_pos rfl]
    have made : (if (after.entry object).isSome then .held object else .refused) =
        ConnectionEnd.held object := by
      rw [entry]
      rfl
    have absent : .held object ∉ ends := by
      intro member
      obtain ⟨run, entry⟩ := holds.named object member
      cases beyond.symm.trans entry
    rw [made]
    refine ⟨stored, attended, queued, ?_, ?_, distinct_set holds.distinct ?_⟩
    · intro held member
      rcases List.mem_or_eq_of_mem_set member with member | same
      · obtain ⟨run, before⟩ := holds.named held member
        exact ⟨run, connects.kept before⟩
      · cases same
        exact ⟨true, entry⟩
    · intro held run present
      rw [connects.entry] at present
      split at present
      · rename_i same
        subst same
        exact List.mem_set inside _
      · exact others (holds.held held run present)
    · rintro held same member
      cases same
      exact absent member

variable {dials next : CrossedDials φ}

omit [DecidableEq φ] in
/-- Where one side changes and keeps its identity, the other one is as linked as it was. -/
theorem Linked.update (linked : dials.Linked) {side : Side} {service : Service φ}
    {connections : List (Side → ConnectionEnd)}
    (nodeID : service.nodeID = (dials.service side).nodeID)
    (ours : Holds service (dials.peer side) (connections.map fun ends => ends side))
    (theirs : ∀ either, either ≠ side →
      connections.map (fun ends => ends either) = dials.ends either) :
    ({ service := Function.update dials.service side service, connections } :
      CrossedDials φ).Linked := by
  intro either
  have peer : ({ service := Function.update dials.service side service, connections } :
      CrossedDials φ).peer either = dials.peer either := by
    change (Function.update dials.service side service either.other).nodeID = _
    by_cases same : either.other = side
    · subst same
      rw [Function.update_self, nodeID]
      rfl
    · rw [Function.update_of_ne same]
      rfl
  rw [peer]
  change Holds (Function.update dials.service side service either) _
    (connections.map fun ends => ends either)
  by_cases same : either = side
  · subst same
    rw [Function.update_self]
    exact ours
  · rw [Function.update_of_ne same, theirs either same]
    exact linked either

theorem Linked.step (linked : dials.Linked) {event : Event φ} (proper : dials.Proper event)
    (taken : CrossedDials.step env dials event = some next) : next.Linked := by
  cases event with
  | dial =>
    cases taken
    intro side
    have ends : ({ dials with connections := dials.connections ++ [fun _ => .handshaking] } :
        CrossedDials φ).ends side = dials.ends side ++ [.handshaking] := List.map_append
    rw [ends]
    exact (linked side).dial
  | onConnect side connection endpoint =>
    simp only [CrossedDials.step, CrossedDials.onConnect] at taken
    split at taken
    · cases taken
    rename_i ends found
    split at taken
    · rename_i handshaking
      cases taken
      have place : (dials.ends side)[connection]? = some .handshaking := by
        rw [CrossedDials.ends, List.getElem?_map, found, Option.map_some, handshaking]
      apply linked.update
      · have connects : Service.step env (dials.service side)
            (.onConnect Session.success (dials.peer side) endpoint {}) =
          some ((dials.service side).onConnect env Session.success (dials.peer side) endpoint {}) :=
          rfl
        exact Service.step_nodeID env connects
      · have set := (linked side).onConnect env endpoint place
        rw [List.map_set, Function.update_self]
        exact set
      · intro either apart
        have here : (dials.ends either)[connection]? = some (ends either) := by
          rw [CrossedDials.ends, List.getElem?_map, found, Option.map_some]
        obtain ⟨inside, same⟩ := List.getElem?_eq_some_iff.mp here
        rw [List.map_set, Function.update_of_ne apart, ← same]
        exact List.set_getElem_self inside
    · cases taken
  | service side event =>
    simp only [CrossedDials.step, Option.map_eq_some_iff] at taken
    obtain ⟨service, taken, rfl⟩ := taken
    obtain ⟨networked, foreign⟩ := proper
    apply linked.update
    · exact Service.step_nodeID env taken
    · exact (linked side).step env networked foreign taken
    · exact fun _ _ => rfl

omit [DecidableEq φ] in
theorem linked_fresh (fresh : ∀ side, (dials.service side).Fresh)
    (unconnected : dials.connections = []) : dials.Linked := by
  intro side
  have ends : dials.ends side = [] := by
    rw [CrossedDials.ends, unconnected, List.map_nil]
  have entry (object : Nat) : (dials.service side).entry object = none := by
    unfold Service.entry
    rw [(fresh side).p2pSessions]
    rfl
  rw [ends]
  refine ⟨(fresh side).stored, ?_, ?_, fun _ => nofun, ?_, fun _ _ _ => nofun⟩
  · intro object p2pSession present
    rw [(fresh side).p2pSessions] at present
    cases present
  · intro p2pID object held
    rw [(fresh side).sessions] at held
    cases held
  · intro object run present
    cases (entry object).symm.trans present

/-- However often and in whatever order two gateways dial each other and lose connections, once all
    is handled they agree on the connection that they have, if they have one. -/
theorem crossedDials_agree (first last : CrossedDials φ) (events : List (Event φ))
    (fresh : ∀ side, (first.service side).Fresh) (unconnected : first.connections = [])
    (proper : Transition.Meets (step env) Proper first events)
    (ran : Transition.run (step env) first events = some last) (settled : last.Settled) :
    last.Agree := by
  have linked : last.Linked := Transition.invariant_of_meets (step env)
    (fun _ _ _ linked proper taken => Linked.step env linked proper taken)
    (linked_fresh fresh unconnected) proper ran
  exact settled.agree linked

end Runs

def strangers : CrossedDials Nat where
  service
    | .left => { nodeID := [108] }
    | .right => { nodeID := [114] }

def endpoint : NodeIPEndpoint := { address := "127.0.0.1", port := 30300 }

/-- Both dial, both take the first connection, and the second one is refused at both ends. -/
def sameOrder : List (Event Nat) :=
  [.dial, .dial, .onConnect .left 0 endpoint, .onConnect .right 0 endpoint,
    .onConnect .right 1 endpoint, .onConnect .left 1 endpoint]

/-- Each takes the connection that the other one refuses, and both are lost. -/
def crossedOrder : List (Event Nat) :=
  [.dial, .dial, .onConnect .left 0 endpoint, .onConnect .right 1 endpoint,
    .onConnect .left 1 endpoint, .onConnect .right 0 endpoint,
    .service .left (.session 0 (.drop .tcpError)), .service .right (.session 0 (.drop .tcpError)),
    .service .left (.execute 0 0), .service .right (.execute 0 0),
    .service .left (.onDisconnect 0), .service .right (.onDisconnect 0)]

theorem sameOrder_agree :
    ∃ last, Transition.run (step (Environment.reading .null)) strangers sameOrder = some last ∧
      (last.service .left).connected [114] = true ∧ last.Agree := by
  have fresh : ∀ side, (strangers.service side).Fresh := by
    intro side
    cases side <;> exact ⟨rfl, rfl, rfl⟩
  have proper : Transition.Meets (step (Environment.reading .null)) Proper strangers sameOrder :=
    ⟨trivial, trivial, trivial, trivial, trivial, trivial, trivial⟩
  refine ⟨_, rfl, by decide +kernel,
    crossedDials_agree (Environment.reading .null) strangers _ sameOrder fresh rfl proper rfl ?_⟩
  refine ⟨?_, ?_, ?_, ?_⟩
  · intro ends member side
    revert ends
    cases side <;> decide +kernel
  · intro side p2pSession member
    revert p2pSession
    cases side <;> decide +kernel
  · intro side
    cases side <;> rfl
  · intro ends member side
    revert ends
    cases side <;> decide +kernel

example :
    (Transition.run (step (Environment.reading .null)) strangers crossedOrder).map (fun last =>
      ((last.service .left).connected [114], (last.service .right).connected [108])) =
        some (false, false) := by
  decide +kernel

end CrossedDials

end BcosGateway

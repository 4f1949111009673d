import BcosGateway.Lib.Places
import BcosGateway.Lib.Transition
import BcosGateway.NodeManager.GroupNodes
import BcosGateway.NodeManager.StatusSeq

/-! What the front services of a gateway are told about the nodes of their groups, while other
threads change them. -/

namespace BcosGateway

/-- The rest of a `notifyNodeIDs2FrontService`, split where it takes a lock or calls a front
    service. -/
inductive Notifying (φ Key : Type) where
  | started
  | groups (left : List (Σ _ : StdString, Table StdString (FrontServiceInfo φ)))
  | peers (groupID : StdString) (nodes : Table StdString (FrontServiceInfo φ)) (nodeIDs : List Key)
    (left : List (Σ _ : StdString, Table StdString (FrontServiceInfo φ)))
  | calls (groupID : StdString) (frontServices : List φ) (nodeIDs : List Key)
    (left : List (Σ _ : StdString, Table StdString (FrontServiceInfo φ)))

/-- What a thread has left: iterations of an update, or a notification, which is inside the lock of
    an update when that has come to it. -/
inductive NodeThread (φ Key : Type) where
  | updating (update : Update φ) (updated : Bool)
  | notifying (locked : Bool) (rest : Notifying φ Key)

def NodeThread.locks {φ Key : Type} : NodeThread φ Key → Bool
  | .updating _ _ => true
  | .notifying locked _ => locked

namespace GatewayNodeManager

variable {φ Key : Type} (keys : HexKeys Key) (manager : GatewayNodeManager φ)

def peerNodeIDs (groupID : StdString) : List Key :=
  match manager.peerGatewayNodes.lookup groupID with
  | none => []
  | some nodes => nodes.keys.filterMap fun nodeID =>
    (keys.fromHexString nodeID).map keys.createKey

def notify : Notifying φ Key →
    Except Fault (Option (NodeIDsNotice φ Key) × Option (Notifying φ Key))
  | .started => .ok (none, some (.groups manager.frontServiceInfos.entries))
  | .groups [] => .ok (none, none)
  | .groups (group :: left) => do
    let nodeIDs ← manager.queryLocalNodeIDsByGroup keys group.1
    return (none, some (.peers group.1 group.2 nodeIDs left))
  | .peers groupID nodes nodeIDs left =>
    .ok (none, some (.calls groupID (nodes.values.map FrontServiceInfo.frontService)
      (nodeIDs ++ manager.peerNodeIDs keys groupID) left))
  | .calls _ [] _ left => .ok (none, some (.groups left))
  | .calls groupID (frontService :: frontServices) nodeIDs left =>
    .ok (some { frontService, groupID, nodeIDs },
      some (.calls groupID frontServices nodeIDs left))

def updates : Update φ → Bool
  | .sweep _ updated => updated
  | .groupInfo _ [] => false
  | .groupInfo groupID (nodeInfo :: _) =>
    !(manager.queryLocalNodes groupID nodeInfo.nodeID).isSome && !nodeInfo.serviceName.isEmpty

def Serves (groupID : StdString) (frontService : φ) : Prop :=
  ∃ nodeID info, manager.queryLocalNodes groupID nodeID = some info ∧
    info.frontService = frontService

theorem asyncGetNodeIDs_eq (groupID : StdString) :
    manager.asyncGetNodeIDs keys groupID =
      (manager.queryLocalNodeIDsByGroup keys groupID).map
        (· ++ manager.peerNodeIDs keys groupID) := by
  unfold asyncGetNodeIDs queryNodeIDsByGroupID peerNodeIDs
  cases manager.queryLocalNodeIDsByGroup keys groupID with
  | error fault => rfl
  | ok nodeIDs =>
    cases manager.peerGatewayNodes.lookup groupID with
    | none => exact congrArg Except.ok (List.append_nil nodeIDs).symm
    | some nodes => rfl

end GatewayNodeManager

/-- A gateway with its threads, and what its front services have been told, the latest first. -/
structure Notifications (φ Key : Type) where
  manager : GatewayNodeManager φ
  threads : List (NodeThread φ Key) := []
  told : List (NodeIDsNotice φ Key) := []

namespace Notifications

variable {φ Key : Type}

inductive Event (φ : Type) where
  | registerFrontService (groupID nodeID : StdString) (frontService : φ)
  | unregisterFrontService (groupID nodeID : StdString)
  | sweep
  | groupInfo (groupID : StdString) (nodeInfos : List (NodeInfo φ))
  | announcement (operation : GatewayNodeManager.Operation)
  | thread (thread : Nat) (noEndpoints : Bool)

def unlocked (state : Notifications φ Key) : Bool := state.threads.all fun thread => !thread.locks

def start (state : Notifications φ Key) (thread : NodeThread φ Key) : Notifications φ Key :=
  { state with threads := state.threads ++ [thread] }

def proceed (state : Notifications φ Key) (thread : Nat) :
    Option (NodeThread φ Key) → Notifications φ Key
  | none => { state with threads := state.threads.eraseIdx thread }
  | some rest => { state with threads := state.threads.set thread rest }

def update (state : Notifications φ Key) (thread : Nat) (noEndpoints : Bool) (update : Update φ)
    (updated : Bool) : Notifications φ Key :=
  let updated := updated || state.manager.updates update
  match state.manager.updateFrontServiceInfo noEndpoints update with
  | (manager, some rest) => { state with manager }.proceed thread (some (.updating rest updated))
  | (manager, none) =>
    { state with manager }.proceed thread (if updated then some (.notifying true .started) else none)

/-- `none` where a thread waits for the lock or reads through a null pointer. -/
def step (keys : HexKeys Key) (state : Notifications φ Key) : Event φ → Option (Notifications φ Key)
  | .registerFrontService groupID nodeID frontService =>
    if state.unlocked then
      some { state with
        manager := (state.manager.registerFrontService groupID nodeID frontService).2 }
    else none
  | .unregisterFrontService groupID nodeID =>
    if state.unlocked then
      some { state with manager := (state.manager.unregisterFrontService groupID nodeID).2 }
    else none
  | .sweep =>
    if state.unlocked then some (state.start (.updating state.manager.beginSweep false)) else none
  | .groupInfo groupID nodeInfos =>
    if state.unlocked then some (state.start (.updating (.groupInfo groupID nodeInfos) false))
    else none
  | .announcement operation =>
    some ({ state with manager := state.manager.apply operation }.start (.notifying false .started))
  | .thread thread noEndpoints =>
    match state.threads[thread]? with
    | none => none
    | some (.updating update updated) => some (state.update thread noEndpoints update updated)
    | some (.notifying locked rest) =>
      match state.manager.notify keys rest with
      | .error _ => none
      | .ok (notice, rest) =>
        some ({ state with told := notice.toList ++ state.told }.proceed thread
          (rest.map (.notifying locked)))

def lastTold [DecidableEq φ] (state : Notifications φ Key) (frontService : φ) (groupID : StdString) :
    Option (List Key) :=
  (state.told.find? fun notice => notice.frontService = frontService ∧ notice.groupID = groupID).map
    NodeIDsNotice.nodeIDs

def Quiet (state : Notifications φ Key) : Prop :=
  ∀ locked rest, .notifying locked rest ∉ state.threads

end Notifications

namespace GatewayNodeManager

variable {φ Key : Type} {keys : HexKeys Key} {groupID : StdString} {frontService : φ}

structure SameGroup (groupID : StdString) (before after : GatewayNodeManager φ) : Prop where
  frontServices : after.frontServiceInfos.lookup groupID = before.frontServiceInfos.lookup groupID
  peers : after.peerGatewayNodes.lookup groupID = before.peerGatewayNodes.lookup groupID

section SameGroup

variable {before after : GatewayNodeManager φ}

theorem SameGroup.queryLocalNodeIDsByGroup (same : SameGroup groupID before after) :
    after.queryLocalNodeIDsByGroup keys groupID = before.queryLocalNodeIDsByGroup keys groupID := by
  unfold GatewayNodeManager.queryLocalNodeIDsByGroup
  rw [same.frontServices]

theorem SameGroup.peerNodeIDs (same : SameGroup groupID before after) :
    after.peerNodeIDs keys groupID = before.peerNodeIDs keys groupID := by
  unfold GatewayNodeManager.peerNodeIDs
  rw [same.peers]

theorem SameGroup.asyncGetNodeIDs (same : SameGroup groupID before after) :
    after.asyncGetNodeIDs keys groupID = before.asyncGetNodeIDs keys groupID := by
  rw [asyncGetNodeIDs_eq, asyncGetNodeIDs_eq, same.queryLocalNodeIDsByGroup, same.peerNodeIDs]

theorem SameGroup.serves (same : SameGroup groupID before after)
    (serves : before.Serves groupID frontService) : after.Serves groupID frontService := by
  obtain ⟨nodeID, info, registered, service⟩ := serves
  refine ⟨nodeID, info, ?_, service⟩
  rw [lookup_group] at registered ⊢
  rw [same.frontServices]
  exact registered

end SameGroup

end GatewayNodeManager

namespace Notifying

variable {φ Key : Type} {keys : HexKeys Key} {groupID : StdString} {frontService : φ}

def Reads (keys : HexKeys Key) (manager : GatewayNodeManager φ) (groupID : StdString) :
    Notifying φ Key → Prop
  | .peers other _ nodeIDs _ =>
    other = groupID → manager.queryLocalNodeIDsByGroup keys groupID = .ok nodeIDs
  | .calls other _ nodeIDs _ =>
    other = groupID → manager.asyncGetNodeIDs keys groupID = .ok nodeIDs
  | _ => True

def Listed (groupID : StdString) (frontService : φ)
    (left : List (Σ _ : StdString, Table StdString (FrontServiceInfo φ))) : Prop :=
  ∃ nodes, ⟨groupID, nodes⟩ ∈ left ∧
    frontService ∈ nodes.values.map FrontServiceInfo.frontService

def Ahead (groupID : StdString) (frontService : φ) : Notifying φ Key → Prop
  | .started => True
  | .groups left => Listed groupID frontService left
  | .peers other nodes _ left =>
    (other = groupID ∧ frontService ∈ nodes.values.map FrontServiceInfo.frontService) ∨
      Listed groupID frontService left
  | .calls other frontServices _ left =>
    (other = groupID ∧ frontService ∈ frontServices) ∨ Listed groupID frontService left

theorem listed_cons {group : Σ _ : StdString, Table StdString (FrontServiceInfo φ)}
    {left : List (Σ _ : StdString, Table StdString (FrontServiceInfo φ))} :
    Listed groupID frontService (group :: left) ↔
      (group.1 = groupID ∧ frontService ∈ group.2.values.map FrontServiceInfo.frontService) ∨
        Listed groupID frontService left := by
  obtain ⟨other, nodes⟩ := group
  unfold Listed
  constructor
  · rintro ⟨found, member, serves⟩
    rcases List.mem_cons.mp member with this | rest
    · cases this
      exact .inl ⟨rfl, serves⟩
    · exact .inr ⟨found, rest, serves⟩
  · rintro (⟨rfl, serves⟩ | ⟨found, member, serves⟩)
    · exact ⟨nodes, List.mem_cons_self, serves⟩
    · exact ⟨found, List.mem_cons_of_mem _ member, serves⟩

theorem listed_entries {manager : GatewayNodeManager φ} (serves : manager.Serves groupID frontService) :
    Listed groupID frontService manager.frontServiceInfos.entries := by
  obtain ⟨nodeID, info, registered, service⟩ := serves
  rw [GatewayNodeManager.lookup_group] at registered
  obtain ⟨nodes, outer, inner⟩ := Option.bind_eq_some_iff.mp registered
  exact ⟨nodes, AList.mem_lookup_iff.mp outer,
    List.mem_map.mpr ⟨info, Table.mem_values.mpr ⟨nodeID, inner⟩, service⟩⟩

variable {before manager : GatewayNodeManager φ} {rest : Notifying φ Key}
  {notice : Option (NodeIDsNotice φ Key)} {next : Option (Notifying φ Key)}

theorem notify_reads (same : GatewayNodeManager.SameGroup groupID before manager)
    (reads : rest.Reads keys before groupID)
    (notified : manager.notify keys rest = .ok (notice, next)) :
    (∀ told, notice = some told → told.groupID = groupID →
        before.asyncGetNodeIDs keys groupID = .ok told.nodeIDs) ∧
      ∀ further, next = some further → further.Reads keys before groupID := by
  cases rest with
  | started =>
    cases notified
    exact ⟨fun _ told => (by cases told), fun _ further => (by cases further; trivial)⟩
  | groups left =>
    cases left with
    | nil =>
      cases notified
      exact ⟨fun _ told => (by cases told), fun _ further => (by cases further)⟩
    | cons group left =>
      obtain ⟨nodeIDs, queried, this⟩ := bind_eq_ok.mp notified
      cases this
      refine ⟨fun _ told => (by cases told), fun _ further => ?_⟩
      cases further
      rintro rfl
      exact same.queryLocalNodeIDsByGroup.symm.trans queried
  | peers other nodes nodeIDs left =>
    cases notified
    refine ⟨fun _ told => (by cases told), fun _ further => ?_⟩
    cases further
    rintro rfl
    rw [GatewayNodeManager.asyncGetNodeIDs_eq, reads rfl, ← same.peerNodeIDs]
    rfl
  | calls other frontServices nodeIDs left =>
    cases frontServices with
    | nil =>
      cases notified
      exact ⟨fun _ told => (by cases told), fun _ further => (by cases further; trivial)⟩
    | cons first others =>
      cases notified
      refine ⟨fun _ told this => ?_, fun _ further => ?_⟩
      · cases told
        exact reads this
      · cases further
        exact reads

theorem notify_ahead (serves : manager.Serves groupID frontService)
    (ahead : rest.Ahead groupID frontService)
    (notified : manager.notify keys rest = .ok (notice, next)) :
    (∃ told, notice = some told ∧ told.frontService = frontService ∧ told.groupID = groupID) ∨
      ∃ further, next = some further ∧ further.Ahead groupID frontService := by
  cases rest with
  | started =>
    cases notified
    exact .inr ⟨_, rfl, listed_entries serves⟩
  | groups left =>
    cases left with
    | nil =>
      obtain ⟨nodes, member, _⟩ := ahead
      cases member
    | cons group left =>
      obtain ⟨nodeIDs, queried, this⟩ := bind_eq_ok.mp notified
      cases this
      exact .inr ⟨_, rfl, listed_cons.mp ahead⟩
  | peers other nodes nodeIDs left =>
    cases notified
    exact .inr ⟨_, rfl, ahead⟩
  | calls other frontServices nodeIDs left =>
    cases frontServices with
    | nil =>
      cases notified
      refine .inr ⟨_, rfl, ?_⟩
      rcases ahead with ⟨_, member⟩ | later
      · cases member
      · exact later
    | cons first others =>
      cases notified
      rcases ahead with ⟨here, member⟩ | later
      · rcases List.mem_cons.mp member with rfl | after
        · exact .inl ⟨_, rfl, rfl, here⟩
        · exact .inr ⟨_, rfl, .inl ⟨here, after⟩⟩
      · exact .inr ⟨_, rfl, .inr later⟩

/-! A notification comes to its end. -/

def weight (left : List (Σ _ : StdString, Table StdString (FrontServiceInfo φ))) : Nat :=
  (left.map fun group => group.2.values.length + 3).sum

def remaining (manager : GatewayNodeManager φ) : Notifying φ Key → Nat
  | .started => weight manager.frontServiceInfos.entries + 2
  | .groups left => weight left + 1
  | .peers _ nodes _ left => nodes.values.length + weight left + 3
  | .calls _ frontServices _ left => frontServices.length + weight left + 2

theorem queryLocalNodeIDsByGroup_canonical {groupID : StdString}
    (canonical : ∀ nodeID, manager.Registered groupID nodeID → keys.Canonical nodeID) :
    ∃ nodeIDs, manager.queryLocalNodeIDsByGroup keys groupID = .ok nodeIDs := by
  unfold GatewayNodeManager.queryLocalNodeIDsByGroup
  cases found : manager.frontServiceInfos.lookup groupID with
  | none => exact ⟨[], rfl⟩
  | some nodes =>
    refine ⟨_, GatewayNodeManager.mapM_derefKey fun nodeID member => canonical nodeID ?_⟩
    rw [GatewayNodeManager.Registered, GatewayNodeManager.group, found]
    exact AList.mem_keys.mpr member

theorem notify_progress
    (canonical : ∀ groupID nodeID, manager.Registered groupID nodeID → keys.Canonical nodeID)
    (rest : Notifying φ Key) :
    ∃ notice next, manager.notify keys rest = .ok (notice, next) ∧
      ∀ further, next = some further → further.remaining manager < rest.remaining manager := by
  cases rest with
  | started =>
    refine ⟨none, _, rfl, fun _ further => ?_⟩
    cases further
    exact Nat.lt_succ_self _
  | groups left =>
    cases left with
    | nil => exact ⟨none, none, rfl, fun _ further => by cases further⟩
    | cons group left =>
      obtain ⟨nodeIDs, queried⟩ := queryLocalNodeIDsByGroup_canonical (canonical group.1)
      refine ⟨none, some (.peers group.1 group.2 nodeIDs left), ?_, fun _ further => ?_⟩
      · rw [GatewayNodeManager.notify, queried]
        rfl
      · cases further
        simp only [remaining, weight, List.map_cons, List.sum_cons]
        omega
  | peers groupID nodes nodeIDs left =>
    refine ⟨none, _, rfl, fun _ further => ?_⟩
    cases further
    simp only [remaining, List.length_map]
    omega
  | calls groupID frontServices nodeIDs left =>
    cases frontServices with
    | nil =>
      refine ⟨none, _, rfl, fun _ further => ?_⟩
      cases further
      simp only [remaining, List.length_nil]
      omega
    | cons first others =>
      refine ⟨_, _, rfl, fun _ further => ?_⟩
      cases further
      simp only [remaining, List.length_cons]
      omega

end Notifying

namespace Notifications

variable {φ Key : Type} {keys : HexKeys Key} {groupID : StdString} {frontService : φ}
  {state next : Notifications φ Key}

theorem mem_proceed {thread : NodeThread φ Key} {place : Nat} {rest : Option (NodeThread φ Key)}
    (member : thread ∈ (state.proceed place rest).threads) :
    thread ∈ state.threads ∨ rest = some thread := by
  cases rest with
  | none => exact .inl (List.mem_of_mem_eraseIdx member)
  | some further =>
    rcases List.mem_or_eq_of_mem_set member with this | rfl
    · exact .inl this
    · exact .inr rfl

theorem mem_proceed_or {before thread : NodeThread φ Key} {place : Nat}
    (found : state.threads[place]? = some before) (rest : Option (NodeThread φ Key))
    (member : thread ∈ state.threads) :
    thread = before ∨ thread ∈ (state.proceed place rest).threads := by
  cases rest with
  | none => exact Places.mem_eraseIdx_or found member
  | some further => exact Places.mem_set_or found further member

theorem mem_proceed_rest {before thread : NodeThread φ Key} {place : Nat}
    (found : state.threads[place]? = some before) :
    thread ∈ (state.proceed place (some thread)).threads :=
  List.mem_set (List.getElem?_eq_some_iff.mp found).1 thread

structure Beside (state next : Notifications φ Key) : Prop where
  told : next.told = state.told
  kept : ∀ locked rest, .notifying locked rest ∈ state.threads → .notifying locked rest ∈ next.threads
  begun : ∀ locked rest, .notifying locked rest ∈ next.threads →
    .notifying locked rest ∈ state.threads ∨ rest = .started

theorem beside_start {update : Update φ} {updated : Bool} :
    state.Beside (state.start (.updating update updated)) := by
  refine ⟨rfl, fun _ _ member => List.mem_append_left _ member, fun _ _ member => ?_⟩
  rcases List.mem_append.mp member with this | new
  · exact .inl this
  · cases List.mem_singleton.mp new

theorem beside_update {place : Nat} {update : Update φ} {updated noEndpoints : Bool}
    (found : state.threads[place]? = some (.updating update updated)) :
    state.Beside (state.update place noEndpoints update updated) := by
  have proceeds (manager : GatewayNodeManager φ) (rest : Option (NodeThread φ Key))
      (begins : ∀ locked further, rest = some (.notifying locked further) → further = .started) :
      state.Beside ({ state with manager }.proceed place rest) := by
    refine ⟨?_, fun locked further member => ?_, fun locked further member => ?_⟩
    · cases rest <;> rfl
    · rcases mem_proceed_or found rest member with this | kept
      · cases this
      · cases rest <;> exact kept
    · rcases mem_proceed member with this | same
      · exact .inl this
      · exact .inr (begins locked further same)
  unfold Notifications.update
  split
  · exact proceeds _ _ fun _ _ same => by cases same
  · refine proceeds _ _ fun _ _ same => ?_
    split at same
    · cases same
      rfl
    · cases same

/-- A step either changes the tables, or takes a notification further. -/
theorem step_cases {event : Event φ} (taken : step keys state event = some next) :
    state.Beside next ∨
      ∃ place locked rest notice further,
        state.threads[place]? = some (.notifying locked rest) ∧
        state.manager.notify keys rest = .ok (notice, further) ∧
        next = { state with told := notice.toList ++ state.told }.proceed place
          (further.map (.notifying locked)) := by
  cases event with
  | registerFrontService groupID nodeID frontService =>
    simp only [step] at taken
    split at taken
    · cases taken
      exact .inl ⟨rfl, fun _ _ member => member, fun _ _ member => .inl member⟩
    · cases taken
  | unregisterFrontService groupID nodeID =>
    simp only [step] at taken
    split at taken
    · cases taken
      exact .inl ⟨rfl, fun _ _ member => member, fun _ _ member => .inl member⟩
    · cases taken
  | sweep =>
    simp only [step] at taken
    split at taken
    · cases taken
      exact .inl beside_start
    · cases taken
  | groupInfo groupID nodeInfos =>
    simp only [step] at taken
    split at taken
    · cases taken
      exact .inl beside_start
    · cases taken
  | announcement operation =>
    cases taken
    refine .inl ⟨rfl, fun _ _ member => List.mem_append_left _ member, fun _ _ member => ?_⟩
    rcases List.mem_append.mp member with this | new
    · exact .inl this
    · cases List.mem_singleton.mp new
      exact .inr rfl
  | thread place noEndpoints =>
    simp only [step] at taken
    split at taken
    · cases taken
    · rename_i update updated found
      cases taken
      exact .inl (beside_update found)
    · rename_i locked rest found
      split at taken
      · cases taken
      · rename_i notice further notified
        cases taken
        exact .inr ⟨place, locked, rest, notice, further, found, notified, rfl⟩

/-- The invariant of the notifications that began at `start` or later: what they say of the group
    is true, and the front service is among those that are told. -/
structure Informs (keys : HexKeys Key) (start : Notifications φ Key) (groupID : StdString)
    (frontService : φ) (state : Notifications φ Key) : Prop where
  reads : ∀ locked rest, .notifying locked rest ∈ state.threads →
    rest.Reads keys start.manager groupID
  since : ∃ notices, state.told = notices ++ start.told ∧
    (∀ notice ∈ notices, notice.groupID = groupID →
      start.manager.asyncGetNodeIDs keys groupID = .ok notice.nodeIDs) ∧
    ((∃ locked rest, .notifying locked rest ∈ state.threads ∧ rest.Ahead groupID frontService) ∨
      ∃ notice ∈ notices, notice.frontService = frontService ∧ notice.groupID = groupID)

variable {start : Notifications φ Key}

theorem Informs.beside (informs : Informs keys start groupID frontService state)
    (beside : state.Beside next) : Informs keys start groupID frontService next := by
  refine ⟨fun locked rest member => ?_, ?_⟩
  · rcases beside.begun locked rest member with before | rfl
    · exact informs.reads locked rest before
    · trivial
  · obtain ⟨notices, told, true, reached⟩ := informs.since
    refine ⟨notices, beside.told.trans told, true, reached.imp_left ?_⟩
    rintro ⟨locked, rest, member, ahead⟩
    exact ⟨locked, rest, beside.kept locked rest member, ahead⟩

theorem Informs.notifies (informs : Informs keys start groupID frontService state)
    (same : GatewayNodeManager.SameGroup groupID start.manager state.manager)
    (serves : start.manager.Serves groupID frontService) {place : Nat} {locked : Bool}
    {rest : Notifying φ Key} {notice : Option (NodeIDsNotice φ Key)}
    {further : Option (Notifying φ Key)}
    (found : state.threads[place]? = some (.notifying locked rest))
    (notified : state.manager.notify keys rest = .ok (notice, further)) :
    Informs keys start groupID frontService
      ({ state with told := notice.toList ++ state.told }.proceed place
        (further.map (.notifying locked))) := by
  have before := informs.reads locked rest (List.mem_of_getElem? found)
  obtain ⟨said, reads⟩ := Notifying.notify_reads same before notified
  obtain ⟨notices, told, true, reached⟩ := informs.since
  refine ⟨fun locked' rest' member => ?_, notice.toList ++ notices, ?_, ?_, ?_⟩
  · rcases mem_proceed member with this | new
    · exact informs.reads locked' rest' this
    · obtain ⟨rest, taken, this⟩ := Option.map_eq_some_iff.mp new
      cases this
      exact reads _ taken
  · rw [List.append_assoc, ← told]
    cases further <;> rfl
  · intro told' member
    rcases List.mem_append.mp member with new | old
    · exact said told' (Option.mem_toList.mp new)
    · exact true told' old
  · rcases reached with ⟨locked', rest', member, ahead⟩ | ⟨told', member, theirs⟩
    · rcases mem_proceed_or found (further.map (.notifying locked)) member with this | kept
      · cases this
        rcases Notifying.notify_ahead (same.serves serves) ahead notified with
          ⟨told', rfl, theirs⟩ | ⟨rest, rfl, ahead⟩
        · exact .inr ⟨told', List.mem_cons_self, theirs⟩
        · exact .inl ⟨locked, rest, mem_proceed_rest found, ahead⟩
      · refine .inl ⟨locked', rest', ?_, ahead⟩
        cases further <;> exact kept
    · exact .inr ⟨told', List.mem_append_right _ member, theirs⟩

theorem Informs.step (informs : Informs keys start groupID frontService state)
    (same : GatewayNodeManager.SameGroup groupID start.manager state.manager)
    (serves : start.manager.Serves groupID frontService) {event : Event φ}
    (taken : Notifications.step keys state event = some next) :
    Informs keys start groupID frontService next := by
  rcases step_cases taken with beside | ⟨place, locked, rest, notice, further, found, notified, rfl⟩
  · exact informs.beside beside
  · exact informs.notifies same serves found notified

/-- Who is told since then is told last what the tables have. -/
theorem Informs.lastTold [DecidableEq φ] (informs : Informs keys start groupID frontService state)
    (quiet : state.Quiet) :
    ∃ nodeIDs, start.manager.asyncGetNodeIDs keys groupID = .ok nodeIDs ∧
      state.lastTold frontService groupID = some nodeIDs := by
  obtain ⟨notices, told, true, reached⟩ := informs.since
  rcases reached with ⟨locked, rest, member, _⟩ | ⟨notice, member, theirs⟩
  · exact absurd member (quiet locked rest)
  · have among : (notices.find? fun notice =>
        notice.frontService = frontService ∧ notice.groupID = groupID).isSome :=
      List.find?_isSome.mpr ⟨notice, member, decide_eq_true theirs⟩
    obtain ⟨last, found⟩ := Option.isSome_iff_exists.mp among
    have holds : last.frontService = frontService ∧ last.groupID = groupID := by
      have holds := List.find?_some found
      exact of_decide_eq_true holds
    refine ⟨last.nodeIDs, true last (List.mem_of_find?_eq_some found) holds.2, ?_⟩
    rw [Notifications.lastTold, told, List.find?_append, found]
    rfl

def remaining (manager : GatewayNodeManager φ) : NodeThread φ Key → Nat
  | .updating _ _ => 0
  | .notifying _ rest => rest.remaining manager

/-- The notifications can end while everything else waits. -/
theorem quiet_reachable
    (canonical : ∀ groupID nodeID, state.manager.Registered groupID nodeID → keys.Canonical nodeID) :
    ∃ events last, Transition.run (Notifications.step keys) state events = some last ∧
      last.Quiet ∧ last.manager = state.manager ∧
      Transition.Meets (Notifications.step keys) (fun now _ => now.manager = state.manager) state
        events := by
  generalize total : (state.threads.map (remaining state.manager)).sum = left
  induction left using Nat.strong_induction_on generalizing state with
  | _ left ih =>
    by_cases quiet : state.Quiet
    · exact ⟨[], state, rfl, quiet, rfl, trivial⟩
    · unfold Quiet at quiet
      push Not at quiet
      obtain ⟨locked, rest, member⟩ := quiet
      obtain ⟨place, found⟩ := List.mem_iff_getElem?.mp member
      obtain ⟨notice, further, notified, less⟩ := Notifying.notify_progress canonical rest
      let next := { state with told := notice.toList ++ state.told }.proceed place
        (further.map (.notifying locked))
      have taken : Notifications.step keys state (.thread place false) = some next := by
        simp only [Notifications.step, found, notified]
        rfl
      have unchanged : next.manager = state.manager := by
        unfold next
        cases further <;> rfl
      have fewer : (next.threads.map (remaining next.manager)).sum < left := by
        rw [unchanged, ← total]
        unfold next
        cases further with
        | none =>
          have split := Places.sum_eraseIdx found (remaining state.manager)
          have positive : 0 < rest.remaining state.manager := by cases rest <;> simp [Notifying.remaining]
          simp only [Option.map_none, proceed, remaining] at split ⊢
          omega
        | some more =>
          have split := Places.sum_set found (.notifying locked more) (remaining state.manager)
          have shorter := less more rfl
          simp only [Option.map_some, proceed, remaining] at split ⊢
          omega
      obtain ⟨events, last, ran, ends, same, meets⟩ :=
        ih _ fewer (fun groupID nodeID registered => canonical groupID nodeID (unchanged ▸ registered))
          rfl
      exact ⟨.thread place false :: events, last,
        (Transition.run_cons _).mpr ⟨next, taken, ran⟩, ends, same.trans unchanged,
        .cons _ rfl taken (meets.weaken _ fun _ _ kept => kept.trans unchanged)⟩

/-- A notification that begins while none is in progress leaves every front service of a group
    with what `asyncGetNodeIDs` says of it, whatever the threads do in between, as long as the
    tables have the same for the group throughout. It can always come to its end. -/
theorem told_current [DecidableEq φ] (keys : HexKeys Key) {found start : Notifications φ Key}
    {event : Event φ} (quiet : found.Quiet)
    (taken : Notifications.step keys found event = some start) (begins : ¬ start.Quiet)
    {groupID : StdString} {frontService : φ} (serves : start.manager.Serves groupID frontService) :
    ((∀ groupID nodeID, start.manager.Registered groupID nodeID → keys.Canonical nodeID) →
      ∃ events last, Transition.run (Notifications.step keys) start events = some last ∧
        last.Quiet ∧ last.manager = start.manager ∧
        Transition.Meets (Notifications.step keys) (fun now _ => now.manager = start.manager) start
          events) ∧
    ∀ events last,
      Transition.Meets (Notifications.step keys)
        (fun now _ => GatewayNodeManager.SameGroup groupID start.manager now.manager) start events →
      Transition.run (Notifications.step keys) start events = some last →
      GatewayNodeManager.SameGroup groupID start.manager last.manager → last.Quiet →
        ∃ nodeIDs, last.manager.asyncGetNodeIDs keys groupID = .ok nodeIDs ∧
          last.lastTold frontService groupID = some nodeIDs := by
  refine ⟨quiet_reachable, fun events last meets ran same ends => ?_⟩
  have informs : Informs keys start groupID frontService start := by
    rcases step_cases taken with beside | ⟨place, locked, rest, _, _, running, _, _⟩
    · have begun : ∀ locked rest, .notifying locked rest ∈ start.threads → rest = .started :=
        fun locked rest member => (beside.begun locked rest member).resolve_left (quiet locked rest)
      unfold Quiet at begins
      push Not at begins
      obtain ⟨locked, rest, member⟩ := begins
      refine ⟨fun locked rest member => ?_, [], rfl, fun _ member => (by cases member), .inl ?_⟩
      · rw [begun locked rest member]
        trivial
      · refine ⟨locked, rest, member, ?_⟩
        rw [begun locked rest member]
        trivial
    · exact absurd (List.mem_of_getElem? running) (quiet locked rest)
  have informed : Informs keys start groupID frontService last :=
    Transition.invariant_of_meets (Notifications.step keys)
      (fun _ _ _ held kept taken => Informs.step held kept serves taken) informs meets ran
  obtain ⟨nodeIDs, listed, told⟩ := informed.lastTold ends
  exact ⟨nodeIDs, same.asyncGetNodeIDs.trans listed, told⟩

def oneNode : Notifications Nat Bytes where
  manager := ({} : GatewayNodeManager Nat).take
    (.registerFrontService [1] (asciiString "aa") 7)

def announced : Event Nat :=
  .announcement (.updateNodeIDs [9] 1
    ((∅ : NodeIDsMap).insert [1] ((∅ : KeySet StdString).insert (asciiString "bb") ())))

theorem peerNode_told : ∃ events last nodeIDs,
    Transition.run (Notifications.step GatewayNodeManager.hexKeys) oneNode (announced :: events) =
      some last ∧ last.manager.asyncGetNodeIDs GatewayNodeManager.hexKeys [1] = .ok nodeIDs ∧
      last.lastTold 7 [1] = some nodeIDs := by
  obtain ⟨start, taken⟩ : ∃ start,
      Notifications.step GatewayNodeManager.hexKeys oneNode announced = some start := ⟨_, rfl⟩
  have quiet : oneNode.Quiet := fun _ _ member => by cases member
  have begins : ¬ start.Quiet := by
    cases taken
    exact fun quiet => quiet false .started List.mem_cons_self
  have serves : start.manager.Serves [1] 7 := by
    cases taken
    exact ⟨asciiString "aa", _, rfl, rfl⟩
  have canonical (groupID nodeID : StdString) (registered : start.manager.Registered groupID nodeID) :
      GatewayNodeManager.hexKeys.Canonical nodeID := by
    cases taken
    rw [GatewayNodeManager.oneOfEach_registered registered]
    rfl
  obtain ⟨ends, current⟩ := told_current GatewayNodeManager.hexKeys quiet taken begins serves
  obtain ⟨events, last, ran, completed, same, meets⟩ := ends canonical
  have kept {now : Notifications Nat Bytes} (same : now.manager = start.manager) :
      GatewayNodeManager.SameGroup [1] start.manager now.manager := same ▸ ⟨rfl, rfl⟩
  obtain ⟨nodeIDs, listed, told⟩ := current events last
    (meets.weaken _ fun _ _ same => kept same) ran (kept same) completed
  exact ⟨events, last, nodeIDs, (Transition.run_cons _).mpr ⟨start, taken, ran⟩, listed, told⟩

/-- Of two notifications at a time the first may call the front service last, with nodes that the
    peer has taken back. -/
theorem overlapping_stale :
    (Transition.run (Notifications.step GatewayNodeManager.hexKeys) oneNode
      ([announced, .thread 0 false, .thread 0 false, .thread 0 false,
        .announcement (.onRemoveNodeIDs [9])] ++ List.replicate 6 (.thread 1 false) ++
        List.replicate 3 (.thread 0 false))).map
      (fun last => (last.threads.length, last.lastTold 7 [1],
        (last.manager.asyncGetNodeIDs GatewayNodeManager.hexKeys [1]).toOption)) =
      some (0, some [[170], [187]], some [[170]]) := by
  rfl

end Notifications

end BcosGateway

import BcosGateway.NodeManager.Dynamic
import BcosGateway.NodeManager.NodeListJson

/-! The number that tells the peers when the nodes of a gateway have changed. -/

namespace BcosGateway

def Update.size {φ : Type} : Update φ → Nat
  | .sweep groups _ => (groups.map fun group => group.2.length + 1).sum
  | .groupInfo _ nodeInfos => nodeInfos.length

namespace GatewayNodeManager

variable {φ : Type}

section Complete

variable (noEndpoints : StdString → StdString → Bool)

def asked : Update φ → Bool
  | .sweep ((groupID, nodeID :: _) :: _) _ => noEndpoints groupID nodeID
  | _ => false

theorem updateFrontServiceInfo_size {manager next : GatewayNodeManager φ} {noEndpoints : Bool}
    {update rest : Update φ}
    (taken : manager.updateFrontServiceInfo noEndpoints update = (next, some rest)) :
    rest.size < update.size := by
  cases update with
  | sweep groups updated =>
    rcases groups with _ | ⟨⟨groupID, nodeIDs⟩, groups⟩
    · cases taken
    rcases nodeIDs with _ | ⟨nodeID, nodeIDs⟩
    · simp only [updateFrontServiceInfo] at taken
      split at taken <;> cases taken <;> simp [Update.size]
    · simp only [updateFrontServiceInfo] at taken
      split at taken
      · cases taken
        simp [Update.size]
      · split at taken <;> cases taken <;> simp [Update.size]
  | groupInfo groupID nodeInfos =>
    cases nodeInfos with
    | nil => cases taken
    | cons nodeInfo nodeInfos =>
      simp only [updateFrontServiceInfo] at taken
      split at taken
      · cases taken
        simp [Update.size]
      · split at taken <;> cases taken <;> simp [Update.size]

def complete (manager : GatewayNodeManager φ) (update : Update φ) : GatewayNodeManager φ :=
  match _taken : manager.updateFrontServiceInfo (asked noEndpoints update) update with
  | (manager, none) => manager
  | (manager, some rest) => complete manager rest
  termination_by update.size
  decreasing_by exact updateFrontServiceInfo_size _taken

/-- What every iteration keeps, up to the last one. -/
theorem complete_rule (inv : GatewayNodeManager φ → Update φ → Prop)
    {post : GatewayNodeManager φ → Prop}
    (step : ∀ manager update, inv manager update →
      match manager.updateFrontServiceInfo (asked noEndpoints update) update with
      | (last, none) => post last
      | (next, some rest) => inv next rest)
    {manager : GatewayNodeManager φ} {update : Update φ} (start : inv manager update) :
    post (manager.complete noEndpoints update) := by
  fun_induction complete noEndpoints manager update with
  | case1 manager update last taken =>
    have ended := step manager update start
    rw [taken] at ended
    exact ended
  | case2 manager update next rest taken ih =>
    have kept := step manager update start
    rw [taken] at kept
    exact ih kept

end Complete

/-- Past the initial waiting time of the sweep. -/
inductive NodeOperation (φ : Type) where
  | registerFrontService (groupID nodeID : StdString) (frontService : φ)
  | unregisterFrontService (groupID nodeID : StdString)
  | updateGroupInfo (groupID : StdString) (nodeInfos : List (NodeInfo φ))
  | sweep (noEndpoints : StdString → StdString → Bool)
  | updateNodeIDs (p2pID : P2pID) (seq : UInt32) (nodeIDsMap : NodeIDsMap)
  | onRemoveNodeIDs (p2pID : P2pID)

def perform (manager : GatewayNodeManager φ) : NodeOperation φ → GatewayNodeManager φ
  | .registerFrontService groupID nodeID frontService =>
    (manager.registerFrontService groupID nodeID frontService).2
  | .unregisterFrontService groupID nodeID => (manager.unregisterFrontService groupID nodeID).2
  | .updateGroupInfo groupID nodeInfos =>
    manager.complete (fun _ _ => false) (.groupInfo groupID nodeInfos)
  | .sweep noEndpoints => manager.complete noEndpoints manager.beginSweep
  | .updateNodeIDs p2pID seq nodeIDsMap => manager.updateNodeIDs p2pID seq nodeIDsMap
  | .onRemoveNodeIDs p2pID => manager.onRemoveNodeIDs p2pID

def NodeOperation.counts : NodeOperation φ → Nat
  | .updateGroupInfo _ nodeInfos => nodeInfos.length
  | _ => 1

def Tracks (before after : GatewayNodeManager φ) : Prop :=
  after.statusSeq ≠ before.statusSeq ↔
    ∃ groupID nodeID, ¬ (after.Registered groupID nodeID ↔ before.Registered groupID nodeID)

def Populated (manager : GatewayNodeManager φ) : Prop :=
  ∀ groupID nodes, manager.frontServiceInfos.lookup groupID = some nodes → ∃ nodeID, nodeID ∈ nodes

section Nodes

variable (manager : GatewayNodeManager φ)

theorem registered_iff (groupID nodeID : StdString) :
    manager.Registered groupID nodeID ↔ (manager.queryLocalNodes groupID nodeID).isSome :=
  AList.lookup_isSome.symm

theorem lookup_group (groupID nodeID : StdString) :
    manager.queryLocalNodes groupID nodeID =
      (manager.frontServiceInfos.lookup groupID).bind fun nodes => nodes.lookup nodeID := by
  unfold queryLocalNodes group
  cases manager.frontServiceInfos.lookup groupID with
  | none => rfl
  | some nodes => rfl

theorem queryLocalNodes_insert (groupID : StdString) (nodes : Table StdString (FrontServiceInfo φ))
    (otherGroup otherNode : StdString) :
    ({ manager with frontServiceInfos := manager.frontServiceInfos.insert groupID nodes } :
      GatewayNodeManager φ).queryLocalNodes otherGroup otherNode =
        if otherGroup = groupID then nodes.lookup otherNode
        else manager.queryLocalNodes otherGroup otherNode := by
  rw [lookup_group, lookup_group, Table.lookup_insert_if]
  split
  · rfl
  · rfl

theorem queryLocalNodes_erase (groupID otherGroup otherNode : StdString) :
    ({ manager with frontServiceInfos := manager.frontServiceInfos.erase groupID } :
      GatewayNodeManager φ).queryLocalNodes otherGroup otherNode =
        if otherGroup = groupID then none else manager.queryLocalNodes otherGroup otherNode := by
  rw [lookup_group, lookup_group, Table.lookup_erase_if]
  split
  · rfl
  · rfl

theorem queryLocalNodes_insertFrontService (groupID nodeID : StdString) (info : FrontServiceInfo φ)
    (otherGroup otherNode : StdString) :
    (manager.insertFrontService groupID nodeID info).queryLocalNodes otherGroup otherNode =
      if otherGroup = groupID ∧ otherNode = nodeID then some info
      else manager.queryLocalNodes otherGroup otherNode := by
  unfold insertFrontService
  rw [queryLocalNodes_insert]
  by_cases sameGroup : otherGroup = groupID
  · rw [if_pos sameGroup, Table.lookup_insert_if, sameGroup]
    simp only [true_and]
    rfl
  · rw [if_neg sameGroup, if_neg fun both => sameGroup both.1]

theorem queryLocalNodes_eraseFrontService (groupID nodeID otherGroup otherNode : StdString) :
    (manager.eraseFrontService groupID nodeID).queryLocalNodes otherGroup otherNode =
      if otherGroup = groupID ∧ otherNode = nodeID then none
      else manager.queryLocalNodes otherGroup otherNode := by
  unfold eraseFrontService
  rw [queryLocalNodes_insert]
  by_cases sameGroup : otherGroup = groupID
  · rw [if_pos sameGroup, Table.lookup_erase_if, sameGroup]
    simp only [true_and]
    rfl
  · rw [if_neg sameGroup, if_neg fun both => sameGroup both.1]

/-- An empty group has no node to lose. -/
theorem queryLocalNodes_erase_empty {groupID : StdString}
    (empty : Table.isEmpty (manager.group groupID)) (otherGroup otherNode : StdString) :
    ({ manager with frontServiceInfos := manager.frontServiceInfos.erase groupID } :
      GatewayNodeManager φ).queryLocalNodes otherGroup otherNode =
        manager.queryLocalNodes otherGroup otherNode := by
  rw [queryLocalNodes_erase]
  split
  · rename_i same
    rw [same]
    exact (Table.isEmpty_iff.mp empty otherNode).symm
  · rfl

end Nodes

section Sweep

variable (noEndpoints : StdString → StdString → Bool) (before : GatewayNodeManager φ)

/-- The invariant of a sweep that began at `before`. What has gone was unreachable, and what is
    unreachable and has not gone is still to be visited, as is a group that has become empty. -/
structure Sweeping (manager : GatewayNodeManager φ) (groups : List (StdString × List StdString))
    (updated : Bool) : Prop where
  statusSeq : manager.statusSeq = before.statusSeq
  kept : ∀ groupID nodeID,
    manager.queryLocalNodes groupID nodeID = before.queryLocalNodes groupID nodeID ∨
      (manager.queryLocalNodes groupID nodeID = none ∧ ∃ info,
        before.queryLocalNodes groupID nodeID = some info ∧
          unreachable info (noEndpoints groupID nodeID))
  pending : ∀ groupID nodeID info, manager.queryLocalNodes groupID nodeID = some info →
    unreachable info (noEndpoints groupID nodeID) →
      ∃ nodeIDs, (groupID, nodeIDs) ∈ groups ∧ nodeID ∈ nodeIDs
  counted : updated = true ↔ ∃ groupID nodeID,
    manager.queryLocalNodes groupID nodeID ≠ before.queryLocalNodes groupID nodeID
  visited : ∀ groupID nodes, manager.frontServiceInfos.lookup groupID = some nodes →
    Table.isEmpty nodes → ∃ nodeIDs, (groupID, nodeIDs) ∈ groups
  served : ∀ entry ∈ groups, ∃ nodeID, (before.queryLocalNodes entry.1 nodeID).isSome

structure Swept (after : GatewayNodeManager φ) : Prop where
  changed : (∃ groupID nodeID, after.queryLocalNodes groupID nodeID ≠
    before.queryLocalNodes groupID nodeID) → after.statusSeq = before.statusSeq + 1
  unchanged : (∀ groupID nodeID, after.queryLocalNodes groupID nodeID =
    before.queryLocalNodes groupID nodeID) → after.statusSeq = before.statusSeq
  left : ∀ groupID nodeID, after.queryLocalNodes groupID nodeID =
    (before.queryLocalNodes groupID nodeID).filter fun info =>
      !unreachable info (noEndpoints groupID nodeID)
  populated : after.Populated

variable {noEndpoints before} {manager : GatewayNodeManager φ}
  {groups : List (StdString × List StdString)} {updated : Bool}

theorem Sweeping.start (populated : before.Populated) :
    Sweeping noEndpoints before before
      (before.frontServiceInfos.entries.map fun group => (group.1, group.2.keys)) false := by
  have listed {groupID nodes} (found : before.frontServiceInfos.lookup groupID = some nodes) :
      (groupID, nodes.keys) ∈
        before.frontServiceInfos.entries.map fun group => (group.1, group.2.keys) :=
    List.mem_map.mpr ⟨⟨groupID, nodes⟩, AList.mem_lookup_iff.mp found, rfl⟩
  constructor
  · rfl
  · exact fun groupID nodeID => .inl rfl
  · intro groupID nodeID info registered _
    rw [lookup_group] at registered
    obtain ⟨nodes, found, present⟩ := Option.bind_eq_some_iff.mp registered
    have member : nodeID ∈ nodes :=
      AList.lookup_isSome.mp (Option.isSome_iff_exists.mpr ⟨info, present⟩)
    exact ⟨nodes.keys, listed found, AList.mem_keys.mp member⟩
  · exact iff_of_false Bool.false_ne_true fun ⟨_, _, differs⟩ => differs rfl
  · exact fun groupID nodes found _ => ⟨nodes.keys, listed found⟩
  · intro entry member
    obtain ⟨⟨groupID, nodes⟩, present, rfl⟩ := List.mem_map.mp member
    have found := AList.mem_lookup_iff.mpr present
    obtain ⟨nodeID, registered⟩ := populated groupID nodes found
    refine ⟨nodeID, ?_⟩
    rw [lookup_group, found]
    exact AList.lookup_isSome.mpr registered

section Ahead

variable {groupID otherGroup : StdString}

/-- A node that is not the one just visited is still ahead. -/
theorem ahead_of_other {nodeID otherNode : StdString} {nodeIDs : List StdString}
    (ahead : ∃ others, (otherGroup, others) ∈ (groupID, nodeID :: nodeIDs) :: groups ∧
      otherNode ∈ others)
    (other : ¬ (otherGroup = groupID ∧ otherNode = nodeID)) :
    ∃ others, (otherGroup, others) ∈ (groupID, nodeIDs) :: groups ∧ otherNode ∈ others := by
  obtain ⟨others, member, listed⟩ := ahead
  rcases List.mem_cons.mp member with same | later
  · cases same
    rcases List.mem_cons.mp listed with rfl | rest
    · exact absurd ⟨rfl, rfl⟩ other
    · exact ⟨nodeIDs, List.mem_cons_self, rest⟩
  · exact ⟨others, List.mem_cons_of_mem _ later, listed⟩

theorem group_ahead {nodeIDs left : List StdString}
    (ahead : ∃ others, (otherGroup, others) ∈ (groupID, nodeIDs) :: groups) :
    ∃ others, (otherGroup, others) ∈ (groupID, left) :: groups := by
  obtain ⟨others, member⟩ := ahead
  rcases List.mem_cons.mp member with same | later
  · cases same
    exact ⟨left, List.mem_cons_self⟩
  · exact ⟨others, List.mem_cons_of_mem _ later⟩

theorem ahead_of_done {otherNode : StdString}
    (ahead : ∃ others, (otherGroup, others) ∈ (groupID, []) :: groups ∧ otherNode ∈ others) :
    ∃ others, (otherGroup, others) ∈ groups ∧ otherNode ∈ others := by
  obtain ⟨others, member, listed⟩ := ahead
  rcases List.mem_cons.mp member with same | later
  · cases same
    cases listed
  · exact ⟨others, later, listed⟩

theorem group_ahead_of_other {nodeIDs : List StdString}
    (ahead : ∃ others, (otherGroup, others) ∈ (groupID, nodeIDs) :: groups)
    (other : otherGroup ≠ groupID) : ∃ others, (otherGroup, others) ∈ groups := by
  obtain ⟨others, member⟩ := ahead
  rcases List.mem_cons.mp member with same | later
  · cases same
    exact absurd rfl other
  · exact ⟨others, later⟩

end Ahead

theorem Sweeping.served_next {groupID : StdString} {nodeIDs left : List StdString}
    (sweeping : Sweeping noEndpoints before manager ((groupID, nodeIDs) :: groups) updated) :
    ∀ entry ∈ (groupID, left) :: groups, ∃ nodeID,
      (before.queryLocalNodes entry.1 nodeID).isSome := by
  intro entry member
  rcases List.mem_cons.mp member with rfl | later
  · exact sweeping.served (groupID, nodeIDs) List.mem_cons_self
  · exact sweeping.served entry (List.mem_cons_of_mem _ later)

theorem Sweeping.passNode {groupID nodeID : StdString} {nodeIDs : List StdString}
    (sweeping : Sweeping noEndpoints before manager ((groupID, nodeID :: nodeIDs) :: groups) updated)
    (stays : ∀ info, manager.queryLocalNodes groupID nodeID = some info →
      ¬ unreachable info (noEndpoints groupID nodeID)) :
    Sweeping noEndpoints before manager ((groupID, nodeIDs) :: groups) updated := by
  constructor
  · exact sweeping.statusSeq
  · exact sweeping.kept
  · intro otherGroup otherNode info registered gone
    apply ahead_of_other (sweeping.pending otherGroup otherNode info registered gone)
    rintro ⟨rfl, rfl⟩
    exact stays info registered gone
  · exact sweeping.counted
  · exact fun otherGroup nodes found empty =>
      group_ahead (sweeping.visited otherGroup nodes found empty)
  · exact sweeping.served_next

/-- What an iteration has not erased is as it was when the sweep began. -/
theorem Sweeping.unchanged
    (sweeping : Sweeping noEndpoints before manager groups updated) {groupID nodeID : StdString}
    {info : FrontServiceInfo φ} (registered : manager.queryLocalNodes groupID nodeID = some info) :
    before.queryLocalNodes groupID nodeID = some info := by
  rcases sweeping.kept groupID nodeID with same | ⟨none, _⟩
  · rw [← same]
    exact registered
  · rw [none] at registered
    cases registered

theorem Sweeping.eraseNode {groupID nodeID : StdString} {nodeIDs : List StdString}
    {info : FrontServiceInfo φ}
    (sweeping : Sweeping noEndpoints before manager ((groupID, nodeID :: nodeIDs) :: groups) updated)
    (registered : manager.queryLocalNodes groupID nodeID = some info)
    (gone : unreachable info (noEndpoints groupID nodeID)) :
    Sweeping noEndpoints before (manager.eraseFrontService groupID nodeID)
      ((groupID, nodeIDs) :: groups) true := by
  have lookup := queryLocalNodes_eraseFrontService manager groupID nodeID
  constructor
  · exact sweeping.statusSeq
  · intro otherGroup otherNode
    rw [lookup]
    split
    · rename_i same
      rw [same.1, same.2]
      exact .inr ⟨rfl, info, sweeping.unchanged registered, gone⟩
    · exact sweeping.kept otherGroup otherNode
  · intro otherGroup otherNode otherInfo present otherGone
    rw [lookup] at present
    split at present
    · cases present
    · rename_i other
      exact ahead_of_other (sweeping.pending otherGroup otherNode otherInfo present otherGone) other
  · refine iff_of_true rfl ⟨groupID, nodeID, ?_⟩
    rw [lookup, if_pos ⟨rfl, rfl⟩, sweeping.unchanged registered]
    exact (Option.some_ne_none info).symm
  · intro otherGroup nodes found empty
    unfold eraseFrontService at found
    rw [Table.lookup_insert_if] at found
    split at found
    · rename_i same
      rw [same]
      exact ⟨nodeIDs, List.mem_cons_self⟩
    · exact group_ahead (sweeping.visited otherGroup nodes found empty)
  · exact sweeping.served_next

theorem Sweeping.passGroup {groupID : StdString}
    (sweeping : Sweeping noEndpoints before manager ((groupID, []) :: groups) updated)
    (nonempty : ¬ Table.isEmpty (manager.group groupID)) :
    Sweeping noEndpoints before manager groups updated := by
  constructor
  · exact sweeping.statusSeq
  · exact sweeping.kept
  · intro otherGroup otherNode info registered gone
    exact ahead_of_done (sweeping.pending otherGroup otherNode info registered gone)
  · exact sweeping.counted
  · intro otherGroup nodes found empty
    apply group_ahead_of_other (sweeping.visited otherGroup nodes found empty)
    rintro rfl
    unfold group at nonempty
    rw [found] at nonempty
    exact nonempty empty
  · exact fun entry member => sweeping.served entry (List.mem_cons_of_mem _ member)

theorem Sweeping.eraseGroup {groupID : StdString}
    (sweeping : Sweeping noEndpoints before manager ((groupID, []) :: groups) updated)
    (empty : Table.isEmpty (manager.group groupID)) :
    Sweeping noEndpoints before
      { manager with frontServiceInfos := manager.frontServiceInfos.erase groupID } groups true := by
  have lookup := queryLocalNodes_erase_empty manager empty
  constructor
  · exact sweeping.statusSeq
  · intro otherGroup otherNode
    rw [lookup]
    exact sweeping.kept otherGroup otherNode
  · intro otherGroup otherNode info registered gone
    rw [lookup] at registered
    exact ahead_of_done (sweeping.pending otherGroup otherNode info registered gone)
  · -- the group had a node when the sweep began
    obtain ⟨nodeID, had⟩ := sweeping.served (groupID, []) List.mem_cons_self
    refine iff_of_true rfl ⟨groupID, nodeID, ?_⟩
    have none : manager.queryLocalNodes groupID nodeID = none :=
      Table.isEmpty_iff.mp empty nodeID
    rw [lookup, none]
    intro same
    rw [← same] at had
    cases had
  · intro otherGroup nodes found emptyNodes
    rw [Table.lookup_erase_if] at found
    split at found
    · cases found
    · rename_i other
      exact group_ahead_of_other (sweeping.visited otherGroup nodes found emptyNodes) other
  · exact fun entry member => sweeping.served entry (List.mem_cons_of_mem _ member)

theorem Sweeping.populated (sweeping : Sweeping noEndpoints before manager [] updated) :
    manager.Populated := by
  intro groupID nodes found
  apply Table.exists_mem_of_isEmpty
  rw [Bool.eq_false_iff]
  intro empty
  obtain ⟨nodeIDs, member⟩ := sweeping.visited groupID nodes found empty
  cases member

theorem Sweeping.left (sweeping : Sweeping noEndpoints before manager [] updated)
    (groupID nodeID : StdString) :
    manager.queryLocalNodes groupID nodeID =
      (before.queryLocalNodes groupID nodeID).filter fun info =>
        !unreachable info (noEndpoints groupID nodeID) := by
  rcases sweeping.kept groupID nodeID with same | ⟨none, info, had, gone⟩
  · rw [← same]
    cases registered : manager.queryLocalNodes groupID nodeID with
    | none => rfl
    | some info =>
      have reachable : unreachable info (noEndpoints groupID nodeID) = false := by
        rw [Bool.eq_false_iff]
        intro gone
        obtain ⟨nodeIDs, member, _⟩ := sweeping.pending groupID nodeID info registered gone
        cases member
      rw [Option.filter_some, reachable]
      rfl
  · rw [none, had, Option.filter_some, gone]
    rfl

theorem Sweeping.swept (sweeping : Sweeping noEndpoints before manager [] updated) :
    Swept noEndpoints before (if updated then manager.increaseSeq else manager) := by
  cases updated with
  | false =>
    rw [if_neg Bool.false_ne_true]
    constructor
    · exact fun changed => absurd (sweeping.counted.mpr changed) Bool.false_ne_true
    · exact fun _ => sweeping.statusSeq
    · exact sweeping.left
    · exact sweeping.populated
  | true =>
    rw [if_pos rfl]
    constructor
    · exact fun _ => congrArg (· + 1) sweeping.statusSeq
    · intro same
      obtain ⟨groupID, nodeID, differs⟩ := sweeping.counted.mp rfl
      exact absurd (same groupID nodeID) differs
    · exact sweeping.left
    · exact sweeping.populated

def sweepInvariant (noEndpoints : StdString → StdString → Bool) (before : GatewayNodeManager φ)
    (manager : GatewayNodeManager φ) : Update φ → Prop
  | .sweep groups updated => Sweeping noEndpoints before manager groups updated
  | .groupInfo _ _ => False

theorem sweep_step (manager : GatewayNodeManager φ) (update : Update φ)
    (invariant : sweepInvariant noEndpoints before manager update) :
    match manager.updateFrontServiceInfo (asked noEndpoints update) update with
    | (last, none) => Swept noEndpoints before last
    | (next, some rest) => sweepInvariant noEndpoints before next rest := by
  cases update with
  | groupInfo groupID nodeInfos => exact invariant.elim
  | sweep groups updated =>
    rcases groups with _ | ⟨⟨groupID, nodeIDs⟩, groups⟩
    · exact Sweeping.swept invariant
    rcases nodeIDs with _ | ⟨nodeID, nodeIDs⟩
    · by_cases empty : Table.isEmpty (manager.group groupID)
      · simp only [updateFrontServiceInfo, if_pos empty]
        exact Sweeping.eraseGroup invariant empty
      · simp only [updateFrontServiceInfo, if_neg empty]
        exact Sweeping.passGroup invariant empty
    · rw [show asked noEndpoints (.sweep ((groupID, nodeID :: nodeIDs) :: groups) updated) =
        noEndpoints groupID nodeID from rfl]
      cases registered : manager.queryLocalNodes groupID nodeID with
      | none =>
        simp only [updateFrontServiceInfo, registered]
        refine Sweeping.passNode invariant fun info present => ?_
        rw [registered] at present
        cases present
      | some info =>
        simp only [updateFrontServiceInfo, registered]
        by_cases gone : unreachable info (noEndpoints groupID nodeID)
        · rw [if_pos gone]
          exact Sweeping.eraseNode invariant registered gone
        · rw [if_neg gone]
          refine Sweeping.passNode invariant fun info' present => ?_
          rw [registered] at present
          cases present
          exact gone

theorem sweep_swept (populated : before.Populated) :
    Swept noEndpoints before (before.complete noEndpoints before.beginSweep) :=
  complete_rule noEndpoints (sweepInvariant noEndpoints before) sweep_step
    (Sweeping.start populated)

end Sweep

section Registered

variable {manager : GatewayNodeManager φ}

theorem registered_insertFrontService (groupID nodeID : StdString) (info : FrontServiceInfo φ)
    (otherGroup otherNode : StdString) :
    (manager.insertFrontService groupID nodeID info).Registered otherGroup otherNode ↔
      (otherGroup = groupID ∧ otherNode = nodeID) ∨ manager.Registered otherGroup otherNode := by
  rw [registered_iff, registered_iff, queryLocalNodes_insertFrontService]
  split
  · rename_i same
    exact iff_of_true rfl (.inl same)
  · rename_i other
    exact (or_iff_right other).symm

theorem Populated.insert (populated : manager.Populated) (groupID : StdString)
    {nodes : Table StdString (FrontServiceInfo φ)} {nodeID : StdString} (member : nodeID ∈ nodes) :
    ({ manager with frontServiceInfos := manager.frontServiceInfos.insert groupID nodes } :
      GatewayNodeManager φ).Populated := by
  intro otherGroup others found
  rw [Table.lookup_insert_if] at found
  split at found
  · cases found
    exact ⟨nodeID, member⟩
  · exact populated otherGroup others found

theorem Populated.erase (populated : manager.Populated) (groupID : StdString) :
    ({ manager with frontServiceInfos := manager.frontServiceInfos.erase groupID } :
      GatewayNodeManager φ).Populated := by
  intro otherGroup others found
  rw [Table.lookup_erase_if] at found
  split at found
  · cases found
  · exact populated otherGroup others found

theorem Populated.insertFrontService (populated : manager.Populated) (groupID nodeID : StdString)
    (info : FrontServiceInfo φ) : (manager.insertFrontService groupID nodeID info).Populated :=
  populated.insert groupID ((AList.mem_insert _).mpr (.inl rfl))

/-- The number tracks the nodes if it counts at most `count` times, and only for new nodes. -/
theorem tracks_of_added {after : GatewayNodeManager φ} {count : Nat}
    (counted : after.statusSeq = manager.statusSeq + UInt32.ofNat count) (below : count < 2 ^ 32)
    (added : 0 < count ↔ ∃ groupID nodeID,
      after.Registered groupID nodeID ∧ ¬ manager.Registered groupID nodeID)
    (kept : ∀ groupID nodeID, manager.Registered groupID nodeID →
      after.Registered groupID nodeID) : Tracks manager after := by
  have differs : after.statusSeq ≠ manager.statusSeq ↔ 0 < count := by
    rw [counted, ← UInt32.toNat_inj.ne]
    constructor
    · intro changed
      rw [Nat.pos_iff_ne_zero]
      rintro rfl
      exact changed (congrArg UInt32.toNat (UInt32.add_zero manager.statusSeq))
    · intro positive same
      rw [UInt32.toNat_add, UInt32.toNat_ofNat'] at same
      have small := manager.statusSeq.toNat_lt
      omega
  refine differs.trans (added.trans (exists_congr fun groupID => exists_congr fun nodeID => ?_))
  have stays := kept groupID nodeID
  tauto

end Registered

section GroupInfo

structure Adding (before : GatewayNodeManager φ) (total : Nat) (manager : GatewayNodeManager φ)
    (nodeInfos : List (NodeInfo φ)) : Prop where
  counted : ∃ count, manager.statusSeq = before.statusSeq + UInt32.ofNat count ∧
    count + nodeInfos.length ≤ total ∧ (0 < count ↔ ∃ groupID nodeID,
      manager.Registered groupID nodeID ∧ ¬ before.Registered groupID nodeID)
  kept : ∀ groupID nodeID, before.Registered groupID nodeID → manager.Registered groupID nodeID
  populated : manager.Populated

variable {before manager : GatewayNodeManager φ} {total : Nat} {nodeInfo : NodeInfo φ}
  {nodeInfos : List (NodeInfo φ)}

theorem Adding.start (populated : before.Populated) (nodeInfos : List (NodeInfo φ)) :
    Adding before nodeInfos.length before nodeInfos := by
  constructor
  · refine ⟨0, (UInt32.add_zero before.statusSeq).symm, Nat.le_of_eq (Nat.zero_add _), ?_⟩
    exact iff_of_false (Nat.lt_irrefl 0) fun ⟨_, _, registered, absent⟩ => absent registered
  · exact fun _ _ registered => registered
  · exact populated

theorem Adding.pass (adding : Adding before total manager (nodeInfo :: nodeInfos)) :
    Adding before total manager nodeInfos := by
  obtain ⟨count, counted, bounded, added⟩ := adding.counted
  refine ⟨⟨count, counted, ?_, added⟩, adding.kept, adding.populated⟩
  rw [List.length_cons] at bounded
  omega

theorem Adding.insert (adding : Adding before total manager (nodeInfo :: nodeInfos))
    {groupID : StdString} (info : FrontServiceInfo φ)
    (absent : ¬ manager.Registered groupID nodeInfo.nodeID) :
    Adding before total (manager.insertFrontService groupID nodeInfo.nodeID info).increaseSeq
      nodeInfos := by
  obtain ⟨count, counted, bounded, added⟩ := adding.counted
  have registered := @registered_insertFrontService φ manager groupID nodeInfo.nodeID info
  constructor
  · refine ⟨count + 1, ?_, ?_, ?_⟩
    · have next : (manager.insertFrontService groupID nodeInfo.nodeID info).increaseSeq.statusSeq =
        manager.statusSeq + 1 := rfl
      rw [next, counted, UInt32.add_assoc, UInt32.ofNat_add]
      rfl
    · rw [List.length_cons] at bounded
      omega
    · refine iff_of_true (Nat.succ_pos count) ⟨groupID, nodeInfo.nodeID, ?_, ?_⟩
      · exact (registered groupID nodeInfo.nodeID).mpr (.inl ⟨rfl, rfl⟩)
      · exact fun had => absent (adding.kept groupID nodeInfo.nodeID had)
  · exact fun otherGroup otherNode had =>
      (registered otherGroup otherNode).mpr (.inr (adding.kept otherGroup otherNode had))
  · exact adding.populated.insertFrontService groupID nodeInfo.nodeID info

theorem Adding.tracks (adding : Adding before total manager []) (below : total < 2 ^ 32) :
    Tracks before manager := by
  obtain ⟨count, counted, bounded, added⟩ := adding.counted
  exact tracks_of_added counted (by omega) added adding.kept

def groupInfoInvariant (before : GatewayNodeManager φ) (total : Nat)
    (manager : GatewayNodeManager φ) : Update φ → Prop
  | .sweep _ _ => False
  | .groupInfo _ nodeInfos => Adding before total manager nodeInfos

theorem groupInfo_step (noEndpoints : StdString → StdString → Bool)
    (manager : GatewayNodeManager φ) (update : Update φ)
    (invariant : groupInfoInvariant before total manager update) :
    match manager.updateFrontServiceInfo (asked noEndpoints update) update with
    | (last, none) => Adding before total last []
    | (next, some rest) => groupInfoInvariant before total next rest := by
  cases update with
  | sweep groups updated => exact invariant.elim
  | groupInfo groupID nodeInfos =>
    cases nodeInfos with
    | nil => exact invariant
    | cons nodeInfo nodeInfos =>
      by_cases registered : (manager.queryLocalNodes groupID nodeInfo.nodeID).isSome
      · simp only [updateFrontServiceInfo, if_pos registered]
        exact Adding.pass invariant
      by_cases stopped : nodeInfo.serviceName.isEmpty
      · simp only [updateFrontServiceInfo, if_neg registered, if_pos stopped]
        exact Adding.pass invariant
      · simp only [updateFrontServiceInfo, if_neg registered, if_neg stopped]
        apply Adding.insert invariant
        rw [registered_iff]
        exact registered

theorem groupInfo_adding (populated : before.Populated) (noEndpoints : StdString → StdString → Bool)
    (groupID : StdString) (nodeInfos : List (NodeInfo φ)) :
    Adding before nodeInfos.length (before.complete noEndpoints (.groupInfo groupID nodeInfos)) [] :=
  complete_rule noEndpoints (groupInfoInvariant before nodeInfos.length)
    (groupInfo_step noEndpoints) (Adding.start populated nodeInfos)

end GroupInfo

section Operations

variable {manager : GatewayNodeManager φ}

theorem tracks_same {after : GatewayNodeManager φ} (seq : after.statusSeq = manager.statusSeq)
    (infos : after.frontServiceInfos = manager.frontServiceInfos) : Tracks manager after := by
  refine iff_of_false (fun differs => differs seq) ?_
  rintro ⟨groupID, nodeID, differs⟩
  unfold Registered group at differs
  rw [infos] at differs
  exact differs Iff.rfl

theorem registerFrontService_eq (groupID nodeID : StdString) (frontService : φ) :
    manager.registerFrontService groupID nodeID frontService =
      if (manager.queryLocalNodes groupID nodeID).isSome then (false, manager)
      else (true, (manager.insertFrontService groupID nodeID { frontService }).increaseSeq) := by
  unfold registerFrontService
  rw [lookup_group]
  cases manager.frontServiceInfos.lookup groupID with
  | none => rfl
  | some nodes =>
    by_cases present : (nodes.lookup nodeID).isSome
    · simp [present]
    · simp [present]

theorem registerFrontService_adding (populated : manager.Populated) (groupID nodeID : StdString)
    (frontService : φ) :
    Adding manager 1 (manager.registerFrontService groupID nodeID frontService).2 [] := by
  have start : Adding manager 1 manager [{ nodeID, serviceName := [], frontService }] :=
    Adding.start populated [{ nodeID, serviceName := [], frontService }]
  rw [registerFrontService_eq]
  split
  · exact start.pass
  · rename_i absent
    refine start.insert { frontService } ?_
    rw [registered_iff]
    exact absent

theorem unregisterFrontService_spec (populated : manager.Populated) (groupID nodeID : StdString) :
    Tracks manager (manager.unregisterFrontService groupID nodeID).2 ∧
      (manager.unregisterFrontService groupID nodeID).2.Populated := by
  unfold unregisterFrontService
  cases found : manager.frontServiceInfos.lookup groupID with
  | none => exact ⟨tracks_same rfl rfl, populated⟩
  | some nodes =>
    simp only
    split
    · rename_i present
      have had : manager.Registered groupID nodeID := by
        rw [registered_iff, lookup_group, found]
        exact present
      split
      · refine ⟨iff_of_true (seq_succ_ne manager.statusSeq) ⟨groupID, nodeID, ?_⟩,
          populated.erase groupID⟩
        rw [registered_iff, increaseSeq, queryLocalNodes_erase, if_pos rfl]
        exact fun same => Bool.false_ne_true (same.mpr had)
      · rename_i nonempty
        obtain ⟨left, member⟩ := Table.exists_mem_of_isEmpty (Bool.eq_false_iff.mpr nonempty)
        refine ⟨iff_of_true (seq_succ_ne manager.statusSeq) ⟨groupID, nodeID, ?_⟩,
          populated.insert groupID member⟩
        rw [registered_iff, increaseSeq, queryLocalNodes_insert, if_pos rfl, AList.lookup_erase]
        exact fun same => Bool.false_ne_true (same.mpr had)
    · exact ⟨tracks_same rfl rfl, populated⟩

theorem Swept.tracks {noEndpoints : StdString → StdString → Bool} {after : GatewayNodeManager φ}
    (swept : Swept noEndpoints manager after) : Tracks manager after := by
  have registered (groupID nodeID : StdString) :
      ¬ (after.Registered groupID nodeID ↔ manager.Registered groupID nodeID) ↔
        after.queryLocalNodes groupID nodeID ≠ manager.queryLocalNodes groupID nodeID := by
    rw [registered_iff, registered_iff, swept.left]
    cases manager.queryLocalNodes groupID nodeID with
    | none => simp
    | some info => cases gone : unreachable info (noEndpoints groupID nodeID) <;> simp [gone]
  unfold Tracks
  simp only [registered]
  constructor
  · intro differs
    by_contra none
    refine differs (swept.unchanged fun groupID nodeID => ?_)
    by_contra changed
    exact none ⟨groupID, nodeID, changed⟩
  · intro changed
    rw [swept.changed changed]
    exact seq_succ_ne manager.statusSeq

theorem perform_spec (populated : manager.Populated) (operation : NodeOperation φ) :
    (operation.counts < 2 ^ 32 → Tracks manager (manager.perform operation)) ∧
      (manager.perform operation).Populated := by
  cases operation with
  | registerFrontService groupID nodeID frontService =>
    have adding := registerFrontService_adding populated groupID nodeID frontService
    exact ⟨adding.tracks, adding.populated⟩
  | unregisterFrontService groupID nodeID =>
    have spec := unregisterFrontService_spec populated groupID nodeID
    exact ⟨fun _ => spec.1, spec.2⟩
  | updateGroupInfo groupID nodeInfos =>
    have adding := groupInfo_adding populated (fun _ _ => false) groupID nodeInfos
    exact ⟨adding.tracks, adding.populated⟩
  | sweep noEndpoints =>
    have swept : Swept noEndpoints manager (manager.perform (.sweep noEndpoints)) :=
      sweep_swept populated
    exact ⟨fun _ => swept.tracks, swept.populated⟩
  | updateNodeIDs p2pID seq nodeIDsMap => exact ⟨fun _ => tracks_same rfl rfl, populated⟩
  | onRemoveNodeIDs p2pID => exact ⟨fun _ => tracks_same rfl rfl, populated⟩

theorem foldl_populated (populated : manager.Populated) (operations : List (NodeOperation φ)) :
    (operations.foldl perform manager).Populated := by
  induction operations generalizing manager with
  | nil => exact populated
  | cons operation operations ih => exact ih (perform_spec populated operation).2

/-- Whatever a gateway has done, the number then tracks its nodes, a sweep takes the unreachable
    ones and no other, and a group goes with its last node. -/
theorem perform_tracks (p2pNodeID : P2pID) (operations : List (NodeOperation φ))
    (operation : NodeOperation φ) (below : operation.counts < 2 ^ 32) :
    let before := operations.foldl perform { p2pNodeID }
    Tracks before (before.perform operation) ∧ (before.perform operation).Populated ∧
      ∀ noEndpoints, operation = .sweep noEndpoints → ∀ groupID nodeID,
        (before.perform operation).queryLocalNodes groupID nodeID =
          (before.queryLocalNodes groupID nodeID).filter fun info =>
            !unreachable info (noEndpoints groupID nodeID) := by
  intro before
  have fresh : ({ p2pNodeID } : GatewayNodeManager φ).Populated := fun _ _ found => by cases found
  have populated : before.Populated := foldl_populated fresh operations
  have spec := perform_spec populated operation
  refine ⟨spec.1 below, spec.2, ?_⟩
  rintro noEndpoints rfl
  exact (sweep_swept populated).left

def fourNodes : List (NodeOperation Nat) :=
  [.registerFrontService [1] [2] 7,
    .updateGroupInfo [1] [⟨[3], [115], 8⟩, ⟨[4], [116], 9⟩], .updateGroupInfo [5] [⟨[6], [115], 8⟩]]

/-- The service of `[3]` and `[6]` has no endpoints any more. -/
def endpointsOfOne : NodeOperation Nat := .sweep fun _ nodeID => nodeID ≠ [4]

/-- A sweep takes two of the nodes and the group of one of them. -/
theorem fourNodes_tracks :
    let before := fourNodes.foldl perform ({} : GatewayNodeManager Nat)
    let after := before.perform endpointsOfOne
    Tracks before after ∧ after.Populated ∧ after.statusSeq = before.statusSeq + 1 ∧
      after.queryLocalNodes [1] [3] = none ∧ after.queryLocalNodes [5] [6] = none ∧
      after.queryLocalNodes [1] [2] = some ⟨7, false⟩ ∧
      after.queryLocalNodes [1] [4] = some ⟨9, true⟩ ∧ after.frontServiceInfos.keys = [[1]] := by
  obtain ⟨tracks, populated, swept⟩ := perform_tracks [] fourNodes endpointsOfOne (by decide)
  have left := swept (fun _ nodeID => nodeID ≠ [4]) rfl
  have counted : ((fourNodes.foldl perform {}).perform endpointsOfOne).statusSeq =
      (fourNodes.foldl perform {}).statusSeq + 1 := by decide +kernel
  have groups : ((fourNodes.foldl perform {}).perform endpointsOfOne).frontServiceInfos.keys =
      [[1]] := by decide +kernel
  exact ⟨tracks, populated, counted, (left [1] [3]).trans (by decide +kernel),
    (left [5] [6]).trans (by decide +kernel), (left [1] [2]).trans (by decide +kernel),
    (left [1] [4]).trans (by decide +kernel), groups⟩

end Operations

end GatewayNodeManager

end BcosGateway

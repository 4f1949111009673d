import BcosGateway.NodeManager.Basic
import Mathlib.Logic.Function.Basic
import Mathlib.Tactic.Tauto

/-! The routing table against the latest announcement of every peer. -/

namespace BcosGateway.GatewayNodeManager

inductive Operation where
  | updateNodeIDs (p2pID : P2pID) (seq : UInt32) (nodeIDsMap : NodeIDsMap)
  | onRemoveNodeIDs (p2pID : P2pID)

def Operation.p2pID : Operation → P2pID
  | .updateNodeIDs p2pID _ _ | .onRemoveNodeIDs p2pID => p2pID

abbrev Announcements := P2pID → Option (UInt32 × NodeIDsMap)

def announce (announced : Announcements) : Operation → Announcements
  | .updateNodeIDs p2pID seq nodeIDsMap => Function.update announced p2pID (some (seq, nodeIDsMap))
  | .onRemoveNodeIDs p2pID => Function.update announced p2pID none

def Announcements.Lists (announced : Announcements) (p2pID : P2pID) (groupID nodeID : StdString) :
    Prop :=
  ∃ seq nodeIDsMap, announced p2pID = some (seq, nodeIDsMap) ∧
    Index.Lists nodeIDsMap groupID nodeID

variable {φ : Type} (manager : GatewayNodeManager φ)

def apply : Operation → GatewayNodeManager φ
  | .updateNodeIDs p2pID seq nodeIDsMap => manager.updateNodeIDs p2pID seq nodeIDsMap
  | .onRemoveNodeIDs p2pID => manager.onRemoveNodeIDs p2pID

structure Represents (announced : Announcements) : Prop where
  holds : ∀ groupID nodeID p2pID, manager.peerGatewayNodes.Holds groupID nodeID p2pID ↔
    announced.Lists p2pID groupID nodeID
  seqs : ∀ p2pID, manager.p2pID2Seq.lookup p2pID = (announced p2pID).map Prod.fst
  pruned : manager.peerGatewayNodes.Pruned

structure RoutesExactly (announced : Announcements) : Prop where
  queryP2pIDs : ∀ groupID nodeID,
    ((manager.queryP2pIDs groupID nodeID ∅).1 = true ↔
      ∃ p2pID, announced.Lists p2pID groupID nodeID) ∧
    ∀ p2pID, p2pID ∈ (manager.queryP2pIDs groupID nodeID ∅).2 ↔
      announced.Lists p2pID groupID nodeID
  queryP2pIDsByGroupID : ∀ groupID,
    ((manager.queryP2pIDsByGroupID groupID ∅).1 = true ↔
      ∃ p2pID nodeID, announced.Lists p2pID groupID nodeID) ∧
    ∀ p2pID, p2pID ∈ (manager.queryP2pIDsByGroupID groupID ∅).2 ↔
      ∃ nodeID, announced.Lists p2pID groupID nodeID
  p2pID2Seq : ∀ p2pID seq, manager.p2pID2Seq.lookup p2pID = some seq ↔
    ∃ nodeIDsMap, announced p2pID = some (seq, nodeIDsMap)
  pruned : manager.peerGatewayNodes.Pruned
  others : ∀ operation groupID nodeID p2pID, p2pID ≠ operation.p2pID →
    ((manager.apply operation).peerGatewayNodes.Holds groupID nodeID p2pID ↔
      manager.peerGatewayNodes.Holds groupID nodeID p2pID) ∧
    (manager.apply operation).p2pID2Seq.lookup p2pID = manager.p2pID2Seq.lookup p2pID

theorem holds_apply (operation : Operation) {groupID nodeID : StdString} {p2pID : P2pID} :
    (manager.apply operation).peerGatewayNodes.Holds groupID nodeID p2pID ↔
      if p2pID = operation.p2pID then
        match operation with
        | .updateNodeIDs _ _ nodeIDsMap => Index.Lists nodeIDsMap groupID nodeID
        | .onRemoveNodeIDs _ => False
      else manager.peerGatewayNodes.Holds groupID nodeID p2pID := by
  cases operation with
  | updateNodeIDs updated seq nodeIDsMap =>
    have added : (manager.apply (.updateNodeIDs updated seq nodeIDsMap)).peerGatewayNodes =
        (manager.peerGatewayNodes.remove updated).addAll updated nodeIDsMap := rfl
    rw [added, Index.holds_addAll (Index.remove_pruned updated), Index.holds_remove]
    by_cases same : p2pID = updated <;> simp [same, Operation.p2pID]
  | onRemoveNodeIDs removed =>
    have left : (manager.apply (.onRemoveNodeIDs removed)).peerGatewayNodes =
        manager.peerGatewayNodes.remove removed := rfl
    rw [left, Index.holds_remove]
    by_cases same : p2pID = removed <;> simp [same, Operation.p2pID]

theorem lookup_apply (operation : Operation) (p2pID : P2pID) :
    (manager.apply operation).p2pID2Seq.lookup p2pID =
      if p2pID = operation.p2pID then
        match operation with
        | .updateNodeIDs _ seq _ => some seq
        | .onRemoveNodeIDs _ => none
      else manager.p2pID2Seq.lookup p2pID := by
  cases operation with
  | updateNodeIDs updated seq nodeIDsMap => exact Table.lookup_insert_if updated p2pID seq _
  | onRemoveNodeIDs removed => exact Table.lookup_erase_if removed p2pID _

theorem lookup_updateNodeIDs (p2pID : P2pID) (seq : UInt32) (nodeIDsMap : NodeIDsMap) :
    (manager.updateNodeIDs p2pID seq nodeIDsMap).p2pID2Seq.lookup p2pID = some seq :=
  (manager.lookup_apply (.updateNodeIDs p2pID seq nodeIDsMap) p2pID).trans (if_pos rfl)

theorem holds_updateNodeIDs (p2pID : P2pID) (seq : UInt32) (nodeIDsMap : NodeIDsMap)
    (groupID nodeID : StdString) :
    (manager.updateNodeIDs p2pID seq nodeIDsMap).peerGatewayNodes.Holds groupID nodeID p2pID ↔
      Index.Lists nodeIDsMap groupID nodeID :=
  (manager.holds_apply (.updateNodeIDs p2pID seq nodeIDsMap)).trans (iff_of_eq (if_pos rfl))

theorem lookup_onRemoveNodeIDs (p2pID : P2pID) :
    (manager.onRemoveNodeIDs p2pID).p2pID2Seq.lookup p2pID = none :=
  (manager.lookup_apply (.onRemoveNodeIDs p2pID) p2pID).trans (if_pos rfl)

theorem apply_pruned (operation : Operation) : (manager.apply operation).peerGatewayNodes.Pruned := by
  cases operation with
  | updateNodeIDs updated seq nodeIDsMap =>
    exact Index.addAll_pruned updated nodeIDsMap (Index.remove_pruned updated)
  | onRemoveNodeIDs removed => exact Index.remove_pruned removed

theorem announce_apply (announced : Announcements) (operation : Operation) (p2pID : P2pID) :
    announce announced operation p2pID =
      if p2pID = operation.p2pID then
        match operation with
        | .updateNodeIDs _ seq nodeIDsMap => some (seq, nodeIDsMap)
        | .onRemoveNodeIDs _ => none
      else announced p2pID := by
  cases operation with
  | updateNodeIDs updated seq nodeIDsMap =>
    by_cases same : p2pID = updated <;> simp [announce, Operation.p2pID, same]
  | onRemoveNodeIDs removed =>
    by_cases same : p2pID = removed <;> simp [announce, Operation.p2pID, same]

theorem registerFrontService_peers (groupID nodeID : StdString) (frontService : φ) :
    (manager.registerFrontService groupID nodeID frontService).2.peerGatewayNodes =
        manager.peerGatewayNodes ∧
      (manager.registerFrontService groupID nodeID frontService).2.p2pID2Seq = manager.p2pID2Seq := by
  unfold registerFrontService
  simp only
  split
  · split <;> exact ⟨rfl, rfl⟩
  · split <;> exact ⟨rfl, rfl⟩

theorem unregisterFrontService_peers (groupID nodeID : StdString) :
    (manager.unregisterFrontService groupID nodeID).2.peerGatewayNodes = manager.peerGatewayNodes ∧
      (manager.unregisterFrontService groupID nodeID).2.p2pID2Seq = manager.p2pID2Seq := by
  unfold unregisterFrontService
  split
  · exact ⟨rfl, rfl⟩
  split
  · simp only
    split <;> exact ⟨rfl, rfl⟩
  · exact ⟨rfl, rfl⟩

variable {manager}

theorem Represents.apply {announced : Announcements} (represents : manager.Represents announced)
    (operation : Operation) : (manager.apply operation).Represents (announce announced operation) := by
  refine ⟨?_, ?_, manager.apply_pruned operation⟩
  · intro groupID nodeID p2pID
    rw [holds_apply]
    unfold Announcements.Lists
    rw [announce_apply]
    by_cases same : p2pID = operation.p2pID
    · rw [if_pos same, if_pos same]
      cases operation <;> simp
    · rw [if_neg same, if_neg same]
      exact represents.holds groupID nodeID p2pID
  · intro p2pID
    rw [lookup_apply, announce_apply]
    by_cases same : p2pID = operation.p2pID
    · rw [if_pos same, if_pos same]
      cases operation <;> rfl
    · rw [if_neg same, if_neg same]
      exact represents.seqs p2pID

theorem Represents.run {announced : Announcements} (represents : manager.Represents announced)
    (operations : List Operation) :
    (operations.foldl GatewayNodeManager.apply manager).Represents
      (operations.foldl announce announced) := by
  induction operations generalizing manager announced with
  | nil => exact represents
  | cons operation operations ih => exact ih (represents.apply operation)

theorem represents_empty {announced : Announcements} (peers : manager.peerGatewayNodes = ∅)
    (seqs : manager.p2pID2Seq = ∅) (none : ∀ p2pID, announced p2pID = none) :
    manager.Represents announced := by
  refine ⟨fun groupID nodeID p2pID => ?_, fun p2pID => ?_, ?_⟩
  · rw [peers]
    constructor
    · exact fun held => absurd held (Index.holds_empty groupID nodeID p2pID)
    · rintro ⟨seq, nodeIDsMap, announced, _⟩
      rw [none] at announced
      cases announced
  · rw [seqs, none]
    rfl
  · rw [peers]
    exact Index.empty_pruned

theorem mem_foldl_union (sets : List (KeySet P2pID)) (start : KeySet P2pID) (p2pID : P2pID) :
    p2pID ∈ sets.foldl (fun p2pIDs peers => peers ∪ p2pIDs) start ↔
      p2pID ∈ start ∨ ∃ peers ∈ sets, p2pID ∈ peers := by
  induction sets generalizing start with
  | nil => simp
  | cons peers sets ih =>
    rw [List.foldl_cons, ih, AList.mem_union]
    simp only [List.mem_cons, exists_eq_or_imp]
    tauto

theorem mem_queryP2pIDsByGroupID (groupID : StdString) (p2pID : P2pID) :
    p2pID ∈ (manager.queryP2pIDsByGroupID groupID ∅).2 ↔
      ∃ nodeID, manager.peerGatewayNodes.Holds groupID nodeID p2pID := by
  unfold queryP2pIDsByGroupID
  simp only [Index.holds_iff]
  cases manager.peerGatewayNodes.lookup groupID with
  | none => simp
  | some nodes =>
    simp only [Option.some.injEq, exists_and_left, exists_eq_left']
    rw [mem_foldl_union, or_iff_right (AList.notMem_empty p2pID)]
    simp only [Table.mem_values]
    constructor
    · rintro ⟨peers, ⟨nodeID, inner⟩, held⟩
      exact ⟨nodeID, peers, inner, held⟩
    · rintro ⟨nodeID, peers, inner, held⟩
      exact ⟨peers, ⟨nodeID, inner⟩, held⟩

section Queries

variable (pruned : manager.peerGatewayNodes.Pruned) (groupID nodeID : StdString)

include pruned

theorem queryP2pIDs_spec :
    ((manager.queryP2pIDs groupID nodeID ∅).1 = true ↔
      ∃ p2pID, manager.peerGatewayNodes.Holds groupID nodeID p2pID) ∧
    ∀ p2pID, p2pID ∈ (manager.queryP2pIDs groupID nodeID ∅).2 ↔
      manager.peerGatewayNodes.Holds groupID nodeID p2pID := by
  unfold queryP2pIDs
  cases outer : manager.peerGatewayNodes.lookup groupID with
  | none =>
    have none := (pruned.lookup_group groupID).mp outer nodeID
    simp [none]
  | some nodes =>
    simp only
    cases inner : nodes.lookup nodeID with
    | none =>
      have none := (pruned.lookup_node outer nodeID).mp inner
      simp [none]
    | some peers =>
      have holds (p2pID : P2pID) :
          manager.peerGatewayNodes.Holds groupID nodeID p2pID ↔ p2pID ∈ peers := by
        rw [Index.holds_iff]
        simp [outer, inner]
      simp only [holds, AList.mem_union, AList.notMem_empty, or_false, true_iff, implies_true,
        and_true]
      exact pruned.node groupID nodes nodeID peers outer inner

theorem queryP2pIDsByGroupID_spec :
    ((manager.queryP2pIDsByGroupID groupID ∅).1 = true ↔
      ∃ p2pID nodeID, manager.peerGatewayNodes.Holds groupID nodeID p2pID) ∧
    ∀ p2pID, p2pID ∈ (manager.queryP2pIDsByGroupID groupID ∅).2 ↔
      ∃ nodeID, manager.peerGatewayNodes.Holds groupID nodeID p2pID := by
  refine ⟨?_, mem_queryP2pIDsByGroupID groupID⟩
  unfold queryP2pIDsByGroupID
  cases outer : manager.peerGatewayNodes.lookup groupID with
  | none =>
    have none := (pruned.lookup_group groupID).mp outer
    simp [none]
  | some nodes =>
    obtain ⟨nodeID, member⟩ := pruned.group groupID nodes outer
    obtain ⟨peers, inner⟩ := Option.isSome_iff_exists.mp (AList.lookup_isSome.mpr member)
    obtain ⟨p2pID, held⟩ := pruned.node groupID nodes nodeID peers outer inner
    have holds : manager.peerGatewayNodes.Holds groupID nodeID p2pID :=
      Index.holds_iff.mpr ⟨nodes, peers, outer, inner, held⟩
    exact ⟨fun _ => ⟨p2pID, nodeID, holds⟩, fun _ => rfl⟩

end Queries

theorem Represents.routesExactly {announced : Announcements}
    (represents : manager.Represents announced) : manager.RoutesExactly announced := by
  refine ⟨?_, ?_, ?_, represents.pruned, ?_⟩
  · intro groupID nodeID
    simp only [← represents.holds]
    exact queryP2pIDs_spec represents.pruned groupID nodeID
  · intro groupID
    simp only [← represents.holds]
    exact queryP2pIDsByGroupID_spec represents.pruned groupID
  · intro p2pID seq
    rw [represents.seqs, Option.map_eq_some_iff]
    constructor
    · rintro ⟨⟨_, nodeIDsMap⟩, last, rfl⟩
      exact ⟨nodeIDsMap, last⟩
    · rintro ⟨nodeIDsMap, last⟩
      exact ⟨(seq, nodeIDsMap), last, rfl⟩
  · intro operation groupID nodeID p2pID other
    rw [holds_apply, lookup_apply, if_neg other, if_neg other]
    exact ⟨Iff.rfl, rfl⟩

/-- After any history of announcements and removals the table is the inverse of what every peer
    announced last. -/
theorem routing_announced (p2pNodeID : P2pID) (operations : List Operation) :
    (operations.foldl apply ({ p2pNodeID } : GatewayNodeManager φ)).RoutesExactly
      (operations.foldl announce fun _ => none) := by
  have start : ({ p2pNodeID } : GatewayNodeManager φ).Represents fun _ => none :=
    represents_empty rfl rfl fun _ => rfl
  exact (start.run operations).routesExactly

end BcosGateway.GatewayNodeManager

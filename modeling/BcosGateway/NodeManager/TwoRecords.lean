import BcosGateway.NodeManager.Announcements
import BcosGateway.Lib.Places
import BcosGateway.Lib.Transition

/-! The nodes of a peer are recorded twice, under two locks. -/

namespace BcosGateway

namespace GatewayNodeManager

variable {φ : Type} (manager : GatewayNodeManager φ)

/-- The part of `updateNodeIDs` under `x_peerGatewayNodes`. -/
def beginUpdateNodeIDs (p2pID : P2pID) (seq : UInt32) (nodeIDsMap : NodeIDsMap) :
    GatewayNodeManager φ :=
  let manager := manager.removeNodeIDsByP2PID p2pID
  { manager with
    peerGatewayNodes := manager.peerGatewayNodes.addAll p2pID nodeIDsMap
    p2pID2Seq := manager.p2pID2Seq.insert p2pID seq }

theorem updateNodeIDs_eq (p2pID : P2pID) (seq : UInt32) (nodeIDsMap : NodeIDsMap) :
    manager.updateNodeIDs p2pID seq nodeIDsMap =
      (manager.beginUpdateNodeIDs p2pID seq nodeIDsMap).updateNodeIDInfo p2pID nodeIDsMap := rfl

def Names (p2pID : P2pID) (nodeIDsMap : NodeIDsMap) : Prop :=
  ∀ groupID nodeID, manager.peerGatewayNodes.Holds groupID nodeID p2pID ↔
    Index.Lists nodeIDsMap groupID nodeID

theorem names_beginUpdateNodeIDs (p2pID : P2pID) (seq : UInt32) (nodeIDsMap : NodeIDsMap) :
    (manager.beginUpdateNodeIDs p2pID seq nodeIDsMap).Names p2pID nodeIDsMap :=
  manager.holds_updateNodeIDs p2pID seq nodeIDsMap

structure Agrees (p2pID : P2pID) : Prop where
  nodes : manager.Names p2pID ((manager.nodeIDInfo.lookup p2pID).getD ∅)
  known : p2pID ∈ manager.nodeIDInfo ↔ p2pID ∈ manager.p2pID2Seq

variable {manager}

theorem Agrees.congr {other : GatewayNodeManager φ} {p2pID : P2pID} (agrees : manager.Agrees p2pID)
    (holds : ∀ groupID nodeID, other.peerGatewayNodes.Holds groupID nodeID p2pID ↔
      manager.peerGatewayNodes.Holds groupID nodeID p2pID)
    (info : other.nodeIDInfo.lookup p2pID = manager.nodeIDInfo.lookup p2pID)
    (seq : other.p2pID2Seq.lookup p2pID = manager.p2pID2Seq.lookup p2pID) :
    other.Agrees p2pID := by
  constructor
  · intro groupID nodeID
    rw [holds, info]
    exact agrees.nodes groupID nodeID
  · rw [← AList.lookup_isSome, ← AList.lookup_isSome, info, seq, AList.lookup_isSome,
      AList.lookup_isSome]
    exact agrees.known

/-- The section of a call that takes both locks leaves the records of the other peers as they are. -/
theorem Agrees.others {p2pID : P2pID} (agrees : manager.Agrees p2pID) (operation : Operation)
    (other : p2pID ≠ operation.p2pID) {next : GatewayNodeManager φ}
    (peers : next.peerGatewayNodes = (manager.apply operation).peerGatewayNodes)
    (info : next.nodeIDInfo = manager.nodeIDInfo.erase operation.p2pID)
    (seqs : next.p2pID2Seq = (manager.apply operation).p2pID2Seq) : next.Agrees p2pID := by
  apply agrees.congr
  · intro groupID nodeID
    rw [peers, holds_apply, if_neg other]
  · rw [info, AList.lookup_erase_ne other]
  · rw [seqs, lookup_apply, if_neg other]

theorem agrees_onRemoveNodeIDs (p2pID : P2pID) : (manager.onRemoveNodeIDs p2pID).Agrees p2pID := by
  have info : (manager.onRemoveNodeIDs p2pID).nodeIDInfo = manager.nodeIDInfo.erase p2pID := rfl
  have seqs : (manager.onRemoveNodeIDs p2pID).p2pID2Seq = manager.p2pID2Seq.erase p2pID := rfl
  constructor
  · intro groupID nodeID
    rw [info, AList.lookup_erase]
    refine Index.holds_remove.trans (iff_of_false ?_ (AList.notMem_empty nodeID))
    exact fun held => held.1 rfl
  · rw [info, seqs]
    refine iff_of_false ?_ ?_
    · exact AList.lookup_eq_none.mp (AList.lookup_erase p2pID manager.nodeIDInfo)
    · exact AList.lookup_eq_none.mp (AList.lookup_erase p2pID manager.p2pID2Seq)

/-- The second section of a call makes the records of its peer agree if and only if the nodes are
    still those of the first. -/
theorem agrees_updateNodeIDInfo_iff (p2pID : P2pID) (nodeIDsMap : NodeIDsMap) :
    (manager.updateNodeIDInfo p2pID nodeIDsMap).Agrees p2pID ↔
      manager.Names p2pID nodeIDsMap ∧ p2pID ∈ manager.p2pID2Seq := by
  have stored : (manager.updateNodeIDInfo p2pID nodeIDsMap).nodeIDInfo.lookup p2pID =
      some nodeIDsMap := AList.lookup_insert manager.nodeIDInfo
  have present : p2pID ∈ (manager.updateNodeIDInfo p2pID nodeIDsMap).nodeIDInfo := by
    rw [← AList.lookup_isSome, stored]
    rfl
  constructor
  · intro agrees
    have nodes := agrees.nodes
    rw [stored] at nodes
    exact ⟨nodes, agrees.known.mp present⟩
  · rintro ⟨names, known⟩
    refine ⟨?_, iff_of_true present known⟩
    rw [stored]
    exact names

theorem Agrees.updateNodeIDInfo {p2pID : P2pID} (agrees : manager.Agrees p2pID) {updated : P2pID}
    (other : p2pID ≠ updated) (nodeIDsMap : NodeIDsMap) :
    (manager.updateNodeIDInfo updated nodeIDsMap).Agrees p2pID :=
  agrees.congr (fun _ _ => Iff.rfl) (AList.lookup_insert_ne other) rfl

end GatewayNodeManager

/-- A manager with the calls of `updateNodeIDs` that are between their two sections. -/
structure NodeCalls (φ : Type) where
  manager : GatewayNodeManager φ
  inProgress : List (P2pID × NodeIDsMap) := []

namespace NodeCalls

variable {φ : Type}

inductive Section where
  | updateNodeIDs (p2pID : P2pID) (seq : UInt32) (nodeIDsMap : NodeIDsMap)
  | updateNodeIDInfo (call : Nat)
  | onRemoveNodeIDs (p2pID : P2pID)
  deriving DecidableEq

def step (calls : NodeCalls φ) : Section → Option (NodeCalls φ)
  | .updateNodeIDs p2pID seq nodeIDsMap =>
    some {
      manager := calls.manager.beginUpdateNodeIDs p2pID seq nodeIDsMap
      inProgress := calls.inProgress ++ [(p2pID, nodeIDsMap)] }
  | .updateNodeIDInfo call =>
    calls.inProgress[call]?.map fun (p2pID, nodeIDsMap) =>
      { manager := calls.manager.updateNodeIDInfo p2pID nodeIDsMap
        inProgress := calls.inProgress.eraseIdx call }
  | .onRemoveNodeIDs p2pID => some { calls with manager := calls.manager.onRemoveNodeIDs p2pID }

def Busy (inProgress : List (P2pID × NodeIDsMap)) (p2pID : P2pID) : Prop :=
  ∃ nodeIDsMap, (p2pID, nodeIDsMap) ∈ inProgress

def FindsItsOwn (calls : NodeCalls φ) : Section → Prop
  | .updateNodeIDInfo call =>
    ∀ p2pID nodeIDsMap, calls.inProgress[call]? = some (p2pID, nodeIDsMap) →
      Busy (calls.inProgress.eraseIdx call) p2pID ∨
        (calls.manager.Names p2pID nodeIDsMap ∧ p2pID ∈ calls.manager.p2pID2Seq)
  | _ => True

def Settled (calls : NodeCalls φ) : Prop :=
  ∀ p2pID, ¬ Busy calls.inProgress p2pID → calls.manager.Agrees p2pID

theorem Settled.step_iff {calls next : NodeCalls φ} {sect : Section} (settled : calls.Settled)
    (taken : calls.step sect = some next) : next.Settled ↔ calls.FindsItsOwn sect := by
  cases sect with
  | updateNodeIDs updated seq nodeIDsMap =>
    cases taken
    refine iff_of_true (fun p2pID idle => ?_) trivial
    have other : p2pID ≠ updated := by
      rintro rfl
      exact idle ⟨nodeIDsMap, List.mem_append_right _ List.mem_cons_self⟩
    have before : ¬ Busy calls.inProgress p2pID :=
      fun ⟨earlier, member⟩ => idle ⟨earlier, List.mem_append_left _ member⟩
    exact (settled p2pID before).others (.updateNodeIDs updated seq nodeIDsMap) other rfl rfl rfl
  | onRemoveNodeIDs removed =>
    cases taken
    refine iff_of_true (fun p2pID idle => ?_) trivial
    by_cases same : p2pID = removed
    · rw [same]
      exact GatewayNodeManager.agrees_onRemoveNodeIDs removed
    · exact (settled p2pID idle).others (.onRemoveNodeIDs removed) same rfl rfl rfl
  | updateNodeIDInfo call =>
    obtain ⟨⟨updated, nodeIDsMap⟩, found, rfl⟩ := Option.map_eq_some_iff.mp taken
    have own := @GatewayNodeManager.agrees_updateNodeIDInfo_iff φ calls.manager updated nodeIDsMap
    constructor
    · intro after p2pID last same
      rw [found] at same
      cases same
      by_cases busy : Busy (calls.inProgress.eraseIdx call) updated
      · exact .inl busy
      · exact .inr (own.mp (after updated busy))
    · intro finds p2pID idle
      by_cases same : p2pID = updated
      · rcases finds updated nodeIDsMap found with busy | kept
        · rw [same] at idle
          exact absurd busy idle
        · rw [same]
          exact own.mpr kept
      · have before : ¬ Busy calls.inProgress p2pID := by
          rintro ⟨earlier, member⟩
          rcases Places.mem_eraseIdx_or found member with here | left
          · cases here
            exact same rfl
          · exact idle ⟨earlier, left⟩
        exact (settled p2pID before).updateNodeIDInfo same nodeIDsMap

structure Initial (calls : NodeCalls φ) : Prop where
  peerGatewayNodes : calls.manager.peerGatewayNodes = ∅
  p2pID2Seq : calls.manager.p2pID2Seq = ∅
  nodeIDInfo : calls.manager.nodeIDInfo = ∅
  inProgress : calls.inProgress = []

theorem Initial.settled {calls : NodeCalls φ} (initial : calls.Initial) : calls.Settled := by
  intro p2pID _
  constructor
  · intro groupID nodeID
    rw [initial.peerGatewayNodes, initial.nodeIDInfo]
    exact iff_of_false (Index.holds_empty groupID nodeID p2pID) (AList.notMem_empty nodeID)
  · rw [initial.nodeIDInfo, initial.p2pID2Seq]
    exact iff_of_false (AList.notMem_empty p2pID) (AList.notMem_empty p2pID)

/-- In every run, the peers without a call in progress have records that agree all the way if and
    only if every call that ends as the last one of its peer finds the nodes that it wrote. All
    the records then agree whenever no call is in progress. -/
theorem settled_iff {start last : NodeCalls φ} (initial : start.Initial) {sections : List Section}
    (ran : Transition.run step start sections = some last) :
    ((∀ calls, Transition.Passes step start sections calls → calls.Settled) ↔
      Transition.Meets step FindsItsOwn start sections) ∧
    (Transition.Meets step FindsItsOwn start sections →
      ∀ calls, Transition.Passes step start sections calls → calls.inProgress = [] → ∀ p2pID,
        (∀ groupID nodeID, calls.manager.peerGatewayNodes.Holds groupID nodeID p2pID ↔
          Index.Lists ((calls.manager.nodeIDInfo.lookup p2pID).getD ∅) groupID nodeID) ∧
        (p2pID ∈ calls.manager.nodeIDInfo ↔ p2pID ∈ calls.manager.p2pID2Seq)) := by
  have settled := @Transition.passes_iff_meets _ _ step start last sections FindsItsOwn
    (fun _ => True) Settled (fun _ _ _ _ _ => trivial)
    (fun _ _ _ _ held taken => held.step_iff taken) trivial initial.settled ran
  refine ⟨settled, fun meets calls passes none p2pID => ?_⟩
  have agrees : calls.manager.Agrees p2pID := by
    apply settled.mpr meets calls passes p2pID
    rw [none]
    exact fun ⟨_, member⟩ => List.not_mem_nil member
  exact ⟨agrees.nodes, agrees.known⟩

section Crossed

def listing : NodeIDsMap := (∅ : NodeIDsMap).insert [1] ((∅ : KeySet StdString).insert [2] ())

/-- The session of the peer ends between the two sections of an update. -/
def crossed : List Section :=
  [.updateNodeIDs [112] 1 listing, .onRemoveNodeIDs [112], .updateNodeIDInfo 0]

def inTurn : List Section :=
  [.updateNodeIDs [112] 1 listing, .updateNodeIDInfo 0, .onRemoveNodeIDs [112]]

theorem inTurn_finds :
    Transition.Meets step FindsItsOwn ({ manager := {} } : NodeCalls Nat) inTurn := by
  refine ⟨trivial, fun p2pID nodeIDsMap found => ?_, trivial, trivial⟩
  cases found
  exact .inr ⟨GatewayNodeManager.names_beginUpdateNodeIDs {} [112] 1 listing, by decide⟩

theorem inTurn_settled :
    Transition.Meets step FindsItsOwn ({ manager := {} } : NodeCalls Nat) inTurn ∧
      ∃ calls : NodeCalls Nat, Transition.run step { manager := {} } inTurn = some calls ∧
        calls.Settled :=
  ⟨inTurn_finds, _, rfl, (settled_iff ⟨rfl, rfl, rfl, rfl⟩ rfl).1.mpr inTurn_finds _ (.of_run rfl)⟩

theorem crossed_disagrees :
    ∃ calls : NodeCalls Nat, Transition.run step { manager := {} } crossed = some calls ∧
      calls.inProgress = [] ∧ ¬ calls.manager.peerGatewayNodes.Holds [1] [2] [112] ∧
      Index.Lists ((calls.manager.nodeIDInfo.lookup [112]).getD ∅) [1] [2] ∧
      [112] ∈ calls.manager.nodeIDInfo ∧ [112] ∉ calls.manager.p2pID2Seq :=
  ⟨_, rfl, rfl, by decide, by decide, by decide, by decide⟩

end Crossed

end NodeCalls

end BcosGateway

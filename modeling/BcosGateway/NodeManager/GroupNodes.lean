import BcosGateway.NodeManager.Announcements
import BcosGateway.NodeManager.Dynamic
import BcosGateway.NodeManager.NodeListJson

/-! The nodes of a group, local and announced, in one list. -/

namespace BcosGateway

/-- `fromHexString`, which returns a null pointer for a text that is not hex, and `createKey`. On
    canonical texts the first does not fail and the two together are injective. -/
structure HexKeys (Key : Type) where
  fromHexString : StdString → Option Bytes
  createKey : Bytes → Key
  Canonical : StdString → Prop
  decodes : ∀ text, Canonical text → (fromHexString text).isSome
  injective : ∀ left right, Canonical left → Canonical right →
    (fromHexString left).map createKey = (fromHexString right).map createKey → left = right

def HexKeys.key {Key : Type} (keys : HexKeys Key) (nodeID : StdString) : Option Key :=
  (keys.fromHexString nodeID).map keys.createKey

structure NodeIDsNotice (φ Key : Type) where
  frontService : φ
  groupID : StdString
  nodeIDs : List Key
  deriving DecidableEq, Repr

namespace GatewayNodeManager

variable {φ Key : Type} (keys : HexKeys Key) (manager : GatewayNodeManager φ)

/-- Reads through the pointer that `fromHexString` returns, without looking at it. -/
def derefKey (nodeID : StdString) : Except Fault Key :=
  match keys.fromHexString nodeID with
  | none => .error .nullPointer
  | some bytes => .ok (keys.createKey bytes)

def queryLocalNodeIDsByGroup (groupID : StdString) : Except Fault (List Key) :=
  match manager.frontServiceInfos.lookup groupID with
  | none => .ok []
  | some nodes => nodes.keys.mapM (derefKey keys)

def queryNodeIDsByGroupID (groupID : StdString) : Except Fault (Bool × List Key) := do
  let nodeIDs ← manager.queryLocalNodeIDsByGroup keys groupID
  match manager.peerGatewayNodes.lookup groupID with
  | none => return (false, nodeIDs)
  | some nodes =>
    return (true, nodeIDs ++ nodes.keys.filterMap fun nodeID =>
      (keys.fromHexString nodeID).map keys.createKey)

def notifyGroup (groupID : StdString) (nodes : Table StdString (FrontServiceInfo φ)) :
    Except Fault (List (NodeIDsNotice φ Key)) := do
  let (_, nodeIDs) ← manager.queryNodeIDsByGroupID keys groupID
  return nodes.values.map fun info => { frontService := info.frontService, groupID, nodeIDs }

def notifyNodeIDs2FrontService : Except Fault (List (NodeIDsNotice φ Key)) := do
  let notices ← manager.frontServiceInfos.entries.mapM fun group =>
    manager.notifyGroup keys group.1 group.2
  return notices.flatten

def asyncGetNodeIDs (groupID : StdString) : Except Fault (List Key) := do
  let (_, nodeIDs) ← manager.queryNodeIDsByGroupID keys groupID
  return nodeIDs

/-! The states that a manager can reach; an iteration of an update may be the next step at any
time. -/

inductive TableStep (φ : Type) where
  | registerFrontService (groupID nodeID : StdString) (frontService : φ)
  | unregisterFrontService (groupID nodeID : StdString)
  | updateFrontServiceInfo (noEndpoints : Bool) (update : Update φ)
  | announcement (operation : Operation)

def take (manager : GatewayNodeManager φ) : TableStep φ → GatewayNodeManager φ
  | .registerFrontService groupID nodeID frontService =>
    (manager.registerFrontService groupID nodeID frontService).2
  | .unregisterFrontService groupID nodeID => (manager.unregisterFrontService groupID nodeID).2
  | .updateFrontServiceInfo noEndpoints update =>
    (manager.updateFrontServiceInfo noEndpoints update).1
  | .announcement operation => manager.apply operation

def hear (announced : Announcements) : TableStep φ → Announcements
  | .announcement operation => announce announced operation
  | _ => announced

def Stores (nodeID : StdString) : Prop :=
  ∃ groupID, manager.Registered groupID nodeID ∨
    ∃ p2pID, manager.peerGatewayNodes.Holds groupID nodeID p2pID

def ListsEachOnce (announced : Announcements) (groupID : StdString) (nodeIDs : List Key) : Prop :=
  nodeIDs.Nodup ∧ ∀ key, key ∈ nodeIDs ↔ ∃ nodeID, keys.key nodeID = some key ∧
    (manager.Registered groupID nodeID ∨ ∃ p2pID, announced.Lists p2pID groupID nodeID)

section Runs

variable {manager}

theorem updateFrontServiceInfo_peers (noEndpoints : Bool) (update : Update φ) :
    (manager.updateFrontServiceInfo noEndpoints update).1.peerGatewayNodes =
        manager.peerGatewayNodes ∧
      (manager.updateFrontServiceInfo noEndpoints update).1.p2pID2Seq = manager.p2pID2Seq := by
  unfold updateFrontServiceInfo
  split
  · split <;> exact ⟨rfl, rfl⟩
  · split <;> exact ⟨rfl, rfl⟩
  · split
    · exact ⟨rfl, rfl⟩
    · split <;> exact ⟨rfl, rfl⟩
  · exact ⟨rfl, rfl⟩
  · split
    · exact ⟨rfl, rfl⟩
    · split <;> exact ⟨rfl, rfl⟩

theorem Represents.congr {announced : Announcements} {after : GatewayNodeManager φ}
    (represents : manager.Represents announced)
    (same : after.peerGatewayNodes = manager.peerGatewayNodes ∧
      after.p2pID2Seq = manager.p2pID2Seq) : after.Represents announced := by
  refine ⟨?_, ?_, ?_⟩
  · rw [same.1]
    exact represents.holds
  · rw [same.2]
    exact represents.seqs
  · rw [same.1]
    exact represents.pruned

theorem Represents.take {announced : Announcements} (represents : manager.Represents announced)
    (step : TableStep φ) : (manager.take step).Represents (hear announced step) := by
  cases step with
  | registerFrontService groupID nodeID frontService =>
    exact represents.congr (manager.registerFrontService_peers groupID nodeID frontService)
  | unregisterFrontService groupID nodeID =>
    exact represents.congr (manager.unregisterFrontService_peers groupID nodeID)
  | updateFrontServiceInfo noEndpoints update =>
    exact represents.congr (updateFrontServiceInfo_peers noEndpoints update)
  | announcement operation => exact represents.apply operation

theorem Represents.steps {announced : Announcements} (represents : manager.Represents announced)
    (steps : List (TableStep φ)) :
    (steps.foldl GatewayNodeManager.take manager).Represents (steps.foldl hear announced) := by
  induction steps generalizing manager announced with
  | nil => exact represents
  | cons step steps ih => exact ih (represents.take step)

end Runs

section Keys

variable {keys} {nodeIDs : List StdString} (canonical : ∀ nodeID ∈ nodeIDs, keys.Canonical nodeID)

theorem key_isSome {nodeID : StdString} (canonical : keys.Canonical nodeID) :
    ∃ key, keys.key nodeID = some key ∧ derefKey keys nodeID = .ok key := by
  obtain ⟨bytes, read⟩ := Option.isSome_iff_exists.mp (keys.decodes nodeID canonical)
  refine ⟨keys.createKey bytes, ?_, ?_⟩
  · rw [HexKeys.key, read]
    rfl
  · rw [derefKey, read]

include canonical

theorem mapM_derefKey : nodeIDs.mapM (derefKey keys) = .ok (nodeIDs.filterMap keys.key) := by
  induction nodeIDs with
  | nil => rfl
  | cons nodeID nodeIDs ih =>
    obtain ⟨own, others⟩ := List.forall_mem_cons.mp canonical
    obtain ⟨key, read, deref⟩ := key_isSome own
    rw [List.mapM_cons, deref, ih others, List.filterMap_cons_some read]
    rfl

/-- Distinct canonical texts name distinct keys. -/
theorem nodup_keys_iff : (nodeIDs.filterMap keys.key).Nodup ↔ nodeIDs.Nodup := by
  induction nodeIDs with
  | nil => simp
  | cons nodeID nodeIDs ih =>
    obtain ⟨own, others⟩ := List.forall_mem_cons.mp canonical
    obtain ⟨key, read, _⟩ := key_isSome own
    have again : key ∈ nodeIDs.filterMap keys.key ↔ nodeID ∈ nodeIDs := by
      rw [List.mem_filterMap]
      constructor
      · rintro ⟨other, member, same⟩
        have equal : other = nodeID :=
          keys.injective other nodeID (others other member) own (same.trans read.symm)
        exact equal ▸ member
      · exact fun member => ⟨nodeID, member, read⟩
    rw [List.filterMap_cons_some read, List.nodup_cons, List.nodup_cons, again, ih others]

end Keys

section Queries

variable {keys manager} {announced : Announcements}
  (canonical : ∀ nodeID, manager.Stores nodeID → keys.Canonical nodeID)

def groupNodeIDs (manager : GatewayNodeManager φ) (groupID : StdString) : List StdString :=
  (manager.group groupID).keys ++ (manager.peerGatewayNodes.group groupID).keys

theorem mem_groupNodeIDs (pruned : manager.peerGatewayNodes.Pruned) (groupID nodeID : StdString) :
    nodeID ∈ manager.groupNodeIDs groupID ↔
      manager.Registered groupID nodeID ∨
        ∃ p2pID, manager.peerGatewayNodes.Holds groupID nodeID p2pID := by
  rw [groupNodeIDs, List.mem_append, pruned.mem_group, ← AList.mem_keys]
  rfl

theorem groupNodeIDs_nodup_iff (pruned : manager.peerGatewayNodes.Pruned) (groupID : StdString) :
    (manager.groupNodeIDs groupID).Nodup ↔
      ¬ ∃ nodeID, manager.Registered groupID nodeID ∧
        ∃ p2pID, manager.peerGatewayNodes.Holds groupID nodeID p2pID := by
  have locals : (manager.group groupID).keys.Nodup := AList.keys_nodup _
  have peers : (manager.peerGatewayNodes.group groupID).keys.Nodup := AList.keys_nodup _
  rw [groupNodeIDs, List.nodup_append]
  constructor
  · rintro ⟨_, _, apart⟩ ⟨nodeID, registered, held⟩
    have announced := (pruned.mem_group groupID nodeID).mpr held
    exact apart nodeID (AList.mem_keys.mp registered) nodeID announced rfl
  · intro apart
    refine ⟨locals, peers, ?_⟩
    rintro nodeID registered other announced rfl
    exact apart ⟨nodeID, registered, (pruned.mem_group groupID nodeID).mp announced⟩

include canonical

theorem queryLocalNodeIDsByGroup_ok (groupID : StdString) :
    manager.queryLocalNodeIDsByGroup keys groupID =
      .ok ((manager.group groupID).keys.filterMap keys.key) := by
  have stored : ∀ nodeID ∈ (manager.group groupID).keys, keys.Canonical nodeID :=
    fun nodeID member => canonical nodeID ⟨groupID, .inl (AList.mem_keys.mpr member)⟩
  unfold queryLocalNodeIDsByGroup
  unfold group at stored ⊢
  cases found : manager.frontServiceInfos.lookup groupID with
  | none => rfl
  | some nodes =>
    rw [found] at stored
    exact mapM_derefKey stored

theorem queryNodeIDsByGroupID_ok (groupID : StdString) :
    ∃ found, manager.queryNodeIDsByGroupID keys groupID =
      .ok (found, (manager.groupNodeIDs groupID).filterMap keys.key) := by
  rw [queryNodeIDsByGroupID, queryLocalNodeIDsByGroup_ok canonical, groupNodeIDs,
    List.filterMap_append]
  unfold Index.group
  cases manager.peerGatewayNodes.lookup groupID with
  | none => exact ⟨false, by simp [Bind.bind, Except.bind, Pure.pure, Except.pure]⟩
  | some nodes => exact ⟨true, rfl⟩

theorem notifyGroup_ok (groupID : StdString) (nodes : Table StdString (FrontServiceInfo φ)) :
    manager.notifyGroup keys groupID nodes =
      .ok (nodes.values.map fun info =>
        ⟨info.frontService, groupID, (manager.groupNodeIDs groupID).filterMap keys.key⟩) := by
  obtain ⟨found, query⟩ := queryNodeIDsByGroupID_ok canonical groupID
  rw [notifyGroup, query]
  rfl

/-- Every front service of a group is given the nodes of that group. -/
theorem notifyNodeIDs2FrontService_ok :
    ∃ notices, manager.notifyNodeIDs2FrontService keys = .ok notices ∧
      ∀ notice, notice ∈ notices ↔
        notice.nodeIDs = (manager.groupNodeIDs notice.groupID).filterMap keys.key ∧
          ∃ nodeID info, manager.queryLocalNodes notice.groupID nodeID = some info ∧
            info.frontService = notice.frontService := by
  have each := mapM_eq_ok fun group (_ : group ∈ manager.frontServiceInfos.entries) =>
    notifyGroup_ok canonical group.1 group.2
  rw [notifyNodeIDs2FrontService, each]
  refine ⟨_, rfl, fun notice => ?_⟩
  simp only [List.mem_flatten, List.mem_map, exists_exists_and_eq_and]
  constructor
  · rintro ⟨⟨groupID, nodes⟩, stored, info, member, rfl⟩
    obtain ⟨nodeID, inner⟩ := Table.mem_values.mp member
    have outer : manager.frontServiceInfos.lookup groupID = some nodes :=
      AList.mem_lookup_iff.mpr stored
    refine ⟨rfl, nodeID, info, ?_, rfl⟩
    rw [queryLocalNodes, group, outer]
    exact inner
  · rintro ⟨given, nodeID, info, inner, service⟩
    rw [queryLocalNodes, group] at inner
    cases outer : manager.frontServiceInfos.lookup notice.groupID with
    | none =>
      rw [outer] at inner
      cases inner
    | some nodes =>
      rw [outer] at inner
      refine ⟨⟨notice.groupID, nodes⟩, AList.mem_lookup_iff.mp outer, info,
        Table.mem_values.mpr ⟨nodeID, inner⟩, ?_⟩
      rw [← given, service]

end Queries

/-- The list is the union of the two tables without repetition exactly when no node of the group
    is in both. -/
theorem nodeIDs_once_iff (keys : HexKeys Key) (p2pNodeID : P2pID) (steps : List (TableStep φ))
    (groupID : StdString) :
    let manager := steps.foldl take ({ p2pNodeID } : GatewayNodeManager φ)
    let announced := steps.foldl hear fun _ => none
    (∀ nodeID, manager.Stores nodeID → keys.Canonical nodeID) →
      ∃ found nodeIDs, manager.queryNodeIDsByGroupID keys groupID = .ok (found, nodeIDs) ∧
        manager.asyncGetNodeIDs keys groupID = .ok nodeIDs ∧
        (∃ notices, manager.notifyNodeIDs2FrontService keys = .ok notices ∧
          ∀ notice, notice.groupID = groupID → (notice ∈ notices ↔ notice.nodeIDs = nodeIDs ∧
            ∃ nodeID info, manager.queryLocalNodes groupID nodeID = some info ∧
              info.frontService = notice.frontService)) ∧
        (manager.ListsEachOnce keys announced groupID nodeIDs ↔
          ¬ ∃ nodeID, manager.Registered groupID nodeID ∧
            ∃ p2pID, announced.Lists p2pID groupID nodeID) := by
  intro manager announced canonical
  have start : ({ p2pNodeID } : GatewayNodeManager φ).Represents fun _ => none :=
    represents_empty rfl rfl fun _ => rfl
  have represents : manager.Represents announced := start.steps steps
  have stored : ∀ nodeID ∈ manager.groupNodeIDs groupID, keys.Canonical nodeID :=
    fun nodeID member => canonical nodeID
      ⟨groupID, (mem_groupNodeIDs represents.pruned groupID nodeID).mp member⟩
  obtain ⟨found, query⟩ := queryNodeIDsByGroupID_ok canonical groupID
  obtain ⟨notices, notified, given⟩ := notifyNodeIDs2FrontService_ok canonical
  refine ⟨found, _, query, ?_, ⟨notices, notified, ?_⟩, ?_⟩
  · rw [asyncGetNodeIDs, query]
    rfl
  · rintro notice rfl
    exact given notice
  · have members (key : Key) : key ∈ (manager.groupNodeIDs groupID).filterMap keys.key ↔
        ∃ nodeID, keys.key nodeID = some key ∧ (manager.Registered groupID nodeID ∨
          ∃ p2pID, announced.Lists p2pID groupID nodeID) := by
      simp only [List.mem_filterMap, mem_groupNodeIDs represents.pruned, represents.holds]
      exact exists_congr fun nodeID => and_comm
    rw [ListsEachOnce, and_iff_left members, nodup_keys_iff stored,
      groupNodeIDs_nodup_iff represents.pruned]
    simp only [represents.holds]

/-! Lower-case hex, with the bytes themselves as keys. -/

def hexDigit (character : UInt8) : Option Nat :=
  if 48 ≤ character.toNat ∧ character.toNat ≤ 57 then some (character.toNat - 48)
  else if 97 ≤ character.toNat ∧ character.toNat ≤ 102 then some (character.toNat - 87)
  else none

def fromHex : StdString → Option Bytes
  | [] => some []
  | [_] => none
  | high :: low :: rest =>
    match hexDigit high, hexDigit low, fromHex rest with
    | some high, some low, some bytes => some (UInt8.ofNat (16 * high + low) :: bytes)
    | _, _, _ => none

theorem hexDigit_some {character : UInt8} {value : Nat} (read : hexDigit character = some value) :
    48 ≤ character.toNat ∧ character.toNat ≤ 57 ∧ character.toNat = value + 48 ∨
      97 ≤ character.toNat ∧ character.toNat ≤ 102 ∧ character.toNat = value + 87 := by
  unfold hexDigit at read
  split_ifs at read with digit letter
  · have same := Option.some.inj read
    omega
  · have same := Option.some.inj read
    omega

theorem fromHex_some {text : StdString} {bytes : Bytes} (read : fromHex text = some bytes) :
    text = [] ∧ bytes = [] ∨
      ∃ high low rest h l more, text = high :: low :: rest ∧ hexDigit high = some h ∧
        hexDigit low = some l ∧ fromHex rest = some more ∧
        bytes = UInt8.ofNat (16 * h + l) :: more := by
  match text with
  | [] =>
    cases read
    exact .inl ⟨rfl, rfl⟩
  | [_] => cases read
  | high :: low :: rest =>
    rw [fromHex] at read
    split at read
    · cases read
      exact .inr ⟨high, low, rest, _, _, _, rfl, ‹_›, ‹_›, ‹_›, rfl⟩
    · cases read

theorem fromHex_injective {left right : StdString} {bytes : Bytes}
    (first : fromHex left = some bytes) (second : fromHex right = some bytes) : left = right := by
  induction bytes generalizing left right with
  | nil =>
    rcases fromHex_some first with ⟨rfl, _⟩ | ⟨_, _, _, _, _, _, _, _, _, _, empty⟩
    · rcases fromHex_some second with ⟨rfl, _⟩ | ⟨_, _, _, _, _, _, _, _, _, _, empty⟩
      · rfl
      · cases empty
    · cases empty
  | cons byte bytes ih =>
    rcases fromHex_some first with ⟨_, empty⟩ | ⟨high, low, rest, h, l, more, rfl, reads⟩
    · cases empty
    rcases fromHex_some second with ⟨_, empty⟩ | ⟨high', low', rest', h', l', more', rfl, reads'⟩
    · cases empty
    obtain ⟨highs, lows, rests, same⟩ := reads
    obtain ⟨highs', lows', rests', same'⟩ := reads'
    obtain ⟨byte_eq, rfl⟩ := List.cons.inj same
    obtain ⟨byte_eq', rfl⟩ := List.cons.inj same'
    have digits := hexDigit_some highs
    have digits' := hexDigit_some highs'
    have units := hexDigit_some lows
    have units' := hexDigit_some lows'
    have value : 16 * h + l = 16 * h' + l' := by
      have words := congrArg UInt8.toNat (byte_eq.symm.trans byte_eq')
      have fits : 16 * h + l < 256 := by omega
      have fits' : 16 * h' + l' < 256 := by omega
      rwa [UInt8.toNat_ofNat_of_lt' fits, UInt8.toNat_ofNat_of_lt' fits'] at words
    have high_eq : high = high' := UInt8.toNat_inj.mp (by omega)
    have low_eq : low = low' := UInt8.toNat_inj.mp (by omega)
    rw [high_eq, low_eq, ih rests rests']

def hexKeys : HexKeys Bytes where
  fromHexString := fromHex
  createKey := id
  Canonical text := (fromHex text).isSome
  decodes text canonical := canonical
  injective left right canonical _ same := by
    obtain ⟨bytes, read⟩ := Option.isSome_iff_exists.mp canonical
    rw [Option.map_id, id, id] at same
    exact fromHex_injective read (same ▸ read)

def oneOfEach (announced : StdString) : List (TableStep Nat) :=
  [.registerFrontService [1] (asciiString "aa") 7,
    .announcement (.updateNodeIDs [9] 1
      ((∅ : NodeIDsMap).insert [1] ((∅ : KeySet StdString).insert announced ())))]

theorem oneOfEach_registered {announced groupID nodeID : StdString}
    (registered : ((oneOfEach announced).foldl take ({} : GatewayNodeManager Nat)).Registered
      groupID nodeID) : nodeID = asciiString "aa" := by
  have table : ((oneOfEach announced).foldl take ({} : GatewayNodeManager Nat)).group groupID =
      (((∅ : Table StdString (Table StdString (FrontServiceInfo Nat))).insert [1]
        ((∅ : Table StdString (FrontServiceInfo Nat)).insert (asciiString "aa")
          { frontService := 7 })).lookup groupID).getD ∅ := rfl
  rw [Registered, table, Table.lookup_insert_if] at registered
  split at registered
  · exact ((AList.mem_insert _).mp registered).resolve_right (AList.notMem_empty nodeID)
  · exact absurd registered (AList.notMem_empty nodeID)

theorem oneOfEach_lists {announced groupID nodeID : StdString} {p2pID : P2pID}
    (lists : Announcements.Lists ((oneOfEach announced).foldl hear fun _ => none)
      p2pID groupID nodeID) : nodeID = announced := by
  obtain ⟨seq, nodeIDsMap, latest, listed⟩ := lists
  by_cases peer : p2pID = [9]
  · subst peer
    have map : (∅ : NodeIDsMap).insert [1] ((∅ : KeySet StdString).insert announced ()) =
        nodeIDsMap := (Prod.mk.inj (Option.some.inj latest)).2
    rw [← map, Index.Lists, Table.lookup_insert_if] at listed
    split at listed
    · exact ((AList.mem_insert _).mp listed).resolve_right (AList.notMem_empty nodeID)
    · exact absurd listed (AList.notMem_empty nodeID)
  · have other : (oneOfEach announced).foldl hear (fun _ => none) p2pID = none :=
      Function.update_of_ne peer _ _
    rw [other] at latest
    cases latest

theorem oneOfEach_canonical {announced nodeID : StdString} (canonical : hexKeys.Canonical announced)
    (stored : ((oneOfEach announced).foldl take ({} : GatewayNodeManager Nat)).Stores nodeID) :
    hexKeys.Canonical nodeID := by
  have start : ({} : GatewayNodeManager Nat).Represents fun _ => none :=
    represents_empty rfl rfl fun _ => rfl
  have represents := start.steps (oneOfEach announced)
  obtain ⟨groupID, registered | ⟨p2pID, held⟩⟩ := stored
  · rw [oneOfEach_registered registered]
    exact (by decide : (fromHex (asciiString "aa")).isSome = true)
  · rw [oneOfEach_lists ((represents.holds groupID nodeID p2pID).mp held)]
    exact canonical

theorem apartNodes_once :
    ∃ nodeIDs, ((oneOfEach (asciiString "bb")).foldl take
      ({ p2pNodeID := [] } : GatewayNodeManager Nat)).ListsEachOnce hexKeys
        ((oneOfEach (asciiString "bb")).foldl hear fun _ => none) [1] nodeIDs := by
  have canonical : hexKeys.Canonical (asciiString "bb") :=
    (by decide : (fromHex (asciiString "bb")).isSome = true)
  obtain ⟨_, nodeIDs, _, _, _, once⟩ := nodeIDs_once_iff hexKeys [] (oneOfEach (asciiString "bb"))
    [1] fun nodeID stored => oneOfEach_canonical canonical stored
  refine ⟨nodeIDs, once.mpr ?_⟩
  rintro ⟨nodeID, registered, p2pID, lists⟩
  rw [oneOfEach_registered registered] at lists
  exact absurd (oneOfEach_lists lists) (by decide)

/-- A node that is registered here and announced by a peer is listed twice. -/
theorem sharedNode_twice :
    let manager := (oneOfEach (asciiString "aa")).foldl take ({} : GatewayNodeManager Nat)
    (∀ nodeID, manager.Stores nodeID → hexKeys.Canonical nodeID) ∧
      manager.queryNodeIDsByGroupID hexKeys [1] = .ok (true, [[170], [170]]) ∧
      ¬ manager.ListsEachOnce hexKeys ((oneOfEach (asciiString "aa")).foldl hear fun _ => none)
        [1] [[170], [170]] := by
  refine ⟨fun nodeID => oneOfEach_canonical ?_, rfl, fun once => absurd once.1 (by decide)⟩
  exact (by decide : (fromHex (asciiString "aa")).isSome = true)

end GatewayNodeManager

end BcosGateway

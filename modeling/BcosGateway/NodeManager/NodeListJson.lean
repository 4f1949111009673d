import BcosGateway.NodeManager.Basic
import Mathlib.Tactic.Tauto

/-! The node list of a gateway as a JSON document. -/

namespace BcosGateway

/-- A `Json::Value`. The members of an object are in the order of their names; of a real number
    only its conversions are used. -/
inductive Json where
  | null
  | bool (value : Bool)
  | int (value : Int)
  | real (asUInt : Option UInt32) (asString : StdString)
  | string (value : StdString)
  | array (values : List Json)
  | object (members : List (StdString × Json))

/-- jsoncpp. `parse` fails where the reader returns false or throws. -/
structure JsonCpp where
  parse : StdString → Option Json
  write : Json → StdString

namespace Json

/-! The accessors; `none` where jsoncpp throws. -/

def member (name : String) : Json → Option Json
  | null => some null
  | object members => some ((members.lookup (asciiString name)).getD null)
  | _ => none

def elements : Json → Option (List Json)
  | array values => some values
  | object (_ :: _) => none
  | _ => some []

def asUInt : Json → Option UInt32
  | null => some 0
  | bool value => some (if value then 1 else 0)
  | int value => if 0 ≤ value ∧ value < 2 ^ 32 then some (UInt32.ofNat value.toNat) else none
  | real asUInt _ => asUInt
  | _ => none

def asString : Json → Option StdString
  | null => some []
  | bool value => some (asciiString (if value then "true" else "false"))
  | int value => some (asciiString (toString value))
  | real _ asString => some asString
  | string value => some value
  | _ => none

/-! The compact text of a document whose strings need no escapes. -/

mutual

def compact : Json → StdString
  | null => asciiString "null"
  | bool value => asciiString (if value then "true" else "false")
  | int value => asciiString (toString value)
  | real _ asString => asString
  | string value => quote value
  | array values => asciiString "[" ++ compactValues values ++ asciiString "]"
  | object members => asciiString "\x7b" ++ compactMembers members ++ asciiString "\x7d"

def quote (value : StdString) : StdString := [34] ++ value ++ [34]

def compactValues : List Json → StdString
  | [] => []
  | [value] => value.compact
  | value :: values => value.compact ++ asciiString "," ++ compactValues values

def compactMembers : List (StdString × Json) → StdString
  | [] => []
  | [(name, value)] => quote name ++ asciiString ":" ++ value.compact
  | (name, value) :: members =>
    quote name ++ asciiString ":" ++ value.compact ++ asciiString "," ++ compactMembers members

end

end Json

def JsonCpp.reading (document : Json) : JsonCpp where
  parse text := if text = document.compact ++ [10] then some document else none
  write document := document.compact ++ [10]

def JsonCpp.readingAny (documents : List Json) : JsonCpp where
  parse text := documents.find? fun document => document.compact ++ [10] = text
  write document := document.compact ++ [10]

namespace GatewayNodeManager

def parseNodeID (nodeIDsSet : KeySet StdString) (nodeID : Json) : Option (KeySet StdString) := do
  return nodeIDsSet.insert (← nodeID.asString) ()

def parseNodeInfo (nodeIDsMap : NodeIDsMap) (jNode : Json) : Option NodeIDsMap := do
  let groupID ← (← jNode.member "groupID").asString
  let nodeIDs ← (← jNode.member "nodeIDs").elements
  let nodeIDsSet ← nodeIDs.foldlM parseNodeID ∅
  return nodeIDsMap.insert groupID nodeIDsSet

def parseReceivedJson (json : JsonCpp) (text : StdString) : Option (UInt32 × NodeIDsMap) := do
  let root ← json.parse text
  let statusSeq ← (← root.member "statusSeq").asUInt
  let nodeInfoList ← (← root.member "nodeInfoList").elements
  let nodeIDsMap ← nodeInfoList.foldlM parseNodeInfo ∅
  return (statusSeq, nodeIDsMap)

def nodeInfo (groupID : StdString) (nodeIDs : KeySet StdString) : Json :=
  .object [(asciiString "groupID", .string groupID),
    (asciiString "nodeIDs", .array (nodeIDs.keys.map .string))]

def nodeListDocument (seq : UInt32) (localGroup2NodeIDs : NodeIDsMap) : Json :=
  .object [(asciiString "nodeInfoList",
      .array (localGroup2NodeIDs.entries.map fun entry => nodeInfo entry.1 entry.2)),
    (asciiString "statusSeq", .int seq.toNat)]

variable {φ : Type} (manager : GatewayNodeManager φ)

def onReceiveNodeIDs (json : JsonCpp) (p2pID : P2pID) (nodeIDsJson : StdString) :
    GatewayNodeManager φ :=
  match parseReceivedJson json nodeIDsJson with
  | none => manager
  | some (statusSeq, nodeIDsMap) => manager.updateNodeIDs p2pID statusSeq nodeIDsMap

def localGroup2NodeIDs : NodeIDsMap :=
  Table.prune (fun nodes => Table.filterMap (fun _ _ => some ()) nodes) manager.frontServiceInfos

def onRequestNodeIDs (json : JsonCpp) : StdString :=
  json.write (nodeListDocument manager.statusSeq manager.localGroup2NodeIDs)

def Registered (groupID nodeID : StdString) : Prop := nodeID ∈ manager.group groupID

instance (groupID nodeID : StdString) : Decidable (manager.Registered groupID nodeID) :=
  inferInstanceAs (Decidable (_ ∈ _))

theorem lists_localGroup2NodeIDs (groupID nodeID : StdString) :
    Index.Lists manager.localGroup2NodeIDs groupID nodeID ↔ manager.Registered groupID nodeID := by
  have keys (nodes : Table StdString (FrontServiceInfo φ)) :
      nodeID ∈ (nodes.filterMap fun _ _ => some () : KeySet StdString) ↔ nodeID ∈ nodes := by
    rw [← AList.lookup_isSome, ← AList.lookup_isSome, Table.lookup_filterMap]
    cases nodes.lookup nodeID <;> rfl
  unfold Index.Lists Registered group localGroup2NodeIDs
  rw [Table.mem_prune]
  cases manager.frontServiceInfos.lookup groupID with
  | none => exact Iff.rfl
  | some nodes => exact keys nodes

theorem parseNodeInfo_nodeInfo (nodeIDsMap : NodeIDsMap) (groupID : StdString)
    (nodeIDs : KeySet StdString) :
    ∃ nodeIDsSet, parseNodeInfo nodeIDsMap (nodeInfo groupID nodeIDs) =
        some (nodeIDsMap.insert groupID nodeIDsSet) ∧
      ∀ nodeID, nodeID ∈ nodeIDsSet ↔ nodeID ∈ nodeIDs := by
  have insertAll (keys : List StdString) (start : KeySet StdString) :
      ∃ nodeIDsSet, (keys.map Json.string).foldlM parseNodeID start = some nodeIDsSet ∧
        ∀ nodeID, nodeID ∈ nodeIDsSet ↔ nodeID ∈ keys ∨ nodeID ∈ start := by
    induction keys generalizing start with
    | nil => exact ⟨start, rfl, by simp⟩
    | cons key keys ih =>
      obtain ⟨nodeIDsSet, folded, members⟩ := ih (start.insert key ())
      refine ⟨nodeIDsSet, folded, fun nodeID => ?_⟩
      rw [members, AList.mem_insert, List.mem_cons]
      tauto
  obtain ⟨nodeIDsSet, folded, members⟩ := insertAll nodeIDs.keys ∅
  refine ⟨nodeIDsSet, ?_, fun nodeID => ?_⟩
  · have group : (nodeInfo groupID nodeIDs).member "groupID" = some (.string groupID) := by rfl
    have nodes : (nodeInfo groupID nodeIDs).member "nodeIDs" =
        some (.array (nodeIDs.keys.map .string)) := by rfl
    unfold parseNodeInfo
    rw [group, nodes]
    show ((nodeIDs.keys.map Json.string).foldlM parseNodeID ∅).bind _ = _
    rw [folded]
    rfl
  · rw [members]
    exact or_iff_left (AList.notMem_empty nodeID)

theorem lists_insert {nodeIDsMap : NodeIDsMap} {groupID other nodeID : StdString}
    {nodeIDs : KeySet StdString} :
    Index.Lists (nodeIDsMap.insert groupID nodeIDs) other nodeID ↔
      if other = groupID then nodeID ∈ nodeIDs else Index.Lists nodeIDsMap other nodeID := by
  unfold Index.Lists
  rw [Table.lookup_insert_if]
  by_cases same : other = groupID
  · rw [if_pos same, if_pos same, Option.getD_some]
  · rw [if_neg same, if_neg same]

theorem foldlM_parseNodeInfo (entries : List (Σ _ : StdString, KeySet StdString))
    (distinct : entries.NodupKeys) (start : NodeIDsMap) :
    ∃ received, (entries.map fun entry => nodeInfo entry.1 entry.2).foldlM parseNodeInfo start =
        some received ∧
      ∀ groupID nodeID, Index.Lists received groupID nodeID ↔
        match entries.dlookup groupID with
        | some nodeIDs => nodeID ∈ nodeIDs
        | none => Index.Lists start groupID nodeID := by
  induction entries generalizing start with
  | nil => exact ⟨start, rfl, fun _ _ => Iff.rfl⟩
  | cons entry entries ih =>
    obtain ⟨absent, apart⟩ := List.nodupKeys_cons.mp distinct
    obtain ⟨nodeIDsSet, parsed, members⟩ := parseNodeInfo_nodeInfo start entry.1 entry.2
    obtain ⟨received, folded, lists⟩ := ih apart (start.insert entry.1 nodeIDsSet)
    refine ⟨received, ?_, fun groupID nodeID => ?_⟩
    · rw [List.map_cons, List.foldlM_cons, parsed]
      exact folded
    · rw [lists]
      by_cases same : groupID = entry.1
      · subst same
        rw [List.dlookup_eq_none.mpr absent, List.dlookup_cons_eq]
        simp only
        rw [lists_insert, if_pos rfl, members]
      · rw [List.dlookup_cons_ne _ _ same]
        cases entries.dlookup groupID with
        | none =>
          simp only
          rw [lists_insert, if_neg same]
        | some nodeIDs => exact Iff.rfl

theorem member_statusSeq (seq : UInt32) (nodeIDsMap : NodeIDsMap) :
    (nodeListDocument seq nodeIDsMap).member "statusSeq" = some (.int seq.toNat) := by rfl

theorem member_nodeInfoList (seq : UInt32) (nodeIDsMap : NodeIDsMap) :
    (nodeListDocument seq nodeIDsMap).member "nodeInfoList" =
      some (.array (nodeIDsMap.entries.map fun entry => nodeInfo entry.1 entry.2)) := by rfl

theorem asUInt_toNat (seq : UInt32) : (Json.int seq.toNat).asUInt = some seq := by
  have bound := seq.toNat_lt
  rw [Json.asUInt, if_pos ⟨by omega, by omega⟩, Int.toNat_natCast, UInt32.ofNat_toNat]

/-- A document that is read back as it was written lists the same nodes and the same seq. -/
theorem parseReceivedJson_document {json : JsonCpp} {seq : UInt32} {nodeIDsMap : NodeIDsMap}
    (faithful : json.parse (json.write (nodeListDocument seq nodeIDsMap)) =
      some (nodeListDocument seq nodeIDsMap)) :
    ∃ received, parseReceivedJson json (json.write (nodeListDocument seq nodeIDsMap)) =
        some (seq, received) ∧
      ∀ groupID nodeID, Index.Lists received groupID nodeID ↔
        Index.Lists nodeIDsMap groupID nodeID := by
  obtain ⟨received, folded, lists⟩ :=
    foldlM_parseNodeInfo nodeIDsMap.entries nodeIDsMap.nodupKeys ∅
  refine ⟨received, ?_, fun groupID nodeID => ?_⟩
  · unfold parseReceivedJson
    rw [faithful, Option.bind_eq_bind, Option.bind_some, member_statusSeq, Option.bind_eq_bind,
      Option.bind_some, asUInt_toNat, Option.bind_eq_bind, Option.bind_some, member_nodeInfoList,
      Option.bind_eq_bind, Option.bind_some, Json.elements, Option.bind_some, folded]
    rfl
  · rw [lists]
    unfold Index.Lists AList.lookup
    cases nodeIDsMap.entries.dlookup groupID with
    | none => exact Iff.rfl
    | some nodeIDs => exact Iff.rfl

theorem onReceiveNodeIDs_own (json : JsonCpp) (p2pID : P2pID) (nodeIDsJson : StdString) :
    (manager.onReceiveNodeIDs json p2pID nodeIDsJson).p2pNodeID = manager.p2pNodeID ∧
      (manager.onReceiveNodeIDs json p2pID nodeIDsJson).statusSeq = manager.statusSeq ∧
      (manager.onReceiveNodeIDs json p2pID nodeIDsJson).frontServiceInfos =
        manager.frontServiceInfos := by
  unfold onReceiveNodeIDs
  cases parseReceivedJson json nodeIDsJson with
  | none => exact ⟨rfl, rfl, rfl⟩
  | some received => exact ⟨rfl, rfl, rfl⟩

end GatewayNodeManager

end BcosGateway

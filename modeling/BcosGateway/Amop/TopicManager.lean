import BcosGateway.NodeManager.NodeListJson
import Mathlib.Data.Finset.Basic
import Mathlib.Data.List.Sort

/-! The topics that the clients of a gateway subscribe, and what it knows of the topics of its
peers. -/

namespace BcosGateway

/-- `std::set<TopicItem>`. A topic item is its name, and the names order the set. -/
abbrev TopicItems := Finset StdString

namespace TopicItems

def inOrder (items : TopicItems) : List StdString :=
  Quot.liftOn items.val (List.insertionSort (· ≤ ·)) fun first second (permuted : first.Perm second) =>
    List.Perm.eq_of_pairwise' (List.pairwise_insertionSort (· ≤ ·) first)
      (List.pairwise_insertionSort (· ≤ ·) second)
      ((List.perm_insertionSort (· ≤ ·) first).trans
        (permuted.trans (List.perm_insertionSort (· ≤ ·) second).symm))

theorem mem_inOrder {items : TopicItems} {topic : StdString} :
    topic ∈ items.inOrder ↔ topic ∈ items := by
  obtain ⟨topics, distinct⟩ := items
  induction topics using Quot.inductionOn with
  | h topics => exact List.mem_insertionSort (· ≤ ·)

end TopicItems

structure TopicManager where
  client2TopicItems : Table StdString TopicItems := ∅
  topicSeq : UInt32 := 1
  nodeID2TopicSeq : Table P2pID UInt32 := ∅
  nodeID2TopicItems : Table P2pID TopicItems := ∅

namespace TopicManager

/-! The topics of the clients. -/

def parseTopic (topicItems : TopicItems) (topic : Json) : Option TopicItems := do
  return insert (← topic.asString) topicItems

def parseSubTopicsJson (json : JsonCpp) (text : StdString) : Option TopicItems := do
  let root ← json.parse text
  let topics ← (← root.member "topics").elements
  topics.foldlM parseTopic ∅

variable (manager : TopicManager)

def incTopicSeq : TopicManager := { manager with topicSeq := manager.topicSeq + 1 }

def subTopic (client : StdString) (topicItems : TopicItems) : TopicManager :=
  { manager with
    client2TopicItems := manager.client2TopicItems.insert client topicItems }.incTopicSeq

def subTopicJson (json : JsonCpp) (client topicJson : StdString) : TopicManager :=
  match parseSubTopicsJson json topicJson with
  | none => manager
  | some topicItems => manager.subTopic client topicItems

def removeTopics (client : StdString) (topicList : List StdString) : TopicManager :=
  match manager.client2TopicItems.lookup client with
  | none => manager
  | some items =>
    { manager with
      client2TopicItems := manager.client2TopicItems.insert client
        (topicList.foldl Finset.erase items) }.incTopicSeq

def removeTopicsByClients (clients : List StdString) : TopicManager :=
  { manager with
    client2TopicItems := clients.foldl (fun table client => table.erase client)
      manager.client2TopicItems }.incTopicSeq

/-- What `queryTopicsSubByClient` collects while it holds the lock. -/
def topicItems : TopicItems :=
  manager.client2TopicItems.values.foldl (fun topicItems items => topicItems ∪ items) ∅

def topicDocument (seq : UInt32) (topicItems : TopicItems) : Json :=
  .object [(asciiString "topicItems", .array (topicItems.inOrder.map .string)),
    (asciiString "topicSeq", .int seq.toNat)]

def queryTopicsSubByClient (json : JsonCpp) : StdString :=
  json.write (topicDocument manager.topicSeq manager.topicItems)

def queryClientsByTopic (topic : StdString) : List StdString :=
  (manager.client2TopicItems.entries.filter fun entry => topic ∈ entry.2).keys

/-! The topics of the peers. -/

def parseTopicItemsJson (json : JsonCpp) (text : StdString) : Option (UInt32 × TopicItems) := do
  let root ← json.parse text
  let topicSeq ← (← root.member "topicSeq").asUInt
  let topics ← (← root.member "topicItems").elements
  let topicItems ← topics.foldlM parseTopic ∅
  return (topicSeq, topicItems)

def checkTopicSeq (nodeID : P2pID) (topicSeq : UInt32) : Bool :=
  match manager.nodeID2TopicSeq.lookup nodeID with
  | none => true
  | some seq => seq != topicSeq

def eraseOffline (nodeIDs : List P2pID) (manager : TopicManager) (nodeID : P2pID) : TopicManager :=
  if nodeID ∈ nodeIDs then manager
  else
    { manager with
      nodeID2TopicSeq := manager.nodeID2TopicSeq.erase nodeID
      nodeID2TopicItems := manager.nodeID2TopicItems.erase nodeID }

def notifyNodeIDs (nodeIDs : List P2pID) : TopicManager :=
  manager.nodeID2TopicSeq.keys.foldl (eraseOffline nodeIDs) manager

def updateSeqAndTopicsByNodeID (nodeID : P2pID) (topicSeq : UInt32) (topicItems : TopicItems) :
    TopicManager :=
  { manager with
    nodeID2TopicSeq := manager.nodeID2TopicSeq.insert nodeID topicSeq
    nodeID2TopicItems := manager.nodeID2TopicItems.insert nodeID topicItems }

def queryNodeIDsByTopic (connected : P2pID → Bool) (topic : StdString) : List P2pID :=
  (manager.nodeID2TopicItems.entries.filter fun entry =>
    topic ∈ entry.2 ∧ connected entry.1).keys

def Subscribed (topic : StdString) : Prop :=
  ∃ client items, manager.client2TopicItems.lookup client = some items ∧ topic ∈ items

theorem mem_topicItems (topic : StdString) : topic ∈ manager.topicItems ↔ manager.Subscribed topic := by
  have collected (tables : List TopicItems) (start : TopicItems) :
      topic ∈ tables.foldl (fun topicItems items => topicItems ∪ items) start ↔
        topic ∈ start ∨ ∃ items ∈ tables, topic ∈ items := by
    induction tables generalizing start with
    | nil => simp
    | cons items tables ih =>
      rw [List.foldl_cons, ih, Finset.mem_union, List.exists_mem_cons_iff, or_assoc]
  unfold topicItems Subscribed
  rw [collected, or_iff_right (Finset.notMem_empty topic)]
  simp only [Table.mem_values]
  tauto

theorem mem_queryClientsByTopic (topic client : StdString) :
    client ∈ manager.queryClientsByTopic topic ↔
      ∃ items, manager.client2TopicItems.lookup client = some items ∧ topic ∈ items :=
  manager.client2TopicItems.mem_keys_filter (fun _ items => topic ∈ items) client

theorem queryClientsByTopic_nodup (topic : StdString) : (manager.queryClientsByTopic topic).Nodup :=
  manager.client2TopicItems.keys_filter_nodup _

theorem mem_queryNodeIDsByTopic (connected : P2pID → Bool) (topic : StdString) (nodeID : P2pID) :
    nodeID ∈ manager.queryNodeIDsByTopic connected topic ↔ connected nodeID ∧
      ∃ items, manager.nodeID2TopicItems.lookup nodeID = some items ∧ topic ∈ items := by
  have named := manager.nodeID2TopicItems.mem_keys_filter
    (fun nodeID items => topic ∈ items ∧ connected nodeID) nodeID
  simp only [queryNodeIDsByTopic, named]
  tauto

theorem queryNodeIDsByTopic_nodup (connected : P2pID → Bool) (topic : StdString) :
    (manager.queryNodeIDsByTopic connected topic).Nodup :=
  manager.nodeID2TopicItems.keys_filter_nodup _

theorem checkTopicSeq_false {manager : TopicManager} {nodeID : P2pID} {topicSeq : UInt32}
    (unchanged : manager.checkTopicSeq nodeID topicSeq = false) :
    ∃ seq, manager.nodeID2TopicSeq.lookup nodeID = some seq ∧ seq = topicSeq := by
  unfold checkTopicSeq at unchanged
  cases stored : manager.nodeID2TopicSeq.lookup nodeID with
  | none =>
    rw [stored] at unchanged
    cases unchanged
  | some seq =>
    rw [stored] at unchanged
    exact ⟨seq, rfl, bne_eq_false_iff_eq.mp unchanged⟩

theorem foldlM_parseTopic (topics : List StdString) (start : TopicItems) :
    (topics.map Json.string).foldlM parseTopic start = some (topics.foldl (fun items topic =>
      insert topic items) start) := by
  induction topics generalizing start with
  | nil => rfl
  | cons topic topics ih => exact ih (insert topic start)

theorem foldl_insert_inOrder (items : TopicItems) :
    items.inOrder.foldl (fun items topic => insert topic items) ∅ = items := by
  have inserted (topics : List StdString) (start : TopicItems) (topic : StdString) :
      topic ∈ topics.foldl (fun items topic => insert topic items) start ↔
        topic ∈ topics ∨ topic ∈ start := by
    induction topics generalizing start with
    | nil => simp
    | cons head topics ih =>
      rw [List.foldl_cons, ih, Finset.mem_insert, List.mem_cons]
      tauto
  ext topic
  rw [inserted, TopicItems.mem_inOrder]
  exact or_iff_left (Finset.notMem_empty topic)

/-- A document that is read back as it was written has the same number and the same topics. -/
theorem parseTopicItemsJson_document {json : JsonCpp} {seq : UInt32} {items : TopicItems}
    (faithful : json.parse (json.write (topicDocument seq items)) = some (topicDocument seq items)) :
    parseTopicItemsJson json (json.write (topicDocument seq items)) = some (seq, items) := by
  have topicSeq : (topicDocument seq items).member "topicSeq" = some (.int seq.toNat) := by rfl
  have topicItems : (topicDocument seq items).member "topicItems" =
      some (.array (items.inOrder.map .string)) := by rfl
  unfold parseTopicItemsJson
  rw [faithful, Option.bind_eq_bind, Option.bind_some, topicSeq, Option.bind_eq_bind,
    Option.bind_some, GatewayNodeManager.asUInt_toNat, Option.bind_eq_bind, Option.bind_some,
    topicItems, Option.bind_eq_bind, Option.bind_some, Json.elements, Option.bind_some,
    foldlM_parseTopic, foldl_insert_inOrder]
  rfl

/-! What is stored of a peer. -/

def stored (nodeID : P2pID) : Option UInt32 × Option TopicItems :=
  (manager.nodeID2TopicSeq.lookup nodeID, manager.nodeID2TopicItems.lookup nodeID)

def Stores (condition : P2pID → UInt32 → TopicItems → Prop) : Prop :=
  ∀ nodeID, manager.stored nodeID = (none, none) ∨
    ∃ seq items, manager.stored nodeID = (some seq, some items) ∧ condition nodeID seq items

theorem stored_updateSeqAndTopicsByNodeID (nodeID other : P2pID) (seq : UInt32)
    (items : TopicItems) :
    (manager.updateSeqAndTopicsByNodeID nodeID seq items).stored other =
      if other = nodeID then (some seq, some items) else manager.stored other := by
  unfold stored updateSeqAndTopicsByNodeID
  simp only [Table.lookup_insert_if]
  split <;> rfl

theorem stored_eraseOffline (nodeIDs : List P2pID) (nodeID other : P2pID) :
    (eraseOffline nodeIDs manager nodeID).stored other =
      if other = nodeID ∧ other ∉ nodeIDs then (none, none) else manager.stored other := by
  unfold stored eraseOffline
  by_cases online : nodeID ∈ nodeIDs
  · rw [if_pos online, if_neg (fun gone => gone.2 (gone.1 ▸ online))]
  · rw [if_neg online]
    simp only [Table.lookup_erase_if]
    by_cases same : other = nodeID
    · rw [if_pos same, if_pos same, if_pos ⟨same, same ▸ online⟩]
    · rw [if_neg same, if_neg same, if_neg (fun gone => same gone.1)]

theorem stored_notifyNodeIDs (nodeIDs : List P2pID) (nodeID : P2pID) :
    (manager.notifyNodeIDs nodeIDs).stored nodeID =
      if nodeID ∈ manager.nodeID2TopicSeq ∧ nodeID ∉ nodeIDs then (none, none)
      else manager.stored nodeID := by
  have erased (visited : List P2pID) (start : TopicManager) :
      (visited.foldl (eraseOffline nodeIDs) start).stored nodeID =
        if nodeID ∈ visited ∧ nodeID ∉ nodeIDs then (none, none) else start.stored nodeID := by
    induction visited generalizing start with
    | nil => rfl
    | cons head visited ih =>
      rw [List.foldl_cons, ih, stored_eraseOffline]
      grind
  simp only [AList.mem_keys]
  exact erased manager.nodeID2TopicSeq.keys manager

theorem notifyNodeIDs_clients (nodeIDs : List P2pID) :
    (manager.notifyNodeIDs nodeIDs).topicSeq = manager.topicSeq ∧
      (manager.notifyNodeIDs nodeIDs).client2TopicItems = manager.client2TopicItems := by
  have kept (visited : List P2pID) (start : TopicManager) :
      (visited.foldl (eraseOffline nodeIDs) start).topicSeq = start.topicSeq ∧
        (visited.foldl (eraseOffline nodeIDs) start).client2TopicItems =
          start.client2TopicItems := by
    induction visited generalizing start with
    | nil => exact ⟨rfl, rfl⟩
    | cons head visited ih =>
      rw [List.foldl_cons, (ih _).1, (ih _).2]
      unfold eraseOffline
      split <;> exact ⟨rfl, rfl⟩
  exact kept manager.nodeID2TopicSeq.keys manager

variable {manager} {condition weaker : P2pID → UInt32 → TopicItems → Prop}

theorem Stores.update (stores : manager.Stores condition) {nodeID : P2pID} {seq : UInt32}
    {items : TopicItems} (met : condition nodeID seq items) :
    (manager.updateSeqAndTopicsByNodeID nodeID seq items).Stores condition := by
  intro other
  rw [stored_updateSeqAndTopicsByNodeID]
  by_cases same : other = nodeID
  · rw [if_pos same]
    exact .inr ⟨seq, items, rfl, same ▸ met⟩
  · rw [if_neg same]
    exact stores other

theorem Stores.isSome (stores : manager.Stores condition) (nodeID : P2pID) :
    (manager.nodeID2TopicSeq.lookup nodeID).isSome ↔
      (manager.nodeID2TopicItems.lookup nodeID).isSome := by
  rcases stores nodeID with nothing | ⟨seq, items, found, _⟩
  · obtain ⟨noSeq, noItems⟩ := Prod.mk.inj nothing
    rw [noSeq, noItems]
    exact Iff.rfl
  · obtain ⟨seqFound, itemsFound⟩ := Prod.mk.inj found
    rw [seqFound, itemsFound]
    exact Iff.rfl

theorem Stores.notifyNodeIDs (stores : manager.Stores condition) (nodeIDs : List P2pID) :
    (manager.notifyNodeIDs nodeIDs).Stores condition := by
  intro nodeID
  rw [stored_notifyNodeIDs]
  split
  · exact .inl rfl
  · exact stores nodeID

theorem Stores.weaken (stores : manager.Stores condition)
    (weakens : ∀ nodeID seq items, condition nodeID seq items → weaker nodeID seq items) :
    manager.Stores weaker := by
  intro nodeID
  rcases stores nodeID with nothing | ⟨seq, items, found, met⟩
  · exact .inl nothing
  · exact .inr ⟨seq, items, found, weakens nodeID seq items met⟩

/-! What changes the topics of the clients, and what changes those of the peers. -/

inductive Operation where
  | subTopic (client : StdString) (topicItems : TopicItems)
  | subTopicJson (client topicJson : StdString)
  | removeTopics (client : StdString) (topicList : List StdString)
  | removeTopicsByClients (clients : List StdString)

def perform (json : JsonCpp) (manager : TopicManager) : Operation → TopicManager
  | .subTopic client topicItems => manager.subTopic client topicItems
  | .subTopicJson client topicJson => manager.subTopicJson json client topicJson
  | .removeTopics client topicList => manager.removeTopics client topicList
  | .removeTopicsByClients clients => manager.removeTopicsByClients clients

/-- An operation of a client counts, or it changes nothing. -/
theorem perform_counts (json : JsonCpp) (manager : TopicManager) (operation : Operation) :
    (manager.perform json operation).stored = manager.stored ∧
      ((manager.perform json operation).topicSeq = manager.topicSeq + 1 ∨
        manager.perform json operation = manager) := by
  cases operation with
  | subTopic client topicItems => exact ⟨rfl, .inl rfl⟩
  | subTopicJson client topicJson =>
    cases parsed : parseSubTopicsJson json topicJson with
    | none =>
      simp only [perform, subTopicJson, parsed]
      exact ⟨trivial, .inr trivial⟩
    | some topicItems =>
      simp only [perform, subTopicJson, parsed]
      exact ⟨rfl, .inl rfl⟩
  | removeTopics client topicList =>
    cases found : manager.client2TopicItems.lookup client with
    | none =>
      simp only [perform, removeTopics, found]
      exact ⟨trivial, .inr trivial⟩
    | some items =>
      simp only [perform, removeTopics, found]
      exact ⟨rfl, .inl rfl⟩
  | removeTopicsByClients clients => exact ⟨rfl, .inl rfl⟩

theorem Stores.perform (stores : manager.Stores condition) (json : JsonCpp) (operation : Operation) :
    (manager.perform json operation).Stores condition := by
  unfold Stores
  rw [(perform_counts json manager operation).1]
  exact stores

end TopicManager

end BcosGateway

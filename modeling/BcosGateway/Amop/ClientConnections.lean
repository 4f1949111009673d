import BcosGateway.Amop.TopicManager

/-! The clients of a gateway with their services, and the number that tells the peers when their
topics have changed. -/

namespace BcosGateway

structure TopicClients where
  topics : TopicManager := {}
  clientInfo : KeySet StdString := ∅

namespace TopicClients

variable (clients : TopicClients)

/-- Whether there is a service of the client, which is made at the first call. `proxy` is whether
    `stringToProxy` returns. -/
def createAndGetServiceByClient (proxy : Bool) (client : StdString) : Bool × TopicClients :=
  if client ∈ clients.clientInfo then (true, clients)
  else if proxy then (true, { clients with clientInfo := clients.clientInfo.insert client () })
  else (false, clients)

def subTopic (proxy : Bool) (client : StdString) (topicItems : TopicItems) : TopicClients :=
  ({ clients with
    topics := clients.topics.subTopic client topicItems }.createAndGetServiceByClient proxy client).2

def subTopicJson (json : JsonCpp) (proxy : Bool) (client topicJson : StdString) : TopicClients :=
  match TopicManager.parseSubTopicsJson json topicJson with
  | none => clients
  | some topicItems => clients.subTopic proxy client topicItems

def removeTopics (client : StdString) (topicList : List StdString) : TopicClients :=
  { clients with topics := clients.topics.removeTopics client topicList }

def removeTopicsByClients (removed : List StdString) : TopicClients :=
  { clients with topics := clients.topics.removeTopicsByClients removed }

/-- `disconnected` are the clients without an active endpoint. -/
def checkClientConnection (disconnected : StdString → Bool) : TopicClients :=
  let clientsToRemove := clients.clientInfo.keys.filter disconnected
  { clients with
    clientInfo := clientsToRemove.foldl (fun clientInfo client => clientInfo.erase client)
      clients.clientInfo }.removeTopicsByClients clientsToRemove

inductive Operation where
  | subTopic (proxy : Bool) (client : StdString) (topicItems : TopicItems)
  | subTopicJson (proxy : Bool) (client topicJson : StdString)
  | removeTopics (client : StdString) (topicList : List StdString)
  | removeTopicsByClients (removed : List StdString)
  | checkClientConnection (disconnected : StdString → Bool)

def perform (json : JsonCpp) (clients : TopicClients) : Operation → TopicClients
  | .subTopic proxy client topicItems => clients.subTopic proxy client topicItems
  | .subTopicJson proxy client topicJson => clients.subTopicJson json proxy client topicJson
  | .removeTopics client topicList => clients.removeTopics client topicList
  | .removeTopicsByClients removed => clients.removeTopicsByClients removed
  | .checkClientConnection disconnected => clients.checkClientConnection disconnected

def Tracks (before after : TopicManager) : Prop :=
  after.topicSeq ≠ before.topicSeq ↔
    ∃ client, after.client2TopicItems.lookup client ≠ before.client2TopicItems.lookup client

def Takes (client : StdString) (topicItems : TopicItems) : Prop :=
  clients.topics.client2TopicItems.lookup client ≠ some topicItems

def Minds (json : JsonCpp) (clients : TopicClients) : Operation → Prop
  | .subTopic _ client topicItems => clients.Takes client topicItems
  | .subTopicJson _ client topicJson =>
    ∀ topicItems, TopicManager.parseSubTopicsJson json topicJson = some topicItems →
      clients.Takes client topicItems
  | .removeTopics client topicList =>
    ∀ items, clients.topics.client2TopicItems.lookup client = some items →
      ∃ topic ∈ topicList, topic ∈ items
  | .removeTopicsByClients removed =>
    ∃ client ∈ removed, client ∈ clients.topics.client2TopicItems
  | .checkClientConnection disconnected =>
    ∃ client, client ∈ clients.clientInfo ∧ disconnected client ∧
      client ∈ clients.topics.client2TopicItems

end TopicClients

namespace TopicManager

variable {manager : TopicManager}

theorem tracks_same : TopicClients.Tracks manager manager :=
  iff_of_false (fun differs => differs rfl) fun ⟨_, differs⟩ => differs rfl

theorem tracks_counted {after : TopicManager} (counted : after.topicSeq = manager.topicSeq + 1) :
    TopicClients.Tracks manager after ↔
      ∃ client, after.client2TopicItems.lookup client ≠ manager.client2TopicItems.lookup client := by
  have differs : after.topicSeq ≠ manager.topicSeq := by
    rw [counted]
    exact seq_succ_ne manager.topicSeq
  exact iff_true_left differs

theorem tracks_subTopic (client : StdString) (topicItems : TopicItems) :
    TopicClients.Tracks manager (manager.subTopic client topicItems) ↔
      manager.client2TopicItems.lookup client ≠ some topicItems := by
  have lookup (other : StdString) : (manager.subTopic client topicItems).client2TopicItems.lookup
      other = if other = client then some topicItems else manager.client2TopicItems.lookup other :=
    Table.lookup_insert_if client other topicItems manager.client2TopicItems
  rw [tracks_counted rfl]
  constructor
  · rintro ⟨other, differs⟩ same
    rw [lookup] at differs
    split at differs
    · rename_i this
      exact differs (this ▸ same.symm)
    · exact differs rfl
  · intro differs
    refine ⟨client, ?_⟩
    rw [lookup, if_pos rfl]
    exact differs.symm

theorem mem_foldl_erase {items : TopicItems} {topicList : List StdString} {topic : StdString} :
    topic ∈ topicList.foldl Finset.erase items ↔ topic ∈ items ∧ topic ∉ topicList := by
  induction topicList generalizing items with
  | nil => simp
  | cons first topicList ih =>
    rw [List.foldl_cons, ih, Finset.mem_erase, List.mem_cons]
    tauto

theorem foldl_erase_ne {items : TopicItems} {topicList : List StdString} :
    topicList.foldl Finset.erase items ≠ items ↔ ∃ topic ∈ topicList, topic ∈ items := by
  constructor
  · intro differs
    by_contra none
    apply differs
    ext topic
    rw [mem_foldl_erase]
    exact and_iff_left_of_imp fun member listed => none ⟨topic, listed, member⟩
  · rintro ⟨topic, listed, member⟩ same
    rw [← same, mem_foldl_erase] at member
    exact member.2 listed

theorem tracks_removeTopics (client : StdString) (topicList : List StdString) :
    TopicClients.Tracks manager (manager.removeTopics client topicList) ↔
      ∀ items, manager.client2TopicItems.lookup client = some items →
        ∃ topic ∈ topicList, topic ∈ items := by
  unfold removeTopics
  cases found : manager.client2TopicItems.lookup client with
  | none => exact iff_of_true tracks_same fun _ absent => (by cases absent)
  | some items =>
    simp only
    rw [tracks_counted rfl]
    have lookup (other : StdString) := Table.lookup_insert_if client other
      (topicList.foldl Finset.erase items) manager.client2TopicItems
    constructor
    · rintro ⟨other, differs⟩ _ listed
      cases listed
      apply foldl_erase_ne.mp
      intro same
      apply differs
      refine (lookup other).trans ?_
      split
      · rename_i this
        rw [this, found, same]
      · rfl
    · intro listed
      refine ⟨client, fun same => ?_⟩
      have kept := (lookup client).symm.trans (same.trans found)
      rw [if_pos rfl] at kept
      exact foldl_erase_ne.mpr (listed items rfl) (Option.some.inj kept)

theorem tracks_removeTopicsByClients (removed : List StdString) :
    TopicClients.Tracks manager (manager.removeTopicsByClients removed) ↔
      ∃ client ∈ removed, client ∈ manager.client2TopicItems := by
  rw [tracks_counted rfl]
  have lookup (client : StdString) := Table.lookup_foldl_erase removed client
    manager.client2TopicItems
  constructor
  · rintro ⟨client, differs⟩
    by_cases listed : client ∈ removed
    · refine ⟨client, listed, AList.lookup_isSome.mp (Option.isSome_iff_ne_none.mpr fun none => ?_)⟩
      exact differs ((lookup client).trans (by rw [if_pos listed, none]))
    · exact absurd ((lookup client).trans (if_neg listed)) differs
  · rintro ⟨client, listed, present⟩
    refine ⟨client, fun same => ?_⟩
    have gone := same.symm.trans ((lookup client).trans (if_pos listed))
    exact AList.lookup_eq_none.mp gone present

end TopicManager

namespace TopicClients

/-- The topics that an operation leaves, whatever services there are. -/
theorem subTopic_topics (clients : TopicClients) (proxy : Bool) (client : StdString)
    (topicItems : TopicItems) :
    (clients.subTopic proxy client topicItems).topics = clients.topics.subTopic client topicItems := by
  unfold subTopic createAndGetServiceByClient
  split
  · rfl
  split
  · rfl
  · rfl

/-- The number tracks the topics of the clients if and only if the operation changes something, or
    is one that finds out that it does not. -/
theorem perform_tracks_iff (json : JsonCpp) (clients : TopicClients) (operation : Operation) :
    Tracks clients.topics (clients.perform json operation).topics ↔
      Minds json clients operation := by
  cases operation with
  | subTopic proxy client topicItems =>
    unfold perform
    rw [subTopic_topics]
    exact TopicManager.tracks_subTopic client topicItems
  | subTopicJson proxy client topicJson =>
    cases parsed : TopicManager.parseSubTopicsJson json topicJson with
    | none =>
      simp only [perform, subTopicJson, Minds, parsed]
      exact iff_of_true TopicManager.tracks_same fun _ none => (by cases none)
    | some topicItems =>
      simp only [perform, subTopicJson, Minds, parsed, Option.some.injEq, forall_eq']
      rw [subTopic_topics]
      exact TopicManager.tracks_subTopic client topicItems
  | removeTopics client topicList => exact TopicManager.tracks_removeTopics client topicList
  | removeTopicsByClients removed => exact TopicManager.tracks_removeTopicsByClients removed
  | checkClientConnection disconnected =>
    have removed := @TopicManager.tracks_removeTopicsByClients clients.topics
      (clients.clientInfo.keys.filter disconnected)
    refine removed.trans (exists_congr fun client => ?_)
    rw [List.mem_filter, AList.mem_keys]
    tauto

def oneClient : TopicClients := ({} : TopicClients).subTopic true [99] {[116]}

/-- The client is alive, and yet a peer that has its topics asks for them again. -/
theorem aliveCheck_counts :
    ¬ Tracks oneClient.topics
        (oneClient.perform (.reading .null) (.checkClientConnection fun _ => false)).topics ∧
      ((({} : TopicManager).updateSeqAndTopicsByNodeID [112] oneClient.topics.topicSeq
        oneClient.topics.topicItems).checkTopicSeq [112]
          (oneClient.perform (.reading .null)
            (.checkClientConnection fun _ => false)).topics.topicSeq) = true := by
  refine ⟨fun tracks => ?_, rfl⟩
  obtain ⟨client, differs⟩ := tracks.mp (by decide)
  exact differs rfl

end TopicClients

end BcosGateway

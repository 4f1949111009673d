import BcosGateway.Amop.Forgetting

/-! A broadcast of the topic number with the messages that it leads to. After it A has the topics
of P, and keeps them while it hears nothing older. -/

namespace BcosGateway.TopicSync

section Current

variable (env : AMOPEnvironment) (aID pID : P2pID)

def beat (world : TopicSync) : List Event :=
  [.broadcastAtP, .receiveAtA world.toA.length] ++
    if world.a.checkTopicSeq pID world.p.topicSeq then
      [.receiveAtP world.toP.length, .receiveAtA (world.toA.length + 1)]
    else []

def HasTopics (world : TopicSync) : Prop :=
  ∃ items, world.a.nodeID2TopicItems.lookup pID = some items ∧
    ∀ topic, topic ∈ items ↔ world.p.Subscribed topic

def Quiet (oldest : Nat) (world : TopicSync) : Event → Prop
  | .performAtP operation => (world.p.perform env.json operation).topicSeq = world.p.topicSeq
  | .notifyNodeIDsAtA nodeIDs => pID ∈ nodeIDs
  | .receiveAtA message => oldest ≤ message
  | _ => True

/-- The invariant of what follows a broadcast: the answers since the `oldest` message and what A
    has stored are the topics `p` of the moment of the broadcast, and P still has them. -/
structure Current (oldest : Nat) (p : TopicManager) (world : TopicSync) : Prop where
  topicSeq : world.p.topicSeq = p.topicSeq
  clients : world.p.client2TopicItems = p.client2TopicItems
  answers : ∀ message ∈ world.toA.drop oldest, AMOPImpl.Answers env message →
    AMOPImpl.answer env message = some (p.topicSeq, p.topicItems)
  stored : world.a.stored pID = (some p.topicSeq, some p.topicItems)

variable {env aID pID} {oldest : Nat} {p : TopicManager} {world next : TopicSync}

theorem topicItems_congr {left right : TopicManager}
    (clients : left.client2TopicItems = right.client2TopicItems) :
    left.topicItems = right.topicItems := by
  unfold TopicManager.topicItems
  rw [clients]

theorem Current.hasTopics (current : Current env pID oldest p world) :
    world.HasTopics pID ∧ world.a.checkTopicSeq pID world.p.topicSeq = false := by
  obtain ⟨seq, items⟩ := Prod.ext_iff.mp current.stored
  refine ⟨⟨p.topicItems, items, fun topic => ?_⟩, ?_⟩
  · rw [← topicItems_congr current.clients]
    exact world.p.mem_topicItems topic
  · unfold TopicManager.checkTopicSeq
    have found : world.a.nodeID2TopicSeq.lookup pID = some p.topicSeq := seq
    rw [found, current.topicSeq]
    exact bne_self_eq_false p.topicSeq

/-- An answer of P that carries its topics is stored as it is; no other message changes what is
    stored of P. -/
theorem stored_dispatcher {topicManager : TopicManager} {nodeID : P2pID} {message : P2PMessage}
    (stored : topicManager.stored pID = (some p.topicSeq, some p.topicItems))
    (answered : nodeID = pID → AMOPImpl.Answers env message →
      AMOPImpl.answer env message = some (p.topicSeq, p.topicItems)) :
    (AMOPImpl.dispatcherAMOPMessage env topicManager nodeID message).1.stored pID =
      (some p.topicSeq, some p.topicItems) := by
  by_cases answers : AMOPImpl.Answers env message
  · rw [AMOPImpl.dispatcher_answers answers]
    split
    · exact stored
    · rename_i seq items carried
      rw [TopicManager.stored_updateSeqAndTopicsByNodeID]
      split
      · rename_i same
        rw [answered same.symm answers] at carried
        cases carried
        rfl
      · exact stored
  · rw [(AMOPImpl.dispatcher_others answers).1]
    exact stored

theorem Current.step (current : Current env pID oldest p world) {event : Event}
    (faithful : Faithful env world event) (quiet : Quiet env pID oldest world event)
    (taken : TopicSync.step env aID pID world event = some next) :
    Current env pID oldest p next := by
  cases event with
  | performAtA operation =>
    cases taken
    have kept := congrFun (TopicManager.perform_counts env.json world.a operation).1 pID
    exact ⟨current.topicSeq, current.clients, current.answers, kept.trans current.stored⟩
  | performAtP operation =>
    cases taken
    rcases (TopicManager.perform_counts env.json world.p operation).2 with counted | same
    · exact absurd (counted.symm.trans quiet) (seq_succ_ne _)
    · simp only [same]
      exact current
  | notifyNodeIDsAtA nodeIDs =>
    cases taken
    have kept := world.a.stored_notifyNodeIDs nodeIDs pID
    rw [if_neg fun offline => offline.2 quiet] at kept
    exact ⟨current.topicSeq, current.clients, current.answers, kept.trans current.stored⟩
  | notifyNodeIDsAtP nodeIDs =>
    cases taken
    obtain ⟨seq, clients⟩ := world.p.notifyNodeIDs_clients nodeIDs
    exact ⟨seq.trans current.topicSeq, clients.trans current.clients, current.answers,
      current.stored⟩
  | broadcastAtA =>
    cases taken
    exact ⟨current.topicSeq, current.clients, current.answers, current.stored⟩
  | broadcastAtP =>
    cases taken
    refine ⟨current.topicSeq, current.clients, fun message member answers => ?_, current.stored⟩
    rw [List.drop_append] at member
    rcases List.mem_append.mp member with old | new
    · exact current.answers message old answers
    · rw [List.mem_singleton.mp (List.mem_of_mem_drop new)] at answers
      exact absurd answers (not_answers_amopMessage _ (by decide))
  | receiveAtA index =>
    simp only [TopicSync.step] at taken
    split at taken
    · cases taken
    rename_i message arrives
    cases taken
    have recent : message ∈ world.toA.drop oldest := by
      have place : (world.toA.drop oldest)[index - oldest]? = some message := by
        rw [List.getElem?_drop, Nat.add_sub_cancel' quiet]
        exact arrives
      exact List.mem_of_getElem? place
    exact ⟨current.topicSeq, current.clients, current.answers,
      stored_dispatcher current.stored fun _ => current.answers message recent⟩
  | receiveAtP index =>
    simp only [TopicSync.step] at taken
    split at taken
    · cases taken
    rename_i message arrives
    cases taken
    obtain ⟨seq, clients⟩ : _ ∧ _ := AMOPImpl.dispatcher_clients message
    refine ⟨seq.trans current.topicSeq, clients.trans current.clients,
      fun answer member answers => ?_, current.stored⟩
    rw [List.drop_append] at member
    rcases List.mem_append.mp member with old | new
    · exact current.answers answer old answers
    · rw [answer_sentTo faithful (List.mem_of_mem_drop new) answers, current.topicSeq,
        topicItems_congr current.clients]
  | receiveOtherAtA nodeID message =>
    simp only [TopicSync.step] at taken
    split at taken
    · cases taken
    rename_i other
    cases taken
    exact ⟨current.topicSeq, current.clients, current.answers,
      stored_dispatcher current.stored fun same => absurd same other⟩
  | receiveOtherAtP nodeID message =>
    simp only [TopicSync.step] at taken
    split at taken
    · cases taken
    cases taken
    obtain ⟨seq, clients⟩ : _ ∧ _ := AMOPImpl.dispatcher_clients message
    exact ⟨seq.trans current.topicSeq, clients.trans current.clients, current.answers,
      current.stored⟩

theorem step_receiveAtA {index : Nat} {message : P2PMessage}
    {dispatched : TopicManager × List AMOPAction} (arrives : world.toA[index]? = some message)
    (ran : AMOPImpl.dispatcherAMOPMessage env world.a pID message = dispatched) :
    TopicSync.step env aID pID world (.receiveAtA index) =
      some { world with
        a := dispatched.1
        toP := world.toP ++ dispatched.2.filterMap (sentTo env pID) } := by
  simp only [TopicSync.step, arrives, ran]

theorem step_receiveAtP {index : Nat} {message : P2PMessage}
    {dispatched : TopicManager × List AMOPAction} (arrives : world.toP[index]? = some message)
    (ran : AMOPImpl.dispatcherAMOPMessage env world.p aID message = dispatched) :
    TopicSync.step env aID pID world (.receiveAtP index) =
      some { world with
        p := dispatched.1
        toA := world.toA ++ dispatched.2.filterMap (sentTo env aID) } := by
  simp only [TopicSync.step, arrives, ran]

theorem answers_topics (topicManager : TopicManager) :
    AMOPImpl.Answers env (amopMessage env (AMOPImpl.buildAndEncodeMessage
      AMOPMessage.Kind.responseTopic (topicManager.queryTopicsSubByClient env.json))) := by
  unfold AMOPImpl.Answers amopMessage
  rw [AMOPImpl.buildMessage_buildAndEncodeMessage]
  exact ⟨rfl, rfl⟩

theorem answer_topics (reads : Reads env p) :
    AMOPImpl.answer env (amopMessage env (AMOPImpl.buildAndEncodeMessage
      AMOPMessage.Kind.responseTopic (p.queryTopicsSubByClient env.json))) =
        some (p.topicSeq, p.topicItems) := by
  rw [answer_amopMessage]
  exact TopicManager.parseTopicItemsJson_document reads.topics

/-- A broadcast is answered to the end whatever else is on the wire. `stored` is needed where A has
    the number already. -/
theorem beat_current (reads : Reads env world.p)
    (stored : world.a.checkTopicSeq pID world.p.topicSeq = false →
      world.a.stored pID = (some world.p.topicSeq, some world.p.topicItems)) :
    ∃ after, Transition.run (TopicSync.step env aID pID) world (beat pID world) = some after ∧
      Current env pID world.toA.length world.p after ∧ after.p = world.p := by
  let broadcast : P2PMessage := amopMessage env (AMOPImpl.broadcastTopicSeq world.p)
  let told : TopicSync := { world with toA := world.toA ++ [broadcast] }
  have first : TopicSync.step env aID pID world .broadcastAtP = some told := rfl
  have arrives : told.toA[world.toA.length]? = some broadcast := List.getElem?_concat_length
  have heard := dispatcher_broadcast pID world.a reads
  have silent : ¬ AMOPImpl.Answers env broadcast := not_answers_amopMessage _ (by decide)
  unfold beat
  cases changed : world.a.checkTopicSeq pID world.p.topicSeq with
  | false =>
    rw [changed] at heard
    have second : TopicSync.step env aID pID told (.receiveAtA world.toA.length) =
        some { told with toP := world.toP ++ [] } := step_receiveAtA arrives heard
    refine ⟨_, (Transition.run_cons _).mpr ⟨_, first, (Transition.run_cons _).mpr
      ⟨_, second, rfl⟩⟩, ⟨rfl, rfl, fun message member answers => ?_, stored changed⟩, rfl⟩
    rw [List.drop_left] at member
    rw [List.mem_singleton.mp member] at answers
    exact absurd answers silent
  | true =>
    rw [changed] at heard
    let request : P2PMessage := amopMessage env
      (AMOPImpl.buildAndEncodeMessage AMOPMessage.Kind.requestTopic [])
    let response : P2PMessage := amopMessage env (AMOPImpl.buildAndEncodeMessage
      AMOPMessage.Kind.responseTopic (world.p.queryTopicsSubByClient env.json))
    let asked : TopicSync := { told with toP := world.toP ++ [request] }
    let answered : TopicSync := { asked with toA := told.toA ++ [response] }
    let after : TopicSync :=
      { answered with
        a := world.a.updateSeqAndTopicsByNodeID pID world.p.topicSeq world.p.topicItems
        toP := asked.toP ++ [] }
    have second : TopicSync.step env aID pID told (.receiveAtA world.toA.length) = some asked := by
      rw [step_receiveAtA arrives heard]
      simp only [if_true, List.filterMap_cons, List.filterMap_nil, sentTo]
      rfl
    have wanted : asked.toP[world.toP.length]? = some request := List.getElem?_concat_length
    have reply : AMOPImpl.dispatcherAMOPMessage env asked.p aID request =
        (world.p, AMOPImpl.onReceiveRequestTopicMessage env world.p aID) :=
      Prod.ext (AMOPImpl.dispatcher_others (not_answers_amopMessage _ (by decide))).1
        (dispatcher_request aID)
    have third : TopicSync.step env aID pID asked (.receiveAtP world.toP.length) =
        some answered := by
      rw [step_receiveAtP wanted reply]
      simp only [AMOPImpl.onReceiveRequestTopicMessage, List.filterMap_cons, List.filterMap_nil,
        sentTo, if_true]
      rfl
    have last : answered.toA[world.toA.length + 1]? = some response := by
      have size : (world.toA ++ [broadcast]).length = world.toA.length + 1 := by simp
      rw [← size]
      exact List.getElem?_concat_length
    have learnt : AMOPImpl.dispatcherAMOPMessage env answered.a pID response =
        (world.a.updateSeqAndTopicsByNodeID pID world.p.topicSeq world.p.topicItems, []) := by
      rw [AMOPImpl.dispatcher_answers (answers_topics world.p), answer_topics reads]
    have fourth : TopicSync.step env aID pID answered (.receiveAtA (world.toA.length + 1)) =
        some after := step_receiveAtA last learnt
    refine ⟨after, (Transition.run_cons _).mpr ⟨_, first, (Transition.run_cons _).mpr ⟨_, second,
      (Transition.run_cons _).mpr ⟨_, third, (Transition.run_cons _).mpr ⟨_, fourth, rfl⟩⟩⟩⟩,
      ⟨rfl, rfl, fun message member answers => ?_, ?_⟩, rfl⟩
    · have appended : after.toA = world.toA ++ [broadcast, response] := List.append_assoc _ _ _
      rw [appended, List.drop_left] at member
      rcases List.mem_cons.mp member with same | later
      · rw [same] at answers
        exact absurd answers silent
      · rw [List.mem_singleton.mp later]
        exact answer_topics reads
    · exact (world.a.stored_updateSeqAndTopicsByNodeID pID pID _ _).trans (if_pos rfl)

/-- What A has stored under the number of P are the topics of P. -/
theorem Sound.stored {fresh last : TopicSync} {events : List Event}
    (sound : Sound env aID pID fresh events last) (few : events.countP Event.ofClientAtP < 2 ^ 32)
    (unchanged : last.a.checkTopicSeq pID last.p.topicSeq = false) :
    last.a.stored pID = (some last.p.topicSeq, some last.p.topicItems) := by
  obtain ⟨seq, seqFound, current⟩ := TopicManager.checkTopicSeq_false unchanged
  obtain ⟨items, itemsFound⟩ := Option.isSome_iff_exists.mp
    ((sound.stores.isSome pID).mp (Option.isSome_of_eq_some seqFound))
  obtain ⟨moment, passes, rfl, rfl⟩ := sound.had seqFound itemsFound
  obtain ⟨after, some_, rest⟩ := passes.rest sound.ran
  have few' : after.countP Event.ofClientAtP < 2 ^ 32 :=
    Nat.lt_of_le_of_lt (some_.countP_le) few
  have same := (step_stamps env aID pID).content_eq rest
    (fun changes bound => tick_apart (Nat.lt_of_le_of_lt bound few')) current.symm
  exact Prod.ext (seqFound.trans (congrArg some current))
    (itemsFound.trans (congrArg some (topicItems_congr same.symm)))

end Current

/-- From every state that a run reaches, a broadcast of P and what it leads to give A the topics of
    P. A keeps them, and does not ask again, as long as P counts no change, stays online and A
    hears nothing that was sent before that broadcast. -/
theorem beat_topics (env : AMOPEnvironment) (aID pID : P2pID) (start : TopicSync)
    (events : List Event) {last : TopicSync} (initial : start.Initial pID)
    (faithful : Transition.Meets (step env aID pID) (Faithful env) start events)
    (ran : Transition.run (step env aID pID) start events = some last)
    (few : events.countP Event.ofClientAtP < 2 ^ 32) (reads : Reads env last.p) :
    ∃ after, Transition.run (step env aID pID) last (beat pID last) = some after ∧
      after.p = last.p ∧ after.HasTopics pID ∧
      ∀ more later, Transition.Meets (step env aID pID)
          (fun world event => Faithful env world event ∧
            Quiet env pID last.toA.length world event) after more →
        Transition.run (step env aID pID) after more = some later →
          later.HasTopics pID ∧ later.a.checkTopicSeq pID later.p.topicSeq = false := by
  have sound : Sound env aID pID start events last :=
    @Transition.invariant_of_meets_of_history _ _ (step env aID pID) _ _ _ _
      (Sound env aID pID start) (fun _ _ _ _ held met taken => held.step met taken) []
      initial.sound faithful ran
  obtain ⟨after, beaten, current, same⟩ := beat_current reads (sound.stored few)
  refine ⟨after, beaten, same, current.hasTopics.1, fun more later meets ranMore => ?_⟩
  have currentLater : Current env pID last.toA.length last.p later :=
    Transition.invariant_of_meets (step env aID pID)
      (fun _ _ _ held met taken => held.step met.1 met.2 taken) current meets ranMore
  exact currentLater.hasTopics

/-- A peer that was taken for offline is asked for its topics again. -/
theorem backOnline_topics :
    ∃ last after, Transition.run (step oneTopicEnvironment [97] [112]) {}
        [.performAtP (.subTopic [99] {[116]}), .broadcastAtP, .receiveAtA 0, .receiveAtP 0,
          .receiveAtA 1, .notifyNodeIDsAtA []] = some last ∧
      Transition.run (step oneTopicEnvironment [97] [112]) last (beat [112] last) = some after ∧
      after.HasTopics [112] := by
  have initial : Initial [112] {} := ⟨fun _ => .inl rfl, rfl, rfl⟩
  obtain ⟨after, ran, _, hasTopics, _⟩ := beat_topics oneTopicEnvironment [97] [112] {}
    [.performAtP (.subTopic [99] {[116]}), .broadcastAtP, .receiveAtA 0, .receiveAtP 0,
      .receiveAtA 1, .notifyNodeIDsAtA []] initial
    ⟨trivial, trivial, trivial, rfl, trivial, trivial, trivial⟩ rfl (by decide)
    ⟨by decide, rfl⟩
  exact ⟨_, after, rfl, ran, hasTopics⟩

end BcosGateway.TopicSync

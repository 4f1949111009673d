import BcosGateway.Service.SafeDispatch
import BcosGateway.Service.Run

/-! What becomes of the callback of a send. -/

namespace BcosGateway.Service

variable {φ Key : Type} (env : Environment Key) (service : Service φ)

def Fate.isHanded : Fate → Bool
  | .handed _ => true
  | .invoked _ | .enqueued => false

def Kept (fates : List Fate) : Prop := fates ≠ [] ∧ fates.countP Fate.isHanded ≤ 1

instance (fates : List Fate) : Decidable (Kept fates) := inferInstanceAs (Decidable (_ ∧ _))

theorem asyncSendMessageByNodeID_kept_iff (nodeID : P2pID) (message : P2PMessage)
    (options : Options) (callback : Nat) (thrown : Option (Session Nat)) :
    Kept (service.asyncSendMessageByNodeID env nodeID message options (some callback) thrown).2 ↔
      nodeID ≠ service.nodeID ∧ service.connected nodeID := by
  unfold asyncSendMessageByNodeID connected
  by_cases myself : nodeID = service.nodeID
  · rw [if_pos myself]
    exact iff_of_false (fun kept => kept.1 rfl) fun other => other.1 myself
  rw [if_neg myself]
  cases service.sessions.lookup nodeID with
  | none => exact iff_of_false (fun kept => kept.1 rfl) fun other => (by cases other.2)
  | some object =>
    simp only
    cases running : service.actived object with
    | false => exact iff_of_false (fun kept => kept.1 rfl) fun other => (by cases other.2)
    | true =>
      refine iff_of_true ?_ ⟨myself, rfl⟩
      cases thrown with
      | none => exact ⟨List.cons_ne_nil _ _, Nat.le_refl 1⟩
      | some thrown => exact ⟨List.cons_ne_nil _ _, Nat.le_refl 1⟩

theorem asyncSendMessageByP2PNodeID_kept_iff (later : Service φ) (type : UInt16)
    (dstNodeID : P2pID) (payload : Bytes) (options : Options) (callback : Nat)
    (thrown : Option (Session Nat)) :
    Kept (service.asyncSendMessageByP2PNodeID env later type dstNodeID payload options callback
        thrown).2 ↔
      (service.connected dstNodeID → dstNodeID ≠ later.nodeID ∧ later.connected dstNodeID) := by
  unfold asyncSendMessageByP2PNodeID
  cases service.connected dstNodeID with
  | false =>
    exact iff_of_true ⟨List.cons_ne_nil _ _, Nat.zero_le 1⟩ fun connected => (by cases connected)
  | true =>
    have sent := asyncSendMessageByNodeID_kept_iff env (later.newP2PMessage type payload).2 dstNodeID
      (later.newP2PMessage type payload).1 options callback thrown
    exact sent.trans ⟨fun connected _ => connected, fun connected => connected rfl⟩

section Runs

variable [DecidableEq φ]

/-- A send keeps its callback if its peer has a running session when the session is looked up, or
    if the check before has already failed and reported it. -/
theorem sends_kept_iff (nodeID : P2pID) (options : Options) (callback : Nat)
    (thrown : Option (Session Nat)) :
    (∀ message, Kept (service.asyncSendMessageByNodeID env nodeID message options (some callback)
        thrown).2 ↔
      nodeID ≠ service.nodeID ∧ service.connected nodeID) ∧
    ∀ events later, Transition.run (step env) service events = some later → ∀ type payload,
      (Kept (service.asyncSendMessageByP2PNodeID env later type nodeID payload options callback
          thrown).2 ↔
        (service.connected nodeID → nodeID ≠ later.nodeID ∧ later.connected nodeID)) :=
  ⟨fun message =>
    asyncSendMessageByNodeID_kept_iff env service nodeID message options callback thrown,
    fun _ later _ type payload =>
      asyncSendMessageByP2PNodeID_kept_iff env service later type nodeID payload options callback
        thrown⟩

end Runs

def peerDrops : List (Event Nat) :=
  [.session 0 (.drop .tcpError), .execute 0 0, .onDisconnect 0]

/-- A peer that is not there, and one that leaves between the check and the send. -/
theorem peerDrops_not_kept :
    (¬ ∀ nodeID callback, Kept (({} : Service Nat).asyncSendMessageByNodeID
      (Environment.reading .null) nodeID {} {} (some callback) none).2) ∧
    ¬ ∀ events later,
      Transition.run (step (Environment.reading .null)) onePeer events = some later →
        ∀ nodeID callback, Kept (onePeer.asyncSendMessageByP2PNodeID (Environment.reading .null)
          later 7 nodeID [] {} callback none).2 := by
  constructor
  · intro kept
    exact absurd (kept [112] 0) (by decide)
  · intro kept
    obtain ⟨later, ran, lost⟩ : ∃ later,
        Transition.run (step (Environment.reading .null)) onePeer peerDrops = some later ∧
          (onePeer.asyncSendMessageByP2PNodeID (Environment.reading .null) later 7 [112] [] {} 0
            none).2 = [] := ⟨_, rfl, rfl⟩
    exact (kept peerDrops later ran [112] 0).1 lost

theorem onePeer_kept :
    Kept (onePeer.asyncSendMessageByP2PNodeID (Environment.reading .null) onePeer 7 [112] [] {} 0
      none).2 :=
  ((sends_kept_iff (Environment.reading .null) onePeer [112] {} 0 none).2 [] onePeer rfl 7 []).mpr
    (by decide)

end BcosGateway.Service

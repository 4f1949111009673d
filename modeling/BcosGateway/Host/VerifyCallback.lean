import BcosGateway.Host.NodeInfo
import BcosGateway.Service.Basic

/-! The certificates of a handshake, and the peer that the host takes them for. -/

namespace BcosGateway

open Split

/-- What the handlers read of an `X509`. The names are in the one-line form of OpenSSL. -/
structure Certificate where
  pubKey : Option Bytes
  basicConstraints : Option Bool
  issuerName : StdString
  subjectName : StdString
  deriving DecidableEq, Repr

namespace GatewayFactory

variable (toHexString : Bytes → StdString)

def sslContextPubHexHandler (x509 : Certificate) (pubHex : StdString) : Bool × StdString :=
  match x509.pubKey with
  | none => (false, pubHex)
  | some pubKey => (true, toHexString pubKey)

def cert2PubHexHandler (certContent : Option (List UInt8))
    (readX509 : List UInt8 → Option Certificate) (pubHex : StdString) : Bool × StdString :=
  match certContent with
  | none | some [] => (false, pubHex)
  | some content =>
    match readX509 content with
    | none => (false, pubHex)
    | some x509 =>
      match x509.pubKey with
      | none => (false, pubHex)
      | some pubKey => (true, toHexString pubKey)

end GatewayFactory

namespace Host

variable (toHexString : Bytes → StdString)

def verifyCallback (preverified : Bool) (cert : Option Certificate) (nodeIDOut : StdString) :
    Bool × StdString :=
  if !preverified then (false, nodeIDOut)
  else
    match cert with
    | none => (preverified, nodeIDOut)
    | some cert =>
      match GatewayFactory.sslContextPubHexHandler toHexString cert nodeIDOut with
      | (false, nodeIDOut) => (preverified, nodeIDOut)
      | (true, nodeIDOut) =>
        match cert.basicConstraints with
        | none => (preverified, nodeIDOut)
        | some true => (preverified, nodeIDOut)
        | some false =>
          (preverified, verifiedNodeInfo nodeIDOut cert.issuerName cert.subjectName)

/-- The calls of one handshake, from the root to the certificate of the peer. The first refusal
    fails the handshake. -/
def verifyChain : List (Bool × Option Certificate) → StdString → Option StdString
  | [], nodeIDOut => some nodeIDOut
  | (preverified, cert) :: chain, nodeIDOut =>
    match verifyCallback toHexString preverified cert nodeIDOut with
    | (false, _) => none
    | (true, nodeIDOut) => verifyChain chain nodeIDOut

def handshake (run : Bool) (endpointPublicKey : Option StdString) : Option P2PInfo :=
  match endpointPublicKey with
  | none | some [] => none
  | some node_info => if run then some (obtainNodeInfo {} node_info) else none

def presented (chain : List (Bool × Option Certificate)) : Option (Certificate × Bytes) :=
  chain.reverse.findSome? fun call =>
    call.2.bind fun cert => cert.pubKey.map fun pubKey => (cert, pubKey)

def nodeInfo (cert : Certificate) (pubKey : Bytes) : StdString :=
  if cert.basicConstraints = some false then
    verifiedNodeInfo (toHexString pubKey) cert.issuerName cert.subjectName
  else toHexString pubKey

theorem verifyCallback_true (cert : Option Certificate) (nodeIDOut : StdString) :
    verifyCallback toHexString true cert nodeIDOut =
      (true, (presented [(true, cert)]).elim nodeIDOut fun holder =>
        nodeInfo toHexString holder.1 holder.2) := by
  cases cert with
  | none => rfl
  | some cert =>
    rcases cert with ⟨pubKey, basicConstraints, issuerName, subjectName⟩
    cases pubKey with
    | none => rfl
    | some pubKey =>
      rcases basicConstraints with _ | _ | _ <;> rfl

theorem presented_cons (call : Bool × Option Certificate)
    (chain : List (Bool × Option Certificate)) :
    presented (call :: chain) = (presented chain).or (presented [call]) := by
  unfold presented
  rw [List.reverse_cons, List.findSome?_append]
  rfl

/-- Every call overwrites what the calls before it wrote. -/
theorem verifyChain_presented (chain : List (Bool × Option Certificate))
    (nodeIDOut : StdString) :
    verifyChain toHexString chain nodeIDOut =
      if chain.all Prod.fst then
        some ((presented chain).elim nodeIDOut fun holder =>
          nodeInfo toHexString holder.1 holder.2)
      else none := by
  induction chain generalizing nodeIDOut with
  | nil => rfl
  | cons call chain ih =>
    rcases call with ⟨preverified, cert⟩
    cases preverified with
    | false => rfl
    | true =>
      have step := verifyCallback_true toHexString cert nodeIDOut
      have later := presented_cons (true, cert) chain
      rw [verifyChain, step, later]
      simp only [ih, List.all_cons, Bool.true_and]
      cases presented chain with
      | none => rw [Option.none_or, Option.elim_none]
      | some holder => rw [Option.some_or, Option.elim_some, Option.elim_some]

theorem presented_mem {chain : List (Bool × Option Certificate)} {cert : Certificate}
    {pubKey : Bytes} (last : presented chain = some (cert, pubKey)) :
    (∃ preverified, (preverified, some cert) ∈ chain) ∧ cert.pubKey = some pubKey := by
  obtain ⟨call, member, found⟩ := List.exists_of_findSome?_eq_some last
  rcases call with ⟨preverified, held⟩
  obtain ⟨held, rfl, found⟩ := Option.bind_eq_some_iff.mp found
  obtain ⟨key, has, same⟩ := Option.map_eq_some_iff.mp found
  cases same
  exact ⟨⟨preverified, List.mem_reverse.mp member⟩, has⟩

/-- The ID ends at the first mark of the node info. -/
theorem obtainNodeInfo_p2pID (node_info : StdString) :
    (obtainNodeInfo {} node_info).p2pID =
      node_info.takeWhile fun character => !isAnyOf "#" character := by
  obtain ⟨fields, same⟩ := split_head (isAnyOf "#") node_info
  rw [obtainNodeInfo, same]
  rcases fields with _ | ⟨issuer, _ | ⟨subject, fields⟩⟩ <;> rfl

/-- A key in hex ends at the first mark, or where the text ends. -/
theorem takeWhile_hex {pubHex rest : StdString} (hex : pubHex.all isHexDigit = true)
    (ends : rest.head?.all (isAnyOf "#") = true) :
    (pubHex ++ rest).takeWhile (fun character => !isAnyOf "#" character) = pubHex := by
  have digits : ∀ character ∈ pubHex, (!isAnyOf "#" character) = true := by
    intro character member
    rw [hex_free hex character member]
    rfl
  rw [List.takeWhile_append_of_pos digits]
  cases rest with
  | nil => rw [List.takeWhile_nil, List.append_nil]
  | cons mark rest =>
    have separates : isAnyOf "#" mark = true := ends
    rw [List.takeWhile_cons_of_neg (by simp [separates]), List.append_nil]

variable {toHexString}

theorem nodeInfo_p2pID (hex : ∀ pubKey, (toHexString pubKey).all isHexDigit = true)
    (cert : Certificate) (pubKey : Bytes) :
    (obtainNodeInfo {} (nodeInfo toHexString cert pubKey)).p2pID = toHexString pubKey := by
  rw [obtainNodeInfo_p2pID, nodeInfo]
  split
  · have shape : verifiedNodeInfo (toHexString pubKey) cert.issuerName cert.subjectName =
        toHexString pubKey ++
          (asciiString "#" ++ (cert.issuerName ++ asciiString "#" ++ cert.subjectName)) := by
      simp only [verifiedNodeInfo, List.append_assoc]
    rw [shape]
    exact takeWhile_hex (hex pubKey) rfl
  · have whole : (toHexString pubKey ++ []).takeWhile (fun character => !isAnyOf "#" character) =
        toHexString pubKey := takeWhile_hex (hex pubKey) rfl
    rw [List.append_nil] at whole
    exact whole

theorem nodeInfo_ne_nil {cert : Certificate} {pubKey : Bytes}
    (filled : toHexString pubKey ≠ []) : nodeInfo toHexString cert pubKey ≠ [] := by
  unfold nodeInfo
  split
  · intro empty
    have parts := List.append_eq_nil_iff.mp empty
    have front := List.append_eq_nil_iff.mp parts.1
    have issuer := List.append_eq_nil_iff.mp front.1
    have hash := List.append_eq_nil_iff.mp issuer.1
    exact filled hash.1
  · exact filled

theorem handshake_presented (run : Bool) (chain : List (Bool × Option Certificate))
    (filled : ∀ cert pubKey, (true, some cert) ∈ chain → cert.pubKey = some pubKey →
      toHexString pubKey ≠ []) :
    handshake run (verifyChain toHexString chain []) =
      if run && chain.all Prod.fst then
        (presented chain).map fun holder =>
          obtainNodeInfo {} (nodeInfo toHexString holder.1 holder.2)
      else none := by
  rw [verifyChain_presented]
  cases verified : chain.all Prod.fst with
  | false => simp [handshake]
  | true =>
    cases last : presented chain with
    | none => simp [handshake]
    | some holder =>
      rcases holder with ⟨cert, pubKey⟩
      obtain ⟨⟨preverified, member⟩, key⟩ := presented_mem last
      have passed : preverified = true := List.all_eq_true.mp verified _ member
      rw [passed] at member
      have nonempty : nodeInfo toHexString cert pubKey ≠ [] :=
        nodeInfo_ne_nil (filled cert pubKey member key)
      simp only [↓reduceIte, Option.elim_some, Option.map_some, Bool.and_true]
      cases info : nodeInfo toHexString cert pubKey with
      | nil => exact absurd info nonempty
      | cons first rest => rfl

theorem cert2PubHexHandler_reads {content : List UInt8}
    {readX509 : List UInt8 → Option Certificate} {cert : Certificate} {pubKey : Bytes}
    (filled : content ≠ []) (reads : readX509 content = some cert)
    (key : cert.pubKey = some pubKey) (pubHex : StdString) :
    GatewayFactory.cert2PubHexHandler toHexString (some content) readX509 pubHex =
      (true, toHexString pubKey) := by
  cases content with
  | nil => exact absurd rfl filled
  | cons first rest =>
    unfold GatewayFactory.cert2PubHexHandler
    simp only [reads, key]

/-- A gateway that reaches itself starts no session. -/
theorem onConnect_self {φ Key : Type} (env : Environment Key) (service : Service φ)
    (e : NetworkException) (endpoint : NodeIPEndpoint) (session : Session Nat) :
    (service.onConnect env e service.nodeID endpoint session).sessions = service.sessions ∧
      (service.onConnect env e service.nodeID endpoint session).p2pSessions =
        service.p2pSessions := by
  unfold Service.onConnect
  split
  · exact ⟨rfl, rfl⟩
  · split
    · exact ⟨rfl, rfl⟩
    · rw [if_pos rfl]
      exact ⟨rfl, rfl⟩

/-- A peer is known by the key of the last certificate of its chain that has one, whatever the
    certificates above it say, and a gateway knows its own certificate. -/
theorem handshake_identity (hex : ∀ pubKey, (toHexString pubKey).all isHexDigit = true)
    (run : Bool) (chain : List (Bool × Option Certificate))
    (filled : ∀ cert pubKey, (true, some cert) ∈ chain → cert.pubKey = some pubKey →
      toHexString pubKey ≠ []) (info : P2PInfo) :
    (handshake run (verifyChain toHexString chain []) = some info ↔
      run = true ∧ chain.all Prod.fst = true ∧
        ∃ cert pubKey, presented chain = some (cert, pubKey) ∧
          info = obtainNodeInfo {} (nodeInfo toHexString cert pubKey)) ∧
    (handshake run (verifyChain toHexString chain []) = some info →
      ∃ cert pubKey, presented chain = some (cert, pubKey) ∧ info.p2pID = toHexString pubKey ∧
        ∀ {φ Key : Type} (env : Environment Key) (service : Service φ) (content : List UInt8)
          (readX509 : List UInt8 → Option Certificate),
          content ≠ [] → readX509 content = some cert →
          GatewayFactory.cert2PubHexHandler toHexString (some content) readX509 [] =
            (true, service.nodeID) →
          ∀ e endpoint session,
            (service.onConnect env e info.p2pID endpoint session).sessions = service.sessions ∧
              (service.onConnect env e info.p2pID endpoint session).p2pSessions =
                service.p2pSessions) := by
  have outcome := handshake_presented run chain filled
  have established : handshake run (verifyChain toHexString chain []) = some info ↔
      run = true ∧ chain.all Prod.fst = true ∧
        ∃ cert pubKey, presented chain = some (cert, pubKey) ∧
          info = obtainNodeInfo {} (nodeInfo toHexString cert pubKey) := by
    rw [outcome, Option.ite_none_right_eq_some, Bool.and_eq_true, and_assoc,
      Option.map_eq_some_iff, Prod.exists]
    constructor
    · rintro ⟨runs, verified, cert, pubKey, last, rfl⟩
      exact ⟨runs, verified, cert, pubKey, last, rfl⟩
    · rintro ⟨runs, verified, cert, pubKey, last, rfl⟩
      exact ⟨runs, verified, cert, pubKey, last, rfl⟩
  refine ⟨established, ?_⟩
  intro made
  obtain ⟨_, _, cert, pubKey, last, rfl⟩ := established.mp made
  have own := nodeInfo_p2pID hex cert pubKey
  have key := (presented_mem last).2
  refine ⟨cert, pubKey, last, own, ?_⟩
  intro φ Key env service content readX509 nonempty reads same e endpoint session
  rw [cert2PubHexHandler_reads nonempty reads key] at same
  have self : toHexString pubKey = service.nodeID := (Prod.mk.inj same).2
  rw [own, self]
  exact onConnect_self env service e endpoint session

def hexDigit (value : Nat) : UInt8 := (asciiString "0123456789abcdef").getD value 48

def lowerHex (bytes : Bytes) : StdString :=
  bytes.flatMap fun byte => [hexDigit (byte.toNat / 16), hexDigit (byte.toNat % 16)]

theorem hexDigit_isHexDigit (value : Nat) : isHexDigit (hexDigit value) = true := by
  have digits : (48 :: asciiString "0123456789abcdef").all isHexDigit = true := rfl
  apply List.all_eq_true.mp digits
  rw [hexDigit, List.getD_eq_getElem?_getD]
  cases found : (asciiString "0123456789abcdef")[value]? with
  | none => exact List.mem_cons_self
  | some character => exact List.mem_cons_of_mem _ (List.mem_of_getElem? found)

theorem lowerHex_isHexDigit (bytes : Bytes) : (lowerHex bytes).all isHexDigit = true := by
  rw [List.all_eq_true]
  intro character member
  obtain ⟨byte, _, member⟩ := List.mem_flatMap.mp member
  rcases List.mem_cons.mp member with rfl | member
  · exact hexDigit_isHexDigit _
  · cases List.mem_singleton.mp member
    exact hexDigit_isHexDigit _

def signedPeer : List (Bool × Option Certificate) :=
  [(true, some ⟨some [1], some true, organization.text, organization.text⟩),
    (true, some ⟨some [2, 3], some false, organization.text, organization.text⟩)]

theorem signedPeer_identity :
    handshake true (verifyChain lowerHex signedPeer []) =
      some { p2pID := asciiString "0203", agencyName := asciiString "agency",
             nodeName := asciiString "agency" } := by
  have filled : ∀ cert pubKey, (true, some cert) ∈ signedPeer → cert.pubKey = some pubKey →
      lowerHex pubKey ≠ [] := by
    intro cert pubKey member key
    rcases List.mem_cons.mp member with same | member
    · cases same
      cases key
      exact List.cons_ne_nil _ _
    · cases List.mem_singleton.mp member
      cases key
      exact List.cons_ne_nil _ _
  have outcome := handshake_identity lowerHex_isHexDigit true signedPeer filled
    { p2pID := asciiString "0203", agencyName := asciiString "agency",
      nodeName := asciiString "agency" }
  exact outcome.1.mpr ⟨rfl, rfl, _, _, rfl, by decide +kernel⟩

end Host

end BcosGateway

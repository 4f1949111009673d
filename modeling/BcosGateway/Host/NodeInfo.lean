import BcosGateway.Common
import BcosGateway.Lib.Split

/-! The identity of a peer, in the string that the verify callback makes of its certificate. -/

namespace BcosGateway

open Split

structure P2PInfo where
  p2pID : P2pID := []
  agencyName : StdString := []
  nodeName : StdString := []
  deriving DecidableEq, Repr

namespace Host

def mentionsCN (field : StdString) : Bool := decide (asciiString "CN" <:+: field)

def obtainCommonNameFromSubject (subject : StdString) : StdString :=
  let fields := split (isAnyOf "/") subject
  match fields.find? mentionsCN with
  | some field =>
    let cn_fields := split (isAnyOf "=") field
    match cn_fields with
    | _ :: name :: _ => name
    | _ => field
  | none => subject

def obtainNodeInfo (info : P2PInfo) (node_info : StdString) : P2PInfo :=
  let node_info_vec := split (isAnyOf "#") node_info
  let info := match node_info_vec[0]? with
    | some p2pID => { info with p2pID }
    | none => info
  let info := match node_info_vec[1]? with
    | some issuer => { info with agencyName := obtainCommonNameFromSubject issuer }
    | none => info
  match node_info_vec[2]? with
  | some subject => { info with nodeName := obtainCommonNameFromSubject subject }
  | none => info

def verifiedNodeInfo (nodeID issuerName certName : StdString) : StdString :=
  nodeID ++ asciiString "#" ++ issuerName ++ asciiString "#" ++ certName

/-! Names in the one-line form of OpenSSL. -/

def isHexDigit (character : UInt8) : Bool :=
  (asciiString "0123456789abcdefABCDEF").contains character

def Plain (text : StdString) : Prop := text.all (fun character => !isAnyOf "/=#" character) = true

instance (text : StdString) : Decidable (Plain text) :=
  inferInstanceAs (Decidable (_ = true))

structure Attribute where
  key : StdString
  value : StdString
  key_filled : key ≠ []
  key_plain : Plain key
  value_plain : Plain value

structure DistinguishedName where
  before : List Attribute
  commonName : StdString
  after : List Attribute
  commonName_plain : Plain commonName
  only_before : ∀ entry ∈ before, entry.key ≠ asciiString "CN"
  only_after : ∀ entry ∈ after, entry.key ≠ asciiString "CN"

def Attribute.text (entry : Attribute) : StdString :=
  entry.key ++ 61 :: entry.value

def Attribute.mentionsCN (entry : Attribute) : Bool :=
  Host.mentionsCN entry.key || Host.mentionsCN entry.value

namespace DistinguishedName

variable (name : DistinguishedName)

def commonNameAttribute : Attribute where
  key := asciiString "CN"
  value := name.commonName
  key_filled := by decide
  key_plain := by decide
  value_plain := name.commonName_plain

def attributes : List Attribute := name.before ++ name.commonNameAttribute :: name.after

def text : StdString := (name.attributes.map fun entry => 47 :: entry.text).flatten

/-- No attribute before `CN` has the letters CN in its key or its value, or the first that has
    them has the common name for its value. -/
def Direct : Prop :=
  ∀ entry, name.before.find? Attribute.mentionsCN = some entry →
    entry.value = name.commonName

end DistinguishedName

theorem Plain.free {text : StdString} (plain : Plain text) {separators : String}
    (part : (asciiString separators).all (isAnyOf "/=#") = true) :
    Free (isAnyOf separators) text := by
  intro character member
  have other := List.all_eq_true.mp plain character member
  have separates : character ∈ asciiString separators → isAnyOf "/=#" character = true :=
    List.all_eq_true.mp part character
  rw [Bool.not_eq_true'] at other
  rw [isAnyOf, List.contains_eq_mem, decide_eq_false_iff_not]
  exact fun inside => Bool.false_ne_true (other.symm.trans (separates inside))

theorem Attribute.text_free (entry : Attribute) {separators : String}
    (part : (asciiString separators).all (isAnyOf "/=#") = true)
    (inner : isAnyOf separators 61 = false) : Free (isAnyOf separators) entry.text := by
  apply Free.append (entry.key_plain.free part)
  exact List.forall_mem_cons.mpr ⟨inner, entry.value_plain.free part⟩

theorem Attribute.text_ne_nil (entry : Attribute) : entry.text ≠ [] := by
  simp [Attribute.text]

theorem Attribute.split_text (entry : Attribute) :
    split (isAnyOf "=") entry.text = [entry.key, entry.value] := by
  have key : Free (isAnyOf "=") entry.key := entry.key_plain.free (by decide)
  have value : Free (isAnyOf "=") entry.value := entry.value_plain.free (by decide)
  rw [Attribute.text, split_field_one key (by decide) value.begins, split_free value]

theorem mentionsCN_iff {field : StdString} :
    mentionsCN field = true ↔ asciiString "CN" <:+: field := decide_eq_true_iff

theorem Attribute.mentionsCN_text (entry : Attribute) :
    Host.mentionsCN entry.text = entry.mentionsCN := by
  have foreign : (61 : UInt8) ∉ asciiString "CN" := by decide
  rw [Bool.eq_iff_iff, mentionsCN_iff, Attribute.mentionsCN, Bool.or_eq_true, mentionsCN_iff,
    mentionsCN_iff]
  exact infix_separated foreign

namespace DistinguishedName

variable (name : DistinguishedName)

theorem split_text :
    split (isAnyOf "/") name.text = [] :: name.attributes.map Attribute.text := by
  have texts : name.text = ((name.attributes.map Attribute.text).map (47 :: ·)).flatten := by
    rw [List.map_map]
    rfl
  rw [texts]
  apply split_flatten (by decide)
  · intro field member
    obtain ⟨entry, _, rfl⟩ := List.mem_map.mp member
    exact entry.text_ne_nil
  · intro field member
    obtain ⟨entry, _, rfl⟩ := List.mem_map.mp member
    exact entry.text_free (by decide) (by decide)
  · simp [attributes]

theorem text_free : Free (isAnyOf "#") name.text := by
  intro character member
  obtain ⟨field, inside, member⟩ := List.mem_flatten.mp member
  obtain ⟨entry, _, rfl⟩ := List.mem_map.mp inside
  rcases List.mem_cons.mp member with rfl | member
  · decide
  · exact entry.text_free (by decide) (by decide) character member

theorem find_attributes :
    name.attributes.find? Attribute.mentionsCN =
      (name.before.find? Attribute.mentionsCN).or (some name.commonNameAttribute) := by
  have mentions : name.commonNameAttribute.mentionsCN = true := by
    simp [Attribute.mentionsCN, commonNameAttribute, Host.mentionsCN]
  rw [attributes, List.find?_append, List.find?_cons_of_pos mentions]

theorem obtainCommonName :
    obtainCommonNameFromSubject name.text =
      ((name.before.find? Attribute.mentionsCN).or (some name.commonNameAttribute)).elim
        name.text Attribute.value := by
  have first : mentionsCN [] = false := by decide
  have texts : (name.attributes.map Attribute.text).find? mentionsCN =
      (name.attributes.find? Attribute.mentionsCN).map Attribute.text := by
    rw [List.find?_map]
    congr 2
    funext entry
    exact entry.mentionsCN_text
  rw [obtainCommonNameFromSubject, name.split_text, List.find?_cons_of_neg (by simp [first]),
    texts, name.find_attributes]
  cases (name.before.find? Attribute.mentionsCN).or (some name.commonNameAttribute) with
  | none => rfl
  | some entry =>
    simp only [Option.map_some, entry.split_text, Option.elim_some]

theorem obtainCommonName_iff :
    obtainCommonNameFromSubject name.text = name.commonName ↔ name.Direct := by
  rw [name.obtainCommonName, Direct]
  cases name.before.find? Attribute.mentionsCN with
  | none => simp [commonNameAttribute]
  | some entry => simp

end DistinguishedName

theorem split_verifiedNodeInfo {nodeID issuerName certName : StdString}
    (nodeID_free : Free (isAnyOf "#") nodeID) (issuer_free : Free (isAnyOf "#") issuerName)
    (cert_free : Free (isAnyOf "#") certName) (filled : issuerName ≠ []) :
    split (isAnyOf "#") (verifiedNodeInfo nodeID issuerName certName) =
      [nodeID, issuerName, certName] := by
  have begins : Begins (isAnyOf "#") (issuerName ++ 35 :: certName) := by
    cases issuerName with
    | nil => exact absurd rfl filled
    | cons first rest => exact issuer_free first List.mem_cons_self
  have shape : verifiedNodeInfo nodeID issuerName certName =
      nodeID ++ 35 :: (issuerName ++ 35 :: certName) := by
    have mark : asciiString "#" = [35] := by decide
    simp [verifiedNodeInfo, mark]
  rw [shape, split_field_one nodeID_free (by decide) begins,
    split_field_one issuer_free (by decide) cert_free.begins, split_free cert_free]

theorem hex_free {nodeID : StdString} (hex : nodeID.all isHexDigit = true) :
    Free (isAnyOf "#") nodeID := by
  intro character member
  have digit := List.all_eq_true.mp hex character member
  simp only [isHexDigit, isAnyOf, List.contains_eq_mem, decide_eq_true_eq,
    decide_eq_false_iff_not] at digit ⊢
  rintro mark
  have same : character = 35 := by simpa [asciiString] using mark
  subst same
  revert digit
  decide

/-- The identity is read back unless CN is met before the attribute that it is the key of. -/
theorem obtainNodeInfo_iff (info : P2PInfo) (nodeID : StdString)
    (hex : nodeID.all isHexDigit = true)
    (issuer subject : DistinguishedName) :
    obtainNodeInfo info (verifiedNodeInfo nodeID issuer.text subject.text) =
        { p2pID := nodeID, agencyName := issuer.commonName, nodeName := subject.commonName } ↔
      issuer.Direct ∧ subject.Direct := by
  have filled : issuer.text ≠ [] := by
    intro empty
    have fields := issuer.split_text
    rw [empty] at fields
    simp [split, DistinguishedName.attributes] at fields
  rw [obtainNodeInfo, split_verifiedNodeInfo (hex_free hex) issuer.text_free subject.text_free
    filled, ← issuer.obtainCommonName_iff, ← subject.obtainCommonName_iff]
  simp

def organization : DistinguishedName where
  before := [⟨asciiString "O", asciiString "org", by decide, by decide, by decide⟩]
  commonName := asciiString "agency"
  after := []
  commonName_plain := by decide
  only_before := by decide
  only_after := by decide

def country : DistinguishedName where
  before := ⟨asciiString "C", asciiString "CN", by decide, by decide, by decide⟩ ::
    organization.before
  commonName := organization.commonName
  after := []
  commonName_plain := by decide
  only_before := by decide
  only_after := by decide

theorem obtainNodeInfo_organization :
    obtainNodeInfo {} (verifiedNodeInfo (asciiString "ab12") organization.text organization.text) =
      { p2pID := asciiString "ab12",
        agencyName := organization.commonName,
        nodeName := organization.commonName } := by
  have direct : organization.Direct := fun entry found => by cases found
  exact (obtainNodeInfo_iff {} _ (by decide) organization organization).mpr ⟨direct, direct⟩

theorem country_misread :
    country.text = asciiString "/C=CN/O=org/CN=agency" ∧
      country.commonName = asciiString "agency" ∧
      (obtainNodeInfo {} (verifiedNodeInfo (asciiString "ab12") country.text
        organization.text)).agencyName = asciiString "CN" ∧
      asciiString "CN" ≠ asciiString "agency" := by
  decide +kernel

end Host

end BcosGateway

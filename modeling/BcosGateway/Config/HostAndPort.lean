import Mathlib.Data.List.TakeWhile
import BcosGateway.Lib.Split
import BcosGateway.Service.Basic

/-! The endpoints of the configuration. -/

namespace BcosGateway

open Split

/-- `boost::asio::ip::address`: its family and its `to_string`. -/
structure IPAddress where
  isV6 : Bool
  text : String
  deriving DecidableEq, Repr

/-- The readers of boost. `makeAddress` takes a C string, `none` is its error code;
    `lexicalCast` is `lexical_cast<int>`, `none` where it throws. What they accept is the text of
    an address in dotted or in colon form, and the text of an integer. -/
structure BoostReaders where
  makeAddress : StdString → Option IPAddress
  lexicalCast : StdString → Option Int
  v4_text : ∀ text address, makeAddress text = some address → address.isV6 = false →
    ∀ character ∈ text, character ≠ 58 ∧ character ≠ 93 ∧ character ≠ 0
  v6_text : ∀ text address, makeAddress text = some address → address.isV6 = true →
    58 ∈ text ∧ ∀ character ∈ text, character ≠ 93 ∧ character ≠ 0
  integer_text : ∀ text value, lexicalCast text = some value →
    ∀ character ∈ text, character ≠ 58 ∧ character ≠ 93 ∧ character ≠ 0

def cString (text : StdString) : StdString := text.takeWhile (· != 0)

namespace GatewayConfig

inductive Thrown where
  | badLexicalCast
  | invalidParameter (comment : StdString)
  deriving DecidableEq, Repr

inductive Stopped where
  | thrown (exception : Thrown)
  | fault (fault : Fault)
  deriving DecidableEq, Repr

def isValidPort (port : Int) : Bool := !(port ≤ 1024 || port > 65535)

def narrow (value : Int) : UInt16 := UInt16.ofNat (value % 2 ^ 16).toNat

/-- The C string at `text.data() + 1`; of an empty text that is past its terminator. -/
def cStringFromSecond : StdString → Except Stopped StdString
  | [] => .error (.fault .outOfBounds)
  | _ :: rest => .ok (cString rest)

variable (boost : BoostReaders)

def castPort (text : StdString) : Except Stopped UInt16 :=
  match boost.lexicalCast text with
  | some value => .ok (narrow value)
  | none => .error (.thrown .badLexicalCast)

def ipAndPort (host : StdString) : Except Stopped (StdString × UInt16) :=
  match split (isAnyOf "]") host with
  -- ipv6
  | [front, back] => do
    let ip ← cStringFromSecond front
    let port ← castPort boost (← cStringFromSecond back)
    return (ip, port)
  -- ipv4
  | [_] =>
    match split (isAnyOf ":") host with
    | ip :: text :: _ => do
      let port ← castPort boost text
      return (ip, port)
    | _ => .error (.fault .outOfBounds)
  | _ =>
    .error (.thrown (.invalidParameter
      (asciiString "GatewayConfig: the host is invalid, host=" ++ host)))

def checkEndpoint (host ip : StdString) (port : UInt16) : Except Stopped NodeIPEndpoint :=
  if !isValidPort port.toNat then
    .error (.thrown (.invalidParameter
      (asciiString "GatewayConfig: the port is invalid, port=" ++
        asciiString (toString port.toNat))))
  else
    match boost.makeAddress (cString ip) with
    | none =>
      .error (.thrown (.invalidParameter
        (asciiString "GatewayConfig: the host is invalid make_address error, host=" ++ host)))
    | some address => .ok ⟨address.text, port⟩

def parse (host : StdString) : Except Stopped NodeIPEndpoint := do
  let (ip, port) ← ipAndPort boost host
  checkEndpoint boost host ip port

/-- The outcome and `_endpoint`, which the last statement assigns. -/
def hostAndPort2Endpoint (host : StdString) (endpoint : NodeIPEndpoint) :
    Except Stopped Unit × NodeIPEndpoint :=
  match parse boost host with
  | .ok parsed => (.ok (), parsed)
  | .error stopped => (.error stopped, endpoint)

structure Reads (ip text : StdString) (address : IPAddress) (value : Int) : Prop where
  address : boost.makeAddress (cString ip) = some address
  integer : boost.lexicalCast text = some value
  port : isValidPort (narrow value).toNat = true

theorem isAnyOf_bracket : isAnyOf "]" = (· == 93) := by
  funext character
  rw [Bool.eq_iff_iff]
  simp [isAnyOf, asciiString]

theorem isAnyOf_colon : isAnyOf ":" = (· == 58) := by
  funext character
  rw [Bool.eq_iff_iff]
  simp [isAnyOf, asciiString]

theorem cString_plain {text : StdString} (plain : 0 ∉ text) : cString text = text := by
  rw [cString, List.takeWhile_eq_self_iff]
  intro character member
  exact bne_iff_ne.mpr fun same => plain (same ▸ member)

theorem zero_not_mem_cString (text : StdString) : 0 ∉ cString text := by
  intro member
  simpa using List.mem_takeWhile_imp member

theorem narrow_port {port : Int} (least : 1025 ≤ port) (most : port ≤ 65535) :
    (narrow port).toNat = port ∧ isValidPort (narrow port).toNat = true := by
  have exact : (narrow port).toNat = port := by
    have low : port % 2 ^ 16 = port := by omega
    have fits : port.toNat < 65536 := by omega
    rw [narrow, low, UInt16.toNat_ofNat_of_lt' fits]
    omega
  refine ⟨exact, ?_⟩
  rw [exact, isValidPort]
  simp only [Bool.not_eq_true', Bool.or_eq_false_iff, decide_eq_false_iff_not]
  omega

def finish (host ip text : StdString) : Except Stopped NodeIPEndpoint := do
  checkEndpoint boost host ip (← castPort boost text)

variable {boost}

theorem finish_reads {ip text : StdString} {address : IPAddress} {value : Int}
    (reads : Reads boost ip text address value) (host : StdString) :
    finish boost host ip text = .ok ⟨address.text, narrow value⟩ := by
  rw [finish, castPort, reads.integer]
  simp only [Bind.bind, Except.bind]
  rw [checkEndpoint, reads.port, reads.address]
  rfl

theorem finish_refuses {ip text : StdString}
    (unread : ¬ ∃ address value, Reads boost ip text address value) (host : StdString) :
    ∃ exception, finish boost host ip text = .error (.thrown exception) := by
  rw [finish, castPort]
  cases integer : boost.lexicalCast text with
  | none => exact ⟨_, rfl⟩
  | some value =>
    simp only [Bind.bind, Except.bind]
    rw [checkEndpoint]
    cases port : isValidPort (narrow value).toNat with
    | false => exact ⟨_, rfl⟩
    | true =>
      cases address : boost.makeAddress (cString ip) with
      | none => exact ⟨_, rfl⟩
      | some found => exact absurd ⟨found, value, address, integer, port⟩ unread

theorem parse_bracketed {host ip rest : StdString} {first second : UInt8}
    (fields : split (isAnyOf "]") host = [first :: ip, second :: rest]) :
    parse boost host = finish boost host (cString ip) (cString rest) := by
  rw [parse, ipAndPort, fields, finish]
  simp only [cStringFromSecond, Bind.bind, Except.bind]
  cases castPort boost (cString rest) with
  | error stopped => rfl
  | ok port => rfl

theorem parse_plain {host ip rest : StdString} {fields : List StdString}
    (whole : split (isAnyOf "]") host = [host])
    (colon : split (isAnyOf ":") host = ip :: rest :: fields) :
    parse boost host = finish boost host ip rest := by
  rw [parse, ipAndPort, whole, finish]
  simp only [colon, Bind.bind, Except.bind]
  cases castPort boost rest with
  | error stopped => rfl
  | ok port => rfl

theorem whole_of_bracket {host : StdString} (bracket : 93 ∉ host) :
    split (isAnyOf "]") host = [host] := by
  rw [isAnyOf_bracket]
  exact split_free (free_beq.mpr bracket)

theorem split_brackets {front brackets back : StdString} (filled : brackets ≠ [])
    (all : ∀ character ∈ brackets, character = 93) (front_free : 93 ∉ front)
    (back_free : 93 ∉ back) :
    split (isAnyOf "]") (front ++ (brackets ++ back)) = [front, back] := by
  have free := free_beq.mpr back_free
  rw [isAnyOf_bracket, split_field (free_beq.mpr front_free) filled (by simpa using all) free.begins,
    split_free free]

theorem split_colons {ip colons rest : StdString} (ip_free : 58 ∉ ip) (filled : colons ≠ [])
    (all : ∀ character ∈ colons, character = 58) (begins : rest.head? ≠ some 58) :
    ∃ fields, split (isAnyOf ":") (ip ++ (colons ++ rest)) =
      ip :: rest.takeWhile (· != 58) :: fields := by
  obtain ⟨fields, same⟩ := split_head (· == (58 : UInt8)) rest
  refine ⟨fields, ?_⟩
  rw [isAnyOf_colon, split_field (free_beq.mpr ip_free) filled (by simpa using all)
    (begins_beq.mpr begins), same]
  rfl

theorem parse_noSeparator {host : StdString} (bracket : 93 ∉ host) (colon : 58 ∉ host) :
    parse boost host = .error (.fault .outOfBounds) := by
  have fields : split (isAnyOf ":") host = [host] := by
    rw [isAnyOf_colon]
    exact split_free (free_beq.mpr colon)
  rw [parse, ipAndPort, whole_of_bracket bracket]
  simp only [fields]
  rfl

theorem parse_emptyField {host front back : StdString}
    (fields : split (isAnyOf "]") host = [front, back]) (empty : front = [] ∨ back = []) :
    parse boost host = .error (.fault .outOfBounds) := by
  rw [parse, ipAndPort, fields]
  rcases empty with rfl | rfl
  · rfl
  · cases front with
    | nil => rfl
    | cons first ip => rfl

theorem parse_manyFields {host front middle back : StdString} {fields : List StdString}
    (many : split (isAnyOf "]") host = front :: middle :: back :: fields) :
    ∃ exception, parse boost host = .error (.thrown exception) := by
  rw [parse, ipAndPort, many]
  exact ⟨_, rfl⟩

end GatewayConfig

end BcosGateway

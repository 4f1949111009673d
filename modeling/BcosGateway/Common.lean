import Mathlib.Algebra.Ring.Int.Defs
import Mathlib.Algebra.Ring.Nat
import Mathlib.Data.List.Basic

namespace BcosGateway

abbrev Bytes := List UInt8

/-- `std::string`: any bytes, not necessarily text. -/
abbrev StdString := List UInt8

-- named, so that the tests of membership below share one proof
instance : LawfulBEq StdString := inferInstance

abbrev P2pID := StdString

def asciiString (text : String) : StdString := text.toList.map fun char => UInt8.ofNat char.toNat

def isAnyOf (characters : String) (character : UInt8) : Bool :=
  (asciiString characters).contains character

/-- What stops a C++ function other than its return. Only `outOfRange` is an
    exception that a handler can catch; the others are undefined behaviour. -/
inductive Fault where
  | outOfRange
  | outOfBounds
  | nullPointer
  | signedOverflow
  deriving DecidableEq, Repr

theorem bind_eq_ok {ε α β : Type} {first : Except ε α} {next : α → Except ε β} {result : β} :
    (first >>= next) = .ok result ↔ ∃ value, first = .ok value ∧ next value = .ok result := by
  cases first with
  | error fault => simp [Bind.bind, Except.bind]
  | ok value => simp [Bind.bind, Except.bind]

theorem mapM_eq_ok {ε α β : Type} {values : List α} {next : α → Except ε β} {result : α → β}
    (each : ∀ value ∈ values, next value = .ok (result value)) :
    values.mapM next = .ok (values.map result) := by
  induction values with
  | nil => rfl
  | cons value values ih =>
    obtain ⟨own, others⟩ := List.forall_mem_cons.mp each
    rw [List.mapM_cons, own, ih others]
    rfl

def addSize (a b : Nat) : Nat := (a + b) % 2 ^ 64

theorem addSize_eq {a b : Nat} (bound : a + b < 2 ^ 64) : addSize a b = a + b :=
  Nat.mod_eq_of_lt bound

def mulInt (a b : Nat) : Except Fault Nat :=
  if a * b < 2 ^ 31 then .ok (a * b) else .error .signedOverflow

theorem mulInt_eq {a b : Nat} (bound : a * b < 2 ^ 31) : mulInt a b = .ok (a * b) :=
  if_pos bound

theorem seq_succ_ne (seq : UInt32) : seq + 1 ≠ seq := mt UInt32.add_eq_left.mp (by decide)

def MessageExtFieldFlag.response : UInt16 := 0x0001

namespace MessageDecodeStatus

def messageError : Int := -1
def messageIncomplete : Int := 0

end MessageDecodeStatus

inductive DisconnectReason where
  | disconnectRequested | tcpError | badProtocol | uselessPeer | tooManyPeers | duplicatePeer
  | incompatibleProtocol | nullIdentity | clientQuit | unexpectedIdentity | localIdentity
  | pingTimeout | userReason | idleWaitTimeout | noDisconnect
  deriving DecidableEq, Repr

namespace P2PExceptionType

def success : Int := 0
def protocolError : Int := 1
def networkTimeout : Int := 2
def disconnect : Int := 3
def duplicateSession : Int := 6

end P2PExceptionType

structure NetworkException where
  errorCode : Int := 0
  msg : String := ""
  deriving DecidableEq, Repr

structure Options where
  timeout : UInt32 := 0
  deriving DecidableEq, Repr

end BcosGateway

import Mathlib.Data.UInt

/-!
# ATT packets of the Rust GATT server (`packets.pdl`, `core/uuid.rs`)

The read transactions build typed packets (`AttPdu`) and turn them into an `Att`, an opcode and
its payload bytes, with `try_into`. The payload layouts follow `packets.pdl`
(`little_endian_packets`). An `_elementsize_(data) : 8` field holds the common size of the
array's elements in one byte: elements of different sizes, or a size past `0xff`, have no
encoding, and `try_into` returns an `EncodeError`.
-/

namespace AttServer

/-- `AttOpcode`, for the opcodes of the read transactions. -/
inductive AttOpcode
  | errorResponse
  | findInformationRequest | findInformationResponse
  | findByTypeValueRequest | findByTypeValueResponse
  | readByTypeRequest | readByTypeResponse
  | readRequest | readResponse
  | readByGroupTypeRequest | readByGroupTypeResponse
  deriving DecidableEq, Repr

def AttOpcode.toUInt8 : AttOpcode → UInt8
  | .errorResponse => 0x01
  | .findInformationRequest => 0x04
  | .findInformationResponse => 0x05
  | .findByTypeValueRequest => 0x06
  | .findByTypeValueResponse => 0x07
  | .readByTypeRequest => 0x08
  | .readByTypeResponse => 0x09
  | .readRequest => 0x0A
  | .readResponse => 0x0B
  | .readByGroupTypeRequest => 0x10
  | .readByGroupTypeResponse => 0x11

inductive AttErrorCode
  | invalidHandle | readNotPermitted | writeNotPermitted | invalidPdu
  | insufficientAuthentication | requestNotSupported | attributeNotFound | attributeNotLong
  | unlikelyError | unsupportedGroupType | applicationError | writeRequestRejected
  | cccdImproperlyConfigured | procedureAlreadyInProgress | outOfRange
  deriving DecidableEq, Repr

def AttErrorCode.toUInt8 : AttErrorCode → UInt8
  | .invalidHandle => 0x01
  | .readNotPermitted => 0x02
  | .writeNotPermitted => 0x03
  | .invalidPdu => 0x04
  | .insufficientAuthentication => 0x05
  | .requestNotSupported => 0x06
  | .attributeNotFound => 0x0A
  | .attributeNotLong => 0x0B
  | .unlikelyError => 0x0E
  | .unsupportedGroupType => 0x10
  | .applicationError => 0x80
  | .writeRequestRejected => 0xFC
  | .cccdImproperlyConfigured => 0xFD
  | .procedureAlreadyInProgress => 0xFE
  | .outOfRange => 0xFF

/-! ## UUIDs -/

/-- `Uuid`: sixteen bytes, most significant first, read as one number. -/
structure Uuid where
  val : BitVec 128
  deriving DecidableEq, Repr

/-- `BASE_UUID`, the Bluetooth base UUID. -/
def baseUuid : Nat := 0x0000000000001000800000805F9B34FB

/-- `Uuid::new`: a 16- or 32-bit UUID on the base UUID. -/
def Uuid.new (v : Nat) : Uuid := ⟨BitVec.ofNat 128 (baseUuid + (v % 2 ^ 32) * 2 ^ 96)⟩

/-- The number a list of bytes spells, least significant first. -/
def leValue (bytes : List UInt8) : Nat := bytes.foldr (fun b acc => b.toNat + 256 * acc) 0

/-- `n`'s `k` bytes, least significant first. -/
def leBytes (k n : Nat) : List UInt8 := (List.range k).map fun i => UInt8.ofNat (n / 256 ^ i)

/-- `Uuid::new_from_le_bytes`. -/
def Uuid.newFromLeBytes (bytes : List UInt8) : Uuid := ⟨BitVec.ofNat 128 (leValue bytes)⟩

/-- `TryFrom<att::Uuid> for Uuid`: two, four or sixteen bytes, little-endian. -/
def Uuid.tryFrom (data : List UInt8) : Option Uuid :=
  match data.length with
  | 2 => some (Uuid.new (leValue data))
  | 4 => some (Uuid.new (leValue data))
  | 16 => some (Uuid.newFromLeBytes data)
  | _ => none

/-- `TryFrom<Uuid> for att::Uuid16`: a UUID on the base UUID with a 16-bit value. -/
def Uuid.toUuid16 (u : Uuid) : Option UInt16 :=
  if u.val.toNat % 2 ^ 96 = baseUuid ∧ u.val.toNat / 2 ^ 96 < 2 ^ 16 then
    some (UInt16.ofNat (u.val.toNat / 2 ^ 96))
  else none

def primaryServiceDeclarationUuid : Uuid := Uuid.new 0x2800
def secondaryServiceDeclarationUuid : Uuid := Uuid.new 0x2801
def characteristicUuid : Uuid := Uuid.new 0x2803

/-! ## Packets -/

/-- `pdl_runtime::Packet`: a structure's bytes, whose count is its `encoded_len`. -/
class Packet (α : Type) where
  encode : α → List UInt8

def encodedLen {α : Type} [Packet α] (a : α) : Nat := (Packet.encode a).length

/-- `AttHandle`: sixteen bits, little-endian. -/
def encodeHandle (handle : UInt16) : List UInt8 := leBytes 2 handle.toNat

structure AttReadByTypeDataElement where
  handle : UInt16
  value : List UInt8
  deriving DecidableEq, Repr

instance : Packet AttReadByTypeDataElement where
  encode e := encodeHandle e.handle ++ e.value

structure AttReadByGroupTypeDataElement where
  handle : UInt16
  endGroupHandle : UInt16
  value : List UInt8
  deriving DecidableEq, Repr

instance : Packet AttReadByGroupTypeDataElement where
  encode e := encodeHandle e.handle ++ encodeHandle e.endGroupHandle ++ e.value

structure AttFindInformationResponseShortEntry where
  handle : UInt16
  uuid : UInt16
  deriving DecidableEq, Repr

instance : Packet AttFindInformationResponseShortEntry where
  encode e := encodeHandle e.handle ++ leBytes 2 e.uuid.toNat

structure AttFindInformationResponseLongEntry where
  handle : UInt16
  uuid : Uuid
  deriving DecidableEq, Repr

instance : Packet AttFindInformationResponseLongEntry where
  encode e := encodeHandle e.handle ++ leBytes 16 e.uuid.val.toNat

structure AttributeHandleRange where
  foundAttributeHandle : UInt16
  groupEndHandle : UInt16
  deriving DecidableEq, Repr

instance : Packet AttributeHandleRange where
  encode e := encodeHandle e.foundAttributeHandle ++ encodeHandle e.groupEndHandle

/-- `Att`: the opcode, then the payload. -/
structure Att where
  opcode : AttOpcode
  payload : List UInt8
  deriving DecidableEq, Repr

/-- `encoded_len` of an `Att`. -/
def Att.encodedLen (att : Att) : Nat := 1 + att.payload.length

/-- `pdl_runtime::EncodeError`, for the checks of an `_elementsize_` field. -/
inductive EncodeError
  | invalidArrayElementSize (size expectedSize : Nat)
  | sizeOverflow (size maximumSize : Nat)
  deriving DecidableEq, Repr

/-- An `_elementsize_(data) : 8` field and its array: the size of the first element, which
every element must have and one byte must hold, then the elements. -/
def encodeElementSizeArray {α : Type} [Packet α] (data : List α) :
    Except EncodeError (List UInt8) :=
  let elementSize := (data.head?.map encodedLen).getD 0
  match data.find? fun e => encodedLen e ≠ elementSize with
  | some e => .error (.invalidArrayElementSize (encodedLen e) elementSize)
  | none =>
    if elementSize > 0xff then .error (.sizeOverflow elementSize 0xff)
    else .ok (UInt8.ofNat elementSize :: data.flatMap Packet.encode)

/-- The typed packets the read transactions build. -/
inductive AttPdu
  | errorResponse (opcodeInError : AttOpcode) (handleInError : UInt16) (errorCode : AttErrorCode)
  | readByTypeResponse (data : List AttReadByTypeDataElement)
  | readByGroupTypeResponse (data : List AttReadByGroupTypeDataElement)
  | findInformationShortResponse (data : List AttFindInformationResponseShortEntry)
  | findInformationLongResponse (data : List AttFindInformationResponseLongEntry)
  | findByTypeValueResponse (handlesInfo : List AttributeHandleRange)
  | readResponse (value : List UInt8)
  deriving DecidableEq, Repr

/-- `try_into` an `Att`. -/
def AttPdu.toAtt : AttPdu → Except EncodeError Att
  | .errorResponse opcodeInError handleInError errorCode =>
    .ok ⟨.errorResponse,
      [opcodeInError.toUInt8] ++ encodeHandle handleInError ++ [errorCode.toUInt8]⟩
  | .readByTypeResponse data => (encodeElementSizeArray data).map (⟨.readByTypeResponse, ·⟩)
  | .readByGroupTypeResponse data =>
    (encodeElementSizeArray data).map (⟨.readByGroupTypeResponse, ·⟩)
  | .findInformationShortResponse data =>
    .ok ⟨.findInformationResponse, 0x01 :: data.flatMap Packet.encode⟩
  | .findInformationLongResponse data =>
    .ok ⟨.findInformationResponse, 0x02 :: data.flatMap Packet.encode⟩
  | .findByTypeValueResponse handlesInfo =>
    .ok ⟨.findByTypeValueResponse, handlesInfo.flatMap Packet.encode⟩
  | .readResponse value => .ok ⟨.readResponse, value⟩

end AttServer

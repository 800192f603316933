import Fluoride.AttServer.Att

/-!
# The read transactions of the Rust GATT server (`gatt/server/transactions`)

`handle_read_by_type_request`, `handle_read_by_group_type_request`,
`handle_find_by_type_value_request`, `handle_find_information_request` and
`handle_read_request`, with the helpers they share: the range filter, the filter by type and
value size, attribute grouping, and the payload accumulator.

The database is a `StableAttDatabase`: its attribute list does not change across the reads of
one request, and each attribute is read at most once, so a read is a function of the handle.
Each handler builds a typed packet (`...Pdu`) and returns it through `try_into`. A failing
`expect` panics, and the handler returns `none` then.
-/

namespace AttServer

/-- `AttAttribute`; the permissions are checked inside `read_attribute`. -/
structure AttAttribute where
  handle : UInt16
  type : Uuid
  deriving DecidableEq, Repr

/-- A `StableAttDatabase`, through the two calls the read transactions make. -/
structure AttDatabase where
  listAttributes : List AttAttribute
  readAttribute : UInt16 → Except AttErrorCode (List UInt8)

/-! ## Helpers -/

/-- `filter_to_range`: `none` for a start handle of zero or an end before the start. -/
def filterToRange (startHandle endHandle : UInt16) (attrs : List AttAttribute) :
    Option (List AttAttribute) :=
  if startHandle = 0 ∨ endHandle < startHandle then none
  else some ((attrs.dropWhile fun attr => attr.handle < startHandle).takeWhile
    fun attr => attr.handle ≤ endHandle)

structure AttributeWithValue where
  attr : AttAttribute
  value : List UInt8
  deriving DecidableEq, Repr

/-- The loop of `filter_read_attributes_by_size_type`: each value is cut to the size limit, the
first fixes the size, and the loop stops at a value of another size or a failed read; a failed
first read is the result. -/
def filterReadLoop (db : AttDatabase) (sizeLimit : Nat) :
    Option Nat → List AttributeWithValue → List AttAttribute →
      Except AttErrorCode (List AttributeWithValue)
  | _, out, [] => .ok out
  | currElemSize, out, attr :: rest =>
    match db.readAttribute attr.handle with
    | .ok value =>
      let value := value.take sizeLimit
      match currElemSize with
      | some size =>
        if size ≠ value.length then .ok out
        else filterReadLoop db sizeLimit currElemSize (out ++ [⟨attr, value⟩]) rest
      | none => filterReadLoop db sizeLimit (some value.length) (out ++ [⟨attr, value⟩]) rest
    | .error err => if out.isEmpty then .error err else .ok out

/-- `filter_read_attributes_by_size_type`. -/
def filterReadAttributesBySizeType (db : AttDatabase) (attrs : List AttAttribute)
    (target : Uuid) (sizeLimit : Nat) : Except AttErrorCode (List AttributeWithValue) :=
  filterReadLoop db sizeLimit none [] (attrs.filter fun attr => attr.type = target)

/-- `get_grouping_level`. -/
def getGroupingLevel (uuid : Uuid) : Nat :=
  if uuid = primaryServiceDeclarationUuid ∨ uuid = secondaryServiceDeclarationUuid then 1
  else if uuid = characteristicUuid then 2
  else 3

/-- `GROUPING_ATTRIBUTES`. -/
def groupingAttributes : List Uuid :=
  [primaryServiceDeclarationUuid, secondaryServiceDeclarationUuid, characteristicUuid]

/-- `find_group_end`: the last attribute after the group's start whose level is deeper. -/
def findGroupEnd (db : AttDatabase) (groupStart : AttAttribute) : Option AttAttribute :=
  if groupStart.type ∉ groupingAttributes then none
  else some ((((db.listAttributes.dropWhile fun attr => attr.handle ≤ groupStart.handle).takeWhile
    fun attr => getGroupingLevel attr.type > getGroupingLevel groupStart.type).getLast?).getD
      groupStart)

/-- `PayloadAccumulator`: the elements pushed so far, whose encoded sizes `curr` adds up,
within the limit. -/
structure PayloadAccumulator (α : Type) [Packet α] where
  curr : Nat
  lim : Nat
  elems : List α
  curr_eq : curr = (elems.map encodedLen).sum
  curr_le : curr ≤ lim

namespace PayloadAccumulator

variable {α : Type} [Packet α]

def new (size : Nat) : PayloadAccumulator α := ⟨0, size, [], rfl, Nat.zero_le _⟩

/-- `push`: whether the element fitted, and the accumulator after it. -/
def push (acc : PayloadAccumulator α) (builder : α) : Bool × PayloadAccumulator α :=
  let elemSize := encodedLen builder
  if tooBig : elemSize + acc.curr > acc.lim then (false, acc)
  else (true, ⟨acc.curr + elemSize, acc.lim, acc.elems ++ [builder],
    by rw [List.map_append, List.sum_append, acc.curr_eq]; rfl, by omega⟩)

/-- The callers' loop `if !out.push(..) { break }` over their elements. -/
def pushUntilFull (acc : PayloadAccumulator α) : List α → PayloadAccumulator α
  | [] => acc
  | b :: bs =>
    match acc.push b with
    | (true, acc) => acc.pushUntilFull bs
    | (false, acc) => acc

def intoVec (acc : PayloadAccumulator α) : List α := acc.elems

def isEmpty (acc : PayloadAccumulator α) : Bool := acc.elems.isEmpty

end PayloadAccumulator

/-! ## Requests -/

structure AttReadByTypeRequest where
  startingHandle : UInt16
  endingHandle : UInt16
  attributeType : List UInt8

structure AttReadByGroupTypeRequest where
  startingHandle : UInt16
  endingHandle : UInt16
  attributeGroupType : List UInt8

structure AttFindInformationRequest where
  startingHandle : UInt16
  endingHandle : UInt16

structure AttFindByTypeValueRequest where
  startingHandle : UInt16
  endingHandle : UInt16
  attributeType : UInt16
  attributeValue : List UInt8

structure AttReadRequest where
  attributeHandle : UInt16

/-! ## `handle_read_by_type_request` -/

/-- The packet `handle_read_by_type_request` builds. -/
def handleReadByTypeRequestPdu (request : AttReadByTypeRequest) (mtu : Nat)
    (db : AttDatabase) : AttPdu :=
  -- the error of a read that fails first, or of finding nothing
  let failure (errorCode : AttErrorCode) : AttPdu :=
    .errorResponse .readByTypeRequest request.startingHandle errorCode
  match Uuid.tryFrom request.attributeType with
  | none => failure .invalidPdu
  | some requestType =>
    match filterToRange request.startingHandle request.endingHandle db.listAttributes with
    | none => failure .invalidHandle
    | some attrs =>
      match filterReadAttributesBySizeType db attrs requestType (mtu - 4) with
      | .error err => failure err
      | .ok attrs =>
        let out := (PayloadAccumulator.new (mtu - 2)).pushUntilFull
          (attrs.map fun a => (⟨a.attr.handle, a.value⟩ : AttReadByTypeDataElement))
        if out.isEmpty then failure .attributeNotFound
        else .readByTypeResponse out.intoVec

def handleReadByTypeRequest (request : AttReadByTypeRequest) (mtu : Nat) (db : AttDatabase) :
    Except EncodeError Att :=
  (handleReadByTypeRequestPdu request mtu db).toAtt

/-! ## `handle_read_by_group_type_request` -/

/-- The loop of `handle_read_by_group_type_request`: each element's group end is found as it
is built, and the `expect` on it panics on `none`. -/
def pushGroupElements (db : AttDatabase) :
    PayloadAccumulator AttReadByGroupTypeDataElement → List AttributeWithValue →
      Option (PayloadAccumulator AttReadByGroupTypeDataElement)
  | acc, [] => some acc
  | acc, ⟨attr, value⟩ :: rest =>
    match findGroupEnd db attr with
    | none => none
    | some groupEnd =>
      match acc.push ⟨attr.handle, groupEnd.handle, value⟩ with
      | (true, acc) => pushGroupElements db acc rest
      | (false, acc) => some acc

/-- The packet `handle_read_by_group_type_request` builds. -/
def handleReadByGroupTypeRequestPdu (request : AttReadByGroupTypeRequest) (mtu : Nat)
    (db : AttDatabase) : Option AttPdu :=
  let failure (errorCode : AttErrorCode) : AttPdu :=
    .errorResponse .readByGroupTypeRequest request.startingHandle errorCode
  match Uuid.tryFrom request.attributeGroupType with
  | none => some (failure .invalidPdu)
  | some groupType =>
    match filterToRange request.startingHandle request.endingHandle db.listAttributes with
    | none => some (failure .invalidHandle)
    | some attrs =>
      -- only the service declarations group for this request
      if groupType ≠ primaryServiceDeclarationUuid ∧
          groupType ≠ secondaryServiceDeclarationUuid then
        some (failure .unsupportedGroupType)
      else
        match filterReadAttributesBySizeType db attrs groupType (mtu - 6) with
        | .error err => some (failure err)
        | .ok attrs =>
          (pushGroupElements db (PayloadAccumulator.new (mtu - 2)) attrs).map fun matched =>
            if matched.isEmpty then failure .attributeNotFound
            else .readByGroupTypeResponse matched.intoVec

def handleReadByGroupTypeRequest (request : AttReadByGroupTypeRequest) (mtu : Nat)
    (db : AttDatabase) : Option (Except EncodeError Att) :=
  (handleReadByGroupTypeRequestPdu request mtu db).map AttPdu.toAtt

/-! ## `handle_find_by_type_value_request` -/

/-- The loop of `handle_find_by_type_value_request`: attributes of another type and failed
reads are skipped, and a match is pushed with the end of its group, or its own handle. -/
def findByTypeValueLoop (db : AttDatabase) (type : Uuid) (value : List UInt8) :
    PayloadAccumulator AttributeHandleRange → List AttAttribute →
      PayloadAccumulator AttributeHandleRange
  | matched, [] => matched
  | matched, attr :: rest =>
    if type ≠ attr.type then findByTypeValueLoop db type value matched rest
    else
      match db.readAttribute attr.handle with
      | .ok v =>
        if v = value then
          match matched.push ⟨attr.handle,
              ((findGroupEnd db attr).map AttAttribute.handle).getD attr.handle⟩ with
          | (true, matched) => findByTypeValueLoop db type value matched rest
          | (false, matched) => matched
        else findByTypeValueLoop db type value matched rest
      | .error _ => findByTypeValueLoop db type value matched rest

/-- The packet `handle_find_by_type_value_request` builds. -/
def handleFindByTypeValueRequestPdu (request : AttFindByTypeValueRequest) (mtu : Nat)
    (db : AttDatabase) : AttPdu :=
  match filterToRange request.startingHandle request.endingHandle db.listAttributes with
  | none => .errorResponse .findByTypeValueRequest request.startingHandle .invalidHandle
  | some attrs =>
    let matched := findByTypeValueLoop db (Uuid.new request.attributeType.toNat)
      request.attributeValue (PayloadAccumulator.new (mtu - 1)) attrs
    if matched.isEmpty then
      .errorResponse .findByTypeValueRequest request.startingHandle .attributeNotFound
    else .findByTypeValueResponse matched.intoVec

def handleFindByTypeValueRequest (request : AttFindByTypeValueRequest) (mtu : Nat)
    (db : AttDatabase) : Except EncodeError Att :=
  (handleFindByTypeValueRequestPdu request mtu db).toAtt

/-! ## `handle_find_information_request` -/

/-- The loop of `handle_find_information_request_short`: it stops at the first UUID without
a 16-bit form, or at the first refusal. -/
def findInformationShortLoop :
    PayloadAccumulator AttFindInformationResponseShortEntry → List AttAttribute →
      PayloadAccumulator AttFindInformationResponseShortEntry
  | out, [] => out
  | out, attr :: rest =>
    match attr.type.toUuid16 with
    | some uuid =>
      match out.push ⟨attr.handle, uuid⟩ with
      | (true, out) => findInformationShortLoop out rest
      | (false, out) => out
    | none => out

def handleFindInformationRequestShort (attributes : List AttAttribute) (mtu : Nat) :
    Option (List AttFindInformationResponseShortEntry) :=
  let out := findInformationShortLoop (PayloadAccumulator.new (mtu - 2)) attributes
  if out.isEmpty then none else some out.intoVec

def handleFindInformationRequestLong (attributes : List AttAttribute) (mtu : Nat) :
    Option (List AttFindInformationResponseLongEntry) :=
  let out := (PayloadAccumulator.new (mtu - 2)).pushUntilFull
    (attributes.map fun attr => (⟨attr.handle, attr.type⟩ : AttFindInformationResponseLongEntry))
  if out.isEmpty then none else some out.intoVec

/-- The packet `handle_find_information_request` builds: 16-bit UUIDs while the first
attribute has one, 128-bit UUIDs otherwise. -/
def handleFindInformationRequestPdu (request : AttFindInformationRequest) (mtu : Nat)
    (db : AttDatabase) : AttPdu :=
  match filterToRange request.startingHandle request.endingHandle db.listAttributes with
  | none => .errorResponse .findInformationRequest request.startingHandle .invalidHandle
  | some attrs =>
    match handleFindInformationRequestShort attrs mtu with
    | some data => .findInformationShortResponse data
    | none =>
      match handleFindInformationRequestLong attrs mtu with
      | some data => .findInformationLongResponse data
      | none => .errorResponse .findInformationRequest request.startingHandle .attributeNotFound

def handleFindInformationRequest (request : AttFindInformationRequest) (mtu : Nat)
    (db : AttDatabase) : Except EncodeError Att :=
  (handleFindInformationRequestPdu request mtu db).toAtt

/-! ## `handle_read_request` -/

/-- The packet `handle_read_request` builds: the value cut to `mtu - 1` bytes. -/
def handleReadRequestPdu (request : AttReadRequest) (mtu : Nat) (db : AttDatabase) : AttPdu :=
  match db.readAttribute request.attributeHandle with
  | .ok data => .readResponse (data.take (mtu - 1))
  | .error errorCode => .errorResponse .readRequest request.attributeHandle errorCode

def handleReadRequest (request : AttReadRequest) (mtu : Nat) (db : AttDatabase) :
    Except EncodeError Att :=
  (handleReadRequestPdu request mtu db).toAtt

end AttServer

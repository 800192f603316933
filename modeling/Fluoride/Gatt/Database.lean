import Mathlib.Data.List.Basic
import Fluoride.Gatt.Db

/-!
# GATT client — the cached database of a remote device (`bta/gatt/database.cc`)

The client keeps what service discovery found as a list of services, each with its included
services and its characteristics, each characteristic with its descriptors. `Serialize` turns
the database into the list of `StoredAttribute`s that the cache file holds: every service
declaration first, then per service its included services and its characteristics, each
followed by its descriptors. `Deserialize` reads such a list back: the leading service
declarations make the services, and every later attribute is attached to the service a
forward-only iterator finds for its handle.

The union `value` of a `StoredAttribute` is a record of its members. `Serialize` writes the
member its attribute type is read through and leaves the others as the value-initialised
union leaves them (all zero); `Deserialize` reads only the member of the attribute's type, so
for a vector read from a file every member can hold any value.

`Deserialize` attaches a descriptor to `characteristics.back()` without checking that the
service has a characteristic; on an empty vector that is undefined behaviour, and the model
returns `none` there.
-/

namespace Gatt

def handleMin : UInt16 := 0x0001
def handleMax : UInt16 := 0xffff

/-- `gatt::IncludedService`. -/
structure IncludedService where
  handle : UInt16
  uuid : Uuid
  startHandle : UInt16
  endHandle : UInt16
  deriving DecidableEq

/-- `gatt::Descriptor`; `characteristicExtendedProperties` is set and used only for the
«Characteristic Extended Properties» descriptor. -/
structure Descriptor where
  handle : UInt16
  uuid : Uuid
  characteristicExtendedProperties : UInt16
  deriving DecidableEq

/-- `gatt::Characteristic`. -/
structure Characteristic where
  declarationHandle : UInt16
  uuid : Uuid
  valueHandle : UInt16
  properties : UInt8
  descriptors : List Descriptor
  deriving DecidableEq

/-- `gatt::Service`. -/
structure Service where
  handle : UInt16
  uuid : Uuid
  isPrimary : Bool
  endHandle : UInt16
  includedServices : List IncludedService
  characteristics : List Characteristic
  deriving DecidableEq

/-- `gatt::Database`. -/
structure Database where
  services : List Service
  deriving DecidableEq

/-- `FindService`: the first service whose range holds the handle. -/
def findService (services : List Service) (handle : UInt16) : Option Service :=
  services.find? fun service => handle ≥ service.handle && handle ≤ service.endHandle

/-! ## The cache file's attributes -/

def primaryService : Uuid := Uuid.from16Bit gattUuidPriService
def secondaryService : Uuid := Uuid.from16Bit gattUuidSecService
def includeService : Uuid := Uuid.from16Bit gattUuidIncludeService
def characteristic : Uuid := Uuid.from16Bit gattUuidCharDeclare
def characteristicExtendedProperties : Uuid := Uuid.from16Bit gattUuidCharExtProp

/-- The `service` member of `StoredAttribute::value`. -/
structure StoredService where
  uuid : Uuid
  endHandle : UInt16
  deriving DecidableEq

/-- The `included_service` member. -/
structure StoredIncludedService where
  handle : UInt16
  endHandle : UInt16
  uuid : Uuid
  deriving DecidableEq

/-- The `characteristic` member. -/
structure StoredCharacteristic where
  properties : UInt8
  valueHandle : UInt16
  uuid : Uuid
  deriving DecidableEq

/-- `StoredAttribute::value`, a record of the union's members. -/
structure StoredValue where
  service : StoredService
  includedService : StoredIncludedService
  characteristic : StoredCharacteristic
  characteristicExtendedProperties : UInt16
  deriving DecidableEq

/-- The value-initialised union `{}`: every byte zero. -/
def StoredValue.zero : StoredValue :=
  ⟨⟨Uuid.kEmpty, 0⟩, ⟨0, 0, Uuid.kEmpty⟩, ⟨0, 0, Uuid.kEmpty⟩, 0⟩

/-- `gatt::StoredAttribute`. -/
structure StoredAttribute where
  handle : UInt16
  type : Uuid
  value : StoredValue
  deriving DecidableEq

/-! ## `Database::Serialize` -/

/-- The declaration `Serialize` stores for a service. -/
def serviceAttribute (service : Service) : StoredAttribute :=
  ⟨service.handle, if service.isPrimary then primaryService else secondaryService,
    { StoredValue.zero with service := ⟨service.uuid, service.endHandle⟩ }⟩

/-- The attribute `Serialize` stores for an included service. -/
def includeAttribute (isvc : IncludedService) : StoredAttribute :=
  ⟨isvc.handle, includeService,
    { StoredValue.zero with includedService := ⟨isvc.startHandle, isvc.endHandle, isvc.uuid⟩ }⟩

/-- The declaration `Serialize` stores for a characteristic. -/
def characteristicAttribute (charac : Characteristic) : StoredAttribute :=
  ⟨charac.declarationHandle, characteristic,
    { StoredValue.zero with
      characteristic := ⟨charac.properties, charac.valueHandle, charac.uuid⟩ }⟩

/-- The attribute `Serialize` stores for a descriptor: its value only for the «Characteristic
Extended Properties» descriptor. -/
def descriptorAttribute (desc : Descriptor) : StoredAttribute :=
  if desc.uuid = characteristicExtendedProperties then
    ⟨desc.handle, desc.uuid,
      { StoredValue.zero with
        characteristicExtendedProperties := desc.characteristicExtendedProperties }⟩
  else ⟨desc.handle, desc.uuid, StoredValue.zero⟩

/-- What `Serialize` stores for one service after all the service declarations: its included
services, then each characteristic followed by its descriptors. -/
def serviceBody (service : Service) : List StoredAttribute :=
  service.includedServices.map includeAttribute ++
    service.characteristics.flatMap fun charac =>
      characteristicAttribute charac :: charac.descriptors.map descriptorAttribute

/-- `Database::Serialize`. -/
def Database.serialize (db : Database) : List StoredAttribute :=
  if db.services.isEmpty then []
  else db.services.map serviceAttribute ++ db.services.flatMap serviceBody

/-! ## `Database::Deserialize` -/

/-- The first loop of `Deserialize`: the services of the leading service declarations, and
the attributes from the first other one on. -/
def deserializeServices : List StoredAttribute → List Service × List StoredAttribute
  | [] => ([], [])
  | attr :: rest =>
    if attr.type ≠ primaryService ∧ attr.type ≠ secondaryService then ([], attr :: rest)
    else
      let (services, rest') := deserializeServices rest
      (⟨attr.handle, attr.value.service.uuid, attr.type = primaryService,
        attr.value.service.endHandle, [], []⟩ :: services, rest')

/-- `current_service_it` moved forward past every service that ends before the handle. -/
def advanceService (services : List Service) (cur : Nat) (handle : UInt16) : Nat :=
  cur + ((services.drop cur).takeWhile fun service => service.endHandle < handle).length

/-- `HandleInRange`. -/
def handleInRange (svc : Service) (handle : UInt16) : Bool :=
  handle ≥ svc.handle && handle ≤ svc.endHandle

/-- How one iteration of the second loop ends: with the services and the iterator after it,
with `*success = false`, or in a `back()` of a service without characteristics. -/
inductive DeserializeStep
  | next (services : List Service) (cur : Nat)
  | fail
  | undefined

/-- One iteration of the second loop of `Deserialize`. -/
def deserializeStep (services : List Service) (cur : Nat) (attr : StoredAttribute) :
    DeserializeStep :=
  let cur := advanceService services cur attr.handle
  match services[cur]? with
  | none => .fail  -- "Can't find service for attribute with handle"
  | some svc =>
    if !handleInRange svc attr.handle then .fail
    else if attr.type = includeService then
      match findService services attr.value.includedService.handle with
      | none => .fail  -- "Non-existing included service!"
      | some _ =>
        .next (services.modify cur fun svc => { svc with
          includedServices := svc.includedServices ++
            [⟨attr.handle, attr.value.includedService.uuid, attr.value.includedService.handle,
              attr.value.includedService.endHandle⟩] }) cur
    else if attr.type = characteristic then
      .next (services.modify cur fun svc => { svc with
        characteristics := svc.characteristics ++
          [⟨attr.handle, attr.value.characteristic.uuid, attr.value.characteristic.valueHandle,
            attr.value.characteristic.properties, []⟩] }) cur
    else if svc.characteristics.isEmpty then .undefined
    else
      let desc : Descriptor := ⟨attr.handle, attr.type,
        if attr.type = characteristicExtendedProperties then
          attr.value.characteristicExtendedProperties
        else 0⟩
      .next (services.modify cur fun svc => { svc with
        characteristics := svc.characteristics.modifyLast fun charac => { charac with
          descriptors := charac.descriptors ++ [desc] } }) cur

/-- The second loop of `Deserialize`: the database and `*success`, or `none` when it reaches
undefined behaviour. -/
def deserializeAttributes (services : List Service) (cur : Nat) :
    List StoredAttribute → Option (Database × Bool)
  | [] => some (⟨services⟩, true)
  | attr :: rest =>
    match deserializeStep services cur attr with
    | .next services cur => deserializeAttributes services cur rest
    | .fail => some (⟨services⟩, false)
    | .undefined => none

/-- `Database::Deserialize`. -/
def Database.deserialize (nvAttr : List StoredAttribute) : Option (Database × Bool) :=
  let (services, rest) := deserializeServices nvAttr
  deserializeAttributes services 0 rest

/-- A primary service over `[1, 5]` and, inside it, a Client Characteristic Configuration
descriptor with no characteristic before it: `Deserialize` attaches the descriptor to
`characteristics.back()` of a service that has none. -/
theorem deserialize_descriptor_without_characteristic :
    let service : StoredAttribute :=
      ⟨1, primaryService, { StoredValue.zero with service := ⟨Uuid.kBase, 5⟩ }⟩
    let descriptor : StoredAttribute :=
      ⟨2, Uuid.from16Bit gattUuidCharClientConfig, StoredValue.zero⟩
    Database.deserialize [service, descriptor] = none := by
  decide

end Gatt

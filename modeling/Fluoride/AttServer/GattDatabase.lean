import Fluoride.AttServer.Att
import Fluoride.Lib.KeyOrder

/-!
# The GATT database of the Rust server (`gatt/server/gatt_database.rs`)

A `GattDatabase` holds its attributes in a `BTreeMap<AttHandle, AttAttributeWithBackingValue>`,
each under its own handle. `add_service_with_handles` turns a service into attributes, one per
`add_attribute` call, into a map of its own, and counts the calls:
* the service declaration;
* per characteristic, its declaration at the handle before its value, then its value;
* the characteristic's descriptors.
It fails if a handle of the new map is in the database, or if the map holds fewer attributes
than were added, which is when two of the service's handles coincide. Otherwise it adds the new
map to the database and reports a service change from the least to the greatest handle added.
`remove_service_at_handle` finds the first primary service declaration above the handle, in
handle order. It removes every attribute from the handle up to that declaration, or to the end,
and reports a change from the handle to the greatest handle removed.

The map is a function from handles, and a walk over it in handle order a walk over
`allHandles`. The model keeps the map's key of each attribute equal to the attribute's handle as
a field of `GattDatabase`. The datastore a dynamic attribute reads through is a value of the
type parameter `δ`. The listeners are not state: the service changes they are told of are what
the calls return. The declarations' values are their `packets.pdl` encodings; encoding them
cannot fail.
-/

namespace GattServer

open AttServer

abbrev AttHandle := UInt16

/-- `AttPermissions`, a set of bit flags. -/
structure AttPermissions where
  bits : UInt8
  deriving DecidableEq, Repr

namespace AttPermissions

def READABLE : AttPermissions := ⟨0x02⟩
def WRITABLE_WITHOUT_RESPONSE : AttPermissions := ⟨0x04⟩
def WRITABLE_WITH_RESPONSE : AttPermissions := ⟨0x08⟩
def INDICATE : AttPermissions := ⟨0x20⟩

/-- `contains`: every flag of `other` is set. -/
def contains (p other : AttPermissions) : Bool := p.bits &&& other.bits == other.bits

def readable (p : AttPermissions) : Bool := p.contains READABLE
def writableWithResponse (p : AttPermissions) : Bool := p.contains WRITABLE_WITH_RESPONSE
def writableWithoutResponse (p : AttPermissions) : Bool := p.contains WRITABLE_WITHOUT_RESPONSE
def indicate (p : AttPermissions) : Bool := p.contains INDICATE

end AttPermissions

/-- `AttAttribute`. -/
structure AttAttribute where
  handle : AttHandle
  type : Uuid
  permissions : AttPermissions
  deriving DecidableEq, Repr

/-- `AttAttributeBackingValue`, a dynamic one through the service's datastore. -/
inductive AttAttributeBackingValue (δ : Type)
  | static (bytes : List UInt8)
  | dynamicCharacteristic (datastore : δ)
  | dynamicDescriptor (datastore : δ)
  deriving DecidableEq, Repr

/-- `AttAttributeWithBackingValue`; its field `attribute` is `attr` here. -/
structure AttAttributeWithBackingValue (δ : Type) where
  attr : AttAttribute
  value : AttAttributeBackingValue δ
  deriving DecidableEq, Repr

structure GattDescriptorWithHandle where
  handle : AttHandle
  type : Uuid
  permissions : AttPermissions
  deriving DecidableEq, Repr

structure GattCharacteristicWithHandle where
  handle : AttHandle
  type : Uuid
  permissions : AttPermissions
  descriptors : List GattDescriptorWithHandle
  deriving DecidableEq, Repr

structure GattServiceWithHandle where
  handle : AttHandle
  type : Uuid
  characteristics : List GattCharacteristicWithHandle
  deriving DecidableEq, Repr

/-! ## Declaration values (`packets.pdl`) -/

/-- `From<Uuid> for att::Uuid`: the sixteen bytes, least significant first. -/
def encodeUuid (uuid : Uuid) : List UInt8 := leBytes 16 uuid.val.toNat

structure GattServiceDeclarationValue where
  uuid : Uuid

instance : Packet GattServiceDeclarationValue := ⟨fun v => encodeUuid v.uuid⟩

/-- `GattCharacteristicProperties`, one bit each, the first the least significant. -/
structure GattCharacteristicProperties where
  broadcast : Bool
  read : Bool
  writeWithoutResponse : Bool
  write : Bool
  notify : Bool
  indicate : Bool
  authenticatedSignedWrites : Bool
  extendedProperties : Bool

def GattCharacteristicProperties.toUInt8 (p : GattCharacteristicProperties) : UInt8 :=
  [p.broadcast, p.read, p.writeWithoutResponse, p.write, p.notify, p.indicate,
    p.authenticatedSignedWrites, p.extendedProperties].foldr
    (fun b acc => acc * 2 + if b then 1 else 0) 0

structure GattCharacteristicDeclarationValue where
  properties : GattCharacteristicProperties
  handle : AttHandle
  uuid : Uuid

instance : Packet GattCharacteristicDeclarationValue :=
  ⟨fun v => v.properties.toUInt8 :: encodeHandle v.handle ++ encodeUuid v.uuid⟩

/-! ## The database -/

/-- `GattDatabase`, its attributes: each under its own handle. -/
structure GattDatabase (δ : Type) where
  attributes : AttHandle → Option (AttAttributeWithBackingValue δ)
  keyed : ∀ handle value, attributes handle = some value → value.attr.handle = handle

/-- `GattDatabase::new()`. -/
def GattDatabase.new (δ : Type) : GattDatabase δ := ⟨fun _ => none, fun _ _ none => nomatch none⟩

/-- Every handle, in increasing order: a walk over a `BTreeMap<AttHandle, _>` visits its keys
among them in this order. -/
def allHandles : List AttHandle := KeyOrder.uint16.keys

variable {δ : Type}

/-- The attributes `add_service_with_handles` adds for a characteristic: its declaration, its
value and its descriptors; `none` where `characteristic.handle.0 - 1` underflows, which panics. -/
def characteristicAttributes (characteristic : GattCharacteristicWithHandle) (datastore : δ) :
    Option (List (AttAttributeWithBackingValue δ)) := do
  -- "we assume the declaration handle is one less than the value handle"
  if characteristic.handle = 0 then none
  let declarationHandle := characteristic.handle - 1
  let properties : GattCharacteristicProperties :=
    ⟨false, characteristic.permissions.readable, characteristic.permissions.writableWithoutResponse,
      characteristic.permissions.writableWithResponse, false, characteristic.permissions.indicate,
      false, false⟩
  let declaration : AttAttributeWithBackingValue δ :=
    ⟨⟨declarationHandle, characteristicUuid, .READABLE⟩,
      .static (Packet.encode (GattCharacteristicDeclarationValue.mk properties characteristic.handle
        characteristic.type))⟩
  let value : AttAttributeWithBackingValue δ :=
    ⟨⟨characteristic.handle, characteristic.type, characteristic.permissions⟩,
      .dynamicCharacteristic datastore⟩
  let descriptors := characteristic.descriptors.map fun descriptor =>
    (⟨⟨descriptor.handle, descriptor.type, descriptor.permissions⟩, .dynamicDescriptor datastore⟩ :
      AttAttributeWithBackingValue δ)
  pure (declaration :: value :: descriptors)

/-- The attributes `add_service_with_handles` adds, one per `add_attribute` call, in order: the
service declaration, then each characteristic's. -/
def serviceAttributes (service : GattServiceWithHandle) (datastore : δ) :
    Option (List (AttAttributeWithBackingValue δ)) := do
  let declaration : AttAttributeWithBackingValue δ :=
    ⟨⟨service.handle, primaryServiceDeclarationUuid, .READABLE⟩,
      .static (Packet.encode (GattServiceDeclarationValue.mk service.type))⟩
  let characteristics ← service.characteristics.mapM (characteristicAttributes · datastore)
  pure (declaration :: characteristics.flatten)

/-- `attributes.insert(attribute.handle, ...)` into the service's own map: a list of attributes
with distinct handles, where an attribute replaces the one of its handle. -/
def insertAttribute (attributes : List (AttAttributeWithBackingValue δ))
    (a : AttAttributeWithBackingValue δ) : List (AttAttributeWithBackingValue δ) :=
  if attributes.any (·.attr.handle == a.attr.handle) then
    attributes.map fun b => if b.attr.handle = a.attr.handle then a else b
  else attributes ++ [a]

/-- The attribute of a handle in the service's own map. -/
def lookupAttribute (attributes : List (AttAttributeWithBackingValue δ)) (handle : AttHandle) :
    Option (AttAttributeWithBackingValue δ) :=
  attributes.find? (·.attr.handle == handle)

theorem lookupAttribute_keyed {attributes : List (AttAttributeWithBackingValue δ)}
    {handle : AttHandle} {value : AttAttributeWithBackingValue δ}
    (found : lookupAttribute attributes handle = some value) :
    value.attr.handle = handle := by
  simpa using List.find?_some found

/-- `static_data.attributes.extend(attributes)`. -/
def GattDatabase.extend (db : GattDatabase δ) (attributes : List (AttAttributeWithBackingValue δ)) :
    GattDatabase δ :=
  ⟨fun handle => (lookupAttribute attributes handle).or (db.attributes handle), by
    intro handle value found
    cases lookup : lookupAttribute attributes handle with
    | none =>
      rw [lookup, Option.none_or] at found
      exact db.keyed handle value found
    | some a =>
      rw [lookup, Option.some_or] at found
      cases found
      exact lookupAttribute_keyed lookup⟩

/-- `add_service_with_handles(service, datastore)`: the database and the range of the service
change the listeners are told of, or the error it bails with; `none` for a panic. -/
def addServiceWithHandles (db : GattDatabase δ) (service : GattServiceWithHandle) (datastore : δ) :
    Option (Except String (GattDatabase δ × Option (AttHandle × AttHandle))) := do
  let added ← serviceAttributes service datastore
  let attributes := added.foldl insertAttribute []
  let attributeCnt := added.length
  -- validate attributes for overlap
  if attributes.any fun a => (db.attributes a.attr.handle).isSome then
    return .error "duplicate handle detected"
  if attributes.length ≠ attributeCnt then
    return .error "duplicate handle detected"
  let addedHandles := attributes.map (·.attr.handle)
  let change := if addedHandles.isEmpty then none
    else some (addedHandles.min?.getD 0, addedHandles.max?.getD 0)
  return .ok (db.extend attributes, change)

/-- `static_data.attributes.retain(|handle, _| keep handle)`. -/
def GattDatabase.retain (db : GattDatabase δ) (keep : AttHandle → Bool) : GattDatabase δ :=
  ⟨fun handle => if keep handle then db.attributes handle else none, by
    intro handle value found
    split_ifs at found
    exact db.keyed handle value found⟩

/-- The handle of the first primary service declaration above `serviceHandle`, in handle
order. -/
def nextServiceHandle (db : GattDatabase δ) (serviceHandle : AttHandle) : Option AttHandle :=
  ((allHandles.filterMap db.attributes).find? fun a =>
    a.attr.handle > serviceHandle && a.attr.type == primaryServiceDeclarationUuid).map
    (·.attr.handle)

/-- `in_service_pred`: from the service's handle up to the next service, or to the end. -/
def inServicePred (serviceHandle : AttHandle) (nextServiceHandle : Option AttHandle)
    (handle : AttHandle) : Bool :=
  decide (serviceHandle ≤ handle) &&
    (nextServiceHandle.map fun next => decide (handle < next)).getD true

/-- `remove_service_at_handle(service_handle)`: the database and the range of the service change
the listeners are told of. -/
def removeServiceAtHandle (db : GattDatabase δ) (serviceHandle : AttHandle) :
    GattDatabase δ × Option (AttHandle × AttHandle) :=
  let inService := inServicePred serviceHandle (nextServiceHandle db serviceHandle)
  -- record largest attribute matching predicate
  let largestServiceHandle :=
    ((allHandles.filter fun handle => (db.attributes handle).isSome).filter inService).max?
  (db.retain fun handle => !inService handle,
    largestServiceHandle.map fun largest => (serviceHandle, largest))

end GattServer

import Fluoride.AttServer.GattDatabase

/-!
# Adding a service and taking it back out (`gatt/server/gatt_database.rs`)

`add_service_with_handles` succeeds exactly when the service's attributes `Fit` the database:
their handles are distinct and none is taken. It then adds those attributes and no others; on
failure it writes nothing. The two checks of the source do this together. The first finds a
handle that is taken. The second compares the size of the service's own map with the number of
`add_attribute` calls, which differ when two of the service's handles coincide and one
attribute replaced the other.

`remove_service_at_handle` does not remove what was added. It removes the handles from the
service's handle up to the next primary service declaration. That range holds exactly the
service's attributes when the service lies above its own handle, only its declaration is a
primary service declaration, and the database is `Isolated` around it: each attribute from the
service's handle on lies at or past a primary service declaration above the service's
greatest handle. Then removal undoes the addition, and the service change it reports runs from
the service's handle to its greatest.
-/

namespace GattServer

open AttServer

variable {δ : Type}

/-! ## The database's map -/

@[ext]
theorem GattDatabase.ext {db₁ db₂ : GattDatabase δ} (same : db₁.attributes = db₂.attributes) :
    db₁ = db₂ := by
  cases db₁
  cases db₂
  cases same
  rfl

@[simp]
theorem new_attributes (handle : AttHandle) : (GattDatabase.new δ).attributes handle = none := rfl

@[simp]
theorem extend_attributes (db : GattDatabase δ) (added : List (AttAttributeWithBackingValue δ))
    (handle : AttHandle) :
    (db.extend added).attributes handle =
      (lookupAttribute added handle).or (db.attributes handle) :=
  rfl

@[simp]
theorem retain_attributes (db : GattDatabase δ) (keep : AttHandle → Bool) (handle : AttHandle) :
    (db.retain keep).attributes handle = if keep handle then db.attributes handle else none := rfl

section Lookup

variable {attributes : List (AttAttributeWithBackingValue δ)} {handle : AttHandle}
  {a : AttAttributeWithBackingValue δ}

theorem lookupAttribute_eq_none :
    lookupAttribute attributes handle = none ↔ handle ∉ attributes.map (·.attr.handle) := by
  simp [lookupAttribute, List.find?_eq_none]

theorem mem_of_lookupAttribute (found : lookupAttribute attributes handle = some a) :
    a ∈ attributes :=
  List.mem_of_find?_eq_some found

/-- In a map of distinct handles, an attribute is what its handle looks up. -/
theorem lookupAttribute_of_mem (nodup : (attributes.map (·.attr.handle)).Nodup)
    (mem : a ∈ attributes) : lookupAttribute attributes a.attr.handle = some a := by
  obtain ⟨b, found⟩ : ∃ b, lookupAttribute attributes a.attr.handle = some b :=
    Option.isSome_iff_exists.1 (List.find?_isSome.2 ⟨a, mem, by simp⟩)
  have same : b.attr.handle = a.attr.handle := lookupAttribute_keyed found
  rw [found, List.inj_on_of_nodup_map nodup (mem_of_lookupAttribute found) mem same]

end Lookup

section Extend

variable (db : GattDatabase δ) {added : List (AttAttributeWithBackingValue δ)} {handle : AttHandle}

theorem extend_attributes_of_not_mem (fresh : handle ∉ added.map (·.attr.handle)) :
    (db.extend added).attributes handle = db.attributes handle := by
  rw [extend_attributes, lookupAttribute_eq_none.2 fresh, Option.none_or]

theorem extend_attributes_of_mem (nodup : (added.map (·.attr.handle)).Nodup)
    {a : AttAttributeWithBackingValue δ} (mem : a ∈ added) :
    (db.extend added).attributes a.attr.handle = some a := by
  rw [extend_attributes, lookupAttribute_of_mem nodup mem, Option.some_or]

/-- An attribute of an extended database was added, or was there. -/
theorem mem_or_of_extend {a : AttAttributeWithBackingValue δ}
    (present : (db.extend added).attributes handle = some a) :
    (a ∈ added ∧ a.attr.handle = handle) ∨ db.attributes handle = some a := by
  rw [extend_attributes] at present
  cases found : lookupAttribute added handle with
  | none => rw [found, Option.none_or] at present; exact .inr present
  | some b =>
    rw [found, Option.some_or] at present
    cases present
    exact .inl ⟨mem_of_lookupAttribute found, lookupAttribute_keyed found⟩

end Extend

/-! ## The service's own map

`attributes.insert(handle, ...)` keeps one attribute per handle, so the map is as long as the
list of calls only when their handles are distinct. -/

section Insert

variable {acc : List (AttAttributeWithBackingValue δ)} {a : AttAttributeWithBackingValue δ}

theorem insertAttribute_of_not_mem (fresh : a.attr.handle ∉ acc.map (·.attr.handle)) :
    insertAttribute acc a = acc ++ [a] := by
  have untaken : acc.any (·.attr.handle == a.attr.handle) = false := by simpa using fresh
  simp [insertAttribute, untaken]

theorem length_insertAttribute_of_mem (taken : a.attr.handle ∈ acc.map (·.attr.handle)) :
    (insertAttribute acc a).length = acc.length := by
  have found : acc.any (·.attr.handle == a.attr.handle) = true := by simpa using taken
  simp [insertAttribute, found]

theorem length_insertAttribute_le : (insertAttribute acc a).length ≤ acc.length + 1 := by
  unfold insertAttribute
  split <;> simp

theorem length_foldl_insertAttribute_le :
    ∀ (l acc : List (AttAttributeWithBackingValue δ)),
      (l.foldl insertAttribute acc).length ≤ acc.length + l.length
  | [], acc => by simp
  | a :: l, acc => by
    have first := @length_insertAttribute_le δ acc a
    have rest := length_foldl_insertAttribute_le l (insertAttribute acc a)
    simp only [List.foldl_cons, List.length_cons]
    omega

theorem foldl_insertAttribute_of_nodup :
    ∀ (l acc : List (AttAttributeWithBackingValue δ)), ((acc ++ l).map (·.attr.handle)).Nodup →
      l.foldl insertAttribute acc = acc ++ l
  | [], acc, _ => by simp
  | a :: l, acc, nodup => by
    have fresh : a.attr.handle ∉ acc.map (·.attr.handle) := by
      simp only [List.map_append, List.map_cons, List.nodup_append, List.mem_cons] at nodup
      exact fun mem => nodup.2.2 _ mem _ (.inl rfl) rfl
    rw [List.foldl_cons, insertAttribute_of_not_mem fresh,
      foldl_insertAttribute_of_nodup l (acc ++ [a]) (by simpa using nodup)]
    simp

/-- A fold as long as its calls had distinct handles. -/
theorem nodup_of_length_foldl_insertAttribute :
    ∀ (l acc : List (AttAttributeWithBackingValue δ)), (acc.map (·.attr.handle)).Nodup →
      (l.foldl insertAttribute acc).length = acc.length + l.length →
      ((acc ++ l).map (·.attr.handle)).Nodup
  | [], acc, nodup, _ => by simpa using nodup
  | a :: l, acc, nodup, counted => by
    rw [List.foldl_cons] at counted
    by_cases taken : a.attr.handle ∈ acc.map (·.attr.handle)
    · -- the repeated handle shortened the map, and the rest of the fold cannot make up for it
      have short := length_foldl_insertAttribute_le l (insertAttribute acc a)
      rw [length_insertAttribute_of_mem taken] at short
      simp only [List.length_cons] at counted
      omega
    · rw [insertAttribute_of_not_mem taken] at counted
      have grown : ((acc ++ [a]).map (·.attr.handle)).Nodup := by
        simp only [List.map_append, List.map_cons, List.map_nil]
        rw [List.nodup_append]
        refine ⟨nodup, List.nodup_singleton _, fun x mem y single same => ?_⟩
        rw [List.mem_singleton] at single
        rw [same, single] at mem
        exact taken mem
      have rest := nodup_of_length_foldl_insertAttribute l (acc ++ [a]) grown
        (by simpa [Nat.add_assoc, Nat.add_comm 1] using counted)
      simpa using rest

end Insert

/-- A service's attributes fit in a database: their handles are distinct and none is taken. -/
def Fits (db : GattDatabase δ) (added : List (AttAttributeWithBackingValue δ)) : Prop :=
  (added.map (·.attr.handle)).Nodup ∧ ∀ a ∈ added, db.attributes a.attr.handle = none

instance (db : GattDatabase δ) (added : List (AttAttributeWithBackingValue δ)) :
    Decidable (Fits db added) :=
  inferInstanceAs (Decidable (_ ∧ _))

/-- The service's own map holds every attribute added, in order, when the handles are
distinct, and is shorter otherwise. -/
theorem length_foldl_insertAttribute_iff (added : List (AttAttributeWithBackingValue δ)) :
    (added.foldl insertAttribute []).length = added.length ↔ (added.map (·.attr.handle)).Nodup := by
  constructor
  · intro counted
    simpa using
      nodup_of_length_foldl_insertAttribute added [] List.nodup_nil (by simpa using counted)
  · intro nodup
    rw [foldl_insertAttribute_of_nodup added [] (by simpa using nodup), List.nil_append]

/-! ## The attributes of a service -/

/-- The handles of a characteristic's attributes: its declaration's, its value's and its
descriptors'. -/
def characteristicHandles (characteristic : GattCharacteristicWithHandle) : List AttHandle :=
  (characteristic.handle - 1) :: characteristic.handle :: characteristic.descriptors.map (·.handle)

/-- The handles of a service's attributes: its declaration's, then its characteristics'. -/
def serviceHandles (service : GattServiceWithHandle) : List AttHandle :=
  service.handle :: service.characteristics.flatMap characteristicHandles

/-- No characteristic or descriptor of the service is typed as a primary service declaration. -/
def DeclaresOnce (service : GattServiceWithHandle) : Prop :=
  ∀ c ∈ service.characteristics, c.type ≠ primaryServiceDeclarationUuid ∧
    ∀ d ∈ c.descriptors, d.type ≠ primaryServiceDeclarationUuid

instance (service : GattServiceWithHandle) : Decidable (DeclaresOnce service) :=
  inferInstanceAs (Decidable (∀ c ∈ service.characteristics, _))

section Characteristic

variable {characteristic : GattCharacteristicWithHandle} {datastore : δ}
  {l : List (AttAttributeWithBackingValue δ)}

theorem characteristicAttributes_isSome (valueHandle : characteristic.handle ≠ 0) :
    ∃ l, characteristicAttributes characteristic datastore = some l := by
  simp [characteristicAttributes, valueHandle]

theorem characteristicAttributes_handles
    (built : characteristicAttributes characteristic datastore = some l) :
    l.map (·.attr.handle) = characteristicHandles characteristic := by
  unfold characteristicAttributes at built
  split at built
  · simp at built
  · cases built
    simp [characteristicHandles]

/-- A characteristic's declaration is typed as one; its value and descriptors keep their types. -/
theorem characteristicAttributes_not_primary
    (built : characteristicAttributes characteristic datastore = some l)
    (typed : characteristic.type ≠ primaryServiceDeclarationUuid ∧
      ∀ d ∈ characteristic.descriptors, d.type ≠ primaryServiceDeclarationUuid) :
    ∀ a ∈ l, a.attr.type ≠ primaryServiceDeclarationUuid := by
  have declaration : characteristicUuid ≠ primaryServiceDeclarationUuid := by decide
  unfold characteristicAttributes at built
  split at built
  · simp at built
  · cases built
    simpa [declaration] using typed

end Characteristic

section Service

variable {service : GattServiceWithHandle} {datastore : δ}
  {added : List (AttAttributeWithBackingValue δ)}

/-- The loop over the characteristics: their attributes one after another. -/
theorem mapM_characteristicAttributes (datastore : δ) :
    ∀ (characteristics : List GattCharacteristicWithHandle)
      (cs : List (List (AttAttributeWithBackingValue δ))),
      characteristics.mapM (characteristicAttributes · datastore) = some cs →
      cs.flatten.map (·.attr.handle) = characteristics.flatMap characteristicHandles ∧
      ∀ a ∈ cs.flatten, ∃ c ∈ characteristics, ∃ l,
        characteristicAttributes c datastore = some l ∧ a ∈ l
  | [], cs, built => by
    cases built
    simp
  | c :: characteristics, cs, built => by
    simp only [List.mapM_cons, Option.bind_eq_bind, Option.bind_eq_some_iff, Option.pure_def,
      Option.some.injEq] at built
    obtain ⟨l, first, ls, rest, rfl⟩ := built
    obtain ⟨handles, origin⟩ := mapM_characteristicAttributes datastore characteristics ls rest
    refine ⟨by simp [characteristicAttributes_handles first, handles], ?_⟩
    intro a mem
    rw [List.flatten_cons, List.mem_append] at mem
    rcases mem with here | later
    · exact ⟨c, List.mem_cons_self, l, first, here⟩
    · obtain ⟨c', mem', l', built', inner⟩ := origin a later
      exact ⟨c', List.mem_cons_of_mem c mem', l', built', inner⟩

theorem mapM_characteristicAttributes_isSome (datastore : δ) :
    ∀ characteristics : List GattCharacteristicWithHandle, (∀ c ∈ characteristics, c.handle ≠ 0) →
      ∃ cs, characteristics.mapM (characteristicAttributes · datastore) = some cs
  | [], _ => ⟨[], rfl⟩
  | c :: characteristics, valueHandles => by
    obtain ⟨l, first⟩ := @characteristicAttributes_isSome δ c datastore
      (valueHandles c List.mem_cons_self)
    obtain ⟨ls, rest⟩ := mapM_characteristicAttributes_isSome datastore characteristics
      fun c' mem => valueHandles c' (List.mem_cons_of_mem c mem)
    exact ⟨l :: ls, by simp [List.mapM_cons, first, rest]⟩

theorem serviceAttributes_isSome (valueHandles : ∀ c ∈ service.characteristics, c.handle ≠ 0) :
    ∃ added, serviceAttributes service datastore = some added := by
  obtain ⟨cs, built⟩ := mapM_characteristicAttributes_isSome datastore _ valueHandles
  simp [serviceAttributes, built]

/-- The declaration first, then the characteristics' attributes. -/
theorem serviceAttributes_cons (built : serviceAttributes service datastore = some added) :
    ∃ cs, service.characteristics.mapM (characteristicAttributes · datastore) = some cs ∧
      added = ⟨⟨service.handle, primaryServiceDeclarationUuid, .READABLE⟩,
        .static (Packet.encode (GattServiceDeclarationValue.mk service.type))⟩ :: cs.flatten := by
  simp only [serviceAttributes, Option.bind_eq_bind, Option.bind_eq_some_iff, Option.pure_def,
    Option.some.injEq] at built
  obtain ⟨cs, mapped, rfl⟩ := built
  exact ⟨cs, mapped, rfl⟩

theorem serviceAttributes_handles (built : serviceAttributes service datastore = some added) :
    added.map (·.attr.handle) = serviceHandles service := by
  obtain ⟨cs, mapped, rfl⟩ := serviceAttributes_cons built
  simp [serviceHandles, (mapM_characteristicAttributes datastore _ cs mapped).1]

/-- Only the service's declaration is typed as a primary service declaration. -/
theorem serviceAttributes_primary (built : serviceAttributes service datastore = some added)
    (declaresOnce : DeclaresOnce service) :
    ∀ a ∈ added, a.attr.type = primaryServiceDeclarationUuid → a.attr.handle = service.handle := by
  obtain ⟨cs, mapped, rfl⟩ := serviceAttributes_cons built
  intro a mem primary
  rcases List.mem_cons.1 mem with rfl | later
  · rfl
  · obtain ⟨c, memC, l, builtC, inner⟩ :=
      (mapM_characteristicAttributes datastore _ cs mapped).2 a later
    exact absurd primary (characteristicAttributes_not_primary builtC (declaresOnce c memC) a inner)

end Service

/-! ## Adding a service -/

/-- `add_service_with_handles` on the attributes it builds: it adds them when they fit, and
reports a change from their least handle to their greatest. -/
theorem addServiceWithHandles_of_serviceAttributes (db : GattDatabase δ)
    {service : GattServiceWithHandle} {datastore : δ}
    {added : List (AttAttributeWithBackingValue δ)}
    (built : serviceAttributes service datastore = some added) :
    addServiceWithHandles db service datastore =
      some (if Fits db added then
        .ok (db.extend added, some ((added.map (·.attr.handle)).min?.getD 0,
          (added.map (·.attr.handle)).max?.getD 0))
      else .error "duplicate handle detected") := by
  have nonempty : (added.map (·.attr.handle)).isEmpty = false := by
    simp [serviceAttributes_handles built, serviceHandles]
  simp only [addServiceWithHandles, built, Option.bind_eq_bind, Option.bind_some]
  by_cases nodup : (added.map (·.attr.handle)).Nodup
  · have kept : added.foldl insertAttribute [] = added := by
      simpa using foldl_insertAttribute_of_nodup added [] (by simpa using nodup)
    -- the count check passes, and the service fits exactly when no handle is taken
    by_cases taken : added.any fun a => (db.attributes a.attr.handle).isSome
    · have unfit : ¬Fits db added := fun fits => by
        obtain ⟨a, mem, present⟩ := List.any_eq_true.1 taken
        simp [fits.2 a mem] at present
      simp [kept, taken, unfit]
    · have fits : Fits db added := ⟨nodup, by simpa using taken⟩
      simp [kept, taken, fits, nonempty]
  · -- a repeated handle fails the count check, whatever the first check says
    have short : (added.foldl insertAttribute []).length ≠ added.length :=
      fun counted => nodup ((length_foldl_insertAttribute_iff added).1 counted)
    have unfit : ¬Fits db added := fun fits => nodup fits.1
    rw [if_neg unfit]
    -- `split` settles the count check with `short`
    split <;> rfl


/-! ## Removing a service -/

/-- A primary service declaration sits at the handle. -/
def primaryAt (db : GattDatabase δ) (handle : AttHandle) : Bool :=
  (db.attributes handle).any (·.attr.type == primaryServiceDeclarationUuid)

theorem primaryAt_iff {db : GattDatabase δ} {handle : AttHandle} :
    primaryAt db handle = true ↔
      ∃ a, db.attributes handle = some a ∧ a.attr.type = primaryServiceDeclarationUuid := by
  cases present : db.attributes handle <;> simp [primaryAt, present]

/-- The walk of `nextServiceHandle` over the attributes is a walk over the handles: the
attribute it finds sits at its handle. -/
theorem nextServiceHandle_eq_find? (db : GattDatabase δ) (serviceHandle : AttHandle) :
    nextServiceHandle db serviceHandle =
      allHandles.find? fun handle => decide (serviceHandle < handle) && primaryAt db handle := by
  have atHandle : (fun handle => (db.attributes handle).any fun a =>
      a.attr.handle > serviceHandle && a.attr.type == primaryServiceDeclarationUuid) =
      fun handle => decide (serviceHandle < handle) && primaryAt db handle := by
    funext handle
    cases present : db.attributes handle with
    | none => simp [primaryAt, present]
    | some a => simp [primaryAt, present, db.keyed handle a present]
  unfold nextServiceHandle
  rw [List.find?_filterMap, atHandle]
  cases found :
      allHandles.find? (fun handle => decide (serviceHandle < handle) && primaryAt db handle) with
  | none => rfl
  | some handle =>
    have holds := List.find?_some found
    rw [Bool.and_eq_true] at holds
    obtain ⟨a, present, -⟩ := primaryAt_iff.1 holds.2
    simp [present, db.keyed handle a present]

theorem nextServiceHandle_eq_some_iff {db : GattDatabase δ} {serviceHandle next : AttHandle} :
    nextServiceHandle db serviceHandle = some next ↔
      serviceHandle < next ∧ primaryAt db next = true ∧
        ∀ handle, handle < next → serviceHandle < handle → primaryAt db handle = false := by
  rw [nextServiceHandle_eq_find?, allHandles, KeyOrder.find?_eq_some_iff]
  simp [Bool.and_eq_true, and_assoc]

/-- A primary service declaration above the handle bounds the next one. -/
theorem nextServiceHandle_le {db : GattDatabase δ} {serviceHandle handle : AttHandle}
    (above : serviceHandle < handle) (primary : primaryAt db handle = true) :
    ∃ next, nextServiceHandle db serviceHandle = some next ∧ next ≤ handle := by
  obtain ⟨next, found⟩ : ∃ next, nextServiceHandle db serviceHandle = some next := by
    rw [nextServiceHandle_eq_find?]
    exact Option.isSome_iff_exists.1
      (List.find?_isSome.2 ⟨handle, KeyOrder.uint16.complete handle, by simp [above, primary]⟩)
  refine ⟨next, found, Std.not_lt.1 fun past => ?_⟩
  have skipped := (nextServiceHandle_eq_some_iff.1 found).2.2 handle past above
  simp [primary] at skipped

/-- What is left after `remove_service_at_handle`: everything outside the service's range. -/
theorem removeServiceAtHandle_attributes (db : GattDatabase δ) (serviceHandle handle : AttHandle) :
    (removeServiceAtHandle db serviceHandle).1.attributes handle =
      if inServicePred serviceHandle (nextServiceHandle db serviceHandle) handle then none
      else db.attributes handle := by
  simp only [removeServiceAtHandle, retain_attributes, Bool.not_eq_true']
  split <;> simp_all

/-- The change `remove_service_at_handle` reports ends at the greatest handle it removes. -/
theorem removeServiceAtHandle_change {db : GattDatabase δ} {serviceHandle largest : AttHandle} :
    (removeServiceAtHandle db serviceHandle).2 = some (serviceHandle, largest) ↔
      inServicePred serviceHandle (nextServiceHandle db serviceHandle) largest = true ∧
        (db.attributes largest).isSome ∧
        ∀ handle, inServicePred serviceHandle (nextServiceHandle db serviceHandle) handle = true →
          (db.attributes handle).isSome → handle ≤ largest := by
  simp only [removeServiceAtHandle, List.filter_filter, Option.map_eq_some_iff, Prod.mk.injEq,
    true_and, exists_eq_right]
  rw [allHandles, KeyOrder.max?_filter_eq_some_iff]
  simp [Bool.and_eq_true, and_assoc]

/-- Every attribute of the database from `low` on lies at or past a primary service
declaration above `high`. -/
def Isolated (db : GattDatabase δ) (low high : AttHandle) : Prop :=
  ∀ handle a, low ≤ handle → db.attributes handle = some a →
    ∃ next b, high < next ∧ next ≤ handle ∧ db.attributes next = some b ∧
      b.attr.type = primaryServiceDeclarationUuid

/-- What `remove_service_at_handle` needs to take the attributes `added` back out at
`serviceHandle`, `high` the greatest of their handles. -/
structure Undoable (db : GattDatabase δ) (added : List (AttAttributeWithBackingValue δ))
    (serviceHandle high : AttHandle) : Prop where
  fits : Fits db added
  occupies : ∀ a ∈ added, serviceHandle ≤ a.attr.handle
  declared : ∀ a ∈ added,
    a.attr.type = primaryServiceDeclarationUuid → a.attr.handle = serviceHandle
  highest : (added.map (·.attr.handle)).max? = some high
  isolated : Isolated db serviceHandle high

namespace Undoable

variable {db : GattDatabase δ} {added : List (AttAttributeWithBackingValue δ)}
  {serviceHandle high : AttHandle} (undoable : Undoable db added serviceHandle high)
include undoable

theorem le_high {a : AttAttributeWithBackingValue δ} (mem : a ∈ added) : a.attr.handle ≤ high :=
  (List.max?_eq_some_iff.1 undoable.highest).2 _ (List.mem_map_of_mem mem)

theorem high_mem : ∃ a ∈ added, a.attr.handle = high :=
  List.mem_map.1 (List.max?_eq_some_iff.1 undoable.highest).1

theorem serviceHandle_le_high : serviceHandle ≤ high := by
  obtain ⟨a, mem, rfl⟩ := undoable.high_mem
  exact undoable.occupies a mem

/-- Nothing added lies at or past the next service's declaration. -/
theorem high_lt_next {next : AttHandle}
    (found : nextServiceHandle (db.extend added) serviceHandle = some next) : high < next := by
  obtain ⟨above, primary, -⟩ := nextServiceHandle_eq_some_iff.1 found
  obtain ⟨b, present, typed⟩ := primaryAt_iff.1 primary
  rcases mem_or_of_extend db present with ⟨mem, rfl⟩ | old
  · -- the one declaration added sits at the service's handle, not above it
    rw [undoable.declared b mem typed] at above
    exact absurd above Std.lt_irrefl
  · obtain ⟨n, c, highN, le, -⟩ := undoable.isolated next b (Std.le_of_lt above) old
    exact Std.lt_of_lt_of_le highN le

theorem inService_of_mem {a : AttAttributeWithBackingValue δ} (mem : a ∈ added) :
    inServicePred serviceHandle (nextServiceHandle (db.extend added) serviceHandle) a.attr.handle =
      true := by
  cases found : nextServiceHandle (db.extend added) serviceHandle with
  | none => simp [inServicePred, undoable.occupies a mem]
  | some next =>
    have below : a.attr.handle < next :=
      Std.lt_of_le_of_lt (undoable.le_high mem) (undoable.high_lt_next found)
    simp [inServicePred, undoable.occupies a mem, below]

theorem not_inService_of_present {handle : AttHandle} {b : AttAttributeWithBackingValue δ}
    (present : db.attributes handle = some b) :
    inServicePred serviceHandle (nextServiceHandle (db.extend added) serviceHandle) handle =
      false := by
  by_cases low : serviceHandle ≤ handle
  · obtain ⟨n, c, highN, le, presentN, typed⟩ := undoable.isolated handle b low present
    -- the declaration at `n` is the database's own, above everything added
    have fresh : n ∉ added.map (·.attr.handle) := fun mem => by
      obtain ⟨a, memA, rfl⟩ := List.mem_map.1 mem
      exact absurd (undoable.le_high memA) (Std.not_le.2 highN)
    have primary : primaryAt (db.extend added) n = true :=
      primaryAt_iff.2 ⟨c, by rw [extend_attributes_of_not_mem db fresh, presentN], typed⟩
    obtain ⟨next, found, nextLe⟩ :=
      nextServiceHandle_le (Std.lt_of_le_of_lt undoable.serviceHandle_le_high highN) primary
    have past : ¬handle < next := Std.not_lt.2 (Std.le_trans nextLe le)
    simp [inServicePred, found, past]
  · simp [inServicePred, low]

/-- Removal leaves the database as it was before the service was added. -/
theorem remove_attributes (handle : AttHandle) :
    (removeServiceAtHandle (db.extend added) serviceHandle).1.attributes handle =
      db.attributes handle := by
  rw [removeServiceAtHandle_attributes]
  split
  case isTrue inService =>
    cases present : db.attributes handle with
    | none => rfl
    | some b => simp [undoable.not_inService_of_present present] at inService
  case isFalse outside =>
    have fresh : handle ∉ added.map (·.attr.handle) := fun mem => by
      obtain ⟨a, memA, rfl⟩ := List.mem_map.1 mem
      exact outside (undoable.inService_of_mem memA)
    exact extend_attributes_of_not_mem db fresh

theorem remove_change :
    (removeServiceAtHandle (db.extend added) serviceHandle).2 = some (serviceHandle, high) := by
  rw [removeServiceAtHandle_change]
  obtain ⟨a, mem, rfl⟩ := undoable.high_mem
  refine ⟨undoable.inService_of_mem mem,
    by rw [extend_attributes_of_mem db undoable.fits.1 mem]; rfl,
    fun handle inService present => ?_⟩
  obtain ⟨b, found⟩ := Option.isSome_iff_exists.1 present
  rcases mem_or_of_extend db found with ⟨memB, rfl⟩ | old
  · exact undoable.le_high memB
  · simp [undoable.not_inService_of_present old] at inService

end Undoable

/-- `remove_service_at_handle` undoes `add_service_with_handles` for an undoable service. -/
theorem removeServiceAtHandle_extend {db : GattDatabase δ}
    {added : List (AttAttributeWithBackingValue δ)} {serviceHandle high : AttHandle}
    (undoable : Undoable db added serviceHandle high) :
    removeServiceAtHandle (db.extend added) serviceHandle = (db, some (serviceHandle, high)) :=
  Prod.ext (GattDatabase.ext (funext undoable.remove_attributes)) undoable.remove_change


/-! ## Adding a service, then removing it -/

theorem add_service_with_handles_then_remove (db : GattDatabase δ) (service : GattServiceWithHandle)
    (datastore : δ) (valueHandles : ∀ c ∈ service.characteristics, c.handle ≠ 0) :
    ∃ added, serviceAttributes service datastore = some added ∧
      added.map (·.attr.handle) = serviceHandles service ∧
      addServiceWithHandles db service datastore =
        some (if Fits db added then
          .ok (db.extend added, some ((serviceHandles service).min?.getD 0,
            (serviceHandles service).max?.getD 0))
        else .error "duplicate handle detected") ∧
      (Fits db added → (∀ handle ∈ serviceHandles service, service.handle ≤ handle) →
        DeclaresOnce service → Isolated db service.handle ((serviceHandles service).max?.getD 0) →
        removeServiceAtHandle (db.extend added) service.handle =
          (db, some (service.handle, (serviceHandles service).max?.getD 0))) := by
  obtain ⟨added, built⟩ := @serviceAttributes_isSome δ service datastore valueHandles
  have handles := serviceAttributes_handles built
  refine ⟨added, built, handles,
    by rw [addServiceWithHandles_of_serviceAttributes db built, handles], ?_⟩
  intro fits occupies declaresOnce isolated
  -- the declaration's handle comes first, so the service has a greatest handle
  obtain ⟨high, highest⟩ : ∃ high, (serviceHandles service).max? = some high :=
    Option.isSome_iff_exists.1 (List.isSome_max?_iff.2 (List.cons_ne_nil _ _))
  rw [highest, Option.getD_some] at isolated ⊢
  exact removeServiceAtHandle_extend
    ⟨fits, fun a mem => occupies _ (handles ▸ List.mem_map_of_mem mem),
      serviceAttributes_primary built declaresOnce, handles ▸ highest, isolated⟩

/-- The battery service: its declaration at 1, the battery level's declaration at 2 and its
value at 3. -/
def batteryService : GattServiceWithHandle :=
  ⟨1, Uuid.new 0x180F, [⟨3, Uuid.new 0x2A19, .READABLE, []⟩]⟩

/-- The generic access service above it: its declaration at 10, the device name's declaration
at 11 and its value at 12. -/
def genericAccessService : GattServiceWithHandle :=
  ⟨10, Uuid.new 0x1800, [⟨12, Uuid.new 0x2A00, .READABLE, []⟩]⟩

/-- The generic access service added to the empty database. -/
def genericAccessDatabase : GattDatabase Unit :=
  (GattDatabase.new Unit).extend ((serviceAttributes genericAccessService ()).getD [])

/-- Every attribute of the generic access database lies at or after its declaration at 10,
above the battery service's handles. -/
theorem isolated_genericAccessDatabase : Isolated genericAccessDatabase batteryService.handle 3 := by
  intro handle a _ present
  rcases mem_or_of_extend _ present with ⟨mem, rfl⟩ | none
  case inr => simp at none
  have listed : a.attr.handle ∈ [10, 11, 12] := by
    have handles : ((serviceAttributes genericAccessService ()).getD []).map (·.attr.handle) =
        [10, 11, 12] := by decide
    exact handles ▸ List.mem_map_of_mem mem
  have above : (10 : AttHandle) ≤ a.attr.handle := by
    simp only [List.mem_cons, List.not_mem_nil, or_false] at listed
    rcases listed with h | h | h <;> rw [h] <;> decide
  obtain ⟨b, declared, typed⟩ : ∃ b, genericAccessDatabase.attributes 10 = some b ∧
      b.attr.type = primaryServiceDeclarationUuid := ⟨_, rfl, rfl⟩
  exact ⟨10, b, by decide, above, declared, typed⟩

theorem add_then_remove_battery_service :
    ∃ db, addServiceWithHandles genericAccessDatabase batteryService () =
        some (.ok (db, some (1, 3))) ∧
      removeServiceAtHandle db 1 = (genericAccessDatabase, some (1, 3)) := by
  obtain ⟨added, built, -, add, remove⟩ :=
    add_service_with_handles_then_remove genericAccessDatabase batteryService () (by decide)
  obtain rfl : added = (serviceAttributes batteryService ()).getD [] := by rw [built]; rfl
  have fits : Fits genericAccessDatabase ((serviceAttributes batteryService ()).getD []) := by
    decide
  have low : (serviceHandles batteryService).min?.getD 0 = 1 := by decide
  have high : (serviceHandles batteryService).max?.getD 0 = 3 := by decide
  refine ⟨_, by rw [add, if_pos fits, low, high], ?_⟩
  have removed := remove fits (by simp [serviceHandles, characteristicHandles, batteryService])
    (by decide) (by rw [high]; exact isolated_genericAccessDatabase)
  rwa [high] at removed


/-- The device information service with its manufacturer name below its declaration: the
declaration at 20, the name's declaration at 10 and its value at 11. -/
def deviceInformationService : GattServiceWithHandle :=
  ⟨20, Uuid.new 0x180A, [⟨11, Uuid.new 0x2A29, .READABLE, []⟩]⟩

/-- The device information service added to the empty database. -/
def deviceInformationDatabase : GattDatabase Unit :=
  (GattDatabase.new Unit).extend ((serviceAttributes deviceInformationService ()).getD [])

/-- The battery service added after it. -/
def bothServicesDatabase : GattDatabase Unit :=
  deviceInformationDatabase.extend ((serviceAttributes batteryService ()).getD [])

theorem deviceInformationService_attributes : serviceAttributes deviceInformationService () =
    some ((serviceAttributes deviceInformationService ()).getD []) := rfl

theorem batteryService_attributes :
    serviceAttributes batteryService () =
      some ((serviceAttributes batteryService ()).getD []) := rfl

/-- Every attribute of the two services' database is one of theirs. -/
theorem mem_of_bothServicesDatabase {handle : AttHandle} {a : AttAttributeWithBackingValue Unit}
    (present : bothServicesDatabase.attributes handle = some a) :
    (a ∈ (serviceAttributes batteryService ()).getD [] ∨
      a ∈ (serviceAttributes deviceInformationService ()).getD []) ∧ a.attr.handle = handle := by
  rcases mem_or_of_extend _ present with ⟨mem, rfl⟩ | old
  · exact ⟨.inl mem, rfl⟩
  · rcases mem_or_of_extend _ old with ⟨mem, rfl⟩ | none
    · exact ⟨.inr mem, rfl⟩
    · simp at none

/-- The service after the battery service begins at the other's declaration, 20. -/
theorem nextServiceHandle_bothServicesDatabase :
    nextServiceHandle bothServicesDatabase 1 = some 20 := by
  refine nextServiceHandle_eq_some_iff.2 ⟨by decide, by decide, fun handle below above => ?_⟩
  cases primary : primaryAt bothServicesDatabase handle with
  | false => rfl
  | true =>
    -- the two declarations, at 1 and at 20, are the only primary ones
    obtain ⟨a, present, typed⟩ := primaryAt_iff.1 primary
    obtain ⟨mem | mem, rfl⟩ := mem_of_bothServicesDatabase present
    · rw [serviceAttributes_primary batteryService_attributes (by decide) a mem typed] at above
      exact absurd above (by decide)
    · rw [serviceAttributes_primary deviceInformationService_attributes (by decide) a mem typed]
        at below
      exact absurd below (by decide)

theorem remove_service_takes_neighbour :
    ∃ db₁ db₂ removed,
      addServiceWithHandles (GattDatabase.new Unit) deviceInformationService () =
        some (.ok (db₁, some (10, 20))) ∧
      (∀ handle, 1 ≤ handle → handle ≤ 3 → db₁.attributes handle = none) ∧
      addServiceWithHandles db₁ batteryService () = some (.ok (db₂, some (1, 3))) ∧
      removeServiceAtHandle db₂ 1 = (removed, some (1, 11)) ∧
      (db₁.attributes 11).isSome ∧ removed.attributes 11 = none := by
  -- the device information service takes 20, 10 and 11, none of the battery service's handles
  have apart : ∀ handle, 1 ≤ handle → handle ≤ 3 →
      deviceInformationDatabase.attributes handle = none := by
    intro handle _ hi
    rw [deviceInformationDatabase, extend_attributes_of_not_mem, new_attributes]
    rw [serviceAttributes_handles deviceInformationService_attributes]
    intro mem
    have taken : ∀ h ∈ serviceHandles deviceInformationService, 10 ≤ h := by
      simp [serviceHandles, characteristicHandles, deviceInformationService]
    exact absurd (Std.le_trans (taken handle mem) hi) (by decide)
  have addT : addServiceWithHandles (GattDatabase.new Unit) deviceInformationService () =
      some (.ok (deviceInformationDatabase, some (10, 20))) := by
    have range : (serviceHandles deviceInformationService).min?.getD 0 = 10 ∧
        (serviceHandles deviceInformationService).max?.getD 0 = 20 := by
      decide
    rw [addServiceWithHandles_of_serviceAttributes _ deviceInformationService_attributes,
      if_pos (by decide), serviceAttributes_handles deviceInformationService_attributes, range.1,
      range.2]
    rfl
  have addB : addServiceWithHandles deviceInformationDatabase batteryService () =
      some (.ok (bothServicesDatabase, some (1, 3))) := by
    have range : (serviceHandles batteryService).min?.getD 0 = 1 ∧
        (serviceHandles batteryService).max?.getD 0 = 3 := by
      decide
    rw [addServiceWithHandles_of_serviceAttributes _ batteryService_attributes, if_pos (by decide),
      serviceAttributes_handles batteryService_attributes, range.1, range.2]
    rfl
  have next := nextServiceHandle_bothServicesDatabase
  refine ⟨_, _, (removeServiceAtHandle bothServicesDatabase 1).1, addT, apart, addB,
    Prod.ext rfl ?_, by decide, by rw [removeServiceAtHandle_attributes, next]; rfl⟩
  refine removeServiceAtHandle_change.2 ⟨by rw [next]; decide, by decide, ?_⟩
  -- below 20, the attributes are the battery service's and the manufacturer name's
  intro handle inService present
  obtain ⟨a, found⟩ := Option.isSome_iff_exists.1 present
  rw [next] at inService
  have below : handle < 20 := by
    simp only [inServicePred, Option.map_some, Option.getD_some, Bool.and_eq_true,
      decide_eq_true_eq] at inService
    exact inService.2
  obtain ⟨mem | mem, rfl⟩ := mem_of_bothServicesDatabase found
  · have low : ∀ h ∈ serviceHandles batteryService, h ≤ 11 := by
      simp [serviceHandles, characteristicHandles, batteryService]
    exact low _ (serviceAttributes_handles batteryService_attributes ▸ List.mem_map_of_mem mem)
  · have low : ∀ h ∈ serviceHandles deviceInformationService, h < 20 → h ≤ 11 := by
      simp [serviceHandles, characteristicHandles, deviceInformationService]
    exact low _
      (serviceAttributes_handles deviceInformationService_attributes ▸ List.mem_map_of_mem mem) below

end GattServer

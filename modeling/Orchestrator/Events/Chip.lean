import Orchestrator.Events.Wifi

/-!
# Handling Matter events

`chip_event_handler.cpp`. The TLV reader is a parameter: what the callback asks it.
-/

namespace Orchestrator.Events

open Lib Handler Messages

/-- The events that `handle_chip_device_event` does not only log. -/
inductive ChipDeviceEvent
  | commissioningComplete (nodeId : UInt64) (fabricIndex : UInt8)
  | other
  deriving DecidableEq, Repr

/-- `handle_chip_device_event` -/
def handleChipDeviceEvent : ChipDeviceEvent → Handler Unit
  | .commissioningComplete nodeId fabricIndex =>
      call (broadcastInfoMatterCommissioningCompleteMessage nodeId fabricIndex)
  | .other => return

/-- `subscribe_done_callback` -/
def subscribeDoneCallback (remoteNodeId : UInt64) (subscriptionId : UInt32) : Handler Unit :=
  call (broadcastInfoMatterSubscribeDoneMessage remoteNodeId subscriptionId)

/-! ## Attribute reports -/

/-- `TLVType`, with the types of scalars that have a case of their own or should have. -/
inductive TlvType
  | signedInteger
  | unsignedInteger
  | boolean
  | floatingPointNumber
  | utf8String
  | other
  deriving DecidableEq, Repr

/-- What `TLVReader` answers about an element. -/
structure TlvReader (E : Type) where
  /-- `EnterContainer`, with the elements over which `Next` then goes. -/
  enterContainer : E → Option (List E)
  getType : E → TlvType
  /-- `Get` of a `uint64_t` -/
  getUint64 : E → Option UInt64
  /-- `Get` of an `int64_t` -/
  getInt64 : E → Option Int64
  /-- `Get` of a `double`, as `%f` prints it -/
  getDouble : E → Option CStr
  /-- `GetString` into a buffer of this size -/
  getString : E → Nat → Option (List UInt8)

/-- `ConcreteDataAttributePath` -/
structure AttributePath where
  endpointId : UInt16
  clusterId : UInt32
  attributeId : UInt32
  deriving DecidableEq, Repr

variable {E : Type} (reader : TlvReader E)

/-- The switch over the type of an element, with what it leaves in `value_str`. -/
def extractValue (element : E) : Option CStr :=
  match reader.getType element with
  | .unsignedInteger =>
      (reader.getUint64 element).map fun val => (CStr.decimal val.toNat).take 255
  | .signedInteger => (reader.getInt64 element).map fun val => (decimalInt val.toInt).take 255
  | .floatingPointNumber => (reader.getDouble element).map fun text => text.take 255
  | .utf8String => (reader.getString element 256).map CStr.ofBytes
  | .boolean | .other => none

/-- The value of an element, or of the first one in a container from which a value can be
extracted. -/
def reportedValue (data : E) : Option CStr :=
  match reader.enterContainer data with
  | some elements => elements.findSome? (extractValue reader)
  | none => extractValue reader data

/-- The report about this path. -/
def AttributePath.report (path : AttributePath) (nodeId : UInt64) (value : CStr) :
    AttributeReport where
  nodeId := nodeId
  endpointId := path.endpointId
  clusterId := path.clusterId
  attributeId := path.attributeId
  value := value

/-- `attribute_data_report_callback` -/
def attributeDataReportCallback (remoteNodeId : UInt64) (path : AttributePath) (data : E) :
    Handler Unit :=
  match reportedValue reader data with
  | none => return
  | some value =>
      call (broadcastInfoMatterAttributeReportMessage (path.report remoteNodeId value))

/-! ## Scalars -/

/-- A scalar that an attribute may have. -/
inductive Datum
  | boolean (val : Bool)
  | unsignedInteger (val : UInt64)
  | signedInteger (val : Int64)
  | utf8String (text : {bytes : List UInt8 // bytes.length < 256})
  deriving DecidableEq

namespace Datum

def type : Datum → TlvType
  | boolean _ => .boolean
  | unsignedInteger _ => .unsignedInteger
  | signedInteger _ => .signedInteger
  | utf8String _ => .utf8String

/-- The text of a datum, where the callback has a case for it. -/
def text : Datum → Option CStr
  | boolean _ => none
  | unsignedInteger val => some (CStr.decimal val.toNat)
  | signedInteger val => some (decimalInt val.toInt)
  | utf8String text => some (CStr.ofBytes text.val)

/-- The number that the datum stands for. -/
def integer : Datum → Option Int
  | unsignedInteger val => some val.toNat
  | signedInteger val => some val.toInt
  | boolean _ | utf8String _ => none

end Datum

/-- The element is not a container, has the type of the datum, and the call that matches it
succeeds. -/
structure Holds (element : E) (datum : Datum) : Prop where
  notContainer : reader.enterContainer element = none
  type : reader.getType element = datum.type
  unsigned : ∀ val, datum = .unsignedInteger val → reader.getUint64 element = some val
  signed : ∀ val, datum = .signedInteger val → reader.getInt64 element = some val
  string : ∀ text, datum = .utf8String text → reader.getString element 256 = some text.val

/-- A reader of single scalars and of containers of scalars. -/
def datumReader : TlvReader (Datum ⊕ List Datum) where
  enterContainer
    | .inl _ => none
    | .inr elements => some (elements.map .inl)
  getType
    | .inl datum => datum.type
    | .inr _ => .other
  getUint64
    | .inl (.unsignedInteger val) => some val
    | _ => none
  getInt64
    | .inl (.signedInteger val) => some val
    | _ => none
  getDouble _ := none
  getString
    | .inl (.utf8String text), size => if size < text.val.length + 1 then none else some text.val
    | _, _ => none

theorem holds_datumReader (datum : Datum) : Holds datumReader (.inl datum) datum where
  notContainer := rfl
  type := rfl
  unsigned := by
    rintro val rfl
    rfl
  signed := by
    rintro val rfl
    rfl
  string := by
    rintro text rfl
    exact if_neg (Nat.not_lt.mpr text.property)

variable {reader} {element data : E} {datum : Datum}

/-- A 64-bit number fits into the buffer. -/
theorem take_decimal {n : Nat} (h : n < 2 ^ 64) : (CStr.decimal n).take 255 = CStr.decimal n :=
  CStr.take_eq_self (CStr.length_decimal_le (by decide) (Nat.lt_trans h (by norm_num)))

theorem take_decimalInt {v : Int} (h : v.natAbs < 2 ^ 64) :
    (decimalInt v).take 255 = decimalInt v := by
  have hdigits : (CStr.decimal v.natAbs).length ≤ 20 :=
    CStr.length_decimal_le (by decide) (Nat.lt_trans h (by norm_num))
  apply CStr.take_eq_self
  unfold decimalInt
  split
  · have hlength : (CStr.lit "-" ++ CStr.decimal v.natAbs).length =
        1 + (CStr.decimal v.natAbs).length := by
      unfold CStr.length
      rw [CStr.bytes_append, List.length_append]
      rfl
    omega
  · omega

theorem extractValue_of_holds (h : Holds reader element datum) :
    extractValue reader element = datum.text := by
  unfold extractValue
  rw [h.type]
  cases datum with
  | boolean val => rfl
  | unsignedInteger val =>
      dsimp only [Datum.type]
      rw [h.unsigned val rfl, Option.map_some, take_decimal val.toNat_lt]
      rfl
  | signedInteger val =>
      have hbound : val.toInt.natAbs < 2 ^ 64 := by
        have hlow := val.le_toInt
        have hhigh := val.toInt_lt
        omega
      dsimp only [Datum.type]
      rw [h.signed val rfl, Option.map_some, take_decimalInt hbound]
      rfl
  | utf8String text =>
      dsimp only [Datum.type]
      rw [h.string text rfl]
      rfl

theorem reportedValue_of_holds (h : Holds reader data datum) :
    reportedValue reader data = datum.text := by
  rw [reportedValue, h.notContainer]
  exact extractValue_of_holds h

/-- Elements without a value are passed over. -/
theorem reportedValue_of_container {front back : List E}
    (henter : reader.enterContainer data = some (front ++ element :: back))
    (hfront : ∀ e ∈ front, extractValue reader e = none) (h : Holds reader element datum)
    {value : CStr} (hvalue : datum.text = some value) :
    reportedValue reader data = some value := by
  have hnone : front.findSome? (extractValue reader) = none :=
    List.findSome?_eq_none_iff.mpr hfront
  rw [reportedValue, henter]
  dsimp only
  rw [List.findSome?_append, hnone, Option.none_or, List.findSome?_cons,
    extractValue_of_holds h, hvalue]

theorem text_of_integer {v : Int} (h : datum.integer = some v) :
    datum.text = some (decimalInt v) := by
  cases datum with
  | boolean val => cases h
  | utf8String text => cases h
  | unsignedInteger val =>
      obtain rfl := Option.some.inj h
      have hpositive : ¬(val.toNat : Int) < 0 := by omega
      unfold Datum.text decimalInt
      rw [if_neg hpositive, Int.natAbs_natCast]
  | signedInteger val =>
      obtain rfl := Option.some.inj h
      rfl

end Orchestrator.Events

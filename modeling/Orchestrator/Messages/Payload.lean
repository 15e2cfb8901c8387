import Orchestrator.Lib.Calls
import Orchestrator.Messages.Dispatch

/-!
# The cJSON calls of a payload

Six functions build the payloads of all commands. For each of them this module
lists the calls it makes, and which of their results it looks at.
-/

namespace Orchestrator

open Lib Alloc

variable {whole item : Prop} {members full : List (CStr × Json)} {out : Json}

/-! ## Sizes -/

theorem sizeOf_append {α : Type} [SizeOf α] (front back : List α) :
    sizeOf (front ++ back) + 1 = sizeOf front + sizeOf back := by
  induction front with
  | nil =>
      simp
      omega
  | cons a front ih =>
      simp only [List.cons_append, List.cons.sizeOf_spec]
      omega

theorem Json.sizeOf_add_le (object : Json) (name : CStr) (item : Json) :
    sizeOf (object.add name item) ≤ sizeOf object + 1 + sizeOf (name, item) := by
  cases object with
  | object members =>
      have happend := sizeOf_append members [(name, item)]
      simp only [Json.add, Json.object.sizeOf_spec, List.cons.sizeOf_spec,
        List.nil.sizeOf_spec] at happend ⊢
      omega
  | null | bool _ | number _ | string _ | array _ => simp [Json.add]; omega

theorem Json.sizeOf_object_append (members : List (CStr × Json)) (name : CStr) (item : Json) :
    sizeOf (Json.object (members ++ [(name, item)])) =
      sizeOf (Json.object members) + 1 + sizeOf (name, item) := by
  have happend := sizeOf_append members [(name, item)]
  simp only [Json.object.sizeOf_spec, List.cons.sizeOf_spec, List.nil.sizeOf_spec] at happend ⊢
  omega

/-- An item that may not be whole is the last member of an object that may not be whole. -/
theorem fits_add {name : CStr} {a b : Json} (hout : Fits whole out (.object full))
    (hitem : Fits item a b) :
    Fits (whole ∧ item) (out.add name a) (.object (full ++ [(name, b)])) := by
  constructor
  · intro h
    rw [hout.eq h.1, hitem.eq h.2]
    rfl
  · intro h
    have hadd := Json.sizeOf_add_le out name a
    rw [Json.sizeOf_object_append]
    simp only [Prod.mk.sizeOf_spec] at hadd ⊢
    have hle := hout.le
    have hle' := hitem.le
    by_cases hwhole : whole
    · have hlt := hitem.lt fun hi => h ⟨hwhole, hi⟩
      omega
    · have hlt := hout.lt hwhole
      omega

theorem fits_leave {name : CStr} {b : Json} (hout : Fits whole out (.object full)) :
    Fits False out (.object (full ++ [(name, b)])) := by
  constructor
  · exact False.elim
  · intro _
    have hle := hout.le
    rw [Json.sizeOf_object_append]
    omega

/-! ## Objects -/

theorem cJSONCreateObject_makes : Makes True cJSONCreateObject [.checked] (Json.object []) :=
  Makes.checked next_eq rfl (Makes.pure (Fits.refl _))

theorem addField_gives {name : CStr} {item : Json} (hout : Fits whole out (.object full)) :
    Gives whole (Prod.snd <$> addField out name item) [.unchecked]
      (Json.object (full ++ [(name, item)])) := by
  have hrun : Prod.snd <$> addField out name item = next >>= fun ok =>
      (pure (if ok then out.add name item else out) : Alloc Json) := by
    unfold addField
    rw [map_bind]
    congr 1
    funext ok
    cases ok <;> rfl
  rw [hrun]
  refine Gives.unchecked next_eq fun ok => Gives.pure ?_
  cases ok with
  | true => exact (fits_add hout (Fits.refl item)).iff (by simp)
  | false => exact (fits_leave hout).iff (by simp)

theorem addFields_gives (fields : List (CStr × Json)) (hout : Fits whole out (.object full)) :
    Gives whole (addFields out fields) (fields.map fun _ => .unchecked)
      (Json.object (full ++ fields)) := by
  induction fields generalizing out full whole with
  | nil =>
      rw [List.append_nil]
      exact Gives.pure hout
  | cons field fields ih =>
      obtain ⟨name, item⟩ := field
      have hrun : addFields out ((name, item) :: fields) =
          Prod.snd <$> addField out name item >>= fun out => addFields out fields := by
        rw [addFields, bind_map_left]
      have hfull : full ++ (name, item) :: fields = (full ++ [(name, item)]) ++ fields := by simp
      rw [hrun, hfull]
      exact (addField_gives hout).bind fun out p hout => ih hout

theorem addObjectToObject_gives {name : CStr} (fields : List (CStr × Json))
    (hout : Fits whole out (.object full)) :
    Gives whole (addObjectToObject out name fields) (.unchecked :: fields.map fun _ => .unchecked)
      (Json.object (full ++ [(name, .object fields)])) := by
  refine Gives.unchecked next_eq fun ok => ?_
  have hchild := addFields_gives fields (Fits.refl (Json.object []))
  rw [← List.append_nil (List.map _ fields)]
  refine (hchild.bindWith fun child p hfits => Gives.pure ?_).iff (and_iff_left trivial)
  cases ok with
  | true => exact (fits_add hout hfits).iff (by simp)
  | false => exact (fits_leave hout).iff (by simp)

theorem createObject_makes (fields : List (CStr × Json)) :
    Makes True (createObject fields) (.checked :: fields.map fun _ => .unchecked)
      (Json.object fields) := by
  refine cJSONCreateObject_makes.bind rfl fun out p hout => ?_
  have hmade := Makes.of_gives (addFields_gives fields hout)
  rw [map_eq_pure_bind] at hmade
  exact hmade

/-! ## Arrays -/

/-- An array is as large as its items. -/
theorem fits_array {items all : List Json} (h : Fits whole items all) :
    Fits whole (Json.array items) (.array all) :=
  h.map (f := Json.array) fun hlt => by
    simp only [Json.array.sizeOf_spec]
    omega

theorem fits_cons {head first : Json} {rest items : List Json} (hhead : Fits whole head first)
    (hrest : Fits item rest items) : Fits (whole ∧ item) (head :: rest) (first :: items) :=
  hhead.map₂ (f := List.cons) hrest fun hlt => by
    simp only [List.cons.sizeOf_spec]
    omega

end Orchestrator

namespace Orchestrator.Registry

open Lib Alloc

theorem itemsToJson_makes {α : Type} {itemToJson : α → Alloc (Option Json)}
    {calls : α → List Call} {tree : α → Json}
    (h : ∀ a, Makes True (itemToJson a) (calls a) (tree a)) (elements : List α) :
    Makes True (itemsToJson itemToJson elements) (elements.flatMap calls) (elements.map tree) := by
  induction elements with
  | nil => exact Makes.pure (Fits.refl _)
  | cons a rest ih =>
      rw [List.flatMap_cons, List.map_cons]
      refine (h a).bind ?_ fun item p hitem => ?_
      · rfl
      rw [← List.append_nil (rest.flatMap calls)]
      refine (ih.bindWith ?_ fun items q hitems => ?_).iff (and_iff_left trivial)
      · rfl
      exact Makes.pure (fits_cons hitem hitems)

theorem addArrayToObject_makes {α : Type} {itemToJson : α → Alloc (Option Json)}
    {calls : α → List Call} {tree : α → Json}
    (h : ∀ a, Makes True (itemToJson a) (calls a) (tree a)) {whole : Prop} {out : Json}
    {full : List (CStr × Json)} (hout : Fits whole out (.object full)) (name : CStr)
    (elements : List α) :
    Makes whole (addArrayToObject out name itemToJson elements)
      (.checked :: elements.flatMap calls)
      (.object (full ++ [(name, .array (elements.map tree))])) := by
  refine Makes.checked next_eq rfl ?_
  rw [← List.append_nil (elements.flatMap calls)]
  refine ((itemsToJson_makes h elements).bindWith ?_ fun items p hitems => ?_).iff
    (and_iff_left trivial)
  · rfl
  exact Makes.pure (fits_add hout (fits_array hitems))

namespace DeviceCapability

def calls (showUnset : Bool) (c : DeviceCapability) : List Call :=
  .checked :: (c.fields showUnset).map fun _ => .unchecked

end DeviceCapability

namespace DeviceRecord

def calls (showUnset : Bool) (r : DeviceRecord) : List Call :=
  (.checked :: r.fields.map fun _ => .unchecked) ++
    .checked :: r.capabilityList.flatMap (DeviceCapability.calls showUnset)

end DeviceRecord

theorem recordToJson_makes (showUnset : Bool) (r : DeviceRecord) :
    Makes True (recordToJson showUnset r) (r.calls showUnset) (r.toJson showUnset) := by
  unfold recordToJson DeviceRecord.calls DeviceRecord.toJson
  refine (createObject_makes r.fields).bind ?_ fun item p hitem => ?_
  · rfl
  have hcapability : ∀ c : DeviceCapability,
      Makes True (capabilityToJson showUnset c) (c.calls showUnset) (c.toJson showUnset) :=
    fun c => createObject_makes (c.fields showUnset)
  exact addArrayToObject_makes hcapability hitem _ r.capabilityList

end Orchestrator.Registry

namespace Orchestrator.Messages

open Lib Alloc Registry State

/-- What a payload is built from. -/
inductive Payload
  | object (fields : List (CStr × Json))
  | addresses (name : CStr) (addresses : List CStr)
  | state (s : OrchestratorState)
  | devices (devices : List DeviceRecord)
  | device (r : DeviceRecord)
  | accepted (deviceId : CStr)

namespace Payload

def build : Payload → Alloc (Option Json)
  | .object fields => createObject fields
  | .addresses name strings => addressPayload name strings
  | .state s => snapshotToJson s
  | .devices records => devicesToJson records
  | .device r => recordToJson true r
  | .accepted deviceId => acceptedDeviceObject deviceId

/-- The payload when no call fails. -/
def tree : Payload → Json
  | .object fields => .object fields
  | .addresses name strings => .object [(name, .array (strings.map Json.string))]
  | .state s => s.toJson
  | .devices records => devicesTree records
  | .device r => r.toJson true
  | .accepted deviceId => .object
      [(CStr.lit "device_id", .string deviceId), (CStr.lit "accepted", .bool true),
       (CStr.lit "result_delivery", .string (CStr.lit "matter.attribute_report"))]

/-- The calls of a nested object and its members, none of which is checked. -/
def objectCalls (fields : List (CStr × Json)) : List Call :=
  .unchecked :: fields.map fun _ => .unchecked

/-- The calls that are made as long as no checked one fails. -/
def calls : Payload → List Call
  | .object fields => .checked :: fields.map fun _ => .unchecked
  | .addresses _ strings => .checked :: .checked :: strings.map fun _ => .unchecked
  | .state s => .checked :: (objectCalls s.wifi.fields ++ (objectCalls s.thread.fields ++
      (objectCalls s.matter.fields ++ objectCalls s.websocket.fields)))
  | .devices records => .checked :: .checked :: records.flatMap (DeviceRecord.calls false)
  | .device r => r.calls true
  | .accepted _ => [.checked, .checked, .checked, .checked]

end Payload

theorem stringItems_gives (strings : List CStr) :
    Gives True (stringItems strings) (strings.map fun _ => .unchecked)
      (strings.map Json.string) := by
  induction strings with
  | nil => exact Gives.pure (Fits.refl _)
  | cons s strings ih =>
      refine Gives.unchecked next_eq fun ok => ?_
      rw [← List.append_nil (strings.map _)]
      refine (ih.bindWith fun items p hitems => Gives.pure ?_).iff (and_iff_left trivial)
      cases ok with
      | true => exact (fits_cons (Fits.refl _) hitems).iff (by simp)
      | false =>
          constructor
          · simp
          · intro _
            have hle := hitems.le
            simp only [List.map_cons, List.cons.sizeOf_spec, Bool.false_eq_true, if_false]
            omega

theorem addressPayload_makes (name : CStr) (addresses : List CStr) :
    Makes True (addressPayload name addresses) (Payload.addresses name addresses).calls
      (Payload.addresses name addresses).tree := by
  unfold addressPayload Payload.calls Payload.tree
  refine Makes.bind cJSONCreateObject_makes ?_ fun out p hout => ?_
  · rfl
  refine Makes.checked next_eq ?_ ?_
  · rfl
  rw [← List.append_nil (addresses.map fun _ => Call.unchecked)]
  refine (Makes.bindGivesWith (stringItems_gives addresses) fun items q hitems => ?_).iff
    (and_iff_left trivial)
  exact Makes.pure (fits_add hout (fits_array hitems))

theorem snapshotToJson_makes (s : OrchestratorState) :
    Makes True (snapshotToJson s) (Payload.state s).calls s.toJson := by
  unfold snapshotToJson Payload.calls
  refine Makes.bind cJSONCreateObject_makes ?_ fun root p hroot => ?_
  · rfl
  rw [← List.append_nil (Payload.objectCalls s.websocket.fields)]
  refine Makes.bindGives (addObjectToObject_gives s.wifi.fields hroot) fun root p hroot => ?_
  refine Makes.bindGives (addObjectToObject_gives s.thread.fields hroot) fun root p hroot => ?_
  refine Makes.bindGives (addObjectToObject_gives s.matter.fields hroot) fun root p hroot => ?_
  refine Makes.bindGives (addObjectToObject_gives s.websocket.fields hroot) fun root p hroot => ?_
  exact Makes.pure hroot

theorem devicesToJson_makes (devices : List DeviceRecord) :
    Makes True (devicesToJson devices) (Payload.devices devices).calls (devicesTree devices) := by
  unfold devicesToJson Payload.calls devicesTree
  refine Makes.bind cJSONCreateObject_makes ?_ fun payload p hpayload => ?_
  · rfl
  exact addArrayToObject_makes (recordToJson_makes false) hpayload _ devices

/-- Additions that are all checked. -/
theorem addFieldsOrFail_makes {whole : Prop} {out : Json} {full : List (CStr × Json)}
    (fields : List (CStr × Json)) (hout : Fits whole out (.object full)) :
    Makes whole (addFieldsOrFail out fields) (fields.map fun _ => .checked)
      (.object (full ++ fields)) := by
  induction fields generalizing out full whole with
  | nil =>
      rw [List.append_nil]
      exact Makes.pure hout
  | cons field fields ih =>
      obtain ⟨name, item⟩ := field
      have hfull : full ++ (name, item) :: fields = (full ++ [(name, item)]) ++ fields := by simp
      have hrun : addFieldsOrFail out ((name, item) :: fields) = next >>= fun ok =>
          if ok then addFieldsOrFail (out.add name item) fields else pure none := by
        rw [addFieldsOrFail, addField, bind_assoc]
        congr 1
        funext ok
        cases ok <;> rfl
      rw [hrun, hfull]
      refine Makes.checked next_eq ?_ (ih ?_)
      · rfl
      · exact (fits_add hout (Fits.refl item)).iff (and_iff_left trivial)

theorem acceptedDeviceObject_makes (deviceId : CStr) :
    Makes True (acceptedDeviceObject deviceId) (Payload.accepted deviceId).calls
      (Payload.accepted deviceId).tree := by
  unfold acceptedDeviceObject
  refine Makes.bind cJSONCreateObject_makes ?_ fun out p hout => ?_
  · rfl
  exact addFieldsOrFail_makes _ hout

theorem Payload.build_makes (payload : Payload) :
    Makes True payload.build payload.calls payload.tree := by
  cases payload with
  | object fields => exact createObject_makes fields
  | addresses name strings => exact addressPayload_makes name strings
  | state s => exact snapshotToJson_makes s
  | devices records => exact devicesToJson_makes records
  | device r => exact recordToJson_makes true r
  | accepted deviceId => exact acceptedDeviceObject_makes deviceId

end Orchestrator.Messages

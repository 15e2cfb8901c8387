import Orchestrator.Lib.Significand
import Orchestrator.Messages.Decimal
import Orchestrator.Messages.Dispatch

/-!
# The builder of outbound messages

`outbound_message_builder.cpp`. Its functions build a payload and broadcast it under the
name of an action or an event.
-/

namespace Orchestrator.Messages

open Lib Handler Registry State Commands Alloc Server

/-! ## Messages -/

/-- The member that carries the action, which depends on the type. -/
def actionField (type action : CStr) : List (CStr × Json) :=
  if type = CStr.lit "info" then [(CStr.lit "action", .string action)]
  else if type = CStr.lit "event" then [(CStr.lit "event", .string action)]
  else []

/-- `build_json_message`; no caller passes a null pointer. -/
def buildJsonMessage (type action : CStr) (payload : Json) : Alloc (Option Json) := do
  match ← cJSONCreateObject with
  | none => return none
  | some root =>
      let root ← addFields root ([(CStr.lit "type", .string type)] ++ actionField type action ++
        [(CStr.lit "payload", payload)])
      cJSONPrintUnformatted root

/-- `broadcast_message` -/
def broadcastMessage (type action : String) (payload : Json) : Esp Unit := do
  if (← getBoard).running = false then return
  else
    let text : Handler (Option Json) :=
      allocate (buildJsonMessage (CStr.lit type) (CStr.lit action) payload)
    match ← text with
    | none => throw EspErr.espFail
    | some json => websocketBroadcastMessage json

/-- The shape of the functions below. -/
def broadcastPayload (type action : String) (payload : Alloc (Option Json)) : Esp Unit := do
  match ← (allocate payload : Handler (Option Json)) with
  | none => throw EspErr.espFail
  | some payload => broadcastMessage type action payload

def broadcastInfo (action : String) (fields : List (CStr × Json)) : Esp Unit :=
  broadcastPayload "info" action (createObject fields)

/-! ## Thread -/

/-- `broadcast_info_thread_stack_status_message` -/
def broadcastInfoThreadStackStatusMessage (isRunning : Bool) : Esp Unit :=
  broadcastInfo "thread.stack_status" [(CStr.lit "running", .bool isRunning)]

/-- `broadcast_info_thread_interface_status_message` -/
def broadcastInfoThreadInterfaceStatusMessage (isUp : Bool) : Esp Unit :=
  broadcastInfo "thread.interface_status" [(CStr.lit "interface_up", .bool isUp)]

/-- `broadcast_info_thread_attachment_status_message` -/
def broadcastInfoThreadAttachmentStatusMessage (isAttached : Bool) : Esp Unit :=
  broadcastInfo "thread.attachment_status" [(CStr.lit "attached", .bool isAttached)]

/-- `broadcast_info_thread_role_message` -/
def broadcastInfoThreadRoleMessage (role : CStr) : Esp Unit :=
  broadcastInfo "thread.role" [(CStr.lit "role", .string role)]

/-- A payload with one array, which is created before it is filled and attached. -/
def addressesPayload (name : CStr) (addresses : List CStr) : Alloc (Option Json) := do
  match ← cJSONCreateObject with
  | none => return none
  | some payload =>
      if ← next then
        let items ← stringItems addresses
        return some (← addFields payload [(name, .array items)])
      else return none

/-- `broadcast_info_unicast_addresses_message` -/
def broadcastInfoUnicastAddressesMessage (addresses : List CStr) : Esp Unit :=
  broadcastPayload "info" "ipv6.unicast_addresses"
    (addressesPayload (CStr.lit "unicast") addresses)

/-- `broadcast_info_multicast_addresses_message` -/
def broadcastInfoMulticastAddressesMessage (addresses : List CStr) : Esp Unit :=
  broadcastPayload "info" "ipv6.multicast_addresses"
    (addressesPayload (CStr.lit "multicast") addresses)

/-- `broadcast_info_meshcop_service_status_message` -/
def broadcastInfoMeshcopServiceStatusMessage (isPublished : Bool) : Esp Unit :=
  broadcastInfo "thread.meshcop_service" [(CStr.lit "published", .bool isPublished)]

def upperHexDigit (n : UInt8) : UInt8 := if n < 10 then 48 + n else 55 + n

/-- `binary_to_hex_string`, which prints each byte with `%02X`. -/
def binaryToHexString (bin : List UInt8) : CStr :=
  CStr.ofBytes (bin.flatMap fun b => [upperHexDigit (b / 16), upperHexDigit (b % 16)])

/-- A `uint64_t` where a `double` is expected. -/
def doubleOfUint64 (n : UInt64) : ℚ := roundToEven 53 n.toNat

/-- `broadcast_info_active_dataset_message` -/
def broadcastInfoActiveDatasetMessage (dataset : OperationalDataset) : Esp Unit :=
  broadcastInfo "thread.active_dataset"
    [(CStr.lit "active_timestamp", .number (doubleOfUint64 dataset.activeTimestamp)),
     (CStr.lit "network_name", .string dataset.networkName),
     (CStr.lit "extended_pan_id", .string (binaryToHexString dataset.extendedPanId.toList)),
     (CStr.lit "mesh_local_prefix", .string (binaryToHexString dataset.meshLocalPrefix.toList)),
     (CStr.lit "pan_id", .number dataset.panId.toNat),
     (CStr.lit "channel", .number dataset.channel.toNat)]

/-! ## Wi-Fi -/

/-- `broadcast_info_wifi_status_message` -/
def broadcastInfoWifiStatusMessage (status : String) : Esp Unit :=
  broadcastInfo "wifi.sta_status" [(CStr.lit "status", .string (CStr.lit status))]

/-! ## Matter -/

def commissioningCompleteFields (nodeId : UInt64) (fabricIndex : UInt8) : List (CStr × Json) :=
  [(CStr.lit "node_id", .number (doubleOfUint64 nodeId)),
   (CStr.lit "fabric_index", .number fabricIndex.toNat)]

/-- `broadcast_info_matter_commissioning_complete_message` -/
def broadcastInfoMatterCommissioningCompleteMessage (nodeId : UInt64) (fabricIndex : UInt8) :
    Esp Unit :=
  broadcastInfo "matter.commissioning_complete" (commissioningCompleteFields nodeId fabricIndex)

/-- The measured value of a sensor, before it is rounded to a `double`. -/
def measuredFields (semanticType : DeviceCapabilitySemanticType) (rawValue : Int) :
    List (CStr × Json) :=
  if semanticType = .temperature then
    [(CStr.lit "temperature_celsius", .number (rawValue / 100)),
     (CStr.lit "raw_measured_value", .number rawValue)]
  else if semanticType = .pressure then
    [(CStr.lit "pressure_kpa", .number (rawValue / 10)),
     (CStr.lit "raw_measured_value", .number rawValue)]
  else []

/-- What the capability that was found for the path adds to a report. -/
def semanticFields (value : CStr) :
    Option (DeviceRecord × DeviceCapability) → List (CStr × Json)
  | none => []
  | some (record, capability) =>
      [(CStr.lit "device_id", .string record.deviceId.toCStr),
       (CStr.lit "semantic_type", .string capability.semanticType.toString)] ++
      measuredFields capability.semanticType (atoi value)

/-- The path of an attribute, and the value it was reported with. -/
structure AttributeReport where
  nodeId : UInt64
  endpointId : UInt16
  clusterId : UInt32
  attributeId : UInt32
  value : CStr

/-- The node id is printed into a buffer of 24 bytes. -/
def AttributeReport.pathFields (report : AttributeReport) : List (CStr × Json) :=
  [(CStr.lit "node_id", .string ((CStr.decimal report.nodeId.toNat).take 23)),
   (CStr.lit "endpoint_id", .number report.endpointId.toNat),
   (CStr.lit "cluster_id", .number report.clusterId.toNat),
   (CStr.lit "attribute_id", .number report.attributeId.toNat),
   (CStr.lit "value", .string report.value)]

def AttributeReport.fields (report : AttributeReport)
    (found : Option (DeviceRecord × DeviceCapability)) : List (CStr × Json) :=
  semanticFields report.value found ++ report.pathFields

/-- `broadcast_info_matter_attribute_report_message` -/
def broadcastInfoMatterAttributeReportMessage (report : AttributeReport) : Esp Unit := do
  match ← (allocate cJSONCreateObject : Handler (Option Json)) with
  | none => throw EspErr.espFail
  | some payload =>
      let found ← tryCatch (do
        return some (← deviceRegistryFindCapabilityByPath report.nodeId report.endpointId
          report.clusterId report.attributeId)) fun _ => return none
      let built : Handler Json := allocate (addFields payload (report.fields found))
      broadcastMessage "event" "matter.attribute_report" (← built)

def subscribeDoneFields (nodeId : UInt64) (subscriptionId : UInt32) : List (CStr × Json) :=
  [(CStr.lit "node_id", .number (doubleOfUint64 nodeId)),
   (CStr.lit "subscription_id", .number subscriptionId.toNat)]

/-- `broadcast_info_matter_subscribe_done_message` -/
def broadcastInfoMatterSubscribeDoneMessage (nodeId : UInt64) (subscriptionId : UInt32) :
    Esp Unit :=
  broadcastInfo "matter.subscribe_done" (subscribeDoneFields nodeId subscriptionId)

/-! ## The members of a report -/

/-- A member behind others with different names. -/
theorem getObjectItemCaseSensitive_append {front back : List (CStr × Json)} {name : CStr}
    (h : ∀ m ∈ front, m.1 ≠ name) :
    (Json.object (front ++ back)).getObjectItemCaseSensitive name =
      (Json.object back).getObjectItemCaseSensitive name := by
  have hnone : front.find? (fun m => decide (m.1 = name)) = none :=
    List.find?_eq_none.mpr fun m hm => by simpa using h m hm
  simp only [Json.getObjectItemCaseSensitive, List.find?_append, hnone, Option.none_or]

/-- The names of the members that a report has about its capability. -/
def semanticNames : List CStr :=
  [CStr.lit "device_id", CStr.lit "semantic_type", CStr.lit "temperature_celsius",
   CStr.lit "raw_measured_value", CStr.lit "pressure_kpa"]

theorem names_measuredFields (semanticType : DeviceCapabilitySemanticType) (rawValue : Int) :
    ∀ m ∈ measuredFields semanticType rawValue, m.1 ∈ semanticNames := by
  intro m hm
  unfold measuredFields at hm
  split at hm
  · simp only [List.mem_cons, List.not_mem_nil, or_false] at hm
    rcases hm with rfl | rfl <;> dsimp only <;> decide
  · split at hm
    · simp only [List.mem_cons, List.not_mem_nil, or_false] at hm
      rcases hm with rfl | rfl <;> dsimp only <;> decide
    · cases hm

theorem names_semanticFields (value : CStr) (found : Option (DeviceRecord × DeviceCapability)) :
    ∀ m ∈ semanticFields value found, m.1 ∈ semanticNames := by
  intro m hm
  cases found with
  | none => cases hm
  | some found =>
      rcases List.mem_append.mp hm with hm | hm
      · simp only [List.mem_cons, List.not_mem_nil, or_false] at hm
        rcases hm with rfl | rfl <;> dsimp only <;> decide
      · exact names_measuredFields _ _ m hm

/-- The members about the path are those that a report has in any case. -/
theorem getObjectItem_fields {name : CStr} (h : name ∉ semanticNames) (report : AttributeReport)
    (found : Option (DeviceRecord × DeviceCapability)) :
    (Json.object (report.fields found)).getObjectItemCaseSensitive name =
      (Json.object report.pathFields).getObjectItemCaseSensitive name :=
  getObjectItemCaseSensitive_append fun m hm heq =>
    h (heq ▸ names_semanticFields report.value found m hm)

/-! ## What a broadcast keeps -/

theorem createObject_always (fields : List (CStr × Json)) :
    (createObject fields).Always fun _ => True := by
  have hbuilt := createObject_built (P := fun _ => True)
    (FieldStrings.of_forall (fun _ => trivial) fields)
  exact fun A hA => (hbuilt A hA).weaken fun _ _ => trivial

theorem buildJsonMessage_always (type action : CStr) (payload : Json) :
    (buildJsonMessage type action payload).Always fun _ => True := by
  intro A hA
  apply Keeps.bind (cJSONCreateObject_built (P := fun _ => True) A hA)
  rintro (- | root) hroot
  · exact Keeps.pure trivial
  · apply Keeps.bind (addFields_built (hroot root rfl)
      (FieldStrings.of_forall (fun _ => trivial) _) A hA)
    rintro root -
    exact (cJSONPrintUnformatted_always (Q := fun _ => True) trivial A hA).weaken
      fun _ _ => trivial

section Keeps

variable {I : World → Prop} (hI : Unforeseen I)
  (hqueue : ∀ (message : Json) fd w, I w → I { w with board := queueWork fd message w.board })

include hI hqueue

theorem broadcastMessage_keeps (type action : String) (payload : Json) :
    Esp.Keeps I (broadcastMessage type action payload) fun _ => True := by
  apply Esp.Keeps.bind (Esp.Keeps.lift (getBoard_keeps (Q := fun _ => True) fun _ _ => trivial))
  rintro board -
  split
  · exact Esp.Keeps.pure trivial
  · apply Esp.Keeps.bind (Esp.Keeps.lift (hI.allocate (buildJsonMessage_always _ _ _)))
    rintro (- | json) -
    · exact Esp.Keeps.throw
    · exact websocketBroadcastMessage_keeps hI (hqueue json)

theorem broadcastPayload_keeps (type action : String) {payload : Alloc (Option Json)}
    (hpayload : payload.Always fun _ => True) :
    Esp.Keeps I (broadcastPayload type action payload) fun _ => True := by
  apply Esp.Keeps.bind (Esp.Keeps.lift (hI.allocate hpayload))
  rintro (- | payload) -
  · exact Esp.Keeps.throw
  · exact broadcastMessage_keeps hI hqueue type action payload

theorem broadcastInfo_keeps (action : String) (fields : List (CStr × Json)) :
    Esp.Keeps I (broadcastInfo action fields) fun _ => True :=
  broadcastPayload_keeps hI hqueue "info" action (createObject_always fields)

end Keeps

/-! ## What a broadcast delivers -/

/-- The server is running, and no allocation and no call of the HTTP server will fail. -/
structure Delivers (w : World) : Prop extends SendsSucceed w where
  allocs : w.allocs = allSucceed

theorem delivers_unforeseen : UnforeseenNvs Delivers where
  allocs _ h :=
    { h with allocs := (congrArg Stream'.tail h.allocs).trans (Stream'.tail_const true) }
  heap _ h := { sendsSucceed_unforeseen.heap _ h.toSendsSucceed with allocs := h.allocs }
  httpd _ h := { sendsSucceed_unforeseen.httpd _ h.toSendsSucceed with allocs := h.allocs }
  stack _ h := { h with }
  nvs _ _ h := { h with }

/-- The message when no allocation fails. -/
def messageTree (type action : String) (payload : Json) : Json :=
  .object ([(CStr.lit "type", .string (CStr.lit type))] ++
    actionField (CStr.lit type) (CStr.lit action) ++ [(CStr.lit "payload", payload)])

theorem buildJsonMessage_yields (type action : String) (payload : Json) :
    (buildJsonMessage (CStr.lit type) (CStr.lit action) payload).Yields
      (some (messageTree type action payload)) := by
  apply Keeps.bind cJSONCreateObject_yields
  rintro _ rfl
  apply Keeps.bind (addFields_yields [] _)
  rintro _ rfl
  exact cJSONPrintUnformatted_yields _

/-- The board with the message queued for every client. -/
def queueForAll (message : Json) (b : Board) : Board :=
  queueEach (websocketClients b.sessions) message b

variable {w : World}

theorem broadcastMessage_delivers (h : Delivers w) (type action : String) (payload : Json) :
    (broadcastMessage type action payload).run w =
      (.ok ⟨⟩, { w with
        board := queueForAll (messageTree type action payload) w.board }) := by
  unfold broadcastMessage
  rw [Esp.run_liftM_bind (m := getBoard) (w := w) rfl]
  simp only [h.running, Bool.true_eq_false, if_false]
  rw [Esp.run_liftM_bind (allocate_eq h.allocs (buildJsonMessage_yields type action payload))]
  exact websocketBroadcastMessage_succeeds h.toSendsSucceed _

theorem broadcastPayload_delivers (h : Delivers w) (type action : String)
    {payload : Alloc (Option Json)} {tree : Json} (hpayload : payload.Yields (some tree)) :
    (broadcastPayload type action payload).run w =
      (.ok ⟨⟩, { w with
        board := queueForAll (messageTree type action tree) w.board }) := by
  unfold broadcastPayload
  rw [Esp.run_liftM_bind (allocate_eq h.allocs hpayload)]
  exact broadcastMessage_delivers h type action tree

theorem broadcastInfo_delivers (h : Delivers w) (action : String)
    (fields : List (CStr × Json)) :
    (broadcastInfo action fields).run w =
      (.ok ⟨⟩, { w with
        board := queueForAll (messageTree "info" action (.object fields)) w.board }) :=
  broadcastPayload_delivers h "info" action (createObject_yields fields)

end Orchestrator.Messages

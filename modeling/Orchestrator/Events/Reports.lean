import Orchestrator.Events.Chip
import Orchestrator.Messages.NodeIds
import Orchestrator.Registry.Directory
import Orchestrator.Registry.Update

/-!
# What an attribute report tells the clients

A report about a path that some capability has names the device and the type of that
capability, and gives the measured value of a sensor in its unit.
-/

namespace Orchestrator.Events

open Lib Handler Registry Server State Messages Alloc

variable {E : Type} {reader : TlvReader E} {w : World} {s : RegistryStore}

/-! ## The capability of a path -/

/-- The capabilities with their records, record by record. -/
def capabilities (s : RegistryStore) : List (DeviceRecord × DeviceCapability) :=
  (s.records.toList.take s.count.toNat).flatMap fun r => (capabilitiesOf r).map fun c => (r, c)

/-- The capability has exactly this node and this path. -/
def isAt (nodeId : UInt64) (path : AttributePath) (m : DeviceRecord × DeviceCapability) : Bool :=
  m.1.nodeId = nodeId ∧ m.2.endpointId = path.endpointId ∧
    m.2.clusterId = path.clusterId ∧ m.2.attributeId = path.attributeId

/-- The first capability at a path of a node. -/
def firstAt (nodeId : UInt64) (path : AttributePath) (s : RegistryStore) :
    Option (DeviceRecord × DeviceCapability) :=
  (capabilities s).find? (isAt nodeId path)

/-- The two nested loops find it. -/
theorem findSome?_eq_firstAt (nodeId : UInt64) (path : AttributePath) (s : RegistryStore) :
    (s.devices.findSome? fun r =>
      if r.nodeId ≠ nodeId then none
      else (r.atPath path.endpointId path.clusterId path.attributeId).map fun c => (r, c)) =
        firstAt nodeId path s := by
  unfold firstAt capabilities
  rw [List.find?_flatMap]
  show s.devices.findSome? _ = s.devices.findSome? _
  congr 1
  funext r
  rw [List.find?_map]
  unfold DeviceRecord.atPath
  show _ = (r.capabilityList.find? _).map _
  split
  · next hne =>
    have hnone : r.capabilityList.find? (isAt nodeId path ∘ fun c => (r, c)) = none :=
      List.find?_eq_none.mpr fun c _ => by simp [isAt, hne]
    rw [hnone]
    rfl
  · next heq =>
    rw [not_not] at heq
    congr 2
    funext c
    simp [isAt, heq]

/-! ## The look-up -/

/-- The look-up of the builder, for which every error is the same. -/
def lookUp (report : AttributeReport) : Esp (Option (DeviceRecord × DeviceCapability)) :=
  tryCatch (do
    return some (← deviceRegistryFindCapabilityByPath report.nodeId report.endpointId
      report.clusterId report.attributeId)) fun _ => return none

/-- A look-up whose calls succeed finds the first capability. -/
theorem lookUp_run (nodeId : UInt64) (path : AttributePath) (value : CStr)
    (hheap : w.heap.head = true) (hpasses : ∀ k < loadCalls w, w.nvsPasses k)
    (hread : w.board.registry.read = .ok s) :
    (lookUp (path.report nodeId value)).run w = (.ok (firstAt nodeId path s), loadedWorld w) := by
  let report := path.report nodeId value
  have hfirst : (s.devices.findSome? fun r =>
      if r.nodeId ≠ report.nodeId then none
      else (r.atPath report.endpointId report.clusterId report.attributeId).map fun c => (r, c)) =
        firstAt nodeId path s := findSome?_eq_firstAt nodeId path s
  unfold lookUp deviceRegistryFindCapabilityByPath
  rw [ExceptT.run_tryCatch, Handler.bind_apply, ExceptT.run_bind, Handler.bind_apply,
    loaded_run ⟨hheap, hpasses, hread⟩, hfirst]
  cases firstAt nodeId path s with
  | none => rfl
  | some found => rfl

/-- A look-up that may fail in any way leaves the board, and what is known of the calls to
come, as they are. -/
theorem lookUp_delivers (report : AttributeReport) (h : Delivers w) :
    ∃ found w', (lookUp report).run w = (.ok found, w') ∧ Delivers w' ∧ w'.board = w.board := by
  have hI : UnforeseenNvs fun u => Delivers u ∧ u.board = w.board := {
    allocs := fun u hu => ⟨delivers_unforeseen.allocs u hu.1, hu.2⟩
    heap := fun u hu => ⟨delivers_unforeseen.heap u hu.1, hu.2⟩
    httpd := fun u hu => ⟨delivers_unforeseen.httpd u hu.1, hu.2⟩
    stack := fun u hu => ⟨delivers_unforeseen.stack u hu.1, hu.2⟩
    nvs := fun u f hu => ⟨delivers_unforeseen.nvs u f hu.1, hu.2⟩ }
  have hload : LoadInvariant (fun _ => True) fun u => Delivers u ∧ u.board = w.board :=
    { hI with load := loadStore_keeps hI fun _ _ _ _ => trivial }
  have hfind : Esp.Keeps (fun u => Delivers u ∧ u.board = w.board)
      (deviceRegistryFindCapabilityByPath report.nodeId report.endpointId report.clusterId
        report.attributeId) fun _ => True := by
    apply load_keeps hload
    intro s _
    split
    · exact Esp.Keeps.pure trivial
    · exact Esp.Keeps.throw
  have hkept := (hfind w ⟨h, rfl⟩).1
  unfold lookUp
  rw [ExceptT.run_tryCatch, Handler.bind_apply, ExceptT.run_bind, Handler.bind_apply]
  generalize (deviceRegistryFindCapabilityByPath report.nodeId report.endpointId report.clusterId
    report.attributeId).run w = outcome at hkept
  obtain ⟨r, w'⟩ := outcome
  cases r with
  | error e => exact ⟨none, w', rfl, hkept⟩
  | ok found => exact ⟨some found, w', rfl, hkept⟩

/-! ## The event -/

/-- The event about this report. -/
def reportEvent (report : AttributeReport)
    (found : Option (DeviceRecord × DeviceCapability)) : Json :=
  messageTree "event" "matter.attribute_report" (.object (report.fields found))

theorem broadcastMessage_run (h : w.allocs = allSucceed) (type action : String) (payload : Json) :
    ∃ r heap httpd, (broadcastMessage type action payload).run w = (r, { w with
      board := queueEach (broadcastTo w) (messageTree type action payload) w.board
      heap := heap
      httpd := httpd }) := by
  unfold broadcastMessage
  rw [Esp.run_liftM_bind (m := getBoard) (w := w) rfl]
  split
  · next hstopped =>
    refine ⟨.ok ⟨⟩, w.heap, w.httpd, ?_⟩
    rw [broadcastTo, if_pos hstopped, queueEach_nil]
    rfl
  · rw [Esp.run_liftM_bind (allocate_eq h (buildJsonMessage_yields type action payload))]
    exact websocketBroadcastMessage_run _ w

/-- Whatever the sends meet, the clients that are reached get the same event. -/
theorem broadcastReport_run (report : AttributeReport)
    {found : Option (DeviceRecord × DeviceCapability)} {u : World} (hw : w.allocs = allSucceed)
    (hlookUp : (lookUp report).run w = (.ok found, u)) (hu : u.allocs = allSucceed) :
    ∃ r heap httpd, (broadcastInfoMatterAttributeReportMessage report).run w = (r, { u with
      board := queueEach (broadcastTo u) (reportEvent report found) u.board
      heap := heap
      httpd := httpd }) := by
  unfold lookUp at hlookUp
  unfold broadcastInfoMatterAttributeReportMessage
  rw [Esp.run_liftM_bind (allocate_eq hw cJSONCreateObject_yields)]
  dsimp only
  rw [Esp.run_bind_ok hlookUp,
    Esp.run_liftM_bind (allocate_eq hu (addFields_yields [] (report.fields found)))]
  exact broadcastMessage_run hu _ _ _

/-! ## The annotation -/

/-- The frame of an event. -/
def eventFrame (event : String) (payload : Json) : Json :=
  .object [(CStr.lit "type", .string (CStr.lit "event")),
    (CStr.lit "event", .string (CStr.lit event)), (CStr.lit "payload", payload)]

theorem messageTree_event (event : String) (payload : Json) :
    messageTree "event" event payload = eventFrame event payload := by
  have hinfo : CStr.lit "event" ≠ CStr.lit "info" := by decide
  rw [messageTree, actionField, if_neg hinfo, if_pos rfl]
  rfl

/-- The member of a payload with this name. -/
def member (payload : Json) (name : String) : Option Json :=
  payload.getObjectItemCaseSensitive (CStr.lit name)

/-- A report repeats the text of its value. -/
theorem value_reportEvent (report : AttributeReport)
    (found : Option (DeviceRecord × DeviceCapability)) :
    ((member (reportEvent report found) "payload").bind fun payload => member payload "value") =
      some (.string report.value) := by
  have hpayload : member (reportEvent report found) "payload" =
      some (.object (report.fields found)) := rfl
  rw [hpayload, Option.bind_some, member, getObjectItem_fields (by decide)]
  rfl

/-- What the payload of a report should say: the path and the value, and who measures what
there when this capability is the first one at the path. -/
structure Annotated (found : Option (DeviceRecord × DeviceCapability)) (nodeId : UInt64)
    (path : AttributePath) (v : Int) (payload : Json) : Prop where
  deviceId : member payload "device_id" = found.map fun m => .string m.1.deviceId.toCStr
  semanticType : member payload "semantic_type" =
    found.map fun m => .string (wireName m.2.semanticType)
  temperature : member payload "temperature_celsius" = found.bind fun m =>
    if m.2.semanticType = .temperature then some (.number (v / 100)) else none
  pressure : member payload "pressure_kpa" = found.bind fun m =>
    if m.2.semanticType = .pressure then some (.number (v / 10)) else none
  rawValue : member payload "raw_measured_value" = found.bind fun m =>
    if m.2.semanticType = .temperature ∨ m.2.semanticType = .pressure then some (.number v)
    else none
  nodeId : member payload "node_id" = some (.string (CStr.decimal nodeId.toNat))
  endpointId : member payload "endpoint_id" = some (.number path.endpointId.toNat)
  clusterId : member payload "cluster_id" = some (.number path.clusterId.toNat)
  attributeId : member payload "attribute_id" = some (.number path.attributeId.toNat)
  value : member payload "value" = some (.string (decimalInt v))

theorem measuredFields_of_other {t : DeviceCapabilitySemanticType} (ht : t ≠ .temperature)
    (hp : t ≠ .pressure) (v : Int) : measuredFields t v = [] := by
  rw [measuredFields, if_neg ht, if_neg hp]

/-- The fields that the builder adds say it. -/
theorem annotated_fields (nodeId : UInt64) (path : AttributePath) {v : Int}
    (found : Option (DeviceRecord × DeviceCapability)) (hlow : intMin ≤ v) (hhigh : v ≤ intMax) :
    Annotated found nodeId path v
      (.object ((path.report nodeId (decimalInt v)).fields found)) := by
  have hnode : (CStr.decimal nodeId.toNat).take 23 = CStr.decimal nodeId.toNat :=
    CStr.take_eq_self (CStr.length_decimal_le (by decide)
      (Nat.lt_trans nodeId.toNat_lt (by norm_num)))
  unfold AttributeReport.fields AttributeReport.pathFields AttributePath.report semanticFields
  rw [hnode]
  cases found with
  | none => exact ⟨rfl, rfl, rfl, rfl, rfl, rfl, rfl, rfl, rfl, rfl⟩
  | some found =>
      obtain ⟨r, capabilityId, type, endpointId, padding, clusterId, attributeId, commandId,
        label⟩ := found
      dsimp only
      rw [atoi_decimalInt hlow hhigh, toString_eq_wireName]
      -- the type decides which measured fields there are
      by_cases ht : type = .temperature
      · subst ht
        exact ⟨rfl, rfl, rfl, rfl, rfl, rfl, rfl, rfl, rfl, rfl⟩
      by_cases hp : type = .pressure
      · subst hp
        exact ⟨rfl, rfl, rfl, rfl, rfl, rfl, rfl, rfl, rfl, rfl⟩
      rw [measuredFields_of_other ht hp]
      exact ⟨rfl, rfl, (if_neg ht).symm, (if_neg hp).symm, (if_neg (not_or.mpr ⟨ht, hp⟩)).symm,
        rfl, rfl, rfl, rfl, rfl⟩

/-! ## Reports of integers -/

/-- The report carries this integer, bare or as the first element of a container from which a
value can be extracted. -/
inductive CarriesInteger (reader : TlvReader E) (v : Int) (data : E) : Prop
  | bare {datum : Datum} (h : Holds reader data datum) (hv : datum.integer = some v)
  | inContainer {front back : List E} {element : E} {datum : Datum}
      (henter : reader.enterContainer data = some (front ++ element :: back))
      (hfront : ∀ e ∈ front, extractValue reader e = none) (h : Holds reader element datum)
      (hv : datum.integer = some v)

theorem reportedValue_of_carriesInteger {v : Int} {data : E} (h : CarriesInteger reader v data) :
    reportedValue reader data = some (decimalInt v) := by
  cases h with
  | bare h hv => exact (reportedValue_of_holds h).trans (text_of_integer hv)
  | inContainer henter hfront h hv =>
      exact reportedValue_of_container henter hfront h (text_of_integer hv)

/-- A report of an integer within the bounds of `int` reaches the clients with the annotation
of the first capability at its path. -/
theorem attributeReport_annotated (reader : TlvReader E) (nodeId : UInt64) (path : AttributePath)
    {data : E} {v : Int} (hdata : CarriesInteger reader v data) (hlow : -2 ^ 31 ≤ v)
    (hhigh : v < 2 ^ 31) (hallocs : w.allocs = allSucceed) (hheap : w.heap.head = true)
    (hpasses : ∀ k < loadCalls w, w.nvsPasses k) (hread : w.board.registry.read = .ok s) :
    ∃ payload, (attributeDataReportCallback reader nodeId path data w).2.board =
        queueEach (broadcastTo (loadedWorld w))
          (eventFrame "matter.attribute_report" payload) w.board ∧
      ((member payload "device_id").isSome ∧ (member payload "semantic_type").isSome ↔
        ∃ m ∈ capabilities s, isAt nodeId path m = true) ∧
      Annotated (firstAt nodeId path s) nodeId path v payload := by
  have hannotated := annotated_fields nodeId path (firstAt nodeId path s) hlow
    (Int.lt_add_one_iff.mp hhigh)
  refine ⟨_, ?_, ?_, hannotated⟩
  · obtain ⟨r, heap, httpd, hrun⟩ := broadcastReport_run (path.report nodeId (decimalInt v)) hallocs
      (lookUp_run nodeId path (decimalInt v) hheap hpasses hread) hallocs
    unfold attributeDataReportCallback
    rw [reportedValue_of_carriesInteger hdata]
    rw [← messageTree_event]
    show ((broadcastInfoMatterAttributeReportMessage _).run w).2.board = _
    rw [hrun]
    rfl
  · rw [hannotated.deviceId, hannotated.semanticType, Option.isSome_map, Option.isSome_map,
      and_self, firstAt, List.find?_isSome]

def airPath : AttributePath := ⟨1, 1026, 0⟩

/-- The greenhouse is registered, and one client is connected. -/
def greenhouseWorld : World :=
  World.calm { Board.erased.withStore (singleStore greenhouse) with
    running := true
    sessions := [(7, true)] }

theorem attributeReport_annotated_greenhouse :
    ∃ payload, (attributeDataReportCallback datumReader 7 airPath (.inl (.signedInteger (-50)))
        greenhouseWorld).2.board =
        queueEach (broadcastTo (loadedWorld greenhouseWorld))
          (eventFrame "matter.attribute_report" payload) greenhouseWorld.board ∧
      ((member payload "device_id").isSome ∧ (member payload "semantic_type").isSome ↔
        ∃ m ∈ capabilities (singleStore greenhouse), isAt 7 airPath m = true) ∧
      Annotated (firstAt 7 airPath (singleStore greenhouse)) 7 airPath (-50) payload :=
  attributeReport_annotated datumReader 7 airPath
    (.bare (holds_datumReader (.signedInteger (-50))) rfl) (by decide) (by decide) rfl rfl
    (fun _ _ => rfl) (read_withStore (b := Board.erased) (accepted_singleStore (by decide)))

example : broadcastTo (loadedWorld greenhouseWorld) = [7] := by decide

example : (firstAt 7 airPath (singleStore greenhouse)).map (fun m => m.2.semanticType) =
    some .temperature := by decide +kernel

end Orchestrator.Events

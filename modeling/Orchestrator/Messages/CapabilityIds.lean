import Mathlib.Data.List.Induction
import Orchestrator.Messages.Addition
import Orchestrator.Messages.Identifiers
import Orchestrator.Messages.Listing
import Orchestrator.Messages.ReplyText

/-!
# Under which id a capability is added

A client tells the capabilities of a device apart by the strings it adds them under. The
record keeps the first 31 bytes of each.
-/

namespace Orchestrator.Messages

open Lib Handler Registry

variable {cfg : Config} {p : Platform} {payload : Json} {w : World}

/-- Capabilities, each with the string it was added under. -/
abbrev Additions := List (CStr × DeviceCapability)

/-- The part of a string that the record keeps. -/
def keptId (text : CStr) : CStr := text.take 31

/-- The id of the capability is the part of this string that its field can hold. -/
structure NamedAfter (text : CStr) (c : DeviceCapability) : Prop where
  terminated : c.capabilityId.Terminated
  kept : c.capabilityId.toCStr = keptId text

/-- A list of capabilities as `device.capability.add` makes it, one addition after the
other. -/
inductive AddedUnder : Additions → Prop
  | nil : AddedUnder []
  | add {additions : Additions} {text : CStr} {c : DeviceCapability} (h : AddedUnder additions)
      (hc : NamedAfter text c) :
      AddedUnder (upsert (fun m => sameCapabilityId c m.2) (text, c) additions)

/-- A message that adds a capability. -/
def addEnvelope (requestId : CStr) (payload : Json) : Envelope where
  requestId := requestId
  action := CStr.lit "device.capability.add"
  payload := payload

/-- Where the device is among the records. -/
def placeOf (deviceId : CStr) (s : RegistryStore) : Option Nat :=
  s.devices.findIdx? fun r => r.deviceId.toCStr = deviceId.take 32

/-- What an addition under `text` should do that is answered with `reply`: the capability that
is asked for replaces the one that was added under this very string, or comes last, and the
reply repeats the string. -/
structure IdentityKept (additions : Additions) (deviceId text : CStr) (payload : Json)
    (record : DeviceRecord) (b : Board) (reply : Json) (b' : Board) : Prop where
  device : ∃ before after c i updated, b.registry.read = .ok before ∧
    b'.registry.read = .ok after ∧ AskedFor payload text c ∧
    placeOf deviceId before = some i ∧ after.devices = before.devices.set i updated ∧
    updated = { record with
      capabilities := updated.capabilities
      capabilityCount := updated.capabilityCount } ∧
    capabilitiesOf updated = (upsert (fun m => m.1 = text) (text, c) additions).map Prod.snd ∧
    ∀ (k : Nat) (m : CStr × DeviceCapability), additions[k]? = some m → m.1 ≠ text →
      (capabilitiesOf updated)[k]? = some m.2
  reply : (member (some reply) "payload").bind (fun out => member (some out) "capability_id") =
    some (.string text)

/-! ## What a history of additions leaves -/

theorem namedAfter_newCapability (payload : Json) (fields : CapabilityFields)
    (semantic : DeviceCapabilitySemanticType) :
    NamedAfter fields.capabilityId (newCapability payload fields semantic) where
  terminated := CharArray.terminated_copyField 31 fields.capabilityId
  kept := CharArray.toCStr_copyField 31 fields.capabilityId

theorem namedAfter_of_addedUnder {additions : Additions} (h : AddedUnder additions) :
    ∀ m ∈ additions, NamedAfter m.1 m.2 := by
  induction h with
  | nil => exact fun m hm => absurd hm List.not_mem_nil
  | add h hc ih =>
      intro m hm
      rcases mem_of_mem_upsert hm with rfl | hm
      · exact hc
      · exact ih m hm

/-- Ids are compared as far as the record keeps them. -/
theorem sameCapabilityId_iff {c d : DeviceCapability} {s t : CStr} (hc : NamedAfter s c)
    (hd : NamedAfter t d) : sameCapabilityId c d = true ↔ keptId t = keptId s := by
  rw [← hc.kept, ← hd.kept]
  exact CharArray.strncmpEq_iff_ofBytes hd.terminated _

theorem nodup_of_addedUnder {additions : Additions} (h : AddedUnder additions) :
    (additions.map fun m => keptId m.1).Nodup := by
  induction h with
  | nil => exact List.nodup_nil
  | add h hc ih =>
      exact nodup_map_upsert ih fun m hm =>
        sameCapabilityId_iff hc (namedAfter_of_addedUnder h m hm)

/-- The record is updated as the client expects exactly when no other string is cut to the
same bytes. -/
theorem upsert_eq_iff {additions : Additions} {text : CStr} {c : DeviceCapability}
    (h : AddedUnder additions) (hc : NamedAfter text c) :
    upsert (sameCapabilityId c) c (additions.map Prod.snd) =
        (upsert (fun m => m.1 = text) (text, c) additions).map Prod.snd ↔
      ∀ m ∈ additions, keptId m.1 = keptId text → m.1 = text := by
  have hsame (m) (hm : m ∈ additions) :=
    sameCapabilityId_iff hc (namedAfter_of_addedUnder h m hm)
  have hmap := map_upsert (p := sameCapabilityId c) (a := (text, c)) (l := additions) Prod.snd
  rw [← hmap, map_upsert_eq_iff]
  · exact forall₂_congr fun m hm => by rw [hsame m hm, decide_eq_true_iff]
  · intro m hm heq
    rw [hsame m hm, of_decide_eq_true heq]
  · intro m hm n hn hmk hnk
    rw [hsame m hm] at hmk
    rw [hsame n hn] at hnk
    exact List.inj_on_of_nodup_map (nodup_of_addedUnder h) hm hn (hmk.trans hnk.symm)

/-- Distinct ids that are kept whole are those of a history of their own. -/
theorem addedUnder_of_nodup {capabilities : List DeviceCapability}
    (hterminated : ∀ c ∈ capabilities, c.capabilityId.Terminated)
    (hdistinct : (capabilities.map fun c => c.capabilityId.toCStr).Nodup) :
    AddedUnder (capabilities.map fun c => (c.capabilityId.toCStr, c)) := by
  have hnamed (c) (hc : c ∈ capabilities) : NamedAfter c.capabilityId.toCStr c := by
    have hlt := CharArray.length_toCStr_lt (hterminated c hc)
    exact ⟨hterminated c hc, (CStr.take_eq_self (Nat.le_of_lt_succ hlt)).symm⟩
  induction capabilities using List.reverseRecOn with
  | nil => exact .nil
  | append_singleton capabilities c ih =>
      have hmem (d) (hd : d ∈ capabilities) : d ∈ capabilities ++ [c] := List.mem_append_left [c] hd
      have hc : c ∈ capabilities ++ [c] := List.mem_append_right _ List.mem_cons_self
      rw [List.map_append, List.nodup_append] at hdistinct
      obtain ⟨hfront, -, hnew⟩ := hdistinct
      have hrest := ih (fun d hd => hterminated d (hmem d hd)) hfront
        fun d hd => hnamed d (hmem d hd)
      have hnone : (capabilities.map fun d => (d.capabilityId.toCStr, d)).findIdx?
          (fun m => sameCapabilityId c m.2) = none := by
        rw [List.findIdx?_eq_none_iff, List.forall_mem_map]
        intro d hd
        have hne := hnew _ (List.mem_map_of_mem hd) _ List.mem_cons_self
        refine Bool.eq_false_iff.mpr fun hsame => hne ?_
        rw [sameCapabilityId_iff (hnamed c hc) (hnamed d (hmem d hd)), ← (hnamed c hc).kept,
          ← (hnamed d (hmem d hd)).kept] at hsame
        exact hsame
      rw [List.map_append, List.map_singleton, ← upsert_of_none hnone]
      exact .add hrest (hnamed c hc)

/-! ## The reply -/

/-- The second of two fields is in the object exactly when its allocation succeeds. -/
theorem member_secondField (item text : Json) (outcomes : Stream' Bool) :
    member (some (.object (kept [(CStr.lit "device_id", item), (CStr.lit "capability_id", text)]
      outcomes))) "capability_id" = if outcomes.get 1 then some text else none := by
  let fields : List (CStr × Json) :=
    [(CStr.lit "device_id", item), (CStr.lit "capability_id", text)]
  have hkeys : (fields.map Prod.fst).Nodup := by
    show ([CStr.lit "device_id", CStr.lit "capability_id"]).Nodup
    decide
  have hget : fields[1]? = some (CStr.lit "capability_id", text) := rfl
  have hfind := find?_kept hkeys hget outcomes
  rw [member, Option.bind_some, Json.getObjectItemCaseSensitive, hfind]
  split
  · rfl
  · rfl

/-- What the reply says is the part of the id that the record keeps. -/
theorem reply_identity (payload : Json) (a : Addition) (outcomes : Stream' Bool) (added : Bool) :
    ((if added then some (Json.object (kept (a.replyFields payload) outcomes)) else none).bind
        fun out => member (some out) "capability_id") = some (.string a.fields.capabilityId) ↔
      a.fields.capabilityId.length ≤ 31 ∧ outcomes.get 1 = true ∧ added = true := by
  have hkept : (newCapability payload a.fields a.semantic).capabilityId.toCStr =
      a.fields.capabilityId.take 31 := by rw [newCapability, CharArray.toCStr_copyField 31]
  cases added with
  | false => exact iff_of_false (Option.some_ne_none _).symm fun h => absurd h.2.2 (by decide)
  | true =>
      rw [if_pos rfl, Option.bind_some, Addition.replyFields, member_secondField, hkept]
      cases outcomes.get 1 with
      | false =>
          rw [if_neg Bool.false_ne_true]
          exact iff_of_false (Option.some_ne_none _).symm fun h => absurd h.2.1 (by decide)
      | true =>
          rw [if_pos rfl]
          constructor
          · intro heq
            have htext : a.fields.capabilityId.take 31 = a.fields.capabilityId := by
              injection heq with heq
              injection heq
            exact ⟨htext ▸ CStr.length_take_le 31 a.fields.capabilityId, rfl, rfl⟩
          · intro h
            rw [CStr.take_eq_self h.1]

/-! ## The addition -/

/-- The devices after the write. -/
theorem devices_of_written {a : Addition} (h : a.Written payload w) {w' : World}
    (hregistry : w'.board.registry = (a.writtenWorld w).board.registry) :
    w'.board.registry.read = .ok a.after ∧ a.after.devices =
      upsert (hasId a.fields.deviceId.bytes) a.updated a.before.devices := by
  have hbefore := RegistryNvs.accepted_of_read h.finds.read
  have hvalid := valid_of_adds h.adds hbefore h.finds.found
  have hafter := accepted_of_upsertTarget hbefore (UInt32.not_lt.mp (not_or.mp hvalid).2)
    h.saves.updated
  have hdevices := devices_of_upsertTarget hbefore h.saves.updated
  have hdevice : a.updated.deviceId = a.record.deviceId := by
    rw [withCapability_frame h.adds.updates]
  rw [hdevice, hasId_of_found (List.find?_some h.finds.found)] at hdevices
  exact ⟨read_of_saved hafter hregistry, hdevices⟩

theorem addition_run (cfg : Config) (p : Platform) (requestId : CStr) (payload : Json) (w : World) :
    processCommandMessage cfg p (addEnvelope requestId payload).action
      (addEnvelope requestId payload).payload w = addCapabilityCommand payload w := by
  have hmem : ("device.capability.add", addCapabilityCommand) ∈ branches cfg p :=
    mem_branches_of_device (by simp [deviceBranches])
  unfold addEnvelope
  rw [processCommandMessage_of_mem hmem]

/-- What an addition that is written does, and what the reply says of it. -/
theorem Addition.Written.keepsIdentity_iff {a : Addition} (ha : a.Written payload w)
    {additions : Additions} {reply : Json} {w' : World}
    (hregistry : w'.board.registry = (a.writtenWorld w).board.registry)
    (hadded : AddedUnder additions) (hlist : capabilitiesOf a.record = additions.map Prod.snd)
    (hshown : member (some reply) "payload" =
      if (allocsAfterSave w.board w.allocs).get 8 then
        some (.object (kept (a.replyFields payload) (allocsAfterSave w.board w.allocs).tail))
      else none) :
    IdentityKept additions a.fields.deviceId a.fields.capabilityId payload a.record w.board reply
        w'.board ↔
      a.fields.capabilityId.length ≤ 31 ∧
        (∀ m ∈ additions, keptId m.1 = keptId a.fields.capabilityId →
          m.1 = a.fields.capabilityId) ∧
        (allocsAfterSave w.board w.allocs).get 2 = true ∧
        (allocsAfterSave w.board w.allocs).get 8 = true := by
  obtain ⟨hafter, hdevices⟩ := devices_of_written ha hregistry
  obtain ⟨i, hi, hlt⟩ := exists_findIdx? ha.finds.found
  rw [upsert_of_some hi] at hdevices
  have hplace : placeOf a.fields.deviceId a.before = some i := by
    unfold placeOf
    rw [← hasId_bytes, hi]
  have hasked := askedFor_newCapability ha.adds.hasFields ha.adds.hasType ha.adds.hasAttribute
  have hcount := (RegistryNvs.accepted_of_read ha.finds.read).capabilities a.record
    (List.mem_of_find?_eq_some ha.finds.found)
  have hupdated : capabilitiesOf a.updated = upsert _ _ (capabilitiesOf a.record) :=
    capabilityList_of_withCapability hcount ha.adds.updates
  rw [hlist] at hupdated
  have hidentity := upsert_eq_iff hadded (namedAfter_newCapability payload a.fields a.semantic)
  rw [← hupdated] at hidentity
  have hreplied := reply_identity payload a (allocsAfterSave w.board w.allocs).tail
    ((allocsAfterSave w.board w.allocs).get 8)
  rw [← hshown] at hreplied
  constructor
  · intro h
    obtain ⟨hlength, hadd, hattach⟩ := hreplied.mp h.reply
    refine ⟨hlength, hidentity.mp ?_, hadd, hattach⟩
    obtain ⟨before, after, c, i', updated, hbefore, hafter', hc, hi', hdevices', -, hexpected, -⟩ :=
      h.device
    obtain rfl := Except.ok.inj (ha.finds.read.symm.trans hbefore)
    obtain rfl := Except.ok.inj (hafter.symm.trans hafter')
    obtain rfl := Option.some.inj (hplace.symm.trans hi')
    obtain rfl := hasked.unique hc
    have hsame := congrArg (fun l : List DeviceRecord => l[i]?) (hdevices.symm.trans hdevices')
    rw [List.getElem?_set_self hlt, List.getElem?_set_self hlt] at hsame
    exact (Option.some.inj hsame) ▸ hexpected
  · rintro ⟨hlength, hdistinct, hadd, hattach⟩
    have hexpected := hidentity.mpr hdistinct
    refine ⟨⟨a.before, a.after, _, i, a.updated, ha.finds.read, hafter, hasked, hplace, hdevices,
      withCapability_frame ha.adds.updates, hexpected, ?_⟩,
      hreplied.mpr ⟨hlength, hadd, hattach⟩⟩
    intro k m hm hne
    rw [hexpected, List.getElem?_map, getElem?_upsert hm (decide_eq_false hne)]
    rfl

/-- A successful addition does what its client expects exactly when its id is kept whole, no
other string has been cut to the same bytes, and the id gets into the reply. -/
theorem identityKept_iff (cfg : Config) (p : Platform) (requestId : CStr) (payload : Json)
    (w : World) {deviceId text : CStr} {s : RegistryStore} {record : DeviceRecord}
    {additions : Additions} {reply : Json}
    (hdevice : textMember payload "device_id" = some deviceId)
    (htext : textMember payload "capability_id" = some text)
    (hread : w.board.registry.read = .ok s)
    (hrecord : s.devices.find? (fun r => r.deviceId.toCStr = deviceId.take 32) = some record)
    (hadded : AddedUnder additions) (hlist : capabilitiesOf record = additions.map Prod.snd)
    (hreply : ((commandReply cfg p (addEnvelope requestId payload)).run w).1 = .ok reply)
    (hok : member (some reply) "ok" = some (.bool true)) :
    IdentityKept additions deviceId text payload record w.board reply
        ((commandReply cfg p (addEnvelope requestId payload)).run w).2.board ↔
      text.length ≤ 31 ∧ (∀ m ∈ additions, keptId m.1 = keptId text → m.1 = text) ∧
        (allocsAfterSave w.board w.allocs).get 2 = true ∧
        (allocsAfterSave w.board w.allocs).get 8 = true := by
  obtain ⟨result, w', hrun⟩ : ∃ result w', addCapabilityCommand payload w = (result, w') :=
    ⟨_, _, rfl⟩
  have hcommand := (addition_run cfg p requestId payload w).trans hrun
  have herr := ok_of_accepted hcommand ⟨reply, hreply, hok⟩
  have hok' : (addCapabilityCommand payload w).1.err = .ok ⟨⟩ := by rw [hrun, herr]
  obtain ⟨a, ha, hregistry, hpayload, hallocs⟩ := written_of_ok hok'
  rw [hrun] at hregistry hpayload hallocs
  -- The addition is that of the device, the capability and the record of the hypotheses.
  have hfrom := of_capabilityFields ha.adds.hasFields
  rw [← requiredStringField_eq_textMember, hfrom.deviceId] at hdevice
  rw [← requiredStringField_eq_textMember, hfrom.capabilityId] at htext
  obtain rfl := Option.some.inj hdevice
  obtain rfl := Option.some.inj htext
  obtain rfl := Except.ok.inj (ha.finds.read.symm.trans hread)
  rw [← hasId_bytes] at hrecord
  obtain rfl := Option.some.inj (ha.finds.found.symm.trans hrecord)
  have hget : w'.allocs.get 5 = (allocsAfterSave w.board w.allocs).get 8 := by
    rw [hallocs]
    rfl
  have hshown := payload_of_reply hcommand herr hpayload hreply
  rw [hget] at hshown
  rw [board_commandReply, hcommand]
  exact ha.keepsIdentity_iff hregistry hadded hlist hshown

/-- A fan for the node that has an air sensor and a vent. -/
def fanPayload : Json :=
  .object
    [(CStr.lit "device_id", .string (CStr.lit "node-7")),
     (CStr.lit "capability_id", .string (CStr.lit "fan")),
     (CStr.lit "semantic_type", .string (CStr.lit "relay")),
     (CStr.lit "endpoint_id", .number 3),
     (CStr.lit "cluster_id", .number 6)]

def planted : World := World.calm (Board.erased.withStore (singleStore greenhouse))

/-- The capabilities of the node, each with its id as the text it was added under. -/
def plantedAdditions : Additions :=
  (capabilitiesOf greenhouse).map fun c => (c.capabilityId.toCStr, c)

theorem identityKept_iff_fan :
    ∃ reply, ((commandReply Config.full (Platform.parsing "null" .null)
        (addEnvelope (CStr.lit "r1") fanPayload)).run planted).1 = .ok reply ∧
      member (some reply) "ok" = some (.bool true) ∧
      IdentityKept plantedAdditions (CStr.lit "node-7") (CStr.lit "fan") fanPayload greenhouse
        planted.board reply ((commandReply Config.full (Platform.parsing "null" .null)
          (addEnvelope (CStr.lit "r1") fanPayload)).run planted).2.board := by
  have hanswered : Says Config.full (Platform.parsing "null" .null)
      (addEnvelope (CStr.lit "r1") fanPayload) planted true := says_of_okOf (by decide +kernel)
  obtain ⟨reply, hreply, hok⟩ := hanswered
  have hlist : capabilitiesOf greenhouse = plantedAdditions.map Prod.snd := by
    rw [plantedAdditions, List.map_map]
    exact (List.map_id _).symm
  have hadded : AddedUnder plantedAdditions := addedUnder_of_nodup (by decide) (by decide)
  have hdevice : textMember fanPayload "device_id" = some (CStr.lit "node-7") := rfl
  have hrecord : (singleStore greenhouse).devices.find? (fun r => r.deviceId.toCStr =
      (CStr.lit "node-7").take 32) = some greenhouse := by
    rw [devices_singleStore]
    exact List.find?_cons_of_pos (by decide)
  refine ⟨reply, hreply, hok, (identityKept_iff Config.full (Platform.parsing "null" .null)
    (CStr.lit "r1") fanPayload planted hdevice rfl
    (read_withStore (accepted_singleStore (by decide))) hrecord hadded hlist hreply hok).mpr ?_⟩
  exact ⟨by decide, by decide, rfl, rfl⟩

/-! ## Two sensors of one device -/

/-- A temperature sensor of the node with the largest id. -/
def sensorPayload (capabilityId : String) : Json :=
  .object
    [(CStr.lit "device_id", .string (CStr.lit "node-18446744073709551615")),
     (CStr.lit "capability_id", .string (CStr.lit capabilityId)),
     (CStr.lit "semantic_type", .string (CStr.lit "temperature")),
     (CStr.lit "endpoint_id", .number 1),
     (CStr.lit "cluster_id", .number 1026),
     (CStr.lit "attribute_id", .number 0)]

def sensorFields (capabilityId : String) : CapabilityFields where
  deviceId := CStr.lit "node-18446744073709551615"
  capabilityId := CStr.lit capabilityId
  semanticType := CStr.lit "temperature"
  endpointId := 1
  clusterId := 1026

/-- Both names have more than 31 bytes, and the same first 31 ones. -/
def firstSensor : String := "node-18446744073709551615-temperature-1"

def secondSensor : String := "node-18446744073709551615-temperature-2"

/-- The capability of a sensor. -/
def sensor (capabilityId : String) : DeviceCapability :=
  newCapability (sensorPayload capabilityId) (sensorFields capabilityId) .temperature

/-- The record of the node after its first sensor was added. -/
def oneSensorRecord : DeviceRecord :=
  let record := namedRecord (CStr.lit "node-18446744073709551615")
  { record with
    capabilities := record.capabilities.setIfInBounds 0 (sensor firstSensor)
    capabilityCount := 1 }

def oneSensor : World := World.calm (Board.erased.withStore (singleStore oneSensorRecord))

theorem read_oneSensor : oneSensor.board.registry.read = .ok (singleStore oneSensorRecord) :=
  read_withStore (accepted_singleStore (by decide))

theorem hasId_oneSensorRecord :
    hasId (CStr.lit "node-18446744073709551615").bytes oneSensorRecord = true :=
  hasId_namedRecord _

theorem capabilityList_oneSensorRecord : oneSensorRecord.capabilityList = [sensor firstSensor] :=
  CountedArray.view_append _ (by decide) _

/-- The record has one capability after the second command, too. -/
theorem devices_secondSensor
    (h : (addCapabilityCommand (sensorPayload secondSensor) oneSensor).1.err = .ok ⟨⟩) :
    ∃ (after : RegistryStore) (updated : DeviceRecord),
      (addCapabilityCommand (sensorPayload secondSensor) oneSensor).2.board.registry.read =
        .ok after ∧
      after.devices = [updated] ∧ updated.capabilityList = [sensor secondSensor] := by
  obtain ⟨a, ha, hregistry, -⟩ := written_of_ok h
  obtain ⟨hafter, hdevices⟩ := devices_of_written ha hregistry
  obtain ⟨fields, semantic, record, updated, before, after⟩ := a
  obtain ⟨hadds, hfinds, -⟩ := ha
  have hfields : capabilityFields (sensorPayload secondSensor) =
      some (sensorFields secondSensor) := rfl
  obtain rfl := Option.some.inj (hfields.symm.trans hadds.hasFields)
  obtain rfl : DeviceCapabilitySemanticType.temperature = semantic :=
    Option.some.inj hadds.hasType
  obtain rfl := Except.ok.inj (read_oneSensor.symm.trans hfinds.read)
  have hdeviceId : (sensorFields secondSensor).deviceId =
      CStr.lit "node-18446744073709551615" := rfl
  have hrecord := hfinds.found
  dsimp only at hdevices hrecord
  rw [hdeviceId] at hdevices hrecord
  rw [devices_singleStore, List.find?_cons_of_pos hasId_oneSensorRecord, Option.some.injEq]
    at hrecord
  subst hrecord
  rw [devices_singleStore, upsert_cons_of_pos hasId_oneSensorRecord] at hdevices
  have hcount : oneSensorRecord.capabilityCount ≤ deviceRegistryCapabilityMax := by decide
  have hsame : sameCapabilityId (sensor secondSensor) (sensor firstSensor) = true := by decide
  refine ⟨after, updated, hafter, hdevices, ?_⟩
  calc updated.capabilityList
      = upsert (sameCapabilityId (sensor secondSensor)) (sensor secondSensor)
          oneSensorRecord.capabilityList :=
        capabilityList_of_withCapability hcount hadds.updates
    _ = [sensor secondSensor] := by
        rw [capabilityList_oneSensorRecord, upsert_cons_of_pos hsame]

/-- The second sensor replaces the first one, and the reply says `ok:true`. -/
theorem identity_lost_secondSensor :
    oneSensor.board.registry.read = .ok (singleStore oneSensorRecord) ∧
    (singleStore oneSensorRecord).devices.find? (fun r => r.deviceId.toCStr =
      (CStr.lit "node-18446744073709551615").take 32) = some oneSensorRecord ∧
    AddedUnder [(CStr.lit firstSensor, sensor firstSensor)] ∧
    capabilitiesOf oneSensorRecord = [sensor firstSensor] ∧
    ∃ reply, ((commandReply Config.full (Platform.parsing "null" .null)
        (addEnvelope (CStr.lit "r1") (sensorPayload secondSensor))).run oneSensor).1 =
          .ok reply ∧
      member (some reply) "ok" = some (.bool true) ∧
      ¬IdentityKept [(CStr.lit firstSensor, sensor firstSensor)]
        (CStr.lit "node-18446744073709551615") (CStr.lit secondSensor)
        (sensorPayload secondSensor) oneSensorRecord oneSensor.board reply
        ((commandReply Config.full (Platform.parsing "null" .null)
          (addEnvelope (CStr.lit "r1") (sensorPayload secondSensor))).run oneSensor).2.board := by
  have hanswered : Says Config.full (Platform.parsing "null" .null)
      (addEnvelope (CStr.lit "r1") (sensorPayload secondSensor)) oneSensor true :=
    says_of_okOf (by decide +kernel)
  obtain ⟨reply, hreply, hok⟩ := hanswered
  have herr : (addCapabilityCommand (sensorPayload secondSensor) oneSensor).1.err = .ok ⟨⟩ := by
    decide +kernel
  refine ⟨read_oneSensor, ?_, .add .nil (namedAfter_newCapability (sensorPayload firstSensor)
    (sensorFields firstSensor) .temperature), capabilityList_oneSensorRecord, reply, hreply, hok,
    fun h => ?_⟩
  · rw [devices_singleStore, ← hasId_bytes]
    exact List.find?_cons_of_pos hasId_oneSensorRecord
  -- The record holds one capability, and the client expects two.
  obtain ⟨after, updated, hread, hdevices, hone⟩ := devices_secondSensor herr
  obtain ⟨before, after', c, i, updated', -, hafter, -, hi, hset, -, hexpected, -⟩ := h.device
  rw [board_commandReply, addition_run, hread] at hafter
  obtain rfl := Except.ok.inj hafter
  have hlt := (List.findIdx?_eq_some_iff_getElem.mp hi).1
  have hin : updated' ∈ after.devices := hset ▸ List.mem_set hlt updated'
  rw [hdevices, List.mem_singleton] at hin
  subst hin
  have hdistinct : decide (CStr.lit firstSensor = CStr.lit secondSensor) = false := by
    decide +kernel
  have hone' : capabilitiesOf updated' = [sensor secondSensor] := hone
  rw [hone', upsert_cons_of_neg (p := fun m : CStr × DeviceCapability =>
    decide (m.1 = CStr.lit secondSensor)) hdistinct] at hexpected
  cases hexpected

end Orchestrator.Messages

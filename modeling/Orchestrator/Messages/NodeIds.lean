import Orchestrator.Messages.Outbound

/-!
# Node ids on the wire

Five messages carry a node id. The entries of `device.list` and `device.get` and the
attribute report print it in decimal; the other two pass it to cJSON as a number.
-/

namespace Orchestrator.Messages

open Lib Registry Alloc

/-- A message that carries a node id, with all that it carries beside it. -/
inductive NodeIdMessage
  | deviceListEntry (record : DeviceRecord)
  | deviceGetEntry (record : DeviceRecord)
  | attributeReport (report : AttributeReport) (found : Option (DeviceRecord × DeviceCapability))
  | commissioningComplete (fabricIndex : UInt8)
  | subscribeDone (subscriptionId : UInt32)

namespace NodeIdMessage

/-- The entry or the payload, as the code builds it for this node. -/
def payload : NodeIdMessage → UInt64 → Alloc (Option Json)
  | deviceListEntry record, nodeId => recordToJson false { record with nodeId := nodeId }
  | deviceGetEntry record, nodeId => recordToJson true { record with nodeId := nodeId }
  | attributeReport report found, nodeId =>
      createObject ({ report with nodeId := nodeId }.fields found)
  | commissioningComplete fabricIndex, nodeId =>
      createObject (commissioningCompleteFields nodeId fabricIndex)
  | subscribeDone subscriptionId, nodeId =>
      createObject (subscribeDoneFields nodeId subscriptionId)

/-- What a client finds under `node_id` when no allocation failed. Of a number it is the number
that cJSON is given to print, not the text: how cJSON writes a `double` is not in the source. -/
def nodeIdField (message : NodeIdMessage) (nodeId : UInt64) : Option Json :=
  (message.payload nodeId allSucceed).1.bind fun item =>
    item.getObjectItemCaseSensitive (CStr.lit "node_id")

/-- The id is printed in decimal. -/
def AsText : NodeIdMessage → Prop
  | deviceListEntry _ | deviceGetEntry _ | attributeReport _ _ => True
  | commissioningComplete _ | subscribeDone _ => False

/-! ## The field -/

theorem nodeIdField_of_yields (message : NodeIdMessage) (nodeId : UInt64) {tree : Json}
    (h : (message.payload nodeId).Yields (some tree)) :
    message.nodeIdField nodeId = tree.getObjectItemCaseSensitive (CStr.lit "node_id") := by
  rw [nodeIdField, h.eq]
  rfl

theorem nodeIdField_asText {message : NodeIdMessage} (h : message.AsText) (nodeId : UInt64) :
    message.nodeIdField nodeId = some (.string (CStr.decimal nodeId.toNat)) := by
  cases message with
  | deviceListEntry record =>
      exact nodeIdField_of_yields (.deviceListEntry record) nodeId (recordToJson_yields _)
  | deviceGetEntry record =>
      exact nodeIdField_of_yields (.deviceGetEntry record) nodeId (recordToJson_yields _)
  | attributeReport report found =>
      have hfits : (CStr.decimal nodeId.toNat).take 23 = CStr.decimal nodeId.toNat := by
        have hle := Commands.length_decimal_node nodeId
        exact CStr.take_eq_self (by omega)
      rw [nodeIdField_of_yields (.attributeReport report found) nodeId (createObject_yields _),
        getObjectItem_fields (by decide), ← hfits]
      rfl
  | commissioningComplete fabricIndex => exact h.elim
  | subscribeDone subscriptionId => exact h.elim

theorem nodeIdField_asNumber {message : NodeIdMessage} (h : ¬message.AsText)
    (nodeId : UInt64) :
    message.nodeIdField nodeId = some (.number (doubleOfUint64 nodeId)) := by
  cases message with
  | commissioningComplete fabricIndex =>
      exact nodeIdField_of_yields (.commissioningComplete fabricIndex) nodeId
        (createObject_yields _)
  | subscribeDone subscriptionId =>
      exact nodeIdField_of_yields (.subscribeDone subscriptionId) nodeId (createObject_yields _)
  | deviceListEntry record => exact absurd trivial h
  | deviceGetEntry record => exact absurd trivial h
  | attributeReport report found => exact absurd trivial h

/-! ## Recovering the id -/

theorem doubleOfUint64_eq_iff {a b : UInt64} :
    doubleOfUint64 a = doubleOfUint64 b ↔ roundToEven 53 a.toNat = roundToEven 53 b.toNat :=
  Nat.cast_inj

/-- No id is rounded to a number beyond the first that is not an id. -/
theorem roundToEven_toNat_le (nodeId : UInt64) : roundToEven 53 nodeId.toNat ≤ 2 ^ 64 := by
  have hlt := nodeId.toNat_lt
  have hpower : Representable 53 (2 ^ 64) := ⟨1, 64, by decide, (Nat.one_mul _).symm⟩
  have hnear := dist_roundToEven_le (n := nodeId.toNat) (by decide) hpower
  unfold Nat.dist at hnear
  omega

/-- The ids at the end of the range share a `double` with each other. -/
theorem exists_ne_roundToEven_max (nodeId : UInt64) :
    ∃ other : UInt64, other ≠ nodeId ∧ roundToEven 53 other.toNat = 2 ^ 64 := by
  by_cases hmax : nodeId = 18446744073709551615
  · exact ⟨18446744073709551614, hmax ▸ by decide, by decide⟩
  · exact ⟨18446744073709551615, Ne.symm hmax, by decide⟩

/-- An id that is not the only one with its `double` shares it with another id. -/
theorem exists_doubleOfUint64_eq {nodeId : UInt64} (h : ¬Unmistakable 53 nodeId.toNat) :
    ∃ other, other ≠ nodeId ∧ doubleOfUint64 other = doubleOfUint64 nodeId := by
  have hlt := nodeId.toNat_lt
  obtain ⟨m, hm, heq, hcase⟩ := exists_roundToEven_eq (by decide) h
  by_cases hfits : m < 2 ^ 64
  · refine ⟨UInt64.ofNat m, ?_, ?_⟩
    · intro hother
      apply hm
      rw [← hother, UInt64.toNat_ofNat_of_lt' hfits]
    · rw [doubleOfUint64_eq_iff, UInt64.toNat_ofNat_of_lt' hfits, heq]
  · have hround : roundToEven 53 nodeId.toNat = 2 ^ 64 := by
      rcases hcase with hsucc | hself
      · have hmax : nodeId.toNat = 18446744073709551615 := by omega
        rw [hmax]
        decide
      · have hle := roundToEven_toNat_le nodeId
        omega
    obtain ⟨other, hother, hshared⟩ := exists_ne_roundToEven_max nodeId
    exact ⟨other, hother, doubleOfUint64_eq_iff.mpr (hshared.trans hround.symm)⟩

/-- A client can tell the node from every other one exactly when the message prints the id, or
the id is one that no other id is rounded to. It goes by the text or by the number; different
numbers are taken to be printed differently. -/
theorem nodeIdField_ne_iff (message : NodeIdMessage) (nodeId : UInt64) :
    (∀ other, other ≠ nodeId → message.nodeIdField other ≠ message.nodeIdField nodeId) ↔
      message.AsText ∨ nodeId.toNat < 2 ^ 53 ∨ nodeId.toNat < 2 ^ 54 ∧ nodeId.toNat % 4 = 2 := by
  by_cases htext : message.AsText
  · refine iff_of_true ?_ (.inl htext)
    intro other hother heq
    rw [nodeIdField_asText htext, nodeIdField_asText htext] at heq
    have hdecimal := CStr.decimal_injective (Json.string.inj (Option.some.inj heq))
    exact hother (UInt64.toNat_inj.mp hdecimal)
  · rw [or_iff_right htext]
    constructor
    · intro hall
      by_contra hconfused
      obtain ⟨other, hother, heq⟩ := exists_doubleOfUint64_eq hconfused
      apply hall other hother
      rw [nodeIdField_asNumber htext, nodeIdField_asNumber htext, heq]
    · intro hunmistakable other hother heq
      rw [nodeIdField_asNumber htext, nodeIdField_asNumber htext] at heq
      have hdouble := doubleOfUint64_eq_iff.mp (Json.number.inj (Option.some.inj heq))
      exact Unmistakable.roundToEven_ne (by decide) hunmistakable
        (fun hne => hother (UInt64.toNat_inj.mp hne)) hdouble

/-- The first two ids that a client cannot tell apart when their commissioning is complete. -/
theorem nodeIdField_confused :
    (9007199254740992 : UInt64) ≠ 9007199254740993 ∧
      (commissioningComplete 1).nodeIdField 9007199254740992 =
        (commissioningComplete 1).nodeIdField 9007199254740993 := by
  have hnumber : ¬(commissioningComplete 1).AsText := fun h => h
  have hshared : doubleOfUint64 9007199254740993 = doubleOfUint64 9007199254740992 :=
    doubleOfUint64_eq_iff.mpr (by decide)
  refine ⟨by decide, ?_⟩
  rw [nodeIdField_asNumber hnumber, nodeIdField_asNumber hnumber, hshared]

end NodeIdMessage

end Orchestrator.Messages

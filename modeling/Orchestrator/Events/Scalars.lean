import Orchestrator.Events.Reports

/-!
# Which scalars are reported

A report is broadcast when the callback has a case for the type of its datum. The text of the
datum ends where a client sees it end.
-/

namespace Orchestrator.Events

open Lib Handler Registry Server State Messages Alloc

variable {E : Type} {reader : TlvReader E} {data data' : E} {datum datum' : Datum}
  {value value' : CStr}

/-- Each report of this datum is broadcast as one event, about its path and with this text. -/
def Broadcasts (reader : TlvReader E) (data : E) (value : CStr) : Prop :=
  ∀ nodeId (path : AttributePath) w, Delivers w → ∃ found,
    (attributeDataReportCallback reader nodeId path data w).2.board =
      queueForAll (reportEvent (path.report nodeId value) found) w.board

/-- The datum is bare, or the only element of a container. -/
def Carries (reader : TlvReader E) (data : E) (datum : Datum) : Prop :=
  Holds reader data datum ∨
    ∃ element, reader.enterContainer data = some [element] ∧ Holds reader element datum

theorem reportedValue_of_carries (h : Carries reader data datum) :
    reportedValue reader data = datum.text := by
  rcases h with h | ⟨element, henter, h⟩
  · exact reportedValue_of_holds h
  · rw [reportedValue, henter]
    dsimp only
    rw [List.findSome?_cons, extractValue_of_holds h]
    cases datum.text with
    | none => rfl
    | some text => rfl

/-! ## What is broadcast -/

theorem broadcasts_of_reportedValue (h : reportedValue reader data = some value) :
    Broadcasts reader data value := by
  intro nodeId path w hw
  obtain ⟨found, u, hlookUp, hu, hboard⟩ := lookUp_delivers (path.report nodeId value) hw
  obtain ⟨r, heap, httpd, hrun⟩ := broadcastReport_run _ hw.allocs hlookUp hu.allocs
  refine ⟨found, ?_⟩
  unfold attributeDataReportCallback
  rw [h]
  show ((broadcastInfoMatterAttributeReportMessage (path.report nodeId value)).run w).2.board = _
  rw [hrun, broadcastTo_succeeds hu.toSendsSucceed, hboard]
  rfl

/-- One client is connected. -/
def oneClient : World :=
  World.calm { Board.erased with
    running := true
    sessions := [(7, true)] }

theorem delivers_oneClient : Delivers oneClient := ⟨⟨rfl, rfl, rfl⟩, rfl⟩

theorem queueForAll_oneClient (message : Json) :
    (queueForAll message oneClient.board).outbox = [(7, message)] := rfl

theorem broadcasts_iff : Broadcasts reader data value ↔ reportedValue reader data = some value := by
  refine ⟨fun h => ?_, broadcasts_of_reportedValue⟩
  obtain ⟨found, hboard⟩ := h 0 ⟨0, 0, 0⟩ oneClient delivers_oneClient
  cases hreported : reportedValue reader data with
  | none =>
      unfold attributeDataReportCallback at hboard
      rw [hreported] at hboard
      have hnothing := congrArg Board.outbox hboard
      rw [queueForAll_oneClient] at hnothing
      cases hnothing
  | some text =>
      obtain ⟨found', hboard'⟩ := broadcasts_of_reportedValue hreported 0 ⟨0, 0, 0⟩ oneClient
        delivers_oneClient
      have hframes := congrArg Board.outbox (hboard'.symm.trans hboard)
      rw [queueForAll_oneClient, queueForAll_oneClient] at hframes
      injection hframes with hframe
      have hevent := congrArg (fun frame : Int × Json =>
        (member frame.2 "payload").bind fun payload => member payload "value") hframe
      dsimp only at hevent
      rw [value_reportEvent, value_reportEvent] at hevent
      injection hevent with hevent
      injection hevent with htext
      exact congrArg some htext

/-! ## The scalars -/

/-- Strings that differ have different parts before their first NUL. -/
def DifferBeforeNul (datum datum' : Datum) : Prop :=
  ∀ text text', datum = .utf8String text → datum' = .utf8String text' → text ≠ text' →
    CStr.beforeNul text.val ≠ CStr.beforeNul text'.val

/-- Both data are reported, with different texts when they differ. -/
def ReportedApart (reader : TlvReader E) (data data' : E) (datum datum' : Datum) : Prop :=
  ∃ value value', Broadcasts reader data value ∧ Broadcasts reader data' value' ∧
    (datum ≠ datum' → value ≠ value')

/-- A datum has a text unless it is a Boolean. -/
theorem exists_text_iff (datum : Datum) :
    (∃ value, datum.text = some value) ↔ datum.type ≠ .boolean := by
  cases datum with
  | boolean val => exact iff_of_false (fun ⟨_, h⟩ => nomatch h) fun h => h rfl
  | unsignedInteger val | signedInteger val | utf8String text => exact iff_of_true ⟨_, rfl⟩ nofun

/-- Only strings can differ and have the same text. -/
theorem texts_differ_iff (htype : datum.type = datum'.type) (hvalue : datum.text = some value)
    (hvalue' : datum'.text = some value') :
    (datum ≠ datum' → value ≠ value') ↔ DifferBeforeNul datum datum' := by
  cases datum with
  | boolean val => cases hvalue
  | unsignedInteger val =>
      cases datum' with
      | boolean val' | signedInteger val' | utf8String text' => cases htype
      | unsignedInteger val' =>
          refine iff_of_true (fun hne heq => hne ?_) nofun
          obtain rfl := Option.some.inj hvalue
          obtain rfl := Option.some.inj hvalue'
          exact congrArg Datum.unsignedInteger (UInt64.toNat_inj.mp (CStr.decimal_injective heq))
  | signedInteger val =>
      cases datum' with
      | boolean val' | unsignedInteger val' | utf8String text' => cases htype
      | signedInteger val' =>
          refine iff_of_true (fun hne heq => hne ?_) nofun
          obtain rfl := Option.some.inj hvalue
          obtain rfl := Option.some.inj hvalue'
          exact congrArg Datum.signedInteger (Int64.toInt_inj.mp (decimalInt_injective heq))
  | utf8String text =>
      cases datum' with
      | boolean val' | unsignedInteger val' | signedInteger val' => cases htype
      | utf8String text' =>
          obtain rfl := Option.some.inj hvalue
          obtain rfl := Option.some.inj hvalue'
          constructor
          · rintro h _ _ ⟨⟩ ⟨⟩ hne heq
            exact h (fun hsame => hne (Datum.utf8String.inj hsame)) (CStr.ext heq)
          · intro h hne heq
            exact h text text' rfl rfl (fun hsame => hne (congrArg Datum.utf8String hsame))
              (congrArg CStr.bytes heq)

/-- Two data of one type are reported apart exactly when they are no Booleans and, being
strings, differ before their first NUL. -/
theorem reportedApart_iff (reader : TlvReader E) (hdata : Carries reader data datum)
    (hdata' : Carries reader data' datum') (htype : datum.type = datum'.type) :
    ReportedApart reader data data' datum datum' ↔
      datum.type ≠ .boolean ∧ DifferBeforeNul datum datum' := by
  unfold ReportedApart
  simp only [broadcasts_iff, reportedValue_of_carries hdata, reportedValue_of_carries hdata']
  constructor
  · rintro ⟨value, value', hvalue, hvalue', hdiffer⟩
    exact ⟨(exists_text_iff datum).mp ⟨value, hvalue⟩,
      (texts_differ_iff htype hvalue hvalue').mp hdiffer⟩
  · rintro ⟨hscalar, hdiffer⟩
    obtain ⟨value, hvalue⟩ := (exists_text_iff datum).mpr hscalar
    obtain ⟨value', hvalue'⟩ := (exists_text_iff datum').mpr (htype ▸ hscalar)
    exact ⟨value, value', hvalue, hvalue', (texts_differ_iff htype hvalue hvalue').mpr hdiffer⟩

/-- A text and a container with a text. -/
theorem reportedApart_iff_texts :
    ReportedApart datumReader (.inl (.utf8String ⟨[111, 110], by decide⟩))
        (.inr [.utf8String ⟨[111, 102, 102], by decide⟩])
        (.utf8String ⟨[111, 110], by decide⟩) (.utf8String ⟨[111, 102, 102], by decide⟩) ↔
      (Datum.utf8String ⟨[111, 110], by decide⟩).type ≠ .boolean ∧
        DifferBeforeNul (.utf8String ⟨[111, 110], by decide⟩)
          (.utf8String ⟨[111, 102, 102], by decide⟩) :=
  reportedApart_iff datumReader (.inl (holds_datumReader _))
    (.inr ⟨.inl _, rfl, holds_datumReader _⟩) rfl

/-- No text is broadcast for a relay that is on. -/
theorem not_broadcasts_boolean :
    ¬∃ value, Broadcasts datumReader (.inl (.boolean true)) value := by
  rintro ⟨value, h⟩
  cases broadcasts_iff.mp h

end Orchestrator.Events

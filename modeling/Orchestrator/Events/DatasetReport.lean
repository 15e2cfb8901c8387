import Orchestrator.Events.Effects
import Orchestrator.Messages.HexCodec

/-!
# The extended PAN ID on its way back

The digits that `thread.dataset.init` is given become bytes of the dataset. When OpenThread
tells that its dataset has changed, these bytes are printed for the clients.
-/

namespace Orchestrator.Events

open Lib Handler Registry Server State Commands Messages
open Commands.Dataset (hexStringToBytes_eq_some_iff)

variable {fd : Int} {text : CStr} {dataset : OperationalDataset} {w : World}

/-- A message with the active dataset and this extended PAN ID is queued for the client. -/
def Reported (extendedPanId : CStr) (fd : Int) (w : World) : Prop :=
  ∃ payload, (fd, messageTree "info" "thread.active_dataset" payload) ∈ w.board.outbox ∧
    payload.getObjectItemCaseSensitive (CStr.lit "extended_pan_id") =
      some (.string extendedPanId)

/-- OpenThread has this active dataset, the client is connected, and no call will fail. -/
structure ReportsTo (fd : Int) (dataset : OperationalDataset) (w : World) : Prop
    extends Delivers w where
  instanceExists : w.board.openThread.instanceExists = true
  activeDataset : w.board.openThread.activeDataset = some dataset
  client : fd ∈ websocketClients w.board.sessions

/-! ## The handler -/

theorem reportsTo_unforeseen : UnforeseenNvs (ReportsTo fd dataset) where
  allocs _ h := { h with toDelivers := delivers_unforeseen.allocs _ h.toDelivers }
  heap _ h := { h with toDelivers := delivers_unforeseen.heap _ h.toDelivers }
  httpd _ h := { h with toDelivers := delivers_unforeseen.httpd _ h.toDelivers }
  stack _ h := { h with toDelivers := delivers_unforeseen.stack _ h.toDelivers }
  nvs _ f h := { h with toDelivers := delivers_unforeseen.nvs _ f h.toDelivers }

theorem reportsTo_queue (message : Json) (other : Int) (w : World) (h : ReportsTo fd dataset w) :
    ReportsTo fd dataset { w with board := queueWork other message w.board } := { h with }

theorem reported_unforeseen : UnforeseenNvs (Reported text fd) :=
  unforeseen_board fun b => ∃ payload,
    (fd, messageTree "info" "thread.active_dataset" payload) ∈ b.outbox ∧
      payload.getObjectItemCaseSensitive (CStr.lit "extended_pan_id") = some (.string text)

theorem reported_queue (message : Json) (other : Int) (w : World) (h : Reported text fd w) :
    Reported text fd { w with board := queueWork other message w.board } := by
  obtain ⟨payload, hmem, htext⟩ := h
  exact ⟨payload, List.mem_append_left _ hmem, htext⟩

/-- What holds after the call in the middle holds after the snapshot, too. -/
theorem announce_triple {I J : World → Prop} {set : OrchestratorState → OrchestratorState}
    {event : String} {m : Esp Unit} (hI : Unforeseen I) (hJ : Unforeseen J)
    (hset : ∀ w, I w → I { w with board.state := set w.board.state })
    (hqueueI : ∀ message fd w, I w → I { w with board := queueWork fd message w.board })
    (hqueueJ : ∀ message fd w, J w → J { w with board := queueWork fd message w.board })
    (hm : Triple I (call m) fun _ => J) : Triple I (announce set event m) fun _ => J := by
  have hevent := call_keeps (broadcastEvent_keeps hI hqueueI event)
  have hsnapshot := call_keeps (broadcastSnapshot_keeps hJ hqueueJ)
  refine Triple.bind (Q := fun _ => I) hset fun _ => ?_
  refine Keeps.bindTriple hevent fun _ _ => ?_
  exact Triple.bind hm fun _ => hsnapshot.triple

theorem broadcastInfoActiveDatasetMessage_triple :
    Triple (ReportsTo fd dataset) (call (broadcastInfoActiveDatasetMessage dataset)) fun _ =>
      Reported (binaryToHexString dataset.extendedPanId.toList) fd := by
  intro w h
  have hrun := broadcastInfo_delivers h.toDelivers "thread.active_dataset"
    [(CStr.lit "active_timestamp", .number (doubleOfUint64 dataset.activeTimestamp)),
     (CStr.lit "network_name", .string dataset.networkName),
     (CStr.lit "extended_pan_id", .string (binaryToHexString dataset.extendedPanId.toList)),
     (CStr.lit "mesh_local_prefix", .string (binaryToHexString dataset.meshLocalPrefix.toList)),
     (CStr.lit "pan_id", .number dataset.panId.toNat),
     (CStr.lit "channel", .number dataset.channel.toNat)]
  show Reported _ fd ((broadcastInfoActiveDatasetMessage dataset).run w).2
  rw [broadcastInfoActiveDatasetMessage, hrun]
  refine ⟨_, List.mem_append_right _ (List.mem_map.mpr ⟨fd, h.client, rfl⟩), ?_⟩
  rfl

/-- A change of the dataset is reported to every client. -/
theorem handleThreadEvent_datasetChanged (p : Platform) (h : ReportsTo fd dataset w) :
    Reported (binaryToHexString dataset.extendedPanId.toList) fd
      (handleThreadEvent p .datasetChanged w).2 := by
  obtain ⟨hok, -⟩ := whenOk_of_run (k := fun dataset =>
    announce (.setThreadDatasetPresent true) "thread.dataset_changed"
      (broadcastInfoActiveDatasetMessage dataset)) (threadGetActiveDataset_run w)
  rw [h.instanceExists, h.activeDataset] at hok
  rw [handleThreadEvent, hok dataset rfl]
  exact announce_triple reportsTo_unforeseen.toUnforeseen reported_unforeseen.toUnforeseen
    (fun _ hw => { hw with }) reportsTo_queue reported_queue
    broadcastInfoActiveDatasetMessage_triple w h

/-! ## The command -/

/-- A command that succeeds has handed over the dataset that its texts denote. -/
theorem threadDatasetInit_ends (p : Platform) (channel panId : UInt16) (texts : DatasetTexts)
    (requests : List Request) :
    Esp.Ends (fun w => w.board.requests = requests) (threadDatasetInit p channel panId texts)
      fun _ w => ∃ dataset, parseDataset p channel panId texts = some dataset ∧
        w.board.requests = requests ++ [.datasetSetActive dataset] := by
  have hI : UnforeseenNvs fun w => w.board.requests = requests :=
    unforeseen_board fun b => b.requests = requests
  unfold threadDatasetInit
  refine Esp.Ends.bindKeeps (requireInstance_keeps (Q := fun _ => True) (fun _ _ => trivial) _) ?_
  rintro openThread -
  refine Esp.Ends.bindKeeps (orFail_keeps hI.toUnforeseen _) ?_
  rintro - -
  refine Esp.Ends.bindKeeps (mallocOrFail_keeps hI.toUnforeseen) ?_
  rintro - -
  cases hparse : parseDataset p channel panId texts with
  | none => exact Esp.Ends.throw
  | some dataset =>
      rintro w rfl a -
      rw [otCall_run]
      exact ⟨dataset, rfl, rfl⟩

theorem extendedPanId_of_parseDataset {p : Platform} {channel panId : UInt16}
    {texts : DatasetTexts} (h : parseDataset p channel panId texts = some dataset) :
    Hex.Denotes texts.extendedPanId.bytes dataset.extendedPanId.toList := by
  unfold parseDataset at h
  simp only [Option.bind_eq_bind, Option.bind_eq_some_iff, Option.pure_def,
    Option.some.injEq] at h
  obtain ⟨networkName, -, extendedPanId, hext, meshLocalPrefix, -, networkKey, -, pskc, -, rfl⟩ := h
  exact hexStringToBytes_eq_some_iff.mp hext

theorem extendedPanId_of_threadDatasetTexts {payload : Json} {texts : DatasetTexts}
    (h : threadDatasetTexts payload = some texts) :
    requiredStringField payload "extended_pan_id" = some texts.extendedPanId := by
  unfold threadDatasetTexts at h
  simp only [Option.bind_eq_bind, Option.bind_eq_some_iff, Option.pure_def,
    Option.some.injEq] at h
  obtain ⟨networkName, -, extendedPanId, hext, meshLocalPrefix, -, networkKey, -, pskc, -, rfl⟩ := h
  exact hext

/-- `thread.dataset.init` succeeds only with an extended PAN ID that the dataset holds. -/
theorem threadDatasetInitBranch_triple (p : Platform) (payload : Json)
    (requests : List Request) :
    Triple (fun w => w.board.requests = requests) (threadDatasetInitBranch p payload)
      fun result w => result.err = .ok ⟨⟩ → ∃ extendedPanId dataset,
        requiredStringField payload "extended_pan_id" = some extendedPanId ∧
        w.board.requests = requests ++ [.datasetSetActive dataset] ∧
        Hex.Denotes extendedPanId.bytes dataset.extendedPanId.toList := by
  unfold threadDatasetInitBranch
  split
  · next channel panId texts hchannel hpanId htexts =>
    intro w hw hok
    obtain ⟨dataset, hparse, hrequests⟩ := threadDatasetInit_ends p (castUint16 channel)
      (castUint16 panId) texts requests w hw ⟨⟩ hok
    exact ⟨texts.extendedPanId, dataset, extendedPanId_of_threadDatasetTexts htexts, hrequests,
      extendedPanId_of_parseDataset hparse⟩
  · rintro w - hok
    have hfailed : (Except.error EspErr.invalidArg : EspResult Unit) = .ok ⟨⟩ := hok
    cases hfailed

/-! ## There and back -/

/-- The codecs undo each other, and an extended PAN ID that `thread.dataset.init` accepts is
reported in upper case when OpenThread has the dataset. -/
theorem hexCodecs_inverse {n : Nat} (hn : 1 ≤ n) :
    CodecsInverse n ∧ ∀ p payload w, (threadDatasetInitBranch p payload w).1.err = .ok ⟨⟩ →
      ∃ extendedPanId dataset,
        requiredStringField payload "extended_pan_id" = some extendedPanId ∧
        IsHexText 16 extendedPanId ∧
        (threadDatasetInitBranch p payload w).2.board.requests =
          w.board.requests ++ [.datasetSetActive dataset] ∧
        ∀ fd w', ReportsTo fd dataset w' →
          Reported (upperCase extendedPanId) fd (handleThreadEvent p .datasetChanged w').2 := by
  refine ⟨codecsInverse hn, fun p payload w hok => ?_⟩
  obtain ⟨extendedPanId, dataset, hfield, hrequests, hdenotes⟩ :=
    threadDatasetInitBranch_triple p payload w.board.requests w rfl hok
  have hlength := hdenotes.length_eq
  rw [Vector.length_toList] at hlength
  refine ⟨extendedPanId, dataset, hfield, ?_, hrequests, fun fd w' hw' => ?_⟩
  · exact isHexText_iff.mpr ⟨hlength, Hex.isDigit_of_denotes hdenotes⟩
  · have hreported := handleThreadEvent_datasetChanged p hw'
    rwa [binaryToHexString_of_denotes hdenotes] at hreported

/-- A platform that takes every prefix. -/
def datasetPlatform : Platform :=
  { Platform.parsing "\x7b\x7d" (.object []) with
    otIp6PrefixFromString := fun _ => some (Vector.replicate 8 253) }

def datasetPayload : Json :=
  .object
    [(CStr.lit "channel", .number 15),
     (CStr.lit "pan_id", .number 4660),
     (CStr.lit "network_name", .string (CStr.lit "OpenThread")),
     (CStr.lit "extended_pan_id", .string (CStr.lit "dEad00bEef00caFe")),
     (CStr.lit "mesh_local_prefix", .string (CStr.lit "fd00::")),
     (CStr.lit "master_key", .string (CStr.lit "00112233445566778899aabbccddeeff")),
     (CStr.lit "pskc", .string (CStr.lit "00112233445566778899aabbccddeeff"))]

/-- OpenThread runs, and has no dataset yet. -/
def datasetWorld : World :=
  World.calm { Board.erased with
    openThread := { Board.erased.openThread with instanceExists := true } }

/-- OpenThread has this dataset, and one client is connected. -/
def reportingWorld (dataset : OperationalDataset) : World :=
  World.calm { Board.erased with
    running := true
    sessions := [(7, true)]
    openThread :=
      { Board.erased.openThread with
        instanceExists := true
        activeDataset := some dataset } }

theorem reportsTo_reportingWorld (dataset : OperationalDataset) :
    ReportsTo 7 dataset (reportingWorld dataset) :=
  { toDelivers := ⟨⟨rfl, rfl, rfl⟩, rfl⟩
    instanceExists := rfl
    activeDataset := rfl
    client := List.mem_singleton.mpr rfl }

/-- Digits of both cases come back in upper case. -/
theorem hexCodecs_inverse_eight : CodecsInverse 8 ∧ ∃ dataset,
    (threadDatasetInitBranch datasetPlatform datasetPayload datasetWorld).2.board.requests =
      [.datasetSetActive dataset] ∧
    Reported (CStr.lit "DEAD00BEEF00CAFE") 7
      (handleThreadEvent datasetPlatform .datasetChanged (reportingWorld dataset)).2 := by
  obtain ⟨hcodecs, hreported⟩ := hexCodecs_inverse (n := 8) (by decide)
  obtain ⟨extendedPanId, dataset, hfield, -, hrequests, hback⟩ :=
    hreported datasetPlatform datasetPayload datasetWorld rfl
  have hgiven : requiredStringField datasetPayload "extended_pan_id" =
      some (CStr.lit "dEad00bEef00caFe") := rfl
  obtain rfl : CStr.lit "dEad00bEef00caFe" = extendedPanId :=
    Option.some.inj (hgiven.symm.trans hfield)
  exact ⟨hcodecs, dataset, hrequests, hback 7 _ (reportsTo_reportingWorld dataset)⟩

end Orchestrator.Events

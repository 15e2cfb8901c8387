import Orchestrator.Events.Effects
import Orchestrator.Lib.History

/-!
# The mirrored state follows the events

What the snapshot should show is said by the last event of each kind. The handlers follow
it, but for two events: an address that is lost is not noticed, and neither is a dataset
that is gone.
-/

namespace Orchestrator.Events

open Lib State

/-- The mirrored state after these events, from `orchestrator_state_init` on. -/
def mirror (p : Platform) (espIp4addrNtoa : UInt32 → CStr) (history : List Observation) :
    OrchestratorState :=
  history.foldl (Observation.handle p espIp4addrNtoa) orchestratorStateInit

/-! ## What an event says -/

namespace Observation

def apRunning (o : Observation) : Option Bool :=
  match o.event with
  | .wifi .apStart => some true
  | .wifi .apStop => some false
  | _ => none

def staConfigured (o : Observation) : Option Bool :=
  match o.event with
  | .wifi .staConnected => some true
  | _ => none

/-- The station has this address from now on, or none. -/
def address (espIp4addrNtoa : UInt32 → CStr) (o : Observation) : Option (Option CStr) :=
  match o.event with
  | .wifi (.staGotIp ip) => some (some (espIp4addrNtoa ip))
  | .wifi .staDisconnected => some none
  | .wifi .staLostIp => some none
  | _ => none

def threadEnabled (o : Observation) : Option Bool :=
  match o.event with
  | .thread .start => some true
  | .thread .stop => some false
  | _ => none

def threadAttached (o : Observation) : Option Bool :=
  match o.event with
  | .thread .attached => some true
  | .thread .detached => some false
  | _ => none

def threadRole (p : Platform) (o : Observation) : Option CStr :=
  match o.event with
  | .thread .roleChanged => roleRead p o.world.board.openThread
  | _ => none

def datasetPresent (o : Observation) : Option Bool :=
  match o.event with
  | .thread .datasetChanged => some (datasetExists o.world.board.openThread)
  | _ => none

end Observation

/-- What the snapshot should show after some events. -/
structure Reference where
  apRunning : Bool
  staConfigured : Bool
  address : Option CStr
  threadEnabled : Bool
  threadAttached : Bool
  threadRole : CStr
  datasetPresent : Bool

def reference (p : Platform) (espIp4addrNtoa : UInt32 → CStr) (history : List Observation) :
    Reference where
  apRunning := (lastOf Observation.apRunning history).getD false
  staConfigured := (lastOf Observation.staConfigured history).getD false
  address := (lastOf (Observation.address espIp4addrNtoa) history).getD none
  threadEnabled := (lastOf Observation.threadEnabled history).getD false
  threadAttached := (lastOf Observation.threadAttached history).getD false
  threadRole := (lastOf (Observation.threadRole p) history).getD (CStr.lit "disabled")
  datasetPresent := (lastOf Observation.datasetPresent history).getD false

/-- The snapshot that shows it. Nothing else has changed since `orchestrator_state_init`. -/
def Reference.toJson (r : Reference) : Json :=
  .object
    [(CStr.lit "wifi", .object
      [(CStr.lit "mode", .string (CStr.lit "apsta")),
       (CStr.lit "ap_running", .bool r.apRunning),
       (CStr.lit "sta_configured", .bool r.staConfigured),
       (CStr.lit "sta_connected", .bool r.address.isSome),
       (CStr.lit "sta_ip",
        match r.address with
        | some ip => .string ip
        | none => .null),
       (CStr.lit "rssi", if r.address.isSome then .number 0 else .null)]),
     (CStr.lit "thread", .object
      [(CStr.lit "enabled", .bool r.threadEnabled),
       (CStr.lit "attached", .bool r.threadAttached),
       (CStr.lit "role", .string r.threadRole),
       (CStr.lit "dataset_present", .bool r.datasetPresent)]),
     (CStr.lit "matter", .object
      [(CStr.lit "controller_initialized", .bool false),
       (CStr.lit "commissioned_nodes", .array [])]),
     (CStr.lit "websocket", .object [(CStr.lit "clients", .number 0)])]

/-- The names of the roles and the texts of addresses are not empty, and fit into the fields. -/
structure TextsFit (p : Platform) (espIp4addrNtoa : UInt32 → CStr) : Prop where
  role : ∀ role, p.otThreadDeviceRoleToString role = CStr.lit (Platform.roleName role)
  address_nonempty : ∀ ip, (espIp4addrNtoa ip).isEmpty = false
  address_length : ∀ ip, (espIp4addrNtoa ip).length ≤ 15

/-! ## The state after a history -/

variable {p : Platform} {espIp4addrNtoa : UInt32 → CStr} {history : List Observation}
  {s : OrchestratorState}

/-- What is seen of the state when the number of clients is not looked at is what the last
event said that says something about it. -/
theorem view_mirror {β : Type} (view : OrchestratorState → β) (read : Observation → Option β)
    (hclients : ∀ s, view (s.setWebsocketClientCount 0) = view s)
    (heffect : ∀ s o, view (o.effect p espIp4addrNtoa s) = (read o).getD (view s)) :
    view (mirror p espIp4addrNtoa history) =
      (lastOf read history).getD (view orchestratorStateInit) := by
  refine foldl_eq_lastOf (fun s o => ?_) history
  rcases handle_cases p espIp4addrNtoa s o with h | ⟨-, h⟩
  · rw [h, heffect]
  · rw [h, hclients, heffect]

theorem threadEffect_roleChanged (openThread : OpenThread) :
    roleRead p openThread = none ∧ threadEffect p openThread .roleChanged s = s ∨
      ∃ role, roleRead p openThread = some role ∧
        threadEffect p openThread .roleChanged s = s.setThreadRole role := by
  rw [threadEffect]
  cases roleRead p openThread with
  | none => exact .inl ⟨rfl, rfl⟩
  | some role => exact .inr ⟨role, rfl, rfl⟩

theorem threadEffect_datasetChanged (openThread : OpenThread) :
    datasetExists openThread = false ∧ threadEffect p openThread .datasetChanged s = s ∨
      datasetExists openThread = true ∧
        threadEffect p openThread .datasetChanged s = s.setThreadDatasetPresent true := by
  rw [threadEffect]
  cases datasetExists openThread with
  | false => exact .inl ⟨rfl, rfl⟩
  | true => exact .inr ⟨rfl, rfl⟩

/-- Thread events leave the rest of the state alone. -/
theorem threadEffect_frame (openThread : OpenThread) (event : ThreadEvent) :
    threadEffect p openThread event s =
      { s with thread := (threadEffect p openThread event s).thread } := by
  cases event with
  | roleChanged =>
      rcases threadEffect_roleChanged (s := s) openThread with ⟨-, h⟩ | ⟨role, -, h⟩
      · rw [h]
      · rw [h]
        rfl
  | datasetChanged =>
      rcases threadEffect_datasetChanged (s := s) (p := p) openThread with ⟨-, h⟩ | ⟨-, h⟩
      · rw [h]
      · rw [h]
        rfl
  | _ => rfl

/-- Wi-Fi events leave the rest of the state alone. -/
theorem wifiEffect_frame (espIp4addrNtoa : UInt32 → CStr) (event : WifiEvent) :
    wifiEffect espIp4addrNtoa event s =
      { s with wifi := (wifiEffect espIp4addrNtoa event s).wifi } := by
  cases event <;> rfl

/-- A view of the Wi-Fi state only has to follow the Wi-Fi events. -/
theorem wifiView_mirror {β : Type} (view : WifiState → β) (read : Observation → Option β)
    (hwifi : ∀ (s : OrchestratorState) event world,
      view (wifiEffect espIp4addrNtoa event s).wifi =
        (read ⟨.wifi event, world⟩).getD (view s.wifi))
    (hthread : ∀ event world, read ⟨.thread event, world⟩ = none) :
    view (mirror p espIp4addrNtoa history).wifi =
      (lastOf read history).getD (view orchestratorStateInit.wifi) := by
  refine view_mirror (fun s => view s.wifi) read (fun _ => rfl) fun s o => ?_
  obtain ⟨event, world⟩ := o
  cases event with
  | wifi event => exact hwifi s event world
  | thread event =>
      rw [hthread]
      exact congrArg (fun s => view s.wifi) (threadEffect_frame _ event)

/-- A view of the Thread state only has to follow the Thread events. -/
theorem threadView_mirror {β : Type} (view : ThreadState → β) (read : Observation → Option β)
    (hthread : ∀ (s : OrchestratorState) event world,
      view (threadEffect p world.board.openThread event s).thread =
        (read ⟨.thread event, world⟩).getD (view s.thread))
    (hwifi : ∀ event world, read ⟨.wifi event, world⟩ = none) :
    view (mirror p espIp4addrNtoa history).thread =
      (lastOf read history).getD (view orchestratorStateInit.thread) := by
  refine view_mirror (fun s => view s.thread) read (fun _ => rfl) fun s o => ?_
  obtain ⟨event, world⟩ := o
  cases event with
  | thread event => exact hthread s event world
  | wifi event =>
      rw [hwifi]
      exact congrArg (fun s => view s.thread) (wifiEffect_frame _ event)

theorem apRunning_mirror :
    (mirror p espIp4addrNtoa history).wifi.apRunning =
      (lastOf Observation.apRunning history).getD false :=
  wifiView_mirror WifiState.apRunning _ (fun _ event _ => by cases event <;> rfl) fun _ _ => rfl

theorem staConfigured_mirror :
    (mirror p espIp4addrNtoa history).wifi.staConfigured =
      (lastOf Observation.staConfigured history).getD false :=
  wifiView_mirror WifiState.staConfigured _ (fun _ event _ => by cases event <;> rfl)
    fun _ _ => rfl

/-- A view that looks at neither the role nor the dataset, and what the events about these two
do to it. -/
theorem threadEffect_unseen {β : Type} (view : ThreadState → β)
    (hrole : ∀ (s : OrchestratorState) role, view (s.setThreadRole role).thread = view s.thread)
    (hdataset : ∀ (s : OrchestratorState) present,
      view (s.setThreadDatasetPresent present).thread = view s.thread)
    (openThread : OpenThread) :
    view (threadEffect p openThread .roleChanged s).thread = view s.thread ∧
      view (threadEffect p openThread .datasetChanged s).thread = view s.thread := by
  constructor
  · rcases threadEffect_roleChanged (s := s) openThread with ⟨-, h⟩ | ⟨role, -, h⟩
    · rw [h]
    · rw [h, hrole]
  · rcases threadEffect_datasetChanged (s := s) (p := p) openThread with ⟨-, h⟩ | ⟨-, h⟩
    · rw [h]
    · rw [h, hdataset]

theorem threadEnabled_mirror :
    (mirror p espIp4addrNtoa history).thread.enabled =
      (lastOf Observation.threadEnabled history).getD false := by
  refine threadView_mirror ThreadState.enabled _ (fun s event world => ?_) fun _ _ => rfl
  have hunseen := threadEffect_unseen (p := p) (s := s) ThreadState.enabled (fun _ _ => rfl)
    (fun _ _ => rfl) world.board.openThread
  cases event with
  | roleChanged => exact hunseen.1
  | datasetChanged => exact hunseen.2
  | _ => rfl

theorem threadAttached_mirror :
    (mirror p espIp4addrNtoa history).thread.attached =
      (lastOf Observation.threadAttached history).getD false := by
  refine threadView_mirror ThreadState.attached _ (fun s event world => ?_) fun _ _ => rfl
  have hunseen := threadEffect_unseen (p := p) (s := s) ThreadState.attached (fun _ _ => rfl)
    (fun _ _ => rfl) world.board.openThread
  cases event with
  | roleChanged => exact hunseen.1
  | datasetChanged => exact hunseen.2
  | _ => rfl

/-- The name of a role fits into its field. -/
theorem toCStr_role (h : TextsFit p espIp4addrNtoa) (role : OtDeviceRole) :
    (copyString 16 (some (p.otThreadDeviceRoleToString role))).toCStr =
      p.otThreadDeviceRoleToString role := by
  rw [copyString, Option.getD_some, CharArray.toCStr_copyField 15, h.role]
  cases role <;> decide

theorem threadRole_mirror (h : TextsFit p espIp4addrNtoa) :
    (mirror p espIp4addrNtoa history).thread.role.toCStr =
      (lastOf (Observation.threadRole p) history).getD (CStr.lit "disabled") := by
  refine threadView_mirror (fun t => t.role.toCStr) _ (fun s event world => ?_) fun _ _ => rfl
  cases event with
  | roleChanged =>
      rcases threadEffect_roleChanged (s := s) (p := p) world.board.openThread with
        ⟨hnone, heffect⟩ | ⟨role, hsome, heffect⟩
      · rw [heffect, Observation.threadRole, hnone]
        rfl
      · rw [heffect, Observation.threadRole, hsome]
        obtain rfl := Option.some.inj (Option.ite_none_right_eq_some.mp hsome).2
        exact toCStr_role h _
  | datasetChanged =>
      rcases threadEffect_datasetChanged (s := s) (p := p) world.board.openThread with
        ⟨-, heffect⟩ | ⟨-, heffect⟩
      · rw [heffect]
        rfl
      · rw [heffect]
        rfl
  | _ => rfl

/-! ## What the handlers do not notice -/

namespace Observation

/-- The address that the handler stores, which does not look at `STA_LOST_IP`. -/
def addressKept (espIp4addrNtoa : UInt32 → CStr) (o : Observation) : Option (Option CStr) :=
  if o.event = .wifi .staLostIp then none else o.address espIp4addrNtoa

/-- A dataset that the handler found. -/
def datasetFound (o : Observation) : Option Bool :=
  if o.datasetPresent = some true then some true else none

end Observation

theorem datasetPresent_mirror :
    (mirror p espIp4addrNtoa history).thread.datasetPresent =
      (lastOf Observation.datasetFound history).getD false := by
  refine threadView_mirror ThreadState.datasetPresent _ (fun s event world => ?_) fun _ _ => rfl
  cases event with
  | roleChanged =>
      rcases threadEffect_roleChanged (s := s) (p := p) world.board.openThread with
        ⟨-, heffect⟩ | ⟨role, -, heffect⟩
      · rw [heffect]
        rfl
      · rw [heffect]
        rfl
  | datasetChanged =>
      rcases threadEffect_datasetChanged (s := s) (p := p) world.board.openThread with
        ⟨hnone, heffect⟩ | ⟨hsome, heffect⟩
      · rw [heffect, Observation.datasetFound, Observation.datasetPresent, hnone]
        rfl
      · rw [heffect, Observation.datasetFound, Observation.datasetPresent, hsome]
        rfl
  | _ => rfl

/-- The address that the snapshot shows. -/
def shownAddress (wifi : WifiState) : Option CStr :=
  if wifi.staConnected then some wifi.staIp.toCStr else none

theorem toCStr_address (h : TextsFit p espIp4addrNtoa) (ip : UInt32) :
    (copyString 16 (some (espIp4addrNtoa ip))).toCStr = espIp4addrNtoa ip := by
  rw [copyString, Option.getD_some, CharArray.toCStr_copyField 15]
  exact CStr.take_eq_self (h.address_length ip)

theorem shownAddress_mirror (h : TextsFit p espIp4addrNtoa) :
    shownAddress (mirror p espIp4addrNtoa history).wifi =
      (lastOf (Observation.addressKept espIp4addrNtoa) history).getD none := by
  refine wifiView_mirror shownAddress _ (fun s event world => ?_) fun _ _ => rfl
  cases event with
  | staGotIp ip => exact congrArg some (toCStr_address h ip)
  | _ => rfl

/-- What no event determines is as it was at the start. -/
structure Untouched (s : OrchestratorState) : Prop where
  rssi : s.wifi.rssi = 0
  matter : s.matter = orchestratorStateInit.matter
  clients : s.websocket.clientCount = 0

theorem Untouched.effect (h : Untouched s) (o : Observation) :
    Untouched (o.effect p espIp4addrNtoa s) := by
  obtain ⟨event, world⟩ := o
  cases event with
  | wifi event =>
      have hrssi : (wifiEffect espIp4addrNtoa event s).wifi.rssi = s.wifi.rssi := by
        cases event <;> rfl
      show Untouched (wifiEffect espIp4addrNtoa event s)
      rw [wifiEffect_frame]
      exact ⟨hrssi.trans h.rssi, h.matter, h.clients⟩
  | thread event =>
      show Untouched (threadEffect p world.board.openThread event s)
      rw [threadEffect_frame]
      exact ⟨h.rssi, h.matter, h.clients⟩

theorem untouched_mirror : Untouched (mirror p espIp4addrNtoa history) := by
  induction history using List.reverseRecOn with
  | nil => exact ⟨rfl, rfl, rfl⟩
  | append_singleton history o ih =>
      have hlast : mirror p espIp4addrNtoa (history ++ [o]) =
          o.handle p espIp4addrNtoa (mirror p espIp4addrNtoa history) := by
        rw [mirror, List.foldl_append]
        rfl
      have heffect : Untouched (o.effect p espIp4addrNtoa (mirror p espIp4addrNtoa history)) :=
        ih.effect o
      rw [hlast]
      rcases handle_cases p espIp4addrNtoa (mirror p espIp4addrNtoa history) o with h | ⟨-, h⟩
      · rw [h]
        exact heffect
      · rw [h]
        exact ⟨heffect.rssi, heffect.matter, rfl⟩

/-! ## The snapshot -/

/-- What the snapshot shows after some events. -/
def shown (p : Platform) (espIp4addrNtoa : UInt32 → CStr) (history : List Observation) :
    Reference :=
  { reference p espIp4addrNtoa history with
    address := (lastOf (Observation.addressKept espIp4addrNtoa) history).getD none
    datasetPresent := (lastOf Observation.datasetFound history).getD false }

theorem eq_some_of_getD {address : Option (Option CStr)} {ip : CStr}
    (h : address.getD none = some ip) : address = some (some ip) := by
  cases address with
  | none => cases h
  | some address => exact congrArg some h

theorem exists_of_address {o : Observation} {ip : CStr}
    (h : o.address espIp4addrNtoa = some (some ip)) : ∃ a, espIp4addrNtoa a = ip := by
  obtain ⟨event, world⟩ := o
  cases event with
  | thread event => cases h
  | wifi event =>
      cases event with
      | staGotIp a => exact ⟨a, Option.some.inj (Option.some.inj h)⟩
      | _ => cases h

theorem nonempty_of_addressKept (h : TextsFit p espIp4addrNtoa) {ip : CStr}
    (hip : (lastOf (Observation.addressKept espIp4addrNtoa) history).getD none = some ip) :
    ip.isEmpty = false := by
  obtain ⟨-, o, -, -, ho, -⟩ := lastOf_eq_some_iff.mp (eq_some_of_getD hip)
  rw [Observation.addressKept, Option.ite_none_left_eq_some] at ho
  obtain ⟨a, rfl⟩ := exists_of_address ho.2
  exact h.address_nonempty a

theorem nonempty_threadRole (h : TextsFit p espIp4addrNtoa) :
    ((lastOf (Observation.threadRole p) history).getD (CStr.lit "disabled")).isEmpty = false := by
  cases hcase : lastOf (Observation.threadRole p) history with
  | none => decide
  | some role =>
      obtain ⟨-, o, -, -, ho, -⟩ := lastOf_eq_some_iff.mp hcase
      unfold Observation.threadRole at ho
      split at ho
      · obtain rfl := Option.some.inj (Option.ite_none_right_eq_some.mp ho).2
        rw [Option.getD_some, h.role]
        cases o.world.board.openThread.role <;> decide
      · cases ho

theorem wifiFields_eq {wifi : WifiState} (hrssi : wifi.rssi = 0)
    (hnonempty : ∀ ip, shownAddress wifi = some ip → ip.isEmpty = false) :
    wifi.fields =
      [(CStr.lit "mode", .string (CStr.lit "apsta")),
       (CStr.lit "ap_running", .bool wifi.apRunning),
       (CStr.lit "sta_configured", .bool wifi.staConfigured),
       (CStr.lit "sta_connected", .bool (shownAddress wifi).isSome),
       (CStr.lit "sta_ip",
        match shownAddress wifi with
        | some ip => .string ip
        | none => .null),
       (CStr.lit "rssi", if (shownAddress wifi).isSome then .number 0 else .null)] := by
  unfold WifiState.fields shownAddress at *
  cases hconnected : wifi.staConnected with
  | false => simp
  | true =>
      have hip := hnonempty wifi.staIp.toCStr (if_pos hconnected)
      simp [hip, hrssi]

/-- The snapshot shows the last event of each kind that the handlers notice. -/
theorem toJson_mirror (h : TextsFit p espIp4addrNtoa) :
    (mirror p espIp4addrNtoa history).toJson = (shown p espIp4addrNtoa history).toJson := by
  have huntouched : Untouched (mirror p espIp4addrNtoa history) := untouched_mirror
  have hnonempty : ∀ ip, shownAddress (mirror p espIp4addrNtoa history).wifi = some ip →
      ip.isEmpty = false := by
    intro ip hip
    rw [shownAddress_mirror h] at hip
    exact nonempty_of_addressKept h hip
  rw [OrchestratorState.toJson, wifiFields_eq huntouched.rssi hnonempty, ThreadState.fields,
    MatterState.fields, WebsocketState.fields, apRunning_mirror, staConfigured_mirror,
    shownAddress_mirror h, threadEnabled_mirror, threadAttached_mirror, threadRole_mirror h,
    nonempty_threadRole h, datasetPresent_mirror, huntouched.clients, huntouched.matter]
  rfl

theorem Reference.toJson_injective : Function.Injective Reference.toJson := by
  rintro ⟨a, b, c, d, e, f, g⟩ ⟨a', b', c', d', e', f', g'⟩ h
  simp only [Reference.toJson, Json.object.injEq, List.cons.injEq, Prod.mk.injEq, true_and,
    and_true, Json.bool.injEq, Json.string.injEq] at h
  obtain ⟨⟨rfl, rfl, -, haddress, -⟩, rfl, rfl, rfl, rfl⟩ := h
  have hequal : c = c' := by
    cases c <;> cases c' <;> simp_all
  rw [hequal]

/-! ## When the snapshot is right -/

/-- After the last `STA_GOT_IP` came a `STA_LOST_IP`, but no `STA_DISCONNECTED`. -/
def AddressLost (history : List Observation) : Prop :=
  ∃ before o after, history = before ++ o :: after ∧ (∃ ip, o.event = .wifi (.staGotIp ip)) ∧
    (∃ x ∈ after, x.event = .wifi .staLostIp) ∧
    ∀ x ∈ after, x.event ≠ .wifi .staDisconnected ∧ ∀ ip, x.event ≠ .wifi (.staGotIp ip)

/-- The last `DATASET_CHANGED` found no dataset, after an earlier one had found one. -/
def DatasetGone (history : List Observation) : Prop :=
  lastOf Observation.datasetPresent history = some false ∧
    ∃ o ∈ history, o.datasetPresent = some true

/-- What the events of the station say, case by case. -/
theorem address_cases (espIp4addrNtoa : UInt32 → CStr) (o : Observation) :
    (∃ ip, o.event = .wifi (.staGotIp ip) ∧
        o.address espIp4addrNtoa = some (some (espIp4addrNtoa ip)) ∧
        o.addressKept espIp4addrNtoa = some (some (espIp4addrNtoa ip))) ∨
      (o.event = .wifi .staDisconnected ∧ o.address espIp4addrNtoa = some none ∧
        o.addressKept espIp4addrNtoa = some none) ∨
      (o.event = .wifi .staLostIp ∧ o.address espIp4addrNtoa = some none ∧
        o.addressKept espIp4addrNtoa = none) ∨
      (o.address espIp4addrNtoa = none ∧ o.addressKept espIp4addrNtoa = none) := by
  obtain ⟨event, world⟩ := o
  cases event with
  | thread event => exact .inr (.inr (.inr ⟨rfl, rfl⟩))
  | wifi event =>
      cases event with
      | staGotIp ip => exact .inl ⟨ip, rfl, rfl, rfl⟩
      | staDisconnected => exact .inr (.inl ⟨rfl, rfl, rfl⟩)
      | staLostIp => exact .inr (.inr (.inl ⟨rfl, rfl, rfl⟩))
      | _ => exact .inr (.inr (.inr ⟨rfl, rfl⟩))

/-- An event of which nothing is kept is `STA_LOST_IP`, or says nothing. -/
theorem of_addressKept_eq_none {o : Observation} (h : o.addressKept espIp4addrNtoa = none) :
    o.event = .wifi .staLostIp ∧ o.address espIp4addrNtoa = some none ∨
      o.address espIp4addrNtoa = none := by
  rcases address_cases espIp4addrNtoa o with ⟨ip, -, -, hkept⟩ | ⟨-, -, hkept⟩ |
    ⟨hlost, haddress, -⟩ | ⟨haddress, -⟩
  · rw [hkept] at h; cases h
  · rw [hkept] at h; cases h
  · exact .inl ⟨hlost, haddress⟩
  · exact .inr haddress

theorem of_address_eq_some {o : Observation} {ip : CStr}
    (h : o.address espIp4addrNtoa = some (some ip)) :
    o.addressKept espIp4addrNtoa = some (some ip) := by
  rcases address_cases espIp4addrNtoa o with ⟨_, -, haddress, hkept⟩ | ⟨-, haddress, -⟩ |
    ⟨-, haddress, -⟩ | ⟨haddress, -⟩
  · rw [hkept, ← h, haddress]
  · rw [haddress] at h; cases h
  · rw [haddress] at h; cases h
  · rw [haddress] at h; cases h

theorem staGotIp_of_addressKept {o : Observation} {ip : CStr}
    (h : o.addressKept espIp4addrNtoa = some (some ip)) :
    ∃ address, o.event = .wifi (.staGotIp address) := by
  rcases address_cases espIp4addrNtoa o with ⟨address, hevent, -⟩ | ⟨-, -, hkept⟩ |
    ⟨-, -, hkept⟩ | ⟨-, hkept⟩
  · exact ⟨address, hevent⟩
  · rw [hkept] at h; cases h
  · rw [hkept] at h; cases h
  · rw [hkept] at h; cases h

/-- An address that the handlers keep too long has been lost. -/
theorem addressLost_of_ne {ip : CStr}
    (hkept : lastOf (Observation.addressKept espIp4addrNtoa) history = some (some ip))
    (hne : lastOf (Observation.address espIp4addrNtoa) history ≠ some (some ip)) :
    AddressLost history := by
  obtain ⟨before, o, after, rfl, ho, hafter⟩ := lastOf_eq_some_iff.mp hkept
  refine ⟨before, o, after, rfl, staGotIp_of_addressKept ho, ?_, fun x hx => ⟨?_, ?_⟩⟩
  · by_contra hnone
    refine hne (lastOf_eq_some_iff.mpr ⟨before, o, after, rfl, ?_, fun x hx => ?_⟩)
    · obtain ⟨address, hevent⟩ := staGotIp_of_addressKept ho
      rw [← ho, Observation.addressKept, hevent, if_neg (by simp)]
    · rcases of_addressKept_eq_none (hafter x hx) with ⟨hlost, -⟩ | haddress
      · exact absurd ⟨x, hx, hlost⟩ hnone
      · exact haddress
  · intro hevent
    have hsaid := hafter x hx
    rw [Observation.addressKept, Observation.address, hevent] at hsaid
    cases hsaid
  · intro address hevent
    have hsaid := hafter x hx
    rw [Observation.addressKept, Observation.address, hevent] at hsaid
    cases hsaid

/-- What was last kept is the last address, if that is one. -/
theorem addressKept_of_address {ip : CStr}
    (h : lastOf (Observation.address espIp4addrNtoa) history = some (some ip)) :
    lastOf (Observation.addressKept espIp4addrNtoa) history = some (some ip) := by
  obtain ⟨before, o, after, hsplit, ho, hafter⟩ := lastOf_eq_some_iff.mp h
  refine lastOf_eq_some_iff.mpr ⟨before, o, after, hsplit, of_address_eq_some ho, fun x hx => ?_⟩
  rw [Observation.addressKept, hafter x hx, ite_self]

theorem AddressLost.lastOf (espIp4addrNtoa : UInt32 → CStr) (h : AddressLost history) :
    (∃ ip, lastOf (Observation.addressKept espIp4addrNtoa) history = some (some ip)) ∧
      lastOf (Observation.address espIp4addrNtoa) history = some none := by
  obtain ⟨before, o, after, rfl, ⟨ip, hip⟩, ⟨lost, hlost, hevent⟩, hafter⟩ := h
  have hkept : ∀ x ∈ after, x.addressKept espIp4addrNtoa = none := by
    intro x hx
    rcases address_cases espIp4addrNtoa x with ⟨address, hgot, -⟩ | ⟨hgone, -⟩ | ⟨-, -, h⟩ | ⟨-, h⟩
    · exact absurd hgot ((hafter x hx).2 address)
    · exact absurd hgone (hafter x hx).1
    · exact h
    · exact h
  constructor
  · refine ⟨espIp4addrNtoa ip, lastOf_eq_some_iff.mpr ⟨before, o, after, rfl, ?_, hkept⟩⟩
    rw [Observation.addressKept, Observation.address, hip, if_neg (by simp)]
  · have hlast : Lib.lastOf (Observation.address espIp4addrNtoa) after = some none := by
      cases hcase : Lib.lastOf (Observation.address espIp4addrNtoa) after with
      | none =>
          have hsilent := lastOf_eq_none_iff.mp hcase lost hlost
          rw [Observation.address, hevent] at hsilent
          cases hsilent
      | some address =>
          obtain ⟨_, x, _, hsplit, hx, -⟩ := lastOf_eq_some_iff.mp hcase
          have hmem : x ∈ after := hsplit ▸ List.mem_append_right _ List.mem_cons_self
          rcases of_addressKept_eq_none (hkept x hmem) with ⟨-, hnone⟩ | hnone
          · rw [← hx, hnone]
          · rw [hnone] at hx
            cases hx
    rw [List.append_cons, lastOf_append, hlast]
    rfl

theorem address_eq_iff :
    (lastOf (Observation.addressKept espIp4addrNtoa) history).getD none =
      (lastOf (Observation.address espIp4addrNtoa) history).getD none ↔ ¬AddressLost history := by
  constructor
  · intro heq hlost
    obtain ⟨⟨ip, hkept⟩, haddress⟩ := hlost.lastOf espIp4addrNtoa
    rw [hkept, haddress] at heq
    cases heq
  · intro hkeeps
    cases haddress : (lastOf (Observation.address espIp4addrNtoa) history).getD none with
    | some ip =>
        rw [addressKept_of_address (eq_some_of_getD haddress)]
        rfl
    | none =>
        cases hkept : (lastOf (Observation.addressKept espIp4addrNtoa) history).getD none with
        | none => rfl
        | some ip =>
            refine absurd (addressLost_of_ne (eq_some_of_getD hkept) fun hlast => ?_) hkeeps
            rw [hlast] at haddress
            cases haddress

/-- A dataset was found by some `DATASET_CHANGED`. -/
theorem datasetFound_eq_true_iff :
    (lastOf Observation.datasetFound history).getD false = true ↔
      ∃ o ∈ history, o.datasetPresent = some true := by
  cases hlast : lastOf Observation.datasetFound history with
  | none =>
      refine iff_of_false Bool.false_ne_true ?_
      rintro ⟨o, ho, htrue⟩
      have hnone := lastOf_eq_none_iff.mp hlast o ho
      rw [Observation.datasetFound, if_pos htrue] at hnone
      cases hnone
  | some found =>
      obtain ⟨before, o, after, rfl, ho, -⟩ := lastOf_eq_some_iff.mp hlast
      obtain ⟨htrue, hfound⟩ := Option.ite_none_right_eq_some.mp ho
      exact iff_of_true (Option.some.inj hfound).symm
        ⟨o, List.mem_append_right _ List.mem_cons_self, htrue⟩

theorem dataset_eq_iff :
    (lastOf Observation.datasetFound history).getD false =
      (lastOf Observation.datasetPresent history).getD false ↔ ¬DatasetGone history := by
  cases hlast : lastOf Observation.datasetPresent history with
  | none =>
      have hnone : ¬∃ o ∈ history, o.datasetPresent = some true := by
        rintro ⟨o, ho, htrue⟩
        rw [lastOf_eq_none_iff.mp hlast o ho] at htrue
        cases htrue
      refine iff_of_true ?_ fun hgone => hnone hgone.2
      exact Bool.eq_false_iff.mpr fun htrue => hnone (datasetFound_eq_true_iff.mp htrue)
  | some present =>
      cases present with
      | true =>
          obtain ⟨before, o, after, hsplit, ho, -⟩ := lastOf_eq_some_iff.mp hlast
          have hmem : o ∈ history := hsplit ▸ List.mem_append_right _ List.mem_cons_self
          refine iff_of_true (datasetFound_eq_true_iff.mpr ⟨o, hmem, ho⟩) fun hgone => ?_
          rw [DatasetGone, hlast] at hgone
          cases hgone.1
      | false =>
          rw [DatasetGone, hlast, ← datasetFound_eq_true_iff]
          simp

/-- The snapshot shows what the last events said exactly when no address was lost and no dataset
is gone. -/
theorem toJson_mirror_eq_reference_iff (h : TextsFit p espIp4addrNtoa) :
    (mirror p espIp4addrNtoa history).toJson = (reference p espIp4addrNtoa history).toJson ↔
      ¬AddressLost history ∧ ¬DatasetGone history := by
  rw [toJson_mirror h, Reference.toJson_injective.eq_iff]
  constructor
  · intro heq
    exact ⟨address_eq_iff.mp (congrArg Reference.address heq),
      dataset_eq_iff.mp (congrArg Reference.datasetPresent heq)⟩
  · rintro ⟨haddress, hdataset⟩
    rw [shown, address_eq_iff.mpr haddress, dataset_eq_iff.mpr hdataset]
    rfl

/-- One of the four numbers of an address. -/
def octet (ip : UInt32) (i : Nat) : CStr := CStr.decimal (ip.toNat / 256 ^ i % 256)

/-- The numbers of an address with dots between them. -/
def dottedQuad (ip : UInt32) : CStr :=
  octet ip 0 ++ CStr.lit "." ++ octet ip 1 ++ CStr.lit "." ++ octet ip 2 ++ CStr.lit "." ++
    octet ip 3

theorem length_append (s t : CStr) : (s ++ t).length = s.length + t.length :=
  List.length_append

theorem length_octet_le (ip : UInt32) (i : Nat) : (octet ip i).length ≤ 3 := by
  refine CStr.length_decimal_le (by decide) (Nat.lt_trans (Nat.mod_lt _ ?_) ?_) <;> decide

theorem textsFit_dottedQuad (text : String) (root : Json) :
    TextsFit (Platform.parsing text root) dottedQuad where
  role _ := rfl
  address_nonempty ip := by
    have hfirst : (octet ip 0).bytes ≠ [] := Messages.decimal_ne_nil _
    simp [dottedQuad, CStr.isEmpty, hfirst]
  address_length ip := by
    have hdot : (CStr.lit ".").length = 1 := by decide
    have hoctets := length_octet_le ip
    have h0 := hoctets 0
    have h1 := hoctets 1
    have h2 := hoctets 2
    have h3 := hoctets 3
    simp only [dottedQuad, length_append, hdot]
    omega

/-- The station had an address and has lost it. -/
def lostAddress : List Observation :=
  [⟨.wifi (.staGotIp 0x0204A8C0), World.calm Board.erased⟩,
   ⟨.wifi .staLostIp, World.calm Board.erased⟩]

/-- A platform that knows the names of the roles. -/
def rolePlatform : Platform := Platform.parsing "\x7b\x7d" (.object [])

theorem textsFit_rolePlatform : TextsFit rolePlatform dottedQuad := textsFit_dottedQuad _ _

theorem toJson_mirror_eq_reference_iff_lostAddress :
    TextsFit rolePlatform dottedQuad ∧
      ((mirror rolePlatform dottedQuad lostAddress).toJson =
          (reference rolePlatform dottedQuad lostAddress).toJson ↔
        ¬AddressLost lostAddress ∧ ¬DatasetGone lostAddress) :=
  ⟨textsFit_rolePlatform, toJson_mirror_eq_reference_iff textsFit_rolePlatform⟩

/-- The snapshot still shows the address. -/
theorem toJson_mirror_ne_reference_lostAddress :
    (mirror rolePlatform dottedQuad lostAddress).toJson ≠
      (reference rolePlatform dottedQuad lostAddress).toJson := by
  rw [toJson_mirror textsFit_rolePlatform]
  intro heq
  have haddress := congrArg Reference.address (Reference.toJson_injective heq)
  cases haddress

end Orchestrator.Events

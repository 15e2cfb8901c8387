import Mathlib.Algebra.Order.Ring.Rat
import Mathlib.Tactic.NormNum
import Orchestrator.Messages.Strings
import Orchestrator.Registry.Calm

/-!
# Ids in numbers

Several commands take the ids they forward or store from numbers of their
payload. Each number goes through an `int`, which saturates, and an unchecked
conversion to 16 or 32 bits.
-/

namespace Orchestrator.Messages

open Lib Handler Registry Server State Commands Alloc

/-! ## Numbers -/

/-- The integers that a field of `width` bits can hold. -/
def Representable (width : Nat) (q : ℚ) : Prop := ∃ n : Nat, n < 2 ^ width ∧ q = n

/-- Those of them that an `int` can hold. -/
def InRange (width : Nat) (q : ℚ) : Prop := ∃ n : Nat, n < 2 ^ width ∧ n ≤ 2147483647 ∧ q = n

theorem InRange.representable {width : Nat} {q : ℚ} (h : InRange width q) :
    Representable width q := by
  obtain ⟨n, hlt, -, heq⟩ := h
  exact ⟨n, hlt, heq⟩

theorem valueint_natCast {n : Nat} (h : n ≤ 2147483647) : valueint n = n := by
  unfold valueint
  split
  · next hmax =>
    have hle : intMax ≤ (n : Int) := by exact_mod_cast hmax
    unfold intMax at hle ⊢
    omega
  · split
    · next hmin =>
      have hle : (n : Int) ≤ intMin := by exact_mod_cast hmin
      unfold intMin at hle
      omega
    · simp

/-- A number above the range of `int` is saturated. -/
theorem valueint_of_lt {n : Nat} (h : 2147483647 < n) : valueint n = 2147483647 := by
  have hmax : (intMax : ℚ) ≤ (n : ℚ) := by
    have hle : intMax ≤ (n : Int) := by
      unfold intMax
      omega
    exact_mod_cast hle
  exact if_pos hmax

/-- The conversion to 16 bits keeps exactly the numbers in range. -/
theorem castUint16_eq_iff {q : ℚ} : q = (castUint16 q).toNat ↔ InRange 16 q := by
  constructor
  · intro h
    have hlt := (castUint16 q).toNat_lt
    exact ⟨_, hlt, by omega, h⟩
  · rintro ⟨n, hlt, hle, rfl⟩
    have hmod : ((n : Int) % 2 ^ 16).toNat = n := by omega
    rw [castUint16, valueint_natCast hle, UInt16.ofInt, hmod, UInt16.toNat_ofNat_of_lt' hlt]

/-- So does the conversion to 32 bits, although 32 bits could hold more. -/
theorem castUint32_eq_iff {q : ℚ} : q = (castUint32 q).toNat ↔ InRange 32 q := by
  constructor
  · intro h
    have hlt := (castUint32 q).toNat_lt
    refine ⟨_, hlt, ?_, h⟩
    by_contra hgt
    have hmax : valueint q = 2147483647 := by
      rw [h]
      exact valueint_of_lt (Nat.lt_of_not_le hgt)
    have hcast : castUint32 q = 2147483647 := by
      rw [castUint32, hmax]
      rfl
    rw [hcast] at hgt
    exact hgt (by decide)
  · rintro ⟨n, hlt, hle, rfl⟩
    have hmod : ((n : Int) % 2 ^ 32).toNat = n := by omega
    rw [castUint32, valueint_natCast hle, UInt32.ofInt, hmod, UInt32.toNat_ofNat_of_lt' hlt]

/-! ## Commands with ids -/

/-- The commands that take ids from numbers. -/
inductive IdCommand
  | threadDatasetInit
  | capabilityAdd
  | deviceAttribute (subscribe : Bool)
  | matterAttribute (subscribe : Bool)
  | clusterCommandInvoke
  deriving DecidableEq, Repr

namespace IdCommand

def entry (p : Platform) : IdCommand → String × CommandHandler
  | threadDatasetInit => ("thread.dataset.init", threadDatasetInitBranch p)
  | capabilityAdd => ("device.capability.add", addCapabilityCommand)
  | deviceAttribute false => ("device.attribute.read", Messages.deviceAttribute false)
  | deviceAttribute true => ("device.attribute.subscribe", Messages.deviceAttribute true)
  | matterAttribute false => ("matter.attribute_read", Messages.matterAttribute false)
  | matterAttribute true => ("matter.attribute_subscribe", Messages.matterAttribute true)
  | clusterCommandInvoke => ("matter.cluster_command_invoke", matterClusterCommandInvoke)

def pathFields : List (String × Nat) :=
  [("endpoint_id", 16), ("cluster_id", 32), ("attribute_id", 32)]

def attributeFields : Bool → List (String × Nat)
  | false => pathFields
  | true => pathFields ++ [("min_interval", 16), ("max_interval", 16)]

/-- The ids of a command and their widths. -/
def fields : IdCommand → List (String × Nat)
  | threadDatasetInit => [("channel", 16), ("pan_id", 16)]
  | capabilityAdd => pathFields ++ [("command_id", 32)]
  | deviceAttribute subscribe => attributeFields subscribe
  | matterAttribute subscribe => attributeFields subscribe
  | clusterCommandInvoke => [("endpoint_id", 16), ("cluster_id", 32), ("command_id", 32)]

/-- The branch of the command is compiled in. -/
def Compiled (cfg : Config) (command : IdCommand) : Prop :=
  command = threadDatasetInit → cfg.openthreadEnabled = true

/-- The payload has the attribute path and, for a subscription, the intervals. -/
def HasAttribute (payload : Json) (subscribe : Bool) : Prop :=
  (attributePath payload).isSome ∧ (subscribe = true → (intervals payload).isSome)

/-- Nothing but its numbers stands against the payload. -/
def Accepts (p : Platform) (payload : Json) : IdCommand → Prop
  | threadDatasetInit => (requiredNumberField payload "channel").isSome ∧
      (requiredNumberField payload "pan_id").isSome ∧
      ∃ texts, threadDatasetTexts payload = some texts ∧ (parseDataset p 0 0 texts).isSome
  | capabilityAdd => ∃ fields semantic, capabilityFields payload = some fields ∧
      DeviceCapabilitySemanticType.fromString fields.semanticType = some semantic ∧
      ¬(needsAttribute semantic = true ∧ optionalId payload "attribute_id" = uint32Max)
  | deviceAttribute subscribe =>
      (requiredStringField payload "device_id").isSome ∧ HasAttribute payload subscribe
  | matterAttribute subscribe =>
      (requiredUint64StringField payload "node_id").isSome ∧ HasAttribute payload subscribe
  | clusterCommandInvoke => (requiredUint64StringField payload "destination_id").isSome ∧
      (commandPath payload).isSome ∧ (requiredStringField payload "command_data").isSome

end IdCommand

/-- Every id that the payload has a number for is in range. -/
def Fits (payload : Json) (fields : List (String × Nat)) : Prop :=
  ∀ field ∈ fields, ∀ q, requiredNumberField payload field.1 = some q → InRange field.2 q

/-- The ids in what is handed to another stack. -/
def requestIds : Request → List (String × Nat)
  | .datasetSetActive dataset =>
      [("channel", dataset.channel.toNat), ("pan_id", dataset.panId.toNat)]
  | .invokeCluster _ endpointId clusterId commandId _ =>
      [("endpoint_id", endpointId.toNat), ("cluster_id", clusterId.toNat),
       ("command_id", commandId.toNat)]
  | .readAttribute _ endpointId clusterId attributeId =>
      [("endpoint_id", endpointId.toNat), ("cluster_id", clusterId.toNat),
       ("attribute_id", attributeId.toNat)]
  | .subscribeAttribute _ endpointId clusterId attributeId minInterval maxInterval _ =>
      [("endpoint_id", endpointId.toNat), ("cluster_id", clusterId.toNat),
       ("attribute_id", attributeId.toNat), ("min_interval", minInterval.toNat),
       ("max_interval", maxInterval.toNat)]
  | _ => []

/-- The ids of the request are the numbers of the payload. -/
def RequestFrom (payload : Json) (request : Request) : Prop :=
  ∀ id ∈ requestIds request, requiredNumberField payload id.1 = some (id.2 : ℚ)

/-- The ids of the capability are the numbers of the payload, as far as it has them. -/
structure CapabilityFrom (payload : Json) (c : DeviceCapability) : Prop where
  endpointId : ∀ q, requiredNumberField payload "endpoint_id" = some q → q = c.endpointId.toNat
  clusterId : ∀ q, requiredNumberField payload "cluster_id" = some q → q = c.clusterId.toNat
  attributeId : ∀ q, requiredNumberField payload "attribute_id" = some q → q = c.attributeId.toNat
  commandId : ∀ q, requiredNumberField payload "command_id" = some q → q = c.commandId.toNat

/-- A blob in flash has a record with this capability. -/
def Held (n : RegistryNvs) (c : DeviceCapability) : Prop :=
  ∃ bytes, (n.stored.join = some bytes ∨ n.staged = some bytes) ∧
    ∃ r ∈ (loadBlob bytes).devices, c ∈ r.capabilityList

/-- What the command makes of its numbers between two worlds: the ids it hands over and
stores are those of the payload, and a number that does not fit makes it fail without
any effect. -/
structure Faithful (command : IdCommand) (payload : Json) (w : World)
    (result : CommandExecutionResult) (w' : World) : Prop where
  handed : ∃ requests, w'.board.requests = w.board.requests ++ requests ∧
    ∀ request ∈ requests, RequestFrom payload request
  stored : ∀ c, Held w'.board.registry c → Held w.board.registry c ∨ CapabilityFrom payload c
  refused : ∀ field ∈ command.fields, ∀ q, requiredNumberField payload field.1 = some q →
    ¬Representable field.2 q → (∃ err, result.err = .error err) ∧ w'.board = w.board

/-! ## Conversions -/

section Conversions

variable {payload : Json} {name : String} {q : ℚ}

theorem optionalId_eq_iff (h : requiredNumberField payload name = some q) :
    q = (optionalId payload name).toNat ↔ InRange 32 q := by
  rw [optionalId, h]
  exact castUint32_eq_iff

/-- The default command of a relay stands for a number that is out of range. -/
theorem commandOrDefault_eq_iff (semantic : DeviceCapabilitySemanticType)
    (h : requiredNumberField payload name = some q) :
    q = (commandOrDefault semantic (optionalId payload name)).toNat ↔ InRange 32 q := by
  unfold commandOrDefault
  split
  · next hdefault =>
    constructor
    · intro hone
      exact ⟨1, by decide, by decide, hone⟩
    · intro hrange
      have heq := (optionalId_eq_iff h).mpr hrange
      obtain ⟨n, -, hle, rfl⟩ := hrange
      rw [hdefault.2] at heq
      have hmax : n = 4294967295 := Nat.cast_injective heq
      omega
  · exact optionalId_eq_iff h

/-- What the code reads from a field is its number exactly when that is in range. -/
def ReadAs (payload : Json) (field id : String × Nat) : Prop :=
  id.1 = field.1 ∧ ∃ q, requiredNumberField payload field.1 = some q ∧
    (q = id.2 ↔ InRange field.2 q)

theorem readAs_castUint16 (h : requiredNumberField payload name = some q) :
    ReadAs payload (name, 16) (name, (castUint16 q).toNat) :=
  ⟨rfl, q, h, castUint16_eq_iff⟩

theorem readAs_castUint32 (h : requiredNumberField payload name = some q) :
    ReadAs payload (name, 32) (name, (castUint32 q).toNat) :=
  ⟨rfl, q, h, castUint32_eq_iff⟩

/-- The ids of the request are read from the fields. -/
def Carries (payload : Json) (fields : List (String × Nat)) (request : Request) : Prop :=
  List.Forall₂ (ReadAs payload) fields (requestIds request)

/-- A request has the numbers of the payload exactly when they are in range. -/
theorem requestFrom_iff_fits {fields : List (String × Nat)} {request : Request}
    (h : Carries payload fields request) :
    RequestFrom payload request ↔ Fits payload fields := by
  unfold Carries at h
  unfold RequestFrom
  generalize requestIds request = ids at h ⊢
  induction h with
  | nil => exact ⟨fun _ => nofun, fun _ => nofun⟩
  | @cons field id fields ids hread _ ih =>
      obtain ⟨hname, q, hq, hiff⟩ := hread
      have hhead : requiredNumberField payload id.1 = some (id.2 : ℚ) ↔
          ∀ q', requiredNumberField payload field.1 = some q' → InRange field.2 q' := by
        rw [hname, hq]
        constructor
        · rintro heq q' ⟨⟩
          exact hiff.mp (Option.some.inj heq)
        · intro hall
          rw [← hiff.mpr (hall q rfl)]
      unfold Fits
      rw [List.forall_mem_cons, List.forall_mem_cons, hhead]
      exact and_congr_right fun _ => ih

end Conversions

/-! ## What the branches read -/

section Reads

variable {payload : Json}

theorem of_attributePath {path : AttributePath} (h : attributePath payload = some path) :
    requiredNumberField payload "endpoint_id" = some path.endpointId ∧
      requiredNumberField payload "cluster_id" = some path.clusterId ∧
      requiredNumberField payload "attribute_id" = some path.attributeId := by
  unfold attributePath at h
  simp only [Option.bind_eq_bind, Option.bind_eq_some_iff, Option.pure_def, Option.some.injEq] at h
  obtain ⟨endpointId, hendpointId, clusterId, hclusterId, attributeId, hattributeId, rfl⟩ := h
  exact ⟨hendpointId, hclusterId, hattributeId⟩

theorem of_intervals {interval : ℚ × ℚ} (h : intervals payload = some interval) :
    requiredNumberField payload "min_interval" = some interval.1 ∧
      requiredNumberField payload "max_interval" = some interval.2 := by
  unfold intervals at h
  simp only [Option.bind_eq_bind, Option.bind_eq_some_iff, Option.pure_def, Option.some.injEq] at h
  obtain ⟨minInterval, hmin, maxInterval, hmax, rfl⟩ := h
  exact ⟨hmin, hmax⟩

theorem of_commandPath {path : CommandPath} (h : commandPath payload = some path) :
    requiredNumberField payload "endpoint_id" = some path.endpointId ∧
      requiredNumberField payload "cluster_id" = some path.clusterId ∧
      requiredNumberField payload "command_id" = some path.commandId := by
  unfold commandPath at h
  simp only [Option.bind_eq_bind, Option.bind_eq_some_iff, Option.pure_def, Option.some.injEq] at h
  obtain ⟨endpointId, hendpointId, clusterId, hclusterId, commandId, hcommandId, rfl⟩ := h
  exact ⟨hendpointId, hclusterId, hcommandId⟩

theorem carries_dataset {p : Platform} {channel panId : ℚ} {texts : DatasetTexts}
    {dataset : OperationalDataset}
    (hchannel : requiredNumberField payload "channel" = some channel)
    (hpanId : requiredNumberField payload "pan_id" = some panId)
    (hparse : parseDataset p (castUint16 channel) (castUint16 panId) texts = some dataset) :
    Carries payload (IdCommand.fields .threadDatasetInit) (.datasetSetActive dataset) := by
  rw [parseDataset_eq] at hparse
  obtain ⟨_, -, rfl⟩ := Option.map_eq_some_iff.mp hparse
  exact .cons (readAs_castUint16 hchannel) <| .cons (readAs_castUint16 hpanId) .nil

theorem carries_read {path : AttributePath} (h : attributePath payload = some path)
    (nodeId : UInt64) :
    Carries payload (IdCommand.attributeFields false) (.readAttribute nodeId
      (castUint16 path.endpointId) (castUint32 path.clusterId) (castUint32 path.attributeId)) := by
  obtain ⟨hendpointId, hclusterId, hattributeId⟩ := of_attributePath h
  exact .cons (readAs_castUint16 hendpointId) <| .cons (readAs_castUint32 hclusterId) <|
    .cons (readAs_castUint32 hattributeId) .nil

theorem carries_subscribe {path : AttributePath} {interval : ℚ × ℚ}
    (h : attributePath payload = some path) (hinterval : intervals payload = some interval)
    (nodeId : UInt64) :
    Carries payload (IdCommand.attributeFields true) (.subscribeAttribute nodeId
      (castUint16 path.endpointId) (castUint32 path.clusterId) (castUint32 path.attributeId)
      (castUint16 interval.1) (castUint16 interval.2) true) := by
  obtain ⟨hendpointId, hclusterId, hattributeId⟩ := of_attributePath h
  obtain ⟨hmin, hmax⟩ := of_intervals hinterval
  exact .cons (readAs_castUint16 hendpointId) <| .cons (readAs_castUint32 hclusterId) <|
    .cons (readAs_castUint32 hattributeId) <| .cons (readAs_castUint16 hmin) <|
    .cons (readAs_castUint16 hmax) .nil

theorem carries_invoke {path : CommandPath} (h : commandPath payload = some path)
    (destinationId : UInt64) (data : CStr) :
    Carries payload (IdCommand.fields .clusterCommandInvoke) (.invokeCluster destinationId
      (castUint16 path.endpointId) (castUint32 path.clusterId) (castUint32 path.commandId)
      data) := by
  obtain ⟨hendpointId, hclusterId, hcommandId⟩ := of_commandPath h
  exact .cons (readAs_castUint16 hendpointId) <| .cons (readAs_castUint32 hclusterId) <|
    .cons (readAs_castUint32 hcommandId) .nil

/-- The new capability has the numbers of the payload exactly when they are in range. -/
theorem capabilityFrom_iff_fits {fields : CapabilityFields} (hfrom : fields.From payload)
    (semantic : DeviceCapabilitySemanticType) :
    CapabilityFrom payload (newCapability payload fields semantic) ↔
      Fits payload (IdCommand.fields .capabilityAdd) := by
  constructor
  · intro h field hfield q hq
    simp only [IdCommand.fields, IdCommand.pathFields, List.cons_append, List.nil_append,
      List.mem_cons, List.not_mem_nil, or_false] at hfield
    rcases hfield with rfl | rfl | rfl | rfl
    · obtain rfl := Option.some.inj (hfrom.endpointId.symm.trans hq)
      exact castUint16_eq_iff.mp (h.endpointId _ hq)
    · obtain rfl := Option.some.inj (hfrom.clusterId.symm.trans hq)
      exact castUint32_eq_iff.mp (h.clusterId _ hq)
    · exact (optionalId_eq_iff hq).mp (h.attributeId q hq)
    · exact (commandOrDefault_eq_iff semantic hq).mp (h.commandId q hq)
  · intro h
    constructor
    · intro q hq
      obtain rfl := Option.some.inj (hfrom.endpointId.symm.trans hq)
      exact castUint16_eq_iff.mpr (h ("endpoint_id", 16) (by decide) _ hq)
    · intro q hq
      obtain rfl := Option.some.inj (hfrom.clusterId.symm.trans hq)
      exact castUint32_eq_iff.mpr (h ("cluster_id", 32) (by decide) _ hq)
    · intro q hq
      exact (optionalId_eq_iff hq).mpr (h ("attribute_id", 32) (by decide) _ hq)
    · intro q hq
      exact (commandOrDefault_eq_iff semantic hq).mpr (h ("command_id", 32) (by decide) _ hq)

end Reads

/-! ## What the branches hand over -/

/-- The command reports an error. -/
def Fails (result : CommandExecutionResult) : Prop := ∃ err, result.err = .error err

section Branches

variable {p : Platform} {payload : Json} {D : RegistryStore → Prop} {I : World → Prop}

/-- A command that is accepted reads its ids from its fields; one that is not fails. -/
def Gated (I : World → Prop) (p : Platform) (payload : Json) (command : IdCommand) : Prop :=
  Keeps I ((command.entry p).2 payload) fun result => ¬command.Accepts p payload → Fails result

theorem failed_gated {command : IdCommand} (err : EspErr) (message : String) :
    Keeps I (pure (failed err message)) fun result =>
      ¬command.Accepts p payload → Fails result :=
  Keeps.pure fun _ => ⟨err, rfl⟩

theorem onOk_gated {command : IdCommand} {α : Type} {op : Esp α} {R : α → Prop}
    {message : Option String} {next : α → Handler CommandExecutionResult}
    (hop : Esp.Keeps I op R)
    (hnext : ∀ a, R a → Keeps I (next a) fun result =>
      ¬command.Accepts p payload → Fails result) :
    Keeps I (onOk op message next) fun result => ¬command.Accepts p payload → Fails result :=
  onOk_rule hop (fun err _ => ⟨err, rfl⟩) hnext

theorem threadDatasetInit_gated (hI : Unforeseen I)
    (htakes : IdCommand.Accepts p payload .threadDatasetInit → ∀ request,
      Carries payload (IdCommand.fields .threadDatasetInit) request → Takes I request) :
    Gated I p payload .threadDatasetInit := by
  show Keeps I (threadDatasetInitBranch p payload) _
  unfold threadDatasetInitBranch
  split
  · next channel panId texts hchannel hpanId htexts =>
    have haccepts : (parseDataset p (castUint16 channel) (castUint16 panId) texts).isSome →
        IdCommand.Accepts p payload .threadDatasetInit := by
      intro hparse
      rw [parseDataset_eq, Option.isSome_map] at hparse
      exact ⟨Option.isSome_of_eq_some hchannel, Option.isSome_of_eq_some hpanId, texts, htexts,
        hparse⟩
    refine report_rule (threadDatasetInit_keeps hI ?_) ?_
    · intro dataset hdataset
      exact htakes (haccepts (Option.isSome_of_eq_some hdataset)) _
        (carries_dataset hchannel hpanId hdataset)
    · rintro (err | _) hparsed hnot
      · exact ⟨err, rfl⟩
      · exact absurd (haccepts (hparsed ⟨⟩ rfl)) hnot
  · exact failed_gated _ _

theorem clusterCommandInvoke_gated (hI : Unforeseen I)
    (htakes : IdCommand.Accepts p payload .clusterCommandInvoke → ∀ request,
      Carries payload (IdCommand.fields .clusterCommandInvoke) request → Takes I request) :
    Gated I p payload .clusterCommandInvoke := by
  show Keeps I (matterClusterCommandInvoke payload) _
  unfold matterClusterCommandInvoke
  split
  · next destinationId path data hdestinationId hpath hdata =>
    have haccepts : IdCommand.Accepts p payload .clusterCommandInvoke :=
      ⟨Option.isSome_of_eq_some hdestinationId, Option.isSome_of_eq_some hpath,
        Option.isSome_of_eq_some hdata⟩
    refine report_rule (R := fun _ => True) (executeCmdInvokeCommand_keeps hI ?_) ?_
    · exact htakes haccepts _ (carries_invoke hpath destinationId data)
    · exact fun _ _ hnot => absurd haccepts hnot
  · exact failed_gated _ _

/-- The end of a command that has sent what was accepted. -/
theorem sent_gated {command : IdCommand} {op : Esp Unit} {message : Option String}
    {next : Handler CommandExecutionResult} (haccepts : command.Accepts p payload)
    (hop : Esp.Keeps I op fun _ => True) (hnext : Keeps I next fun _ => True) :
    Keeps I (onOk op message fun _ => next) fun result =>
      ¬command.Accepts p payload → Fails result :=
  onOk_gated hop fun _ _ => hnext.weaken fun _ _ hnot => absurd haccepts hnot

theorem matterAttribute_gated (hI : Unforeseen I) (subscribe : Bool)
    (htakes : IdCommand.Accepts p payload (.matterAttribute subscribe) → ∀ request,
      Carries payload (IdCommand.fields (.matterAttribute subscribe)) request →
        Takes I request) :
    Gated I p payload (.matterAttribute subscribe) := by
  have hbranch : (IdCommand.entry p (.matterAttribute subscribe)).2 =
      Messages.matterAttribute subscribe := by
    cases subscribe <;> rfl
  have hnext : Keeps I acceptedPayload fun _ => True :=
    reply_rule hI (createObject_built (FieldStrings.of_forall (fun _ => trivial) _))
      fun _ _ => trivial
  unfold Gated
  rw [hbranch]
  unfold Messages.matterAttribute
  split
  · next nodeId path hnodeId hpath =>
    have hnode := Option.isSome_of_eq_some hnodeId
    have hsome := Option.isSome_of_eq_some hpath
    cases subscribe with
    | false =>
        have haccepts : IdCommand.Accepts p payload (.matterAttribute false) :=
          ⟨hnode, hsome, nofun⟩
        have hrequest := htakes haccepts _ (carries_read hpath nodeId)
        exact sent_gated haccepts (executeAttrReadCommand_keeps hI hrequest) hnext
    | true =>
        rw [if_pos rfl]
        split
        · exact failed_gated _ _
        · next interval hinterval =>
          have haccepts : IdCommand.Accepts p payload (.matterAttribute true) :=
            ⟨hnode, hsome, fun _ => Option.isSome_of_eq_some hinterval⟩
          have hrequest := htakes haccepts _ (carries_subscribe hpath hinterval nodeId)
          exact sent_gated haccepts (executeAttrSubscribeCommand_keeps hI hrequest) hnext
  · exact failed_gated _ _

theorem deviceAttribute_gated (hI : LoadInvariant D I) (subscribe : Bool)
    (htakes : IdCommand.Accepts p payload (.deviceAttribute subscribe) → ∀ request,
      Carries payload (IdCommand.fields (.deviceAttribute subscribe)) request →
        Takes I request) :
    Gated I p payload (.deviceAttribute subscribe) := by
  have hbranch : (IdCommand.entry p (.deviceAttribute subscribe)).2 =
      Messages.deviceAttribute subscribe := by
    cases subscribe <;> rfl
  unfold Gated
  rw [hbranch]
  unfold Messages.deviceAttribute
  split
  · next deviceId path hdeviceId hpath =>
    have hdevice := Option.isSome_of_eq_some hdeviceId
    have hsome := Option.isSome_of_eq_some hpath
    have hnext : Keeps I (acceptedDevicePayload deviceId) fun _ => True :=
      reply_rule hI.toUnforeseen (acceptedDeviceObject_built texts_true trivial)
        fun _ _ => trivial
    refine onOk_gated (deviceRegistryGetDevice_keeps hI deviceId) ?_
    rintro record -
    cases subscribe with
    | false =>
        have haccepts : IdCommand.Accepts p payload (.deviceAttribute false) :=
          ⟨hdevice, hsome, nofun⟩
        have hrequest := htakes haccepts _ (carries_read hpath record.nodeId)
        exact sent_gated haccepts (executeAttrReadCommand_keeps hI.toUnforeseen hrequest) hnext
    | true =>
        rw [if_pos rfl]
        split
        · exact failed_gated _ _
        · next interval hinterval =>
          have haccepts : IdCommand.Accepts p payload (.deviceAttribute true) :=
            ⟨hdevice, hsome, fun _ => Option.isSome_of_eq_some hinterval⟩
          have hrequest := htakes haccepts _ (carries_subscribe hpath hinterval record.nodeId)
          exact sent_gated haccepts
            (executeAttrSubscribeCommand_keeps hI.toUnforeseen hrequest) hnext
  · exact failed_gated _ _

/-- The record with the new capability is saved only if the payload was accepted. -/
theorem addCapabilityCommand_gated (hI : LoadInvariant D I)
    (hupsert : IdCommand.Accepts p payload .capabilityAdd → ∀ fields semantic,
      capabilityFields payload = some fields → ∀ s record, D s → record ∈ s.devices →
      ∀ updated, withCapability record (newCapability payload fields semantic) = some updated →
        Esp.Keeps I (deviceRegistryUpsertDevice updated) fun _ => True) :
    Gated I p payload .capabilityAdd := by
  show Keeps I (addCapabilityCommand payload) _
  apply addCapabilityCommand_rule (fun err _ _ _ => ⟨err, rfl⟩) fun deviceId =>
    deviceRegistryGetDevice_keeps hI deviceId
  rintro fields semantic record updated hadds ⟨s, hs, hfind⟩
  have haccepts : IdCommand.Accepts p payload .capabilityAdd :=
    ⟨fields, semantic, hadds.hasFields, hadds.hasType, hadds.hasAttribute⟩
  have hstore := hupsert haccepts fields semantic hadds.hasFields s record hs
    (List.mem_of_find?_eq_some hfind) updated hadds.updates
  exact (storeCapability_keeps hI.toUnforeseen hstore _).weaken
    fun _ _ hnot => absurd haccepts hnot

/-- The rule for all of the commands. -/
theorem command_gated (command : IdCommand) (hI : LoadInvariant D I)
    (htakes : command.Accepts p payload → ∀ request,
      Carries payload command.fields request → Takes I request)
    (hupsert : command = .capabilityAdd → IdCommand.Accepts p payload .capabilityAdd →
      ∀ fields semantic, capabilityFields payload = some fields → ∀ s record, D s →
      record ∈ s.devices → ∀ updated,
        withCapability record (newCapability payload fields semantic) = some updated →
        Esp.Keeps I (deviceRegistryUpsertDevice updated) fun _ => True) :
    Gated I p payload command := by
  cases command with
  | threadDatasetInit => exact threadDatasetInit_gated hI.toUnforeseen htakes
  | capabilityAdd => exact addCapabilityCommand_gated hI (hupsert rfl)
  | deviceAttribute subscribe => exact deviceAttribute_gated hI subscribe htakes
  | matterAttribute subscribe => exact matterAttribute_gated hI.toUnforeseen subscribe htakes
  | clusterCommandInvoke => exact clusterCommandInvoke_gated hI.toUnforeseen htakes

/-- A command that is not accepted fails and leaves the board as it is. -/
theorem command_refused {command : IdCommand} (hnot : ¬command.Accepts p payload) (w : World) :
    Fails ((command.entry p).2 payload w).1 ∧
      ((command.entry p).2 payload w).2.board = w.board := by
  have hboard : UnforeseenNvs fun w' : World => w'.board = w.board :=
    unforeseen_board fun board => board = w.board
  have hload : LoadInvariant (fun _ => True) fun w' : World => w'.board = w.board :=
    { hboard with load := loadStore_keeps hboard fun _ _ _ _ => trivial }
  obtain ⟨hsame, hfails⟩ := command_gated command hload
    (fun haccepts => absurd haccepts hnot)
    (fun heq haccepts => absurd (heq ▸ haccepts) hnot) w rfl
  exact ⟨hfails hnot, hsame⟩

end Branches

/-! ## Ids in range -/

section Traced

variable {p : Platform} {payload : Json} {before : Board}

/-- Every capability of the store was held before or has the numbers of the payload. -/
def TracedStore (payload : Json) (n : RegistryNvs) (s : RegistryStore) : Prop :=
  ∀ r ∈ s.devices, ∀ c ∈ r.capabilityList, Held n c ∨ CapabilityFrom payload c

/-- Since the board was `before`, only numbers of the payload have been handed over and
stored. -/
structure Traced (payload : Json) (before : Board) (w : World) : Prop where
  handed : ∃ requests, w.board.requests = before.requests ++ requests ∧
    ∀ request ∈ requests, RequestFrom payload request
  stored : w.board.registry.All fun bytes => TracedStore payload before.registry (loadBlob bytes)

theorem traced_unforeseen : UnforeseenNvs (Traced payload before) where
  allocs _ hw := { hw with }
  heap _ hw := { hw with }
  httpd _ hw := { hw with }
  stack _ hw := { hw with }
  nvs _ _ hw := { hw with }

theorem traced_takes {request : Request} (h : RequestFrom payload request) :
    Takes (Traced payload before) request := by
  rintro w ⟨⟨requests, heq, hall⟩, hstored⟩
  refine ⟨⟨requests ++ [request], ?_, ?_⟩, hstored⟩
  · show w.board.requests ++ [request] = _
    rw [heq, List.append_assoc]
  · intro request' hmem
    rcases List.mem_append.mp hmem with hmem | hmem
    · exact hall request' hmem
    · exact List.mem_singleton.mp hmem ▸ h

theorem traced_storeInvariant :
    StoreInvariant (TracedStore payload before.registry) (Traced payload before) := by
  have hempty : TracedStore payload before.registry initEmptyStore :=
    fun r hr => absurd hr List.not_mem_nil
  apply StoreInvariant.of_flash traced_unforeseen
    (B := fun bytes => TracedStore payload before.registry (loadBlob bytes))
  · exact fun _ hw => hw.stored
  · exact fun _ _ hw hn => { hw with stored := hn }
  · exact fun _ _ _ hw => { hw with }
  · exact fun _ hbytes => hbytes
  · exact fun _ hs => loadBlob_encode_of hempty hs
  · exact hempty

theorem traced_upsert {s : RegistryStore} {record updated : DeviceRecord}
    {capability : DeviceCapability} (hs : TracedStore payload before.registry s)
    (hrecord : record ∈ s.devices) (hcapability : CapabilityFrom payload capability)
    (hupdated : withCapability record capability = some updated) :
    Esp.Keeps (Traced payload before) (deviceRegistryUpsertDevice updated) fun _ => True := by
  have hnew : ∀ c ∈ updated.capabilityList,
      Held before.registry c ∨ CapabilityFrom payload c := by
    intro c hc
    rcases mem_withCapability hupdated hc with hc | rfl
    · exact hs record hrecord c hc
    · exact .inr hcapability
  apply deviceRegistryUpsertDevice_keeps traced_storeInvariant
  · intro t i ht hfind r hr
    rw [devices_set] at hr
    rcases List.mem_or_eq_of_mem_set hr with hr | rfl
    · exact ht r hr
    · exact hnew
  · intro t ht hfind hroom r hr
    rw [devices_append hroom] at hr
    rcases List.mem_append.mp hr with hr | hr
    · exact ht r hr
    · exact List.mem_singleton.mp hr ▸ hnew

theorem traced_self (payload : Json) (w : World) : Traced payload w.board w where
  handed := ⟨[], (List.append_nil _).symm, fun _ h => absurd h List.not_mem_nil⟩
  stored :=
    { stored := fun bytes hbytes r hr _ hc => .inl ⟨bytes, .inl hbytes, r, hr, hc⟩
      staged := fun bytes hbytes r hr _ hc => .inl ⟨bytes, .inr hbytes, r, hr, hc⟩ }

/-- Numbers in range are handed over and stored as they are. -/
theorem command_traced {command : IdCommand}
    (hfits : command.Accepts p payload → Fits payload command.fields) (w : World) :
    Traced payload w.board ((command.entry p).2 payload w).2 := by
  refine (command_gated command traced_storeInvariant.toLoadInvariant ?_ ?_ w
    (traced_self payload w)).1
  · intro haccepts request hcarries
    exact traced_takes ((requestFrom_iff_fits hcarries).mpr (hfits haccepts))
  · rintro rfl haccepts fields semantic hfields s record hs hrecord updated hupdated
    have hfrom := of_capabilityFields hfields
    exact traced_upsert hs hrecord
      ((capabilityFrom_iff_fits hfrom semantic).mpr (hfits haccepts)) hupdated

end Traced

/-! ## Runs in which no call fails -/

section Calm

variable {p : Platform} {payload : Json}

/-- A device with this id, and nothing else, is registered. -/
def withDevice (deviceId : CStr) : Board :=
  Board.erased.withStore (singleStore (namedRecord deviceId))

theorem deviceRegistryGetDevice_withDevice (deviceId : CStr) :
    (deviceRegistryGetDevice deviceId).run (World.calm (withDevice deviceId)) =
      (.ok (namedRecord deviceId), World.calm (withDevice deviceId)) := by
  apply deviceRegistryGetDevice_calm (read_withStore (accepted_singleStore (Nat.zero_le 8)))
  rw [devices_singleStore, List.find?_cons_of_pos (hasId_namedRecord deviceId)]

/-- The command hands over a request with its ids. -/
def HandsOver (p : Platform) (payload : Json) (command : IdCommand) : Prop :=
  ∃ w request, Carries payload command.fields request ∧ w.board.requests = [] ∧
    ((command.entry p).2 payload w).2.board.requests = [request]

theorem threadDatasetInit_handsOver (h : IdCommand.Accepts p payload .threadDatasetInit) :
    HandsOver p payload .threadDatasetInit := by
  obtain ⟨hchannel, hpanId, texts, htexts, hparse⟩ := h
  obtain ⟨channel, hchannel⟩ := Option.isSome_iff_exists.mp hchannel
  obtain ⟨panId, hpanId⟩ := Option.isSome_iff_exists.mp hpanId
  obtain ⟨dataset, hparse⟩ : ∃ dataset,
      parseDataset p (castUint16 channel) (castUint16 panId) texts = some dataset := by
    rw [← Option.isSome_iff_exists, parseDataset_eq, Option.isSome_map]
    exact hparse
  let b : Board := { Board.erased with
    openThread := { Board.erased.openThread with instanceExists := true } }
  refine ⟨World.calm b, _, carries_dataset hchannel hpanId hparse, rfl, ?_⟩
  show (threadDatasetInitBranch p payload _).2.board.requests = _
  unfold threadDatasetInitBranch threadDatasetInit
  rw [hchannel, hpanId, htexts]
  dsimp only
  rw [hparse]
  rfl

theorem clusterCommandInvoke_handsOver (h : IdCommand.Accepts p payload .clusterCommandInvoke) :
    HandsOver p payload .clusterCommandInvoke := by
  obtain ⟨hdestinationId, hpath, hdata⟩ := h
  obtain ⟨destinationId, hdestinationId⟩ := Option.isSome_iff_exists.mp hdestinationId
  obtain ⟨path, hpath⟩ := Option.isSome_iff_exists.mp hpath
  obtain ⟨data, hdata⟩ := Option.isSome_iff_exists.mp hdata
  refine ⟨World.calm Board.erased, _, carries_invoke hpath destinationId data, rfl, ?_⟩
  show (matterClusterCommandInvoke payload _).2.board.requests = _
  unfold matterClusterCommandInvoke
  rw [hdestinationId, hpath, hdata]
  rfl

theorem matterAttribute_handsOver {subscribe : Bool}
    (h : IdCommand.Accepts p payload (.matterAttribute subscribe)) :
    HandsOver p payload (.matterAttribute subscribe) := by
  obtain ⟨hnodeId, hpath, hinterval⟩ := h
  obtain ⟨nodeId, hnodeId⟩ := Option.isSome_iff_exists.mp hnodeId
  obtain ⟨path, hpath⟩ := Option.isSome_iff_exists.mp hpath
  cases subscribe with
  | false =>
      refine ⟨World.calm Board.erased, _, carries_read hpath nodeId, rfl, ?_⟩
      show (Messages.matterAttribute false payload _).2.board.requests = _
      unfold Messages.matterAttribute
      rw [hnodeId, hpath]
      rfl
  | true =>
      obtain ⟨interval, hinterval⟩ := Option.isSome_iff_exists.mp (hinterval rfl)
      refine ⟨World.calm Board.erased, _, carries_subscribe hpath hinterval nodeId, rfl, ?_⟩
      show (Messages.matterAttribute true payload _).2.board.requests = _
      unfold Messages.matterAttribute
      rw [hnodeId, hpath, hinterval]
      rfl

theorem deviceAttribute_handsOver {subscribe : Bool}
    (h : IdCommand.Accepts p payload (.deviceAttribute subscribe)) :
    HandsOver p payload (.deviceAttribute subscribe) := by
  obtain ⟨hdeviceId, hpath, hinterval⟩ := h
  obtain ⟨deviceId, hdeviceId⟩ := Option.isSome_iff_exists.mp hdeviceId
  obtain ⟨path, hpath⟩ := Option.isSome_iff_exists.mp hpath
  have hfound := deviceRegistryGetDevice_withDevice deviceId
  cases subscribe with
  | false =>
      refine ⟨World.calm (withDevice deviceId), _, carries_read hpath 0, rfl, ?_⟩
      show (Messages.deviceAttribute false payload _).2.board.requests = _
      unfold Messages.deviceAttribute
      rw [hdeviceId, hpath]
      dsimp only
      rw [onOk_run_ok hfound]
      rfl
  | true =>
      obtain ⟨interval, hinterval⟩ := Option.isSome_iff_exists.mp (hinterval rfl)
      refine ⟨World.calm (withDevice deviceId), _, carries_subscribe hpath hinterval 0, rfl, ?_⟩
      show (Messages.deviceAttribute true payload _).2.board.requests = _
      unfold Messages.deviceAttribute
      rw [hdeviceId, hpath, hinterval]
      dsimp only
      rw [onOk_run_ok hfound]
      rfl

/-- A capability is held exactly by the device that has it. -/
theorem held_withStore {b : Board} {s : RegistryStore} (hs : s.Accepted) (c : DeviceCapability) :
    Held (b.withStore s).registry c ↔ ∃ r ∈ s.devices, c ∈ r.capabilityList := by
  constructor
  · rintro ⟨bytes, hbytes | hbytes, r, hr, hc⟩
    · obtain rfl : registryStoreLayout.encode s = bytes := Option.some.inj hbytes
      rw [loadBlob_encode hs] at hr
      exact ⟨r, hr, hc⟩
    · cases hbytes
  · rintro ⟨r, hr, hc⟩
    refine ⟨registryStoreLayout.encode s, .inl rfl, r, ?_, hc⟩
    rw [loadBlob_encode hs]
    exact hr

/-- The capability that the payload describes comes to be held. -/
theorem capabilityAdd_holds (h : IdCommand.Accepts p payload .capabilityAdd) :
    ∃ w fields semantic, fields.From payload ∧ (∀ c, ¬Held w.board.registry c) ∧
      Held ((IdCommand.entry p .capabilityAdd).2 payload w).2.board.registry
        (newCapability payload fields semantic) := by
  obtain ⟨fields, semantic, hfields, hsemantic, hattribute⟩ := h
  have hfrom := of_capabilityFields hfields
  have hneeds : ¬(needsAttribute semantic = true ∧
      (newCapability payload fields semantic).attributeId = uint32Max) := hattribute
  have hnone : (namedRecord fields.deviceId).capabilityCount ≤ deviceRegistryCapabilityMax :=
    Nat.zero_le 8
  obtain ⟨updated, hupdated, hid, hnamed, hcount, hlist⟩ : ∃ updated,
      withCapability (namedRecord fields.deviceId) (newCapability payload fields semantic) =
        some updated ∧
      hasId updated.deviceId.toList (namedRecord fields.deviceId) = true ∧
      updated.deviceId.head ≠ 0 ∧ updated.capabilityCount ≤ deviceRegistryCapabilityMax ∧
      updated.capabilityList = [newCapability payload fields semantic] :=
    ⟨_, rfl, hasId_self (namedRecord fields.deviceId),
      named_namedRecord (isEmpty_of_requiredStringField hfrom.deviceId),
      Nat.le_of_ble_eq_true rfl, CountedArray.view_append _ (Nat.zero_lt_succ 7) _⟩
  obtain ⟨s, hs, hdevices, hrun⟩ := deviceRegistryUpsertDevice_singleStore (b := Board.erased)
    rfl hnone hid hnamed hcount
  have hregistry : (addCapabilityCommand payload
      (World.calm (withDevice fields.deviceId))).2.board.registry =
      (Board.erased.withStore s).registry := by
    unfold addCapabilityCommand
    rw [hfields]
    dsimp only
    rw [hsemantic]
    dsimp only
    rw [onOk_run_ok (deviceRegistryGetDevice_withDevice fields.deviceId),
      if_neg hneeds, hupdated]
    dsimp only
    rw [withDevice, onOk_run_ok hrun]
    rfl
  refine ⟨World.calm (withDevice fields.deviceId), fields, semantic, hfrom, ?_, ?_⟩
  · intro c hc
    obtain ⟨r, hr, hc⟩ := (held_withStore (accepted_singleStore hnone) c).mp hc
    rw [devices_singleStore] at hr
    obtain rfl := List.mem_singleton.mp hr
    cases hc
  · show Held (addCapabilityCommand payload _).2.board.registry _
    rw [hregistry, held_withStore hs]
    refine ⟨updated, ?_, ?_⟩
    · rw [hdevices]
      exact List.mem_singleton_self updated
    · rw [hlist]
      exact List.mem_singleton_self _

end Calm

/-! ## Commands -/

variable {cfg : Config} {p : Platform} {payload : Json} {command : IdCommand}

theorem fits_of_handsOver (h : HandsOver p payload command)
    (hfaithful : ∀ w, Faithful command payload w ((command.entry p).2 payload w).1
      ((command.entry p).2 payload w).2) : Fits payload command.fields := by
  obtain ⟨w, request, hcarries, hbefore, hafter⟩ := h
  obtain ⟨requests, heq, hall⟩ := (hfaithful w).handed
  rw [hbefore, hafter, List.nil_append] at heq
  exact (requestFrom_iff_fits hcarries).mp
    (hall request (heq ▸ List.mem_singleton_self request))

theorem fits_of_faithful (haccepts : command.Accepts p payload)
    (hfaithful : ∀ w, Faithful command payload w ((command.entry p).2 payload w).1
      ((command.entry p).2 payload w).2) : Fits payload command.fields := by
  cases command with
  | threadDatasetInit => exact fits_of_handsOver (threadDatasetInit_handsOver haccepts) hfaithful
  | deviceAttribute subscribe =>
      exact fits_of_handsOver (deviceAttribute_handsOver haccepts) hfaithful
  | matterAttribute subscribe =>
      exact fits_of_handsOver (matterAttribute_handsOver haccepts) hfaithful
  | clusterCommandInvoke =>
      exact fits_of_handsOver (clusterCommandInvoke_handsOver haccepts) hfaithful
  | capabilityAdd =>
      obtain ⟨w, fields, semantic, hfrom, hnone, hheld⟩ := capabilityAdd_holds haccepts
      rcases (hfaithful w).stored _ hheld with hbefore | hpayload
      · exact absurd hbefore (hnone _)
      · exact (capabilityFrom_iff_fits hfrom semantic).mp hpayload

/-- A command that fails without any effect is faithful. -/
theorem faithful_of_fails {w w' : World} {result : CommandExecutionResult} (hfails : Fails result)
    (hboard : w'.board = w.board) : Faithful command payload w result w' where
  handed := ⟨[], by rw [hboard, List.append_nil], fun _ h => absurd h List.not_mem_nil⟩
  stored c hc := by
    rw [hboard] at hc
    exact .inl hc
  refused _ _ _ _ _ := ⟨hfails, hboard⟩

theorem faithful_of_fits (hfits : command.Accepts p payload → Fits payload command.fields)
    (w : World) : Faithful command payload w ((command.entry p).2 payload w).1
      ((command.entry p).2 payload w).2 := by
  by_cases haccepts : command.Accepts p payload
  · have htraced := command_traced hfits w
    constructor
    · exact htraced.handed
    · rintro c ⟨bytes, hbytes | hbytes, r, hr, hc⟩
      · exact htraced.stored.stored bytes hbytes r hr c hc
      · exact htraced.stored.staged bytes hbytes r hr c hc
    · intro field hfield q hq hnot
      exact absurd (hfits haccepts field hfield q hq).representable hnot
  · obtain ⟨hfails, hboard⟩ := command_refused haccepts w
    exact faithful_of_fails hfails hboard

theorem processCommandMessage_compiled (h : command.Compiled cfg) :
    processCommandMessage cfg p (CStr.lit (command.entry p).1) = (command.entry p).2 := by
  apply processCommandMessage_of_mem
  cases command with
  | threadDatasetInit =>
      have hthread : branches cfg p = threadBranches cfg p ++
          (if cfg.enableWifiStation then [("wifi.sta_connect", wifiStaConnectBranch)] else []) ++
          deviceBranches ++ matterBranches cfg p := by
        rw [branches, if_pos (h rfl)]
      rw [hthread]
      simp [threadBranches, IdCommand.entry]
  | capabilityAdd => exact mem_branches_of_device (by simp [deviceBranches, IdCommand.entry])
  | deviceAttribute subscribe =>
      cases subscribe <;> exact mem_branches_of_device (by simp [deviceBranches, IdCommand.entry])
  | matterAttribute subscribe =>
      cases subscribe <;> exact mem_branches_of_matter (by simp [matterBranches, IdCommand.entry])
  | clusterCommandInvoke =>
      exact mem_branches_of_matter (by simp [matterBranches, IdCommand.entry])

/-- The only command that may be missing from a build. -/
theorem processCommandMessage_not_compiled (h : ¬command.Compiled cfg) :
    processCommandMessage cfg p (CStr.lit (command.entry p).1) payload =
      pure (unknownActionResult (CStr.lit "thread.dataset.init")) := by
  obtain ⟨rfl, hthread⟩ : command = .threadDatasetInit ∧ cfg.openthreadEnabled = false := by
    unfold IdCommand.Compiled at h
    simpa using h
  apply processCommandMessage_unhandled
  rintro ⟨branch, hbranch, hname⟩
  have hnone : ∀ b c d : Bool, CStr.lit "thread.dataset.init" ∉
      actions ⟨false, b, c, d⟩ (Platform.parsing "null" .null) := by decide +kernel
  have hmem : CStr.lit "thread.dataset.init" ∈ actions cfg p :=
    hname ▸ List.mem_map_of_mem hbranch
  obtain ⟨a, b, c, d⟩ := cfg
  obtain rfl : a = false := hthread
  rw [actions_eq _ p (Platform.parsing "null" .null)] at hmem
  exact hnone b c d hmem

/-- A command is faithful to its ids in every world, if and only if the numbers of a
payload that it accepts are in range. -/
theorem idCommand_faithful_iff (cfg : Config) (p : Platform) (command : IdCommand)
    (payload : Json) :
    (∀ w, Faithful command payload w
      (processCommandMessage cfg p (CStr.lit (command.entry p).1) payload w).1
      (processCommandMessage cfg p (CStr.lit (command.entry p).1) payload w).2) ↔
    (command.Compiled cfg → command.Accepts p payload → Fits payload command.fields) := by
  by_cases hcompiled : command.Compiled cfg
  · rw [processCommandMessage_compiled hcompiled]
    constructor
    · exact fun hfaithful _ haccepts => fits_of_faithful haccepts hfaithful
    · exact fun hfits => faithful_of_fits (hfits hcompiled)
  · rw [processCommandMessage_not_compiled hcompiled]
    constructor
    · exact fun _ hyes => absurd hyes hcompiled
    · exact fun _ w => faithful_of_fails ⟨_, rfl⟩ rfl

/-- An attribute of a cluster that a vendor has defined. -/
def vendorAttribute : Json :=
  .object
    [(CStr.lit "node_id", .string (CStr.lit "1")), (CStr.lit "endpoint_id", .number 1),
     (CStr.lit "cluster_id", .number 0xFFF1FC00), (CStr.lit "attribute_id", .number 0)]

/-- The command that reads it, where no call fails. -/
def vendorRun : CommandExecutionResult × World :=
  processCommandMessage Config.full (Platform.parsing "null" .null)
    (CStr.lit "matter.attribute_read") vendorAttribute (World.calm Board.erased)

/-- An attribute of another cluster is read. -/
theorem vendorAttribute_not_faithful :
    vendorRun.2.board.requests = [.readAttribute 1 1 0x7FFFFFFF 0] ∧
      ¬Faithful (.matterAttribute false) vendorAttribute (World.calm Board.erased)
        vendorRun.1 vendorRun.2 := by
  have hrequests : vendorRun.2.board.requests = [.readAttribute 1 1 0x7FFFFFFF 0] := by
    decide +kernel
  refine ⟨hrequests, ?_⟩
  intro hfaithful
  obtain ⟨requests, heq, hall⟩ := hfaithful.handed
  have hmem : Request.readAttribute 1 1 0x7FFFFFFF 0 ∈ requests := by
    have hsame : vendorRun.2.board.requests = requests := heq
    rw [← hsame, hrequests]
    exact List.mem_singleton_self _
  have hnumber := hall _ hmem ("cluster_id", 0x7FFFFFFF) (by decide)
  revert hnumber
  decide +kernel

end Orchestrator.Messages

import Orchestrator.System.Service

/-!
# What a client knows of the directory

Every write of the registry is announced to all clients with `device.registry_changed`. A
client that has asked for the directory therefore knows it until this event comes: what it was
told is what it would be told again.
-/

namespace Orchestrator.System

open Lib Handler Registry Server State Commands Messages Events

variable {E : Type} {f : Firmware E} {w : World} {fd : Int} {b b' : Board} {c : Flash}

/-- The client gets the event that the registry has changed. -/
def Told (fd : Int) (frames : List (Int × Json)) : Prop :=
  ∃ message, (fd, message) ∈ frames ∧ isRegistryChanged message = true

/-- The blob of `b` is still there, unless the client has been told otherwise. -/
def KeptOrTold (fd : Int) (b b' : Board) : Prop :=
  ∃ frames, b'.outbox = b.outbox ++ frames ∧
    (b'.registry.stored.join = b.registry.stored.join ∨ Told fd frames)

/-- The client is connected, and what is sent to it is queued. -/
structure Reachable (fd : Int) (w : World) : Prop extends SendsSucceed w where
  allocs : w.allocs = allSucceed
  connected : (fd, true) ∈ w.board.sessions

/-- The client is reachable whenever a message comes, from whomever. -/
def Attended (f : Firmware E) (fd : Int) (inputs : List (Input E)) (w : World) : Prop :=
  ∀ before input after, inputs = before ++ input :: after → input.IsMessage →
    Reachable fd (f.run before w)

/-! ## What is kept or told -/

theorem Told.append_left {frames : List (Int × Json)} (more : List (Int × Json))
    (h : Told fd frames) : Told fd (more ++ frames) := by
  obtain ⟨message, hmem, hchanged⟩ := h
  exact ⟨message, List.mem_append_right _ hmem, hchanged⟩

theorem Told.append_right {frames : List (Int × Json)} (more : List (Int × Json))
    (h : Told fd frames) : Told fd (frames ++ more) := by
  obtain ⟨message, hmem, hchanged⟩ := h
  exact ⟨message, List.mem_append_left _ hmem, hchanged⟩

/-- Where no frame is the event, the client has not been told. -/
theorem not_told_of_silent {frames : List (Int × Json)}
    (h : ∀ frame ∈ b'.outbox, isRegistryChanged frame.2 = false)
    (houtbox : b'.outbox = b.outbox ++ frames) : ¬Told fd frames := by
  rintro ⟨message, hmem, hchanged⟩
  rw [houtbox] at h
  cases hchanged.symm.trans (h _ (List.mem_append_right _ hmem))

theorem KeptOrTold.of_eq (houtbox : b'.outbox = b.outbox)
    (hstored : b'.registry.stored.join = b.registry.stored.join) : KeptOrTold fd b b' :=
  ⟨[], by rw [houtbox, List.append_nil], .inl hstored⟩

theorem KeptOrTold.refl (b : Board) : KeptOrTold fd b b := .of_eq rfl rfl

theorem KeptOrTold.trans {b'' : Board} (h : KeptOrTold fd b b') (h' : KeptOrTold fd b' b'') :
    KeptOrTold fd b b'' := by
  obtain ⟨frames, houtbox, hkept⟩ := h
  obtain ⟨frames', houtbox', hkept'⟩ := h'
  refine ⟨frames ++ frames', by rw [houtbox', houtbox, List.append_assoc], ?_⟩
  rcases hkept with hkept | htold
  · exact hkept'.imp (fun heq => heq.trans hkept) (Told.append_left frames)
  · exact .inr (htold.append_right frames')

theorem KeptOrTold.queueWork (h : KeptOrTold fd b b') (fd' : Int) (message : Json) :
    KeptOrTold fd b (queueWork fd' message b') := by
  obtain ⟨frames, houtbox, hkept⟩ := h
  refine ⟨frames ++ [(fd', message)], ?_, hkept.imp_right (Told.append_right _)⟩
  rw [← List.append_assoc, ← houtbox]
  rfl

/-! ## Commands -/

theorem reachable_unforeseen : UnforeseenNvs (Reachable fd) where
  allocs w h :=
    { h with
      toSendsSucceed := sendsSucceed_unforeseen.allocs w h.toSendsSucceed
      allocs := (congrArg Stream'.tail h.allocs).trans (Stream'.tail_const true) }
  heap w h := { h with toSendsSucceed := sendsSucceed_unforeseen.heap w h.toSendsSucceed }
  httpd w h := { h with toSendsSucceed := sendsSucceed_unforeseen.httpd w h.toSendsSucceed }
  stack _ h := { h with }
  nvs _ _ h := { h with }

/-- The client is reachable, and since `b` the registry has been kept or it has been told. -/
structure Watched (fd : Int) (b : Board) (w : World) : Prop extends Reachable fd w where
  keptOrTold : KeptOrTold fd b w.board

theorem watched_callInvariant (b : Board) : CallInvariant (Watched fd b) where
  allocs w h := { h with toReachable := reachable_unforeseen.allocs w h.toReachable }
  heap w h := { h with toReachable := reachable_unforeseen.heap w h.toReachable }
  httpd w h := { h with toReachable := reachable_unforeseen.httpd w h.toReachable }
  stack _ h := { h with }
  nvs _ _ h := { h with }
  request _ _ h := { h with }

theorem Watched.queueWork (h : Watched fd b w) (fd' : Int) (message : Json) :
    Watched fd b { w with board := queueWork fd' message w.board } :=
  { h with keptOrTold := h.keptOrTold.queueWork fd' message }

theorem snapshot_watched (b : Board) :
    Esp.Keeps (Watched fd b) orchestratorStateBroadcastSnapshot fun _ => True :=
  broadcastSnapshot_keeps (watched_callInvariant b).toUnforeseen
    fun message fd' _ h => h.queueWork fd' message

/-- A save that has succeeded is told to every client. -/
theorem announce_watched (hw : Reachable fd w) (t : RegistryStore) (k : Nat) :
    Watched fd w.board (announce.run
      { w with
        board := w.board.withStore t
        nvs := w.nvs.drop k }).2 := by
  let u : World :=
    { w with
      board := w.board.withStore t
      nvs := w.nvs.drop k }
  let message := eventTree (CStr.lit "device.registry_changed")
  let told : World :=
    { u with board := queueEach (websocketClients u.board.sessions) message u.board }
  have hsends : SendsSucceed u := { hw with }
  have hevent : (orchestratorStateBroadcastEvent (CStr.lit "device.registry_changed") none).run u =
      (.ok ⟨⟩, told) := by
    unfold orchestratorStateBroadcastEvent
    rw [Esp.run_liftM_bind (m := getBoard) (w := u) rfl]
    simp only [hsends.running, Bool.true_eq_false, if_false]
    have htree : (ExceptT.mk (allocate (eventMessage (CStr.lit "device.registry_changed") none)) :
        Esp Json).run u = (.ok message, u) := allocate_eq hw.allocs (eventMessage_yields _)
    rw [Esp.run_bind_ok htree]
    exact websocketBroadcastMessage_succeeds hsends message
  have htold : Watched fd w.board told := by
    refine { hw with keptOrTold := ⟨_, rfl, .inr ⟨message, ?_, by decide⟩⟩ }
    have hclient : fd ∈ websocketClients w.board.sessions :=
      List.mem_map.mpr ⟨(fd, true), List.mem_filter.mpr ⟨hw.connected, rfl⟩, rfl⟩
    exact List.mem_map.mpr ⟨fd, hclient, rfl⟩
  have hrun : announce.run u = (ignore orchestratorStateBroadcastSnapshot).run told := by
    have hignore : (ignore (orchestratorStateBroadcastEvent
        (CStr.lit "device.registry_changed") none)).run u = (.ok ⟨⟩, told) := by
      unfold ignore
      rw [ExceptT.run_mk, bind_apply, hevent]
      rfl
    exact Esp.run_bind_ok hignore
  show Watched fd w.board (announce.run u).2
  rw [hrun]
  exact ((snapshot_watched w.board).ignore told htold).1

theorem saveAndNotify_watched (t : RegistryStore) :
    Esp.Keeps (Watched fd b) (saveAndNotify t) fun _ => True := by
  intro w hw
  refine ⟨?_, fun _ _ => trivial⟩
  have hsave : Esp.Keeps (Reachable fd) (saveStore t) fun _ => True :=
    saveStore_keeps (B := fun _ => True) reachable_unforeseen
      (fun _ _ => RegistryNvs.all_true _) (fun _ _ h _ _ => { h with }) trivial
  have hparts : saveAndNotify t = saveStore t >>= fun _ => announce := rfl
  rw [hparts]
  obtain ⟨-, hrun⟩ | ⟨-, e, w', hrun, hsame⟩ := saveStore_cases t w
  · rw [Esp.run_bind_ok hrun]
    have htold := announce_watched hw.toReachable t 3
    exact { htold with keptOrTold := hw.keptOrTold.trans htold.keptOrTold }
  · rw [Esp.run_bind_error hrun]
    have hreachable := (hsave w hw.toReachable).1
    rw [hrun] at hreachable
    exact
      { hreachable with
        keptOrTold := hw.keptOrTold.trans (.of_eq hsame.outbox hsame.stored) }

theorem watched_loadInvariant (b : Board) :
    LoadInvariant (StoredStrings fun _ => True) (Watched fd b) where
  toUnforeseen := (watched_callInvariant b).toUnforeseen
  load := loadStore_keeps (watched_callInvariant b).toUnforeseenNvs fun _ _ _ hread =>
    storedStrings_true (RegistryNvs.accepted_of_read hread)

theorem update_watched (target : RegistryStore → EspResult RegistryStore) :
    Esp.Keeps (Watched fd b) (update target) fun _ => True := by
  apply load_keeps (watched_loadInvariant b)
  intro s _
  cases target s with
  | error e => exact Esp.Keeps.throw
  | ok t => exact saveAndNotify_watched t

theorem upsertDevice_watched (record : DeviceRecord) :
    Esp.Keeps (Watched fd b) (deviceRegistryUpsertDevice record) fun _ => True := by
  by_cases hvalid : record.deviceId[0] = 0 ∨ deviceRegistryCapabilityMax < record.capabilityCount
  · unfold deviceRegistryUpsertDevice
    rw [if_pos hvalid]
    exact Esp.Keeps.throw
  · rw [deviceRegistryUpsertDevice_eq hvalid]
    exact update_watched _

theorem watched_readInvariant (p : Platform) (b : Board) :
    ReadInvariant p (fun _ => True) (Watched fd b) where
  toCallInvariant := watched_callInvariant b
  load := (watched_loadInvariant b).load
  event := broadcastEvent_keeps (watched_callInvariant b).toUnforeseen
    fun message fd' _ h => h.queueWork fd' message
  snapshot := snapshot_watched b
  texts := texts_true
  role _ := trivial
  openThread _ _ := ⟨fun _ _ => trivial, fun _ _ => trivial, fun _ _ => trivial⟩
  state _ _ := ⟨trivial, trivial⟩
  wifi _ _ h := { h with }
  initialized _ h := { h with }

theorem report_watched {op : Esp Unit} (hop : Esp.Keeps (Watched fd b) op fun _ => True) :
    Keeps (Watched fd b) (report op) fun _ => True :=
  Keeps.bind hop fun _ _ => Keeps.pure trivial

theorem deviceRemove_watched (payload : Json) :
    Keeps (Watched fd b) (deviceRemove payload) fun _ => True := by
  unfold deviceRemove
  split
  · exact Keeps.pure trivial
  · rw [deviceRegistryRemoveDevice_eq]
    exact report_watched (update_watched _)

theorem deviceRename_watched (payload : Json) :
    Keeps (Watched fd b) (deviceRename payload) fun _ => True := by
  unfold deviceRename
  split
  · rw [deviceRegistryRenameDevice_eq]
    exact report_watched (update_watched _)
  · exact Keeps.pure trivial

theorem addCapabilityCommand_watched (payload : Json) :
    Keeps (Watched fd b) (addCapabilityCommand payload) fun _ => True := by
  refine addCapabilityCommand_triple (J := Watched fd b) (D := fun _ _ _ => True)
    (fun _ hw => hw) (fun _ _ _ _ hw => ⟨hw, trivial⟩) ?_ ?_
  · intro deviceId w hw
    exact ⟨(deviceRegistryGetDevice_keeps (watched_loadInvariant b) deviceId w hw).1,
      fun _ _ => trivial⟩
  · intro fields semantic record updated _ w hw
    exact storeCapability_keeps (watched_callInvariant b).toUnforeseen
      (upsertDevice_watched updated) _ w hw.1

theorem matterPairBleThread_watched (payload : Json) :
    Keeps (Watched fd b) (matterPairBleThread payload) fun _ => True := by
  unfold matterPairBleThread
  split
  · exact report_watched (pairBleThread_keeps (watched_callInvariant b).toUnforeseen
      (watched_callInvariant b).request (upsertDevice_watched _) _ _)
  · exact Keeps.pure trivial

/-- Every command that writes the registry tells it. -/
theorem processCommandMessage_watched (cfg : Config) (p : Platform) (action : CStr)
    (payload : Json) :
    Keeps (Watched fd b) (processCommandMessage cfg p action payload) fun _ => True := by
  by_cases hreads : ∀ name ∈ registryActions, action ≠ CStr.lit name
  · exact processCommandMessage_reads (watched_readInvariant p b) hreads
      (Json.allStrings_of_forall (fun _ => trivial) payload)
  · push Not at hreads
    obtain ⟨name, hname, rfl⟩ := hreads
    have hbranch (command : DirectoryCommand) :
        processCommandMessage cfg p (CStr.lit command.entry.1) payload =
          command.entry.2 payload :=
      congrFun (processCommandMessage_of_mem (command.mem_branches cfg p)) payload
    simp only [registryActions, List.mem_cons, List.not_mem_nil, or_false] at hname
    rcases hname with rfl | rfl | rfl | rfl
    · exact hbranch .pair ▸ matterPairBleThread_watched payload
    · exact hbranch .add ▸ addCapabilityCommand_watched payload
    · exact hbranch .rename ▸ deviceRename_watched payload
    · exact hbranch .remove ▸ deviceRemove_watched payload

/-! ## Inputs -/

variable {inputs : List (Input E)}

theorem reachable_received (h : Reachable fd w) : Reachable fd (received w) :=
  reachable_unforeseen.heap _ (reachable_unforeseen.httpd _ (reachable_unforeseen.httpd _ h))

/-- A message whose frame is received is handled while the client is watched. -/
theorem handle_watched {input : Input E} (hmessage : input.IsMessage) (h : Reachable fd w) :
    (f.handle input w).2.board = w.board ∨ Watched fd w.board (f.handle input w).2 := by
  obtain ⟨bytes, fd', rfl, hbytes⟩ := exists_frame_of_isMessage hmessage
  rcases handle_message (f := f) (w := w) fd' hbytes with ⟨heap, httpd, heq, -⟩ | heq
  · rw [heq]
    exact .inl rfl
  · rw [heq]
    have hhandle : Esp.Keeps (Watched fd w.board)
        (handleJsonInboundMessage f.config f.platform (CStr.ofBytes bytes) fd')
        fun _ => True := by
      apply handleJsonInboundMessage_keeps (P := fun _ => True) texts_true
        (Platform.strings_any f.platform) (watched_callInvariant w.board).toUnforeseen
        (fun message _ fd'' _ hw => hw.queueWork fd'' message) trivial
      intro envelope _ u hu
      exact ⟨(processCommandMessage_watched f.config f.platform _ _ u hu).1,
        processCommandMessage_strings_true _ _ _ _ _⟩
    have hreceived := reachable_received h
    exact .inr (hhandle (received w) { hreceived with keptOrTold := .refl w.board }).1

theorem handle_keptOrTold (input : Input E) (h : input.IsMessage → Reachable fd w) :
    KeptOrTold fd w.board (f.handle input w).2.board := by
  by_cases hmessage : input.IsMessage
  · rcases handle_watched (f := f) hmessage (h hmessage) with hkept | hwatched
    · rw [hkept]
      exact .refl w.board
    · exact hwatched.keptOrTold
  · have hI : UnforeseenNvs fun u => KeptOrTold fd w.board u.board :=
      unforeseen_board (KeptOrTold fd w.board)
    have hevents := EventInvariant.of_queue hI (fun message fd' _ hu => hu.queueWork fd' message)
      (fun _ _ hu => hu) (fun _ _ hu => hu) fun _ hu => hu
    exact (handle_keeps (f := f) hevents (fun _ _ _ hu => hu) hmessage w (.refl w.board)).1

theorem run_keptOrTold (f : Firmware E) (inputs : List (Input E)) (w : World)
    (h : Attended f fd inputs w) : KeptOrTold fd w.board (f.run inputs w).board := by
  induction inputs using List.reverseRecOn with
  | nil => exact .refl w.board
  | append_singleton inputs input ih =>
      rw [run_append]
      have hbefore : Attended f fd inputs w := by
        rintro before i after rfl hmessage
        exact h before i (after ++ [input]) (by simp) hmessage
      exact (ih hbefore).trans (handle_keptOrTold input (h inputs input [] rfl))

/-! ## Answers -/

variable {bytes : List UInt8} {action id name : CStr} {payload : Json}
  {members : List (CStr × Json)}

theorem members_of_replyTo {envelope : Envelope} {result : CommandExecutionResult} {reply : Json}
    (h : ReplyTo envelope result reply) (hreply : reply = successTree id name members) :
    result.err = .ok ⟨⟩ ∧ result.members = members := by
  cases h with
  | success hok =>
      obtain ⟨-, -, hmembers⟩ : envelope.requestId = id ∧ envelope.action = name ∧
          result.members = members := by simpa [successTree, resultHeader] using hreply
      exact ⟨hok, hmembers⟩
  | failure code message herr =>
      have hok : some (Json.bool false) = some (Json.bool true) :=
        congrArg (fun message => member (some message) "ok") hreply
      cases hok

/-- A frame that is replied to with success has been answered from the directory. -/
theorem answered_of_reply (hallocs : w.allocs = allSucceed) (hc : InFlash c w.board.registry)
    (hcarries : (Input.frame ⟨.text, bytes⟩ fd : Input E).Carries f action payload)
    (hreply : replies (f.handle (.frame ⟨.text, bytes⟩ fd) w).2.board.outbox =
      replies w.board.outbox ++ [(fd, successTree id name members)]) :
    ∃ c', Answered (FlashWorks (received w)) c payload action members c' ∧
      InFlash c' (f.handle (.frame ⟨.text, bytes⟩ fd) w).2.board.registry := by
  obtain ⟨requestId, hcheck⟩ := hcarries
  have hqueued : replies (f.handle (.frame ⟨.text, bytes⟩ fd) w).2.board.outbox ≠
      replies w.board.outbox := by simp [hreply]
  obtain ⟨-, heq⟩ := handled_of_replied hallocs hqueued
  obtain ⟨result, sending, hrun⟩ : ∃ result sending, processCommandMessage f.config f.platform
      action payload (received w) = (result, sending) := ⟨_, _, rfl⟩
  have hperforms := processCommandMessage_answered (w := received w) f.config f.platform
    action payload hallocs hc
  have hsince := (processCommandMessage_keepsAny f.config (since_commandInvariant w f.platform)
    action payload (received w) (since_received w)).1
  rw [hrun] at hperforms hsince
  obtain ⟨honly, reply, hanswer, hsend⟩ := handleJsonInboundMessage_command (w := received w) fd
    hallocs hcheck hrun
  rw [heq, hsend] at hqueued hreply ⊢
  have hsent : reply = successTree id name members := by
    rcases send_replied fd (w := w) ⟨hallocs, rfl⟩ honly hanswer.isReply hsince with
      ⟨hlost, -⟩ | hone
    · exact absurd hlost.replies hqueued
    · simpa using List.append_cancel_left (hone.replies.symm.trans hreply)
  obtain ⟨hok, rfl⟩ := members_of_replyTo hanswer hsent
  obtain ⟨-, c', hanswered, hc'⟩ | ⟨⟨err, herr⟩, -⟩ := hperforms
  · exact ⟨c', hanswered, send_inFlash fd reply hc'⟩
  · cases hok.symm.trans herr

/-- While a client is connected and no send fails: what it has been told of the directory is
what the directory in flash would answer again, until it gets the event that the registry
has changed. -/
theorem answer_current_until_told (f : Firmware E) (after : List (Input E)) {w : World} {c : Flash}
    {command : DirectoryCommand} {bytes : List UInt8} {fd : Int} {id name : CStr} {payload : Json}
    {members : List (CStr × Json)} (hallocs : w.allocs = allSucceed)
    (hflash : InFlash c w.board.registry) (hreads : command = .list ∨ command = .get)
    (hcarries : (Input.frame ⟨.text, bytes⟩ fd : Input E).Carries f (CStr.lit command.entry.1)
      payload)
    (hreply : replies (f.handle (.frame ⟨.text, bytes⟩ fd) w).2.board.outbox =
      replies w.board.outbox ++ [(fd, successTree id name members)])
    (hattended : Attended f fd after (f.handle (.frame ⟨.text, bytes⟩ fd) w).2)
    (hquiet : ∀ frames, (f.run after (f.handle (.frame ⟨.text, bytes⟩ fd) w).2).board.outbox =
      (f.handle (.frame ⟨.text, bytes⟩ fd) w).2.board.outbox ++ frames → ¬Told fd frames) :
    ∃ c', Serves c' payload command members c' ∧ Registry.Holds c'.directory
      (f.run after (f.handle (.frame ⟨.text, bytes⟩ fd) w).2).board := by
  obtain ⟨c', hanswered, hc'⟩ := answered_of_reply hallocs hflash hcarries hreply
  obtain ⟨frames, houtbox, hkept | htold⟩ := run_keptOrTold f after _ hattended
  · have hpair : command ≠ .pair := by rcases hreads with rfl | rfl <;> decide
    have hserves := hanswered.serves rfl hpair
    have hstill : Registry.Holds c'.directory
        (f.run after (f.handle (.frame ⟨.text, bytes⟩ fd) w).2).board := by
      obtain ⟨s, hs, hread⟩ := hc'.holds
      exact ⟨s, hs, (read_congr hkept).trans hread⟩
    rcases hreads with rfl | rfl
    · cases hserves
      exact ⟨c, .list, hstill⟩
    · cases hserves with
      | get hid hr => exact ⟨c, .get hid hr, hstill⟩
  · exact absurd htold (hquiet frames houtbox)

def listText : String := commandText "device.list" ""

def listFirmware : Firmware (Datum ⊕ List Datum) :=
  parsingFirmware listText (commandRoot "device.list" (.object []))

/-- Another client connects, and the first one asks for the devices again. -/
def listedAgain : List (Input (Datum ⊕ List Datum)) :=
  [.elsewhere [(1, true), (2, true)] Board.erased.openThread, textFrame listText]

/-- The client that has asked for the devices is still attended when it asks again. -/
theorem attended_listedAgain {w : World} (h : Reachable 1 w) :
    Attended listFirmware 1 listedAgain w := by
  intro before input rest hinputs hmessage
  cases before with
  | nil =>
      obtain ⟨rfl, -⟩ := List.cons.inj hinputs
      exact hmessage.elim
  | cons first before =>
      obtain ⟨rfl, hinputs⟩ := List.cons.inj hinputs
      cases before with
      | nil => exact { h with connected := List.mem_cons_self }
      | cons second before => exact absurd (List.cons.inj hinputs).2 (by simp)

theorem answer_current_until_told_garden :
    ∃ members c', Serves c' (.object []) .list members c' ∧ Registry.Holds c'.directory
      (listFirmware.run listedAgain
        (listFirmware.handle (textFrame listText) gardenLife.world).2).board := by
  have hcheck : checkEnvelope (listFirmware.platform.cJSONParse (CStr.lit listText)) =
      .ok ⟨CStr.lit "r1", CStr.lit "device.list", .object []⟩ := by
    have hparse : listFirmware.platform.cJSONParse (CStr.lit listText) =
        some (commandRoot "device.list" (.object [])) := Platform.cJSONParse_parsing _ _
    rw [hparse]
    rfl
  have hcarries := carries_textFrame hcheck
  have hnonempty : listText.toByteArray.data.toList ≠ [] := by decide +kernel
  have hsucceeds : Succeeds listFirmware listText.toByteArray.data.toList 1 gardenLife.world := by
    apply succeeds_of_ok (Platform.errorNames_parsing _ _) rfl ⟨rfl, rfl, rfl⟩ hnonempty hcarries
    decide +kernel
  have hlist : DirectoryCommand.list = .list ∨ DirectoryCommand.list = .get := .inl rfl
  have hquiet : ∀ frame ∈ (listFirmware.run listedAgain (listFirmware.handle
      (.frame ⟨.text, listText.toByteArray.data.toList⟩ 1) gardenLife.world).2).board.outbox,
      isRegistryChanged frame.2 = false := by decide +kernel
  obtain ⟨id, name, members, hreply⟩ := hsucceeds
  refine ⟨members, answer_current_until_told listFirmware listedAgain rfl (c := ⟨garden, none⟩)
    inFlash_gardenLife hlist hcarries hreply ?_ ?_⟩
  · have hreachable : Reachable 1 gardenLife.world :=
      { running := rfl
        heap := rfl
        httpd := rfl
        allocs := rfl
        connected := List.mem_cons_self }
    have hmessage : (Input.frame ⟨.text, listText.toByteArray.data.toList⟩ 1 :
        Input (Datum ⊕ List Datum)).IsMessage := hnonempty
    rcases handle_watched (f := listFirmware) hmessage hreachable with hkept | hwatched
    · have hsame := congrArg (fun b : Board => replies b.outbox) hkept
      exact absurd (hsame.symm.trans hreply) (by simp)
    · exact attended_listedAgain hwatched.toReachable
  · exact fun frames houtbox => not_told_of_silent hquiet houtbox

end Orchestrator.System

import Orchestrator.Commands.Platform
import Orchestrator.Lib.Relational

/-!
# What is secret

The passwords in flash, the keys of the Thread network and what is handed to other stacks
of them. Two worlds are alike when they differ in nothing else. A program is blind when from
worlds that are alike it returns the same and leaves worlds that are alike.
-/

namespace Orchestrator

open Lib Handler

/-! ## Worlds that are alike -/

/-- The dataset without its keys. -/
def OperationalDataset.hidden (dataset : OperationalDataset) : OperationalDataset :=
  { dataset with
    networkKey := Vector.replicate 16 0
    pskc := Vector.replicate 16 0 }

/-- The TLVs contain the keys; only how long they are is not secret. -/
def OpenThread.hidden (openThread : OpenThread) : OpenThread :=
  { openThread with
    activeDataset := openThread.activeDataset.map OperationalDataset.hidden
    activeDatasetTlvs := openThread.activeDatasetTlvs.map fun tlvs =>
      List.replicate tlvs.length 0 }

/-- The namespace with what was saved as passwords replaced by empty strings. -/
def WifiNvs.hidden (n : WifiNvs) : WifiNvs :=
  { n with
    staPassword := n.staPassword.map fun _ => default
    apPassword := n.apPassword.map fun _ => default }

/-- The setup code of a device is secret as well. -/
def Request.hidden : Request → Request
  | datasetSetActive dataset => datasetSetActive dataset.hidden
  | wifiSetApConfig ssid _ => wifiSetApConfig ssid default
  | wifiSetConfig ssid _ => wifiSetConfig ssid default
  | pairingBleThread nodeId _ discriminator dataset =>
      pairingBleThread nodeId 0 discriminator (List.replicate dataset.length 0)
  | request => request

def Board.hidden (b : Board) : Board :=
  { b with
    wifi := b.wifi.hidden
    openThread := b.openThread.hidden
    requests := b.requests.map Request.hidden }

def World.hidden (w : World) : World := { w with board := w.board.hidden }

/-- The worlds differ only in secrets. -/
def Alike (w w' : World) : Prop := w.hidden = w'.hidden

namespace Alike

variable {w w' : World}

theorem result {α : Type} {f : World → α} (h : Alike w w') (hf : ∀ v : World, f v.hidden = f v) :
    f w = f w' := by
  rw [← hf w, ← hf w']
  exact congrArg f h

theorem update {f : World → World} (h : Alike w w') (hf : ∀ v, (f v).hidden = f v.hidden) :
    Alike (f w) (f w') := by
  unfold Alike
  rw [hf, hf]
  exact congrArg f h

end Alike

/-- The program does not depend on secrets. -/
def Handler.Blind {α : Type} (m : Handler α) : Prop := Related Alike m m Eq

namespace Handler

variable {α β : Type} {m : Handler α}

theorem Blind.pure (a : α) : Blind (pure a : Handler α) := Related.pure rfl

theorem Blind.bind {f : α → Handler β} (hm : Blind m) (hf : ∀ a, Blind (f a)) :
    Blind (m >>= f) := by
  refine Related.bind hm ?_
  rintro a _ rfl
  exact hf a

/-- A call takes the next outcome of its kind. -/
theorem blind_of_hidden (hresult : ∀ v : World, (m v.hidden).1 = (m v).1)
    (hstate : ∀ v : World, (m v).2.hidden = (m v.hidden).2) : Blind m :=
  fun _ _ h => ⟨h.result (f := fun v => (m v).1) hresult, h.update (f := fun v => (m v).2) hstate⟩

theorem allocate_blind (m : Alloc α) : Blind (allocate m) :=
  blind_of_hidden (fun _ => rfl) fun _ => rfl

theorem malloc_blind : Blind malloc := blind_of_hidden (fun _ => rfl) fun _ => rfl

theorem httpdOutcome_blind : Blind httpdOutcome := blind_of_hidden (fun _ => rfl) fun _ => rfl

theorem stackOutcome_blind : Blind stackOutcome := blind_of_hidden (fun _ => rfl) fun _ => rfl

/-- The outcome of an NVS call is the same, and so is the record of its failure. -/
theorem nvsOutcome_hidden (w : World) :
    nvsOutcome w.hidden = ((nvsOutcome w).1, (nvsOutcome w).2.hidden) := by
  unfold nvsOutcome
  simp only [modifyGet, MonadStateOf.modifyGet, StateT.modifyGet, World.hidden]
  cases w.nvs.head with
  | none => rfl
  | some failure => rfl

theorem nvsOutcome_blind : Blind nvsOutcome :=
  blind_of_hidden (fun v => (Prod.mk.inj (nvsOutcome_hidden v)).1)
    fun v => (Prod.mk.inj (nvsOutcome_hidden v)).2.symm

/-- Updates that differ in what they do to secrets. -/
theorem modifyBoard_related {f g : Board → Board}
    (h : ∀ b b', b.hidden = b'.hidden → (f b).hidden = (g b').hidden) :
    Related Alike (modifyBoard f) (modifyBoard g) Eq := by
  intro w w' hw
  have hboard := h w.board w'.board (congrArg World.board hw)
  refine ⟨rfl, ?_⟩
  show { w.hidden with board := (f w.board).hidden } =
    { w'.hidden with board := (g w'.board).hidden }
  rw [hboard, hw]

/-- An update that leaves secrets alone. -/
theorem modifyBoard_blind {f : Board → Board} (h : ∀ b, (f b).hidden = f b.hidden) :
    Blind (modifyBoard f) :=
  modifyBoard_related fun b b' hb => by rw [h, h, hb]

/-- What is done with the board does not depend on its secrets. -/
theorem getBoard_blind {f : Board → Handler β} (hf : ∀ b, f b.hidden = f b)
    (h : ∀ b, Blind (f b)) : Blind (getBoard >>= f) := by
  intro w w' hw
  have hboard : f w.board = f w'.board := by
    rw [← hf w.board, ← hf w'.board]
    exact congrArg (fun v : World => f v.board) hw
  show (f w.board w).1 = (f w'.board w').1 ∧ Alike (f w.board w).2 (f w'.board w').2
  rw [← hboard]
  exact h w.board w w' hw

theorem hand_related {request request' : Request} (h : request.hidden = request'.hidden) :
    Related Alike (hand request) (hand request') Eq := by
  refine modifyBoard_related fun b b' hb => ?_
  have hrequests : b.requests.map Request.hidden = b'.requests.map Request.hidden :=
    congrArg Board.requests hb
  show { b.hidden with requests := (b.requests ++ [request]).map Request.hidden } =
    { b'.hidden with requests := (b'.requests ++ [request']).map Request.hidden }
  rw [List.map_append, List.map_append, hrequests, hb, List.map_singleton, List.map_singleton, h]

end Handler

/-! ## Functions that may fail -/

/-- Both succeed, or both fail with one error. -/
inductive SameResult {α β : Type} (S : α → β → Prop) : EspResult α → EspResult β → Prop
  | ok {a : α} {b : β} (h : S a b) : SameResult S (.ok a) (.ok b)
  | error (err : EspErr) : SameResult S (.error err) (.error err)

theorem sameResult_eq {α : Type} {r r' : EspResult α} : SameResult Eq r r' ↔ r = r' := by
  constructor
  · intro h
    cases h with
    | ok h => rw [h]
    | error err => rfl
  · rintro rfl
    cases r with
    | ok a => exact .ok rfl
    | error err => exact .error err

namespace Esp

variable {α β γ δ : Type} {S : α → β → Prop} {T : γ → δ → Prop}

/-- From worlds that are alike both functions succeed with related values, or fail alike. -/
def Related (m : Esp α) (n : Esp β) (S : α → β → Prop) : Prop :=
  Lib.Related Alike (m.run : Handler (EspResult α)) (n.run : Handler (EspResult β)) (SameResult S)

/-- The function does not depend on secrets. -/
def Blind (m : Esp α) : Prop := Esp.Related m m Eq

namespace Related

theorem pure {a : α} {b : β} (h : S a b) :
    Esp.Related (pure a : Esp α) (pure b : Esp β) S :=
  Lib.Related.pure (.ok h)

theorem throw (err : EspErr) : Esp.Related (throw err : Esp α) (throw err : Esp β) S :=
  Lib.Related.pure (.error err)

theorem bind {m : Esp α} {n : Esp β} {f : α → Esp γ} {g : β → Esp δ} (hm : Esp.Related m n S)
    (hf : ∀ a b, S a b → Esp.Related (f a) (g b) T) : Esp.Related (m >>= f) (n >>= g) T := by
  unfold Esp.Related
  rw [ExceptT.run_bind, ExceptT.run_bind]
  refine Lib.Related.bind hm fun r r' hr => ?_
  cases hr with
  | ok h => exact hf _ _ h
  | error err => exact Lib.Related.pure (.error err)

theorem tryCatch {m : Esp α} {n : Esp β} {f : EspErr → Esp α} {g : EspErr → Esp β}
    (hm : Esp.Related m n S) (hf : ∀ err, Esp.Related (f err) (g err) S) :
    Esp.Related (MonadExcept.tryCatch m f) (MonadExcept.tryCatch n g) S := by
  unfold Esp.Related
  rw [ExceptT.run_tryCatch, ExceptT.run_tryCatch]
  refine Lib.Related.bind hm fun r r' hr => ?_
  cases hr with
  | ok h => exact Lib.Related.pure (.ok h)
  | error err => exact hf err

theorem lift {m : Handler α} {n : Handler β} (hm : Lib.Related Alike m n S) :
    Esp.Related (liftM m : Esp α) (liftM n : Esp β) S :=
  hm.map fun _ _ h => .ok h

theorem ignore {m : Esp α} {n : Esp β} (hm : Esp.Related m n S) :
    Esp.Related (Handler.ignore m) (Handler.ignore n) Eq :=
  Lib.Related.bind hm fun _ _ _ => Lib.Related.pure (.ok rfl)

end Related

namespace Blind

theorem run {m : Esp α} (hm : Blind m) : Handler.Blind m.run :=
  Lib.Related.weaken hm fun _ _ h => sameResult_eq.mp h

theorem of_run {m : Esp α} (hm : Handler.Blind (m.run : Handler (EspResult α))) : Blind m :=
  Lib.Related.weaken hm fun _ _ h => sameResult_eq.mpr h

theorem pure (a : α) : Blind (pure a) := Related.pure rfl

theorem throw (err : EspErr) : Blind (throw err : Esp α) := Related.throw err

theorem bind {m : Esp α} {f : α → Esp γ} (hm : Blind m) (hf : ∀ a, Blind (f a)) :
    Blind (m >>= f) := by
  refine Related.bind hm ?_
  rintro a _ rfl
  exact hf a

theorem tryCatch {m : Esp α} {f : EspErr → Esp α} (hm : Blind m) (hf : ∀ err, Blind (f err)) :
    Blind (MonadExcept.tryCatch m f) :=
  Related.tryCatch hm hf

theorem lift {m : Handler α} (hm : Handler.Blind m) : Blind (liftM m) := Related.lift hm

theorem ignore {m : Esp α} (hm : Blind m) : Blind (Handler.ignore m) := Related.ignore hm

/-- What is done with the board does not depend on its secrets. -/
theorem getBoard {f : Board → Esp γ} (hf : ∀ b, f b.hidden = f b) (h : ∀ b, Blind (f b)) :
    Blind (liftM Handler.getBoard >>= f) := by
  apply of_run
  have hrun : ((liftM Handler.getBoard >>= f : Esp γ).run : Handler (EspResult γ)) =
      Handler.getBoard >>= fun b => (f b).run := by
    rw [ExceptT.run_bind, ExceptT.run_liftM, bind_map_left]
  rw [hrun]
  exact getBoard_blind (fun b => congrArg ExceptT.run (hf b)) fun b => (h b).run

end Blind

end Esp

namespace Handler

variable {α : Type}

/-- The calls are recorded alike, and have the same outcome. -/
theorem espCall_related {request request' : Request} (h : request.hidden = request'.hidden) :
    Esp.Related (espCall request) (espCall request') Eq := by
  refine Esp.Related.bind (Esp.Related.lift (hand_related h)) fun _ _ _ => ?_
  refine Esp.Related.bind (Esp.Related.lift stackOutcome_blind) ?_
  rintro (- | err) _ rfl
  · exact Esp.Blind.pure _
  · exact Esp.Blind.throw err

theorem espCall_blind (request : Request) : (espCall request).Blind := espCall_related rfl

theorem otCall_related {request request' : Request} (h : request.hidden = request'.hidden) :
    Esp.Related (otCall request) (otCall request') Eq := by
  refine Esp.Related.bind (Esp.Related.lift (hand_related h)) fun _ _ _ => ?_
  refine Esp.Related.bind (Esp.Related.lift stackOutcome_blind) ?_
  rintro (- | err) _ rfl
  · exact Esp.Blind.pure _
  · exact Esp.Blind.throw _

theorem orFail_stack_blind (err : EspErr) : (orFail stackOutcome err).Blind := by
  refine (Esp.Blind.lift stackOutcome_blind).bind fun outcome => ?_
  cases outcome with
  | none => exact Esp.Blind.pure _
  | some _ => exact Esp.Blind.throw err

theorem mallocOrFail_blind : mallocOrFail.Blind := by
  refine (Esp.Blind.lift malloc_blind).bind fun ok => ?_
  cases ok with
  | true => exact Esp.Blind.pure _
  | false => exact Esp.Blind.throw _

/-- A call of NVS, and what is done when it succeeds. -/
theorem nvs_related {β : Type} {S : α → β → Prop} {k : Esp α} {k' : Esp β}
    (hk : Esp.Related k k' S) :
    Esp.Related (do
      match ← nvsOutcome with
      | some err => throw err
      | none => k) (do
      match ← nvsOutcome with
      | some err => throw err
      | none => k') S := by
  refine Esp.Related.bind (Esp.Related.lift nvsOutcome_blind) ?_
  rintro (- | err) _ rfl
  · exact hk
  · exact Esp.Related.throw err

end Handler

end Orchestrator

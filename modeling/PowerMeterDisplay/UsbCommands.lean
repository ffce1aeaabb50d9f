import PowerMeterDisplay.UsbAnswers
import Mathlib.Data.Fintype.Basic
import Mathlib.Tactic.FinCases

/-!
# The requests that ask for no data

What they do to the interface and its endpoints, and to the device that the state stands for.  Like
a request for data they leave the control endpoint alone.
-/

namespace PowerMeterDisplay

namespace Usb

/-- The part of the state that belongs to the control endpoint, the hardware and the application. -/
structure ControlPart where
  out : EpCtrl
  inn : EpCtrl
  req : UsbSetupReq
  controlState : CtrlEpState
  payloadNbTrans : UInt16
  tcFifo : List (Fin 6)
  setupFlag : Bool
  address : UInt8
  msgReady : Bool
  hidRevcBuf : Vector UInt8 65

def controlPart (s : Usb) : ControlPart where
  out := s.epCtrl 0
  inn := s.epCtrl 1
  req := s.ctrlreq.req
  controlState := s.controlState
  payloadNbTrans := s.payloadNbTrans
  tcFifo := s.tcFifo
  setupFlag := s.setupFlag
  address := s.address
  msgReady := s.msgReady
  hidRevcBuf := s.hidRevcBuf

/-- No endpoint of the interface has a note of the hardware that is still to be read. -/
def Quiet (s : Usb) : Prop := ∀ j, (s.epCtrl (ctrlOf j)).trncompl0 = false

variable {s s' : Usb} {stage : Stage}

/-! ## Endpoints -/

theorem ctrlOf_injective : Function.Injective ctrlOf := fun i j h => by
  have hval := congrArg Fin.val h
  simp only [ctrlOf] at hval
  exact Fin.ext (by omega)

theorem update_ctrlOf {f : Fin 6 → EpCtrl} {j k : Fin 4} {c : EpCtrl} (h : j ≠ k) :
    Function.update f (ctrlOf k) c (ctrlOf j) = f (ctrlOf j) :=
  Function.update_of_ne (ctrlOf_injective.ne h) ..

theorem stall_update (f : Fin 6 → EpCtrl) (k : Fin 4) (c : EpCtrl) :
    (fun j => (Function.update f (ctrlOf k) c (ctrlOf j)).stall) =
      Function.update (fun j => (f (ctrlOf j)).stall) k c.stall := by
  funext j
  rcases eq_or_ne j k with rfl | h
  · simp
  · rw [Function.update_of_ne h, update_ctrlOf h]

theorem Quiet.update (h : s.Quiet) {k : Fin 4} {c : EpCtrl} (hc : c.trncompl0 = false) :
    (s.setCtrl (ctrlOf k) c).Quiet := by
  intro j
  rcases eq_or_ne j k with rfl | hj
  · simpa using hc
  · rw [epCtrl_setCtrl, update_ctrlOf hj]
    exact h j

theorem Settled.busy_of_stall (h : s.Settled) {j : Fin 4}
    (hstall : (s.epCtrl (ctrlOf j)).stall = true) : (s.epJob j).busy = false := by
  refine Bool.eq_false_iff.2 fun hbusy => ?_
  match j with
  | 0 => exact nomatch h.unused₁.busy.symm.trans hbusy
  | 1 => exact nomatch (h.inEp.busy hbusy).2.1.symm.trans hstall
  | 2 => exact nomatch (h.outEp.busy hbusy).2.1.symm.trans hstall
  | 3 => exact nomatch h.unused₂.busy.symm.trans hbusy

/-- An endpoint without a job has nothing for the host, be it halted or not. -/
theorem Settled.not_ready (h : s.Settled) (hbusy : (s.epJob 1).busy = false) (stall : Bool) :
    ({ s.epCtrl 3 with stall := stall } : EpCtrl).ready = false := by
  have htype := h.inEp.type_eq
  have hnack := h.inEp.nack0
  cases hon : s.mainBGenericEnable with
  | false =>
    rw [hon] at htype
    simp [EpCtrl.ready, show (s.epCtrl 3).type = .disable from htype]
  | true => simp [EpCtrl.ready, hnack hon hbusy]

theorem Settled.setStall (h : s.Settled) {j : Fin 4} (hbusy : (s.epJob j).busy = false)
    (stall : Bool) :
    (s.setCtrl (ctrlOf j) { s.epCtrl (ctrlOf j) with stall := stall }).Settled := by
  obtain ⟨hconf, hin, hout, h₁, h₂⟩ := h
  match j with
  | 0 => exact ⟨hconf, hin, hout, ⟨h₁.type_eq, h₁.trncompl0, h₁.busy⟩, h₂⟩
  | 1 =>
    refine ⟨hconf, ⟨hin.type_eq, hin.size_eq, hin.free_eq, fun h => ?_, hin.nack0, hin.loaded,
      hin.sent⟩, hout, h₁, h₂⟩
    exact nomatch hbusy.symm.trans h
  | 2 =>
    refine ⟨hconf, hin, ⟨hout.type_eq, hout.size_eq, fun h => ?_, hout.nack0, hout.loaded⟩, h₁, h₂⟩
    exact nomatch hbusy.symm.trans h
  | 3 => exact ⟨hconf, hin, hout, h₁, ⟨h₂.type_eq, h₂.trncompl0, h₂.busy⟩⟩

theorem device_setStall (h : s.Settled) {j : Fin 4} (hbusy : (s.epJob j).busy = false)
    (stall : Bool) :
    (s.setCtrl (ctrlOf j) { s.epCtrl (ctrlOf j) with stall := stall }).device stage =
      { s.device stage with halted := Function.update (s.device stage).halted j stall } := by
  have hreport :
      ((s.setCtrl (ctrlOf j) { s.epCtrl (ctrlOf j) with stall := stall }).epCtrl 3).ready =
        (s.epCtrl 3).ready := by
    rw [epCtrl_setCtrl]
    rcases eq_or_ne j 1 with rfl | hj
    · exact (h.not_ready hbusy stall).trans (h.not_ready hbusy _).symm
    · exact congrArg EpCtrl.ready (update_ctrlOf (j := 1) hj.symm)
  rw [device, hreport, epCtrl_setCtrl, stall_update]
  rfl

theorem device_abortEntry (j : Fin 4) :
    (s.abortEntry (ctrlOf j) j).device stage =
      { s.device stage with report := if j = 1 then none else (s.device stage).report } := by
  have hstall : (fun k => (Function.update s.epCtrl (ctrlOf j)
      { s.epCtrl (ctrlOf j) with nack0 := true } (ctrlOf k)).stall) =
      fun k => (s.epCtrl (ctrlOf k)).stall := by
    rw [stall_update]
    exact Function.update_eq_self ..
  rw [abortEntry_eq, device, hstall]
  refine congrArg (fun report => { s.device stage with report := report }) ?_
  show (if (Function.update s.epCtrl (ctrlOf j) _ (ctrlOf 1)).ready then _ else _) = _
  rcases eq_or_ne j 1 with rfl | hj
  · rw [Function.update_self, if_pos rfl]
    exact if_neg (by simp [EpCtrl.ready])
  · rw [update_ctrlOf hj.symm, if_neg hj]
    rfl

theorem controlPart_abortEntry (j : Fin 4) :
    (s.abortEntry (ctrlOf j) j).controlPart = s.controlPart := by
  rw [abortEntry_eq]
  fin_cases j <;> rfl

theorem trncompl0_abortEntry (j : Fin 4) (i : Fin 6) :
    ((s.abortEntry (ctrlOf j) j).epCtrl i).trncompl0 = (s.epCtrl i).trncompl0 := by
  rw [abortEntry_eq]
  show (Function.update s.epCtrl (ctrlOf j) _ i).trncompl0 = _
  rcases eq_or_ne i (ctrlOf j) with rfl | hi
  · rw [Function.update_self]
  · rw [Function.update_of_ne hi]

/-! ## Moves of the interface -/

/-- A step of the interface that does `f` to the device that the host sees. -/
structure Moves (s s' : Usb) (f : HidDevice → HidDevice) : Prop where
  served : s'.Served
  quiet : s'.Quiet
  device_eq : ∀ stage, s'.device stage = f (s.device stage)
  controlPart_eq : s'.controlPart = s.controlPart
  ctrlreq_eq : s'.ctrlreq = s.ctrlreq

variable {s₁ s₂ : Usb} {f g : HidDevice → HidDevice}

theorem Moves.trans (h₁ : s.Moves s₁ f) (h₂ : s₁.Moves s₂ g) : s.Moves s₂ fun d => g (f d) where
  served := h₂.served
  quiet := h₂.quiet
  device_eq stage := by rw [h₂.device_eq, h₁.device_eq]
  controlPart_eq := h₂.controlPart_eq.trans h₁.controlPart_eq
  ctrlreq_eq := h₂.ctrlreq_eq.trans h₁.ctrlreq_eq

theorem Moves.congr (h : s.Moves s' f) (hfg : ∀ d, f d = g d) : s.Moves s' g :=
  { h with device_eq := fun stage => (h.device_eq stage).trans (hfg _) }

theorem moves_setIface (hs : s.Served) (hq : s.Quiet) (pos : ℕ) :
    s.Moves (s.setIface pos) fun d => d :=
  ⟨hs, hq, fun _ => rfl, rfl, rfl⟩

theorem moves_abortEntry (hs : s.Served) (hq : s.Quiet) (j : Fin 4) :
    s.Moves (s.abortEntry (ctrlOf j) j)
      fun d => { d with report := if j = 1 then none else d.report } := by
  have hset := hs.1.abortEntry j
  refine ⟨⟨hset, ?_⟩, fun k => (trncompl0_abortEntry j _).trans (hq k),
    fun _ => device_abortEntry j, controlPart_abortEntry j, ?_⟩
  · rw [abortEntry_eq]
    exact hs.2
  · rw [abortEntry_eq]

theorem moves_setStall (hs : s.Served) (hq : s.Quiet) {j : Fin 4} (hbusy : (s.epJob j).busy = false)
    (stall : Bool) :
    s.Moves (s.setCtrl (ctrlOf j) { s.epCtrl (ctrlOf j) with stall := stall })
      fun d => { d with halted := Function.update d.halted j stall } where
  served := ⟨hs.1.setStall hbusy stall, hs.2⟩
  quiet := hq.update (hq j)
  device_eq _ := device_setStall hs.1 hbusy stall
  controlPart_eq := by fin_cases j <;> rfl
  ctrlreq_eq := rfl

theorem busy_abortEntry (s : Usb) (j : Fin 4) :
    ((s.abortEntry (ctrlOf j) j).epJob j).busy = false := by
  rw [abortEntry_eq]
  simp

/-- An endpoint is halted. -/
theorem setHalt_moves (hs : s.Served) (hq : s.Quiet) {ep : UInt8} {j : Fin 4}
    (hj : uddEpGetJob ep = some j) :
    ∃ s', uddEpSetHalt ep (s.abortEntry (ctrlOf j) j) = some s' ∧
      s.Moves s' fun d => d.setHalted j true := by
  have h₁ := moves_abortEntry hs hq j
  have h₂ := moves_setStall h₁.served h₁.quiet (busy_abortEntry s j) true
  have h₃ := moves_abortEntry h₂.served h₂.quiet j
  refine ⟨_, ?_, ((h₁.trans h₂).trans h₃).congr fun d => ?_⟩
  · rw [uddEpSetHalt, uddEpGetCtrl_of_job hj]
    exact uddEpAbort_eq hj
  · by_cases hj : j = 1 <;> simp [HidDevice.setHalted, hj]

/-- An endpoint is taken out of its halt; there is no job that waits for it. -/
theorem uddEpClearHalt_moves (hs : s.Served) (hq : s.Quiet) {ep : UInt8} {j : Fin 4}
    (hj : uddEpGetJob ep = some j) :
    ∃ s', uddEpClearHalt ep s = some s' ∧ s.Moves s' fun d => d.setHalted j false := by
  have hset (d : HidDevice) :
      { d with halted := Function.update d.halted j false } = d.setHalted j false := by
    simp [HidDevice.setHalted]
  cases hstall : (s.epCtrl (ctrlOf j)).stall with
  | false =>
    refine ⟨s, ?_, hs, hq, fun stage => ?_, rfl, rfl⟩
    · rw [uddEpClearHalt, uddEpGetCtrl_of_job hj]
      simp [hstall]
    · have hself : (s.device stage).halted j = false := hstall
      rw [← hset, ← hself, Function.update_eq_self]
  | true =>
    have hbusy : (s.epJob j).busy = false := hs.1.busy_of_stall hstall
    refine ⟨_, ?_, (moves_setStall hs hq hbusy false).congr hset⟩
    rw [uddEpClearHalt, uddEpGetCtrl_of_job hj]
    simp [hstall, hj, hbusy]

/-- The control endpoint is never halted when a request is decoded. -/
theorem uddEpClearHalt_control {ep : UInt8} (hep : (ep &&& 0x0F).toNat ≤ 2)
    (hj : uddEpGetJob ep = none)
    (hstall : (s.epCtrl 0).stall = false ∧ (s.epCtrl 1).stall = false) :
    uddEpClearHalt ep s = some s := by
  obtain ⟨i, hi⟩ := Option.isSome_iff_exists.1 (uddEpGetCtrl_isSome.2 hep)
  rw [uddEpClearHalt, hi]
  obtain rfl | rfl := eq_control_of_job hi hj
  · simp [hstall.1]
  · simp [hstall.2]

/-! ## The configuration -/

theorem device_disabled : s.disabled.device stage = (s.device stage).switchOff := by
  rw [disabled, freeEntry_eq, freeEntry_eq]
  refine congrArg (fun halted => { s.device stage with
    on := false, report := none, halted := halted }) (funext fun j => ?_)
  fin_cases j <;> rfl

theorem device_unconfigured : s.unconfigured.device stage = (s.device stage).unconfigure := by
  rw [unconfigured, HidDevice.unconfigure]
  by_cases hnum : s.udcNumConfiguration = 0
  · rw [if_pos hnum, if_pos (show (s.device stage).configuration = 0 from hnum)]
    exact congrArg (fun n => { s.device stage with configuration := n }) hnum.symm
  · rw [if_neg hnum, if_neg (show (s.device stage).configuration ≠ 0 from hnum), ← device_disabled]
    rfl

theorem controlPart_disabled : s.disabled.controlPart = s.controlPart := by
  rw [disabled, freeEntry_eq, freeEntry_eq]
  rfl

theorem trncompl0_disabled (i : Fin 6) :
    (s.disabled.epCtrl i).trncompl0 = (s.epCtrl i).trncompl0 := by
  rw [disabled, freeEntry_eq, freeEntry_eq]
  fin_cases i <;> rfl

theorem moves_disabled (hs : s.Served) (hq : s.Quiet) : s.Moves s.disabled HidDevice.switchOff := by
  refine ⟨⟨hs.1.disabled, ?_⟩, fun j => (trncompl0_disabled _).trans (hq j),
    fun _ => device_disabled, controlPart_disabled, ?_⟩
  · rw [disabled, freeEntry_eq, freeEntry_eq]
    exact hs.2
  · rw [disabled, freeEntry_eq, freeEntry_eq]
    rfl

/-- What `udc_reset` leaves as it was. -/
theorem unconfigured_keeps (s : Usb) :
    s.unconfigured.controlPart = s.controlPart ∧
      (∀ i, (s.unconfigured.epCtrl i).trncompl0 = (s.epCtrl i).trncompl0) ∧
      s.unconfigured.udcStringDesc = s.udcStringDesc ∧
      s.unconfigured.ctrlBuffer = s.ctrlBuffer := by
  rw [unconfigured]
  by_cases hnum : s.udcNumConfiguration = 0
  · rw [if_pos hnum]
    exact ⟨rfl, fun _ => rfl, rfl, rfl⟩
  · rw [if_neg hnum]
    refine ⟨controlPart_disabled, trncompl0_disabled, ?_⟩
    rw [disabled, freeEntry_eq, freeEntry_eq]
    exact ⟨rfl, rfl⟩

theorem moves_unconfigured (hs : s.Served) (hq : s.Quiet) :
    s.Moves s.unconfigured HidDevice.unconfigure := by
  have hset := hs.1.unconfigured.1
  have hdevice (stage : Stage) : s.unconfigured.device stage = _ := device_unconfigured
  rw [unconfigured] at hset hdevice ⊢
  by_cases hnum : s.udcNumConfiguration = 0
  · rw [if_pos hnum] at hset hdevice ⊢
    exact ⟨⟨hset, rfl, hs.2.2⟩, hq, hdevice, rfl, rfl⟩
  · rw [if_neg hnum] at hset hdevice ⊢
    have h := moves_disabled hs hq
    exact ⟨⟨hset, rfl, h.served.2.2⟩, h.quiet, hdevice, h.controlPart_eq, h.ctrlreq_eq⟩

theorem moves_enabled (hs : s.Served) (hq : s.Quiet) (hnum : s.udcNumConfiguration = 1)
    (hconf : s.udcPtrConf = some udcDesc) (hoff : s.mainBGenericEnable = false) :
    s.Moves s.enabled HidDevice.switchOn where
  served := ⟨(hs.1.enabled hnum hconf hoff).2, hs.2⟩
  quiet j := by
    match j with | 0 => exact hq 0 | 1 => rfl | 2 => rfl | 3 => exact hq 3
  device_eq stage := by
    refine congrArg (fun halted => { s.device stage with
      on := true, report := none, rate := 0, protocol := 0, halted := halted }) (funext fun j => ?_)
    fin_cases j <;> rfl
  controlPart_eq := rfl
  ctrlreq_eq := rfl

theorem le_one_iff (x : UInt8) : x ≤ 1 ↔ x = 0 ∨ x = 1 := by
  rw [UInt8.le_iff_toNat_le, ← UInt8.toNat_inj, ← UInt8.toNat_inj]
  exact Nat.le_one_iff_eq_zero_or_eq_one

/-- The one configuration has been chosen. -/
def configured (s : Usb) : Usb := { s with udcNumConfiguration := 1, udcPtrConf := some udcDesc }

theorem moves_configured (hs : s.Served) (hq : s.Quiet) :
    s.Moves s.configured fun d => { d with configuration := 1 } where
  served := ⟨⟨.inr ⟨rfl, rfl⟩, hs.1.inEp, hs.1.outEp, hs.1.unused₁, hs.1.unused₂⟩, hs.2⟩
  quiet := hq
  device_eq _ := rfl
  controlPart_eq := rfl
  ctrlreq_eq := rfl

/-! ## Requests -/

/-- A state in which a request is decoded. -/
structure Decoding (s : Usb) : Prop where
  served : s.Served
  quiet : s.Quiet
  callback : s.ctrlreq.callback = none
  payloadSize : s.ctrlreq.payloadSize = 0
  stall : (s.epCtrl 0).stall = false ∧ (s.epCtrl 1).stall = false

/-- There is a buffer for data of the host, or nothing to store. -/
def Fills (s : Usb) : Prop :=
  s.ctrlreq.payloadSize = 0 ∨
    s.ctrlreq.payload = ⟨.reportFeature, 0⟩ ∧ s.ctrlreq.payloadSize ≤ udiHidReportFeatureSize

/-- A decoder does to a request what the tables say. -/
structure Obeys (s : Usb) (stage : Stage) (result : HidDevice × Bool) (s' : Usb) : Prop where
  served : s'.Served
  quiet : s'.Quiet
  device_eq : s'.device stage = result.1
  controlPart_eq : s'.controlPart = s.controlPart
  refused : result.2 = false → s'.ctrlreq = s.ctrlreq
  fills : result.2 = true → s'.Fills
  callback : s'.ctrlreq.callback = some .validAddress → s.ctrlreq.req.wLength = 0 ∧ result.2 = true

def Accepts (s : Usb) (stage : Stage) (result : HidDevice × Bool) (r : Option (Usb × Bool)) :
    Prop :=
  ∃ s', r = some (s', result.2) ∧ s.Obeys stage result s'

theorem Decoding.accepts (h : s.Decoding) (hm : s.Moves s' f) (ok : Bool) :
    s.Accepts stage (f (s.device stage), ok) (some (s', ok)) := by
  refine ⟨s', rfl, hm.served, hm.quiet, hm.device_eq stage, hm.controlPart_eq,
    fun _ => hm.ctrlreq_eq, fun _ => ?_, fun hc => ?_⟩
  · rw [Fills, hm.ctrlreq_eq]
    exact .inl h.payloadSize
  · rw [hm.ctrlreq_eq, h.callback] at hc
    cases hc

theorem moves_refl (hs : s.Served) (hq : s.Quiet) : s.Moves s fun d => d :=
  ⟨hs, hq, fun _ => rfl, rfl, rfl⟩

theorem Decoding.refuses (h : s.Decoding) :
    s.Accepts stage (s.device stage, false) (some (s, false)) :=
  h.accepts (moves_refl h.served h.quiet) false

/-- After a request that is refused another decoder may try. -/
theorem Obeys.decoding {result : HidDevice × Bool} (hd : s.Decoding)
    (h : s.Obeys stage result s') (hresult : result.2 = false) : s'.Decoding where
  served := h.served
  quiet := h.quiet
  callback := by rw [h.refused hresult, hd.callback]
  payloadSize := by rw [h.refused hresult, hd.payloadSize]
  stall :=
    have hpart := h.controlPart_eq
    ⟨(congrArg (fun p => p.out.stall) hpart).trans hd.stall.1,
      (congrArg (fun p => p.inn.stall) hpart).trans hd.stall.2⟩

/-! ### Standard requests -/

theorem udcReqStdDevSetAddress_accepts (h : s.Decoding) (hw : s.ctrlreq.req.wLength = 0) :
    s.Accepts stage ({ s.device stage with
      address := (s.ctrlreq.req.wValue &&& 0x7F).toUInt8 }, true)
      (some (udcReqStdDevSetAddress s)) := by
  rw [udcReqStdDevSetAddress, if_neg (not_not.2 hw)]
  exact ⟨_, rfl, h.served, h.quiet, rfl, rfl, nofun, fun _ => .inl h.payloadSize,
    fun _ => ⟨hw, rfl⟩⟩

theorem udcReqStdDevClearFeature_accepts (h : s.Decoding) (hw : s.ctrlreq.req.wLength = 0) :
    s.Accepts stage (s.device stage, s.ctrlreq.req.wValue = usbDevFeatureRemoteWakeup)
      (some (udcReqStdDevClearFeature s)) := by
  rw [udcReqStdDevClearFeature, if_neg (not_not.2 hw)]
  by_cases hvalue : s.ctrlreq.req.wValue = usbDevFeatureRemoteWakeup
  · rw [if_pos hvalue, decide_eq_true hvalue]
    have hzero : s.udcDeviceStatus &&& ~~~2 = 0 := by rw [h.served.2.1, UInt16.zero_and]
    have hmoves : s.Moves { s with udcDeviceStatus := s.udcDeviceStatus &&& ~~~2 } fun d => d :=
      ⟨⟨h.served.1, hzero, h.served.2.2⟩, h.quiet, fun _ => rfl, rfl, rfl⟩
    exact h.accepts hmoves true
  · rw [if_neg hvalue, decide_eq_false hvalue]
    exact h.refuses

theorem udcReqStdDevSetConfiguration_accepts (h : s.Decoding) (hw : s.ctrlreq.req.wLength = 0) :
    s.Accepts stage
      (if (s.device stage).address ≠ 0 ∧ s.ctrlreq.req.wValue.toUInt8 ≤ 1 then
        ((s.device stage).setConfiguration s.ctrlreq.req.wValue.toUInt8, true)
      else (s.device stage, false))
      (udcReqStdDevSetConfiguration s) := by
  have haddress : (s.device stage).address = s.address := if_neg (by rw [h.callback]; decide)
  have hcount : udcDeviceDesc[17]? = some 1 := rfl
  rw [udcReqStdDevSetConfiguration, if_neg (not_not.2 hw), haddress]
  by_cases hzero : s.address = 0
  · rw [if_pos hzero, if_neg fun h => h.1 hzero]
    exact h.refuses
  rw [if_neg hzero]
  simp only [hcount, Option.bind_eq_bind, Option.bind_some]
  by_cases hle : s.ctrlreq.req.wValue.toUInt8 ≤ 1
  swap
  · rw [if_pos (UInt8.not_le.1 hle), if_neg fun h => hle h.2]
    exact h.refuses
  rw [if_neg (UInt8.not_lt.2 hle), if_pos ⟨hzero, hle⟩,
    udcReset_eq fun hnum => h.served.1.conf hnum, Option.bind_some]
  have hun := moves_unconfigured h.served h.quiet
  have hoff := h.served.1.unconfigured.2
  by_cases hvalue : s.ctrlreq.req.wValue.toUInt8 = 0
  · rw [if_pos hvalue, HidDevice.setConfiguration, if_pos hvalue, hvalue]
    have hmoves : s.Moves { s.unconfigured with udcNumConfiguration := 0 } HidDevice.unconfigure :=
      ⟨hun.served, hun.quiet, hun.device_eq, hun.controlPart_eq, hun.ctrlreq_eq⟩
    exact h.accepts hmoves true
  · obtain hone := (le_one_iff _).1 hle |>.resolve_left hvalue
    rw [if_neg hvalue, HidDevice.setConfiguration, if_neg hvalue, hone]
    have hconfigured := moves_configured hun.served hun.quiet
    have henabled := moves_enabled hconfigured.served hconfigured.quiet rfl rfl hoff
    have hrun := (hconfigured.served.1.enabled rfl rfl hoff).1
    have hconf : [udcDesc][(1 : UInt8).toNat - 1]? = some udcDesc := rfl
    have hifaces : udcIfaces s.unconfigured.configured = some [0] := udcIfaces_eq rfl
    have hfor : udcForIfaces (fun iface => udcIfaceEnable iface 0) [0] s.unconfigured.configured =
        some (s.unconfigured.configured.enabled, true) := by
      simp only [udcForIfaces, Option.bind_eq_bind]
      exact congrArg (fun r => r.bind fun r => if r.2 = false then some (r.1, false)
        else some (r.1, true)) hrun
    have hmoves := (hun.trans hconfigured).trans henabled
    refine (congrArg (s.Accepts stage _) ?_).mpr (h.accepts hmoves true)
    exact (congrArg (fun r => r.bind fun ifaces =>
      udcForIfaces (fun iface => udcIfaceEnable iface 0) ifaces s.unconfigured.configured)
      hifaces).trans hfor

theorem udcReqStdIfaceSetSetting_accepts (h : s.Decoding) (hw : s.ctrlreq.req.wLength = 0) :
    s.Accepts stage
      (if (s.device stage).configuration ≠ 0 ∧ s.ctrlreq.req.wIndex.toUInt8 = 0 then
        if s.ctrlreq.req.wValue.toUInt8 = 0 then ((s.device stage).switchOn, true)
        else ((s.device stage).switchOff, false)
      else (s.device stage, false))
      (udcReqStdIfaceSetSetting s) := by
  have hconfiguration : (s.device stage).configuration = s.udcNumConfiguration := rfl
  rw [udcReqStdIfaceSetSetting, if_neg (not_not.2 hw), hconfiguration]
  by_cases hnum : s.udcNumConfiguration = 0
  · rw [if_pos hnum, if_neg fun h => h.1 hnum]
    exact h.refuses
  have hconf := h.served.1.conf hnum
  rw [if_neg hnum]
  by_cases hiface : s.ctrlreq.req.wIndex.toUInt8 = 0
  swap
  · rw [if_neg fun h => hiface h.2, udcIfaceDisable, udcUpdateIfaceDesc_eq fun _ => hconf,
      if_pos (.inr hiface)]
    exact h.refuses
  have hoff := moves_disabled h.served h.quiet
  have hnum' : s.disabled.udcNumConfiguration = s.udcNumConfiguration := by
    rw [disabled, freeEntry_eq, freeEntry_eq]
    rfl
  have hconf' : s.disabled.udcPtrConf = some udcDesc := by
    rw [disabled, freeEntry_eq, freeEntry_eq]
    exact hconf
  rw [if_pos ⟨hnum, hiface⟩, hiface, udcIfaceDisable_eq hnum hconf]
  simp only [Option.bind_eq_bind, Option.bind_some, Bool.true_eq_false, if_false]
  by_cases hsetting : s.ctrlreq.req.wValue.toUInt8 = 0
  · have hone : s.disabled.udcNumConfiguration = 1 :=
      hnum'.trans (h.served.1.configured.resolve_left fun h => hnum h.1).1
    have hon := moves_enabled hoff.served hoff.quiet hone hconf' rfl
    rw [if_pos hsetting, hsetting, (hoff.served.1.enabled hone hconf' rfl).1]
    have hmoves : s.Moves s.disabled.enabled HidDevice.switchOn := by
      refine (hoff.trans hon).congr fun d => ?_
      refine congrArg (fun halted => { d.switchOn with halted := halted }) (funext fun j => ?_)
      fin_cases j <;> rfl
    exact h.accepts hmoves true
  · rw [if_neg hsetting, udcIfaceEnable_setting (hnum' ▸ hnum) hconf' hsetting]
    exact h.accepts (hoff.trans (moves_setIface hoff.served hoff.quiet 41)) false

theorem udcReqStdEpClearFeature_accepts (h : s.Decoding) (hw : s.ctrlreq.req.wLength = 0)
    (hvalue : s.ctrlreq.req.wValue = usbEpFeatureHalt)
    (hep : (s.ctrlreq.req.wIndex.toUInt8 &&& 0x0F).toNat ≤ 2) :
    s.Accepts stage
      (((HidDevice.endpoint s.ctrlreq.req).map fun j => (s.device stage).setHalted j false).getD
        (s.device stage), true)
      (udcReqStdEpClearFeature s) := by
  rw [udcReqStdEpClearFeature, if_neg (not_not.2 hw), if_pos hvalue, HidDevice.endpoint]
  cases hj : uddEpGetJob s.ctrlreq.req.wIndex.toUInt8 with
  | some j =>
    obtain ⟨s', heq, hmoves⟩ := uddEpClearHalt_moves h.served h.quiet hj
    rw [heq]
    exact h.accepts hmoves true
  | none =>
    rw [uddEpClearHalt_control hep hj h.stall]
    exact h.accepts (moves_refl h.served h.quiet) true

theorem udcReqStdEpSetFeature_accepts (h : s.Decoding) (hw : s.ctrlreq.req.wLength = 0)
    (hvalue : s.ctrlreq.req.wValue = usbEpFeatureHalt)
    (hep : 1 ≤ (s.ctrlreq.req.wIndex.toUInt8 &&& 0x0F).toNat ∧
      (s.ctrlreq.req.wIndex.toUInt8 &&& 0x0F).toNat ≤ 2) :
    s.Accepts stage
      (((HidDevice.endpoint s.ctrlreq.req).map fun j => (s.device stage).setHalted j true).getD
        (s.device stage), true)
      (udcReqStdEpSetFeature s) := by
  obtain ⟨j, hj⟩ := Option.isSome_iff_exists.1 (uddEpGetJob_isSome.2 hep)
  obtain ⟨s', heq, hmoves⟩ := setHalt_moves h.served h.quiet hj
  have hreq := (moves_abortEntry h.served h.quiet j).ctrlreq_eq
  rw [udcReqStdEpSetFeature, if_neg (not_not.2 hw), if_pos hvalue, HidDevice.endpoint, hj,
    uddEpAbort_eq hj]
  simp only [Option.bind_eq_bind, Option.bind_some, hreq, heq]
  exact h.accepts hmoves true

/-- Every standard request that asks for no data has a length of 0. -/
theorem udcReqstd_of_length (hout : s.ctrlreq.req.isIn = false) (hw : s.ctrlreq.req.wLength ≠ 0) :
    udcReqstd s = some (s, false) := by
  rw [udcReqstd, if_neg (show ¬ s.ctrlreq.req.isIn = true by rw [hout]; decide)]
  simp only [udcReqStdDevSetAddress, udcReqStdDevClearFeature, udcReqStdDevSetFeature,
    udcReqStdDevSetConfiguration, udcReqStdIfaceSetSetting, udcReqStdEpClearFeature,
    udcReqStdEpSetFeature, if_pos hw, Option.pure_def, ite_self]

/-- The standard requests that ask for no data. -/
theorem udcReqstd_accepts (h : s.Decoding) (hout : s.ctrlreq.req.isIn = false)
    (htype : s.ctrlreq.req.type = usbReqTypeStandard)
    (hmiss : s.ctrlreq.req.missesTables = false) :
    s.Accepts stage ((s.device stage).standardAccept s.ctrlreq.req) (udcReqstd s) := by
  rw [HidDevice.standardAccept]
  by_cases hw : s.ctrlreq.req.wLength = 0
  swap
  · rw [udcReqstd_of_length hout hw, if_pos hw]
    exact h.refuses
  rw [udcReqstd, if_neg (show ¬ s.ctrlreq.req.isIn = true by rw [hout]; decide),
    if_neg (not_not.2 hw)]
  by_cases hdev : s.ctrlreq.req.recipient = usbReqRecipDevice
  · rw [if_pos hdev, if_pos hdev]
    by_cases h₁ : s.ctrlreq.req.bRequest = usbReqSetAddress
    · rw [if_pos h₁, if_pos h₁]
      exact udcReqStdDevSetAddress_accepts h hw
    rw [if_neg h₁, if_neg h₁]
    by_cases h₂ : s.ctrlreq.req.bRequest = usbReqClearFeature
    · rw [if_pos h₂, if_pos h₂]
      exact udcReqStdDevClearFeature_accepts h hw
    rw [if_neg h₂, if_neg h₂]
    by_cases h₃ : s.ctrlreq.req.bRequest = usbReqSetConfiguration
    · have hne : usbReqSetConfiguration ≠ usbReqSetFeature := by decide
      simp only [h₃, true_and, hne, if_true, if_false]
      exact udcReqStdDevSetConfiguration_accepts h hw
    · rw [if_neg h₃, if_neg fun h => h₃ h.1]
      split <;> exact h.refuses
  rw [if_neg hdev, if_neg hdev]
  by_cases hiface : s.ctrlreq.req.recipient = usbReqRecipInterface
  · rw [if_pos hiface, if_pos hiface]
    by_cases h₁ : s.ctrlreq.req.bRequest = usbReqSetInterface
    · simp only [h₁, true_and, if_true]
      exact udcReqStdIfaceSetSetting_accepts h hw
    · rw [if_neg h₁, if_neg fun h => h₁ h.1]
      exact h.refuses
  rw [if_neg hiface, if_neg hiface]
  by_cases hep : s.ctrlreq.req.recipient = usbReqRecipEndpoint
  swap
  · rw [if_neg hep, if_neg fun h => hep h.1]
    exact h.refuses
  rw [if_pos hep]
  by_cases hvalue : s.ctrlreq.req.wValue = usbEpFeatureHalt
  swap
  · rw [if_neg fun h => hvalue h.2]
    simp only [udcReqStdEpClearFeature, udcReqStdEpSetFeature, if_neg (not_not.2 hw),
      if_neg hvalue, Option.pure_def, ite_self]
    exact h.refuses
  rw [if_pos ⟨hep, hvalue⟩]
  by_cases h₁ : s.ctrlreq.req.bRequest = usbReqClearFeature
  · rw [if_pos h₁, if_pos h₁]
    refine udcReqStdEpClearFeature_accepts h hw hvalue ?_
    have hne : usbReqClearFeature ≠ usbReqSetFeature := by decide
    simpa [UsbSetupReq.missesTables, htype, hep, hout, h₁, hw, hvalue, hne] using hmiss
  rw [if_neg h₁, if_neg h₁]
  by_cases h₂ : s.ctrlreq.req.bRequest = usbReqSetFeature
  · rw [if_pos h₂, if_pos h₂]
    refine udcReqStdEpSetFeature_accepts h hw hvalue ?_
    have hn : (s.ctrlreq.req.wIndex.toUInt8 &&& 0x0F).toNat ≠ 0 ∧
        (s.ctrlreq.req.wIndex.toUInt8 &&& 0x0F).toNat ≤ 2 := by
      have hne : usbReqSetFeature ≠ usbReqClearFeature := by decide
      simpa [UsbSetupReq.missesTables, htype, hep, hout, h₂, hw, hvalue, hne] using hmiss
    exact ⟨Nat.one_le_iff_ne_zero.2 hn.1, hn.2⟩
  · rw [if_neg h₂, if_neg h₂]
    exact h.refuses

/-! ### Requests to the interface -/

theorem wValue_eq_iff (x : UInt16) :
    x >>> 8 = usbHidReportTypeFeature ∧ x &&& 0xFF = 0 ↔ x = usbHidReportTypeFeature <<< 8 := by
  have hlow : x.toNat &&& 0xFF = x.toNat % 256 := Nat.and_two_pow_sub_one_eq_mod x.toNat 8
  have hhigh : x.toNat >>> 8 = x.toNat / 256 := Nat.shiftRight_eq_div_pow x.toNat 8
  have hthree : usbHidReportTypeFeature.toNat = 3 := rfl
  have hfeature : (usbHidReportTypeFeature <<< 8).toNat = 0x300 := rfl
  rw [← UInt16.toNat_inj, ← UInt16.toNat_inj, ← UInt16.toNat_inj, hthree, hfeature]
  simp [hlow, hhigh]
  omega

theorem udiHidSetup_accepts (h : s.Decoding) (hout : s.ctrlreq.req.isIn = false) :
    s.Accepts stage ((s.device stage).hidAccept s.ctrlreq.req) (udiHidSetup s) := by
  rw [udiHidSetup, if_neg (show ¬ s.ctrlreq.req.isIn = true by rw [hout]; decide),
    HidDevice.hidAccept]
  by_cases htype : s.ctrlreq.req.type = usbReqTypeClass
  swap
  · rw [if_neg htype, if_neg htype]
    exact h.refuses
  rw [if_pos htype, if_pos htype]
  by_cases h₁ : s.ctrlreq.req.bRequest = usbReqHidSetReport
  · have hne₁ : usbReqHidSetReport ≠ usbReqHidSetIdle := by decide
    have hne₂ : usbReqHidSetReport ≠ usbReqHidSetProtocol := by decide
    simp only [h₁, hne₁, hne₂, true_and, false_and, if_true, if_false, udiHidGenericSetreport,
      ← and_assoc, wValue_eq_iff]
    by_cases hreport : s.ctrlreq.req.wValue = usbHidReportTypeFeature <<< 8 ∧
        s.ctrlreq.req.wLength = udiHidReportFeatureSize
    · rw [if_pos hreport, if_pos hreport]
      refine ⟨_, rfl, h.served, h.quiet, ?_, rfl,
        fun hf => absurd hf.symm Bool.false_ne_true, fun _ => .inr ⟨rfl, UInt16.le_refl _⟩,
        fun hc => absurd (Option.some.inj hc) (by decide)⟩
      have haddress : s.comingAddress = s.address := if_neg (by rw [h.callback]; decide)
      exact congrArg (fun address => { s.device stage with address := address }) haddress.symm
    · rw [if_neg hreport, if_neg hreport]
      exact h.refuses
  rw [if_neg h₁, if_neg fun h => h₁ h.1]
  by_cases h₂ : s.ctrlreq.req.bRequest = usbReqHidSetIdle
  · rw [if_pos h₂, if_pos h₂]
    have hmoves : s.Moves { s with rate := (s.ctrlreq.req.wValue >>> 8).toUInt8 }
        fun d => { d with rate := (s.ctrlreq.req.wValue >>> 8).toUInt8 } :=
      ⟨h.served, h.quiet, fun _ => rfl, rfl, rfl⟩
    exact h.accepts hmoves true
  rw [if_neg h₂, if_neg h₂]
  by_cases h₃ : s.ctrlreq.req.bRequest = usbReqHidSetProtocol
  swap
  · rw [if_neg h₃, if_neg fun h => h₃ h.1]
    exact h.refuses
  by_cases hw : s.ctrlreq.req.wLength = 0
  · rw [if_pos h₃, if_neg (not_not.2 hw), if_pos ⟨h₃, hw⟩]
    have hmoves : s.Moves { s with protocol := s.ctrlreq.req.wValue.toUInt8 }
        fun d => { d with protocol := s.ctrlreq.req.wValue.toUInt8 } :=
      ⟨h.served, h.quiet, fun _ => rfl, rfl, rfl⟩
    exact h.accepts hmoves true
  · rw [if_pos h₃, if_pos hw, if_neg fun h => hw h.2]
    exact h.refuses

theorem Decoding.setIface (h : s.Decoding) (pos : ℕ) : (s.setIface pos).Decoding :=
  ⟨h.served, h.quiet, h.callback, h.payloadSize, h.stall⟩

/-- Where the interface lies in the descriptor makes no difference to the device. -/
theorem accepts_of_setIface {pos : ℕ} {result : HidDevice × Bool} {r : Option (Usb × Bool)}
    (h : (s.setIface pos).Accepts stage result r) : s.Accepts stage result r := by
  obtain ⟨s', heq, hobeys⟩ := h
  exact ⟨s', heq, ⟨hobeys.served, hobeys.quiet, hobeys.device_eq, hobeys.controlPart_eq,
    hobeys.refused, hobeys.fills, hobeys.callback⟩⟩

theorem udcReqIface_accepts (h : s.Decoding) (hout : s.ctrlreq.req.isIn = false) :
    s.Accepts stage
      (if (s.device stage).configuration ≠ 0 ∧ s.ctrlreq.req.wIndex.toUInt8 = 0 then
        (s.device stage).hidAccept s.ctrlreq.req else (s.device stage, false))
      (udcReqIface s) := by
  have hconfiguration : (s.device stage).configuration = s.udcNumConfiguration := rfl
  rw [udcReqIface, hconfiguration]
  by_cases hnum : s.udcNumConfiguration = 0
  · rw [if_pos hnum, if_neg fun h => h.1 hnum]
    exact h.refuses
  have hcount : udcDesc[4]? = some 1 := rfl
  have hconf := h.served.1.conf hnum
  rw [if_neg hnum]
  simp only [hconf, hcount, Option.bind_eq_bind, Option.bind_some, one_le_iff]
  by_cases hiface : s.ctrlreq.req.wIndex.toUInt8 = 0
  · rw [if_neg (not_not.2 hiface), if_pos ⟨hnum, hiface⟩, hiface, udcFind hnum hconf]
    simp only [Option.bind_some, Bool.true_eq_false, if_false,
      udcFind (s := s.setIface 9) hnum hconf]
    exact accepts_of_setIface (udiHidSetup_accepts (h.setIface 9) hout)
  · rw [if_pos hiface, if_neg fun h => hiface h.2]
    exact h.refuses

theorem udcReqEp_accepts (h : s.Decoding) (hout : s.ctrlreq.req.isIn = false) :
    s.Accepts stage
      (if (s.device stage).configuration ≠ 0 then
        (s.device stage).hidAccept s.ctrlreq.req else (s.device stage, false))
      (udcReqEp s) := by
  have hconfiguration : (s.device stage).configuration = s.udcNumConfiguration := rfl
  rw [udcReqEp, hconfiguration]
  by_cases hnum : s.udcNumConfiguration = 0
  · rw [if_pos hnum, if_neg (not_not.2 hnum)]
    exact h.refuses
  have hconf := h.served.1.conf hnum
  have hask : s.Accepts stage ((s.device stage).hidAccept s.ctrlreq.req)
      (udiHidSetup (s.setIface 9)) :=
    accepts_of_setIface (udiHidSetup_accepts (h.setIface 9) hout)
  obtain ⟨s', heq, hobeys⟩ := hask
  have hzero : (0 : ℕ).toUInt8 = 0 := rfl
  rw [if_neg hnum, if_pos hnum, udcIfaces_eq hconf]
  simp only [Option.bind_eq_bind, Option.bind_some, udcAskIfaces, hzero, udcFind hnum hconf,
    Bool.true_eq_false, if_false, heq]
  refine ⟨s', ?_, hobeys⟩
  split
  next h => rw [h]; rfl
  next h => rw [Bool.eq_false_iff.2 h]

theorem orElse_false (f : Usb → Option (Usb × Bool)) : Usb.orElse false f = some :=
  funext fun _ => if_neg fun h => nomatch h.1

/-- The next decoder has the request if the one before has not. -/
theorem Accepts.orElse {p : HidDevice × Bool} {result : Option (Usb × Bool)}
    {res : HidDevice × Bool} {f : Usb → Option (Usb × Bool)} (hd : s.Decoding)
    (h : s.Accepts stage p result)
    (hf : ∀ s' : Usb, s'.Decoding → s'.device stage = p.1 → s'.ctrlreq = s.ctrlreq →
      s'.Accepts stage res (f s')) :
    s.Accepts stage (if p.2 = false then res else p) (result.bind (Usb.orElse true f)) := by
  obtain ⟨s', rfl, hobeys⟩ := h
  rw [Option.bind_some, Usb.orElse]
  by_cases hnext : p.2 = false
  · rw [if_pos hnext, if_pos ⟨rfl, hnext⟩]
    have hreq := hobeys.refused hnext
    obtain ⟨s'', heq, h''⟩ := hf s' (hobeys.decoding hd hnext) hobeys.device_eq hreq
    exact ⟨s'', heq, h''.served, h''.quiet, h''.device_eq,
      h''.controlPart_eq.trans hobeys.controlPart_eq, fun h => (h''.refused h).trans hreq,
      h''.fills, fun h => hreq ▸ h''.callback h⟩
  · rw [if_neg hnext, if_neg fun h => hnext h.2]
    exact ⟨s', rfl, hobeys⟩

theorem refused_eq (p : HidDevice × Bool) : (if p.2 = false then (p.1, false) else p) = p := by
  obtain ⟨d, ok⟩ := p
  cases ok <;> rfl

/-- The two decoders of the interface, one after the other. -/
theorem Accepts.toInterface {p : HidDevice × Bool} {result : Option (Usb × Bool)}
    (hd : s.Decoding) (hout : s.ctrlreq.req.isIn = false) (h : s.Accepts stage p result) :
    s.Accepts stage
      (if p.2 = false then
        if p.1.toInterface s.ctrlreq.req then p.1.hidAccept s.ctrlreq.req else (p.1, false)
      else p)
      ((result.bind (Usb.orElse (s.ctrlreq.req.recipient = usbReqRecipInterface) udcReqIface)).bind
        (Usb.orElse (s.ctrlreq.req.recipient = usbReqRecipEndpoint) udcReqEp)) := by
  have hne : usbReqRecipInterface ≠ usbReqRecipEndpoint := by decide
  have hto : p.1.toInterface s.ctrlreq.req = (p.1.configuration ≠ 0 &&
    (s.ctrlreq.req.recipient = usbReqRecipInterface && s.ctrlreq.req.wIndex.toUInt8 = 0 ||
      s.ctrlreq.req.recipient = usbReqRecipEndpoint)) := rfl
  by_cases hiface : s.ctrlreq.req.recipient = usbReqRecipInterface
  · rw [hiface, decide_eq_false hne] at hto
    rw [decide_eq_true hiface, decide_eq_false (hiface ▸ hne), orElse_false, Option.bind_fun_some,
      hto]
    refine h.orElse hd fun s' hd' hdevice hreq => ?_
    have h := @udcReqIface_accepts s' stage hd'
    rw [hreq, hdevice] at h
    simpa using h hout
  by_cases hep : s.ctrlreq.req.recipient = usbReqRecipEndpoint
  · rw [hep, decide_eq_false hne.symm] at hto
    rw [decide_eq_false hiface, decide_eq_true hep, orElse_false, Option.bind_fun_some, hto]
    refine h.orElse hd fun s' hd' hdevice hreq => ?_
    have h := @udcReqEp_accepts s' stage hd'
    rw [hreq, hdevice] at h
    simpa using h hout
  · rw [decide_eq_false hiface, decide_eq_false hep] at hto
    rw [decide_eq_false hiface, decide_eq_false hep, orElse_false, orElse_false,
      Option.bind_fun_some, Option.bind_fun_some, hto]
    simpa [refused_eq] using h

/-- What the device does on a request that asks for no data is what the tables say. -/
theorem udcProcessSetup_accepts (h : s.Decoding) (hout : s.ctrlreq.req.isIn = false)
    (hmiss : s.ctrlreq.req.missesTables = false) :
    s.Accepts stage ((s.device stage).accept s.ctrlreq.req) (udcProcessSetup s) := by
  have hsame : { s with ctrlreq := { s.ctrlreq with payloadSize := 0, callback := none } } = s := by
    rw [← h.callback, ← h.payloadSize]
  rw [udcProcessSetup, hsame,
    if_neg fun h : s.ctrlreq.req.isIn = true ∧ _ => absurd (hout.symm.trans h.1) Bool.false_ne_true]
  by_cases htype : s.ctrlreq.req.type = usbReqTypeStandard
  · have hclass : s.ctrlreq.req.type ≠ usbReqTypeClass := by rw [htype]; decide
    have hrefuses : s.Accepts stage _ _ := h.refuses
    have hfirst := hrefuses.orElse h (f := udcReqstd) fun s' hd' hdevice hreq => by
      have h := @udcReqstd_accepts s' stage hd'
      rw [hreq, hdevice] at h
      exact h hout htype hmiss
    have hall := hfirst.toInterface h hout
    rw [if_pos rfl] at hall
    simp only [HidDevice.hidAccept, if_neg hclass, ite_self, refused_eq] at hall
    rw [HidDevice.accept, if_pos htype, decide_eq_true htype]
    rwa [Option.bind_assoc] at hall
  · have hrefuses : s.Accepts stage _ _ := h.refuses
    have hall := hrefuses.toInterface h hout
    rw [if_pos rfl, Option.bind_assoc] at hall
    rwa [HidDevice.accept, if_neg htype, decide_eq_false htype, orElse_false]

end Usb

end PowerMeterDisplay

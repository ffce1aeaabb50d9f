import PowerMeterDisplay.UsbControl

/-!
# What the functions of the USB stack do

Closed forms of the functions of the endpoints and of the configuration, under what their callers
make sure of.
-/

namespace PowerMeterDisplay

/-- The length of an object. -/
def UsbObject.size : UsbObject → ℕ
  | .null => 0
  | .ctrlBuffer => 8
  | .outCache _ => 64
  | .reportIn => 64
  | .reportOut => 64
  | .reportFeature => 4
  | .rate => 1
  | .protocol => 1
  | .deviceStatus => 2
  | .epStatus => 2
  | .numConfiguration => 1
  | .ifaceSetting => 1
  | .languageid => 4
  | .string => 50
  | .deviceDesc => 18
  | .confDesc => 41
  | .reportDesc => 53

namespace Usb

variable {s : Usb}

/-! ## Memory -/

@[simp] theorem length_contents (s : Usb) (o : UsbObject) : (s.contents o).length = o.size := by
  cases o <;> first | rfl | exact Vector.length_toList

theorem read_eq_some {p : UsbPointer} {n : ℕ} (h : n = 0 ∨ p.offset + n ≤ p.object.size) :
    s.read p n = some (((s.contents p.object).drop p.offset).take n) := by
  rw [read, if_pos]
  rwa [length_contents]

theorem read_eq_none {p : UsbPointer} {n : ℕ} (h : p.object.size < n) : s.read p n = none := by
  rw [read, if_neg]
  rw [length_contents]
  omega

theorem length_of_read {p : UsbPointer} {n : ℕ} {bs : List UInt8} (h : s.read p n = some bs) :
    bs.length = n := by
  rw [read] at h
  split at h
  · obtain rfl := Option.some.inj h
    rw [List.length_take, List.length_drop]
    omega
  · cases h

theorem overwrite_eq_some {n : ℕ} (v : Vector UInt8 n) {k : ℕ} {bs : List UInt8}
    (h : k + bs.length ≤ n) :
    ∃ v', overwrite v k bs = some v' ∧
      ∀ (i : ℕ) (hi : i < n), v'[i] = if k ≤ i then bs.getD (i - k) v[i] else v[i] := by
  refine ⟨_, if_pos h, fun i hi => ?_⟩
  rw [Vector.getElem_ofFn]
  rfl

/-- An array whose first elements are overwritten begins with the new ones. -/
theorem overwrite_zero {n : ℕ} (v : Vector UInt8 n) {bs : List UInt8} (h : bs.length ≤ n) :
    ∃ v', overwrite v 0 bs = some v' ∧ v'.toList.take bs.length = bs := by
  obtain ⟨v', hv, hget⟩ := overwrite_eq_some v (show 0 + bs.length ≤ n by omega)
  refine ⟨v', hv, List.ext_getElem (by simp [h]) fun i h₁ h₂ => ?_⟩
  simp [hget i (by omega), h₂]

/-! ## Places in the tables -/

/-- The place in the table of the hardware of an endpoint that has a job. -/
def ctrlOf (j : Fin 4) : Fin 6 := ⟨j.val + 2, by omega⟩

theorem uddEpGetCtrl_of_job {ep : UInt8} {j : Fin 4} (h : uddEpGetJob ep = some j) :
    uddEpGetCtrl ep = some (ctrlOf j) := by
  rw [uddEpGetJob] at h
  split at h
  next hin =>
    obtain rfl := Option.some.inj h
    rw [uddEpGetCtrl, dif_pos hin.2]
    exact congrArg some (Fin.ext (by simp only [ctrlOf]; omega))
  next => cases h

theorem uddEpGetJob_isSome {ep : UInt8} :
    (uddEpGetJob ep).isSome ↔ 1 ≤ (ep &&& 0x0F).toNat ∧ (ep &&& 0x0F).toNat ≤ 2 := by
  have hdir : (if epIsIn ep then 1 else 0) ≤ 1 := by split <;> omega
  rw [uddEpGetJob]
  split
  next h =>
    rw [epIndex] at h
    exact iff_of_true rfl (by omega)
  next h =>
    rw [epIndex] at h
    exact iff_of_false (by decide) (by omega)

theorem uddEpGetCtrl_isSome {ep : UInt8} :
    (uddEpGetCtrl ep).isSome ↔ (ep &&& 0x0F).toNat ≤ 2 := by
  have hdir : (if epIsIn ep then 1 else 0) ≤ 1 := by split <;> omega
  rw [uddEpGetCtrl]
  split
  next h =>
    rw [epIndex] at h
    exact iff_of_true rfl (by omega)
  next h =>
    rw [epIndex] at h
    exact iff_of_false (by decide) (by omega)

/-! ## Endpoints -/

theorem uddEpAbort_eq {ep : UInt8} {j : Fin 4} (h : uddEpGetJob ep = some j) :
    uddEpAbort ep s = some (s.abortEntry (ctrlOf j) j) := by
  rw [uddEpAbort, uddEpGetCtrl_of_job h, h]
  rfl

/-- An abort marks the endpoint NACK, and ends its job if there is one. -/
theorem abortEntry_eq (i : Fin 6) (j : Fin 4) (s : Usb) :
    s.abortEntry i j =
      { s with
        epCtrl := Function.update s.epCtrl i { s.epCtrl i with nack0 := true }
        epJob := Function.update s.epJob j { s.epJob j with busy := false }
        bReportInFree := s.bReportInFree ||
          (s.epJob j).busy && decide ((s.epJob j).callTrans = some .reportInSent) } := by
  rw [abortEntry]
  cases hbusy : (s.epJob j).busy with
  | false =>
    have hjob : { s.epJob j with busy := false } = s.epJob j := by rw [← hbusy]
    simp [hjob, setCtrl]
  | true =>
    rw [if_neg (by decide)]
    cases hcall : (s.epJob j).callTrans with
    | none => simp [callTransAbort, setCtrl, setJob]
    | some callback => cases callback <;> simp [callTransAbort, setCtrl, setJob]

/-- An endpoint that has been freed. -/
def freeEntry (j : Fin 4) (s : Usb) : Usb :=
  let s := s.abortEntry (ctrlOf j) j
  s.setCtrl (ctrlOf j) { s.epCtrl (ctrlOf j) with type := .disable, size := 8, stall := false }

/-- An endpoint of the interface that has been allocated. -/
def allocEntry (i : Fin 6) (s : Usb) : Usb :=
  s.setCtrl i { s.epCtrl i with
    type := .bulk, size := 64, stall := false, nack0 := true, trncompl0 := false }

theorem uddEpAlloc_eq {ep : UInt8} {i : Fin 6} (h : uddEpGetCtrl ep = some i)
    (htype : (s.epCtrl i).type = .disable) :
    uddEpAlloc ep 0x03 udiHidGenericEpSize s = some (s.allocEntry i, true) := by
  simp only [uddEpAlloc, uddEpInit, h, htype, Option.bind_eq_bind, Option.bind_some]
  rfl

/-! ## Transfers -/

/-- An endpoint that can start a job. -/
structure Idle (c : EpCtrl) (job : EpJob) : Prop where
  type : c.type = .bulk
  size : c.size = 64
  stall : c.stall = false
  busy : job.busy = false

/-- The OUT endpoint waits for a report. -/
def armOut (s : Usb) : Usb :=
  (s.setJob 2 ⟨true, false, false, .reportOut, 64, 0, some .reportOutReceived⟩).setCtrl 4
    { s.epCtrl 4 with cnt := 0, auxdata := 64, dataptr := ⟨.reportOut, 0⟩, nack0 := false }

/-- The IN endpoint offers a report. -/
def armIn (s : Usb) : Usb :=
  (s.setJob 1 ⟨true, false, false, .reportIn, 64, 0, some .reportInSent⟩).setCtrl 3
    { s.epCtrl 3 with cnt := 64, auxdata := 0, dataptr := ⟨.reportIn, 0⟩, nack0 := false }

theorem reportOutEnable_eq (h : Idle (s.epCtrl 4) (s.epJob 2)) (depth : ℕ) :
    udiHidGenericReportOutEnable (uddEpTransComplet (depth + 1)) s = some (s.armOut, true) := by
  obtain ⟨htype, hsize, hstall, hbusy⟩ := h
  have hctrl : uddEpGetCtrl udiHidGenericEpOut = some 4 := rfl
  have hjob : uddEpGetJob udiHidGenericEpOut = some 2 := rfl
  have hdir : epIsIn udiHidGenericEpOut = false := rfl
  have hempty : decide (udiHidReportOutSize = 0) = false := rfl
  simp only [udiHidGenericReportOutEnable, uddEpRun, hctrl, hjob, hdir, hempty, htype, hstall,
    hbusy, Option.bind_eq_bind, Option.bind_some, uddEpTransComplet, uddEpNextOut, epCtrl_setCtrl,
    epJob_setCtrl, epJob_setJob, Function.update_self]
  simp [hsize, udiHidReportOutSize, uddEndpointMaxTrans, armOut, htype, hstall]

theorem reportInRun_eq (h : Idle (s.epCtrl 3) (s.epJob 1)) (depth : ℕ) :
    uddEpRun (uddEpTransComplet (depth + 1)) udiHidGenericEpIn false .reportIn udiHidReportInSize
      .reportInSent s = some (s.armIn, true) := by
  obtain ⟨htype, hsize, hstall, hbusy⟩ := h
  have hctrl : uddEpGetCtrl udiHidGenericEpIn = some 3 := rfl
  have hjob : uddEpGetJob udiHidGenericEpIn = some 1 := rfl
  have hdir : epIsIn udiHidGenericEpIn = true := rfl
  have hempty : decide (udiHidReportInSize = 0) = false := rfl
  simp only [uddEpRun, hctrl, hjob, hdir, hempty, htype, hstall, hbusy, Option.bind_eq_bind,
    Option.bind_some, uddEpTransComplet, uddEpNextIn, epCtrl_setCtrl, epJob_setCtrl, epJob_setJob,
    Function.update_self]
  simp [hsize, udiHidReportInSize, uddEndpointMaxTrans, armIn, htype, hstall]

/-- An endpoint that is not allocated or halted, or has a job, starts none. -/
theorem uddEpRun_refused {ep : UInt8} {j : Fin 4} (hj : uddEpGetJob ep = some j)
    (h : (s.epCtrl (ctrlOf j)).type = .disable ∨
      (s.epCtrl (ctrlOf j)).type = .bulk ∧
        ((s.epCtrl (ctrlOf j)).stall = true ∨ (s.epJob j).busy = true))
    (transComplet : UInt8 → Usb → Option Usb) (short : Bool) (buf : UsbObject) (size : UInt16)
    (callback : TransCallback) :
    uddEpRun transComplet ep short buf size callback s = some (s, false) := by
  simp only [uddEpRun, uddEpGetCtrl_of_job hj, hj, Option.bind_eq_bind, Option.bind_some]
  rcases h with h | ⟨htype, h⟩
  · simp [h]
  · cases hstall : (s.epCtrl (ctrlOf j)).stall with
    | true => simp [htype]
    | false => simp [htype, h.resolve_left (by simp [hstall])]

/-- What `hid_message` leaves: the first message stays. -/
theorem hidMessage_eq (s : Usb) :
    ∃ buf, hidMessage s = some { s with hidRevcBuf := buf, msgReady := true } ∧
      buf.toList.take 64 =
        if s.msgReady then s.hidRevcBuf.toList.take 64 else s.reportOut.toList := by
  cases hready : s.msgReady with
  | true => exact ⟨s.hidRevcBuf, by simp [hidMessage, hready], by simp⟩
  | false =>
    obtain ⟨buf, hbuf, htake⟩ := overwrite_zero s.hidRevcBuf
      (show s.reportOut.toList.length ≤ 65 by simp)
    rw [Vector.length_toList] at htake
    exact ⟨buf, by simp [hidMessage, hready, hbuf], by simpa using htake⟩

/-- The end of a transfer of the OUT endpoint. -/
theorem transComplet_out {s : Usb} (depth : ℕ)
    (hcache : (s.epJob 2).bUseOutCacheBuffer = false) (hsize : (s.epJob 2).bufSize = 64)
    (hnb : (s.epJob 2).nbTrans = 0) (haux : (s.epCtrl 4).auxdata = 64)
    (hcnt : (s.epCtrl 4).cnt ≤ 64) :
    uddEpTransComplet (depth + 1) udiHidGenericEpOut s =
      let job := { s.epJob 2 with nbTrans := (s.epCtrl 4).cnt }
      if (s.epJob 2).busy = false then some (s.setJob 2 job)
      else
        callTransOk (uddEpTransComplet depth) (s.epCtrl 4).cnt (s.epJob 2).callTrans
          (s.setJob 2 { job with busy := false }) := by
  have hctrl : uddEpGetCtrl udiHidGenericEpOut = some 4 := rfl
  have hjob : uddEpGetJob udiHidGenericEpOut = some 2 := rfl
  have hdir : epIsIn udiHidGenericEpOut = false := rfl
  have hnext : uddEpNextOut 4 2 s =
      some (s.setJob 2 { s.epJob 2 with nbTrans := (s.epCtrl 4).cnt }, false) := by
    have hclip : ¬ (64 : UInt16) < (s.epCtrl 4).cnt := UInt16.not_lt.2 hcnt
    have hdone : ¬ ((s.epCtrl 4).cnt = 64 ∧ (s.epCtrl 4).cnt ≠ 64) := fun h => h.2 h.1
    simp only [uddEpNextOut, hcache, hsize, hnb, haux, UInt16.zero_add, hclip, hdone,
      Bool.false_eq_true, if_false, Option.pure_def, Option.bind_eq_bind, Option.bind_some]
  simp only [uddEpTransComplet, hctrl, hjob, hdir, hnext, Option.bind_eq_bind, Option.bind_some,
    Bool.false_eq_true, if_false, epJob_setJob, Function.update_self, setJob_setJob]
  rfl

/-- The end of a transfer of the IN endpoint. -/
theorem transComplet_in {s : Usb} (depth : ℕ)
    (hshort : (s.epJob 1).bShortpacket = false) (hsize : (s.epJob 1).bufSize = 64)
    (hnb : (s.epJob 1).nbTrans = 0) (haux : (s.epCtrl 3).auxdata = 64) :
    uddEpTransComplet (depth + 1) udiHidGenericEpIn s =
      let job := { s.epJob 1 with nbTrans := 64 }
      if (s.epJob 1).busy = false then some (s.setJob 1 job)
      else
        callTransOk (uddEpTransComplet depth) 64 (s.epJob 1).callTrans
          (s.setJob 1 { job with busy := false }) := by
  have hctrl : uddEpGetCtrl udiHidGenericEpIn = some 3 := rfl
  have hjob : uddEpGetJob udiHidGenericEpIn = some 1 := rfl
  have hdir : epIsIn udiHidGenericEpIn = true := rfl
  have hnext : uddEpNextIn 3 1 s = (s.setJob 1 { s.epJob 1 with nbTrans := 64 }, false) := by
    simp only [uddEpNextIn, hshort, hsize, hnb, haux, UInt16.zero_add, ne_eq, not_true_eq_false,
      if_false, Bool.false_eq_true]
  simp only [uddEpTransComplet, hctrl, hjob, hdir, hnext, Option.bind_eq_bind, Option.bind_some,
    Bool.false_eq_true, if_false, if_true, epJob_setJob, Function.update_self, setJob_setJob,
    Option.pure_def]

/-! ## The configuration -/

theorem one_le_iff (iface : UInt8) : 1 ≤ iface ↔ iface ≠ 0 := by
  rw [UInt8.le_iff_toNat_le, ne_eq, ← UInt8.toNat_inj]
  exact Nat.one_le_iff_ne_zero

/-- The descriptor of the one interface is looked up, if the device is configured. -/
theorem udcUpdateIfaceDesc_eq (hconf : s.udcNumConfiguration ≠ 0 → s.udcPtrConf = some udcDesc)
    (iface setting : UInt8) :
    udcUpdateIfaceDesc iface setting s = some
      (if s.udcNumConfiguration = 0 ∨ iface ≠ 0 then (s, false)
      else if setting = 0 then (s.setIface 9, true)
      else (s.setIface 41, false)) := by
  rw [udcUpdateIfaceDesc]
  by_cases hnum : s.udcNumConfiguration = 0
  · rw [if_pos hnum, if_pos (.inl hnum)]
    rfl
  · have hcount : udcDesc[4]? = some 1 := rfl
    rw [if_neg hnum, hconf hnum]
    simp only [Option.bind_eq_bind, Option.bind_some, hcount, udcFindIface_udcDesc, one_le_iff,
      hnum, false_or]
    by_cases hiface : iface = 0
    · by_cases hsetting : setting = 0 <;> simp [hiface, hsetting]
    · simp [hiface]

/-- A loop over the endpoints of the interface comes to the IN, then to the OUT endpoint. -/
theorem udcForEndpoints_eq {t u : Usb} {f : ℕ → Usb → Option (Usb × Bool)} {n : ℕ}
    (hconf : s.udcPtrConf = some udcDesc) (h₁ : f 27 s = some (t, true))
    (hconf₁ : t.udcPtrConf = some udcDesc) (h₂ : f 34 t = some (u, true))
    (hconf₂ : u.udcPtrConf = some udcDesc) :
    udcForEndpoints f (n + 3) 9 s = some (u, true) := by
  obtain ⟨hin, hout, hend⟩ := udcNextDescInIface_endpoint
  simp only [udcForEndpoints, hconf, hconf₁, hconf₂, hin, hout, hend, h₁, h₂, Option.bind_eq_bind,
    Option.bind_some]
  rfl

/-- What an interface that is switched off leaves. -/
def disabled (s : Usb) : Usb :=
  udiHidGenericDisable (freeEntry 2 (freeEntry 1 (s.setIface 9)))

theorem freeEntry_eq (j : Fin 4) (s : Usb) :
    s.freeEntry j =
      { s with
        epCtrl := Function.update s.epCtrl (ctrlOf j) { s.epCtrl (ctrlOf j) with
          type := .disable, size := 8, stall := false, nack0 := true }
        epJob := Function.update s.epJob j { s.epJob j with busy := false }
        bReportInFree := s.bReportInFree ||
          (s.epJob j).busy && decide ((s.epJob j).callTrans = some .reportInSent) } := by
  rw [freeEntry, abortEntry_eq]
  simp [setCtrl]

theorem udcFind (hnum : s.udcNumConfiguration ≠ 0) (hconf : s.udcPtrConf = some udcDesc) :
    udcUpdateIfaceDesc 0 0 s = some (s.setIface 9, true) := by
  rw [udcUpdateIfaceDesc_eq fun _ => hconf]
  simp [hnum]

theorem udcIfaceDisable_eq (hnum : s.udcNumConfiguration ≠ 0)
    (hconf : s.udcPtrConf = some udcDesc) : udcIfaceDisable 0 s = some (s.disabled, true) := by
  have hloop := udcForEndpoints_eq (s := (s.setIface 9)) (n := 39) hconf
    (f := fun pos s => do return (← uddEpFree (← udcDesc[pos + 2]?) s, true))
    (t := freeEntry 1 (s.setIface 9))
    (u := freeEntry 2 (freeEntry 1 (s.setIface 9)))
    rfl (by rw [freeEntry_eq]; exact hconf) rfl (by rw [freeEntry_eq, freeEntry_eq]; exact hconf)
  have hfind : udcUpdateIfaceDesc 0 0 (s.setIface 9) = some (s.setIface 9, true) :=
    udcFind (s := s.setIface 9) hnum hconf
  have hconf' : (s.setIface 9).udcPtrConf = some udcDesc := hconf
  simp only [udcIfaceDisable, udcFind hnum hconf, hfind, hconf', Option.bind_eq_bind,
    Option.bind_some, Bool.true_eq_false, if_false]
  exact congrArg (fun r => r.bind fun r => some (r.1.udiHidGenericDisable, true)) hloop

/-- What an interface that is switched on leaves. -/
def enabled (s : Usb) : Usb :=
  let s := allocEntry 4 (allocEntry 3 (s.setIface 9))
  { armOut { s with rate := 0, protocol := 0, bReportInFree := true } with
    mainBGenericEnable := true }

/-- An interface with both endpoints free and no job can be switched on. -/
theorem udcIfaceEnable_eq (hnum : s.udcNumConfiguration ≠ 0)
    (hconf : s.udcPtrConf = some udcDesc) (hin : (s.epCtrl 3).type = .disable)
    (hout : (s.epCtrl 4).type = .disable) (hbusy : (s.epJob 2).busy = false) :
    udcIfaceEnable 0 0 s = some (s.enabled, true) := by
  have hloop := udcForEndpoints_eq (s := (s.setIface 9)) (n := 39) hconf
    (f := fun pos s => do
      uddEpAlloc (← udcDesc[pos + 2]?) (← udcDesc[pos + 3]?)
        (ofLe16 (← udcDesc[pos + 4]?) (← udcDesc[pos + 5]?)) s)
    (t := allocEntry 3 (s.setIface 9))
    (u := allocEntry 4 (allocEntry 3 (s.setIface 9)))
    (uddEpAlloc_eq (show uddEpGetCtrl udiHidGenericEpIn = some 3 from rfl) hin) hconf
    (uddEpAlloc_eq (show uddEpGetCtrl udiHidGenericEpOut = some 4 from rfl) hout) hconf
  have hrun := reportOutEnable_eq (s := { allocEntry 4 (allocEntry 3 (s.setIface 9))
    with rate := 0, protocol := 0, bReportInFree := true }) ⟨rfl, rfl, rfl, hbusy⟩ 1
  have hconf' : (s.setIface 9).udcPtrConf = some udcDesc := hconf
  simp only [udcIfaceEnable, udcFind hnum hconf, hconf', Option.bind_eq_bind,
    Option.bind_some, Bool.true_eq_false, if_false]
  refine (congrArg (fun r => r.bind fun r =>
    if r.2 = false then some (r.1, false) else r.1.udiHidGenericEnable) hloop).trans ?_
  simp only [Option.bind_some, Bool.true_eq_false, if_false, udiHidGenericEnable, hrun,
    Option.bind_eq_bind]
  rfl

/-- A setting that does not exist is not switched on. -/
theorem udcIfaceEnable_setting (hnum : s.udcNumConfiguration ≠ 0)
    (hconf : s.udcPtrConf = some udcDesc) {setting : UInt8} (hsetting : setting ≠ 0) :
    udcIfaceEnable 0 setting s = some (s.setIface 41, false) := by
  rw [udcIfaceEnable, udcUpdateIfaceDesc_eq fun _ => hconf]
  simp [hnum, hsetting]

/-- What `udc_reset` leaves. -/
def unconfigured (s : Usb) : Usb :=
  { (if s.udcNumConfiguration = 0 then s else s.disabled) with
    udcNumConfiguration := 0, udcDeviceStatus := 0 }

theorem udcIfaces_eq (hconf : s.udcPtrConf = some udcDesc) : udcIfaces s = some [0] := by
  rw [udcIfaces, hconf]
  rfl

theorem udcReset_eq (hconf : s.udcNumConfiguration ≠ 0 → s.udcPtrConf = some udcDesc) :
    udcReset s = some s.unconfigured := by
  by_cases hnum : s.udcNumConfiguration = 0
  · simp [udcReset, unconfigured, hnum]
  · have hdisable := udcIfaceDisable_eq hnum (hconf hnum)
    simp only [udcReset, unconfigured, hnum, ne_eq, not_false_eq_true, if_true, if_false,
      udcIfaces_eq (hconf hnum), udcForIfaces, Option.bind_eq_bind, Option.bind_some]
    simp [hdisable]

end Usb

end PowerMeterDisplay
